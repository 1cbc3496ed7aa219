import DlmsGateway.Gateway.SentFrames
import DlmsGateway.Lib.Hdlc
import DlmsGateway.Server.HdlcAddress

/-!
# The frames of the DLMS stack

`dlms_getHdlcFrame` puts the next part of a PDU into a frame, a segment of the
PDU where it is too long.  What it writes is an HDLC segment whose length field
counts the bytes between the flags.
-/
set_option autoImplicit false
namespace DlmsGateway.HdlcLink

open Hdlc ByteStore BitFields

/-- The bytes of a `gxByteBuffer` and its position. -/
structure Pdu where
  bytes : List UInt8
  position : Nat
  inside : position ≤ bytes.length

def Pdu.available (d : Pdu) : List UInt8 := d.bytes.drop d.position

def Pdu.start (bytes : List UInt8) : Pdu := ⟨bytes, 0, Nat.zero_le _⟩

def withCheck (bytes : List UInt8) : List UInt8 :=
  bytes ++ [hiByte (crcOf bytes), loByte (crcOf bytes)]

namespace HdlcSettings
variable (s : HdlcSettings)

/-- Three bytes less for the first part of a PDU. -/
def frameSize (data : Option Pdu) : UInt16 :=
  match data with
  | none => s.maxInfoTX
  | some d => if d.position = 0 then s.maxInfoTX - 3 else s.maxInfoTX

/-- Is more left behind this frame, and what goes into it? -/
def nextPart (data : Option Pdu) : Bool × List UInt8 :=
  match data with
  | none => (false, [])
  | some d =>
      if d.bytes.length = 0 then (false, [])
      else if d.bytes.length - d.position ≤ (s.frameSize data).toNat then (false, d.available)
      else (true, d.available.take (s.frameSize data).toNat)

/-- Notifications of the server go to another client. -/
def clientAddressFor (frame : UInt8) : UInt16 :=
  if (frame = 0x13 ∨ frame = 0x3) ∧ s.pushClientAddress ≠ 0 then s.pushClientAddress
  else s.clientAddress

def primaryAddress (frame : UInt8) : UInt32 :=
  if s.server then (s.clientAddressFor frame).toUInt32 else s.serverAddress

def secondaryAddress : UInt32 := if s.server then s.serverAddress else s.clientAddress.toUInt32

def afterPart (d : Pdu) (len : Nat) : Pdu :=
  if s.server then Pdu.start (d.bytes.drop (d.position + len))
  else ⟨d.bytes, min (d.position + len) d.bytes.length, Nat.min_le_right _ _⟩

end HdlcSettings

structure Framed where
  settings : HdlcSettings
  reply : List UInt8
  data : Option Pdu

def frameBytes (more : Bool) (primaryAddress secondaryAddress : List UInt8) (frame : UInt8)
    (information : List UInt8) : List UInt8 :=
  let total := 7 + primaryAddress.length + secondaryAddress.length + information.length
  let format := (if more then 0xA8 else 0xA0) ||| (UInt8.ofNat (total / 256) &&& 0x7)
  let length :=
    if information = [] then UInt8.ofNat (5 + primaryAddress.length + secondaryAddress.length)
    else UInt8.ofNat total
  let header := withCheck ([format, length] ++ (primaryAddress ++ (secondaryAddress ++ [frame])))
  [0x7E] ++ ((if information = [] then header else withCheck (header ++ information)) ++ [0x7E])

/-- `dlms_getHdlcFrame`; the frame 0 is the next one to be sent. -/
def dlmsGetHdlcFrame (s : HdlcSettings) (frame : UInt8) (data : Option Pdu) :
    Except ErrorCode Framed :=
  match dlmsGetAddressBytes (s.primaryAddress frame), dlmsGetAddressBytes s.secondaryAddress with
  | some primaryAddress, some secondaryAddress =>
      let part := s.nextPart data
      let numbered := if frame = 0 then s.getNextSend true else (s, frame)
      .ok
        { settings := numbered.1
          reply := frameBytes part.1 primaryAddress secondaryAddress numbered.2 part.2
          data := data.map fun d => s.afterPart d part.2.length }
  | _, _ => .error .invalidParameter

/-! ## The bytes are a segment -/

theorem window_list (l : List UInt8) : window (ofList l) 0 l.length = l := by
  rw [window_eq_iff]
  intro k _
  rw [Nat.zero_add]

theorem withCheck_eq (bytes : List UInt8) : withCheck bytes = bytes ++ checkSequence bytes := by
  rw [withCheck, crcOf, checkBytes_eq, window_list]

/-- The format field carries eleven bits of the length. -/
theorem format_eq (more : Bool) (total : Nat) (short : total < 2048) :
    (if more then 0xA8 else 0xA0) ||| (UInt8.ofNat (total / 256) &&& 0x7) =
      UInt8.ofNat ((if more then 0xA8 else 0xA0) + total / 256) := by
  have length : (UInt8.ofNat (total / 256) &&& 0x7).toNat = total / 256 := by
    rw [UInt8.toNat_and, UInt8.toNat_ofNat']
    show total / 256 % 256 &&& 2 ^ 3 - 1 = _
    rw [Nat.and_two_pow_sub_one_eq_mod]
    omega
  rw [← UInt8.toNat_inj, UInt8.toNat_or, length, UInt8.toNat_ofNat']
  cases more with
  | false =>
      show 0xA0 ||| total / 256 = (0xA0 + total / 256) % 2 ^ 8
      rw [or_fields 3 (by decide) (by omega)]
      omega
  | true =>
      show 0xA8 ||| total / 256 = (0xA8 + total / 256) % 2 ^ 8
      rw [or_fields 3 (by decide) (by omega)]
      omega

theorem frameBytes_segment (f : SegmentFrame) (short : f.length < 2048)
    (addresses : f.destination.bytes.length + f.source.bytes.length ≤ 8) :
    frameBytes f.more f.destination.bytes f.source.bytes f.control f.information = f.bytes := by
  by_cases empty : f.information = []
  · have length : f.length = 5 + f.destination.bytes.length + f.source.bytes.length := by
      rw [SegmentFrame.length, if_pos empty]
      omega
    have format := format_eq f.more
      (7 + f.destination.bytes.length + f.source.bytes.length + f.information.length)
      (by rw [empty, List.length_nil]; omega)
    have high : (7 + f.destination.bytes.length + f.source.bytes.length +
        f.information.length) / 256 = f.length / 256 := by
      rw [empty, List.length_nil]
      omega
    rw [high] at format
    rw [frameBytes]
    simp only [high, format, if_pos empty, withCheck_eq]
    rw [SegmentFrame.bytes, SegmentFrame.body, if_pos empty, SegmentFrame.header, SegmentFrame.format, length]
    simp only [List.append_assoc]
  · have length : f.length =
        7 + f.destination.bytes.length + f.source.bytes.length + f.information.length := by
      rw [SegmentFrame.length, if_neg empty]
      omega
    rw [frameBytes]
    simp only [← length, format_eq f.more _ short, if_neg empty, withCheck_eq]
    rw [SegmentFrame.bytes, SegmentFrame.body, if_neg empty, SegmentFrame.header, SegmentFrame.format]
    simp only [List.append_assoc]

def segmentOf (s : HdlcSettings) (frame : UInt8) (data : Option Pdu) : SegmentFrame where
  more := (s.nextPart data).1
  destination := addressOf (s.primaryAddress frame)
  source := addressOf s.secondaryAddress
  control := if frame = 0 then (s.getNextSend true).2 else frame
  information := (s.nextPart data).2

/-- The addresses of the settings fit into HDLC addresses. -/
def HdlcSettings.Addressable (s : HdlcSettings) : Prop := s.serverAddress.toNat < 2 ^ 28

theorem toNat_addresses {s : HdlcSettings} (addressable : s.Addressable) (frame : UInt8) :
    (s.primaryAddress frame).toNat < 2 ^ 28 ∧ s.secondaryAddress.toNat < 2 ^ 28 := by
  have client := s.clientAddress.toNat_lt
  have target := (s.clientAddressFor frame).toNat_lt
  have server : s.serverAddress.toNat < 2 ^ 28 := addressable
  rw [HdlcSettings.primaryAddress, HdlcSettings.secondaryAddress]
  cases s.server
  · exact ⟨server, by rw [if_neg (by decide), UInt16.toNat_toUInt32]; omega⟩
  · exact ⟨by rw [if_pos rfl, UInt16.toNat_toUInt32]; omega, server⟩

theorem length_information_le (s : HdlcSettings) (data : Option Pdu) :
    (s.nextPart data).2.length ≤ (s.frameSize data).toNat := by
  cases data with
  | none => exact Nat.zero_le _
  | some d =>
      rw [HdlcSettings.nextPart]
      split
      · exact Nat.zero_le _
      · split
        · rw [Pdu.available, List.length_drop]
          assumption
        · exact List.length_take_le ..

/-- As long as a frame with this many bytes can say how long it is, a segment is written. -/
theorem dlmsGetHdlcFrame_eq {s : HdlcSettings} (addressable : s.Addressable) (frame : UInt8)
    (data : Option Pdu) (short : (s.frameSize data).toNat ≤ 2032) :
    dlmsGetHdlcFrame s frame data = .ok
      { settings := if frame = 0 then (s.getNextSend true).1 else s
        reply := (segmentOf s frame data).bytes
        data := data.map fun d => s.afterPart d (s.nextPart data).2.length } := by
  obtain ⟨primary, secondary⟩ := toNat_addresses addressable frame
  have information := length_information_le s data
  have target := length_addressOf (s.primaryAddress frame)
  have source := length_addressOf s.secondaryAddress
  have fits : (segmentOf s frame data).length < 2048 := by
    have parts : (segmentOf s frame data).length ≤ (addressOf (s.primaryAddress frame)).bytes.length +
        (addressOf s.secondaryAddress).bytes.length + 5 + ((s.nextPart data).2.length + 2) := by
      rw [SegmentFrame.length]
      apply Nat.add_le_add_left
      split
      · exact Nat.zero_le _
      · exact Nat.le_refl _
    omega
  have bytes := frameBytes_segment (segmentOf s frame data) fits (by
    show (addressOf (s.primaryAddress frame)).bytes.length +
      (addressOf s.secondaryAddress).bytes.length ≤ 8
    omega)
  rw [dlmsGetHdlcFrame, dlmsGetAddressBytes_of_lt primary, dlmsGetAddressBytes_of_lt secondary,
    ← bytes]
  by_cases next : frame = 0
  · simp only [if_pos next, segmentOf]
    rfl
  · simp only [if_neg next, segmentOf]
    rfl

end DlmsGateway.HdlcLink
