import DlmsGateway.Lib.BigEndian
import DlmsGateway.Gateway.Reassembly
import DlmsGateway.Gateway.SentFrames

/-!
# A reply in one frame

An HDLC frame with a client address of one byte and a meter address of two or
four is a frame of some `ReplyLink`, so that the converter accepts it; out of
an unsegmented one it makes the gateway frame with the same addresses.
-/
set_option autoImplicit false
namespace DlmsGateway

open ByteStore

/-! ## Frames of a link -/

theorem checkSequence_eq (l : List UInt8) :
    [hiByte (crcOf l), loByte (crcOf l)] = Hdlc.checkSequence l := by
  have whole : window (ofList l) 0 l.length = l := by
    rw [window_eq_iff]
    intro k _
    rw [Nat.zero_add]
  rw [crcOf, checkBytes_eq, whole]

namespace ReplyLink
variable {link : ReplyLink} {f : Hdlc.Frame}

structure Carries (link : ReplyLink) (f : Hdlc.Frame) : Prop where
  destination : f.destination.bytes = [UInt8.ofNat (2 * link.client.val + 1)]
  source : f.source.bytes = link.meter.bytes
  information : f.information ≠ []

theorem frameSize_of_carries (carries : link.Carries f) :
    link.frameSize f.information = f.length + 2 := by
  rw [Hdlc.Frame.length, carries.destination, carries.source, MeterAddress.length_bytes, frameSize,
    if_neg carries.information]
  simp only [List.length_cons, List.length_nil]
  omega

theorem iFrame_of_carries (carries : link.Carries f) :
    link.iFrame false f.control f.information = f.bytes := by
  have size := frameSize_of_carries carries
  have head : link.frameHead false (link.frameSize f.information - 2) f.control = f.header := by
    rw [size, Nat.add_sub_cancel, Hdlc.Frame.header, carries.destination, carries.source]
    rfl
  have body : f.body = f.header ++ (Hdlc.checkSequence f.header ++ f.information) :=
    if_neg carries.information
  rw [iFrame, head, checkSequence_eq, ← body, Hdlc.Frame.bytes, ← checkSequence_eq]
  rfl

end ReplyLink

/-! ## The link of a frame -/

theorem ofNat_half_even {b : UInt8} (even : b.toNat % 2 = 0) :
    UInt8.ofNat (2 * (b.toNat / 2)) = b := by
  rw [show 2 * (b.toNat / 2) = b.toNat by omega, UInt8.ofNat_toNat]

theorem ofNat_half_odd {b : UInt8} (odd : b.toNat % 2 = 1) :
    UInt8.ofNat (2 * (b.toNat / 2) + 1) = b := by
  rw [show 2 * (b.toNat / 2) + 1 = b.toNat by omega, UInt8.ofNat_toNat]

theorem half_lt (b : UInt8) : b.toNat / 2 < 128 := by
  have bound := b.toNat_lt
  omega

/-- Seven bits from each of two bytes. -/
def pairNumber (b c : UInt8) : Fin 16384 :=
  ⟨128 * (b.toNat / 2) + c.toNat / 2, by
    have high := half_lt b
    have low := half_lt c
    omega⟩

theorem exists_meterAddress {a : Hdlc.Address} (size : a.bytes.length = 2 ∨ a.bytes.length = 4) :
    ∃ meter : MeterAddress, meter.bytes = a.bytes ∧
      meter.logical.toNat = Hdlc.number a.upper ∧ meter.physical.toNat = Hdlc.number a.lower := by
  obtain ⟨front, last, even, odd⟩ := a
  simp only [Hdlc.Address.bytes, Hdlc.Address.upper, Hdlc.Address.lower, List.length_append,
    List.length_singleton] at size ⊢
  obtain one | three : front.length = 1 ∨ front.length = 3 := by omega
  · obtain ⟨b, rfl⟩ := List.length_eq_one_iff.mp one
    refine ⟨.short ⟨_, half_lt b⟩ ⟨_, half_lt last⟩, ?_, ?_, ?_⟩
    · simp only [MeterAddress.bytes, ofNat_half_even (even b (by simp)), ofNat_half_odd odd]
      rfl
    · simp only [MeterAddress.logical, UInt16.toNat_ofNat']
      have short := half_lt b
      simp
      omega
    · have short := half_lt last
      simp [MeterAddress.physical]
      omega
  · obtain ⟨b, c, d, rfl⟩ := List.length_eq_three.mp three
    have digits (x y : UInt8) : (pairNumber x y).val / 128 = x.toNat / 2 ∧
        (pairNumber x y).val % 128 = y.toNat / 2 := by
      have low := half_lt y
      simp only [pairNumber]
      omega
    refine ⟨.long (pairNumber b c) (pairNumber d last), ?_, ?_, ?_⟩
    · simp only [MeterAddress.bytes, digits, ofNat_half_even (even b (by simp)),
        ofNat_half_even (even c (by simp)), ofNat_half_even (even d (by simp)),
        ofNat_half_odd odd]
      rfl
    · have long := (pairNumber b c).isLt
      simp [MeterAddress.logical]
      rw [Nat.mod_eq_of_lt (by omega), pairNumber]
    · have long := (pairNumber d last).isLt
      simp [MeterAddress.physical]
      rw [Nat.mod_eq_of_lt (by omega), pairNumber]

theorem exists_carries {f : Hdlc.Frame} (destination : f.destination.bytes.length = 1)
    (source : f.source.bytes.length = 2 ∨ f.source.bytes.length = 4)
    (information : f.information ≠ []) :
    ∃ link : ReplyLink, link.Carries f ∧
      link.client.val = Hdlc.number f.destination.bytes ∧
      link.meter.logical.toNat = Hdlc.number f.source.upper ∧
      link.meter.physical.toNat = Hdlc.number f.source.lower := by
  obtain ⟨meter, bytes, logical, physical⟩ := exists_meterAddress source
  have single : f.destination.bytes = [f.destination.last] := by
    rw [Hdlc.Address.bytes, List.length_append, List.length_singleton] at destination
    have none_ : f.destination.front = [] := List.eq_nil_of_length_eq_zero (by omega)
    rw [Hdlc.Address.bytes, none_, List.nil_append]
  refine ⟨⟨⟨_, half_lt f.destination.last⟩, meter⟩, ⟨?_, bytes.symm, information⟩, ?_, logical,
    physical⟩
  · rw [single, ofNat_half_odd f.destination.ends]
  · rw [single, Hdlc.number_one]

/-! ## The conversion -/

/-- A physical address below 256 takes one byte, others two. -/
def physicalField (phyAdd : Nat) : List UInt8 :=
  if phyAdd < 256 then [1] ++ BigEndian.encode 1 phyAdd else [2] ++ BigEndian.encode 2 phyAdd

/-- The gateway frame that carries `payload`, with the addresses of the meter's frame and the
number `length` in its length field. -/
def gatewayReply (f : Hdlc.Frame) (payload : List UInt8) (length : Nat) : List UInt8 :=
  [0x00, 0x01] ++ BigEndian.encode 2 (Hdlc.number f.source.upper) ++
    BigEndian.encode 2 (Hdlc.number f.destination.bytes) ++ BigEndian.encode 2 length ++
    [0xE7, 0x00] ++ physicalField (Hdlc.number f.source.lower) ++ payload

theorem encode_two (n : Nat) :
    BigEndian.encode 2 n = [hiByte (UInt16.ofNat n), loByte (UInt16.ofNat n)] := by
  have high : hiByte (UInt16.ofNat n) = UInt8.ofNat (n / 256) := by
    apply UInt8.toNat_inj.mp
    rw [toNat_hiByte, UInt16.toNat_ofNat', UInt8.toNat_ofNat']
    omega
  have low : loByte (UInt16.ofNat n) = UInt8.ofNat n := by
    apply UInt8.toNat_inj.mp
    rw [toNat_loByte, UInt16.toNat_ofNat', UInt8.toNat_ofNat']
    omega
  rw [high, low]
  simp [BigEndian.encode]

theorem physicalField_toNat (phyAdd : UInt16) :
    physicalField phyAdd.toNat =
      if phyAdd < 256 then [1, loByte phyAdd] else [2, hiByte phyAdd, loByte phyAdd] := by
  have small : phyAdd < 256 ↔ phyAdd.toNat < 256 := UInt16.lt_iff_toNat_lt
  rw [physicalField, encode_two, UInt16.ofNat_toNat]
  simp [BigEndian.encode, small, loByte]

theorem encode_client (client : Fin 128) :
    BigEndian.encode 2 client.val = [0, UInt8.ofNat client.val] := by
  have short := client.isLt
  have high : client.val / 256 = 0 := by omega
  simp [BigEndian.encode, high]

theorem gatewayFrame_eq {link : ReplyLink} {f : Hdlc.Frame}
    (client : link.client.val = Hdlc.number f.destination.bytes)
    (logical : link.meter.logical.toNat = Hdlc.number f.source.upper)
    (physical : link.meter.physical.toNat = Hdlc.number f.source.lower) (payload : List UInt8) :
    link.gatewayFrame payload =
      gatewayReply f payload ((link.gatewayFrame payload).length - 8) := by
  rw [gatewayReply, link.length_gatewayFrame, ← client, ← logical, ← physical, encode_client,
    physicalField_toNat, encode_two, encode_two, UInt16.ofNat_toNat]
  rfl

section Single
variable {link : ReplyLink} {control : UInt8} {apdu : List UInt8} {hdlc : Buffer} (gw : Buffer)
  {g : Globals} (ctrl : CtrlByteStr)

theorem converted_single
    (holds : hdlc.Holds (link.iFrame false control ([0xE6, 0xE7, 0x00] ++ apdu)))
    (fits : link.frameSize ([0xE6, 0xE7, 0x00] ++ apdu) ≤ 2048)
    (fresh : g.segmentBit ≠ .middleFrame) :
    let c := meter2GwFrameConvertor hdlc gw g ctrl
    0 < c.ret ∧ c.gw.txCount.toNat ≤ 2048 ∧
      window c.gw.tx.get 0 c.gw.txCount.toNat = link.gatewayFrame apdu ∧
      (c.globals.bufferData = Bytes.zero ∧ c.globals.lastByteBuffer = 0) ∧
      c.ctrl = ctrl.advanceRrr := by
  obtain ⟨accepted, bit, -⟩ := ReplyLink.accepted_iFrame holds fits
  have clear : hdlc.rxByte 1 &&& 0x08 ≠ 0x08 := fun set => Bool.false_ne_true (bit.mp set)
  have outgoing : (meter2GwFrameConvertor hdlc gw g ctrl).gw.outgoing = link.gatewayFrame apdu :=
    single_reply_delivered (s := ⟨gw, g, ctrl⟩) holds fits fresh
  have inside : (meter2GwFrameConvertor hdlc gw g ctrl).gw.txCount.toNat ≤ 2048 := by
    have count := congrArg List.length outgoing
    have bounds := prefixSize_le (link.located [])
    have addressed : 2 ≤ link.meter.size := by cases link.meter <;> simp [MeterAddress.size]
    rw [link.length_gatewayFrame, Buffer.outgoing, length_window] at count
    simp only [ReplyLink.frameSize, List.length_append, List.length_cons, List.length_nil] at fits
    omega
  have sent : window (meter2GwFrameConvertor hdlc gw g ctrl).gw.tx.get 0
      (meter2GwFrameConvertor hdlc gw g ctrl).gw.txCount.toNat = link.gatewayFrame apdu := by
    rw [← outgoing, Buffer.outgoing]
    apply window_congr
    intro k bound
    rw [Buffer.byteAt, if_pos (by omega)]
  refine ⟨?_, inside, sent, ?_⟩
  · rw [convertor_of_accepted hdlc gw g ctrl accepted, classify_single clear fresh]
    exact (ret_deliver _ _ _ _ _).2.mpr SegmentBit.noConfusion
  · rw [convertor_of_accepted hdlc gw g ctrl accepted, classify_single clear fresh,
      deliver_single _ _ _ _ _ rfl]
    exact ⟨⟨rfl, rfl⟩, rfl⟩

end Single

/-- What a reply with the information field `E6 E7 00` and `payload` is converted to. -/
structure ReplyConverted (f : Hdlc.Frame) (payload : List UInt8) (rrr : UInt8) (c : Conversion) :
    Prop where
  returned : 0 < c.ret
  inside : c.gw.txCount.toNat ≤ 2048
  frame : window c.gw.tx.get 0 c.gw.txCount.toNat =
    gatewayReply f payload (c.gw.txCount.toNat - 8)
  emptied : c.globals.bufferData = Bytes.zero ∧ c.globals.lastByteBuffer = 0
  counted : rrr.toNat < 8 → c.ctrl.rrr.toNat = (rrr.toNat + 1) % 8

/-- What follows the frame in `RX` does not matter. -/
theorem single_frame_converted (f : Hdlc.Frame) (payload : List UInt8) (hdlc gw : Buffer)
    (g : Globals) (ctrl : CtrlByteStr) (destination : f.destination.bytes.length = 1)
    (source : f.source.bytes.length = 2 ∨ f.source.bytes.length = 4)
    (information : f.information = [0xE6, 0xE7, 0x00] ++ payload)
    (size : f.bytes.length ≤ 2048) (holds : hdlc.Holds f.bytes)
    (fresh : g.segmentBit ≠ .middleFrame) :
    ReplyConverted f payload ctrl.rrr (meter2GwFrameConvertor hdlc gw g ctrl) := by
  obtain ⟨link, carries, client, logical, physical⟩ :=
    exists_carries destination source (by simp [information])
  rw [← ReplyLink.iFrame_of_carries carries, information] at holds
  have fits := ReplyLink.frameSize_of_carries carries
  rw [← Hdlc.Frame.length_bytes, information] at fits
  obtain ⟨returned, inside, frame, emptied, counted⟩ :=
    converted_single gw ctrl holds (fits ▸ size) fresh
  refine ⟨returned, inside, ?_, emptied, ?_⟩
  · have count := congrArg List.length frame
    rw [length_window] at count
    rw [frame, count]
    exact gatewayFrame_eq client logical physical payload
  · intro small
    rw [counted]
    exact toNat_nextNumber (Nat.mod_eq_of_lt small).symm

/-- The meter 1/17 answers the client 16. -/
def shortReply : Hdlc.Frame where
  destination := .ofNumber 16
  source := meterAddressOf 2 1 17
  control := 0x30
  information := [0xE6, 0xE7, 0x00, 0xC4, 0x01]

theorem short_reply_converted :
    ReplyConverted shortReply [0xC4, 0x01] 7
      (meter2GwFrameConvertor (Buffer.empty.receive shortReply.bytes) .empty
        cleanConverter.globals ⟨7, 1, 0x10⟩) :=
  single_frame_converted shortReply [0xC4, 0x01] (Buffer.empty.receive shortReply.bytes) .empty
    cleanConverter.globals ⟨7, 1, 0x10⟩ (by decide) (by decide) rfl (by decide +kernel)
    (by decide +kernel) (by decide)

end DlmsGateway
