import Mathlib.Data.List.Forall2
import DlmsGateway.Lib.Runs
import DlmsGateway.Gateway.MeterFrames

/-!
# Reassembly of a segmented reply

A reply is sent as one or more I-frames, with the segmentation bit in all but
the last.  The run of the converter over these frames is determined by the
bytes it collects: three bytes fewer than each frame carries, and three more
are cut off at the end.  A reply in one frame comes out right, because there
these three bytes are the LLC header.
-/
set_option autoImplicit false
namespace DlmsGateway

open ByteStore

/-- What the converter keeps from one call to the next, and what it writes to. -/
structure Converter where
  gw : Buffer
  globals : Globals
  ctrl : CtrlByteStr

def convertNext (s : Converter) (hdlc : Buffer) : Converter :=
  let c := meter2GwFrameConvertor hdlc s.gw s.globals s.ctrl
  { gw := c.gw, globals := c.globals, ctrl := c.ctrl }

structure Segment where
  control : UInt8
  info : List UInt8

namespace ReplyLink
variable (link : ReplyLink)

/-- The frames of a reply: the segmentation bit is set in all but the last. -/
def frames : List Segment → List (List UInt8)
  | [] => []
  | [s] => [link.iFrame false s.control s.info]
  | s :: t :: rest => link.iFrame true s.control s.info :: frames (t :: rest)

/-- The gateway frame that carries `apdu` from the meter to the client. -/
def gatewayFrame (apdu : List UInt8) : List UInt8 :=
  let f := link.located apdu
  f.gatewayPrefix (UInt16.ofNat (f.prefixSize + apdu.length - 8)) ++ apdu

/-- The gateway frame that the converter makes out of `data` after the last segment. -/
def convertedFrame (data : List UInt8) : List UInt8 :=
  (link.gatewayFrame data).take ((link.gatewayFrame data).length - 3)

theorem length_gatewayFrame (apdu : List UInt8) :
    (link.gatewayFrame apdu).length = (link.located []).prefixSize + apdu.length := by
  rw [gatewayFrame, List.length_append, length_gatewayPrefix]
  rfl

end ReplyLink

/-! ## One frame -/

section Step
variable {link : ReplyLink} {control : UInt8} {info : List UInt8} {hdlc : Buffer} {s : Converter}

theorem convertNext_of_accepted {f : MeterFrame} (accepted : hdlc.Accepted f) :
    convertNext s hdlc =
      let c := deliver hdlc.rxByte f s.gw (s.globals.classify (hdlc.rxByte 1)) s.ctrl
      { gw := c.gw, globals := c.globals, ctrl := c.ctrl } := by
  simp only [convertNext, convertor_of_accepted hdlc s.gw s.globals s.ctrl accepted]

theorem dataLen_located (link : ReplyLink) (info : List UInt8) :
    (link.located info).dataLen = info.length - 3 := by
  simp only [MeterFrame.dataLen, MeterFrame.dataStart, ReplyLink.located, ReplyLink.frameSize]
  omega

theorem convertNext_middle (holds : hdlc.Holds (link.iFrame true control info))
    (fits : link.frameSize info ≤ 2048)
    (room : s.globals.lastByteBuffer.toNat + (info.length - 3) ≤ 8152) :
    (convertNext s hdlc).globals.segmentBit = .middleFrame ∧
      (convertNext s hdlc).globals.collected = s.globals.collected ++ info.drop 3 := by
  obtain ⟨accepted, bit, data⟩ := ReplyLink.accepted_iFrame holds fits
  have segmented : hdlc.rxByte 1 &&& 0x08 = 0x08 := bit.mpr rfl
  rw [convertNext_of_accepted accepted, classify_middle segmented,
    deliver_middle _ _ _ _ _ rfl]
  refine ⟨rfl, ?_⟩
  rw [← data]
  exact collected_collect _ _ { s.globals with segmentBit := .middleFrame, gwState := .segment }
    (by rw [dataLen_located]; exact room)

/-- The last segment hands over what was collected, three bytes short. -/
theorem convertNext_last (holds : hdlc.Holds (link.iFrame false control info))
    (fits : link.frameSize info ≤ 2048) (midway : s.globals.segmentBit = .middleFrame)
    (room : (link.gatewayFrame (s.globals.collected ++ info.drop 3)).length ≤ 2051) :
    (convertNext s hdlc).gw.outgoing =
      link.convertedFrame (s.globals.collected ++ info.drop 3) := by
  obtain ⟨accepted, bit, data⟩ := ReplyLink.accepted_iFrame holds fits
  have clear : hdlc.rxByte 1 &&& 0x08 ≠ 0x08 := fun set => Bool.false_ne_true (bit.mp set)
  have bounds := prefixSize_le (link.located info)
  have length := link.length_gatewayFrame (s.globals.collected ++ info.drop 3)
  have size : (s.globals.collected ++ info.drop 3).length =
      s.globals.lastByteBuffer.toNat + (info.length - 3) := by
    simp
  rw [convertNext_of_accepted accepted, classify_last clear midway]
  generalize same : ({ s.globals with segmentBit := .lastFrame, gwState := .waitForGetFrame } :
    Globals) = g
  have lastBit : g.segmentBit = .lastFrame := by rw [← same]
  have counted : g.lastByteBuffer = s.globals.lastByteBuffer := by rw [← same]
  have before : g.collected = s.globals.collected := by rw [← same]; rfl
  have space : g.lastByteBuffer.toNat + (link.located info).dataLen ≤ 8152 := by
    rw [dataLen_located, counted]
    omega
  have total : (link.located info).prefixSize = (link.located []).prefixSize := rfl
  have after := toNat_lastByteBuffer_collect hdlc.rxByte (link.located info) g space
  rw [dataLen_located, counted, ← size] at after
  simp only
  rw [outgoing_last _ _ _ _ _ lastBit (by omega), after, collected_collect _ _ _ space, before,
    data, ReplyLink.convertedFrame, length]
  rfl

theorem single_reply_delivered {apdu : List UInt8}
    (holds : hdlc.Holds (link.iFrame false control ([0xE6, 0xE7, 0x00] ++ apdu)))
    (fits : link.frameSize ([0xE6, 0xE7, 0x00] ++ apdu) ≤ 2048)
    (fresh : s.globals.segmentBit ≠ .middleFrame) :
    (convertNext s hdlc).gw.outgoing = link.gatewayFrame apdu := by
  obtain ⟨accepted, bit, data⟩ := ReplyLink.accepted_iFrame holds fits
  have clear : hdlc.rxByte 1 &&& 0x08 ≠ 0x08 := fun set => Bool.false_ne_true (bit.mp set)
  have bounds := prefixSize_le (link.located ([0xE6, 0xE7, 0x00] ++ apdu))
  have real : (link.located ([0xE6, 0xE7, 0x00] ++ apdu)).apduLenReal = apdu.length + 3 := by
    simp only [MeterFrame.apduLenReal, ReplyLink.located, ReplyLink.frameSize, List.length_append,
      List.length_cons, List.length_nil]
    omega
  have room : apdu.length + 15 ≤ 2048 := by
    have addressed : 2 ≤ link.meter.size := by cases link.meter <;> simp [MeterAddress.size]
    simp only [ReplyLink.frameSize, List.length_append, List.length_cons, List.length_nil] at fits
    omega
  rw [convertNext_of_accepted accepted, classify_single clear fresh]
  dsimp only
  rw [outgoing_single _ _ _ _ _ rfl (by omega), List.take_of_length_le, data, real]
  · have lengthField : apdu.length + 3 + (link.located apdu).addLen =
        (link.located apdu).prefixSize + apdu.length - 8 := by
      rw [MeterFrame.prefixSize]
      omega
    exact congrArg (fun len => (link.located apdu).gatewayPrefix (UInt16.ofNat len) ++ apdu)
      lengthField
  · rw [List.length_append, length_gatewayPrefix, length_data, dataLen_eq]
    omega

end Step

/-! ## All frames of a reply -/

theorem outgoing_of_frames (link : ReplyLink) : ∀ (segments : List Segment)
    (received : List Buffer) (s : Converter), segments ≠ [] →
    s.globals.segmentBit = .middleFrame ∨ 2 ≤ segments.length →
    List.Forall₂ Buffer.Holds received (link.frames segments) →
    (∀ segment ∈ segments, link.frameSize segment.info ≤ 2048) →
    (link.gatewayFrame (s.globals.collected ++ segments.flatMap fun segment =>
      segment.info.drop 3)).length ≤ 2051 →
    (Runs.run convertNext s received).gw.outgoing =
      link.convertedFrame (s.globals.collected ++ segments.flatMap fun segment =>
        segment.info.drop 3) := by
  intro segments
  induction segments with
  | nil => intro received s nonempty; exact absurd rfl nonempty
  | cons segment rest ih =>
      intro received s _ midway carried fits room
      have segmentFits := fits segment (List.mem_cons_self ..)
      cases rest with
      | nil =>
          have started : s.globals.segmentBit = .middleFrame := by
            rcases midway with started | several
            · exact started
            · simp at several
          obtain ⟨hdlc, others, holds, none, rfl⟩ := List.forall₂_cons_right_iff.mp carried
          obtain rfl := List.forall₂_nil_right_iff.mp none
          simp only [List.flatMap_cons, List.flatMap_nil, List.append_nil] at room ⊢
          exact convertNext_last holds segmentFits started room
      | cons next rest =>
          obtain ⟨hdlc, others, holds, later, rfl⟩ := List.forall₂_cons_right_iff.mp carried
          rw [List.flatMap_cons, ← List.append_assoc] at room ⊢
          have bounds := prefixSize_le (link.located [])
          have space : s.globals.lastByteBuffer.toNat + (segment.info.length - 3) ≤ 8152 := by
            rw [link.length_gatewayFrame] at room
            simp only [List.length_append, length_collected, List.length_drop] at room
            omega
          obtain ⟨bit, collected⟩ := convertNext_middle holds segmentFits space
          rw [← collected] at room ⊢
          exact ih others (convertNext s hdlc) (List.cons_ne_nil _ _) (.inl bit) later
            (fun other member => fits other (List.mem_cons_of_mem _ member)) room

theorem length_dropped_le (segments : List Segment) :
    (segments.flatMap fun segment => segment.info.drop 3).length ≤
        (segments.flatMap Segment.info).length ∧
      (segments.flatMap Segment.info ≠ [] →
        (segments.flatMap fun segment => segment.info.drop 3).length <
          (segments.flatMap Segment.info).length) := by
  induction segments with
  | nil => simp
  | cons segment rest ih =>
      simp only [List.flatMap_cons, List.length_append, List.length_drop]
      refine ⟨by omega, ?_⟩
      intro nonempty
      by_cases empty : segment.info = []
      · have later := ih.2 (by simpa [empty] using nonempty)
        rw [empty, List.length_nil]
        omega
      · have some_ := List.length_pos_iff.mpr empty
        omega

/-- However a reply is split into several frames, what is handed over is not the gateway frame
that carries it. -/
theorem segmented_reply_not_delivered (link : ReplyLink) (apdu : List UInt8)
    (segments : List Segment) (received : List Buffer) (s : Converter)
    (several : 2 ≤ segments.length)
    (split : segments.flatMap Segment.info = [0xE6, 0xE7, 0x00] ++ apdu)
    (carried : List.Forall₂ Buffer.Holds received (link.frames segments))
    (fits : ∀ segment ∈ segments, link.frameSize segment.info ≤ 2048)
    (room : (link.gatewayFrame apdu).length ≤ 2048) (clean : s.globals.Clean) :
    (Runs.run convertNext s received).gw.outgoing ≠ link.gatewayFrame apdu := by
  intro delivered
  have started := collected_of_clean clean
  have nonempty : segments ≠ [] := by
    intro empty
    simp [empty] at several
  have shorter := (length_dropped_le segments).2 (by simp [split])
  have splitLength : (segments.flatMap Segment.info).length = apdu.length + 3 := by
    rw [split]
    simp
  rw [link.length_gatewayFrame] at room
  have run := outgoing_of_frames link segments received s nonempty (.inr several) carried fits
    (by rw [started, List.nil_append, link.length_gatewayFrame]; omega)
  have lengths := congrArg List.length (run.symm.trans delivered)
  have bounds := prefixSize_le (link.located [])
  rw [started, List.nil_append, ReplyLink.convertedFrame, List.length_take,
    link.length_gatewayFrame, link.length_gatewayFrame] at lengths
  omega

section TwoSegments

def meterLink : ReplyLink := ⟨16, .short 1 17⟩

def twoSegments : List Segment :=
  [⟨0x30, [0xE6, 0xE7, 0x00, 0xC4, 0x01]⟩, ⟨0x32, [0x81, 0x00, 0x05, 0x06]⟩]

def receivedSegments : List Buffer := (meterLink.frames twoSegments).map Buffer.empty.receive

theorem receivedSegments_hold :
    List.Forall₂ Buffer.Holds receivedSegments (meterLink.frames twoSegments) :=
  .cons (by decide +kernel) (.cons (by decide +kernel) .nil)

def cleanConverter : Converter :=
  { gw := Buffer.empty
    globals := ⟨.responseForMdm, .singleFrame, Bytes.zero, 0⟩
    ctrl := ⟨0, 1, 0x10⟩ }

theorem two_segments_not_delivered :
    (Runs.run convertNext cleanConverter receivedSegments).gw.outgoing ≠
      meterLink.gatewayFrame [0xC4, 0x01, 0x81, 0x00, 0x05, 0x06] :=
  segmented_reply_not_delivered meterLink [0xC4, 0x01, 0x81, 0x00, 0x05, 0x06] twoSegments
    receivedSegments cleanConverter (by decide) (by decide) receivedSegments_hold (by decide)
    (by decide) ⟨by decide, rfl⟩

/-- Of the six bytes of this reply the gateway hands over none, after a prefix that announces
six. -/
theorem segmented_reply_truncated :
    ¬ ∀ (link : ReplyLink) (apdu : List UInt8) (segments : List Segment)
      (received : List Buffer) (s : Converter), 2 ≤ segments.length →
      segments.flatMap Segment.info = [0xE6, 0xE7, 0x00] ++ apdu →
      List.Forall₂ Buffer.Holds received (link.frames segments) →
      (∀ segment ∈ segments, link.frameSize segment.info ≤ 2048) →
      (link.gatewayFrame apdu).length ≤ 2048 → s.globals.Clean →
      (Runs.run convertNext s received).gw.outgoing = link.gatewayFrame apdu := by
  intro always
  have delivered := always meterLink [0xC4, 0x01, 0x81, 0x00, 0x05, 0x06] twoSegments
    receivedSegments cleanConverter (by decide) (by decide) receivedSegments_hold (by decide)
    (by decide) ⟨by decide, rfl⟩
  have handed : (Runs.run convertNext cleanConverter receivedSegments).gw.outgoing =
      [0, 1, 0, 1, 0, 16, 0, 7, 0xE7, 0, 1, 17] := by
    decide +kernel
  rw [handed] at delivered
  revert delivered
  decide

end TwoSegments
end DlmsGateway
