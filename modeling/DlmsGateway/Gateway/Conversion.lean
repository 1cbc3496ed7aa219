import DlmsGateway.Gateway.Run

/-!
# What one conversion can do

`Meter2GW_Frame_Convertor` has three outcomes: the format is not that of a
frame and nothing changes; a later check fails and only the classification is
kept; or the frame is accepted and delivered.  The facts about the globals that
the other modules need are stated once for each outcome.
-/
set_option autoImplicit false
namespace DlmsGateway

open ByteStore

namespace Buffer

/-- The start flag and the format type, the two checks made before the classification. -/
def FormatRight (hdlc : Buffer) : Prop := hdlc.rxByte 0 = 0x7E ∧ hdlc.rxByte 1 &&& 0xF0 = 0xA0

instance (hdlc : Buffer) : Decidable hdlc.FormatRight :=
  inferInstanceAs (Decidable (_ ∧ _))

/-- The received bytes have the layout of a frame, checksums apart. -/
def CarriesFrame (hdlc : Buffer) (f : MeterFrame) : Prop :=
  hdlc.FormatRight ∧ locateMeterFrame hdlc.rxByte = .ok f

/-- The frame passes every check of the converter. -/
def Accepted (hdlc : Buffer) (f : MeterFrame) : Prop :=
  hdlc.CarriesFrame f ∧ f.HcsRight hdlc.rxByte

def acceptedFrame (hdlc : Buffer) : Option MeterFrame :=
  match locateMeterFrame hdlc.rxByte with
  | .error _ => none
  | .ok f => if hdlc.FormatRight ∧ f.HcsRight hdlc.rxByte then some f else none

theorem acceptedFrame_eq_some {hdlc : Buffer} {f : MeterFrame} :
    hdlc.acceptedFrame = some f ↔ hdlc.Accepted f := by
  unfold acceptedFrame Accepted CarriesFrame
  cases located : locateMeterFrame hdlc.rxByte with
  | error code => simp
  | ok g =>
      simp only [Option.ite_none_right_eq_some, Option.some.injEq, Except.ok.injEq]
      constructor
      · rintro ⟨⟨format, hcs⟩, rfl⟩
        exact ⟨⟨format, rfl⟩, hcs⟩
      · rintro ⟨⟨format, rfl⟩, hcs⟩
        exact ⟨⟨format, hcs⟩, rfl⟩

theorem forall_accepted_iff {hdlc : Buffer} {P : MeterFrame → Prop} :
    (∀ f, hdlc.Accepted f → P f) ↔ ∀ f ∈ hdlc.acceptedFrame, P f := by
  simp only [Option.mem_def, acceptedFrame_eq_some]

theorem acceptedFrame_eq_none {hdlc : Buffer} (refused : ∀ f, ¬ hdlc.Accepted f) :
    hdlc.acceptedFrame = none := by
  cases accepted : hdlc.acceptedFrame with
  | none => rfl
  | some f => exact absurd (acceptedFrame_eq_some.mp accepted) (refused f)

/-- `Segment_bit` is set in the format field. -/
def Segmented (hdlc : Buffer) : Prop := hdlc.rxByte 1 &&& 0x08 = 0x08

instance (hdlc : Buffer) : Decidable hdlc.Segmented := inferInstanceAs (Decidable (_ = _))

end Buffer

/-! ## The error exits -/

theorem locateMeterFrame_error {rx : Nat → UInt8} {code : Int}
    (failed : locateMeterFrame rx = .error code) : code ≤ 0 := by
  unfold locateMeterFrame at failed
  simp only at failed
  split at failed
  · cases failed; decide
  split at failed
  · cases failed; decide
  split at failed
  · cases failed; decide
  split at failed
  · cases failed; decide
  · cases failed

theorem endOfAddress_bounds {rx : Nat → UInt8} {start size i : Nat}
    (found : endOfAddress rx start size = some i) : start ≤ i ∧ i < size := by
  have member := List.mem_of_find?_eq_some found
  rw [List.mem_range'_1] at member
  omega

theorem located_cases {rx : Nat → UInt8} {f : MeterFrame} (located : locateMeterFrame rx = .ok f) :
    let size := recDataSize rx
    let lastByte := (endOfAddress rx 3 size).getD 0
    endOfAddress rx (lastByte + 1) size = some f.addEnd ∧
      meterAddress rx lastByte f.addEnd = some (f.logAdd, f.phyAdd) ∧ f.addEnd + 7 ≤ size ∧
      f.size = size := by
  unfold locateMeterFrame at located
  simp only at located
  split at located
  · cases located
  split at located
  · cases located
  rename_i i found
  split at located
  · cases located
  rename_i logAdd phyAdd address
  split at located
  · cases located
  rename_i room
  cases located
  refine ⟨found, address, ?_, rfl⟩
  dsimp only
  omega

/-- A located frame has the size its length field says, 2049 at most. -/
theorem size_of_located {rx : Nat → UInt8} {f : MeterFrame}
    (located : locateMeterFrame rx = .ok f) : f.size = recDataSize rx :=
  (located_cases located).2.2.2

theorem recDataSize_mod (rx : Nat → UInt8) :
    recDataSize rx = (joinBytes (rx 1) (rx 2)).toNat % 2048 + 2 := by
  rw [recDataSize, UInt16.toNat_and]
  exact congrArg (· + 2) (Nat.and_two_pow_sub_one_eq_mod _ 11)

theorem recDataSize_le (rx : Nat → UInt8) : recDataSize rx ≤ 2049 := by
  rw [recDataSize_mod]
  omega

theorem dataLen_le_of_located {rx : Nat → UInt8} {f : MeterFrame}
    (located : locateMeterFrame rx = .ok f) : f.dataLen ≤ 2049 := by
  have size := size_of_located located
  have bound := recDataSize_le rx
  rw [MeterFrame.dataLen]
  omega

section Outcomes
variable (hdlc gw : Buffer) (g : Globals) (ctrl : CtrlByteStr)

theorem convertor_of_format_wrong (wrong : ¬ hdlc.FormatRight) :
    ∃ code, code < 0 ∧ meter2GwFrameConvertor hdlc gw g ctrl = ⟨code, gw, g, ctrl⟩ := by
  unfold meter2GwFrameConvertor
  by_cases start : hdlc.rxByte 0 = 0x7E
  · have format : hdlc.rxByte 1 &&& 0xF0 ≠ 0xA0 := fun right => wrong ⟨start, right⟩
    exact ⟨-8, by decide, by simp only [start, format, ne_eq, not_true, not_false_iff, if_true,
      if_false]⟩
  · exact ⟨-9, by decide, by simp only [start, ne_eq, not_false_iff, if_true]⟩

theorem convertor_of_format_right (right : hdlc.FormatRight) :
    meter2GwFrameConvertor hdlc gw g ctrl =
      match locateMeterFrame hdlc.rxByte with
      | .error code => ⟨code, gw, g.classify (hdlc.rxByte 1), ctrl⟩
      | .ok f =>
          if f.HcsRight hdlc.rxByte then deliver hdlc.rxByte f gw (g.classify (hdlc.rxByte 1)) ctrl
          else ⟨-6, gw, g.classify (hdlc.rxByte 1), ctrl⟩ := by
  unfold meter2GwFrameConvertor
  exact (if_neg (not_not_intro right.1)).trans (if_neg (not_not_intro right.2))

theorem convertor_of_hcs_wrong {f : MeterFrame} (carried : hdlc.CarriesFrame f)
    (wrong : ¬ f.HcsRight hdlc.rxByte) :
    meter2GwFrameConvertor hdlc gw g ctrl = ⟨-6, gw, g.classify (hdlc.rxByte 1), ctrl⟩ := by
  rw [convertor_of_format_right hdlc gw g ctrl carried.1, carried.2]
  exact if_neg wrong

theorem convertor_of_accepted {f : MeterFrame} (accepted : hdlc.Accepted f) :
    meter2GwFrameConvertor hdlc gw g ctrl =
      deliver hdlc.rxByte f gw (g.classify (hdlc.rxByte 1)) ctrl := by
  rw [convertor_of_format_right hdlc gw g ctrl accepted.1.1, accepted.1.2]
  exact if_pos accepted.2

theorem convertor_of_not_accepted (right : hdlc.FormatRight) (refused : ∀ f, ¬ hdlc.Accepted f) :
    ∃ code, code ≤ 0 ∧
      meter2GwFrameConvertor hdlc gw g ctrl = ⟨code, gw, g.classify (hdlc.rxByte 1), ctrl⟩ := by
  rw [convertor_of_format_right hdlc gw g ctrl right]
  cases located : locateMeterFrame hdlc.rxByte with
  | error code => exact ⟨code, locateMeterFrame_error located, rfl⟩
  | ok f =>
      have wrong : ¬ f.HcsRight hdlc.rxByte := fun hcs => refused f ⟨⟨right, located⟩, hcs⟩
      exact ⟨-6, by decide, if_neg wrong⟩

theorem convertor_cases :
    (¬ hdlc.FormatRight ∧
      ∃ code, code < 0 ∧ meter2GwFrameConvertor hdlc gw g ctrl = ⟨code, gw, g, ctrl⟩) ∨
    (hdlc.FormatRight ∧ (∀ f, ¬ hdlc.Accepted f) ∧ ∃ code, code ≤ 0 ∧
      meter2GwFrameConvertor hdlc gw g ctrl = ⟨code, gw, g.classify (hdlc.rxByte 1), ctrl⟩) ∨
    (∃ f, hdlc.Accepted f ∧ meter2GwFrameConvertor hdlc gw g ctrl =
      deliver hdlc.rxByte f gw (g.classify (hdlc.rxByte 1)) ctrl) := by
  by_cases right : hdlc.FormatRight
  · by_cases accepted : ∃ f, hdlc.Accepted f
    · obtain ⟨f, accepted⟩ := accepted
      exact .inr (.inr ⟨f, accepted, convertor_of_accepted hdlc gw g ctrl accepted⟩)
    · have refused : ∀ f, ¬ hdlc.Accepted f := fun f ok => accepted ⟨f, ok⟩
      exact .inr (.inl ⟨right, refused, convertor_of_not_accepted hdlc gw g ctrl right refused⟩)
  · exact .inl ⟨right, convertor_of_format_wrong hdlc gw g ctrl right⟩

end Outcomes

/-! ## The classification -/

section Classify
variable {g : Globals} {format : UInt8}

theorem classify_middle (bit : format &&& 0x08 = 0x08) :
    g.classify format = { g with segmentBit := .middleFrame, gwState := .segment } :=
  if_pos bit

theorem classify_last (bit : format &&& 0x08 ≠ 0x08) (midway : g.segmentBit = .middleFrame) :
    g.classify format = { g with segmentBit := .lastFrame, gwState := .waitForGetFrame } := by
  unfold Globals.classify
  rw [if_neg bit, if_pos midway]

theorem classify_single (bit : format &&& 0x08 ≠ 0x08) (fresh : g.segmentBit ≠ .middleFrame) :
    g.classify format =
      { g.clearBuffer with segmentBit := .singleFrame, gwState := .waitForGetFrame } := by
  unfold Globals.classify
  rw [if_neg bit, if_neg fresh]

theorem gwState_classify :
    (g.classify format).gwState =
      if format &&& 0x08 = 0x08 then .segment else .waitForGetFrame := by
  by_cases bit : format &&& 0x08 = 0x08
  · rw [classify_middle bit, if_pos bit]
  · by_cases midway : g.segmentBit = .middleFrame
    · rw [classify_last bit midway, if_neg bit]
    · rw [classify_single bit midway, if_neg bit]

theorem segmentBit_classify :
    (g.classify format).segmentBit =
      if format &&& 0x08 = 0x08 then .middleFrame
      else if g.segmentBit = .middleFrame then .lastFrame else .singleFrame := by
  by_cases bit : format &&& 0x08 = 0x08
  · rw [classify_middle bit, if_pos bit]
  · by_cases midway : g.segmentBit = .middleFrame
    · rw [classify_last bit midway, if_neg bit, if_pos midway]
    · rw [classify_single bit midway, if_neg bit, if_neg midway]

end Classify

/-! ## The delivery -/

section Deliver
variable (rx : Nat → UInt8) (f : MeterFrame) (gw : Buffer) (g : Globals) (ctrl : CtrlByteStr)

@[simp] theorem segmentBit_collect : (g.collect rx f).segmentBit = g.segmentBit := rfl

@[simp] theorem gwState_collect : (g.collect rx f).gwState = g.gwState := rfl

theorem deliver_middle (bit : g.segmentBit = .middleFrame) :
    deliver rx f gw g ctrl =
      ⟨0, gw.copyTx (f.hesFrame rx).get 5000, g.collect rx f, ctrl.advanceRrr⟩ := by
  simp only [deliver, segmentBit_collect, bit]

theorem deliver_single (bit : g.segmentBit = .singleFrame) :
    deliver rx f gw g ctrl =
      { ret := (f.prefixSize + f.apduLenReal : Nat)
        gw := { gw.copyTx (f.hesFrame rx).get 5000 with
          txCount := UInt32.ofNat (f.prefixSize + f.apduLenReal - 3) }
        globals := (g.collect rx f).clearBuffer
        ctrl := ctrl.advanceRrr } := by
  simp only [deliver, segmentBit_collect, bit]

theorem deliver_last (bit : g.segmentBit = .lastFrame) :
    deliver rx f gw g ctrl =
      let size := f.prefixSize + (g.collect rx f).lastByteBuffer.toNat
      { ret := size
        gw := { (gw.copyTx (f.hesFrame rx).get 5000).copyTx
            (f.hesFrameForLast rx (g.collect rx f)).get (size - 3) with
          txCount := UInt32.ofNat (size - 3) }
        globals := (g.collect rx f).clearBuffer
        ctrl := ctrl.advanceRrr } := by
  simp only [deliver, segmentBit_collect, bit]

theorem prefixSize_pos : 0 < f.prefixSize := by
  simp only [MeterFrame.prefixSize]
  omega

theorem ret_deliver :
    0 ≤ (deliver rx f gw g ctrl).ret ∧
      (0 < (deliver rx f gw g ctrl).ret ↔ g.segmentBit ≠ .middleFrame) := by
  have room := prefixSize_pos f
  cases bit : g.segmentBit with
  | singleFrame => simp only [deliver_single rx f gw g ctrl bit]; constructor <;> simp <;> omega
  | middleFrame => simp [deliver_middle rx f gw g ctrl bit]
  | lastFrame => simp only [deliver_last rx f gw g ctrl bit]; constructor <;> simp <;> omega

@[simp] theorem ctrl_deliver : (deliver rx f gw g ctrl).ctrl = ctrl.advanceRrr := by
  cases bit : g.segmentBit <;> simp only [deliver, segmentBit_collect, bit]

@[simp] theorem gwState_deliver : (deliver rx f gw g ctrl).globals.gwState = g.gwState := by
  cases bit : g.segmentBit <;>
    simp only [deliver, segmentBit_collect, gwState_collect, Globals.clearBuffer, bit]

@[simp] theorem segmentBit_deliver :
    (deliver rx f gw g ctrl).globals.segmentBit = g.segmentBit := by
  cases bit : g.segmentBit <;> simp only [deliver, segmentBit_collect, Globals.clearBuffer, bit]

end Deliver

theorem ret_convertor_pos {hdlc gw : Buffer} {g : Globals} {ctrl : CtrlByteStr}
    (positive : 0 < (meter2GwFrameConvertor hdlc gw g ctrl).ret) :
    ∃ f, hdlc.Accepted f ∧ ¬ hdlc.Segmented ∧ meter2GwFrameConvertor hdlc gw g ctrl =
      deliver hdlc.rxByte f gw (g.classify (hdlc.rxByte 1)) ctrl := by
  rcases convertor_cases hdlc gw g ctrl with
    ⟨-, code, sign, outcome⟩ | ⟨-, -, code, sign, outcome⟩ | ⟨f, accepted, outcome⟩
  · rw [outcome] at positive
    simp only at positive
    omega
  · rw [outcome] at positive
    simp only at positive
    omega
  · refine ⟨f, accepted, ?_, outcome⟩
    intro (segmented : hdlc.rxByte 1 &&& 0x08 = 0x08)
    rw [outcome, (ret_deliver _ _ _ _ _).2, segmentBit_classify, if_pos segmented] at positive
    exact positive rfl

end DlmsGateway
