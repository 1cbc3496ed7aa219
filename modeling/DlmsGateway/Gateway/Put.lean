import DlmsGateway.Gateway.Phases
import DlmsGateway.Gateway.Sent

/-!
# The frames an iteration puts

In four states an iteration may put a frame in `HDLC_STRUCT->TX`: it does so
when the generator of that state succeeds.  Each case says what the frame
carries and what becomes of the counters; without a frame, and outside
`RESPONSE_FOR_MDM`, the counters stay.
-/
set_option autoImplicit false
namespace DlmsGateway

open ByteStore

inductive Put where
  | snrm
  | information
  | receiveReady
  | disc
deriving DecidableEq, Repr

namespace GwRun

/-- The counters with the control byte that `INFORMATION_FRAME` and `SEGMENT` store first. -/
def withControl (s : GwRun) (frameType : FrameType) : CtrlByteStr :=
  { s.ctrl with ctrlByte := controlByte s.ctrl.rrr s.ctrl.sss frameType }

/-- The frame that the next iteration puts, if any. -/
def puts (s : GwRun) : Option Put :=
  let hdlc := s.clearHdlcRxCount.hdlc
  match s.globals.gwState with
  | .snrmRequest => if (gw2HdlcSnrmGenerator s.gwTmp hdlc).1 = 1 then some .snrm else none
  | .informationFrame =>
      if 0 < (gw2HdlcFrameConvertor s.gwTmp hdlc (s.withControl .information)).1 then
        some .information
      else none
  | .segment =>
      if (gw2HdlcPollForRemainedData s.gwTmp hdlc (s.withControl .receiveReady).ctrlByte).1 = 1 then
        some .receiveReady
      else none
  | .discRequest => if (gw2HdlcDiscGenerator s.gwTmp hdlc).1 = 1 then some .disc else none
  | _ => none

def numbers (s : GwRun) : UInt8 × UInt8 := (s.ctrl.rrr, s.ctrl.sss)

section Puts
variable {s : GwRun} (now : Timeval)

theorem state_of_puts {put : Put} (some_ : s.puts = some put) :
    s.globals.gwState =
      match put with
      | .snrm => .snrmRequest
      | .information => .informationFrame
      | .receiveReady => .segment
      | .disc => .discRequest := by
  unfold puts at some_
  cases state : s.globals.gwState <;> rw [state] at some_ <;> dsimp only at some_ <;>
    first
      | cases some_
      | (split at some_ <;> cases some_; rfl)

theorem controlFrame_of_ret {gw hdlc : Buffer} {logical : UInt16} {control : UInt8} {α : Type}
    {success failure : α} (differ : success ≠ failure)
    (ok : (match controlFrame gw hdlc logical control with
      | some framed => (success, framed)
      | none => (failure, hdlc)).1 = success) :
    ∃ framed, controlFrame gw hdlc logical control = some framed := by
  cases framed : controlFrame gw hdlc logical control with
  | none =>
      rw [framed] at ok
      exact absurd ok.symm differ
  | some b => exact ⟨b, rfl⟩

theorem meterAddressField_eq {gw : Buffer} {dstSize : Nat} {phyAdd : UInt16}
    (accepted : gw.dstSizeAndPhyAdd = some (dstSize, phyAdd)) :
    addressField dstSize gw.logicalAddress phyAdd = gw.meterAddressField := by
  rw [Buffer.meterAddressField, accepted]

theorem step_snrm (put : s.puts = some .snrm) :
    (s.step now).numbers = (0, 0) ∧ (s.step now).globals.gwState = .snrmResponse ∧
      (s.step now).gwTmp = s.gwTmp ∧ (s.step now).rlrqFlag = s.rlrqFlag ∧
      (s.step now).hdlc.sentAddress = s.gwTmp.meterAddressField ∧
      (s.step now).hdlc.rxCount = 0 := by
  have state := state_of_puts put
  simp only [puts, state, Option.ite_none_right_eq_some] at put
  obtain ⟨framed, made⟩ := controlFrame_of_ret (by decide) put.1
  obtain ⟨dstSize, phyAdd, accepted, address, -, count, -⟩ := controlFrame_sent made
  have ret : gw2HdlcSnrmGenerator s.gwTmp s.clearHdlcRxCount.hdlc = (1, framed) := by
    rw [gw2HdlcSnrmGenerator, made]
  have stepped : s.step now =
      { s.clearHdlcRxCount with
        hdlc := framed, ctrl := ⟨0, 0, 0⟩, timeoutStart := now }.setState .snrmResponse := by
    simp only [step, state, snrmRequest]
    rw [gwTmp_clearHdlcRxCount, ret]
    rfl
  rw [stepped]
  exact ⟨rfl, rfl, rfl, rfl, address.trans (meterAddressField_eq accepted), count⟩

theorem step_information (put : s.puts = some .information) :
    (s.step now).numbers = (s.ctrl.rrr, nextNumber s.ctrl.sss) ∧
      (s.step now).globals.gwState = .response ∧
      (s.step now).gwTmp = s.gwTmp ∧ (s.step now).rlrqFlag = s.rlrqFlag ∧
      (s.step now).hdlc.sentAddress = s.gwTmp.meterAddressField ∧
      (s.step now).hdlc.sentControl = controlByte s.ctrl.rrr s.ctrl.sss .information := by
  have state := state_of_puts put
  simp only [puts, state, Option.ite_none_right_eq_some] at put
  rcases frameConvertor_cases s.gwTmp s.clearHdlcRxCount.hdlc (s.withControl .information) with
    ⟨ret, negative, outcome⟩ | ⟨framed, outcome, address, control, -, -⟩
  · have positive := put.1
    rw [outcome] at positive
    dsimp only at positive
    omega
  · have stepped : s.step now =
        { s.clearHdlcRxCount with
          hdlc := framed
          ctrl := { s.withControl .information with sss := nextNumber s.ctrl.sss }
          timeoutStart := now }.setState .response := by
      simp only [step, state, informationFrame]
      rw [gwTmp_clearHdlcRxCount, ctrl_clearHdlcRxCount]
      unfold withControl at outcome
      rw [outcome]
      rfl
    rw [stepped]
    exact ⟨rfl, rfl, rfl, rfl, address, control⟩

theorem step_receiveReady (put : s.puts = some .receiveReady) :
    (s.step now).numbers = s.numbers ∧ (s.step now).globals.gwState = .response ∧
      (s.step now).gwTmp = s.gwTmp ∧ (s.step now).rlrqFlag = s.rlrqFlag ∧
      (s.step now).hdlc.sentAddress = s.gwTmp.meterAddressField ∧
      (s.step now).hdlc.sentControl = controlByte s.ctrl.rrr s.ctrl.sss .receiveReady := by
  have state := state_of_puts put
  simp only [puts, state, Option.ite_none_right_eq_some] at put
  obtain ⟨framed, made⟩ := controlFrame_of_ret (by decide) put.1
  obtain ⟨dstSize, phyAdd, accepted, address, control, -, -⟩ := controlFrame_sent made
  have ret : gw2HdlcPollForRemainedData s.gwTmp s.clearHdlcRxCount.hdlc
      (s.withControl .receiveReady).ctrlByte = (1, framed) := by
    rw [gw2HdlcPollForRemainedData, made]
  have stepped : s.step now =
      { s.clearHdlcRxCount with hdlc := framed, ctrl := s.withControl .receiveReady }.setState
        .response := by
    simp only [step, state, segment]
    rw [gwTmp_clearHdlcRxCount, ctrl_clearHdlcRxCount]
    unfold withControl at ret
    rw [ret]
    rfl
  rw [stepped]
  exact ⟨rfl, rfl, rfl, rfl, address.trans (meterAddressField_eq accepted), control⟩

theorem numbers_step_of_silent (silent : s.puts = none)
    (other : s.globals.gwState ≠ .responseForMdm) : (s.step now).numbers = s.numbers := by
  cases state : s.globals.gwState with
  | waitForGetFrame =>
      simp only [step, state, waitForGetFrame]
      split <;> rfl
  | snrmRequest =>
      simp only [puts, state, ite_eq_right_iff, reduceCtorEq, imp_false] at silent
      simp only [step, state, snrmRequest]
      rw [gwTmp_clearHdlcRxCount, if_neg silent]
      rfl
  | snrmResponse =>
      simp only [step, state]
      by_cases received : 0 < s.hdlc.rxCount
      · rw [snrmResponse_of_received now received]
        rfl
      · rw [snrmResponse_of_silent now received]
        split <;> rfl
  | informationFrame =>
      simp only [puts, state, ite_eq_right_iff, reduceCtorEq, imp_false] at silent
      simp only [step, state, informationFrame]
      rcases frameConvertor_cases s.gwTmp s.clearHdlcRxCount.hdlc (s.withControl .information) with
        ⟨ret, negative, outcome⟩ | ⟨framed, outcome, -⟩
      · rw [gwTmp_clearHdlcRxCount, ctrl_clearHdlcRxCount]
        unfold withControl at outcome
        rw [outcome]
        dsimp only
        rw [if_neg (by omega)]
        rfl
      · rw [outcome] at silent
        exact absurd Int.one_pos silent
  | response =>
      simp only [step, state]
      by_cases received : 0 < s.hdlc.rxCount
      · rw [response_of_received now received]
        rfl
      · rw [response_of_silent now received]
        split <;> rfl
  | segment =>
      simp only [step, state]
      rfl
  | discRequest =>
      simp only [step, state, discRequest]
      split <;> rfl
  | discResponse =>
      simp only [step, state]
      by_cases received : 0 < s.hdlc.rxCount
      · rw [discResponse_of_received now received]
        rfl
      · rw [discResponse_of_silent now received]
        split <;> rfl
  | responseForMdm => exact absurd state other

theorem numbers_step_of_disc (put : s.puts = some .disc) : (s.step now).numbers = s.numbers := by
  have state := state_of_puts put
  simp only [step, state, discRequest]
  split <;> rfl

theorem numbers_step_of_conversion (converting : s.globals.gwState = .responseForMdm) :
    (s.step now).numbers =
      if s.hdlcTmp.acceptedFrame.isSome then (nextNumber s.ctrl.rrr, s.ctrl.sss)
      else s.numbers := by
  have ctrl : (s.step now).ctrl =
      (meter2GwFrameConvertor s.hdlcTmp s.gw s.globals s.ctrl).ctrl := by
    simp only [step, converting, responseForMdm]
    split <;> rfl
  rw [numbers, ctrl]
  rcases convertor_cases s.hdlcTmp s.gw s.globals s.ctrl with
    ⟨wrong, code, -, outcome⟩ | ⟨-, refused, code, -, outcome⟩ | ⟨f, accepted, outcome⟩
  · have refused : ∀ f, ¬ s.hdlcTmp.Accepted f := fun f accepted => wrong accepted.1.1
    rw [outcome, Buffer.acceptedFrame_eq_none refused]
    rfl
  · rw [outcome, Buffer.acceptedFrame_eq_none refused]
    rfl
  · rw [outcome, ctrl_deliver, Buffer.acceptedFrame_eq_some.mpr accepted]
    rfl

theorem gwTmp_step (none_ : ¬ s.Takes) :
    (s.step now).gwTmp = s.gwTmp ∧ (s.step now).rlrqFlag = s.rlrqFlag := by
  cases state : s.globals.gwState with
  | waitForGetFrame =>
      rw [step_of_idle now state fun some_ => none_ ⟨state, some_⟩]
      exact ⟨rfl, rfl⟩
  | snrmRequest =>
      simp only [step, state, snrmRequest]
      split <;> exact ⟨rfl, rfl⟩
  | snrmResponse =>
      simp only [step, state, snrmResponse]
      split_ifs <;> exact ⟨rfl, rfl⟩
  | informationFrame =>
      simp only [step, state, informationFrame]
      split <;> exact ⟨rfl, rfl⟩
  | response =>
      simp only [step, state, response]
      split_ifs <;> exact ⟨rfl, rfl⟩
  | segment =>
      simp only [step, state]
      exact ⟨rfl, rfl⟩
  | responseForMdm =>
      simp only [step, state, responseForMdm]
      split <;> exact ⟨rfl, rfl⟩
  | discRequest =>
      simp only [step, state, discRequest]
      split <;> exact ⟨rfl, rfl⟩
  | discResponse =>
      simp only [step, state, discResponse]
      split_ifs <;> exact ⟨rfl, rfl⟩

/-- Without a frame, the two states that open a link give the request up. -/
theorem step_of_failed (silent : s.puts = none)
    (opening : s.globals.gwState = .snrmRequest ∨ s.globals.gwState = .informationFrame) :
    (s.step now).globals.gwState = .waitForGetFrame := by
  rcases opening with state | state
  · simp only [puts, state, ite_eq_right_iff, reduceCtorEq, imp_false] at silent
    simp only [step, state, snrmRequest]
    rw [gwTmp_clearHdlcRxCount, if_neg silent]
    rfl
  · simp only [puts, state, ite_eq_right_iff, reduceCtorEq, imp_false] at silent
    simp only [step, state, informationFrame]
    rw [gwTmp_clearHdlcRxCount, ctrl_clearHdlcRxCount]
    unfold withControl at silent
    rw [if_neg silent]
    rfl

end Puts
end GwRun
end DlmsGateway
