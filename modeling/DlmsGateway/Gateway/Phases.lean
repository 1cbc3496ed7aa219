import DlmsGateway.Gateway.Conversion

/-!
# The phases of a request

The nine states of `GW_Run` in three phases: no request is taken, a request is
on its way to the meter, an answer is awaited or converted.  Outside
`RESPONSE_FOR_MDM` an iteration changes no global but `GW_State`, and an answer
is given up only on a timeout with nothing received.
-/
set_option autoImplicit false
namespace DlmsGateway

open ByteStore

inductive Phase where
  | idle
  | opening
  | answering
deriving DecidableEq, Repr

def GwState.phase : GwState → Phase
  | .waitForGetFrame => .idle
  | .snrmRequest | .snrmResponse | .informationFrame => .opening
  | .response | .segment | .responseForMdm | .discRequest | .discResponse => .answering

namespace GwRun

/-- The next iteration takes a request from `GW_STRUCT->RX`. -/
def Takes (s : GwRun) : Prop := s.globals.gwState = .waitForGetFrame ∧ 0 < s.gw.rxCount

instance (s : GwRun) : Decidable s.Takes := inferInstanceAs (Decidable (_ ∧ _))

/-- The next iteration drops the request: the time is over and nothing was received. -/
def GivesUp (s : GwRun) (now : Timeval) : Prop :=
  (s.globals.gwState = .response ∨ s.globals.gwState = .discResponse) ∧
    s.timedOut now = true ∧ ¬ 0 < s.hdlc.rxCount

instance (s : GwRun) (now : Timeval) : Decidable (s.GivesUp now) :=
  inferInstanceAs (Decidable (_ ∧ _))

@[simp] theorem globals_setState (s : GwRun) (state : GwState) :
    (s.setState state).globals = { s.globals with gwState := state } := rfl

@[simp] theorem globals_clearHdlcRxCount (s : GwRun) :
    s.clearHdlcRxCount.globals = s.globals := rfl

theorem gwTmp_clearHdlcRxCount (s : GwRun) : s.clearHdlcRxCount.gwTmp = s.gwTmp := rfl

theorem ctrl_clearHdlcRxCount (s : GwRun) : s.clearHdlcRxCount.ctrl = s.ctrl := rfl

/-! ## The states that wait for the meter -/

section Awaiting
variable {s : GwRun} (now : Timeval)

theorem snrmResponse_of_received (received : 0 < s.hdlc.rxCount) :
    s.snrmResponse now = s.clearHdlcRxCount.setState .informationFrame := by
  unfold snrmResponse
  cases s.timedOut now <;> exact if_pos received

theorem snrmResponse_of_silent (silent : ¬ 0 < s.hdlc.rxCount) :
    s.snrmResponse now = if s.timedOut now then s.setState .waitForGetFrame else s := by
  unfold snrmResponse
  cases s.timedOut now <;> exact if_neg silent

theorem response_of_received (received : 0 < s.hdlc.rxCount) :
    s.response now =
      { s with hdlcTmp := s.hdlcTmp.takeRx s.hdlc }.clearHdlcRxCount.setState
        (if s.rlrqFlag then .discRequest else .responseForMdm) := by
  unfold response
  cases s.timedOut now <;> exact if_pos received

theorem response_of_silent (silent : ¬ 0 < s.hdlc.rxCount) :
    s.response now = if s.timedOut now then s.setState .waitForGetFrame else s := by
  unfold response
  cases s.timedOut now <;> exact if_neg silent

theorem discResponse_of_received (received : 0 < s.hdlc.rxCount) :
    s.discResponse now = s.setState .responseForMdm := by
  unfold discResponse
  cases s.timedOut now <;> exact if_pos received

theorem discResponse_of_silent (silent : ¬ 0 < s.hdlc.rxCount) :
    s.discResponse now = if s.timedOut now then s.setState .waitForGetFrame else s := by
  unfold discResponse
  cases s.timedOut now <;> exact if_neg silent

end Awaiting

/-! ## One iteration -/

theorem step_of_takes {s : GwRun} (now : Timeval) (takes : s.Takes) :
    (s.step now).globals =
      { s.globals with gwState := entryState (checkGwFrameType
        ({ s.gwTmp with rx := Bytes.zero }.takeRx s.gw)) } := by
  simp only [step, takes.1, waitForGetFrame, if_pos takes.2]

theorem step_of_idle {s : GwRun} (now : Timeval) (idle : s.globals.gwState = .waitForGetFrame)
    (none : ¬ 0 < s.gw.rxCount) : s.step now = s := by
  simp only [step, idle, waitForGetFrame, if_neg none]

theorem globals_step_opening {s : GwRun} (now : Timeval)
    (opening : s.globals.gwState.phase = .opening) :
    ∃ state, (s.step now).globals = { s.globals with gwState := state } := by
  cases state : s.globals.gwState with
  | snrmRequest =>
      simp only [step, state, snrmRequest]
      split <;> exact ⟨_, rfl⟩
  | snrmResponse =>
      simp only [step, state]
      by_cases received : 0 < s.hdlc.rxCount
      · rw [snrmResponse_of_received now received]
        exact ⟨_, rfl⟩
      · rw [snrmResponse_of_silent now received]
        split <;> exact ⟨_, rfl⟩
  | informationFrame =>
      simp only [step, state, informationFrame]
      split <;> exact ⟨_, rfl⟩
  | _ => simp [state, GwState.phase] at opening

/-- While an answer is awaited, only `GW_State` changes, and the phase ends only by giving up. -/
theorem globals_step_answering {s : GwRun} (now : Timeval)
    (answering : s.globals.gwState.phase = .answering)
    (other : s.globals.gwState ≠ .responseForMdm) :
    ∃ state, (s.step now).globals = { s.globals with gwState := state } ∧
      (state.phase = .answering ∨ state = .waitForGetFrame ∧ s.GivesUp now) := by
  cases state : s.globals.gwState with
  | response =>
      simp only [step, state]
      by_cases received : 0 < s.hdlc.rxCount
      · rw [response_of_received now received]
        exact ⟨_, rfl, .inl (by split <;> rfl)⟩
      · rw [response_of_silent now received]
        by_cases late : s.timedOut now = true
        · rw [if_pos late]
          exact ⟨.waitForGetFrame, rfl, .inr ⟨rfl, .inl state, late, received⟩⟩
        · rw [if_neg late]
          exact ⟨s.globals.gwState, rfl, .inl answering⟩
  | segment =>
      refine ⟨.response, ?_, .inl rfl⟩
      simp only [step, state]
      rfl
  | discRequest =>
      simp only [step, state, discRequest]
      split <;> exact ⟨_, rfl, .inl rfl⟩
  | discResponse =>
      simp only [step, state]
      by_cases received : 0 < s.hdlc.rxCount
      · rw [discResponse_of_received now received]
        exact ⟨.responseForMdm, rfl, .inl rfl⟩
      · rw [discResponse_of_silent now received]
        by_cases late : s.timedOut now = true
        · rw [if_pos late]
          exact ⟨.waitForGetFrame, rfl, .inr ⟨rfl, .inr state, late, received⟩⟩
        · rw [if_neg late]
          exact ⟨s.globals.gwState, rfl, .inl answering⟩
  | responseForMdm => exact absurd state other
  | _ => simp [state, GwState.phase] at answering

/-! ## Conversion -/

theorem globals_responseForMdm (s : GwRun) :
    s.responseForMdm.globals =
      let c := meter2GwFrameConvertor s.hdlcTmp s.gw s.globals s.ctrl
      if 0 < c.ret then { c.globals with gwState := .waitForGetFrame } else c.globals := by
  unfold responseForMdm
  dsimp only
  split <;> rfl

theorem gw_responseForMdm (s : GwRun) :
    s.responseForMdm.gw = (meter2GwFrameConvertor s.hdlcTmp s.gw s.globals s.ctrl).gw := by
  unfold responseForMdm
  dsimp only
  split <;> rfl

theorem gw_step (s : GwRun) (now : Timeval) :
    (s.step now).gw =
      if s.Takes then { s.gw with rxCount := 0 }
      else if s.globals.gwState = .responseForMdm then
        (meter2GwFrameConvertor s.hdlcTmp s.gw s.globals s.ctrl).gw
      else s.gw := by
  by_cases takes : s.Takes
  · simp only [step, takes.1, waitForGetFrame, if_pos takes.2, if_pos takes]
  rw [if_neg takes]
  cases state : s.globals.gwState with
  | waitForGetFrame =>
      rw [step_of_idle now state fun some_ => takes ⟨state, some_⟩, if_neg (by simp)]
  | responseForMdm =>
      simp only [step, state, if_true]
      exact gw_responseForMdm s
  | snrmResponse =>
      rw [if_neg (by simp)]
      simp only [step, state, snrmResponse]
      split_ifs <;> rfl
  | response =>
      rw [if_neg (by simp)]
      simp only [step, state, response]
      split_ifs <;> rfl
  | discResponse =>
      rw [if_neg (by simp)]
      simp only [step, state, discResponse]
      split_ifs <;> rfl
  | snrmRequest =>
      rw [if_neg (by simp)]
      simp only [step, state, snrmRequest]
      split <;> rfl
  | informationFrame =>
      rw [if_neg (by simp)]
      simp only [step, state, informationFrame]
      split <;> rfl
  | discRequest =>
      rw [if_neg (by simp)]
      simp only [step, state, discRequest]
      split <;> rfl
  | segment =>
      rw [if_neg (by simp)]
      simp only [step, state]
      rfl

/-- Bytes without start flag and format type leave the gateway as it is. -/
theorem responseForMdm_of_format_wrong (s : GwRun) (wrong : ¬ s.hdlcTmp.FormatRight) :
    s.responseForMdm = s := by
  obtain ⟨code, sign, outcome⟩ :=
    convertor_of_format_wrong s.hdlcTmp s.gw s.globals s.ctrl wrong
  have refused : ¬ 0 < code := by omega
  simp only [responseForMdm, outcome, if_neg refused]

end GwRun
end DlmsGateway
