import DlmsGateway.Gateway.Progress
import DlmsGateway.Gateway.Sequence

/-!
# The link to a meter

An AARQ opens a link: SNRM to the meter, any bytes in return, then the I-frame
and the polls for its answer, all to the same address.  Any other request is
sent as an I-frame at once, on whatever link there is; that there is one is up
to the sender of the requests.
-/
set_option autoImplicit false
namespace DlmsGateway

open ByteStore

/-- What happened since the request was taken: its address, whether it is an AARQ, the address of
the SNRM put for it and not followed by a DISC, whether a read of RS485 ended with a result other
than 0 since that SNRM, and the address of its I-frame. -/
structure LinkHistory where
  request : List UInt8
  association : Bool
  snrm : Option (List UInt8)
  answered : Bool
  information : Option (List UInt8)
  numbers : SequenceHistory

namespace LinkHistory

def taken (h : LinkHistory) (gwTmp : Buffer) : LinkHistory where
  request := gwTmp.meterAddressField
  association := checkGwFrameType gwTmp == 0x60
  snrm := none
  answered := false
  information := none
  numbers := h.numbers

def note (h : LinkHistory) (s : System) : Event → LinkHistory
  | .gwRun now =>
      let h := { h with numbers := h.numbers.note s (.gwRun now) }
      let address := (s.toGwRun.step now).hdlc.sentAddress
      if s.Takes then h.taken (s.toGwRun.step now).gwTmp
      else
        match s.puts with
        | some .snrm => { h with snrm := some address, answered := false }
        | some .information => { h with information := some address }
        | some .disc => { h with snrm := none }
        | _ => h
  | .serialRead ret => if (s.serialRead ret).hdlc.rxCount = 0 then h else { h with answered := true }
  | _ => h

/-- The SNRM of an AARQ went to the address of the request and something was read since. -/
def Opened (h : LinkHistory) : Prop :=
  h.association = true → h.snrm = some h.request ∧ h.answered = true

end LinkHistory

/-- An SNRM is put for an AARQ only.  I-frames and RR frames go to the address of the request: for an
AARQ on a link opened for it, for any other request without an SNRM, and with the numbers counted
since the last SNRM. -/
def OnLink (p : System × LinkHistory) : Event → Prop
  | .gwRun now =>
      (p.1.puts = some .snrm →
        p.2.association = true ∧ (p.1.toGwRun.step now).hdlc.sentAddress = p.2.request) ∧
      (p.1.puts = some .information →
        (p.1.toGwRun.step now).hdlc.sentAddress = p.2.request ∧ p.2.Opened ∧
          (p.2.association = false → p.2.snrm = none) ∧
          (p.2.association = true → p.2.numbers.started = true) ∧
          (p.2.numbers.started = true →
            sendNumber (p.1.toGwRun.step now).hdlc.sentControl = p.2.numbers.sent % 8 ∧
              receiveNumber (p.1.toGwRun.step now).hdlc.sentControl =
                p.2.numbers.accepted % 8)) ∧
      (p.1.puts = some .receiveReady →
        (p.1.toGwRun.step now).hdlc.sentAddress = p.2.request ∧
          p.2.information = some p.2.request ∧ p.2.Opened ∧
          (p.2.association = false → p.2.snrm = none) ∧
          (p.2.association = true → p.2.numbers.started = true) ∧
          (p.2.numbers.started = true →
            receiveNumber (p.1.toGwRun.step now).hdlc.sentControl = p.2.numbers.accepted % 8))
  | _ => True

structure LinkKept (s : GwRun) (h : LinkHistory) : Prop where
  request : s.globals.gwState.phase ≠ .idle → h.request = s.gwTmp.meterAddressField
  noDisc : s.globals.gwState.phase ≠ .idle → h.association = true → s.rlrqFlag = false
  disc : s.globals.gwState = .discRequest ∨ s.globals.gwState = .discResponse →
    s.rlrqFlag = true
  started : h.snrm ≠ none → h.numbers.started = true
  opening : s.globals.gwState = .snrmRequest ∨ s.globals.gwState = .snrmResponse →
    h.association = true
  unopened : h.association = false → h.snrm = none
  snrm : s.globals.gwState = .snrmResponse →
    h.snrm = some h.request ∧ (0 < s.hdlc.rxCount → h.answered = true)
  opened : s.globals.gwState = .informationFrame ∨ s.globals.gwState.phase = .answering → h.Opened
  information : s.globals.gwState.phase = .answering → h.information = some h.request
  counted : Counted s h.numbers

theorem linkKept_of_idle {s : GwRun} {h : LinkHistory}
    (state : s.globals.gwState = .waitForGetFrame)
    (started : h.snrm ≠ none → h.numbers.started = true)
    (unopened : h.association = false → h.snrm = none) (counted : Counted s h.numbers) :
    LinkKept s h := by
  constructor <;> simp_all [GwState.phase]

theorem numbers_started_note (h : SequenceHistory) (s : System) (now : Timeval)
    (started : h.started = true) : (h.note s (.gwRun now)).started = true := by
  simp only [SequenceHistory.note]
  split
  · rfl
  · exact started
  · exact started
  · split <;> exact started

section Iteration
variable {s : System} {h : LinkHistory} (now : Timeval)

theorem linkKept_of_takes (kept : LinkKept s.toGwRun h) (takes : s.Takes) :
    LinkKept (s.toGwRun.step now) (h.note s (.gwRun now)) := by
  have counted := counted_step now kept.counted
  have noted : h.note s (.gwRun now) = { h with numbers := h.numbers.note s (.gwRun now) }.taken
      (s.toGwRun.step now).gwTmp := if_pos takes
  have stepped : s.toGwRun.step now =
      { s.toGwRun with
        gwTmp := { s.gwTmp with rx := Bytes.zero }.takeRx s.gw
        hdlcTmp := { s.hdlcTmp with timeoutMs := s.hdlc.timeoutMs }
        gw := { s.gw with rxCount := 0 }
        rlrqFlag := checkGwFrameType ({ s.gwTmp with rx := Bytes.zero }.takeRx s.gw) == 0x62
        globals := { s.globals with gwState := GwRun.entryState (checkGwFrameType
          ({ s.gwTmp with rx := Bytes.zero }.takeRx s.gw)) } } := by
    simp only [GwRun.step, takes.1, GwRun.waitForGetFrame, if_pos takes.2]
  rw [noted]
  rw [stepped] at counted ⊢
  generalize { s.gwTmp with rx := Bytes.zero }.takeRx s.gw = gwTmp at counted ⊢
  dsimp only at counted ⊢
  by_cases association : checkGwFrameType gwTmp = 0x60
  · constructor <;> simp [GwRun.entryState, LinkHistory.taken, association, GwState.phase]
    exact counted
  · constructor <;>
      simp [GwRun.entryState, LinkHistory.taken, association, GwState.phase, LinkHistory.Opened]
    exact counted

theorem linkKept_of_answering {s : GwRun} {h : LinkHistory}
    (phase : s.globals.gwState.phase = .answering)
    (request : h.request = s.gwTmp.meterAddressField)
    (noDisc : h.association = true → s.rlrqFlag = false)
    (disc : s.globals.gwState = .discRequest ∨ s.globals.gwState = .discResponse →
      s.rlrqFlag = true)
    (started : h.snrm ≠ none → h.numbers.started = true)
    (unopened : h.association = false → h.snrm = none) (opened : h.Opened)
    (information : h.information = some h.request) (counted : Counted s h.numbers) :
    LinkKept s h where
  request _ := request
  noDisc _ := noDisc
  disc := disc
  started := started
  opening state := by rcases state with state | state <;> rw [state] at phase <;> cases phase
  unopened := unopened
  snrm state := by rw [state] at phase; cases phase
  opened _ := opened
  information _ := information
  counted := counted

theorem note_of_silent (none_ : ¬ s.Takes) (silent : s.puts = none) :
    h.note s (.gwRun now) = { h with numbers := h.numbers.note s (.gwRun now) } := by
  simp only [LinkHistory.note, if_neg none_, silent]

theorem puts_of_other (other : s.globals.gwState ≠ .snrmRequest ∧
    s.globals.gwState ≠ .informationFrame ∧ s.globals.gwState ≠ .segment ∧
      s.globals.gwState ≠ .discRequest) : s.puts = none := by
  cases put : s.puts with
  | none => rfl
  | some frame =>
      have state := GwRun.state_of_puts put
      cases frame <;> simp_all

theorem linkKept_of_opening (kept : LinkKept s.toGwRun h)
    (state : s.globals.gwState = .snrmRequest ∨ s.globals.gwState = .informationFrame) :
    LinkKept (s.toGwRun.step now) (h.note s (.gwRun now)) := by
  have counted := counted_step now kept.counted
  have none_ : ¬ s.Takes := by
    intro takes
    rcases state with state | state <;> rw [takes.1] at state <;> cases state
  have busy : s.globals.gwState.phase ≠ .idle := by
    rcases state with state | state <;> rw [state] <;> decide
  have request := kept.request busy
  have noDisc := kept.noDisc busy
  cases put : s.puts with
  | none =>
      rw [note_of_silent now none_ put]
      exact linkKept_of_idle (GwRun.step_of_failed now put state)
        (fun some_ => numbers_started_note _ s now (kept.started some_)) kept.unopened counted
  | some frame =>
      have from_ := GwRun.state_of_puts put
      simp only [LinkHistory.note, if_neg none_, put]
      cases frame with
      | snrm =>
          obtain ⟨-, after, gwTmp, flag, address, count⟩ := GwRun.step_snrm now put
          have started : (h.numbers.note s (.gwRun now)).started = true := by
            simp only [SequenceHistory.note, put]
          constructor <;> simp only [after, gwTmp, flag, address, count]
          · exact fun _ => request
          · exact fun _ => noDisc
          · simp
          · exact fun _ => started
          · exact fun _ => kept.opening (.inl from_)
          · simp [kept.opening (.inl from_)]
          · exact fun _ => ⟨congrArg some request.symm, by decide⟩
          · simp [GwState.phase]
          · simp [GwState.phase]
          · exact counted
      | information =>
          obtain ⟨-, after, gwTmp, flag, address, -⟩ := GwRun.step_information now put
          apply linkKept_of_answering
          · rw [after]; rfl
          · rw [gwTmp]; exact request
          · rw [flag]; exact noDisc
          · rw [after]; simp
          · exact fun some_ => numbers_started_note _ s now (kept.started some_)
          · exact kept.unopened
          · exact kept.opened (.inl from_)
          · exact congrArg some (address.trans request.symm)
          · exact counted
      | receiveReady => rcases state with state | state <;> rw [state] at from_ <;> cases from_
      | disc => rcases state with state | state <;> rw [state] at from_ <;> cases from_

/-- From an answering state the request is given up, converted or answered further, and the two
states of the DISC are reached only for an RLRQ. -/
theorem next_of_answering {s : GwRun} (answering : s.globals.gwState.phase = .answering)
    (disc : s.globals.gwState = .discRequest ∨ s.globals.gwState = .discResponse →
      s.rlrqFlag = true) :
    (s.step now).globals.gwState = .waitForGetFrame ∨
      (s.step now).globals.gwState.phase = .answering ∧
        ((s.step now).globals.gwState = .discRequest ∨
          (s.step now).globals.gwState = .discResponse → s.rlrqFlag = true) := by
  cases state : s.globals.gwState with
  | response =>
      simp only [GwRun.step, state]
      by_cases received : 0 < s.hdlc.rxCount
      · rw [GwRun.response_of_received now received]
        cases flag : s.rlrqFlag <;> simp [GwState.phase]
      · rw [GwRun.response_of_silent now received]
        split
        · exact .inl rfl
        · exact .inr ⟨answering, by simp [state]⟩
  | segment =>
      simp only [GwRun.step, state, GwRun.segment]
      exact .inr ⟨rfl, by simp⟩
  | responseForMdm =>
      rcases GwRun.gwState_of_converting s now state with idle | segment | converting
      · exact .inl idle
      · exact .inr ⟨by rw [segment]; rfl, by simp [segment]⟩
      · exact .inr ⟨by rw [converting]; rfl, by simp [converting]⟩
  | discRequest =>
      simp only [GwRun.step, state, GwRun.discRequest]
      split <;> exact .inr ⟨rfl, fun _ => disc (.inl state)⟩
  | discResponse =>
      simp only [GwRun.step, state]
      by_cases received : 0 < s.hdlc.rxCount
      · rw [GwRun.discResponse_of_received now received]
        exact .inr ⟨rfl, by simp⟩
      · rw [GwRun.discResponse_of_silent now received]
        split
        · exact .inl rfl
        · exact .inr ⟨answering, fun _ => disc (.inr state)⟩
  | _ => simp [state, GwState.phase] at answering

/-- While an answer is awaited, a DISC is put only for an RLRQ, which promises no SNRM. -/
theorem note_of_answering (kept : LinkKept s.toGwRun h)
    (answering : s.globals.gwState.phase = .answering) :
    ∃ snrm, h.note s (.gwRun now) =
        { h with snrm := snrm, numbers := h.numbers.note s (.gwRun now) } ∧
      (snrm = h.snrm ∨ snrm = none ∧ h.association = false) := by
  have none_ : ¬ s.Takes := by
    intro takes
    rw [takes.1] at answering
    cases answering
  cases put : s.puts with
  | none => exact ⟨h.snrm, note_of_silent now none_ put, .inl rfl⟩
  | some frame =>
      have state := GwRun.state_of_puts put
      simp only [LinkHistory.note, if_neg none_, put]
      cases frame with
      | receiveReady => exact ⟨h.snrm, rfl, .inl rfl⟩
      | disc =>
          refine ⟨none, rfl, .inr ⟨rfl, ?_⟩⟩
          have flag := kept.disc (.inl state)
          have noDisc := kept.noDisc (by simp [state, GwState.phase])
          cases association : h.association with
          | false => rfl
          | true =>
              rw [noDisc association] at flag
              cases flag
      | snrm | information =>
          rw [state] at answering
          cases answering

theorem linkKept_of_awaiting (kept : LinkKept s.toGwRun h)
    (answering : s.globals.gwState.phase = .answering) :
    LinkKept (s.toGwRun.step now) (h.note s (.gwRun now)) := by
  have counted := counted_step now kept.counted
  have busy : s.globals.gwState.phase ≠ .idle := by
    rw [answering]
    decide
  obtain ⟨gwTmp, flag⟩ := GwRun.gwTmp_step (s := s.toGwRun) now fun takes => busy (by
    rw [takes.1]
    rfl)
  obtain ⟨snrm, noted, kind⟩ := note_of_answering now kept answering
  have started : snrm ≠ none → (h.numbers.note s (.gwRun now)).started = true := by
    rcases kind with same | ⟨gone, -⟩
    · rw [same]
      exact fun some_ => numbers_started_note _ s now (kept.started some_)
    · exact fun some_ => absurd gone some_
  have unopened : h.association = false → snrm = none := by
    rcases kind with same | ⟨gone, -⟩
    · rw [same]
      exact kept.unopened
    · exact fun _ => gone
  rw [noted]
  rcases next_of_answering now answering kept.disc with idle | ⟨still, disc⟩
  · exact linkKept_of_idle idle started unopened counted
  · apply linkKept_of_answering still
    · rw [gwTmp]
      exact kept.request busy
    · rw [flag]
      exact kept.noDisc busy
    · rw [flag]
      exact disc
    · exact started
    · exact unopened
    · intro association
      rcases kind with same | ⟨-, other⟩
      · rw [same]
        exact kept.opened (.inr answering) association
      · exact absurd association (by simp [other])
    · exact kept.information answering
    · exact counted

theorem linkKept_of_snrmResponse (kept : LinkKept s.toGwRun h)
    (state : s.globals.gwState = .snrmResponse) :
    LinkKept (s.toGwRun.step now) (h.note s (.gwRun now)) := by
  have counted := counted_step now kept.counted
  have silent : s.puts = none := puts_of_other (by simp [state])
  have none_ : ¬ s.Takes := fun takes => by
    rw [takes.1] at state
    cases state
  have busy : s.globals.gwState.phase ≠ .idle := by
    rw [state]
    decide
  have started := fun some_ => numbers_started_note h.numbers s now (kept.started some_)
  obtain ⟨opened, answered⟩ := kept.snrm state
  rw [note_of_silent now none_ silent]
  simp only [GwRun.step, state] at counted ⊢
  by_cases received : 0 < s.hdlc.rxCount
  · rw [GwRun.snrmResponse_of_received now received] at counted ⊢
    exact ⟨fun _ => kept.request busy, fun _ => kept.noDisc busy, by simp, started, by simp,
      kept.unopened, by simp, fun _ _ => ⟨opened, answered received⟩, by simp [GwState.phase],
      counted⟩
  · rw [GwRun.snrmResponse_of_silent now received] at counted ⊢
    by_cases late : s.timedOut now = true
    · rw [if_pos late] at counted ⊢
      exact linkKept_of_idle rfl started kept.unopened counted
    · rw [if_neg late] at counted ⊢
      exact ⟨fun _ => kept.request busy, fun _ => kept.noDisc busy, by simp [state], started,
        fun _ => kept.opening (.inr state), kept.unopened, fun _ => ⟨opened, answered⟩,
        by simp [state, GwState.phase],
        by simp [state, GwState.phase], counted⟩

theorem linkKept_step (kept : LinkKept s.toGwRun h) :
    LinkKept (s.toGwRun.step now) (h.note s (.gwRun now)) := by
  by_cases takes : s.Takes
  · exact linkKept_of_takes now kept takes
  cases state : s.globals.gwState with
  | waitForGetFrame =>
      have counted := counted_step now kept.counted
      rw [note_of_silent now takes (puts_of_other (by simp [state]))]
      rw [GwRun.step_of_idle now state fun some_ => takes ⟨state, some_⟩] at counted ⊢
      exact linkKept_of_idle state
        (fun some_ => numbers_started_note _ s now (kept.started some_)) kept.unopened counted
  | snrmRequest => exact linkKept_of_opening now kept (.inl state)
  | snrmResponse => exact linkKept_of_snrmResponse now kept state
  | informationFrame => exact linkKept_of_opening now kept (.inr state)
  | _ => exact linkKept_of_awaiting now kept (by rw [state]; rfl)

theorem onLink_of_linkKept (kept : LinkKept s.toGwRun h) : OnLink (s, h) (.gwRun now) := by
  refine ⟨?_, ?_, ?_⟩
  · intro put
    have state : s.globals.gwState = .snrmRequest := GwRun.state_of_puts put
    obtain ⟨-, -, -, -, address, -⟩ := GwRun.step_snrm now put
    have request := kept.request (by simp [state, GwState.phase])
    exact ⟨kept.opening (.inl state), address.trans request.symm⟩
  · intro put
    have state : s.globals.gwState = .informationFrame := GwRun.state_of_puts put
    obtain ⟨-, -, -, -, address, control⟩ := GwRun.step_information now put
    have opened := kept.opened (.inl state)
    have request := kept.request (by simp [state, GwState.phase])
    refine ⟨address.trans request.symm, opened, kept.unopened, ?_, ?_⟩
    · exact fun association => kept.started (by simp [(opened association).1])
    · intro started
      obtain ⟨rrr, sss⟩ := kept.counted started
      rw [control, eq_ofNat_of_toNat rrr, eq_ofNat_of_toNat sss]
      exact (controlByte_information _ (Nat.mod_lt _ (by decide)) _
        (Nat.mod_lt _ (by decide))).2
  · intro put
    have state : s.globals.gwState = .segment := GwRun.state_of_puts put
    obtain ⟨-, -, -, -, address, control⟩ := GwRun.step_receiveReady now put
    have answering : s.globals.gwState.phase = .answering := by simp [state, GwState.phase]
    have opened := kept.opened (.inr answering)
    have request := kept.request (by simp [state, GwState.phase])
    refine ⟨address.trans request.symm, kept.information answering, opened, kept.unopened, ?_, ?_⟩
    · exact fun association => kept.started (by simp [(opened association).1])
    · intro started
      obtain ⟨rrr, -⟩ := kept.counted started
      rw [control, eq_ofNat_of_toNat rrr]
      exact (controlByte_receiveReady _ (Nat.mod_lt _ (by decide)) _).2

end Iteration

theorem linkKept_of_answered {s t : GwRun} {h : LinkHistory} (kept : LinkKept s h)
    (same : t.toGateway = s.toGateway) : LinkKept t { h with answered := true } where
  request := by rw [same]; exact kept.request
  noDisc := by rw [same]; exact kept.noDisc
  disc := by rw [same]; exact kept.disc
  started := kept.started
  opening := by rw [same]; exact kept.opening
  unopened := kept.unopened
  snrm := by rw [same]; exact fun state => ⟨(kept.snrm state).1, fun _ => rfl⟩
  opened := by rw [same]; exact fun state association => ⟨(kept.opened state association).1, rfl⟩
  information := by rw [same]; exact kept.information
  counted := by rw [Counted, same]; exact kept.counted

theorem linkKept_of_quiet {s t : GwRun} {h : LinkHistory} (kept : LinkKept s h)
    (same : t.toGateway = s.toGateway) (quiet : 0 < t.hdlc.rxCount → 0 < s.hdlc.rxCount) :
    LinkKept t h where
  request := by rw [same]; exact kept.request
  noDisc := by rw [same]; exact kept.noDisc
  disc := by rw [same]; exact kept.disc
  started := kept.started
  opening := by rw [same]; exact kept.opening
  unopened := kept.unopened
  snrm := by
    rw [same]
    exact fun state => ⟨(kept.snrm state).1, fun some_ => (kept.snrm state).2 (quiet some_)⟩
  opened := by rw [same]; exact kept.opened
  information := by rw [same]; exact kept.information
  counted := by rw [Counted, same]; exact kept.counted

theorem linkKept_note {s : System} {h : LinkHistory} (e : Event) (kept : LinkKept s.toGwRun h) :
    LinkKept (s.step e).toGwRun (h.note s e) := by
  by_cases own : System.IsGwRun e
  · obtain ⟨now, rfl⟩ := System.exists_of_isGwRun own
    exact linkKept_step now kept
  · have same := System.toGateway_step s e own
    cases e with
    | serialRead ret =>
        rw [LinkHistory.note]
        split
        · rename_i none_
          apply linkKept_of_quiet kept same
          intro some_
          rw [show (s.step (.serialRead ret)).hdlc.rxCount = 0 from none_] at some_
          exact absurd some_ (by decide)
        · exact linkKept_of_answered kept same
    | gwRun now => exact absurd trivial own
    | _ =>
        apply linkKept_of_quiet kept same
        rw [System.hdlc_rxCount_step s _ own (by simp)]
        exact id

/-- In every run the gateway puts I-frames and RR frames only to the meter of the request, and
for an AARQ only after an SNRM to it that something answered. -/
theorem frames_on_link (s : System) (es : List Event) (initial : s.Initial) :
    Runs.Along (Runs.observed System.step LinkHistory.note) OnLink
      (s, ⟨[], false, none, false, none, ⟨false, 0, 0⟩⟩) es := by
  apply Runs.along_of_invariant (fun _ _ => True) (fun p => LinkKept p.1.toGwRun p.2)
  · exact fun p e kept _ => linkKept_note e kept
  · intro p e kept _
    cases e with
    | gwRun now => exact onLink_of_linkKept now kept
    | _ => trivial
  · exact linkKept_of_idle initial.gwState (by simp) (by simp) (by simp [Counted])
  · exact Runs.Along.of_all (by simp) es _

theorem associated_on_link :
    Runs.Along (Runs.observed System.step LinkHistory.note) OnLink
      (System.start, ⟨[], false, none, false, none, ⟨false, 0, 0⟩⟩) lateRun :=
  frames_on_link System.start lateRun System.start_initial

section Unopened

/-- A link that an SNRM opens, a UA frame acknowledges, and a DISC or the SNRM of another link
ends. -/
structure OpenedLink where
  address : Option (List UInt8)
  acknowledged : Bool

/-- A UA frame from this address, with its length and its checksum right. -/
def IsUaFrom (address bytes : List UInt8) : Prop :=
  let rx := ofList bytes
  let control := 4 + address.length
  rx 0 = 0x7E ∧ recDataSize rx = bytes.length ∧ rx (bytes.length - 1) = 0x7E ∧
    window rx 4 address.length = address ∧ rx control = 0x73 ∧
    joinBytes (rx (bytes.length - 3)) (rx (bytes.length - 2)) = countCRC rx 1 (bytes.length - 4)

instance (address bytes : List UInt8) : Decidable (IsUaFrom address bytes) :=
  inferInstanceAs (Decidable (_ ∧ _))

namespace OpenedLink

def note (l : OpenedLink) (s : System) : Event → OpenedLink
  | .gwRun now =>
      let address := (s.toGwRun.step now).hdlc.sentAddress
      match s.puts with
      | some .snrm => ⟨some address, false⟩
      | some .disc => if l.address = some address then ⟨none, false⟩ else l
      | _ => l
  | .serialRead (some chunk) =>
      match l.address with
      | some address => { l with acknowledged := l.acknowledged || IsUaFrom address chunk.bytes }
      | none => l
  | _ => l

end OpenedLink

/-- I-frames and RR frames are put on an acknowledged link only. -/
def OnAcknowledged (p : System × OpenedLink) : Event → Prop
  | .gwRun now =>
      p.1.puts = some .information ∨ p.1.puts = some .receiveReady →
        p.2.address = some (p.1.toGwRun.step now).hdlc.sentAddress ∧ p.2.acknowledged = true
  | _ => True

instance (p : System × OpenedLink) : ∀ e, Decidable (OnAcknowledged p e)
  | .gwRun _ => inferInstanceAs (Decidable (_ → _))
  | .clientRecv .. | .clientConnect | .clientInactive | .accept | .listenRecv .. | .push _
  | .send .. | .serialRead _ | .serialWrite => .isTrue trivial

def requestFirst : List Event := [.clientConnect, System.getReceived, .gwRun ⟨0, 0⟩]

def noiseForUa : List Event :=
  [.clientConnect, associationReceived, .gwRun ⟨0, 0⟩, .gwRun ⟨0, 0⟩, System.noiseRead,
    .gwRun ⟨0, 0⟩]

def getForOtherMeter : List UInt8 :=
  [0, 1, 0, 16, 0, 1, 0, 8, 0xE6, 0, 1, 18, 0xC0, 0x01, 0x81, 0x00, 0x05]

def releaseRequest : List UInt8 := [0, 1, 0, 16, 0, 1, 0, 5, 0xE6, 0, 1, 17, 0x62, 0x00]

/-- After the association with meter 1/17, a GET request for meter 1/18. -/
def otherMeter : List Event :=
  lateRun ++ [.gwRun ⟨0, 0⟩,
    .clientRecv (some ⟨getForOtherMeter, by decide⟩) System.noReply, .gwRun ⟨0, 0⟩]

/-- After the association, a release with its DISC, and then a GET request. -/
def afterRelease : List Event :=
  lateRun ++ [.gwRun ⟨0, 0⟩,
    .clientRecv (some ⟨releaseRequest, by decide⟩) System.noReply, .gwRun ⟨0, 0⟩, .gwRun ⟨0, 0⟩,
    lateRead, .gwRun ⟨0, 0⟩, .gwRun ⟨0, 0⟩, lateRead, .gwRun ⟨0, 0⟩, .gwRun ⟨0, 0⟩,
    System.getReceived, .gwRun ⟨0, 0⟩]

/-- In each of these runs the next iteration puts an I-frame. -/
theorem sent_without_link :
    System.start.Initial ∧ ∀ es ∈ [requestFirst, noiseForUa, otherMeter, afterRelease],
      ¬ OnAcknowledged
        (Runs.run (Runs.observed System.step OpenedLink.note) (System.start, ⟨none, false⟩) es)
        (.gwRun ⟨0, 0⟩) :=
  ⟨System.start_initial, by decide +kernel⟩

/-- The frames of an association that a UA acknowledges are in order. -/
example :
    Runs.Along (Runs.observed System.step OpenedLink.note) OnAcknowledged
      (System.start, ⟨none, false⟩) (lateRun ++ [.gwRun ⟨0, 0⟩]) := by
  decide +kernel

end Unopened
end DlmsGateway
