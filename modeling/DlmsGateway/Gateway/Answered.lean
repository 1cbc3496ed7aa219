import DlmsGateway.Gateway.Link

/-!
# Delivery of the answer to a request

From `RESPONSE` the answer of the meter goes to `HDLC_tmp` and, after an RLRQ
only, through the two states of the DISC exchange before it is converted.  A
history variable records what was taken from RS485 since the request and which
gateway frames were handed over.  The answer waits in `HDLC_tmp` until it is
converted; it is lost only if the wait for the reply to the DISC times out.
-/
set_option autoImplicit false
namespace DlmsGateway

open ByteStore

/-- The answer of a meter in one I-frame, which fits in `RX`. -/
structure Answer where
  link : ReplyLink
  control : UInt8
  apdu : List UInt8
  fits : link.frameSize ([0xE6, 0xE7, 0x00] ++ apdu) ≤ 2048

namespace Answer

def frame (a : Answer) : List UInt8 :=
  a.link.iFrame false a.control ([0xE6, 0xE7, 0x00] ++ a.apdu)

/-- The gateway frame that carries it to the client. -/
def delivered (a : Answer) : List UInt8 := a.link.gatewayFrame a.apdu

end Answer

/-- What was read in `RESPONSE` and what was handed over since the request was taken. -/
structure AnswerHistory where
  read : List (List UInt8)
  placed : List (List UInt8)

def Buffer.received (b : Buffer) : List UInt8 := window b.rxByte 0 b.rxCount.toNat

namespace GwRun

def TakesAnswer (s : GwRun) : Prop := s.globals.gwState = .response ∧ 0 < s.hdlc.rxCount

instance (s : GwRun) : Decidable s.TakesAnswer := inferInstanceAs (Decidable (_ ∧ _))

/-- The wait for the reply to the DISC ends with nothing received. -/
def DiscTimesOut (s : GwRun) (now : Timeval) : Prop :=
  s.globals.gwState = .discResponse ∧ s.timedOut now = true ∧ ¬ 0 < s.hdlc.rxCount

instance (s : GwRun) (now : Timeval) : Decidable (s.DiscTimesOut now) :=
  inferInstanceAs (Decidable (_ ∧ _))

end GwRun

def AnswerHistory.note (h : AnswerHistory) (s : System) : Event → AnswerHistory
  | .gwRun now =>
      if s.Takes then ⟨[], []⟩
      else if s.TakesAnswer then { h with read := h.read ++ [s.hdlc.received] }
      else if s.HandsOver then { h with placed := h.placed ++ [(s.toGwRun.step now).gw.outgoing] }
      else h
  | _ => h

theorem AnswerHistory.note_other (h : AnswerHistory) (s : System) {e : Event}
    (other : ¬ System.IsGwRun e) : h.note s e = h := by
  cases e with
  | gwRun now => exact absurd trivial other
  | _ => rfl

/-- How many states an answer in `HDLC_tmp` still has before it. -/
def GwState.remaining : GwState → Nat
  | .waitForGetFrame => 0
  | .responseForMdm => 1
  | .discResponse => 2
  | .discRequest => 3
  | .response | .segment | .informationFrame | .snrmResponse | .snrmRequest => 4

/-- An answer that was read is handed over once, and is so when the next request is waited for;
until then every iteration brings it further, but for the wait for the reply to a DISC. -/
def AnswerDelivered (p : System × AnswerHistory) : Event → Prop
  | .gwRun now => ∀ a : Answer, p.2.read = [a.frame] →
      if p.1.globals.gwState = .waitForGetFrame then p.2.placed = [a.delivered]
      else p.2.placed = [] ∧
        (p.1.globals.gwState = .discResponse ∧ ¬ 0 < p.1.hdlc.rxCount ∨
          (p.1.toGwRun.step now).globals.gwState.remaining < p.1.globals.gwState.remaining)
  | _ => True

/-- The condition on an iteration: the wait for the reply to a DISC does not time out, and no
earlier reply is left half reassembled when a request is taken. -/
def System.KeepsAnswer (s : System) : Event → Prop
  | .gwRun now => ¬ s.DiscTimesOut now ∧ (s.Takes → s.globals.segmentBit ≠ .middleFrame)
  | _ => True

instance (s : System) : ∀ e, Decidable (s.KeepsAnswer e)
  | .gwRun _ => inferInstanceAs (Decidable (_ ∧ (_ → _)))
  | .clientRecv .. | .clientConnect | .clientInactive | .accept | .listenRecv .. | .push _
  | .send .. | .serialRead _ | .serialWrite => .isTrue trivial

/-! ## The invariant -/

/-- Where the answer is, state by state. -/
structure AnswerStored (s : GwRun) (h : AnswerHistory) : Prop where
  idle : s.globals.gwState = .waitForGetFrame → ∀ a : Answer, h.read = [a.frame] →
    h.placed = [a.delivered]
  opening : s.globals.gwState.phase = .opening →
    h = ⟨[], []⟩ ∧ s.globals.segmentBit ≠ .middleFrame
  unread : s.globals.gwState.phase = .answering → h.read = [] →
    s.globals.gwState = .response ∧ h.placed = [] ∧ s.globals.segmentBit ≠ .middleFrame
  stored : s.globals.gwState.phase = .answering → ∀ a : Answer, h.read = [a.frame] →
    s.globals.gwState.remaining < 4 ∧ s.hdlcTmp.Holds a.frame ∧ h.placed = [] ∧
      s.globals.segmentBit ≠ .middleFrame

section Stored
variable {s t : GwRun} {h : AnswerHistory} {now : Timeval}

theorem answerStored_of_same (stored : AnswerStored s h) (globals : t.globals = s.globals)
    (hdlcTmp : t.hdlcTmp = s.hdlcTmp) : AnswerStored t h where
  idle := by rw [globals]; exact stored.idle
  opening := by rw [globals]; exact stored.opening
  unread := by rw [globals]; exact stored.unread
  stored := by rw [globals, hdlcTmp]; exact stored.stored

theorem answerStored_of_idle (idle : s.globals.gwState = .waitForGetFrame)
    (done : ∀ a : Answer, h.read = [a.frame] → h.placed = [a.delivered]) : AnswerStored s h where
  idle _ := done
  opening phase := by simp [idle, GwState.phase] at phase
  unread phase := by simp [idle, GwState.phase] at phase
  stored phase := by simp [idle, GwState.phase] at phase

/-- With nothing read since the request, every state up to `RESPONSE` is fine. -/
theorem answerStored_of_unread (early : s.globals.gwState.remaining = 4 ∧
      s.globals.gwState ≠ .segment ∨ s.globals.gwState = .waitForGetFrame)
    (single : s.globals.segmentBit ≠ .middleFrame) : AnswerStored s ⟨[], []⟩ where
  idle _ a read := by cases read
  opening _ := ⟨rfl, single⟩
  unread phase _ := by
    refine ⟨?_, rfl, single⟩
    revert phase early
    cases s.globals.gwState <;> simp [GwState.phase, GwState.remaining]
  stored _ a read := by cases read

theorem answerStored_of_read (phase : s.globals.gwState.phase = .answering) (some_ : h.read ≠ [])
    (kept : ∀ a : Answer, h.read = [a.frame] → s.globals.gwState.remaining < 4 ∧
      s.hdlcTmp.Holds a.frame ∧ h.placed = [] ∧ s.globals.segmentBit ≠ .middleFrame) :
    AnswerStored s h where
  idle state := by simp [state, GwState.phase] at phase
  opening state := by simp [state] at phase
  unread _ none_ := absurd none_ some_
  stored _ := kept

theorem answerStored_of_no_answer (some_ : h.read ≠ []) (none_ : ∀ a : Answer, h.read ≠ [a.frame])
    (later : s.globals.gwState.phase ≠ .opening) : AnswerStored s h where
  idle _ a read := absurd read (none_ a)
  opening phase := absurd phase later
  unread _ empty := absurd empty some_
  stored _ a read := absurd read (none_ a)

theorem holds_takeRx {b src : Buffer} {frame : List UInt8} (short : frame.length ≤ 2048)
    (received : src.received = frame) : (b.takeRx src).Holds frame := by
  have count : src.rxCount.toNat = frame.length := by
    rw [← received, Buffer.received, length_window]
  rw [Buffer.received, count] at received
  rw [Buffer.Holds]
  refine Eq.trans (window_congr _ _ ?_) received
  intro k bound
  rw [Nat.zero_add, Buffer.rxByte_of_lt _ (by omega)]
  have copied := Bytes.get_copy_inside b.rx 0 src.rxByte bound (by omega)
  rw [Nat.zero_add] at copied
  rw [Buffer.takeRx, count]
  exact copied

theorem length_iFrame (link : ReplyLink) (segmented : Bool) (control : UInt8) (info : List UInt8) :
    (link.iFrame segmented control info).length = link.frameSize info := by
  simp only [ReplyLink.iFrame, ReplyLink.frameSize, List.length_append, List.length_cons,
    List.length_nil, ReplyLink.length_frameHead]
  omega

theorem length_frame (a : Answer) : a.frame.length ≤ 2048 := by
  rw [Answer.frame, length_iFrame]
  exact a.fits

/-! ## One iteration -/

theorem note_of_other (none_ : ¬ s.Takes) (busy : ¬ s.TakesAnswer)
    (other : s.globals.gwState ≠ .responseForMdm) {u : System} (same : u.toGwRun = s) :
    h.note u (.gwRun now) = h := by
  subst same
  rw [AnswerHistory.note, if_neg none_, if_neg busy, if_neg fun handsOver => other handsOver.1]

theorem handsOver_answer {a : Answer} (holds : s.hdlcTmp.Holds a.frame)
    (fresh : s.globals.segmentBit ≠ .middleFrame) :
    0 < (meter2GwFrameConvertor s.hdlcTmp s.gw s.globals s.ctrl).ret ∧
      (meter2GwFrameConvertor s.hdlcTmp s.gw s.globals s.ctrl).gw.outgoing = a.delivered := by
  constructor
  · obtain ⟨accepted, bit, -⟩ := ReplyLink.accepted_iFrame holds a.fits
    have clear : ¬ s.hdlcTmp.rxByte 1 &&& 0x08 = 0x08 := fun set =>
      Bool.false_ne_true (bit.mp set)
    rw [convertor_of_accepted _ _ _ _ accepted, (ret_deliver _ _ _ _ _).2, segmentBit_classify,
      if_neg clear, if_neg fresh]
    decide
  · exact single_reply_delivered (s := ⟨s.gw, s.globals, s.ctrl⟩) holds a.fits fresh

end Stored

section Iteration
variable {s : System} {h : AnswerHistory} (now : Timeval)

theorem next_of_responseForMdm (state : s.globals.gwState = .responseForMdm) :
    (s.toGwRun.step now).globals.gwState.phase = .idle ∨
      (s.toGwRun.step now).globals.gwState.phase = .answering := by
  rcases GwRun.gwState_of_converting s.toGwRun now state with idle | segment | converting
  · exact .inl (by rw [idle]; rfl)
  · exact .inr (by rw [segment]; rfl)
  · exact .inr (by rw [converting]; rfl)

theorem answerStored_of_takes (takes : s.Takes) (single : s.globals.segmentBit ≠ .middleFrame) :
    AnswerStored (s.toGwRun.step now) (h.note s (.gwRun now)) := by
  rw [AnswerHistory.note, if_pos takes]
  have after := GwRun.step_of_takes now takes
  apply answerStored_of_unread
  · rw [after]
    unfold GwRun.entryState
    split <;> exact .inl ⟨rfl, by simp⟩
  · rw [after]
    exact single

theorem answerStored_of_opening (stored : AnswerStored s.toGwRun h)
    (opening : s.globals.gwState.phase = .opening) :
    AnswerStored (s.toGwRun.step now) (h.note s (.gwRun now)) := by
  obtain ⟨rfl, single⟩ := stored.opening opening
  have none_ : ¬ s.Takes := fun takes => by simp [takes.1, GwState.phase] at opening
  have busy : ¬ s.TakesAnswer := fun takes => by simp [takes.1, GwState.phase] at opening
  have other : s.globals.gwState ≠ .responseForMdm := fun state => by
    simp [state, GwState.phase] at opening
  rw [note_of_other none_ busy other rfl]
  obtain ⟨state, after⟩ := GwRun.globals_step_opening now opening
  have single' : (s.toGwRun.step now).globals.segmentBit ≠ .middleFrame := by
    rw [after]
    exact single
  apply answerStored_of_unread _ single'
  cases state : s.globals.gwState with
  | snrmRequest =>
      simp only [GwRun.step, state, GwRun.snrmRequest]
      split
      · exact .inl ⟨rfl, by simp⟩
      · exact .inr rfl
  | snrmResponse =>
      simp only [GwRun.step, state]
      by_cases received : 0 < s.hdlc.rxCount
      · rw [GwRun.snrmResponse_of_received now received]
        exact .inl ⟨rfl, by simp⟩
      · rw [GwRun.snrmResponse_of_silent now received]
        split
        · exact .inr rfl
        · exact .inl (by simp [state, GwState.remaining])
  | informationFrame =>
      simp only [GwRun.step, state, GwRun.informationFrame]
      split
      · exact .inl ⟨rfl, by simp⟩
      · exact .inr rfl
  | _ => simp [state, GwState.phase] at opening

theorem answerStored_of_response (stored : AnswerStored s.toGwRun h)
    (state : s.globals.gwState = .response) :
    AnswerStored (s.toGwRun.step now) (h.note s (.gwRun now)) := by
  have answering : s.globals.gwState.phase = .answering := by rw [state]; rfl
  have none_ : ¬ s.Takes := fun takes => by simp [takes.1] at state
  have unread : ∀ a : Answer, h.read ≠ [a.frame] := by
    intro a read
    have remaining := (stored.stored answering a read).1
    simp [state, GwState.remaining] at remaining
  have stepped : s.toGwRun.step now = s.toGwRun.response now := by simp only [GwRun.step, state]
  by_cases received : 0 < s.hdlc.rxCount
  · rw [AnswerHistory.note, if_neg none_, if_pos ⟨state, received⟩, stepped,
      GwRun.response_of_received now received]
    apply answerStored_of_read
    · cases flag : s.rlrqFlag <;> simp [GwState.phase]
    · simp
    · intro a read
      obtain ⟨empty, frame⟩ : h.read = [] ∧ s.hdlc.received = a.frame := by
        cases before : h.read with
        | nil => simpa [before] using read
        | cons first rest => simp [before] at read
      obtain ⟨-, nothing, single⟩ := stored.unread answering empty
      refine ⟨?_, holds_takeRx (length_frame a) frame, nothing, single⟩
      cases flag : s.rlrqFlag <;> simp [GwState.remaining]
  · have busy : ¬ s.TakesAnswer := fun takes => received takes.2
    rw [note_of_other none_ busy (by simp [state]) rfl, stepped,
      GwRun.response_of_silent now received]
    split
    · exact answerStored_of_idle rfl fun a read => absurd read (unread a)
    · exact stored

/-- The answer that was read is handed over as it came. -/
theorem answerStored_of_handing (stored : AnswerStored s.toGwRun h)
    (state : s.globals.gwState = .responseForMdm) (some_ : h.read ≠ []) :
    AnswerStored (s.toGwRun.step now) (h.note s (.gwRun now)) := by
  have answering : s.globals.gwState.phase = .answering := by rw [state]; rfl
  have none_ : ¬ s.Takes := fun takes => by simp [takes.1] at state
  have busy : ¬ s.TakesAnswer := fun takes => by simp [takes.1] at state
  by_cases answer : ∃ a : Answer, h.read = [a.frame]
  · obtain ⟨a, read⟩ := answer
    obtain ⟨-, holds, nothing, single⟩ := stored.stored answering a read
    obtain ⟨positive, handed⟩ := handsOver_answer holds single
    have stepped : s.toGwRun.step now = s.toGwRun.responseForMdm := by
      simp only [GwRun.step, state]
    rw [AnswerHistory.note, if_neg none_, if_neg busy, if_pos ⟨state, positive⟩, stepped,
      GwRun.gw_responseForMdm, handed, nothing]
    apply answerStored_of_idle
    · rw [GwRun.globals_responseForMdm]
      dsimp only
      rw [if_pos positive]
    · intro b same
      obtain ⟨-, holds', -, -⟩ := stored.stored answering b same
      rw [← handed, (handsOver_answer holds' single).2]
      rfl
  · have unanswered : ∀ a : Answer, h.read ≠ [a.frame] := fun a read => answer ⟨a, read⟩
    have read : (h.note s (.gwRun now)).read = h.read := by
      rw [AnswerHistory.note, if_neg none_, if_neg busy]
      split <;> rfl
    apply answerStored_of_no_answer
    · rw [read]
      exact some_
    · rw [read]
      exact unanswered
    · have idle_or_answering := next_of_responseForMdm now state
      intro opening
      simp [opening] at idle_or_answering

theorem answerStored_of_stored (stored : AnswerStored s.toGwRun h)
    (answering : s.globals.gwState.phase = .answering) (other : s.globals.gwState ≠ .response)
    (kept : ¬ s.DiscTimesOut now) :
    AnswerStored (s.toGwRun.step now) (h.note s (.gwRun now)) := by
  have none_ : ¬ s.Takes := fun takes => by simp [takes.1, GwState.phase] at answering
  have busy : ¬ s.TakesAnswer := fun takes => other takes.1
  have some_ : h.read ≠ [] := fun empty => other (stored.unread answering empty).1
  cases state : s.globals.gwState with
  | segment =>
      rw [note_of_other none_ busy (by simp [state]) rfl]
      simp only [GwRun.step, state]
      apply answerStored_of_read rfl some_
      intro a read
      have remaining := (stored.stored answering a read).1
      simp [state, GwState.remaining] at remaining
  | discRequest =>
      rw [note_of_other none_ busy (by simp [state]) rfl]
      simp only [GwRun.step, state, GwRun.discRequest]
      split <;>
        exact answerStored_of_read rfl some_ fun a read =>
          ⟨by simp [GwState.remaining], (stored.stored answering a read).2⟩
  | discResponse =>
      rw [note_of_other none_ busy (by simp [state]) rfl]
      simp only [GwRun.step, state]
      by_cases received : 0 < s.hdlc.rxCount
      · rw [GwRun.discResponse_of_received now received]
        exact answerStored_of_read rfl some_ fun a read =>
          ⟨by simp [GwState.remaining], (stored.stored answering a read).2⟩
      · have early : ¬ s.timedOut now = true := fun late => kept ⟨state, late, received⟩
        rw [GwRun.discResponse_of_silent now received, if_neg early]
        exact stored
  | responseForMdm => exact answerStored_of_handing now stored state some_
  | _ => simp [state, GwState.phase] at answering other

theorem answerStored_step (stored : AnswerStored s.toGwRun h) (kept : s.KeepsAnswer (.gwRun now)) :
    AnswerStored (s.toGwRun.step now) (h.note s (.gwRun now)) := by
  by_cases takes : s.Takes
  · exact answerStored_of_takes now takes (kept.2 takes)
  cases phase : s.globals.gwState.phase with
  | idle =>
      have waiting : s.globals.gwState = .waitForGetFrame := by
        revert phase
        cases s.globals.gwState <;> simp [GwState.phase]
      rw [note_of_other takes (by simp [GwRun.TakesAnswer, waiting]) (by simp [waiting]) rfl,
        GwRun.step_of_idle now waiting fun some_ => takes ⟨waiting, some_⟩]
      exact stored
  | opening => exact answerStored_of_opening now stored phase
  | answering =>
      by_cases state : s.globals.gwState = .response
      · exact answerStored_of_response now stored state
      · exact answerStored_of_stored now stored phase state kept.1

theorem answerDelivered_of_stored (stored : AnswerStored s.toGwRun h) :
    AnswerDelivered (s, h) (.gwRun now) := by
  intro a read
  dsimp only
  split
  · rename_i idle
    exact stored.idle idle a read
  rename_i busy
  have answering : s.globals.gwState.phase = .answering := by
    cases phase : s.globals.gwState.phase with
    | answering => rfl
    | opening =>
        rw [(stored.opening phase).1] at read
        cases read
    | idle =>
        revert phase busy
        cases s.globals.gwState <;> simp [GwState.phase]
  obtain ⟨early, holds, nothing, single⟩ := stored.stored answering a read
  refine ⟨nothing, ?_⟩
  cases state : s.globals.gwState with
  | responseForMdm =>
      simp only [GwRun.step, state, GwRun.globals_responseForMdm]
      rw [if_pos (handsOver_answer holds single).1]
      exact .inr (by simp [GwState.remaining])
  | discRequest =>
      simp only [GwRun.step, state, GwRun.discRequest]
      split <;> exact .inr (by simp [GwState.remaining])
  | discResponse =>
      by_cases received : 0 < s.hdlc.rxCount
      · simp only [GwRun.step, state]
        rw [GwRun.discResponse_of_received now received]
        exact .inr (by simp [GwState.remaining])
      · exact .inl ⟨rfl, received⟩
  | _ => simp [state, GwState.remaining] at early busy

end Iteration

theorem answerStored_note {s : System} {h : AnswerHistory} (e : Event)
    (stored : AnswerStored s.toGwRun h) (kept : s.KeepsAnswer e) :
    AnswerStored (s.step e).toGwRun (h.note s e) := by
  by_cases own : System.IsGwRun e
  · obtain ⟨now, rfl⟩ := System.exists_of_isGwRun own
    exact answerStored_step now stored kept
  · have same := System.toGateway_step s e own
    rw [h.note_other s own]
    exact answerStored_of_same stored (congrArg Gateway.globals same) (congrArg Gateway.hdlcTmp same)

/-- In a run in which the DISC exchange never times out, every answer read in `RESPONSE` is
handed over exactly once before the next request is taken. -/
theorem answers_delivered (s : System) (es : List Event) (initial : s.Initial)
    (kept : Runs.Along System.step System.KeepsAnswer s es) :
    Runs.Along (Runs.observed System.step AnswerHistory.note) AnswerDelivered (s, ⟨[], []⟩) es := by
  apply Runs.along_of_invariant (fun p e => p.1.KeepsAnswer e)
    (fun p => AnswerStored p.1.toGwRun p.2)
  · exact fun p e stored admitted => answerStored_note e stored admitted
  · intro p e stored _
    cases e with
    | gwRun now => exact answerDelivered_of_stored now stored
    | _ => trivial
  · exact answerStored_of_idle initial.gwState fun a read => by cases read
  · exact (Runs.along_observed _ _ _ es s _).mpr kept

section DiscTimeout

def releaseAnswer : Answer := ⟨meterLink, 0x30, [0x63, 0x00], by decide⟩

theorem length_releaseRequest : releaseRequest.length ≤ 2048 := by decide

theorem length_uaFrame : uaFrame.length ≤ 1024 := by decide

def releaseReceived : Event :=
  .clientRecv (some ⟨releaseRequest, length_releaseRequest⟩) System.noReply

/-- A release is answered by the meter, and the DISC after it is not. -/
def unansweredDisc : List Event :=
  [.clientConnect, releaseReceived, .gwRun ⟨0, 0⟩, .gwRun ⟨0, 0⟩,
    readFrame releaseAnswer.frame (by decide +kernel), .gwRun ⟨0, 0⟩, .gwRun ⟨0, 0⟩, .gwRun ⟨6, 0⟩]

theorem release_answer_dropped :
    ¬ ∀ (s : System) (es : List Event) (now : Timeval), s.Initial →
      AnswerDelivered (Runs.run (Runs.observed System.step AnswerHistory.note) (s, ⟨[], []⟩) es)
        (.gwRun now) := by
  intro always
  have delivered := always System.start unansweredDisc ⟨6, 0⟩ System.start_initial releaseAnswer
    (by decide +kernel)
  revert delivered
  decide +kernel

def answeredDisc : List Event :=
  [.clientConnect, releaseReceived, .gwRun ⟨0, 0⟩, .gwRun ⟨0, 0⟩,
    readFrame releaseAnswer.frame (by decide +kernel), .gwRun ⟨0, 0⟩, .gwRun ⟨0, 0⟩,
    readFrame uaFrame length_uaFrame, .gwRun ⟨0, 0⟩, .gwRun ⟨0, 0⟩, .gwRun ⟨0, 0⟩]

theorem answeredDisc_delivered :
    Runs.Along (Runs.observed System.step AnswerHistory.note) AnswerDelivered
      (System.start, ⟨[], []⟩) answeredDisc :=
  answers_delivered System.start answeredDisc System.start_initial (by decide +kernel)

end DiscTimeout
end DlmsGateway
