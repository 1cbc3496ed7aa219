import DlmsGateway.Gateway.Progress
import DlmsGateway.Gateway.Reassembly

/-!
# Isolation of replies

The reassembly globals are cleared when a single or last frame is delivered and
nowhere else, but `GW_Run` has other ways back to `WAIT_FOR_GET_FRAME`.  A
history variable records what was accepted since the request was taken.  As
long as no reply is dropped halfway, every gateway frame carries bytes of that
record only, and the record decides how the frame is classified.
-/
set_option autoImplicit false
namespace DlmsGateway

open ByteStore

/-- What the meter sent since the request was taken: the data bytes of the accepted frames, and
whether one of the frames had the segmentation bit. -/
structure ReplyHistory where
  data : List UInt8
  segmented : Bool

/-- The data bytes of a frame among the bytes that were read; the rest of `RX` is older. -/
def MeterFrame.receivedData (f : MeterFrame) (hdlc : Buffer) : List UInt8 :=
  (f.data hdlc.rxByte).take (hdlc.rxCount.toNat - f.dataStart)

namespace ReplyHistory

def converted (h : ReplyHistory) (hdlc : Buffer) : ReplyHistory :=
  if hdlc.FormatRight then
    { data := h.data ++ match hdlc.acceptedFrame with
        | some f => f.receivedData hdlc
        | none => []
      segmented := h.segmented || decide hdlc.Segmented }
  else h

def note (h : ReplyHistory) (s : System) : Event → ReplyHistory
  | .gwRun _ =>
      if s.Takes then ⟨[], false⟩
      else if s.globals.gwState = .responseForMdm then h.converted s.hdlcTmp
      else h
  | _ => h

end ReplyHistory

/-- The conversion in this iteration hands a frame to `GW_STRUCT->TX`. -/
def GwRun.HandsOver (s : GwRun) : Prop :=
  s.globals.gwState = .responseForMdm ∧
    0 < (meter2GwFrameConvertor s.hdlcTmp s.gw s.globals s.ctrl).ret

/-- A request finds nothing left of an earlier reply; a frame that is handed over carries only
data accepted since its request was taken, and is a last frame exactly if there was a segment. -/
def Isolated (p : System × ReplyHistory) : Event → Prop
  | .gwRun now =>
      (p.1.Takes → p.1.globals.Clean) ∧
      (p.1.HandsOver →
        gatewayPayload (p.1.step (.gwRun now)).gw.outgoing <+:
            (p.2.note p.1 (.gwRun now)).data ∧
          ((p.1.step (.gwRun now)).globals.segmentBit = .lastFrame ↔ p.2.segmented = true))
  | _ => True

instance (s : GwRun) : Decidable s.HandsOver := inferInstanceAs (Decidable (_ ∧ _))

instance (p : System × ReplyHistory) : ∀ e, Decidable (Isolated p e)
  | .gwRun _ => inferInstanceAs (Decidable ((_ → _) ∧ (_ → _)))
  | .clientRecv .. | .clientConnect | .clientInactive | .accept | .listenRecv .. | .push _
  | .send .. | .serialRead _ | .serialWrite => .isTrue trivial

/-- The condition on an iteration of `GW_Run`. -/
structure GwRun.Orderly (s : GwRun) (now : Timeval) : Prop where
  /-- No timeout drops a reply of which segments were received. -/
  patient : s.GivesUp now → s.globals.Clean
  /-- A last segment passes the checks, or there is nothing collected that it could leave. -/
  lastAccepted : s.globals.gwState = .responseForMdm → s.hdlcTmp.FormatRight →
    ¬ s.hdlcTmp.Segmented → s.globals.segmentBit = .middleFrame →
      (∃ f, s.hdlcTmp.Accepted f) ∨ s.globals.lastByteBuffer = 0
  /-- An accepted frame lies within the bytes that were read. -/
  complete : s.globals.gwState = .responseForMdm → ∀ f, s.hdlcTmp.Accepted f →
    f.size ≤ s.hdlcTmp.rxCount.toNat
  /-- The collected bytes stay inside their array. -/
  room : s.globals.gwState = .responseForMdm → ∀ f, s.hdlcTmp.Accepted f →
    s.globals.lastByteBuffer.toNat + f.dataLen ≤ 8152
  /-- A reassembled frame stays in front of the counts of `GW_STRUCT`. -/
  fits : s.globals.gwState = .responseForMdm → ∀ f, s.hdlcTmp.Accepted f →
    ¬ s.hdlcTmp.Segmented → s.globals.segmentBit = .middleFrame →
      f.prefixSize + s.globals.lastByteBuffer.toNat + f.dataLen ≤ 4099

instance (s : GwRun) (now : Timeval) : Decidable (s.Orderly now) :=
  decidable_of_iff
    ((s.GivesUp now → s.globals.Clean) ∧
      (s.globals.gwState = .responseForMdm → s.hdlcTmp.FormatRight → ¬ s.hdlcTmp.Segmented →
        s.globals.segmentBit = .middleFrame →
          s.hdlcTmp.acceptedFrame.isSome ∨ s.globals.lastByteBuffer = 0) ∧
      (s.globals.gwState = .responseForMdm → ∀ f ∈ s.hdlcTmp.acceptedFrame,
        f.size ≤ s.hdlcTmp.rxCount.toNat ∧ s.globals.lastByteBuffer.toNat + f.dataLen ≤ 8152 ∧
          (¬ s.hdlcTmp.Segmented → s.globals.segmentBit = .middleFrame →
            f.prefixSize + s.globals.lastByteBuffer.toNat + f.dataLen ≤ 4099)))
    (by
      simp only [← Buffer.forall_accepted_iff, Option.isSome_iff_exists,
        Buffer.acceptedFrame_eq_some]
      constructor
      · rintro ⟨patient, lastAccepted, each⟩
        exact ⟨patient, lastAccepted, fun c f ok => (each c f ok).1,
          fun c f ok => (each c f ok).2.1, fun c f ok => (each c f ok).2.2⟩
      · rintro ⟨patient, lastAccepted, complete, room, fits⟩
        exact ⟨patient, lastAccepted, fun c f ok => ⟨complete c f ok, room c f ok, fits c f ok⟩⟩)

def System.OrderlyStep (s : System) : Event → Prop
  | .gwRun now => s.Orderly now
  | _ => True

instance (s : System) : ∀ e, Decidable (s.OrderlyStep e)
  | .gwRun now => inferInstanceAs (Decidable (s.Orderly now))
  | .clientRecv .. | .clientConnect | .clientInactive | .accept | .listenRecv .. | .push _
  | .send .. | .serialRead _ | .serialWrite => .isTrue trivial

/-! ## The invariant -/

/-- The globals hold exactly what the history says, phase by phase. -/
structure Recorded (g : Globals) (h : ReplyHistory) : Prop where
  idle : g.gwState.phase = .idle → g.Clean
  opening : g.gwState.phase = .opening → g.Clean ∧ h = ⟨[], false⟩
  answering : g.gwState.phase = .answering → g.collected = h.data ∧
    (g.segmentBit = .middleFrame ↔ h.segmented = true) ∧ (h.segmented = false → h.data = [])

theorem recorded_of_clean {g : Globals} {h : ReplyHistory} (state : g.gwState = .waitForGetFrame)
    (clean : g.Clean) : Recorded g h :=
  ⟨fun _ => clean, by simp [state, GwState.phase], by simp [state, GwState.phase]⟩

theorem recorded_of_empty {g : Globals} (clean : g.Clean) : Recorded g ⟨[], false⟩ where
  idle _ := clean
  opening _ := ⟨clean, rfl⟩
  answering _ := ⟨collected_of_clean clean, by simp [clean.1], fun _ => rfl⟩

theorem receivedData_of_complete {f : MeterFrame} {hdlc : Buffer}
    (complete : f.size ≤ hdlc.rxCount.toNat) : f.receivedData hdlc = f.data hdlc.rxByte := by
  rw [MeterFrame.receivedData, List.take_of_length_le]
  rw [length_data, MeterFrame.dataLen]
  omega

section Convert
variable {s : GwRun} {h : ReplyHistory}

theorem converted_of_accepted {f : MeterFrame} (accepted : s.hdlcTmp.Accepted f)
    (complete : f.size ≤ s.hdlcTmp.rxCount.toNat) :
    h.converted s.hdlcTmp = ⟨h.data ++ f.data s.hdlcTmp.rxByte,
      h.segmented || decide s.hdlcTmp.Segmented⟩ := by
  rw [ReplyHistory.converted, if_pos accepted.1.1,
    Buffer.acceptedFrame_eq_some.mpr accepted]
  simp only [receivedData_of_complete complete]

theorem converted_of_refused (right : s.hdlcTmp.FormatRight)
    (refused : ∀ f, ¬ s.hdlcTmp.Accepted f) :
    h.converted s.hdlcTmp = ⟨h.data, h.segmented || decide s.hdlcTmp.Segmented⟩ := by
  rw [ReplyHistory.converted, if_pos right, Buffer.acceptedFrame_eq_none refused]
  simp

/-- A frame that fails a check behind the format keeps the record, if a last segment leaves
nothing. -/
theorem recorded_of_refused (recorded : Recorded s.globals h)
    (converting : s.globals.gwState = .responseForMdm) (right : s.hdlcTmp.FormatRight)
    (refused : ∀ f, ¬ s.hdlcTmp.Accepted f)
    (nothing : ¬ s.hdlcTmp.Segmented → s.globals.segmentBit = .middleFrame →
      s.globals.lastByteBuffer = 0) :
    Recorded (s.globals.classify (s.hdlcTmp.rxByte 1)) (h.converted s.hdlcTmp) := by
  rw [converted_of_refused right refused]
  obtain ⟨collected, -, -⟩ := recorded.answering (by rw [converting]; rfl)
  by_cases bit : s.hdlcTmp.Segmented
  · rw [classify_middle bit]
    exact ⟨by simp [GwState.phase], by simp [GwState.phase],
      fun _ => ⟨collected, by simp [bit], by simp [bit]⟩⟩
  · by_cases midway : s.globals.segmentBit = .middleFrame
    · rw [classify_last bit midway]
      exact recorded_of_clean rfl ⟨by simp, nothing bit midway⟩
    · rw [classify_single bit midway]
      exact recorded_of_clean rfl ⟨by simp, rfl⟩

theorem recorded_of_delivered (recorded : Recorded s.globals h)
    (converting : s.globals.gwState = .responseForMdm) {f : MeterFrame}
    (accepted : s.hdlcTmp.Accepted f) (complete : f.size ≤ s.hdlcTmp.rxCount.toNat)
    (room : s.globals.lastByteBuffer.toNat + f.dataLen ≤ 8152) :
    Recorded (deliver s.hdlcTmp.rxByte f s.gw (s.globals.classify (s.hdlcTmp.rxByte 1))
      s.ctrl).globals (h.converted s.hdlcTmp) := by
  rw [converted_of_accepted accepted complete]
  obtain ⟨collected, -, -⟩ := recorded.answering (by rw [converting]; rfl)
  by_cases bit : s.hdlcTmp.Segmented
  · rw [classify_middle bit, deliver_middle _ _ _ _ _ rfl]
    refine ⟨by simp [GwState.phase], by simp [GwState.phase],
      fun _ => ⟨?_, by simp [bit], by simp [bit]⟩⟩
    have grown := collected_collect s.hdlcTmp.rxByte f
      { s.globals with segmentBit := .middleFrame, gwState := .segment } room
    rw [grown, ← collected]
    rfl
  · by_cases midway : s.globals.segmentBit = .middleFrame
    · rw [classify_last bit midway, deliver_last _ _ _ _ _ rfl]
      exact recorded_of_clean rfl ⟨by simp [Globals.clearBuffer], rfl⟩
    · rw [classify_single bit midway, deliver_single _ _ _ _ _ rfl]
      exact recorded_of_clean rfl ⟨by simp [Globals.clearBuffer], rfl⟩

theorem recorded_of_same_phase {g : Globals} (recorded : Recorded g h) (state : GwState)
    (same : state.phase = g.gwState.phase) : Recorded { g with gwState := state } h :=
  ⟨fun idle => recorded.idle (by rw [← same]; exact idle),
    fun opening => recorded.opening (by rw [← same]; exact opening),
    fun answering => recorded.answering (by rw [← same]; exact answering)⟩

theorem recorded_responseForMdm {now : Timeval} (recorded : Recorded s.globals h)
    (converting : s.globals.gwState = .responseForMdm) (orderly : s.Orderly now) :
    Recorded s.responseForMdm.globals (h.converted s.hdlcTmp) := by
  by_cases right : s.hdlcTmp.FormatRight
  · by_cases accepted : ∃ f, s.hdlcTmp.Accepted f
    · obtain ⟨f, accepted⟩ := accepted
      have delivered := recorded_of_delivered recorded converting accepted
        (orderly.complete converting f accepted) (orderly.room converting f accepted)
      rw [GwRun.globals_responseForMdm, convertor_of_accepted _ _ _ _ accepted]
      dsimp only
      split
      · rename_i positive
        apply recorded_of_same_phase delivered
        rw [(ret_deliver _ _ _ _ _).2, segmentBit_classify] at positive
        rw [gwState_deliver, gwState_classify]
        by_cases bit : s.hdlcTmp.rxByte 1 &&& 0x08 = 0x08
        · simp [bit] at positive
        · rw [if_neg bit]
      · exact delivered
    · have refused : ∀ f, ¬ s.hdlcTmp.Accepted f := fun f ok => accepted ⟨f, ok⟩
      obtain ⟨code, sign, outcome⟩ :=
        convertor_of_not_accepted s.hdlcTmp s.gw s.globals s.ctrl right refused
      rw [GwRun.globals_responseForMdm, outcome]
      dsimp only
      rw [if_neg (by omega)]
      apply recorded_of_refused recorded converting right refused
      intro last midway
      rcases orderly.lastAccepted converting right last midway with ⟨f, ok⟩ | empty
      · exact absurd ok (refused f)
      · exact empty
  · rw [GwRun.responseForMdm_of_format_wrong s right, ReplyHistory.converted, if_neg right]
    exact recorded

theorem recorded_step {s : System} {h : ReplyHistory} (now : Timeval)
    (recorded : Recorded s.globals h) (orderly : s.Orderly now) :
    Recorded (s.toGwRun.step now).globals (h.note s (.gwRun now)) := by
  by_cases takes : s.Takes
  · rw [GwRun.step_of_takes now takes, ReplyHistory.note, if_pos takes]
    apply recorded_of_empty
    exact recorded.idle (by rw [takes.1]; rfl)
  rw [ReplyHistory.note, if_neg takes]
  by_cases converting : s.globals.gwState = .responseForMdm
  · rw [if_pos converting, GwRun.step, converting]
    exact recorded_responseForMdm recorded converting orderly
  rw [if_neg converting]
  cases phase : s.globals.gwState.phase with
  | idle =>
      have waiting : s.globals.gwState = .waitForGetFrame := by
        revert phase
        cases s.globals.gwState <;> simp [GwState.phase]
      rw [GwRun.step_of_idle now waiting fun some_ => takes ⟨waiting, some_⟩]
      exact recorded
  | opening =>
      obtain ⟨state, after⟩ := GwRun.globals_step_opening now phase
      obtain ⟨clean, empty⟩ := recorded.opening phase
      rw [after, empty]
      exact recorded_of_empty clean
  | answering =>
      obtain ⟨state, after, still | ⟨dropped, givesUp⟩⟩ :=
        GwRun.globals_step_answering now phase converting
      · rw [after]
        exact recorded_of_same_phase recorded state (still.trans phase.symm)
      · rw [after]
        exact recorded_of_clean dropped (orderly.patient givesUp)

end Convert

/-! ## Isolation -/

section HandOver
variable {s : System} {h : ReplyHistory} {now : Timeval}

theorem handed_over_recorded (recorded : Recorded s.globals h)
    (converting : s.globals.gwState = .responseForMdm) (orderly : s.Orderly now) {f : MeterFrame}
    (accepted : s.hdlcTmp.Accepted f) (whole : ¬ s.hdlcTmp.Segmented) :
    let c := deliver s.hdlcTmp.rxByte f s.gw (s.globals.classify (s.hdlcTmp.rxByte 1)) s.ctrl
    gatewayPayload c.gw.outgoing <+: (h.converted s.hdlcTmp).data ∧
      (c.globals.segmentBit = .lastFrame ↔ h.segmented = true) := by
  obtain ⟨collected, midway_iff, fresh⟩ := recorded.answering (by rw [converting]; rfl)
  have room := orderly.room converting f accepted
  have bounds := prefixSize_le f
  rw [converted_of_accepted accepted (orderly.complete converting f accepted)]
  by_cases midway : s.globals.segmentBit = .middleFrame
  · rw [classify_last whole midway]
    generalize same : ({ s.globals with segmentBit := .lastFrame, gwState := .waitForGetFrame } :
      Globals) = g
    have bit : g.segmentBit = .lastFrame := by rw [← same]
    have counted : g.lastByteBuffer = s.globals.lastByteBuffer := by rw [← same]
    have before : g.collected = h.data := by rw [← same]; exact collected
    have space : g.lastByteBuffer.toNat + f.dataLen ≤ 8152 := by rw [counted]; exact room
    have fits := orderly.fits converting f accepted whole midway
    have after := toNat_lastByteBuffer_collect s.hdlcTmp.rxByte f g space
    rw [counted] at after
    constructor
    · rw [outgoing_last _ _ _ _ _ bit (by omega), collected_collect _ _ _ space, before]
      exact gatewayPayload_take f _ _ _
    · rw [segmentBit_deliver, bit]
      exact ⟨fun _ => midway_iff.mp midway, fun _ => rfl⟩
  · rw [classify_single whole midway]
    have unsegmented : h.segmented = false := by
      rw [← Bool.not_eq_true, ← midway_iff]
      exact midway
    constructor
    · have size := size_of_located accepted.1.2
      have sizeBound := recDataSize_le s.hdlcTmp.rxByte
      have real : f.apduLenReal ≤ f.size := by
        rw [MeterFrame.apduLenReal]
        omega
      rw [fresh unsegmented, List.nil_append, outgoing_single _ _ _ _ _ rfl (by omega)]
      exact gatewayPayload_take f _ _ _
    · rw [segmentBit_deliver, unsegmented]
      simp

theorem isolated_of_recorded (recorded : Recorded s.globals h) (orderly : s.Orderly now) :
    Isolated (s, h) (.gwRun now) := by
  constructor
  · intro takes
    exact recorded.idle (by rw [takes.1]; rfl)
  · intro ⟨converting, positive⟩
    obtain ⟨f, accepted, whole, outcome⟩ := ret_convertor_pos positive
    have idle : ¬ s.Takes := by
      intro takes
      rw [takes.1] at converting
      cases converting
    have handed := handed_over_recorded recorded converting orderly accepted whole
    rw [← outcome] at handed
    have stepped : (s.step (.gwRun now)).toGwRun = s.toGwRun.responseForMdm := by
      show s.toGwRun.step now = _
      rw [GwRun.step, converting]
    have gw : (s.step (.gwRun now)).gw = s.toGwRun.responseForMdm.gw := congrArg GwRun.gw stepped
    have globals : (s.step (.gwRun now)).globals = s.toGwRun.responseForMdm.globals :=
      congrArg (fun t : GwRun => t.globals) stepped
    rw [gw, globals, GwRun.gw_responseForMdm, GwRun.globals_responseForMdm]
    dsimp only
    rw [if_pos positive, ReplyHistory.note, if_neg idle, if_pos converting]
    exact handed

end HandOver

theorem recorded_note {s : System} {h : ReplyHistory} (e : Event) (recorded : Recorded s.globals h)
    (orderly : s.OrderlyStep e) : Recorded (s.step e).globals (h.note s e) := by
  cases e with
  | gwRun now => exact recorded_step now recorded orderly
  | _ =>
      rw [System.toGateway_step s _ id]
      exact recorded

/-- In a run in which no reply is dropped halfway, every gateway frame carries only data accepted
since its request was taken. -/
theorem replies_isolated (s : System) (es : List Event) (initial : s.Initial)
    (orderly : Runs.Along System.step System.OrderlyStep s es) :
    Runs.Along (Runs.observed System.step ReplyHistory.note) Isolated (s, ⟨[], false⟩) es := by
  have clean : s.globals.Clean := by
    rw [Globals.Clean, initial.segmentBit, initial.lastByteBuffer]
    decide
  apply Runs.along_of_invariant (fun p e => p.1.OrderlyStep e)
    (fun p => Recorded p.1.globals p.2)
  · intro p e recorded admitted
    exact recorded_note e recorded admitted
  · intro p e recorded admitted
    cases e with
    | gwRun now => exact isolated_of_recorded recorded admitted
    | _ => trivial
  · exact recorded_of_clean initial.gwState clean
  · exact (Runs.along_observed _ _ _ es s _).mpr orderly

section AbandonedReply

def readFrame (frame : List UInt8) (short : frame.length ≤ 1024) : Event :=
  .serialRead (some ⟨frame, short⟩)

def firstSegment : List UInt8 := meterLink.iFrame true 0x30 [0xE6, 0xE7, 0x00, 0xC4, 0x01, 0x81]

def wholeReply : List UInt8 :=
  meterLink.iFrame false 0x52 [0xE6, 0xE7, 0x00, 0xC4, 0x01, 0x81, 0x00, 0x07]

/-- The client asks, and the iterations up to the wait for the answer. -/
def requestSent (now : Timeval) : List Event :=
  [System.getReceived, .gwRun now, .gwRun now]

/-- A reply in one frame is read, and found in `RESPONSE`. -/
def answerRead (now : Timeval) : List Event :=
  [readFrame wholeReply (by decide +kernel), .gwRun now]

/-- The meter sends one segment and then no more; the next request is answered in one frame. -/
def abandonedRun : List Event :=
  .clientConnect :: requestSent ⟨0, 0⟩ ++
    [readFrame firstSegment (by decide +kernel), .gwRun ⟨0, 0⟩, .gwRun ⟨0, 0⟩, .gwRun ⟨0, 0⟩,
      .gwRun ⟨6, 0⟩] ++
    requestSent ⟨6, 0⟩ ++ answerRead ⟨6, 0⟩

theorem abandoned_segment_delivered :
    ¬ ∀ (s : System) (es : List Event) (now : Timeval), s.Initial →
      Isolated (Runs.run (Runs.observed System.step ReplyHistory.note) (s, ⟨[], false⟩) es)
        (.gwRun now) := by
  intro always
  have isolated := always System.start abandonedRun ⟨6, 0⟩ System.start_initial
  revert isolated
  decide +kernel

def answeredRun : List Event :=
  .clientConnect :: requestSent ⟨0, 0⟩ ++ answerRead ⟨0, 0⟩ ++ [.gwRun ⟨0, 0⟩]

def lastSegment : List UInt8 := meterLink.iFrame false 0x32 [0x00, 0x07]

/-- A reply in two segments, and a second request, answered in one frame. -/
def segmentedRun : List Event :=
  .clientConnect :: requestSent ⟨0, 0⟩ ++
    [readFrame firstSegment (by decide +kernel), .gwRun ⟨0, 0⟩, .gwRun ⟨0, 0⟩, .gwRun ⟨0, 0⟩,
      readFrame lastSegment (by decide +kernel), .gwRun ⟨0, 0⟩, .gwRun ⟨0, 0⟩] ++
    requestSent ⟨1, 0⟩ ++ answerRead ⟨1, 0⟩ ++ [.gwRun ⟨1, 0⟩]

theorem segmentedRun_isolated :
    Runs.Along (Runs.observed System.step ReplyHistory.note) Isolated
      (System.start, ⟨[], false⟩) segmentedRun :=
  replies_isolated System.start segmentedRun System.start_initial (by decide +kernel)

end AbandonedReply
end DlmsGateway
