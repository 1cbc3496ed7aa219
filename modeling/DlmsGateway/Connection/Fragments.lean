import Mathlib.Data.List.Perm.Basic
import DlmsGateway.Connection.Requests
import DlmsGateway.Gateway.Answered

/-!
# A reply read in fragments

`RS485_Receive_Thread` stores every read at the start of `RX` and assigns the
count, so `RX` is a slot for one read.  Whatever the interleaving with
`GW_Run`, each read is taken alone, is dropped, or still waits.  A reply comes
through as it was sent exactly if one read returns all of it.
-/
set_option autoImplicit false
namespace DlmsGateway

open ByteStore

/-- What was read from RS485 so far: what of it `GW_Run` took for conversion, and what it never
looked at or cleared. -/
structure FragmentHistory where
  read : List (List UInt8)
  taken : List (List UInt8)
  dropped : List (List UInt8)

def FragmentHistory.note (h : FragmentHistory) (s : System) : Event → FragmentHistory
  | .serialRead ret =>
      { h with
        read := h.read ++ ret.toList.map Chunk.bytes
        dropped := h.dropped ++ s.hdlc.pending.toList }
  | .gwRun now =>
      if s.TakesAnswer then { h with taken := h.taken ++ s.hdlc.pending.toList }
      else if (s.toGwRun.step now).hdlc.rxCount = 0 then
        { h with dropped := h.dropped ++ s.hdlc.pending.toList }
      else h
  | _ => h

def Buffer.whole (frame : List UInt8) : Buffer := Buffer.empty.receive frame

/-- What is converted comes out as the frame in one piece does. -/
def ConvertedWhole (frame : List UInt8) (s : System) : Event → Prop
  | .gwRun _ =>
      s.globals.gwState = .responseForMdm →
        meter2GwFrameConvertor s.hdlcTmp s.gw s.globals s.ctrl =
          meter2GwFrameConvertor (Buffer.whole frame) s.gw s.globals s.ctrl
  | _ => True

def System.fragments (s : System) (es : List Event) : FragmentHistory :=
  (Runs.run (Runs.observed System.step FragmentHistory.note) (s, ⟨[], [], []⟩) es).2

/-- No fragment is taken as if it were the frame, none is dropped, the frame is taken as soon as
`GW_Run` runs, and what is handed over is what the frame in one piece gives. -/
structure DeliveredWhole (frame : List UInt8) (s : System) (es : List Event) : Prop where
  taken : ∀ bytes ∈ (s.fragments es).taken, bytes = frame
  dropped : (s.fragments es).dropped = []
  arrives : ∀ now, .gwRun now ∈ es → frame ∈ (s.fragments es).taken
  converted : Runs.Along System.step (ConvertedWhole frame) s es

/-- The results of the reads of RS485 in a run. -/
def serialReads : List Event → List (Option (Chunk 1024))
  | [] => []
  | .serialRead ret :: es => ret :: serialReads es
  | _ :: es => serialReads es

/-! ## Every read is accounted for -/

/-- Each read was taken, was dropped, or waits in `RX`. -/
def Accounted (p : System × FragmentHistory) : Prop :=
  (p.2.taken ++ p.2.dropped ++ p.1.hdlc.pending.toList).Perm p.2.read

section Step
variable {s : System} (now : Timeval)

theorem pending_of_empty {b : Buffer} (empty : b.rxCount = 0) : b.pending = none := if_pos empty

theorem rxCount_eq_zero {b : Buffer} (silent : ¬ 0 < b.rxCount) : b.rxCount = 0 := by
  have count : ¬ 0 < b.rxCount.toNat := silent
  exact UInt32.toNat_inj.mp (by simpa using count)

theorem rxCount_controlFrame (gw hdlc : Buffer) (logical : UInt16) (control : UInt8) {α : Type}
    (success failure : α) :
    (match controlFrame gw hdlc logical control with
      | some framed => (success, framed)
      | none => (failure, hdlc)).2.rxCount = hdlc.rxCount := by
  cases made : controlFrame gw hdlc logical control with
  | none => rfl
  | some framed =>
      obtain ⟨-, -, -, -, -, count, -⟩ := controlFrame_sent made
      exact count

theorem rxCount_frameConvertor (gw hdlc : Buffer) (ctrl : CtrlByteStr) :
    (gw2HdlcFrameConvertor gw hdlc ctrl).2.1.rxCount = hdlc.rxCount := by
  rcases frameConvertor_cases gw hdlc ctrl with
    ⟨ret, -, outcome⟩ | ⟨framed, outcome, -, -, count, -⟩
  · rw [outcome]
  · rw [outcome]
    exact count

theorem hdlc_rx_step (s : GwRun) :
    (s.step now).hdlc.rxCount = 0 ∨
      (s.step now).hdlc.rx = s.hdlc.rx ∧ (s.step now).hdlc.rxCount = s.hdlc.rxCount := by
  cases state : s.globals.gwState with
  | waitForGetFrame =>
      simp only [GwRun.step, state, GwRun.waitForGetFrame]
      split <;> exact .inr ⟨rfl, rfl⟩
  | responseForMdm =>
      simp only [GwRun.step, state, GwRun.responseForMdm]
      split <;> exact .inr ⟨rfl, rfl⟩
  | snrmResponse =>
      simp only [GwRun.step, state]
      by_cases received : 0 < s.hdlc.rxCount
      · rw [GwRun.snrmResponse_of_received now received]
        exact .inl rfl
      · rw [GwRun.snrmResponse_of_silent now received]
        split <;> exact .inr ⟨rfl, rfl⟩
  | response =>
      simp only [GwRun.step, state]
      by_cases received : 0 < s.hdlc.rxCount
      · rw [GwRun.response_of_received now received]
        exact .inl rfl
      · rw [GwRun.response_of_silent now received]
        split <;> exact .inr ⟨rfl, rfl⟩
  | discResponse =>
      simp only [GwRun.step, state]
      by_cases received : 0 < s.hdlc.rxCount
      · rw [GwRun.discResponse_of_received now received]
        exact .inr ⟨rfl, rfl⟩
      · rw [GwRun.discResponse_of_silent now received]
        split <;> exact .inr ⟨rfl, rfl⟩
  | snrmRequest =>
      left
      have count := rxCount_controlFrame s.gwTmp s.clearHdlcRxCount.hdlc s.gwTmp.logicalAddress 0x93
        (1 : UInt8) 255
      simp only [GwRun.step, state, GwRun.snrmRequest]
      split <;> exact count
  | discRequest =>
      left
      have count := rxCount_controlFrame s.gwTmp s.clearHdlcRxCount.hdlc
        (loByte s.gwTmp.logicalAddress).toUInt16 0x53 (1 : Int) (-1)
      simp only [GwRun.step, state, GwRun.discRequest]
      split <;> exact count
  | segment =>
      left
      simp only [GwRun.step, state]
      exact rxCount_controlFrame _ s.clearHdlcRxCount.hdlc _ _ (1 : UInt8) 255
  | informationFrame =>
      left
      have count := rxCount_frameConvertor s.gwTmp s.clearHdlcRxCount.hdlc
        { s.ctrl with ctrlByte := controlByte s.ctrl.rrr s.ctrl.sss .information }
      simp only [GwRun.step, state, GwRun.informationFrame]
      split <;> exact count

theorem pending_step_gwRun (inside : s.hdlc.rxCount.toNat ≤ 2048)
    (waiting : (s.toGwRun.step now).hdlc.rxCount ≠ 0) :
    (s.toGwRun.step now).hdlc.pending = s.hdlc.pending := by
  rcases hdlc_rx_step now s.toGwRun with cleared | ⟨rx, count⟩
  · exact absurd cleared waiting
  · exact Buffer.pending_congr inside count fun _ => rx

theorem step_of_takesAnswer (takes : s.TakesAnswer) :
    (s.toGwRun.step now).hdlc.rxCount = 0 ∧
      (s.toGwRun.step now).hdlcTmp = s.hdlcTmp.takeRx s.hdlc := by
  simp only [GwRun.step, takes.1]
  rw [GwRun.response_of_received now takes.2]
  exact ⟨rfl, rfl⟩

end Step

structure FragmentsKept (p : System × FragmentHistory) : Prop where
  inside : p.1.hdlc.rxCount.toNat ≤ 2048
  accounted : Accounted p

section Kept
variable {s : System} {h : FragmentHistory}

theorem accounted_move {read taken dropped : List (List UInt8)} {slot : List (List UInt8)}
    (before : (taken ++ dropped ++ slot).Perm read) :
    ((taken ++ slot) ++ dropped ++ []).Perm read ∧ (taken ++ (dropped ++ slot) ++ []).Perm read := by
  constructor
  · rw [List.append_nil, List.append_assoc]
    refine List.Perm.trans (List.Perm.append_left taken List.perm_append_comm) ?_
    rw [← List.append_assoc]
    exact before
  · rw [List.append_nil, ← List.append_assoc]
    exact before

theorem fragmentsKept_gwRun (now : Timeval) (kept : FragmentsKept (s, h)) :
    FragmentsKept (s.step (.gwRun now), h.note s (.gwRun now)) := by
  have inside : (s.toGwRun.step now).hdlc.rxCount.toNat ≤ 2048 := by
    rcases hdlc_rx_step now s.toGwRun with cleared | ⟨-, count⟩
    · rw [cleared]
      decide
    · rw [count]
      exact kept.inside
  refine ⟨inside, ?_⟩
  have moved := accounted_move kept.accounted
  simp only [Accounted, FragmentHistory.note, System.step]
  by_cases takes : s.TakesAnswer
  · rw [if_pos takes, pending_of_empty (step_of_takesAnswer now takes).1]
    exact moved.1
  rw [if_neg takes]
  by_cases cleared : (s.toGwRun.step now).hdlc.rxCount = 0
  · rw [if_pos cleared, pending_of_empty cleared]
    exact moved.2
  · rw [if_neg cleared, pending_step_gwRun now kept.inside cleared]
    exact kept.accounted

theorem fragmentsKept_read {chunk : Chunk 1024} (kept : FragmentsKept (s, h))
    (some_ : chunk.bytes ≠ []) :
    FragmentsKept (s.step (.serialRead (some chunk)), h.note s (.serialRead (some chunk))) := by
  have short : chunk.bytes.length ≤ 2048 := Nat.le_trans chunk.bound (by decide)
  constructor
  · exact Nat.le_trans (Nat.le_of_eq (Buffer.toNat_ofNat_length short)) short
  · have moved := (accounted_move kept.accounted).2
    rw [List.append_nil] at moved
    simp only [Accounted, FragmentHistory.note, System.step, System.serialRead,
      Buffer.pending_receive short some_]
    exact List.Perm.append moved (List.Perm.refl _)

theorem fragmentsKept_other {e : Event} (own : ¬ System.IsGwRun e)
    (silent : ∀ ret, e ≠ .serialRead ret) (kept : FragmentsKept (s, h)) :
    FragmentsKept (s.step e, h.note s e) := by
  have noted : h.note s e = h := by
    cases e with
    | gwRun now => exact absurd trivial own
    | serialRead ret => exact absurd rfl (silent ret)
    | _ => rfl
  have hdlc := System.hdlc_step s e own
  have rx : (s.step e).hdlc.rx = s.hdlc.rx := by
    rw [hdlc]
    cases e with
    | serialRead ret => exact absurd rfl (silent ret)
    | _ => rfl
  have count := System.hdlc_rxCount_step s e own silent
  rw [noted]
  constructor
  · show (s.step e).hdlc.rxCount.toNat ≤ 2048
    rw [count]
    exact kept.inside
  · rw [Accounted]
    dsimp only
    rw [Buffer.pending_congr kept.inside count fun _ => rx]
    exact kept.accounted

theorem fragmentsKept_run : ∀ (es : List Event) (s : System) (h : FragmentHistory)
    (chunks : List (Chunk 1024)), serialReads es = chunks.map some →
    (∀ chunk ∈ chunks, chunk.bytes ≠ []) → FragmentsKept (s, h) →
    let p := Runs.run (Runs.observed System.step FragmentHistory.note) (s, h) es
    FragmentsKept p ∧ p.2.read = h.read ++ chunks.map Chunk.bytes := by
  intro es
  induction es with
  | nil =>
      intro s h chunks reads _ kept
      obtain rfl : chunks = [] := by simpa [serialReads] using reads.symm
      exact ⟨kept, by simp [Runs.run]⟩
  | cons e es ih =>
      intro s h chunks reads some_ kept
      by_cases own : System.IsGwRun e
      · obtain ⟨now, rfl⟩ := System.exists_of_isGwRun own
        have read : (h.note s (.gwRun now)).read = h.read := by
          simp only [FragmentHistory.note]
          split_ifs <;> rfl
        rw [← read]
        exact ih _ _ chunks reads some_ (fragmentsKept_gwRun now kept)
      cases e with
      | serialRead ret =>
          cases chunks with
          | nil => simp [serialReads] at reads
          | cons chunk rest =>
              simp only [serialReads, List.map_cons, List.cons.injEq] at reads
              obtain ⟨rfl, reads⟩ := reads
              have next := fragmentsKept_read kept (some_ chunk (List.mem_cons_self ..))
              obtain ⟨kept', read⟩ := ih _ _ rest reads
                (fun other member => some_ other (List.mem_cons_of_mem _ member)) next
              refine ⟨kept', read.trans ?_⟩
              simp [FragmentHistory.note]
      | gwRun now => exact absurd trivial own
      | _ => exact ih _ _ chunks reads some_ (fragmentsKept_other own (by simp) kept)

end Kept

/-! ## One read -/

section Whole
variable {frame : List UInt8}

theorem holds_of_rx {a b : Buffer} (short : frame.length ≤ 2048) (same : b.rx = a.rx)
    (holds : a.Holds frame) : b.Holds frame := by
  refine Eq.trans (window_congr _ _ ?_) holds
  intro k bound
  rw [Nat.zero_add, Buffer.rxByte_of_lt _ (by omega), Buffer.rxByte_of_lt _ (by omega), same]

theorem holds_whole (short : frame.length ≤ 2048) : (Buffer.whole frame).Holds frame := by
  rw [Buffer.Holds, window_eq_iff]
  intro k bound
  rw [Nat.zero_add, Buffer.rxByte_of_lt _ (by omega)]
  have copied := Bytes.get_copy_inside Buffer.empty.rx 0 (ofList frame) bound (by omega)
  rw [Nat.zero_add] at copied
  exact copied

theorem convertor_of_holds {a b : Buffer} {link : ReplyLink} {segmented : Bool} {control : UInt8}
    {info : List UInt8} (fits : link.frameSize info ≤ 2048)
    (left : a.Holds (link.iFrame segmented control info))
    (right : b.Holds (link.iFrame segmented control info)) (gw : Buffer) (g : Globals)
    (ctrl : CtrlByteStr) :
    meter2GwFrameConvertor a gw g ctrl = meter2GwFrameConvertor b gw g ctrl := by
  obtain ⟨acceptedLeft, -, dataLeft⟩ := ReplyLink.accepted_iFrame left fits
  obtain ⟨acceptedRight, -, dataRight⟩ := ReplyLink.accepted_iFrame right fits
  have format : a.rxByte 1 = b.rxByte 1 := by
    rw [(ReplyLink.head_bytes (ReplyLink.fields_of_holds left)).1,
      (ReplyLink.head_bytes (ReplyLink.fields_of_holds right)).1]
  rw [convertor_of_accepted _ _ _ _ acceptedLeft, convertor_of_accepted _ _ _ _ acceptedRight,
    format]
  exact deliver_congr gw _ ctrl (dataLeft.trans dataRight.symm)

theorem hdlcTmp_rx_step (now : Timeval) {s : GwRun} (busy : ¬ s.TakesAnswer) :
    (s.step now).hdlcTmp.rx = s.hdlcTmp.rx := by
  cases state : s.globals.gwState with
  | response =>
      simp only [GwRun.step, state]
      rw [GwRun.response_of_silent now fun received => busy ⟨state, received⟩]
      split <;> rfl
  | waitForGetFrame =>
      simp only [GwRun.step, state, GwRun.waitForGetFrame]
      split <;> rfl
  | snrmResponse =>
      simp only [GwRun.step, state, GwRun.snrmResponse]
      split_ifs <;> rfl
  | discResponse =>
      simp only [GwRun.step, state, GwRun.discResponse]
      split_ifs <;> rfl
  | snrmRequest =>
      simp only [GwRun.step, state, GwRun.snrmRequest]
      split <;> rfl
  | informationFrame =>
      simp only [GwRun.step, state, GwRun.informationFrame]
      split <;> rfl
  | discRequest =>
      simp only [GwRun.step, state, GwRun.discRequest]
      split <;> rfl
  | responseForMdm =>
      simp only [GwRun.step, state, GwRun.responseForMdm]
      split <;> rfl
  | segment =>
      simp only [GwRun.step, state]
      rfl

structure FrameWaits (frame : List UInt8) (p : System × FragmentHistory) : Prop where
  state : p.1.globals.gwState = .response
  inside : p.1.hdlc.rxCount.toNat ≤ 2048
  waiting : p.1.hdlc.pending = some frame
  taken : p.2.taken = []
  dropped : p.2.dropped = []

structure FrameTaken (frame : List UInt8) (p : System × FragmentHistory) : Prop where
  count : p.1.hdlc.rxCount = 0
  holds : p.1.hdlcTmp.Holds frame
  taken : p.2.taken = [frame]
  dropped : p.2.dropped = []

theorem received_of_pending {b : Buffer} (waiting : b.pending = some frame) :
    0 < b.rxCount ∧ b.received = frame := by
  rw [Buffer.pending] at waiting
  split at waiting
  · cases waiting
  · rename_i some_
    refine ⟨?_, Option.some.inj waiting⟩
    by_contra silent
    exact some_ (rxCount_eq_zero silent)

section Step
variable {s : System} {h : FragmentHistory}

theorem frameTaken_of_waits (short : frame.length ≤ 2048) (now : Timeval)
    (waits : FrameWaits frame (s, h)) :
    FrameTaken frame (s.step (.gwRun now), h.note s (.gwRun now)) := by
  obtain ⟨positive, received⟩ := received_of_pending waits.waiting
  have takes : s.TakesAnswer := ⟨waits.state, positive⟩
  obtain ⟨cleared, hdlcTmp⟩ := step_of_takesAnswer now takes
  have noted : h.note s (.gwRun now) = { h with taken := [frame] } := by
    have waiting := waits.waiting
    have nothing := waits.taken
    dsimp only at waiting nothing
    simp only [FragmentHistory.note, if_pos takes, waiting, nothing]
    rfl
  rw [noted]
  refine ⟨cleared, ?_, rfl, waits.dropped⟩
  show (s.toGwRun.step now).hdlcTmp.Holds frame
  rw [hdlcTmp]
  exact holds_takeRx short received

theorem frameTaken_gwRun (short : frame.length ≤ 2048) (now : Timeval)
    (taken : FrameTaken frame (s, h)) :
    FrameTaken frame (s.step (.gwRun now), h.note s (.gwRun now)) := by
  have count := taken.count
  dsimp only at count
  have busy : ¬ s.TakesAnswer := fun takes => by
    have positive := takes.2
    rw [count] at positive
    exact absurd positive (by decide)
  have cleared : (s.toGwRun.step now).hdlc.rxCount = 0 := by
    rcases hdlc_rx_step now s.toGwRun with cleared | ⟨-, same⟩
    · exact cleared
    · exact same.trans count
  have noted : h.note s (.gwRun now) = h := by
    rw [FragmentHistory.note, if_neg busy, if_pos cleared, pending_of_empty count]
    simp
  rw [noted]
  exact ⟨cleared, holds_of_rx short (hdlcTmp_rx_step now busy) taken.holds, taken.taken,
    taken.dropped⟩

end Step

theorem serial_step_other {s : System} {e : Event} (h : FragmentHistory)
    (own : ¬ System.IsGwRun e) (silent : ∀ ret, e ≠ .serialRead ret) :
    h.note s e = h ∧ (s.step e).hdlc.rx = s.hdlc.rx ∧
      (s.step e).hdlc.rxCount = s.hdlc.rxCount := by
  refine ⟨?_, ?_, System.hdlc_rxCount_step s e own silent⟩
  · cases e with
    | gwRun now => exact absurd trivial own
    | serialRead ret => exact absurd rfl (silent ret)
    | _ => rfl
  · rw [System.hdlc_step s e own]
    cases e with
    | serialRead ret => exact absurd rfl (silent ret)
    | _ => rfl

theorem frame_step (short : frame.length ≤ 2048) {s : System} {h : FragmentHistory} (e : Event)
    (silent : ∀ ret, e ≠ .serialRead ret) :
    (FrameTaken frame (s, h) → FrameTaken frame (s.step e, h.note s e)) ∧
      (FrameWaits frame (s, h) → FrameTaken frame (s.step e, h.note s e) ∨
        FrameWaits frame (s.step e, h.note s e) ∧ ¬ System.IsGwRun e) := by
  by_cases own : System.IsGwRun e
  · obtain ⟨now, rfl⟩ := System.exists_of_isGwRun own
    exact ⟨frameTaken_gwRun short now, fun waits => .inl (frameTaken_of_waits short now waits)⟩
  obtain ⟨noted, rx, count⟩ := serial_step_other (s := s) h own silent
  have gateway := System.toGateway_step s e own
  rw [noted]
  constructor
  · intro taken
    exact ⟨count.trans taken.count, by rw [gateway]; exact taken.holds, taken.taken,
      taken.dropped⟩
  · intro waits
    exact .inr ⟨⟨by rw [gateway]; exact waits.state, by rw [count]; exact waits.inside,
      (Buffer.pending_congr waits.inside count fun _ => rx).trans waits.waiting,
      waits.taken, waits.dropped⟩, own⟩

theorem noRead_of_serialReads : ∀ (es : List Event) (p : System × FragmentHistory),
    serialReads es = [] → Runs.Along (Runs.observed System.step FragmentHistory.note)
      (fun _ e => ∀ ret, e ≠ .serialRead ret) p es := by
  intro es
  induction es with
  | nil => intro p _; trivial
  | cons e es ih =>
      intro p silent
      cases e with
      | serialRead ret => simp [serialReads] at silent
      | _ => exact ⟨by simp, ih _ silent⟩

/-- From a frame that waits, `GW_Run` takes it in its next iteration, and nothing changes that
frame afterwards. -/
theorem frame_run (short : frame.length ≤ 2048) : ∀ (es : List Event)
    (p : System × FragmentHistory), serialReads es = [] →
    let q := Runs.run (Runs.observed System.step FragmentHistory.note) p es
    (FrameTaken frame p → FrameTaken frame q) ∧
      (FrameWaits frame p → FrameTaken frame q ∨
        FrameWaits frame q ∧ ∀ now, .gwRun now ∉ es) := by
  intro es
  induction es with
  | nil => intro p _; exact ⟨id, fun waits => .inr ⟨waits, by simp⟩⟩
  | cons e es ih =>
      intro ⟨s, h⟩ silent
      have noRead := (noRead_of_serialReads (e :: es) (s, h) silent).1
      obtain ⟨keepTaken, keepWaits⟩ := frame_step short (s := s) (h := h) e noRead
      have rest : serialReads es = [] := by
        cases e with
        | serialRead ret => exact absurd rfl (noRead ret)
        | _ => exact silent
      obtain ⟨laterTaken, laterWaits⟩ := ih (s.step e, h.note s e) rest
      refine ⟨fun taken => laterTaken (keepTaken taken), fun waits => ?_⟩
      rcases keepWaits waits with taken | ⟨waits, own⟩
      · exact .inl (laterTaken taken)
      · refine (laterWaits waits).imp id fun ⟨waits, none_⟩ => ⟨waits, fun now member => ?_⟩
        rcases List.mem_cons.mp member with rfl | later
        · exact own trivial
        · exact none_ now later

end Whole

/-! ## A frame in fragments -/

section Frame
variable {link : ReplyLink} {segmented : Bool} {control : UInt8} {info : List UInt8}

theorem convertedWhole_of_taken {s : System} {h : FragmentHistory} (e : Event)
    (fits : link.frameSize info ≤ 2048)
    (frame : FrameTaken (link.iFrame segmented control info) (s, h) ∨
      FrameWaits (link.iFrame segmented control info) (s, h)) :
    ConvertedWhole (link.iFrame segmented control info) s e := by
  cases e with
  | gwRun now =>
      intro converting
      rcases frame with taken | waits
      · exact convertor_of_holds fits taken.holds
          (holds_whole (by rw [length_iFrame]; exact fits)) _ _ _
      · have state := waits.state
        dsimp only at state
        rw [converting] at state
        cases state
  | _ => trivial

theorem convertedWhole_run (fits : link.frameSize info ≤ 2048) (es : List Event) (s : System)
    (h : FragmentHistory) (silent : serialReads es = [])
    (waits : FrameWaits (link.iFrame segmented control info) (s, h)) :
    Runs.Along System.step (ConvertedWhole (link.iFrame segmented control info)) s es := by
  have short : (link.iFrame segmented control info).length ≤ 2048 := by
    rw [length_iFrame]
    exact fits
  apply (Runs.along_observed _ FragmentHistory.note _ es s h).mp
  apply Runs.along_of_invariant (fun _ e => ∀ ret, e ≠ Event.serialRead ret)
    (fun p => FrameTaken (link.iFrame segmented control info) p ∨
      FrameWaits (link.iFrame segmented control info) p)
  · intro p e frame noRead
    obtain ⟨keepTaken, keepWaits⟩ := frame_step short (s := p.1) (h := p.2) e noRead
    rcases frame with taken | waits
    · exact .inl (keepTaken taken)
    · exact (keepWaits waits).imp id And.left
  · intro p e frame _
    exact convertedWhole_of_taken e fits frame
  · exact .inr waits
  · exact noRead_of_serialReads es (s, h) silent

theorem length_of_piece {chunks : List (Chunk 1024)} (some_ : ∀ c ∈ chunks, c.bytes ≠ [])
    {piece : Chunk 1024} (member : piece ∈ chunks)
    (whole : piece.bytes = chunks.flatMap Chunk.bytes) : chunks.length = 1 := by
  obtain ⟨before, after, rfl⟩ := List.append_of_mem member
  have lengths := congrArg List.length whole
  simp only [List.flatMap_append, List.flatMap_cons, List.length_append] at lengths
  have early : before = [] := by
    cases before with
    | nil => rfl
    | cons c _ =>
        have positive := List.length_pos_iff.mpr (some_ c (by simp))
        simp only [List.flatMap_cons, List.length_append] at lengths
        omega
  have late : after = [] := by
    cases after with
    | nil => rfl
    | cons c _ =>
        have positive := List.length_pos_iff.mpr (some_ c (by simp))
        simp only [List.flatMap_cons, List.length_append] at lengths
        omega
  simp [early, late]

theorem length_of_undivided {chunks : List (Chunk 1024)} {p : System × FragmentHistory}
    (some_ : ∀ c ∈ chunks, c.bytes ≠ []) (kept : FragmentsKept p)
    (read : p.2.read = chunks.map Chunk.bytes)
    (taken : ∀ bytes ∈ p.2.taken, bytes = chunks.flatMap Chunk.bytes) (dropped : p.2.dropped = []) :
    chunks.length ≤ 1 := by
  have accounted := kept.accounted
  rw [Accounted, read, dropped, List.append_nil] at accounted
  cases taken_ : p.2.taken with
  | nil =>
      rw [taken_, List.nil_append] at accounted
      have length := accounted.length_eq
      rw [List.length_map] at length
      rw [← length]
      cases p.1.hdlc.pending <;> simp
  | cons bytes others =>
      have first : bytes ∈ p.2.taken := by simp [taken_]
      have fragment := accounted.subset (List.mem_append_left _ first)
      obtain ⟨piece, member, rfl⟩ := List.mem_map.mp fragment
      exact Nat.le_of_eq (length_of_piece some_ member (taken _ first))

theorem frameWaits_of_read {s : System} (awaiting : s.globals.gwState = .response)
    (silent : s.hdlc.rxCount = 0) {chunk : Chunk 1024} (some_ : chunk.bytes ≠ []) :
    FrameWaits chunk.bytes (s.step (.serialRead (some chunk)),
      FragmentHistory.note ⟨[], [], []⟩ s (.serialRead (some chunk))) := by
  have short : chunk.bytes.length ≤ 2048 := Nat.le_trans chunk.bound (by decide)
  refine ⟨awaiting, ?_, Buffer.pending_receive short some_, rfl, ?_⟩
  · exact Nat.le_trans (Nat.le_of_eq (Buffer.toNat_ofNat_length short)) short
  · simp [FragmentHistory.note, pending_of_empty silent]

theorem delivered_of_read {s : System} (awaiting : s.globals.gwState = .response)
    (silent : s.hdlc.rxCount = 0) {chunk : Chunk 1024}
    (bytes : chunk.bytes = link.iFrame segmented control info) (some_ : chunk.bytes ≠ [])
    {es : List Event} (reads : serialReads es = []) :
    DeliveredWhole (link.iFrame segmented control info) s (.serialRead (some chunk) :: es) := by
  have short : (link.iFrame segmented control info).length ≤ 1024 := by
    rw [← bytes]
    exact chunk.bound
  have fits : link.frameSize info ≤ 2048 := by
    rw [length_iFrame] at short
    omega
  have waits := frameWaits_of_read awaiting silent some_
  rw [bytes] at waits
  have converted : Runs.Along System.step (ConvertedWhole (link.iFrame segmented control info)) s
      (.serialRead (some chunk) :: es) :=
    ⟨trivial, convertedWhole_run fits es _ _ reads waits⟩
  rcases (frame_run (by omega) es _ reads).2 waits with taken | ⟨waits, none_⟩
  · refine ⟨?_, taken.dropped, ?_, converted⟩
    · intro frame member
      rw [System.fragments, Runs.run, Runs.observed, taken.taken] at member
      exact List.mem_singleton.mp member
    · intro now _
      rw [System.fragments, Runs.run, Runs.observed, taken.taken]
      exact List.mem_singleton.mpr rfl
  · refine ⟨?_, waits.dropped, ?_, converted⟩
    · intro frame member
      rw [System.fragments, Runs.run, Runs.observed, waits.taken] at member
      cases member
    · intro now member
      rcases List.mem_cons.mp member with read | later
      · cases read
      · exact absurd later (none_ now)

end Frame

/-- In every run from `RESPONSE` in which RS485 returns a frame in these fragments, the frame
comes through whole exactly if it is returned by one read. -/
theorem delivered_whole_iff (link : ReplyLink) (segmented : Bool) (control : UInt8)
    (info : List UInt8) (s : System) (awaiting : s.globals.gwState = .response)
    (silent : s.hdlc.rxCount = 0) (first : Chunk 1024) (rest : List (Chunk 1024))
    (some_ : ∀ chunk ∈ first :: rest, chunk.bytes ≠ [])
    (whole : (first :: rest).flatMap Chunk.bytes = link.iFrame segmented control info)
    (es : List Event) (reads : serialReads es = rest.map some) :
    DeliveredWhole (link.iFrame segmented control info) s (.serialRead (some first) :: es) ↔
      rest = [] := by
  have begun : FragmentsKept (s, ⟨[], [], []⟩) := by
    refine ⟨by simp [silent], ?_⟩
    rw [Accounted, pending_of_empty silent]
    exact List.Perm.refl _
  have allReads : serialReads (.serialRead (some first) :: es) = (first :: rest).map some := by
    rw [serialReads, reads]
    rfl
  constructor
  · intro delivered
    obtain ⟨kept, read⟩ := fragmentsKept_run _ s ⟨[], [], []⟩ (first :: rest) allReads some_ begun
    have one := length_of_undivided some_ kept read (by rw [whole]; exact delivered.taken)
      delivered.dropped
    exact List.length_eq_zero_iff.mp (by simpa using one)
  · rintro rfl
    have bytes : first.bytes = link.iFrame segmented control info := by
      rw [← whole]
      simp
    exact delivered_of_read awaiting silent bytes (some_ first (List.mem_cons_self ..)) reads

section TwoReads

def replyAwaited : System :=
  Runs.run System.step System.start (.clientConnect :: requestSent ⟨0, 0⟩)

def replyStart : Chunk 1024 := ⟨wholeReply.take 10, by decide +kernel⟩

def replyRest : Chunk 1024 := ⟨wholeReply.drop 10, by decide +kernel⟩

theorem length_wholeReply : wholeReply.length ≤ 1024 := by decide +kernel

def replyOnce : Chunk 1024 := ⟨wholeReply, length_wholeReply⟩

theorem one_read_delivered :
    DeliveredWhole wholeReply replyAwaited [.serialRead (some replyOnce), .gwRun ⟨0, 0⟩] ↔
      ([] : List (Chunk 1024)) = [] :=
  delivered_whole_iff meterLink false 0x52 [0xE6, 0xE7, 0x00, 0xC4, 0x01, 0x81, 0x00, 0x07]
    replyAwaited (by decide +kernel) (by decide +kernel) replyOnce [] (by decide +kernel)
    (by decide +kernel) [.gwRun ⟨0, 0⟩] rfl

/-- Ten bytes are read before `GW_Run` runs, and the rest of the reply after it. -/
theorem divided_reply_lost :
    ¬ ∀ (link : ReplyLink) (segmented : Bool) (control : UInt8) (info : List UInt8) (s : System)
      (first : Chunk 1024) (rest : List (Chunk 1024)) (es : List Event),
      s.globals.gwState = .response → s.hdlc.rxCount = 0 →
      (∀ chunk ∈ first :: rest, chunk.bytes ≠ []) →
      (first :: rest).flatMap Chunk.bytes = link.iFrame segmented control info →
      serialReads es = rest.map some →
      DeliveredWhole (link.iFrame segmented control info) s (.serialRead (some first) :: es) := by
  intro always
  have delivered := always meterLink false 0x52 [0xE6, 0xE7, 0x00, 0xC4, 0x01, 0x81, 0x00, 0x07]
    replyAwaited replyStart [replyRest]
    [.gwRun ⟨0, 0⟩, .serialRead (some replyRest), .gwRun ⟨0, 0⟩] (by decide +kernel)
    (by decide +kernel) (by decide +kernel) (by decide +kernel) rfl
  have taken := delivered.taken replyStart.bytes (by decide +kernel)
  revert taken
  decide +kernel

end TwoReads
end DlmsGateway
