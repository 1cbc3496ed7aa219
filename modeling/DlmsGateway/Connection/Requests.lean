import DlmsGateway.Connection.Threads
import DlmsGateway.Gateway.Delivery
import DlmsGateway.Gateway.Isolation
import DlmsGateway.Lib.Runs

/-!
# Requests on their way to the gateway

`GW_STRUCT->RX` with its count is the one place between the two sockets and
`GW_Run`.  It works as a mailbox as long as nobody puts a frame in it while one
is waiting and no conversion copies a reply over it.  Then the threads simulate
the mailbox, and what was received is what was taken and what still waits.
-/
set_option autoImplicit false
namespace DlmsGateway

open ByteStore

/-- The frame that waits in `RX`. -/
def Buffer.pending (b : Buffer) : Option (List UInt8) :=
  if b.rxCount = 0 then none else some (window b.rxByte 0 b.rxCount.toNat)

namespace Buffer
variable {b : Buffer} {bytes : List UInt8}

theorem toNat_ofNat_length (short : bytes.length ≤ 2048) :
    (UInt32.ofNat bytes.length).toNat = bytes.length := by
  rw [UInt32.toNat_ofNat']
  omega

theorem pending_receive (short : bytes.length ≤ 2048) (some_ : bytes ≠ []) :
    (b.receive bytes).pending = some bytes := by
  have count := toNat_ofNat_length short
  have positive : (b.receive bytes).rxCount ≠ 0 := by
    intro zero
    have length : (UInt32.ofNat bytes.length).toNat = 0 := congrArg UInt32.toNat zero
    rw [count] at length
    exact some_ (List.length_eq_zero_iff.mp length)
  rw [pending, if_neg positive, receive]
  dsimp only
  rw [count]
  congr 1
  rw [window_eq_iff]
  intro k bound
  rw [Nat.zero_add, rxByte_of_lt _ (by omega)]
  have copied := Bytes.get_copy_inside b.rx 0 (ofList bytes) bound (by omega)
  rw [Nat.zero_add] at copied
  exact copied

theorem receiveMore_eq_receive (empty : b.rxCount = 0) :
    b.receiveMore bytes = b.receive bytes := by
  rw [receiveMore, receive, empty, UInt32.zero_add]

theorem rx_putTx (short : bytes.length ≤ 2048) : (b.putTx bytes).rx = b.rx :=
  rx_copyTx_of_le _ _ short

theorem rxCount_putTx (short : bytes.length ≤ 4100) : (b.putTx bytes).rxCount = b.rxCount :=
  rxCount_copyTx_of_le _ _ short

theorem pending_congr {b' : Buffer} (inside : b.rxCount.toNat ≤ 2048)
    (count : b'.rxCount = b.rxCount) (same : b.rxCount ≠ 0 → b'.rx = b.rx) :
    b'.pending = b.pending := by
  rw [pending, pending, count]
  split
  · rfl
  · rename_i waiting
    apply congrArg some
    apply window_congr
    intro k bound
    rw [rxByte_of_lt _ (by omega), rxByte_of_lt _ (by omega), same waiting]

end Buffer

/-! ## The history and the condition -/

structure RequestHistory where
  received : List (List UInt8)
  taken : List (List UInt8)

def RequestHistory.note (h : RequestHistory) (s : System) (e : Event) : RequestHistory where
  received := h.received ++ (s.frameReceived e).toList
  taken := h.taken ++ (s.frameTaken e).toList

/-- Every frame received was taken as it was, in this order, or is the one that waits. -/
def RequestsKept (p : System × RequestHistory) : Prop :=
  p.2.received = p.2.taken ++ p.1.gw.pending.toList

instance (p : System × RequestHistory) : Decidable (RequestsKept p) :=
  inferInstanceAs (Decidable (_ = _))

/-- Nothing is put in `RX` while a frame waits there: no other frame, no reply that is copied over
it or reaches its count. -/
def System.Undisturbed (s : System) : Event → Prop
  | .gwRun _ =>
      s.globals.gwState = .responseForMdm → ∀ f ∈ s.hdlcTmp.acceptedFrame, s.gw.rxCount = 0 ∧
        (¬ s.hdlcTmp.Segmented → s.globals.segmentBit = .middleFrame →
          f.prefixSize + (s.globals.lastByteBuffer + UInt16.ofNat f.dataLen).toNat ≤ 4103)
  | .push message => message.length ≤ if s.gw.rxCount = 0 then 4100 else 2048
  | .clientRecv ret reply => s.frameReceived (.clientRecv ret reply) ≠ none → s.gw.rxCount = 0
  | .listenRecv ret failed reply =>
      s.frameReceived (.listenRecv ret failed reply) ≠ none → s.gw.rxCount = 0
  | _ => True

instance (s : System) : ∀ e, Decidable (s.Undisturbed e)
  | .gwRun _ => inferInstanceAs (Decidable (_ → _))
  | .push _ => inferInstanceAs (Decidable (_ ≤ _))
  | .clientRecv .. | .listenRecv .. => inferInstanceAs (Decidable (_ → _))
  | .clientConnect | .clientInactive | .accept | .send .. | .serialRead _ | .serialWrite =>
      .isTrue trivial

/-! ## The mailbox -/

/-- The acts of the mailbox that a step stands for. -/
def System.acts (s : System) (e : Event) : List (Mailbox.Act (List UInt8)) :=
  (s.frameReceived e).toList.map .put ++ (s.frameTaken e).toList.map fun _ => .take

/-- The threads and the history show the mailbox `m`. -/
structure Shows (p : System × RequestHistory) (m : Mailbox (List UInt8)) : Prop where
  slot : p.1.gw.pending = m.slot
  inside : p.1.gw.rxCount.toNat ≤ 2048
  received : p.2.received = m.received
  taken : p.2.taken = m.taken

section Steps
variable {s : System}

theorem putReply_keeps (reply : Chunk 1032) :
    (s.putReply reply).gw.rxCount = s.gw.rxCount ∧ (s.putReply reply).gw.rx = s.gw.rx := by
  have short := reply.bound
  unfold System.putReply
  split
  · exact ⟨rfl, rfl⟩
  · exact ⟨Buffer.rxCount_putTx (by omega), Buffer.rx_putTx (by omega)⟩

theorem rx_step_of_other {e : Event} (other : ¬ System.IsGwRun e) (undisturbed : s.Undisturbed e) :
    (∃ bytes, s.frameReceived e = some bytes ∧ bytes ≠ [] ∧ bytes.length ≤ 2048 ∧
      s.gw.rxCount = 0 ∧ (s.step e).gw = s.gw.receive bytes) ∨
    (s.frameReceived e = none ∧ (s.step e).gw.rxCount = s.gw.rxCount ∧
      (s.gw.rxCount ≠ 0 → (s.step e).gw.rx = s.gw.rx)) := by
  cases e with
  | clientRecv ret reply =>
      simp only [System.Undisturbed, System.frameReceived, System.clientArrival, System.step,
        System.clientRecv] at undisturbed ⊢
      by_cases connected : s.clientConnected = true
      · simp only [if_pos connected] at undisturbed ⊢
        cases arrived : arrival s.clientTmp ret with
        | lost => exact .inr ⟨rfl, rfl, fun _ => rfl⟩
        | forGateway tmp chunk =>
            rw [arrived] at undisturbed
            have free := undisturbed (by simp [Arrival.frame])
            exact .inl ⟨chunk.bytes, rfl, (System.ret_of_forGateway arrived).2, chunk.bound, free,
              Buffer.receiveMore_eq_receive free⟩
        | forServer tmp =>
            obtain ⟨count, rx⟩ := putReply_keeps (s := { s with clientTmp := tmp }) reply
            exact .inr ⟨rfl, count, fun _ => rx⟩
      · simp [connected, Arrival.frame]
  | listenRecv ret failed reply =>
      simp only [System.Undisturbed, System.frameReceived, System.listenArrival, System.step,
        System.listenRecv] at undisturbed ⊢
      by_cases serving : s.serving = true
      · simp only [if_pos serving] at undisturbed ⊢
        cases arrived : arrival s.listenTmp (if s.acceptOpen then ret else none) with
        | lost => exact .inr ⟨rfl, rfl, fun _ => rfl⟩
        | forGateway tmp chunk =>
            rw [arrived] at undisturbed
            have free := undisturbed (by simp [Arrival.frame])
            exact .inl ⟨chunk.bytes, rfl, (System.ret_of_forGateway arrived).2, chunk.bound, free,
              rfl⟩
        | forServer tmp =>
            obtain ⟨count, rx⟩ := putReply_keeps
              (s := { s with listenTmp := tmp, acceptOpen := s.acceptOpen && !failed }) reply
            exact .inr ⟨rfl, count, fun _ => rx⟩
      · simp [serving, Arrival.frame]
  | push message =>
      simp only [System.Undisturbed] at undisturbed
      refine .inr ⟨rfl, Buffer.rxCount_putTx ?_, fun waiting => Buffer.rx_putTx ?_⟩
      · split at undisturbed <;> omega
      · rw [if_neg waiting] at undisturbed
        exact undisturbed
  | accept =>
      refine .inr ⟨rfl, ?_⟩
      simp only [System.step, System.accept]
      split <;> exact ⟨rfl, fun _ => rfl⟩
  | send serverOk clientOk =>
      refine .inr ⟨rfl, ?_⟩
      simp only [System.step, System.sendToServer, System.sendToClient]
      split_ifs <;> exact ⟨rfl, fun _ => rfl⟩
  | serialRead ret => cases ret <;> exact .inr ⟨rfl, rfl, fun _ => rfl⟩
  | clientConnect | clientInactive | serialWrite => exact .inr ⟨rfl, rfl, fun _ => rfl⟩
  | gwRun now => exact absurd trivial other

theorem rx_step_of_gwRun (now : Timeval) (inside : s.gw.rxCount.toNat ≤ 2048)
    (undisturbed : s.Undisturbed (.gwRun now)) :
    (s.frameTaken (.gwRun now) = s.gw.pending ∧ s.gw.pending ≠ none ∧
      (s.toGwRun.step now).gw.rxCount = 0) ∨
    (s.frameTaken (.gwRun now) = none ∧ (s.toGwRun.step now).gw.rxCount = s.gw.rxCount ∧
      (s.gw.rxCount ≠ 0 → (s.toGwRun.step now).gw.rx = s.gw.rx)) := by
  by_cases takes : s.Takes
  · left
    have waiting : s.gw.rxCount ≠ 0 := fun empty => by
      have some_ := takes.2
      rw [empty] at some_
      exact absurd some_ (by decide)
    have gwTmp : (s.toGwRun.step now).gwTmp = { s.gwTmp with rx := Bytes.zero }.takeRx s.gw := by
      simp only [GwRun.step, takes.1, GwRun.waitForGetFrame, if_pos takes.2]
    refine ⟨?_, by simp [Buffer.pending, waiting], by rw [GwRun.gw_step, if_pos takes]⟩
    rw [System.frameTaken, if_pos takes, Buffer.pending, if_neg waiting, gwTmp]
    apply congrArg some
    apply window_congr
    intro k bound
    rw [Buffer.takeRx] at bound ⊢
    dsimp only at bound
    rw [Nat.zero_add, Buffer.rxByte_of_lt _ (by omega)]
    have copied := Bytes.get_copy_inside (Bytes.zero : Bytes 2048) 0 s.gw.rxByte bound (by omega)
    rw [Nat.zero_add] at copied
    exact copied
  · right
    refine ⟨if_neg takes, ?_⟩
    rw [GwRun.gw_step, if_neg takes]
    by_cases converting : s.globals.gwState = .responseForMdm
    · rw [if_pos converting]
      rcases convertor_cases s.hdlcTmp s.gw s.globals s.ctrl with
        ⟨-, code, -, outcome⟩ | ⟨-, -, code, -, outcome⟩ | ⟨f, accepted, outcome⟩
      · rw [outcome]
        exact ⟨rfl, fun _ => rfl⟩
      · rw [outcome]
        exact ⟨rfl, fun _ => rfl⟩
      · obtain ⟨free, fits⟩ := undisturbed converting f (Buffer.acceptedFrame_eq_some.mpr accepted)
        rw [outcome, rxCount_deliver, free]
        · exact ⟨rfl, fun waiting => absurd rfl waiting⟩
        · exact dataLen_le_of_located accepted.1.2
        · intro last
          rw [segmentBit_classify] at last
          split_ifs at last with bit midway
          rw [classify_last bit midway]
          exact fits bit midway
    · rw [if_neg converting]
      exact ⟨rfl, fun _ => rfl⟩

end Steps

theorem frameTaken_of_other {s : System} {e : Event} (other : ¬ System.IsGwRun e) :
    s.frameTaken e = none := by
  cases e with
  | gwRun now => exact absurd trivial other
  | _ => rfl

section Simulation
variable {s : System} {h : RequestHistory} {m : Mailbox (List UInt8)} {e : Event}

theorem shows_of_idle (shown : Shows (s, h) m) (nothing : s.frameReceived e = none)
    (idle : s.frameTaken e = none) (count : (s.step e).gw.rxCount = s.gw.rxCount)
    (rx : s.gw.rxCount ≠ 0 → (s.step e).gw.rx = s.gw.rx) : Shows (s.step e, h.note s e) m where
  slot := (Buffer.pending_congr shown.inside count rx).trans shown.slot
  inside := by
    dsimp only
    rw [count]
    exact shown.inside
  received := by
    simp only [RequestHistory.note, nothing, Option.toList_none, List.append_nil]
    exact shown.received
  taken := by
    simp only [RequestHistory.note, idle, Option.toList_none, List.append_nil]
    exact shown.taken

theorem shows_of_put (shown : Shows (s, h) m) {bytes : List UInt8}
    (received : s.frameReceived e = some bytes) (idle : s.frameTaken e = none)
    (some_ : bytes ≠ []) (short : bytes.length ≤ 2048) (free : s.gw.rxCount = 0)
    (gw : (s.step e).gw = s.gw.receive bytes) : Shows (s.step e, h.note s e) (m.put bytes) := by
  have empty : m.slot = none := by
    rw [← shown.slot]
    exact if_pos free
  obtain ⟨slot, receivedAfter, takenAfter⟩ := Mailbox.put_of_free empty bytes
  constructor
  · rw [slot, gw, Buffer.pending_receive short some_]
  · dsimp only
    rw [gw]
    exact Nat.le_trans (Nat.le_of_eq (Buffer.toNat_ofNat_length short)) short
  · rw [receivedAfter, ← shown.received, RequestHistory.note, received]
    rfl
  · simp only [RequestHistory.note, idle, Option.toList_none, List.append_nil, takenAfter]
    exact shown.taken

theorem shows_of_take (shown : Shows (s, h) m) (nothing : s.frameReceived e = none)
    (taken : s.frameTaken e = s.gw.pending) (count : (s.step e).gw.rxCount = 0) :
    Shows (s.step e, h.note s e) m.take where
  slot := if_pos count
  inside := by
    dsimp only
    rw [count]
    decide
  received := by
    simp only [RequestHistory.note, nothing, Option.toList_none, List.append_nil]
    exact shown.received
  taken := by
    simp only [RequestHistory.note, taken, Mailbox.take]
    rw [shown.slot, shown.taken]

end Simulation

theorem simulates_mailbox :
    Runs.Simulates (Runs.observed System.step RequestHistory.note) (fun p e => p.1.Undisturbed e)
      Mailbox.step (fun p e => p.1.acts e) Shows := by
  intro ⟨s, h⟩ e m shown undisturbed
  by_cases own : System.IsGwRun e
  · obtain ⟨now, rfl⟩ := System.exists_of_isGwRun own
    rcases rx_step_of_gwRun now shown.inside undisturbed with
      ⟨taken, waiting, count⟩ | ⟨idle, count, rx⟩
    · obtain ⟨frame, some_⟩ := Option.ne_none_iff_exists'.mp waiting
      have acts : s.acts (.gwRun now) = [.take] := by
        rw [System.acts, taken, some_]
        rfl
      simp only [acts]
      exact shows_of_take shown rfl taken count
    · have acts : s.acts (.gwRun now) = [] := by
        rw [System.acts, idle]
        rfl
      simp only [acts]
      exact shows_of_idle shown rfl idle count rx
  · have idle : s.frameTaken e = none := frameTaken_of_other own
    rcases rx_step_of_other own undisturbed with
      ⟨bytes, received, some_, short, free, gw⟩ | ⟨nothing, count, rx⟩
    · have acts : s.acts e = [.put bytes] := by
        rw [System.acts, received, idle]
        rfl
      simp only [acts]
      exact shows_of_put shown received idle some_ short free gw
    · have acts : s.acts e = [] := by
        rw [System.acts, nothing, idle]
        rfl
      simp only [acts]
      exact shows_of_idle shown nothing idle count rx

/-- In a run in which nothing disturbs a waiting frame, every frame received was taken once and
unchanged, or waits. -/
theorem requests_kept (s : System) (es : List Event) (initial : s.Initial)
    (undisturbed : Runs.Along System.step System.Undisturbed s es) :
    RequestsKept (Runs.run (Runs.observed System.step RequestHistory.note) (s, ⟨[], []⟩) es) := by
  have shown : Shows (s, ⟨[], []⟩) Mailbox.empty :=
    ⟨if_pos initial.gwCounts.1, by rw [initial.gwCounts.1]; decide, rfl, rfl⟩
  have related := simulates_mailbox.run_related es _ _ shown
    ((Runs.along_observed System.step RequestHistory.note System.Undisturbed es s ⟨[], []⟩).mpr
      undisturbed)
  rw [RequestsKept, related.received, related.taken, related.slot, Mailbox.conserved]

section Merged

def secondRequest : List UInt8 :=
  [0, 1, 0, 16, 0, 1, 0, 8, 0xE6, 0, 1, 18, 0xC0, 0x01, 0x82, 0x00, 0x06]

/-- Two requests arrive before `GW_Run` looks. -/
def mergedRun : List Event :=
  [.clientConnect, System.getReceived,
    .clientRecv (some ⟨secondRequest, by decide⟩) System.noReply, .gwRun ⟨0, 0⟩]

theorem requests_merged :
    ¬ ∀ (s : System) (es : List Event), s.Initial →
      let p := Runs.run (Runs.observed System.step RequestHistory.note) (s, ⟨[], []⟩) es
      p.1.gw.pending = none → p.2.taken = p.2.received := by
  intro always
  have kept := always System.start mergedRun System.start_initial
  revert kept
  decide +kernel

theorem answeredRun_requests_kept :
    RequestsKept (Runs.run (Runs.observed System.step RequestHistory.note)
      (System.start, ⟨[], []⟩) (answeredRun ++ [System.getReceived])) :=
  requests_kept System.start (answeredRun ++ [System.getReceived]) System.start_initial
    (by decide +kernel)

end Merged
end DlmsGateway
