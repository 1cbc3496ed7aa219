import DlmsGateway.Connection.Fragments

/-!
# TCP segmentation

Both socket threads look at byte 8 of `tmp` after every `recv` and treat what
this `recv` returned as one request, with no regard to the length field.  So a
thread is a function of the chunks, and two ways of cutting a stream into
chunks give the same requests only where no cut can bring the header byte of
the gateway to offset 8.
-/
set_option autoImplicit false
namespace DlmsGateway

open ByteStore

/-- A wrapper frame; one for the gateway starts its payload with the header byte `0xE6`. -/
structure WrapperFrame where
  source : UInt16
  destination : UInt16
  payload : List UInt8
  bound : payload.length < 65536

namespace WrapperFrame

def bytes (f : WrapperFrame) : List UInt8 :=
  let length := UInt16.ofNat f.payload.length
  [0, 1, hiByte f.source, loByte f.source, hiByte f.destination, loByte f.destination,
    hiByte length, loByte length] ++ f.payload

def IsForGateway (f : WrapperFrame) : Prop := f.payload.head? = some 0xE6

instance (f : WrapperFrame) : Decidable f.IsForGateway := inferInstanceAs (Decidable (_ = _))

end WrapperFrame

/-- What the thread of a socket did with the bytes it received: the requests it put in `RX`, and
the bytes it passed to `svr_handleRequest2`. -/
structure Dispatch where
  received : List UInt8
  requests : List (List UInt8)
  served : List UInt8
deriving DecidableEq

namespace Dispatch

def toGateway (d : Dispatch) (bytes handed : List UInt8) : Dispatch :=
  { d with received := d.received ++ bytes, requests := d.requests ++ [handed] }

def toServer (d : Dispatch) (bytes : List UInt8) : Dispatch :=
  { d with received := d.received ++ bytes, served := d.served ++ bytes }

end Dispatch

/-! ## The thread of a socket -/

/-- `tmp` of the thread, and what it dispatched so far. -/
structure SocketThread where
  tmp : Bytes 2048
  dispatched : Dispatch

namespace SocketThread

def take (t : SocketThread) (bytes : List UInt8) : SocketThread :=
  let tmp := t.tmp.copy 0 (ofList bytes) bytes.length
  { tmp
    dispatched :=
      if tmp.get 8 = 0xE6 then t.dispatched.toGateway bytes bytes else t.dispatched.toServer bytes }

/-- The byte that decides, after a chunk: a short chunk leaves it. -/
theorem marker_take (t : SocketThread) (bytes : List UInt8) :
    (t.take bytes).tmp.get 8 = if 8 < bytes.length then ofList bytes 8 else t.tmp.get 8 := by
  simp only [take, Bytes.get_copy]
  by_cases long : 8 < bytes.length <;> simp [long]

theorem dispatched_take (t : SocketThread) (bytes : List UInt8) :
    (t.take bytes).dispatched =
      if (t.take bytes).tmp.get 8 = 0xE6 then t.dispatched.toGateway bytes bytes
      else t.dispatched.toServer bytes := rfl

theorem run_unmarked : ∀ (chunks : List (List UInt8)) (t : SocketThread), t.tmp.get 8 ≠ 0xE6 →
    (∀ i, 8 ≤ i → chunks.flatten[i]? ≠ some 0xE6) →
    (Runs.run take t chunks).dispatched = t.dispatched.toServer chunks.flatten := by
  intro chunks
  induction chunks with
  | nil => intro t _ _; simp [Runs.run, Dispatch.toServer]
  | cons bytes rest ih =>
      intro t unmarked stream
      have marker : (t.take bytes).tmp.get 8 ≠ 0xE6 := by
        rw [marker_take]
        split
        · rename_i long
          have byte := stream 8 (Nat.le_refl 8)
          rw [List.flatten_cons, List.getElem?_append_left long] at byte
          rw [ofList, List.getD_eq_getElem?_getD]
          intro same
          rw [List.getElem?_eq_getElem long] at byte same
          exact byte (congrArg some same)
        · exact unmarked
      have later : ∀ i, 8 ≤ i → rest.flatten[i]? ≠ some 0xE6 := by
        intro i high
        have byte := stream (bytes.length + i) (by omega)
        rw [List.flatten_cons, List.getElem?_append_right (by omega), Nat.add_sub_cancel_left] at byte
        exact byte
      rw [Runs.run, ih _ marker later, dispatched_take, if_neg marker]
      simp [Dispatch.toServer, List.append_assoc]

/-- Chunks too short to reach byte 8 all go where the byte left there says. -/
theorem run_short : ∀ (chunks : List (List UInt8)) (t : SocketThread),
    (∀ bytes ∈ chunks, bytes.length ≤ 8) →
    (Runs.run take t chunks).tmp.get 8 = t.tmp.get 8 ∧
      (Runs.run take t chunks).dispatched.requests =
        if t.tmp.get 8 = 0xE6 then t.dispatched.requests ++ chunks else t.dispatched.requests := by
  intro chunks
  induction chunks with
  | nil => intro t _; simp [Runs.run]
  | cons bytes rest ih =>
      intro t short
      have marker : (t.take bytes).tmp.get 8 = t.tmp.get 8 := by
        have first := short bytes (List.mem_cons_self ..)
        rw [marker_take, if_neg (by omega)]
      obtain ⟨same, requests⟩ := ih (t.take bytes) fun other member =>
        short other (List.mem_cons_of_mem _ member)
      rw [marker] at same requests
      refine ⟨same, requests.trans ?_⟩
      rw [dispatched_take, marker]
      split <;> simp [Dispatch.toGateway, Dispatch.toServer]

theorem requests_prefix : ∀ (chunks : List (List UInt8)) (t : SocketThread),
    t.dispatched.requests <+: (Runs.run take t chunks).dispatched.requests := by
  intro chunks
  induction chunks with
  | nil => intro t; exact List.prefix_refl _
  | cons bytes rest ih =>
      intro t
      refine List.IsPrefix.trans ?_ (ih (t.take bytes))
      rw [dispatched_take]
      split
      · exact List.prefix_append _ _
      · exact List.prefix_refl _

end SocketThread

/-- A way of cutting a stream into the results of `recv`. -/
structure IsCut (chunks : List (List UInt8)) (stream : List UInt8) : Prop where
  sizes : ∀ bytes ∈ chunks, bytes ≠ [] ∧ bytes.length ≤ 2048
  whole : chunks.flatten = stream

def singles (stream : List UInt8) : List (List UInt8) := stream.map fun b => [b]

theorem isCut_singles (stream : List UInt8) : IsCut (singles stream) stream := by
  constructor
  · intro bytes member
    obtain ⟨b, -, rfl⟩ := List.mem_map.mp member
    simp
  · induction stream with
    | nil => rfl
    | cons b rest ih =>
        rw [singles, List.map_cons, List.flatten_cons]
        exact congrArg (b :: ·) ih

theorem IsCut.append {chunks chunks' : List (List UInt8)} {stream stream' : List UInt8}
    (left : IsCut chunks stream) (right : IsCut chunks' stream') :
    IsCut (chunks ++ chunks') (stream ++ stream') := by
  constructor
  · intro bytes member
    exact (List.mem_append.mp member).elim (left.sizes bytes) (right.sizes bytes)
  · rw [List.flatten_append, left.whole, right.whole]

theorem isCut_one {bytes : List UInt8} (some_ : bytes ≠ []) (short : bytes.length ≤ 2048) :
    IsCut [bytes] bytes := by
  constructor
  · intro other member
    rw [List.mem_singleton.mp member]
    exact ⟨some_, short⟩
  · simp

theorem length_singles (stream : List UInt8) : ∀ bytes ∈ singles stream, bytes.length ≤ 8 := by
  intro bytes member
  obtain ⟨b, -, rfl⟩ := List.mem_map.mp member
  simp

def CutsAgree (t : SocketThread) (stream : List UInt8) : Prop :=
  ∀ chunks chunks', IsCut chunks stream → IsCut chunks' stream →
    (Runs.run SocketThread.take t chunks).dispatched =
      (Runs.run SocketThread.take t chunks').dispatched

/-- A marker in `tmp` sends every chunk to the gateway, so two bytes can go as one request or
two. -/
theorem unmarked_of_agree {t : SocketThread} {stream : List UInt8} (agree : CutsAgree t stream)
    (several : 2 ≤ stream.length) : t.tmp.get 8 ≠ 0xE6 := by
  intro marked
  have bytewise := (SocketThread.run_short (singles stream) t (length_singles stream)).2
  match stream, several with
  | a :: b :: rest, _ =>
      have cut : IsCut ([a, b] :: singles rest) (a :: b :: rest) :=
        (isCut_one (by simp) (by simp)).append (isCut_singles rest)
      have requests := congrArg Dispatch.requests (agree _ _ (isCut_singles _) cut)
      have joined := (SocketThread.run_short ([a, b] :: singles rest) t (by
        intro bytes member
        rcases List.mem_cons.mp member with rfl | later
        · simp
        · exact length_singles rest bytes later)).2
      rw [bytewise, joined, if_pos marked, if_pos marked] at requests
      have lengths := congrArg List.length requests
      simp [singles] at lengths

/-- The cut that has nine bytes in one chunk, the last of them at `i`, and all others alone. -/
theorem isCut_around {stream : List UInt8} {i : Nat} (high : 8 ≤ i) (inside : i < stream.length) :
    IsCut (singles (stream.take (i - 8)) ++ ([(stream.drop (i - 8)).take 9] ++
      singles ((stream.drop (i - 8)).drop 9))) stream := by
  have middle : IsCut [(stream.drop (i - 8)).take 9] ((stream.drop (i - 8)).take 9) := by
    have length : ((stream.drop (i - 8)).take 9).length = 9 := by
      rw [List.length_take, List.length_drop]
      omega
    exact isCut_one (by intro empty; simp [empty] at length) (by omega)
  have parts := (isCut_singles (stream.take (i - 8))).append
    (middle.append (isCut_singles ((stream.drop (i - 8)).drop 9)))
  rwa [List.take_append_drop, List.take_append_drop] at parts

/-- Byte by byte nothing is sent to the gateway, in the other cut at least these nine bytes. -/
theorem clear_of_agree {t : SocketThread} {stream : List UInt8} (agree : CutsAgree t stream)
    (unmarked : t.tmp.get 8 ≠ 0xE6) {i : Nat} (high : 8 ≤ i) : stream[i]? ≠ some 0xE6 := by
  intro marked
  have inside : i < stream.length := (List.getElem?_eq_some_iff.mp marked).1
  have bytewise := (SocketThread.run_short (singles stream) t (length_singles stream)).2
  have requests := congrArg Dispatch.requests (agree _ _ (isCut_singles _) (isCut_around high inside))
  rw [bytewise, if_neg unmarked, Runs.run_append] at requests
  obtain ⟨-, early⟩ := SocketThread.run_short (singles (stream.take (i - 8))) t (length_singles _)
  rw [if_neg unmarked] at early
  generalize Runs.run SocketThread.take t (singles (stream.take (i - 8))) = u at requests early
  have marker : (u.take ((stream.drop (i - 8)).take 9)).tmp.get 8 = 0xE6 := by
    have length : ((stream.drop (i - 8)).take 9).length = 9 := by
      rw [List.length_take, List.length_drop]
      omega
    rw [SocketThread.marker_take, if_pos (by omega), ofList, List.getD_eq_getElem?_getD,
      List.getElem?_take_of_lt (by omega), List.getElem?_drop, show i - 8 + 8 = i by omega, marked]
    rfl
  have taken := SocketThread.dispatched_take u ((stream.drop (i - 8)).take 9)
  rw [if_pos marker] at taken
  have grown := SocketThread.requests_prefix (singles ((stream.drop (i - 8)).drop 9))
    (u.take ((stream.drop (i - 8)).take 9))
  rw [taken] at grown
  have longer := grown.length_le
  have same := congrArg List.length requests
  rw [List.singleton_append, Runs.run, ← early] at same
  simp only [Dispatch.toGateway, List.length_append, List.length_singleton] at longer
  omega

/-- Every cut gives the same dispatch exactly if the header byte is neither in `tmp` already nor
anywhere in the stream from offset 8 on. -/
theorem cuts_agree_iff (t : SocketThread) (stream : List UInt8) (several : 2 ≤ stream.length) :
    CutsAgree t stream ↔ t.tmp.get 8 ≠ 0xE6 ∧ ∀ i, 8 ≤ i → stream[i]? ≠ some 0xE6 := by
  constructor
  · intro agree
    have unmarked := unmarked_of_agree agree several
    exact ⟨unmarked, fun i high => clear_of_agree agree unmarked high⟩
  · rintro ⟨unmarked, clear⟩ chunks chunks' cut cut'
    rw [SocketThread.run_unmarked chunks t unmarked (by rw [cut.whole]; exact clear),
      SocketThread.run_unmarked chunks' t unmarked (by rw [cut'.whole]; exact clear), cut.whole,
      cut'.whole]

/-! ## The threads in the system -/

inductive Socket where
  | client
  | server
deriving DecidableEq

namespace Socket

def tmp (s : System) : Socket → Bytes 2048
  | .client => s.clientTmp
  | .server => s.listenTmp

def result : Socket → Event → Option (Option (Chunk 2048))
  | .client, .clientRecv ret _ => some ret
  | .server, .listenRecv ret _ _ => some ret
  | _, _ => none

/-- The bytes this step receives on the socket, with what becomes of them. -/
def arrived (s : System) (k : Socket) (e : Event) : Arrival :=
  match k, e with
  | .client, .clientRecv ret _ => s.clientArrival ret
  | .server, .listenRecv ret _ _ => s.listenArrival ret
  | _, _ => .lost

end Socket

def Dispatch.note (k : Socket) (d : Dispatch) (s : System) (e : Event) : Dispatch :=
  let bytes := ((k.result e).join.map Chunk.bytes).getD []
  match k.arrived s e with
  | .lost => d
  | .forGateway _ _ => d.toGateway bytes (s.step e).gw.received
  | .forServer _ => d.toServer bytes

/-- What the thread of the socket did in a run. -/
def System.dispatch (s : System) (k : Socket) (es : List Event) : Dispatch :=
  (Runs.run (Runs.observed System.step (Dispatch.note k)) (s, ⟨[], [], []⟩) es).2

/-- `GW_Run` has consumed the last request before the next `recv`. -/
def System.Consumed (k : Socket) (s : System) (e : Event) : Prop :=
  k.result e ≠ none → s.gw.rxCount = 0

instance (k : Socket) (s : System) (e : Event) : Decidable (System.Consumed k s e) :=
  inferInstanceAs (Decidable (_ → _))

/-- In this run the socket receives the stream, whatever else happens. -/
structure System.Delivers (s : System) (k : Socket) (stream : List UInt8) (es : List Event) :
    Prop where
  consumed : Runs.Along System.step (System.Consumed k) s es
  received : (s.dispatch k es).received = stream

/-- The chunk that a step gives the thread. -/
def Socket.chunk (s : System) (k : Socket) (e : Event) : List (List UInt8) :=
  match k.arrived s e with
  | .lost => []
  | _ => [((k.result e).join.map Chunk.bytes).getD []]

section Simulation
variable {s : System}

theorem arrival_some (tmp : Bytes 2048) (chunk : Chunk 2048) (some_ : chunk.bytes ≠ []) :
    arrival tmp (some chunk) =
      if (tmp.copy 0 (ofList chunk.bytes) chunk.bytes.length).get 8 = 0xE6 then
        .forGateway (tmp.copy 0 (ofList chunk.bytes) chunk.bytes.length) chunk
      else .forServer (tmp.copy 0 (ofList chunk.bytes) chunk.bytes.length) := by
  simp only [arrival, if_neg some_]

theorem received_receive {b : Buffer} {bytes : List UInt8} (short : bytes.length ≤ 2048)
    (some_ : bytes ≠ []) : (b.receive bytes).received = bytes :=
  (received_of_pending (Buffer.pending_receive short some_)).2

theorem clientTmp_putReply (s : System) (reply : Chunk 1032) :
    (s.putReply reply).clientTmp = s.clientTmp ∧ (s.putReply reply).listenTmp = s.listenTmp := by
  unfold System.putReply
  split <;> exact ⟨rfl, rfl⟩

theorem tmp_step_other (k : Socket) (e : Event) (other : k.result e = none) :
    k.tmp (s.step e) = k.tmp s := by
  cases e with
  | clientRecv ret reply =>
      cases k with
      | client => cases other
      | server =>
          simp only [System.step, System.clientRecv, Socket.tmp]
          split
          · split
            · rfl
            · rfl
            · exact (clientTmp_putReply _ reply).2
          · rfl
  | listenRecv ret failed reply =>
      cases k with
      | server => cases other
      | client =>
          simp only [System.step, System.listenRecv, Socket.tmp]
          split
          · split
            · rfl
            · rfl
            · exact (clientTmp_putReply _ reply).1
          · rfl
  | accept =>
      simp only [System.step, System.accept]
      split <;> cases k <;> rfl
  | send serverOk clientOk =>
      simp only [System.step, System.sendToServer, System.sendToClient]
      split_ifs <;> cases k <;> rfl
  | serialRead ret => cases ret <;> cases k <;> rfl
  | clientConnect | clientInactive | push | serialWrite | gwRun => cases k <;> rfl

theorem arrival_cases (tmp : Bytes 2048) (ret : Option (Chunk 2048)) :
    arrival tmp ret = .lost ∨ ∃ chunk, ret = some chunk ∧ chunk.bytes ≠ [] := by
  cases ret with
  | none => exact .inl rfl
  | some chunk =>
      by_cases empty : chunk.bytes = []
      · left
        simp only [arrival, if_pos empty]
      · exact .inr ⟨chunk, rfl, empty⟩

def TakesChunk (k : Socket) (s : System) (e : Event) (d : Dispatch) : Prop :=
  (k.chunk s e = [] ∧ k.tmp (s.step e) = k.tmp s ∧ d.note k s e = d) ∨
  (∃ bytes, k.chunk s e = [bytes] ∧
    SocketThread.take ⟨k.tmp s, d⟩ bytes = ⟨k.tmp (s.step e), d.note k s e⟩)

theorem takesChunk_lost {k : Socket} {e : Event} (d : Dispatch) (lost : k.arrived s e = .lost)
    (same : k.tmp (s.step e) = k.tmp s) : TakesChunk k s e d := by
  refine .inl ⟨?_, same, ?_⟩
  · simp only [Socket.chunk, lost]
  · simp only [Dispatch.note, lost]

theorem takesChunk_some {k : Socket} {e : Event} (d : Dispatch) {chunk : Chunk 2048}
    (result : k.result e = some (some chunk)) (some_ : chunk.bytes ≠ [])
    (arrived : k.arrived s e = arrival (k.tmp s) (some chunk))
    (tmp : k.tmp (s.step e) = (k.tmp s).copy 0 (ofList chunk.bytes) chunk.bytes.length)
    (handed : k.arrived s e = .forGateway (k.tmp (s.step e)) chunk →
      (s.step e).gw.received = chunk.bytes) : TakesChunk k s e d := by
  rw [arrival_some _ _ some_, ← tmp] at arrived
  refine .inr ⟨chunk.bytes, ?_, ?_⟩
  · simp only [Socket.chunk, arrived, result]
    split <;> rename_i lost
    · split at lost <;> cases lost
    · rfl
  · simp only [SocketThread.take, ← tmp, Dispatch.note, arrived, result]
    split
    · rename_i marked
      rw [if_pos marked] at arrived
      rw [handed arrived]
      rfl
    · rfl

theorem step_clientRecv {chunk : Chunk 2048} (reply : Chunk 1032) (some_ : chunk.bytes ≠ [])
    (connected : s.clientConnected = true) (empty : s.gw.rxCount = 0) :
    let tmp := s.clientTmp.copy 0 (ofList chunk.bytes) chunk.bytes.length
    s.step (.clientRecv (some chunk) reply) =
      if tmp.get 8 = 0xE6 then { s with clientTmp := tmp, gw := s.gw.receive chunk.bytes }
      else ({ s with clientTmp := tmp } : System).putReply reply := by
  simp only [System.step, System.clientRecv, connected, if_true, arrival_some _ _ some_]
  split <;> rename_i arrived
  · split at arrived <;> cases arrived
  · split at arrived <;> cases arrived
    rename_i marked
    rw [if_pos marked, Buffer.receiveMore_eq_receive empty]
  · split at arrived <;> cases arrived
    rename_i unmarked
    rw [if_neg unmarked]

theorem step_listenRecv {chunk : Chunk 2048} (failed : Bool) (reply : Chunk 1032)
    (some_ : chunk.bytes ≠ []) (serving : s.serving = true) (isOpen : s.acceptOpen = true) :
    let tmp := s.listenTmp.copy 0 (ofList chunk.bytes) chunk.bytes.length
    s.step (.listenRecv (some chunk) failed reply) =
      if tmp.get 8 = 0xE6 then { s with listenTmp := tmp, gw := s.gw.receive chunk.bytes }
      else ({ s with listenTmp := tmp, acceptOpen := !failed } : System).putReply reply := by
  simp only [System.step, System.listenRecv, serving, isOpen, if_true, arrival_some _ _ some_,
    Bool.true_and]
  split <;> rename_i arrived
  · split at arrived <;> cases arrived
  · split at arrived <;> cases arrived
    rename_i marked
    rw [if_pos marked]
  · split at arrived <;> cases arrived
    rename_i unmarked
    rw [if_neg unmarked]

theorem takesChunk_client (ret : Option (Chunk 2048)) (reply : Chunk 1032) (d : Dispatch)
    (empty : s.gw.rxCount = 0) : TakesChunk .client s (.clientRecv ret reply) d := by
  cases connected : s.clientConnected with
  | false =>
      apply takesChunk_lost
      · simp [Socket.arrived, System.clientArrival, connected]
      · simp [System.step, System.clientRecv, connected, Socket.tmp]
  | true =>
      rcases arrival_cases s.clientTmp ret with lost | ⟨chunk, rfl, some_⟩
      · apply takesChunk_lost
        · simp [Socket.arrived, System.clientArrival, connected, lost]
        · simp [System.step, System.clientRecv, connected, Socket.tmp, lost]
      · have stepped := step_clientRecv reply some_ connected empty
        have arrived : Socket.client.arrived s (.clientRecv (some chunk) reply) =
            arrival s.clientTmp (some chunk) := by
          simp [Socket.arrived, System.clientArrival, connected]
        apply takesChunk_some d rfl some_ arrived
        · rw [stepped]
          split
          · rfl
          · exact (clientTmp_putReply _ reply).1
        · intro forGateway
          rw [arrived, arrival_some _ _ some_] at forGateway
          split at forGateway
          · rename_i marked
            rw [stepped, if_pos marked]
            exact received_receive chunk.bound some_
          · cases forGateway

theorem takesChunk_server (ret : Option (Chunk 2048)) (failed : Bool) (reply : Chunk 1032)
    (d : Dispatch) : TakesChunk .server s (.listenRecv ret failed reply) d := by
  have closed (lost : Socket.server.arrived s (.listenRecv ret failed reply) = .lost) :
      TakesChunk .server s (.listenRecv ret failed reply) d := by
    apply takesChunk_lost d lost
    simp only [Socket.arrived, System.listenArrival] at lost
    simp only [System.step, System.listenRecv, Socket.tmp]
    split
    · rename_i serving
      rw [if_pos serving] at lost
      rw [lost]
      rfl
    · rfl
  cases serving : s.serving with
  | false =>
      apply closed
      simp [Socket.arrived, System.listenArrival, serving]
  | true =>
      cases isOpen : s.acceptOpen with
      | false =>
          apply closed
          simp [Socket.arrived, System.listenArrival, serving, isOpen, arrival]
      | true =>
          rcases arrival_cases s.listenTmp ret with lost | ⟨chunk, rfl, some_⟩
          · apply closed
            simp [Socket.arrived, System.listenArrival, serving, isOpen, lost]
          · have stepped := step_listenRecv failed reply some_ serving isOpen
            have arrived : Socket.server.arrived s (.listenRecv (some chunk) failed reply) =
                arrival s.listenTmp (some chunk) := by
              simp [Socket.arrived, System.listenArrival, serving, isOpen]
            apply takesChunk_some d rfl some_ arrived
            · rw [stepped]
              split
              · rfl
              · exact (clientTmp_putReply _ reply).2
            · intro forGateway
              rw [arrived, arrival_some _ _ some_] at forGateway
              split at forGateway
              · rename_i marked
                rw [stepped, if_pos marked]
                exact received_receive chunk.bound some_
              · cases forGateway

theorem takesChunk_step (k : Socket) (e : Event) (free : System.Consumed k s e) (d : Dispatch) :
    TakesChunk k s e d := by
  cases result : k.result e with
  | none =>
      apply takesChunk_lost d _ (tmp_step_other k e result)
      cases k <;> cases e <;> first | rfl | cases result
  | some ret =>
      have empty : s.gw.rxCount = 0 := free (by simp [result])
      cases k with
      | client =>
          cases e with
          | clientRecv ret reply => exact takesChunk_client ret reply d empty
          | _ => cases result
      | server =>
          cases e with
          | listenRecv ret failed reply => exact takesChunk_server ret failed reply d
          | _ => cases result

/-- The threads of the system, with the consumption of the requests, simulate the thread that
sees only the chunks. -/
theorem simulates_thread (k : Socket) :
    Runs.Simulates (Runs.observed System.step (Dispatch.note k))
      (fun p e => System.Consumed k p.1 e) SocketThread.take (fun p e => k.chunk p.1 e)
      (fun p t => t = ⟨k.tmp p.1, p.2⟩) := by
  intro ⟨s, d⟩ e t related free
  subst related
  rcases takesChunk_step k e free d with ⟨chunk, same, note⟩ | ⟨bytes, chunk, taken⟩
  · simp only [chunk, Runs.run, Runs.observed]
    rw [same, note]
  · simp only [chunk, Runs.run, Runs.observed]
    exact taken

def System.chunks (s : System) (k : Socket) (es : List Event) : List (List UInt8) :=
  Runs.answers (Runs.observed System.step (Dispatch.note k)) (fun p e => k.chunk p.1 e)
    (s, ⟨[], [], []⟩) es

theorem dispatch_eq (k : Socket) (es : List Event)
    (consumed : Runs.Along System.step (System.Consumed k) s es) :
    s.dispatch k es =
      (Runs.run SocketThread.take ⟨k.tmp s, ⟨[], [], []⟩⟩ (s.chunks k es)).dispatched := by
  have related := (simulates_thread k).run_related es (s, ⟨[], [], []⟩) _ rfl
    ((Runs.along_observed _ _ _ es s _).mpr consumed)
  rw [System.chunks, related]
  rfl

theorem received_run : ∀ (chunks : List (List UInt8)) (t : SocketThread),
    (Runs.run SocketThread.take t chunks).dispatched.received =
      t.dispatched.received ++ chunks.flatten := by
  intro chunks
  induction chunks with
  | nil => intro t; simp [Runs.run]
  | cons bytes rest ih =>
      intro t
      rw [Runs.run, ih, SocketThread.dispatched_take]
      split <;> simp [Dispatch.toGateway, Dispatch.toServer]

end Simulation

/-! ## Consuming a request -/

/-- The gateway waits for a request, and gives one up after five seconds. -/
structure GwRun.Waiting (s : GwRun) : Prop where
  idle : s.globals.gwState = .waitForGetFrame
  empty : s.gw.rxCount = 0
  timeout : s.hdlc.timeoutMs = 5000

/-- A request was taken and goes to the meter. -/
structure GwRun.Forwarding (s : GwRun) : Prop where
  state : s.globals.gwState = .snrmRequest ∨ s.globals.gwState = .informationFrame
  empty : s.gw.rxCount = 0
  timeout : s.hdlc.timeoutMs = 5000
  limit : s.hdlcTmp.timeoutMs = 5000

structure GwRun.Awaiting (s : GwRun) : Prop where
  state : s.globals.gwState = .snrmResponse ∨ s.globals.gwState = .response
  empty : s.gw.rxCount = 0
  silent : s.hdlc.rxCount = 0
  started : s.timeoutStart = ⟨0, 0⟩
  timeout : s.hdlc.timeoutMs = 5000
  limit : s.hdlcTmp.timeoutMs = 5000

section Consume
variable {s : GwRun}

theorem timeoutMs_copyTx_of_le (b : Buffer) (src : Nat → UInt8) {len : Nat} (short : len ≤ 4104) :
    (b.copyTx src len).timeoutMs = b.timeoutMs := by
  unfold Buffer.copyTx
  dsimp only
  rw [leWord_congr (g := leByte b.timeoutMs) fun k _ => if_neg (by omega), leWord_leByte]

theorem timeoutMs_controlFrame {gw hdlc b : Buffer} {logical : UInt16} {control : UInt8}
    (framed : controlFrame gw hdlc logical control = some b) : b.timeoutMs = hdlc.timeoutMs := by
  unfold controlFrame at framed
  cases accepted : gw.dstSizeAndPhyAdd with
  | none => rw [accepted] at framed; cases framed
  | some pair =>
      obtain ⟨dstSize, phyAdd⟩ := pair
      rw [accepted] at framed
      cases framed
      exact timeoutMs_copyTx_of_le _ _ (by rcases dstSize_cases accepted with rfl | rfl <;> simp)

theorem timeoutMs_snrm (gw hdlc : Buffer) :
    (gw2HdlcSnrmGenerator gw hdlc).2.timeoutMs = hdlc.timeoutMs := by
  unfold gw2HdlcSnrmGenerator
  split
  · rename_i framed
    exact timeoutMs_controlFrame framed
  · rfl

theorem timeoutMs_frameConvertor (gw hdlc : Buffer) (ctrl : CtrlByteStr) :
    (gw2HdlcFrameConvertor gw hdlc ctrl).2.1.timeoutMs = hdlc.timeoutMs := by
  unfold gw2HdlcFrameConvertor
  split
  · rfl
  · dsimp only
    split
    · rfl
    · exact timeoutMs_copyTx_of_le _ _ (by omega)

theorem forwarding_of_takes (takes : s.Takes) (timeout : s.hdlc.timeoutMs = 5000) :
    (s.step ⟨0, 0⟩).Forwarding := by
  simp only [GwRun.step, takes.1, GwRun.waitForGetFrame, if_pos takes.2]
  refine ⟨?_, rfl, timeout, timeout⟩
  dsimp only
  unfold GwRun.entryState
  split
  · exact .inl rfl
  · exact .inr rfl

theorem next_of_forwarding (forwarding : s.Forwarding) :
    (s.step ⟨0, 0⟩).Waiting ∨ (s.step ⟨0, 0⟩).Awaiting := by
  rcases forwarding.state with state | state
  · have timeout := (timeoutMs_snrm s.gwTmp s.clearHdlcRxCount.hdlc).trans forwarding.timeout
    have silent := rxCount_controlFrame s.gwTmp s.clearHdlcRxCount.hdlc s.gwTmp.logicalAddress 0x93
      (1 : UInt8) 255
    simp only [GwRun.step, state, GwRun.snrmRequest]
    split
    · exact .inr ⟨.inl rfl, forwarding.empty, silent, rfl, timeout, forwarding.limit⟩
    · exact .inl ⟨rfl, forwarding.empty, timeout⟩
  · have timeout := fun ctrl =>
      (timeoutMs_frameConvertor s.gwTmp s.clearHdlcRxCount.hdlc ctrl).trans forwarding.timeout
    have silent := rxCount_frameConvertor s.gwTmp s.clearHdlcRxCount.hdlc
      { s.ctrl with ctrlByte := controlByte s.ctrl.rrr s.ctrl.sss .information }
    simp only [GwRun.step, state, GwRun.informationFrame]
    split
    · exact .inr ⟨.inr rfl, forwarding.empty, silent, rfl, timeout _, forwarding.limit⟩
    · exact .inl ⟨rfl, forwarding.empty, timeout _⟩

theorem waiting_of_awaiting (awaiting : s.Awaiting) : (s.step ⟨6, 0⟩).Waiting := by
  have late : s.timedOut ⟨6, 0⟩ = true := by
    rw [GwRun.timedOut, awaiting.limit, awaiting.started]
    decide
  have silent : ¬ 0 < s.hdlc.rxCount := by
    rw [awaiting.silent]
    decide
  rcases awaiting.state with state | state
  · simp only [GwRun.step, state]
    rw [GwRun.snrmResponse_of_silent _ silent, if_pos late]
    exact ⟨rfl, awaiting.empty, awaiting.timeout⟩
  · simp only [GwRun.step, state]
    rw [GwRun.response_of_silent _ silent, if_pos late]
    exact ⟨rfl, awaiting.empty, awaiting.timeout⟩

/-- `GW_Run` can always consume a request: without an answer the timeout brings it back. -/
theorem consumes (idle : s.globals.gwState = .waitForGetFrame)
    (timeout : s.hdlc.timeoutMs = 5000) :
    ∃ nows, (Runs.run GwRun.step s nows).Waiting := by
  by_cases some_ : 0 < s.gw.rxCount
  · have forwarding := forwarding_of_takes ⟨idle, some_⟩ timeout
    rcases next_of_forwarding forwarding with waiting | awaiting
    · exact ⟨[⟨0, 0⟩, ⟨0, 0⟩], waiting⟩
    · exact ⟨[⟨0, 0⟩, ⟨0, 0⟩, ⟨6, 0⟩], waiting_of_awaiting awaiting⟩
  · exact ⟨[], idle, rxCount_eq_zero some_, timeout⟩

end Consume

/-! ## Every cut happens -/

def Socket.IsOpen (s : System) : Socket → Prop
  | .client => s.clientConnected = true
  | .server => s.serving = true ∧ s.acceptOpen = true

/-- The socket is connected and the gateway waits for a request. -/
structure System.Ready (k : Socket) (s : System) : Prop where
  isOpen : k.IsOpen s
  waiting : s.toGwRun.Waiting

/-- A `recv` on the socket that the server, if it gets the bytes, does not answer. -/
def Socket.recv : Socket → Chunk 2048 → Event
  | .client, chunk => .clientRecv (some chunk) System.noReply
  | .server, chunk => .listenRecv (some chunk) false System.noReply

section Realise
variable {s : System} {k : Socket}

theorem run_gwRuns : ∀ (nows : List Timeval) (s : System),
    Runs.run System.step s (nows.map .gwRun) =
      { s with toGwRun := Runs.run GwRun.step s.toGwRun nows } := by
  intro nows
  induction nows with
  | nil => intro s; rfl
  | cons now rest ih => intro s; exact ih _

theorem chunk_recv (isOpen : k.IsOpen s) (chunk : Chunk 2048) (some_ : chunk.bytes ≠ []) :
    k.chunk s (k.recv chunk) = [chunk.bytes] := by
  cases k with
  | client =>
      have connected : s.clientConnected = true := isOpen
      simp only [Socket.chunk, Socket.arrived, Socket.recv, System.clientArrival, connected,
        if_true, arrival_some _ _ some_, Socket.result]
      split <;> rename_i lost
      · split at lost <;> cases lost
      · rfl
  | server =>
      obtain ⟨serving, accepted⟩ : s.serving = true ∧ s.acceptOpen = true := isOpen
      simp only [Socket.chunk, Socket.arrived, Socket.recv, System.listenArrival, serving,
        accepted, if_true, arrival_some _ _ some_, Socket.result]
      split <;> rename_i lost
      · split at lost <;> cases lost
      · rfl

theorem putReply_noReply (s : System) : s.putReply System.noReply = s := rfl

theorem step_recv (ready : s.Ready k) (chunk : Chunk 2048) (some_ : chunk.bytes ≠ []) :
    k.IsOpen (s.step (k.recv chunk)) ∧
      (s.step (k.recv chunk)).globals.gwState = .waitForGetFrame ∧
      (s.step (k.recv chunk)).hdlc.timeoutMs = 5000 := by
  cases k with
  | client =>
      rw [Socket.recv, step_clientRecv _ some_ ready.isOpen ready.waiting.empty, putReply_noReply]
      split <;> exact ⟨ready.isOpen, ready.waiting.idle, ready.waiting.timeout⟩
  | server =>
      obtain ⟨serving, accepted⟩ := ready.isOpen
      rw [Socket.recv, step_listenRecv _ _ some_ serving accepted, putReply_noReply]
      split <;> exact ⟨⟨serving, by simp [accepted]⟩, ready.waiting.idle, ready.waiting.timeout⟩

theorem ready_again (ready : s.Ready k) (chunk : Chunk 2048) (some_ : chunk.bytes ≠ []) :
    ∃ nows : List Timeval,
      (Runs.run System.step (s.step (k.recv chunk)) (nows.map .gwRun)).Ready k := by
  obtain ⟨isOpen, idle, timeout⟩ := step_recv ready chunk some_
  obtain ⟨nows, waiting⟩ := consumes idle timeout
  refine ⟨nows, ?_, ?_⟩
  · rw [run_gwRuns]
    cases k <;> exact isOpen
  · rw [run_gwRuns]
    exact waiting

theorem gwRuns_silent (k : Socket) : ∀ (nows : List Timeval) (s : System) (d : Dispatch),
    Runs.Along System.step (System.Consumed k) s (nows.map .gwRun) ∧
      Runs.answers (Runs.observed System.step (Dispatch.note k)) (fun p e => k.chunk p.1 e) (s, d)
        (nows.map .gwRun) = [] := by
  intro nows
  induction nows with
  | nil => intro s d; exact ⟨trivial, rfl⟩
  | cons now rest ih =>
      intro s d
      obtain ⟨consumed, silent⟩ := ih (s.step (.gwRun now)) (d.note k s (.gwRun now))
      have nothing : k.result (.gwRun now) = none := by cases k <;> rfl
      have chunk : k.chunk s (.gwRun now) = [] := by cases k <;> rfl
      refine ⟨⟨fun some_ => absurd nothing some_, consumed⟩, ?_⟩
      rw [List.map_cons, Runs.answers, chunk]
      exact silent

theorem run_observed_fst {σ γ : Type} (step : σ → Event → σ) (note : γ → σ → Event → γ) :
    ∀ (es : List Event) (p : σ × γ),
      (Runs.run (Runs.observed step note) p es).1 = Runs.run step p.1 es := by
  intro es
  induction es with
  | nil => intro p; rfl
  | cons e es ih => intro p; exact ih _

theorem cut_realised : ∀ (chunks : List (List UInt8)) (s : System), s.Ready k →
    (∀ bytes ∈ chunks, bytes ≠ [] ∧ bytes.length ≤ 2048) →
    ∃ es, Runs.Along System.step (System.Consumed k) s es ∧
      ∀ d, Runs.answers (Runs.observed System.step (Dispatch.note k)) (fun p e => k.chunk p.1 e)
        (s, d) es = chunks := by
  intro chunks
  induction chunks with
  | nil => intro s _ _; exact ⟨[], trivial, fun _ => rfl⟩
  | cons bytes rest ih =>
      intro s ready sizes
      obtain ⟨some_, short⟩ := sizes bytes (List.mem_cons_self ..)
      let chunk : Chunk 2048 := ⟨bytes, short⟩
      obtain ⟨nows, next⟩ := ready_again ready chunk some_
      obtain ⟨es, consumed, received⟩ := ih _ next fun other member =>
        sizes other (List.mem_cons_of_mem _ member)
      refine ⟨k.recv chunk :: (nows.map .gwRun ++ es), ⟨fun _ => ready.waiting.empty, ?_⟩, ?_⟩
      · exact (Runs.along_append _ _ _ _ _).mpr ⟨(gwRuns_silent k nows _ ⟨[], [], []⟩).1, consumed⟩
      · intro d
        rw [Runs.answers, chunk_recv ready.isOpen chunk some_, Runs.answers_append]
        have silent := (gwRuns_silent k nows (s.step (k.recv chunk)) (d.note k s (k.recv chunk))).2
        generalize after : Runs.run (Runs.observed System.step (Dispatch.note k))
          (Runs.observed System.step (Dispatch.note k) (s, d) (k.recv chunk))
          (nows.map .gwRun) = p
        have state : p.1 = Runs.run System.step (s.step (k.recv chunk)) (nows.map .gwRun) := by
          rw [← after, run_observed_fst]
          rfl
        obtain ⟨t, d'⟩ := p
        obtain rfl := state
        rw [received d']
        exact congrArg (fun front => [bytes] ++ (front ++ rest)) silent

end Realise

theorem sizes_chunk (s : System) (k : Socket) (e : Event) :
    ∀ bytes ∈ k.chunk s e, bytes ≠ [] ∧ bytes.length ≤ 2048 := by
  intro bytes member
  cases result : k.result e with
  | none =>
      have lost : k.arrived s e = .lost := by
        cases k <;> cases e <;> first | rfl | cases result
      simp [Socket.chunk, lost] at member
  | some ret =>
      have arrived : k.arrived s e = .lost ∨ ∃ chunk, ret = some chunk ∧ chunk.bytes ≠ [] := by
        cases k <;> cases e <;> cases result
        · rw [Socket.arrived, System.clientArrival]
          split
          · exact arrival_cases _ _
          · exact .inl rfl
        · rw [Socket.arrived, System.listenArrival]
          split
          · split
            · exact arrival_cases _ _
            · exact .inl rfl
          · exact .inl rfl
      rcases arrived with lost | ⟨chunk, rfl, some_⟩
      · simp [Socket.chunk, lost] at member
      · have only : bytes = chunk.bytes := by
          simp only [Socket.chunk, result] at member
          split at member
          · cases member
          · exact List.mem_singleton.mp member
        rw [only]
        exact ⟨some_, chunk.bound⟩

theorem sizes_chunks (k : Socket) : ∀ (es : List Event) (p : System × Dispatch),
    ∀ bytes ∈ Runs.answers (Runs.observed System.step (Dispatch.note k))
      (fun p e => k.chunk p.1 e) p es, bytes ≠ [] ∧ bytes.length ≤ 2048 := by
  intro es
  induction es with
  | nil => intro p bytes member; cases member
  | cons e es ih =>
      intro p bytes member
      rcases List.mem_append.mp member with first | later
      · exact sizes_chunk p.1 k e bytes first
      · exact ih _ bytes later

theorem isCut_of_delivers {s : System} {k : Socket} {stream : List UInt8} {es : List Event}
    (delivers : s.Delivers k stream es) : IsCut (s.chunks k es) stream := by
  refine ⟨sizes_chunks k es _, ?_⟩
  rw [← delivers.received, dispatch_eq k es delivers.consumed, received_run]
  rfl

def streamOf (frames : List WrapperFrame) : List UInt8 := frames.flatMap WrapperFrame.bytes

theorem length_streamOf {frames : List WrapperFrame} (some_ : frames ≠ []) :
    2 ≤ (streamOf frames).length := by
  cases frames with
  | nil => exact absurd rfl some_
  | cons f rest =>
      rw [streamOf, List.flatMap_cons, List.length_append, WrapperFrame.bytes, List.length_append,
        List.length_cons, List.length_cons]
      omega

/-- Every way in which a stream of frames arrives on a socket gives the same requests and the
same bytes for the server exactly if the header byte is neither left in `tmp` nor anywhere in the
stream from offset 8 on. -/
theorem segmentation_independent_iff (k : Socket) (s : System) (ready : s.Ready k)
    (frames : List WrapperFrame) (some_ : frames ≠ []) :
    (∀ es es', s.Delivers k (streamOf frames) es → s.Delivers k (streamOf frames) es' →
      s.dispatch k es = s.dispatch k es') ↔
      (k.tmp s).get 8 ≠ 0xE6 ∧ ∀ i, 8 ≤ i → (streamOf frames)[i]? ≠ some 0xE6 := by
  rw [← cuts_agree_iff ⟨k.tmp s, ⟨[], [], []⟩⟩ (streamOf frames) (length_streamOf some_)]
  constructor
  · intro agree chunks chunks' cut cut'
    obtain ⟨es, consumed, received⟩ := cut_realised chunks s ready cut.sizes
    obtain ⟨es', consumed', received'⟩ := cut_realised chunks' s ready cut'.sizes
    have dispatched := dispatch_eq k es consumed
    have dispatched' := dispatch_eq k es' consumed'
    rw [System.chunks, received] at dispatched
    rw [System.chunks, received'] at dispatched'
    rw [← dispatched, ← dispatched']
    apply agree
    · refine ⟨consumed, ?_⟩
      rw [dispatched, received_run, cut.whole]
      rfl
    · refine ⟨consumed', ?_⟩
      rw [dispatched', received_run, cut'.whole]
      rfl
  · intro agree es es' delivers delivers'
    rw [dispatch_eq k es delivers.consumed, dispatch_eq k es' delivers'.consumed]
    exact agree _ _ (isCut_of_delivers delivers) (isCut_of_delivers delivers')

section Frames

theorem getElem_eight (f : WrapperFrame) (b : UInt8) (rest : List UInt8)
    (payload : f.payload = b :: rest) : 8 < f.bytes.length ∧ ofList f.bytes 8 = b := by
  constructor <;> simp [WrapperFrame.bytes, payload, ofList]

theorem frames_dispatched : ∀ (frames : List WrapperFrame) (t : SocketThread),
    (∀ f ∈ frames, f.payload ≠ []) →
    let u := Runs.run SocketThread.take t (frames.map WrapperFrame.bytes)
    u.dispatched.requests = t.dispatched.requests ++
        (frames.filter (·.IsForGateway)).map WrapperFrame.bytes ∧
      u.dispatched.served = t.dispatched.served ++
        (frames.filter (¬ ·.IsForGateway)).flatMap WrapperFrame.bytes := by
  intro frames
  induction frames with
  | nil => intro t _; simp [Runs.run]
  | cons f rest ih =>
      intro t some_
      have later := ih (t.take f.bytes) fun other member => some_ other (List.mem_cons_of_mem _ member)
      obtain ⟨b, others, payload⟩ := List.exists_cons_of_ne_nil (some_ f (List.mem_cons_self ..))
      obtain ⟨long, byte⟩ := getElem_eight f b others payload
      have marker : (t.take f.bytes).tmp.get 8 = b := by
        rw [SocketThread.marker_take, if_pos long, byte]
      have forGateway : f.IsForGateway ↔ b = 0xE6 := by
        simp [WrapperFrame.IsForGateway, payload]
      have taken := SocketThread.dispatched_take t f.bytes
      rw [marker] at taken
      by_cases marked : b = 0xE6
      · rw [if_pos marked] at taken
        rw [taken] at later
        simpa [Runs.run, forGateway.mpr marked, Dispatch.toGateway] using later
      · rw [if_neg marked] at taken
        rw [taken] at later
        simpa [Runs.run, mt forGateway.mp marked, Dispatch.toServer] using later

def getFrame : WrapperFrame := ⟨16, 1, [0xE6, 0, 1, 17, 0xC0, 0x01, 0x81, 0x00, 0x05], by decide⟩

def getFrameWhole : Chunk 2048 := ⟨getFrame.bytes, by decide⟩

def getFrameStart : Chunk 2048 := ⟨getFrame.bytes.take 8, by decide⟩

def getFrameRest : Chunk 2048 := ⟨getFrame.bytes.drop 8, by decide⟩

def clientReady : System := System.start.step .clientConnect

theorem clientReady_ready : clientReady.Ready .client := ⟨rfl, ⟨rfl, rfl, rfl⟩⟩

/-- Cut behind the wrapper header, the request goes to the server of the gateway itself. -/
theorem split_request_served :
    ¬ ∀ (k : Socket) (s : System) (frames : List WrapperFrame) (es es' : List Event), s.Ready k →
      s.Delivers k (streamOf frames) es → s.Delivers k (streamOf frames) es' →
      s.dispatch k es = s.dispatch k es' := by
  intro always
  have same := always .client clientReady [getFrame] [Socket.client.recv getFrameWhole]
    [Socket.client.recv getFrameStart, Socket.client.recv getFrameRest] clientReady_ready
    ⟨by decide +kernel, by decide +kernel⟩ ⟨by decide +kernel, by decide +kernel⟩
  revert same
  decide +kernel

theorem getFrame_depends_on_cut :
    (∀ es es', clientReady.Delivers .client (streamOf [getFrame]) es →
      clientReady.Delivers .client (streamOf [getFrame]) es' →
      clientReady.dispatch .client es = clientReady.dispatch .client es') ↔
      (Socket.client.tmp clientReady).get 8 ≠ 0xE6 ∧
        ∀ i, 8 ≤ i → (streamOf [getFrame])[i]? ≠ some 0xE6 :=
  segmentation_independent_iff .client clientReady clientReady_ready [getFrame] (by decide)

end Frames
end DlmsGateway
