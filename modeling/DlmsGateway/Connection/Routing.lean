import DlmsGateway.Connection.Threads
import DlmsGateway.Gateway.Isolation

/-!
# Where the answers go

`TX` has no owner: `Socket_Send_Thread` offers it to the accepted socket first
and to the client socket next.  A history variable says for each place of
`GW_STRUCT` whose request it holds.  As long as the requests outstanding are
all from the connection that the send thread would choose, and this connection
lasts until they are answered, every answer goes back where it was asked for.
-/
set_option autoImplicit false
namespace DlmsGateway

inductive Peer where
  | client
  | server
deriving DecidableEq

structure Session where
  peer : Peer
  number : Nat
deriving DecidableEq

/-- Whose request waits in `RX`, is worked on by `GW_Run`, and is answered in `TX`. -/
structure RoutingHistory where
  clientSession : Nat
  serverSession : Nat
  waiting : Option Session
  current : Option Session
  answer : Option Session

/-- The request is for the gateway, or the server has a reply to it. -/
def Arrival.Asks (reply : Chunk 1032) : Arrival → Prop
  | .lost => False
  | .forGateway _ _ => True
  | .forServer _ => reply.bytes ≠ []

instance (reply : Chunk 1032) : ∀ arrived : Arrival, Decidable (arrived.Asks reply)
  | .lost => .isFalse id
  | .forGateway _ _ => .isTrue trivial
  | .forServer _ => inferInstanceAs (Decidable (_ ≠ _))

/-- The frame to be converted passes every check, so that `HES_Frame` is copied to `GW_STRUCT`. -/
def GwRun.Converts (s : GwRun) : Prop :=
  s.globals.gwState = .responseForMdm ∧ s.hdlcTmp.acceptedFrame.isSome = true

instance (s : GwRun) : Decidable s.Converts := inferInstanceAs (Decidable (_ ∧ _))

def Arrival.IsLost : Arrival → Prop
  | .lost => True
  | _ => False

instance : ∀ arrived : Arrival, Decidable arrived.IsLost
  | .lost => .isTrue trivial
  | .forGateway _ _ | .forServer _ => .isFalse id

namespace System

/-- The bytes in `TX` go out on the accepted socket. -/
def SendsToServer (s : System) (serverOk : Bool) : Prop :=
  s.serverConnected = true ∧ 0 < s.gw.txCount ∧ serverOk = true ∧ s.acceptOpen = true

/-- The bytes in `TX` go out on the client socket. -/
def SendsToClient (s : System) (clientOk : Bool) : Prop :=
  s.clientConnected = true ∧ 0 < s.gw.txCount ∧ clientOk = true

instance (s : System) (serverOk : Bool) : Decidable (s.SendsToServer serverOk) :=
  inferInstanceAs (Decidable (_ ∧ _))

instance (s : System) (clientOk : Bool) : Decidable (s.SendsToClient clientOk) :=
  inferInstanceAs (Decidable (_ ∧ _))

end System

namespace RoutingHistory

def session (h : RoutingHistory) : Peer → Session
  | .client => ⟨.client, h.clientSession⟩
  | .server => ⟨.server, h.serverSession⟩

def outstanding (h : RoutingHistory) : List Session :=
  h.waiting.toList ++ h.current.toList ++ h.answer.toList

/-- A request of this peer waits, is worked on, or has its answer in `TX`. -/
def Unanswered (h : RoutingHistory) (peer : Peer) : Prop :=
  ∃ session ∈ h.outstanding, session.peer = peer

instance (h : RoutingHistory) (peer : Peer) : Decidable (h.Unanswered peer) :=
  inferInstanceAs (Decidable (∃ session ∈ h.outstanding, _))

def arrived (h : RoutingHistory) (peer : Peer) (reply : Chunk 1032) : Arrival → RoutingHistory
  | .lost => h
  | .forGateway _ _ => { h with waiting := some (h.session peer) }
  | .forServer _ =>
      if reply.bytes = [] then h else { h with answer := some (h.session peer) }

def iterated (h : RoutingHistory) (s : GwRun) : RoutingHistory :=
  if s.Takes then { h with waiting := none, current := h.waiting }
  else if s.Converts then
    { h with waiting := none, answer := if s.HandsOver then h.current else none }
  else h

def note (h : RoutingHistory) (s : System) : Event → RoutingHistory
  | .clientRecv ret reply => h.arrived .client reply (s.clientArrival ret)
  | .listenRecv ret _ reply => h.arrived .server reply (s.listenArrival ret)
  | .clientConnect =>
      if s.clientConnected then h else { h with clientSession := h.clientSession + 1 }
  | .accept => if s.serving then h else { h with serverSession := h.serverSession + 1 }
  | .push _ => { h with answer := none }
  | .send serverOk clientOk =>
      if s.SendsToServer serverOk ∨ (s.sendToServer serverOk).SendsToClient clientOk then
        { h with answer := none }
      else h
  | .gwRun now =>
      if (s.toGwRun.step now).globals.gwState = .waitForGetFrame then
        { h.iterated s.toGwRun with current := none }
      else h.iterated s.toGwRun
  | _ => h

end RoutingHistory

/-- An answer is sent on the connection, and in the session, of its request. -/
def Routed (p : System × RoutingHistory) : Event → Prop
  | .send serverOk clientOk =>
      (p.1.SendsToServer serverOk → ∀ session ∈ p.2.answer, session = p.2.session .server) ∧
      ((p.1.sendToServer serverOk).SendsToClient clientOk →
        ∀ session ∈ p.2.answer, session = p.2.session .client)
  | _ => True

/-- Requests arrive on the connection that the send thread would choose for all that are
outstanding, and no connection comes or goes while that would change the choice. -/
def Settled (p : System × RoutingHistory) : Event → Prop
  | .clientRecv ret reply => (p.1.clientArrival ret).Asks reply → p.1.serverConnected = false
  | .listenRecv ret _ reply =>
      ((p.1.listenArrival ret).Asks reply →
        p.1.serverConnected = true ∧ ¬ p.2.Unanswered .client) ∧
      (p.1.serving = true → (p.1.listenArrival ret).IsLost → ¬ p.2.Unanswered .server)
  | .clientConnect => p.1.clientConnected = false → ¬ p.2.Unanswered .client
  | .accept => p.1.serving = false → ¬ p.2.Unanswered .client
  | .send serverOk _ =>
      p.1.serverConnected = true → 0 < p.1.gw.txCount → ¬ p.1.SendsToServer serverOk →
        ¬ p.2.Unanswered .server
  | _ => True

instance (p : System × RoutingHistory) : ∀ e, Decidable (Routed p e)
  | .send .. => inferInstanceAs (Decidable ((_ → _) ∧ (_ → _)))
  | .clientRecv .. | .clientConnect | .clientInactive | .accept | .listenRecv .. | .push _
  | .serialRead _ | .serialWrite | .gwRun _ => .isTrue trivial

instance (p : System × RoutingHistory) : ∀ e, Decidable (Settled p e)
  | .clientRecv .. | .clientConnect | .accept | .send .. => inferInstanceAs (Decidable (_ → _))
  | .listenRecv .. => inferInstanceAs (Decidable ((_ → _) ∧ (_ → _)))
  | .clientInactive | .push _ | .serialRead _ | .serialWrite | .gwRun _ => .isTrue trivial

/-! ## The invariant -/

/-- The session that the send thread chooses as things are. -/
def RoutingHistory.chosen (h : RoutingHistory) (serverConnected : Bool) : Session :=
  if serverConnected then h.session .server else h.session .client

/-- All requests outstanding belong to the session that the send thread chooses. -/
structure Live (p : System × RoutingHistory) : Prop where
  chosen : ∀ session ∈ p.2.outstanding, session = p.2.chosen p.1.serverConnected
  serving : p.1.serverConnected = true → p.1.serving = true

section Live
variable {s t : System} {h h' : RoutingHistory}

theorem live_of_subset (live : Live (s, h)) (subset : h'.outstanding ⊆ h.outstanding)
    (sessions : h'.session = h.session) (connected : t.serverConnected = s.serverConnected)
    (serving : t.serving = s.serving) : Live (t, h') where
  chosen := by
    intro session member
    have before := live.chosen session (subset member)
    simp only [RoutingHistory.chosen, sessions, connected] at before ⊢
    exact before
  serving := by
    simp only [connected, serving]
    exact live.serving

theorem nothing_of_client (live : Live (s, h)) (closed : s.serverConnected = false)
    (ended : ¬ h.Unanswered .client) : h.outstanding = [] := by
  apply List.eq_nil_iff_forall_not_mem.mpr
  intro session member
  have chosen := live.chosen session member
  dsimp only at chosen
  rw [closed] at chosen
  exact ended ⟨session, member, by rw [chosen]; rfl⟩

theorem nothing_of_server (live : Live (s, h)) (connected : s.serverConnected = true)
    (ended : ¬ h.Unanswered .server) : h.outstanding = [] := by
  apply List.eq_nil_iff_forall_not_mem.mpr
  intro session member
  have chosen := live.chosen session member
  dsimp only at chosen
  rw [connected] at chosen
  exact ended ⟨session, member, by rw [chosen]; rfl⟩

theorem live_of_nothing (nothing : h'.outstanding = [])
    (serving : t.serverConnected = true → t.serving = true) : Live (t, h') :=
  ⟨by simp [nothing], serving⟩

theorem live_of_arrived (live : Live (s, h)) {peer : Peer} {reply : Chunk 1032}
    {arrived : Arrival} (chosen : arrived.Asks reply → h.chosen s.serverConnected = h.session peer)
    (connected : t.serverConnected = s.serverConnected) (serving : t.serving = s.serving) :
    Live (t, h.arrived peer reply arrived) := by
  have added : ∀ session ∈ (h.arrived peer reply arrived).outstanding,
      session ∈ h.outstanding ∨ arrived.Asks reply ∧ session = h.session peer := by
    intro session member
    cases arrived with
    | lost => exact .inl member
    | forGateway tmp chunk =>
        simp only [RoutingHistory.arrived, RoutingHistory.outstanding, Option.toList_some,
          List.mem_append, List.mem_singleton] at member ⊢
        rcases member with (new | current) | answer
        · exact .inr ⟨trivial, new⟩
        · exact .inl (.inl (.inr current))
        · exact .inl (.inr answer)
    | forServer tmp =>
        simp only [RoutingHistory.arrived] at member
        split at member
        · exact .inl member
        · rename_i asks
          simp only [RoutingHistory.outstanding, Option.toList_some, List.mem_append,
            List.mem_singleton] at member ⊢
          rcases member with before | new
          · exact .inl (.inl before)
          · exact .inr ⟨asks, new⟩
  have sessions : (h.arrived peer reply arrived).chosen = h.chosen := by
    cases arrived with
    | lost => rfl
    | forGateway tmp chunk => rfl
    | forServer tmp =>
        simp only [RoutingHistory.arrived]
        split <;> rfl
  constructor
  · intro session member
    dsimp only at member ⊢
    rw [sessions, connected]
    rcases added session member with before | ⟨asks, new⟩
    · exact live.chosen session before
    · rw [new, chosen asks]
  · simp only [connected, serving]
    exact live.serving

end Live

/-! ## The steps -/

section Steps
variable {s : System} {h : RoutingHistory}

theorem server_putReply (reply : Chunk 1032) :
    (s.putReply reply).serverConnected = s.serverConnected ∧
      (s.putReply reply).serving = s.serving := by
  unfold System.putReply
  split <;> exact ⟨rfl, rfl⟩

theorem server_clientRecv (ret : Option (Chunk 2048)) (reply : Chunk 1032) :
    (s.clientRecv ret reply).serverConnected = s.serverConnected ∧
      (s.clientRecv ret reply).serving = s.serving := by
  unfold System.clientRecv
  split
  · split
    · exact ⟨rfl, rfl⟩
    · exact ⟨rfl, rfl⟩
    · exact server_putReply (s := { s with clientTmp := _ }) reply
  · exact ⟨rfl, rfl⟩

theorem live_listenRecv {ret : Option (Chunk 2048)} {failed : Bool} {reply : Chunk 1032}
    (live : Live (s, h)) (settled : Settled (s, h) (.listenRecv ret failed reply)) :
    Live (s.listenRecv ret failed reply, h.arrived .server reply (s.listenArrival ret)) := by
  obtain ⟨asked, closing⟩ := settled
  have chosen : (s.listenArrival ret).Asks reply →
      h.chosen s.serverConnected = h.session .server := by
    intro asks
    rw [RoutingHistory.chosen, (asked asks).1]
    rfl
  by_cases serving : s.serving = true
  · rw [System.listenRecv, if_pos serving]
    simp only [System.listenArrival, if_pos serving] at asked closing chosen ⊢
    cases arrived : arrival s.listenTmp (if s.acceptOpen then ret else none) with
    | lost =>
        dsimp only
        rw [arrived] at closing
        have ended := closing serving trivial
        by_cases connected : s.serverConnected = true
        · apply live_of_nothing
          · exact nothing_of_server live connected ended
          · simp [System.closeAccepted]
        · have before := live.chosen
          rw [Bool.not_eq_true] at connected
          simp only [connected] at before
          exact ⟨before, by simp [System.closeAccepted]⟩
    | forGateway tmp chunk =>
        rw [arrived] at chosen
        exact live_of_arrived live chosen rfl rfl
    | forServer tmp =>
        rw [arrived] at chosen
        obtain ⟨connected, still⟩ := server_putReply
          (s := { s with listenTmp := tmp, acceptOpen := s.acceptOpen && !failed }) reply
        exact live_of_arrived live chosen connected still
  · rw [System.listenRecv, if_neg serving, System.listenArrival, if_neg serving]
    exact live

theorem outstanding_without_answer :
    ({ h with answer := none } : RoutingHistory).outstanding ⊆ h.outstanding := by
  intro session member
  simp only [RoutingHistory.outstanding, Option.toList_none, List.append_nil] at member ⊢
  exact List.mem_append_left _ member

theorem server_sendToClient (clientOk : Bool) :
    (s.sendToClient clientOk).serverConnected = s.serverConnected ∧
      (s.sendToClient clientOk).serving = s.serving := by
  unfold System.sendToClient
  split_ifs <;> exact ⟨rfl, rfl⟩

/-- The send thread gives the accepted socket up exactly if it has bytes for it and cannot send. -/
theorem server_sendToServer (serverOk : Bool) :
    (s.serverConnected = true ∧ 0 < s.gw.txCount ∧ ¬ s.SendsToServer serverOk ∧
      (s.sendToServer serverOk).serverConnected = false) ∨
    ((s.sendToServer serverOk).serverConnected = s.serverConnected ∧
      (s.sendToServer serverOk).serving = s.serving) := by
  unfold System.sendToServer System.SendsToServer
  by_cases offered : s.serverConnected = true ∧ 0 < s.gw.txCount
  · by_cases sent : serverOk = true ∧ s.acceptOpen = true
    · right
      simp [offered, sent]
    · left
      simp only [Bool.and_eq_true, decide_eq_true_eq, if_pos offered, if_neg sent]
      exact ⟨offered.1, offered.2, fun all => sent all.2.2, trivial⟩
  · right
    simp [offered]

theorem txCount_sendToServer {serverOk : Bool} (left : 0 < (s.sendToServer serverOk).gw.txCount) :
    0 < s.gw.txCount ∧ ¬ s.SendsToServer serverOk := by
  by_cases sent : s.SendsToServer serverOk
  · obtain ⟨connected, some_, ok, acceptOpen⟩ := sent
    simp [System.sendToServer, connected, some_, ok, acceptOpen] at left
  · refine ⟨?_, sent⟩
    unfold System.sendToServer at left
    split_ifs at left with offered
    · exact absurd left (UInt32.lt_irrefl 0)
    · exact left
    · exact left

theorem live_send {serverOk clientOk : Bool} (live : Live (s, h))
    (settled : Settled (s, h) (.send serverOk clientOk)) :
    Live ((s.sendToServer serverOk).sendToClient clientOk,
      h.note s (.send serverOk clientOk)) := by
  have subset : (h.note s (.send serverOk clientOk)).outstanding ⊆ h.outstanding := by
    simp only [RoutingHistory.note]
    split
    · exact outstanding_without_answer
    · exact fun _ member => member
  have sessions : (h.note s (.send serverOk clientOk)).session = h.session := by
    simp only [RoutingHistory.note]
    split <;> rfl
  obtain ⟨clientSame, clientServing⟩ := server_sendToClient (s := s.sendToServer serverOk) clientOk
  rcases server_sendToServer (s := s) serverOk with
    ⟨connected, some_, failed, gone⟩ | ⟨same, serving⟩
  · apply live_of_nothing
    · have nothing := nothing_of_server live connected (settled connected some_ failed)
      rw [nothing] at subset
      exact List.subset_nil.mp subset
    · rw [clientSame, gone]
      simp
  · exact live_of_subset live subset sessions (clientSame.trans same) (clientServing.trans serving)

theorem live_clientConnect (live : Live (s, h)) (settled : Settled (s, h) .clientConnect) :
    Live (s.clientConnect, h.note s .clientConnect) := by
  simp only [RoutingHistory.note]
  by_cases connected : s.clientConnected = true
  · rw [if_pos connected]
    exact live_of_subset live (fun _ member => member) rfl rfl rfl
  · rw [if_neg connected]
    rw [Bool.not_eq_true] at connected
    cases server : s.serverConnected with
    | true =>
        refine ⟨?_, live.serving⟩
        intro session member
        have chosen := live.chosen session member
        simp only [RoutingHistory.chosen, System.clientConnect, server, if_true] at chosen ⊢
        exact chosen
    | false =>
        have nothing := nothing_of_client live server (settled connected)
        exact live_of_nothing nothing live.serving

theorem live_accept (live : Live (s, h)) (settled : Settled (s, h) .accept) :
    Live (s.accept, h.note s .accept) := by
  simp only [RoutingHistory.note, System.accept]
  by_cases serving : s.serving = true
  · rw [if_pos serving, if_pos serving]
    exact live
  · rw [if_neg serving, if_neg serving]
    have closed : s.serverConnected = false := by
      rw [← Bool.not_eq_true]
      exact fun connected => serving (live.serving connected)
    rw [Bool.not_eq_true] at serving
    have nothing := nothing_of_client live closed (settled serving)
    exact live_of_nothing nothing fun _ => rfl

theorem live_gwRun (now : Timeval) (live : Live (s, h)) :
    Live (s.step (.gwRun now), h.note s (.gwRun now)) := by
  have iterated : (h.iterated s.toGwRun).outstanding ⊆ h.outstanding := by
    intro session member
    simp only [RoutingHistory.iterated] at member
    split_ifs at member <;>
      simp only [RoutingHistory.outstanding, Option.toList_none, List.append_nil, List.nil_append,
        List.mem_append] at member ⊢ <;> tauto
  have idle : ∀ g : RoutingHistory,
      ({ g with current := none } : RoutingHistory).outstanding ⊆ g.outstanding := by
    intro g session member
    simp only [RoutingHistory.outstanding, Option.toList_none, List.append_nil,
      List.mem_append] at member ⊢
    exact member.imp_left .inl
  have subset : (h.note s (.gwRun now)).outstanding ⊆ h.outstanding := by
    simp only [RoutingHistory.note]
    split
    · exact List.Subset.trans (idle _) iterated
    · exact iterated
  have sessions : (h.note s (.gwRun now)).session = h.session := by
    simp only [RoutingHistory.note, RoutingHistory.iterated]
    split_ifs <;> rfl
  exact live_of_subset live subset sessions rfl rfl

theorem live_note (e : Event) (live : Live (s, h)) (settled : Settled (s, h) e) :
    Live (s.step e, h.note s e) := by
  cases e with
  | clientRecv ret reply =>
      obtain ⟨connected, serving⟩ := server_clientRecv (s := s) ret reply
      apply live_of_arrived live _ connected serving
      intro asks
      rw [RoutingHistory.chosen, settled asks]
      rfl
  | listenRecv ret failed reply => exact live_listenRecv live settled
  | clientConnect => exact live_clientConnect live settled
  | accept => exact live_accept live settled
  | send serverOk clientOk => exact live_send live settled
  | push message => exact live_of_subset live outstanding_without_answer rfl rfl rfl
  | gwRun now => exact live_gwRun now live
  | serialRead ret =>
      cases ret <;> exact live_of_subset live (fun _ member => member) rfl rfl rfl
  | clientInactive | serialWrite => exact live_of_subset live (fun _ member => member) rfl rfl rfl

end Steps

theorem routed_of_live {s : System} {h : RoutingHistory} {e : Event} (live : Live (s, h))
    (settled : Settled (s, h) e) : Routed (s, h) e := by
  cases e with
  | send serverOk clientOk =>
      have answered : ∀ session ∈ h.answer, session ∈ h.outstanding := by
        intro session some_
        exact List.mem_append_right _ (Option.mem_toList.mpr some_)
      constructor
      · intro sends session some_
        have chosen := live.chosen session (answered session some_)
        dsimp only at chosen
        rw [sends.1] at chosen
        exact chosen
      · intro sends session some_
        have chosen := live.chosen session (answered session some_)
        cases server : s.serverConnected with
        | false =>
            dsimp only at chosen
            rw [server] at chosen
            exact chosen
        | true =>
            obtain ⟨left, failed⟩ := txCount_sendToServer sends.2.1
            have nothing := nothing_of_server live server (settled server left failed)
            rw [nothing] at answered
            exact absurd (answered session some_) List.not_mem_nil
  | _ => trivial

/-- In a run in which requests and connections keep to the choice of the send thread, every answer
is sent on the connection and in the session of its request. -/
theorem answers_routed (s : System) (es : List Event) (initial : s.Initial)
    (settled : Runs.Along (Runs.observed System.step RoutingHistory.note) Settled
      (s, ⟨0, 0, none, none, none⟩) es) :
    Runs.Along (Runs.observed System.step RoutingHistory.note) Routed
      (s, ⟨0, 0, none, none, none⟩) es := by
  apply Runs.along_of_invariant Settled Live
  · exact fun p e live admitted => live_note e live admitted
  · exact fun p e live admitted => routed_of_live live admitted
  · refine live_of_nothing rfl ?_
    rw [initial.server.1]
    simp
  · exact settled

section Misrouted

/-- The request comes from the client while a peer is connected to the server socket. -/
def misroutedRun : List Event := .accept :: answeredRun

theorem answer_misrouted :
    ¬ ∀ (s : System) (es : List Event) (serverOk clientOk : Bool), s.Initial →
      Routed (Runs.run (Runs.observed System.step RoutingHistory.note)
        (s, ⟨0, 0, none, none, none⟩) es) (.send serverOk clientOk) := by
  intro always
  have routed := always System.start misroutedRun true true System.start_initial
  revert routed
  decide +kernel

theorem getRequest_length : System.getRequest.length ≤ 2048 := by decide

/-- The request and the answer of a peer that is accepted on the server socket. -/
def acceptedExchange (now : Timeval) : List Event :=
  [.accept, .listenRecv (some ⟨System.getRequest, getRequest_length⟩) false System.noReply,
    .gwRun now, .gwRun now] ++ answerRead now ++ [.gwRun now, .send true true]

/-- An exchange on the client socket, and then one on the accepted socket. -/
def bothSocketsRun : List Event :=
  answeredRun ++ [.send true true] ++ acceptedExchange ⟨1, 0⟩

theorem bothSocketsRun_routed :
    Runs.Along (Runs.observed System.step RoutingHistory.note) Routed
      (System.start, ⟨0, 0, none, none, none⟩) bothSocketsRun :=
  answers_routed System.start bothSocketsRun System.start_initial (by decide +kernel)

end Misrouted
end DlmsGateway
