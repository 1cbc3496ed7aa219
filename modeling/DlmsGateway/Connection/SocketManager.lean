import DlmsGateway.Connection.Threads

/-!
# The manager of the client socket

`Socket_Manage_Thread` connects while `Connected` is false.  A descriptor is
made on the way only if `Opened` is true, that is, at the start and after a
connection: `Socket_create` stores -1 when `socket` fails, its result is
ignored, and `Opened` is false from then on.

The results of the calls are in the event.  `live` is history: the descriptor
that `socket` returned last and that has not been closed.
-/
set_option autoImplicit false
namespace DlmsGateway

structure ClientSocket where
  socketFd : Int
  connected : Bool
  opened : Bool
  sinFamily : Nat
  sinPort : UInt16
  /-- `none` as long as `inet_pton` has stored nothing -/
  sinAddr : Option UInt32
  /-- `htons(Parameters.PORT)` -/
  port : UInt16
  live : Option Nat

/-- What the calls of one iteration return: a descriptor or -1, an address or a value ≤ 0,
whether the option was set, whether the connection was made. -/
structure SocketCalls where
  socket : Option Nat
  inetPton : Option UInt32
  setsockopt : Bool
  connect : Bool

inductive SocketEvent where
  | manage (calls : SocketCalls) (inactive : Bool)
  /-- `recv` or `send` fails in another thread. -/
  | lost

namespace ClientSocket

def start (port : UInt16) : ClientSocket where
  socketFd := -1
  connected := false
  opened := true
  sinFamily := 0
  sinPort := 0
  sinAddr := none
  port := port
  live := none

def socketGetClose (s : ClientSocket) : ClientSocket :=
  { s with
    live := if s.live.map Int.ofNat = some s.socketFd then none else s.live
    socketFd := 0
    connected := false
    opened := false }

def socketCreate (s : ClientSocket) (calls : SocketCalls) : ClientSocket × Int :=
  match calls.socket with
  | none => ({ s with socketFd := -1 }, -1)
  | some fd =>
      let s := { s with socketFd := fd, live := some fd, sinFamily := 2, sinPort := s.port }
      match calls.inetPton with
      | none => (s, -1)
      | some address =>
          let s := { s with sinAddr := some address }
          if calls.setsockopt then ({ s with connected := false }, 1) else (s, -1)

/-- `Socket_get_open` up to the call of `connect`. -/
def beforeConnect (s : ClientSocket) (calls : SocketCalls) : ClientSocket :=
  if s.opened then ({ s.socketGetClose with opened := false }.socketCreate calls).1 else s

def socketGetOpen (s : ClientSocket) (calls : SocketCalls) : ClientSocket :=
  if calls.connect then { s.beforeConnect calls with connected := true, opened := true }
  else { s.beforeConnect calls with connected := false }

def step (s : ClientSocket) : SocketEvent → ClientSocket
  | .manage calls inactive =>
      if s.connected = false then s.socketGetOpen calls
      else if inactive then { s with connected := false }
      else s
  | .lost => { s with connected := false }

structure Usable (s : ClientSocket) : Prop where
  live : s.live.map Int.ofNat = some s.socketFd
  family : s.sinFamily = 2
  port : s.sinPort = s.port
  address : s.sinAddr ≠ none

/-- Whenever `connect` is called, it can be; and a descriptor that could not be made is asked for
again. -/
def ConnectsUsable (s : ClientSocket) : SocketEvent → Prop
  | .manage calls _ =>
      s.connected = false → (s.beforeConnect calls).Usable ∧ (s.socketFd < 0 → s.opened = true)
  | .lost => True

/-- Whenever a descriptor is made, it is; and the address is stored, now or before. -/
def CreationSucceeds (s : ClientSocket) : SocketEvent → Prop
  | .manage calls _ => s.connected = false → s.opened = true →
      calls.socket ≠ none ∧ (calls.inetPton ≠ none ∨ s.sinAddr ≠ none)
  | .lost => True

/-- Without `Opened`, what the last creation made is there. -/
def Created (s : ClientSocket) : Prop := s.opened = false → s.Usable

section Manage
variable {s : ClientSocket} {calls : SocketCalls}

theorem usable_beforeConnect_iff (opened : s.opened = true) :
    (s.beforeConnect calls).Usable ↔
      calls.socket ≠ none ∧ (calls.inetPton ≠ none ∨ s.sinAddr ≠ none) := by
  rw [beforeConnect, if_pos opened]
  cases made : calls.socket with
  | none =>
      have negative : ∀ live : Option Nat, live.map Int.ofNat ≠ some (-1) := by
        intro live
        cases live <;> simp
      constructor
      · intro usable
        have live := usable.live
        simp only [socketCreate, made] at live
        exact absurd live (negative _)
      · rintro ⟨some_, -⟩
        exact absurd rfl some_
  | some fd =>
      cases found : calls.inetPton with
      | none =>
          have created : ({ s.socketGetClose with opened := false }.socketCreate calls).1 =
              { s.socketGetClose with
                socketFd := fd, live := some fd, sinFamily := 2, sinPort := s.port } := by
            simp only [socketCreate, made, found]
            rfl
          rw [created]
          constructor
          · intro usable
            exact ⟨by simp, .inr usable.address⟩
          · rintro ⟨-, absent | before⟩
            · exact absurd rfl absent
            · exact ⟨rfl, rfl, rfl, before⟩
      | some address =>
          have usable : ({ s.socketGetClose with opened := false }.socketCreate calls).1.Usable := by
            simp only [socketCreate, made, found]
            split <;> exact ⟨rfl, rfl, rfl, by simp⟩
          simp [usable]

theorem connectsUsable_iff {e : SocketEvent} (created : s.Created) :
    s.ConnectsUsable e ↔ s.CreationSucceeds e := by
  cases e with
  | lost => exact Iff.rfl
  | manage calls inactive =>
      refine imp_congr_right fun _ => ?_
      cases opened : s.opened with
      | true => simp [usable_beforeConnect_iff opened]
      | false =>
          have usable := created opened
          have same : s.beforeConnect calls = s := if_neg (by simp [opened])
          have positive : ¬ s.socketFd < 0 := by
            have live := usable.live
            cases held : s.live with
            | none => simp [held] at live
            | some fd =>
                rw [held, Option.map_some, Option.some.injEq] at live
                rw [← live]
                exact Int.not_lt.mpr (Int.natCast_nonneg fd)
          simp [same, usable, positive]

theorem created_of_connected (created : s.Created) (connected : Bool) :
    ({ s with connected } : ClientSocket).Created := by
  intro opened
  have usable := created opened
  exact ⟨usable.live, usable.family, usable.port, usable.address⟩

theorem created_step {e : SocketEvent} (created : s.Created) (succeeds : s.CreationSucceeds e) :
    (s.step e).Created := by
  have usable := (connectsUsable_iff created).mpr succeeds
  cases e with
  | lost => exact created_of_connected created false
  | manage calls inactive =>
      cases connected : s.connected with
      | true =>
          rw [step, if_neg (by simp [connected])]
          split
          · exact created_of_connected created false
          · exact created
      | false =>
          obtain ⟨ready, -⟩ := usable connected
          rw [step, if_pos connected, socketGetOpen]
          split
          · intro opened
            cases opened
          · exact created_of_connected (fun _ => ready) false

end Manage

/-- Whatever the calls return, every `connect` can be made exactly when every creation succeeds. -/
theorem connects_usable_iff (port : UInt16) (es : List SocketEvent) :
    Runs.Along step ConnectsUsable (start port) es ↔
      Runs.Along step CreationSucceeds (start port) es :=
  Runs.along_iff_of_kept CreationSucceeds Created (fun _ _ => created_step)
    (fun _ _ => connectsUsable_iff) es (start port) fun opened => by cases opened

/-! ## After a failed creation -/

def ConnectRefuses (s : ClientSocket) : SocketEvent → Prop
  | .manage calls _ => (s.beforeConnect calls).socketFd < 0 → calls.connect = false
  | .lost => True

/-- No descriptor, and none will be made. -/
def Stranded (s : ClientSocket) : Prop :=
  s.connected = false ∧ s.opened = false ∧ s.socketFd < 0

theorem stranded_step {s : ClientSocket} {e : SocketEvent} (stranded : s.Stranded)
    (refuses : s.ConnectRefuses e) : (s.step e).Stranded := by
  obtain ⟨connected, opened, negative⟩ := stranded
  cases e with
  | lost => exact ⟨rfl, opened, negative⟩
  | manage calls inactive =>
      have same : s.beforeConnect calls = s := if_neg (by simp [opened])
      have failed : calls.connect = false := refuses (by rw [same]; exact negative)
      rw [step, if_pos connected, socketGetOpen, if_neg (by simp [failed]), same]
      exact ⟨rfl, opened, negative⟩

/-- Once `socket` has failed, the gateway is without its uplink for ever. -/
theorem never_connected_again {s : ClientSocket} {calls : SocketCalls} {inactive : Bool}
    {es : List SocketEvent} (apart : s.connected = false) (opened : s.opened = true)
    (failed : calls.socket = none)
    (refuses : Runs.Along step ConnectRefuses s (.manage calls inactive :: es)) :
    (Runs.run step s (.manage calls inactive :: es)).Stranded := by
  obtain ⟨first, rest⟩ := refuses
  have created : s.beforeConnect calls = { s.socketGetClose with opened := false, socketFd := -1 } := by
    rw [beforeConnect, if_pos opened]
    simp only [socketCreate, failed]
  have refused : calls.connect = false := first (by rw [created]; exact Int.negSucc_lt_zero 0)
  refine Runs.invariant ConnectRefuses Stranded (fun _ _ => stranded_step) es _ ?_ rest
  rw [step, if_pos apart, socketGetOpen, if_neg (by simp [refused]), created]
  exact ⟨rfl, rfl, Int.negSucc_lt_zero 0⟩

def firstSocketFails : List SocketEvent := [.manage ⟨none, some 0x0A000001, true, false⟩ false]

theorem connect_without_descriptor :
    ¬ ∀ (port : UInt16) (es : List SocketEvent),
      Runs.Along step ConnectsUsable (start port) es := by
  intro usable
  exact absurd ((usable 4059 firstSocketFails).1 rfl).1.live (by decide)

/-! ## What the other threads see -/

/-- The manager's iteration as the threads around the gateway know it. -/
def answer (s : ClientSocket) : SocketEvent → List Event
  | .manage calls inactive =>
      if s.connected = false then (if calls.connect then [.clientConnect] else [])
      else if inactive then [.clientInactive]
      else []
  | .lost => [.clientInactive]

theorem simulates_client : Runs.Simulates step (fun _ _ => True) System.step answer
    (fun s t => s.connected = t.clientConnected) := by
  intro s e t same _
  cases e with
  | lost => rfl
  | manage calls inactive =>
      cases connected : s.connected with
      | true =>
          simp only [step, answer, connected, Bool.true_eq_false, if_false]
          split
          · rfl
          · exact same
      | false =>
          simp only [step, answer, connected, if_true, socketGetOpen]
          split
          · rfl
          · rw [Runs.run, ← same, connected]

end ClientSocket
end DlmsGateway
