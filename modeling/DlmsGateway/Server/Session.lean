import DlmsGateway.Server.Access

/-!
# The session over a restart

`srv_Save` writes the session of `lnWrapper` to `/root/svr.RAW` after a local
request on the client socket, and `srv_Load` reads it back at the start.  The
session also changes without a save: by requests on the accepted socket and by
the `svr_reset` of a lost connection (`Settings.MDM` is `SHAHAB_NEW_VERSION`).
A history variable says whether that has happened since the file was written.

A request is any list of events of the server.  Of the record the fields that
`srv_Load` copies into the modelled settings are kept; that the file can be
written and read is taken for granted.

`Servers_Start` calls `srv_Load` when `TCP_start`, `IEC_start` and `rs485_start`
have started their threads.  Assumed: no socket of `lnWrapper` is connected
before `srv_Load` has returned, so that a restart is one step.
-/
set_option autoImplicit false
namespace DlmsGateway.DlmsServer

structure SvrSettings where
  connected : ConnectionState
  authentication : Authentication
  security : UInt8
  sourceSystemTitle : Vector UInt8 8
  ctoSChallenge : List UInt8
  stoCChallenge : List UInt8
  serverAddress : UInt32
  clientAddress : UInt16
  negotiatedConformance : UInt32
  maxPduSize : UInt16
deriving DecidableEq

def srvSave (s : Settings) : SvrSettings where
  connected := s.connected
  authentication := s.authentication
  security := s.security
  sourceSystemTitle := s.sourceSystemTitle
  ctoSChallenge := s.ctoSChallenge
  stoCChallenge := s.stoCChallenge
  serverAddress := s.serverAddress
  clientAddress := s.clientAddress
  negotiatedConformance := s.negotiatedConformance
  maxPduSize := s.maxPduSize

/-- `bb_set` appends the saved bytes, and then the saved size is assigned. -/
def restoreBytes (bytes saved : List UInt8) : List UInt8 := (bytes ++ saved).take saved.length

def srvLoad (s : Settings) (f : SvrSettings) : Settings :=
  { s with
    connected := f.connected
    authentication := f.authentication
    security := f.security
    sourceSystemTitle := f.sourceSystemTitle
    ctoSChallenge := restoreBytes s.ctoSChallenge f.ctoSChallenge
    stoCChallenge := restoreBytes s.stoCChallenge f.stoCChallenge
    serverAddress := f.serverAddress
    clientAddress := f.clientAddress
    negotiatedConformance := f.negotiatedConformance
    maxPduSize := f.maxPduSize }

/-- What `svr_init` and the initialisation of the objects leave. -/
structure FreshServer (σ : Type) where
  server : Server σ
  closed : server.settings.connected.dlms = false

/-- `lnWrapper` with its two sockets and its file. -/
structure LnWrapper (σ : Type) where
  server : Server σ
  file : Option SvrSettings
  clientConnected : Bool
  serverConnected : Bool
  /-- The client thread is between `svr_handleRequest2` and `srv_Save`. -/
  unsaved : Bool

/-- The requests are those that are not for the gateway. -/
inductive SessionEvent (σ : Type) where
  | clientConnect
  | clientRequest (request : List Event)
  | clientSave
  /-- A failed `recv` or `send`. -/
  | clientLost
  | clientInactive
  | accept
  | serverRequest (request : List Event)
  | serverLost
  | restart (fresh : FreshServer σ)

section Session
variable {σ : Type} (P : Procedures σ)

namespace LnWrapper

def handle (w : LnWrapper σ) (request : List Event) : LnWrapper σ :=
  { w with server := Runs.run (Server.step P) w.server request }

def reset (w : LnWrapper σ) : LnWrapper σ := { w with server := w.server.svrReset }

def save (w : LnWrapper σ) : LnWrapper σ :=
  { w with file := some (srvSave w.server.settings), unsaved := false }

def restart (w : LnWrapper σ) (fresh : FreshServer σ) : LnWrapper σ where
  server :=
    match w.file with
    | some f => fresh.server.withSettings (srvLoad fresh.server.settings f)
    | none => fresh.server
  file := w.file
  clientConnected := false
  serverConnected := false
  unsaved := false

def step (w : LnWrapper σ) : SessionEvent σ → LnWrapper σ
  | .clientConnect => { w with clientConnected := true }
  | .clientRequest request =>
      if w.clientConnected && !w.unsaved then { w.handle P request with unsaved := true } else w
  | .clientSave => if w.unsaved then w.save else w
  | .clientLost => if w.clientConnected then { w.reset with clientConnected := false } else w
  | .clientInactive => { w with clientConnected := false }
  | .accept => { w with serverConnected := true }
  | .serverRequest request => if w.serverConnected then w.handle P request else w
  | .serverLost => if w.serverConnected then { w.reset with serverConnected := false } else w
  | .restart fresh => w.restart fresh

end LnWrapper

/-- The session, as far as the claims of a client go. -/
structure SameSession (s t : Settings) : Prop where
  dlms : t.connected.dlms = s.connected.dlms
  clientAddress : t.clientAddress = s.clientAddress
  authentication : t.authentication = s.authentication

/-- Neither opens nor ends a session, nor answers a challenge. -/
def KeepsSession (s : Server σ) : Event → Prop
  | .command (.aarq _) | .command (.snrm _) | .command (.releaseRequest _) | .command (.disc _)
  | .reset | .hdlcAddress .. => False
  | .command (.methodRequest (some r)) => ∀ found ∈ s.methodTarget r, ¬ RepliesToHls found.2 r
  | .wrapperAddress .. => s.settings.clientAddress ≠ 0
  | .modeE => s.settings.connected ≠ .none
  | _ => True

instance (s : Server σ) : ∀ e, Decidable (KeepsSession s e)
  | .command (.aarq _) | .command (.snrm _) | .command (.releaseRequest _) | .command (.disc _)
  | .reset | .hdlcAddress .. => .isFalse id
  | .command (.methodRequest (some r)) =>
      inferInstanceAs (Decidable (∀ found ∈ s.methodTarget r, _))
  | .wrapperAddress .. => inferInstanceAs (Decidable (_ ≠ _))
  | .modeE => inferInstanceAs (Decidable (_ ≠ _))
  | .command (.methodRequest none) | .command (.setRequest _) | .command (.writeRequest _)
  | .command (.getRequest _) | .command (.readRequest _) | .command .none | .command .unknown
  | .isTarget | .hdlcFrame => .isTrue trivial

/-- Whether the session may have changed since `srv_Save` last wrote it. -/
def noteStale (stale : Bool) (w : LnWrapper σ) : SessionEvent σ → Bool
  | .clientRequest request =>
      stale || w.clientConnected && !w.unsaved &&
        !decide (Runs.Along (Server.step P) KeepsSession w.server request)
  | .serverRequest request =>
      stale || w.serverConnected &&
        !decide (Runs.Along (Server.step P) KeepsSession w.server request)
  | .clientLost => stale || w.clientConnected
  | .serverLost => stale || w.serverConnected
  | .clientSave => stale && !w.unsaved
  | .restart _ => false
  | _ => stale

/-- A session restored by a restart was open when it came, with the same client and mechanism. -/
def NotResurrected (w : LnWrapper σ) : SessionEvent σ → Prop
  | .restart fresh =>
      (w.restart fresh).server.settings.connected.dlms = true →
        SameSession w.server.settings (w.restart fresh).server.settings
  | _ => True

/-- No restart while the file holds an open session that may have changed since. -/
def SavedInTime (p : LnWrapper σ × Bool) : SessionEvent σ → Prop
  | .restart _ => ∀ f ∈ p.1.file, f.connected.dlms = true → p.2 = false
  | _ => True

instance (p : LnWrapper σ × Bool) : ∀ e, Decidable (SavedInTime p e)
  | .restart _ => inferInstanceAs (Decidable (∀ f ∈ p.1.file, _ → _))
  | .clientConnect | .clientRequest _ | .clientSave | .clientLost | .clientInactive | .accept
  | .serverRequest _ | .serverLost => .isTrue trivial

/-! ## What keeps a session -/

theorem SameSession.refl (s : Settings) : SameSession s s := ⟨rfl, rfl, rfl⟩

theorem SameSession.trans {s t u : Settings} (first : SameSession s t) (second : SameSession t u) :
    SameSession s u :=
  ⟨second.dlms.trans first.dlms, second.clientAddress.trans first.clientAddress,
    second.authentication.trans first.authentication⟩

theorem sameSession_of_eq {s t : Settings} (same : t = s) : SameSession s t := by
  rw [same]
  exact .refl s

theorem sameSession_command {s : Server σ} (command : Command)
    (keeps : KeepsSession s (.command command)) :
    SameSession s.settings (s.svrHandleCommand P command).settings := by
  cases command with
  | setRequest | writeRequest | getRequest | readRequest =>
      exact sameSession_of_eq (settings_serve _ _)
  | methodRequest request =>
      rw [Server.svrHandleCommand]
      split
      · cases request with
        | none => exact .refl _
        | some r => exact sameSession_of_eq (settings_of_other P keeps)
      · exact .refl _
  | none | unknown => exact .refl _
  | snrm | aarq | releaseRequest | disc => exact keeps.elim

theorem sameSession_wrapperAddress {s : Settings} (clientAddress : UInt16) (serverAddress : UInt32)
    (known : s.clientAddress ≠ 0) :
    SameSession s (s.checkWrapperAddress clientAddress serverAddress) := by
  unfold Settings.checkWrapperAddress
  split
  · exact .refl _
  · rename_i accepted
    have same : clientAddress = s.clientAddress := by
      rw [not_and, not_not] at accepted
      exact (accepted known).symm
    split <;> exact ⟨rfl, same, rfl⟩

theorem sameSession_step {s : Server σ} (e : Event) (keeps : KeepsSession s e) :
    SameSession s.settings (s.step P e).settings := by
  cases e with
  | command command => exact sameSession_command P command keeps
  | wrapperAddress clientAddress serverAddress =>
      exact sameSession_wrapperAddress clientAddress serverAddress keeps
  | isTarget =>
      simp only [Server.step, Server.svrIsTarget]
      split <;> exact ⟨rfl, rfl, rfl⟩
  | hdlcFrame =>
      simp only [Server.step]
      split <;> exact ⟨rfl, rfl, rfl⟩
  | modeE =>
      simp only [Server.step]
      rw [if_neg fun free => keeps free.2]
      exact .refl _
  | hdlcAddress | reset => exact keeps.elim

theorem sameSession_run : ∀ (request : List Event) (s : Server σ),
    Runs.Along (Server.step P) KeepsSession s request →
    SameSession s.settings (Runs.run (Server.step P) s request).settings := by
  intro request
  induction request with
  | nil => intro s _; exact .refl _
  | cons e request ih =>
      intro s keeps
      exact (sameSession_step P e keeps.1).trans (ih _ keeps.2)

/-! ## The file -/

/-- An open session in the file is the session of the server. -/
def FileInStep (p : LnWrapper σ × Bool) : Prop :=
  p.2 = false → ∀ f ∈ p.1.file, f.connected.dlms = true →
    p.1.server.settings.connected.dlms = true ∧
      p.1.server.settings.clientAddress = f.clientAddress ∧
      p.1.server.settings.authentication = f.authentication

section Step
variable {w : LnWrapper σ} {stale : Bool}

theorem fileInStep_of_same {v : LnWrapper σ} {stale' : Bool} (holds : FileInStep (w, stale))
    (fresh : stale' = false → stale = false) (file : v.file = w.file)
    (same : stale' = false → SameSession w.server.settings v.server.settings) :
    FileInStep (v, stale') := by
  intro upToDate f member saved
  simp only [file] at member
  obtain ⟨dlms, clientAddress, authentication⟩ := holds (fresh upToDate) f member saved
  have session := same upToDate
  exact ⟨session.dlms.trans dlms, session.clientAddress.trans clientAddress,
    session.authentication.trans authentication⟩

theorem fileInStep_stale {v : LnWrapper σ} : FileInStep (v, true) := fun fresh => by cases fresh

theorem fileInStep_save : FileInStep (w.save, stale) := by
  intro _ f member saved
  cases member
  exact ⟨saved, rfl, rfl⟩

theorem fileInStep_restart (fresh : FreshServer σ) : FileInStep (w.restart fresh, stale) := by
  intro _ f member saved
  simp only [LnWrapper.restart] at member
  simp only [LnWrapper.restart, Option.mem_def.mp member]
  exact ⟨saved, rfl, rfl⟩

theorem fileInStep_handle {request : List Event} (holds : FileInStep (w, stale)) (unsaved : Bool) :
    FileInStep ({ w.handle P request with unsaved := unsaved },
      stale || !decide (Runs.Along (Server.step P) KeepsSession w.server request)) := by
  apply fileInStep_of_same holds
  · intro fresh
    simp only [Bool.or_eq_false_iff] at fresh
    exact fresh.1
  · rfl
  · intro fresh
    simp only [Bool.or_eq_false_iff, Bool.not_eq_false', decide_eq_true_eq] at fresh
    exact sameSession_run P request w.server fresh.2

theorem fileInStep_step (e : SessionEvent σ) (holds : FileInStep (w, stale)) :
    FileInStep (w.step P e, noteStale P stale w e) := by
  cases e with
  | clientConnect | clientInactive | accept => exact holds
  | clientRequest request =>
      simp only [LnWrapper.step, noteStale]
      by_cases ready : (w.clientConnected && !w.unsaved) = true
      · rw [if_pos ready, ready, Bool.true_and]
        exact fileInStep_handle P holds true
      · rw [if_neg ready, Bool.not_eq_true _ |>.mp ready, Bool.false_and, Bool.or_false]
        exact holds
  | serverRequest request =>
      simp only [LnWrapper.step, noteStale]
      cases w.serverConnected with
      | true =>
          rw [if_pos rfl, Bool.true_and]
          exact fileInStep_handle P holds w.unsaved
      | false =>
          rw [if_neg Bool.false_ne_true, Bool.false_and, Bool.or_false]
          exact holds
  | clientSave =>
      simp only [LnWrapper.step, noteStale]
      cases w.unsaved with
      | true => exact fileInStep_save
      | false =>
          rw [if_neg Bool.false_ne_true, Bool.not_false, Bool.and_true]
          exact holds
  | clientLost =>
      simp only [LnWrapper.step, noteStale]
      cases w.clientConnected with
      | true =>
          rw [Bool.or_true]
          exact fileInStep_stale
      | false =>
          rw [if_neg Bool.false_ne_true, Bool.or_false]
          exact holds
  | serverLost =>
      simp only [LnWrapper.step, noteStale]
      cases w.serverConnected with
      | true =>
          rw [Bool.or_true]
          exact fileInStep_stale
      | false =>
          rw [if_neg Bool.false_ne_true, Bool.or_false]
          exact holds
  | restart fresh => exact fileInStep_restart fresh

theorem notResurrected_of_inStep (e : SessionEvent σ) (holds : FileInStep (w, stale))
    (saved : SavedInTime (w, stale) e) : NotResurrected w e := by
  cases e with
  | restart fresh =>
      intro open_
      simp only [LnWrapper.restart] at open_ ⊢
      cases file : w.file with
      | none =>
          simp only [file] at open_
          rw [fresh.closed] at open_
          cases open_
      | some f =>
          simp only [file] at open_
          obtain ⟨dlms, clientAddress, authentication⟩ := holds (saved f file open_) f file open_
          exact ⟨open_.trans dlms.symm, clientAddress.symm, authentication.symm⟩
  | _ => trivial

end Step

/-- In every run from a start without a file whose restarts find the file written since the
session last changed, no restart brings back a session that was not open. -/
theorem session_not_resurrected (w : LnWrapper σ) (es : List (SessionEvent σ))
    (first : w.file = none)
    (saved : Runs.Along (Runs.observed (LnWrapper.step P) (noteStale P)) SavedInTime (w, false) es) :
    Runs.Along (LnWrapper.step P) NotResurrected w es := by
  apply (Runs.along_observed _ (noteStale P) _ es w false).mp
  apply Runs.along_of_invariant SavedInTime FileInStep
  · exact fun p e holds _ => fileInStep_step P e holds
  · exact fun p e holds admitted => notResurrected_of_inStep e holds admitted
  · intro _ f member
    simp [first] at member
  · exact saved

end Session
section LostConnection

def lowAarq : Aarq :=
  { highAarq with mechanism := some 1, password := some gurux, ctoSChallenge := none }

def openLow : SessionEvent Unit :=
  .clientRequest [.wrapperAddress 0x11 1, .isTarget, .command (.aarq lowAarq)]

def lnWrapper : LnWrapper Unit where
  server := meter
  file := none
  clientConnected := false
  serverConnected := false
  unsaved := false

def openedAndLost : List (SessionEvent Unit) := [.clientConnect, openLow, .clientSave, .clientLost]

theorem lost_session_restored :
    ¬ ∀ (P : Procedures Unit) (w : LnWrapper Unit) (es : List (SessionEvent Unit))
      (e : SessionEvent Unit), w.file = none → NotResurrected (Runs.run (LnWrapper.step P) w es) e := by
  intro always
  have session := always meterProcedures lnWrapper openedAndLost (.restart ⟨meter, rfl⟩) rfl
    (by decide +kernel)
  have open_ := session.dlms
  revert open_
  decide +kernel

theorem open_session_restored :
    Runs.Along (LnWrapper.step meterProcedures) NotResurrected lnWrapper
      [.clientConnect, openLow, .clientSave, .restart ⟨meter, rfl⟩] :=
  session_not_resurrected meterProcedures lnWrapper
    [.clientConnect, openLow, .clientSave, .restart ⟨meter, rfl⟩] rfl (by decide +kernel)

end LostConnection
end DlmsGateway.DlmsServer
