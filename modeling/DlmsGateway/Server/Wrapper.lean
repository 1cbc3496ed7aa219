import DlmsGateway.Server.Session
import DlmsGateway.Server.SetRequest

/-!
# Frames on the wrapper interface

`svr_handleRequest4` for a frame with wrapper header: the addresses, the look-up
of an AARQ's client by `svr_isTarget`, and the request.  A frame whose header
has been read but whose request has not is `none`.

SET requests are handled as in the source; what another request leaves of the
transaction is a parameter.  A broadcast is taken for the serial number.
-/
set_option autoImplicit false
namespace DlmsGateway.DlmsServer

structure WrapperProcedures (σ : Type) extends Procedures σ, SetProcedures σ where
  /-- The logical devices of the SAP assignment allow the server's address. -/
  sapAssigned : Device σ → UInt32 → Bool
  /-- `SERIAL_NUMBER % 10000 + 1000` -/
  serialAddress : UInt32
  transactionAfter : Command → Server σ → Transaction → Transaction

structure WrapperServer (σ : Type) where
  server : Server σ
  transaction : Transaction

inductive WrapperEvent where
  | frame (clientAddress : UInt16) (serverAddress : UInt32) (request : Option Command)
  /-- `svr_reset` after a lost connection. -/
  | reset

/-- `dlms_checkWrapperAddress` returns without an error. -/
def Settings.WrapperAddressMatches (s : Settings) (clientAddress : UInt16)
    (serverAddress : UInt32) : Prop :=
  (s.clientAddress = 0 ∨ s.clientAddress = clientAddress) ∧
    (s.serverAddress = 0 ∨ s.serverAddress = serverAddress)

instance (s : Settings) (clientAddress : UInt16) (serverAddress : UInt32) :
    Decidable (s.WrapperAddressMatches clientAddress serverAddress) :=
  inferInstanceAs (Decidable (_ ∧ _))

section Frames
variable {σ : Type} (W : WrapperProcedures σ)

namespace Server

/-- The association object whose `clientSAP` is the client's address. -/
def clientAssociation (s : Server σ) : Option Association :=
  s.device.objects.findSome? fun
    | .association a => if a.clientSAP = s.settings.clientAddress then some a else none
    | .other .. => none

def serverBroadcast (address : UInt32) : Bool :=
  address &&& 0x3FFF = 0x3FFF || address &&& 0x7F = 0x7F

/-- `svr_isTarget` with its answer.  A broadcast replaces the server's address by its own. -/
def isTarget (s : Server σ) : Server σ × Bool :=
  if s.clientAssociation.isSome then
    let address := s.settings.serverAddress
    let s := s.svrIsTarget
    (if serverBroadcast address then
      s.withSettings { s.settings with serverAddress := W.serialAddress }
    else s,
    serverBroadcast address || address &&& 0x3FFF = W.serialAddress ||
      W.sapAssigned s.device address)
  else (s, false)

def forgetAddresses (s : Server σ) : Server σ :=
  s.withSettings { s.settings with serverAddress := 0, clientAddress := 0 }

end Server

namespace WrapperServer

def addressed (w : WrapperServer σ) (clientAddress : UInt16) (serverAddress : UInt32) :
    WrapperServer σ :=
  { w with
    server :=
      w.server.withSettings (w.server.settings.checkWrapperAddress clientAddress serverAddress) }

/-- An AARQ for nobody is not answered; without a connection the next client may begin. -/
def handleAarq (w : WrapperServer σ) (aarq : Aarq) : WrapperServer σ :=
  let target := w.server.isTarget W
  if target.2 then ⟨target.1.openAssociation aarq, .cleared⟩
  else if target.1.settings.connected.dlms then { w with server := target.1 }
  else { w with server := target.1.forgetAddresses }

def handleSet (w : WrapperServer σ) (data : List UInt8) : WrapperServer σ :=
  if w.server.Serves conformanceSet then
    let outcome := w.server.svrHandleSetRequest W.toSetProcedures w.transaction data
    ⟨{ w.server with device := outcome.device }, outcome.transaction⟩
  else w

def handleRequest (w : WrapperServer σ) : Command → WrapperServer σ
  | .aarq aarq => w.handleAarq W aarq
  | .setRequest data => w.handleSet W data
  | .disc answered =>
      -- without the HDLC connection the server says that it is disconnected and does no more
      if w.server.settings.connected.hdlc then
        ⟨w.server.svrHandleCommand W.toProcedures (.disc answered),
          W.transactionAfter (.disc answered) w.server w.transaction⟩
      else w
  | command =>
      ⟨w.server.svrHandleCommand W.toProcedures command,
        W.transactionAfter command w.server w.transaction⟩

def handleFrame (w : WrapperServer σ) (clientAddress : UInt16) (serverAddress : UInt32)
    (request : Option Command) : WrapperServer σ :=
  let addressed := w.addressed clientAddress serverAddress
  if w.server.settings.WrapperAddressMatches clientAddress serverAddress then
    match request with
    | none => addressed
    | some command => addressed.handleRequest W command
  else addressed

def step (w : WrapperServer σ) : WrapperEvent → WrapperServer σ
  | .frame clientAddress serverAddress request =>
      w.handleFrame W clientAddress serverAddress request
  | .reset => ⟨w.server.svrReset, .cleared⟩

/-- The attributes that a SET reaches `svr_preWrite` with. -/
def written (w : WrapperServer σ) (data : List UInt8) : List (Nat × UInt8) :=
  if w.server.Serves conformanceSet then
    (w.server.svrHandleSetRequest W.toSetProcedures w.transaction data).written
  else []

end WrapperServer

/-! ## What a frame leaves of the session -/

namespace Server

theorem interfaceType_serve (s : Server σ) (service : UInt32)
    (f : Settings → Device σ → Device σ) :
    (s.serve service f).settings.interfaceType = s.settings.interfaceType := by
  rw [settings_serve]

theorem settings_followAssociation (s : Server σ) (target : Nat) :
    ∃ dlms, (s.followAssociation target).settings =
      { s.settings with connected := { s.settings.connected with dlms := dlms } } := ⟨_, rfl⟩

theorem settings_methodRequest (P : Procedures σ) (s : Server σ) (request : Option ActionRequest) :
    ∃ dlms, (s.svrHandleMethodRequest P request).1.settings =
      { s.settings with connected := { s.settings.connected with dlms := dlms } } := by
  cases request with
  | none => exact ⟨s.settings.connected.dlms, rfl⟩
  | some r =>
      cases found : s.methodTarget r with
      | none =>
          rw [handleMethodRequest_none P found]
          exact ⟨s.settings.connected.dlms, rfl⟩
      | some pair =>
          obtain ⟨target, o⟩ := pair
          simp only [svrHandleMethodRequest, found]
          split
          · exact settings_followAssociation _ target
          · exact ⟨s.settings.connected.dlms, rfl⟩

theorem settings_disconnected (P : Procedures σ) (s : Server σ) :
    (s.svrDisconnected P).settings = s.settings := by
  unfold svrDisconnected
  split <;> rfl

theorem interfaceType_openAssociation (s : Server σ) (aarq : Aarq) :
    (s.openAssociation aarq).settings.interfaceType = s.settings.interfaceType := by
  have handled : (s.svrHandleAarqRequest aarq).1.settings.interfaceType =
      s.settings.interfaceType := by
    have begun : s.settings.beginAarq.interfaceType = s.settings.interfaceType := by
      unfold Settings.beginAarq
      split <;> rfl
    by_cases snrm : s.settings.beginAarq.WithoutSnrm
    · rw [aarq_withoutSnrm aarq snrm]
      exact begun
    · exact (sameConnection_aarq aarq snrm).interfaceType.trans begun
  unfold openAssociation
  dsimp only
  split
  · exact handled
  · exact handled

theorem interfaceType_command (P : Procedures σ) (s : Server σ) (command : Command) :
    (s.svrHandleCommand P command).settings.interfaceType = s.settings.interfaceType := by
  cases command with
  | setRequest | writeRequest | getRequest | readRequest => exact interfaceType_serve ..
  | methodRequest request =>
      rw [svrHandleCommand]
      split
      · obtain ⟨dlms, same⟩ := settings_methodRequest P s request
        rw [same]
      · rfl
  | snrm parsed => cases parsed <;> rfl
  | aarq aarq => exact interfaceType_openAssociation s aarq
  | releaseRequest answered =>
      have same : (s.svrDisconnected P).settings.interfaceType = s.settings.interfaceType :=
        congrArg Settings.interfaceType (settings_disconnected P s)
      rw [svrHandleCommand, release]
      split <;> exact same
  | disc answered =>
      rw [svrHandleCommand, disconnect]
      split_ifs <;> rfl
  | none | unknown => rfl

theorem sameSession_isTarget (s : Server σ) :
    SameSession s.settings (s.isTarget W).1.settings ∧
      (s.isTarget W).1.settings.interfaceType = s.settings.interfaceType := by
  have found : SameSession s.settings s.svrIsTarget.settings ∧
      s.svrIsTarget.settings.interfaceType = s.settings.interfaceType := by
    unfold svrIsTarget
    dsimp only
    split <;> exact ⟨⟨rfl, rfl, rfl⟩, rfl⟩
  unfold isTarget
  split
  · dsimp only
    split <;> exact ⟨⟨found.1.dlms, found.1.clientAddress, found.1.authentication⟩, found.2⟩
  · exact ⟨.refl _, rfl⟩

theorem clientAddress_validate (s : Server σ) :
    s.svrValidateAuthentication.1.settings.clientAddress = s.settings.clientAddress := by
  unfold svrValidateAuthentication
  split
  · split <;> rfl
  · rfl

theorem clientAddress_answerAarq (s : Server σ) (aarq : Aarq) :
    (s.answerAarq aarq).1.settings.clientAddress = s.settings.clientAddress := by
  have checked : (s.checkAarq aarq.diagnostic).1.settings.clientAddress =
      s.settings.clientAddress := by
    unfold checkAarq
    dsimp only
    split_ifs
    iterate 4 rfl
    all_goals exact clientAddress_validate s
  unfold answerAarq
  dsimp only
  split_ifs
  · rw [setAssociationStatus_settings]
    exact checked
  · exact checked
  · rw [setAssociationStatus_settings]
    exact checked
  · exact checked

theorem clientAddress_openAssociation (s : Server σ) (aarq : Aarq) :
    (s.openAssociation aarq).settings.clientAddress = s.settings.clientAddress := by
  have begun : s.settings.beginAarq.clientAddress = s.settings.clientAddress := by
    unfold Settings.beginAarq
    split <;> rfl
  have handled : (s.svrHandleAarqRequest aarq).1.settings.clientAddress =
      s.settings.clientAddress := by
    unfold svrHandleAarqRequest
    dsimp only
    split
    · exact begun
    · split
      · exact (clientAddress_answerAarq _ aarq).trans begun
      · split <;> exact begun
      · split <;> exact begun
      · exact begun
  unfold openAssociation
  dsimp only
  split <;> exact handled

end Server

namespace WrapperServer
variable {W}

theorem clientAddress_addressed {w : WrapperServer σ} {clientAddress : UInt16}
    {serverAddress : UInt32}
    (same : w.server.settings.WrapperAddressMatches clientAddress serverAddress) :
    (w.addressed clientAddress serverAddress).server.settings.clientAddress = clientAddress := by
  have client : ¬ (w.server.settings.clientAddress ≠ 0 ∧
      w.server.settings.clientAddress ≠ clientAddress) := by
    rintro ⟨known, other⟩
    rcases same.1 with free | equal
    · exact known free
    · exact other equal
  rw [addressed, Server.withSettings_settings, Settings.checkWrapperAddress, if_neg client]
  split <;> rfl

theorem settings_handleSet (w : WrapperServer σ) (data : List UInt8) :
    (w.handleSet W data).server.settings = w.server.settings := by
  unfold handleSet
  split <;> rfl

theorem dlms_of_written {w : WrapperServer σ} {data : List UInt8}
    (reaches : w.written W data ≠ []) : w.server.settings.connected.dlms = true := by
  unfold written at reaches
  split at reaches
  · rename_i serves
    exact serves.1
  · exact absurd rfl reaches

end WrapperServer
end Frames
end DlmsGateway.DlmsServer
