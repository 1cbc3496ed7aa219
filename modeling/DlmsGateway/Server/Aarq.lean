import DlmsGateway.Server.Settings

/-!
# The association request

`svr_HandleAarqRequest`.  What `apdu_parsePDU` reads is in the request: it has
stored the fields up to the one at which it fails, and any combination of them
is admitted here.  The request also carries what the environment decides, the
random bytes of the challenge and whether the memory suffices for the answer.
-/
set_option autoImplicit false
namespace DlmsGateway.DlmsServer

/-- What `apdu_parsePDU` returns. -/
inductive ParseReturn where
  | ok
  | invocationCounterTooSmall
  | invalidDecipheringError
  | invalidSecuritySuite
  | failed
deriving DecidableEq

inductive AssociationResult where
  | accepted
  | permanentRejected
deriving DecidableEq

def diagnosticNone : UInt8 := 0
def diagnosticNoReasonGiven : UInt8 := 1
def diagnosticApplicationContextNameNotSupported : UInt8 := 2
def diagnosticAuthenticationFailure : UInt8 := 13
def diagnosticAuthenticationRequired : UInt8 := 14

/-- The contents of `error`: a confirmed service error of the initiate service. -/
def initiateError (reason : UInt8) : List UInt8 := [0xE, 1, 6, reason]

structure Aarq where
  mechanism : Option UInt8
  password : Option (List UInt8)
  ctoSChallenge : Option (List UInt8)
  sourceSystemTitle : Option (Vector UInt8 8)
  security : Option UInt8
  ciphered : Bool
  conformance : Option UInt32
  dlmsVersionNumber : Option UInt8
  maxPduSize : Option UInt16
  ret : ParseReturn
  result : AssociationResult
  diagnostic : UInt8
  challenge : List UInt8
  challengeStored : Bool
  replyBuilt : Bool

inductive AarqReply where
  | exceptionResponse (ret : ParseReturn)
  | aare (result : AssociationResult) (diagnostic : UInt8) (error : List UInt8)
deriving DecidableEq

/-- `bb` is empty after a failure. -/
def Aarq.reply (aarq : Aarq) (answer : AarqReply) : Option AarqReply :=
  if aarq.replyBuilt then some answer else none

def Settings.parsePdu (s : Settings) (aarq : Aarq) : Settings :=
  let negotiate (conformance : UInt32) : UInt32 :=
    if aarq.ciphered then conformance &&& s.proposedConformance
    else conformance &&& s.proposedConformance &&& ~~~ conformanceGeneralProtection
  { s with
    authentication := (aarq.mechanism.bind updateAuthentication).getD s.authentication
    password := aarq.password.getD s.password
    ctoSChallenge := aarq.ctoSChallenge.getD s.ctoSChallenge
    sourceSystemTitle := aarq.sourceSystemTitle.getD s.sourceSystemTitle
    security := aarq.security.getD s.security
    negotiatedConformance := (aarq.conformance.map negotiate).getD s.negotiatedConformance
    dlmsVersionNumber := aarq.dlmsVersionNumber.getD s.dlmsVersionNumber
    maxPduSize := aarq.maxPduSize.getD s.maxPduSize }

/-- Over the wrapper an AARQ begins a new session; over HDLC that is left to SNRM. -/
def Settings.beginAarq (s : Settings) : Settings :=
  match s.interfaceType with
  | .wrapper | .pdu => s.svrSetInitialize
  | .hdlc | .hdlcWithModeE => { s with security := 0 }

/-- The client has not called SNRM. -/
def Settings.WithoutSnrm (s : Settings) : Prop :=
  s.interfaceType.isHdlc = true ∧ s.connected.hdlc = false

instance (s : Settings) : Decidable s.WithoutSnrm := inferInstanceAs (Decidable (_ ∧ _))

structure Verdict where
  result : AssociationResult
  diagnostic : UInt8
  error : List UInt8

namespace Server
variable {σ : Type}

def withSettings (s : Server σ) (settings : Settings) : Server σ := { s with settings := settings }

def associationLowSecret (s : Server σ) : List UInt8 :=
  match s.device.objects.find? (·.logicalName = #v[0, 0, 40, 0, 2, 255]) with
  | some (.association a) => a.secret
  | _ => []

/-- A comparison that succeeds consumes the password. -/
def svrValidateAuthentication (s : Server σ) : Server σ × UInt8 :=
  match s.settings.authentication with
  | .low =>
      if s.settings.password = s.associationLowSecret then
        (s.withSettings { s.settings with password := [] }, diagnosticNone)
      else (s, diagnosticAuthenticationFailure)
  | _ => (s, diagnosticNone)

def checkAarq (s : Server σ) (diagnostic : UInt8) : Server σ × Verdict :=
  if s.settings.dlmsVersionNumber < 6 then
    (s.withSettings { s.settings with dlmsVersionNumber := 6 },
      ⟨.permanentRejected, diagnosticNoReasonGiven, initiateError 1⟩)
  else if s.settings.maxPduSize < 64 then
    (s.withSettings { s.settings with maxPduSize := 64 },
      ⟨.permanentRejected, diagnosticNoReasonGiven, initiateError 3⟩)
  else if s.settings.negotiatedConformance = 0 then
    (s, ⟨.permanentRejected, diagnosticNoReasonGiven, initiateError 2⟩)
  else if diagnostic ≠ diagnosticNone then
    (s, ⟨.permanentRejected, diagnosticApplicationContextNameNotSupported, []⟩)
  else
    let validated := s.svrValidateAuthentication
    if validated.2 ≠ diagnosticNone then (validated.1, ⟨.permanentRejected, validated.2, []⟩)
    else if s.settings.authentication.isHigh then
      (validated.1, ⟨.accepted, diagnosticAuthenticationRequired, []⟩)
    else (validated.1, ⟨.accepted, diagnosticNone, []⟩)

/-- What the AARQ leaves in the association object of the client. -/
def setAssociationStatus (s : Server σ) (status : AssociationStatus) : Server σ :=
  let target := (s.oaFindByLN objectTypeAssociationLogicalName defaultAssociation).orElse fun _ =>
    s.svrFindObject objectTypeAssociationLogicalName defaultAssociation
  match target with
  | some target =>
      { s with
        device := s.device.updateAssociation target fun a =>
          { a with
            contextId := if s.settings.security = 0 then .logicalName else .logicalNameWithCiphering
            mechanismId := s.settings.authentication
            associationStatus := status } }
  | none => s

/-- A challenge is generated for a high mechanism even if the AARQ is rejected. -/
def answerAarq (s : Server σ) (aarq : Aarq) : Server σ × Option AarqReply :=
  let checked := s.checkAarq aarq.diagnostic
  let reply := aarq.reply (.aare checked.2.result checked.2.diagnostic checked.2.error)
  let settings := checked.1.settings
  if settings.authentication.isHigh && !settings.customChallenges then
    let challenged := checked.1.withSettings { settings with stoCChallenge := aarq.challenge }
    if aarq.challengeStored then (challenged.setAssociationStatus .associationPending, reply)
    else (challenged, none)
  else if checked.2.result = .accepted then (checked.1.setAssociationStatus .associated, reply)
  else (checked.1, reply)

/-- The answer is `none` if the return value is not 0. -/
def svrHandleAarqRequest (s : Server σ) (aarq : Aarq) : Server σ × Option AarqReply :=
  let begun := s.settings.beginAarq
  if begun.WithoutSnrm then (s.withSettings begun, none)
  else
    let parsed := s.withSettings (begun.parsePdu aarq)
    match aarq.ret, aarq.result with
    | .ok, .accepted => parsed.answerAarq aarq
    | .ok, .permanentRejected | .failed, _ =>
        if aarq.diagnostic = diagnosticNone then
          (parsed, aarq.reply (.aare .permanentRejected diagnosticNoReasonGiven (initiateError 0)))
        else (parsed, aarq.reply (.aare aarq.result aarq.diagnostic []))
    | ret, _ => (parsed, aarq.reply (.exceptionResponse ret))

def svrHandleSnrmRequest (s : Server σ) : Server σ :=
  s.withSettings { s.settings.svrReset with
    security := s.settings.security
    serverAddress := s.settings.serverAddress
    clientAddress := s.settings.clientAddress }

/-! ## What an AARQ does to the connection -/

@[simp] theorem withSettings_settings (s : Server σ) (settings : Settings) :
    (s.withSettings settings).settings = settings := rfl

@[simp] theorem setAssociationStatus_settings (s : Server σ) (status : AssociationStatus) :
    (s.setAssociationStatus status).settings = s.settings := by
  unfold setAssociationStatus
  dsimp only
  split <;> rfl

theorem sameConnection_validate (s : Server σ) :
    SameConnection s.settings s.svrValidateAuthentication.1.settings := by
  unfold svrValidateAuthentication
  split
  · split
    · exact ⟨rfl, rfl, rfl⟩
    · exact .refl _
  · exact .refl _

theorem sameConnection_checkAarq (s : Server σ) (diagnostic : UInt8) :
    SameConnection s.settings (s.checkAarq diagnostic).1.settings := by
  unfold checkAarq
  dsimp only
  split_ifs
  · exact ⟨rfl, rfl, rfl⟩
  · exact ⟨rfl, rfl, rfl⟩
  · exact .refl _
  · exact .refl _
  all_goals exact sameConnection_validate s

theorem sameConnection_answerAarq (s : Server σ) (aarq : Aarq) :
    SameConnection s.settings (s.answerAarq aarq).1.settings := by
  have checked := sameConnection_checkAarq s aarq.diagnostic
  unfold answerAarq
  dsimp only
  split_ifs
  · simp only [setAssociationStatus_settings, withSettings_settings]
    exact ⟨checked.interfaceType, checked.connected, checked.authentication⟩
  · exact ⟨checked.interfaceType, checked.connected, checked.authentication⟩
  · simp only [setAssociationStatus_settings]
    exact checked
  · exact checked

/-- Past the check for SNRM only the parser changes the mechanism. -/
theorem sameConnection_aarq {s : Server σ} (aarq : Aarq)
    (snrm : ¬ s.settings.beginAarq.WithoutSnrm) :
    SameConnection (s.settings.beginAarq.parsePdu aarq)
      (s.svrHandleAarqRequest aarq).1.settings := by
  unfold svrHandleAarqRequest
  dsimp only
  rw [if_neg snrm]
  split
  · exact sameConnection_answerAarq (s.withSettings (s.settings.beginAarq.parsePdu aarq)) aarq
  · split <;> exact .refl _
  · split <;> exact .refl _
  · exact .refl _

theorem aarq_withoutSnrm {s : Server σ} (aarq : Aarq) (snrm : s.settings.beginAarq.WithoutSnrm) :
    s.svrHandleAarqRequest aarq = (s.withSettings s.settings.beginAarq, none) := by
  unfold svrHandleAarqRequest
  exact if_pos snrm

end Server
end DlmsGateway.DlmsServer
