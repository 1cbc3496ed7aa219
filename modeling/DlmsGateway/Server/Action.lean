import DlmsGateway.Server.Aarq

/-!
# Requests of the client

`svr_handleCommand` with `svr_handleMethodRequest`.  Which object an ACTION
goes to, whether it is allowed and what it does to the connection are given as
in the source.  The procedures that only change the device, its files and its
clock are a parameter, and so is the cryptography of `dlms_secure`.

The objects are referred to by logical name, so `shortName` is 0 for all of
them and no short-name write passes without a connection.  `info.preEstablished`
is never set, because `preEstablishedSystemTitle` is `NULL`.
-/
set_option autoImplicit false
namespace DlmsGateway.DlmsServer

def errorOk : Nat := 0
def errorReadWriteDenied : Nat := 3
def errorUndefinedObject : Nat := 4
def errorInconsistentClassOrObject : Nat := 9
def errorOtherReason : Nat := 250
def errorInvalidParameter : Nat := 258
def errorOutOfMemory : Nat := 260

/-! The logical names of the objects that the callbacks single out. -/

def activePowerL1 : LogicalName := #v[1, 1, 21, 25, 0, 255]
def pushSetup : LogicalName := #v[0, 0, 25, 9, 0, 255]
def scriptTableGlobalMeterReset : LogicalName := #v[0, 0, 10, 0, 0, 255]
def disconnectControl : LogicalName := #v[0, 0, 96, 3, 10, 255]
def scriptTableActivateTestMode : LogicalName := #v[0, 0, 10, 0, 101, 255]
def scriptTableActivateNormalMode : LogicalName := #v[0, 0, 10, 0, 102, 255]
def imageTransfer : LogicalName := #v[0, 0, 44, 0, 0, 255]
def securitySetupHigh : LogicalName := #v[0, 0, 43, 0, 1, 255]
def securitySetupHighGMac : LogicalName := #v[0, 0, 43, 0, 2, 255]

/-- What the access control decides about; a procedure that can fail also gives its return value. -/
structure Procedures (σ : Type) where
  updateState : UInt16 → Device σ → Device σ
  handleProfileGenericActions : Nat → UInt8 → Device σ → Device σ
  sendPush : Nat → Device σ → Device σ
  /-- `settings.raw` is opened for writing and closed. -/
  clearSettings : Device σ → Device σ
  loadSettings : Device σ → Device σ × Nat
  loadSecurity : Device σ → Device σ × Nat
  saveSettings : Device σ → Device σ
  saveSecurity : Device σ → Device σ
  /-- The image transfer branch of `svr_preAction`. -/
  imageTransfer : UInt8 → List UInt8 → Device σ → Device σ × Nat
  /-- `cosem_invoke` for the other classes and for the other methods of an association. -/
  invoke : Nat → UInt8 → List UInt8 → Device σ → Device σ × Nat
  isChangedWithAction : ObjectType → UInt8 → Bool
  secure : Settings → Device σ → UInt32 → List UInt8 → List UInt8 → Except Nat (List UInt8)
  systemTitle : Device σ → List UInt8
  invocationCounter : Device σ → UInt32
  handleGetRequest : Settings → List UInt8 → Device σ → Device σ
  handleSetRequest : Settings → List UInt8 → Device σ → Device σ
  handleReadRequest : Settings → List UInt8 → Device σ → Device σ
  handleWriteRequest : Settings → List UInt8 → Device σ → Device σ

structure ActionRequest where
  ci : ObjectType
  logicalName : LogicalName
  id : UInt8
  parameters : List UInt8
  /-- The memory suffices for the response. -/
  responseBuilt : Bool

/-- In every other case `svr_getMethodAccess` is asked. -/
def ActionRequest.WithoutAccessCheck (r : ActionRequest) : Prop :=
  r.ci = objectTypeAssociationLogicalName ∧ r.id = 1

instance (r : ActionRequest) : Decidable r.WithoutAccessCheck :=
  inferInstanceAs (Decidable (_ ∧ _))

/-- The error in the response, or `none` if the return value is not 0. -/
def ActionRequest.response (r : ActionRequest) (error : Nat) : Option Nat :=
  if error = errorOk then if r.responseBuilt then some errorOk else none
  else if error ≤ errorOtherReason then some error
  else some errorInconsistentClassOrObject

/-- A request is `none` if it cannot be parsed. -/
inductive Command where
  | setRequest (data : List UInt8)
  | writeRequest (data : List UInt8)
  | getRequest (data : List UInt8)
  | readRequest (data : List UInt8)
  | methodRequest (request : Option ActionRequest)
  | snrm (parsed : Bool)
  | aarq (aarq : Aarq)
  | releaseRequest (answered : Bool)
  | disc (answered : Bool)
  | none
  | unknown

inductive MethodAccess where
  | none
  | access
deriving DecidableEq

def svrGetMethodAccess (authentication : Authentication) (o : CosemObject) : MethodAccess :=
  match authentication with
  | .none => .none
  | .low => if o.objectType = objectTypeClock then .access else .none
  | _ => .access

/-- What `svr_preAction` leaves in the event argument. -/
structure PreAction (σ : Type) where
  device : Device σ
  handled : Bool
  error : Nat

/-- The outcome of the comparison in `reply_to_HLS_authentication`; after a match the server's own
answer can still fail. -/
inductive HlsReply where
  | failed (error : Nat)
  | mismatched
  | matched (answer : Except Nat (List UInt8))

def readInvocationCounter : List UInt8 → Option UInt32
  | _ :: a :: b :: c :: d :: _ =>
      some (a.toUInt32 <<< 24 ||| b.toUInt32 <<< 16 ||| c.toUInt32 <<< 8 ||| d.toUInt32)
  | _ => none

section Methods
variable {σ : Type} (P : Procedures σ)

def globalMeterReset (d : Device σ) : PreAction σ :=
  let loaded := P.loadSettings (P.clearSettings d)
  if loaded.2 ≠ 0 then ⟨{ loaded.1 with executeTime := 0 }, false, errorOk⟩
  else
    let secured := P.loadSecurity loaded.1
    if secured.2 ≠ 0 then ⟨{ secured.1 with executeTime := 0 }, false, errorOk⟩
    else ⟨P.updateState 0x100 secured.1, true, errorOk⟩

def svrPreAction (d : Device σ) (target : Nat) (o : CosemObject) (index : UInt8)
    (parameters : List UInt8) : PreAction σ :=
  if o.objectType = objectTypeProfileGeneric then
    ⟨P.handleProfileGenericActions target index d, true, errorOk⟩
  else if o.Is objectTypeRegister activePowerL1 then
    ⟨{ d with activePowerL1Value := 0 }, true, errorOk⟩
  else if o.Is objectTypePushSetup pushSetup ∧ index = 1 then
    ⟨P.sendPush target (P.updateState 0x8 d), true, errorOk⟩
  else if o.Is objectTypeScriptTable scriptTableGlobalMeterReset ∧ index = 1 then
    globalMeterReset P d
  else if o.Is objectTypeDisconnectControl disconnectControl then
    ⟨P.updateState 0x80 d, false, errorOk⟩
  else if o.Is objectTypeScriptTable scriptTableActivateTestMode then
    ⟨P.saveSettings { d with testMode := true }, false, errorOk⟩
  else if o.Is objectTypeScriptTable scriptTableActivateNormalMode then
    ⟨P.saveSettings { d with testMode := false }, false, errorOk⟩
  else if o.Is objectTypeImageTransfer imageTransfer then
    ⟨(P.imageTransfer index parameters d).1, true, (P.imageTransfer index parameters d).2⟩
  else ⟨d, false, errorOk⟩

def invokeDisconnectControl (d : Device σ) (index : UInt8) : Device σ × Nat :=
  if index = 1 then ({ d with disconnectControl := ⟨false, .disconnected⟩ }, errorOk)
  else if index = 2 then ({ d with disconnectControl := ⟨true, .connected⟩ }, errorOk)
  else (d, errorInvalidParameter)

/-- Method 1 of an association: the client's answer to the challenge is compared. -/
def replyToHls (s : Server σ) (a : Association) (parameters : List UInt8) : HlsReply :=
  let gmac := s.settings.authentication = .highGmac
  match if gmac then readInvocationCounter parameters else some 0 with
  | none => .failed errorOutOfMemory
  | some ic =>
      let secret := if gmac then s.settings.sourceSystemTitle.toList else a.secret
      match P.secure s.settings s.device ic s.settings.stoCChallenge secret with
      | .error code => .failed code
      | .ok expected =>
          if parameters ≠ [] ∧ expected = parameters then
            let ic := if gmac then P.invocationCounter s.device else ic
            let secret := if gmac then P.systemTitle s.device else a.secret
            .matched (P.secure s.settings s.device ic s.settings.ctoSChallenge secret)
          else .mismatched

def invokeAssociationLogicalName (s : Server σ) (target : Nat) (a : Association) (index : UInt8)
    (parameters : List UInt8) : Device σ × Nat :=
  if index = 1 then
    match replyToHls P s a parameters with
    | .failed code | .matched (.error code) => (s.device, code)
    | .matched (.ok _) =>
        (s.device.updateAssociation target fun a => { a with associationStatus := .associated },
          errorOk)
    | .mismatched =>
        (s.device.updateAssociation target fun a => { a with associationStatus := .nonAssociated },
          errorReadWriteDenied)
  else if index = 2 then
    if parameters = [] then (s.device, errorInconsistentClassOrObject)
    else (s.device.updateAssociation target fun a => { a with secret := parameters }, errorOk)
  else P.invoke target index parameters s.device

def cosemInvoke (s : Server σ) (target : Nat) (o : CosemObject) (index : UInt8)
    (parameters : List UInt8) : Device σ × Nat :=
  if index < 1 ∨ o.methodCount < index then (s.device, errorInvalidParameter)
  else
    match o with
    | .association a => invokeAssociationLogicalName P s target a index parameters
    | .other objectType _ _ =>
        if objectType = objectTypeDisconnectControl then invokeDisconnectControl s.device index
        else P.invoke target index parameters s.device

def svrIsChangedWithAction (objectType : ObjectType) (index : UInt8) : Bool :=
  if objectType = objectTypeAssociationLogicalName then 2 ≤ index && index ≤ 6
  else P.isChangedWithAction objectType index

def svrPostAction (d : Device σ) (o : CosemObject) (index : UInt8) (error : Nat) : Device σ :=
  if o.Is objectTypeSecuritySetup securitySetupHigh ∨
      o.Is objectTypeSecuritySetup securitySetupHighGMac then
    if error = errorOk then P.saveSecurity d else (P.loadSecurity d).1
  else if svrIsChangedWithAction P o.objectType index then
    if error = errorOk then P.saveSettings d else (P.loadSettings d).1
  else d

end Methods

namespace Server
variable {σ : Type}

/-- An association is found through the client's address and mechanism only. -/
def methodTarget (s : Server σ) (r : ActionRequest) : Option (Nat × CosemObject) :=
  let found :=
    if r.ci = objectTypeAssociationLogicalName then none else s.oaFindByLN r.ci r.logicalName
  let target := found.orElse fun _ => s.svrFindObject r.ci r.logicalName
  target.bind fun i => (s.device.objects[i]?).map fun o => (i, o)

/-- `svr_getMethodAccess` refuses the method. -/
def Denies (s : Server σ) (o : CosemObject) (r : ActionRequest) : Prop :=
  ¬ r.WithoutAccessCheck ∧ svrGetMethodAccess s.settings.authentication o = .none

instance (s : Server σ) (o : CosemObject) (r : ActionRequest) : Decidable (s.Denies o r) :=
  inferInstanceAs (Decidable (_ ∧ _))

/-- `svr_preAction`, `cosem_invoke` and `svr_postAction`, if the method is allowed. -/
def performAction (P : Procedures σ) (s : Server σ) (target : Nat) (o : CosemObject)
    (r : ActionRequest) : Device σ × Nat :=
  if s.Denies o r then (s.device, errorReadWriteDenied)
  else
    let pre := svrPreAction P s.device target o r.id r.parameters
    if pre.handled then (pre.device, pre.error)
    else
      let invoked := cosemInvoke P { s with device := pre.device } target o r.id r.parameters
      (svrPostAction P invoked.1 o r.id invoked.2, invoked.2)

def setDlms (s : Server σ) (connected : Bool) : Server σ :=
  s.withSettings
    { s.settings with connected := { s.settings.connected with dlms := connected } }

/-- After method 1 of an association the connection follows the status of the object. -/
def followAssociation (s : Server σ) (target : Nat) : Server σ :=
  s.setDlms ((s.device.association? target).map (·.associationStatus) = some .associated)

def svrHandleMethodRequest (P : Procedures σ) (s : Server σ) :
    Option ActionRequest → Server σ × Option Nat
  | none => (s, none)
  | some r =>
      match s.methodTarget r with
      | none => (s, some errorUndefinedObject)
      | some (target, o) =>
          let done := s.performAction P target o r
          let s := { s with device := done.1 }
          let response := r.response done.2
          if response.isSome && o.isAssociation && r.id = 1 then
            (s.followAssociation target, response)
          else (s, response)

def Negotiated (s : Server σ) (service : UInt32) : Prop :=
  s.settings.negotiatedConformance &&& service ≠ 0

instance (s : Server σ) (service : UInt32) : Decidable (s.Negotiated service) :=
  inferInstanceAs (Decidable (_ ≠ _))

/-- The connection is established and the service negotiated. -/
def Serves (s : Server σ) (service : UInt32) : Prop :=
  s.settings.connected.dlms = true ∧ s.Negotiated service

instance (s : Server σ) (service : UInt32) : Decidable (s.Serves service) :=
  inferInstanceAs (Decidable (_ ∧ _))

def serve (s : Server σ) (service : UInt32) (f : Settings → Device σ → Device σ) : Server σ :=
  if s.Serves service then { s with device := f s.settings s.device } else s

/-- The invocation counter is saved when a ciphered connection ends. -/
def svrDisconnected (P : Procedures σ) (s : Server σ) : Server σ :=
  if s.settings.security ≠ 0 ∧ s.settings.connected.dlms = true then
    { s with device := P.saveSecurity s.device }
  else s

def svrReset (s : Server σ) : Server σ := s.withSettings s.settings.svrReset

/-- A release that cannot be answered returns before `svr_reset`. -/
def release (P : Procedures σ) (s : Server σ) (answered : Bool) : Server σ :=
  let s := (s.svrDisconnected P).setDlms false
  if answered && s.settings.interfaceType = .wrapper then s.svrReset else s

def disconnect (P : Procedures σ) (s : Server σ) (answered : Bool) : Server σ :=
  let s :=
    if s.settings.connected = .none then s
    else (s.svrDisconnected P).withSettings { s.settings with connected := .none }
  if answered then s.svrReset else s

/-- A low or no mechanism connects with the AARQ, whatever its answer says. -/
def openAssociation (s : Server σ) (aarq : Aarq) : Server σ :=
  let handled := s.svrHandleAarqRequest aarq
  if handled.2.isSome && !handled.1.settings.authentication.isHigh then handled.1.setDlms true
  else handled.1

def svrHandleCommand (P : Procedures σ) (s : Server σ) : Command → Server σ
  | .setRequest data => s.serve conformanceSet (P.handleSetRequest · data)
  | .writeRequest data => s.serve conformanceWrite (P.handleWriteRequest · data)
  | .getRequest data => s.serve conformanceGet (P.handleGetRequest · data)
  | .readRequest data => s.serve conformanceRead (P.handleReadRequest · data)
  | .methodRequest request =>
      if s.Negotiated conformanceAction then (s.svrHandleMethodRequest P request).1 else s
  | .snrm parsed =>
      if parsed then
        let s := s.svrHandleSnrmRequest
        s.withSettings { s.settings with connected := ⟨true, false, false⟩ }
      else s
  | .aarq aarq => s.openAssociation aarq
  | .releaseRequest answered => s.release P answered
  | .disc answered => s.disconnect P answered
  | .none | .unknown => s

end Server

/-- The requests, and what else happens to the connection outside `svr_handleCommand`. -/
inductive Event where
  | command (command : Command)
  | wrapperAddress (clientAddress : UInt16) (serverAddress : UInt32)
  | hdlcAddress (clientAddress : UInt16) (serverAddress : UInt32) (snrm : Bool)
  | isTarget
  /-- The first HDLC frame. -/
  | hdlcFrame
  /-- The optical probe has chosen mode E. -/
  | modeE
  /-- `svr_reset` by a thread or after inactivity. -/
  | reset

def Server.step {σ : Type} (P : Procedures σ) (s : Server σ) : Event → Server σ
  | .command command => s.svrHandleCommand P command
  | .wrapperAddress clientAddress serverAddress =>
      s.withSettings (s.settings.checkWrapperAddress clientAddress serverAddress)
  | .hdlcAddress clientAddress serverAddress snrm =>
      s.withSettings (s.settings.checkHdlcAddress clientAddress serverAddress snrm)
  | .isTarget => s.svrIsTarget
  | .hdlcFrame =>
      if s.settings.interfaceType.isHdlc then
        s.withSettings { s.settings with connected := { s.settings.connected with hdlc := true } }
      else s
  | .modeE =>
      if s.settings.interfaceType = .hdlcWithModeE ∧ s.settings.connected = .none then
        s.withSettings { s.settings with connected := ⟨false, false, true⟩ }
      else s
  | .reset => s.svrReset

end DlmsGateway.DlmsServer
