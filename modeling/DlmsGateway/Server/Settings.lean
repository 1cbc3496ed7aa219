import Mathlib.Logic.Basic
import Mathlib.Tactic.SplitIfs

/-!
# The settings and the objects of the DLMS server

The part of `dlmsServerSettings` and of the registered objects that decides
what a client may do.  A pointer to an object is its position in
`settings->base.objects`.  Of an object that is not an association only the
type, the logical name and the number of methods are kept; its attributes, the
other objects' data, the files and the clock are the type `σ` of the rest.
-/
set_option autoImplicit false
namespace DlmsGateway.DlmsServer

/-- `DLMS_AUTHENTICATION` -/
inductive Authentication where
  | none
  | low
  | high
  | highMd5
  | highSha1
  | highGmac
  | highSha256
  | highEcdsa
deriving DecidableEq

/-- `authentication > DLMS_AUTHENTICATION_LOW` -/
def Authentication.isHigh : Authentication → Bool
  | .none | .low => false
  | _ => true

/-- The last byte of the mechanism name; `apdu_updateAuthentication` refuses the other values. -/
def updateAuthentication : UInt8 → Option Authentication
  | 0 => some .none
  | 1 => some .low
  | 2 => some .high
  | 3 => some .highMd5
  | 4 => some .highSha1
  | 5 => some .highGmac
  | 6 => some .highSha256
  | _ => none

inductive InterfaceType where
  | hdlc
  | wrapper
  | pdu
  | hdlcWithModeE
deriving DecidableEq

def InterfaceType.isHdlc : InterfaceType → Bool
  | .hdlc | .hdlcWithModeE => true
  | .wrapper | .pdu => false

/-- The bits of `connected`. -/
structure ConnectionState where
  hdlc : Bool
  dlms : Bool
  iec : Bool
deriving DecidableEq

/-- `DLMS_CONNECTION_STATE_NONE` -/
def ConnectionState.none : ConnectionState := ⟨false, false, false⟩

inductive AssociationStatus where
  | nonAssociated
  | associationPending
  | associated
deriving DecidableEq

inductive ApplicationContextName where
  | logicalName
  | logicalNameWithCiphering
deriving DecidableEq

def conformanceGeneralProtection : UInt32 := 0x2
def conformanceRead : UInt32 := 0x8
def conformanceWrite : UInt32 := 0x10
def conformanceGet : UInt32 := 0x80000
def conformanceSet : UInt32 := 0x100000
def conformanceAction : UInt32 := 0x800000

abbrev ObjectType := UInt16
abbrev LogicalName := Vector UInt8 6

def objectTypeNone : ObjectType := 0
def objectTypeRegister : ObjectType := 3
def objectTypeProfileGeneric : ObjectType := 7
def objectTypeClock : ObjectType := 8
def objectTypeScriptTable : ObjectType := 9
def objectTypeAssociationLogicalName : ObjectType := 15
def objectTypeImageTransfer : ObjectType := 18
def objectTypePushSetup : ObjectType := 40
def objectTypeSecuritySetup : ObjectType := 64
def objectTypeDisconnectControl : ObjectType := 70

def defaultAssociation : LogicalName := #v[0, 0, 40, 0, 0, 255]

structure Association where
  logicalName : LogicalName
  version : UInt8
  clientSAP : UInt16
  contextId : ApplicationContextName
  mechanismId : Authentication
  associationStatus : AssociationStatus
  /-- `xDLMSContextInfo.conformance` -/
  conformance : UInt32
  secret : List UInt8
deriving DecidableEq

inductive CosemObject where
  | association (a : Association)
  | other (objectType : ObjectType) (logicalName : LogicalName) (methodCount : UInt8)
deriving DecidableEq

namespace CosemObject

def objectType : CosemObject → ObjectType
  | association _ => objectTypeAssociationLogicalName
  | other objectType _ _ => objectType

def logicalName : CosemObject → LogicalName
  | association a => a.logicalName
  | other _ logicalName _ => logicalName

/-- `obj_methodCount` -/
def methodCount : CosemObject → UInt8
  | association a => if 1 < a.version then 6 else 4
  | other _ _ methodCount => methodCount

def isAssociation : CosemObject → Bool
  | association _ => true
  | other .. => false

/-- Is this the global object of the type and the logical name? -/
def Is (o : CosemObject) (objectType : ObjectType) (logicalName : LogicalName) : Prop :=
  o.objectType = objectType ∧ o.logicalName = logicalName

instance (o : CosemObject) (objectType : ObjectType) (logicalName : LogicalName) :
    Decidable (o.Is objectType logicalName) := inferInstanceAs (Decidable (_ ∧ _))

end CosemObject

inductive ControlState where
  | disconnected
  | connected
  | readyForReconnection
deriving DecidableEq

structure DisconnectControl where
  outputState : Bool
  controlState : ControlState
deriving DecidableEq

structure Device (σ : Type) where
  /-- `settings->base.objects` -/
  objects : List CosemObject
  activePowerL1Value : UInt16
  testMode : Bool
  executeTime : UInt32
  disconnectControl : DisconnectControl
  rest : σ
deriving DecidableEq

namespace Device
variable {σ : Type}

def association? (d : Device σ) (target : Nat) : Option Association :=
  match d.objects[target]? with
  | some (.association a) => some a
  | _ => none

def updateAssociation (d : Device σ) (target : Nat) (f : Association → Association) : Device σ :=
  { d with
    objects := d.objects.modify target fun
      | .association a => .association (f a)
      | o => o }

theorem association?_updateAssociation (d : Device σ) (target : Nat)
    (f : Association → Association) :
    (d.updateAssociation target f).association? target = (d.association? target).map f := by
  simp only [association?, updateAssociation, List.getElem?_modify_eq]
  cases d.objects[target]? with
  | none => rfl
  | some o => cases o <;> rfl

end Device

structure Settings where
  interfaceType : InterfaceType
  connected : ConnectionState
  authentication : Authentication
  /-- `cipher.security` -/
  security : UInt8
  proposedConformance : UInt32
  negotiatedConformance : UInt32
  dlmsVersionNumber : UInt8
  maxPduSize : UInt16
  serverAddress : UInt32
  clientAddress : UInt16
  sourceSystemTitle : Vector UInt8 8
  /-- The part of the password that `bb_compare` has not consumed. -/
  password : List UInt8
  ctoSChallenge : List UInt8
  stoCChallenge : List UInt8
  customChallenges : Bool
deriving DecidableEq

structure Server (σ : Type) where
  settings : Settings
  device : Device σ
deriving DecidableEq

def Settings.svrSetInitialize (s : Settings) : Settings :=
  { s with
    connected := .none
    authentication := .none
    security := 0
    sourceSystemTitle := Vector.replicate 8 0
    ctoSChallenge := []
    stoCChallenge := [] }

def Settings.svrReset (s : Settings) : Settings :=
  { s.svrSetInitialize with serverAddress := 0, clientAddress := 0 }

/-- An address is taken over while none is known; the client's is looked at first. -/
def Settings.checkWrapperAddress (s : Settings) (clientAddress : UInt16) (serverAddress : UInt32) :
    Settings :=
  if s.clientAddress ≠ 0 ∧ s.clientAddress ≠ clientAddress then s
  else if s.serverAddress ≠ 0 ∧ s.serverAddress ≠ serverAddress then
    { s with clientAddress := clientAddress }
  else { s with clientAddress := clientAddress, serverAddress := serverAddress }

/-- The server's address is looked at first; an SNRM frame may change the client's. -/
def Settings.checkHdlcAddress (s : Settings) (clientAddress : UInt16) (serverAddress : UInt32)
    (snrm : Bool) : Settings :=
  if s.serverAddress ≠ 0 ∧ s.serverAddress ≠ serverAddress then s
  else if s.clientAddress ≠ 0 ∧ s.clientAddress ≠ clientAddress ∧ snrm = false then
    { s with serverAddress := serverAddress }
  else { s with clientAddress := clientAddress, serverAddress := serverAddress }

/-- The interface, the connection and the mechanism are the same in both. -/
structure SameConnection (s t : Settings) : Prop where
  interfaceType : t.interfaceType = s.interfaceType
  connected : t.connected = s.connected
  authentication : t.authentication = s.authentication

theorem SameConnection.refl (s : Settings) : SameConnection s s := ⟨rfl, rfl, rfl⟩

theorem sameConnection_wrapperAddress (settings : Settings) (clientAddress : UInt16)
    (serverAddress : UInt32) :
    SameConnection settings (settings.checkWrapperAddress clientAddress serverAddress) := by
  unfold Settings.checkWrapperAddress
  split_ifs <;> exact ⟨rfl, rfl, rfl⟩

theorem sameConnection_hdlcAddress (settings : Settings) (clientAddress : UInt16)
    (serverAddress : UInt32) (snrm : Bool) :
    SameConnection settings (settings.checkHdlcAddress clientAddress serverAddress snrm) := by
  unfold Settings.checkHdlcAddress
  split_ifs <;> exact ⟨rfl, rfl, rfl⟩

namespace Server
variable {σ : Type}

def oaFindByLN (s : Server σ) (objectType : ObjectType) (logicalName : LogicalName) : Option Nat :=
  s.device.objects.findIdx? fun o =>
    (o.objectType = objectType || objectType = objectTypeNone) && o.logicalName = logicalName

/-- An association is found by the client's address and the mechanism proposed. -/
def svrFindObject (s : Server σ) (objectType : ObjectType) (logicalName : LogicalName) :
    Option Nat :=
  if objectType = objectTypeAssociationLogicalName then
    s.device.objects.findIdx? fun
      | .association a =>
          a.clientSAP = s.settings.clientAddress && a.mechanismId = s.settings.authentication &&
            (logicalName = defaultAssociation || a.logicalName = logicalName)
      | .other .. => false
  else none

/-- The part of `svr_isTarget` that looks the client's address up. -/
def svrIsTarget (s : Server σ) : Server σ :=
  let found := s.device.objects.find? fun
    | .association a => a.clientSAP = s.settings.clientAddress
    | .other .. => false
  match found with
  | some (.association a) =>
      { s with settings := { s.settings with proposedConformance := a.conformance } }
  | _ => s

end Server
end DlmsGateway.DlmsServer
