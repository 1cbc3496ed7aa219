import DlmsGateway.Server.Action

/-!
# Access to attributes

`svr_getAttributeAccess` and the functions it calls, one for each class.  They
look at the client's address only.  For an address other than `PUBLIC_CLIENT`
and `MANAGEMENT_CLIENT` most of them end without a `return`; what the caller
sees then is `undefined`.
-/
set_option autoImplicit false
namespace DlmsGateway.DlmsServer

def publicClient : UInt16 := 16
def managementClient : UInt16 := 1

inductive AccessMode where
  | none
  | read
  | write
  | readWrite
deriving DecidableEq

/-- The callers let a write pass with `WRITE` and with `READ_WRITE`. -/
def AccessMode.Writable (mode : AccessMode) : Prop := mode = .write ∨ mode = .readWrite

instance (mode : AccessMode) : Decidable mode.Writable := inferInstanceAs (Decidable (_ ∨ _))

def objectTypeData : ObjectType := 1
def objectTypeIecLocalPortSetup : ObjectType := 19
def objectTypeActivityCalendar : ObjectType := 20
def objectTypeActionSchedule : ObjectType := 22
def objectTypeIecHdlcSetup : ObjectType := 23
def objectTypeModemConfiguration : ObjectType := 27
def objectTypeAutoAnswer : ObjectType := 28
def objectTypeAutoConnect : ObjectType := 29
def objectTypeTcpUdpSetup : ObjectType := 41
def objectTypeIp4Setup : ObjectType := 42
def objectTypePppSetup : ObjectType := 44
def objectTypeGprsSetup : ObjectType := 45

/-! The logical names of the objects that the functions single out. -/

def standardeventlog : LogicalName := #v[0, 0, 99, 98, 0, 255]
def frauddetectionlog : LogicalName := #v[0, 0, 99, 98, 1, 255]
def communicationlog : LogicalName := #v[0, 0, 99, 98, 5, 255]
def imagetransferactivationSchedule : LogicalName := #v[0, 0, 15, 0, 2, 255]
def predefinedscriptsimageactivation : LogicalName := #v[0, 0, 10, 0, 107, 255]
def pushscripttable : LogicalName := #v[0, 0, 10, 0, 108, 255]
def securitySetupManagementClient : LogicalName := #v[0, 0, 43, 0, 0, 255]
def securityreceiveframecounterbroadcastkey : LogicalName := #v[0, 0, 43, 1, 1, 255]
def invocationCounter : LogicalName := #v[0, 0, 43, 1, 0, 255]
def ldn : LogicalName := #v[0, 0, 42, 0, 0, 255]
def deviceid2 : LogicalName := #v[0, 0, 96, 1, 1, 255]
def deviceid3 : LogicalName := #v[0, 0, 96, 1, 2, 255]
def deviceid4 : LogicalName := #v[0, 0, 96, 1, 3, 255]
def deviceid5 : LogicalName := #v[0, 0, 96, 1, 4, 255]
def deviceid7 : LogicalName := #v[1, 0, 0, 0, 0, 255]
def errorregister : LogicalName := #v[0, 0, 97, 97, 0, 255]
def alarmregister1 : LogicalName := #v[0, 0, 97, 98, 0, 255]
def alarmfilter1 : LogicalName := #v[0, 0, 97, 98, 10, 255]
def alarmregister2 : LogicalName := #v[0, 0, 97, 98, 1, 255]
def alarmfilter2 : LogicalName := #v[0, 0, 97, 98, 11, 255]
def gprskeepalivetimeinterval : LogicalName := #v[0, 0, 94, 98, 19, 255]
def localauthenticationprotection : LogicalName := #v[0, 0, 94, 98, 20, 255]

/-- What the functions share: one answer for each of the two clients. -/
def byClient (clientAddress : UInt16) (toPublic toManagement undefined : AccessMode) : AccessMode :=
  if clientAddress = publicClient then toPublic
  else if clientAddress = managementClient then toManagement
  else undefined

section Classes
variable (undefined : AccessMode) (clientAddress : UInt16) (ln : LogicalName) (index : UInt8)

/-- Everything but the logical name can be written. -/
def setupAttributeAccess : AccessMode :=
  byClient clientAddress .none (if index = 1 then .read else .readWrite) undefined

def getAssociationAttributeAccess : AccessMode :=
  byClient clientAddress (if index = 7 then .none else .read) (if index = 7 then .write else .read)
    undefined

def getProfileGenericAttributeAccess : AccessMode :=
  byClient clientAddress .none
    (if ln = standardeventlog ∨ ln = frauddetectionlog ∨ ln = communicationlog then
      if index = 3 then .readWrite else .read
    else .none)
    undefined

def getPushSetupAttributeAccess : AccessMode := setupAttributeAccess undefined clientAddress index

def getActionSchduleAttributeAccess : AccessMode :=
  byClient clientAddress .none
    (if ln = imagetransferactivationSchedule then if index = 1 then .read else .readWrite
    else .none)
    undefined

def getScriptTableAttributeAccess : AccessMode :=
  byClient clientAddress .none
    (if ln = predefinedscriptsimageactivation then .read
    else if ln = pushscripttable then if index = 2 then .readWrite else .read
    else .none)
    undefined

def getRegisterAttributeAccess : AccessMode :=
  byClient clientAddress .none
    (if ln = activePowerL1 then .none else if index = 2 then .readWrite else .read)
    undefined

def getDataAttributeAccess : AccessMode :=
  byClient clientAddress
    (if ln = securityreceiveframecounterbroadcastkey ∨ ln = invocationCounter ∨ ln = ldn ∨
        ln = deviceid7 then .read
    else .none)
    (if index = 2 ∧ (ln = deviceid2 ∨ ln = deviceid3 ∨ ln = deviceid4 ∨ ln = deviceid5 ∨
        ln = errorregister ∨ ln = alarmregister1 ∨ ln = alarmfilter1 ∨ ln = alarmregister2 ∨
        ln = alarmfilter2 ∨ ln = gprskeepalivetimeinterval ∨
        ln = localauthenticationprotection) then .readWrite
    else .read)
    undefined

def getHdlcSetupAttributeAccess : AccessMode := setupAttributeAccess undefined clientAddress index

def getSecuritySetupAttributeAccess : AccessMode :=
  byClient clientAddress .none
    (if ln = securitySetupManagementClient then
      if index = 2 ∨ index = 3 then .readWrite else .read
    else .none)
    undefined

def getActivityCalendarAttributeAccess : AccessMode := .none

def getClockAttributeAccess : AccessMode :=
  byClient clientAddress .none
    (if index = 1 ∨ index = 4 ∨ index = 9 then .read else .readWrite)
    undefined

def getImageTransferAttributeAccess : AccessMode :=
  byClient clientAddress .none (if index = 5 then .readWrite else .read) undefined

/-- Attribute 0 is in none of the branches for the management client. -/
def getIecLocalPortSetupAttributeAccess : AccessMode :=
  byClient clientAddress .none
    (if index = 1 then .read
    else if 2 ≤ index ∧ index ≤ 6 then .readWrite
    else if 7 ≤ index then .write
    else undefined)
    undefined

def getTcpUdpSetupAttributeAccess : AccessMode :=
  byClient clientAddress .none (if index = 1 ∨ index = 3 then .read else .readWrite) undefined

def getIp4SetupAttributeAccess : AccessMode := setupAttributeAccess undefined clientAddress index

def getPppSetupAttributeAccess : AccessMode := setupAttributeAccess undefined clientAddress index

def getAutoConnectAttributeAccess : AccessMode := setupAttributeAccess undefined clientAddress index

def getGprsSetupAttributeAccess : AccessMode := setupAttributeAccess undefined clientAddress index

def getModemConfigurationAttributeAccess : AccessMode :=
  setupAttributeAccess undefined clientAddress index

def getAutoAnswerAttributeAccess : AccessMode := setupAttributeAccess undefined clientAddress index

end Classes

def svrGetAttributeAccess (undefined : AccessMode) (clientAddress : UInt16) (o : CosemObject)
    (index : UInt8) : AccessMode :=
  let ln := o.logicalName
  if o.objectType = objectTypeAssociationLogicalName then
    getAssociationAttributeAccess undefined clientAddress index
  else if o.objectType = objectTypeProfileGeneric then
    getProfileGenericAttributeAccess undefined clientAddress ln index
  else if o.objectType = objectTypePushSetup then
    getPushSetupAttributeAccess undefined clientAddress index
  else if o.objectType = objectTypeActionSchedule then
    getActionSchduleAttributeAccess undefined clientAddress ln index
  else if o.objectType = objectTypeScriptTable then
    getScriptTableAttributeAccess undefined clientAddress ln index
  else if o.objectType = objectTypeRegister then
    getRegisterAttributeAccess undefined clientAddress ln index
  else if o.objectType = objectTypeData then
    getDataAttributeAccess undefined clientAddress ln index
  else if o.objectType = objectTypeIecHdlcSetup then
    getHdlcSetupAttributeAccess undefined clientAddress index
  else if o.objectType = objectTypeSecuritySetup then
    getSecuritySetupAttributeAccess undefined clientAddress ln index
  else if o.objectType = objectTypeActivityCalendar then getActivityCalendarAttributeAccess
  else if o.objectType = objectTypeClock then
    getClockAttributeAccess undefined clientAddress index
  else if o.objectType = objectTypeImageTransfer then
    getImageTransferAttributeAccess undefined clientAddress index
  else if o.objectType = objectTypeIecLocalPortSetup then
    getIecLocalPortSetupAttributeAccess undefined clientAddress index
  else if o.objectType = objectTypeTcpUdpSetup then
    getTcpUdpSetupAttributeAccess undefined clientAddress index
  else if o.objectType = objectTypeIp4Setup then
    getIp4SetupAttributeAccess undefined clientAddress index
  else if o.objectType = objectTypePppSetup then
    getPppSetupAttributeAccess undefined clientAddress index
  else if o.objectType = objectTypeAutoConnect then
    getAutoConnectAttributeAccess undefined clientAddress index
  else if o.objectType = objectTypeGprsSetup then
    getGprsSetupAttributeAccess undefined clientAddress index
  else if o.objectType = objectTypeModemConfiguration then
    getModemConfigurationAttributeAccess undefined clientAddress index
  else if o.objectType = objectTypeAutoAnswer then
    getAutoAnswerAttributeAccess undefined clientAddress index
  else .none

/-! ## Who may write -/

namespace AccessMode

theorem not_writable_none : ¬ none.Writable := by decide

theorem not_writable_read : ¬ read.Writable := by decide

theorem not_writable_ite {c : Prop} [Decidable c] {first second : AccessMode}
    (left : ¬ first.Writable) (right : ¬ second.Writable) :
    ¬ (if c then first else second).Writable := by
  split
  · exact left
  · exact right

theorem not_writable_byClient {toPublic toManagement undefined : AccessMode}
    (refused : ¬ toPublic.Writable) :
    ¬ (byClient publicClient toPublic toManagement undefined).Writable := by
  rw [byClient, if_pos rfl]
  exact refused

end AccessMode

section Public
variable (undefined : AccessMode) (ln : LogicalName) (o : CosemObject) (index : UInt8)

open AccessMode

theorem association_not_writable :
    ¬ (getAssociationAttributeAccess undefined publicClient index).Writable :=
  not_writable_byClient (not_writable_ite not_writable_none not_writable_read)

theorem data_not_writable :
    ¬ (getDataAttributeAccess undefined publicClient ln index).Writable :=
  not_writable_byClient (not_writable_ite not_writable_read not_writable_none)

theorem setup_not_writable : ¬ (setupAttributeAccess undefined publicClient index).Writable :=
  not_writable_byClient not_writable_none

theorem public_not_writable :
    ¬ (svrGetAttributeAccess undefined publicClient o index).Writable := by
  have setup := setup_not_writable undefined index
  have ofClass : ∀ toManagement : AccessMode,
      ¬ (byClient publicClient .none toManagement undefined).Writable :=
    fun _ => not_writable_byClient not_writable_none
  unfold svrGetAttributeAccess
  dsimp only
  refine not_writable_ite (association_not_writable undefined index) ?_
  refine not_writable_ite (ofClass _) (not_writable_ite setup ?_)
  iterate 3 refine not_writable_ite (ofClass _) ?_
  refine not_writable_ite (data_not_writable undefined o.logicalName index) ?_
  refine not_writable_ite setup (not_writable_ite (ofClass _) ?_)
  refine not_writable_ite not_writable_none ?_
  iterate 4 refine not_writable_ite (ofClass _) ?_
  iterate 6 refine not_writable_ite setup ?_
  exact not_writable_none

end Public
end DlmsGateway.DlmsServer
