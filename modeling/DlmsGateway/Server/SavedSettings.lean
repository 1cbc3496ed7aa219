import DlmsGateway.Server.CaptureRing
import DlmsGateway.Server.Settings
import Mathlib.Logic.Function.Basic

/-!
# The attributes and what is saved of them

The attributes of the objects that `svr_InitObjects` registers, in memory and in
`settings.raw`.  Those of the profiles and the value of `eventCode`, which the
server itself works with, have their types; all others are values of a type of
their own.  `saveSettings` writes what `NON_SERIALIZED_OBJECTS` does not leave
out, and `loadSettings` puts it back.

Which attributes `ser_saveObject` writes is a parameter; of the profiles it
writes those from the third on, and of `eventCode` the value.  The files can be
opened.
-/
set_option autoImplicit false
namespace DlmsGateway

open DlmsServer Function

/-- `ALL_OBJECTS` -/
inductive ObjectRef where
  | securitySetupManagementClient
  | securityreceiveframecounterbroadcastkey
  | invocationCounter
  | ldn
  | deviceid1
  | deviceid2
  | deviceid3
  | deviceid4
  | deviceid5
  | deviceid6
  | deviceid7
  | clock1
  | clocktimeshiftlimit
  | imageTransfer
  | imagetransferactivationSchedule
  | predefinedscriptsimageactivation
  | activefirmwareid2
  | activefirmwaresignature2
  | hdlc
  | localPortSetup
  | hdlcelectricalrs485port
  | udpSetup
  | ip4Setup
  | pppSetup
  | errorregister
  | unreadlogfilesstatusregister
  | alarmregister1
  | alarmfilter1
  | alarmregister2
  | alarmfilter2
  | eventCode
  | eventparameter
  | standardeventlog
  | eventobjectfrauddetectionlog
  | frauddetectionlog
  | eventobjectcommunicationlog
  | communicationlog
  | pushSetup
  | pushscripttable
  | autoConnect
  | gprsSetup
  | modemConfiguration
  | autoAnswer
  | gprskeepalivetimeinterval
  | localauthenticationprotection
  | imei
  | associationNone
  | associationLow
  | associationHigh
  | associationHighGMac
  | securitySetupHigh
  | securitySetupHighGMac
  | sapAssignment
  | activePowerL1
  | scriptTableGlobalMeterReset
  | scriptTableActivateTestMode
  | scriptTableActivateNormalMode
  | loadProfile
  | eventLog
  | disconnectControl
  | actionScheduleDisconnectOpen
  | actionScheduleDisconnectClose
  | unixTime
  | activityCalendar
  | registerMonitor
  | tarifficationScriptTable
  | registerActivation
deriving DecidableEq

def ObjectRef.objectType : ObjectRef → ObjectType
  | securityreceiveframecounterbroadcastkey | invocationCounter | ldn | deviceid1 | deviceid2
  | deviceid3 | deviceid4 | deviceid5 | deviceid6 | deviceid7 | activefirmwareid2
  | activefirmwaresignature2 | errorregister | unreadlogfilesstatusregister | alarmregister1
  | alarmfilter1 | alarmregister2 | alarmfilter2 | eventCode | eventparameter
  | eventobjectfrauddetectionlog | eventobjectcommunicationlog | gprskeepalivetimeinterval
  | localauthenticationprotection | imei | unixTime => 1
  | clocktimeshiftlimit | activePowerL1 => objectTypeRegister
  | registerActivation => 6
  | standardeventlog | frauddetectionlog | communicationlog | loadProfile | eventLog =>
      objectTypeProfileGeneric
  | clock1 => objectTypeClock
  | predefinedscriptsimageactivation | pushscripttable | scriptTableGlobalMeterReset
  | scriptTableActivateTestMode | scriptTableActivateNormalMode | tarifficationScriptTable =>
      objectTypeScriptTable
  | associationNone | associationLow | associationHigh | associationHighGMac =>
      objectTypeAssociationLogicalName
  | sapAssignment => 17
  | imageTransfer => objectTypeImageTransfer
  | localPortSetup => 19
  | activityCalendar => 20
  | registerMonitor => 21
  | imagetransferactivationSchedule | actionScheduleDisconnectOpen
  | actionScheduleDisconnectClose => 22
  | hdlc | hdlcelectricalrs485port => 23
  | modemConfiguration => 27
  | autoAnswer => 28
  | autoConnect => 29
  | pushSetup => objectTypePushSetup
  | udpSetup => 41
  | ip4Setup => 42
  | pppSetup => 44
  | gprsSetup => 45
  | securitySetupManagementClient | securitySetupHigh | securitySetupHighGMac =>
      objectTypeSecuritySetup
  | disconnectControl => objectTypeDisconnectControl

/-! ## What is serialized -/

structure SerializerIgnore where
  target : Option ObjectRef
  attributes : UInt16
  objectType : ObjectType

def nonSerializedObjects : List SerializerIgnore :=
  [⟨some .associationNone, 0xFFFF, 0⟩, ⟨some .associationLow, 0xFFBF, 0⟩,
    ⟨some .associationHigh, 0xFFBF, 0⟩, ⟨none, 0x2, objectTypeRegister⟩,
    ⟨none, 0x2, objectTypeAssociationLogicalName⟩]

/-- `ser_getIgnoredAttributes` -/
def ignoredAttributes (object : ObjectRef) : UInt16 :=
  nonSerializedObjects.foldl
    (fun ret ignore =>
      if ignore.target = some object ∨ ignore.objectType = object.objectType then
        ret ||| ignore.attributes
      else ret) 0

def isAttributeSet (attributes : UInt16) (index : UInt8) : Bool :=
  attributes.toNat.testBit (index.toNat - 1)

structure Attributes (V : Type) where
  value : ObjectRef → UInt8 → V
  eventCode : UInt16
  captureObjects : ObjectRef → List CaptureObject
  sortObject : ObjectRef → Option LogicalName
  entriesInUse : ObjectRef → UInt32
  profileEntries : ObjectRef → UInt32

structure SetValue (V : Type) where
  attributes : Attributes V
  ret : Nat
  error : Nat

/-- The parameters; `V` is the type of the values and `D` that of the data of a request. -/
structure WriteProcedures (V D : Type) where
  /-- The attributes that `ser_saveObject` writes. -/
  written : ObjectRef → UInt8 → Bool
  getOctetString : D → V → V
  setValue : Attributes V → ObjectRef → UInt8 → D → SetValue V
  profileEntries_setValue : ∀ a target index data p,
    ¬ (target.objectType = objectTypeProfileGeneric ∧ index = 8 ∧ p = target) →
      (setValue a target index data).attributes.profileEntries p = a.profileEntries p

structure Memory (V : Type) where
  attributes : Attributes V
  buffers : ObjectRef → Option (List UInt8)
  /-- The attributes in `settings.raw`; none when it is missing or empty. -/
  settingsRaw : Option (Attributes V)
  rtc : Option V

section Settings
variable {V D : Type} (W : WriteProcedures V D)

def Serialized (object : ObjectRef) (index : UInt8) : Prop :=
  W.written object index = true ∧ isAttributeSet (ignoredAttributes object) index = false

instance (object : ObjectRef) (index : UInt8) : Decidable (Serialized W object index) :=
  inferInstanceAs (Decidable (_ ∧ _))

/-- `ser_loadObjects`: the attributes `a` once those saved as `f` are loaded. -/
def restored (f a : Attributes V) : Attributes V :=
  { f with
    value := fun object index =>
      if Serialized W object index then f.value object index else a.value object index }

namespace Memory

def saveSettings (m : Memory V) : Memory V := { m with settingsRaw := some m.attributes }

def loadSettings (m : Memory V) : Memory V :=
  match m.settingsRaw with
  | some f => { m with attributes := restored W f m.attributes }
  | none => m.saveSettings

end Memory

structure SavedAs (f a : Attributes V) : Prop where
  value : ∀ object index, Serialized W object index → f.value object index = a.value object index
  eventCode : f.eventCode = a.eventCode
  captureObjects : f.captureObjects = a.captureObjects
  sortObject : f.sortObject = a.sortObject
  entriesInUse : f.entriesInUse = a.entriesInUse
  profileEntries : f.profileEntries = a.profileEntries

def SameIgnored (b a : Attributes V) : Prop :=
  ∀ object index, ¬ Serialized W object index → b.value object index = a.value object index

theorem restored_eq_iff {f a b : Attributes V} :
    restored W f b = a ↔ SavedAs W f a ∧ SameIgnored W b a := by
  constructor
  · rintro rfl
    constructor
    · refine ⟨?_, rfl, rfl, rfl, rfl, rfl⟩
      intro object index serialized
      exact (if_pos serialized).symm
    · intro object index ignored
      exact (if_neg ignored).symm
  · rintro ⟨saved, same⟩
    have value : (restored W f b).value = a.value := by
      funext object index
      by_cases serialized : Serialized W object index
      · exact (if_pos serialized).trans (saved.value object index serialized)
      · exact (if_neg serialized).trans (same object index serialized)
    cases a
    simp only [restored, saved.eventCode, saved.captureObjects, saved.sortObject,
      saved.entriesInUse, saved.profileEntries] at value ⊢
    rw [value]

end Settings
end DlmsGateway
