import DlmsGateway.Server.RejectedWrite
import DlmsGateway.Server.Security

/-!
# The global meter reset

`svr_preAction` empties `settings.raw` and loads the settings.  From an empty file
`loadSettings` loads nothing: it saves the attributes as they are.  Then the counter of
`security.raw` is loaded, which is the value of `invocationCounter`, and the event is logged.

`security.raw` is there after the first start.
-/
set_option autoImplicit false
namespace DlmsGateway

open DlmsServer Function

def eventGlobalMeterReset : UInt16 := 0x100

/-- With the counter of the last client in `security.raw`. -/
structure ResetMemory (V : Type) extends Memory V where
  minimumInvocationCounter : V

/-- The objects as `svr_InitObjects` sets them up; the event log has no more columns than a
capture has room for. -/
structure DefaultObjects (V : Type) extends FreshObjects V where
  few : (captureObjects .eventLog).length ≤ 10

def Attributes.withCounter {V : Type} (a : Attributes V) (counter : V) : Attributes V :=
  { a with
    value := update a.value .invocationCounter (update (a.value .invocationCounter) 2 counter) }

/-- Without what an entry of the event log changes. -/
def Attributes.withoutEvent {V : Type} (a : Attributes V) : Attributes V :=
  { a.withoutLogCount with eventCode := 0 }

section Reset
variable {V D : Type} (W : WriteProcedures V D)

namespace ResetMemory
variable (m : ResetMemory V)

def loadSettings : ResetMemory V := { m with toMemory := m.toMemory.loadSettings W }

def loadSecurity : ResetMemory V :=
  { m with attributes := m.attributes.withCounter m.minimumInvocationCounter }

/-- The value of `invocationCounter` is the counter itself. -/
def saveSecurity : ResetMemory V :=
  { m with minimumInvocationCounter := m.attributes.value .invocationCounter 2 }

def updateState (code : UInt16) (r : Readings) : Option (ResetMemory V) :=
  (m.toMemory.updateState code r).map fun t => { m with toMemory := t }

/-- The branch of `svr_preAction`; nothing is saved after it. -/
def globalMeterReset (r : Readings) : Option (ResetMemory V) :=
  let emptied : ResetMemory V := { m with settingsRaw := none }
  (emptied.loadSettings W).loadSecurity.updateState eventGlobalMeterReset r

def initObjects (fresh : FreshObjects V) (r : Readings) : Option (ResetMemory V) :=
  let objects : ResetMemory V :=
    { m with toMemory := { m.allocateAll with attributes := fresh.toAttributes } }
  (objects.loadSettings W).loadSecurity.updateState eventPowerUp r

end ResetMemory

/-! ## The counters of the servers -/

/-- The last client's counter, in memory and in both files, is the one that the servers work with;
`counter` is a counter as a value. -/
structure ResetMemory.Agrees (counter : UInt32 → V) (m : ResetMemory V) (k : Meter) : Prop where
  value : m.attributes.value .invocationCounter 2 = counter k.minimumInvocationCounter
  security : m.minimumInvocationCounter = counter k.securityRaw.minimumInvocationCounter
  settings : ∀ f ∈ m.settingsRaw, f.value .invocationCounter 2 = counter k.settingsRaw

namespace ResetMemory
variable {counter : UInt32 → V} {m t : ResetMemory V} {k : Meter}

theorem agrees_saveSecurity (agrees : m.Agrees counter k) (v : ServerId) :
    m.saveSecurity.Agrees counter (k.saveSecurity v) :=
  ⟨agrees.value, agrees.value, agrees.settings⟩

theorem agrees_loadSecurity (agrees : m.Agrees counter k) (v : ServerId) :
    m.loadSecurity.Agrees counter (k.loadSecurity v) := by
  refine ⟨?_, agrees.security, agrees.settings⟩
  simp only [loadSecurity, Attributes.withCounter, update_self]
  exact agrees.security

theorem agrees_saveSettings (agrees : m.Agrees counter k) :
    ({ m with toMemory := m.toMemory.saveSettings } : ResetMemory V).Agrees counter
      k.saveSettings := by
  refine ⟨agrees.value, agrees.security, ?_⟩
  rintro f ⟨⟩
  exact agrees.value

theorem agrees_loadSettings (agrees : m.Agrees counter k)
    (serialized : Serialized W .invocationCounter 2) (present : m.settingsRaw ≠ none) :
    (m.loadSettings W).Agrees counter k.loadSettings := by
  obtain ⟨f, there⟩ := Option.ne_none_iff_exists'.mp present
  have loaded : (m.loadSettings W).attributes = restored W f m.attributes := by
    rw [loadSettings, Memory.loadSettings, there]
  have files : (m.loadSettings W).settingsRaw = m.settingsRaw := by
    rw [loadSettings, Memory.loadSettings, there]
  refine ⟨?_, agrees.security, ?_⟩
  · rw [loaded]
    exact (if_pos serialized).trans (agrees.settings f there)
  · rw [files]
    exact agrees.settings

/-- A reset saves the counter that is in memory, and then loads the one of `security.raw`. -/
theorem agrees_globalMeterReset (agrees : m.Agrees counter k) (v : ServerId) {r : Readings}
    (reset : m.globalMeterReset W r = some t) : t.Agrees counter (k.globalMeterReset v) := by
  have loaded := agrees_loadSecurity (agrees_saveSettings agrees) v
  obtain ⟨memory, logged, rfl⟩ := Option.map_eq_some_iff.mp reset
  obtain ⟨raw, count, attributes⟩ := Memory.updateState_attributes logged
  refine ⟨?_, loaded.security, ?_⟩
  · rw [attributes]
    exact loaded.value
  · rw [raw]
    exact loaded.settings

end ResetMemory

/-! ## What a reset promises -/

/-- The attributes that are serialized are those of the device after a start without
`settings.raw`, apart from what an entry of the event log changes. -/
def AsAfterFirstStart (m : ResetMemory V) (fresh : DefaultObjects V) (a : Attributes V) : Prop :=
  ∀ r first, ({ m with settingsRaw := none } : ResetMemory V).initObjects W fresh.toFreshObjects r =
    some first → SavedAs W a.withoutEvent first.attributes.withoutEvent

/-- After the reset, and after a restart that follows it. -/
def RestoresDefaults (m : ResetMemory V) (fresh : DefaultObjects V) (r : Readings) : Prop :=
  ∃ t, m.globalMeterReset W r = some t ∧ AsAfterFirstStart W m fresh t.attributes ∧
    ∀ r', ∃ u, t.initObjects W fresh.toFreshObjects r' = some u ∧
      AsAfterFirstStart W m fresh u.attributes

/-- The attributes that are serialized have their defaults, but for the counter and what an entry
of the event log changes. -/
structure AtDefaults (fresh : DefaultObjects V) (a : Attributes V) : Prop where
  value : ∀ o index, Serialized W o index → ¬ (o = .invocationCounter ∧ index = 2) →
    a.value o index = fresh.value o index
  captureObjects : a.captureObjects = fresh.captureObjects
  sortObject : a.sortObject = fresh.sortObject
  entriesInUse : ∀ o, o ≠ .eventLog → a.entriesInUse o = fresh.entriesInUse o
  profileEntries : a.profileEntries = fresh.profileEntries

/-! ## One reset -/

namespace ResetMemory
variable {W} {m t : ResetMemory V} {code : UInt16} {r : Readings}

theorem updateState_exists (few : (m.attributes.captureObjects .eventLog).length ≤ 10) :
    ∃ t, m.updateState code r = some t := by
  have logs : m.toMemory.CanLog := fun _ => few
  have done : m.toMemory.updateState code r ≠ none := fun none_ =>
    Memory.updateState_eq_none.mp none_ logs
  obtain ⟨t, logged⟩ := Option.ne_none_iff_exists'.mp done
  exact ⟨{ m with toMemory := t }, by rw [updateState, logged, Option.map_some]⟩

theorem updateState_keeps (logged : m.updateState code r = some t) :
    t.attributes.withoutEvent = m.attributes.withoutEvent ∧ t.settingsRaw = m.settingsRaw ∧
      t.minimumInvocationCounter = m.minimumInvocationCounter := by
  obtain ⟨memory, captured, rfl⟩ := Option.map_eq_some_iff.mp logged
  obtain ⟨raw, n, attributes⟩ := Memory.updateState_attributes captured
  refine ⟨?_, raw, rfl⟩
  dsimp only
  rw [attributes, Attributes.withoutEvent, Attributes.withoutEvent, Attributes.withoutLogCount,
    Attributes.withoutLogCount, update_idem]

theorem globalMeterReset_keeps (reset : m.globalMeterReset W r = some t) :
    t.attributes.withoutEvent =
        (m.attributes.withCounter m.minimumInvocationCounter).withoutEvent ∧
      t.settingsRaw = some m.attributes ∧
      t.minimumInvocationCounter = m.minimumInvocationCounter :=
  updateState_keeps reset

theorem initObjects_first {fresh : FreshObjects V} (raw : m.settingsRaw = none)
    (started : m.initObjects W fresh r = some t) :
    t.attributes.withoutEvent =
      (fresh.toAttributes.withCounter m.minimumInvocationCounter).withoutEvent := by
  have same := (updateState_keeps started).1
  simp only [loadSettings, loadSecurity, Memory.loadSettings, Memory.allocateAll, raw] at same
  exact same

theorem initObjects_loads {fresh : FreshObjects V} {f : Attributes V}
    (raw : m.settingsRaw = some f) (started : m.initObjects W fresh r = some t) :
    t.attributes.withoutEvent =
      ((restored W f fresh.toAttributes).withCounter
        m.minimumInvocationCounter).withoutEvent := by
  have same := (updateState_keeps started).1
  simp only [loadSettings, loadSecurity, Memory.loadSettings, Memory.allocateAll, raw] at same
  exact same

end ResetMemory

section Defaults
variable {W} {m : ResetMemory V} {fresh : DefaultObjects V}

theorem value_withCounter (a : Attributes V) (counter : V) (o : ObjectRef) (index : UInt8) :
    (a.withCounter counter).value o index =
      if o = .invocationCounter ∧ index = 2 then counter else a.value o index := by
  rw [Attributes.withCounter]
  dsimp only
  by_cases object : o = .invocationCounter
  · rw [object, update_self, update_apply]
    simp
  · rw [update_of_ne object, if_neg fun both => object both.1]

theorem savedAs_withCounter_iff (a : Attributes V) (counter : V) :
    SavedAs W (a.withCounter counter).withoutEvent
        (fresh.toAttributes.withCounter counter).withoutEvent ↔
      AtDefaults W fresh a := by
  constructor
  · intro saved
    refine ⟨?_, saved.captureObjects, saved.sortObject, ?_, saved.profileEntries⟩
    · intro o index serialized other
      have same : (a.withCounter counter).value o index =
          (fresh.toAttributes.withCounter counter).value o index := saved.value o index serialized
      rwa [value_withCounter, value_withCounter, if_neg other, if_neg other] at same
    · intro o other
      have same : update a.entriesInUse .eventLog 0 o = update fresh.entriesInUse .eventLog 0 o :=
        congrFun saved.entriesInUse o
      rwa [update_of_ne other, update_of_ne other] at same
  · intro defaults
    refine ⟨?_, rfl, defaults.captureObjects, defaults.sortObject, ?_, defaults.profileEntries⟩
    · intro o index serialized
      change (a.withCounter counter).value o index =
        (fresh.toAttributes.withCounter counter).value o index
      rw [value_withCounter, value_withCounter]
      by_cases counted : o = .invocationCounter ∧ index = 2
      · rw [if_pos counted, if_pos counted]
      · rw [if_neg counted, if_neg counted, defaults.value o index serialized counted]
    · funext o
      change update a.entriesInUse .eventLog 0 o = update fresh.entriesInUse .eventLog 0 o
      by_cases log : o = .eventLog
      · rw [log, update_self, update_self]
      · rw [update_of_ne log, update_of_ne log, defaults.entriesInUse o log]

theorem asAfterFirstStart_iff (r : Readings) {a : Attributes V} :
    AsAfterFirstStart W m fresh a ↔ SavedAs W a.withoutEvent
      (fresh.toAttributes.withCounter m.minimumInvocationCounter).withoutEvent := by
  constructor
  · intro same
    let bare : ResetMemory V := { m with settingsRaw := none }
    obtain ⟨first, started⟩ : ∃ first, bare.initObjects W fresh.toFreshObjects r = some first :=
      ResetMemory.updateState_exists fresh.few
    rw [← ResetMemory.initObjects_first (show bare.settingsRaw = none from rfl) started]
    exact same r first started
  · intro same r' first started
    rw [ResetMemory.initObjects_first rfl started]
    exact same

theorem atDefaults_restored {f : Attributes V} (defaults : AtDefaults W fresh f) :
    AtDefaults W fresh (restored W f fresh.toAttributes) where
  value := by
    intro o index serialized other
    exact (if_pos serialized).trans (defaults.value o index serialized other)
  captureObjects := defaults.captureObjects
  sortObject := defaults.sortObject
  entriesInUse := defaults.entriesInUse
  profileEntries := defaults.profileEntries

theorem restoresDefaults_iff (r : Readings) :
    RestoresDefaults W m fresh r ↔ AtDefaults W fresh m.attributes := by
  constructor
  · rintro ⟨t, reset, same, -⟩
    have kept := (ResetMemory.globalMeterReset_keeps reset).1
    rw [asAfterFirstStart_iff r, kept] at same
    exact (savedAs_withCounter_iff m.attributes _).mp same
  · intro defaults
    have few : (m.attributes.captureObjects .eventLog).length ≤ 10 := by
      rw [defaults.captureObjects]
      exact fresh.few
    obtain ⟨t, reset⟩ : ∃ t, m.globalMeterReset W r = some t :=
      ResetMemory.updateState_exists few
    obtain ⟨attributes, raw, counter⟩ := ResetMemory.globalMeterReset_keeps reset
    refine ⟨t, reset, ?_, ?_⟩
    · rw [asAfterFirstStart_iff r, attributes]
      exact (savedAs_withCounter_iff m.attributes _).mpr defaults
    · intro r'
      obtain ⟨u, started⟩ : ∃ u, t.initObjects W fresh.toFreshObjects r' = some u := by
        apply ResetMemory.updateState_exists
        simp only [ResetMemory.loadSettings, ResetMemory.loadSecurity, Memory.loadSettings,
          Memory.allocateAll, raw]
        exact few
      refine ⟨u, started, ?_⟩
      rw [asAfterFirstStart_iff r, ResetMemory.initObjects_loads raw started, counter]
      exact (savedAs_withCounter_iff _ _).mpr (atDefaults_restored defaults)

end Defaults

/-! ## Runs -/

inductive ResetEvent (V D : Type) where
  | write (e : WriteEvent V D)
  | restart (fresh : FreshObjects V) (r : Readings)
  | saveSecurity
  | globalMeterReset (r : Readings)

namespace ResetMemory

def step (m : ResetMemory V) : ResetEvent V D → ResetMemory V
  | .write e => { m with toMemory := m.toMemory.step W e }
  | .restart fresh r => (m.initObjects W fresh r).getD m
  | .saveSecurity => m.saveSecurity
  | .globalMeterReset r => (m.globalMeterReset W r).getD m

end ResetMemory

def RestoresDefaultsAt (fresh : DefaultObjects V) (m : ResetMemory V) : ResetEvent V D → Prop
  | .globalMeterReset r => RestoresDefaults W m fresh r
  | _ => True

def AtDefaultsAt (fresh : DefaultObjects V) (m : ResetMemory V) : ResetEvent V D → Prop
  | .globalMeterReset _ => AtDefaults W fresh m.attributes
  | _ => True

/-- Every reset of a run restores the defaults exactly where each finds them. -/
theorem reset_restores_iff (fresh : DefaultObjects V) (m : ResetMemory V)
    (es : List (ResetEvent V D)) :
    Runs.Along (ResetMemory.step W) (RestoresDefaultsAt W fresh) m es ↔
      Runs.Along (ResetMemory.step W) (AtDefaultsAt W fresh) m es := by
  apply Runs.along_iff_of_invariant (fun _ => True) (fun _ _ _ => trivial) _ es m trivial
  intro s e _
  cases e with
  | globalMeterReset r => exact restoresDefaults_iff r
  | _ => exact Iff.rfl

end Reset

section WrittenIdentifier

def storing : WriteProcedures UInt8 UInt8 where
  written _ _ := true
  getOctetString data _ := data
  setValue a target index data :=
    ⟨{ a with value := update a.value target (update (a.value target) index data) }, 0, 0⟩
  profileEntries_setValue _ _ _ _ _ _ := rfl

def plainObjects : DefaultObjects UInt8 where
  value _ _ := 0
  eventCode := 0
  captureObjects _ := []
  sortObject _ := none
  entriesInUse _ := 0
  profileEntries _ := 0
  small _ := Nat.zero_lt_succ 65535
  few := by decide

def silentReadings : Readings where
  measured _ := none
  value _ := none
  timeCurrent := .replicate 4 0
  pduBuff := .replicate 4 0

def unstarted : ResetMemory UInt8 where
  attributes := plainObjects.toAttributes
  buffers _ := none
  settingsRaw := none
  rtc := none
  minimumInvocationCounter := 0

def writeIdentifier : SetRequest UInt8 := ⟨.deviceid2, 2, 7, false, silentReadings⟩

/-- The identifier that a client has written is there after the reset. -/
theorem written_identifier_stays :
    ¬ Runs.Along (ResetMemory.step storing) (RestoresDefaultsAt storing plainObjects) unstarted
      [.restart plainObjects.toFreshObjects silentReadings, .write (.set writeIdentifier),
        .globalMeterReset silentReadings] := by
  rintro ⟨-, -, restores, -⟩
  have defaults := (restoresDefaults_iff silentReadings).mp restores
  have value := defaults.value .deviceid2 2 (by decide) (by decide)
  exact absurd value (by decide)

end WrittenIdentifier
end DlmsGateway
