import DlmsGateway.Server.ProfileCounters
import DlmsGateway.Server.SavedSettings

/-!
# A rejected write

`svr_handleSetRequest2` calls `svr_preWrite`, `cosem_setValue` and
`svr_postWrite`, and with an error the last one loads the settings that were
saved last.  That is the state before the request only where everything was
saved: an event is counted in memory and in the file of its log, and is saved
with the next write or method.  The columns of a profile are saved before the
error is looked at.

The access has been checked.  `compactData` is not among the registered objects,
so that `svr_preWrite` leaves no error; `executeTime` is left out.
-/
set_option autoImplicit false
namespace DlmsGateway

open DlmsServer Function

def eventPowerUp : UInt16 := 0x1
def eventTimeChange : UInt16 := 0x2

namespace Memory
variable {V : Type} (m : Memory V)

def profile (o : ObjectRef) : ProfileGeneric where
  captureObjects := m.attributes.captureObjects o
  profileEntries := m.attributes.profileEntries o
  entriesInUse := m.attributes.entriesInUse o
  file := m.buffers o

/-- The count and the file that a capture or a clear of the profile leaves. -/
def withProfile (o : ObjectRef) (pg : ProfileGeneric) : Memory V :=
  { m with
    attributes := { m.attributes with
      entriesInUse := update m.attributes.entriesInUse o pg.entriesInUse }
    buffers := update m.buffers o pg.file }

def updateState (code : UInt16) (r : Readings) : Option (Memory V) :=
  ((m.profile .eventLog).captureProfileGeneric r).map fun (pg, _) =>
    { m with attributes := { m.attributes with eventCode := code } }.withProfile .eventLog pg

def handleProfileGenericActions (o : ObjectRef) (index : UInt8) (r : Readings) :
    Option (Memory V) :=
  ((m.profile o).handleProfileGenericActions index r).map fun pg =>
    (m.withProfile o pg).saveSettings

/-- `allocateProfileGenericBuffer`, where there is no file. -/
def allocate (o : ObjectRef) : Memory V :=
  { m with buffers := update m.buffers o ((m.buffers o).getD (List.replicate 1024 0)) }

/-- What `getProfileGenericBufferMaxRowCount` gives for a file of `length` bytes. -/
def maxRowCount (length : Nat) (rowSize : UInt16) : UInt16 :=
  if rowSize ≠ 0 then (UInt16.ofNat length - 4) / rowSize else 0

def bufferMaxRowCount (o : ObjectRef) (r : Readings) : UInt16 :=
  maxRowCount (((m.allocate o).buffers o).getD []).length (rowSize r (m.attributes.captureObjects o))

end Memory

/-- `e` of a SET request, with what the objects give to a capture during it. -/
structure SetRequest (D : Type) where
  target : ObjectRef
  index : UInt8
  data : D
  multipleBlocks : Bool
  readings : Readings

namespace SetRequest
variable {D : Type} (q : SetRequest D)

def IsTimeChange : Prop := q.target = .clock1 ∧ q.index = 2

def IsColumns : Prop := q.target.objectType = objectTypeProfileGeneric ∧ q.index = 3

def IsEntries : Prop := q.target.objectType = objectTypeProfileGeneric ∧ q.index = 8

instance : Decidable q.IsTimeChange := inferInstanceAs (Decidable (_ ∧ _))
instance : Decidable q.IsColumns := inferInstanceAs (Decidable (_ ∧ _))
instance : Decidable q.IsEntries := inferInstanceAs (Decidable (_ ∧ _))

end SetRequest

section Write
variable {V D : Type} (W : WriteProcedures V D)

/-! ## The callbacks -/

/-- `svr_preWrite`, and whether it has handled the request. -/
def svrPreWrite (m : Memory V) (q : SetRequest D) : Option (Memory V × Bool) :=
  if q.IsTimeChange then (m.updateState eventTimeChange q.readings).map fun m => (m, false)
  else if q.target = .associationHigh ∧ q.index = 7 then
    let secret := W.getOctetString q.data (m.attributes.value .associationLow 7)
    let attributes := { m.attributes with
      value := update m.attributes.value .associationLow
        (update (m.attributes.value .associationLow) 7 secret) }
    some ({ m with attributes }.saveSettings, true)
  else some (m, false)

/-- The profiles in `svr_postWrite`. -/
def postWriteProfile (m : Memory V) (q : SetRequest D) : Option (Memory V) :=
  if q.IsColumns then
    (m.saveSettings.handleProfileGenericActions q.target 1 q.readings).map fun m =>
      { m.allocate q.target with
        attributes := { m.attributes with
          profileEntries := update m.attributes.profileEntries q.target
            (m.bufferMaxRowCount q.target q.readings).toUInt32
          sortObject := update m.attributes.sortObject q.target
            ((m.attributes.captureObjects q.target).head?.map CaptureObject.logicalName) } }
  else if q.IsEntries then
    let maxCount := (m.bufferMaxRowCount q.target q.readings).toUInt32
    let profileEntries :=
      if maxCount < m.attributes.profileEntries q.target then
        update m.attributes.profileEntries q.target maxCount
      else m.attributes.profileEntries
    some { m.allocate q.target with attributes := { m.attributes with profileEntries } }
  else some m

def setClock (m : Memory V) (q : SetRequest D) : Memory V :=
  if q.target.objectType = objectTypeClock then { m with rtc := m.attributes.value .clock1 2 }
  else m

def svrPostWrite (m : Memory V) (q : SetRequest D) (error : Nat) : Option (Memory V) :=
  (postWriteProfile m q).map fun m =>
    if error = 0 then (setClock m q).saveSettings else (setClock m q).loadSettings W

/-- `e->error` after `cosem_setValue`. -/
def SetValue.errorOf (set : SetValue V) : Nat :=
  if set.ret ≠ 0 ∧ set.error = 0 then set.ret else set.error

def cosemSetValue (m : Memory V) (q : SetRequest D) : SetValue V :=
  W.setValue m.attributes q.target q.index q.data

/-- The memory after the request, and `e->error`. -/
def svrHandleSetRequest2 (m : Memory V) (q : SetRequest D) : Option (Memory V × Nat) := do
  let (m, handled) ← svrPreWrite W m q
  if q.multipleBlocks || handled then return (m, 0)
  else
    let set := cosemSetValue W m q
    let m ← svrPostWrite W { m with attributes := set.attributes } q set.errorOf
    return (m, set.errorOf)

/-! ## When a request is rolled back -/

def Attributes.withoutLogCount (a : Attributes V) : Attributes V :=
  { a with entriesInUse := update a.entriesInUse .eventLog 0 }

/-- What a request has to leave as it was; a change of the time is logged. -/
def SetRequest.seen (q : SetRequest D) (a : Attributes V) : Attributes V :=
  if q.IsTimeChange then a.withoutLogCount else a

/-- The file of the event log counts the rows as the attribute does. -/
def Memory.LogInStep (m : Memory V) : Prop :=
  ∀ file ∈ m.buffers .eventLog,
    ByteFile.readAt file 2 2 = BigEndian.encode 2 (m.attributes.entriesInUse .eventLog).toNat

def RolledBack (m : Memory V) (q : SetRequest D) (t : Memory V) : Prop :=
  q.seen t.attributes = q.seen m.attributes ∧ (q.IsTimeChange → m.LogInStep → t.LogInStep)

/-- The request has an outcome, and if that is an error the attributes are as before. -/
def RollsBack (m : Memory V) (q : SetRequest D) : Prop :=
  ∃ t error, svrHandleSetRequest2 W m q = some (t, error) ∧ (error ≠ 0 → RolledBack m q t)

/-- The saved number of events is what the file has with one event more. -/
def Memory.SavedAhead (m : Memory V) (f : Attributes V) (r : Readings) : Prop :=
  m.LogInStep → (m.buffers .eventLog).isSome →
    (m.profile .eventLog).loggedCount r = BigEndian.encode 2 (f.entriesInUse .eventLog).toNat

/-- No more columns than a capture has room for. -/
def Memory.CanLog (m : Memory V) : Prop :=
  (m.buffers .eventLog).isSome → (m.attributes.captureObjects .eventLog).length ≤ 10

def Attributes.cleared (a : Attributes V) (o : ObjectRef) : Attributes V :=
  { a with entriesInUse := update a.entriesInUse o 0 }

/-- When an error that `cosem_setValue` leaves in the memory `pre` is undone. -/
def Undone (m : Memory V) (q : SetRequest D) (pre : Memory V) : Prop :=
  if q.IsColumns then
    m.attributes.entriesInUse q.target = 0 ∧
      (cosemSetValue W pre q).attributes.cleared q.target = m.attributes.cleared q.target
  else
    ∀ f ∈ m.settingsRaw, SavedAs W (q.seen f) (q.seen m.attributes) ∧
      SameIgnored W (cosemSetValue W pre q).attributes m.attributes ∧
      (q.IsTimeChange → m.SavedAhead f q.readings)

def Recoverable (m : Memory V) (q : SetRequest D) : Prop :=
  (q.IsTimeChange → m.CanLog) ∧
    ∀ pre, svrPreWrite W m q = some (pre, false) → q.multipleBlocks = false →
      (cosemSetValue W pre q).errorOf ≠ 0 → Undone W m q pre

end Write

/-! ## The event log -/

namespace Memory
variable {V : Type} {m t : Memory V} {code : UInt16} {r : Readings}

theorem updateState_eq_none : m.updateState code r = none ↔ ¬ m.CanLog := by
  rw [updateState, Option.map_eq_none_iff, ProfileGeneric.captureProfileGeneric]
  cases file : (m.profile .eventLog).file with
  | none =>
      have absent : m.buffers .eventLog = none := file
      simp [CanLog, absent]
  | some bytes =>
      have present : m.buffers .eventLog = some bytes := file
      dsimp only
      split
      · rename_i wide
        have many : 10 < (m.attributes.captureObjects .eventLog).length := wide
        simp [CanLog, present, many]
      · rename_i narrow
        have few : (m.attributes.captureObjects .eventLog).length ≤ 10 := Nat.not_lt.mp narrow
        simp [CanLog, present, few]

theorem updateState_attributes (logged : m.updateState code r = some t) :
    t.settingsRaw = m.settingsRaw ∧ ∃ n, t.attributes = { m.attributes with
      eventCode := code, entriesInUse := update m.attributes.entriesInUse .eventLog n } := by
  obtain ⟨⟨pg, ok⟩, -, rfl⟩ := Option.map_eq_some_iff.mp logged
  exact ⟨rfl, pg.entriesInUse, rfl⟩

theorem buffers_updateState (logged : m.updateState code r = some t) :
    ∃ pg ok, (m.profile .eventLog).captureProfileGeneric r = some (pg, ok) ∧
      t.buffers .eventLog = pg.file := by
  obtain ⟨⟨pg, ok⟩, captured, rfl⟩ := Option.map_eq_some_iff.mp logged
  refine ⟨pg, ok, captured, ?_⟩
  change update m.buffers .eventLog pg.file .eventLog = pg.file
  exact update_self ..

theorem counted_updateState (logged : m.updateState code r = some t) (inStep : m.LogInStep)
    (small : (m.attributes.profileEntries .eventLog).toNat < 65536) :
    (m.buffers .eventLog = none ∧ t.buffers .eventLog = none) ∨
      ∃ file, (m.buffers .eventLog).isSome = true ∧ t.buffers .eventLog = some file ∧
        ByteFile.readAt file 2 2 = (m.profile .eventLog).loggedCount r := by
  obtain ⟨pg, ok, captured, buffer⟩ := buffers_updateState logged
  cases file : m.buffers .eventLog with
  | none =>
      left
      have absent : (m.profile .eventLog).file = none := file
      rw [ProfileGeneric.captureProfileGeneric, absent] at captured
      cases captured
      exact ⟨rfl, buffer.trans absent⟩
  | some bytes =>
      right
      have present : (m.profile .eventLog).file = some bytes := file
      have long := ProfileRun.four_le_length (inStep bytes file)
      have narrow : (m.profile .eventLog).captureObjects.length ≤ 10 := by
        by_contra wide
        rw [ProfileGeneric.captureProfileGeneric_of_wide r present wide] at captured
        cases captured
      rw [ProfileGeneric.captureProfileGeneric_eq r present long narrow] at captured
      cases captured
      exact ⟨_, rfl, buffer, ProfileGeneric.logged_capturedFile r small long⟩

end Memory

/-! ## The profiles of the memory -/

namespace Memory
variable {V : Type} {m t : Memory V} {o p : ObjectRef} {index : UInt8} {code : UInt16}
  {r : Readings}

/-- What the memory and the files have of one profile.  Without `settings.raw` a start counts from
zero. -/
def profileRun (m : Memory V) (o : ObjectRef) (captured : Nat) : ProfileRun where
  pg := m.profile o
  saved := m.settingsRaw.elim 0 fun f => f.entriesInUse o
  isEventLog := o = .eventLog
  captured := captured

theorem profile_withProfile_self (pg : ProfileGeneric)
    (columns : pg.captureObjects = (m.profile o).captureObjects)
    (entries : pg.profileEntries = (m.profile o).profileEntries) :
    (m.withProfile o pg).profile o = pg := by
  cases pg
  simp only [withProfile, profile, update_self] at columns entries ⊢
  rw [columns, entries]

theorem profile_withProfile_of_ne (pg : ProfileGeneric) (other : p ≠ o) :
    (m.withProfile o pg).profile p = m.profile p := by
  simp only [withProfile, profile, update_of_ne other]

/-- An event is logged as the run of each profile has it. -/
theorem profileRun_updateState (logged : m.updateState code r = some t) (captured : Nat) :
    ∃ count, (m.profileRun o captured).next (.updateState r) = some (t.profileRun o count) := by
  obtain ⟨⟨pg, ok⟩, capture, rfl⟩ := Option.map_eq_some_iff.mp logged
  obtain ⟨columns, entries⟩ := ProfileGeneric.frame_captureProfileGeneric capture
  by_cases log : o = .eventLog
  · subst log
    refine ⟨if ok then captured + 1 else captured, ?_⟩
    have after := profile_withProfile_self (m := { m with
      attributes := { m.attributes with eventCode := code } }) pg columns entries
    rw [ProfileRun.next, ProfileRun.updateState, profileRun, if_pos (decide_eq_true rfl),
      ProfileRun.capture, capture, profileRun, after]
    rfl
  · refine ⟨captured, ?_⟩
    have after := profile_withProfile_of_ne (m := { m with
      attributes := { m.attributes with eventCode := code } }) pg log
    rw [ProfileRun.next, ProfileRun.updateState, profileRun, if_neg (by simpa using log),
      profileRun, after]
    rfl

theorem profileRun_saveSettings (captured : Nat) :
    (m.profileRun o captured).next .saveSettings = some (m.saveSettings.profileRun o captured) :=
  rfl

/-- A method is a step of the run of its profile, and then the numbers of all are saved. -/
theorem profileRun_method (acted : m.handleProfileGenericActions o index r = some t)
    (captured : Nat) :
    ∃ s count, (m.profileRun o captured).next (.method index r) = some s ∧
      s.next .saveSettings = some (t.profileRun o count) := by
  obtain ⟨pg, action, rfl⟩ := Option.map_eq_some_iff.mp acted
  obtain ⟨columns, entries⟩ := ProfileGeneric.frame_handleProfileGenericActions action
  have after : (m.withProfile o pg).profile o = pg := profile_withProfile_self pg columns entries
  have saves (count : Nat) : ProfileRun.next
      { (m.profileRun o captured) with pg, captured := count } .saveSettings =
        some ((m.withProfile o pg).saveSettings.profileRun o count) := by
    rw [← profileRun_saveSettings, profileRun, profileRun, after]
    rfl
  by_cases capture : index = 2
  · subst capture
    obtain ⟨⟨pg, ok⟩, captures, rfl⟩ := Option.map_eq_some_iff.mp action
    refine ⟨_, _, ?_, saves (if ok then captured + 1 else captured)⟩
    rw [ProfileRun.next, if_pos rfl, ProfileRun.capture, profileRun, captures]
    rfl
  · refine ⟨_, _, ?_, saves (if index = 1 then 0 else captured)⟩
    rw [ProfileRun.next, if_neg capture, profileRun, action]
    rfl

/-- The run of another profile only has its number saved. -/
theorem profileRun_method_of_ne (acted : m.handleProfileGenericActions o index r = some t)
    (other : p ≠ o) (captured : Nat) :
    (m.profileRun p captured).next .saveSettings = some (t.profileRun p captured) := by
  obtain ⟨pg, -, rfl⟩ := Option.map_eq_some_iff.mp acted
  have after := profile_withProfile_of_ne (m := m) pg other
  rw [← profileRun_saveSettings, profileRun, profileRun, after]
  rfl

end Memory

/-! ## A failed request -/

section Failed
variable {V D : Type} {W : WriteProcedures V D} {m pre : Memory V} {q : SetRequest D}

theorem cleared_eq_iff {a b : Attributes V} {o : ObjectRef} :
    a.cleared o = b ↔ b.entriesInUse o = 0 ∧ a.cleared o = b.cleared o := by
  constructor
  · rintro rfl
    exact ⟨update_self .., by simp [Attributes.cleared]⟩
  · rintro ⟨zero, same⟩
    rw [same, Attributes.cleared, ← zero, update_eq_self]

theorem not_timeChange_of_columns (columns : q.IsColumns) : ¬ q.IsTimeChange := by
  intro change
  have profile := columns.1
  rw [change.1] at profile
  exact absurd profile (by decide)

theorem not_timeChange_of_entries (entries : q.IsEntries) : ¬ q.IsTimeChange := by
  intro change
  have profile := entries.1
  rw [change.1] at profile
  exact absurd profile (by decide)

theorem svrPreWrite_eq_none : svrPreWrite W m q = none ↔ q.IsTimeChange ∧ ¬ m.CanLog := by
  rw [svrPreWrite]
  by_cases change : q.IsTimeChange
  · rw [if_pos change, Option.map_eq_none_iff, Memory.updateState_eq_none]
    exact (and_iff_right change).symm
  · rw [if_neg change]
    split <;> simp [change]

theorem svrPreWrite_cases {handled : Bool} (reached : svrPreWrite W m q = some (pre, handled)) :
    (q.IsTimeChange ∧ handled = false ∧ m.updateState eventTimeChange q.readings = some pre) ∨
      (¬ q.IsTimeChange ∧ handled = true ∧ ∃ value,
        pre = ({ m with attributes := { m.attributes with value } } : Memory V).saveSettings) ∨
      (¬ q.IsTimeChange ∧ handled = false ∧ pre = m) := by
  rw [svrPreWrite] at reached
  by_cases change : q.IsTimeChange
  · rw [if_pos change] at reached
    obtain ⟨t, logged, made⟩ := Option.map_eq_some_iff.mp reached
    cases made
    exact .inl ⟨change, rfl, logged⟩
  · rw [if_neg change] at reached
    right
    split at reached
    · cases reached
      exact .inl ⟨change, rfl, _, rfl⟩
    · cases reached
      exact .inr ⟨change, rfl, rfl⟩

theorem seen_restored (f a : Attributes V) :
    q.seen (restored W f a) = restored W (q.seen f) a := by
  unfold SetRequest.seen
  split <;> rfl

theorem value_seen (a : Attributes V) : (q.seen a).value = a.value := by
  unfold SetRequest.seen
  split <;> rfl

theorem sameIgnored_seen_iff {a b : Attributes V} :
    SameIgnored W b (q.seen a) ↔ SameIgnored W b a := by
  rw [SameIgnored, value_seen]
  exact Iff.rfl

theorem postWriteProfile_other (other : ¬ q.IsColumns) (m : Memory V) :
    ∃ t, postWriteProfile m q = some t ∧ t.settingsRaw = m.settingsRaw ∧
      t.attributes.value = m.attributes.value ∧ (q.IsTimeChange → t = m) := by
  rw [postWriteProfile, if_neg other]
  split
  · rename_i entries
    exact ⟨_, rfl, rfl, rfl, fun change => absurd change (not_timeChange_of_entries entries)⟩
  · exact ⟨m, rfl, rfl, rfl, fun _ => rfl⟩

theorem loadSettings_setClock {f : Attributes V} (saved : m.settingsRaw = some f) :
    ((setClock m q).loadSettings W).attributes = restored W f m.attributes ∧
      ((setClock m q).loadSettings W).buffers = m.buffers := by
  unfold setClock
  split <;> simp [Memory.loadSettings, saved]

theorem postWriteProfile_columns (columns : q.IsColumns) (m : Memory V) :
    ∃ t, postWriteProfile m q = some t ∧
      t.settingsRaw = some (m.attributes.cleared q.target) ∧
      t.attributes.value = m.attributes.value := by
  rw [postWriteProfile, if_pos columns]
  exact ⟨_, rfl, rfl, rfl⟩

theorem svrPostWrite_failed {t : Memory V} {f : Attributes V} {error : Nat} (failed : error ≠ 0)
    (profile : postWriteProfile m q = some t) (saved : t.settingsRaw = some f) :
    ∃ u, svrPostWrite W m q error = some u ∧ u.attributes = restored W f t.attributes ∧
      u.buffers = t.buffers := by
  rw [svrPostWrite, profile]
  obtain ⟨attributes, buffers⟩ := loadSettings_setClock (W := W) (q := q) saved
  refine ⟨(setClock t q).loadSettings W, ?_, attributes, buffers⟩
  simp [failed]

theorem svrPostWrite_total (m : Memory V) (q : SetRequest D) (error : Nat) :
    ∃ t, svrPostWrite W m q error = some t := by
  by_cases columns : q.IsColumns
  · obtain ⟨t, profile, -⟩ := postWriteProfile_columns columns m
    exact ⟨_, by rw [svrPostWrite, profile]; rfl⟩
  · obtain ⟨t, profile, -⟩ := postWriteProfile_other columns m
    exact ⟨_, by rw [svrPostWrite, profile]; rfl⟩

theorem rolledBack_columns_iff {set : SetValue V} (columns : q.IsColumns)
    (failed : set.errorOf ≠ 0) :
    ∃ t, svrPostWrite W { pre with attributes := set.attributes } q set.errorOf = some t ∧
      (RolledBack m q t ↔ m.attributes.entriesInUse q.target = 0 ∧
        set.attributes.cleared q.target = m.attributes.cleared q.target) := by
  obtain ⟨t, profile, saved, value⟩ :=
    postWriteProfile_columns columns { pre with attributes := set.attributes }
  obtain ⟨u, post, attributes, -⟩ := svrPostWrite_failed (W := W) failed profile saved
  have loaded : u.attributes = set.attributes.cleared q.target := by
    rw [attributes, restored_eq_iff]
    refine ⟨⟨fun _ _ _ => rfl, rfl, rfl, rfl, rfl, rfl⟩, ?_⟩
    intro object index _
    rw [value]
    rfl
  have plain := not_timeChange_of_columns columns
  refine ⟨u, post, ?_⟩
  rw [RolledBack, SetRequest.seen, SetRequest.seen, if_neg plain, if_neg plain, loaded,
    cleared_eq_iff]
  exact and_iff_left fun change => absurd change plain

theorem rolledBack_other_iff {f : Attributes V} {set : SetValue V} (other : ¬ q.IsColumns)
    (failed : set.errorOf ≠ 0) (reached : svrPreWrite W m q = some (pre, false))
    (saved : m.settingsRaw = some f)
    (small : (m.attributes.profileEntries .eventLog).toNat < 65536) :
    ∃ t, svrPostWrite W { pre with attributes := set.attributes } q set.errorOf = some t ∧
      (RolledBack m q t ↔ SavedAs W (q.seen f) (q.seen m.attributes) ∧
        SameIgnored W set.attributes m.attributes ∧
        (q.IsTimeChange → m.SavedAhead f q.readings)) := by
  have logs : q.IsTimeChange → m.updateState eventTimeChange q.readings = some pre := by
    intro change
    rcases svrPreWrite_cases reached with ⟨-, -, logged⟩ | ⟨plain, -, -⟩ | ⟨plain, -, -⟩
    · exact logged
    · exact absurd change plain
    · exact absurd change plain
  have savedPre : pre.settingsRaw = some f := by
    rcases svrPreWrite_cases reached with ⟨-, -, logged⟩ | ⟨-, other, -⟩ | ⟨-, -, same⟩
    · exact (Memory.updateState_attributes logged).1.trans saved
    · cases other
    · rw [same, saved]
  obtain ⟨t, profile, kept, value, untouched⟩ :=
    postWriteProfile_other other { pre with attributes := set.attributes }
  obtain ⟨u, post, attributes, buffers⟩ :=
    svrPostWrite_failed (W := W) failed profile (kept.trans savedPre)
  have ignored : SameIgnored W t.attributes (q.seen m.attributes) ↔
      SameIgnored W set.attributes m.attributes := by
    rw [sameIgnored_seen_iff, SameIgnored, value]
    exact Iff.rfl
  refine ⟨u, post, ?_⟩
  rw [RolledBack, attributes, seen_restored, restored_eq_iff, ignored, and_assoc]
  refine and_congr_right fun _ => and_congr_right fun _ => forall_congr' fun change => ?_
  have same : u.buffers = pre.buffers := by
    rw [buffers, untouched change]
  refine forall_congr' fun inStep => ?_
  have entries : u.attributes.entriesInUse = f.entriesInUse := by rw [attributes]; rfl
  rw [Memory.LogInStep, same, entries]
  rcases Memory.counted_updateState (logs change) inStep small with ⟨absent, none⟩ | ⟨file, present, log, count⟩
  · simp [absent, none]
  · simp [present, log, count]

theorem rolledBack_iff_undone {f : Attributes V} (saved : m.settingsRaw = some f)
    (small : (m.attributes.profileEntries .eventLog).toNat < 65536)
    (reached : svrPreWrite W m q = some (pre, false)) (failed : (cosemSetValue W pre q).errorOf ≠ 0) :
    ∃ t, svrPostWrite W { pre with attributes := (cosemSetValue W pre q).attributes } q
        (cosemSetValue W pre q).errorOf = some t ∧ (RolledBack m q t ↔ Undone W m q pre) := by
  by_cases columns : q.IsColumns
  · simp only [Undone, if_pos columns]
    exact rolledBack_columns_iff columns failed
  · simp only [Undone, if_neg columns, saved, Option.mem_some_iff, forall_eq']
    exact rolledBack_other_iff columns failed reached saved small

theorem rollsBack_iff {f : Attributes V} (saved : m.settingsRaw = some f)
    (small : (m.attributes.profileEntries .eventLog).toNat < 65536) :
    RollsBack W m q ↔ Recoverable W m q := by
  rw [RollsBack, Recoverable, svrHandleSetRequest2]
  cases reached : svrPreWrite W m q with
  | none =>
      obtain ⟨change, blocked⟩ := svrPreWrite_eq_none.mp reached
      simp [change, blocked]
  | some result =>
      have logs : q.IsTimeChange → m.CanLog := by
        intro change
        by_contra blocked
        rw [svrPreWrite_eq_none.mpr ⟨change, blocked⟩] at reached
        cases reached
      obtain ⟨pre, handled⟩ := result
      by_cases stops : (q.multipleBlocks || handled) = true
      · have ends : ¬ (handled = false ∧ q.multipleBlocks = false) := by
          rintro ⟨rfl, single⟩
          rw [single] at stops
          exact absurd stops Bool.false_ne_true
        simp only [Option.bind_eq_bind, Option.bind_some, if_pos stops]
        refine iff_of_true ⟨pre, 0, rfl, fun nonzero => absurd rfl nonzero⟩ ⟨logs, ?_⟩
        intro _ same single
        cases same
        exact absurd ⟨rfl, single⟩ ends
      · obtain ⟨single, rfl⟩ : q.multipleBlocks = false ∧ handled = false := by
          simpa using stops
        simp only [Option.bind_eq_bind, Option.bind_some, if_neg stops]
        by_cases failed : (cosemSetValue W pre q).errorOf = 0
        · obtain ⟨t, post⟩ := svrPostWrite_total (W := W)
            { pre with attributes := (cosemSetValue W pre q).attributes } q
            (cosemSetValue W pre q).errorOf
          refine iff_of_true ⟨t, _, by rw [post]; rfl, fun nonzero => absurd failed nonzero⟩ ⟨logs, ?_⟩
          intro _ same _ nonzero
          cases same
          exact absurd failed nonzero
        · obtain ⟨t, post, undone⟩ := rolledBack_iff_undone saved small reached failed
          rw [post]
          simpa [failed, undone, single] using fun _ => logs

end Failed

/-! ## Runs -/

/-- The counts of the profiles fit their files. -/
def Attributes.Small {V : Type} (a : Attributes V) : Prop :=
  ∀ o, (a.profileEntries o).toNat < 65536

/-- The objects as `svr_InitObjects` sets them up. -/
structure FreshObjects (V : Type) extends Attributes V where
  small : toAttributes.Small

inductive WriteEvent (V D : Type) where
  | set (q : SetRequest D)
  | updateState (code : UInt16) (r : Readings)
  | method (target : ObjectRef) (index : UInt8) (r : Readings)
  /-- A value that a read or a method of the object changes. -/
  | change (object : ObjectRef) (index : UInt8) (v : V)
  | saveSettings
  | restart (fresh : FreshObjects V) (r : Readings)

section Run
variable {V D : Type} (W : WriteProcedures V D)

def Memory.allocateAll (m : Memory V) : Memory V :=
  { m with
    buffers := fun o =>
      if o.objectType = objectTypeProfileGeneric then
        some ((m.buffers o).getD (List.replicate 1024 0))
      else m.buffers o }

def svrInitObjects (m : Memory V) (fresh : FreshObjects V) (r : Readings) : Option (Memory V) :=
  ({ m.allocateAll with attributes := fresh.toAttributes }.loadSettings W).updateState
    eventPowerUp r

def Memory.next (m : Memory V) : WriteEvent V D → Option (Memory V)
  | .set q => (svrHandleSetRequest2 W m q).map Prod.fst
  | .updateState code r => m.updateState code r
  | .method target index r =>
      if target.objectType = objectTypeProfileGeneric then
        m.handleProfileGenericActions target index r
      else some m
  | .change object index v =>
      some { m with attributes := { m.attributes with
        value := update m.attributes.value object
          (update (m.attributes.value object) index v) } }
  | .saveSettings => some m.saveSettings
  | .restart fresh r => svrInitObjects W m fresh r

def Memory.step (m : Memory V) (e : WriteEvent V D) : Memory V := (m.next W e).getD m

def RollsBackAt (m : Memory V) : WriteEvent V D → Prop
  | .set q => RollsBack W m q
  | _ => True

def RecoverableAt (m : Memory V) : WriteEvent V D → Prop
  | .set q => Recoverable W m q
  | _ => True

/-- The settings have been saved, with counts that fit the files. -/
structure Memory.Kept (m : Memory V) : Prop where
  saved : ∃ f, m.settingsRaw = some f ∧ f.Small
  small : m.attributes.Small

variable {W} {m t : Memory V}

theorem kept_saveSettings (small : m.attributes.Small) : m.saveSettings.Kept :=
  ⟨⟨m.attributes, rfl, small⟩, small⟩

theorem kept_loadSettings (small : m.attributes.Small)
    (saved : ∀ f ∈ m.settingsRaw, f.Small) : (m.loadSettings W).Kept := by
  rw [Memory.loadSettings]
  cases raw : m.settingsRaw with
  | none => exact kept_saveSettings small
  | some f => exact ⟨⟨f, rfl, saved f raw⟩, saved f raw⟩

theorem kept_updateState {code : UInt16} {r : Readings} (kept : m.Kept)
    (logged : m.updateState code r = some t) : t.Kept := by
  obtain ⟨raw, n, attributes⟩ := Memory.updateState_attributes logged
  refine ⟨by rw [raw]; exact kept.saved, ?_⟩
  rw [attributes]
  exact kept.small

theorem kept_svrInitObjects {fresh : FreshObjects V} {r : Readings}
    (saved : ∀ f ∈ m.settingsRaw, f.Small) (started : svrInitObjects W m fresh r = some t) :
    t.Kept := by
  let objects : Memory V := { m.allocateAll with attributes := fresh.toAttributes }
  have loaded : (objects.loadSettings W).Kept := kept_loadSettings fresh.small saved
  exact kept_updateState loaded started

theorem kept_svrPreWrite {q : SetRequest D} {handled : Bool} (kept : m.Kept)
    (reached : svrPreWrite W m q = some (t, handled)) : t.Kept := by
  rcases svrPreWrite_cases reached with ⟨-, -, logged⟩ | ⟨-, -, value, made⟩ | ⟨-, -, same⟩
  · exact kept_updateState kept logged
  · rw [made]
    exact kept_saveSettings kept.small
  · rw [same]
    exact kept

theorem small_cap (n : UInt16) : n.toUInt32.toNat < 65536 := by
  rw [UInt16.toNat_toUInt32]
  exact n.toNat_lt

theorem small_update {a : ObjectRef → UInt32} {o : ObjectRef} {n : UInt16}
    (small : ∀ p, p ≠ o → (a p).toNat < 65536) :
    ∀ p, (update a o n.toUInt32 p).toNat < 65536 := by
  intro p
  by_cases here : p = o
  · rw [here, update_self]
    exact small_cap n
  · rw [update_of_ne here]
    exact small p here

/-- `svr_postWrite` bounds the number of entries that was written. -/
theorem small_postWriteProfile {q : SetRequest D} (saved : ∀ f ∈ m.settingsRaw, f.Small)
    (small : ∀ p, ¬ (q.IsEntries ∧ p = q.target) → (m.attributes.profileEntries p).toNat < 65536)
    (post : postWriteProfile m q = some t) :
    (∀ f ∈ t.settingsRaw, f.Small) ∧ t.attributes.Small := by
  rw [postWriteProfile] at post
  split at post
  · rename_i columns
    have other : ¬ q.IsEntries := by
      intro entries
      exact absurd (columns.2.symm.trans entries.2) (by decide)
    have all : ∀ p, (m.attributes.profileEntries p).toNat < 65536 :=
      fun p => small p fun both => other both.1
    cases post
    refine ⟨?_, small_update fun p _ => all p⟩
    intro f member
    cases member
    exact all
  · split at post
    · rename_i entries
      cases post
      refine ⟨saved, ?_⟩
      have others : ∀ p, p ≠ q.target → (m.attributes.profileEntries p).toNat < 65536 :=
        fun p apart => small p fun both => apart both.2
      dsimp only [Attributes.Small]
      split
      · exact small_update others
      · rename_i within
        intro p
        by_cases here : p = q.target
        · rw [here]
          rw [UInt32.lt_iff_toNat_lt] at within
          have cap := small_cap (m.bufferMaxRowCount q.target q.readings)
          omega
        · exact others p here
    · rename_i other
      cases post
      exact ⟨saved, fun p => small p fun both => other both.1⟩

theorem kept_svrPostWrite {q : SetRequest D} {error : Nat} (saved : ∀ f ∈ m.settingsRaw, f.Small)
    (small : ∀ p, ¬ (q.IsEntries ∧ p = q.target) → (m.attributes.profileEntries p).toNat < 65536)
    (post : svrPostWrite W m q error = some t) : t.Kept := by
  obtain ⟨u, profile, rfl⟩ := Option.map_eq_some_iff.mp post
  obtain ⟨savedSmall, smallAll⟩ := small_postWriteProfile saved small profile
  have clock : (setClock u q).settingsRaw = u.settingsRaw ∧
      (setClock u q).attributes = u.attributes := by
    unfold setClock
    split <;> exact ⟨rfl, rfl⟩
  split
  · exact kept_saveSettings (by rw [clock.2]; exact smallAll)
  · exact kept_loadSettings (by rw [clock.2]; exact smallAll) (by rw [clock.1]; exact savedSmall)

theorem kept_svrHandleSetRequest2 {q : SetRequest D} {error : Nat} (kept : m.Kept)
    (handled : svrHandleSetRequest2 W m q = some (t, error)) : t.Kept := by
  obtain ⟨⟨pre, stop⟩, reached, rest⟩ := Option.bind_eq_some_iff.mp handled
  have keptPre := kept_svrPreWrite kept reached
  dsimp only at rest
  split at rest
  · cases rest
    exact keptPre
  · obtain ⟨u, post, made⟩ := Option.bind_eq_some_iff.mp rest
    cases made
    obtain ⟨f, raw, smallSaved⟩ := keptPre.saved
    apply kept_svrPostWrite _ _ post
    · intro g member
      rw [raw] at member
      cases member
      exact smallSaved
    · intro p apart
      have same := W.profileEntries_setValue pre.attributes q.target q.index q.data p
        fun both => apart ⟨⟨both.1, both.2.1⟩, both.2.2⟩
      rw [cosemSetValue, same]
      exact keptPre.small p

theorem kept_step {e : WriteEvent V D} (kept : m.Kept) : (m.step W e).Kept := by
  rw [Memory.step]
  cases reached : m.next W e with
  | none => exact kept
  | some t =>
      rw [Option.getD_some]
      cases e with
      | set q =>
          obtain ⟨⟨u, error⟩, handled, rfl⟩ := Option.map_eq_some_iff.mp reached
          exact kept_svrHandleSetRequest2 kept handled
      | updateState code r => exact kept_updateState kept reached
      | method target index r =>
          rw [Memory.next] at reached
          split at reached
          · obtain ⟨pg, -, rfl⟩ := Option.map_eq_some_iff.mp reached
            exact kept_saveSettings kept.small
          · cases reached
            exact kept
      | change object index v =>
          cases reached
          exact ⟨kept.saved, kept.small⟩
      | saveSettings =>
          cases reached
          exact kept_saveSettings kept.small
      | restart fresh r =>
          obtain ⟨f, raw, small⟩ := kept.saved
          apply kept_svrInitObjects _ reached
          intro g member
          rw [raw] at member
          cases member
          exact small

/-- Every failed request of a run leaves the attributes as they were exactly when each finds them
saved, where the failure goes beyond what is loaded. -/
theorem failed_set_rolls_back_iff (m : Memory V) (es : List (WriteEvent V D)) (kept : m.Kept) :
    Runs.Along (Memory.step W) (RollsBackAt W) m es ↔
      Runs.Along (Memory.step W) (RecoverableAt W) m es := by
  apply Runs.along_iff_of_invariant Memory.Kept (fun _ _ => kept_step) _ es m kept
  intro s e kept
  cases e with
  | set q =>
      obtain ⟨f, saved, -⟩ := kept.saved
      exact rollsBack_iff saved (kept.small .eventLog)
  | _ => exact Iff.rfl

end Run
section LostEvent

/-- Values do not matter, and every write is refused. -/
def refusing : WriteProcedures Unit Unit where
  written _ _ := true
  getOctetString _ v := v
  setValue a _ _ _ := ⟨a, 3, 0⟩
  profileEntries_setValue _ _ _ _ _ _ := rfl

def valueOf (logicalName : List UInt8) (isClock : Bool) : CaptureObject :=
  ⟨.ofFn fun k => logicalName.getD k 0, isClock, false, 2⟩

def clockColumn : CaptureObject := valueOf [0, 0, 1, 0, 0, 255] true
def eventCodeColumn : CaptureObject := valueOf [0, 0, 96, 11, 0, 255] false

/-- The event log with its two columns; six bytes a row and 170 rows. -/
def freshObjects : FreshObjects Unit where
  value _ _ := ()
  eventCode := 0
  captureObjects o := if o = .eventLog then [clockColumn, eventCodeColumn] else []
  sortObject o := if o = .eventLog then some clockColumn.logicalName else none
  entriesInUse _ := 0
  profileEntries o := if o = .eventLog then 170 else 0
  small o := by
    dsimp only
    split <;> decide

def eventReadings (code : UInt8) : Readings where
  measured _ := some [18, 0, code]
  value _ := some (18, [0, code])
  timeCurrent := .replicate 4 0
  pduBuff := .replicate 4 0

def beforeFirstStart : Memory Unit where
  attributes := freshObjects.toAttributes
  buffers _ := none
  settingsRaw := none
  rtc := none

def writeBegin : SetRequest Unit := ⟨.clock1, 5, (), false, eventReadings 1⟩

/-- The event of the start is counted and not saved, and the first refused write loses it. -/
theorem start_event_lost :
    ¬ ∀ (W : WriteProcedures Unit Unit) (m₀ m : Memory Unit) (fresh : FreshObjects Unit)
      (r : Readings) (es : List (WriteEvent Unit Unit)), m₀.settingsRaw = none →
      svrInitObjects W m₀ fresh r = some m → Runs.Along (Memory.step W) (RollsBackAt W) m es := by
  intro always
  have counts : (svrInitObjects refusing beforeFirstStart freshObjects (eventReadings 1)).map
      (fun m => (m.attributes.entriesInUse .eventLog,
        m.settingsRaw.map fun f => f.entriesInUse .eventLog)) = some (1, some 0) := by
    decide +kernel
  obtain ⟨m, started, values⟩ := Option.map_eq_some_iff.mp counts
  obtain ⟨count, saved⟩ := Prod.mk.inj values
  have kept : m.Kept := kept_svrInitObjects (by intro f member; cases member) started
  obtain ⟨f, raw, -⟩ := kept.saved
  have along := always refusing beforeFirstStart m freshObjects (eventReadings 1) [.set writeBegin]
    rfl started
  have undone := ((rollsBack_iff raw (kept.small .eventLog)).mp along.1).2 m rfl rfl
    (Nat.succ_ne_zero 2)
  rw [Undone, if_neg (by decide)] at undone
  have same := congrFun (undone f raw).1.entriesInUse .eventLog
  rw [raw, Option.map_some, Option.some.injEq] at saved
  have one : f.entriesInUse .eventLog = 1 := same.trans count
  rw [saved] at one
  exact absurd one (by decide)

theorem saved_write_rolls_back : Runs.Along (Memory.step refusing) (RollsBackAt refusing)
    beforeFirstStart.saveSettings [.set writeBegin] := by
  apply (failed_set_rolls_back_iff beforeFirstStart.saveSettings [.set writeBegin]
    (kept_saveSettings freshObjects.small)).mpr
  refine ⟨⟨fun change => absurd change (by decide), ?_⟩, trivial⟩
  intro pre reached _ _
  cases reached
  rw [Undone, if_neg (by decide)]
  intro f member
  cases member
  refine ⟨⟨fun _ _ _ => rfl, rfl, rfl, rfl, rfl, rfl⟩, fun _ _ _ => rfl, ?_⟩
  exact fun change => absurd change (by decide)

end LostEvent
end DlmsGateway
