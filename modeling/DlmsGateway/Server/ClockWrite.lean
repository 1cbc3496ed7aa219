import DlmsGateway.Server.AttributeAccess
import DlmsGateway.Server.DateTime

/-!
# Writing the attributes of the clock

After each write `svr_postWrite` puts the time that is stored in `clock1` into
the chip and the time of the system, whichever attribute was written and
whether or not the write went well.  Only a write of the time makes the stored
time new.

`svr_preWrite` logs a change of the time, which touches none of this.  The
comparison of times is a parameter, as are the C library and what
`loadSettings` finds.
-/
set_option autoImplicit false
namespace DlmsGateway

open DlmsServer

/-! ## The clock object -/

structure GxClock where
  time : GxTime
  timeZone : Int16
  status : UInt8
  beginTime : GxTime
  endTime : GxTime
  deviation : Int8
  enabled : UInt8
  clockBase : UInt8

structure ClockData where
  isOctetString : Bool
  /-- The bytes of `value->byteArr`, where there is a buffer; an empty octet string has none. -/
  byteArr : Option (List UInt8)
  /-- `var_toInteger` -/
  toInteger : Int

/-- The bytes that are taken for a date-time. -/
def ClockData.octets (v : ClockData) : Option (List UInt8) :=
  if v.isOctetString then v.byteArr else none

structure ClockLibrary extends TimeLibrary where
  timeCompare : GxTime → GxTime → Option Int

section SetValue
variable (L : ClockLibrary)

def gxmktime (t : Tm) : Tm × Int :=
  let (first, ret) := L.mktime t
  if ret ≠ -1 ∧ first.tmIsdst = 1 then
    let (second, ret) := L.mktime { t with tmIsdst := 1 }
    if ret = -1 then (second, ret) else ({ second with tmIsdst := 0 }, ret)
  else (first, ret)

/-- `time_addMinutes`; the assertion fails where there is no such time. -/
def timeAddMinutes (value : GxTime) (minutes : Int) : Option GxTime :=
  let (t, ret) := gxmktime L { value.value with tmMin := value.value.tmMin + minutes }
  if ret = -1 then none else some { value with value := t }

def timeToUTC (value : GxTime) : Option GxTime :=
  if value.deviation ≠ 0 ∧ value.deviation ≠ -32768 then
    (timeAddMinutes L value value.deviation).map fun t =>
      { t with deviation := 0, status := t.status &&& 0x7F }
  else some value

def timeClear (t : GxTime) : GxTime :=
  { t with value := ⟨0, 0, 0, 0, 0, 0, 0⟩, extraInfo := 0, skip := 0, status := 0 }

/-- Whether `clock_updateDST` finds the time between `begin` and `end`. -/
def daylightSaving (c : GxClock) : Option Bool := do
  if c.enabled = 0 then return false
  let first ← L.timeCompare c.beginTime c.time
  if first = 1 then return false
  let last ← L.timeCompare c.endTime c.time
  return last ≠ -1

def clockUpdateDST (c : GxClock) : Option GxClock :=
  (daylightSaving L c).map fun active =>
    let status := if active then c.status ||| 0x80 else c.status &&& 0x7F
    { c with status, time := { c.time with status } }

/-- The time that `cosem_setClock` puts in place of another one; there is none to copy where
`dlms_changeType2` made none. -/
def copyTime (v : ClockData) (old : GxTime) : Option (GxTime × Nat) :=
  match v.octets with
  | none => some (timeClear old, 0)
  | some bytes =>
      match dlmsChangeType2 L.toTimeLibrary bytes with
      | .error code => some (old, code)
      | .ok dateTime => dateTime.map (·, 0)

def setClockTime (c : GxClock) (v : ClockData) : Option (GxClock × Nat) := do
  let (time, ret) ← copyTime L v c.time
  if v.octets.isSome ∧ ret = 0 then
    let time ← timeToUTC L time
    let c ← clockUpdateDST L { c with time }
    return (c, 0)
  return ({ c with time }, ret)

def cosemSetClock (c : GxClock) (index : UInt8) (v : ClockData) : Option (GxClock × Nat) :=
  if index = 2 then setClockTime L c v
  else if index = 3 then some ({ c with timeZone := Int16.ofInt v.toInteger }, 0)
  else if index = 4 then some ({ c with status := UInt8.ofInt v.toInteger }, 0)
  else if index = 5 then
    (copyTime L v c.beginTime).map fun (beginTime, ret) => ({ c with beginTime }, ret)
  else if index = 6 then
    (copyTime L v c.endTime).map fun (endTime, ret) => ({ c with endTime }, ret)
  else if index = 7 then
    (clockUpdateDST L { c with deviation := Int8.ofInt v.toInteger }).map fun c => (c, 0)
  else if index = 8 then
    (clockUpdateDST L { c with enabled := UInt8.ofInt v.toInteger }).map fun c => (c, 0)
  else if index = 9 then some ({ c with clockBase := UInt8.ofInt v.toInteger }, 0)
  else some (c, errorInvalidParameter)

/-- `cosem_setValue`; the logical name of the clock is left out. -/
def cosemSetClockValue (c : GxClock) (index : UInt8) (v : ClockData) : Option (GxClock × Nat) :=
  if index = 1 then some (c, if v.byteArr.map List.length = some 6 then 0 else errorInvalidParameter)
  else cosemSetClock L c index v

end SetValue

/-! ## The requests -/

structure ClockState where
  clock : GxClock
  device : ClockDevice

inductive SetService where
  /-- `svr_handleSetRequest2` -/
  | request (multipleBlocks : Bool)
  /-- One object in `svr_handleSetRequestWithList`, after one that was handled or not. -/
  | withList (handled : Bool)
  /-- `svr_hanleSetRequestWithDataBlock` -/
  | withDataBlock (multipleBlocks : Bool)

structure ClockSet where
  service : SetService
  clientAddress : UInt16
  undefined : AccessMode
  index : UInt8
  data : ClockData
  loadSettings : GxClock → GxClock

namespace ClockSet
variable (q : ClockSet)

def Granted : Prop := (getClockAttributeAccess q.undefined q.clientAddress q.index).Writable

instance : Decidable q.Granted := inferInstanceAs (Decidable (AccessMode.Writable _))

end ClockSet

section Write
variable (L : ClockLibrary)

def svrPostWriteClock (s : ClockState) (q : ClockSet) (error : Nat) : ClockState where
  clock := if error = 0 then s.clock else q.loadSettings s.clock
  device := s.device.postWriteClock L.toTimeLibrary s.clock.time.value

def handleClockSet (s : ClockState) (q : ClockSet) : Option (ClockState × Nat) :=
  match q.service with
  | .request multipleBlocks =>
      if ¬ q.Granted then some (s, errorReadWriteDenied)
      else if multipleBlocks then some (s, 0)
      else (cosemSetClockValue L s.clock q.index q.data).map fun (clock, ret) =>
        (svrPostWriteClock L { s with clock } q ret, ret)
  | .withList handled =>
      if ¬ q.Granted then some (s, errorReadWriteDenied)
      else if handled then some (s, 0)
      -- The error stays in `ret`, and `svr_postWrite` sees none.
      else (cosemSetClockValue L s.clock q.index q.data).map fun (clock, ret) =>
        (svrPostWriteClock L { s with clock } q 0, ret)
  | .withDataBlock multipleBlocks =>
      if multipleBlocks then some (s, 0)
      else (cosemSetClockValue L s.clock q.index q.data).map fun (clock, ret) =>
        if ret ≠ 0 then ({ s with clock }, ret)
        else (svrPostWriteClock L { s with clock } q 0, 0)

/-! ## What a write may change -/

/-- The device has gone from one state to the time and date that a time of the object stands
for. -/
def ShowsTime (value : Tm) (before after : ClockDevice) : Prop :=
  ∃ date time image, value.Is date time ∧ Calendar.jalali.Valid date ∧ time.Valid ∧
    SameDay date image ∧ after.registers.Hold image time ∧
    after.systemTime = L.settimeofday (L.mktime (tmOf image time)).2 before.systemTime

def OnlyTimeWriteMoves (s : ClockState) (q : ClockSet) : Prop :=
  ∀ t error, handleClockSet L s q = some (t, error) →
    (t.device.registers = s.device.registers ∧ t.device.systemTime = s.device.systemTime) ∨
      (q.index = 2 ∧ error = 0 ∧ ShowsTime L t.clock.time.value s.device t.device)

def ClockDevice.SetTo (d : ClockDevice) (value : Tm) : Prop :=
  d.registers = ds1307SetTime (ClockDevice.strOf value d.ds1307Str) ∧
    systemTimeFrom L.toTimeLibrary d.registers d.systemTime = d.systemTime

def Tm.Showable (value : Tm) : Prop := ∃ date time image, value.Is date time ∧
  DlmsGateway.Showable date time image

namespace ClockData

def IsTime (v : ClockData) : Prop := ∀ bytes ∈ v.octets, bytes = [] ∨ 12 ≤ bytes.length

instance (v : ClockData) : Decidable v.IsTime :=
  inferInstanceAs (Decidable (∀ bytes ∈ v.octets, _ ∨ _))

/-- The time that is stored for a value; one that is no octet string clears the time. -/
def writtenTime (v : ClockData) : Option Tm :=
  match v.octets with
  | none => some ⟨0, 0, 0, 0, 0, 0, 0⟩
  | some bytes => ((getDateTime L.toTimeLibrary bytes).bind (timeToUTC L)).map GxTime.value

end ClockData

namespace ClockSet
variable (q : ClockSet)

def Accepted : Prop :=
  if q.index = 1 then q.data.byteArr.map List.length = some 6
  else if q.index = 2 ∨ q.index = 5 ∨ q.index = 6 then q.data.IsTime
  else 3 ≤ q.index ∧ q.index ≤ 9

instance : Decidable q.Accepted :=
  inferInstanceAs (Decidable (if _ = _ then _ = _ else if _ ∨ _ then q.data.IsTime else _ ∧ _))

def PostWritten : Prop :=
  match q.service with
  | .request multipleBlocks => q.Granted ∧ multipleBlocks = false
  | .withList handled => q.Granted ∧ handled = false
  | .withDataBlock multipleBlocks => multipleBlocks = false ∧ q.Accepted

end ClockSet

/-- The time was written and the chip can show it, or the device is set already to the time that
was written or, when that was another attribute or rejected, to the one that was stored. -/
def MovesRight (s : ClockState) (q : ClockSet) : Prop :=
  (cosemSetClockValue L s.clock q.index q.data).isSome → q.PostWritten →
    if q.index = 2 ∧ q.Accepted then
      ∀ value, q.data.writtenTime L = some value → value.Showable ∨ s.device.SetTo L value
    else s.device.SetTo L s.clock.time.value

end Write

section Proof
variable {L : ClockLibrary} {s t : ClockState} {q : ClockSet} {c clock : GxClock} {ret error : Nat}

theorem time_clockUpdateDST (updated : clockUpdateDST L c = some clock) :
    clock.time.value = c.time.value := by
  obtain ⟨active, -, rfl⟩ := Option.map_eq_some_iff.mp updated
  rfl

theorem getDateTime_eq_none_iff {bytes : List UInt8} :
    getDateTime L.toTimeLibrary bytes = none ↔ bytes.length < 12 := by
  constructor
  · intro none_
    by_contra long
    obtain ⟨t, made⟩ := getDateTime_of_long L.toTimeLibrary (Nat.not_lt.mp long)
    rw [none_] at made
    cases made
  · intro short
    exact if_pos short

theorem copyTime_cases {v : ClockData} {old time : GxTime}
    (copy : copyTime L v old = some (time, ret)) :
    (¬ v.IsTime ∧ ret ≠ 0 ∧ time = old) ∨
      (v.IsTime ∧ ret = 0 ∧
        match v.octets with
        | none => time = timeClear old
        | some bytes => getDateTime L.toTimeLibrary bytes = some time) := by
  unfold copyTime at copy
  unfold ClockData.IsTime
  cases octets : v.octets with
  | none =>
      rw [octets] at copy
      cases copy
      exact .inr ⟨nofun, rfl, rfl⟩
  | some bytes =>
      have ofBytes : (∀ taken ∈ some bytes, taken = [] ∨ 12 ≤ taken.length) ↔
          bytes = [] ∨ 12 ≤ bytes.length := by simp
      rw [octets] at copy
      rw [ofBytes]
      dsimp only at copy ⊢
      unfold dlmsChangeType2 at copy
      by_cases empty : bytes = []
      · rw [if_pos empty] at copy
        cases copy
      rw [if_neg empty] at copy
      cases made : getDateTime L.toTimeLibrary bytes with
      | none =>
          rw [made] at copy
          cases copy
          have short := getDateTime_eq_none_iff.mp made
          have other : ¬ (bytes = [] ∨ 12 ≤ bytes.length) := not_or.mpr ⟨empty, by omega⟩
          exact .inl ⟨other, by decide, rfl⟩
      | some t =>
          rw [made] at copy
          cases copy
          have long : ¬ bytes.length < 12 := fun short => by
            rw [getDateTime_eq_none_iff.mpr short] at made
            cases made
          exact .inr ⟨.inr (by omega), rfl, rfl⟩

theorem isTime_iff {v : ClockData} {old time : GxTime}
    (copy : copyTime L v old = some (time, ret)) : ret = 0 ↔ v.IsTime := by
  rcases copyTime_cases copy with ⟨other, rejected, -⟩ | ⟨isTime, rfl, -⟩
  · exact ⟨fun zero => absurd zero rejected, fun isTime => absurd isTime other⟩
  · exact ⟨fun _ => isTime, fun _ => rfl⟩

theorem setClockTime_cases {v : ClockData} (set : setClockTime L c v = some (clock, ret)) :
    (¬ v.IsTime ∧ ret ≠ 0 ∧ clock.time = c.time) ∨
      (v.IsTime ∧ ret = 0 ∧ v.writtenTime L = some clock.time.value) := by
  obtain ⟨⟨time, copied⟩, copy, rest⟩ := Option.bind_eq_some_iff.mp set
  dsimp only at rest
  rcases copyTime_cases copy with ⟨other, rejected, rfl⟩ | ⟨isTime, rfl, stored⟩
  · rw [if_neg fun good => rejected good.2] at rest
    cases rest
    exact .inl ⟨other, rejected, rfl⟩
  · unfold ClockData.writtenTime
    cases octets : v.octets with
    | none =>
        rw [octets] at stored rest
        rw [if_neg fun good => absurd good.1 (by decide)] at rest
        cases rest
        rw [stored]
        exact .inr ⟨isTime, rfl, rfl⟩
    | some bytes =>
        rw [octets] at stored rest
        rw [if_pos ⟨rfl, rfl⟩] at rest
        obtain ⟨utc, found, rest⟩ := Option.bind_eq_some_iff.mp rest
        obtain ⟨updated, active, made⟩ := Option.bind_eq_some_iff.mp rest
        cases made
        dsimp only at stored ⊢
        rw [stored, Option.bind_some, found, time_clockUpdateDST active]
        exact .inr ⟨isTime, rfl, rfl⟩

/-- What `cosem_setValue` returns tells whether the value was one for the attribute, and only an
accepted write of the time stores another one. -/
theorem cosemSetClockValue_cases
    (set : cosemSetClockValue L c q.index q.data = some (clock, ret)) :
    (ret = 0 ↔ q.Accepted) ∧
      if q.index = 2 ∧ ret = 0 then q.data.writtenTime L = some clock.time.value
      else clock.time.value = c.time.value := by
  unfold cosemSetClockValue cosemSetClock at set
  unfold ClockSet.Accepted
  by_cases time : q.index = 2
  · rw [if_neg (by rw [time]; decide), if_pos time] at set
    rw [if_neg (by rw [time]; decide), if_pos (.inl time)]
    rcases setClockTime_cases set with ⟨other, rejected, kept⟩ | ⟨isTime, rfl, written⟩
    · rw [if_neg fun accepted => rejected accepted.2, kept]
      exact ⟨⟨fun zero => absurd zero rejected, fun isTime => absurd isTime other⟩, rfl⟩
    · rw [if_pos ⟨time, rfl⟩]
      exact ⟨⟨fun _ => isTime, fun _ => rfl⟩, written⟩
  rw [if_neg fun written : q.index = 2 ∧ ret = 0 => time written.1]
  by_cases name : q.index = 1
  · rw [if_pos name] at set ⊢
    cases set
    refine ⟨?_, rfl⟩
    split <;> simp [errorInvalidParameter, *]
  rw [if_neg name, if_neg time] at set
  rw [if_neg name]
  split_ifs at set with zone status first last deviation enabled base
  · cases set
    simp [zone]
  · cases set
    simp [status]
  · obtain ⟨⟨beginTime, copied⟩, copy, made⟩ := Option.map_eq_some_iff.mp set
    cases made
    rw [if_pos (.inr (.inl first))]
    exact ⟨isTime_iff copy, rfl⟩
  · obtain ⟨⟨endTime, copied⟩, copy, made⟩ := Option.map_eq_some_iff.mp set
    cases made
    rw [if_pos (.inr (.inr last))]
    exact ⟨isTime_iff copy, rfl⟩
  · obtain ⟨updated, found, made⟩ := Option.map_eq_some_iff.mp set
    cases made
    exact ⟨by simp [deviation], (time_clockUpdateDST found).trans rfl⟩
  · obtain ⟨updated, found, made⟩ := Option.map_eq_some_iff.mp set
    cases made
    exact ⟨by simp [enabled], (time_clockUpdateDST found).trans rfl⟩
  · cases set
    simp [base]
  · cases set
    have outside : ¬ (3 ≤ q.index ∧ q.index ≤ 9) := by
      simp only [← UInt8.toNat_inj, UInt8.le_iff_toNat_le] at *
      simp only [UInt8.reduceToNat] at *
      omega
    simp [errorInvalidParameter, outside, time, first, last]

theorem accepted_iff (set : cosemSetClockValue L c q.index q.data = some (clock, ret)) :
    ret = 0 ↔ q.Accepted := (cosemSetClockValue_cases set).1

theorem handleClockSet_postWritten
    (set : cosemSetClockValue L s.clock q.index q.data = some (clock, ret))
    (reached : q.PostWritten) :
    ∃ t, handleClockSet L s q = some (t, ret) ∧
      t.device = s.device.postWriteClock L.toTimeLibrary clock.time.value ∧
      (ret = 0 → t.clock = clock) := by
  unfold ClockSet.PostWritten at reached
  rw [← accepted_iff set] at reached
  rw [handleClockSet, set]
  cases service : q.service with
  | request multipleBlocks =>
      rw [service] at reached
      obtain ⟨granted, rfl⟩ := reached
      refine ⟨_, if_neg (not_not_intro granted), rfl, fun accepted => if_pos accepted⟩
  | withList handled =>
      rw [service] at reached
      obtain ⟨granted, rfl⟩ := reached
      exact ⟨_, if_neg (not_not_intro granted), rfl, fun _ => rfl⟩
  | withDataBlock multipleBlocks =>
      rw [service] at reached
      obtain ⟨rfl, rfl⟩ := reached
      exact ⟨_, rfl, rfl, fun _ => rfl⟩

theorem handleClockSet_cases (handled : handleClockSet L s q = some (t, error)) :
    t.device = s.device ∨ ∃ clock,
      cosemSetClockValue L s.clock q.index q.data = some (clock, error) ∧ q.PostWritten ∧
      t.device = s.device.postWriteClock L.toTimeLibrary clock.time.value ∧
      (error = 0 → t.clock = clock) := by
  unfold ClockSet.PostWritten
  rw [handleClockSet] at handled
  cases service : q.service with
  | request multipleBlocks =>
      rw [service] at handled
      dsimp only at handled
      split_ifs at handled with granted blocks
      · cases handled
        exact .inl rfl
      · obtain ⟨⟨clock, ret⟩, set, made⟩ := Option.map_eq_some_iff.mp handled
        cases made
        exact .inr ⟨clock, set, ⟨granted, eq_false_of_ne_true blocks⟩, rfl,
          fun accepted => if_pos accepted⟩
      · cases handled
        exact .inl rfl
  | withList earlier =>
      rw [service] at handled
      dsimp only at handled
      split_ifs at handled with granted skipped
      · cases handled
        exact .inl rfl
      · obtain ⟨⟨clock, ret⟩, set, made⟩ := Option.map_eq_some_iff.mp handled
        cases made
        exact .inr ⟨clock, set, ⟨granted, eq_false_of_ne_true skipped⟩, rfl, fun _ => rfl⟩
      · cases handled
        exact .inl rfl
  | withDataBlock multipleBlocks =>
      rw [service] at handled
      dsimp only at handled
      split_ifs at handled with blocks
      · cases handled
        exact .inl rfl
      · obtain ⟨⟨clock, ret⟩, set, made⟩ := Option.map_eq_some_iff.mp handled
        dsimp only at made
        split_ifs at made with rejected
        · cases made
          exact .inl rfl
        · cases made
          rw [not_not.mp rejected] at set
          exact .inr ⟨clock, set, ⟨eq_false_of_ne_true blocks, (accepted_iff set).mp rfl⟩, rfl,
            fun _ => rfl⟩

theorem showsTime_postWriteClock_iff (value : Tm) (d : ClockDevice) :
    ShowsTime L value d (d.postWriteClock L.toTimeLibrary value) ↔ value.Showable := by
  constructor
  · rintro ⟨date, time, image, is, valid, timeOfDay, same, hold, -⟩
    have digits := hold.digits
    have year := hold.year
    exact ⟨date, time, image, is, valid, timeOfDay, same, by omega, by omega⟩
  · rintro ⟨date, time, image, is, showable⟩
    have hold := hold_postWriteClock is showable L.toTimeLibrary d
    exact ⟨date, time, image, is, showable.valid, showable.timeOfDay, showable.sameDay, hold,
      systemTimeFrom_of_hold hold L.toTimeLibrary d.systemTime⟩

theorem setTo_iff (value : Tm) (d : ClockDevice) :
    d.SetTo L value ↔ (d.postWriteClock L.toTimeLibrary value).registers = d.registers ∧
      (d.postWriteClock L.toTimeLibrary value).systemTime = d.systemTime := by
  constructor
  · rintro ⟨registers, same⟩
    refine ⟨registers.symm, ?_⟩
    rw [registers] at same
    exact same
  · rintro ⟨registers, same⟩
    refine ⟨registers.symm, ?_⟩
    rw [← registers]
    exact same

end Proof

/-- The registers and the time of the system follow the writes of the time alone exactly under
these conditions. -/
theorem only_time_write_moves_iff (L : ClockLibrary) (s : ClockState) (q : ClockSet) :
    OnlyTimeWriteMoves L s q ↔ MovesRight L s q := by
  constructor
  · intro only defined reached
    obtain ⟨⟨clock, ret⟩, set⟩ := Option.isSome_iff_exists.mp defined
    obtain ⟨t, handled, device, kept⟩ := handleClockSet_postWritten set reached
    obtain ⟨accepted, stored⟩ := cosemSetClockValue_cases set
    have moved := only t ret handled
    rw [device, ← setTo_iff] at moved
    simp only [← accepted]
    split at stored
    · rename_i write
      rw [if_pos write, stored]
      rintro value ⟨⟩
      rcases moved with untouched | ⟨-, -, shows⟩
      · exact .inr untouched
      · rw [kept write.2, showsTime_postWriteClock_iff] at shows
        exact .inl shows
    · rename_i other
      rw [if_neg other, ← stored]
      exact moved.resolve_right fun ⟨time, accepted, _⟩ => other ⟨time, accepted⟩
  · intro right t error handled
    rcases handleClockSet_cases handled with untouched | ⟨clock, set, reached, device, kept⟩
    · rw [untouched]
      exact .inl ⟨rfl, rfl⟩
    · obtain ⟨accepted, stored⟩ := cosemSetClockValue_cases set
      have moves := right (Option.isSome_of_eq_some set) reached
      simp only [← accepted] at moves
      rw [device, ← setTo_iff]
      split at stored
      · rename_i write
        rw [if_pos write] at moves
        rcases moves _ stored with showable | already
        · right
          rw [kept write.2, showsTime_postWriteClock_iff]
          exact ⟨write.1, write.2, showable⟩
        · exact .inl already
      · rename_i other
        rw [if_neg other, ← stored] at moves
        exact .inl moves

/-- At one o'clock, an hour after the clock was set, the management client writes the time zone. -/
theorem time_zone_sets_clock_back :
    ¬ OnlyTimeWriteMoves ⟨utcLibrary, fun _ _ => some 1⟩
      { clock := {
          time := ⟨⟨-497, 0, 1, 12, 0, 0, -1⟩, -32768, 0, 0, 0⟩
          timeZone := 0
          status := 0
          beginTime := ⟨⟨0, 0, 1, 2, 0, 0, 0⟩, 0, 0, 0, 0⟩
          endTime := ⟨⟨0, 5, 30, 2, 0, 0, 0⟩, 0, 0, 0, 0⟩
          deviation := 60
          enabled := 1
          clockBase := 1 }
        device := {
          registers := #v[0x00, 0x00, 0x13, 4, 0x20, 0x03, 0x24]
          ds1307Str := ⟨0, 0, 13, 4, 20, 3, 24, false⟩
          systemTime := 1710939600 } }
      { service := .request false
        clientAddress := managementClient
        undefined := .none
        index := 3
        data := ⟨false, none, -210⟩
        loadSettings := id } := by
  intro only
  rcases only _ _ rfl with ⟨registers, -⟩ | ⟨time, -⟩
  · exact absurd registers (by decide +kernel)
  · exact absurd time (by decide)

end DlmsGateway
