import DlmsGateway.Server.ClockWrite

/-!
# A time that is written and read again

From the bytes of the request to the value of the next read.  Between them
`getDateTime` lets the C library normalise the fields, and `time_toUTC` moves a
time that comes with a deviation to UTC, which is what is kept and read.
-/
set_option autoImplicit false
namespace DlmsGateway

open DlmsServer

/-- A write of this date and time of day that gets as far as `svr_postWrite`. -/
structure ClockSet.Writes (q : ClockSet) (date : Calendar.Date) (time : TimeOfDay)
    (frame : DateTimeFrame) : Prop where
  index : q.index = 2
  reached : q.PostWritten
  octets : ∃ rest, q.data.octets = some (dateTimeOctets date time frame ++ rest)

/-- No time zone is given. -/
def DateTimeFrame.Plain (frame : DateTimeFrame) : Prop :=
  frame.deviation = 0 ∨ frame.deviation = -32768

instance (frame : DateTimeFrame) : Decidable frame.Plain := inferInstanceAs (Decidable (_ ∨ _))

/-! ## The date in the request -/

section Jalali
variable {date image : Calendar.Date} {time : TimeOfDay}

theorem dayOfYear_lt_367 {c : Calendar} (valid : c.Valid date)
    (short : ∀ year, c.yearLength year ≤ 366) : c.dayOfYear date < 367 := by
  have within := Calendar.dayOfYear_lt valid
  have length := short date.year
  omega

theorem Showable.year_bounds (s : Showable date time image) :
    1 ≤ date.year ∧ date.year < 65535 := by
  obtain ⟨valid, -, ⟨imageValid, same⟩, from_, upTo⟩ := s
  have gregorian : Calendar.gregorian.dayOfYear image < 367 := by
    apply dayOfYear_lt_367 imageValid
    intro year
    rw [Calendar.yearLength_gregorian]
    split <;> omega
  have jalali : Calendar.jalali.dayOfYear date < 367 := by
    apply dayOfYear_lt_367 valid
    intro year
    rw [Calendar.yearLength_jalali]
    split <;> omega
  have imageNumber := Calendar.number_gregorian image
  have dateNumber := Calendar.number_jalali date
  generalize Calendar.gregorian.dayOfYear image = imageDay at *
  generalize Calendar.jalali.dayOfYear date = dateDay at *
  generalize Calendar.gregorian.number image = imageCount at *
  generalize Calendar.jalali.number date = dateCount at *
  omega

theorem Showable.date_bounds (s : Showable date time image) :
    (1 ≤ date.month ∧ date.month ≤ 12) ∧ 1 ≤ date.day ∧ date.day ≤ 31 := by
  obtain ⟨⟨months, day, days⟩, -⟩ := s
  have short : date.day ≤ 31 :=
    Nat.le_trans days (Calendar.monthLength_le Calendar.jalali (by decide) _ _)
  exact ⟨months, day, short⟩

end Jalali

/-! ## What is stored -/

section Stored
variable {L : ClockLibrary} {s t : ClockState} {q : ClockSet} {error : Nat}
  {date image : Calendar.Date} {time : TimeOfDay} {frame : DateTimeFrame}

theorem set_of_handled (handled : handleClockSet L s q = some (t, error)) (reached : q.PostWritten) :
    ∃ clock, cosemSetClockValue L s.clock q.index q.data = some (clock, error) ∧
      t.device = s.device.postWriteClock L.toTimeLibrary clock.time.value ∧
      (error = 0 → t.clock = clock) := by
  cases set : cosemSetClockValue L s.clock q.index q.data with
  | none =>
      unfold ClockSet.PostWritten at reached
      rw [handleClockSet, set] at handled
      cases service : q.service <;> simp_all
  | some p =>
      obtain ⟨t', outcome, device, kept⟩ := handleClockSet_postWritten set reached
      rw [handled] at outcome
      cases outcome
      exact ⟨p.1, rfl, device, kept⟩

theorem accepted_of_writes (writes : q.Writes date time frame) : q.Accepted := by
  obtain ⟨rest, octets⟩ := writes.octets
  have isTime : q.data.IsTime := by
    unfold ClockData.IsTime
    intro bytes member
    rw [octets] at member
    cases member
    right
    simp only [dateTimeOctets, List.length_append, BigEndian.length_encode, List.length_cons,
      List.length_nil]
    omega
  have other : ¬ q.index = 1 := by rw [writes.index]; decide
  rw [ClockSet.Accepted, if_neg other, if_pos (.inl writes.index)]
  exact isTime

/-- Without a deviation the fields that `mktime` leaves are stored. -/
theorem writtenTime_of_plain (writes : q.Writes date time frame) (s : Showable date time image)
    (plain : frame.Plain) :
    q.data.writtenTime L = some (L.mktime (frame.fields date time)).1 := by
  obtain ⟨rest, octets⟩ := writes.octets
  obtain ⟨months, days⟩ := s.date_bounds
  obtain ⟨decoded, made, value, deviation⟩ :=
    getDateTime_octets (L := L.toTimeLibrary) s.year_bounds months days s.timeOfDay frame rest
  have unmoved : timeToUTC L decoded = some decoded := by
    rw [timeToUTC, if_neg]
    rw [deviation]
    rcases plain with zero | unspecified
    · rw [zero]
      decide
    · rw [unspecified]
      decide
  unfold ClockData.writtenTime
  rw [octets]
  dsimp only
  rw [made, Option.bind_some, unmoved, Option.map_some, value]

end Stored

/-- A write of a date and a time of day succeeds, and the time that it stores is the one that is
read, if the chip can show it.  That is the one written where no time zone is given and `mktime`
leaves its fields. -/
theorem written_time_read {L : ClockLibrary} {s t : ClockState} {q : ClockSet} {error : Nat}
    {date image : Calendar.Date} {time : TimeOfDay} {frame : DateTimeFrame}
    (writes : q.Writes date time frame) (showable : Showable date time image)
    (handled : handleClockSet L s q = some (t, error)) (value : GxTime) :
    error = 0 ∧ q.data.writtenTime L = some t.clock.time.value ∧
      (∀ stored storedTime storedImage, t.clock.time.value.Is stored storedTime →
        Showable stored storedTime storedImage →
          (t.device.timeNow value).1.value.Is stored storedTime) ∧
      (frame.Plain → (L.mktime (frame.fields date time)).1.Is date time →
        (t.device.timeNow value).1.value.Is date time) := by
  obtain ⟨clock, set, device, kept⟩ := set_of_handled handled writes.reached
  obtain ⟨accepted, stored⟩ := cosemSetClockValue_cases set
  have ok : error = 0 := accepted.mpr (accepted_of_writes writes)
  rw [if_pos ⟨writes.index, ok⟩] at stored
  have read : ∀ stored storedTime storedImage, clock.time.value.Is stored storedTime →
      Showable stored storedTime storedImage →
        (t.device.timeNow value).1.value.Is stored storedTime := by
    intro stored storedTime storedImage is shows
    rw [device]
    exact clock_write_read L.toTimeLibrary s.device clock.time value is shows
  rw [kept ok]
  refine ⟨ok, stored, read, fun plain leaves => ?_⟩
  rw [writtenTime_of_plain writes showable plain] at stored
  rw [Option.some.inj stored] at leaves
  exact read date time image leaves showable

/-! ## Noon of a new year's day -/

/-- A C library whose time zone is UTC and that counts the times of all years, as far as the day
stays the same. -/
def wideLibrary : TimeLibrary where
  mktime t :=
    let year := 1900 + t.tmYear
    let date := ⟨year.toNat, (1 + t.tmMon).toNat, t.tmMday.toNat⟩
    -- the days since 1970, which began 719528 days after the year 0
    let days := 365 * year + (year + 3) / 4 - (year + 99) / 100 + (year + 399) / 400 +
      Calendar.gregorian.dayOfYear date - 719528
    let minutes := t.tmHour * 60 + t.tmMin
    ({ t with tmHour := minutes / 60, tmMin := minutes % 60, tmIsdst := 0 },
      (days * 1440 + minutes) * 60 + t.tmSec)
  settimeofday new _ := new

/-- The management client writes noon of the first day of 1403. -/
def noonWrite (deviation : Int16) : ClockSet where
  service := .request false
  clientAddress := managementClient
  undefined := .none
  index := 2
  data := ⟨true, some (dateTimeOctets ⟨1403, 1, 1⟩ ⟨12, 0, 0⟩ ⟨3, 0, deviation, 0⟩), 0⟩
  loadSettings := id

/-- A clock that was never set, without daylight saving. -/
def unsetClock : ClockState where
  clock := {
    time := ⟨⟨0, 0, 0, 0, 0, 0, 0⟩, 0, 0, 0, 0⟩
    timeZone := 0
    status := 0
    beginTime := ⟨⟨0, 0, 0, 0, 0, 0, 0⟩, 0, 0, 0, 0⟩
    endTime := ⟨⟨0, 0, 0, 0, 0, 0, 0⟩, 0, 0, 0, 0⟩
    deviation := 0
    enabled := 0
    clockBase := 1 }
  device := ClockDevice.unset

def neverCompared (L : TimeLibrary) : ClockLibrary where
  toTimeLibrary := L
  timeCompare _ _ := none

theorem showable_noon : Showable ⟨1403, 1, 1⟩ ⟨12, 0, 0⟩ ⟨2024, 3, 20⟩ :=
  ⟨by decide, ⟨by decide, by decide, by decide⟩, sameDay_newYear, by decide, by decide⟩

theorem noonWrite_writes (deviation : Int16) :
    (noonWrite deviation).Writes ⟨1403, 1, 1⟩ ⟨12, 0, 0⟩ ⟨3, 0, deviation, 0⟩ := by
  have granted : (noonWrite 0).Granted := by decide
  exact ⟨rfl, ⟨granted, rfl⟩, [], congrArg some (List.append_nil _).symm⟩

theorem noon_written_read : ∃ t,
    handleClockSet (neverCompared wideLibrary) unsetClock (noonWrite (-32768)) = some (t, 0) ∧
      (t.device.timeNow unsetClock.clock.time).1.value.Is ⟨1403, 1, 1⟩ ⟨12, 0, 0⟩ :=
  ⟨_, rfl, (written_time_read (L := neverCompared wideLibrary) (s := unsetClock)
    (noonWrite_writes (-32768)) showable_noon rfl unsetClock.clock.time).2.2.2 (.inr rfl)
      ⟨rfl, rfl, rfl, rfl, rfl, rfl⟩⟩

/-- In Tehran noon is half past eight in UTC. -/
theorem noon_of_tehran_moved :
    ¬ ∀ (L : ClockLibrary) (s t : ClockState) (q : ClockSet) (error : Nat)
      (date image : Calendar.Date) (time : TimeOfDay) (frame : DateTimeFrame) (value : GxTime),
      q.Writes date time frame → Showable date time image →
        handleClockSet L s q = some (t, error) → (t.device.timeNow value).1.value.Is date time := by
  intro always
  have read := always (neverCompared wideLibrary) unsetClock _ (noonWrite (-210)) 0 ⟨1403, 1, 1⟩
    ⟨2024, 3, 20⟩ ⟨12, 0, 0⟩ ⟨3, 0, -210, 0⟩ unsetClock.clock.time (noonWrite_writes (-210))
    showable_noon rfl
  exact absurd read.hour (by decide +kernel)

end DlmsGateway
