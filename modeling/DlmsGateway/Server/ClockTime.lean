import DlmsGateway.Lib.BitFields
import DlmsGateway.Server.Calendar

/-!
# The clock chip and the time that is read from it

`svr_postWrite` puts the time of `clock1` into the seven registers of the chip,
as a Gregorian date in packed decimals, and `time_now` makes a Jalali date of
what it reads there.  Each register is read with a mask of its own; a date of
the years 2000 to 2099 and a time of day fit in all of them.

The transfers over I2C store and return the seven bytes.  What `mktime` and
`settimeofday` do is a parameter.
-/
set_option autoImplicit false
namespace DlmsGateway

open PackedDecimal

/-- `struct tm` without the fields that nothing here reads. -/
structure Tm where
  tmYear : Int
  tmMon : Int
  tmMday : Int
  tmHour : Int
  tmMin : Int
  tmSec : Int
  tmIsdst : Int
deriving DecidableEq

structure GxTime where
  value : Tm
  deviation : Int
  extraInfo : UInt8
  skip : UInt16
  status : UInt8
deriving DecidableEq

structure TimeLibrary where
  /-- What `mktime` leaves in its argument, and the time that it returns. -/
  mktime : Tm → Tm × Int
  /-- The time of the system after it is asked to take the first one in place of the second. -/
  settimeofday : Int → Int → Int

/-! ## The chip -/

structure Ds1307 where
  second : UInt8
  minute : UInt8
  hour : UInt8
  day : UInt8
  date : UInt8
  month : UInt8
  year : UInt8
  h12 : Bool
deriving DecidableEq

abbrev Registers : Type := Vector UInt8 7

def ds1307SetTime (t : Ds1307) : Registers :=
  #v[pack t.second, pack t.minute, pack t.hour ||| t.h12.toUInt8 * 0x64, t.day &&& 0x07,
    pack t.date, pack t.month, pack t.year]

def ds1307GetTime (time : Registers) : Ds1307 where
  second := unpack 0x07 time[0]
  minute := unpack 0x07 time[1]
  hour := unpack 0x03 time[2]
  day := time[3] &&& 0x07
  date := unpack 0x03 time[4]
  month := unpack 0x01 time[5]
  year := unpack 0x0F time[6]
  h12 := time[2] &&& 0x64 ≠ 0

structure ClockDevice where
  registers : Registers
  ds1307Str : Ds1307
  systemTime : Int
deriving DecidableEq

def sysTime (t : Ds1307) : Tm where
  tmYear := 100 + t.year.toNat
  tmMon := t.month.toNat - 1
  tmMday := t.date.toNat
  tmHour := t.hour.toNat
  tmMin := t.minute.toNat
  tmSec := t.second.toNat
  tmIsdst := 0

/-- The time of the system after it is set to what the registers say. -/
def systemTimeFrom (L : TimeLibrary) (time : Registers) (old : Int) : Int :=
  L.settimeofday (L.mktime (sysTime (ds1307GetTime time))).2 old

namespace ClockDevice

def setSystemDateTime (L : TimeLibrary) (d : ClockDevice) : ClockDevice :=
  { d with
    ds1307Str := ds1307GetTime d.registers
    systemTime := systemTimeFrom L d.registers d.systemTime }

/-- `DS1307_Str` when `svr_postWrite` has put a time of `clock1` into it. -/
def strOf (value : Tm) (old : Ds1307) : Ds1307 :=
  let (my, mm, md) := sh2m (1900 + value.tmYear) (1 + value.tmMon) value.tmMday
  { old with
    year := (my - 2000).toUInt8
    month := mm
    date := md
    hour := UInt8.ofInt value.tmHour
    minute := UInt8.ofInt value.tmMin
    second := UInt8.ofInt value.tmSec
    h12 := false }

/-- `svr_postWrite` for a clock, with the time of `clock1`. -/
def postWriteClock (L : TimeLibrary) (value : Tm) (d : ClockDevice) : ClockDevice :=
  let str := strOf value d.ds1307Str
  setSystemDateTime L { d with registers := ds1307SetTime str, ds1307Str := str }

/-- `time_now`, which keeps of the time of the system only whether it is daylight saving time. -/
def timeNow (value : GxTime) (d : ClockDevice) : GxTime × ClockDevice :=
  let str := ds1307GetTime d.registers
  let (jY, jM, jD) := m2Sh (str.year.toUInt16 + 2000) str.month str.date
  ({ value := { value.value with
      tmYear := jY.toNat - 1900
      tmMon := jM.toNat - 1
      tmMday := jD.toNat
      tmHour := str.hour.toNat
      tmMin := str.minute.toNat
      tmSec := str.second.toNat }
     deviation := 0
     extraInfo := 0
     skip := 0
     status := 0 },
    { d with ds1307Str := str })

end ClockDevice

/-! ## Dates and times of day -/

structure TimeOfDay where
  hour : Nat
  minute : Nat
  second : Nat
deriving DecidableEq

def TimeOfDay.Valid (time : TimeOfDay) : Prop :=
  time.hour < 24 ∧ time.minute < 60 ∧ time.second < 60

structure Tm.Is (t : Tm) (date : Calendar.Date) (time : TimeOfDay) : Prop where
  year : 1900 + t.tmYear = date.year
  month : 1 + t.tmMon = date.month
  day : t.tmMday = date.day
  hour : t.tmHour = time.hour
  minute : t.tmMin = time.minute
  second : t.tmSec = time.second

def SameDay (date image : Calendar.Date) : Prop :=
  Calendar.gregorian.Valid image ∧
    Calendar.gregorian.number image = Calendar.jalali.number date + 226895

/-- A date and a time of day in the century of the chip. -/
structure Showable (date : Calendar.Date) (time : TimeOfDay) (image : Calendar.Date) : Prop where
  valid : Calendar.jalali.Valid date
  timeOfDay : time.Valid
  sameDay : SameDay date image
  lower : 2000 ≤ image.year
  upper : image.year ≤ 2099

/-- The date and the time of day that are read from the registers. -/
structure Registers.Hold (registers : Registers) (image : Calendar.Date) (time : TimeOfDay) :
    Prop where
  digits : (ds1307GetTime registers).year.toNat ≤ 99
  year : 2000 + (ds1307GetTime registers).year.toNat = image.year
  month : (ds1307GetTime registers).month.toNat = image.month
  date : (ds1307GetTime registers).date.toNat = image.day
  hour : (ds1307GetTime registers).hour.toNat = time.hour
  minute : (ds1307GetTime registers).minute.toNat = time.minute
  second : (ds1307GetTime registers).second.toNat = time.second

/-- A Gregorian date and a time of day as `Set_System_Date_Time` gives them to `mktime`. -/
def tmOf (image : Calendar.Date) (time : TimeOfDay) : Tm :=
  ⟨image.year - 1900, image.month - 1, image.day, time.hour, time.minute, time.second, 0⟩

theorem systemTimeFrom_of_hold {registers : Registers} {image : Calendar.Date} {time : TimeOfDay}
    (hold : registers.Hold image time) (L : TimeLibrary) (old : Int) :
    systemTimeFrom L registers old = L.settimeofday (L.mktime (tmOf image time)).2 old := by
  have same : sysTime (ds1307GetTime registers) = tmOf image time := by
    obtain ⟨-, year, month, date, hour, minute, second⟩ := hold
    rw [sysTime, tmOf, month, date, hour, minute, second, ← year]
    congr 1
    omega
  rw [systemTimeFrom, same]

/-! ## What the chip keeps -/

section Chip
variable {t : Ds1307}

theorem get_set_time (year : t.year.toNat ≤ 99) (month : t.month.toNat ≤ 12)
    (date : t.date.toNat ≤ 31) (hour : t.hour.toNat ≤ 24) (minute : t.minute.toNat ≤ 60)
    (second : t.second.toNat ≤ 60) (h24 : t.h12 = false) :
    ds1307GetTime (ds1307SetTime t) =
      { t with day := t.day &&& 0x07, h12 := pack t.hour &&& 0x64 ≠ 0 } := by
  have years : unpack 0x0F (pack t.year) = t.year :=
    @unpack_pack 4 _ _ (by decide) rfl (by omega)
  have months : unpack 0x01 (pack t.month) = t.month :=
    @unpack_pack 1 _ _ (by decide) rfl (by omega)
  have dates : unpack 0x03 (pack t.date) = t.date :=
    @unpack_pack 2 _ _ (by decide) rfl (by omega)
  have hours : unpack 0x03 (pack t.hour) = t.hour :=
    @unpack_pack 2 _ _ (by decide) rfl (by omega)
  have minutes : unpack 0x07 (pack t.minute) = t.minute :=
    @unpack_pack 3 _ _ (by decide) rfl (by omega)
  have seconds : unpack 0x07 (pack t.second) = t.second :=
    @unpack_pack 3 _ _ (by decide) rfl (by omega)
  have plain : pack t.hour ||| t.h12.toUInt8 * 0x64 = pack t.hour := by
    rw [h24]
    exact UInt8.or_zero
  have weekday : t.day &&& 0x07 &&& 0x07 = t.day &&& 0x07 := by
    rw [UInt8.and_assoc, UInt8.and_self]
  rw [ds1307SetTime, plain, ds1307GetTime]
  simp only [Vector.getElem_mk, List.getElem_toArray, List.getElem_cons_zero,
    List.getElem_cons_succ, years, months, dates, hours, minutes, seconds, weekday]
  rfl

end Chip

section Write
variable {value : Tm} {date image : Calendar.Date} {time : TimeOfDay}

theorem toNat_ofInt_natCast {n : Nat} (small : n < 256) : (UInt8.ofInt n).toNat = n := by
  rw [toNat_uint8_ofInt]
  omega

theorem Showable.image_eq (s : Showable date time image) : gregorianImage date = image := by
  have late : Calendar.gregorian.number image < Calendar.gregorian.daysBefore 65536 :=
    (Calendar.year_lt_iff s.sameDay.1).mp (Nat.lt_of_le_of_lt s.upper (by decide))
  rw [daysBefore_gregorian_limit, s.sameDay.2] at late
  obtain ⟨valid, counted⟩ := image_of_early s.valid late
  exact Calendar.eq_of_number_eq valid s.sameDay.1 (counted.trans s.sameDay.2.symm)

theorem strOf_of_is (is : value.Is date time) (s : Showable date time image) (old : Ds1307) :
    let str := ClockDevice.strOf value old
    2000 + str.year.toNat = image.year ∧ str.month.toNat = image.month ∧
      str.date.toNat = image.day ∧ str.hour.toNat = time.hour ∧ str.minute.toNat = time.minute ∧
      str.second.toNat = time.second ∧ str.h12 = false := by
  have same := s.image_eq
  rw [gregorianImage, dateOf] at same
  unfold ClockDevice.strOf
  rw [is.year, is.month, is.day, is.hour, is.minute, is.second]
  generalize sh2m date.year date.month date.day = out at same ⊢
  obtain ⟨my, mm, md⟩ := out
  cases same
  obtain ⟨hours, minutes, seconds⟩ := s.timeOfDay
  have from_ := s.lower
  have upTo := s.upper
  dsimp only at from_ upTo ⊢
  refine ⟨?_, rfl, rfl, toNat_ofInt_natCast (by omega), toNat_ofInt_natCast (by omega),
    toNat_ofInt_natCast (by omega), rfl⟩
  have below : (2000 : UInt16) ≤ my := UInt16.le_iff_toNat_le.mpr from_
  rw [UInt16.toNat_toUInt8, UInt16.toNat_sub_of_le _ _ below]
  show 2000 + (my.toNat - 2000) % 256 = my.toNat
  omega

theorem hold_postWriteClock (is : value.Is date time) (s : Showable date time image)
    (L : TimeLibrary) (d : ClockDevice) :
    (d.postWriteClock L value).registers.Hold image time := by
  obtain ⟨year, month, day, hour, minute, second, h24⟩ := strOf_of_is is s d.ds1307Str
  obtain ⟨⟨⟨-, months⟩, -, days⟩, -⟩ := s.sameDay
  have short : image.day ≤ 31 :=
    Nat.le_trans days (Calendar.monthLength_le Calendar.gregorian (by decide) _ _)
  have twelve : (Calendar.gregorian.monthsOf image.year).length = 12 := rfl
  obtain ⟨hours, minutes, seconds⟩ := s.timeOfDay
  have upTo := s.upper
  have registers : (d.postWriteClock L value).registers =
      ds1307SetTime (ClockDevice.strOf value d.ds1307Str) := rfl
  have read := get_set_time (t := ClockDevice.strOf value d.ds1307Str) (by omega) (by omega)
    (by omega) (by omega) (by omega) (by omega) h24
  constructor <;> rw [registers, read]
  · dsimp only
    omega
  · exact year
  · exact month
  · exact day
  · exact hour
  · exact minute
  · exact second

end Write

/-! ## The next read -/

section Read
variable {date image : Calendar.Date} {time : TimeOfDay}

theorem timeNow_of_hold {d : ClockDevice} (hold : d.registers.Hold image time)
    (same : SameDay date image) (valid : Calendar.jalali.Valid date) (value : GxTime) :
    (d.timeNow value).1.value.Is date time := by
  obtain ⟨digits, year, month, day, hour, minute, second⟩ := hold
  dsimp only [ClockDevice.timeNow]
  generalize ds1307GetTime d.registers = str at *
  have gY : (str.year.toUInt16 + 2000).toNat = image.year := by
    rw [UInt16.toNat_add, UInt8.toNat_toUInt16, ← year]
    show (str.year.toNat + 2000) % 65536 = 2000 + str.year.toNat
    omega
  have read : dateOf (str.year.toUInt16 + 2000, str.month, str.date) = image := by
    rw [dateOf, gY, month, day]
  have back := @m2Sh_spec (str.year.toUInt16 + 2000) str.month str.date (by omega) (by omega)
    (by rw [read]; exact same.1)
  rw [read, same.2] at back
  have again := Calendar.eq_of_number_eq back.1 valid (by omega)
  generalize m2Sh (str.year.toUInt16 + 2000) str.month str.date = out at again ⊢
  obtain ⟨jY, jM, jD⟩ := out
  cases again
  constructor
  · dsimp only [dateOf]
    omega
  · dsimp only [dateOf]
    omega
  · rfl
  · exact congrArg Nat.cast hour
  · exact congrArg Nat.cast minute
  · exact congrArg Nat.cast second

end Read

/-- A Jalali date and time of day that `svr_postWrite` finds in `clock1` is what the next read
gets, if the date is one of the Gregorian years 2000 to 2099. -/
theorem clock_write_read (L : TimeLibrary) (d : ClockDevice) (written value : GxTime)
    {date image : Calendar.Date} {time : TimeOfDay} (is : written.value.Is date time)
    (showable : Showable date time image) :
    ((d.postWriteClock L written.value).timeNow value).1.value.Is date time :=
  timeNow_of_hold (hold_postWriteClock is showable L d) showable.sameDay showable.valid value

/-- A C library whose time zone is UTC and that knows the times from 1970 on. -/
def utcLibrary : TimeLibrary where
  mktime t :=
    let date := ⟨(1900 + t.tmYear).toNat, (1 + t.tmMon).toNat, t.tmMday.toNat⟩
    let days := Calendar.gregorian.number date - Calendar.gregorian.number ⟨1970, 1, 1⟩
    if t.tmYear < 70 then (t, -1)
    else ({ t with tmIsdst := 0 }, ((days * 24 + t.tmHour) * 60 + t.tmMin) * 60 + t.tmSec)
  settimeofday new _ := new

def ClockDevice.unset : ClockDevice where
  registers := #v[0, 0, 0, 0, 0, 0, 0]
  ds1307Str := ⟨0, 0, 0, 0, 0, 0, 0, false⟩
  systemTime := 0

theorem sameDay_newYear : SameDay ⟨1403, 1, 1⟩ ⟨2024, 3, 20⟩ := by
  refine ⟨by decide, ?_⟩
  have march : Calendar.gregorian.dayOfYear ⟨2024, 3, 20⟩ = 79 := by decide
  have first : Calendar.jalali.dayOfYear ⟨1403, 1, 1⟩ = 0 := by decide
  have image := Calendar.number_gregorian ⟨2024, 3, 20⟩
  have date := Calendar.number_jalali ⟨1403, 1, 1⟩
  rw [march] at image
  rw [first] at date
  generalize Calendar.gregorian.number ⟨2024, 3, 20⟩ = imageNumber at image ⊢
  generalize Calendar.jalali.number ⟨1403, 1, 1⟩ = dateNumber at date ⊢
  dsimp only at image date
  omega

end DlmsGateway
