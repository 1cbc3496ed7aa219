import DlmsGateway.Server.Action
import DlmsGateway.Server.ByteBuffer
import DlmsGateway.Server.ClockTime

/-!
# The date-time of a request

`dlms_changeType2` makes a time of an octet string: twelve bytes, of which
`getDateTime` takes each field that is out of its bounds for one that is not
given.  At the end it calls `mktime` on the fields, which may change them: the
C library counts them in its own calendar.
-/
set_option autoImplicit false
namespace DlmsGateway

open ByteBuffer DlmsServer

/-! ## Decoding -/

/-! The bits of `DATETIME_SKIPS` and of `DLMS_DATE_TIME_EXTRA_INFO`. -/

def datetimeSkipsYear : UInt16 := 0x1
def datetimeSkipsMonth : UInt16 := 0x2
def datetimeSkipsDay : UInt16 := 0x4
def datetimeSkipsDayofweek : UInt16 := 0x8
def datetimeSkipsHour : UInt16 := 0x10
def datetimeSkipsMinute : UInt16 := 0x20
def datetimeSkipsSecond : UInt16 := 0x40
def datetimeSkipsMs : UInt16 := 0x80
def datetimeSkipsStatus : UInt16 := 0x200
def extraInfoDstBegin : UInt8 := 0x1
def extraInfoDstEnd : UInt8 := 0x2
def extraInfoLastDay : UInt8 := 0x4
def extraInfoLastDay2 : UInt8 := 0x8

def decodeYear (year : UInt16) : Int × UInt16 :=
  if year < 1 ∨ year = 0xFFFF then (1, datetimeSkipsYear) else (year.toNat - 1900, 0)

def decodeMonth (ch : UInt8) : Int × UInt16 × UInt8 :=
  if ch = 0xFE then (0, 0, extraInfoDstBegin)
  else if ch = 0xFD then (0, 0, extraInfoDstEnd)
  else if ch < 1 ∨ 12 < ch then (0, datetimeSkipsMonth, 0)
  else (ch.toNat - 1, 0, 0)

def decodeDay (ch : UInt8) : Int × UInt16 × UInt8 :=
  if ch = 0xFD then (1, 0, extraInfoLastDay2)
  else if ch = 0xFE then (1, 0, extraInfoLastDay)
  else if ch = 0 ∨ 31 < ch then (1, datetimeSkipsDay, 0)
  else (ch.toNat, 0, 0)

/-- An hour, a minute or a second. -/
def decodePart (limit : UInt8) (skip : UInt16) (ch : UInt8) : Int × UInt16 :=
  if limit < ch then (0, skip) else (ch.toNat, 0)

section Decode
variable (L : TimeLibrary)

/-- None where there are fewer than twelve bytes. -/
def getDateTime (bytes : List UInt8) : Option GxTime := do
  if bytes.length < 12 then none
  let (year, bytes) ← bbGetUInt16 bytes
  let (month, bytes) ← bbGetUInt8 bytes
  let (day, bytes) ← bbGetUInt8 bytes
  let (wday, bytes) ← bbGetUInt8 bytes
  let (hour, bytes) ← bbGetUInt8 bytes
  let (minute, bytes) ← bbGetUInt8 bytes
  let (second, bytes) ← bbGetUInt8 bytes
  let (ms, bytes) ← bbGetUInt8 bytes
  let (deviation, bytes) ← bbGetUInt16 bytes
  let (ch, _) ← bbGetUInt8 bytes
  let status := if ch = 0xFF then 0 else ch
  let (tmYear, noYear) := decodeYear year
  let (tmMon, noMonth, monthInfo) := decodeMonth month
  let (tmMday, noDay, dayInfo) := decodeDay day
  let (tmHour, noHour) := decodePart 24 datetimeSkipsHour hour
  let (tmMin, noMinute) := decodePart 60 datetimeSkipsMinute minute
  let (tmSec, noSecond) := decodePart 60 datetimeSkipsSecond second
  return {
    value := (L.mktime ⟨tmYear, tmMon, tmMday, tmHour, tmMin, tmSec, (status &&& 0x80).toNat⟩).1
    deviation := deviation.toInt16.toInt
    extraInfo := monthInfo ||| dayInfo
    skip := (if ms = 0xFF then datetimeSkipsMs else 0) |||
      (if ch = 0xFF then datetimeSkipsStatus else 0) ||| noYear |||
      (if 7 < wday then datetimeSkipsDayofweek else 0) ||| noMonth ||| noDay ||| noHour |||
      noMinute ||| noSecond
    status }

/-- `dlms_changeType2` for a date-time: the error, or the time, which an empty string does not
give. -/
def dlmsChangeType2 (bytes : List UInt8) : Except Nat (Option GxTime) :=
  if bytes = [] then .ok none
  else
    match getDateTime L bytes with
    | none => .error errorOutOfMemory
    | some t => .ok (some t)

end Decode

/-! ## A date and a time of day in twelve bytes -/

/-- What stands around the date and the time of day. -/
structure DateTimeFrame where
  wday : UInt8
  hundredths : UInt8
  deviation : Int16
  status : UInt8

def dateTimeOctets (date : Calendar.Date) (time : TimeOfDay) (frame : DateTimeFrame) : List UInt8 :=
  BigEndian.encode 2 date.year ++
    [UInt8.ofNat date.month, UInt8.ofNat date.day, frame.wday, UInt8.ofNat time.hour,
      UInt8.ofNat time.minute, UInt8.ofNat time.second, frame.hundredths] ++
    BigEndian.encode 2 frame.deviation.toUInt16.toNat ++ [frame.status]

/-- The fields that `getDateTime` gives to `mktime`. -/
def DateTimeFrame.fields (frame : DateTimeFrame) (date : Calendar.Date) (time : TimeOfDay) : Tm :=
  { tmOf date time with
    tmIsdst := ((if frame.status = 0xFF then 0 else frame.status) &&& 0x80).toNat }

section Octets
variable {L : TimeLibrary} {date : Calendar.Date} {time : TimeOfDay}

theorem decodeYear_of_valid {year : Nat} (positive : 1 ≤ year) (small : year < 65535) :
    decodeYear (UInt16.ofNat year) = ((year : Int) - 1900, 0) := by
  have value : (UInt16.ofNat year).toNat = year := by
    rw [UInt16.toNat_ofNat', Nat.mod_eq_of_lt (by omega)]
  have given : ¬ (UInt16.ofNat year < 1 ∨ UInt16.ofNat year = 0xFFFF) := by
    rw [UInt16.lt_iff_toNat_lt, ← UInt16.toNat_inj, value]
    show ¬ (year < 1 ∨ year = 65535)
    omega
  rw [decodeYear, if_neg given, value]

theorem toNat_ofNat_small {n : Nat} (small : n < 256) : (UInt8.ofNat n).toNat = n := by
  rw [UInt8.toNat_ofNat', Nat.mod_eq_of_lt small]

theorem decodeMonth_of_valid {month : Nat} (positive : 1 ≤ month) (small : month ≤ 12) :
    decodeMonth (UInt8.ofNat month) = ((month : Int) - 1, 0, 0) := by
  have value := toNat_ofNat_small (n := month) (by omega)
  have given : ¬ UInt8.ofNat month = 0xFE ∧ ¬ UInt8.ofNat month = 0xFD ∧
      ¬ (UInt8.ofNat month < 1 ∨ 12 < UInt8.ofNat month) := by
    rw [UInt8.lt_iff_toNat_lt, UInt8.lt_iff_toNat_lt, ← UInt8.toNat_inj, ← UInt8.toNat_inj, value]
    show ¬ month = 254 ∧ ¬ month = 253 ∧ ¬ (month < 1 ∨ 12 < month)
    omega
  rw [decodeMonth, if_neg given.1, if_neg given.2.1, if_neg given.2.2, value]

theorem decodeDay_of_valid {day : Nat} (positive : 1 ≤ day) (small : day ≤ 31) :
    decodeDay (UInt8.ofNat day) = ((day : Int), 0, 0) := by
  have value := toNat_ofNat_small (n := day) (by omega)
  have given : ¬ UInt8.ofNat day = 0xFD ∧ ¬ UInt8.ofNat day = 0xFE ∧
      ¬ (UInt8.ofNat day = 0 ∨ 31 < UInt8.ofNat day) := by
    rw [UInt8.lt_iff_toNat_lt, ← UInt8.toNat_inj, ← UInt8.toNat_inj, ← UInt8.toNat_inj, value]
    show ¬ day = 253 ∧ ¬ day = 254 ∧ ¬ (day = 0 ∨ 31 < day)
    omega
  rw [decodeDay, if_neg given.1, if_neg given.2.1, if_neg given.2.2, value]

theorem decodePart_of_le {limit : UInt8} {n : Nat} (skip : UInt16) (inside : n ≤ limit.toNat) :
    decodePart limit skip (UInt8.ofNat n) = ((n : Int), 0) := by
  have byte := limit.toNat_lt
  have value := toNat_ofNat_small (n := n) (by omega)
  have given : ¬ limit < UInt8.ofNat n := by
    rw [UInt8.lt_iff_toNat_lt, value]
    omega
  rw [decodePart, if_neg given, value]

theorem bbGetUInt16_encode {n : Nat} (fits : n < 65536) (rest : List UInt8) :
    bbGetUInt16 (BigEndian.encode 2 n ++ rest) = some (UInt16.ofNat n, rest) := by
  rw [bbGetUInt16, BigEndian.read_encode fits]
  rfl

theorem exists_twelve {bytes : List UInt8} (long : 12 ≤ bytes.length) :
    ∃ a b c d e f g h i j k l rest,
      bytes = a :: b :: c :: d :: e :: f :: g :: h :: i :: j :: k :: l :: rest := by
  match bytes, long with
  | a :: b :: c :: d :: e :: f :: g :: h :: i :: j :: k :: l :: rest, _ =>
      exact ⟨a, b, c, d, e, f, g, h, i, j, k, l, rest, rfl⟩

theorem getDateTime_of_long (L : TimeLibrary) {bytes : List UInt8} (long : 12 ≤ bytes.length) :
    ∃ t, getDateTime L bytes = some t := by
  obtain ⟨a, b, c, d, e, f, g, h, i, j, k, l, rest, rfl⟩ := exists_twelve long
  rw [getDateTime, if_neg (by omega)]
  exact ⟨_, rfl⟩

/-- The fields of a date and a time of day reach `mktime` as they are. -/
theorem getDateTime_octets (year : 1 ≤ date.year ∧ date.year < 65535)
    (month : 1 ≤ date.month ∧ date.month ≤ 12) (day : 1 ≤ date.day ∧ date.day ≤ 31)
    (valid : time.Valid) (frame : DateTimeFrame) (rest : List UInt8) :
    ∃ t, getDateTime L (dateTimeOctets date time frame ++ rest) = some t ∧
      t.value = (L.mktime (frame.fields date time)).1 ∧ t.deviation = frame.deviation.toInt := by
  obtain ⟨hours, minutes, seconds⟩ := valid
  have long : ¬ (dateTimeOctets date time frame ++ rest).length < 12 := by
    simp only [dateTimeOctets, List.length_append, BigEndian.length_encode, List.length_cons,
      List.length_nil]
    omega
  have deviation : UInt16.ofNat frame.deviation.toUInt16.toNat = frame.deviation.toUInt16 :=
    UInt16.ofNat_toNat
  have hour := @decodePart_of_le 24 time.hour datetimeSkipsHour (by
    show time.hour ≤ 24
    omega)
  have minute := @decodePart_of_le 60 time.minute datetimeSkipsMinute (by
    show time.minute ≤ 60
    omega)
  have second := @decodePart_of_le 60 time.second datetimeSkipsSecond (by
    show time.second ≤ 60
    omega)
  rw [getDateTime, if_neg long]
  simp only [dateTimeOctets, List.append_assoc, List.cons_append, List.nil_append,
    bbGetUInt16_encode (show date.year < 65536 by omega),
    bbGetUInt16_encode frame.deviation.toUInt16.toNat_lt, bbGetUInt8_cons, deviation,
    Option.bind_eq_bind, Option.bind_some, Option.pure_def]
  refine ⟨_, rfl, ?_, rfl⟩
  rw [decodeYear_of_valid year.1 year.2, decodeMonth_of_valid month.1 month.2,
    decodeDay_of_valid day.1 day.2, hour, minute, second]
  rfl

end Octets
end DlmsGateway
