import Mathlib.Data.List.Basic
import DlmsGateway.Lib.Calendar

/-!
# The calendar conversions

`SH2M` turns a Jalali date into a Gregorian one and `M2Sh` a Gregorian one into
a Jalali one.  Both count days, each from a day of its own, and take them apart
by cycles; in terms of the day numbers of the two calendars they add and
subtract the same constant.

The `long` of `SH2M` and the `unsigned long` of `M2Sh` are integers and natural
numbers: for years of 16 bits none of the values leaves 31 bits.
-/
set_option autoImplicit false
namespace DlmsGateway

/-! ## From the Jalali date -/

/-- `out[2]` before it is taken apart. -/
def sh2mDays (jy jm jd : Int) : Int :=
  let jy := jy + 1595
  365 * jy + jy.tdiv 33 * 8 + (jy.tmod 33 + 3).tdiv 4 + jd +
    (if jm < 7 then (jm - 1) * 31 else (jm - 7) * 30 + 186) - 355668

/-- `out[0]` and `out[2]` after the centuries of a cycle of 400 years. -/
def sh2mCentury (year days : Int) : Int × Int :=
  if 36524 < days then
    let days := days - 1
    let rest := days.tmod 36524
    (year + 100 * days.tdiv 36524, if 365 ≤ rest then rest + 1 else rest)
  else (year, days)

/-- And after the years of a century. -/
def sh2mYears (year days : Int) : Int × Int :=
  let year := year + 4 * days.tdiv 1461
  let days := days.tmod 1461
  if 365 < days then (year + (days - 1).tdiv 365, (days - 1).tmod 365) else (year, days)

/-- `out[0]` and what is left in `out[2]`, the days of the year before the date. -/
def sh2mYear (days : Int) : Int × Int :=
  let (year, days) := sh2mCentury (400 * days.tdiv 146097) (days.tmod 146097)
  sh2mYears year days

def salA (year : Int) : List Int :=
  [0, 31, if (year.tmod 4 = 0 ∧ year.tmod 100 ≠ 0) ∨ year.tmod 400 = 0 then 29 else 28, 31, 30, 31,
    30, 31, 31, 30, 31, 30, 31]

/-- The loop over `sal_a`: `out[1]` and `out[2]`. -/
def sh2mMonth : List Int → Int → Int × Int
  | [], days => (0, days)
  | length :: rest, days =>
      if length < days then
        ((sh2mMonth rest (days - length)).1 + 1, (sh2mMonth rest (days - length)).2)
      else (0, days)

def sh2mOut (jy jm jd : Int) : Int × Int × Int :=
  let (year, days) := sh2mYear (sh2mDays jy jm jd)
  (year, sh2mMonth (salA year) (days + 1))

def sh2m (jy jm jd : Int) : UInt16 × UInt8 × UInt8 :=
  let (year, month, day) := sh2mOut jy jm jd
  (UInt16.ofInt year, UInt8.ofInt month, UInt8.ofInt day)

/-! ## From the Gregorian date -/

def gDaysInMonth : List Nat := [31, 28, 31, 30, 31, 30, 31, 31, 30, 31, 30, 31]

def jDaysInMonth : List Nat := [31, 31, 31, 31, 31, 31, 30, 30, 30, 30, 30, 29]

def m2ShDays (gY : UInt16) (gM gD : UInt8) : Nat :=
  let gY := if gY < 2000 ∨ 2100 < gY then 2012 else gY
  let gM := if gM = 0 ∨ 12 < gM then 1 else gM
  let gD := if gD = 0 ∨ 31 < gD then 1 else gD
  let gy := gY.toNat - 1600
  let gm := gM.toNat - 1
  let gd := gD.toNat - 1
  let gDayNo := 365 * gy + (gy + 3) / 4 - (gy + 99) / 100 + (gy + 399) / 400
  let gDayNo := gDayNo + (gDaysInMonth.take gm).sum
  let gDayNo := if 1 < gm ∧ ((gy % 4 = 0 ∧ gy % 100 ≠ 0) ∨ gy % 400 = 0) then gDayNo + 1 else gDayNo
  gDayNo + gd

/-- `jy`, and what is left in `j_day_no`. -/
def m2ShYear (jDayNo : Nat) : Nat × Nat :=
  let jNp := jDayNo / 12053
  let jDayNo := jDayNo % 12053
  let jy := 979 + 33 * jNp + 4 * (jDayNo / 1461)
  let jDayNo := jDayNo % 1461
  if 366 ≤ jDayNo then (jy + (jDayNo - 1) / 365, (jDayNo - 1) % 365) else (jy, jDayNo)

/-- The loop over `j_days_in_month`, which leaves out the last month. -/
def m2ShMonth : List Nat → Nat → Nat × Nat
  | [], jDayNo => (0, jDayNo)
  | length :: rest, jDayNo =>
      if length ≤ jDayNo then
        ((m2ShMonth rest (jDayNo - length)).1 + 1, (m2ShMonth rest (jDayNo - length)).2)
      else (0, jDayNo)

/-- The date from `j_day_no` on. -/
def m2ShFrom (jDayNo : Nat) : UInt16 × UInt8 × UInt8 :=
  let (jy, jDayNo) := m2ShYear jDayNo
  let (i, jDayNo) := m2ShMonth (jDaysInMonth.take 11) jDayNo
  (UInt16.ofNat jy, UInt8.ofNat (i + 1), UInt8.ofNat (jDayNo + 1))

def m2Sh (gY : UInt16) (gM gD : UInt8) : UInt16 × UInt8 × UInt8 :=
  m2ShFrom (m2ShDays gY gM gD - 79)

example : m2Sh 2024 3 20 = (1403, 1, 1) ∧ sh2m 1403 1 1 = (2024, 3, 20) := by decide +kernel

open Calendar

/-! ## The Gregorian date of a day -/

/-- A century begins a day later than its days are counted from, unless it is the first. -/
theorem sh2mCentury_natCast (year : Nat) {days : Nat} (inside : days < 146097) :
    ∃ q rest : Nat, sh2mCentury year days = (↑(year + 100 * q), ↑rest) ∧ q ≤ 3 ∧ rest ≤ 36524 ∧
      (q = 0 ∧ days = rest ∨
        0 < q ∧ rest ≠ 365 ∧ days = 36524 * q + rest + if rest < 365 then 1 else 0) := by
  unfold sh2mCentury
  by_cases first : days ≤ 36524
  · exact ⟨0, days, if_neg (by omega), by omega, first, .inl ⟨rfl, rfl⟩⟩
  · rw [if_pos (by omega)]
    dsimp only
    rw [Int.tdiv_eq_ediv_of_nonneg (by omega), Int.tmod_eq_emod_of_nonneg (by omega)]
    by_cases early : (days - 1) % 36524 < 365
    · refine ⟨(days - 1) / 36524, (days - 1) % 36524, ?_, by omega, by omega, .inr ?_⟩
      · rw [if_neg (by omega), Prod.mk.injEq]
        omega
      · rw [if_pos early]
        omega
    · refine ⟨(days - 1) / 36524, (days - 1) % 36524 + 1, ?_, by omega, by omega, .inr ?_⟩
      · rw [if_pos (by omega), Prod.mk.injEq]
        omega
      · rw [if_neg (by omega)]
        omega

theorem sh2mYears_natCast (year days : Nat) :
    ∃ c e rest : Nat, sh2mYears year days = (↑(year + 4 * c + e), ↑rest) ∧ e ≤ 3 ∧
      (e = 0 ∧ rest ≤ 365 ∧ days = 1461 * c + rest ∨
        0 < e ∧ rest < 365 ∧ days = 1461 * c + 365 * e + 1 + rest) := by
  unfold sh2mYears
  dsimp only
  rw [Int.tdiv_eq_ediv_of_nonneg (by omega), Int.tmod_eq_emod_of_nonneg (by omega)]
  by_cases first : days % 1461 ≤ 365
  · refine ⟨days / 1461, 0, days % 1461, ?_, by omega, .inl ⟨rfl, first, by omega⟩⟩
    rw [if_neg (by omega), Prod.mk.injEq]
    omega
  · refine ⟨days / 1461, (days % 1461 - 1) / 365, (days % 1461 - 1) % 365, ?_, by omega, .inr ?_⟩
    · rw [if_pos (by omega), Int.tdiv_eq_ediv_of_nonneg (by omega),
        Int.tmod_eq_emod_of_nonneg (by omega), Prod.mk.injEq]
      omega
    · omega

theorem sh2mYear_spec (n : Nat) :
    ∃ year days : Nat, sh2mYear n = (↑year, ↑days) ∧ days < gregorian.yearLength year ∧
      gregorian.daysBefore year + days = n := by
  obtain ⟨q, inCentury, first, centuries, short, century⟩ :=
    sh2mCentury_natCast (400 * (n / 146097)) (Nat.mod_lt n (show 0 < 146097 by decide))
  obtain ⟨c, e, days, second, years, year⟩ :=
    sh2mYears_natCast (400 * (n / 146097) + 100 * q) inCentury
  have groups : c ≤ 24 := by omega
  have whole := Nat.div_add_mod n 146097
  refine ⟨400 * (n / 146097) + 100 * q + 4 * c + e, days, ?_, ?_⟩
  · rw [sh2mYear, Int.tdiv_eq_ediv_of_nonneg (by omega), Int.tmod_eq_emod_of_nonneg (by omega)]
    have cycle : sh2mCentury (400 * (↑n / 146097)) (↑n % 146097) =
        (↑(400 * (n / 146097) + 100 * q), ↑inCentury) := first
    rw [cycle]
    exact second
  · rw [daysBefore_gregorian_parts _ centuries groups years,
      yearLength_gregorian_parts _ centuries groups years]
    by_cases early : inCentury < 365
    · rw [if_pos early] at century
      constructor <;> split <;> omega
    · rw [if_neg early] at century
      constructor <;> split <;> omega

theorem sh2mMonth_eq (lengths : List Nat) :
    ∀ n : Nat, sh2mMonth (lengths.map Nat.cast) (n + 1) =
      (↑(monthsOver lengths n).1, ((monthsOver lengths n).2 : Int) + 1) := by
  induction lengths with
  | nil => intro n; rfl
  | cons length rest ih =>
      intro n
      rw [List.map_cons, sh2mMonth, monthsOver]
      by_cases inside : n < length
      · rw [if_neg (by omega), if_pos inside]
        rfl
      · have remaining : (n : Int) + 1 - length = ↑(n - length) + 1 := by omega
        rw [if_pos (by omega), if_neg inside, remaining, ih]
        rfl

theorem salA_natCast (year : Nat) :
    salA year = 0 :: (gregorian.monthsOf year).map Nat.cast := by
  have leap : ((year : Int).tmod 4 = 0 ∧ (year : Int).tmod 100 ≠ 0) ∨ (year : Int).tmod 400 = 0 ↔
      gregorian.leap year = true := by
    rw [Int.tmod_eq_emod_of_nonneg (by omega), Int.tmod_eq_emod_of_nonneg (by omega),
      Int.tmod_eq_emod_of_nonneg (by omega)]
    simp only [gregorian, ne_eq, Bool.or_eq_true, Bool.and_eq_true, decide_eq_true_eq]
    omega
  rw [salA, monthsOf]
  by_cases leapYear : gregorian.leap year = true
  · rw [if_pos (leap.mpr leapYear), leapYear]
    rfl
  · rw [if_neg (mt leap.mp leapYear), eq_false_of_ne_true leapYear]
    rfl

theorem sh2mOut_spec {jy jm jd : Int} {n : Nat} (days : sh2mDays jy jm jd = n) :
    ∃ date : Date, gregorian.Valid date ∧ gregorian.number date = n ∧
      sh2mOut jy jm jd = (↑date.year, ↑date.month, ↑date.day) := by
  obtain ⟨year, rest, split_, inside, whole⟩ := sh2mYear_spec n
  obtain ⟨valid, counted⟩ := valid_ofDayOfYear inside
  refine ⟨gregorian.ofDayOfYear year rest, valid, ?_, ?_⟩
  · rw [number, counted]
    exact whole
  · have month := sh2mMonth_eq (gregorian.monthsOf year) rest
    rw [sh2mOut, days, split_]
    dsimp only
    rw [salA_natCast, sh2mMonth, if_pos (by omega), Int.sub_zero, month]
    rfl

/-! ## The day of a Jalali date -/

theorem sh2mDays_eq {d : Date} (valid : jalali.Valid d) :
    sh2mDays d.year d.month d.day = ↑(jalali.number d + 226895) := by
  obtain ⟨⟨monthLow, monthHigh⟩, dayLow, -⟩ := valid
  have offset : ∀ kind, ∀ month < 13, 1 ≤ month →
      ((jalali.months kind).take (month - 1)).sum =
        if month < 7 then (month - 1) * 31 else (month - 7) * 30 + 186 := by
    decide
  have before := daysBefore_jalali d.year
  have months := offset (jalali.leap d.year) d.month (Nat.lt_succ_of_le monthHigh) monthLow
  have length : (jalali.monthsOf d.year).length = 12 := rfl
  rw [length] at monthHigh
  unfold sh2mDays number dayOfYear monthsOf
  dsimp only
  rw [Int.tdiv_eq_ediv_of_nonneg (by omega), Int.tmod_eq_emod_of_nonneg (by omega),
    Int.tdiv_eq_ediv_of_nonneg (by omega), months]
  split <;> split <;> omega

/-- The Gregorian date of a Jalali one has the number of its day, counted from the same day. -/
theorem sh2mOut_of_valid {d : Date} (valid : jalali.Valid d) :
    ∃ date : Date, gregorian.Valid date ∧ gregorian.number date = jalali.number d + 226895 ∧
      sh2mOut d.year d.month d.day = (↑date.year, ↑date.month, ↑date.day) :=
  sh2mOut_spec (sh2mDays_eq valid)

def dateOf (t : UInt16 × UInt8 × UInt8) : Date := ⟨t.1.toNat, t.2.1.toNat, t.2.2.toNat⟩

/-- The result of `SH2M`. -/
def gregorianImage (d : Date) : Date := dateOf (sh2m d.year d.month d.day)

/-- The images of the dates of a Jalali year fit in the 16 bits of the result. -/
def YearFits (year : Nat) : Prop :=
  ∀ d : Date, jalali.Valid d → d.year = year → (sh2mOut d.year d.month d.day).1 ≤ 65535

theorem toNat_uint8_ofInt (n : Int) : (UInt8.ofInt n).toNat = (n % 256).toNat := by
  rw [UInt8.ofInt, UInt8.toNat_ofNat']
  show (n % 256).toNat % 256 = (n % 256).toNat
  omega

theorem toNat_uint16_ofInt (n : Int) : (UInt16.ofInt n).toNat = (n % 65536).toNat := by
  rw [UInt16.ofInt, UInt16.toNat_ofNat']
  show (n % 65536).toNat % 65536 = (n % 65536).toNat
  omega

theorem gregorianImage_of_fits {d date : Date} (valid : gregorian.Valid date)
    (out : sh2mOut d.year d.month d.day = (↑date.year, ↑date.month, ↑date.day))
    (fits : date.year ≤ 65535) : gregorianImage d = date := by
  obtain ⟨⟨-, monthHigh⟩, -, dayHigh⟩ := valid
  have length : (gregorian.monthsOf date.year).length = 12 := rfl
  have short : date.day ≤ 31 := Nat.le_trans dayHigh (monthLength_le gregorian (by decide) _ _)
  rw [length] at monthHigh
  have year : (UInt16.ofInt date.year).toNat = date.year := by
    rw [toNat_uint16_ofInt]
    omega
  have month : (UInt8.ofInt date.month).toNat = date.month := by
    rw [toNat_uint8_ofInt]
    omega
  have day : (UInt8.ofInt date.day).toNat = date.day := by
    rw [toNat_uint8_ofInt]
    omega
  rw [gregorianImage, sh2m, out]
  simp only [dateOf, year, month, day]

theorem daysBefore_gregorian_limit : gregorian.daysBefore 65536 = 23936532 := by
  have before := daysBefore_gregorian 65536
  generalize gregorian.daysBefore 65536 = days at before ⊢
  omega

/-- The last 290 days before the Gregorian year 65536 are in this Jalali year. -/
theorem daysBefore_jalali_limit : jalali.daysBefore 64914 + 226895 + 290 = 23936532 := by
  have before := daysBefore_jalali 64914
  generalize jalali.daysBefore 64914 = days at before ⊢
  omega

theorem year_fits_iff {date : Date} (valid : gregorian.Valid date) :
    date.year ≤ 65535 ↔ gregorian.number date < 23936532 := by
  rw [← daysBefore_gregorian_limit, ← year_lt_iff valid]
  exact Nat.lt_succ_iff.symm

theorem image_of_early {d : Date} (valid : jalali.Valid d)
    (early : jalali.number d + 226895 < 23936532) :
    gregorian.Valid (gregorianImage d) ∧
      gregorian.number (gregorianImage d) = jalali.number d + 226895 := by
  obtain ⟨date, validImage, counted, out⟩ := sh2mOut_of_valid valid
  rw [← counted, ← year_fits_iff validImage] at early
  rw [gregorianImage_of_fits validImage out early]
  exact ⟨validImage, counted⟩

theorem yearFits_iff (year : Nat) : YearFits year ↔ year ≤ 64913 := by
  have limit := daysBefore_jalali_limit
  constructor
  · intro fits
    by_contra late
    have inside : 364 < jalali.yearLength year := by
      rw [yearLength_jalali]
      split <;> decide
    obtain ⟨valid, position⟩ := valid_ofDayOfYear inside
    obtain ⟨date, validImage, counted, out⟩ := sh2mOut_of_valid valid
    have small := fits _ valid rfl
    rw [out] at small
    have early := (year_fits_iff validImage).mp (Int.ofNat_le.mp small)
    have started : jalali.daysBefore 64914 ≤ jalali.daysBefore year :=
      daysBefore_mono (Nat.lt_of_not_le late)
    have same : jalali.number (jalali.ofDayOfYear year 364) = jalali.daysBefore year + 364 := by
      rw [number, position]
      rfl
    omega
  · rintro upTo d valid rfl
    have early : jalali.number d < jalali.daysBefore 64914 :=
      (year_lt_iff valid).mp (Nat.lt_succ_of_le upTo)
    obtain ⟨date, validImage, counted, out⟩ := sh2mOut_of_valid valid
    have small := (year_fits_iff validImage).mpr (by omega)
    rw [out]
    exact Int.ofNat_le.mpr small

theorem gregorianImage_next {d : Date} (fits : YearFits d.year) (valid : jalali.Valid d) :
    gregorian.Valid (gregorianImage d) ∧ gregorian.Valid (gregorianImage (jalali.next d)) ∧
      gregorianImage (jalali.next d) = gregorian.next (gregorianImage d) := by
  have limit := daysBefore_jalali_limit
  have early : jalali.number d < jalali.daysBefore 64914 :=
    (year_lt_iff valid).mp (Nat.lt_succ_of_le ((yearFits_iff _).mp fits))
  obtain ⟨validNext, succ⟩ := valid_next valid
  obtain ⟨validImage, counted⟩ := image_of_early valid (by omega)
  obtain ⟨validLater, countedLater⟩ := image_of_early validNext (by omega)
  obtain ⟨validAfter, after⟩ := valid_next validImage
  exact ⟨validImage, validLater, eq_of_number_eq validLater validAfter (by omega)⟩

/-! ## The Jalali date of a day -/

theorem m2ShYear_spec (n : Nat) :
    (m2ShYear n).2 < jalali.yearLength (m2ShYear n).1 ∧
      jalali.daysBefore (m2ShYear n).1 + (m2ShYear n).2 = n + 357572 := by
  have whole := Nat.div_add_mod n 12053
  have inside := Nat.mod_lt n (show 0 < 12053 by decide)
  unfold m2ShYear
  dsimp only
  by_cases first : n % 12053 % 1461 < 366
  · rw [if_neg (by omega)]
    obtain ⟨before, length⟩ :=
      daysBefore_jalali_parts (c := n % 12053 / 1461) (e := 0) (n / 12053) (by omega) (by omega)
    rw [Nat.add_zero] at before length
    dsimp only
    rw [before, length]
    constructor
    · split <;> omega
    · rw [if_pos rfl]
      omega
  · rw [if_pos (by omega)]
    obtain ⟨before, length⟩ :=
      daysBefore_jalali_parts (c := n % 12053 / 1461) (e := (n % 12053 % 1461 - 1) / 365)
        (n / 12053) (by omega) (by omega)
    dsimp only
    rw [before, length]
    constructor
    · split <;> omega
    · rw [if_neg (by omega)]
      omega

theorem m2ShMonth_eq (last : Nat) (lengths : List Nat) :
    ∀ n, n < (lengths ++ [last]).sum →
      m2ShMonth lengths n = monthsOver (lengths ++ [last]) n := by
  induction lengths with
  | nil =>
      intro n inside
      rw [List.nil_append, List.sum_singleton] at inside
      rw [m2ShMonth, List.nil_append, monthsOver, if_pos inside]
  | cons length rest ih =>
      intro n inside
      rw [List.cons_append, List.sum_cons] at inside
      rw [List.cons_append, m2ShMonth, monthsOver]
      by_cases first : n < length
      · rw [if_neg (by omega), if_pos first]
      · rw [if_pos (by omega), if_neg first, ih (n - length) (by omega)]

section Back
variable {gY : UInt16} {gM gD : UInt8}

theorem m2ShDays_eq (from_ : 2000 ≤ gY.toNat) (upTo : gY.toNat ≤ 2100)
    (valid : gregorian.Valid (dateOf (gY, gM, gD))) :
    m2ShDays gY gM gD + 584388 = gregorian.number (dateOf (gY, gM, gD)) := by
  obtain ⟨⟨monthLow, monthHigh⟩, dayLow, dayHigh⟩ := valid
  have short : gD.toNat ≤ 31 := Nat.le_trans dayHigh (monthLength_le gregorian (by decide) _ _)
  have offset : ∀ kind, ∀ month < 13, 1 ≤ month →
      (gDaysInMonth.take (month - 1)).sum + (if 1 < month - 1 ∧ kind = true then 1 else 0) =
        ((gregorian.months kind).take (month - 1)).sum := by
    decide
  have months := offset (gregorian.leap gY.toNat) gM.toNat (Nat.lt_succ_of_le monthHigh) monthLow
  have leap : (((gY.toNat - 1600) % 4 = 0 ∧ (gY.toNat - 1600) % 100 ≠ 0) ∨
      (gY.toNat - 1600) % 400 = 0) ↔ gregorian.leap gY.toNat = true := by
    simp only [gregorian, ne_eq, Bool.or_eq_true, Bool.and_eq_true, decide_eq_true_eq]
    omega
  have before := daysBefore_gregorian gY.toNat
  have year : ¬ (gY < 2000 ∨ 2100 < gY) := by
    rw [UInt16.lt_iff_toNat_lt, UInt16.lt_iff_toNat_lt]
    show ¬ (gY.toNat < 2000 ∨ 2100 < gY.toNat)
    omega
  have month : ¬ (gM = 0 ∨ 12 < gM) := by
    rw [UInt8.lt_iff_toNat_lt, ← UInt8.toNat_inj]
    show ¬ (gM.toNat = 0 ∨ 12 < gM.toNat)
    exact not_or.mpr ⟨Nat.ne_of_gt monthLow, Nat.not_lt.mpr monthHigh⟩
  have day : ¬ (gD = 0 ∨ 31 < gD) := by
    rw [UInt8.lt_iff_toNat_lt, ← UInt8.toNat_inj]
    show ¬ (gD.toNat = 0 ∨ 31 < gD.toNat)
    exact not_or.mpr ⟨Nat.ne_of_gt dayLow, Nat.not_lt.mpr short⟩
  unfold m2ShDays number dayOfYear monthsOf
  dsimp only [dateOf] at *
  rw [if_neg year, if_neg month, if_neg day, ← months]
  simp only [leap]
  split <;> omega

/-- The last month of a leap year has a day more than in the table, which the loop does not read. -/
theorem m2ShMonth_jalali {year rest : Nat} (inside : rest < jalali.yearLength year) :
    m2ShMonth (jDaysInMonth.take 11) rest = monthsOver (jalali.monthsOf year) rest :=
  m2ShMonth_eq (if jalali.leap year then 30 else 29) (jDaysInMonth.take 11) rest inside

theorem dateOf_m2ShFrom {n year rest : Nat} (split_ : m2ShYear n = (year, rest))
    (small : year < 65536) (inside : rest < jalali.yearLength year) :
    dateOf (m2ShFrom n) = jalali.ofDayOfYear year rest := by
  obtain ⟨⟨⟨-, monthHigh⟩, -, dayHigh⟩, -⟩ := valid_ofDayOfYear inside
  have short : (jalali.ofDayOfYear year rest).day ≤ 31 :=
    Nat.le_trans dayHigh (monthLength_le jalali (by decide) _ _)
  have length : (jalali.monthsOf year).length = 12 := rfl
  rw [ofDayOfYear] at monthHigh short ⊢
  generalize counted : monthsOver (jalali.monthsOf year) rest = position at monthHigh short ⊢
  have month := (m2ShMonth_jalali inside).trans counted
  rw [m2ShFrom, split_]
  dsimp only at monthHigh short ⊢
  rw [month, dateOf]
  simp only [UInt16.toNat_ofNat', UInt8.toNat_ofNat', Date.mk.injEq]
  omega

theorem m2Sh_spec (from_ : 2000 ≤ gY.toNat) (upTo : gY.toNat ≤ 2100)
    (valid : gregorian.Valid (dateOf (gY, gM, gD))) :
    jalali.Valid (dateOf (m2Sh gY gM gD)) ∧
      jalali.number (dateOf (m2Sh gY gM gD)) + 226895 = gregorian.number (dateOf (gY, gM, gD)) := by
  have days := m2ShDays_eq from_ upTo valid
  have early : 365 * 2000 ≤ gregorian.number (dateOf (gY, gM, gD)) := by
    have before := daysBefore_gregorian gY.toNat
    simp only [number, dateOf]
    omega
  have late : gregorian.number (dateOf (gY, gM, gD)) < gregorian.daysBefore 2101 :=
    (year_lt_iff valid).mp (Nat.lt_succ_of_le upTo)
  have limit : gregorian.daysBefore 2101 = 767375 := by
    have before := daysBefore_gregorian 2101
    generalize gregorian.daysBefore 2101 = days at before ⊢
    omega
  obtain ⟨inside, whole⟩ := m2ShYear_spec (m2ShDays gY gM gD - 79)
  generalize split_ : m2ShYear (m2ShDays gY gM gD - 79) = counted at inside whole
  obtain ⟨year, rest⟩ := counted
  dsimp only at inside whole
  have before := daysBefore_jalali year
  obtain ⟨validDate, counted⟩ := valid_ofDayOfYear inside
  rw [m2Sh, dateOf_m2ShFrom split_ (by omega) inside, number, counted]
  refine ⟨validDate, ?_⟩
  show jalali.daysBefore year + rest + 226895 = _
  omega

end Back

/-- The day after a Jalali date has the Gregorian date after that of the date, in every year
whose dates fit, and the date of a Gregorian day from 2000 to 2100 comes back. -/
theorem calendar_conversions :
    (∀ d : Date, 1 ≤ d.year → YearFits d.year → jalali.Valid d →
      gregorian.Valid (gregorianImage d) ∧ gregorian.Valid (gregorianImage (jalali.next d)) ∧
        gregorianImage (jalali.next d) = gregorian.next (gregorianImage d)) ∧
    (∀ (gY : UInt16) (gM gD : UInt8), 2000 ≤ gY.toNat → gY.toNat ≤ 2100 →
      gregorian.Valid (dateOf (gY, gM, gD)) →
        gregorianImage (dateOf (m2Sh gY gM gD)) = dateOf (gY, gM, gD)) := by
  constructor
  · intro d _ fits valid
    exact gregorianImage_next fits valid
  · intro gY gM gD from_ upTo valid
    obtain ⟨validBack, counted⟩ := m2Sh_spec from_ upTo valid
    have late : gregorian.number (dateOf (gY, gM, gD)) < gregorian.daysBefore 65536 :=
      (year_lt_iff valid).mp (Nat.lt_of_lt_of_le (Nat.lt_succ_of_le upTo) (by decide))
    rw [daysBefore_gregorian_limit] at late
    obtain ⟨validImage, again⟩ := image_of_early validBack (by omega)
    exact eq_of_number_eq validImage valid (by omega)

end DlmsGateway
