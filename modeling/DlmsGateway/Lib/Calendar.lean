import Mathlib.Algebra.GroupWithZero.Nat
import Mathlib.Data.List.Basic

/-!
# Calendars of common and leap years

A calendar is given by its leap years and by the lengths of the months of both
kinds of years.  Its days are numbered from the first day of the year 0; the
day after a date has the next number, and a valid date is determined by its
number.
-/
set_option autoImplicit false

structure Calendar where
  leap : Nat → Bool
  /-- The lengths of the months of a common and of a leap year. -/
  months : Bool → List Nat
  nonempty : ∀ kind, months kind ≠ []
  positive : ∀ kind, ∀ length ∈ months kind, 0 < length

namespace Calendar

structure Date where
  year : Nat
  month : Nat
  day : Nat
deriving DecidableEq, Repr

/-- How many of the months are over after `n` days, and the days of the month that has begun. -/
def monthsOver : List Nat → Nat → Nat × Nat
  | [], n => (0, n)
  | length :: rest, n =>
      if n < length then (0, n)
      else ((monthsOver rest (n - length)).1 + 1, (monthsOver rest (n - length)).2)

theorem sum_monthsOver (lengths : List Nat) :
    ∀ n, (lengths.take (monthsOver lengths n).1).sum + (monthsOver lengths n).2 = n := by
  induction lengths with
  | nil => intro n; simp [monthsOver]
  | cons length rest ih =>
      intro n
      rw [monthsOver]
      split
      · simp
      · have later := ih (n - length)
        rw [List.take_succ_cons, List.sum_cons]
        omega

theorem monthsOver_lt (lengths : List Nat) :
    ∀ n, n < lengths.sum → (monthsOver lengths n).1 < lengths.length ∧
      (monthsOver lengths n).2 < lengths.getD (monthsOver lengths n).1 0 := by
  induction lengths with
  | nil => intro n inside; simp at inside
  | cons length rest ih =>
      intro n inside
      rw [List.sum_cons] at inside
      rw [monthsOver]
      split
      · rename_i first
        exact ⟨Nat.zero_lt_succ _, first⟩
      · obtain ⟨month, day⟩ := ih (n - length) (by omega)
        exact ⟨Nat.succ_lt_succ month, day⟩

theorem monthsOver_eq (lengths : List Nat) : ∀ month day, month < lengths.length →
    day < lengths.getD month 0 → monthsOver lengths ((lengths.take month).sum + day) = (month, day) := by
  induction lengths with
  | nil => intro month day inside; simp at inside
  | cons length rest ih =>
      intro month day inside within
      cases month with
      | zero =>
          have first : day < length := within
          rw [List.take_zero, List.sum_nil, Nat.zero_add, monthsOver, if_pos first]
      | succ month =>
          have later := ih month day (Nat.lt_of_succ_lt_succ inside) within
          rw [List.take_succ_cons, List.sum_cons, monthsOver, if_neg (by omega),
            show length + (rest.take month).sum + day - length = (rest.take month).sum + day by omega,
            later]

theorem sum_take_succ (lengths : List Nat) {month : Nat} (inside : month < lengths.length) :
    (lengths.take (month + 1)).sum = (lengths.take month).sum + lengths.getD month 0 := by
  rw [List.take_succ_eq_append_getElem inside, List.sum_append, List.sum_singleton]
  simp [List.getD, inside]

variable (c : Calendar)

def monthsOf (year : Nat) : List Nat := c.months (c.leap year)

def yearLength (year : Nat) : Nat := (c.monthsOf year).sum

def monthLength (year month : Nat) : Nat := (c.monthsOf year).getD (month - 1) 0

structure Valid (d : Date) : Prop where
  month : 1 ≤ d.month ∧ d.month ≤ (c.monthsOf d.year).length
  day : 1 ≤ d.day ∧ d.day ≤ c.monthLength d.year d.month

instance (d : Date) : Decidable (c.Valid d) :=
  decidable_of_iff
    ((1 ≤ d.month ∧ d.month ≤ (c.monthsOf d.year).length) ∧
      1 ≤ d.day ∧ d.day ≤ c.monthLength d.year d.month)
    ⟨fun parts => ⟨parts.1, parts.2⟩, fun valid => ⟨valid.month, valid.day⟩⟩

/-- The day after a date. -/
def next (d : Date) : Date :=
  if d.day < c.monthLength d.year d.month then { d with day := d.day + 1 }
  else if d.month < (c.monthsOf d.year).length then ⟨d.year, d.month + 1, 1⟩
  else ⟨d.year + 1, 1, 1⟩

/-- The days of the year before a date. -/
def dayOfYear (d : Date) : Nat := ((c.monthsOf d.year).take (d.month - 1)).sum + (d.day - 1)

/-- The date with the given number of days of its year before it. -/
def ofDayOfYear (year n : Nat) : Date :=
  ⟨year, (monthsOver (c.monthsOf year) n).1 + 1, (monthsOver (c.monthsOf year) n).2 + 1⟩

def daysBefore : Nat → Nat
  | 0 => 0
  | year + 1 => daysBefore year + c.yearLength year

def number (d : Date) : Nat := c.daysBefore d.year + c.dayOfYear d

theorem monthLength_pos {year month : Nat} (inside : month < (c.monthsOf year).length) :
    0 < c.monthLength year (month + 1) := by
  have length := c.positive (c.leap year) _ (List.getElem_mem inside)
  simpa [monthLength, List.getD, inside] using length

theorem monthLength_le {bound : Nat} (short : ∀ kind, ∀ length ∈ c.months kind, length ≤ bound)
    (year month : Nat) : c.monthLength year month ≤ bound := by
  unfold monthLength
  by_cases inside : month - 1 < (c.monthsOf year).length
  · have length := short (c.leap year) _ (List.getElem_mem inside)
    simpa [List.getD, inside] using length
  · simp [List.getD, inside]

section Number
variable {c} {d e : Date} {year n : Nat}

theorem valid_ofDayOfYear (inside : n < c.yearLength year) :
    c.Valid (c.ofDayOfYear year n) ∧ c.dayOfYear (c.ofDayOfYear year n) = n := by
  obtain ⟨month, day⟩ := monthsOver_lt _ n inside
  refine ⟨⟨⟨Nat.succ_pos _, month⟩, Nat.succ_pos _, day⟩, ?_⟩
  exact sum_monthsOver (c.monthsOf year) n

theorem ofDayOfYear_dayOfYear (valid : c.Valid d) : c.ofDayOfYear d.year (c.dayOfYear d) = d := by
  obtain ⟨⟨monthLow, monthHigh⟩, dayLow, dayHigh⟩ := valid
  have counted := monthsOver_eq (c.monthsOf d.year) (d.month - 1) (d.day - 1) (by omega)
    (by unfold monthLength at dayHigh; omega)
  rw [ofDayOfYear, dayOfYear, counted, Nat.sub_add_cancel monthLow, Nat.sub_add_cancel dayLow]

theorem dayOfYear_lt (valid : c.Valid d) : c.dayOfYear d < c.yearLength d.year := by
  obtain ⟨⟨monthLow, monthHigh⟩, dayLow, dayHigh⟩ := valid
  have inside : d.month - 1 < (c.monthsOf d.year).length := by omega
  have step := sum_take_succ _ inside
  have whole := congrArg List.sum (List.take_append_drop (d.month - 1 + 1) (c.monthsOf d.year))
  rw [List.sum_append] at whole
  unfold monthLength at dayHigh
  unfold dayOfYear yearLength
  omega

theorem daysBefore_add_le {later : Nat} (before : year < later) :
    c.daysBefore year + c.yearLength year ≤ c.daysBefore later := by
  induction later with
  | zero => omega
  | succ later ih =>
      rw [daysBefore]
      by_cases last : year = later
      · exact Nat.le_of_eq (by rw [last])
      · have := ih (by omega)
        omega

theorem valid_next (valid : c.Valid d) :
    c.Valid (c.next d) ∧ c.number (c.next d) = c.number d + 1 := by
  obtain ⟨⟨monthLow, monthHigh⟩, dayLow, dayHigh⟩ := valid
  have inside : d.month - 1 < (c.monthsOf d.year).length := by omega
  have step := sum_take_succ _ inside
  rw [next]
  by_cases sameMonth : d.day < c.monthLength d.year d.month
  · rw [if_pos sameMonth]
    refine ⟨⟨⟨monthLow, monthHigh⟩, Nat.succ_pos _, sameMonth⟩, ?_⟩
    simp only [number, dayOfYear]
    omega
  have monthEnd : d.day = (c.monthsOf d.year).getD (d.month - 1) 0 := by
    unfold monthLength at sameMonth dayHigh
    omega
  rw [if_neg sameMonth]
  by_cases sameYear : d.month < (c.monthsOf d.year).length
  · rw [if_pos sameYear]
    refine ⟨⟨⟨Nat.succ_pos _, sameYear⟩, Nat.le_refl 1, monthLength_pos c sameYear⟩, ?_⟩
    rw [Nat.sub_add_cancel monthLow] at step
    simp only [number, dayOfYear, Nat.add_sub_cancel, step]
    omega
  · rw [if_neg sameYear]
    have first := List.length_pos_iff.mpr (c.nonempty (c.leap (d.year + 1)))
    refine ⟨⟨⟨Nat.le_refl 1, first⟩, Nat.le_refl 1, monthLength_pos c first⟩, ?_⟩
    rw [Nat.sub_add_cancel monthLow, List.take_of_length_le (by omega)] at step
    simp only [number, dayOfYear, daysBefore, yearLength, step, Nat.sub_self, List.take_zero,
      List.sum_nil]
    omega

theorem daysBefore_mono {later : Nat} (upTo : year ≤ later) :
    c.daysBefore year ≤ c.daysBefore later := by
  rcases Nat.eq_or_lt_of_le upTo with rfl | before
  · exact Nat.le_refl _
  · exact Nat.le_trans (Nat.le_add_right _ _) (daysBefore_add_le before)

theorem year_lt_iff (valid : c.Valid d) : d.year < year ↔ c.number d < c.daysBefore year := by
  have inside := dayOfYear_lt valid
  unfold number
  constructor
  · intro before
    have later := daysBefore_add_le (c := c) before
    omega
  · intro before
    by_contra after
    have earlier := daysBefore_mono (c := c) (Nat.not_lt.mp after)
    omega

theorem eq_of_number_eq (validD : c.Valid d) (validE : c.Valid e)
    (same : c.number d = c.number e) : d = e := by
  have insideD := dayOfYear_lt validD
  have insideE := dayOfYear_lt validE
  unfold number at same
  have years : d.year = e.year := by
    rcases Nat.lt_trichotomy d.year e.year with before | equal | after
    · have := daysBefore_add_le (c := c) before
      omega
    · exact equal
    · have := daysBefore_add_le (c := c) after
      omega
  have days : c.dayOfYear d = c.dayOfYear e := by
    rw [years] at same
    omega
  rw [← ofDayOfYear_dayOfYear validD, ← ofDayOfYear_dayOfYear validE, years, days]

end Number

/-! ## The Gregorian and the Jalali calendar -/

def gregorian : Calendar where
  leap year := (year % 4 = 0 && year % 100 ≠ 0) || year % 400 = 0
  months kind := [31, if kind then 29 else 28, 31, 30, 31, 30, 31, 31, 30, 31, 30, 31]
  nonempty kind := by simp
  positive kind := by cases kind <;> decide

/-- In 33 years there are eight leap years. -/
def jalali : Calendar where
  leap year := [1, 5, 9, 13, 17, 22, 26, 30].contains (year % 33)
  months kind := [31, 31, 31, 31, 31, 31, 30, 30, 30, 30, 30, if kind then 30 else 29]
  nonempty kind := by simp
  positive kind := by cases kind <;> decide

theorem yearLength_gregorian (year : Nat) :
    gregorian.yearLength year =
      if (year % 4 = 0 ∧ year % 100 ≠ 0) ∨ year % 400 = 0 then 366 else 365 := by
  unfold yearLength monthsOf gregorian
  dsimp only
  by_cases leap : (year % 4 = 0 ∧ year % 100 ≠ 0) ∨ year % 400 = 0
  · simp [leap]
  · simp [leap]

/-- Counted from the year -11, every fourth year of 33 is a leap year, except the last. -/
theorem yearLength_jalali (year : Nat) :
    jalali.yearLength year =
      if (year + 11) % 33 % 4 = 0 ∧ (year + 11) % 33 ≠ 32 then 366 else 365 := by
  have lengths : ∀ r, r < 33 → (jalali.months ([1, 5, 9, 13, 17, 22, 26, 30].contains r)).sum =
      if (r + 11) % 33 % 4 = 0 ∧ (r + 11) % 33 ≠ 32 then 366 else 365 := by
    decide
  have shifted : (year + 11) % 33 = (year % 33 + 11) % 33 := by omega
  rw [shifted]
  exact lengths (year % 33) (Nat.mod_lt _ (by decide))

theorem daysBefore_gregorian (year : Nat) :
    gregorian.daysBefore year + (year + 99) / 100 =
      365 * year + (year + 3) / 4 + (year + 399) / 400 := by
  induction year with
  | zero => rfl
  | succ year ih =>
      have length := yearLength_gregorian year
      rw [daysBefore]
      split at length <;> omega

section Cycles
variable {q c e : Nat} (a : Nat)

theorem daysBefore_gregorian_parts (centuries : q ≤ 3) (groups : c ≤ 24) (years : e ≤ 3) :
    gregorian.daysBefore (400 * a + 100 * q + 4 * c + e) =
      146097 * a + 36524 * q + 1461 * c + 365 * e + (e + 3) / 4 +
        if 0 < q ∧ 4 * c + e = 0 then 1 else 0 := by
  have before := daysBefore_gregorian (400 * a + 100 * q + 4 * c + e)
  have fours : (400 * a + 100 * q + 4 * c + e + 3) / 4 = 100 * a + 25 * q + c + (e + 3) / 4 := by
    omega
  have hundreds : (400 * a + 100 * q + 4 * c + e + 99) / 100 =
      4 * a + q + if 4 * c + e = 0 then 0 else 1 := by
    split <;> omega
  have fourHundreds : (400 * a + 100 * q + 4 * c + e + 399) / 400 =
      a + if q = 0 ∧ 4 * c + e = 0 then 0 else 1 := by
    split <;> omega
  rw [fours, hundreds, fourHundreds] at before
  by_cases first : 4 * c + e = 0 <;> by_cases zero : q = 0 <;>
    simp only [first, zero, if_true, if_false, and_true, and_false, and_self, Nat.lt_irrefl,
      Nat.pos_of_ne_zero, ne_eq, not_false_iff] at before ⊢ <;> omega

theorem yearLength_gregorian_parts (centuries : q ≤ 3) (groups : c ≤ 24) (years : e ≤ 3) :
    gregorian.yearLength (400 * a + 100 * q + 4 * c + e) =
      if e = 0 ∧ (q = 0 ∨ c ≠ 0) then 366 else 365 := by
  rw [yearLength_gregorian]
  have fours : (400 * a + 100 * q + 4 * c + e) % 4 = 0 ↔ e = 0 := by omega
  have hundreds : (400 * a + 100 * q + 4 * c + e) % 100 = 0 ↔ c = 0 ∧ e = 0 := by omega
  have fourHundreds : (400 * a + 100 * q + 4 * c + e) % 400 = 0 ↔ q = 0 ∧ c = 0 ∧ e = 0 := by omega
  simp only [ne_eq, fours, hundreds, fourHundreds]
  congr 1
  simp only [eq_iff_iff]
  tauto

end Cycles

theorem daysBefore_jalali (year : Nat) :
    jalali.daysBefore year + 3 =
      365 * year + 8 * ((year + 11) / 33) + ((year + 11) % 33 + 3) / 4 := by
  induction year with
  | zero => rfl
  | succ year ih =>
      have length := yearLength_jalali year
      rw [daysBefore]
      split at length <;> omega

/-- Counted from 979 the cycle of 33 years begins with a leap year: eight groups of four years
and a common year. -/
theorem daysBefore_jalali_parts {c e : Nat} (k : Nat) (inside : 4 * c + e ≤ 32) (years : e ≤ 3) :
    jalali.daysBefore (979 + 33 * k + 4 * c + e) =
        357572 + 12053 * k + 1461 * c + 365 * e + (if e = 0 then 0 else 1) ∧
      jalali.yearLength (979 + 33 * k + 4 * c + e) = if e = 0 ∧ c ≠ 8 then 366 else 365 := by
  have before := daysBefore_jalali (979 + 33 * k + 4 * c + e)
  have rest : (979 + 33 * k + 4 * c + e + 11) % 33 = 4 * c + e := by omega
  have quotient : (979 + 33 * k + 4 * c + e + 11) / 33 = k + 30 := by omega
  rw [rest, quotient] at before
  rw [yearLength_jalali, rest]
  constructor
  · split <;> omega
  · split <;> split <;> omega

theorem number_gregorian (d : Date) :
    gregorian.number d + (d.year + 99) / 100 =
      365 * d.year + (d.year + 3) / 4 + (d.year + 399) / 400 + gregorian.dayOfYear d := by
  have before := daysBefore_gregorian d.year
  unfold number
  omega

theorem number_jalali (d : Date) :
    jalali.number d + 3 = 365 * d.year + 8 * ((d.year + 11) / 33) + ((d.year + 11) % 33 + 3) / 4 +
      jalali.dayOfYear d := by
  have before := daysBefore_jalali d.year
  unfold number
  omega

end Calendar
