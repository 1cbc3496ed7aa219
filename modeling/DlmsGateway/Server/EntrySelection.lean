import DlmsGateway.Server.ProfileRead

/-!
# The rows of a range of entries

Selector 2 gives the first and the last entry as two integers.  The loop over
the rows ends when its counter, a number of 32 bits, equals the last entry; it
is the loop on a file that was opened.  Round by round it is `rowPositions`, which
goes round as often as `appendRows` takes it to.
-/
set_option autoImplicit false
namespace DlmsGateway.ProfileGeneric

def entryBounds (parameters : Except Int (Int × Int)) : Except Int (UInt32 × UInt32) :=
  parameters.map fun (first, last) => (UInt32.ofInt first, UInt32.ofInt last)

/-- The values of `pos` in the loop over the rows, if it ends within so many rounds. -/
def rowPositions (last : UInt32) : Nat → UInt32 → Option (List UInt32)
  | 0, pos => if pos = last then some [] else none
  | rounds + 1, pos =>
      if pos = last then some [] else (rowPositions last rounds (pos + 1)).map (pos :: ·)

def selectedPositions (start last : UInt32) (rounds : Nat) : Option (List UInt32) :=
  if last = 0 then some [] else rowPositions last rounds (start - 1)

/-- The loop ends after no more rows than are stored, reads stored rows, and the count is that
of the rows. -/
def RowsRight (entriesInUse start last : UInt32) : Prop :=
  ∃ rounds positions, selectedPositions start last rounds = some positions ∧
    positions.length ≤ entriesInUse.toNat ∧ (∀ pos ∈ positions, pos < entriesInUse) ∧
    (arrayCount start last).toNat = positions.length

def InBounds (entriesInUse start last : UInt32) : Prop :=
  (start = 0 ∧ last = 0) ∨ (1 ≤ start ∧ start ≤ last ∧ last ≤ entriesInUse)

def SelectsInside (pg : ProfileGeneric) (parameters : Except Int (Int × Int)) : Prop :=
  let (_, start, last) := pg.selectRows (.byEntry (entryBounds parameters))
  InBounds pg.entriesInUse start last ∧ RowsRight pg.entriesInUse start last

/-- The entries are in order and from one on, or none is selected, and the count is one of 16
bits. -/
def EntriesOrdered (entriesInUse first last : UInt32) : Prop :=
  entriesInUse < first ∨ (first = 0 ∧ (last = 0 ∨ entriesInUse = 0)) ∨
    (1 ≤ first ∧ first ≤ last ∧ min last.toNat entriesInUse.toNat - first.toNat < 65535)

def ParametersOrdered (pg : ProfileGeneric) : Except Int (Int × Int) → Prop
  | .error _ => True
  | .ok (first, last) => EntriesOrdered pg.entriesInUse (UInt32.ofInt first) (UInt32.ofInt last)

/-! ## The loop -/

section Loop
variable {last start entriesInUse : UInt32}

theorem eq_of_distance {pos : UInt32} (distance : (last - pos).toNat = 0) : pos = last := by
  have low := last.toNat_lt
  have high := pos.toNat_lt
  rw [UInt32.toNat_sub] at distance
  exact UInt32.toNat_inj.mp (by omega)

theorem distance_succ {pos : UInt32} (apart : pos ≠ last) :
    (last - pos).toNat = (last - (pos + 1)).toNat + 1 := by
  have low := last.toNat_lt
  have high := pos.toNat_lt
  have other : pos.toNat ≠ last.toNat := fun same => apart (UInt32.toNat_inj.mp same)
  rw [UInt32.toNat_sub, UInt32.toNat_sub, UInt32.toNat_add, UInt32.toNat_one]
  omega

theorem rowPositions_distance (rounds : Nat) :
    ∀ pos : UInt32, (last - pos).toNat = rounds →
      rowPositions last rounds pos =
        some ((List.range rounds).map fun i => pos + UInt32.ofNat i) := by
  induction rounds with
  | zero =>
      intro pos distance
      rw [rowPositions, if_pos (eq_of_distance distance)]
      rfl
  | succ rounds ih =>
      intro pos distance
      have apart : pos ≠ last := by
        rintro rfl
        rw [UInt32.sub_self, UInt32.toNat_zero] at distance
        omega
      have next : (last - (pos + 1)).toNat = rounds := by
        rw [distance_succ apart] at distance
        omega
      rw [rowPositions, if_neg apart, ih (pos + 1) next, Option.map_some, List.range_succ_eq_map,
        List.map_cons, List.map_map]
      have first : pos + UInt32.ofNat 0 = pos := UInt32.add_zero pos
      have later : ∀ i, pos + 1 + UInt32.ofNat i = pos + UInt32.ofNat (i + 1) := by
        intro i
        rw [UInt32.ofNat_add, UInt32.add_comm (UInt32.ofNat i), ← UInt32.add_assoc]
        rfl
      rw [first]
      exact congrArg (fun rest => some (pos :: rest)) (List.map_congr_left fun i _ => later i)

theorem rowPositions_eq_some {positions : List UInt32} (rounds : Nat) :
    ∀ pos : UInt32, rowPositions last rounds pos = some positions →
      rowPositions last (last - pos).toNat pos = some positions := by
  induction rounds generalizing positions with
  | zero =>
      intro pos ended
      rw [rowPositions] at ended
      split at ended
      · rename_i same
        rw [same, UInt32.sub_self, UInt32.toNat_zero, rowPositions, if_pos rfl]
        exact ended
      · cases ended
  | succ rounds ih =>
      intro pos ended
      rw [rowPositions] at ended
      split at ended
      · rename_i same
        rw [same, UInt32.sub_self, UInt32.toNat_zero, rowPositions, if_pos rfl]
        exact ended
      · rename_i apart
        obtain ⟨rest, endedRest, rfl⟩ := Option.map_eq_some_iff.mp ended
        rw [distance_succ apart, rowPositions, if_neg apart, ih (pos + 1) endedRest,
          Option.map_some]

theorem rowPositions_iff {pos : UInt32} {positions : List UInt32} :
    (∃ rounds, rowPositions last rounds pos = some positions) ↔
      positions = (List.range (last - pos).toNat).map fun i => pos + UInt32.ofNat i := by
  have ends := rowPositions_distance (last - pos).toNat pos rfl
  constructor
  · rintro ⟨rounds, ended⟩
    rw [rowPositions_eq_some rounds pos ended] at ends
    exact Option.some.inj ends
  · rintro rfl
    exact ⟨_, ends⟩

/-- The loop goes round as often as `appendRows` reads a row. -/
theorem length_selectedPositions {rounds : Nat} {positions : List UInt32} (some_ : last ≠ 0)
    (ended : selectedPositions start last rounds = some positions) :
    positions.length = rowRounds start last := by
  rw [selectedPositions, if_neg some_] at ended
  rw [rowPositions_iff.mp ⟨rounds, ended⟩, List.length_map, List.length_range, rowRounds]

theorem rowRounds_of_order (one : 1 ≤ start) (order : start ≤ last) :
    rowRounds start last = last.toNat + 1 - start.toNat := by
  rw [UInt32.le_iff_toNat_le] at one order
  rw [UInt32.toNat_one] at one
  have below := last.toNat_lt
  rw [rowRounds, UInt32.toNat_sub, UInt32.toNat_sub, UInt32.toNat_one]
  omega

theorem arrayCount_of_order (one : 1 ≤ start) (order : start ≤ last) :
    (arrayCount start last).toNat = rowRounds start last % 65536 := by
  rw [rowRounds_of_order one order]
  rw [UInt32.le_iff_toNat_le] at one order
  rw [UInt32.toNat_one] at one
  have below := last.toNat_lt
  have some_ : last ≠ 0 := by
    rintro rfl
    rw [UInt32.toNat_zero] at order
    omega
  rw [arrayCount, if_neg some_, UInt32.toNat_toUInt16, UInt32.toNat_add, UInt32.toNat_sub,
    UInt32.toNat_one]
  omega

theorem rowsRight_iff (bounds : InBounds entriesInUse start last) :
    RowsRight entriesInUse start last ↔ last = 0 ∨ last.toNat - start.toNat < 65535 := by
  rcases bounds with ⟨-, rfl⟩ | ⟨one, order, inUse⟩
  · refine iff_of_true ⟨0, [], if_pos rfl, Nat.zero_le _, nofun, ?_⟩ (.inl rfl)
    rw [arrayCount, if_pos rfl]
    rfl
  · have taken := rowRounds_of_order one order
    have count := arrayCount_of_order one order
    rw [UInt32.le_iff_toNat_le] at one order inUse
    rw [UInt32.toNat_one] at one
    have some_ : last ≠ 0 := by
      rintro rfl
      rw [UInt32.toNat_zero] at order
      omega
    rw [or_iff_right some_]
    constructor
    · rintro ⟨rounds, positions, ended, -, -, same⟩
      rw [count, length_selectedPositions some_ ended, taken] at same
      omega
    · intro few
      obtain ⟨rounds, ended⟩ := rowPositions_iff.mpr (rfl : _ = (List.range
        (rowRounds start last)).map fun i => start - 1 + UInt32.ofNat i)
      refine ⟨rounds, _, (if_neg some_).trans ended, ?_, ?_, ?_⟩
      · rw [List.length_map, List.length_range, taken]
        omega
      · intro pos member
        obtain ⟨i, inside, rfl⟩ := List.mem_map.mp member
        rw [List.mem_range, taken] at inside
        rw [UInt32.lt_iff_toNat_lt, UInt32.toNat_add, UInt32.toNat_sub, UInt32.toNat_one,
          UInt32.toNat_ofNat']
        omega
      · rw [count, List.length_map, List.length_range, taken]
        omega

end Loop

/-! ## The selection -/

theorem inBounds_iff {entriesInUse first last : UInt32} :
    InBounds entriesInUse first last ↔ (first.toNat = 0 ∧ last.toNat = 0) ∨
      (1 ≤ first.toNat ∧ first.toNat ≤ last.toNat ∧ last.toNat ≤ entriesInUse.toNat) := by
  rw [InBounds, UInt32.le_iff_toNat_le, UInt32.le_iff_toNat_le, UInt32.le_iff_toNat_le,
    ← UInt32.toNat_inj, ← UInt32.toNat_inj, UInt32.toNat_zero, UInt32.toNat_one]

theorem entriesOrdered_iff {entriesInUse first last : UInt32} :
    EntriesOrdered entriesInUse first last ↔ entriesInUse.toNat < first.toNat ∨
      (first.toNat = 0 ∧ (last.toNat = 0 ∨ entriesInUse.toNat = 0)) ∨
        (1 ≤ first.toNat ∧ first.toNat ≤ last.toNat ∧
          min last.toNat entriesInUse.toNat - first.toNat < 65535) := by
  rw [EntriesOrdered, UInt32.lt_iff_toNat_lt, UInt32.le_iff_toNat_le, UInt32.le_iff_toNat_le,
    ← UInt32.toNat_inj, ← UInt32.toNat_inj, ← UInt32.toNat_inj, UInt32.toNat_zero,
    UInt32.toNat_one]

theorem toNat_bounded (entriesInUse last : UInt32) :
    (if entriesInUse < last then entriesInUse else last).toNat =
      min last.toNat entriesInUse.toNat := by
  split
  · rename_i beyond
    rw [UInt32.lt_iff_toNat_lt] at beyond
    omega
  · rename_i within
    rw [UInt32.lt_iff_toNat_lt] at within
    omega

/-- Rows inside the stored ones are selected exactly by parameters in order. -/
theorem selectsInside_iff (pg : ProfileGeneric) (parameters : Except Int (Int × Int)) :
    pg.SelectsInside parameters ↔ pg.ParametersOrdered parameters := by
  have nothing : InBounds pg.entriesInUse 0 0 ∧ RowsRight pg.entriesInUse 0 0 :=
    have bounds : InBounds pg.entriesInUse 0 0 := .inl ⟨rfl, rfl⟩
    ⟨bounds, (rowsRight_iff bounds).mpr (.inl rfl)⟩
  cases parameters with
  | error code => exact iff_of_true nothing trivial
  | ok pair =>
      obtain ⟨a, b⟩ := pair
      generalize first_ : UInt32.ofInt a = first
      generalize last_ : UInt32.ofInt b = last
      have selects : pg.selectRows (.byEntry (entryBounds (.ok (a, b)))) =
          if pg.entriesInUse < first then (0, 0, 0)
          else (0, first, if pg.entriesInUse < last then pg.entriesInUse else last) := by
        rw [← first_, ← last_]
        rfl
      rw [SelectsInside, selects, ParametersOrdered, first_, last_]
      by_cases beyond : pg.entriesInUse < first
      · rw [if_pos beyond]
        exact iff_of_true nothing (.inl beyond)
      rw [if_neg beyond, entriesOrdered_iff]
      dsimp only
      generalize bounded : (if pg.entriesInUse < last then pg.entriesInUse else last) = finish
      have finish_ := toNat_bounded pg.entriesInUse last
      rw [bounded] at finish_
      rw [UInt32.lt_iff_toNat_lt] at beyond
      have rows : InBounds pg.entriesInUse first finish →
          (RowsRight pg.entriesInUse first finish ↔
            finish.toNat = 0 ∨ finish.toNat - first.toNat < 65535) := by
        intro bounds
        rw [rowsRight_iff bounds, ← UInt32.toNat_inj, UInt32.toNat_zero]
      rw [and_congr_right rows, inBounds_iff]
      omega

/-- From the second entry to the first: the indices stay in that order. -/
theorem reversed_entries_selected :
    ¬ ∀ (pg : ProfileGeneric) (parameters : Except Int (Int × Int)),
      pg.SelectsInside parameters := by
  intro always
  rcases (always (twoEntries 2 []) (.ok (2, 1))).1 with ⟨zero, -⟩ | ⟨-, order, -⟩
  · exact absurd zero (by decide)
  · exact absurd order (by decide)

end DlmsGateway.ProfileGeneric
