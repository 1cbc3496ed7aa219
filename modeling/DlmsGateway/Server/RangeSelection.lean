import DlmsGateway.Lib.Intervals
import DlmsGateway.Server.ProfileRead

/-!
# The rows of a range of time

`getProfileGenericDataByRangeFromRingBuffer` looks at the slots in the order of
the file, in which `readProfileGeneric` delivers them too.  The time is in the
first four bytes of a row, as it lies in the memory of a little-endian machine.

The two times of the range have been taken from the parameters.  The rows in use
are inside the file, so that every time is read.
-/
set_option autoImplicit false
namespace DlmsGateway

/-- A number of 32 bits as it lies in memory. -/
def memoryUInt32 (bytes : List UInt8) : UInt32 := UInt32.ofNat (BigEndian.decode bytes.reverse)

def Readings.time (r : Readings) : UInt32 := memoryUInt32 r.timeCurrent.toList

/-- `transactionStartIndex`, `transactionEndIndex` and the time `last`. -/
structure RangeScan where
  start : UInt32
  finish : UInt32
  last : UInt32

namespace ProfileGeneric

/-! ## The scan -/

def slotTime (file : List UInt8) (rowSize : UInt16) (pos : Nat) : UInt32 :=
  memoryUInt32 (ByteFile.readAt file (4 + pos * rowSize.toNat) 4)

/-- The loop for `n` more slots from `pos` on, with the times between `s` and `l`. -/
def rangeLoop (s l entriesInUse : UInt32) (time : Nat → UInt32) :
    Nat → Nat → RangeScan → RangeScan
  | 0, _, e => e
  | n + 1, pos, e =>
      let t := time pos
      if s ≤ t ∧ t ≤ l then
        if e.last = 0 then
          rangeLoop s l entriesInUse time n (pos + 1)
            ⟨1 + UInt32.ofNat pos, 1 + UInt32.ofNat pos, t⟩
        else if e.last ≤ t then
          rangeLoop s l entriesInUse time n (pos + 1) { e with finish := UInt32.ofNat pos + 1, last := t }
        else
          { e with
            finish := (if e.finish = 0 then e.finish + 1 else e.finish) + (entriesInUse - 1)
            start := UInt32.ofNat pos }
      else rangeLoop s l entriesInUse time n (pos + 1) e

/-- The two indices, from those of a read that starts. -/
def getProfileGenericDataByRangeFromRingBuffer (pg : ProfileGeneric) (r : Readings)
    (s l : UInt32) : Option (UInt32 × UInt32) :=
  match pg.file with
  | some file =>
      if pg.entriesInUse = 0 then some (0, 0)
      else if 10 < pg.captureObjects.length then none
      else
        let e := rangeLoop s l pg.entriesInUse (slotTime file (rowSize r pg.captureObjects))
          pg.entriesInUse.toNat 0 ⟨0, 0, 0⟩
        some (e.start, e.finish)
  | none => some (0, 0)

/-! ## What is promised -/

/-- The captures of a profile of which the clock is the first column; the size of the rows and
the order of the times stay. -/
structure Timed (columns : List CaptureObject) (size : Nat) (rs : List Readings) : Prop where
  layouts : ∀ r ∈ rs, RowLayout columns size r
  clock : ∃ c, columns.head? = some c ∧ c.isClock ∧ c.attributeIndex = 2
  nonzero : ∀ r ∈ rs, r.time ≠ 0
  ascending : rs.Pairwise fun a b => a.time ≤ b.time

def captureTime (rs : List Readings) (k : Nat) : UInt32 := (rs[k]?.map Readings.time).getD 0

def inRange (rs : List Readings) (s l : UInt32) (k : Nat) : Bool :=
  s ≤ captureTime rs k ∧ captureTime rs k ≤ l

/-- The captures that are still stored and in the range, oldest first. -/
def selected (rs : List Readings) (entries : Nat) (s l : UInt32) : List Nat :=
  (List.range' (rs.length - entries) (min rs.length entries)).filter (inRange rs s l)

/-- The rows from the first to the last index are the slots of the selected captures. -/
def RangeRight (rs : List Readings) (entries : Nat) (s l : UInt32)
    (found : Option (UInt32 × UInt32)) : Prop :=
  ∃ start finish, found = some (start, finish) ∧
    if selected rs entries s l = [] then start = 0 ∧ finish = 0
    else List.range' start.toNat (finish.toNat + 1 - start.toNat) =
      (selected rs entries s l).map fun k => k % entries + 1

/-- No capture in the last slot is selected together with the next one, in the first slot. -/
def Uncut (rs : List Readings) (entries : Nat) (s l : UInt32) : Prop :=
  ∀ k, k ∈ selected rs entries s l → k + 1 ∈ selected rs entries s l → (k + 1) % entries ≠ 0

/-! ## Scanning an interval of slots -/

section Scan
variable {s l inUse : UInt32} {time : Nat → UInt32} {a len m : Nat}

/-- The slots of the range are those from `a` on, and their times ascend. -/
structure Block (s l : UInt32) (time : Nat → UInt32) (a len m : Nat) : Prop where
  inside : ∀ pos, pos < m → ((s ≤ time pos ∧ time pos ≤ l) ↔ a ≤ pos ∧ pos < a + len)
  nonzero : ∀ pos, a ≤ pos → pos < a + len → time pos ≠ 0
  ascending : ∀ pos, a ≤ pos → pos + 1 < a + len → time pos ≤ time (pos + 1)

/-- What has been found before the slot `pos`. -/
def scanned (time : Nat → UInt32) (a len pos : Nat) : RangeScan :=
  if pos ≤ a ∨ len = 0 then ⟨0, 0, 0⟩
  else ⟨UInt32.ofNat (a + 1), UInt32.ofNat (min pos (a + len)), time (min pos (a + len) - 1)⟩

theorem rangeLoop_step (block : Block s l time a len m) {pos : Nat} (before : pos < m) (n : Nat) :
    rangeLoop s l inUse time (n + 1) pos (scanned time a len pos) =
      rangeLoop s l inUse time n (pos + 1) (scanned time a len (pos + 1)) := by
  rw [rangeLoop]
  by_cases found : a ≤ pos ∧ pos < a + len
  · rw [if_pos ((block.inside pos before).mpr found)]
    have after : scanned time a len (pos + 1) =
        ⟨UInt32.ofNat (a + 1), UInt32.ofNat (pos + 1), time pos⟩ := by
      rw [scanned, if_neg (by omega), Nat.min_eq_left (by omega), Nat.add_sub_cancel]
    rw [after, UInt32.ofNat_add pos 1]
    by_cases first : pos = a
    · have empty : scanned time a len pos = ⟨0, 0, 0⟩ := if_pos (.inl (Nat.le_of_eq first))
      rw [empty, if_pos rfl, ← first, UInt32.ofNat_add pos 1, UInt32.add_comm]
      rfl
    · have some_ : scanned time a len pos =
          ⟨UInt32.ofNat (a + 1), UInt32.ofNat pos, time (pos - 1)⟩ := by
        rw [scanned, if_neg (by omega), Nat.min_eq_left (by omega)]
      have nonzero := block.nonzero (pos - 1) (by omega) (by omega)
      have later := block.ascending (pos - 1) (by omega) (by omega)
      rw [Nat.sub_add_cancel (by omega)] at later
      rw [some_, if_neg nonzero, if_pos later]
      rfl
  · have same : scanned time a len pos = scanned time a len (pos + 1) := by
      rw [scanned, scanned]
      by_cases none_ : len = 0
      · rw [if_pos (.inr none_), if_pos (.inr none_)]
      · by_cases early : pos < a
        · rw [if_pos (.inl (by omega)), if_pos (.inl (by omega))]
        · rw [if_neg (by omega), if_neg (by omega), Nat.min_eq_right (by omega),
            Nat.min_eq_right (by omega)]
    rw [if_neg fun both => found ((block.inside pos before).mp both), same]

theorem rangeLoop_eq_scanned (block : Block s l time a len m) (n : Nat) :
    ∀ pos, pos + n ≤ m →
      rangeLoop s l inUse time n pos (scanned time a len pos) = scanned time a len (pos + n) := by
  induction n with
  | zero => intro pos _; rfl
  | succ n ih =>
      intro pos room
      rw [rangeLoop_step block (by omega), ih (pos + 1) (by omega)]
      congr 1
      omega

theorem rangeLoop_of_block (block : Block s l time a len m) (room : len ≠ 0 → a + len ≤ m) :
    rangeLoop s l inUse time m 0 ⟨0, 0, 0⟩ =
      if len = 0 then ⟨0, 0, 0⟩
      else ⟨UInt32.ofNat (a + 1), UInt32.ofNat (a + len), time (a + len - 1)⟩ := by
  have start : scanned time a len 0 = ⟨0, 0, 0⟩ := if_pos (.inl (Nat.zero_le a))
  rw [← start, rangeLoop_eq_scanned block m 0 (by omega), Nat.zero_add, scanned]
  by_cases none_ : len = 0
  · rw [if_pos (.inr none_), if_pos none_, start]
  · have inside := room none_
    rw [if_neg (by omega), if_neg none_, Nat.min_eq_right inside]

end Scan

/-! ## The captures in the slots -/

section Slots
variable {columns : List CaptureObject} {entries size : Nat} {rs : List Readings}
  {pg : ProfileGeneric} {file : List UInt8} {s l : UInt32}

theorem rowBytes_time (timed : Timed columns size rs) (r : Readings) :
    (rowBytes r columns).1.take 4 = r.timeCurrent.toList := by
  obtain ⟨c, first, clock, second⟩ := timed.clock
  cases columns with
  | nil => cases first
  | cons d rest =>
      cases first
      have bytes : columnBytes r c = some r.timeCurrent.toList := if_pos ⟨.inl clock, second⟩
      rw [rowBytes, bytes]
      exact List.take_left' Vector.length_toList

theorem captureTime_of_getElem? {k : Nat} {r : Readings} (there : rs[k]? = some r) :
    captureTime rs k = r.time := by
  rw [captureTime, there]
  rfl

theorem captureTime_ne_zero (timed : Timed columns size rs) {k : Nat} (before : k < rs.length) :
    captureTime rs k ≠ 0 := by
  rw [captureTime_of_getElem? (List.getElem?_eq_getElem before)]
  exact timed.nonzero _ (List.getElem_mem before)

theorem captureTime_le (timed : Timed columns size rs) {i j : Nat} (order : i ≤ j)
    (before : j < rs.length) : captureTime rs i ≤ captureTime rs j := by
  rcases Nat.eq_or_lt_of_le order with rfl | less
  · exact UInt32.le_refl _
  · rw [captureTime_of_getElem? (List.getElem?_eq_getElem (Nat.lt_trans less before)),
      captureTime_of_getElem? (List.getElem?_eq_getElem before)]
    exact List.pairwise_iff_getElem.mp timed.ascending i j _ before less

theorem slotTime_of_ring (timed : Timed columns size rs)
    (ring : Ring columns entries size rs pg file) {now : Readings}
    (measured : (rowSize now columns).toNat = size) {pos : Nat}
    (used : pos < min rs.length entries) : ∃ k, LatestIn entries rs.length pos k ∧
      slotTime file (rowSize now columns) pos = captureTime rs k := by
  obtain ⟨k, r, latest, there, row⟩ := ring.slots pos used
  have written := (timed.layouts r (List.mem_of_getElem? there)).written
  have first := rowBytes_time timed r
  have four : 4 ≤ size := by
    have length := congrArg List.length first
    rw [List.length_take, Vector.length_toList] at length
    omega
  refine ⟨k, latest, ?_⟩
  rw [slotTime, measured, captureTime_of_getElem? there, Readings.time, ← first, ← row]
  rw [ByteFile.readAt, ByteFile.readAt, List.take_take, Nat.min_eq_left four]

theorem stored_of_latest (positive : 0 < entries) {pos k : Nat}
    (latest : LatestIn entries rs.length pos k) : rs.length - entries ≤ k := by
  by_contra early
  have next : k + entries ∈ {k | k < rs.length ∧ k % entries = pos} :=
    ⟨by omega, by rw [Nat.add_mod_right]; exact latest.1.2⟩
  have bound := latest.2 next
  omega

theorem eq_of_latest {pos k j : Nat} (latest : LatestIn entries rs.length pos k)
    (stored : rs.length - entries ≤ j) (before : j < rs.length) (slot : j % entries = pos) :
    k = j := by
  have bound : j ≤ k := latest.2 ⟨before, slot⟩
  have apart : (k - j) % entries = 0 := Nat.sub_mod_eq_zero_of_mod_eq (latest.1.2.trans slot.symm)
  have inside := latest.1.1
  rw [Nat.mod_eq_of_lt (by omega)] at apart
  omega

theorem mem_selected_iff {k : Nat} : k ∈ selected rs entries s l ↔
    rs.length - entries ≤ k ∧ k < rs.length ∧ s ≤ captureTime rs k ∧ captureTime rs k ≤ l := by
  have total : rs.length - entries + min rs.length entries = rs.length := by omega
  rw [selected, List.mem_filter, List.mem_range'_1, inRange, decide_eq_true_eq, total, and_assoc]

theorem selected_eq_range' (timed : Timed columns size rs) (entries : Nat) (s l : UInt32) :
    ∃ first count, selected rs entries s l = List.range' first count := by
  have convex : Intervals.Convex (inRange rs s l) (rs.length - entries)
      (min rs.length entries) := by
    intro i j k _ second third below left right
    simp only [inRange, decide_eq_true_eq] at left right ⊢
    exact ⟨UInt32.le_trans left.1 (captureTime_le timed second (by omega)),
      UInt32.le_trans (captureTime_le timed third (by omega)) right.2⟩
  obtain ⟨first, count, same, -⟩ := Intervals.filter_range'_of_convex convex
  exact ⟨first, count, same⟩

/-- The selected captures are in successive slots unless a block of slots is cut. -/
theorem slot_of_uncut (timed : Timed columns size rs) (positive : 0 < entries)
    (ring : Ring columns entries size rs pg file) {now : Readings}
    (measured : (rowSize now columns).toNat = size) (uncut : Uncut rs entries s l)
    {first count : Nat} (range : selected rs entries s l = List.range' first count) {i : Nat}
    (inside : i < count) :
    (first + i) % entries = first % entries + i ∧
      first % entries + i < min rs.length entries ∧
      slotTime file (rowSize now columns) (first % entries + i) = captureTime rs (first + i) := by
  have chosen : ∀ k, first ≤ k → k < first + count → k ∈ selected rs entries s l := by
    intro k above below
    rw [range, List.mem_range'_1]
    exact ⟨above, below⟩
  have slot : (first + i) % entries = first % entries + i := by
    apply Intervals.mod_of_uncut positive _ i inside
    intro k above below
    exact uncut k (chosen k above (by omega)) (chosen (k + 1) (by omega) below)
  obtain ⟨stored, before, -⟩ := mem_selected_iff.mp (chosen (first + i) (by omega) (by omega))
  have below := Nat.mod_lt (first + i) positive
  have small := Nat.mod_le (first + i) entries
  have used : first % entries + i < min rs.length entries := by omega
  obtain ⟨k, latest, same⟩ := slotTime_of_ring timed ring measured used
  rw [eq_of_latest latest stored before slot] at same
  exact ⟨slot, used, same⟩

theorem block_of_uncut (timed : Timed columns size rs) (positive : 0 < entries)
    (ring : Ring columns entries size rs pg file) {now : Readings}
    (measured : (rowSize now columns).toNat = size) (uncut : Uncut rs entries s l)
    {first count : Nat} (range : selected rs entries s l = List.range' first count) :
    Block s l (slotTime file (rowSize now columns)) (first % entries) count
      (min rs.length entries) := by
  have chosen : ∀ k, k ∈ selected rs entries s l ↔ first ≤ k ∧ k < first + count := by
    intro k
    rw [range, List.mem_range'_1]
  have here : ∀ pos, first % entries ≤ pos → pos < first % entries + count →
      slotTime file (rowSize now columns) pos =
        captureTime rs (first + (pos - first % entries)) := by
    intro pos above below
    have same := (slot_of_uncut timed positive ring measured uncut range
      (i := pos - first % entries) (by omega)).2.2
    rwa [Nat.add_sub_cancel' above] at same
  have listed : ∀ i, i < count → first + i < rs.length := by
    intro i inside
    exact (mem_selected_iff.mp ((chosen (first + i)).mpr ⟨by omega, by omega⟩)).2.1
  refine ⟨?_, ?_, ?_⟩
  · intro pos used
    constructor
    · intro found
      obtain ⟨k, latest, same⟩ := slotTime_of_ring timed ring measured used
      rw [same] at found
      obtain ⟨above, below⟩ := (chosen k).mp (mem_selected_iff.mpr
        ⟨stored_of_latest positive latest, latest.1.1, found⟩)
      have slot := (slot_of_uncut timed positive ring measured uncut range
        (i := k - first) (by omega)).1
      rw [Nat.add_sub_cancel' above, latest.1.2] at slot
      omega
    · rintro ⟨above, below⟩
      rw [here pos above below]
      exact (mem_selected_iff.mp ((chosen (first + (pos - first % entries))).mpr
        ⟨by omega, by omega⟩)).2.2
  · intro pos above below
    rw [here pos above below]
    exact captureTime_ne_zero timed (listed _ (by omega))
  · intro pos above below
    rw [here pos above (by omega), here (pos + 1) (by omega) below]
    exact captureTime_le timed (by omega) (listed _ (by omega))

theorem uncut_of_rows (timed : Timed columns size rs) {start rows : Nat}
    (same : List.range' start rows = (selected rs entries s l).map fun k => k % entries + 1) :
    Uncut rs entries s l := by
  obtain ⟨first, count, range⟩ := selected_eq_range' timed entries s l
  rw [range] at same
  have length := congrArg List.length same
  rw [List.length_range', List.length_map, List.length_range'] at length
  subst length
  have row : ∀ i, i < rows → start + i = (first + i) % entries + 1 := by
    intro i inside
    have there := congrArg (·[i]?) same
    simpa [List.getElem?_range' inside] using there
  intro k left right cut
  rw [range, List.mem_range'_1] at left right
  have before := row (k - first) (by omega)
  have after := row (k + 1 - first) (by omega)
  rw [Nat.add_sub_cancel' (by omega), cut] at after
  omega

end Slots

/-! ## The read of a range -/

theorem captures_frame {rs : List Readings} :
    ∀ {pg pg' : ProfileGeneric}, captures pg rs = some pg' →
      pg'.captureObjects = pg.captureObjects ∧
      (pg.profileEntries = 0 → pg.entriesInUse = 0 → pg'.entriesInUse = 0) ∧
      (pg.file.isSome → rs ≠ [] → pg.captureObjects.length ≤ 10) := by
  induction rs with
  | nil =>
      intro pg pg' captured
      cases captured
      exact ⟨rfl, fun _ zero => zero, fun _ some_ => absurd rfl some_⟩
  | cons r rs ih =>
      intro pg pg' captured
      rw [captures] at captured
      split at captured
      · rename_i next succeeded
        obtain ⟨columns, empty, -⟩ := ih captured
        rcases captureProfileGeneric_cases succeeded with ⟨absent, same⟩ | ⟨narrow, file', rfl⟩
        · rw [same] at columns empty
          refine ⟨columns, empty, fun present => ?_⟩
          rw [absent] at present
          cases present
        · refine ⟨columns, fun none_ zero => ?_, fun _ _ => narrow⟩
          apply empty none_
          rw [if_pos rfl, countEntry, none_, if_neg (not_not.mpr zero), zero]
      · cases captured

section Read
variable {size : Nat} {pg pg₀ pg' : ProfileGeneric} {r now : Readings} {rs : List Readings}
  {file : List UInt8}

theorem range_of_empty (empty : pg.entriesInUse = 0) (s l : UInt32) :
    pg.getProfileGenericDataByRangeFromRingBuffer now s l = some (0, 0) := by
  rw [getProfileGenericDataByRangeFromRingBuffer]
  split
  · rw [if_pos empty]
  · rfl

theorem selected_of_none {entries : Nat} (none_ : min rs.length entries = 0) (s l : UInt32) :
    selected rs entries s l = [] := by
  rw [selected, none_]
  rfl

theorem rangeRight_of_none {entries : Nat} {s l : UInt32}
    (none_ : selected rs entries s l = []) : RangeRight rs entries s l (some (0, 0)) :=
  ⟨0, 0, rfl, by rw [if_pos none_]; exact ⟨rfl, rfl⟩⟩

theorem rangeRight_of_uncut {columns : List CaptureObject} {entries : Nat} {s l : UInt32}
    (timed : Timed columns size rs) (positive : 0 < entries) (small : entries < 65536)
    (ring : Ring columns entries size rs pg file) (sameColumns : pg.captureObjects = columns)
    (narrow : columns.length ≤ 10) (measured : (rowSize now columns).toNat = size)
    (used : pg.entriesInUse ≠ 0) (uncut : Uncut rs entries s l) :
    RangeRight rs entries s l (pg.getProfileGenericDataByRangeFromRingBuffer now s l) := by
  obtain ⟨first, count, range⟩ := selected_eq_range' timed entries s l
  have block := block_of_uncut timed positive ring measured uncut range
  have slot : ∀ i, i < count → (first + i) % entries = first % entries + i ∧
      first % entries + i < min rs.length entries := fun i inside =>
    have here := slot_of_uncut timed positive ring measured uncut range inside
    ⟨here.1, here.2.1⟩
  have room : count ≠ 0 → first % entries + count ≤ min rs.length entries := by
    intro some_
    have last := (slot (count - 1) (by omega)).2
    omega
  have found : pg.getProfileGenericDataByRangeFromRingBuffer now s l =
      some ((rangeLoop s l pg.entriesInUse (slotTime file (rowSize now columns))
          (min rs.length entries) 0 ⟨0, 0, 0⟩).start,
        (rangeLoop s l pg.entriesInUse (slotTime file (rowSize now columns))
          (min rs.length entries) 0 ⟨0, 0, 0⟩).finish) := by
    rw [getProfileGenericDataByRangeFromRingBuffer, ring.present, ← ring.entriesInUse, sameColumns]
    dsimp only
    rw [if_neg used, if_neg (by omega)]
  rw [found, rangeLoop_of_block block room]
  by_cases none_ : count = 0
  · rw [if_pos none_]
    exact rangeRight_of_none (by rw [range, none_]; rfl)
  · have bound := room none_
    refine ⟨_, _, rfl, ?_⟩
    have some_ : selected rs entries s l ≠ [] := by
      rw [range]
      exact List.ne_nil_of_length_pos (by rw [List.length_range']; omega)
    rw [if_neg some_, if_neg none_, UInt32.toNat_ofNat_of_lt' (by rw [UInt32.size]; omega),
      UInt32.toNat_ofNat_of_lt' (by rw [UInt32.size]; omega), Nat.add_right_comm,
      Nat.add_sub_cancel_left, range, List.range'_eq_map_range, List.range'_eq_map_range,
      List.map_map]
    apply List.map_congr_left
    intro i member
    have place := (slot i (List.mem_range.mp member)).1
    simp only [Function.comp_apply, place]
    omega

/-- A range is selected rightly exactly when its rows are not cut by the end of the file. -/
theorem range_right_iff (small : pg.profileEntries < 65536) (present : pg.file = some file)
    (cleared : pg.handleProfileGenericActions 1 r = some pg₀)
    (timed : Timed pg.captureObjects size rs) (captured : captures pg₀ rs = some pg')
    (measured : (rowSize now pg.captureObjects).toNat = size) (s l : UInt32) :
    RangeRight rs pg.profileEntries.toNat s l
        (pg'.getProfileGenericDataByRangeFromRingBuffer now s l) ↔
      Uncut rs pg.profileEntries.toNat s l := by
  have frame := captures_frame captured
  have columns : pg'.captureObjects = pg.captureObjects := by
    cases cleared
    exact frame.1
  constructor
  · rintro ⟨start, finish, -, rows⟩
    by_cases none_ : selected rs pg.profileEntries.toNat s l = []
    · intro k left
      rw [none_] at left
      cases left
    · rw [if_neg none_] at rows
      exact uncut_of_rows timed rows
  · intro uncut
    by_cases zero : pg.profileEntries = 0
    · have empty : pg'.entriesInUse = 0 := by
        cases cleared
        exact frame.2.1 zero rfl
      rw [range_of_empty empty]
      exact rangeRight_of_none (selected_of_none (by rw [zero]; exact Nat.min_zero _) s l)
    · have positive : 0 < pg.profileEntries.toNat := by
        rw [Nat.pos_iff_ne_zero]
        exact fun same => zero (UInt32.toNat_inj.mp same)
      obtain ⟨file', ring⟩ := captures_ring (UInt32.lt_iff_toNat_lt.mpr positive) small present
        cleared timed.layouts captured
      by_cases none_ : rs = []
      · have empty : pg'.entriesInUse = 0 := by
          have count := ring.entriesInUse
          rw [none_, List.length_nil, Nat.zero_min] at count
          exact UInt32.toNat_inj.mp count
        rw [range_of_empty empty]
        exact rangeRight_of_none (selected_of_none (by rw [none_]; exact Nat.zero_min _) s l)
      · have length := List.length_pos_iff.mpr none_
        have used : pg'.entriesInUse ≠ 0 := by
          intro empty
          have count := ring.entriesInUse
          rw [empty, UInt32.toNat_zero] at count
          omega
        have narrow : pg.captureObjects.length ≤ 10 := by
          cases cleared
          exact frame.2.2 (by rw [present]; rfl) none_
        exact rangeRight_of_uncut timed positive (UInt32.lt_iff_toNat_lt.mp small) ring columns
          narrow measured used uncut

end Read

/-! ## A selection that is cut -/

def clockTime : CaptureObject where
  logicalName := .ofFn fun k => [0, 0, 1, 0, 0, 255].getD k 0
  isClock := true
  isUnixTime := false
  attributeIndex := 2

def atTime (t : UInt8) : Readings where
  measured := fun _ => none
  value := fun _ => none
  timeCurrent := .ofFn fun k => [t, 0, 0, 0].getD k 0
  pduBuff := .replicate 4 0

def twoTimes (entriesInUse : UInt32) (file : List UInt8) : ProfileGeneric where
  captureObjects := [clockTime]
  profileEntries := 2
  entriesInUse := entriesInUse
  file := some file

theorem timed_three : Timed [clockTime] 4 [atTime 1, atTime 2, atTime 3] where
  layouts := by
    intro r member
    simp only [List.mem_cons, List.not_mem_nil, or_false] at member
    rcases member with rfl | rfl | rfl <;> exact ⟨by decide +kernel, by decide +kernel⟩
  clock := ⟨clockTime, rfl, rfl, rfl⟩
  nonzero := by
    intro r member
    simp only [List.mem_cons, List.not_mem_nil, or_false] at member
    rcases member with rfl | rfl | rfl <;> decide +kernel
  ascending := by decide +kernel

theorem cleared_two : (twoTimes 0 []).handleProfileGenericActions 1 (atTime 0) =
    some (twoTimes 0 [0, 0, 0, 0]) := by decide +kernel

theorem captured_three : captures (twoTimes 0 [0, 0, 0, 0]) [atTime 1, atTime 2, atTime 3] =
    some (twoTimes 2 [0, 1, 0, 2, 3, 0, 0, 0, 2, 0, 0, 0]) := by decide +kernel

/-- The newest row alone is selected. -/
theorem newest_selected : RangeRight [atTime 1, atTime 2, atTime 3] 2 3 9
    ((twoTimes 2 [0, 1, 0, 2, 3, 0, 0, 0, 2, 0, 0, 0]).getProfileGenericDataByRangeFromRingBuffer
      (atTime 0) 3 9) := by
  apply (range_right_iff (by decide) rfl cleared_two timed_three captured_three
    (by decide +kernel) 3 9).mpr
  intro k left right
  rw [show selected [atTime 1, atTime 2, atTime 3] (twoTimes 0 []).profileEntries.toNat 3 9 = [2] by
    decide +kernel, List.mem_singleton] at left right
  omega

/-- The newer of two rows comes first, as it is in the first slot. -/
theorem newest_row_first :
    ¬ ∀ (pg pg₀ pg' : ProfileGeneric) (file : List UInt8) (r now : Readings)
      (rs : List Readings) (size : Nat) (s l : UInt32),
      pg.profileEntries < 65536 → pg.file = some file →
      pg.handleProfileGenericActions 1 r = some pg₀ → Timed pg.captureObjects size rs →
      captures pg₀ rs = some pg' → (rowSize now pg.captureObjects).toNat = size →
      RangeRight rs pg.profileEntries.toNat s l
        (pg'.getProfileGenericDataByRangeFromRingBuffer now s l) := by
  intro always
  obtain ⟨start, finish, found, rows⟩ := always (twoTimes 0 []) (twoTimes 0 [0, 0, 0, 0]) _ []
    (atTime 0) (atTime 0) _ 4 2 3 (by decide) rfl cleared_two timed_three captured_three
    (by decide +kernel)
  have both :
      (twoTimes 2 [0, 1, 0, 2, 3, 0, 0, 0, 2, 0, 0, 0]).getProfileGenericDataByRangeFromRingBuffer
        (atTime 0) 2 3 = some (1, 2) := by decide +kernel
  rw [both] at found
  cases found
  exact absurd rows (by decide +kernel)

end ProfileGeneric
end DlmsGateway
