import DlmsGateway.Lib.Bytes
import DlmsGateway.Server.ByteBuffer
import Mathlib.Algebra.GroupWithZero.Nat

/-!
# A row in a PDU of bounded size

The loop of `readProfileGeneric` over the columns of one row, into a buffer that
cannot grow.  `bb_setUInt8` looks at the capacity; `bb_setUInt16` and the copy of
a value do not, and a write behind the buffer has no defined result.
`var_getDateTime2` looks at no result of its writes.

The rows of the selection are inside the file, which is a function here.  A row
has at most ten columns, so that their number takes one byte.
-/
set_option autoImplicit false
namespace DlmsGateway.BoundedRow

open ByteStore

/-- What `var_getDateTime2` writes of a time, with the month down to the hundredths as `fields`. -/
structure DateTime where
  year : UInt8 × UInt8
  fields : Vector UInt8 7
  deviation : UInt8 × UInt8
  status : UInt8

def DateTime.bytes (t : DateTime) : List UInt8 :=
  [t.year.1, t.year.2] ++ t.fields.toList ++ [t.deviation.1, t.deviation.2] ++ [t.status]

/-- A column, with what `time_initUnix` and the conversion to meter time make of its bytes, or
with its entry of `dataTypes` and `columnSizes`. -/
inductive Column where
  | time (dateTime : List UInt8 → DateTime)
  | data (type size : UInt8)

namespace Column

def stored : Column → Nat
  | time _ => 4
  | data _ size => size.toNat

def written : Column → Nat
  | time _ => 14
  | data _ size => 1 + size.toNat

end Column

structure Layout where
  columns : List Column
  few : columns.length ≤ 10

def Layout.dataSize (l : Layout) : Nat := (l.columns.map Column.stored).sum

/-- With the two bytes of the structure. -/
def Layout.width (l : Layout) : Nat := 2 + (l.columns.map Column.written).sum

/-! ## The buffer -/

section Buffer
variable (capacity : Nat)

def bbSetUInt8 (bytes : List UInt8) (item : UInt8) : List UInt8 × Bool :=
  if bytes.length < capacity then (bytes ++ [item], true) else (bytes, false)

/-- None for a write behind the buffer. -/
def bbSetUInt16 (bytes : List UInt8) (item : UInt8 × UInt8) : Option (List UInt8) :=
  if bytes.length + 2 ≤ capacity then some (bytes ++ [item.1, item.2]) else none

def cosemSetStructure (count : UInt8) (bytes : List UInt8) : List UInt8 × Bool :=
  let (bytes, ok) := bbSetUInt8 capacity bytes 2
  if ok then bbSetUInt8 capacity bytes count else (bytes, false)

def varGetDateTime2 (value : DateTime) (bytes : List UInt8) : Option (List UInt8) := do
  let bytes ← bbSetUInt16 capacity bytes value.year
  let bytes := value.fields.toList.foldl (fun b item => (bbSetUInt8 capacity b item).1) bytes
  let bytes ← bbSetUInt16 capacity bytes value.deviation
  return (bbSetUInt8 capacity bytes value.status).1

def cosemSetDateTimeAsOctetString (value : DateTime) (bytes : List UInt8) :
    Option (List UInt8 × Bool) :=
  let (bytes, ok) := bbSetUInt8 capacity bytes 9
  if ok then
    let (bytes, ok) := bbSetUInt8 capacity bytes 12
    if ok then (varGetDateTime2 capacity value bytes).map (·, true) else some (bytes, false)
  else some (bytes, false)

/-! ## The columns -/

variable (file : Nat → UInt8)

def appendColumn (c : Column) (pos : Nat) (bytes : List UInt8) : Option (List UInt8 × Bool) :=
  match c with
  | .time dateTime =>
      cosemSetDateTimeAsOctetString capacity (dateTime (window file pos 4)) bytes
  | .data type size =>
      if bytes.length + 1 + size.toNat ≤ capacity then
        some (bytes ++ type :: window file pos size.toNat, true)
      else none

/-- The PDU and the position in the file behind the columns, or behind the one that failed. -/
def appendColumns : List Column → Nat → List UInt8 → Option (List UInt8 × Nat × Bool)
  | [], pos, bytes => some (bytes, pos, true)
  | c :: columns, pos, bytes =>
      match appendColumn capacity file c pos bytes with
      | none => none
      | some (bytes, false) => some (bytes, pos + c.stored, false)
      | some (bytes, true) => appendColumns columns (pos + c.stored) bytes

end Buffer

/-! ## A whole row -/

section Row
variable (file : Nat → UInt8)

def columnValue (c : Column) (pos : Nat) : List UInt8 :=
  match c with
  | .time dateTime => 9 :: 12 :: (dateTime (window file pos 4)).bytes
  | .data type size => type :: window file pos size.toNat

def columnValues : List Column → Nat → List UInt8
  | [], _ => []
  | c :: columns, pos => columnValue file c pos ++ columnValues columns (pos + c.stored)

theorem length_columnValue (c : Column) (pos : Nat) :
    (columnValue file c pos).length = c.written := by
  cases c with
  | time dateTime => simp [columnValue, Column.written, DateTime.bytes]
  | data type size => simp [columnValue, Column.written, Nat.add_comm]

theorem length_columnValues (columns : List Column) :
    ∀ pos, (columnValues file columns pos).length = (columns.map Column.written).sum := by
  induction columns with
  | nil => intro pos; rfl
  | cons c columns ih =>
      intro pos
      rw [columnValues, List.length_append, length_columnValue, ih, List.map_cons, List.sum_cons]

end Row

/-! ## Which columns fit -/

/-- How many bytes of a column are written with `room` bytes left, and whether it succeeds. -/
def reach (c : Column) (room : Nat) : Option (Nat × Bool) :=
  match c with
  | .time _ =>
      if 13 ≤ room then some (min room 14, true) else if room ≤ 1 then some (room, false) else none
  | .data _ size => if 1 + size.toNat ≤ room then some (1 + size.toNat, true) else none

/-- The first column that does not fit is a time without room for its two leading bytes; a time
that lacks one byte is taken for complete, and the next one then has no room. -/
def Stops : List Column → Nat → Prop
  | [], _ => False
  | .time _ :: columns, room => room ≤ 1 ∨ (13 ≤ room ∧ Stops columns (room - 14))
  | .data _ size :: columns, room => 1 + size.toNat ≤ room ∧ Stops columns (room - (1 + size.toNat))

section Append
variable {capacity : Nat} {file : Nat → UInt8} {bytes : List UInt8}

/-- Bytes whose results are not looked at are written as far as there is room. -/
theorem foldl_bbSetUInt8 (items : List UInt8) : ∀ bytes : List UInt8,
    items.foldl (fun b item => (bbSetUInt8 capacity b item).1) bytes =
      bytes ++ items.take (capacity - bytes.length) := by
  induction items with
  | nil => intro bytes; simp
  | cons item items ih =>
      intro bytes
      rw [List.foldl_cons, ih, bbSetUInt8]
      by_cases room : bytes.length < capacity
      · obtain ⟨more, left⟩ := Nat.exists_eq_add_of_lt room
        have rest : capacity - (bytes ++ [item]).length = more := by
          rw [List.length_append, List.length_singleton]
          omega
        rw [if_pos room, rest, show capacity - bytes.length = more + 1 by omega,
          List.take_succ_cons, List.append_assoc, List.singleton_append]
      · have none_ : capacity - bytes.length = 0 := by omega
        rw [if_neg room, none_, List.take_zero, List.take_zero]

theorem varGetDateTime2_eq (value : DateTime) (inside : bytes.length ≤ capacity) :
    varGetDateTime2 capacity value bytes =
      if 11 ≤ capacity - bytes.length then
        some (bytes ++ value.bytes.take (capacity - bytes.length))
      else none := by
  have fields : value.fields.toList.length = 7 := Vector.length_toList
  rw [varGetDateTime2, bbSetUInt16]
  by_cases year : bytes.length + 2 ≤ capacity
  · rw [if_pos year]
    simp only [Option.bind_eq_bind, Option.bind_some]
    rw [foldl_bbSetUInt8, bbSetUInt16]
    simp only [List.length_append, List.length_cons, List.length_nil, List.length_take, fields]
    by_cases room : 11 ≤ capacity - bytes.length
    · have whole : value.fields.toList.take (capacity - (bytes.length + (0 + 1 + 1))) =
          value.fields.toList := List.take_of_length_le (by omega)
      have front : ([value.year.1, value.year.2] ++ value.fields.toList ++
          [value.deviation.1, value.deviation.2]).length = 11 := by simp
      have length : (bytes ++ [value.year.1, value.year.2] ++ value.fields.toList ++
          [value.deviation.1, value.deviation.2]).length = bytes.length + 11 := by simp
      rw [if_pos (by omega), if_pos room, whole, Option.bind_some, bbSetUInt8, length,
        DateTime.bytes]
      by_cases status : bytes.length + 11 < capacity
      · rw [if_pos status, List.take_of_length_le (by rw [List.length_append, front]; simp; omega)]
        simp only [List.append_assoc]
        rfl
      · rw [if_neg status, show capacity - bytes.length = 11 by omega,
          List.take_append_of_le_length (Nat.le_of_eq front.symm),
          List.take_of_length_le (Nat.le_of_eq front)]
        simp only [List.append_assoc]
        rfl
    · rw [if_neg (by omega), if_neg room]
      rfl
  · rw [if_neg year, if_neg (by omega)]
    rfl

/-- The two bytes in front are written where there is room, and nothing behind them else. -/
theorem cosemSetDateTimeAsOctetString_eq (value : DateTime) (inside : bytes.length ≤ capacity) :
    cosemSetDateTimeAsOctetString capacity value bytes =
      if capacity - bytes.length ≤ 1 then
        some (bytes ++ [9].take (capacity - bytes.length), false)
      else if 13 ≤ capacity - bytes.length then
        some (bytes ++ [9, 12] ++ value.bytes.take (capacity - bytes.length - 2), true)
      else none := by
  rw [cosemSetDateTimeAsOctetString, bbSetUInt8]
  by_cases first : bytes.length < capacity
  · rw [if_pos first]
    dsimp only
    rw [if_pos rfl, bbSetUInt8, List.length_append, List.length_singleton]
    by_cases second : bytes.length + 1 < capacity
    · have long : (bytes ++ [9] ++ [12]).length = bytes.length + 2 := by simp
      have left : capacity - (bytes.length + 2) = capacity - bytes.length - 2 := by omega
      rw [if_pos second]
      dsimp only
      rw [if_pos rfl, varGetDateTime2_eq value (by rw [long]; omega), long, left,
        if_neg (show ¬ capacity - bytes.length ≤ 1 by omega)]
      by_cases room : 13 ≤ capacity - bytes.length
      · rw [if_pos (show 11 ≤ capacity - bytes.length - 2 by omega), if_pos room, Option.map_some,
          List.append_assoc bytes]
        rfl
      · rw [if_neg (show ¬ 11 ≤ capacity - bytes.length - 2 by omega), if_neg room]
        rfl
    · have one : capacity - bytes.length = 1 := by omega
      rw [if_neg second, one]
      rfl
  · have none_ : capacity - bytes.length = 0 := by omega
    rw [if_neg first, none_]
    simp

theorem appendColumn_eq (c : Column) (pos : Nat) (inside : bytes.length ≤ capacity) :
    appendColumn capacity file c pos bytes =
      (reach c (capacity - bytes.length)).map fun (n, ok) =>
        (bytes ++ (columnValue file c pos).take n, ok) := by
  cases c with
  | data type size =>
      rw [appendColumn, reach]
      by_cases room : bytes.length + 1 + size.toNat ≤ capacity
      · have whole := length_columnValue file (.data type size) pos
        have all : (columnValue file (.data type size) pos).take (1 + size.toNat) =
            columnValue file (.data type size) pos := List.take_of_length_le (Nat.le_of_eq whole)
        rw [if_pos room, if_pos (by omega), Option.map_some]
        dsimp only
        rw [all]
        rfl
      · rw [if_neg room, if_neg (by omega)]
        rfl
  | time dateTime =>
      rw [appendColumn, reach, columnValue, cosemSetDateTimeAsOctetString_eq _ inside]
      generalize dateTime (window file pos 4) = value
      generalize capacity - bytes.length = room
      by_cases few : room ≤ 1
      · have front : ([9] : List UInt8).take room = (9 :: 12 :: value.bytes).take room := by
          rcases Nat.le_one_iff_eq_zero_or_eq_one.mp few with rfl | rfl <;> rfl
        rw [if_pos few, if_neg (show ¬ 13 ≤ room by omega), if_pos few, Option.map_some, front]
      · rw [if_neg few]
        by_cases enough : 13 ≤ room
        · obtain ⟨more, rfl⟩ := Nat.exists_eq_add_of_le' (show 2 ≤ room by omega)
          have all : (9 :: 12 :: value.bytes).length = 14 := by simp [DateTime.bytes]
          have same : (9 :: 12 :: value.bytes).take (min (more + 2) 14) =
              9 :: 12 :: value.bytes.take more := by
            rw [← all, ← List.take_eq_take_min]
            rfl
          rw [if_pos enough, if_pos enough, Option.map_some]
          dsimp only
          rw [same, Nat.add_sub_cancel, List.append_assoc]
          rfl
        · rw [if_neg enough, if_neg enough, if_neg few]
          rfl

theorem appendColumn_of_reach {c : Column} (pos : Nat) (inside : bytes.length ≤ capacity)
    {n : Nat} {ok : Bool} (reached : reach c (capacity - bytes.length) = some (n, ok)) :
    appendColumn capacity file c pos bytes = some (bytes ++ (columnValue file c pos).take n, ok) := by
  rw [appendColumn_eq c pos inside, reached, Option.map_some]

theorem le_of_reach {c : Column} {room n : Nat} {ok : Bool} (reached : reach c room = some (n, ok)) :
    n ≤ room ∧ n ≤ c.written := by
  cases c with
  | time dateTime =>
      have fourteen : (Column.time dateTime).written = 14 := rfl
      rw [reach] at reached
      split at reached
      · cases reached
        omega
      · split at reached
        · cases reached
          omega
        · cases reached
  | data type size =>
      have length : (Column.data type size).written = 1 + size.toNat := rfl
      rw [reach] at reached
      split at reached
      · cases reached
        omega
      · cases reached

theorem reach_of_room {c : Column} {room : Nat} (enough : c.written ≤ room) :
    reach c room = some (c.written, true) := by
  cases c with
  | time dateTime =>
      have fourteen : 14 ≤ room := enough
      rw [reach, if_pos (by omega), Nat.min_eq_right fourteen]
      rfl
  | data type size => exact if_pos enough

theorem stops_cons_iff {c : Column} {columns : List Column} {room : Nat} :
    Stops (c :: columns) room ↔
      ∃ n ok, reach c room = some (n, ok) ∧ (ok = true → Stops columns (room - n)) := by
  cases c with
  | time dateTime =>
      rw [Stops, reach]
      by_cases enough : 13 ≤ room
      · have left : room - min room 14 = room - 14 := by omega
        rw [if_pos enough]
        constructor
        · rintro (few | ⟨-, rest⟩)
          · omega
          · exact ⟨_, _, rfl, fun _ => by rw [left]; exact rest⟩
        · rintro ⟨_, _, same, rest⟩
          cases same
          exact .inr ⟨enough, left ▸ rest rfl⟩
      · rw [if_neg enough]
        by_cases few : room ≤ 1
        · rw [if_pos few]
          exact iff_of_true (.inl few) ⟨_, _, rfl, nofun⟩
        · rw [if_neg few]
          refine iff_of_false (by omega) ?_
          rintro ⟨_, _, same, -⟩
          cases same
  | data type size =>
      rw [Stops, reach]
      by_cases enough : 1 + size.toNat ≤ room
      · rw [if_pos enough]
        constructor
        · rintro ⟨-, rest⟩
          exact ⟨_, _, rfl, fun _ => rest⟩
        · rintro ⟨_, _, same, rest⟩
          cases same
          exact ⟨enough, rest rfl⟩
      · rw [if_neg enough]
        refine iff_of_false (fun both => enough both.1) ?_
        rintro ⟨_, _, same, -⟩
        cases same

theorem room_of_reach (file : Nat → UInt8) {c : Column} (pos : Nat)
    (inside : bytes.length ≤ capacity) {n : Nat} {ok : Bool}
    (reached : reach c (capacity - bytes.length) = some (n, ok)) :
    (bytes ++ (columnValue file c pos).take n).length ≤ capacity ∧
      capacity - (bytes ++ (columnValue file c pos).take n).length =
        capacity - bytes.length - n := by
  obtain ⟨room, whole⟩ := le_of_reach reached
  rw [List.length_append, List.length_take, length_columnValue]
  omega

theorem appendColumns_of_room (file : Nat → UInt8) (columns : List Column) :
    ∀ (pos : Nat) (bytes : List UInt8), bytes.length ≤ capacity →
      (columns.map Column.written).sum ≤ capacity - bytes.length →
      appendColumns capacity file columns pos bytes =
        some (bytes ++ columnValues file columns pos, pos + (columns.map Column.stored).sum,
          true) := by
  induction columns with
  | nil => intro pos bytes _ _; simp [appendColumns, columnValues]
  | cons c columns ih =>
      intro pos bytes inside room
      rw [List.map_cons, List.sum_cons] at room
      have length := length_columnValue file c pos
      have reached := reach_of_room (show c.written ≤ capacity - bytes.length by omega)
      have all : (columnValue file c pos).take c.written = columnValue file c pos :=
        List.take_of_length_le (Nat.le_of_eq length)
      obtain ⟨insideNext, left⟩ := room_of_reach file pos inside reached
      rw [all] at insideNext left
      rw [appendColumns, appendColumn_of_reach pos inside reached, all]
      dsimp only
      rw [ih (pos + c.stored) _ insideNext (by omega), columnValues, List.append_assoc,
        List.map_cons, List.sum_cons, Nat.add_assoc]

theorem appendColumns_of_stops (file : Nat → UInt8) (columns : List Column) :
    ∀ (pos : Nat) (bytes : List UInt8), bytes.length ≤ capacity →
      Stops columns (capacity - bytes.length) →
      ∃ part pos', appendColumns capacity file columns pos bytes =
        some (bytes ++ part, pos', false) := by
  induction columns with
  | nil => intro pos bytes _ stops; exact stops.elim
  | cons c columns ih =>
      intro pos bytes inside stops
      obtain ⟨n, ok, reached, rest⟩ := stops_cons_iff.mp stops
      obtain ⟨insideNext, left⟩ := room_of_reach file pos inside reached
      rw [appendColumns, appendColumn_of_reach pos inside reached]
      cases ok with
      | false => exact ⟨_, _, rfl⟩
      | true =>
          obtain ⟨part, pos', same⟩ :=
            ih (pos + c.stored) _ insideNext (by rw [left]; exact rest rfl)
          refine ⟨(columnValue file c pos).take n ++ part, pos', ?_⟩
          dsimp only
          rw [same, List.append_assoc]

theorem ok_of_not_stops (columns : List Column) : ∀ (pos : Nat) (bytes : List UInt8),
    bytes.length ≤ capacity → ¬ Stops columns (capacity - bytes.length) →
      ∀ bytes' pos' ok, appendColumns capacity file columns pos bytes = some (bytes', pos', ok) →
        ok = true := by
  induction columns with
  | nil =>
      intro pos bytes _ _ bytes' pos' ok result
      cases result
      rfl
  | cons c columns ih =>
      intro pos bytes inside goesOn bytes' pos' ok result
      cases reached : reach c (capacity - bytes.length) with
      | none =>
          rw [appendColumns, appendColumn_eq c pos inside, reached] at result
          cases result
      | some part =>
          obtain ⟨n, all⟩ := part
          rw [appendColumns, appendColumn_of_reach pos inside reached] at result
          cases all with
          | false => exact absurd (stops_cons_iff.mpr ⟨n, false, reached, nofun⟩) goesOn
          | true =>
              obtain ⟨insideNext, left⟩ := room_of_reach file pos inside reached
              apply ih (pos + c.stored) _ insideNext _ bytes' pos' ok result
              rw [left]
              exact fun stops => goesOn (stops_cons_iff.mpr ⟨n, true, reached, fun _ => stops⟩)

end Append

end DlmsGateway.BoundedRow
