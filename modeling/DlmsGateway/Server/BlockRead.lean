import DlmsGateway.Server.BoundedRow
import Mathlib.Tactic.Ring

/-!
# The rows of a selection in several PDUs

When a column does not fit, the loop of `readProfileGeneric` takes the size of
the PDU back, to sixteen bits, and goes on with the next row from where it has
read to in the file.  It has no other way to stop before the last row, so that
the columns that do not fit have to fail in every round.  When the two bytes of
the structure do not fit, the read is answered with the error.

The indices are bounded by the number of entries, and the positions are inside
the file.
-/
set_option autoImplicit false
namespace DlmsGateway.BoundedRow

/-- The PDU, the position in the file and `transactionStartIndex`. -/
structure BlockState where
  bytes : List UInt8
  pos : Nat
  start : Nat

structure Pdu where
  before : List UInt8
  capacity : Nat

def Pdu.room (p : Pdu) : Nat := p.capacity - p.before.length

section Loop
variable (l : Layout) (file : Nat → UInt8)

def rowRound (capacity : Nat) (st : BlockState) : Option (BlockState × Bool) :=
  let pduSize := st.bytes.length % 65536
  match cosemSetStructure capacity (UInt8.ofNat l.columns.length) st.bytes with
  | (bytes, false) => some ({ st with bytes }, false)
  | (bytes, true) =>
      match appendColumns capacity file l.columns st.pos bytes with
      | none => none
      | some (bytes, pos, true) => some (⟨bytes, pos, st.start + 1⟩, true)
      -- the PDU is full: --transactionStartIndex, and ++ behind the columns
      | some (bytes, pos, false) => some (⟨bytes.take pduSize, pos, st.start - 1 + 1⟩, true)

/-- The loop for the rows to come, and whether it ends without an error. -/
def rowLoop (capacity : Nat) : Nat → BlockState → Option (BlockState × Bool)
  | 0, st => some (st, true)
  | n + 1, st =>
      match rowRound l file capacity st with
      | none => none
      | some (st, false) => some (st, false)
      | some (st, true) => rowLoop capacity n st

/-- One read of the rows from `start` to `last`. -/
def appendRows (p : Pdu) (start last : Nat) : Option (BlockState × Bool) :=
  rowLoop l file p.capacity (last + 1 - start) ⟨p.before, 4 + (start - 1) * l.dataSize, start⟩

/-- The index that is left and the rows in the PDU, where it is sent. -/
def readBlock (p : Pdu) (start last : Nat) : Option (Nat × List UInt8) :=
  match appendRows l file p start last with
  | some (st, true) => some (st.start, st.bytes.drop p.before.length)
  | _ => none

/-- The index and all rows after so many reads; none when one of them fails. -/
def readBlocks (pdus : Nat → Pdu) (start last : Nat) : Nat → Option (Nat × List UInt8)
  | 0 => some (start, [])
  | i + 1 =>
      match readBlocks pdus start last i with
      | none => none
      | some (s, rows) =>
          if last < s then some (s, rows)
          else (readBlock l file (pdus i) s last).map fun (s', more) => (s', rows ++ more)

/-! ## What is promised -/

def rowValue (pos : Nat) : List UInt8 :=
  [2, UInt8.ofNat l.columns.length] ++ columnValues file l.columns pos

def rowValues : Nat → Nat → List UInt8
  | 0, _ => []
  | n + 1, pos => rowValue l file pos ++ rowValues n (pos + l.dataSize)

def rowsFrom (start n : Nat) : List UInt8 := rowValues l file n (4 + (start - 1) * l.dataSize)

/-- Reading in blocks gives whole rows, as many as fit each time, and in the end all of them, as
one read does into a PDU that is large enough. -/
structure ReadsInBlocks (pdus : Nat → Pdu) (start last : Nat) : Prop where
  whole : ∀ i, ∃ k, k ≤ last + 1 - start ∧
    readBlocks l file pdus start last i = some (start + k, rowsFrom l file start k)
  full : ∀ i k rows, readBlocks l file pdus start last i = some (start + k, rows) →
    k < last + 1 - start → ∃ more, readBlocks l file pdus start last (i + 1) =
      some (start + min (last + 1 - start) (k + (pdus i).room / l.width), more)
  finished : ∃ i, readBlocks l file pdus start last i =
    some (last + 1, rowsFrom l file start (last + 1 - start))
  asOne : ∀ p : Pdu, p.before.length + (last + 1 - start) * l.width ≤ p.capacity →
    readBlock l file p start last = some (last + 1, rowsFrom l file start (last + 1 - start))

/-! ## When it holds -/

def fitted (pdus : Nat → Pdu) : Nat → Nat
  | 0 => 0
  | i + 1 => fitted pdus i + (pdus i).room / l.width

/-- The row behind those that fit is stopped, with a size of the PDU that 16 bits hold. -/
def Pdu.StopsBehind (p : Pdu) : Prop :=
  2 ≤ p.room % l.width ∧ Stops l.columns (p.room % l.width - 2) ∧
    p.before.length + p.room / l.width * l.width < 65536

/-- The rows that are left fit into each PDU, or the next one is stopped. -/
def BlocksFit (pdus : Nat → Pdu) (start last : Nat) : Prop :=
  ∀ i, fitted l pdus i < last + 1 - start →
    last + 1 - start - fitted l pdus i ≤ (pdus i).room / l.width ∨ (pdus i).StopsBehind l

end Loop

/-! ## One round -/

section Round
variable {l : Layout} {file : Nat → UInt8} {capacity : Nat} {bytes : List UInt8} {pos start : Nat}

theorem cosemSetStructure_of_room {count : UInt8} (room : 2 ≤ capacity - bytes.length) :
    cosemSetStructure capacity count bytes = (bytes ++ [2, count], true) := by
  rw [cosemSetStructure, bbSetUInt8, if_pos (by omega)]
  dsimp only
  rw [if_pos rfl, bbSetUInt8, List.length_append, List.length_singleton, if_pos (by omega),
    List.append_assoc]
  rfl

theorem cosemSetStructure_of_full (count : UInt8) (room : capacity - bytes.length < 2) :
    (cosemSetStructure capacity count bytes).2 = false := by
  rw [cosemSetStructure, bbSetUInt8]
  by_cases first : bytes.length < capacity
  · rw [if_pos first]
    dsimp only
    rw [if_pos rfl, bbSetUInt8, List.length_append, List.length_singleton, if_neg (by omega)]
  · rw [if_neg first]
    rfl

theorem length_rowValue : (rowValue l file pos).length = l.width := by
  rw [rowValue, List.length_append, length_columnValues]
  rfl

theorem rowRound_of_room (inside : bytes.length ≤ capacity)
    (room : l.width ≤ capacity - bytes.length) :
    rowRound l file capacity ⟨bytes, pos, start⟩ =
      some (⟨bytes ++ rowValue l file pos, pos + l.dataSize, start + 1⟩, true) := by
  have width : l.width = 2 + (l.columns.map Column.written).sum := rfl
  have length : (bytes ++ [2, UInt8.ofNat l.columns.length]).length = bytes.length + 2 := by simp
  have insideNext : (bytes ++ [2, UInt8.ofNat l.columns.length]).length ≤ capacity := by omega
  have columns := appendColumns_of_room file l.columns pos _ insideNext (by omega)
  rw [rowRound]
  dsimp only
  rw [cosemSetStructure_of_room (by omega)]
  dsimp only
  rw [columns]
  dsimp only
  rw [rowValue, List.append_assoc]
  rfl

theorem rowRound_of_stops (file : Nat → UInt8) (pos : Nat) (inside : bytes.length ≤ capacity)
    (positive : 1 ≤ start) (header : 2 ≤ capacity - bytes.length)
    (stops : Stops l.columns (capacity - bytes.length - 2)) (small : bytes.length < 65536) :
    ∃ pos', rowRound l file capacity ⟨bytes, pos, start⟩ = some (⟨bytes, pos', start⟩, true) := by
  have length : (bytes ++ [2, UInt8.ofNat l.columns.length]).length = bytes.length + 2 := by simp
  have insideNext : (bytes ++ [2, UInt8.ofNat l.columns.length]).length ≤ capacity := by omega
  obtain ⟨part, pos', columns⟩ := appendColumns_of_stops file l.columns pos _ insideNext
    (by rw [length, Nat.sub_add_eq]; exact stops)
  refine ⟨pos', ?_⟩
  rw [rowRound]
  dsimp only
  rw [cosemSetStructure_of_room header]
  dsimp only
  rw [columns]
  dsimp only
  rw [Nat.mod_eq_of_lt small, Nat.sub_add_cancel positive, List.append_assoc, List.take_left]

theorem rowRound_cases {st st' : BlockState} (positive : 1 ≤ st.start)
    (goes : rowRound l file capacity st = some (st', true)) :
    st'.start = st.start + 1 ∨
      (st'.start = st.start ∧ st'.bytes.length ≤ st.bytes.length % 65536) := by
  rw [rowRound] at goes
  split at goes
  · cases goes
  · split at goes
    · cases goes
    · cases goes
      exact .inl rfl
    · cases goes
      refine .inr ⟨Nat.sub_add_cancel positive, ?_⟩
      rw [List.length_take]
      exact Nat.min_le_left ..

theorem stops_of_rowRound {st' : BlockState} (inside : bytes.length ≤ capacity)
    (goes : rowRound l file capacity ⟨bytes, pos, start⟩ = some (st', true))
    (back : st'.start = start) :
    2 ≤ capacity - bytes.length ∧ Stops l.columns (capacity - bytes.length - 2) := by
  have length : (bytes ++ [2, UInt8.ofNat l.columns.length]).length = bytes.length + 2 := by simp
  rw [rowRound] at goes
  dsimp only at goes
  by_cases full : capacity - bytes.length < 2
  · have failed := cosemSetStructure_of_full (UInt8.ofNat l.columns.length) full
    split at goes
    · cases goes
    · rename_i written
      rw [written] at failed
      cases failed
  · rw [cosemSetStructure_of_room (by omega)] at goes
    dsimp only at goes
    refine ⟨by omega, ?_⟩
    by_contra goesOn
    have insideNext : (bytes ++ [2, UInt8.ofNat l.columns.length]).length ≤ capacity := by omega
    rw [Nat.sub_sub, ← length] at goesOn
    split at goes
    · cases goes
    · cases goes
      have ahead : start + 1 = start := back
      omega
    · rename_i columns
      exact absurd (ok_of_not_stops l.columns pos _ insideNext goesOn _ _ _ columns)
        Bool.false_ne_true

end Round

/-! ## One read -/

section Read
variable {l : Layout} {file : Nat → UInt8} {capacity : Nat} {bytes : List UInt8} {start : Nat}

theorem length_rowValues (n : Nat) : ∀ pos, (rowValues l file n pos).length = n * l.width := by
  induction n with
  | zero => intro pos; simp [rowValues]
  | succ n ih =>
      intro pos
      rw [rowValues, List.length_append, length_rowValue, ih, Nat.succ_mul, Nat.add_comm]

theorem rowValues_add (n m : Nat) : ∀ pos, rowValues l file (n + m) pos =
    rowValues l file n pos ++ rowValues l file m (pos + n * l.dataSize) := by
  induction n with
  | zero => intro pos; simp [rowValues]
  | succ n ih =>
      intro pos
      rw [Nat.succ_add, rowValues, ih, rowValues, List.append_assoc, Nat.succ_mul,
        Nat.add_comm (n * l.dataSize), Nat.add_assoc]

theorem rowsFrom_add (positive : 1 ≤ start) (n m : Nat) : rowsFrom l file start (n + m) =
    rowsFrom l file start n ++ rowsFrom l file (start + n) m := by
  have pos : 4 + (start + n - 1) * l.dataSize = 4 + (start - 1) * l.dataSize + n * l.dataSize := by
    rw [Nat.add_assoc, ← Nat.add_mul]
    congr 2
    omega
  rw [rowsFrom, rowsFrom, rowsFrom, rowValues_add, pos]

theorem rowLoop_of_room (n m : Nat) : ∀ (bytes : List UInt8) (pos start : Nat),
    bytes.length ≤ capacity → n * l.width ≤ capacity - bytes.length →
      rowLoop l file capacity (n + m) ⟨bytes, pos, start⟩ =
        rowLoop l file capacity m
          ⟨bytes ++ rowValues l file n pos, pos + n * l.dataSize, start + n⟩ := by
  induction n with
  | zero => intro bytes pos start _ _; simp [rowValues]
  | succ n ih =>
      intro bytes pos start inside room
      rw [Nat.succ_mul] at room
      have length : (bytes ++ rowValue l file pos).length = bytes.length + l.width := by
        rw [List.length_append, length_rowValue]
      rw [Nat.succ_add, rowLoop, rowRound_of_room inside (by omega)]
      dsimp only
      rw [ih (bytes ++ rowValue l file pos) (pos + l.dataSize) (start + 1) (by omega) (by omega),
        rowValues, List.append_assoc, Nat.succ_mul, Nat.add_assoc pos, Nat.add_comm l.dataSize,
        Nat.add_assoc start, Nat.add_comm 1]

theorem rowLoop_of_stops (file : Nat → UInt8) (inside : bytes.length ≤ capacity)
    (positive : 1 ≤ start) (header : 2 ≤ capacity - bytes.length)
    (stops : Stops l.columns (capacity - bytes.length - 2)) (small : bytes.length < 65536)
    (n : Nat) : ∀ pos, ∃ pos',
      rowLoop l file capacity n ⟨bytes, pos, start⟩ = some (⟨bytes, pos', start⟩, true) := by
  induction n with
  | zero => intro pos; exact ⟨pos, rfl⟩
  | succ n ih =>
      intro pos
      obtain ⟨next, round⟩ := rowRound_of_stops file pos inside positive header stops small
      obtain ⟨pos', rest⟩ := ih next
      refine ⟨pos', ?_⟩
      rw [rowLoop, round]
      exact rest

/-- The index never goes back, and where it stays the PDU does not grow. -/
theorem rowLoop_monotone (n : Nat) : ∀ st st' : BlockState, 1 ≤ st.start →
    rowLoop l file capacity n st = some (st', true) →
      st.start ≤ st'.start ∧ (st'.start = st.start → st'.bytes.length ≤ st.bytes.length) := by
  induction n with
  | zero =>
      intro st st' _ ended
      cases ended
      exact ⟨Nat.le_refl _, fun _ => Nat.le_refl _⟩
  | succ n ih =>
      intro st st' positive ended
      rw [rowLoop] at ended
      split at ended
      · cases ended
      · cases ended
      · rename_i next round
        rcases rowRound_cases positive round with later | ⟨same, shorter⟩
        · have rest := ih next st' (by omega) ended
          omega
        · have rest := ih next st' (by omega) ended
          have small := Nat.mod_le st.bytes.length 65536
          refine ⟨by omega, fun stays => ?_⟩
          have length := rest.2 (by omega)
          omega

/-- Where the next row does not fit and is not stopped, the read fails or does more than stop. -/
theorem not_stopped (inside : bytes.length ≤ capacity) (positive : 1 ≤ start) {n pos : Nat}
    (goesOn : ¬ (2 ≤ capacity - bytes.length ∧ Stops l.columns (capacity - bytes.length - 2) ∧
      bytes.length < 65536)) {st' : BlockState}
    (ended : rowLoop l file capacity (n + 1) ⟨bytes, pos, start⟩ = some (st', true)) :
    ¬ (st'.start = start ∧ st'.bytes.length = bytes.length) := by
  rintro ⟨sameStart, sameLength⟩
  rw [rowLoop] at ended
  split at ended
  · cases ended
  · cases ended
  · rename_i next round
    rcases rowRound_cases positive round with later | ⟨same, shorter⟩
    · have rest := (rowLoop_monotone n next st' (by omega) ended).1
      have ahead : next.start = start + 1 := later
      omega
    · have back : next.start = start := same
      obtain ⟨header, stops⟩ := stops_of_rowRound inside round back
      have rest := (rowLoop_monotone n next st' (by omega) ended).2 (by omega)
      have size : next.bytes.length ≤ bytes.length % 65536 := shorter
      have below := Nat.mod_lt bytes.length (show 0 < 65536 by omega)
      exact goesOn ⟨header, stops, by omega⟩

end Read
/-! ## All reads -/

section Blocks
variable {l : Layout} {file : Nat → UInt8} {p : Pdu} {pdus : Nat → Pdu} {start last : Nat}

theorem two_le_width : 2 ≤ l.width := Nat.le_add_right ..

theorem appendRows_eq (room : l.width ≤ p.room) {n m : Nat} (rows : last + 1 - start = n + m)
    (fit : n ≤ p.room / l.width) : appendRows l file p start last =
      rowLoop l file p.capacity m ⟨p.before ++ rowsFrom l file start n,
        4 + (start - 1) * l.dataSize + n * l.dataSize, start + n⟩ := by
  have width := two_le_width (l := l)
  have inside : p.before.length ≤ p.capacity := by
    rw [Pdu.room] at room
    omega
  have space : n * l.width ≤ p.room :=
    Nat.le_trans (Nat.mul_le_mul_right l.width fit) (Nat.div_mul_le_self ..)
  rw [appendRows, rows, rowLoop_of_room n m _ _ _ inside space]
  rfl

/-- One read gives the rows that fit exactly when they are all or the next one is stopped. -/
theorem readBlock_iff (room : l.width ≤ p.room) (positive : 1 ≤ start) (order : start ≤ last) :
    readBlock l file p start last = some
        (start + min (last + 1 - start) (p.room / l.width),
          rowsFrom l file start (min (last + 1 - start) (p.room / l.width))) ↔
      last + 1 - start ≤ p.room / l.width ∨ p.StopsBehind l := by
  have width := two_le_width (l := l)
  by_cases all : last + 1 - start ≤ p.room / l.width
  · refine iff_of_true ?_ (.inl all)
    rw [Nat.min_eq_left all, readBlock, appendRows_eq room (Nat.add_zero _).symm all]
    simp [rowLoop]
  have least : 1 ≤ p.room / l.width := (Nat.one_le_div_iff (by omega)).mpr room
  have parts := Nat.div_add_mod p.room l.width
  rw [Nat.mul_comm] at parts
  generalize quotient : p.room / l.width = q at all least parts ⊢
  obtain ⟨more, rows⟩ : ∃ more, last + 1 - start = q + (more + 1) :=
    ⟨last + 1 - start - q - 1, by omega⟩
  have length : (p.before ++ rowsFrom l file start q).length = p.before.length + q * l.width := by
    rw [List.length_append, rowsFrom, length_rowValues]
  have size : p.capacity = p.before.length + p.room := by
    rw [Pdu.room] at room ⊢
    omega
  have left : p.capacity - (p.before ++ rowsFrom l file start q).length = p.room % l.width := by
    omega
  have inside : (p.before ++ rowsFrom l file start q).length ≤ p.capacity := by omega
  rw [or_iff_right all, Nat.min_eq_right (by omega), readBlock,
    appendRows_eq room rows (Nat.le_of_eq quotient.symm), Pdu.StopsBehind, quotient]
  constructor
  · intro read
    split at read
    · rename_i st ended
      obtain ⟨index, same⟩ := Prod.mk.inj (Option.some.inj read)
      by_contra goesOn
      rw [← left, ← length] at goesOn
      apply not_stopped inside (by omega) goesOn ended
      refine ⟨index, ?_⟩
      have behind := congrArg List.length same
      have some_ : l.width ≤ q * l.width := Nat.le_mul_of_pos_left _ least
      rw [List.length_drop, rowsFrom, length_rowValues] at behind
      omega
    · cases read
  · rintro ⟨header, stops, small⟩
    rw [← left] at header stops
    rw [← length] at small
    obtain ⟨pos', ended⟩ := rowLoop_of_stops file inside (Nat.le_add_right_of_le positive)
      header stops small (more + 1) (4 + (start - 1) * l.dataSize + q * l.dataSize)
    rw [ended]
    dsimp only
    rw [List.drop_left]

theorem readBlock_of_room (room : p.before.length + (last + 1 - start) * l.width ≤ p.capacity)
    (positive : 1 ≤ start) (order : start ≤ last) : readBlock l file p start last =
      some (last + 1, rowsFrom l file start (last + 1 - start)) := by
  have width := two_le_width (l := l)
  have one : l.width ≤ (last + 1 - start) * l.width := Nat.le_mul_of_pos_left _ (by omega)
  have space : (last + 1 - start) * l.width ≤ p.room := by
    rw [Pdu.room]
    omega
  have all : last + 1 - start ≤ p.room / l.width := (Nat.le_div_iff_mul_le (by omega)).mpr space
  rw [(readBlock_iff (Nat.le_trans one space) positive order).mpr (.inl all), Nat.min_eq_left all,
    Nat.add_sub_cancel' (by omega)]

theorem le_fitted (rooms : ∀ i, l.width ≤ (pdus i).room) (i : Nat) : i ≤ fitted l pdus i := by
  have width := two_le_width (l := l)
  induction i with
  | zero => exact Nat.le_refl _
  | succ i ih =>
      have one := (Nat.one_le_div_iff (show 0 < l.width by omega)).mpr (rooms i)
      rw [fitted]
      omega

def readSoFar (l : Layout) (file : Nat → UInt8) (pdus : Nat → Pdu) (start last i : Nat) :
    Nat × List UInt8 :=
  (start + min (last + 1 - start) (fitted l pdus i),
    rowsFrom l file start (min (last + 1 - start) (fitted l pdus i)))

/-- The next read goes on rightly exactly when its rows are the last ones or it is stopped. -/
theorem readBlocks_succ_iff {i : Nat} (room : l.width ≤ (pdus i).room) (positive : 1 ≤ start)
    (order : start ≤ last)
    (before : readBlocks l file pdus start last i = some (readSoFar l file pdus start last i)) :
    readBlocks l file pdus start last (i + 1) = some (readSoFar l file pdus start last (i + 1)) ↔
      (fitted l pdus i < last + 1 - start →
        last + 1 - start - fitted l pdus i ≤ (pdus i).room / l.width ∨
          (pdus i).StopsBehind l) := by
  have next : fitted l pdus (i + 1) = fitted l pdus i + (pdus i).room / l.width := rfl
  rw [readBlocks, before, readSoFar, readSoFar, next]
  dsimp only
  generalize fitted l pdus i = k
  by_cases finished : last + 1 - start ≤ k
  · rw [Nat.min_eq_left finished, Nat.min_eq_left (Nat.le_add_right_of_le finished),
      if_pos (by omega)]
    exact iff_of_true rfl fun more => absurd more (Nat.not_lt.mpr finished)
  · have rest : last + 1 - (start + k) = last + 1 - start - k := by omega
    generalize rows : min (last + 1 - (start + k)) ((pdus i).room / l.width) = n
    have total : min (last + 1 - start) (k + (pdus i).room / l.width) = k + n := by omega
    have split : rowsFrom l file start (k + n) =
        rowsFrom l file start k ++ rowsFrom l file (start + k) n := rowsFrom_add positive k n
    have one : readBlock l file (pdus i) (start + k) last =
        some (start + k + n, rowsFrom l file (start + k) n) ↔
          last + 1 - (start + k) ≤ (pdus i).room / l.width ∨ (pdus i).StopsBehind l := by
      rw [← rows]
      exact readBlock_iff room (by omega) (by omega)
    rw [Nat.min_eq_right (by omega), if_neg (by omega), total, split, ← Nat.add_assoc, ← rest]
    constructor
    · intro mapped _
      obtain ⟨⟨index, more⟩, read, same⟩ := Option.map_eq_some_iff.mp mapped
      obtain ⟨rfl, rowsSame⟩ := Prod.mk.inj same
      have moreSame : more = rowsFrom l file (start + k) n := List.append_cancel_left rowsSame
      rw [moreSame] at read
      exact one.mp read
    · intro fit
      rw [one.mpr (fit (by omega)), Option.map_some]

/-- Blocks are read like one PDU exactly when the rows fit or are stopped. -/
theorem readsInBlocks_iff (l : Layout) (file : Nat → UInt8) (pdus : Nat → Pdu) (start last : Nat)
    (positive : 1 ≤ start) (order : start ≤ last) (rooms : ∀ i, l.width ≤ (pdus i).room) :
    ReadsInBlocks l file pdus start last ↔ BlocksFit l pdus start last := by
  have soFar :
      (∀ i, readBlocks l file pdus start last i = some (readSoFar l file pdus start last i)) ↔
        BlocksFit l pdus start last := by
    constructor
    · intro each i
      exact (readBlocks_succ_iff (rooms i) positive order (each i)).mp (each (i + 1))
    · intro fit i
      induction i with
      | zero => simp [readBlocks, readSoFar, fitted, rowsFrom, rowValues]
      | succ i ih => exact (readBlocks_succ_iff (rooms i) positive order ih).mpr (fit i)
  rw [← soFar]
  constructor
  · rintro ⟨whole, full, -, -⟩ i
    induction i with
    | zero => simp [readBlocks, readSoFar, fitted, rowsFrom, rowValues]
    | succ i ih =>
        obtain ⟨k, few, read⟩ := whole (i + 1)
        have next : fitted l pdus (i + 1) = fitted l pdus i + (pdus i).room / l.width := rfl
        by_cases finished : last + 1 - start ≤ fitted l pdus i
        · exact (readBlocks_succ_iff (rooms i) positive order ih).mpr fun more =>
            absurd more (Nat.not_lt.mpr finished)
        · obtain ⟨more, goes⟩ := full i (fitted l pdus i) _
            (by rw [ih, readSoFar, Nat.min_eq_right (by omega)]) (by omega)
          rw [goes] at read
          have same : k = min (last + 1 - start) (fitted l pdus (i + 1)) := by
            have index := (Prod.mk.inj (Option.some.inj read)).1
            omega
          rw [goes, read, readSoFar, ← same]
  · intro each
    refine ⟨fun i => ⟨_, Nat.min_le_left .., each i⟩, ?_, ?_, ?_⟩
    · intro i k rows read more
      rw [each i, readSoFar] at read
      have index := (Prod.mk.inj (Option.some.inj read)).1
      have same : fitted l pdus i = k := by omega
      have next := each (i + 1)
      rw [readSoFar, fitted, same] at next
      exact ⟨_, next⟩
    · refine ⟨last + 1 - start, ?_⟩
      have all := le_fitted rooms (last + 1 - start)
      rw [each, readSoFar, Nat.min_eq_left all, Nat.add_sub_cancel' (by omega)]
    · intro p room
      exact readBlock_of_room room positive order

end Blocks

/-! ## A time and a byte -/

def timeLayout : Layout := ⟨[.time fun _ => ⟨(0, 0), .replicate 7 0, (0, 0), 0⟩], by decide⟩

def byteLayout : Layout := ⟨[.data 17 1], by decide⟩

/-- Two bytes behind the row are just enough for the next structure, and the time is stopped. -/
theorem times_read_in_blocks :
    ReadsInBlocks timeLayout (fun _ => 0) (fun _ => ⟨[], 18⟩) 1 3 := by
  apply (readsInBlocks_iff timeLayout (fun _ => 0) (fun _ => ⟨[], 18⟩) 1 3 (by decide) (by decide)
    fun _ => by decide).mpr
  have stops : (⟨[], 18⟩ : Pdu).StopsBehind timeLayout :=
    ⟨by decide, .inl (by decide), by decide⟩
  exact fun _ _ => .inr stops

/-- The type and the byte of the third row are written behind the PDU. -/
theorem byte_behind_pdu :
    ¬ ∀ (l : Layout) (file : Nat → UInt8) (pdus : Nat → Pdu) (start last : Nat), 1 ≤ start →
      start ≤ last → (∀ i, l.width ≤ (pdus i).room) → ReadsInBlocks l file pdus start last := by
  intro always
  obtain ⟨k, -, read⟩ := (always byteLayout (fun _ => 0) (fun _ => ⟨[], 10⟩) 1 3 (by decide)
    (by decide) fun _ => by decide).whole 1
  have outside : readBlocks byteLayout (fun _ => 0) (fun _ => ⟨[], 10⟩) 1 3 1 = none := by
    decide +kernel
  rw [outside] at read
  cases read

end DlmsGateway.BoundedRow
