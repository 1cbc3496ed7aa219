import Mathlib.Data.List.Basic

/-!
# A file of bytes

A write past the end leaves zeros in the gap, and a write inside replaces what
was there; a write of no bytes leaves the file.  A read gives what there is.
-/
set_option autoImplicit false
namespace ByteFile

def padded (file : List UInt8) (len : Nat) : List UInt8 :=
  file ++ List.replicate (len - file.length) 0

def writeAt (file : List UInt8) (pos : Nat) (bytes : List UInt8) : List UInt8 :=
  if bytes = [] then file
  else (padded file pos).take pos ++ (bytes ++ file.drop (pos + bytes.length))

def readAt (file : List UInt8) (pos len : Nat) : List UInt8 := (file.drop pos).take len

section Write
variable (file bytes : List UInt8) (pos : Nat)

theorem length_front : ((padded file pos).take pos).length = pos := by
  simp only [padded, List.length_take, List.length_append, List.length_replicate]
  omega

@[simp] theorem writeAt_nil : writeAt file pos [] = file := if_pos rfl

variable {bytes} in
theorem length_writeAt (some_ : bytes ≠ []) :
    (writeAt file pos bytes).length = max file.length (pos + bytes.length) := by
  simp only [writeAt, if_neg some_, List.length_append, List.length_drop, length_front]
  omega

theorem le_length_writeAt : file.length ≤ (writeAt file pos bytes).length := by
  by_cases none_ : bytes = []
  · exact Nat.le_of_eq (by rw [none_, writeAt_nil])
  · rw [length_writeAt file pos none_]
    exact Nat.le_max_left ..

theorem readAt_writeAt : readAt (writeAt file pos bytes) pos bytes.length = bytes := by
  by_cases none_ : bytes = []
  · rw [none_]
    rfl
  · have front := length_front file pos
    rw [readAt, writeAt, if_neg none_, List.drop_left' front, List.take_left]

theorem readAt_writeAt_first (more : List UInt8) :
    readAt (writeAt file pos (bytes ++ more)) pos bytes.length = bytes := by
  by_cases none_ : bytes = []
  · rw [none_]
    rfl
  · have front := length_front file pos
    rw [readAt, writeAt, if_neg (List.append_ne_nil_of_left_ne_nil none_ more),
      List.drop_left' front, List.append_assoc, List.take_left]

theorem readAt_writeAt_second (more : List UInt8) :
    readAt (writeAt file pos (bytes ++ more)) (pos + bytes.length) more.length = more := by
  by_cases none_ : more = []
  · rw [none_]
    rfl
  · have front : ((padded file pos).take pos ++ bytes).length = pos + bytes.length := by
      rw [List.length_append, length_front]
    rw [readAt, writeAt, if_neg (List.append_ne_nil_of_right_ne_nil bytes none_),
      List.append_assoc, ← List.append_assoc, List.drop_left' front, List.take_left]

variable {pos} {start len : Nat}

theorem getElem?_writeAt (some_ : bytes ≠ []) (k : Nat) :
    (writeAt file pos bytes)[k]? = if k < pos then (padded file pos)[k]?
      else if k < pos + bytes.length then bytes[k - pos]? else file[k]? := by
  have front := length_front file pos
  rw [writeAt, if_neg some_]
  by_cases before : k < pos
  · rw [if_pos before, List.getElem?_append_left (by omega), List.getElem?_take_of_lt before]
  · rw [if_neg before, List.getElem?_append_right (by omega), front]
    by_cases inside : k < pos + bytes.length
    · rw [if_pos inside, List.getElem?_append_left (by omega)]
    · rw [if_neg inside, List.getElem?_append_right (by omega), List.getElem?_drop]
      congr 1
      omega

theorem readAt_eq_iff {other : List UInt8} :
    readAt other start len = readAt file start len ↔
      ∀ k < len, other[start + k]? = file[start + k]? := by
  constructor
  · intro same k inside
    have byte := congrArg (·[k]?) same
    simpa only [readAt, List.getElem?_take, List.getElem?_drop, if_pos inside] using byte
  · intro same
    apply List.ext_getElem?
    intro k
    simp only [readAt, List.getElem?_take, List.getElem?_drop]
    by_cases inside : k < len
    · rw [if_pos inside, if_pos inside, same k inside]
    · rw [if_neg inside, if_neg inside]

theorem readAt_writeAt_before (before : start + len ≤ pos) (inside : start + len ≤ file.length) :
    readAt (writeAt file pos bytes) start len = readAt file start len := by
  by_cases none_ : bytes = []
  · rw [none_, writeAt_nil]
  rw [readAt_eq_iff]
  intro k read
  rw [getElem?_writeAt _ _ none_, if_pos (by omega), padded,
    List.getElem?_append_left (by omega)]

theorem readAt_writeAt_after (after : pos + bytes.length ≤ start) :
    readAt (writeAt file pos bytes) start len = readAt file start len := by
  by_cases none_ : bytes = []
  · rw [none_, writeAt_nil]
  rw [readAt_eq_iff]
  intro k read
  rw [getElem?_writeAt _ _ none_, if_neg (by omega), if_neg (by omega)]

@[simp] theorem length_readAt : (readAt file start len).length = min len (file.length - start) := by
  rw [readAt, List.length_take, List.length_drop]

theorem writeAt_readAt (inside : start + len ≤ file.length) :
    writeAt file start (readAt file start len) = file := by
  by_cases none_ : readAt file start len = []
  · rw [none_, writeAt_nil]
  have bytes : (readAt file start len).length = len := by
    rw [length_readAt]
    omega
  have front : (padded file start).take start = file.take start := by
    rw [padded, List.take_append_of_le_length (by omega)]
  rw [writeAt, if_neg none_, bytes, front, readAt, ← List.drop_drop, List.take_append_drop,
    List.take_append_drop]

/-- What a write would leave between `start` and `start + len` is there already. -/
def Keeps (file bytes : List UInt8) (pos start len : Nat) : Prop :=
  bytes = [] ∨ (pos < start + len ∨ start + len ≤ file.length) ∧
    ∀ k < bytes.length, pos + k < start + len → file[pos + k]? = bytes[k]?

/-- A write behind `start` leaves the bytes from there on exactly when they are there already. -/
theorem readAt_writeAt_eq_iff (behind : start ≤ pos) (reached : start ≤ file.length) :
    readAt (writeAt file pos bytes) start len = readAt file start len ↔
      Keeps file bytes pos start len := by
  by_cases none_ : bytes = []
  · simp [Keeps, none_]
  have positive : 0 < bytes.length := List.length_pos_of_ne_nil none_
  rw [readAt_eq_iff, Keeps, or_iff_right none_]
  constructor
  · intro same
    constructor
    · by_contra apart
      have gap := same (file.length - start) (by omega)
      rw [getElem?_writeAt _ _ none_, if_pos (by omega), padded,
        List.getElem?_append_right (by omega), List.getElem?_replicate_of_lt (by omega),
        List.getElem?_eq_none (by omega)] at gap
      cases gap
    · intro k written inside
      have byte := same (pos + k - start) (by omega)
      rw [show start + (pos + k - start) = pos + k by omega, getElem?_writeAt _ _ none_,
        if_neg (by omega), if_pos (by omega), Nat.add_sub_cancel_left] at byte
      exact byte.symm
  · rintro ⟨room, there⟩ k inside
    rw [getElem?_writeAt _ _ none_]
    by_cases before : start + k < pos
    · have within : start + k < file.length := by
        by_contra out
        have first := there 0 positive (by omega)
        rw [List.getElem?_eq_none (by omega), List.getElem?_eq_getElem positive] at first
        cases first
      rw [if_pos before, padded, List.getElem?_append_left within]
    · rw [if_neg before]
      by_cases written : start + k < pos + bytes.length
      · rw [if_pos written, ← there (start + k - pos) (by omega) (by omega)]
        congr 1
        omega
      · rw [if_neg written]

end Write
end ByteFile
