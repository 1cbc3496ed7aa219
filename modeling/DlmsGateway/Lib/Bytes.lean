import Mathlib.Data.List.Basic

/-!
# Fixed-size byte arrays

`Bytes n` is an array of `n` bytes.  A read past the end gives zero and a write
past the end is dropped, so every operation is total; bounds are the business
of the programs that use the library.  Each operation comes with the `get`
lemma its users rewrite with, and `window` turns a stretch of bytes into a
list.

What a program does to its arrays, of whatever elements, is the list of the
stretches it reads or writes, each at an index and of a length.  A list of
accesses is within bounds when every stretch is; an empty stretch touches
nothing.
-/
set_option autoImplicit false
namespace ByteStore

abbrev Bytes (n : Nat) : Type := Fin n → UInt8

/-- The bytes `f start, …, f (start + len - 1)` of a byte source. -/
def window (f : Nat → UInt8) (start len : Nat) : List UInt8 :=
  (List.range len).map fun k => f (start + k)

/-- A list as a byte source, zero past its end. -/
def ofList (l : List UInt8) (k : Nat) : UInt8 := l.getD k 0

theorem ofList_of_length_le {l : List UInt8} {k : Nat} (past : l.length ≤ k) : ofList l k = 0 := by
  rw [ofList, List.getD, List.getElem?_eq_none past, Option.getD_none]

theorem ofList_drop (l : List UInt8) (start k : Nat) :
    ofList (l.drop start) k = ofList l (start + k) := by
  rw [ofList, ofList, List.getD, List.getD, List.getElem?_drop]

theorem ofList_append_right (l m : List UInt8) (k : Nat) :
    ofList (l ++ m) (l.length + k) = ofList m k := by
  rw [ofList, ofList, List.getD, List.getD, List.getElem?_append_right (Nat.le_add_right ..),
    Nat.add_sub_cancel_left]

namespace Bytes
variable {n : Nat}

def zero : Bytes n := fun _ => 0

def get (a : Bytes n) (i : Nat) : UInt8 := if h : i < n then a ⟨i, h⟩ else 0

def set (a : Bytes n) (i : Nat) (v : UInt8) : Bytes n := fun j => if j.val = i then v else a j

/-- Copy `len` bytes of `src` to the indices from `pos` on. -/
def copy (a : Bytes n) (pos : Nat) (src : Nat → UInt8) (len : Nat) : Bytes n :=
  fun j => if pos ≤ j.val ∧ j.val < pos + len then src (j.val - pos) else a j

/-- The store loop `for (k = 0; k < len; k++) a[idx k] = src k`. -/
def storeEach (a : Bytes n) (idx : Nat → Nat) (src : Nat → UInt8) : Nat → Bytes n
  | 0 => a
  | k + 1 => (storeEach a idx src k).set (idx k) (src k)

/-! ## Reading back -/

theorem ext_get {a b : Bytes n} (same : ∀ i, i < n → a.get i = b.get i) : a = b := by
  funext j
  have := same j.val j.isLt
  simpa [get, j.isLt] using this

@[simp] theorem get_zero (i : Nat) : (zero : Bytes n).get i = 0 := by
  simp [get, zero]

theorem get_set (a : Bytes n) (i j : Nat) (v : UInt8) :
    (a.set i v).get j = if j = i ∧ j < n then v else a.get j := by
  by_cases bound : j < n
  · simp [get, set, bound]
  · simp [get, bound]

@[simp] theorem get_set_self (a : Bytes n) {i : Nat} (v : UInt8) (bound : i < n) :
    (a.set i v).get i = v := by
  simp [get_set, bound]

@[simp] theorem get_set_ne (a : Bytes n) {i j : Nat} (v : UInt8) (apart : j ≠ i) :
    (a.set i v).get j = a.get j := by
  simp [get_set, apart]

theorem get_copy (a : Bytes n) (pos : Nat) (src : Nat → UInt8) (len j : Nat) :
    (a.copy pos src len).get j =
      if pos ≤ j ∧ j < pos + len ∧ j < n then src (j - pos) else a.get j := by
  by_cases bound : j < n
  · simp [get, copy, bound]
  · simp [get, bound]

theorem get_copy_inside (a : Bytes n) (pos : Nat) (src : Nat → UInt8) {len k : Nat}
    (inside : k < len) (bound : pos + k < n) :
    (a.copy pos src len).get (pos + k) = src k := by
  rw [get_copy, if_pos ⟨by omega, by omega, bound⟩]
  congr 1
  omega

theorem get_copy_outside (a : Bytes n) (pos : Nat) (src : Nat → UInt8) (len : Nat) {j : Nat}
    (outside : j < pos ∨ pos + len ≤ j) : (a.copy pos src len).get j = a.get j := by
  rw [get_copy, if_neg (by omega)]

/-! ## Store loops -/

theorem storeEach_congr (a : Bytes n) {idx idx' : Nat → Nat} {src src' : Nat → UInt8} :
    ∀ len, (∀ k, k < len → idx k = idx' k ∧ src k = src' k) →
      storeEach a idx src len = storeEach a idx' src' len := by
  intro len
  induction len with
  | zero => intro _; rfl
  | succ len ih =>
      intro same
      have last := same len (Nat.lt_succ_self len)
      simp only [storeEach, last.1, last.2]
      rw [ih fun k bound => same k (Nat.lt_succ_of_lt bound)]

theorem storeEach_consecutive (a : Bytes n) (pos : Nat) (src : Nat → UInt8) :
    ∀ len, storeEach a (fun k => pos + k) src len = a.copy pos src len := by
  intro len
  induction len with
  | zero =>
      apply ext_get
      intro i _
      rw [get_copy_outside a pos src 0 (by omega)]
      rfl
  | succ len ih =>
      apply ext_get
      intro i bound
      simp only [storeEach, ih]
      by_cases last : i = pos + len
      · subst last
        rw [get_set_self _ _ bound, get_copy_inside a pos src (Nat.lt_succ_self len) bound]
      · rw [get_set_ne _ _ last, get_copy, get_copy]
        by_cases inside : pos ≤ i ∧ i < pos + len ∧ i < n
        · rw [if_pos inside, if_pos (by omega)]
        · rw [if_neg inside, if_neg (by omega)]

theorem get_storeEach_outside (a : Bytes n) (idx : Nat → Nat) (src : Nat → UInt8) (j : Nat) :
    ∀ len, (∀ k, k < len → idx k ≠ j) → (storeEach a idx src len).get j = a.get j := by
  intro len
  induction len with
  | zero => intro _; rfl
  | succ len ih =>
      intro apart
      rw [storeEach, get_set_ne _ _ (apart len (Nat.lt_succ_self len)).symm]
      exact ih fun k bound => apart k (Nat.lt_succ_of_lt bound)

end Bytes

/-! ## Windows -/

section Window
variable (f g : Nat → UInt8)

@[simp] theorem length_window (start len : Nat) : (window f start len).length = len := by
  simp [window]

theorem getElem_window (start len k : Nat) (bound : k < (window f start len).length) :
    (window f start len)[k] = f (start + k) := by
  simp [window]

theorem window_congr {start start' len : Nat}
    (same : ∀ k, k < len → f (start + k) = g (start' + k)) :
    window f start len = window g start' len := by
  apply List.map_congr_left
  intro k member
  exact same k (List.mem_range.mp member)

theorem window_add (start m k : Nat) :
    window f start (m + k) = window f start m ++ window f (start + m) k := by
  apply List.ext_getElem
  · simp
  · intro i left right
    rw [getElem_window]
    by_cases early : i < m
    · rw [List.getElem_append_left (by simpa using early), getElem_window]
    · rw [List.getElem_append_right (by simpa using early), getElem_window]
      simp only [length_window]
      congr 1
      omega

theorem window_drop (start len k : Nat) :
    (window f start len).drop k = window f (start + k) (len - k) := by
  apply List.ext_getElem
  · simp
  · intro i left right
    rw [List.getElem_drop, getElem_window, getElem_window, Nat.add_assoc]

theorem window_take (start len k : Nat) (short : k ≤ len) :
    (window f start len).take k = window f start k := by
  apply List.ext_getElem
  · simp [short]
  · intro i left right
    rw [List.getElem_take, getElem_window, getElem_window]

theorem window_eq_iff (l : List UInt8) (start : Nat) :
    window f start l.length = l ↔ ∀ k, k < l.length → f (start + k) = ofList l k := by
  constructor
  · intro same k bound
    have inside : k < (window f start l.length).length := by simpa using bound
    rw [← getElem_window f start l.length k inside]
    simp only [same, ofList, List.getD, List.getElem?_eq_getElem bound, Option.getD_some]
  · intro same
    apply List.ext_getElem
    · simp
    · intro k left right
      rw [getElem_window, same k right]
      simp [ofList, List.getD, right]

theorem window_append_eq_iff (l m : List UInt8) (start : Nat) :
    window f start (l ++ m).length = l ++ m ↔
      window f start l.length = l ∧ window f (start + l.length) m.length = m := by
  rw [List.length_append, window_add]
  constructor
  · intro same
    exact List.append_inj same (by simp)
  · intro ⟨first, second⟩
    rw [first, second]

theorem window_cons_eq_iff (b : UInt8) (l : List UInt8) (start : Nat) :
    window f start (b :: l).length = b :: l ↔
      f start = b ∧ window f (start + 1) l.length = l := by
  rw [← List.singleton_append, window_append_eq_iff]
  simp [window]

end Window
end ByteStore

namespace Arrays

structure Access (A : Type) where
  array : A
  start : Nat
  len : Nat

/-- The access to one element. -/
def element {A : Type} (array : A) (i : Nat) : Access A := ⟨array, i, 1⟩

section Bounds
variable {A : Type} (size : A → Nat)

def Access.Inside (a : Access A) : Prop := a.len = 0 ∨ a.start + a.len ≤ size a.array

instance (a : Access A) : Decidable (a.Inside size) := inferInstanceAs (Decidable (_ ∨ _))

def Within (l : List (Access A)) : Prop := ∀ a ∈ l, a.Inside size

instance (l : List (Access A)) : Decidable (Within size l) :=
  inferInstanceAs (Decidable (∀ a ∈ l, a.Inside size))

@[simp] theorem inside_mk (array : A) (start len : Nat) :
    (Access.mk array start len).Inside size ↔ len = 0 ∨ start + len ≤ size array := Iff.rfl

@[simp] theorem inside_element (array : A) (i : Nat) :
    (element array i).Inside size ↔ i < size array := by
  rw [element, inside_mk]
  omega

@[simp] theorem within_nil : Within size [] := by
  intro a member
  cases member

@[simp] theorem within_cons (a : Access A) (l : List (Access A)) :
    Within size (a :: l) ↔ a.Inside size ∧ Within size l :=
  List.forall_mem_cons

@[simp] theorem within_append (l m : List (Access A)) :
    Within size (l ++ m) ↔ Within size l ∧ Within size m :=
  List.forall_mem_append

end Bounds

end Arrays
