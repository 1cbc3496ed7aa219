import DlmsGateway.Lib.Bytes
import Mathlib.Data.List.TakeWhile
import Mathlib.Data.Nat.Digits.Lemmas

/-!
# Text in bytes

A string goes on up to the byte zero that ends it, and a line up to its
newline.  A string is looked for in the room behind its start, so that one
without an end is cut there.  Texts are appended to the string in an array,
each with an end of its own over the one before; numbers are printed with a
least number of digits.
-/
set_option autoImplicit false
namespace ByteStore
open Arrays

/-! ## Strings -/

/-- The string at `start`, within `room` bytes. -/
def cString (f : Nat → UInt8) (start room : Nat) : List UInt8 :=
  (window f start room).takeWhile (· ≠ 0)

section Strings
variable {f : Nat → UInt8} {start room : Nat} {text : List UInt8}

/-- A text without a zero is read back, if its end or the end of the room is behind it. -/
theorem cString_eq (plain : 0 ∉ text) (there : window f start text.length = text)
    (fits : text.length ≤ room) (ends : text.length < room → f (start + text.length) = 0) :
    cString f start room = text := by
  obtain ⟨more, rfl⟩ := Nat.exists_eq_add_of_le fits
  have stops : (window f (start + text.length) more).takeWhile (· ≠ 0) = [] := by
    cases more with
    | zero => rfl
    | succ more =>
        have zero := ends (by omega)
        rw [Nat.add_comm more, window_add, window, List.range_one, List.map_singleton,
          List.singleton_append, List.takeWhile_cons, Nat.add_zero, zero]
        rfl
  have all : ∀ b ∈ text, decide (b ≠ 0) = true := by
    intro b member
    rw [decide_eq_true_eq]
    rintro rfl
    exact plain member
  rw [cString, window_add, there, List.takeWhile_append_of_pos all, stops, List.append_nil]

theorem window_cString : window f start (cString f start room).length = cString f start room := by
  have front : cString f start room <+: window f start room := List.takeWhile_prefix _
  have short := front.length_le
  rw [length_window] at short
  rw [← window_take f start room _ short]
  exact (List.prefix_iff_eq_take.mp front).symm

theorem zero_notMem_cString : 0 ∉ cString f start room := by
  intro member
  have other := List.mem_takeWhile_imp member
  exact absurd rfl (of_decide_eq_true other)

end Strings

/-! ## Appending -/

section Append
variable {n : Nat} {a : Bytes n} {text : List UInt8}

def stringOf (a : Bytes n) : List UInt8 := cString a.get 0 n

/-- `sprintf(a + strlen(a), ...)` of a text. -/
def appendText (a : Bytes n) (text : List UInt8) : Bytes n :=
  a.copy (stringOf a).length (ofList text) (text.length + 1)

theorem stringOf_zero : stringOf (Bytes.zero : Bytes n) = [] := by
  cases n with
  | zero => rfl
  | succ n =>
      rw [stringOf, cString, Nat.add_comm, window_add, window, List.range_one, List.map_singleton,
        List.singleton_append, List.takeWhile_cons, Bytes.get_zero]
      rfl

theorem stringOf_appendText (plain : 0 ∉ text) (fits : (stringOf a).length + text.length < n) :
    stringOf (appendText a text) = stringOf a ++ text := by
  have front : window (appendText a text).get 0 (stringOf a).length = stringOf a := by
    have kept : window (appendText a text).get 0 (stringOf a).length =
        window a.get 0 (stringOf a).length := by
      apply window_congr
      intro k before
      rw [Nat.zero_add, appendText, Bytes.get_copy_outside _ _ _ _ (.inl before)]
    exact kept.trans window_cString
  have stored {k : Nat} (inside : k < text.length + 1) :
      (appendText a text).get ((stringOf a).length + k) = ofList text k :=
    Bytes.get_copy_inside a _ (ofList text) inside (by omega)
  have back : window (appendText a text).get (stringOf a).length text.length = text := by
    rw [window_eq_iff]
    intro k inside
    exact stored (Nat.lt_succ_of_lt inside)
  apply cString_eq
  · rw [List.mem_append, not_or]
    exact ⟨zero_notMem_cString, plain⟩
  · rw [List.length_append, window_add, front, Nat.zero_add, back]
  · rw [List.length_append]
    exact Nat.le_of_lt fits
  · intro _
    rw [List.length_append, Nat.zero_add, stored (Nat.lt_succ_self _),
      ofList_of_length_le (Nat.le_refl _)]

theorem stringOf_appended {texts : List (List UInt8)} (plain : ∀ text ∈ texts, 0 ∉ text) :
    ∀ a : Bytes n, (stringOf a).length + texts.flatten.length < n →
      stringOf (texts.foldl appendText a) = stringOf a ++ texts.flatten := by
  induction texts with
  | nil =>
      intro a _
      rw [List.flatten_nil, List.append_nil]
      rfl
  | cons text texts ih =>
      intro a fits
      obtain ⟨first, others⟩ := List.forall_mem_cons.mp plain
      rw [List.flatten_cons, List.length_append] at fits
      have appended := stringOf_appendText (a := a) first (by omega)
      rw [List.foldl_cons, ih others, appended, List.flatten_cons, List.append_assoc]
      rw [appended, List.length_append]
      omega

/-- What is written when texts are appended one after the other. -/
def appendWrites {A : Type} (array : A) : Bytes n → List (List UInt8) → List (Access A)
  | _, [] => []
  | a, text :: texts =>
      ⟨array, (stringOf a).length, text.length + 1⟩ ::
        appendWrites array (appendText a text) texts

/-- The texts are appended inside the array when all of them fit, with one end. -/
theorem within_appendWrites_iff {A : Type} {size : A → Nat} {array : A} (holds : size array = n)
    {texts : List (List UInt8)} (plain : ∀ text ∈ texts, 0 ∉ text) :
    ∀ a : Bytes n, (stringOf a).length < n →
      (Within size (appendWrites array a texts) ↔
        (stringOf a).length + texts.flatten.length < n) := by
  induction texts with
  | nil =>
      intro a ended
      exact iff_of_true (within_nil size) ended
  | cons text texts ih =>
      intro a _
      obtain ⟨first, others⟩ := List.forall_mem_cons.mp plain
      rw [appendWrites, within_cons, inside_mk, holds, List.flatten_cons, List.length_append]
      constructor
      · intro ⟨inside, rest⟩
        have fits : (stringOf a).length + text.length < n := by omega
        have length := congrArg List.length (stringOf_appendText first fits)
        rw [List.length_append] at length
        have all := (ih others _ (by omega)).mp rest
        omega
      · intro all
        have fits : (stringOf a).length + text.length < n := by omega
        have length := congrArg List.length (stringOf_appendText first fits)
        rw [List.length_append] at length
        exact ⟨.inr (by omega), (ih others _ (by omega)).mpr (by omega)⟩

end Append

/-! ## Numbers -/

def digitByte (d : Nat) : UInt8 := UInt8.ofNat (if d < 10 then 48 + d else 55 + d)

/-- A number with at least `width` digits. -/
def numberText (base width n : Nat) : List UInt8 :=
  ((base.digits n).reverse.map digitByte).leftpad width 48

section Numbers
variable {base width n : Nat}

theorem length_numberText (two : 1 < base) (small : n < base ^ width) :
    (numberText base width n).length = width := by
  have short := (Nat.digits_length_le_iff two n).mpr small
  rw [numberText, List.length_leftpad, List.length_map, List.length_reverse]
  exact Nat.max_eq_left short

theorem zero_notMem_numberText (two : 1 < base) (letters : base ≤ 36) :
    0 ∉ numberText base width n := by
  intro member
  rw [numberText, List.leftpad, List.mem_append] at member
  obtain pad | digit := member
  · exact absurd (List.eq_of_mem_replicate pad) (by decide)
  · obtain ⟨d, there, zero⟩ := List.mem_map.mp digit
    have below := Nat.digits_lt_base two (List.mem_reverse.mp there)
    have value := congrArg UInt8.toNat zero
    rw [digitByte, UInt8.toNat_ofNat', UInt8.toNat_zero] at value
    split at value <;> omega

end Numbers

/-! ## Lines -/

section Lines
variable {σ : Type} (take : σ → List UInt8 → σ)

/-- Each byte in turn: a newline hands over the line before it, and what no newline ends is
dropped. -/
def readLines : List UInt8 → List UInt8 → σ → σ
  | [], _, s => s
  | b :: rest, line, s =>
      if b = 10 then readLines rest [] (take s line) else readLines rest (line ++ [b]) s

def joined (lines : List (List UInt8)) : List UInt8 := lines.flatMap (· ++ [10])

theorem readLines_single {line : List UInt8} (single : 10 ∉ line) (rest : List UInt8) :
    ∀ (before : List UInt8) (s : σ),
      readLines take (line ++ rest) before s = readLines take rest (before ++ line) s := by
  induction line with
  | nil => intro before s; simp
  | cons b line ih =>
      intro before s
      have other : b ≠ 10 := fun newline => single (by simp [newline])
      have shorter : 10 ∉ line := fun member => single (List.mem_cons_of_mem b member)
      rw [List.cons_append, readLines, if_neg other, ih shorter, List.append_assoc,
        List.singleton_append]

/-- Lines that are ended by newlines are handed over in turn, and the rest is not. -/
theorem readLines_joined {lines : List (List UInt8)} (single : ∀ line ∈ lines, 10 ∉ line)
    {rest : List UInt8} (unended : 10 ∉ rest) :
    ∀ s : σ, readLines take (joined lines ++ rest) [] s = lines.foldl take s := by
  induction lines with
  | nil =>
      intro s
      have left := readLines_single take unended [] [] s
      rwa [List.append_nil] at left
  | cons line lines ih =>
      intro s
      have first := single line List.mem_cons_self
      have others : ∀ l ∈ lines, 10 ∉ l :=
        fun l member => single l (List.mem_cons_of_mem line member)
      rw [joined, List.flatMap_cons, List.append_assoc, List.append_assoc,
        readLines_single take first, List.nil_append, List.singleton_append, readLines, if_pos rfl]
      exact ih others (take s line)

end Lines
end ByteStore
