import Mathlib.Data.BitVec

/-!
# Cyclic redundancy checks

A reflected check of any width: the register moves down one place and the
polynomial is added when a one falls out.  A move is linear, so that eight of
them are the register moved down eight places and the table's word for its low
byte; a program that reads the words from a table computes the same register.
-/
set_option autoImplicit false
namespace Crc

variable {w : Nat} (polynomial : BitVec w)

def shift (register : BitVec w) : BitVec w :=
  if register.getLsbD 0 then (register >>> 1) ^^^ polynomial else register >>> 1

def shifts : Nat → BitVec w → BitVec w
  | 0, register => register
  | n + 1, register => shift polynomial (shifts n register)

/-- One byte, its low bit first. -/
def update (register : BitVec w) (byte : BitVec 8) : BitVec w :=
  shifts polynomial 8 (register ^^^ byte.setWidth w)

def after (register : BitVec w) (bytes : List (BitVec 8)) : BitVec w :=
  bytes.foldl (update polynomial) register

def tableWord (byte : BitVec 8) : BitVec w := shifts polynomial 8 (byte.setWidth w)

/-! ## Linearity -/

theorem shift_xor (a b : BitVec w) :
    shift polynomial (a ^^^ b) = shift polynomial a ^^^ shift polynomial b := by
  have moved : (a ^^^ b) >>> 1 = (a >>> 1) ^^^ (b >>> 1) := BitVec.ushiftRight_xor_distrib a b 1
  unfold shift
  rw [BitVec.getLsbD_xor, moved]
  cases a.getLsbD 0 <;> cases b.getLsbD 0
  · rfl
  · exact BitVec.xor_assoc _ _ _
  · show (a >>> 1) ^^^ (b >>> 1) ^^^ polynomial = (a >>> 1) ^^^ polynomial ^^^ (b >>> 1)
    rw [BitVec.xor_assoc, BitVec.xor_comm (b >>> 1), BitVec.xor_assoc]
  · show (a >>> 1) ^^^ (b >>> 1) = (a >>> 1) ^^^ polynomial ^^^ ((b >>> 1) ^^^ polynomial)
    rw [BitVec.xor_comm (b >>> 1), ← BitVec.xor_assoc, BitVec.xor_assoc (a >>> 1) polynomial,
      BitVec.xor_self, BitVec.xor_zero]

theorem shifts_xor (n : Nat) (a b : BitVec w) :
    shifts polynomial n (a ^^^ b) = shifts polynomial n a ^^^ shifts polynomial n b := by
  induction n with
  | zero => rfl
  | succ n ih => rw [shifts, shifts, shifts, ih, shift_xor]

theorem shifts_of_clear (register : BitVec w) :
    ∀ n, (∀ i, i < n → register.getLsbD i = false) →
      shifts polynomial n register = register >>> n := by
  intro n
  induction n with
  | zero => intro _; exact (BitVec.ushiftRight_zero register).symm
  | succ n ih =>
      intro clear
      have out : (register >>> n).getLsbD 0 = false := by
        rw [BitVec.getLsbD_ushiftRight]
        exact clear n (Nat.lt_succ_self n)
      rw [shifts, ih fun i bound => clear i (Nat.lt_succ_of_lt bound), shift, out,
        BitVec.shiftRight_add]
      rfl

/-! ## The table -/

def index (register : BitVec w) : BitVec 8 := register.setWidth 8

theorem clear_above (register : BitVec w) {i : Nat} (low : i < 8) :
    (register ^^^ (index register).setWidth w).getLsbD i = false := by
  simp only [index, BitVec.getLsbD_xor, BitVec.getLsbD_setWidth]
  by_cases inside : i < w
  · simp [low, inside]
  · simp [inside, BitVec.getLsbD_of_ge register i (by omega)]

theorem byte_shifted_out (byte : BitVec 8) : (byte.setWidth w) >>> 8 = 0#w := by
  apply BitVec.eq_of_getLsbD_eq
  intro i _
  rw [BitVec.getLsbD_ushiftRight, BitVec.getLsbD_setWidth, BitVec.getLsbD_of_ge byte _ (by omega)]
  simp

/-- Eight moves: the word of the low byte, and the rest moved down. -/
theorem shifts_eight (register : BitVec w) :
    shifts polynomial 8 register = (register >>> 8) ^^^ tableWord polynomial (index register) := by
  have split : register =
      (register ^^^ (index register).setWidth w) ^^^ (index register).setWidth w := by
    rw [BitVec.xor_assoc, BitVec.xor_self, BitVec.xor_zero]
  have high : (register ^^^ (index register).setWidth w) >>> 8 = register >>> 8 := by
    rw [BitVec.ushiftRight_xor_distrib, byte_shifted_out, BitVec.xor_zero]
  calc shifts polynomial 8 register
      = shifts polynomial 8 (register ^^^ (index register).setWidth w) ^^^
          tableWord polynomial (index register) := by
        rw [tableWord, ← shifts_xor, ← split]
    _ = (register >>> 8) ^^^ tableWord polynomial (index register) := by
        rw [shifts_of_clear polynomial _ 8 fun i low => clear_above register low, high]

theorem update_table (register : BitVec w) (byte : BitVec 8) :
    update polynomial register byte =
      (register >>> 8) ^^^ tableWord polynomial (index (register ^^^ byte.setWidth w)) := by
  rw [update, shifts_eight, BitVec.ushiftRight_xor_distrib, byte_shifted_out, BitVec.xor_zero]

theorem after_append (register : BitVec w) (front back : List (BitVec 8)) :
    after polynomial register (front ++ back) =
      after polynomial (after polynomial register front) back :=
  List.foldl_append

/-! ## The residue -/

/-- The low `n` bytes of a word, the lowest first. -/
def wordBytes : Nat → BitVec w → List (BitVec 8)
  | 0, _ => []
  | n + 1, word => index word :: wordBytes n (word >>> 8)

theorem shifts_add (m n : Nat) (register : BitVec w) :
    shifts polynomial (m + n) register = shifts polynomial m (shifts polynomial n register) := by
  induction m with
  | zero => rw [Nat.zero_add, shifts]
  | succ m ih => rw [Nat.succ_add, shifts, shifts, ih]

theorem index_xor_setWidth (register word : BitVec w) :
    index (register ^^^ (index word).setWidth w) = index (register ^^^ word) := by
  apply BitVec.eq_of_getLsbD_eq
  intro i low
  simp only [index, BitVec.getLsbD_setWidth, BitVec.getLsbD_xor, low, decide_true, Bool.true_and]
  by_cases inside : i < w
  · simp [inside]
  · simp [inside, BitVec.getLsbD_of_ge word i (by omega)]

/-- The lowest byte goes in, and the others are added where they are then. -/
theorem update_index_xor (register word : BitVec w) :
    update polynomial register (index word) ^^^ (word >>> 8) =
      shifts polynomial 8 (register ^^^ word) := by
  rw [update_table, shifts_eight, BitVec.ushiftRight_xor_distrib, BitVec.xor_assoc,
    BitVec.xor_comm (tableWord _ _), ← BitVec.xor_assoc, index_xor_setWidth]

/-- A word that is sent behind the message goes into the register as a whole. -/
theorem after_wordBytes (n : Nat) : ∀ register word : BitVec w, word >>> (8 * n) = 0#w →
    after polynomial register (wordBytes n word) =
      shifts polynomial (8 * n) (register ^^^ word) := by
  induction n with
  | zero =>
      intro register word sent
      rw [Nat.mul_zero, BitVec.ushiftRight_zero] at sent
      rw [sent, BitVec.xor_zero]
      rfl
  | succ n ih =>
      intro register word sent
      have rest : (word >>> 8) >>> (8 * n) = 0#w := by
        rw [← BitVec.shiftRight_add, Nat.add_comm, ← Nat.mul_succ]
        exact sent
      calc after polynomial register (wordBytes (n + 1) word)
          = after polynomial (update polynomial register (index word))
              (wordBytes n (word >>> 8)) := rfl
        _ = shifts polynomial (8 * n) (shifts polynomial 8 (register ^^^ word)) := by
            rw [ih _ _ rest, update_index_xor]
        _ = shifts polynomial (8 * (n + 1)) (register ^^^ word) := by
            rw [← shifts_add, Nat.mul_succ]

/-- What the complement of the register leaves, whatever the message was. -/
theorem after_complement {n : Nat} (bytes : w ≤ 8 * n) (register : BitVec w) :
    after polynomial register (wordBytes n (~~~ register)) =
      shifts polynomial (8 * n) (BitVec.allOnes w) := by
  have sent : (~~~ register) >>> (8 * n) = 0#w := by
    apply BitVec.eq_of_getLsbD_eq
    intro i _
    rw [BitVec.getLsbD_ushiftRight, BitVec.getLsbD_of_ge _ _ (by omega), BitVec.getLsbD_zero]
  have ones : register ^^^ ~~~ register = BitVec.allOnes w := by
    rw [← BitVec.not_xor_right, BitVec.xor_self, BitVec.not_zero]
  rw [after_wordBytes polynomial n register _ sent, ones]

end Crc
