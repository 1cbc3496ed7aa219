import Mathlib.Data.List.Basic

/-!
# Intervals of consecutive numbers

What a property that holds between any two numbers it holds of selects from
consecutive numbers is again consecutive.
-/
set_option autoImplicit false
namespace Intervals

/-- Between two of the numbers that are selected all are. -/
def Convex (p : Nat → Bool) (base len : Nat) : Prop :=
  ∀ i j k, base ≤ i → i ≤ j → j ≤ k → k < base + len → p i = true → p k = true → p j = true

theorem filter_range'_of_convex {p : Nat → Bool} {base len : Nat} (convex : Convex p base len) :
    ∃ first count, (List.range' base len).filter p = List.range' first count ∧
      base ≤ first ∧ first + count ≤ base + len := by
  induction len with
  | zero => exact ⟨base, 0, rfl, Nat.le_refl _, Nat.le_refl _⟩
  | succ len ih =>
      have convexBefore : Convex p base len := fun i j k above first second below =>
        convex i j k above first second (by omega)
      obtain ⟨first, count, before, low, high⟩ := ih convexBefore
      rw [List.range'_concat, List.filter_append, before, Nat.one_mul]
      cases last : p (base + len) with
      | false =>
          refine ⟨first, count, ?_, low, by omega⟩
          rw [List.filter_singleton, last, cond_false, List.append_nil]
      | true =>
          rw [List.filter_singleton, last, cond_true]
          by_cases none_ : count = 0
          · subst none_
            exact ⟨base + len, 1, rfl, by omega, by omega⟩
          · have selected : ∀ k, first ≤ k → k < first + count → p k = true := by
              intro k above below
              have member : k ∈ (List.range' base len).filter p := by
                rw [before, List.mem_range'_1]
                exact ⟨above, below⟩
              exact (List.mem_filter.mp member).2
            -- the numbers behind the last selected one would be selected too
            have adjacent : first + count = base + len := by
              by_contra apart
              have between := convex (first + count - 1) (first + count) (base + len) (by omega)
                (by omega) (by omega) (by omega) (selected _ (by omega) (by omega)) last
              have member : first + count ∈ (List.range' base len).filter p :=
                List.mem_filter.mpr ⟨List.mem_range'_1.mpr ⟨by omega, by omega⟩, between⟩
              rw [before, List.mem_range'_1] at member
              omega
            refine ⟨first, count + 1, ?_, low, by omega⟩
            rw [List.range'_concat, Nat.one_mul, adjacent]

/-- The place in its block of every number of an interval that no multiple cuts. -/
theorem mod_of_uncut {n first count : Nat} (positive : 0 < n)
    (uncut : ∀ k, first ≤ k → k + 1 < first + count → (k + 1) % n ≠ 0) :
    ∀ i, i < count → (first + i) % n = first % n + i := by
  intro i
  induction i with
  | zero => intro _; rw [Nat.add_zero, Nat.add_zero]
  | succ i ih =>
      intro inside
      have before := ih (by omega)
      have step := uncut (first + i) (by omega) (by omega)
      have below := Nat.mod_lt (first + i) positive
      rw [← Nat.mod_add_mod] at step
      rw [← Nat.add_assoc, ← Nat.mod_add_mod]
      by_cases last : (first + i) % n + 1 = n
      · rw [last, Nat.mod_self] at step
        exact absurd rfl step
      · rw [Nat.mod_eq_of_lt (by omega), before, Nat.add_assoc]

end Intervals
