import Mathlib.Logic.Basic

/-!
# Runs of a deterministic transition system

A run is a list of events applied one after the other.  `Along P` says that a
property of a state and the event taken in it holds at every step of a run; it
serves both for the assumptions about a run and for what is concluded of it.
`observed` pairs a system with a history variable that never influences it, and
`Simulates` relates a system to a more abstract one, each concrete step
answered by a list of abstract ones.

`Mailbox` is what a buffer with one place between a sender and a receiver is
for: a message is put only when the place is free, and it is taken as it was
put.  That nothing is lost, repeated or altered is a field of the structure, so
every operation owes it.
-/
set_option autoImplicit false
namespace Runs

variable {σ ε : Type}

def run (step : σ → ε → σ) : σ → List ε → σ
  | s, [] => s
  | s, e :: es => run step (step s e) es

def Along (step : σ → ε → σ) (P : σ → ε → Prop) : σ → List ε → Prop
  | _, [] => True
  | s, e :: es => P s e ∧ Along step P (step s e) es

theorem run_append (step : σ → ε → σ) (es fs : List ε) :
    ∀ s, run step s (es ++ fs) = run step (run step s es) fs := by
  induction es with
  | nil => intro s; rfl
  | cons e es ih => intro s; exact ih (step s e)

theorem along_append (step : σ → ε → σ) (P : σ → ε → Prop) (es fs : List ε) :
    ∀ s, Along step P s (es ++ fs) ↔ Along step P s es ∧ Along step P (run step s es) fs := by
  induction es with
  | nil => intro s; simp [Along, run]
  | cons e es ih => intro s; exact (and_congr_right fun _ => ih (step s e)).trans and_assoc.symm

theorem Along.of_all {step : σ → ε → σ} {P : σ → ε → Prop} (all : ∀ s e, P s e) :
    ∀ (es : List ε) (s : σ), Along step P s es := by
  intro es
  induction es with
  | nil => intro s; trivial
  | cons e es ih => intro s; exact ⟨all s e, ih _⟩

instance decidableAlong (step : σ → ε → σ) (P : σ → ε → Prop) [∀ s e, Decidable (P s e)] :
    ∀ (s : σ) (es : List ε), Decidable (Along step P s es)
  | _, [] => .isTrue trivial
  | s, e :: es =>
      have := decidableAlong step P (step s e) es
      inferInstanceAs (Decidable (P s e ∧ Along step P (step s e) es))

/-! ## Invariants -/

section Invariant
variable {step : σ → ε → σ} (ok : σ → ε → Prop) (Inv : σ → Prop)

/-- An invariant kept by every admitted step holds after every admitted run. -/
theorem invariant (kept : ∀ s e, Inv s → ok s e → Inv (step s e)) :
    ∀ (es : List ε) (s : σ), Inv s → Along step ok s es → Inv (run step s es) := by
  intro es
  induction es with
  | nil => intro s holds _; exact holds
  | cons e es ih => intro s holds admitted; exact ih _ (kept s e holds admitted.1) admitted.2

/-- What the invariant gives at one step holds at every step of an admitted run. -/
theorem along_of_invariant {P : σ → ε → Prop}
    (kept : ∀ s e, Inv s → ok s e → Inv (step s e)) (gives : ∀ s e, Inv s → ok s e → P s e) :
    ∀ (es : List ε) (s : σ), Inv s → Along step ok s es → Along step P s es := by
  intro es
  induction es with
  | nil => intro s _ _; trivial
  | cons e es ih =>
      intro s holds admitted
      exact ⟨gives s e holds admitted.1, ih _ (kept s e holds admitted.1) admitted.2⟩

/-- Two properties that agree wherever the invariant holds hold along the same runs. -/
theorem along_iff_of_invariant {P Q : σ → ε → Prop} (kept : ∀ s e, Inv s → Inv (step s e))
    (same : ∀ s e, Inv s → (P s e ↔ Q s e)) :
    ∀ (es : List ε) (s : σ), Inv s → (Along step P s es ↔ Along step Q s es) := by
  intro es
  induction es with
  | nil => intro s _; exact Iff.rfl
  | cons e es ih =>
      intro s holds
      exact and_congr (same s e holds) (ih _ (kept s e holds))

/-- So do two properties that agree wherever an invariant holds that they keep themselves. -/
theorem along_iff_of_kept {P : σ → ε → Prop}
    (kept : ∀ s e, Inv s → ok s e → Inv (step s e)) (same : ∀ s e, Inv s → (P s e ↔ ok s e)) :
    ∀ (es : List ε) (s : σ), Inv s → (Along step P s es ↔ Along step ok s es) := by
  intro es
  induction es with
  | nil => intro s _; exact Iff.rfl
  | cons e es ih =>
      intro s holds
      rw [Along, Along, same s e holds]
      exact and_congr_right fun admitted => ih _ (kept s e holds admitted)

end Invariant

/-! ## History variables -/

section Observer
variable {γ : Type}

def observed (step : σ → ε → σ) (note : γ → σ → ε → γ) (p : σ × γ) (e : ε) : σ × γ :=
  (step p.1 e, note p.2 p.1 e)

theorem along_observed (step : σ → ε → σ) (note : γ → σ → ε → γ) (P : σ → ε → Prop)
    (es : List ε) : ∀ (s : σ) (g : γ),
    Along (observed step note) (fun p e => P p.1 e) (s, g) es ↔ Along step P s es := by
  induction es with
  | nil => intro s g; exact Iff.rfl
  | cons e es ih => intro s g; exact and_congr_right fun _ => ih (step s e) (note g s e)

end Observer

/-! ## Simulation -/

section Simulation
variable {α β : Type}

/-- Every admitted concrete step is answered by the abstract events `answer s e`. -/
def Simulates (step : σ → ε → σ) (ok : σ → ε → Prop) (abstractStep : α → β → α)
    (answer : σ → ε → List β) (R : σ → α → Prop) : Prop :=
  ∀ s e a, R s a → ok s e → R (step s e) (run abstractStep a (answer s e))

def answers (step : σ → ε → σ) (answer : σ → ε → List β) : σ → List ε → List β
  | _, [] => []
  | s, e :: es => answer s e ++ answers step answer (step s e) es

theorem answers_append (step : σ → ε → σ) (answer : σ → ε → List β) (es fs : List ε) :
    ∀ s, answers step answer s (es ++ fs) =
      answers step answer s es ++ answers step answer (run step s es) fs := by
  induction es with
  | nil => intro s; rfl
  | cons e es ih =>
      intro s
      rw [List.cons_append, answers, ih, ← List.append_assoc]
      rfl

theorem Simulates.run_related {step : σ → ε → σ} {ok : σ → ε → Prop} {abstractStep : α → β → α}
    {answer : σ → ε → List β} {R : σ → α → Prop}
    (sim : Simulates step ok abstractStep answer R) :
    ∀ (es : List ε) (s : σ) (a : α), R s a → Along step ok s es →
      R (run step s es) (run abstractStep a (answers step answer s es)) := by
  intro es
  induction es with
  | nil => intro s a related _; exact related
  | cons e es ih =>
      intro s a related admitted
      have next := ih (step s e) _ (sim s e a related admitted.1) admitted.2
      simpa only [run, answers, run_append] using next

end Simulation
end Runs

/-! ## A mailbox with one place -/

structure Mailbox (α : Type) where
  slot : Option α
  received : List α
  taken : List α
  conserved : taken ++ slot.toList = received

namespace Mailbox
variable {α : Type}

def empty : Mailbox α := ⟨none, [], [], rfl⟩

inductive Act (α : Type) where
  | put (message : α)
  | take

/-- A message for an occupied place is refused. -/
def put (m : Mailbox α) (message : α) : Mailbox α :=
  if free : m.slot = none then
    { slot := some message
      received := m.received ++ [message]
      taken := m.taken
      conserved := by
        have before := m.conserved
        rw [free] at before
        simpa using before }
  else m

def take (m : Mailbox α) : Mailbox α where
  slot := none
  received := m.received
  taken := m.taken ++ m.slot.toList
  conserved := by
    rw [Option.toList_none, List.append_nil]
    exact m.conserved

def step (m : Mailbox α) : Act α → Mailbox α
  | .put message => m.put message
  | .take => m.take

theorem put_of_free {m : Mailbox α} (free : m.slot = none) (message : α) :
    (m.put message).slot = some message ∧ (m.put message).received = m.received ++ [message] ∧
      (m.put message).taken = m.taken := by
  simp only [put, free]
  exact ⟨rfl, rfl, rfl⟩

end Mailbox
