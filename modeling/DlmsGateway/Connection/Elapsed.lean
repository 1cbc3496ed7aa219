import DlmsGateway.Gateway.Run

/-!
# The time between two stamps

`diff_time_ms` and `diff_time_s` add a second to a negative difference of the
microseconds and do not take it from the seconds, so that a stamp with fewer
microseconds than the start counts as a second later than it is.  What they
return is a `long`, which has 32 bits on the target.
-/
set_option autoImplicit false
namespace DlmsGateway

/-- What a `long` keeps of a number. -/
def asLong (n : Int) : Int := n.bmod 4294967296

def diffTimeS (start now : Timeval) : Int :=
  let diff := now.usec - start.usec
  let diff := if diff < 0 then diff + 1000000 else diff
  diff.tdiv 1000000 + (now.sec - start.sec)

/-- The condition on which `Socket_Manage_Thread` gives up an idle connection. -/
def idleTooLong (start now : Timeval) (inactivityTimeout : UInt16) : Bool :=
  inactivityTimeout.toNat < asLong (diffTimeS start now) && 0 < inactivityTimeout

namespace Timeval

structure Valid (t : Timeval) : Prop where
  low : 0 ≤ t.usec
  high : t.usec < 1000000

def micros (t : Timeval) : Int := t.sec * 1000000 + t.usec

end Timeval

def elapsed (start now : Timeval) : Int := now.micros - start.micros

/-- No borrow is needed, and the milliseconds fit in a `long`. -/
structure NoBorrow (start now : Timeval) : Prop where
  usec : start.usec ≤ now.usec
  fits : elapsed start now / 1000 < 2147483648

/-- Both functions are right about `now`: they return the elapsed time rounded down, they do not
decrease from there on, and no timeout fires before its time. -/
structure ElapsedRight (start now : Timeval) : Prop where
  ms : asLong (diffTimeMs start now) = elapsed start now / 1000
  s : asLong (diffTimeS start now) = elapsed start now / 1000000
  monotone : ∀ later : Timeval, later.Valid → now.micros ≤ later.micros → NoBorrow start later →
    asLong (diffTimeMs start now) ≤ asLong (diffTimeMs start later) ∧
      asLong (diffTimeS start now) ≤ asLong (diffTimeS start later)
  reply : ∀ s : GwRun, s.timeoutStart = start → s.timedOut now = true →
    s.hdlcTmp.timeoutMs.toNat * 1000 < elapsed start now
  inactivity : ∀ inactivityTimeout : UInt16, idleTooLong start now inactivityTimeout = true →
    inactivityTimeout.toNat * 1000000 < elapsed start now

section Elapsed
variable {start now : Timeval}

theorem asLong_of_small {n : Int} (low : 0 ≤ n) (high : n < 2147483648) : asLong n = n := by
  rw [asLong, Int.bmod_def]
  omega

/-- The borrow counts as a second. -/
theorem diffTime_eq (startValid : start.Valid) (nowValid : now.Valid) :
    diffTimeMs start now =
        elapsed start now / 1000 + (if now.usec < start.usec then 1000 else 0) ∧
      diffTimeS start now =
        elapsed start now / 1000000 + (if now.usec < start.usec then 1 else 0) := by
  have startLow := startValid.low
  have startHigh := startValid.high
  have nowLow := nowValid.low
  have nowHigh := nowValid.high
  unfold diffTimeMs diffTimeS elapsed Timeval.micros
  dsimp only
  by_cases borrow : now.usec < start.usec
  · rw [if_pos (show now.usec - start.usec < 0 by omega), if_pos borrow, if_pos borrow,
      Int.tdiv_eq_ediv_of_nonneg (by omega), Int.tdiv_eq_ediv_of_nonneg (by omega)]
    omega
  · rw [if_neg (show ¬ now.usec - start.usec < 0 by omega), if_neg borrow, if_neg borrow,
      Int.tdiv_eq_ediv_of_nonneg (by omega), Int.tdiv_eq_ediv_of_nonneg (by omega)]
    omega

theorem exact_of_noBorrow (startValid : start.Valid) (nowValid : now.Valid)
    (ordered : start.micros ≤ now.micros) (none_ : NoBorrow start now) :
    asLong (diffTimeMs start now) = elapsed start now / 1000 ∧
      asLong (diffTimeS start now) = elapsed start now / 1000000 := by
  obtain ⟨usec, fits⟩ := none_
  obtain ⟨ms, s⟩ := diffTime_eq startValid nowValid
  have forward : 0 ≤ elapsed start now := by
    unfold elapsed
    omega
  rw [if_neg (by omega), Int.add_zero] at ms s
  rw [ms, s, asLong_of_small (by omega) fits, asLong_of_small (by omega) (by omega)]
  exact ⟨rfl, rfl⟩

theorem noBorrow_of_exact (startValid : start.Valid) (nowValid : now.Valid)
    (exact_ : asLong (diffTimeMs start now) = elapsed start now / 1000) : NoBorrow start now := by
  obtain ⟨ms, -⟩ := diffTime_eq startValid nowValid
  rw [ms, asLong, Int.bmod_def] at exact_
  constructor
  · by_contra borrow
    rw [if_pos (show now.usec < start.usec by omega)] at exact_
    omega
  · split at exact_ <;> omega

theorem elapsedRight_of_noBorrow (startValid : start.Valid) (nowValid : now.Valid)
    (ordered : start.micros ≤ now.micros) (none_ : NoBorrow start now) :
    ElapsedRight start now := by
  obtain ⟨ms, s⟩ := exact_of_noBorrow startValid nowValid ordered none_
  refine ⟨ms, s, ?_, ?_, ?_⟩
  · intro later valid after small
    obtain ⟨laterMs, laterS⟩ :=
      exact_of_noBorrow startValid valid (Int.le_trans ordered after) small
    rw [ms, s, laterMs, laterS]
    unfold elapsed
    omega
  · intro g started fires
    have small := none_.fits
    have forward : 0 ≤ elapsed start now := by
      unfold elapsed
      omega
    have unsigned : diffTimeMs start now % 4294967296 = elapsed start now / 1000 := by
      rw [asLong, Int.bmod_def] at ms
      split at ms <;> omega
    rw [GwRun.timedOut, started, unsigned, decide_eq_true_eq] at fires
    omega
  · intro inactivityTimeout fires
    simp only [idleTooLong, s, Bool.and_eq_true, decide_eq_true_eq] at fires
    omega

end Elapsed

theorem elapsed_right_iff (start now : Timeval) (startValid : start.Valid)
    (nowValid : now.Valid) (ordered : start.micros ≤ now.micros) :
    ElapsedRight start now ↔ NoBorrow start now :=
  ⟨fun right => noBorrow_of_exact startValid nowValid right.ms,
    elapsedRight_of_noBorrow startValid nowValid ordered⟩

theorem next_second_right : ElapsedRight ⟨0, 999000⟩ ⟨1, 999000⟩ :=
  (elapsed_right_iff ⟨0, 999000⟩ ⟨1, 999000⟩ ⟨by decide, by decide⟩ ⟨by decide, by decide⟩
    (by decide)).mpr ⟨by decide, by decide⟩

/-- Two milliseconds over a second boundary count as 1002. -/
theorem boundary_counts_as_second :
    ¬ ∀ start now : Timeval, start.Valid → now.Valid → start.micros ≤ now.micros →
      ElapsedRight start now := by
  intro right
  have ms := (right ⟨0, 999000⟩ ⟨1, 1000⟩ ⟨by decide, by decide⟩ ⟨by decide, by decide⟩
    (by decide)).ms
  revert ms
  decide

end DlmsGateway
