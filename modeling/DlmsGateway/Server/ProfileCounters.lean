import DlmsGateway.Lib.Runs
import DlmsGateway.Server.CaptureRing

/-!
# The counters of a profile over restarts

The number of rows is stored twice: by every capture in the profile's file, and
by `saveSettings` in `settings.raw`.  Only the methods save; a capture by
`updateState` is not saved before something else saves.  A power cycle loads
the number that was saved last, and on the event log captures `POWER_UP` on top
of it.  It may come between a capture and the `saveSettings` after it, so that
saving is a step of its own.
-/
set_option autoImplicit false
namespace DlmsGateway

namespace ProfileGeneric
variable {pg : ProfileGeneric} {file : List UInt8}

def capturedFile (pg : ProfileGeneric) (r : Readings) (file : List UInt8) : List UInt8 :=
  let index := BigEndian.decode (ByteFile.readAt file 0 2)
  ByteFile.writeAt (ByteFile.writeAt file 0 (pg.header r index))
    (pg.rowPosition index 0 (rowSize r pg.captureObjects)) (rowBytes r pg.captureObjects).1

def loggedCount (pg : ProfileGeneric) (r : Readings) : List UInt8 :=
  if pg.profileEntries ≠ 0 then BigEndian.encode 2 pg.countEntry.toNat else r.pduBuff.toList.drop 2

theorem captureProfileGeneric_eq (r : Readings) (present : pg.file = some file)
    (long : 4 ≤ file.length) (narrow : pg.captureObjects.length ≤ 10) :
    pg.captureProfileGeneric r = some
      ({ pg with
          entriesInUse := if (rowBytes r pg.captureObjects).2 then pg.countEntry
            else pg.countEntry - 1
          file := some (capturedFile pg r file) }, (rowBytes r pg.captureObjects).2) := by
  have index : loadIndex file = (BigEndian.decode (ByteFile.readAt file 0 2), 0) :=
    if_pos (by omega)
  rw [captureProfileGeneric, present]
  simp only [index]
  rw [if_neg (by omega)]
  rfl

theorem captureProfileGeneric_of_wide (r : Readings) (present : pg.file = some file)
    (wide : ¬ pg.captureObjects.length ≤ 10) : pg.captureProfileGeneric r = none := by
  rw [captureProfileGeneric, present]
  dsimp only
  rw [if_pos (by omega)]

/-- No row is written over the counts. -/
theorem four_le_rowPosition {index : Nat} (small : pg.profileEntries.toNat < 65536 ∨ index < 65536)
    (start : Nat) (dataSize : UInt16) : 4 ≤ pg.rowPosition index start dataSize := by
  rw [rowPosition]
  split
  · rename_i some_
    have positive : 0 < pg.profileEntries.toNat := by
      rw [Nat.pos_iff_ne_zero]
      exact fun zero => some_.2 (UInt32.toNat_inj.mp zero)
    have slot : (UInt32.ofNat index % pg.profileEntries).toNat ≤ 65535 := by
      have below := Nat.mod_lt (UInt32.ofNat index).toNat positive
      have first := Nat.mod_le (UInt32.ofNat index).toNat pg.profileEntries.toNat
      have wrapped := Nat.mod_le index (2 ^ 32)
      rw [UInt32.toNat_mod]
      rw [UInt32.toNat_ofNat'] at below first ⊢
      omega
    have row : dataSize.toUInt32.toNat ≤ 65535 := by
      have := dataSize.toNat_lt
      rw [UInt16.toNat_toUInt32]
      omega
    have product := Nat.mul_le_mul slot row
    have four : (4 : UInt32).toNat = 4 := rfl
    rw [UInt32.toNat_add, UInt32.toNat_mul, four]
    omega
  · omega

theorem logged_capturedFile (r : Readings) (small : pg.profileEntries.toNat < 65536)
    (long : 4 ≤ file.length) :
    ByteFile.readAt (capturedFile pg r file) 2 2 = pg.loggedCount r := by
  obtain ⟨first, length, header⟩ : ∃ first : List UInt8, first.length = 2 ∧
      pg.header r (BigEndian.decode (ByteFile.readAt file 0 2)) = first ++ pg.loggedCount r := by
    by_cases zero : pg.profileEntries = 0
    · exact ⟨_, BigEndian.length_encode 2 pg.countEntry.toNat, by simp [header, loggedCount, zero]⟩
    · refine ⟨BigEndian.encode 2 ((1 + BigEndian.decode (ByteFile.readAt file 0 2)) %
        pg.profileEntries.toNat), BigEndian.length_encode _ _, ?_⟩
      rw [header, if_pos zero, loggedCount, if_pos zero]
      simp
  have two : (pg.loggedCount r).length = 2 := by
    rw [loggedCount]
    split <;> simp
  have second := ByteFile.readAt_writeAt_second file first 0 (pg.loggedCount r)
  rw [two, length] at second
  rw [capturedFile, ByteFile.readAt_writeAt_before _ _ (four_le_rowPosition (.inl small) _ _)
    (Nat.le_trans long (ByteFile.le_length_writeAt ..)), header]
  exact second

end ProfileGeneric

structure ProfileRun where
  pg : ProfileGeneric
  /-- `entriesInUse` in `settings.raw` -/
  saved : UInt32
  /-- The profile that `updateState` captures. -/
  isEventLog : Bool
  /-- History: the successful captures since the last clear. -/
  captured : Nat

inductive ProfileEvent where
  | method (index : UInt8) (r : Readings)
  | updateState (r : Readings)
  | saveSettings
  | powerCycle (r : Readings)

namespace ProfileRun

/-- `captureProfileGeneric` with the capture noted. -/
def capture (s : ProfileRun) (r : Readings) : Option ProfileRun :=
  (s.pg.captureProfileGeneric r).map fun (pg, ok) =>
    { s with pg, captured := if ok then s.captured + 1 else s.captured }

def updateState (s : ProfileRun) (r : Readings) : Option ProfileRun :=
  if s.isEventLog then s.capture r else some s

def next (s : ProfileRun) : ProfileEvent → Option ProfileRun
  | .method index r =>
      if index = 2 then s.capture r
      else
        (s.pg.handleProfileGenericActions index r).map fun pg =>
          { s with pg, captured := if index = 1 then 0 else s.captured }
  | .updateState r => s.updateState r
  | .saveSettings => some { s with saved := s.pg.entriesInUse }
  | .powerCycle r => { s with pg := { s.pg with entriesInUse := s.saved } }.updateState r

def step (s : ProfileRun) (e : ProfileEvent) : ProfileRun := (s.next e).getD s

def rows (s : ProfileRun) : Nat := min s.captured s.pg.profileEntries.toNat

/-- Both counts are the number of rows. -/
def InStep (s : ProfileRun) : Prop :=
  s.pg.entriesInUse.toNat = s.rows ∧
    ∃ file, s.pg.file = some file ∧ ByteFile.readAt file 2 2 = BigEndian.encode 2 s.rows

def StaysInStep (s : ProfileRun) (e : ProfileEvent) : Prop := ∃ t, s.next e = some t ∧ t.InStep

/-- Every column gives its value, and there are no more than the capture has room for. -/
def Captures (s : ProfileRun) (r : Readings) : Prop :=
  s.pg.captureObjects.length ≤ 10 ∧ (rowBytes r s.pg.captureObjects).2 = true

/-- Counted on from the saved number, the event log has one row more or is full. -/
def CountsOn (s : ProfileRun) : Prop :=
  s.saved.toNat ≤ s.pg.profileEntries.toNat ∧
    min (s.saved.toNat + 1) s.pg.profileEntries.toNat =
      min (s.captured + 1) s.pg.profileEntries.toNat

def Undisturbed (s : ProfileRun) : ProfileEvent → Prop
  | .method index r => index = 2 → s.Captures r
  | .updateState r => s.isEventLog = true → s.Captures r
  | .saveSettings => True
  | .powerCycle r =>
      if s.isEventLog then s.Captures r ∧ s.CountsOn else s.saved.toNat = s.rows

instance (s : ProfileRun) (r : Readings) : Decidable (s.Captures r) :=
  inferInstanceAs (Decidable (_ ∧ _))

instance (s : ProfileRun) : Decidable s.CountsOn := inferInstanceAs (Decidable (_ ∧ _))

instance (s : ProfileRun) : ∀ e, Decidable (s.Undisturbed e)
  | .method index r => inferInstanceAs (Decidable (index = 2 → s.Captures r))
  | .updateState r => inferInstanceAs (Decidable (s.isEventLog = true → s.Captures r))
  | .saveSettings => .isTrue trivial
  | .powerCycle r => inferInstanceAs (Decidable
      (if s.isEventLog then s.Captures r ∧ s.CountsOn else s.saved.toNat = s.rows))

/-! ## One capture -/

def Sized (pg : ProfileGeneric) : Prop :=
  0 < pg.profileEntries.toNat ∧ pg.profileEntries.toNat < 65536

instance (pg : ProfileGeneric) : Decidable (Sized pg) := inferInstanceAs (Decidable (_ ∧ _))

section Capture
variable {s : ProfileRun} {r : Readings} {file : List UInt8}

theorem capture_eq (present : s.pg.file = some file) (long : 4 ≤ file.length)
    (narrow : s.pg.captureObjects.length ≤ 10) :
    s.capture r = some { s with
      pg := { s.pg with
        entriesInUse := if (rowBytes r s.pg.captureObjects).2 then s.pg.countEntry
          else s.pg.countEntry - 1
        file := some (ProfileGeneric.capturedFile s.pg r file) }
      captured := if (rowBytes r s.pg.captureObjects).2 then s.captured + 1 else s.captured } := by
  rw [capture, ProfileGeneric.captureProfileGeneric_eq r present long narrow]
  rfl

theorem capture_of_wide (present : s.pg.file = some file)
    (wide : ¬ s.pg.captureObjects.length ≤ 10) : s.capture r = none := by
  rw [capture, ProfileGeneric.captureProfileGeneric_of_wide r present wide]
  rfl

theorem count_capturedFile {pg : ProfileGeneric} (sized : Sized pg) (long : 4 ≤ file.length) :
    ByteFile.readAt (ProfileGeneric.capturedFile pg r file) 2 2 =
      BigEndian.encode 2 pg.countEntry.toNat := by
  have some_ : pg.profileEntries ≠ 0 := by
    intro zero
    have positive := sized.1
    rw [zero] at positive
    exact absurd positive (by decide)
  rw [ProfileGeneric.logged_capturedFile r sized.2 long, ProfileGeneric.loggedCount, if_pos some_]

theorem inStep_capture_iff (present : s.pg.file = some file) (long : 4 ≤ file.length)
    (sized : Sized s.pg) :
    (∃ t, s.capture r = some t ∧ t.InStep) ↔
      s.Captures r ∧ s.pg.countEntry.toNat = min (s.captured + 1) s.pg.profileEntries.toNat := by
  have count := count_capturedFile (r := r) sized long
  by_cases narrow : s.pg.captureObjects.length ≤ 10
  · rw [capture_eq present long narrow]
    simp only [Option.some.injEq, exists_eq_left', Captures, narrow, true_and]
    by_cases ok : (rowBytes r s.pg.captureObjects).2 = true
    · simp only [ok, if_true, InStep, rows, Option.some.injEq, exists_eq_left', true_and, count]
      constructor
      · exact And.left
      · intro counted
        exact ⟨counted, by rw [counted]⟩
    · simp only [ok, Bool.false_eq_true, if_false, InStep, rows, Option.some.injEq,
        exists_eq_left', false_and, iff_false, count]
      rintro ⟨inUse, counted⟩
      have stored := congrArg BigEndian.decode counted
      have positive := sized.1
      have small := sized.2
      have wide := s.pg.countEntry.toNat_lt
      rw [BigEndian.decode_encode, BigEndian.decode_encode] at stored
      rw [UInt32.toNat_sub, UInt32.toNat_one] at inUse
      omega
  · rw [capture_of_wide present narrow]
    simp [Captures, narrow]

end Capture

/-! ## One event -/

section Next
variable {s t : ProfileRun} {e : ProfileEvent}

theorem profileEntries_capture {r : Readings} (captured : s.capture r = some t) :
    t.pg.profileEntries = s.pg.profileEntries := by
  rw [capture, Option.map_eq_some_iff] at captured
  obtain ⟨⟨pg, ok⟩, made, rfl⟩ := captured
  unfold ProfileGeneric.captureProfileGeneric at made
  split at made
  · cases made
    rfl
  · split at made
    · cases made
    · cases made
      rfl

theorem profileEntries_next (reached : s.next e = some t) :
    t.pg.profileEntries = s.pg.profileEntries := by
  cases e with
  | method index r =>
      rw [next] at reached
      split at reached
      · exact profileEntries_capture reached
      · rename_i other
        unfold ProfileGeneric.handleProfileGenericActions at reached
        rw [if_neg other] at reached
        split at reached <;> cases reached <;> rfl
  | updateState r =>
      rw [next, updateState] at reached
      split at reached
      · exact profileEntries_capture reached
      · cases reached
        rfl
  | saveSettings =>
      cases reached
      rfl
  | powerCycle r =>
      rw [next, updateState] at reached
      split at reached
      · exact profileEntries_capture (s := { s with pg := { s.pg with entriesInUse := s.saved } })
          reached
      · cases reached
        rfl

theorem four_le_length {file : List UInt8} {n : Nat}
    (count : ByteFile.readAt file 2 2 = BigEndian.encode 2 n) : 4 ≤ file.length := by
  have length := congrArg List.length count
  rw [BigEndian.length_encode, ByteFile.readAt, List.length_take, List.length_drop] at length
  omega

theorem capture_staysInStep_iff {r : Readings} (inStep : s.InStep) (sized : Sized s.pg) :
    (∃ t, s.capture r = some t ∧ t.InStep) ↔ s.Captures r := by
  obtain ⟨inUse, file, present, count⟩ := inStep
  rw [inStep_capture_iff present (four_le_length count) sized]
  exact and_iff_left (ProfileGeneric.toNat_countEntry_of_min inUse sized.2)

theorem countsOn_iff (sized : Sized s.pg) :
    ({ s.pg with entriesInUse := s.saved } : ProfileGeneric).countEntry.toNat =
      min (s.captured + 1) s.pg.profileEntries.toNat ↔ s.CountsOn := by
  obtain ⟨positive, small⟩ := sized
  have wide := s.saved.toNat_lt
  rw [ProfileGeneric.countEntry, CountsOn]
  dsimp only
  by_cases full : s.saved = s.pg.profileEntries
  · rw [if_neg (not_not.mpr full), full]
    omega
  · have other : s.saved.toNat ≠ s.pg.profileEntries.toNat := fun same =>
      full (UInt32.toNat_inj.mp same)
    rw [if_pos full, UInt32.toNat_add, UInt32.toNat_one]
    omega

theorem inStep_clear (inStep : s.InStep) :
    InStep { s with
      pg := { s.pg with
        entriesInUse := 0
        file := s.pg.file.map fun file =>
          ByteFile.writeAt file 0 (BigEndian.encode 2 0 ++ BigEndian.encode 2 0) }
      captured := 0 } := by
  obtain ⟨-, file, present, -⟩ := inStep
  have second := ByteFile.readAt_writeAt_second file (BigEndian.encode 2 0) 0
    (BigEndian.encode 2 0)
  rw [BigEndian.length_encode, Nat.zero_add] at second
  refine ⟨(Nat.zero_min _).symm, _, by rw [present]; rfl, ?_⟩
  rw [second, rows, Nat.zero_min]

theorem staysInStep_iff (inStep : s.InStep) (sized : Sized s.pg) :
    s.StaysInStep e ↔ s.Undisturbed e := by
  cases e with
  | method index r =>
      rw [StaysInStep, next, Undisturbed]
      by_cases two : index = 2
      · rw [if_pos two]
        simp only [two, true_implies]
        exact capture_staysInStep_iff inStep sized
      · rw [if_neg two]
        simp only [two, false_implies, iff_true]
        by_cases one : index = 1
        · subst one
          exact ⟨_, rfl, inStep_clear inStep⟩
        · refine ⟨s, ?_, inStep⟩
          simp only [ProfileGeneric.handleProfileGenericActions, one, two, if_false]
          rfl
  | updateState r =>
      rw [StaysInStep, next, updateState, Undisturbed]
      split
      · rename_i log
        simp only [log, true_implies]
        exact capture_staysInStep_iff inStep sized
      · rename_i other
        simp [other, inStep]
  | saveSettings =>
      exact iff_of_true ⟨_, rfl, inStep⟩ trivial
  | powerCycle r =>
      rw [StaysInStep, next, updateState, Undisturbed]
      obtain ⟨inUse, file, present, count⟩ := inStep
      dsimp only
      split
      · rw [inStep_capture_iff (s := { s with pg := { s.pg with entriesInUse := s.saved } })
          present (four_le_length count) sized, countsOn_iff sized]
        rfl
      · simp only [Option.some.injEq, exists_eq_left']
        exact and_iff_left ⟨file, present, count⟩

theorem inStep_step (inStep : s.InStep ∧ Sized s.pg) (undisturbed : s.Undisturbed e) :
    (s.step e).InStep ∧ Sized (s.step e).pg := by
  obtain ⟨t, reached, holds⟩ := (staysInStep_iff inStep.1 inStep.2).mpr undisturbed
  have same := profileEntries_next reached
  rw [step, reached, Option.getD_some]
  refine ⟨holds, ?_⟩
  rw [Sized, same]
  exact inStep.2

end Next

/-- The two counts stay in step as long as every capture succeeds and every restart counts on from
a number that gives the same. -/
theorem counts_in_step_iff (s : ProfileRun) (es : List ProfileEvent)
    (positive : 0 < s.pg.profileEntries) (small : s.pg.profileEntries < 65536)
    (inStep : s.InStep) :
    Runs.Along step StaysInStep s es ↔ Runs.Along step Undisturbed s es :=
  Runs.along_iff_of_kept Undisturbed (fun s => s.InStep ∧ Sized s.pg)
    (fun _ _ => inStep_step) (fun _ _ holds => staysInStep_iff holds.1 holds.2) es s
    ⟨inStep, UInt32.lt_iff_toNat_lt.mp positive, UInt32.lt_iff_toNat_lt.mp small⟩

def clearedLog : ProfileRun where
  pg := ProfileGeneric.twoEntries 0 [0, 0, 0, 0]
  saved := 0
  isEventLog := true
  captured := 0

theorem clearedLog_inStep : clearedLog.InStep := ⟨rfl, _, rfl, by decide⟩

open ProfileGeneric in
theorem saved_log_in_step : Runs.Along step StaysInStep clearedLog
    [.updateState (reading 1), .saveSettings, .powerCycle (reading 2)] :=
  (counts_in_step_iff _ _ (by decide) (by decide) clearedLog_inStep).mpr (by decide +kernel)

/-- An event that nothing saved is lost by the next start. -/
theorem event_before_restart_lost :
    ¬ ∀ (s : ProfileRun) (es : List ProfileEvent), 0 < s.pg.profileEntries →
      s.pg.profileEntries < 65536 → s.InStep → Runs.Along step StaysInStep s es := by
  intro kept
  have along := kept clearedLog
    [.updateState (ProfileGeneric.reading 1), .powerCycle (ProfileGeneric.reading 2)]
    (by decide) (by decide) clearedLog_inStep
  have first : (clearedLog.step (.updateState (ProfileGeneric.reading 1))).InStep :=
    ⟨rfl, _, rfl, by decide⟩
  have counted := (staysInStep_iff first (by decide)).mp along.2.1
  exact absurd counted (by decide +kernel)

end ProfileRun
end DlmsGateway
