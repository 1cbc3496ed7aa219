import DlmsGateway.Server.ProfileCounters

/-!
# A capture that fails

The header with the next index and the new count is written before the first
column is read, and the columns before the failing one are in the slot of a row
when it fails.  Afterwards the count in memory is taken back, whether or not it
was raised.

The size of a row is any: where a column cannot be measured, the capture itself
computes a smaller one.
-/
set_option autoImplicit false
namespace DlmsGateway.ProfileGeneric

section Capture
variable (pg : ProfileGeneric) (r : Readings) (size : Nat)

/-- The rows that the header of a file counts. -/
def countedRows (file : List UInt8) : List UInt8 :=
  ByteFile.readAt file 4 (BigEndian.decode (ByteFile.readAt file 2 2) * size)

/-- The count in memory, and the header and the counted rows of the file. -/
def contents : UInt32 × Option (List UInt8 × List UInt8) :=
  (pg.entriesInUse, pg.file.map fun file => (ByteFile.readAt file 0 4, countedRows size file))

def FailsAtomically : Prop :=
  ∀ pg', pg.captureProfileGeneric r = some (pg', false) → pg'.contents size = pg.contents size

/-- The count is raised, and what the capture writes over the header and the counted rows is there
already. -/
def LeavesAsFound (file : List UInt8) : Prop :=
  pg.entriesInUse ≠ pg.profileEntries ∧
    ByteFile.readAt file 0 4 = pg.header r (BigEndian.decode (ByteFile.readAt file 0 2)) ∧
    ByteFile.Keeps file (rowBytes r pg.captureObjects).1
      (pg.rowPosition (BigEndian.decode (ByteFile.readAt file 0 2)) 0
        (rowSize r pg.captureObjects))
      4 (BigEndian.decode (ByteFile.readAt file 2 2) * size)

def CapturesOrLeaves : Prop :=
  ∀ file, pg.file = some file → pg.captureObjects.length ≤ 10 →
    (rowBytes r pg.captureObjects).2 = false → pg.LeavesAsFound r size file

end Capture

section Header
variable {pg : ProfileGeneric} {r : Readings} {size : Nat} {file : List UInt8}

theorem length_header (pg : ProfileGeneric) (r : Readings) (index : Nat) :
    (pg.header r index).length = 4 := by
  rw [header]
  split <;> simp

theorem index_lt (file : List UInt8) : BigEndian.decode (ByteFile.readAt file 0 2) < 65536 :=
  Nat.lt_of_lt_of_le (BigEndian.decode_lt _)
    (Nat.pow_le_pow_right (show 0 < 256 by decide) (List.length_take_le 2 _))

theorem header_capturedFile (long : 4 ≤ file.length) :
    ByteFile.readAt (capturedFile pg r file) 0 4 =
      pg.header r (BigEndian.decode (ByteFile.readAt file 0 2)) := by
  have four := length_header pg r (BigEndian.decode (ByteFile.readAt file 0 2))
  have written := ByteFile.readAt_writeAt file
    (pg.header r (BigEndian.decode (ByteFile.readAt file 0 2))) 0
  rw [four] at written
  rw [capturedFile, ByteFile.readAt_writeAt_before _ _
    (four_le_rowPosition (.inr (index_lt file)) _ _)
    (Nat.le_trans long (ByteFile.le_length_writeAt ..))]
  exact written

theorem capturedFile_of_header (long : 4 ≤ file.length)
    (same : ByteFile.readAt file 0 4 =
      pg.header r (BigEndian.decode (ByteFile.readAt file 0 2))) :
    capturedFile pg r file = ByteFile.writeAt file
      (pg.rowPosition (BigEndian.decode (ByteFile.readAt file 0 2)) 0
        (rowSize r pg.captureObjects)) (rowBytes r pg.captureObjects).1 := by
  have rewritten := ByteFile.writeAt_readAt file (show 0 + 4 ≤ file.length by omega)
  rw [capturedFile, ← same, rewritten]

theorem exists_capture (present : pg.file = some file)
    (narrow : pg.captureObjects.length ≤ 10) :
    ∃ pg', pg.captureProfileGeneric r = some (pg', (rowBytes r pg.captureObjects).2) := by
  rw [captureProfileGeneric, present]
  dsimp only
  rw [if_neg (by omega)]
  exact ⟨_, rfl⟩

theorem header_of_short {pg' : ProfileGeneric} (short : file.length < 4)
    (present : pg.file = some file) (captured : pg.captureProfileGeneric r = some (pg', false)) :
    pg'.contents size ≠ pg.contents size := by
  rw [captureProfileGeneric, present] at captured
  dsimp only at captured
  split at captured
  · cases captured
  obtain ⟨rfl, -⟩ := Prod.mk.inj (Option.some.inj captured)
  have four := length_header pg r (loadIndex file).1
  have written := ByteFile.length_writeAt file (loadIndex file).2
    (List.ne_nil_of_length_pos (Nat.lt_of_lt_of_eq (by decide) four.symm))
  intro same
  rw [contents, contents, present] at same
  have header := congrArg List.length (congrArg Prod.fst (Option.some.inj (congrArg Prod.snd same)))
  have longer := ByteFile.le_length_writeAt
    (ByteFile.writeAt file (loadIndex file).2 (pg.header r (loadIndex file).1))
    (rowBytes r pg.captureObjects).1
    (pg.rowPosition (loadIndex file).1 (loadIndex file).2 (rowSize r pg.captureObjects))
  simp only [ByteFile.length_readAt] at header
  omega

end Header

section Failed
variable {pg : ProfileGeneric} {r : Readings} {size : Nat} {file : List UInt8}

theorem countEntry_sub_one : pg.countEntry - 1 = pg.entriesInUse ↔
    pg.entriesInUse ≠ pg.profileEntries := by
  rw [countEntry]
  split
  · rename_i room
    simp [room]
  · rename_i full
    refine iff_of_false (fun same => ?_) full
    have number := congrArg UInt32.toNat same
    have wide := pg.entriesInUse.toNat_lt
    rw [UInt32.toNat_sub, UInt32.toNat_one] at number
    omega

/-- Under an unchanged header the rows stay when the earlier columns keep them. -/
theorem countedRows_capturedFile_iff (long : 4 ≤ file.length)
    (same : ByteFile.readAt file 0 4 =
      pg.header r (BigEndian.decode (ByteFile.readAt file 0 2))) :
    countedRows size (capturedFile pg r file) = countedRows size file ↔
      ByteFile.Keeps file (rowBytes r pg.captureObjects).1
        (pg.rowPosition (BigEndian.decode (ByteFile.readAt file 0 2)) 0
          (rowSize r pg.captureObjects))
        4 (BigEndian.decode (ByteFile.readAt file 2 2) * size) := by
  have behind : 4 ≤ pg.rowPosition (BigEndian.decode (ByteFile.readAt file 0 2)) 0
      (rowSize r pg.captureObjects) := four_le_rowPosition (.inr (index_lt file)) _ _
  have count := ByteFile.readAt_writeAt_before file (rowBytes r pg.captureObjects).1 behind
    (show 2 + 2 ≤ file.length from long)
  rw [countedRows, countedRows, capturedFile_of_header long same, count]
  exact ByteFile.readAt_writeAt_eq_iff file _ behind long

theorem contents_failed_iff (present : pg.file = some file) (long : 4 ≤ file.length) :
    ({ pg with entriesInUse := pg.countEntry - 1, file := some (capturedFile pg r file) } :
      ProfileGeneric).contents size = pg.contents size ↔ pg.LeavesAsFound r size file := by
  rw [contents, contents, present, LeavesAsFound, Prod.mk.injEq, countEntry_sub_one, Option.map_some,
    Option.map_some, Option.some.injEq, Prod.mk.injEq, header_capturedFile long]
  refine and_congr_right fun _ => ?_
  constructor
  · rintro ⟨same, rows⟩
    exact ⟨same.symm, (countedRows_capturedFile_iff long same.symm).mp rows⟩
  · rintro ⟨same, kept⟩
    exact ⟨same.symm, (countedRows_capturedFile_iff long same).mpr kept⟩

/-- In a profile of two rows or more the next index is another one. -/
theorem not_leavesAsFound (two : 2 ≤ pg.profileEntries.toNat) : ¬ pg.LeavesAsFound r size file := by
  rintro ⟨-, same, -⟩
  have some_ : pg.profileEntries ≠ 0 := by
    intro zero
    rw [zero] at two
    exact absurd two (by decide)
  have below := index_lt file
  have first : (ByteFile.readAt file 0 4).take 2 = ByteFile.readAt file 0 2 := by
    rw [ByteFile.readAt, List.take_take]
    rfl
  generalize index : BigEndian.decode (ByteFile.readAt file 0 2) = i at same below
  have next : i = (1 + i) % pg.profileEntries.toNat % 65536 := by
    have bytes := congrArg (fun bytes => BigEndian.decode (bytes.take 2)) same
    rw [first, index, header, if_pos some_, List.append_assoc, List.take_left'
      (BigEndian.length_encode ..), BigEndian.decode_encode] at bytes
    exact bytes
  by_cases wraps : 1 + i < pg.profileEntries.toNat
  · rw [Nat.mod_eq_of_lt wraps] at next
    omega
  · have later := Nat.mod_le (1 + i - pg.profileEntries.toNat) pg.profileEntries.toNat
    rw [Nat.mod_eq_sub_mod (Nat.le_of_not_lt wraps)] at next
    omega

end Failed

/-- A failed capture leaves the counts and the counted rows exactly when they are what it writes. -/
theorem failed_capture_atomic_iff (pg : ProfileGeneric) (r : Readings) (size : Nat) :
    pg.FailsAtomically r size ↔ pg.CapturesOrLeaves r size := by
  constructor
  · intro atomic file present narrow fails
    obtain ⟨pg', captured⟩ := exists_capture present narrow
    rw [fails] at captured
    have same := atomic pg' captured
    by_cases long : 4 ≤ file.length
    · rw [captureProfileGeneric_eq r present long narrow, fails] at captured
      cases captured
      exact (contents_failed_iff present long).mp same
    · exact absurd same (header_of_short (Nat.lt_of_not_le long) present captured)
  · intro leaves pg' captured
    cases present : pg.file with
    | none =>
        rw [captureProfileGeneric, present] at captured
        cases captured
    | some file =>
        by_cases narrow : pg.captureObjects.length ≤ 10
        · obtain ⟨made, result⟩ := exists_capture (r := r) present narrow
          rw [captured] at result
          have fails := (Prod.mk.inj (Option.some.inj result)).2.symm
          have found := leaves file present narrow fails
          have long : 4 ≤ file.length := by
            have header := congrArg List.length found.2.1
            rw [length_header, ByteFile.length_readAt] at header
            omega
          rw [captureProfileGeneric_eq r present long narrow, fails] at captured
          cases captured
          exact (contents_failed_iff present long).mpr found
        · rw [captureProfileGeneric_of_wide r present narrow] at captured
          cases captured

/-- Such a profile is left as it was only by a capture in which no column fails. -/
theorem capturesOrLeaves_iff {pg : ProfileGeneric} (two : 2 ≤ pg.profileEntries.toNat) (r : Readings)
    (size : Nat) :
    pg.CapturesOrLeaves r size ↔ ∀ file, pg.file = some file → pg.captureObjects.length ≤ 10 →
      (rowBytes r pg.captureObjects).2 = true := by
  constructor
  · intro leaves file present narrow
    by_contra fails
    exact not_leavesAsFound two (leaves file present narrow (eq_false_of_ne_true fails))
  · intro succeeds file present narrow fails
    rw [succeeds file present narrow] at fails
    cases fails

/-- The log is full, and its second column fails: the oldest row gets a new first column. -/
theorem failed_column_overwrites_row : ¬ FailsAtomically
    { twoEntries 2 [0, 0, 0, 2, 11, 12, 21, 22] with
      captureObjects := [register, { register with attributeIndex := 3 }] }
    { reading 31 with value := fun c => if c.attributeIndex = 2 then some (17, [31]) else none } 2 := by
  intro atomic
  have same := atomic _ rfl
  exact absurd same (by decide)

end DlmsGateway.ProfileGeneric
