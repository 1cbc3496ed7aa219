import DlmsGateway.Server.ProfileGeneric

/-!
# Captures fill the slots in turn

Capture number `k` goes to slot `k % N`, where `N` is `profileEntries`; the
index and both counts follow from the number of captures since the buffer was
cleared.
-/
set_option autoImplicit false
namespace DlmsGateway.ProfileGeneric

/-- Every row of the capture has `size` bytes, measured and written. -/
structure RowLayout (columns : List CaptureObject) (size : Nat) (r : Readings) : Prop where
  measured : (rowSize r columns).toNat = size
  written : (rowBytes r columns).1.length = size

/-- The latest of the captures so far that went to slot `s`. -/
abbrev LatestIn (entries captured s k : Nat) : Prop :=
  IsGreatest {k | k < captured ∧ k % entries = s} k

/-- The file and the count after the captures `rs`. -/
structure Ring (columns : List CaptureObject) (entries size : Nat) (rs : List Readings)
    (pg : ProfileGeneric) (file : List UInt8) : Prop where
  present : pg.file = some file
  index : ByteFile.readAt file 0 2 = BigEndian.encode 2 (rs.length % entries)
  count : ByteFile.readAt file 2 2 = BigEndian.encode 2 (min rs.length entries)
  entriesInUse : pg.entriesInUse.toNat = min rs.length entries
  slots : ∀ s, s < min rs.length entries → ∃ k r, LatestIn entries rs.length s k ∧
    rs[k]? = some r ∧ ByteFile.readAt file (4 + s * size) size = (rowBytes r columns).1

/-- Between two captures. -/
structure Kept (columns : List CaptureObject) (entries size : Nat) (rs : List Readings)
    (pg : ProfileGeneric) (file : List UInt8) : Prop extends
    Ring columns entries size rs pg file where
  positive : 0 < entries
  small : entries < 65536
  sameColumns : pg.captureObjects = columns
  total : pg.profileEntries.toNat = entries
  long : 4 + min rs.length entries * size ≤ file.length

section Capture
variable {columns : List CaptureObject} {entries size : Nat} {rs : List Readings}
  {pg : ProfileGeneric} {file : List UInt8}

theorem loadIndex_kept (kept : Kept columns entries size rs pg file) :
    loadIndex file = (rs.length % entries, 0) := by
  have long := kept.long
  have below := Nat.mod_lt rs.length kept.positive
  have small := kept.small
  rw [loadIndex, if_pos (by omega), kept.index, BigEndian.decode_encode,
    Nat.mod_eq_of_lt (by omega)]

theorem toNat_countEntry_of_min {pg : ProfileGeneric} {n : Nat}
    (inUse : pg.entriesInUse.toNat = min n pg.profileEntries.toNat)
    (small : pg.profileEntries.toNat < 65536) :
    pg.countEntry.toNat = min (n + 1) pg.profileEntries.toNat := by
  rw [countEntry]
  by_cases full : pg.entriesInUse = pg.profileEntries
  · rw [if_neg (not_not.mpr full), full]
    rw [full] at inUse
    omega
  · have room : pg.entriesInUse.toNat ≠ pg.profileEntries.toNat := fun same =>
      full (UInt32.toNat_inj.mp same)
    rw [if_pos full, UInt32.toNat_add, inUse, UInt32.toNat_one]
    omega

theorem toNat_countEntry (kept : Kept columns entries size rs pg file) :
    pg.countEntry.toNat = min (rs.length + 1) entries := by
  have total := kept.total
  have inUse := kept.entriesInUse
  have small := kept.small
  rw [← total] at inUse small ⊢
  exact toNat_countEntry_of_min inUse small

theorem header_kept (kept : Kept columns entries size rs pg file) (r : Readings) :
    pg.header r (rs.length % entries) =
      BigEndian.encode 2 ((rs.length + 1) % entries) ++
        BigEndian.encode 2 (min (rs.length + 1) entries) := by
  have total := kept.total
  have some_entry : pg.profileEntries ≠ 0 := by
    intro zero
    have positive := kept.positive
    rw [zero] at total
    simp only [UInt32.toNat_zero] at total
    omega
  have next : (1 + rs.length % entries) % entries = (rs.length + 1) % entries := by
    rw [Nat.add_comm, Nat.mod_add_mod]
  rw [header, if_pos some_entry, total, next, toNat_countEntry kept]
  simp

theorem rowPosition_kept (kept : Kept columns entries size rs pg file) {r : Readings}
    (layout : RowLayout columns size r) :
    pg.rowPosition (rs.length % entries) 0 (rowSize r columns) =
      4 + rs.length % entries * size := by
  have total := kept.total
  have small := kept.small
  have below := Nat.mod_lt rs.length kept.positive
  rw [rowPosition]
  by_cases zero : rs.length % entries = 0
  · simp [zero]
  have some_entry : pg.profileEntries ≠ 0 := by
    intro none
    rw [none] at total
    simp only [UInt32.toNat_zero] at total
    omega
  have index : (UInt32.ofNat (rs.length % entries)).toNat = rs.length % entries :=
    UInt32.toNat_ofNat_of_lt' (by rw [UInt32.size]; omega)
  have row : (rowSize r columns).toUInt32.toNat = size := by
    rw [UInt16.toNat_toUInt32, layout.measured]
  have width : size < 65536 := by
    have := (rowSize r columns).toNat_lt
    rw [layout.measured] at this
    omega
  have product : rs.length % entries * size ≤ 65534 * 65535 :=
    Nat.mul_le_mul (by omega) (by omega)
  rw [if_pos ⟨zero, some_entry⟩, UInt32.toNat_add, UInt32.toNat_mul, UInt32.toNat_mod, index, row,
    total, Nat.mod_mod]
  have four : (4 : UInt32).toNat = 4 := rfl
  rw [four]
  omega

/-! ## One capture -/

def recorded (columns : List CaptureObject) (entries size : Nat) (rs : List Readings)
    (r : Readings) (file : List UInt8) : List UInt8 :=
  ByteFile.writeAt
    (ByteFile.writeAt file 0 (BigEndian.encode 2 ((rs.length + 1) % entries) ++
      BigEndian.encode 2 (min (rs.length + 1) entries)))
    (4 + rs.length % entries * size) (rowBytes r columns).1

theorem capture_kept (kept : Kept columns entries size rs pg file) {r : Readings}
    {pg' : ProfileGeneric} (layout : RowLayout columns size r)
    (captured : pg.captureProfileGeneric r = some (pg', true)) :
    pg' = { pg with
      entriesInUse := pg.countEntry
      file := some (recorded columns entries size rs r file) } := by
  obtain rfl := kept.sameColumns
  rw [captureProfileGeneric, kept.present] at captured
  simp only [loadIndex_kept kept, header_kept kept, rowPosition_kept kept layout] at captured
  split_ifs at captured with wide ok
  · exact (congrArg Prod.fst (Option.some.inj captured)).symm
  · exact absurd (congrArg Prod.snd (Option.some.inj captured)) ok

theorem readAt_header (kept : Kept columns entries size rs pg file) (r : Readings)
    {start len : Nat} (inside : start + len ≤ 4) :
    ByteFile.readAt (recorded columns entries size rs r file) start len =
      ByteFile.readAt (ByteFile.writeAt file 0
        (BigEndian.encode 2 ((rs.length + 1) % entries) ++
          BigEndian.encode 2 (min (rs.length + 1) entries))) start len := by
  have long := kept.long
  exact ByteFile.readAt_writeAt_before _ _ (by omega)
    (Nat.le_trans (by omega) (ByteFile.le_length_writeAt ..))

theorem readAt_slot_same {r : Readings} (layout : RowLayout columns size r) :
    ByteFile.readAt (recorded columns entries size rs r file)
      (4 + rs.length % entries * size) size = (rowBytes r columns).1 := by
  have row := ByteFile.readAt_writeAt (ByteFile.writeAt file 0
    (BigEndian.encode 2 ((rs.length + 1) % entries) ++
      BigEndian.encode 2 (min (rs.length + 1) entries))) (rowBytes r columns).1
    (4 + rs.length % entries * size)
  rwa [layout.written] at row

section Recorded
variable (kept : Kept columns entries size rs pg file) {r : Readings}
  (layout : RowLayout columns size r)
include kept layout

theorem readAt_slot_other {s : Nat} (used : s < min rs.length entries)
    (other : s ≠ rs.length % entries) :
    ByteFile.readAt (recorded columns entries size rs r file) (4 + s * size) size =
      ByteFile.readAt file (4 + s * size) size := by
  have long := kept.long
  have room : (s + 1) * size ≤ min rs.length entries * size := Nat.mul_le_mul_right size used
  rw [Nat.succ_mul] at room
  have behind_header : ByteFile.readAt (ByteFile.writeAt file 0
      (BigEndian.encode 2 ((rs.length + 1) % entries) ++
        BigEndian.encode 2 (min (rs.length + 1) entries))) (4 + s * size) size =
      ByteFile.readAt file (4 + s * size) size :=
    ByteFile.readAt_writeAt_after _ _ (by simp)
  rw [← behind_header]
  rcases Nat.lt_or_gt_of_ne other with before | after
  · have apart : (s + 1) * size ≤ rs.length % entries * size := Nat.mul_le_mul_right size before
    rw [Nat.succ_mul] at apart
    exact ByteFile.readAt_writeAt_before _ _ (by omega)
      (Nat.le_trans (by omega) (ByteFile.le_length_writeAt ..))
  · have apart : (rs.length % entries + 1) * size ≤ s * size := Nat.mul_le_mul_right size after
    rw [Nat.succ_mul] at apart
    refine ByteFile.readAt_writeAt_after _ _ ?_
    rw [layout.written]
    omega

/-- The slot of the new row has it, and the other slots keep their latest row. -/
theorem slots_recorded {s : Nat} (used : s < min (rs.length + 1) entries) :
    ∃ k r', LatestIn entries (rs.length + 1) s k ∧ (rs ++ [r])[k]? = some r' ∧
      ByteFile.readAt (recorded columns entries size rs r file) (4 + s * size) size =
        (rowBytes r' columns).1 := by
  by_cases same : s = rs.length % entries
  · subst same
    refine ⟨rs.length, r, ⟨⟨Nat.lt_succ_self _, rfl⟩, fun k earlier => ?_⟩, by simp,
      readAt_slot_same layout⟩
    exact Nat.le_of_lt_succ earlier.1
  · have before : s < min rs.length entries := by
      by_cases filling : rs.length < entries
      · rw [Nat.mod_eq_of_lt filling] at same
        omega
      · omega
    obtain ⟨k, r', latest, there, row⟩ := kept.slots s before
    refine ⟨k, r', ⟨⟨Nat.lt_succ_of_lt latest.1.1, latest.1.2⟩, fun j earlier => ?_⟩, ?_, ?_⟩
    · have other : j ≠ rs.length := by
        rintro rfl
        exact same earlier.2.symm
      exact latest.2 ⟨by have := earlier.1; omega, earlier.2⟩
    · rw [List.getElem?_append_left latest.1.1, there]
    · rw [readAt_slot_other kept layout before same, row]

theorem length_recorded : 4 + min (rs.length + 1) entries * size ≤
    (recorded columns entries size rs r file).length := by
  have long := kept.long
  have counted := ByteFile.le_length_writeAt file (BigEndian.encode 2 ((rs.length + 1) % entries) ++
    BigEndian.encode 2 (min (rs.length + 1) entries)) 0
  by_cases empty : (rowBytes r columns).1 = []
  · have none_ : size = 0 := by rw [← layout.written, empty, List.length_nil]
    rw [recorded, empty, ByteFile.writeAt_nil, none_]
    omega
  rw [recorded, ByteFile.length_writeAt _ _ empty, layout.written]
  generalize ByteFile.writeAt file 0 _ = first at counted ⊢
  by_cases filling : rs.length < entries
  · rw [Nat.mod_eq_of_lt filling, Nat.min_eq_left filling, Nat.succ_mul]
    omega
  · rw [Nat.min_eq_right (Nat.le_succ_of_le (Nat.le_of_not_lt filling))]
    rw [Nat.min_eq_right (Nat.le_of_not_lt filling)] at long
    omega

theorem kept_capture {pg' : ProfileGeneric}
    (captured : pg.captureProfileGeneric r = some (pg', true)) :
    Kept columns entries size (rs ++ [r]) pg' (recorded columns entries size rs r file) := by
  have counted : (rs ++ [r]).length = rs.length + 1 := by simp
  rw [capture_kept kept layout captured]
  refine { kept with
    present := rfl, index := ?_, count := ?_, entriesInUse := ?_, slots := ?_, long := ?_ }
  · have first := ByteFile.readAt_writeAt_first file
      (BigEndian.encode 2 ((rs.length + 1) % entries)) 0
      (BigEndian.encode 2 (min (rs.length + 1) entries))
    rw [BigEndian.length_encode] at first
    rw [counted, readAt_header kept r (by omega), first]
  · have second := ByteFile.readAt_writeAt_second file
      (BigEndian.encode 2 ((rs.length + 1) % entries)) 0
      (BigEndian.encode 2 (min (rs.length + 1) entries))
    rw [BigEndian.length_encode, BigEndian.length_encode] at second
    rw [counted, readAt_header kept r (by omega), second]
  · rw [counted]
    exact toNat_countEntry kept
  · rw [counted]
    exact fun s used => slots_recorded kept layout used
  · rw [counted]
    exact length_recorded kept layout

end Recorded
end Capture

/-! ## Any number of captures -/

section Run
variable {columns : List CaptureObject} {entries size : Nat}

theorem ring_captures (more : List Readings) :
    ∀ (done : List Readings) (pg pg' : ProfileGeneric) (file : List UInt8),
      Kept columns entries size done pg file → (∀ r ∈ more, RowLayout columns size r) →
      captures pg more = some pg' →
      ∃ file', Ring columns entries size (done ++ more) pg' file' := by
  induction more with
  | nil =>
      intro done pg pg' file kept _ captured
      cases captured
      exact ⟨file, by rw [List.append_nil]; exact kept.toRing⟩
  | cons r more ih =>
      intro done pg pg' file kept layouts captured
      rw [captures] at captured
      split at captured
      · rename_i next succeeded
        have kept' := kept_capture kept (layouts r (by simp)) succeeded
        obtain ⟨file', ring⟩ :=
          ih _ _ _ _ kept' (fun r' later => layouts r' (by simp [later])) captured
        exact ⟨file', by rwa [List.append_assoc] at ring⟩
      · cases captured

theorem kept_clear {pg pg₀ : ProfileGeneric} {r : Readings} {file : List UInt8}
    (positive : 0 < pg.profileEntries) (small : pg.profileEntries < 65536)
    (present : pg.file = some file)
    (cleared : pg.handleProfileGenericActions 1 r = some pg₀) :
    Kept pg.captureObjects pg.profileEntries.toNat size [] pg₀
      (ByteFile.writeAt file 0 (BigEndian.encode 2 0 ++ BigEndian.encode 2 0)) := by
  cases cleared
  refine ⟨⟨by rw [present]; rfl, ?_, ?_, by simp, fun s used => ?_⟩, ?_, ?_, rfl, rfl, ?_⟩
  · have first := ByteFile.readAt_writeAt_first file (BigEndian.encode 2 0) 0
      (BigEndian.encode 2 0)
    rw [BigEndian.length_encode] at first
    rw [first, List.length_nil, Nat.zero_mod]
  · have second := ByteFile.readAt_writeAt_second file (BigEndian.encode 2 0) 0
      (BigEndian.encode 2 0)
    rw [BigEndian.length_encode, Nat.zero_add] at second
    rw [second, List.length_nil, Nat.zero_min]
  · simp at used
  · exact UInt32.lt_iff_toNat_lt.mp positive
  · exact UInt32.lt_iff_toNat_lt.mp small
  · have some_ : BigEndian.encode 2 0 ++ BigEndian.encode 2 0 ≠ [] := List.cons_ne_nil _ _
    rw [ByteFile.length_writeAt _ _ some_]
    simp

/-- After any number of captures the file is the ring of the latest rows. -/
theorem captures_ring {pg pg₀ pg' : ProfileGeneric} {r : Readings} {file : List UInt8}
    {rs : List Readings} (positive : 0 < pg.profileEntries) (small : pg.profileEntries < 65536)
    (present : pg.file = some file)
    (cleared : pg.handleProfileGenericActions 1 r = some pg₀)
    (layouts : ∀ r ∈ rs, RowLayout pg.captureObjects size r)
    (captured : captures pg₀ rs = some pg') :
    ∃ file', Ring pg.captureObjects pg.profileEntries.toNat size rs pg' file' :=
  ring_captures rs [] pg₀ pg' _ (kept_clear positive small present cleared) layouts captured

end Run

/-- One column of one byte. -/
def register : CaptureObject where
  logicalName := .replicate 6 1
  isClock := false
  isUnixTime := false
  attributeIndex := 2

def reading (value : UInt8) : Readings where
  measured := fun _ => some [17, value]
  value := fun _ => some (17, [value])
  timeCurrent := .replicate 4 0
  pduBuff := .replicate 4 0

theorem rowLayout_readings (values : List UInt8) :
    ∀ r ∈ values.map reading, RowLayout [register] 1 r := by
  intro r member
  obtain ⟨value, -, rfl⟩ := List.mem_map.mp member
  exact ⟨rfl, rfl⟩

def twoEntries (entriesInUse : UInt32) (file : List UInt8) : ProfileGeneric where
  captureObjects := [register]
  profileEntries := 2
  entriesInUse := entriesInUse
  file := some file

/-- The third row has replaced the first. -/
theorem three_captures_ring : ∃ file', Ring [register] 2 1 [reading 7, reading 8, reading 9]
    (twoEntries 2 [0, 1, 0, 2, 9, 8]) file' := by
  have present : (twoEntries 5 [1, 1, 1]).file = some [1, 1, 1] := rfl
  have cleared : (twoEntries 5 [1, 1, 1]).handleProfileGenericActions 1 (reading 0) =
      some (twoEntries 0 [0, 0, 0, 0]) := by decide +kernel
  have layouts : ∀ r ∈ [reading 7, reading 8, reading 9], RowLayout [register] 1 r :=
    rowLayout_readings [7, 8, 9]
  exact captures_ring (by decide) (by decide) present cleared layouts (by decide +kernel)

end DlmsGateway.ProfileGeneric
