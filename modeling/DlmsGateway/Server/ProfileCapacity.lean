import DlmsGateway.Server.RejectedWrite

/-!
# How many rows fit into the file of a profile

`getProfileGenericBufferMaxRowCount` narrows the length of the file to 16 bits
before it takes the four bytes of the header off.  Its count becomes
`profileEntries` when the objects are set up and when a client changes the
columns, and it bounds the number of entries that a client writes.  A capture
takes the index in the file modulo `profileEntries`, and starts at the first row
where that is zero.
-/
set_option autoImplicit false
namespace DlmsGateway

open DlmsServer Function

namespace Memory
variable {V : Type} (m : Memory V) (o : ObjectRef) (r : Readings)

def bufferFile : List UInt8 := ((m.allocate o).buffers o).getD []

def bufferRowSize : UInt16 := rowSize r (m.attributes.captureObjects o)

def initProfile : Memory V :=
  { m.allocate o with
    attributes := { m.attributes with
      profileEntries := update m.attributes.profileEntries o (m.bufferMaxRowCount o r).toUInt32 } }

/-! ## What is promised -/

/-- The largest number of rows behind the header, where 16 bits hold it. -/
def CountRight (length : Nat) (rowSize : UInt16) : Prop :=
  (4 ≤ length → (length - 4) / rowSize.toNat < 65536 →
    (maxRowCount length rowSize).toNat = (length - 4) / rowSize.toNat) ∧
  (length < 4 → maxRowCount length rowSize = 0)

/-- The memories with a number of entries from the count: after the start, and after a client
has written the columns or the number of entries. -/
inductive Sized : Memory V → Prop where
  | init : Sized (m.initProfile o r)
  | written {D : Type} (q : SetRequest D) (target : q.target = o) (readings : q.readings = r)
      (kind : q.IsColumns ∨ q.IsEntries) (t : Memory V) (post : postWriteProfile m q = some t) :
      Sized t

end Memory

namespace ProfileGeneric

/-- A capture puts its row inside a file of this length, whatever the file has in it. -/
def RowsInside (pg : ProfileGeneric) (length : Nat) (size : UInt16) : Prop :=
  ∀ file : List UInt8, file.length = length →
    pg.rowPosition (loadIndex file).1 (loadIndex file).2 size + size.toNat ≤ length

end ProfileGeneric

namespace Memory
variable {V : Type}

/-- The count is right, and captures stay inside the file with every number of entries that
comes from it. -/
def CapacityRight (m : Memory V) (o : ObjectRef) (r : Readings) : Prop :=
  CountRight (m.bufferFile o).length (m.bufferRowSize o r) ∧
    ∀ t, m.Sized o r t →
      (t.profile o).RowsInside (t.bufferFile o).length (m.bufferRowSize o r)

/-- The header and a row fit, and the length is in 16 bits behind the header, or the count
would not be. -/
def FileFits (length : Nat) (size : UInt16) : Prop :=
  4 + size.toNat ≤ length ∧ (length ≤ 65539 ∨ 65536 ≤ (length - 4) / size.toNat)

end Memory

/-! ## The count -/

namespace Memory

theorem toNat_maxRowCount {length : Nat} {size : UInt16} (positive : size ≠ 0)
    (header : 4 ≤ length) :
    (maxRowCount length size).toNat = (length - 4) % 65536 / size.toNat := by
  have four : (4 : UInt16).toNat = 4 := rfl
  rw [maxRowCount, if_pos positive, UInt16.toNat_div, UInt16.toNat_sub, UInt16.toNat_ofNat', four]
  congr 1
  omega

theorem maxRowCount_mul_le {length : Nat} (size : UInt16) (header : 4 ≤ length) :
    (maxRowCount length size).toNat * size.toNat ≤ (length - 4) % 65536 := by
  by_cases zero : size = 0
  · simp [zero]
  · rw [toNat_maxRowCount zero header]
    exact Nat.div_mul_le_self ..

/-- A count taken modulo 2^16 is smaller, as no row is longer. -/
theorem mod_div_lt {size : UInt16} (positive : size ≠ 0) {length : Nat} (long : 65536 ≤ length) :
    length % 65536 / size.toNat < length / size.toNat := by
  have row := size.toNat_lt
  have some_ : 0 < size.toNat := by
    rw [Nat.pos_iff_ne_zero]
    exact fun zero => positive (UInt16.toNat_inj.mp zero)
  have next : (length % 65536 + size.toNat) / size.toNat ≤ length / size.toNat :=
    Nat.div_le_div_right (by omega)
  rw [Nat.add_div_right _ some_] at next
  omega

theorem countRight_iff {length : Nat} {size : UInt16} (positive : size ≠ 0)
    (header : 4 ≤ length) :
    CountRight length size ↔ length ≤ 65539 ∨ 65536 ≤ (length - 4) / size.toNat := by
  have short : ¬ length < 4 := by omega
  rw [CountRight, toNat_maxRowCount positive header]
  simp only [header, short, false_implies, and_true, true_implies]
  constructor
  · intro right
    by_contra neither
    obtain ⟨long, many⟩ := not_or.mp neither
    have less := mod_div_lt positive (show 65536 ≤ length - 4 by omega)
    have same := right (by omega)
    omega
  · rintro (fits | many) few
    · rw [Nat.mod_eq_of_lt (by omega)]
    · omega

end Memory

/-! ## The rows -/

namespace ProfileGeneric
variable {pg : ProfileGeneric} {length : Nat} {size : UInt16}

theorem rowsInside_of_le (first : 4 + size.toNat ≤ length)
    (rows : pg.profileEntries.toNat * size.toNat ≤ (length - 4) % 65536) :
    pg.RowsInside length size := by
  intro file same
  have start : (loadIndex file).2 = 0 := by
    rw [loadIndex, if_pos (by omega)]
  rw [rowPosition, start]
  split
  · rename_i some_
    have positive : 0 < pg.profileEntries.toNat := by
      rw [Nat.pos_iff_ne_zero]
      exact fun zero => some_.2 (UInt32.toNat_inj.mp zero)
    have slot := Nat.mod_lt (UInt32.ofNat (loadIndex file).1).toNat positive
    have ends := Nat.mul_le_mul_right size.toNat (Nat.succ_le_of_lt slot)
    rw [Nat.succ_mul] at ends
    have four : (4 : UInt32).toNat = 4 := rfl
    rw [UInt32.toNat_add, UInt32.toNat_mul, UInt32.toNat_mod, UInt16.toNat_toUInt32, four]
    omega
  · omega

theorem first_fits_of_rowsInside (inside : pg.RowsInside length size) :
    4 + size.toNat ≤ length := by
  have zero : (loadIndex (List.replicate length 0)).1 = 0 := by
    rw [loadIndex]
    split
    · rename_i two
      rw [List.length_replicate] at two
      obtain ⟨rest, rfl⟩ := Nat.exists_eq_add_of_le two
      rw [Nat.add_comm, List.replicate_succ, List.replicate_succ]
      rfl
    · rfl
  have first := inside (List.replicate length 0) List.length_replicate
  rw [rowPosition, if_neg fun both => both.1 zero] at first
  omega

theorem length_capture {pg' : ProfileGeneric} {file : List UInt8} {r : Readings}
    (present : pg.file = some file) (inside : pg.RowsInside file.length size)
    (layout : RowLayout pg.captureObjects size.toNat r)
    (captured : pg.captureProfileGeneric r = some (pg', true)) :
    ∃ file', pg'.file = some file' ∧ file'.length = file.length ∧
      pg'.profileEntries = pg.profileEntries ∧ pg'.captureObjects = pg.captureObjects := by
  have row : rowSize r pg.captureObjects = size := UInt16.toNat_inj.mp layout.measured
  have header : 4 ≤ file.length := Nat.le_trans (Nat.le_add_right ..) (first_fits_of_rowsInside inside)
  have narrow : pg.captureObjects.length ≤ 10 := by
    by_contra wide
    rw [captureProfileGeneric_of_wide r present wide] at captured
    cases captured
  rw [captureProfileGeneric_eq r present header narrow] at captured
  obtain rfl := congrArg Prod.fst (Option.some.inj captured)
  refine ⟨_, rfl, ?_, rfl, rfl⟩
  have four : ∀ index, (pg.header r index).length = 4 := by
    intro index
    rw [ProfileGeneric.header]
    split <;> simp
  have counted : ∀ index, (ByteFile.writeAt file 0 (pg.header r index)).length = file.length := by
    intro index
    rw [ByteFile.length_writeAt _ _ (List.ne_nil_of_length_pos (by rw [four]; omega)), four]
    omega
  have position := inside file rfl
  rw [loadIndex, if_pos (by omega), ← row] at position
  rw [capturedFile]
  by_cases empty : (rowBytes r pg.captureObjects).1 = []
  · rw [empty, ByteFile.writeAt_nil, counted]
  · rw [ByteFile.length_writeAt _ _ empty, counted, layout.written]
    rw [← row]
    exact Nat.max_eq_left position

theorem length_captures {rs : List Readings} :
    ∀ {pg pg' : ProfileGeneric} {file : List UInt8}, pg.file = some file →
      pg.RowsInside file.length size → (∀ r ∈ rs, RowLayout pg.captureObjects size.toNat r) →
      captures pg rs = some pg' → ∃ file', pg'.file = some file' ∧ file'.length = file.length := by
  induction rs with
  | nil =>
      intro pg pg' file present _ _ captured
      cases captured
      exact ⟨file, present, rfl⟩
  | cons r rs ih =>
      intro pg pg' file present inside layouts captured
      rw [captures] at captured
      split at captured
      · rename_i next succeeded
        obtain ⟨file', present', length, entries, columns⟩ :=
          length_capture present inside (layouts r List.mem_cons_self) succeeded
        have inside' : next.RowsInside file'.length size := by
          intro other same
          rw [rowPosition, entries, length]
          exact inside other (same.trans length)
        rw [← columns] at layouts
        obtain ⟨last, present'', same⟩ := ih present' inside'
          (fun r' member => layouts r' (List.mem_cons_of_mem _ member)) captured
        exact ⟨last, present'', same.trans length⟩
      · cases captured

end ProfileGeneric

/-! ## The three callers -/

namespace Memory
variable {V : Type} {m t : Memory V} {o : ObjectRef} {r : Readings}

theorem buffers_allocate :
    (m.allocate o).buffers o = some ((m.buffers o).getD (List.replicate 1024 0)) := update_self ..

theorem bufferFile_eq : m.bufferFile o = (m.buffers o).getD (List.replicate 1024 0) := by
  rw [bufferFile, buffers_allocate, Option.getD_some]

theorem bufferFile_allocate : (m.allocate o).bufferFile o = m.bufferFile o := by
  rw [bufferFile_eq, bufferFile, buffers_allocate]
  rfl

theorem bufferMaxRowCount_eq :
    m.bufferMaxRowCount o r = maxRowCount (m.bufferFile o).length (m.bufferRowSize o r) := rfl

theorem length_bufferFile_cleared (header : 4 ≤ (m.bufferFile o).length)
    (cleared : m.handleProfileGenericActions o 1 r = some t) :
    (t.bufferFile o).length = (m.bufferFile o).length ∧
      t.attributes.captureObjects = m.attributes.captureObjects := by
  obtain ⟨pg, actions, rfl⟩ := Option.map_eq_some_iff.mp cleared
  cases actions
  refine ⟨?_, rfl⟩
  rw [bufferFile_eq] at header ⊢
  rw [bufferFile_eq]
  have file : ((m.withProfile o { m.profile o with
      entriesInUse := 0
      file := (m.profile o).file.map fun file =>
        ByteFile.writeAt file 0 (BigEndian.encode 2 0 ++ BigEndian.encode 2 0) }).saveSettings.buffers
      o) = (m.buffers o).map fun file =>
        ByteFile.writeAt file 0 (BigEndian.encode 2 0 ++ BigEndian.encode 2 0) := update_self ..
  rw [file]
  cases present : m.buffers o with
  | none => rfl
  | some bytes =>
      rw [present, Option.getD_some] at header
      have some_ : BigEndian.encode 2 0 ++ BigEndian.encode 2 0 ≠ [] := List.cons_ne_nil _ _
      rw [Option.map_some, Option.getD_some, Option.getD_some, ByteFile.length_writeAt _ _ some_,
        List.length_append, BigEndian.length_encode]
      omega

/-- A number of entries from the count is at most the count, for a file of the same length. -/
theorem profileEntries_of_sized (header : 4 ≤ (m.bufferFile o).length) (sized : m.Sized o r t) :
    (t.bufferFile o).length = (m.bufferFile o).length ∧
      (t.profile o).profileEntries.toNat ≤
        (maxRowCount (m.bufferFile o).length (m.bufferRowSize o r)).toNat := by
  cases sized with
  | init =>
      have entries : ((m.initProfile o r).profile o).profileEntries =
          (m.bufferMaxRowCount o r).toUInt32 := update_self ..
      refine ⟨congrArg List.length bufferFile_allocate, ?_⟩
      rw [entries, UInt16.toNat_toUInt32, bufferMaxRowCount_eq]
  | written q target readings kind _ post =>
      subst target readings
      rw [postWriteProfile] at post
      split at post
      · obtain ⟨u, cleared, rfl⟩ := Option.map_eq_some_iff.mp post
        obtain ⟨length, columns⟩ := length_bufferFile_cleared (m := m.saveSettings) header cleared
        refine ⟨(congrArg List.length bufferFile_allocate).trans length, ?_⟩
        have entries : update u.attributes.profileEntries q.target
            (u.bufferMaxRowCount q.target q.readings).toUInt32 q.target =
              (u.bufferMaxRowCount q.target q.readings).toUInt32 := update_self ..
        have rows : u.bufferRowSize q.target q.readings =
            m.bufferRowSize q.target q.readings := by
          rw [bufferRowSize, columns]
          rfl
        refine Nat.le_of_eq ((congrArg UInt32.toNat entries).trans ?_)
        rw [UInt16.toNat_toUInt32, bufferMaxRowCount_eq, length, rows]
        rfl
      · rename_i other
        rw [if_pos (kind.resolve_left other)] at post
        cases post
        refine ⟨congrArg List.length bufferFile_allocate, ?_⟩
        rw [← bufferMaxRowCount_eq, ← UInt16.toNat_toUInt32]
        let cap := (m.bufferMaxRowCount q.target q.readings).toUInt32
        have capped : (if cap < m.attributes.profileEntries q.target then
            update m.attributes.profileEntries q.target cap
          else m.attributes.profileEntries) q.target ≤ cap := by
          split
          · rw [update_self]
            exact UInt32.le_refl _
          · exact UInt32.not_lt.mp ‹_›
        exact UInt32.le_iff_toNat_le.mp capped

/-! ## The capacity -/

/-- The capacity is right exactly for a file that a row fits into and that is not too long. -/
theorem capacityRight_iff (m : Memory V) (o : ObjectRef) (r : Readings)
    (positive : m.bufferRowSize o r ≠ 0) :
    m.CapacityRight o r ↔ FileFits (m.bufferFile o).length (m.bufferRowSize o r) := by
  constructor
  · rintro ⟨count, inside⟩
    have first := ProfileGeneric.first_fits_of_rowsInside (inside _ .init)
    have same : ((m.initProfile o r).bufferFile o).length = (m.bufferFile o).length :=
      congrArg List.length bufferFile_allocate
    rw [same] at first
    exact ⟨first, (countRight_iff positive (by omega)).mp count⟩
  · rintro ⟨first, few⟩
    have header : 4 ≤ (m.bufferFile o).length := by omega
    refine ⟨(countRight_iff positive header).mpr few, ?_⟩
    intro t sized
    obtain ⟨length, entries⟩ := profileEntries_of_sized header sized
    rw [length]
    apply ProfileGeneric.rowsInside_of_le first
    have rows := maxRowCount_mul_le (m.bufferRowSize o r) header
    exact Nat.le_trans (Nat.mul_le_mul_right _ entries) rows

/-- Captures of rows of that size then never make the file longer. -/
theorem captures_keep_length {m t : Memory V} {o : ObjectRef} {r : Readings}
    {rs : List Readings} {pg : ProfileGeneric} (right : m.CapacityRight o r)
    (sized : m.Sized o r t) {file : List UInt8} (present : t.buffers o = some file)
    (layouts : ∀ r' ∈ rs,
      ProfileGeneric.RowLayout (t.attributes.captureObjects o) (m.bufferRowSize o r).toNat r')
    (captured : ProfileGeneric.captures (t.profile o) rs = some pg) :
    ∃ file', pg.file = some file' ∧ file'.length = file.length := by
  have inside := right.2 t sized
  rw [bufferFile_eq, present, Option.getD_some] at inside
  have there : (t.profile o).file = some file := present
  exact ProfileGeneric.length_captures there inside layouts captured

end Memory

/-! ## Files of the event log -/

def eventLogOf (file : Option (List UInt8)) : Memory Unit :=
  { beforeFirstStart with buffers := update beforeFirstStart.buffers .eventLog file }

theorem allocated_file_right : (eventLogOf none).CapacityRight .eventLog (eventReadings 1) := by
  have six : (eventLogOf none).bufferRowSize .eventLog (eventReadings 1) = 6 := by decide +kernel
  have missing : (eventLogOf none).buffers .eventLog = none := by
    simp [eventLogOf]
  have length : ((eventLogOf none).bufferFile .eventLog).length = 1024 := by
    rw [Memory.bufferFile_eq, missing, Option.getD_none, List.length_replicate]
  apply (Memory.capacityRight_iff (eventLogOf none) .eventLog (eventReadings 1)
    (by rw [six]; decide)).mpr
  rw [six, length]
  exact ⟨by decide, .inl (by decide)⟩

/-- For a file that has been created and not yet filled 10922 rows are counted. -/
theorem empty_file_capacity :
    ¬ ∀ (m : Memory Unit) (o : ObjectRef) (r : Readings), m.bufferRowSize o r ≠ 0 →
      m.CapacityRight o r := by
  intro always
  have right := always (eventLogOf (some [])) .eventLog (eventReadings 1) (by decide +kernel)
  have count := right.1.2 (by decide)
  exact absurd count (by decide +kernel)

end DlmsGateway
