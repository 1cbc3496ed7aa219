import DlmsGateway.Server.ProfileRead
import DlmsGateway.Server.StoredValue
import Mathlib.Algebra.GroupWithZero.Nat
import Mathlib.Data.List.Induction

/-!
# The layout of a row, measured, stored and read

`getProfileGenericBufferColumnSizes` measures the columns, `captureProfileGeneric`
stores them and `readProfileGeneric` reads them, each with a loop of its own.
The objects have the same values for all three.

The loop that measures counts the columns in eight bits, so that with 256 of
them or more it never finds the end; what it has returned after any number of
rounds is looked at.  A capture gets each value into a buffer of
`PDU_MAX_PROFILE_GENERIC_COLUMN_SIZE` bytes, where a longer one fails, loses
bytes or is written past the end.
-/
set_option autoImplicit false
namespace DlmsGateway

def pduMaxProfileGenericColumnSize : Nat := 100

/-- A column that is stored as a time in four bytes. -/
def CaptureObject.IsTime (c : CaptureObject) : Prop :=
  (c.isClock ∨ c.isUnixTime) ∧ c.attributeIndex = 2

instance (c : CaptureObject) : Decidable c.IsTime := inferInstanceAs (Decidable (_ ∧ _))

/-- The arrays of the callers, filled from the front, and `*rowSize`. -/
structure ColumnLayout where
  dataTypes : List UInt8
  columnSizes : List UInt8
  rowSize : UInt16

def ColumnLayout.add (l : ColumnLayout) (type : UInt8) (size : UInt16) : ColumnLayout where
  dataTypes := l.dataTypes ++ [type]
  columnSizes := l.columnSizes ++ [size.toUInt8]
  rowSize := l.rowSize + size

section Layout
-- what `cosem_getValue` appends
variable (values : CaptureObject → Getting)

/-! ## The three loops -/

def measureColumn (c : CaptureObject) : Option (UInt8 × UInt16) :=
  if c.isClock ∧ c.attributeIndex = 2 then some (6, 4)
  else (values c).whole.map fun bytes =>
    match bytes with
    | [] => (0, 0)
    | type :: data => (type, UInt16.ofNat data.length)

/-- The loop from the column `pos` on: nothing while it has not returned, `some none` when it
returns an error. -/
def columnSizesLoop (columns : List CaptureObject) :
    Nat → UInt8 → ColumnLayout → Option (Option ColumnLayout)
  | 0, _, _ => none
  | rounds + 1, pos, l =>
      if pos.toNat = columns.length then some (some l)
      else
        match columns[pos.toNat]? with
        | none => some none
        | some c =>
            match measureColumn values c with
            | none => some none
            | some (type, size) => columnSizesLoop columns rounds (pos + 1) (l.add type size)

def getProfileGenericBufferColumnSizes (columns : List CaptureObject) (rounds : Nat) :
    Option (Option ColumnLayout) :=
  columnSizesLoop values columns rounds 0 ⟨[], [], 0⟩

/-- `cosem_getValue` into the buffer of a capture. -/
def storedValue (c : CaptureObject) : Option (UInt8 × List UInt8) :=
  (values c).stored pduMaxProfileGenericColumnSize

def objectReadings (timeCurrent pduBuff : Vector UInt8 4) : Readings where
  measured := fun c => (values c).whole
  value := storedValue values
  timeCurrent := timeCurrent
  pduBuff := pduBuff

/-- The type and the bytes that a capture stores for a column. -/
def storedColumn (r : Readings) (c : CaptureObject) : Option (UInt8 × List UInt8) :=
  if c.IsTime then some (6, r.timeCurrent.toList) else r.value c

theorem columnBytes_eq (r : Readings) (c : CaptureObject) :
    columnBytes r c = (storedColumn r c).map Prod.snd := by
  by_cases time : c.IsTime
  · have bytes : columnBytes r c = some r.timeCurrent.toList := if_pos time
    have stored : storedColumn r c = some (6, r.timeCurrent.toList) := if_pos time
    rw [bytes, stored, Option.map_some]
  · have bytes : columnBytes r c = (r.value c).map Prod.snd := if_neg time
    have stored : storedColumn r c = r.value c := if_neg time
    rw [bytes, stored]

/-! ## What is promised -/

/-- A value of this type is stored in so many bytes of the row. -/
def StoredAs (r : Readings) (c : CaptureObject) (type size : UInt8) : Prop :=
  ∃ bytes, storedColumn r c = some (type, bytes) ∧ columnBytes r c = some bytes ∧
    bytes.length = size.toNat

def ReadAs (ctx : ReadContext) (c : CaptureObject) (type size : UInt8) : Prop :=
  (c.IsTime → type = 6) ∧ ∀ file, ProfileGeneric.readColumn ctx c file =
    (if c.IsTime then ctx.dateTime c (file.take size.toNat) else type :: file.take size.toNat,
      file.drop size.toNat)

structure Agrees (r : Readings) (ctx : ReadContext) (columns : List CaptureObject)
    (l : ColumnLayout) : Prop where
  inside : l.dataTypes.length ≤ 10 ∧ l.columnSizes.length ≤ 10
  sum : l.rowSize.toNat = (l.columnSizes.map UInt8.toNat).sum
  columns : ∀ (i : Nat) (c : CaptureObject), columns[i]? = some c →
    ∃ type size, l.dataTypes[i]? = some type ∧ l.columnSizes[i]? = some size ∧
      StoredAs r c type size ∧ ReadAs ctx c type size

/-- A layout that is returned is the one that is stored and read. -/
def LayoutAgrees (timeCurrent pduBuff : Vector UInt8 4)
    (dateTime : CaptureObject → List UInt8 → List UInt8) (columns : List CaptureObject) : Prop :=
  ∀ rounds l, getProfileGenericBufferColumnSizes values columns rounds = some (some l) →
    Agrees (objectReadings values timeCurrent pduBuff) ⟨fun c => (values c).whole, dateTime⟩
      columns l

/-! ## When it holds -/

def Measurable (c : CaptureObject) : Prop :=
  (c.isClock ∧ c.attributeIndex = 2) ∨ (values c).whole.isSome

def dataBytes (calls : List ValueCall) : Nat := (calls.flatMap ValueCall.encoded).length

def lostInCapture (calls : List ValueCall) : Nat := lostBytes pduMaxProfileGenericColumnSize 1 calls

/-- The buffer of a capture takes the value, and what it loses does not show in eight bits of the
length; the value of the unix time is one of four bytes, as far as eight bits show. -/
def FitsColumn (c : CaptureObject) : Prop :=
  (c.isClock ∧ c.attributeIndex = 2) ∨ ∃ type calls, values c = .appends type calls ∧
    if c.IsTime then type = 6 ∧ dataBytes calls % 256 = 4
    else ¬ Refused pduMaxProfileGenericColumnSize 1 calls ∧ lostInCapture calls % 256 = 0 ∧
      dataBytes calls < 256 + lostInCapture calls

/-- What a column measures beyond the bytes that are stored. -/
def excess (c : CaptureObject) : Nat :=
  match values c with
  | .appends _ calls =>
      if c.isClock ∧ c.attributeIndex = 2 then 0
      else if c.IsTime then dataBytes calls - 4
      else lostInCapture calls
  | _ => 0

def LayoutFits (columns : List CaptureObject) : Prop :=
  columns.length < 256 → (∀ c ∈ columns, Measurable values c) →
    columns.length ≤ 10 ∧ (∀ c ∈ columns, FitsColumn values c) ∧
      (columns.map (excess values)).sum % 65536 = 0

/-! ## What the loop returns -/

def measured (c : CaptureObject) : UInt8 × UInt16 := (measureColumn values c).getD (0, 0)

def layoutOf (columns : List CaptureObject) : ColumnLayout :=
  columns.foldl (fun l c => l.add (measured values c).1 (measured values c).2) ⟨[], [], 0⟩

variable {values} {columns : List CaptureObject} {c : CaptureObject}

theorem measureColumn_of_measurable (measurable : Measurable values c) :
    measureColumn values c = some (measured values c) := by
  rw [measured, measureColumn]
  by_cases clock : c.isClock ∧ c.attributeIndex = 2
  · rw [if_pos clock, Option.getD_some]
  · obtain ⟨bytes, value⟩ := Option.isSome_iff_exists.mp (measurable.resolve_left clock)
    rw [if_neg clock, value, Option.map_some, Option.getD_some]

theorem measureColumn_eq_none (other : ¬ Measurable values c) : measureColumn values c = none := by
  obtain ⟨clock, failed⟩ := not_or.mp other
  rw [measureColumn, if_neg clock, Option.map_eq_none_iff]
  simpa using failed

theorem layoutOf_append (done : List CaptureObject) (c : CaptureObject) :
    layoutOf values (done ++ [c]) =
      (layoutOf values done).add (measured values c).1 (measured values c).2 := by
  rw [layoutOf, List.foldl_append]
  rfl

theorem columnSizesLoop_long (long : 256 ≤ columns.length) {l : ColumnLayout} (rounds : Nat) :
    ∀ pos k, columnSizesLoop values columns rounds pos k ≠ some (some l) := by
  induction rounds with
  | zero => intro pos k; exact nofun
  | succ rounds ih =>
      intro pos k
      have small := pos.toNat_lt
      rw [columnSizesLoop, if_neg (by omega)]
      split
      · exact nofun
      · split
        · exact nofun
        · exact ih _ _

theorem columnSizesLoop_end (short : columns.length < 256) (rounds : Nat) (k : ColumnLayout) :
    columnSizesLoop values columns (rounds + 1) (UInt8.ofNat columns.length) k = some (some k) := by
  have pos : (UInt8.ofNat columns.length).toNat = columns.length := by
    rw [UInt8.toNat_ofNat', Nat.mod_eq_of_lt short]
  rw [columnSizesLoop, if_pos pos]

theorem columnSizesLoop_step (short : columns.length < 256) {done rest : List CaptureObject}
    (split : columns = done ++ c :: rest) (rounds : Nat) (k : ColumnLayout) :
    columnSizesLoop values columns (rounds + 1) (UInt8.ofNat done.length) k =
      match measureColumn values c with
      | none => some none
      | some (type, size) =>
          columnSizesLoop values columns rounds (UInt8.ofNat (done ++ [c]).length)
            (k.add type size) := by
  have length := congrArg List.length split
  rw [List.length_append, List.length_cons] at length
  have pos : (UInt8.ofNat done.length).toNat = done.length := by
    rw [UInt8.toNat_ofNat', Nat.mod_eq_of_lt (by omega)]
  have here : columns[done.length]? = some c := by
    rw [split, List.getElem?_append_right (Nat.le_refl _), Nat.sub_self]
    rfl
  have next : UInt8.ofNat done.length + 1 = UInt8.ofNat (done ++ [c]).length := by
    rw [List.length_append, UInt8.ofNat_add]
    rfl
  rw [columnSizesLoop, pos, if_neg (by omega), here, next]

theorem measurable_of_returns (short : columns.length < 256) {l : ColumnLayout} (rounds : Nat) :
    ∀ done rest, columns = done ++ rest →
      columnSizesLoop values columns rounds (UInt8.ofNat done.length) (layoutOf values done) =
        some (some l) →
      (∀ c ∈ rest, Measurable values c) ∧ l = layoutOf values columns := by
  induction rounds with
  | zero => intro done rest _ returned; cases returned
  | succ rounds ih =>
      intro done rest split returned
      cases rest with
      | nil =>
          rw [List.append_nil] at split
          rw [← split, columnSizesLoop_end short] at returned
          cases returned
          exact ⟨by simp, rfl⟩
      | cons c rest =>
          rw [columnSizesLoop_step short split] at returned
          by_cases measurable : Measurable values c
          · rw [measureColumn_of_measurable measurable] at returned
            dsimp only at returned
            rw [← layoutOf_append] at returned
            obtain ⟨all, same⟩ := ih (done ++ [c]) rest (by rw [split, List.append_assoc]; rfl)
              returned
            exact ⟨List.forall_mem_cons.mpr ⟨measurable, all⟩, same⟩
          · rw [measureColumn_eq_none measurable] at returned
            cases returned

theorem returns_of_measurable (short : columns.length < 256) :
    ∀ rest done, columns = done ++ rest → (∀ c ∈ rest, Measurable values c) →
      columnSizesLoop values columns (rest.length + 1) (UInt8.ofNat done.length)
        (layoutOf values done) = some (some (layoutOf values columns)) := by
  intro rest
  induction rest with
  | nil =>
      intro done split _
      rw [List.append_nil] at split
      rw [← split]
      exact columnSizesLoop_end short ..
  | cons c rest ih =>
      intro done split measurable
      have rest_ := ih (done ++ [c]) (by rw [split, List.append_assoc]; rfl)
        fun d member => measurable d (List.mem_cons_of_mem _ member)
      rw [List.length_cons, columnSizesLoop_step short split,
        measureColumn_of_measurable (measurable c List.mem_cons_self)]
      dsimp only
      rw [← layoutOf_append]
      exact rest_

theorem returns_iff {l : ColumnLayout} :
    (∃ rounds, getProfileGenericBufferColumnSizes values columns rounds = some (some l)) ↔
      columns.length < 256 ∧ (∀ c ∈ columns, Measurable values c) ∧
        l = layoutOf values columns := by
  constructor
  · rintro ⟨rounds, returned⟩
    have short : columns.length < 256 := by
      by_contra long
      exact columnSizesLoop_long (Nat.not_lt.mp long) rounds _ _ returned
    exact ⟨short, measurable_of_returns short rounds [] columns rfl returned⟩
  · rintro ⟨short, measurable, rfl⟩
    exact ⟨_, returns_of_measurable short columns [] rfl measurable⟩

/-! ## One column -/

section Column
variable {timeCurrent pduBuff : Vector UInt8 4} {dateTime : CaptureObject → List UInt8 → List UInt8}
  {type size : UInt8} {calls : List ValueCall}

theorem not_clock_of_not_time (plain : ¬ c.IsTime) : ¬ (c.isClock ∧ c.attributeIndex = 2) :=
  fun clock => plain ⟨.inl clock.1, clock.2⟩

theorem storedAs_time_iff (time : c.IsTime) :
    StoredAs (objectReadings values timeCurrent pduBuff) c type size ↔ type = 6 ∧ size = 4 := by
  have stored : storedColumn (objectReadings values timeCurrent pduBuff) c =
      some (6, timeCurrent.toList) := if_pos time
  rw [StoredAs, columnBytes_eq, stored]
  constructor
  · rintro ⟨bytes, same, -, length⟩
    cases same
    rw [Vector.length_toList] at length
    exact ⟨rfl, UInt8.toNat_inj.mp length.symm⟩
  · rintro ⟨rfl, rfl⟩
    exact ⟨_, rfl, rfl, Vector.length_toList⟩

theorem storedAs_value_iff (plain : ¬ c.IsTime) (value : values c = .appends type calls) :
    StoredAs (objectReadings values timeCurrent pduBuff) c type size ↔
      ¬ Refused pduMaxProfileGenericColumnSize 1 calls ∧
        dataBytes calls = size.toNat + lostInCapture calls := by
  have stored : storedColumn (objectReadings values timeCurrent pduBuff) c =
      (appendCalls pduMaxProfileGenericColumnSize 1 calls).map (type, ·) := by
    have other : storedColumn (objectReadings values timeCurrent pduBuff) c =
        (values c).stored pduMaxProfileGenericColumnSize := if_neg plain
    rw [other, value]
    rfl
  rw [StoredAs, columnBytes_eq, stored, ← appendCalls_eq_none_iff]
  cases run : appendCalls pduMaxProfileGenericColumnSize 1 calls with
  | none =>
      refine iff_of_false ?_ fun both => both.1 rfl
      rintro ⟨bytes, same, -⟩
      cases same
  | some kept =>
      have total : kept.length + lostInCapture calls = dataBytes calls :=
        length_appendCalls calls 1 kept run
      constructor
      · rintro ⟨bytes, same, -, length⟩
        cases same
        exact ⟨nofun, by omega⟩
      · rintro ⟨-, length⟩
        exact ⟨kept, rfl, rfl, by omega⟩

theorem readAs_time (time : c.IsTime) : ReadAs ⟨fun c => (values c).whole, dateTime⟩ c 6 4 := by
  refine ⟨fun _ => rfl, fun file => ?_⟩
  rw [if_pos time]
  exact if_pos time

theorem readAs_value (plain : ¬ c.IsTime) (value : values c = .appends type calls) :
    ReadAs ⟨fun c => (values c).whole, dateTime⟩ c type (UInt8.ofNat (dataBytes calls)) := by
  refine ⟨fun time => absurd time plain, fun file => ?_⟩
  have column : ProfileGeneric.columnType ⟨fun c => (values c).whole, dateTime⟩ c =
      (type, UInt8.ofNat (dataBytes calls)) := by
    have present : (⟨fun c => (values c).whole, dateTime⟩ : ReadContext).measured c =
        some (type :: calls.flatMap ValueCall.encoded) := congrArg Getting.whole value
    rw [ProfileGeneric.columnType, if_neg (not_clock_of_not_time plain), present]
    rfl
  have read : ProfileGeneric.readColumn ⟨fun c => (values c).whole, dateTime⟩ c file =
      ((ProfileGeneric.columnType ⟨fun c => (values c).whole, dateTime⟩ c).1 ::
          file.take (ProfileGeneric.columnType ⟨fun c => (values c).whole, dateTime⟩ c).2.toNat,
        file.drop (ProfileGeneric.columnType ⟨fun c => (values c).whole, dateTime⟩ c).2.toNat) := if_neg plain
  rw [read, column, if_neg plain]

theorem measured_clock (clock : c.isClock ∧ c.attributeIndex = 2) : measured values c = (6, 4) := by
  rw [measured, measureColumn, if_pos clock, Option.getD_some]

theorem measured_value (other : ¬ (c.isClock ∧ c.attributeIndex = 2))
    (value : values c = .appends type calls) :
    measured values c = (type, UInt16.ofNat (dataBytes calls)) := by
  rw [measured, measureColumn, if_neg other, value]
  rfl

theorem measured_nothing (other : ¬ (c.isClock ∧ c.attributeIndex = 2))
    (value : values c = .nothing) : measured values c = (0, 0) := by
  rw [measured, measureColumn, if_neg other, value]
  rfl

theorem toUInt8_ofNat (n : Nat) : (UInt16.ofNat n).toUInt8 = UInt8.ofNat n := by
  apply UInt8.toNat_inj.mp
  rw [UInt16.toNat_toUInt8, UInt16.toNat_ofNat', UInt8.toNat_ofNat']
  omega

theorem fitsColumn_value_iff (other : ¬ (c.isClock ∧ c.attributeIndex = 2))
    (value : values c = .appends type calls) :
    FitsColumn values c ↔ if c.IsTime then type = 6 ∧ dataBytes calls % 256 = 4
      else ¬ Refused pduMaxProfileGenericColumnSize 1 calls ∧ lostInCapture calls % 256 = 0 ∧
        dataBytes calls < 256 + lostInCapture calls := by
  rw [FitsColumn, or_iff_right other, value]
  constructor
  · rintro ⟨_, _, same, fits⟩
    cases same
    exact fits
  · intro fits
    exact ⟨type, calls, rfl, fits⟩

theorem lostInCapture_le (calls : List ValueCall) : lostInCapture calls ≤ dataBytes calls :=
  lostBytes_le calls 1

/-- Up to 100 bytes with the type a value fits. -/
theorem fitsColumn_of_short (plain : ¬ c.IsTime) (value : values c = .appends type calls)
    (short : dataBytes calls < pduMaxProfileGenericColumnSize) : FitsColumn values c := by
  have room : 1 + dataBytes calls ≤ pduMaxProfileGenericColumnSize := by omega
  obtain ⟨taken, kept⟩ := kept_of_room calls 1 room
  have none_ : lostInCapture calls = 0 := kept
  have small : dataBytes calls < 100 := short
  rw [fitsColumn_value_iff (not_clock_of_not_time plain) value, if_neg plain, none_]
  exact ⟨taken, rfl, by omega⟩

theorem not_storedAs_of_nothing (value : values c = .nothing) :
    ¬ StoredAs (objectReadings values timeCurrent pduBuff) c 0 0 := by
  intro stored
  by_cases time : c.IsTime
  · exact absurd ((storedAs_time_iff time).mp stored).1 (by decide)
  · obtain ⟨bytes, same, -⟩ := stored
    have none_ : storedColumn (objectReadings values timeCurrent pduBuff) c =
        (values c).stored pduMaxProfileGenericColumnSize := if_neg time
    rw [none_, value] at same
    cases same

theorem not_fitsColumn_of_nothing (other : ¬ (c.isClock ∧ c.attributeIndex = 2))
    (value : values c = .nothing) : ¬ FitsColumn values c := by
  rintro (time | ⟨_, _, same, -⟩)
  · exact other time
  · rw [value] at same
    cases same

/-- A column is stored and read as measured exactly when it fits. -/
theorem column_agrees_iff (measurable : Measurable values c) :
    StoredAs (objectReadings values timeCurrent pduBuff) c (measured values c).1
        (measured values c).2.toUInt8 ∧
      ReadAs ⟨fun c => (values c).whole, dateTime⟩ c (measured values c).1
        (measured values c).2.toUInt8 ↔
      FitsColumn values c := by
  by_cases clock : c.isClock ∧ c.attributeIndex = 2
  · have time : c.IsTime := ⟨.inl clock.1, clock.2⟩
    rw [measured_clock clock]
    exact iff_of_true ⟨(storedAs_time_iff time).mpr ⟨rfl, rfl⟩, readAs_time time⟩ (.inl clock)
  have measurable := measurable.resolve_left clock
  cases value : values c with
  | fails =>
      rw [value] at measurable
      cases measurable
  | nothing =>
      have stored : ¬ StoredAs (objectReadings values timeCurrent pduBuff) c 0 0 :=
        not_storedAs_of_nothing value
      rw [measured_nothing clock value]
      exact iff_of_false (fun both => stored both.1) (not_fitsColumn_of_nothing clock value)
  | appends type calls =>
      rw [measured_value clock value, toUInt8_ofNat, fitsColumn_value_iff clock value]
      dsimp only
      by_cases time : c.IsTime
      · have four : UInt8.ofNat (dataBytes calls) = 4 ↔ dataBytes calls % 256 = 4 := by
          rw [← UInt8.toNat_inj, UInt8.toNat_ofNat']
          exact Iff.rfl
        rw [if_pos time, storedAs_time_iff time, four]
        constructor
        · exact And.left
        · rintro ⟨rfl, size⟩
          rw [four.mpr size]
          exact ⟨⟨rfl, size⟩, readAs_time time⟩
      · rw [if_neg time, storedAs_value_iff time value, UInt8.toNat_ofNat']
        constructor
        · rintro ⟨⟨taken, length⟩, -⟩
          exact ⟨taken, by omega, by omega⟩
        · rintro ⟨taken, hidden, small⟩
          have lost := lostInCapture_le calls
          exact ⟨⟨taken, by omega⟩, readAs_value time value⟩

end Column

/-! ## The whole row -/

theorem dataTypes_layoutOf (values : CaptureObject → Getting)
    (columns : List CaptureObject) :
    (layoutOf values columns).dataTypes = columns.map fun c => (measured values c).1 := by
  induction columns using List.reverseRecOn with
  | nil => rfl
  | append_singleton done c ih => rw [layoutOf_append, ColumnLayout.add, ih, List.map_append]; rfl

theorem columnSizes_layoutOf (values : CaptureObject → Getting)
    (columns : List CaptureObject) :
    (layoutOf values columns).columnSizes =
      columns.map fun c => (measured values c).2.toUInt8 := by
  induction columns using List.reverseRecOn with
  | nil => rfl
  | append_singleton done c ih => rw [layoutOf_append, ColumnLayout.add, ih, List.map_append]; rfl

/-- The number of bytes that are measured, before it is narrowed. -/
def dataLength (values : CaptureObject → Getting) (c : CaptureObject) : Nat :=
  if c.isClock ∧ c.attributeIndex = 2 then 4
  else
    match values c with
    | .appends _ calls => dataBytes calls
    | _ => 0

theorem measured_size (measurable : Measurable values c) :
    (measured values c).2 = UInt16.ofNat (dataLength values c) := by
  rw [dataLength]
  by_cases clock : c.isClock ∧ c.attributeIndex = 2
  · rw [measured_clock clock, if_pos clock]
    rfl
  · have measurable := measurable.resolve_left clock
    rw [if_neg clock]
    cases value : values c with
    | fails =>
        rw [value] at measurable
        cases measurable
    | nothing => rw [measured_nothing clock value]; rfl
    | appends type calls => rw [measured_value clock value]

theorem toNat_rowSize (columns : List CaptureObject)
    (measurable : ∀ c ∈ columns, Measurable values c) :
    (layoutOf values columns).rowSize.toNat = (columns.map (dataLength values)).sum % 65536 := by
  induction columns using List.reverseRecOn with
  | nil => rfl
  | append_singleton done c ih =>
      have sum := ih fun d member => measurable d (List.mem_append_left _ member)
      have size := measured_size (measurable c (List.mem_append_right _ List.mem_cons_self))
      rw [layoutOf_append, ColumnLayout.add, UInt16.toNat_add, sum, size, UInt16.toNat_ofNat',
        List.map_append, List.sum_append, List.map_singleton, List.sum_singleton]
      omega

theorem size_add_excess (fits : FitsColumn values c) :
    (measured values c).2.toUInt8.toNat + excess values c = dataLength values c := by
  rw [excess, dataLength]
  by_cases clock : c.isClock ∧ c.attributeIndex = 2
  · rw [measured_clock clock, if_pos clock]
    cases values c <;> simp [clock]
  obtain ⟨type, calls, value, fits⟩ := fits.resolve_left clock
  rw [measured_value clock value, toUInt8_ofNat, UInt8.toNat_ofNat', if_neg clock, value]
  dsimp only
  rw [if_neg clock]
  by_cases time : c.IsTime
  · rw [if_pos time] at fits ⊢
    omega
  · have lost := lostInCapture_le calls
    rw [if_neg time] at fits ⊢
    omega

theorem sum_sizes_add_excess (columns : List CaptureObject)
    (fits : ∀ c ∈ columns, FitsColumn values c) :
    ((layoutOf values columns).columnSizes.map UInt8.toNat).sum +
      (columns.map (excess values)).sum = (columns.map (dataLength values)).sum := by
  rw [columnSizes_layoutOf, List.map_map]
  induction columns with
  | nil => rfl
  | cons c columns ih =>
      have first := size_add_excess (fits c List.mem_cons_self)
      have rest := ih fun d member => fits d (List.mem_cons_of_mem _ member)
      simp only [List.map_cons, List.sum_cons, Function.comp_apply]
      omega

theorem sum_toNat_le (sizes : List UInt8) : (sizes.map UInt8.toNat).sum ≤ 255 * sizes.length := by
  induction sizes with
  | nil => exact Nat.le_refl _
  | cons size sizes ih =>
      have byte := size.toNat_lt
      rw [List.map_cons, List.sum_cons, List.length_cons]
      omega

/-- For columns that fit the row size is the sum unless long unix times show in it. -/
theorem rowSize_eq_sum_iff (few : columns.length ≤ 10)
    (measurable : ∀ c ∈ columns, Measurable values c)
    (fits : ∀ c ∈ columns, FitsColumn values c) :
    (layoutOf values columns).rowSize.toNat =
        ((layoutOf values columns).columnSizes.map UInt8.toNat).sum ↔
      (columns.map (excess values)).sum % 65536 = 0 := by
  have total := sum_sizes_add_excess columns fits
  have small := sum_toNat_le (layoutOf values columns).columnSizes
  have length : (layoutOf values columns).columnSizes.length = columns.length := by
    rw [columnSizes_layoutOf, List.length_map]
  rw [toNat_rowSize columns measurable]
  omega

end Layout

end DlmsGateway
