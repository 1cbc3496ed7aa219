import DlmsGateway.Server.ByteBuffer
import DlmsGateway.Server.CaptureRing

/-!
# Reading a profile generic back

`readProfileGeneric` fills the PDU with the rows of the file, the PDU being
large enough.  Its test of `fopen` is the wrong way round: an opened file is
reported as one that failed to open, and behind a file that did not open there
is no row size.  So the loop over the rows is never reached.

What the two selectors select, what `cosem_getValue` gives while the columns are
measured, and the date-time that a stored time becomes, are inputs.
-/
set_option autoImplicit false
namespace DlmsGateway

open ByteBuffer

structure ReadContext where
  measured : CaptureObject → Option (List UInt8)
  /-- `cosem_setDateTimeAsOctetString` of the time in four bytes -/
  dateTime : CaptureObject → List UInt8 → List UInt8

/-- `e->selector`, with the rows that selector 1 or 2 gives or its error. -/
inductive RowSelector where
  | all
  | byRange (found : Except Int (UInt32 × UInt32))
  | byEntry (bounds : Except Int (UInt32 × UInt32))

structure ReadEvent where
  selector : RowSelector
  transactionStartIndex : UInt32
  transactionEndIndex : UInt32
  byteArr : List UInt8

def cosemSetArray (count : UInt16) : List UInt8 := 1 :: hlpSetObjectCount count.toNat

def cosemSetStructure (count : UInt16) : List UInt8 := 2 :: hlpSetObjectCount count.toNat

namespace ProfileGeneric
variable (pg : ProfileGeneric) (ctx : ReadContext)

def selectRows : RowSelector → Int × UInt32 × UInt32
  | .all => (0, 1, pg.entriesInUse)
  | .byRange (.ok (first, last)) => (0, first, last)
  | .byRange (.error code) => (code, 0, 0)
  | .byEntry (.ok (first, last)) =>
      if pg.entriesInUse < first then (0, 0, 0)
      else (0, first, if pg.entriesInUse < last then pg.entriesInUse else last)
  | .byEntry (.error code) => (code, 0, 0)

/-! ## The loop over the rows -/

def columnType (c : CaptureObject) : UInt8 × UInt8 :=
  if c.isClock ∧ c.attributeIndex = 2 then (6, 4)
  else
    match ctx.measured c with
    | some (type :: bytes) => (type, UInt8.ofNat bytes.length)
    | _ => (0, 0)

def readColumn (c : CaptureObject) (file : List UInt8) : List UInt8 × List UInt8 :=
  if (c.isClock ∨ c.isUnixTime) ∧ c.attributeIndex = 2 then
    (ctx.dateTime c (file.take 4), file.drop 4)
  else
    let (type, size) := columnType ctx c
    (type :: file.take size.toNat, file.drop size.toNat)

def readColumns : List CaptureObject → List UInt8 → List UInt8 × List UInt8
  | [], file => ([], file)
  | c :: columns, file =>
      let (column, file) := readColumn ctx c file
      let (rest, file) := readColumns columns file
      (column ++ rest, file)

def readRows (columns : List CaptureObject) : Nat → List UInt8 → List UInt8
  | 0, _ => []
  | n + 1, file =>
      let (row, file) := readColumns ctx columns file
      cosemSetStructure (UInt16.ofNat columns.length) ++ row ++ readRows columns n file

/-- How often `for (pos = start - 1; pos != last; ++pos)` goes round. -/
def rowRounds (start last : UInt32) : Nat := (last - (start - 1)).toNat

/-- The loop from the seek on, `dataSize` being the row size. -/
def appendRows (file : List UInt8) (dataSize : UInt16) (e : ReadEvent) : ReadEvent :=
  { e with
    byteArr := e.byteArr ++ readRows ctx pg.captureObjects
      (rowRounds e.transactionStartIndex e.transactionEndIndex)
      (file.drop (4 + (e.transactionStartIndex - 1) * dataSize.toUInt32).toNat)
    transactionStartIndex := e.transactionEndIndex + 1 }

def arrayCount (start last : UInt32) : UInt16 :=
  if last = 0 then 0 else (last - start + 1).toUInt16

def readProfileGeneric (e : ReadEvent) : Int × ReadEvent :=
  let first := e.transactionEndIndex = 0
  let (ret, start, last) :=
    if first then pg.selectRows e.selector
    else (0, e.transactionStartIndex, e.transactionEndIndex)
  let e := { e with
    transactionStartIndex := start
    transactionEndIndex := last
    byteArr := if ret = 0 ∧ first then cosemSetArray (arrayCount start last) else [] }
  if ret = 0 ∧ last ≠ 0 then
    let f := pg.file
    -- if ((f = fopen(fileName, "rb")) != 0)
    if f.isSome then (-1, e)
    else
      let dataSize := if f.isSome then
          rowSize ⟨ctx.measured, fun _ => none, .replicate 4 0, .replicate 4 0⟩ pg.captureObjects
        else 0
      if dataSize ≠ 0 then (0, pg.appendRows ctx (f.getD []) dataSize e) else (-1, e)
  else (ret, e)

/-! ## What was captured -/

/-- A column with its type; a stored time is given as a date-time. -/
def capturedColumn (r : Readings) (c : CaptureObject) : List UInt8 :=
  if (c.isClock ∨ c.isUnixTime) ∧ c.attributeIndex = 2 then ctx.dateTime c r.timeCurrent.toList
  else
    match r.value c with
    | some (type, bytes) => type :: bytes
    | none => []

def capturedRow (columns : List CaptureObject) (r : Readings) : List UInt8 :=
  cosemSetStructure (UInt16.ofNat columns.length) ++ columns.flatMap (capturedColumn ctx r)

def capturedRows (columns : List CaptureObject) (entries : Nat) (rs : List Readings) :
    List UInt8 :=
  cosemSetArray (UInt16.ofNat (min rs.length entries)) ++
    (rs.drop (rs.length - entries)).flatMap (capturedRow ctx columns)

/-- A first read without selector gives the last captured rows. -/
def ReadsBack (entries : Nat) (rs : List Readings) (start : UInt32) (before : List UInt8) : Prop :=
  (pg.readProfileGeneric ctx ⟨.all, start, 0, before⟩).1 = 0 ∧
    (pg.readProfileGeneric ctx ⟨.all, start, 0, before⟩).2.byteArr =
      capturedRows ctx pg.captureObjects entries rs

section Read
variable {pg} {ctx} {start : UInt32} {before : List UInt8}

theorem read_of_empty (empty : pg.entriesInUse = 0) :
    pg.readProfileGeneric ctx ⟨.all, start, 0, before⟩ = (0, ⟨.all, 1, 0, cosemSetArray 0⟩) := by
  simp [readProfileGeneric, selectRows, arrayCount, empty]

theorem read_of_some (some_ : pg.entriesInUse ≠ 0) :
    (pg.readProfileGeneric ctx ⟨.all, start, 0, before⟩).1 = -1 := by
  simp only [readProfileGeneric, selectRows, if_true, some_, ne_eq, not_false_eq_true, and_self]
  cases pg.file <;> simp

theorem head_hlpSetObjectCount {count : Nat} (positive : 0 < count) (rest : List UInt8) :
    hlpSetObjectCount count ++ rest ≠ hlpSetObjectCount 0 := by
  have zero : ∀ b : UInt8, ∀ bytes : List UInt8, b ≠ 0 → b :: bytes ≠ hlpSetObjectCount 0 := by
    intro b bytes other same
    exact other (List.cons.inj same).1
  unfold hlpSetObjectCount
  split
  · refine zero _ _ fun same => ?_
    have value := congrArg UInt8.toNat same
    rw [Nat.pow_zero, Nat.div_one, UInt8.toNat_ofNat', UInt8.toNat_zero] at value
    omega
  · split
    · exact zero _ _ (by decide)
    · split <;> exact zero _ _ (by decide)

theorem capturedRows_ne {columns : List CaptureObject} {entries : Nat} {rs : List Readings}
    (positive : 0 < entries) (small : entries < 65536) (some_ : rs ≠ []) :
    cosemSetArray 0 ≠ capturedRows ctx columns entries rs := by
  have length := List.length_pos_iff.mpr some_
  have count : (UInt16.ofNat (min rs.length entries)).toNat = min rs.length entries := by
    rw [UInt16.toNat_ofNat', Nat.mod_eq_of_lt (by omega)]
  intro same
  rw [capturedRows, cosemSetArray, cosemSetArray, count, List.cons_append] at same
  exact head_hlpSetObjectCount (by omega) _ (List.cons.inj same).2.symm

end Read

section Captured
variable {columns : List CaptureObject} {entries size : Nat} {pg pg₀ pg' : ProfileGeneric}
  {r : Readings} {rs : List Readings}

theorem captures_of_absent (absent : pg.file = none) :
    ∀ rs : List Readings, captures pg rs = some pg := by
  intro rs
  induction rs with
  | nil => rfl
  | cons r rs ih => rw [captures, captureProfileGeneric, absent]; exact ih

/-- Nothing captured can be read back. -/
theorem reads_back_iff (positive : 0 < pg.profileEntries) (small : pg.profileEntries < 65536)
    (cleared : pg.handleProfileGenericActions 1 r = some pg₀)
    (layouts : ∀ r ∈ rs, RowLayout pg.captureObjects size r)
    (captured : captures pg₀ rs = some pg') (ctx : ReadContext) (start : UInt32)
    (before : List UInt8) :
    pg'.ReadsBack ctx pg.profileEntries.toNat rs start before ↔ rs = [] := by
  have positive' := UInt32.lt_iff_toNat_lt.mp positive
  have small' := UInt32.lt_iff_toNat_lt.mp small
  constructor
  · rintro ⟨succeeds, rows⟩
    by_contra some_
    cases present : pg.file with
    | none =>
        cases cleared
        rw [captures_of_absent (by rw [present]; rfl)] at captured
        cases captured
        rw [read_of_empty rfl] at rows
        exact capturedRows_ne positive' small' some_ rows
    | some file =>
        obtain ⟨file', ring⟩ :=
          ring_captures rs [] pg₀ pg' _ (kept_clear positive small present cleared) layouts captured
        have length := List.length_pos_iff.mpr some_
        have inUse : pg'.entriesInUse ≠ 0 := by
          intro zero
          have count := ring.entriesInUse
          rw [zero, List.nil_append, UInt32.toNat_zero] at count
          rw [UInt32.toNat_zero] at positive'
          omega
        rw [read_of_some inUse] at succeeds
        exact absurd succeeds (by decide)
  · rintro rfl
    cases captured
    cases cleared
    rw [ReadsBack, read_of_empty rfl]
    refine ⟨rfl, ?_⟩
    rw [capturedRows, List.length_nil, Nat.zero_min, List.drop_nil, List.flatMap_nil,
      List.append_nil]
    rfl

end Captured

def plainContext : ReadContext where
  measured := fun _ => some [17, 0]
  dateTime := fun _ time => time

/-- Slots are read in the order of the file: after a third row the newest would come first. -/
example : readRows plainContext [register] 2 [9, 8] = [2, 1, 17, 9, 2, 1, 17, 8] := by decide

theorem three_rows_not_read_back :
    ¬ (twoEntries 2 [0, 1, 0, 2, 9, 8]).ReadsBack plainContext 2
      [reading 7, reading 8, reading 9] 0 [] := by
  have layouts : ∀ r ∈ [reading 7, reading 8, reading 9], RowLayout [register] 1 r :=
    rowLayout_readings [7, 8, 9]
  have cleared : (twoEntries 5 [1, 1, 1]).handleProfileGenericActions 1 (reading 0) =
      some (twoEntries 0 [0, 0, 0, 0]) := by decide +kernel
  have captured : captures (twoEntries 0 [0, 0, 0, 0]) [reading 7, reading 8, reading 9] =
      some (twoEntries 2 [0, 1, 0, 2, 9, 8]) := by decide +kernel
  have read := reads_back_iff (by decide) (by decide) cleared layouts captured plainContext 0 []
  exact fun back => absurd (read.mp back) (by simp)

theorem captured_row_not_read :
    ¬ ∀ (pg pg₀ pg' : ProfileGeneric) (r : Readings) (rs : List Readings) (size : Nat)
      (ctx : ReadContext) (start : UInt32) (before : List UInt8),
      0 < pg.profileEntries → pg.profileEntries < 65536 →
      pg.handleProfileGenericActions 1 r = some pg₀ →
      (∀ r ∈ rs, RowLayout pg.captureObjects size r) → captures pg₀ rs = some pg' →
      pg'.ReadsBack ctx pg.profileEntries.toNat rs start before := by
  intro back
  have layouts : ∀ r ∈ [reading 7], RowLayout [register] 1 r := rowLayout_readings [7]
  have read := back (twoEntries 0 [0, 0, 0, 0]) (twoEntries 0 [0, 0, 0, 0])
    (twoEntries 1 [0, 1, 0, 1, 7]) (reading 0) [reading 7] 1 plainContext 0 [] (by decide)
    (by decide) (by decide +kernel) layouts (by decide +kernel)
  rw [ReadsBack, read_of_some (by decide)] at read
  exact absurd read.1 (by decide)

end ProfileGeneric
end DlmsGateway
