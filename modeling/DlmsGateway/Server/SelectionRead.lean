import DlmsGateway.Server.BlockRead
import DlmsGateway.Server.EntrySelection

/-!
# A selection in one PDU

The loop of `readProfileGeneric` appends to a PDU that is large enough, to one of
bounded size, and runs over the entries of a selection.  Where the PDU has room
all three are the same rows, as many as the array in front of them counts.
-/
set_option autoImplicit false
namespace DlmsGateway.BoundedRow

open ByteStore ProfileGeneric

section Columns
variable (ctx : ReadContext) (dateTime : CaptureObject → List UInt8 → DateTime)

/-- A column of a profile, with what `columnType` has of it. -/
def columnOf (c : CaptureObject) : Column :=
  if (c.isClock ∨ c.isUnixTime) ∧ c.attributeIndex = 2 then .time (dateTime c)
  else .data (columnType ctx c).1 (columnType ctx c).2

/-- The octet string of a time is the tag, the length and what `var_getDateTime2` writes. -/
def WritesTimes : Prop :=
  ∀ c bytes, ctx.dateTime c bytes = 9 :: 12 :: (dateTime c bytes).bytes

variable {ctx} {dateTime} {file : Nat → UInt8}

theorem readColumn_eq (times : WritesTimes ctx dateTime) (c : CaptureObject) (pos len : Nat)
    (inside : (columnOf ctx dateTime c).stored ≤ len) :
    readColumn ctx c (window file pos len) =
      (columnValue file (columnOf ctx dateTime c) pos,
        window file (pos + (columnOf ctx dateTime c).stored)
          (len - (columnOf ctx dateTime c).stored)) := by
  by_cases time : (c.isClock ∨ c.isUnixTime) ∧ c.attributeIndex = 2
  · rw [columnOf, if_pos time, Column.stored] at inside ⊢
    rw [readColumn, if_pos time, times, window_take _ _ _ _ inside, window_drop]
    rfl
  · rw [columnOf, if_neg time, Column.stored] at inside ⊢
    rw [readColumn, if_neg time]
    dsimp only
    rw [window_take _ _ _ _ inside, window_drop]
    rfl

theorem readColumns_eq (times : WritesTimes ctx dateTime) (columns : List CaptureObject) :
    ∀ pos len, ((columns.map (columnOf ctx dateTime)).map Column.stored).sum ≤ len →
      readColumns ctx columns (window file pos len) =
        (columnValues file (columns.map (columnOf ctx dateTime)) pos,
          window file (pos + ((columns.map (columnOf ctx dateTime)).map Column.stored).sum)
            (len - ((columns.map (columnOf ctx dateTime)).map Column.stored).sum)) := by
  induction columns with
  | nil => intro pos len _; rfl
  | cons c columns ih =>
      intro pos len inside
      rw [List.map_cons, List.map_cons, List.sum_cons] at inside ⊢
      rw [readColumns, readColumn_eq times c pos len (by omega)]
      dsimp only
      rw [ih _ _ (by omega), columnValues, Nat.add_assoc, Nat.sub_sub]

variable {l : Layout} {columns : List CaptureObject}

theorem cosemSetStructure_few (few : columns.length ≤ 10) :
    DlmsGateway.cosemSetStructure (UInt16.ofNat columns.length) =
      [2, UInt8.ofNat columns.length] := by
  have count : (UInt16.ofNat columns.length).toNat = columns.length := by
    rw [UInt16.toNat_ofNat']
    exact Nat.mod_eq_of_lt (by omega)
  rw [DlmsGateway.cosemSetStructure, count, ByteBuffer.hlpSetObjectCount, if_pos (by omega)]
  simp [BigEndian.encode]

/-- The rows of a PDU that is large enough are those of the layout. -/
theorem readRows_eq (times : WritesTimes ctx dateTime)
    (same : l.columns = columns.map (columnOf ctx dateTime)) (n : Nat) :
    ∀ pos len, n * l.dataSize ≤ len →
      readRows ctx columns n (window file pos len) = rowValues l file n pos := by
  have few : columns.length ≤ 10 := by
    have bound := l.few
    rw [same, List.length_map] at bound
    exact bound
  have size : l.dataSize = ((columns.map (columnOf ctx dateTime)).map Column.stored).sum := by
    rw [Layout.dataSize, same]
  induction n with
  | zero => intro pos len _; rfl
  | succ n ih =>
      intro pos len inside
      rw [Nat.succ_mul] at inside
      rw [readRows, readColumns_eq times columns pos len (by omega)]
      dsimp only
      rw [← size, ih _ _ (by omega), rowValues, rowValue, same, List.length_map,
        cosemSetStructure_few few]

end Columns

section Selection
variable {l : Layout} {file : Nat → UInt8} {ctx : ReadContext}
  {dateTime : CaptureObject → List UInt8 → DateTime} {start last : UInt32}

/-- The loop appends the rows from the first entry on, however large the file is. -/
theorem byteArr_appendRows (pg : ProfileGeneric) (e : ReadEvent) (dataSize : UInt16) (len : Nat)
    (times : WritesTimes ctx dateTime)
    (same : l.columns = pg.captureObjects.map (columnOf ctx dateTime))
    (size : l.dataSize = dataSize.toNat) (one : 1 ≤ e.transactionStartIndex)
    (order : e.transactionStartIndex ≤ e.transactionEndIndex)
    (inside : 4 + e.transactionEndIndex.toNat * l.dataSize ≤ len) (small : len < 2 ^ 32) :
    (pg.appendRows ctx (window file 0 len) dataSize e).byteArr = e.byteArr ++
      rowsFrom l file e.transactionStartIndex.toNat
        (rowRounds e.transactionStartIndex e.transactionEndIndex) := by
  have rounds := rowRounds_of_order one order
  rw [UInt32.le_iff_toNat_le] at one order
  rw [UInt32.toNat_one] at one
  generalize first : e.transactionStartIndex = start at *
  generalize final : e.transactionEndIndex = last at *
  have split : last.toNat * l.dataSize =
      (start.toNat - 1) * l.dataSize + rowRounds start last * l.dataSize := by
    rw [← Nat.add_mul, rounds]
    congr 1
    omega
  have before : (start - 1).toNat = start.toNat - 1 := by
    rw [UInt32.toNat_sub, UInt32.toNat_one]
    have below := start.toNat_lt
    omega
  have offset : (4 + (start - 1) * dataSize.toUInt32).toNat =
      4 + (start.toNat - 1) * l.dataSize := by
    have four : (4 : UInt32).toNat = 4 := rfl
    rw [UInt32.toNat_add, UInt32.toNat_mul, four, before, UInt16.toNat_toUInt32, ← size,
      Nat.mod_eq_of_lt (show (start.toNat - 1) * l.dataSize < 2 ^ 32 by omega),
      Nat.mod_eq_of_lt (by omega)]
  rw [ProfileGeneric.appendRows, first, final]
  dsimp only
  rw [offset, window_drop, readRows_eq times same _ _ _ (by omega), Nat.zero_add, rowsFrom]

/-- A selection inside the stored rows is read whole, with as many rows as the array counts. -/
theorem selection_read (pg : ProfileGeneric) (parameters : Except Int (Int × Int)) (p : Pdu)
    (right : pg.SelectsInside parameters)
    (selects : pg.selectRows (.byEntry (entryBounds parameters)) = (0, start, last))
    (some_ : last ≠ 0)
    (room : p.before.length + (arrayCount start last).toNat * l.width ≤ p.capacity) :
    readBlock l file p start.toNat last.toNat =
      some (last.toNat + 1, rowsFrom l file start.toNat (arrayCount start last).toNat) := by
  rw [SelectsInside, selects] at right
  obtain ⟨bounds, rounds, positions, ended, -, -, counted⟩ := right
  obtain ⟨one, order, -⟩ := bounds.resolve_left fun zero => some_ zero.2
  have rows : (arrayCount start last).toNat = last.toNat + 1 - start.toNat := by
    rw [counted, length_selectedPositions some_ ended, rowRounds_of_order one order]
  rw [UInt32.le_iff_toNat_le] at one order
  rw [rows] at room ⊢
  exact readBlock_of_room room one order

end Selection
end DlmsGateway.BoundedRow
