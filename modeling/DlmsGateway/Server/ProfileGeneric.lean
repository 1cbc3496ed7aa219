import DlmsGateway.Lib.BigEndian
import DlmsGateway.Lib.ByteFile
import Mathlib.Order.Bounds.Basic

/-!
# The ring buffer of a profile generic object

The file starts with the index of the next row and the count of the rows, two
bytes each, and the rows follow.  What `cosem_getValue` and `time_current` give
during a capture is an input; a value has at least its type byte.  Seeks and
writes on an open file succeed.  `getProfileGenericBufferColumnSizes` fills
arrays of ten entries, and with more columns the capture has no defined result.
Its counter is a number of 8 bits, so that from 256 columns on its loop does not
end, with or without the arrays; a profile has fewer columns here.
-/
set_option autoImplicit false
namespace DlmsGateway

structure CaptureObject where
  logicalName : Vector UInt8 6
  isClock : Bool
  isUnixTime : Bool
  attributeIndex : Nat
deriving DecidableEq

structure Readings where
  /-- `cosem_getValue` when the columns are measured. -/
  measured : CaptureObject → Option (List UInt8)
  /-- `cosem_getValue` when the row is written: the type byte and the rest. -/
  value : CaptureObject → Option (UInt8 × List UInt8)
  /-- `time_current`, as it lies in memory. -/
  timeCurrent : Vector UInt8 4
  pduBuff : Vector UInt8 4

structure ProfileGeneric where
  captureObjects : List CaptureObject
  profileEntries : UInt32
  entriesInUse : UInt32
  file : Option (List UInt8)
deriving DecidableEq

/-! ## The columns -/

/-- The size of one column; a failed value ends the loop over the columns. -/
def columnSize (r : Readings) (c : CaptureObject) : Option Nat :=
  if c.isClock ∧ c.attributeIndex = 2 then some 4
  else (r.measured c).map fun bytes => bytes.length - 1

/-- `*rowSize` of `getProfileGenericBufferColumnSizes`, of fewer than 256 columns. -/
def rowSize (r : Readings) : List CaptureObject → UInt16
  | [] => 0
  | c :: columns =>
      match columnSize r c with
      | none => 0
      | some size => UInt16.ofNat size + rowSize r columns

def columnBytes (r : Readings) (c : CaptureObject) : Option (List UInt8) :=
  if (c.isClock ∨ c.isUnixTime) ∧ c.attributeIndex = 2 then some r.timeCurrent.toList
  else (r.value c).map Prod.snd

/-- The bytes of the row up to the first failing column, and whether none failed. -/
def rowBytes (r : Readings) : List CaptureObject → List UInt8 × Bool
  | [] => ([], true)
  | c :: columns =>
      match columnBytes r c with
      | none => ([], false)
      | some bytes => (bytes ++ (rowBytes r columns).1, (rowBytes r columns).2)

/-! ## The capture -/

namespace ProfileGeneric
variable (pg : ProfileGeneric)

def loadIndex (file : List UInt8) : Nat × Nat :=
  if 2 ≤ file.length then (BigEndian.decode (ByteFile.readAt file 0 2), 0)
  else (0, file.length)

def countEntry : UInt32 :=
  if pg.entriesInUse ≠ pg.profileEntries then pg.entriesInUse + 1 else pg.entriesInUse

def header (r : Readings) (index : Nat) : List UInt8 :=
  let next :=
    if pg.profileEntries ≠ 0 then BigEndian.encode 2 ((1 + index) % pg.profileEntries.toNat) else []
  let set := next ++ BigEndian.encode 2 pg.countEntry.toNat
  set ++ r.pduBuff.toList.drop set.length

def rowPosition (index start : Nat) (dataSize : UInt16) : Nat :=
  if index ≠ 0 ∧ pg.profileEntries ≠ 0 then
    (4 + UInt32.ofNat index % pg.profileEntries * dataSize.toUInt32).toNat
  else start + 4

/-- `captureProfileGeneric` and whether it returns zero. -/
def captureProfileGeneric (r : Readings) : Option (ProfileGeneric × Bool) :=
  match pg.file with
  | none => some (pg, true)
  | some file =>
      if 10 < pg.captureObjects.length then none
      else
        let (index, start) := loadIndex file
        let counted := ByteFile.writeAt file start (pg.header r index)
        let (row, ok) := rowBytes r pg.captureObjects
        let position := pg.rowPosition index start (rowSize r pg.captureObjects)
        some ({ pg with
          entriesInUse := if ok then pg.countEntry else pg.countEntry - 1
          file := some (ByteFile.writeAt counted position row) }, ok)

def handleProfileGenericActions (index : UInt8) (r : Readings) : Option ProfileGeneric :=
  if index = 1 then
    some { pg with
      entriesInUse := 0
      file := pg.file.map fun file =>
        ByteFile.writeAt file 0 (BigEndian.encode 2 0 ++ BigEndian.encode 2 0) }
  else if index = 2 then (pg.captureProfileGeneric r).map Prod.fst
  else some pg

def captures : ProfileGeneric → List Readings → Option ProfileGeneric
  | pg, [] => some pg
  | pg, r :: rs =>
      match pg.captureProfileGeneric r with
      | some (pg', true) => captures pg' rs
      | _ => none

theorem captureProfileGeneric_cases {pg pg' : ProfileGeneric} {r : Readings} {ok : Bool}
    (captured : pg.captureProfileGeneric r = some (pg', ok)) :
    (pg.file = none ∧ pg' = pg) ∨ (pg.captureObjects.length ≤ 10 ∧ ∃ file', pg' = { pg with
      entriesInUse := if ok then pg.countEntry else pg.countEntry - 1, file := some file' }) := by
  rw [captureProfileGeneric] at captured
  cases absent : pg.file with
  | none =>
      rw [absent] at captured
      cases captured
      exact .inl ⟨rfl, rfl⟩
  | some file =>
      rw [absent] at captured
      dsimp only at captured
      split at captured
      · cases captured
      · rename_i narrow
        cases captured
        exact .inr ⟨Nat.not_lt.mp narrow, _, rfl⟩

theorem frame_captureProfileGeneric {pg pg' : ProfileGeneric} {r : Readings} {ok : Bool}
    (captured : pg.captureProfileGeneric r = some (pg', ok)) :
    pg'.captureObjects = pg.captureObjects ∧ pg'.profileEntries = pg.profileEntries := by
  rcases captureProfileGeneric_cases captured with ⟨-, rfl⟩ | ⟨-, file', rfl⟩ <;> exact ⟨rfl, rfl⟩

theorem frame_handleProfileGenericActions {pg pg' : ProfileGeneric} {r : Readings} {index : UInt8}
    (acted : pg.handleProfileGenericActions index r = some pg') :
    pg'.captureObjects = pg.captureObjects ∧ pg'.profileEntries = pg.profileEntries := by
  rw [handleProfileGenericActions] at acted
  split at acted
  · cases acted
    exact ⟨rfl, rfl⟩
  · split at acted
    · obtain ⟨⟨pg', ok⟩, captured, rfl⟩ := Option.map_eq_some_iff.mp acted
      exact frame_captureProfileGeneric captured
    · cases acted
      exact ⟨rfl, rfl⟩

end ProfileGeneric
end DlmsGateway
