import DlmsGateway.Lib.Runs
import DlmsGateway.Server.ByteBuffer
import Mathlib.Order.Bounds.Basic

/-!
# Firmware image transfer

`svr_preAction` handles the four methods of `imageTransfer`.  The parameters of
a call are the byte buffer the code reads them from, `beyond` the memory behind
it, and `now` the value of `time(NULL)`.  Opening and writing `image.raw`
succeeds wherever its mode allows.

`IMAGE_ACTIVATE_INFO` is not the array `image_transfer_initiate` writes to:
that one belongs to the object, and where it has no element the method
dereferences a null pointer and the process ends.
-/
set_option autoImplicit false
namespace DlmsGateway

open ByteBuffer

inductive ImageTransferStatus where
  | notInitiated
  | initiated
  | verificationInitiated
  | verificationSuccessful
  | verificationFailed
  | activationInitiated
  | activationSuccessful
  | activationFailed
deriving DecidableEq

inductive ImageError where
  | ok
  | hardwareFault
  | temporaryFailure
  | inconsistentClassOrObject
  | otherReason
deriving DecidableEq

/-- `imageTransfer`, `imageActionStartTime` and `image.raw`. -/
structure ImageTransfer where
  imageTransferStatus : ImageTransferStatus
  imageFirstNotTransferredBlockNumber : UInt32
  capacity : Nat
  /-- The `size` of the first element, where there is one. -/
  imageActivateInfo : Option UInt32
  image : Option (List UInt8)
  imageActionStartTime : Int
deriving DecidableEq

structure ImageCall where
  index : UInt8
  parameters : List UInt8
  beyond : Nat → UInt8
  now : Int

/-! ## The bit array -/

abbrev BaIsAttached (capacity : Nat) : Prop := 0x8000 ≤ capacity

def baClear (capacity : Nat) : Nat := if BaIsAttached capacity then capacity else 0

/-- `ba_setByIndex`: whether the bit was set, and the capacity.  `ba_capacity`
fails when the grown capacity has the bit of an attached array. -/
def baSetByIndex (capacity index : Nat) : Bool × Nat :=
  if BaIsAttached capacity then (decide (index < capacity), capacity)
  else if index < capacity then (true, capacity)
  else if BaIsAttached (capacity + 8) then (false, capacity + 8)
  else baSetByIndex (capacity + 8) index
termination_by 0x8000 - capacity

/-! ## The file -/

def allocateImageTransfer (image : Option (List UInt8)) (size : UInt32) : List UInt8 :=
  let file := image.getD []
  file ++ List.replicate (size.toNat - file.length % 2 ^ 32) 0

/-- `fwrite` at the start of a file opened with `r+b`. -/
def overwrite (file written : List UInt8) : List UInt8 := written ++ file.drop written.length

/-- `n` bytes from the current position on. -/
def memoryAt (bytes : List UInt8) (beyond : Nat → UInt8) (n : Nat) : List UInt8 :=
  (bytes ++ (List.range n).map beyond).take n

def imageActivateInfoSize : Nat := 0

/-! ## The methods -/

namespace ImageTransfer
variable (pointerSize : Nat)

/-- The octet string goes to `identification.data`, and the limit is the size of that pointer. -/
def announcedSize (parameters : List UInt8) : Option UInt32 := do
  let bytes ← cosemCheckStructure 2 parameters
  let (_, bytes) ← cosemGetOctetString2 pointerSize bytes
  let (size, _) ← cosemGetUInt32 bytes
  return size

def initiate (i : ImageTransfer) (e : ImageCall) : Option (ImageTransfer × ImageError) :=
  if i.imageActivateInfo = none then none
  else
    match announcedSize pointerSize e.parameters with
    | none => some ({ i with imageTransferStatus := .notInitiated }, .inconsistentClassOrObject)
    | some size =>
        some ({ i with
          imageTransferStatus := .initiated
          capacity := baClear i.capacity
          imageActivateInfo := some size
          image := some (allocateImageTransfer i.image size) }, .ok)

/-- The block number, the count that follows it, and the bytes behind that count. -/
def blockOf (parameters : List UInt8) : Option (UInt32 × UInt16 × List UInt8) := do
  let bytes ← cosemCheckStructure 2 parameters
  let (index, bytes) ← cosemGetUInt32 bytes
  let (blockSize, bytes) ← hlpGetObjectCount2 bytes
  return (index, blockSize, bytes)

def mark (i : ImageTransfer) (index : UInt32) : ImageTransfer :=
  let set := baSetByIndex i.capacity (index.toNat % 0x10000)
  { i with
    capacity := set.2
    imageFirstNotTransferredBlockNumber :=
      if set.1 then index + 1 else i.imageFirstNotTransferredBlockNumber }

def blockTransfer (i : ImageTransfer) (e : ImageCall) : ImageTransfer × ImageError :=
  match blockOf e.parameters with
  | none => (i, .hardwareFault)
  | some (index, blockSize, bytes) =>
      match i.image with
      | none => (i.mark index, .hardwareFault)
      | some file =>
          ({ i.mark index with
            image := some (overwrite file (memoryAt bytes e.beyond blockSize.toNat))
            imageActionStartTime := e.now }, .ok)

def verify (i : ImageTransfer) (e : ImageCall) : ImageTransfer × ImageError :=
  match i.image with
  | none => ({ i with imageTransferStatus := .verificationInitiated }, .hardwareFault)
  | some file =>
      if file.length ≠ imageActivateInfoSize then
        ({ i with imageTransferStatus := .verificationFailed }, .otherReason)
      else if e.now - i.imageActionStartTime < 5 then
        ({ i with imageTransferStatus := .verificationInitiated }, .temporaryFailure)
      else
        ({ i with
          imageTransferStatus := .verificationSuccessful
          imageActionStartTime := e.now }, .ok)

def activate (i : ImageTransfer) (e : ImageCall) : ImageTransfer × ImageError :=
  if e.now - i.imageActionStartTime < 5 then
    ({ i with imageTransferStatus := .activationInitiated }, .temporaryFailure)
  else
    ({ i with
      imageTransferStatus := .activationSuccessful
      imageActionStartTime := e.now }, .ok)

/-- `svr_preAction` on `imageTransfer`; `none` where the process ends. -/
def svrPreAction (i : ImageTransfer) (e : ImageCall) : Option (ImageTransfer × ImageError) :=
  if e.index = 1 then i.initiate pointerSize e
  else if e.index = 2 then some (i.blockTransfer e)
  else if e.index = 3 then some (i.verify e)
  else if e.index = 4 then some (i.activate e)
  else some (i, .ok)

/-- Everything a call can do. -/
theorem svrPreAction_cases {i i' : ImageTransfer} {e : ImageCall} {error : ImageError}
    (acts : i.svrPreAction pointerSize e = some (i', error)) :
    (e.index = 1 ∧ i.initiate pointerSize e = some (i', error)) ∨
    (e.index = 2 ∧ i.blockTransfer e = (i', error)) ∨
    (e.index = 3 ∧ i.verify e = (i', error)) ∨
    (e.index = 4 ∧ i.activate e = (i', error)) ∨
    ((e.index ≠ 1 ∧ e.index ≠ 2 ∧ e.index ≠ 3 ∧ e.index ≠ 4) ∧ i' = i) := by
  rw [svrPreAction] at acts
  split_ifs at acts with one two three four
  · exact .inl ⟨one, acts⟩
  · exact .inr (.inl ⟨two, Option.some.inj acts⟩)
  · exact .inr (.inr (.inl ⟨three, Option.some.inj acts⟩))
  · exact .inr (.inr (.inr (.inl ⟨four, Option.some.inj acts⟩)))
  · exact .inr (.inr (.inr (.inr
      ⟨⟨one, two, three, four⟩, (congrArg Prod.fst (Option.some.inj acts)).symm⟩)))

def step (i : Option ImageTransfer) (e : ImageCall) : Option ImageTransfer :=
  i.bind fun i => (i.svrPreAction pointerSize e).map Prod.fst

end ImageTransfer
end DlmsGateway
