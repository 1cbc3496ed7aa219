import DlmsGateway.Server.AttributeAccess
import DlmsGateway.Server.ByteBuffer

/-!
# Requests to write attributes

`svr_handleSetRequest` and what it calls for each type of request.  A value is
the bytes that `dlms_getData` has read it from.  That function and what the
three callbacks and `cosem_setValue` do to the device are parameters; the memory
suffices, and the response is left out.

`written` says what was given to `svr_preWrite`, which comes before every call
of `cosem_setValue`.
-/
set_option autoImplicit false
namespace DlmsGateway.DlmsServer

open ByteBuffer

structure ValueEvent where
  target : Nat
  index : UInt8
  value : List UInt8
  handled : Bool
  error : Nat
deriving DecidableEq

/-- `settings->transaction` and `settings->base.blockIndex` -/
structure Transaction where
  targets : List ValueEvent
  data : List UInt8
  blockIndex : UInt32
deriving DecidableEq

namespace Transaction

def cleared : Transaction := ⟨[], [], 1⟩

def resetBlockIndex (t : Transaction) : Transaction := { t with blockIndex := 1 }

def nextBlock (t : Transaction) : Transaction := { t with blockIndex := t.blockIndex + 1 }

end Transaction

structure SetProcedures (σ : Type) where
  /-- What `svr_getAttributeAccess` leaves where it ends without a `return`. -/
  undefinedAccess : UInt16 → CosemObject → UInt8 → AccessMode
  /-- The value or the error, and the bytes behind. -/
  getData : List UInt8 → Except Nat (List UInt8) × List UInt8
  preWrite : Settings → List ValueEvent → Device σ → Device σ × List ValueEvent
  setValue : Settings → ValueEvent → Device σ → Device σ × Nat
  postWrite : Settings → List ValueEvent → Device σ → Device σ

structure SetOutcome (σ : Type) where
  device : Device σ
  transaction : Transaction
  written : List (Nat × UInt8)

structure AttributeDescriptor where
  ci : ObjectType
  logicalName : LogicalName
  index : UInt8

/-- The access selection is read and left aside. -/
def readDescriptor (bytes : List UInt8) : Option (AttributeDescriptor × List UInt8) := do
  let (ci, bytes) ← bbGetUInt16 bytes
  let logicalName : LogicalName := .ofFn fun i => bytes.getD i 0
  let (index, bytes) ← bbGetUInt8 (bytes.drop 6)
  let (_, bytes) ← bbGetUInt8 bytes
  return (⟨ci, logicalName, index⟩, bytes)

def readBlock (blockIndex : UInt32) (bytes : List UInt8) : Option (Bool × List UInt8) := do
  let (ch, bytes) ← bbGetUInt8 bytes
  let (blockNumber, bytes) ← bbGetUInt32 bytes
  if blockNumber ≠ blockIndex then none
  else
    let (size, bytes) ← hlpGetObjectCount2 bytes
    if size.toNat ≠ bytes.length then none else return (ch = 0, bytes)

namespace Server
variable {σ : Type} (C : SetProcedures σ) (s : Server σ)

/-- Unlike a method, an attribute of an association is also found by its logical name alone. -/
def attributeTarget (a : AttributeDescriptor) : Option Nat :=
  (s.oaFindByLN a.ci a.logicalName).orElse fun _ => s.svrFindObject a.ci a.logicalName

def AttributeWritable (target : Nat) (index : UInt8) : Prop :=
  ∃ o ∈ s.device.objects[target]?,
    (svrGetAttributeAccess (C.undefinedAccess s.settings.clientAddress o index)
      s.settings.clientAddress o index).Writable

instance (target : Nat) (index : UInt8) : Decidable (s.AttributeWritable C target index) :=
  inferInstanceAs (Decidable (∃ o ∈ s.device.objects[target]?, _))

def refused (t : Transaction) : SetOutcome σ := ⟨s.device, t.resetBlockIndex, []⟩

/-- `cosem_setValue` and `svr_postWrite`; the error of the first is left in the event. -/
def setAndPostWrite (e : ValueEvent) (d : Device σ) : Device σ × Nat :=
  let set := C.setValue s.settings e d
  let e := if set.2 ≠ errorOk ∧ e.error = errorOk then { e with error := set.2 } else e
  (C.postWrite s.settings [e] set.1, if e.error ≠ errorOk then e.error else set.2)

/-- The write of `svr_handleSetRequest2`.  `data` has been cleared before the first block is to be
kept. -/
def writeAttribute (e : ValueEvent) (t : Transaction) (multipleBlocks : Bool) : SetOutcome σ :=
  let pre := C.preWrite s.settings [e] s.device
  let after := pre.2.headD e
  let written := [(e.target, e.index)]
  if multipleBlocks then
    let t := { t with targets := [{ after with value := [] }], data := [] }
    ⟨pre.1, if after.error ≠ errorOk then t.resetBlockIndex else t, written⟩
  else if after.error ≠ errorOk then ⟨pre.1, t.resetBlockIndex, written⟩
  else if after.handled then ⟨pre.1, t, written⟩
  else
    let set := s.setAndPostWrite C after pre.1
    ⟨set.1, if set.2 ≠ errorOk then t.resetBlockIndex else t, written⟩

/-- What the normal type and the first data block give: the attribute, the value of a request
without further blocks, and whether there are more. -/
def parseSet (t : Transaction) (firstBlock : Bool) (bytes : List UInt8) :
    Option (ValueEvent × Bool) := do
  let (a, bytes) ← readDescriptor bytes
  let (multipleBlocks, bytes) ←
    if firstBlock then readBlock t.blockIndex bytes else some (false, bytes)
  let value ←
    if multipleBlocks then some []
    else
      match (C.getData bytes).1 with
      | .ok value => some value
      | .error _ => none
  let target ← s.attributeTarget a
  return (⟨target, a.index, value, false, errorOk⟩, multipleBlocks)

def svrHandleSetRequest2 (t : Transaction) (firstBlock : Bool) (bytes : List UInt8) :
    SetOutcome σ :=
  match s.parseSet C t firstBlock bytes with
  | none => s.refused t
  | some (e, multipleBlocks) =>
      if s.AttributeWritable C e.target e.index then
        s.writeAttribute C e (if multipleBlocks then t.nextBlock else t.resetBlockIndex)
          multipleBlocks
      else s.refused t

/-- The write of `svr_hanleSetRequestWithDataBlock`, once the data is complete. -/
def writeTransaction (e : ValueEvent) (targets : List ValueEvent) (t : Transaction) :
    SetOutcome σ :=
  let pre := C.preWrite s.settings (e :: targets) s.device
  let after := pre.2.headD e
  let written := (e :: targets).map fun e => (e.target, e.index)
  if after.handled then ⟨pre.1, .cleared, written⟩
  else
    let set := C.setValue s.settings after pre.1
    if set.2 ≠ errorOk then ⟨set.1, t.resetBlockIndex, written⟩
    else ⟨C.postWrite s.settings pre.2 set.1, .cleared, written⟩

/-- `svr_hanleSetRequestWithDataBlock`, which asks for no access.  Without a target the process
ends before `svr_preWrite`; data that cannot be parsed returns with success and clears nothing. -/
def svrHanleSetRequestWithDataBlock (t : Transaction) (bytes : List UInt8) : SetOutcome σ :=
  match readBlock t.blockIndex bytes with
  | none => s.refused t
  | some (multipleBlocks, bytes) =>
      let t := { t.nextBlock with data := t.data ++ bytes }
      if multipleBlocks then ⟨s.device, t, []⟩
      else
        let read := C.getData t.data
        let t := { t with data := read.2 }
        match t.targets, read.1 with
        | [], _ => s.refused t
        | _ :: _, .error _ => ⟨s.device, t, []⟩
        | e :: targets, .ok value => s.writeTransaction C { e with value := value } targets t

/-! ### A list of attributes -/

def errorUnavailableObject : Nat := 11

def attributeStatus (a : AttributeDescriptor) : Nat :=
  match s.attributeTarget a with
  | none => errorUnavailableObject
  | some target =>
      if s.AttributeWritable C target a.index then errorOk else errorReadWriteDenied

def readStatuses : Nat → List UInt8 → Option (List UInt8 × List UInt8)
  | 0, bytes => some ([], bytes)
  | count + 1, bytes => do
      let (a, bytes) ← readDescriptor bytes
      let (statuses, bytes) ← readStatuses count bytes
      return (UInt8.ofNat (s.attributeStatus C a) :: statuses, bytes)

/-- One write of the list.  The event is the same for all of them, so that what an earlier one has
left in `handled` and `error` stays. -/
def writeListItem (e : ValueEvent) (parsed : Bool) (d : Device σ) : Device σ × ValueEvent :=
  let pre := C.preWrite s.settings [e] d
  let after := pre.2.headD e
  let cleared := { after with value := [] }
  if parsed = false ∨ after.error ≠ errorOk ∨ after.handled then (pre.1, cleared)
  else
    let set := C.setValue s.settings after pre.1
    (C.postWrite s.settings [after] set.1, cleared)

/-- The second pass.  An error of `dlms_getData` replaces the status, by its last byte. -/
def writeList : Nat → List UInt8 → List UInt8 → List UInt8 → ValueEvent → Device σ →
    Device σ × List (Nat × UInt8)
  | 0, _, _, _, _, d => (d, [])
  | count + 1, statuses, descriptors, values, e, d =>
      match readDescriptor descriptors with
      | none => (d, [])
      | some (a, descriptors) =>
          let (data, values) := C.getData values
          let e := { e with index := a.index }
          let (e, status, parsed) :=
            match data with
            | .ok value => ({ e with value := value }, statuses.head?, true)
            | .error code => (e, statuses.head?.map fun _ => UInt8.ofNat code, false)
          match status, { s with device := d }.attributeTarget a with
          | some 0, some target =>
              let item := s.writeListItem C { e with target := target } parsed d
              let rest := writeList count statuses.tail descriptors values item.2 item.1
              (rest.1, (target, a.index) :: rest.2)
          | _, _ => writeList count statuses.tail descriptors values e d

def svrHandleSetRequestWithList (t : Transaction) (bytes : List UInt8) : SetOutcome σ :=
  let parsed := do
    let (count, descriptors) ← hlpGetObjectCount2 bytes
    let (statuses, bytes) ← s.readStatuses C count.toNat descriptors
    let (count, values) ← hlpGetObjectCount2 bytes
    return (count.toNat, statuses, descriptors, values)
  match parsed with
  | none => s.refused t
  | some (count, statuses, descriptors, values) =>
      let result := s.writeList C count statuses descriptors values ⟨0, 0, [], false, errorOk⟩
        s.device
      ⟨result.1, if count = 0 then t else t.resetBlockIndex, result.2⟩

/-- `svr_handleSetRequest`: the type, the invoke id and the rest. -/
def svrHandleSetRequest (t : Transaction) : List UInt8 → SetOutcome σ
  | type :: _ :: bytes =>
      if type = 1 then s.svrHandleSetRequest2 C t false bytes
      else if type = 2 then s.svrHandleSetRequest2 C t true bytes
      else if type = 3 then s.svrHanleSetRequestWithDataBlock C t bytes
      else if type = 4 then s.svrHandleSetRequestWithList C t bytes
      else s.refused t
  | _ => ⟨s.device, t, []⟩

/-! ## What is written -/

section Written
variable {C s} {t : Transaction}

theorem written_writeAttribute (e : ValueEvent) (multipleBlocks : Bool) :
    (s.writeAttribute C e t multipleBlocks).written = [(e.target, e.index)] := by
  unfold writeAttribute
  dsimp only
  split_ifs <;> rfl

theorem written_setRequest2 {firstBlock : Bool} {bytes : List UInt8} :
    ∀ w ∈ (s.svrHandleSetRequest2 C t firstBlock bytes).written, s.AttributeWritable C w.1 w.2 := by
  unfold svrHandleSetRequest2
  split
  · exact fun w member => absurd member List.not_mem_nil
  · rename_i e multipleBlocks _
    split
    · rename_i writable
      rw [written_writeAttribute]
      intro w member
      rw [List.mem_singleton.mp member]
      exact writable
    · exact fun w member => absurd member List.not_mem_nil

theorem written_writeTransaction (e : ValueEvent) (targets : List ValueEvent) :
    (s.writeTransaction C e targets t).written =
      (e :: targets).map fun e => (e.target, e.index) := by
  unfold writeTransaction
  dsimp only
  split_ifs <;> rfl

/-- A later block writes what the transaction holds, and asks nobody. -/
theorem written_dataBlock {bytes : List UInt8} :
    ∀ w ∈ (s.svrHanleSetRequestWithDataBlock C t bytes).written,
      ∃ e ∈ t.targets, w = (e.target, e.index) := by
  have nothing : ∀ w ∈ ([] : List (Nat × UInt8)), ∃ e ∈ t.targets, w = (e.target, e.index) :=
    fun w member => absurd member List.not_mem_nil
  unfold svrHanleSetRequestWithDataBlock
  split
  · exact nothing
  · dsimp only
    split
    · exact nothing
    · split
      · exact nothing
      · exact nothing
      · rename_i e targets value held _
        have targets_eq : t.targets = e :: targets := held
        rw [written_writeTransaction, targets_eq]
        intro w member
        rcases List.mem_cons.mp member with here | later
        · exact ⟨e, List.mem_cons_self, here⟩
        · obtain ⟨e', member, same⟩ := List.mem_map.mp later
          exact ⟨e', List.mem_cons_of_mem _ member, same.symm⟩

/-! ### A client that may write nothing -/

section Refused
variable (refuses : ∀ target index, ¬ s.AttributeWritable C target index)
include refuses

theorem attributeStatus_of_refused (a : AttributeDescriptor) :
    UInt8.ofNat (s.attributeStatus C a) ≠ 0 := by
  unfold attributeStatus
  split
  · decide
  · rename_i target _
    rw [if_neg (refuses target a.index)]
    decide

theorem readStatuses_of_refused (count : Nat) :
    ∀ (bytes : List UInt8) (result : List UInt8 × List UInt8),
      s.readStatuses C count bytes = some result → ∀ status ∈ result.1, status ≠ 0 := by
  induction count with
  | zero =>
      intro bytes result read
      cases read
      exact fun status member => absurd member List.not_mem_nil
  | succ count ih =>
      intro bytes result read
      rw [readStatuses] at read
      obtain ⟨⟨a, rest⟩, -, read⟩ := Option.bind_eq_some_iff.mp read
      obtain ⟨⟨statuses, behind⟩, later, read⟩ := Option.bind_eq_some_iff.mp read
      cases read
      intro status member
      rcases List.mem_cons.mp member with here | there
      · rw [here]
        exact attributeStatus_of_refused refuses a
      · exact ih rest _ later status there

omit refuses in
/-- Without a status 0, and without an error that looks like one, the list writes nothing. -/
theorem writeList_of_refused
    (errors : ∀ bytes code, (C.getData bytes).1 = .error code → UInt8.ofNat code ≠ 0)
    (count : Nat) : ∀ (statuses descriptors values : List UInt8) (e : ValueEvent) (d : Device σ),
      (∀ status ∈ statuses, status ≠ 0) →
        (s.writeList C count statuses descriptors values e d).2 = [] := by
  induction count with
  | zero => intro statuses descriptors values e d _; rfl
  | succ count ih =>
      intro statuses descriptors values e d refused
      rw [writeList]
      cases readDescriptor descriptors with
      | none => rfl
      | some read =>
          obtain ⟨a, descriptors⟩ := read
          have later : ∀ status ∈ statuses.tail, status ≠ 0 :=
            fun status member => refused status (List.mem_of_mem_tail member)
          have head : statuses.head? ≠ some 0 :=
            fun first => refused 0 (List.mem_of_mem_head? first) rfl
          have unlike := errors values
          rcases read : C.getData values with ⟨data, behind⟩
          rw [read] at unlike
          cases data with
          | ok value =>
              dsimp only
              split
              · rename_i first _
                exact absurd first head
              · exact ih _ _ _ _ _ later
          | error code =>
              dsimp only
              split
              · rename_i first _
                obtain ⟨_, -, zero⟩ := Option.map_eq_some_iff.mp first
                exact absurd zero (unlike code rfl)
              · exact ih _ _ _ _ _ later

theorem written_of_refused
    (errors : ∀ bytes code, (C.getData bytes).1 = .error code → UInt8.ofNat code ≠ 0)
    (bytes : List UInt8) :
    ∀ w ∈ (s.svrHandleSetRequest C t bytes).written, ∃ e ∈ t.targets, w = (e.target, e.index) := by
  have nothing : ∀ w ∈ ([] : List (Nat × UInt8)), ∃ e ∈ t.targets, w = (e.target, e.index) :=
    fun w member => absurd member List.not_mem_nil
  unfold svrHandleSetRequest
  split
  · rename_i bytes
    split_ifs
    · exact fun w member => absurd (written_setRequest2 w member) (refuses _ _)
    · exact fun w member => absurd (written_setRequest2 w member) (refuses _ _)
    · exact written_dataBlock
    · unfold svrHandleSetRequestWithList
      dsimp only
      split
      · exact nothing
      · rename_i count statuses descriptors values parsed
        obtain ⟨⟨first, listed⟩, -, parsed⟩ := Option.bind_eq_some_iff.mp parsed
        obtain ⟨⟨read, behind⟩, statuses_eq, parsed⟩ := Option.bind_eq_some_iff.mp parsed
        obtain ⟨⟨second, rest⟩, -, parsed⟩ := Option.bind_eq_some_iff.mp parsed
        cases parsed
        have refused := readStatuses_of_refused refuses _ _ _ statuses_eq
        rw [writeList_of_refused errors _ _ _ _ _ _ refused]
        exact nothing
    · exact nothing
  · exact nothing

end Refused

theorem public_writes_transaction (client : s.settings.clientAddress = publicClient)
    (errors : ∀ bytes code, (C.getData bytes).1 = .error code → UInt8.ofNat code ≠ 0)
    (bytes : List UInt8) :
    ∀ w ∈ (s.svrHandleSetRequest C t bytes).written, ∃ e ∈ t.targets, w = (e.target, e.index) := by
  refine written_of_refused (fun target index writable => ?_) errors bytes
  obtain ⟨o, -, writable⟩ := writable
  rw [client] at writable
  exact public_not_writable _ o index writable

end Written
end Server
end DlmsGateway.DlmsServer
