import DlmsGateway.Server.ImageTransfer
import Mathlib.Data.List.Induction

/-!
# What the transferred blocks leave in the image file

`hlp_getObjectCount2` reads the tag of the octet string, nine, as the size of
the block, so a block writes its own length and its first bytes, nine bytes in
all, and it writes them at the start of the file whatever its number.  The
first missing block number is one more than that of the last recorded block.
-/
set_option autoImplicit false
namespace DlmsGateway

open ByteBuffer

structure FirmwareImage where
  content : List UInt8
  blockSize : Nat
  nonempty : 0 < content.length
  announceable : content.length < 2 ^ 32
  positive : 0 < blockSize

namespace FirmwareImage
variable (m : FirmwareImage)

/-- The bytes `[i * B, min ((i + 1) * B, S))`. -/
def block (i : Nat) : List UInt8 := (m.content.drop (i * m.blockSize)).take m.blockSize

structure Transfer where
  number : Nat
  inside : number * m.blockSize < m.content.length
  now : Int
  beyond : Nat → UInt8

namespace Transfer
variable {m : FirmwareImage} (c : m.Transfer)

def call : ImageCall where
  index := 2
  parameters :=
    0x02 :: 0x02 :: doubleLongUnsigned (UInt32.ofNat c.number) ++ octetString (m.block c.number)
  beyond := c.beyond
  now := c.now

/-- The length of the block and its first bytes, as they stand in the request. -/
def written : List UInt8 :=
  memoryAt (hlpSetObjectCount (m.block c.number).length ++ m.block c.number) c.beyond 9

end Transfer

/-- A successful `image_transfer_initiate` with the size of the image. -/
structure Initiates (pointerSize : Nat) (i : ImageTransfer) (e : ImageCall)
    (i' : ImageTransfer) : Prop where
  index : e.index = 1
  announced : ImageTransfer.announcedSize pointerSize e.parameters =
    some (UInt32.ofNat m.content.length)
  success : i.svrPreAction pointerSize e = some (i', .ok)

variable {m}

def numbers (calls : List m.Transfer) : List Nat := calls.map Transfer.number

def Complete (calls : List m.Transfer) : Prop :=
  ∀ n, n * m.blockSize < m.content.length → n ∈ numbers calls

/-- The least number that was not transferred. -/
abbrev FirstMissing (calls : List m.Transfer) (n : Nat) : Prop :=
  IsLeast {k | k ∉ numbers calls} n

def after (pointerSize : Nat) (i : ImageTransfer) (calls : List m.Transfer) :
    Option ImageTransfer :=
  Runs.run (ImageTransfer.step pointerSize) (some i) (calls.map Transfer.call)

/-- The transfers put the image into the file and keep count of it. -/
structure Received (pointerSize : Nat) (i : ImageTransfer) (calls : List m.Transfer) : Prop where
  content : Complete calls →
    ∃ t ∈ after pointerSize i calls, t.image = some m.content
  firstMissing : ∀ done, done <+: calls → ∃ t ∈ after pointerSize i done,
    FirstMissing done t.imageFirstNotTransferredBlockNumber.toNat

/-- A number that is refused, and leaves the bit array with the bit of an attached one. -/
def Overrun (done : List m.Transfer) : Prop := ∃ n ∈ numbers done, 0x7ff8 ≤ n % 0x10000

instance (done : List m.Transfer) : Decidable (Overrun done) :=
  inferInstanceAs (Decidable (∃ n ∈ numbers done, _))

/-- The block numbers below which the bit array takes a bit. -/
def blockLimit (capacity : Nat) (done : List m.Transfer) : Nat :=
  if BaIsAttached capacity then capacity else if Overrun done then 0x8000 else 0x7ff8

/-- The next transfer leaves the number the code keeps at the first missing one. -/
structure InSequence (capacity : Nat) (done : List m.Transfer) (c : m.Transfer) : Prop where
  recorded : c.number % 0x10000 < blockLimit capacity done →
    (∀ n, n < c.number → n ∈ numbers done) ∧ c.number + 1 ∉ numbers done
  unrecorded : ¬ c.number % 0x10000 < blockLimit capacity done → ¬ FirstMissing done c.number

/-- What is written over the start of the file, and what was in it, is the image. -/
structure Coincides (file : List UInt8) (c : m.Transfer) : Prop where
  short : file.length ≤ m.content.length
  start : m.content.take 9 = c.written
  rest : ∀ k, 9 ≤ k → k < m.content.length → m.content[k]? = some (file.getD k 0)

structure Fortunate (i : ImageTransfer) (calls : List m.Transfer) : Prop where
  fresh : i.imageFirstNotTransferredBlockNumber = 0
  sequence : ∀ done c, done ++ [c] <+: calls → InSequence i.capacity done c
  coincidence : Complete calls → ∀ c ∈ calls.getLast?, Coincides (i.image.getD []) c

/-! ## One block -/

theorem number_lt (c : m.Transfer) : c.number < m.content.length :=
  lt_of_le_of_lt (Nat.le_mul_of_pos_right _ m.positive) c.inside

theorem toNat_number (c : m.Transfer) : (UInt32.ofNat c.number).toNat = c.number := by
  have := number_lt c
  have := m.announceable
  exact UInt32.toNat_ofNat_of_lt' (by rw [UInt32.size]; omega)

theorem toNat_next (c : m.Transfer) : (UInt32.ofNat c.number + 1).toNat = c.number + 1 := by
  have := number_lt c
  have := m.announceable
  rw [UInt32.toNat_add, toNat_number]
  simp only [UInt32.toNat_one]
  omega

/-- The count is the tag of the octet string. -/
theorem blockOf_call (c : m.Transfer) :
    ImageTransfer.blockOf c.call.parameters = some (UInt32.ofNat c.number, 9,
      hlpSetObjectCount (m.block c.number).length ++ m.block c.number) := by
  have index := cosemGetUInt32_doubleLongUnsigned (UInt32.ofNat c.number)
    (octetString (m.block c.number))
  have count := hlpGetObjectCount2_short (by decide : (0x09 : UInt8) ≤ 0x80)
    (hlpSetObjectCount (m.block c.number).length ++ m.block c.number)
  simp only [ImageTransfer.blockOf, Transfer.call, List.cons_append, cosemCheckStructure_pair,
    Option.bind_eq_bind, Option.bind_some, index]
  rw [octetString, List.cons_append, count]
  rfl

theorem blockTransfer_call (i : ImageTransfer) (file : List UInt8) (present : i.image = some file)
    (c : m.Transfer) :
    (i.blockTransfer c.call).1 = { i.mark (UInt32.ofNat c.number) with
      image := some (overwrite file c.written)
      imageActionStartTime := c.now } := by
  simp only [ImageTransfer.blockTransfer, blockOf_call, present]
  rfl

theorem length_written (c : m.Transfer) : c.written.length = 9 := by
  simp only [Transfer.written, memoryAt, List.length_take, List.length_append, List.length_map,
    List.length_range]
  omega

/-! ## The first missing block -/

section FirstMissing

/-- A bit array that is not attached grows by whole bytes. -/
def CapacityAfter (capacity : Nat) (done : List m.Transfer) (grown : Nat) : Prop :=
  if BaIsAttached capacity then grown = capacity
  else if Overrun done then grown = 0x8000
  else grown < 0x8000 ∧ 8 ∣ grown

theorem baSetByIndex_attached {capacity : Nat} (attached : BaIsAttached capacity) (index : Nat) :
    baSetByIndex capacity index = (decide (index < capacity), capacity) := by
  rw [baSetByIndex, if_pos attached]

theorem baSetByIndex_low (capacity index : Nat) (low : index < 0x7ff8)
    (detached : ¬ BaIsAttached capacity) (whole : 8 ∣ capacity) :
    (baSetByIndex capacity index).1 = true ∧
      ¬ BaIsAttached (baSetByIndex capacity index).2 ∧
      8 ∣ (baSetByIndex capacity index).2 := by
  induction capacity using baSetByIndex.induct index with
  | case1 capacity attached => exact absurd attached detached
  | case2 capacity _ inside =>
      rw [baSetByIndex, if_neg detached, if_pos inside]
      exact ⟨rfl, detached, whole⟩
  | case3 capacity _ outside full => simp only [BaIsAttached] at *; omega
  | case4 capacity _ outside room ih =>
      rw [baSetByIndex, if_neg detached, if_neg outside, if_neg room]
      exact ih room (by omega)

theorem baSetByIndex_high (capacity index : Nat) (high : 0x7ff8 ≤ index)
    (detached : ¬ BaIsAttached capacity) (whole : 8 ∣ capacity) :
    baSetByIndex capacity index = (false, 0x8000) := by
  induction capacity using baSetByIndex.induct index with
  | case1 capacity attached => exact absurd attached detached
  | case2 capacity _ inside => simp only [BaIsAttached] at *; omega
  | case3 capacity _ outside full =>
      rw [baSetByIndex, if_neg detached, if_neg outside, if_pos full]
      simp only [BaIsAttached] at *
      congr 1
      omega
  | case4 capacity _ outside room ih =>
      rw [baSetByIndex, if_neg detached, if_neg outside, if_neg room]
      exact ih room (by omega)

theorem numbers_concat (done : List m.Transfer) (c : m.Transfer) :
    numbers (done ++ [c]) = numbers done ++ [c.number] := by simp [numbers]

theorem overrun_concat (done : List m.Transfer) (c : m.Transfer) :
    Overrun (done ++ [c]) ↔ Overrun done ∨ 0x7ff8 ≤ c.number % 0x10000 := by
  simp only [Overrun, numbers_concat, List.mem_append, List.mem_singleton, or_and_right,
    exists_or, exists_eq_left]

theorem baSetByIndex_after {capacity grown : Nat} {done : List m.Transfer}
    (held : CapacityAfter capacity done grown) (c : m.Transfer) :
    ((baSetByIndex grown (c.number % 0x10000)).1 = true ↔
      c.number % 0x10000 < blockLimit capacity done) ∧
    CapacityAfter capacity (done ++ [c]) (baSetByIndex grown (c.number % 0x10000)).2 := by
  simp only [CapacityAfter, blockLimit] at held ⊢
  by_cases attached : BaIsAttached capacity
  · rw [if_pos attached] at held
    simp [attached, held, baSetByIndex_attached]
  rw [if_neg attached] at held
  simp only [if_neg attached]
  by_cases full : Overrun done
  · rw [if_pos full] at held
    rw [if_pos full, if_pos ((overrun_concat done c).mpr (.inl full)), held,
      baSetByIndex_attached (Nat.le_refl _)]
    simp
  · rw [if_neg full] at held
    have detached : ¬ BaIsAttached grown := by simp only [BaIsAttached]; omega
    rw [if_neg full]
    by_cases high : 0x7ff8 ≤ c.number % 0x10000
    · rw [baSetByIndex_high _ _ high detached held.2,
        if_pos ((overrun_concat done c).mpr (.inr high))]
      simp only [Bool.false_eq_true, false_iff, and_true]
      omega
    · have low := baSetByIndex_low grown (c.number % 0x10000) (by omega) detached held.2
      have still : ¬ Overrun (done ++ [c]) := by
        rw [overrun_concat]
        exact not_or.mpr ⟨full, high⟩
      rw [if_neg still]
      have bound := low.2.1
      simp only [BaIsAttached] at bound
      exact ⟨⟨fun _ => by omega, fun _ => low.1⟩, by omega, low.2.2⟩

/-- The number that is kept moves with the first missing one. -/
theorem inSequence_iff {i : ImageTransfer} {capacity : Nat} {done : List m.Transfer}
    (held : CapacityAfter capacity done i.capacity)
    (kept : FirstMissing done i.imageFirstNotTransferredBlockNumber.toNat) (c : m.Transfer) :
    FirstMissing (done ++ [c])
        (i.mark (UInt32.ofNat c.number)).imageFirstNotTransferredBlockNumber.toNat ↔
      InSequence capacity done c := by
  have bit := (baSetByIndex_after held c).1
  simp only [ImageTransfer.mark, toNat_number, FirstMissing, numbers_concat]
  by_cases recorded : c.number % 0x10000 < blockLimit capacity done
  · rw [if_pos (bit.mpr recorded), toNat_next]
    constructor
    · intro ⟨missing, least⟩
      refine ⟨fun _ => ⟨fun n before => ?_, fun again => ?_⟩, fun not => absurd recorded not⟩
      · by_contra absent
        have := least (a := n) (by simp; exact ⟨absent, by omega⟩)
        omega
      · exact missing (by simp [again])
    · intro sequence
      obtain ⟨before, next⟩ := sequence.recorded recorded
      refine ⟨by simp [next], fun n missing => ?_⟩
      simp only [Set.mem_ofPred_eq, List.mem_append, List.mem_singleton, not_or] at missing
      have := missing.1
      by_contra early
      exact missing.1 (before n (by omega))
  · rw [if_neg (fun taken => recorded (bit.mp taken))]
    constructor
    · intro still
      refine ⟨fun taken => absurd taken recorded, fun _ first => ?_⟩
      have same := kept.unique first
      exact still.1 (by simp [same])
    · intro sequence
      have other : i.imageFirstNotTransferredBlockNumber.toNat ≠ c.number := by
        intro same
        exact sequence.unrecorded recorded (same ▸ kept)
      refine ⟨by simpa [other] using kept.1, fun n missing => kept.2 ?_⟩
      simp only [Set.mem_ofPred_eq, List.mem_append, not_or] at missing
      exact missing.1

end FirstMissing

/-! ## All blocks -/

section Run
variable (pointerSize : Nat)

theorem overwrite_overwrite (file : List UInt8) {w v : List UInt8} (same : v.length = w.length) :
    overwrite (overwrite file w) v = overwrite file v := by
  rw [overwrite, overwrite, overwrite, same, List.drop_left]

/-- Only the last transfer is seen in the file. -/
def fileAfter (file : List UInt8) (calls : List m.Transfer) : List UInt8 :=
  (calls.getLast?.map fun c => overwrite file c.written).getD file

theorem fileAfter_concat (file : List UInt8) (calls : List m.Transfer) (c : m.Transfer) :
    fileAfter file (calls ++ [c]) = overwrite (fileAfter file calls) c.written := by
  simp only [fileAfter, List.getLast?_concat, Option.map_some, Option.getD_some]
  cases calls.getLast? with
  | none => rfl
  | some last =>
      rw [Option.map_some, Option.getD_some, overwrite_overwrite]
      rw [length_written, length_written]

theorem after_concat (i : ImageTransfer) (calls : List m.Transfer) (c : m.Transfer) :
    after pointerSize i (calls ++ [c]) =
      ImageTransfer.step pointerSize (after pointerSize i calls) c.call := by
  rw [after, List.map_append, Runs.run_append]
  rfl

structure During (capacity : Nat) (file : List UInt8) (calls : List m.Transfer)
    (t : ImageTransfer) : Prop where
  capacity : CapacityAfter capacity calls t.capacity
  image : t.image = some (fileAfter file calls)

theorem step_call {capacity : Nat} {file : List UInt8} {calls : List m.Transfer}
    {t : ImageTransfer} (during : During capacity file calls t) (c : m.Transfer) :
    ∃ t', ImageTransfer.step pointerSize (some t) c.call = some t' ∧
      During capacity file (calls ++ [c]) t' ∧
      t'.imageFirstNotTransferredBlockNumber =
        (t.mark (UInt32.ofNat c.number)).imageFirstNotTransferredBlockNumber := by
  refine ⟨_, rfl, ?_, ?_⟩
  · rw [blockTransfer_call t _ during.image c]
    refine ⟨?_, by rw [fileAfter_concat]⟩
    have grown := (baSetByIndex_after during.capacity c).2
    simpa only [ImageTransfer.mark, toNat_number] using grown
  · rw [blockTransfer_call t _ during.image c]

theorem after_during {capacity : Nat} {file : List UInt8} {i : ImageTransfer}
    (start : During capacity file ([] : List m.Transfer) i) (calls : List m.Transfer) :
    ∃ t, after pointerSize i calls = some t ∧ During capacity file calls t := by
  induction calls using List.reverseRecOn with
  | nil => exact ⟨i, rfl, start⟩
  | append_singleton calls c ih =>
      obtain ⟨t, reached, during⟩ := ih
      obtain ⟨t', next, during', _⟩ := step_call pointerSize during c
      exact ⟨t', by rw [after_concat, reached, next], during'⟩

theorem firstMissing_iff {capacity : Nat} {file : List UInt8} {i : ImageTransfer}
    (start : During capacity file ([] : List m.Transfer) i) (calls : List m.Transfer) :
    (∀ done, done <+: calls → ∃ t ∈ after pointerSize i done,
        FirstMissing done t.imageFirstNotTransferredBlockNumber.toNat) ↔
      i.imageFirstNotTransferredBlockNumber = 0 ∧
        ∀ done c, done ++ [c] <+: calls → InSequence capacity done c := by
  induction calls using List.reverseRecOn with
  | nil =>
      have least (n : Nat) : FirstMissing ([] : List m.Transfer) n ↔ n = 0 := by
        simp only [FirstMissing, numbers, List.map_nil, List.not_mem_nil, not_false_eq_true]
        exact ⟨fun h => Nat.le_zero.mp (h.2 trivial), fun zero => ⟨trivial, fun k _ => by omega⟩⟩
      constructor
      · intro all
        obtain ⟨t, reached, missing⟩ := all [] List.nil_prefix
        cases reached
        refine ⟨UInt32.toNat_inj.mp ((least _).mp missing), fun done c short => ?_⟩
        simp at short
      · rintro ⟨zero, -⟩ done short
        obtain rfl := List.prefix_nil.mp short
        exact ⟨i, rfl, (least _).mpr (by rw [zero]; rfl)⟩
  | append_singleton calls c ih =>
      obtain ⟨t, reached, during⟩ := after_during pointerSize start calls
      obtain ⟨t', next, _, kept⟩ := step_call pointerSize during c
      have last : after pointerSize i (calls ++ [c]) = some t' := by
        rw [after_concat, reached, next]
      constructor
      · intro all
        obtain ⟨zero, sequence⟩ := ih.mp fun done short =>
          all done (short.trans (List.prefix_append calls [c]))
        refine ⟨zero, fun done d short => ?_⟩
        rcases List.prefix_concat_iff.mp short with whole | short
        · obtain ⟨rfl, same⟩ := List.append_inj' whole rfl
          obtain rfl := List.singleton_inj.mp same
          obtain ⟨u, reached', before⟩ := all done (List.prefix_append done [d])
          obtain rfl := Option.some.inj (reached.symm.trans reached')
          obtain ⟨u', reached'', missing⟩ := all _ List.prefix_rfl
          obtain rfl := Option.some.inj (last.symm.trans reached'')
          rw [kept] at missing
          exact (inSequence_iff during.capacity before d).mp missing
        · exact sequence done d short
      · rintro ⟨zero, sequence⟩ done short
        have earlier := ih.mpr ⟨zero, fun done d short =>
          sequence done d (short.trans (List.prefix_append calls [c]))⟩
        rcases List.prefix_concat_iff.mp short with rfl | short
        · obtain ⟨u, reached', before⟩ := earlier calls List.prefix_rfl
          obtain rfl := Option.some.inj (reached.symm.trans reached')
          refine ⟨t', last, ?_⟩
          rw [kept]
          exact (inSequence_iff during.capacity before c).mpr (sequence calls c List.prefix_rfl)
        · exact earlier done short

end Run

/-! ## The file -/

theorem toNat_length : (UInt32.ofNat m.content.length).toNat = m.content.length :=
  UInt32.toNat_ofNat_of_lt' m.announceable

theorem getElem?_allocate (image : Option (List UInt8)) (size : UInt32) {k : Nat}
    (inside : k < (allocateImageTransfer image size).length) :
    (allocateImageTransfer image size)[k]? = some ((image.getD []).getD k 0) := by
  rw [allocateImageTransfer] at inside ⊢
  by_cases old : k < (image.getD []).length
  · rw [List.getElem?_append_left old, List.getD_eq_getElem?_getD, List.getElem?_eq_getElem old]
    rfl
  · have past : (image.getD []).length ≤ k := Nat.le_of_not_lt old
    simp only [List.length_append, List.length_replicate] at inside
    rw [List.getElem?_append_right past, List.getElem?_replicate, if_pos (by omega),
      List.getD_eq_getElem?_getD, List.getElem?_eq_none past]
    rfl

theorem length_allocate (image : Option (List UInt8)) :
    m.content.length ≤ (allocateImageTransfer image (UInt32.ofNat m.content.length)).length ∧
      ((allocateImageTransfer image (UInt32.ofNat m.content.length)).length ≤ m.content.length ↔
        (image.getD []).length ≤ m.content.length) := by
  have := m.announceable
  simp only [allocateImageTransfer, List.length_append, List.length_replicate, toNat_length]
  omega

theorem coincides_iff (image : Option (List UInt8)) (c : m.Transfer) :
    overwrite (allocateImageTransfer image (UInt32.ofNat m.content.length)) c.written =
        m.content ↔ Coincides (image.getD []) c := by
  obtain ⟨enough, fits⟩ := length_allocate (m := m) image
  have nine := length_written c
  rw [overwrite, nine]
  constructor
  · intro same
    have total : 9 + ((allocateImageTransfer image
        (UInt32.ofNat m.content.length)).length - 9) = m.content.length := by
      have := congrArg List.length same
      simpa only [List.length_append, List.length_drop, nine] using this
    have short := fits.mp (by omega)
    refine ⟨short, ?_, fun k late inside => ?_⟩
    · rw [← same, List.take_left' nine]
    · have there := congrArg (fun bytes : List UInt8 => bytes[k]?) same
      rw [List.getElem?_append_right (by omega), List.getElem?_drop, nine,
        Nat.add_sub_cancel' late] at there
      rw [← there, getElem?_allocate image _ (by omega)]
  · intro coincides
    have whole : 9 ≤ m.content.length := by
      have := congrArg List.length coincides.start
      rw [List.length_take, nine] at this
      omega
    have short := fits.mpr coincides.short
    rw [← coincides.start]
    conv_rhs => rw [← List.take_append_drop 9 m.content]
    congr 1
    apply List.ext_getElem?
    intro k
    rw [List.getElem?_drop, List.getElem?_drop]
    by_cases inside : 9 + k < m.content.length
    · rw [coincides.rest (9 + k) (by omega) inside, getElem?_allocate image _ (by omega)]
    · rw [List.getElem?_eq_none (by omega), List.getElem?_eq_none (by omega)]

/-! ## After a successful initiation -/

section Initiated
variable {pointerSize : Nat} {i i' : ImageTransfer} {e : ImageCall}

theorem Initiates.result (initiates : m.Initiates pointerSize i e i') :
    i' = { i with
      imageTransferStatus := .initiated
      capacity := baClear i.capacity
      imageActivateInfo := some (UInt32.ofNat m.content.length)
      image := some (allocateImageTransfer i.image (UInt32.ofNat m.content.length)) } := by
  have success := initiates.success
  rw [ImageTransfer.svrPreAction, if_pos initiates.index, ImageTransfer.initiate,
    initiates.announced] at success
  split_ifs at success
  exact (congrArg Prod.fst (Option.some.inj success)).symm

theorem Initiates.during (initiates : m.Initiates pointerSize i e i') :
    During i.capacity (allocateImageTransfer i.image (UInt32.ofNat m.content.length))
      ([] : List m.Transfer) i' := by
  rw [initiates.result]
  refine ⟨?_, rfl⟩
  have none : ¬ Overrun ([] : List m.Transfer) := by simp [Overrun, numbers]
  by_cases attached : BaIsAttached i.capacity
  · simp [CapacityAfter, baClear, attached]
  · simp [CapacityAfter, baClear, attached, none]

/-- Exactly when the image and the count of its blocks come out right. -/
theorem image_received_iff (initiates : m.Initiates pointerSize i e i')
    (calls : List m.Transfer) : Received pointerSize i' calls ↔ Fortunate i calls := by
  have start := initiates.during
  have missing := firstMissing_iff pointerSize start calls
  have number : i'.imageFirstNotTransferredBlockNumber =
      i.imageFirstNotTransferredBlockNumber := by rw [initiates.result]
  rw [number] at missing
  have content : Complete calls → ((∃ t ∈ after pointerSize i' calls, t.image = some m.content) ↔
      ∀ c ∈ calls.getLast?, Coincides (i.image.getD []) c) := by
    intro complete
    obtain ⟨t, reached, during⟩ := after_during pointerSize start calls
    have first : 0 ∈ numbers calls := complete 0 (by simpa using m.nonempty)
    obtain ⟨c, last⟩ : ∃ c, calls.getLast? = some c := by
      cases calls with
      | nil => simp [numbers] at first
      | cons c rest => exact ⟨_, List.getLast?_cons⟩
    simp only [reached, during.image, fileAfter, last, Option.mem_def, Option.some.injEq,
      exists_eq_left', forall_eq', Option.map_some, Option.getD_some]
    exact coincides_iff i.image c
  constructor
  · intro received
    obtain ⟨fresh, sequence⟩ := missing.mp received.firstMissing
    exact ⟨fresh, sequence, fun complete => (content complete).mp (received.content complete)⟩
  · intro fortunate
    exact ⟨fun complete => (content complete).mpr (fortunate.coincidence complete),
      missing.mpr ⟨fortunate.fresh, fortunate.sequence⟩⟩

end Initiated

def initiateCall (size : UInt32) : ImageCall where
  index := 1
  parameters := 0x02 :: 0x02 :: octetString [] ++ doubleLongUnsigned size
  beyond := fun _ => 0
  now := 0

def idle (image : Option (List UInt8)) : ImageTransfer where
  imageTransferStatus := .notInitiated
  imageFirstNotTransferredBlockNumber := 0
  capacity := 0
  imageActivateInfo := some 0
  image := image
  imageActionStartTime := 0

def initiated (m : FirmwareImage) (image : Option (List UInt8)) : ImageTransfer :=
  { idle image with
    imageTransferStatus := .initiated
    imageActivateInfo := some (UInt32.ofNat m.content.length)
    image := some (allocateImageTransfer image (UInt32.ofNat m.content.length)) }

def tensContent : List UInt8 := List.replicate 20 10

theorem tensContent_nonempty : 0 < tensContent.length := by simp [tensContent]

theorem tensContent_announceable : tensContent.length < 2 ^ 32 := by simp [tensContent]

theorem ten_positive : 0 < 10 := Nat.succ_pos 9

theorem zero_block : 0 < 2 := Nat.succ_pos 1

theorem one_block : 1 < 2 := Nat.lt_succ_self 1

/-- Two blocks of ten bytes of the value ten, which is also the length of a block. -/
def tens : FirmwareImage :=
  ⟨tensContent, 10, tensContent_nonempty, tensContent_announceable, ten_positive⟩

theorem tens_inside {n : Nat} (block : n < 2) : n * tens.blockSize < tens.content.length := by
  simp only [tens, tensContent, List.length_replicate]
  omega

def tensBlocks : List tens.Transfer :=
  [⟨0, tens_inside zero_block, 0, fun _ => 0⟩, ⟨1, tens_inside one_block, 0, fun _ => 0⟩]

theorem tens_received :
    tens.Initiates 8 (idle (some tens.content)) (initiateCall 20)
      (initiated tens (some tens.content)) ∧
    Received 8 (initiated tens (some tens.content)) tensBlocks := by
  have initiates : tens.Initiates 8 (idle (some tens.content)) (initiateCall 20)
      (initiated tens (some tens.content)) :=
    ⟨rfl, by decide +kernel, by decide +kernel⟩
  refine ⟨initiates, (image_received_iff initiates tensBlocks).mpr ⟨rfl, ?_, ?_⟩⟩
  · rintro (_ | ⟨d, _ | ⟨d', more⟩⟩) c short
    · obtain rfl : c = tensBlocks[0] := by simpa [tensBlocks] using short
      have below : 0 % 0x10000 < blockLimit 0 ([] : List tens.Transfer) := by decide +kernel
      exact ⟨fun _ => ⟨fun n before => absurd before (Nat.not_lt_zero n), by simp [numbers]⟩,
        fun not => absurd below not⟩
    · obtain ⟨rfl, rfl⟩ : d = tensBlocks[0] ∧ c = tensBlocks[1] := by
        simpa [tensBlocks] using short
      have below : 1 % 0x10000 < blockLimit 0 [tensBlocks[0]] := by decide +kernel
      exact ⟨fun _ => by simp [numbers, tensBlocks], fun not => absurd below not⟩
    · have := short.length_le
      simp [tensBlocks] at this
  · rintro _ c ⟨⟩
    refine ⟨by decide +kernel, by decide +kernel, fun k late inside => ?_⟩
    have bytes : ∀ k, k < 20 → tens.content[k]? = some (tens.content.getD k 0) := by
      intro k below
      simp [tens, tensContent, below]
    exact bytes k (by simpa [tens, tensContent] using inside)

def sixteenContent : List UInt8 := (List.range 16).map UInt8.ofNat

theorem sixteenContent_nonempty : 0 < sixteenContent.length := by simp [sixteenContent]

theorem sixteenContent_announceable : sixteenContent.length < 2 ^ 32 := by simp [sixteenContent]

theorem eight_positive : 0 < 8 := Nat.succ_pos 7

/-- Sixteen bytes in two blocks. -/
def sixteen : FirmwareImage :=
  ⟨sixteenContent, 8, sixteenContent_nonempty, sixteenContent_announceable, eight_positive⟩

theorem sixteen_inside {n : Nat} (block : n < 2) :
    n * sixteen.blockSize < sixteen.content.length := by
  simp only [sixteen, sixteenContent, List.length_map, List.length_range]
  omega

def sixteenBlocks : List sixteen.Transfer :=
  [⟨0, sixteen_inside zero_block, 0, fun _ => 0⟩, ⟨1, sixteen_inside one_block, 0, fun _ => 0⟩]

/-- Both blocks are sent in order, and the file holds the length and bytes of the second. -/
theorem image_not_received :
    sixteen.Initiates 8 (idle none) (initiateCall 16) (initiated sixteen none) ∧
    Complete sixteenBlocks ∧ ¬ Received 8 (initiated sixteen none) sixteenBlocks := by
  have initiates : sixteen.Initiates 8 (idle none) (initiateCall 16) (initiated sixteen none) :=
    ⟨rfl, by decide +kernel, by decide +kernel⟩
  have complete : Complete sixteenBlocks := by
    intro n inside
    have few : n = 0 ∨ n = 1 := by
      simp only [sixteen, sixteenContent, List.length_map, List.length_range] at inside
      omega
    rcases few with rfl | rfl <;> simp [numbers, sixteenBlocks]
  refine ⟨initiates, complete, fun received => ?_⟩
  obtain ⟨t, reached, whole⟩ := received.content complete
  obtain ⟨u, reached', during⟩ := after_during 8 initiates.during sixteenBlocks
  obtain rfl := Option.some.inj (reached'.symm.trans reached)
  have same := during.image.symm.trans whole
  revert same
  decide +kernel

end FirmwareImage
end DlmsGateway
