import DlmsGateway.Server.ImageTransfer

/-!
# When an image is verified and activated

The verification compares the length of the file with a size that is always
zero, and the activation looks only at the time since the last action.  What
happened since the last successful initiation is kept in a history.
-/
set_option autoImplicit false
namespace DlmsGateway

open ByteBuffer

/-- What happened since the last successful `image_transfer_initiate`. -/
structure ImageHistory where
  announced : Option UInt32
  transferred : List Nat
  verified : Bool

namespace ImageHistory

def start : ImageHistory := ⟨none, [], false⟩

variable (pointerSize : Nat)

/-- The outcome of a call is its error code and the status it leaves. -/
def note (h : ImageHistory) (i : Option ImageTransfer) (e : ImageCall) : ImageHistory :=
  match i.bind fun i => i.svrPreAction pointerSize e with
  | none => h
  | some (i', error) =>
      if e.index = 1 ∧ error = .ok then ⟨i'.imageActivateInfo, [], false⟩
      else if e.index = 2 ∧ error = .ok then
        { h with
          transferred := ((ImageTransfer.blockOf e.parameters).map (·.1.toNat)).toList ++
            h.transferred
          verified := false }
      else if e.index = 3 ∧ i'.imageTransferStatus = .verificationSuccessful then
        { h with verified := true }
      else h

/-- Every block of the announced size was transferred. -/
def Whole (blockSize : Nat) (h : ImageHistory) : Prop :=
  ∃ size ∈ h.announced, ∀ n, n * blockSize < size.toNat → n ∈ h.transferred

end ImageHistory

namespace ImageTransfer
variable {pointerSize : Nat} {i i' : ImageTransfer} {e : ImageCall} {error : ImageError}

/-- Not within five seconds of the last action. -/
def Late (i : ImageTransfer) (e : ImageCall) : Prop := 5 ≤ e.now - i.imageActionStartTime

/-! ## The status each method leaves -/

theorem status_initiate (acts : i.initiate pointerSize e = some (i', error)) :
    i'.imageTransferStatus = .notInitiated ∨ i'.imageTransferStatus = .initiated := by
  rw [initiate] at acts
  split_ifs at acts
  cases announced : announcedSize pointerSize e.parameters with
  | none =>
      rw [announced] at acts
      cases acts
      exact .inl rfl
  | some size =>
      rw [announced] at acts
      cases acts
      exact .inr rfl

theorem status_blockTransfer (i : ImageTransfer) (e : ImageCall) :
    (i.blockTransfer e).1.imageTransferStatus = i.imageTransferStatus := by
  rw [blockTransfer]
  cases blockOf e.parameters with
  | none => rfl
  | some found => cases present : i.image <;> rfl

theorem status_verify (i : ImageTransfer) (e : ImageCall) :
    (i.verify e).1.imageTransferStatus ≠ .activationSuccessful ∧
      ((i.verify e).1.imageTransferStatus = .verificationSuccessful ↔
        i.image = some [] ∧ i.Late e) := by
  rw [verify, Late, imageActivateInfoSize]
  cases present : i.image with
  | none => simp
  | some file =>
      by_cases empty : file.length = 0
      · have nil := List.length_eq_zero_iff.mp empty
        by_cases early : e.now - i.imageActionStartTime < 5
        · simp [nil, early]
        · simp [nil, early, Int.not_lt.mp early]
      · have some_byte : file ≠ [] := fun nil => empty (by rw [nil]; rfl)
        simp [some_byte]

theorem status_activate (i : ImageTransfer) (e : ImageCall) :
    (i.activate e).1.imageTransferStatus ≠ .verificationSuccessful ∧
      ((i.activate e).1.imageTransferStatus = .activationSuccessful ↔ i.Late e) := by
  rw [activate, Late]
  by_cases early : e.now - i.imageActionStartTime < 5
  · simp [early]
  · simp [early, Int.not_lt.mp early]

theorem activates_iff (acts : i.svrPreAction pointerSize e = some (i', error)) :
    i'.imageTransferStatus = .activationSuccessful ∧
        (e.index = 4 ∨ i.imageTransferStatus ≠ .activationSuccessful) ↔
      e.index = 4 ∧ i.Late e := by
  rcases svrPreAction_cases pointerSize acts with
    ⟨index, acts⟩ | ⟨index, acts⟩ | ⟨index, acts⟩ | ⟨index, acts⟩ | ⟨⟨_, _, _, index⟩, rfl⟩
  · rcases status_initiate acts with status | status <;> simp [index, status]
  · obtain rfl : i' = (i.blockTransfer e).1 := by rw [acts]
    simp [index, status_blockTransfer]
  · have status := (status_verify i e).1
    rw [acts] at status
    simp [index, status]
  · have status := (status_activate i e).2
    rw [acts] at status
    simp [index, status]
  · simp [index]

theorem verifies_iff (acts : i.svrPreAction pointerSize e = some (i', error)) :
    i'.imageTransferStatus = .verificationSuccessful ∧
        (e.index = 3 ∨ i.imageTransferStatus ≠ .verificationSuccessful) ↔
      e.index = 3 ∧ i.image = some [] ∧ i.Late e := by
  rcases svrPreAction_cases pointerSize acts with
    ⟨index, acts⟩ | ⟨index, acts⟩ | ⟨index, acts⟩ | ⟨index, acts⟩ | ⟨⟨_, _, index, _⟩, rfl⟩
  · rcases status_initiate acts with status | status <;> simp [index, status]
  · obtain rfl : i' = (i.blockTransfer e).1 := by rw [acts]
    simp [index, status_blockTransfer]
  · have status := (status_verify i e).2
    rw [acts] at status
    simp [index, status]
  · have status := (status_activate i e).1
    rw [acts] at status
    simp [index, status]
  · simp [index]

/-! ## The length of the file -/

theorem length_allocateImageTransfer (image : Option (List UInt8)) (size : UInt32) :
    size.toNat ≤ (allocateImageTransfer image size).length := by
  have := Nat.mod_le (image.getD []).length (2 ^ 32)
  simp only [allocateImageTransfer, List.length_append, List.length_replicate]
  omega

theorem length_overwrite (file written : List UInt8) :
    file.length ≤ (overwrite file written).length := by
  simp only [overwrite, List.length_append, List.length_drop]
  omega

def Allocated (i : ImageTransfer) (size : UInt32) : Prop :=
  ∃ file, i.image = some file ∧ size.toNat ≤ file.length

theorem allocated_initiate (acts : i.initiate pointerSize e = some (i', error)) :
    (error = .ok → ∀ size ∈ i'.imageActivateInfo, i'.Allocated size) ∧
      (error ≠ .ok → i'.image = i.image) := by
  rw [initiate] at acts
  split_ifs at acts
  cases announced : announcedSize pointerSize e.parameters with
  | none =>
      rw [announced] at acts
      cases acts
      exact ⟨fun ok => absurd ok (by simp), fun _ => rfl⟩
  | some size =>
      rw [announced] at acts
      cases acts
      refine ⟨fun _ other same => ?_, fun not => absurd rfl not⟩
      cases same
      exact ⟨_, rfl, length_allocateImageTransfer i.image size⟩

theorem allocated_blockTransfer {size : UInt32} (held : i.Allocated size) (e : ImageCall) :
    (i.blockTransfer e).1.Allocated size := by
  obtain ⟨file, present, long⟩ := held
  rw [blockTransfer]
  cases blockOf e.parameters with
  | none => exact ⟨file, present, long⟩
  | some found =>
      simp only [present]
      exact ⟨_, rfl, long.trans (length_overwrite file _)⟩

theorem image_verify (i : ImageTransfer) (e : ImageCall) : (i.verify e).1.image = i.image := by
  rw [verify]
  split
  · rfl
  · split_ifs <;> rfl

theorem image_activate (i : ImageTransfer) (e : ImageCall) :
    (i.activate e).1.image = i.image := by
  rw [activate]
  split_ifs <;> rfl

end ImageTransfer

abbrev ImageRun : Type := Option ImageTransfer × ImageHistory

namespace ImageRun
variable (pointerSize blockSize : Nat)

def step : ImageRun → ImageCall → ImageRun :=
  Runs.observed (ImageTransfer.step pointerSize) (ImageHistory.note pointerSize)

/-- The call leaves the object in `status`, and not because it was in it before. -/
def Becomes (status : ImageTransferStatus) (index : UInt8) (r : ImageRun) (e : ImageCall) : Prop :=
  ∃ i i', r.1 = some i ∧ ImageTransfer.step pointerSize r.1 e = some i' ∧
    i'.imageTransferStatus = status ∧ (e.index = index ∨ i.imageTransferStatus ≠ status)

structure Guarded (r : ImageRun) (e : ImageCall) : Prop where
  activation : Becomes pointerSize .activationSuccessful 4 r e → r.2.verified = true
  verification : Becomes pointerSize .verificationSuccessful 3 r e → r.2.Whole blockSize

/-- No late activation without a verification, and no late verification of an
empty file without an initiation. -/
structure Careful (r : ImageRun) (e : ImageCall) : Prop where
  activation : ∀ i ∈ r.1, e.index = 4 → i.Late e → r.2.verified = true
  verification : ∀ i ∈ r.1, e.index = 3 → i.image = some [] → i.Late e → r.2.announced ≠ none

section Guard
variable {pointerSize : Nat}

theorem becomes_iff {status : ImageTransferStatus} {index : UInt8} {r : ImageRun} {e : ImageCall}
    {Q : ImageTransfer → Prop}
    (exact : ∀ i i' error, i.svrPreAction pointerSize e = some (i', error) →
      (i'.imageTransferStatus = status ∧ (e.index = index ∨ i.imageTransferStatus ≠ status) ↔
        e.index = index ∧ Q i))
    (acts : e.index = index → ∀ i : ImageTransfer, i.svrPreAction pointerSize e ≠ none) :
    Becomes pointerSize status index r e ↔ ∃ i ∈ r.1, e.index = index ∧ Q i := by
  constructor
  · rintro ⟨i, i', here, next, status⟩
    simp only [here, ImageTransfer.step, Option.bind_some, Option.map_eq_some_iff] at next
    obtain ⟨⟨t, error⟩, acted, rfl⟩ := next
    exact ⟨i, here, (exact i t error acted).mp status⟩
  · rintro ⟨i, here, called, holds⟩
    obtain ⟨⟨i', error⟩, acted⟩ := Option.ne_none_iff_exists'.mp (acts called i)
    refine ⟨i, i', here, ?_, (exact i i' error acted).mpr ⟨called, holds⟩⟩
    rw [here, ImageTransfer.step, Option.bind_some, acted, Option.map_some]

variable (pointerSize) in
theorem becomes_activated_iff (r : ImageRun) (e : ImageCall) :
    Becomes pointerSize .activationSuccessful 4 r e ↔ ∃ i ∈ r.1, e.index = 4 ∧ i.Late e :=
  becomes_iff (fun _ _ _ acts => ImageTransfer.activates_iff acts)
    fun index i => by simp [ImageTransfer.svrPreAction, index]

variable (pointerSize) in
theorem becomes_verified_iff (r : ImageRun) (e : ImageCall) :
    Becomes pointerSize .verificationSuccessful 3 r e ↔
      ∃ i ∈ r.1, e.index = 3 ∧ i.image = some [] ∧ i.Late e :=
  becomes_iff (fun _ _ _ acts => ImageTransfer.verifies_iff acts)
    fun index i => by simp [ImageTransfer.svrPreAction, index]

theorem announced_note (h : ImageHistory) {i i' : ImageTransfer} {e : ImageCall}
    {error : ImageError} (acts : i.svrPreAction pointerSize e = some (i', error))
    (other : ¬ (e.index = 1 ∧ error = .ok)) :
    (h.note pointerSize (some i) e).announced = h.announced := by
  simp only [ImageHistory.note, Option.bind_some, acts, if_neg other]
  split_ifs <;> rfl

/-- After an initiation the file is never shorter than the announced image. -/
def Roomy (r : ImageRun) : Prop := ∀ i ∈ r.1, ∀ size ∈ r.2.announced, i.Allocated size

theorem roomy_step (r : ImageRun) (e : ImageCall) (held : Roomy r) :
    Roomy (step pointerSize r e) := by
  obtain ⟨i, h⟩ := r
  intro i' here size announced
  cases i with
  | none => exact absurd here (by simp [step, Runs.observed, ImageTransfer.step])
  | some i =>
  have before := held i rfl
  simp only [step, Runs.observed, ImageTransfer.step, Option.bind_some, Option.mem_def,
    Option.map_eq_some_iff] at here
  obtain ⟨⟨t, error⟩, acts, rfl⟩ := here
  simp only [step, Runs.observed] at announced
  by_cases initiated : e.index = 1 ∧ error = .ok
  · simp only [ImageHistory.note, Option.bind_some, acts, if_pos initiated] at announced
    rw [ImageTransfer.svrPreAction, if_pos initiated.1] at acts
    exact (ImageTransfer.allocated_initiate acts).1 initiated.2 size announced
  rw [announced_note h acts initiated] at announced
  have roomy := before size announced
  rcases ImageTransfer.svrPreAction_cases pointerSize acts with
    ⟨index, acts⟩ | ⟨_, acts⟩ | ⟨_, acts⟩ | ⟨_, acts⟩ | ⟨_, rfl⟩
  · have refused := (ImageTransfer.allocated_initiate acts).2 fun ok => initiated ⟨index, ok⟩
    simpa only [ImageTransfer.Allocated, refused] using roomy
  · obtain rfl : t = (i.blockTransfer e).1 := by rw [acts]
    exact ImageTransfer.allocated_blockTransfer roomy e
  · obtain rfl : t = (i.verify e).1 := by rw [acts]
    simpa only [ImageTransfer.Allocated, ImageTransfer.image_verify] using roomy
  · obtain rfl : t = (i.activate e).1 := by rw [acts]
    simpa only [ImageTransfer.Allocated, ImageTransfer.image_activate] using roomy
  · exact roomy

/-- The size of an empty file says that the announced image has no block. -/
theorem whole_iff {blockSize : Nat} {r : ImageRun} (held : Roomy r) {i : ImageTransfer}
    (here : i ∈ r.1) (empty : i.image = some []) :
    r.2.Whole blockSize ↔ r.2.announced ≠ none := by
  constructor
  · rintro ⟨size, announced, _⟩ none
    rw [none] at announced
    cases announced
  · intro some_size
    obtain ⟨size, announced⟩ := Option.ne_none_iff_exists'.mp some_size
    obtain ⟨file, present, long⟩ := held i here size announced
    cases empty.symm.trans present
    refine ⟨size, announced, fun n inside => ?_⟩
    exact absurd (lt_of_lt_of_le inside long) (Nat.not_lt_zero _)

theorem guarded_iff (blockSize : Nat) (r : ImageRun) (e : ImageCall) (held : Roomy r) :
    Guarded pointerSize blockSize r e ↔ Careful r e := by
  have activated := becomes_activated_iff pointerSize r e
  have verified := becomes_verified_iff pointerSize r e
  constructor
  · intro guarded
    refine ⟨fun i here index late => ?_, fun i here index empty late => ?_⟩
    · exact guarded.activation (activated.mpr ⟨i, here, index, late⟩)
    · exact (whole_iff held here empty).mp
        (guarded.verification (verified.mpr ⟨i, here, index, empty, late⟩))
  · intro careful
    refine ⟨fun becomes => ?_, fun becomes => ?_⟩
    · obtain ⟨i, here, index, late⟩ := activated.mp becomes
      exact careful.activation i here index late
    · obtain ⟨i, here, index, empty, late⟩ := verified.mp becomes
      exact (whole_iff held here empty).mpr (careful.verification i here index empty late)

/-- The guard holds along exactly the runs in which the client keeps it. -/
theorem activation_guarded_iff (blockSize : Nat) (i : ImageTransfer) (calls : List ImageCall) :
    Runs.Along (step pointerSize) (Guarded pointerSize blockSize) (some i, .start) calls ↔
      Runs.Along (step pointerSize) Careful (some i, .start) calls := by
  refine Runs.along_iff_of_invariant Roomy roomy_step (guarded_iff blockSize) calls _ ?_
  intro i here size announced
  cases announced

def fresh : ImageTransfer where
  imageTransferStatus := .notInitiated
  imageFirstNotTransferredBlockNumber := 0
  capacity := 0
  imageActivateInfo := none
  image := none
  imageActionStartTime := 0

def activateCall (now : Int) : ImageCall := ⟨4, [], fun _ => 0, now⟩

/-- The first call of all activates an image that was never announced. -/
theorem activated_unverified : ¬ Runs.Along (step 8) (Guarded 8 200) (some fresh, .start)
    [activateCall 1700000000] := by
  intro ⟨guarded, _⟩
  have becomes : Becomes 8 .activationSuccessful 4 (some fresh, .start)
      (activateCall 1700000000) := ⟨_, _, rfl, rfl, rfl, .inl rfl⟩
  exact absurd (guarded.activation becomes) (by simp [ImageHistory.start])

end Guard

end ImageRun
end DlmsGateway
