import DlmsGateway.Lib.BigEndian

/-!
# A value in a buffer that cannot grow

`cosem_getValue` appends a value with many small writes.  In a buffer attached
to an array `bb_allocate` fails behind its end; most callers look at the result
of a write and give up, but `var_setOctetString` and `var_getDateTime2` do not,
and `bb_setUInt16ByIndex` ignores `bb_allocate` itself.  So a value that is too
long fails, or loses the writes that found no room, or is written past the end,
where the bytes are taken to stay as written.
-/
set_option autoImplicit false
namespace DlmsGateway

inductive BufferWrite where
  /-- `bb_setUInt8`, `bb_setUInt32`, `bb_setUInt64`, `bb_set` -/
  | set (bytes : List UInt8)
  /-- `bb_setUInt16`, which writes in any case -/
  | uint16 (item : UInt16)

namespace BufferWrite

def encoded : BufferWrite → List UInt8
  | set bytes => bytes
  | uint16 item => BigEndian.encode 2 item.toNat

def Succeeds (capacity size : Nat) : BufferWrite → Prop
  | set bytes => bytes = [] ∨ size + bytes.length ≤ capacity
  | uint16 _ => True

instance (capacity size : Nat) : (w : BufferWrite) → Decidable (w.Succeeds capacity size)
  | set _ => inferInstanceAs (Decidable (_ ∨ _))
  | uint16 _ => .isTrue trivial

end BufferWrite

/-- A call that writes until a write fails; its caller looks at the result or not. -/
structure ValueCall where
  writes : List BufferWrite
  looked : Bool

namespace ValueCall

def encoded (call : ValueCall) : List UInt8 := call.writes.flatMap BufferWrite.encoded

end ValueCall

/-- What `cosem_getValue` does in a buffer that grows: it fails, appends nothing, or appends the type
and then the rest of the value. -/
inductive Getting where
  | fails
  | nothing
  | appends (type : UInt8) (calls : List ValueCall)

section Bounded
variable (capacity : Nat)

def writeAll : Nat → List BufferWrite → List UInt8 × Bool
  | _, [] => ([], true)
  | size, w :: rest =>
      if w.Succeeds capacity size then
        let (bytes, ok) := writeAll (size + w.encoded.length) rest
        (w.encoded ++ bytes, ok)
      else ([], false)

def appendCalls : Nat → List ValueCall → Option (List UInt8)
  | _, [] => some []
  | size, call :: rest =>
      let (bytes, ok) := writeAll capacity size call.writes
      if ok = false ∧ call.looked = true then none
      else (appendCalls (size + bytes.length) rest).map (bytes ++ ·)

/-- A write whose result is looked at finds no room. -/
def Refused : Nat → List ValueCall → Prop
  | _, [] => False
  | size, call :: rest =>
      let (bytes, ok) := writeAll capacity size call.writes
      (ok = false ∧ call.looked = true) ∨ Refused (size + bytes.length) rest

def lostBytes : Nat → List ValueCall → Nat
  | _, [] => 0
  | size, call :: rest =>
      let kept := (writeAll capacity size call.writes).1.length
      call.encoded.length - kept + lostBytes (size + kept) rest

end Bounded

def Getting.whole : Getting → Option (List UInt8)
  | fails => none
  | nothing => some []
  | appends type calls => some (type :: calls.flatMap ValueCall.encoded)

/-- The type and the bytes behind it in a buffer of `capacity` bytes.  With no byte at all there is
no number of bytes behind the type. -/
def Getting.stored (capacity : Nat) : Getting → Option (UInt8 × List UInt8)
  | fails => none
  | nothing => none
  | appends type calls => (appendCalls capacity 1 calls).map (type, ·)

/-! ## What is kept -/

section Kept
variable {capacity : Nat}

theorem length_writeAll (writes : List BufferWrite) : ∀ size,
    (writeAll capacity size writes).1.length ≤
      (writes.flatMap BufferWrite.encoded).length := by
  induction writes with
  | nil => intro size; exact Nat.le_refl _
  | cons w rest ih =>
      intro size
      have behind := ih (size + w.encoded.length)
      rw [writeAll, List.flatMap_cons, List.length_append]
      split
      · dsimp only
        rw [List.length_append]
        omega
      · exact Nat.zero_le _

theorem writeAll_of_room (writes : List BufferWrite) : ∀ size,
    size + (writes.flatMap BufferWrite.encoded).length ≤ capacity →
      writeAll capacity size writes = (writes.flatMap BufferWrite.encoded, true) := by
  induction writes with
  | nil => intro size _; rfl
  | cons w rest ih =>
      intro size room
      rw [List.flatMap_cons, List.length_append] at room
      have succeeds : w.Succeeds capacity size := by
        cases w with
        | set bytes =>
            have here : size + bytes.length ≤ capacity := by
              have same : (BufferWrite.set bytes).encoded = bytes := rfl
              rw [same] at room
              omega
            exact .inr here
        | uint16 item => exact trivial
      rw [writeAll, if_pos succeeds, ih _ (by omega), List.flatMap_cons]

theorem appendCalls_eq_none_iff (calls : List ValueCall) : ∀ size,
    appendCalls capacity size calls = none ↔ Refused capacity size calls := by
  induction calls with
  | nil => intro size; exact iff_of_false nofun id
  | cons call rest ih =>
      intro size
      rw [appendCalls, Refused]
      dsimp only
      by_cases fails : (writeAll capacity size call.writes).2 = false ∧ call.looked = true
      · rw [if_pos fails]
        exact iff_of_true rfl (.inl fails)
      · rw [if_neg fails, Option.map_eq_none_iff, ih, or_iff_right fails]

theorem length_appendCalls (calls : List ValueCall) : ∀ size kept,
    appendCalls capacity size calls = some kept →
      kept.length + lostBytes capacity size calls =
        (calls.flatMap ValueCall.encoded).length := by
  induction calls with
  | nil =>
      intro size kept done
      cases done
      rfl
  | cons call rest ih =>
      intro size kept done
      rw [appendCalls] at done
      dsimp only at done
      split at done
      · cases done
      · obtain ⟨behind, run, rfl⟩ := Option.map_eq_some_iff.mp done
        have written : (writeAll capacity size call.writes).1.length ≤
            (call.writes.flatMap BufferWrite.encoded).length := length_writeAll call.writes size
        have others := ih _ behind run
        have whole : call.encoded.length =
            (call.writes.flatMap BufferWrite.encoded).length := rfl
        rw [lostBytes, List.flatMap_cons, List.length_append, List.length_append]
        omega

theorem lostBytes_le (calls : List ValueCall) : ∀ size,
    lostBytes capacity size calls ≤ (calls.flatMap ValueCall.encoded).length := by
  induction calls with
  | nil => intro size; exact Nat.le_refl _
  | cons call rest ih =>
      intro size
      have behind := ih (size + (writeAll capacity size call.writes).1.length)
      rw [lostBytes, List.flatMap_cons, List.length_append]
      omega

theorem kept_of_room (calls : List ValueCall) : ∀ size,
    size + (calls.flatMap ValueCall.encoded).length ≤ capacity →
      ¬ Refused capacity size calls ∧ lostBytes capacity size calls = 0 := by
  induction calls with
  | nil => intro size _; exact ⟨id, rfl⟩
  | cons call rest ih =>
      intro size room
      rw [List.flatMap_cons, List.length_append] at room
      have written : writeAll capacity size call.writes = (call.encoded, true) :=
        writeAll_of_room call.writes size
          (Nat.le_trans (Nat.add_le_add_left (Nat.le_add_right _ _) _) room)
      obtain ⟨taken, kept⟩ := ih (size + call.encoded.length) (by omega)
      rw [Refused, lostBytes, written]
      refine ⟨?_, ?_⟩
      · rintro (⟨failed, -⟩ | refused)
        · exact absurd failed (by decide)
        · exact taken refused
      · show call.encoded.length - call.encoded.length + _ = 0
        rw [Nat.sub_self, Nat.zero_add]
        exact kept

end Kept

/-! ## The value of a variant -/

/-- A `dlmsVARIANT`: a value that is written at once, a number of sixteen bits, strings, and
structures and arrays. -/
inductive Variant where
  | plain (type : UInt8) (data : List UInt8)
  | word (type : UInt8) (item : UInt16)
  | octetString (bytes : List UInt8)
  | string (bytes : List UInt8)
  | elements (type : UInt8) (values : List Variant)

/-- `hlp_setObjectCount` -/
def objectCountWrites (count : Nat) : List BufferWrite :=
  if count < 0x80 then [.set [UInt8.ofNat count]]
  else if count < 0x100 then [.set [0x81], .set [UInt8.ofNat count]]
  else if count < 0x10000 then [.set [0x82], .uint16 (UInt16.ofNat count)]
  else [.set [0x84], .set (BigEndian.encode 4 count)]

namespace Variant

def type : Variant → UInt8
  | plain type _ => type
  | word type _ => type
  | octetString _ => 9
  | string _ => 10
  | elements type _ => type

mutual

/-- `var_getBytes3` behind the type. -/
def calls : Variant → List ValueCall
  | plain _ data => [⟨[.set data], true⟩]
  | word _ item => [⟨[.uint16 item], true⟩]
  | octetString bytes => [⟨objectCountWrites bytes.length, false⟩, ⟨[.set bytes], false⟩]
  | string bytes => [⟨objectCountWrites bytes.length, true⟩, ⟨[.set bytes], true⟩]
  | elements _ values => ⟨objectCountWrites values.length, true⟩ :: elementCalls values

def elementCalls : List Variant → List ValueCall
  | [] => []
  | v :: values => ⟨[.set [v.type]], true⟩ :: v.calls ++ elementCalls values

end

def getting (v : Variant) : Getting := .appends v.type v.calls

end Variant

/-- An octet string of 99 bytes is stored as its length alone. -/
example : (Variant.octetString (.replicate 99 0)).getting.stored 100 = some (9, [99]) := by
  decide +kernel

/-- A structure of 33 numbers takes 101 bytes, the last one behind the buffer. -/
example :
    ((Variant.elements 2 (.replicate 33 (.word 18 7))).getting.stored 100).map
      (fun p => p.1 :: p.2) =
      (Variant.elements 2 (.replicate 33 (.word 18 7))).getting.whole := by
  decide +kernel

end DlmsGateway
