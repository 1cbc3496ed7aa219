import DlmsGateway.Lib.Crc

/-!
# HDLC frames of format type 3

Between two flags a frame carries its format field with the length in eleven
bits, the two addresses, the control byte and the information, with a check
sequence behind the header and one behind everything.  Without information
there is only the second.

A number is written as an address in groups of seven bits, the highest first,
each above the bit that says whether the address goes on.  The control field has
from the top the number of the next frame that is waited for, the poll bit, the
number of this frame, and a bit that is clear in an information frame; both
numbers count modulo eight.
-/
set_option autoImplicit false
namespace Hdlc

/-- An address in which the last byte, and no other, has its low bit set. -/
structure Address where
  front : List UInt8
  last : UInt8
  continues : ∀ b ∈ front, b.toNat % 2 = 0
  ends : last.toNat % 2 = 1

def Address.bytes (a : Address) : List UInt8 := a.front ++ [a.last]

theorem continues_nil : ∀ b ∈ ([] : List UInt8), b.toNat % 2 = 0 := List.forall_mem_nil _

def Address.ofNumber (n : Nat) : Address where
  front := []
  last := UInt8.ofNat (2 * n + 1)
  continues := continues_nil
  ends := by
    rw [UInt8.toNat_ofNat']
    omega

/-- The number in some address bytes, seven bits a byte. -/
def number (bytes : List UInt8) : Nat := bytes.foldl (fun n b => 128 * n + b.toNat / 2) 0

/-- The first half of a server's address, its logical device. -/
def Address.upper (a : Address) : List UInt8 := a.bytes.take (a.bytes.length / 2)

/-- The second half, the physical device. -/
def Address.lower (a : Address) : List UInt8 := a.bytes.drop (a.bytes.length / 2)

@[simp] theorem number_one (b : UInt8) : number [b] = b.toNat / 2 := by
  simp [number]

@[simp] theorem number_two (b c : UInt8) : number [b, c] = 128 * (b.toNat / 2) + c.toNat / 2 := by
  simp [number]

@[simp] theorem number_four (b c d e : UInt8) :
    number [b, c, d, e] =
      128 * (128 * (128 * (b.toNat / 2) + c.toNat / 2) + d.toNat / 2) + e.toNat / 2 := by
  simp [number]

/-! ## Numbers as addresses -/

/-- The lower groups of seven bits, each in a byte with its low bit clear. -/
def groups : Nat → Nat → List UInt8
  | 0, _ => []
  | len + 1, n => UInt8.ofNat (2 * (n / 128 ^ (len + 1) % 128)) :: groups len n

theorem groups_continue (len n : Nat) : ∀ b ∈ groups len n, b.toNat % 2 = 0 := by
  induction len with
  | zero => exact continues_nil
  | succ len ih =>
      intro b member
      cases member with
      | head =>
          rw [UInt8.toNat_ofNat']
          omega
      | tail _ member => exact ih b member

def Address.sized (len n : Nat) : Address where
  front := groups len n
  last := UInt8.ofNat (2 * (n % 128) + 1)
  continues := groups_continue len n
  ends := by
    rw [UInt8.toNat_ofNat']
    omega

@[simp] theorem length_groups (len n : Nat) : (groups len n).length = len := by
  induction len with
  | zero => rfl
  | succ len ih => rw [groups, List.length_cons, ih]

@[simp] theorem length_sized (len n : Nat) : (Address.sized len n).bytes.length = len + 1 := by
  rw [Address.bytes, List.length_append, List.length_singleton]
  exact congrArg (· + 1) (length_groups len n)

theorem foldl_groups (len n : Nat) :
    ∀ high, (groups len n).foldl (fun n b => 128 * n + b.toNat / 2) high =
      high * 128 ^ len + n / 128 % 128 ^ len := by
  induction len with
  | zero => intro high; simp [groups, Nat.mod_one]
  | succ len ih =>
      intro high
      have digit : (UInt8.ofNat (2 * (n / 128 ^ (len + 1) % 128))).toNat / 2 =
          n / 128 / 128 ^ len % 128 := by
        rw [UInt8.toNat_ofNat', Nat.div_div_eq_div_mul, Nat.pow_succ, Nat.mul_comm 128]
        omega
      calc (groups (len + 1) n).foldl (fun n b => 128 * n + b.toNat / 2) high
          = (groups len n).foldl (fun n b => 128 * n + b.toNat / 2)
              (128 * high + n / 128 / 128 ^ len % 128) := by
            rw [← digit]
            rfl
        _ = (128 * high + n / 128 / 128 ^ len % 128) * 128 ^ len + n / 128 % 128 ^ len := ih _
        _ = high * 128 ^ (len + 1) + n / 128 % 128 ^ (len + 1) := by
            rw [Nat.pow_succ, Nat.mod_mul]
            grind

theorem number_sized (len n : Nat) :
    number (Address.sized len n).bytes = n % 128 ^ (len + 1) := by
  have last : (UInt8.ofNat (2 * (n % 128) + 1)).toNat / 2 = n % 128 := by
    rw [UInt8.toNat_ofNat']
    omega
  have all : number (Address.sized len n).bytes =
      128 * (groups len n).foldl (fun n b => 128 * n + b.toNat / 2) 0 +
        (UInt8.ofNat (2 * (n % 128) + 1)).toNat / 2 := List.foldl_concat _ _ _ _
  rw [all, foldl_groups, last, Nat.zero_mul, Nat.zero_add, Nat.pow_succ', Nat.mod_mul, Nat.add_comm]

/-! ## The control field -/

def waitedNumber (control : UInt8) : Nat := control.toNat / 32
def pollBit (control : UInt8) : Nat := control.toNat / 16 % 2
def ownNumber (control : UInt8) : Nat := control.toNat / 2 % 8
def lowBit (control : UInt8) : Nat := control.toNat % 2

theorem ownNumber_lt (control : UInt8) : ownNumber control < 8 := Nat.mod_lt _ (by decide)

theorem toNat_control (control : UInt8) :
    control.toNat = 32 * waitedNumber control + 16 * pollBit control + 2 * ownNumber control +
      lowBit control := by
  simp only [waitedNumber, pollBit, ownNumber, lowBit]
  omega

theorem control_eq_iff (a b : UInt8) :
    a = b ↔ waitedNumber a = waitedNumber b ∧ pollBit a = pollBit b ∧
      ownNumber a = ownNumber b ∧ lowBit a = lowBit b := by
  constructor
  · intro same
    subst same
    exact ⟨rfl, rfl, rfl, rfl⟩
  · intro parts
    obtain ⟨received, poll, sent, low⟩ := parts
    rw [← UInt8.toNat_inj, toNat_control a, toNat_control b, received, poll, sent, low]

theorem lowBit_eq_zero_iff (control : UInt8) : lowBit control = 0 ↔ control &&& 0x1 = 0 := by
  rw [← UInt8.toNat_inj, UInt8.toNat_and, lowBit]
  exact iff_of_eq (congrArg (· = 0) (Nat.and_one_is_mod control.toNat).symm)

theorem forall_byte {P : UInt8 → Prop} (all : ∀ b : Fin 256, P (.ofFin b)) (b : UInt8) : P b :=
  all b.toFin

/-! ## Frames -/

/-- The check sequence over some bytes: width 16, all ones at the start, complemented. -/
def fcs (bytes : List UInt8) : BitVec 16 :=
  ~~~ Crc.after 0x8408#16 0xFFFF#16 (bytes.map UInt8.toBitVec)

/-- The low byte goes first. -/
def checkSequence (bytes : List UInt8) : List UInt8 :=
  [.ofBitVec ((fcs bytes).setWidth 8), .ofBitVec ((fcs bytes >>> 8).setWidth 8)]

/-- The register that a receiver has behind any bytes with their check sequence. -/
theorem after_checkSequence (bytes : List UInt8) :
    Crc.after 0x8408#16 0xFFFF#16 ((bytes ++ checkSequence bytes).map UInt8.toBitVec) =
      0xF0B8#16 := by
  have sent : (checkSequence bytes).map UInt8.toBitVec = Crc.wordBytes 2 (fcs bytes) := rfl
  rw [List.map_append, Crc.after_append, sent, fcs, Crc.after_complement _ (Nat.le_refl 16)]
  decide +kernel

/-- Format type 3 without segmentation. -/
def formatField (length : Nat) : List UInt8 := [.ofNat (0xA0 + length / 256), .ofNat length]

structure Frame where
  destination : Address
  source : Address
  control : UInt8
  information : List UInt8

namespace Frame
variable (f : Frame)

/-- The number of bytes between the flags. -/
def length : Nat :=
  f.destination.bytes.length + f.source.bytes.length + 5 +
    if f.information = [] then 0 else f.information.length + 2

def header : List UInt8 :=
  formatField f.length ++ (f.destination.bytes ++ (f.source.bytes ++ [f.control]))

def body : List UInt8 :=
  if f.information = [] then f.header
  else f.header ++ (checkSequence f.header ++ f.information)

def bytes : List UInt8 := [0x7E] ++ (f.body ++ (checkSequence f.body ++ [0x7E]))

theorem length_header :
    f.header.length = f.destination.bytes.length + f.source.bytes.length + 3 := by
  simp only [header, formatField, List.length_append, List.length_cons, List.length_nil]
  omega

theorem length_body : f.body.length + 2 = f.length := by
  have header := f.length_header
  rw [body, length]
  split
  · omega
  · simp only [checkSequence, List.length_append, List.length_cons, List.length_nil]
    omega

theorem length_bytes : f.bytes.length = f.length + 2 := by
  have body := f.length_body
  simp only [bytes, checkSequence, List.length_append, List.length_cons, List.length_nil]
  omega

end Frame

/-! ## Segments -/

/-- A frame with the segmentation bit, which announces that the information goes on in the next
frame, or without it. -/
structure SegmentFrame where
  more : Bool
  destination : Address
  source : Address
  control : UInt8
  information : List UInt8

namespace SegmentFrame
variable (f : SegmentFrame)

def length : Nat :=
  f.destination.bytes.length + f.source.bytes.length + 5 +
    if f.information = [] then 0 else f.information.length + 2

def format : List UInt8 :=
  [.ofNat ((if f.more then 0xA8 else 0xA0) + f.length / 256), .ofNat f.length]

def header : List UInt8 :=
  f.format ++ (f.destination.bytes ++ (f.source.bytes ++ [f.control]))

def body : List UInt8 :=
  if f.information = [] then f.header
  else f.header ++ (checkSequence f.header ++ f.information)

def bytes : List UInt8 := [0x7E] ++ (f.body ++ (checkSequence f.body ++ [0x7E]))

@[simp] theorem length_checkSequence (bytes : List UInt8) : (checkSequence bytes).length = 2 := rfl

theorem length_header :
    f.header.length = f.destination.bytes.length + f.source.bytes.length + 3 := by
  simp only [header, format, List.length_append, List.length_cons, List.length_nil]
  omega

theorem length_body : f.body.length + 2 = f.length := by
  have header := f.length_header
  rw [body, length]
  split
  · omega
  · simp only [length_checkSequence, List.length_append]
    omega

theorem length_bytes : f.bytes.length = f.length + 2 := by
  have body := f.length_body
  simp only [bytes, length_checkSequence, List.length_append, List.length_cons, List.length_nil]
  omega

/-- What is behind the header's check sequence. -/
def tail : List UInt8 :=
  if f.information = [] then [0x7E] else f.information ++ (checkSequence f.body ++ [0x7E])

theorem bytes_eq :
    f.bytes = 0x7E :: (f.header ++ (checkSequence f.header ++ f.tail)) := by
  rw [bytes, tail, body]
  split
  · rfl
  · simp only [List.append_assoc, List.singleton_append]

end SegmentFrame

end Hdlc
