import DlmsGateway.Gateway.Crc
import DlmsGateway.Lib.BitFields
import DlmsGateway.Lib.Hdlc
import DlmsGateway.Server.ByteBuffer
import DlmsGateway.Server.FrameSequence
import Mathlib.Tactic.ByContra

/-!
# HDLC addresses of the DLMS stack

`dlms_getAddress` and `dlms_getAddressBytes` write an address with seven bits a
byte, `dlms_getHDLCAddress` reads one of one, two or four bytes.
-/
set_option autoImplicit false
namespace DlmsGateway.HdlcLink

open Hdlc ByteBuffer BitFields

/-- The members of `DLMS_ERROR_CODE` that the HDLC functions return. -/
inductive ErrorCode where
  /-- `DLMS_ERROR_CODE_FALSE` -/
  | notForUs
  | outOfMemory
  | invalidParameter
  | invalidClientAddress
  | invalidServerAddress
  | invalidFrameNumber
  | wrongCrc
  | rejected
deriving DecidableEq

/-- The loop of `dlms_getHDLCAddress`: the bytes up to the first odd one. -/
def addressSize : List UInt8 → Nat
  | [] => 0
  | ch :: rest => if ch &&& 0x1 = 1 then 1 else addressSize rest + 1

/-- The bytes from the position of a buffer of fewer than 65536, whose index has 16 bits. -/
def dlmsGetHDLCAddress (checkClientAddress : Bool) (bytes : List UInt8) :
    Except ErrorCode (UInt32 × List UInt8) :=
  let size := addressSize bytes
  if checkClientAddress ∧ size ≠ 1 then .error .invalidClientAddress
  else if size = 1 then
    match bbGetUInt8 bytes with
    | none => .error .outOfMemory
    | some (ch, rest) => .ok (((ch &&& 0xFE) >>> 1).toUInt32, rest)
  else if size = 2 then
    match bbGetUInt16 bytes with
    | none => .error .outOfMemory
    | some (s, rest) => .ok (((s &&& 0xFE) >>> 1 ||| (s &&& 0xFE00) >>> 2).toUInt32, rest)
  else if size = 4 then
    match bbGetUInt32 bytes with
    | none => .error .outOfMemory
    | some (l, rest) =>
        .ok ((l &&& 0xFE) >>> 1 ||| (l &&& 0xFE00) >>> 2 ||| (l &&& 0xFE0000) >>> 3 |||
          (l &&& 0xFE000000) >>> 4, rest)
  else .error .invalidParameter

/-- `dlms_getAddress`, whose value is signed: the address and its size. -/
def dlmsGetAddress (value : UInt32) : Option (UInt32 × Nat) :=
  if value.toInt32 < 0x80 then some ((value <<< 1 ||| 1).toUInt8.toUInt32, 1)
  else if value.toInt32 < 0x4000 then
    some (((value &&& 0x3F80) <<< 2 ||| (value &&& 0x7F) <<< 1 ||| 1).toUInt16.toUInt32, 2)
  else if value.toInt32 < 0x10000000 then
    some ((value &&& 0xFE00000) <<< 4 ||| (value &&& 0x1FC000) <<< 3 ||| (value &&& 0x3F80) <<< 2 |||
      (value &&& 0x7F) <<< 1 ||| 1, 4)
  else none

def dlmsGetAddressBytes (value : UInt32) : Option (List UInt8) :=
  (dlmsGetAddress value).map fun (address, size) => BigEndian.encode size address.toNat

/-! ## Writing -/

section Written
variable (value : UInt32)

theorem toInt32_lt_iff (bound : Int32) (positive : 0 ≤ bound.toInt) :
    value.toInt32 < bound ↔ (value.toNat : Int) < bound.toInt ∨ 2 ^ 31 ≤ value.toNat := by
  have signed : value.toInt32.toInt = value.toBitVec.toInt := rfl
  have unsigned : value.toBitVec.toNat = value.toNat := rfl
  have below := value.toNat_lt
  rw [Int32.lt_iff_toInt_lt, signed, BitVec.toInt_eq_toNat_cond, unsigned]
  split <;> omega

theorem toNat_address_one :
    (value <<< 1 ||| 1).toUInt8.toUInt32.toNat = 2 * (value.toNat % 128) + 1 := by
  have low : value.toNat * 2 % 2 ^ 32 ||| 1 = value.toNat * 2 % 2 ^ 32 + 1 :=
    or_fields 1 (by omega) (by decide)
  simp only [UInt8.toNat_toUInt32, UInt32.toNat_toUInt8, UInt32.toNat_or, UInt32.toNat_shiftLeft,
    Nat.shiftLeft_eq]
  show (value.toNat * 2 % 2 ^ 32 ||| 1) % 2 ^ 8 = _
  rw [low]
  omega

/-- The groups of the lower fourteen bits. -/
theorem toNat_address_two :
    ((value &&& 0x3F80) <<< 2 ||| (value &&& 0x7F) <<< 1 ||| 1).toUInt16.toUInt32.toNat =
      512 * (value.toNat / 128 % 128) + 2 * (value.toNat % 128) + 1 := by
  have upper : (value.toNat &&& 0x3F80) * 4 % 2 ^ 32 = 512 * (value.toNat / 128 % 128) := by
    rw [and_shiftedMask 0x3F80 7 7 rfl]
    omega
  have lower : (value.toNat &&& 0x7F) * 2 % 2 ^ 32 = 2 * (value.toNat % 128) := by
    rw [and_shiftedMask 0x7F 7 0 rfl]
    omega
  have both : 512 * (value.toNat / 128 % 128) ||| 2 * (value.toNat % 128) =
      512 * (value.toNat / 128 % 128) + 2 * (value.toNat % 128) :=
    or_fields 9 (by omega) (by omega)
  simp only [UInt16.toNat_toUInt32, UInt32.toNat_toUInt16, UInt32.toNat_or, UInt32.toNat_and,
    UInt32.toNat_shiftLeft, Nat.shiftLeft_eq]
  show ((value.toNat &&& 0x3F80) * 4 % 2 ^ 32 ||| (value.toNat &&& 0x7F) * 2 % 2 ^ 32 ||| 1) % 2 ^ 16
    = _
  rw [upper, lower, both, or_fields 1 (by omega) (by decide)]
  omega

theorem toNat_address_four :
    ((value &&& 0xFE00000) <<< 4 ||| (value &&& 0x1FC000) <<< 3 ||| (value &&& 0x3F80) <<< 2 |||
      (value &&& 0x7F) <<< 1 ||| 1).toNat =
      33554432 * (value.toNat / 2097152 % 128) + 131072 * (value.toNat / 16384 % 128) +
        512 * (value.toNat / 128 % 128) + 2 * (value.toNat % 128) + 1 := by
  let a := 33554432 * (value.toNat / 2097152 % 128)
  let b := 131072 * (value.toNat / 16384 % 128)
  let c := 512 * (value.toNat / 128 % 128)
  let d := 2 * (value.toNat % 128)
  have first : (value.toNat &&& 0xFE00000) * 16 % 2 ^ 32 = a := by
    rw [and_shiftedMask 0xFE00000 7 21 rfl]
    omega
  have second : (value.toNat &&& 0x1FC000) * 8 % 2 ^ 32 = b := by
    rw [and_shiftedMask 0x1FC000 7 14 rfl]
    omega
  have third : (value.toNat &&& 0x3F80) * 4 % 2 ^ 32 = c := by
    rw [and_shiftedMask 0x3F80 7 7 rfl]
    omega
  have fourth : (value.toNat &&& 0x7F) * 2 % 2 ^ 32 = d := by
    rw [and_shiftedMask 0x7F 7 0 rfl]
    omega
  have two : a ||| b = a + b := or_fields 25 (by omega) (by omega)
  have three : a + b ||| c = a + b + c := or_fields 17 (by omega) (by omega)
  have four : a + b + c ||| d = a + b + c + d := or_fields 9 (by omega) (by omega)
  simp only [UInt32.toNat_or, UInt32.toNat_and, UInt32.toNat_shiftLeft, Nat.shiftLeft_eq]
  show (value.toNat &&& 0xFE00000) * 16 % 2 ^ 32 ||| (value.toNat &&& 0x1FC000) * 8 % 2 ^ 32 |||
    (value.toNat &&& 0x3F80) * 4 % 2 ^ 32 ||| (value.toNat &&& 0x7F) * 2 % 2 ^ 32 ||| 1 =
    a + b + c + d + 1
  rw [first, second, third, fourth, two, three, four]
  exact or_fields 1 (by omega) (by decide)

end Written

/-- The size of the shortest address, one less than its bytes. -/
def groupsBefore (value : UInt32) : Nat :=
  if value.toNat < 0x80 then 0 else if value.toNat < 0x4000 then 1 else 3

theorem ofNat_byte {m n : Nat} (same : m % 256 = n % 256) : UInt8.ofNat m = UInt8.ofNat n := by
  rw [← UInt8.toNat_inj, UInt8.toNat_ofNat', UInt8.toNat_ofNat']
  exact same

theorem encode_groups {a b c d : Nat} (second : b < 128) (third : c < 128) (fourth : d < 128) :
    BigEndian.encode 4 (33554432 * a + 131072 * b + 512 * c + 2 * d + 1) =
      [.ofNat (2 * a), .ofNat (2 * b), .ofNat (2 * c), .ofNat (2 * d + 1)] := by
  show [UInt8.ofNat (_ / 16777216), .ofNat (_ / 65536), .ofNat (_ / 256), .ofNat (_ / 1)] = _
  rw [ofNat_byte (m := _ / 16777216) (n := 2 * a) (by omega),
    ofNat_byte (m := _ / 65536) (n := 2 * b) (by omega),
    ofNat_byte (m := _ / 256) (n := 2 * c) (by omega),
    ofNat_byte (m := _ / 1) (n := 2 * d + 1) (by omega)]

theorem bytes_of_address {value address : UInt32} {size n : Nat}
    (found : dlmsGetAddress value = some (address, size)) (number : address.toNat = n) :
    dlmsGetAddressBytes value = some (BigEndian.encode size n) := by
  rw [dlmsGetAddressBytes, found, ← number]
  rfl

/-- Every address up to 28 bits is written in seven-bit groups. -/
theorem dlmsGetAddressBytes_of_lt {value : UInt32} (fits : value.toNat < 2 ^ 28) :
    dlmsGetAddressBytes value = some (Address.sized (groupsBefore value) value.toNat).bytes := by
  have one := toInt32_lt_iff value 0x80 (by decide)
  have two := toInt32_lt_iff value 0x4000 (by decide)
  have four := toInt32_lt_iff value 0x10000000 (by decide)
  rw [show (0x80 : Int32).toInt = 0x80 from rfl] at one
  rw [show (0x4000 : Int32).toInt = 0x4000 from rfl] at two
  rw [show (0x10000000 : Int32).toInt = 0x10000000 from rfl] at four
  by_cases short : value.toNat < 0x80
  · have written := bytes_of_address (if_pos (one.mpr (.inl (by omega)))) (toNat_address_one value)
    rw [written, groupsBefore, if_pos short]
    apply congrArg some
    show [UInt8.ofNat _] = [UInt8.ofNat _]
    rw [Nat.pow_zero, Nat.div_one]
  · have long : ¬ value.toInt32 < 0x80 := fun below => absurd (one.mp below) (by omega)
    by_cases middle : value.toNat < 0x4000
    · have written := bytes_of_address ((if_neg long).trans (if_pos (two.mpr (.inl (by omega)))))
        (toNat_address_two value)
      rw [written, groupsBefore, if_neg short, if_pos middle]
      apply congrArg some
      show [UInt8.ofNat _, UInt8.ofNat _] = [UInt8.ofNat _, UInt8.ofNat _]
      rw [ofNat_byte (m := _ / 256 ^ 1) (n := 2 * (value.toNat / 128 ^ 1 % 128)) (by omega),
        ofNat_byte (m := _ / 256 ^ 0) (n := 2 * (value.toNat % 128) + 1) (by omega)]
    · have longer : ¬ value.toInt32 < 0x4000 := fun below => absurd (two.mp below) (by omega)
      have written := bytes_of_address
        ((if_neg long).trans ((if_neg longer).trans (if_pos (four.mpr (.inl (by omega))))))
        (toNat_address_four value)
      rw [written, groupsBefore, if_neg short, if_neg middle]
      apply congrArg some
      exact encode_groups (Nat.mod_lt _ (by decide)) (Nat.mod_lt _ (by decide))
        (Nat.mod_lt _ (by decide))

/-! ## Reading -/

theorem addressSize_bytes (a : Address) (rest : List UInt8) :
    addressSize (a.bytes ++ rest) = a.bytes.length := by
  have loop : ∀ front : List UInt8, (∀ b ∈ front, b.toNat % 2 = 0) →
      addressSize (front ++ [a.last] ++ rest) = front.length + 1 := by
    intro front
    induction front with
    | nil =>
        intro _
        have odd : a.last &&& 0x1 = 1 := (and_one_eq_iff a.last).mpr a.ends
        show (if a.last &&& 0x1 = 1 then 1 else addressSize rest + 1) = 1
        rw [if_pos odd]
    | cons b front ih =>
        intro continues
        have even : ¬ b &&& 0x1 = 1 := by
          have clear := continues b List.mem_cons_self
          rw [and_one_eq_iff]
          omega
        show (if b &&& 0x1 = 1 then 1 else addressSize (front ++ [a.last] ++ rest) + 1) = _
        rw [if_neg even, ih fun b member => continues b (List.mem_cons_of_mem _ member)]
        rfl
  rw [Address.bytes, loop a.front a.continues, List.length_append, List.length_singleton]

theorem bbGetUInt16_cons (x y : UInt8) (rest : List UInt8) :
    bbGetUInt16 (x :: y :: rest) = some (UInt16.ofNat (256 * x.toNat + y.toNat), rest) := by
  simp [bbGetUInt16, BigEndian.read, BigEndian.decode, BigEndian.decodeFrom]

theorem bbGetUInt32_cons (x y z w : UInt8) (rest : List UInt8) :
    bbGetUInt32 (x :: y :: z :: w :: rest) =
      some (UInt32.ofNat (256 * (256 * (256 * x.toNat + y.toNat) + z.toNat) + w.toNat), rest) := by
  simp [bbGetUInt32, BigEndian.read, BigEndian.decode, BigEndian.decodeFrom]

theorem toNat_groups_one (ch : UInt8) : ((ch &&& 0xFE) >>> 1).toUInt32.toNat = ch.toNat / 2 := by
  have bound := ch.toNat_lt
  have mask : ch.toNat &&& 0xFE = ch.toNat / 2 ^ 1 % 2 ^ 7 * 2 ^ 1 := and_shiftedMask 0xFE 7 1 rfl
  simp only [UInt8.toNat_toUInt32, UInt8.toNat_shiftRight, UInt8.toNat_and,
    Nat.shiftRight_eq_div_pow]
  show (ch.toNat &&& 0xFE) / 2 ^ 1 = _
  rw [mask]
  omega

theorem toNat_groups_two (s : UInt16) :
    ((s &&& 0xFE) >>> 1 ||| (s &&& 0xFE00) >>> 2).toUInt32.toNat =
      128 * (s.toNat / 512) + s.toNat / 2 % 128 := by
  have bound := s.toNat_lt
  have lower : (s.toNat &&& 0xFE) / 2 ^ 1 = s.toNat / 2 % 128 := by
    rw [and_shiftedMask 0xFE 7 1 rfl]
    omega
  have upper : (s.toNat &&& 0xFE00) / 2 ^ 2 = 128 * (s.toNat / 512) := by
    rw [and_shiftedMask 0xFE00 7 9 rfl]
    omega
  simp only [UInt16.toNat_toUInt32, UInt16.toNat_or, UInt16.toNat_shiftRight, UInt16.toNat_and,
    Nat.shiftRight_eq_div_pow]
  show (s.toNat &&& 0xFE) / 2 ^ 1 ||| (s.toNat &&& 0xFE00) / 2 ^ 2 = _
  rw [lower, upper, Nat.or_comm]
  exact or_fields 7 (by omega) (by omega)

theorem toNat_groups_four (l : UInt32) :
    ((l &&& 0xFE) >>> 1 ||| (l &&& 0xFE00) >>> 2 ||| (l &&& 0xFE0000) >>> 3 |||
      (l &&& 0xFE000000) >>> 4).toNat =
      2097152 * (l.toNat / 33554432) + 16384 * (l.toNat / 131072 % 128) +
        128 * (l.toNat / 512 % 128) + l.toNat / 2 % 128 := by
  have bound := l.toNat_lt
  let a := 2097152 * (l.toNat / 33554432)
  let b := 16384 * (l.toNat / 131072 % 128)
  let c := 128 * (l.toNat / 512 % 128)
  let d := l.toNat / 2 % 128
  have fourth : (l.toNat &&& 0xFE) / 2 ^ 1 = d := by
    rw [and_shiftedMask 0xFE 7 1 rfl]
    omega
  have third : (l.toNat &&& 0xFE00) / 2 ^ 2 = c := by
    rw [and_shiftedMask 0xFE00 7 9 rfl]
    omega
  have second : (l.toNat &&& 0xFE0000) / 2 ^ 3 = b := by
    rw [and_shiftedMask 0xFE0000 7 17 rfl]
    omega
  have first : (l.toNat &&& 0xFE000000) / 2 ^ 4 = a := by
    rw [and_shiftedMask 0xFE000000 7 25 rfl]
    omega
  have two : c ||| d = c + d := or_fields 7 (by omega) (by omega)
  have three : b ||| (c + d) = b + (c + d) := or_fields 14 (by omega) (by omega)
  have four : a ||| (b + (c + d)) = a + (b + (c + d)) := or_fields 21 (by omega) (by omega)
  simp only [UInt32.toNat_or, UInt32.toNat_shiftRight, UInt32.toNat_and, Nat.shiftRight_eq_div_pow]
  show (l.toNat &&& 0xFE) / 2 ^ 1 ||| (l.toNat &&& 0xFE00) / 2 ^ 2 |||
    (l.toNat &&& 0xFE0000) / 2 ^ 3 ||| (l.toNat &&& 0xFE000000) / 2 ^ 4 = _
  rw [fourth, third, second, first, Nat.or_comm d c, two, Nat.or_comm (c + d) b, three,
    Nat.or_comm (b + (c + d)) a, four]
  omega

theorem decode_groups {x y z w : Nat} (second : y < 256) (third : z < 256) (fourth : w < 256) :
    let l := 16777216 * x + 65536 * y + 256 * z + w
    l / 33554432 = x / 2 ∧ l / 131072 % 128 = y / 2 ∧ l / 512 % 128 = z / 2 ∧
      l / 2 % 128 = w / 2 := by
  intro l
  have upper : l / 33554432 = x / 2 := by omega
  have next : l / 131072 % 128 = y / 2 := by omega
  have third : l / 512 % 128 = z / 2 := by omega
  have lower : l / 2 % 128 = w / 2 := by omega
  exact ⟨upper, next, third, lower⟩

theorem exists_four {bytes : List UInt8} (four : bytes.length = 4) :
    ∃ x y z w, bytes = [x, y, z, w] := by
  obtain ⟨x, rest, rfl⟩ := List.exists_cons_of_length_eq_add_one four
  obtain ⟨y, z, w, rfl⟩ := List.length_eq_three.mp (Nat.succ.inj four)
  exact ⟨x, y, z, w, rfl⟩

theorem dlmsGetHDLCAddress_bytes (a : Address)
    (sizes : a.bytes.length = 1 ∨ a.bytes.length = 2 ∨ a.bytes.length = 4)
    {checkClientAddress : Bool} (client : checkClientAddress = true → a.bytes.length = 1)
    (rest : List UInt8) :
    dlmsGetHDLCAddress checkClientAddress (a.bytes ++ rest) =
      .ok (UInt32.ofNat (number a.bytes), rest) := by
  have counted := addressSize_bytes a rest
  have passes : ¬ (checkClientAddress = true ∧ a.bytes.length ≠ 1) :=
    fun refused => refused.2 (client refused.1)
  rw [dlmsGetHDLCAddress]
  simp only [counted]
  rw [if_neg passes]
  rcases sizes with one | two | four
  · obtain ⟨x, bytes⟩ := List.length_eq_one_iff.mp one
    rw [if_pos one, bytes, List.singleton_append, bbGetUInt8_cons, number_one]
    have value : ((x &&& 0xFE) >>> 1).toUInt32 = UInt32.ofNat (x.toNat / 2) := by
      rw [← UInt32.toNat_inj, toNat_groups_one, UInt32.toNat_ofNat']
      have bound := x.toNat_lt
      omega
    rw [← value]
  · obtain ⟨x, y, bytes⟩ := List.length_eq_two.mp two
    rw [if_neg (by omega), if_pos two, bytes, List.cons_append, List.singleton_append,
      bbGetUInt16_cons, number_two]
    have value : ∀ s : UInt16, s = UInt16.ofNat (256 * x.toNat + y.toNat) →
        ((s &&& 0xFE) >>> 1 ||| (s &&& 0xFE00) >>> 2).toUInt32 =
          UInt32.ofNat (128 * (x.toNat / 2) + y.toNat / 2) := by
      intro s read
      rw [← UInt32.toNat_inj, toNat_groups_two, UInt32.toNat_ofNat', read, UInt16.toNat_ofNat']
      have first := x.toNat_lt
      have second := y.toNat_lt
      omega
    rw [← value _ rfl]
  · obtain ⟨x, y, z, w, bytes⟩ := exists_four four
    rw [if_neg (by omega), if_neg (by omega), if_pos four, bytes, List.cons_append,
      List.cons_append, List.cons_append, List.singleton_append, bbGetUInt32_cons, number_four]
    have value : ∀ l : UInt32,
        l = UInt32.ofNat (256 * (256 * (256 * x.toNat + y.toNat) + z.toNat) + w.toNat) →
        (l &&& 0xFE) >>> 1 ||| (l &&& 0xFE00) >>> 2 ||| (l &&& 0xFE0000) >>> 3 |||
            (l &&& 0xFE000000) >>> 4 =
          UInt32.ofNat (128 * (128 * (128 * (x.toNat / 2) + y.toNat / 2) + z.toNat / 2) +
            w.toNat / 2) := by
      intro l read
      have first := x.toNat_lt
      have second := y.toNat_lt
      have third := z.toNat_lt
      have fourth := w.toNat_lt
      have word : l.toNat =
          16777216 * x.toNat + 65536 * y.toNat + 256 * z.toNat + w.toNat := by
        rw [read, UInt32.toNat_ofNat', Nat.mod_eq_of_lt (by omega)]
        omega
      obtain ⟨a, b, c, d⟩ := decode_groups (x := x.toNat) second third fourth
      rw [← UInt32.toNat_inj, toNat_groups_four, word, a, b, c, d, UInt32.toNat_ofNat',
        Nat.mod_eq_of_lt (by omega)]
      omega
    rw [← value _ rfl]

theorem dlmsGetHDLCAddress_ok {checkClientAddress : Bool} {bytes rest : List UInt8}
    {address : UInt32} (read : dlmsGetHDLCAddress checkClientAddress bytes = .ok (address, rest)) :
    rest = bytes.drop (addressSize bytes) ∧ addressSize bytes ≤ bytes.length ∧
      (addressSize bytes = 1 ∨ addressSize bytes = 2 ∨ addressSize bytes = 4) := by
  have field : ∀ {len : Nat} {n : Nat} {rest : List UInt8},
      BigEndian.read len bytes = some (n, rest) → rest = bytes.drop len ∧ len ≤ bytes.length := by
    intro len n rest read
    rw [BigEndian.read] at read
    split at read
    · exact absurd read (by simp)
    · have parts := Option.some.inj read
      exact ⟨(congrArg Prod.snd parts).symm, by omega⟩
  rw [dlmsGetHDLCAddress] at read
  split at read
  · exact absurd read (by simp)
  · split at read
    · rename_i one
      cases ch : BigEndian.read 1 bytes with
      | none => simp [bbGetUInt8, ch] at read
      | some p =>
          simp only [bbGetUInt8, ch, Option.map_some, Except.ok.injEq, Prod.mk.injEq] at read
          have parts := field ch
          rw [read.2] at parts
          exact ⟨by rw [one]; exact parts.1, by rw [one]; exact parts.2, .inl one⟩
    · split at read
      · rename_i two
        cases ch : BigEndian.read 2 bytes with
        | none => simp [bbGetUInt16, ch] at read
        | some p =>
            simp only [bbGetUInt16, ch, Option.map_some, Except.ok.injEq, Prod.mk.injEq] at read
            have parts := field ch
            rw [read.2] at parts
            exact ⟨by rw [two]; exact parts.1, by rw [two]; exact parts.2, .inr (.inl two)⟩
      · split at read
        · rename_i four
          cases ch : BigEndian.read 4 bytes with
          | none => simp [bbGetUInt32, ch] at read
          | some p =>
              simp only [bbGetUInt32, ch, Option.map_some, Except.ok.injEq, Prod.mk.injEq] at read
              have parts := field ch
              rw [read.2] at parts
              exact ⟨by rw [four]; exact parts.1, by rw [four]; exact parts.2, .inr (.inr four)⟩
        · exact absurd read (by simp)

/-! ## There and back -/

theorem groupsBefore_cases (value : UInt32) :
    groupsBefore value = 0 ∧ value.toNat < 0x80 ∨
      groupsBefore value = 1 ∧ 0x80 ≤ value.toNat ∧ value.toNat < 0x4000 ∨
        groupsBefore value = 3 ∧ 0x4000 ≤ value.toNat := by
  unfold groupsBefore
  split
  · exact .inl ⟨rfl, by assumption⟩
  · split
    · exact .inr (.inl ⟨rfl, by omega, by assumption⟩)
    · exact .inr (.inr ⟨rfl, by omega⟩)

/-- The shortest address of a number. -/
def addressOf (value : UInt32) : Address := Address.sized (groupsBefore value) value.toNat

theorem length_addressOf (value : UInt32) :
    (addressOf value).bytes.length = 1 ∨ (addressOf value).bytes.length = 2 ∨
      (addressOf value).bytes.length = 4 := by
  have cases := groupsBefore_cases value
  rw [addressOf, length_sized]
  omega

theorem number_addressOf {value : UInt32} (fits : value.toNat < 2 ^ 28) :
    number (addressOf value).bytes = value.toNat := by
  rw [addressOf, number_sized]
  rcases groupsBefore_cases value with ⟨size, bound⟩ | ⟨size, _, bound⟩ | ⟨size, _⟩
  · rw [size]
    exact Nat.mod_eq_of_lt bound
  · rw [size]
    exact Nat.mod_eq_of_lt bound
  · rw [size]
    exact Nat.mod_eq_of_lt fits

theorem dlmsGetHDLCAddress_addressOf {value : UInt32} (fits : value.toNat < 2 ^ 28)
    {checkClientAddress : Bool} (client : checkClientAddress = true → value.toNat < 0x80)
    (rest : List UInt8) :
    dlmsGetHDLCAddress checkClientAddress ((addressOf value).bytes ++ rest) = .ok (value, rest) := by
  have short : checkClientAddress = true → (addressOf value).bytes.length = 1 := by
    intro checked
    have below := client checked
    have cases := groupsBefore_cases value
    rw [addressOf, length_sized]
    omega
  rw [dlmsGetHDLCAddress_bytes _ (length_addressOf value) short, number_addressOf fits,
    UInt32.ofNat_toNat]

/-- A longer number has no address, or is taken for a negative one and loses its upper bits. -/
theorem dlmsGetAddressBytes_of_ge {value : UInt32} (long : 2 ^ 28 ≤ value.toNat)
    {bytes : List UInt8} (written : dlmsGetAddressBytes value = some bytes) :
    bytes = (Address.sized 0 value.toNat).bytes := by
  have one := toInt32_lt_iff value 0x80 (by decide)
  have two := toInt32_lt_iff value 0x4000 (by decide)
  have four := toInt32_lt_iff value 0x10000000 (by decide)
  rw [show (0x80 : Int32).toInt = 0x80 from rfl] at one
  rw [show (0x4000 : Int32).toInt = 0x4000 from rfl] at two
  rw [show (0x10000000 : Int32).toInt = 0x10000000 from rfl] at four
  by_cases negative : 2 ^ 31 ≤ value.toNat
  · rw [bytes_of_address (if_pos (one.mpr (.inr negative))) (toNat_address_one value)] at written
    rw [← Option.some.inj written]
    show [UInt8.ofNat _] = [UInt8.ofNat _]
    rw [Nat.pow_zero, Nat.div_one]
  · have none : dlmsGetAddress value = none := by
      rw [dlmsGetAddress, if_neg (fun below => absurd (one.mp below) (by omega)),
        if_neg (fun below => absurd (two.mp below) (by omega)),
        if_neg (fun below => absurd (four.mp below) (by omega))]
    rw [dlmsGetAddressBytes, none] at written
    exact absurd written (by simp)

/-- One byte keeps the lower seven bits. -/
theorem dlmsGetHDLCAddress_of_ge {value : UInt32} (long : 2 ^ 28 ≤ value.toNat)
    {bytes : List UInt8} (written : dlmsGetAddressBytes value = some bytes)
    (checkClientAddress : Bool) (rest : List UInt8) :
    dlmsGetHDLCAddress checkClientAddress (bytes ++ rest) =
      .ok (UInt32.ofNat (value.toNat % 128), rest) := by
  rw [dlmsGetAddressBytes_of_ge long written,
    dlmsGetHDLCAddress_bytes _ (.inl (length_sized 0 _)) (fun _ => length_sized 0 _), number_sized,
    Nat.zero_add, Nat.pow_one]

theorem ne_of_lower_bits {value : UInt32} (long : 2 ^ 28 ≤ value.toNat) :
    UInt32.ofNat (value.toNat % 128) ≠ value := by
  intro same
  have number := congrArg UInt32.toNat same
  rw [UInt32.toNat_ofNat'] at number
  omega

/-- The bytes of `value` are read as `address`, whatever follows them. -/
def AddressReadAs (value address : UInt32) (checkClientAddress : Bool) (bytes : List UInt8) : Prop :=
  dlmsGetAddressBytes value = some bytes ∧
    ∀ rest, (bytes ++ rest).length < 2 ^ 16 →
      dlmsGetHDLCAddress checkClientAddress (bytes ++ rest) = .ok (address, rest)

/-- An address comes back from its bytes exactly up to 28 bits; where the reader insists on a
client's address, exactly up to seven.  A longer one is refused, or written as one byte that is read
back as another address. -/
theorem address_read_back_iff (value : UInt32) (checkClientAddress : Bool) :
    ((∃ bytes, AddressReadAs value value checkClientAddress bytes) ↔
      value.toNat < if checkClientAddress then 2 ^ 7 else 2 ^ 28) ∧
    (2 ^ 28 ≤ value.toNat →
      dlmsGetAddressBytes value = none ∨
        ∃ bytes other, bytes.length = 1 ∧ other ≠ value ∧
          AddressReadAs value other checkClientAddress bytes) := by
  refine ⟨⟨?_, ?_⟩, ?_⟩
  · intro comesBack
    obtain ⟨bytes, written, back⟩ := comesBack
    by_cases fits : value.toNat < 2 ^ 28
    · cases checkClientAddress with
      | false => exact fits
      | true =>
          rw [dlmsGetAddressBytes_of_lt fits] at written
          have cases := groupsBefore_cases value
          rw [← Option.some.inj written] at back
          have read := back [] (by
            rw [List.append_nil, length_sized]
            omega)
          rw [dlmsGetHDLCAddress] at read
          simp only [addressSize_bytes, length_sized] at read
          by_contra long
          have refused : True ∧ groupsBefore value + 1 ≠ 1 := by
            refine ⟨trivial, ?_⟩
            rw [if_pos rfl] at long
            omega
          rw [if_pos refused] at read
          exact absurd read (by simp)
    · have long : 2 ^ 28 ≤ value.toNat := by omega
      have one : bytes.length = 1 := by
        rw [dlmsGetAddressBytes_of_ge long written, length_sized]
      have read := back [] (by
        rw [List.append_nil]
        omega)
      rw [dlmsGetHDLCAddress_of_ge long written] at read
      exact absurd (congrArg Prod.fst (Except.ok.inj read)) (ne_of_lower_bits long)
  · intro fits
    have short : value.toNat < 2 ^ 28 := by
      split at fits <;> omega
    refine ⟨_, dlmsGetAddressBytes_of_lt short, fun rest _ => ?_⟩
    refine dlmsGetHDLCAddress_addressOf short ?_ rest
    intro client
    rw [if_pos client] at fits
    exact fits
  · intro long
    cases written : dlmsGetAddressBytes value with
    | none => exact .inl rfl
    | some bytes =>
        refine .inr ⟨bytes, _, ?_, ne_of_lower_bits long, written,
          fun rest _ => dlmsGetHDLCAddress_of_ge long written checkClientAddress rest⟩
        rw [dlmsGetAddressBytes_of_ge long written, length_sized]

end DlmsGateway.HdlcLink
