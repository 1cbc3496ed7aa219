import Mathlib.Data.List.Basic
import Mathlib.Tactic.Ring

/-!
# Big-endian numbers

A number is written with a fixed count of bytes, the most significant first,
and read from the front of a list that may go on behind it.
-/
set_option autoImplicit false
namespace BigEndian

def encode : Nat → Nat → List UInt8
  | 0, _ => []
  | len + 1, n => UInt8.ofNat (n / 256 ^ len) :: encode len n

def decodeFrom (high : Nat) (bytes : List UInt8) : Nat :=
  bytes.foldl (fun n b => 256 * n + b.toNat) high

def decode (bytes : List UInt8) : Nat := decodeFrom 0 bytes

/-- The number in the first `len` bytes, and the bytes behind it. -/
def read (len : Nat) (bytes : List UInt8) : Option (Nat × List UInt8) :=
  if bytes.length < len then none else some (decode (bytes.take len), bytes.drop len)

@[simp] theorem length_encode (len n : Nat) : (encode len n).length = len := by
  induction len with
  | zero => rfl
  | succ len ih => simp [encode, ih]

theorem decodeFrom_encode (len n : Nat) :
    ∀ high, decodeFrom high (encode len n) = high * 256 ^ len + n % 256 ^ len := by
  induction len with
  | zero => intro high; simp [encode, decodeFrom, Nat.mod_one]
  | succ len ih =>
      intro high
      have digit : (UInt8.ofNat (n / 256 ^ len)).toNat = n / 256 ^ len % 256 := by simp
      calc decodeFrom high (encode (len + 1) n)
          = decodeFrom (256 * high + n / 256 ^ len % 256) (encode len n) := by
            rw [← digit]; rfl
        _ = (256 * high + n / 256 ^ len % 256) * 256 ^ len + n % 256 ^ len := ih _
        _ = high * 256 ^ (len + 1) + n % 256 ^ (len + 1) := by
            rw [Nat.pow_succ, Nat.mod_mul]
            ring

theorem decode_encode (len n : Nat) : decode (encode len n) = n % 256 ^ len := by
  rw [decode, decodeFrom_encode, Nat.zero_mul, Nat.zero_add]

theorem decodeFrom_lt (bytes : List UInt8) :
    ∀ high, decodeFrom high bytes < (high + 1) * 256 ^ bytes.length := by
  induction bytes with
  | nil => intro high; simp [decodeFrom]
  | cons b rest ih =>
      intro high
      have byte := b.toNat_lt
      calc decodeFrom high (b :: rest)
          = decodeFrom (256 * high + b.toNat) rest := rfl
        _ < (256 * high + b.toNat + 1) * 256 ^ rest.length := ih _
        _ ≤ (256 * (high + 1)) * 256 ^ rest.length := Nat.mul_le_mul_right _ (by omega)
        _ = (high + 1) * 256 ^ (b :: rest).length := by
            rw [List.length_cons, Nat.pow_succ]
            ring

theorem decode_lt (bytes : List UInt8) : decode bytes < 256 ^ bytes.length := by
  have below := decodeFrom_lt bytes 0
  rwa [Nat.zero_add, Nat.one_mul] at below

theorem le_decodeFrom (bytes : List UInt8) :
    ∀ high, high * 256 ^ bytes.length ≤ decodeFrom high bytes := by
  induction bytes with
  | nil => intro high; simp [decodeFrom]
  | cons b rest ih =>
      intro high
      calc high * 256 ^ (b :: rest).length
          = 256 * high * 256 ^ rest.length := by
            rw [List.length_cons, Nat.pow_succ]
            ring
        _ ≤ (256 * high + b.toNat) * 256 ^ rest.length := Nat.mul_le_mul_right _ (by omega)
        _ ≤ decodeFrom (256 * high + b.toNat) rest := ih _

theorem encode_decodeFrom (bytes : List UInt8) :
    ∀ high, encode bytes.length (decodeFrom high bytes) = bytes := by
  induction bytes with
  | nil => intro high; rfl
  | cons b rest ih =>
      intro high
      have below := decodeFrom_lt rest (256 * high + b.toNat)
      have above := le_decodeFrom rest (256 * high + b.toNat)
      have first : decodeFrom (256 * high + b.toNat) rest / 256 ^ rest.length =
          256 * high + b.toNat := Nat.div_eq_of_lt_le above below
      have digit : UInt8.ofNat (256 * high + b.toNat) = b := by
        rw [← UInt8.toNat_inj, UInt8.toNat_ofNat']
        have byte := b.toNat_lt
        omega
      calc encode (b :: rest).length (decodeFrom high (b :: rest))
          = UInt8.ofNat (decodeFrom (256 * high + b.toNat) rest / 256 ^ rest.length) ::
              encode rest.length (decodeFrom (256 * high + b.toNat) rest) := rfl
        _ = b :: rest := by rw [first, digit, ih]

theorem encode_decode (bytes : List UInt8) : encode bytes.length (decode bytes) = bytes :=
  encode_decodeFrom bytes 0

theorem read_encode {len n : Nat} (fits : n < 256 ^ len) (rest : List UInt8) :
    read len (encode len n ++ rest) = some (n, rest) := by
  have long : ¬ (encode len n ++ rest).length < len := by simp
  have front : (encode len n ++ rest).take len = encode len n := by
    rw [List.take_append_of_le_length (by simp), List.take_of_length_le (by simp)]
  have back : (encode len n ++ rest).drop len = rest := by
    rw [List.drop_append_of_le_length (by simp), List.drop_of_length_le (by simp),
      List.nil_append]
  rw [read, if_neg long, front, back, decode_encode, Nat.mod_eq_of_lt fits]

end BigEndian
