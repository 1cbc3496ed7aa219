import DlmsGateway.Lib.BigEndian

/-!
# Reading the parameters of a method

The reading functions of `bytebuffer.c`, `helpers.c` and `cosem.c` over the
bytes from `position` to `size`.  A read gives the value and the bytes behind it;
a failed one ends the parse, whatever its error code.  The encodings a client
sends stand beside them.
-/
set_option autoImplicit false
namespace DlmsGateway.ByteBuffer

def bbGetUInt8 (bytes : List UInt8) : Option (UInt8 × List UInt8) :=
  (BigEndian.read 1 bytes).map fun (n, rest) => (UInt8.ofNat n, rest)

def bbGetUInt16 (bytes : List UInt8) : Option (UInt16 × List UInt8) :=
  (BigEndian.read 2 bytes).map fun (n, rest) => (UInt16.ofNat n, rest)

def bbGetUInt24 (bytes : List UInt8) : Option (UInt32 × List UInt8) :=
  (BigEndian.read 3 bytes).map fun (n, rest) => (UInt32.ofNat n, rest)

def bbGetUInt32 (bytes : List UInt8) : Option (UInt32 × List UInt8) :=
  (BigEndian.read 4 bytes).map fun (n, rest) => (UInt32.ofNat n, rest)

/-- `hlp_getObjectCount2`, which keeps sixteen bits of a longer count. -/
def hlpGetObjectCount2 (bytes : List UInt8) : Option (UInt16 × List UInt8) := do
  let (ch, bytes) ← bbGetUInt8 bytes
  if ch ≤ 0x80 then
    return (ch.toUInt16, bytes)
  else if ch = 0x81 then
    let (count, bytes) ← bbGetUInt8 bytes
    return (count.toUInt16, bytes)
  else if ch = 0x82 then
    bbGetUInt16 bytes
  else if ch = 0x83 then
    let (value, bytes) ← bbGetUInt24 bytes
    return (value.toUInt16, bytes)
  else if ch = 0x84 then
    let (value, bytes) ← bbGetUInt32 bytes
    return (value.toUInt16, bytes)
  else
    none

def cosemCheckStructure (expectedItemCount : UInt16) (bytes : List UInt8) :
    Option (List UInt8) := do
  let (value, bytes) ← bbGetUInt8 bytes
  if value ≠ 0x02 then none
  else
    let (count, bytes) ← hlpGetObjectCount2 bytes
    if count = expectedItemCount then return bytes else none

def cosemGetOctetString2 (capacity : Nat) (bytes : List UInt8) : Option (List UInt8 × List UInt8) := do
  let (tag, bytes) ← bbGetUInt8 bytes
  if tag ≠ 0x09 then none
  else
    let (count, bytes) ← hlpGetObjectCount2 bytes
    if capacity < count.toNat ∨ bytes.length < count.toNat then none
    else return (bytes.take count.toNat, bytes.drop count.toNat)

def cosemGetUInt32 (bytes : List UInt8) : Option (UInt32 × List UInt8) := do
  let (tag, bytes) ← bbGetUInt8 bytes
  if tag = 0x06 then bbGetUInt32 bytes else none

/-! ## What a client sends -/

def hlpSetObjectCount (count : Nat) : List UInt8 :=
  if count < 0x80 then BigEndian.encode 1 count
  else if count < 0x100 then 0x81 :: BigEndian.encode 1 count
  else if count < 0x10000 then 0x82 :: BigEndian.encode 2 count
  else 0x84 :: BigEndian.encode 4 count

def octetString (bytes : List UInt8) : List UInt8 :=
  0x09 :: hlpSetObjectCount bytes.length ++ bytes

def doubleLongUnsigned (v : UInt32) : List UInt8 := 0x06 :: BigEndian.encode 4 v.toNat

@[simp] theorem bbGetUInt8_cons (b : UInt8) (rest : List UInt8) :
    bbGetUInt8 (b :: rest) = some (b, rest) := by
  have one : BigEndian.read 1 (b :: rest) = some (b.toNat, rest) := by
    simp [BigEndian.read, BigEndian.decode, BigEndian.decodeFrom]
  simp [bbGetUInt8, one]

theorem bbGetUInt32_encode (v : UInt32) (rest : List UInt8) :
    bbGetUInt32 (BigEndian.encode 4 v.toNat ++ rest) = some (v, rest) := by
  rw [bbGetUInt32, BigEndian.read_encode v.toNat_lt]
  simp

theorem cosemGetUInt32_doubleLongUnsigned (v : UInt32) (rest : List UInt8) :
    cosemGetUInt32 (doubleLongUnsigned v ++ rest) = some (v, rest) := by
  simp [cosemGetUInt32, doubleLongUnsigned, bbGetUInt32_encode]

theorem hlpGetObjectCount2_short {ch : UInt8} (short : ch ≤ 0x80) (rest : List UInt8) :
    hlpGetObjectCount2 (ch :: rest) = some (ch.toUInt16, rest) := by
  simp [hlpGetObjectCount2, short]

theorem cosemCheckStructure_pair (rest : List UInt8) :
    cosemCheckStructure 2 (0x02 :: 0x02 :: rest) = some rest := by
  simp [cosemCheckStructure, hlpGetObjectCount2]

end DlmsGateway.ByteBuffer
