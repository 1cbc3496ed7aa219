import DlmsGateway.Lib.Bytes
import Mathlib.Algebra.Group.Nat.Defs

/-!
# The shared `Buffer` structure, the time stamps and the texts

`Buffer` is the C structure `TX[2048] RX[2048] TX_Count RX_Count Timeout_ms`,
4108 bytes without padding.  The converters index it and copy into it without
regard to the member boundaries, so it is also given as the byte sequence it
occupies in memory (counts little-endian): `byteAt` reads that sequence and
`copyTx` is a `memcpy` that starts at `TX` and may run on into the members
behind it.  What such a copy does past the end of the structure is left out.
-/
set_option autoImplicit false
namespace DlmsGateway

open ByteStore

structure Buffer where
  tx : Bytes 2048
  rx : Bytes 2048
  txCount : UInt32
  rxCount : UInt32
  timeoutMs : UInt32

/-- Byte `k` of a 32-bit member in memory. -/
def leByte (w : UInt32) (k : Nat) : UInt8 := UInt8.ofNat (w.toNat / 256 ^ k)

def leWord (f : Nat → UInt8) : UInt32 :=
  UInt32.ofNat ((f 0).toNat + 256 * (f 1).toNat + 65536 * (f 2).toNat + 16777216 * (f 3).toNat)

theorem leWord_leByte (w : UInt32) : leWord (leByte w) = w := by
  have bound := w.toNat_lt
  apply UInt32.toNat_inj.mp
  simp only [leWord, leByte, UInt8.toNat_ofNat', UInt32.toNat_ofNat']
  omega

theorem leWord_congr {f g : Nat → UInt8} (same : ∀ k, k < 4 → f k = g k) : leWord f = leWord g := by
  simp only [leWord, same 0 (by omega), same 1 (by omega), same 2 (by omega), same 3 (by omega)]

theorem leWord_zero {f : Nat → UInt8} (clear : ∀ k, k < 4 → f k = 0) : leWord f = 0 := by
  simp only [leWord, clear 0 (by omega), clear 1 (by omega), clear 2 (by omega),
    clear 3 (by omega)]
  rfl

namespace Buffer

def byteAt (b : Buffer) (i : Nat) : UInt8 :=
  if i < 2048 then b.tx.get i
  else if i < 4096 then b.rx.get (i - 2048)
  else if i < 4100 then leByte b.txCount (i - 4096)
  else if i < 4104 then leByte b.rxCount (i - 4100)
  else if i < 4108 then leByte b.timeoutMs (i - 4104)
  else 0

/-- `b->RX[i]`; an index past the array reads the members behind it. -/
def rxByte (b : Buffer) (i : Nat) : UInt8 := b.byteAt (2048 + i)

/-- `memcpy(b->TX, src, len)`. -/
def copyTx (b : Buffer) (src : Nat → UInt8) (len : Nat) : Buffer :=
  { tx := fun j => if j.val < len then src j.val else b.tx j
    rx := fun j => if 2048 + j.val < len then src (2048 + j.val) else b.rx j
    txCount := leWord fun k => if 4096 + k < len then src (4096 + k) else leByte b.txCount k
    rxCount := leWord fun k => if 4100 + k < len then src (4100 + k) else leByte b.rxCount k
    timeoutMs := leWord fun k => if 4104 + k < len then src (4104 + k) else leByte b.timeoutMs k }

def empty : Buffer := ⟨Bytes.zero, Bytes.zero, 0, 0, 0⟩

/-- `memcpy(b->RX, bytes, n)` -/
def storeRx (b : Buffer) (bytes : List UInt8) : Buffer :=
  { b with rx := b.rx.copy 0 (ofList bytes) bytes.length }

def receive (b : Buffer) (bytes : List UInt8) : Buffer :=
  { b.storeRx bytes with rxCount := UInt32.ofNat bytes.length }

def receiveMore (b : Buffer) (bytes : List UInt8) : Buffer :=
  { b.storeRx bytes with rxCount := b.rxCount + UInt32.ofNat bytes.length }

/-- `memcpy(b->TX, bytes, n); b->TX_Count = n` -/
def putTx (b : Buffer) (bytes : List UInt8) : Buffer :=
  { b.copyTx (ofList bytes) bytes.length with txCount := UInt32.ofNat bytes.length }

theorem rxByte_of_lt (b : Buffer) {i : Nat} (bound : i < 2048) : b.rxByte i = b.rx.get i := by
  rw [rxByte, byteAt, if_neg (by omega), if_pos (by omega), Nat.add_sub_cancel_left]

theorem get_tx_copyTx (b : Buffer) (src : Nat → UInt8) (len : Nat) {i : Nat} (bound : i < 2048) :
    (b.copyTx src len).tx.get i = if i < len then src i else b.tx.get i := by
  simp [copyTx, Bytes.get, bound]

theorem get_rx_copyTx (b : Buffer) (src : Nat → UInt8) (len : Nat) {i : Nat} (bound : i < 2048) :
    (b.copyTx src len).rx.get i = if 2048 + i < len then src (2048 + i) else b.rx.get i := by
  simp [copyTx, Bytes.get, bound]

theorem rx_copyTx_of_le (b : Buffer) (src : Nat → UInt8) {len : Nat} (short : len ≤ 2048) :
    (b.copyTx src len).rx = b.rx := by
  funext j
  exact if_neg (by omega)

theorem rxCount_copyTx_of_le (b : Buffer) (src : Nat → UInt8) {len : Nat} (short : len ≤ 4100) :
    (b.copyTx src len).rxCount = b.rxCount := by
  unfold copyTx
  dsimp only
  rw [leWord_congr (g := leByte b.rxCount) fun k _ => if_neg (by omega), leWord_leByte]

theorem txCount_copyTx_zero (b : Buffer) {src : Nat → UInt8} {len : Nat} (long : 4100 ≤ len)
    (clear : ∀ k, k < 4 → src (4096 + k) = 0) : (b.copyTx src len).txCount = 0 := by
  unfold copyTx
  dsimp only
  exact leWord_zero fun k bound => by rw [if_pos (by omega), clear k bound]

theorem rxCount_copyTx_zero (b : Buffer) {src : Nat → UInt8} {len : Nat} (long : 4104 ≤ len)
    (clear : ∀ k, k < 4 → src (4100 + k) = 0) : (b.copyTx src len).rxCount = 0 := by
  unfold copyTx
  dsimp only
  exact leWord_zero fun k bound => by rw [if_pos (by omega), clear k bound]

end Buffer

/-! ## Time stamps -/

structure Timeval where
  sec : Int
  usec : Int

/-- `diff_time_ms(start)` evaluated at `now`; C division truncates toward zero. -/
def diffTimeMs (start now : Timeval) : Int :=
  let diff := now.usec - start.usec
  let diff := if diff < 0 then diff + 1000000 else diff
  diff.tdiv 1000 + (now.sec - start.sec) * 1000

/-! ## Texts -/

def asciiBytes (text : String) : List UInt8 := text.toList.map fun c => UInt8.ofNat c.toNat

end DlmsGateway
