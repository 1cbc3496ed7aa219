import DlmsGateway.Gateway.Delivery

/-!
# The frames of a meter

Well-formed I-frames from a meter to a client, built the way `dlms_getHdlcFrame`
builds them: format field, addresses, control byte, header checksum,
information field, frame checksum.  `accepted_iFrame` says where the converter
finds the fields of such a frame, whatever follows it in the receive buffer.
-/
set_option autoImplicit false
namespace DlmsGateway

open ByteStore

/-- A meter's address in two or in four bytes, seven bits a byte. -/
inductive MeterAddress where
  | short (log phy : Fin 128)
  | long (log phy : Fin 16384)

namespace MeterAddress

def logical : MeterAddress → UInt16
  | short log _ => UInt16.ofNat log.val
  | long log _ => UInt16.ofNat log.val

def physical : MeterAddress → UInt16
  | short _ phy => UInt16.ofNat phy.val
  | long _ phy => UInt16.ofNat phy.val

/-- The last byte has the low bit set, the others have it clear. -/
def bytes : MeterAddress → List UInt8
  | short log phy => [UInt8.ofNat (2 * log.val), UInt8.ofNat (2 * phy.val + 1)]
  | long log phy =>
      [UInt8.ofNat (2 * (log.val / 128)), UInt8.ofNat (2 * (log.val % 128)),
        UInt8.ofNat (2 * (phy.val / 128)), UInt8.ofNat (2 * (phy.val % 128) + 1)]

def size : MeterAddress → Nat
  | short _ _ => 2
  | long _ _ => 4

@[simp] theorem length_bytes (a : MeterAddress) : a.bytes.length = a.size := by
  cases a <;> rfl

end MeterAddress

structure ReplyLink where
  client : Fin 128
  meter : MeterAddress

namespace ReplyLink
variable (link : ReplyLink)

/-- Format field, addresses and control byte; `len` counts the bytes between the flags. -/
def frameHead (segmented : Bool) (len : Nat) (control : UInt8) : List UInt8 :=
  [UInt8.ofNat ((if segmented then 0xA8 else 0xA0) + len / 256), UInt8.ofNat len,
    UInt8.ofNat (2 * link.client.val + 1)] ++ (link.meter.bytes ++ [control])

def frameSize (info : List UInt8) : Nat := info.length + link.meter.size + 10

def iFrame (segmented : Bool) (control : UInt8) (info : List UInt8) : List UInt8 :=
  let head := link.frameHead segmented (link.frameSize info - 2) control
  let body := head ++ ([hiByte (crcOf head), loByte (crcOf head)] ++ info)
  [0x7E] ++ (body ++ [hiByte (crcOf body), loByte (crcOf body), 0x7E])

/-- Where the converter finds the fields. -/
def located (info : List UInt8) : MeterFrame where
  size := link.frameSize info
  dstAdd := UInt8.ofNat link.client.val
  logAdd := link.meter.logical
  phyAdd := link.meter.physical
  addEnd := link.meter.size + 3

@[simp] theorem length_frameHead (segmented : Bool) (len : Nat) (control : UInt8) :
    (link.frameHead segmented len control).length = link.meter.size + 4 := by
  simp [frameHead]

end ReplyLink

/-! ## Byte arithmetic -/

theorem lowBit_odd (n : Nat) : UInt8.ofNat (2 * n + 1) &&& 0x1 = 0x1 := by
  rw [and_one_eq_iff, UInt8.toNat_ofNat']
  omega

theorem lowBit_even (n : Nat) : UInt8.ofNat (2 * n) &&& 0x1 ≠ 0x1 := by
  rw [ne_eq, and_one_eq_iff, UInt8.toNat_ofNat']
  omega

theorem half_ofNat {n : Nat} (bound : n < 256) : UInt8.ofNat n >>> 1 = UInt8.ofNat (n / 2) := by
  apply UInt8.toNat_inj.mp
  rw [UInt8.toNat_shiftRight, UInt8.toNat_ofNat', UInt8.toNat_ofNat',
    show UInt8.toNat 1 % 8 = 1 from rfl, Nat.shiftRight_eq_div_pow]
  omega

theorem joinAddress_ofNat {hi lo : Nat} (last : Nat) (hiBound : hi < 128) (loBound : lo < 128)
    (bit : last < 2) :
    joinAddress (UInt8.ofNat (2 * hi)) (UInt8.ofNat (2 * lo + last)) =
      UInt16.ofNat (128 * hi + lo) := by
  have middle : ∀ h, h < 128 → (UInt8.ofNat (2 * h) <<< 6).toNat = 128 * (h % 2) := by decide
  have top : ∀ h, h < 128 →
      ((UInt8.ofNat (2 * h) &&& (0xFC : UInt8)).toUInt16 <<< 6).toNat = 256 * (h / 2) := by decide
  have low : (UInt8.ofNat (2 * lo + last) >>> 1).toNat = lo := by
    rw [half_ofNat (by omega), UInt8.toNat_ofNat']
    omega
  have first : lo ||| 128 * (hi % 2) = lo + 128 * (hi % 2) := by
    rw [Nat.or_comm, ← Nat.two_pow_add_eq_or_of_lt (i := 7) loBound, Nat.add_comm]
  have second : (lo + 128 * (hi % 2)) ||| 256 * (hi / 2) =
      lo + 128 * (hi % 2) + 256 * (hi / 2) := by
    rw [Nat.or_comm, ← Nat.two_pow_add_eq_or_of_lt (i := 8) (by omega), Nat.add_comm]
  apply UInt16.toNat_inj.mp
  rw [joinAddress, UInt16.toNat_or, UInt8.toNat_toUInt16, UInt8.toNat_or, low, middle hi hiBound,
    top hi hiBound, first, second, UInt16.toNat_ofNat']
  omega

theorem endOfAddress_eq_some {rx : Nat → UInt8} {start size i : Nat} (from_ : start ≤ i)
    (inside : i < size) (last : rx i &&& 0x1 = 0x1)
    (before : ∀ j, start ≤ j → j < i → rx j &&& 0x1 ≠ 0x1) :
    endOfAddress rx start size = some i := by
  rw [endOfAddress, List.find?_range'_eq_some]
  refine ⟨by simpa using last, ?_, ?_⟩
  · rw [List.mem_range'_1]
    omega
  · intro j low high
    simpa using before j low high

/-! ## Frames in the receive buffer -/

/-- The receive buffer starts with the bytes `frame`; what follows them is arbitrary. -/
def Buffer.Holds (b : Buffer) (frame : List UInt8) : Prop :=
  window b.rxByte 0 frame.length = frame

instance (b : Buffer) (frame : List UInt8) : Decidable (b.Holds frame) :=
  inferInstanceAs (Decidable (_ = _))

namespace ReplyLink
section Located
variable {link : ReplyLink} {segmented : Bool} {control : UInt8} {info : List UInt8}
  {hdlc : Buffer}

structure Fields (link : ReplyLink) (segmented : Bool) (control : UInt8) (info : List UInt8)
    (rx : Nat → UInt8) : Prop where
  start : rx 0 = 0x7E
  head : window rx 1 (link.meter.size + 4) =
    link.frameHead segmented (link.frameSize info - 2) control
  hcsHigh : rx (link.meter.size + 5) =
    hiByte (crcOf (link.frameHead segmented (link.frameSize info - 2) control))
  hcsLow : rx (link.meter.size + 6) =
    loByte (crcOf (link.frameHead segmented (link.frameSize info - 2) control))
  information : window rx (link.meter.size + 7) info.length = info
  stop : rx (link.frameSize info - 1) = 0x7E

theorem fields_of_holds (holds : hdlc.Holds (link.iFrame segmented control info)) :
    link.Fields segmented control info hdlc.rxByte := by
  have parts := holds
  simp only [Buffer.Holds, iFrame, window_append_eq_iff, window_cons_eq_iff] at parts
  obtain ⟨⟨first, -⟩, ⟨head, ⟨hcsHigh, hcsLow, -⟩, information⟩, tail⟩ := parts
  have flag := tail.2.2.1
  simp only [List.length_append, length_frameHead, List.length_cons, List.length_nil]
    at head hcsHigh hcsLow information flag
  refine ⟨first, head, ?_, ?_, ?_, ?_⟩
  · rw [← hcsHigh]
    congr 1
    omega
  · rw [← hcsLow]
    congr 1
    omega
  · rw [show link.meter.size + 7 = 0 + (0 + 1) + (link.meter.size + 4) + (0 + 1 + 1) by omega]
    exact information
  · rw [← flag, frameSize]
    congr 1
    omega

theorem format_of_head : ∀ q, q < 8 → ∀ segmented : Bool,
    UInt8.ofNat ((if segmented then 0xA8 else 0xA0) + q) &&& 0xF0 = 0xA0 ∧
      (UInt8.ofNat ((if segmented then 0xA8 else 0xA0) + q) &&& 0x08 = 0x08 ↔
        segmented = true) := by
  decide

theorem head_bytes {rx : Nat → UInt8} (fields : link.Fields segmented control info rx) :
    rx 1 = UInt8.ofNat ((if segmented then 0xA8 else 0xA0) + (link.frameSize info - 2) / 256) ∧
      rx 2 = UInt8.ofNat (link.frameSize info - 2) ∧
      rx 3 = UInt8.ofNat (2 * link.client.val + 1) ∧
      window rx 4 link.meter.bytes.length = link.meter.bytes := by
  have head := fields.head
  rw [← length_frameHead link segmented (link.frameSize info - 2) control] at head
  simp only [frameHead, window_append_eq_iff, window_cons_eq_iff] at head
  obtain ⟨⟨format, len, dst, -⟩, meter, -⟩ := head
  exact ⟨format, len, dst, meter⟩

theorem recDataSize_eq {rx : Nat → UInt8} (fields : link.Fields segmented control info rx)
    (fits : link.frameSize info ≤ 2048) : recDataSize rx = link.frameSize info := by
  obtain ⟨format, len, -, -⟩ := head_bytes fields
  have room : 10 ≤ link.frameSize info := by
    simp only [frameSize]
    omega
  rw [recDataSize_mod, toNat_joinBytes, format, len, UInt8.toNat_ofNat', UInt8.toNat_ofNat']
  cases segmented <;> simp only [Bool.false_eq_true, if_true, if_false] <;> omega

theorem endOfAddress_meter {rx : Nat → UInt8} (fields : link.Fields segmented control info rx) :
    endOfAddress rx 4 (link.frameSize info) = some (link.meter.size + 3) := by
  obtain ⟨-, -, -, bytes⟩ := head_bytes fields
  cases address : link.meter with
  | short log phy =>
      simp only [address, MeterAddress.bytes, window_cons_eq_iff] at bytes
      obtain ⟨byte4, byte5, -⟩ := bytes
      simp only [MeterAddress.size]
      apply endOfAddress_eq_some (by omega)
      · simp only [frameSize, address, MeterAddress.size]
        omega
      · rw [byte5]
        exact lowBit_odd _
      · intro j low high
        obtain rfl : j = 4 := by omega
        rw [byte4]
        exact lowBit_even _
  | long log phy =>
      simp only [address, MeterAddress.bytes, window_cons_eq_iff] at bytes
      obtain ⟨byte4, byte5, byte6, byte7, -⟩ := bytes
      simp only [MeterAddress.size]
      apply endOfAddress_eq_some (by omega)
      · simp only [frameSize, address, MeterAddress.size]
        omega
      · rw [byte7]
        exact lowBit_odd _
      · intro j low high
        obtain rfl | rfl | rfl : j = 4 ∨ j = 5 ∨ j = 6 := by omega
        · rw [byte4]
          exact lowBit_even _
        · rw [byte5]
          exact lowBit_even _
        · rw [byte6]
          exact lowBit_even _

theorem meterAddress_eq {rx : Nat → UInt8} (fields : link.Fields segmented control info rx) :
    meterAddress rx 3 (link.meter.size + 3) =
      some (link.meter.logical, link.meter.physical) := by
  obtain ⟨-, -, -, bytes⟩ := head_bytes fields
  cases address : link.meter with
  | short log phy =>
      simp only [address, MeterAddress.bytes, window_cons_eq_iff] at bytes
      obtain ⟨byte4, byte5, -⟩ := bytes
      have logBound := log.isLt
      have phyBound := phy.isLt
      simp only [MeterAddress.size]
      rw [meterAddress, if_neg (by omega), if_pos (by omega), byte4, byte5,
        half_ofNat (by omega), half_ofNat (by omega)]
      simp only [MeterAddress.logical, MeterAddress.physical]
      congr 2 <;> apply UInt16.toNat_inj.mp <;>
        rw [UInt8.toNat_toUInt16, UInt8.toNat_ofNat', UInt16.toNat_ofNat'] <;> omega
  | long log phy =>
      simp only [address, MeterAddress.bytes, window_cons_eq_iff] at bytes
      obtain ⟨byte4, byte5, byte6, byte7, -⟩ := bytes
      have half (n : Fin 16384) : n.val / 128 < 128 := by omega
      have rest (n : Fin 16384) : n.val % 128 < 128 := Nat.mod_lt _ (Nat.zero_lt_succ _)
      have logical := joinAddress_ofNat 0 (half log) (rest log) (by omega)
      have physical := joinAddress_ofNat 1 (half phy) (rest phy) (by omega)
      simp only [MeterAddress.size]
      rw [meterAddress, if_pos (by omega), byte4, byte5, byte6, byte7]
      rw [Nat.add_zero] at logical
      rw [logical, physical, Nat.div_add_mod, Nat.div_add_mod]
      rfl

theorem locate_iFrame {rx : Nat → UInt8} (fields : link.Fields segmented control info rx)
    (fits : link.frameSize info ≤ 2048) :
    locateMeterFrame rx = .ok (link.located info) := by
  obtain ⟨-, -, dst, -⟩ := head_bytes fields
  have addEnd := endOfAddress_meter fields
  have address := meterAddress_eq fields
  have clientBound := link.client.isLt
  have dstEnd : endOfAddress rx 3 (link.frameSize info) = some 3 := by
    apply endOfAddress_eq_some (Nat.le_refl 3)
    · simp only [frameSize]
      omega
    · rw [dst]
      exact lowBit_odd _
    · intro j low high
      omega
  have dstAdd : rx 3 >>> 1 = UInt8.ofNat link.client.val := by
    rw [dst, half_ofNat (by omega)]
    congr 1
    omega
  have room : ¬ link.frameSize info < link.meter.size + 3 + 3 + 4 := by
    simp only [frameSize]
    omega
  simp only [locateMeterFrame, recDataSize_eq fields fits, fields.stop, dstEnd, Option.getD_some,
    addEnd, address, dstAdd, ne_eq, not_true, if_false, room, located]

/-- A well-formed frame passes every check of the converter, and its information field starts
three bytes before the bytes that are copied. -/
theorem accepted_iFrame (holds : hdlc.Holds (link.iFrame segmented control info))
    (fits : link.frameSize info ≤ 2048) :
    hdlc.Accepted (link.located info) ∧ (hdlc.Segmented ↔ segmented = true) ∧
      (link.located info).data hdlc.rxByte = info.drop 3 := by
  have fields := fields_of_holds holds
  obtain ⟨format, -, -, -⟩ := head_bytes fields
  have high : (link.frameSize info - 2) / 256 < 8 := by omega
  obtain ⟨formatRight, bit⟩ := format_of_head _ high segmented
  refine ⟨⟨⟨⟨fields.start, ?_⟩, locate_iFrame fields fits⟩, ?_⟩, ?_, ?_⟩
  · rw [format]
    exact formatRight
  · have head := fields.head
    rw [← length_frameHead link segmented (link.frameSize info - 2) control] at head
    have crc := countCRC_eq_crcOf head
    rw [length_frameHead] at crc
    show joinBytes (hdlc.rxByte (link.meter.size + 5)) (hdlc.rxByte (link.meter.size + 6)) =
      countCRC hdlc.rxByte 1 (link.meter.size + 4)
    rw [fields.hcsHigh, fields.hcsLow, joinBytes_hi_lo, crc]
  · rw [Buffer.Segmented, format]
    exact bit
  · have dropped := window_drop hdlc.rxByte (link.meter.size + 7) info.length 3
    rw [fields.information] at dropped
    rw [dropped]
    simp only [MeterFrame.data, MeterFrame.dataLen, MeterFrame.dataStart, located, frameSize]
    congr 1
    omega

end Located
end ReplyLink

end DlmsGateway
