import DlmsGateway.Gateway.SentFrames

/-!
# `countCRC` with its counters

The position in the loop of `countCRC` has 16 bits and the count 32, so that
the loop ends for counts up to 65535 only; `Buff[index + pos]` is indexed with
32 bits.  Where it ends it is the X-25 check of the bytes with its two bytes
swapped, and a frame with that value behind it, high byte first, leaves the
same residue whatever it carries.
-/
set_option autoImplicit false
namespace DlmsGateway

open ByteStore

/-- A byte array that can be indexed with a `uint32_t`. -/
structure CharArray where
  bytes : List UInt8
  indexed : bytes.length ≤ 2 ^ 32

/-- `Buff[index .. index+count)` -/
def CharArray.slice (buff : CharArray) (index count : UInt32) : List UInt8 :=
  (buff.bytes.drop index.toNat).take count.toNat

/-- The loop from `pos` on: `none` if a read is outside the array, or if the loop goes on after so
many rounds. -/
def countCRCLoop (buff : CharArray) (index count : UInt32) :
    Nat → UInt16 → UInt16 → Option UInt16
  | 0, _, _ => none
  | rounds + 1, pos, fcs16 =>
      if pos.toUInt32 < count then
        match buff.bytes[(index + pos.toUInt32).toNat]? with
        | none => none
        | some b => countCRCLoop buff index count rounds (pos + 1) (crcStep fcs16 b)
      else some fcs16

/-- `countCRC`, given up after so many rounds. -/
def countCRCRounds (buff : CharArray) (index count : UInt32) (rounds : Nat) : Option UInt16 :=
  match countCRCLoop buff index count rounds 0 0xFFFF with
  | none => none
  | some fcs16 =>
      let tmp := ~~~ fcs16
      some ((tmp >>> 8) ||| (tmp <<< 8))

/-! ## The loop -/

section Loop
variable {buff : CharArray} {index count : UInt32}

theorem pos_lt_iff {k : Nat} (small : k < 65536) :
    (UInt16.ofNat k).toUInt32 < count ↔ k < count.toNat := by
  rw [UInt32.lt_iff_toNat_lt, UInt16.toNat_toUInt32, UInt16.toNat_ofNat', Nat.mod_eq_of_lt small]

theorem countCRCLoop_succ (inside : index.toNat + count.toNat ≤ buff.bytes.length) {k : Nat}
    (small : k < 65536) (below : k < count.toNat) (rounds : Nat) (fcs16 : UInt16) :
    countCRCLoop buff index count (rounds + 1) (UInt16.ofNat k) fcs16 =
      countCRCLoop buff index count rounds (UInt16.ofNat (k + 1))
        (crcStep fcs16 (ofList buff.bytes (index.toNat + k))) := by
  have bound := buff.indexed
  have at_ : (index + (UInt16.ofNat k).toUInt32).toNat = index.toNat + k := by
    rw [UInt32.toNat_add, UInt16.toNat_toUInt32, UInt16.toNat_ofNat', Nat.mod_eq_of_lt small,
      Nat.mod_eq_of_lt (by omega)]
  have within : index.toNat + k < buff.bytes.length := by omega
  have byte : buff.bytes[index.toNat + k]? = some (ofList buff.bytes (index.toNat + k)) := by
    rw [ofList, List.getD, List.getElem?_eq_getElem within, Option.getD_some]
  rw [countCRCLoop, if_pos ((pos_lt_iff small).mpr below), at_, byte, UInt16.ofNat_add]
  rfl

/-- From any position the loop ends with the register over all the bytes. -/
theorem countCRCLoop_eq (short : count.toNat ≤ 65535)
    (inside : index.toNat + count.toNat ≤ buff.bytes.length) :
    ∀ m k rounds, k + m = count.toNat → m < rounds →
      countCRCLoop buff index count rounds (UInt16.ofNat k)
        (crcRegister (ofList buff.bytes) index.toNat k) =
        some (crcRegister (ofList buff.bytes) index.toNat count.toNat) := by
  intro m
  induction m with
  | zero =>
      intro k rounds done enough
      obtain ⟨rounds, rfl⟩ := Nat.exists_eq_succ_of_ne_zero (Nat.ne_of_gt enough)
      have ended : ¬ (UInt16.ofNat k).toUInt32 < count := by
        rw [pos_lt_iff (by omega)]
        omega
      rw [countCRCLoop, if_neg ended, ← done, Nat.add_zero]
  | succ m ih =>
      intro k rounds left enough
      obtain ⟨rounds, rfl⟩ := Nat.exists_eq_succ_of_ne_zero (Nat.ne_zero_of_lt enough)
      rw [Nat.succ_eq_add_one, countCRCLoop_succ inside (by omega) (by omega)]
      exact ih (k + 1) rounds (by omega) (by omega)

/-- Above 65535 the position never reaches the count. -/
theorem countCRCLoop_endless (long : 65535 < count.toNat) :
    ∀ rounds pos fcs16, countCRCLoop buff index count rounds pos fcs16 = none := by
  intro rounds
  induction rounds with
  | zero => intro _ _; rfl
  | succ rounds ih =>
      intro pos fcs16
      have bound := pos.toNat_lt
      have below : pos.toUInt32 < count := by
        rw [UInt32.lt_iff_toNat_lt, UInt16.toNat_toUInt32]
        omega
      rw [countCRCLoop, if_pos below]
      cases buff.bytes[(index + pos.toUInt32).toNat]? with
      | none => rfl
      | some b => exact ih _ _

theorem countCRCRounds_eq (short : count.toNat ≤ 65535)
    (inside : index.toNat + count.toNat ≤ buff.bytes.length) {rounds : Nat}
    (enough : count.toNat < rounds) :
    countCRCRounds buff index count rounds =
      some (countCRC (ofList buff.bytes) index.toNat count.toNat) := by
  have ended := countCRCLoop_eq short inside count.toNat 0 rounds (Nat.zero_add _) enough
  rw [countCRCRounds, show (0 : UInt16) = UInt16.ofNat 0 from rfl,
    show (0xFFFF : UInt16) = crcRegister (ofList buff.bytes) index.toNat 0 from rfl, ended]
  rfl

theorem window_eq_slice (inside : index.toNat + count.toNat ≤ buff.bytes.length) :
    window (ofList buff.bytes) index.toNat count.toNat = buff.slice index count := by
  apply List.ext_getElem
  · rw [length_window, CharArray.slice, List.length_take, List.length_drop]
    omega
  · intro k left right
    rw [length_window] at left
    have within : index.toNat + k < buff.bytes.length := by omega
    simp only [CharArray.slice, getElem_window, List.getElem_take, List.getElem_drop, ofList,
      List.getD, List.getElem?_eq_getElem within, Option.getD_some]

end Loop

/-! ## The checksum -/

/-- The two bytes of a word in the other order. -/
def swapBytes (word : BitVec 16) : BitVec 16 := word.extractLsb' 0 8 ++ word.extractLsb' 8 8

theorem swapped_eq (word : BitVec 16) : (word >>> 8) ||| (word <<< 8) = swapBytes word := by
  apply BitVec.eq_of_getLsbD_eq
  intro k bound
  rw [swapBytes, BitVec.getLsbD_append, BitVec.getLsbD_or, BitVec.getLsbD_ushiftRight,
    BitVec.getLsbD_shiftLeft, BitVec.getLsbD_extractLsb', BitVec.getLsbD_extractLsb']
  by_cases low : k < 8
  · simp [low]
  · have out : word.getLsbD (8 + k) = false := BitVec.getLsbD_of_ge _ _ (by omega)
    have below : k - 8 < 8 := by omega
    simp [low, bound, out, below]

theorem toBitVec_countCRC (f : Nat → UInt8) (i n : Nat) :
    (countCRC f i n).toBitVec = swapBytes (Hdlc.fcs (window f i n)) := by
  rw [Hdlc.fcs, ← toBitVec_crcRegister, ← swapped_eq]
  rfl

/-- For up to 65535 bytes inside the array `countCRC` ends with the X-25 check of these bytes, its
two bytes swapped; behind them, its high byte first, it leaves the residue `0xF0B8`. -/
theorem countCRC_x25 (buff : CharArray) (index count : UInt32) (short : count.toNat ≤ 65535)
    (inside : index.toNat + count.toNat ≤ buff.bytes.length) :
    ∃ crc : UInt16,
      (∀ rounds, count.toNat < rounds → countCRCRounds buff index count rounds = some crc) ∧
      crc.toBitVec = swapBytes (~~~ Crc.after 0x8408#16 0xFFFF#16
        ((buff.slice index count).map UInt8.toBitVec)) ∧
      Crc.after 0x8408#16 0xFFFF#16
        ((buff.slice index count ++ [hiByte crc, loByte crc]).map UInt8.toBitVec) = 0xF0B8#16 := by
  refine ⟨countCRC (ofList buff.bytes) index.toNat count.toNat, ?_, ?_, ?_⟩
  · intro rounds enough
    exact countCRCRounds_eq short inside enough
  · rw [toBitVec_countCRC, window_eq_slice inside, Hdlc.fcs]
  · rw [checkBytes_eq, window_eq_slice inside]
    exact Hdlc.after_checkSequence _

def digits : CharArray where
  bytes := [0x7E, 0x31, 0x32, 0x33, 0x34, 0x35, 0x36, 0x37, 0x38, 0x39]
  indexed := by decide

theorem digits_checked :
    countCRCRounds digits 1 9 10 = some 0x6E90 ∧
      Crc.after 0x8408#16 0xFFFF#16 ((digits.slice 1 9 ++ [0x6E, 0x90]).map UInt8.toBitVec) =
        0xF0B8#16 := by
  have value : countCRCRounds digits 1 9 10 = some 0x6E90 := by decide +kernel
  obtain ⟨crc, ends, -, residue⟩ := countCRC_x25 digits 1 9 (by decide) (by decide)
  have same : crc = 0x6E90 := Option.some.inj ((ends 10 (by decide)).symm.trans value)
  rw [same] at residue
  exact ⟨value, residue⟩

theorem after_sent {b : Buffer} {f : Hdlc.Frame} (sends : b.Sends f) :
    Crc.after 0x8408#16 0xFFFF#16
      ((window b.tx.get 1 (b.txCount.toNat - 2)).map UInt8.toBitVec) = 0xF0B8#16 := by
  have count : b.txCount.toNat = 1 + (f.length + 1) := by
    rw [sends.count, f.length_bytes]
    omega
  have between : window b.tx.get 1 f.length = f.body ++ Hdlc.checkSequence f.body := by
    have bytes := sends.bytes
    have length := f.length_body
    rw [count, window_add, window_add, Hdlc.Frame.bytes] at bytes
    obtain ⟨-, rest⟩ := List.append_inj bytes (length_window ..)
    rw [← List.append_assoc] at rest
    refine (List.append_inj rest ?_).1
    rw [length_window, List.length_append]
    exact length.symm
  rw [show b.txCount.toNat - 2 = f.length by omega, between]
  exact Hdlc.after_checkSequence f.body

end DlmsGateway
