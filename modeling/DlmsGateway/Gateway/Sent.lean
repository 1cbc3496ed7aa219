import DlmsGateway.Gateway.Reply

/-!
# Reading back the frames put in `HDLC_STRUCT->TX`

The address field of a frame starts at index 3 and ends with the first byte
whose low bit is set; the client's address byte and the control byte follow.
The generators put the address of the taken request and the control byte they
are given.
-/
set_option autoImplicit false
namespace DlmsGateway

open ByteStore

namespace Buffer

def sentAddress (b : Buffer) : List UInt8 :=
  match endOfAddress b.tx.get 3 2048 with
  | some i => window b.tx.get 3 (i - 2)
  | none => []

def sentControl (b : Buffer) : UInt8 :=
  match endOfAddress b.tx.get 3 2048 with
  | some i => b.tx.get (i + 2)
  | none => 0

end Buffer

/-- The address field made from a logical and a physical address. -/
def addressField (dstSize : Nat) (logical phyAdd : UInt16) : List UInt8 :=
  let dstAddLog := spreadAddress logical
  let dstAddPhy := spreadAddress phyAdd ||| 0x1
  if dstSize = 4 then [hiByte dstAddLog, loByte dstAddLog, hiByte dstAddPhy, loByte dstAddPhy]
  else [loByte dstAddLog, loByte dstAddPhy]

def Buffer.meterAddressField (gw : Buffer) : List UInt8 :=
  match gw.dstSizeAndPhyAdd with
  | some (dstSize, phyAdd) => addressField dstSize gw.logicalAddress phyAdd
  | none => []

/-! ## The low bits of the address field -/

theorem lowBit_loByte (w : UInt16) : loByte w &&& 0x1 = 0x1 ↔ w.toNat.testBit 0 = true := by
  rw [and_one_eq_iff, toNat_loByte, Nat.testBit_zero, decide_eq_true_eq,
    Nat.mod_mod_of_dvd _ (Nat.dvd_of_mod_eq_zero rfl)]

theorem lowBit_hiByte (w : UInt16) : hiByte w &&& 0x1 = 0x1 ↔ w.toNat.testBit 8 = true := by
  rw [and_one_eq_iff, toNat_hiByte, Nat.testBit_eq_decide_div_mod_eq, decide_eq_true_eq]

theorem testBit_spreadAddress (a : UInt16) {i : Nat}
    (outside : (UInt16.toNat 0xFE00).testBit i = false ∧ (UInt16.toNat 0x00FE).testBit i = false) :
    (spreadAddress a).toNat.testBit i = false := by
  rw [spreadAddress, UInt16.toNat_or, UInt16.toNat_and, UInt16.toNat_and]
  simp only [Nat.testBit_or, Nat.testBit_and, outside.1, outside.2, Bool.and_false, Bool.or_false]

theorem lowBits_spreadAddress (a : UInt16) :
    loByte (spreadAddress a) &&& 0x1 ≠ 0x1 ∧ hiByte (spreadAddress a) &&& 0x1 ≠ 0x1 ∧
      loByte (spreadAddress a ||| 0x1) &&& 0x1 = 0x1 ∧
      hiByte (spreadAddress a ||| 0x1) &&& 0x1 ≠ 0x1 := by
  have bit0 := testBit_spreadAddress a (i := 0) ⟨rfl, rfl⟩
  have bit8 := testBit_spreadAddress a (i := 8) ⟨rfl, rfl⟩
  simp only [ne_eq, lowBit_loByte, lowBit_hiByte, UInt16.toNat_or, Nat.testBit_or, bit0, bit8]
  exact ⟨Bool.false_ne_true, Bool.false_ne_true, rfl, Bool.false_ne_true⟩

/-! ## What the generators put -/

theorem sent_of_bytes {b : Buffer} {dstSize : Nat} {logical phyAdd : UInt16} {control : UInt8}
    (sizes : dstSize = 2 ∨ dstSize = 4)
    (address : window b.tx.get 3 dstSize = addressField dstSize logical phyAdd)
    (controlAt : b.tx.get (dstSize + 4) = control) :
    b.sentAddress = addressField dstSize logical phyAdd ∧ b.sentControl = control := by
  obtain ⟨logLow, logHigh, -, -⟩ := lowBits_spreadAddress logical
  obtain ⟨-, -, phyLow, phyHigh⟩ := lowBits_spreadAddress phyAdd
  have addEnd : endOfAddress b.tx.get 3 2048 = some (dstSize + 2) := by
    rcases sizes with rfl | rfl
    · simp only [window, List.range_succ, List.range_zero, addressField] at address
      simp at address
      obtain ⟨byte3, byte4⟩ := address
      refine List.find?_range'_eq_some.mpr ⟨?_, ?_, ?_⟩
      · simpa [byte4] using phyLow
      · simp
      · intro j low high
        obtain rfl : j = 3 := by omega
        simpa [byte3] using logLow
    · simp only [window, List.range_succ, List.range_zero, addressField] at address
      simp at address
      obtain ⟨byte3, byte4, byte5, byte6⟩ := address
      refine List.find?_range'_eq_some.mpr ⟨?_, ?_, ?_⟩
      · simpa [byte6] using phyLow
      · simp
      · intro j low high
        have : j = 3 ∨ j = 4 ∨ j = 5 := by omega
        rcases this with rfl | rfl | rfl
        · simpa [byte3] using logHigh
        · simpa [byte4] using logLow
        · simpa [byte5] using phyHigh
  constructor
  · simp only [Buffer.sentAddress, addEnd]
    rw [← address]
    congr 1
  · simp only [Buffer.sentControl, addEnd]
    rw [← controlAt]

theorem dstSize_cases {gw : Buffer} {dstSize : Nat} {phyAdd : UInt16}
    (accepted : gw.dstSizeAndPhyAdd = some (dstSize, phyAdd)) : dstSize = 2 ∨ dstSize = 4 := by
  unfold Buffer.dstSizeAndPhyAdd at accepted
  split_ifs at accepted <;> cases accepted
  · exact .inl rfl
  · exact .inr rfl

theorem window_putDstAddress {n : Nat} (mac : Bytes n) {dstSize : Nat} (logical phyAdd : UInt16)
    (sizes : dstSize = 2 ∨ dstSize = 4) (room : 10 ≤ n) :
    window (putDstAddress mac dstSize (spreadAddress logical)
      (spreadAddress phyAdd ||| 0x1)).get 3 dstSize = addressField dstSize logical phyAdd := by
  rcases sizes with rfl | rfl
  · simp [window, List.range_succ, putDstAddress, addressField, Bytes.get_set,
      show 3 < n by omega, show 4 < n by omega]
  · simp [window, List.range_succ, putDstAddress, addressField, Bytes.get_set,
      show 3 < n by omega, show 4 < n by omega, show 5 < n by omega, show 6 < n by omega]

section Generators
variable {gw hdlc b : Buffer}

/-- A frame without information field carries its address and control byte, and leaves the receive
side of the buffer alone. -/
theorem controlFrame_sent {logical : UInt16} {control : UInt8}
    (framed : controlFrame gw hdlc logical control = some b) :
    ∃ dstSize phyAdd, gw.dstSizeAndPhyAdd = some (dstSize, phyAdd) ∧
      b.sentAddress = addressField dstSize logical phyAdd ∧ b.sentControl = control ∧
      b.rxCount = hdlc.rxCount ∧ b.rx = hdlc.rx ∧ b.txCount ≤ 12 := by
  unfold controlFrame at framed
  cases accepted : gw.dstSizeAndPhyAdd with
  | none => rw [accepted] at framed; cases framed
  | some pair =>
      obtain ⟨dstSize, phyAdd⟩ := pair
      rw [accepted] at framed
      have sizes := dstSize_cases accepted
      cases framed
      refine ⟨dstSize, phyAdd, rfl, ?_⟩
      rw [← and_assoc]
      refine ⟨sent_of_bytes sizes ?_ ?_, ?_, ?_, ?_⟩
      · rw [← window_putDstAddress _ logical phyAdd sizes (n := 8 + dstSize) (by omega)]
        apply window_congr
        intro k bound
        rw [Buffer.get_tx_copyTx _ _ _ (by omega), if_pos (by omega),
          Bytes.get_set_ne _ _ (by omega), Bytes.get_set_ne _ _ (by omega),
          Bytes.get_set_ne _ _ (by omega), Bytes.get_set_ne _ _ (by omega)]
      · rw [Buffer.get_tx_copyTx _ _ _ (by omega), if_pos (by omega),
          Bytes.get_set_ne _ _ (by omega), Bytes.get_set_ne _ _ (by omega)]
        exact Bytes.get_set_self _ _ (by omega)
      · exact Buffer.rxCount_copyTx_of_le _ _ (by omega)
      · exact Buffer.rx_copyTx_of_le _ _ (by omega)
      · show UInt32.ofNat (dstSize + 2 + 6) ≤ 12
        rcases sizes with rfl | rfl <;> decide

/-- The I-frame carries the address of the request and the control byte it is given. -/
theorem frameConvertor_cases (gw hdlc : Buffer) (ctrl : CtrlByteStr) :
    (∃ ret, ret < 0 ∧ gw2HdlcFrameConvertor gw hdlc ctrl = (ret, hdlc, ctrl)) ∨
    (∃ b, gw2HdlcFrameConvertor gw hdlc ctrl = (1, b, { ctrl with sss := nextNumber ctrl.sss }) ∧
      b.sentAddress = gw.meterAddressField ∧ b.sentControl = ctrl.ctrlByte ∧
      b.rxCount = hdlc.rxCount ∧ b.rx = hdlc.rx) := by
  unfold gw2HdlcFrameConvertor Buffer.meterAddressField
  cases accepted : gw.dstSizeAndPhyAdd with
  | none => exact .inl ⟨-1, by decide, rfl⟩
  | some pair =>
      obtain ⟨dstSize, phyAdd⟩ := pair
      have sizes := dstSize_cases accepted
      dsimp only
      split
      · exact .inl ⟨-2, by decide, rfl⟩
      · refine .inr ⟨_, rfl, ?_⟩
        rw [← and_assoc]
        refine ⟨sent_of_bytes sizes ?_ ?_, ?_, ?_⟩
        · rw [← window_putDstAddress _ gw.logicalAddress phyAdd sizes (n := 2048) (by omega)]
          apply window_congr
          intro k bound
          rw [Buffer.get_tx_copyTx _ _ _ (by omega), if_pos (by omega)]
          iterate 7 rw [Bytes.get_set_ne _ _ (by omega)]
          rw [Bytes.get_storeEach_outside _ _ _ _ _ (by intro i _; omega)]
          iterate 5 rw [Bytes.get_set_ne _ _ (by omega)]
        · rw [Buffer.get_tx_copyTx _ _ _ (by omega), if_pos (by omega)]
          iterate 7 rw [Bytes.get_set_ne _ _ (by omega)]
          rw [Bytes.get_storeEach_outside _ _ _ _ _ (by intro i _; omega)]
          iterate 3 rw [Bytes.get_set_ne _ _ (by omega)]
          exact Bytes.get_set_self _ _ (by omega)
        · exact Buffer.rxCount_copyTx_of_le _ _ (by omega)
        · exact Buffer.rx_copyTx_of_le _ _ (by omega)

end Generators

end DlmsGateway
