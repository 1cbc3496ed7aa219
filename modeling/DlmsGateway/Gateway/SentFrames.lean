import DlmsGateway.Gateway.Sent
import DlmsGateway.Lib.Hdlc

/-!
# The frames put in `HDLC_STRUCT->TX` are HDLC frames

`countCRC` is the HDLC check sequence with its bytes swapped, so that the frame
builders, which store its high byte first, send the low byte first.  Each of
them fills a local array between two flags and then computes the check
sequences in place.
-/
set_option autoImplicit false
namespace DlmsGateway

open ByteStore

/-! ## The check sequence -/

theorem fcs16Table_word : ∀ i : Fin 256,
    (fcs16Table.getD i.val 0).toBitVec = Crc.tableWord 0x8408#16 (BitVec.ofFin i) := by
  decide +kernel

theorem toBitVec_crcStep (fcs : UInt16) (b : UInt8) :
    (crcStep fcs b).toBitVec = Crc.update 0x8408#16 fcs.toBitVec b.toBitVec := by
  have index : ((fcs ^^^ b.toUInt16) &&& 0xFF).toNat =
      (Crc.index (fcs.toBitVec ^^^ b.toBitVec.setWidth 16)).toNat := by
    rw [UInt16.toNat_and, Crc.index, BitVec.toNat_setWidth]
    exact Nat.and_two_pow_sub_one_eq_mod _ 8
  have word := fcs16Table_word ⟨_, (Crc.index (fcs.toBitVec ^^^ b.toBitVec.setWidth 16)).isLt⟩
  rw [crcStep, UInt16.toBitVec_xor, index, word, Crc.update_table]
  rfl

theorem toBitVec_crcRegister (f : Nat → UInt8) (i : Nat) :
    ∀ n, (crcRegister f i n).toBitVec =
      Crc.after 0x8408#16 0xFFFF#16 ((window f i n).map UInt8.toBitVec) := by
  intro n
  induction n with
  | zero => rfl
  | succ n ih =>
      rw [crcRegister, toBitVec_crcStep, ih, window_add, List.map_append, Crc.after_append]
      rfl

theorem checkBytes_eq (f : Nat → UInt8) (i n : Nat) :
    [hiByte (countCRC f i n), loByte (countCRC f i n)] = Hdlc.checkSequence (window f i n) := by
  have swapped : ∀ x : UInt16, hiByte ((x >>> 8) ||| (x <<< 8)) = x.toUInt8 ∧
      loByte ((x >>> 8) ||| (x <<< 8)) = (x >>> 8).toUInt8 := by
    intro x
    constructor
    · apply UInt8.toBitVec_inj.mp
      apply BitVec.eq_of_getLsbD_eq
      intro k bound
      have out : x.toBitVec.getLsbD (8 + (8 + k)) = false := BitVec.getLsbD_of_ge _ _ (by omega)
      simp [hiByte, out, bound, BitVec.getLsbD_eq_getElem (show k < 16 by omega)]
      omega
    · apply UInt8.toBitVec_inj.mp
      apply BitVec.eq_of_getLsbD_eq
      intro k bound
      simp [loByte, bound]
  rw [Hdlc.checkSequence, Hdlc.fcs, ← toBitVec_crcRegister, countCRC, (swapped _).1, (swapped _).2]
  rfl

/-! ## A frame that is closed in place -/

/-- Store the check sequence of the first `k` bytes behind the start flag. -/
def storeCheck {n : Nat} (mac : Bytes n) (k : Nat) : Bytes n :=
  (mac.set (k + 1) (hiByte (countCRC mac.get 1 k))).set (k + 2) (loByte (countCRC mac.get 1 k))

section StoreCheck
variable {n : Nat} {mac : Bytes n} {k : Nat}

theorem get_storeCheck_other {i : Nat} (apart : i ≠ k + 1 ∧ i ≠ k + 2) :
    (storeCheck mac k).get i = mac.get i := by
  rw [storeCheck, Bytes.get_set_ne _ _ apart.2, Bytes.get_set_ne _ _ apart.1]

theorem window_storeCheck_other {start len : Nat}
    (apart : start + len ≤ k + 1 ∨ k + 2 < start) :
    window (storeCheck mac k).get start len = window mac.get start len := by
  apply window_congr
  intro j bound
  exact get_storeCheck_other ⟨by omega, by omega⟩

theorem window_storeCheck (room : k + 2 < n) :
    window (storeCheck mac k).get (k + 1) 2 = Hdlc.checkSequence (window mac.get 1 k) := by
  have first : (storeCheck mac k).get (k + 1) = hiByte (countCRC mac.get 1 k) := by
    rw [storeCheck, Bytes.get_set_ne _ _ (by omega), Bytes.get_set_self _ _ (by omega)]
  have second : (storeCheck mac k).get (k + 2) = loByte (countCRC mac.get 1 k) := by
    rw [storeCheck, Bytes.get_set_self _ _ (by omega)]
  rw [← checkBytes_eq, ← first, ← second]
  rfl

theorem window_closed {body : List UInt8} (room : k + 3 < n) (start : mac.get 0 = 0x7E)
    (stop : mac.get (k + 3) = 0x7E) (filled : window mac.get 1 k = body) :
    window (storeCheck mac k).get 0 (k + 4) = [0x7E] ++ (body ++ (Hdlc.checkSequence body ++ [0x7E])) := by
  have size : k + 4 = 1 + (k + (2 + 1)) := by omega
  rw [size, window_add, window_add, window_add]
  have first : window (storeCheck mac k).get 0 1 = [0x7E] := by
    rw [window_storeCheck_other (by omega), ← start]
    rfl
  have middle : window (storeCheck mac k).get (0 + 1) k = body := by
    rw [window_storeCheck_other (by omega), filled]
  have check : window (storeCheck mac k).get (0 + 1 + k) 2 = Hdlc.checkSequence body := by
    rw [show 0 + 1 + k = k + 1 by omega, window_storeCheck (by omega), filled]
  have last : window (storeCheck mac k).get (0 + 1 + k + 2) 1 = [0x7E] := by
    rw [window_storeCheck_other (by omega), ← stop, show k + 3 = 0 + 1 + k + 2 by omega]
    rfl
  rw [first, middle, check, last]

end StoreCheck

/-! ## The header -/

theorem formatField_eq {size : Nat} (short : size - 2 ≤ 2047) :
    [hiByte (frameFormat size), loByte (frameFormat size)] = Hdlc.formatField (size - 2) := by
  have low : (UInt16.ofNat (size - 2) &&& 0x07FF).toNat = size - 2 := by
    rw [UInt16.toNat_and, UInt16.toNat_ofNat']
    exact (Nat.and_two_pow_sub_one_eq_mod _ 11).trans (by omega)
  have value : (frameFormat size).toNat = 40960 + (size - 2) := by
    rw [frameFormat, UInt16.toNat_or, low]
    show (size - 2) ||| 40960 = _
    rw [Nat.or_comm, show 40960 = 2 ^ 11 * 20 from rfl,
      ← Nat.two_pow_add_eq_or_of_lt (i := 11) (by omega)]
  have high : hiByte (frameFormat size) = UInt8.ofNat (0xA0 + (size - 2) / 256) := by
    apply UInt8.toNat_inj.mp
    rw [toNat_hiByte, value, UInt8.toNat_ofNat']
    omega
  have rest : loByte (frameFormat size) = UInt8.ofNat (size - 2) := by
    apply UInt8.toNat_inj.mp
    rw [toNat_loByte, value, UInt8.toNat_ofNat']
    omega
  rw [high, rest]
  rfl

/-- The address field as an address: the low bit is set in its last byte only. -/
def meterAddressOf (dstSize : Nat) (logical phyAdd : UInt16) : Hdlc.Address where
  front := (addressField dstSize logical phyAdd).dropLast
  last := loByte (spreadAddress phyAdd ||| 0x1)
  continues := by
    obtain ⟨logLow, logHigh, -, -⟩ := lowBits_spreadAddress logical
    obtain ⟨-, -, -, phyHigh⟩ := lowBits_spreadAddress phyAdd
    simp only [ne_eq, and_one_eq_iff] at logLow logHigh phyHigh
    intro b member
    unfold addressField at member
    split at member
    · simp only [List.dropLast_cons_cons, List.dropLast_singleton, List.mem_cons,
        List.not_mem_nil, or_false] at member
      rcases member with rfl | rfl | rfl <;> omega
    · simp only [List.dropLast_cons_cons, List.dropLast_singleton, List.mem_cons,
        List.not_mem_nil, or_false] at member
      rw [member]
      omega
  ends := (and_one_eq_iff _).mp (lowBits_spreadAddress phyAdd).2.2.1

theorem bytes_meterAddressOf (dstSize : Nat) (logical phyAdd : UInt16) :
    (meterAddressOf dstSize logical phyAdd).bytes = addressField dstSize logical phyAdd := by
  unfold meterAddressOf Hdlc.Address.bytes addressField
  dsimp only
  split <;> rfl

theorem length_addressField {dstSize : Nat} (sizes : dstSize = 2 ∨ dstSize = 4)
    (logical phyAdd : UInt16) : (addressField dstSize logical phyAdd).length = dstSize := by
  rcases sizes with rfl | rfl <;> rfl

def Buffer.clientAddress (gw : Buffer) : Hdlc.Address where
  front := []
  last := gw.sourceAddress
  continues := by simp
  ends := by
    have bit : gw.sourceAddress.toNat.testBit 0 = true := by
      rw [sourceAddress, UInt8.toNat_or, Nat.testBit_or]
      exact Bool.or_true _
    simpa using bit

theorem accepted_of_form {gw : Buffer} (form : gw.addLen = 1 ∨ gw.addLen = 2) :
    ∃ phyAdd, gw.dstSizeAndPhyAdd = some (2 * gw.addLen.toNat, phyAdd) := by
  unfold Buffer.dstSizeAndPhyAdd
  rcases form with one | two
  · rw [if_pos one, one]
    exact ⟨_, rfl⟩
  · rw [if_neg (by rw [two]; decide), if_pos two, two]
    exact ⟨_, rfl⟩

/-- The frame for a request, with what it carries. -/
def Buffer.frameWith (gw : Buffer) (dstSize : Nat) (logical phyAdd : UInt16) (control : UInt8)
    (information : List UInt8) : Hdlc.Frame where
  destination := meterAddressOf dstSize logical phyAdd
  source := gw.clientAddress
  control := control
  information := information

section Header
variable {gw : Buffer} {dstSize : Nat} {logical phyAdd : UInt16} {control : UInt8}
  {information : List UInt8}

theorem length_frameWith (sizes : dstSize = 2 ∨ dstSize = 4) :
    (gw.frameWith dstSize logical phyAdd control information).length =
      dstSize + 6 + if information = [] then 0 else information.length + 2 := by
  have address := length_addressField sizes logical phyAdd
  rw [← bytes_meterAddressOf] at address
  rw [Hdlc.Frame.length]
  show (meterAddressOf dstSize logical phyAdd).bytes.length + 1 + 5 + _ = _
  rw [address]
  rfl

theorem window_header (size : Nat) {n : Nat} {mac : Bytes n}
    (short : size - 2 ≤ 2047)
    (length : (gw.frameWith dstSize logical phyAdd control information).length = size - 2)
    (format : mac.get 1 = hiByte (frameFormat size) ∧ mac.get 2 = loByte (frameFormat size))
    (address : window mac.get 3 dstSize = addressField dstSize logical phyAdd)
    (source : mac.get (dstSize + 3) = gw.sourceAddress)
    (controlAt : mac.get (dstSize + 4) = control) :
    window mac.get 1 (dstSize + 4) =
      (gw.frameWith dstSize logical phyAdd control information).header := by
  have first : window mac.get 1 2 = Hdlc.formatField (size - 2) := by
    rw [← formatField_eq short, ← format.1, ← format.2]
    rfl
  have rest : window mac.get (1 + 2 + dstSize) (1 + 1) = [gw.sourceAddress, control] := by
    rw [← source, ← controlAt, show dstSize + 3 = 1 + 2 + dstSize by omega,
      show dstSize + 4 = 1 + 2 + dstSize + 1 by omega]
    rfl
  rw [show dstSize + 4 = 2 + (dstSize + (1 + 1)) by omega, window_add, window_add, first, address,
    rest, Hdlc.Frame.header, length]
  show _ = _ ++ ((meterAddressOf dstSize logical phyAdd).bytes ++ _)
  rw [bytes_meterAddressOf]
  rfl

end Header

/-! ## A frame in `TX` -/

/-- `TX[0..TX_Count)` is the frame. -/
structure Buffer.Sends (b : Buffer) (f : Hdlc.Frame) : Prop where
  inside : b.txCount.toNat ≤ 2048
  short : f.length ≤ 2047
  count : b.txCount.toNat = f.bytes.length
  bytes : window b.tx.get 0 b.txCount.toNat = f.bytes

theorem sends_copyTx {hdlc : Buffer} {f : Hdlc.Frame} {n len copied : Nat} {mac : Bytes n}
    (inside : len ≤ 2048) (covered : len ≤ copied) (short : f.length ≤ 2047)
    (filled : window mac.get 0 len = f.bytes) :
    ({ hdlc.copyTx mac.get copied with txCount := UInt32.ofNat len } : Buffer).Sends f := by
  have count : (UInt32.ofNat len).toNat = len := by
    rw [UInt32.toNat_ofNat', Nat.mod_eq_of_lt (by omega)]
  refine ⟨count.symm ▸ inside, short, ?_, ?_⟩
  · dsimp only
    rw [count, ← filled, length_window]
  · dsimp only
    rw [count, ← filled]
    apply window_congr
    intro k bound
    rw [Buffer.get_tx_copyTx _ _ _ (by omega), if_pos (by omega)]

section Information
variable (mac : Bytes 2048) (dstSize n : Nat) (src : Nat → UInt8)

theorem get_information_before {i : Nat} (before : i < dstSize + 7) :
    ((((mac.set (dstSize + 2 + 5) 0xE6).set (dstSize + 2 + 6) 0xE6).set (dstSize + 2 + 7) 0).storeEach
      (fun k => dstSize + 2 + 8 + k) src n).get i = mac.get i := by
  rw [Bytes.get_storeEach_outside _ _ _ _ _ (by intro k _; omega)]
  iterate 3 rw [Bytes.get_set_ne _ _ (by omega)]

theorem window_information (fits : dstSize + 10 + n ≤ 2048) :
    window ((((mac.set (dstSize + 2 + 5) 0xE6).set (dstSize + 2 + 6) 0xE6).set (dstSize + 2 + 7)
      0).storeEach (fun k => dstSize + 2 + 8 + k) src n).get (dstSize + 7) (3 + n) =
      [0xE6, 0xE6, 0x00] ++ window src 0 n := by
  rw [window_add]
  refine congrArg₂ (· ++ ·) ((window_eq_iff _ [0xE6, 0xE6, 0x00] _).mpr ?_) (window_congr _ _ ?_)
  · intro k bound
    have early : k = 0 ∨ k = 1 ∨ k = 2 := by
      have : k < 3 := bound
      omega
    rw [Bytes.get_storeEach_outside _ _ _ _ _ (by intro i _; omega), Bytes.get_set,
      Bytes.get_set, Bytes.get_set]
    rcases early with rfl | rfl | rfl
    · rw [if_neg (by omega), if_neg (by omega), if_pos (by omega)]
      rfl
    · rw [if_neg (by omega), if_pos (by omega)]
      rfl
    · rw [if_pos (by omega)]
      rfl
  · intro k bound
    rw [Bytes.storeEach_consecutive, Nat.zero_add,
      show dstSize + 7 + 3 + k = dstSize + 2 + 8 + k by omega]
    exact Bytes.get_copy_inside _ _ _ bound (by omega)

end Information

/-! ## The frames of the generators -/

section Generators
variable {gw : Buffer} (hdlc : Buffer) {dstSize : Nat} {phyAdd : UInt16}

theorem get_putDstAddress_other {n : Nat} (mac : Bytes n) (logical : UInt16)
    (sizes : dstSize = 2 ∨ dstSize = 4) {i : Nat} (outside : i < 3 ∨ dstSize + 3 ≤ i) :
    (putDstAddress mac dstSize (spreadAddress logical) (spreadAddress phyAdd ||| 0x1)).get i =
      mac.get i := by
  unfold putDstAddress
  rcases sizes with rfl | rfl
  · rw [if_neg (by decide), Bytes.get_set_ne _ _ (by omega), Bytes.get_set_ne _ _ (by omega)]
  · rw [if_pos rfl]
    iterate 4 rw [Bytes.get_set_ne _ _ (by omega)]

theorem controlFrame_sends (accepted : gw.dstSizeAndPhyAdd = some (dstSize, phyAdd))
    (logical : UInt16) (control : UInt8) :
    ∃ b, controlFrame gw hdlc logical control = some b ∧
      b.Sends (gw.frameWith dstSize logical phyAdd control []) := by
  have sizes := dstSize_cases accepted
  have length : (gw.frameWith dstSize logical phyAdd control []).length = _ :=
    length_frameWith sizes
  rw [if_pos rfl] at length
  have body : (gw.frameWith dstSize logical phyAdd control []).body =
      (gw.frameWith dstSize logical phyAdd control []).header := if_pos rfl
  unfold controlFrame
  rw [accepted]
  refine ⟨_, rfl, sends_copyTx (by omega) (by omega) (by omega) ?_⟩
  rw [Hdlc.Frame.bytes, body]
  refine window_closed (k := dstSize + 4) (by omega) ?_ ?_ (window_header (8 + dstSize)
    (by omega) (by omega) ⟨?_, ?_⟩ ?_ ?_ ?_)
  · rw [Bytes.get_set_ne _ _ (by omega), Bytes.get_set_ne _ _ (by omega),
      get_putDstAddress_other _ _ sizes (by omega), Bytes.get_set_ne _ _ (by omega),
      Bytes.get_set_ne _ _ (by omega), Bytes.get_set_ne _ _ (by omega),
      Bytes.get_set_self _ _ (by omega)]
  · rw [Bytes.get_set_ne _ _ (by omega), Bytes.get_set_ne _ _ (by omega),
      get_putDstAddress_other _ _ sizes (by omega), Bytes.get_set_ne _ _ (by omega),
      Bytes.get_set_ne _ _ (by omega), show dstSize + 4 + 3 = 8 + dstSize - 1 by omega,
      Bytes.get_set_self _ _ (by omega)]
  · rw [Bytes.get_set_ne _ _ (by omega), Bytes.get_set_ne _ _ (by omega),
      get_putDstAddress_other _ _ sizes (by omega), Bytes.get_set_ne _ _ (by omega),
      Bytes.get_set_self _ _ (by omega)]
  · rw [Bytes.get_set_ne _ _ (by omega), Bytes.get_set_ne _ _ (by omega),
      get_putDstAddress_other _ _ sizes (by omega), Bytes.get_set_self _ _ (by omega)]
  · rw [← window_putDstAddress _ logical phyAdd sizes (n := 8 + dstSize) (by omega)]
    apply window_congr
    intro k bound
    rw [Bytes.get_set_ne _ _ (by omega), Bytes.get_set_ne _ _ (by omega)]
  · rw [Bytes.get_set_ne _ _ (by omega)]
    exact Bytes.get_set_self _ _ (by omega)
  · exact Bytes.get_set_self _ _ (by omega)

def Buffer.llcAndApdu (gw : Buffer) : List UInt8 :=
  [0xE6, 0xE6, 0x00] ++
    window gw.rxByte (11 + gw.addLen.toNat) (gw.rxCount.toNat - (11 + gw.addLen.toNat))

/-- The local array before the check sequences are stored. -/
theorem frameConvertor_fills (ctrl : CtrlByteStr)
    (accepted : gw.dstSizeAndPhyAdd = some (dstSize, phyAdd))
    (low : gw.logicalAddress ≤ 16383)
    (fits : dstSize + 10 + gw.llcAndApdu.length ≤ 2048) :
    ∃ mac : Bytes 2048, gw2HdlcFrameConvertor gw hdlc ctrl =
        (1, { hdlc.copyTx (storeCheck (storeCheck mac (dstSize + 4))
            (dstSize + 6 + gw.llcAndApdu.length)).get 2048 with
              txCount := UInt32.ofNat (dstSize + 10 + gw.llcAndApdu.length) },
          { ctrl with sss := nextNumber ctrl.sss }) ∧
      mac.get 0 = 0x7E ∧ mac.get (dstSize + 9 + gw.llcAndApdu.length) = 0x7E ∧
      window mac.get 1 (dstSize + 4) =
        (gw.frameWith dstSize gw.logicalAddress phyAdd ctrl.ctrlByte gw.llcAndApdu).header ∧
      window mac.get (dstSize + 7) gw.llcAndApdu.length = gw.llcAndApdu := by
  have sizes := dstSize_cases accepted
  have size : gw.llcAndApdu.length = 3 + (gw.rxCount.toNat - (11 + gw.addLen.toNat)) := by
    simp [Buffer.llcAndApdu]
    omega
  have length : (gw.frameWith dstSize gw.logicalAddress phyAdd ctrl.ctrlByte
      gw.llcAndApdu).length = _ := length_frameWith sizes
  rw [if_neg (by simp [Buffer.llcAndApdu])] at length
  unfold gw2HdlcFrameConvertor
  rw [accepted]
  dsimp only
  rw [if_neg (UInt16.not_lt.mpr low)]
  generalize apdu : gw.rxCount.toNat - (11 + gw.addLen.toNat) = n at size
  rw [size] at fits length ⊢
  rw [show dstSize + 2 + 8 + n - 1 = dstSize + 6 + (3 + n) by omega,
    show 10 + dstSize + n + 3 = dstSize + 10 + (3 + n) by omega]
  refine ⟨_, rfl, ?_, ?_, window_header (dstSize + 10 + (3 + n)) (by omega) (by omega)
    ⟨?_, ?_⟩ ?_ ?_ ?_, ?_⟩
  · iterate 3 rw [Bytes.get_set_ne _ _ (by omega)]
    rw [get_information_before _ _ _ _ (by omega)]
    iterate 2 rw [Bytes.get_set_ne _ _ (by omega)]
    rw [get_putDstAddress_other _ _ sizes (by omega), Bytes.get_set_self _ _ (by omega)]
  · iterate 2 rw [Bytes.get_set_ne _ _ (by omega)]
    rw [show dstSize + 9 + (3 + n) = dstSize + 10 + (3 + n) - 1 by omega,
      Bytes.get_set_self _ _ (by omega)]
  · rw [Bytes.get_set_ne _ _ (by omega), Bytes.get_set_self _ _ (by omega)]
  · exact Bytes.get_set_self _ _ (by omega)
  · rw [← window_putDstAddress _ gw.logicalAddress phyAdd sizes (n := 2048) (by omega)]
    apply window_congr
    intro k bound
    iterate 3 rw [Bytes.get_set_ne _ _ (by omega)]
    rw [get_information_before _ _ _ _ (by omega)]
    iterate 2 rw [Bytes.get_set_ne _ _ (by omega)]
  · iterate 3 rw [Bytes.get_set_ne _ _ (by omega)]
    rw [get_information_before _ _ _ _ (by omega), Bytes.get_set_ne _ _ (by omega)]
    exact Bytes.get_set_self _ _ (by omega)
  · iterate 3 rw [Bytes.get_set_ne _ _ (by omega)]
    rw [get_information_before _ _ _ _ (by omega)]
    exact Bytes.get_set_self _ _ (by omega)
  · have carried : gw.llcAndApdu = [0xE6, 0xE6, 0x00] ++
        window (fun k => gw.rxByte (11 + gw.addLen.toNat + k)) 0 n := by
      rw [Buffer.llcAndApdu, apdu]
      congr 1
      apply window_congr
      intro k _
      rw [Nat.zero_add]
    rw [carried, ← window_information _ dstSize n _ (by omega)]
    apply window_congr
    intro k bound
    iterate 3 rw [Bytes.get_set_ne _ _ (by omega)]

/-- The count is right even where the frame outgrows its arrays. -/
theorem txCount_frameConvertor (ctrl : CtrlByteStr) (form : gw.addLen = 1 ∨ gw.addLen = 2)
    (taken : gw.rxCount.toNat ≤ 2048) (low : gw.logicalAddress ≤ 16383) :
    (gw2HdlcFrameConvertor gw hdlc ctrl).2.1.txCount.toNat =
      13 + 2 * gw.addLen.toNat + (gw.rxCount.toNat - (11 + gw.addLen.toNat)) := by
  obtain ⟨phyAdd, accepted⟩ := accepted_of_form form
  have short := dstSize_cases accepted
  unfold gw2HdlcFrameConvertor
  rw [accepted]
  dsimp only
  rw [if_neg (UInt16.not_lt.mpr low)]
  dsimp only
  rw [UInt32.toNat_ofNat', Nat.mod_eq_of_lt (by omega)]
  omega

theorem frameConvertor_sends (ctrl : CtrlByteStr)
    (accepted : gw.dstSizeAndPhyAdd = some (dstSize, phyAdd))
    (low : gw.logicalAddress ≤ 16383)
    (fits : dstSize + 10 + gw.llcAndApdu.length ≤ 2048) :
    (gw2HdlcFrameConvertor gw hdlc ctrl).1 = 1 ∧
      (gw2HdlcFrameConvertor gw hdlc ctrl).2.1.Sends
        (gw.frameWith dstSize gw.logicalAddress phyAdd ctrl.ctrlByte gw.llcAndApdu) := by
  obtain ⟨mac, result, start, stop, header, information⟩ :=
    frameConvertor_fills hdlc ctrl accepted low fits
  generalize carried : gw.frameWith dstSize gw.logicalAddress phyAdd ctrl.ctrlByte gw.llcAndApdu = f
    at header
  have payload : gw.llcAndApdu ≠ [] := by simp [Buffer.llcAndApdu]
  have length : f.length = dstSize + 6 + (gw.llcAndApdu.length + 2) := by
    rw [← carried, length_frameWith (dstSize_cases accepted), if_neg payload]
  have body : f.body = f.header ++ (Hdlc.checkSequence f.header ++ gw.llcAndApdu) := by
    rw [Hdlc.Frame.body, ← carried]
    exact if_neg payload
  have filled : window (storeCheck mac (dstSize + 4)).get 1
      (dstSize + 6 + gw.llcAndApdu.length) = f.body := by
    have first : window (storeCheck mac (dstSize + 4)).get 1 (dstSize + 4) = f.header := by
      rw [window_storeCheck_other (by omega), header]
    have check : window (storeCheck mac (dstSize + 4)).get (dstSize + 4 + 1) 2 =
        Hdlc.checkSequence f.header := by
      rw [window_storeCheck (by omega), header]
    have rest : window (storeCheck mac (dstSize + 4)).get (dstSize + 7) gw.llcAndApdu.length =
        gw.llcAndApdu := by
      rw [window_storeCheck_other (by omega), information]
    rw [show dstSize + 6 + gw.llcAndApdu.length = dstSize + 4 + (2 + gw.llcAndApdu.length) by omega,
      window_add, first, show 1 + (dstSize + 4) = dstSize + 4 + 1 by omega, window_add, check,
      show dstSize + 4 + 1 + 2 = dstSize + 7 by omega, rest, body]
  have whole : window (storeCheck (storeCheck mac (dstSize + 4))
      (dstSize + 6 + gw.llcAndApdu.length)).get 0 (dstSize + 10 + gw.llcAndApdu.length) =
      f.bytes := by
    rw [Hdlc.Frame.bytes,
      show dstSize + 10 + gw.llcAndApdu.length = dstSize + 6 + gw.llcAndApdu.length + 4 by omega]
    refine window_closed (by omega) ?_ ?_ filled
    · rw [get_storeCheck_other (by omega), start]
    · rw [get_storeCheck_other (by omega), ← stop]
      congr 1
      omega
  rw [result]
  exact ⟨rfl, sends_copyTx fits fits (by omega) whole⟩

end Generators

/-! ## Frames with and without information -/

structure Buffer.InformationFrame (gw : Buffer) (control : UInt8) (f : Hdlc.Frame) : Prop where
  destination : f.destination.bytes = gw.meterAddressField
  destinationSize : f.destination.bytes.length = 2 * gw.addLen.toNat
  source : f.source.bytes = [gw.sourceAddress]
  control : f.control = control
  information : f.information = gw.llcAndApdu

structure Buffer.ControlFrame (gw : Buffer) (control : UInt8) (f : Hdlc.Frame) : Prop where
  size : f.bytes.length = 8 + 2 * gw.addLen.toNat
  destinationSize : f.destination.bytes.length = 2 * gw.addLen.toNat
  source : f.source.bytes = [gw.sourceAddress]
  control : f.control = control
  information : f.information = []

/-- `MAC_frame` and `TX` hold 2048 bytes, so the frame for a request of full size does not fit. -/
theorem information_frame_iff (gw hdlc : Buffer) (ctrl : CtrlByteStr)
    (taken : gw.rxCount.toNat ≤ 2048) (form : gw.addLen = 1 ∨ gw.addLen = 2)
    (whole : 11 + gw.addLen.toNat ≤ gw.rxCount.toNat) (low : gw.logicalAddress ≤ 16383) :
    ((gw2HdlcFrameConvertor gw hdlc ctrl).1 = 1 ∧
      ∃ f, (gw2HdlcFrameConvertor gw hdlc ctrl).2.1.Sends f ∧
        gw.InformationFrame ctrl.ctrlByte f) ↔
      gw.rxCount.toNat + gw.addLen.toNat + 2 ≤ 2048 := by
  constructor
  · rintro ⟨-, f, sends, -⟩
    have count := txCount_frameConvertor hdlc ctrl form taken low
    have inside := sends.inside
    omega
  · intro fits
    obtain ⟨phyAdd, accepted⟩ := accepted_of_form form
    have size : gw.llcAndApdu.length = 3 + (gw.rxCount.toNat - (11 + gw.addLen.toNat)) := by
      simp [Buffer.llcAndApdu]
      omega
    obtain ⟨returned, sends⟩ := frameConvertor_sends hdlc ctrl accepted low (by omega)
    refine ⟨returned, _, sends, ?_, ?_, rfl, rfl, rfl⟩
    · rw [Buffer.meterAddressField, accepted]
      exact bytes_meterAddressOf _ _ _
    · exact (congrArg _ (bytes_meterAddressOf _ _ _)).trans
        (length_addressField (dstSize_cases accepted) _ _)

/-- A gateway prefix for the meter 16 behind logical device 1, and zeros up to the given count. -/
def Buffer.paddedRequest (count : UInt32) : Buffer :=
  { Buffer.empty.receive [0, 1, 0, 1, 0, 1, 0, 4, 0xE6, 0, 1, 16] with rxCount := count }

theorem short_request_framed :
    (gw2HdlcFrameConvertor (.paddedRequest 13) .empty ⟨0, 0, 0x10⟩).1 = 1 ∧
      ∃ f, (gw2HdlcFrameConvertor (.paddedRequest 13) .empty ⟨0, 0, 0x10⟩).2.1.Sends f ∧
        (Buffer.paddedRequest 13).InformationFrame 0x10 f :=
  (information_frame_iff _ _ _ (by decide) (by decide) (by decide) (by decide)).mpr (by decide)

theorem full_request_not_framed :
    ¬ ∀ (gw hdlc : Buffer) (ctrl : CtrlByteStr), gw.rxCount.toNat ≤ 2048 →
      (gw.addLen = 1 ∨ gw.addLen = 2) → 11 + gw.addLen.toNat ≤ gw.rxCount.toNat →
      gw.logicalAddress ≤ 16383 → (gw2HdlcFrameConvertor gw hdlc ctrl).1 = 1 ∧
        ∃ f, (gw2HdlcFrameConvertor gw hdlc ctrl).2.1.Sends f ∧
          gw.InformationFrame ctrl.ctrlByte f := by
  intro framed
  obtain ⟨-, f, sends, -⟩ := framed (.paddedRequest 2048) .empty ⟨0, 0, 0x10⟩ (by decide)
    (by decide) (by decide) (by decide)
  have count : (gw2HdlcFrameConvertor (.paddedRequest 2048) .empty ⟨0, 0, 0x10⟩).2.1.txCount.toNat =
      _ := txCount_frameConvertor .empty ⟨0, 0, 0x10⟩ (by decide) (by decide) (by decide)
  have inside := sends.inside
  rw [count] at inside
  exact absurd inside (by decide)

theorem controlFrame_framed {gw : Buffer} (hdlc : Buffer) (form : gw.addLen = 1 ∨ gw.addLen = 2)
    (logical : UInt16) (control : UInt8) :
    ∃ b f, controlFrame gw hdlc logical control = some b ∧ b.Sends f ∧
      gw.ControlFrame control f := by
  obtain ⟨phyAdd, accepted⟩ := accepted_of_form form
  have sizes := dstSize_cases accepted
  obtain ⟨b, framed, sends⟩ := controlFrame_sends hdlc accepted logical control
  refine ⟨b, _, framed, sends, ?_, ?_, rfl, rfl, rfl⟩
  · rw [Hdlc.Frame.length_bytes, length_frameWith sizes, if_pos rfl]
    omega
  · exact (congrArg _ (bytes_meterAddressOf _ _ _)).trans (length_addressField sizes _ _)

theorem control_frames_sent (gw hdlc : Buffer) (c : UInt8) :
    (gw.addLen = 1 ∨ gw.addLen = 2 →
      ((gw2HdlcSnrmGenerator gw hdlc).1 = 1 ∧
        ∃ f, (gw2HdlcSnrmGenerator gw hdlc).2.Sends f ∧ gw.ControlFrame 0x93 f) ∧
      ((gw2HdlcPollForRemainedData gw hdlc c).1 = 1 ∧
        ∃ f, (gw2HdlcPollForRemainedData gw hdlc c).2.Sends f ∧ gw.ControlFrame c f) ∧
      ((gw2HdlcDiscGenerator gw hdlc).1 = 1 ∧
        ∃ f, (gw2HdlcDiscGenerator gw hdlc).2.Sends f ∧ gw.ControlFrame 0x53 f)) ∧
    (¬ (gw.addLen = 1 ∨ gw.addLen = 2) →
      ((gw2HdlcSnrmGenerator gw hdlc).1 ≠ 1 ∧ (gw2HdlcSnrmGenerator gw hdlc).2 = hdlc) ∧
      ((gw2HdlcPollForRemainedData gw hdlc c).1 ≠ 1 ∧
        (gw2HdlcPollForRemainedData gw hdlc c).2 = hdlc) ∧
      ((gw2HdlcDiscGenerator gw hdlc).1 ≠ 1 ∧ (gw2HdlcDiscGenerator gw hdlc).2 = hdlc)) := by
  constructor
  · intro form
    refine ⟨?_, ?_, ?_⟩
    · obtain ⟨b, f, framed, sends, carried⟩ := controlFrame_framed hdlc form gw.logicalAddress 0x93
      rw [gw2HdlcSnrmGenerator, framed]
      exact ⟨rfl, f, sends, carried⟩
    · obtain ⟨b, f, framed, sends, carried⟩ := controlFrame_framed hdlc form gw.logicalAddress c
      rw [gw2HdlcPollForRemainedData, framed]
      exact ⟨rfl, f, sends, carried⟩
    · obtain ⟨b, f, framed, sends, carried⟩ :=
        controlFrame_framed hdlc form (loByte gw.logicalAddress).toUInt16 0x53
      rw [gw2HdlcDiscGenerator, framed]
      exact ⟨rfl, f, sends, carried⟩
  · intro other
    have rejected : gw.dstSizeAndPhyAdd = none := by
      rw [Buffer.dstSizeAndPhyAdd, if_neg fun one => other (.inl one),
        if_neg fun two => other (.inr two)]
    simp only [gw2HdlcSnrmGenerator, gw2HdlcPollForRemainedData, gw2HdlcDiscGenerator,
      controlFrame, rejected]
    decide

end DlmsGateway
