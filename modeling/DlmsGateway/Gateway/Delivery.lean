import DlmsGateway.Gateway.Conversion

/-!
# What a delivery writes

The contents of `Buffer_Data_Meter2GW_Frame_Convertor` and of `TX` as lists of
bytes: `collected` is what the segments left so far, `outgoing` what a send of
`TX_Count` bytes from `TX` reads.  A single frame hands over its own data, a
last frame the collected data without its last three bytes.
-/
set_option autoImplicit false
namespace DlmsGateway

open ByteStore

/-- The bytes in `Buffer_Data_Meter2GW_Frame_Convertor`. -/
def Globals.collected (g : Globals) : List UInt8 :=
  window g.bufferData.get 0 g.lastByteBuffer.toNat

/-- Nothing of an earlier reply is left. -/
def Globals.Clean (g : Globals) : Prop := g.segmentBit ≠ .middleFrame ∧ g.lastByteBuffer = 0

instance (g : Globals) : Decidable g.Clean := inferInstanceAs (Decidable (_ ∧ _))

theorem collected_of_clean {g : Globals} (clean : g.Clean) : g.collected = [] := by
  rw [Globals.collected, clean.2]
  rfl

/-- The bytes the copy loop takes from the frame. -/
def MeterFrame.data (f : MeterFrame) (rx : Nat → UInt8) : List UInt8 :=
  window rx f.dataStart f.dataLen

/-- What `send(…, TX, TX_Count)` reads. -/
def Buffer.outgoing (b : Buffer) : List UInt8 := window b.byteAt 0 b.txCount.toNat

/-- The gateway prefix with the value `apduLen` in its length field. -/
def MeterFrame.gatewayPrefix (f : MeterFrame) (apduLen : UInt16) : List UInt8 :=
  [0, 1, hiByte f.logAdd, loByte f.logAdd, 0, f.dstAdd, hiByte apduLen, loByte apduLen, 0xE7, 0] ++
    if f.phyAdd < 256 then [1, loByte f.phyAdd] else [2, hiByte f.phyAdd, loByte f.phyAdd]

theorem length_gatewayPrefix (f : MeterFrame) (apduLen : UInt16) :
    (f.gatewayPrefix apduLen).length = f.prefixSize := by
  by_cases short : f.phyAdd < 256 <;>
    simp [MeterFrame.gatewayPrefix, MeterFrame.prefixSize, MeterFrame.addLen, short]

theorem prefixSize_le (f : MeterFrame) : 12 ≤ f.prefixSize ∧ f.prefixSize ≤ 13 := by
  by_cases short : f.phyAdd < 256 <;> simp [MeterFrame.prefixSize, MeterFrame.addLen, short]

theorem dataLen_eq (f : MeterFrame) : f.dataLen = f.apduLenReal - 3 := by
  simp only [MeterFrame.dataLen, MeterFrame.apduLenReal, MeterFrame.dataStart]
  omega

/-! ## Collecting -/

section Collect
variable (rx : Nat → UInt8) (f : MeterFrame) (g : Globals)

theorem toNat_lastByteBuffer_collect (room : g.lastByteBuffer.toNat + f.dataLen ≤ 8152) :
    (g.collect rx f).lastByteBuffer.toNat = g.lastByteBuffer.toNat + f.dataLen := by
  simp only [Globals.collect, UInt16.toNat_add, UInt16.toNat_ofNat']
  omega

theorem bufferData_collect (room : g.lastByteBuffer.toNat + f.dataLen ≤ 8152) :
    (g.collect rx f).bufferData =
      g.bufferData.copy g.lastByteBuffer.toNat (fun k => rx (f.dataStart + k)) f.dataLen := by
  rw [← Bytes.storeEach_consecutive]
  apply Bytes.storeEach_congr
  intro k bound
  refine ⟨?_, rfl⟩
  simp only [UInt16.toNat_add, UInt16.toNat_ofNat']
  omega

theorem collected_collect (room : g.lastByteBuffer.toNat + f.dataLen ≤ 8152) :
    (g.collect rx f).collected = g.collected ++ f.data rx := by
  rw [Globals.collected, toNat_lastByteBuffer_collect rx f g room, window_add,
    bufferData_collect rx f g room]
  congr 1
  · apply window_congr
    intro k bound
    exact Bytes.get_copy_outside _ _ _ _ (by omega)
  · apply window_congr
    intro k bound
    rw [Nat.zero_add]
    exact Bytes.get_copy_inside _ _ _ bound (by omega)

@[simp] theorem length_collected : g.collected.length = g.lastByteBuffer.toNat := by
  simp [Globals.collected]

@[simp] theorem length_data : (f.data rx).length = f.dataLen := by
  simp [MeterFrame.data]

end Collect

/-! ## The bytes of the gateway frame -/

section Prefix
variable (f : MeterFrame) (apduLen : UInt16)

theorem get_hesPrefix_length :
    (f.hesPrefix apduLen).get 6 = hiByte apduLen ∧ (f.hesPrefix apduLen).get 7 = loByte apduLen := by
  by_cases short : f.phyAdd < 256 <;> simp [MeterFrame.hesPrefix, short]

theorem get_hesPrefix_other (apduLen' : UInt16) {i : Nat} (other : i ≠ 6 ∧ i ≠ 7) :
    (f.hesPrefix apduLen).get i = (f.hesPrefix apduLen').get i := by
  by_cases short : f.phyAdd < 256 <;> simp [MeterFrame.hesPrefix, Bytes.get_set, short, other]

theorem window_hesPrefix :
    window (f.hesPrefix apduLen).get 0 f.prefixSize = f.gatewayPrefix apduLen := by
  by_cases short : f.phyAdd < 256
  · simp [window, List.range_succ, MeterFrame.gatewayPrefix, MeterFrame.prefixSize,
      MeterFrame.addLen, MeterFrame.hesPrefix, Bytes.get_set, short]
  · simp [window, List.range_succ, MeterFrame.gatewayPrefix, MeterFrame.prefixSize,
      MeterFrame.addLen, MeterFrame.hesPrefix, Bytes.get_set, short]

end Prefix

section Frames
variable (rx : Nat → UInt8) (f : MeterFrame)

theorem hesFrame_eq :
    f.hesFrame rx = (f.hesPrefix (UInt16.ofNat (f.apduLenReal + f.addLen))).copy f.prefixSize
      (fun k => rx (f.dataStart + k)) f.dataLen :=
  Bytes.storeEach_consecutive _ _ _ _

theorem get_hesFrame_prefix {i : Nat} (early : i < f.prefixSize) :
    (f.hesFrame rx).get i = (f.hesPrefix (UInt16.ofNat (f.apduLenReal + f.addLen))).get i := by
  rw [hesFrame_eq]
  exact Bytes.get_copy_outside _ _ _ _ (.inl early)

theorem window_hesFrame (room : f.prefixSize + f.dataLen ≤ 5000) :
    window (f.hesFrame rx).get 0 (f.prefixSize + f.dataLen) =
      f.gatewayPrefix (UInt16.ofNat (f.apduLenReal + f.addLen)) ++ f.data rx := by
  rw [window_add, ← window_hesPrefix, Nat.zero_add]
  congr 1
  · apply window_congr
    intro k bound
    rw [Nat.zero_add]
    exact get_hesFrame_prefix rx f bound
  · apply window_congr
    intro k bound
    rw [hesFrame_eq]
    exact Bytes.get_copy_inside _ _ _ bound (by omega)

theorem window_hesFrameForLast (g : Globals) (room : f.prefixSize + g.lastByteBuffer.toNat ≤ 5000) :
    window (f.hesFrameForLast rx g).get 0 (f.prefixSize + g.lastByteBuffer.toNat) =
      f.gatewayPrefix (UInt16.ofNat (f.prefixSize + g.lastByteBuffer.toNat - 8)) ++ g.collected := by
  have bounds := prefixSize_le f
  rw [window_add, ← window_hesPrefix, Nat.zero_add, MeterFrame.hesFrameForLast,
    Bytes.storeEach_consecutive]
  congr 1
  · apply window_congr
    intro k bound
    rw [Nat.zero_add]
    by_cases low : k = 7
    · rw [low, Bytes.get_set_self _ _ (by omega), (get_hesPrefix_length f _).2]
    rw [Bytes.get_set_ne _ _ low]
    by_cases high : k = 6
    · rw [high, Bytes.get_set_self _ _ (by omega), (get_hesPrefix_length f _).1]
    rw [Bytes.get_set_ne _ _ high, Bytes.get_copy_outside _ _ _ _ (.inl bound),
      get_hesFrame_prefix rx f bound]
    exact get_hesPrefix_other f _ _ ⟨high, low⟩
  · apply window_congr
    intro k bound
    rw [Bytes.get_set_ne _ _ (by omega), Bytes.get_set_ne _ _ (by omega),
      Bytes.get_copy_inside _ _ _ bound (by omega), Nat.zero_add]

end Frames

/-! ## The counts -/

section Counts
variable (rx : Nat → UInt8) (f : MeterFrame) (gw : Buffer) (g : Globals) (ctrl : CtrlByteStr)

theorem get_hesPrefix_past (apduLen : UInt16) {i : Nat} (past : 13 ≤ i) :
    (f.hesPrefix apduLen).get i = 0 := by
  have apart : ∀ k, k < 13 → i ≠ k := fun k bound => by omega
  by_cases short : f.phyAdd < 256 <;> simp [MeterFrame.hesPrefix, short, apart]

theorem get_hesFrame_past {i : Nat} (past : 4096 ≤ i) (short : f.dataLen ≤ 2049) :
    (f.hesFrame rx).get i = 0 := by
  have bounds := prefixSize_le f
  rw [hesFrame_eq, Bytes.get_copy_outside _ _ _ _ (by omega)]
  exact get_hesPrefix_past f _ (by omega)

theorem rxCount_copyTx_hesFrame (short : f.dataLen ≤ 2049) :
    (gw.copyTx (f.hesFrame rx).get 5000).rxCount = 0 :=
  Buffer.rxCount_copyTx_zero _ (by omega) fun _ _ => get_hesFrame_past rx f (by omega) short

theorem rxCount_deliver (short : f.dataLen ≤ 2049)
    (fits : g.segmentBit = .lastFrame →
      f.prefixSize + (g.lastByteBuffer + UInt16.ofNat f.dataLen).toNat ≤ 4103) :
    (deliver rx f gw g ctrl).gw.rxCount = 0 := by
  have cleared := rxCount_copyTx_hesFrame rx f gw short
  cases bit : g.segmentBit with
  | middleFrame => rw [deliver_middle _ _ _ _ _ bit, cleared]
  | singleFrame =>
      rw [deliver_single _ _ _ _ _ bit]
      exact cleared
  | lastFrame =>
      rw [deliver_last _ _ _ _ _ bit]
      have room := fits bit
      dsimp only
      rw [Buffer.rxCount_copyTx_of_le, cleared]
      show f.prefixSize + (g.lastByteBuffer + UInt16.ofNat f.dataLen).toNat - 3 ≤ 4100
      omega

end Counts

/-! ## What is handed over -/

theorem window_byteAt_copyTx (b : Buffer) (src : Nat → UInt8) (count : UInt32) {len copied : Nat}
    (short : len ≤ 4096) (covered : len ≤ copied) :
    window ({ b.copyTx src copied with txCount := count } : Buffer).byteAt 0 len =
      window src 0 len := by
  apply window_congr
  intro k bound
  rw [Nat.zero_add, Buffer.byteAt]
  split
  · have tx := Buffer.get_tx_copyTx b src copied (i := k) (by omega)
    rw [if_pos (by omega)] at tx
    exact tx
  · have rx := Buffer.get_rx_copyTx b src copied (i := k - 2048) (by omega)
    rw [if_pos (by omega), show 2048 + (k - 2048) = k by omega] at rx
    rw [if_pos (by omega)]
    exact rx

section Outgoing
variable (rx : Nat → UInt8) (f : MeterFrame) (gw : Buffer) (g : Globals) (ctrl : CtrlByteStr)

theorem outgoing_single (bit : g.segmentBit = .singleFrame)
    (room : f.prefixSize + f.apduLenReal ≤ 4099) :
    (deliver rx f gw g ctrl).gw.outgoing =
      (f.gatewayPrefix (UInt16.ofNat (f.apduLenReal + f.addLen)) ++ f.data rx).take
        (f.prefixSize + f.apduLenReal - 3) := by
  have count : (UInt32.ofNat (f.prefixSize + f.apduLenReal - 3)).toNat =
      f.prefixSize + f.apduLenReal - 3 := by
    rw [UInt32.toNat_ofNat', Nat.mod_eq_of_lt]
    omega
  have data := dataLen_eq f
  rw [deliver_single rx f gw g ctrl bit, Buffer.outgoing]
  dsimp only
  rw [count, window_byteAt_copyTx _ _ _ (by omega) (by omega), ← window_hesFrame rx f (by omega),
    window_take _ _ _ _ (by omega)]

/-- A last segment hands over the prefix and the collected bytes, three too few of them. -/
theorem outgoing_last (bit : g.segmentBit = .lastFrame)
    (room : f.prefixSize + (g.collect rx f).lastByteBuffer.toNat ≤ 4099) :
    (deliver rx f gw g ctrl).gw.outgoing =
      (f.gatewayPrefix
        (UInt16.ofNat (f.prefixSize + (g.collect rx f).lastByteBuffer.toNat - 8)) ++
          (g.collect rx f).collected).take
            (f.prefixSize + (g.collect rx f).lastByteBuffer.toNat - 3) := by
  rw [deliver_last rx f gw g ctrl bit]
  generalize g.collect rx f = h at room ⊢
  have count : (UInt32.ofNat (f.prefixSize + h.lastByteBuffer.toNat - 3)).toNat =
      f.prefixSize + h.lastByteBuffer.toNat - 3 := by
    rw [UInt32.toNat_ofNat', Nat.mod_eq_of_lt]
    omega
  simp only [Buffer.outgoing]
  rw [count, window_byteAt_copyTx _ _ _ (by omega) (Nat.le_refl _),
    ← window_hesFrameForLast rx f h (by omega), window_take _ _ _ _ (by omega)]

end Outgoing

theorem deliver_congr {rx rx' : Nat → UInt8} {f : MeterFrame} (gw : Buffer) (g : Globals)
    (ctrl : CtrlByteStr) (same : f.data rx = f.data rx') :
    deliver rx f gw g ctrl = deliver rx' f gw g ctrl := by
  have bytes : ∀ k, k < f.dataLen → rx (f.dataStart + k) = rx' (f.dataStart + k) := by
    intro k bound
    have left := getElem_window rx f.dataStart f.dataLen k (by simpa using bound)
    have right := getElem_window rx' f.dataStart f.dataLen k (by simpa using bound)
    rw [← left, ← right]
    exact List.getElem_of_eq same _
  have collect : ∀ g : Globals, g.collect rx f = g.collect rx' f := by
    intro g
    simp only [Globals.collect]
    rw [Bytes.storeEach_congr _ _ fun k bound => ⟨rfl, bytes k bound⟩]
  have hesFrame : f.hesFrame rx = f.hesFrame rx' :=
    Bytes.storeEach_congr _ _ fun k bound => ⟨rfl, bytes k bound⟩
  simp only [deliver, MeterFrame.hesFrameForLast, collect, hesFrame]

/-! ## The payload -/

/-- The bytes of a gateway frame behind its prefix, whose last part has the length in byte 10. -/
def gatewayPayload (frame : List UInt8) : List UInt8 := frame.drop (11 + (frame.getD 10 0).toNat)

theorem gatewayPayload_take (f : MeterFrame) (apduLen : UInt16) (data : List UInt8) (n : Nat) :
    gatewayPayload ((f.gatewayPrefix apduLen ++ data).take n) <+: data := by
  by_cases short : n ≤ 10
  · have empty : gatewayPayload ((f.gatewayPrefix apduLen ++ data).take n) = [] := by
      rw [gatewayPayload, List.drop_eq_nil_iff, List.length_take]
      omega
    rw [empty]
    exact List.nil_prefix
  · have addLen : ((f.gatewayPrefix apduLen ++ data).take n).getD 10 0 =
        UInt8.ofNat f.addLen := by
      rw [List.getD_eq_getElem?_getD, List.getElem?_take_of_lt (by omega)]
      by_cases phy : f.phyAdd < 256 <;>
        simp [MeterFrame.gatewayPrefix, MeterFrame.addLen, phy]
    have size : 11 + (UInt8.ofNat f.addLen).toNat = f.prefixSize := by
      by_cases phy : f.phyAdd < 256 <;>
        simp [MeterFrame.prefixSize, MeterFrame.addLen, phy]
    rw [gatewayPayload, addLen, size, ← length_gatewayPrefix f apduLen, List.drop_take,
      List.drop_left]
    exact List.take_prefix _ _

end DlmsGateway
