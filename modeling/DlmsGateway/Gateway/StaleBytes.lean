import Mathlib.Data.List.Find
import DlmsGateway.Gateway.Reassembly

/-!
# What the converter reads past the received bytes

`Meter2GW_Frame_Convertor` takes the size of the frame from its length field
and looks at no byte behind it.  It does not compare that size with `RX_Count`:
where it is larger, at least the end flag is one of the bytes that an earlier
reply has left in `RX`.
-/
set_option autoImplicit false
namespace DlmsGateway

open ByteStore

/-! ## Bytes behind the frame -/

section Same
variable {rx rx' : Nat → UInt8}

theorem recDataSize_congr (first : rx' 1 = rx 1) (second : rx' 2 = rx 2) :
    recDataSize rx' = recDataSize rx := by
  rw [recDataSize, recDataSize, first, second]

theorem endOfAddress_congr {size : Nat} (start : Nat) (same : ∀ i, i < size → rx' i = rx i) :
    endOfAddress rx' start size = endOfAddress rx start size := by
  apply List.find?_congr
  intro i member
  rw [List.mem_range'_1] at member
  rw [same i (by omega)]

theorem meterAddress_congr {size i : Nat} (lastByte : Nat) (inside : i < size)
    (same : ∀ i, i < size → rx' i = rx i) :
    meterAddress rx' lastByte i = meterAddress rx lastByte i := by
  unfold meterAddress
  rw [same i inside, same (i - 1) (by omega), same (i - 2) (by omega), same (i - 3) (by omega)]

theorem locateMeterFrame_congr (size : recDataSize rx' = recDataSize rx)
    (same : ∀ i, i < recDataSize rx → rx' i = rx i) :
    locateMeterFrame rx' = locateMeterFrame rx := by
  have positive : 2 ≤ recDataSize rx := by
    rw [recDataSize_mod]
    omega
  unfold locateMeterFrame
  dsimp only
  rw [size, same (recDataSize rx - 1) (by omega), endOfAddress_congr 3 same]
  generalize clientEnd : endOfAddress rx 3 (recDataSize rx) = dstEnd
  rw [endOfAddress_congr _ same]
  cases meterEnd : endOfAddress rx (dstEnd.getD 0 + 1) (recDataSize rx) with
  | none => rfl
  | some i =>
      have inside := (endOfAddress_bounds meterEnd).2
      dsimp only
      rw [meterAddress_congr _ inside same]
      cases dstEnd with
      | none => rfl
      | some j =>
          dsimp only
          rw [same j (endOfAddress_bounds clientEnd).2]

theorem hcsRight_congr {f : MeterFrame} {size : Nat} (inside : f.addEnd + 7 ≤ size)
    (same : ∀ i, i < size → rx' i = rx i) : f.HcsRight rx' ↔ f.HcsRight rx := by
  unfold MeterFrame.HcsRight
  rw [same _ (by omega), same _ (by omega),
    countCRC_congr (g := rx) (j := 1) fun k bound => same _ (by omega)]

theorem data_congr {f : MeterFrame} (same : ∀ i, i < f.size → rx' i = rx i) :
    f.data rx' = f.data rx := by
  apply window_congr
  intro k bound
  apply same
  rw [MeterFrame.dataLen] at bound
  omega

end Same

theorem convertor_congr {a b : Buffer} (gw : Buffer) (g : Globals) (ctrl : CtrlByteStr)
    (header : ∀ i, i < 3 → b.rxByte i = a.rxByte i)
    (same : ∀ i, i < recDataSize a.rxByte → b.rxByte i = a.rxByte i) :
    meter2GwFrameConvertor b gw g ctrl = meter2GwFrameConvertor a gw g ctrl := by
  have size := recDataSize_congr (header 1 (by decide)) (header 2 (by decide))
  unfold meter2GwFrameConvertor
  rw [header 0 (by decide), header 1 (by decide), locateMeterFrame_congr size same]
  cases located : locateMeterFrame a.rxByte with
  | error code => rfl
  | ok f =>
      obtain ⟨-, -, inside, whole⟩ := located_cases located
      dsimp only
      simp only [hcsRight_congr inside same]
      rw [deliver_congr _ _ _ (data_congr fun i bound => same i (whole ▸ bound))]

/-! ## Two receive buffers -/

structure Buffer.SameReceived (a b : Buffer) : Prop where
  rxCount : b.rxCount = a.rxCount
  bytes : ∀ i, i < a.rxCount.toNat → b.rxByte i = a.rxByte i

theorem Buffer.sameReceived_self (b : Buffer) : b.SameReceived b := ⟨rfl, fun _ _ => rfl⟩

/-- The same return value, the same frame handed over and the same state of the reassembly. -/
structure Conversion.SameOutcome (c d : Conversion) : Prop where
  ret : d.ret = c.ret
  txCount : d.gw.txCount = c.gw.txCount
  outgoing : d.gw.outgoing = c.gw.outgoing
  segmentBit : d.globals.segmentBit = c.globals.segmentBit
  bufferData : d.globals.bufferData = c.globals.bufferData
  lastByteBuffer : d.globals.lastByteBuffer = c.globals.lastByteBuffer

/-- What was not received has no influence on the conversion. -/
def Buffer.StaleBytesUnused (hdlc gw : Buffer) (g : Globals) (ctrl : CtrlByteStr) : Prop :=
  ∀ other : Buffer, hdlc.SameReceived other →
    Conversion.SameOutcome (meter2GwFrameConvertor hdlc gw g ctrl)
      (meter2GwFrameConvertor other gw g ctrl)

/-- The received bytes refuse the frame by its start flag or format type, or they contain all of
it. -/
def Buffer.ReceivedWhole (hdlc : Buffer) : Prop :=
  (0 < hdlc.rxCount.toNat ∧ hdlc.rxByte 0 ≠ 0x7E) ∨
    (1 < hdlc.rxCount.toNat ∧ hdlc.rxByte 1 &&& 0xF0 ≠ 0xA0) ∨
    (2 < hdlc.rxCount.toNat ∧ recDataSize hdlc.rxByte ≤ hdlc.rxCount.toNat)

instance (hdlc : Buffer) : Decidable hdlc.ReceivedWhole :=
  inferInstanceAs (Decidable (_ ∨ _ ∨ _))

section Received
variable {hdlc other gw : Buffer} {g : Globals} {ctrl : CtrlByteStr}

theorem convertor_of_receivedWhole (whole : hdlc.ReceivedWhole) (same : hdlc.SameReceived other) :
    meter2GwFrameConvertor other gw g ctrl = meter2GwFrameConvertor hdlc gw g ctrl := by
  rcases whole with ⟨received, start⟩ | ⟨received, format⟩ | ⟨received, size⟩
  · unfold meter2GwFrameConvertor
    rw [same.bytes 0 received, if_pos start, if_pos start]
  · unfold meter2GwFrameConvertor
    rw [same.bytes 0 (by omega), same.bytes 1 received, if_pos format, if_pos format]
  · exact convertor_congr gw g ctrl (fun i early => same.bytes i (by omega))
      fun i inside => same.bytes i (by omega)

/-! ## A byte behind the received ones -/

/-- The buffer with another byte at the index of `RX`, or behind `RX` in `TX_Count`. -/
def Buffer.withRxByte (b : Buffer) (i : Nat) (v : UInt8) : Buffer :=
  if i < 2048 then { b with rx := b.rx.set i v } else { b with txCount := UInt32.ofNat v.toNat }

theorem rxByte_withRxByte (b : Buffer) {i j : Nat} (v : UInt8) (bound : i ≤ 2048)
    (inside : j ≤ 2048) : (b.withRxByte i v).rxByte j = if j = i then v else b.rxByte j := by
  unfold Buffer.withRxByte
  by_cases early : i < 2048
  · rw [if_pos early]
    by_cases before : j < 2048
    · rw [Buffer.rxByte_of_lt _ before, Buffer.rxByte_of_lt _ before, Bytes.get_set]
      simp only [before, and_true]
    · obtain rfl : j = 2048 := by omega
      rw [if_neg (by omega)]
      rfl
  · obtain rfl : i = 2048 := by omega
    rw [if_neg early]
    by_cases before : j < 2048
    · rw [if_neg (by omega), Buffer.rxByte_of_lt _ before, Buffer.rxByte_of_lt _ before]
    · obtain rfl : j = 2048 := by omega
      have short := v.toNat_lt
      rw [if_pos rfl]
      apply UInt8.toNat_inj.mp
      show (UInt8.ofNat ((UInt32.ofNat v.toNat).toNat / 256 ^ 0)).toNat = v.toNat
      rw [pow_zero, Nat.div_one, UInt8.toNat_ofNat', UInt32.toNat_ofNat']
      omega

theorem sameReceived_withRxByte (same : hdlc.SameReceived other) {i : Nat} (v : UInt8)
    (behind : hdlc.rxCount.toNat ≤ i) (bound : i ≤ 2048) :
    hdlc.SameReceived (other.withRxByte i v) where
  rxCount := by
    rw [← same.rxCount, Buffer.withRxByte]
    split <;> rfl
  bytes j received := by
    rw [rxByte_withRxByte _ _ bound (by omega), if_neg (by omega), same.bytes j received]

theorem locateMeterFrame_error_of_end {rx : Nat → UInt8} {code : Int}
    (stop : rx (recDataSize rx - 1) = 0x7E) (failed : locateMeterFrame rx = .error code) :
    -7 < code := by
  unfold locateMeterFrame at failed
  dsimp only at failed
  rw [if_neg (not_not_intro stop)] at failed
  split at failed
  · cases failed
    decide
  split at failed
  · cases failed
    decide
  split at failed
  · cases failed
    decide
  · cases failed

/-! ## The first checks, each with its value -/

theorem ret_of_start_wrong (wrong : hdlc.rxByte 0 ≠ 0x7E) :
    (meter2GwFrameConvertor hdlc gw g ctrl).ret = -9 := by
  unfold meter2GwFrameConvertor
  rw [if_pos wrong]

theorem ret_of_format_wrong (start : hdlc.rxByte 0 = 0x7E)
    (wrong : hdlc.rxByte 1 &&& 0xF0 ≠ 0xA0) :
    (meter2GwFrameConvertor hdlc gw g ctrl).ret = -8 := by
  unfold meter2GwFrameConvertor
  rw [if_neg (not_not_intro start), if_pos wrong]

theorem ret_of_end_wrong (right : hdlc.FormatRight)
    (wrong : hdlc.rxByte (recDataSize hdlc.rxByte - 1) ≠ 0x7E) :
    (meter2GwFrameConvertor hdlc gw g ctrl).ret = -7 := by
  have located : locateMeterFrame hdlc.rxByte = .error (-7) := if_pos wrong
  rw [convertor_of_format_right hdlc gw g ctrl right, located]

theorem ret_of_end_right (right : hdlc.FormatRight)
    (stop : hdlc.rxByte (recDataSize hdlc.rxByte - 1) = 0x7E) :
    -7 < (meter2GwFrameConvertor hdlc gw g ctrl).ret := by
  rw [convertor_of_format_right hdlc gw g ctrl right]
  cases located : locateMeterFrame hdlc.rxByte with
  | error code => exact locateMeterFrame_error_of_end stop located
  | ok f =>
      have sign := (ret_deliver hdlc.rxByte f gw (g.classify (hdlc.rxByte 1)) ctrl).1
      dsimp only
      split
      · omega
      · exact Int.neg_lt_neg (by decide)

theorem ret_of_format_right (right : hdlc.FormatRight) :
    -8 < (meter2GwFrameConvertor hdlc gw g ctrl).ret := by
  by_cases stop : hdlc.rxByte (recDataSize hdlc.rxByte - 1) = 0x7E
  · have later : -7 < (meter2GwFrameConvertor hdlc gw g ctrl).ret := ret_of_end_right right stop
    omega
  · rw [ret_of_end_wrong right stop]
    decide

theorem ret_of_start (start : hdlc.rxByte 0 = 0x7E) :
    -9 < (meter2GwFrameConvertor hdlc gw g ctrl).ret := by
  by_cases format : hdlc.rxByte 1 &&& 0xF0 = 0xA0
  · have later : -8 < (meter2GwFrameConvertor hdlc gw g ctrl).ret :=
      ret_of_format_right ⟨start, format⟩
    omega
  · rw [ret_of_format_wrong start format]
    decide

/-! ## Stale bytes that matter -/

theorem ret_withRxByte (unused : hdlc.StaleBytesUnused gw g ctrl) (same : hdlc.SameReceived other)
    {i : Nat} (v : UInt8) (behind : hdlc.rxCount.toNat ≤ i) (bound : i ≤ 2048) :
    (meter2GwFrameConvertor (other.withRxByte i v) gw g ctrl).ret =
      (meter2GwFrameConvertor hdlc gw g ctrl).ret :=
  (unused _ (sameReceived_withRxByte same v behind bound)).ret

/-- The end flag is none of the received bytes. -/
theorem not_unused_of_size (same : hdlc.SameReceived other) (right : other.FormatRight)
    (long : 3 < recDataSize other.rxByte)
    (behind : hdlc.rxCount.toNat < recDataSize other.rxByte) :
    ¬ hdlc.StaleBytesUnused gw g ctrl := by
  intro unused
  have bound := recDataSize_le other.rxByte
  obtain ⟨last, size⟩ : ∃ last, recDataSize other.rxByte = last + 1 :=
    ⟨_, (Nat.sub_add_cancel (by omega)).symm⟩
  have ret (v : UInt8) := ret_withRxByte unused same v (i := last) (by omega) (by omega)
  have read (v : UInt8) {j : Nat} (inside : j ≤ 2048) :=
    rxByte_withRxByte other (i := last) v (by omega) inside
  have kept (v : UInt8) {j : Nat} (early : j < 3) :
      (other.withRxByte last v).rxByte j = other.rxByte j := by
    rw [read v (by omega), if_neg (by omega)]
  have stop (v : UInt8) : (other.withRxByte last v).rxByte
      (recDataSize (other.withRxByte last v).rxByte - 1) = v := by
    rw [recDataSize_congr (kept v (by decide)) (kept v (by decide)), size, Nat.add_sub_cancel,
      read v (by omega), if_pos rfl]
  have format (v : UInt8) : (other.withRxByte last v).FormatRight := by
    rw [Buffer.FormatRight, kept v (by decide), kept v (by decide)]
    exact right
  have wrong : (meter2GwFrameConvertor (other.withRxByte last 0) gw g ctrl).ret = -7 :=
    ret_of_end_wrong (format 0) (by rw [stop]; decide)
  have flagged : -7 < (meter2GwFrameConvertor (other.withRxByte last 0x7E) gw g ctrl).ret :=
    ret_of_end_right (format 0x7E) (stop 0x7E)
  rw [ret] at wrong flagged
  omega

theorem start_received (unused : hdlc.StaleBytesUnused gw g ctrl) : 0 < hdlc.rxCount.toNat := by
  by_contra nothing
  have ret (v : UInt8) := ret_withRxByte (i := 0) unused hdlc.sameReceived_self v (by omega)
    (by decide)
  have read (v : UInt8) : (hdlc.withRxByte 0 v).rxByte 0 = v := by
    rw [rxByte_withRxByte _ _ (by decide) (by decide), if_pos rfl]
  have wrong : (meter2GwFrameConvertor (hdlc.withRxByte 0 0) gw g ctrl).ret = -9 :=
    ret_of_start_wrong (by rw [read]; decide)
  have started : -9 < (meter2GwFrameConvertor (hdlc.withRxByte 0 0x7E) gw g ctrl).ret :=
    ret_of_start (read 0x7E)
  rw [ret] at wrong started
  omega

theorem format_received (unused : hdlc.StaleBytesUnused gw g ctrl) (start : hdlc.rxByte 0 = 0x7E) :
    1 < hdlc.rxCount.toNat := by
  by_contra short
  have ret (v : UInt8) := ret_withRxByte (i := 1) unused hdlc.sameReceived_self v (by omega)
    (by decide)
  have first (v : UInt8) : (hdlc.withRxByte 1 v).rxByte 0 = 0x7E := by
    rw [rxByte_withRxByte _ _ (by decide) (by decide), if_neg (by decide), start]
  have read (v : UInt8) : (hdlc.withRxByte 1 v).rxByte 1 = v := by
    rw [rxByte_withRxByte _ _ (by decide) (by decide), if_pos rfl]
  have wrong : (meter2GwFrameConvertor (hdlc.withRxByte 1 0) gw g ctrl).ret = -8 :=
    ret_of_format_wrong (first 0) (by rw [read]; decide)
  have framed : -8 < (meter2GwFrameConvertor (hdlc.withRxByte 1 0xA0) gw g ctrl).ret :=
    ret_of_format_right ⟨first 0xA0, by rw [read]; decide⟩
  rw [ret] at wrong framed
  omega

theorem length_received (unused : hdlc.StaleBytesUnused gw g ctrl) (right : hdlc.FormatRight) :
    2 < hdlc.rxCount.toNat := by
  by_contra short
  have same : hdlc.SameReceived (hdlc.withRxByte 2 5) :=
    sameReceived_withRxByte hdlc.sameReceived_self 5 (by omega) (by decide)
  have read {j : Nat} (inside : j ≤ 2048) :=
    rxByte_withRxByte hdlc (i := 2) 5 (by decide) inside
  have size : 7 ≤ recDataSize (hdlc.withRxByte 2 5).rxByte := by
    rw [recDataSize_mod, toNat_joinBytes, read (by decide), read (by decide), if_pos rfl,
      show UInt8.toNat 5 = 5 from rfl]
    omega
  have kept : (hdlc.withRxByte 2 5).FormatRight := by
    rw [Buffer.FormatRight, read (by decide), read (by decide), if_neg (by decide),
      if_neg (by decide)]
    exact right
  exact not_unused_of_size same kept (by omega) (by omega) unused

theorem receivedWhole_of_unused (unused : hdlc.StaleBytesUnused gw g ctrl) :
    hdlc.ReceivedWhole := by
  have first := start_received unused
  by_cases start : hdlc.rxByte 0 = 0x7E
  · have second := format_received unused start
    by_cases format : hdlc.rxByte 1 &&& 0xF0 = 0xA0
    · have third := length_received unused ⟨start, format⟩
      refine .inr (.inr ⟨third, ?_⟩)
      by_contra long
      exact not_unused_of_size hdlc.sameReceived_self ⟨start, format⟩ (by omega) (by omega) unused
    · exact .inr (.inl ⟨second, format⟩)
  · exact .inl ⟨first, start⟩

end Received

/-- The conversion depends on the received bytes alone if and only if these are enough for it. -/
theorem stale_bytes_unused_iff (hdlc gw : Buffer) (g : Globals) (ctrl : CtrlByteStr) :
    hdlc.StaleBytesUnused gw g ctrl ↔ hdlc.ReceivedWhole := by
  constructor
  · exact receivedWhole_of_unused
  · intro whole other same
    have outcome : meter2GwFrameConvertor other gw g ctrl = meter2GwFrameConvertor hdlc gw g ctrl :=
      convertor_of_receivedWhole whole same
    constructor <;> rw [outcome]

section Truncated

/-- The reply of an earlier exchange, and the first ten bytes of the next one. -/
def truncatedReply : Buffer :=
  { Buffer.empty.receive (meterLink.iFrame false 0x30 [0xE6, 0xE7, 0x00, 0xC4, 0x01]) with
    rxCount := 10 }

/-- The same ten bytes with nothing behind them. -/
def truncatedAlone : Buffer :=
  Buffer.empty.receive
    ((meterLink.iFrame false 0x30 [0xE6, 0xE7, 0x00, 0xC4, 0x01]).take 10)

/-- The earlier reply completes the truncated one. -/
theorem completed_from_stale_bytes :
    ¬ ∀ (hdlc gw : Buffer) (g : Globals) (ctrl : CtrlByteStr), hdlc.rxCount.toNat ≤ 2048 →
      hdlc.StaleBytesUnused gw g ctrl := by
  intro unused
  have same : truncatedReply.SameReceived truncatedAlone :=
    ⟨by decide +kernel, by decide +kernel⟩
  have ret := (unused truncatedReply .empty cleanConverter.globals cleanConverter.ctrl
    (by decide) truncatedAlone same).ret
  revert ret
  decide +kernel

end Truncated
end DlmsGateway
