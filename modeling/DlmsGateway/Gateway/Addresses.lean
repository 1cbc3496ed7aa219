import DlmsGateway.Gateway.RequestBounds
import DlmsGateway.Gateway.SingleReply

/-!
# The addresses of a request

The address bytes carry seven bits each, so that a frame built for a request
names the logical device, the meter and the client modulo a power of 128.
Nothing checks the physical address or the client, and the logical address is
compared with the bound of the long form only.
-/
set_option autoImplicit false
namespace DlmsGateway

open ByteStore

/-! ## The numbers in the address bytes -/

theorem and_mask (x m k : Nat) : x &&& 2 ^ k * m = 2 ^ k * (x / 2 ^ k &&& m) := by
  have high : (x &&& 2 ^ k * m) / 2 ^ k = x / 2 ^ k &&& m := by
    rw [Nat.and_div_two_pow, Nat.mul_div_cancel_left _ (Nat.two_pow_pos k)]
  have low : (x &&& 2 ^ k * m) % 2 ^ k = 0 := by
    rw [Nat.and_mod_two_pow, Nat.mul_mod_right, Nat.and_zero]
  rw [← high, Nat.mul_div_cancel' (Nat.dvd_of_mod_eq_zero low)]

theorem toNat_spreadAddress (a : UInt16) :
    (spreadAddress a).toNat = 512 * (a.toNat / 128 % 128) + 2 * (a.toNat % 128) := by
  have high : (a <<< 2 &&& (0xFE00 : UInt16)).toNat = 512 * (a.toNat / 128 % 128) := by
    rw [UInt16.toNat_and, UInt16.toNat_shiftLeft, Nat.shiftLeft_eq]
    refine (and_mask _ 127 9).trans ?_
    rw [Nat.and_two_pow_sub_one_eq_mod _ 7]
    show 512 * (a.toNat * 4 % 65536 / 512 % 128) = _
    omega
  have low : (a <<< 1 &&& (0x00FE : UInt16)).toNat = 2 * (a.toNat % 128) := by
    rw [UInt16.toNat_and, UInt16.toNat_shiftLeft, Nat.shiftLeft_eq]
    refine (and_mask _ 127 1).trans ?_
    rw [Nat.and_two_pow_sub_one_eq_mod _ 7]
    show 2 * (a.toNat * 2 % 65536 / 2 % 128) = _
    omega
  have apart := Nat.two_pow_add_eq_or_of_lt (i := 9) (b := 2 * (a.toNat % 128)) (by omega)
    (a.toNat / 128 % 128)
  rw [spreadAddress, UInt16.toNat_or, high, low]
  exact apart.symm

theorem toNat_spreadAddress_or (a : UInt16) :
    (spreadAddress a ||| 0x1).toNat = 512 * (a.toNat / 128 % 128) + 2 * (a.toNat % 128) + 1 := by
  have even := toNat_spreadAddress a
  have odd := Nat.two_pow_add_eq_or_of_lt (i := 1) (b := 1) (by decide)
    ((spreadAddress a).toNat / 2)
  rw [UInt16.toNat_or, ← even]
  refine Eq.trans ?_ (odd.symm.trans ?_)
  · congr 1
    omega
  · omega

theorem halves_spreadAddress (a : UInt16) :
    ((hiByte (spreadAddress a)).toNat / 2 = a.toNat / 128 % 128 ∧
      (loByte (spreadAddress a)).toNat / 2 = a.toNat % 128) ∧
    ((hiByte (spreadAddress a ||| 0x1)).toNat / 2 = a.toNat / 128 % 128 ∧
      (loByte (spreadAddress a ||| 0x1)).toNat / 2 = a.toNat % 128) := by
  have even := toNat_spreadAddress a
  have odd := toNat_spreadAddress_or a
  rw [toNat_hiByte, toNat_loByte, toNat_hiByte, toNat_loByte]
  omega

/-! ## The client's byte -/

def Buffer.sentSource (b : Buffer) : UInt8 := b.tx.get (3 + b.sentAddress.length)

section Source
variable {gw hdlc b : Buffer}

theorem source_controlFrame {logical : UInt16} {control : UInt8}
    (framed : controlFrame gw hdlc logical control = some b) : b.sentSource = gw.sourceAddress := by
  obtain ⟨dstSize, phyAdd, accepted, address, -⟩ := controlFrame_sent framed
  have sizes := dstSize_cases accepted
  have place : 3 + b.sentAddress.length = dstSize + 2 + 1 := by
    rw [address, length_addressField sizes]
    omega
  simp only [controlFrame, accepted, Option.some.injEq] at framed
  rw [Buffer.sentSource, place, ← framed, Buffer.get_tx_copyTx _ _ _ (by omega),
    if_pos (by omega), Bytes.get_set_ne _ _ (by omega), Bytes.get_set_ne _ _ (by omega),
    Bytes.get_set_ne _ _ (by omega), Bytes.get_set_self _ _ (by omega)]

theorem source_frameConvertor {ctrl : CtrlByteStr}
    (accepted : (gw2HdlcFrameConvertor gw hdlc ctrl).1 = 1) :
    (gw2HdlcFrameConvertor gw hdlc ctrl).2.1.sentSource = gw.sourceAddress := by
  rcases frameConvertor_cases gw hdlc ctrl with
    ⟨ret, negative, outcome⟩ | ⟨framed, outcome, address, -⟩
  · rw [outcome] at accepted
    dsimp only at accepted
    omega
  · cases form : gw.dstSizeAndPhyAdd with
    | none =>
        simp only [gw2HdlcFrameConvertor, form] at accepted
        exact absurd accepted (by decide)
    | some pair =>
        obtain ⟨dstSize, phyAdd⟩ := pair
        have sizes := dstSize_cases form
        have place : 3 + framed.sentAddress.length = dstSize + 2 + 1 := by
          rw [address, Buffer.meterAddressField, form, length_addressField sizes]
          omega
        have made := outcome
        unfold gw2HdlcFrameConvertor at made
        rw [form] at made
        dsimp only at made
        split at made
        · simp at made
        · have same := congrArg (fun result => result.2.1) made
          rw [outcome, Buffer.sentSource, place, ← same]
          dsimp only
          rw [Buffer.get_tx_copyTx _ _ _ (by omega), if_pos (by omega)]
          iterate 7 rw [Bytes.get_set_ne _ _ (by omega)]
          rw [get_information_before _ _ _ _ (by omega), Bytes.get_set_ne _ _ (by omega)]
          exact Bytes.get_set_self _ _ (by omega)

end Source

/-! ## The generators agree -/

namespace Generator

def Succeeds (gw hdlc : Buffer) : Generator → Prop
  | snrm => (gw2HdlcSnrmGenerator gw hdlc).1 = 1
  | frameConvertor ctrl => (gw2HdlcFrameConvertor gw hdlc ctrl).1 = 1
  | poll control => (gw2HdlcPollForRemainedData gw hdlc control).1 = 1
  | disc => (gw2HdlcDiscGenerator gw hdlc).1 = 1

def logical (gw : Buffer) : Generator → UInt16
  | disc => (loByte gw.logicalAddress).toUInt16
  | _ => gw.logicalAddress

def Refuses (gw : Buffer) : Generator → Prop
  | frameConvertor _ => 16383 < gw.logicalAddress
  | _ => False

end Generator

section Generators
variable {gw : Buffer}

theorem not_succeeds_of_form (other : gw.dstSizeAndPhyAdd = none) (hdlc : Buffer) (g : Generator) :
    ¬ g.Succeeds gw hdlc := by
  cases g <;>
    simp [Generator.Succeeds, gw2HdlcSnrmGenerator, gw2HdlcFrameConvertor,
      gw2HdlcPollForRemainedData, gw2HdlcDiscGenerator, controlFrame, other]

theorem succeeds_iff {dstSize : Nat} {phyAdd : UInt16}
    (accepted : gw.dstSizeAndPhyAdd = some (dstSize, phyAdd)) (hdlc : Buffer) (g : Generator) :
    g.Succeeds gw hdlc ↔ ¬ g.Refuses gw := by
  cases g with
  | frameConvertor ctrl =>
      simp only [Generator.Succeeds, Generator.Refuses, gw2HdlcFrameConvertor, accepted]
      split <;> simp [*]
  | _ =>
      simp [Generator.Succeeds, Generator.Refuses, gw2HdlcSnrmGenerator,
        gw2HdlcPollForRemainedData, gw2HdlcDiscGenerator, controlFrame, accepted]

theorem addressed_controlFrame {dstSize : Nat} {phyAdd : UInt16}
    (accepted : gw.dstSizeAndPhyAdd = some (dstSize, phyAdd)) (hdlc : Buffer) (logical : UInt16)
    (control : UInt8) :
    ∃ b, controlFrame gw hdlc logical control = some b ∧
      b.sentAddress = addressField dstSize logical phyAdd ∧ b.sentSource = gw.sourceAddress := by
  obtain ⟨b, framed, -⟩ := controlFrame_sends hdlc accepted logical control
  obtain ⟨dstSize', phyAdd', same, address, -⟩ := controlFrame_sent framed
  rw [accepted] at same
  cases same
  exact ⟨b, framed, address, source_controlFrame framed⟩

theorem addressed_framed {dstSize : Nat} {phyAdd : UInt16} {hdlc : Buffer} {g : Generator}
    (accepted : gw.dstSizeAndPhyAdd = some (dstSize, phyAdd)) (succeeds : g.Succeeds gw hdlc) :
    (g.framed gw hdlc).sentAddress = addressField dstSize (g.logical gw) phyAdd ∧
      (g.framed gw hdlc).sentSource = gw.sourceAddress := by
  cases g with
  | frameConvertor ctrl =>
      refine ⟨?_, source_frameConvertor succeeds⟩
      rcases frameConvertor_cases gw hdlc ctrl with
        ⟨ret, negative, outcome⟩ | ⟨framed, outcome, address, -⟩
      · rw [Generator.Succeeds, outcome] at succeeds
        dsimp only at succeeds
        omega
      · rw [Generator.framed, outcome, address, Buffer.meterAddressField, accepted]
        rfl
  | snrm =>
      obtain ⟨b, framed, put⟩ := addressed_controlFrame accepted hdlc gw.logicalAddress 0x93
      rw [Generator.framed, gw2HdlcSnrmGenerator, framed]
      exact put
  | poll control =>
      obtain ⟨b, framed, put⟩ := addressed_controlFrame accepted hdlc gw.logicalAddress control
      rw [Generator.framed, gw2HdlcPollForRemainedData, framed]
      exact put
  | disc =>
      obtain ⟨b, framed, put⟩ :=
        addressed_controlFrame accepted hdlc (loByte gw.logicalAddress).toUInt16 0x53
      rw [Generator.framed, gw2HdlcDiscGenerator, framed]
      exact put

theorem addressField_eq_iff {logical logical' phyAdd : UInt16} {dstSize : Nat} :
    addressField dstSize logical phyAdd = addressField dstSize logical' phyAdd ↔
      if dstSize = 4 then logical.toNat % 16384 = logical'.toNat % 16384
      else logical.toNat % 128 = logical'.toNat % 128 := by
  have value := toNat_spreadAddress logical
  have value' := toNat_spreadAddress logical'
  have high := toNat_hiByte (spreadAddress logical)
  have high' := toNat_hiByte (spreadAddress logical')
  have low := toNat_loByte (spreadAddress logical)
  have low' := toNat_loByte (spreadAddress logical')
  unfold addressField
  by_cases long : dstSize = 4
  · simp only [long, if_true, List.cons.injEq, and_true, ← UInt8.toNat_inj]
    omega
  · simp only [long, if_false, List.cons.injEq, and_true, ← UInt8.toNat_inj]
    omega

end Generators

/-- All generators refuse the request, or they all put the same two addresses, whatever `TX` held
before. -/
def GeneratorsAgree (gw : Buffer) : Prop :=
  (∀ (g : Generator) (hdlc : Buffer), ¬ g.Succeeds gw hdlc) ∨
    ∃ address source, ∀ (g : Generator) (hdlc : Buffer), g.Succeeds gw hdlc ∧
      (g.framed gw hdlc).sentAddress = address ∧ (g.framed gw hdlc).sentSource = source

/-- The logical address is one that the I-frame can carry, and for the long form one that the
byte of the DISC generator can hold. -/
def Buffer.LogicalShort (gw : Buffer) : Prop :=
  (gw.addLen = 1 → gw.logicalAddress ≤ 16383) ∧ (gw.addLen = 2 → gw.logicalAddress < 256)

instance (gw : Buffer) : Decidable gw.LogicalShort := inferInstanceAs (Decidable (_ ∧ _))

section Agreement
variable {gw : Buffer} {dstSize : Nat} {phyAdd : UInt16}

theorem disc_addresses_iff (accepted : gw.dstSizeAndPhyAdd = some (dstSize, phyAdd))
    (low : gw.logicalAddress ≤ 16383) :
    addressField dstSize (Generator.disc.logical gw) phyAdd =
        addressField dstSize gw.logicalAddress phyAdd ↔
      (gw.addLen = 2 → gw.logicalAddress < 256) := by
  obtain ⟨size, form⟩ := dstSize_eq accepted
  have bound : gw.logicalAddress.toNat ≤ 16383 := low
  have byte : (Generator.disc.logical gw).toNat = gw.logicalAddress.toNat % 256 := by
    rw [Generator.logical, UInt8.toNat_toUInt16, toNat_loByte]
  have small : gw.logicalAddress < 256 ↔ gw.logicalAddress.toNat < 256 := UInt16.lt_iff_toNat_lt
  rw [addressField_eq_iff, byte, small]
  rcases form with one | two
  · have two_ : dstSize = 2 := by rw [size, one]; rfl
    rw [if_neg (by omega), one]
    simp
  · have four : dstSize = 4 := by rw [size, two]; rfl
    rw [if_pos four, two]
    simp only [forall_const]
    omega

theorem agree_of_short (accepted : gw.dstSizeAndPhyAdd = some (dstSize, phyAdd))
    (short : gw.LogicalShort) : GeneratorsAgree gw := by
  obtain ⟨-, form⟩ := dstSize_eq accepted
  have low : gw.logicalAddress ≤ 16383 := by
    rcases form with one | two
    · exact short.1 one
    · exact UInt16.le_trans (UInt16.le_of_lt (short.2 two)) (by decide)
  refine .inr ⟨addressField dstSize gw.logicalAddress phyAdd, gw.sourceAddress, ?_⟩
  intro g hdlc
  have succeeds : g.Succeeds gw hdlc := by
    rw [succeeds_iff accepted]
    cases g with
    | frameConvertor ctrl => exact UInt16.not_lt.mpr low
    | _ => exact id
  obtain ⟨address, source⟩ := addressed_framed accepted succeeds
  refine ⟨succeeds, address.trans ?_, source⟩
  cases g with
  | disc => exact (disc_addresses_iff accepted low).mpr short.2
  | _ => rfl

theorem short_of_agree (accepted : gw.dstSizeAndPhyAdd = some (dstSize, phyAdd))
    (agree : GeneratorsAgree gw) : gw.LogicalShort := by
  rcases agree with fail | ⟨address, source, agree⟩
  · exact absurd ((succeeds_iff accepted .empty .snrm).mpr id) (fail .snrm .empty)
  · have low : gw.logicalAddress ≤ 16383 := UInt16.not_lt.mp
      ((succeeds_iff accepted .empty (.frameConvertor ⟨0, 0, 0⟩)).mp (agree _ .empty).1)
    obtain ⟨disc, putDisc, -⟩ := agree .disc .empty
    obtain ⟨snrm, putSnrm, -⟩ := agree .snrm .empty
    have same : addressField dstSize (Generator.disc.logical gw) phyAdd =
        addressField dstSize gw.logicalAddress phyAdd := by
      rw [← (addressed_framed accepted disc).1, putDisc, ← putSnrm,
        (addressed_framed accepted snrm).1]
      rfl
    exact ⟨fun _ => low, (disc_addresses_iff accepted low).mp same⟩

end Agreement

theorem generators_agree_iff (gw : Buffer) : GeneratorsAgree gw ↔ gw.LogicalShort := by
  cases accepted : gw.dstSizeAndPhyAdd with
  | none =>
      have other : ¬ (gw.addLen = 1 ∨ gw.addLen = 2) := by
        intro form
        obtain ⟨phyAdd, some_⟩ := accepted_of_form form
        rw [accepted] at some_
        cases some_
      rw [not_or] at other
      exact ⟨fun _ => ⟨fun one => absurd one other.1, fun two => absurd two other.2⟩,
        fun _ => .inl fun g hdlc => not_succeeds_of_form accepted hdlc g⟩
  | some pair => exact ⟨short_of_agree accepted, agree_of_short accepted⟩

/-- A request in the long form for logical device 256. -/
def Buffer.highLogical : Buffer :=
  Buffer.empty.receive [0, 1, 0, 16, 1, 0, 0, 3, 0xE6, 0, 2, 0, 17, 0x62]

/-- The DISC for it goes to logical device 0. -/
theorem disc_to_other_device : ¬ ∀ gw : Buffer, GeneratorsAgree gw := by
  intro agree
  rcases agree .highLogical with fail | ⟨address, source, agree⟩
  · exact absurd (fail .snrm .empty) (by unfold Generator.Succeeds; decide +kernel)
  · have disc := (agree .disc .empty).2.1
    have snrm := (agree .snrm .empty).2.1
    rw [← snrm] at disc
    revert disc
    decide +kernel

/-! ## The round trip -/

structure GatewayAddresses where
  logical : UInt16
  client : UInt16
  phyAdd : UInt16
deriving DecidableEq

/-- The physical address of a gateway frame, in the form that its length says. -/
def gatewayPhyAdd (byte : Nat → UInt8) : UInt16 :=
  if byte 10 = 1 then (byte 11).toUInt16 else joinBytes (byte 11) (byte 12)

namespace Buffer

def requestAddresses (gw : Buffer) : GatewayAddresses :=
  ⟨gw.logicalAddress, joinBytes (gw.rxByte 2) (gw.rxByte 3), gatewayPhyAdd gw.rxByte⟩

/-- The addresses of the answer in `TX`, in which sender and receiver have changed places. -/
def replyAddresses (gw : Buffer) : GatewayAddresses :=
  ⟨joinBytes (gw.tx.get 2) (gw.tx.get 3), joinBytes (gw.tx.get 4) (gw.tx.get 5),
    gatewayPhyAdd gw.tx.get⟩

/-- An I-frame back from the address that the frame in `TX` was sent to. -/
structure AnsweredBy (sent : Buffer) (f : Hdlc.Frame) : Prop where
  source : f.source.bytes = sent.sentAddress
  destination : f.destination.bytes = [sent.sentSource]
  information : f.information ≠ []
  size : f.bytes.length ≤ 2048

/-- The addresses fit in the bits that the HDLC address has for them. -/
def AddressesFit (gw : Buffer) : Prop :=
  gw.requestAddresses.client < 128 ∧
    (gw.addLen = 1 → gw.requestAddresses.logical < 128 ∧ gw.requestAddresses.phyAdd < 128) ∧
    (gw.addLen = 2 → gw.requestAddresses.phyAdd ≤ 16383)

instance (gw : Buffer) : Decidable gw.AddressesFit := inferInstanceAs (Decidable (_ ∧ _))

end Buffer

section Delivered
variable {hdlc : Buffer} {f : MeterFrame} (gw : Buffer) (g : Globals) (ctrl : CtrlByteStr)

theorem segmentBit_of_unsegmented (unsegmented : ¬ hdlc.Segmented) :
    (g.classify (hdlc.rxByte 1)).segmentBit = .singleFrame ∨
      (g.classify (hdlc.rxByte 1)).segmentBit = .lastFrame := by
  have clear : hdlc.rxByte 1 &&& 0x08 ≠ 0x08 := unsegmented
  rw [segmentBit_classify, if_neg clear]
  split
  · exact .inr rfl
  · exact .inl rfl

theorem get_tx_delivered (accepted : hdlc.Accepted f) (unsegmented : ¬ hdlc.Segmented) {i : Nat}
    (early : i < f.prefixSize) (other : i ≠ 6 ∧ i ≠ 7) :
    (meter2GwFrameConvertor hdlc gw g ctrl).gw.tx.get i = (f.hesPrefix 0).get i := by
  have bounds := prefixSize_le f
  have first : (f.hesFrame hdlc.rxByte).get i = (f.hesPrefix 0).get i :=
    Eq.trans ( get_hesFrame_prefix _ _ early) (get_hesPrefix_other _ _ _ other)
  rw [convertor_of_accepted hdlc gw g ctrl accepted]
  rcases segmentBit_of_unsegmented g unsegmented with single | last
  · rw [deliver_single _ _ _ _ _ single]
    dsimp only
    rw [Buffer.get_tx_copyTx _ _ _ (by omega), if_pos (by omega), first]
  · have again : (f.hesFrameForLast hdlc.rxByte
        ((g.classify (hdlc.rxByte 1)).collect hdlc.rxByte f)).get i = (f.hesPrefix 0).get i := by
      rw [MeterFrame.hesFrameForLast, Bytes.get_set_ne _ _ other.2, Bytes.get_set_ne _ _ other.1,
        Bytes.storeEach_consecutive, Bytes.get_copy_outside _ _ _ _ (.inl early), first]
    rw [deliver_last _ _ _ _ _ last]
    dsimp only
    rw [Buffer.get_tx_copyTx _ _ _ (by omega), Buffer.get_tx_copyTx _ _ _ (by omega), again,
      if_pos (show i < 5000 by omega), first, ite_self]

theorem get_hesPrefix_addresses (f : MeterFrame) (apduLen : UInt16) :
    (f.hesPrefix apduLen).get 2 = hiByte f.logAdd ∧ (f.hesPrefix apduLen).get 3 = loByte f.logAdd ∧
      (f.hesPrefix apduLen).get 4 = 0 ∧ (f.hesPrefix apduLen).get 5 = f.dstAdd := by
  by_cases short : f.phyAdd < 256 <;> simp [MeterFrame.hesPrefix, short]

theorem gatewayPhyAdd_hesPrefix {byte : Nat → UInt8} (apduLen : UInt16)
    (same : ∀ i, 10 ≤ i → i < f.prefixSize → byte i = (f.hesPrefix apduLen).get i) :
    gatewayPhyAdd byte = f.phyAdd := by
  have bounds := prefixSize_le f
  by_cases short : f.phyAdd < 256
  · have size : byte 10 = 1 := by
      rw [same 10 (by omega) (by omega)]
      simp [MeterFrame.hesPrefix, short]
    have value : byte 11 = loByte f.phyAdd := by
      rw [same 11 (by omega) (by omega)]
      simp [MeterFrame.hesPrefix, short]
    have bound : f.phyAdd.toNat < 256 := UInt16.lt_iff_toNat_lt.mp short
    rw [gatewayPhyAdd, if_pos size, value]
    apply UInt16.toNat_inj.mp
    rw [UInt8.toNat_toUInt16, toNat_loByte, Nat.mod_eq_of_lt bound]
  · have long : f.prefixSize = 13 := by simp [MeterFrame.prefixSize, MeterFrame.addLen, short]
    have size : byte 10 ≠ 1 := by
      rw [same 10 (by omega) (by omega)]
      simp [MeterFrame.hesPrefix, short]
    have high : byte 11 = hiByte f.phyAdd := by
      rw [same 11 (by omega) (by omega)]
      simp [MeterFrame.hesPrefix, short]
    have low : byte 12 = loByte f.phyAdd := by
      rw [same 12 (by omega) (by omega)]
      simp [MeterFrame.hesPrefix, short]
    rw [gatewayPhyAdd, if_neg size, high, low, joinBytes_hi_lo]

theorem replyAddresses_delivered (accepted : hdlc.Accepted f) (unsegmented : ¬ hdlc.Segmented) :
    0 < (meter2GwFrameConvertor hdlc gw g ctrl).ret ∧
      (meter2GwFrameConvertor hdlc gw g ctrl).gw.replyAddresses =
        ⟨f.logAdd, f.dstAdd.toUInt16, f.phyAdd⟩ := by
  have read {i : Nat} := get_tx_delivered gw g ctrl accepted unsegmented (i := i)
  have bounds := prefixSize_le f
  constructor
  · rw [convertor_of_accepted hdlc gw g ctrl accepted, (ret_deliver _ _ _ _ _).2]
    rcases segmentBit_of_unsegmented g unsegmented with single | last
    · rw [single]
      decide
    · rw [last]
      decide
  · obtain ⟨logHigh, logLow, zero, client⟩ := get_hesPrefix_addresses f 0
    have phyAdd := gatewayPhyAdd_hesPrefix (f := f) 0 fun i low early =>
      read early ⟨by omega, by omega⟩
    have widened : joinBytes 0 f.dstAdd = f.dstAdd.toUInt16 := by
      apply UInt16.toNat_inj.mp
      rw [toNat_joinBytes, UInt8.toNat_toUInt16]
      simp
    rw [Buffer.replyAddresses, phyAdd, read (by omega) (by decide), read (by omega) (by decide),
      read (by omega) (by decide), read (by omega) (by decide), logHigh, logLow, zero, client,
      joinBytes_hi_lo, widened]

end Delivered

/-! ## The answer to a request -/

theorem numbers_addressField {a : Hdlc.Address} {dstSize : Nat} {logical phyAdd : UInt16}
    (sizes : dstSize = 2 ∨ dstSize = 4) (bytes : a.bytes = addressField dstSize logical phyAdd) :
    Hdlc.number a.upper = logical.toNat % 128 ^ (dstSize / 2) ∧
      Hdlc.number a.lower = phyAdd.toNat % 128 ^ (dstSize / 2) := by
  obtain ⟨⟨logHigh, logLow⟩, -, -⟩ := halves_spreadAddress logical
  obtain ⟨-, phyHigh, phyLow⟩ := halves_spreadAddress phyAdd
  rw [Hdlc.Address.upper, Hdlc.Address.lower, bytes, length_addressField sizes]
  rcases sizes with rfl | rfl
  · exact ⟨(Hdlc.number_one _).trans logLow, (Hdlc.number_one _).trans phyLow⟩
  · refine ⟨(Hdlc.number_two _ _).trans ?_, (Hdlc.number_two _ _).trans ?_⟩
    · rw [logHigh, logLow]
      show 128 * (logical.toNat / 128 % 128) + logical.toNat % 128 = logical.toNat % 16384
      omega
    · rw [phyHigh, phyLow]
      show 128 * (phyAdd.toNat / 128 % 128) + phyAdd.toNat % 128 = phyAdd.toNat % 16384
      omega

theorem half_sourceAddress (gw : Buffer) :
    gw.sourceAddress.toNat / 2 = (gw.rxByte 3).toNat % 128 := by
  have even : (gw.rxByte 3 <<< 1 &&& (0xFE : UInt8)).toNat = 2 * ((gw.rxByte 3).toNat % 128) := by
    rw [UInt8.toNat_and, UInt8.toNat_shiftLeft, Nat.shiftLeft_eq]
    refine (and_mask _ 127 1).trans ?_
    rw [Nat.and_two_pow_sub_one_eq_mod _ 7]
    show 2 * ((gw.rxByte 3).toNat * 2 % 256 / 2 % 128) = _
    omega
  have odd := Nat.two_pow_add_eq_or_of_lt (i := 1) (b := 1) (by decide)
    ((gw.rxByte 3).toNat % 128)
  have value : gw.sourceAddress.toNat = 2 * ((gw.rxByte 3).toNat % 128) + 1 := by
    rw [Buffer.sourceAddress, UInt8.toNat_or, even]
    exact odd.symm
  rw [value]
  omega

section Answer
variable {gw hdlc received gwStruct : Buffer} {ctrl counters : CtrlByteStr} {f : Hdlc.Frame}
  {g : Globals} {dstSize : Nat} {phyAdd : UInt16}

theorem sent_frameConvertor (form : gw.dstSizeAndPhyAdd = some (dstSize, phyAdd))
    (accepted : (gw2HdlcFrameConvertor gw hdlc ctrl).1 = 1) :
    gw.logicalAddress ≤ 16383 ∧
      (gw2HdlcFrameConvertor gw hdlc ctrl).2.1.sentAddress =
        addressField dstSize gw.logicalAddress phyAdd ∧
      (gw2HdlcFrameConvertor gw hdlc ctrl).2.1.sentSource = gw.sourceAddress :=
  ⟨UInt16.not_lt.mp ((succeeds_iff form hdlc (.frameConvertor ctrl)).mp accepted),
    addressed_framed (g := .frameConvertor ctrl) form accepted⟩

/-- The answer carries the addresses of the request without the bits that were not sent. -/
theorem replyAddresses_answer (form : gw.dstSizeAndPhyAdd = some (dstSize, phyAdd))
    (accepted : (gw2HdlcFrameConvertor gw hdlc ctrl).1 = 1)
    (answers : (gw2HdlcFrameConvertor gw hdlc ctrl).2.1.AnsweredBy f)
    (holds : received.Holds f.bytes) :
    0 < (meter2GwFrameConvertor received gwStruct g counters).ret ∧
    ∃ reply, (meter2GwFrameConvertor received gwStruct g counters).gw.replyAddresses = reply ∧
      reply.logical.toNat = gw.logicalAddress.toNat % 128 ^ (dstSize / 2) ∧
      reply.client.toNat = (gw.rxByte 3).toNat % 128 ∧
      reply.phyAdd.toNat = phyAdd.toNat % 128 ^ (dstSize / 2) := by
  have sizes := dstSize_cases form
  obtain ⟨-, address, source⟩ := sent_frameConvertor form accepted
  have sourceBytes := answers.source.trans address
  obtain ⟨link, carries, client, logical, physical⟩ :=
    exists_carries (f := f) (by rw [answers.destination]; rfl)
      (by rw [sourceBytes, length_addressField sizes]; exact sizes) answers.information
  obtain ⟨upper, lower⟩ := numbers_addressField sizes sourceBytes
  have fits : link.frameSize f.information ≤ 2048 := by
    have size := answers.size
    rw [ReplyLink.frameSize_of_carries carries]
    rw [Hdlc.Frame.length_bytes] at size
    exact size
  rw [← ReplyLink.iFrame_of_carries carries] at holds
  obtain ⟨converted, bit, -⟩ := ReplyLink.accepted_iFrame holds fits
  have unsegmented : ¬ received.Segmented := fun set => Bool.false_ne_true (bit.mp set)
  obtain ⟨returned, addresses⟩ := replyAddresses_delivered gwStruct g counters converted unsegmented
  refine ⟨returned, _, addresses, logical.trans upper, ?_, physical.trans lower⟩
  have short := link.client.isLt
  rw [answers.destination, Hdlc.number_one, source, half_sourceAddress] at client
  show (UInt8.ofNat link.client.val).toUInt16.toNat = _
  rw [UInt8.toNat_toUInt16, UInt8.toNat_ofNat', client]
  omega

theorem phyAdd_request (form : gw.dstSizeAndPhyAdd = some (dstSize, phyAdd)) :
    gw.requestAddresses.phyAdd = phyAdd := by
  unfold Buffer.dstSizeAndPhyAdd at form
  unfold Buffer.requestAddresses gatewayPhyAdd
  dsimp only
  split_ifs at form with one two
  · cases form
    exact if_pos one
  · cases form
    exact if_neg one

end Answer

/-- The answer names the client and the meter of the request if and only if their addresses fit. -/
theorem address_round_trip_iff (gw hdlc : Buffer) (ctrl : CtrlByteStr) (f : Hdlc.Frame)
    (received gwStruct : Buffer) (g : Globals) (counters : CtrlByteStr)
    (accepted : (gw2HdlcFrameConvertor gw hdlc ctrl).1 = 1)
    (answers : (gw2HdlcFrameConvertor gw hdlc ctrl).2.1.AnsweredBy f)
    (holds : received.Holds f.bytes) :
    0 < (meter2GwFrameConvertor received gwStruct g counters).ret ∧
        (meter2GwFrameConvertor received gwStruct g counters).gw.replyAddresses =
          gw.requestAddresses ↔
      gw.AddressesFit := by
  cases form : gw.dstSizeAndPhyAdd with
  | none => exact absurd accepted (not_succeeds_of_form form hdlc (.frameConvertor ctrl))
  | some pair =>
      obtain ⟨dstSize, phyAdd⟩ := pair
      obtain ⟨low, -⟩ := sent_frameConvertor form accepted
      have bound : gw.logicalAddress.toNat ≤ 16383 := low
      obtain ⟨returned, ⟨logical', client', phyAdd'⟩, addresses, logical, client, physical⟩ :=
        @replyAddresses_answer gw hdlc received gwStruct ctrl counters f g dstSize phyAdd form
          accepted answers holds
      have requested : gw.requestAddresses = ⟨gw.logicalAddress,
          joinBytes (gw.rxByte 2) (gw.rxByte 3), phyAdd⟩ := by
        rw [← phyAdd_request form]
        rfl
      have joined := toNat_joinBytes (gw.rxByte 2) (gw.rxByte 3)
      have byte := (gw.rxByte 3).toNat_lt
      dsimp only at logical client physical
      rw [Buffer.AddressesFit, addresses, requested, and_iff_right returned]
      simp only [GatewayAddresses.mk.injEq, ← UInt16.toNat_inj, UInt16.lt_iff_toNat_lt,
        UInt16.le_iff_toNat_le, logical, client, physical, joined]
      obtain ⟨size, one | two⟩ := dstSize_eq form
      · have short : dstSize / 2 = 1 := by rw [size, one]; rfl
        have other : (1 : UInt8) ≠ 2 := by decide
        simp only [short, one, other, pow_one, UInt16.reduceToNat, forall_const, false_implies,
          and_true]
        omega
      · have long : dstSize / 2 = 2 := by rw [size, two]; rfl
        have other : (2 : UInt8) ≠ 1 := by decide
        simp only [long, two, other, Nat.reducePow, UInt16.reduceToNat, forall_const,
          false_implies, true_and]
        omega

/-- The answer of the meter 16 behind logical device 1 to the client 1. -/
def meterAnswer : Hdlc.Frame where
  destination := .ofNumber 1
  source := meterAddressOf 2 1 16
  control := 0x30
  information := [0xE6, 0xE7, 0x00, 0xC4]

theorem short_addresses_returned :
    0 < (meter2GwFrameConvertor (Buffer.empty.receive meterAnswer.bytes) .empty
          cleanConverter.globals cleanConverter.ctrl).ret ∧
      (meter2GwFrameConvertor (Buffer.empty.receive meterAnswer.bytes) .empty
          cleanConverter.globals cleanConverter.ctrl).gw.replyAddresses =
        (Buffer.paddedRequest 13).requestAddresses :=
  (address_round_trip_iff (.paddedRequest 13) .empty ⟨0, 0, 0x10⟩ meterAnswer
    (Buffer.empty.receive meterAnswer.bytes) .empty cleanConverter.globals cleanConverter.ctrl
    (by decide +kernel) ⟨by decide +kernel, by decide +kernel, by decide, by decide +kernel⟩
    (by decide +kernel)).mpr (by decide +kernel)

/-- A request for the meter 144, with a physical address of one byte. -/
def Buffer.highPhysical : Buffer :=
  Buffer.empty.receive [0, 1, 0, 1, 0, 1, 0, 4, 0xE6, 0, 1, 144, 0x62]

/-- It is answered by the meter 16. -/
theorem other_meter_answers :
    ¬ ∀ (gw hdlc : Buffer) (ctrl : CtrlByteStr) (f : Hdlc.Frame) (received gwStruct : Buffer)
      (g : Globals) (counters : CtrlByteStr), (gw2HdlcFrameConvertor gw hdlc ctrl).1 = 1 →
      (gw2HdlcFrameConvertor gw hdlc ctrl).2.1.AnsweredBy f → received.Holds f.bytes →
      0 < (meter2GwFrameConvertor received gwStruct g counters).ret ∧
        (meter2GwFrameConvertor received gwStruct g counters).gw.replyAddresses =
          gw.requestAddresses := by
  intro returned
  have same := (returned .highPhysical .empty ⟨0, 0, 0x10⟩ meterAnswer
    (Buffer.empty.receive meterAnswer.bytes) .empty cleanConverter.globals cleanConverter.ctrl
    (by decide +kernel) ⟨by decide +kernel, by decide +kernel, by decide, by decide +kernel⟩
    (by decide +kernel)).2
  revert same
  decide +kernel

end DlmsGateway
