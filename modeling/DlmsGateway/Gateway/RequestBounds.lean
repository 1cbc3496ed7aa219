import DlmsGateway.Gateway.SentFrames
import DlmsGateway.Lib.Bytes

/-!
# What the request path reads and writes

The four generators as lists of the accesses they make, in their order.  Three
of them copy the request into the local array `APDU`, as many bytes as its
length field says and before they check anything.  The fourth has the line that
would do so commented out; it fills its `MAC_frame` up to `RX_Count` instead.
-/
set_option autoImplicit false
namespace DlmsGateway

open Arrays

/-- `GW_STRUCT->RX`, the local arrays and `HDLC_STRUCT->TX`. -/
inductive RequestArray where
  | rx
  | apdu
  | macFrame (size : Nat)
  | tx

def RequestArray.size : RequestArray → Nat
  | .rx => 2048
  | .apdu => 65536
  | .macFrame size => size
  | .tx => 2048

namespace Buffer

/-- `APDU_size`, the length field. -/
def apduSize (gw : Buffer) : UInt16 := joinBytes (gw.rxByte 6) (gw.rxByte 7)

/-- `APDU_start_add`, a `uint8_t`. -/
def apduStartAdd (gw : Buffer) : UInt8 := 11 + gw.addLen

end Buffer

def controlFrameAccesses (gw : Buffer) : List (Access RequestArray) :=
  [⟨.apdu, 0, 65536⟩, element .rx 10, ⟨.rx, 6, 2⟩,
    ⟨.rx, gw.apduStartAdd.toNat, gw.apduSize.toNat⟩, ⟨.apdu, 0, gw.apduSize.toNat⟩, ⟨.rx, 4, 2⟩] ++
  match gw.dstSizeAndPhyAdd with
  | none => []
  | some (dstSize, _) =>
      let macFrameSize := 8 + dstSize
      let lastByte := dstSize + 2
      let mac := RequestArray.macFrame macFrameSize
      [⟨.rx, 11, gw.addLen.toNat⟩, ⟨mac, 0, macFrameSize⟩, element mac 0,
        element mac (macFrameSize - 1), ⟨mac, 1, 2⟩, ⟨mac, 3, dstSize⟩, element .rx 3,
        element mac (lastByte + 1), element mac (lastByte + 2), ⟨mac, 1, lastByte + 2⟩,
        ⟨mac, lastByte + 3, 2⟩, ⟨mac, 0, lastByte + 6⟩, ⟨.tx, 0, lastByte + 6⟩]

def frameConvertorAccesses (gw : Buffer) : List (Access RequestArray) :=
  [⟨.apdu, 0, 65536⟩, element .rx 10, ⟨.rx, 4, 2⟩] ++
  match gw.dstSizeAndPhyAdd with
  | none => []
  | some (dstSize, _) =>
      let lastByte := dstSize + 2
      let hcsCount := lastByte + 2
      let apduStartByte := lastByte + 8
      let apduStartAdd := 11 + gw.addLen.toNat
      let apduSize := gw.rxCount.toNat - apduStartAdd
      let fcsCount := apduStartByte + apduSize - 1
      let macFrameSize := 10 + dstSize + apduSize + 3
      let mac := RequestArray.macFrame 2048
      [⟨.rx, 11, gw.addLen.toNat⟩, ⟨mac, 0, 2048⟩, element mac 0] ++
      if 16383 < gw.logicalAddress then []
      else
        [⟨mac, 3, dstSize⟩, element .rx 3, element mac (lastByte + 1), element mac (lastByte + 2),
          ⟨mac, lastByte + 5, 3⟩, ⟨.rx, apduStartAdd, apduSize⟩, ⟨mac, apduStartByte, apduSize⟩,
          element mac (macFrameSize - 1), ⟨mac, 1, 2⟩, ⟨mac, 1, hcsCount⟩,
          ⟨mac, hcsCount + 1, 2⟩, ⟨mac, 1, fcsCount⟩, ⟨mac, fcsCount + 1, 2⟩, ⟨mac, 0, 2048⟩,
          ⟨.tx, 0, 2048⟩]

/-- The functions that make a frame out of the taken request. -/
inductive Generator where
  | snrm
  | frameConvertor (ctrl : CtrlByteStr)
  | poll (control : UInt8)
  | disc

namespace Generator

def accesses (gw : Buffer) : Generator → List (Access RequestArray)
  | snrm => controlFrameAccesses gw
  | frameConvertor _ => frameConvertorAccesses gw
  | poll _ => controlFrameAccesses gw
  | disc => controlFrameAccesses gw

def framed (gw hdlc : Buffer) : Generator → Buffer
  | snrm => (gw2HdlcSnrmGenerator gw hdlc).2
  | frameConvertor ctrl => (gw2HdlcFrameConvertor gw hdlc ctrl).2.1
  | poll control => (gw2HdlcPollForRemainedData gw hdlc control).2
  | disc => (gw2HdlcDiscGenerator gw hdlc).2

/-- The call keeps to its arrays and leaves a count that `TX` can hold. -/
structure Bounded (g : Generator) (gw hdlc : Buffer) : Prop where
  accesses : Within RequestArray.size (g.accesses gw)
  count : hdlc.txCount.toNat ≤ 2048 → (g.framed gw hdlc).txCount.toNat ≤ 2048

def Fits (gw : Buffer) : Generator → Prop
  | frameConvertor _ => ¬ (gw.addLen = 1 ∨ gw.addLen = 2) ∨ 16383 < gw.logicalAddress ∨
      gw.rxCount.toNat + gw.addLen.toNat + 2 ≤ 2048
  | _ => gw.apduStartAdd.toNat + gw.apduSize.toNat ≤ 2048

end Generator

section Bounds
variable {gw hdlc : Buffer}

theorem dstSize_eq {dstSize : Nat} {phyAdd : UInt16}
    (accepted : gw.dstSizeAndPhyAdd = some (dstSize, phyAdd)) :
    dstSize = 2 * gw.addLen.toNat ∧ (gw.addLen = 1 ∨ gw.addLen = 2) := by
  unfold Buffer.dstSizeAndPhyAdd at accepted
  split_ifs at accepted with one two <;> cases accepted
  · exact ⟨by rw [one]; rfl, .inl one⟩
  · exact ⟨by rw [two]; rfl, .inr two⟩

theorem addLen_le_two (form : gw.addLen = 1 ∨ gw.addLen = 2) : gw.addLen.toNat ≤ 2 := by
  rcases form with one | two
  · rw [one]
    decide
  · rw [two]
    decide

theorem within_controlFrame :
    Within RequestArray.size (controlFrameAccesses gw) ↔
      gw.apduStartAdd.toNat + gw.apduSize.toNat ≤ 2048 := by
  have start := gw.apduStartAdd.toNat_lt
  have size := gw.apduSize.toNat_lt
  unfold controlFrameAccesses
  cases accepted : gw.dstSizeAndPhyAdd with
  | none =>
      simp [RequestArray.size]
      omega
  | some pair =>
      obtain ⟨dstSize, phyAdd⟩ := pair
      obtain ⟨rfl, form⟩ := dstSize_eq accepted
      have short := addLen_le_two form
      simp [RequestArray.size]
      omega

theorem within_frameConvertor (taken : gw.rxCount.toNat ≤ 2048) (ctrl : CtrlByteStr) :
    Within RequestArray.size (frameConvertorAccesses gw) ↔
      (Generator.frameConvertor ctrl).Fits gw := by
  unfold frameConvertorAccesses Generator.Fits
  cases accepted : gw.dstSizeAndPhyAdd with
  | none =>
      have other : ¬ (gw.addLen = 1 ∨ gw.addLen = 2) := by
        intro form
        obtain ⟨phyAdd, some⟩ := accepted_of_form form
        rw [accepted] at some
        cases some
      simp [RequestArray.size, other]
  | some pair =>
      obtain ⟨dstSize, phyAdd⟩ := pair
      obtain ⟨rfl, form⟩ := dstSize_eq accepted
      have short := addLen_le_two form
      by_cases high : 16383 < gw.logicalAddress
      · simp [RequestArray.size, high]
        omega
      · simp [RequestArray.size, high, form]
        omega

theorem txCount_controlFrame {α : Type} {sent failed : α} {logical : UInt16} {control : UInt8}
    (before : hdlc.txCount.toNat ≤ 2048) :
    (match controlFrame gw hdlc logical control with
      | some framed => (sent, framed)
      | none => (failed, hdlc)).2.txCount.toNat ≤ 2048 := by
  cases framed : controlFrame gw hdlc logical control with
  | none => exact before
  | some b =>
      obtain ⟨-, -, -, -, -, -, -, count⟩ := controlFrame_sent framed
      have : b.txCount.toNat ≤ 12 := UInt32.le_iff_toNat_le.mp count
      show b.txCount.toNat ≤ 2048
      omega

theorem frameConvertor_refused (ctrl : CtrlByteStr)
    (refuses : ¬ (gw.addLen = 1 ∨ gw.addLen = 2) ∨ 16383 < gw.logicalAddress) :
    (gw2HdlcFrameConvertor gw hdlc ctrl).2.1 = hdlc := by
  unfold gw2HdlcFrameConvertor
  cases accepted : gw.dstSizeAndPhyAdd with
  | none => rfl
  | some pair =>
      obtain ⟨dstSize, phyAdd⟩ := pair
      have high := refuses.resolve_left (not_not_intro (dstSize_eq accepted).2)
      dsimp only
      rw [if_pos high]

theorem txCount_framed {g : Generator} (taken : gw.rxCount.toNat ≤ 2048) (fits : g.Fits gw)
    (before : hdlc.txCount.toNat ≤ 2048) : (g.framed gw hdlc).txCount.toNat ≤ 2048 := by
  cases g with
  | snrm => exact txCount_controlFrame before
  | poll control => exact txCount_controlFrame before
  | disc => exact txCount_controlFrame before
  | frameConvertor ctrl =>
      rw [Generator.framed]
      by_cases refuses : ¬ (gw.addLen = 1 ∨ gw.addLen = 2) ∨ 16383 < gw.logicalAddress
      · rw [frameConvertor_refused ctrl refuses]
        exact before
      · rw [not_or, not_not] at refuses
        obtain ⟨form, low⟩ := refuses
        have room := (fits.resolve_left (not_not_intro form)).resolve_left low
        have short := addLen_le_two form
        rw [txCount_frameConvertor _ ctrl form taken (UInt16.not_lt.mp low)]
        omega

/-- Three generators stay in bounds when the bytes that the length field claims lie in `RX`, the
fourth when the frame for the request fits or an address makes it refuse. -/
theorem request_path_bounded_iff (g : Generator) (gw hdlc : Buffer)
    (taken : gw.rxCount.toNat ≤ 2048) : g.Bounded gw hdlc ↔ g.Fits gw := by
  have within : Within RequestArray.size (g.accesses gw) ↔ g.Fits gw := by
    cases g with
    | frameConvertor ctrl => exact within_frameConvertor taken ctrl
    | snrm => exact within_controlFrame
    | poll control => exact within_controlFrame
    | disc => exact within_controlFrame
  exact ⟨fun bounded => within.mp bounded.accesses,
    fun fits => ⟨within.mpr fits, txCount_framed taken fits⟩⟩

end Bounds

theorem short_request_bounded : Generator.Bounded .snrm (.paddedRequest 13) .empty :=
  (request_path_bounded_iff .snrm (.paddedRequest 13) .empty (by decide)).mpr
    (by unfold Generator.Fits; decide)

/-- A request of twelve bytes whose length field claims 65535. -/
def Buffer.claimsTooMuch : Buffer :=
  Buffer.empty.receive [0, 1, 0, 1, 0, 1, 0xFF, 0xFF, 0xE6, 0, 1, 16]

theorem snrm_reads_past_request :
    ¬ ∀ (g : Generator) (gw hdlc : Buffer), gw.rxCount.toNat ≤ 2048 → g.Bounded gw hdlc := by
  intro bounded
  have within := (bounded .snrm .claimsTooMuch .empty (by decide)).accesses
  exact absurd (within_controlFrame.mp within) (by decide)

end DlmsGateway
