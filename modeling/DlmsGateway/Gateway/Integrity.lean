import DlmsGateway.Gateway.Conversion

/-!
# Integrity of the meter's data

A received frame carries two checksums.  The converter compares the header
checksum; it computes the frame checksum too, over positions shifted by the LLC
bytes, and then ignores it.  So corrupted information bytes are delivered
exactly when the header of the frame is intact.
-/
set_option autoImplicit false
namespace DlmsGateway

open ByteStore

/-- The frame checksum carried before the end flag is that of the bytes from index 1 to the last
information byte. -/
def MeterFrame.FcsRight (f : MeterFrame) (rx : Nat → UInt8) : Prop :=
  joinBytes (rx (f.size - 3)) (rx (f.size - 2)) = countCRC rx 1 (f.size - 4)

instance (f : MeterFrame) (rx : Nat → UInt8) : Decidable (f.FcsRight rx) :=
  inferInstanceAs (Decidable (_ = _))

/-- Nothing was written to `GW_STRUCT`, and the collected bytes are the old ones or cleared. -/
def Conversion.PlacesNothing (c : Conversion) (gw : Buffer) (g : Globals) : Prop :=
  c.gw = gw ∧
    (c.globals.bufferData = g.bufferData ∧ c.globals.lastByteBuffer = g.lastByteBuffer ∨
      c.globals.bufferData = Bytes.zero ∧ c.globals.lastByteBuffer = 0)

structure ChecksIntegrity (hdlc gw : Buffer) (g : Globals) (ctrl : CtrlByteStr) : Prop where
  placed : 0 ≤ (meter2GwFrameConvertor hdlc gw g ctrl).ret →
    (meter2GwFrameConvertor hdlc gw g ctrl).PlacesNothing gw g ∨
      ∃ f, hdlc.CarriesFrame f ∧ f.HcsRight hdlc.rxByte ∧ f.FcsRight hdlc.rxByte
  rejected : ∀ f, hdlc.CarriesFrame f →
    ¬ f.HcsRight hdlc.rxByte ∨ ¬ f.FcsRight hdlc.rxByte →
      (meter2GwFrameConvertor hdlc gw g ctrl).ret < 0

theorem placesNothing_classify (gw : Buffer) (g : Globals) (ctrl : CtrlByteStr) (code : Int)
    (format : UInt8) : Conversion.PlacesNothing ⟨code, gw, g.classify format, ctrl⟩ gw g := by
  refine ⟨rfl, ?_⟩
  by_cases bit : format &&& 0x08 = 0x08
  · exact .inl (by simp only [classify_middle bit, and_self])
  · by_cases midway : g.segmentBit = .middleFrame
    · exact .inl (by simp only [classify_last bit midway, and_self])
    · exact .inr (by simp only [classify_single bit midway, Globals.clearBuffer, and_self])

/-- Both checksums are respected exactly when no frame with a right header checksum has a wrong
frame checksum. -/
theorem checksIntegrity_iff (hdlc gw : Buffer) (g : Globals) (ctrl : CtrlByteStr) :
    ChecksIntegrity hdlc gw g ctrl ↔ ∀ f, hdlc.Accepted f → f.FcsRight hdlc.rxByte := by
  constructor
  · intro respected f accepted
    by_contra wrong
    have negative := respected.rejected f accepted.1 (.inr wrong)
    rw [convertor_of_accepted hdlc gw g ctrl accepted] at negative
    have nonneg := (ret_deliver hdlc.rxByte f gw (g.classify (hdlc.rxByte 1)) ctrl).1
    omega
  · intro right
    constructor
    · intro nonneg
      rcases convertor_cases hdlc gw g ctrl with
        ⟨-, code, sign, outcome⟩ | ⟨-, -, code, -, outcome⟩ | ⟨f, accepted, -⟩
      · rw [outcome] at nonneg
        simp only at nonneg
        omega
      · rw [outcome]
        exact .inl (placesNothing_classify gw g ctrl code _)
      · exact .inr ⟨f, accepted.1, accepted.2, right f accepted⟩
    · intro f carried wrong
      by_cases hcs : f.HcsRight hdlc.rxByte
      · rcases wrong with wrongHcs | wrongFcs
        · exact absurd hcs wrongHcs
        · exact absurd (right f ⟨carried, hcs⟩) wrongFcs
      · rw [convertor_of_hcs_wrong hdlc gw g ctrl carried hcs]
        show (-6 : Int) < 0
        decide

/-- A single frame with an intact header whose last information byte was changed on the line. -/
def corruptedReply : List UInt8 :=
  [0x7E, 0xA0, 0x12, 0x21, 0x02, 0x23, 0x30, 0x0D, 0xCB, 0xE6, 0xE7, 0x00, 0xC4, 0x01, 0x81, 0x00,
    0x04, 0xEB, 0xF8, 0x7E]

theorem corruptedReply_delivered :
    ¬ ∀ (hdlc gw : Buffer) (g : Globals) (ctrl : CtrlByteStr),
      ChecksIntegrity hdlc gw g ctrl := by
  intro always
  have carried : (Buffer.empty.receive corruptedReply).CarriesFrame ⟨20, 0x10, 1, 0x11, 5⟩ :=
    ⟨by decide +kernel, by decide +kernel⟩
  have negative := (always _ Buffer.empty ⟨.responseForMdm, .singleFrame, Bytes.zero, 0⟩
    ⟨0, 1, 0x10⟩).rejected _ carried (.inr (by decide +kernel))
  revert negative
  decide +kernel

end DlmsGateway
