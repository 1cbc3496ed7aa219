import DlmsGateway.Gateway.Reassembly

/-!
# What a rejected frame leaves behind

The first two checks of the converter come before the classification of the
frame, the others behind it.  A frame that fails one of these has moved
`Segment_bit` or emptied the reassembly buffer, unless they already were as it
leaves them.
-/
set_option autoImplicit false
namespace DlmsGateway

open ByteStore

/-- The state after a call is that before it, except perhaps for `GW_State`, and the next good
frame is converted as if there had been no call. -/
structure Conversion.NoTrace (c : Conversion) (gw : Buffer) (g : Globals) (ctrl : CtrlByteStr) :
    Prop where
  segmentBit : c.globals.segmentBit = g.segmentBit
  bufferData : c.globals.bufferData = g.bufferData
  lastByteBuffer : c.globals.lastByteBuffer = g.lastByteBuffer
  tx : c.gw.tx = gw.tx
  txCount : c.gw.txCount = gw.txCount
  rrr : c.ctrl.rrr = ctrl.rrr
  retransmission : ∀ (hdlc : Buffer) (f : MeterFrame), hdlc.Accepted f →
    meter2GwFrameConvertor hdlc c.gw c.globals c.ctrl = meter2GwFrameConvertor hdlc gw g ctrl

def Globals.Keeps (g : Globals) (hdlc : Buffer) : Prop :=
  if hdlc.Segmented then g.segmentBit = .middleFrame
  else g.segmentBit = .singleFrame ∧ g.bufferData = Bytes.zero ∧ g.lastByteBuffer = 0

section Rejected
variable {hdlc gw : Buffer} {g : Globals} {ctrl : CtrlByteStr}

/-- A rejected frame changes the globals at most, and these only by its classification. -/
theorem convertor_of_rejected (rejected : (meter2GwFrameConvertor hdlc gw g ctrl).ret < 0) :
    ∃ code, meter2GwFrameConvertor hdlc gw g ctrl =
      ⟨code, gw, if hdlc.FormatRight then g.classify (hdlc.rxByte 1) else g, ctrl⟩ := by
  rcases convertor_cases hdlc gw g ctrl with
    ⟨wrong, code, -, outcome⟩ | ⟨right, -, code, -, outcome⟩ | ⟨f, accepted, outcome⟩
  · exact ⟨code, by rw [outcome, if_neg wrong]⟩
  · exact ⟨code, by rw [outcome, if_pos right]⟩
  · have sign := (ret_deliver hdlc.rxByte f gw (g.classify (hdlc.rxByte 1)) ctrl).1
    rw [outcome] at rejected
    omega

theorem classify_congr {h : Globals} (format : UInt8) (segmentBit : h.segmentBit = g.segmentBit)
    (bufferData : h.bufferData = g.bufferData) (lastByteBuffer : h.lastByteBuffer = g.lastByteBuffer) :
    h.classify format = g.classify format := by
  unfold Globals.classify Globals.clearBuffer
  rw [segmentBit, bufferData, lastByteBuffer]

theorem classify_keeps_iff :
    ((g.classify (hdlc.rxByte 1)).segmentBit = g.segmentBit ∧
      (g.classify (hdlc.rxByte 1)).bufferData = g.bufferData ∧
      (g.classify (hdlc.rxByte 1)).lastByteBuffer = g.lastByteBuffer) ↔ g.Keeps hdlc := by
  unfold Globals.Keeps
  by_cases segmented : hdlc.Segmented
  · rw [classify_middle segmented, if_pos segmented]
    exact ⟨fun same => same.1.symm, fun middle => ⟨middle.symm, rfl, rfl⟩⟩
  · rw [if_neg segmented]
    by_cases midway : g.segmentBit = .middleFrame
    · rw [classify_last segmented midway, midway]
      constructor
      · rintro ⟨bit, -⟩
        cases bit
      · rintro ⟨bit, -⟩
        cases bit
    · rw [classify_single segmented midway]
      constructor
      · rintro ⟨bit, data, count⟩
        exact ⟨bit.symm, data.symm, count.symm⟩
      · rintro ⟨bit, data, count⟩
        exact ⟨bit.symm, data.symm, count.symm⟩

theorem noTrace_of_globals {code : Int} {h : Globals} (segmentBit : h.segmentBit = g.segmentBit)
    (bufferData : h.bufferData = g.bufferData)
    (lastByteBuffer : h.lastByteBuffer = g.lastByteBuffer) :
    Conversion.NoTrace ⟨code, gw, h, ctrl⟩ gw g ctrl where
  segmentBit := segmentBit
  bufferData := bufferData
  lastByteBuffer := lastByteBuffer
  tx := rfl
  txCount := rfl
  rrr := rfl
  retransmission := fun again f accepted => by
    rw [convertor_of_accepted again _ _ _ accepted, convertor_of_accepted again _ _ _ accepted,
      classify_congr _ segmentBit bufferData lastByteBuffer]

end Rejected

/-- The two checks before the classification leave no trace; the later ones leave none where it
changes nothing. -/
theorem rejected_leaves_no_trace_iff (hdlc gw : Buffer) (g : Globals) (ctrl : CtrlByteStr)
    (rejected : (meter2GwFrameConvertor hdlc gw g ctrl).ret < 0) :
    (meter2GwFrameConvertor hdlc gw g ctrl).NoTrace gw g ctrl ↔
      ¬ hdlc.FormatRight ∨ g.Keeps hdlc := by
  obtain ⟨code, outcome⟩ := convertor_of_rejected rejected
  rw [outcome]
  by_cases right : hdlc.FormatRight
  · rw [if_pos right, or_iff_right (not_not_intro right), ← classify_keeps_iff]
    constructor
    · intro kept
      exact ⟨kept.segmentBit, kept.bufferData, kept.lastByteBuffer⟩
    · rintro ⟨bit, data, count⟩
      exact noTrace_of_globals bit data count
  · rw [if_neg right]
    exact ⟨fun _ => .inl right, fun _ => noTrace_of_globals rfl rfl rfl⟩

/-- While the segments of a reply are being collected. -/
def midwayGlobals : Globals :=
  { cleanConverter.globals with segmentBit := .middleFrame, lastByteBuffer := 3 }

/-- A segment between the first and the last, with its header checksum damaged. -/
def damagedMiddle : Buffer :=
  Buffer.empty.receive
    ((meterLink.iFrame true 0x32 [0xC4, 0x01, 0x81, 0x00, 0x05, 0x06]).set 7 0)

theorem damaged_middle_leaves_no_trace :
    (meter2GwFrameConvertor damagedMiddle .empty midwayGlobals cleanConverter.ctrl).NoTrace
      .empty midwayGlobals cleanConverter.ctrl := by
  have keeps : midwayGlobals.Keeps damagedMiddle := by
    rw [Globals.Keeps, if_pos (by decide +kernel)]
    rfl
  exact (rejected_leaves_no_trace_iff damagedMiddle .empty midwayGlobals cleanConverter.ctrl
    (by decide +kernel)).mpr (.inr keeps)

section LastSegment

/-- The last segment with its header checksum damaged. -/
def damagedSegment : Buffer :=
  Buffer.empty.receive ((meterLink.iFrame false 0x32 [0x81, 0x00, 0x05, 0x06]).set 7 0)

/-- After it the segment is not expected any more, so that its retransmission counts as a reply
of its own. -/
theorem damaged_segment_leaves_trace :
    ¬ ∀ (hdlc gw : Buffer) (g : Globals) (ctrl : CtrlByteStr),
      (meter2GwFrameConvertor hdlc gw g ctrl).ret < 0 →
      (meter2GwFrameConvertor hdlc gw g ctrl).NoTrace gw g ctrl := by
  intro noTrace
  have kept := (noTrace damagedSegment .empty midwayGlobals cleanConverter.ctrl
    (by decide +kernel)).segmentBit
  revert kept
  decide +kernel

end LastSegment
end DlmsGateway
