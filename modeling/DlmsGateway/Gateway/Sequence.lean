import DlmsGateway.Gateway.Isolation
import DlmsGateway.Gateway.Integrity
import DlmsGateway.Gateway.Put

/-!
# Sequence numbers

`RRR` and `SSS` count modulo 8 since the last SNRM: `SSS` the I-frames put,
`RRR` the meter frames accepted.  A meter frame is accepted on its layout and
its header checksum; the control byte it carries plays no part, so its own
sequence number is not checked.
-/
set_option autoImplicit false
namespace DlmsGateway

open ByteStore

/-- N(S) and N(R) of a control byte. -/
def sendNumber (control : UInt8) : Nat := (control >>> 1 &&& 0x7).toNat

def receiveNumber (control : UInt8) : Nat := (control >>> 5).toNat

/-- The low bit of the control byte of an I-frame is clear. -/
def IsInformation (control : UInt8) : Prop := control &&& 0x1 = 0

/-- The two low bits of an RR frame are 01, and the type bits above them are clear. -/
def IsReceiveReady (control : UInt8) : Prop := control &&& 0xF = 0x1

instance (control : UInt8) : Decidable (IsInformation control) :=
  inferInstanceAs (Decidable (_ = _))

instance (control : UInt8) : Decidable (IsReceiveReady control) :=
  inferInstanceAs (Decidable (_ = _))

theorem controlByte_information : ∀ r, r < 8 → ∀ s, s < 8 →
    IsInformation (controlByte (UInt8.ofNat r) (UInt8.ofNat s) .information) ∧
      sendNumber (controlByte (UInt8.ofNat r) (UInt8.ofNat s) .information) = s ∧
      receiveNumber (controlByte (UInt8.ofNat r) (UInt8.ofNat s) .information) = r := by
  decide

theorem controlByte_receiveReady : ∀ r, r < 8 → ∀ sss,
    IsReceiveReady (controlByte (UInt8.ofNat r) sss .receiveReady) ∧
      receiveNumber (controlByte (UInt8.ofNat r) sss .receiveReady) = r := by
  intro r bound sss
  have each : ∀ r, r < 8 →
      (UInt8.ofNat r <<< 5 &&& (0xE0 : UInt8) ||| 0x11) &&& 0xF = 0x1 ∧
        ((UInt8.ofNat r <<< 5 &&& (0xE0 : UInt8) ||| 0x11) >>> 5).toNat = r := by
    decide
  exact each r bound

/-- What was put and accepted since the last SNRM. -/
structure SequenceHistory where
  started : Bool
  sent : Nat
  accepted : Nat

def SequenceHistory.note (h : SequenceHistory) (s : System) : Event → SequenceHistory
  | .gwRun _ =>
      match s.puts with
      | some .snrm => ⟨true, 0, 0⟩
      | some .information => { h with sent := h.sent + 1 }
      | some _ => h
      | none =>
          if s.globals.gwState = .responseForMdm ∧ s.hdlcTmp.acceptedFrame.isSome then
            { h with accepted := h.accepted + 1 }
          else h
  | _ => h

/-- The data of the frame `f` in `hdlc` went where data go: a segment adds them to the collected
ones, a single frame hands them over behind the gateway prefix, a last one with those collected. -/
structure Conversion.Places (c : Conversion) (f : MeterFrame) (hdlc : Buffer) (g : Globals) :
    Prop where
  segment : hdlc.Segmented → g.lastByteBuffer.toNat + f.dataLen ≤ 8152 →
    c.globals.collected = g.collected ++ f.data hdlc.rxByte
  single : ¬ hdlc.Segmented → g.segmentBit ≠ .middleFrame →
    c.gw.outgoing =
      (f.gatewayPrefix (UInt16.ofNat (f.apduLenReal + f.addLen)) ++ f.data hdlc.rxByte).take
        (f.prefixSize + f.apduLenReal - 3)
  last : ¬ hdlc.Segmented → g.segmentBit = .middleFrame →
    f.prefixSize + (g.lastByteBuffer.toNat + f.dataLen) ≤ 4099 →
      c.gw.outgoing =
        (f.gatewayPrefix (UInt16.ofNat (f.prefixSize + (g.lastByteBuffer.toNat + f.dataLen) - 8)) ++
          (g.collected ++ f.data hdlc.rxByte)).take
            (f.prefixSize + (g.lastByteBuffer.toNat + f.dataLen) - 3)

/-- The frames put carry the numbers counted since the last SNRM, and a conversion counts and
places a frame exactly if it passes the converter's checks. -/
def Sequenced (p : System × SequenceHistory) : Event → Prop
  | .gwRun now =>
      (p.2.started = true → p.1.puts = some .information →
        IsInformation (p.1.toGwRun.step now).hdlc.sentControl ∧
          sendNumber (p.1.toGwRun.step now).hdlc.sentControl = p.2.sent % 8 ∧
          receiveNumber (p.1.toGwRun.step now).hdlc.sentControl = p.2.accepted % 8) ∧
      (p.2.started = true → p.1.puts = some .receiveReady →
        IsReceiveReady (p.1.toGwRun.step now).hdlc.sentControl ∧
          receiveNumber (p.1.toGwRun.step now).hdlc.sentControl = p.2.accepted % 8) ∧
      (p.1.globals.gwState = .responseForMdm →
        (p.1.toGwRun.step now).ctrl.rrr =
            (if p.1.hdlcTmp.acceptedFrame.isSome then nextNumber p.1.ctrl.rrr
              else p.1.ctrl.rrr) ∧
          (∀ f ∈ p.1.hdlcTmp.acceptedFrame,
            (meter2GwFrameConvertor p.1.hdlcTmp p.1.gw p.1.globals p.1.ctrl).Places f p.1.hdlcTmp
              p.1.globals) ∧
          (p.1.hdlcTmp.acceptedFrame = none →
            (meter2GwFrameConvertor p.1.hdlcTmp p.1.gw p.1.globals p.1.ctrl).PlacesNothing p.1.gw
              p.1.globals))
  | _ => True

theorem SequenceHistory.note_other (h : SequenceHistory) (s : System) {e : Event}
    (other : ¬ System.IsGwRun e) : h.note s e = h := by
  cases e with
  | gwRun now => exact absurd trivial other
  | _ => rfl

def Counted (s : GwRun) (h : SequenceHistory) : Prop :=
  h.started = true → s.ctrl.rrr.toNat = h.accepted % 8 ∧ s.ctrl.sss.toNat = h.sent % 8

theorem eq_ofNat_of_toNat {b : UInt8} {n : Nat} (value : b.toNat = n) : b = UInt8.ofNat n := by
  rw [← value, UInt8.ofNat_toNat]

theorem counted_step {s : System} {h : SequenceHistory} (now : Timeval)
    (counted : Counted s.toGwRun h) :
    Counted (s.toGwRun.step now) (h.note s (.gwRun now)) := by
  have rrr_eq : (s.toGwRun.step now).ctrl.rrr = (s.toGwRun.step now).numbers.1 := rfl
  have sss_eq : (s.toGwRun.step now).ctrl.sss = (s.toGwRun.step now).numbers.2 := rfl
  rw [Counted, rrr_eq, sss_eq, SequenceHistory.note]
  cases put : s.puts with
  | some frame =>
      cases frame with
      | snrm =>
          rw [(GwRun.step_snrm now put).1]
          exact fun _ => ⟨rfl, rfl⟩
      | information =>
          rw [(GwRun.step_information now put).1]
          intro started
          obtain ⟨rrr, sss⟩ := counted started
          exact ⟨rrr, toNat_nextNumber sss⟩
      | receiveReady =>
          rw [(GwRun.step_receiveReady now put).1]
          exact counted
      | disc =>
          rw [GwRun.numbers_step_of_disc now put]
          exact counted
  | none =>
      by_cases converting : s.globals.gwState = .responseForMdm
      · rw [GwRun.numbers_step_of_conversion now converting]
        by_cases accepted : s.hdlcTmp.acceptedFrame.isSome
        · rw [if_pos accepted]
          dsimp only
          rw [if_pos ⟨converting, accepted⟩]
          intro started
          obtain ⟨rrr, sss⟩ := counted started
          exact ⟨toNat_nextNumber rrr, sss⟩
        · rw [if_neg accepted]
          dsimp only
          rw [if_neg fun both => accepted both.2]
          exact counted
      · rw [GwRun.numbers_step_of_silent now put converting]
        dsimp only
        rw [if_neg fun both => converting both.1]
        exact counted

/-- The length field says 2049 at most, so that a single frame always fits. -/
theorem places_of_accepted {hdlc : Buffer} {f : MeterFrame} (gw : Buffer) (g : Globals)
    (ctrl : CtrlByteStr) (accepted : hdlc.Accepted f) :
    (meter2GwFrameConvertor hdlc gw g ctrl).Places f hdlc g := by
  have outcome := convertor_of_accepted hdlc gw g ctrl accepted
  constructor
  · intro segmented room
    rw [outcome, classify_middle segmented, deliver_middle _ _ _ _ _ rfl]
    exact collected_collect hdlc.rxByte f
      { g with segmentBit := .middleFrame, gwState := .segment } room
  · intro whole fresh
    have size := size_of_located accepted.1.2
    have bound := recDataSize_le hdlc.rxByte
    have short := prefixSize_le f
    rw [outcome, classify_single whole fresh]
    apply outgoing_single _ _ _ _ _ rfl
    rw [MeterFrame.apduLenReal]
    omega
  · intro whole midway room
    have count := toNat_lastByteBuffer_collect hdlc.rxByte f
      { g with segmentBit := .lastFrame, gwState := .waitForGetFrame }
      (by dsimp only; omega)
    have data := collected_collect hdlc.rxByte f
      { g with segmentBit := .lastFrame, gwState := .waitForGetFrame }
      (by dsimp only; omega)
    rw [outcome, classify_last whole midway, outgoing_last _ _ _ _ _ rfl (by rw [count]; exact room),
      count, data]
    rfl

theorem sequenced_of_counted {s : System} {h : SequenceHistory} (now : Timeval)
    (counted : Counted s.toGwRun h) : Sequenced (s, h) (.gwRun now) := by
  refine ⟨?_, ?_, ?_⟩
  · intro started put
    obtain ⟨rrr, sss⟩ := counted started
    rw [(GwRun.step_information now put).2.2.2.2.2, eq_ofNat_of_toNat rrr, eq_ofNat_of_toNat sss]
    exact controlByte_information _ (Nat.mod_lt _ (by decide)) _ (Nat.mod_lt _ (by decide))
  · intro started put
    obtain ⟨rrr, -⟩ := counted started
    rw [(GwRun.step_receiveReady now put).2.2.2.2.2, eq_ofNat_of_toNat rrr]
    exact controlByte_receiveReady _ (Nat.mod_lt _ (by decide)) _
  · intro converting
    have numbers := GwRun.numbers_step_of_conversion now converting
    refine ⟨?_, ?_, ?_⟩
    · show (s.toGwRun.step now).numbers.1 = _
      rw [numbers]
      split <;> rfl
    · exact fun f accepted => places_of_accepted _ _ _ (Buffer.acceptedFrame_eq_some.mp accepted)
    · intro refused
      have none_ : ∀ f, ¬ s.hdlcTmp.Accepted f := by
        intro f accepted
        rw [Buffer.acceptedFrame_eq_some.mpr accepted] at refused
        cases refused
      rcases convertor_cases s.hdlcTmp s.gw s.globals s.ctrl with
        ⟨-, code, -, outcome⟩ | ⟨-, -, code, -, outcome⟩ | ⟨f, accepted, -⟩
      · rw [outcome]
        exact ⟨rfl, .inl ⟨rfl, rfl⟩⟩
      · rw [outcome]
        exact placesNothing_classify s.gw s.globals s.ctrl code _
      · exact absurd accepted (none_ f)

/-- In every run, from the first SNRM on, the frames put are numbered modulo 8 since the last
SNRM. -/
theorem frames_sequenced (s : System) (es : List Event) :
    Runs.Along (Runs.observed System.step SequenceHistory.note) Sequenced
      (s, ⟨false, 0, 0⟩) es := by
  apply Runs.along_of_invariant (fun _ _ => True) (fun p => Counted p.1.toGwRun p.2)
  · intro p e counted _
    by_cases own : System.IsGwRun e
    · obtain ⟨now, rfl⟩ := System.exists_of_isGwRun own
      exact counted_step now counted
    · rw [Counted, Runs.observed, p.2.note_other p.1 own, System.toGateway_step p.1 e own]
      exact counted
  · intro p e counted _
    cases e with
    | gwRun now => exact sequenced_of_counted now counted
    | _ => trivial
  · intro started
    cases started
  · exact Runs.Along.of_all (by simp) es _

section LateFrame

/-- The AARQ of client 16 for meter 1/17. -/
def associationRequest : List UInt8 :=
  [0, 1, 0, 16, 0, 1, 0, 7, 0xE6, 0, 1, 17, 0x60, 0x02, 0x80, 0x00]

/-- The UA frame of meter 1/17 to client 16. -/
def uaFrame : List UInt8 := [0x7E, 0xA0, 0x08, 0x21, 0x02, 0x23, 0x73, 0x7A, 0x43, 0x7E]

/-- A frame numbered N(S) = 3, N(R) = 1, when the first one is expected. -/
def lateFrame : List UInt8 :=
  meterLink.iFrame false 0x36 [0xE6, 0xE7, 0x00, 0x61, 0x02, 0x80, 0x00]

def associationReceived : Event :=
  .clientRecv (some ⟨associationRequest, by decide⟩) System.noReply

def lateRead : Event := readFrame lateFrame (by decide +kernel)

/-- An association up to the conversion of the frame that answers the AARQ. -/
def lateRun : List Event :=
  [.clientConnect, associationReceived, .gwRun ⟨0, 0⟩, .gwRun ⟨0, 0⟩,
    readFrame uaFrame (by decide), .gwRun ⟨0, 0⟩, .gwRun ⟨0, 0⟩, lateRead, .gwRun ⟨0, 0⟩]

/-- A frame that is not the next one in sequence is accepted, on a link that an SNRM and its UA
have opened. -/
theorem late_frame_accepted :
    ¬ ∀ (s : System) (es : List Event) (now : Timeval) (f : MeterFrame), s.Initial →
      let p := Runs.run (Runs.observed System.step SequenceHistory.note) (s, ⟨false, 0, 0⟩) es
      p.2.started = true → 0 < p.2.sent → p.1.globals.gwState = .responseForMdm →
      p.1.hdlcTmp.CarriesFrame f →
      (p.1.toGwRun.step now).ctrl.rrr = nextNumber p.1.ctrl.rrr →
        IsInformation (p.1.hdlcTmp.rxByte (f.addEnd + 1)) ∧
          sendNumber (p.1.hdlcTmp.rxByte (f.addEnd + 1)) = p.1.ctrl.rrr.toNat := by
  intro always
  have inSequence := always System.start lateRun ⟨0, 0⟩ ⟨19, 16, 1, 17, 5⟩ System.start_initial
    (by decide +kernel) (by decide +kernel) (by decide +kernel)
    ⟨by decide +kernel, by decide +kernel⟩ (by decide +kernel)
  revert inSequence
  decide +kernel

end LateFrame
end DlmsGateway
