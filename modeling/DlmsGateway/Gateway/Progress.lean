import DlmsGateway.Connection.Threads
import DlmsGateway.Gateway.Phases

/-!
# Progress after a reply

`GW_Run` leaves `RESPONSE_FOR_MDM` through the classification inside the
converter.  Bytes that fail the two checks before it are converted again and
again: nothing the other threads do changes `HDLC_tmp`.
-/
set_option autoImplicit false
namespace DlmsGateway

open ByteStore

namespace GwRun

theorem gwState_convertor_of_format_right (hdlc gw : Buffer) (g : Globals) (ctrl : CtrlByteStr)
    (right : hdlc.FormatRight) :
    (meter2GwFrameConvertor hdlc gw g ctrl).globals.gwState =
      (g.classify (hdlc.rxByte 1)).gwState := by
  rcases convertor_cases hdlc gw g ctrl with
    ⟨wrong, -⟩ | ⟨-, -, code, -, outcome⟩ | ⟨f, -, outcome⟩
  · exact absurd right wrong
  · rw [outcome]
  · rw [outcome, gwState_deliver]

theorem gwState_of_converting (s : GwRun) (now : Timeval)
    (converting : s.globals.gwState = .responseForMdm) :
    (s.step now).globals.gwState = .waitForGetFrame ∨
      (s.step now).globals.gwState = .segment ∨
      (s.step now).globals.gwState = .responseForMdm := by
  simp only [step, converting]
  by_cases right : s.hdlcTmp.FormatRight
  · rw [globals_responseForMdm]
    dsimp only
    split
    · exact .inl rfl
    · rw [gwState_convertor_of_format_right _ _ _ _ right, gwState_classify]
      split
      · exact .inr (.inl rfl)
      · exact .inl rfl
  · rw [responseForMdm_of_format_wrong s right]
    exact .inr (.inr converting)

/-- One conversion leads out of `RESPONSE_FOR_MDM` exactly when the received bytes start with the
flag and a format field of type 3. -/
theorem leaves_responseForMdm_iff (s : GwRun) (now : Timeval)
    (converting : s.globals.gwState = .responseForMdm) :
    (s.step now).globals.gwState ≠ .responseForMdm ↔ s.hdlcTmp.FormatRight := by
  have stepped : s.step now = s.responseForMdm := by
    simp only [step, converting]
  rw [stepped]
  constructor
  · intro left
    by_contra wrong
    rw [responseForMdm_of_format_wrong s wrong] at left
    exact left converting
  · intro right
    rw [globals_responseForMdm]
    dsimp only
    split
    · simp
    · rw [gwState_convertor_of_format_right _ _ _ _ right, gwState_classify]
      split <;> decide

end GwRun

namespace System

/-- Once such bytes are to be converted, no step of any thread gets the gateway any further. -/
theorem stuck_in_responseForMdm (s : System) (converting : s.globals.gwState = .responseForMdm)
    (wrong : ¬ s.hdlcTmp.FormatRight) (es : List Event) :
    (Runs.run step s es).toGateway = s.toGateway := by
  refine Runs.invariant (fun _ _ => True) (fun t => t.toGateway = s.toGateway) ?_ es s rfl
    (Runs.Along.of_all (by simp) es s)
  intro t e same _
  by_cases own : IsGwRun e
  · cases e with
    | gwRun now =>
        have state : t.globals.gwState = .responseForMdm := by rw [same, converting]
        have kept : ¬ t.hdlcTmp.FormatRight := by rw [same]; exact wrong
        have stepped : t.toGwRun.step now = t.toGwRun := by
          simp only [GwRun.step, state]
          exact GwRun.responseForMdm_of_format_wrong t.toGwRun kept
        show (t.toGwRun.step now).toGateway = s.toGateway
        rw [stepped, same]
    | _ => exact absurd own id
  · rw [toGateway_step t e own, same]

/-- A GET request of client 16 for meter 1/17, then one byte of noise on the line. -/
def getRequest : List UInt8 :=
  [0, 1, 0, 16, 0, 1, 0, 8, 0xE6, 0, 1, 17, 0xC0, 0x01, 0x81, 0x00, 0x05]

def noReply : Chunk 1032 := ⟨[], by decide⟩

def getReceived : Event := .clientRecv (some ⟨getRequest, by decide⟩) noReply

def noiseRead : Event := .serialRead (some ⟨[0x00], by decide⟩)

def noisyRun : List Event :=
  [.clientConnect, getReceived, .gwRun ⟨0, 0⟩, .gwRun ⟨0, 0⟩, .serialWrite, noiseRead,
    .gwRun ⟨0, 0⟩]

theorem noise_converted_again :
    ¬ ∀ s : System, Reachable s → s.globals.gwState = .responseForMdm → ∀ now,
      (s.step (.gwRun now)).globals.gwState ≠ .responseForMdm := by
  intro always
  have left := always (Runs.run step start noisyRun) ⟨start, noisyRun, start_initial, rfl⟩
    (by decide +kernel) ⟨0, 0⟩
  revert left
  decide +kernel

end System

theorem GwRun.leaves_after_frame :
    ((Runs.run System.step System.start System.noisyRun).toGwRun.step ⟨0, 0⟩).globals.gwState ≠
        .responseForMdm ↔
      (Runs.run System.step System.start System.noisyRun).hdlcTmp.FormatRight :=
  GwRun.leaves_responseForMdm_iff _ _ (by decide +kernel)

end DlmsGateway
