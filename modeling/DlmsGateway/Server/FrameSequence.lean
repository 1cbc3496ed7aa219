import DlmsGateway.Lib.Hdlc
import DlmsGateway.Lib.Runs

/-!
# The frame numbers of the HDLC interface

`dlmsSettings.c` keeps the control fields of the last frame sent and of the
last one received, on both sides.  A client and a server that take turns on the
line stay in step: each frame is accepted when it comes first and an
information frame is refused when it comes again.
-/
set_option autoImplicit false
namespace DlmsGateway.HdlcLink

open Hdlc Runs

/-- The members of `dlmsSettings` for HDLC, and `pushClientAddress` of the server's settings. -/
structure HdlcSettings where
  server : Bool
  clientAddress : UInt16
  serverAddress : UInt32
  maxInfoTX : UInt16
  windowSizeRX : UInt8
  senderFrame : UInt8
  receiverFrame : UInt8
  pushClientAddress : UInt16
deriving DecidableEq

def serverStartSenderFrameSequence : UInt8 := 0x1E
def serverStartReceiverFrameSequence : UInt8 := 0xFE
def clientStartSenderFrameSequence : UInt8 := 0xFE
def clientStartReceiverFrameSequence : UInt8 := 0xE

def increaseReceiverSequence (value : UInt8) : UInt8 := (value + 0x20) ||| 0x10 ||| (value &&& 0xE)

def increaseSendSequence (value : UInt8) : UInt8 := (value &&& 0xF0) ||| ((value + 0x2) &&& 0xE)

namespace HdlcSettings

def resetFrameSequence (s : HdlcSettings) : HdlcSettings :=
  if s.server then
    { s with
      senderFrame := serverStartSenderFrameSequence
      receiverFrame := serverStartReceiverFrameSequence }
  else
    { s with
      senderFrame := clientStartSenderFrameSequence
      receiverFrame := clientStartReceiverFrameSequence }

/-- The numbers with which `checkFrame` takes an information frame. -/
def expects (s : HdlcSettings) (frame : UInt8) : Bool :=
  if s.senderFrame &&& 0x1 = 0 then
    let expected := increaseReceiverSequence (increaseSendSequence s.receiverFrame)
    let expectedNext := 0x10 ||| increaseSendSequence s.receiverFrame
    frame == expected || (frame == (expected &&& ~~~0x10) && s.windowSizeRX != 1) ||
      (s.receiverFrame &&& 0x10 == 0 && s.windowSizeRX != 1 &&
        (frame == expectedNext || frame == (expectedNext &&& ~~~0x10)))
  else
    let expected := increaseSendSequence s.receiverFrame
    frame == expected || frame == (expected &&& ~~~0x10) ||
      (s.windowSizeRX != 1 && frame == (expected ||| 0x10))

/-- "Pre-established connections needs this." -/
def anyExpected (s : HdlcSettings) : Bool :=
  (!s.server && s.receiverFrame == serverStartReceiverFrameSequence) ||
    (s.server && s.receiverFrame == clientStartReceiverFrameSequence)

def checkFrame (s : HdlcSettings) (frame : UInt8) : HdlcSettings × Bool :=
  if frame = 0x13 then (s, true)
  else if frame &&& 0x3 = 3 then
    if frame = 0x93 then
      let isEcho := !s.server && (s.senderFrame == 0x10 || s.senderFrame == 0xFE) &&
        s.receiverFrame == 0xE
      (s.resetFrameSequence, !isEcho)
    else if frame = 0x73 ∧ s.server = false then
      (s, s.senderFrame == 0xFE && s.receiverFrame == 0xE)
    else (s, true)
  else if frame &&& 0x1 = 1 then
    if frame = s.senderFrame &&& 0xF1 then (s, false)
    else ({ s with receiverFrame := increaseReceiverSequence s.receiverFrame }, true)
  else if s.expects frame || s.anyExpected then ({ s with receiverFrame := frame }, true)
  else (s, false)

def getNextSend (s : HdlcSettings) (first : Bool) : HdlcSettings × UInt8 :=
  let frame :=
    if first then increaseReceiverSequence (increaseSendSequence s.senderFrame)
    else increaseSendSequence s.senderFrame
  ({ s with senderFrame := frame }, frame)

def getReceiverReady (s : HdlcSettings) : HdlcSettings × UInt8 :=
  let frame := increaseReceiverSequence (s.senderFrame ||| 1)
  ({ s with senderFrame := frame }, frame &&& 0xF1)

end HdlcSettings

/-! ## The parts of the numbers -/

section Parts
variable (value : UInt8)

theorem toNat_increaseReceiverSequence :
    (increaseReceiverSequence value).toNat =
      32 * ((value.toNat / 32 + 1) % 8) + 16 + value.toNat % 16 := by
  revert value
  apply forall_byte
  decide +kernel

theorem toNat_increaseSendSequence :
    (increaseSendSequence value).toNat =
      16 * (value.toNat / 16) + 2 * ((value.toNat / 2 % 8 + 1) % 8) := by
  revert value
  apply forall_byte
  decide +kernel

theorem toNat_or_one : (value ||| 1).toNat = 2 * (value.toNat / 2) + 1 := by
  revert value
  apply forall_byte
  decide +kernel

theorem toNat_and_F1 : (value &&& 0xF1).toNat = 16 * (value.toNat / 16) + value.toNat % 2 := by
  revert value
  apply forall_byte
  decide +kernel

theorem toNat_without_poll :
    (value &&& ~~~0x10).toNat = 32 * (value.toNat / 32) + value.toNat % 16 := by
  revert value
  apply forall_byte
  decide +kernel

theorem toNat_with_poll :
    (value ||| 0x10).toNat = 32 * (value.toNat / 32) + 16 + value.toNat % 16 := by
  revert value
  apply forall_byte
  decide +kernel

theorem toNat_and_three : (value &&& 0x3).toNat = value.toNat % 4 := by
  rw [UInt8.toNat_and]
  exact Nat.and_two_pow_sub_one_eq_mod value.toNat 2

@[simp] theorem waitedNumber_increaseReceiverSequence :
    waitedNumber (increaseReceiverSequence value) = (waitedNumber value + 1) % 8 := by
  simp only [waitedNumber, toNat_increaseReceiverSequence]
  omega

@[simp] theorem pollBit_increaseReceiverSequence :
    pollBit (increaseReceiverSequence value) = 1 := by
  simp only [pollBit, toNat_increaseReceiverSequence]
  omega

@[simp] theorem ownNumber_increaseReceiverSequence :
    ownNumber (increaseReceiverSequence value) = ownNumber value := by
  simp only [ownNumber, toNat_increaseReceiverSequence]
  omega

@[simp] theorem lowBit_increaseReceiverSequence :
    lowBit (increaseReceiverSequence value) = lowBit value := by
  simp only [lowBit, toNat_increaseReceiverSequence]
  omega

@[simp] theorem waitedNumber_increaseSendSequence :
    waitedNumber (increaseSendSequence value) = waitedNumber value := by
  simp only [waitedNumber, toNat_increaseSendSequence]
  omega

@[simp] theorem pollBit_increaseSendSequence :
    pollBit (increaseSendSequence value) = pollBit value := by
  simp only [pollBit, toNat_increaseSendSequence]
  omega

@[simp] theorem ownNumber_increaseSendSequence :
    ownNumber (increaseSendSequence value) = (ownNumber value + 1) % 8 := by
  simp only [ownNumber, toNat_increaseSendSequence]
  omega

@[simp] theorem lowBit_increaseSendSequence : lowBit (increaseSendSequence value) = 0 := by
  simp only [lowBit, toNat_increaseSendSequence]
  omega

@[simp] theorem waitedNumber_or_one : waitedNumber (value ||| 1) = waitedNumber value := by
  simp only [waitedNumber, toNat_or_one]
  omega

@[simp] theorem ownNumber_or_one : ownNumber (value ||| 1) = ownNumber value := by
  simp only [ownNumber, toNat_or_one]
  omega

@[simp] theorem lowBit_or_one : lowBit (value ||| 1) = 1 := by
  simp only [lowBit, toNat_or_one]
  omega

@[simp] theorem lowBit_and_F1 : lowBit (value &&& 0xF1) = lowBit value := by
  simp only [lowBit, toNat_and_F1]
  omega

theorem ownNumber_without_poll : ownNumber (value &&& ~~~0x10) = ownNumber value := by
  simp only [ownNumber, toNat_without_poll]
  omega

theorem ownNumber_with_poll : ownNumber (value ||| 0x10) = ownNumber value := by
  simp only [ownNumber, toNat_with_poll]
  omega

end Parts

/-! ## What `checkFrame` takes -/

namespace HdlcSettings
variable {s : HdlcSettings} {frame : UInt8}

theorem checkFrame_information (information : lowBit frame = 0) :
    s.checkFrame frame =
      if s.expects frame || s.anyExpected then ({ s with receiverFrame := frame }, true)
      else (s, false) := by
  have even : frame.toNat % 2 = 0 := information
  have notNotify : frame ≠ 0x13 := by
    intro same
    rw [same] at even
    exact absurd even (by decide)
  have notUnnumbered : frame &&& 0x3 ≠ 3 := by
    rw [Ne, ← UInt8.toNat_inj, toNat_and_three]
    intro same
    have : frame.toNat % 4 = 3 := same
    omega
  have notSupervisory : frame &&& 0x1 ≠ 1 := by
    rw [(lowBit_eq_zero_iff frame).mp information]
    decide
  rw [checkFrame, if_neg notNotify, if_neg notUnnumbered, if_neg notSupervisory]

theorem checkFrame_odd (supervisory : frame.toNat % 4 = 1) :
    s.checkFrame frame =
      if frame = s.senderFrame &&& 0xF1 then (s, false)
      else ({ s with receiverFrame := increaseReceiverSequence s.receiverFrame }, true) := by
  have notNotify : frame ≠ 0x13 := by
    intro same
    rw [same] at supervisory
    exact absurd supervisory (by decide)
  have notUnnumbered : frame &&& 0x3 ≠ 3 := by
    rw [Ne, ← UInt8.toNat_inj, toNat_and_three, supervisory]
    decide
  have low : frame &&& 0x1 = 1 := by
    rw [← UInt8.toNat_inj, UInt8.toNat_and]
    show frame.toNat &&& 1 = 1
    rw [Nat.and_one_is_mod]
    omega
  rw [checkFrame, if_neg notNotify, if_neg notUnnumbered, if_pos low]

/-- A supervisory frame other than the last one sent counts as received. -/
theorem checkFrame_supervisory (supervisory : frame.toNat % 4 = 1)
    (other : frame ≠ s.senderFrame &&& 0xF1) :
    s.checkFrame frame =
      ({ s with receiverFrame := increaseReceiverSequence s.receiverFrame }, true) :=
  (checkFrame_odd supervisory).trans (if_neg other)

/-- Whichever branch takes it, an expected frame has the next number. -/
theorem ownNumber_of_expects (expected : s.expects frame = true) :
    ownNumber frame = (ownNumber s.receiverFrame + 1) % 8 := by
  unfold expects at expected
  have polled : ownNumber (0x10 ||| increaseSendSequence s.receiverFrame) =
      (ownNumber s.receiverFrame + 1) % 8 := by
    rw [UInt8.or_comm, ownNumber_with_poll, ownNumber_increaseSendSequence]
  split at expected
  · simp only [Bool.or_eq_true, Bool.and_eq_true, beq_iff_eq] at expected
    rcases expected with (same | same) | same
    · rw [same, ownNumber_increaseReceiverSequence, ownNumber_increaseSendSequence]
    · rw [same.1, ownNumber_without_poll, ownNumber_increaseReceiverSequence,
        ownNumber_increaseSendSequence]
    · cases same.2 with
      | inl same => rw [same, polled]
      | inr same => rw [same, ownNumber_without_poll, polled]
  · simp only [Bool.or_eq_true, Bool.and_eq_true, beq_iff_eq] at expected
    rcases expected with (same | same) | same
    · rw [same, ownNumber_increaseSendSequence]
    · rw [same, ownNumber_without_poll, ownNumber_increaseSendSequence]
    · rw [same.2, ownNumber_with_poll, ownNumber_increaseSendSequence]

theorem checkFrame_again (information : lowBit frame = 0) (last : s.receiverFrame = frame) :
    s.checkFrame frame = (s, s.anyExpected) := by
  have unexpected : s.expects frame = false := by
    cases answer : s.expects frame with
    | false => rfl
    | true =>
        have next := ownNumber_of_expects answer
        have bound := ownNumber_lt frame
        rw [last] at next
        omega
  rw [checkFrame_information information, unexpected, Bool.false_or]
  cases s.anyExpected with
  | false => rfl
  | true =>
      rw [← last]
      rfl

theorem checkFrame_next (turn : lowBit s.senderFrame = 0)
    (next : frame = increaseReceiverSequence (increaseSendSequence s.receiverFrame)) :
    s.checkFrame frame = ({ s with receiverFrame := frame }, true) := by
  have information : lowBit frame = 0 := by
    rw [next, lowBit_increaseReceiverSequence, lowBit_increaseSendSequence]
  have expected : s.expects frame = true := by
    rw [expects, if_pos ((lowBit_eq_zero_iff _).mp turn), next]
    simp only [beq_self_eq_true, Bool.true_or]
  rw [checkFrame_information information, expected, Bool.true_or, if_pos rfl]

/-- Behind a "receiver ready" only the number of the frame goes on. -/
theorem checkFrame_continued (turn : lowBit s.senderFrame = 1)
    (next : frame = increaseSendSequence s.receiverFrame) :
    s.checkFrame frame = ({ s with receiverFrame := frame }, true) := by
  have information : lowBit frame = 0 := by rw [next, lowBit_increaseSendSequence]
  have odd : ¬ s.senderFrame &&& 0x1 = 0 := by
    rw [← lowBit_eq_zero_iff, turn]
    decide
  have expected : s.expects frame = true := by
    rw [expects, if_neg odd, next]
    simp only [beq_self_eq_true, Bool.true_or]
  rw [checkFrame_information information, expected, Bool.true_or, if_pos rfl]

end HdlcSettings

/-! ## A client and a server on the line -/

/-- The two sides, the frames of a request that the client has numbered but not sent, and the
number of frames of the reply that it has not asked for. -/
structure Link where
  client : HdlcSettings
  server : HdlcSettings
  pending : List UInt8
  replyLeft : Nat

/-- What the client may do when it has the line. -/
inductive Exchange where
  | snrm
  /-- A request of one frame and so many further ones. -/
  | request (further replies : Nat)
  /-- The next frame of the request; the reply to the last takes so many frames more than one. -/
  | next (replies : Nat)
  /-- Asks for the next frame of the reply. -/
  | receiverReady

/-- The numbers of the frames behind the first one of a request. -/
def furtherFrames : Nat → HdlcSettings → HdlcSettings × List UInt8
  | 0, s => (s, [])
  | n + 1, s =>
      let (s, frame) := s.getNextSend false
      let (s, frames) := furtherFrames n s
      (s, frame :: frames)

namespace Link

def clientSends (l : Link) : Exchange → Link × UInt8
  | .snrm => ({ l with client := l.client.resetFrameSequence, pending := [], replyLeft := 0 }, 0x93)
  | .request further _ =>
      let (client, frame) := l.client.getNextSend true
      let (client, pending) := furtherFrames further client
      ({ l with client := client, pending := pending, replyLeft := 0 }, frame)
  | .next _ => ({ l with pending := l.pending.tail }, l.pending.headD 0)
  | .receiverReady =>
      let (client, frame) := l.client.getReceiverReady
      ({ l with client := client }, frame)

/-- Behind the last frame of a request the reply, behind the others "receiver ready". -/
def answers (l : Link) (replies : Nat) : Link × UInt8 :=
  if l.pending = [] then
    let (server, frame) := l.server.getNextSend true
    ({ l with server := server, replyLeft := replies }, frame)
  else
    let (server, frame) := l.server.getReceiverReady
    ({ l with server := server }, frame)

def serverSends (l : Link) : Exchange → Link × UInt8
  | .snrm => (l, 0x73)
  | .request _ replies => l.answers replies
  | .next replies => l.answers replies
  | .receiverReady =>
      let (server, frame) := l.server.getNextSend false
      ({ l with server := server, replyLeft := l.replyLeft - 1 }, frame)

def serverChecks (l : Link) (frame : UInt8) : Link × Bool :=
  let (server, taken) := l.server.checkFrame frame
  ({ l with server := server }, taken)

def clientChecks (l : Link) (frame : UInt8) : Link × Bool :=
  let (client, taken) := l.client.checkFrame frame
  ({ l with client := client }, taken)

/-- One frame of each side, and what the two sides made of it. -/
structure Turn where
  request : UInt8
  requestTaken : Bool
  reply : UInt8
  replyTaken : Bool
  after : Link

def turn (l : Link) (e : Exchange) : Turn :=
  let sent := l.clientSends e
  let checked := sent.1.serverChecks sent.2
  let answered := checked.1.serverSends e
  let closed := answered.1.clientChecks answered.2
  ⟨sent.2, checked.2, answered.2, closed.2, closed.1⟩

def step (l : Link) (e : Exchange) : Link := (l.turn e).after

/-- The client sends a request as a whole and asks only for what is left of a reply. -/
def Admits (l : Link) : Exchange → Prop
  | .snrm => True
  | .request .. => l.pending = []
  | .next _ => l.pending ≠ []
  | .receiverReady => l.pending = [] ∧ l.replyLeft ≠ 0

instance (l : Link) (e : Exchange) : Decidable (l.Admits e) := by
  cases e <;> unfold Admits <;> infer_instance

/-- Both sides have taken the other's frame, and an information frame that comes again is refused
(by the client, unless its numbers are the largest). -/
def OnceEach (l : Link) (e : Exchange) : Prop :=
  (l.turn e).requestTaken = true ∧ (l.turn e).replyTaken = true ∧
    (lowBit (l.turn e).request = 0 →
      (l.step e).server.checkFrame (l.turn e).request = ((l.step e).server, false)) ∧
    (lowBit (l.turn e).reply = 0 →
      (l.step e).client.checkFrame (l.turn e).reply =
        ((l.step e).client, (l.turn e).reply == 0xFE))

end Link

/-- Each number goes one on from the one before it. -/
def Chained : UInt8 → List UInt8 → Prop
  | _, [] => True
  | before, frame :: frames => frame = increaseSendSequence before ∧ Chained frame frames

theorem furtherFrames_eq (n : Nat) : ∀ s : HdlcSettings, ∃ last,
    (furtherFrames n s).1 = { s with senderFrame := last } ∧
      waitedNumber last = waitedNumber s.senderFrame ∧
      ownNumber last = (ownNumber s.senderFrame + n) % 8 ∧
      (lowBit s.senderFrame = 0 → lowBit last = 0) ∧
      (furtherFrames n s).2.length = n ∧ Chained s.senderFrame (furtherFrames n s).2 := by
  induction n with
  | zero =>
      intro s
      have bound := ownNumber_lt s.senderFrame
      exact ⟨s.senderFrame, rfl, rfl, by omega, id, rfl, trivial⟩
  | succ n ih =>
      intro s
      obtain ⟨last, settings, received, sent, low, length, chained⟩ := ih (s.getNextSend false).1
      have next : (s.getNextSend false).1.senderFrame = increaseSendSequence s.senderFrame := rfl
      rw [next] at received sent low chained
      rw [waitedNumber_increaseSendSequence] at received
      rw [ownNumber_increaseSendSequence] at sent
      exact ⟨last, settings, received, by omega, fun _ => low (lowBit_increaseSendSequence _),
        congrArg (· + 1) length, rfl, chained⟩

/-- What the two sides know of each other, whoever has the line. -/
structure Agreeing (l : Link) : Prop where
  isClient : l.client.server = false
  isServer : l.server.server = true
  replyReceived : waitedNumber l.client.receiverFrame = waitedNumber l.server.senderFrame
  replySent : ownNumber l.client.receiverFrame = ownNumber l.server.senderFrame
  replyInformation : lowBit l.client.receiverFrame = 0
  requestReceived : waitedNumber l.client.senderFrame = waitedNumber l.server.receiverFrame
  requestSent : ownNumber l.client.senderFrame =
    (ownNumber l.server.receiverFrame + l.pending.length) % 8
  requestPolls : pollBit l.server.receiverFrame = 1
  requestInformation : lowBit l.server.receiverFrame = 0
  chained : Chained l.server.receiverFrame l.pending

structure Synchronous (l : Link) : Prop extends Agreeing l where
  replied : l.pending = [] → lowBit l.server.senderFrame = 0
  acknowledged : l.pending ≠ [] → lowBit l.server.senderFrame = 1 ∧ lowBit l.client.senderFrame = 0
  goesOn : l.replyLeft ≠ 0 → l.pending = [] ∧ l.client.receiverFrame = l.server.senderFrame

/-- The numbers of the server stay away from the one with which everything is taken. -/
theorem Agreeing.anyExpected {l : Link} (agree : Agreeing l) : l.server.anyExpected = false := by
  have polls : l.server.receiverFrame ≠ clientStartReceiverFrameSequence := by
    intro same
    have one := agree.requestPolls
    rw [same] at one
    exact absurd one (by decide)
  rw [HdlcSettings.anyExpected, agree.isServer]
  simpa using polls

theorem anyExpected_client {s : HdlcSettings} (client : s.server = false) :
    s.anyExpected = (s.receiverFrame == 0xFE) := by
  rw [HdlcSettings.anyExpected, client, Bool.not_false, Bool.true_and, Bool.false_and, Bool.or_false]
  rfl

namespace Link

theorem answers_agree {l : Link} (agree : Agreeing l) (turn : lowBit l.client.senderFrame = 0)
    (waiting : l.replyLeft = 0) (replies : Nat) :
    let answered := l.answers replies
    let closed := answered.1.clientChecks answered.2
    closed.2 = true ∧ Synchronous closed.1 ∧ closed.1.server.receiverFrame = l.server.receiverFrame ∧
      (lowBit answered.2 = 0 → closed.1.client.receiverFrame = answered.2) := by
  intro answered closed
  by_cases sent : l.pending = []
  · let frame := increaseReceiverSequence (increaseSendSequence l.server.senderFrame)
    have answer : answered = ({ l with
        server := { l.server with senderFrame := frame }, replyLeft := replies }, frame) :=
      if_pos sent
    have next : frame = increaseReceiverSequence (increaseSendSequence l.client.receiverFrame) := by
      rw [control_eq_iff]
      simp [frame, agree.replyReceived, agree.replySent]
    have low : lowBit frame = 0 := by simp [frame]
    have close : closed = ({ l with
        client := { l.client with receiverFrame := frame },
        server := { l.server with senderFrame := frame }, replyLeft := replies }, true) := by
      simp only [closed, answer, clientChecks, HdlcSettings.checkFrame_next turn next]
    rw [close, answer]
    have synchronous : Synchronous { l with
        client := { l.client with receiverFrame := frame },
        server := { l.server with senderFrame := frame }, replyLeft := replies } :=
      { agree with
        replyReceived := rfl
        replySent := rfl
        replyInformation := low
        replied := fun _ => low
        acknowledged := fun more => absurd sent more
        goesOn := fun _ => ⟨sent, rfl⟩ }
    exact ⟨rfl, synchronous, rfl, fun _ => rfl⟩
  · let frame := increaseReceiverSequence (l.server.senderFrame ||| 1)
    have answer : answered =
        ({ l with server := { l.server with senderFrame := frame } }, frame &&& 0xF1) := if_neg sent
    have odd : lowBit (frame &&& 0xF1) = 1 := by simp [frame]
    have supervisory : (frame &&& 0xF1).toNat % 4 = 1 := by
      have odd : frame.toNat % 2 = 1 := by
        show lowBit frame = 1
        simp [frame]
      rw [toNat_and_F1]
      omega
    have other : frame &&& 0xF1 ≠ l.client.senderFrame &&& 0xF1 := by
      intro same
      rw [same, lowBit_and_F1, turn] at odd
      exact absurd odd (by decide)
    have close : closed = ({ l with
        client := { l.client with
          receiverFrame := increaseReceiverSequence l.client.receiverFrame },
        server := { l.server with senderFrame := frame } }, true) := by
      simp only [closed, answer, clientChecks,
        HdlcSettings.checkFrame_supervisory supervisory other]
    rw [close, answer]
    have synchronous : Synchronous { l with
        client := { l.client with
          receiverFrame := increaseReceiverSequence l.client.receiverFrame },
        server := { l.server with senderFrame := frame } } :=
      { agree with
        replyReceived := by simp [frame, agree.replyReceived]
        replySent := by simp [frame, agree.replySent]
        replyInformation := by simp [agree.replyInformation]
        replied := fun done => absurd done sent
        acknowledged := fun _ => ⟨by simp [frame], turn⟩
        goesOn := fun more => absurd waiting more }
    exact ⟨rfl, synchronous, rfl, fun low => absurd (low.symm.trans odd) (by decide)⟩

/-- An exchange closed by `answers`: the request is not taken again, nor is the reply. -/
theorem onceEach_of_answers {l heard : Link} {e : Exchange} {replies : Nat}
    (sent : (l.clientSends e).1.serverChecks (l.clientSends e).2 = (heard, true))
    (answered : heard.serverSends e = heard.answers replies) (agree : Agreeing heard)
    (turn : lowBit heard.client.senderFrame = 0) (waiting : heard.replyLeft = 0)
    (received : heard.server.receiverFrame = (l.clientSends e).2) :
    l.OnceEach e ∧ Synchronous (l.step e) := by
  obtain ⟨taken, synchronous, kept, replied⟩ := answers_agree agree turn waiting replies
  have after : l.turn e = ⟨(l.clientSends e).2, true, (heard.answers replies).2,
      ((heard.answers replies).1.clientChecks (heard.answers replies).2).2,
      ((heard.answers replies).1.clientChecks (heard.answers replies).2).1⟩ := by
    simp only [Link.turn, sent, answered]
  rw [OnceEach, step, after]
  refine ⟨⟨rfl, taken, fun information => ?_, fun information => ?_⟩, synchronous⟩
  · rw [HdlcSettings.checkFrame_again information (kept.trans received),
      synchronous.toAgreeing.anyExpected]
  · rw [HdlcSettings.checkFrame_again information (replied information),
      anyExpected_client synchronous.isClient, replied information]

/-- The link behind SNRM and UA, whatever it was before. -/
def connected (l : Link) : Link where
  client := l.client.resetFrameSequence
  server := l.server.resetFrameSequence
  pending := []
  replyLeft := 0

theorem connected_synchronous {l : Link} (client : l.client.server = false)
    (server : l.server.server = true) : Synchronous l.connected := by
  have c : l.client.resetFrameSequence = { l.client with
      senderFrame := 0xFE, receiverFrame := 0xE } := by
    simp [HdlcSettings.resetFrameSequence, client, clientStartSenderFrameSequence,
      clientStartReceiverFrameSequence]
  have v : l.server.resetFrameSequence = { l.server with
      senderFrame := 0x1E, receiverFrame := 0xFE } := by
    simp [HdlcSettings.resetFrameSequence, server, serverStartSenderFrameSequence,
      serverStartReceiverFrameSequence]
  rw [connected, c, v]
  exact
    { isClient := client
      isServer := server
      replyReceived := show waitedNumber 0xE = waitedNumber 0x1E from rfl
      replySent := show ownNumber 0xE = ownNumber 0x1E from rfl
      replyInformation := show lowBit 0xE = 0 from rfl
      requestReceived := rfl
      requestSent := show ownNumber 0xFE = (ownNumber 0xFE + 0) % 8 from rfl
      requestPolls := show pollBit 0xFE = 1 from rfl
      requestInformation := show lowBit 0xFE = 0 from rfl
      chained := trivial
      replied := fun _ => show lowBit 0x1E = 0 from rfl
      acknowledged := fun more => absurd rfl more
      goesOn := fun more => absurd rfl more }

theorem turn_snrm {l : Link} (client : l.client.server = false) (server : l.server.server = true) :
    l.turn .snrm = ⟨0x93, true, 0x73, true, l.connected⟩ := by
  have c : l.client.resetFrameSequence = { l.client with
      senderFrame := 0xFE, receiverFrame := 0xE } := by
    simp [HdlcSettings.resetFrameSequence, client, clientStartSenderFrameSequence,
      clientStartReceiverFrameSequence]
  have reset : l.server.checkFrame 0x93 = (l.server.resetFrameSequence, true) := by
    rw [HdlcSettings.checkFrame, if_neg (by decide), if_pos (by decide), if_pos rfl, server]
    rfl
  have connects : l.client.resetFrameSequence.checkFrame 0x73 =
      (l.client.resetFrameSequence, true) := by
    rw [c, HdlcSettings.checkFrame, if_neg (by decide), if_pos (by decide), if_neg (by decide),
      if_pos ⟨rfl, client⟩]
    rfl
  simp only [turn, clientSends, serverChecks, reset, serverSends, clientChecks, connects, connected]

theorem step_snrm {l : Link} (client : l.client.server = false) (server : l.server.server = true) :
    l.OnceEach .snrm ∧ Synchronous (l.step .snrm) := by
  rw [OnceEach, step, turn_snrm client server]
  have requestUnnumbered : lowBit 0x93 ≠ 0 := by decide
  have replyUnnumbered : lowBit 0x73 ≠ 0 := by decide
  exact ⟨⟨rfl, rfl, fun low => absurd low requestUnnumbered, fun low => absurd low replyUnnumbered⟩,
    connected_synchronous client server⟩

theorem step_request {l : Link} (synchronous : Synchronous l) (idle : l.pending = [])
    (further replies : Nat) :
    l.OnceEach (.request further replies) ∧ Synchronous (l.step (.request further replies)) := by
  let frame := increaseReceiverSequence (increaseSendSequence l.client.senderFrame)
  let first : HdlcSettings := { l.client with senderFrame := frame }
  obtain ⟨last, settings, received, sent, low, length, chained⟩ := furtherFrames_eq further first
  have requestSent := synchronous.requestSent
  rw [idle, List.length_nil, Nat.add_zero] at requestSent
  have next : frame = increaseReceiverSequence (increaseSendSequence l.server.receiverFrame) := by
    rw [control_eq_iff]
    simp [frame, synchronous.requestReceived, requestSent, Nat.add_mod]
  have information : lowBit frame = 0 := by simp [frame]
  let heard : Link :=
    { client := { first with senderFrame := last }
      server := { l.server with receiverFrame := frame }
      pending := (furtherFrames further first).2
      replyLeft := 0 }
  have checked : (l.clientSends (.request further replies)).1.serverChecks
      (l.clientSends (.request further replies)).2 = (heard, true) := by
    have taken := HdlcSettings.checkFrame_next (synchronous.replied idle) next
    show serverChecks { l with
      client := (furtherFrames further first).1
      pending := (furtherFrames further first).2
      replyLeft := 0 } frame = (heard, true)
    rw [settings]
    simp only [serverChecks, taken, heard]
  have agree : Agreeing heard :=
    { isClient := synchronous.isClient
      isServer := synchronous.isServer
      replyReceived := synchronous.replyReceived
      replySent := synchronous.replySent
      replyInformation := synchronous.replyInformation
      requestReceived := received
      requestSent := sent.trans (by rw [length])
      requestPolls := by simp [heard, frame]
      requestInformation := information
      chained := chained }
  exact onceEach_of_answers checked rfl agree (low information) rfl rfl

theorem step_next {l : Link} (synchronous : Synchronous l) (more : l.pending ≠ [])
    (replies : Nat) : l.OnceEach (.next replies) ∧ Synchronous (l.step (.next replies)) := by
  obtain ⟨frame, frames, split⟩ := List.exists_cons_of_ne_nil more
  obtain ⟨acknowledged, turn⟩ := synchronous.acknowledged more
  have chained := synchronous.chained
  rw [split] at chained
  obtain ⟨next, chained⟩ := chained
  have requestSent := synchronous.requestSent
  rw [split, List.length_cons] at requestSent
  have waiting : l.replyLeft = 0 :=
    Decidable.byContradiction fun left => more (synchronous.goesOn left).1
  let heard : Link := { l with server := { l.server with receiverFrame := frame }, pending := frames }
  have checked : (l.clientSends (.next replies)).1.serverChecks (l.clientSends (.next replies)).2 =
      (heard, true) := by
    have taken := HdlcSettings.checkFrame_continued acknowledged next
    simp only [clientSends, serverChecks, split, List.headD_cons, List.tail_cons, taken, heard]
  have sends : (l.clientSends (.next replies)).2 = frame := by
    simp only [clientSends, split, List.headD_cons]
  have agree : Agreeing heard :=
    { isClient := synchronous.isClient
      isServer := synchronous.isServer
      replyReceived := synchronous.replyReceived
      replySent := synchronous.replySent
      replyInformation := synchronous.replyInformation
      requestReceived := synchronous.requestReceived.trans (by simp [heard, next])
      requestSent := requestSent.trans (by
        simp only [heard, next, ownNumber_increaseSendSequence]
        omega)
      requestPolls := by simp [heard, next, synchronous.requestPolls]
      requestInformation := by simp [heard, next]
      chained := chained }
  exact onceEach_of_answers checked rfl agree turn waiting sends.symm

theorem step_receiverReady {l : Link} (synchronous : Synchronous l) (idle : l.pending = [])
    (left : l.replyLeft ≠ 0) :
    l.OnceEach .receiverReady ∧ Synchronous (l.step .receiverReady) := by
  let ready := increaseReceiverSequence (l.client.senderFrame ||| 1)
  let frame := increaseSendSequence l.server.senderFrame
  have odd : lowBit (ready &&& 0xF1) = 1 := by simp [ready]
  have supervisory : (ready &&& 0xF1).toNat % 4 = 1 := by
    have odd : ready.toNat % 2 = 1 := by
      show lowBit ready = 1
      simp [ready]
    rw [toNat_and_F1]
    omega
  have other : ready &&& 0xF1 ≠ l.server.senderFrame &&& 0xF1 := by
    intro same
    rw [same, lowBit_and_F1, synchronous.replied idle] at odd
    exact absurd odd (by decide)
  have information : lowBit frame = 0 := by simp [frame]
  have next : frame = increaseSendSequence l.client.receiverFrame := by
    rw [(synchronous.goesOn left).2]
  have turn : lowBit ready = 1 := by simp [ready]
  let after : Link :=
    { client := { l.client with senderFrame := ready, receiverFrame := frame }
      server := { l.server with
        senderFrame := frame
        receiverFrame := increaseReceiverSequence l.server.receiverFrame }
      pending := l.pending
      replyLeft := l.replyLeft - 1 }
  have exchanged : l.turn .receiverReady = ⟨ready &&& 0xF1, true, frame, true, after⟩ := by
    have heard := HdlcSettings.checkFrame_supervisory (s := l.server) supervisory other
    have taken := HdlcSettings.checkFrame_continued
      (s := { l.client with senderFrame := ready }) turn next
    simp only [Link.turn, clientSends, HdlcSettings.getReceiverReady, serverChecks]
    rw [heard]
    simp only [serverSends, HdlcSettings.getNextSend, clientChecks]
    rw [show (if false = true then increaseReceiverSequence (increaseSendSequence
      l.server.senderFrame) else increaseSendSequence l.server.senderFrame) = frame from rfl, taken]
  have kept : Synchronous after :=
    { isClient := synchronous.isClient
      isServer := synchronous.isServer
      replyReceived := rfl
      replySent := rfl
      replyInformation := information
      requestReceived := by simp [after, ready, synchronous.requestReceived]
      requestSent := by simp [after, ready, synchronous.requestSent]
      requestPolls := by simp [after]
      requestInformation := by simp [after, synchronous.requestInformation]
      chained := by simp [after, idle, Chained]
      replied := fun _ => information
      acknowledged := fun more => absurd idle more
      goesOn := fun _ => ⟨idle, rfl⟩ }
  rw [OnceEach, step, exchanged]
  refine ⟨⟨rfl, rfl, fun low => absurd (low.symm.trans odd) (by decide), fun _ => ?_⟩, kept⟩
  rw [HdlcSettings.checkFrame_again information rfl, anyExpected_client kept.isClient]

theorem step_synchronous {l : Link} (synchronous : Synchronous l) (e : Exchange)
    (admitted : l.Admits e) : l.OnceEach e ∧ Synchronous (l.step e) := by
  cases e with
  | snrm => exact step_snrm synchronous.isClient synchronous.isServer
  | request further replies => exact step_request synchronous admitted further replies
  | next replies => exact step_next synchronous admitted replies
  | receiverReady => exact step_receiverReady synchronous admitted.1 admitted.2

end Link

/-- Over any run from the connection on, reconnections included. -/
theorem exchanges_once_each (l : Link) (client : l.client.server = false)
    (server : l.server.server = true) (es : List Exchange)
    (admitted : Along Link.step Link.Admits l.connected es) :
    Along Link.step Link.OnceEach l.connected es :=
  along_of_invariant Link.Admits Synchronous
    (fun _ e synchronous admits => (Link.step_synchronous synchronous e admits).2)
    (fun _ e synchronous admits => (Link.step_synchronous synchronous e admits).1)
    es l.connected (Link.connected_synchronous client server) admitted

def opticalSettings (server : Bool) : HdlcSettings where
  server := server
  clientAddress := 1
  serverAddress := 1
  maxInfoTX := 128
  windowSizeRX := 1
  senderFrame := 0
  receiverFrame := 0
  pushClientAddress := 0

/-- A request of three frames with a reply of two, and one of a frame each after a reconnection. -/
theorem segmented_exchange_once_each :
    Along Link.step Link.OnceEach (Link.mk (opticalSettings false) (opticalSettings true) [] 0).connected
      [.request 2 0, .next 0, .next 1, .receiverReady, .snrm, .request 0 0] :=
  exchanges_once_each _ rfl rfl _ (by decide +kernel)

end DlmsGateway.HdlcLink
