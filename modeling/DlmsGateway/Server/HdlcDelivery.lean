import DlmsGateway.Server.HdlcSegmentRead

/-!
# A part of a PDU crosses the line

What one side puts into an information frame with `dlms_getHdlcFrame`, the
other side appends to its PDU with `dlms_getHdlcData` and
`dlms_getDataFromFrame`, in both directions and whatever follows the frame.
The exceptions are parts that are taken for LLC bytes.
-/
set_option autoImplicit false
namespace DlmsGateway.HdlcLink

open Hdlc

/-- `dlms_getDataFromFrame` on the HDLC interface. -/
def dlmsGetDataFromFrame (st : Receiving) : Receiving :=
  let offset := st.data.data.bytes.length
  let cnt := st.data.packetLength - st.reply.position
  let bytes := st.data.data.bytes ++ (st.reply.data.drop st.reply.position).take cnt
  { st with
    reply := if cnt = 0 then st.reply else st.reply.at (st.reply.position + cnt + 3)
    data := { st.data with data := ⟨bytes, offset, by simp [bytes, offset]⟩ } }

/-- The LLC bytes that this side waits for. -/
def HdlcSettings.llcBytes (s : HdlcSettings) : List UInt8 :=
  if s.server then llcSendBytes else llcReplyBytes

/-- A part without the LLC bytes it may begin with. -/
def HdlcSettings.withoutLlc (s : HdlcSettings) (part : List UInt8) : List UInt8 :=
  if part.take 3 = s.llcBytes then part.drop 3 else part

/-- The check sequence behind one or two bytes does not make them look like LLC bytes. -/
def HdlcSettings.PartPlain (s : HdlcSettings) (f : SegmentFrame) : Prop :=
  f.information.length < 3 → (f.information ++ checkSequence f.body).take 3 ≠ s.llcBytes

/-- What is received when a part has been appended and the next frame is reached. -/
structure Delivered (st after : Receiving) (f : SegmentFrame) (numbered : HdlcSettings) : Prop where
  settings : after.settings = numbered
  data : after.data.data.bytes = st.data.data.bytes ++ numbered.withoutLlc f.information
  complete : after.data.complete = true
  moreData : after.data.moreData =
    if f.more then st.data.moreData ||| dataRequestTypesFrame
    else st.data.moreData &&& ~~~dataRequestTypesFrame
  reply : after.reply = st.reply.at (st.reply.position + f.bytes.length)
  frame : after.frame = f.control

/-! ## LLC bytes -/

section Llc
variable {s : HdlcSettings} {f : SegmentFrame}

theorem HdlcSettings.length_llcBytes (s : HdlcSettings) : s.llcBytes.length = 3 := by
  rw [llcBytes]
  cases s.server
  · rfl
  · rfl

/-- The number of bytes that `dlms_checkLLCBytes` goes on. -/
def HdlcSettings.llcRead (s : HdlcSettings) (f : SegmentFrame) : Nat :=
  if (f.information ++ checkSequence f.body).take 3 = s.llcBytes then 3 else 0

theorem HdlcSettings.llcRead_le (s : HdlcSettings) (f : SegmentFrame) : s.llcRead f ≤ 3 := by
  rw [llcRead]
  split
  · exact Nat.le_refl 3
  · exact Nat.zero_le 3

theorem take_of_long (long : 3 ≤ f.information.length) :
    (f.information ++ checkSequence f.body).take 3 = f.information.take 3 :=
  List.take_append_of_le_length long

theorem long_of_llc {part : List UInt8} (llc : part.take 3 = s.llcBytes) : 3 ≤ part.length := by
  have length := congrArg List.length llc
  rw [s.length_llcBytes, List.length_take] at length
  omega

theorem withoutLlc_of_plain (plain : s.PartPlain f) :
    s.withoutLlc f.information = f.information.drop (s.llcRead f) := by
  rw [HdlcSettings.llcRead, HdlcSettings.withoutLlc]
  by_cases read : (f.information ++ checkSequence f.body).take 3 = s.llcBytes
  · have long : 3 ≤ f.information.length := by
      by_contra short
      exact plain (Nat.lt_of_not_le short) read
    rw [if_pos read, ← take_of_long long, if_pos read]
  · have other : ¬ f.information.take 3 = s.llcBytes := by
      intro llc
      rw [take_of_long (long_of_llc llc)] at read
      exact read llc
    rw [if_neg read, if_neg other, List.drop_zero]

/-- A short part that is taken for LLC bytes is lost. -/
theorem plain_of_kept (some : f.information ≠ [])
    (kept : s.withoutLlc f.information = f.information.drop (s.llcRead f)) : s.PartPlain f := by
  intro short read
  have other : ¬ f.information.take 3 = s.llcBytes := by
    intro llc
    have long := long_of_llc llc
    omega
  rw [HdlcSettings.withoutLlc, if_neg other, HdlcSettings.llcRead, if_pos read,
    List.drop_eq_nil_of_le (Nat.le_of_lt short)] at kept
  exact some kept

end Llc

/-! ## An information frame is received -/

section Delivery
variable {svrIsTarget : HdlcSettings → HdlcSettings × Bool} {preEstablished first : Bool}
  {st : Receiving} {f : SegmentFrame} {rest : List UInt8} {s numbered : HdlcSettings}

/-- Within a connection nobody asks for the target. -/
theorem checkTarget_connected (connected : st.settings.server = true →
    first = false ∧ st.data.command ≠ dlmsCommandSnrm) :
    checkTarget svrIsTarget first st = .returns ⟨none, st⟩ := by
  refine if_neg fun asked => ?_
  obtain ⟨other, command⟩ := connected asked.1
  cases asked.2 with
  | inl new => exact absurd (new.symm.trans other) (by decide)
  | inr snrm => exact command snrm

theorem readInformation_information (information : lowBit st.frame = 0) {frameEnd : Nat}
    (data : st.reply.position ≠ frameEnd) :
    readInformation svrIsTarget first st frameEnd =
      checkTarget svrIsTarget first (dlmsCheckLLCBytes st) := by
  have even := (lowBit_eq_zero_iff st.frame).mp information
  have notUnnumbered : ¬ (st.frame ≠ 0x13 ∧ st.frame ≠ 0x3 ∧ st.frame &&& 0x3 = 0x3) := by
    intro unnumbered
    have three := congrArg UInt8.toNat unnumbered.2.2
    rw [toNat_and_three] at three
    have clear : st.frame.toNat % 2 = 0 := information
    have : st.frame.toNat % 4 = 3 := three
    omega
  have notSupervisory : ¬ (st.frame ≠ 0x13 ∧ st.frame ≠ 0x3 ∧ st.frame &&& 0x1 = 0x1) := by
    intro supervisory
    rw [even] at supervisory
    exact absurd supervisory.2.2 (by decide)
  rw [readInformation]
  dsimp only
  rw [if_neg notUnnumbered, if_neg notSupervisory, if_neg data]

theorem dlmsGetHdlcData_returns {o : Outcome}
    (answer : attempt svrIsTarget preEstablished first st = .returns o) :
    dlmsGetHdlcData svrIsTarget preEstablished first st = o := by
  rw [dlmsGetHdlcData]
  split
  · rename_i answered
    exact Attempt.returns.inj (answered.symm.trans answer)
  · rename_i answered
    exact absurd (answered.symm.trans answer) (by simp)
  · rename_i answered
    exact absurd (answered.symm.trans answer) (by simp)

theorem drop_information (some : f.information ≠ [])
    (bytes : st.reply.data.drop st.reply.position = f.bytes ++ rest) :
    st.reply.data.drop (st.reply.position + f.header.length + 3) =
      f.information ++ (checkSequence f.body ++ 0x7E :: rest) := by
  have parts : st.reply.data.drop st.reply.position =
      (0x7E :: (f.header ++ checkSequence f.header)) ++ (f.tail ++ rest) := by
    rw [bytes, f.bytes_eq]
    simp only [List.cons_append, List.append_assoc]
  have behind := drop_behind _ parts
  rw [List.length_cons, List.length_append, SegmentFrame.length_checkSequence,
    SegmentFrame.tail, if_neg some] at behind
  rw [Nat.add_assoc, behind]
  simp only [List.append_assoc, List.singleton_append]

theorem checkLLCBytes_headerRead (some : f.information ≠ [])
    (bytes : st.reply.data.drop st.reply.position = f.bytes ++ rest) :
    dlmsCheckLLCBytes (headerRead st f numbered) =
      (headerRead st f numbered).moveTo
        (st.reply.position + f.header.length + 3 + numbered.llcRead f) := by
  have one : 0 < f.information.length := List.length_pos_of_ne_nil some
  have enough : 3 ≤ (f.information ++ checkSequence f.body).length := by
    rw [List.length_append, SegmentFrame.length_checkSequence]
    omega
  have three : (st.reply.data.drop (st.reply.position + f.header.length + 3)).take 3 =
      (f.information ++ checkSequence f.body).take 3 := by
    rw [drop_information some bytes, ← List.append_assoc]
    exact List.take_append_of_le_length enough
  rw [HdlcSettings.llcRead]
  by_cases read : (f.information ++ checkSequence f.body).take 3 = numbered.llcBytes
  · rw [if_pos read]
    exact if_pos (three.trans read)
  · rw [if_neg read]
    exact if_neg fun llc => read (three.symm.trans llc)

/-- The call succeeds, and the information behind the LLC bytes is what it leaves to be read. -/
theorem dlmsGetHdlcData_segment (readable : Readable st.settings f)
    (bytes : st.reply.data.drop st.reply.position = f.bytes ++ rest)
    (takes : st.settings.takesAddresses f.control (.ofNat (number f.destination.bytes))
      (.ofNat (number f.source.bytes)) = some s)
    (takesNumber : s.takesNumber preEstablished f.control = some numbered)
    (information : lowBit f.control = 0) (some : f.information ≠ [])
    (connected : numbered.server = true → first = false ∧ st.data.command ≠ dlmsCommandSnrm) :
    dlmsGetHdlcData svrIsTarget preEstablished first st =
      ⟨none, (headerRead st f numbered).moveTo
        (st.reply.position + f.header.length + 3 + numbered.llcRead f)⟩ := by
  have header := f.length_header
  have one : 0 < f.information.length := List.length_pos_of_ne_nil some
  have data : (headerRead st f numbered).reply.position ≠ st.reply.position + f.length + 1 := by
    show st.reply.position + f.header.length + 3 ≠ st.reply.position + f.length + 1
    rw [SegmentFrame.length, if_neg some]
    omega
  apply dlmsGetHdlcData_returns
  rw [attempt_segment svrIsTarget preEstablished first readable bytes takes takesNumber,
    readInformation_information information data, checkLLCBytes_headerRead some bytes]
  exact checkTarget_connected connected

/-- What `dlms_getDataFromFrame` appends is the information without what was read as LLC bytes. -/
theorem bytes_segment (bytes : st.reply.data.drop st.reply.position = f.bytes ++ rest)
    (some : f.information ≠ []) {reached : Receiving}
    (there : reached = (headerRead st f numbered).moveTo
      (st.reply.position + f.header.length + 3 + numbered.llcRead f)) :
    reached.data.packetLength - reached.reply.position =
        f.information.length - numbered.llcRead f ∧
      (dlmsGetDataFromFrame reached).data.data.bytes =
        st.data.data.bytes ++ f.information.drop (numbered.llcRead f) := by
  have read := numbered.llcRead_le f
  have length : f.length = f.header.length + 4 + f.information.length := by
    have header := f.length_header
    rw [SegmentFrame.length, if_neg some]
    omega
  have cnt : reached.data.packetLength - reached.reply.position =
      f.information.length - numbered.llcRead f := by
    rw [there]
    show st.reply.position + f.length - 1 -
      (st.reply.position + f.header.length + 3 + numbered.llcRead f) = _
    omega
  have part : (reached.reply.data.drop reached.reply.position).take
      (f.information.length - numbered.llcRead f) = f.information.drop (numbered.llcRead f) := by
    rw [there]
    show (st.reply.data.drop (st.reply.position + f.header.length + 3 + numbered.llcRead f)).take _
      = _
    rw [← List.drop_drop, drop_information some bytes, ← List.drop_take, List.take_left]
  refine ⟨cnt, ?_⟩
  rw [← part, ← cnt, there]
  rfl

/-- A frame is delivered exactly when it is more than LLC bytes and not mistaken for them. -/
theorem delivered_segment_iff (bytes : st.reply.data.drop st.reply.position = f.bytes ++ rest)
    (some : f.information ≠ []) :
    Delivered st (dlmsGetDataFromFrame ((headerRead st f numbered).moveTo
      (st.reply.position + f.header.length + 3 + numbered.llcRead f))) f numbered ↔
      numbered.PartPlain f ∧ numbered.withoutLlc f.information ≠ [] := by
  let reached := (headerRead st f numbered).moveTo
    (st.reply.position + f.header.length + 3 + numbered.llcRead f)
  have one : 0 < f.information.length := List.length_pos_of_ne_nil some
  have read := numbered.llcRead_le f
  have whole := f.length_bytes
  have length : f.length = f.header.length + 4 + f.information.length := by
    have header := f.length_header
    rw [SegmentFrame.length, if_neg some]
    omega
  have reachedThere : reached = (headerRead st f numbered).moveTo
      (st.reply.position + f.header.length + 3 + numbered.llcRead f) := rfl
  obtain ⟨cnt, appended⟩ := bytes_segment bytes some reachedThere
  have reply : (dlmsGetDataFromFrame reached).reply =
      if f.information.length - numbered.llcRead f = 0 then reached.reply
      else reached.reply.at (reached.reply.position +
        (f.information.length - numbered.llcRead f) + 3) := by
    rw [← cnt]
    rfl
  constructor
  · intro delivered
    have kept : numbered.withoutLlc f.information = f.information.drop (numbered.llcRead f) :=
      List.append_cancel_left (delivered.data.symm.trans appended)
    refine ⟨plain_of_kept some kept, fun nothing => ?_⟩
    -- with nothing to append the position stays in front of the check sequence
    rw [kept, List.drop_eq_nil_iff] at nothing
    have position := congrArg ReceiveBuffer.position (reply.symm.trans delivered.reply)
    rw [if_pos (Nat.sub_eq_zero_of_le nothing)] at position
    have : st.reply.position + f.header.length + 3 + numbered.llcRead f =
        st.reply.position + f.bytes.length := position
    omega
  · rintro ⟨plain, more⟩
    have kept := withoutLlc_of_plain plain
    have left : f.information.length - numbered.llcRead f ≠ 0 := by
      rw [kept, Ne, List.drop_eq_nil_iff] at more
      omega
    have position : st.reply.position + f.header.length + 3 + numbered.llcRead f +
        (f.information.length - numbered.llcRead f) + 3 = st.reply.position + f.bytes.length := by
      omega
    exact
      { settings := rfl
        data := by rw [kept]; exact appended
        complete := rfl
        moreData := rfl
        reply := by
          refine reply.trans ?_
          rw [if_neg left, ← position]
          rfl
        frame := rfl }

end Delivery

/-! ## Only the frame numbers change -/

/-- The settings differ in nothing but the frame numbers. -/
def HdlcSettings.SameEnd (s r : HdlcSettings) : Prop :=
  ∃ sent received, r = { s with senderFrame := sent, receiverFrame := received }

namespace HdlcSettings

theorem SameEnd.refl (s : HdlcSettings) : s.SameEnd s := ⟨_, _, rfl⟩

theorem SameEnd.maxInfoTX {s r : HdlcSettings} (same : s.SameEnd r) : r.maxInfoTX = s.maxInfoTX := by
  obtain ⟨_, _, same⟩ := same
  rw [same]

theorem SameEnd.trans {s r t : HdlcSettings} (one : s.SameEnd r) (two : r.SameEnd t) :
    s.SameEnd t := by
  obtain ⟨_, _, one⟩ := one
  obtain ⟨sent, received, two⟩ := two
  exact ⟨sent, received, by rw [two, one]⟩

theorem sameEnd_resetFrameSequence (s : HdlcSettings) : s.SameEnd s.resetFrameSequence := by
  rw [resetFrameSequence]
  split
  · exact ⟨_, _, rfl⟩
  · exact ⟨_, _, rfl⟩

theorem sameEnd_checkFrame (s : HdlcSettings) (frame : UInt8) : s.SameEnd (s.checkFrame frame).1 := by
  unfold checkFrame
  split
  · exact ⟨_, _, rfl⟩
  · split
    · split
      · exact s.sameEnd_resetFrameSequence
      · split
        · exact ⟨_, _, rfl⟩
        · exact ⟨_, _, rfl⟩
    · split
      · split
        · exact ⟨_, _, rfl⟩
        · exact ⟨_, _, rfl⟩
      · split
        · exact ⟨_, _, rfl⟩
        · exact ⟨_, _, rfl⟩

theorem sameEnd_getNextSend (s : HdlcSettings) (first : Bool) : s.SameEnd (s.getNextSend first).1 :=
  ⟨_, _, rfl⟩

theorem sameEnd_getReceiverReady (s : HdlcSettings) : s.SameEnd s.getReceiverReady.1 := ⟨_, _, rfl⟩

theorem server_checkFrame (s : HdlcSettings) (frame : UInt8) :
    (s.checkFrame frame).1.server = s.server := by
  obtain ⟨_, _, same⟩ := s.sameEnd_checkFrame frame
  rw [same]

theorem server_takesNumber {s numbered : HdlcSettings} {preEstablished : Bool} {control : UInt8}
    (takes : s.takesNumber preEstablished control = some numbered) :
    numbered.server = s.server := by
  unfold takesNumber at takes
  split at takes
  · rw [← Option.some.inj takes]
  · split at takes
    · rw [← Option.some.inj takes]
      exact s.server_checkFrame control
    · exact absurd takes (by simp)

end HdlcSettings

/-! ## A part of the peer -/

/-- The two ends of a connection, with addresses that HDLC can carry. -/
structure Peers (s r : HdlcSettings) : Prop where
  side : r.server = !s.server
  client : r.clientAddress = s.clientAddress
  server : r.serverAddress = s.serverAddress
  /-- The server insists on a client's address of one byte. -/
  clientShort : r.server = true → s.clientAddress.toNat < 2 ^ 7
  serverFits : s.serverAddress.toNat < 2 ^ 28

section Peer
variable {s : HdlcSettings} {st : Receiving} {numbered : HdlcSettings} {frame : UInt8}
  {data : Option Pdu}

theorem clientAddressFor_information (information : lowBit frame = 0) :
    s.clientAddressFor frame = s.clientAddress := by
  refine if_neg fun notification => ?_
  cases notification.1 with
  | inl notify => exact absurd information (by rw [notify]; decide)
  | inr unnumbered => exact absurd information (by rw [unnumbered]; decide)

theorem lowBit_segmentOf (information : lowBit frame = 0) :
    lowBit (segmentOf s frame data).control = 0 := by
  rw [segmentOf]
  dsimp only
  split
  · rw [HdlcSettings.getNextSend, if_pos rfl, lowBit_increaseReceiverSequence,
      lowBit_increaseSendSequence]
  · exact information

theorem number_address {value : UInt32} (fits : value.toNat < 2 ^ 28) :
    UInt32.ofNat (number (addressOf value).bytes) = value := by
  rw [number_addressOf fits, UInt32.ofNat_toNat]

theorem takesAddresses_peer {r : HdlcSettings} (peers : Peers s r) (information : lowBit frame = 0) :
    r.takesAddresses (segmentOf s frame data).control
      (.ofNat (number (segmentOf s frame data).destination.bytes))
      (.ofNat (number (segmentOf s frame data).source.bytes)) = some r := by
  obtain ⟨primary, secondary⟩ := toNat_addresses peers.serverFits frame
  have target : UInt32.ofNat (number (segmentOf s frame data).destination.bytes) =
      s.primaryAddress frame := number_address primary
  have source : UInt32.ofNat (number (segmentOf s frame data).source.bytes) =
      s.secondaryAddress := number_address secondary
  rw [target, source, HdlcSettings.primaryAddress, HdlcSettings.secondaryAddress,
    clientAddressFor_information information, ← peers.client, ← peers.server]
  have side := peers.side
  rw [HdlcSettings.takesAddresses]
  cases server : s.server with
  | true =>
      rw [server] at side
      rw [if_pos rfl, if_pos rfl, if_neg (by rw [side]; decide)]
      refine if_pos ?_
      rw [clientAddresses, if_neg (fun other => other rfl), if_neg (fun other => other.1 rfl)]
  | false =>
      rw [server] at side
      have taken : serverAddresses r (some (segmentOf s frame data).control) r.serverAddress
          r.clientAddress.toUInt32 = (r, none) := by
        rw [serverAddresses, if_neg (fun other => other.2 rfl)]
        dsimp only
        rw [if_neg (fun other => other.2 rfl), UInt16.toUInt16_toUInt32]
      rw [if_neg Bool.false_ne_true, if_neg Bool.false_ne_true,
        if_pos (show r.server = true from side), taken]

theorem readable_peer {r : HdlcSettings} (peers : Peers s r)
    (short : (s.frameSize data).toNat ≤ 2032) : Readable r (segmentOf s frame data) := by
  have part := length_information_le s data
  have target := length_addressOf (s.primaryAddress frame)
  have source := length_addressOf s.secondaryAddress
  constructor
  · have bound : (segmentOf s frame data).length ≤ (addressOf (s.primaryAddress frame)).bytes.length +
        (addressOf s.secondaryAddress).bytes.length + 5 + ((s.nextPart data).2.length + 2) := by
      rw [SegmentFrame.length]
      apply Nat.add_le_add_left
      split
      · exact Nat.zero_le _
      · exact Nat.le_refl _
    omega
  · exact target
  · exact source
  · intro asServer
    have side : s.server = false := by
      have opposite := peers.side
      rw [asServer] at opposite
      exact (Bool.not_eq_true' _).mp opposite.symm
    have client : s.secondaryAddress = s.clientAddress.toUInt32 := by
      rw [HdlcSettings.secondaryAddress, if_neg (ne_true_of_eq_false side)]
    have below := peers.clientShort asServer
    have cases := groupsBefore_cases s.secondaryAddress
    rw [client, UInt16.toNat_toUInt32, ← client] at cases
    show (addressOf s.secondaryAddress).bytes.length = 1
    rw [addressOf, length_sized]
    omega

/-- The next part of a PDU goes to the peer: the frame is written, received without an error and
appended, exactly when it is more than LLC bytes and not mistaken for them. -/
theorem part_delivered_iff {svrIsTarget : HdlcSettings → HdlcSettings × Bool}
    {preEstablished first : Bool} {d : Pdu} {rest : List UInt8} (peers : Peers s st.settings)
    (short : (s.frameSize (some d)).toNat ≤ 2032) (information : lowBit frame = 0)
    (part : (s.nextPart (some d)).2 ≠ [])
    (taken : st.settings.takesNumber preEstablished (segmentOf s frame (some d)).control =
      some numbered)
    (connected : st.settings.server = true → first = false ∧ st.data.command ≠ dlmsCommandSnrm)
    (bytes : st.reply.data.drop st.reply.position = (segmentOf s frame (some d)).bytes ++ rest) :
    dlmsGetHdlcFrame s frame (some d) = .ok
      { settings := if frame = 0 then (s.getNextSend true).1 else s
        reply := (segmentOf s frame (some d)).bytes
        data := some (s.afterPart d (s.nextPart (some d)).2.length) } ∧
    (dlmsGetHdlcData svrIsTarget preEstablished first st).ret = none ∧
    (Delivered st (dlmsGetDataFromFrame
        (dlmsGetHdlcData svrIsTarget preEstablished first st).after)
        (segmentOf s frame (some d)) numbered ↔
      numbered.PartPlain (segmentOf s frame (some d)) ∧
        numbered.withoutLlc (s.nextPart (some d)).2 ≠ []) := by
  have onward : numbered.server = true → first = false ∧ st.data.command ≠ dlmsCommandSnrm := by
    rw [HdlcSettings.server_takesNumber taken]
    exact connected
  have received : dlmsGetHdlcData svrIsTarget preEstablished first st = _ :=
    dlmsGetHdlcData_segment (readable_peer peers short) bytes
      (takesAddresses_peer peers information) taken (lowBit_segmentOf information) part onward
  refine ⟨dlmsGetHdlcFrame_eq peers.serverFits frame (some d) short, ?_, ?_⟩
  · rw [received]
  · rw [received]
    exact delivered_segment_iff bytes part

end Peer

/-! ### A request in one frame -/

def requestingClient : HdlcSettings where
  server := false
  clientAddress := 16
  serverAddress := 1
  maxInfoTX := 128
  windowSizeRX := 1
  senderFrame := clientStartSenderFrameSequence
  receiverFrame := clientStartReceiverFrameSequence
  pushClientAddress := 0

def requestedServer : HdlcSettings where
  server := true
  clientAddress := 16
  serverAddress := 1
  maxInfoTX := 128
  windowSizeRX := 1
  senderFrame := serverStartSenderFrameSequence
  receiverFrame := serverStartReceiverFrameSequence
  pushClientAddress := 0

/-- LLC bytes and a get request for the clock's time. -/
def clockRequest : Pdu :=
  .start [0xE6, 0xE6, 0x00, 0xC0, 0x01, 0xC1, 0x00, 0x08, 0x00, 0x00, 0x01, 0x00, 0x00, 0xFF, 0x02,
    0x00]

def clockFrame : SegmentFrame := segmentOf requestingClient 0 (some clockRequest)

def clockReceived : Receiving where
  settings := requestedServer
  reply := ⟨clockFrame.bytes, 0, by rw [SegmentFrame.length_bytes]; decide⟩
  data := ⟨.start [], false, 0, 0, dlmsCommandNone⟩
  frame := 0

theorem clock_request_delivered :
    Delivered clockReceived (dlmsGetDataFromFrame (dlmsGetHdlcData (fun s => (s, true)) false false
      clockReceived).after) clockFrame { requestedServer with receiverFrame := 0x10 } := by
  have peers : Peers requestingClient clockReceived.settings :=
    { side := rfl
      client := rfl
      server := rfl
      clientShort := fun _ => by decide
      serverFits := by decide }
  have taken : clockReceived.settings.takesNumber false
      (segmentOf requestingClient 0 (some clockRequest)).control =
      some { requestedServer with receiverFrame := 0x10 } := by decide
  have bytes : clockReceived.reply.data.drop clockReceived.reply.position =
      (segmentOf requestingClient 0 (some clockRequest)).bytes ++ [] :=
    (List.append_nil _).symm
  refine (part_delivered_iff peers (by decide) (by decide) (by decide) taken
    (fun _ => by decide) bytes).2.2.mpr ⟨?_, by decide⟩
  exact fun short => absurd short (by decide)

end DlmsGateway.HdlcLink
