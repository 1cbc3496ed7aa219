import DlmsGateway.Lib.Runs
import DlmsGateway.Server.HdlcDelivery

/-!
# A PDU crosses the line in parts

One side sends a PDU frame by frame, the other side appends the parts and asks
for the next one with "receiver ready".  What has been received and what is
still to be sent are together always the same PDU.
-/
set_option autoImplicit false
namespace DlmsGateway.HdlcLink

open Hdlc Runs

/-- `dlms_getData2` on bytes that arrive in an empty buffer, as far as it collects the PDU. -/
def Receiving.hears (svrIsTarget : HdlcSettings → HdlcSettings × Bool) (st : Receiving)
    (bytes : List UInt8) : Receiving :=
  if fits : bytes.length < 2 ^ 16 then
    let read := dlmsGetHdlcData svrIsTarget false false { st with reply := ⟨bytes, 0, fits⟩ }
    if read.ret = none ∧ read.after.data.complete = true then dlmsGetDataFromFrame read.after
    else read.after
  else st

/-- The side with a PDU to send, and the other side. -/
structure Transfer where
  sender : HdlcSettings
  pdu : Pdu
  receiver : Receiving

namespace Transfer

/-- The first frame of a PDU gets its number when it is written, the others before. -/
def numbered (x : Transfer) (first : Bool) : HdlcSettings × UInt8 :=
  if first then (x.sender, 0) else x.sender.getNextSend false

def segment (x : Transfer) (first : Bool) : SegmentFrame :=
  segmentOf (x.numbered first).1 (x.numbered first).2 (some x.pdu)

section Carry
variable (svrIsTarget : HdlcSettings → HdlcSettings × Bool)

/-- A frame, and "receiver ready" if it is not the last one. -/
def carry (x : Transfer) (first : Bool) : Transfer :=
  match dlmsGetHdlcFrame (x.numbered first).1 (x.numbered first).2 (some x.pdu) with
  | .error _ => x
  | .ok sent =>
      let heard := x.receiver.hears svrIsTarget sent.reply
      let pdu := sent.data.getD x.pdu
      if heard.data.moreData &&& dataRequestTypesFrame = 0 then ⟨sent.settings, pdu, heard⟩
      else
        let ready := heard.settings.getReceiverReady
        ⟨(sent.settings.checkFrame ready.2).1, pdu, heard.withSettings ready.1⟩

end Carry

def Taken (x : Transfer) (first : Bool) : Prop :=
  (x.receiver.settings.checkFrame (x.segment first).control).2 = true

/-- A further part that nobody takes for LLC bytes. -/
def Plain (x : Transfer) (first : Bool) : Prop :=
  first = false ∧ x.pdu.available ≠ [] ∧ x.receiver.settings.llcRead (x.segment first) = 0

def whole (x : Transfer) : List UInt8 := x.receiver.data.data.bytes ++ x.pdu.available

/-- Two ends of a connection; a frame has room for the LLC bytes and can say how long it is. -/
structure Connected (x : Transfer) : Prop where
  peers : Peers x.sender x.receiver.settings
  room : 3 < x.sender.maxInfoTX.toNat
  short : x.sender.maxInfoTX.toNat ≤ 2032
  command : x.receiver.data.command ≠ dlmsCommandSnrm

end Transfer

/-! ## The parts of a PDU -/

theorem Peers.of_same {s r s' r' : HdlcSettings} (peers : Peers s r) (sender : s.SameEnd s')
    (receiver : r.SameEnd r') : Peers s' r' := by
  obtain ⟨_, _, sender⟩ := sender
  obtain ⟨_, _, receiver⟩ := receiver
  rw [sender, receiver]
  exact
    { side := peers.side
      client := peers.client
      server := peers.server
      clientShort := peers.clientShort
      serverFits := peers.serverFits }

theorem available_afterPart (s : HdlcSettings) (d : Pdu) (len : Nat) :
    (s.afterPart d len).available = d.available.drop len := by
  rw [HdlcSettings.afterPart, Pdu.available, Pdu.available, List.drop_drop]
  split
  · exact List.drop_zero
  · show d.bytes.drop (min (d.position + len) d.bytes.length) = _
    by_cases inside : d.position + len ≤ d.bytes.length
    · rw [Nat.min_eq_left inside]
    · have all : d.bytes.length ≤ d.position + len := Nat.le_of_not_le inside
      rw [Nat.min_eq_right all, List.drop_length, List.drop_eq_nil_of_le all]

theorem nextPart_eq_take (s : HdlcSettings) (d : Pdu) :
    (s.nextPart (some d)).2 = d.available.take (s.nextPart (some d)).2.length := by
  rw [HdlcSettings.nextPart]
  split
  · rfl
  · split
    · exact List.take_length.symm
    · rw [List.length_take]
      exact List.take_eq_take_min ..

theorem part_append (s : HdlcSettings) (d : Pdu) :
    (s.nextPart (some d)).2 ++ (s.afterPart d (s.nextPart (some d)).2.length).available =
      d.available := by
  rw [available_afterPart]
  nth_rewrite 1 [nextPart_eq_take]
  exact List.take_append_drop _ _

/-! ## One frame -/

section Frame
variable (svrIsTarget : HdlcSettings → HdlcSettings × Bool) {st : Receiving} {s : HdlcSettings}
  {frame : UInt8} {d : Pdu}

theorem hears_segment (peers : Peers s st.settings) (command : st.data.command ≠ dlmsCommandSnrm)
    (short : (s.frameSize (some d)).toNat ≤ 2032) (information : lowBit frame = 0)
    (part : (segmentOf s frame (some d)).information ≠ [])
    (taken : (st.settings.checkFrame (segmentOf s frame (some d)).control).2 = true) :
    let heard := st.hears svrIsTarget (segmentOf s frame (some d)).bytes
    heard.settings = (st.settings.checkFrame (segmentOf s frame (some d)).control).1 ∧
      heard.data.command = st.data.command ∧
      heard.data.moreData = (if (segmentOf s frame (some d)).more
        then st.data.moreData ||| dataRequestTypesFrame
        else st.data.moreData &&& ~~~dataRequestTypesFrame) ∧
      heard.data.data.bytes = st.data.data.bytes ++ (segmentOf s frame (some d)).information.drop
        (st.settings.llcRead (segmentOf s frame (some d))) := by
  intro heard
  let f := segmentOf s frame (some d)
  let numbered := (st.settings.checkFrame f.control).1
  have readable : Readable st.settings f := readable_peer peers short
  have fits : f.bytes.length < 2 ^ 16 := by
    have below := readable.short
    rw [f.length_bytes]
    omega
  let arrived : Receiving := { st with reply := ⟨f.bytes, 0, fits⟩ }
  have bytes : arrived.reply.data.drop arrived.reply.position = f.bytes ++ [] :=
    (List.append_nil _).symm
  have number : arrived.settings.takesNumber false f.control = some numbered := by
    rw [HdlcSettings.takesNumber, if_neg Bool.false_ne_true]
    exact if_pos taken
  have received : dlmsGetHdlcData svrIsTarget false false arrived =
      ⟨none, (headerRead arrived f numbered).moveTo
        (arrived.reply.position + f.header.length + 3 + numbered.llcRead f)⟩ :=
    dlmsGetHdlcData_segment readable bytes (takesAddresses_peer peers information) number
      (lowBit_segmentOf information) part fun _ => ⟨rfl, command⟩
  have collected : heard = dlmsGetDataFromFrame ((headerRead arrived f numbered).moveTo
      (arrived.reply.position + f.header.length + 3 + numbered.llcRead f)) := by
    have hears : heard = if (dlmsGetHdlcData svrIsTarget false false arrived).ret = none ∧
        (dlmsGetHdlcData svrIsTarget false false arrived).after.data.complete = true then
          dlmsGetDataFromFrame (dlmsGetHdlcData svrIsTarget false false arrived).after
        else (dlmsGetHdlcData svrIsTarget false false arrived).after := dif_pos fits
    rw [hears, received]
    exact if_pos ⟨rfl, rfl⟩
  have llc : numbered.llcRead f = st.settings.llcRead f := by
    rw [HdlcSettings.llcRead, HdlcSettings.llcRead, HdlcSettings.llcBytes, HdlcSettings.llcBytes,
      st.settings.server_checkFrame]
  have appended := (bytes_segment bytes part (rfl : _ = (headerRead arrived f numbered).moveTo
    (arrived.reply.position + f.header.length + 3 + numbered.llcRead f))).2
  rw [collected]
  refine ⟨rfl, rfl, rfl, ?_⟩
  rw [appended, llc]

end Frame

namespace Transfer
variable {svrIsTarget : HdlcSettings → HdlcSettings × Bool} {x : Transfer} {first : Bool}

theorem sameEnd_numbered (x : Transfer) (first : Bool) : x.sender.SameEnd (x.numbered first).1 := by
  cases first
  · exact x.sender.sameEnd_getNextSend false
  · exact .refl x.sender

theorem information_numbered (x : Transfer) (first : Bool) : lowBit (x.numbered first).2 = 0 := by
  cases first
  · exact lowBit_increaseSendSequence _
  · rfl

theorem Connected.frameSize_le (connected : x.Connected) (first : Bool) (data : Option Pdu) :
    ((x.numbered first).1.frameSize data).toNat ≤ 2032 := by
  have room := connected.room
  have short := connected.short
  obtain ⟨_, _, numbered⟩ := x.sameEnd_numbered first
  have less : (x.sender.maxInfoTX - 3).toNat = x.sender.maxInfoTX.toNat - 3 :=
    UInt16.toNat_sub_of_le _ _ (UInt16.le_iff_toNat_le.mpr (Nat.le_of_lt room))
  rw [numbered]
  unfold HdlcSettings.frameSize
  split
  · exact short
  · split
    · show (x.sender.maxInfoTX - 3).toNat ≤ 2032
      omega
    · exact short

def sent (x : Transfer) (first : Bool) : HdlcSettings :=
  if (x.numbered first).2 = 0 then ((x.numbered first).1.getNextSend true).1
  else (x.numbered first).1

theorem sameEnd_sent (x : Transfer) (first : Bool) : x.sender.SameEnd (x.sent first) := by
  rw [sent]
  split
  · exact (x.sameEnd_numbered first).trans ((x.numbered first).1.sameEnd_getNextSend true)
  · exact x.sameEnd_numbered first

theorem peers_numbered (connected : x.Connected) (first : Bool) :
    Peers (x.numbered first).1 x.receiver.settings :=
  connected.peers.of_same (x.sameEnd_numbered first) (.refl _)

theorem carry_eq (connected : x.Connected) (first : Bool) :
    x.carry svrIsTarget first =
      let heard := x.receiver.hears svrIsTarget (x.segment first).bytes
      let pdu := (x.numbered first).1.afterPart x.pdu (x.segment first).information.length
      let ready := heard.settings.getReceiverReady
      if heard.data.moreData &&& dataRequestTypesFrame = 0 then ⟨x.sent first, pdu, heard⟩
      else ⟨((x.sent first).checkFrame ready.2).1, pdu, heard.withSettings ready.1⟩ := by
  rw [carry, dlmsGetHdlcFrame_eq (peers_numbered connected first).serverFits _ _
    (connected.frameSize_le first (some x.pdu))]
  rfl

theorem carry_more (connected : x.Connected) (taken : x.Taken first)
    (part : (x.segment first).information ≠ []) (more : (x.segment first).more = true) :
    x.carry svrIsTarget first =
      let heard := x.receiver.hears svrIsTarget (x.segment first).bytes
      let ready := (x.receiver.settings.checkFrame (x.segment first).control).1.getReceiverReady
      ⟨((x.sent first).checkFrame ready.2).1,
        (x.numbered first).1.afterPart x.pdu (x.segment first).information.length,
        heard.withSettings ready.1⟩ := by
  have asked : ∀ moreData : UInt8,
      (moreData ||| dataRequestTypesFrame) &&& dataRequestTypesFrame ≠ 0 := by
    apply forall_byte
    decide +kernel
  have heard := hears_segment svrIsTarget (peers_numbered connected first) connected.command
    (connected.frameSize_le first (some x.pdu)) (x.information_numbered first) part taken
  have settings : (x.receiver.hears svrIsTarget (x.segment first).bytes).settings =
      (x.receiver.settings.checkFrame (x.segment first).control).1 := heard.1
  have noted : (x.receiver.hears svrIsTarget (x.segment first).bytes).data.moreData =
      x.receiver.data.moreData ||| dataRequestTypesFrame := heard.2.2.1.trans (if_pos more)
  rw [carry_eq connected]
  dsimp only
  rw [noted, settings]
  exact if_neg (asked _)

theorem carry_spec (connected : x.Connected) (taken : x.Taken first)
    (part : (x.segment first).information ≠ []) :
    (x.carry svrIsTarget first).Connected ∧
      (x.carry svrIsTarget first).whole = x.receiver.data.data.bytes ++
        (x.segment first).information.drop (x.receiver.settings.llcRead (x.segment first)) ++
          x.pdu.available.drop (x.segment first).information.length := by
  let heard := x.receiver.hears svrIsTarget (x.segment first).bytes
  let pdu := (x.numbered first).1.afterPart x.pdu (x.segment first).information.length
  obtain ⟨settings, command, _, bytes⟩ := hears_segment svrIsTarget (peers_numbered connected first)
    connected.command (connected.frameSize_le first (some x.pdu)) (x.information_numbered first)
    part taken
  -- whether the other side answers "receiver ready" concerns the frame numbers alone
  have carried : ∃ sender receiver, x.sender.SameEnd sender ∧ heard.settings.SameEnd receiver ∧
      x.carry svrIsTarget first = ⟨sender, pdu, heard.withSettings receiver⟩ := by
    rw [carry_eq connected]
    by_cases last : heard.data.moreData &&& dataRequestTypesFrame = 0
    · exact ⟨x.sent first, heard.settings, x.sameEnd_sent first, .refl _, if_pos last⟩
    · exact ⟨_, _, (x.sameEnd_sent first).trans ((x.sent first).sameEnd_checkFrame _),
        heard.settings.sameEnd_getReceiverReady, if_neg last⟩
  obtain ⟨sender, receiver, senderEnd, receiverEnd, after⟩ := carried
  rw [after]
  constructor
  · have receiverSame : x.receiver.settings.SameEnd receiver := by
      have checked := x.receiver.settings.sameEnd_checkFrame (x.segment first).control
      exact checked.trans (settings ▸ receiverEnd)
    exact
      { peers := connected.peers.of_same senderEnd receiverSame
        room := by rw [senderEnd.maxInfoTX]; exact connected.room
        short := by rw [senderEnd.maxInfoTX]; exact connected.short
        command := by
          show heard.data.command ≠ dlmsCommandSnrm
          rw [show heard.data.command = x.receiver.data.command from command]
          exact connected.command }
  · show heard.data.data.bytes ++ pdu.available = _
    rw [available_afterPart]
    exact congrArg (· ++ x.pdu.available.drop (x.segment first).information.length) bytes

theorem information_append (x : Transfer) (first : Bool) :
    (x.segment first).information ++ x.pdu.available.drop (x.segment first).information.length =
      x.pdu.available := by
  rw [← available_afterPart (x.numbered first).1]
  exact part_append (x.numbered first).1 x.pdu

/-- Nothing is lost and nothing comes twice. -/
theorem carry_whole (connected : x.Connected) (taken : x.Taken first)
    (part : (x.segment first).information ≠ [])
    (llc : x.receiver.settings.llcRead (x.segment first) = 0) :
    (x.carry svrIsTarget first).Connected ∧ (x.carry svrIsTarget first).whole = x.whole := by
  obtain ⟨still, moved⟩ := carry_spec connected taken part
  refine ⟨still, ?_⟩
  rw [moved, llc, List.drop_zero, List.append_assoc, information_append, whole]

/-- Of the first part the LLC bytes stay behind. -/
theorem carry_opening (connected : x.Connected) (taken : x.Taken first)
    (llc : (x.segment first).information.take 3 = x.receiver.settings.llcBytes) :
    (x.carry svrIsTarget first).Connected ∧
      (x.carry svrIsTarget first).whole =
        x.receiver.data.data.bytes ++ x.pdu.available.drop 3 := by
  have long := long_of_llc llc
  have part : (x.segment first).information ≠ [] := by
    intro empty
    rw [empty] at long
    exact absurd long (by decide)
  have three : x.receiver.settings.llcRead (x.segment first) = 3 := by
    rw [HdlcSettings.llcRead, take_of_long long]
    exact if_pos llc
  obtain ⟨still, moved⟩ := carry_spec connected taken part
  refine ⟨still, ?_⟩
  have behind : x.pdu.available.drop 3 = (x.segment first).information.drop 3 ++
      x.pdu.available.drop (x.segment first).information.length := by
    nth_rewrite 1 [← x.information_append first]
    exact List.drop_append_of_le_length long
  rw [moved, three, behind, List.append_assoc]

/-! ## The numbers are taken -/

/-- Before the first frame: the sender has the line, and the other side has its last number. -/
structure InStep (x : Transfer) : Prop where
  received : waitedNumber x.sender.senderFrame = waitedNumber x.receiver.settings.receiverFrame
  sent : ownNumber x.sender.senderFrame = ownNumber x.receiver.settings.receiverFrame
  turn : lowBit x.receiver.settings.senderFrame = 0

/-- Behind a frame that was not the last one. -/
structure GoesOn (x : Transfer) : Prop where
  received : x.receiver.settings.receiverFrame = x.sender.senderFrame
  polls : pollBit x.sender.senderFrame = 1
  turn : lowBit x.receiver.settings.senderFrame = 1

theorem control_first (x : Transfer) :
    (x.segment true).control =
      increaseReceiverSequence (increaseSendSequence x.sender.senderFrame) := rfl

theorem senderFrame_first (x : Transfer) :
    (x.sent true).senderFrame = (x.segment true).control := rfl

theorem checkFrame_first (inStep : x.InStep) :
    x.receiver.settings.checkFrame (x.segment true).control =
      ({ x.receiver.settings with receiverFrame := (x.segment true).control }, true) := by
  apply HdlcSettings.checkFrame_next inStep.turn
  rw [control_first, control_eq_iff]
  simp [inStep.received, inStep.sent]

theorem numbered_following (goesOn : x.GoesOn) : (x.numbered false).2 ≠ 0 := by
  intro zero
  have polls : pollBit (x.numbered false).2 = 1 :=
    (pollBit_increaseSendSequence x.sender.senderFrame).trans goesOn.polls
  rw [zero] at polls
  exact absurd polls (by decide)

theorem control_following (goesOn : x.GoesOn) :
    (x.segment false).control = increaseSendSequence x.sender.senderFrame :=
  if_neg (numbered_following goesOn)

theorem senderFrame_following (goesOn : x.GoesOn) :
    (x.sent false).senderFrame = (x.segment false).control := by
  rw [control_following goesOn, sent, if_neg (numbered_following goesOn)]
  rfl

theorem checkFrame_following (goesOn : x.GoesOn) :
    x.receiver.settings.checkFrame (x.segment false).control =
      ({ x.receiver.settings with receiverFrame := (x.segment false).control }, true) := by
  apply HdlcSettings.checkFrame_continued goesOn.turn
  rw [control_following goesOn, goesOn.received]

theorem polls_following (goesOn : x.GoesOn) : pollBit (x.segment false).control = 1 := by
  rw [control_following goesOn, pollBit_increaseSendSequence]
  exact goesOn.polls

/-- "Receiver ready" leaves the sender's own number alone. -/
theorem senderFrame_ready (s r : HdlcSettings) :
    (s.checkFrame r.getReceiverReady.2).1.senderFrame = s.senderFrame := by
  have supervisory : r.getReceiverReady.2.toNat % 4 = 1 := by
    have odd : (increaseReceiverSequence (r.senderFrame ||| 1)).toNat % 2 = 1 := by
      show lowBit (increaseReceiverSequence (r.senderFrame ||| 1)) = 1
      simp
    rw [HdlcSettings.getReceiverReady]
    dsimp only
    rw [toNat_and_F1]
    omega
  rw [HdlcSettings.checkFrame_odd supervisory]
  split
  · rfl
  · rfl

theorem goesOn_carry (connected : x.Connected)
    (checked : x.receiver.settings.checkFrame (x.segment first).control =
      ({ x.receiver.settings with receiverFrame := (x.segment first).control }, true))
    (number : (x.sent first).senderFrame = (x.segment first).control)
    (polls : pollBit (x.segment first).control = 1)
    (part : (x.segment first).information ≠ []) (more : (x.segment first).more = true) :
    (x.carry svrIsTarget first).GoesOn := by
  have taken : x.Taken first := congrArg Prod.snd checked
  rw [carry_more connected taken part more]
  constructor
  · show (x.receiver.settings.checkFrame (x.segment first).control).1.receiverFrame =
      (HdlcSettings.checkFrame _ _).1.senderFrame
    rw [senderFrame_ready, number, checked]
  · show pollBit (HdlcSettings.checkFrame _ _).1.senderFrame = 1
    rw [senderFrame_ready, number]
    exact polls
  · show lowBit (increaseReceiverSequence (_ ||| 1)) = 1
    rw [lowBit_increaseReceiverSequence, lowBit_or_one]

/-! ## The whole PDU -/

theorem nothing_left (last : (x.segment first).more = false) :
    x.pdu.available.drop (x.segment first).information.length = [] := by
  have all : ∀ s : HdlcSettings, (s.nextPart (some x.pdu)).1 = false →
      (s.nextPart (some x.pdu)).2 = x.pdu.available := by
    intro s last
    rw [HdlcSettings.nextPart] at last ⊢
    by_cases empty : x.pdu.bytes.length = 0
    · rw [if_pos empty, Pdu.available, List.drop_eq_nil_of_le (by omega)]
    · rw [if_neg empty] at last ⊢
      by_cases fits : x.pdu.bytes.length - x.pdu.position ≤ (s.frameSize (some x.pdu)).toNat
      · rw [if_pos fits]
      · rw [if_neg fits] at last
        exact absurd (show true = false from last) (by decide)
  have whole : (x.segment first).information = x.pdu.available := all _ last
  rw [whole, List.drop_length]

theorem part_of_available (connected : x.Connected) (left : x.pdu.available ≠ []) :
    (x.segment first).information ≠ [] := by
  have bytes : x.pdu.bytes.length ≠ 0 := by
    intro empty
    apply left
    rw [Pdu.available, List.drop_eq_nil_of_le (by omega)]
  have room := connected.room
  obtain ⟨_, _, numbered⟩ := x.sameEnd_numbered first
  have less : (x.sender.maxInfoTX - 3).toNat = x.sender.maxInfoTX.toNat - 3 :=
    UInt16.toNat_sub_of_le _ _ (UInt16.le_iff_toNat_le.mpr (Nat.le_of_lt room))
  have size : 0 < ((x.numbered first).1.frameSize (some x.pdu)).toNat := by
    rw [numbered]
    show 0 < (if x.pdu.position = 0 then x.sender.maxInfoTX - 3 else x.sender.maxInfoTX).toNat
    split
    · omega
    · omega
  have some := List.length_pos_of_ne_nil left
  show ((x.numbered first).1.nextPart (.some x.pdu)).2 ≠ []
  unfold HdlcSettings.nextPart
  dsimp only
  rw [if_neg bytes]
  split
  · exact left
  · apply List.ne_nil_of_length_pos
    rw [List.length_take]
    omega

/-- What holds behind each frame: another one goes on, or there is nothing left. -/
structure Underway (total : List UInt8) (x : Transfer) : Prop where
  connected : x.Connected
  whole : x.whole = total
  goesOn : x.GoesOn ∨ x.pdu.available = []

theorem available_carry (connected : x.Connected) (first : Bool) :
    (x.carry svrIsTarget first).pdu.available =
      x.pdu.available.drop (x.segment first).information.length := by
  rw [carry_eq connected, ← available_afterPart (x.numbered first).1]
  dsimp only
  split
  · rfl
  · rfl

theorem underway_carry {total : List UInt8} (connected : x.Connected)
    (checked : x.receiver.settings.checkFrame (x.segment first).control =
      ({ x.receiver.settings with receiverFrame := (x.segment first).control }, true))
    (number : (x.sent first).senderFrame = (x.segment first).control)
    (polls : pollBit (x.segment first).control = 1)
    (part : (x.segment first).information ≠ [])
    (moved : (x.carry svrIsTarget first).Connected ∧ (x.carry svrIsTarget first).whole = total) :
    (x.carry svrIsTarget first).Underway total := by
  refine ⟨moved.1, moved.2, ?_⟩
  cases more : (x.segment first).more with
  | true => exact .inl (goesOn_carry connected checked number polls part more)
  | false =>
      right
      rw [available_carry connected, nothing_left more]

theorem checkFrame_plain {total : List UInt8} (underway : x.Underway total)
    (plain : x.Plain false) : x.GoesOn ∧
      x.receiver.settings.checkFrame (x.segment false).control =
        ({ x.receiver.settings with receiverFrame := (x.segment false).control }, true) := by
  cases underway.goesOn with
  | inr nothing => exact absurd nothing plain.2.1
  | inl goesOn => exact ⟨goesOn, checkFrame_following goesOn⟩

theorem taken_plain {total : List UInt8} (underway : x.Underway total) (plain : x.Plain first) :
    x.Taken first := by
  obtain ⟨rfl, left, read⟩ := plain
  exact congrArg Prod.snd (checkFrame_plain underway ⟨rfl, left, read⟩).2

theorem underway_plain {total : List UInt8} (underway : x.Underway total) (plain : x.Plain first) :
    (x.carry svrIsTarget first).Underway total := by
  obtain ⟨rfl, left, read⟩ := plain
  obtain ⟨goesOn, checked⟩ := checkFrame_plain underway ⟨rfl, left, read⟩
  have part : (x.segment false).information ≠ [] := part_of_available underway.connected left
  obtain ⟨still, whole⟩ := carry_whole underway.connected (congrArg Prod.snd checked) part read
  exact underway_carry underway.connected checked (senderFrame_following goesOn)
    (polls_following goesOn) part ⟨still, whole.trans underway.whole⟩

theorem underway_opening (connected : x.Connected) (inStep : x.InStep)
    (llc : (x.segment true).information.take 3 = x.receiver.settings.llcBytes) :
    (x.carry svrIsTarget true).Underway
      (x.receiver.data.data.bytes ++ x.pdu.available.drop 3) := by
  have long := long_of_llc llc
  have part : (x.segment true).information ≠ [] := by
    intro empty
    rw [empty] at long
    exact absurd long (by decide)
  have checked := checkFrame_first inStep
  refine underway_carry connected checked (senderFrame_first x) ?_ part
    (carry_opening connected (congrArg Prod.snd checked) llc)
  rw [control_first, pollBit_increaseReceiverSequence]

/-- A PDU behind LLC bytes arrives as a whole, in however many frames, unless a later part looks
like LLC bytes; the number of each frame is taken. -/
theorem pdu_delivered_whole (connected : x.Connected) (inStep : x.InStep)
    (llc : (x.segment true).information.take 3 = x.receiver.settings.llcBytes)
    (frames : List Bool) (plain : Along (carry svrIsTarget) Plain (x.carry svrIsTarget true) frames) :
    Along (carry svrIsTarget) Taken x (true :: frames) ∧
      (run (carry svrIsTarget) x (true :: frames)).whole =
        x.receiver.data.data.bytes ++ x.pdu.available.drop 3 := by
  let total := x.receiver.data.data.bytes ++ x.pdu.available.drop 3
  have opened : (x.carry svrIsTarget true).Underway total := underway_opening connected inStep llc
  have kept : ∀ (y : Transfer) (first : Bool), y.Underway total → y.Plain first →
      (y.carry svrIsTarget first).Underway total :=
    fun _ _ => underway_plain
  refine ⟨⟨congrArg Prod.snd (checkFrame_first inStep), ?_⟩, ?_⟩
  · exact along_of_invariant Plain (Underway total) kept (fun _ _ => taken_plain) frames _ opened plain
  · exact (invariant Plain (Underway total) kept frames _ opened plain).whole

/-! ### A request in two frames -/

/-- A client whose frames carry twelve bytes, with a request of sixteen. -/
def clockTransfer : Transfer where
  sender := { requestingClient with maxInfoTX := 12 }
  pdu := clockRequest
  receiver := clockReceived.cleared

theorem clock_request_carried :
    Along (carry fun s => (s, true)) Taken clockTransfer [true, false] ∧
      (run (carry fun s => (s, true)) clockTransfer [true, false]).whole =
        [0xC0, 0x01, 0xC1, 0x00, 0x08, 0x00, 0x00, 0x01, 0x00, 0x00, 0xFF, 0x02, 0x00] := by
  have connected : clockTransfer.Connected :=
    { peers :=
        { side := rfl
          client := rfl
          server := rfl
          clientShort := fun _ => by decide
          serverFits := by decide }
      room := by decide
      short := by decide
      command := by decide }
  have inStep : clockTransfer.InStep := ⟨by decide, by decide, by decide⟩
  have taken : clockTransfer.Taken true := by
    unfold Taken
    decide
  have plain : (clockTransfer.carry (fun s => (s, true)) true).Plain false := by
    rw [carry_more connected taken (by decide) (by decide)]
    exact ⟨rfl, by decide, by decide⟩
  exact pdu_delivered_whole connected inStep (by decide) [false] ⟨plain, trivial⟩

end Transfer
end DlmsGateway.HdlcLink
