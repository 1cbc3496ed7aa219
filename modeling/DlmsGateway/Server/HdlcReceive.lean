import DlmsGateway.Server.HdlcFrame

/-!
# Receiving on the HDLC interface

`dlms_getHdlcData` looks for a frame in the bytes received so far.  Each pass
tries the next flag; a frame that is damaged or meant for another station sends
it on behind that flag or that frame.
-/
set_option autoImplicit false
namespace DlmsGateway.HdlcLink

open Hdlc ByteBuffer

def dlmsCommandNone : UInt8 := 0
def dlmsCommandSnrm : UInt8 := 0x93
def dlmsCommandUa : UInt8 := 0x73
def dlmsCommandDisconnectMode : UInt8 := 0x1F
def dlmsCommandRejected : UInt8 := 0x97
def dlmsCommandDisc : UInt8 := 0x53

def dataRequestTypesFrame : UInt8 := 0x1

def llcSendBytes : List UInt8 := [0xE6, 0xE6, 0x00]
def llcReplyBytes : List UInt8 := [0xE6, 0xE7, 0x00]

/-- The received bytes, few enough for the sixteen bits in which positions are kept. -/
structure ReceiveBuffer where
  data : List UInt8
  position : Nat
  fits : data.length < 2 ^ 16

def ReceiveBuffer.at (r : ReceiveBuffer) (position : Nat) : ReceiveBuffer :=
  { r with position := position }

/-- The members of `gxReplyData` for frames. -/
structure ReplyData where
  data : Pdu
  complete : Bool
  moreData : UInt8
  packetLength : Nat
  command : UInt8

/-- What `dlms_getHdlcData` works on; `frame` is the control byte it returns. -/
structure Receiving where
  settings : HdlcSettings
  reply : ReceiveBuffer
  data : ReplyData
  frame : UInt8

namespace Receiving

def moveTo (st : Receiving) (position : Nat) : Receiving :=
  { st with reply := st.reply.at position }

def withSettings (st : Receiving) (settings : HdlcSettings) : Receiving :=
  { st with settings := settings }

def withFrame (st : Receiving) (frame : UInt8) : Receiving := { st with frame := frame }

def withComplete (st : Receiving) (complete : Bool) : Receiving :=
  { st with data := { st.data with complete := complete } }

def withMoreData (st : Receiving) (moreData : UInt8) : Receiving :=
  { st with data := { st.data with moreData := moreData } }

def withPacketLength (st : Receiving) (packetLength : Nat) : Receiving :=
  { st with data := { st.data with packetLength := packetLength } }

def withCommand (st : Receiving) (command : UInt8) : Receiving :=
  { st with data := { st.data with command := command } }

def cleared (st : Receiving) : Receiving := { st with reply := ⟨[], 0, by decide⟩ }

def left (st : Receiving) : Nat := st.reply.data.length - st.reply.position

end Receiving

/-- A return code and what the call leaves; without a code the call succeeded. -/
structure Outcome where
  ret : Option ErrorCode
  after : Receiving

/-- One pass of `dlms_getHdlcData`: it returns or starts again. -/
inductive Attempt where
  | returns (o : Outcome)
  | again (st : Receiving)
  /-- Again, but the position comes back if the next frame has set the addresses. -/
  | notTarget (st : Receiving)

def returning (ret : ErrorCode) (st : Receiving) : Attempt := .returns ⟨some ret, st⟩

/-! ## The addresses -/

/-- `dlms_getServerAddress`: the logical and the physical address. -/
def dlmsGetServerAddress (address : UInt32) : UInt32 × UInt32 :=
  if address < 0x4000 then (address >>> 7, address &&& 0x7F)
  else (address >>> 14, address &&& 0x3FFF)

/-- The part of `dlms_checkHdlcAddress` for a server, whose position is behind both addresses. -/
def serverAddresses (s : HdlcSettings) (next : Option UInt8) (target source : UInt32) :
    HdlcSettings × Option ErrorCode :=
  if s.serverAddress ≠ 0 ∧ s.serverAddress ≠ target then (s, some .invalidServerAddress)
  else
    let s := { s with serverAddress := target }
    if s.clientAddress ≠ 0 ∧ s.clientAddress.toUInt32 ≠ source then
      -- a client that connects again may have another address
      if next = some dlmsCommandSnrm then ({ s with clientAddress := source.toUInt16 }, none)
      else (s, some .invalidClientAddress)
    else ({ s with clientAddress := source.toUInt16 }, none)

/-- The part for a client: is the frame for it, and if not, is it its own echo? -/
def clientAddresses (s : HdlcSettings) (target source : UInt32) : Option ErrorCode × Bool :=
  if s.clientAddress.toUInt32 ≠ target then
    (some .notForUs, s.clientAddress.toUInt32 = source ∧ s.serverAddress = target)
  else if s.serverAddress ≠ source ∧ s.serverAddress &&& 0x7F ≠ 0x7F ∧
      s.serverAddress &&& 0x3FFF ≠ 0x3FFF ∧
      dlmsGetServerAddress source ≠ dlmsGetServerAddress s.serverAddress then
    (some .notForUs, false)
  else (none, false)

def dlmsCheckHdlcAddress (st : Receiving) (index : Nat) : Receiving × Option ErrorCode :=
  match dlmsGetHDLCAddress false (st.reply.data.drop st.reply.position) with
  | .error ret => (st, some ret)
  | .ok (target, rest) =>
      let st := st.moveTo (st.reply.data.length - rest.length)
      match dlmsGetHDLCAddress st.settings.server rest with
      | .error ret => (st, some ret)
      | .ok (source, rest) =>
          let st := st.moveTo (st.reply.data.length - rest.length)
          if st.settings.server then
            let checked := serverAddresses st.settings rest.head? target source
            (st.withSettings checked.1, checked.2)
          else
            let checked := clientAddresses st.settings target source
            (if checked.2 then st.moveTo (index + 1) else st, checked.1)

/-! ## One pass -/

/-- `dlms_checkLLCBytes`, whose answer nobody asks for. -/
def dlmsCheckLLCBytes (st : Receiving) : Receiving :=
  let llc := if st.settings.server then llcSendBytes else llcReplyBytes
  if (st.reply.data.drop st.reply.position).take 3 = llc then st.moveTo (st.reply.position + 3)
  else st

section Pass
variable (svrIsTarget : HdlcSettings → HdlcSettings × Bool) (preEstablished first : Bool)

/-- "Check is data send to this server." -/
def checkTarget (st : Receiving) : Attempt :=
  if st.settings.server ∧ (first ∨ st.data.command = dlmsCommandSnrm) then
    let target := svrIsTarget st.settings
    if target.2 then .returns ⟨none, st.withSettings target.1⟩
    else
      let st := st.withSettings { target.1 with serverAddress := 0, clientAddress := 0 }
      if 8 < st.left then .notTarget st else returning .invalidClientAddress st
  else .returns ⟨none, st⟩

/-- "Get Eop if there is no data." -/
def skipEop (st : Receiving) (frameEnd : Nat) : Receiving :=
  if st.reply.position = frameEnd then st.moveTo (st.reply.position + 1) else st

def readInformation (st : Receiving) (frameEnd : Nat) : Attempt :=
  let frame := st.frame
  if frame ≠ 0x13 ∧ frame ≠ 0x3 ∧ frame &&& 0x3 = 0x3 then
    let st := (skipEop st frameEnd).withCommand frame
    if frame ∈ [dlmsCommandSnrm, dlmsCommandUa, dlmsCommandDisconnectMode, dlmsCommandRejected,
        dlmsCommandDisc] then
      checkTarget svrIsTarget first st
    else returning .rejected st
  else if frame ≠ 0x13 ∧ frame ≠ 0x3 ∧ frame &&& 0x1 = 0x1 then
    let control := frame >>> 2 &&& 0x3
    if control = 2 ∨ control = 1 then returning .rejected st
    else checkTarget svrIsTarget first (skipEop st frameEnd)
  else if st.reply.position = frameEnd then
    let st := st.moveTo (st.reply.position + 1)
    let st := if frame &&& 0x1 = 0x1 then st.withMoreData dataRequestTypesFrame else st
    checkTarget svrIsTarget first st
  else checkTarget svrIsTarget first (dlmsCheckLLCBytes st)

/-- The bytes of `data` from `index` on that `countCRC` counts. -/
def crcOver (data : List UInt8) (index count : Nat) : UInt16 := crcOf ((data.drop index).take count)

/-- The check sequence over the header, then the one over the whole frame. -/
def checkCrc (st : Receiving) (packetStartID frameLen eopPos : Nat) : Attempt :=
  let frameEnd := packetStartID + frameLen + 1
  let crc := crcOver st.reply.data (packetStartID + 1) (st.reply.position - packetStartID - 1)
  match bbGetUInt16 (st.reply.data.drop st.reply.position) with
  | none => returning .outOfMemory st
  | some (crcRead, _) =>
      let st := st.moveTo (st.reply.position + 2)
      if crc ≠ crcRead then
        if 8 < st.left then .again st else returning .wrongCrc st
      else if st.reply.position ≠ frameEnd then
        let crc := crcOver st.reply.data (packetStartID + 1) (frameLen - 2)
        match bbGetUInt16 (st.reply.data.drop (packetStartID + frameLen - 1)) with
        | none => returning .outOfMemory st
        | some (crcRead, _) =>
            if crc ≠ crcRead then returning .wrongCrc st
            else readInformation svrIsTarget first (st.withPacketLength (eopPos - 2)) frameEnd
      else readInformation svrIsTarget first (st.withPacketLength (eopPos - 2)) frameEnd

/-- "Is there more data available": the segmentation bit of the format field. -/
def noteMoreData (st : Receiving) (format : UInt8) : Receiving :=
  st.withMoreData
    (if format &&& 0x8 ≠ 0 then st.data.moreData ||| dataRequestTypesFrame
    else st.data.moreData &&& ~~~dataRequestTypesFrame)

def readControl (st : Receiving) (packetStartID frameLen eopPos : Nat) : Attempt :=
  match st.reply.data[st.reply.position]? with
  | none => returning .outOfMemory st
  | some frame =>
      let st := noteMoreData ((st.moveTo (st.reply.position + 1)).withFrame frame) st.frame
      if preEstablished then checkCrc svrIsTarget first st packetStartID frameLen eopPos
      else
        let checked := st.settings.checkFrame frame
        let st := st.withSettings checked.1
        if checked.2 then checkCrc svrIsTarget first st packetStartID frameLen eopPos
        else
          let st := st.moveTo (eopPos + 1)
          if st.settings.server then returning .invalidFrameNumber st else .again st

/-- The addresses, and where a frame leads that they refuse. -/
def readAddresses (st : Receiving) (packetStartID frameLen eopPos : Nat) : Attempt :=
  let checked := dlmsCheckHdlcAddress st eopPos
  let st := checked.1
  match checked.2 with
  | none => readControl svrIsTarget preEstablished first st packetStartID frameLen eopPos
  | some .invalidClientAddress => returning .invalidClientAddress st
  | some .notForUs => .again st
  | some .invalidServerAddress =>
      if st.reply.position + 4 = st.reply.data.length then
        returning .invalidServerAddress (st.withPacketLength 0).cleared
      else .again (st.moveTo (packetStartID + 1))
  | some _ => .again (st.moveTo (packetStartID + 1))

/-- Behind a flag at `packetStartID`. -/
def readFormat (st : Receiving) (packetStartID : Nat) : Attempt :=
  match st.reply.data[packetStartID + 1]? with
  | none => returning .outOfMemory st
  | some format =>
      let st := st.withFrame format
      if format &&& 0xF0 ≠ 0xA0 then .again (st.moveTo (packetStartID + 1))
      else
        match st.reply.data[packetStartID + 2]? with
        | none => returning .outOfMemory (st.moveTo (packetStartID + 2))
        | some ch =>
            let frameLen := (format &&& 0x7).toNat * 256 + ch.toNat
            if st.reply.data.length - (packetStartID + 3) + 1 < frameLen then
              .returns ⟨none, (st.moveTo packetStartID).withComplete false⟩
            else
              let eopPos := (frameLen + packetStartID + 1) % 2 ^ 16
              match st.reply.data[eopPos]? with
              | none => returning .outOfMemory (st.moveTo (packetStartID + 3))
              | some ch =>
                  if ch ≠ 0x7E then .again (st.moveTo (packetStartID + 1))
                  else readAddresses svrIsTarget preEstablished first
                    (st.moveTo (packetStartID + 3)) packetStartID frameLen eopPos

/-- "Find start of HDLC frame." -/
def findStart : List UInt8 → Nat → Option Nat
  | [], _ => none
  | ch :: rest, pos => if ch = 0x7E then some pos else findStart rest (pos + 1)

def attempt (st : Receiving) : Attempt :=
  if st.left < 9 then .returns ⟨none, st.withComplete false⟩
  else
    let st := st.withComplete true
    match findStart (st.reply.data.drop st.reply.position) st.reply.position with
    | none => .returns ⟨none, (st.moveTo st.reply.data.length).withComplete false⟩
    | some packetStartID =>
        if packetStartID + 1 = st.reply.data.length then
          .returns ⟨none, (st.moveTo st.reply.data.length).withComplete false⟩
        else
          readFormat svrIsTarget preEstablished first (st.moveTo (packetStartID + 1)) packetStartID

/-! ## All passes -/

/-- Another pass is behind the last one in the same bytes. -/
def Attempt.Ahead (data : List UInt8) (position : Nat) : Attempt → Prop
  | .returns _ => True
  | .again st => st.reply.data = data ∧ position < st.reply.position
  | .notTarget st => st.reply.data = data ∧ position < st.reply.position

section Ahead
variable {st : Receiving} {data : List UInt8} {position : Nat}

theorem checkTarget_ahead (same : st.reply.data = data) (ahead : position < st.reply.position) :
    (checkTarget svrIsTarget first st).Ahead data position := by
  unfold checkTarget
  split
  · dsimp only
    split
    · trivial
    · split
      · exact ⟨same, ahead⟩
      · trivial
  · trivial

theorem skipEop_ahead (same : st.reply.data = data) (ahead : position < st.reply.position)
    (frameEnd : Nat) : (skipEop st frameEnd).reply.data = data ∧
      position < (skipEop st frameEnd).reply.position := by
  unfold skipEop
  split
  · exact ⟨same, Nat.lt_succ_of_lt ahead⟩
  · exact ⟨same, ahead⟩

theorem checkLLCBytes_ahead (same : st.reply.data = data) (ahead : position < st.reply.position) :
    (dlmsCheckLLCBytes st).reply.data = data ∧
      position < (dlmsCheckLLCBytes st).reply.position := by
  unfold dlmsCheckLLCBytes
  generalize (if st.settings.server then llcSendBytes else llcReplyBytes) = llc
  dsimp only
  split
  · exact ⟨same, Nat.lt_add_right 3 ahead⟩
  · exact ⟨same, ahead⟩

theorem readInformation_ahead (same : st.reply.data = data) (ahead : position < st.reply.position)
    (frameEnd : Nat) : (readInformation svrIsTarget first st frameEnd).Ahead data position := by
  have skipped := skipEop_ahead same ahead frameEnd
  have checked := checkLLCBytes_ahead same ahead
  unfold readInformation
  dsimp only
  split
  · split
    · exact checkTarget_ahead svrIsTarget first skipped.1 skipped.2
    · trivial
  · split
    · split
      · trivial
      · exact checkTarget_ahead svrIsTarget first skipped.1 skipped.2
    · split
      · split
        · exact checkTarget_ahead svrIsTarget first same (Nat.lt_succ_of_lt ahead)
        · exact checkTarget_ahead svrIsTarget first same (Nat.lt_succ_of_lt ahead)
      · exact checkTarget_ahead svrIsTarget first checked.1 checked.2

theorem checkCrc_ahead (same : st.reply.data = data) (ahead : position < st.reply.position)
    (packetStartID frameLen eopPos : Nat) :
    (checkCrc svrIsTarget first st packetStartID frameLen eopPos).Ahead data position := by
  have behind : position < st.reply.position + 2 := Nat.lt_add_right 2 ahead
  unfold checkCrc
  dsimp only
  split
  · trivial
  · split
    · split
      · exact ⟨same, behind⟩
      · trivial
    · split
      · split
        · trivial
        · split
          · trivial
          · refine readInformation_ahead svrIsTarget first ?_ ?_ _
            · exact same
            · exact behind
      · refine readInformation_ahead svrIsTarget first ?_ ?_ _
        · exact same
        · exact behind

theorem readControl_ahead (same : st.reply.data = data) (ahead : position < st.reply.position)
    (packetStartID frameLen : Nat) {eopPos : Nat} (beforeEop : position < eopPos + 1) :
    (readControl svrIsTarget preEstablished first st packetStartID frameLen eopPos).Ahead
      data position := by
  have behind : position < st.reply.position + 1 := Nat.lt_succ_of_lt ahead
  unfold readControl
  split
  · trivial
  · dsimp only
    split
    · refine checkCrc_ahead svrIsTarget first ?_ ?_ _ _ _
      · exact same
      · exact behind
    · split
      · refine checkCrc_ahead svrIsTarget first ?_ ?_ _ _ _
        · exact same
        · exact behind
      · split
        · trivial
        · exact ⟨same, beforeEop⟩

theorem dlmsCheckHdlcAddress_ahead (same : st.reply.data = data)
    (ahead : position < st.reply.position) {index : Nat} (beforeEop : position < index + 1) :
    (dlmsCheckHdlcAddress st index).1.reply.data = data ∧
      position < (dlmsCheckHdlcAddress st index).1.reply.position := by
  unfold dlmsCheckHdlcAddress
  split
  · exact ⟨same, ahead⟩
  · rename_i target rest first
    obtain ⟨behind, within, sizes⟩ := dlmsGetHDLCAddress_ok first
    rw [List.length_drop] at within
    have later : position < st.reply.data.length - rest.length := by
      rw [behind, List.length_drop, List.length_drop]
      omega
    dsimp only
    split
    · exact ⟨same, later⟩
    · rename_i source rest' second
      obtain ⟨behind', _, _⟩ := dlmsGetHDLCAddress_ok second
      have latest : position < st.reply.data.length - rest'.length := by
        rw [behind', List.length_drop]
        omega
      split
      · exact ⟨same, latest⟩
      · split
        · exact ⟨same, beforeEop⟩
        · exact ⟨same, latest⟩

theorem readAddresses_ahead (same : st.reply.data = data) (ahead : position < st.reply.position)
    {packetStartID : Nat} (behindFlag : position < packetStartID + 1) (frameLen : Nat) {eopPos : Nat}
    (beforeEop : position < eopPos + 1) :
    (readAddresses svrIsTarget preEstablished first st packetStartID frameLen eopPos).Ahead
      data position := by
  obtain ⟨same, ahead⟩ := dlmsCheckHdlcAddress_ahead same ahead beforeEop
  unfold readAddresses
  dsimp only
  split
  · exact readControl_ahead svrIsTarget preEstablished first same ahead _ _ beforeEop
  · trivial
  · exact ⟨same, ahead⟩
  · split
    · trivial
    · exact ⟨same, behindFlag⟩
  · exact ⟨same, behindFlag⟩

theorem readFormat_ahead (same : st.reply.data = data) {packetStartID : Nat}
    (behindFlag : position < packetStartID + 1) :
    (readFormat svrIsTarget preEstablished first st packetStartID).Ahead data position := by
  have fits := st.reply.fits
  unfold readFormat
  dsimp only
  split
  · trivial
  · split
    · exact ⟨same, behindFlag⟩
    · split
      · trivial
      · rename_i length
        have inside : packetStartID + 2 < st.reply.data.length :=
          (List.getElem?_eq_some_iff.mp length).1
        split
        · trivial
        · rename_i enough
          have enough : ¬ st.reply.data.length - (packetStartID + 3) + 1 < _ := enough
          split
          · trivial
          · split
            · exact ⟨same, behindFlag⟩
            · have behindFormat : position < packetStartID + 3 := by omega
              refine readAddresses_ahead svrIsTarget preEstablished first ?_ ?_ behindFlag _ ?_
              · exact same
              · exact behindFormat
              · omega

theorem findStart_ge {start : Nat} : ∀ (bytes : List UInt8) (position : Nat),
    findStart bytes position = some start → position ≤ start := by
  intro bytes
  induction bytes with
  | nil => intro position found; exact absurd found (by simp [findStart])
  | cons ch rest ih =>
      intro position found
      rw [findStart] at found
      split at found
      · exact Nat.le_of_eq (Option.some.inj found)
      · exact Nat.le_of_succ_le (ih _ found)

end Ahead

theorem attempt_ahead (st : Receiving) :
    (attempt svrIsTarget preEstablished first st).Ahead st.reply.data st.reply.position := by
  unfold attempt
  split
  · trivial
  · dsimp only
    split
    · trivial
    · rename_i packetStartID found
      split
      · trivial
      · exact readFormat_ahead svrIsTarget preEstablished first rfl
          (Nat.lt_succ_of_le (findStart_ge _ _ found))

theorem left_lt {st next : Receiving} (data : next.reply.data = st.reply.data)
    (ahead : st.reply.position < next.reply.position) (enough : 9 ≤ st.left) :
    next.left < st.left := by
  rw [Receiving.left] at enough ⊢
  rw [data, Receiving.left]
  omega

/-- A pass that is repeated has read nine bytes or more. -/
theorem left_of_again {st next : Receiving}
    (answer : attempt svrIsTarget preEstablished first st = .again next ∨
      attempt svrIsTarget preEstablished first st = .notTarget next) : next.left < st.left := by
  have ahead := attempt_ahead svrIsTarget preEstablished first st
  have enough : 9 ≤ st.left := by
    by_contra short
    have returns : attempt svrIsTarget preEstablished first st =
        .returns ⟨none, st.withComplete false⟩ := if_pos (by omega)
    rw [returns] at answer
    exact absurd answer (by simp)
  rcases answer with again | again
  · rw [again] at ahead
    exact left_lt ahead.1 ahead.2 enough
  · rw [again] at ahead
    exact left_lt ahead.1 ahead.2 enough

def dlmsGetHdlcData (st : Receiving) : Outcome :=
  match answer : attempt svrIsTarget preEstablished first st with
  | .returns o => o
  | .again next =>
      have := left_of_again svrIsTarget preEstablished first (.inl answer)
      dlmsGetHdlcData next
  | .notTarget next =>
      have := left_of_again svrIsTarget preEstablished first (.inr answer)
      let o := dlmsGetHdlcData next
      if o.after.settings.serverAddress ≠ 0 ∧ o.after.settings.clientAddress ≠ 0 then
        { o with after := o.after.moveTo next.reply.position }
      else o
termination_by st.left

end Pass
end DlmsGateway.HdlcLink
