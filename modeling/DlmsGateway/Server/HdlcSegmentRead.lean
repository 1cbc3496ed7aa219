import DlmsGateway.Server.HdlcReceive

/-!
# A frame that is there as a whole is received

Where the bytes behind the position start with a segment, one pass of
`dlms_getHdlcData` reads its header and finds both check sequences right.
-/
set_option autoImplicit false
namespace DlmsGateway.HdlcLink

open Hdlc ByteBuffer BitFields

/-! ## Reading from a list -/

section Lists
variable {α : Type} {l rest : List α} {n : Nat} {a : α}

theorem getElem?_of_drop (behind : l.drop n = a :: rest) : l[n]? = some a := by
  rw [← List.head?_drop, behind, List.head?_cons]

theorem drop_behind (front : List α) (behind : l.drop n = front ++ rest) : l.drop (n + front.length) = rest := by
  rw [← List.drop_drop, behind, List.drop_left]

theorem take_front {front : List α} (behind : l.drop n = front ++ rest) : (l.drop n).take front.length = front := by
  rw [behind, List.take_left]

end Lists

theorem checkSequence_eq (bytes : List UInt8) :
    checkSequence bytes = [hiByte (crcOf bytes), loByte (crcOf bytes)] := by
  have both := withCheck_eq bytes
  rw [withCheck] at both
  exact (List.append_cancel_left both).symm

theorem bbGetUInt16_checkSequence (bytes rest : List UInt8) :
    bbGetUInt16 (checkSequence bytes ++ rest) = some (crcOf bytes, rest) := by
  rw [checkSequence_eq, List.cons_append, List.singleton_append, bbGetUInt16_cons]
  have word : UInt16.ofNat (256 * (hiByte (crcOf bytes)).toNat + (loByte (crcOf bytes)).toNat) =
      crcOf bytes := by
    rw [← UInt16.toNat_inj, UInt16.toNat_ofNat', toNat_hiByte, toNat_loByte]
    have bound := (crcOf bytes).toNat_lt
    omega
  rw [word]

/-! ## The format field -/

section Format
variable (f : SegmentFrame)

def formatByte : UInt8 := .ofNat ((if f.more then 0xA8 else 0xA0) + f.length / 256)

variable {f}

theorem toNat_formatByte (short : f.length < 2048) :
    (formatByte f).toNat = (if f.more then 0xA8 else 0xA0) + f.length / 256 := by
  rw [formatByte, UInt8.toNat_ofNat']
  split <;> omega

theorem formatByte_type (short : f.length < 2048) : formatByte f &&& 0xF0 = 0xA0 := by
  have bound : f.length / 256 < 8 := by omega
  rw [← UInt8.toNat_inj, UInt8.toNat_and, toNat_formatByte short]
  show _ &&& 0xF0 = 0xA0
  rw [and_shiftedMask 0xF0 4 4 rfl]
  split <;> omega

theorem formatByte_length (short : f.length < 2048) :
    (formatByte f &&& 0x7).toNat * 256 + (UInt8.ofNat f.length).toNat = f.length := by
  rw [UInt8.toNat_and, toNat_formatByte short, UInt8.toNat_ofNat']
  show (_ &&& 2 ^ 3 - 1) * 256 + _ = _
  rw [Nat.and_two_pow_sub_one_eq_mod]
  split <;> omega

theorem formatByte_more (short : f.length < 2048) : (formatByte f &&& 0x8 ≠ 0) = f.more := by
  have bit : (formatByte f &&& 0x8).toNat = if f.more then 8 else 0 := by
    rw [UInt8.toNat_and, toNat_formatByte short]
    show _ &&& 0x8 = _
    rw [and_shiftedMask 0x8 1 3 rfl]
    split <;> omega
  rw [Ne, ← UInt8.toNat_inj, bit]
  cases f.more with
  | false => simp
  | true => simp

end Format

/-! ## The pass -/

/-- The settings with which a frame to `target` from `source` is taken. -/
def HdlcSettings.takesAddresses (s : HdlcSettings) (control : UInt8) (target source : UInt32) :
    Option HdlcSettings :=
  if s.server then
    match serverAddresses s (some control) target source with
    | (s, none) => some s
    | (_, some _) => none
  else if clientAddresses s target source = (none, false) then some s else none

/-- The settings with which the number of a frame is taken. -/
def HdlcSettings.takesNumber (s : HdlcSettings) (preEstablished : Bool) (control : UInt8) :
    Option HdlcSettings :=
  if preEstablished then some s
  else if (s.checkFrame control).2 then some (s.checkFrame control).1 else none

/-- A segment with addresses that the stack can read. -/
structure Readable (s : HdlcSettings) (f : SegmentFrame) : Prop where
  short : f.length < 2048
  destination : f.destination.bytes.length = 1 ∨ f.destination.bytes.length = 2 ∨
    f.destination.bytes.length = 4
  source : f.source.bytes.length = 1 ∨ f.source.bytes.length = 2 ∨ f.source.bytes.length = 4
  client : s.server = true → f.source.bytes.length = 1

section Read
variable {st : Receiving} {f : SegmentFrame} {rest : List UInt8} {s : HdlcSettings}

theorem dlmsCheckHdlcAddress_segment (readable : Readable st.settings f) {behind : List UInt8}
    (bytes : st.reply.data.drop st.reply.position =
      f.destination.bytes ++ (f.source.bytes ++ f.control :: behind))
    (takes : st.settings.takesAddresses f.control (.ofNat (number f.destination.bytes))
      (.ofNat (number f.source.bytes)) = some s) (index : Nat) :
    dlmsCheckHdlcAddress st index =
      ((st.moveTo (st.reply.position + f.destination.bytes.length +
        f.source.bytes.length)).withSettings s, none) := by
  have length := congrArg List.length bytes
  simp only [List.length_drop, List.length_append, List.length_cons] at length
  have target : dlmsGetHDLCAddress false
      (f.destination.bytes ++ (f.source.bytes ++ f.control :: behind)) =
      .ok (.ofNat (number f.destination.bytes), f.source.bytes ++ f.control :: behind) :=
    dlmsGetHDLCAddress_bytes f.destination readable.destination (fun h => absurd h (by decide)) _
  have source : dlmsGetHDLCAddress st.settings.server (f.source.bytes ++ f.control :: behind) =
      .ok (.ofNat (number f.source.bytes), f.control :: behind) :=
    dlmsGetHDLCAddress_bytes f.source readable.source readable.client _
  have position : st.reply.data.length - (f.control :: behind).length =
      st.reply.position + f.destination.bytes.length + f.source.bytes.length := by
    rw [List.length_cons]
    omega
  have onward : dlmsCheckHdlcAddress st index =
      if st.settings.server then
        ((st.moveTo (st.reply.data.length - (f.control :: behind).length)).withSettings
          (serverAddresses st.settings (some f.control) (.ofNat (number f.destination.bytes))
            (.ofNat (number f.source.bytes))).1,
        (serverAddresses st.settings (some f.control) (.ofNat (number f.destination.bytes))
          (.ofNat (number f.source.bytes))).2)
      else
        (if (clientAddresses st.settings (.ofNat (number f.destination.bytes))
            (.ofNat (number f.source.bytes))).2 then
          (st.moveTo (st.reply.data.length - (f.control :: behind).length)).moveTo (index + 1)
        else st.moveTo (st.reply.data.length - (f.control :: behind).length),
        (clientAddresses st.settings (.ofNat (number f.destination.bytes))
          (.ofNat (number f.source.bytes))).1) := by
    rw [dlmsCheckHdlcAddress, bytes, target]
    dsimp only
    rw [show (st.moveTo (st.reply.data.length -
      (f.source.bytes ++ f.control :: behind).length)).settings.server = st.settings.server from rfl,
      source]
    rfl
  rw [onward, position]
  unfold HdlcSettings.takesAddresses at takes
  cases server : st.settings.server with
  | true =>
      rw [server, if_pos rfl] at takes
      rw [if_pos rfl]
      split at takes
      · rename_i settings checked
        rw [checked, Option.some.inj takes]
      · exact absurd takes (by simp)
  | false =>
      rw [server, if_neg (by decide)] at takes
      rw [if_neg (by decide)]
      split at takes
      · rename_i checked
        rw [checked, ← Option.some.inj takes]
        rfl
      · exact absurd takes (by simp)

theorem checkCrc_segment (svrIsTarget : HdlcSettings → HdlcSettings × Bool) (first : Bool)
    {start : Nat} (bytes : st.reply.data.drop start = f.bytes ++ rest)
    (position : st.reply.position = start + 1 + f.header.length) (eopPos : Nat) :
    checkCrc svrIsTarget first st start f.length eopPos =
      readInformation svrIsTarget first
        ((st.moveTo (st.reply.position + 2)).withPacketLength (eopPos - 2))
        (start + f.length + 1) := by
  have body := f.length_body
  have all : st.reply.data.drop start =
      0x7E :: (f.header ++ (checkSequence f.header ++ (f.tail ++ rest))) := by
    rw [bytes, f.bytes_eq]
    simp only [List.cons_append, List.append_assoc]
  have behindFlag : st.reply.data.drop (start + 1) =
      f.header ++ (checkSequence f.header ++ (f.tail ++ rest)) :=
    drop_behind [0x7E] all
  have behindHeader : st.reply.data.drop st.reply.position =
      checkSequence f.header ++ (f.tail ++ rest) := by
    rw [position]
    exact drop_behind _ behindFlag
  have headerCrc : crcOver st.reply.data (start + 1) (st.reply.position - start - 1) =
      crcOf f.header := by
    rw [crcOver, show st.reply.position - start - 1 = f.header.length by omega,
      take_front behindFlag]
  rw [checkCrc, behindHeader, bbGetUInt16_checkSequence, headerCrc]
  dsimp only
  rw [if_neg (fun differ => differ rfl)]
  by_cases empty : f.information = []
  · have length : f.body.length = f.header.length := by rw [SegmentFrame.body, if_pos empty]
    have ended : ¬ st.reply.position + 2 ≠ start + f.length + 1 := by omega
    exact if_neg ended
  · have parts : f.body = f.header ++ (checkSequence f.header ++ f.information) := by
      rw [SegmentFrame.body, if_neg empty]
    have some : 0 < f.information.length := List.length_pos_of_ne_nil empty
    have length : f.body.length = f.header.length + 2 + f.information.length := by
      rw [parts, List.length_append, List.length_append, SegmentFrame.length_checkSequence]
      omega
    have more : st.reply.position + 2 ≠ start + f.length + 1 := by omega
    have behindBody : st.reply.data.drop (start + 1) =
        f.body ++ (checkSequence f.body ++ (0x7E :: rest)) := by
      rw [behindFlag, SegmentFrame.tail, if_neg empty]
      generalize checkSequence f.body = fcs
      rw [parts]
      simp only [List.append_assoc, List.singleton_append]
    have frameCrc : crcOver st.reply.data (start + 1) (f.length - 2) = crcOf f.body := by
      rw [crcOver, show f.length - 2 = f.body.length by omega, take_front behindBody]
    have behindInformation : st.reply.data.drop (start + f.length - 1) =
        checkSequence f.body ++ (0x7E :: rest) := by
      rw [show start + f.length - 1 = start + 1 + f.body.length by omega]
      exact drop_behind _ behindBody
    refine (if_pos more).trans ?_
    rw [show (st.moveTo (st.reply.position + 2)).reply.data = st.reply.data from rfl, frameCrc,
      behindInformation, bbGetUInt16_checkSequence]
    exact if_neg fun differ => differ rfl

/-- What is known of a segment when its information is reached. -/
def headerRead (st : Receiving) (f : SegmentFrame) (s : HdlcSettings) : Receiving where
  settings := s
  reply := st.reply.at (st.reply.position + f.header.length + 3)
  data :=
    { st.data with
      complete := true
      moreData := if f.more then st.data.moreData ||| dataRequestTypesFrame
        else st.data.moreData &&& ~~~dataRequestTypesFrame
      packetLength := st.reply.position + f.length - 1 }
  frame := f.control

/-- A segment that starts at the position is read up to its information. -/
theorem attempt_segment (svrIsTarget : HdlcSettings → HdlcSettings × Bool)
    (preEstablished first : Bool) (readable : Readable st.settings f)
    (bytes : st.reply.data.drop st.reply.position = f.bytes ++ rest)
    (takes : st.settings.takesAddresses f.control (.ofNat (number f.destination.bytes))
      (.ofNat (number f.source.bytes)) = some s) {numbered : HdlcSettings}
    (takesNumber : s.takesNumber preEstablished f.control = some numbered) :
    attempt svrIsTarget preEstablished first st =
      readInformation svrIsTarget first (headerRead st f numbered)
        (st.reply.position + f.length + 1) := by
  have fits := st.reply.fits
  have headerLength := f.length_header
  have bodyLength := f.length_body
  have whole := f.length_bytes
  have length := congrArg List.length bytes
  rw [List.length_drop, List.length_append, whole] at length
  have minimal : 7 ≤ f.length := by
    have destination := readable.destination
    have source := readable.source
    rw [SegmentFrame.length]
    omega
  let behind := checkSequence f.header ++ (f.tail ++ rest)
  have all : st.reply.data.drop st.reply.position = 0x7E :: formatByte f :: .ofNat f.length ::
      (f.destination.bytes ++ (f.source.bytes ++ f.control :: behind)) := by
    rw [bytes, f.bytes_eq, SegmentFrame.header, SegmentFrame.format]
    simp only [behind, formatByte, SegmentFrame.header, SegmentFrame.format, List.cons_append,
      List.append_assoc, List.nil_append]
  have formatAt : st.reply.data[st.reply.position + 1]? = some (formatByte f) :=
    getElem?_of_drop (drop_behind [0x7E] all)
  have lengthAt : st.reply.data[st.reply.position + 2]? = some (.ofNat f.length) :=
    getElem?_of_drop (drop_behind [0x7E, formatByte f] all)
  have addresses : st.reply.data.drop (st.reply.position + 3) =
      f.destination.bytes ++ (f.source.bytes ++ f.control :: behind) :=
    drop_behind [0x7E, formatByte f, .ofNat f.length] all
  have controlAt : st.reply.data[st.reply.position + 3 + f.destination.bytes.length +
      f.source.bytes.length]? = some f.control :=
    getElem?_of_drop (drop_behind _ (drop_behind _ addresses))
  have eopAt : st.reply.data[st.reply.position + f.length + 1]? = some 0x7E := by
    have front : f.bytes = 0x7E :: (f.body ++ checkSequence f.body) ++ [0x7E] := by
      rw [SegmentFrame.bytes]
      simp only [List.cons_append, List.nil_append, List.append_assoc]
    rw [front, List.append_assoc] at bytes
    have eop := getElem?_of_drop (drop_behind _ bytes)
    rw [List.length_cons, List.length_append, SegmentFrame.length_checkSequence, bodyLength,
      ← Nat.add_assoc] at eop
    exact eop
  have found : attempt svrIsTarget preEstablished first st =
      readFormat svrIsTarget preEstablished first
        ((st.withComplete true).moveTo (st.reply.position + 1)) st.reply.position := by
    have enough : ¬ st.left < 9 := by
      rw [Receiving.left]
      omega
    have flag : findStart (st.reply.data.drop st.reply.position) st.reply.position =
        some st.reply.position := by
      rw [all]
      exact if_pos rfl
    rw [attempt, if_neg enough]
    dsimp only [Receiving.withComplete]
    rw [flag]
    exact if_neg (by omega)
  have formatted : readFormat svrIsTarget preEstablished first
      ((st.withComplete true).moveTo (st.reply.position + 1)) st.reply.position =
      readAddresses svrIsTarget preEstablished first
        (((st.withComplete true).withFrame (formatByte f)).moveTo (st.reply.position + 3))
        st.reply.position f.length (st.reply.position + f.length + 1) := by
    have eopPos : (f.length + st.reply.position + 1) % 2 ^ 16 = st.reply.position + f.length + 1 := by
      omega
    have complete : ¬ st.reply.data.length - (st.reply.position + 3) + 1 < f.length := by omega
    unfold readFormat
    dsimp only [Receiving.withComplete, Receiving.moveTo, ReceiveBuffer.at, Receiving.withFrame]
    rw [formatAt]
    dsimp only
    rw [if_neg (fun other => other (formatByte_type readable.short)), lengthAt]
    dsimp only
    rw [formatByte_length readable.short, if_neg complete, eopPos, eopAt]
    exact if_neg fun other => other rfl
  let reached := ((st.withComplete true).withFrame (formatByte f)).moveTo (st.reply.position + 3)
  have addressed : dlmsCheckHdlcAddress reached (st.reply.position + f.length + 1) =
      ((reached.moveTo (st.reply.position + 3 + f.destination.bytes.length +
        f.source.bytes.length)).withSettings s, none) := by
    have taken : reached.settings.takesAddresses f.control (.ofNat (number f.destination.bytes))
        (.ofNat (number f.source.bytes)) = some s := takes
    have ahead : reached.reply.data.drop reached.reply.position =
        f.destination.bytes ++ (f.source.bytes ++ f.control :: behind) := addresses
    have readableThere : Readable reached.settings f := readable
    exact dlmsCheckHdlcAddress_segment readableThere ahead taken _
  have header : st.reply.position + 3 + f.destination.bytes.length + f.source.bytes.length + 1 =
      st.reply.position + 1 + f.header.length := by omega
  let noted := (noteMoreData (((reached.withSettings s).moveTo
    (st.reply.position + 1 + f.header.length)).withFrame f.control) (formatByte f)).withSettings
      numbered
  have checked : checkCrc svrIsTarget first noted st.reply.position f.length
      (st.reply.position + f.length + 1) =
      readInformation svrIsTarget first ((noted.moveTo (noted.reply.position + 2)).withPacketLength
        (st.reply.position + f.length + 1 - 2)) (st.reply.position + f.length + 1) := by
    have ahead : noted.reply.data.drop st.reply.position = f.bytes ++ rest := bytes
    exact checkCrc_segment svrIsTarget first ahead rfl _
  have controlled : readControl svrIsTarget preEstablished first
      ((reached.moveTo (st.reply.position + 3 + f.destination.bytes.length +
        f.source.bytes.length)).withSettings s) st.reply.position f.length
        (st.reply.position + f.length + 1) =
      checkCrc svrIsTarget first noted st.reply.position f.length
        (st.reply.position + f.length + 1) := by
    unfold HdlcSettings.takesNumber at takesNumber
    unfold readControl
    dsimp only [reached, Receiving.withComplete, Receiving.moveTo, ReceiveBuffer.at,
      Receiving.withFrame, Receiving.withSettings]
    rw [controlAt]
    dsimp only
    rw [header]
    cases preEstablished with
    | true =>
        rw [if_pos rfl] at takesNumber
        rw [if_pos rfl]
        dsimp only [noted]
        rw [← Option.some.inj takesNumber]
        rfl
    | false =>
        rw [if_neg (by decide)] at takesNumber
        rw [if_neg (by decide)]
        split at takesNumber
        · rename_i accepted
          dsimp only [noted]
          rw [← Option.some.inj takesNumber]
          exact if_pos accepted
        · exact absurd takesNumber (by simp)
  have read : (noted.moveTo (noted.reply.position + 2)).withPacketLength
      (st.reply.position + f.length + 1 - 2) = headerRead st f numbered := by
    have position : st.reply.position + 1 + f.header.length + 2 =
        st.reply.position + f.header.length + 3 := by omega
    have packetLength : st.reply.position + f.length + 1 - 2 = st.reply.position + f.length - 1 := by
      omega
    have moreData : (if formatByte f &&& 0x8 ≠ 0 then st.data.moreData ||| dataRequestTypesFrame
        else st.data.moreData &&& ~~~dataRequestTypesFrame) =
        if f.more then st.data.moreData ||| dataRequestTypesFrame
        else st.data.moreData &&& ~~~dataRequestTypesFrame := by
      simp only [formatByte_more readable.short]
    rw [packetLength, headerRead, ← moreData, ← position]
    rfl
  rw [found, formatted, readAddresses, addressed, controlled, checked, read]

end Read
end DlmsGateway.HdlcLink
