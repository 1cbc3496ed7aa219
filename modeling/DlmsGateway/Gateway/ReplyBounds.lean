import DlmsGateway.Gateway.Reassembly
import DlmsGateway.Lib.Runs
import DlmsGateway.Lib.Bytes

/-!
# What the reply path reads and writes

`Meter2GW_Frame_Convertor` as the list of the accesses it makes, in their order
and with the exits on the way.  `RX_Count` is not among the values it reads.  A
frame that passes the checks has the whole of `HES_Frame`, 5000 bytes, copied
to the 2048 bytes of `TX`.
-/
set_option autoImplicit false
namespace DlmsGateway

open ByteStore Arrays

/-- `HDLC_STRUCT->RX`, `HES_Frame`, `Buffer_Data_Meter2GW_Frame_Convertor` and `GW_STRUCT->TX`. -/
inductive ReplyArray where
  | rx
  | hesFrame
  | bufferData
  | tx

def ReplyArray.size : ReplyArray → Nat
  | .rx => 2048
  | .hesFrame => 5000
  | .bufferData => 8152
  | .tx => 2048

/-- The loop that looks for the end of an address in `[start, size)`, up to the byte it finds. -/
def scanAccess (start size : Nat) : Option Nat → Access ReplyArray
  | some i => ⟨.rx, start, i + 1 - start⟩
  | none => ⟨.rx, start, size - start⟩

/-- The client's address byte is stored where the first scan finds one. -/
def clientAddressAccesses (size : Nat) (dstEnd : Option Nat) : List (Access ReplyArray) :=
  scanAccess 3 size dstEnd :: if dstEnd.isSome then [element .hesFrame 5] else []

/-- The classification: a single frame clears the collected bytes. -/
def classifyAccesses (g : Globals) : List (Access ReplyArray) :=
  if g.segmentBit = .singleFrame then [⟨.bufferData, 0, 8152⟩] else []

/-- The copy loop, the frame check sequence and what is copied to `TX`. -/
def deliverAccesses (f : MeterFrame) (g : Globals) : List (Access ReplyArray) :=
  let lastByte := f.addEnd + 3 + f.dataLen
  let collected := g.lastByteBuffer + UInt16.ofNat f.dataLen
  let size := f.prefixSize + collected.toNat
  [⟨.rx, f.dataStart, f.dataLen⟩, ⟨.hesFrame, f.prefixSize, f.dataLen⟩] ++
  (List.range f.dataLen).map (fun k =>
    element .bufferData (g.lastByteBuffer + UInt16.ofNat k).toNat) ++
  [⟨.rx, lastByte + 1, 2⟩, ⟨.rx, 1, lastByte⟩, ⟨.hesFrame, 0, 5000⟩, ⟨.tx, 0, 5000⟩] ++
  match g.segmentBit with
  | .lastFrame =>
      [⟨.bufferData, 0, collected.toNat⟩, ⟨.hesFrame, f.prefixSize, collected.toNat⟩,
        ⟨.hesFrame, 6, 2⟩, ⟨.hesFrame, 0, size - 3⟩, ⟨.tx, 0, size - 3⟩, ⟨.bufferData, 0, 8152⟩]
  | .singleFrame => [⟨.bufferData, 0, 8152⟩]
  | .middleFrame => []

/-- From the address of the meter, whose last byte is at `i`, to the header check. -/
def addressedAccesses (rx : Nat → UInt8) (size lastByte i : Nat) (f : MeterFrame) (g : Globals) :
    List (Access ReplyArray) :=
  [⟨.rx, lastByte + 1, i - lastByte⟩,
    if i - lastByte = 4 then ⟨.hesFrame, 2, 2⟩ else element .hesFrame 3,
    ⟨.hesFrame, 10, 1 + f.addLen⟩] ++
  (if g.segmentBit = .singleFrame then [element .rx (i + 1)] else []) ++
  [⟨.rx, i + 2, 2⟩, ⟨.rx, 1, i + 1⟩] ++
  if size < i + 3 + 4 then []
  else [⟨.hesFrame, 6, 2⟩] ++ if f.HcsRight rx then deliverAccesses f g else []

/-- From the end flag on. -/
def locatedAccesses (rx : Nat → UInt8) (g : Globals) : List (Access ReplyArray) :=
  let size := recDataSize rx
  if rx (size - 1) ≠ 0x7E then []
  else
    let dstEnd := endOfAddress rx 3 size
    let dstAdd := match dstEnd with
      | some i => rx i >>> 1
      | none => 0
    let lastByte := dstEnd.getD 0
    let srcEnd := endOfAddress rx (lastByte + 1) size
    clientAddressAccesses size dstEnd ++ [scanAccess (lastByte + 1) size srcEnd] ++
    match srcEnd with
    | none => []
    | some i =>
        match meterAddress rx lastByte i with
        | none => []
        | some (logAdd, phyAdd) =>
            addressedAccesses rx size lastByte i { size, dstAdd, logAdd, phyAdd, addEnd := i } g

def convertorAccesses (rx : Nat → UInt8) (g : Globals) : List (Access ReplyArray) :=
  [⟨.hesFrame, 0, 5000⟩, element .rx 0] ++
  if rx 0 ≠ 0x7E then []
  else
    [element .rx 1] ++
    if rx 1 &&& 0xF0 ≠ 0xA0 then []
    else
      let g := g.classify (rx 1)
      let size := recDataSize rx
      classifyAccesses g ++
      [⟨.hesFrame, 0, 2⟩, ⟨.hesFrame, 8, 3⟩, ⟨.rx, 1, 2⟩, element .rx (size - 1)] ++
      locatedAccesses rx g

/-! ## The condition -/

/-- Where the address of the meter ends, if the end flag is right and the address can be read. -/
def meterAddressEnd (rx : Nat → UInt8) : Option Nat :=
  let size := recDataSize rx
  if rx (size - 1) ≠ 0x7E then none
  else
    let lastByte := (endOfAddress rx 3 size).getD 0
    (endOfAddress rx (lastByte + 1) size).filter fun i => (meterAddress rx lastByte i).isSome

/-- The frame is refused, and before that its length and its address lead to no byte outside
`RX`. -/
def Buffer.RefusedInside (hdlc : Buffer) : Prop :=
  hdlc.FormatRight → recDataSize hdlc.rxByte ≤ 2048 ∧
    (∀ i ∈ meterAddressEnd hdlc.rxByte, i + 3 < 2048) ∧ ∀ f, ¬ hdlc.Accepted f

section Bounds
variable {rx : Nat → UInt8} {f : MeterFrame} {g : Globals}

theorem within_classify : Within ReplyArray.size (classifyAccesses g) := by
  unfold classifyAccesses
  split <;> simp [ReplyArray.size]

theorem not_within_deliver : ¬ Within ReplyArray.size (deliverAccesses f g) := by
  simp [deliverAccesses, ReplyArray.size]

theorem inside_scan (rx : Nat → UInt8) (start : Nat) {size : Nat} (short : size ≤ 2048) :
    (scanAccess start size (endOfAddress rx start size)).Inside ReplyArray.size := by
  cases found : endOfAddress rx start size with
  | none =>
      simp [scanAccess, ReplyArray.size]
      omega
  | some i =>
      have := endOfAddress_bounds found
      simp [scanAccess, ReplyArray.size]
      omega

theorem within_clientAddress (rx : Nat → UInt8) {size : Nat} (short : size ≤ 2048) :
    Within ReplyArray.size (clientAddressAccesses size (endOfAddress rx 3 size)) := by
  have scan := inside_scan rx 3 short
  unfold clientAddressAccesses
  split <;> simp [scan, ReplyArray.size]

theorem within_addressed {size lastByte i : Nat} (short : size ≤ 2048) (before : lastByte < i)
    (inside : i < size) :
    Within ReplyArray.size (addressedAccesses rx size lastByte i f g) ↔
      i + 3 < 2048 ∧ (i + 7 ≤ size → ¬ f.HcsRight rx) := by
  have addLen : f.addLen ≤ 2 := by
    unfold MeterFrame.addLen
    split <;> omega
  have header : Within ReplyArray.size [⟨.rx, lastByte + 1, i - lastByte⟩,
      if i - lastByte = 4 then ⟨.hesFrame, 2, 2⟩ else element .hesFrame 3,
      ⟨.hesFrame, 10, 1 + f.addLen⟩] := by
    split <;> simp [ReplyArray.size] <;> omega
  have control : i + 3 < 2048 → Within ReplyArray.size
      (if g.segmentBit = .singleFrame then [element .rx (i + 1)] else []) := by
    intro room
    split <;> simp [ReplyArray.size]
    omega
  have check : Within ReplyArray.size [⟨.rx, i + 2, 2⟩, ⟨.rx, 1, i + 1⟩] ↔ i + 3 < 2048 := by
    simp [ReplyArray.size]
    omega
  have rest : Within ReplyArray.size (if size < i + 3 + 4 then []
      else [⟨.hesFrame, 6, 2⟩] ++ if f.HcsRight rx then deliverAccesses f g else []) ↔
      (i + 7 ≤ size → ¬ f.HcsRight rx) := by
    by_cases early : size < i + 3 + 4
    · rw [if_pos early]
      exact iff_of_true (within_nil _) fun late => absurd late (by omega)
    · by_cases hcs : f.HcsRight rx
      · simp [early, hcs, not_within_deliver]
      · simp [early, hcs, ReplyArray.size]
  rw [addressedAccesses, within_append, within_append, within_append, check, rest]
  tauto

/-! ## One call -/

section Call
variable (hdlc gw : Buffer) (g : Globals) (ctrl : CtrlByteStr)

/-- The call keeps to its arrays and changes nothing of `GW_STRUCT` but `TX` and `TX_Count`. -/
structure KeepsToTx : Prop where
  accesses : Within ReplyArray.size (convertorAccesses hdlc.rxByte g)
  rx : (meter2GwFrameConvertor hdlc gw g ctrl).gw.rx = gw.rx
  rxCount : (meter2GwFrameConvertor hdlc gw g ctrl).gw.rxCount = gw.rxCount
  timeoutMs : (meter2GwFrameConvertor hdlc gw g ctrl).gw.timeoutMs = gw.timeoutMs

theorem within_located (right : hdlc.FormatRight) (short : recDataSize hdlc.rxByte ≤ 2048) :
    Within ReplyArray.size (locatedAccesses hdlc.rxByte (g.classify (hdlc.rxByte 1))) ↔
      (∀ i ∈ meterAddressEnd hdlc.rxByte, i + 3 < 2048) ∧ ∀ f, ¬ hdlc.Accepted f := by
  have accepted_iff : ∀ f, hdlc.Accepted f ↔
      locateMeterFrame hdlc.rxByte = .ok f ∧ f.HcsRight hdlc.rxByte :=
    fun f => and_congr_left' ⟨And.right, fun located => ⟨right, located⟩⟩
  simp only [accepted_iff]
  generalize g.classify (hdlc.rxByte 1) = g
  generalize hdlc.rxByte = rx at short ⊢
  unfold locatedAccesses meterAddressEnd locateMeterFrame
  by_cases flag : rx (recDataSize rx - 1) = 0x7E
  · simp only [flag, ne_eq, not_true_eq_false, if_false]
    have client := within_clientAddress rx short
    have scan := inside_scan rx ((endOfAddress rx 3 (recDataSize rx)).getD 0 + 1) short
    generalize endOfAddress rx 3 (recDataSize rx) = dstEnd at client scan ⊢
    generalize dstEnd.getD 0 = lastByte at scan ⊢
    cases found : endOfAddress rx (lastByte + 1) (recDataSize rx) with
    | none =>
        rw [found] at scan
        simp [client, scan]
    | some i =>
        rw [found] at scan
        obtain ⟨before, inside⟩ := endOfAddress_bounds found
        cases address : meterAddress rx lastByte i with
        | none => simp [client, scan, address]
        | some pair =>
            obtain ⟨logAdd, phyAdd⟩ := pair
            simp only [within_append, within_cons, client, scan, within_nil, and_true, true_and,
              within_addressed short (by omega : lastByte < i) inside, Option.filter_some,
              address, Option.isSome_some, if_true, Option.mem_def, Option.some.injEq,
              forall_eq']
            apply and_congr_right'
            by_cases early : recDataSize rx < i + 3 + 4
            · rw [if_pos early]
              refine iff_of_true (fun late => absurd late (by omega)) ?_
              rintro f ⟨located, -⟩
              cases located
            · have late : i + 7 ≤ recDataSize rx := by omega
              rw [if_neg early]
              constructor
              · rintro wrong f ⟨located, right⟩
                cases located
                exact wrong late right
              · exact fun none _ right => none _ ⟨rfl, right⟩
  · simp [flag]

theorem within_convertor :
    Within ReplyArray.size (convertorAccesses hdlc.rxByte g) ↔ hdlc.RefusedInside := by
  unfold convertorAccesses Buffer.RefusedInside
  by_cases right : hdlc.FormatRight
  · rw [if_neg (not_not_intro right.1), if_neg (not_not_intro right.2), within_append,
      within_append, within_append, within_append]
    by_cases short : recDataSize hdlc.rxByte ≤ 2048
    · have flag : recDataSize hdlc.rxByte - 1 < 2048 := by omega
      have fixed : Within ReplyArray.size [⟨.hesFrame, 0, 2⟩, ⟨.hesFrame, 8, 3⟩, ⟨.rx, 1, 2⟩,
          element .rx (recDataSize hdlc.rxByte - 1)] := by
        simp [ReplyArray.size, flag]
      have started : Within ReplyArray.size [⟨.hesFrame, 0, 5000⟩, element .rx 0] := by
        simp [ReplyArray.size]
      have format : Within ReplyArray.size [element .rx 1] := by simp [ReplyArray.size]
      simp only [started, format, within_classify, fixed, right, short, true_and, true_implies]
      exact within_located hdlc g right short
    · have outside : ¬ Within ReplyArray.size [⟨.hesFrame, 0, 2⟩, ⟨.hesFrame, 8, 3⟩,
          ⟨.rx, 1, 2⟩, element .rx (recDataSize hdlc.rxByte - 1)] := by
        simp [ReplyArray.size]
        omega
      simp only [outside, short, right, false_and, and_false, true_implies]
  · simp only [right, false_implies, iff_true]
    by_cases flag : hdlc.rxByte 0 = 0x7E
    · have format : hdlc.rxByte 1 &&& 0xF0 ≠ 0xA0 := fun format => right ⟨flag, format⟩
      rw [if_neg (not_not_intro flag), if_pos format]
      simp [ReplyArray.size]
    · rw [if_pos flag]
      simp [ReplyArray.size]

theorem keepsToTx_iff : KeepsToTx hdlc gw g ctrl ↔ hdlc.RefusedInside := by
  constructor
  · intro keeps
    exact (within_convertor hdlc g).mp keeps.accesses
  · intro refused
    have same : (meter2GwFrameConvertor hdlc gw g ctrl).gw = gw := by
      rcases convertor_cases hdlc gw g ctrl with
        ⟨-, code, -, outcome⟩ | ⟨-, -, code, -, outcome⟩ | ⟨f, accepted, -⟩
      · rw [outcome]
      · rw [outcome]
      · exact absurd accepted ((refused accepted.1.1).2.2 f)
    refine ⟨(within_convertor hdlc g).mpr refused, ?_, ?_, ?_⟩ <;> rw [same]

end Call
end Bounds

/-! ## A sequence of calls -/

/-- What a call is given; `GW_Run` sets `GW_State` between the calls. -/
structure ReplyCall where
  hdlc : Buffer
  gw : Buffer
  ctrl : CtrlByteStr
  gwState : GwState

namespace ReplyCall

def KeepsToTx (g : Globals) (c : ReplyCall) : Prop :=
  DlmsGateway.KeepsToTx c.hdlc c.gw { g with gwState := c.gwState } c.ctrl

def step (g : Globals) (c : ReplyCall) : Globals :=
  (meter2GwFrameConvertor c.hdlc c.gw { g with gwState := c.gwState } c.ctrl).globals

/-- The calls keep to their arrays exactly when no frame is accepted: one that is has 5000 bytes
copied to `TX`. -/
theorem calls_keep_to_tx_iff (calls : List ReplyCall) :
    ∀ g : Globals, Runs.Along step KeepsToTx g calls ↔ ∀ c ∈ calls, c.hdlc.RefusedInside := by
  induction calls with
  | nil => intro g; simp [Runs.Along]
  | cons c calls ih =>
      intro g
      rw [List.forall_mem_cons]
      exact and_congr (keepsToTx_iff _ _ _ _) (ih _)

def answered : ReplyCall where
  hdlc := Buffer.empty.receive
    (meterLink.iFrame false 0x52 [0xE6, 0xE7, 0x00, 0xC4, 0x01, 0x81, 0x00, 0x07])
  gw := Buffer.empty
  ctrl := ⟨0, 0, 0⟩
  gwState := .responseForMdm

theorem answered_accepted : ∃ f, answered.hdlc.Accepted f := by
  have some_ : answered.hdlc.acceptedFrame.isSome = true := by decide +kernel
  obtain ⟨f, found⟩ := Option.isSome_iff_exists.mp some_
  exact ⟨f, Buffer.acceptedFrame_eq_some.mp found⟩

theorem answer_leaves_tx :
    ¬ ∀ (calls : List ReplyCall) (g : Globals), (∀ c ∈ calls, c.hdlc.rxCount.toNat ≤ 2048) →
      Runs.Along step KeepsToTx g calls := by
  intro kept
  have short : ∀ c ∈ [answered], c.hdlc.rxCount.toNat ≤ 2048 := by
    intro c member
    rw [List.mem_singleton.mp member]
    decide +kernel
  have first := (kept [answered] ⟨.responseForMdm, .singleFrame, Bytes.zero, 0⟩ short).1
  obtain ⟨f, accepted⟩ := answered_accepted
  exact ((keepsToTx_iff _ _ _ _).mp first accepted.1.1).2.2 f accepted

end ReplyCall
end DlmsGateway
