import DlmsGateway.Gateway.Request

/-!
# From an HDLC frame of the meter to a gateway frame

`Meter2GW_Frame_Convertor` in its three parts: the classification of the frame
by its segmentation bit, the location of its fields with the error exits on the
way, and the delivery of the information bytes.  The globals it works on are
those of the source file; what a store past
`Buffer_Data_Meter2GW_Frame_Convertor` or past `HES_Frame` does is left out.
`Gate_HES_size`, `Ctrl_Byte_Last` and the frame checksum it computes have no
readers (the comparison of the latter is `if(1)`) and are left out too.
-/
set_option autoImplicit false
namespace DlmsGateway

open ByteStore

inductive GwState where
  | waitForGetFrame
  | snrmRequest
  | snrmResponse
  | informationFrame
  | response
  | segment
  | responseForMdm
  | discRequest
  | discResponse
deriving DecidableEq, Repr

inductive SegmentBit where
  | singleFrame
  | middleFrame
  | lastFrame
deriving DecidableEq, Repr

structure Globals where
  gwState : GwState
  segmentBit : SegmentBit
  bufferData : Bytes 8152
  lastByteBuffer : UInt16

namespace Globals

def clearBuffer (g : Globals) : Globals := { g with bufferData := Bytes.zero, lastByteBuffer := 0 }

/-- The effect of the format byte on the globals, before anything else is checked. -/
def classify (g : Globals) (format : UInt8) : Globals :=
  if format &&& 0x08 = 0x08 then { g with segmentBit := .middleFrame, gwState := .segment }
  else if g.segmentBit = .middleFrame then
    { g with segmentBit := .lastFrame, gwState := .waitForGetFrame }
  else { g.clearBuffer with segmentBit := .singleFrame, gwState := .waitForGetFrame }

end Globals

/-! ## Locating the fields -/

/-- The first index of `[start, size)` whose byte has the low bit set. -/
def endOfAddress (rx : Nat → UInt8) (start size : Nat) : Option Nat :=
  (List.range' start (size - start)).find? fun i => rx i &&& 0x1 == 0x1

/-- `Log_Add` and `Phy_Add` of a four-byte address, seven bits a byte. -/
def joinAddress (hi lo : UInt8) : UInt16 :=
  ((lo >>> 1) ||| (hi <<< 6)).toUInt16 ||| ((hi &&& (0xFC : UInt8)).toUInt16 <<< 6)

/-- The meter's address, which ends at index `i`, with its length given by `lastByte`. -/
def meterAddress (rx : Nat → UInt8) (lastByte i : Nat) : Option (UInt16 × UInt16) :=
  if i - lastByte = 4 then
    some (joinAddress (rx (i - 3)) (rx (i - 2)), joinAddress (rx (i - 1)) (rx i))
  else if i - lastByte = 2 then some ((rx (i - 1) >>> 1).toUInt16, (rx i >>> 1).toUInt16)
  else none

/-- Where the fields of a frame are, and the addresses in it. -/
structure MeterFrame where
  /-- `HDLC_rec_data_size` -/
  size : Nat
  dstAdd : UInt8
  logAdd : UInt16
  phyAdd : UInt16
  addEnd : Nat
deriving DecidableEq

namespace MeterFrame

/-- `HES_Frame[ADD_LEN_BYTE]` -/
def addLen (f : MeterFrame) : Nat := if f.phyAdd < 256 then 1 else 2

/-- Where the copied bytes start; the three LLC bytes before it are skipped. -/
def dataStart (f : MeterFrame) : Nat := f.addEnd + 7

/-- How often the copy loop runs. -/
def dataLen (f : MeterFrame) : Nat := f.size - 3 - f.dataStart

def apduLenReal (f : MeterFrame) : Nat := f.size - (f.addEnd + 3) - 4

/-- `HES_Frame_Size` before the information field is counted. -/
def prefixSize (f : MeterFrame) : Nat := 11 + f.addLen

/-- `HCS_Frame == HCS_Cal` -/
def HcsRight (f : MeterFrame) (rx : Nat → UInt8) : Prop :=
  joinBytes (rx (f.addEnd + 2)) (rx (f.addEnd + 3)) = countCRC rx 1 (f.addEnd + 1)

instance (f : MeterFrame) (rx : Nat → UInt8) : Decidable (f.HcsRight rx) :=
  inferInstanceAs (Decidable (_ = _))

/-- `HES_Frame` with the gateway prefix.  A two-byte address leaves `Log_Add` below 128, so
that its high byte is the zero of the `memset`. -/
def hesPrefix (f : MeterFrame) (apduLen : UInt16) : Bytes 5000 :=
  let hes : Bytes 5000 := ((Bytes.zero.set 1 1).set 8 0xE7).set 5 f.dstAdd
  let hes := (hes.set 2 (hiByte f.logAdd)).set 3 (loByte f.logAdd)
  let hes := (hes.set 6 (hiByte apduLen)).set 7 (loByte apduLen)
  if f.phyAdd < 256 then (hes.set 10 1).set 11 (loByte f.phyAdd)
  else ((hes.set 10 2).set 11 (hiByte f.phyAdd)).set 12 (loByte f.phyAdd)

end MeterFrame

/-- `HDLC_rec_data_size` of the frame in `rx`. -/
def recDataSize (rx : Nat → UInt8) : Nat := ((joinBytes (rx 1) (rx 2)) &&& 0x07FF).toNat + 2

/-- The checks between the format field and the header checksum; an error is the value
returned.  Without an end of the client address, `last_byte` stays 0. -/
def locateMeterFrame (rx : Nat → UInt8) : Except Int MeterFrame :=
  let size := recDataSize rx
  if rx (size - 1) ≠ 0x7E then .error (-7)
  else
    let dstEnd := endOfAddress rx 3 size
    let dstAdd := match dstEnd with
      | some i => rx i >>> 1
      | none => 0
    let lastByte := dstEnd.getD 0
    match endOfAddress rx (lastByte + 1) size with
    | none => .error 0
    | some i =>
        match meterAddress rx lastByte i with
        | none => .error (-3)
        | some (logAdd, phyAdd) =>
            if size < i + 3 + 4 then .error (-4)
            else .ok { size, dstAdd, logAdd, phyAdd, addEnd := i }

/-! ## Delivery -/

def Globals.collect (g : Globals) (rx : Nat → UInt8) (f : MeterFrame) : Globals :=
  { g with
    bufferData := g.bufferData.storeEach (fun k => (g.lastByteBuffer + UInt16.ofNat k).toNat)
      (fun k => rx (f.dataStart + k)) f.dataLen
    lastByteBuffer := g.lastByteBuffer + UInt16.ofNat f.dataLen }

/-- The frame as it is first copied to `TX`, the whole of `HES_Frame`. -/
def MeterFrame.hesFrame (f : MeterFrame) (rx : Nat → UInt8) : Bytes 5000 :=
  (f.hesPrefix (UInt16.ofNat (f.apduLenReal + f.addLen))).storeEach
    (fun k => f.prefixSize + k) (fun k => rx (f.dataStart + k)) f.dataLen

/-- The frame built for a last segment out of everything collected. -/
def MeterFrame.hesFrameForLast (f : MeterFrame) (rx : Nat → UInt8) (g : Globals) : Bytes 5000 :=
  let hes := (f.hesFrame rx).storeEach (fun k => f.prefixSize + k) g.bufferData.get
    g.lastByteBuffer.toNat
  let apduLen := UInt16.ofNat (f.prefixSize + g.lastByteBuffer.toNat - 8)
  (hes.set 6 (hiByte apduLen)).set 7 (loByte apduLen)

def CtrlByteStr.advanceRrr (ctrl : CtrlByteStr) : CtrlByteStr :=
  { ctrl with rrr := nextNumber ctrl.rrr }

structure Conversion where
  ret : Int
  gw : Buffer
  globals : Globals
  ctrl : CtrlByteStr

/-- What follows the header check: the bytes are collected, the frame is copied to `TX`. -/
def deliver (rx : Nat → UInt8) (f : MeterFrame) (gw : Buffer) (g : Globals) (ctrl : CtrlByteStr) :
    Conversion :=
  let g := g.collect rx f
  let gw := gw.copyTx (f.hesFrame rx).get 5000
  match g.segmentBit with
  | .lastFrame =>
      let size := f.prefixSize + g.lastByteBuffer.toNat
      { ret := size
        gw := { gw.copyTx (f.hesFrameForLast rx g).get (size - 3) with
          txCount := UInt32.ofNat (size - 3) }
        globals := g.clearBuffer
        ctrl := ctrl.advanceRrr }
  | .singleFrame =>
      -- the three bytes less are the LLC bytes that the copy loop skipped
      let size := f.prefixSize + f.apduLenReal
      { ret := size
        gw := { gw with txCount := UInt32.ofNat (size - 3) }
        globals := g.clearBuffer
        ctrl := ctrl.advanceRrr }
  | .middleFrame => { ret := 0, gw, globals := g, ctrl := ctrl.advanceRrr }

def meter2GwFrameConvertor (hdlc gw : Buffer) (g : Globals) (ctrl : CtrlByteStr) : Conversion :=
  if hdlc.rxByte 0 ≠ 0x7E then { ret := -9, gw, globals := g, ctrl }
  else if hdlc.rxByte 1 &&& 0xF0 ≠ 0xA0 then { ret := -8, gw, globals := g, ctrl }
  else
    let g := g.classify (hdlc.rxByte 1)
    match locateMeterFrame hdlc.rxByte with
    | .error code => { ret := code, gw, globals := g, ctrl }
    | .ok f =>
        if f.HcsRight hdlc.rxByte then deliver hdlc.rxByte f gw g ctrl
        else { ret := -6, gw, globals := g, ctrl }

end DlmsGateway
