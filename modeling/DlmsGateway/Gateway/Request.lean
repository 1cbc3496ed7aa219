import DlmsGateway.Gateway.Crc

/-!
# From a gateway request to an HDLC frame

The four generators of the request path.  `gw` is the taken request
(`GW_STRUCT`), read at the offsets of the gateway prefix: version 0-1, client
address 2-3, logical address 4-5, length 6-7, header 8, network 9, length of the
physical address 10, physical address from 11.  `hdlc` is `HDLC_STRUCT`, whose
`TX` and `TX_Count` receive the frame.

The copies of the request into the local array `APDU`, which nothing reads, are
left out.  Sizes and indices, `uint8_t` or `uint16_t` in the source, are natural
numbers: with `RX_Count ≤ 2048` none exceeds 2051.
-/
set_option autoImplicit false
namespace DlmsGateway

open ByteStore

structure CtrlByteStr where
  rrr : UInt8
  sss : UInt8
  ctrlByte : UInt8

/-- How `RRR` and `SSS` are counted. -/
def nextNumber (n : UInt8) : UInt8 := if 7 ≤ n then 0 else n + 1

theorem toNat_nextNumber {n : UInt8} {k : Nat} (counted : n.toNat = k % 8) :
    (nextNumber n).toNat = (k + 1) % 8 := by
  have seven : 7 ≤ n ↔ 7 ≤ n.toNat := by
    rw [UInt8.le_iff_toNat_le]
    rfl
  unfold nextNumber
  split
  · rename_i top
    rw [seven] at top
    show 0 = (k + 1) % 8
    omega
  · rename_i below
    rw [seven] at below
    rw [UInt8.toNat_add, show UInt8.toNat 1 = 1 from rfl]
    omega

inductive FrameType where
  | information
  | receiveReady

def controlByte (rrr sss : UInt8) : FrameType → UInt8
  | .information => ((rrr <<< 5 &&& (0xE0 : UInt8)) ||| (sss <<< 1 &&& (0x0E : UInt8))) ||| 0x10
  | .receiveReady => (rrr <<< 5 &&& (0xE0 : UInt8)) ||| 0x11

namespace Buffer

/-- `RX[ADD_LEN_BYTE]`. -/
def addLen (gw : Buffer) : UInt8 := gw.rxByte 10

/-- The 16-bit value at `RX[HES_DST_ADD_START_BYTE]`. -/
def logicalAddress (gw : Buffer) : UInt16 := joinBytes (gw.rxByte 4) (gw.rxByte 5)

/-- `dst_size` and `phy_add`; only the address lengths 1 and 2 are accepted. -/
def dstSizeAndPhyAdd (gw : Buffer) : Option (Nat × UInt16) :=
  if gw.addLen = 1 then some (2, (gw.rxByte 11).toUInt16)
  else if gw.addLen = 2 then some (4, joinBytes (gw.rxByte 11) (gw.rxByte 12))
  else none

/-- The HDLC source address made from `RX[HES_SRC_ADD_START_BYTE + 1]`. -/
def sourceAddress (gw : Buffer) : UInt8 := (gw.rxByte 3 <<< 1 &&& (0xFE : UInt8)) ||| 0x1

end Buffer

/-- Seven address bits a byte, the low bit of both bytes clear. -/
def spreadAddress (a : UInt16) : UInt16 :=
  (a <<< 2 &&& (0xFE00 : UInt16)) ||| (a <<< 1 &&& (0x00FE : UInt16))

/-- Store the destination address at `DST_ADD_START_BYTE`; `last_byte` is then `dstSize + 2`. -/
def putDstAddress {n : Nat} (mac : Bytes n) (dstSize : Nat) (dstAddLog dstAddPhy : UInt16) :
    Bytes n :=
  if dstSize = 4 then
    (((mac.set 3 (hiByte dstAddLog)).set 4 (loByte dstAddLog)).set 5 (hiByte dstAddPhy)).set 6
      (loByte dstAddPhy)
  else
    (mac.set 3 (loByte dstAddLog)).set 4 (loByte dstAddPhy)

/-- Format type 3 without segmentation; the length excludes the two flags. -/
def frameFormat (macFrameSize : Nat) : UInt16 :=
  (UInt16.ofNat (macFrameSize - 2) &&& 0x07FF) ||| 0xA000

/-- What `GW2HDLC_SNRM_Generator`, `GW2HDLC_Poll_For_Remained_Data` and
`GW2HDLC_DISC_Generator` have in common: a frame without information field. -/
def controlFrame (gw hdlc : Buffer) (logicalAddress : UInt16) (control : UInt8) : Option Buffer :=
  match gw.dstSizeAndPhyAdd with
  | none => none
  | some (dstSize, phyAdd) =>
      let macFrameSize := 8 + dstSize
      let lastByte := dstSize + 2
      let mac : Bytes (8 + dstSize) := (Bytes.zero.set 0 0x7E).set (macFrameSize - 1) 0x7E
      let mac := (mac.set 1 (hiByte (frameFormat macFrameSize))).set 2
        (loByte (frameFormat macFrameSize))
      let mac := putDstAddress mac dstSize (spreadAddress logicalAddress)
        (spreadAddress phyAdd ||| 0x1)
      let mac := (mac.set (lastByte + 1) gw.sourceAddress).set (lastByte + 2) control
      let hcs := countCRC mac.get 1 (lastByte + 2)
      let mac := (mac.set (lastByte + 3) (hiByte hcs)).set (lastByte + 4) (loByte hcs)
      some { hdlc.copyTx mac.get (lastByte + 6) with txCount := UInt32.ofNat (lastByte + 6) }

/-- The failure value `-1` comes back as an `uint8_t`. -/
def gw2HdlcSnrmGenerator (gw hdlc : Buffer) : UInt8 × Buffer :=
  match controlFrame gw hdlc gw.logicalAddress 0x93 with
  | some framed => (1, framed)
  | none => (255, hdlc)

def gw2HdlcPollForRemainedData (gw hdlc : Buffer) (control : UInt8) : UInt8 × Buffer :=
  match controlFrame gw hdlc gw.logicalAddress control with
  | some framed => (1, framed)
  | none => (255, hdlc)

/-- Here `Logical_Address` is a `uint8_t`: the high byte of the address is lost. -/
def gw2HdlcDiscGenerator (gw hdlc : Buffer) : Int × Buffer :=
  match controlFrame gw hdlc (loByte gw.logicalAddress).toUInt16 0x53 with
  | some framed => (1, framed)
  | none => (-1, hdlc)

/-- The I-frame that carries the request's APDU, from `RX[11 + Add_Len]` up to `RX_Count`. -/
def gw2HdlcFrameConvertor (gw hdlc : Buffer) (ctrl : CtrlByteStr) : Int × Buffer × CtrlByteStr :=
  match gw.dstSizeAndPhyAdd with
  | none => (-1, hdlc, ctrl)
  | some (dstSize, phyAdd) =>
      if 16383 < gw.logicalAddress then (-2, hdlc, ctrl)
      else
        let lastByte := dstSize + 2
        let mac : Bytes 2048 := Bytes.zero.set 0 0x7E
        let mac := putDstAddress mac dstSize (spreadAddress gw.logicalAddress)
          (spreadAddress phyAdd ||| 0x1)
        let mac := mac.set (lastByte + 1) gw.sourceAddress
        -- the test 0 ≤ Ctrl_Byte ≤ 255 (return -3) always succeeds on a uint8_t
        let mac := mac.set (lastByte + 2) ctrl.ctrlByte
        let hcsCount := lastByte + 2
        let mac := ((mac.set (lastByte + 5) 0xE6).set (lastByte + 6) 0xE6).set (lastByte + 7) 0
        let apduStartByte := lastByte + 8
        let apduStartAdd := 11 + gw.addLen.toNat
        let apduSize := gw.rxCount.toNat - apduStartAdd
        let mac := mac.storeEach (fun k => apduStartByte + k)
          (fun k => gw.rxByte (apduStartAdd + k)) apduSize
        let fcsCount := apduStartByte + apduSize - 1
        let macFrameSize := 10 + dstSize + apduSize + 3
        let mac := mac.set (macFrameSize - 1) 0x7E
        let mac := (mac.set 1 (hiByte (frameFormat macFrameSize))).set 2
          (loByte (frameFormat macFrameSize))
        let hcs := countCRC mac.get 1 hcsCount
        let mac := (mac.set (hcsCount + 1) (hiByte hcs)).set (hcsCount + 2) (loByte hcs)
        let fcs := countCRC mac.get 1 fcsCount
        let mac := (mac.set (fcsCount + 1) (hiByte fcs)).set (fcsCount + 2) (loByte fcs)
        (1, { hdlc.copyTx mac.get 2048 with txCount := UInt32.ofNat macFrameSize },
          { ctrl with sss := nextNumber ctrl.sss })

def checkGwFrameType (gw : Buffer) : UInt8 := gw.rxByte (11 + gw.addLen.toNat)

end DlmsGateway
