import DlmsGateway.Gateway.Reply

/-!
# The loop of the gateway

One iteration of the `while(1)` in `GW_Run`, with one definition for each case
of its `switch`.  The clock is read at most once in an iteration, so an
iteration is a function of the state and of the time `now`.

`GW_tmp` and `HDLC_tmp` are locals of `GW_Run` and not initialised, nor are the
counters; whatever they hold at the start is part of the state.  A count above
2048 makes the two `memcpy` into them run past `RX`; what that overwrites is
left out.
-/
set_option autoImplicit false
namespace DlmsGateway

open ByteStore

/-- The globals of the gateway and the locals of `GW_Run`. -/
structure Gateway where
  globals : Globals
  ctrl : CtrlByteStr
  gwTmp : Buffer
  hdlcTmp : Buffer
  rlrqFlag : Bool
  timeoutStart : Timeval

/-- What an iteration works on: the gateway, and the two shared buffers `GW_STRUCT` and
`HDLC_STRUCT`. -/
structure GwRun extends Gateway where
  gw : Buffer
  hdlc : Buffer

/-- `memcpy(b->RX, src->RX, src->RX_Count); b->RX_Count = src->RX_Count` -/
def Buffer.takeRx (b src : Buffer) : Buffer :=
  { b with rx := b.rx.copy 0 src.rxByte src.rxCount.toNat, rxCount := src.rxCount }

namespace GwRun

def setState (s : GwRun) (state : GwState) : GwRun :=
  { s with globals := { s.globals with gwState := state } }

/-- `diff_time_ms(&timeout_start) > HDLC_tmp.Timeout_ms`; the comparison is made unsigned. -/
def timedOut (s : GwRun) (now : Timeval) : Bool :=
  s.hdlcTmp.timeoutMs.toNat < (diffTimeMs s.timeoutStart now % 4294967296).toNat

def clearHdlcRxCount (s : GwRun) : GwRun := { s with hdlc := { s.hdlc with rxCount := 0 } }

/-- The state a request leads to, by the first byte of its APDU (`AARQ_TAG`, any other). -/
def entryState (frameType : UInt8) : GwState :=
  if frameType = 0x60 then .snrmRequest else .informationFrame

def waitForGetFrame (s : GwRun) : GwRun :=
  if 0 < s.gw.rxCount then
    let gwTmp := { s.gwTmp with rx := Bytes.zero }.takeRx s.gw
    let frameType := checkGwFrameType gwTmp
    { s with
      gwTmp
      hdlcTmp := { s.hdlcTmp with timeoutMs := s.hdlc.timeoutMs }
      gw := { s.gw with rxCount := 0 }
      rlrqFlag := frameType == 0x62
      globals := { s.globals with gwState := entryState frameType } }
  else s

def snrmRequest (s : GwRun) (now : Timeval) : GwRun :=
  let s := s.clearHdlcRxCount
  let (ret, hdlc) := gw2HdlcSnrmGenerator s.gwTmp s.hdlc
  if ret = 1 then
    { s with hdlc, ctrl := { rrr := 0, sss := 0, ctrlByte := 0 }, timeoutStart := now }.setState
      .snrmResponse
  else { s with hdlc }.setState .waitForGetFrame

/-- A reply that is there wins over the timeout. -/
def snrmResponse (s : GwRun) (now : Timeval) : GwRun :=
  let s := if s.timedOut now then s.setState .waitForGetFrame else s
  if 0 < s.hdlc.rxCount then s.clearHdlcRxCount.setState .informationFrame else s

def informationFrame (s : GwRun) (now : Timeval) : GwRun :=
  let s := s.clearHdlcRxCount
  let ctrl := { s.ctrl with ctrlByte := controlByte s.ctrl.rrr s.ctrl.sss .information }
  let (ret, hdlc, ctrl) := gw2HdlcFrameConvertor s.gwTmp s.hdlc ctrl
  if 0 < ret then { s with hdlc, ctrl, timeoutStart := now }.setState .response
  else { s with hdlc, ctrl }.setState .waitForGetFrame

def response (s : GwRun) (now : Timeval) : GwRun :=
  let s := if s.timedOut now then s.setState .waitForGetFrame else s
  if 0 < s.hdlc.rxCount then
    { s with hdlcTmp := s.hdlcTmp.takeRx s.hdlc }.clearHdlcRxCount.setState
      (if s.rlrqFlag then .discRequest else .responseForMdm)
  else s

/-- The result of the poll is ignored, and `timeout_start` is not set again. -/
def segment (s : GwRun) : GwRun :=
  let s := s.clearHdlcRxCount
  let ctrl := { s.ctrl with ctrlByte := controlByte s.ctrl.rrr s.ctrl.sss .receiveReady }
  let (_, hdlc) := gw2HdlcPollForRemainedData s.gwTmp s.hdlc ctrl.ctrlByte
  { s with hdlc, ctrl }.setState .response

def responseForMdm (s : GwRun) : GwRun :=
  let c := meter2GwFrameConvertor s.hdlcTmp s.gw s.globals s.ctrl
  let s := { s with gw := c.gw, globals := c.globals, ctrl := c.ctrl }
  if 0 < c.ret then s.setState .waitForGetFrame else s

def discRequest (s : GwRun) (now : Timeval) : GwRun :=
  let s := s.clearHdlcRxCount
  let (ret, hdlc) := gw2HdlcDiscGenerator s.gwTmp s.hdlc
  if ret = 1 then { s with hdlc, timeoutStart := now }.setState .discResponse
  else { s with hdlc }.setState .responseForMdm

def discResponse (s : GwRun) (now : Timeval) : GwRun :=
  let s := if s.timedOut now then s.setState .waitForGetFrame else s
  if 0 < s.hdlc.rxCount then s.setState .responseForMdm else s

def step (s : GwRun) (now : Timeval) : GwRun :=
  match s.globals.gwState with
  | .waitForGetFrame => s.waitForGetFrame
  | .snrmRequest => s.snrmRequest now
  | .snrmResponse => s.snrmResponse now
  | .informationFrame => s.informationFrame now
  | .response => s.response now
  | .segment => s.segment
  | .responseForMdm => s.responseForMdm
  | .discRequest => s.discRequest now
  | .discResponse => s.discResponse now

end GwRun
end DlmsGateway
