import DlmsGateway.Lib.Runs
import DlmsGateway.Gateway.Phases

/-!
# The threads around the gateway

`lnWrapper.buffer` is shared by the client socket's receive thread, the server
socket's listen thread, the send thread and `GW_Run`; `rs485.buffer` by the two
RS485 threads and `GW_Run`.  One iteration of a thread is one atomic step.  What
the environment decides is in the event: the result of a `recv`, `read` or
`send`, the clock, and the answer of `svr_handleRequest2` to a request that is
not for the gateway.  An event whose thread is not ready for it changes nothing.

`svr_handleRequest2` builds its reply in the 1024-byte PDU buffer given to
`svr_init` behind a wrapper header of 8 bytes.  `sendPush` writes to
`lnWrapper.buffer` too; each of its messages is a step of its own.
-/
set_option autoImplicit false
namespace DlmsGateway

open ByteStore

structure Chunk (limit : Nat) where
  bytes : List UInt8
  bound : bytes.length ≤ limit

structure System extends GwRun where
  clientConnected : Bool
  serverConnected : Bool
  acceptOpen : Bool
  /-- `Socket_Listen_Thread` is in its inner loop. -/
  serving : Bool
  /-- `tmp` of `Socket_Receive_Thread`, which keeps the bytes of earlier requests. -/
  clientTmp : Bytes 2048
  listenTmp : Bytes 2048

/-- What a `recv` brings, with the new content of `tmp`. -/
inductive Arrival where
  | lost
  | forGateway (tmp : Bytes 2048) (chunk : Chunk 2048)
  | forServer (tmp : Bytes 2048)

/-- A return value of 0 or -1 (`none`) is a lost connection; `tmp[8] == 0xE6` decides the rest,
and a short chunk leaves an earlier byte there. -/
def arrival (tmp : Bytes 2048) : Option (Chunk 2048) → Arrival
  | none => .lost
  | some chunk =>
      let tmp := tmp.copy 0 (ofList chunk.bytes) chunk.bytes.length
      if chunk.bytes = [] then .lost
      else if tmp.get 8 = 0xE6 then .forGateway tmp chunk
      else .forServer tmp

def Arrival.frame : Arrival → Option (List UInt8)
  | .forGateway _ chunk => some chunk.bytes
  | _ => none

/-- A result `none` is the return value -1. -/
inductive Event where
  | clientRecv (ret : Option (Chunk 2048)) (reply : Chunk 1032)
  | clientConnect
  | clientInactive
  | accept
  | listenRecv (ret : Option (Chunk 2048)) (failed : Bool) (reply : Chunk 1032)
  | push (message : List UInt8)
  | send (serverOk clientOk : Bool)
  | serialRead (ret : Option (Chunk 1024))
  | serialWrite
  | gwRun (now : Timeval)

namespace System

def putReply (s : System) (reply : Chunk 1032) : System :=
  if reply.bytes = [] then s else { s with gw := s.gw.putTx reply.bytes }

/-- `Socket_Receive_Thread`: `RX_Count` is added to. -/
def clientRecv (s : System) (ret : Option (Chunk 2048)) (reply : Chunk 1032) : System :=
  if s.clientConnected then
    match arrival s.clientTmp ret with
    | .lost => { s with clientConnected := false }
    | .forGateway tmp chunk => { s with clientTmp := tmp, gw := s.gw.receiveMore chunk.bytes }
    | .forServer tmp => { s with clientTmp := tmp }.putReply reply
  else s

def closeAccepted (s : System) : System :=
  { s with acceptOpen := false, serverConnected := false, serving := false }

/-- `Socket_Listen_Thread` inside its inner loop: `RX_Count` is assigned.  A request that fails
closes the socket, and the next `recv` ends the loop. -/
def listenRecv (s : System) (ret : Option (Chunk 2048)) (failed : Bool) (reply : Chunk 1032) :
    System :=
  if s.serving then
    match arrival s.listenTmp (if s.acceptOpen then ret else none) with
    | .lost => s.closeAccepted
    | .forGateway tmp chunk => { s with listenTmp := tmp, gw := s.gw.receive chunk.bytes }
    | .forServer tmp =>
        { s with listenTmp := tmp, acceptOpen := s.acceptOpen && !failed }.putReply reply
  else s

def accept (s : System) : System :=
  if s.serving then s
  else { s with acceptOpen := true, serverConnected := true, serving := true }

/-- `Socket_get_open`, called by `Socket_Manage_Thread` while the client is not connected. -/
def clientConnect (s : System) : System := { s with clientConnected := true }

/-- The first half of `Socket_Send_Thread`. -/
def sendToServer (s : System) (serverOk : Bool) : System :=
  if s.serverConnected && 0 < s.gw.txCount then
    if serverOk && s.acceptOpen then { s with gw := { s.gw with txCount := 0 } }
    else { s with serverConnected := false }
  else s

/-- The second half of `Socket_Send_Thread`. -/
def sendToClient (s : System) (clientOk : Bool) : System :=
  if s.clientConnected && 0 < s.gw.txCount then
    if clientOk then { s with gw := { s.gw with txCount := 0 } }
    else { s with clientConnected := false }
  else s

/-- `RS485_Receive_Thread`; the result -1 becomes the count `0xFFFFFFFF`. -/
def serialRead (s : System) : Option (Chunk 1024) → System
  | none => { s with hdlc := { s.hdlc with rxCount := 0xFFFFFFFF } }
  | some chunk => { s with hdlc := s.hdlc.receive chunk.bytes }

def step (s : System) : Event → System
  | .clientRecv ret reply => s.clientRecv ret reply
  | .clientConnect => s.clientConnect
  | .clientInactive => { s with clientConnected := false }
  | .accept => s.accept
  | .listenRecv ret failed reply => s.listenRecv ret failed reply
  | .push message => { s with gw := s.gw.putTx message }
  | .send serverOk clientOk => (s.sendToServer serverOk).sendToClient clientOk
  | .serialRead ret => s.serialRead ret
  | .serialWrite => { s with hdlc := { s.hdlc with txCount := 0 } }
  | .gwRun now => { s with toGwRun := s.toGwRun.step now }

def clientArrival (s : System) (ret : Option (Chunk 2048)) : Arrival :=
  if s.clientConnected then arrival s.clientTmp ret else .lost

def listenArrival (s : System) (ret : Option (Chunk 2048)) : Arrival :=
  if s.serving then arrival s.listenTmp (if s.acceptOpen then ret else none) else .lost

def frameReceived (s : System) : Event → Option (List UInt8)
  | .clientRecv ret _ => (s.clientArrival ret).frame
  | .listenRecv ret _ _ => (s.listenArrival ret).frame
  | _ => none

def frameTaken (s : System) : Event → Option (List UInt8)
  | .gwRun now =>
      let gwTmp := (s.toGwRun.step now).gwTmp
      if s.Takes then some (window gwTmp.rxByte 0 gwTmp.rxCount.toNat) else none
  | _ => none

/-- The state in which the threads start.  The arrays, and the locals of `GW_Run` and of the
threads, are arbitrary. -/
structure Initial (s : System) : Prop where
  gwState : s.globals.gwState = .waitForGetFrame
  segmentBit : s.globals.segmentBit = .singleFrame
  bufferData : s.globals.bufferData = Bytes.zero
  lastByteBuffer : s.globals.lastByteBuffer = 0
  gwCounts : s.gw.rxCount = 0 ∧ s.gw.txCount = 0
  hdlcCounts : s.hdlc.rxCount = 0 ∧ s.hdlc.txCount = 0
  clientConnected : s.clientConnected = false
  server : s.serverConnected = false ∧ s.acceptOpen = false ∧ s.serving = false

def Reachable (s : System) : Prop :=
  ∃ start es, Initial start ∧ s = Runs.run step start es

def start : System where
  globals := ⟨.waitForGetFrame, .singleFrame, Bytes.zero, 0⟩
  ctrl := ⟨0, 0, 0⟩
  gwTmp := Buffer.empty
  hdlcTmp := Buffer.empty
  rlrqFlag := false
  timeoutStart := ⟨0, 0⟩
  gw := Buffer.empty
  hdlc := { Buffer.empty with timeoutMs := 5000 }
  clientConnected := false
  serverConnected := false
  acceptOpen := false
  serving := false
  clientTmp := Bytes.zero
  listenTmp := Bytes.zero

theorem start_initial : start.Initial :=
  ⟨rfl, rfl, rfl, rfl, ⟨rfl, rfl⟩, ⟨rfl, rfl⟩, rfl, ⟨rfl, rfl, rfl⟩⟩

/-! ## What one step can do -/

theorem ret_of_forGateway {tmp tmp' : Bytes 2048} {ret : Option (Chunk 2048)} {chunk : Chunk 2048}
    (arrived : arrival tmp ret = .forGateway tmp' chunk) : ret = some chunk ∧ chunk.bytes ≠ [] := by
  cases ret with
  | none => cases arrived
  | some received =>
      simp only [arrival] at arrived
      split_ifs at arrived with empty marked
      cases arrived
      exact ⟨rfl, empty⟩

def IsGwRun : Event → Prop
  | .gwRun _ => True
  | _ => False

theorem exists_of_isGwRun {e : Event} (own : IsGwRun e) : ∃ now, e = .gwRun now := by
  cases e with
  | gwRun now => exact ⟨now, rfl⟩
  | _ => exact absurd own id

@[simp] theorem toGateway_putReply (s : System) (reply : Chunk 1032) :
    (s.putReply reply).toGateway = s.toGateway := by
  unfold putReply
  split <;> rfl

theorem toGateway_clientRecv (s : System) (ret : Option (Chunk 2048)) (reply : Chunk 1032) :
    (s.clientRecv ret reply).toGateway = s.toGateway := by
  unfold clientRecv
  split
  · split
    · rfl
    · rfl
    · exact toGateway_putReply _ reply
  · rfl

theorem toGateway_listenRecv (s : System) (ret : Option (Chunk 2048)) (failed : Bool)
    (reply : Chunk 1032) : (s.listenRecv ret failed reply).toGateway = s.toGateway := by
  unfold listenRecv
  split
  · split
    · rfl
    · rfl
    · exact toGateway_putReply _ reply
  · rfl

theorem toGateway_send (s : System) (serverOk clientOk : Bool) :
    ((s.sendToServer serverOk).sendToClient clientOk).toGateway = s.toGateway := by
  unfold sendToServer sendToClient
  dsimp only
  split_ifs <;> rfl

theorem toGateway_step (s : System) (e : Event) (other : ¬ IsGwRun e) :
    (s.step e).toGateway = s.toGateway := by
  cases e with
  | clientRecv ret reply => exact toGateway_clientRecv s ret reply
  | clientConnect => rfl
  | clientInactive => rfl
  | accept =>
      show s.accept.toGateway = s.toGateway
      unfold accept
      split <;> rfl
  | listenRecv ret failed reply => exact toGateway_listenRecv s ret failed reply
  | push message => rfl
  | send serverOk clientOk => exact toGateway_send s serverOk clientOk
  | serialRead ret => cases ret <;> rfl
  | serialWrite => rfl
  | gwRun now => exact absurd trivial other

@[simp] theorem hdlc_putReply (s : System) (reply : Chunk 1032) :
    (s.putReply reply).hdlc = s.hdlc := by
  unfold putReply
  split <;> rfl

theorem hdlc_step (s : System) (e : Event) (other : ¬ IsGwRun e) :
    (s.step e).hdlc =
      match e with
      | .serialRead none => { s.hdlc with rxCount := 0xFFFFFFFF }
      | .serialRead (some chunk) => s.hdlc.receive chunk.bytes
      | .serialWrite => { s.hdlc with txCount := 0 }
      | _ => s.hdlc := by
  cases e with
  | clientRecv ret reply =>
      simp only [step, clientRecv]
      split
      · split <;> first | rfl | rw [hdlc_putReply]
      · rfl
  | listenRecv ret failed reply =>
      simp only [step, listenRecv]
      split
      · split <;> first | rfl | rw [hdlc_putReply]
      · rfl
  | accept =>
      simp only [step, accept]
      split <;> rfl
  | send serverOk clientOk =>
      simp only [step, sendToServer, sendToClient]
      split_ifs <;> rfl
  | serialRead ret => cases ret <;> rfl
  | gwRun now => exact absurd trivial other
  | clientConnect | clientInactive | push | serialWrite => rfl

theorem hdlc_rxCount_step (s : System) (e : Event) (other : ¬ IsGwRun e)
    (silent : ∀ ret, e ≠ .serialRead ret) : (s.step e).hdlc.rxCount = s.hdlc.rxCount := by
  rw [hdlc_step s e other]
  cases e with
  | serialRead ret => exact absurd rfl (silent ret)
  | _ => rfl

end System
end DlmsGateway
