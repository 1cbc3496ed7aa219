import DlmsGateway.Connection.Threads
import DlmsGateway.Lib.Text

/-!
# What the threads trace

Seven places in `connection.c` print a message in hexadecimal, three characters
a byte, into an array of 4096 bytes and hand it to `report`, which puts the
time, the interface and the direction before it in an array of the same size.
Nothing compares the length of the message with either; what is written is
recorded.  Characters are unsigned, as the test of `tmp[8]` needs it.
-/
set_option autoImplicit false
namespace DlmsGateway

open ByteStore Arrays

/-! ## `report` -/

inductive ReportInterface where
  | rs485
  | server
  | client
  | optical
  | startApp

def ReportInterface.text : ReportInterface → List UInt8
  | rs485 => asciiBytes "RS485"
  | server => asciiBytes "Server"
  | client => asciiBytes "Client"
  | optical => asciiBytes "Optical"
  | startApp => asciiBytes "Start App"

inductive ReportMessage where
  | rx
  | tx
  | connection
  | start

def ReportMessage.text : ReportMessage → List UInt8
  | rx => asciiBytes "RX"
  | tx => asciiBytes "TX"
  | connection => asciiBytes "Connection"
  | start => asciiBytes "Start"

/-- What `get_time` reads of the result of `localtime`. -/
structure LocalTime where
  tmMon : Fin 12
  tmMday : Fin 32
  tmHour : Fin 24
  tmMin : Fin 60
  tmSec : Fin 61

structure SystemTime extends Timeval where
  inside : 0 ≤ usec ∧ usec < 1000000

structure WallClock where
  gettimeofday : SystemTime
  localtime : Int → LocalTime

/-- The milliseconds are rounded. -/
def getTime (clock : WallClock) : List UInt8 :=
  let tv := clock.gettimeofday
  let rounded := (tv.usec + 500).tdiv 1000
  let time := if rounded = 1000 then tv.sec + 1 else tv.sec
  let millitm := if rounded = 1000 then 0 else rounded
  let ti := clock.localtime time
  numberText 10 2 (ti.tmMon + 1) ++ asciiBytes "-" ++ numberText 10 2 ti.tmMday ++
    asciiBytes "_" ++ numberText 10 2 ti.tmHour ++ asciiBytes ":" ++ numberText 10 2 ti.tmMin ++
    asciiBytes ":" ++ numberText 10 2 ti.tmSec ++ asciiBytes ":" ++ numberText 10 3 millitm.toNat

def reportLine (time : List UInt8) (interface : ReportInterface) (message : ReportMessage)
    (information : List UInt8) : List UInt8 :=
  asciiBytes "[" ++ time ++ asciiBytes "] (" ++ interface.text ++ asciiBytes "): " ++
    message.text ++ asciiBytes " = " ++ information

/-- `time_buf` of `get_time`, the array of a trace, and `log` of `report`. -/
inductive TraceArray where
  | timeBuf
  | trace
  | log

def TraceArray.size : TraceArray → Nat
  | timeBuf => 128
  | trace => 4096
  | log => 4096

def report (clock : WallClock) (interface : ReportInterface) (message : ReportMessage)
    (information : List UInt8) : List (Access TraceArray) :=
  let timeTag := getTime clock
  [⟨.timeBuf, 0, timeTag.length + 1⟩,
    ⟨.log, 0, (reportLine timeTag interface message information).length + 1⟩]

/-! ## The seven places -/

/-- A place is named by its array. -/
inductive TracePlace where
  | tcpClientRx
  | tcpSvrTx
  | tcpClientTx
  | tcpSvrRx
  | svrTxTmp
  | rsRxTmpInfo
  | rsTxTmpInfo

def gxTraceLevelWarning : UInt8 := 2

namespace TracePlace

def interface : TracePlace → ReportInterface
  | tcpClientRx | tcpClientTx => .client
  | tcpSvrTx | tcpSvrRx | svrTxTmp => .server
  | rsRxTmpInfo | rsTxTmpInfo => .rs485

def message : TracePlace → ReportMessage
  | tcpClientRx | tcpSvrRx | rsRxTmpInfo => .rx
  | tcpSvrTx | tcpClientTx | svrTxTmp | rsTxTmpInfo => .tx

/-- How many bytes a message has at most: those of `tmp` or of `TX`, of the reply of
`svr_handleRequest2`, or of one `read`. -/
def capacity : TracePlace → Nat
  | tcpClientRx | tcpSvrRx | tcpSvrTx | tcpClientTx | rsTxTmpInfo => 2048
  | svrTxTmp => 1032
  | rsRxTmpInfo => 1024

/-- The send thread and those of RS485 do not look at `con->trace`. -/
def Traced (level : UInt8) : TracePlace → Prop
  | tcpClientRx | tcpSvrRx | svrTxTmp => gxTraceLevelWarning < level
  | tcpSvrTx | tcpClientTx | rsRxTmpInfo | rsTxTmpInfo => True

instance (level : UInt8) : ∀ place : TracePlace, Decidable (place.Traced level)
  | tcpClientRx | tcpSvrRx | svrTxTmp => inferInstanceAs (Decidable (gxTraceLevelWarning < level))
  | tcpSvrTx | tcpClientTx | rsRxTmpInfo | rsTxTmpInfo => .isTrue trivial

end TracePlace

/-- `"%.2X "` -/
def hexText (b : UInt8) : List UInt8 := numberText 16 2 b.toNat ++ asciiBytes " "

/-- What is written for a message: the text, byte by byte behind what is there, and its report. -/
def TracePlace.writes (place : TracePlace) (level : UInt8) (clock : WallClock)
    (bytes : List UInt8) : List (Access TraceArray) :=
  if place.Traced level then
    let zeros : Bytes 4096 := Bytes.zero
    let text := (bytes.map hexText).foldl appendText zeros
    appendWrites .trace zeros (bytes.map hexText) ++
      report clock place.interface place.message (stringOf text)
  else []

/-! ## The lengths -/

section Lengths
variable (clock : WallClock)

theorem length_hexText (b : UInt8) : (hexText b).length = 3 := by
  have digits : (numberText 16 2 b.toNat).length = 2 :=
    length_numberText (by decide) (show b.toNat < 16 ^ 2 from b.toNat_lt)
  rw [hexText, List.length_append, digits]
  rfl

theorem zero_notMem_hexText (b : UInt8) : 0 ∉ hexText b := by
  rw [hexText, List.mem_append, not_or]
  exact ⟨zero_notMem_numberText (by decide) (by decide), by decide⟩

theorem zero_notMem_hexTexts (bytes : List UInt8) : ∀ text ∈ bytes.map hexText, 0 ∉ text := by
  intro text member
  obtain ⟨b, -, rfl⟩ := List.mem_map.mp member
  exact zero_notMem_hexText b

theorem length_hexTexts (bytes : List UInt8) :
    (bytes.map hexText).flatten.length = 3 * bytes.length := by
  induction bytes with
  | nil => rfl
  | cons b bytes ih =>
      rw [List.map_cons, List.flatten_cons, List.length_append, length_hexText, ih,
        List.length_cons]
      omega

theorem millitm_lt {usec : Int} (inside : 0 ≤ usec ∧ usec < 1000000)
    (other : (usec + 500).tdiv 1000 ≠ 1000) : ((usec + 500).tdiv 1000).toNat < 10 ^ 3 := by
  rw [Int.tdiv_eq_ediv_of_nonneg (by omega)] at other ⊢
  omega

theorem length_getTime : (getTime clock).length = 18 := by
  have two {n : Nat} (small : n < 10 ^ 2) : (numberText 10 2 n).length = 2 :=
    length_numberText (by decide) small
  rw [getTime]
  generalize clock.gettimeofday = tv
  generalize clock.localtime _ = ti
  have millitm : (numberText 10 3 (if (tv.usec + 500).tdiv 1000 = 1000 then 0
      else (tv.usec + 500).tdiv 1000).toNat).length = 3 := by
    apply length_numberText (by decide)
    split
    · decide
    · rename_i other
      exact millitm_lt tv.inside other
  have month : ti.tmMon.val + 1 < 10 ^ 2 := by omega
  have day : ti.tmMday.val < 10 ^ 2 := by omega
  have hour : ti.tmHour.val < 10 ^ 2 := by omega
  have minute : ti.tmMin.val < 10 ^ 2 := by omega
  have second : ti.tmSec.val < 10 ^ 2 := by omega
  simp only [List.length_append, two month, two day, two hour, two minute, two second, millitm]
  rfl

theorem length_reportLine (interface : ReportInterface) (message : ReportMessage)
    (information : List UInt8) :
    (reportLine (getTime clock) interface message information).length =
      28 + interface.text.length + message.text.length + information.length := by
  have opening : (asciiBytes "[").length = 1 := rfl
  have middle : (asciiBytes "] (").length = 3 := rfl
  have closing : (asciiBytes "): ").length = 3 := rfl
  have equals : (asciiBytes " = ").length = 3 := rfl
  simp only [reportLine, List.length_append, length_getTime, opening, middle, closing, equals]
  omega

theorem within_report_iff (interface : ReportInterface) (message : ReportMessage)
    (information : List UInt8) :
    Within TraceArray.size (report clock interface message information) ↔
      interface.text.length + message.text.length + information.length ≤ 4067 := by
  simp only [report, within_cons, within_nil, inside_mk, TraceArray.size, length_getTime,
    length_reportLine, and_true]
  omega

theorem length_texts (place : TracePlace) :
    7 ≤ place.interface.text.length + place.message.text.length ∧
      place.interface.text.length + place.message.text.length ≤ 8 := by
  cases place <;> decide

end Lengths

/-! ## What fits -/

section Fits
variable {place : TracePlace} {level : UInt8} (clock : WallClock) (bytes : List UInt8)

theorem within_text_iff :
    Within TraceArray.size (appendWrites .trace (Bytes.zero : Bytes 4096) (bytes.map hexText)) ↔
      bytes.length ≤ 1365 := by
  have zeros := stringOf_zero (n := 4096)
  have size : TraceArray.trace.size = 4096 := rfl
  rw [within_appendWrites_iff size (zero_notMem_hexTexts bytes) _ (by rw [zeros]; decide), zeros,
    length_hexTexts, List.length_nil]
  omega

theorem length_information (fits : bytes.length ≤ 1365) :
    (stringOf ((bytes.map hexText).foldl appendText (Bytes.zero : Bytes 4096))).length =
      3 * bytes.length := by
  have zeros := stringOf_zero (n := 4096)
  have appended := stringOf_appended (zero_notMem_hexTexts bytes) (Bytes.zero : Bytes 4096) (by
    rw [zeros, length_hexTexts, List.length_nil]
    omega)
  rw [appended, zeros, List.nil_append, length_hexTexts]

theorem within_writes_iff :
    Within TraceArray.size (place.writes level clock bytes) ↔
      (place.Traced level → bytes.length ≤ 1353) := by
  have texts := length_texts place
  by_cases traced : place.Traced level
  · rw [TracePlace.writes, if_pos traced, within_append, within_text_iff, within_report_iff,
      forall_prop_of_true traced]
    constructor
    · intro ⟨fits, line⟩
      rw [length_information bytes fits] at line
      omega
    · intro short
      have fits : bytes.length ≤ 1365 := by omega
      rw [length_information bytes fits]
      exact ⟨fits, by omega⟩
  · rw [TracePlace.writes, if_neg traced]
    exact iff_of_true (within_nil _) fun now => absurd now traced

theorem within_of_capacity (small : place.capacity ≤ 1353) (message : Chunk place.capacity) :
    Within TraceArray.size (place.writes level clock message.bytes) :=
  (within_writes_iff clock message.bytes).mpr fun _ => Nat.le_trans message.bound small

end Fits

/-- The trace of a message and its report are written inside their arrays exactly if nothing is
traced or the message has at most 1353 bytes. -/
theorem trace_fits_iff (place : TracePlace) (level : UInt8) (clock : WallClock)
    (message : Chunk 2048) :
    Within TraceArray.size (place.writes level clock message.bytes) ↔
      (place.Traced level → message.bytes.length ≤ 1353) :=
  within_writes_iff clock message.bytes

def midnight : WallClock where
  gettimeofday := { sec := 0, usec := 0, inside := by decide }
  localtime := fun _ => ⟨0, 1, 0, 0, 0⟩

example : reportLine (getTime midnight) .client .rx (hexText 0xE6) =
    asciiBytes "[01-01_00:00:00:000] (Client): RX = E6 " := by decide

/-- 1354 bytes received by the client: the text fits, and its line does not. -/
theorem long_message_overflows :
    ¬ ∀ (place : TracePlace) (level : UInt8) (clock : WallClock)
        (message : Chunk place.capacity),
      Within TraceArray.size (place.writes level clock message.bytes) := by
  intro always
  have fits := always .tcpClientRx 3 midnight ⟨List.replicate 1354 0, by
    rw [List.length_replicate]
    decide⟩
  have short := (within_writes_iff midnight _).mp fits (show gxTraceLevelWarning < 3 by decide)
  rw [List.length_replicate] at short
  exact absurd short (by decide)

/-! ## The threads -/

namespace System

def received : Option (Chunk 2048) → List UInt8
  | none => []
  | some chunk => chunk.bytes

/-- After a `send` to the server's peer. -/
def tracedToServer (s : System) (serverOk : Bool) : List (TracePlace × List UInt8) :=
  if s.serverConnected && 0 < s.gw.txCount && serverOk && s.acceptOpen then
    [(.tcpSvrTx, window s.gw.byteAt 0 s.gw.txCount.toNat)]
  else []

def tracedToClient (s : System) (clientOk : Bool) : List (TracePlace × List UInt8) :=
  if s.clientConnected && 0 < s.gw.txCount && clientOk then
    [(.tcpClientTx, window s.gw.byteAt 0 s.gw.txCount.toNat)]
  else []

/-- The messages that a step traces.  A failed `read` of RS485 is reported as an empty one. -/
def traces (s : System) : Event → List (TracePlace × List UInt8)
  | .clientRecv ret _ =>
      match s.clientArrival ret with
      | .lost => []
      | _ => [(.tcpClientRx, received ret)]
  | .listenRecv ret _ reply =>
      match s.listenArrival ret with
      | .lost => []
      | .forGateway _ _ => [(.tcpSvrRx, received ret)]
      | .forServer _ =>
          (.tcpSvrRx, received ret) ::
            if reply.bytes = [] then [] else [(.svrTxTmp, reply.bytes)]
  | .send serverOk clientOk =>
      s.tracedToServer serverOk ++ (s.sendToServer serverOk).tracedToClient clientOk
  | .serialRead none => [(.rsRxTmpInfo, [])]
  | .serialRead (some chunk) => [(.rsRxTmpInfo, chunk.bytes)]
  | .serialWrite =>
      if 0 < s.hdlc.txCount then
        [(.rsTxTmpInfo, window s.hdlc.byteAt 0 s.hdlc.txCount.toNat)]
      else []
  | _ => []

theorem txCount_sendToServer_le (s : System) (serverOk : Bool) :
    (s.sendToServer serverOk).gw.txCount.toNat ≤ s.gw.txCount.toNat := by
  rw [sendToServer]
  split
  · split
    · exact Nat.zero_le _
    · exact Nat.le_refl _
  · exact Nat.le_refl _

theorem length_received (ret : Option (Chunk 2048)) : (received ret).length ≤ 2048 := by
  cases ret with
  | none => exact Nat.zero_le _
  | some chunk => exact chunk.bound

theorem length_traces {s : System} (gw : s.gw.txCount.toNat ≤ 2048)
    (hdlc : s.hdlc.txCount.toNat ≤ 2048) (e : Event) :
    ∀ t ∈ s.traces e, t.2.length ≤ t.1.capacity := by
  intro t member
  cases e with
  | clientRecv ret reply =>
      simp only [traces] at member
      split at member
      · cases member
      · rw [List.mem_singleton.mp member]
        exact length_received ret
  | listenRecv ret failed reply =>
      simp only [traces] at member
      split at member
      · cases member
      · rw [List.mem_singleton.mp member]
        exact length_received ret
      · obtain rfl | replied := List.mem_cons.mp member
        · exact length_received ret
        · split at replied
          · cases replied
          · rw [List.mem_singleton.mp replied]
            exact reply.bound
  | send serverOk clientOk =>
      obtain server | client := List.mem_append.mp member
      · rw [tracedToServer] at server
        split at server
        · rw [List.mem_singleton.mp server, length_window]
          exact gw
        · cases server
      · rw [tracedToClient] at client
        split at client
        · rw [List.mem_singleton.mp client, length_window]
          exact Nat.le_trans (txCount_sendToServer_le s serverOk) gw
        · cases client
  | serialRead ret =>
      cases ret with
      | none =>
          rw [List.mem_singleton.mp member]
          exact Nat.zero_le _
      | some chunk =>
          rw [List.mem_singleton.mp member]
          exact chunk.bound
  | serialWrite =>
      simp only [traces] at member
      split at member
      · rw [List.mem_singleton.mp member, length_window]
        exact hdlc
      · cases member
  | clientConnect | clientInactive | accept | push _ | gwRun _ => cases member

def TracesFit (level : UInt8) (clock : WallClock) (s : System) (e : Event) : Prop :=
  ∀ t ∈ s.traces e, Within TraceArray.size (t.1.writes level clock t.2)

def TracesShort (level : UInt8) (s : System) (e : Event) : Prop :=
  ∀ t ∈ s.traces e, t.1.Traced level → t.2.length ≤ 1353

theorem tracesFit_iff (level : UInt8) (clock : WallClock) (s : System) (e : Event) :
    s.TracesFit level clock e ↔ s.TracesShort level e := by
  constructor
  · intro fit t member
    exact (within_writes_iff clock t.2).mp (fit t member)
  · intro short t member
    exact (within_writes_iff clock t.2).mpr (short t member)

theorem tracesFit_run_iff (level : UInt8) (clock : WallClock) (es : List Event) (s : System) :
    Runs.Along step (TracesFit level clock) s es ↔ Runs.Along step (TracesShort level) s es :=
  Runs.along_iff_of_invariant (fun _ => True) (fun _ _ _ => trivial)
    (fun s e _ => tracesFit_iff level clock s e) es s trivial

end System

end DlmsGateway
