import DlmsGateway.Lib.Bytes
import DlmsGateway.Lib.Text

/-!
# The settings file of the device

`Read_Settings` and the texts that `svr_InitObjects` makes of the settings.  Each line that a
newline ends is copied to the next row of a table, and the value behind the hard-coded offset goes
on to the field whose turn it is.  The copies end where the text ends; what they write is recorded.
A text that goes on behind the table or behind the fields is cut there.

`Settings` is zero before the file is read, and the file can be opened.
-/
set_option autoImplicit false
namespace DlmsGateway
open ByteStore Arrays

/-! ## `SETTINGS` -/

inductive SettingsField where
  | serialNumber
  | productYear
  | manufactureID
  | ip
  | port
  | listenPORT
  | apn
  | authKey
  | broadEncKey
  | uniEncKey
  | kek
  | llsPass
  | mdm
deriving DecidableEq

namespace SettingsField

def all : List SettingsField :=
  [serialNumber, productYear, manufactureID, ip, port, listenPORT, apn, authKey, broadEncKey,
    uniEncKey, kek, llsPass, mdm]

def size : SettingsField → Nat
  | serialNumber => 10
  | productYear => 5
  | manufactureID => 5
  | ip => 17
  | port => 7
  | listenPORT => 7
  | apn => 22
  | authKey => 16
  | broadEncKey => 16
  | uniEncKey => 16
  | kek => 16
  | llsPass => 10
  | mdm => 5

def start : SettingsField → Nat
  | serialNumber => 0
  | productYear => 10
  | manufactureID => 15
  | ip => 20
  | port => 37
  | listenPORT => 44
  | apn => 51
  | authKey => 73
  | broadEncKey => 89
  | uniEncKey => 105
  | kek => 121
  | llsPass => 137
  | mdm => 147

/-- Where the value is taken from in the line. -/
def offset : SettingsField → Nat
  | serialNumber => 13
  | productYear => 12
  | manufactureID => 14
  | ip => 3
  | port => 5
  | listenPORT => 11
  | apn => 4
  | authKey => 8
  | broadEncKey => 12
  | uniEncKey => 10
  | kek => 4
  | llsPass => 8
  | mdm => 4

def isKey : SettingsField → Bool
  | authKey | broadEncKey | uniEncKey | kek => true
  | _ => false

end SettingsField

inductive SettingsArray where
  | data (row : Nat)
  | tmp
  | temp
  | field (f : SettingsField)
  | buff
  | deviceid (n : Nat)
  /-- `tmp` of the SAP assignment. -/
  | sapName

def SettingsArray.size : SettingsArray → Nat
  | data row => if row < 20 then 100 else 0
  | tmp => 50
  | temp => 100
  | field f => f.size
  | buff => 17
  | deviceid 1 => 8
  | deviceid 6 => 17
  | deviceid 7 => 15
  | deviceid _ => 49
  | sapName => 17

/-- What the `case` of a field writes: `memset` and `strcpy`, for a key to `temp` and then each of
its bytes. -/
def SettingsField.written (f : SettingsField) (value : List UInt8) : List (Access SettingsArray) :=
  if f.isKey then
    [⟨.temp, 0, 100⟩, ⟨.field f, 0, f.size⟩, ⟨.temp, 0, value.length + 1⟩] ++
      (List.range 16).map (element (.field f))
  else [⟨.field f, 0, f.size⟩, ⟨.field f, 0, value.length + 1⟩]

/-! ## `%2hhx` -/

def isSpace (c : UInt8) : Bool := c = 32 || (9 ≤ c && c ≤ 13)

def hexDigit (c : UInt8) : Option UInt8 :=
  if 48 ≤ c ∧ c ≤ 57 then some (c - 48)
  else if 65 ≤ c ∧ c ≤ 70 then some (c - 55)
  else if 97 ≤ c ∧ c ≤ 102 then some (c - 87)
  else none

/-- `sscanf` of at most two characters behind the white space. -/
def scanHex (text : List UInt8) : Option UInt8 :=
  match text.dropWhile isSpace with
  | [] => none
  | c :: rest =>
      match hexDigit c, rest.head? with
      | some high, some d =>
          match hexDigit d with
          | some low => some (16 * high + low)
          | none => if c = 48 ∧ (d = 88 ∨ d = 120) then none else some high
      | some high, none => some high
      | none, some d =>
          if c = 43 then hexDigit d else if c = 45 then (hexDigit d).map (- ·) else none
      | none, none => none

def scanKey (temp : Bytes 100) (settings : Bytes 152) (start : Nat) : Nat → Bytes 152
  | 0 => settings
  | i + 1 =>
      match scanHex (cString temp.get (2 * i) (100 - 2 * i)) with
      | some b => (scanKey temp settings start i).set (start + i) b
      | none => scanKey temp settings start i

/-! ## `Read_Settings` -/

structure SettingsReader where
  data : Bytes 2000
  cnt : Nat
  settings : Bytes 152
  writes : List (Access SettingsArray)

namespace SettingsReader
variable (s : SettingsReader)

def init : SettingsReader where
  data := Bytes.zero
  cnt := 0
  settings := Bytes.zero
  writes := []

def cleared (f : SettingsField) : Bytes 152 := s.settings.copy f.start (fun _ => 0) f.size

def assign (f : SettingsField) (value : List UInt8) : SettingsReader :=
  { s with
    settings :=
      if f.isKey then
        let temp := (Bytes.zero : Bytes 100).copy 0 (ofList value) (value.length + 1)
        scanKey temp (s.cleared f) f.start 16
      else (s.cleared f).copy f.start (ofList value) (value.length + 1)
    writes := s.writes ++ f.written value }

def storeLine (line : List UInt8) : SettingsReader :=
  { s with
    data := s.data.copy (100 * s.cnt) (ofList line) line.length
    cnt := s.cnt + 1
    writes := s.writes ++ [⟨.data s.cnt, 0, line.length⟩, ⟨.tmp, 0, 50⟩] }

def rowText (row : Nat) (f : SettingsField) : List UInt8 :=
  cString s.data.get (100 * row + f.offset) (2000 - (100 * row + f.offset))

def handleLine (line : List UInt8) : SettingsReader :=
  match SettingsField.all[s.cnt]? with
  | some f => (s.storeLine line).assign f ((s.storeLine line).rowText s.cnt f)
  | none => s.storeLine line

end SettingsReader

/-- The file is read up to the size of the buffer. -/
def readSettings (file : List UInt8) : SettingsReader :=
  readLines SettingsReader.handleLine (file.take 1000) [] .init

/-! ## The texts of `svr_InitObjects` -/

def settingsText (settings : Bytes 152) (f : SettingsField) : List UInt8 :=
  cString settings.get f.start (152 - f.start)

/-- `sprintf` to each buffer; a number is written with thirteen digits. -/
def identityWrites (settings : Bytes 152) : List (Access SettingsArray) :=
  let serialNumber := settingsText settings .serialNumber
  let productYear := settingsText settings .productYear
  let manufactureID := settingsText settings .manufactureID
  [⟨.buff, 0, 3 + 13 + 1⟩, ⟨.deviceid 1, 0, serialNumber.length + 1⟩, ⟨.deviceid 2, 0, 49⟩,
    ⟨.deviceid 2, 0, 2 + 1⟩, ⟨.deviceid 3, 0, 17 + 1⟩, ⟨.deviceid 4, 0, 19 + 1⟩,
    ⟨.deviceid 5, 0, 12 + 1⟩, ⟨.deviceid 6, 0, 2 + 1⟩,
    ⟨.deviceid 7, 0,
      manufactureID.length + 2 + productYear.length + serialNumber.length + 1⟩,
    ⟨.sapName, 0, 3 + 13 + 1⟩]

def startWrites (file : List UInt8) : List (Access SettingsArray) :=
  (readSettings file).writes ++ identityWrites (readSettings file).settings

end DlmsGateway
