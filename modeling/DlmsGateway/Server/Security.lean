import DlmsGateway.Lib.BigEndian
import DlmsGateway.Lib.Runs

/-!
# Keys and counters of the two servers

`lnWrapper` and `lniec` have their own keys and invocation counter, and share
the objects, `security.raw` and `settings.raw`.  `settings.raw` matters here
because the value of the object `invocationCounter` is a reference to
`securitySetupHighGMac.minimumInvocationCounter`, so loading the settings loads
that counter too.

Only `saveSecurity` writes `security.raw`, so a file that exists is a record of
56 bytes.  `cip_decryptKey` is a parameter but for its check of the size of the
key encryption key; what it returns has 16 bytes.

Assumed: the array `KEK` outlives `Servers_Start`.  It is a local of that
function, and `kek` of `lnWrapper` stays attached to it after the return, so
that in C the key has no defined value from then on.  Here the server keeps
what was last stored in it.
-/
set_option autoImplicit false
namespace DlmsGateway

abbrev Key : Type := Vector UInt8 16

/-! ## The file of the keys -/

structure SecurityRaw where
  blockCipherKey : Key
  authenticationKey : Key
  kek : Key
  invocationCounter : UInt32
  minimumInvocationCounter : UInt32
deriving DecidableEq

namespace SecurityRaw

def bytes (r : SecurityRaw) : List UInt8 :=
  r.blockCipherKey.toList ++ (r.authenticationKey.toList ++ (r.kek.toList ++
    (BigEndian.encode 4 r.invocationCounter.toNat ++
      BigEndian.encode 4 r.minimumInvocationCounter.toNat)))

/-- `bb_set2` of 16 bytes to an empty buffer. -/
def readKey (bytes : List UInt8) : Option (Key × List UInt8) :=
  if h : (bytes.take 16).length = 16 then some (⟨⟨bytes.take 16⟩, h⟩, bytes.drop 16) else none

/-- What `loadSecurity` reads. -/
def ofBytes (bytes : List UInt8) : Option SecurityRaw := do
  let (blockCipherKey, bytes) ← readKey bytes
  let (authenticationKey, bytes) ← readKey bytes
  let (kek, bytes) ← readKey bytes
  let (invocationCounter, bytes) ← BigEndian.read 4 bytes
  let (minimumInvocationCounter, _) ← BigEndian.read 4 bytes
  return {
    blockCipherKey := blockCipherKey
    authenticationKey := authenticationKey
    kek := kek
    invocationCounter := UInt32.ofNat invocationCounter
    minimumInvocationCounter := UInt32.ofNat minimumInvocationCounter }

theorem readKey_append (key : Key) (rest : List UInt8) :
    readKey (key.toList ++ rest) = some (key, rest) := by
  have front : (key.toList ++ rest).take 16 = key.toList := List.take_left' (by simp)
  have back : (key.toList ++ rest).drop 16 = rest := List.drop_left' (by simp)
  simp only [readKey, front, back, Vector.length_toList, dite_true]
  rfl

theorem ofBytes_bytes (r : SecurityRaw) : ofBytes r.bytes = some r := by
  have fits (n : UInt32) : n.toNat < 256 ^ 4 := n.toNat_lt
  have first := BigEndian.read_encode (fits r.invocationCounter)
    (BigEndian.encode 4 r.minimumInvocationCounter.toNat)
  have second := BigEndian.read_encode (fits r.minimumInvocationCounter) []
  rw [List.append_nil] at second
  simp [ofBytes, bytes, readKey_append, first, second]

theorem length_bytes (r : SecurityRaw) : r.bytes.length = 56 := by
  simp [bytes]

theorem bytes_ne_nil (r : SecurityRaw) : r.bytes ≠ [] := by
  intro none_
  have length := r.length_bytes
  rw [none_] at length
  cases length

theorem bytes_injective : Function.Injective bytes := by
  intro r r' same
  have read := ofBytes_bytes r
  rw [same, ofBytes_bytes] at read
  exact (Option.some.inj read).symm

end SecurityRaw

/-! ## One server -/

structure FactoryKeys where
  authKey : Key
  uniEncKey : Key

structure Cipher where
  blockCipherKey : Key
  authenticationKey : Key
  kek : Key
  /-- What the buffer of the key encryption key holds behind the key. -/
  kekTail : List UInt8
  systemTitle : Vector UInt8 8
  invocationCounter : UInt32
deriving DecidableEq

namespace Cipher

/-- `cip_init`; `Settings` is not read yet when `KEK` is copied. -/
def init : Cipher where
  blockCipherKey := .ofFn fun i => UInt8.ofNat i.val
  authenticationKey := .ofFn fun i => UInt8.ofNat (0xD0 + i.val)
  kek := .replicate 16 0
  kekTail := []
  systemTitle := .ofFn fun i => UInt8.ofNat (0x41 + i.val)
  invocationCounter := 0

def saveSecurity (c : Cipher) (minimumInvocationCounter : UInt32) : SecurityRaw where
  blockCipherKey := c.blockCipherKey
  authenticationKey := c.authenticationKey
  kek := c.kek
  invocationCounter := c.invocationCounter
  minimumInvocationCounter := minimumInvocationCounter

/-- `loadSecurity` from a file that is there. -/
def loadSecurity (c : Cipher) (file : SecurityRaw) : Cipher :=
  { c with
    blockCipherKey := file.blockCipherKey
    authenticationKey := file.authenticationKey
    kek := file.kek
    kekTail := []
    invocationCounter := file.invocationCounter }

/-- `TCP_start`: the attached buffer has no room for the text that `bb_addString` adds. -/
def tcpStart (c : Cipher) (factory : FactoryKeys) : Cipher :=
  { c with
    authenticationKey := factory.authKey
    blockCipherKey := factory.uniEncKey }

/-- `IEC_start`: the buffer grows by the sixteen characters. -/
def iecStart (c : Cipher) (factory : FactoryKeys) : Cipher :=
  { c with
    authenticationKey := factory.authKey
    blockCipherKey := factory.uniEncKey
    kekTail := c.kekTail ++ List.replicate 16 0x31 }

section KeyTransfer
variable (unwrap : Key → List UInt8 → Option Key)

/-- `cip_decryptKey` takes the size of the key modulo 256. -/
def decryptKey (c : Cipher) (data : List UInt8) : Option Key :=
  if UInt8.ofNat (16 + c.kekTail.length) = 16 then unwrap c.kek data else none

/-- The `switch` over the key types; `false` is an invalid type. -/
def setKey (c : Cipher) (type : UInt8) (key : Key) : Cipher × Bool :=
  if type = 0 then ({ c with blockCipherKey := key }, true)
  else if type = 2 then ({ c with authenticationKey := key }, true)
  else if type = 3 then ({ c with kek := key, kekTail := [] }, true)
  else (c, false)

/-- The loop of `invoke_SecuritySetup`: an invalid type does not end it, and the next
element overwrites the error.  An element is `none` if it has fewer than two fields. -/
def transferKeys : Cipher → List (Option (UInt8 × List UInt8)) → Bool → Cipher × Bool
  | c, [], ok => (c, ok)
  | c, none :: _, _ => (c, false)
  | c, some (type, data) :: items, _ =>
      match c.decryptKey unwrap data with
      | none => (c, false)
      | some key => transferKeys (c.setKey type key).1 items (c.setKey type key).2

end KeyTransfer
end Cipher

/-! ## Both servers -/

inductive ServerId where
  | lnWrapper
  | lniec
deriving DecidableEq

inductive SecuritySetup where
  | high
  | highGMac
  | managementClient
deriving DecidableEq

structure Meter where
  cipher : ServerId → Cipher
  ciphered : ServerId → Bool
  minimumInvocationCounter : UInt32
  securityRaw : SecurityRaw
  /-- The value of `invocationCounter` in `settings.raw`. -/
  settingsRaw : UInt32

inductive MeterEvent where
  | encrypt (server : ServerId)
  /-- A message that deciphers, on an association with `securitySetupHighGMac`. -/
  | clientMessage (server : ServerId) (ic : UInt32) (aarq : Bool)
  | connect (server : ServerId) (ciphered : Bool)
  /-- Every call of `svr_disconnected`. -/
  | release (server : ServerId)
  | dropped (server : ServerId)
  | keyTransfer (server : ServerId) (object : SecuritySetup)
      (items : Option (List (Option (UInt8 × List UInt8))))
  /-- Method 1, or a method that is refused. -/
  | otherMethod (server : ServerId) (object : SecuritySetup) (index : UInt8) (ok : Bool)
  | globalMeterReset (server : ServerId)
  | saveSettings
  | loadSettings
  | powerCycle (factory : FactoryKeys)

namespace Meter

/-- `Servers_Start`, as far as the keys and the counters go. -/
def serversStart (factory : FactoryKeys) (securityRaw : Option SecurityRaw)
    (settingsRaw : Option UInt32) : Meter :=
  let file := securityRaw.getD (Cipher.init.saveSecurity (settingsRaw.getD 0))
  { cipher := fun
      | .lnWrapper => (Cipher.init.loadSecurity file).tcpStart factory
      | .lniec => (Cipher.init.loadSecurity file).iecStart factory
    ciphered := fun _ => false
    minimumInvocationCounter := file.minimumInvocationCounter
    securityRaw := file
    settingsRaw := settingsRaw.getD 0 }

variable (m : Meter)

def withCipher (v : ServerId) (c : Cipher) : Meter :=
  { m with cipher := Function.update m.cipher v c }

def withCiphered (v : ServerId) (ciphered : Bool) : Meter :=
  { m with ciphered := Function.update m.ciphered v ciphered }

def saveSecurity (v : ServerId) : Meter :=
  { m with securityRaw := (m.cipher v).saveSecurity m.minimumInvocationCounter }

def loadSecurity (v : ServerId) : Meter :=
  { m.withCipher v ((m.cipher v).loadSecurity m.securityRaw) with
    minimumInvocationCounter := m.securityRaw.minimumInvocationCounter }

def saveSettings : Meter := { m with settingsRaw := m.minimumInvocationCounter }

def loadSettings : Meter := { m with minimumInvocationCounter := m.settingsRaw }

/-- `cip_crypt` -/
def encrypt (v : ServerId) : Meter :=
  m.withCipher v
    { m.cipher v with invocationCounter := (m.cipher v).invocationCounter + 1 }

/-- The counter of an AARQ has to be above `minimumInvocationCounter`. -/
def Accepts (ic : UInt32) (aarq : Bool) : Prop :=
  if aarq then 1 + m.minimumInvocationCounter ≤ ic else m.minimumInvocationCounter ≤ ic

instance (ic : UInt32) : ∀ aarq, Decidable (m.Accepts ic aarq)
  | true => inferInstanceAs (Decidable (1 + m.minimumInvocationCounter ≤ ic))
  | false => inferInstanceAs (Decidable (m.minimumInvocationCounter ≤ ic))

def clientMessage (ic : UInt32) (aarq : Bool) : Meter :=
  if m.Accepts ic aarq then { m with minimumInvocationCounter := 1 + ic } else m

def release (v : ServerId) : Meter :=
  (if m.ciphered v then m.saveSecurity v else m).withCiphered v false

/-- `svr_isChangedWithAction` of a security setup object. -/
def svrIsChangedWithAction (index : UInt8) : Bool :=
  index = 1 || index = 2 || index = 4 || index = 6 || index = 8

def svrPostAction (v : ServerId) (object : SecuritySetup) (index : UInt8) (ok : Bool) : Meter :=
  match object with
  | .high | .highGMac => if ok then m.saveSecurity v else m.loadSecurity v
  | .managementClient =>
      if svrIsChangedWithAction index then if ok then m.saveSettings else m.loadSettings else m

section Step
variable (unwrap : Key → List UInt8 → Option Key)

def transferred (v : ServerId) (items : Option (List (Option (UInt8 × List UInt8)))) :
    Cipher × Bool :=
  match items with
  | none => (m.cipher v, false)
  | some items => (m.cipher v).transferKeys unwrap items true

def keyTransfer (v : ServerId) (object : SecuritySetup)
    (items : Option (List (Option (UInt8 × List UInt8)))) : Meter :=
  (m.withCipher v (m.transferred unwrap v items).1).svrPostAction v object 2
    (m.transferred unwrap v items).2

/-- The emptied `settings.raw` is written anew, and then `security.raw` is loaded. -/
def globalMeterReset (v : ServerId) : Meter := m.saveSettings.loadSecurity v

def step (m : Meter) : MeterEvent → Meter
  | .encrypt v => m.encrypt v
  | .clientMessage _ ic aarq => m.clientMessage ic aarq
  | .connect v ciphered => m.withCiphered v ciphered
  | .release v => m.release v
  | .dropped v => m.withCiphered v false
  | .keyTransfer v object items => m.keyTransfer unwrap v object items
  | .otherMethod v object index ok => m.svrPostAction v object index ok
  | .globalMeterReset v => m.globalMeterReset v
  | .saveSettings => m.saveSettings
  | .loadSettings => m.loadSettings
  | .powerCycle factory => serversStart factory (some m.securityRaw) (some m.settingsRaw)

end Step
end Meter
end DlmsGateway
