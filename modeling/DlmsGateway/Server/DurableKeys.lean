import DlmsGateway.Server.Security

/-!
# Keys over a restart

The start functions copy the keys of `Settings` over the loaded ones, and
`IEC_start` appends to the key encryption key, so of the keys a client sets
only the key encryption key of `lnWrapper` can come back, and only from the file.
-/
set_option autoImplicit false
namespace DlmsGateway

/-- The keys a client last set, each where it set one. -/
structure KeysSet where
  blockCipherKey : Option Key
  authenticationKey : Option Key
  kek : Option Key
deriving DecidableEq

namespace KeysSet

def nothing : KeysSet := ⟨none, none, none⟩

/-- After a transfer of keys of the given types has left the keys of `c`. -/
def set (h : KeysSet) (types : List UInt8) (c : Cipher) : KeysSet where
  blockCipherKey := if 0 ∈ types then some c.blockCipherKey else h.blockCipherKey
  authenticationKey := if 2 ∈ types then some c.authenticationKey else h.authenticationKey
  kek := if 3 ∈ types then some c.kek else h.kek

/-- The server has exactly the keys that were set. -/
structure InPlace (h : KeysSet) (c : Cipher) : Prop where
  blockCipherKey : ∀ k ∈ h.blockCipherKey, c.blockCipherKey = k
  authenticationKey : ∀ k ∈ h.authenticationKey, c.authenticationKey = k
  kek : ∀ k ∈ h.kek, c.kek = k ∧ c.kekTail = []

end KeysSet

/-- The servers and the keys set on each of them. -/
abbrev KeyRun : Type := Meter × (ServerId → KeysSet)

namespace KeyRun
variable (unwrap : Key → List UInt8 → Option Key)

def types (items : Option (List (Option (UInt8 × List UInt8)))) : List UInt8 :=
  (items.getD []).filterMap (Option.map Prod.fst)

/-- A transfer that returns no error has set every key in it. -/
def note (h : ServerId → KeysSet) (m : Meter) : MeterEvent → ServerId → KeysSet
  | .keyTransfer v _ items =>
      if (m.transferred unwrap v items).2 then
        Function.update h v ((h v).set (types items) (m.transferred unwrap v items).1)
      else h
  | _ => h

def step : KeyRun → MeterEvent → KeyRun := Runs.observed (Meter.step unwrap) (note unwrap)

/-- After a restart both servers have the keys that were set on them. -/
def Durable (r : KeyRun) (e : MeterEvent) : Prop :=
  match e with
  | .powerCycle _ => ∀ v, (r.2 v).InPlace ((Meter.step unwrap r.1 e).cipher v)
  | _ => True

/-- What `Settings` and `security.raw` have to agree with. -/
structure Recoverable (m : Meter) (factory : FactoryKeys) (v : ServerId) (h : KeysSet) : Prop where
  blockCipherKey : ∀ k ∈ h.blockCipherKey, k = factory.uniEncKey
  authenticationKey : ∀ k ∈ h.authenticationKey, k = factory.authKey
  kek : ∀ k ∈ h.kek, v = .lnWrapper ∧ k = m.securityRaw.kek

def RestartsRecoverable (r : KeyRun) (e : MeterEvent) : Prop :=
  match e with
  | .powerCycle factory => ∀ v, Recoverable r.1 factory v (r.2 v)
  | _ => True

/-! ## One start -/

section Start
variable (m : Meter) (factory : FactoryKeys) (settingsRaw : Option UInt32)

theorem cipher_serversStart (v : ServerId) :
    let c := (Meter.serversStart factory (some m.securityRaw) settingsRaw).cipher v
    c.blockCipherKey = factory.uniEncKey ∧ c.authenticationKey = factory.authKey ∧
      c.kek = m.securityRaw.kek ∧ (c.kekTail = [] ↔ v = .lnWrapper) := by
  cases v with
  | lnWrapper =>
      refine ⟨rfl, rfl, rfl, ?_⟩
      simp [Meter.serversStart, Cipher.tcpStart, Cipher.loadSecurity]
  | lniec =>
      refine ⟨rfl, rfl, rfl, ?_⟩
      simp [Meter.serversStart, Cipher.iecStart, Cipher.loadSecurity]

theorem inPlace_serversStart_iff (v : ServerId) (h : KeysSet) :
    h.InPlace ((Meter.serversStart factory (some m.securityRaw) settingsRaw).cipher v) ↔
      Recoverable m factory v h := by
  obtain ⟨block, authentication, kek, tail⟩ := cipher_serversStart m factory settingsRaw v
  constructor
  · intro inPlace
    refine ⟨fun k set => ?_, fun k set => ?_, fun k set => ?_⟩
    · exact (inPlace.blockCipherKey k set).symm.trans block
    · exact (inPlace.authenticationKey k set).symm.trans authentication
    · obtain ⟨same, whole⟩ := inPlace.kek k set
      exact ⟨tail.mp whole, same.symm.trans kek⟩
  · intro recoverable
    refine ⟨fun k set => ?_, fun k set => ?_, fun k set => ?_⟩
    · exact block.trans (recoverable.blockCipherKey k set).symm
    · exact authentication.trans (recoverable.authenticationKey k set).symm
    · obtain ⟨server, same⟩ := recoverable.kek k set
      exact ⟨kek.trans same.symm, tail.mpr server⟩

end Start

theorem durable_iff (r : KeyRun) (e : MeterEvent) :
    Durable unwrap r e ↔ RestartsRecoverable r e := by
  cases e with
  | powerCycle factory =>
      exact forall_congr' fun v => inPlace_serversStart_iff r.1 factory _ v (r.2 v)
  | _ => exact Iff.rfl

/-- The keys survive exactly the runs whose restarts find them in `Settings` and in the file. -/
theorem keys_durable_iff (factory : FactoryKeys) (securityRaw : Option SecurityRaw)
    (settingsRaw : Option UInt32) (events : List MeterEvent) :
    Runs.Along (step unwrap) (Durable unwrap)
        (Meter.serversStart factory securityRaw settingsRaw, fun _ => .nothing) events ↔
      Runs.Along (step unwrap) RestartsRecoverable
        (Meter.serversStart factory securityRaw settingsRaw, fun _ => .nothing) events :=
  Runs.along_iff_of_invariant (fun _ => True) (fun _ _ _ => trivial)
    (fun r e _ => durable_iff unwrap r e) events _ trivial

/-! ## A key that is lost -/

def sampleFactory : FactoryKeys where
  authKey := .replicate 16 1
  uniEncKey := .replicate 16 2

def sampleKek : Key := .ofFn fun i => UInt8.ofNat i.val

def sampleKey : Key := .ofFn fun i => UInt8.ofNat (0x11 * i.val)

def sampleWrapped : List UInt8 :=
  [0x1F, 0xA6, 0x8B, 0x0A, 0x81, 0x12, 0xB4, 0x47, 0xAE, 0xF3, 0x4B, 0xD8,
   0xFB, 0x5A, 0x7B, 0x82, 0x9D, 0x3E, 0x86, 0x23, 0x71, 0xD2, 0xCF, 0xE5]

def sampleUnwrap (kek : Key) (data : List UInt8) : Option Key :=
  if kek = sampleKek ∧ data = sampleWrapped then some sampleKey else none

def sampleRaw : SecurityRaw := ⟨.replicate 16 3, .replicate 16 4, sampleKek, 0, 0⟩

/-- A new block cipher key is saved, and the restart puts the key of `Settings` in its place. -/
theorem block_cipher_key_lost : ¬ Runs.Along (step sampleUnwrap) (Durable sampleUnwrap)
    (Meter.serversStart sampleFactory (some sampleRaw) none, fun _ => .nothing)
    [.keyTransfer .lnWrapper .highGMac (some [some (0, sampleWrapped)]),
      .powerCycle sampleFactory] := by
  intro ⟨_, durable, _⟩
  let start := Meter.serversStart sampleFactory (some sampleRaw) none
  let transfer := MeterEvent.keyTransfer .lnWrapper .highGMac (some [some (0, sampleWrapped)])
  have set : (note sampleUnwrap (fun _ => .nothing) start transfer .lnWrapper).blockCipherKey =
      some sampleKey := by decide +kernel
  have same : sampleFactory.uniEncKey = sampleKey := (durable .lnWrapper).blockCipherKey _ set
  revert same
  decide +kernel

end KeyRun
end DlmsGateway
