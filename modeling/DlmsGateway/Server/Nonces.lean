import DlmsGateway.Server.Security

/-!
# Invocation counters over restarts and interfaces

Both servers encrypt with counters of their own that start from the same file,
and under the same keys and the same system title.  The counters, and the least
counter a client may use, are in memory and reach the file only in
`saveSecurity`; each load puts older values back.
-/
set_option autoImplicit false
namespace DlmsGateway

/-- What may not occur twice among the encrypted messages. -/
structure Nonce where
  blockCipherKey : Key
  systemTitle : Vector UInt8 8
  invocationCounter : UInt32
deriving DecidableEq

structure NonceHistory where
  used : List Nonce
  /-- The client counters accepted, each with the key of the server. -/
  accepted : List (Key × UInt32)

abbrev NonceRun : Type := Meter × NonceHistory

namespace NonceRun
variable (unwrap : Key → List UInt8 → Option Key)

def nonce (c : Cipher) : Nonce := ⟨c.blockCipherKey, c.systemTitle, c.invocationCounter⟩

def note (h : NonceHistory) (m : Meter) : MeterEvent → NonceHistory
  | .encrypt v => { h with used := nonce (m.cipher v) :: h.used }
  | .clientMessage v ic aarq =>
      if m.Accepts ic aarq then
        { h with accepted := ((m.cipher v).blockCipherKey, ic) :: h.accepted }
      else h
  | _ => h

def step : NonceRun → MeterEvent → NonceRun := Runs.observed (Meter.step unwrap) note

/-- No nonce is used again, and no client counter accepted again. -/
def Fresh (r : NonceRun) : MeterEvent → Prop
  | .encrypt v => nonce (r.1.cipher v) ∉ r.2.used
  | .clientMessage v ic aarq =>
      r.1.Accepts ic aarq → ((r.1.cipher v).blockCipherKey, ic) ∉ r.2.accepted
  | _ => True

/-! ## Steps that lose no counter -/

/-- Loading the file for the server lowers neither the highest counter nor the clients' least. -/
def LoadsForward (m : Meter) (v : ServerId) : Prop :=
  ((m.cipher v).invocationCounter ≤ m.securityRaw.invocationCounter ∨
    ∃ w, w ≠ v ∧ (m.cipher v).invocationCounter ≤ (m.cipher w).invocationCounter) ∧
  m.minimumInvocationCounter ≤ m.securityRaw.minimumInvocationCounter

/-- What the method leaves in memory is loaded over only by values that are not older. -/
def MethodForward (m : Meter) (v : ServerId) (object : SecuritySetup) (index : UInt8)
    (ok : Bool) : Prop :=
  ok = false →
    match object with
    | .high | .highGMac => LoadsForward m v
    | .managementClient =>
        Meter.svrIsChangedWithAction index → m.minimumInvocationCounter ≤ m.settingsRaw

def Forward (m : Meter) : MeterEvent → Prop
  | .encrypt v =>
      (∀ w, (m.cipher w).invocationCounter ≤ (m.cipher v).invocationCounter) ∧
        (m.cipher v).invocationCounter < 0xFFFFFFFF
  | .clientMessage _ ic aarq =>
      m.Accepts ic aarq → ic < 0xFFFFFFFF ∧ (aarq → m.minimumInvocationCounter < 0xFFFFFFFF)
  | .keyTransfer v object items => MethodForward m v object 2 (m.transferred unwrap v items).2
  | .otherMethod v object index ok => MethodForward m v object index ok
  | .globalMeterReset v => LoadsForward m v
  | .loadSettings => m.minimumInvocationCounter ≤ m.settingsRaw
  | .powerCycle _ =>
      (∀ w, (m.cipher w).invocationCounter ≤ m.securityRaw.invocationCounter) ∧
        m.minimumInvocationCounter ≤ m.securityRaw.minimumInvocationCounter
  | _ => True

/-- Every counter that was used is below the highest one, and every accepted one below the least. -/
structure Ahead (r : NonceRun) : Prop where
  used : ∀ n ∈ r.2.used, ∃ w, n.invocationCounter < (r.1.cipher w).invocationCounter
  accepted : ∀ a ∈ r.2.accepted, a.2 < r.1.minimumInvocationCounter

/-- Between the two states no counter goes back. -/
structure Advances (m m' : Meter) : Prop where
  highest : ∀ v, ∃ w, (m.cipher v).invocationCounter ≤ (m'.cipher w).invocationCounter
  least : m.minimumInvocationCounter ≤ m'.minimumInvocationCounter

theorem Advances.refl (m : Meter) : Advances m m :=
  ⟨fun v => ⟨v, UInt32.le_refl _⟩, UInt32.le_refl _⟩

theorem Ahead.advance {m m' : Meter} {h : NonceHistory} (ahead : Ahead (m, h))
    (advances : Advances m m') : Ahead (m', h) := by
  refine ⟨fun n member => ?_, fun a member => ?_⟩
  · obtain ⟨v, below⟩ := ahead.used n member
    obtain ⟨w, kept⟩ := advances.highest v
    exact ⟨w, UInt32.lt_of_lt_of_le below kept⟩
  · exact UInt32.lt_of_lt_of_le (ahead.accepted a member) advances.least

theorem Advances.of_same {m m' : Meter}
    (counters : ∀ v, (m'.cipher v).invocationCounter = (m.cipher v).invocationCounter)
    (least : m'.minimumInvocationCounter = m.minimumInvocationCounter) : Advances m m' :=
  ⟨fun v => ⟨v, by rw [counters]; exact UInt32.le_refl _⟩, by rw [least]; exact UInt32.le_refl _⟩

theorem Advances.trans {m m' m'' : Meter} (first : Advances m m') (second : Advances m' m'') :
    Advances m m'' := by
  refine ⟨fun v => ?_, UInt32.le_trans first.least second.least⟩
  obtain ⟨w, kept⟩ := first.highest v
  obtain ⟨u, kept'⟩ := second.highest w
  exact ⟨u, UInt32.le_trans kept kept'⟩

theorem le_add_one {n : UInt32} (bound : n < 0xFFFFFFFF) : n < n + 1 := by
  rw [UInt32.lt_iff_toNat_lt] at bound ⊢
  rw [UInt32.toNat_add]
  simp only [UInt32.reduceToNat] at bound ⊢
  omega

/-! ## What each step does to the counters -/

section Counters
variable (m : Meter) (v : ServerId)

theorem invocationCounter_setKey (c : Cipher) (type : UInt8) (key : Key) :
    (c.setKey type key).1.invocationCounter = c.invocationCounter := by
  rw [Cipher.setKey]
  split_ifs <;> rfl

theorem invocationCounter_transferKeys (items : List (Option (UInt8 × List UInt8))) :
    ∀ (c : Cipher) (ok : Bool),
      (c.transferKeys unwrap items ok).1.invocationCounter = c.invocationCounter := by
  induction items with
  | nil => intro c ok; rfl
  | cons item items ih =>
      intro c ok
      cases item with
      | none => rfl
      | some element =>
          obtain ⟨type, data⟩ := element
          rw [Cipher.transferKeys]
          cases c.decryptKey unwrap data with
          | none => rfl
          | some key => exact (ih _ _).trans (invocationCounter_setKey c type key)

theorem invocationCounter_transferred (items : Option (List (Option (UInt8 × List UInt8)))) :
    (m.transferred unwrap v items).1.invocationCounter = (m.cipher v).invocationCounter := by
  cases items with
  | none => rfl
  | some items => exact invocationCounter_transferKeys unwrap items _ true

theorem cipher_withCipher_self (c : Cipher) : (m.withCipher v c).cipher v = c := by
  simp [Meter.withCipher]

theorem cipher_withCipher_other (c : Cipher) {w : ServerId} (other : w ≠ v) :
    (m.withCipher v c).cipher w = m.cipher w := by
  simp [Meter.withCipher, other]

theorem invocationCounter_withCipher {c : Cipher}
    (same : c.invocationCounter = (m.cipher v).invocationCounter) (w : ServerId) :
    ((m.withCipher v c).cipher w).invocationCounter = (m.cipher w).invocationCounter := by
  by_cases self : w = v
  · subst self
    rw [cipher_withCipher_self, same]
  · rw [cipher_withCipher_other m v c self]

theorem advances_loadSecurity (forward : LoadsForward m v) : Advances m (m.loadSecurity v) := by
  refine ⟨fun u => ?_, forward.2⟩
  by_cases self : u = v
  · subst self
    rcases forward.1 with file | ⟨w, other, higher⟩
    · refine ⟨u, ?_⟩
      rw [Meter.loadSecurity, cipher_withCipher_self]
      exact file
    · refine ⟨w, ?_⟩
      rw [Meter.loadSecurity, cipher_withCipher_other m u _ other]
      exact higher
  · refine ⟨u, ?_⟩
    rw [Meter.loadSecurity, cipher_withCipher_other m v _ self]
    exact UInt32.le_refl _

theorem advances_postAction {object : SecuritySetup} {index : UInt8} {ok : Bool}
    (forward : MethodForward m v object index ok) :
    Advances m (m.svrPostAction v object index ok) := by
  cases ok with
  | true =>
      cases object with
      | high | highGMac => exact .of_same (fun _ => rfl) rfl
      | managementClient =>
          rw [Meter.svrPostAction]
          by_cases changed : Meter.svrIsChangedWithAction index = true
          · rw [if_pos changed, if_pos rfl]
            exact .of_same (fun _ => rfl) rfl
          · rw [if_neg changed]
            exact .refl m
  | false =>
      have loads := forward rfl
      cases object with
      | high | highGMac => exact advances_loadSecurity m v loads
      | managementClient =>
          rw [Meter.svrPostAction]
          by_cases changed : Meter.svrIsChangedWithAction index = true
          · rw [if_pos changed, if_neg Bool.false_ne_true]
            exact ⟨fun u => ⟨u, UInt32.le_refl _⟩, loads changed⟩
          · rw [if_neg changed]
            exact .refl m

theorem methodForward_withCipher {c : Cipher} {object : SecuritySetup} {index : UInt8} {ok : Bool}
    (same : c.invocationCounter = (m.cipher v).invocationCounter)
    (forward : MethodForward m v object index ok) :
    MethodForward (m.withCipher v c) v object index ok := by
  have counters := invocationCounter_withCipher m v same
  intro failed
  have loads := forward failed
  cases object with
  | high | highGMac =>
      refine ⟨?_, loads.2⟩
      rcases loads.1 with file | ⟨w, other, higher⟩
      · exact .inl (by rw [counters]; exact file)
      · exact .inr ⟨w, other, by rw [counters, counters]; exact higher⟩
  | managementClient => exact loads

theorem advances_encrypt (bound : (m.cipher v).invocationCounter < 0xFFFFFFFF) :
    Advances m (m.encrypt v) := by
  refine ⟨fun u => ⟨u, ?_⟩, UInt32.le_refl _⟩
  by_cases self : u = v
  · subst self
    rw [Meter.encrypt, cipher_withCipher_self]
    exact UInt32.le_of_lt (le_add_one bound)
  · rw [Meter.encrypt, cipher_withCipher_other m v _ self]
    exact UInt32.le_refl _

theorem lt_of_accepts {ic : UInt32} {aarq : Bool} (accepts : m.Accepts ic aarq)
    (bound : aarq → m.minimumInvocationCounter < 0xFFFFFFFF) :
    m.minimumInvocationCounter ≤ ic := by
  cases aarq with
  | false => exact accepts
  | true =>
      have next := le_add_one (bound rfl)
      rw [UInt32.add_comm] at next
      exact UInt32.le_trans (UInt32.le_of_lt next) accepts

theorem advances_clientMessage {ic : UInt32} {aarq : Bool}
    (forward : m.Accepts ic aarq →
      ic < 0xFFFFFFFF ∧ (aarq → m.minimumInvocationCounter < 0xFFFFFFFF)) :
    Advances m (m.clientMessage ic aarq) := by
  rw [Meter.clientMessage]
  split_ifs with accepts
  · obtain ⟨bound, least⟩ := forward accepts
    refine ⟨fun u => ⟨u, UInt32.le_refl _⟩, ?_⟩
    have above := le_add_one bound
    rw [UInt32.add_comm] at above
    exact UInt32.le_trans (lt_of_accepts m accepts least) (UInt32.le_of_lt above)
  · exact .refl m

theorem advances_release : Advances m (m.release v) := by
  rw [Meter.release]
  split_ifs <;> exact .of_same (fun _ => rfl) rfl

theorem invocationCounter_serversStart (factory : FactoryKeys) (settingsRaw : Option UInt32) :
    ((Meter.serversStart factory (some m.securityRaw) settingsRaw).cipher v).invocationCounter =
      m.securityRaw.invocationCounter := by
  cases v <;> rfl

theorem advances_step {e : MeterEvent} (forward : Forward unwrap m e) :
    Advances m (Meter.step unwrap m e) := by
  cases e with
  | encrypt v => exact advances_encrypt m v forward.2
  | clientMessage v ic aarq => exact advances_clientMessage m forward
  | connect v ciphered => exact .of_same (fun _ => rfl) rfl
  | release v => exact advances_release m v
  | dropped v => exact .of_same (fun _ => rfl) rfl
  | keyTransfer v object items =>
      have same := invocationCounter_transferred unwrap m v items
      have keys : Advances m (m.withCipher v (m.transferred unwrap v items).1) :=
        .of_same (invocationCounter_withCipher m v same) rfl
      exact keys.trans
        (advances_postAction _ v (methodForward_withCipher m v same forward))
  | otherMethod v object index ok => exact advances_postAction m v forward
  | globalMeterReset v =>
      have saved : Advances m m.saveSettings := .of_same (fun _ => rfl) rfl
      exact saved.trans (advances_loadSecurity m.saveSettings v forward)
  | saveSettings => exact .of_same (fun _ => rfl) rfl
  | loadSettings => exact ⟨fun u => ⟨u, UInt32.le_refl _⟩, forward⟩
  | powerCycle factory =>
      refine ⟨fun u => ⟨.lnWrapper, ?_⟩, forward.2⟩
      exact (invocationCounter_serversStart m .lnWrapper factory _).symm ▸ forward.1 u

end Counters

/-! ## Runs -/

theorem ahead_step (r : NonceRun) (e : MeterEvent) (ahead : Ahead r)
    (forward : Forward unwrap r.1 e) : Ahead (step unwrap r e) := by
  obtain ⟨m, h⟩ := r
  have moved := ahead.advance (advances_step unwrap m forward)
  cases e with
  | encrypt v =>
      refine ⟨fun n member => ?_, moved.accepted⟩
      rcases List.mem_cons.mp member with rfl | earlier
      · refine ⟨v, ?_⟩
        have next := le_add_one forward.2
        simpa only [step, Runs.observed, Meter.step, Meter.encrypt, cipher_withCipher_self, nonce]
          using next
      · exact moved.used n earlier
  | clientMessage v ic aarq =>
      by_cases accepts : m.Accepts ic aarq
      · refine ⟨fun n member => ?_, fun a member => ?_⟩
        · simp only [step, Runs.observed, note, if_pos accepts] at member
          exact moved.used n member
        · simp only [step, Runs.observed, note, if_pos accepts] at member
          rcases List.mem_cons.mp member with rfl | earlier
          · have above := le_add_one (forward accepts).1
            rw [UInt32.add_comm] at above
            simpa only [step, Runs.observed, Meter.step, Meter.clientMessage, if_pos accepts]
              using above
          · exact moved.accepted a earlier
      · simpa only [step, Runs.observed, note, if_neg accepts] using moved
  | _ => exact moved

theorem fresh_of_ahead (r : NonceRun) (e : MeterEvent) (ahead : Ahead r)
    (forward : Forward unwrap r.1 e) : Fresh r e := by
  cases e with
  | encrypt v =>
      intro again
      obtain ⟨w, below⟩ := ahead.used _ again
      exact absurd (forward.1 w) (UInt32.not_le.mpr below)
  | clientMessage v ic aarq =>
      intro accepts again
      have below := ahead.accepted _ again
      exact absurd (lt_of_accepts r.1 accepts (forward accepts).2) (UInt32.not_le.mpr below)
  | _ => trivial

/-- No nonce and no client counter comes twice in a run whose steps put no counter back. -/
theorem nonces_fresh (factory : FactoryKeys) (securityRaw : Option SecurityRaw)
    (settingsRaw : Option UInt32) (events : List MeterEvent)
    (forward : Runs.Along (step unwrap) (fun r e => Forward unwrap r.1 e)
      (Meter.serversStart factory securityRaw settingsRaw, ⟨[], []⟩) events) :
    Runs.Along (step unwrap) Fresh
      (Meter.serversStart factory securityRaw settingsRaw, ⟨[], []⟩) events :=
  Runs.along_of_invariant (fun r e => Forward unwrap r.1 e) Ahead (ahead_step unwrap)
    (fresh_of_ahead unwrap) events _
    ⟨fun n none => absurd none (by simp), fun a none => absurd none (by simp)⟩ forward

def sampleKeys : FactoryKeys := ⟨.replicate 16 1, .replicate 16 2⟩

def firstStart : NonceRun := (Meter.serversStart sampleKeys none none, ⟨[], []⟩)

/-- The counters are saved by the release before the power is cut. -/
def savedSession : List MeterEvent :=
  [.connect .lnWrapper true, .clientMessage .lnWrapper 5 true, .encrypt .lnWrapper,
    .encrypt .lnWrapper, .release .lnWrapper, .powerCycle sampleKeys,
    .clientMessage .lniec 6 false, .encrypt .lniec]

theorem savedSession_fresh :
    Runs.Along (step fun _ _ => none) Fresh firstStart savedSession := by
  refine nonces_fresh (fun _ _ => none) sampleKeys none none savedSession
    ⟨trivial, ?_, ?_, ?_, trivial, ?_, ?_, ?_, trivial⟩
  · exact fun _ => ⟨by decide +kernel, fun _ => by decide +kernel⟩
  · exact ⟨fun w => by cases w <;> decide +kernel, by decide +kernel⟩
  · exact ⟨fun w => by cases w <;> decide +kernel, by decide +kernel⟩
  · exact ⟨fun w => by cases w <;> decide +kernel, by decide +kernel⟩
  · exact fun _ => ⟨by decide +kernel, fun _ => by decide +kernel⟩
  · exact ⟨fun w => by cases w <;> decide +kernel, by decide +kernel⟩

/-- The first messages of the two servers after a start have the same nonce. -/
theorem first_nonces_equal : ¬ Runs.Along (step fun _ _ => none) Fresh firstStart
    [.encrypt .lnWrapper, .encrypt .lniec] := by
  intro ⟨_, fresh, _⟩
  refine fresh (List.mem_singleton.mpr ?_)
  decide +kernel

end NonceRun
end DlmsGateway
