import DlmsGateway.Lib.ByteFile
import DlmsGateway.Lib.Bytes
import DlmsGateway.Server.Security

/-!
# Any content of the key file

`loadSecurity` copies the keys with `bb_set2`, which does not look at the size of its source:
behind a short content it copies what the memory holds there.  Only the counters are read with
a check.  The file is any list of bytes here, or it is not there; it can be opened, and it is
read as a whole.
-/
set_option autoImplicit false
namespace DlmsGateway
open ByteStore ByteFile

/-! ## Reading the content -/

section Read
variable (content : List UInt8)

/-- The content in memory, with what is behind it. -/
def KeyStore.fileMemory (beyond : Nat → UInt8) (i : Nat) : UInt8 := content.getD i (beyond i)

/-- `bb_set2` of 16 bytes to a buffer that has been cleared. -/
def KeyStore.bbSet2 (beyond : Nat → UInt8) (index : Nat) : Key :=
  ⟨⟨window (KeyStore.fileMemory content beyond) index 16⟩, length_window _ _ _⟩

def KeyStore.bbGetUInt32 (position : Nat) : Option UInt32 :=
  if content.length < position + 4 then none
  else some (UInt32.ofNat (BigEndian.decode (readAt content position 4)))

/-- The position of the file buffer goes on by 16 with each key. -/
def Cipher.loadKeys (c : Cipher) (beyond : Nat → UInt8) : Cipher :=
  { c with
    blockCipherKey := KeyStore.bbSet2 content beyond 0
    authenticationKey := KeyStore.bbSet2 content beyond 16
    kek := KeyStore.bbSet2 content beyond 32
    kekTail := [] }

end Read

/-! ## Load and save -/

/-- The keys and counters of a server, and `security.raw`. -/
structure KeyStore where
  cipher : Cipher
  minimumInvocationCounter : UInt32
  securityRaw : Option (List UInt8)

namespace KeyStore
variable (s : KeyStore)

def record : SecurityRaw := s.cipher.saveSecurity s.minimumInvocationCounter

def saveSecurity : KeyStore := { s with securityRaw := some s.record.bytes }

/-- From a file that is not empty. -/
def loadContent (beyond : Nat → UInt8) (content : List UInt8) : KeyStore × Bool :=
  let keys := { s with cipher := s.cipher.loadKeys content beyond }
  match bbGetUInt32 content 48 with
  | none => (keys, false)
  | some invocationCounter =>
      let counted := { keys with cipher := { keys.cipher with invocationCounter } }
      match bbGetUInt32 content 52 with
      | none => (counted, false)
      | some minimumInvocationCounter => ({ counted with minimumInvocationCounter }, true)

/-- The result is whether zero is returned. -/
def loadSecurity (beyond : Nat → UInt8) : KeyStore × Bool :=
  match s.securityRaw with
  | none => (s.saveSecurity, true)
  | some content =>
      if content.length = 0 then (s.saveSecurity, true) else s.loadContent beyond content

/-- After success the values are those of the record that the file starts with; after a failure
they are as they were.  Nothing behind the content matters, and what is saved is loaded. -/
structure LoadsRight : Prop where
  loaded : ∀ beyond, (s.loadSecurity beyond).2 = true →
    (s.loadSecurity beyond).1.cipher.kekTail = [] ∧
      ∃ content, (s.loadSecurity beyond).1.securityRaw = some content ∧
        (s.loadSecurity beyond).1.record.bytes <+: content
  unchanged : ∀ beyond, (s.loadSecurity beyond).2 = false → (s.loadSecurity beyond).1 = s
  contentOnly : ∀ beyond beyond', s.loadSecurity beyond = s.loadSecurity beyond'
  saved : ∀ beyond, s.saveSecurity.loadSecurity beyond = (s.saveSecurity, true)

/-- How much of a file without both counters is read before it fails. -/
def readBeforeFailure (content : List UInt8) : Nat := if content.length < 52 then 48 else 52

/-- A file that holds the keys but not both counters fails too late, unless it is a part of what
there is. -/
def FileSound : Prop :=
  s.cipher.kekTail = [] ∧ ∀ content, s.securityRaw = some content →
    content = [] ∨ 56 ≤ content.length ∨
      48 ≤ content.length ∧
        content.take (readBeforeFailure content) =
          s.record.bytes.take (readBeforeFailure content)

end KeyStore

/-! ## The keys as bytes -/

def Cipher.keys (c : Cipher) : List UInt8 :=
  c.blockCipherKey.toList ++ (c.authenticationKey.toList ++ c.kek.toList)

@[simp] theorem Cipher.length_keys (c : Cipher) : c.keys.length = 48 := by
  simp [Cipher.keys]

theorem Cipher.bytes_saveSecurity (c : Cipher) (minimum : UInt32) :
    (c.saveSecurity minimum).bytes = c.keys ++
      (BigEndian.encode 4 c.invocationCounter.toNat ++ BigEndian.encode 4 minimum.toNat) := by
  simp [SecurityRaw.bytes, Cipher.saveSecurity, Cipher.keys]

theorem Cipher.eq_of_keys {c d : Cipher} (same : c.keys = d.keys) :
    c.blockCipherKey = d.blockCipherKey ∧ c.authenticationKey = d.authenticationKey ∧
      c.kek = d.kek := by
  obtain ⟨block, rest⟩ := List.append_inj same (by simp)
  obtain ⟨authentication, kek⟩ := List.append_inj rest (by simp)
  exact ⟨Vector.toList_inj.mp block, Vector.toList_inj.mp authentication, Vector.toList_inj.mp kek⟩

section Content
variable {content : List UInt8} (beyond : Nat → UInt8)

theorem window_fileMemory {start len : Nat} (inside : start + len ≤ content.length) :
    window (KeyStore.fileMemory content beyond) start len = readAt content start len := by
  apply List.ext_getElem
  · simp
    omega
  · intro k left right
    have bound : start + k < content.length := by
      simp only [length_window] at left
      omega
    rw [getElem_window, KeyStore.fileMemory, List.getD, List.getElem?_eq_getElem bound]
    simp [readAt]

theorem keys_loadKeys (c : Cipher) (long : 48 ≤ content.length) :
    (c.loadKeys content beyond).keys = content.take 48 := by
  have parts : (c.loadKeys content beyond).keys = window (KeyStore.fileMemory content beyond) 0 48 := by
    rw [show 48 = 16 + (16 + 16) by rfl, window_add, window_add]
    rfl
  rw [parts, window_fileMemory beyond (by omega)]
  rfl

theorem loadKeys_congr (c : Cipher) (beyond' : Nat → UInt8) (long : 48 ≤ content.length) :
    c.loadKeys content beyond = c.loadKeys content beyond' := by
  have same : (c.loadKeys content beyond).keys = (c.loadKeys content beyond').keys := by
    rw [keys_loadKeys beyond c long, keys_loadKeys beyond' c long]
  obtain ⟨block, authentication, kek⟩ := Cipher.eq_of_keys same
  simp only [Cipher.loadKeys] at block authentication kek ⊢
  rw [block, authentication, kek]

theorem loadKeys_eq_self (c : Cipher) (tail : c.kekTail = []) (long : 48 ≤ content.length)
    (same : content.take 48 = c.keys) : c.loadKeys content beyond = c := by
  obtain ⟨block, authentication, kek⟩ :=
    Cipher.eq_of_keys ((keys_loadKeys beyond c long).trans same)
  cases c with
  | mk blockCipherKey authenticationKey key kekTail systemTitle invocationCounter =>
      simp only [Cipher.loadKeys] at block authentication kek tail ⊢
      rw [block, authentication, kek, tail]

end Content

theorem encode_counter {bytes : List UInt8} (four : bytes.length = 4) :
    BigEndian.encode 4 (UInt32.ofNat (BigEndian.decode bytes)).toNat = bytes := by
  have below := BigEndian.decode_lt bytes
  rw [four] at below
  have whole : (UInt32.ofNat (BigEndian.decode bytes)).toNat = BigEndian.decode bytes := by
    rw [UInt32.toNat_ofNat']
    exact Nat.mod_eq_of_lt below
  have back := BigEndian.encode_decode bytes
  rw [four] at back
  rw [whole, back]

theorem counter_encode (n : UInt32) :
    UInt32.ofNat (BigEndian.decode (BigEndian.encode 4 n.toNat)) = n := by
  have fits : n.toNat < 256 ^ 4 := n.toNat_lt
  rw [BigEndian.decode_encode, Nat.mod_eq_of_lt fits, UInt32.ofNat_toNat]

/-! ## A content by its length -/

namespace KeyStore
section Content
variable (s : KeyStore) (beyond : Nat → UInt8) {content : List UInt8}

theorem loadContent_short (short : content.length < 52) :
    s.loadContent beyond content =
      ({ s with cipher := s.cipher.loadKeys content beyond }, false) := by
  rw [loadContent, bbGetUInt32, if_pos short]

theorem loadContent_cut (first : 52 ≤ content.length) (short : content.length < 56) :
    s.loadContent beyond content =
      ({ s with
          cipher := { s.cipher.loadKeys content beyond with
            invocationCounter := UInt32.ofNat (BigEndian.decode (readAt content 48 4)) } },
        false) := by
  rw [loadContent, bbGetUInt32, if_neg (by omega)]
  dsimp only
  rw [bbGetUInt32, if_pos short]

theorem loadContent_long (long : 56 ≤ content.length) :
    s.loadContent beyond content =
      ({ s with
          cipher := { s.cipher.loadKeys content beyond with
            invocationCounter := UInt32.ofNat (BigEndian.decode (readAt content 48 4)) }
          minimumInvocationCounter := UInt32.ofNat (BigEndian.decode (readAt content 52 4)) },
        true) := by
  rw [loadContent, bbGetUInt32, if_neg (by omega)]
  dsimp only
  rw [bbGetUInt32, if_neg (by omega)]

theorem loadContent_fails (short : content.length < 56) :
    (s.loadContent beyond content).2 = false := by
  by_cases first : content.length < 52
  · rw [loadContent_short s beyond first]
  · rw [loadContent_cut s beyond (by omega) short]

theorem kekTail_loadContent : (s.loadContent beyond content).1.cipher.kekTail = [] := by
  by_cases short : content.length < 52
  · rw [loadContent_short s beyond short]
    rfl
  · by_cases cut : content.length < 56
    · rw [loadContent_cut s beyond (by omega) cut]
      rfl
    · rw [loadContent_long s beyond (by omega)]
      rfl

theorem loadContent_congr (beyond' : Nat → UInt8) (long : 48 ≤ content.length) :
    s.loadContent beyond content = s.loadContent beyond' content := by
  rw [loadContent, loadContent, loadKeys_congr beyond s.cipher beyond' long]

theorem record_loadContent (long : 56 ≤ content.length) :
    (s.loadContent beyond content).1.record.bytes = content.take 56 := by
  have keys := keys_loadKeys beyond s.cipher (show 48 ≤ content.length by omega)
  have server := encode_counter (show (readAt content 48 4).length = 4 by rw [length_readAt]; omega)
  have client := encode_counter (show (readAt content 52 4).length = 4 by rw [length_readAt]; omega)
  have parts : content.take 56 =
      content.take 48 ++ (readAt content 48 4 ++ readAt content 52 4) := by
    rw [show 56 = 48 + (4 + 4) by rfl, List.take_add, List.take_add, List.drop_drop]
    rfl
  rw [loadContent_long s beyond long]
  calc _ = (s.cipher.loadKeys content beyond).keys ++
        (BigEndian.encode 4 (UInt32.ofNat (BigEndian.decode (readAt content 48 4))).toNat ++
          BigEndian.encode 4 (UInt32.ofNat (BigEndian.decode (readAt content 52 4))).toNat) :=
        Cipher.bytes_saveSecurity _ _
    _ = content.take 56 := by rw [keys, server, client, parts]

theorem take_record (s : KeyStore) : s.record.bytes.take 48 = s.cipher.keys := by
  rw [record, Cipher.bytes_saveSecurity, List.take_left' (by simp)]

theorem take_record_counter (s : KeyStore) : s.record.bytes.take 52 =
    s.cipher.keys ++ BigEndian.encode 4 s.cipher.invocationCounter.toNat := by
  rw [record, Cipher.bytes_saveSecurity, ← List.append_assoc, List.take_left' (by simp)]

end Content

/-! ## Every content -/

section Load
variable {s : KeyStore} (beyond : Nat → UInt8) {content : List UInt8}

theorem loadSecurity_content (there : s.securityRaw = some content) (some_ : content ≠ []) :
    s.loadSecurity beyond = s.loadContent beyond content := by
  have positive := List.length_pos_of_ne_nil some_
  simp only [loadSecurity, there]
  rw [if_neg (by omega)]

theorem securityRaw_loadContent : (s.loadContent beyond content).1.securityRaw = s.securityRaw := by
  simp only [loadContent]
  cases bbGetUInt32 content 48 with
  | none => rfl
  | some server =>
      cases bbGetUInt32 content 52 with
      | none => rfl
      | some client => rfl

/-- A file that ends between the keys and the second counter, with what is there already. -/
theorem loadContent_same (tail : s.cipher.kekTail = []) (keys : 48 ≤ content.length)
    (short : content.length < 56)
    (same : content.take (readBeforeFailure content) =
      s.record.bytes.take (readBeforeFailure content)) :
    s.loadContent beyond content = (s, false) := by
  by_cases first : content.length < 52
  · rw [readBeforeFailure, if_pos first, take_record] at same
    rw [loadContent_short s beyond first, loadKeys_eq_self beyond s.cipher tail keys same]
  · rw [readBeforeFailure, if_neg first, take_record_counter, show 52 = 48 + 4 by rfl,
      List.take_add] at same
    obtain ⟨block, counter⟩ := List.append_inj same (by simp [keys])
    have read : readAt content 48 4 = BigEndian.encode 4 s.cipher.invocationCounter.toNat := counter
    rw [loadContent_cut s beyond (by omega) short,
      loadKeys_eq_self beyond s.cipher tail keys block, read, counter_encode]

theorem same_of_loadContent (keys : 48 ≤ content.length) (short : content.length < 56)
    (unchanged : (s.loadContent beyond content).1 = s) :
    content.take (readBeforeFailure content) =
      s.record.bytes.take (readBeforeFailure content) := by
  by_cases first : content.length < 52
  · rw [loadContent_short s beyond first] at unchanged
    have cipher : s.cipher.loadKeys content beyond = s.cipher := congrArg cipher unchanged
    rw [readBeforeFailure, if_pos first, take_record, ← keys_loadKeys beyond s.cipher keys, cipher]
  · rw [loadContent_cut s beyond (by omega) short] at unchanged
    have block : (s.cipher.loadKeys content beyond).keys = s.cipher.keys :=
      congrArg (fun t => t.cipher.keys) unchanged
    have counter : UInt32.ofNat (BigEndian.decode (readAt content 48 4)) =
        s.cipher.invocationCounter := congrArg (fun t => t.cipher.invocationCounter) unchanged
    have read := encode_counter (show (readAt content 48 4).length = 4 by
      rw [length_readAt]; omega)
    rw [counter] at read
    rw [readBeforeFailure, if_neg first, take_record_counter, read, ← block,
      keys_loadKeys beyond s.cipher keys, show 52 = 48 + 4 by rfl, List.take_add]
    rfl

theorem keys_of_contentOnly
    (same : s.loadContent (fun _ => 0) content = s.loadContent (fun _ => 255) content) :
    48 ≤ content.length := by
  by_contra short
  have last (b : UInt8) : (bbSet2 content (fun _ => b) 32)[15] = b := by
    have byte : (bbSet2 content (fun _ => b) 32)[15] = fileMemory content (fun _ => b) 47 := by
      simp [bbSet2, getElem_window]
    rw [byte, fileMemory, List.getD, List.getElem?_eq_none (by omega), Option.getD_none]
  rw [loadContent_short s _ (by omega), loadContent_short s _ (by omega)] at same
  have key : bbSet2 content (fun _ => 0) 32 = bbSet2 content (fun _ => 255) 32 :=
    congrArg (fun t => t.1.cipher.kek) same
  have byte := congrArg (fun k : Key => k[15]) key
  simp only [last] at byte
  exact absurd byte (by decide)

theorem loadContent_bytes (file : SecurityRaw) :
    s.loadContent beyond file.bytes =
      ({ s with
          cipher := s.cipher.loadSecurity file
          minimumInvocationCounter := file.minimumInvocationCounter }, true) := by
  have length := file.length_bytes
  have loaded : (s.loadContent beyond file.bytes).1.record = file := by
    apply SecurityRaw.bytes_injective
    rw [record_loadContent s beyond (by omega), List.take_of_length_le (by omega)]
  have fields : s.loadContent beyond file.bytes =
      ({ s with
          cipher := s.cipher.loadSecurity (s.loadContent beyond file.bytes).1.record
          minimumInvocationCounter :=
            (s.loadContent beyond file.bytes).1.record.minimumInvocationCounter }, true) := by
    rw [loadContent_long s beyond (by omega)]
    rfl
  rw [loaded] at fields
  exact fields

theorem loadSecurity_saveSecurity (tail : s.cipher.kekTail = []) :
    s.saveSecurity.loadSecurity beyond = (s.saveSecurity, true) := by
  have cipher : s.cipher.loadSecurity s.record = s.cipher := by
    rw [Cipher.loadSecurity, ← tail]
    rfl
  rw [loadSecurity_content beyond rfl (s.record.bytes_ne_nil), loadContent_bytes]
  have same : s.saveSecurity.cipher = s.cipher := rfl
  rw [same, cipher]
  rfl

theorem loadSecurity_cases (sound : s.FileSound) :
    (∀ beyond, s.loadSecurity beyond = (s.saveSecurity, true)) ∨
      (∃ content, s.securityRaw = some content ∧ 56 ≤ content.length ∧
        ∀ beyond, s.loadSecurity beyond = s.loadContent beyond content) ∨
      ∀ beyond, s.loadSecurity beyond = (s, false) := by
  obtain ⟨tail, files⟩ := sound
  cases there : s.securityRaw with
  | none =>
      left
      intro beyond
      simp only [loadSecurity, there]
  | some content =>
      by_cases none_ : content = []
      · left
        intro beyond
        simp only [loadSecurity, there]
        rw [if_pos (by rw [none_, List.length_nil])]
      · right
        have loads beyond := loadSecurity_content beyond there none_
        obtain empty | long | ⟨keys, same⟩ := files content there
        · exact absurd empty none_
        · exact .inl ⟨content, rfl, long, loads⟩
        · by_cases long : 56 ≤ content.length
          · exact .inl ⟨content, rfl, long, loads⟩
          · right
            intro beyond
            rw [loads, loadContent_same beyond tail keys (by omega) same]

theorem fileSound_of_loadsRight (right : s.LoadsRight) : s.FileSound := by
  have tail : s.cipher.kekTail = [] := by
    have saved := congrArg (fun t => t.1.cipher.kekTail) (right.saved fun _ => 0)
    rw [loadSecurity_content _ rfl (s.record.bytes_ne_nil)] at saved
    exact saved.symm.trans (kekTail_loadContent s.saveSecurity _)
  refine ⟨tail, ?_⟩
  intro content there
  by_cases none_ : content = []
  · exact .inl none_
  by_cases long : 56 ≤ content.length
  · exact .inr (.inl long)
  have loads beyond := loadSecurity_content beyond there none_
  have only := right.contentOnly (fun _ => 0) (fun _ => 255)
  rw [loads, loads] at only
  have keys := keys_of_contentOnly only
  have fails : (s.loadSecurity fun _ => 0).2 = false := by
    rw [loads, loadContent_fails s _ (by omega)]
  have unchanged := right.unchanged _ fails
  rw [loads] at unchanged
  exact .inr (.inr ⟨keys, same_of_loadContent _ keys (by omega) unchanged⟩)

end Load

/-- The security file is handled as it should exactly if the key encryption key has nothing behind
it, and a file that is neither empty nor complete has the keys and agrees with what there is. -/
theorem loadsRight_iff (s : KeyStore) : s.LoadsRight ↔ s.FileSound := by
  constructor
  · exact fileSound_of_loadsRight
  · intro sound
    have tail := sound.1
    obtain saves | ⟨content, there, long, loads⟩ | fails := loadSecurity_cases sound
    · exact {
        loaded := fun beyond _ => by
          rw [saves]
          exact ⟨tail, s.record.bytes, rfl, List.prefix_rfl⟩
        unchanged := fun beyond failed => by
          rw [saves] at failed
          cases failed
        contentOnly := fun beyond beyond' => by rw [saves, saves]
        saved := fun beyond => loadSecurity_saveSecurity beyond tail }
    · exact {
        loaded := fun beyond _ => by
          rw [loads]
          refine ⟨kekTail_loadContent s beyond, content, ?_, ?_⟩
          · rw [securityRaw_loadContent, there]
          · rw [record_loadContent s beyond long]
            exact List.take_prefix 56 content
        unchanged := fun beyond failed => by
          rw [loads, loadContent_long s beyond long] at failed
          cases failed
        contentOnly := fun beyond beyond' => by
          rw [loads, loads, loadContent_congr s beyond beyond' (by omega)]
        saved := fun beyond => loadSecurity_saveSecurity beyond tail }
    · exact {
        loaded := fun beyond done => by
          rw [fails] at done
          cases done
        unchanged := fun beyond _ => by rw [fails]
        contentOnly := fun beyond beyond' => by rw [fails, fails]
        saved := fun beyond => loadSecurity_saveSecurity beyond tail }

/-! ## The servers and their file -/

end KeyStore

/-- One of the servers, with the file as its bytes. -/
def Meter.keyStore (m : Meter) (v : ServerId) : KeyStore where
  cipher := m.cipher v
  minimumInvocationCounter := m.minimumInvocationCounter
  securityRaw := some m.securityRaw.bytes

namespace KeyStore

theorem keyStore_saveSecurity (m : Meter) (v : ServerId) :
    (m.saveSecurity v).keyStore v = (m.keyStore v).saveSecurity := rfl

theorem keyStore_loadSecurity (m : Meter) (v : ServerId) (beyond : Nat → UInt8) :
    (m.keyStore v).loadSecurity beyond = ((m.loadSecurity v).keyStore v, true) := by
  have cipher : (m.loadSecurity v).cipher v = (m.cipher v).loadSecurity m.securityRaw :=
    Function.update_self ..
  rw [loadSecurity_content beyond rfl m.securityRaw.bytes_ne_nil, loadContent_bytes,
    Meter.keyStore, Meter.keyStore, cipher]
  rfl

/-- A start loads the file of the bytes, or saves where there is none. -/
theorem serversStart_loads (factory : FactoryKeys) (securityRaw : Option SecurityRaw)
    (settingsRaw : Option UInt32) (beyond : Nat → UInt8) :
    let start : KeyStore :=
      ⟨Cipher.init, settingsRaw.getD 0, securityRaw.map SecurityRaw.bytes⟩
    let loaded := (start.loadSecurity beyond).1
    let m := Meter.serversStart factory securityRaw settingsRaw
    m.cipher .lnWrapper = loaded.cipher.tcpStart factory ∧
      m.cipher .lniec = loaded.cipher.iecStart factory ∧
      m.minimumInvocationCounter = loaded.minimumInvocationCounter ∧
      loaded.securityRaw = some m.securityRaw.bytes := by
  cases securityRaw with
  | none => exact ⟨rfl, rfl, rfl, rfl⟩
  | some file =>
      dsimp only [Option.map_some]
      rw [loadSecurity_content beyond rfl file.bytes_ne_nil, loadContent_bytes]
      exact ⟨rfl, rfl, rfl, rfl⟩

/-- Power was lost after the first block of the keys. -/
def truncated : KeyStore where
  cipher := Cipher.init
  minimumInvocationCounter := 0
  securityRaw := some (List.replicate 20 0)

theorem truncated_file_loaded : ¬ truncated.LoadsRight := by
  intro right
  have short : (List.replicate 20 (0 : UInt8)).length < 52 := by simp
  have loads (beyond : Nat → UInt8) : truncated.loadSecurity beyond =
      ({ truncated with cipher := Cipher.init.loadKeys (List.replicate 20 0) beyond }, false) :=
    loadContent_short truncated beyond short
  have kek := congrArg (fun t => t.cipher.kek[15]) (right.unchanged (fun _ => 255) (by rw [loads]))
  rw [loads] at kek
  exact absurd kek (by decide)

end KeyStore
end DlmsGateway
