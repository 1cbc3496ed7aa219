import DlmsGateway.Lib.Bytes
import DlmsGateway.Lib.Record
import DlmsGateway.Server.Session

/-!
# The record behind the saved session

`srv_Save` fills an `SvrSettings` on its stack and writes it to the file; the
record has 2412 bytes.  A buffer is copied by its capacity, in which the highest
bit says that the storage is attached, into a member of fixed size; `srv_Load`
appends that many bytes again.  Members are stored in the order of the record
(of the key the size before the position), so a copy that is too long spoils
itself and not what follows, as long as it ends inside the record.

What the stack held is a parameter.  That memory can be allocated and the file
written and read is taken for granted; enumerations are their codes.
-/
set_option autoImplicit false
namespace DlmsGateway.SessionRecord

open ByteStore Arrays

structure GxByteBuffer where
  data : Nat → UInt8
  capacity : UInt32
  size : UInt32
  position : UInt32

namespace GxByteBuffer

def init : GxByteBuffer := ⟨fun _ => 0, 0, 0, 0⟩

def isAttached (b : GxByteBuffer) : Bool := b.capacity &&& 0x80000000 == 0x80000000

def getCapacity (b : GxByteBuffer) : UInt32 := b.capacity &&& 0x7FFFFFFF

def allocate (b : GxByteBuffer) (index dataSize : UInt32) : GxByteBuffer :=
  if !b.isAttached ∧ (b.capacity = 0 ∨ b.capacity < index + dataSize) then
    if 50 < dataSize ∨ b.capacity = 0 then { b with capacity := b.capacity + dataSize }
    else { b with capacity := b.capacity + 50 }
  else b

def append (b : GxByteBuffer) (source : Nat → UInt8) (count : UInt32) : GxByteBuffer where
  data := fun k =>
    if b.size.toNat ≤ k ∧ k < b.size.toNat + count.toNat then source (k - b.size.toNat)
    else b.data k
  capacity := b.capacity
  size := b.size + count
  position := b.position

/-- `bb_set`; a buffer that stays too small keeps its bytes. -/
def set (b : GxByteBuffer) (source : Nat → UInt8) (count : UInt32) : GxByteBuffer :=
  if count = 0 then b
  else
    let b := b.allocate b.size count
    if b.capacity < b.size + count then b else b.append source count

/-- The bytes in use lie in the storage. -/
def Sized (b : GxByteBuffer) : Prop := b.size.toNat ≤ b.getCapacity.toNat

def Empty (b : GxByteBuffer) : Prop := b.capacity = 0 ∧ b.size = 0

structure SameBytes (b c : GxByteBuffer) : Prop where
  size : c.size = b.size
  bytes : ∀ k, k < b.size.toNat → c.data k = b.data k

theorem toNat_getCapacity (b : GxByteBuffer) : b.getCapacity.toNat = b.capacity.toNat % 2 ^ 31 := by
  rw [getCapacity, UInt32.toNat_and]
  exact Nat.and_two_pow_sub_one_eq_mod b.capacity.toNat 31

theorem getCapacity_le (b : GxByteBuffer) : b.getCapacity.toNat ≤ b.capacity.toNat := by
  rw [toNat_getCapacity]
  exact Nat.mod_le _ _

theorem Sized.size_le {b : GxByteBuffer} (sized : b.Sized) : b.size.toNat ≤ b.capacity.toNat :=
  Nat.le_trans sized b.getCapacity_le

theorem set_empty {b : GxByteBuffer} (empty : b.Empty) (source : Nat → UInt8) (count : UInt32) :
    (b.set source count).size = count ∧
      ∀ k, k < count.toNat → (b.set source count).data k = source k := by
  obtain ⟨capacity, size⟩ := empty
  by_cases none : count = 0
  · subst none
    rw [set, if_pos rfl]
    exact ⟨size, fun k bound => absurd bound (Nat.not_lt_zero k)⟩
  · have detached : b.isAttached = false := by
      rw [isAttached, capacity]
      rfl
    have room : b.allocate b.size count = { b with capacity := count } := by
      simp [allocate, detached, capacity]
    have enough : ¬ count < b.size + count := by simp [size]
    rw [set, if_neg none, room]
    dsimp only
    rw [if_neg enough]
    constructor
    · simp [append, size]
    · intro k bound
      simp [append, size, bound]

end GxByteBuffer

/-- Of `dlmsServerSettings`, what the two functions use. -/
structure DlmsServerSettings where
  protocolVersion : UInt8
  dedicatedKey : Option GxByteBuffer
  sourceSystemTitle : Bytes 8
  command : UInt32
  transaction : GxByteBuffer
  blockIndex : UInt32
  connected : UInt32
  authentication : UInt32
  isAuthenticationRequired : UInt8
  security : UInt32
  ctoSChallenge : GxByteBuffer
  stoCChallenge : GxByteBuffer
  senderFrame : UInt8
  receiverFrame : UInt8
  serverAddress : UInt32
  clientAddress : UInt16
  dataReceived : UInt32
  frameReceived : UInt32
  negotiatedConformance : UInt32
  maxPduSize : UInt16

/-! ## Saving -/

/-- `memcpy(member, b->data, b->capacity)` -/
def memcpyData (pos size : Nat) (b : GxByteBuffer) : Store := ⟨pos, size, b.capacity.toNat, b.data⟩

/-- Capacity, position and size of a buffer, and its data. -/
def bufferStores (pos size : Nat) (b : GxByteBuffer) : List Store :=
  [.assign pos 4 b.capacity.toNat, .assign (pos + 4) 4 b.position.toNat,
    .assign (pos + 8) 4 b.size.toNat, memcpyData (pos + 12) size b]

def keyStores : Option GxByteBuffer → List Store
  | some key =>
      [.assign 4 4 key.capacity.toNat, .assign 12 4 key.size.toNat,
        .assign 8 4 key.position.toNat, memcpyData 16 100 key]
  | none => [.assign 4 4 0xFFFFFFFF, .assign 12 4 0xFFFFFFFF, .assign 8 4 0xFFFFFFFF]

/-- The members behind the key. -/
def laterStores (s : DlmsServerSettings) : List Store :=
  [⟨116, 8, 8, s.sourceSystemTitle.get⟩, .assign 124 4 s.command.toNat] ++
  bufferStores 128 2000 s.transaction ++
  [.assign 2140 4 s.blockIndex.toNat, .assign 2144 4 s.connected.toNat,
    .assign 2148 4 s.authentication.toNat, .assign 2152 1 s.isAuthenticationRequired.toNat,
    .assign 2156 4 s.security.toNat] ++
  bufferStores 2160 100 s.ctoSChallenge ++ bufferStores 2272 100 s.stoCChallenge ++
  [.assign 2384 1 s.senderFrame.toNat, .assign 2385 1 s.receiverFrame.toNat,
    .assign 2388 4 s.serverAddress.toNat, .assign 2392 2 s.clientAddress.toNat,
    .assign 2396 4 s.dataReceived.toNat, .assign 2400 4 s.frameReceived.toNat,
    .assign 2404 4 s.negotiatedConformance.toNat, .assign 2408 2 s.maxPduSize.toNat]

def saveStores (s : DlmsServerSettings) : List Store :=
  .assign 0 1 s.protocolVersion.toNat :: (keyStores s.dedicatedKey ++ laterStores s)

abbrev SvrSettings : Type := Bytes 2412

def srvSave (stack : SvrSettings) (s : DlmsServerSettings) : SvrSettings :=
  stack.storeAll (saveStores s)

inductive SaveArray where
  | svrSettings
  | dedicatedKey
  | transaction
  | ctoSChallenge
  | stoCChallenge

def arraySize (s : DlmsServerSettings) : SaveArray → Nat
  | .svrSettings => 2412
  | .dedicatedKey => s.dedicatedKey.elim 0 fun key => key.getCapacity.toNat
  | .transaction => s.transaction.getCapacity.toNat
  | .ctoSChallenge => s.ctoSChallenge.getCapacity.toNat
  | .stoCChallenge => s.stoCChallenge.getCapacity.toNat

/-- The stretches of the record that are written and of the storages that are read. -/
def saveAccesses (s : DlmsServerSettings) : List (Access SaveArray) :=
  (saveStores s).map (fun st => ⟨.svrSettings, st.pos, st.len⟩) ++
  s.dedicatedKey.elim [] (fun key => [⟨.dedicatedKey, 0, key.capacity.toNat⟩]) ++
  [⟨.transaction, 0, s.transaction.capacity.toNat⟩,
    ⟨.ctoSChallenge, 0, s.ctoSChallenge.capacity.toNat⟩,
    ⟨.stoCChallenge, 0, s.stoCChallenge.capacity.toNat⟩]

/-! ## Loading -/

/-- The member of `size` bytes at `pos`. -/
def member (r : SvrSettings) (pos size : Nat) : Nat := number (fun k => r.get (pos + k)) size

def word (r : SvrSettings) (pos : Nat) : UInt32 := UInt32.ofNat (member r pos 4)

/-- `bb_set`, and the three numbers of the buffer assigned. -/
def loadBuffer (b : GxByteBuffer) (r : SvrSettings) (pos : Nat) : GxByteBuffer where
  data := (b.set (fun k => r.get (pos + 12 + k)) (word r pos)).data
  capacity := word r pos
  size := word r (pos + 8)
  position := word r (pos + 4)

def loadKey (current : Option GxByteBuffer) (r : SvrSettings) : Option GxByteBuffer :=
  if word r 4 ≠ 0xFFFFFFFF then some (GxByteBuffer.init.set (fun k => r.get (16 + k)) (word r 4))
  else current

def srvLoad (s : DlmsServerSettings) (r : SvrSettings) : DlmsServerSettings :=
  { s with
    protocolVersion := UInt8.ofNat (member r 0 1)
    dedicatedKey := loadKey s.dedicatedKey r
    sourceSystemTitle := fun k => r.get (116 + k)
    blockIndex := word r 2140
    connected := word r 2144
    authentication := word r 2148
    isAuthenticationRequired := UInt8.ofNat (member r 2152 1)
    security := word r 2156
    ctoSChallenge := loadBuffer s.ctoSChallenge r 2160
    stoCChallenge := loadBuffer s.stoCChallenge r 2272
    senderFrame := UInt8.ofNat (member r 2384 1)
    receiverFrame := UInt8.ofNat (member r 2385 1)
    serverAddress := word r 2388
    clientAddress := UInt16.ofNat (member r 2392 2)
    frameReceived := word r 2400
    negotiatedConformance := word r 2404
    maxPduSize := UInt16.ofNat (member r 2408 2) }

/-- The settings of a running server, whose buffers lie in their storage. -/
structure RunningSettings extends DlmsServerSettings where
  keySized : ∀ key ∈ dedicatedKey, key.Sized
  transactionSized : transaction.Sized
  ctoSSized : ctoSChallenge.Sized
  stoCSized : stoCChallenge.Sized

/-- What `svr_init` leaves. -/
structure FreshSettings extends DlmsServerSettings where
  noKey : dedicatedKey = none
  ctoSEmpty : ctoSChallenge.Empty
  stoCEmpty : stoCChallenge.Empty

structure Restored (s t : DlmsServerSettings) : Prop where
  protocolVersion : t.protocolVersion = s.protocolVersion
  dedicatedKey : Option.Rel GxByteBuffer.SameBytes s.dedicatedKey t.dedicatedKey
  sourceSystemTitle : t.sourceSystemTitle = s.sourceSystemTitle
  blockIndex : t.blockIndex = s.blockIndex
  connected : t.connected = s.connected
  authentication : t.authentication = s.authentication
  isAuthenticationRequired : t.isAuthenticationRequired = s.isAuthenticationRequired
  security : t.security = s.security
  ctoSChallenge : GxByteBuffer.SameBytes s.ctoSChallenge t.ctoSChallenge
  stoCChallenge : GxByteBuffer.SameBytes s.stoCChallenge t.stoCChallenge
  senderFrame : t.senderFrame = s.senderFrame
  receiverFrame : t.receiverFrame = s.receiverFrame
  serverAddress : t.serverAddress = s.serverAddress
  clientAddress : t.clientAddress = s.clientAddress
  frameReceived : t.frameReceived = s.frameReceived
  negotiatedConformance : t.negotiatedConformance = s.negotiatedConformance
  maxPduSize : t.maxPduSize = s.maxPduSize

/-- The save keeps to its arrays, and whatever the stack held a fresh server loads it back. -/
def RoundTrip (s : DlmsServerSettings) : Prop :=
  Within (arraySize s) (saveAccesses s) ∧
    ∀ (stack : SvrSettings) (fresh : FreshSettings),
      Restored s (srvLoad fresh.toDlmsServerSettings (srvSave stack s))

structure Contents where
  dedicatedKey : Nat → UInt8
  transaction : Nat → UInt8
  ctoSChallenge : Nat → UInt8
  stoCChallenge : Nat → UInt8

/-- The same settings, the buffers with other bytes. -/
def RunningSettings.holding (s : RunningSettings) (c : Contents) : RunningSettings :=
  { s with
    dedicatedKey := s.dedicatedKey.map fun key => { key with data := c.dedicatedKey }
    transaction := { s.transaction with data := c.transaction }
    ctoSChallenge := { s.ctoSChallenge with data := c.ctoSChallenge }
    stoCChallenge := { s.stoCChallenge with data := c.stoCChallenge }
    keySized := by
      intro key present
      obtain ⟨old, before, rfl⟩ := Option.map_eq_some_iff.mp present
      exact s.keySized old before
    transactionSized := s.transactionSized
    ctoSSized := s.ctoSSized
    stoCSized := s.stoCSized }

/-- The copies end inside the record, and the bytes in use inside their members. -/
structure FitsRecord (s : DlmsServerSettings) : Prop where
  dedicatedKey : ∀ key ∈ s.dedicatedKey, key.size = key.capacity ∧ key.capacity.toNat ≤ 100
  transaction : s.transaction.capacity.toNat ≤ 2272
  ctoSCapacity : s.ctoSChallenge.capacity.toNat ≤ 240
  ctoSSize : s.ctoSChallenge.size.toNat ≤ 100
  stoCCapacity : s.stoCChallenge.capacity.toNat ≤ 128
  stoCSize : s.stoCChallenge.size.toNat ≤ 100

/-! ## Reading the record back -/

section Saved
variable (s : DlmsServerSettings)

theorem later_ordered : (laterStores s).IsChain Store.Before := by
  simp [laterStores, bufferStores, memcpyData, Store.assign, Store.Before]

theorem later_behind_key : ∀ st ∈ laterStores s, 116 ≤ st.pos := by
  simp [laterStores, bufferStores, memcpyData, Store.assign]

theorem key_spares (key : Option GxByteBuffer) :
    (keyStores key).Pairwise Store.Spares ∧
      ∀ st ∈ keyStores key, 4 ≤ st.pos ∧ st.pos + st.size ≤ 116 := by
  cases key with
  | none => simp [keyStores, Store.assign, Store.Spares, Store.Before]
  | some key => simp [keyStores, memcpyData, Store.assign, Store.Spares, Store.Before]

theorem stores_spare : (saveStores s).Pairwise Store.Spares := by
  obtain ⟨spares, inside⟩ := key_spares s.dedicatedKey
  rw [saveStores, List.pairwise_cons, List.pairwise_append]
  refine ⟨?_, spares, Store.spares_of_ordered (later_ordered s), ?_⟩
  · intro st member
    have behind : 0 + 1 ≤ st.pos := by
      rcases List.mem_append.mp member with among | later
      · exact Nat.le_trans (by omega) (inside st among).1
      · exact Nat.le_trans (by omega) (later_behind_key s st later)
    exact .inl behind
  · intro st among st' later
    exact .inl (Nat.le_trans (inside st among).2 (later_behind_key s st' later))

/-- The members lie in the record, however far the copies run on. -/
theorem members_inside : ∀ st ∈ saveStores s, st.pos + st.size ≤ 2412 := by
  intro st member
  rcases List.mem_cons.mp member with first | behind
  · rw [first]
    exact Nat.le_of_ble_eq_true rfl
  · rcases List.mem_append.mp behind with among | later
    · exact Nat.le_trans ((key_spares s.dedicatedKey).2 st among).2 (by omega)
    · have ends : ∀ st ∈ laterStores s, st.pos + st.size ≤ 2412 := by
        simp [laterStores, bufferStores, memcpyData, Store.assign]
      exact ends st later

variable {s} (stack : SvrSettings)

theorem stored_srvSave {st : Store} (stored : st ∈ saveStores s) {k : Nat} (copied : k < st.len)
    (inside : k < st.size) : (srvSave stack s).get (st.pos + k) = st.src k := by
  have ends := members_inside s st stored
  exact Bytes.get_storeAll copied inside (by omega) (saveStores s) stack (stores_spare s) stored

theorem member_srvSave {pos size v : Nat} (stored : Store.assign pos size v ∈ saveStores s)
    (fits : v < 256 ^ size) : member (srvSave stack s) pos size = v :=
  Bytes.number_storeAll (stores_spare s) stack stored (members_inside s _ stored) fits

theorem byte_srvSave {pos : Nat} {v : UInt8}
    (stored : Store.assign pos 1 v.toNat ∈ saveStores s) :
    UInt8.ofNat (member (srvSave stack s) pos 1) = v := by
  rw [member_srvSave stack stored v.toNat_lt, UInt8.ofNat_toNat]

theorem half_srvSave {pos : Nat} {v : UInt16}
    (stored : Store.assign pos 2 v.toNat ∈ saveStores s) :
    UInt16.ofNat (member (srvSave stack s) pos 2) = v := by
  rw [member_srvSave stack stored v.toNat_lt, UInt16.ofNat_toNat]

theorem word_srvSave {pos : Nat} {v : UInt32}
    (stored : Store.assign pos 4 v.toNat ∈ saveStores s) : word (srvSave stack s) pos = v := by
  rw [word, member_srvSave stack stored v.toNat_lt, UInt32.ofNat_toNat]

theorem data_srvSave {pos size : Nat} {b : GxByteBuffer}
    (stored : memcpyData pos size b ∈ saveStores s) {k : Nat} (inUse : k < b.capacity.toNat)
    (inside : k < size) : (srvSave stack s).get (pos + k) = b.data k :=
  stored_srvSave stack stored inUse inside

theorem title_srvSave {k : Nat} (inside : k < 8) :
    (srvSave stack s).get (116 + k) = s.sourceSystemTitle.get k := by
  have stored : ⟨116, 8, 8, s.sourceSystemTitle.get⟩ ∈ saveStores s := by
    simp [saveStores, laterStores]
  exact stored_srvSave stack stored inside inside

theorem first_srvSave {pos size v : Nat} (stored : Store.assign pos size v ∈ saveStores s)
    (some : 0 < size) : (srvSave stack s).get pos = numberByte v 0 :=
  stored_srvSave stack stored some some

theorem data_loadBuffer {b : GxByteBuffer} (empty : b.Empty) (r : SvrSettings) (pos : Nat) {k : Nat}
    (copied : k < (word r pos).toNat) : (loadBuffer b r pos).data k = r.get (pos + 12 + k) :=
  (GxByteBuffer.set_empty empty (fun k => r.get (pos + 12 + k)) (word r pos)).2 k copied

/-- A buffer whose bytes in use fit its member comes back. -/
theorem sameBytes_loadBuffer {b c : GxByteBuffer} {pos size : Nat} (empty : b.Empty)
    (stored : ∀ st ∈ bufferStores pos size c, st ∈ saveStores s)
    (sized : c.Sized) (short : c.size.toNat ≤ size) :
    GxByteBuffer.SameBytes c (loadBuffer b (srvSave stack s) pos) where
  size := word_srvSave stack (stored _ (by simp [bufferStores]))
  bytes k inUse := by
    have allocated : k < c.capacity.toNat := Nat.lt_of_lt_of_le inUse sized.size_le
    have capacity : word (srvSave stack s) pos = c.capacity :=
      word_srvSave stack (stored _ (by simp [bufferStores]))
    rw [data_loadBuffer empty _ pos (by rwa [capacity])]
    exact data_srvSave stack (stored _ (by simp [bufferStores])) allocated
      (Nat.lt_of_lt_of_le inUse short)

theorem loadKey_some {key : GxByteBuffer} (current : Option GxByteBuffer)
    (present : s.dedicatedKey = some key) (short : key.capacity.toNat ≤ 2396) :
    loadKey current (srvSave stack s) = some
      (GxByteBuffer.init.set (fun k => (srvSave stack s).get (16 + k)) key.capacity) := by
  have capacity : word (srvSave stack s) 4 = key.capacity :=
    word_srvSave stack (by simp [saveStores, keyStores, present])
  have marked : key.capacity ≠ 0xFFFFFFFF := by
    intro marker
    simp [marker] at short
  rw [loadKey, capacity, if_pos marked]

theorem loadKey_none (absent : s.dedicatedKey = none) {current : Option GxByteBuffer} :
    loadKey current (srvSave stack s) = current := by
  have capacity : word (srvSave stack s) 4 = 0xFFFFFFFF :=
    word_srvSave (v := 0xFFFFFFFF) stack (by simp [saveStores, keyStores, absent])
  rw [loadKey, capacity, if_neg (by simp)]

theorem empty_init : GxByteBuffer.init.Empty := ⟨rfl, rfl⟩

theorem sameBytes_loadKey (fits : FitsRecord s) :
    Option.Rel GxByteBuffer.SameBytes s.dedicatedKey (loadKey none (srvSave stack s)) := by
  cases present : s.dedicatedKey with
  | none =>
      rw [loadKey_none stack present]
      exact .none
  | some key =>
      obtain ⟨full, short⟩ := fits.dedicatedKey key present
      rw [loadKey_some stack none present (by omega)]
      obtain ⟨size, bytes⟩ := GxByteBuffer.set_empty empty_init
        (fun k => (srvSave stack s).get (16 + k)) key.capacity
      refine .some ⟨size.trans full.symm, ?_⟩
      intro k inUse
      rw [full] at inUse
      have stored : memcpyData 16 100 key ∈ saveStores s := by
        simp [saveStores, keyStores, present]
      exact (bytes k inUse).trans
        (data_srvSave stack stored inUse (Nat.lt_of_lt_of_le inUse short))

end Saved

/-! ## The round trip -/

section RoundTrip
variable {s : DlmsServerSettings}

theorem restored_of_fits (sized : s.ctoSChallenge.Sized ∧ s.stoCChallenge.Sized)
    (fits : FitsRecord s) (stack : SvrSettings) (fresh : FreshSettings) :
    Restored s (srvLoad fresh.toDlmsServerSettings (srvSave stack s)) where
  protocolVersion := byte_srvSave stack (by simp [saveStores])
  dedicatedKey := by
    have key := sameBytes_loadKey stack fits
    rwa [← fresh.noKey] at key
  sourceSystemTitle := by
    funext k
    have title := title_srvSave (s := s) stack k.isLt
    exact title.trans (dif_pos k.isLt)
  blockIndex := word_srvSave stack (by simp [saveStores, laterStores])
  connected := word_srvSave stack (by simp [saveStores, laterStores])
  authentication := word_srvSave stack (by simp [saveStores, laterStores])
  isAuthenticationRequired := byte_srvSave stack (by simp [saveStores, laterStores])
  security := word_srvSave stack (by simp [saveStores, laterStores])
  ctoSChallenge := by
    apply sameBytes_loadBuffer stack fresh.ctoSEmpty _ sized.1 fits.ctoSSize
    intro st among
    simp [saveStores, laterStores, among]
  stoCChallenge := by
    apply sameBytes_loadBuffer stack fresh.stoCEmpty _ sized.2 fits.stoCSize
    intro st among
    simp [saveStores, laterStores, among]
  senderFrame := byte_srvSave stack (by simp [saveStores, laterStores])
  receiverFrame := byte_srvSave stack (by simp [saveStores, laterStores])
  serverAddress := word_srvSave stack (by simp [saveStores, laterStores])
  clientAddress := half_srvSave stack (by simp [saveStores, laterStores])
  frameReceived := word_srvSave stack (by simp [saveStores, laterStores])
  negotiatedConformance := word_srvSave stack (by simp [saveStores, laterStores])
  maxPduSize := half_srvSave stack (by simp [saveStores, laterStores])

/-! ## What has to fit -/

def GxByteBuffer.Owned (b : GxByteBuffer) : Prop := b.capacity.toNat ≤ b.getCapacity.toNat

theorem GxByteBuffer.owned_of_lt {b : GxByteBuffer} (small : b.capacity.toNat < 2 ^ 31) :
    b.Owned := by
  rw [Owned, toNat_getCapacity, Nat.mod_eq_of_lt small]

theorem inside_whole (array : SaveArray) (len : Nat) :
    (Access.mk array 0 len).Inside (arraySize s) ↔ len ≤ arraySize s array := by
  rw [inside_mk]
  omega

theorem within_keyAccess :
    Within (arraySize s)
        (s.dedicatedKey.elim [] fun key => [⟨.dedicatedKey, 0, key.capacity.toNat⟩]) ↔
      ∀ key ∈ s.dedicatedKey, key.Owned := by
  cases present : s.dedicatedKey with
  | none => simp
  | some key =>
      simp only [Option.elim, within_cons, within_nil, inside_whole, arraySize, present, and_true,
        Option.mem_some_iff, forall_eq', GxByteBuffer.Owned]

theorem within_saveAccesses :
    Within (arraySize s) (saveAccesses s) ↔
      (∀ st ∈ saveStores s, st.len = 0 ∨ st.pos + st.len ≤ 2412) ∧
      (∀ key ∈ s.dedicatedKey, key.Owned) ∧
      s.transaction.Owned ∧ s.ctoSChallenge.Owned ∧ s.stoCChallenge.Owned := by
  rw [saveAccesses, within_append, within_append, within_keyAccess, Within, List.forall_mem_map]
  simp only [within_cons, within_nil, inside_whole, arraySize, and_true, and_assoc,
    GxByteBuffer.Owned]
  exact Iff.rfl

theorem within_of_fits (fits : FitsRecord s) : Within (arraySize s) (saveAccesses s) := by
  obtain ⟨key, transaction, ctoS, -, stoC, -⟩ := fits
  rw [within_saveAccesses]
  refine ⟨?_, ?_, ?_, ?_, ?_⟩
  · have keyEnds : ∀ st ∈ keyStores s.dedicatedKey, st.pos + st.len ≤ 2412 := by
      cases present : s.dedicatedKey with
      | none => simp [keyStores, Store.assign]
      | some k =>
          have short := (key k present).2
          simp [keyStores, memcpyData, Store.assign]
          omega
    have laterEnd : ∀ st ∈ laterStores s, st.pos + st.len ≤ 2412 := by
      simp [laterStores, bufferStores, memcpyData, Store.assign]
      omega
    intro st among
    right
    rcases List.mem_cons.mp among with first | behind
    · rw [first]
      exact Nat.le_of_ble_eq_true rfl
    · rcases List.mem_append.mp behind with ofKey | later
      · exact keyEnds st ofKey
      · exact laterEnd st later
  · intro k present
    have short := (key k present).2
    exact GxByteBuffer.owned_of_lt (by omega)
  · exact GxByteBuffer.owned_of_lt (by omega)
  · exact GxByteBuffer.owned_of_lt (by omega)
  · exact GxByteBuffer.owned_of_lt (by omega)

theorem capacity_le {pos size : Nat} {b : GxByteBuffer}
    (within : Within (arraySize s) (saveAccesses s))
    (stored : memcpyData pos size b ∈ saveStores s) : b.capacity.toNat ≤ 2412 - pos := by
  have member := members_inside s _ stored
  have ends := (within_saveAccesses.mp within).1 _ stored
  simp only [memcpyData] at member ends
  omega

theorem capacities_le (within : Within (arraySize s) (saveAccesses s)) :
    s.transaction.capacity.toNat ≤ 2272 ∧ s.ctoSChallenge.capacity.toNat ≤ 240 ∧
      s.stoCChallenge.capacity.toNat ≤ 128 := by
  refine ⟨?_, ?_, ?_⟩
  · have stored : memcpyData 140 2000 s.transaction ∈ saveStores s := by
      simp [saveStores, laterStores, bufferStores]
    exact capacity_le within stored
  · have stored : memcpyData 2172 100 s.ctoSChallenge ∈ saveStores s := by
      simp [saveStores, laterStores, bufferStores]
    exact capacity_le within stored
  · have stored : memcpyData 2284 100 s.stoCChallenge ∈ saveStores s := by
      simp [saveStores, laterStores, bufferStores]
    exact capacity_le within stored

end RoundTrip

section Converse

def freshSettings : FreshSettings where
  protocolVersion := 0
  dedicatedKey := none
  sourceSystemTitle := Bytes.zero
  command := 0
  transaction := .init
  blockIndex := 0
  connected := 0
  authentication := 0
  isAuthenticationRequired := 0
  security := 0
  ctoSChallenge := .init
  stoCChallenge := .init
  senderFrame := 0
  receiverFrame := 0
  serverAddress := 0
  clientAddress := 0
  dataReceived := 0
  frameReceived := 0
  negotiatedConformance := 0
  maxPduSize := 0
  noKey := rfl
  ctoSEmpty := empty_init
  stoCEmpty := empty_init

variable {s : RunningSettings}

theorem FitsRecord.holding (fits : FitsRecord s.toDlmsServerSettings) (c : Contents) :
    FitsRecord (s.holding c).toDlmsServerSettings := by
  obtain ⟨key, transaction, ctoSCapacity, ctoSSize, stoCCapacity, stoCSize⟩ := fits
  refine ⟨?_, transaction, ctoSCapacity, ctoSSize, stoCCapacity, stoCSize⟩
  intro key' present
  obtain ⟨old, before, rfl⟩ := Option.map_eq_some_iff.mp present
  exact key old before

theorem roundTrip_of_fits (fits : FitsRecord s.toDlmsServerSettings) :
    RoundTrip s.toDlmsServerSettings :=
  ⟨within_of_fits fits, restored_of_fits ⟨s.ctoSSized, s.stoCSized⟩ fits⟩

theorem RoundTrip.loaded {s : DlmsServerSettings} (holds : RoundTrip s) :
    Restored s (srvLoad freshSettings.toDlmsServerSettings (srvSave Bytes.zero s)) :=
  holds.2 Bytes.zero freshSettings

/-- The key that comes back is as long as the capacity of the one saved. -/
theorem key_full {s : DlmsServerSettings} {key : GxByteBuffer} (present : s.dedicatedKey = some key)
    (holds : RoundTrip s) :
    key.size = key.capacity ∧
      ∀ k, k < key.size.toNat → (srvSave Bytes.zero s).get (16 + k) = key.data k := by
  have stored : memcpyData 16 100 key ∈ saveStores s := by simp [saveStores, keyStores, present]
  have short := capacity_le holds.1 stored
  have same := holds.loaded.dedicatedKey
  have loaded := loadKey_some Bytes.zero none present short
  obtain ⟨size, bytes⟩ := GxByteBuffer.set_empty empty_init
    (fun k => (srvSave Bytes.zero s).get (16 + k)) key.capacity
  simp only [srvLoad, freshSettings, present, loaded, Option.rel_some_some] at same
  have full : key.size = key.capacity := same.size.symm.trans size
  refine ⟨full, ?_⟩
  intro k inUse
  rw [← same.bytes k inUse, bytes k (by rwa [← full])]

theorem key_short (all : ∀ c, RoundTrip (s.holding c).toDlmsServerSettings) {key : GxByteBuffer}
    (present : s.dedicatedKey = some key) : key.size = key.capacity ∧ key.capacity.toNat ≤ 100 := by
  let c : Contents := ⟨fun _ => s.sourceSystemTitle.get 0 + 1, fun _ => 0, fun _ => 0, fun _ => 0⟩
  have held : (s.holding c).dedicatedKey = some { key with data := c.dedicatedKey } := by
    simp [RunningSettings.holding, present]
  obtain ⟨full, bytes⟩ := key_full held (all c)
  dsimp only at full bytes
  refine ⟨full, ?_⟩
  by_contra long
  have title : (srvSave Bytes.zero (s.holding c).toDlmsServerSettings).get (116 + 0) =
      s.sourceSystemTitle.get 0 := title_srvSave Bytes.zero (by omega)
  have byte := bytes 100 (by rw [full]; omega)
  rw [title] at byte
  simp [c] at byte

/-- A challenge that comes back is what the record holds from its member on. -/
theorem challenge_bytes {s : DlmsServerSettings} {stack : SvrSettings} {b c : GxByteBuffer}
    {pos : Nat} (empty : b.Empty) (same : GxByteBuffer.SameBytes c (loadBuffer b (srvSave stack s) pos))
    (stored : Store.assign pos 4 c.capacity.toNat ∈ saveStores s)
    (sized : c.Sized) {k : Nat} (inUse : k < c.size.toNat) :
    (srvSave stack s).get (pos + 12 + k) = c.data k := by
  have capacity : word (srvSave stack s) pos = c.capacity := word_srvSave stack stored
  have allocated : k < c.capacity.toNat := Nat.lt_of_lt_of_le inUse sized.size_le
  rw [← same.bytes k inUse, data_loadBuffer empty _ pos (by rwa [capacity])]

theorem ctoS_short (all : ∀ c, RoundTrip (s.holding c).toDlmsServerSettings) :
    s.ctoSChallenge.size.toNat ≤ 100 := by
  let c : Contents := ⟨fun _ => 0, fun _ => 0,
    fun _ => numberByte s.stoCChallenge.capacity.toNat 0 + 1, fun _ => 0⟩
  by_contra long
  have byte := challenge_bytes freshSettings.ctoSEmpty (all c).loaded.ctoSChallenge
    (by simp [saveStores, laterStores, bufferStores]) (s.holding c).ctoSSized
    (k := 100) (by simp only [RunningSettings.holding]; omega)
  have stored : Store.assign 2272 4 s.stoCChallenge.capacity.toNat ∈
      saveStores (s.holding c).toDlmsServerSettings := by
    simp [saveStores, laterStores, bufferStores, RunningSettings.holding]
  have next : (srvSave Bytes.zero (s.holding c).toDlmsServerSettings).get 2272 =
      numberByte s.stoCChallenge.capacity.toNat 0 :=
    first_srvSave Bytes.zero stored (by omega)
  rw [next] at byte
  simp [RunningSettings.holding, c] at byte

theorem stoC_short (all : ∀ c, RoundTrip (s.holding c).toDlmsServerSettings) :
    s.stoCChallenge.size.toNat ≤ 100 := by
  let c : Contents := ⟨fun _ => 0, fun _ => 0, fun _ => 0,
    fun _ => numberByte s.senderFrame.toNat 0 + 1⟩
  by_contra long
  have byte := challenge_bytes freshSettings.stoCEmpty (all c).loaded.stoCChallenge
    (by simp [saveStores, laterStores, bufferStores]) (s.holding c).stoCSized
    (k := 100) (by simp only [RunningSettings.holding]; omega)
  have stored : Store.assign 2384 1 s.senderFrame.toNat ∈
      saveStores (s.holding c).toDlmsServerSettings := by
    simp [saveStores, laterStores, RunningSettings.holding]
  have next : (srvSave Bytes.zero (s.holding c).toDlmsServerSettings).get 2384 =
      numberByte s.senderFrame.toNat 0 :=
    first_srvSave Bytes.zero stored (by omega)
  rw [next] at byte
  simp [RunningSettings.holding, c] at byte

/-- Settings are saved and loaded back, whatever their buffers hold, exactly when the copies end
inside the record and the bytes in use inside their members. -/
theorem session_record_iff (s : RunningSettings) :
    (∀ c, RoundTrip (s.holding c).toDlmsServerSettings) ↔ FitsRecord s.toDlmsServerSettings := by
  constructor
  · intro all
    have within := (all ⟨fun _ => 0, fun _ => 0, fun _ => 0, fun _ => 0⟩).1
    obtain ⟨transaction, ctoS, stoC⟩ := capacities_le within
    exact ⟨fun key present => key_short all present, transaction, ctoS, ctoS_short all, stoC,
      stoC_short all⟩
  · exact fun fits c => roundTrip_of_fits (fits.holding c)

end Converse

/-! ## The settings the record stands for -/

section Represents
open DlmsServer

def connectionCode (c : ConnectionState) : UInt32 :=
  UInt32.ofNat (c.hdlc.toNat + 2 * c.dlms.toNat + 4 * c.iec.toNat)

def authenticationCode : Authentication → UInt32
  | .none => 0
  | .low => 1
  | .high => 2
  | .highMd5 => 3
  | .highSha1 => 4
  | .highGmac => 5
  | .highSha256 => 6
  | .highEcdsa => 7

def GxByteBuffer.bytes (b : GxByteBuffer) : List UInt8 := window b.data 0 b.size.toNat

structure Represents (s : DlmsServerSettings) (t : Settings) : Prop where
  connected : s.connected = connectionCode t.connected
  authentication : s.authentication = authenticationCode t.authentication
  security : s.security = t.security.toUInt32
  sourceSystemTitle : ∀ k : Fin 8, s.sourceSystemTitle k = t.sourceSystemTitle[k]
  ctoSChallenge : s.ctoSChallenge.bytes = t.ctoSChallenge
  stoCChallenge : s.stoCChallenge.bytes = t.stoCChallenge
  serverAddress : s.serverAddress = t.serverAddress
  clientAddress : s.clientAddress = t.clientAddress
  negotiatedConformance : s.negotiatedConformance = t.negotiatedConformance
  maxPduSize : s.maxPduSize = t.maxPduSize

theorem GxByteBuffer.SameBytes.bytes_eq {b c : GxByteBuffer} (same : b.SameBytes c) :
    c.bytes = b.bytes := by
  rw [GxByteBuffer.bytes, same.size]
  apply window_congr
  intro k inUse
  rw [Nat.zero_add]
  exact same.bytes k inUse

theorem GxByteBuffer.Empty.bytes_eq {b : GxByteBuffer} (empty : b.Empty) : b.bytes = [] := by
  rw [GxByteBuffer.bytes, empty.2]
  rfl

theorem restoreBytes_nil (saved : List UInt8) : restoreBytes [] saved = saved :=
  List.take_length

/-- While the buffers fit, saving and loading the record is saving and loading the session. -/
theorem represents_srvLoad {s : RunningSettings} {t f : Settings} (stack : SvrSettings)
    (fresh : FreshSettings) (fits : FitsRecord s.toDlmsServerSettings)
    (saved : Represents s.toDlmsServerSettings t) (first : Represents fresh.toDlmsServerSettings f) :
    Represents (SessionRecord.srvLoad fresh.toDlmsServerSettings
        (SessionRecord.srvSave stack s.toDlmsServerSettings))
      (DlmsServer.srvLoad f (DlmsServer.srvSave t)) := by
  have restored := (roundTrip_of_fits fits).2 stack fresh
  have ctoSEmpty : f.ctoSChallenge = [] := by
    rw [← first.ctoSChallenge, fresh.ctoSEmpty.bytes_eq]
  have stoCEmpty : f.stoCChallenge = [] := by
    rw [← first.stoCChallenge, fresh.stoCEmpty.bytes_eq]
  constructor
  · exact restored.connected.trans saved.connected
  · exact restored.authentication.trans saved.authentication
  · exact restored.security.trans saved.security
  · intro k
    rw [restored.sourceSystemTitle]
    exact saved.sourceSystemTitle k
  · rw [restored.ctoSChallenge.bytes_eq, saved.ctoSChallenge]
    simp only [DlmsServer.srvLoad, DlmsServer.srvSave, ctoSEmpty, restoreBytes_nil]
  · rw [restored.stoCChallenge.bytes_eq, saved.stoCChallenge]
    simp only [DlmsServer.srvLoad, DlmsServer.srvSave, stoCEmpty, restoreBytes_nil]
  · exact restored.serverAddress.trans saved.serverAddress
  · exact restored.clientAddress.trans saved.clientAddress
  · exact restored.negotiatedConformance.trans saved.negotiatedConformance
  · exact restored.maxPduSize.trans saved.maxPduSize

end Represents

section LongWrite

def fullBuffer (size : UInt32) : GxByteBuffer := ⟨fun _ => 0, size, size, 0⟩

theorem sized_fullBuffer {size : UInt32} (small : size.toNat < 2 ^ 31) : (fullBuffer size).Sized :=
  GxByteBuffer.owned_of_lt (b := fullBuffer size) small

/-- The blocks of a long SET collected so far are in the transaction buffer. -/
def collecting (size : UInt32) (small : size.toNat < 2 ^ 31) : RunningSettings where
  toDlmsServerSettings :=
    { freshSettings.toDlmsServerSettings with
      dedicatedKey := some (fullBuffer 16)
      command := 0xC1
      transaction := fullBuffer size
      connected := 2
      authentication := 5
      ctoSChallenge := fullBuffer 16
      stoCChallenge := fullBuffer 16 }
  keySized := by
    intro key present
    cases present
    exact sized_fullBuffer (by decide)
  transactionSized := sized_fullBuffer small
  ctoSSized := sized_fullBuffer (by decide)
  stoCSized := sized_fullBuffer (by decide)

theorem long_write_leaves_record : ¬ ∀ s : RunningSettings, RoundTrip s.toDlmsServerSettings := by
  intro all
  have within := (all (collecting 3000 (by decide))).1
  exact absurd (capacities_le within).1 (by simp [collecting, fullBuffer])

theorem short_write_restored :
    FitsRecord (collecting 1000 (by decide)).toDlmsServerSettings ∧
      ∀ c, RoundTrip ((collecting 1000 (by decide)).holding c).toDlmsServerSettings := by
  have fits : FitsRecord (collecting 1000 (by decide)).toDlmsServerSettings := by
    refine ⟨?_, ?_, ?_, ?_, ?_, ?_⟩
    · intro key present
      cases present
      decide
    all_goals simp [collecting, fullBuffer]
  exact ⟨fits, (session_record_iff (collecting 1000 (by decide))).mpr fits⟩

end LongWrite
end DlmsGateway.SessionRecord
