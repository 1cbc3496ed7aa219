import DlmsGateway.Server.Settings
import Mathlib.Data.List.Basic
import Mathlib.Tactic.SplitIfs

/-!
# The target of a frame

`svr_isTarget` with the security expectations that it puts into the settings: those of the
association of the client, before it looks at the server's address.  A pointer is a number here;
the buffer of a client's system title is known by the place of its bytes.

`oa_getObjects` collects the objects of a type in an array with six places, and leaves out what
has no place there.
-/
set_option autoImplicit false
namespace DlmsGateway.TargetCheck

/-! ## The objects -/

structure SecuritySetup where
  /-- The place of the bytes of `clientSystemTitle`. -/
  titleData : Option Nat
  titleSize : Nat
  securitySuite : UInt8
  securityPolicy : UInt8

structure Association where
  clientSAP : Int8
  conformance : UInt32
  securitySetup : Option Nat

inductive Object where
  | association (a : Association)
  /-- The `id` of each item of `sapAssignmentList`. -/
  | sapAssignment (ids : List UInt16)
  | other

structure Device where
  objects : List Object
  securitySetup : Nat → SecuritySetup
  /-- The address of `securitySetupHighGMac`, and of its `minimumInvocationCounter`. -/
  securitySetupHighGMac : Nat
  minimumInvocationCounter : Nat
  serialNumber : UInt32

structure Settings where
  proposedConformance : UInt32
  expectedClientSystemTitle : Option Nat
  expectedInvocationCounter : Option Nat
  expectedSecuritySuite : UInt8
  expectedSecurityPolicy : UInt8
  serverAddress : UInt32

namespace Device
variable (d : Device)

def associations : List Association :=
  (d.objects.filterMap fun
    | .association a => some a
    | _ => none).take 6

def sapAssignments : List (List UInt16) :=
  (d.objects.filterMap fun
    | .sapAssignment ids => some ids
    | _ => none).take 6

/-- `SERIAL_NUMBER % 10000 + 1000` -/
def ownAddress : UInt32 := d.serialNumber % 10000 + 1000

/-- `clientSAP` is signed, so that a negative one is no client's. -/
def clientAssociation (clientAddress : UInt16) : Option Association :=
  d.associations.find? fun a => a.clientSAP.toInt = clientAddress.toNat

end Device

/-! ## `svr_isTarget` -/

def Settings.expect (s : Settings) (d : Device) (a : Association) : Settings :=
  let s := { s with
    proposedConformance := a.conformance
    expectedClientSystemTitle := none
    expectedInvocationCounter := none
    expectedSecuritySuite := 0
    expectedSecurityPolicy := 0xFF }
  match a.securitySetup with
  | none => s
  | some pointer =>
      let setup := d.securitySetup pointer
      let s := if setup.titleSize = 8 then
          { s with expectedClientSystemTitle := setup.titleData }
        else s
      let s := if pointer = d.securitySetupHighGMac then
          { s with expectedInvocationCounter := some d.minimumInvocationCounter }
        else s
      let s := { s with expectedSecuritySuite := setup.securitySuite }
      if setup.securityPolicy ≠ 0 then { s with expectedSecurityPolicy := setup.securityPolicy }
      else s

def broadcast (serverAddress : UInt32) : Bool :=
  serverAddress &&& 0x3FFF = 0x3FFF || serverAddress &&& 0x7F = 0x7F

/-- The server address with one byte, or with two bytes. -/
def isLogicalDevice (serverAddress : UInt32) (id : UInt16) : Bool :=
  (serverAddress &&& 0xFFFFFF00 = 0 && serverAddress &&& 0x7F = id.toUInt32) ||
    (serverAddress &&& 0xFFFF0000 = 0 && serverAddress &&& 0x7FFF = id.toUInt32)

section Search
variable (serverAddress : UInt32)

def searchItems : List UInt16 → Bool
  | [] => false
  | id :: ids => if isLogicalDevice serverAddress id then true else searchItems ids

/-- The loop over the SAP assignment objects, of which there are `size`. -/
def searchAssignments (size : Nat) : List (List UInt16) → Bool
  | [] => false
  | ids :: rest =>
      let empty := size = 1 ∧ ids.length = 0
      if empty ∨ searchItems serverAddress ids then true else searchAssignments size rest

def Device.sapAssigned (d : Device) : Bool :=
  d.sapAssignments.length = 0 ||
    searchAssignments serverAddress d.sapAssignments.length d.sapAssignments

end Search

def svrIsTarget (d : Device) (s : Settings) (serverAddress : UInt32) (clientAddress : UInt16) :
    Settings × Bool :=
  match d.clientAssociation clientAddress with
  | none => (s, false)
  | some a =>
      let s := s.expect d a
      let ret := broadcast serverAddress || serverAddress &&& 0x3FFF = d.ownAddress ||
        d.sapAssigned serverAddress
      (if broadcast serverAddress then { s with serverAddress := d.ownAddress } else s, ret)

/-! ## Whose address it is -/

/-- The address is a broadcast, is that of the serial number, or is a logical device of the SAP
assignment; without any item every address is the meter's. -/
def Device.Addressed (d : Device) (serverAddress : UInt32) : Prop :=
  broadcast serverAddress = true ∨ serverAddress &&& 0x3FFF = d.ownAddress ∨
    d.sapAssignments = [] ∨ d.sapAssignments = [[]] ∨
      ∃ ids ∈ d.sapAssignments, ∃ id ∈ ids, isLogicalDevice serverAddress id = true

/-- The settings have what is expected of a client of the association already. -/
structure Settings.Expects (s : Settings) (d : Device) (a : Association) : Prop where
  conformance : s.proposedConformance = a.conformance
  free : a.securitySetup = none →
    s.expectedClientSystemTitle = none ∧ s.expectedInvocationCounter = none ∧
      s.expectedSecuritySuite = 0 ∧ s.expectedSecurityPolicy = 0xFF
  secured : ∀ pointer, a.securitySetup = some pointer →
    s.expectedClientSystemTitle =
        (if (d.securitySetup pointer).titleSize = 8 then (d.securitySetup pointer).titleData
          else none) ∧
      s.expectedInvocationCounter =
        (if pointer = d.securitySetupHighGMac then some d.minimumInvocationCounter else none) ∧
      s.expectedSecuritySuite = (d.securitySetup pointer).securitySuite ∧
      s.expectedSecurityPolicy =
        (if (d.securitySetup pointer).securityPolicy ≠ 0 then
          (d.securitySetup pointer).securityPolicy else 0xFF)

section Target
variable {d : Device} {serverAddress : UInt32}

theorem searchItems_iff (ids : List UInt16) :
    searchItems serverAddress ids = true ↔
      ∃ id ∈ ids, isLogicalDevice serverAddress id = true := by
  induction ids with
  | nil => simp [searchItems]
  | cons id ids ih =>
      rw [searchItems]
      by_cases here : isLogicalDevice serverAddress id = true
      · simp [here]
      · rw [if_neg here, ih]
        simp [here]

theorem searchAssignments_iff (size : Nat) (assignments : List (List UInt16)) :
    searchAssignments serverAddress size assignments = true ↔
      ∃ ids ∈ assignments, (size = 1 ∧ ids = []) ∨
        ∃ id ∈ ids, isLogicalDevice serverAddress id = true := by
  induction assignments with
  | nil => simp [searchAssignments]
  | cons ids rest ih =>
      have first : ((size = 1 ∧ ids.length = 0) ∨ searchItems serverAddress ids = true) ↔
          (size = 1 ∧ ids = []) ∨ ∃ id ∈ ids, isLogicalDevice serverAddress id = true := by
        rw [searchItems_iff, List.length_eq_zero_iff]
      rw [searchAssignments, List.exists_mem_cons_iff, ← first, ← ih]
      by_cases here : (size = 1 ∧ ids.length = 0) ∨ searchItems serverAddress ids = true
      · rw [if_pos here]
        exact iff_of_true rfl (.inl here)
      · rw [if_neg here, or_iff_right here]

theorem sapAssigned_iff : d.sapAssigned serverAddress = true ↔
    d.sapAssignments = [] ∨ d.sapAssignments = [[]] ∨
      ∃ ids ∈ d.sapAssignments, ∃ id ∈ ids, isLogicalDevice serverAddress id = true := by
  rw [Device.sapAssigned, Bool.or_eq_true, decide_eq_true_eq, searchAssignments_iff,
    List.length_eq_zero_iff]
  constructor
  · rintro (none_ | ⟨ids, member, ⟨one, empty⟩ | found⟩)
    · exact .inl none_
    · obtain ⟨only, single⟩ := List.length_eq_one_iff.mp one
      rw [single, List.mem_singleton] at member
      exact .inr (.inl (by rw [single, ← member, empty]))
    · exact .inr (.inr ⟨ids, member, found⟩)
  · rintro (none_ | single | ⟨ids, member, found⟩)
    · exact .inl none_
    · right
      rw [single]
      exact ⟨[], List.mem_singleton_self _, .inl ⟨rfl, rfl⟩⟩
    · exact .inr ⟨ids, member, .inr found⟩

theorem addressed_iff : d.Addressed serverAddress ↔
    (broadcast serverAddress || serverAddress &&& 0x3FFF = d.ownAddress ||
      d.sapAssigned serverAddress) = true := by
  rw [Bool.or_eq_true, Bool.or_eq_true, decide_eq_true_eq, sapAssigned_iff, or_assoc]
  rfl

theorem svrIsTarget_snd (d : Device) (s : Settings) (serverAddress : UInt32)
    (clientAddress : UInt16) :
    (svrIsTarget d s serverAddress clientAddress).2 = true ↔
      (d.clientAssociation clientAddress).isSome ∧ d.Addressed serverAddress := by
  rw [svrIsTarget, addressed_iff]
  cases d.clientAssociation clientAddress with
  | none => simp
  | some a => simp

end Target

/-! ## What is expected -/

section Expect
variable {s : Settings} {d : Device} {a : Association}

theorem Settings.expect_free (free : a.securitySetup = none) :
    s.expect d a = { s with
      proposedConformance := a.conformance
      expectedClientSystemTitle := none
      expectedInvocationCounter := none
      expectedSecuritySuite := 0
      expectedSecurityPolicy := 0xFF } := by
  rw [Settings.expect, free]

theorem Settings.expect_secured {pointer : Nat} (secured : a.securitySetup = some pointer) :
    s.expect d a = { s with
      proposedConformance := a.conformance
      expectedClientSystemTitle :=
        if (d.securitySetup pointer).titleSize = 8 then
          (d.securitySetup pointer).titleData else none
      expectedInvocationCounter :=
        if pointer = d.securitySetupHighGMac then some d.minimumInvocationCounter else none
      expectedSecuritySuite := (d.securitySetup pointer).securitySuite
      expectedSecurityPolicy :=
        if (d.securitySetup pointer).securityPolicy ≠ 0 then
          (d.securitySetup pointer).securityPolicy else 0xFF } := by
  rw [Settings.expect, secured]
  dsimp only
  split_ifs <;> rfl

theorem Settings.eq_iff_expectations {t : Settings} (address : t.serverAddress = s.serverAddress) :
    t = s ↔ s.proposedConformance = t.proposedConformance ∧
      s.expectedClientSystemTitle = t.expectedClientSystemTitle ∧
      s.expectedInvocationCounter = t.expectedInvocationCounter ∧
      s.expectedSecuritySuite = t.expectedSecuritySuite ∧
      s.expectedSecurityPolicy = t.expectedSecurityPolicy := by
  constructor
  · intro same
    subst same
    exact ⟨rfl, rfl, rfl, rfl, rfl⟩
  · intro ⟨conformance, title, counter, suite, policy⟩
    cases s
    cases t
    dsimp only at address conformance title counter suite policy
    rw [address, conformance, title, counter, suite, policy]

theorem Settings.expect_eq_self_iff : s.expect d a = s ↔ s.Expects d a := by
  cases setup : a.securitySetup with
  | none =>
      rw [expect_free setup]
      refine Iff.trans (Settings.eq_iff_expectations ?_) ?_
      · rfl
      constructor
      · intro ⟨conformance, free⟩
        refine ⟨conformance, fun _ => free, ?_⟩
        intro pointer secured
        rw [setup] at secured
        cases secured
      · intro expects
        exact ⟨expects.conformance, expects.free setup⟩
  | some pointer =>
      rw [expect_secured setup]
      refine Iff.trans (Settings.eq_iff_expectations ?_) ?_
      · rfl
      constructor
      · intro ⟨conformance, fields⟩
        refine ⟨conformance, ?_, ?_⟩
        · intro free
          rw [setup] at free
          cases free
        · intro other secured
          rw [setup] at secured
          cases secured
          exact fields
      · intro expects
        exact ⟨expects.conformance, expects.secured pointer setup⟩

end Expect

/-! ## The conformance in the session -/

section Session
open DlmsServer (CosemObject Server)
variable {σ : Type} {d : Device} {s : Settings}

/-- The client and the conformance of each association, in order. -/
def clients (objects : List CosemObject) : List (Int × UInt32) :=
  objects.filterMap fun
    | .association a => some (a.clientSAP.toNat, a.conformance)
    | .other .. => none

def Device.clients (d : Device) : List (Int × UInt32) :=
  d.associations.map fun a => (a.clientSAP.toInt, a.conformance)

def conformanceOf (clients : List (Int × UInt32)) (clientAddress : UInt16) : Option UInt32 :=
  (clients.find? fun p => p.1 = (clientAddress.toNat : Int)).map Prod.snd

theorem conformance_svrIsTarget (serverAddress : UInt32) (clientAddress : UInt16) :
    (svrIsTarget d s serverAddress clientAddress).1.proposedConformance =
      (conformanceOf d.clients clientAddress).getD s.proposedConformance := by
  have found : conformanceOf d.clients clientAddress =
      (d.clientAssociation clientAddress).map Association.conformance := by
    rw [conformanceOf, Device.clients, List.find?_map, Option.map_map]
    rfl
  rw [svrIsTarget, found]
  cases d.clientAssociation clientAddress with
  | none => rfl
  | some a =>
      have expected : (s.expect d a).proposedConformance = a.conformance := by
        cases setup : a.securitySetup with
        | none => rw [Settings.expect_free setup]
        | some pointer => rw [Settings.expect_secured setup]
      dsimp only
      split
      · exact expected
      · exact expected

theorem conformance_server (server : Server σ) :
    server.svrIsTarget.settings.proposedConformance =
      (conformanceOf (clients server.device.objects) server.settings.clientAddress).getD
        server.settings.proposedConformance := by
  rw [Server.svrIsTarget]
  generalize server.device.objects = objects
  induction objects with
  | nil => rfl
  | cons o objects ih =>
      cases o with
      | other objectType logicalName methodCount => exact ih
      | association a =>
          by_cases here : a.clientSAP = server.settings.clientAddress
          · have address : (a.clientSAP.toNat : Int) = server.settings.clientAddress.toNat := by
              rw [here]
            simp [clients, conformanceOf, here]
          · have address : ¬ (a.clientSAP.toNat : Int) = server.settings.clientAddress.toNat :=
              fun same => here (UInt16.toNat_inj.mp (Int.ofNat_inj.mp same))
            rw [List.find?_cons_of_neg (by simpa using here), ih, conformanceOf, conformanceOf]
            simp [clients, address]

/-- With the same associations the session proposes the conformance that is expected here. -/
theorem session_isTarget (server : Server σ) (same : clients server.device.objects = d.clients)
    (proposed : server.settings.proposedConformance = s.proposedConformance)
    (serverAddress : UInt32) :
    server.svrIsTarget.settings.proposedConformance =
      (svrIsTarget d s serverAddress server.settings.clientAddress).1.proposedConformance := by
  rw [conformance_server, conformance_svrIsTarget, same, proposed]

end Session

/-! ## A frame for someone else -/

def KeepsForeign (d : Device) (s : Settings) (serverAddress : UInt32) (clientAddress : UInt16) :
    Prop :=
  (svrIsTarget d s serverAddress clientAddress).2 = false →
    (svrIsTarget d s serverAddress clientAddress).1 = s

/-- A frame that is refused leaves the settings exactly if the client belongs to no association,
or the settings have the expectations of its association already; an address of the meter is
not refused then. -/
theorem keepsForeign_iff (d : Device) (s : Settings) (serverAddress : UInt32)
    (clientAddress : UInt16) :
    KeepsForeign d s serverAddress clientAddress ↔
      ∀ a, d.clientAssociation clientAddress = some a →
        d.Addressed serverAddress ∨ s.Expects d a := by
  unfold KeepsForeign
  cases found : d.clientAssociation clientAddress with
  | none =>
      have unchanged : (svrIsTarget d s serverAddress clientAddress).1 = s := by
        rw [svrIsTarget, found]
      refine iff_of_true (fun _ => unchanged) ?_
      intro a other
      cases other
  | some a =>
      have answer := svrIsTarget_snd d s serverAddress clientAddress
      rw [found, Option.isSome_some, eq_self, true_and] at answer
      by_cases addressed : d.Addressed serverAddress
      · rw [answer.mpr addressed]
        refine iff_of_true nofun ?_
        intro _ _
        exact .inl addressed
      · have refused : (svrIsTarget d s serverAddress clientAddress).2 = false := by
          rw [← Bool.not_eq_true, answer]
          exact addressed
        have single : broadcast serverAddress ≠ true := fun every => addressed (.inl every)
        have settings : (svrIsTarget d s serverAddress clientAddress).1 = s.expect d a := by
          rw [svrIsTarget, found]
          dsimp only
          rw [if_neg single]
        rw [settings, Settings.expect_eq_self_iff]
        constructor
        · intro keeps other same
          cases same
          exact .inr (keeps refused)
        · intro expects _
          exact (expects a rfl).resolve_left addressed

/-- The associations and the logical device of the meter, with the security setup objects at 1
and 2. -/
def meter : Device where
  objects := [.association ⟨0x10, 0x180000, none⟩, .association ⟨0x11, 0xB87800, none⟩,
    .association ⟨0x12, 0xB87800, some 1⟩, .association ⟨0x1, 0xB87800, some 2⟩,
    .sapAssignment [1]]
  securitySetup pointer := ⟨some (10 * pointer), 8, 0, if pointer = 2 then 3 else 0⟩
  securitySetupHighGMac := 2
  minimumInvocationCounter := 21
  serialNumber := 1234

/-- The client without authentication asks for the logical device 2 while the settings have the
expectations of the association with the ciphered connection. -/
theorem foreign_frame_relaxes :
    ¬ KeepsForeign meter ⟨0xB87800, some 20, some 21, 0, 3, 1⟩ 2 0x10 := by
  intro keeps
  have policy := congrArg Settings.expectedSecurityPolicy (keeps (by decide))
  exact absurd policy (by decide)

end DlmsGateway.TargetCheck
