import DlmsGateway.Server.AttributeAccess

/-!
# For whom the access is decided

An access is decided when no path ends without a `return`: the mode is the same whatever the
caller sees then.  The functions of the classes are a table here, which `svr_getAttributeAccess`
goes through from the front.
-/
set_option autoImplicit false
namespace DlmsGateway.DlmsServer

/-- Every path returns a mode, and one that allows to write is for the management client, and for
another attribute than the logical name. -/
structure AccessClosed (clientAddress : UInt16) (index : UInt8) (access : AccessMode → AccessMode) :
    Prop where
  total : ∃ mode, ∀ undefined, access undefined = mode
  bounded : ∀ undefined, (access undefined).Writable →
    clientAddress = managementClient ∧ index ≠ 1

/-- The classes whose function looks at the client's address. -/
def clientClasses : List ObjectType :=
  [objectTypeAssociationLogicalName, objectTypeProfileGeneric, objectTypePushSetup,
    objectTypeActionSchedule, objectTypeScriptTable, objectTypeRegister, objectTypeData,
    objectTypeIecHdlcSetup, objectTypeSecuritySetup, objectTypeClock, objectTypeImageTransfer,
    objectTypeIecLocalPortSetup, objectTypeTcpUdpSetup, objectTypeIp4Setup, objectTypePppSetup,
    objectTypeAutoConnect, objectTypeGprsSetup, objectTypeModemConfiguration,
    objectTypeAutoAnswer]

/-- The public client, the management client but for attribute 0 of the local port setup, and
every client for a class that has no function or one without a case for the client. -/
def AccessAnswered (clientAddress : UInt16) (objectType : ObjectType) (index : UInt8) : Prop :=
  clientAddress = publicClient ∨
    (clientAddress = managementClient ∧
      ¬ (objectType = objectTypeIecLocalPortSetup ∧ index = 0)) ∨
    objectType ∉ clientClasses

/-! ## The functions as a table -/

abbrev AccessTable := List (ObjectType × (AccessMode → AccessMode))

def AccessTable.answer (table : AccessTable) (objectType : ObjectType) (undefined : AccessMode) :
    AccessMode :=
  match table.lookup objectType with
  | some access => access undefined
  | none => .none

section Table
variable (clientAddress : UInt16) (ln : LogicalName) (index : UInt8)

def accessTable : AccessTable :=
  [(objectTypeAssociationLogicalName, (getAssociationAttributeAccess · clientAddress index)),
    (objectTypeProfileGeneric, (getProfileGenericAttributeAccess · clientAddress ln index)),
    (objectTypePushSetup, (getPushSetupAttributeAccess · clientAddress index)),
    (objectTypeActionSchedule, (getActionSchduleAttributeAccess · clientAddress ln index)),
    (objectTypeScriptTable, (getScriptTableAttributeAccess · clientAddress ln index)),
    (objectTypeRegister, (getRegisterAttributeAccess · clientAddress ln index)),
    (objectTypeData, (getDataAttributeAccess · clientAddress ln index)),
    (objectTypeIecHdlcSetup, (getHdlcSetupAttributeAccess · clientAddress index)),
    (objectTypeSecuritySetup, (getSecuritySetupAttributeAccess · clientAddress ln index)),
    (objectTypeActivityCalendar, fun _ => getActivityCalendarAttributeAccess),
    (objectTypeClock, (getClockAttributeAccess · clientAddress index)),
    (objectTypeImageTransfer, (getImageTransferAttributeAccess · clientAddress index)),
    (objectTypeIecLocalPortSetup, (getIecLocalPortSetupAttributeAccess · clientAddress index)),
    (objectTypeTcpUdpSetup, (getTcpUdpSetupAttributeAccess · clientAddress index)),
    (objectTypeIp4Setup, (getIp4SetupAttributeAccess · clientAddress index)),
    (objectTypePppSetup, (getPppSetupAttributeAccess · clientAddress index)),
    (objectTypeAutoConnect, (getAutoConnectAttributeAccess · clientAddress index)),
    (objectTypeGprsSetup, (getGprsSetupAttributeAccess · clientAddress index)),
    (objectTypeModemConfiguration, (getModemConfigurationAttributeAccess · clientAddress index)),
    (objectTypeAutoAnswer, (getAutoAnswerAttributeAccess · clientAddress index))]

theorem answer_cons (objectType other : ObjectType) (access : AccessMode → AccessMode)
    (table : AccessTable) (undefined : AccessMode) :
    AccessTable.answer ((objectType, access) :: table) other undefined =
      if other = objectType then access undefined else table.answer other undefined := by
  by_cases same : other = objectType
  · rw [if_pos same, same, AccessTable.answer, List.lookup_cons_self]
  · have apart : (other == objectType) = false := beq_eq_false_iff_ne.mpr same
    rw [if_neg same, AccessTable.answer, AccessTable.answer, List.lookup_cons, apart]

theorem svrGetAttributeAccess_eq (undefined : AccessMode) (o : CosemObject) :
    svrGetAttributeAccess undefined clientAddress o index =
      (accessTable clientAddress o.logicalName index).answer o.objectType undefined := by
  simp only [accessTable, answer_cons]
  rfl

end Table

/-! ## One function -/

/-- The public client does not write, and nobody the logical name; `open_` is the attribute without
a branch for the management client. -/
structure ByClient (open_ : Prop) (clientAddress : UInt16) (index : UInt8)
    (access : AccessMode → AccessMode) : Prop where
  toPublic : ∃ mode : AccessMode, ¬ mode.Writable ∧
    (clientAddress = publicClient → ∀ undefined, access undefined = mode)
  toManagement : ∃ mode : AccessMode, (index = 1 → ¬ mode.Writable) ∧
    (clientAddress = managementClient → ¬ open_ → ∀ undefined, access undefined = mode)
  left : clientAddress = managementClient → open_ → ∀ undefined, access undefined = undefined
  other : clientAddress ≠ publicClient → clientAddress ≠ managementClient →
    ∀ undefined, access undefined = undefined

section Access
variable {clientAddress : UInt16} {index : UInt8} {access : AccessMode → AccessMode}

theorem not_closed_of_undefined (free : ∀ undefined, access undefined = undefined) :
    ¬ AccessClosed clientAddress index access := by
  rintro ⟨⟨mode, same⟩, -⟩
  have none_ := (free .none).symm.trans (same .none)
  have read := (free .read).symm.trans (same .read)
  exact absurd (none_.trans read.symm) (by decide)

theorem public_ne_management : publicClient ≠ managementClient := by decide

theorem closed_iff_of_byClient {open_ : Prop} (shape : ByClient open_ clientAddress index access) :
    AccessClosed clientAddress index access ↔
      clientAddress = publicClient ∨ (clientAddress = managementClient ∧ ¬ open_) := by
  by_cases toPublic : clientAddress = publicClient
  · obtain ⟨mode, refused, answers⟩ := shape.toPublic
    refine iff_of_true ⟨⟨mode, answers toPublic⟩, ?_⟩ (.inl toPublic)
    intro undefined writable
    rw [answers toPublic undefined] at writable
    exact absurd writable refused
  rw [or_iff_right toPublic]
  by_cases toManagement : clientAddress = managementClient
  · rw [and_iff_right toManagement]
    by_cases left : open_
    · exact iff_of_false (not_closed_of_undefined (shape.left toManagement left))
        (not_not.mpr left)
    · obtain ⟨mode, refused, answers⟩ := shape.toManagement
      refine iff_of_true ⟨⟨mode, answers toManagement left⟩, ?_⟩ left
      intro undefined writable
      rw [answers toManagement left undefined] at writable
      exact ⟨toManagement, fun name => refused name writable⟩
  · exact iff_of_false (not_closed_of_undefined (shape.other toPublic toManagement))
      fun ⟨client, _⟩ => toManagement client

theorem byClient_of_answers {open_ : Prop} (closed : ¬ open_) {toPublic toManagement : AccessMode}
    (refused : ¬ toPublic.Writable) (name : index = 1 → ¬ toManagement.Writable) :
    ByClient open_ clientAddress index (byClient clientAddress toPublic toManagement ·) where
  toPublic := ⟨toPublic, refused, fun client _ => if_pos client⟩
  toManagement := by
    refine ⟨toManagement, name, ?_⟩
    rintro rfl _ _
    rfl
  left := fun _ left => absurd left closed
  other := by
    intro notPublic notManagement undefined
    rw [byClient, if_neg notPublic, if_neg notManagement]

theorem byClient_setup {open_ : Prop} (closed : ¬ open_) :
    ByClient open_ clientAddress index (setupAttributeAccess · clientAddress index) := by
  refine byClient_of_answers closed AccessMode.not_writable_none ?_
  intro name
  rw [if_pos name]
  exact AccessMode.not_writable_read

theorem byClient_iecLocalPortSetup {open_ : Prop} (zero : open_ ↔ index = 0) :
    ByClient open_ clientAddress index (getIecLocalPortSetupAttributeAccess · clientAddress index)
    where
  toPublic := ⟨.none, AccessMode.not_writable_none, fun client _ => if_pos client⟩
  toManagement := by
    refine ⟨if index = 1 then .read else if index ≤ 6 then .readWrite else .write, ?_, ?_⟩
    · intro name
      rw [if_pos name]
      exact AccessMode.not_writable_read
    · rintro rfl some_ undefined
      rw [zero] at some_
      rw [getIecLocalPortSetupAttributeAccess, byClient, if_neg public_ne_management.symm,
        if_pos rfl]
      by_cases name : index = 1
      · rw [if_pos name, if_pos name]
      · have behind : 2 ≤ index := by grind
        rw [if_neg name, if_neg name]
        by_cases early : index ≤ 6
        · rw [if_pos ⟨behind, early⟩, if_pos early]
        · rw [if_neg (fun both => early both.2), if_neg early, if_pos (by grind)]
  left := by
    rintro rfl left undefined
    rw [zero.mp left]
    rfl
  other := by
    intro notPublic notManagement undefined
    rw [getIecLocalPortSetupAttributeAccess, byClient, if_neg notPublic, if_neg notManagement]

end Access

/-! ## Every function -/

section Classes
variable (clientAddress : UInt16) (ln : LogicalName) (index : UInt8)

/-- A function of the table is that of the activity calendar or looks at the client's address. -/
def Listed (entry : ObjectType × (AccessMode → AccessMode)) : Prop :=
  (entry.1 = objectTypeActivityCalendar ∧ ∀ undefined, entry.2 undefined = .none) ∨
    (entry.1 ∈ clientClasses ∧
      ByClient (entry.1 = objectTypeIecLocalPortSetup ∧ index = 0) clientAddress index entry.2)

theorem listed_of_answers {objectType : ObjectType} (member : objectType ∈ clientClasses)
    (apart : objectType ≠ objectTypeIecLocalPortSetup) {toPublic toManagement : AccessMode}
    (refused : ¬ toPublic.Writable) (name : index = 1 → ¬ toManagement.Writable) :
    Listed clientAddress index (objectType, (byClient clientAddress toPublic toManagement ·)) :=
  .inr ⟨member, byClient_of_answers (fun both => apart both.1) refused name⟩

theorem listed_setup {objectType : ObjectType} (member : objectType ∈ clientClasses)
    (apart : objectType ≠ objectTypeIecLocalPortSetup) :
    Listed clientAddress index (objectType, (setupAttributeAccess · clientAddress index)) :=
  .inr ⟨member, byClient_setup fun both => apart both.1⟩

open AccessMode

theorem accessTable_listed :
    ∀ entry ∈ accessTable clientAddress ln index, Listed clientAddress index entry := by
  have setup {objectType : ObjectType} := @listed_setup clientAddress index objectType
  simp only [accessTable, List.forall_mem_cons]
  refine ⟨?_, ?_, setup (by decide) (by decide), ?_, ?_, ?_, ?_, setup (by decide) (by decide),
    ?_, .inl ⟨rfl, fun _ => rfl⟩, ?_, ?_, ?_, ?_, setup (by decide) (by decide),
    setup (by decide) (by decide), setup (by decide) (by decide), setup (by decide) (by decide),
    setup (by decide) (by decide), setup (by decide) (by decide), ?_⟩
  · -- association
    refine listed_of_answers _ _ (by decide) (by decide)
      (not_writable_ite not_writable_none not_writable_read) ?_
    rintro rfl
    exact not_writable_read
  · -- profile generic
    refine listed_of_answers _ _ (by decide) (by decide) not_writable_none ?_
    rintro rfl
    exact not_writable_ite not_writable_read not_writable_none
  · -- action schedule
    refine listed_of_answers _ _ (by decide) (by decide) not_writable_none ?_
    rintro rfl
    exact not_writable_ite not_writable_read not_writable_none
  · -- script table
    refine listed_of_answers _ _ (by decide) (by decide) not_writable_none ?_
    rintro rfl
    exact not_writable_ite not_writable_read
      (not_writable_ite not_writable_read not_writable_none)
  · -- register
    refine listed_of_answers _ _ (by decide) (by decide) not_writable_none ?_
    rintro rfl
    exact not_writable_ite not_writable_none not_writable_read
  · -- data
    refine listed_of_answers _ _ (by decide) (by decide)
      (not_writable_ite not_writable_read not_writable_none) ?_
    rintro rfl
    exact not_writable_read
  · -- security setup
    refine listed_of_answers _ _ (by decide) (by decide) not_writable_none ?_
    rintro rfl
    exact not_writable_ite not_writable_read not_writable_none
  · -- clock
    refine listed_of_answers _ _ (by decide) (by decide) not_writable_none ?_
    rintro rfl
    exact not_writable_read
  · -- image transfer
    refine listed_of_answers _ _ (by decide) (by decide) not_writable_none ?_
    rintro rfl
    exact not_writable_read
  · -- local port setup
    have member : objectTypeIecLocalPortSetup ∈ clientClasses := by decide
    exact .inr ⟨member, byClient_iecLocalPortSetup (and_iff_right rfl)⟩
  · -- TCP and UDP setup
    refine listed_of_answers _ _ (by decide) (by decide) not_writable_none ?_
    rintro rfl
    exact not_writable_read
  · intro entry member
    cases member

theorem lookup_clientClass {objectType : ObjectType} (member : objectType ∈ clientClasses) :
    (accessTable clientAddress ln index).lookup objectType ≠ Option.none := by
  have keys : (accessTable clientAddress ln index).map Prod.fst =
      clientClasses.take 9 ++ objectTypeActivityCalendar :: clientClasses.drop 9 := rfl
  have listed : objectType ∈ (accessTable clientAddress ln index).map Prod.fst := by
    rw [← List.take_append_drop 9 clientClasses, List.mem_append] at member
    rw [keys, List.mem_append, List.mem_cons]
    exact member.imp_right Or.inr
  obtain ⟨entry, inside, same⟩ := List.mem_map.mp listed
  intro none_
  have apart := List.lookup_eq_none_iff.mp none_ entry inside
  rw [same] at apart
  exact absurd apart (by simp)

end Classes

theorem closed_of_none (clientAddress : UInt16) (index : UInt8)
    {access : AccessMode → AccessMode} (refused : ∀ undefined, access undefined = .none) :
    AccessClosed clientAddress index access where
  total := ⟨.none, refused⟩
  bounded := by
    intro undefined writable
    rw [refused] at writable
    exact absurd writable AccessMode.not_writable_none

/-- The access of a client to an attribute is decided, and closed, exactly for the public client,
for the management client but for attribute 0 of the local port setup, and for every client with
the classes that no function looks at. -/
theorem accessClosed_iff (clientAddress : UInt16) (o : CosemObject) (index : UInt8) :
    AccessClosed clientAddress index (svrGetAttributeAccess · clientAddress o index) ↔
      AccessAnswered clientAddress o.objectType index := by
  have same (undefined : AccessMode) :=
    svrGetAttributeAccess_eq clientAddress index undefined o
  cases found : (accessTable clientAddress o.logicalName index).lookup o.objectType with
  | none =>
      have other : o.objectType ∉ clientClasses :=
        fun member => lookup_clientClass clientAddress o.logicalName index member found
      refine iff_of_true (closed_of_none _ _ fun undefined => ?_) (.inr (.inr other))
      rw [same, AccessTable.answer, found]
  | some access =>
      have there : (svrGetAttributeAccess · clientAddress o index) = access := by
        funext undefined
        rw [same, AccessTable.answer, found]
      obtain ⟨front, back, table, -⟩ := List.lookup_eq_some_iff.mp found
      have listed := accessTable_listed clientAddress o.logicalName index (o.objectType, access)
        (by rw [table]; exact List.mem_append_right front List.mem_cons_self)
      rw [there]
      obtain ⟨calendar, refused⟩ | ⟨member, shape⟩ := listed
      · have other : o.objectType ∉ clientClasses := by
          rw [show o.objectType = objectTypeActivityCalendar from calendar]
          decide
        exact iff_of_true (closed_of_none _ _ refused) (.inr (.inr other))
      · rw [closed_iff_of_byClient shape, AccessAnswered, or_iff_left (not_not.mpr member)]

/-- The client of the association with low authentication reads the logical device name. -/
theorem low_client_undecided :
    ¬ AccessClosed 0x11 2
      (svrGetAttributeAccess · 0x11 (.other objectTypeData ldn 0) 2) := by
  rintro ⟨⟨mode, same⟩, -⟩
  have none_ := same .none
  have write := same .readWrite
  exact absurd (none_.trans write.symm) (by decide)

end DlmsGateway.DlmsServer
