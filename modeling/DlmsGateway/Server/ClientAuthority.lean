import DlmsGateway.Lib.Runs
import DlmsGateway.Server.Wrapper

/-!
# The authority of a client address

What may be written is decided by the client's address alone, and a session is
open as soon as an AARQ without a high mechanism has been answered, whatever the
answer says.  A history variable keeps what the last AARQ of the session was
worth: the association object of its client, the mechanism it proposed, whether
it was accepted, and whether a reply to the challenge has been verified since.
-/
set_option autoImplicit false
namespace DlmsGateway.DlmsServer

structure AarqRecord where
  clientAddress : UInt16
  /-- The association object whose `clientSAP` is the address. -/
  association : Option Association
  mechanism : Authentication
  /-- What the secret is compared with. -/
  password : List UInt8
  accepted : Bool
  /-- A reply to the challenge has matched, for the client's association object. -/
  verified : Bool

namespace AarqRecord

def Passes (r : AarqRecord) : Authentication → Prop
  | .none => True
  | .low => ∃ a ∈ r.association, r.password = a.secret
  | _ => r.verified = true

instance (r : AarqRecord) : ∀ mechanism, Decidable (r.Passes mechanism)
  | .none => .isTrue trivial
  | .low => inferInstanceAs (Decidable (∃ a ∈ r.association, _))
  | .high | .highMd5 | .highSha1 | .highGmac | .highSha256 | .highEcdsa =>
      inferInstanceAs (Decidable (_ = true))

def OwnMechanism (r : AarqRecord) : Prop := ∃ a ∈ r.association, a.mechanismId = r.mechanism

/-- The AARQ was accepted, with the mechanism of the association object, and passed its check. -/
structure Entitles (r : AarqRecord) (clientAddress : UInt16) : Prop where
  client : r.clientAddress = clientAddress
  accepted : r.accepted = true
  mechanism : r.OwnMechanism
  passed : r.Passes r.mechanism

instance (r : AarqRecord) : Decidable r.OwnMechanism :=
  inferInstanceAs (Decidable (∃ a ∈ r.association, _))

instance (r : AarqRecord) (clientAddress : UInt16) : Decidable (r.Entitles clientAddress) :=
  decidable_of_iff
    (r.clientAddress = clientAddress ∧ r.accepted = true ∧ r.OwnMechanism ∧
      r.Passes r.mechanism)
    ⟨fun ⟨client, accepted, mechanism, passed⟩ => ⟨client, accepted, mechanism, passed⟩,
      fun entitles =>
        ⟨entitles.client, entitles.accepted, entitles.mechanism, entitles.passed⟩⟩

end AarqRecord

def AarqReply.accepts : AarqReply → Bool
  | .aare .accepted _ _ => true
  | .aare .permanentRejected _ _ | .exceptionResponse _ => false

def HlsReply.Matched : HlsReply → Prop
  | .matched _ => True
  | .failed _ | .mismatched => False

instance : ∀ reply : HlsReply, Decidable reply.Matched
  | .matched _ => .isTrue trivial
  | .failed _ | .mismatched => .isFalse id

/-- The status is `ASSOCIATED` behind the reply; one that cannot be compared leaves it as it was
`before`. -/
def ReplyAssociates (before : Prop) : Option HlsReply → Prop
  | some (.matched (.ok _)) => True
  | some .mismatched => False
  | some (.matched (.error _)) | some (.failed _) | none => before

instance (before : Prop) [Decidable before] : ∀ reply, Decidable (ReplyAssociates before reply)
  | some (.matched (.ok _)) => .isTrue trivial
  | some .mismatched => .isFalse id
  | some (.matched (.error _)) | some (.failed _) | none => inferInstanceAs (Decidable before)

section Authority
variable {σ : Type} (W : WrapperProcedures σ)

namespace Server

def aarqRecord (s : Server σ) (aarq : Aarq) : AarqRecord where
  clientAddress := s.settings.clientAddress
  association := s.clientAssociation
  mechanism := (s.settings.beginAarq.parsePdu aarq).authentication
  password := (s.settings.beginAarq.parsePdu aarq).password
  accepted := (s.svrHandleAarqRequest aarq).2.any AarqReply.accepts
  verified := false

/-- The reply matches what the client's own association object expects. -/
def OwnReply (P : Procedures σ) (s : Server σ) (r : ActionRequest) : Prop :=
  (∃ reply ∈ s.hlsReply P r, reply.Matched) ∧
    (s.methodTarget r).map Prod.snd = s.clientAssociation.map .association

/-- After the reply the object has the status `ASSOCIATED`, be it from before. -/
def LeavesAssociated (P : Procedures σ) (s : Server σ) (target : Nat) (r : ActionRequest) : Prop :=
  ReplyAssociates ((s.device.association? target).map (·.associationStatus) = some .associated)
    (s.hlsReply P r)

instance (P : Procedures σ) (s : Server σ) (r : ActionRequest) : Decidable (s.OwnReply P r) :=
  inferInstanceAs (Decidable ((∃ reply ∈ s.hlsReply P r, _) ∧ _))

instance (P : Procedures σ) (s : Server σ) (target : Nat) (r : ActionRequest) :
    Decidable (s.LeavesAssociated P target r) := inferInstanceAs (Decidable (ReplyAssociates _ _))

def noteReply (P : Procedures σ) (s : Server σ) (r : ActionRequest) (verified : Bool) : Bool :=
  if s.Negotiated conformanceAction then
    match s.hlsReply P r with
    | some (.matched _) => verified || decide (s.OwnReply P r)
    | some .mismatched => false
    | _ => verified
  else verified

end Server

def noteRequest (record : Option AarqRecord) (w : WrapperServer σ) : Command → Option AarqRecord
  | .aarq aarq =>
      let target := w.server.isTarget W
      if target.2 then some (target.1.aarqRecord aarq)
      else if target.1.settings.connected.dlms then record
      else none
  | .methodRequest (some r) =>
      record.map fun record =>
        { record with verified := w.server.noteReply W.toProcedures r record.verified }
  | .snrm parsed => if parsed then none else record
  | .disc _ => if w.server.settings.connected.hdlc then none else record
  | .releaseRequest _ => none
  | _ => record

/-- An AARQ for nobody belongs to no session. -/
def noteFrame (record : Option AarqRecord) (w : WrapperServer σ) :
    WrapperEvent → Option AarqRecord
  | .frame clientAddress serverAddress (some command) =>
      if w.server.settings.WrapperAddressMatches clientAddress serverAddress then
        noteRequest W record (w.addressed clientAddress serverAddress) command
      else record
  | .frame _ _ none => record
  | .reset => none

/-- A SET reaches `svr_preWrite` only for a client whose AARQ entitles it. -/
def Authorised (p : WrapperServer σ × Option AarqRecord) : WrapperEvent → Prop
  | .frame clientAddress serverAddress (some (.setRequest data)) =>
      p.1.server.settings.WrapperAddressMatches clientAddress serverAddress →
        (p.1.addressed clientAddress serverAddress).written W data ≠ [] →
          ∃ r ∈ p.2, r.Entitles clientAddress
  | _ => True

/-! ## The condition -/

/-- An AARQ that `svr_HandleAarqRequest` accepts, with the mechanism of the client's association
object and, for the low one, with the secret of that object, which is the one compared. -/
def Server.Acceptable (s : Server σ) (aarq : Aarq) : Prop :=
  let parsed := s.settings.beginAarq.parsePdu aarq
  (aarq.ret = .ok ∧ aarq.result = .accepted ∧ aarq.diagnostic = diagnosticNone) ∧
    (6 ≤ parsed.dlmsVersionNumber ∧ 64 ≤ parsed.maxPduSize ∧ parsed.negotiatedConformance ≠ 0) ∧
    ∃ a ∈ s.clientAssociation, a.mechanismId = parsed.authentication ∧
      (parsed.authentication = .low →
        parsed.password = a.secret ∧ a.secret = s.associationLowSecret)

/-- Address 0 stands for no client; an AARQ without a high mechanism that is answered at all is
acceptable. -/
def Server.AarqInOrder (s : Server σ) (aarq : Aarq) : Prop :=
  s.settings.clientAddress ≠ 0 ∧
    ((s.settings.beginAarq.parsePdu aarq).authentication.isHigh = false → aarq.replyBuilt = true →
      s.Acceptable aarq)

/-- A reply that opens the connection follows an accepted AARQ with the high mechanism of the
client's association object, and matches. -/
def Server.ReplyInOrder (s : Server σ) (record : Option AarqRecord) (r : ActionRequest) : Prop :=
  s.Negotiated conformanceAction → s.settings.connected.dlms = false →
    ∀ found ∈ s.methodTarget r, RepliesToHls found.2 r →
      s.LeavesAssociated W.toProcedures found.1 r →
        s.OwnReply W.toProcedures r ∧
          ∃ a ∈ record, a.accepted = true ∧ a.mechanism.isHigh = true ∧ a.OwnMechanism

def FrameInOrder (p : WrapperServer σ × Option AarqRecord) : WrapperEvent → Prop
  | .frame clientAddress serverAddress (some (.aarq aarq)) =>
      p.1.server.settings.WrapperAddressMatches clientAddress serverAddress →
        let target := (p.1.addressed clientAddress serverAddress).server.isTarget W
        target.2 = true → target.1.AarqInOrder aarq
  | .frame clientAddress serverAddress (some (.methodRequest (some r))) =>
      p.1.server.settings.WrapperAddressMatches clientAddress serverAddress →
        (p.1.addressed clientAddress serverAddress).server.ReplyInOrder W p.2 r
  | _ => True

instance (s : Server σ) (aarq : Aarq) : Decidable (s.Acceptable aarq) :=
  inferInstanceAs (Decidable (_ ∧ _ ∧ ∃ a ∈ s.clientAssociation, _))

instance (s : Server σ) (aarq : Aarq) : Decidable (s.AarqInOrder aarq) :=
  inferInstanceAs (Decidable (_ ∧ _))

instance (s : Server σ) (record : Option AarqRecord) (r : ActionRequest) :
    Decidable (s.ReplyInOrder W record r) :=
  inferInstanceAs (Decidable (_ → _ → ∀ found ∈ s.methodTarget r, _ → _ → _ ∧ ∃ a ∈ record, _))

instance (p : WrapperServer σ × Option AarqRecord) : ∀ e, Decidable (FrameInOrder W p e)
  | .frame _ _ (some (.aarq _)) => inferInstanceAs (Decidable (_ → _ → _))
  | .frame _ _ (some (.methodRequest (some _))) => inferInstanceAs (Decidable (_ → _))
  | .frame _ _ none | .frame _ _ (some (.methodRequest none)) | .frame _ _ (some (.setRequest _))
  | .frame _ _ (some (.getRequest _)) | .frame _ _ (some (.readRequest _))
  | .frame _ _ (some (.writeRequest _)) | .frame _ _ (some (.snrm _))
  | .frame _ _ (some (.releaseRequest _)) | .frame _ _ (some (.disc _))
  | .frame _ _ (some .none) | .frame _ _ (some .unknown) | .reset => .isTrue trivial

instance (p : WrapperServer σ × Option AarqRecord) : ∀ e, Decidable (Authorised W p e)
  | .frame _ _ (some (.setRequest _)) =>
      inferInstanceAs (Decidable (_ → _ → ∃ r ∈ p.2, _))
  | .frame _ _ none | .frame _ _ (some (.methodRequest _)) | .frame _ _ (some (.aarq _))
  | .frame _ _ (some (.getRequest _)) | .frame _ _ (some (.readRequest _))
  | .frame _ _ (some (.writeRequest _)) | .frame _ _ (some (.snrm _))
  | .frame _ _ (some (.releaseRequest _)) | .frame _ _ (some (.disc _))
  | .frame _ _ (some .none) | .frame _ _ (some .unknown) | .reset => .isTrue trivial

/-! ## An acceptable AARQ is accepted -/

namespace Server
variable {s : Server σ} {aarq : Aarq}

theorem validate_of_secret
    (secret : s.settings.authentication = .low → s.settings.password = s.associationLowSecret) :
    s.svrValidateAuthentication.2 = diagnosticNone := by
  unfold svrValidateAuthentication
  split
  · rename_i low
    rw [if_pos (secret low)]
  · rfl

theorem checkAarq_accepts (low : s.settings.authentication.isHigh = false)
    (version : 6 ≤ s.settings.dlmsVersionNumber) (size : 64 ≤ s.settings.maxPduSize)
    (conformance : s.settings.negotiatedConformance ≠ 0)
    (secret : s.settings.authentication = .low → s.settings.password = s.associationLowSecret) :
    (s.checkAarq diagnosticNone).2 = ⟨.accepted, diagnosticNone, []⟩ := by
  have validated := validate_of_secret secret
  unfold checkAarq
  dsimp only
  rw [if_neg (UInt8.not_lt.mpr version), if_neg (UInt16.not_lt.mpr size), if_neg conformance,
    if_neg (fun other => other rfl), if_neg (fun other => other validated), low]
  rfl

theorem answerAarq_accepts (low : s.settings.authentication.isHigh = false)
    (checked : (s.checkAarq aarq.diagnostic).2 = ⟨.accepted, diagnosticNone, []⟩) :
    (s.answerAarq aarq).2 = aarq.reply (.aare .accepted diagnosticNone []) := by
  have mechanism : (s.checkAarq aarq.diagnostic).1.settings.authentication.isHigh = false := by
    rw [(sameConnection_checkAarq s aarq.diagnostic).authentication]
    exact low
  unfold answerAarq
  dsimp only
  rw [mechanism, checked]
  rfl

theorem not_withoutSnrm (wrapper : s.settings.interfaceType = .wrapper) :
    ¬ s.settings.beginAarq.WithoutSnrm := by
  rintro ⟨hdlc, -⟩
  simp [Settings.beginAarq, Settings.svrSetInitialize, wrapper, InterfaceType.isHdlc] at hdlc

theorem accepted_of_acceptable (wrapper : s.settings.interfaceType = .wrapper)
    (low : (s.settings.beginAarq.parsePdu aarq).authentication.isHigh = false)
    (built : aarq.replyBuilt = true) (acceptable : s.Acceptable aarq) :
    (s.svrHandleAarqRequest aarq).2 = some (.aare .accepted diagnosticNone []) := by
  obtain ⟨⟨ret, result, diagnostic⟩, ⟨version, size, conformance⟩, a, -, -, secret⟩ := acceptable
  have checked := checkAarq_accepts (s := s.withSettings (s.settings.beginAarq.parsePdu aarq)) low
    version size conformance fun mechanism => (secret mechanism).1.trans (secret mechanism).2
  unfold svrHandleAarqRequest
  dsimp only
  rw [if_neg (not_withoutSnrm wrapper), ret, result]
  dsimp only
  rw [answerAarq_accepts low (by rw [diagnostic]; exact checked), Aarq.reply, if_pos built]

theorem answered_of_dlms (wrapper : s.settings.interfaceType = .wrapper)
    (dlms : (s.openAssociation aarq).settings.connected.dlms = true) :
    (s.settings.beginAarq.parsePdu aarq).authentication.isHigh = false ∧
      (s.svrHandleAarqRequest aarq).2.isSome = true := by
  have same := sameConnection_aarq aarq (not_withoutSnrm wrapper)
  have closed : (s.settings.beginAarq.parsePdu aarq).connected.dlms = false := by
    simp [Settings.beginAarq, Settings.svrSetInitialize, Settings.parsePdu, wrapper,
      ConnectionState.none]
  unfold openAssociation at dlms
  dsimp only at dlms
  split at dlms
  · rename_i opened
    rw [Bool.and_eq_true, Bool.not_eq_true', same.authentication] at opened
    exact ⟨opened.2, opened.1⟩
  · rw [same.connected, closed] at dlms
    exact absurd dlms Bool.false_ne_true

theorem built_of_isSome {answer : AarqReply} (some : (aarq.reply answer).isSome = true) :
    aarq.replyBuilt = true := by
  unfold Aarq.reply at some
  split at some
  · assumption
  · exact absurd some Bool.false_ne_true

theorem built_of_answered (answered : (s.svrHandleAarqRequest aarq).2.isSome = true) :
    aarq.replyBuilt = true := by
  unfold svrHandleAarqRequest at answered
  dsimp only at answered
  split at answered
  · exact absurd answered Bool.false_ne_true
  · split at answered
    · unfold answerAarq at answered
      dsimp only at answered
      split_ifs at answered
      · exact built_of_isSome answered
      · exact absurd answered Bool.false_ne_true
      · exact built_of_isSome answered
      · exact built_of_isSome answered
    · split at answered <;> exact built_of_isSome answered
    · split at answered <;> exact built_of_isSome answered
    · exact built_of_isSome answered

theorem passed_of_acceptable
    (low : (s.settings.beginAarq.parsePdu aarq).authentication.isHigh = false)
    (acceptable : s.Acceptable aarq) :
    (s.aarqRecord aarq).Passes (s.settings.beginAarq.parsePdu aarq).authentication := by
  obtain ⟨-, -, a, member, -, secret⟩ := acceptable
  cases mechanism : (s.settings.beginAarq.parsePdu aarq).authentication with
  | none => trivial
  | low => exact ⟨a, member, (secret mechanism).1⟩
  | _ => rw [mechanism] at low; exact absurd low.symm Bool.false_ne_true

theorem entitles_of_dlms (wrapper : s.settings.interfaceType = .wrapper)
    (order : s.AarqInOrder aarq)
    (dlms : (s.openAssociation aarq).settings.connected.dlms = true) :
    (s.aarqRecord aarq).Entitles s.settings.clientAddress := by
  obtain ⟨low, answered⟩ := answered_of_dlms wrapper dlms
  have built := built_of_answered answered
  have acceptable := order.2 low built
  have accepted := accepted_of_acceptable wrapper low built acceptable
  have passed := passed_of_acceptable low acceptable
  obtain ⟨-, -, a, member, mechanism, -⟩ := acceptable
  exact ⟨rfl, by rw [aarqRecord, accepted]; rfl, ⟨a, member, mechanism⟩, passed⟩

end Server
/-! ## What a reply to the challenge does -/

namespace Server
variable (P : Procedures σ) {s : Server σ} {r : ActionRequest} {target : Nat} {a : Association}

theorem hlsReply_of_denied (found : s.methodTarget r = some (target, .association a))
    (denied : s.Denies (.association a) r) : s.hlsReply P r = none := by
  simp only [hlsReply, found]
  exact if_neg fun admitted => admitted.2 denied

theorem hlsReply_of_admitted (found : s.methodTarget r = some (target, .association a))
    (id : r.id = 1) (admitted : ¬ s.Denies (.association a) r) :
    s.hlsReply P r = some (replyToHls P s a r.parameters) := by
  simp only [hlsReply, found]
  exact if_pos ⟨id, admitted⟩

theorem closed_of_mismatched (found : s.methodTarget r = some (target, .association a))
    (id : r.id = 1) (mismatched : s.hlsReply P r = some .mismatched) :
    (s.svrHandleMethodRequest P (some r)).1.settings.connected.dlms = false := by
  have admitted : ¬ s.Denies (.association a) r := by
    intro denied
    rw [hlsReply_of_denied P found denied] at mismatched
    cases mismatched
  have performed : s.performAction P target (.association a) r = _ :=
    performAction_reply P id admitted
  rw [hlsReply_of_admitted P found id admitted, Option.some.injEq] at mismatched
  rw [invokeAssociationLogicalName, if_pos rfl, mismatched] at performed
  by_contra open'
  rw [Bool.not_eq_false] at open'
  rcases dlms_of_reply P found id open' with associated | ⟨silent, -⟩
  · rw [performed] at associated
    simp [Device.association?_updateAssociation] at associated
  · have response := response_of_error (r := r) (show errorReadWriteDenied ≠ errorOk by decide)
    rw [performed] at silent
    rw [silent] at response
    exact absurd response Bool.false_ne_true

/-- A connection that a reply opens comes from the status of the association object. -/
theorem leavesAssociated_of_dlms (found : s.methodTarget r = some (target, .association a))
    (id : r.id = 1) (closed : s.settings.connected.dlms = false)
    (dlms : (s.svrHandleMethodRequest P (some r)).1.settings.connected.dlms = true) :
    s.LeavesAssociated P target r := by
  have after := dlms_of_reply P found id dlms
  rw [closed] at after
  simp only [Bool.false_eq_true, and_false, or_false] at after
  unfold LeavesAssociated
  by_cases denied : s.Denies (.association a) r
  · rw [hlsReply_of_denied P found denied]
    rw [performAction_denied P denied] at after
    exact after
  · rw [performAction_reply P id denied, invokeAssociationLogicalName, if_pos rfl] at after
    rw [hlsReply_of_admitted P found id denied]
    cases outcome : replyToHls P s a r.parameters with
    | failed code =>
        rw [outcome] at after
        exact after
    | mismatched =>
        rw [outcome] at after
        simp [Device.association?_updateAssociation] at after
    | matched answer =>
        rw [outcome] at after
        cases answer with
        | error code => exact after
        | ok answer => trivial

theorem matched_of_own (own : s.OwnReply P r) :
    ∃ answer, s.hlsReply P r = some (.matched answer) := by
  obtain ⟨⟨reply, here, matched⟩, -⟩ := own
  cases reply with
  | matched answer => exact ⟨answer, here⟩
  | failed code | mismatched => exact matched.elim

theorem noteReply_of_own (negotiated : s.Negotiated conformanceAction) (own : s.OwnReply P r)
    (verified : Bool) : s.noteReply P r verified = true := by
  obtain ⟨answer, matched⟩ := matched_of_own P own
  rw [noteReply, if_pos negotiated, matched]
  exact Bool.or_eq_true_iff.mpr (.inr (decide_eq_true own))

theorem noteReply_of_verified (reply : s.hlsReply P r ≠ some .mismatched) :
    s.noteReply P r true = true := by
  unfold noteReply
  split
  · split
    · rfl
    · rename_i mismatched
      exact absurd mismatched reply
    · rfl
  · rfl

end Server

/-! ## Every run -/

/-- What the record says is about the client of the session, and entitles it once it is open. -/
structure Rightful (p : WrapperServer σ × Option AarqRecord) : Prop where
  wrapper : p.1.server.settings.interfaceType = .wrapper
  client : ∀ r ∈ p.2, r.clientAddress = p.1.server.settings.clientAddress ∧ r.clientAddress ≠ 0
  entitled : p.1.server.settings.connected.dlms = true →
    ∃ r ∈ p.2, r.Entitles p.1.server.settings.clientAddress

section Steps
variable {W} {w : WrapperServer σ} {record : Option AarqRecord}

theorem rightful_of_same {v : WrapperServer σ} (holds : Rightful (w, record))
    (same : SameSession w.server.settings v.server.settings)
    (wrapper : v.server.settings.interfaceType = w.server.settings.interfaceType) :
    Rightful (v, record) := by
  refine ⟨wrapper.trans holds.wrapper, fun r member => ?_, fun dlms => ?_⟩
  · rw [same.clientAddress]
    exact holds.client r member
  · rw [same.clientAddress]
    exact holds.entitled (same.dlms ▸ dlms)

theorem rightful_of_closed {v : WrapperServer σ}
    (wrapper : v.server.settings.interfaceType = .wrapper)
    (closed : v.server.settings.connected.dlms = false) : Rightful (v, none) := by
  refine ⟨wrapper, fun r member => ?_, fun dlms => ?_⟩
  · cases member
  · rw [closed] at dlms
    exact absurd dlms Bool.false_ne_true

/-- The address of an open or recorded session does not change with the next frame. -/
theorem rightful_addressed (holds : Rightful (w, record)) (clientAddress : UInt16)
    (serverAddress : UInt32) : Rightful (w.addressed clientAddress serverAddress, record) := by
  have connection := sameConnection_wrapperAddress w.server.settings clientAddress serverAddress
  cases record with
  | none =>
      refine rightful_of_closed (connection.interfaceType.trans holds.wrapper) ?_
      by_contra open'
      rw [Bool.not_eq_false] at open'
      obtain ⟨r, member, -⟩ := holds.entitled (connection.connected ▸ open')
      cases member
  | some r =>
      have client := holds.client r rfl
      exact rightful_of_same holds
        (sameSession_wrapperAddress clientAddress serverAddress (client.1 ▸ client.2))
        connection.interfaceType

theorem rightful_aarq {aarq : Aarq} (holds : Rightful (w, record))
    (order : (w.server.isTarget W).2 = true → (w.server.isTarget W).1.AarqInOrder aarq) :
    Rightful (w.handleAarq W aarq, noteRequest W record w (.aarq aarq)) := by
  obtain ⟨same, interface⟩ := Server.sameSession_isTarget W w.server
  have wrapper := interface.trans holds.wrapper
  unfold WrapperServer.handleAarq noteRequest
  dsimp only
  split
  · rename_i target
    refine ⟨(Server.interfaceType_openAssociation _ aarq).trans wrapper, ?_, fun dlms => ?_⟩
    · rintro r ⟨⟩
      exact ⟨(Server.clientAddress_openAssociation _ aarq).symm, (order target).1⟩
    · rw [Server.clientAddress_openAssociation]
      exact ⟨_, rfl, Server.entitles_of_dlms wrapper (order target) dlms⟩
  · split
    · exact rightful_of_same holds same interface
    · rename_i closed
      exact rightful_of_closed wrapper (Bool.eq_false_iff.mpr closed)

theorem rightful_set (holds : Rightful (w, record)) (data : List UInt8) :
    Rightful (w.handleSet W data, record) := by
  have same := WrapperServer.settings_handleSet (W := W) w data
  exact rightful_of_same holds (sameSession_of_eq same) (congrArg Settings.interfaceType same)

theorem rightful_keeps {command : Command} {t : Transaction} (holds : Rightful (w, record))
    (keeps : KeepsSession w.server (.command command)) :
    Rightful (⟨w.server.svrHandleCommand W.toProcedures command, t⟩, record) :=
  rightful_of_same holds (sameSession_command W.toProcedures command keeps)
    (Server.interfaceType_command W.toProcedures w.server command)

theorem rightful_ends {command : Command} {t : Transaction} (holds : Rightful (w, record))
    (closed : (w.server.svrHandleCommand W.toProcedures command).settings.connected.dlms = false) :
    Rightful (⟨w.server.svrHandleCommand W.toProcedures command, t⟩, none) :=
  rightful_of_closed
    ((Server.interfaceType_command W.toProcedures w.server command).trans holds.wrapper) closed

theorem passes_iff_verified (r : AarqRecord) {mechanism : Authentication}
    (high : mechanism.isHigh = true) : r.Passes mechanism ↔ r.verified = true := by
  cases mechanism with
  | none | low => exact absurd high Bool.false_ne_true
  | _ => exact Iff.rfl

theorem entitles_of_verified {r : AarqRecord} {clientAddress : UInt16} {verified : Bool}
    (entitles : r.Entitles clientAddress) (kept : r.verified = true → verified = true) :
    { r with verified := verified }.Entitles clientAddress := by
  refine ⟨entitles.client, entitles.accepted, entitles.mechanism, ?_⟩
  have passed := entitles.passed
  dsimp only
  cases mechanism : r.mechanism with
  | none => trivial
  | low =>
      rw [mechanism] at passed
      exact passed
  | _ =>
      rw [mechanism] at passed
      exact kept passed

theorem rightful_reply {r : ActionRequest} {t : Transaction} {target : Nat} {a : Association}
    (holds : Rightful (w, record)) (order : w.server.ReplyInOrder W record r)
    (negotiated : w.server.Negotiated conformanceAction)
    (found : w.server.methodTarget r = some (target, .association a)) (id : r.id = 1) :
    Rightful (⟨(w.server.svrHandleMethodRequest W.toProcedures (some r)).1, t⟩,
      noteRequest W record w (.methodRequest (some r))) := by
  obtain ⟨dlms', settings⟩ := Server.settings_methodRequest W.toProcedures w.server (some r)
  have client : ∀ a ∈ noteRequest W record w (.methodRequest (some r)),
      a.clientAddress = w.server.settings.clientAddress ∧ a.clientAddress ≠ 0 := by
    intro a member
    obtain ⟨b, earlier, rfl⟩ := Option.map_eq_some_iff.mp member
    exact holds.client b earlier
  refine ⟨?_, ?_, fun dlms => ?_⟩
  · rw [settings]
    exact holds.wrapper
  · rw [settings]
    exact client
  · have reply : w.server.hlsReply W.toProcedures r ≠ some .mismatched := by
      intro mismatched
      rw [Server.closed_of_mismatched W.toProcedures found id mismatched] at dlms
      exact Bool.false_ne_true dlms
    rw [settings]
    cases before : w.server.settings.connected.dlms with
    | true =>
        obtain ⟨b, member, entitles⟩ := holds.entitled before
        refine ⟨_, Option.map_eq_some_iff.mpr ⟨b, member, rfl⟩, ?_⟩
        refine entitles_of_verified entitles fun verified => ?_
        rw [verified]
        exact Server.noteReply_of_verified W.toProcedures reply
    | false =>
        have leaves := Server.leavesAssociated_of_dlms W.toProcedures found id before dlms
        obtain ⟨own, b, member, accepted, high, mechanism⟩ :=
          order negotiated before _ found ⟨rfl, id⟩ leaves
        let noted := w.server.noteReply W.toProcedures r b.verified
        have verified : noted = true := Server.noteReply_of_own W.toProcedures negotiated own _
        refine ⟨_, Option.map_eq_some_iff.mpr ⟨b, member, rfl⟩, ?_⟩
        refine ⟨(holds.client b member).1, accepted, mechanism, ?_⟩
        exact (passes_iff_verified { b with verified := noted } high).mpr verified

theorem noteRequest_of_kept {r : ActionRequest}
    (kept : ∀ verified, w.server.noteReply W.toProcedures r verified = verified) :
    noteRequest W record w (.methodRequest (some r)) = record := by
  cases record with
  | none => rfl
  | some a =>
      rw [noteRequest, Option.map_some, kept]

theorem rightful_method {r : ActionRequest} {t : Transaction} (holds : Rightful (w, record))
    (order : w.server.ReplyInOrder W record r) :
    Rightful (⟨w.server.svrHandleCommand W.toProcedures (.methodRequest (some r)), t⟩,
      noteRequest W record w (.methodRequest (some r))) := by
  by_cases negotiated : w.server.Negotiated conformanceAction
  · by_cases replies : ∃ found ∈ w.server.methodTarget r, RepliesToHls found.2 r
    · obtain ⟨⟨target, o⟩, found, association, id⟩ := replies
      cases o with
      | association a =>
          rw [Server.svrHandleCommand, if_pos negotiated]
          exact rightful_reply holds order negotiated found id
      | other objectType logicalName methodCount => exact absurd association Bool.false_ne_true
    · have other : ∀ found ∈ w.server.methodTarget r, ¬ RepliesToHls found.2 r :=
        fun found member reply => replies ⟨found, member, reply⟩
      rw [noteRequest_of_kept fun verified => by
        rw [Server.noteReply, if_pos negotiated, hlsReply_of_other _ other]]
      exact rightful_keeps holds other
  · rw [noteRequest_of_kept fun verified => if_neg negotiated, Server.svrHandleCommand,
      if_neg negotiated]
    exact rightful_of_same holds (.refl _) rfl

theorem rightful_request {command : Command} (holds : Rightful (w, record))
    (aarqs : ∀ aarq, command = .aarq aarq →
      (w.server.isTarget W).2 = true → (w.server.isTarget W).1.AarqInOrder aarq)
    (replies : ∀ r, command = .methodRequest (some r) → w.server.ReplyInOrder W record r) :
    Rightful (w.handleRequest W command, noteRequest W record w command) := by
  cases command with
  | aarq aarq => exact rightful_aarq holds (aarqs aarq rfl)
  | setRequest data => exact rightful_set holds data
  | methodRequest request =>
      cases request with
      | none => exact rightful_keeps holds trivial
      | some r => exact rightful_method holds (replies r rfl)
  | writeRequest data | getRequest data | readRequest data => exact rightful_keeps holds trivial
  | none | unknown => exact rightful_keeps holds trivial
  | snrm parsed =>
      cases parsed with
      | false => exact rightful_of_same holds (.refl _) rfl
      | true => exact rightful_ends holds rfl
  | releaseRequest answered => exact rightful_ends holds (release_closed _ answered)
  | disc answered =>
      rw [WrapperServer.handleRequest, noteRequest]
      split
      · exact rightful_ends holds (disconnect_closed _ answered)
      · exact holds

theorem rightful_step {p : WrapperServer σ × Option AarqRecord} (e : WrapperEvent)
    (holds : Rightful p) (order : FrameInOrder W p e) :
    Rightful (Runs.observed (WrapperServer.step W) (noteFrame W) p e) := by
  obtain ⟨w, record⟩ := p
  unfold Runs.observed
  cases e with
  | reset => exact rightful_of_closed holds.wrapper rfl
  | frame clientAddress serverAddress request =>
      have addressed := rightful_addressed holds clientAddress serverAddress
      unfold WrapperServer.step WrapperServer.handleFrame
      dsimp only
      split
      · rename_i target
        cases request with
        | none => exact addressed
        | some command =>
            rw [noteFrame, if_pos target]
            refine rightful_request addressed ?_ ?_
            · rintro aarq rfl
              exact order target
            · rintro r rfl
              exact order target
      · rename_i other
        cases request with
        | none => exact addressed
        | some command =>
            rw [noteFrame, if_neg other]
            exact addressed

theorem authorised_of_rightful {p : WrapperServer σ × Option AarqRecord} (e : WrapperEvent)
    (holds : Rightful p) : Authorised W p e := by
  obtain ⟨w, record⟩ := p
  unfold Authorised
  split
  · rename_i clientAddress serverAddress data
    intro target reaches
    have addressed := rightful_addressed holds clientAddress serverAddress
    have entitled := addressed.entitled (WrapperServer.dlms_of_written reaches)
    rw [WrapperServer.clientAddress_addressed target] at entitled
    exact entitled
  · trivial

end Steps

/-- From any state without a connection, in every run whose frames are in order. -/
theorem writes_authorised (w : WrapperServer σ) (es : List WrapperEvent)
    (wrapper : w.server.settings.interfaceType = .wrapper)
    (closed : w.server.settings.connected.dlms = false)
    (order : Runs.Along (Runs.observed (WrapperServer.step W) (noteFrame W)) (FrameInOrder W)
      (w, none) es) :
    Runs.Along (Runs.observed (WrapperServer.step W) (noteFrame W)) (Authorised W)
      (w, none) es := by
  apply Runs.along_of_invariant (FrameInOrder W) Rightful
  · exact fun p e holds admitted => rightful_step e holds admitted
  · exact fun p e holds _ => authorised_of_rightful e holds
  · exact rightful_of_closed wrapper closed
  · exact order

end Authority

section Management

/-- `securitySetupHighGMac` wants its clients ciphered, so this AARQ is answered with an
exception. -/
def plainAarq : Aarq where
  mechanism := none
  password := none
  ctoSChallenge := none
  sourceSystemTitle := none
  security := none
  ciphered := false
  conformance := some associationConformance
  dlmsVersionNumber := some 6
  maxPduSize := some 1024
  ret := .invalidDecipheringError
  result := .accepted
  diagnostic := diagnosticNone
  challenge := []
  challengeStored := true
  replyBuilt := true

/-- Attribute 2 of `clock1`, an octet string. -/
def setClock : List UInt8 :=
  [1, 0xC1, 0, 8, 0, 0, 1, 0, 0, 255, 2, 0,
    0x09, 12, 0x07, 0xE8, 1, 1, 1, 0, 0, 0, 0, 0, 0, 0]

def systemTitle : List UInt8 := [0x41, 0x42, 0x43, 0x44, 0x45, 0x46, 0x47, 0x48]

def clientSystemTitle : Vector UInt8 8 := #v[0x43, 0x4C, 0x49, 0x45, 0x4E, 0x54, 0x30, 0x31]

/-- The client's GMAC of the server's challenge, under the default keys. -/
def gmacAnswer : List UInt8 :=
  [0x10, 0, 0, 0, 1, 0xc4, 0x79, 0x57, 0xe4, 0x9b, 0x18, 0xea, 0x98, 0x74, 0xb8, 0x89, 0x35]

def serverGmacAnswer : List UInt8 :=
  [0x10, 0, 0, 0, 2, 0x9d, 0xe0, 0x7d, 0xb3, 0x21, 0xc9, 0x0f, 0x4a, 0x24, 0xfa, 0x58, 0x41]

/-- GMAC of these two challenges; a value is what is left of the request. -/
def wrapperProcedures : WrapperProcedures Unit where
  toProcedures :=
    { meterProcedures with
      secure := fun settings _ ic challenge secret =>
        if settings.authentication ≠ .highGmac then .error errorInvalidParameter
        else if ic = 1 ∧ challenge = serverChallenge ∧ secret = clientSystemTitle.toList then
          .ok gmacAnswer
        else if ic = 2 ∧ challenge = clientChallenge ∧ secret = systemTitle then
          .ok serverGmacAnswer
        else .error errorInvalidParameter
      systemTitle := fun _ => systemTitle
      invocationCounter := fun _ => 2 }
  undefinedAccess _ _ _ := .none
  getData bytes := (.ok bytes, [])
  preWrite _ es d := (d, es)
  setValue _ _ d := (d, errorOk)
  postWrite _ _ d := d
  sapAssigned _ address :=
    (address &&& 0xFFFFFF00 = 0 && address &&& 0x7F = 1) ||
      (address &&& 0xFFFF0000 = 0 && address &&& 0x7FFF = 1)
  serialAddress := 2234
  transactionAfter _ _ t := t

def meterWrapper : WrapperServer Unit := ⟨meter, .cleared⟩

def fromManagement (command : Command) : WrapperEvent := .frame managementClient 1 (some command)

/-- Client 1 is told that it is rejected, and sets the clock. -/
theorem rejected_client_writes :
    ¬ ∀ (W : WrapperProcedures Unit) (w : WrapperServer Unit) (es : List WrapperEvent)
      (e : WrapperEvent),
      w.server.settings.interfaceType = .wrapper → w.server.settings.connected.dlms = false →
        Authorised W
          (Runs.run (Runs.observed (WrapperServer.step W) (noteFrame W)) (w, none) es) e := by
  intro always
  have authorised := always wrapperProcedures meterWrapper [fromManagement (.aarq plainAarq)]
    (fromManagement (.setRequest setClock)) rfl rfl
  revert authorised
  decide +kernel

def gmacAarq : Aarq where
  mechanism := some 5
  password := none
  ctoSChallenge := some clientChallenge
  sourceSystemTitle := some clientSystemTitle
  security := some 0x30
  ciphered := true
  conformance := some associationConformance
  dlmsVersionNumber := some 6
  maxPduSize := some 1024
  ret := .ok
  result := .accepted
  diagnostic := diagnosticNone
  challenge := serverChallenge
  challengeStored := true
  replyBuilt := true

def replyWithGmac : Command :=
  .methodRequest (some
    ⟨objectTypeAssociationLogicalName, defaultAssociation, 1, gmacAnswer, true⟩)

def managementSession : List WrapperEvent :=
  [fromManagement (.aarq gmacAarq), fromManagement replyWithGmac]

/-- The clock is set after the challenge has been answered. -/
theorem managementSession_authorised :
    Runs.Along
        (Runs.observed (WrapperServer.step wrapperProcedures) (noteFrame wrapperProcedures))
        (Authorised wrapperProcedures) (meterWrapper, none)
        (managementSession ++ [fromManagement (.setRequest setClock)]) ∧
      (Runs.run (WrapperServer.step wrapperProcedures) meterWrapper managementSession).written
        wrapperProcedures setClock ≠ [] :=
  ⟨writes_authorised wrapperProcedures meterWrapper
    (managementSession ++ [fromManagement (.setRequest setClock)]) rfl rfl (by decide +kernel),
    by decide +kernel⟩

end Management
end DlmsGateway.DlmsServer
