import DlmsGateway.Lib.Runs
import DlmsGateway.Server.Action

/-!
# Methods only in an association

`svr_handleCommand` leaves it to `svr_handleMethodRequest` to look at the
connection, because the reply to the challenge comes before there is one; the
latter asks `svr_getMethodAccess` only, which knows the mechanism that the AARQ
proposed.  A history variable says whether the client's reply to the challenge
has been verified since the session began.
-/
set_option autoImplicit false
namespace DlmsGateway.DlmsServer

def RepliesToHls (o : CosemObject) (r : ActionRequest) : Prop :=
  o.isAssociation = true ∧ r.id = 1

instance (o : CosemObject) (r : ActionRequest) : Decidable (RepliesToHls o r) :=
  inferInstanceAs (Decidable (_ ∧ _))

namespace Server
variable {σ : Type}

/-- The comparison made by a `reply_to_HLS_authentication` that is let through. -/
def hlsReply (P : Procedures σ) (s : Server σ) (r : ActionRequest) : Option HlsReply :=
  match s.methodTarget r with
  | some (_, .association a) =>
      if r.id = 1 ∧ ¬ s.Denies (.association a) r then some (replyToHls P s a r.parameters)
      else none
  | _ => none

/-- A method other than `reply_to_HLS_authentication`; with short names a read or a write may
invoke one too. -/
def InvokesMethod (s : Server σ) : Event → Prop
  | .command (.methodRequest (some r)) =>
      ∃ found ∈ s.methodTarget r, ¬ RepliesToHls found.2 r
  | .command (.readRequest _) | .command (.writeRequest _) => True
  | _ => False

instance (s : Server σ) : ∀ e, Decidable (s.InvokesMethod e)
  | .command (.methodRequest (some r)) =>
      inferInstanceAs (Decidable (∃ found ∈ s.methodTarget r, _))
  | .command (.readRequest _) | .command (.writeRequest _) => .isTrue trivial
  | .command (.methodRequest none) | .command (.setRequest _) | .command (.getRequest _)
  | .command (.snrm _) | .command (.aarq _) | .command (.releaseRequest _) | .command (.disc _)
  | .command .none | .command .unknown | .wrapperAddress .. | .hdlcAddress .. | .isTarget
  | .hdlcFrame | .modeE | .reset => .isFalse id

end Server

/-- The reply has been compared with the one expected. -/
def HlsReply.Compared : HlsReply → Prop
  | .failed _ => False
  | .mismatched | .matched _ => True

instance : ∀ reply : HlsReply, Decidable reply.Compared
  | .failed _ => .isFalse id
  | .mismatched | .matched _ => .isTrue trivial

/-- Whether the reply to the challenge has been verified in the session. -/
def noteVerified {σ : Type} (P : Procedures σ) (verified : Bool) (s : Server σ) : Event → Bool
  | .command (.methodRequest (some r)) =>
      if s.Negotiated conformanceAction then
        match s.hlsReply P r with
        | some (.matched _) => true
        | some .mismatched => false
        | some (.failed _) | none => verified
      else verified
  | .command (.snrm parsed) => verified && !parsed
  | .command (.aarq _) => verified && decide s.settings.beginAarq.WithoutSnrm
  | .command (.releaseRequest _) | .command (.disc _) | .reset => false
  | _ => verified

section Access
variable {σ : Type} (P : Procedures σ)

/-- A method has an effect only while the DLMS connection is established, and with a high
mechanism only after the reply to the challenge has been verified. -/
def Associated (p : Server σ × Bool) (e : Event) : Prop :=
  p.1.InvokesMethod e → (p.1.step P e).device ≠ p.1.device →
    p.1.settings.connected.dlms = true ∧
      (p.1.settings.authentication.isHigh = true → p.2 = true)

/-- Without a connection only methods arrive that `svr_getMethodAccess` refuses, and no reply to
the challenge that cannot be compared while the association object is still associated; over HDLC
no AARQ proposes or keeps a high mechanism while a connection is open. -/
def Orderly (p : Server σ × Bool) : Event → Prop
  | .command (.methodRequest (some r)) =>
      p.1.Negotiated conformanceAction → p.1.settings.connected.dlms = false →
        ∀ found ∈ p.1.methodTarget r,
          (¬ RepliesToHls found.2 r → p.1.Denies found.2 r) ∧
          (p.1.settings.authentication.isHigh = true →
            (p.1.device.association? found.1).map (·.associationStatus) = some .associated →
              ∀ reply ∈ p.1.hlsReply P r, reply.Compared)
  | .command (.aarq aarq) =>
      p.1.settings.beginAarq.connected.dlms = true → ¬ p.1.settings.beginAarq.WithoutSnrm →
        (p.1.settings.beginAarq.parsePdu aarq).authentication.isHigh = false
  | _ => True

instance [DecidableEq σ] (p : Server σ × Bool) (e : Event) : Decidable (Associated P p e) :=
  inferInstanceAs (Decidable (_ → _ → _ ∧ _))

instance (p : Server σ × Bool) : ∀ e, Decidable (Orderly P p e)
  | .command (.methodRequest (some r)) =>
      inferInstanceAs (Decidable (_ → _ → ∀ found ∈ p.1.methodTarget r, _ ∧ _))
  | .command (.aarq _) => inferInstanceAs (Decidable (_ → ¬ _ → _))
  | .command (.methodRequest none) | .command (.setRequest _) | .command (.getRequest _)
  | .command (.readRequest _) | .command (.writeRequest _) | .command (.snrm _)
  | .command (.releaseRequest _) | .command (.disc _) | .command .none | .command .unknown
  | .wrapperAddress .. | .hdlcAddress .. | .isTarget | .hdlcFrame | .modeE | .reset =>
      .isTrue trivial

/-- With a high mechanism the connection is established only by a verified reply. -/
def Verified (p : Server σ × Bool) : Prop :=
  p.1.settings.connected.dlms = true → p.1.settings.authentication.isHigh = true → p.2 = true

/-! ## What a method does to the settings -/

section Method
variable {s : Server σ} {r : ActionRequest} {target : Nat} {o : CosemObject}

theorem isAssociation_of_withoutAccessCheck (unchecked : r.WithoutAccessCheck)
    (found : s.methodTarget r = some (target, o)) : o.isAssociation = true := by
  unfold Server.methodTarget at found
  rw [if_pos unchecked.1] at found
  obtain ⟨i, first, found⟩ := Option.bind_eq_some_iff.mp found
  obtain ⟨object, here, pair⟩ := Option.map_eq_some_iff.mp found
  cases pair
  rw [Option.orElse_none, Server.svrFindObject, if_pos unchecked.1] at first
  obtain ⟨inside, matches_, -⟩ := List.findIdx?_eq_some_iff_getElem.mp first
  rw [List.getElem?_eq_getElem inside, Option.some.injEq] at here
  rw [here] at matches_
  cases o with
  | association a => rfl
  | other objectType logicalName methodCount => exact absurd matches_ (by simp)

/-- So of the other methods only those are denied that `svr_getMethodAccess` refuses. -/
theorem denies_iff (other : ¬ RepliesToHls o r) (found : s.methodTarget r = some (target, o)) :
    s.Denies o r ↔ svrGetMethodAccess s.settings.authentication o = .none := by
  refine and_iff_right fun unchecked => other ?_
  exact ⟨isAssociation_of_withoutAccessCheck unchecked found, unchecked.2⟩

theorem handleMethodRequest_none (missing : s.methodTarget r = none) :
    (s.svrHandleMethodRequest P (some r)).1 = s := by
  simp only [Server.svrHandleMethodRequest, missing]

theorem handleMethodRequest_other (found : s.methodTarget r = some (target, o))
    (other : ¬ RepliesToHls o r) :
    (s.svrHandleMethodRequest P (some r)).1 =
      { s with device := (s.performAction P target o r).1 } := by
  simp only [Server.svrHandleMethodRequest, found]
  rw [if_neg]
  intro reply
  simp only [Bool.and_eq_true, decide_eq_true_eq] at reply
  exact other ⟨reply.1.2, reply.2⟩

theorem performAction_denied (denied : s.Denies o r) :
    s.performAction P target o r = (s.device, errorReadWriteDenied) := if_pos denied

/-! ## The reply to the challenge -/

theorem svrPreAction_association (d : Device σ) (target : Nat) (a : Association) (index : UInt8)
    (parameters : List UInt8) :
    svrPreAction P d target (.association a) index parameters = ⟨d, false, errorOk⟩ := by
  simp [svrPreAction, CosemObject.Is, CosemObject.objectType, objectTypeAssociationLogicalName,
    objectTypeProfileGeneric, objectTypeRegister, objectTypePushSetup, objectTypeScriptTable,
    objectTypeDisconnectControl, objectTypeImageTransfer]

theorem svrPostAction_reply (d : Device σ) (a : Association) (error : Nat) :
    svrPostAction P d (.association a) 1 error = d := by
  simp [svrPostAction, CosemObject.Is, CosemObject.objectType, objectTypeAssociationLogicalName,
    objectTypeSecuritySetup, svrIsChangedWithAction]

theorem performAction_reply {a : Association} (id : r.id = 1)
    (admitted : ¬ s.Denies (.association a) r) :
    s.performAction P target (.association a) r =
      invokeAssociationLogicalName P s target a 1 r.parameters := by
  have counted : ¬ (CosemObject.association a).methodCount < 1 := by
    simp only [CosemObject.methodCount]
    split <;> decide
  rw [Server.performAction, if_neg admitted, svrPreAction_association, id]
  dsimp only
  rw [if_neg Bool.false_ne_true, svrPostAction_reply, cosemInvoke,
    if_neg (not_or.mpr ⟨by decide, counted⟩)]

theorem response_of_error {error : Nat} (failed : error ≠ errorOk) :
    (r.response error).isSome = true := by
  rw [ActionRequest.response, if_neg failed]
  split <;> rfl

theorem handleMethodRequest_reply {a : Association}
    (found : s.methodTarget r = some (target, .association a)) (id : r.id = 1) :
    (s.svrHandleMethodRequest P (some r)).1 =
      if (r.response (s.performAction P target (.association a) r).2).isSome then
        { s with device := (s.performAction P target (.association a) r).1 }.followAssociation target
      else { s with device := (s.performAction P target (.association a) r).1 } := by
  simp only [Server.svrHandleMethodRequest, found, CosemObject.isAssociation, id, decide_true,
    Bool.and_true]
  split <;> rfl

theorem access_of_high (high : s.settings.authentication.isHigh = true) : ¬ s.Denies o r := by
  intro denied
  have refused := denied.2
  cases mechanism : s.settings.authentication with
  | none | low => simp [mechanism, Authentication.isHigh] at high
  | _ => simp [mechanism, svrGetMethodAccess] at refused

theorem authentication_methodRequest :
    (s.svrHandleMethodRequest P (some r)).1.settings.authentication =
      s.settings.authentication := by
  cases found : s.methodTarget r with
  | none => rw [handleMethodRequest_none P found]
  | some pair =>
      obtain ⟨target, o⟩ := pair
      simp only [Server.svrHandleMethodRequest, found]
      split <;> rfl

/-- After the reply the connection is there only if the association object says so, or if there
was no response and it was there before. -/
theorem dlms_of_reply {a : Association} (found : s.methodTarget r = some (target, .association a))
    (id : r.id = 1)
    (dlms : (s.svrHandleMethodRequest P (some r)).1.settings.connected.dlms = true) :
    ((s.performAction P target (.association a) r).1.association? target).map
        (·.associationStatus) = some .associated ∨
      r.response (s.performAction P target (.association a) r).2 = none ∧
        s.settings.connected.dlms = true := by
  rw [handleMethodRequest_reply P found id] at dlms
  split at dlms
  · exact .inl (of_decide_eq_true dlms)
  · rename_i silent
    exact .inr ⟨by simpa using silent, dlms⟩

theorem verified_reply {a : Association} {verified : Bool} (holds : Verified (s, verified))
    (negotiated : s.Negotiated conformanceAction)
    (found : s.methodTarget r = some (target, .association a)) (id : r.id = 1)
    (orderly : Orderly P (s, verified) (.command (.methodRequest (some r)))) :
    Verified ((s.svrHandleMethodRequest P (some r)).1,
      noteVerified P verified s (.command (.methodRequest (some r)))) := by
  intro dlms high
  rw [authentication_methodRequest] at high
  have admitted : ¬ s.Denies (.association a) r := access_of_high high
  have reply : s.hlsReply P r = some (replyToHls P s a r.parameters) := by
    simp only [Server.hlsReply, found]
    exact if_pos ⟨id, admitted⟩
  have performed : s.performAction P target (.association a) r = _ :=
    performAction_reply P id admitted
  have after := dlms_of_reply P found id dlms
  rw [performed, invokeAssociationLogicalName, if_pos rfl] at after
  dsimp only
  rw [noteVerified, if_pos negotiated, reply]
  cases outcome : replyToHls P s a r.parameters with
  | matched answer => rfl
  | mismatched =>
      -- the association object is not associated, and the error makes a response
      rw [outcome] at after
      rcases after with associated | ⟨silent, -⟩
      · simp [Device.association?_updateAssociation] at associated
      · have denied : errorReadWriteDenied ≠ errorOk := by decide
        have response := response_of_error (r := r) denied
        rw [silent] at response
        exact absurd response Bool.false_ne_true
  | failed code =>
      rw [outcome] at after
      by_cases before : s.settings.connected.dlms = true
      · exact holds before high
      · rcases after with associated | ⟨-, still⟩
        · have compared := (orderly negotiated (by simpa using before) _ found).2 high associated
            _ reply
          rw [outcome] at compared
          exact compared.elim
        · exact absurd still before

theorem hlsReply_of_other (other : ∀ found ∈ s.methodTarget r, ¬ RepliesToHls found.2 r) :
    s.hlsReply P r = none := by
  unfold Server.hlsReply
  split
  · rename_i target a found
    exact if_neg fun reply => other _ found ⟨rfl, reply.1⟩
  · rfl

theorem settings_of_other (other : ∀ found ∈ s.methodTarget r, ¬ RepliesToHls found.2 r) :
    (s.svrHandleMethodRequest P (some r)).1.settings = s.settings := by
  cases found : s.methodTarget r with
  | none => rw [handleMethodRequest_none P found]
  | some pair => rw [handleMethodRequest_other P found (other pair found)]

theorem verified_methodRequest {verified : Bool} (holds : Verified (s, verified))
    (orderly : Orderly P (s, verified) (.command (.methodRequest (some r)))) :
    Verified (s.svrHandleCommand P (.methodRequest (some r)),
      noteVerified P verified s (.command (.methodRequest (some r)))) := by
  rw [Server.svrHandleCommand]
  by_cases negotiated : s.Negotiated conformanceAction
  · rw [if_pos negotiated]
    by_cases reply : ∃ found ∈ s.methodTarget r, RepliesToHls found.2 r
    · obtain ⟨⟨target, o⟩, found, association, id⟩ := reply
      cases o with
      | association a => exact verified_reply P holds negotiated found id orderly
      | other objectType logicalName methodCount => exact absurd association Bool.false_ne_true
    · have other : ∀ found ∈ s.methodTarget r, ¬ RepliesToHls found.2 r :=
        fun found member replies => reply ⟨found, member, replies⟩
      rw [noteVerified, if_pos negotiated, hlsReply_of_other P other]
      intro dlms high
      simp only [settings_of_other P other] at dlms high
      exact holds dlms high
  · rw [if_neg negotiated, noteVerified, if_neg negotiated]
    exact holds

theorem associated_methodRequest {verified : Bool} (holds : Verified (s, verified))
    (orderly : Orderly P (s, verified) (.command (.methodRequest (some r)))) :
    Associated P (s, verified) (.command (.methodRequest (some r))) := by
  rintro ⟨⟨target, o⟩, found, other⟩ changed
  by_cases dlms : s.settings.connected.dlms = true
  · exact ⟨dlms, holds dlms⟩
  · simp only [Server.step, Server.svrHandleCommand] at changed
    split at changed
    · rename_i negotiated
      have denied := (orderly negotiated (by simpa using dlms) _ found).1 other
      rw [handleMethodRequest_other P found other, performAction_denied P denied] at changed
      exact absurd rfl changed
    · exact absurd rfl changed

end Method

/-! ## The other requests -/

section Session
variable {s : Server σ} {verified : Bool}

theorem settings_serve (service : UInt32) (f : Settings → Device σ → Device σ) :
    (s.serve service f).settings = s.settings := by
  unfold Server.serve
  split <;> rfl

theorem associated_serve {service : UInt32} {f : Settings → Device σ → Device σ}
    (holds : Verified (s, verified)) (changed : (s.serve service f).device ≠ s.device) :
    s.settings.connected.dlms = true ∧
      (s.settings.authentication.isHigh = true → verified = true) := by
  unfold Server.serve at changed
  split at changed
  · rename_i serves
    exact ⟨serves.1, holds serves.1⟩
  · exact absurd rfl changed

theorem verified_of_same {t : Server σ} (holds : Verified (s, verified))
    (dlms : t.settings.connected.dlms = s.settings.connected.dlms)
    (authentication : t.settings.authentication = s.settings.authentication) :
    Verified (t, verified) := by
  intro connected high
  simp only [dlms, authentication] at connected high
  exact holds connected high

theorem verified_of_closed {t : Server σ} {any : Bool}
    (closed : t.settings.connected.dlms = false) : Verified (t, any) := by
  intro connected
  simp only [closed, Bool.false_eq_true] at connected

theorem verified_serve (holds : Verified (s, verified)) (service : UInt32)
    (f : Settings → Device σ → Device σ) : Verified (s.serve service f, verified) :=
  verified_of_same holds (by rw [settings_serve]) (by rw [settings_serve])

theorem verified_of_sameConnection {settings : Settings} (holds : Verified (s, verified))
    (same : SameConnection s.settings settings) : Verified (s.withSettings settings, verified) :=
  verified_of_same holds (congrArg ConnectionState.dlms same.connected) same.authentication

theorem verified_isTarget (holds : Verified (s, verified)) :
    Verified (s.svrIsTarget, verified) := by
  unfold Server.svrIsTarget
  dsimp only
  split
  · exact verified_of_same holds rfl rfl
  · exact holds

theorem release_closed (answered : Bool) :
    (s.release P answered).settings.connected.dlms = false := by
  unfold Server.release
  dsimp only
  split <;> rfl

theorem disconnect_closed (answered : Bool) :
    (s.disconnect P answered).settings.connected.dlms = false := by
  unfold Server.disconnect
  dsimp only
  split
  · rfl
  · split
    · rename_i none
      rw [none]
      rfl
    · rfl

/-- An AARQ without SNRM is rejected before it changes anything but the ciphering. -/
theorem beginAarq_withoutSnrm {settings : Settings} (snrm : settings.beginAarq.WithoutSnrm) :
    settings.beginAarq = { settings with security := 0 } := by
  obtain ⟨hdlc, -⟩ := snrm
  unfold Settings.beginAarq at hdlc ⊢
  cases interface : settings.interfaceType with
  | hdlc | hdlcWithModeE => rfl
  | wrapper | pdu =>
      simp [interface, Settings.svrSetInitialize, InterfaceType.isHdlc] at hdlc

/-- An AARQ leaves a high mechanism only where there is no connection. -/
theorem verified_aarq {aarq : Aarq} (holds : Verified (s, verified))
    (orderly : Orderly P (s, verified) (.command (.aarq aarq))) :
    Verified (s.openAssociation aarq, noteVerified P verified s (.command (.aarq aarq))) := by
  unfold Server.openAssociation
  by_cases snrm : s.settings.beginAarq.WithoutSnrm
  · rw [Server.aarq_withoutSnrm aarq snrm, beginAarq_withoutSnrm snrm, noteVerified,
      decide_eq_true snrm, Bool.and_true]
    exact verified_of_same holds rfl rfl
  · have same := Server.sameConnection_aarq aarq snrm
    dsimp only
    split
    · rename_i low
      simp only [Bool.and_eq_true, Bool.not_eq_true'] at low
      intro _ high
      exact absurd (high.symm.trans low.2) (by decide)
    · intro dlms high
      dsimp only at dlms high
      rw [same.connected] at dlms
      rw [same.authentication, orderly dlms snrm] at high
      exact absurd high Bool.false_ne_true

end Session

/-! ## Every run -/

theorem verified_step {p : Server σ × Bool} (e : Event) (holds : Verified p)
    (orderly : Orderly P p e) : Verified (Runs.observed (Server.step P) (noteVerified P) p e) := by
  obtain ⟨s, verified⟩ := p
  unfold Runs.observed
  cases e with
  | command command =>
      cases command with
      | setRequest data | writeRequest data | getRequest data | readRequest data =>
          exact verified_serve holds _ _
      | methodRequest request =>
          cases request with
          | none =>
              refine verified_of_same holds ?_ ?_ <;>
              · simp only [Server.step, Server.svrHandleCommand]
                split <;> rfl
          | some r => exact verified_methodRequest P holds orderly
      | snrm parsed =>
          cases parsed with
          | false =>
              dsimp only [noteVerified]
              rw [Bool.not_false, Bool.and_true]
              exact holds
          | true => exact verified_of_closed rfl
      | aarq aarq => exact verified_aarq P holds orderly
      | releaseRequest answered => exact verified_of_closed (release_closed P answered)
      | disc answered => exact verified_of_closed (disconnect_closed P answered)
      | none | unknown => exact holds
  | wrapperAddress clientAddress serverAddress =>
      exact verified_of_sameConnection holds (sameConnection_wrapperAddress _ _ _)
  | hdlcAddress clientAddress serverAddress snrm =>
      exact verified_of_sameConnection holds (sameConnection_hdlcAddress _ _ _ _)
  | isTarget => exact verified_isTarget holds
  | hdlcFrame =>
      simp only [Server.step]
      split
      · exact verified_of_same holds rfl rfl
      · exact holds
  | modeE =>
      simp only [Server.step]
      split
      · exact verified_of_closed rfl
      · exact holds
  | reset => exact verified_of_closed rfl

theorem associated_step {p : Server σ × Bool} (e : Event) (holds : Verified p)
    (orderly : Orderly P p e) : Associated P p e := by
  obtain ⟨s, verified⟩ := p
  intro invokes changed
  cases e with
  | command command =>
      cases command with
      | methodRequest request =>
          cases request with
          | none => exact absurd invokes id
          | some r => exact associated_methodRequest P holds orderly invokes changed
      | readRequest data | writeRequest data => exact associated_serve holds changed
      | _ => exact absurd invokes id
  | _ => exact absurd invokes id

/-- From any state without a connection, in every orderly run. -/
theorem methods_associated (s : Server σ) (es : List Event)
    (closed : s.settings.connected.dlms = false)
    (orderly : Runs.Along (Runs.observed (Server.step P) (noteVerified P)) (Orderly P)
      (s, false) es) :
    Runs.Along (Runs.observed (Server.step P) (noteVerified P)) (Associated P) (s, false) es := by
  apply Runs.along_of_invariant (Orderly P) Verified
  · exact fun p e holds admitted => verified_step P e holds admitted
  · exact fun p e holds admitted => associated_step P e holds admitted
  · exact verified_of_closed closed
  · exact orderly

end Access

section Unverified

def associationConformance : UInt32 := 0xB87800

def associationOf (ln : UInt8) (clientSAP : UInt16) (mechanismId : Authentication)
    (conformance : UInt32) (secret : List UInt8) : CosemObject :=
  .association
    ⟨#v[0, 0, 40, 0, ln, 255], 2, clientSAP, .logicalName, mechanismId, .nonAssociated, conformance,
      secret⟩

/-- The secret of `associationLow` and `associationHigh`. -/
def gurux : List UInt8 := [0x47, 0x75, 0x72, 0x75, 0x78]

/-- The four associations, `clock1` and `activePowerL1`, which has been read once. -/
def meterDevice : Device Unit where
  objects :=
    [.other objectTypeClock #v[0, 0, 1, 0, 0, 255] 6,
      associationOf 1 0x10 .none (conformanceGet ||| conformanceSet) [],
      associationOf 2 0x11 .low associationConformance gurux,
      associationOf 3 0x12 .high associationConformance gurux,
      associationOf 4 0x1 .highGmac associationConformance [],
      .other objectTypeRegister activePowerL1 1]
  activePowerL1Value := 1
  testMode := false
  executeTime := 0
  disconnectControl := ⟨true, .connected⟩
  rest := ()

/-- `lnWrapper.settings` after `svr_init`. -/
def meter : Server Unit where
  settings :=
    { interfaceType := .wrapper
      connected := .none
      authentication := .none
      security := 0
      proposedConformance := associationConformance
      negotiatedConformance := 0
      dlmsVersionNumber := 6
      maxPduSize := 0xFFFF
      serverAddress := 0
      clientAddress := 0
      sourceSystemTitle := Vector.replicate 8 0
      password := []
      ctoSChallenge := []
      stoCChallenge := []
      customChallenges := false }
  device := meterDevice

def serverChallenge : List UInt8 := [0, 1, 2, 3, 4, 5, 6, 7, 8, 9, 10, 11, 12, 13, 14, 15]

def clientChallenge : List UInt8 :=
  [16, 17, 18, 19, 20, 21, 22, 23, 24, 25, 26, 27, 28, 29, 30, 31]

/-- The server's challenge encrypted with the secret. -/
def clientAnswer : List UInt8 :=
  [0x09, 0x58, 0x43, 0xe3, 0x5f, 0x55, 0x76, 0x7c, 0xa4, 0xa0, 0x2c, 0x3f, 0x76, 0x9c, 0x41, 0xed]

def serverAnswer : List UInt8 :=
  [0x30, 0x17, 0xfe, 0x6b, 0x89, 0xbc, 0xb5, 0xa7, 0x1b, 0x79, 0x58, 0x42, 0xff, 0x83, 0xee, 0x40]

/-- AES of these two challenges; the device stays as it is in what the run does not use. -/
def meterProcedures : Procedures Unit where
  updateState _ d := d
  handleProfileGenericActions _ _ d := d
  sendPush _ d := d
  clearSettings d := d
  loadSettings d := (d, errorOk)
  loadSecurity d := (d, errorOk)
  saveSettings d := d
  saveSecurity d := d
  imageTransfer _ _ d := (d, errorOk)
  invoke _ _ _ d := (d, errorOk)
  isChangedWithAction _ _ := false
  secure settings _ _ challenge secret :=
    if settings.authentication = .high ∧ secret = gurux then
      if challenge = serverChallenge then .ok clientAnswer
      else if challenge = clientChallenge then .ok serverAnswer
      else .error errorInvalidParameter
    else .error errorInvalidParameter
  systemTitle _ := []
  invocationCounter _ := 0
  handleGetRequest _ _ d := d
  handleSetRequest _ _ d := d
  handleReadRequest _ _ d := d
  handleWriteRequest _ _ d := d

def highAarq : Aarq where
  mechanism := some 2
  password := none
  ctoSChallenge := some clientChallenge
  sourceSystemTitle := none
  security := none
  ciphered := false
  conformance := some associationConformance
  dlmsVersionNumber := some 6
  maxPduSize := some 1024
  ret := .ok
  result := .accepted
  diagnostic := diagnosticNone
  challenge := serverChallenge
  challengeStored := true
  replyBuilt := true

/-- A client proposes the high mechanism from the address that belongs to it. -/
def proposeHigh : List Event :=
  [.wrapperAddress 0x12 1, .isTarget, .command (.aarq highAarq)]

def answerChallenge : Event :=
  .command (.methodRequest (some
    ⟨objectTypeAssociationLogicalName, defaultAssociation, 1, clientAnswer, true⟩))

/-- Method 1 of `activePowerL1`, reset. -/
def resetPower : Event :=
  .command (.methodRequest (some ⟨objectTypeRegister, activePowerL1, 1, [0], true⟩))

theorem method_without_association :
    ¬ ∀ (P : Procedures Unit) (s : Server Unit) (es : List Event) (e : Event),
      s.settings.connected.dlms = false →
        Associated P (Runs.run (Runs.observed (Server.step P) (noteVerified P)) (s, false) es) e := by
  intro always
  have associated := always meterProcedures meter proposeHigh resetPower rfl
  revert associated
  decide +kernel

theorem answeredChallenge_associated :
    Runs.Along (Runs.observed (Server.step meterProcedures) (noteVerified meterProcedures))
      (Associated meterProcedures) (meter, false) (proposeHigh ++ [answerChallenge, resetPower]) :=
  methods_associated meterProcedures meter (proposeHigh ++ [answerChallenge, resetPower]) rfl
    (by decide +kernel)

end Unverified
end DlmsGateway.DlmsServer
