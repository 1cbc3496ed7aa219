import DlmsGateway.Gateway.Progress
import DlmsGateway.Gateway.Put
import DlmsGateway.Gateway.RequestBounds

/-!
# Which requests reach the meter

`Check_GW_Frame_Valid` has no caller.  A taken request is turned down by the
generators alone: for its address length, and by `GW2HDLC_Frame_Convertor` also
for its logical address.  A request that is not turned down has its first frame
put in the next iteration; one that is turned down has none put, however long
the system runs before it takes another.
-/
set_option autoImplicit false
namespace DlmsGateway

open ByteStore

inductive FrameValidity where
  | valid
  | networkIdError
  | headerError
  | versionError
deriving DecidableEq, Repr

def checkGwFrameValid (gw : Buffer) : FrameValidity :=
  if gw.rxByte 0 = 0 ∧ gw.rxByte 1 = 1 then
    if gw.rxByte 8 = 0xE6 then
      if gw.rxByte 9 = 0x00 then .valid else .networkIdError
    else .headerError
  else .versionError

/-- The prefix passes the check and agrees with the number of received bytes. -/
structure Buffer.WellFormed (gw : Buffer) : Prop where
  valid : checkGwFrameValid gw = .valid
  addLen : gw.addLen = 1 ∨ gw.addLen = 2
  whole : 11 + gw.addLen.toNat ≤ gw.rxCount.toNat
  length : gw.apduSize.toNat = gw.rxCount.toNat - 8

def Buffer.TurnedDown (gw : Buffer) : Prop :=
  ¬ (gw.addLen = 1 ∨ gw.addLen = 2) ∨ (checkGwFrameType gw ≠ 0x60 ∧ 16383 < gw.logicalAddress)

instance (gw : Buffer) : Decidable gw.TurnedDown := inferInstanceAs (Decidable (_ ∨ _))

/-- `GW_tmp` with the request that is taken next. -/
def GwRun.taken (s : GwRun) : Buffer := { s.gwTmp with rx := Bytes.zero }.takeRx s.gw

namespace System

def NoTake (s : System) : Event → Prop
  | .gwRun _ => ¬ s.Takes
  | _ => True

/-- The request taken now has a frame put for it, before another is taken. -/
def PutsFor (s : System) : Prop :=
  ∃ now es, Runs.Along step NoTake (s.step (.gwRun now)) es ∧
    (Runs.run step (s.step (.gwRun now)) es).puts ≠ none

/-! ## A request that is turned down -/

/-- Nothing is put for the request: no generator accepts its address length, or it is at the one
that also minds the logical address. -/
def Silent (gwTmp : Buffer) (s : System) : Prop :=
  s.gwTmp = gwTmp ∧ (gwTmp.dstSizeAndPhyAdd = none ∨ (16383 < gwTmp.logicalAddress ∧
    (s.globals.gwState = .informationFrame ∨ s.globals.gwState = .waitForGetFrame)))

section Silent
variable {s : System} {gwTmp : Buffer}

theorem controlFrame_of_rejected {gw hdlc : Buffer} {logical : UInt16} {control : UInt8}
    (rejected : gw.dstSizeAndPhyAdd = none) : controlFrame gw hdlc logical control = none := by
  rw [controlFrame, rejected]

theorem frameConvertor_of_turned_down {gw hdlc : Buffer} {ctrl : CtrlByteStr}
    (refuses : gw.dstSizeAndPhyAdd = none ∨ 16383 < gw.logicalAddress) :
    (gw2HdlcFrameConvertor gw hdlc ctrl).1 < 0 := by
  unfold gw2HdlcFrameConvertor
  cases accepted : gw.dstSizeAndPhyAdd with
  | none => exact Int.negSucc_lt_zero 0
  | some pair =>
      rw [accepted] at refuses
      dsimp only
      rw [if_pos (refuses.resolve_left (by simp))]
      exact Int.negSucc_lt_zero 1

theorem puts_of_silent (silent : s.Silent gwTmp) : s.puts = none := by
  obtain ⟨rfl, cause⟩ := silent
  unfold GwRun.puts
  cases state : s.globals.gwState with
  | informationFrame =>
      have refuses := cause.imp_right And.left
      dsimp only
      rw [if_neg (Int.not_lt.mpr (Int.le_of_lt (frameConvertor_of_turned_down refuses)))]
  | snrmRequest =>
      have rejected := cause.resolve_right (by simp [state])
      simp only [gw2HdlcSnrmGenerator, controlFrame_of_rejected rejected]
      decide
  | segment =>
      have rejected := cause.resolve_right (by simp [state])
      simp only [gw2HdlcPollForRemainedData, controlFrame_of_rejected rejected]
      decide
  | discRequest =>
      have rejected := cause.resolve_right (by simp [state])
      simp only [gw2HdlcDiscGenerator, controlFrame_of_rejected rejected]
      decide
  | _ => rfl

theorem silent_step (e : Event) (silent : s.Silent gwTmp) (none_ : s.NoTake e) :
    (s.step e).Silent gwTmp := by
  by_cases own : IsGwRun e
  · obtain ⟨now, rfl⟩ := exists_of_isGwRun own
    have quiet := puts_of_silent silent
    obtain ⟨same, cause⟩ := silent
    refine ⟨(GwRun.gwTmp_step now none_).1.trans same, cause.imp_right ?_⟩
    rintro ⟨high, state | state⟩
    · exact ⟨high, .inr (GwRun.step_of_failed now quiet (.inr state))⟩
    · refine ⟨high, .inr ?_⟩
      show (s.toGwRun.step now).globals.gwState = _
      rw [GwRun.step_of_idle now state fun some_ => none_ ⟨state, some_⟩, state]
  · have same := toGateway_step s e own
    unfold Silent
    rw [same]
    exact silent

theorem puts_of_run (es : List Event) (silent : s.Silent gwTmp)
    (none_ : Runs.Along step NoTake s es) : (Runs.run step s es).puts = none :=
  puts_of_silent (Runs.invariant NoTake (Silent gwTmp) (fun _ e => silent_step e) es s silent none_)

end Silent

/-! ## A request that is not -/

section Take
variable {s : System} (now : Timeval)

theorem step_of_takes (takes : s.Takes) :
    (s.step (.gwRun now)).gwTmp = s.taken ∧
      (s.step (.gwRun now)).globals.gwState = GwRun.entryState (checkGwFrameType s.taken) := by
  refine ⟨?_, congrArg Globals.gwState (GwRun.step_of_takes now takes)⟩
  show (s.toGwRun.step now).gwTmp = _
  simp only [GwRun.step, takes.1, GwRun.waitForGetFrame, if_pos takes.2]
  rfl

theorem silent_of_turned_down (takes : s.Takes) (refused : s.taken.TurnedDown) :
    (s.step (.gwRun now)).Silent s.taken := by
  obtain ⟨same, state⟩ := step_of_takes now takes
  refine ⟨same, refused.imp ?_ ?_⟩
  · intro other
    rw [Buffer.dstSizeAndPhyAdd, if_neg fun one => other (.inl one),
      if_neg fun two => other (.inr two)]
  · rintro ⟨kind, high⟩
    rw [state]
    exact ⟨high, .inl (if_neg kind)⟩

theorem puts_of_accepted (takes : s.Takes) (accepted : ¬ s.taken.TurnedDown) :
    (s.step (.gwRun now)).puts ≠ none := by
  obtain ⟨same, state⟩ := step_of_takes now takes
  rw [Buffer.TurnedDown, not_or, not_not] at accepted
  obtain ⟨form, other⟩ := accepted
  unfold GwRun.puts
  rw [state, same]
  by_cases association : checkGwFrameType s.taken = 0x60
  · obtain ⟨b, f, framed, -⟩ :=
      controlFrame_framed (s.step (.gwRun now)).clearHdlcRxCount.hdlc form
        s.taken.logicalAddress 0x93
    rw [GwRun.entryState, if_pos association]
    simp [gw2HdlcSnrmGenerator, framed]
  · obtain ⟨phyAdd, sized⟩ := accepted_of_form form
    rw [GwRun.entryState, if_neg association]
    dsimp only
    rw [if_pos]
    · simp
    · unfold gw2HdlcFrameConvertor
      rw [sized]
      dsimp only
      rw [if_neg fun high => other ⟨association, high⟩]
      exact Int.one_pos

theorem putsFor_iff (takes : s.Takes) : s.PutsFor ↔ ¬ s.taken.TurnedDown := by
  constructor
  · rintro ⟨now, es, none_, put⟩ refused
    exact put (puts_of_run es (silent_of_turned_down now takes refused) none_)
  · intro accepted
    exact ⟨⟨0, 0⟩, [], trivial, puts_of_accepted ⟨0, 0⟩ takes accepted⟩

end Take

/-- An ill-formed request stays away from the meter exactly when the generators turn it down. -/
theorem ill_formed_kept_away_iff (s : System) (takes : s.Takes) :
    (s.PutsFor → s.gw.WellFormed) ↔ s.gw.WellFormed ∨ s.taken.TurnedDown := by
  rw [putsFor_iff takes, or_iff_not_imp_right]

/-- The request of another network, which the check would turn down. -/
def foreignRequest : List UInt8 :=
  [0, 1, 0, 16, 0, 1, 0, 8, 0xE6, 5, 1, 17, 0xC0, 0x01, 0x81, 0x00, 0x05]

def foreignReceived : List Event :=
  [.clientConnect, .clientRecv (some ⟨foreignRequest, by decide⟩) noReply]

theorem foreign_request_reaches_meter :
    ¬ ∀ s : System, Reachable s → s.Takes → s.PutsFor → s.gw.WellFormed := by
  intro kept
  have takes : (Runs.run step start foreignReceived).Takes := by decide +kernel
  have formed := kept _ ⟨start, foreignReceived, start_initial, rfl⟩ takes
    ((putsFor_iff takes).mpr (by decide +kernel))
  exact absurd formed.valid (by decide +kernel)

/-- The same request for a physical address of three bytes. -/
def longAddressReceived : List Event :=
  [.clientConnect,
    .clientRecv (some ⟨[0, 1, 0, 16, 0, 1, 0, 6, 0xE6, 5, 3, 17, 17, 17], by decide⟩) noReply]

theorem long_address_kept_away :
    (Runs.run step start longAddressReceived).Takes ∧
      ((Runs.run step start longAddressReceived).PutsFor →
        (Runs.run step start longAddressReceived).gw.WellFormed) := by
  have takes : (Runs.run step start longAddressReceived).Takes := by decide +kernel
  exact ⟨takes, (ill_formed_kept_away_iff _ takes).mpr (.inr (by decide +kernel))⟩

end System
end DlmsGateway
