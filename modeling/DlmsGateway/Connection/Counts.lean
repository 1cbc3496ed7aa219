import DlmsGateway.Connection.Requests
import DlmsGateway.Gateway.Put

/-!
# The counts of the shared buffers

Six places set `RX_Count` or `TX_Count` of `GW_STRUCT` and `HDLC_STRUCT`.  Two
of them stay within the arrays whatever happens (a local reply, a reply in one
frame); for the others the condition says which inputs are small enough.
-/
set_option autoImplicit false
namespace DlmsGateway

open ByteStore

def Buffer.CountsInside (b : Buffer) : Prop :=
  b.rxCount.toNat ≤ 2048 ∧ b.txCount.toNat ≤ 2048

instance (b : Buffer) : Decidable b.CountsInside := inferInstanceAs (Decidable (_ ∧ _))

def System.CountsInside (s : System) : Prop := s.gw.CountsInside ∧ s.hdlc.CountsInside

instance (s : System) : Decidable s.CountsInside := inferInstanceAs (Decidable (_ ∧ _))

/-- What arrives, and what is made of it, is small enough for the arrays. -/
def System.Fitting (s : System) : Event → Prop
  | .clientRecv ret _ =>
      ∀ frame ∈ (s.clientArrival ret).frame, s.gw.rxCount.toNat + frame.length ≤ 2048
  | .serialRead ret => ret.isSome = true
  | .push message => message.length ≤ 2048
  | .gwRun _ =>
      (s.globals.gwState = .informationFrame → s.gwTmp.dstSizeAndPhyAdd.isSome = true →
        s.gwTmp.logicalAddress ≤ 16383 →
          s.gwTmp.rxCount.toNat + s.gwTmp.addLen.toNat + 2 ≤ 2048) ∧
      (s.globals.gwState = .responseForMdm → ¬ s.hdlcTmp.Segmented →
        s.globals.segmentBit = .middleFrame → ∀ f ∈ s.hdlcTmp.acceptedFrame,
          f.prefixSize + (s.globals.lastByteBuffer + UInt16.ofNat f.dataLen).toNat ≤ 2051)
  | _ => True

instance (s : System) : ∀ e, Decidable (s.Fitting e)
  | .clientRecv .. => inferInstanceAs (Decidable (∀ _ ∈ _, _))
  | .serialRead _ => inferInstanceAs (Decidable (_ = _))
  | .push _ => inferInstanceAs (Decidable (_ ≤ _))
  | .gwRun _ => inferInstanceAs (Decidable ((_ → _) ∧ (_ → _)))
  | .clientConnect | .clientInactive | .accept | .listenRecv .. | .send .. | .serialWrite =>
      .isTrue trivial

/-! ## A reply in one frame -/

theorem endOfAddress_cases {rx : Nat → UInt8} {start size i : Nat}
    (found : endOfAddress rx start size = some i) :
    rx i &&& 0x1 = 0x1 ∧ start ≤ i ∧ i < size ∧ ∀ j, start ≤ j → j < i → rx j &&& 0x1 ≠ 0x1 := by
  rw [endOfAddress, List.find?_range'_eq_some] at found
  obtain ⟨odd, member, before⟩ := found
  rw [List.mem_range'_1] at member
  refine ⟨by simpa using odd, member.1, by omega, ?_⟩
  intro j low high
  simpa using before j low high

/-- The meter's address ends at index 5 at the earliest, or the length field is short: without an
odd byte for the client's address the meter's ends in the length field itself. -/
theorem addEnd_of_located {rx : Nat → UInt8} {f : MeterFrame}
    (located : locateMeterFrame rx = .ok f) : 5 ≤ f.addEnd ∨ f.size ≤ 1793 := by
  obtain ⟨found, address, room, size⟩ := located_cases located
  obtain ⟨odd, low, -, before⟩ := endOfAddress_cases found
  have length : f.addEnd - (endOfAddress rx 3 (recDataSize rx)).getD 0 = 4 ∨
      f.addEnd - (endOfAddress rx 3 (recDataSize rx)).getD 0 = 2 := by
    unfold meterAddress at address
    split_ifs at address with four two
    · exact .inl four
    · exact .inr two
  cases dstEnd : endOfAddress rx 3 (recDataSize rx) with
  | some j =>
      obtain ⟨-, start, -, -⟩ := endOfAddress_cases dstEnd
      rw [dstEnd, Option.getD_some] at length
      omega
  | none =>
      rw [dstEnd, Option.getD_none] at length low before
      rw [endOfAddress, List.find?_range'_eq_none] at dstEnd
      have early : f.addEnd = 2 := by
        by_contra late
        have even := dstEnd f.addEnd (by omega) (by omega)
        simp [odd] at even
      have even : (rx 1 &&& 0x1).toNat ≠ 1 := by
        intro one
        exact before 1 (Nat.le_refl 1) (by omega) (UInt8.toNat_inj.mp one)
      right
      rw [toNat_and_one] at even
      rw [size, recDataSize_mod, toNat_joinBytes]
      have second := (rx 2).toNat_lt
      omega

theorem single_size_le {rx : Nat → UInt8} {f : MeterFrame} (located : locateMeterFrame rx = .ok f) :
    f.prefixSize + f.apduLenReal ≤ 2051 := by
  have bounds := prefixSize_le f
  have size := recDataSize_le rx
  rw [← size_of_located located] at size
  rw [MeterFrame.apduLenReal]
  rcases addEnd_of_located located with late | short
  · omega
  · omega

/-! ## `GW_STRUCT` -/

theorem countsInside_deliver {rx : Nat → UInt8} {f : MeterFrame} {gw : Buffer} {g : Globals}
    {ctrl : CtrlByteStr} (located : locateMeterFrame rx = .ok f)
    (fits : g.segmentBit = .lastFrame →
      f.prefixSize + (g.lastByteBuffer + UInt16.ofNat f.dataLen).toNat ≤ 2051) :
    (deliver rx f gw g ctrl).gw.CountsInside := by
  have short := dataLen_le_of_located located
  have cleared : (deliver rx f gw g ctrl).gw.rxCount = 0 := by
    apply rxCount_deliver _ _ _ _ _ short
    intro last
    have := fits last
    omega
  refine ⟨by rw [cleared]; decide, ?_⟩
  have toNat_le : ∀ n, n ≤ 2051 → (UInt32.ofNat (n - 3)).toNat ≤ 2048 := by
    intro n bound
    rw [UInt32.toNat_ofNat']
    omega
  cases bit : g.segmentBit with
  | middleFrame =>
      rw [deliver_middle _ _ _ _ _ bit]
      dsimp only
      rw [Buffer.txCount_copyTx_zero _ (by omega) fun _ _ =>
        get_hesFrame_past rx f (by omega) short]
      decide
  | singleFrame =>
      rw [deliver_single _ _ _ _ _ bit]
      exact toNat_le _ (single_size_le located)
  | lastFrame =>
      rw [deliver_last _ _ _ _ _ bit]
      exact toNat_le _ (fits bit)

section Gw
variable {s : System}

theorem gw_countsInside_gwRun (now : Timeval) (inside : s.gw.CountsInside)
    (fitting : s.Fitting (.gwRun now)) : (s.toGwRun.step now).gw.CountsInside := by
  rw [GwRun.gw_step]
  split
  · exact ⟨Nat.zero_le _, inside.2⟩
  split
  · rename_i converting
    rcases convertor_cases s.hdlcTmp s.gw s.globals s.ctrl with
      ⟨-, code, -, outcome⟩ | ⟨-, -, code, -, outcome⟩ | ⟨f, accepted, outcome⟩
    · rw [outcome]
      exact inside
    · rw [outcome]
      exact inside
    · rw [outcome]
      apply countsInside_deliver accepted.1.2
      intro last
      rw [segmentBit_classify] at last
      split_ifs at last with bit midway
      rw [classify_last bit midway]
      exact fitting.2 converting bit midway f (Buffer.acceptedFrame_eq_some.mpr accepted)
  · exact inside

theorem countsInside_putTx {b : Buffer} {bytes : List UInt8} (inside : b.CountsInside)
    (short : bytes.length ≤ 2048) : (b.putTx bytes).CountsInside := by
  refine ⟨?_, ?_⟩
  · rw [Buffer.rxCount_putTx (by omega)]
    exact inside.1
  · rw [Buffer.putTx]
    exact Nat.le_trans (Nat.le_of_eq (Buffer.toNat_ofNat_length short)) short

theorem countsInside_receiveMore {b : Buffer} {bytes : List UInt8} (inside : b.CountsInside)
    (fits : b.rxCount.toNat + bytes.length ≤ 2048) : (b.receiveMore bytes).CountsInside := by
  refine ⟨?_, inside.2⟩
  rw [Buffer.receiveMore]
  dsimp only
  rw [UInt32.toNat_add, Buffer.toNat_ofNat_length (by omega)]
  omega

theorem countsInside_receive {b : Buffer} {bytes : List UInt8} (inside : b.CountsInside)
    (short : bytes.length ≤ 2048) : (b.receive bytes).CountsInside :=
  ⟨Nat.le_trans (Nat.le_of_eq (Buffer.toNat_ofNat_length short)) short, inside.2⟩

theorem gw_countsInside_putReply (reply : Chunk 1032) (inside : s.gw.CountsInside) :
    (s.putReply reply).gw.CountsInside := by
  have short := reply.bound
  unfold System.putReply
  split
  · exact inside
  · exact countsInside_putTx inside (by omega)

theorem gw_countsInside_clientRecv {ret : Option (Chunk 2048)} {reply : Chunk 1032}
    (inside : s.gw.CountsInside) (fitting : s.Fitting (.clientRecv ret reply)) :
    (s.clientRecv ret reply).gw.CountsInside := by
  simp only [System.Fitting, System.clientArrival] at fitting
  unfold System.clientRecv
  by_cases connected : s.clientConnected = true
  · rw [if_pos connected] at fitting ⊢
    cases arrived : arrival s.clientTmp ret with
    | lost => exact inside
    | forGateway tmp chunk =>
        rw [arrived] at fitting
        exact countsInside_receiveMore inside (fitting chunk.bytes rfl)
    | forServer tmp => exact gw_countsInside_putReply (s := { s with clientTmp := tmp }) reply inside
  · rw [if_neg connected]
    exact inside

theorem gw_countsInside_listenRecv {ret : Option (Chunk 2048)} {failed : Bool}
    {reply : Chunk 1032} (inside : s.gw.CountsInside) :
    (s.listenRecv ret failed reply).gw.CountsInside := by
  unfold System.listenRecv
  split
  · split
    · exact inside
    · rename_i tmp chunk arrived
      exact countsInside_receive inside chunk.bound
    · rename_i tmp arrived
      exact gw_countsInside_putReply
        (s := { s with listenTmp := tmp, acceptOpen := s.acceptOpen && !failed }) reply inside
  · exact inside

theorem gw_countsInside_send (serverOk clientOk : Bool) (inside : s.gw.CountsInside) :
    ((s.sendToServer serverOk).sendToClient clientOk).gw.CountsInside := by
  unfold System.sendToServer System.sendToClient
  dsimp only
  split_ifs <;> exact ⟨inside.1, by first | exact inside.2 | exact Nat.zero_le _⟩

theorem gw_countsInside_step (e : Event) (inside : s.gw.CountsInside) (fitting : s.Fitting e) :
    (s.step e).gw.CountsInside := by
  cases e with
  | clientRecv ret reply => exact gw_countsInside_clientRecv inside fitting
  | listenRecv ret failed reply => exact gw_countsInside_listenRecv inside
  | accept =>
      rw [System.step, System.accept]
      split <;> exact inside
  | push message => exact countsInside_putTx inside fitting
  | send serverOk clientOk => exact gw_countsInside_send serverOk clientOk inside
  | gwRun now => exact gw_countsInside_gwRun now inside fitting
  | serialRead ret => cases ret <;> exact inside
  | clientConnect | clientInactive | serialWrite => exact inside

end Gw

/-! ## `HDLC_STRUCT` -/

section Hdlc
variable {s : System}

theorem countsInside_controlFrame {gw hdlc b : Buffer} {logical : UInt16} {control : UInt8}
    (inside : hdlc.CountsInside) (framed : controlFrame gw hdlc logical control = some b) :
    b.CountsInside := by
  obtain ⟨-, -, -, -, -, rx, -, tx⟩ := controlFrame_sent framed
  refine ⟨by rw [rx]; exact inside.1, ?_⟩
  have short : b.txCount.toNat ≤ 12 := UInt32.le_iff_toNat_le.mp tx
  omega

theorem countsInside_frameConvertor {gw hdlc : Buffer} {ctrl : CtrlByteStr}
    (inside : hdlc.CountsInside)
    (fits : gw.dstSizeAndPhyAdd.isSome = true → gw.logicalAddress ≤ 16383 →
      gw.rxCount.toNat + gw.addLen.toNat + 2 ≤ 2048) :
    (gw2HdlcFrameConvertor gw hdlc ctrl).2.1.CountsInside := by
  unfold gw2HdlcFrameConvertor
  cases accepted : gw.dstSizeAndPhyAdd with
  | none => exact inside
  | some pair =>
      obtain ⟨dstSize, phyAdd⟩ := pair
      dsimp only
      split
      · exact inside
      · rename_i small
        have room := fits (by rw [accepted]; rfl) (UInt16.not_lt.mp small)
        have sizes : dstSize = 2 * gw.addLen.toNat ∧ gw.addLen.toNat ≤ 2 := by
          unfold Buffer.dstSizeAndPhyAdd at accepted
          split_ifs at accepted with one two <;> cases accepted
          · rw [one]
            decide
          · rw [two]
            decide
        refine ⟨?_, ?_⟩
        · dsimp only
          rw [Buffer.rxCount_copyTx_of_le _ _ (by omega)]
          exact inside.1
        · dsimp only
          rw [UInt32.toNat_ofNat']
          omega

theorem countsInside_generators {gw hdlc : Buffer} (control : UInt8) (inside : hdlc.CountsInside) :
    (gw2HdlcSnrmGenerator gw hdlc).2.CountsInside ∧
      (gw2HdlcPollForRemainedData gw hdlc control).2.CountsInside ∧
      (gw2HdlcDiscGenerator gw hdlc).2.CountsInside := by
  unfold gw2HdlcSnrmGenerator gw2HdlcPollForRemainedData gw2HdlcDiscGenerator
  refine ⟨?_, ?_, ?_⟩
  all_goals
    split
    · rename_i b framed
      exact countsInside_controlFrame inside framed
    · exact inside

theorem hdlc_countsInside_gwRun (now : Timeval) (inside : s.hdlc.CountsInside)
    (fitting : s.Fitting (.gwRun now)) : (s.toGwRun.step now).hdlc.CountsInside := by
  have cleared : s.clearHdlcRxCount.hdlc.CountsInside := ⟨Nat.zero_le _, inside.2⟩
  have framed (control : UInt8) :
      (gw2HdlcSnrmGenerator s.gwTmp s.clearHdlcRxCount.hdlc).2.CountsInside ∧
        (gw2HdlcPollForRemainedData s.gwTmp s.clearHdlcRxCount.hdlc control).2.CountsInside ∧
        (gw2HdlcDiscGenerator s.gwTmp s.clearHdlcRxCount.hdlc).2.CountsInside :=
    countsInside_generators control cleared
  cases state : s.globals.gwState with
  | waitForGetFrame =>
      simp only [GwRun.step, state, GwRun.waitForGetFrame]
      split <;> exact inside
  | snrmRequest =>
      simp only [GwRun.step, state, GwRun.snrmRequest]
      split <;> exact (framed 0).1
  | snrmResponse =>
      simp only [GwRun.step, state, GwRun.snrmResponse]
      split_ifs <;> first | exact inside | exact cleared
  | informationFrame =>
      simp only [GwRun.step, state, GwRun.informationFrame]
      split <;> exact countsInside_frameConvertor cleared (fitting.1 state)
  | response =>
      simp only [GwRun.step, state, GwRun.response]
      split_ifs <;> first | exact inside | exact cleared
  | segment =>
      simp only [GwRun.step, state, GwRun.segment]
      exact (framed _).2.1
  | responseForMdm =>
      simp only [GwRun.step, state, GwRun.responseForMdm]
      split <;> exact inside
  | discRequest =>
      simp only [GwRun.step, state, GwRun.discRequest]
      split <;> exact (framed 0).2.2
  | discResponse =>
      simp only [GwRun.step, state, GwRun.discResponse]
      split_ifs <;> exact inside

theorem hdlc_countsInside_step (e : Event) (inside : s.hdlc.CountsInside) (fitting : s.Fitting e) :
    (s.step e).hdlc.CountsInside := by
  by_cases own : System.IsGwRun e
  · obtain ⟨now, rfl⟩ := System.exists_of_isGwRun own
    exact hdlc_countsInside_gwRun now inside fitting
  · rw [System.hdlc_step s e own]
    cases e with
    | serialRead ret =>
        cases ret with
        | none => cases fitting
        | some chunk =>
            have short := chunk.bound
            exact countsInside_receive inside (by omega)
    | serialWrite => exact ⟨inside.1, Nat.zero_le _⟩
    | _ => exact inside

end Hdlc

/-- In a run in which everything that arrives is small enough, no count leaves the arrays. -/
theorem counts_inside (s : System) (es : List Event) (initial : s.Initial)
    (fitting : Runs.Along System.step System.Fitting s es) :
    (Runs.run System.step s es).CountsInside := by
  apply Runs.invariant System.Fitting System.CountsInside _ es s _ fitting
  · exact fun s e inside admitted =>
      ⟨gw_countsInside_step e inside.1 admitted, hdlc_countsInside_step e inside.2 admitted⟩
  · obtain ⟨gwRx, gwTx⟩ := initial.gwCounts
    obtain ⟨hdlcRx, hdlcTx⟩ := initial.hdlcCounts
    simp only [System.CountsInside, Buffer.CountsInside, gwRx, gwTx, hdlcRx, hdlcTx]
    decide

/-- A failed `read` on RS485 is stored as a count. -/
theorem count_outside : ¬ ∀ s : System, s.Reachable → s.CountsInside := by
  intro always
  have inside := always (Runs.run System.step System.start [.serialRead none])
    ⟨System.start, _, System.start_initial, rfl⟩
  revert inside
  decide

theorem answeredRun_counts_inside :
    (Runs.run System.step System.start (answeredRun ++ [.send true true])).CountsInside := by
  apply counts_inside
  · exact System.start_initial
  · decide +kernel

end DlmsGateway
