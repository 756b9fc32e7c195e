import RunenNet.Quic.FlowMoves

/-!
# What each flow control operation does

Every operation of flow control is a move; what it returns says which, and which frame carries
the message of the move.
-/

namespace RunenNet

open Foundation

/-! ### Frames -/

theorem ok_of_toOption {ε α : Type} {x : Except ε α} {a : α} (h : x.toOption = some a) :
    x = .ok a := by
  cases x with
  | error e => cases h
  | ok b => exact congrArg Except.ok (Option.some.inj h)

theorem ownedFrame_some {alloc : Allocator} {type : ControlFrameType} {body : Checked (List UInt8)}
    {frame : ControlFrame} (h : ownedFrame alloc type body = .ok (some frame)) :
    ∃ bytes, body = .ok bytes ∧ frame = ⟨type, bytes⟩ := by
  simp only [ownedFrame, Checked.bind_eq_ok, Checked.pure_eq, Except.ok.injEq] at h
  obtain ⟨bytes, hb, h⟩ := h
  split at h
  · exact ⟨bytes, hb, (Option.some.inj h).symm⟩
  · cases h

theorem messageOf_acceptFrame {alloc : Allocator} {f : FlowId} {frame : ControlFrame}
    (h : acceptFrame alloc f = .ok (some frame)) : messageOf frame = some (.accept f) := by
  obtain ⟨bytes, hb, rfl⟩ := ownedFrame_some h
  obtain ⟨body, he, hd⟩ := FlowAccept.decode_encode ⟨f⟩
  rw [hb, Except.ok.injEq] at he
  subst he
  simp only [messageOf, hd]
  rfl

theorem messageOf_rejectFrame {alloc : Allocator} {f : FlowId} {reason : FlowRejectReason}
    {frame : ControlFrame} (h : rejectFrame alloc f reason = .ok (some frame)) :
    messageOf frame = some (.reject f reason) := by
  obtain ⟨bytes, hb, rfl⟩ := ownedFrame_some h
  obtain ⟨body, he, hd⟩ := FlowReject.decode_encode ⟨f, reason⟩
  rw [hb, Except.ok.injEq] at he
  subst he
  simp only [messageOf, hd]
  rfl

theorem messageOf_terminateFrame {alloc : Allocator} {f : FlowId} {reason : FlowTerminateReason}
    {frame : ControlFrame} (h : terminateFrame alloc f reason = .ok (some frame)) :
    messageOf frame = some (.terminate f reason) := by
  obtain ⟨bytes, hb, rfl⟩ := ownedFrame_some h
  obtain ⟨body, he, hd⟩ := FlowTerminate.decode_encode ⟨f, reason⟩
  rw [hb, Except.ok.injEq] at he
  subst he
  simp only [messageOf, hd]
  rfl

theorem messageOf_openFrame {alloc : Allocator} {o : OpenFlow} {frame : ControlFrame}
    (h0 : o.maxMessageBytes ≠ 0) (hmax : o.maxMessageBytes ≤ maxVarint)
    (h : ownedFrame alloc .openFlow o.encode = .ok (some frame)) :
    messageOf frame = some (.openFlow o) := by
  obtain ⟨bytes, hb, rfl⟩ := ownedFrame_some h
  obtain ⟨body, he, hd⟩ := OpenFlow.decode_encode h0 hmax
  rw [hb, Except.ok.injEq] at he
  subst he
  simp only [messageOf, hd]
  rfl

/-! ### The endpoint's part -/

namespace DeliveryEndpoint

variable {e e' : DeliveryEndpoint} {key : DeliveryFlowKey}

theorem establishFlow_ok {mode : DeliveryMode} {policy : FlowResourcePolicy}
    {limits : DeliveryScopeLimits} (h : e.establishFlow key mode policy limits = .ok (.ok (), e')) :
    e'.flows = e.flows.insert key (.new mode policy) := by
  unfold establishFlow at h
  split at h
  · cases h
  · split at h
    · cases h
    · split at h
      · cases h
      · split at h
        · cases h
        · simp only [Checked.bind_eq_ok, Checked.pure_eq, Except.ok.injEq, Prod.mk.injEq,
            true_and] at h
          obtain ⟨_, -, _, -, rfl⟩ := h
          rfl

theorem establishFlow_error {mode : DeliveryMode} {policy : FlowResourcePolicy}
    {limits : DeliveryScopeLimits} {err : FlowEstablishmentError}
    (h : e.establishFlow key mode policy limits = .ok (.error err, e')) : e' = e := by
  unfold establishFlow at h
  split at h
  · cases h; rfl
  · split at h
    · cases h; rfl
    · split at h
      · cases h; rfl
      · split at h
        · cases h; rfl
        · simp only [Checked.bind_eq_ok, Checked.pure_eq, Except.ok.injEq, Prod.mk.injEq,
            reduceCtorEq, false_and, and_false, exists_false] at h

/-- A termination removes the flow or finds none. -/
theorem terminateFlow_flows {reason : FlowTerminationReason}
    {r : Except DeliveryOperationError FlowTermination}
    (h : e.terminateFlow key reason = .ok (r, e')) :
    (r = .error .unknownFlow ∧ e' = e) ∨
      ∃ report, r = .ok report ∧ report.key = key ∧ e'.flows = e.flows.erase key := by
  unfold terminateFlow at h
  split at h
  · cases h
    exact .inl ⟨rfl, rfl⟩
  · simp only [Checked.bind_eq_ok, Checked.pure_eq, Except.ok.injEq, Prod.mk.injEq] at h
    obtain ⟨_, -, _, -, _, -, rfl, rfl⟩ := h
    exact .inr ⟨_, rfl, rfl, rfl⟩

theorem terminateFlow_absent {reason : FlowTerminationReason}
    {r : Except DeliveryOperationError FlowTermination}
    (h : e.terminateFlow key reason = .ok (r, e')) {k : DeliveryFlowKey}
    (hk : e.flows.get? k = none) : e'.flows.get? k = none := by
  rcases terminateFlow_flows h with ⟨-, rfl⟩ | ⟨_, -, -, hfl⟩
  · exact hk
  · rw [hfl, SortedMap.get?_erase]
    split
    · rfl
    · exact hk

end DeliveryEndpoint

namespace FlowControl

variable {fc fc' : FlowControl} {alloc : Allocator} {e e' : DeliveryEndpoint}

/-! ### Opening -/

/-- A prepared open takes the next `FlowId` and sends its message. -/
structure Opens (fc fc' : FlowControl) (request : OutboundOpenRequest)
    (prepared : PreparedOutboundOpen) (flowId : FlowId) : Prop where
  expected : fc.localFlowIds.Expects flowId
  fresh : fc.pendingOutbound.get? flowId.value = none
  state : fc' = fc.opening request flowId
  flow : prepared.flow = ⟨flowId, request.key, request.mode, request.stableMaxMessageBytes.get⟩
  message : messageOf prepared.frame = some (.openFlow
    ⟨flowId, request.mode, request.stableMaxMessageBytes.get⟩)
  identity : request.key.connection = fc.connection ∧ request.key.direction = .outbound
  limit : request.stableMaxMessageBytes.get ≤ maxVarint

theorem commitOutboundOpen_effect {request : OutboundOpenRequest} {flowId : FlowId}
    {cursor : FlowIdCursor} (hid : fc.localFlowIds.allocate = .ok (.ok flowId, cursor))
    (hmax : request.stableMaxMessageBytes.get ≤ maxVarint)
    (hkey : request.key.connection = fc.connection ∧ request.key.direction = .outbound)
    {r : Except OutboundOpenError PreparedOutboundOpen}
    (h : fc.commitOutboundOpen alloc request flowId = .ok (r, fc')) :
    ((∃ err, r = .error err) ∧ fc' = fc) ∨
      ∃ prepared, r = .ok prepared ∧ Opens fc fc' request prepared flowId := by
  obtain ⟨hnone, hr, -⟩ | ⟨f, hr, hside, hnext, hcursor⟩ := FlowIdCursor.allocate_cases hid
  · cases hr
  cases hr
  have h0 : request.stableMaxMessageBytes.get ≠ 0 :=
    Nat.pos_iff_ne_zero.mp request.stableMaxMessageBytes.pos
  unfold commitOutboundOpen at h
  simp only at h
  split at h
  · cases h
    exact .inl ⟨⟨_, rfl⟩, rfl⟩
  · simp only [OpenFlow.new, if_neg h0, if_neg (not_lt.mpr hmax)] at h
    rw [Checked.bind_eq_ok] at h
    obtain ⟨frame, hframe, h⟩ := h
    cases frame with
    | none =>
      cases h
      exact .inl ⟨⟨_, rfl⟩, rfl⟩
    | some frame =>
      simp only [hid, Checked.ok_bind] at h
      simp only [Checked.bind_eq_ok, Checked.assert_eq_ok, Checked.pure_eq, Except.ok.injEq,
        Prod.mk.injEq] at h
      obtain ⟨_, -, _, hfresh, rfl, rfl⟩ := h
      refine .inr ⟨_, rfl, ⟨hside, hnext⟩, by simpa using hfresh, ?_, rfl, ?_, hkey, hmax⟩
      · rw [hcursor]
        rfl
      · exact messageOf_openFrame h0 hmax hframe

theorem validateOutboundIdentity_ok {key : DeliveryFlowKey}
    (h : fc.validateOutboundIdentity e key = .ok ()) :
    key.connection = fc.connection ∧ key.direction = .outbound ∧ e.flows.get? key = none ∧
      ∀ v pending, fc.pendingOutbound.get? v = some pending → pending.key ≠ key := by
  unfold validateOutboundIdentity at h
  split at h
  · cases h
  · rename_i hc
    split at h
    · cases h
    · rename_i hd
      split at h
      · cases h
      · rename_i hflow
        split at h
        · cases h
        · rename_i hpending
          refine ⟨by simpa using hc, by simpa using hd, ?_, fun v pending hv heq => hpending ?_⟩
          · simpa [DeliveryEndpoint.flowContract] using hflow
          · exact List.any_eq_true.mpr
              ⟨pending, SortedMap.mem_values.mpr ⟨v, hv⟩, decide_eq_true heq⟩

theorem validateOutboundLimits_ok {request : OutboundOpenRequest}
    (h : fc.validateOutboundLimits request = .ok ()) :
    request.policy.validateForMode request.mode = .ok () ∧
      request.policy.maxMessageBytes.get = request.stableMaxMessageBytes.get ∧
      request.stableMaxMessageBytes.get ≤ maxVarint ∧
      request.stableMaxMessageBytes.get ≤ fc.peerSettings.maxIncomingMessageBytes ∧
      (checkedAdd usizeMax (fc.registry.activeDirectionLen .outbound)
        fc.pendingOutbound.size).getD u64Max < fc.peerSettings.maxActiveIncomingFlows := by
  unfold validateOutboundLimits at h
  simp only at h
  split at h
  · cases h
  · rename_i hpolicy
    split at h
    · cases h
    · rename_i hstable
      split at h
      · cases h
      · rename_i hmax
        split at h
        · cases h
        · rename_i hpeer
          split at h
          · cases h
          · rename_i hlimit
            exact ⟨hpolicy, by simpa using hstable, not_lt.mp hmax, not_lt.mp hpeer,
              not_le.mp hlimit⟩

/-- Opening changes nothing unless it sends an open. -/
theorem prepareOutboundOpen_effect {request : OutboundOpenRequest} {size : Option Nat}
    {r : Except OutboundOpenError PreparedOutboundOpen}
    (h : fc.prepareOutboundOpen alloc e request size = .ok (r, fc')) :
    ((∃ err, r = .error err) ∧ fc' = fc) ∨
      ∃ prepared flowId, r = .ok prepared ∧ Opens fc fc' request prepared flowId := by
  unfold prepareOutboundOpen at h
  split at h
  · cases h
    exact .inl ⟨⟨_, rfl⟩, rfl⟩
  · rename_i hidentity
    split at h
    · cases h
      exact .inl ⟨⟨_, rfl⟩, rfl⟩
    · rename_i hlimits
      rw [Checked.bind_eq_ok] at h
      obtain ⟨⟨preview, cursor⟩, hid, h⟩ := h
      obtain ⟨hconnection, hdirection, -, -⟩ := validateOutboundIdentity_ok hidentity
      obtain ⟨-, -, hmax, -, -⟩ := validateOutboundLimits_ok hlimits
      cases preview with
      | error err =>
        cases h
        exact .inl ⟨⟨_, rfl⟩, rfl⟩
      | ok flowId =>
        simp only at h
        split at h
        · cases h
          exact .inl ⟨⟨_, rfl⟩, rfl⟩
        · rcases commitOutboundOpen_effect hid hmax ⟨hconnection, hdirection⟩ h with
            hleft | ⟨prepared, hr, hopens⟩
          · exact .inl hleft
          · exact .inr ⟨prepared, flowId, hr, hopens⟩

/-- A prepared open has passed every check. -/
theorem prepareOutboundOpen_checked {request : OutboundOpenRequest} {size : Option Nat}
    {prepared : PreparedOutboundOpen}
    (h : fc.prepareOutboundOpen alloc e request size = .ok (.ok prepared, fc')) :
    fc.validateOutboundIdentity e request.key = .ok () ∧ fc.validateOutboundLimits request = .ok () ∧
      validateDatagramSize prepared.flow.flowId request.mode request.stableMaxMessageBytes.get size
        = .ok () := by
  unfold prepareOutboundOpen at h
  split at h
  · cases h
  · rename_i hidentity
    split at h
    · cases h
    · rename_i hlimits
      rw [Checked.bind_eq_ok] at h
      obtain ⟨⟨preview, cursor⟩, hid, h⟩ := h
      obtain ⟨hconnection, hdirection, -, -⟩ := validateOutboundIdentity_ok hidentity
      obtain ⟨-, -, hmax, -, -⟩ := validateOutboundLimits_ok hlimits
      cases preview with
      | error err => cases h
      | ok flowId =>
        simp only at h
        split at h
        · cases h
        · rename_i hsize
          rcases commitOutboundOpen_effect hid hmax ⟨hconnection, hdirection⟩ h with
            ⟨⟨_, herr⟩, -⟩ | ⟨_, hr, hopens⟩
          · cases herr
          · cases hr
            rw [hopens.flow]
            exact ⟨hidentity, hlimits, hsize⟩

/-- The message of the frame, if there is one. -/
def Carries (sent : Option ControlFrame) (message : Option FlowMessage) : Prop :=
  sent.bind messageOf = message ∧ (message = none → sent = none)

/-! ### Registering -/

variable {flowId : FlowId} {key : DeliveryFlowKey} {registry' : AcceptedFlowRegistry}

theorem registers_of_ok {stable : NonZeroUsize} {reserves : Bool}
    (h : fc.registry.registerConsumedAcceptedFlow e flowId key stable reserves =
      (.ok (), registry')) {mode : DeliveryMode} {policy : FlowResourcePolicy}
    (hflow : e.flows.get? key = some (.new mode policy)) :
    ∃ flow, Registers fc flowId key.direction flow registry' ∧ flow.mode = mode ∧
      flow.maxMessageBytes = stable.get := by
  obtain ⟨flow, policy', hfresh, hcontract, hkey, hmax, hside, -, hstate⟩ :=
    AcceptedFlowRegistry.register_ok h
  refine ⟨flow, ⟨hfresh, hside, by rw [hkey], hstate⟩, ?_, hmax⟩
  simp only [DeliveryEndpoint.flowContract, hflow, Option.map_some, Option.some.injEq,
    Prod.mk.injEq] at hcontract
  exact hcontract.1.symm

/-! ### Receiving -/

/-- The frame a received frame is answered with. -/
def answer : Except FlowControlError FlowControlProgress → Option ControlFrame
  | .ok (.inboundRejected _ _ frame) => some frame
  | .ok (.outboundFailedAfterAccept _ _ _ _ frame) => some frame
  | _ => none

/-- Refusals that two conforming sides must not meet while they establish flows. -/
def RefusesHandshake : FlowControlError → Prop
  | .flowId _ | .wrongResponseSide _ _ | .unknownPendingFlow _ => True
  | _ => False

/-- The message is not one the peer may have sent now. -/
def Unexpected (fc : FlowControl) : FlowMessage → Prop
  | .openFlow o => ¬ fc.peerFlowIds.Expects o.flowId
  | .accept flowId | .reject flowId _ =>
    flowId.side ≠ fc.localSide ∨ fc.pendingOutbound.get? flowId.value = none
  | .terminate _ _ => False

/-- What receiving a message does. -/
structure ReceiveEffect (fc : FlowControl) (e : DeliveryEndpoint) (message : FlowMessage)
    (r : Except FlowControlError FlowControlProgress) (fc' : FlowControl)
    (e' : DeliveryEndpoint) : Prop where
  move : ∃ sent, Carries (answer r) sent ∧ Move fc (some message) fc' sent
  refusal : ∀ err, r = .error err → RefusesHandshake err → Unexpected fc message
  unknown : ∀ flowId, r = .error (.unknownActiveFlow flowId) →
    (∃ reason, message = .terminate flowId reason) ∧ fc.registry.registeredFlow flowId = none
  creates : ∀ k, e.flows.get? k = none → e'.flows.get? k ≠ none →
    ∃ flowId pending, message = .accept flowId ∧ flowId.side = fc.localSide ∧
      fc.pendingOutbound.get? flowId.value = some pending ∧ pending.key = k

theorem carries_none : Carries none none := ⟨rfl, fun _ => rfl⟩

theorem carries_some {frame : ControlFrame} {message : FlowMessage}
    (h : messageOf frame = some message) : Carries (some frame) (some message) :=
  ⟨h, nofun⟩

/-- An error that leaves everything as it was. -/
theorem ReceiveEffect.refused {message : FlowMessage} {err : FlowControlError}
    (ho : ∀ o, message = .openFlow o → ¬ fc.peerFlowIds.Expects o.flowId)
    (hh : RefusesHandshake err → Unexpected fc message)
    (hu : ∀ flowId, err = .unknownActiveFlow flowId →
      (∃ reason, message = .terminate flowId reason) ∧
        fc.registry.registeredFlow flowId = none) :
    ReceiveEffect fc e message (.error err) fc e where
  move := ⟨none, carries_none, .idle fun o h => ho o (Option.some.inj h)⟩
  refusal := fun err' h hr => by
    cases h
    exact hh hr
  unknown := fun flowId h => by
    cases h
    exact hu flowId rfl
  creates := fun _ hnone hsome => absurd hnone hsome

theorem inboundRejection_ok {reason : FlowRejectReason} {r : Except FlowControlError _}
    (h : fc.inboundRejection alloc e flowId reason = .ok (r, fc', e')) :
    fc' = fc ∧ e' = e ∧ (r = .error .allocation ∨
      ∃ frame, r = .ok (.inboundRejected flowId reason frame) ∧
        messageOf frame = some (.reject flowId reason)) := by
  simp only [inboundRejection, Checked.bind_eq_ok] at h
  obtain ⟨frame, hframe, h⟩ := h
  cases frame with
  | none =>
    cases h
    exact ⟨rfl, rfl, .inl rfl⟩
  | some frame =>
    cases h
    exact ⟨rfl, rfl, .inr ⟨frame, rfl, messageOf_rejectFrame hframe⟩⟩

/-- An open that the flow control answers itself. -/
theorem inboundRejection_effect {o : OpenFlow} {reason : FlowRejectReason}
    {r : Except FlowControlError FlowControlProgress} (hp : fc.pendingInbound = none)
    (hexp : fc.peerFlowIds.Expects o.flowId)
    (h : FlowControl.inboundRejection
      { fc with peerFlowIds := fc.peerFlowIds.advance o.flowId.sequence } alloc e o.flowId reason =
        .ok (r, fc', e')) : ReceiveEffect fc e (.openFlow o) r fc' e' := by
  obtain ⟨rfl, rfl, hr⟩ := inboundRejection_ok h
  rcases hr with rfl | ⟨frame, rfl, hframe⟩
  · exact {
      move := ⟨none, carries_none, .refuses hp hexp (.inl rfl)⟩
      refusal := fun err h hr => by
        cases h
        exact hr.elim
      unknown := fun _ h => by cases h
      creates := fun _ hnone hsome => absurd hnone hsome }
  · exact {
      move := ⟨_, carries_some hframe, .refuses hp hexp (.inr ⟨reason, rfl⟩)⟩
      refusal := fun _ h => by cases h
      unknown := fun _ h => by cases h
      creates := fun _ hnone hsome => absurd hnone hsome }

theorem receiveOpen_effect {body : List UInt8} {o : OpenFlow}
    {r : Except FlowControlError FlowControlProgress} (hd : OpenFlow.decode body = .ok o)
    (hp : fc.pendingInbound = none) (h : fc.receiveOpen alloc e body = .ok (r, fc', e')) :
    ReceiveEffect fc e (.openFlow o) r fc' e' := by
  simp only [receiveOpen, hd] at h
  generalize hc : fc.peerFlowIds.validateAndConsume o.flowId = consumed at h
  obtain ⟨answered, cursor⟩ := consumed
  rcases FlowIdCursor.consume_cases hc with ⟨err, rfl, rfl, hexp⟩ | ⟨rfl, hexp, rfl⟩
  · cases h
    exact .refused (fun _ h => by cases h; exact hexp) (fun _ => hexp) nofun
  · simp only at h
    split at h
    · exact inboundRejection_effect hp hexp h
    · split at h
      · exact inboundRejection_effect hp hexp h
      · cases h
        exact {
          move := ⟨none, carries_none, .takes hp hexp⟩
          refusal := fun _ h => by cases h
          unknown := fun _ h => by cases h
          creates := fun _ hnone hsome => absurd hnone hsome }

/-- The flow control after an answer to the open of `flowId`. -/
def answered (fc : FlowControl) (flowId : FlowId) : FlowControl :=
  { fc with pendingOutbound := fc.pendingOutbound.erase flowId.value }

theorem outboundResourceFailure_ok {termination : Option FlowTermination}
    {r : Except FlowControlError FlowControlProgress}
    (h : fc.outboundResourceFailure alloc e flowId key termination = .ok (r, fc', e')) :
    fc' = fc ∧ e' = e ∧ (r = .error .allocation ∨
      ∃ frame, r = .ok (.outboundFailedAfterAccept flowId key .resourceFailure termination frame) ∧
        messageOf frame = some (.terminate flowId .resourceFailure)) := by
  simp only [outboundResourceFailure, Checked.bind_eq_ok] at h
  obtain ⟨frame, hframe, h⟩ := h
  cases frame with
  | none =>
    cases h
    exact ⟨rfl, rfl, .inl rfl⟩
  | some frame =>
    cases h
    exact ⟨rfl, rfl, .inr ⟨frame, rfl, messageOf_terminateFrame hframe⟩⟩

/-- Errors of an accept other than a refusal of the message. -/
theorem dropped_effect {pending : PendingOutboundFlow} {err : FlowControlError}
    (hside : flowId.side = fc.localSide)
    (hp : fc.pendingOutbound.get? flowId.value = some pending)
    (hh : ¬ RefusesHandshake err) (hu : ∀ flowId, err ≠ .unknownActiveFlow flowId)
    (hcreates : ∀ k, e.flows.get? k = none → e'.flows.get? k ≠ none → pending.key = k) :
    ReceiveEffect fc e (.accept flowId) (.error err) (fc.answered flowId) e' where
  move := ⟨none, carries_none, .drops hside hp (.inl rfl)⟩
  refusal := fun _ h hr => by
    cases h
    exact absurd hr hh
  unknown := fun f h => by
    cases h
    exact absurd rfl (hu f)
  creates := fun k hnone hsome =>
    ⟨flowId, pending, rfl, hside, hp, hcreates k hnone hsome⟩

theorem outboundResourceFailure_effect {pending : PendingOutboundFlow}
    {termination : Option FlowTermination} {r : Except FlowControlError FlowControlProgress}
    {e₁ : DeliveryEndpoint} (hside : flowId.side = fc.localSide)
    (hp : fc.pendingOutbound.get? flowId.value = some pending)
    (hcreates : ∀ k, e.flows.get? k = none → e₁.flows.get? k ≠ none → pending.key = k)
    (h : (fc.answered flowId).outboundResourceFailure alloc e₁ flowId pending.key termination =
      .ok (r, fc', e')) : ReceiveEffect fc e (.accept flowId) r fc' e' := by
  obtain ⟨rfl, rfl, hr⟩ := outboundResourceFailure_ok h
  rcases hr with rfl | ⟨frame, rfl, hframe⟩
  · exact dropped_effect hside hp id nofun hcreates
  · exact {
      move := ⟨_, carries_some hframe, .drops hside hp (.inr ⟨_, rfl⟩)⟩
      refusal := fun _ h => by cases h
      unknown := fun _ h => by cases h
      creates := fun k hnone hsome => ⟨flowId, pending, rfl, hside, hp, hcreates k hnone hsome⟩ }

theorem activateOutbound_effect {pending : PendingOutboundFlow} {e₁ : DeliveryEndpoint}
    {r : Except FlowControlError FlowControlProgress} (hside : flowId.side = fc.localSide)
    (hp : fc.pendingOutbound.get? flowId.value = some pending)
    (hkey : pending.key.direction = .outbound)
    (hflow : e₁.flows = e.flows.insert pending.key (.new pending.mode pending.policy))
    (h : (fc.answered flowId).activateOutbound alloc e₁ flowId pending = .ok (r, fc', e')) :
    ReceiveEffect fc e (.accept flowId) r fc' e' := by
  have hcreates : ∀ k, e.flows.get? k = none → e₁.flows.get? k ≠ none → pending.key = k := by
    intro k hnone hsome
    by_contra hne
    rw [hflow, SortedMap.get?_insert_ne _ _ (Ne.symm hne)] at hsome
    exact hsome hnone
  unfold activateOutbound at h
  generalize hreg : (fc.answered flowId).registry.registerConsumedAcceptedFlow e₁ flowId pending.key
    pending.stableMaxMessageBytes (alloc .registry) = registered at h
  obtain ⟨res, registry'⟩ := registered
  cases res with
  | ok u =>
    obtain ⟨flow, hr, hmode, hmax⟩ := registers_of_ok hreg
      (by rw [hflow, SortedMap.get?_insert_self])
    rw [hkey] at hr
    cases h
    exact {
      move := ⟨none, carries_none,
        .establishes hside hp ⟨hr.fresh, hr.side, hr.direction, hr.state⟩ hmode hmax⟩
      refusal := fun _ h => by cases h
      unknown := fun _ h => by cases h
      creates := fun k hnone hsome => ⟨flowId, pending, rfl, hside, hp, hcreates k hnone hsome⟩ }
  | error err =>
    have hsame := AcceptedFlowRegistry.register_error hreg
    subst hsame
    simp only [Checked.bind_eq_ok] at h
    obtain ⟨⟨res, e₂⟩, hterm, h⟩ := h
    have hcreates₂ : ∀ k, e.flows.get? k = none → e₂.flows.get? k ≠ none → pending.key = k :=
      fun k hnone hsome => hcreates k hnone fun habs =>
        hsome (DeliveryEndpoint.terminateFlow_absent hterm habs)
    cases res with
    | error err' =>
      cases h
      exact dropped_effect hside hp id nofun hcreates₂
    | ok termination =>
      cases err
      case capacityExceeded => exact outboundResourceFailure_effect hside hp hcreates₂ h
      case allocationFailed => exact outboundResourceFailure_effect hside hp hcreates₂ h
      all_goals
        cases h
        exact dropped_effect hside hp id nofun hcreates₂

/-- The pending opens are those of outbound flows. -/
def PendingOutbound (fc : FlowControl) : Prop :=
  ∀ v pending, fc.pendingOutbound.get? v = some pending → pending.key.direction = .outbound

theorem receiveAccept_effect {body : List UInt8} {accept : FlowAccept}
    {r : Except FlowControlError FlowControlProgress} (hout : PendingOutbound fc)
    (hd : FlowAccept.decode body = .ok accept)
    (h : fc.receiveAccept alloc e body = .ok (r, fc', e')) :
    ReceiveEffect fc e (.accept accept.flowId) r fc' e' := by
  simp only [receiveAccept, hd] at h
  split at h
  · rename_i hside
    cases h
    exact .refused nofun (fun _ => .inl hside) nofun
  · rename_i hside
    rw [not_not] at hside
    split at h
    · rename_i hnone
      cases h
      exact .refused nofun (fun _ => .inr hnone) nofun
    · rename_i pending hp
      simp only [Checked.bind_eq_ok] at h
      obtain ⟨⟨res, e₁⟩, hest, h⟩ := h
      cases res with
      | ok u =>
        exact activateOutbound_effect hside hp (hout _ _ hp)
          (DeliveryEndpoint.establishFlow_ok hest) h
      | error err =>
        have hsame := DeliveryEndpoint.establishFlow_error hest
        subst hsame
        cases err
        case activeFlowLimitExceeded =>
          exact outboundResourceFailure_effect hside hp (fun _ h1 h2 => absurd h1 h2) h
        all_goals
          cases h
          exact dropped_effect hside hp id nofun fun _ h1 h2 => absurd h1 h2

theorem receiveReject_effect {body : List UInt8} {reject : FlowReject}
    {r : Except FlowControlError FlowControlProgress} (hd : FlowReject.decode body = .ok reject)
    (h : fc.receiveReject e body = (r, fc', e')) :
    ReceiveEffect fc e (.reject reject.flowId reject.reason) r fc' e' := by
  simp only [receiveReject, hd] at h
  split at h
  · rename_i hside
    cases h
    exact .refused nofun (fun _ => .inl hside) nofun
  · rename_i hside
    rw [not_not] at hside
    split at h
    · rename_i hnone
      cases h
      exact .refused nofun (fun _ => .inr hnone) nofun
    · rename_i pending hp
      cases h
      exact {
        move := ⟨none, carries_none, .rejected hside hp⟩
        refusal := fun _ h => by cases h
        unknown := fun _ h => by cases h
        creates := fun _ hnone hsome => absurd hnone hsome }

theorem endRegistered_ok {flow : RegisteredFlow} {r : Except FlowControlError FlowTermination}
    (h : fc.endRegistered e flowId flow = .ok (r, fc', e')) :
    (∀ k, e.flows.get? k = none → e'.flows.get? k = none) ∧
      ((∃ err, r = .error (.coreState err) ∧ fc' = fc) ∨
        ∃ report, r = .ok report ∧ fc' = { fc with registry := fc.registry.release flowId }) := by
  simp only [endRegistered, Checked.bind_eq_ok] at h
  obtain ⟨⟨res, e₁⟩, hterm, h⟩ := h
  have habsent := fun k => DeliveryEndpoint.terminateFlow_absent (k := k) hterm
  cases res with
  | error err =>
    cases h
    exact ⟨habsent, .inl ⟨err, rfl, rfl⟩⟩
  | ok report =>
    cases h
    exact ⟨habsent, .inr ⟨report, rfl, rfl⟩⟩

theorem receiveTerminate_effect {body : List UInt8} {terminate : FlowTerminate}
    {r : Except FlowControlError FlowControlProgress}
    (hd : FlowTerminate.decode body = .ok terminate)
    (h : fc.receiveTerminate e body = .ok (r, fc', e')) :
    ReceiveEffect fc e (.terminate terminate.flowId terminate.reason) r fc' e' := by
  simp only [receiveTerminate, hd] at h
  split at h
  · rename_i hnone
    cases h
    exact .refused nofun nofun fun f hf => by
      cases hf
      exact ⟨⟨_, rfl⟩, hnone⟩
  · split at h
    · cases h
      exact .refused nofun nofun nofun
    · simp only [Checked.bind_eq_ok] at h
      obtain ⟨⟨res, fc₁, e₁⟩, hend, h⟩ := h
      obtain ⟨habsent, hres⟩ := endRegistered_ok hend
      rcases hres with ⟨err, rfl, rfl⟩ | ⟨report, rfl, rfl⟩
      · cases h
        exact {
          move := ⟨none, carries_none, .idle nofun⟩
          refusal := fun _ h hr => by
            cases h
            exact hr.elim
          unknown := fun _ h => by cases h
          creates := fun k hnone hsome => absurd (habsent k hnone) hsome }
      · cases h
        exact {
          move := ⟨none, carries_none, .ended⟩
          refusal := fun _ h => by cases h
          unknown := fun _ h => by cases h
          creates := fun k hnone hsome => absurd (habsent k hnone) hsome }

/-- A well-formed frame that is not an open before the pending one is decided. -/
theorem receive_effect {frame : ControlFrame} {message : FlowMessage}
    {r : Except FlowControlError FlowControlProgress} (hout : PendingOutbound fc)
    (hm : messageOf frame = some message)
    (hp : frame.frameType = .openFlow → fc.pendingInbound = none)
    (h : fc.receive alloc e frame = .ok (r, fc', e')) :
    ReceiveEffect fc e message r fc' e' := by
  unfold messageOf at hm
  unfold receive at h
  split at hm
  · rename_i htype
    obtain ⟨o, hd, rfl⟩ := Option.map_eq_some_iff.mp hm
    rw [htype] at h
    simp only [hp htype] at h
    exact receiveOpen_effect (ok_of_toOption hd) (hp htype) h
  · rename_i htype
    obtain ⟨accept, hd, rfl⟩ := Option.map_eq_some_iff.mp hm
    rw [htype] at h
    exact receiveAccept_effect hout (ok_of_toOption hd) h
  · rename_i htype
    obtain ⟨reject, hd, rfl⟩ := Option.map_eq_some_iff.mp hm
    rw [htype] at h
    exact receiveReject_effect (ok_of_toOption hd) (Except.ok.inj h)
  · rename_i htype
    obtain ⟨terminate, hd, rfl⟩ := Option.map_eq_some_iff.mp hm
    rw [htype] at h
    exact receiveTerminate_effect (ok_of_toOption hd) h
  · cases hm

/-! ### Deciding and ending -/

/-- The frame of a decision. -/
def decision : Except InboundAdmissionError InboundResolution → Option ControlFrame
  | .ok (.accepted _ frame) | .ok (.rejected _ _ frame) => some frame
  | .error _ => none

/-- What deciding an open does. -/
def Decides (fc : FlowControl) (r : Except InboundAdmissionError InboundResolution)
    (fc' : FlowControl) : Prop :=
  ∃ sent, Carries (decision r) sent ∧ Move fc none fc' sent ∧
    sent.bind FlowMessage.openOf = none ∧ sent.bind FlowMessage.terminateOf = none ∧
    ∀ f flow, fc.registry.registeredFlow f = some flow → fc'.registry.registeredFlow f = some flow

variable {request : InboundOpenRequest} {r : Except InboundAdmissionError InboundResolution}

/-- An error that leaves the open undecided or takes it away. -/
theorem Decides.undecided {err : InboundAdmissionError} : Decides fc (.error err) fc :=
  ⟨none, carries_none, .idle nofun, rfl, rfl, fun _ _ h => h⟩

theorem Decides.dropped {err : InboundAdmissionError} (hp : fc.pendingInbound = some request) :
    Decides fc (.error err) { fc with pendingInbound := none } :=
  ⟨none, carries_none, .rejects hp (.inl rfl), rfl, rfl, fun _ _ h => h⟩

theorem resolveInboundRejection_effect {reason : FlowRejectReason}
    (hp : fc.pendingInbound = some request)
    (h : fc.resolveInboundRejection alloc e request reason = .ok (r, fc', e')) :
    Decides fc r fc' := by
  simp only [resolveInboundRejection, Checked.bind_eq_ok] at h
  obtain ⟨frame, hframe, h⟩ := h
  cases frame with
  | none =>
    cases h
    exact .dropped hp
  | some frame =>
    cases h
    exact ⟨_, carries_some (messageOf_rejectFrame hframe), .rejects hp (.inr ⟨reason, rfl⟩), rfl,
      rfl, fun _ _ h => h⟩

theorem activateInbound_effect {admission : InboundAdmission} {frame : ControlFrame}
    (hp : fc.pendingInbound = some request) (hkey : admission.key.direction = .inbound)
    (hframe : messageOf frame = some (.accept request.flowId))
    (hflow : e.flows.get? admission.key = some (.new request.mode admission.policy))
    (h : fc.activateInbound alloc e request admission frame = .ok (r, fc', e')) :
    Decides fc r fc' := by
  unfold activateInbound at h
  split at h
  · rename_i hsize
    generalize hreg : fc.registry.registerConsumedAcceptedFlow e request.flowId admission.key
      ⟨request.maxMessageBytes, hsize.1, hsize.2⟩ (alloc .registry) = registered at h
    obtain ⟨res, registry'⟩ := registered
    cases res with
    | ok u =>
      obtain ⟨flow, hr, hmode, hmax⟩ := registers_of_ok hreg hflow
      rw [hkey] at hr
      cases h
      exact ⟨_, carries_some hframe, .accepts hp hr hmode hmax, rfl, rfl, fun _ _ => hr.kept⟩
    | error err =>
      have hsame := AcceptedFlowRegistry.register_error hreg
      subst hsame
      simp only [Checked.bind_eq_ok] at h
      obtain ⟨⟨res, e₁⟩, -, h⟩ := h
      cases res with
      | error err' =>
        cases h
        exact .dropped hp
      | ok termination =>
        cases err
        case capacityExceeded => exact resolveInboundRejection_effect hp h
        case allocationFailed => exact resolveInboundRejection_effect hp h
        all_goals
          cases h
          exact .dropped hp
  · cases h

theorem acceptInbound_effect {admission : InboundAdmission}
    (h : fc.acceptInbound alloc e request admission = .ok (r, fc', e')) : Decides fc r fc' := by
  unfold acceptInbound at h
  simp only at h
  split at h
  · cases h
    exact .undecided
  · rename_i hp
    rw [not_not] at hp
    split at h
    · cases h
      exact .dropped hp
    · split at h
      · cases h
        exact .dropped hp
      · rename_i hkey
        rw [not_not] at hkey
        split at h
        · cases h
          exact .dropped hp
        · split at h
          · exact resolveInboundRejection_effect hp h
          · split at h
            · exact resolveInboundRejection_effect hp h
            · simp only [Checked.bind_eq_ok] at h
              obtain ⟨frame, hframe, h⟩ := h
              cases frame with
              | none =>
                cases h
                exact .dropped hp
              | some frame =>
                simp only [Checked.bind_eq_ok] at h
                obtain ⟨⟨res, e₁⟩, hest, h⟩ := h
                cases res with
                | ok u =>
                  refine activateInbound_effect hp hkey (messageOf_acceptFrame hframe) ?_ h
                  rw [DeliveryEndpoint.establishFlow_ok hest, SortedMap.get?_insert_self]
                | error err =>
                  cases err
                  case activeFlowLimitExceeded => exact resolveInboundRejection_effect hp h
                  all_goals
                    cases h
                    exact .dropped hp

theorem rejectInbound_effect {reason : FlowRejectReason}
    (h : fc.rejectInbound alloc e request reason = .ok (r, fc', e')) : Decides fc r fc' := by
  unfold rejectInbound at h
  split at h
  · cases h
    exact .undecided
  · rename_i hp
    rw [not_not] at hp
    exact resolveInboundRejection_effect hp h

/-- A local termination that sends its frame released a registered flow that may be ended. -/
theorem terminateLocal_effect {reason : FlowTerminateReason}
    {r : Except FlowControlError LocalTermination}
    (h : fc.terminateLocal alloc e flowId reason = .ok (r, fc', e')) :
    ((∃ err, r = .error err) ∧ fc' = fc) ∨
      ∃ ended flow, r = .ok ended ∧ fc.registry.registeredFlow flowId = some flow ∧
        ¬ (flow.mode = .reliableOrdered ∧ reason = .normal) ∧
        alloc (.frame .flowTerminate) = true ∧ (e.flows.get? flow.key).isSome ∧
        messageOf ended.frame = some (.terminate flowId reason) ∧
        fc' = { fc with registry := fc.registry.release flowId } := by
  unfold terminateLocal at h
  split at h
  · cases h
    exact .inl ⟨⟨_, rfl⟩, rfl⟩
  · rename_i flow hflow
    split at h
    · cases h
      exact .inl ⟨⟨_, rfl⟩, rfl⟩
    · rename_i hnormal
      simp only [Checked.bind_eq_ok] at h
      obtain ⟨frame, hframe, h⟩ := h
      cases frame with
      | none =>
        cases h
        exact .inl ⟨⟨_, rfl⟩, rfl⟩
      | some frame =>
        have halloc : alloc (.frame .flowTerminate) = true := by
          simp only [terminateFrame, ownedFrame, Checked.bind_eq_ok, Checked.pure_eq,
            Except.ok.injEq] at hframe
          obtain ⟨_, -, hframe⟩ := hframe
          by_contra habs
          rw [if_neg habs] at hframe
          cases hframe
        simp only [Checked.bind_eq_ok] at h
        obtain ⟨⟨res, fc₁, e₁⟩, hend, h⟩ := h
        cases h
        have hcore : res.toOption.isSome → (e.flows.get? flow.key).isSome := by
          intro hres
          simp only [endRegistered, Checked.bind_eq_ok] at hend
          obtain ⟨⟨res', e₂⟩, hterm, hend⟩ := hend
          cases hget : e.flows.get? flow.key with
          | some _ => rfl
          | none =>
            simp only [DeliveryEndpoint.terminateFlow, hget, Except.ok.injEq, Prod.mk.injEq]
              at hterm
            obtain ⟨rfl, rfl⟩ := hterm
            cases hend
            cases hres
        obtain ⟨-, ⟨err, rfl, rfl⟩ | ⟨report, rfl, rfl⟩⟩ := endRegistered_ok hend
        · exact .inl ⟨⟨_, rfl⟩, rfl⟩
        · exact .inr ⟨_, flow, rfl, hflow, hnormal, halloc, hcore rfl,
            messageOf_terminateFrame hframe, rfl⟩

end FlowControl

end RunenNet
