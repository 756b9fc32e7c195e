import RunenNet.Quic.FlowControl

/-!
# Moves of flow control

The frames of the control stream as messages, and what flow control may do in one step: the
message it takes, how its cursors, pending opens and registry change, and the message it sends.
-/

namespace RunenNet

open Foundation

/-! ### Messages -/

inductive FlowMessage where
  | openFlow (o : OpenFlow)
  | accept (flowId : FlowId)
  | reject (flowId : FlowId) (reason : FlowRejectReason)
  | terminate (flowId : FlowId) (reason : FlowTerminateReason)
  deriving DecidableEq, Repr

/-- The message of a well-formed flow control frame. -/
def messageOf (frame : ControlFrame) : Option FlowMessage :=
  match frame.frameType with
  | .openFlow => (OpenFlow.decode frame.body).toOption.map .openFlow
  | .flowAccept => (FlowAccept.decode frame.body).toOption.map fun a => .accept a.flowId
  | .flowReject => (FlowReject.decode frame.body).toOption.map fun r => .reject r.flowId r.reason
  | .flowTerminate =>
    (FlowTerminate.decode frame.body).toOption.map fun t => .terminate t.flowId t.reason
  | _ => none

/-- The open a message makes. -/
def FlowMessage.openOf : FlowMessage → Option OpenFlow
  | .openFlow o => some o
  | _ => none

/-- The `FlowId` whose open a message answers. -/
def FlowMessage.answerOf : FlowMessage → Option FlowId
  | .accept flowId | .reject flowId _ => some flowId
  | _ => none

/-- The flow whose end a message reports. -/
def FlowMessage.terminateOf : FlowMessage → Option FlowId
  | .terminate flowId _ => some flowId
  | _ => none

namespace FlowControl

variable {fc fc' : FlowControl}

/-- The flow control with the flow of `request` pending under `flowId`. -/
def opening (fc : FlowControl) (request : OutboundOpenRequest) (flowId : FlowId) : FlowControl :=
  { fc with
    localFlowIds := fc.localFlowIds.advance flowId.sequence
    pendingOutbound := fc.pendingOutbound.insert flowId.value
      { key := request.key
        mode := request.mode
        policy := request.policy
        connectionLimits := request.connectionLimits
        stableMaxMessageBytes := request.stableMaxMessageBytes } }

/-! ### Moves -/

/-- `registry'` has the new flow `flow` under `flowId`. -/
structure Registers (fc : FlowControl) (flowId : FlowId) (direction : FlowDirection)
    (flow : RegisteredFlow) (registry' : AcceptedFlowRegistry) : Prop where
  fresh : fc.registry.registeredFlow flowId = none
  side : flowId.side = fc.registry.localSide.opens direction
  direction : flow.key.direction = direction
  state : registry' = { fc.registry with flows := fc.registry.flows.insert flowId.value flow }

/-- Registering a flow keeps the registered ones. -/
theorem Registers.kept {flowId f : FlowId} {direction : FlowDirection} {flow old : RegisteredFlow}
    {registry' : AcceptedFlowRegistry} (h : Registers fc flowId direction flow registry')
    (hf : fc.registry.registeredFlow f = some old) : registry'.registeredFlow f = some old := by
  rw [h.state]
  simp only [AcceptedFlowRegistry.registeredFlow, SortedMap.get?_insert]
  split
  · rename_i heq
    have hfresh := h.fresh
    simp only [AcceptedFlowRegistry.registeredFlow, ← heq] at hfresh hf
    rw [hfresh] at hf
    cases hf
  · exact hf

/-- What flow control does in one step: the message it takes, its next state and the message it
sends. -/
inductive Move (fc : FlowControl) :
    Option FlowMessage → FlowControl → Option FlowMessage → Prop where
  | idle {received} :
      (∀ o, received = some (.openFlow o) → ¬ fc.peerFlowIds.Expects o.flowId) →
      Move fc received fc none
  | opens {request : OutboundOpenRequest} {flowId : FlowId} : fc.localFlowIds.Expects flowId →
      fc.pendingOutbound.get? flowId.value = none → request.key.direction = .outbound →
      Move fc none (fc.opening request flowId)
        (some (.openFlow ⟨flowId, request.mode, request.stableMaxMessageBytes.get⟩))
  | takes {o : OpenFlow} : fc.pendingInbound = none → fc.peerFlowIds.Expects o.flowId →
      Move fc (some (.openFlow o)) { fc with
        peerFlowIds := fc.peerFlowIds.advance o.flowId.sequence
        pendingInbound := some ⟨o.flowId, o.deliveryMode, o.maxMessageBytes⟩ } none
  | refuses {o : OpenFlow} {sent} : fc.pendingInbound = none → fc.peerFlowIds.Expects o.flowId →
      (sent = none ∨ ∃ reason, sent = some (.reject o.flowId reason)) →
      Move fc (some (.openFlow o))
        { fc with peerFlowIds := fc.peerFlowIds.advance o.flowId.sequence } sent
  | accepts {request : InboundOpenRequest} {flow registry'} : fc.pendingInbound = some request →
      Registers fc request.flowId .inbound flow registry' → flow.mode = request.mode →
      flow.maxMessageBytes = request.maxMessageBytes →
      Move fc none { fc with registry := registry', pendingInbound := none }
        (some (.accept request.flowId))
  | rejects {request : InboundOpenRequest} {sent} : fc.pendingInbound = some request →
      (sent = none ∨ ∃ reason, sent = some (.reject request.flowId reason)) →
      Move fc none { fc with pendingInbound := none } sent
  | establishes {flowId : FlowId} {pending : PendingOutboundFlow} {flow registry'} :
      flowId.side = fc.localSide → fc.pendingOutbound.get? flowId.value = some pending →
      Registers fc flowId .outbound flow registry' → flow.mode = pending.mode →
      flow.maxMessageBytes = pending.stableMaxMessageBytes.get →
      Move fc (some (.accept flowId)) { fc with
        registry := registry'
        pendingOutbound := fc.pendingOutbound.erase flowId.value } none
  | drops {flowId : FlowId} {pending : PendingOutboundFlow} {sent} :
      flowId.side = fc.localSide → fc.pendingOutbound.get? flowId.value = some pending →
      (sent = none ∨ ∃ reason, sent = some (.terminate flowId reason)) →
      Move fc (some (.accept flowId))
        { fc with pendingOutbound := fc.pendingOutbound.erase flowId.value } sent
  | rejected {flowId : FlowId} {reason : FlowRejectReason} {pending : PendingOutboundFlow} :
      flowId.side = fc.localSide → fc.pendingOutbound.get? flowId.value = some pending →
      Move fc (some (.reject flowId reason))
        { fc with pendingOutbound := fc.pendingOutbound.erase flowId.value } none
  | ended {flowId : FlowId} {reason : FlowTerminateReason} :
      Move fc (some (.terminate flowId reason))
        { fc with registry := fc.registry.release flowId } none
  | ends {flowId : FlowId} {sent} :
      (sent = none ∨ ∃ reason, sent = some (.terminate flowId reason)) →
      Move fc none { fc with registry := fc.registry.release flowId } sent
  | reports {flowId : FlowId} {reason : FlowTerminateReason} :
      Move fc none fc (some (.terminate flowId reason))
  | associates {flowId : FlowId} {flow flow' : RegisteredFlow} :
      fc.registry.registeredFlow flowId = some flow → flow'.key = flow.key →
      flow'.mode = flow.mode → flow'.maxMessageBytes = flow.maxMessageBytes →
      Move fc none { fc with
        registry := { fc.registry with
          flows := fc.registry.flows.insert flowId.value flow' } } none

/-! ### What a move changes -/

namespace Move

variable {message sent : Option FlowMessage}

/-- The sides of a flow control are fixed. -/
theorem sides (h : Move fc message fc' sent) :
    fc'.localSide = fc.localSide ∧ fc'.localFlowIds.side = fc.localFlowIds.side ∧
      fc'.peerFlowIds.side = fc.peerFlowIds.side ∧
      fc'.registry.localSide = fc.registry.localSide := by
  cases h with
  | accepts _ hr =>
    rw [hr.state]
    exact ⟨rfl, rfl, rfl, rfl⟩
  | establishes _ _ hr =>
    rw [hr.state]
    exact ⟨rfl, rfl, rfl, rfl⟩
  | _ => exact ⟨rfl, rfl, rfl, rfl⟩

/-- A registered flow was registered before with the same contract, or is the one just accepted,
or the one whose accept was received. -/
theorem registered (h : Move fc message fc' sent) {f : FlowId} {flow : RegisteredFlow}
    (hf : fc'.registry.registeredFlow f = some flow) :
    (∃ flow₀, fc.registry.registeredFlow f = some flow₀ ∧ flow.key = flow₀.key ∧
      flow.mode = flow₀.mode ∧ flow.maxMessageBytes = flow₀.maxMessageBytes) ∨
    (∃ request, fc.pendingInbound = some request ∧ request.flowId = f ∧
      sent = some (.accept f) ∧ f.side = fc.registry.localSide.opens .inbound ∧
      flow.key.direction = .inbound ∧
      flow.mode = request.mode ∧ flow.maxMessageBytes = request.maxMessageBytes) ∨
    ∃ pending, fc.pendingOutbound.get? f.value = some pending ∧ message = some (.accept f) ∧
      f.side = fc.registry.localSide.opens .outbound ∧ flow.key.direction = .outbound ∧
      flow.mode = pending.mode ∧
      flow.maxMessageBytes = pending.stableMaxMessageBytes.get := by
  have kept : fc.registry.registeredFlow f = some flow →
      ∃ flow₀, fc.registry.registeredFlow f = some flow₀ ∧ flow.key = flow₀.key ∧
        flow.mode = flow₀.mode ∧ flow.maxMessageBytes = flow₀.maxMessageBytes :=
    fun h => ⟨flow, h, rfl, rfl, rfl⟩
  have released : ∀ g, (fc.registry.release g).registeredFlow f = some flow →
      fc.registry.registeredFlow f = some flow := fun g h => by
    simp only [AcceptedFlowRegistry.release, AcceptedFlowRegistry.registeredFlow,
      SortedMap.get?_erase] at h
    split at h
    · cases h
    · exact h
  cases h with
  | @accepts request new registry' hp hr hmode hmax =>
    rw [hr.state] at hf
    simp only [AcceptedFlowRegistry.registeredFlow, SortedMap.get?_insert] at hf
    split at hf
    · rename_i heq
      cases FlowId.ext_value heq
      cases hf
      exact .inr (.inl ⟨request, hp, rfl, rfl, hr.side, hr.direction, hmode, hmax⟩)
    · exact .inl (kept hf)
  | @establishes g pending new registry' hside hp hr hmode hmax =>
    rw [hr.state] at hf
    simp only [AcceptedFlowRegistry.registeredFlow, SortedMap.get?_insert] at hf
    split at hf
    · rename_i heq
      cases FlowId.ext_value heq
      cases hf
      exact .inr (.inr ⟨pending, hp, rfl, hr.side, hr.direction, hmode, hmax⟩)
    · exact .inl (kept hf)
  | @associates g flow₀ flow' hg hkey hmode hmax =>
    simp only [AcceptedFlowRegistry.registeredFlow, SortedMap.get?_insert] at hf
    split at hf
    · rename_i heq
      cases FlowId.ext_value heq
      cases hf
      exact .inl ⟨flow₀, hg, hkey, hmode, hmax⟩
    · exact .inl (kept hf)
  | ended => exact .inl (kept (released _ hf))
  | ends => exact .inl (kept (released _ hf))
  | _ => exact .inl (kept hf)

/-- The only new pending open is the one whose message is sent. -/
theorem pendingOutbound (h : Move fc message fc' sent) {v : Nat} {pending : PendingOutboundFlow}
    (hv : fc'.pendingOutbound.get? v = some pending) :
    fc.pendingOutbound.get? v = some pending ∨
      ∃ f, f.value = v ∧ pending.key.direction = .outbound ∧
        sent = some (.openFlow ⟨f, pending.mode, pending.stableMaxMessageBytes.get⟩) := by
  have kept : ∀ k, (fc.pendingOutbound.erase k).get? v = some pending →
      fc.pendingOutbound.get? v = some pending := fun k h => by
    rw [SortedMap.get?_erase] at h
    split at h
    · cases h
    · exact h
  cases h with
  | @opens request f hexp hfresh hdirection =>
    simp only [opening, SortedMap.get?_insert] at hv
    split at hv
    · rename_i heq
      cases hv
      exact .inr ⟨f, heq.symm, hdirection, rfl⟩
    · exact .inl hv
  | establishes => exact .inl (kept _ hv)
  | drops => exact .inl (kept _ hv)
  | rejected => exact .inl (kept _ hv)
  | _ => exact .inl hv

/-- The open to be decided was so before, or was just received. -/
theorem pendingInbound (h : Move fc message fc' sent) {request : InboundOpenRequest}
    (hr : fc'.pendingInbound = some request) :
    fc.pendingInbound = some request ∨
      ∃ o, message = some (.openFlow o) ∧ request = ⟨o.flowId, o.deliveryMode, o.maxMessageBytes⟩ := by
  cases h with
  | @takes o => exact .inr ⟨o, rfl, (Option.some.inj hr).symm⟩
  | accepts => cases hr
  | rejects => cases hr
  | _ => exact .inl hr

/-- A flow is accepted when it is registered. -/
theorem registered_of_accept {f : FlowId} (h : Move fc message fc' (some (.accept f))) :
    ∃ flow, fc'.registry.registeredFlow f = some flow := by
  generalize hs : some (FlowMessage.accept f) = sent at h
  cases h with
  | @accepts request flow registry' hp hr =>
    cases hs
    rw [hr.state]
    exact ⟨flow, SortedMap.get?_insert_self _ _ _⟩
  | refuses _ _ h => rcases h with rfl | ⟨_, rfl⟩ <;> cases hs
  | rejects _ h => rcases h with rfl | ⟨_, rfl⟩ <;> cases hs
  | drops _ _ h => rcases h with rfl | ⟨_, rfl⟩ <;> cases hs
  | ends h => rcases h with rfl | ⟨_, rfl⟩ <;> cases hs
  | _ => cases hs

/-- Only an open takes an identifier of the local cursor. -/
theorem opening_cases (h : Move fc message fc' sent) :
    (fc'.localFlowIds = fc.localFlowIds ∧ sent.bind FlowMessage.openOf = none) ∨
      ∃ o, sent = some (.openFlow o) ∧ fc.localFlowIds.Expects o.flowId ∧
        fc.pendingOutbound.get? o.flowId.value = none ∧
        fc'.localFlowIds = fc.localFlowIds.advance o.flowId.sequence ∧
        (fc'.pendingOutbound.get? o.flowId.value).isSome := by
  cases h with
  | @opens request f hexp hfresh _ =>
    exact .inr ⟨_, rfl, hexp, hfresh, rfl, by simp [opening]⟩
  | refuses _ _ hs => rcases hs with rfl | ⟨_, rfl⟩ <;> exact .inl ⟨rfl, rfl⟩
  | rejects _ hs => rcases hs with rfl | ⟨_, rfl⟩ <;> exact .inl ⟨rfl, rfl⟩
  | drops _ _ hs => rcases hs with rfl | ⟨_, rfl⟩ <;> exact .inl ⟨rfl, rfl⟩
  | ends hs => rcases hs with rfl | ⟨_, rfl⟩ <;> exact .inl ⟨rfl, rfl⟩
  | _ => exact .inl ⟨rfl, rfl⟩

/-- A received message is not answered with an open. -/
theorem openOf_of_received {m : FlowMessage} (h : Move fc (some m) fc' sent) :
    sent.bind FlowMessage.openOf = none := by
  cases h with
  | refuses _ _ hs => rcases hs with rfl | ⟨_, rfl⟩ <;> rfl
  | drops _ _ hs => rcases hs with rfl | ⟨_, rfl⟩ <;> rfl
  | _ => rfl

/-- A received message that is answered with a termination is an accept of that flow. -/
theorem accept_of_terminate {m : FlowMessage} {f : FlowId} {reason : FlowTerminateReason}
    (h : Move fc (some m) fc' (some (.terminate f reason))) : m = .accept f := by
  generalize hs : some (FlowMessage.terminate f reason) = sent at h
  cases h with
  | refuses _ _ h => rcases h with rfl | ⟨_, rfl⟩ <;> cases hs
  | drops _ _ h =>
    rcases h with rfl | ⟨_, rfl⟩
    · cases hs
    · cases hs
      rfl
  | _ => cases hs

/-- Of the received messages only its termination takes a flow out of the registry. -/
theorem registered_kept {m : FlowMessage} {f : FlowId} {flow : RegisteredFlow}
    (h : Move fc (some m) fc' sent) (hf : fc.registry.registeredFlow f = some flow) :
    fc'.registry.registeredFlow f = some flow ∨ ∃ reason, m = .terminate f reason := by
  cases h with
  | establishes _ _ hr => exact .inl (hr.kept hf)
  | @ended g reason =>
    by_cases heq : f.value = g.value
    · cases FlowId.ext_value heq
      exact .inr ⟨reason, rfl⟩
    · left
      simp only [AcceptedFlowRegistry.release, AcceptedFlowRegistry.registeredFlow]
      rw [SortedMap.get?_erase_ne _ heq]
      exact hf
  | _ => exact .inl hf

/-- A pending open goes only with its answer. -/
theorem pendingOutbound_kept (h : Move fc message fc' sent) {f : FlowId}
    (hf : (fc.pendingOutbound.get? f.value).isSome) :
    (fc'.pendingOutbound.get? f.value).isSome ∨
      message.bind FlowMessage.answerOf = some f := by
  have kept : ∀ g : FlowId, ((fc.pendingOutbound.erase g.value).get? f.value).isSome ∨ g = f := by
    intro g
    by_cases heq : f.value = g.value
    · exact .inr (FlowId.ext_value heq).symm
    · rw [SortedMap.get?_erase_ne _ heq]
      exact .inl hf
  cases h with
  | @opens request g =>
    left
    simp only [opening, SortedMap.get?_insert]
    split
    · rfl
    · exact hf
  | @establishes g => exact (kept g).imp_right fun h => congrArg some h
  | @drops g => exact (kept g).imp_right fun h => congrArg some h
  | @rejected g => exact (kept g).imp_right fun h => congrArg some h
  | _ => exact .inl hf

/-- An expected open takes an identifier of the peer's cursor. -/
theorem taking_cases (h : Move fc message fc' sent) :
    (fc'.peerFlowIds = fc.peerFlowIds ∧
      ∀ o, message = some (.openFlow o) → ¬ fc.peerFlowIds.Expects o.flowId) ∨
      ∃ o, message = some (.openFlow o) ∧
        fc'.peerFlowIds = fc.peerFlowIds.advance o.flowId.sequence := by
  cases h with
  | idle hidle => exact .inl ⟨rfl, hidle⟩
  | @takes o => exact .inr ⟨o, rfl, rfl⟩
  | @refuses o => exact .inr ⟨o, rfl, rfl⟩
  | _ => exact .inl ⟨rfl, nofun⟩

/-- Answers and the open to be decided come from the open to be decided and a received open. -/
theorem deciding (h : Move fc message fc' sent) :
    ((sent.bind FlowMessage.answerOf).toList ++
      (fc'.pendingInbound.map InboundOpenRequest.flowId).toList).Sublist
    ((fc.pendingInbound.map InboundOpenRequest.flowId).toList ++
      ((message.bind FlowMessage.openOf).map OpenFlow.flowId).toList) := by
  have same : (fc.pendingInbound.map InboundOpenRequest.flowId).toList.Sublist
      ((fc.pendingInbound.map InboundOpenRequest.flowId).toList ++
        ((message.bind FlowMessage.openOf).map OpenFlow.flowId).toList) :=
    List.sublist_append_left _ _
  cases h with
  | @takes o hp _ =>
    rw [hp]
    exact .refl _
  | @refuses o sent hp _ hs =>
    rcases hs with rfl | ⟨reason, rfl⟩
    · exact same
    · rw [hp]
      exact .refl _
  | @accepts request flow registry' hp =>
    rw [hp]
    exact .refl _
  | @rejects request sent hp hs =>
    rw [hp]
    rcases hs with rfl | ⟨reason, rfl⟩
    · exact List.nil_sublist _
    · exact .refl _
  | drops _ _ hs => rcases hs with rfl | ⟨_, rfl⟩ <;> exact same
  | ends hs => rcases hs with rfl | ⟨_, rfl⟩ <;> exact same
  | _ => exact same

end Move

end FlowControl

end RunenNet
