import RunenNet.Quic.FlowChanges
import RunenNet.Quic.FlowRun

/-!
# Consistency of the flow registry

One connection's flow control over an endpoint it shares. As long as the flows of the connection
are changed only through its flow control, the registry and the endpoint agree on them, within the
limits of both sides, and the registry is never full when it is asked to register.
-/

namespace RunenNet

open Foundation

namespace FlowControl

variable {fc fc' : FlowControl} {alloc : Allocator} {e e' e₁ : DeliveryEndpoint}

/-! ### The invariant -/

structure Consistent (fc : FlowControl) (e : DeliveryEndpoint) : Prop where
  linked : Linked fc.registry.flows RegisteredFlow.key RegisteredFlow.mode (fc.held e)
  keys : fc.PendingKeys
  distinct : ∀ v v' p p', fc.pendingOutbound.get? v = some p →
    fc.pendingOutbound.get? v' = some p' → p.key = p'.key → v = v'
  free : ∀ v p, fc.pendingOutbound.get? v = some p → fc.held e p.key = none
  ids : ∀ v flow, fc.registry.flows.get? v = some flow →
    ∃ f : FlowId, f.value = v ∧ f.side = fc.registry.localSide.opens flow.key.direction
  side : fc.registry.localSide = fc.localSide
  outbound : fc.registry.activeDirectionLen .outbound + fc.pendingOutbound.size ≤
    fc.peerSettings.maxActiveIncomingFlows
  inbound : fc.registry.activeDirectionLen .inbound ≤ fc.localSettings.maxActiveIncomingFlows
  capacity : fc.registry.maxActive =
    fc.localSettings.maxActiveIncomingFlows + fc.peerSettings.maxActiveIncomingFlows
  bounded : fc.registry.maxActive ≤ u64Max

namespace Consistent

theorem start {connection : ConnectionHandle} {localSide : WireSide}
    {localSettings peerSettings : Settings}
    (hnew : FlowControl.new connection localSide localSettings peerSettings = .ok fc)
    (hfree : ∀ key, key.connection = fc.connection → e.flows.get? key = none) :
    Consistent fc e := by
  unfold FlowControl.new at hnew
  split at hnew
  · cases hnew
  · rename_i capacity hcapacity
    obtain ⟨hle, rfl⟩ := checkedAdd_eq_some.mp hcapacity
    split at hnew
    · cases hnew
      exact {
        linked := .empty fun key => by
          unfold held
          split
          · rename_i hc
            rw [hfree key hc]
            rfl
          · rfl
        keys := fun _ _ hp => by cases hp
        distinct := fun _ _ _ _ hp => by cases hp
        free := fun _ _ hp => by cases hp
        ids := fun _ _ hflow => by cases hflow
        side := rfl
        outbound := Nat.zero_le _
        inbound := Nat.zero_le _
        capacity := rfl
        bounded := hle }
    · cases hnew

theorem size_le (h : Consistent fc e) : fc.registry.flows.size ≤ fc.registry.maxActive := by
  have hout := h.outbound
  have hin := h.inbound
  rw [AcceptedFlowRegistry.size_eq_directions, h.capacity]
  omega

/-- A pending open has its place in the registry. -/
theorem room_of_pending (h : Consistent fc e) {v : Nat} {p : PendingOutboundFlow}
    (hp : fc.pendingOutbound.get? v = some p) :
    fc.registry.flows.size < fc.registry.maxActive := by
  have hout := h.outbound
  have hin := h.inbound
  have hpos := SortedMap.size_erase_of_some hp
  rw [AcceptedFlowRegistry.size_eq_directions, h.capacity]
  omega

theorem room_of_inbound (h : Consistent fc e) (hlimit :
    fc.registry.activeDirectionLen .inbound < fc.localSettings.maxActiveIncomingFlows) :
    fc.registry.flows.size < fc.registry.maxActive := by
  have hout := h.outbound
  rw [AcceptedFlowRegistry.size_eq_directions, h.capacity]
  omega

/-- The limit of an open counts without overflow. -/
theorem room_of_limits (h : Consistent fc e) {request : OutboundOpenRequest}
    (hlimits : fc.validateOutboundLimits request = .ok ()) :
    fc.registry.activeDirectionLen .outbound + fc.pendingOutbound.size <
      fc.peerSettings.maxActiveIncomingFlows := by
  obtain ⟨-, -, -, -, hlimit⟩ := validateOutboundLimits_ok hlimits
  have hbound := h.bounded
  rw [h.capacity] at hbound
  unfold checkedAdd at hlimit
  split at hlimit
  · exact hlimit
  · rw [Option.getD_none] at hlimit
    omega

/-! ### Steps -/

theorem held_eq (hs : SameSetup fc fc') : fc'.held e' = fc.held e' := by
  funext key
  rw [held, held, hs.connection]

/-- The registered flows stay and the pending opens do not grow. -/
theorem shrunk (h : Consistent fc e) (hs : SameSetup fc fc') (hr : fc'.registry = fc.registry)
    (hkept : ∀ v p, fc'.pendingOutbound.get? v = some p → fc.pendingOutbound.get? v = some p)
    (hsize : fc'.pendingOutbound.size ≤ fc.pendingOutbound.size)
    (hheld : fc.held e' = fc.held e) : Consistent fc' e' where
  linked := by
    rw [hr, held_eq hs, hheld]
    exact h.linked
  keys := fun v p hp => by
    rw [hs.connection]
    exact h.keys v p (hkept v p hp)
  distinct := fun v v' p p' hp hp' heq =>
    h.distinct v v' p p' (hkept v p hp) (hkept v' p' hp') heq
  free := fun v p hp => by
    rw [held_eq hs, hheld]
    exact h.free v p (hkept v p hp)
  ids := fun v flow hflow => by
    rw [hr] at hflow ⊢
    exact h.ids v flow hflow
  side := by rw [hr, hs.localSide, h.side]
  outbound := by
    have hout := h.outbound
    rw [hr, hs.peerSettings]
    omega
  inbound := by
    rw [hr, hs.localSettings]
    exact h.inbound
  capacity := by rw [hr, hs.localSettings, hs.peerSettings, h.capacity]
  bounded := by
    rw [hr]
    exact h.bounded

theorem opening (h : Consistent fc e) {request : OutboundOpenRequest} {flowId : FlowId}
    (hidentity : fc.validateOutboundIdentity e request.key = .ok ())
    (hlimits : fc.validateOutboundLimits request = .ok ()) :
    Consistent (fc.opening request flowId) e := by
  obtain ⟨hconnection, hdirection, hnone, hnew⟩ := validateOutboundIdentity_ok hidentity
  have hroom := h.room_of_limits hlimits
  have pending : ∀ {v p}, (fc.opening request flowId).pendingOutbound.get? v = some p →
      (v = flowId.value ∧ p.key = request.key) ∨
        (v ≠ flowId.value ∧ fc.pendingOutbound.get? v = some p) := by
    intro v p hp
    simp only [FlowControl.opening, SortedMap.get?_insert] at hp
    split at hp
    · rename_i heq
      cases hp
      exact .inl ⟨heq, rfl⟩
    · rename_i hne
      exact .inr ⟨hne, hp⟩
  exact {
    linked := h.linked
    keys := fun v p hp => by
      rcases pending hp with ⟨-, hkey⟩ | ⟨-, hold⟩
      · rw [hkey]
        exact ⟨hconnection, hdirection⟩
      · exact h.keys v p hold
    distinct := fun v v' p p' hp hp' heq => by
      rcases pending hp with ⟨rfl, hkey⟩ | ⟨-, hold⟩ <;>
        rcases pending hp' with ⟨rfl, hkey'⟩ | ⟨-, hold'⟩
      · rfl
      · exact absurd (heq.symm.trans hkey) (hnew v' p' hold')
      · exact absurd (heq.trans hkey') (hnew v p hold)
      · exact h.distinct v v' p p' hold hold' heq
    free := fun v p hp => by
      rcases pending hp with ⟨-, hkey⟩ | ⟨-, hold⟩
      · rw [hkey]
        exact held_fresh hnone
      · exact h.free v p hold
    ids := h.ids
    side := h.side
    outbound := by
      have hsize := SortedMap.size_insert_le fc.pendingOutbound flowId.value
        { key := request.key
          mode := request.mode
          policy := request.policy
          connectionLimits := request.connectionLimits
          stableMaxMessageBytes := request.stableMaxMessageBytes }
      simp only [FlowControl.opening]
      omega
    inbound := h.inbound
    capacity := h.capacity
    bounded := h.bounded }

/-- A flow is registered as the endpoint begins to hold it. -/
theorem registered (h : Consistent fc e) (hs : SameSetup fc fc') {flowId : FlowId}
    {direction : FlowDirection} {flow : RegisteredFlow}
    (hr : Registers fc flowId direction flow fc'.registry) (hnone : fc.held e flow.key = none)
    (hheld : fc.held e' = Function.update (fc.held e) flow.key (some flow.mode))
    (hkept : ∀ v p, fc'.pendingOutbound.get? v = some p →
      fc.pendingOutbound.get? v = some p ∧ p.key ≠ flow.key)
    (hout : fc'.registry.activeDirectionLen .outbound + fc'.pendingOutbound.size ≤
      fc.peerSettings.maxActiveIncomingFlows)
    (hin : fc'.registry.activeDirectionLen .inbound ≤ fc.localSettings.maxActiveIncomingFlows) :
    Consistent fc' e' where
  linked := by
    rw [held_eq hs, hheld, hr.state]
    exact h.linked.insert hr.fresh hnone
  keys := fun v p hp => by
    rw [hs.connection]
    exact h.keys v p (hkept v p hp).1
  distinct := fun v v' p p' hp hp' heq =>
    h.distinct v v' p p' (hkept v p hp).1 (hkept v' p' hp').1 heq
  free := fun v p hp => by
    obtain ⟨hold, hne⟩ := hkept v p hp
    rw [held_eq hs, hheld, Function.update_of_ne hne]
    exact h.free v p hold
  ids := fun v flow' hflow => by
    rw [hs.registrySide]
    rw [hr.state] at hflow
    simp only [SortedMap.get?_insert] at hflow
    split at hflow
    · rename_i heq
      cases hflow
      exact ⟨flowId, heq.symm, by rw [hr.side, hr.direction]⟩
    · exact h.ids v flow' hflow
  side := by rw [hs.registrySide, hs.localSide, h.side]
  outbound := by
    rw [hs.peerSettings]
    exact hout
  inbound := by
    rw [hs.localSettings]
    exact hin
  capacity := by rw [hs.capacity, hs.localSettings, hs.peerSettings, h.capacity]
  bounded := by
    rw [hs.capacity]
    exact h.bounded

theorem ended (h : Consistent fc e) (hs : SameSetup fc fc') {flowId : FlowId}
    {flow : RegisteredFlow} (hflow : fc.registry.registeredFlow flowId = some flow)
    (hpending : fc'.pendingOutbound = fc.pendingOutbound)
    (hr : fc'.registry = fc.registry.release flowId)
    (hheld : fc.held e' = Function.update (fc.held e) flow.key none) : Consistent fc' e' where
  linked := by
    rw [held_eq hs, hheld, hr]
    exact h.linked.erase hflow
  keys := fun v p hp => by
    rw [hs.connection]
    exact h.keys v p (hpending ▸ hp)
  distinct := by
    rw [hpending]
    exact h.distinct
  free := fun v p hp => by
    rw [held_eq hs, hheld]
    by_cases heq : p.key = flow.key
    · rw [heq, Function.update_self]
    · rw [Function.update_of_ne heq]
      exact h.free v p (hpending ▸ hp)
  ids := fun v flow' hflow' => by
    rw [hs.registrySide]
    rw [hr] at hflow'
    exact h.ids v flow' (SortedMap.get?_of_erase hflow').2
  side := by rw [hs.registrySide, hs.localSide, h.side]
  outbound := by
    have hout := h.outbound
    have hle := fc.registry.activeDirectionLen_release flowId .outbound
    rw [hr, hpending, hs.peerSettings]
    omega
  inbound := by
    rw [hr, hs.localSettings]
    exact (fc.registry.activeDirectionLen_release flowId .inbound).trans h.inbound
  capacity := by rw [hs.capacity, hs.localSettings, hs.peerSettings, h.capacity]
  bounded := by
    rw [hs.capacity]
    exact h.bounded

theorem associated (h : Consistent fc e) (hs : SameSetup fc fc') {flowId : FlowId}
    {flow flow' : RegisteredFlow} (hflow : fc.registry.registeredFlow flowId = some flow)
    (hkey : flow'.key = flow.key) (hmode : flow'.mode = flow.mode)
    (hpending : fc'.pendingOutbound = fc.pendingOutbound)
    (hr : fc'.registry =
      { fc.registry with flows := fc.registry.flows.insert flowId.value flow' })
    (hheld : fc.held e' = fc.held e) : Consistent fc' e' where
  linked := by
    rw [held_eq hs, hheld, hr]
    exact h.linked.relabel hflow hkey hmode
  keys := fun v p hp => by
    rw [hs.connection]
    exact h.keys v p (hpending ▸ hp)
  distinct := by
    rw [hpending]
    exact h.distinct
  free := fun v p hp => by
    rw [held_eq hs, hheld]
    exact h.free v p (hpending ▸ hp)
  ids := fun v g hg => by
    rw [hs.registrySide]
    rw [hr] at hg
    simp only [SortedMap.get?_insert] at hg
    split at hg
    · rename_i heq
      cases hg
      rw [heq, hkey]
      exact h.ids _ flow hflow
    · exact h.ids v g hg
  side := by rw [hs.registrySide, hs.localSide, h.side]
  outbound := by
    rw [hr, hpending, hs.peerSettings,
      fc.registry.activeDirectionLen_replace flow' .outbound hflow hkey]
    exact h.outbound
  inbound := by
    rw [hr, hs.localSettings, fc.registry.activeDirectionLen_replace flow' .inbound hflow hkey]
    exact h.inbound
  capacity := by rw [hs.capacity, hs.localSettings, hs.peerSettings, h.capacity]
  bounded := by
    rw [hs.capacity]
    exact h.bounded

theorem changes (h : Consistent fc e) (hc : Changes fc e fc' e') : Consistent fc' e' := by
  obtain ⟨hs, hc⟩ := hc
  cases hc with
  | keeps hr hp hheld =>
    refine h.shrunk hs hr (fun v p hv => hp ▸ hv) ?_ hheld
    rw [hp]
  | opens hidentity hlimits _ hfc he =>
    subst hfc he
    exact h.opening hidentity hlimits
  | drops hr hp hheld =>
    refine h.shrunk hs hr (fun v p hv => ?_) ?_ hheld
    · rw [hp] at hv
      exact (SortedMap.get?_of_erase hv).2
    · rw [hp]
      exact SortedMap.size_erase_le _ _
  | @establishes flowId pending flow hpending hp hr hkey hnone hheld =>
    have hout := h.outbound
    have hsize := SortedMap.size_erase_of_some hpending
    refine h.registered hs hr hnone hheld (fun v p hv => ?_) ?_ ?_
    · rw [hp] at hv
      obtain ⟨hne, hold⟩ := SortedMap.get?_of_erase hv
      refine ⟨hold, fun heq => hne ?_⟩
      exact h.distinct v flowId.value p pending hold hpending (heq.trans hkey)
    · rw [hr.state, hp, AcceptedFlowRegistry.activeDirectionLen_insert _ _ _ hr.fresh,
        if_pos hr.direction]
      omega
    · rw [hr.state, AcceptedFlowRegistry.activeDirectionLen_insert _ _ _ hr.fresh, hr.direction]
      simpa using h.inbound
  | accepts hlimit hp hr hconnection hnone hheld =>
    refine h.registered hs hr hnone hheld (fun v p hv => ?_) ?_ ?_
    · rw [hp] at hv
      refine ⟨hv, fun heq => ?_⟩
      have hdirection := (h.keys v p hv).2
      rw [heq, hr.direction] at hdirection
      cases hdirection
    · rw [hr.state, hp, AcceptedFlowRegistry.activeDirectionLen_insert _ _ _ hr.fresh, hr.direction]
      simpa using h.outbound
    · rw [hr.state, AcceptedFlowRegistry.activeDirectionLen_insert _ _ _ hr.fresh,
        if_pos hr.direction]
      omega
  | ends hflow hp hr hheld => exact h.ended hs hflow hp hr hheld
  | associates hflow hkey hmode hp hr hheld => exact h.associated hs hflow hkey hmode hp hr hheld

/-! ### No rollback for want of room -/

variable {flowId : FlowId}

/-- The registration of a pending open fails only for want of an allocation or for an error that
is not answered. -/
theorem activateOutbound_rollback (h : Consistent fc e) {pending : PendingOutboundFlow}
    (hp : fc.pendingOutbound.get? flowId.value = some pending) {key : DeliveryFlowKey}
    {f : FlowId} {reason : FlowTerminateReason} {termination : FlowTermination}
    {frame : ControlFrame} (hr : (fc.answered flowId).activateOutbound alloc e₁ flowId pending =
      .ok (.ok (.outboundFailedAfterAccept f key reason (some termination) frame), fc', e')) :
    alloc .registry = false := by
  unfold activateOutbound at hr
  generalize hreg : (fc.answered flowId).registry.registerConsumedAcceptedFlow e₁ flowId pending.key
    pending.stableMaxMessageBytes (alloc .registry) = registered at hr
  obtain ⟨res, registry'⟩ := registered
  cases res with
  | ok u => cases hr
  | error err =>
    simp only [Checked.bind_eq_ok] at hr
    obtain ⟨⟨res, e₂⟩, -, hr⟩ := hr
    cases res with
    | error err' => cases hr
    | ok report =>
      cases err
      case capacityExceeded =>
        have hroom := fc.registry.register_room e₁ flowId pending.key
          pending.stableMaxMessageBytes (alloc .registry) (h.room_of_pending hp)
        exact absurd (congrArg Prod.fst hreg) hroom
      case allocationFailed => exact AcceptedFlowRegistry.register_refused hreg
      all_goals cases hr

theorem receiveAccept_rollback (h : Consistent fc e) {body : List UInt8} {key : DeliveryFlowKey}
    {reason : FlowTerminateReason} {termination : FlowTermination} {frame : ControlFrame}
    (hr : fc.receiveAccept alloc e body =
      .ok (.ok (.outboundFailedAfterAccept flowId key reason (some termination) frame), fc', e')) :
    alloc .registry = false := by
  unfold receiveAccept at hr
  split at hr
  · cases hr
  · split at hr
    · cases hr
    · split at hr
      · cases hr
      · rename_i pending hp
        simp only [Checked.bind_eq_ok] at hr
        obtain ⟨⟨res, e₁⟩, -, hr⟩ := hr
        cases res with
        | ok u => exact h.activateOutbound_rollback hp hr
        | error err =>
          cases err
          case activeFlowLimitExceeded =>
            obtain ⟨-, -, hr | ⟨_, hr, -⟩⟩ := outboundResourceFailure_ok hr <;> cases hr
          all_goals cases hr

/-- Only a received accept ends the flow it establishes. -/
theorem receive_failed {frame answer : ControlFrame} {key : DeliveryFlowKey}
    {reason : FlowTerminateReason} {termination : Option FlowTermination}
    (hr : fc.receive alloc e frame =
      .ok (.ok (.outboundFailedAfterAccept flowId key reason termination answer), fc', e')) :
    frame.frameType = .flowAccept := by
  unfold receive at hr
  split at hr
  · split at hr
    · cases hr
    · unfold receiveOpen at hr
      split at hr
      · cases hr
      · split at hr
        · cases hr
        · simp only at hr
          split at hr
          · obtain ⟨-, -, hr | ⟨_, hr, -⟩⟩ := inboundRejection_ok hr <;> cases hr
          · split at hr
            · obtain ⟨-, -, hr | ⟨_, hr, -⟩⟩ := inboundRejection_ok hr <;> cases hr
            · cases hr
  · assumption
  · simp only [receiveReject, Except.ok.injEq] at hr
    repeat' split at hr
    all_goals cases hr
  · unfold receiveTerminate at hr
    split at hr
    · cases hr
    · split at hr
      · cases hr
      · split at hr
        · cases hr
        · simp only [Checked.bind_eq_ok] at hr
          obtain ⟨⟨res, fc₁, e₁⟩, -, hr⟩ := hr
          cases res <;> cases hr
  · cases hr

/-- A flow accepted by the peer is rolled back only if the allocator refuses its registration. -/
theorem receive_rollback (h : Consistent fc e) {frame answer : ControlFrame}
    {key : DeliveryFlowKey} {reason : FlowTerminateReason} {termination : FlowTermination}
    (hr : fc.receive alloc e frame =
      .ok (.ok (.outboundFailedAfterAccept flowId key reason (some termination) answer), fc', e')) :
    alloc .registry = false := by
  have htype := receive_failed hr
  simp only [receive, htype] at hr
  exact h.receiveAccept_rollback hr

variable {request : InboundOpenRequest} {admission : InboundAdmission} {frame : ControlFrame}

theorem activateInbound_rollback (h : Consistent fc e) (hlimit :
    fc.registry.activeDirectionLen .inbound < fc.localSettings.maxActiveIncomingFlows)
    {reason : FlowRejectReason} {accept : ControlFrame}
    (hr : fc.activateInbound alloc e₁ request admission accept =
      .ok (.ok (.rejected flowId reason frame), fc', e')) : alloc .registry = false := by
  unfold activateInbound at hr
  split at hr
  · rename_i hsize
    generalize hreg : fc.registry.registerConsumedAcceptedFlow e₁ request.flowId admission.key
      ⟨request.maxMessageBytes, hsize.1, hsize.2⟩ (alloc .registry) = registered at hr
    obtain ⟨res, registry'⟩ := registered
    cases res with
    | ok u => cases hr
    | error err =>
      simp only [Checked.bind_eq_ok] at hr
      obtain ⟨⟨res, e₂⟩, -, hr⟩ := hr
      cases res with
      | error err' => cases hr
      | ok report =>
        cases err
        case capacityExceeded =>
          have hroom := fc.registry.register_room e₁ request.flowId admission.key
            ⟨request.maxMessageBytes, hsize.1, hsize.2⟩ (alloc .registry)
            (h.room_of_inbound hlimit)
          exact absurd (congrArg Prod.fst hreg) hroom
        case allocationFailed => exact AcceptedFlowRegistry.register_refused hreg
        all_goals cases hr
  · cases hr

/-- A flow the host accepts is refused for want of resources only because of a limit, of the
settings or of the endpoint, or because the allocator refuses its registration. -/
theorem acceptInbound_rollback (h : Consistent fc e)
    (hr : fc.acceptInbound alloc e request admission =
      .ok (.ok (.rejected flowId .resourceLimit frame), fc', e')) :
    fc.localSettings.maxActiveIncomingFlows ≤ fc.registry.activeDirectionLen .inbound ∨
      (∃ scope e₁, e.establishFlow admission.key request.mode admission.policy
        admission.connectionLimits = .ok (.error (.activeFlowLimitExceeded scope), e₁)) ∨
      alloc .registry = false := by
  unfold acceptInbound at hr
  simp only at hr
  repeat' split at hr
  · cases hr
  · cases hr
  · cases hr
  · cases hr
  · simp only [resolveInboundRejection, Checked.bind_eq_ok] at hr
    obtain ⟨answer, -, hr⟩ := hr
    cases answer <;> cases hr
  · rename_i hlimit
    exact .inl hlimit
  · rename_i hlimit
    simp only [Checked.bind_eq_ok] at hr
    obtain ⟨accept, -, hr⟩ := hr
    cases accept with
    | none => cases hr
    | some accept =>
      simp only [Checked.bind_eq_ok] at hr
      obtain ⟨⟨res, e₁⟩, hest, hr⟩ := hr
      cases res with
      | ok u => exact .inr (.inr (h.activateInbound_rollback (not_le.mp hlimit) hr))
      | error err =>
        cases err
        case activeFlowLimitExceeded scope => exact .inr (.inl ⟨scope, e₁, hest⟩)
        all_goals cases hr

end Consistent

end FlowControl

/-! ### Runs -/

/-- A flow control and the endpoint it shares with others. -/
structure RegistryRun where
  control : FlowControl
  endpoint : DeliveryEndpoint

inductive RegistryOp where
  | prepareOutboundOpen (alloc : Allocator) (request : OutboundOpenRequest)
      (currentDatagramSize : Option Nat)
  | receive (alloc : Allocator) (frame : ControlFrame)
  | acceptInbound (alloc : Allocator) (request : InboundOpenRequest) (admission : InboundAdmission)
  | rejectInbound (alloc : Allocator) (request : InboundOpenRequest) (reason : FlowRejectReason)
  | terminateLocal (alloc : Allocator) (flowId : FlowId) (reason : FlowTerminateReason)
  | associateOutbound (flowId : FlowId)
  | associateInbound (flowId : FlowId)
  /-- Any other use of the endpoint; a stream binding releases the flow it ended. -/
  | endpoint (op : DeliveryOp) (ended : Option FlowId)

namespace RegistryRun

def exec (s : RegistryRun) : RegistryOp → Checked RegistryRun
  | .prepareOutboundOpen alloc request size => do
    let (_, control) ← s.control.prepareOutboundOpen alloc s.endpoint request size
    return ⟨control, s.endpoint⟩
  | .receive alloc frame => do
    let (_, control, endpoint) ← s.control.receive alloc s.endpoint frame
    return ⟨control, endpoint⟩
  | .acceptInbound alloc request admission => do
    let (_, control, endpoint) ← s.control.acceptInbound alloc s.endpoint request admission
    return ⟨control, endpoint⟩
  | .rejectInbound alloc request reason => do
    let (_, control, endpoint) ← s.control.rejectInbound alloc s.endpoint request reason
    return ⟨control, endpoint⟩
  | .terminateLocal alloc flowId reason => do
    let (_, control, endpoint) ← s.control.terminateLocal alloc s.endpoint flowId reason
    return ⟨control, endpoint⟩
  | .associateOutbound flowId =>
    let (_, registry) := s.control.registry.associateOutbound flowId
    .ok ⟨{ s.control with registry := registry }, s.endpoint⟩
  | .associateInbound flowId =>
    let (_, registry) := s.control.registry.associateInbound flowId
    .ok ⟨{ s.control with registry := registry }, s.endpoint⟩
  | .endpoint op ended => do
    let (_, endpoint) ← s.endpoint.exec op
    let control := match ended with
      | none => s.control
      | some flowId => { s.control with registry := s.control.registry.release flowId }
    return ⟨control, endpoint⟩

/-- Other uses of the endpoint keep the flows of the connection, but for the one that is released
with its end. -/
def Through (s s' : RegistryRun) : RegistryOp → Prop
  | .endpoint _ none => s.control.held s'.endpoint = s.control.held s.endpoint
  | .endpoint _ (some flowId) => ∃ flow, s.control.registry.registeredFlow flowId = some flow ∧
      s.control.held s'.endpoint = Function.update (s.control.held s.endpoint) flow.key none
  | _ => True

def Step (s s' : RegistryRun) : Prop := ∃ op, s.exec op = .ok s' ∧ Through s s' op

/-- A new flow control of a connection that has no flows yet. -/
def Starts (s : RegistryRun) : Prop :=
  (∃ connection localSide localSettings peerSettings,
    FlowControl.new connection localSide localSettings peerSettings = .ok s.control) ∧
  ∀ key, key.connection = s.control.connection → s.endpoint.flows.get? key = none

theorem start_consistent {s : RegistryRun} (h : Starts s) : s.control.Consistent s.endpoint := by
  obtain ⟨⟨connection, localSide, localSettings, peerSettings, hnew⟩, hfree⟩ := h
  exact .start hnew hfree

theorem step_consistent {s s' : RegistryRun} (hc : s.control.Consistent s.endpoint)
    (h : Step s s') : s'.control.Consistent s'.endpoint := by
  obtain ⟨op, hexec, hthrough⟩ := h
  cases op with
  | prepareOutboundOpen alloc request size =>
    simp only [exec, Checked.bind_eq_ok, Checked.pure_eq, Except.ok.injEq] at hexec
    obtain ⟨_, hop, rfl⟩ := hexec
    exact hc.changes (FlowControl.prepareOutboundOpen_changes hop)
  | receive alloc frame =>
    simp only [exec, Checked.bind_eq_ok, Checked.pure_eq, Except.ok.injEq] at hexec
    obtain ⟨_, hop, rfl⟩ := hexec
    exact hc.changes (FlowControl.receive_changes hc.keys hop)
  | acceptInbound alloc request admission =>
    simp only [exec, Checked.bind_eq_ok, Checked.pure_eq, Except.ok.injEq] at hexec
    obtain ⟨_, hop, rfl⟩ := hexec
    exact hc.changes (FlowControl.acceptInbound_changes hop)
  | rejectInbound alloc request reason =>
    simp only [exec, Checked.bind_eq_ok, Checked.pure_eq, Except.ok.injEq] at hexec
    obtain ⟨_, hop, rfl⟩ := hexec
    exact hc.changes (FlowControl.rejectInbound_changes hop)
  | terminateLocal alloc flowId reason =>
    simp only [exec, Checked.bind_eq_ok, Checked.pure_eq, Except.ok.injEq] at hexec
    obtain ⟨_, hop, rfl⟩ := hexec
    exact hc.changes (FlowControl.terminateLocal_changes hop)
  | associateOutbound flowId =>
    cases hexec
    exact hc.changes (FlowControl.associate_changes rfl)
  | associateInbound flowId =>
    cases hexec
    exact hc.changes (FlowControl.associate_changes rfl)
  | endpoint op ended =>
    simp only [exec, Checked.bind_eq_ok, Checked.pure_eq, Except.ok.injEq] at hexec
    obtain ⟨⟨reply, endpoint⟩, -, rfl⟩ := hexec
    cases ended with
    | none => exact hc.changes ⟨.refl, .keeps rfl rfl hthrough⟩
    | some flowId =>
      obtain ⟨flow, hflow, hheld⟩ := hthrough
      exact hc.changes ⟨⟨rfl, rfl, rfl, rfl, rfl, rfl⟩, .ends hflow rfl rfl hheld⟩

theorem reachable_consistent {s : RegistryRun} (h : Reachable Starts Step s) :
    s.control.Consistent s.endpoint :=
  h.invariant (P := fun s => s.control.Consistent s.endpoint) (fun _ => start_consistent)
    fun _ _ => step_consistent

/-- What the registry of flow control and the endpoint agree on. -/
structure Agrees (s : RegistryRun) : Prop where
  /-- A registered flow is held by the endpoint, with its key and mode. -/
  held : ∀ f flow, s.control.registry.registeredFlow f = some flow →
    flow.key.connection = s.control.connection ∧
      (s.endpoint.flowContract flow.key).map Prod.fst = some flow.mode
  /-- A flow the endpoint holds for the connection is registered, once. -/
  registered : ∀ key mode, key.connection = s.control.connection →
    (s.endpoint.flowContract key).map Prod.fst = some mode →
    ∃! f, ∃ flow, s.control.registry.registeredFlow f = some flow ∧ flow.key = key ∧
      flow.mode = mode
  active_distinct : ∀ f g flow flow', s.control.registry.registeredFlow f = some flow →
    s.control.registry.registeredFlow g = some flow' → flow.key = flow'.key → f = g
  pending_distinct : ∀ v v' p p', s.control.pendingOutbound.get? v = some p →
    s.control.pendingOutbound.get? v' = some p' → p.key = p'.key → v = v'
  pending_inactive : ∀ f flow v p, s.control.registry.registeredFlow f = some flow →
    s.control.pendingOutbound.get? v = some p → flow.key ≠ p.key
  outbound : s.control.registry.activeDirectionLen .outbound + s.control.pendingOutbound.size ≤
    s.control.peerSettings.maxActiveIncomingFlows
  inbound : s.control.registry.activeDirectionLen .inbound ≤
    s.control.localSettings.maxActiveIncomingFlows
  capacity : s.control.registry.flows.size ≤ s.control.registry.maxActive
  side : ∀ f flow, s.control.registry.registeredFlow f = some flow →
    f.side = s.control.localSide.opens flow.key.direction

/-- Neither registration of flow control finds the registry full: not that of a pending open, nor
that of an accepted one, which is made only below the limit of inbound flows. What the two
operations return shows a rollback only when the allocator refuses. -/
structure HasRoom (s : RegistryRun) : Prop where
  outbound : ∀ v p e f key stable reserves, s.control.pendingOutbound.get? v = some p →
    (s.control.registry.registerConsumedAcceptedFlow e f key stable reserves).1 ≠
      .error .capacityExceeded
  inbound : ∀ e f key stable reserves, s.control.registry.activeDirectionLen .inbound <
      s.control.localSettings.maxActiveIncomingFlows →
    (s.control.registry.registerConsumedAcceptedFlow e f key stable reserves).1 ≠
      .error .capacityExceeded
  accepted : ∀ alloc frame f key reason termination answer control endpoint,
    s.control.receive alloc s.endpoint frame = .ok (.ok
      (.outboundFailedAfterAccept f key reason (some termination) answer), control, endpoint) →
    alloc .registry = false
  decided : ∀ alloc request admission f frame control endpoint,
    s.control.acceptInbound alloc s.endpoint request admission =
      .ok (.ok (.rejected f .resourceLimit frame), control, endpoint) →
    s.control.localSettings.maxActiveIncomingFlows ≤
        s.control.registry.activeDirectionLen .inbound ∨
      (∃ scope e, s.endpoint.establishFlow admission.key request.mode admission.policy
        admission.connectionLimits = .ok (.error (.activeFlowLimitExceeded scope), e)) ∨
      alloc .registry = false

theorem contract_held {control : FlowControl} {endpoint : DeliveryEndpoint}
    {key : DeliveryFlowKey} (hc : key.connection = control.connection) :
    (endpoint.flowContract key).map Prod.fst = control.held endpoint key := by
  rw [FlowControl.held, if_pos hc, DeliveryEndpoint.flowContract, Option.map_map]
  rfl

theorem agrees {s : RegistryRun} (h : s.control.Consistent s.endpoint) : Agrees s where
  held := fun f flow hflow => by
    have hheld := h.linked.stands _ flow hflow
    have hc : flow.key.connection = s.control.connection := by
      by_contra hne
      rw [FlowControl.held, if_neg hne] at hheld
      cases hheld
    rw [contract_held hc]
    exact ⟨hc, hheld⟩
  registered := fun key mode hc hkey => by
    rw [contract_held hc] at hkey
    obtain ⟨v, flow, hflow, hk, hm⟩ := h.linked.named key mode hkey
    obtain ⟨f, rfl, -⟩ := h.ids v flow hflow
    refine ⟨f, ⟨flow, hflow, hk, hm⟩, ?_⟩
    rintro g ⟨flow', hflow', hk', -⟩
    exact FlowId.ext_value (h.linked.distinct _ _ _ _ hflow' hflow (hk'.trans hk.symm))
  active_distinct := fun f g flow flow' hf hg heq =>
    FlowId.ext_value (h.linked.distinct _ _ _ _ hf hg heq)
  pending_distinct := h.distinct
  pending_inactive := fun _ _ v p hflow hp =>
    h.linked.unnamed hflow (h.free v p hp)
  outbound := h.outbound
  inbound := h.inbound
  capacity := h.size_le
  side := fun f flow hflow => by
    obtain ⟨g, hvalue, hside⟩ := h.ids _ flow hflow
    cases FlowId.ext_value hvalue
    rw [hside, h.side]

theorem hasRoom {s : RegistryRun} (h : s.control.Consistent s.endpoint) : HasRoom s where
  outbound := fun _ _ e f key stable reserves hp =>
    s.control.registry.register_room e f key stable reserves (h.room_of_pending hp)
  inbound := fun e f key stable reserves hlimit =>
    s.control.registry.register_room e f key stable reserves (h.room_of_inbound hlimit)
  accepted := fun _ _ _ _ _ _ _ _ _ hr => h.receive_rollback hr
  decided := fun _ _ _ _ _ _ _ hr => h.acceptInbound_rollback hr

/-- The registry and the endpoint agree in every state of every run. -/
theorem registry_consistency {s : RegistryRun} (h : Reachable Starts Step s) :
    Agrees s ∧ HasRoom s :=
  ⟨agrees (reachable_consistent h), hasRoom (reachable_consistent h)⟩

/-! One flow of each direction, and the end of the outbound one. -/

def play (s : RegistryRun) : List RegistryOp → Checked RegistryRun
  | [] => .ok s
  | op :: ops => do
    let s ← s.exec op
    play s ops

theorem play_reachable {s s' : RegistryRun} {ops : List RegistryOp}
    (hops : ∀ op ∈ ops, ∀ s s', Through s s' op) (hs : Reachable Starts Step s)
    (h : play s ops = .ok s') : Reachable Starts Step s' := by
  induction ops generalizing s with
  | nil =>
    cases h
    exact hs
  | cons op ops ih =>
    simp only [play, Checked.bind_eq_ok] at h
    obtain ⟨s₁, hexec, h⟩ := h
    exact ih (fun op' hop' => hops op' (List.mem_cons_of_mem _ hop'))
      (hs.next ⟨op, hexec, hops op List.mem_cons_self s s₁⟩) h

def sampleStart : RegistryRun := ⟨FlowRun.sampleStart.client.control, .new FlowRun.sampleLimits⟩

def sampleOps : List RegistryOp :=
  [.prepareOutboundOpen FlowRun.sampleAlloc ⟨⟨⟨1⟩, .outbound, ⟨9⟩⟩, .reliableOrdered,
      FlowRun.samplePolicy, .nearest 16, FlowRun.sampleLimits⟩ none,
    .receive FlowRun.sampleAlloc ⟨.flowAccept, [0]⟩,
    .receive FlowRun.sampleAlloc ⟨.openFlow, [1, 0, 16]⟩,
    .acceptInbound FlowRun.sampleAlloc ⟨⟨1, by decide⟩, .reliableOrdered, 16⟩
      ⟨⟨⟨1⟩, .inbound, ⟨9⟩⟩, FlowRun.samplePolicy, FlowRun.sampleLimits⟩,
    .terminateLocal FlowRun.sampleAlloc FlowRun.sampleFlowId .resourceFailure]

theorem registry_consistency_sample : ∃ s, play sampleStart sampleOps = .ok s ∧
    (s.control.registry.registeredFlow ⟨1, by decide⟩).isSome ∧
    (s.endpoint.flowContract ⟨⟨1⟩, .inbound, ⟨9⟩⟩).isSome ∧
    (s.endpoint.flowContract ⟨⟨1⟩, .outbound, ⟨9⟩⟩).isNone ∧ Agrees s ∧ HasRoom s := by
  have hplayed : ((play sampleStart sampleOps).toOption.any fun s =>
      (s.control.registry.registeredFlow ⟨1, by decide⟩).isSome &&
        (s.endpoint.flowContract ⟨⟨1⟩, .inbound, ⟨9⟩⟩).isSome &&
        (s.endpoint.flowContract ⟨⟨1⟩, .outbound, ⟨9⟩⟩).isNone) = true := by
    decide +kernel
  obtain ⟨s, hs, hflows⟩ := (Option.any_eq_true _ _).mp hplayed
  simp only [Bool.and_eq_true] at hflows
  have hstart : Starts sampleStart :=
    ⟨⟨⟨1⟩, .client, FlowRun.sampleSettings, FlowRun.sampleSettings, rfl⟩, fun _ _ => rfl⟩
  have hreach := play_reachable (by simp [sampleOps, Through]) (.start hstart) (ok_of_toOption hs)
  exact ⟨s, ok_of_toOption hs, hflows.1.1, hflows.1.2, hflows.2, registry_consistency hreach⟩

end RegistryRun

end RunenNet
