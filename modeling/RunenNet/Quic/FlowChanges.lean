import RunenNet.Quic.FlowControlEffects
import RunenNet.Foundation.Linked

/-!
# How flow control changes its two views

The registry and the endpoint both say which flows the connection has. Every operation of flow
control, whatever it returns, changes the two in one of a few ways.
-/

namespace RunenNet

open Foundation

namespace DeliveryEndpoint

variable {e e₁ e₂ : DeliveryEndpoint} {key : DeliveryFlowKey}

theorem establishFlow_fresh {mode : DeliveryMode} {policy : FlowResourcePolicy}
    {limits : DeliveryScopeLimits} (h : e.establishFlow key mode policy limits = .ok (.ok (), e₁)) :
    e.flows.get? key = none := by
  unfold establishFlow at h
  split at h
  · cases h
  · split at h
    · cases h
    · rename_i hnew
      exact SortedMap.contains_eq_false.mp (by simpa using hnew)

/-- The termination of a flow that was just established undoes it. -/
theorem rollback_flows {mode : DeliveryMode} {policy : FlowResourcePolicy}
    {limits : DeliveryScopeLimits} {reason : FlowTerminationReason}
    {r : Except DeliveryOperationError FlowTermination}
    (hest : e.establishFlow key mode policy limits = .ok (.ok (), e₁))
    (hterm : e₁.terminateFlow key reason = .ok (r, e₂)) :
    (∃ report, r = .ok report) ∧ e₂.flows = e.flows := by
  have hflows := establishFlow_ok hest
  rcases terminateFlow_flows hterm with ⟨rfl, -⟩ | ⟨report, rfl, -, herase⟩
  · unfold terminateFlow at hterm
    rw [hflows, SortedMap.get?_insert_self] at hterm
    simp only [Checked.bind_eq_ok, Checked.pure_eq, Except.ok.injEq, Prod.mk.injEq,
      reduceCtorEq, false_and, and_false, exists_false] at hterm
  · rw [herase, hflows, SortedMap.erase_insert_self,
      SortedMap.erase_of_get?_none (establishFlow_fresh hest)]
    exact ⟨⟨report, rfl⟩, rfl⟩

end DeliveryEndpoint

namespace FlowControl

variable {fc fc' : FlowControl} {alloc : Allocator} {e e' e₁ : DeliveryEndpoint}
  {flowId : FlowId}

/-! ### The flows of the connection -/

/-- The flows of the connection that the endpoint holds. -/
def held (fc : FlowControl) (e : DeliveryEndpoint) (key : DeliveryFlowKey) : Option DeliveryMode :=
  if key.connection = fc.connection then (e.flows.get? key).map FlowState.mode else none

theorem held_same (h : e'.flows = e.flows) : fc.held e' = fc.held e := by
  funext key
  rw [held, held, h]

theorem held_established {key : DeliveryFlowKey} {mode : DeliveryMode} {policy : FlowResourcePolicy}
    (hc : key.connection = fc.connection) (h : e'.flows = e.flows.insert key (.new mode policy)) :
    fc.held e' = Function.update (fc.held e) key (some mode) := by
  funext k
  by_cases hk : k = key
  · subst hk
    rw [Function.update_self, held, if_pos hc, h, SortedMap.get?_insert_self]
    rfl
  · rw [Function.update_of_ne hk, held, held, h, SortedMap.get?_insert_ne _ _ hk]

theorem held_ended {key : DeliveryFlowKey} (h : e'.flows = e.flows.erase key) :
    fc.held e' = Function.update (fc.held e) key none := by
  funext k
  by_cases hk : k = key
  · subst hk
    rw [Function.update_self, held, h, SortedMap.get?_erase_self]
    exact ite_self _
  · rw [Function.update_of_ne hk, held, held, h, SortedMap.get?_erase_ne _ hk]

theorem held_fresh {key : DeliveryFlowKey} (h : e.flows.get? key = none) : fc.held e key = none := by
  rw [held, h]
  exact ite_self _

/-! ### Changes -/

/-- What no operation changes. -/
structure SameSetup (fc fc' : FlowControl) : Prop where
  connection : fc'.connection = fc.connection
  localSide : fc'.localSide = fc.localSide
  localSettings : fc'.localSettings = fc.localSettings
  peerSettings : fc'.peerSettings = fc.peerSettings
  registrySide : fc'.registry.localSide = fc.registry.localSide
  capacity : fc'.registry.maxActive = fc.registry.maxActive

/-- How the pending opens, the registry and the endpoint change together. -/
inductive Change (fc : FlowControl) (e : DeliveryEndpoint) (fc' : FlowControl)
    (e' : DeliveryEndpoint) : Prop where
  | keeps : fc'.registry = fc.registry → fc'.pendingOutbound = fc.pendingOutbound →
      fc.held e' = fc.held e → Change fc e fc' e'
  | opens {request : OutboundOpenRequest} {flowId : FlowId} :
      fc.validateOutboundIdentity e request.key = .ok () →
      fc.validateOutboundLimits request = .ok () →
      fc.pendingOutbound.get? flowId.value = none → fc' = fc.opening request flowId → e' = e →
      Change fc e fc' e'
  | drops {flowId : FlowId} : fc'.registry = fc.registry →
      fc'.pendingOutbound = fc.pendingOutbound.erase flowId.value → fc.held e' = fc.held e →
      Change fc e fc' e'
  | establishes {flowId : FlowId} {pending : PendingOutboundFlow} {flow : RegisteredFlow} :
      fc.pendingOutbound.get? flowId.value = some pending →
      fc'.pendingOutbound = fc.pendingOutbound.erase flowId.value →
      Registers fc flowId .outbound flow fc'.registry → flow.key = pending.key →
      fc.held e flow.key = none →
      fc.held e' = Function.update (fc.held e) flow.key (some flow.mode) → Change fc e fc' e'
  | accepts {flowId : FlowId} {flow : RegisteredFlow} :
      fc.registry.activeDirectionLen .inbound < fc.localSettings.maxActiveIncomingFlows →
      fc'.pendingOutbound = fc.pendingOutbound →
      Registers fc flowId .inbound flow fc'.registry → flow.key.connection = fc.connection →
      fc.held e flow.key = none →
      fc.held e' = Function.update (fc.held e) flow.key (some flow.mode) → Change fc e fc' e'
  | ends {flowId : FlowId} {flow : RegisteredFlow} : fc.registry.registeredFlow flowId = some flow →
      fc'.pendingOutbound = fc.pendingOutbound → fc'.registry = fc.registry.release flowId →
      fc.held e' = Function.update (fc.held e) flow.key none → Change fc e fc' e'
  | associates {flowId : FlowId} {flow flow' : RegisteredFlow} :
      fc.registry.registeredFlow flowId = some flow → flow'.key = flow.key →
      flow'.mode = flow.mode → fc'.pendingOutbound = fc.pendingOutbound →
      fc'.registry = { fc.registry with flows := fc.registry.flows.insert flowId.value flow' } →
      fc.held e' = fc.held e → Change fc e fc' e'

/-- An operation changes the two views and nothing of the setup. -/
def Changes (fc : FlowControl) (e : DeliveryEndpoint) (fc' : FlowControl) (e' : DeliveryEndpoint) :
    Prop := SameSetup fc fc' ∧ Change fc e fc' e'

theorem SameSetup.refl : SameSetup fc fc := ⟨rfl, rfl, rfl, rfl, rfl, rfl⟩

theorem Changes.refl : Changes fc e fc e := ⟨.refl, .keeps rfl rfl rfl⟩

/-! ### What each operation changes -/

theorem prepareOutboundOpen_changes {request : OutboundOpenRequest} {size : Option Nat}
    {r : Except OutboundOpenError PreparedOutboundOpen}
    (h : fc.prepareOutboundOpen alloc e request size = .ok (r, fc')) : Changes fc e fc' e := by
  rcases prepareOutboundOpen_effect h with ⟨-, rfl⟩ | ⟨prepared, flowId, rfl, ho⟩
  · exact .refl
  · obtain ⟨hidentity, hlimits, -⟩ := prepareOutboundOpen_checked h
    refine ⟨?_, .opens hidentity hlimits ho.fresh ho.state rfl⟩
    rw [ho.state]
    exact ⟨rfl, rfl, rfl, rfl, rfl, rfl⟩

theorem receiveOpen_changes {body : List UInt8} {r : Except FlowControlError FlowControlProgress}
    (h : fc.receiveOpen alloc e body = .ok (r, fc', e')) : Changes fc e fc' e' := by
  unfold receiveOpen at h
  split at h
  · cases h
    exact .refl
  · split at h
    · cases h
      exact ⟨⟨rfl, rfl, rfl, rfl, rfl, rfl⟩, .keeps rfl rfl rfl⟩
    · simp only at h
      split at h
      · obtain ⟨rfl, rfl, -⟩ := inboundRejection_ok h
        exact ⟨⟨rfl, rfl, rfl, rfl, rfl, rfl⟩, .keeps rfl rfl rfl⟩
      · split at h
        · obtain ⟨rfl, rfl, -⟩ := inboundRejection_ok h
          exact ⟨⟨rfl, rfl, rfl, rfl, rfl, rfl⟩, .keeps rfl rfl rfl⟩
        · cases h
          exact ⟨⟨rfl, rfl, rfl, rfl, rfl, rfl⟩, .keeps rfl rfl rfl⟩

/-- The pending opens are for outbound flows of the connection. -/
def PendingKeys (fc : FlowControl) : Prop :=
  ∀ v pending, fc.pendingOutbound.get? v = some pending →
    pending.key.connection = fc.connection ∧ pending.key.direction = .outbound

/-- What a registration adds, if it adds something. -/
theorem register_registers {key : DeliveryFlowKey} {stable : NonZeroUsize} {reserves : Bool}
    {registry' : AcceptedFlowRegistry} {mode : DeliveryMode} {policy : FlowResourcePolicy}
    (hreg : fc.registry.registerConsumedAcceptedFlow e flowId key stable reserves =
      (.ok (), registry')) (hflow : e.flows.get? key = some (.new mode policy)) :
    ∃ flow, Registers fc flowId key.direction flow registry' ∧ flow.key = key ∧
      flow.mode = mode := by
  obtain ⟨flow, policy', hfresh, hcontract, hkey, -, hside, -, hstate⟩ :=
    AcceptedFlowRegistry.register_ok hreg
  refine ⟨flow, ⟨hfresh, hside, by rw [hkey], hstate⟩, hkey, ?_⟩
  simp only [DeliveryEndpoint.flowContract, hflow, Option.map_some, Option.some.injEq,
    Prod.mk.injEq] at hcontract
  exact hcontract.1.symm

/-- The answer to an open that leaves no flow. -/
theorem answered_drops (h : e'.flows = e.flows) : Changes fc e (fc.answered flowId) e' :=
  ⟨⟨rfl, rfl, rfl, rfl, rfl, rfl⟩, .drops rfl rfl (held_same h)⟩

theorem activateOutbound_changes {pending : PendingOutboundFlow}
    {r : Except FlowControlError FlowControlProgress}
    (hp : fc.pendingOutbound.get? flowId.value = some pending)
    (hkey : pending.key.connection = fc.connection ∧ pending.key.direction = .outbound)
    (hest : e.establishFlow pending.key pending.mode pending.policy pending.connectionLimits =
      .ok (.ok (), e₁))
    (h : (fc.answered flowId).activateOutbound alloc e₁ flowId pending = .ok (r, fc', e')) :
    Changes fc e fc' e' := by
  have hflows := DeliveryEndpoint.establishFlow_ok hest
  unfold activateOutbound at h
  generalize hreg : (fc.answered flowId).registry.registerConsumedAcceptedFlow e₁ flowId pending.key
    pending.stableMaxMessageBytes (alloc .registry) = registered at h
  obtain ⟨res, registry'⟩ := registered
  cases res with
  | ok u =>
    obtain ⟨flow, hr, hk, hmode⟩ := register_registers hreg
      (by rw [hflows, SortedMap.get?_insert_self])
    rw [hkey.2] at hr
    cases h
    refine ⟨⟨rfl, rfl, rfl, rfl, ?_, ?_⟩, .establishes hp rfl
      ⟨hr.fresh, hr.side, hr.direction, hr.state⟩ hk ?_ ?_⟩
    · rw [hr.state]
      rfl
    · rw [hr.state]
      rfl
    · rw [hk]
      exact held_fresh (DeliveryEndpoint.establishFlow_fresh hest)
    · rw [hk, hmode]
      exact held_established hkey.1 hflows
  | error err =>
    have hsame := AcceptedFlowRegistry.register_error hreg
    subst hsame
    simp only [Checked.bind_eq_ok] at h
    obtain ⟨⟨res, e₂⟩, hterm, h⟩ := h
    obtain ⟨⟨report, rfl⟩, hback⟩ := DeliveryEndpoint.rollback_flows hest hterm
    cases err
    case capacityExceeded =>
      obtain ⟨rfl, rfl, -⟩ := outboundResourceFailure_ok h
      exact answered_drops hback
    case allocationFailed =>
      obtain ⟨rfl, rfl, -⟩ := outboundResourceFailure_ok h
      exact answered_drops hback
    all_goals
      cases h
      exact answered_drops hback

theorem receiveAccept_changes {body : List UInt8} {r : Except FlowControlError FlowControlProgress}
    (hkeys : PendingKeys fc) (h : fc.receiveAccept alloc e body = .ok (r, fc', e')) :
    Changes fc e fc' e' := by
  unfold receiveAccept at h
  split at h
  · cases h
    exact .refl
  · split at h
    · cases h
      exact .refl
    · split at h
      · cases h
        exact .refl
      · rename_i pending hp
        simp only [Checked.bind_eq_ok] at h
        obtain ⟨⟨res, e₁⟩, hest, h⟩ := h
        cases res with
        | ok u => exact activateOutbound_changes hp (hkeys _ _ hp) hest h
        | error err =>
          have hsame := DeliveryEndpoint.establishFlow_error hest
          subst hsame
          cases err
          case activeFlowLimitExceeded =>
            obtain ⟨rfl, rfl, -⟩ := outboundResourceFailure_ok h
            exact answered_drops rfl
          all_goals
            cases h
            exact answered_drops rfl

theorem receiveReject_changes {body : List UInt8} {r : Except FlowControlError FlowControlProgress}
    (h : fc.receiveReject e body = (r, fc', e')) : Changes fc e fc' e' := by
  unfold receiveReject at h
  split at h
  · cases h
    exact .refl
  · split at h
    · cases h
      exact .refl
    · split at h
      · cases h
        exact .refl
      · cases h
        exact answered_drops rfl

theorem endRegistered_changes {flow : RegisteredFlow} {r : Except FlowControlError FlowTermination}
    (hflow : fc.registry.registeredFlow flowId = some flow)
    (h : fc.endRegistered e flowId flow = .ok (r, fc', e')) : Changes fc e fc' e' := by
  simp only [endRegistered, Checked.bind_eq_ok] at h
  obtain ⟨⟨res, e₁⟩, hterm, h⟩ := h
  rcases DeliveryEndpoint.terminateFlow_flows hterm with ⟨rfl, rfl⟩ | ⟨report, rfl, -, hflows⟩
  · cases h
    exact .refl
  · cases h
    exact ⟨⟨rfl, rfl, rfl, rfl, rfl, rfl⟩, .ends hflow rfl rfl (held_ended hflows)⟩

theorem receiveTerminate_changes {body : List UInt8}
    {r : Except FlowControlError FlowControlProgress}
    (h : fc.receiveTerminate e body = .ok (r, fc', e')) : Changes fc e fc' e' := by
  unfold receiveTerminate at h
  split at h
  · cases h
    exact .refl
  · split at h
    · cases h
      exact .refl
    · rename_i flow hflow
      split at h
      · cases h
        exact .refl
      · simp only [Checked.bind_eq_ok] at h
        obtain ⟨⟨res, fc₁, e₁⟩, hend, h⟩ := h
        cases h
        exact endRegistered_changes hflow hend

/-- Any received frame, well-formed or not. -/
theorem receive_changes {frame : ControlFrame} {r : Except FlowControlError FlowControlProgress}
    (hkeys : PendingKeys fc) (h : fc.receive alloc e frame = .ok (r, fc', e')) :
    Changes fc e fc' e' := by
  unfold receive at h
  split at h
  · split at h
    · cases h
      exact .refl
    · exact receiveOpen_changes h
  · exact receiveAccept_changes hkeys h
  · exact receiveReject_changes (Except.ok.inj h)
  · exact receiveTerminate_changes h
  · cases h
    exact .refl

variable {request : InboundOpenRequest} {r : Except InboundAdmissionError InboundResolution}

/-- A decision that leaves no flow. -/
theorem decided_keeps (h : e'.flows = e.flows) :
    Changes fc e { fc with pendingInbound := none } e' :=
  ⟨⟨rfl, rfl, rfl, rfl, rfl, rfl⟩, .keeps rfl rfl (held_same h)⟩

theorem resolveInboundRejection_ok {reason : FlowRejectReason}
    (h : fc.resolveInboundRejection alloc e request reason = .ok (r, fc', e')) :
    fc' = { fc with pendingInbound := none } ∧ e' = e := by
  simp only [resolveInboundRejection, Checked.bind_eq_ok] at h
  obtain ⟨frame, -, h⟩ := h
  cases frame <;> cases h <;> exact ⟨rfl, rfl⟩

theorem activateInbound_changes {admission : InboundAdmission} {frame : ControlFrame}
    (hkey : admission.key.connection = fc.connection ∧ admission.key.direction = .inbound)
    (hlimit : fc.registry.activeDirectionLen .inbound < fc.localSettings.maxActiveIncomingFlows)
    (hest : e.establishFlow admission.key request.mode admission.policy admission.connectionLimits =
      .ok (.ok (), e₁))
    (h : fc.activateInbound alloc e₁ request admission frame = .ok (r, fc', e')) :
    Changes fc e fc' e' := by
  have hflows := DeliveryEndpoint.establishFlow_ok hest
  unfold activateInbound at h
  split at h
  · rename_i hsize
    generalize hreg : fc.registry.registerConsumedAcceptedFlow e₁ request.flowId admission.key
      ⟨request.maxMessageBytes, hsize.1, hsize.2⟩ (alloc .registry) = registered at h
    obtain ⟨res, registry'⟩ := registered
    cases res with
    | ok u =>
      obtain ⟨flow, hr, hk, hmode⟩ := register_registers hreg
        (by rw [hflows, SortedMap.get?_insert_self])
      rw [hkey.2] at hr
      cases h
      refine ⟨⟨rfl, rfl, rfl, rfl, ?_, ?_⟩, .accepts hlimit rfl
        ⟨hr.fresh, hr.side, hr.direction, hr.state⟩ (by rw [hk]; exact hkey.1) ?_ ?_⟩
      · rw [hr.state]
      · rw [hr.state]
      · rw [hk]
        exact held_fresh (DeliveryEndpoint.establishFlow_fresh hest)
      · rw [hk, hmode]
        exact held_established hkey.1 hflows
    | error err =>
      have hsame := AcceptedFlowRegistry.register_error hreg
      subst hsame
      simp only [Checked.bind_eq_ok] at h
      obtain ⟨⟨res, e₂⟩, hterm, h⟩ := h
      obtain ⟨⟨report, rfl⟩, hback⟩ := DeliveryEndpoint.rollback_flows hest hterm
      cases err
      case capacityExceeded =>
        obtain ⟨rfl, rfl⟩ := resolveInboundRejection_ok h
        exact decided_keeps hback
      case allocationFailed =>
        obtain ⟨rfl, rfl⟩ := resolveInboundRejection_ok h
        exact decided_keeps hback
      all_goals
        cases h
        exact decided_keeps hback
  · cases h

theorem acceptInbound_changes {admission : InboundAdmission}
    (h : fc.acceptInbound alloc e request admission = .ok (r, fc', e')) : Changes fc e fc' e' := by
  unfold acceptInbound at h
  simp only at h
  split at h
  · cases h
    exact .refl
  · split at h
    · cases h
      exact decided_keeps rfl
    · rename_i hconnection
      rw [not_not] at hconnection
      split at h
      · cases h
        exact decided_keeps rfl
      · rename_i hdirection
        rw [not_not] at hdirection
        split at h
        · cases h
          exact decided_keeps rfl
        · split at h
          · obtain ⟨rfl, rfl⟩ := resolveInboundRejection_ok h
            exact decided_keeps rfl
          · split at h
            · obtain ⟨rfl, rfl⟩ := resolveInboundRejection_ok h
              exact decided_keeps rfl
            · rename_i hlimit
              simp only [Checked.bind_eq_ok] at h
              obtain ⟨frame, -, h⟩ := h
              cases frame with
              | none =>
                cases h
                exact decided_keeps rfl
              | some frame =>
                simp only [Checked.bind_eq_ok] at h
                obtain ⟨⟨res, e₁⟩, hest, h⟩ := h
                cases res with
                | ok u =>
                  exact activateInbound_changes ⟨hconnection, hdirection⟩ (not_le.mp hlimit) hest h
                | error err =>
                  have hsame := DeliveryEndpoint.establishFlow_error hest
                  subst hsame
                  cases err
                  case activeFlowLimitExceeded =>
                    obtain ⟨rfl, rfl⟩ := resolveInboundRejection_ok h
                    exact decided_keeps rfl
                  all_goals
                    cases h
                    exact decided_keeps rfl

theorem rejectInbound_changes {reason : FlowRejectReason}
    (h : fc.rejectInbound alloc e request reason = .ok (r, fc', e')) : Changes fc e fc' e' := by
  unfold rejectInbound at h
  split at h
  · cases h
    exact .refl
  · obtain ⟨rfl, rfl⟩ := resolveInboundRejection_ok h
    exact decided_keeps rfl

theorem terminateLocal_changes {reason : FlowTerminateReason}
    {r : Except FlowControlError LocalTermination}
    (h : fc.terminateLocal alloc e flowId reason = .ok (r, fc', e')) : Changes fc e fc' e' := by
  unfold terminateLocal at h
  split at h
  · cases h
    exact .refl
  · rename_i flow hflow
    split at h
    · cases h
      exact .refl
    · simp only [Checked.bind_eq_ok] at h
      obtain ⟨frame, -, h⟩ := h
      cases frame with
      | none =>
        cases h
        exact .refl
      | some frame =>
        simp only [Checked.bind_eq_ok] at h
        obtain ⟨⟨res, fc₁, e₁⟩, hend, h⟩ := h
        cases h
        exact endRegistered_changes hflow hend

theorem associate_changes {direction : FlowDirection} {target : ReliableAssociationState}
    {res : Except RegistryError RegisteredFlow} {registry' : AcceptedFlowRegistry}
    (h : fc.registry.associate flowId direction target = (res, registry')) :
    Changes fc e { fc with registry := registry' } e := by
  rcases AcceptedFlowRegistry.associate_cases h with rfl | ⟨flow, hflow, rfl⟩
  · exact .refl
  · refine ⟨⟨rfl, rfl, rfl, rfl, rfl, rfl⟩, .associates hflow ?_ ?_ rfl rfl rfl⟩
    · rfl
    · rfl

end FlowControl

end RunenNet
