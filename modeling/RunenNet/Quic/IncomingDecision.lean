import RunenNet.Quic.PublicConnection
import RunenNet.Quic.FlowChanges
import RunenNet.Quic.FlowRun

/-!
# Accepting an incoming flow

The host accepts a request of the peer, and the facade, the driver, flow control or Core may each
say otherwise. What the host is told is compared with what became of the request: the layers below
the facade may decline a request that the host accepted, and nothing then tells the host.
-/

namespace RunenNet

open Foundation

/-! ### Core -/

namespace DeliveryEndpoint

variable {e e' : DeliveryEndpoint} {key : DeliveryFlowKey} {mode : DeliveryMode}
  {policy : FlowResourcePolicy} {limits : DeliveryScopeLimits}

/-- The key is free and a limit on flows is reached. -/
def LacksRoom (e : DeliveryEndpoint) (key : DeliveryFlowKey) (limits : DeliveryScopeLimits) :
    Prop :=
  e.flows.get? key = none ∧
    (¬ e.aggregate.usage.canAdd e.aggregate.limits 1 0 0 ∨
      ∃ scope, e.checkConnection key.connection limits = .error (.activeFlowLimitExceeded scope))

/-- The key is free and the limits leave room for a flow. -/
def TakesFlow (e : DeliveryEndpoint) (key : DeliveryFlowKey) (limits : DeliveryScopeLimits) : Prop :=
  e.flows.get? key = none ∧ e.aggregate.usage.canAdd e.aggregate.limits 1 0 0 ∧
    e.checkConnection key.connection limits = .ok ()

theorem TakesFlow.not_lacks (h : e.TakesFlow key limits) : ¬ e.LacksRoom key limits := by
  obtain ⟨-, hagg, hconn⟩ := h
  rintro ⟨-, hfull | ⟨scope, hfull⟩⟩
  · exact hfull hagg
  · rw [hconn] at hfull
    cases hfull

/-- What Core answers says whether there was room. -/
theorem establishFlow_room {r : Except FlowEstablishmentError Unit}
    (hvalid : policy.validateForMode mode = .ok ())
    (h : e.establishFlow key mode policy limits = .ok (r, e')) :
    (r = .ok () ∧ e.TakesFlow key limits) ∨
      (∃ scope, r = .error (.activeFlowLimitExceeded scope) ∧ e.LacksRoom key limits) ∨
      (∃ err, r = .error err ∧ (∀ scope, err ≠ .activeFlowLimitExceeded scope) ∧
        ¬ e.TakesFlow key limits ∧ ¬ e.LacksRoom key limits) := by
  unfold establishFlow at h
  rw [hvalid] at h
  simp only at h
  split at h
  · rename_i hused
    cases h
    have hkey : e.flows.get? key ≠ none := fun hnone => by
      rw [SortedMap.contains_eq_false.mpr hnone] at hused
      cases hused
    exact .inr (.inr ⟨_, rfl, nofun, fun hroom => hkey hroom.1, fun hlack => hkey hlack.1⟩)
  · rename_i hfree
    have hkey : e.flows.get? key = none :=
      SortedMap.contains_eq_false.mp (by simpa using hfree)
    split at h
    · rename_i hfull
      cases h
      exact .inr (.inl ⟨_, rfl, hkey, .inl hfull⟩)
    · rename_i hagg
      rw [not_not] at hagg
      split at h
      · rename_i err hconn
        cases h
        by_cases hlimit : ∃ scope, err = .activeFlowLimitExceeded scope
        · obtain ⟨scope, rfl⟩ := hlimit
          exact .inr (.inl ⟨scope, rfl, hkey, .inr ⟨scope, hconn⟩⟩)
        · refine .inr (.inr ⟨err, rfl, fun scope heq => hlimit ⟨scope, heq⟩, ?_, ?_⟩)
          · rintro ⟨-, -, hok⟩
            rw [hconn] at hok
            cases hok
          · rintro ⟨-, hfull | ⟨scope, hfull⟩⟩
            · exact hfull hagg
            · rw [hconn] at hfull
              exact hlimit ⟨scope, Except.error.inj hfull⟩
      · rename_i hconn
        simp only [Checked.bind_eq_ok, Checked.pure_eq, Except.ok.injEq, Prod.mk.injEq] at h
        obtain ⟨_, -, _, -, rfl, -⟩ := h
        exact .inl ⟨rfl, hkey, hagg, hconn⟩

end DeliveryEndpoint

/-! ### The registry -/

namespace AcceptedFlowRegistry

/-- The registry has no place, or no memory, for a flow that the peer opened. -/
def Refuses (r : AcceptedFlowRegistry) (flowId : FlowId) (reserves : Bool) : Prop :=
  r.flows.get? flowId.value = none ∧
    (r.maxActive ≤ r.flows.size ∨
      (flowId.side = r.localSide.opens .inbound ∧ reserves = false))

/-- The registry's answer to a flow whose contract supports the stable limit. -/
theorem register_refuses {r r' : AcceptedFlowRegistry} {endpoint : DeliveryEndpoint}
    {flowId : FlowId} {key : DeliveryFlowKey} {stable : NonZeroUsize} {reserves : Bool}
    {res : Except RegistryError Unit} {mode : DeliveryMode} {policy : FlowResourcePolicy}
    (hdirection : key.direction = .inbound)
    (hcontract : endpoint.flowContract key = some (mode, policy))
    (hmax : stable.get ≤ policy.maxMessageBytes.get)
    (h : r.registerConsumedAcceptedFlow endpoint flowId key stable reserves = (res, r')) :
    (res = .error .capacityExceeded ∨ res = .error .allocationFailed) ↔
      r.Refuses flowId reserves := by
  have hlimit : limitError .inbound policy.maxMessageBytes.get stable.get = none :=
    if_neg (not_lt.mpr hmax)
  unfold registerConsumedAcceptedFlow at h
  rw [hcontract, hdirection] at h
  simp only [hlimit] at h
  split at h
  · rename_i hused
    cases h
    refine ⟨nofun, fun hr => ?_⟩
    rw [SortedMap.contains_eq_false.mpr hr.1] at hused
    cases hused
  · rename_i hfresh
    have hnone : r.flows.get? flowId.value = none :=
      SortedMap.contains_eq_false.mp (by simpa using hfresh)
    split at h
    · rename_i hfull
      cases h
      exact ⟨fun _ => ⟨hnone, .inl hfull⟩, fun _ => .inl rfl⟩
    · rename_i hroom
      split at h
      · rename_i hside
        cases h
        refine ⟨nofun, ?_⟩
        rintro ⟨-, hfull | ⟨hsame, -⟩⟩
        · exact absurd hfull hroom
        · exact absurd hsame hside
      · rename_i hside
        rw [not_not] at hside
        split at h
        · rename_i hreserves
          cases h
          exact ⟨fun _ => ⟨hnone, .inr ⟨hside, by simpa using hreserves⟩⟩, fun _ => .inr rfl⟩
        · rename_i hreserves
          cases h
          refine ⟨nofun, ?_⟩
          rintro ⟨-, hfull | ⟨-, hnot⟩⟩
          · exact absurd hfull hroom
          · exact absurd (by simp [hnot]) hreserves

end AcceptedFlowRegistry

/-! ### Flow control -/

namespace FlowControl

variable {fc fc' : FlowControl} {alloc : Allocator} {e e' e₁ : DeliveryEndpoint}
  {request : InboundOpenRequest} {admission : InboundAdmission}
  {r : Except InboundAdmissionError InboundResolution}

/-- Flow control turns the acceptance of a request into its rejection. -/
def Overloaded (fc : FlowControl) (alloc : Allocator) (e : DeliveryEndpoint)
    (request : InboundOpenRequest) (admission : InboundAdmission) : Prop :=
  request.maxMessageBytes > admission.policy.maxMessageBytes.get ∨
    fc.localSettings.maxActiveIncomingFlows ≤ fc.registry.activeDirectionLen .inbound ∨
    (alloc (.frame .flowAccept) ∧
      (e.LacksRoom admission.key admission.connectionLimits ∨
        (e.TakesFlow admission.key admission.connectionLimits ∧
          fc.registry.Refuses request.flowId (alloc .registry))))

/-- What an acceptance comes to. -/
inductive Outcome (overloaded : Prop) (alloc : Allocator) (e : DeliveryEndpoint)
    (request : InboundOpenRequest) (admission : InboundAdmission) : Resolved → Prop where
  | failed {err : InboundAdmissionError} {fc' : FlowControl} {e' : DeliveryEndpoint} :
      (overloaded → alloc (.frame .flowReject) = false) → e'.flows = e.flows →
      Outcome overloaded alloc e request admission (.error err, fc', e')
  | declined {reason : FlowRejectReason} {frame : ControlFrame} {fc' : FlowControl}
      {e' : DeliveryEndpoint} :
      overloaded → alloc (.frame .flowReject) = true →
      messageOf frame = some (.reject request.flowId reason) →
      Outcome overloaded alloc e request admission
        (.ok (.rejected request.flowId reason frame), fc', e')
  | admitted {flow : EstablishedFlow} {frame : ControlFrame} {fc' : FlowControl}
      {e' : DeliveryEndpoint} :
      ¬ overloaded → messageOf frame = some (.accept request.flowId) →
      e'.flows = e.flows.insert admission.key (.new request.mode admission.policy) →
      Outcome overloaded alloc e request admission (.ok (.accepted flow frame), fc', e')

theorem ownedFrame_isSome {type : ControlFrameType} {body : Checked (List UInt8)}
    {frame : Option ControlFrame} (h : ownedFrame alloc type body = .ok frame) :
    frame.isSome = alloc (.frame type) := by
  simp only [ownedFrame, Checked.bind_eq_ok, Checked.pure_eq, Except.ok.injEq] at h
  obtain ⟨bytes, -, rfl⟩ := h
  split
  · rename_i hsome
    exact hsome.symm
  · rename_i hnone
    exact (by simpa using hnone : alloc (.frame type) = false).symm

theorem resolveInboundRejection_outcome {overloaded : Prop} {reason : FlowRejectReason}
    (ho : overloaded) (hflows : e₁.flows = e.flows)
    (h : fc.resolveInboundRejection alloc e₁ request reason = .ok (r, fc', e')) :
    Outcome overloaded alloc e request admission (r, fc', e') := by
  simp only [resolveInboundRejection, Checked.bind_eq_ok] at h
  obtain ⟨frame, hframe, h⟩ := h
  have hsome := ownedFrame_isSome hframe
  cases frame with
  | none =>
    cases h
    exact .failed (fun _ => hsome.symm) hflows
  | some frame =>
    cases h
    exact .declined ho hsome.symm (messageOf_rejectFrame hframe)

theorem activateInbound_outcome {frame : ControlFrame}
    (hdirection : admission.key.direction = .inbound)
    (hmax : request.maxMessageBytes ≤ admission.policy.maxMessageBytes.get)
    (hlimit : fc.registry.activeDirectionLen .inbound < fc.localSettings.maxActiveIncomingFlows)
    (hframe : acceptFrame alloc request.flowId = .ok (some frame))
    (hroom : e.TakesFlow admission.key admission.connectionLimits)
    (hest : e.establishFlow admission.key request.mode admission.policy admission.connectionLimits =
      .ok (.ok (), e₁))
    (h : fc.activateInbound alloc e₁ request admission frame = .ok (r, fc', e')) :
    Outcome (fc.Overloaded alloc e request admission) alloc e request admission (r, fc', e') := by
  have hflows := DeliveryEndpoint.establishFlow_ok hest
  have hsome : alloc (.frame .flowAccept) = true := (ownedFrame_isSome hframe).symm
  have hiff : fc.Overloaded alloc e request admission ↔
      fc.registry.Refuses request.flowId (alloc .registry) := by
    refine ⟨?_, fun hr => .inr (.inr ⟨hsome, .inr ⟨hroom, hr⟩⟩)⟩
    rintro (hbig | hfull | ⟨-, hlack | ⟨-, hr⟩⟩)
    · exact absurd hmax (not_le.mpr hbig)
    · exact absurd hlimit (not_lt.mpr hfull)
    · exact absurd hlack hroom.not_lacks
    · exact hr
  unfold activateInbound at h
  split at h
  · rename_i hsize
    generalize hreg : fc.registry.registerConsumedAcceptedFlow e₁ request.flowId admission.key
      ⟨request.maxMessageBytes, hsize.1, hsize.2⟩ (alloc .registry) = registered at h
    obtain ⟨res, registry'⟩ := registered
    have hrefuses := AcceptedFlowRegistry.register_refuses hdirection
      (by rw [DeliveryEndpoint.flowContract, hflows, SortedMap.get?_insert_self]; rfl) hmax hreg
    rw [← hiff] at hrefuses
    cases res with
    | ok u =>
      cases h
      exact .admitted (fun ho => by simpa using hrefuses.mpr ho) (messageOf_acceptFrame hframe)
        hflows
    | error err =>
      simp only [Checked.bind_eq_ok] at h
      obtain ⟨⟨res, e₂⟩, hterm, h⟩ := h
      obtain ⟨⟨report, rfl⟩, hback⟩ := DeliveryEndpoint.rollback_flows hest hterm
      cases err
      case capacityExceeded =>
        exact resolveInboundRejection_outcome (hrefuses.mp (.inl rfl)) hback h
      case allocationFailed =>
        exact resolveInboundRejection_outcome (hrefuses.mp (.inr rfl)) hback h
      all_goals
        cases h
        exact .failed (fun ho => by simpa using hrefuses.mpr ho) hback
  · cases h

/-- A request that waits for its decision is admitted, declined, or the decision fails. -/
theorem acceptInbound_outcome (hdirection : admission.key.direction = .inbound)
    (hvalid : admission.policy.validateForMode request.mode = .ok ())
    (h : fc.acceptInbound alloc e request admission = .ok (r, fc', e')) :
    Outcome (fc.pendingInbound = some request ∧ admission.key.connection = fc.connection ∧
      fc.Overloaded alloc e request admission) alloc e request admission (r, fc', e') := by
  unfold acceptInbound at h
  rw [hvalid] at h
  simp only at h
  split at h
  · rename_i hpending
    cases h
    exact .failed (fun ho => absurd ho.1 hpending) rfl
  · rename_i hpending
    rw [not_not] at hpending
    split at h
    · rename_i hconnection
      cases h
      exact .failed (fun ho => absurd ho.2.1 hconnection) rfl
    · rename_i hconnection
      rw [not_not] at hconnection
      rw [if_neg (not_not.mpr hdirection)] at h
      simp only [hpending, hconnection, true_and]
      split at h
      · rename_i hbig
        exact resolveInboundRejection_outcome (.inl hbig) rfl h
      · rename_i hmax
        split at h
        · rename_i hfull
          exact resolveInboundRejection_outcome (.inr (.inl hfull)) rfl h
        · rename_i hlimit
          simp only [Checked.bind_eq_ok] at h
          obtain ⟨frame, hframe, h⟩ := h
          cases frame with
          | none =>
            cases h
            refine .failed ?_ rfl
            have hnone := ownedFrame_isSome hframe
            rintro (hbig | hfull | ⟨hsome, -⟩)
            · exact absurd hbig hmax
            · exact absurd hfull hlimit
            · rw [← hnone] at hsome
              cases hsome
          | some frame =>
            simp only [Checked.bind_eq_ok] at h
            obtain ⟨⟨res, e₁⟩, hest, h⟩ := h
            rcases DeliveryEndpoint.establishFlow_room hvalid hest with
              ⟨rfl, hroom⟩ | ⟨scope, rfl, hlack⟩ | ⟨err, rfl, hother, hroom, hlack⟩
            · exact activateInbound_outcome hdirection (not_lt.mp hmax) (not_le.mp hlimit) hframe
                hroom hest h
            · have hsame := DeliveryEndpoint.establishFlow_error hest
              exact resolveInboundRejection_outcome
                (.inr (.inr ⟨(ownedFrame_isSome hframe).symm, .inl hlack⟩))
                (congrArg DeliveryEndpoint.flows hsame) h
            · have hsame := DeliveryEndpoint.establishFlow_error hest
              subst hsame
              have hnot : ¬ fc.Overloaded alloc e₁ request admission := by
                rintro (hbig | hfull | ⟨-, hl | ⟨hr, -⟩⟩)
                · exact absurd hbig hmax
                · exact absurd hfull hlimit
                · exact hlack hl
                · exact hroom hr
              cases err
              case activeFlowLimitExceeded scope => exact absurd rfl (hother scope)
              all_goals
                cases h
                exact .failed (fun ho => absurd ho hnot) rfl

theorem rejectInbound_outcome {reason : FlowRejectReason}
    (h : fc.rejectInbound alloc e request reason = .ok (r, fc', e')) :
    Outcome (fc.pendingInbound = some request) alloc e request admission (r, fc', e') := by
  unfold rejectInbound at h
  split at h
  · rename_i hpending
    cases h
    exact .failed (fun ho => absurd ho hpending) rfl
  · rename_i hpending
    rw [not_not] at hpending
    exact resolveInboundRejection_outcome hpending rfl h

end FlowControl

/-! ### The driver -/

namespace FlowDriver

/-- The request waits for its decision, and its acceptance is turned into a rejection. -/
def Declines (fc : FlowControl) (alloc : Allocator) (e : DeliveryEndpoint)
    (request : InboundOpenRequest) (admission : InboundAdmission)
    (reliableMaxStagingBytes : NonZeroUsize) : Prop :=
  fc.pendingInbound = some request ∧
    (reliableStagingRejection request.mode request.maxMessageBytes reliableMaxStagingBytes ≠ none ∨
      (admission.key.connection = fc.connection ∧ fc.Overloaded alloc e request admission))

theorem acceptInbound_outcome {fc fc' : FlowControl} {alloc : Allocator} {e e' : DeliveryEndpoint}
    {request : InboundOpenRequest} {admission : InboundAdmission} {staging : NonZeroUsize}
    {r : Except InboundAdmissionError PendingFlowControlSend}
    (hdirection : admission.key.direction = .inbound)
    (hvalid : admission.policy.validateForMode request.mode = .ok ())
    (h : acceptInbound fc alloc e request admission staging = .ok (r, fc', e')) :
    ∃ resolution, r = resolution.map pendingInboundResolution ∧
      FlowControl.Outcome (Declines fc alloc e request admission staging) alloc e request admission
        (resolution, fc', e') := by
  unfold acceptInbound at h
  split at h
  · rename_i reason hstaging
    simp only [rejectInbound, Checked.bind_eq_ok, Checked.pure_eq, Except.ok.injEq,
      Prod.mk.injEq] at h
    obtain ⟨⟨resolution, fc₁, e₁⟩, hreject, rfl, rfl, rfl⟩ := h
    refine ⟨resolution, rfl, ?_⟩
    simp only [Declines, hstaging, ne_eq, reduceCtorEq, not_false_eq_true, true_or, and_true]
    exact FlowControl.rejectInbound_outcome hreject
  · rename_i hstaging
    simp only [Checked.bind_eq_ok, Checked.pure_eq, Except.ok.injEq, Prod.mk.injEq] at h
    obtain ⟨⟨resolution, fc₁, e₁⟩, haccept, rfl, rfl, rfl⟩ := h
    refine ⟨resolution, rfl, ?_⟩
    have ho := FlowControl.acceptInbound_outcome hdirection hvalid haccept
    simp only [Declines, hstaging, ne_eq, not_true_eq_false, false_or]
    exact ho

end FlowDriver

namespace EstablishedConnectionDriver

/-- The send that is under way. -/
def sending? (d : EstablishedConnectionDriver) : Option PendingFlowControlSend :=
  match d.sender with
  | .pending send => some send
  | .ready | .terminal => none

theorem requireControlSendReady_ok {d : EstablishedConnectionDriver}
    (h : d.requireControlSendReady = .ok ()) : d.phase = .active ∧ d.sender = .ready := by
  unfold requireControlSendReady controlOperationError ControlSendState.phase at h
  split at h
  · cases h
  · rename_i hnone
    split at hnone
    · cases hnone
    · cases hnone
    · cases hnone
    · rename_i hphase hsender
      refine ⟨hphase, ?_⟩
      split at hsender
      · assumption
      · cases hsender
      · cases hsender

/-- A decision is sent where the control stream is free. -/
theorem startDecision_ok {d : EstablishedConnectionDriver}
    (hready : d.requireControlSendReady = .ok ()) (send : PendingFlowControlSend)
    (fc : FlowControl) (e : DeliveryEndpoint) :
    d.startDecision (.ok send, fc, e) =
      (.ok (), { d with flowControl := fc, sender := .pending send }, e) := by
  obtain ⟨hphase, hsender⟩ := requireControlSendReady_ok hready
  simp [startDecision, startPreparedSend, startControlSend, hphase, hsender, Except.mapError]

end EstablishedConnectionDriver

/-! ### The facade -/

namespace Connection

variable {c c' : Connection} {t : CommandTransport} {delivery delivery' : DeliveryEndpoint}
  {request : IncomingFlowRequest} {config : InboundFlowConfig}
  {r : Except IncomingFlowDecisionError Unit}

def sending? (c : Connection) : Option PendingFlowControlSend :=
  c.driver?.bind EstablishedConnectionDriver.sending?

/-- What the host is told when the send that is under way ends, however it ends. -/
def sendReport (c : Connection) : Option ConnectionEvent :=
  c.sending?.bind fun send => mapControlSendEffect send.effect

/-- The end of a send comes to that report, whether the send completes or fails. -/
theorem pollControlSend_report {driver driver' : EstablishedConnectionDriver} {step : DriverStep}
    {transport : DriverTransport} (hdriver : c.driver? = some driver)
    (h : driver.pollControlSend transport = (step, driver')) :
    (step = .none ∧ driver' = driver) ∨
      (∃ progress, step = .progress progress ∧
        mapEstablishedProgress c.connection progress = .ok c.sendReport) ∨
      ∃ error, step = .error error ∧ precedingEvent error = c.sendReport := by
  have hreport : c.sendReport =
      driver.sending?.bind fun send => mapControlSendEffect send.effect := by
    rw [sendReport, sending?, hdriver, Option.bind_some]
  rw [hreport]
  unfold EstablishedConnectionDriver.pollControlSend at h
  unfold EstablishedConnectionDriver.sending?
  split at h
  · cases h
    exact .inl ⟨rfl, rfl⟩
  · cases h
    exact .inl ⟨rfl, rfl⟩
  · rename_i send hsender
    split at h
    · cases h
      exact .inl ⟨rfl, rfl⟩
    · cases h
      refine .inr (.inl ⟨_, rfl, ?_⟩)
      rw [hsender]
      rfl
    · cases h
      refine .inr (.inr ⟨_, rfl, ?_⟩)
      rw [hsender]
      rfl

/-- Core holds the flow under the key that the host chose, and its acceptance is being sent. -/
structure Accepts (request : IncomingFlowRequest) (config : InboundFlowConfig) (c' : Connection)
    (delivery' : DeliveryEndpoint) : Prop where
  flow : delivery'.flowContract config.key = some (request.inner.mode, config.policy)
  sending : ∃ send, c'.sending? = some send ∧
    messageOf send.frame = some (.accept request.inner.flowId)

/-- What the host is told about its decision is what became of the request. -/
def Truthful (c : Connection) (delivery : DeliveryEndpoint) (request : IncomingFlowRequest)
    (config : InboundFlowConfig) : DecidedConnection → Prop
  | (.ok (), c', delivery') => Accepts request config c' delivery' ∨ c'.sendReport.isSome
  | (.error (.retryable again _), c', delivery') => c' = c ∧ delivery' = delivery ∧ again = request
  | (.error (.failed _), _, delivery') =>
    delivery'.flows.get? config.key = delivery.flows.get? config.key

/-- The call passes the checks of the facade and of the driver, and a layer below declines the
request. -/
structure Declines (c : Connection) (t : CommandTransport) (delivery : DeliveryEndpoint)
    (request : IncomingFlowRequest) (config : InboundFlowConfig) : Prop where
  connection : request.connection = c.connection ∧ config.key.connection = c.connection
  direction : config.key.direction = .inbound
  policy : config.policy.validateForMode request.inner.mode = .ok ()
  memory : t.alloc (.frame .flowReject) = true
  driver : ∃ driver, c.driver? = some driver ∧ driver.requireControlSendReady = .ok () ∧
    FlowDriver.Declines driver.flowControl t.alloc delivery request.inner config
      driver.reliable.maxStagingBytes

theorem setDriver_self {driver : EstablishedConnectionDriver} (h : c.driver? = some driver) :
    c.setDriver driver = c := by
  obtain ⟨connection, state⟩ := c
  cases state with
  | established d => cases h; rfl
  | establishedPeerClosed d closePending => cases h
  | establishedFailed d kind pendingError => cases h

/-- A decision of flow control that went through the driver. -/
theorem startDecision_truthful {driver driver' : EstablishedConnectionDriver} {declines : Prop}
    {resolution : Except InboundAdmissionError InboundResolution} {fc' : FlowControl}
    {e' : DeliveryEndpoint}
    {res : Except EstablishedConnectionDriver.InboundDecisionDriverError Unit}
    (hready : driver.requireControlSendReady = .ok ())
    (ho : FlowControl.Outcome declines t.alloc delivery request.inner config (resolution, fc', e'))
    (hs : driver.startDecision (resolution.map FlowDriver.pendingInboundResolution, fc', e') =
      (res, driver', delivery')) :
    Truthful c delivery request config
        (res.mapError c.decisionError, c.setDriver driver', delivery') ↔
      ¬ (declines ∧ t.alloc (.frame .flowReject) = true) := by
  cases ho with
  | failed hmemory hflows =>
    cases hs
    refine ⟨fun _ hd => ?_, fun _ => congrArg (SortedMap.get? · config.key) hflows⟩
    rw [hmemory hd.1] at hd
    exact Bool.false_ne_true hd.2
  | declined hd hmemory hmessage =>
    rw [Except.map, EstablishedConnectionDriver.startDecision_ok hready] at hs
    cases hs
    refine ⟨fun htruthful => ?_, fun hnot => absurd ⟨hd, hmemory⟩ hnot⟩
    rcases htruthful with ⟨-, send, hsending, haccept⟩ | htold
    · cases hsending
      rw [FlowDriver.pendingInboundResolution, hmessage] at haccept
      cases haccept
    · cases htold
  | admitted hd hmessage hflows =>
    rw [Except.map, EstablishedConnectionDriver.startDecision_ok hready] at hs
    cases hs
    refine ⟨fun _ hnot => hd hnot.1, fun _ => .inl ⟨?_, _, rfl, hmessage⟩⟩
    rw [DeliveryEndpoint.flowContract, hflows, SortedMap.get?_insert_self]
    rfl

/-- The host is told the truth about its acceptance unless a layer below declines the request. -/
theorem acceptIncomingFlow_truthful {decided : DecidedConnection}
    (h : c.acceptIncomingFlow t delivery request config = .ok decided) :
    Truthful c delivery request config decided ↔ ¬ Declines c t delivery request config := by
  unfold acceptIncomingFlow at h
  split at h
  · rename_i hconnection
    cases h
    refine ⟨fun _ hd => ?_, fun _ => ⟨rfl, rfl, rfl⟩⟩
    rcases hconnection with hne | hne
    · exact hne hd.connection.1
    · exact hne hd.connection.2
  · rename_i hconnection
    rw [not_or, not_not, not_not] at hconnection
    split at h
    · rename_i hdirection
      cases h
      exact ⟨fun _ hd => hdirection hd.direction, fun _ => ⟨rfl, rfl, rfl⟩⟩
    · rename_i hdirection
      rw [not_not] at hdirection
      split at h
      · rename_i err hpolicy
        cases h
        refine ⟨fun _ hd => ?_, fun _ => ⟨rfl, rfl, rfl⟩⟩
        rw [hd.policy] at hpolicy
        cases hpolicy
      · rename_i hpolicy
        split at h
        · rename_i hdriver
          cases h
          refine ⟨fun _ hd => ?_, fun _ => rfl⟩
          obtain ⟨driver, hsome, -⟩ := hd.driver
          rw [hdriver] at hsome
          cases hsome
        · rename_i driver hdriver
          simp only [Checked.bind_eq_ok, Checked.pure_eq, Except.ok.injEq] at h
          obtain ⟨⟨res, driver', delivery'⟩, haccept, rfl⟩ := h
          unfold EstablishedConnectionDriver.acceptInbound at haccept
          split at haccept
          · rename_i err hbusy
            cases haccept
            have hnot : ¬ Declines c t delivery request config := fun hd => by
              obtain ⟨d, hsome, hready, -⟩ := hd.driver
              rw [hdriver] at hsome
              cases hsome
              rw [hready] at hbusy
              cases hbusy
            refine ⟨fun _ => hnot, fun _ => ?_⟩
            cases err with
            | terminal => exact rfl
            | controlSendBusy =>
              refine ⟨setDriver_self hdriver, rfl, ?_⟩
              rw [← hconnection.1]
          · rename_i hready
            simp only [Checked.bind_eq_ok, Checked.pure_eq, Except.ok.injEq] at haccept
            obtain ⟨⟨r, fc', e'⟩, hdecided, hs⟩ := haccept
            obtain ⟨resolution, rfl, ho⟩ := FlowDriver.acceptInbound_outcome hdirection hpolicy hdecided
            rw [startDecision_truthful hready ho hs, not_iff_not]
            refine ⟨fun hd => ⟨hconnection, hdirection, hpolicy, hd.2, driver, hdriver, hready, hd.1⟩,
              fun hd => ?_⟩
            obtain ⟨d, hsome, -, hdeclines⟩ := hd.driver
            rw [hdriver] at hsome
            cases hsome
            exact ⟨hdeclines, hd.memory⟩

/-! The peer opens a flow of messages that are larger than the host's policy for it. -/

/-- A transport on which nothing happens. -/
def idleTransport : Transport where
  step := {
    peerNoErrorClose := false
    controlSend := none
    controlReceive := none
    reliable := ⟨fun _ => none, none, fun _ => ⟨fun _ => none, none⟩,
      fun _ => ⟨none, fun _ => true⟩, true, true⟩
    datagram := ⟨⟨none, 0, true, none, 0, fun _ => .ok ()⟩, none, true⟩
    alloc := FlowRun.sampleAlloc
    reservesActive := true
    reservesPending := true
    reservesDatagram := true }
  peerNoErrorCloseAfter := false

/-- A control frame arrives. -/
def delivering (frame : ControlFrame) : Transport :=
  { idleTransport with step := { idleTransport.step with controlReceive := some (.ok frame) } }

/-- The control stream takes what is sent. -/
def sendingTransport : Transport :=
  { idleTransport with step := { idleTransport.step with controlSend := some (.ok ()) } }

def sampleCommand : CommandTransport := ⟨none, .ok (), FlowRun.sampleAlloc⟩

def sampleConnection : Connection := .new FlowRun.sampleStart.client.control (.nearest 64)

def sampleConfig : InboundFlowConfig :=
  ⟨⟨⟨1⟩, .inbound, ⟨9⟩⟩, { FlowRun.samplePolicy with maxMessageBytes := .nearest 8 },
    FlowRun.sampleLimits⟩

theorem sampleFlow_le : 1 ≤ maxVarint := by decide

def sampleRequest : IncomingFlowRequest := ⟨⟨1⟩, ⟨1, sampleFlow_le⟩, .reliableOrdered, 16⟩

/-- The acceptance returns `Ok`, the peer is sent a rejection, and no event follows. -/
theorem acceptIncomingFlow_silent : ∃ c₁ e₁ c₂ e₂ c₃ e₃,
    sampleConnection.poll (fun _ => delivering ⟨.openFlow, [1, 0, 16]⟩) (.new FlowRun.sampleLimits) =
      .ok (some (.ok (.incomingFlowRequested sampleRequest)), c₁, e₁) ∧
    c₁.acceptIncomingFlow sampleCommand e₁ sampleRequest sampleConfig = .ok (.ok (), c₂, e₂) ∧
    ¬ Truthful c₁ e₁ sampleRequest sampleConfig (.ok (), c₂, e₂) ∧
    c₂.poll (fun _ => sendingTransport) e₂ = .ok (none, c₃, e₃) ∧ c₃.sending? = none := by
  refine ⟨_, _, _, _, _, _, rfl, rfl, ?_, rfl, ?_⟩
  · rintro (⟨hflow, -⟩ | htold)
    · cases hflow
    · cases htold
  · rfl

/-- A policy that supports the request is told truly that the flow was accepted. -/
theorem acceptIncomingFlow_truthful_sample : ∃ c₁ e₁ c₂ e₂,
    sampleConnection.poll (fun _ => delivering ⟨.openFlow, [1, 0, 16]⟩) (.new FlowRun.sampleLimits) =
      .ok (some (.ok (.incomingFlowRequested sampleRequest)), c₁, e₁) ∧
    c₁.acceptIncomingFlow sampleCommand e₁ sampleRequest
        { sampleConfig with policy := FlowRun.samplePolicy } = .ok (.ok (), c₂, e₂) ∧
    ¬ Declines c₁ sampleCommand e₁ sampleRequest
        { sampleConfig with policy := FlowRun.samplePolicy } := by
  refine ⟨_, _, _, _, rfl, rfl, ?_⟩
  rw [← acceptIncomingFlow_truthful rfl]
  exact .inl ⟨rfl, _, rfl, rfl⟩

end Connection

end RunenNet
