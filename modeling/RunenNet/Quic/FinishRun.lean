import RunenNet.Quic.NormalFinish
import RunenNet.Quic.IncomingDecision
import RunenNet.Foundation.Transition

/-!
# Runs with a pending finish

The host works on a connection and on the endpoint it shares, in any order. Between a granted
finish and the report of the end, the endpoint still takes a submission to the flow, and the
binding that finds it fails the flow. In runs where no such submission finds room none is accepted,
and the flow ends normally.
-/

namespace RunenNet

open Foundation
open ConnectionParts (Works Sound)

/-- The flows in `finishing` had their normal finish granted, and their end was not reported yet;
`late` are the submissions to them that were accepted. -/
structure HostRun where
  connection : Connection
  endpoint : DeliveryEndpoint
  finishing : List DeliveryFlowKey
  late : List DeliveryFlowKey

/-- What the host does. It works on the endpoint for itself and for its other connections. -/
inductive HostAction where
  | openOutboundFlow (t : Connection.CommandTransport) (config : OutboundFlowConfig)
  | acceptIncomingFlow (t : Connection.CommandTransport) (request : IncomingFlowRequest)
      (config : InboundFlowConfig)
  | rejectIncomingFlow (t : Connection.CommandTransport) (request : IncomingFlowRequest)
      (reason : FlowRejectReason)
  | submit (t : Connection.CommandTransport) (key : DeliveryFlowKey) (payload : List UInt8)
  | finishOutboundFlowNormal (t : Connection.CommandTransport) (key : DeliveryFlowKey)
  | poll (t : Nat → Connection.Transport)
  | endpoint (op : DeliveryOp)

/-- The flow and the payload that an action submits. -/
def HostAction.submits : HostAction → Option (DeliveryFlowKey × List UInt8)
  | .submit _ key payload | .endpoint (.submit key payload) => some (key, payload)
  | _ => none

namespace HostRun

/-- The flows whose end is still to be reported after an answer of a poll. -/
def unreported (finishing : List DeliveryFlowKey) :
    Polled (Except ConnectionErrorKind ConnectionEvent) → List DeliveryFlowKey
  | some (.ok (.flowTerminated key _ _ _)) => finishing.filter (· ≠ key)
  | _ => finishing

/-- A finish of a reliable flow was granted. -/
def grants (e : DeliveryEndpoint) (key : DeliveryFlowKey) :
    Except FlowCommandError Unit → Bool
  | .ok () => (e.flowContract key).any fun contract => contract.1 = .reliableOrdered
  | .error _ => false

def exec (r : HostRun) : HostAction → Checked HostRun
  | .openOutboundFlow t config => do
    let (_, connection) ← r.connection.openOutboundFlow t r.endpoint config
    return { r with connection := connection }
  | .acceptIncomingFlow t request config => do
    let (_, connection, endpoint) ← r.connection.acceptIncomingFlow t r.endpoint request config
    return { r with connection := connection, endpoint := endpoint }
  | .rejectIncomingFlow t request reason => do
    let (_, connection, endpoint) ← r.connection.rejectIncomingFlow t r.endpoint request reason
    return { r with connection := connection, endpoint := endpoint }
  | .submit t key payload => do
    let (answer, connection, endpoint) ← r.connection.submit t r.endpoint key payload
    return { r with
      connection := connection
      endpoint := endpoint
      late := if Connection.tellsAccepted answer ∧ key ∈ r.finishing then key :: r.late else r.late }
  | .finishOutboundFlowNormal t key => do
    let (answer, connection, endpoint) ← r.connection.finishOutboundFlowNormal t r.endpoint key
    return { r with
      connection := connection
      endpoint := endpoint
      finishing := if grants r.endpoint key answer then key :: r.finishing else r.finishing }
  | .poll t => do
    let (answer, connection, endpoint) ← r.connection.poll t r.endpoint
    return { r with
      connection := connection
      endpoint := endpoint
      finishing := unreported r.finishing answer }
  | .endpoint op => do
    let (_, endpoint) ← r.endpoint.exec op
    return { r with endpoint := endpoint }

/-- An established connection on an endpoint that was worked on before. -/
structure Starts (r : HostRun) : Prop where
  connection : ∃ connection side localSettings peerSettings fc maxStagingBytes,
    FlowControl.new connection side localSettings peerSettings = .ok fc ∧
      r.connection = .new fc maxStagingBytes
  endpoint : ∃ (L : DeliveryScopeLimits) (ops : List DeliveryOp),
    ops.foldlM DeliveryEndpoint.step (.new L) = .ok r.endpoint
  empty : r.finishing = [] ∧ r.late = []

/-- A step of the host that the rule allows. -/
def Step (rule : HostRun → HostAction → Prop) (r r' : HostRun) : Prop :=
  ∃ action, rule r action ∧ r.exec action = .ok r'

/-- Anything may be done. -/
def Free (_ : HostRun) (_ : HostAction) : Prop := True

/-- What is submitted to a flow that is finishing finds no room. -/
def Restrained (r : HostRun) (action : HostAction) : Prop :=
  ∀ key payload, action.submits = some (key, payload) → key ∈ r.finishing →
    ¬ r.endpoint.Admits key payload.length

/-- Nothing was accepted after a granted finish, and at every point of the work of a poll the
bindings of such flows end them normally. -/
structure FinishesNormally (r : HostRun) : Prop where
  late : r.late = []
  ends : ∀ p, Works (r.connection.parts r.endpoint) p → ∀ a ∈ p.reliable.activeOutbound,
    a.binding.finishing = true → a.binding.key ∈ r.finishing →
    a.binding.EndsNormally p.endpoint p.control.registry

/-! ### The invariant -/

structure Inv (L : DeliveryScopeLimits) (r : HostRun) : Prop where
  sound : (r.connection.parts r.endpoint).Sound L
  finishing : ∀ key ∈ r.finishing, key.direction = .outbound ∧ r.endpoint.Drained key
  late : r.late = []

variable {L : DeliveryScopeLimits} {r r' : HostRun}

theorem Inv.finishesNormally (hi : r.Inv L) : r.FinishesNormally where
  late := hi.late
  ends := fun p hworks a _ hfinishing hkey => by
    obtain ⟨hdirection, hdrained⟩ := hi.finishing _ hkey
    exact a.binding.endsNormally (hi.sound.works hworks).endpoint hfinishing hdirection
      (hworks.drained hi.sound hdirection hdrained)

theorem Inv.start (h : Starts r) : ∃ L, r.Inv L := by
  obtain ⟨⟨connection, side, localSettings, peerSettings, fc, maxStagingBytes, hfc, hr⟩,
    ⟨L, ops, hops⟩, hfinishing, hlate⟩ := h
  obtain ⟨e, he, hinv⟩ := DeliveryEndpoint.run_spec (DeliveryEndpoint.new_inv L) ops
  rw [hops, Except.ok.injEq] at he
  subst he
  refine ⟨L, ?_, by rw [hfinishing]; nofun, hlate⟩
  rw [hr]
  exact ⟨hinv, .start hfc, nofun, nofun⟩

/-- Work keeps the invariant, also where ends are reported. -/
theorem Inv.works {c : Connection} {e : DeliveryEndpoint} {finishing : List DeliveryFlowKey}
    (hi : r.Inv L) (hworks : Works (r.connection.parts r.endpoint) (c.parts e))
    (hsub : ∀ key ∈ finishing, key ∈ r.finishing) :
    Inv L { r with connection := c, endpoint := e, finishing := finishing } where
  sound := hi.sound.works hworks
  finishing := fun key hkey => by
    obtain ⟨hdirection, hdrained⟩ := hi.finishing key (hsub key hkey)
    exact ⟨hdirection, hworks.drained hi.sound hdirection hdrained⟩
  late := hi.late

/-- What is handed to the endpoint keeps the invariant where the step is restrained. -/
theorem Inv.hands {e : DeliveryEndpoint} {key : DeliveryFlowKey} {payload : List UInt8}
    {accepted : Prop} (hi : r.Inv L) (h : r.endpoint.Hands key payload accepted e)
    (hrefuses : key ∈ r.finishing → ¬ r.endpoint.Admits key payload.length) :
    Inv L { r with endpoint := e } where
  sound := ⟨h.inv hi.sound.endpoint, hi.sound.numbered, hi.sound.spent, hi.sound.keys⟩
  finishing := fun other hother => by
    obtain ⟨hdirection, hdrained⟩ := hi.finishing other hother
    refine ⟨hdirection, h.drained hi.sound.endpoint hdirection hdrained ?_⟩
    rintro rfl
    exact hrefuses hother
  late := hi.late

theorem unreported_subset {finishing : List DeliveryFlowKey}
    {answer : Polled (Except ConnectionErrorKind ConnectionEvent)} :
    ∀ key ∈ unreported finishing answer, key ∈ finishing := by
  intro key hkey
  unfold unreported at hkey
  split at hkey
  · exact List.mem_of_mem_filter hkey
  · exact hkey

theorem Inv.submit {t : Connection.CommandTransport} {key : DeliveryFlowKey} {payload : List UInt8}
    (hi : r.Inv L) (hrule : r.Restrained (.submit t key payload))
    (h : r.exec (.submit t key payload) = .ok r') : r'.Inv L := by
  simp only [exec, Checked.bind_eq_ok] at h
  obtain ⟨⟨answer, c, e⟩, hsubmit, h⟩ := h
  cases h
  obtain ⟨e₁, hhands, hworks⟩ := Connection.submit_hands hsubmit
  have hrefuses := hrule key payload rfl
  have hnone : ¬ (Connection.tellsAccepted answer = true ∧ key ∈ r.finishing) := by
    rintro ⟨haccepted, hkey⟩
    obtain ⟨hdirection, hdrained⟩ := hi.finishing key hkey
    exact (hhands.refused hdirection hdrained (hrefuses hkey)).1 haccepted
  simp only [if_neg hnone]
  exact (hi.hands hhands hrefuses).works hworks fun _ h => h

theorem Inv.finish {t : Connection.CommandTransport} {key : DeliveryFlowKey} (hi : r.Inv L)
    (h : r.exec (.finishOutboundFlowNormal t key) = .ok r') : r'.Inv L := by
  simp only [exec, Checked.bind_eq_ok] at h
  obtain ⟨⟨answer, c, e⟩, hfinish, h⟩ := h
  cases h
  have hworked := hi.works (Connection.finishOutboundFlowNormal_works hfinish) fun _ h => h
  by_cases hgrants : grants r.endpoint key answer = true
  · simp only [if_pos hgrants]
    cases answer with
    | error err => cases hgrants
    | ok _ =>
      obtain ⟨⟨mode, policy⟩, hcontract, hmode⟩ := (Option.any_eq_true _ _).mp hgrants
      cases of_decide_eq_true hmode
      obtain ⟨hdirection, rfl, hgranted⟩ :=
        Connection.finishOutboundFlowNormal_granted hi.sound hcontract hfinish
      refine ⟨hworked.sound, fun other hother => ?_, hworked.late⟩
      rcases List.mem_cons.mp hother with rfl | hold
      · exact ⟨hdirection, hgranted.drained⟩
      · exact hworked.finishing other hold
  · simp only [if_neg hgrants]
    exact hworked

theorem Inv.endpointOp {op : DeliveryOp} (hi : r.Inv L) (hrule : r.Restrained (.endpoint op))
    (h : r.exec (.endpoint op) = .ok r') : r'.Inv L := by
  simp only [exec, Checked.bind_eq_ok] at h
  obtain ⟨⟨reply, e⟩, hexec, h⟩ := h
  cases h
  have quiet : op.submits = none → Inv L { r with endpoint := e } := fun hop =>
    hi.works (.endpoint (.exec hop hexec)) fun _ h => h
  cases op with
  | submit key payload =>
    simp only [DeliveryEndpoint.exec, Checked.bind_eq_ok] at hexec
    obtain ⟨⟨res, e₁⟩, hsubmit, hexec⟩ := hexec
    cases hexec
    have hhands : r.endpoint.Hands key payload False e₁ := .inr ⟨res, hsubmit, fun hfalse => hfalse.elim⟩
    exact hi.hands hhands (hrule key payload rfl)
  | _ => exact quiet rfl

theorem Inv.step (hi : r.Inv L) (h : Step Restrained r r') : r'.Inv L := by
  obtain ⟨action, hrule, hexec⟩ := h
  cases action with
  | submit t key payload => exact hi.submit hrule hexec
  | finishOutboundFlowNormal t key => exact hi.finish hexec
  | endpoint op => exact hi.endpointOp hrule hexec
  | openOutboundFlow t config =>
    simp only [exec, Checked.bind_eq_ok] at hexec
    obtain ⟨⟨answer, c⟩, hopen, hexec⟩ := hexec
    cases hexec
    exact hi.works (Connection.openOutboundFlow_works hopen) fun _ h => h
  | acceptIncomingFlow t request config =>
    simp only [exec, Checked.bind_eq_ok] at hexec
    obtain ⟨⟨answer, c, e⟩, haccept, hexec⟩ := hexec
    cases hexec
    exact hi.works (Connection.acceptIncomingFlow_works haccept) fun _ h => h
  | rejectIncomingFlow t request reason =>
    simp only [exec, Checked.bind_eq_ok] at hexec
    obtain ⟨⟨answer, c, e⟩, hreject, hexec⟩ := hexec
    cases hexec
    exact hi.works (Connection.rejectIncomingFlow_works hreject) fun _ h => h
  | poll t =>
    simp only [exec, Checked.bind_eq_ok] at hexec
    obtain ⟨⟨answer, c, e⟩, hpoll, hexec⟩ := hexec
    cases hexec
    exact hi.works (Connection.pollRounds_works hi.sound.numbered hpoll) unreported_subset

/-- What a finishing flow accepts is exactly what finds room. -/
theorem Inv.submit_accepted_iff {t : Connection.CommandTransport} {key : DeliveryFlowKey}
    {payload : List UInt8} {driver : EstablishedConnectionDriver} {policy : FlowResourcePolicy}
    {answer : Except Connection.SubmissionError SubmitOutcome} {c : Connection}
    {e : DeliveryEndpoint} (hi : r.Inv L) (hkey : key ∈ r.finishing)
    (hconnection : key.connection = r.connection.connection)
    (hdriver : r.connection.driver? = some driver)
    (hheld : driver.hasReliableOutboundFlow key = true)
    (hreliable : r.endpoint.flowContract key = some (.reliableOrdered, policy))
    (h : r.connection.submit t r.endpoint key payload = .ok (answer, c, e)) :
    Connection.tellsAccepted answer = true ↔ r.endpoint.Admits key payload.length := by
  obtain ⟨hdirection, hdrained⟩ := hi.finishing key hkey
  unfold Connection.submit at h
  rw [if_neg (not_not.mpr hconnection), if_neg (not_not.mpr hdirection), hdriver] at h
  simp only [hreliable, hheld, not_true_eq_false, if_false, Checked.bind_eq_ok] at h
  obtain ⟨⟨res, e₁⟩, hsubmit, h⟩ := h
  cases h
  rcases DeliveryEndpoint.submit_drained hdirection hdrained hsubmit with
    ⟨⟨index, drops, rfl⟩, hadmits⟩ | ⟨hrefused, hnot, -⟩
  · exact ⟨fun _ => hadmits, fun _ => rfl⟩
  · refine ⟨fun haccepted => ?_, fun hadmits => absurd hadmits hnot⟩
    cases res with
    | error err => cases haccepted
    | ok outcome =>
      cases outcome with
      | accepted index drops => exact absurd rfl (hrefused index drops)
      | _ => cases haccepted

/-- In every run whose submissions to finishing flows find no room, none is accepted late and the
finishing flows end normally. -/
theorem restrained_finishesNormally (h : Reachable Starts (Step Restrained) r) :
    r.FinishesNormally := by
  have hinv : ∃ L, r.Inv L :=
    h.invariant (fun _ => Inv.start) fun _ _ ⟨L, hi⟩ hstep => ⟨L, hi.step hstep⟩
  obtain ⟨L, hi⟩ := hinv
  exact hi.finishesNormally

/-! A flow with a granted finish takes one more message. -/

/-- Runs the actions in turn. -/
def play (r : HostRun) (actions : List HostAction) : Checked HostRun := actions.foldlM exec r

theorem reachable_play {rule : HostRun → HostAction → Prop} {init : HostRun → Prop}
    {actions : List HostAction} (hrule : ∀ r, ∀ action ∈ actions, rule r action)
    (hr : Reachable init (Step rule) r) (h : r.play actions = .ok r') :
    Reachable init (Step rule) r' := by
  induction actions generalizing r with
  | nil =>
    cases h
    exact hr
  | cons action actions ih =>
    simp only [play, List.foldlM_cons, Checked.bind_eq_ok] at h
    obtain ⟨r₁, hexec, h⟩ := h
    exact ih (fun r a ha => hrule r a (List.mem_cons_of_mem _ ha))
      (hr.next ⟨action, hrule r action List.mem_cons_self, hexec⟩) h

def sampleStart : HostRun := ⟨Connection.sampleConnection, .new FlowRun.sampleLimits, [], []⟩

theorem sampleStart_starts : Starts sampleStart :=
  ⟨⟨⟨1⟩, .client, FlowRun.sampleSettings, FlowRun.sampleSettings, _, _, rfl, rfl⟩,
    ⟨FlowRun.sampleLimits, [], rfl⟩, rfl, rfl⟩

def sampleKey : DeliveryFlowKey := ⟨⟨1⟩, .outbound, ⟨9⟩⟩

/-- The control stream and the send streams take what is sent, and a finish is acknowledged. -/
def acknowledgingTransport : Connection.Transport :=
  let t := Connection.sendingTransport
  { t with step := { t.step with reliable := { t.step.reliable with
    openUni := fun _ => some (.ok ())
    send := fun _ => ⟨fun segment => some (.ok segment.length), some (.ok none)⟩ } } }

/-- A reliable flow is opened, accepted by the peer and bound to its stream. -/
def sampleOpen : List HostAction :=
  [.openOutboundFlow Connection.sampleCommand
      ⟨sampleKey, .reliableOrdered, FlowRun.samplePolicy, FlowRun.sampleLimits⟩,
    .poll fun _ => acknowledgingTransport,
    .poll fun _ => Connection.delivering ⟨.flowAccept, [0]⟩,
    .poll fun _ => acknowledgingTransport]

def sampleFinish : HostAction := .finishOutboundFlowNormal Connection.sampleCommand sampleKey

/-- The submission after the finish is accepted, and the acknowledged finish ends in a failure. -/
theorem late_acceptance_fails : ∃ r c e, Reachable Starts (Step Free) r ∧ r.late = [sampleKey] ∧
    r.connection.poll (fun _ => acknowledgingTransport) r.endpoint =
      .ok (some (.ok (.flowTerminated sampleKey .local .reliableDeliveryFailure
        (some ⟨sampleKey, .reliableCustodyLost, 1, true⟩))), c, e) ∧
    ¬ r.FinishesNormally := by
  have hplay : ∃ r c e, sampleStart.play
      (sampleOpen ++ [sampleFinish, .submit Connection.sampleCommand sampleKey [7]]) = .ok r ∧
      r.late = [sampleKey] ∧ r.connection.poll (fun _ => acknowledgingTransport) r.endpoint =
        .ok (some (.ok (.flowTerminated sampleKey .local .reliableDeliveryFailure
          (some ⟨sampleKey, .reliableCustodyLost, 1, true⟩))), c, e) :=
    ⟨_, _, _, rfl, rfl, rfl⟩
  obtain ⟨r, c, e, hplay, hlate, hpoll⟩ := hplay
  refine ⟨r, c, e, reachable_play (fun _ _ _ => trivial) (.start sampleStart_starts) hplay, hlate,
    hpoll, fun h => ?_⟩
  have hnone := h.late
  rw [hlate] at hnone
  cases hnone

/-- Actions that submit nothing meet the rule wherever they are taken. -/
theorem Restrained.of_quiet {actions : List HostAction}
    (h : actions.all (fun action => action.submits.isNone) = true) :
    ∀ r, ∀ action ∈ actions, Restrained r action := by
  intro r action haction key payload hsubmits
  have hquiet := List.all_eq_true.mp h action haction
  rw [hsubmits] at hquiet
  cases hquiet

theorem Restrained.of_none_finishing {action : HostAction} (h : r.finishing = []) :
    Restrained r action := by
  intro key payload _ hkey
  rw [h] at hkey
  cases hkey

theorem Restrained.of_oversized {t : Connection.CommandTransport} {key : DeliveryFlowKey}
    {payload : List UInt8} {f : FlowState} (hf : r.endpoint.flows.get? key = some f)
    (hlong : f.policy.maxMessageBytes.get < payload.length) :
    Restrained r (.submit t key payload) := by
  rintro _ _ ⟨⟩ - ⟨g, _, hg, hfits, -⟩
  rw [hf] at hg
  cases hg
  omega

/-- The message accepted before the finish is carried by the poll that follows, so the finish is
granted. -/
def sampleCarry : List HostAction := [.poll fun _ => acknowledgingTransport, sampleFinish]

/-- A message is carried before the finish and one is refused after it, for it is longer than the
flow allows; the finish is pending, and it ends normally. -/
theorem restrained_finishesNormally_sample : ∃ (opened carrying carried r : HostRun)
    (c : Connection) (e : DeliveryEndpoint), sampleStart.play sampleOpen = .ok opened ∧
    opened.exec (.submit Connection.sampleCommand sampleKey [7]) = .ok carrying ∧
    (carrying.endpoint.flows.get? sampleKey).map (fun f => f.outbound.length) = some 1 ∧
    carrying.play sampleCarry = .ok carried ∧ carried.finishing = [sampleKey] ∧
    carried.exec (.submit Connection.sampleCommand sampleKey (.replicate 17 7)) = .ok r ∧
    r.FinishesNormally ∧ r.connection.poll (fun _ => acknowledgingTransport) r.endpoint =
      .ok (some (.ok (.flowTerminated sampleKey .local .normal
        (some ⟨sampleKey, .requested, 0, false⟩))), c, e) := by
  have hplay : ∃ (opened carrying carried r : HostRun) (c : Connection) (e : DeliveryEndpoint)
      (f : FlowState), sampleStart.play sampleOpen = .ok opened ∧ opened.finishing = [] ∧
      opened.exec (.submit Connection.sampleCommand sampleKey [7]) = .ok carrying ∧
      (carrying.endpoint.flows.get? sampleKey).map (fun f => f.outbound.length) = some 1 ∧
      carrying.play sampleCarry = .ok carried ∧ carried.finishing = [sampleKey] ∧
      carried.endpoint.flows.get? sampleKey = some f ∧ f.policy.maxMessageBytes.get = 16 ∧
      carried.exec (.submit Connection.sampleCommand sampleKey (.replicate 17 7)) = .ok r ∧
      r.connection.poll (fun _ => acknowledgingTransport) r.endpoint =
        .ok (some (.ok (.flowTerminated sampleKey .local .normal
          (some ⟨sampleKey, .requested, 0, false⟩))), c, e) :=
    ⟨_, _, _, _, _, _, _, rfl, rfl, rfl, rfl, rfl, rfl, rfl, rfl, rfl, rfl⟩
  obtain ⟨opened, carrying, carried, r, c, e, f, hopen, hnone, hcarrying, hpending, hcarry,
    hfinishing, hf, hmax, hrefused, hpoll⟩ := hplay
  have hopened := reachable_play (Restrained.of_quiet rfl) (.start sampleStart_starts) hopen
  have hcarried := reachable_play (Restrained.of_quiet rfl)
    (hopened.next ⟨_, .of_none_finishing hnone, hcarrying⟩) hcarry
  have hlong : f.policy.maxMessageBytes.get < (List.replicate 17 (7 : UInt8)).length := by
    rw [hmax, List.length_replicate]
    omega
  refine ⟨opened, carrying, carried, r, c, e, hopen, hcarrying, hpending, hcarry, hfinishing,
    hrefused, ?_, hpoll⟩
  exact restrained_finishesNormally (hcarried.next ⟨_, .of_oversized hf hlong, hrefused⟩)

end HostRun

end RunenNet
