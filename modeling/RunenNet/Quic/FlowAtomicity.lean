import RunenNet.Quic.BindingWork
import RunenNet.Quic.RegistryConsistency
import RunenNet.Quic.WireLaws
import RunenNet.Foundation.Exact

/-!
# Failed opens leave nothing behind

Opening and deciding go through several steps that may fail one after the other. Whatever fails,
the flow control and the endpoint are as before, but for the decision that was taken and for the
identifier of the peer, which every well-formed open in its turn takes once.
-/

namespace RunenNet

open Foundation

/-! ### Rolling back -/

theorem ScopeUsage.add_eq {u v : ScopeUsage} {flows messages bytes : Nat}
    (h : u.add flows messages bytes = .ok v) : v = u + ⟨flows, messages, bytes⟩ := by
  simp only [add, Checked.bind_eq_ok, Checked.expect_eq_ok, checkedAdd_eq_some, Checked.pure_eq,
    Except.ok.injEq] at h
  obtain ⟨_, ⟨-, rfl⟩, _, ⟨-, rfl⟩, _, ⟨-, rfl⟩, rfl⟩ := h
  rfl

namespace Scopes

variable {d : Domain} {m m' : Scopes d} {s : Ident d} {limits : DeliveryScopeLimits}

/-- A flow that leaves right after it entered leaves the scopes as they were. -/
theorem leave_enter (hactive : ∀ state, m.get? s = some state → 0 < state.usage.activeFlows)
    (h : m.enter s limits 0 0 = .ok m') (missing : String) : m'.leave s missing 0 0 = .ok m := by
  simp only [enter, Checked.bind_eq_ok, Checked.pure_eq, Except.ok.injEq] at h
  obtain ⟨usage, husage, rfl⟩ := h
  rw [ScopeUsage.add_eq husage]
  simp only [leave, SortedMap.get?_insert_self, Checked.expect_some, Checked.ok_bind,
    ScopeUsage.remove_ok, SortedMap.insert_insert_self]
  cases hstate : m.get? s with
  | none =>
    have hnone : (ScopeState.new limits).usage.activeFlows = 0 := rfl
    simp only [Option.getD_none, hnone, if_pos, SortedMap.contains, SortedMap.get?_insert_self,
      Option.isSome_some, Checked.assert_true, Checked.ok_bind, Checked.pure_eq,
      SortedMap.erase_insert_self, SortedMap.erase_of_get?_none hstate]
  | some state =>
    have hpos := hactive state hstate
    simp only [Option.getD_some, if_neg (Nat.pos_iff_ne_zero.mp hpos), Checked.pure_eq,
      SortedMap.insert_of_get? hstate]

end Scopes

namespace DeliveryEndpoint

variable {L : DeliveryScopeLimits} {e e₁ : DeliveryEndpoint} {key : DeliveryFlowKey}

theorem Inv.connection_active (hi : e.Inv L) {c : ConnectionHandle} {state : ScopeState}
    (hc : e.connections.get? c = some state) : 0 < state.usage.activeFlows := by
  have hentry := hi.accounted.connections c
  rw [hc] at hentry
  rw [hentry.1.1]
  exact hentry.2

/-- The termination of a flow that was just established restores the endpoint. -/
theorem terminate_established (hi : e.Inv L) {mode : DeliveryMode} {policy : FlowResourcePolicy}
    {limits : DeliveryScopeLimits} (h : e.establishFlow key mode policy limits = .ok (.ok (), e₁))
    (reason : FlowTerminationReason) :
    ∃ report, e₁.terminateFlow key reason = .ok (.ok report, e) := by
  have hfresh := establishFlow_fresh h
  unfold establishFlow at h
  repeat' split at h
  all_goals try cases h
  simp only [Checked.bind_eq_ok, Checked.pure_eq, Except.ok.injEq, Prod.mk.injEq, true_and] at h
  obtain ⟨usage, husage, connections, hconnections, rfl⟩ := h
  have hleave := Scopes.leave_enter (fun _ => hi.connection_active) hconnections missingConnection
  have hflow : (e.flows.insert key (FlowState.new mode policy)).get? key =
      some (.new mode policy) := SortedMap.get?_insert_self _ _ _
  unfold terminateFlow
  simp only [hflow]
  simp only [FlowState.new, ScopeUsage.add_eq husage, ScopeUsage.remove_ok, hleave, leaveSession,
    Checked.ok_bind, Checked.pure_eq, SortedMap.erase_insert_self,
    SortedMap.erase_of_get?_none hfresh]
  exact ⟨_, rfl⟩

end DeliveryEndpoint

theorem FlowIdCursor.allocate_returns {c : FlowIdCursor} (hv : c.Valid) :
    Checked.Returns c.allocate := by
  unfold allocate
  split
  · exact .ok _
  · rename_i n hn
    obtain ⟨f, hf, -⟩ := FlowId.new_ok c.side (hv n hn)
    rw [hf]
    exact .ok _

/-- A well-formed open is for messages of at least one byte. -/
theorem OpenFlow.decode_pos {body : List UInt8} {o : OpenFlow} (h : OpenFlow.decode body = .ok o) :
    0 < o.maxMessageBytes := by
  have hread := Reader.parse_eq_ok.mp h
  simp only [reader, Reader.bind_eq_ok] at hread
  obtain ⟨_, _, -, _, _, -, _, _, -, bytes, _, -, hread⟩ := hread
  split at hread
  · cases hread
  · rename_i hpos
    cases hread
    exact Nat.pos_of_ne_zero hpos

namespace FlowControl

variable {L : DeliveryScopeLimits} {fc fc' : FlowControl} {alloc : Allocator}
  {e e' e₁ : DeliveryEndpoint}

theorem ownedFrame_returns {type : ControlFrameType} {body : Checked (List UInt8)}
    (h : Checked.Returns body) : Checked.Returns (ownedFrame alloc type body) :=
  h.bind fun _ _ => .ok _

theorem rejectFrame_returns (alloc : Allocator) (flowId : FlowId) (reason : FlowRejectReason) :
    Checked.Returns (rejectFrame alloc flowId reason) := by
  obtain ⟨body, hbody, -⟩ := FlowReject.decode_encode ⟨flowId, reason⟩
  exact ownedFrame_returns ⟨body, hbody⟩

theorem acceptFrame_returns (alloc : Allocator) (flowId : FlowId) :
    Checked.Returns (acceptFrame alloc flowId) := by
  obtain ⟨body, hbody, -⟩ := FlowAccept.decode_encode ⟨flowId⟩
  exact ownedFrame_returns ⟨body, hbody⟩

/-! ### Preparing an open -/

/-- No open waits under the next identifier. -/
theorem Numbered.fresh (hn : fc.Numbered) {flowId : FlowId}
    (hexp : fc.localFlowIds.Expects flowId) : fc.pendingOutbound.get? flowId.value = none := by
  cases hp : fc.pendingOutbound.get? flowId.value with
  | none => rfl
  | some pending => exact absurd ((hn.pending flowId pending hp).2 _ hexp.2) (lt_irrefl _)

theorem commitOutboundOpen_returns (hn : fc.Numbered) {request : OutboundOpenRequest}
    {flowId : FlowId} {cursor : FlowIdCursor}
    (hid : fc.localFlowIds.allocate = .ok (.ok flowId, cursor))
    (hmax : request.stableMaxMessageBytes.get ≤ maxVarint) :
    Checked.Returns (fc.commitOutboundOpen alloc request flowId) := by
  have h0 : request.stableMaxMessageBytes.get ≠ 0 :=
    Nat.pos_iff_ne_zero.mp request.stableMaxMessageBytes.pos
  obtain ⟨-, hr, -⟩ | ⟨f, hr, hside, hnext, -⟩ := FlowIdCursor.allocate_cases hid
  · cases hr
  cases hr
  unfold commitOutboundOpen
  simp only
  split
  · exact .ok _
  · simp only [OpenFlow.new, if_neg h0, if_neg (not_lt.mpr hmax)]
    obtain ⟨body, hbody, -⟩ := OpenFlow.decode_encode
      (o := ⟨flowId, request.mode, request.stableMaxMessageBytes.get⟩) h0 hmax
    refine Checked.Returns.bind (ownedFrame_returns ⟨body, hbody⟩) fun frame _ => ?_
    cases frame with
    | none => exact .ok _
    | some frame =>
      simp only [hid, Checked.ok_bind, hn.fresh ⟨hside, hnext⟩, decide_true, Option.isNone_none,
        Checked.assert_true]
      exact .ok _

/-- An open that is not prepared changes nothing. -/
theorem prepareOutboundOpen_atomic (hn : fc.Numbered) (hv : fc.localFlowIds.Valid)
    (alloc : Allocator) (e : DeliveryEndpoint) (request : OutboundOpenRequest)
    (size : Option Nat) : ∃ r fc', fc.prepareOutboundOpen alloc e request size = .ok (r, fc') ∧
      ∀ err, r = .error err → fc' = fc := by
  have hreturns : Checked.Returns (fc.prepareOutboundOpen alloc e request size) := by
    unfold prepareOutboundOpen
    split
    · exact .ok _
    · split
      · exact .ok _
      · rename_i hlimits
        obtain ⟨-, -, hmax, -, -⟩ := validateOutboundLimits_ok hlimits
        refine Checked.Returns.bind (FlowIdCursor.allocate_returns hv) fun preview hid => ?_
        obtain ⟨preview, cursor⟩ := preview
        cases preview with
        | error err => exact .ok _
        | ok flowId =>
          simp only
          split
          · exact .ok _
          · exact commitOutboundOpen_returns hn hid hmax
  obtain ⟨⟨r, fc'⟩, h⟩ := hreturns
  refine ⟨r, fc', h, fun err herr => ?_⟩
  rcases prepareOutboundOpen_effect h with ⟨-, hsame⟩ | ⟨prepared, flowId, rfl, -⟩
  · exact hsame
  · cases herr

/-! ### Receiving an open -/

/-- An open that is malformed or not the next of the peer changes nothing. -/
theorem receiveOpen_refused {body : List UInt8}
    (hbad : ∀ o, OpenFlow.decode body = .ok o → ¬ fc.peerFlowIds.Expects o.flowId) :
    ∃ err, fc.receiveOpen alloc e body = .ok (.error err, fc, e) := by
  unfold receiveOpen
  split
  · exact ⟨_, rfl⟩
  · rename_i o hd
    generalize hc : fc.peerFlowIds.validateAndConsume o.flowId = consumed
    obtain ⟨res, cursor⟩ := consumed
    rcases FlowIdCursor.consume_cases hc with ⟨err, rfl, rfl, -⟩ | ⟨-, hexp, -⟩
    · exact ⟨_, rfl⟩
    · exact absurd hexp (hbad o hd)

/-- What follows on an open in its turn. -/
inductive Answers (fc : FlowControl) (o : OpenFlow) :
    Except FlowControlError FlowControlProgress → Option InboundOpenRequest → Prop where
  | asks : Answers fc o (.ok (.inboundOpen ⟨o.flowId, o.deliveryMode, o.maxMessageBytes⟩))
      (some ⟨o.flowId, o.deliveryMode, o.maxMessageBytes⟩)
  | rejects {reason : FlowRejectReason} {frame : ControlFrame} :
      Answers fc o (.ok (.inboundRejected o.flowId reason frame)) fc.pendingInbound
  | fails : Answers fc o (.error .allocation) fc.pendingInbound

/-- The flow control that took an identifier of the peer. -/
def took (fc : FlowControl) (flowId : FlowId) (pending : Option InboundOpenRequest) : FlowControl :=
  { fc with
    peerFlowIds := fc.peerFlowIds.advance flowId.sequence
    pendingInbound := pending }

theorem inboundRejection_taken (fc : FlowControl) (alloc : Allocator) (e : DeliveryEndpoint)
    (o : OpenFlow) (reason : FlowRejectReason) :
    ∃ r, (fc.took o.flowId fc.pendingInbound).inboundRejection alloc e o.flowId reason =
      .ok (r, fc.took o.flowId fc.pendingInbound, e) ∧ Answers fc o r fc.pendingInbound := by
  obtain ⟨frame, hframe⟩ := rejectFrame_returns alloc o.flowId reason
  unfold inboundRejection
  rw [hframe]
  cases frame with
  | none => exact ⟨_, rfl, .fails⟩
  | some frame => exact ⟨_, rfl, .rejects⟩

/-- An open in its turn takes its identifier, whatever is answered. -/
theorem receiveOpen_taken (alloc : Allocator) (e : DeliveryEndpoint) {body : List UInt8}
    {o : OpenFlow} (hd : OpenFlow.decode body = .ok o)
    (hexp : fc.peerFlowIds.Expects o.flowId) : ∃ r pending,
      fc.receiveOpen alloc e body = .ok (r, fc.took o.flowId pending, e) ∧
        Answers fc o r pending := by
  have hconsume : fc.peerFlowIds.validateAndConsume o.flowId =
      (.ok (), fc.peerFlowIds.advance o.flowId.sequence) := by
    rcases FlowIdCursor.consume_cases rfl with ⟨_, _, _, hno⟩ | ⟨hok, _, hcursor⟩
    · exact absurd hexp hno
    · exact Prod.ext hok hcursor
  simp only [receiveOpen, hd, hconsume]
  split
  · obtain ⟨r, h, ha⟩ := inboundRejection_taken fc alloc e o .messageLimit
    exact ⟨r, _, h, ha⟩
  · split
    · obtain ⟨r, h, ha⟩ := inboundRejection_taken fc alloc e o .resourceLimit
      exact ⟨r, _, h, ha⟩
    · exact ⟨_, _, rfl, .asks⟩

/-! ### Deciding an open -/

variable {request : InboundOpenRequest} {admission : InboundAdmission}

/-- The flow control after a decision that leaves no flow. -/
def decided (fc : FlowControl) : FlowControl := { fc with pendingInbound := none }

/-- A decision returns and is over, and unless the open is accepted nothing else changes. -/
def Undone (fc : FlowControl) (e : DeliveryEndpoint) (x : Checked Resolved) : Prop :=
  ∃ r fc' e', x = .ok (r, fc', e') ∧ fc'.pendingInbound = none ∧
    fc'.peerFlowIds = fc.peerFlowIds ∧
    ((∀ flow frame, r ≠ .ok (.accepted flow frame)) → fc' = fc.decided ∧ e' = e)

theorem Undone.failed (fc : FlowControl) (e : DeliveryEndpoint) (err : InboundAdmissionError) :
    Undone fc e (.ok (.error err, fc.decided, e)) :=
  ⟨_, _, _, rfl, rfl, rfl, fun _ => ⟨rfl, rfl⟩⟩

theorem resolveInboundRejection_returns (fc : FlowControl) (alloc : Allocator)
    (e : DeliveryEndpoint) (request : InboundOpenRequest) (reason : FlowRejectReason) :
    ∃ r, fc.resolveInboundRejection alloc e request reason = .ok (r, fc.decided, e) := by
  obtain ⟨frame, hframe⟩ := rejectFrame_returns alloc request.flowId reason
  simp only [resolveInboundRejection, hframe, Checked.ok_bind]
  cases frame with
  | none => exact ⟨_, rfl⟩
  | some frame => exact ⟨_, rfl⟩

theorem Undone.rejected (fc : FlowControl) (alloc : Allocator) (e : DeliveryEndpoint)
    (request : InboundOpenRequest) (reason : FlowRejectReason) :
    Undone fc e (fc.resolveInboundRejection alloc e request reason) := by
  obtain ⟨r, h⟩ := resolveInboundRejection_returns fc alloc e request reason
  exact ⟨r, _, _, h, rfl, rfl, fun _ => ⟨rfl, rfl⟩⟩

/-- A flow that was established but not registered is rolled back. -/
theorem activateInbound_undone (hi : e.Inv L) {frame : ControlFrame}
    (hsize : 0 < request.maxMessageBytes ∧ request.maxMessageBytes ≤ usizeMax)
    (hest : e.establishFlow admission.key request.mode admission.policy admission.connectionLimits =
      .ok (.ok (), e₁)) :
    Undone fc e (fc.activateInbound alloc e₁ request admission frame) := by
  unfold activateInbound
  rw [dif_pos hsize]
  generalize hreg : fc.registry.registerConsumedAcceptedFlow e₁ request.flowId admission.key
    ⟨request.maxMessageBytes, hsize.1, hsize.2⟩ (alloc .registry) = registered
  obtain ⟨res, registry'⟩ := registered
  cases res with
  | ok u => exact ⟨_, _, _, rfl, rfl, rfl, fun hno => absurd rfl (hno _ _)⟩
  | error err =>
    have hsame := AcceptedFlowRegistry.register_error hreg
    subst hsame
    obtain ⟨report, hterm⟩ := DeliveryEndpoint.terminate_established hi hest .requested
    simp only [hterm, Checked.ok_bind]
    cases err
    case capacityExceeded => exact .rejected fc alloc e request .resourceLimit
    case allocationFailed => exact .rejected fc alloc e request .resourceLimit
    all_goals exact .failed fc e _

theorem acceptInbound_undone (hi : e.Inv L) (hp : fc.pendingInbound = some request)
    (hpos : 0 < request.maxMessageBytes) :
    Undone fc e (fc.acceptInbound alloc e request admission) := by
  unfold acceptInbound
  simp only [hp, ne_eq, not_true_eq_false, if_false]
  split
  · exact .failed fc e _
  · split
    · exact .failed fc e _
    · split
      · exact .failed fc e _
      · split
        · exact .rejected fc alloc e request .messageLimit
        · rename_i hmax
          split
          · exact .rejected fc alloc e request .resourceLimit
          · obtain ⟨frame, hframe⟩ := acceptFrame_returns alloc request.flowId
            rw [hframe, Checked.ok_bind]
            cases frame with
            | none => exact .failed fc e _
            | some frame =>
              obtain ⟨res, e₁, hest, -, hx⟩ := DeliveryEndpoint.establishFlow_spec hi admission.key
                request.mode admission.policy admission.connectionLimits
              simp only [hest, Checked.ok_bind]
              cases res with
              | ok u =>
                have hle := admission.policy.maxMessageBytes.le_max
                exact activateInbound_undone hi ⟨hpos, by omega⟩ hest
              | error err =>
                have hsame := DeliveryEndpoint.establishFlow_error hest
                subst hsame
                cases err
                case activeFlowLimitExceeded => exact .rejected fc alloc _ request .resourceLimit
                all_goals exact .failed fc _ _

/-- A request that is not pending decides nothing. -/
theorem acceptInbound_unknown (hp : fc.pendingInbound ≠ some request) :
    fc.acceptInbound alloc e request admission =
      .ok (.error (.requestNotPending request.flowId), fc, e) := if_pos hp

theorem rejectInbound_unknown (hp : fc.pendingInbound ≠ some request) {reason : FlowRejectReason} :
    fc.rejectInbound alloc e request reason =
      .ok (.error (.requestNotPending request.flowId), fc, e) := if_pos hp

theorem rejectInbound_undone (hp : fc.pendingInbound = some request) (alloc : Allocator)
    (e : DeliveryEndpoint) (reason : FlowRejectReason) :
    ∃ r, fc.rejectInbound alloc e request reason = .ok (r, fc.decided, e) := by
  obtain ⟨r, h⟩ := resolveInboundRejection_returns fc alloc e request reason
  exact ⟨r, by rw [rejectInbound, if_neg (not_not.mpr hp), h]⟩

end FlowControl

/-! ### Runs -/

/-- A flow control with its endpoint, and the identifiers of the opens of the peer that were
received in their turn. -/
structure OpenRun where
  run : RegistryRun
  opened : List FlowId

namespace OpenRun

/-- The open of a well-formed body, if it is the next one of the peer. -/
def inTurn (s : OpenRun) (body : List UInt8) : Option OpenFlow :=
  match OpenFlow.decode body with
  | .error _ => none
  | .ok o =>
    if o.flowId.side = s.run.control.localSide.opposite ∧ o.flowId.sequence = s.opened.length then
      some o
    else none

/-- The open that an operation receives in its turn, when no other one waits for a decision. -/
def receivesOpen (s : OpenRun) : RegistryOp → Option OpenFlow
  | .receive _ frame =>
    if frame.frameType = .openFlow ∧ s.run.control.pendingInbound = none then s.inTurn frame.body
    else none
  | _ => none

def exec (s : OpenRun) (op : RegistryOp) : Checked OpenRun := do
  let run ← s.run.exec op
  return ⟨run, s.opened ++ ((s.receivesOpen op).map OpenFlow.flowId).toList⟩

/-- Any operation of flow control, and any other use of the endpoint and of the registry. -/
def Step (s s' : OpenRun) : Prop := ∃ op, s.exec op = .ok s'

/-- A new flow control over any endpoint. -/
def Starts (s : OpenRun) : Prop :=
  (∃ connection localSide localSettings peerSettings,
    FlowControl.new connection localSide localSettings peerSettings = .ok s.run.control) ∧
  (∃ (L : DeliveryScopeLimits) (ops : List DeliveryOp),
    ops.foldlM DeliveryEndpoint.step (.new L) = .ok s.run.endpoint) ∧ s.opened = []

/-- The cursor of the peer has counted the opens that were taken, and the endpoint is accounted. -/
structure Sound (L : DeliveryScopeLimits) (s : OpenRun) : Prop where
  endpoint : s.run.endpoint.Inv L
  numbered : s.run.control.Numbered
  valid : s.run.control.localFlowIds.Valid
  cursor : s.run.control.peerFlowIds =
    .counted s.run.control.localSide.opposite s.opened.length
  opened : ∀ (i : Nat) (f : FlowId), s.opened[i]? = some f →
    f.side = s.run.control.localSide.opposite ∧ f.sequence = i
  pending : ∀ request, s.run.control.pendingInbound = some request →
    s.opened.getLast? = some request.flowId ∧ 0 < request.maxMessageBytes

variable {L : DeliveryScopeLimits} {s s' : OpenRun}

theorem inTurn_eq_some {body : List UInt8} {o : OpenFlow} :
    s.inTurn body = some o ↔ OpenFlow.decode body = .ok o ∧
      o.flowId.side = s.run.control.localSide.opposite ∧ o.flowId.sequence = s.opened.length := by
  unfold inTurn
  cases hd : OpenFlow.decode body with
  | error err => simp
  | ok o' =>
    simp only [Except.ok.injEq, Option.ite_none_right_eq_some, Option.some.injEq]
    constructor
    · rintro ⟨hturn, rfl⟩
      exact ⟨rfl, hturn⟩
    · rintro ⟨rfl, hturn⟩
      exact ⟨hturn, rfl⟩

theorem Sound.expects_iff (hs : s.Sound L) {f : FlowId} : s.run.control.peerFlowIds.Expects f ↔
    f.side = s.run.control.localSide.opposite ∧ f.sequence = s.opened.length := by
  rw [hs.cursor, FlowIdCursor.Expects, FlowIdCursor.counted_next]
  refine and_congr_right fun _ => ⟨And.right, fun heq => ⟨?_, heq⟩⟩
  rw [← heq]
  exact f.sequence_le

/-- A move that takes no open of the peer. -/
theorem Sound.moved (hs : s.Sound L) {message sent : Option FlowMessage} {fc : FlowControl}
    {e : DeliveryEndpoint} (hm : FlowControl.Move s.run.control message fc sent)
    (hpeer : fc.peerFlowIds = s.run.control.peerFlowIds)
    (hpending : ∀ request, fc.pendingInbound = some request →
      s.run.control.pendingInbound = some request) (hi : e.Inv L) :
    Sound L ⟨⟨fc, e⟩, s.opened⟩ where
  endpoint := hi
  numbered := hs.numbered.move hm
  valid := by
    rcases hm.opening_cases with ⟨hsame, -⟩ | ⟨o, -, -, -, hcursor, -⟩
    · simpa only [hsame] using hs.valid
    · simpa only [hcursor] using FlowIdCursor.advance_valid o.flowId.sequence_le
  cursor := by rw [hpeer, hs.cursor, hm.sides.1]
  opened := by
    rw [hm.sides.1]
    exact hs.opened
  pending := fun request hp => hs.pending request (hpending request hp)

/-- A move that takes a message which is no open. -/
theorem Sound.moved_other (hs : s.Sound L) {message sent : Option FlowMessage} {fc : FlowControl}
    {e : DeliveryEndpoint} (hm : FlowControl.Move s.run.control message fc sent)
    (hno : ∀ o, message ≠ some (.openFlow o)) (hi : e.Inv L) :
    Sound L ⟨⟨fc, e⟩, s.opened⟩ := by
  refine hs.moved hm ?_ (fun request hp => ?_) hi
  · rcases hm.taking_cases with ⟨hsame, -⟩ | ⟨o, ho, -⟩
    · exact hsame
    · exact absurd ho (hno o)
  · rcases hm.pendingInbound hp with hold | ⟨o, ho, -⟩
    · exact hold
    · exact absurd ho (hno o)

/-- An open in its turn is counted. -/
theorem Sound.took (hs : s.Sound L) {body : List UInt8} {o : OpenFlow}
    (hturn : s.inTurn body = some o) (hnone : s.run.control.pendingInbound = none)
    {pending : Option InboundOpenRequest} {r : Except FlowControlError FlowControlProgress}
    (ha : FlowControl.Answers s.run.control o r pending) {message sent : Option FlowMessage}
    (hm : FlowControl.Move s.run.control message (s.run.control.took o.flowId pending) sent) :
    Sound L ⟨⟨s.run.control.took o.flowId pending, s.run.endpoint⟩, s.opened ++ [o.flowId]⟩ := by
  obtain ⟨hd, hside, hseq⟩ := inTurn_eq_some.mp hturn
  exact {
    endpoint := hs.endpoint
    numbered := hs.numbered.move hm
    valid := hs.valid
    cursor := by
      have hle := o.flowId.sequence_le
      rw [hseq] at hle
      simp only [FlowControl.took, hs.cursor, hseq, FlowIdCursor.counted_advance hle,
        List.length_append, List.length_singleton]
    opened := fun i f hf => by
      rw [List.getElem?_append] at hf
      split at hf
      · exact hs.opened i f hf
      · rename_i hlt
        obtain ⟨hi, rfl⟩ := List.getElem?_eq_some_iff.mp hf
        rw [List.length_singleton] at hi
        rw [List.getElem_singleton]
        exact ⟨hside, by omega⟩
    pending := fun request hp => by
      cases ha with
      | asks =>
        cases hp
        exact ⟨List.getLast?_concat, OpenFlow.decode_pos hd⟩
      | rejects => cases hnone.symm.trans hp
      | fails => cases hnone.symm.trans hp }

/-! ### What a received open does -/

theorem receivesOpen_eq_some {alloc : Allocator} {frame : ControlFrame} {o : OpenFlow} :
    s.receivesOpen (.receive alloc frame) = some o ↔
      (frame.frameType = .openFlow ∧ s.run.control.pendingInbound = none) ∧
        s.inTurn frame.body = some o := by
  rw [receivesOpen, Option.ite_none_right_eq_some]

/-- An open in its turn takes its identifier, also when it is rejected at once. -/
theorem Sound.receive_taken (hs : s.Sound L) {alloc : Allocator} {frame : ControlFrame}
    {o : OpenFlow} (ho : s.receivesOpen (.receive alloc frame) = some o) : ∃ r pending,
      s.run.control.receive alloc s.run.endpoint frame =
        .ok (r, s.run.control.took o.flowId pending, s.run.endpoint) ∧
      FlowControl.Answers s.run.control o r pending := by
  obtain ⟨⟨htype, hnone⟩, hturn⟩ := receivesOpen_eq_some.mp ho
  obtain ⟨hd, hexp⟩ := inTurn_eq_some.mp hturn
  rw [← hs.expects_iff] at hexp
  obtain ⟨r, pending, h, ha⟩ := FlowControl.receiveOpen_taken alloc s.run.endpoint hd hexp
  refine ⟨r, pending, ?_, ha⟩
  simp only [FlowControl.receive, htype, hnone, h]

/-- Any other open changes nothing. -/
theorem Sound.receive_refused (hs : s.Sound L) {alloc : Allocator} {frame : ControlFrame}
    (htype : frame.frameType = .openFlow) (hno : s.receivesOpen (.receive alloc frame) = none) :
    ∃ err, s.run.control.receive alloc s.run.endpoint frame =
      .ok (.error err, s.run.control, s.run.endpoint) := by
  simp only [FlowControl.receive, htype]
  cases hp : s.run.control.pendingInbound with
  | some pending => exact ⟨_, rfl⟩
  | none =>
    refine FlowControl.receiveOpen_refused fun o hd hexp => ?_
    have hturn := inTurn_eq_some.mpr ⟨hd, hs.expects_iff.mp hexp⟩
    rw [receivesOpen_eq_some.mpr ⟨⟨htype, hp⟩, hturn⟩] at hno
    cases hno

/-! ### Steps -/

theorem Sound.receive (hs : s.Sound L) {alloc : Allocator} {frame : ControlFrame}
    {r : Except FlowControlError FlowControlProgress} {fc : FlowControl} {e : DeliveryEndpoint}
    (h : s.run.control.receive alloc s.run.endpoint frame = .ok (r, fc, e)) :
    Sound L ⟨⟨fc, e⟩, s.opened ++
      ((s.receivesOpen (.receive alloc frame)).map OpenFlow.flowId).toList⟩ := by
  have hi := (FlowControl.receive_quiet h).inv hs.endpoint
  obtain ⟨message, sent, hmove, hmessage⟩ := FlowControl.receive_move hs.numbered h
  cases ho : s.receivesOpen (.receive alloc frame) with
  | some o =>
    obtain ⟨⟨-, hnone⟩, hturn⟩ := receivesOpen_eq_some.mp ho
    obtain ⟨r', pending, h', ha⟩ := hs.receive_taken ho
    rw [h] at h'
    cases h'
    exact hs.took hturn hnone ha hmove
  | none =>
    rw [Option.map_none, Option.toList_none, List.append_nil]
    by_cases htype : frame.frameType = .openFlow
    · obtain ⟨err, h'⟩ := hs.receive_refused htype ho
      rw [h] at h'
      cases h'
      exact hs
    · refine hs.moved_other hmove (fun o hopen => htype ?_) hi
      rcases hmessage with hnone | hmessage
      · cases hnone.symm.trans hopen
      · simp only [hmessage, messageOf] at hopen
        split at hopen
        · contradiction
        all_goals simp at hopen

/-- An operation that receives nothing. -/
theorem Sound.unreceived (hs : s.Sound L) {op : RegistryOp} (hop : s.receivesOpen op = none)
    {sent : Option FlowMessage} {fc : FlowControl} {e : DeliveryEndpoint}
    (hm : FlowControl.Move s.run.control none fc sent) (hi : e.Inv L) :
    Sound L ⟨⟨fc, e⟩, s.opened ++ ((s.receivesOpen op).map OpenFlow.flowId).toList⟩ := by
  rw [hop, Option.map_none, Option.toList_none, List.append_nil]
  exact hs.moved_other hm nofun hi

theorem Sound.step (hs : s.Sound L) (h : Step s s') : s'.Sound L := by
  obtain ⟨op, h⟩ := h
  simp only [exec, Checked.bind_eq_ok, Checked.pure_eq, Except.ok.injEq] at h
  obtain ⟨run, hexec, rfl⟩ := h
  cases op with
  | prepareOutboundOpen alloc request size =>
    simp only [RegistryRun.exec, Checked.bind_eq_ok, Checked.pure_eq, Except.ok.injEq] at hexec
    obtain ⟨⟨r, fc⟩, hop, rfl⟩ := hexec
    obtain ⟨sent, hmove⟩ := FlowControl.prepareOutboundOpen_move hop
    exact hs.unreceived rfl hmove hs.endpoint
  | receive alloc frame =>
    simp only [RegistryRun.exec, Checked.bind_eq_ok, Checked.pure_eq, Except.ok.injEq] at hexec
    obtain ⟨⟨r, fc, e⟩, hop, rfl⟩ := hexec
    exact hs.receive hop
  | acceptInbound alloc request admission =>
    simp only [RegistryRun.exec, Checked.bind_eq_ok, Checked.pure_eq, Except.ok.injEq] at hexec
    obtain ⟨⟨r, fc, e⟩, hop, rfl⟩ := hexec
    obtain ⟨sent, -, hmove, -⟩ := FlowControl.acceptInbound_effect hop
    exact hs.unreceived rfl hmove ((FlowControl.acceptInbound_quiet hop).inv hs.endpoint)
  | rejectInbound alloc request reason =>
    simp only [RegistryRun.exec, Checked.bind_eq_ok, Checked.pure_eq, Except.ok.injEq] at hexec
    obtain ⟨⟨r, fc, e⟩, hop, rfl⟩ := hexec
    obtain ⟨sent, -, hmove, -⟩ := FlowControl.rejectInbound_effect hop
    exact hs.unreceived rfl hmove ((FlowControl.rejectInbound_quiet hop).inv hs.endpoint)
  | terminateLocal alloc flowId reason =>
    simp only [RegistryRun.exec, Checked.bind_eq_ok, Checked.pure_eq, Except.ok.injEq] at hexec
    obtain ⟨⟨r, fc, e⟩, hop, rfl⟩ := hexec
    obtain ⟨sent, hmove⟩ := FlowControl.terminateLocal_move hop
    exact hs.unreceived rfl hmove ((FlowControl.terminateLocal_quiet hop).inv hs.endpoint)
  | associateOutbound flowId =>
    cases hexec
    exact hs.unreceived rfl (FlowControl.associate_move rfl) hs.endpoint
  | associateInbound flowId =>
    cases hexec
    exact hs.unreceived rfl (FlowControl.associate_move rfl) hs.endpoint
  | endpoint op ended =>
    simp only [RegistryRun.exec, Checked.bind_eq_ok, Checked.pure_eq, Except.ok.injEq] at hexec
    obtain ⟨⟨reply, e⟩, hop, rfl⟩ := hexec
    have hi := (DeliveryEndpoint.exec_effect hs.endpoint hop).1
    cases ended with
    | none => exact hs.unreceived rfl (.idle fun _ ho _ => by cases ho) hi
    | some flowId => exact hs.unreceived rfl (.ends (.inl rfl)) hi

theorem Starts.sound (h : Starts s) : ∃ L, s.Sound L := by
  obtain ⟨⟨connection, localSide, localSettings, peerSettings, hnew⟩, ⟨L, ops, hops⟩, hopened⟩ := h
  obtain ⟨e, he, hi⟩ := DeliveryEndpoint.run_spec (DeliveryEndpoint.new_inv L) ops
  rw [hops] at he
  cases he
  have hnumbered := FlowControl.Numbered.start hnew
  unfold FlowControl.new at hnew
  split at hnew
  · cases hnew
  · split at hnew
    · obtain ⟨⟨control, endpoint⟩, opened⟩ := s
      cases hnew
      cases hopened
      exact ⟨L, {
        endpoint := hi
        numbered := hnumbered
        valid := FlowIdCursor.new_valid localSide
        cursor := rfl
        opened := fun _ _ hf => by cases hf
        pending := fun _ hp => by cases hp }⟩
    · cases hnew

theorem reachable_sound (h : Reachable Starts Step s) : ∃ L, s.Sound L :=
  h.invariant (P := fun s => ∃ L, s.Sound L) (fun _ => Starts.sound)
    fun _ _ ⟨L, hs⟩ hstep => ⟨L, hs.step hstep⟩

/-! ### What failures leave -/

structure Atomic (s : OpenRun) : Prop where
  prepared : ∀ alloc request size, ∃ r fc,
    s.run.control.prepareOutboundOpen alloc s.run.endpoint request size = .ok (r, fc) ∧
      ∀ err, r = .error err → fc = s.run.control
  /-- The cursor of the peer has counted the opens that were received in their turn. -/
  cursor : s.run.control.peerFlowIds =
    .counted s.run.control.localSide.opposite s.opened.length
  opened : ∀ (i : Nat) (f : FlowId), s.opened[i]? = some f →
    f.side = s.run.control.localSide.opposite ∧ f.sequence = i
  once : s.opened.Nodup
  refused : ∀ alloc frame, frame.frameType = .openFlow →
    s.receivesOpen (.receive alloc frame) = none →
      ∃ err, s.run.control.receive alloc s.run.endpoint frame =
        .ok (.error err, s.run.control, s.run.endpoint)
  taken : ∀ alloc frame o, s.receivesOpen (.receive alloc frame) = some o →
    ∃ r pending, s.run.control.receive alloc s.run.endpoint frame =
        .ok (r, s.run.control.took o.flowId pending, s.run.endpoint) ∧
      FlowControl.Answers s.run.control o r pending
  /-- The open to be decided is the last one that was taken. -/
  waiting : ∀ request, s.run.control.pendingInbound = some request →
    s.opened.getLast? = some request.flowId
  accepted : ∀ alloc request admission, s.run.control.pendingInbound = some request →
    FlowControl.Undone s.run.control s.run.endpoint
      (s.run.control.acceptInbound alloc s.run.endpoint request admission)
  rejected : ∀ alloc request reason, s.run.control.pendingInbound = some request →
    ∃ r, s.run.control.rejectInbound alloc s.run.endpoint request reason =
      .ok (r, s.run.control.decided, s.run.endpoint)
  /-- A request that is not pending leaves the decision open. -/
  unknown : ∀ request, s.run.control.pendingInbound ≠ some request →
    (∀ alloc admission, s.run.control.acceptInbound alloc s.run.endpoint request admission =
      .ok (.error (.requestNotPending request.flowId), s.run.control, s.run.endpoint)) ∧
    ∀ alloc reason, s.run.control.rejectInbound alloc s.run.endpoint request reason =
      .ok (.error (.requestNotPending request.flowId), s.run.control, s.run.endpoint)

theorem Sound.nodup (hs : s.Sound L) : s.opened.Nodup := by
  rw [List.nodup_iff_getElem?_ne_getElem?]
  intro i j hij hj heq
  obtain ⟨f, hf⟩ : ∃ f, s.opened[j]? = some f := ⟨_, List.getElem?_eq_getElem hj⟩
  have hi := (hs.opened i f (heq.trans hf)).2
  have hj := (hs.opened j f hf).2
  omega

theorem Sound.atomic (hs : s.Sound L) : s.Atomic where
  prepared := fun alloc =>
    FlowControl.prepareOutboundOpen_atomic hs.numbered hs.valid alloc s.run.endpoint
  cursor := hs.cursor
  opened := hs.opened
  once := hs.nodup
  refused := fun _ _ => hs.receive_refused
  taken := fun _ _ _ => hs.receive_taken
  waiting := fun request hp => (hs.pending request hp).1
  accepted := fun _ request _ hp =>
    FlowControl.acceptInbound_undone hs.endpoint hp (hs.pending request hp).2
  rejected := fun alloc _ reason hp =>
    FlowControl.rejectInbound_undone hp alloc s.run.endpoint reason
  unknown := fun _ hp => ⟨fun _ _ => FlowControl.acceptInbound_unknown hp,
    fun _ _ => FlowControl.rejectInbound_unknown hp⟩

/-- In every state of every run a failed open leaves nothing behind, and an identifier of the peer
is taken once. -/
theorem failure_atomicity (h : Reachable Starts Step s) : s.Atomic := by
  obtain ⟨L, hs⟩ := reachable_sound h
  exact hs.atomic

/-! An accepted open whose registration is refused, the same open once more, and the next one. -/

def sampleStart : OpenRun := ⟨RegistryRun.sampleStart, []⟩

theorem samplePeerFlow_le : 1 ≤ maxVarint := by decide

def sampleOps : List RegistryOp :=
  [.receive FlowRun.sampleAlloc ⟨.openFlow, [1, 0, 16]⟩,
    .acceptInbound (fun site => !decide (site = .registry))
      ⟨⟨1, samplePeerFlow_le⟩, .reliableOrdered, 16⟩
      ⟨⟨⟨1⟩, .inbound, ⟨9⟩⟩, FlowRun.samplePolicy, FlowRun.sampleLimits⟩,
    .receive FlowRun.sampleAlloc ⟨.openFlow, [1, 0, 16]⟩,
    .receive FlowRun.sampleAlloc ⟨.openFlow, [3, 0, 16]⟩]

theorem failure_atomicity_sample : ∃ s, sampleOps.foldlM exec sampleStart = .ok s ∧
    s.opened.map FlowId.value = [1, 3] ∧ s.run.endpoint.flows.keys = [] ∧ s.Atomic := by
  have hplayed : ((sampleOps.foldlM exec sampleStart).toOption.any fun s =>
      decide (s.opened.map FlowId.value = [1, 3]) && s.run.endpoint.flows.keys.isEmpty) = true := by
    decide +kernel
  obtain ⟨s, hs, hflows⟩ := (Option.any_eq_true _ _).mp hplayed
  simp only [Bool.and_eq_true, decide_eq_true_eq, List.isEmpty_iff] at hflows
  have hstart : Starts sampleStart :=
    ⟨⟨⟨1⟩, .client, FlowRun.sampleSettings, FlowRun.sampleSettings, rfl⟩,
      ⟨FlowRun.sampleLimits, [], rfl⟩, rfl⟩
  have hreach : Reachable Starts Step s :=
    Checked.foldlM_invariant (P := Reachable Starts Step) (fun _ op _ h hop => h.next ⟨op, hop⟩)
      (.start hstart) (ok_of_toOption hs)
  exact ⟨s, ok_of_toOption hs, hflows.1, hflows.2, failure_atomicity hreach⟩

end OpenRun

end RunenNet
