import RunenNet.Quic.FlowControlEffects
import RunenNet.Core.Delivery.Safety
import RunenNet.Foundation.Transition

/-!
# Two flow controls and their control channels

Each side has a flow control and a delivery endpoint, and the frames it sent reach the other side
in order. A side may do anything the crate lets it do, in any order; what it decides is in the
action, what it logs (`opened`, `registered`, `refused`) is never read.
-/

namespace RunenNet

open Foundation

structure FlowSide where
  control : FlowControl
  endpoint : DeliveryEndpoint
  /-- Frames the other side has not received yet, the oldest first. -/
  sent : List ControlFrame
  opened : List OpenFlow
  /-- The values the registry has ever held. -/
  registered : List Nat
  refused : List FlowControlError

inductive FlowAction where
  | prepareOutboundOpen (alloc : Allocator) (request : OutboundOpenRequest)
      (currentDatagramSize : Option Nat)
  | acceptInbound (alloc : Allocator) (request : InboundOpenRequest) (admission : InboundAdmission)
  | rejectInbound (alloc : Allocator) (request : InboundOpenRequest) (reason : FlowRejectReason)
  | receive (alloc : Allocator)
  | terminateLocal (alloc : Allocator) (flowId : FlowId) (reason : FlowTerminateReason)
  /-- The `ReportOnly` disposition of a data failure. -/
  | reportOnly (alloc : Allocator) (flowId : FlowId) (reason : FlowTerminateReason)
  | associateOutbound (flowId : FlowId)
  | associateInbound (flowId : FlowId)
  /-- The normal end of a reliable flow, which no frame reports. -/
  | release (flowId : FlowId)
  | endpoint (op : DeliveryOp)

/-- The flow an action ends without a frame. -/
def FlowAction.released : FlowAction → Option FlowId
  | .release flowId => some flowId
  | _ => none

namespace FlowSide

/-- The side after an operation of its flow control that sends `frame`. -/
def after (me : FlowSide) (control : FlowControl) (endpoint : DeliveryEndpoint)
    (frame : Option ControlFrame) : FlowSide :=
  { me with
    control := control
    endpoint := endpoint
    sent := me.sent ++ frame.toList
    registered := me.registered ++ control.registry.flows.keys }

def terminate (me : FlowSide) (alloc : Allocator) (flowId : FlowId)
    (reason : FlowTerminateReason) : Checked FlowSide := do
  let (r, control, endpoint) ← me.control.terminateLocal alloc me.endpoint flowId reason
  return me.after control endpoint (r.toOption.map LocalTermination.frame)

/-- `prepare_established_data_failure` of a `ReportOnly`: a flow that is still registered is
terminated, one that is not is only reported. -/
def report (me : FlowSide) (alloc : Allocator) (flowId : FlowId)
    (reason : FlowTerminateReason) : Checked FlowSide :=
  match me.control.registry.registeredFlow flowId with
  | some _ => me.terminate alloc flowId reason
  | none => do
    let frame ← terminateFrame alloc flowId reason
    return me.after me.control me.endpoint frame

def refusal : Except FlowControlError FlowControlProgress → List FlowControlError
  | .error err => [err]
  | .ok _ => []

/-- `me` acts; `peer` changes only by what `me` received from it. -/
def act (me peer : FlowSide) : FlowAction → Checked (FlowSide × FlowSide)
  | .prepareOutboundOpen alloc request size => do
    let (r, control) ← me.control.prepareOutboundOpen alloc me.endpoint request size
    match r with
    | .error _ => return (me.after control me.endpoint none, peer)
    | .ok prepared => return ({ me.after control me.endpoint (some prepared.frame) with
        opened := me.opened ++
          [⟨prepared.flow.flowId, prepared.flow.mode, prepared.flow.maxMessageBytes⟩] }, peer)
  | .acceptInbound alloc request admission => do
    let (r, control, endpoint) ← me.control.acceptInbound alloc me.endpoint request admission
    return (me.after control endpoint (FlowControl.decision r), peer)
  | .rejectInbound alloc request reason => do
    let (r, control, endpoint) ← me.control.rejectInbound alloc me.endpoint request reason
    return (me.after control endpoint (FlowControl.decision r), peer)
  | .receive alloc => match peer.sent with
    | [] => return (me.after me.control me.endpoint none, peer)
    | frame :: rest => do
      let (r, control, endpoint) ← me.control.receive alloc me.endpoint frame
      return ({ me.after control endpoint (FlowControl.answer r) with
        refused := me.refused ++ refusal r }, { peer with sent := rest })
  | .terminateLocal alloc flowId reason => do
    let me ← me.terminate alloc flowId reason
    return (me, peer)
  | .reportOnly alloc flowId reason => do
    let me ← me.report alloc flowId reason
    return (me, peer)
  | .associateOutbound flowId =>
    let (_, registry) := me.control.registry.associateOutbound flowId
    .ok (me.after { me.control with registry := registry } me.endpoint none, peer)
  | .associateInbound flowId =>
    let (_, registry) := me.control.registry.associateInbound flowId
    .ok (me.after { me.control with registry := registry } me.endpoint none, peer)
  | .release flowId =>
    let registry := me.control.registry.release flowId
    .ok (me.after { me.control with registry := registry } me.endpoint none, peer)
  | .endpoint op => do
    let (_, endpoint) ← me.endpoint.exec op
    return (me.after me.control endpoint none, peer)

/-- An open is received only when none is to be decided. -/
def Decided (me peer : FlowSide) : FlowAction → Prop
  | .receive _ => peer.sent.head?.map ControlFrame.frameType = some .openFlow →
      me.control.pendingInbound = none
  | _ => True

instance (me peer : FlowSide) (action : FlowAction) : Decidable (Decided me peer action) :=
  match action with
  | .receive _ => inferInstanceAs (Decidable (_ → _))
  | .prepareOutboundOpen .. | .acceptInbound .. | .rejectInbound .. | .terminateLocal ..
  | .reportOnly .. | .associateOutbound .. | .associateInbound .. | .release ..
  | .endpoint .. => .isTrue trivial

/-- The messages the other side has not received yet. -/
def inFlight (x : FlowSide) : List FlowMessage := x.sent.filterMap messageOf

/-- Every frame on the way is well formed. -/
def Formed (x : FlowSide) : Prop := ∀ frame ∈ x.sent, (messageOf frame).isSome

/-! ### An action as a move -/

/-- `me` made a move and took the message of the move from `peer`. -/
structure Moves (me peer me' peer' : FlowSide) (message sent : Option FlowMessage) : Prop where
  move : me.control.Move message me'.control sent
  taken : peer.inFlight = message.toList ++ peer'.inFlight
  put : me'.inFlight = me.inFlight ++ sent.toList
  opened : me'.opened = me.opened ++ (sent.bind FlowMessage.openOf).toList
  registered : me'.registered = me.registered ++ me'.control.registry.flows.keys
  peer : peer'.control = peer.control ∧ peer'.opened = peer.opened ∧
    peer'.registered = peer.registered
  formed : me'.Formed ∧ peer'.Formed

variable {me me' peer peer' : FlowSide}

theorem inFlight_after (control : FlowControl) (endpoint : DeliveryEndpoint)
    {frame : Option ControlFrame} {sent : Option FlowMessage}
    (hc : FlowControl.Carries frame sent) :
    (me.after control endpoint frame).inFlight = me.inFlight ++ sent.toList := by
  obtain ⟨hsent, -⟩ := hc
  subst hsent
  cases frame with
  | none => simp [inFlight, after]
  | some frame => cases hm : messageOf frame <;> simp [inFlight, after, hm]

theorem formed_after (control : FlowControl) (endpoint : DeliveryEndpoint)
    {frame : Option ControlFrame} {sent : Option FlowMessage} (hme : me.Formed)
    (hc : FlowControl.Carries frame sent) : (me.after control endpoint frame).Formed := by
  intro x hx
  simp only [after, List.mem_append, Option.mem_toList] at hx
  rcases hx with hx | hx
  · exact hme x hx
  · obtain ⟨hsent, hnone⟩ := hc
    cases hx
    rw [Option.bind_some] at hsent
    rw [hsent]
    cases sent with
    | none => cases hnone rfl
    | some m => rfl

/-- A move by which nothing is received and nothing opened. -/
theorem Moves.alone {control : FlowControl} {endpoint : DeliveryEndpoint}
    {frame : Option ControlFrame} {sent : Option FlowMessage} (hme : me.Formed)
    (hpeer : peer.Formed) (hc : FlowControl.Carries frame sent)
    (hm : me.control.Move none control sent) (ho : sent.bind FlowMessage.openOf = none) :
    Moves me peer (me.after control endpoint frame) peer none sent where
  move := hm
  taken := rfl
  put := inFlight_after _ _ hc
  opened := by
    rw [ho]
    exact (List.append_nil _).symm
  registered := rfl
  peer := ⟨rfl, rfl, rfl⟩
  formed := ⟨formed_after _ _ hme hc, hpeer⟩

theorem terminate_moves {alloc : Allocator} {flowId : FlowId} {reason : FlowTerminateReason}
    (hme : me.Formed) (hpeer : peer.Formed) (h : me.terminate alloc flowId reason = .ok me') :
    ∃ sent, Moves me peer me' peer none sent := by
  simp only [terminate, Checked.bind_eq_ok, Checked.pure_eq, Except.ok.injEq] at h
  obtain ⟨⟨r, control, endpoint⟩, hterm, rfl⟩ := h
  rcases FlowControl.terminateLocal_effect hterm with
    ⟨⟨err, rfl⟩, rfl⟩ | ⟨ended, flow, rfl, -, -, -, -, hframe, rfl⟩
  · exact ⟨none, .alone hme hpeer FlowControl.carries_none (.idle nofun) rfl⟩
  · exact ⟨_, .alone hme hpeer (FlowControl.carries_some hframe) (.ends (.inr ⟨reason, rfl⟩)) rfl⟩

theorem report_moves {alloc : Allocator} {flowId : FlowId} {reason : FlowTerminateReason}
    (hme : me.Formed) (hpeer : peer.Formed) (h : me.report alloc flowId reason = .ok me') :
    ∃ sent, Moves me peer me' peer none sent := by
  unfold report at h
  split at h
  · exact terminate_moves hme hpeer h
  · simp only [Checked.bind_eq_ok, Checked.pure_eq, Except.ok.injEq] at h
    obtain ⟨frame, hframe, rfl⟩ := h
    cases frame with
    | none => exact ⟨none, .alone hme hpeer FlowControl.carries_none (.idle nofun) rfl⟩
    | some frame =>
      exact ⟨_, .alone hme hpeer (FlowControl.carries_some (messageOf_terminateFrame hframe))
        .reports rfl⟩

theorem associate_moves {r : Except RegistryError RegisteredFlow} {registry : AcceptedFlowRegistry}
    {flowId : FlowId} {direction : FlowDirection} {target : ReliableAssociationState}
    (h : me.control.registry.associate flowId direction target = (r, registry)) :
    me.control.Move none { me.control with registry := registry } none := by
  rcases AcceptedFlowRegistry.associate_cases h with rfl | ⟨flow, hflow, rfl⟩
  · exact .idle nofun
  · exact .associates hflow rfl rfl rfl

theorem receive_moves {alloc : Allocator} {frame : ControlFrame} {rest : List ControlFrame}
    {r : Except FlowControlError FlowControlProgress} {control : FlowControl}
    {endpoint : DeliveryEndpoint} (hme : me.Formed) (hpeer : peer.Formed)
    (hsent : peer.sent = frame :: rest) (hout : me.control.PendingOutbound)
    (hdecided : frame.frameType = .openFlow → me.control.pendingInbound = none)
    (h : me.control.receive alloc me.endpoint frame = .ok (r, control, endpoint)) :
    ∃ message sent, messageOf frame = some message ∧
      me.control.ReceiveEffect me.endpoint message r control endpoint ∧
      ∀ refused, Moves me peer { me.after control endpoint (FlowControl.answer r) with
        refused := refused } { peer with sent := rest } (some message) sent := by
  obtain ⟨message, hm⟩ := Option.isSome_iff_exists.mp
    (hpeer frame (hsent ▸ List.mem_cons_self))
  have heff := FlowControl.receive_effect hout hm hdecided h
  obtain ⟨sent, hc, hmove⟩ := heff.move
  refine ⟨message, sent, hm, heff, fun refused => ?_⟩
  exact {
    move := hmove
    taken := by simp [inFlight, hsent, hm]
    put := inFlight_after control endpoint hc
    opened := by
      rw [hmove.openOf_of_received]
      exact (List.append_nil _).symm
    registered := rfl
    peer := ⟨rfl, rfl, rfl⟩
    formed := ⟨formed_after control endpoint hme hc,
      fun x hx => hpeer x (hsent ▸ List.mem_cons_of_mem _ hx)⟩ }

/-- Every action is a move. -/
theorem act_moves {action : FlowAction} (hme : me.Formed) (hpeer : peer.Formed)
    (hout : me.control.PendingOutbound) (hdecided : Decided me peer action)
    (h : me.act peer action = .ok (me', peer')) :
    ∃ message sent, Moves me peer me' peer' message sent := by
  cases action with
  | prepareOutboundOpen alloc request size =>
    simp only [act, Checked.bind_eq_ok] at h
    obtain ⟨⟨r, control⟩, hopen, h⟩ := h
    rcases FlowControl.prepareOutboundOpen_effect hopen with
      ⟨⟨err, rfl⟩, rfl⟩ | ⟨prepared, flowId, rfl, ho⟩
    · cases h
      exact ⟨none, none, .alone hme hpeer FlowControl.carries_none (.idle nofun) rfl⟩
    · cases h
      have hc := FlowControl.carries_some ho.message
      refine ⟨none, _, {
        move := ho.state ▸ .opens ho.expected ho.fresh ho.identity.2
        taken := rfl
        put := inFlight_after control me.endpoint hc
        opened := ?_
        registered := rfl
        peer := ⟨rfl, rfl, rfl⟩
        formed := ⟨formed_after control me.endpoint hme hc, hpeer⟩ }⟩
      rw [ho.flow]
      rfl
  | acceptInbound alloc request admission =>
    simp only [act, Checked.bind_eq_ok, Checked.pure_eq, Except.ok.injEq] at h
    obtain ⟨⟨r, control, endpoint⟩, haccept, h⟩ := h
    cases h
    obtain ⟨sent, hc, hmove, ho, -⟩ := FlowControl.acceptInbound_effect haccept
    exact ⟨none, sent, .alone hme hpeer hc hmove ho⟩
  | rejectInbound alloc request reason =>
    simp only [act, Checked.bind_eq_ok, Checked.pure_eq, Except.ok.injEq] at h
    obtain ⟨⟨r, control, endpoint⟩, hreject, h⟩ := h
    cases h
    obtain ⟨sent, hc, hmove, ho, -⟩ := FlowControl.rejectInbound_effect hreject
    exact ⟨none, sent, .alone hme hpeer hc hmove ho⟩
  | receive alloc =>
    simp only [act] at h
    split at h
    · cases h
      exact ⟨none, none, .alone hme hpeer FlowControl.carries_none (.idle nofun) rfl⟩
    · rename_i frame rest hsent
      simp only [Checked.bind_eq_ok, Checked.pure_eq, Except.ok.injEq] at h
      obtain ⟨⟨r, control, endpoint⟩, hreceive, h⟩ := h
      cases h
      obtain ⟨message, sent, -, -, hmoves⟩ := receive_moves hme hpeer hsent hout
        (fun htype => hdecided (by rw [hsent, ← htype]; rfl)) hreceive
      exact ⟨some message, sent, hmoves _⟩
  | terminateLocal alloc flowId reason =>
    simp only [act, Checked.bind_eq_ok, Checked.pure_eq, Except.ok.injEq] at h
    obtain ⟨me₁, hterm, h⟩ := h
    cases h
    obtain ⟨sent, hmoves⟩ := terminate_moves hme hpeer hterm
    exact ⟨none, sent, hmoves⟩
  | reportOnly alloc flowId reason =>
    simp only [act, Checked.bind_eq_ok, Checked.pure_eq, Except.ok.injEq] at h
    obtain ⟨me₁, hreport, h⟩ := h
    cases h
    obtain ⟨sent, hmoves⟩ := report_moves hme hpeer hreport
    exact ⟨none, sent, hmoves⟩
  | associateOutbound flowId =>
    cases h
    exact ⟨none, none, .alone hme hpeer FlowControl.carries_none (associate_moves rfl) rfl⟩
  | associateInbound flowId =>
    cases h
    exact ⟨none, none, .alone hme hpeer FlowControl.carries_none (associate_moves rfl) rfl⟩
  | release flowId =>
    cases h
    exact ⟨none, none, .alone hme hpeer FlowControl.carries_none (.ends (.inl rfl)) rfl⟩
  | endpoint op =>
    simp only [act, Checked.bind_eq_ok, Checked.pure_eq, Except.ok.injEq] at h
    obtain ⟨⟨reply, endpoint⟩, -, h⟩ := h
    cases h
    exact ⟨none, none, .alone hme hpeer FlowControl.carries_none (.idle nofun) rfl⟩

theorem terminate_refused {alloc : Allocator} {flowId : FlowId} {reason : FlowTerminateReason}
    (h : me.terminate alloc flowId reason = .ok me') : me'.refused = me.refused := by
  simp only [terminate, Checked.bind_eq_ok, Checked.pure_eq, Except.ok.injEq] at h
  obtain ⟨_, -, rfl⟩ := h
  rfl

theorem report_refused {alloc : Allocator} {flowId : FlowId} {reason : FlowTerminateReason}
    (h : me.report alloc flowId reason = .ok me') : me'.refused = me.refused := by
  unfold report at h
  split at h
  · exact terminate_refused h
  · simp only [Checked.bind_eq_ok, Checked.pure_eq, Except.ok.injEq] at h
    obtain ⟨_, -, rfl⟩ := h
    rfl

/-- Only receiving refuses. -/
theorem act_refused {action : FlowAction} (h : me.act peer action = .ok (me', peer')) :
    peer'.refused = peer.refused ∧ (me'.refused = me.refused ∨
      ∃ alloc frame rest err control endpoint, action = .receive alloc ∧
        peer.sent = frame :: rest ∧
        me.control.receive alloc me.endpoint frame = .ok (.error err, control, endpoint) ∧
        me'.refused = me.refused ++ [err]) := by
  cases action with
  | receive alloc =>
    simp only [act] at h
    split at h
    · cases h
      exact ⟨rfl, .inl rfl⟩
    · rename_i frame rest hsent
      simp only [Checked.bind_eq_ok, Checked.pure_eq, Except.ok.injEq] at h
      obtain ⟨⟨r, control, endpoint⟩, hreceive, h⟩ := h
      cases h
      cases r with
      | ok progress => exact ⟨rfl, .inl (List.append_nil _)⟩
      | error err =>
        exact ⟨rfl, .inr ⟨alloc, frame, rest, err, control, endpoint, rfl, hsent, hreceive, rfl⟩⟩
  | prepareOutboundOpen alloc request size =>
    simp only [act, Checked.bind_eq_ok] at h
    obtain ⟨⟨r, control⟩, -, h⟩ := h
    cases r <;> cases h <;> exact ⟨rfl, .inl rfl⟩
  | acceptInbound alloc request admission =>
    simp only [act, Checked.bind_eq_ok, Checked.pure_eq, Except.ok.injEq] at h
    obtain ⟨_, -, h⟩ := h
    cases h
    exact ⟨rfl, .inl rfl⟩
  | rejectInbound alloc request reason =>
    simp only [act, Checked.bind_eq_ok, Checked.pure_eq, Except.ok.injEq] at h
    obtain ⟨_, -, h⟩ := h
    cases h
    exact ⟨rfl, .inl rfl⟩
  | terminateLocal alloc flowId reason =>
    simp only [act, Checked.bind_eq_ok, Checked.pure_eq, Except.ok.injEq] at h
    obtain ⟨me₁, hterm, h⟩ := h
    cases h
    exact ⟨rfl, .inl (terminate_refused hterm)⟩
  | reportOnly alloc flowId reason =>
    simp only [act, Checked.bind_eq_ok, Checked.pure_eq, Except.ok.injEq] at h
    obtain ⟨me₁, hreport, h⟩ := h
    cases h
    exact ⟨rfl, .inl (report_refused hreport)⟩
  | endpoint op =>
    simp only [act, Checked.bind_eq_ok, Checked.pure_eq, Except.ok.injEq] at h
    obtain ⟨_, -, h⟩ := h
    cases h
    exact ⟨rfl, .inl rfl⟩
  | _ =>
    cases h
    exact ⟨rfl, .inl rfl⟩

end FlowSide

/-! ### Runs -/

structure FlowRun where
  client : FlowSide
  server : FlowSide

namespace FlowRun

def exec (r : FlowRun) (side : WireSide) (action : FlowAction) : Checked FlowRun :=
  match side with
  | .client => do
    let (client, server) ← r.client.act r.server action
    return ⟨client, server⟩
  | .server => do
    let (server, client) ← r.server.act r.client action
    return ⟨client, server⟩

/-- What one side may do, from its own state and the other side's. -/
abbrev Rule := FlowSide → FlowSide → FlowAction → Prop

/-- The rule holds of the side that acts. -/
def May (rule : Rule) (r : FlowRun) (side : WireSide) (action : FlowAction) : Prop :=
  match side with
  | .client => rule r.client r.server action
  | .server => rule r.server r.client action

/-- Either side acts by the rule. -/
def Step (rule : Rule) (r r' : FlowRun) : Prop :=
  ∃ side action, May rule r side action ∧ r.exec side action = .ok r'

instance (rule : Rule) [∀ me peer action, Decidable (rule me peer action)] (r : FlowRun)
    (side : WireSide) (action : FlowAction) : Decidable (May rule r side action) :=
  match side with
  | .client => inferInstanceAs (Decidable (rule _ _ _))
  | .server => inferInstanceAs (Decidable (rule _ _ _))

/-- The run of these actions, as long as the rule allows them. -/
def play (rule : Rule) [∀ me peer action, Decidable (rule me peer action)] (r : FlowRun) :
    List (WireSide × FlowAction) → Checked FlowRun
  | [] => .ok r
  | (side, action) :: rest => do
    Checked.assert (May rule r side action)
    let r' ← r.exec side action
    play rule r' rest

theorem play_reachable {rule : Rule} [∀ me peer action, Decidable (rule me peer action)]
    {init : FlowRun → Prop} {r r' : FlowRun} {actions : List (WireSide × FlowAction)}
    (hr : Reachable init (Step rule) r) (h : play rule r actions = .ok r') :
    Reachable init (Step rule) r' := by
  induction actions generalizing r with
  | nil =>
    cases h
    exact hr
  | cons a actions ih =>
    obtain ⟨side, action⟩ := a
    simp only [play, Checked.bind_eq_ok, Checked.assert_eq_ok, decide_eq_true_eq] at h
    obtain ⟨-, hmay, r₁, hexec, h⟩ := h
    exact ih (hr.next ⟨side, action, hmay, hexec⟩) h

/-- What is proved of each side's action is proved of a step. -/
theorem step_cases {rule : Rule} {r r' : FlowRun} (h : Step rule r r') :
    (∃ action, rule r.client r.server action ∧
      r.client.act r.server action = .ok (r'.client, r'.server)) ∨
    ∃ action, rule r.server r.client action ∧
      r.server.act r.client action = .ok (r'.server, r'.client) := by
  obtain ⟨side, action, hmay, hexec⟩ := h
  cases side with
  | client =>
    simp only [exec, Checked.bind_eq_ok, Checked.pure_eq, Except.ok.injEq] at hexec
    obtain ⟨_, hact, rfl⟩ := hexec
    exact .inl ⟨action, hmay, hact⟩
  | server =>
    simp only [exec, Checked.bind_eq_ok, Checked.pure_eq, Except.ok.injEq] at hexec
    obtain ⟨_, hact, rfl⟩ := hexec
    exact .inr ⟨action, hmay, hact⟩

/-- A side as its connection becomes ready for flows. -/
structure StartsSide (side : WireSide) (x : FlowSide) : Prop where
  control : ∃ connection localSettings peerSettings,
    FlowControl.new connection side localSettings peerSettings = .ok x.control
  empty : x.sent = [] ∧ x.opened = [] ∧ x.registered = [] ∧ x.refused = []

structure Starts (r : FlowRun) : Prop where
  client : StartsSide .client r.client
  server : StartsSide .server r.server

theorem StartsSide.new {side : WireSide} {x : FlowSide} (h : StartsSide side x) :
    x.control.localSide = side ∧ x.control.localFlowIds = .new side ∧
      x.control.peerFlowIds = .new side.opposite ∧ x.control.pendingOutbound = .empty ∧
      x.control.pendingInbound = none ∧ x.control.registry.localSide = side ∧
      x.control.registry.flows = .empty := by
  obtain ⟨⟨connection, localSettings, peerSettings, h⟩, -⟩ := h
  unfold FlowControl.new at h
  split at h
  · cases h
  · split at h
    · rw [← Except.ok.inj h]
      exact ⟨rfl, rfl, rfl, rfl, rfl, rfl, rfl⟩
    · cases h

/-! Both sides with the same small limits, and an open of the client. -/

def sampleSettings : Settings := ⟨.authority, 1024, 1024, 4, 64⟩

def sampleLimits : DeliveryScopeLimits :=
  ⟨.nearest 4, .nearest 8, .nearest 64⟩

def samplePolicy : FlowResourcePolicy :=
  ⟨.nearest 16, .nearest 4, .nearest 64,
    .rejectNew, .terminateReliable⟩

def sampleSide (side : WireSide) : FlowSide where
  control := {
    connection := ⟨1⟩
    localSide := side
    localSettings := sampleSettings
    peerSettings := sampleSettings
    localFlowIds := .new side
    peerFlowIds := .new side.opposite
    pendingOutbound := .empty
    pendingInbound := none
    registry := .new side (.nearest 8) }
  endpoint := .new sampleLimits
  sent := []
  opened := []
  registered := []
  refused := []

def sampleStart : FlowRun := ⟨sampleSide .client, sampleSide .server⟩

theorem sampleStart_starts : Starts sampleStart :=
  ⟨⟨⟨⟨1⟩, sampleSettings, sampleSettings, rfl⟩, rfl, rfl, rfl, rfl⟩,
    ⟨⟨⟨1⟩, sampleSettings, sampleSettings, rfl⟩, rfl, rfl, rfl, rfl⟩⟩

def sampleAlloc : Allocator := fun _ => true

def sampleFlowId : FlowId := ⟨0, by decide⟩

/-- The client opens a reliable flow and the server accepts it. -/
def sampleEstablish : List (WireSide × FlowAction) :=
  [(.client, .prepareOutboundOpen sampleAlloc ⟨⟨⟨1⟩, .outbound, ⟨9⟩⟩, .reliableOrdered, samplePolicy,
      .nearest 16, sampleLimits⟩ none),
    (.server, .receive sampleAlloc),
    (.server, .acceptInbound sampleAlloc ⟨sampleFlowId, .reliableOrdered, 16⟩
      ⟨⟨⟨1⟩, .inbound, ⟨9⟩⟩, samplePolicy, sampleLimits⟩),
    (.client, .receive sampleAlloc)]

end FlowRun

end RunenNet
