import RunenNet.Quic.FlowDriver
import RunenNet.Quic.FlowRun

/-!
# Crossing terminations

When both sides may end flows. A `FLOW_TERMINATE` is refused when it finds its flow unregistered,
so a run tolerates terminations as long as no side ends a flow whose end is already reported on
either channel, and none reports the end of a flow the other side does not have. A refused report
closes the connection.
-/

namespace RunenNet

open Foundation

namespace FlowSide

/-- A side that refused a frame takes no further step: its driver is terminal. -/
def Live (me peer : FlowSide) (action : FlowAction) : Prop :=
  Decided me peer action ∧ me.refused.isEmpty

instance (me peer : FlowSide) (action : FlowAction) : Decidable (Live me peer action) :=
  inferInstanceAs (Decidable (_ ∧ _))

def Registered (x : FlowSide) (f : FlowId) : Prop :=
  ∃ flow, x.control.registry.registeredFlow f = some flow

instance (x : FlowSide) (f : FlowId) : Decidable (Registered x f) :=
  decidable_of_iff _ Option.isSome_iff_exists

/-- The flows whose end is reported on the way. -/
def terminates (x : FlowSide) : List FlowId := x.inFlight.filterMap FlowMessage.terminateOf

/-! ### Actions that report an end -/

/-- The branches of `receive_accept` that end the accepted flow for want of resources. -/
def lacksResources (me : FlowSide) (alloc : Allocator) (f : FlowId)
    (pending : PendingOutboundFlow) : Bool :=
  match me.endpoint.establishFlow pending.key pending.mode pending.policy
    pending.connectionLimits with
  | .ok (.error (.activeFlowLimitExceeded _), _) => true
  | .ok (.ok (), endpoint) =>
    match (me.control.registry.registerConsumedAcceptedFlow endpoint f pending.key
      pending.stableMaxMessageBytes (alloc .registry)).1 with
    | .error .capacityExceeded | .error .allocationFailed => true
    | _ => false
  | _ => false

/-- A local termination of `f` gets past the checks of `terminate_local`. -/
def MayTerminate (me : FlowSide) (alloc : Allocator) (f : FlowId)
    (reason : FlowTerminateReason) : Prop :=
  ∃ flow ∈ me.control.registry.registeredFlow f,
    ¬ (flow.mode = .reliableOrdered ∧ reason = .normal) ∧
    alloc (.frame .flowTerminate) = true ∧ (me.endpoint.flows.get? flow.key).isSome

instance (me : FlowSide) (alloc : Allocator) (f : FlowId) (reason : FlowTerminateReason) :
    Decidable (MayTerminate me alloc f reason) :=
  inferInstanceAs (Decidable (∃ flow ∈ me.control.registry.registeredFlow f, _))

/-- The action takes a branch that reports the end of `f`. -/
def Reports (me peer : FlowSide) (f : FlowId) : FlowAction → Prop
  | .terminateLocal alloc g reason => g = f ∧ me.MayTerminate alloc f reason
  | .reportOnly alloc g reason => g = f ∧
      (me.MayTerminate alloc f reason ∨
        (¬ me.Registered f ∧ alloc (.frame .flowTerminate) = true))
  | .receive alloc => peer.inFlight.head? = some (.accept f) ∧
      ∃ pending ∈ me.control.pendingOutbound.get? f.value,
        me.lacksResources alloc f pending = true ∧ alloc (.frame .flowTerminate) = true
  | _ => False

instance (me peer : FlowSide) (f : FlowId) (action : FlowAction) :
    Decidable (Reports me peer f action) :=
  match action with
  | .terminateLocal .. | .reportOnly .. => inferInstanceAs (Decidable (_ ∧ _))
  | .receive alloc => inferInstanceAs (Decidable (_ ∧
      ∃ pending ∈ me.control.pendingOutbound.get? f.value,
        me.lacksResources alloc f pending = true ∧ alloc (.frame .flowTerminate) = true))
  | .prepareOutboundOpen .. | .acceptInbound .. | .rejectInbound .. | .associateOutbound ..
  | .associateInbound .. | .release .. | .endpoint .. => .isFalse id

/-- The other side has the flow, or will have it once it received what is on the way. -/
def Awaits (me peer : FlowSide) (f : FlowId) : Prop :=
  peer.Registered f ∨ .accept f ∈ me.inFlight

/-- No end crosses another: the end of a flow is reported only to a side that has it, and a flow
is ended, by a report or normally, only while no report of its end is on the way. -/
def Calm (me peer : FlowSide) (action : FlowAction) : Prop :=
  (∀ f, Reports me peer f action →
    Awaits me peer f ∧ f ∉ me.terminates ∧ f ∉ peer.terminates) ∧
  ∀ f, action.released = some f → f ∉ peer.terminates

/-- The flow whose end an action may report. -/
def target (peer : FlowSide) : FlowAction → Option FlowId
  | .terminateLocal _ f _ | .reportOnly _ f _ => some f
  | .receive _ => peer.inFlight.head?.bind FlowMessage.answerOf
  | _ => none

theorem target_of_reports {me peer : FlowSide} {f : FlowId} {action : FlowAction}
    (h : Reports me peer f action) : f ∈ target peer action := by
  cases action with
  | terminateLocal _ g _ => exact congrArg some h.1
  | reportOnly _ g _ => exact congrArg some h.1
  | receive alloc =>
    show peer.inFlight.head?.bind _ = some f
    rw [h.1]
    rfl
  | _ => exact h.elim

instance (me peer : FlowSide) (f : FlowId) : Decidable (Awaits me peer f) :=
  inferInstanceAs (Decidable (_ ∨ _))

instance (me peer : FlowSide) (action : FlowAction) : Decidable (Calm me peer action) :=
  decidable_of_iff
    ((∀ f ∈ target peer action, Reports me peer f action →
      Awaits me peer f ∧ f ∉ me.terminates ∧ f ∉ peer.terminates) ∧
      ∀ f ∈ action.released, f ∉ peer.terminates)
    (and_congr_left' ⟨fun h f hf => h f (target_of_reports hf) hf, fun h f _ hf => h f hf⟩)

variable {me me' peer peer' : FlowSide} {message sent : Option FlowMessage} {f : FlowId}

/-! ### What an action ends -/

theorem ownedFrame_alloc {alloc : Allocator} {type : ControlFrameType}
    {body : Checked (List UInt8)} {frame : ControlFrame}
    (h : ownedFrame alloc type body = .ok (some frame)) : alloc (.frame type) = true := by
  simp only [ownedFrame, Checked.bind_eq_ok, Checked.pure_eq, Except.ok.injEq] at h
  obtain ⟨_, -, h⟩ := h
  by_contra habs
  rw [if_neg habs] at h
  cases h

/-- A received accept registers its flow or reports its end. -/
theorem receiveAccept_progress {alloc : Allocator} {body : List UInt8} {accept : FlowAccept}
    {progress : FlowControlProgress} {control : FlowControl} {endpoint : DeliveryEndpoint}
    (hd : FlowAccept.decode body = .ok accept)
    (h : me.control.receiveAccept alloc me.endpoint body = .ok (.ok progress, control, endpoint)) :
    (FlowControl.answer (.ok progress) = none ∧
      ∃ flow, control.registry.registeredFlow accept.flowId = some flow) ∨
    ∃ pending frame, me.control.pendingOutbound.get? accept.flowId.value = some pending ∧
      me.lacksResources alloc accept.flowId pending = true ∧ alloc (.frame .flowTerminate) = true ∧
      FlowControl.answer (.ok progress) = some frame ∧
      messageOf frame = some (.terminate accept.flowId .resourceFailure) := by
  have hfails : ∀ {fc fc' : FlowControl} {e e' : DeliveryEndpoint} {key} {termination},
      fc.outboundResourceFailure alloc e accept.flowId key termination =
        .ok (.ok progress, fc', e') → alloc (.frame .flowTerminate) = true ∧
        ∃ frame, FlowControl.answer (.ok progress) = some frame ∧
        messageOf frame = some (.terminate accept.flowId .resourceFailure) := by
    intro fc fc' e e' key termination hfail
    obtain ⟨-, -, hr⟩ := FlowControl.outboundResourceFailure_ok hfail
    rcases hr with hr | ⟨frame, hr, hframe⟩
    · cases hr
    · cases hr
      simp only [FlowControl.outboundResourceFailure, Checked.bind_eq_ok] at hfail
      obtain ⟨answered, hanswered, hfail⟩ := hfail
      cases answered with
      | none => cases hfail
      | some _ => exact ⟨ownedFrame_alloc hanswered, frame, rfl, hframe⟩
  simp only [FlowControl.receiveAccept, hd] at h
  split at h
  · cases h
  · split at h
    · cases h
    · rename_i pending hp
      simp only [Checked.bind_eq_ok] at h
      obtain ⟨⟨res, e₁⟩, hest, h⟩ := h
      cases res with
      | error err =>
        cases err
        case activeFlowLimitExceeded =>
          obtain ⟨halloc, frame, hanswer, hframe⟩ := hfails h
          refine .inr ⟨pending, frame, hp, ?_, halloc, hanswer, hframe⟩
          simp only [lacksResources, hest]
        all_goals cases h
      | ok u =>
        simp only [FlowControl.activateOutbound] at h
        generalize hreg : me.control.registry.registerConsumedAcceptedFlow e₁ accept.flowId
          pending.key pending.stableMaxMessageBytes (alloc .registry) = registered at h
        obtain ⟨res, registry'⟩ := registered
        cases res with
        | ok u =>
          obtain ⟨flow, _, _, _, _, _, _, _, hstate⟩ := AcceptedFlowRegistry.register_ok hreg
          cases h
          exact .inl ⟨rfl, flow, by rw [hstate]; exact SortedMap.get?_insert_self _ _ _⟩
        | error err =>
          have hlacks : err = .capacityExceeded ∨ err = .allocationFailed →
              me.lacksResources alloc accept.flowId pending = true := by
            rintro (rfl | rfl) <;> simp only [lacksResources, hest, hreg]
          simp only [Checked.bind_eq_ok] at h
          obtain ⟨⟨res, e₂⟩, -, h⟩ := h
          cases res with
          | error err' => cases h
          | ok termination =>
            cases err
            case capacityExceeded =>
              obtain ⟨halloc, frame, hanswer, hframe⟩ := hfails h
              exact .inr ⟨pending, frame, hp, hlacks (.inl rfl), halloc, hanswer, hframe⟩
            case allocationFailed =>
              obtain ⟨halloc, frame, hanswer, hframe⟩ := hfails h
              exact .inr ⟨pending, frame, hp, hlacks (.inr rfl), halloc, hanswer, hframe⟩
            all_goals cases h

/-- What an action does to the flows it finds registered, and to the refusals. -/
structure Ends (me peer : FlowSide) (action : FlowAction) (me' : FlowSide)
    (message sent : Option FlowMessage) : Prop where
  reports : ∀ f reason, sent = some (.terminate f reason) → Reports me peer f action
  kept : ∀ f, me.Registered f →
    me'.Registered f ∨ (∃ reason, message = some (.terminate f reason)) ∨
      action.released = some f ∨ ∃ reason, sent = some (.terminate f reason)
  heeds : ∀ f, message = some (.accept f) → me'.refused = [] →
    me'.Registered f ∨ ∃ reason, sent = some (.terminate f reason)
  unknown : ∀ f, .unknownActiveFlow f ∈ me'.refused → .unknownActiveFlow f ∈ me.refused ∨
    ∃ reason, message = some (.terminate f reason) ∧ ¬ me.Registered f

theorem Moves.sent_eq (h : Moves me peer me' peer' message sent) {x : Option FlowMessage}
    (hx : me'.inFlight = me.inFlight ++ x.toList) : sent = x := by
  have heq := List.append_cancel_left (h.put.symm.trans hx)
  cases sent <;> cases x <;> simp_all

theorem Moves.message_eq (h : Moves me peer me' peer message sent) : message = none := by
  have hlen := congrArg List.length h.taken
  rw [List.length_append] at hlen
  cases message with
  | none => rfl
  | some m =>
    rw [Option.toList_some, List.length_singleton] at hlen
    omega

theorem released_kept {r : AcceptedFlowRegistry} {g f : FlowId} {flow : RegisteredFlow}
    (hf : r.registeredFlow f = some flow) (hne : g ≠ f) :
    (r.release g).registeredFlow f = some flow := by
  simp only [AcceptedFlowRegistry.release, AcceptedFlowRegistry.registeredFlow]
  rw [SortedMap.get?_erase_ne _ fun heq => hne (FlowId.ext_value heq).symm]
  exact hf

/-- An action that receives nothing, refuses nothing and ends nothing. -/
theorem Ends.of_kept {action : FlowAction} (hm : Moves me peer me' peer message sent)
    (hsent : sent.bind FlowMessage.terminateOf = none) (hrefused : me'.refused = me.refused)
    (hkept : ∀ f, me.Registered f → me'.Registered f) : Ends me peer action me' message sent := by
  cases hm.message_eq
  exact {
    reports := fun f reason hs => by
      subst hs
      cases hsent
    kept := fun f hf => .inl (hkept f hf)
    heeds := nofun
    unknown := fun f hf => .inl (hrefused ▸ hf) }

theorem terminate_ends {alloc : Allocator} {g : FlowId} {reason : FlowTerminateReason}
    {action : FlowAction} (hm : Moves me peer me' peer message sent)
    (hreports : ∀ f, g = f → me.MayTerminate alloc f reason → Reports me peer f action)
    (h : me.terminate alloc g reason = .ok me') : Ends me peer action me' message sent := by
  have hrefused := terminate_refused h
  simp only [terminate, Checked.bind_eq_ok, Checked.pure_eq, Except.ok.injEq] at h
  obtain ⟨⟨r, control, endpoint⟩, hterm, rfl⟩ := h
  rcases FlowControl.terminateLocal_effect hterm with
    ⟨⟨err, rfl⟩, rfl⟩ | ⟨ended, flow, rfl, hflow, hnormal, halloc, hcore, hframe, rfl⟩
  · refine .of_kept hm ?_ hrefused fun f hf => hf
    rw [hm.sent_eq (inFlight_after _ _ FlowControl.carries_none)]
    rfl
  · have hsent := hm.sent_eq (inFlight_after _ _ (FlowControl.carries_some hframe))
    cases hm.message_eq
    subst hsent
    exact {
      reports := fun f reason' hs => by
        cases hs
        exact hreports g rfl ⟨flow, hflow, hnormal, halloc, hcore⟩
      kept := fun f hreg => by
        obtain ⟨old, hf⟩ := hreg
        by_cases heq : g = f
        · exact .inr (.inr (.inr ⟨reason, by rw [heq]⟩))
        · exact .inl ⟨old, released_kept hf heq⟩
      heeds := fun f hf => by cases hf
      unknown := fun f hf => .inl (hrefused ▸ hf) }

theorem report_ends {alloc : Allocator} {g : FlowId} {reason : FlowTerminateReason}
    (hm : Moves me peer me' peer message sent) (h : me.report alloc g reason = .ok me') :
    Ends me peer (.reportOnly alloc g reason) me' message sent := by
  have hrefused := report_refused h
  unfold report at h
  split at h
  · exact terminate_ends hm (fun f hf hmay => ⟨hf, .inl hmay⟩) h
  · rename_i hnone
    simp only [Checked.bind_eq_ok, Checked.pure_eq, Except.ok.injEq] at h
    obtain ⟨frame, hframe, rfl⟩ := h
    cases frame with
    | none =>
      refine .of_kept hm ?_ hrefused fun f hf => hf
      rw [hm.sent_eq (inFlight_after _ _ FlowControl.carries_none)]
      rfl
    | some frame =>
      have hsent := hm.sent_eq
        (inFlight_after _ _ (FlowControl.carries_some (messageOf_terminateFrame hframe)))
      cases hm.message_eq
      subst hsent
      exact {
        reports := fun f reason' hs => by
          cases hs
          refine ⟨rfl, .inr ⟨?_, ownedFrame_alloc hframe⟩⟩
          rintro ⟨flow, hflow⟩
          rw [hnone] at hflow
          cases hflow
        kept := fun f hf => .inl hf
        heeds := nofun
        unknown := fun f hf => .inl (hrefused ▸ hf) }

theorem receive_ends {alloc : Allocator} {frame : ControlFrame} {rest : List ControlFrame}
    {r : Except FlowControlError FlowControlProgress} {control : FlowControl}
    {endpoint : DeliveryEndpoint} {m : FlowMessage} (hm : messageOf frame = some m)
    (hsent : peer.sent = frame :: rest)
    (hreceive : me.control.receive alloc me.endpoint frame = .ok (r, control, endpoint))
    (heff : me.control.ReceiveEffect me.endpoint m r control endpoint)
    (hcontrol : me'.control = control)
    (hrefused : me'.refused = me.refused ++ refusal r)
    (hc : FlowControl.Carries (FlowControl.answer r) sent)
    (hmove : me.control.Move (some m) control sent) :
    Ends me peer (.receive alloc) me' (some m) sent := by
  -- an accept that is not refused takes one of the two branches of its progress
  have haccept : ∀ f progress, m = .accept f → r = .ok progress →
      (sent = none ∧ me'.Registered f) ∨
      ∃ pending, sent = some (.terminate f .resourceFailure) ∧
        me.control.pendingOutbound.get? f.value = some pending ∧
        me.lacksResources alloc f pending = true ∧ alloc (.frame .flowTerminate) = true := by
    rintro f progress rfl rfl
    unfold messageOf at hm
    split at hm
    · obtain ⟨_, -, hm⟩ := Option.map_eq_some_iff.mp hm
      cases hm
    · rename_i htype
      obtain ⟨accept, hd, hm⟩ := Option.map_eq_some_iff.mp hm
      cases hm
      simp only [FlowControl.receive, htype] at hreceive
      rcases receiveAccept_progress (ok_of_toOption hd) hreceive with
        ⟨hanswer, flow, hflow⟩ | ⟨pending, answered, hp, hlacks, halloc, hanswer, hframe⟩
      · exact .inl ⟨by rw [← hc.1, hanswer]; rfl, flow, by rw [hcontrol]; exact hflow⟩
      · refine .inr ⟨pending, ?_, hp, hlacks, halloc⟩
        rw [← hc.1, hanswer]
        exact hframe
    · obtain ⟨_, -, hm⟩ := Option.map_eq_some_iff.mp hm
      cases hm
    · obtain ⟨_, -, hm⟩ := Option.map_eq_some_iff.mp hm
      cases hm
    · cases hm
  refine ⟨fun f reason hs => ?_, fun f ⟨flow, hf⟩ => ?_, fun f hf hnone => ?_, fun f hf => ?_⟩
  · subst hs
    cases hmove.accept_of_terminate
    have hfront : peer.inFlight.head? = some (.accept f) := by
      rw [inFlight, hsent, List.filterMap_cons, hm]
      rfl
    cases r with
    | error err =>
      have hnone := hc.1
      cases hnone
    | ok progress =>
      rcases haccept f progress rfl rfl with ⟨habs, -⟩ | ⟨pending, -, hp, hlacks, halloc⟩
      · cases habs
      · exact ⟨hfront, pending, hp, hlacks, halloc⟩
  · rcases hmove.registered_kept hf with hkept | ⟨reason, rfl⟩
    · exact .inl ⟨flow, by rw [hcontrol]; exact hkept⟩
    · exact .inr (.inl ⟨reason, rfl⟩)
  · cases r with
    | error err =>
      rw [hrefused, refusal] at hnone
      simp at hnone
    | ok progress =>
      rcases haccept f progress (Option.some.inj hf) rfl with ⟨-, h⟩ | ⟨_, h, -⟩
      · exact .inl h
      · exact .inr ⟨_, h⟩
  · rw [hrefused, List.mem_append] at hf
    rcases hf with hold | hnew
    · exact .inl hold
    · cases r with
      | ok progress => cases hnew
      | error err =>
        cases List.mem_singleton.mp hnew
        obtain ⟨⟨reason, rfl⟩, hnone⟩ := heff.unknown f rfl
        refine .inr ⟨reason, rfl, ?_⟩
        rintro ⟨flow, hflow⟩
        rw [hnone] at hflow
        cases hflow

/-- Associating a stream changes neither which flows are registered nor what is on the way. -/
theorem associate_ends {r : Except RegistryError RegisteredFlow} {registry : AcceptedFlowRegistry}
    {flowId : FlowId} {direction : FlowDirection} {target : ReliableAssociationState}
    {action : FlowAction} (hme : me.Formed) (hpeer : peer.Formed)
    (h : me.control.registry.associate flowId direction target = (r, registry)) :
    ∃ message sent,
      Moves me peer (me.after { me.control with registry := registry } me.endpoint none) peer
        message sent ∧
      Ends me peer action (me.after { me.control with registry := registry } me.endpoint none)
        message sent := by
  have hm : Moves me peer (me.after { me.control with registry := registry } me.endpoint none)
      peer none none := .alone hme hpeer FlowControl.carries_none (associate_moves h) rfl
  refine ⟨none, none, hm, .of_kept hm rfl rfl fun f ⟨flow, hf⟩ => ?_⟩
  rcases AcceptedFlowRegistry.associate_cases h with rfl | ⟨old, -, rfl⟩
  · exact ⟨flow, hf⟩
  · simp only [Registered, after, AcceptedFlowRegistry.registeredFlow, SortedMap.get?_insert]
    split
    · exact ⟨_, rfl⟩
    · exact ⟨flow, hf⟩

theorem act_ends {action : FlowAction} (hme : me.Formed) (hpeer : peer.Formed)
    (hout : me.control.PendingOutbound) (hdecided : Decided me peer action)
    (h : me.act peer action = .ok (me', peer')) :
    ∃ message sent, Moves me peer me' peer' message sent ∧ Ends me peer action me' message sent := by
  cases action with
  | receive alloc =>
    simp only [act] at h
    split at h
    · cases h
      have hmoves : Moves me peer (me.after me.control me.endpoint none) peer none none :=
        .alone hme hpeer FlowControl.carries_none (.idle fun o ho => by cases ho) rfl
      exact ⟨none, none, hmoves, .of_kept hmoves rfl rfl fun f hf => hf⟩
    · rename_i frame rest hsent
      simp only [Checked.bind_eq_ok, Checked.pure_eq, Except.ok.injEq] at h
      obtain ⟨⟨r, control, endpoint⟩, hreceive, h⟩ := h
      cases h
      obtain ⟨m, sent, hm, heff, hmoves⟩ := receive_moves hme hpeer hsent hout
        (fun htype => hdecided (by rw [hsent, ← htype]; rfl)) hreceive
      obtain ⟨sent', hc, hmove⟩ := heff.move
      have heq := (hmoves []).sent_eq (inFlight_after control endpoint hc)
      subst heq
      exact ⟨some m, sent, hmoves _, receive_ends hm hsent hreceive heff rfl rfl hc hmove⟩
  | prepareOutboundOpen alloc request size =>
    obtain ⟨message, sent, hm⟩ := act_moves hme hpeer hout hdecided h
    simp only [act, Checked.bind_eq_ok] at h
    obtain ⟨⟨r, control⟩, hopen, h⟩ := h
    rcases FlowControl.prepareOutboundOpen_effect hopen with
      ⟨⟨err, rfl⟩, rfl⟩ | ⟨prepared, flowId, rfl, ho⟩
    · cases h
      refine ⟨message, sent, hm, .of_kept hm ?_ rfl fun f hf => hf⟩
      rw [hm.sent_eq (inFlight_after _ _ FlowControl.carries_none)]
      rfl
    · cases h
      refine ⟨message, sent, hm, .of_kept hm ?_ rfl ?_⟩
      · rw [hm.sent_eq (inFlight_after control me.endpoint (FlowControl.carries_some ho.message))]
        rfl
      · rintro f ⟨flow, hflow⟩
        exact ⟨flow, by rw [← hflow]; exact congrArg (·.registry.registeredFlow f) ho.state⟩
  | acceptInbound alloc request admission =>
    obtain ⟨message, sent, hm⟩ := act_moves hme hpeer hout hdecided h
    simp only [act, Checked.bind_eq_ok, Checked.pure_eq, Except.ok.injEq] at h
    obtain ⟨⟨r, control, endpoint⟩, haccept, h⟩ := h
    cases h
    obtain ⟨sent', hc, -, -, hnone, hkept⟩ := FlowControl.acceptInbound_effect haccept
    cases hm.sent_eq (inFlight_after control endpoint hc)
    exact ⟨message, sent, hm, .of_kept hm hnone rfl fun f hreg => hreg.imp (hkept f)⟩
  | rejectInbound alloc request reason =>
    obtain ⟨message, sent, hm⟩ := act_moves hme hpeer hout hdecided h
    simp only [act, Checked.bind_eq_ok, Checked.pure_eq, Except.ok.injEq] at h
    obtain ⟨⟨r, control, endpoint⟩, hreject, h⟩ := h
    cases h
    obtain ⟨sent', hc, -, -, hnone, hkept⟩ := FlowControl.rejectInbound_effect hreject
    cases hm.sent_eq (inFlight_after control endpoint hc)
    exact ⟨message, sent, hm, .of_kept hm hnone rfl fun f hreg => hreg.imp (hkept f)⟩
  | terminateLocal alloc flowId reason =>
    obtain ⟨message, sent, hm⟩ := act_moves hme hpeer hout hdecided h
    simp only [act, Checked.bind_eq_ok, Checked.pure_eq, Except.ok.injEq] at h
    obtain ⟨me₁, hterm, h⟩ := h
    cases h
    exact ⟨message, sent, hm, terminate_ends hm (fun f hf hmay => ⟨hf, hmay⟩) hterm⟩
  | reportOnly alloc flowId reason =>
    obtain ⟨message, sent, hm⟩ := act_moves hme hpeer hout hdecided h
    simp only [act, Checked.bind_eq_ok, Checked.pure_eq, Except.ok.injEq] at h
    obtain ⟨me₁, hreport, h⟩ := h
    cases h
    exact ⟨message, sent, hm, report_ends hm hreport⟩
  | associateOutbound flowId =>
    cases h
    exact associate_ends hme hpeer rfl
  | associateInbound flowId =>
    cases h
    exact associate_ends hme hpeer rfl
  | release g =>
    obtain ⟨message, sent, hm⟩ := act_moves hme hpeer hout hdecided h
    cases h
    cases hm.sent_eq (inFlight_after _ _ FlowControl.carries_none)
    cases hm.message_eq
    refine ⟨none, none, hm, (fun f reason hs => by cases hs), fun f hreg => ?_,
      (fun f hf => by cases hf), fun f hf => .inl hf⟩
    obtain ⟨flow, hf⟩ := hreg
    by_cases heq : g = f
    · exact .inr (.inr (.inl (congrArg some heq)))
    · exact .inl ⟨flow, released_kept hf heq⟩
  | endpoint op =>
    obtain ⟨message, sent, hm⟩ := act_moves hme hpeer hout hdecided h
    simp only [act, Checked.bind_eq_ok, Checked.pure_eq, Except.ok.injEq] at h
    obtain ⟨⟨reply, endpoint⟩, -, h⟩ := h
    cases h
    refine ⟨message, sent, hm, .of_kept hm ?_ rfl fun f hf => hf⟩
    rw [hm.sent_eq (inFlight_after _ _ FlowControl.carries_none)]
    rfl

/-! ### Reports on the way -/

/-- Each flow whose end is reported is held, or an accept of it comes before the report. -/
def Awaited (held : FlowId → Prop) : List FlowMessage → Prop
  | [] => True
  | m :: ms => (∀ f, m.terminateOf = some f → held f) ∧ Awaited (fun f => held f ∨ m = .accept f) ms

theorem Awaited.mono {held held' : FlowId → Prop} {ms : List FlowMessage} (h : Awaited held ms)
    (hheld : ∀ f ∈ ms.filterMap FlowMessage.terminateOf, held f → held' f) : Awaited held' ms := by
  induction ms generalizing held held' with
  | nil => trivial
  | cons m ms ih =>
    refine ⟨fun f hf => ?_, ih h.2 fun f hf => Or.imp_left (hheld f ?_)⟩
    · exact hheld f (List.mem_filterMap.mpr ⟨m, List.mem_cons_self, hf⟩) (h.1 f hf)
    · obtain ⟨m', hm', hf⟩ := List.mem_filterMap.mp hf
      exact List.mem_filterMap.mpr ⟨m', List.mem_cons_of_mem _ hm', hf⟩

theorem Awaited.snoc {held : FlowId → Prop} {ms : List FlowMessage} {m : FlowMessage}
    (h : Awaited held ms) (hm : ∀ f, m.terminateOf = some f → held f ∨ .accept f ∈ ms) :
    Awaited held (ms ++ [m]) := by
  induction ms generalizing held with
  | nil =>
    refine ⟨fun f hf => ?_, trivial⟩
    exact (hm f hf).resolve_right List.not_mem_nil
  | cons m' ms ih =>
    refine ⟨h.1, ih h.2 fun f hf => ?_⟩
    rcases hm f hf with hheld | hmem
    · exact .inl (.inl hheld)
    · rcases List.mem_cons.mp hmem with heq | hmem
      · exact .inl (.inr heq.symm)
      · exact .inr hmem

/-- The ends that `a` reports find their flows at `b`. -/
structure Tolerates (a b : FlowSide) : Prop where
  once : a.terminates.Nodup
  awaited : Awaited b.Registered a.inFlight

theorem terminates_taken (h : Moves me peer me' peer' message sent) :
    peer.terminates = (message.bind FlowMessage.terminateOf).toList ++ peer'.terminates := by
  rw [terminates, h.taken]
  cases message with
  | none => rfl
  | some m => cases hm : m.terminateOf <;> simp [hm, terminates]

/-- What is on the way to the side that acts. -/
theorem Tolerates.receiver {action : FlowAction} (ht : Tolerates peer me)
    (hm : Moves me peer me' peer' message sent) (he : Ends me peer action me' message sent)
    (hcalm : Calm me peer action) (hnone : me'.refused = []) : Tolerates peer' me' := by
  have htaken := terminates_taken hm
  have hsub : ∀ f ∈ peer'.terminates, f ∈ peer.terminates := fun f hf => by
    rw [htaken]
    exact List.mem_append_right _ hf
  have honce := ht.once
  rw [htaken, List.nodup_append] at honce
  obtain ⟨-, hnodup, hne⟩ := honce
  -- a flow whose end is still on the way is not ended by this action
  have hstays : ∀ f ∈ peer'.terminates, me.Registered f ∨ message = some (.accept f) →
      me'.Registered f := by
    have hreported : ∀ f ∈ peer'.terminates, ¬ ∃ reason, sent = some (.terminate f reason) :=
      fun f hf ⟨reason, hs⟩ => (hcalm.1 f (he.reports f reason hs)).2.2 (hsub f hf)
    rintro f hf (hreg | haccept)
    · rcases he.kept f hreg with h | ⟨reason, h⟩ | h | h
      · exact h
      · subst h
        exact absurd rfl (hne f List.mem_cons_self f hf)
      · exact absurd (hsub f hf) (hcalm.2 f h)
      · exact absurd h (hreported f hf)
    · exact (he.heeds f haccept hnone).resolve_right (hreported f hf)
  refine ⟨hnodup, ?_⟩
  have hawaited := ht.awaited
  rw [hm.taken] at hawaited
  cases message with
  | none => exact hawaited.mono fun f hf hreg => hstays f hf (.inl hreg)
  | some m =>
    refine hawaited.2.mono fun f hf hreg => hstays f hf ?_
    exact hreg.imp_right fun h => congrArg some h

/-- What the side that acts sends. -/
theorem Tolerates.sender {action : FlowAction} (ht : Tolerates me peer)
    (hm : Moves me peer me' peer' message sent) (he : Ends me peer action me' message sent)
    (hcalm : Calm me peer action) : Tolerates me' peer' := by
  have hreg : peer'.Registered = peer.Registered := by
    funext f
    simp only [Registered, hm.peer.1]
  cases sent with
  | none =>
    have hput : me'.inFlight = me.inFlight := by rw [hm.put, Option.toList_none, List.append_nil]
    exact ⟨by rw [terminates, hput]; exact ht.once, by rw [hreg, hput]; exact ht.awaited⟩
  | some m =>
    have hput : me'.inFlight = me.inFlight ++ [m] := hm.put
    have hends : ∀ f, m.terminateOf = some f → Awaits me peer f ∧ f ∉ me.terminates := by
      intro f hf
      cases m with
      | terminate g reason =>
        cases hf
        obtain ⟨hawaits, hfresh, -⟩ := hcalm.1 f (he.reports f reason rfl)
        exact ⟨hawaits, hfresh⟩
      | _ => cases hf
    refine ⟨?_, ?_⟩
    · rw [terminates, hput, List.filterMap_append, List.nodup_append]
      refine ⟨ht.once, ?_, fun f hf g hg => ?_⟩
      · cases hm : m.terminateOf <;> simp [hm]
      · obtain ⟨m', hm', hterm⟩ := List.mem_filterMap.mp hg
        cases List.mem_singleton.mp hm'
        rintro rfl
        exact (hends f hterm).2 hf
    · rw [hreg, hput]
      exact ht.awaited.snoc fun f hf => (hends f hf).1

/-- A report that is received finds its flow. -/
theorem Tolerates.registered {action : FlowAction} (ht : Tolerates peer me)
    (hm : Moves me peer me' peer' message sent) (he : Ends me peer action me' message sent)
    (hnone : ∀ f, .unknownActiveFlow f ∉ me.refused) : ∀ f, .unknownActiveFlow f ∉ me'.refused := by
  intro f hf
  rcases he.unknown f hf with hold | ⟨reason, rfl, hnot⟩
  · exact hnone f hold
  · have hawaited := ht.awaited
    rw [hm.taken] at hawaited
    exact hnot (hawaited.1 f rfl)

/-! ### The close -/

/-- What the driver of a side closed the connection with, if it refused a frame. -/
def closeCode (x : FlowSide) : Option ApplicationErrorCode :=
  x.refused.head?.bind receivedFlowControlCloseCode

theorem closeCode_of_refused {x : FlowSide} {err : FlowControlError}
    (honce : x.refused.length ≤ 1) (herr : err ∈ x.refused) :
    x.closeCode = receivedFlowControlCloseCode err := by
  unfold closeCode
  cases hrefused : x.refused with
  | nil =>
    rw [hrefused] at herr
    cases herr
  | cons first rest =>
    rw [hrefused] at honce herr
    have hrest : rest = [] := List.length_eq_zero_iff.mp (by simpa using honce)
    rw [hrest, List.mem_singleton] at herr
    rw [herr]
    rfl

end FlowSide

/-! ### Runs -/

namespace FlowRun

open FlowSide

/-- Two sides that do not let ends cross. -/
def Uncrossed (me peer : FlowSide) (action : FlowAction) : Prop :=
  Live me peer action ∧ Calm me peer action

instance (me peer : FlowSide) (action : FlowAction) : Decidable (Uncrossed me peer action) :=
  inferInstanceAs (Decidable (_ ∧ _))

/-- No report of an end was refused for want of its flow. -/
def EndsTolerated (r : FlowRun) : Prop :=
  ∀ f, .unknownActiveFlow f ∉ r.client.refused ∧ .unknownActiveFlow f ∉ r.server.refused

/-! ### Runs that close -/

theorem refused_once {me me' peer peer' : FlowSide} {action : FlowAction}
    (hlive : Live me peer action) (h : me.act peer action = .ok (me', peer')) :
    me'.refused.length ≤ 1 ∧ peer'.refused = peer.refused := by
  have hnone : me.refused = [] := List.isEmpty_iff.mp hlive.2
  obtain ⟨hpeer, hsame | ⟨_, _, _, err, _, _, -, -, -, hrefused⟩⟩ := act_refused h
  · rw [hsame, hnone]
    exact ⟨Nat.zero_le 1, hpeer⟩
  · rw [hrefused, hnone]
    exact ⟨Nat.le_refl 1, hpeer⟩

/-- Each side refuses one frame at most. -/
def Single (r : FlowRun) : Prop := r.client.refused.length ≤ 1 ∧ r.server.refused.length ≤ 1

theorem Single.of_reachable {r : FlowRun} (h : Reachable Starts (Step Live) r) : Single r := by
  refine h.invariant (fun r hr => ?_) fun r r' hr hs => ?_
  · rw [Single, hr.client.empty.2.2.2, hr.server.empty.2.2.2]
    exact ⟨Nat.zero_le 1, Nat.zero_le 1⟩
  · rcases step_cases hs with ⟨action, hlive, hact⟩ | ⟨action, hlive, hact⟩
    · obtain ⟨hclient, hserver⟩ := refused_once hlive hact
      exact ⟨hclient, hserver ▸ hr.2⟩
    · obtain ⟨hserver, hclient⟩ := refused_once hlive hact
      exact ⟨hclient ▸ hr.1, hserver⟩

/-- An end that is not tolerated costs the connection, with every other flow on it. -/
theorem untolerated_end_closes {r : FlowRun} (h : Reachable Starts (Step Live) r)
    (hends : ¬ EndsTolerated r) :
    r.client.closeCode = some .flowProtocolError ∨
      r.server.closeCode = some .flowProtocolError := by
  obtain ⟨hclient, hserver⟩ := Single.of_reachable h
  obtain ⟨f, hf⟩ := not_forall.mp hends
  rcases Classical.not_and_iff_not_or_not.mp hf with hf | hf
  · exact .inl (closeCode_of_refused hclient (Classical.not_not.mp hf))
  · exact .inr (closeCode_of_refused hserver (Classical.not_not.mp hf))

/-! ### Runs whose ends do not cross -/

/-- The part of a side that every action needs. -/
def Sound (x : FlowSide) : Prop :=
  x.Formed ∧ x.control.PendingOutbound ∧ ∀ f, .unknownActiveFlow f ∉ x.refused

structure Quiet (r : FlowRun) : Prop where
  client : Sound r.client
  server : Sound r.server
  toServer : r.server.refused = [] → Tolerates r.client r.server
  toClient : r.client.refused = [] → Tolerates r.server r.client

/-- An action of `me`. -/
theorem uncrossed_step {me peer me' peer' : FlowSide} {action : FlowAction} (hme : Sound me)
    (hpeer : Sound peer) (hout : peer.refused = [] → Tolerates me peer)
    (hin : me.refused = [] → Tolerates peer me) (hrule : Uncrossed me peer action)
    (h : me.act peer action = .ok (me', peer')) :
    Sound me' ∧ Sound peer' ∧ (peer'.refused = [] → Tolerates me' peer') ∧
      (me'.refused = [] → Tolerates peer' me') := by
  obtain ⟨⟨hdecided, hlive⟩, hcalm⟩ := hrule
  obtain ⟨message, sent, hm, he⟩ := act_ends hme.1 hpeer.1 hme.2.1 hdecided h
  have hsame := (act_refused h).1
  have htolerates := hin (List.isEmpty_iff.mp hlive)
  refine ⟨⟨hm.formed.1, ?_, htolerates.registered hm he hme.2.2⟩, ⟨hm.formed.2, ?_, ?_⟩, ?_, ?_⟩
  · intro v pending hv
    rcases hm.move.pendingOutbound hv with hold | ⟨_, -, hdirection, -⟩
    · exact hme.2.1 v pending hold
    · exact hdirection
  · rw [hm.peer.1]
    exact hpeer.2.1
  · rw [hsame]
    exact hpeer.2.2
  · intro hnone
    exact (hout (hsame ▸ hnone)).sender hm he hcalm
  · exact htolerates.receiver hm he hcalm

theorem StartsSide.sound {side : WireSide} {x : FlowSide} (h : StartsSide side x) : Sound x := by
  obtain ⟨-, -, -, hpending, -⟩ := h.new
  obtain ⟨hsent, -, -, hrefused⟩ := h.empty
  refine ⟨?_, ?_, ?_⟩
  · intro frame hframe
    rw [hsent] at hframe
    cases hframe
  · intro v pending hv
    rw [hpending] at hv
    cases hv
  · intro f hf
    rw [hrefused] at hf
    cases hf

theorem tolerates_start {side : WireSide} {a b : FlowSide} (h : StartsSide side a) :
    Tolerates a b := by
  have hnone : a.inFlight = [] := by rw [inFlight, h.empty.1, List.filterMap_nil]
  refine ⟨?_, ?_⟩
  · rw [terminates, hnone]
    exact .nil
  · rw [hnone]
    trivial

theorem Quiet.start {r : FlowRun} (h : Starts r) : Quiet r :=
  ⟨h.client.sound, h.server.sound, fun _ => tolerates_start h.client,
    fun _ => tolerates_start h.server⟩

theorem Quiet.step {r r' : FlowRun} (hq : Quiet r) (h : Step Uncrossed r r') : Quiet r' := by
  rcases step_cases h with ⟨action, hrule, hact⟩ | ⟨action, hrule, hact⟩
  · obtain ⟨hclient, hserver, hout, hin⟩ :=
      uncrossed_step hq.client hq.server hq.toServer hq.toClient hrule hact
    exact ⟨hclient, hserver, hout, hin⟩
  · obtain ⟨hserver, hclient, hout, hin⟩ :=
      uncrossed_step hq.server hq.client hq.toClient hq.toServer hrule hact
    exact ⟨hclient, hserver, hin, hout⟩

/-- Ends that do not cross are tolerated in every state of every run. -/
theorem uncrossed_ends_tolerated {r : FlowRun} (h : Reachable Starts (Step Uncrossed) r) :
    EndsTolerated r := by
  have hq : Quiet r := h.invariant (P := Quiet) (fun _ h => .start h) fun _ _ hq hs => hq.step hs
  exact fun f => ⟨hq.client.2.2 f, hq.server.2.2 f⟩

/-- The client ends the flow and the server hears of it. -/
def sampleEnd : List (WireSide × FlowAction) :=
  sampleEstablish ++ [(.client, .terminateLocal sampleAlloc sampleFlowId .resourceFailure),
    (.server, .receive sampleAlloc)]

theorem uncrossed_ends_tolerated_sample : ∃ r, play Uncrossed sampleStart sampleEnd = .ok r ∧
    ¬ r.client.Registered sampleFlowId ∧ ¬ r.server.Registered sampleFlowId ∧
    EndsTolerated r := by
  have hplayed : ((play Uncrossed sampleStart sampleEnd).toOption.any fun r =>
      !decide (r.client.Registered sampleFlowId) && !decide (r.server.Registered sampleFlowId)) =
        true := by
    decide +kernel
  obtain ⟨r, hr, hended⟩ := (Option.any_eq_true _ _).mp hplayed
  simp only [Bool.and_eq_true, Bool.not_eq_true', decide_eq_false_iff_not] at hended
  have hplay := ok_of_toOption hr
  exact ⟨r, hplay, hended.1, hended.2,
    uncrossed_ends_tolerated (play_reachable (.start sampleStart_starts) hplay)⟩

/-- The one error is the refusal of an unknown flow. -/
def refusesUnknown (f : FlowId) : List FlowControlError → Bool
  | [.unknownActiveFlow g] => g = f
  | _ => false

/-- Both sides end the flow before either hears from the other. -/
def sampleCrossing : List (WireSide × FlowAction) :=
  sampleEstablish ++ [(.client, .terminateLocal sampleAlloc sampleFlowId .resourceFailure),
    (.server, .terminateLocal sampleAlloc sampleFlowId .resourceFailure),
    (.client, .receive sampleAlloc)]

theorem crossing_ends_refused : ¬ ∀ r, Reachable Starts (Step Live) r → EndsTolerated r := by
  intro h
  have hplayed : ((play Live sampleStart sampleCrossing).toOption.any fun r =>
      refusesUnknown sampleFlowId r.client.refused) = true := by
    decide +kernel
  obtain ⟨r, hr, hrefused⟩ := (Option.any_eq_true _ _).mp hplayed
  have hreach := play_reachable (.start sampleStart_starts) (ok_of_toOption hr)
  unfold refusesUnknown at hrefused
  split at hrefused
  · rename_i f heq
    refine (h r hreach f).1 ?_
    rw [heq]
    exact List.mem_singleton_self _
  · cases hrefused

end FlowRun

end RunenNet
