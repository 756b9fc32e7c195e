import RunenNet.Quic.ConnectionWork
import RunenNet.Quic.Datagram

/-!
# The work of flow control, of the streams and of the datagrams

Every operation of flow control, every step of a binding and every datagram works on the parts of
the connection by elementary changes, and none of them submits anything.
-/

namespace RunenNet

open Foundation
open DeliveryEndpoint (Quiet)

/-! ### Flow control -/

namespace FlowControl

variable {fc fc' : FlowControl} {alloc : Allocator} {e e' e₁ : DeliveryEndpoint} {flowId : FlowId}
  {io : ReliableConnectionIo}

theorem receiveOpen_quiet {body : List UInt8} {r : Except FlowControlError FlowControlProgress}
    (h : fc.receiveOpen alloc e body = .ok (r, fc', e')) : Quiet e e' := by
  have hsame : e' = e := by
    unfold receiveOpen at h
    split at h
    · cases h
      rfl
    · split at h
      · cases h
        rfl
      · simp only at h
        split at h
        · exact (inboundRejection_ok h).2.1
        · split at h
          · exact (inboundRejection_ok h).2.1
          · cases h
            rfl
  rw [hsame]
  exact .refl

theorem activateOutbound_quiet {pending : PendingOutboundFlow}
    {r : Except FlowControlError FlowControlProgress}
    (h : fc.activateOutbound alloc e flowId pending = .ok (r, fc', e')) : Quiet e e' := by
  unfold activateOutbound at h
  split at h
  · cases h
    exact .refl
  · simp only [Checked.bind_eq_ok] at h
    obtain ⟨⟨res, e₁⟩, hterm, h⟩ := h
    refine (Quiet.terminateFlow hterm).trans ?_
    cases res with
    | error err =>
      cases h
      exact .refl
    | ok termination =>
      simp only at h
      split at h
      · rw [(outboundResourceFailure_ok h).2.1]
        exact .refl
      · rw [(outboundResourceFailure_ok h).2.1]
        exact .refl
      · cases h
        exact .refl

theorem receiveAccept_quiet {body : List UInt8} {r : Except FlowControlError FlowControlProgress}
    (h : fc.receiveAccept alloc e body = .ok (r, fc', e')) : Quiet e e' := by
  unfold receiveAccept at h
  split at h
  · cases h
    exact .refl
  · split at h
    · cases h
      exact .refl
    · split at h
      · cases h
        exact .refl
      · simp only [Checked.bind_eq_ok] at h
        obtain ⟨⟨res, e₁⟩, hest, h⟩ := h
        refine (Quiet.establishFlow hest).trans ?_
        split at h
        · rename_i heq
          cases heq
          exact activateOutbound_quiet h
        · rename_i heq
          cases heq
          rw [(outboundResourceFailure_ok h).2.1]
          exact .refl
        · rename_i heq
          cases heq
          cases h
          exact .refl

theorem receiveReject_quiet {body : List UInt8} {r : Except FlowControlError FlowControlProgress}
    (h : fc.receiveReject e body = (r, fc', e')) : Quiet e e' := by
  unfold receiveReject at h
  split at h
  · cases h
    exact .refl
  · split at h
    · cases h
      exact .refl
    · split at h
      · cases h
        exact .refl
      · cases h
        exact .refl

theorem endRegistered_quiet {flow : RegisteredFlow} {r : Except FlowControlError FlowTermination}
    (h : fc.endRegistered e flowId flow = .ok (r, fc', e')) : Quiet e e' := by
  simp only [endRegistered, Checked.bind_eq_ok] at h
  obtain ⟨⟨res, e₁⟩, hterm, h⟩ := h
  cases res with
  | error err =>
    cases h
    exact .terminateFlow hterm
  | ok termination =>
    cases h
    exact .terminateFlow hterm

theorem receiveTerminate_quiet {body : List UInt8}
    {r : Except FlowControlError FlowControlProgress}
    (h : fc.receiveTerminate e body = .ok (r, fc', e')) : Quiet e e' := by
  unfold receiveTerminate at h
  split at h
  · cases h
    exact .refl
  · split at h
    · cases h
      exact .refl
    · split at h
      · cases h
        exact .refl
      · simp only [Checked.bind_eq_ok] at h
        obtain ⟨⟨res, fc₁, e₁⟩, hend, h⟩ := h
        cases h
        exact endRegistered_quiet hend

theorem receive_quiet {frame : ControlFrame} {r : Except FlowControlError FlowControlProgress}
    (h : fc.receive alloc e frame = .ok (r, fc', e')) : Quiet e e' := by
  unfold receive at h
  split at h
  · split at h
    · cases h
      exact .refl
    · exact receiveOpen_quiet h
  · exact receiveAccept_quiet h
  · exact receiveReject_quiet (Except.ok.inj h)
  · exact receiveTerminate_quiet h
  · cases h
    exact .refl

/-- A frame that carries no message, or an open before the pending one is decided, is refused. -/
theorem receive_refused {frame : ControlFrame} {r : Except FlowControlError FlowControlProgress}
    (hm : messageOf frame = none ∨ (frame.frameType = .openFlow ∧ fc.pendingInbound ≠ none))
    (h : fc.receive alloc e frame = .ok (r, fc', e')) : fc' = fc := by
  unfold receive at h
  split at h
  · rename_i htype
    split at h
    · cases h
      rfl
    · rename_i hnone
      rcases hm with hm | ⟨-, hsome⟩
      · simp only [messageOf, htype, Option.map_eq_none_iff] at hm
        unfold receiveOpen at h
        split at h
        · cases h
          rfl
        · rename_i hd
          rw [hd] at hm
          cases hm
      · exact absurd hnone hsome
  all_goals rename_i htype
  · simp only [messageOf, htype, reduceCtorEq, false_and, or_false, Option.map_eq_none_iff] at hm
    unfold receiveAccept at h
    split at h
    · cases h
      rfl
    · rename_i hd
      rw [hd] at hm
      cases hm
  · simp only [messageOf, htype, reduceCtorEq, false_and, or_false, Option.map_eq_none_iff] at hm
    have h := Except.ok.inj h
    unfold receiveReject at h
    split at h
    · cases h
      rfl
    · rename_i hd
      rw [hd] at hm
      cases hm
  · simp only [messageOf, htype, reduceCtorEq, false_and, or_false, Option.map_eq_none_iff] at hm
    unfold receiveTerminate at h
    split at h
    · cases h
      rfl
    · rename_i hd
      rw [hd] at hm
      cases hm
  · cases h
    rfl

/-- Any received frame is a move, of its own message if it carries one. -/
theorem receive_move {frame : ControlFrame} {r : Except FlowControlError FlowControlProgress}
    (hn : fc.Numbered) (h : fc.receive alloc e frame = .ok (r, fc', e')) :
    ∃ message sent, Move fc message fc' sent ∧ (message = none ∨ message = messageOf frame) := by
  by_cases hrefused : messageOf frame = none ∨
      (frame.frameType = .openFlow ∧ fc.pendingInbound ≠ none)
  · rw [receive_refused hrefused h]
    exact ⟨none, none, .idle nofun, .inl rfl⟩
  · rw [not_or, not_and, not_not] at hrefused
    obtain ⟨message, hm⟩ := Option.ne_none_iff_exists'.mp hrefused.1
    obtain ⟨sent, -, hmove⟩ := (receive_effect hn.keys hm hrefused.2 h).move
    exact ⟨_, sent, hmove, .inr hm.symm⟩

theorem receive_works {frame : ControlFrame} {r : Except FlowControlError FlowControlProgress}
    (hn : fc.Numbered) (h : fc.receive alloc e frame = .ok (r, fc', e')) :
    ConnectionParts.Works ⟨fc, io, e⟩ ⟨fc', io, e'⟩ := by
  obtain ⟨message, sent, hmove, -⟩ := receive_move hn h
  exact .both (receive_quiet h) ⟨message, sent, hmove⟩

variable {request : InboundOpenRequest} {r : Except InboundAdmissionError InboundResolution}

theorem resolveInboundRejection_quiet {reason : FlowRejectReason}
    (h : fc.resolveInboundRejection alloc e request reason = .ok (r, fc', e')) : Quiet e e' := by
  simp only [resolveInboundRejection, Checked.bind_eq_ok] at h
  obtain ⟨frame, -, h⟩ := h
  cases frame <;> cases h <;> exact .refl

theorem activateInbound_quiet {admission : InboundAdmission} {frame : ControlFrame}
    (h : fc.activateInbound alloc e request admission frame = .ok (r, fc', e')) : Quiet e e' := by
  unfold activateInbound at h
  split at h
  · split at h
    · cases h
      exact .refl
    · simp only [Checked.bind_eq_ok] at h
      obtain ⟨⟨res, e₁⟩, hterm, h⟩ := h
      refine (Quiet.terminateFlow hterm).trans ?_
      cases res with
      | error err =>
        cases h
        exact .refl
      | ok termination =>
        simp only at h
        split at h
        · exact resolveInboundRejection_quiet h
        · exact resolveInboundRejection_quiet h
        · cases h
          exact .refl
  · cases h

theorem acceptInbound_quiet {admission : InboundAdmission}
    (h : fc.acceptInbound alloc e request admission = .ok (r, fc', e')) : Quiet e e' := by
  unfold acceptInbound at h
  simp only at h
  split at h
  · cases h
    exact .refl
  · split at h
    · cases h
      exact .refl
    · split at h
      · cases h
        exact .refl
      · split at h
        · cases h
          exact .refl
        · split at h
          · exact resolveInboundRejection_quiet h
          · split at h
            · exact resolveInboundRejection_quiet h
            · simp only [Checked.bind_eq_ok] at h
              obtain ⟨frame, -, h⟩ := h
              cases frame with
              | none =>
                cases h
                exact .refl
              | some frame =>
                simp only [Checked.bind_eq_ok] at h
                obtain ⟨⟨res, e₁⟩, hest, h⟩ := h
                refine (Quiet.establishFlow hest).trans ?_
                split at h
                · rename_i heq
                  cases heq
                  exact activateInbound_quiet h
                · rename_i heq
                  cases heq
                  exact resolveInboundRejection_quiet h
                · rename_i heq
                  cases heq
                  cases h
                  exact .refl

theorem acceptInbound_works {admission : InboundAdmission}
    (h : fc.acceptInbound alloc e request admission = .ok (r, fc', e')) :
    ConnectionParts.Works ⟨fc, io, e⟩ ⟨fc', io, e'⟩ := by
  obtain ⟨sent, -, hmove, -⟩ := acceptInbound_effect h
  exact .both (acceptInbound_quiet h) ⟨none, sent, hmove⟩

theorem rejectInbound_quiet {reason : FlowRejectReason}
    (h : fc.rejectInbound alloc e request reason = .ok (r, fc', e')) : Quiet e e' := by
  unfold rejectInbound at h
  split at h
  · cases h
    exact .refl
  · exact resolveInboundRejection_quiet h

theorem rejectInbound_works {reason : FlowRejectReason}
    (h : fc.rejectInbound alloc e request reason = .ok (r, fc', e')) :
    ConnectionParts.Works ⟨fc, io, e⟩ ⟨fc', io, e'⟩ := by
  obtain ⟨sent, -, hmove, -⟩ := rejectInbound_effect h
  exact .both (rejectInbound_quiet h) ⟨none, sent, hmove⟩

theorem prepareOutboundOpen_move {open' : OutboundOpenRequest} {size : Option Nat}
    {r : Except OutboundOpenError PreparedOutboundOpen}
    (h : fc.prepareOutboundOpen alloc e open' size = .ok (r, fc')) :
    ∃ sent, Move fc none fc' sent := by
  rcases prepareOutboundOpen_effect h with ⟨-, rfl⟩ | ⟨prepared, flowId, -, ho⟩
  · exact ⟨none, .idle nofun⟩
  · rw [ho.state]
    exact ⟨_, .opens ho.expected ho.fresh ho.identity.2⟩

theorem prepareOutboundOpen_works {open' : OutboundOpenRequest} {size : Option Nat}
    {r : Except OutboundOpenError PreparedOutboundOpen}
    (h : fc.prepareOutboundOpen alloc e open' size = .ok (r, fc')) :
    ConnectionParts.Works ⟨fc, io, e⟩ ⟨fc', io, e⟩ := by
  obtain ⟨sent, hmove⟩ := prepareOutboundOpen_move h
  exact .control hmove

theorem terminateLocal_quiet {reason : FlowTerminateReason}
    {r : Except FlowControlError LocalTermination}
    (h : fc.terminateLocal alloc e flowId reason = .ok (r, fc', e')) : Quiet e e' := by
  unfold terminateLocal at h
  split at h
  · cases h
    exact .refl
  · split at h
    · cases h
      exact .refl
    · simp only [Checked.bind_eq_ok] at h
      obtain ⟨frame, -, h⟩ := h
      cases frame with
      | none =>
        cases h
        exact .refl
      | some frame =>
        simp only [Checked.bind_eq_ok] at h
        obtain ⟨⟨res, fc₁, e₁⟩, hend, h⟩ := h
        cases h
        exact endRegistered_quiet hend

theorem terminateLocal_move {reason : FlowTerminateReason}
    {r : Except FlowControlError LocalTermination}
    (h : fc.terminateLocal alloc e flowId reason = .ok (r, fc', e')) :
    ∃ sent, Move fc none fc' sent := by
  rcases terminateLocal_effect h with ⟨-, rfl⟩ | ⟨ended, flow, -, -, -, -, -, -, rfl⟩
  · exact ⟨none, .idle nofun⟩
  · exact ⟨none, .ends (.inl rfl)⟩

theorem terminateLocal_works {reason : FlowTerminateReason}
    {r : Except FlowControlError LocalTermination}
    (h : fc.terminateLocal alloc e flowId reason = .ok (r, fc', e')) :
    ConnectionParts.Works ⟨fc, io, e⟩ ⟨fc', io, e'⟩ :=
  .both (terminateLocal_quiet h) ⟨none, terminateLocal_move h⟩

theorem associate_move {direction : FlowDirection} {target : ReliableAssociationState}
    {res : Except RegistryError RegisteredFlow} {registry : AcceptedFlowRegistry}
    (h : fc.registry.associate flowId direction target = (res, registry)) :
    Move fc none { fc with registry := registry } none := by
  rcases AcceptedFlowRegistry.associate_cases h with rfl | ⟨flow, hf, rfl⟩
  · exact .idle nofun
  · exact .associates hf rfl rfl rfl

end FlowControl

/-! ### Bindings of reliable streams -/

namespace AcceptedFlowRegistry

variable {registry registry' registry'' : AcceptedFlowRegistry} {flowId : FlowId}

/-- `registry'` comes from `registry` by what bindings do: flows are associated and released. -/
def Turns : AcceptedFlowRegistry → AcceptedFlowRegistry → Prop :=
  Relation.ReflTransGen fun registry registry' => (∃ flowId, registry' = registry.release flowId) ∨
    ∃ flowId direction target res, registry.associate flowId direction target = (res, registry')

namespace Turns

theorem refl : registry.Turns registry := Relation.ReflTransGen.refl

theorem trans (h : registry.Turns registry') (h' : registry'.Turns registry'') :
    registry.Turns registry'' := Relation.ReflTransGen.trans h h'

theorem release : registry.Turns (registry.release flowId) := .single (.inl ⟨flowId, rfl⟩)

theorem associate {direction : FlowDirection} {target : ReliableAssociationState}
    {res : Except RegistryError RegisteredFlow}
    (h : registry.associate flowId direction target = (res, registry')) :
    registry.Turns registry' := .single (.inr ⟨flowId, direction, target, res, h⟩)

/-- Flow control moves as its registry turns. -/
theorem works {fc : FlowControl} {io : ReliableConnectionIo} {e : DeliveryEndpoint}
    (h : fc.registry.Turns registry) :
    ConnectionParts.Works ⟨fc, io, e⟩ ⟨{ fc with registry := registry }, io, e⟩ := by
  induction h with
  | refl => exact .refl
  | tail _ hturn ih =>
    refine ih.trans ?_
    rcases hturn with ⟨flowId, rfl⟩ | ⟨flowId, direction, target, res, h⟩
    · exact .control (.ends (.inl rfl))
    · exact .control (FlowControl.associate_move h)

end Turns

end AcceptedFlowRegistry

namespace OutboundState

variable {s s' : OutboundState} {e e' : DeliveryEndpoint} {key : DeliveryFlowKey}

theorem commitCurrent_quiet {m : OutboundMessage} {r : Except SendError Nat}
    (h : s.commitCurrent m e key = .ok (r, s', e')) : Quiet e e' := by
  simp only [commitCurrent, Checked.bind_eq_ok] at h
  obtain ⟨⟨res, e₁⟩, hcommit, h⟩ := h
  cases res with
  | error err =>
    cases h
    exact .commitOutboundCustody hcommit
  | ok transfer =>
    cases h
    exact .commitOutboundCustody hcommit

theorem advance_quiet {bytes : Nat} {r : Except SendError (Option Nat)}
    (h : s.advance bytes e key = .ok (r, s', e')) : Quiet e e' := by
  unfold advance at h
  split at h
  · cases h
    exact .refl
  · split at h
    · split at h
      · cases h
        exact .refl
      · cases h
        exact .refl
    · simp only [Checked.bind_eq_ok] at h
      obtain ⟨m, -, h⟩ := h
      split at h
      · split at h
        · cases h
          exact .refl
        · split at h
          · simp only [Checked.bind_eq_ok] at h
            obtain ⟨⟨res, s₁, e₁⟩, hcommit, h⟩ := h
            cases h
            exact commitCurrent_quiet hcommit
          · cases h
            exact .refl
      · split at h
        · cases h
          exact .refl
        · split at h
          · simp only [Checked.bind_eq_ok] at h
            obtain ⟨⟨res, s₁, e₁⟩, hcommit, h⟩ := h
            cases h
            exact commitCurrent_quiet hcommit
          · cases h
            exact .refl

end OutboundState

namespace OutboundReliable

variable {b b' : OutboundReliable} {io : SendStream} {e e' : DeliveryEndpoint}
  {registry registry' : AcceptedFlowRegistry} {r : Polled (Except SendError SendProgress)}

/-- What a step of a binding does around it. -/
structure StepWork (b : OutboundReliable) (e : DeliveryEndpoint) (registry : AcceptedFlowRegistry)
    (b' : OutboundReliable) (e' : DeliveryEndpoint) (registry' : AcceptedFlowRegistry) : Prop where
  quiet : Quiet e e'
  key : b'.key = b.key
  turns : registry.Turns registry'

theorem fail_work {error : SendError} (h : b.fail e registry error = .ok (r, b', e', registry')) :
    b.StepWork e registry b' e' registry' := by
  unfold fail at h
  split at h
  · cases h
    exact ⟨.refl, rfl, .refl⟩
  · simp only [Checked.bind_eq_ok] at h
    obtain ⟨⟨res, e₁⟩, hfail, h⟩ := h
    cases h
    exact ⟨.failReliableCustody hfail, rfl, .release⟩

/-- A binding that fails after work on the endpoint. -/
theorem StepWork.fail {b₁ : OutboundReliable} {e₁ : DeliveryEndpoint} {error : SendError}
    (hq : Quiet e e₁) (h : b₁.fail e₁ registry error = .ok (r, b', e', registry'))
    (hkey : b₁.key = b.key) : b.StepWork e registry b' e' registry' := by
  have hwork := fail_work h
  exact ⟨hq.trans hwork.quiet, hwork.key.trans hkey, hwork.turns⟩

theorem pollFinish_work (h : b.pollFinish io e registry = .ok (r, b', e', registry')) :
    b.StepWork e registry b' e' registry' := by
  unfold pollFinish at h
  split at h
  · exact fail_work h
  · exact fail_work h
  · split at h
    · cases h
      exact ⟨.refl, rfl, .refl⟩
    · simp only [Checked.bind_eq_ok] at h
      obtain ⟨⟨res, e₁⟩, hterm, h⟩ := h
      cases res with
      | error err => exact .fail (.terminateFlow hterm) h rfl
      | ok termination =>
        cases h
        exact ⟨.terminateFlow hterm, rfl, .release⟩
    · cases h
      exact ⟨.refl, rfl, .refl⟩
    · exact fail_work h
    · exact fail_work h

theorem pollWrite_work (h : b.pollWrite io e registry = .ok (r, b', e', registry')) :
    b.StepWork e registry b' e' registry' := by
  simp only [pollWrite, Checked.bind_eq_ok] at h
  obtain ⟨⟨res, state⟩, -, h⟩ := h
  split at h
  · exact .fail .refl h rfl
  · cases h
    exact ⟨.refl, rfl, .refl⟩
  · split at h
    · cases h
      exact ⟨.refl, rfl, .refl⟩
    · cases h
      exact ⟨.refl, rfl, .refl⟩
    · exact .fail .refl h rfl
    · exact .fail .refl h rfl
    · simp only [Checked.bind_eq_ok] at h
      obtain ⟨⟨res', state', e₁⟩, hadvance, h⟩ := h
      have hq := OutboundState.advance_quiet hadvance
      split at h
      all_goals
        rename_i heq
        cases heq
      · exact .fail hq h rfl
      · cases h
        exact ⟨hq, rfl, .refl⟩
      · cases h
        exact ⟨hq, rfl, .refl⟩

theorem pollStep_work (h : b.pollStep io e registry = .ok (r, b', e', registry')) :
    b.StepWork e registry b' e' registry' := by
  unfold pollStep at h
  split at h
  · cases h
    exact ⟨.refl, rfl, .refl⟩
  · split at h
    · exact fail_work h
    · split at h
      · exact pollFinish_work h
      · exact pollWrite_work h

theorem requestFinishNormal_key {finished : Except IoFailure Unit} {r : Except SendError Unit}
    (h : b.requestFinishNormal finished e = .ok (r, b')) : b'.key = b.key := by
  unfold requestFinishNormal at h
  split at h
  · cases h
    rfl
  · split at h
    · cases h
      rfl
    · split at h
      · cases h
        rfl
      · simp only [Checked.bind_eq_ok] at h
        obtain ⟨⟨segment, state⟩, -, h⟩ := h
        split at h
        · cases h
          rfl
        · cases h
          rfl
        · split at h
          · cases h
            rfl
          · cases h
            rfl

end OutboundReliable

namespace InboundFrames

variable {f f' : InboundFrames} {e e' : DeliveryEndpoint} {key : DeliveryFlowKey}

theorem deliver_quiet {message : List UInt8} {r : Except ReceiveError Unit}
    (h : f.deliver e key message = .ok (r, f', e')) : Quiet e e' := by
  unfold deliver at h
  split at h
  · cases h
    exact .refl
  · simp only [Checked.bind_eq_ok] at h
    obtain ⟨⟨res, e₁⟩, hreceive, h⟩ := h
    cases res with
    | error err =>
      cases h
      exact .receiveTransportPayload hreceive
    | ok outcome =>
      simp only at h
      split at h
      · cases h
        exact .receiveTransportPayload hreceive
      · cases h
        exact .receiveTransportPayload hreceive

theorem consumeFrom_quiet {reserves : Nat → Bool} {r : Except ReceiveError Nat} {bound : Nat}
    {input : List UInt8} {messages : Nat}
    (h : consumeFrom key reserves bound input messages f e = .ok (r, f', e')) : Quiet e e' := by
  induction bound generalizing input messages f e with
  | zero =>
    cases input with
    | nil =>
      cases h
      exact .refl
    | cons => cases h
  | succ bound ih =>
    cases input with
    | nil =>
      cases h
      exact .refl
    | cons =>
      simp only [consumeFrom] at h
      split at h
      · cases h
        exact .refl
      · split at h
        · cases h
          exact .refl
        · split at h
          · exact ih h
          · simp only [Checked.bind_eq_ok] at h
            obtain ⟨⟨res, f₁, e₁⟩, hdeliver, h⟩ := h
            refine (deliver_quiet hdeliver).trans ?_
            cases res with
            | error err =>
              cases h
              exact .refl
            | ok _ => exact ih h

end InboundFrames

namespace InboundReliable

variable {b b' : InboundReliable} {io : RecvStream} {e e' : DeliveryEndpoint}
  {registry registry' : AcceptedFlowRegistry} {r : Polled (Except ReceiveError ReceiveProgress)}

theorem releaseFlow_turns : registry.Turns (b.releaseFlow registry) := by
  unfold releaseFlow
  split
  · exact .release
  · exact .refl

theorem fail_work {error : ReceiveError} (h : b.fail e registry error = .ok (r, b', e', registry')) :
    Quiet e e' ∧ registry.Turns registry' := by
  unfold fail at h
  split at h
  · cases h
    exact ⟨.refl, .refl⟩
  · split at h
    · cases h
      exact ⟨.refl, releaseFlow_turns⟩
    · simp only [Checked.bind_eq_ok] at h
      obtain ⟨⟨res, e₁⟩, hcustody, _, hpair, h⟩ := h
      cases hpair
      cases h
      exact ⟨.failReliableCustody hcustody, releaseFlow_turns⟩

theorem drain_work (h : b.drain e registry = .ok (r, b', e', registry')) :
    Quiet e e' ∧ registry.Turns registry' := by
  unfold drain at h
  split at h
  · cases h
    exact ⟨.refl, .refl⟩
  · split at h
    · simp only [Checked.bind_eq_ok] at h
      obtain ⟨⟨res, e₁⟩, hterm, h⟩ := h
      cases res with
      | error err =>
        cases h
        exact ⟨.terminateFlow hterm, .refl⟩
      | ok termination =>
        cases h
        exact ⟨.terminateFlow hterm, releaseFlow_turns⟩
    · cases h
      exact ⟨.refl, .refl⟩
    · cases h
      exact ⟨.refl, releaseFlow_turns⟩

theorem pollEnd_work (h : b.pollEnd e registry = .ok (r, b', e', registry')) :
    Quiet e e' ∧ registry.Turns registry' := by
  unfold pollEnd at h
  split at h
  · cases h
    exact ⟨.refl, .refl⟩
  · simp only [Checked.bind_eq_ok] at h
    obtain ⟨frames, -, h⟩ := h
    split at h
    · exact fail_work h
    · exact drain_work h

theorem pollFrames_work {read : Nat} {rest : List UInt8}
    (h : b.pollFrames io read rest e registry = .ok (r, b', e', registry')) :
    Quiet e e' ∧ registry.Turns registry' := by
  simp only [pollFrames, Checked.bind_eq_ok] at h
  obtain ⟨flow, -, frames, -, ⟨res, frames', e₁⟩, hconsume, h⟩ := h
  have hq := InboundFrames.consumeFrom_quiet hconsume
  split at h
  all_goals
    rename_i heq
    cases heq
  · obtain ⟨hfail, hturns⟩ := fail_work h
    exact ⟨hq.trans hfail, hturns⟩
  · cases h
    exact ⟨hq, .refl⟩
  · cases h
    exact ⟨hq, .refl⟩

theorem pollAssociate_work {chunk : List UInt8}
    (h : b.pollAssociate io chunk e registry = .ok (r, b', e', registry')) :
    Quiet e e' ∧ registry.Turns registry' := by
  unfold pollAssociate at h
  split at h
  · cases h
    exact ⟨.refl, .refl⟩
  · cases h
    exact ⟨.refl, .refl⟩
  · simp only at h
    split at h
    · rename_i hassociate
      cases h
      exact ⟨.refl, .associate hassociate⟩
    · rename_i hassociate
      have after : ∀ {registry₁}, Quiet e e' ∧ registry₁.Turns registry' →
          registry.Turns registry₁ → Quiet e e' ∧ registry.Turns registry' :=
        fun hwork hturns => ⟨hwork.1, hturns.trans hwork.2⟩
      split at h
      · exact after (fail_work h) (.associate hassociate)
      · split at h
        · exact after (fail_work h) (.associate hassociate)
        · split at h
          · cases h
            exact ⟨.refl, .associate hassociate⟩
          · exact after (pollFrames_work h) (.associate hassociate)

theorem pollStep_work (h : b.pollStep io e registry = .ok (r, b', e', registry')) :
    Quiet e e' ∧ registry.Turns registry' := by
  unfold pollStep at h
  split at h
  · cases h
    exact ⟨.refl, .refl⟩
  · split at h
    · exact drain_work h
    · split at h
      · cases h
        exact ⟨.refl, .refl⟩
      · cases h
        exact ⟨.refl, .refl⟩
      · exact fail_work h
      · exact pollEnd_work h
      · split at h
        · exact pollAssociate_work h
        · exact pollFrames_work h

end InboundReliable

/-! ### Datagrams -/

section Datagrams

variable {e e' : DeliveryEndpoint} {key : DeliveryFlowKey} {t : DatagramSendTransport}
  {registry : AcceptedFlowRegistry} {flowId : FlowId} {drops drops' : Nat}
  {r : Except DatagramSendError DatagramSendProgress}

theorem dropTransport_quiet {acceptedIndex : Nat}
    (h : dropTransport e key acceptedIndex drops = .ok (r, e', drops')) : Quiet e e' := by
  simp only [dropTransport, Checked.bind_eq_ok] at h
  obtain ⟨⟨res, e₁⟩, hcommit, h⟩ := h
  cases res with
  | error err =>
    cases h
    exact .commitOutboundCustody hcommit
  | ok transfer =>
    cases h
    exact .commitOutboundCustody hcommit

theorem handDatagram_quiet {acceptedIndex : Nat} {datagram : List UInt8}
    (h : handDatagram t e key acceptedIndex datagram drops = .ok (r, e', drops')) :
    Quiet e e' := by
  unfold handDatagram at h
  split at h
  · cases h
    exact .refl
  · split at h
    · exact dropTransport_quiet h
    · split at h
      · cases h
        exact .refl
      · split at h
        · exact dropTransport_quiet h
        · cases h
          exact .refl
        · cases h
          exact .refl
        · cases h
          exact .refl
        · simp only [Checked.bind_eq_ok] at h
          obtain ⟨⟨res, e₁⟩, hcommit, h⟩ := h
          cases res with
          | error err =>
            cases h
            exact .commitOutboundCustody hcommit
          | ok transfer =>
            cases h
            exact .commitOutboundCustody hcommit

theorem driveTransfer_quiet {flow : RegisteredFlow} {transfer : DeliveryTransfer}
    (h : driveTransfer t e flowId flow transfer drops = .ok (r, e', drops')) : Quiet e e' := by
  unfold driveTransfer at h
  split at h
  · cases h
    exact .refl
  · split at h
    · cases h
      exact .refl
    · simp only at h
      split at h
      rotate_left 2
      · cases h
        exact .refl
      -- the two unreliable modes differ in the sequence alone
      all_goals
        split at h
        · cases h
          exact .refl
        · split at h
          · cases h
            exact .refl
          · split at h
            · exact dropTransport_quiet h
            · split at h
              · cases h
                exact .refl
              · simp only [Checked.bind_eq_ok] at h
                obtain ⟨res, -, h⟩ := h
                cases res with
                | error err =>
                  cases h
                  exact .refl
                | ok datagram => exact handDatagram_quiet h

theorem driveOne_quiet (h : driveOne t e registry flowId drops = .ok (r, e', drops')) :
    Quiet e e' := by
  unfold driveOne at h
  split at h
  · cases h
    exact .refl
  · split at h
    · cases h
      exact .refl
    · cases h
      exact .refl
    · exact driveTransfer_quiet h

theorem receiveDatagram_quiet {reserves : Bool} {datagram : List UInt8}
    {r : Except DatagramReceiveFailure DatagramReceiveOutcome}
    (h : receiveDatagram reserves e registry datagram = .ok (r, e')) : Quiet e e' := by
  unfold receiveDatagram at h
  split at h
  · cases h
    exact .refl
  · split at h
    · cases h
      exact .refl
    · split at h
      · cases h
        exact .refl
      · split at h
        · cases h
          exact .refl
        · split at h
          · cases h
            exact .refl
          · split at h
            · cases h
              exact .refl
            · simp only at h
              split at h
              · cases h
                exact .refl
              · split at h
                · cases h
                  exact .refl
                · simp only [Checked.bind_eq_ok] at h
                  obtain ⟨⟨res, e₁⟩, hreceive, h⟩ := h
                  cases res with
                  | error err =>
                    cases h
                    exact .receiveTransportPayload hreceive
                  | ok outcome =>
                    cases h
                    exact .receiveTransportPayload hreceive

namespace DatagramConnectionIo

variable {io io' : DatagramConnectionIo} {fc : FlowControl}

theorem driveOutboundFrom_quiet {len next : Nat} {indices : List Nat}
    {r : Except DatagramIoError (Option DatagramOutboundProgress)}
    (h : driveOutboundFrom t fc len next indices io e = .ok (r, io', e')) : Quiet e e' := by
  induction indices generalizing io e with
  | nil =>
    cases h
    exact .refl
  | cons index rest ih =>
    simp only [driveOutboundFrom, Checked.bind_eq_ok] at h
    obtain ⟨flowId, -, h⟩ := h
    split at h
    · cases h
      exact .refl
    · simp only [Checked.bind_eq_ok] at h
      obtain ⟨registered, -, ⟨res, e₁, drops⟩, hdrive, h⟩ := h
      refine (driveOne_quiet hdrive).trans ?_
      simp only at h
      split at h
      · exact ih h
      · cases h
        exact .refl
      · cases h
        exact .refl

theorem driveOutbound_quiet {r : Except DatagramIoError (Option DatagramOutboundProgress)}
    (h : io.driveOutbound t e fc = .ok (r, io', e')) : Quiet e e' := by
  unfold driveOutbound at h
  simp only at h
  split at h
  · cases h
    exact .refl
  · exact driveOutboundFrom_quiet h

theorem pollInbound_quiet {t : DatagramTransport}
    {r : Polled (Except DatagramIoError DatagramReceiveOutcome)}
    (h : io.pollInbound t e fc = .ok (r, io', e')) : Quiet e e' := by
  unfold pollInbound at h
  split at h
  · cases h
    exact .refl
  · split at h
    · cases h
      exact .refl
    · cases h
      exact .refl
    · simp only [Checked.bind_eq_ok] at h
      obtain ⟨⟨res, e₁⟩, hreceive, h⟩ := h
      cases h
      exact receiveDatagram_quiet hreceive

end DatagramConnectionIo

end Datagrams

end RunenNet
