import RunenNet.Quic.StreamWork
import RunenNet.Quic.PublicConnection

/-!
# The work of a connection

What the driver does in a step and on a command of the host is work on the parts of the connection,
and the host submits nothing to the endpoint but what `submit` hands to it.
-/

namespace RunenNet

open Foundation
open DeliveryEndpoint (Quiet)
open ConnectionParts (Works)

theorem ConnectionParts.Works.numbered {p q : ConnectionParts} (h : Works p q)
    (hn : p.control.Numbered) : q.control.Numbered := by
  induction h with
  | refl => exact hn
  | tail _ hwork ih =>
    cases hwork with
    | control hm => exact ih.move hm
    | _ => exact ih

/-! ### Flow control of the driver -/

namespace FlowDriver

variable {fc fc' : FlowControl} {io : ReliableConnectionIo} {e e' : DeliveryEndpoint}
  {alloc : Allocator}

theorem terminateLocal_works {flowId : FlowId} {reason : FlowTerminateReason}
    {r : Except FlowControlError PendingFlowControlSend}
    (h : terminateLocal fc alloc e flowId reason = .ok (r, fc', e')) :
    Works ⟨fc, io, e⟩ ⟨fc', io, e'⟩ := by
  simp only [terminateLocal, Checked.bind_eq_ok] at h
  obtain ⟨⟨res, fc₁, e₁⟩, hend, h⟩ := h
  cases h
  exact FlowControl.terminateLocal_works hend

theorem prepareEstablishedDataFailure_works {disposition : EstablishedDataFailureDisposition}
    {r : Except FlowControlError EstablishedDataFailureProgress}
    (h : prepareEstablishedDataFailure fc alloc e disposition = .ok (r, fc', e')) :
    Works ⟨fc, io, e⟩ ⟨fc', io, e'⟩ := by
  unfold prepareEstablishedDataFailure at h
  split at h
  · simp only [Checked.bind_eq_ok] at h
    obtain ⟨⟨res, fc₁, e₁⟩, hend, h⟩ := h
    cases h
    exact terminateLocal_works hend
  · split at h
    · simp only [Checked.bind_eq_ok] at h
      obtain ⟨-, -, ⟨res, fc₁, e₁⟩, hend, h⟩ := h
      cases h
      exact terminateLocal_works hend
    · simp only [Checked.bind_eq_ok] at h
      obtain ⟨res, -, h⟩ := h
      cases h
      exact .refl
  · cases h
    exact .refl
  · cases h
    exact .refl

theorem rejectInbound_works {request : InboundOpenRequest} {reason : FlowRejectReason}
    {r : Except InboundAdmissionError PendingFlowControlSend}
    (h : rejectInbound fc alloc e request reason = .ok (r, fc', e')) :
    Works ⟨fc, io, e⟩ ⟨fc', io, e'⟩ := by
  simp only [rejectInbound, Checked.bind_eq_ok] at h
  obtain ⟨⟨res, fc₁, e₁⟩, hreject, h⟩ := h
  cases h
  exact FlowControl.rejectInbound_works hreject

theorem acceptInbound_works {request : InboundOpenRequest} {admission : InboundAdmission}
    {maxStagingBytes : NonZeroUsize} {r : Except InboundAdmissionError PendingFlowControlSend}
    (h : acceptInbound fc alloc e request admission maxStagingBytes = .ok (r, fc', e')) :
    Works ⟨fc, io, e⟩ ⟨fc', io, e'⟩ := by
  unfold acceptInbound at h
  split at h
  · exact rejectInbound_works h
  · simp only [Checked.bind_eq_ok] at h
    obtain ⟨⟨res, fc₁, e₁⟩, haccept, h⟩ := h
    cases h
    exact FlowControl.acceptInbound_works haccept

end FlowDriver

/-! ### Steps of the driver -/

namespace EstablishedConnectionDriver

variable {d d' : EstablishedConnectionDriver} {e e' : DeliveryEndpoint} {t : DriverTransport}
  {alloc : Allocator} {step : DriverStep}

/-- What the driver works on. -/
abbrev parts (d : EstablishedConnectionDriver) (e : DeliveryEndpoint) : ConnectionParts :=
  ⟨d.flowControl, d.reliable, e⟩

@[simp] theorem enterTerminal_parts : d.enterTerminal.parts e = d.parts e := by
  unfold enterTerminal
  split
  · rfl
  · rfl

theorem startPreparedSend_parts {pending : PendingFlowControlSend}
    {r : Except ConnectionDriverError Unit} (h : d.startPreparedSend pending = (r, d')) :
    d'.parts e = d.parts e := by
  unfold startPreparedSend at h
  have started : ∀ {r : Except ConnectionDriverStateError Unit} {d₁ : EstablishedConnectionDriver},
      d.startControlSend pending = (r, d₁) → d₁.parts e = d.parts e := by
    intro r d₁ hs
    unfold startControlSend at hs
    split at hs
    · cases hs
      rfl
    · split at hs
      all_goals
        cases hs
        rfl
  split at h
  · rename_i hs
    cases h
    rw [enterTerminal_parts, started hs]
  · rename_i hs
    cases h
    exact started hs

theorem pollControlSend_parts (h : d.pollControlSend t = (step, d')) :
    d'.parts e = d.parts e := by
  unfold pollControlSend at h
  split at h
  · cases h
    rfl
  · cases h
    rfl
  · split at h
    · cases h
      rfl
    · cases h
      rfl
    · cases h
      exact enterTerminal_parts

theorem failTerminal_works {error : ConnectionDriverError}
    (h : d.failTerminal e error = (step, d', e')) : Works (d.parts e) (d'.parts e') := by
  cases h
  rw [enterTerminal_parts]
  exact .refl

theorem applyDataFailure_works {disposition : EstablishedDataFailureDisposition}
    {error : ConnectionDriverError} {r : Except ConnectionDriverError FlowId}
    (h : d.applyDataFailure alloc e disposition error = .ok (r, d', e')) :
    Works (d.parts e) (d'.parts e') := by
  unfold applyDataFailure at h
  simp only at h
  split at h
  rotate_left 3
  · cases h
    rw [enterTerminal_parts]
    exact .refl
  -- the dispositions that concern a flow are prepared alike
  all_goals
    simp only [Checked.bind_eq_ok] at h
    obtain ⟨⟨res, fc, e₁⟩, hprepare, h⟩ := h
    refine (FlowDriver.prepareEstablishedDataFailure_works hprepare).trans ?_
    split at h
    · cases h
      rw [enterTerminal_parts]
      exact .refl
    · split at h
      · rename_i hs
        cases h
        rw [startPreparedSend_parts hs]
        exact .refl
      · rename_i hs
        cases h
        rw [startPreparedSend_parts hs]
        exact .refl
    · simp only [Checked.bind_eq_ok] at h
      obtain ⟨-, -, h⟩ := h
      cases h
      exact .refl
    · cases h
      rw [enterTerminal_parts]
      exact .refl

theorem finishDataFailure_works {disposition : EstablishedDataFailureDisposition}
    {error : ConnectionDriverError}
    (h : d.finishDataFailure alloc e disposition error = .ok (step, d', e')) :
    Works (d.parts e) (d'.parts e') := by
  simp only [finishDataFailure, Checked.bind_eq_ok] at h
  obtain ⟨⟨res, d₁, e₁⟩, happly, h⟩ := h
  cases res with
  | error err =>
    cases h
    exact applyDataFailure_works happly
  | ok flowId =>
    cases h
    exact applyDataFailure_works happly

theorem routeOutboundEstablished_works {flow : EstablishedFlow}
    (h : d.routeOutboundEstablished t flow e = .ok (step, d', e')) :
    Works (d.parts e) (d'.parts e') := by
  unfold routeOutboundEstablished at h
  split at h
  · simp only [Checked.bind_eq_ok] at h
    obtain ⟨⟨res, reliable⟩, hschedule, h⟩ := h
    refine (ReliableConnectionIo.scheduleOutbound_works hschedule).trans ?_
    split at h
    · cases h
      exact .refl
    · exact finishDataFailure_works h
    · exact failTerminal_works (Except.ok.inj h)
  · simp only [Checked.bind_eq_ok] at h
    obtain ⟨⟨res, datagram⟩, -, h⟩ := h
    split at h
    · cases h
      exact .refl
    · exact (finishDataFailure_works h :)
    · exact (failTerminal_works (Except.ok.inj h) :)

theorem routeFlowControlProgress_works {progress : FlowControlDriverProgress}
    (h : d.routeFlowControlProgress t progress e = .ok (step, d', e')) :
    Works (d.parts e) (d'.parts e') := by
  unfold routeFlowControlProgress at h
  split at h
  · cases h
    exact .refl
  · split at h
    all_goals
      rename_i hs
      cases h
      rw [startPreparedSend_parts hs]
      exact .refl
  · exact routeOutboundEstablished_works h
  · cases h
    exact .refl
  · cases h
    exact .refl

theorem processReceivedFrame_works (hn : d.flowControl.Numbered) {frame : ControlFrame}
    (h : d.processReceivedFrame t frame e = .ok (step, d', e')) :
    Works (d.parts e) (d'.parts e') := by
  simp only [processReceivedFrame, FlowDriver.processReceived, Checked.bind_eq_ok] at h
  obtain ⟨_, ⟨⟨res, fc, e₁⟩, hreceive, hpair⟩, h⟩ := h
  cases hpair
  refine (FlowControl.receive_works hn hreceive).trans ?_
  split at h
  · exact failTerminal_works (Except.ok.inj h)
  · exact routeFlowControlProgress_works h

theorem pollControlReceive_works (hn : d.flowControl.Numbered)
    (h : d.pollControlReceive t e = .ok (step, d', e')) : Works (d.parts e) (d'.parts e') := by
  unfold pollControlReceive at h
  simp only at h
  split at h
  · cases h
    exact .refl
  · split at h
    · cases h
      exact .refl
    · exact processReceivedFrame_works hn h
  · split at h
    · cases h
      exact .refl
    · exact (failTerminal_works (Except.ok.inj h) :)
    · split at h
      · cases h
        exact .refl
      · exact processReceivedFrame_works hn h

theorem pollReliableOutboundAcquisition_works
    (h : d.pollReliableOutboundAcquisition t e = .ok (step, d', e')) :
    Works (d.parts e) (d'.parts e') := by
  simp only [pollReliableOutboundAcquisition, Checked.bind_eq_ok] at h
  obtain ⟨⟨res, reliable, e₁, fc⟩, hpoll, h⟩ := h
  refine (ReliableConnectionIo.pollOutboundAcquisition_works hpoll).trans ?_
  split at h
  · cases h
    exact .refl
  · cases h
    exact .refl
  · exact finishDataFailure_works h
  · exact failTerminal_works (Except.ok.inj h)

theorem pollReliableInboundAcquisition_works
    (h : d.pollReliableInboundAcquisition t e = .ok (step, d', e')) :
    Works (d.parts e) (d'.parts e') := by
  unfold pollReliableInboundAcquisition at h
  simp only at h
  refine (Works.keeps (ReliableConnectionIo.pollInboundAcquisition_keeps t.reliable)).trans ?_
  split at h
  · cases h
    exact .refl
  · cases h
    exact .refl
  · split at h
    · exact failTerminal_works (Except.ok.inj h)
    · exact finishDataFailure_works h

theorem failActive_works {error : ReliableIoError}
    (h : d.failActive t e error = .ok (step, d', e')) : Works (d.parts e) (d'.parts e') := by
  unfold failActive at h
  split at h
  · exact failTerminal_works (Except.ok.inj h)
  · split at h
    · exact finishDataFailure_works h
    · exact finishDataFailure_works h
    · exact failTerminal_works (Except.ok.inj h)

theorem pollReliableOutbound_works (h : d.pollReliableOutbound t e = .ok (step, d', e')) :
    Works (d.parts e) (d'.parts e') := by
  simp only [pollReliableOutbound, Checked.bind_eq_ok] at h
  obtain ⟨⟨res, reliable, e₁, fc⟩, hpoll, h⟩ := h
  refine (ReliableConnectionIo.pollOutboundBinding_works hpoll).trans ?_
  split at h
  · cases h
    exact .refl
  · cases h
    exact .refl
  · exact failActive_works h

theorem pollReliableInbound_works (h : d.pollReliableInbound t e = .ok (step, d', e')) :
    Works (d.parts e) (d'.parts e') := by
  simp only [pollReliableInbound, Checked.bind_eq_ok] at h
  obtain ⟨⟨res, reliable, e₁, fc⟩, hpoll, h⟩ := h
  refine (ReliableConnectionIo.pollInboundBinding_works hpoll).trans ?_
  split at h
  · cases h
    exact .refl
  · cases h
    exact .refl
  · exact failActive_works h

theorem driveDatagramOutbound_works (h : d.driveDatagramOutbound t e = .ok (step, d', e')) :
    Works (d.parts e) (d'.parts e') := by
  simp only [driveDatagramOutbound, Checked.bind_eq_ok] at h
  obtain ⟨⟨res, datagram, e₁⟩, hdrive, h⟩ := h
  refine (Works.endpoint (DatagramConnectionIo.driveOutbound_quiet hdrive)).trans ?_
  split at h
  · cases h
    exact .refl
  · cases h
    exact .refl
  · exact (finishDataFailure_works h :)
  · exact (failTerminal_works (Except.ok.inj h) :)

theorem pollDatagramInbound_works (h : d.pollDatagramInbound t e = .ok (step, d', e')) :
    Works (d.parts e) (d'.parts e') := by
  simp only [pollDatagramInbound, Checked.bind_eq_ok] at h
  obtain ⟨⟨res, datagram, e₁⟩, hpoll, h⟩ := h
  refine (Works.endpoint (DatagramConnectionIo.pollInbound_quiet hpoll)).trans ?_
  split at h
  · cases h
    exact .refl
  · cases h
    exact .refl
  · exact (finishDataFailure_works h :)
  · exact (failTerminal_works (Except.ok.inj h) :)

theorem pollCategory_works (hn : d.flowControl.Numbered) {index : Nat}
    (h : d.pollCategory t e index = .ok (step, d', e')) : Works (d.parts e) (d'.parts e') := by
  unfold pollCategory at h
  split at h
  · cases h
    rw [pollControlSend_parts rfl]
    exact .refl
  · split at h
    · cases h
      exact .refl
    · exact pollControlReceive_works hn h
  · split at h
    · cases h
      exact .refl
    · split at h
      · exact pollReliableOutboundAcquisition_works h
      · exact pollReliableInboundAcquisition_works h
      · exact pollReliableOutbound_works h
      · exact pollReliableInbound_works h
      · exact driveDatagramOutbound_works h
      · exact pollDatagramInbound_works h
      · cases h

theorem pollFrom_works {next : Nat} {indices : List Nat}
    {r : Polled (Except ConnectionDriverError EstablishedConnectionProgress)}
    (hn : d.flowControl.Numbered) (h : pollFrom t next indices d e = .ok (r, d', e')) :
    Works (d.parts e) (d'.parts e') := by
  induction indices generalizing d e with
  | nil =>
    cases h
    exact .refl
  | cons index rest ih =>
    simp only [pollFrom, Checked.bind_eq_ok] at h
    obtain ⟨⟨step, d₁, e₁⟩, hcategory, h⟩ := h
    have hworks := pollCategory_works hn hcategory
    refine hworks.trans ?_
    cases step with
    | none => exact ih (hworks.numbered hn) h
    | progress =>
      cases h
      exact .refl
    | error =>
      cases h
      exact .refl

theorem pollStep_works {r : Polled (Except ConnectionDriverError EstablishedConnectionProgress)}
    (hn : d.flowControl.Numbered) (h : d.pollStep t e = .ok (r, d', e')) :
    Works (d.parts e) (d'.parts e') := by
  unfold pollStep at h
  split at h
  · cases h
    exact .refl
  · split at h
    · simp only [Checked.bind_eq_ok] at h
      obtain ⟨⟨step, d₁, e₁⟩, hreceive, h⟩ := h
      have hworks := pollControlReceive_works hn hreceive
      refine hworks.trans ?_
      cases step with
      | none => exact pollFrom_works (hworks.numbered hn) h
      | progress =>
        cases h
        exact .refl
      | error =>
        cases h
        exact .refl
    · exact pollFrom_works hn h

/-! ### Commands of the host -/

theorem openOutbound_works {maxDatagramSize : Option Nat} {request : OutboundOpenRequest}
    {r : Except ConnectionDriverError Unit}
    (h : d.openOutbound alloc maxDatagramSize e request = .ok (r, d')) :
    Works (d.parts e) (d'.parts e) := by
  unfold openOutbound at h
  split at h
  · cases h
    exact .refl
  · simp only [FlowDriver.prepareOutboundOpen, Checked.bind_eq_ok] at h
    obtain ⟨_, ⟨⟨res, fc⟩, hprepare, hpair⟩, h⟩ := h
    cases hpair
    refine (FlowControl.prepareOutboundOpen_works hprepare).trans ?_
    split at h
    · cases h
      split
      · rw [enterTerminal_parts]
        exact .refl
      · exact .refl
    · rw [startPreparedSend_parts (Except.ok.inj h)]
      exact .refl

theorem startDecision_works {fc : FlowControl} {e₁ : DeliveryEndpoint}
    {decided : Except InboundAdmissionError PendingFlowControlSend}
    {r : Except InboundDecisionDriverError Unit}
    (hworks : Works (d.parts e) ⟨fc, d.reliable, e₁⟩)
    (h : d.startDecision (decided, fc, e₁) = (r, d', e')) : Works (d.parts e) (d'.parts e') := by
  refine hworks.trans ?_
  unfold startDecision at h
  simp only at h
  split at h
  · cases h
    split
    · rw [enterTerminal_parts]
      exact .refl
    · exact .refl
  · cases h
    rw [startPreparedSend_parts Prod.mk.eta.symm]
    exact .refl

theorem acceptInbound_works {request : InboundOpenRequest} {admission : InboundAdmission}
    {r : Except InboundDecisionDriverError Unit}
    (h : d.acceptInbound alloc e request admission = .ok (r, d', e')) :
    Works (d.parts e) (d'.parts e') := by
  unfold acceptInbound at h
  split at h
  · cases h
    exact .refl
  · simp only [Checked.bind_eq_ok] at h
    obtain ⟨⟨res, fc, e₁⟩, haccept, h⟩ := h
    exact startDecision_works (FlowDriver.acceptInbound_works haccept) (Except.ok.inj h)

theorem rejectInbound_works {request : InboundOpenRequest} {reason : FlowRejectReason}
    {r : Except InboundDecisionDriverError Unit}
    (h : d.rejectInbound alloc e request reason = .ok (r, d', e')) :
    Works (d.parts e) (d'.parts e') := by
  unfold rejectInbound at h
  split at h
  · cases h
    exact .refl
  · simp only [Checked.bind_eq_ok] at h
    obtain ⟨⟨res, fc, e₁⟩, hreject, h⟩ := h
    exact startDecision_works (FlowDriver.rejectInbound_works hreject) (Except.ok.inj h)

theorem requestOutboundFinishNormal_works {finished : Except IoFailure Unit} {flowId : FlowId}
    {r : Except ConnectionDriverError OutboundFinishOutcome}
    (h : d.requestOutboundFinishNormal alloc finished e flowId = .ok (r, d', e')) :
    Works (d.parts e) (d'.parts e') := by
  unfold requestOutboundFinishNormal at h
  split at h
  · cases h
    exact .refl
  · simp only [Checked.bind_eq_ok] at h
    obtain ⟨⟨res, reliable⟩, hfinish, h⟩ := h
    refine (Works.keeps
      (ReliableConnectionIo.requestOutboundFinishNormal_keeps hfinish)).trans ?_
    split at h
    · cases h
      exact .refl
    · split at h
      · cases h
        exact .refl
      · cases h
        exact .refl
      · split at h
        · cases h
          exact .refl
        · simp only [Checked.bind_eq_ok] at h
          obtain ⟨⟨applied, d₁, e₁⟩, happly, h⟩ := h
          cases h
          exact (applyDataFailure_works happly :)
      · cases h
        rw [enterTerminal_parts]
        exact .refl

theorem requestOutboundFinishNormalByKey_works {finished : Except IoFailure Unit}
    {key : DeliveryFlowKey} {mode : DeliveryMode}
    {r : Except KeyedFinishError OutboundFinishOutcome}
    (h : d.requestOutboundFinishNormalByKey alloc finished e key mode = .ok (r, d', e')) :
    Works (d.parts e) (d'.parts e') := by
  unfold requestOutboundFinishNormalByKey at h
  split at h
  · cases h
    exact .refl
  · split at h
    · split at h
      · cases h
        exact .refl
      · simp only [Checked.bind_eq_ok] at h
        obtain ⟨⟨res, d₁, e₁⟩, hfinish, h⟩ := h
        cases h
        exact requestOutboundFinishNormal_works hfinish
    -- the unreliable modes end the flow at once
    all_goals
      split at h
      · cases h
        exact .refl
      · simp only [Checked.bind_eq_ok] at h
        obtain ⟨⟨res, fc, e₁⟩, hend, h⟩ := h
        refine (FlowDriver.terminateLocal_works hend).trans ?_
        split at h
        · cases h
          exact .refl
        · cases h
          rw [startPreparedSend_parts Prod.mk.eta.symm]
          exact .refl

/-! ### Submissions -/

theorem submitDatagram_hands {maxDatagramSize : Option Nat} {registry : AcceptedFlowRegistry}
    {flowId : FlowId} {flow : RegisteredFlow} {payload : List UInt8}
    {r : Except DatagramSubmitError DatagramSubmissionOutcome}
    (hf : registry.registeredFlow flowId = some flow)
    (h : submitDatagram maxDatagramSize e registry flowId payload = .ok (r, e')) :
    e.Hands flow.key payload (∃ index drops, r = .ok (.accepted index drops)) e' := by
  have candidate : ∀ {candidate : Option Nat},
      submitCandidate maxDatagramSize e flowId flow candidate payload = .ok (r, e') →
      e.Hands flow.key payload (∃ index drops, r = .ok (.accepted index drops)) e' := by
    intro candidate h
    unfold submitCandidate at h
    split at h
    · cases h
      exact .inl ⟨nofun, rfl⟩
    · split at h
      · cases h
        exact .inl ⟨nofun, rfl⟩
      · split at h
        · cases h
          exact .inl ⟨nofun, rfl⟩
        · simp only [Checked.bind_eq_ok] at h
          obtain ⟨⟨res, e₁⟩, hsubmit, h⟩ := h
          cases h
          refine .inr ⟨res, hsubmit, ?_⟩
          rintro ⟨index, drops, haccepted⟩
          cases res with
          | error err => cases haccepted
          | ok outcome =>
            cases outcome with
            | accepted => exact ⟨_, _, rfl⟩
            | _ => cases haccepted
  unfold submitDatagram at h
  split at h
  · cases h
    exact .inl ⟨nofun, rfl⟩
  · rename_i flow' hregistered
    have hflow : flow' = flow := by
      unfold registeredOutboundUnreliable at hregistered
      rw [hf] at hregistered
      simp only at hregistered
      repeat' split at hregistered
      all_goals cases hregistered
      rfl
    subst hflow
    split at h
    · cases h
      exact .inl ⟨nofun, rfl⟩
    · split at h
      · cases h
        exact .inl ⟨nofun, rfl⟩
      · exact candidate h
      · split at h
        · cases h
          exact .inl ⟨nofun, rfl⟩
        · cases h
          exact .inl ⟨nofun, rfl⟩
        · exact candidate h

/-- The host is told that a message was accepted. -/
def DatagramSubmitOutcome.Accepted (r : DatagramSubmitOutcome) : Prop :=
  ∃ index drops, r = .submitted (.accepted index drops)

theorem submitUnreliableByKey_hands {maxDatagramSize : Option Nat} {key : DeliveryFlowKey}
    {payload : List UInt8} {r : Except KeyedDatagramSubmitError DatagramSubmitOutcome}
    (h : d.submitUnreliableByKey alloc maxDatagramSize e key payload = .ok (r, d', e')) :
    ∃ e₁, e.Hands key payload (∃ outcome, r = .ok outcome ∧ outcome.Accepted) e₁ ∧
      Works (d.parts e₁) (d'.parts e') := by
  unfold submitUnreliableByKey at h
  split at h
  · cases h
    exact ⟨e, .inl ⟨nofun, rfl⟩, .refl⟩
  · rename_i flowId hflowId
    simp only [Checked.bind_eq_ok] at h
    obtain ⟨⟨res, d₁, e₂⟩, hsubmit, h⟩ := h
    cases h
    have hregistered := List.find?_some hflowId
    rw [Option.any_eq_true] at hregistered
    obtain ⟨flow, hf, hkey⟩ := hregistered
    have hkey : flow.key = key := by
      simp only [Bool.and_eq_true, decide_eq_true_eq] at hkey
      exact hkey.1
    unfold submitUnreliable at hsubmit
    split at hsubmit
    · cases hsubmit
      exact ⟨e, .inl ⟨nofun, rfl⟩, .refl⟩
    · simp only [Checked.bind_eq_ok] at hsubmit
      obtain ⟨⟨res', e₁⟩, hdatagram, hsubmit⟩ := hsubmit
      have hhands := submitDatagram_hands hf hdatagram
      rw [hkey] at hhands
      refine ⟨e₁, ?_⟩
      cases res' with
      | ok outcome =>
        simp only at hsubmit
        split at hsubmit
        · cases hsubmit
          refine ⟨hhands.imp nofun, ?_⟩
          rw [enterTerminal_parts]
          exact .refl
        · cases hsubmit
          refine ⟨hhands.imp ?_, .refl⟩
          rintro ⟨outcome, houtcome, index, drops, rfl⟩
          cases houtcome
          exact ⟨index, drops, rfl⟩
      | error err =>
        simp only at hsubmit
        split at hsubmit
        · simp only [Checked.bind_eq_ok] at hsubmit
          obtain ⟨⟨applied, d₂, e₃⟩, happly, hsubmit⟩ := hsubmit
          cases hsubmit
          refine ⟨hhands.imp ?_, applyDataFailure_works happly⟩
          rintro ⟨outcome, houtcome, index, drops, rfl⟩
          cases applied <;> cases houtcome
        · cases hsubmit
          refine ⟨hhands.imp nofun, ?_⟩
          split
          · rw [enterTerminal_parts]
            exact .refl
          · exact .refl

end EstablishedConnectionDriver

/-! ### The connection of the host -/

/-- The driver of the connection, also where the connection ended. -/
def ConnectionState.driver : ConnectionState → EstablishedConnectionDriver
  | .established driver | .establishedPeerClosed driver _ | .establishedFailed driver _ _ => driver

namespace Connection

variable {c c' : Connection} {e e' : DeliveryEndpoint} {driver : EstablishedConnectionDriver}

abbrev parts (c : Connection) (e : DeliveryEndpoint) : ConnectionParts := c.state.driver.parts e

theorem driver_of_some (h : c.driver? = some driver) : c.state.driver = driver := by
  unfold driver? at h
  split at h
  · rename_i hstate
    cases h
    rw [hstate]
    rfl
  · cases h
  · cases h

theorem failStep_driver {close : Bool} {error : ConnectionDriverError} :
    (c.failStep driver close error).2.state.driver = driver := by
  unfold failStep
  split
  · split
    · rfl
    · rfl
  · simp only
    split
    · rfl
    · rfl

theorem pollRound_works {t : Transport} {round : Round}
    (hn : c.state.driver.flowControl.Numbered) (h : c.pollRound t e = .ok (round, c', e')) :
    Works (c.parts e) (c'.parts e') := by
  unfold pollRound at h
  split at h
  · rename_i driver hstate
    rw [parts, hstate]
    rw [hstate] at hn
    simp only [Checked.bind_eq_ok] at h
    obtain ⟨⟨res, driver', e₁⟩, hpoll, h⟩ := h
    refine (EstablishedConnectionDriver.pollStep_works hn hpoll).trans ?_
    simp only at h
    split at h
    · cases h
      exact .refl
    · split at h
      · cases h
        exact .refl
      · cases h
        exact .refl
      · cases h
        exact .refl
    · cases h
      rw [parts, failStep_driver]
      exact .refl
  · rename_i driver closePending hstate
    split at h
    · cases h
      rw [parts, hstate]
      exact .refl
    · cases h
      exact .refl
  · rename_i driver kind pendingError hstate
    split at h
    · cases h
      rw [parts, hstate]
      exact .refl
    · cases h
      exact .refl

theorem pollRounds_works {rounds : Nat} {t : Nat → Transport}
    {r : Polled (Except ConnectionErrorKind ConnectionEvent)}
    (hn : c.state.driver.flowControl.Numbered)
    (h : pollRounds rounds t c e = .ok (r, c', e')) : Works (c.parts e) (c'.parts e') := by
  induction rounds generalizing t c e with
  | zero =>
    cases h
    exact .refl
  | succ rounds ih =>
    simp only [pollRounds, Checked.bind_eq_ok] at h
    obtain ⟨⟨round, c₁, e₁⟩, hround, h⟩ := h
    have hworks := pollRound_works hn hround
    refine hworks.trans ?_
    cases round with
    | again => exact ih (hworks.numbered hn) h
    | pending =>
      cases h
      exact .refl
    | ready =>
      cases h
      exact .refl

theorem openOutboundFlow_works {t : CommandTransport} {config : OutboundFlowConfig}
    {r : Except FlowCommandError Unit} (h : c.openOutboundFlow t e config = .ok (r, c')) :
    Works (c.parts e) (c'.parts e) := by
  unfold openOutboundFlow at h
  split at h
  · cases h
    exact .refl
  · rename_i driver hdriver
    simp only [Checked.bind_eq_ok] at h
    obtain ⟨⟨res, driver'⟩, hopen, h⟩ := h
    cases h
    rw [parts, driver_of_some hdriver]
    exact EstablishedConnectionDriver.openOutbound_works hopen

theorem acceptIncomingFlow_works {t : CommandTransport} {request : IncomingFlowRequest}
    {config : InboundFlowConfig} {r : Except IncomingFlowDecisionError Unit}
    (h : c.acceptIncomingFlow t e request config = .ok (r, c', e')) :
    Works (c.parts e) (c'.parts e') := by
  unfold acceptIncomingFlow at h
  split at h
  · cases h
    exact .refl
  · split at h
    · cases h
      exact .refl
    · split at h
      · cases h
        exact .refl
      · split at h
        · cases h
          exact .refl
        · rename_i driver hdriver
          simp only [Checked.bind_eq_ok] at h
          obtain ⟨⟨res, driver', e₁⟩, haccept, h⟩ := h
          cases h
          rw [parts, driver_of_some hdriver]
          exact EstablishedConnectionDriver.acceptInbound_works haccept

theorem rejectIncomingFlow_works {t : CommandTransport} {request : IncomingFlowRequest}
    {reason : FlowRejectReason} {r : Except IncomingFlowDecisionError Unit}
    (h : c.rejectIncomingFlow t e request reason = .ok (r, c', e')) :
    Works (c.parts e) (c'.parts e') := by
  unfold rejectIncomingFlow at h
  split at h
  · cases h
    exact .refl
  · split at h
    · cases h
      exact .refl
    · rename_i driver hdriver
      simp only [Checked.bind_eq_ok] at h
      obtain ⟨⟨res, driver', e₁⟩, hreject, h⟩ := h
      cases h
      rw [parts, driver_of_some hdriver]
      exact EstablishedConnectionDriver.rejectInbound_works hreject

theorem finishOutboundFlowNormal_works {t : CommandTransport} {key : DeliveryFlowKey}
    {r : Except FlowCommandError Unit}
    (h : c.finishOutboundFlowNormal t e key = .ok (r, c', e')) :
    Works (c.parts e) (c'.parts e') := by
  unfold finishOutboundFlowNormal at h
  split at h
  · cases h
    exact .refl
  · split at h
    · cases h
      exact .refl
    · split at h
      · cases h
        exact .refl
      · rename_i driver hdriver
        split at h
        · cases h
          exact .refl
        · simp only [Checked.bind_eq_ok] at h
          obtain ⟨⟨res, driver', e₁⟩, hfinish, h⟩ := h
          cases h
          rw [parts, driver_of_some hdriver]
          exact EstablishedConnectionDriver.requestOutboundFinishNormalByKey_works hfinish

/-- The host is told that a message was accepted. -/
def tellsAccepted : Except SubmissionError SubmitOutcome → Bool
  | .ok (.accepted _ _) => true
  | _ => false

theorem submit_hands {t : CommandTransport} {key : DeliveryFlowKey} {payload : List UInt8}
    {r : Except SubmissionError SubmitOutcome}
    (h : c.submit t e key payload = .ok (r, c', e')) :
    ∃ e₁, e.Hands key payload (tellsAccepted r) e₁ ∧ Works (c.parts e₁) (c'.parts e') := by
  unfold submit at h
  split at h
  · cases h
    exact ⟨e, .inl ⟨nofun, rfl⟩, .refl⟩
  · split at h
    · cases h
      exact ⟨e, .inl ⟨nofun, rfl⟩, .refl⟩
    · split at h
      · cases h
        exact ⟨e, .inl ⟨nofun, rfl⟩, .refl⟩
      · rename_i driver hdriver
        split at h
        · cases h
          exact ⟨e, .inl ⟨nofun, rfl⟩, .refl⟩
        · split at h
          · cases h
            exact ⟨e, .inl ⟨nofun, rfl⟩, .refl⟩
          · simp only [Checked.bind_eq_ok] at h
            obtain ⟨⟨res, e₁⟩, hsubmit, h⟩ := h
            cases h
            refine ⟨e₁, .inr ⟨res, hsubmit, ?_⟩, .refl⟩
            intro haccepted
            cases res with
            | error err => cases haccepted
            | ok outcome =>
              cases outcome with
              | accepted => exact ⟨_, _, rfl⟩
              | _ => cases haccepted
        · simp only [Checked.bind_eq_ok] at h
          obtain ⟨⟨res, driver', e₂⟩, hsubmit, h⟩ := h
          cases h
          obtain ⟨e₁, hhands, hworks⟩ :=
            EstablishedConnectionDriver.submitUnreliableByKey_hands hsubmit
          rw [← driver_of_some hdriver] at hworks
          refine ⟨e₁, hhands.imp ?_, hworks⟩
          intro haccepted
          cases res with
          | error err => cases haccepted
          | ok outcome =>
            refine ⟨outcome, rfl, ?_⟩
            cases outcome with
            | submitted outcome =>
              cases outcome with
              | accepted => exact ⟨_, _, rfl⟩
              | _ => cases haccepted
            | flowFailureHandled => cases haccepted

end Connection

end RunenNet
