import RunenNet.Quic.RecordedDriver
import RunenNet.Quic.IncomingDecision
import RunenNet.Foundation.Transition

/-!
# The order of control frames

The driver has one slot for a frame that is being sent. While the driver is active, the frames that
flow control made are the frames the sender is done with, in order, and then the one in the slot.
-/

namespace RunenNet

open Foundation

namespace FlowControl

variable {fc fc' : FlowControl} {alloc : Allocator} {e e' : DeliveryEndpoint} {f : FlowId}
  {body : List UInt8}

/-- The answer is not that a decision is pending. -/
def NotPending (r : Received) : Prop := ∀ f, r.1 ≠ .error (.inboundDecisionPending f)

theorem inboundRejection_decided {flowId : FlowId} {reason : FlowRejectReason} {r : Received}
    (h : fc.inboundRejection alloc e flowId reason = .ok r) : NotPending r := by
  simp only [inboundRejection, Checked.bind_eq_ok] at h
  obtain ⟨frame, -, h⟩ := h
  cases frame <;> (cases h; exact fun _ h => by cases h)

theorem outboundResourceFailure_decided {flowId : FlowId} {key : DeliveryFlowKey}
    {termination : Option FlowTermination} {r : Received}
    (h : fc.outboundResourceFailure alloc e flowId key termination = .ok r) : NotPending r := by
  simp only [outboundResourceFailure, Checked.bind_eq_ok] at h
  obtain ⟨frame, -, h⟩ := h
  cases frame <;> (cases h; exact fun _ h => by cases h)

theorem receiveOpen_decided {r : Received} (h : fc.receiveOpen alloc e body = .ok r) :
    NotPending r := by
  unfold receiveOpen at h
  split at h
  · cases h
    exact fun _ h => by cases h
  · split at h
    · cases h
      exact fun _ h => by cases h
    · simp only at h
      split at h
      · exact inboundRejection_decided h
      · split at h
        · exact inboundRejection_decided h
        · cases h
          exact fun _ h => by cases h

theorem activateOutbound_decided {flowId : FlowId} {pending : PendingOutboundFlow} {r : Received}
    (h : fc.activateOutbound alloc e flowId pending = .ok r) : NotPending r := by
  unfold activateOutbound at h
  split at h
  · cases h
    exact fun _ h => by cases h
  · simp only [Checked.bind_eq_ok] at h
    obtain ⟨⟨r₁, e₁⟩, -, h⟩ := h
    cases r₁ with
    | error =>
      cases h
      exact fun _ h => by cases h
    | ok termination =>
      simp only at h
      split at h
      · exact outboundResourceFailure_decided h
      · exact outboundResourceFailure_decided h
      · cases h
        exact fun _ h => by cases h

theorem receiveAccept_decided {r : Received} (h : fc.receiveAccept alloc e body = .ok r) :
    NotPending r := by
  unfold receiveAccept at h
  split at h
  · cases h
    exact fun _ h => by cases h
  · split at h
    · cases h
      exact fun _ h => by cases h
    · split at h
      · cases h
        exact fun _ h => by cases h
      · simp only [Checked.bind_eq_ok] at h
        obtain ⟨⟨r₁, e₁⟩, -, h⟩ := h
        split at h
        · exact activateOutbound_decided h
        · exact outboundResourceFailure_decided h
        · cases h
          exact fun _ h => by cases h

theorem receiveReject_decided : NotPending (fc.receiveReject e body) := by
  unfold receiveReject
  split
  · exact fun _ h => by cases h
  · split
    · exact fun _ h => by cases h
    · split <;> exact fun _ h => by cases h

theorem receiveTerminate_decided {r : Received} (h : fc.receiveTerminate e body = .ok r) :
    NotPending r := by
  unfold receiveTerminate at h
  split at h
  · cases h
    exact fun _ h => by cases h
  · split at h
    · cases h
      exact fun _ h => by cases h
    · split at h
      · cases h
        exact fun _ h => by cases h
      · simp only [endRegistered, Checked.bind_eq_ok] at h
        obtain ⟨_, ⟨⟨r₁, e₁⟩, -, hend⟩, h⟩ := h
        cases r₁ <;> (cases hend; cases h; exact fun _ h => by cases h)

/-- Only an open is answered with the decision that is pending. -/
theorem receive_decided {frame : ControlFrame} {r : Received}
    (h : fc.receive alloc e frame = .ok r)
    (hopen : ¬ (frame.frameType = .openFlow ∧ fc.pendingInbound.isSome)) : NotPending r := by
  unfold receive at h
  split at h
  · rename_i htype
    split at h
    · rename_i pending hpending
      exact absurd ⟨htype, by rw [hpending]; rfl⟩ hopen
    · exact receiveOpen_decided h
  · exact receiveAccept_decided h
  · cases h
    exact receiveReject_decided
  · exact receiveTerminate_decided h
  · cases h
    exact fun _ h => by cases h

end FlowControl

/-! ### The slot -/

namespace ControlEvent

def producedFrame : ControlEvent → Option PendingFlowControlSend
  | .produced pending => some pending
  | _ => none

def startedFrame : ControlEvent → Option PendingFlowControlSend
  | .started _ _ pending _ => some pending
  | _ => none

def sentFrame : ControlEvent → Option PendingFlowControlSend
  | .sent pending => some pending
  | _ => none

/-- A frame is only handed to a sender that is free, and flow control is only given an open when
no decision is pending. -/
def Permitted : ControlEvent → Prop
  | .started phase sender _ answer => phase = .active ∧ sender = .ready ∧ answer = .ok ()
  | .received frame undecided error => ¬ (frame.frameType = .openFlow ∧ undecided) ∧
    ∀ flowId, error ≠ some (.inboundDecisionPending flowId)
  | .produced _ | .sent _ => True

end ControlEvent

/-- The frame in the slot. -/
def ControlSendState.frame : ControlSendState → List PendingFlowControlSend
  | .pending send => [send]
  | .ready | .terminal => []

theorem ControlSendState.frame_length (sender : ControlSendState) : sender.frame.length ≤ 1 := by
  cases sender with
  | pending => exact Nat.le_refl 1
  | _ => exact Nat.zero_le 1

namespace EstablishedConnectionDriver

/-- A frame may be handed to the sender. -/
structure Ready (d : EstablishedConnectionDriver) : Prop where
  active : d.phase = .active
  free : d.sender = .ready

theorem requireControlSendReady_ready {d : EstablishedConnectionDriver}
    (h : d.requireControlSendReady = .ok ()) : d.Ready := by
  unfold requireControlSendReady controlOperationError at h
  cases hphase : d.phase <;> cases hsender : d.sender <;>
    simp [hphase, hsender, ControlSendState.phase] at h
  exact ⟨hphase, hsender⟩

theorem dataPollAllowed_ready {d : EstablishedConnectionDriver} (h : d.dataPollAllowed) :
    d.Ready := by
  simp only [dataPollAllowed, Bool.and_eq_true, decide_eq_true_eq] at h
  refine ⟨h.1, ?_⟩
  cases hsender : d.sender <;> simp [hsender, ControlSendState.phase] at h
  rfl

/-- The phase and the slot are as they were. -/
structure Still (d d' : EstablishedConnectionDriver) : Prop where
  phase : d'.phase = d.phase
  sender : d'.sender = d.sender

/-- What an operation of a driver that is active may do with its slot, as recorded. -/
inductive Slot (d : EstablishedConnectionDriver) :
    List ControlEvent → EstablishedConnectionDriver → Prop where
  | still {d' : EstablishedConnectionDriver} : Still d d' → Slot d [] d'
  | ended {d' : EstablishedConnectionDriver} :
    d'.phase = .terminal → d'.sender = .terminal → Slot d [] d'
  | handed {d' : EstablishedConnectionDriver} (pending : PendingFlowControlSend) : d.Ready →
    d'.phase = .active → d'.sender = .pending pending →
    Slot d [.produced pending, .started .active .ready pending (.ok ())] d'
  | sent {d' : EstablishedConnectionDriver} (pending : PendingFlowControlSend) :
    d.sender = .pending pending → d'.phase = d.phase → d'.sender = .ready →
    Slot d [.sent pending] d'
  | received {d' : EstablishedConnectionDriver} {frame : ControlFrame} {undecided : Bool}
    {error : Option FlowControlError} {events : List ControlEvent} :
    (ControlEvent.received frame undecided error).Permitted → Slot d events d' →
    Slot d (.received frame undecided error :: events) d'

variable {d d₁ d' : EstablishedConnectionDriver} {events : List ControlEvent}

theorem Still.refl : Still d d := ⟨rfl, rfl⟩

theorem Still.trans (h : Still d d₁) (h' : Still d₁ d') : Still d d' :=
  ⟨h'.phase.trans h.phase, h'.sender.trans h.sender⟩

theorem Ready.of_still (h : d.Ready) (hs : Still d d₁) : d₁.Ready :=
  ⟨hs.phase.trans h.active, hs.sender.trans h.free⟩

/-- A step whose first part leaves the slot alone. -/
theorem Slot.after_still (h : Slot d₁ events d') (hs : Still d d₁) : Slot d events d' := by
  induction h with
  | still hstill => exact .still (hs.trans hstill)
  | ended hphase hsender => exact .ended hphase hsender
  | handed pending hready hphase hsender =>
    exact .handed pending ⟨hs.phase ▸ hready.active, hs.sender ▸ hready.free⟩ hphase hsender
  | sent pending hpending hphase hsender =>
    exact .sent pending (hs.sender ▸ hpending) (hphase.trans hs.phase) hsender
  | received hpermitted _ ih => exact .received hpermitted ih

/-- A step whose last part leaves the slot alone. -/
theorem Slot.then_still (h : Slot d events d₁) (hs : Still d₁ d') : Slot d events d' := by
  induction h with
  | still hstill => exact .still (hstill.trans hs)
  | ended hphase hsender => exact .ended (hs.phase.trans hphase) (hs.sender.trans hsender)
  | handed pending hready hphase hsender =>
    exact .handed pending hready (hs.phase.trans hphase) (hs.sender.trans hsender)
  | sent pending hpending hphase hsender =>
    exact .sent pending hpending (hs.phase.trans hphase) (hs.sender.trans hsender)
  | received hpermitted _ ih => exact .received hpermitted (ih hs)

/-! What the recorded events of one operation come to. -/

theorem Slot.permitted (h : Slot d events d') : ∀ event ∈ events, event.Permitted := by
  induction h with
  | still => exact fun event hevent => by cases hevent
  | ended => exact fun event hevent => by cases hevent
  | handed pending =>
    intro event hevent
    simp only [List.mem_cons, List.not_mem_nil, or_false] at hevent
    rcases hevent with rfl | rfl
    · trivial
    · exact ⟨rfl, rfl, rfl⟩
  | sent pending =>
    intro event hevent
    rw [List.mem_singleton.mp hevent]
    trivial
  | received hpermitted _ ih =>
    intro event hevent
    rcases List.mem_cons.mp hevent with rfl | hevent
    · exact hpermitted
    · exact ih event hevent

theorem Slot.started (h : Slot d events d') :
    events.filterMap ControlEvent.startedFrame = events.filterMap ControlEvent.producedFrame := by
  induction h with
  | received _ _ ih => exact ih
  | _ => rfl

theorem Slot.produced_length (h : Slot d events d') :
    (events.filterMap ControlEvent.producedFrame).length ≤ 1 := by
  induction h with
  | received _ _ ih => exact ih
  | handed => exact Nat.le_refl 1
  | _ => exact Nat.zero_le 1

/-- A frame that was in the slot or is made is sent, or it is the one left in the slot. -/
theorem Slot.frames (h : Slot d events d') : ∃ dropped,
    d.sender.frame ++ events.filterMap ControlEvent.producedFrame =
      events.filterMap ControlEvent.sentFrame ++ dropped ∧
    dropped.length ≤ 1 ∧ (d'.phase = .active → dropped = d'.sender.frame) := by
  induction h with
  | @still d' hs =>
    refine ⟨d.sender.frame, List.append_nil _, ControlSendState.frame_length _, fun _ => ?_⟩
    rw [hs.sender]
  | ended hphase =>
    refine ⟨d.sender.frame, List.append_nil _, ControlSendState.frame_length _, fun ha => ?_⟩
    rw [hphase] at ha
    cases ha
  | handed pending hready _ hsender =>
    refine ⟨[pending], ?_, Nat.le_refl 1, fun _ => ?_⟩
    · rw [hready.free]
      rfl
    · rw [hsender]
      rfl
  | sent pending hpending _ hsender =>
    refine ⟨[], ?_, Nat.zero_le 1, fun _ => ?_⟩
    · rw [hpending]
      rfl
    · rw [hsender]
      rfl
  | received _ _ ih => exact ih

theorem Slot.active (h : Slot d events d') (ha : d'.phase = .active) : d.phase = .active := by
  induction h with
  | still hs => exact hs.phase.symm.trans ha
  | ended hphase =>
    rw [hphase] at ha
    cases ha
  | handed _ hready => exact hready.active
  | sent _ _ hphase => exact hphase.symm.trans ha
  | received _ _ ih => exact ih ha

/-- A driver that stopped makes no frame and sends none. -/
theorem Slot.stopped (h : Slot d events d') (hd : d.sender = .terminal) :
    d'.sender = .terminal ∧ events.filterMap ControlEvent.producedFrame = [] ∧
      events.filterMap ControlEvent.sentFrame = [] := by
  induction h with
  | still hs => exact ⟨hs.sender.trans hd, rfl, rfl⟩
  | ended _ hsender => exact ⟨hsender, rfl, rfl⟩
  | handed _ hready =>
    rw [hready.free] at hd
    cases hd
  | sent _ hpending =>
    rw [hpending] at hd
    cases hd
  | received _ _ ih => exact ih

/-- A driver that stops empties its slot. -/
theorem Slot.stops (h : Slot d events d') (ha : d.phase = .active) (ht : d'.phase = .terminal) :
    d'.sender = .terminal := by
  induction h with
  | still hs =>
    rw [hs.phase, ha] at ht
    cases ht
  | ended _ hsender => exact hsender
  | handed _ _ hphase =>
    rw [hphase] at ht
    cases ht
  | sent _ _ hphase =>
    rw [hphase, ha] at ht
    cases ht
  | received _ _ ih => exact ih ht

theorem Slot.enterTerminal (ha : d.phase = .active) : Slot d [] d.enterTerminal := by
  unfold EstablishedConnectionDriver.enterTerminal
  rw [ha]
  exact .ended rfl rfl

end EstablishedConnectionDriver

/-! ### The operations -/

namespace RecordedDriver

open EstablishedConnectionDriver (Ready Still Slot Stepped PolledDriver DecidedDriver Finished
  KeyedFinished DatagramSubmitOutcome DatagramSubmitDriverError KeyedDatagramSubmitError)

variable {d d' : EstablishedConnectionDriver} {t : DriverTransport} {alloc : Allocator}
  {e e' : DeliveryEndpoint} {events : List ControlEvent}

theorem progress_ne (progress : EstablishedConnectionProgress) :
    DriverStep.progress progress ≠ .none := fun h => by cases h

theorem error_ne (error : ConnectionDriverError) : DriverStep.error error ≠ .none :=
  fun h => by cases h

/-- A step that has progress or fails. -/
structure Acted (d : EstablishedConnectionDriver) (step : DriverStep) (events : List ControlEvent)
    (d' : EstablishedConnectionDriver) : Prop where
  busy : step ≠ .none
  slot : Slot d events d'

/-- What a step of an active driver does with the slot: an idle step leaves it alone. -/
inductive Moved (d : EstablishedConnectionDriver) : DriverStep → List ControlEvent →
    EstablishedConnectionDriver → Prop where
  | idle {d' : EstablishedConnectionDriver} : Still d d' → Moved d .none [] d'
  | acted {step : DriverStep} {events : List ControlEvent} {d' : EstablishedConnectionDriver} :
    Acted d step events d' → Moved d step events d'

theorem Acted.after_still {step : DriverStep} {d₁ : EstablishedConnectionDriver}
    (h : Acted d₁ step events d') (hs : Still d d₁) : Acted d step events d' :=
  ⟨h.busy, h.slot.after_still hs⟩

theorem Moved.slot {step : DriverStep} (h : Moved d step events d') : Slot d events d' := by
  cases h with
  | idle hs => exact .still hs
  | acted h => exact h.slot

theorem making_run {α : Type} {call : Checked α} {made : α → Option PendingFlowControlSend}
    {answer : α} (h : (making call made).run = .ok (answer, events)) :
    call = .ok answer ∧ events = (made answer).toList.map .produced := by
  simp only [making, Recorded.bind_eq_ok, Recorded.lift_eq_ok, Recorded.pure_eq_ok] at h
  obtain ⟨_, _, _, ⟨hcall, rfl⟩, ⟨_, _, _, hmade, ⟨rfl, rfl⟩, rfl⟩, rfl⟩ := h
  refine ⟨hcall, ?_⟩
  cases hpending : made answer with
  | none =>
    rw [hpending] at hmade
    cases hmade
    rfl
  | some pending =>
    rw [hpending] at hmade
    cases hmade
    rfl

/-- Handing a frame to a free sender succeeds. -/
theorem startPreparedSend_run (hd : d.Ready) {pending : PendingFlowControlSend}
    {r : Except ConnectionDriverError Unit}
    (h : (startPreparedSend d pending).run = .ok ((r, d'), events)) :
    r = .ok () ∧ events = [.started .active .ready pending (.ok ())] ∧
      d' = { d with sender := .pending pending } := by
  have hstart : d.startControlSend pending = (.ok (), { d with sender := .pending pending }) := by
    unfold EstablishedConnectionDriver.startControlSend
    rw [hd.active, hd.free]
    rfl
  have hprepared : d.startPreparedSend pending =
      (.ok (), { d with sender := .pending pending }) := by
    unfold EstablishedConnectionDriver.startPreparedSend
    rw [hstart]
  simp only [startPreparedSend, Recorded.bind_eq_ok, Recorded.note_eq_ok, Recorded.pure_eq_ok,
    hstart, hprepared] at h
  obtain ⟨_, _, _, rfl, ⟨hanswer, rfl⟩, rfl⟩ := h
  cases hanswer
  refine ⟨rfl, ?_, rfl⟩
  rw [hd.active, hd.free]
  rfl

theorem pollControlSend_moved {step : DriverStep} (ha : d.phase = .active)
    (h : (pollControlSend d t).run = .ok ((step, d'), events)) : Moved d step events d' := by
  unfold pollControlSend at h
  cases hsender : d.sender with
  | pending send =>
    rw [hsender] at h
    cases hanswer : t.controlSend with
    | none =>
      rw [hanswer] at h
      simp only [EstablishedConnectionDriver.pollControlSend, hsender, hanswer,
        Recorded.pure_eq_ok] at h
      obtain ⟨heq, rfl⟩ := h
      cases heq
      exact .idle .refl
    | some answer =>
      rw [hanswer] at h
      cases answer with
      | error err =>
        simp only [EstablishedConnectionDriver.pollControlSend, hsender, hanswer,
          Recorded.pure_eq_ok] at h
        obtain ⟨heq, rfl⟩ := h
        cases heq
        exact .acted ⟨error_ne _, .enterTerminal ha⟩
      | ok =>
        simp only [EstablishedConnectionDriver.pollControlSend, hsender, hanswer,
          Recorded.bind_eq_ok, Recorded.note_eq_ok, Recorded.pure_eq_ok] at h
        obtain ⟨_, _, _, rfl, ⟨heq, rfl⟩, rfl⟩ := h
        cases heq
        exact .acted ⟨progress_ne _, .sent send hsender rfl rfl⟩
  | _ =>
    rw [hsender] at h
    simp only [EstablishedConnectionDriver.pollControlSend, hsender, Recorded.pure_eq_ok] at h
    obtain ⟨heq, rfl⟩ := h
    cases heq
    exact .idle .refl

/-! ### Failures of the data path -/

theorem prepareFailure_slot (hd : d.Ready) {disposition : EstablishedDataFailureDisposition}
    {terminalError : ConnectionDriverError} {flowId : FlowId}
    {r : Except ConnectionDriverError FlowId}
    (h : (prepareFailure d alloc e disposition terminalError flowId).run =
      .ok ((r, d', e'), events)) : Slot d events d' := by
  simp only [prepareFailure, Recorded.bind_eq_ok] at h
  obtain ⟨⟨made, fc, e₁⟩, before, after, hmade, h, rfl⟩ := h
  obtain ⟨-, rfl⟩ := making_run hmade
  have hd₁ : Ready { d with flowControl := fc } := ⟨hd.active, hd.free⟩
  cases made with
  | error =>
    obtain ⟨heq, rfl⟩ := Recorded.pure_eq_ok.mp h
    cases heq
    exact (Slot.enterTerminal hd₁.active).after_still ⟨rfl, rfl⟩
  | ok progress =>
    cases progress with
    | pendingSend pending =>
      simp only [Recorded.bind_eq_ok] at h
      obtain ⟨⟨started, d₁⟩, _, _, hstart, h, rfl⟩ := h
      obtain ⟨rfl, rfl, rfl⟩ := startPreparedSend_run hd₁ hstart
      obtain ⟨heq, rfl⟩ := Recorded.pure_eq_ok.mp h
      cases heq
      exact .handed pending hd hd.active rfl
    | cleanupOnly cleaned =>
      simp only [Recorded.bind_eq_ok, Recorded.lift_eq_ok] at h
      obtain ⟨_, _, _, ⟨-, rfl⟩, h, rfl⟩ := h
      obtain ⟨heq, rfl⟩ := Recorded.pure_eq_ok.mp h
      cases heq
      exact .still ⟨rfl, rfl⟩
    | connectionTerminal =>
      obtain ⟨heq, rfl⟩ := Recorded.pure_eq_ok.mp h
      cases heq
      exact (Slot.enterTerminal hd₁.active).after_still ⟨rfl, rfl⟩

theorem applyDataFailure_slot (hd : d.Ready) {disposition : EstablishedDataFailureDisposition}
    {terminalError : ConnectionDriverError} {r : Except ConnectionDriverError FlowId}
    (h : (applyDataFailure d alloc e disposition terminalError).run =
      .ok ((r, d', e'), events)) : Slot d events d' := by
  cases disposition with
  | connectionTerminal =>
    obtain ⟨heq, rfl⟩ := Recorded.pure_eq_ok.mp h
    cases heq
    exact .enterTerminal hd.active
  | _ => exact prepareFailure_slot hd h

theorem finishDataFailure_acted (hd : d.Ready) {disposition : EstablishedDataFailureDisposition}
    {terminalError : ConnectionDriverError} {step : DriverStep}
    (h : (finishDataFailure d alloc e disposition terminalError).run =
      .ok ((step, d', e'), events)) : Acted d step events d' := by
  simp only [finishDataFailure, Recorded.bind_eq_ok] at h
  obtain ⟨⟨r, d₁, e₁⟩, before, after, happly, h, rfl⟩ := h
  have hslot := applyDataFailure_slot hd happly
  cases r with
  | ok =>
    obtain ⟨heq, rfl⟩ := Recorded.pure_eq_ok.mp h
    cases heq
    rw [List.append_nil]
    exact ⟨progress_ne _, hslot⟩
  | error =>
    obtain ⟨heq, rfl⟩ := Recorded.pure_eq_ok.mp h
    cases heq
    rw [List.append_nil]
    exact ⟨error_ne _, hslot⟩

theorem failTerminal_acted {d₁ : EstablishedConnectionDriver} (ha : d.phase = .active)
    (hs : Still d d₁) {error : ConnectionDriverError} {step : DriverStep}
    (h : (pure (d₁.failTerminal e error) : Recorded ControlEvent Stepped).run =
      .ok ((step, d', e'), events)) : Acted d step events d' := by
  obtain ⟨heq, rfl⟩ := Recorded.pure_eq_ok.mp h
  cases heq
  exact ⟨error_ne _, (Slot.enterTerminal (hs.phase.trans ha)).after_still hs⟩

/-- A step that only answers. -/
theorem answer_acted {step step' : DriverStep} {d₁ : EstablishedConnectionDriver}
    (h : (pure (step', d₁, e) : Recorded ControlEvent Stepped).run = .ok ((step, d', e'), events))
    (hs : Still d d₁) (hstep : step' ≠ .none) : Acted d step events d' := by
  obtain ⟨heq, rfl⟩ := Recorded.pure_eq_ok.mp h
  cases heq
  exact ⟨hstep, .still hs⟩

theorem idle_moved {step : DriverStep} {d₁ : EstablishedConnectionDriver}
    (h : (pure (.none, d₁, e) : Recorded ControlEvent Stepped).run = .ok ((step, d', e'), events))
    (hs : Still d d₁) : Moved d step events d' := by
  obtain ⟨heq, rfl⟩ := Recorded.pure_eq_ok.mp h
  cases heq
  exact .idle hs

/-! ### Receiving -/

theorem routeOutboundEstablished_acted (hd : d.Ready) {flow : EstablishedFlow} {step : DriverStep}
    (h : (routeOutboundEstablished d t e flow).run = .ok ((step, d', e'), events)) :
    Acted d step events d' := by
  unfold routeOutboundEstablished at h
  split at h
  · simp only [Recorded.bind_eq_ok, Recorded.lift_eq_ok] at h
    obtain ⟨⟨r, reliable⟩, _, _, ⟨-, rfl⟩, h, rfl⟩ := h
    have hs : Still d { d with reliable := reliable } := ⟨rfl, rfl⟩
    split at h
    · exact answer_acted h hs (progress_ne _)
    · exact (finishDataFailure_acted (hd.of_still hs) h).after_still hs
    · exact failTerminal_acted hd.active hs h
  · simp only [Recorded.bind_eq_ok, Recorded.lift_eq_ok] at h
    obtain ⟨⟨r, datagram⟩, _, _, ⟨-, rfl⟩, h, rfl⟩ := h
    have hs : Still d { d with datagram := datagram } := ⟨rfl, rfl⟩
    split at h
    · exact answer_acted h hs (progress_ne _)
    · exact (finishDataFailure_acted (hd.of_still hs) h).after_still hs
    · exact failTerminal_acted hd.active hs h

/-- What flow control makes of a received frame is recorded with the frame that answers it. -/
theorem routeFlowControlProgress_acted (hd : d.Ready) {progress : FlowControlDriverProgress}
    {step : DriverStep}
    (h : (routeFlowControlProgress d t e progress).run = .ok ((step, d', e'), events)) :
    Acted d step (progress.send.toList.map .produced ++ events) d' := by
  cases progress with
  | pendingSend pending =>
    simp only [routeFlowControlProgress, Recorded.bind_eq_ok] at h
    obtain ⟨⟨r, d₁⟩, _, _, hstart, h, rfl⟩ := h
    obtain ⟨rfl, rfl, rfl⟩ := startPreparedSend_run hd hstart
    obtain ⟨heq, rfl⟩ := Recorded.pure_eq_ok.mp h
    cases heq
    exact ⟨progress_ne _, .handed pending hd hd.active rfl⟩
  | outboundEstablished => exact routeOutboundEstablished_acted hd h
  | _ => exact answer_acted h .refl (progress_ne _)

theorem processReceived_run {fc fc' : FlowControl} {frame : ControlFrame}
    {r : Except FlowControlError FlowControlDriverProgress}
    (hopen : ¬ (frame.frameType = .openFlow ∧ fc.pendingInbound.isSome))
    (h : (processReceived fc alloc e frame).run = .ok ((r, fc', e'), events)) :
    (ControlEvent.received frame fc.pendingInbound.isSome (errorOf r)).Permitted ∧
      events = .received frame fc.pendingInbound.isSome (errorOf r) ::
        (r.toOption.bind FlowControlDriverProgress.send).toList.map .produced := by
  simp only [processReceived, Recorded.bind_eq_ok, Recorded.lift_eq_ok, Recorded.note_eq_ok,
    Recorded.pure_eq_ok] at h
  obtain ⟨_, _, _, ⟨hreceived, rfl⟩, ⟨_, _, _, rfl, hrest, rfl⟩, rfl⟩ := h
  obtain ⟨_, _, _, hmade, ⟨rfl, rfl⟩, rfl⟩ := hrest
  refine ⟨⟨hopen, fun f herror => ?_⟩, ?_⟩
  · simp only [FlowDriver.processReceived, Checked.bind_eq_ok] at hreceived
    obtain ⟨⟨answer, fc₁, e₁⟩, hanswer, heq⟩ := hreceived
    cases heq
    cases answer with
    | ok => cases herror
    | error err =>
      cases herror
      exact FlowControl.receive_decided hanswer hopen f rfl
  · cases hpending : r.toOption.bind FlowControlDriverProgress.send with
    | none =>
      simp only [hpending] at hmade
      cases hmade
      rfl
    | some pending =>
      simp only [hpending] at hmade
      cases hmade
      rfl

theorem processReceivedFrame_acted (hd : d.Ready) {frame : ControlFrame} {step : DriverStep}
    (hopen : ¬ (frame.frameType = .openFlow ∧ d.flowControl.pendingInbound.isSome))
    (h : (processReceivedFrame d t e frame).run = .ok ((step, d', e'), events)) :
    Acted d step events d' := by
  simp only [processReceivedFrame, Recorded.bind_eq_ok] at h
  obtain ⟨⟨r, fc, e₁⟩, _, _, hreceived, h, rfl⟩ := h
  obtain ⟨hpermitted, rfl⟩ := processReceived_run hopen hreceived
  cases r with
  | error err =>
    have hs : Still d { d with flowControl := fc, receiver := .terminal } := ⟨rfl, rfl⟩
    have hacted := failTerminal_acted hd.active hs h
    exact ⟨hacted.busy, .received hpermitted hacted.slot⟩
  | ok progress =>
    have hs : Still d { d with flowControl := fc, receiver := .pending } := ⟨rfl, rfl⟩
    have hacted := (routeFlowControlProgress_acted (hd.of_still hs) h).after_still hs
    exact ⟨hacted.busy, .received hpermitted hacted.slot⟩

/-- A frame that is not deferred finds the slot free, and is no open that has to wait. -/
theorem not_deferred {frame : ControlFrame} (ha : d.phase = .active)
    (h : shouldDeferReceivedFrame frame.frameType d.flowControl.pendingInbound.isSome
      d.sender.phase = false) :
    d.Ready ∧ ¬ (frame.frameType = .openFlow ∧ d.flowControl.pendingInbound.isSome) := by
  simp only [shouldDeferReceivedFrame, Bool.or_eq_false_iff, decide_eq_false_iff_not, not_not,
    Bool.and_eq_false_iff] at h
  obtain ⟨hsender, hopen⟩ := h
  refine ⟨⟨ha, ?_⟩, ?_⟩
  · cases hs : d.sender with
    | ready => rfl
    | _ =>
      rw [hs] at hsender
      cases hsender
  · rintro ⟨htype, hpending⟩
    rcases hopen with hnone | hother
    · rw [hpending] at hnone
      cases hnone
    · exact hother htype

theorem pollControlReceive_moved (ha : d.phase = .active) {step : DriverStep}
    (h : (pollControlReceive d t e).run = .ok ((step, d', e'), events)) :
    Moved d step events d' := by
  unfold pollControlReceive at h
  simp only at h
  split at h
  · exact idle_moved h .refl
  · split at h
    · exact idle_moved h .refl
    · rename_i frame hreceiver hdefers
      obtain ⟨hd, hopen⟩ := not_deferred ha (Bool.not_eq_true _ ▸ hdefers)
      have hs : Still d { d with receiver := .terminal } := ⟨rfl, rfl⟩
      exact .acted ((processReceivedFrame_acted (hd.of_still hs) hopen h).after_still hs)
  · split at h
    · exact idle_moved h .refl
    · have hs : Still d { d with receiver := .terminal } := ⟨rfl, rfl⟩
      exact .acted (failTerminal_acted ha hs h)
    · split at h
      · exact idle_moved h ⟨rfl, rfl⟩
      · rename_i frame hanswer hdefers
        obtain ⟨hd, hopen⟩ := not_deferred ha (Bool.not_eq_true _ ▸ hdefers)
        exact .acted (processReceivedFrame_acted hd hopen h)

/-! ### The data path -/

theorem pollReliableOutboundAcquisition_moved (hd : d.Ready) {step : DriverStep}
    (h : (pollReliableOutboundAcquisition d t e).run = .ok ((step, d', e'), events)) :
    Moved d step events d' := by
  simp only [pollReliableOutboundAcquisition, Recorded.bind_eq_ok, Recorded.lift_eq_ok] at h
  obtain ⟨⟨r, reliable, e₁, fc⟩, _, _, ⟨-, rfl⟩, h, rfl⟩ := h
  have hs : Still d { d with reliable := reliable, flowControl := fc } := ⟨rfl, rfl⟩
  split at h
  · exact idle_moved h hs
  · exact .acted (answer_acted h hs (progress_ne _))
  · exact .acted ((finishDataFailure_acted (hd.of_still hs) h).after_still hs)
  · exact .acted (failTerminal_acted hd.active hs h)

theorem pollReliableInboundAcquisition_moved (hd : d.Ready) {step : DriverStep}
    (h : (pollReliableInboundAcquisition d t e).run = .ok ((step, d', e'), events)) :
    Moved d step events d' := by
  unfold pollReliableInboundAcquisition at h
  generalize d.reliable.pollInboundAcquisition t.reliable = answer at h
  obtain ⟨r, reliable⟩ := answer
  have hs : Still d { d with reliable := reliable } := ⟨rfl, rfl⟩
  simp only at h
  split at h
  · exact idle_moved h hs
  · exact .acted (answer_acted h hs (progress_ne _))
  · split at h
    · exact .acted (failTerminal_acted hd.active hs h)
    · exact .acted ((finishDataFailure_acted (hd.of_still hs) h).after_still hs)

theorem failActive_acted (hd : d.Ready) {error : ReliableIoError} {step : DriverStep}
    (h : (failActive d t e error).run = .ok ((step, d', e'), events)) :
    Acted d step events d' := by
  unfold failActive at h
  split at h
  · exact failTerminal_acted hd.active .refl h
  · split at h
    · exact finishDataFailure_acted hd h
    · exact finishDataFailure_acted hd h
    · exact failTerminal_acted hd.active .refl h

theorem pollReliableOutbound_moved (hd : d.Ready) {step : DriverStep}
    (h : (pollReliableOutbound d t e).run = .ok ((step, d', e'), events)) :
    Moved d step events d' := by
  simp only [pollReliableOutbound, Recorded.bind_eq_ok, Recorded.lift_eq_ok] at h
  obtain ⟨⟨r, reliable, e₁, fc⟩, _, _, ⟨-, rfl⟩, h, rfl⟩ := h
  have hs : Still d { d with reliable := reliable, flowControl := fc } := ⟨rfl, rfl⟩
  split at h
  · exact idle_moved h hs
  · exact .acted (answer_acted h hs (progress_ne _))
  · exact .acted ((failActive_acted (hd.of_still hs) h).after_still hs)

theorem pollReliableInbound_moved (hd : d.Ready) {step : DriverStep}
    (h : (pollReliableInbound d t e).run = .ok ((step, d', e'), events)) :
    Moved d step events d' := by
  simp only [pollReliableInbound, Recorded.bind_eq_ok, Recorded.lift_eq_ok] at h
  obtain ⟨⟨r, reliable, e₁, fc⟩, _, _, ⟨-, rfl⟩, h, rfl⟩ := h
  have hs : Still d { d with reliable := reliable, flowControl := fc } := ⟨rfl, rfl⟩
  split at h
  · exact idle_moved h hs
  · exact .acted (answer_acted h hs (progress_ne _))
  · exact .acted ((failActive_acted (hd.of_still hs) h).after_still hs)

theorem driveDatagramOutbound_moved (hd : d.Ready) {step : DriverStep}
    (h : (driveDatagramOutbound d t e).run = .ok ((step, d', e'), events)) :
    Moved d step events d' := by
  simp only [driveDatagramOutbound, Recorded.bind_eq_ok, Recorded.lift_eq_ok] at h
  obtain ⟨⟨r, datagram, e₁⟩, _, _, ⟨-, rfl⟩, h, rfl⟩ := h
  have hs : Still d { d with datagram := datagram } := ⟨rfl, rfl⟩
  split at h
  · exact idle_moved h hs
  · exact .acted (answer_acted h hs (progress_ne _))
  · exact .acted ((finishDataFailure_acted (hd.of_still hs) h).after_still hs)
  · exact .acted (failTerminal_acted hd.active hs h)

theorem pollDatagramInbound_moved (hd : d.Ready) {step : DriverStep}
    (h : (pollDatagramInbound d t e).run = .ok ((step, d', e'), events)) :
    Moved d step events d' := by
  simp only [pollDatagramInbound, Recorded.bind_eq_ok, Recorded.lift_eq_ok] at h
  obtain ⟨⟨r, datagram, e₁⟩, _, _, ⟨-, rfl⟩, h, rfl⟩ := h
  have hs : Still d { d with datagram := datagram } := ⟨rfl, rfl⟩
  split at h
  · exact idle_moved h hs
  · exact .acted (answer_acted h hs (progress_ne _))
  · exact .acted ((finishDataFailure_acted (hd.of_still hs) h).after_still hs)
  · exact .acted (failTerminal_acted hd.active hs h)

/-! ### One step -/

theorem pollCategory_moved (ha : d.phase = .active) {index : Nat} {step : DriverStep}
    (h : (pollCategory d t e index).run = .ok ((step, d', e'), events)) :
    Moved d step events d' := by
  unfold pollCategory at h
  split at h
  · simp only [Recorded.bind_eq_ok] at h
    obtain ⟨⟨step₁, d₁⟩, _, _, hsend, h, rfl⟩ := h
    obtain ⟨heq, rfl⟩ := Recorded.pure_eq_ok.mp h
    cases heq
    rw [List.append_nil]
    exact pollControlSend_moved ha hsend
  · split at h
    · exact idle_moved h .refl
    · exact pollControlReceive_moved ha h
  · split at h
    · exact idle_moved h .refl
    · rename_i hallowed
      have hd := EstablishedConnectionDriver.dataPollAllowed_ready (not_not.mp hallowed)
      split at h
      · exact pollReliableOutboundAcquisition_moved hd h
      · exact pollReliableInboundAcquisition_moved hd h
      · exact pollReliableOutbound_moved hd h
      · exact pollReliableInbound_moved hd h
      · exact driveDatagramOutbound_moved hd h
      · exact pollDatagramInbound_moved hd h
      · cases (Recorded.lift_eq_ok.mp h).1

/-- The categories before the one that stops the round leave the slot alone. -/
theorem pollFrom_slot (ha : d.phase = .active) {next : Nat} {indices : List Nat}
    {r : Polled (Except ConnectionDriverError EstablishedConnectionProgress)}
    (h : (pollFrom t next indices d e).run = .ok ((r, d', e'), events)) : Slot d events d' := by
  induction indices generalizing d e events with
  | nil =>
    obtain ⟨heq, rfl⟩ := Recorded.pure_eq_ok.mp h
    cases heq
    exact .still ⟨rfl, rfl⟩
  | cons index rest ih =>
    simp only [pollFrom, Recorded.bind_eq_ok] at h
    obtain ⟨⟨step, d₁, e₁⟩, before, after, hcategory, h, rfl⟩ := h
    have hmoved := pollCategory_moved ha hcategory
    cases step with
    | none =>
      cases hmoved with
      | idle hs => exact (ih (hs.phase.trans ha) h).after_still hs
      | acted hacted => exact absurd rfl hacted.busy
    | _ =>
      obtain ⟨heq, rfl⟩ := Recorded.pure_eq_ok.mp h
      cases heq
      rw [List.append_nil]
      exact hmoved.slot.then_still ⟨rfl, rfl⟩

theorem pollStep_slot {r : Polled (Except ConnectionDriverError EstablishedConnectionProgress)}
    (h : (pollStep d t e).run = .ok ((r, d', e'), events)) : Slot d events d' := by
  unfold pollStep at h
  split at h
  · obtain ⟨heq, rfl⟩ := Recorded.pure_eq_ok.mp h
    cases heq
    exact .still .refl
  · rename_i hphase
    have ha : d.phase = .active := by
      cases hp : d.phase with
      | active => rfl
      | terminal => exact absurd hp hphase
    split at h
    · simp only [Recorded.bind_eq_ok] at h
      obtain ⟨⟨step, d₁, e₁⟩, before, after, hreceive, h, rfl⟩ := h
      have hmoved := pollControlReceive_moved ha hreceive
      cases step with
      | none =>
        cases hmoved with
        | idle hs => exact (pollFrom_slot (hs.phase.trans ha) h).after_still hs
        | acted hacted => exact absurd rfl hacted.busy
      | _ =>
        obtain ⟨heq, rfl⟩ := Recorded.pure_eq_ok.mp h
        cases heq
        rw [List.append_nil]
        exact hmoved.slot.then_still ⟨rfl, rfl⟩
    · exact pollFrom_slot ha h

/-! ### Commands of the host -/

/-- Some refusals end the connection. -/
theorem endsIf_slot {d₁ : EstablishedConnectionDriver} (ha : d.phase = .active) (hs : Still d d₁)
    (b : Bool) : Slot d [] (if b then d₁.enterTerminal else d₁) := by
  cases b with
  | true => exact (Slot.enterTerminal (hs.phase.trans ha)).after_still hs
  | false => exact .still hs

theorem openOutbound_slot {maxDatagramSize : Option Nat} {request : OutboundOpenRequest}
    {r : Except ConnectionDriverError Unit}
    (h : (openOutbound d alloc e maxDatagramSize request).run = .ok ((r, d'), events)) :
    Slot d events d' := by
  unfold openOutbound at h
  split at h
  · obtain ⟨heq, rfl⟩ := Recorded.pure_eq_ok.mp h
    cases heq
    exact .still .refl
  · rename_i hready
    have hd := EstablishedConnectionDriver.requireControlSendReady_ready hready
    simp only [Recorded.bind_eq_ok] at h
    obtain ⟨⟨made, fc⟩, _, _, hmade, h, rfl⟩ := h
    obtain ⟨-, rfl⟩ := making_run hmade
    have hs : Still d { d with flowControl := fc } := ⟨rfl, rfl⟩
    cases made with
    | error err =>
      obtain ⟨heq, rfl⟩ := Recorded.pure_eq_ok.mp h
      cases heq
      exact endsIf_slot hd.active hs _
    | ok pending =>
      obtain ⟨rfl, rfl, rfl⟩ := startPreparedSend_run (hd.of_still hs) h
      exact .handed pending hd hd.active rfl

theorem startDecision_slot (hd : d.Ready) {decided : FlowDriver.Decided}
    {r : Except EstablishedConnectionDriver.InboundDecisionDriverError Unit}
    (h : (startDecision d decided).run = .ok ((r, d', e'), events)) :
    Slot d (decided.1.toOption.toList.map .produced ++ events) d' := by
  obtain ⟨made, fc, e₁⟩ := decided
  have hs : Still d { d with flowControl := fc } := ⟨rfl, rfl⟩
  cases made with
  | error err =>
    obtain ⟨heq, rfl⟩ := Recorded.pure_eq_ok.mp h
    cases heq
    exact endsIf_slot hd.active hs _
  | ok pending =>
    simp only [startDecision, Recorded.bind_eq_ok] at h
    obtain ⟨⟨started, d₁⟩, _, _, hstart, h, rfl⟩ := h
    obtain ⟨rfl, rfl, rfl⟩ := startPreparedSend_run (hd.of_still hs) hstart
    obtain ⟨heq, rfl⟩ := Recorded.pure_eq_ok.mp h
    cases heq
    exact .handed pending hd hd.active rfl

theorem acceptInbound_slot {request : InboundOpenRequest} {admission : InboundAdmission}
    {r : Except EstablishedConnectionDriver.InboundDecisionDriverError Unit}
    (h : (acceptInbound d alloc e request admission).run = .ok ((r, d', e'), events)) :
    Slot d events d' := by
  unfold acceptInbound at h
  split at h
  · obtain ⟨heq, rfl⟩ := Recorded.pure_eq_ok.mp h
    cases heq
    exact .still .refl
  · rename_i hready
    simp only [Recorded.bind_eq_ok] at h
    obtain ⟨decided, _, _, hmade, h, rfl⟩ := h
    obtain ⟨-, rfl⟩ := making_run hmade
    exact startDecision_slot (EstablishedConnectionDriver.requireControlSendReady_ready hready) h

theorem rejectInbound_slot {request : InboundOpenRequest} {reason : FlowRejectReason}
    {r : Except EstablishedConnectionDriver.InboundDecisionDriverError Unit}
    (h : (rejectInbound d alloc e request reason).run = .ok ((r, d', e'), events)) :
    Slot d events d' := by
  unfold rejectInbound at h
  split at h
  · obtain ⟨heq, rfl⟩ := Recorded.pure_eq_ok.mp h
    cases heq
    exact .still .refl
  · rename_i hready
    simp only [Recorded.bind_eq_ok] at h
    obtain ⟨decided, _, _, hmade, h, rfl⟩ := h
    obtain ⟨-, rfl⟩ := making_run hmade
    exact startDecision_slot (EstablishedConnectionDriver.requireControlSendReady_ready hready) h

theorem requestOutboundFinishNormal_slot {finished : Except IoFailure Unit} {flowId : FlowId}
    {r : Except ConnectionDriverError EstablishedConnectionDriver.OutboundFinishOutcome}
    (h : (requestOutboundFinishNormal d alloc e finished flowId).run =
      .ok ((r, d', e'), events)) : Slot d events d' := by
  unfold requestOutboundFinishNormal at h
  split at h
  · obtain ⟨heq, rfl⟩ := Recorded.pure_eq_ok.mp h
    cases heq
    exact .still .refl
  · rename_i hready
    have hd := EstablishedConnectionDriver.requireControlSendReady_ready hready
    simp only [Recorded.bind_eq_ok, Recorded.lift_eq_ok] at h
    obtain ⟨⟨answer, reliable⟩, _, _, ⟨-, rfl⟩, h, rfl⟩ := h
    have hs : Still d { d with reliable := reliable } := ⟨rfl, rfl⟩
    split at h
    · obtain ⟨heq, rfl⟩ := Recorded.pure_eq_ok.mp h
      cases heq
      exact .still hs
    · split at h
      · obtain ⟨heq, rfl⟩ := Recorded.pure_eq_ok.mp h
        cases heq
        exact .still hs
      · obtain ⟨heq, rfl⟩ := Recorded.pure_eq_ok.mp h
        cases heq
        exact .still hs
      · split at h
        · obtain ⟨heq, rfl⟩ := Recorded.pure_eq_ok.mp h
          cases heq
          exact .still hs
        · simp only [Recorded.bind_eq_ok] at h
          obtain ⟨⟨applied, d₁, e₁⟩, before, _, happly, h, rfl⟩ := h
          obtain ⟨heq, rfl⟩ := Recorded.pure_eq_ok.mp h
          cases heq
          rw [List.append_nil]
          exact (applyDataFailure_slot (hd.of_still hs) happly).after_still hs
      · obtain ⟨heq, rfl⟩ := Recorded.pure_eq_ok.mp h
        cases heq
        exact (Slot.enterTerminal (hs.phase.trans hd.active)).after_still hs

theorem requestOutboundFinishNormalByKey_slot {finished : Except IoFailure Unit}
    {key : DeliveryFlowKey} {mode : DeliveryMode}
    {r : Except EstablishedConnectionDriver.KeyedFinishError
      EstablishedConnectionDriver.OutboundFinishOutcome}
    (h : (requestOutboundFinishNormalByKey d alloc e finished key mode).run =
      .ok ((r, d', e'), events)) : Slot d events d' := by
  unfold requestOutboundFinishNormalByKey at h
  split at h
  · obtain ⟨heq, rfl⟩ := Recorded.pure_eq_ok.mp h
    cases heq
    exact .still .refl
  · rename_i hready
    have hd := EstablishedConnectionDriver.requireControlSendReady_ready hready
    split at h
    · split at h
      · obtain ⟨heq, rfl⟩ := Recorded.pure_eq_ok.mp h
        cases heq
        exact .still .refl
      · simp only [Recorded.bind_eq_ok] at h
        obtain ⟨⟨answer, d₁, e₁⟩, before, _, hfinish, h, rfl⟩ := h
        obtain ⟨heq, rfl⟩ := Recorded.pure_eq_ok.mp h
        cases heq
        rw [List.append_nil]
        exact requestOutboundFinishNormal_slot hfinish
    -- the unreliable modes end the flow at once
    all_goals
      split at h
      · obtain ⟨heq, rfl⟩ := Recorded.pure_eq_ok.mp h
        cases heq
        exact .still .refl
      · simp only [Recorded.bind_eq_ok] at h
        obtain ⟨⟨made, fc, e₁⟩, _, _, hmade, h, rfl⟩ := h
        obtain ⟨-, rfl⟩ := making_run hmade
        have hs : Still d { d with flowControl := fc } := ⟨rfl, rfl⟩
        cases made with
        | error err =>
          obtain ⟨heq, rfl⟩ := Recorded.pure_eq_ok.mp h
          cases heq
          exact .still hs
        | ok pending =>
          simp only [Recorded.bind_eq_ok] at h
          obtain ⟨⟨started, d₁⟩, _, _, hstart, h, rfl⟩ := h
          obtain ⟨rfl, rfl, rfl⟩ := startPreparedSend_run (hd.of_still hs) hstart
          obtain ⟨heq, rfl⟩ := Recorded.pure_eq_ok.mp h
          cases heq
          exact .handed pending hd hd.active rfl

theorem submitUnreliable_slot {maxDatagramSize : Option Nat} {flowId : FlowId}
    {payload : List UInt8} {r : Except DatagramSubmitDriverError DatagramSubmitOutcome}
    (h : (submitUnreliable d alloc e maxDatagramSize flowId payload).run =
      .ok ((r, d', e'), events)) : Slot d events d' := by
  unfold submitUnreliable at h
  split at h
  · obtain ⟨heq, rfl⟩ := Recorded.pure_eq_ok.mp h
    cases heq
    exact .still .refl
  · rename_i hready
    have hd := EstablishedConnectionDriver.requireControlSendReady_ready hready
    simp only [Recorded.bind_eq_ok, Recorded.lift_eq_ok] at h
    obtain ⟨⟨answer, e₁⟩, _, _, ⟨-, rfl⟩, h, rfl⟩ := h
    split at h
    · split at h
      · obtain ⟨heq, rfl⟩ := Recorded.pure_eq_ok.mp h
        cases heq
        exact .enterTerminal hd.active
      · obtain ⟨heq, rfl⟩ := Recorded.pure_eq_ok.mp h
        cases heq
        exact .still .refl
    · split at h
      · simp only [Recorded.bind_eq_ok] at h
        obtain ⟨⟨applied, d₁, e₂⟩, before, _, happly, h, rfl⟩ := h
        obtain ⟨heq, rfl⟩ := Recorded.pure_eq_ok.mp h
        cases heq
        rw [List.append_nil]
        exact applyDataFailure_slot hd happly
      · obtain ⟨heq, rfl⟩ := Recorded.pure_eq_ok.mp h
        cases heq
        exact endsIf_slot hd.active .refl _

theorem submitUnreliableByKey_slot {maxDatagramSize : Option Nat} {key : DeliveryFlowKey}
    {payload : List UInt8} {r : Except KeyedDatagramSubmitError DatagramSubmitOutcome}
    (h : (submitUnreliableByKey d alloc e maxDatagramSize key payload).run =
      .ok ((r, d', e'), events)) : Slot d events d' := by
  unfold submitUnreliableByKey at h
  split at h
  · obtain ⟨heq, rfl⟩ := Recorded.pure_eq_ok.mp h
    cases heq
    exact .still .refl
  · simp only [Recorded.bind_eq_ok] at h
    obtain ⟨⟨answer, d₁, e₁⟩, before, _, hsubmit, h, rfl⟩ := h
    obtain ⟨heq, rfl⟩ := Recorded.pure_eq_ok.mp h
    cases heq
    rw [List.append_nil]
    exact submitUnreliable_slot hsubmit

end RecordedDriver

/-! ### Runs -/

/-- A call of the driver. -/
inductive DriverCall where
  | pollStep (t : DriverTransport)
  | openOutbound (alloc : Allocator) (maxDatagramSize : Option Nat) (request : OutboundOpenRequest)
  | acceptInbound (alloc : Allocator) (request : InboundOpenRequest) (admission : InboundAdmission)
  | rejectInbound (alloc : Allocator) (request : InboundOpenRequest) (reason : FlowRejectReason)
  | requestOutboundFinishNormal (alloc : Allocator) (finished : Except IoFailure Unit)
      (flowId : FlowId)
  | requestOutboundFinishNormalByKey (alloc : Allocator) (finished : Except IoFailure Unit)
      (key : DeliveryFlowKey) (mode : DeliveryMode)
  | submitUnreliable (alloc : Allocator) (maxDatagramSize : Option Nat) (flowId : FlowId)
      (payload : List UInt8)
  | submitUnreliableByKey (alloc : Allocator) (maxDatagramSize : Option Nat)
      (key : DeliveryFlowKey) (payload : List UInt8)

namespace DriverCall

def exec (d : EstablishedConnectionDriver) (e : DeliveryEndpoint) :
    DriverCall → Checked EstablishedConnectionDriver
  | .pollStep t => (fun answer => answer.2.1) <$> d.pollStep t e
  | .openOutbound alloc size request => Prod.snd <$> d.openOutbound alloc size e request
  | .acceptInbound alloc request admission =>
    (fun answer => answer.2.1) <$> d.acceptInbound alloc e request admission
  | .rejectInbound alloc request reason =>
    (fun answer => answer.2.1) <$> d.rejectInbound alloc e request reason
  | .requestOutboundFinishNormal alloc finished flowId =>
    (fun answer => answer.2.1) <$> d.requestOutboundFinishNormal alloc finished e flowId
  | .requestOutboundFinishNormalByKey alloc finished key mode =>
    (fun answer => answer.2.1) <$> d.requestOutboundFinishNormalByKey alloc finished e key mode
  | .submitUnreliable alloc size flowId payload =>
    (fun answer => answer.2.1) <$> d.submitUnreliable alloc size e flowId payload
  | .submitUnreliableByKey alloc size key payload =>
    (fun answer => answer.2.1) <$> d.submitUnreliableByKey alloc size e key payload

def record (d : EstablishedConnectionDriver) (e : DeliveryEndpoint) :
    DriverCall → Recorded ControlEvent EstablishedConnectionDriver
  | .pollStep t => do return (← RecordedDriver.pollStep d t e).2.1
  | .openOutbound alloc size request => do
    return (← RecordedDriver.openOutbound d alloc e size request).2
  | .acceptInbound alloc request admission => do
    return (← RecordedDriver.acceptInbound d alloc e request admission).2.1
  | .rejectInbound alloc request reason => do
    return (← RecordedDriver.rejectInbound d alloc e request reason).2.1
  | .requestOutboundFinishNormal alloc finished flowId => do
    return (← RecordedDriver.requestOutboundFinishNormal d alloc e finished flowId).2.1
  | .requestOutboundFinishNormalByKey alloc finished key mode => do
    return (← RecordedDriver.requestOutboundFinishNormalByKey d alloc e finished key mode).2.1
  | .submitUnreliable alloc size flowId payload => do
    return (← RecordedDriver.submitUnreliable d alloc e size flowId payload).2.1
  | .submitUnreliableByKey alloc size key payload => do
    return (← RecordedDriver.submitUnreliableByKey d alloc e size key payload).2.1

variable {d d' : EstablishedConnectionDriver} {e : DeliveryEndpoint} {call : DriverCall}
  {events : List ControlEvent}

theorem plain_answer {α : Type} {x : Recorded ControlEvent α} {y : Checked α}
    (f : α → EstablishedConnectionDriver) (h : x.plain = y) :
    Recorded.plain (do return f (← x)) = f <$> y := by
  subst h
  simp only [Recorded.plain_bind, Recorded.plain_pure]
  rfl

theorem plain_record : (call.record d e).plain = call.exec d e := by
  cases call with
  | pollStep => exact plain_answer _ RecordedDriver.plain_pollStep
  | openOutbound => exact plain_answer _ (RecordedDriver.plain_openOutbound _ _)
  | acceptInbound => exact plain_answer _ (RecordedDriver.plain_acceptInbound _ _)
  | rejectInbound => exact plain_answer _ (RecordedDriver.plain_rejectInbound _ _)
  | requestOutboundFinishNormal =>
    exact plain_answer _ (RecordedDriver.plain_requestOutboundFinishNormal _ _)
  | requestOutboundFinishNormalByKey =>
    exact plain_answer _ (RecordedDriver.plain_requestOutboundFinishNormalByKey _ _ _)
  | submitUnreliable => exact plain_answer _ (RecordedDriver.plain_submitUnreliable _ _ _)
  | submitUnreliableByKey =>
    exact plain_answer _ (RecordedDriver.plain_submitUnreliableByKey _ _ _)

theorem record_answer {α : Type} {x : Recorded ControlEvent α}
    {f : α → EstablishedConnectionDriver}
    (h : WriterT.run (do return f (← x) : Recorded ControlEvent EstablishedConnectionDriver) =
      .ok (d', events)) : ∃ answer, x.run = .ok (answer, events) ∧ f answer = d' := by
  simp only [Recorded.bind_eq_ok] at h
  obtain ⟨answer, before, _, hx, h, rfl⟩ := h
  obtain ⟨rfl, rfl⟩ := Recorded.pure_eq_ok.mp h
  exact ⟨answer, by rw [List.append_nil]; exact hx, rfl⟩

theorem record_slot (h : (call.record d e).run = .ok (d', events)) : d.Slot events d' := by
  cases call with
  | pollStep =>
    obtain ⟨⟨r, d₁, e₁⟩, hrun, rfl⟩ := record_answer h
    exact RecordedDriver.pollStep_slot hrun
  | openOutbound =>
    obtain ⟨⟨r, d₁⟩, hrun, rfl⟩ := record_answer h
    exact RecordedDriver.openOutbound_slot hrun
  | acceptInbound =>
    obtain ⟨⟨r, d₁, e₁⟩, hrun, rfl⟩ := record_answer h
    exact RecordedDriver.acceptInbound_slot hrun
  | rejectInbound =>
    obtain ⟨⟨r, d₁, e₁⟩, hrun, rfl⟩ := record_answer h
    exact RecordedDriver.rejectInbound_slot hrun
  | requestOutboundFinishNormal =>
    obtain ⟨⟨r, d₁, e₁⟩, hrun, rfl⟩ := record_answer h
    exact RecordedDriver.requestOutboundFinishNormal_slot hrun
  | requestOutboundFinishNormalByKey =>
    obtain ⟨⟨r, d₁, e₁⟩, hrun, rfl⟩ := record_answer h
    exact RecordedDriver.requestOutboundFinishNormalByKey_slot hrun
  | submitUnreliable =>
    obtain ⟨⟨r, d₁, e₁⟩, hrun, rfl⟩ := record_answer h
    exact RecordedDriver.submitUnreliable_slot hrun
  | submitUnreliableByKey =>
    obtain ⟨⟨r, d₁, e₁⟩, hrun, rfl⟩ := record_answer h
    exact RecordedDriver.submitUnreliableByKey_slot hrun

end DriverCall

/-- A run of a driver, with the record of all its calls. -/
structure ControlRun where
  driver : EstablishedConnectionDriver
  events : List ControlEvent

namespace ControlRun

/-- The endpoint is the host's, who may do anything with it between two calls. -/
def exec (s : ControlRun) (call : DriverCall × DeliveryEndpoint) : Checked ControlRun := do
  let (driver, events) ← (call.1.record s.driver call.2).run
  return ⟨driver, s.events ++ events⟩

def Step (s s' : ControlRun) : Prop := ∃ call, s.exec call = .ok s'

def Starts (s : ControlRun) : Prop :=
  (∃ fc maxStagingBytes, s.driver = .new fc maxStagingBytes) ∧ s.events = []

/-- The frames that flow control made. -/
def produced (s : ControlRun) : List PendingFlowControlSend :=
  s.events.filterMap ControlEvent.producedFrame

/-- The frames handed to the sender. -/
def started (s : ControlRun) : List PendingFlowControlSend :=
  s.events.filterMap ControlEvent.startedFrame

/-- The frames the sender is done with. -/
def sent (s : ControlRun) : List PendingFlowControlSend :=
  s.events.filterMap ControlEvent.sentFrame

/-- Control frames are neither lost nor reordered while the driver is active; when it stops, only
the frame in the slot is lost. -/
structure Ordered (s : ControlRun) : Prop where
  permitted : ∀ event ∈ s.events, event.Permitted
  started : s.started = s.produced
  active : s.driver.phase = .active → s.produced = s.sent ++ s.driver.sender.frame
  ended : ∃ dropped, s.produced = s.sent ++ dropped ∧ dropped.length ≤ 1

/-- A driver that stopped sends nothing. -/
structure Sound (s : ControlRun) : Prop extends Ordered s where
  stopped : s.driver.phase = .terminal → s.driver.sender = .terminal

variable {s s' : ControlRun}

theorem Starts.sound (h : Starts s) : s.Sound := by
  obtain ⟨⟨fc, maxStagingBytes, hdriver⟩, hevents⟩ := h
  obtain ⟨driver, events⟩ := s
  cases hdriver
  cases hevents
  exact {
    permitted := fun event hevent => by cases hevent
    started := rfl
    active := fun _ => rfl
    ended := ⟨[], rfl, Nat.zero_le 1⟩
    stopped := fun h => by cases h }

/-- One call keeps the frames in order. -/
theorem Sound.slot (hs : s.Sound) {events : List ControlEvent} {d' : EstablishedConnectionDriver}
    (h : s.driver.Slot events d') : Sound ⟨d', s.events ++ events⟩ := by
  obtain ⟨dropped, hframes, hdropped, hactive⟩ := h.frames
  have hproduced : produced ⟨d', s.events ++ events⟩ =
      s.produced ++ events.filterMap ControlEvent.producedFrame := List.filterMap_append
  have hsent : sent ⟨d', s.events ++ events⟩ =
      s.sent ++ events.filterMap ControlEvent.sentFrame := List.filterMap_append
  have running (ha : s.driver.phase = .active) :
      produced ⟨d', s.events ++ events⟩ = sent ⟨d', s.events ++ events⟩ ++ dropped := by
    rw [hproduced, hsent, hs.active ha, List.append_assoc, hframes, List.append_assoc]
  exact {
    permitted := by
      intro event hevent
      rcases List.mem_append.mp hevent with hold | hnew
      · exact hs.permitted event hold
      · exact h.permitted event hnew
    started := by
      rw [hproduced, ← h.started, ← hs.started]
      exact List.filterMap_append
    active := fun ha => by rw [running (h.active ha), hactive ha]
    ended := by
      cases hphase : s.driver.phase with
      | active => exact ⟨dropped, running hphase, hdropped⟩
      | terminal =>
        obtain ⟨-, hnone, hquiet⟩ := h.stopped (hs.stopped hphase)
        obtain ⟨lost, hlost, hlength⟩ := hs.ended
        refine ⟨lost, ?_, hlength⟩
        rw [hproduced, hsent, hnone, hquiet, List.append_nil, List.append_nil, hlost]
    stopped := fun ht => by
      cases hphase : s.driver.phase with
      | active => exact h.stops hphase ht
      | terminal => exact (h.stopped (hs.stopped hphase)).1 }

theorem Sound.step (hs : s.Sound) (h : Step s s') : s'.Sound := by
  obtain ⟨call, h⟩ := h
  simp only [exec, Checked.bind_eq_ok, Checked.pure_eq, Except.ok.injEq] at h
  obtain ⟨⟨d', events⟩, hrecord, rfl⟩ := h
  exact hs.slot (DriverCall.record_slot hrecord)

theorem reachable_sound (h : Reachable Starts Step s) : s.Sound :=
  h.invariant (fun _ => Starts.sound) fun _ _ hs hstep => hs.step hstep

/-- The record of a call is faithful, and in every run the one slot of the sender is enough: a
frame is only handed to a sender that is free, every frame that flow control makes is handed over
once and in order, and no open reaches flow control while a decision is pending. -/
theorem control_frames_ordered :
    (∀ (call : DriverCall) (d : EstablishedConnectionDriver) (e : DeliveryEndpoint),
      (call.record d e).plain = call.exec d e) ∧
    ∀ s : ControlRun, Reachable Starts Step s → s.Ordered ∧
      ∀ call e d' events, (DriverCall.record s.driver e call).run = .ok (d', events) →
        (events.filterMap ControlEvent.producedFrame).length ≤ 1 :=
  ⟨fun _ _ _ => DriverCall.plain_record, fun _ h => ⟨(reachable_sound h).toOrdered,
    fun _ _ _ _ hrecord => (DriverCall.record_slot hrecord).produced_length⟩⟩

/-! A flow is opened, and the open is sent. -/

def sampleStart : ControlRun := ⟨.new FlowRun.sampleStart.client.control (.nearest 64), []⟩

def sampleCalls : List (DriverCall × DeliveryEndpoint) :=
  [(.openOutbound FlowRun.sampleAlloc none ⟨⟨⟨1⟩, .outbound, ⟨9⟩⟩, .reliableOrdered,
      FlowRun.samplePolicy, .nearest 16, FlowRun.sampleLimits⟩, .new FlowRun.sampleLimits),
    (.pollStep Connection.idleTransport.step, .new FlowRun.sampleLimits),
    (.pollStep Connection.sendingTransport.step, .new FlowRun.sampleLimits)]

theorem control_frames_ordered_sample : ∃ s, sampleCalls.foldlM exec sampleStart = .ok s ∧
    s.produced.length = 1 ∧ s.sent.length = 1 ∧ s.Ordered := by
  have hplayed : ((sampleCalls.foldlM exec sampleStart).toOption.any fun s =>
      decide (s.produced.length = 1 ∧ s.sent.length = 1)) = true := by
    decide +kernel
  obtain ⟨s, hs, hframes⟩ := (Option.any_eq_true _ _).mp hplayed
  have hreach : Reachable Starts Step s :=
    Checked.foldlM_invariant (P := Reachable Starts Step)
      (fun _ call _ h hcall => h.next ⟨call, hcall⟩) (.start ⟨⟨_, _, rfl⟩, rfl⟩) (ok_of_toOption hs)
  obtain ⟨hproduced, hsent⟩ := of_decide_eq_true hframes
  exact ⟨s, ok_of_toOption hs, hproduced, hsent, (control_frames_ordered.2 s hreach).1⟩

end ControlRun

end RunenNet
