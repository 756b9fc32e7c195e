import RunenNet.Quic.ConnectionDriver
import RunenNet.Foundation.Recorded

/-!
# The driver, recorded

The operations of the established driver once more, now with a record of what they do with control
frames: the frames that flow control makes, the calls that hand one to the sender, the frames the
sender is done with, and the frames that flow control is given. `plain_pollStep` and its siblings
say that the record is all that was added.
-/

namespace RunenNet

open Foundation

/-- What an operation of the driver does with a control frame. -/
inductive ControlEvent where
  /-- Flow control makes a frame that is to be sent. -/
  | produced (pending : PendingFlowControlSend)
  /-- A call of `start_control_send`: what it finds, and what it answers. -/
  | started (phase : DriverPhase) (sender : ControlSendPhase) (pending : PendingFlowControlSend)
      (answer : Except ConnectionDriverStateError Unit)
  /-- The sender is done with a frame. -/
  | sent (pending : PendingFlowControlSend)
  /-- A call of `FlowControl::receive`: whether a decision is pending, and the error it answers. -/
  | received (frame : ControlFrame) (undecided : Bool) (error : Option FlowControlError)

namespace FlowControlDriverProgress

def send : FlowControlDriverProgress → Option PendingFlowControlSend
  | .pendingSend pending => some pending
  | _ => none

end FlowControlDriverProgress

namespace EstablishedDataFailureProgress

def send : EstablishedDataFailureProgress → Option PendingFlowControlSend
  | .pendingSend pending => some pending
  | _ => none

end EstablishedDataFailureProgress

/-- The error that an answer is. -/
def errorOf {ε α : Type} : Except ε α → Option ε
  | .error e => some e
  | .ok _ => none

namespace RecordedDriver

open EstablishedConnectionDriver (Stepped PolledDriver DecidedDriver Finished KeyedFinished
  DatagramSubmitOutcome DatagramSubmitDriverError KeyedDatagramSubmitError)

/-- Record the frame that was made, if one was. -/
def produced : Option PendingFlowControlSend → Recorded ControlEvent Unit
  | some pending => .note (.produced pending)
  | none => pure ()

/-- Record the frame that a call of flow control makes. -/
def making {α : Type} (call : Checked α) (made : α → Option PendingFlowControlSend) :
    Recorded ControlEvent α := do
  let answer ← call
  produced (made answer)
  return answer

def processReceived (fc : FlowControl) (alloc : Allocator) (endpoint : DeliveryEndpoint)
    (frame : ControlFrame) : Recorded ControlEvent
      (Except FlowControlError FlowControlDriverProgress × FlowControl × DeliveryEndpoint) := do
  let answer ← FlowDriver.processReceived fc alloc endpoint frame
  .note (.received frame fc.pendingInbound.isSome (errorOf answer.1))
  produced (answer.1.toOption.bind FlowControlDriverProgress.send)
  return answer

/-! ### Sending -/

variable (d : EstablishedConnectionDriver) (t : DriverTransport) (alloc : Allocator)
  (endpoint : DeliveryEndpoint)

def startPreparedSend (pending : PendingFlowControlSend) : Recorded ControlEvent
    (Except ConnectionDriverError Unit × EstablishedConnectionDriver) := do
  .note (.started d.phase d.sender.phase pending (d.startControlSend pending).1)
  return d.startPreparedSend pending

def pollControlSend : Recorded ControlEvent (DriverStep × EstablishedConnectionDriver) := do
  match d.sender, t.controlSend with
  | .pending send, some (.ok ()) =>
    .note (.sent send)
    return d.pollControlSend t
  | _, _ => return d.pollControlSend t

/-! ### Failures of the data path -/

def prepareFailure (disposition : EstablishedDataFailureDisposition)
    (terminalError : ConnectionDriverError) (flowId : FlowId) : Recorded ControlEvent
      (Except ConnectionDriverError FlowId × EstablishedConnectionDriver × DeliveryEndpoint) := do
  let (r, fc, endpoint) ←
    making (FlowDriver.prepareEstablishedDataFailure d.flowControl alloc endpoint disposition)
      fun answer => answer.1.toOption.bind EstablishedDataFailureProgress.send
  let d := { d with flowControl := fc }
  match r with
  | .error e => return (.error (.failurePreparation e), d.enterTerminal, endpoint)
  | .ok (.pendingSend pending) => match ← startPreparedSend d pending with
    | (.error e, d) => return (.error e, d, endpoint)
    | (.ok (), d) => return (.ok flowId, d, endpoint)
  | .ok (.cleanupOnly cleanedFlowId) =>
    Checked.assert (cleanedFlowId = flowId)
    return (.ok flowId, d, endpoint)
  | .ok (.connectionTerminal _) => return (.error terminalError, d.enterTerminal, endpoint)

def applyDataFailure (disposition : EstablishedDataFailureDisposition)
    (terminalError : ConnectionDriverError) : Recorded ControlEvent
      (Except ConnectionDriverError FlowId × EstablishedConnectionDriver × DeliveryEndpoint) :=
  match disposition with
  | .terminateAndReport flowId _ =>
    prepareFailure d alloc endpoint disposition terminalError flowId
  | .reportOnly flowId _ _ _ => prepareFailure d alloc endpoint disposition terminalError flowId
  | .cleanupOnly flowId => prepareFailure d alloc endpoint disposition terminalError flowId
  | .connectionTerminal _ => return (.error terminalError, d.enterTerminal, endpoint)

def finishDataFailure (disposition : EstablishedDataFailureDisposition)
    (terminalError : ConnectionDriverError) :
    Recorded ControlEvent Stepped := do
  match ← applyDataFailure d alloc endpoint disposition terminalError with
  | (.ok flowId, d, endpoint) => return (.progress (.flowFailureHandled flowId), d, endpoint)
  | (.error e, d, endpoint) => return (.error e, d, endpoint)

/-! ### Receiving -/

def routeOutboundEstablished (flow : EstablishedFlow) :
    Recorded ControlEvent Stepped :=
  match outboundTransportOwner flow.mode with
  | .reliable => do
    let (r, reliable) ←
      d.reliable.scheduleOutbound t.reservesActive t.reservesPending d.flowControl flow
    let d := { d with reliable := reliable }
    match r with
    | .ok () => return (.progress (.outboundEstablished flow), d, endpoint)
    | .error .allocation =>
      finishDataFailure d t.alloc endpoint
        (FlowDriver.classifyKnownFlowResourceFailure d.flowControl flow.flowId)
        (.reliable .allocation)
    | .error e => return d.failTerminal endpoint (.reliable e)
  | .datagram => do
    let (r, datagram) ← d.datagram.registerOutbound t.reservesDatagram d.flowControl flow
    let d := { d with datagram := datagram }
    match r with
    | .ok () => return (.progress (.outboundEstablished flow), d, endpoint)
    | .error .allocation =>
      finishDataFailure d t.alloc endpoint
        (FlowDriver.classifyKnownFlowResourceFailure d.flowControl flow.flowId)
        (.datagram .allocation)
    | .error e => return d.failTerminal endpoint (.datagram e)

def routeFlowControlProgress (progress : FlowControlDriverProgress) :
    Recorded ControlEvent Stepped :=
  match progress with
  | .pendingSend pending => do
    match ← startPreparedSend d pending with
    | (.ok (), d) => return (.progress .controlSendStarted, d, endpoint)
    | (.error e, d) => return (.error e, d, endpoint)
  | .outboundEstablished flow => routeOutboundEstablished d t endpoint flow
  | progress => liftM (d.routeFlowControlProgress t progress endpoint)

def processReceivedFrame (frame : ControlFrame) :
    Recorded ControlEvent Stepped := do
  let (r, fc, endpoint) ← processReceived d.flowControl t.alloc endpoint frame
  let d := { d with flowControl := fc }
  match r with
  | .error e =>
    return EstablishedConnectionDriver.failTerminal { d with receiver := .terminal } endpoint
      (.receivedFlowControl e)
  | .ok progress => routeFlowControlProgress { d with receiver := .pending } t endpoint progress

def pollControlReceive : Recorded ControlEvent Stepped :=
  let defers (frame : ControlFrame) : Bool :=
    shouldDeferReceivedFrame frame.frameType d.flowControl.pendingInbound.isSome d.sender.phase
  match d.receiver with
  | .terminal => return (.none, d, endpoint)
  | .deferred frame =>
    if defers frame then return (.none, d, endpoint)
    else processReceivedFrame { d with receiver := .terminal } t endpoint frame
  | .pending => match t.controlReceive with
    | none => return (.none, d, endpoint)
    | some (.error e) =>
      return EstablishedConnectionDriver.failTerminal { d with receiver := .terminal } endpoint
        (.controlReceive e)
    | some (.ok frame) =>
      if defers frame then return (.none, { d with receiver := .deferred frame }, endpoint)
      else processReceivedFrame d t endpoint frame

/-! ### The data path -/

def pollReliableOutboundAcquisition :
    Recorded ControlEvent Stepped := do
  let (r, reliable, endpoint, fc) ←
    d.reliable.pollOutboundAcquisition t.reliable endpoint d.flowControl
  let d := { d with reliable := reliable, flowControl := fc }
  match r with
  | none => return (.none, d, endpoint)
  | some (.ok progress) => return (.progress (.reliableOutboundAcquisition progress), d, endpoint)
  | some (.error (.outboundAcquisitionBinding flowId e)) =>
    finishDataFailure d t.alloc endpoint
      (FlowDriver.classifyOutboundReliableAcquisitionFailure d.flowControl flowId e)
      (.reliable (.outboundAcquisitionBinding flowId e))
  | some (.error e) => return d.failTerminal endpoint (.reliable e)

def pollReliableInboundAcquisition :
    Recorded ControlEvent Stepped :=
  let (r, reliable) := d.reliable.pollInboundAcquisition t.reliable
  let d := { d with reliable := reliable }
  match r with
  | none => return (.none, d, endpoint)
  | some (.ok ()) => return (.progress .reliableInboundAcquired, d, endpoint)
  | some (.error e) =>
    let disposition : Option EstablishedDataFailureDisposition := match e with
      | .inboundConstruction e => some (FlowDriver.classifyInboundReliableConstructionFailure e)
      | .allocation => some (.connectionTerminal (some .resourceLimitError))
      | .connection => some (.connectionTerminal none)
      | _ => none
    match disposition with
    | none => return d.failTerminal endpoint (.reliable e)
    | some disposition => finishDataFailure d t.alloc endpoint disposition (.reliable e)

def failActive (error : ReliableIoError) :
    Recorded ControlEvent Stepped :=
  if reliableActiveErrorIsConnectionLoss error then
    return d.failTerminal endpoint (.reliable error)
  else match error with
    | .outboundActiveBinding context e =>
      finishDataFailure d t.alloc endpoint
        (FlowDriver.classifyOutboundReliableActiveFailure d.flowControl context e)
        (.reliable error)
    | .inboundActiveBinding context e =>
      finishDataFailure d t.alloc endpoint
        (FlowDriver.classifyInboundReliableActiveFailure d.flowControl context e)
        (.reliable error)
    | _ => return d.failTerminal endpoint (.reliable error)

def pollReliableOutbound : Recorded ControlEvent Stepped := do
  let (r, reliable, endpoint, fc) ←
    d.reliable.pollOutboundBinding t.reliable endpoint d.flowControl
  let d := { d with reliable := reliable, flowControl := fc }
  match r with
  | none => return (.none, d, endpoint)
  | some (.ok progress) => return (.progress (.reliable progress), d, endpoint)
  | some (.error e) => failActive d t endpoint e

def pollReliableInbound : Recorded ControlEvent Stepped := do
  let (r, reliable, endpoint, fc) ←
    d.reliable.pollInboundBinding t.reliable endpoint d.flowControl
  let d := { d with reliable := reliable, flowControl := fc }
  match r with
  | none => return (.none, d, endpoint)
  | some (.ok progress) => return (.progress (.reliable progress), d, endpoint)
  | some (.error e) => failActive d t endpoint e

def driveDatagramOutbound : Recorded ControlEvent Stepped := do
  let (r, datagram, endpoint) ← d.datagram.driveOutbound t.datagram.send endpoint d.flowControl
  let d := { d with datagram := datagram }
  match r with
  | .ok none => return (.none, d, endpoint)
  | .ok (some progress) => return (.progress (.datagramOutbound progress), d, endpoint)
  | .error (.send flowId e) =>
    finishDataFailure d t.alloc endpoint
      (FlowDriver.classifyDatagramSendFailure d.flowControl flowId e) (.datagram (.send flowId e))
  | .error e => return d.failTerminal endpoint (.datagram e)

def pollDatagramInbound : Recorded ControlEvent Stepped := do
  let (r, datagram, endpoint) ← d.datagram.pollInbound t.datagram endpoint d.flowControl
  let d := { d with datagram := datagram }
  match r with
  | none => return (.none, d, endpoint)
  | some (.ok outcome) => return (.progress (.datagramInbound outcome), d, endpoint)
  | some (.error (.receive failure)) =>
    finishDataFailure d t.alloc endpoint
      (FlowDriver.classifyDatagramReceiveFailure d.flowControl failure)
      (.datagram (.receive failure))
  | some (.error e) => return d.failTerminal endpoint (.datagram e)

/-! ### One step -/

def pollCategory (index : Nat) : Recorded ControlEvent Stepped :=
  match index with
  | 0 => do
    let (step, d) ← pollControlSend d t
    return (step, d, endpoint)
  | 1 => if t.peerNoErrorClose then return (.none, d, endpoint) else pollControlReceive d t endpoint
  | index =>
    if ¬ d.dataPollAllowed then return (.none, d, endpoint)
    else match index with
      | 2 => pollReliableOutboundAcquisition d t endpoint
      | 3 => pollReliableInboundAcquisition d t endpoint
      | 4 => pollReliableOutbound d t endpoint
      | 5 => pollReliableInbound d t endpoint
      | 6 => driveDatagramOutbound d t endpoint
      | 7 => pollDatagramInbound d t endpoint
      | _ => liftM (m := Checked) (Checked.unreachable "established driver category is bounded")

def pollFrom (t : DriverTransport) (next : Nat) : List Nat → EstablishedConnectionDriver →
    DeliveryEndpoint → Recorded ControlEvent PolledDriver
  | [], d, endpoint => return (none, { d with pollCursor := next }, endpoint)
  | index :: rest, d, endpoint => do
    match ← pollCategory d t endpoint index with
    | (.none, d, endpoint) => pollFrom t next rest d endpoint
    | (.progress progress, d, endpoint) =>
      return (some (.ok progress), { d with pollCursor := nextPollCursor index }, endpoint)
    | (.error e, d, endpoint) =>
      return (some (.error e), { d with pollCursor := nextPollCursor index }, endpoint)

def pollRound : Recorded ControlEvent PolledDriver :=
  let start := d.pollCursor % driverCategoryCount
  pollFrom t (nextPollCursor start) (rotation start driverCategoryCount) d endpoint

def pollStep : Recorded ControlEvent PolledDriver :=
  if d.phase = .terminal then return (some (.error (.state .terminal)), d, endpoint)
  else if t.peerNoErrorClose then do
    match ← pollControlReceive d t endpoint with
    | (.none, d, endpoint) => pollRound d t endpoint
    | (.progress progress, d, endpoint) =>
      return (some (.ok progress), { d with pollCursor := nextPollCursor 1 }, endpoint)
    | (.error e, d, endpoint) =>
      return (some (.error e), { d with pollCursor := nextPollCursor 1 }, endpoint)
  else pollRound d t endpoint

/-! ### Commands of the host -/

def openOutbound (maxDatagramSize : Option Nat) (request : OutboundOpenRequest) :
    Recorded ControlEvent (Except ConnectionDriverError Unit × EstablishedConnectionDriver) :=
  match d.requireControlSendReady with
  | .error e => return (.error (.state e), d)
  | .ok () => do
    let (r, fc) ←
      making (FlowDriver.prepareOutboundOpen maxDatagramSize d.flowControl alloc endpoint request)
        fun answer => answer.1.toOption
    let d := { d with flowControl := fc }
    match r with
    | .error e => return (.error (.outboundOpen e),
        if outboundOpenErrorIsConnectionTerminal e then d.enterTerminal else d)
    | .ok pending => startPreparedSend d pending

def startDecision (decided : FlowDriver.Decided) :
    Recorded ControlEvent DecidedDriver :=
  let (r, fc, endpoint) := decided
  let d := { d with flowControl := fc }
  match r with
  | .error e => return (.error (.driver (.inboundAdmission e)),
      if inboundAdmissionErrorIsConnectionTerminal e then d.enterTerminal else d, endpoint)
  | .ok pending => do
    let (started, d) ← startPreparedSend d pending
    return (started.mapError .driver, d, endpoint)

def acceptInbound (request : InboundOpenRequest) (admission : InboundAdmission) :
    Recorded ControlEvent DecidedDriver :=
  match d.requireControlSendReady with
  | .error e => return (.error (.unavailable request e), d, endpoint)
  | .ok () => do
    let decided ← making (FlowDriver.acceptInbound d.flowControl alloc endpoint request admission
      d.reliable.maxStagingBytes) fun answer => answer.1.toOption
    startDecision d decided

def rejectInbound (request : InboundOpenRequest) (reason : FlowRejectReason) :
    Recorded ControlEvent DecidedDriver :=
  match d.requireControlSendReady with
  | .error e => return (.error (.unavailable request e), d, endpoint)
  | .ok () => do
    let decided ← making (FlowDriver.rejectInbound d.flowControl alloc endpoint request reason)
      fun answer => answer.1.toOption
    startDecision d decided

def requestOutboundFinishNormal (finished : Except IoFailure Unit) (flowId : FlowId) :
    Recorded ControlEvent Finished :=
  match d.requireControlSendReady with
  | .error e => return (.error (.state e), d, endpoint)
  | .ok () => do
    let (r, reliable) ← d.reliable.requestOutboundFinishNormal finished endpoint flowId
    let d := { d with reliable := reliable }
    match r with
    | .ok () => return (.ok .started, d, endpoint)
    | .error error => match error with
      | .state .outboundAcquisitionPending | .state .unknownOutboundFlow =>
        return (.error (.reliable error), d, endpoint)
      | .outboundFinish failedId e =>
        match FlowDriver.classifyOutboundReliableFinishFailure d.flowControl failedId e with
        | none => return (.error (.reliable error), d, endpoint)
        | some disposition =>
          let (r, d, endpoint) ← applyDataFailure d alloc endpoint disposition (.reliable error)
          return (r.map .flowFailureHandled, d, endpoint)
      | _ => return (.error (.reliable error), d.enterTerminal, endpoint)

def requestOutboundFinishNormalByKey (finished : Except IoFailure Unit) (key : DeliveryFlowKey)
    (mode : DeliveryMode) : Recorded ControlEvent KeyedFinished :=
  match d.requireControlSendReady with
  | .error e => return (.error (.state e), d, endpoint)
  | .ok () => match mode with
    | .reliableOrdered => match d.reliable.outboundFlowId d.flowControl key with
      | none => return (.error .unknownFlow, d, endpoint)
      | some flowId => do
        let (r, d, endpoint) ← requestOutboundFinishNormal d alloc endpoint finished flowId
        return (r.mapError .driver, d, endpoint)
    | .unreliableUnordered | .unreliableSequenced =>
      match d.datagram.outboundFlowId d.flowControl key with
      | none => return (.error .unknownFlow, d, endpoint)
      | some flowId => do
        let (r, fc, endpoint) ←
          making (FlowDriver.terminateLocal d.flowControl alloc endpoint flowId .normal)
            fun answer => answer.1.toOption
        let d := { d with flowControl := fc }
        match r with
        | .error e => return (.error (.driver (.failurePreparation e)), d, endpoint)
        | .ok pending =>
          let (started, d) ← startPreparedSend d pending
          return (match started with
            | .error e => .error (.driver e)
            | .ok () => .ok .started, d, endpoint)

def submitUnreliable (maxDatagramSize : Option Nat) (flowId : FlowId) (payload : List UInt8) :
    Recorded ControlEvent (Except DatagramSubmitDriverError DatagramSubmitOutcome ×
      EstablishedConnectionDriver × DeliveryEndpoint) :=
  match d.requireControlSendReady with
  | .error e => return (.error (.unavailable flowId payload e), d, endpoint)
  | .ok () => do
    let (r, endpoint) ←
      submitDatagram maxDatagramSize endpoint d.flowControl.registry flowId payload
    match r with
    | .ok outcome =>
      if datagramSubmissionOutcomeIsConnectionTerminal outcome then
        return (.error (.driver .datagramProfileUnavailable), d.enterTerminal, endpoint)
      else return (.ok (.submitted outcome), d, endpoint)
    | .error error =>
      match FlowDriver.classifyDatagramSubmissionError d.flowControl flowId error with
      | some disposition =>
        let (r, d, endpoint) ←
          applyDataFailure d alloc endpoint disposition (.datagramSubmission error)
        return ((r.mapError .driver).map .flowFailureHandled, d, endpoint)
      | none => return (.error (.driver (.datagramSubmission error)),
          if datagramSubmissionErrorIsConnectionTerminal error then d.enterTerminal else d,
          endpoint)

def submitUnreliableByKey (maxDatagramSize : Option Nat) (key : DeliveryFlowKey)
    (payload : List UInt8) :
    Recorded ControlEvent (Except KeyedDatagramSubmitError DatagramSubmitOutcome ×
      EstablishedConnectionDriver × DeliveryEndpoint) :=
  match d.datagram.outboundFlowId d.flowControl key with
  | none => return (.error (.unknownFlow payload), d, endpoint)
  | some flowId => do
    let (r, d, endpoint) ← submitUnreliable d alloc endpoint maxDatagramSize flowId payload
    return (r.mapError fun
      | .unavailable _ payload error => .unavailable payload error
      | .driver error => .driver error, d, endpoint)

/-! ### The record changes nothing -/

variable {d t alloc endpoint}

@[simp] theorem plain_produced (made : Option PendingFlowControlSend) :
    (produced made).plain = .ok () := by
  cases made <;> rfl

@[simp] theorem plain_making {α : Type} (call : Checked α)
    (made : α → Option PendingFlowControlSend) : (making call made).plain = call := by
  cases call with
  | error => rfl
  | ok answer => simp [making]

@[simp] theorem plain_processReceived (fc : FlowControl) (frame : ControlFrame) :
    (processReceived fc alloc endpoint frame).plain =
      FlowDriver.processReceived fc alloc endpoint frame := by
  simp only [processReceived, Recorded.plain_bind, Recorded.plain_lift, Recorded.plain_note,
    plain_produced, Checked.ok_bind]
  exact bind_pure _

@[simp] theorem plain_startPreparedSend (pending : PendingFlowControlSend) :
    (startPreparedSend d pending).plain = .ok (d.startPreparedSend pending) := rfl

@[simp] theorem plain_pollControlSend :
    (pollControlSend d t).plain = .ok (d.pollControlSend t) := by
  unfold pollControlSend
  split <;> rfl

theorem plain_applyDataFailure (disposition : EstablishedDataFailureDisposition)
    (terminalError : ConnectionDriverError) :
    (applyDataFailure d alloc endpoint disposition terminalError).plain =
      d.applyDataFailure alloc endpoint disposition terminalError := by
  cases disposition with
  | connectionTerminal => rfl
  | _ =>
    simp only [applyDataFailure, prepareFailure, EstablishedConnectionDriver.applyDataFailure,
      Recorded.plain_bind, plain_making]
    refine bind_congr fun answer => ?_
    obtain ⟨r, fc, endpoint'⟩ := answer
    cases r with
    | error => rfl
    | ok progress =>
      cases progress with
      | pendingSend pending =>
        simp only [Recorded.plain_bind, plain_startPreparedSend, Checked.ok_bind]
        generalize EstablishedConnectionDriver.startPreparedSend _ pending = started
        obtain ⟨r, d'⟩ := started
        cases r <;> rfl
      | cleanupOnly => simp
      | connectionTerminal => rfl

theorem plain_finishDataFailure (disposition : EstablishedDataFailureDisposition)
    (terminalError : ConnectionDriverError) :
    (finishDataFailure d alloc endpoint disposition terminalError).plain =
      d.finishDataFailure alloc endpoint disposition terminalError := by
  simp only [finishDataFailure, EstablishedConnectionDriver.finishDataFailure, Recorded.plain_bind,
    plain_applyDataFailure]
  refine bind_congr fun answer => ?_
  obtain ⟨r, d', endpoint'⟩ := answer
  cases r <;> rfl

theorem plain_routeOutboundEstablished (flow : EstablishedFlow) :
    (routeOutboundEstablished d t endpoint flow).plain =
      d.routeOutboundEstablished t flow endpoint := by
  unfold routeOutboundEstablished EstablishedConnectionDriver.routeOutboundEstablished
  cases outboundTransportOwner flow.mode with
  | reliable =>
    simp only [Recorded.plain_bind, Recorded.plain_lift]
    refine bind_congr fun answer => ?_
    obtain ⟨r, reliable⟩ := answer
    cases r with
    | ok => rfl
    | error e => cases e <;> first | rfl | exact plain_finishDataFailure _ _
  | datagram =>
    simp only [Recorded.plain_bind, Recorded.plain_lift]
    refine bind_congr fun answer => ?_
    obtain ⟨r, datagram⟩ := answer
    cases r with
    | ok => rfl
    | error e => cases e <;> first | rfl | exact plain_finishDataFailure _ _

theorem plain_routeFlowControlProgress (progress : FlowControlDriverProgress) :
    (routeFlowControlProgress d t endpoint progress).plain =
      d.routeFlowControlProgress t progress endpoint := by
  cases progress with
  | pendingSend pending =>
    simp only [routeFlowControlProgress, EstablishedConnectionDriver.routeFlowControlProgress,
      Recorded.plain_bind, plain_startPreparedSend, Checked.ok_bind]
    generalize EstablishedConnectionDriver.startPreparedSend _ pending = started
    obtain ⟨r, d'⟩ := started
    cases r <;> rfl
  | outboundEstablished flow => exact plain_routeOutboundEstablished flow
  | _ => rfl

theorem plain_processReceivedFrame (frame : ControlFrame) :
    (processReceivedFrame d t endpoint frame).plain =
      d.processReceivedFrame t frame endpoint := by
  simp only [processReceivedFrame, EstablishedConnectionDriver.processReceivedFrame,
    Recorded.plain_bind, plain_processReceived]
  refine bind_congr fun answer => ?_
  obtain ⟨r, fc, endpoint'⟩ := answer
  cases r with
  | error => rfl
  | ok progress => exact plain_routeFlowControlProgress progress

theorem plain_pollControlReceive :
    (pollControlReceive d t endpoint).plain = d.pollControlReceive t endpoint := by
  unfold pollControlReceive EstablishedConnectionDriver.pollControlReceive
  cases d.receiver with
  | terminal => rfl
  | deferred frame =>
    simp only
    split
    · rfl
    · exact plain_processReceivedFrame frame
  | pending =>
    simp only
    cases t.controlReceive with
    | none => rfl
    | some received =>
      cases received with
      | error => rfl
      | ok frame =>
        simp only
        split
        · rfl
        · exact plain_processReceivedFrame frame

theorem plain_failActive (error : ReliableIoError) :
    (failActive d t endpoint error).plain = d.failActive t endpoint error := by
  unfold failActive EstablishedConnectionDriver.failActive
  split
  · rfl
  · cases error with
    | outboundActiveBinding => exact plain_finishDataFailure _ _
    | inboundActiveBinding => exact plain_finishDataFailure _ _
    | _ => rfl

theorem plain_pollReliableOutboundAcquisition :
    (pollReliableOutboundAcquisition d t endpoint).plain =
      d.pollReliableOutboundAcquisition t endpoint := by
  simp only [pollReliableOutboundAcquisition,
    EstablishedConnectionDriver.pollReliableOutboundAcquisition, Recorded.plain_bind,
    Recorded.plain_lift]
  refine bind_congr fun answer => ?_
  obtain ⟨r, reliable, endpoint', fc⟩ := answer
  rcases r with _ | e | progress
  · rfl
  · cases e with
    | outboundAcquisitionBinding => exact plain_finishDataFailure _ _
    | _ => rfl
  · rfl

theorem plain_pollReliableInboundAcquisition :
    (pollReliableInboundAcquisition d t endpoint).plain =
      d.pollReliableInboundAcquisition t endpoint := by
  unfold pollReliableInboundAcquisition EstablishedConnectionDriver.pollReliableInboundAcquisition
  generalize d.reliable.pollInboundAcquisition t.reliable = answer
  obtain ⟨r, reliable⟩ := answer
  rcases r with _ | e | acquired
  · rfl
  · cases e <;> rfl
  · rfl

theorem plain_pollReliableOutbound :
    (pollReliableOutbound d t endpoint).plain = d.pollReliableOutbound t endpoint := by
  simp only [pollReliableOutbound, EstablishedConnectionDriver.pollReliableOutbound,
    Recorded.plain_bind, Recorded.plain_lift]
  refine bind_congr fun answer => ?_
  obtain ⟨r, reliable, endpoint', fc⟩ := answer
  simp only
  split
  · rfl
  · rfl
  · exact plain_failActive _

theorem plain_pollReliableInbound :
    (pollReliableInbound d t endpoint).plain = d.pollReliableInbound t endpoint := by
  simp only [pollReliableInbound, EstablishedConnectionDriver.pollReliableInbound,
    Recorded.plain_bind, Recorded.plain_lift]
  refine bind_congr fun answer => ?_
  obtain ⟨r, reliable, endpoint', fc⟩ := answer
  simp only
  split
  · rfl
  · rfl
  · exact plain_failActive _

theorem plain_driveDatagramOutbound :
    (driveDatagramOutbound d t endpoint).plain = d.driveDatagramOutbound t endpoint := by
  simp only [driveDatagramOutbound, EstablishedConnectionDriver.driveDatagramOutbound,
    Recorded.plain_bind, Recorded.plain_lift]
  refine bind_congr fun answer => ?_
  obtain ⟨r, datagram, endpoint'⟩ := answer
  rcases r with e | _ | progress
  · cases e with
    | send => exact plain_finishDataFailure _ _
    | _ => rfl
  · rfl
  · rfl

theorem plain_pollDatagramInbound :
    (pollDatagramInbound d t endpoint).plain = d.pollDatagramInbound t endpoint := by
  simp only [pollDatagramInbound, EstablishedConnectionDriver.pollDatagramInbound,
    Recorded.plain_bind, Recorded.plain_lift]
  refine bind_congr fun answer => ?_
  obtain ⟨r, datagram, endpoint'⟩ := answer
  rcases r with _ | e | outcome
  · rfl
  · cases e with
    | receive => exact plain_finishDataFailure _ _
    | _ => rfl
  · rfl

theorem plain_pollCategory (index : Nat) :
    (pollCategory d t endpoint index).plain = d.pollCategory t endpoint index := by
  unfold pollCategory EstablishedConnectionDriver.pollCategory
  rcases index with _ | _ | index
  · simp only [Recorded.plain_bind, plain_pollControlSend, Checked.ok_bind]
    rfl
  · simp only
    split
    · rfl
    · exact plain_pollControlReceive
  · simp only
    split
    · rfl
    · rcases index with _ | _ | _ | _ | _ | _ | index
      · exact plain_pollReliableOutboundAcquisition
      · exact plain_pollReliableInboundAcquisition
      · exact plain_pollReliableOutbound
      · exact plain_pollReliableInbound
      · exact plain_driveDatagramOutbound
      · exact plain_pollDatagramInbound
      · exact Recorded.plain_lift _

theorem plain_pollFrom (next : Nat) (indices : List Nat) :
    (pollFrom t next indices d endpoint).plain =
      EstablishedConnectionDriver.pollFrom t next indices d endpoint := by
  induction indices generalizing d endpoint with
  | nil => rfl
  | cons index rest ih =>
    simp only [pollFrom, EstablishedConnectionDriver.pollFrom, Recorded.plain_bind,
      plain_pollCategory]
    refine bind_congr fun answer => ?_
    obtain ⟨step, d', endpoint'⟩ := answer
    cases step with
    | none => exact ih
    | progress => rfl
    | error => rfl

theorem plain_pollRound : (pollRound d t endpoint).plain = d.pollRound t endpoint :=
  plain_pollFrom _ _

theorem plain_pollStep : (pollStep d t endpoint).plain = d.pollStep t endpoint := by
  unfold pollStep EstablishedConnectionDriver.pollStep
  split
  · rfl
  · split
    · simp only [Recorded.plain_bind, plain_pollControlReceive]
      refine bind_congr fun answer => ?_
      obtain ⟨step, d', endpoint'⟩ := answer
      cases step with
      | none => exact plain_pollRound
      | progress => rfl
      | error => rfl
    · exact plain_pollRound

theorem plain_openOutbound (maxDatagramSize : Option Nat) (request : OutboundOpenRequest) :
    (openOutbound d alloc endpoint maxDatagramSize request).plain =
      d.openOutbound alloc maxDatagramSize endpoint request := by
  unfold openOutbound EstablishedConnectionDriver.openOutbound
  cases d.requireControlSendReady with
  | error => rfl
  | ok =>
    simp only [Recorded.plain_bind, plain_making]
    refine bind_congr fun answer => ?_
    obtain ⟨r, fc⟩ := answer
    cases r <;> rfl

theorem plain_startDecision (decided : FlowDriver.Decided) :
    (startDecision d decided).plain = .ok (d.startDecision decided) := by
  obtain ⟨r, fc, endpoint'⟩ := decided
  cases r <;> rfl

theorem plain_acceptInbound (request : InboundOpenRequest) (admission : InboundAdmission) :
    (acceptInbound d alloc endpoint request admission).plain =
      d.acceptInbound alloc endpoint request admission := by
  unfold acceptInbound EstablishedConnectionDriver.acceptInbound
  cases d.requireControlSendReady with
  | error => rfl
  | ok =>
    simp only [Recorded.plain_bind, plain_making, plain_startDecision]
    rfl

theorem plain_rejectInbound (request : InboundOpenRequest) (reason : FlowRejectReason) :
    (rejectInbound d alloc endpoint request reason).plain =
      d.rejectInbound alloc endpoint request reason := by
  unfold rejectInbound EstablishedConnectionDriver.rejectInbound
  cases d.requireControlSendReady with
  | error => rfl
  | ok =>
    simp only [Recorded.plain_bind, plain_making, plain_startDecision]
    rfl

theorem plain_requestOutboundFinishNormal (finished : Except IoFailure Unit) (flowId : FlowId) :
    (requestOutboundFinishNormal d alloc endpoint finished flowId).plain =
      d.requestOutboundFinishNormal alloc finished endpoint flowId := by
  unfold requestOutboundFinishNormal EstablishedConnectionDriver.requestOutboundFinishNormal
  cases d.requireControlSendReady with
  | error => rfl
  | ok =>
    simp only [Recorded.plain_bind, Recorded.plain_lift]
    refine bind_congr fun answer => ?_
    obtain ⟨r, reliable⟩ := answer
    cases r with
    | ok => rfl
    | error e =>
      cases e with
      | state e => cases e <;> rfl
      | outboundFinish failedId e =>
        simp only
        cases FlowDriver.classifyOutboundReliableFinishFailure d.flowControl failedId e with
        | none => rfl
        | some disposition =>
          simp only [Recorded.plain_bind, plain_applyDataFailure]
          rfl
      | _ => rfl

theorem plain_requestOutboundFinishNormalByKey (finished : Except IoFailure Unit)
    (key : DeliveryFlowKey) (mode : DeliveryMode) :
    (requestOutboundFinishNormalByKey d alloc endpoint finished key mode).plain =
      d.requestOutboundFinishNormalByKey alloc finished endpoint key mode := by
  unfold requestOutboundFinishNormalByKey
    EstablishedConnectionDriver.requestOutboundFinishNormalByKey
  cases d.requireControlSendReady with
  | error => rfl
  | ok =>
    cases mode with
    | reliableOrdered =>
      simp only
      cases d.reliable.outboundFlowId d.flowControl key with
      | none => rfl
      | some flowId =>
        simp only [Recorded.plain_bind, plain_requestOutboundFinishNormal]
        rfl
    | _ =>
      simp only
      cases d.datagram.outboundFlowId d.flowControl key with
      | none => rfl
      | some flowId =>
        simp only [Recorded.plain_bind, plain_making]
        refine bind_congr fun answer => ?_
        obtain ⟨r, fc, endpoint'⟩ := answer
        cases r <;> rfl

theorem plain_submitUnreliable (maxDatagramSize : Option Nat) (flowId : FlowId)
    (payload : List UInt8) :
    (submitUnreliable d alloc endpoint maxDatagramSize flowId payload).plain =
      d.submitUnreliable alloc maxDatagramSize endpoint flowId payload := by
  unfold submitUnreliable EstablishedConnectionDriver.submitUnreliable
  cases d.requireControlSendReady with
  | error => rfl
  | ok =>
    simp only [Recorded.plain_bind, Recorded.plain_lift]
    refine bind_congr fun answer => ?_
    obtain ⟨r, endpoint'⟩ := answer
    cases r with
    | ok outcome =>
      simp only
      split <;> rfl
    | error e =>
      simp only
      cases FlowDriver.classifyDatagramSubmissionError d.flowControl flowId e with
      | none => rfl
      | some disposition =>
        simp only [Recorded.plain_bind, plain_applyDataFailure]
        rfl

theorem plain_submitUnreliableByKey (maxDatagramSize : Option Nat) (key : DeliveryFlowKey)
    (payload : List UInt8) :
    (submitUnreliableByKey d alloc endpoint maxDatagramSize key payload).plain =
      d.submitUnreliableByKey alloc maxDatagramSize endpoint key payload := by
  unfold submitUnreliableByKey EstablishedConnectionDriver.submitUnreliableByKey
  cases d.datagram.outboundFlowId d.flowControl key with
  | none => rfl
  | some flowId =>
    simp only [Recorded.plain_bind, plain_submitUnreliable]
    refine bind_congr fun answer => ?_
    obtain ⟨r, d', endpoint'⟩ := answer
    cases r with
    | ok => rfl
    | error e => cases e <;> rfl

end RecordedDriver

end RunenNet
