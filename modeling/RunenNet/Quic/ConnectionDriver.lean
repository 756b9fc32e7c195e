import RunenNet.Quic.FlowDriver
import RunenNet.Quic.ControlStream

/-!
# The driver of an established connection

A step goes round eight categories from a cursor: the control stream, the reliable streams and the
datagrams. It stops at the first category that has progress or fails.
-/

namespace RunenNet

open Foundation

structure FlowControlSendError where
  error : ProfileBootstrapError
  effect : FlowControlSendEffect

/-! ### The driver -/

def driverCategoryCount : Nat := 8

inductive DriverPhase where
  | active
  | terminal
  deriving DecidableEq, Repr

inductive ControlSendPhase where
  | ready
  | pending
  | terminal
  deriving DecidableEq, Repr

/-- A pending send is a future that owns its frame and its effect. -/
inductive ControlSendState where
  | ready
  | pending (send : PendingFlowControlSend)
  | terminal

def ControlSendState.phase : ControlSendState → ControlSendPhase
  | .ready => .ready
  | .pending _ => .pending
  | .terminal => .terminal

inductive ControlReceiveState where
  | pending
  | deferred (frame : ControlFrame)
  | terminal

inductive ConnectionDriverStateError where
  | terminal
  | controlSendBusy
  deriving DecidableEq, Repr

inductive ConnectionDriverError where
  | state (e : ConnectionDriverStateError)
  | outboundOpen (e : OutboundOpenError)
  | inboundAdmission (e : InboundAdmissionError)
  | datagramSubmission (e : DatagramSubmitError)
  | datagramProfileUnavailable
  | controlReceive (e : ProfileBootstrapError)
  | controlSend (e : FlowControlSendError)
  | receivedFlowControl (e : FlowControlError)
  | reliable (e : ReliableIoError)
  | datagram (e : DatagramIoError)
  | failurePreparation (e : FlowControlError)

inductive EstablishedConnectionProgress where
  | controlSendStarted
  | controlSendCompleted (effect : FlowControlSendEffect)
  | inboundOpen (request : InboundOpenRequest)
  | outboundEstablished (flow : EstablishedFlow)
  | outboundRejected (flowId : FlowId) (key : DeliveryFlowKey) (reason : FlowRejectReason)
  | remoteTerminated (flow : EstablishedFlow) (reason : FlowTerminateReason)
      (termination : FlowTermination)
  | reliableOutboundAcquisition (progress : OutboundAcquisitionProgress)
  | reliableInboundAcquired
  | reliable (progress : ActiveReliableProgress)
  | datagramOutbound (progress : DatagramOutboundProgress)
  | datagramInbound (outcome : DatagramReceiveOutcome)
  | flowFailureHandled (flowId : FlowId)

inductive DriverStep where
  | none
  | progress (progress : EstablishedConnectionProgress)
  | error (error : ConnectionDriverError)

inductive OutboundTransportOwner where
  | reliable
  | datagram
  deriving DecidableEq, Repr

structure EstablishedConnectionDriver where
  flowControl : FlowControl
  reliable : ReliableConnectionIo
  datagram : DatagramConnectionIo
  sender : ControlSendState
  receiver : ControlReceiveState
  phase : DriverPhase
  pollCursor : Nat

/-- What the transport and the allocator answer one step of the driver. -/
structure DriverTransport where
  peerNoErrorClose : Bool
  controlSend : Polled (Except ProfileBootstrapError Unit)
  controlReceive : Polled (Except ProfileBootstrapError ControlFrame)
  reliable : ReliableTransport
  datagram : DatagramTransport
  alloc : Allocator
  reservesActive : Bool
  reservesPending : Bool
  reservesDatagram : Bool

def reliableActiveErrorIsConnectionLoss : ReliableIoError → Bool
  | .outboundActiveBinding _ (.io .connectionLost) => true
  | .inboundActiveBinding _ (.io .connectionLost) => true
  | _ => false

def controlOperationError : DriverPhase → ControlSendPhase → Option ConnectionDriverStateError
  | .terminal, _ | _, .terminal => some .terminal
  | .active, .pending => some .controlSendBusy
  | .active, .ready => none

def shouldDeferReceivedFrame (frameType : ControlFrameType) (pendingInbound : Bool)
    (sender : ControlSendPhase) : Bool :=
  sender ≠ .ready || (pendingInbound && frameType = .openFlow)

def outboundTransportOwner : DeliveryMode → OutboundTransportOwner
  | .reliableOrdered => .reliable
  | .unreliableUnordered | .unreliableSequenced => .datagram

def outboundOpenErrorIsConnectionTerminal : OutboundOpenError → Bool
  | .datagramUnavailable => true
  | _ => false

def inboundAdmissionErrorIsConnectionTerminal : InboundAdmissionError → Bool
  | .requestNotPending _ => false
  | _ => true

def datagramSubmissionOutcomeIsConnectionTerminal : DatagramSubmissionOutcome → Bool
  | .rejectedTransportUnavailable => true
  | _ => false

def datagramSubmissionErrorIsConnectionTerminal : DatagramSubmitError → Bool
  | .core _ | .envelope (.wire _) | .envelope .lengthOverflow | .acceptedIndexMismatch _ _ => true
  | _ => false

def nextPollCursor (current : Nat) : Nat := (current + 1) % driverCategoryCount

namespace EstablishedConnectionDriver

def new (fc : FlowControl) (maxStagingBytes : NonZeroUsize) : EstablishedConnectionDriver where
  flowControl := fc
  reliable := .new maxStagingBytes
  datagram := .new
  sender := .ready
  receiver := .pending
  phase := .active
  pollCursor := 0

/-- The driver stops. A pending send is dropped with its effect; what code the connection is closed
with, only the peer sees. -/
def enterTerminal (d : EstablishedConnectionDriver) : EstablishedConnectionDriver :=
  if d.phase = .terminal then d
  else { d with phase := .terminal, sender := .terminal, receiver := .terminal }

def requireControlSendReady (d : EstablishedConnectionDriver) :
    Except ConnectionDriverStateError Unit :=
  match controlOperationError d.phase d.sender.phase with
  | some e => .error e
  | none => .ok ()

def dataPollAllowed (d : EstablishedConnectionDriver) : Bool :=
  d.phase = .active && d.sender.phase = .ready

/-! ### Sending -/

def startControlSend (d : EstablishedConnectionDriver) (pending : PendingFlowControlSend) :
    Except ConnectionDriverStateError Unit × EstablishedConnectionDriver :=
  if d.phase = .terminal then (.error .terminal, d)
  else match d.sender with
    | .ready => (.ok (), { d with sender := .pending pending })
    | .pending _ => (.error .controlSendBusy, d)
    | .terminal => (.error .terminal, d)

def startPreparedSend (d : EstablishedConnectionDriver) (pending : PendingFlowControlSend) :
    Except ConnectionDriverError Unit × EstablishedConnectionDriver :=
  match d.startControlSend pending with
  | (.error e, d) => (.error (.state e), d.enterTerminal)
  | (.ok (), d) => (.ok (), d)

def pollControlSend (d : EstablishedConnectionDriver) (t : DriverTransport) :
    DriverStep × EstablishedConnectionDriver :=
  match d.sender with
  | .ready | .terminal => (.none, d)
  | .pending send => match t.controlSend with
    | none => (.none, d)
    | some (.ok ()) => (.progress (.controlSendCompleted send.effect), { d with sender := .ready })
    | some (.error e) => (.error (.controlSend ⟨e, send.effect⟩), d.enterTerminal)

/-! ### Failures of the data path -/

/-- What a step answers, and the state after it. -/
abbrev Stepped := DriverStep × EstablishedConnectionDriver × DeliveryEndpoint

def applyDataFailure (d : EstablishedConnectionDriver) (alloc : Allocator)
    (endpoint : DeliveryEndpoint) (disposition : EstablishedDataFailureDisposition)
    (terminalError : ConnectionDriverError) :
    Checked (Except ConnectionDriverError FlowId × EstablishedConnectionDriver ×
      DeliveryEndpoint) :=
  let prepare (flowId : FlowId) : Checked (Except ConnectionDriverError FlowId ×
      EstablishedConnectionDriver × DeliveryEndpoint) := do
    let (r, fc, endpoint) ←
      FlowDriver.prepareEstablishedDataFailure d.flowControl alloc endpoint disposition
    let d := { d with flowControl := fc }
    match r with
    | .error e => return (.error (.failurePreparation e), d.enterTerminal, endpoint)
    | .ok (.pendingSend pending) => match d.startPreparedSend pending with
      | (.error e, d) => return (.error e, d, endpoint)
      | (.ok (), d) => return (.ok flowId, d, endpoint)
    | .ok (.cleanupOnly cleanedFlowId) =>
      Checked.assert (cleanedFlowId = flowId)
      return (.ok flowId, d, endpoint)
    | .ok (.connectionTerminal _) => return (.error terminalError, d.enterTerminal, endpoint)
  match disposition with
  | .terminateAndReport flowId _ => prepare flowId
  | .reportOnly flowId _ _ _ => prepare flowId
  | .cleanupOnly flowId => prepare flowId
  | .connectionTerminal _ => .ok (.error terminalError, d.enterTerminal, endpoint)

def finishDataFailure (d : EstablishedConnectionDriver) (alloc : Allocator)
    (endpoint : DeliveryEndpoint) (disposition : EstablishedDataFailureDisposition)
    (terminalError : ConnectionDriverError) : Checked Stepped := do
  match ← d.applyDataFailure alloc endpoint disposition terminalError with
  | (.ok flowId, d, endpoint) => return (.progress (.flowFailureHandled flowId), d, endpoint)
  | (.error e, d, endpoint) => return (.error e, d, endpoint)

/-- A failure that has no flow of its own to end. -/
def failTerminal (d : EstablishedConnectionDriver) (endpoint : DeliveryEndpoint)
    (error : ConnectionDriverError) : Stepped :=
  (.error error, d.enterTerminal, endpoint)

/-! ### Receiving -/

def routeOutboundEstablished (d : EstablishedConnectionDriver) (t : DriverTransport)
    (flow : EstablishedFlow) (endpoint : DeliveryEndpoint) : Checked Stepped :=
  match outboundTransportOwner flow.mode with
  | .reliable => do
    let (r, reliable) ←
      d.reliable.scheduleOutbound t.reservesActive t.reservesPending d.flowControl flow
    let d := { d with reliable := reliable }
    match r with
    | .ok () => return (.progress (.outboundEstablished flow), d, endpoint)
    | .error .allocation =>
      d.finishDataFailure t.alloc endpoint
        (FlowDriver.classifyKnownFlowResourceFailure d.flowControl flow.flowId)
        (.reliable .allocation)
    | .error e => return d.failTerminal endpoint (.reliable e)
  | .datagram => do
    let (r, datagram) ← d.datagram.registerOutbound t.reservesDatagram d.flowControl flow
    let d := { d with datagram := datagram }
    match r with
    | .ok () => return (.progress (.outboundEstablished flow), d, endpoint)
    | .error .allocation =>
      d.finishDataFailure t.alloc endpoint
        (FlowDriver.classifyKnownFlowResourceFailure d.flowControl flow.flowId)
        (.datagram .allocation)
    | .error e => return d.failTerminal endpoint (.datagram e)

def routeFlowControlProgress (d : EstablishedConnectionDriver) (t : DriverTransport)
    (progress : FlowControlDriverProgress) (endpoint : DeliveryEndpoint) : Checked Stepped :=
  match progress with
  | .inboundOpen request => .ok (.progress (.inboundOpen request), d, endpoint)
  | .pendingSend pending => match d.startPreparedSend pending with
    | (.ok (), d) => .ok (.progress .controlSendStarted, d, endpoint)
    | (.error e, d) => .ok (.error e, d, endpoint)
  | .outboundEstablished flow => d.routeOutboundEstablished t flow endpoint
  | .outboundRejected flowId key reason =>
    .ok (.progress (.outboundRejected flowId key reason), d, endpoint)
  | .remoteTerminated flow reason termination =>
    .ok (.progress (.remoteTerminated flow reason termination), d, endpoint)

def processReceivedFrame (d : EstablishedConnectionDriver) (t : DriverTransport)
    (frame : ControlFrame) (endpoint : DeliveryEndpoint) : Checked Stepped := do
  let (r, fc, endpoint) ← FlowDriver.processReceived d.flowControl t.alloc endpoint frame
  let d := { d with flowControl := fc }
  match r with
  | .error e =>
    return failTerminal { d with receiver := .terminal } endpoint (.receivedFlowControl e)
  | .ok progress => routeFlowControlProgress { d with receiver := .pending } t progress endpoint

def pollControlReceive (d : EstablishedConnectionDriver) (t : DriverTransport)
    (endpoint : DeliveryEndpoint) : Checked Stepped :=
  let defers (frame : ControlFrame) : Bool :=
    shouldDeferReceivedFrame frame.frameType d.flowControl.pendingInbound.isSome d.sender.phase
  match d.receiver with
  | .terminal => .ok (.none, d, endpoint)
  | .deferred frame =>
    if defers frame then .ok (.none, d, endpoint)
    else processReceivedFrame { d with receiver := .terminal } t frame endpoint
  | .pending => match t.controlReceive with
    | none => .ok (.none, d, endpoint)
    | some (.error e) =>
      .ok (failTerminal { d with receiver := .terminal } endpoint (.controlReceive e))
    | some (.ok frame) =>
      if defers frame then .ok (.none, { d with receiver := .deferred frame }, endpoint)
      else d.processReceivedFrame t frame endpoint

/-! ### The data path -/

def pollReliableOutboundAcquisition (d : EstablishedConnectionDriver) (t : DriverTransport)
    (endpoint : DeliveryEndpoint) : Checked Stepped := do
  let (r, reliable, endpoint, fc) ←
    d.reliable.pollOutboundAcquisition t.reliable endpoint d.flowControl
  let d := { d with reliable := reliable, flowControl := fc }
  match r with
  | none => return (.none, d, endpoint)
  | some (.ok progress) => return (.progress (.reliableOutboundAcquisition progress), d, endpoint)
  | some (.error (.outboundAcquisitionBinding flowId e)) =>
    d.finishDataFailure t.alloc endpoint
      (FlowDriver.classifyOutboundReliableAcquisitionFailure d.flowControl flowId e)
      (.reliable (.outboundAcquisitionBinding flowId e))
  | some (.error e) => return d.failTerminal endpoint (.reliable e)

def pollReliableInboundAcquisition (d : EstablishedConnectionDriver) (t : DriverTransport)
    (endpoint : DeliveryEndpoint) : Checked Stepped :=
  let (r, reliable) := d.reliable.pollInboundAcquisition t.reliable
  let d := { d with reliable := reliable }
  match r with
  | none => .ok (.none, d, endpoint)
  | some (.ok ()) => .ok (.progress .reliableInboundAcquired, d, endpoint)
  | some (.error e) =>
    let disposition : Option EstablishedDataFailureDisposition := match e with
      | .inboundConstruction e => some (FlowDriver.classifyInboundReliableConstructionFailure e)
      | .allocation => some (.connectionTerminal (some .resourceLimitError))
      | .connection => some (.connectionTerminal none)
      | _ => none
    match disposition with
    | none => .ok (d.failTerminal endpoint (.reliable e))
    | some disposition => d.finishDataFailure t.alloc endpoint disposition (.reliable e)

/-- The failure of an active binding. -/
def failActive (d : EstablishedConnectionDriver) (t : DriverTransport)
    (endpoint : DeliveryEndpoint) (error : ReliableIoError) : Checked Stepped :=
  if reliableActiveErrorIsConnectionLoss error then
    .ok (d.failTerminal endpoint (.reliable error))
  else match error with
    | .outboundActiveBinding context e =>
      d.finishDataFailure t.alloc endpoint
        (FlowDriver.classifyOutboundReliableActiveFailure d.flowControl context e)
        (.reliable error)
    | .inboundActiveBinding context e =>
      d.finishDataFailure t.alloc endpoint
        (FlowDriver.classifyInboundReliableActiveFailure d.flowControl context e)
        (.reliable error)
    | _ => .ok (d.failTerminal endpoint (.reliable error))

def pollReliableOutbound (d : EstablishedConnectionDriver) (t : DriverTransport)
    (endpoint : DeliveryEndpoint) : Checked Stepped := do
  let (r, reliable, endpoint, fc) ←
    d.reliable.pollOutboundBinding t.reliable endpoint d.flowControl
  let d := { d with reliable := reliable, flowControl := fc }
  match r with
  | none => return (.none, d, endpoint)
  | some (.ok progress) => return (.progress (.reliable progress), d, endpoint)
  | some (.error e) => d.failActive t endpoint e

def pollReliableInbound (d : EstablishedConnectionDriver) (t : DriverTransport)
    (endpoint : DeliveryEndpoint) : Checked Stepped := do
  let (r, reliable, endpoint, fc) ←
    d.reliable.pollInboundBinding t.reliable endpoint d.flowControl
  let d := { d with reliable := reliable, flowControl := fc }
  match r with
  | none => return (.none, d, endpoint)
  | some (.ok progress) => return (.progress (.reliable progress), d, endpoint)
  | some (.error e) => d.failActive t endpoint e

def driveDatagramOutbound (d : EstablishedConnectionDriver) (t : DriverTransport)
    (endpoint : DeliveryEndpoint) : Checked Stepped := do
  let (r, datagram, endpoint) ← d.datagram.driveOutbound t.datagram.send endpoint d.flowControl
  let d := { d with datagram := datagram }
  match r with
  | .ok none => return (.none, d, endpoint)
  | .ok (some progress) => return (.progress (.datagramOutbound progress), d, endpoint)
  | .error (.send flowId e) =>
    d.finishDataFailure t.alloc endpoint
      (FlowDriver.classifyDatagramSendFailure d.flowControl flowId e) (.datagram (.send flowId e))
  | .error e => return d.failTerminal endpoint (.datagram e)

def pollDatagramInbound (d : EstablishedConnectionDriver) (t : DriverTransport)
    (endpoint : DeliveryEndpoint) : Checked Stepped := do
  let (r, datagram, endpoint) ← d.datagram.pollInbound t.datagram endpoint d.flowControl
  let d := { d with datagram := datagram }
  match r with
  | none => return (.none, d, endpoint)
  | some (.ok outcome) => return (.progress (.datagramInbound outcome), d, endpoint)
  | some (.error (.receive failure)) =>
    d.finishDataFailure t.alloc endpoint
      (FlowDriver.classifyDatagramReceiveFailure d.flowControl failure)
      (.datagram (.receive failure))
  | some (.error e) => return d.failTerminal endpoint (.datagram e)

/-! ### One step -/

def pollCategory (d : EstablishedConnectionDriver) (t : DriverTransport)
    (endpoint : DeliveryEndpoint) (index : Nat) : Checked Stepped :=
  match index with
  | 0 =>
    let (step, d) := d.pollControlSend t
    .ok (step, d, endpoint)
  | 1 => if t.peerNoErrorClose then .ok (.none, d, endpoint) else d.pollControlReceive t endpoint
  | index =>
    if ¬ d.dataPollAllowed then .ok (.none, d, endpoint)
    else match index with
      | 2 => d.pollReliableOutboundAcquisition t endpoint
      | 3 => d.pollReliableInboundAcquisition t endpoint
      | 4 => d.pollReliableOutbound t endpoint
      | 5 => d.pollReliableInbound t endpoint
      | 6 => d.driveDatagramOutbound t endpoint
      | 7 => d.pollDatagramInbound t endpoint
      | _ => Checked.unreachable "established driver category is bounded"

/-- What a poll answers, and the state after it. -/
abbrev PolledDriver := Polled (Except ConnectionDriverError EstablishedConnectionProgress) ×
  EstablishedConnectionDriver × DeliveryEndpoint

/-- The loop of `poll_step` over the categories that are left. -/
def pollFrom (t : DriverTransport) (next : Nat) : List Nat → EstablishedConnectionDriver →
    DeliveryEndpoint → Checked PolledDriver
  | [], d, endpoint => .ok (none, { d with pollCursor := next }, endpoint)
  | index :: rest, d, endpoint => do
    match ← d.pollCategory t endpoint index with
    | (.none, d, endpoint) => pollFrom t next rest d endpoint
    | (.progress progress, d, endpoint) =>
      return (some (.ok progress), { d with pollCursor := nextPollCursor index }, endpoint)
    | (.error e, d, endpoint) =>
      return (some (.error e), { d with pollCursor := nextPollCursor index }, endpoint)

def pollRound (d : EstablishedConnectionDriver) (t : DriverTransport)
    (endpoint : DeliveryEndpoint) : Checked PolledDriver :=
  let start := d.pollCursor % driverCategoryCount
  pollFrom t (nextPollCursor start) (rotation start driverCategoryCount) d endpoint

def pollStep (d : EstablishedConnectionDriver) (t : DriverTransport)
    (endpoint : DeliveryEndpoint) : Checked PolledDriver :=
  if d.phase = .terminal then .ok (some (.error (.state .terminal)), d, endpoint)
  else if t.peerNoErrorClose then do
    -- the close wakes every direction; the control receiver goes first
    match ← d.pollControlReceive t endpoint with
    | (.none, d, endpoint) => d.pollRound t endpoint
    | (.progress progress, d, endpoint) =>
      return (some (.ok progress), { d with pollCursor := nextPollCursor 1 }, endpoint)
    | (.error e, d, endpoint) =>
      return (some (.error e), { d with pollCursor := nextPollCursor 1 }, endpoint)
  else d.pollRound t endpoint

/-! ### Commands of the host -/

def openOutbound (d : EstablishedConnectionDriver) (alloc : Allocator)
    (maxDatagramSize : Option Nat) (endpoint : DeliveryEndpoint) (request : OutboundOpenRequest) :
    Checked (Except ConnectionDriverError Unit × EstablishedConnectionDriver) :=
  match d.requireControlSendReady with
  | .error e => .ok (.error (.state e), d)
  | .ok () => do
    let (r, fc) ←
      FlowDriver.prepareOutboundOpen maxDatagramSize d.flowControl alloc endpoint request
    let d := { d with flowControl := fc }
    match r with
    | .error e => return (.error (.outboundOpen e),
        if outboundOpenErrorIsConnectionTerminal e then d.enterTerminal else d)
    | .ok pending => return d.startPreparedSend pending

inductive InboundDecisionDriverError where
  | unavailable (request : InboundOpenRequest) (error : ConnectionDriverStateError)
  | driver (error : ConnectionDriverError)

/-- What a decision answers, and the state after it. -/
abbrev DecidedDriver :=
  Except InboundDecisionDriverError Unit × EstablishedConnectionDriver × DeliveryEndpoint

/-- The end of `accept_inbound` and `reject_inbound`. -/
def startDecision (d : EstablishedConnectionDriver) (decided : FlowDriver.Decided) :
    DecidedDriver :=
  let (r, fc, endpoint) := decided
  let d := { d with flowControl := fc }
  match r with
  | .error e => (.error (.driver (.inboundAdmission e)),
      if inboundAdmissionErrorIsConnectionTerminal e then d.enterTerminal else d, endpoint)
  | .ok pending =>
    let (started, d) := d.startPreparedSend pending
    (started.mapError .driver, d, endpoint)

def acceptInbound (d : EstablishedConnectionDriver) (alloc : Allocator)
    (endpoint : DeliveryEndpoint) (request : InboundOpenRequest) (admission : InboundAdmission) :
    Checked DecidedDriver :=
  match d.requireControlSendReady with
  | .error e => .ok (.error (.unavailable request e), d, endpoint)
  | .ok () => do
    let decided ← FlowDriver.acceptInbound d.flowControl alloc endpoint request admission
      d.reliable.maxStagingBytes
    return d.startDecision decided

def rejectInbound (d : EstablishedConnectionDriver) (alloc : Allocator)
    (endpoint : DeliveryEndpoint) (request : InboundOpenRequest) (reason : FlowRejectReason) :
    Checked DecidedDriver :=
  match d.requireControlSendReady with
  | .error e => .ok (.error (.unavailable request e), d, endpoint)
  | .ok () => do
    let decided ← FlowDriver.rejectInbound d.flowControl alloc endpoint request reason
    return d.startDecision decided

def hasReliableOutboundFlow (d : EstablishedConnectionDriver) (key : DeliveryFlowKey) : Bool :=
  (d.reliable.outboundFlowId d.flowControl key).isSome

inductive OutboundFinishOutcome where
  | started
  | flowFailureHandled (flowId : FlowId)

/-- What a finish answers, and the state after it. -/
abbrev Finished :=
  Except ConnectionDriverError OutboundFinishOutcome × EstablishedConnectionDriver ×
    DeliveryEndpoint

/-- `finished` is the answer of the stream to its finish. -/
def requestOutboundFinishNormal (d : EstablishedConnectionDriver) (alloc : Allocator)
    (finished : Except IoFailure Unit) (endpoint : DeliveryEndpoint) (flowId : FlowId) :
    Checked Finished :=
  match d.requireControlSendReady with
  | .error e => .ok (.error (.state e), d, endpoint)
  | .ok () => do
    let (r, reliable) ← d.reliable.requestOutboundFinishNormal finished endpoint flowId
    let d := { d with reliable := reliable }
    match r with
    | .ok () => return (.ok .started, d, endpoint)
    | .error error => match error with
      | .state .outboundAcquisitionPending | .state .unknownOutboundFlow =>
        return (.error (.reliable error), d, endpoint)
      | .outboundFinish failedId e =>
        match FlowDriver.classifyOutboundReliableFinishFailure d.flowControl failedId e with
        | none => return (.error (.reliable error), d, endpoint)
        | some disposition =>
          let (r, d, endpoint) ←
            d.applyDataFailure alloc endpoint disposition (.reliable error)
          return (r.map .flowFailureHandled, d, endpoint)
      | _ => return (.error (.reliable error), d.enterTerminal, endpoint)

inductive KeyedFinishError where
  | state (e : ConnectionDriverStateError)
  | unknownFlow
  | driver (e : ConnectionDriverError)

/-- What a finish by key answers, and the state after it. -/
abbrev KeyedFinished :=
  Except KeyedFinishError OutboundFinishOutcome × EstablishedConnectionDriver × DeliveryEndpoint

def requestOutboundFinishNormalByKey (d : EstablishedConnectionDriver) (alloc : Allocator)
    (finished : Except IoFailure Unit) (endpoint : DeliveryEndpoint) (key : DeliveryFlowKey)
    (mode : DeliveryMode) : Checked KeyedFinished :=
  match d.requireControlSendReady with
  | .error e => .ok (.error (.state e), d, endpoint)
  | .ok () => match mode with
    | .reliableOrdered => match d.reliable.outboundFlowId d.flowControl key with
      | none => .ok (.error .unknownFlow, d, endpoint)
      | some flowId => do
        let (r, d, endpoint) ← d.requestOutboundFinishNormal alloc finished endpoint flowId
        return (r.mapError .driver, d, endpoint)
    | .unreliableUnordered | .unreliableSequenced =>
      match d.datagram.outboundFlowId d.flowControl key with
      | none => .ok (.error .unknownFlow, d, endpoint)
      | some flowId => do
        let (r, fc, endpoint) ←
          FlowDriver.terminateLocal d.flowControl alloc endpoint flowId .normal
        let d := { d with flowControl := fc }
        match r with
        | .error e => return (.error (.driver (.failurePreparation e)), d, endpoint)
        | .ok pending =>
          let (started, d) := d.startPreparedSend pending
          return (match started with
            | .error e => .error (.driver e)
            | .ok () => .ok .started, d, endpoint)

inductive DatagramSubmitOutcome where
  | submitted (outcome : DatagramSubmissionOutcome)
  | flowFailureHandled (flowId : FlowId)

inductive DatagramSubmitDriverError where
  | unavailable (flowId : FlowId) (payload : List UInt8) (error : ConnectionDriverStateError)
  | driver (error : ConnectionDriverError)

def submitUnreliable (d : EstablishedConnectionDriver) (alloc : Allocator)
    (maxDatagramSize : Option Nat) (endpoint : DeliveryEndpoint) (flowId : FlowId)
    (payload : List UInt8) :
    Checked (Except DatagramSubmitDriverError DatagramSubmitOutcome ×
      EstablishedConnectionDriver × DeliveryEndpoint) :=
  match d.requireControlSendReady with
  | .error e => .ok (.error (.unavailable flowId payload e), d, endpoint)
  | .ok () => do
    let (r, endpoint) ←
      submitDatagram maxDatagramSize endpoint d.flowControl.registry flowId payload
    match r with
    | .ok outcome =>
      if datagramSubmissionOutcomeIsConnectionTerminal outcome then
        return (.error (.driver .datagramProfileUnavailable), d.enterTerminal, endpoint)
      else return (.ok (.submitted outcome), d, endpoint)
    | .error error =>
      match FlowDriver.classifyDatagramSubmissionError d.flowControl flowId error with
      | some disposition =>
        let (r, d, endpoint) ←
          d.applyDataFailure alloc endpoint disposition (.datagramSubmission error)
        return ((r.mapError .driver).map .flowFailureHandled, d, endpoint)
      | none => return (.error (.driver (.datagramSubmission error)),
          if datagramSubmissionErrorIsConnectionTerminal error then d.enterTerminal else d,
          endpoint)

inductive KeyedDatagramSubmitError where
  | unavailable (payload : List UInt8) (error : ConnectionDriverStateError)
  | unknownFlow (payload : List UInt8)
  | driver (error : ConnectionDriverError)

def submitUnreliableByKey (d : EstablishedConnectionDriver) (alloc : Allocator)
    (maxDatagramSize : Option Nat) (endpoint : DeliveryEndpoint) (key : DeliveryFlowKey)
    (payload : List UInt8) :
    Checked (Except KeyedDatagramSubmitError DatagramSubmitOutcome ×
      EstablishedConnectionDriver × DeliveryEndpoint) :=
  match d.datagram.outboundFlowId d.flowControl key with
  | none => .ok (.error (.unknownFlow payload), d, endpoint)
  | some flowId => do
    let (r, d, endpoint) ← d.submitUnreliable alloc maxDatagramSize endpoint flowId payload
    return (r.mapError fun
      | .unavailable _ payload error => .unavailable payload error
      | .driver error => .driver error, d, endpoint)

end EstablishedConnectionDriver

end RunenNet
