import RunenNet.Quic.ConnectionDriver

/-!
# The connection of the host

An established connection as the host sees it: commands on flows, and a poll that answers with at
most one event or error. The states of the negotiation before it are not part of this module.
-/

namespace RunenNet

open Foundation

inductive ProfileBootstrapFailure where
  | transport
  | control
  | protocolState
  deriving DecidableEq, Repr

def ProfileBootstrapError.failure : ProfileBootstrapError → ProfileBootstrapFailure
  | .connection => .transport
  | .frame _ => .control
  | .settingsAfterReady | .settingsOwnedByBootstrap | .controlChannelPoisoned => .protocolState

/-- The kinds of error of an established connection; `terminal` is `State(Terminal)`. -/
inductive ConnectionErrorKind where
  | unexpectedCoreState
  | establishedResource
  | establishedProtocol
  | establishedTransport
  | establishedControl (failure : ProfileBootstrapFailure)
  | terminal
  deriving DecidableEq, Repr

inductive FlowCommandError where
  | busy
  | terminal
  | wrongConnection
  | wrongDirection
  | invalidConfiguration
  | alreadyExists
  | pending
  | unknownFlow
  | staleRequest
  | messageLimit
  | resourceLimit
  | datagramTooSmall
  | flowTerminated
  | protocolFailure
  | connectionFailure
  deriving DecidableEq, Repr

inductive FlowTerminationOrigin where
  | «local»
  | remote
  deriving DecidableEq, Repr

inductive UnreliableReceiveDropReason where
  | pressure (localPressureDrops : Nat)
  | tooLarge
  | staleSequenced
  deriving DecidableEq, Repr

structure IncomingFlowRequest where
  connection : ConnectionHandle
  inner : InboundOpenRequest

/-- The reasons of the wire are those of the host. -/
inductive ConnectionEvent where
  | peerClosed (connection : ConnectionHandle)
  | incomingFlowRequested (request : IncomingFlowRequest)
  | outboundFlowEstablished (key : DeliveryFlowKey)
  | outboundFlowRejected (key : DeliveryFlowKey) (reason : FlowRejectReason)
  | dataReady (key : DeliveryFlowKey) (bufferedMessages localPressureDrops : Nat)
  | unreliableReceiveDropped (key : DeliveryFlowKey) (reason : UnreliableReceiveDropReason)
  | unreliableTransportDropped (key : DeliveryFlowKey) (acceptedIndex : Nat)
  | flowTerminated (key : DeliveryFlowKey) (origin : FlowTerminationOrigin)
      (cause : FlowTerminateReason) (termination : Option FlowTermination)

structure OutboundFlowConfig where
  key : DeliveryFlowKey
  mode : DeliveryMode
  policy : FlowResourcePolicy
  connectionLimits : DeliveryScopeLimits

/-- `InboundFlowConfig` has the fields of an admission. -/
abbrev InboundFlowConfig := InboundAdmission

inductive ConnectionState where
  | established (driver : EstablishedConnectionDriver)
  | establishedPeerClosed (driver : EstablishedConnectionDriver) (closePending : Bool)
  | establishedFailed (driver : EstablishedConnectionDriver) (kind : ConnectionErrorKind)
      (pendingError : Option ConnectionErrorKind)

structure Connection where
  connection : ConnectionHandle
  state : ConnectionState

/-! ### Events -/

def mapControlSendEffect : FlowControlSendEffect → Option ConnectionEvent
  | .outboundFailedAfterAccept _ key reason termination
  | .reportOnlyTermination _ key reason termination =>
    some (.flowTerminated key .local reason termination)
  | .localTerminated flow reason termination =>
    some (.flowTerminated flow.key .local reason (some termination))
  | .outboundOpenPrepared _ | .inboundRejected _ _ | .inboundAccepted _ => none

def mapReliableProgress : ActiveReliableProgress → Option ConnectionEvent
  | .outbound _ (.closed termination) =>
    some (.flowTerminated termination.key .local .normal (some termination))
  | .outbound _ _ => none
  | .inbound (.messagesBuffered key count) => some (.dataReady key count 0)
  | .inbound (.closed key (some termination)) =>
    some (.flowTerminated key .remote .normal (some termination))
  | .inbound _ => none

def mapDatagramInbound (key : DeliveryFlowKey) :
    ReceiveOutcome → Except ConnectionErrorKind (Option ConnectionEvent)
  | .buffered localPressureDrops => .ok (some (.dataReady key 1 localPressureDrops))
  | .droppedByPressure localPressureDrops =>
    .ok (some (.unreliableReceiveDropped key (.pressure localPressureDrops)))
  | .droppedTooLarge => .ok (some (.unreliableReceiveDropped key .tooLarge))
  | .staleSequenced => .ok (some (.unreliableReceiveDropped key .staleSequenced))
  | .duplicateReliable | .rejectedModeMismatch | .terminalReliableFailure =>
    .error .unexpectedCoreState

def mapEstablishedProgress (connection : ConnectionHandle) :
    EstablishedConnectionProgress → Except ConnectionErrorKind (Option ConnectionEvent)
  | .controlSendStarted => .ok none
  | .controlSendCompleted effect => .ok (mapControlSendEffect effect)
  | .inboundOpen inner => .ok (some (.incomingFlowRequested ⟨connection, inner⟩))
  | .outboundEstablished flow => .ok (some (.outboundFlowEstablished flow.key))
  | .outboundRejected _ key reason => .ok (some (.outboundFlowRejected key reason))
  | .remoteTerminated flow reason termination =>
    .ok (some (.flowTerminated flow.key .remote reason (some termination)))
  | .reliableOutboundAcquisition _ | .reliableInboundAcquired => .ok none
  | .reliable progress => .ok (mapReliableProgress progress)
  | .datagramOutbound (.driven _ key (.droppedTransport acceptedIndex)) =>
    .ok (some (.unreliableTransportDropped key acceptedIndex))
  | .datagramOutbound _ => .ok none
  | .datagramInbound .discardedUnknownFlow => .ok none
  | .datagramInbound (.core key outcome) => mapDatagramInbound key outcome
  | .flowFailureHandled _ => .ok none

/-! ### Errors -/

def profileControlIsConnectionCloseObservation : ProfileBootstrapError → Bool
  | .connection | .frame (.read .connectionLost) | .frame (.write .connectionLost) => true
  | _ => false

def establishedDriverErrorIsConnectionCloseObservation : ConnectionDriverError → Bool
  | .controlReceive error => profileControlIsConnectionCloseObservation error
  | .controlSend error => profileControlIsConnectionCloseObservation error.error
  | .reliable .connection => true
  | .reliable (.outboundActiveBinding _ (.io .connectionLost))
  | .reliable (.inboundActiveBinding _ (.io .connectionLost)) => true
  | .datagram .connection | .datagram (.send _ .connectionLost) => true
  | .state _ | .outboundOpen _ | .inboundAdmission _ | .datagramSubmission _
  | .datagramProfileUnavailable | .receivedFlowControl _ | .reliable _ | .datagram _
  | .failurePreparation _ => false

/-- `peer_close_preceding_event`, which is the event of `map_established_driver_error` too. -/
def precedingEvent : ConnectionDriverError → Option ConnectionEvent
  | .controlSend error => mapControlSendEffect error.effect
  | _ => none

def establishedDriverErrorKind : ConnectionDriverError → ConnectionErrorKind
  | .controlSend error => .establishedControl error.error.failure
  | .controlReceive error => .establishedControl error.failure
  | .state .terminal => .terminal
  | .reliable .allocation | .reliable (.state .capacityOverflow)
  | .reliable (.inboundConstruction .allocationFailed) | .datagram .allocation
  | .receivedFlowControl .allocation | .failurePreparation .allocation => .establishedResource
  | .reliable .connection | .reliable (.outboundActiveBinding _ (.io .connectionLost))
  | .reliable (.inboundActiveBinding _ (.io .connectionLost)) | .datagram .connection
  | .datagram (.send _ .profileUnavailable) | .datagram (.send _ .connectionLost)
  | .datagramProfileUnavailable => .establishedTransport
  | .state .controlSendBusy | .outboundOpen _ | .inboundAdmission _ | .datagramSubmission _ =>
    .unexpectedCoreState
  | .receivedFlowControl _ | .reliable _ | .datagram _ | .failurePreparation _ =>
    .establishedProtocol

def mapDriverStateError : ConnectionDriverStateError → FlowCommandError
  | .controlSendBusy => .busy
  | .terminal => .terminal

def mapOutboundOpenError : OutboundOpenError → FlowCommandError
  | .wrongConnection _ _ => .wrongConnection
  | .wrongDirection _ => .wrongDirection
  | .invalidPolicy _ | .stableMessageLimitMismatch _ _ | .stableMessageLimitOutOfRange =>
    .invalidConfiguration
  | .coreFlowAlreadyExists _ => .alreadyExists
  | .pendingCoreFlow _ => .pending
  | .peerMessageLimit _ _ => .messageLimit
  | .peerActiveFlowLimit _ _ | .flowId _ | .allocation => .resourceLimit
  | .datagramTooSmall _ _ => .datagramTooSmall
  | .datagramUnavailable => .connectionFailure
  | .datagramEnvelope _ | .body _ => .protocolFailure

def mapFlowCommandDriverError : ConnectionDriverError → FlowCommandError
  | .state error => mapDriverStateError error
  | .outboundOpen error => mapOutboundOpenError error
  | _ => .connectionFailure

def mapInboundDecisionDriverError : ConnectionDriverError → FlowCommandError
  | .state error => mapDriverStateError error
  | .inboundAdmission (.requestNotPending _) => .staleRequest
  | _ => .connectionFailure

def mapCoreSubmissionError : DeliveryOperationError → FlowCommandError
  | .unknownFlow => .unknownFlow
  | .wrongDirection => .wrongDirection
  | .notReliable => .protocolFailure

def mapFinishDriverError : ConnectionDriverError → FlowCommandError
  | .state error => mapDriverStateError error
  | .reliable (.state .outboundAcquisitionPending) => .pending
  | .reliable (.state .unknownOutboundFlow) => .unknownFlow
  | .reliable (.outboundFinish _ .pendingData)
  | .reliable (.outboundFinish _ .alreadyFinishing) => .pending
  | .reliable (.outboundFinish _ .terminal)
  | .reliable (.outboundFinish _ (.core .unknownFlow)) => .flowTerminated
  | .failurePreparation .allocation => .resourceLimit
  | .failurePreparation (.unknownActiveFlow _)
  | .failurePreparation (.coreState .unknownFlow) => .flowTerminated
  | .failurePreparation _ => .protocolFailure
  | _ => .connectionFailure

inductive SubmitOutcome where
  | accepted (acceptedIndex localPressureDrops : Nat)
  | rejectedTooLarge
  | rejectedPressure
  | rejectedCounterExhausted
  | rejectedCurrentDatagramSize
  deriving DecidableEq, Repr

/-- An outcome of Core, as the host sees it. -/
def SubmissionOutcome.toHost : SubmissionOutcome → SubmitOutcome
  | .accepted acceptedIndex localPressureDrops => .accepted acceptedIndex localPressureDrops
  | .rejectedTooLarge => .rejectedTooLarge
  | .rejectedPressure => .rejectedPressure
  | .rejectedCounterExhausted => .rejectedCounterExhausted

def mapDatagramSubmitOutcome : EstablishedConnectionDriver.DatagramSubmitOutcome →
    Except FlowCommandError SubmitOutcome
  | .submitted (.accepted acceptedIndex localPressureDrops) =>
    .ok (.accepted acceptedIndex localPressureDrops)
  | .submitted .rejectedTooLarge => .ok .rejectedTooLarge
  | .submitted .rejectedPressure => .ok .rejectedPressure
  | .submitted .rejectedCounterExhausted => .ok .rejectedCounterExhausted
  | .submitted .rejectedCurrentDatagramSize => .ok .rejectedCurrentDatagramSize
  | .submitted .rejectedTransportUnavailable => .error .connectionFailure
  | .flowFailureHandled _ => .error .flowTerminated

namespace Connection

def new (fc : FlowControl) (maxStagingBytes : NonZeroUsize) : Connection :=
  ⟨fc.connection, .established (.new fc maxStagingBytes)⟩

/-! ### Polling -/

def maxInternalTransitionsPerPoll : Nat := 16

/-- What the transport answers one round of a poll: a step of the driver, and then, after a
failed step, whether the peer closed without an error. -/
structure Transport where
  step : DriverTransport
  peerNoErrorCloseAfter : Bool

/-- What a round of a poll comes to: `again` is another round. -/
inductive Round where
  | again
  | pending
  | ready (answer : Except ConnectionErrorKind ConnectionEvent)

/-- What a poll makes of a failed step of the driver. -/
def failStep (c : Connection) (driver : EstablishedConnectionDriver)
    (peerNoErrorClose : Bool) (error : ConnectionDriverError) : Round × Connection :=
  if peerNoErrorClose ∧ establishedDriverErrorIsConnectionCloseObservation error then
    match precedingEvent error with
    | some event => (.ready (.ok event), { c with state := .establishedPeerClosed driver true })
    | none => (.ready (.ok (.peerClosed c.connection)),
        { c with state := .establishedPeerClosed driver false })
  else
    let kind := establishedDriverErrorKind error
    match precedingEvent error with
    | some event =>
      (.ready (.ok event), { c with state := .establishedFailed driver kind (some kind) })
    | none => (.ready (.error kind), { c with state := .establishedFailed driver kind none })

def pollRound (c : Connection) (t : Transport) (delivery : DeliveryEndpoint) :
    Checked (Round × Connection × DeliveryEndpoint) :=
  match c.state with
  | .established driver => do
    let (r, driver, delivery) ← driver.pollStep t.step delivery
    match r with
    | none => return (.pending, { c with state := .established driver }, delivery)
    | some (.ok progress) => match mapEstablishedProgress c.connection progress with
      | .ok (some event) =>
        return (.ready (.ok event), { c with state := .established driver }, delivery)
      | .ok none => return (.again, { c with state := .established driver }, delivery)
      | .error kind => return (.ready (.error kind),
          { c with state := .establishedFailed driver kind none }, delivery)
    | some (.error error) =>
      let (round, c) := c.failStep driver t.peerNoErrorCloseAfter error
      return (round, c, delivery)
  | .establishedPeerClosed driver closePending =>
    if closePending then .ok (.ready (.ok (.peerClosed c.connection)),
      { c with state := .establishedPeerClosed driver false }, delivery)
    else .ok (.ready (.error .terminal), c, delivery)
  | .establishedFailed driver kind pendingError => match pendingError with
    | some error => .ok (.ready (.error error),
        { c with state := .establishedFailed driver kind none }, delivery)
    | none => .ok (.ready (.error kind), c, delivery)

/-- What a poll answers, and the state after it. -/
abbrev PolledConnection :=
  Polled (Except ConnectionErrorKind ConnectionEvent) × Connection × DeliveryEndpoint

/-- At most so many rounds, the answers of the transport being given in turn. -/
def pollRounds : Nat → (Nat → Transport) → Connection → DeliveryEndpoint →
    Checked PolledConnection
  | 0, _, c, delivery => .ok (none, c, delivery)
  | rounds + 1, t, c, delivery => do
    match ← c.pollRound (t 0) delivery with
    | (.again, c, delivery) => pollRounds rounds (fun n => t (n + 1)) c delivery
    | (.pending, c, delivery) => return (none, c, delivery)
    | (.ready answer, c, delivery) => return (some answer, c, delivery)

def poll (c : Connection) (t : Nat → Transport) (delivery : DeliveryEndpoint) :
    Checked PolledConnection :=
  pollRounds maxInternalTransitionsPerPoll t c delivery

/-! ### Commands -/

/-- What the transport and the allocator answer a command. -/
structure CommandTransport where
  maxDatagramSize : Option Nat
  finished : Except IoFailure Unit
  alloc : Allocator

def driver? (c : Connection) : Option EstablishedConnectionDriver :=
  match c.state with
  | .established driver => some driver
  | .establishedPeerClosed _ _ | .establishedFailed _ _ _ => none

def setDriver (c : Connection) (driver : EstablishedConnectionDriver) : Connection :=
  { c with state := .established driver }

def openOutboundFlow (c : Connection) (t : CommandTransport) (delivery : DeliveryEndpoint)
    (config : OutboundFlowConfig) : Checked (Except FlowCommandError Unit × Connection) :=
  match c.driver? with
  | none => .ok (.error .terminal, c)
  | some driver => do
    let (r, driver) ← driver.openOutbound t.alloc t.maxDatagramSize delivery
      { key := config.key
        mode := config.mode
        policy := config.policy
        stableMaxMessageBytes := config.policy.maxMessageBytes
        connectionLimits := config.connectionLimits }
    return (r.mapError mapFlowCommandDriverError, c.setDriver driver)

inductive IncomingFlowDecisionError where
  | retryable (request : IncomingFlowRequest) (reason : FlowCommandError)
  | failed (reason : FlowCommandError)

/-- What a decision answers, and the state after it. -/
abbrev DecidedConnection :=
  Except IncomingFlowDecisionError Unit × Connection × DeliveryEndpoint

/-- What the host is told of a decision. -/
def decisionError (c : Connection) :
    EstablishedConnectionDriver.InboundDecisionDriverError → IncomingFlowDecisionError
  | .unavailable request error => match mapDriverStateError error with
    | .busy => .retryable ⟨c.connection, request⟩ .busy
    | reason => .failed reason
  | .driver error => .failed (mapInboundDecisionDriverError error)

def acceptIncomingFlow (c : Connection) (t : CommandTransport) (delivery : DeliveryEndpoint)
    (request : IncomingFlowRequest) (config : InboundFlowConfig) : Checked DecidedConnection :=
  if request.connection ≠ c.connection ∨ config.key.connection ≠ c.connection then
    .ok (.error (.retryable request .wrongConnection), c, delivery)
  else if config.key.direction ≠ .inbound then
    .ok (.error (.retryable request .wrongDirection), c, delivery)
  else match config.policy.validateForMode request.inner.mode with
    | .error _ => .ok (.error (.retryable request .invalidConfiguration), c, delivery)
    | .ok () => match c.driver? with
      | none => .ok (.error (.failed .terminal), c, delivery)
      | some driver => do
        let (r, driver, delivery) ←
          driver.acceptInbound t.alloc delivery request.inner config
        return (r.mapError c.decisionError, c.setDriver driver, delivery)

def rejectIncomingFlow (c : Connection) (t : CommandTransport) (delivery : DeliveryEndpoint)
    (request : IncomingFlowRequest) (reason : FlowRejectReason) : Checked DecidedConnection :=
  if request.connection ≠ c.connection then
    .ok (.error (.retryable request .wrongConnection), c, delivery)
  else match c.driver? with
    | none => .ok (.error (.failed .terminal), c, delivery)
    | some driver => do
      let (r, driver, delivery) ← driver.rejectInbound t.alloc delivery request.inner reason
      return (r.mapError c.decisionError, c.setDriver driver, delivery)

inductive SubmissionError where
  | retryable (key : DeliveryFlowKey) (payload : List UInt8) (reason : FlowCommandError)
  | failed (reason : FlowCommandError)

def submissionError (key : DeliveryFlowKey) :
    EstablishedConnectionDriver.KeyedDatagramSubmitError → SubmissionError
  | .unavailable payload error => match mapDriverStateError error with
    | .busy => .retryable key payload .busy
    | reason => .failed reason
  | .unknownFlow _ => .failed .unknownFlow
  | .driver error => .failed (mapFlowCommandDriverError error)

def submit (c : Connection) (t : CommandTransport) (delivery : DeliveryEndpoint)
    (key : DeliveryFlowKey) (payload : List UInt8) :
    Checked (Except SubmissionError SubmitOutcome × Connection × DeliveryEndpoint) :=
  if key.connection ≠ c.connection then
    .ok (.error (.retryable key payload .wrongConnection), c, delivery)
  else if key.direction ≠ .outbound then
    .ok (.error (.retryable key payload .wrongDirection), c, delivery)
  else match c.driver? with
    | none => .ok (.error (.failed .terminal), c, delivery)
    | some driver => match delivery.flowContract key with
      | none => .ok (.error (.failed .unknownFlow), c, delivery)
      | some (.reliableOrdered, _) =>
        if ¬ driver.hasReliableOutboundFlow key then
          .ok (.error (.failed .unknownFlow), c, delivery)
        else do
          let (r, delivery) ← delivery.submit key payload
          return ((r.map SubmissionOutcome.toHost).mapError (.failed ∘ mapCoreSubmissionError),
            c, delivery)
      | some (_, _) => do
        let (r, driver, delivery) ←
          driver.submitUnreliableByKey t.alloc t.maxDatagramSize delivery key payload
        let answer : Except SubmissionError SubmitOutcome := match r with
          | .error e => .error (submissionError key e)
          | .ok outcome => (mapDatagramSubmitOutcome outcome).mapError .failed
        return (answer, c.setDriver driver, delivery)

def finishOutboundFlowNormal (c : Connection) (t : CommandTransport)
    (delivery : DeliveryEndpoint) (key : DeliveryFlowKey) :
    Checked (Except FlowCommandError Unit × Connection × DeliveryEndpoint) :=
  if key.connection ≠ c.connection then .ok (.error .wrongConnection, c, delivery)
  else if key.direction ≠ .outbound then .ok (.error .wrongDirection, c, delivery)
  else match c.driver? with
    | none => .ok (.error .terminal, c, delivery)
    | some driver => match delivery.flowContract key with
      | none => .ok (.error .unknownFlow, c, delivery)
      | some (mode, _) => do
        let (r, driver, delivery) ←
          driver.requestOutboundFinishNormalByKey t.alloc t.finished delivery key mode
        let answer : Except FlowCommandError Unit := match r with
          | .ok .started => .ok ()
          | .ok (.flowFailureHandled _) => .error .flowTerminated
          | .error (.state e) => .error (mapDriverStateError e)
          | .error .unknownFlow => .error .unknownFlow
          | .error (.driver e) => .error (mapFinishDriverError e)
        return (answer, c.setDriver driver, delivery)

end Connection

end RunenNet
