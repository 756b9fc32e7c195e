import RunenNet.Quic.PublicConnection
import RunenNet.Quic.NegotiationExchange

/-!
# The connection of the host from its profile on

A connection that is not established yet sends a frame of its negotiation, awaits one, or awaits
the selection of the host. A poll takes a bounded number of transitions and answers with at most
one event or error; whatever the connection has come to, its owner can tear it down.
-/

namespace RunenNet

open Foundation

/-- What became of the report of a local failure. -/
inductive NegotiationReportStatus where
  | unavailable
  | sent
  | failed (failure : ProfileBootstrapFailure)
  deriving DecidableEq, Repr

/-- The kinds of error of a connection in any state. The failures of a negotiation are its
outcomes. -/
inductive HostErrorKind where
  | localNegotiation (outcome : NegotiationOutcome) (report : NegotiationReportStatus)
  | remoteNegotiation (outcome : NegotiationOutcome)
  | negotiationProtocol
  | control (failure : ProfileBootstrapFailure) (cleanupFailed : Bool)
  | managerState
  | unexpectedCoreState
  | establishedActivation
  | establishedResource
  | establishedProtocol
  | establishedTransport
  | establishedControl (failure : ProfileBootstrapFailure)
  | authoritySelectionNotRequired
  | terminal
  deriving DecidableEq, Repr

def ConnectionErrorKind.toHost : ConnectionErrorKind → HostErrorKind
  | .unexpectedCoreState => .unexpectedCoreState
  | .establishedResource => .establishedResource
  | .establishedProtocol => .establishedProtocol
  | .establishedTransport => .establishedTransport
  | .establishedControl failure => .establishedControl failure
  | .terminal => .terminal

inductive HostEvent where
  | authoritySelectionRequired (connection : ConnectionHandle)
  | established (connection : ConnectionHandle)
  | flow (event : ConnectionEvent)

inductive PendingSendDisposition where
  | goOn
  | establish
  | terminalLocalFailure (outcome : NegotiationOutcome)
  deriving DecidableEq, Repr

structure NegotiationCore where
  connection : ConnectionHandle
  side : WireSide
  localSettings : Settings
  peerSettings : Settings
  exchange : NegotiationExchange
  requirements : NegotiationRequirements

/-- `ConnectionState`. A send that is pending is a future that owns its frame, a receive one that
owns nothing; the states of an established connection are those of `Connection`. -/
inductive HostState where
  | sending (core : NegotiationCore) (frame : ControlFrame) (disposition : PendingSendDisposition)
  | receiving (core : NegotiationCore)
  | authoritySelection (core : NegotiationCore)
  | negotiatedEstablished (core : NegotiationCore)
  | established (core : NegotiationCore) (connection : Connection)
  | establishedActivationFailed (core : NegotiationCore)
  | failed (core : NegotiationCore)

def HostState.core : HostState → NegotiationCore
  | .sending core _ _ | .receiving core | .authoritySelection core | .negotiatedEstablished core
  | .established core _ | .establishedActivationFailed core | .failed core => core

structure HostConnection where
  connection : ConnectionHandle
  maxStagingBytes : NonZeroUsize
  state : HostState

/-! ### Transitions -/

def terminalControllerError : NegotiationControlError → HostErrorKind
  | .localFailure outcome _ => .localNegotiation outcome .unavailable
  | .profileProtocol _ => .negotiationProtocol
  | .managerState _ => .managerState
  | .unexpectedCoreStatus _ => .unexpectedCoreState

def transitionFromLocalOperation (core : NegotiationCore) :
    Except NegotiationControlError ControlFrame → Except HostErrorKind Unit × HostState
  | .ok frame => (.ok (), .sending core frame .goOn)
  | .error (.localFailure outcome (some frame)) =>
    (.ok (), .sending core frame (.terminalLocalFailure outcome))
  | .error e => (.error (terminalControllerError e), .failed core)

/-- What a transition comes to: `again` is another transition of the same poll. -/
inductive HostRound where
  | again
  | pending
  | ready (answer : Except HostErrorKind HostEvent)

def controllerSendDisposition (frameType : ControlFrameType) : PendingSendDisposition :=
  if frameType = .negotiationEstablished then .establish else .goOn

def transitionFromController (core : NegotiationCore) :
    Except NegotiationControlError NegotiationProgress → HostRound × HostState
  | .ok .waiting => (.again, .receiving core)
  | .ok .authoritySelectionRequired =>
    (.ready (.ok (.authoritySelectionRequired core.connection)), .authoritySelection core)
  | .ok (.send frame) =>
    (.again, .sending core frame (controllerSendDisposition frame.frameType))
  | .ok .established => (.again, .negotiatedEstablished core)
  | .ok (.remoteFailed outcome) => (.ready (.error (.remoteNegotiation outcome)), .failed core)
  | .error (.localFailure outcome (some frame)) =>
    (.again, .sending core frame (.terminalLocalFailure outcome))
  | .error e => (.ready (.error (terminalControllerError e)), .failed core)

namespace HostConnection

/-- What the transport and the allocator answer one transition. -/
structure Transport where
  controlSend : Polled (Except ProfileBootstrapError Unit)
  controlReceive : Polled (Except ProfileBootstrapError ControlFrame)
  alloc : NegotiationAllocator
  established : Connection.Transport

/-- A connection whose profile is ready begins to negotiate; one whose offer is refused without a
report is dropped. -/
def activate (connection : ConnectionHandle) (side : WireSide)
    (localSettings peerSettings : Settings) (maxStagingBytes : NonZeroUsize)
    (alloc : NegotiationAllocator) (offer : CompatibilityOffer)
    (requirements : NegotiationRequirements) (m : NegotiationManager) :
    Checked (Except HostErrorKind HostConnection × NegotiationManager) := do
  let exchange := NegotiationExchange.fromProfile connection localSettings peerSettings
  let (r, exchange, m) ← exchange.prepareOffer alloc m offer
  let core := ⟨connection, side, localSettings, peerSettings, exchange, requirements⟩
  match transitionFromLocalOperation core r with
  | (.ok (), state) => return (.ok ⟨connection, maxStagingBytes, state⟩, m)
  | (.error kind, _) => return (.error kind, m)

/-! ### Polling -/

/-- What a transition comes to, and the state after it. -/
abbrev Turned := HostRound × HostConnection × NegotiationManager × DeliveryEndpoint

/-- A control stream that failed: the negotiation is given up. -/
def failControl (h : HostConnection) (core : NegotiationCore) (m : NegotiationManager)
    (delivery : DeliveryEndpoint) (error : ProfileBootstrapError) : Checked Turned := do
  let (r, exchange, m) ← core.exchange.abort m
  let cleanupFailed : Bool := match r with
    | .ok () => false
    | .error _ => true
  return (.ready (.error (.control error.failure cleanupFailed)),
    { h with state := .failed { core with exchange := exchange } }, m, delivery)

/-- A frame whose failure ends the connection is a report of that failure. -/
def pollSending (h : HostConnection) (t : Transport) (core : NegotiationCore)
    (frame : ControlFrame) (disposition : PendingSendDisposition) (m : NegotiationManager)
    (delivery : DeliveryEndpoint) : Checked Turned :=
  match disposition with
  | .terminalLocalFailure outcome => do
    Checked.assert (frame.frameType = .negotiationFailed)
    match t.controlSend with
    | none => return (.pending, h, m, delivery)
    | some (.ok ()) => return (.ready (.error (.localNegotiation outcome .sent)),
        { h with state := .failed core }, m, delivery)
    | some (.error e) => return (.ready (.error (.localNegotiation outcome (.failed e.failure))),
        { h with state := .failed core }, m, delivery)
  | .goOn => match t.controlSend with
    | none => .ok (.pending, h, m, delivery)
    | some (.ok ()) => .ok (.again, { h with state := .receiving core }, m, delivery)
    | some (.error e) => h.failControl core m delivery e
  | .establish => match t.controlSend with
    | none => .ok (.pending, h, m, delivery)
    | some (.ok ()) => .ok (.again, { h with state := .negotiatedEstablished core }, m, delivery)
    | some (.error e) => h.failControl core m delivery e

def pollReceiving (h : HostConnection) (t : Transport) (core : NegotiationCore)
    (m : NegotiationManager) (delivery : DeliveryEndpoint) : Checked Turned :=
  match t.controlReceive with
  | none => .ok (.pending, h, m, delivery)
  | some (.error e) => h.failControl core m delivery e
  | some (.ok frame) => do
    let (r, exchange, m) ← core.exchange.receive t.alloc m core.requirements frame
    let (round, state) := transitionFromController { core with exchange := exchange } r
    return (round, { h with state := state }, m, delivery)

/-- `activate_established_driver`. -/
def pollNegotiated (h : HostConnection) (core : NegotiationCore) : HostRound × HostConnection :=
  match FlowControl.new core.connection core.side core.localSettings core.peerSettings with
  | .ok fc => (.ready (.ok (.established h.connection)),
      { h with state := .established core (.new fc h.maxStagingBytes) })
  | .error _ => (.ready (.error .establishedActivation),
      { h with state := .establishedActivationFailed core })

/-- What a round of an established connection is to the host. -/
def Round.toHost : Connection.Round → HostRound
  | .again => .again
  | .pending => .pending
  | .ready (.ok event) => .ready (.ok (.flow event))
  | .ready (.error kind) => .ready (.error kind.toHost)

def pollTurn (h : HostConnection) (t : Transport) (m : NegotiationManager)
    (delivery : DeliveryEndpoint) : Checked Turned :=
  match h.state with
  | .sending core frame disposition => h.pollSending t core frame disposition m delivery
  | .receiving core => h.pollReceiving t core m delivery
  | .authoritySelection _ => .ok (.pending, h, m, delivery)
  | .negotiatedEstablished core =>
    let (round, h) := h.pollNegotiated core
    .ok (round, h, m, delivery)
  | .established core connection => do
    let (round, connection, delivery) ← connection.pollRound t.established delivery
    return (Round.toHost round, { h with state := .established core connection }, m, delivery)
  | .establishedActivationFailed _ | .failed _ => .ok (.ready (.error .terminal), h, m, delivery)

/-- What a poll answers, and the state after it. -/
abbrev PolledHost := Polled (Except HostErrorKind HostEvent) × HostConnection ×
  NegotiationManager × DeliveryEndpoint

def pollTurns : Nat → (Nat → Transport) → HostConnection → NegotiationManager →
    DeliveryEndpoint → Checked PolledHost
  | 0, _, h, m, delivery => .ok (none, h, m, delivery)
  | turns + 1, t, h, m, delivery => do
    match ← h.pollTurn (t 0) m delivery with
    | (.again, h, m, delivery) => pollTurns turns (fun n => t (n + 1)) h m delivery
    | (.pending, h, m, delivery) => return (none, h, m, delivery)
    | (.ready answer, h, m, delivery) => return (some answer, h, m, delivery)

def poll (h : HostConnection) (t : Nat → Transport) (m : NegotiationManager)
    (delivery : DeliveryEndpoint) : Checked PolledHost :=
  pollTurns Connection.maxInternalTransitionsPerPoll t h m delivery

/-! ### Commands -/

def selectAuthority (h : HostConnection) (alloc : NegotiationAllocator)
    (order : ∀ c : NegotiatedContract, ContractOrder c) (m : NegotiationManager)
    (contract : NegotiatedContract) :
    Checked (Except HostErrorKind Unit × HostConnection × NegotiationManager) :=
  match h.state with
  | .authoritySelection core => do
    let (r, exchange, m) ←
      core.exchange.proposeAuthority alloc order m contract core.requirements
    let (answer, state) := transitionFromLocalOperation { core with exchange := exchange } r
    return (answer, { h with state := state }, m)
  | .failed _ => .ok (.error .terminal, h, m)
  | _ => .ok (.error .authoritySelectionNotRequired, h, m)

/-- A command on the flows reaches an established connection only. -/
def command {α : Type} (h : HostConnection) (delivery : DeliveryEndpoint)
    (run : Connection → DeliveryEndpoint → Checked (α × Connection × DeliveryEndpoint)) :
    Checked (Option α × HostConnection × DeliveryEndpoint) :=
  match h.state with
  | .established core connection => do
    let (answer, connection, delivery) ← run connection delivery
    return (some answer, { h with state := .established core connection }, delivery)
  | _ => .ok (none, h, delivery)

/-- What the host is handed when its connection is gone. -/
structure Teardown where
  flowTerminations : List FlowTermination
  cleanupError : Option NegotiationControlError

def teardown (h : HostConnection) (m : NegotiationManager) (delivery : DeliveryEndpoint) :
    Checked (Teardown × NegotiationManager × DeliveryEndpoint) := do
  let (flowTerminations, delivery) ← delivery.terminateConnection h.state.core.connection
  let (r, _, m) ← h.state.core.exchange.abort m
  let cleanupError : Option NegotiationControlError := match r with
    | .ok () => none
    | .error e => some e
  return (⟨flowTerminations, cleanupError⟩, m, delivery)

end HostConnection

end RunenNet
