import RunenNet.Quic.NegotiationCodec

/-!
# The negotiation exchange of a connection

The local calls and received frames of one connection's handshake, over the negotiation manager it
shares with the other connections. Every failure closes the exchange: it clears its offer and
terminates what it owns of the manager.
-/

namespace RunenNet

open Foundation

inductive NegotiationState where
  | ready
  | awaitingPeerOffer
  | awaitingAuthoritySelection
  | awaitingProposal
  | awaitingValidated
  | awaitingEstablished
  | established
  | failed
  deriving DecidableEq, Repr

inductive NegotiationProgress where
  | waiting
  | authoritySelectionRequired
  | send (frame : ControlFrame)
  | established
  | remoteFailed (outcome : NegotiationOutcome)
  deriving DecidableEq, Repr

inductive NegotiationProtocolError where
  | unexpectedFrame (state : NegotiationState) (frameType : ControlFrameType)
  | unexpectedLocalOperation (state : NegotiationState)
  | wrongLocalRole (expected actual : SemanticRole)
  | nonEmptyAcknowledgement (frameType : ControlFrameType)
  | wire (e : NegotiationWireError)
  deriving DecidableEq, Repr

inductive NegotiationControlError where
  | profileProtocol (e : NegotiationProtocolError)
  | localFailure (outcome : NegotiationOutcome) (report : Option ControlFrame)
  | managerState (e : NegotiationManagerError)
  | unexpectedCoreStatus (status : NegotiationStatus)
  deriving DecidableEq, Repr

structure NegotiationExchange where
  connection : ConnectionHandle
  role : SemanticRole
  maxNegotiationFrameBytes : Nat
  state : NegotiationState
  localOffer : Option CompatibilityOffer
  managerOwned : Bool

/-- The allocator's answers: for a body, for the report of a failure and for the lists of a
decoder. -/
structure NegotiationAllocator where
  body : Bool
  report : Bool
  list : Nat → Bool

/-- What an operation returns, and the exchange and the manager after it. -/
abbrev Exchanged (α : Type) :=
  Except NegotiationControlError α × NegotiationExchange × NegotiationManager

/-- The failures of the manager that are the outcome of a negotiation. -/
def managerFailureOutcome :
    NegotiationManagerError → Except NegotiationManagerError NegotiationOutcome
  | .attemptLimitExceeded | .aggregateLimitExceeded => .ok .resourceLimitExceeded
  | .negotiation e => match e with
    | .authorityOfferInvalid _ | .peerOfferInvalid _ => .ok .malformedOffer
    | .protocolIncompatible => .ok .protocolIncompatible
    | .requiredCapabilityUnavailable _ => .ok .requiredCapabilityUnavailable
    | .requiredSchemaUnavailable _ => .ok .requiredSchemaUnavailable
    | .selectionTooLarge => .ok .resourceLimitExceeded
    | .invalidSelection => .ok .invalidSelection
    | .alreadyProposed | .noProposal | .alreadyEstablished => .error (.negotiation e)
  | .connectionAlreadyKnown => .error .connectionAlreadyKnown
  | .unknownConnection => .error .unknownConnection

namespace NegotiationExchange

def fromProfile (connection : ConnectionHandle) (localSettings peerSettings : Settings) :
    NegotiationExchange where
  connection := connection
  role := localSettings.semanticRole
  maxNegotiationFrameBytes :=
    min localSettings.maxNegotiationFrameBytes peerSettings.maxNegotiationFrameBytes
  state := .ready
  localOffer := none
  managerOwned := false

/-! ### Failing -/

def releaseManager (x : NegotiationExchange) (m : NegotiationManager) :
    Checked (Except NegotiationManagerError Unit × NegotiationExchange × NegotiationManager) :=
  if ¬ x.managerOwned then .ok (.ok (), x, m)
  else do
    let (r, m) ← m.terminate x.connection
    return (r.map fun _ => (), { x with managerOwned := false }, m)

/-- How every failure begins: `Failed`, without an offer and without what the manager held. -/
def close (x : NegotiationExchange) (m : NegotiationManager) :
    Checked (Except NegotiationManagerError Unit × NegotiationExchange × NegotiationManager) :=
  releaseManager { x with localOffer := none, state := .failed } m

/-- Closes the exchange and returns `result`, unless the release fails. -/
def closeWith {α : Type} (x : NegotiationExchange) (m : NegotiationManager)
    (result : Except NegotiationControlError α) : Checked (Exchanged α) := do
  match ← x.close m with
  | (.error e, x, m) => return (.error (.managerState e), x, m)
  | (.ok (), x, m) => return (result, x, m)

def failLocal {α : Type} (x : NegotiationExchange) (alloc : NegotiationAllocator)
    (m : NegotiationManager) (outcome : NegotiationOutcome) : Checked (Exchanged α) :=
  x.closeWith m (.error (.localFailure outcome (failureFrame alloc.report outcome)))

def failProtocol {α : Type} (x : NegotiationExchange) (m : NegotiationManager)
    (e : NegotiationProtocolError) : Checked (Exchanged α) :=
  x.closeWith m (.error (.profileProtocol e))

def failUnexpectedStatus {α : Type} (x : NegotiationExchange) (m : NegotiationManager)
    (status : NegotiationStatus) : Checked (Exchanged α) :=
  x.closeWith m (.error (.unexpectedCoreStatus status))

def failManagerState {α : Type} (x : NegotiationExchange) (m : NegotiationManager)
    (e : NegotiationManagerError) : Checked (Exchanged α) :=
  x.closeWith m (.error (.managerState e))

def failDecode {α : Type} (x : NegotiationExchange) (alloc : NegotiationAllocator)
    (m : NegotiationManager) : BodyDecodeError → Checked (Exchanged α)
  | .protocol e => x.failProtocol m (.wire e)
  | .failure outcome => x.failLocal alloc m outcome

def failFromManager {α : Type} (x : NegotiationExchange) (alloc : NegotiationAllocator)
    (m : NegotiationManager) (e : NegotiationManagerError) : Checked (Exchanged α) :=
  match managerFailureOutcome e with
  | .ok outcome => x.failLocal alloc m outcome
  | .error e => x.failManagerState m e

/-! ### Local calls -/

def prepareOffer (x : NegotiationExchange) (alloc : NegotiationAllocator) (m : NegotiationManager)
    (offer : CompatibilityOffer) : Checked (Exchanged ControlFrame) :=
  if x.state ≠ .ready then x.failProtocol m (.unexpectedLocalOperation x.state)
  else match offer.validate m.offerLimits with
    | .error _ => x.failLocal alloc m .malformedOffer
    | .ok validated =>
      if validated.offer.diagnosticLabel.isSome then x.failLocal alloc m .malformedOffer
      else do
        match ← encodeOffer alloc.body validated.offer x.maxNegotiationFrameBytes with
        | .error outcome => x.failLocal alloc m outcome
        | .ok body => return (.ok ⟨.negotiationOffer, body⟩,
            { x with localOffer := some validated.offer, state := .awaitingPeerOffer }, m)

/-- `order` is how the hash collections of a contract are iterated. -/
def proposeAuthority (x : NegotiationExchange) (alloc : NegotiationAllocator)
    (order : ∀ c : NegotiatedContract, ContractOrder c) (m : NegotiationManager)
    (contract : NegotiatedContract) (requirements : NegotiationRequirements) :
    Checked (Exchanged ControlFrame) :=
  if x.role ≠ .authority then x.failProtocol m (.wrongLocalRole .authority x.role)
  else if x.state ≠ .awaitingAuthoritySelection then
    x.failProtocol m (.unexpectedLocalOperation x.state)
  else match m.propose x.connection contract requirements with
    | (.error e, m) => x.failFromManager alloc m e
    | (.ok (), m) => do
      match ← m.validateAuthority x.connection with
      | (.error e, m) => x.failManagerState m e
      | (.ok status, m) =>
        if status ≠ .awaitingValidation true false then x.failUnexpectedStatus m status
        else match m.attemptProposal x.connection with
          | .error e => x.failManagerState m e
          | .ok proposal => do
            match ← encodeProposal alloc.body proposal (order proposal)
                x.maxNegotiationFrameBytes with
            | .error outcome => x.failLocal alloc m outcome
            | .ok body =>
              return (.ok ⟨.negotiationProposal, body⟩, { x with state := .awaitingValidated }, m)

def abort (x : NegotiationExchange) (m : NegotiationManager) : Checked (Exchanged Unit) :=
  x.closeWith m (.ok ())

/-! ### Received frames -/

/-- The attempt of the two offers, in the order of the roles. -/
def startAttempt (x : NegotiationExchange) (m : NegotiationManager)
    (localOffer peerOffer : CompatibilityOffer) :
    Checked (Except NegotiationManagerError Unit × NegotiationManager) :=
  match x.role with
  | .authority => m.start x.connection localOffer peerOffer
  | .nonAuthority => m.start x.connection peerOffer localOffer

/-- The end of `receive_offer`: the attempt was started. -/
def started (x : NegotiationExchange) (m : NegotiationManager) : Exchanged NegotiationProgress :=
  match x.role with
  | .authority => (.ok .authoritySelectionRequired,
      { x with managerOwned := true, state := .awaitingAuthoritySelection }, m)
  | .nonAuthority =>
    (.ok .waiting, { x with managerOwned := true, state := .awaitingProposal }, m)

def receiveOffer (x : NegotiationExchange) (alloc : NegotiationAllocator) (m : NegotiationManager)
    (body : List UInt8) : Checked (Exchanged NegotiationProgress) :=
  match decodeOffer alloc.list body m.offerLimits with
  | .error e => x.failDecode alloc m e
  | .ok peerOffer => match x.localOffer with
    | none => .ok (.error (.profileProtocol (.unexpectedLocalOperation x.state)),
        { x with state := .failed }, m)
    | some localOffer => do
      let x := { x with localOffer := none }
      match ← x.startAttempt m localOffer peerOffer with
      | (.error e, m) => x.failFromManager alloc m e
      | (.ok (), m) => return x.started m

def receiveProposal (x : NegotiationExchange) (alloc : NegotiationAllocator)
    (m : NegotiationManager) (requirements : NegotiationRequirements) (body : List UInt8) :
    Checked (Exchanged NegotiationProgress) := do
  match ← decodeProposal alloc.list body m.offerLimits with
  | .error e => x.failDecode alloc m e
  | .ok contract => match m.propose x.connection contract requirements with
    | (.error e, m) => x.failFromManager alloc m e
    | (.ok (), m) => do
      match ← m.validatePeer x.connection with
      | (.error e, m) => x.failManagerState m e
      | (.ok status, m) =>
        if status ≠ .awaitingValidation false true then x.failUnexpectedStatus m status
        else return (.ok (.send ⟨.negotiationValidated, []⟩),
          { x with state := .awaitingEstablished }, m)

/-- `receive_validated` and `receive_established`: the other party's validation, which is the
last. -/
def receiveAcknowledgement (type : ControlFrameType) (authority : Bool)
    (progress : NegotiationProgress) (x : NegotiationExchange) (m : NegotiationManager)
    (body : List UInt8) : Checked (Exchanged NegotiationProgress) :=
  if ¬ body.isEmpty then x.failProtocol m (.nonEmptyAcknowledgement type)
  else do
    match ← m.validateParty x.connection authority with
    | (.error e, m) => x.failManagerState m e
    | (.ok status, m) =>
      if status ≠ .established then x.failUnexpectedStatus m status
      else return (.ok progress, { x with state := .established }, m)

def receiveValidated : NegotiationExchange → NegotiationManager → List UInt8 →
    Checked (Exchanged NegotiationProgress) :=
  receiveAcknowledgement .negotiationValidated false (.send ⟨.negotiationEstablished, []⟩)

def receiveEstablished : NegotiationExchange → NegotiationManager → List UInt8 →
    Checked (Exchanged NegotiationProgress) :=
  receiveAcknowledgement .negotiationEstablished true .established

def receiveFailure (x : NegotiationExchange) (m : NegotiationManager) (body : List UInt8) :
    Checked (Exchanged NegotiationProgress) :=
  match decodeFailure body with
  | .error e => x.failProtocol m (.wire e)
  | .ok outcome => x.closeWith m (.ok (.remoteFailed outcome))

def receive (x : NegotiationExchange) (alloc : NegotiationAllocator) (m : NegotiationManager)
    (requirements : NegotiationRequirements) (frame : ControlFrame) :
    Checked (Exchanged NegotiationProgress) :=
  if frame.frameType = .negotiationFailed ∧ x.state ≠ .established ∧ x.state ≠ .failed then
    x.receiveFailure m frame.body
  else match x.state, frame.frameType with
    | .awaitingPeerOffer, .negotiationOffer => x.receiveOffer alloc m frame.body
    | .awaitingProposal, .negotiationProposal => x.receiveProposal alloc m requirements frame.body
    | .awaitingValidated, .negotiationValidated => x.receiveValidated m frame.body
    | .awaitingEstablished, .negotiationEstablished => x.receiveEstablished m frame.body
    | state, type => x.failProtocol m (.unexpectedFrame state type)

end NegotiationExchange

end RunenNet
