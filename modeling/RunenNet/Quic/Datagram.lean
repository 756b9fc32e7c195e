import RunenNet.Quic.ReliableIo

/-!
# Datagrams

Unreliable messages are sent and received as QUIC datagrams: the varint of the `FlowId`, the
varint of the sequence where the flow is sequenced, and the payload.
-/

namespace RunenNet

open Foundation

def unorderedIngressIndex : Nat := 0

inductive DatagramTransportError where
  | tooLarge
  | unsupportedByPeer
  | disabled
  | connectionLost
  deriving DecidableEq, Repr

/-- What the transport answers one submission or one send: its datagram size and buffer space,
each of which is asked twice by a send, and the result of the handoff. -/
structure DatagramSendTransport where
  maxDatagramSize : Option Nat
  sendBufferSpace : Nat
  reserves : Bool
  maxDatagramSizeAgain : Option Nat
  sendBufferSpaceAgain : Nat
  trySend : List UInt8 → Except DatagramTransportError Unit

inductive DatagramSubmissionOutcome where
  | accepted (acceptedIndex localPressureDrops : Nat)
  | rejectedTooLarge
  | rejectedPressure
  | rejectedCounterExhausted
  | rejectedTransportUnavailable
  | rejectedCurrentDatagramSize
  deriving DecidableEq, Repr

/-- The errors of a submission; `envelope` are those of `datagram_len`. -/
inductive DatagramSubmitError where
  | unknownFlowId
  | wrongDirection
  | reliableFlow
  | core (e : DeliveryOperationError)
  | envelope (e : DatagramSubmissionError)
  | acceptedIndexMismatch (expected accepted : Nat)
  deriving DecidableEq, Repr

inductive DatagramSendProgress where
  | idle
  | blockedNativeBuffer (needed available : Nat)
  | enqueued (acceptedIndex : Nat)
  | droppedTransport (acceptedIndex : Nat)
  deriving DecidableEq, Repr

inductive DatagramSendError where
  | unknownFlowId
  | wrongDirection
  | reliableFlow
  | core (e : DeliveryOperationError)
  | custody (e : CustodyCommitError)
  | wire (e : VarIntEncodeError)
  | lengthOverflow
  | sequenceExhausted
  | modeMismatch
  | payloadExceedsProfile
  | allocationFailed
  | profileUnavailable
  | connectionLost
  deriving DecidableEq, Repr

inductive RegistrationUseError where
  | unknownFlowId
  | wrongDirection
  | reliableFlow
  deriving DecidableEq, Repr

def registeredOutboundUnreliable (registry : AcceptedFlowRegistry) (flowId : FlowId) :
    Except RegistrationUseError RegisteredFlow :=
  match registry.registeredFlow flowId with
  | none => .error .unknownFlowId
  | some flow =>
    if flow.key.direction ≠ .outbound then .error .wrongDirection
    else if flow.mode = .reliableOrdered then .error .reliableFlow
    else .ok flow

def mapRegistrationSubmissionError : RegistrationUseError → DatagramSubmitError
  | .unknownFlowId => .unknownFlowId
  | .wrongDirection => .wrongDirection
  | .reliableFlow => .reliableFlow

def mapRegistrationSendError : RegistrationUseError → DatagramSendError
  | .unknownFlowId => .unknownFlowId
  | .wrongDirection => .wrongDirection
  | .reliableFlow => .reliableFlow

/-- `datagram_len_for_send`: written out a second time, with the errors of a send. -/
def datagramLenForSend (flowId : FlowId) (mode : DeliveryMode) (sequence : Option Nat)
    (payloadLen : Nat) : Except DatagramSendError Nat :=
  match encodeVarint flowId.value with
  | .error e => .error (.wire e)
  | .ok flow =>
    let sequenceLen : Except DatagramSendError Nat := match mode with
      | .unreliableUnordered => .ok 0
      | .unreliableSequenced => match sequence with
        | none => .error .lengthOverflow
        | some sequence =>
          if sequence > maxVarint then .error .sequenceExhausted
          else match encodeVarint sequence with
            | .error e => .error (.wire e)
            | .ok encoded => .ok encoded.length
      | .reliableOrdered => .error .reliableFlow
    match sequenceLen with
    | .error e => .error e
    | .ok sequenceLen =>
      match (checkedAdd usizeMax flow.length sequenceLen).bind
          (checkedAdd usizeMax · payloadLen) with
      | none => .error .lengthOverflow
      | some len => .ok len

def encodeDatagram (reserves : Bool) (flowId : FlowId) (mode : DeliveryMode)
    (sequence : Option Nat) (payload : List UInt8) :
    Checked (Except DatagramSendError (List UInt8)) :=
  match datagramLenForSend flowId mode sequence payload.length with
  | .error e => .ok (.error e)
  | .ok total =>
    if ¬ reserves then .ok (.error .allocationFailed)
    else match encodeVarint flowId.value with
      | .error e => .ok (.error (.wire e))
      | .ok flow =>
        let encodedSequence : Except DatagramSendError (List UInt8) := match mode, sequence with
          | .unreliableUnordered, _ => .ok []
          | .unreliableSequenced, none => .error .lengthOverflow
          | .unreliableSequenced, some sequence => (encodeVarint sequence).mapError .wire
          | .reliableOrdered, _ => .error .reliableFlow
        match encodedSequence with
        | .error e => .ok (.error e)
        | .ok encodedSequence => do
          let datagram := flow ++ encodedSequence ++ payload
          Checked.assert (datagram.length = total)
          return .ok datagram

/-- The outcome of Core for a candidate sequence. -/
def submissionOutcome (candidate : Option Nat) :
    Except DeliveryOperationError SubmissionOutcome →
    Except DatagramSubmitError DatagramSubmissionOutcome
  | .error e => .error (.core e)
  | .ok (.accepted acceptedIndex localPressureDrops) => match candidate with
    | none => .ok (.accepted acceptedIndex localPressureDrops)
    | some expected =>
      if acceptedIndex ≠ expected then .error (.acceptedIndexMismatch expected acceptedIndex)
      else .ok (.accepted acceptedIndex localPressureDrops)
  | .ok .rejectedTooLarge => .ok .rejectedTooLarge
  | .ok .rejectedPressure => .ok .rejectedPressure
  | .ok .rejectedCounterExhausted => .ok .rejectedCounterExhausted

/-- `DatagramSender::submit` once the candidate sequence of the message is known. -/
def submitCandidate (maxDatagramSize : Option Nat) (endpoint : DeliveryEndpoint)
    (flowId : FlowId) (flow : RegisteredFlow) (candidate : Option Nat) (payload : List UInt8) :
    Checked (Except DatagramSubmitError DatagramSubmissionOutcome × DeliveryEndpoint) :=
  match datagramLen flowId flow.mode candidate payload.length with
  | .error e => .ok (.error (.envelope e), endpoint)
  | .ok wireLen => match maxDatagramSize with
    | none => .ok (.ok .rejectedTransportUnavailable, endpoint)
    | some available =>
      if wireLen > available then .ok (.ok .rejectedCurrentDatagramSize, endpoint)
      else do
        let (r, endpoint) ← endpoint.submit flow.key payload
        return (submissionOutcome candidate r, endpoint)

/-- `DatagramSender::submit`. -/
def submitDatagram (maxDatagramSize : Option Nat) (endpoint : DeliveryEndpoint)
    (registry : AcceptedFlowRegistry) (flowId : FlowId) (payload : List UInt8) :
    Checked (Except DatagramSubmitError DatagramSubmissionOutcome × DeliveryEndpoint) :=
  match registeredOutboundUnreliable registry flowId with
  | .error e => .ok (.error (mapRegistrationSubmissionError e), endpoint)
  | .ok flow =>
    if payload.length > flow.maxMessageBytes then .ok (.ok .rejectedTooLarge, endpoint)
    else match flow.mode with
      | .reliableOrdered => .ok (.error .reliableFlow, endpoint)
      | .unreliableUnordered => submitCandidate maxDatagramSize endpoint flowId flow none payload
      | .unreliableSequenced => match endpoint.nextOutboundAcceptedIndex flow.key with
        | .error e => .ok (.error (.core e), endpoint)
        | .ok none => .ok (.ok .rejectedCounterExhausted, endpoint)
        | .ok (some candidate) =>
          submitCandidate maxDatagramSize endpoint flowId flow (some candidate) payload

/-- A message that the transport cannot carry leaves custody. -/
def dropTransport (endpoint : DeliveryEndpoint) (key : DeliveryFlowKey) (acceptedIndex drops : Nat) :
    Checked (Except DatagramSendError DatagramSendProgress × DeliveryEndpoint × Nat) := do
  match ← endpoint.commitOutboundCustody key acceptedIndex with
  | (.error e, endpoint) => return (.error (.custody e), endpoint, drops)
  | (.ok _, endpoint) =>
    return (.ok (.droppedTransport acceptedIndex), endpoint, saturatingAdd usizeMax drops 1)

/-- The handoff of a datagram whose size and the buffer space were checked. -/
def handDatagram (t : DatagramSendTransport) (endpoint : DeliveryEndpoint) (key : DeliveryFlowKey)
    (acceptedIndex : Nat) (datagram : List UInt8) (drops : Nat) :
    Checked (Except DatagramSendError DatagramSendProgress × DeliveryEndpoint × Nat) :=
  match t.maxDatagramSizeAgain with
  | none => .ok (.error .profileUnavailable, endpoint, drops)
  | some maxDatagramSize =>
    if datagram.length > maxDatagramSize then dropTransport endpoint key acceptedIndex drops
    else if datagram.length > t.sendBufferSpaceAgain then
      .ok (.ok (.blockedNativeBuffer datagram.length t.sendBufferSpaceAgain), endpoint, drops)
    else match t.trySend datagram with
      | .error .tooLarge => dropTransport endpoint key acceptedIndex drops
      | .error .unsupportedByPeer | .error .disabled =>
        .ok (.error .profileUnavailable, endpoint, drops)
      | .error .connectionLost => .ok (.error .connectionLost, endpoint, drops)
      | .ok () => do
        match ← endpoint.commitOutboundCustody key acceptedIndex with
        | (.error e, endpoint) => return (.error (.custody e), endpoint, drops)
        | (.ok _, endpoint) => return (.ok (.enqueued acceptedIndex), endpoint, drops)

/-- `DatagramSender::drive_one` on the message at the front of the flow. -/
def driveTransfer (t : DatagramSendTransport) (endpoint : DeliveryEndpoint) (flowId : FlowId)
    (flow : RegisteredFlow) (transfer : DeliveryTransfer) (drops : Nat) :
    Checked (Except DatagramSendError DatagramSendProgress × DeliveryEndpoint × Nat) :=
  if transfer.mode ≠ flow.mode then .ok (.error .modeMismatch, endpoint, drops)
  else if transfer.payloadLen > flow.maxMessageBytes then
    .ok (.error .payloadExceedsProfile, endpoint, drops)
  else
    let send (sequence : Option Nat) :
        Checked (Except DatagramSendError DatagramSendProgress × DeliveryEndpoint × Nat) :=
      match datagramLenForSend flowId flow.mode sequence transfer.payloadLen with
      | .error e => .ok (.error e, endpoint, drops)
      | .ok wireLen => match t.maxDatagramSize with
        | none => .ok (.error .profileUnavailable, endpoint, drops)
        | some maxDatagramSize =>
          if wireLen > maxDatagramSize then
            dropTransport endpoint flow.key transfer.acceptedIndex drops
          else if wireLen > t.sendBufferSpace then
            .ok (.ok (.blockedNativeBuffer wireLen t.sendBufferSpace), endpoint, drops)
          else do
            match ← encodeDatagram t.reserves flowId flow.mode sequence transfer.payload with
            | .error e => return (.error e, endpoint, drops)
            | .ok datagram =>
              handDatagram t endpoint flow.key transfer.acceptedIndex datagram drops
    match flow.mode with
    | .unreliableUnordered => send none
    | .unreliableSequenced => send (some transfer.acceptedIndex)
    | .reliableOrdered => .ok (.error .reliableFlow, endpoint, drops)

/-- `DatagramSender::drive_one`; `drops` counts the messages the transport could not carry. -/
def driveOne (t : DatagramSendTransport) (endpoint : DeliveryEndpoint)
    (registry : AcceptedFlowRegistry) (flowId : FlowId) (drops : Nat) :
    Checked (Except DatagramSendError DatagramSendProgress × DeliveryEndpoint × Nat) :=
  match registeredOutboundUnreliable registry flowId with
  | .error e => .ok (.error (mapRegistrationSendError e), endpoint, drops)
  | .ok flow => match endpoint.peekOutbound flow.key with
    | .error e => .ok (.error (.core e), endpoint, drops)
    | .ok none => .ok (.ok .idle, endpoint, drops)
    | .ok (some transfer) => driveTransfer t endpoint flowId flow transfer drops

/-! ### Receiving -/

inductive DatagramReceiveOutcome where
  | discardedUnknownFlow
  | core (key : DeliveryFlowKey) (outcome : ReceiveOutcome)
  deriving Repr

inductive DatagramReceiveError where
  | varInt (e : VarIntDecodeError)
  | flowId (e : FlowIdError)
  | wrongDirection
  | reliableFlow
  | payloadExceedsProfile
  | allocationFailed
  | core (e : DeliveryOperationError)
  deriving DecidableEq, Repr

structure DatagramReceiveFailure where
  flowId : Option FlowId
  error : DatagramReceiveError
  deriving Repr

namespace DatagramReceiveFailure

def unresolved (error : DatagramReceiveError) : DatagramReceiveFailure := ⟨none, error⟩

def resolved (flowId : FlowId) (error : DatagramReceiveError) : DatagramReceiveFailure :=
  ⟨some flowId, error⟩

end DatagramReceiveFailure

/-- The sequence of a datagram of the flow, and where its payload starts. -/
def datagramEnvelope (flowId : FlowId) (mode : DeliveryMode) (datagram : List UInt8)
    (flowBytes : Nat) : Except DatagramReceiveFailure (Nat × Nat) :=
  match mode with
  | .unreliableUnordered => .ok (unorderedIngressIndex, flowBytes)
  | .unreliableSequenced => match decodeVarint (datagram.drop flowBytes) with
    | .error e => .error (.resolved flowId (.varInt e))
    | .ok (sequence, sequenceBytes) => .ok (sequence, flowBytes + sequenceBytes)
  | .reliableOrdered => .error (.resolved flowId .reliableFlow)

def receiveDatagram (reserves : Bool) (endpoint : DeliveryEndpoint)
    (registry : AcceptedFlowRegistry) (datagram : List UInt8) :
    Checked (Except DatagramReceiveFailure DatagramReceiveOutcome × DeliveryEndpoint) :=
  match decodeVarint datagram with
  | .error e => .ok (.error (.unresolved (.varInt e)), endpoint)
  | .ok (flowValue, flowBytes) => match FlowId.fromWire flowValue with
    | .error e => .ok (.error (.unresolved (.flowId e)), endpoint)
    | .ok flowId => match registry.registeredFlow flowId with
      | none => .ok (.ok .discardedUnknownFlow, endpoint)
      | some flow =>
        if flow.key.direction ≠ .inbound then
          .ok (.error (.resolved flowId .wrongDirection), endpoint)
        else if flow.mode = .reliableOrdered then
          .ok (.error (.resolved flowId .reliableFlow), endpoint)
        else match datagramEnvelope flowId flow.mode datagram flowBytes with
          | .error e => .ok (.error e, endpoint)
          | .ok (acceptedIndex, payloadOffset) =>
            let payload := datagram.drop payloadOffset
            if payload.length > flow.maxMessageBytes then
              .ok (.error (.resolved flowId .payloadExceedsProfile), endpoint)
            else if ¬ reserves then .ok (.error (.resolved flowId .allocationFailed), endpoint)
            else do
              match ← endpoint.receiveTransportPayload flow.key acceptedIndex payload with
              | (.error e, endpoint) => return (.error (.resolved flowId (.core e)), endpoint)
              | (.ok outcome, endpoint) => return (.ok (.core flow.key outcome), endpoint)

/-! ### The datagrams of a connection -/

inductive DatagramIoStateError where
  | notUnreliable
  | wrongDirection (direction : FlowDirection)
  | registryMismatch
  | duplicateOutboundFlow
  | readTerminated
  deriving DecidableEq, Repr

inductive DatagramIoError where
  | state (e : DatagramIoStateError)
  | allocation
  | connection
  | receive (failure : DatagramReceiveFailure)
  | send (flowId : FlowId) (error : DatagramSendError)
  deriving Repr

inductive DatagramOutboundProgress where
  | cancelled (flowId : FlowId)
  | driven (flowId : FlowId) (key : DeliveryFlowKey) (progress : DatagramSendProgress)
  deriving Repr

/-- `reading` while a datagram is awaited. -/
structure DatagramConnectionIo where
  outboundTransportDrops : Nat
  reading : Bool
  outbound : List FlowId
  outboundCursor : Nat

/-- What the transport and the allocator answer a poll. -/
structure DatagramTransport where
  send : DatagramSendTransport
  readDatagram : Polled (Except Unit (List UInt8))
  reserves : Bool

def isOutboundUnreliable (direction : FlowDirection) (mode : DeliveryMode) : Bool :=
  direction = .outbound && mode ≠ .reliableOrdered

def registeredOutboundUnreliableIsLive (fc : FlowControl) (flowId : FlowId) : Bool :=
  (fc.registry.registeredFlow flowId).any fun registered =>
    isOutboundUnreliable registered.key.direction registered.mode

def normalizeCursor (cursor len : Nat) : Nat := if len = 0 then 0 else cursor % len

def validateOutboundRegistration (flow : EstablishedFlow) (registered : Option RegisteredFlow)
    (duplicate : Bool) : Except DatagramIoStateError Unit :=
  if flow.mode = .reliableOrdered then .error .notUnreliable
  else if flow.key.direction ≠ .outbound then .error (.wrongDirection flow.key.direction)
  else if (registered.map fun r => (r.key, r.mode, r.maxMessageBytes)) ≠
      some (flow.key, flow.mode, flow.maxMessageBytes) then .error .registryMismatch
  else if duplicate then .error .duplicateOutboundFlow
  else .ok ()

namespace DatagramConnectionIo

def new : DatagramConnectionIo := ⟨0, true, [], 0⟩

def outboundFlowId (io : DatagramConnectionIo) (fc : FlowControl) (key : DeliveryFlowKey) :
    Option FlowId :=
  io.outbound.find? fun flowId => (fc.registry.registeredFlow flowId).any fun registered =>
    registered.key = key && isOutboundUnreliable registered.key.direction registered.mode

/-- `retain_live_outbound`. -/
def retainLiveOutbound (io : DatagramConnectionIo) (fc : FlowControl) : DatagramConnectionIo :=
  let outbound := io.outbound.filter fun flowId => registeredOutboundUnreliableIsLive fc flowId
  { io with outbound := outbound, outboundCursor := normalizeCursor io.outboundCursor outbound.length }

def registerOutbound (io : DatagramConnectionIo) (reserves : Bool) (fc : FlowControl)
    (flow : EstablishedFlow) : Checked (Except DatagramIoError Unit × DatagramConnectionIo) :=
  let io := io.retainLiveOutbound fc
  match validateOutboundRegistration flow (fc.registry.registeredFlow flow.flowId)
      (io.outbound.contains flow.flowId) with
  | .error e => .ok (.error (.state e), io)
  | .ok () =>
    if ¬ reserves then .ok (.error .allocation, io)
    else do
      let io := { io with outbound := io.outbound ++ [flow.flowId] }
      Checked.assert (io.outboundFlowId fc flow.key = some flow.flowId)
      return (.ok (), io)

/-- The loop of `drive_outbound` over the indices that are left, of `len`. -/
def driveOutboundFrom (t : DatagramSendTransport) (fc : FlowControl) (len next : Nat) :
    List Nat → DatagramConnectionIo → DeliveryEndpoint →
    Checked (Except DatagramIoError (Option DatagramOutboundProgress) × DatagramConnectionIo ×
      DeliveryEndpoint)
  | [], io, endpoint => .ok (.ok none, { io with outboundCursor := next }, endpoint)
  | index :: rest, io, endpoint => do
    let flowId ← Checked.expect "index is bounded" io.outbound[index]?
    if ¬ registeredOutboundUnreliableIsLive fc flowId then
      let outbound := swapRemove io.outbound index
      return (.ok (some (.cancelled flowId)), { io with
        outbound := outbound
        outboundCursor := normalizeCursor index outbound.length }, endpoint)
    else
      let registered ← Checked.expect "outbound DATAGRAM liveness was checked above"
        (fc.registry.registeredFlow flowId)
      let (r, endpoint, drops) ←
        driveOne t endpoint fc.registry flowId io.outboundTransportDrops
      let io := { io with outboundTransportDrops := drops }
      match r with
      | .ok .idle => driveOutboundFrom t fc len next rest io endpoint
      | .ok progress => return (.ok (some (.driven flowId registered.key progress)),
          { io with outboundCursor := (index + 1) % len }, endpoint)
      | .error error => return (.error (.send flowId error),
          { io with outboundCursor := (index + 1) % len }, endpoint)

def driveOutbound (io : DatagramConnectionIo) (t : DatagramSendTransport)
    (endpoint : DeliveryEndpoint) (fc : FlowControl) :
    Checked (Except DatagramIoError (Option DatagramOutboundProgress) × DatagramConnectionIo ×
      DeliveryEndpoint) :=
  let len := io.outbound.length
  if len = 0 then .ok (.ok none, io, endpoint)
  else
    let start := io.outboundCursor % len
    driveOutboundFrom t fc len ((start + 1) % len) (rotation start len) io endpoint

def pollInbound (io : DatagramConnectionIo) (t : DatagramTransport) (endpoint : DeliveryEndpoint)
    (fc : FlowControl) :
    Checked (Polled (Except DatagramIoError DatagramReceiveOutcome) × DatagramConnectionIo ×
      DeliveryEndpoint) :=
  if ¬ io.reading then .ok (some (.error (.state .readTerminated)), io, endpoint)
  else match t.readDatagram with
    | none => .ok (none, io, endpoint)
    | some (.error ()) => .ok (some (.error .connection), { io with reading := false }, endpoint)
    | some (.ok datagram) => do
      let (r, endpoint) ← receiveDatagram t.reserves endpoint fc.registry datagram
      return (some (r.mapError .receive), io, endpoint)

end DatagramConnectionIo

end RunenNet
