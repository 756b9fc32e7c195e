import RunenNet.Quic.Reliable
import RunenNet.Quic.Registry

/-!
# Reliable stream bindings

One outbound or inbound QUIC stream bound to its flow. A step asks the stream for one answer,
`none` where it is not ready, and works on the delivery endpoint and the registry.
-/

namespace RunenNet

open Foundation

/-- What an unready or ready operation answers; `none` is `Poll::Pending`. -/
abbrev Polled (α : Type) := Option α

inductive IoFailure where
  | read
  | write
  | connectionLost
  deriving DecidableEq, Repr

/-! ### Sending -/

inductive SendError where
  | registry (e : RegistryError)
  | core (e : DeliveryOperationError)
  | custody (e : CustodyCommitError)
  | framing (e : ReliableFrameError)
  | unexpectedAcceptedIndex (expected actual : Nat)
  | acceptedIndexExhausted
  | invalidWriteCount
  | writeZero
  | io (e : IoFailure)
  | pendingData
  | alreadyFinishing
  | terminal
  deriving DecidableEq, Repr

inductive SendProgress where
  | progressed (bytes : Nat)
  | committed (acceptedIndex : Nat)
  | idle
  | closed (termination : FlowTermination)
  deriving Repr

/-- A message that is being written: its bytes, its length and how far both were written. -/
structure OutboundMessage where
  snapshot : DeliveryTransfer
  length : List UInt8
  lengthOffset : Nat
  payloadOffset : Nat

structure OutboundState where
  flowHeader : List UInt8
  flowHeaderOffset : Nat
  maxMessageBytes : Nat
  nextAcceptedIndex : Option Nat
  current : Option OutboundMessage

namespace OutboundState

def new (flowId : FlowId) (maxMessageBytes : Nat) : Except SendError OutboundState :=
  match encodeVarint flowId.value with
  | .error _ => .error (.registry .unknownFlowId)
  | .ok flowHeader => .ok ⟨flowHeader, 0, maxMessageBytes, some 0, none⟩

/-- The message at the front of the flow, if it is the next one. -/
def load (s : OutboundState) (endpoint : DeliveryEndpoint) (key : DeliveryFlowKey) :
    Except SendError (Option OutboundMessage) :=
  match endpoint.peekOutbound key with
  | .error e => .error (.core e)
  | .ok none => .ok none
  | .ok (some snapshot) =>
    if snapshot.mode ≠ .reliableOrdered then .error (.registry .notReliable)
    else match s.nextAcceptedIndex with
      | none => .error .acceptedIndexExhausted
      | some expected =>
        if snapshot.acceptedIndex ≠ expected then
          .error (.unexpectedAcceptedIndex expected snapshot.acceptedIndex)
        else match encodePayloadLength snapshot.payloadLen s.maxMessageBytes with
          | .error e => .error (.framing e)
          | .ok length => .ok (some ⟨snapshot, length, 0, 0⟩)

/-- What is left to be written of a message. -/
def segmentOf (m : OutboundMessage) : Checked (List UInt8) :=
  if m.lengthOffset < m.length.length then .ok (m.length.drop m.lengthOffset)
  else if m.payloadOffset < m.snapshot.payloadLen then
    .ok (m.snapshot.payload.drop m.payloadOffset)
  else Checked.unreachable "completed message is committed by advance"

def nextSegment (s : OutboundState) (endpoint : DeliveryEndpoint) (key : DeliveryFlowKey) :
    Checked (Except SendError (Option (List UInt8)) × OutboundState) :=
  if s.flowHeaderOffset < s.flowHeader.length then
    .ok (.ok (some (s.flowHeader.drop s.flowHeaderOffset)), s)
  else match s.current with
    | some m => do
      let segment ← segmentOf m
      return (.ok (some segment), s)
    | none => match s.load endpoint key with
      | .error e => .ok (.error e, s)
      | .ok none => .ok (.ok none, s)
      | .ok (some m) => do
        let segment ← segmentOf m
        return (.ok (some segment), { s with current := some m })

def commitCurrent (s : OutboundState) (m : OutboundMessage) (endpoint : DeliveryEndpoint)
    (key : DeliveryFlowKey) : Checked (Except SendError Nat × OutboundState × DeliveryEndpoint) := do
  let s := { s with current := none }
  let acceptedIndex := m.snapshot.acceptedIndex
  match ← endpoint.commitOutboundCustody key acceptedIndex with
  | (.error e, endpoint) => return (.error (.custody e), s, endpoint)
  | (.ok _, endpoint) => return (.ok acceptedIndex,
      { s with nextAcceptedIndex := checkedAdd u64Max acceptedIndex 1 }, endpoint)

/-- The stream took `bytes` bytes of the segment. -/
def advance (s : OutboundState) (bytes : Nat) (endpoint : DeliveryEndpoint)
    (key : DeliveryFlowKey) :
    Checked (Except SendError (Option Nat) × OutboundState × DeliveryEndpoint) :=
  if bytes = 0 then .ok (.error .writeZero, s, endpoint)
  else if s.flowHeaderOffset < s.flowHeader.length then
    if bytes > s.flowHeader.length - s.flowHeaderOffset then
      .ok (.error .invalidWriteCount, s, endpoint)
    else .ok (.ok none, { s with flowHeaderOffset := s.flowHeaderOffset + bytes }, endpoint)
  else do
    let m ← Checked.expect "segment loaded before advance" s.current
    if m.lengthOffset < m.length.length then
      if bytes > m.length.length - m.lengthOffset then
        return (.error .invalidWriteCount, s, endpoint)
      else
        let m := { m with lengthOffset := m.lengthOffset + bytes }
        let s := { s with current := some m }
        if m.lengthOffset = m.length.length ∧ m.snapshot.payloadLen = 0 then
          let (r, s, endpoint) ← s.commitCurrent m endpoint key
          return (r.map some, s, endpoint)
        else return (.ok none, s, endpoint)
    else if bytes > m.snapshot.payloadLen - m.payloadOffset then
      return (.error .invalidWriteCount, s, endpoint)
    else
      let m := { m with payloadOffset := m.payloadOffset + bytes }
      let s := { s with current := some m }
      if m.payloadOffset = m.snapshot.payloadLen then
        let (r, s, endpoint) ← s.commitCurrent m endpoint key
        return (r.map some, s, endpoint)
      else return (.ok none, s, endpoint)

end OutboundState

/-- The answers of a send stream: how many bytes of a segment it took, and whether the peer
acknowledged the finish or stopped the stream. -/
structure SendStream where
  write : List UInt8 → Polled (Except IoFailure Nat)
  finishAck : Polled (Except IoFailure (Option Nat))

/-- `finishing` once the finish was requested and its acknowledgement is awaited. -/
structure OutboundReliable where
  flowId : FlowId
  key : DeliveryFlowKey
  state : OutboundState
  finishing : Bool
  failureTermination : Option FlowTermination
  terminal : Bool

namespace OutboundReliable

/-- What a step answers, and the state after it. -/
abbrev Stepped := Polled (Except SendError SendProgress) × OutboundReliable × DeliveryEndpoint ×
  AcceptedFlowRegistry

def bind (registry : AcceptedFlowRegistry) (flowId : FlowId) :
    Except SendError OutboundReliable × AcceptedFlowRegistry :=
  match registry.associateOutbound flowId with
  | (.error e, registry) => (.error (.registry e), registry)
  | (.ok flow, registry) => match OutboundState.new flowId flow.maxMessageBytes with
    | .error e => (.error e, registry)
    | .ok state => (.ok ⟨flowId, flow.key, state, false, none, false⟩, registry)

/-- The stream is reset, and the flow loses its reliable custody. -/
def fail (b : OutboundReliable) (endpoint : DeliveryEndpoint) (registry : AcceptedFlowRegistry)
    (error : SendError) : Checked Stepped :=
  if b.terminal then .ok (some (.error error), b, endpoint, registry)
  else do
    let (r, endpoint) ← endpoint.failReliableCustody b.key
    return (some (.error error),
      { b with failureTermination := r.toOption, terminal := true },
      endpoint, registry.release b.flowId)

/-- A step of a binding that waits for the acknowledgement of its finish. -/
def pollFinish (b : OutboundReliable) (io : SendStream) (endpoint : DeliveryEndpoint)
    (registry : AcceptedFlowRegistry) : Checked Stepped :=
  match endpoint.peekOutboundMetadata b.key with
  | .ok (some _) => b.fail endpoint registry .pendingData
  | .error e => b.fail endpoint registry (.core e)
  | .ok none => match io.finishAck with
    | none => .ok (none, b, endpoint, registry)
    | some (.ok none) => do
      match ← endpoint.terminateFlow b.key .requested with
      | (.error e, endpoint) => b.fail endpoint registry (.core e)
      | (.ok termination, endpoint) => return (some (.ok (.closed termination)),
          { b with finishing := false, terminal := true }, endpoint, registry.release b.flowId)
    | some (.error .connectionLost) =>
      .ok (some (.error (.io .connectionLost)), { b with terminal := true }, endpoint, registry)
    | some (.ok (some _)) | some (.error _) => b.fail endpoint registry (.io .write)

/-- A step of a binding that writes. -/
def pollWrite (b : OutboundReliable) (io : SendStream) (endpoint : DeliveryEndpoint)
    (registry : AcceptedFlowRegistry) : Checked Stepped := do
  match ← b.state.nextSegment endpoint b.key with
  | (.error e, state) => fail { b with state := state } endpoint registry e
  | (.ok none, state) => return (some (.ok .idle), { b with state := state }, endpoint, registry)
  | (.ok (some segment), state) =>
    let b := { b with state := state }
    match io.write segment with
    | none => return (none, b, endpoint, registry)
    | some (.error .connectionLost) =>
      return (some (.error (.io .connectionLost)), { b with terminal := true }, endpoint, registry)
    | some (.error e) => b.fail endpoint registry (.io e)
    | some (.ok 0) => b.fail endpoint registry .writeZero
    | some (.ok bytes) =>
      match ← b.state.advance bytes endpoint b.key with
      | (.error e, state, endpoint) => fail { b with state := state } endpoint registry e
      | (.ok none, state, endpoint) =>
        return (some (.ok (.progressed bytes)), { b with state := state }, endpoint, registry)
      | (.ok (some acceptedIndex), state, endpoint) =>
        return (some (.ok (.committed acceptedIndex)), { b with state := state }, endpoint,
          registry)

def pollStep (b : OutboundReliable) (io : SendStream) (endpoint : DeliveryEndpoint)
    (registry : AcceptedFlowRegistry) : Checked Stepped :=
  if b.terminal then .ok (some (.error .terminal), b, endpoint, registry)
  else if (endpoint.flowContract b.key).isNone then
    b.fail endpoint registry (.core .unknownFlow)
  else if b.finishing then b.pollFinish io endpoint registry
  else b.pollWrite io endpoint registry

/-- `finished` is the answer of the stream to its finish. -/
def requestFinishNormal (b : OutboundReliable) (finished : Except IoFailure Unit)
    (endpoint : DeliveryEndpoint) : Checked (Except SendError Unit × OutboundReliable) :=
  if b.terminal then .ok (.error .terminal, b)
  else if b.finishing then .ok (.error .alreadyFinishing, b)
  else if (endpoint.flowContract b.key).isNone then .ok (.error (.core .unknownFlow), b)
  else do
    match ← b.state.nextSegment endpoint b.key with
    | (.error e, state) => return (.error e, { b with state := state })
    | (.ok (some _), state) => return (.error .pendingData, { b with state := state })
    | (.ok none, state) => match finished with
      | .error e => return (.error (.io e), { b with state := state })
      | .ok () => return (.ok (), { b with state := state, finishing := true })

end OutboundReliable

/-! ### Receiving -/

inductive PrefixError where
  | varInt (e : VarIntDecodeError)
  | flowId (e : FlowIdError)
  deriving DecidableEq, Repr

structure PrefixConsume where
  consumed : Nat
  flowId : Option FlowId

/-- The bytes of the `FlowId` that were read so far. -/
structure FlowIdPrefix where
  bytes : List UInt8
  needed : Nat

namespace FlowIdPrefix

def new : FlowIdPrefix := ⟨[], 0⟩

/-- More bytes, of which `needed` make the prefix. -/
def consumeMore (p : FlowIdPrefix) (needed : Nat) (input : List UInt8) :
    Except PrefixError PrefixConsume × FlowIdPrefix :=
  let take := min (needed - p.bytes.length) input.length
  let p : FlowIdPrefix := ⟨p.bytes ++ input.take take, needed⟩
  if p.bytes.length ≠ needed then (.ok ⟨take, none⟩, p)
  else match decodeVarint p.bytes with
    | .error e => (.error (.varInt e), p)
    | .ok (value, _) => match FlowId.fromWire value with
      | .error e => (.error (.flowId e), p)
      | .ok flowId => (.ok ⟨take, some flowId⟩, p)

def consume (p : FlowIdPrefix) (input : List UInt8) :
    Except PrefixError PrefixConsume × FlowIdPrefix :=
  match p.bytes, input with
  | [], [] => (.ok ⟨0, none⟩, p)
  | [], first :: _ => p.consumeMore (encodedLenFromFirst first) input
  | _ :: _, input => p.consumeMore p.needed input

end FlowIdPrefix

inductive ReceiveError where
  | registry (e : RegistryError)
  | flowPrefix (e : PrefixError)
  | framing (e : ReliableFrameError)
  | core (e : DeliveryOperationError)
  | io (e : IoFailure)
  | zeroRtt
  | truncatedAssociation
  | adapterStagingBelowFlowMaximum (maxMessageBytes maxStagingBytes : Nat)
  | acceptedIndexExhausted
  | unexpectedCoreOutcome (outcome : ReceiveOutcome)
  | allocationFailed
  | terminal
  deriving DecidableEq, Repr

structure InboundFrames where
  decoder : ReliableFrameDecoder
  nextAcceptedIndex : Option Nat

namespace InboundFrames

def new (maxMessageBytes maxStagingBytes : Nat) : Except ReliableFrameError InboundFrames :=
  (ReliableFrameDecoder.new maxMessageBytes maxStagingBytes).map fun decoder => ⟨decoder, some 0⟩

/-- A complete message is handed to the flow. -/
def deliver (f : InboundFrames) (endpoint : DeliveryEndpoint) (key : DeliveryFlowKey)
    (message : List UInt8) :
    Checked (Except ReceiveError Unit × InboundFrames × DeliveryEndpoint) :=
  match f.nextAcceptedIndex with
  | none => .ok (.error .acceptedIndexExhausted, f, endpoint)
  | some acceptedIndex => do
    match ← endpoint.receiveTransportPayload key acceptedIndex message with
    | (.error e, endpoint) => return (.error (.core e), f, endpoint)
    | (.ok outcome, endpoint) =>
      if outcome ≠ .buffered 0 then return (.error (.unexpectedCoreOutcome outcome), f, endpoint)
      else return (.ok (),
        { f with nextAcceptedIndex := checkedAdd u64Max acceptedIndex 1 }, endpoint)

/-- The loop of `consume` over the rest of the input. `reserves` answers for the allocation of a
payload, by how much of the input is left. -/
def consumeFrom (key : DeliveryFlowKey) (reserves : Nat → Bool) : Nat → List UInt8 → Nat →
    InboundFrames → DeliveryEndpoint →
    Checked (Except ReceiveError Nat × InboundFrames × DeliveryEndpoint)
  | _, [], messages, f, endpoint => .ok (.ok messages, f, endpoint)
  | 0, _ :: _, _, _, _ => .error .divergence
  | bound + 1, input, messages, f, endpoint =>
    match f.decoder.consume (reserves input.length) input with
    | (.error e, decoder) => .ok (.error (.framing e), { f with decoder := decoder }, endpoint)
    | (.ok ⟨consumed, message⟩, decoder) =>
      let f := { f with decoder := decoder }
      if consumed = 0 ∧ message = none then .ok (.ok messages, f, endpoint)
      else match message with
        | none => consumeFrom key reserves bound (input.drop consumed) messages f endpoint
        | some message => do
          match ← f.deliver endpoint key message with
          | (.error e, f, endpoint) => return (.error e, f, endpoint)
          | (.ok (), f, endpoint) =>
            consumeFrom key reserves bound (input.drop consumed) (messages + 1) f endpoint

def consume (f : InboundFrames) (reserves : Nat → Bool) (input : List UInt8)
    (endpoint : DeliveryEndpoint) (key : DeliveryFlowKey) :
    Checked (Except ReceiveError Nat × InboundFrames × DeliveryEndpoint) :=
  consumeFrom key reserves input.length input 0 f endpoint

def finish (f : InboundFrames) : Except ReliableFrameError Unit := f.decoder.finish

end InboundFrames

inductive ReceiveProgress where
  | progressed (bytes : Nat)
  | associated (flowId : FlowId)
  | messagesBuffered (key : DeliveryFlowKey) (count : Nat)
  | draining (key : DeliveryFlowKey)
  | closed (key : DeliveryFlowKey) (termination : Option FlowTermination)
  deriving Repr

/-- The answers of a receive stream, an empty chunk being its end, and of the allocator. -/
structure RecvStream where
  read : Polled (Except IoFailure (List UInt8))
  reserves : Nat → Bool

structure InboundReliable where
  maxStagingBytes : Nat
  flowPrefix : FlowIdPrefix
  flowId : Option FlowId
  flow : Option RegisteredFlow
  frames : Option InboundFrames
  failureTermination : Option FlowTermination
  draining : Bool
  terminal : Bool

namespace InboundReliable

/-- What a step answers, and the state after it. -/
abbrev Stepped := Polled (Except ReceiveError ReceiveProgress) × InboundReliable ×
  DeliveryEndpoint × AcceptedFlowRegistry

def new (zeroRtt reserves : Bool) (maxStagingBytes : NonZeroUsize) :
    Except ReceiveError InboundReliable :=
  if zeroRtt then .error .zeroRtt
  else if ¬ reserves then .error .allocationFailed
  else .ok ⟨maxStagingBytes.get, .new, none, none, none, none, false, false⟩

def resolvedFlowKey (b : InboundReliable) : Option DeliveryFlowKey :=
  b.flow.map RegisteredFlow.key

def releaseFlow (b : InboundReliable) (registry : AcceptedFlowRegistry) : AcceptedFlowRegistry :=
  match b.flowId with
  | some flowId => registry.release flowId
  | none => registry

/-- The stream is stopped, and the flow loses its reliable custody. -/
def fail (b : InboundReliable) (endpoint : DeliveryEndpoint) (registry : AcceptedFlowRegistry)
    (error : ReceiveError) : Checked Stepped :=
  if b.terminal then .ok (some (.error error), b, endpoint, registry)
  else do
    let (termination, endpoint) ← match b.flow with
      | none => pure (b.failureTermination, endpoint)
      | some flow => do
        let (r, endpoint) ← endpoint.failReliableCustody flow.key
        pure (r.toOption, endpoint)
    return (some (.error error),
      { b with failureTermination := termination, terminal := true }, endpoint,
      b.releaseFlow registry)

/-- The stream ended: the flow is closed once everything was exposed. -/
def drain (b : InboundReliable) (endpoint : DeliveryEndpoint) (registry : AcceptedFlowRegistry) :
    Checked Stepped :=
  match b.flow with
  | none => .ok (some (.error .terminal), b, endpoint, registry)
  | some flow => match endpoint.flowPendingUsage flow.key with
    | some (0, 0) => do
      match ← endpoint.terminateFlow flow.key .requested with
      | (.error e, endpoint) => return (some (.error (.core e)), b, endpoint, registry)
      | (.ok termination, endpoint) => return (some (.ok (.closed flow.key (some termination))),
          { b with terminal := true }, endpoint, b.releaseFlow registry)
    | some _ => .ok (some (.ok (.draining flow.key)), b, endpoint, registry)
    | none => .ok (some (.ok (.closed flow.key none)), { b with terminal := true }, endpoint,
        b.releaseFlow registry)

/-- The stream has no more bytes. -/
def pollEnd (b : InboundReliable) (endpoint : DeliveryEndpoint) (registry : AcceptedFlowRegistry) :
    Checked Stepped :=
  match b.flow with
  | none => .ok (some (.error .truncatedAssociation), { b with terminal := true }, endpoint,
      registry)
  | some _ => do
    let frames ← Checked.expect "associated decoder" b.frames
    match frames.finish with
    | .error e => b.fail endpoint registry (.framing e)
    | .ok () => drain { b with draining := true } endpoint registry

/-- The rest of a chunk of which `read` bytes were read. -/
def pollFrames (b : InboundReliable) (io : RecvStream) (read : Nat) (rest : List UInt8)
    (endpoint : DeliveryEndpoint) (registry : AcceptedFlowRegistry) : Checked Stepped := do
  let flow ← Checked.expect "flow associated above" b.flow
  let frames ← Checked.expect "associated decoder" b.frames
  match ← frames.consume io.reserves rest endpoint flow.key with
  | (.error e, frames, endpoint) =>
    fail { b with frames := some frames } endpoint registry e
  | (.ok 0, frames, endpoint) => return (some (.ok (.progressed read)),
      { b with frames := some frames }, endpoint, registry)
  | (.ok count, frames, endpoint) => return (some (.ok (.messagesBuffered flow.key count)),
      { b with frames := some frames }, endpoint, registry)

/-- A chunk of a stream whose flow is not known yet. -/
def pollAssociate (b : InboundReliable) (io : RecvStream) (chunk : List UInt8)
    (endpoint : DeliveryEndpoint) (registry : AcceptedFlowRegistry) : Checked Stepped :=
  match b.flowPrefix.consume chunk with
  | (.error e, p) => .ok (some (.error (.flowPrefix e)),
      { b with flowPrefix := p, terminal := true }, endpoint, registry)
  | (.ok ⟨_, none⟩, p) => .ok (some (.ok (.progressed chunk.length)),
      { b with flowPrefix := p }, endpoint, registry)
  | (.ok ⟨offset, some flowId⟩, p) =>
    let b := { b with flowPrefix := p }
    match registry.associateInbound flowId with
    | (.error e, registry) => .ok (some (.error (.registry e)), { b with terminal := true },
        endpoint, registry)
    | (.ok flow, registry) =>
      let b := { b with flowId := some flowId, flow := some flow }
      if b.maxStagingBytes < flow.maxMessageBytes then
        b.fail endpoint registry
          (.adapterStagingBelowFlowMaximum flow.maxMessageBytes b.maxStagingBytes)
      else match InboundFrames.new flow.maxMessageBytes b.maxStagingBytes with
        | .error e => b.fail endpoint registry (.framing e)
        | .ok frames =>
          let b := { b with frames := some frames }
          if offset = chunk.length then
            .ok (some (.ok (.associated flowId)), b, endpoint, registry)
          else b.pollFrames io chunk.length (chunk.drop offset) endpoint registry

def pollStep (b : InboundReliable) (io : RecvStream) (endpoint : DeliveryEndpoint)
    (registry : AcceptedFlowRegistry) : Checked Stepped :=
  if b.terminal then .ok (some (.error .terminal), b, endpoint, registry)
  else if b.draining then b.drain endpoint registry
  else match io.read with
    | none => .ok (none, b, endpoint, registry)
    | some (.error .connectionLost) =>
      .ok (some (.error (.io .connectionLost)), { b with terminal := true }, endpoint, registry)
    | some (.error e) => b.fail endpoint registry (.io e)
    | some (.ok []) => b.pollEnd endpoint registry
    | some (.ok chunk) =>
      if b.flow.isNone then b.pollAssociate io chunk endpoint registry
      else b.pollFrames io chunk.length chunk endpoint registry

end InboundReliable

end RunenNet
