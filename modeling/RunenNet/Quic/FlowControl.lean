import RunenNet.Quic.Registry
import RunenNet.Quic.Control

/-!
# Flow control

Opening, admitting and terminating flows over the control stream. An operation that may allocate
takes the allocator's answers; what it sends is returned as a frame, and a panic of the source
is a panic here.
-/

namespace RunenNet

open Foundation

/-- Where an operation asks the allocator. -/
inductive AllocationSite where
  | pendingOutbound
  | registry
  | frame (type : ControlFrameType)
  deriving DecidableEq, Repr

abbrev Allocator := AllocationSite → Bool

inductive FlowControlConfigError where
  | activeRegistryCapacityOverflow
  | activeRegistryCapacityOutOfRange
  deriving DecidableEq, Repr

/-- The errors of `datagram_len`. -/
inductive DatagramSubmissionError where
  | reliableFlow
  | wire (e : VarIntEncodeError)
  | lengthOverflow
  | sequenceExhausted
  deriving DecidableEq, Repr

inductive OutboundOpenError where
  | wrongConnection (expected actual : ConnectionHandle)
  | wrongDirection (direction : FlowDirection)
  | invalidPolicy (e : DeliveryPolicyError)
  | coreFlowAlreadyExists (key : DeliveryFlowKey)
  | pendingCoreFlow (key : DeliveryFlowKey)
  | stableMessageLimitMismatch (policyMax stableMax : Nat)
  | stableMessageLimitOutOfRange
  | peerMessageLimit (requested peerLimit : Nat)
  | peerActiveFlowLimit (inUse peerLimit : Nat)
  | datagramUnavailable
  | datagramTooSmall (needed available : Nat)
  | datagramEnvelope (e : DatagramSubmissionError)
  | flowId (e : FlowIdCursorError)
  | body (e : ControlBodyError)
  | allocation
  deriving Repr

inductive FlowControlError where
  | inboundDecisionPending (flowId : FlowId)
  | unexpectedFrame (type : ControlFrameType)
  | body (e : ControlBodyError)
  | flowId (e : FlowIdCursorError)
  | wrongResponseSide (expected received : WireSide)
  | unknownPendingFlow (flowId : FlowId)
  | unknownActiveFlow (flowId : FlowId)
  | reliableNormalUsesFin (flowId : FlowId)
  | coreState (e : DeliveryOperationError)
  | localEstablishment (e : FlowEstablishmentError)
  | registry (e : RegistryError)
  | allocation
  deriving Repr

inductive InboundAdmissionError where
  | requestNotPending (flowId : FlowId)
  | wrongConnection (expected actual : ConnectionHandle)
  | wrongDirection (direction : FlowDirection)
  | invalidPolicy (e : DeliveryPolicyError)
  | localEstablishment (e : FlowEstablishmentError)
  | registry (e : RegistryError)
  | coreRollback (e : DeliveryOperationError)
  | allocation
  deriving Repr

/-- `PreparedFlow` and `EstablishedFlow`, which have the same fields. -/
structure EstablishedFlow where
  flowId : FlowId
  key : DeliveryFlowKey
  mode : DeliveryMode
  maxMessageBytes : Nat
  deriving Repr

structure OutboundOpenRequest where
  key : DeliveryFlowKey
  mode : DeliveryMode
  policy : FlowResourcePolicy
  stableMaxMessageBytes : NonZeroUsize
  connectionLimits : DeliveryScopeLimits

structure PreparedOutboundOpen where
  frame : ControlFrame
  flow : EstablishedFlow

/-- An open to be decided: `InboundOpenRequest` and `PendingInboundFlow`. -/
structure InboundOpenRequest where
  flowId : FlowId
  mode : DeliveryMode
  maxMessageBytes : Nat
  deriving DecidableEq, Repr

structure InboundAdmission where
  key : DeliveryFlowKey
  policy : FlowResourcePolicy
  connectionLimits : DeliveryScopeLimits

inductive FlowControlProgress where
  | inboundOpen (request : InboundOpenRequest)
  | inboundRejected (flowId : FlowId) (reason : FlowRejectReason) (frame : ControlFrame)
  | outboundEstablished (flow : EstablishedFlow)
  | outboundRejected (flowId : FlowId) (key : DeliveryFlowKey) (reason : FlowRejectReason)
  | outboundFailedAfterAccept (flowId : FlowId) (key : DeliveryFlowKey)
      (reason : FlowTerminateReason) (termination : Option FlowTermination) (frame : ControlFrame)
  | remoteTerminated (flow : EstablishedFlow) (reason : FlowTerminateReason)
      (termination : FlowTermination)

inductive InboundResolution where
  | accepted (flow : EstablishedFlow) (frame : ControlFrame)
  | rejected (flowId : FlowId) (reason : FlowRejectReason) (frame : ControlFrame)

structure LocalTermination where
  flow : EstablishedFlow
  reason : FlowTerminateReason
  termination : FlowTermination
  frame : ControlFrame

structure PendingOutboundFlow where
  key : DeliveryFlowKey
  mode : DeliveryMode
  policy : FlowResourcePolicy
  connectionLimits : DeliveryScopeLimits
  stableMaxMessageBytes : NonZeroUsize

/-- `pendingOutbound` is keyed by the value of the `FlowId`. -/
structure FlowControl where
  connection : ConnectionHandle
  localSide : WireSide
  localSettings : Settings
  peerSettings : Settings
  localFlowIds : FlowIdCursor
  peerFlowIds : FlowIdCursor
  pendingOutbound : SortedMap Nat PendingOutboundFlow
  pendingInbound : Option InboundOpenRequest
  registry : AcceptedFlowRegistry

/-! ### Frames -/

/-- `None` is an allocation failure. -/
def ownedFrame (alloc : Allocator) (type : ControlFrameType) (body : Checked (List UInt8)) :
    Checked (Option ControlFrame) := do
  let bytes ← body
  return if alloc (.frame type) then some ⟨type, bytes⟩ else none

def acceptFrame (alloc : Allocator) (flowId : FlowId) : Checked (Option ControlFrame) :=
  ownedFrame alloc .flowAccept (FlowAccept.encode ⟨flowId⟩)

def rejectFrame (alloc : Allocator) (flowId : FlowId) (reason : FlowRejectReason) :
    Checked (Option ControlFrame) :=
  ownedFrame alloc .flowReject (FlowReject.encode ⟨flowId, reason⟩)

def terminateFrame (alloc : Allocator) (flowId : FlowId) (reason : FlowTerminateReason) :
    Checked (Option ControlFrame) :=
  ownedFrame alloc .flowTerminate (FlowTerminate.encode ⟨flowId, reason⟩)

/-- `datagram_len`. -/
def datagramLen (flowId : FlowId) (mode : DeliveryMode) (sequence : Option Nat)
    (payloadLen : Nat) : Except DatagramSubmissionError Nat :=
  match encodeVarint flowId.value with
  | .error e => .error (.wire e)
  | .ok flow =>
    let sequenceLen : Except DatagramSubmissionError Nat := match mode with
      | .unreliableUnordered => .ok 0
      | .unreliableSequenced => match sequence with
        | none => .error .lengthOverflow
        | some sequence =>
          if sequence > maxVarint then .error .sequenceExhausted
          else match encodeVarint sequence with
            | .error e => .error (.wire e)
            | .ok encoded => .ok encoded.length
      | .reliableOrdered => .error .reliableFlow
    match sequenceLen with
    | .error e => .error e
    | .ok sequenceLen =>
      match (checkedAdd usizeMax flow.length sequenceLen).bind
          (checkedAdd usizeMax · payloadLen) with
      | none => .error .lengthOverflow
      | some len => .ok len

def establishedFromRegistered (flowId : FlowId) (flow : RegisteredFlow) : EstablishedFlow :=
  ⟨flowId, flow.key, flow.mode, flow.maxMessageBytes⟩

namespace FlowControl

def new (connection : ConnectionHandle) (localSide : WireSide)
    (localSettings peerSettings : Settings) : Except FlowControlConfigError FlowControl :=
  match checkedAdd u64Max localSettings.maxActiveIncomingFlows
      peerSettings.maxActiveIncomingFlows with
  | none => .error .activeRegistryCapacityOverflow
  | some capacity =>
    if h : 0 < capacity ∧ capacity ≤ usizeMax then
      .ok {
        connection := connection
        localSide := localSide
        localSettings := localSettings
        peerSettings := peerSettings
        localFlowIds := .new localSide
        peerFlowIds := .new localSide.opposite
        pendingOutbound := .empty
        pendingInbound := none
        registry := .new localSide ⟨capacity, h.1, h.2⟩ }
    else .error .activeRegistryCapacityOutOfRange

/-! ### Opening -/

def validateOutboundIdentity (fc : FlowControl) (endpoint : DeliveryEndpoint)
    (key : DeliveryFlowKey) : Except OutboundOpenError Unit :=
  if key.connection ≠ fc.connection then .error (.wrongConnection fc.connection key.connection)
  else if key.direction ≠ .outbound then .error (.wrongDirection key.direction)
  else if (endpoint.flowContract key).isSome then .error (.coreFlowAlreadyExists key)
  else if fc.pendingOutbound.values.any (fun pending => pending.key = key) then
    .error (.pendingCoreFlow key)
  else .ok ()

/-- The limits of `prepare_outbound_open` before a `FlowId` is previewed. -/
def validateOutboundLimits (fc : FlowControl) (request : OutboundOpenRequest) :
    Except OutboundOpenError Unit :=
  let stableMax := request.stableMaxMessageBytes.get
  match request.policy.validateForMode request.mode with
  | .error e => .error (.invalidPolicy e)
  | .ok () =>
    if request.policy.maxMessageBytes.get ≠ stableMax then
      .error (.stableMessageLimitMismatch request.policy.maxMessageBytes.get stableMax)
    else if stableMax > maxVarint then .error .stableMessageLimitOutOfRange
    else if stableMax > fc.peerSettings.maxIncomingMessageBytes then
      .error (.peerMessageLimit stableMax fc.peerSettings.maxIncomingMessageBytes)
    else
      let inUse := (checkedAdd usizeMax (fc.registry.activeDirectionLen .outbound)
        fc.pendingOutbound.size).getD u64Max
      if inUse ≥ fc.peerSettings.maxActiveIncomingFlows then
        .error (.peerActiveFlowLimit inUse fc.peerSettings.maxActiveIncomingFlows)
      else .ok ()

/-- An unreliable flow needs a datagram for its largest message. -/
def validateDatagramSize (flowId : FlowId) (mode : DeliveryMode) (stableMax : Nat)
    (currentDatagramSize : Option Nat) : Except OutboundOpenError Unit :=
  let check (sequence : Option Nat) : Except OutboundOpenError Unit :=
    match datagramLen flowId mode sequence stableMax with
    | .error e => .error (.datagramEnvelope e)
    | .ok needed => match currentDatagramSize with
      | none => .error .datagramUnavailable
      | some available =>
        if needed > available then .error (.datagramTooSmall needed available) else .ok ()
  match mode with
  | .reliableOrdered => .ok ()
  | .unreliableUnordered => check none
  | .unreliableSequenced => check (some maxVarint)

/-- The last part of `prepare_outbound_open`: the `FlowId` is allocated and pending. -/
def commitOutboundOpen (fc : FlowControl) (alloc : Allocator) (request : OutboundOpenRequest)
    (flowId : FlowId) : Checked (Except OutboundOpenError PreparedOutboundOpen × FlowControl) :=
  let stableMax := request.stableMaxMessageBytes.get
  if ¬ alloc .pendingOutbound then .ok (.error .allocation, fc)
  else match OpenFlow.new flowId request.mode stableMax with
    | .error e => .ok (.error (.body e), fc)
    | .ok o => do
      match ← ownedFrame alloc .openFlow o.encode with
      | none => return (.error .allocation, fc)
      | some frame => do
        let (allocated, cursor) ← fc.localFlowIds.allocate
        match allocated with
        | .error e => return (.error (.flowId e), { fc with localFlowIds := cursor })
        | .ok allocated => do
          Checked.assert (allocated = flowId)
          Checked.assert (fc.pendingOutbound.get? flowId.value).isNone
          return (.ok ⟨frame, ⟨flowId, request.key, request.mode, stableMax⟩⟩, { fc with
            localFlowIds := cursor
            pendingOutbound := fc.pendingOutbound.insert flowId.value
              { key := request.key
                mode := request.mode
                policy := request.policy
                connectionLimits := request.connectionLimits
                stableMaxMessageBytes := request.stableMaxMessageBytes } })

def prepareOutboundOpen (fc : FlowControl) (alloc : Allocator) (endpoint : DeliveryEndpoint)
    (request : OutboundOpenRequest) (currentDatagramSize : Option Nat) :
    Checked (Except OutboundOpenError PreparedOutboundOpen × FlowControl) :=
  match fc.validateOutboundIdentity endpoint request.key with
  | .error e => .ok (.error e, fc)
  | .ok () => match fc.validateOutboundLimits request with
    | .error e => .ok (.error e, fc)
    | .ok () => do
      -- the cursor itself is only advanced at the end
      let (preview, _) ← fc.localFlowIds.allocate
      match preview with
      | .error e => return (.error (.flowId e), fc)
      | .ok flowId =>
        match validateDatagramSize flowId request.mode request.stableMaxMessageBytes.get
            currentDatagramSize with
        | .error e => return (.error e, fc)
        | .ok () => fc.commitOutboundOpen alloc request flowId

/-! ### Receiving -/

/-- What a received frame leads to, and the state after it. -/
abbrev Received := Except FlowControlError FlowControlProgress × FlowControl × DeliveryEndpoint

def inboundRejection (fc : FlowControl) (alloc : Allocator) (endpoint : DeliveryEndpoint)
    (flowId : FlowId) (reason : FlowRejectReason) : Checked Received := do
  match ← rejectFrame alloc flowId reason with
  | none => return (.error .allocation, fc, endpoint)
  | some frame => return (.ok (.inboundRejected flowId reason frame), fc, endpoint)

def receiveOpen (fc : FlowControl) (alloc : Allocator) (endpoint : DeliveryEndpoint)
    (body : List UInt8) : Checked Received :=
  match OpenFlow.decode body with
  | .error e => .ok (.error (.body e), fc, endpoint)
  | .ok o => match fc.peerFlowIds.validateAndConsume o.flowId with
    | (.error e, cursor) => .ok (.error (.flowId e), { fc with peerFlowIds := cursor }, endpoint)
    | (.ok (), cursor) =>
      let fc := { fc with peerFlowIds := cursor }
      if o.maxMessageBytes > fc.localSettings.maxIncomingMessageBytes then
        fc.inboundRejection alloc endpoint o.flowId .messageLimit
      else if fc.registry.activeDirectionLen .inbound ≥ fc.localSettings.maxActiveIncomingFlows then
        fc.inboundRejection alloc endpoint o.flowId .resourceLimit
      else
        let pending : InboundOpenRequest := ⟨o.flowId, o.deliveryMode, o.maxMessageBytes⟩
        .ok (.ok (.inboundOpen pending), { fc with pendingInbound := some pending }, endpoint)

def outboundResourceFailure (fc : FlowControl) (alloc : Allocator) (endpoint : DeliveryEndpoint)
    (flowId : FlowId) (key : DeliveryFlowKey) (termination : Option FlowTermination) :
    Checked Received := do
  let reason := FlowTerminateReason.resourceFailure
  match ← terminateFrame alloc flowId reason with
  | none => return (.error .allocation, fc, endpoint)
  | some frame =>
    return (.ok (.outboundFailedAfterAccept flowId key reason termination frame), fc, endpoint)

/-- The second half of `receive_accept`: the established flow is registered or rolled back. -/
def activateOutbound (fc : FlowControl) (alloc : Allocator) (endpoint : DeliveryEndpoint)
    (flowId : FlowId) (pending : PendingOutboundFlow) : Checked Received :=
  match fc.registry.registerConsumedAcceptedFlow endpoint flowId pending.key
      pending.stableMaxMessageBytes (alloc .registry) with
  | (.ok (), registry) => .ok (.ok (.outboundEstablished
      ⟨flowId, pending.key, pending.mode, pending.stableMaxMessageBytes.get⟩),
      { fc with registry := registry }, endpoint)
  | (.error err, registry) => do
    let fc := { fc with registry := registry }
    match ← endpoint.terminateFlow pending.key .requested with
    | (.error e, endpoint) => return (.error (.coreState e), fc, endpoint)
    | (.ok termination, endpoint) =>
      match err with
      | .capacityExceeded | .allocationFailed =>
        fc.outboundResourceFailure alloc endpoint flowId pending.key (some termination)
      | err => return (.error (.registry err), fc, endpoint)

def receiveAccept (fc : FlowControl) (alloc : Allocator) (endpoint : DeliveryEndpoint)
    (body : List UInt8) : Checked Received :=
  match FlowAccept.decode body with
  | .error e => .ok (.error (.body e), fc, endpoint)
  | .ok accept =>
    if accept.flowId.side ≠ fc.localSide then
      .ok (.error (.wrongResponseSide fc.localSide accept.flowId.side), fc, endpoint)
    else match fc.pendingOutbound.get? accept.flowId.value with
      | none => .ok (.error (.unknownPendingFlow accept.flowId), fc, endpoint)
      | some pending => do
        let fc := { fc with pendingOutbound := fc.pendingOutbound.erase accept.flowId.value }
        match ← endpoint.establishFlow pending.key pending.mode pending.policy
            pending.connectionLimits with
        | (.ok (), endpoint) => fc.activateOutbound alloc endpoint accept.flowId pending
        | (.error (.activeFlowLimitExceeded _), endpoint) =>
          fc.outboundResourceFailure alloc endpoint accept.flowId pending.key none
        | (.error e, endpoint) => return (.error (.localEstablishment e), fc, endpoint)

def receiveReject (fc : FlowControl) (endpoint : DeliveryEndpoint) (body : List UInt8) : Received :=
  match FlowReject.decode body with
  | .error e => (.error (.body e), fc, endpoint)
  | .ok reject =>
    if reject.flowId.side ≠ fc.localSide then
      (.error (.wrongResponseSide fc.localSide reject.flowId.side), fc, endpoint)
    else match fc.pendingOutbound.get? reject.flowId.value with
      | none => (.error (.unknownPendingFlow reject.flowId), fc, endpoint)
      | some pending =>
        (.ok (.outboundRejected reject.flowId pending.key reject.reason),
          { fc with pendingOutbound := fc.pendingOutbound.erase reject.flowId.value }, endpoint)

/-- The end of a registered flow: the Core flow is terminated and its `FlowId` released. -/
def endRegistered (fc : FlowControl) (endpoint : DeliveryEndpoint) (flowId : FlowId)
    (flow : RegisteredFlow) :
    Checked (Except FlowControlError FlowTermination × FlowControl × DeliveryEndpoint) := do
  match ← endpoint.terminateFlow flow.key .requested with
  | (.error e, endpoint) => return (.error (.coreState e), fc, endpoint)
  | (.ok termination, endpoint) =>
    return (.ok termination, { fc with registry := fc.registry.release flowId }, endpoint)

def receiveTerminate (fc : FlowControl) (endpoint : DeliveryEndpoint) (body : List UInt8) :
    Checked Received :=
  match FlowTerminate.decode body with
  | .error e => .ok (.error (.body e), fc, endpoint)
  | .ok terminate => match fc.registry.registeredFlow terminate.flowId with
    | none => .ok (.error (.unknownActiveFlow terminate.flowId), fc, endpoint)
    | some flow =>
      if flow.mode = .reliableOrdered ∧ terminate.reason = .normal then
        .ok (.error (.reliableNormalUsesFin terminate.flowId), fc, endpoint)
      else do
        let (r, fc, endpoint) ← fc.endRegistered endpoint terminate.flowId flow
        return (r.map fun termination => .remoteTerminated
          (establishedFromRegistered terminate.flowId flow) terminate.reason termination,
          fc, endpoint)

def receive (fc : FlowControl) (alloc : Allocator) (endpoint : DeliveryEndpoint)
    (frame : ControlFrame) : Checked Received :=
  match frame.frameType with
  | .openFlow => match fc.pendingInbound with
    | some pending => .ok (.error (.inboundDecisionPending pending.flowId), fc, endpoint)
    | none => fc.receiveOpen alloc endpoint frame.body
  | .flowAccept => fc.receiveAccept alloc endpoint frame.body
  | .flowReject => .ok (fc.receiveReject endpoint frame.body)
  | .flowTerminate => fc.receiveTerminate endpoint frame.body
  | type => .ok (.error (.unexpectedFrame type), fc, endpoint)

/-! ### Deciding -/

/-- What a decision leads to, and the state after it. -/
abbrev Resolved :=
  Except InboundAdmissionError InboundResolution × FlowControl × DeliveryEndpoint

def resolveInboundRejection (fc : FlowControl) (alloc : Allocator) (endpoint : DeliveryEndpoint)
    (request : InboundOpenRequest) (reason : FlowRejectReason) : Checked Resolved := do
  let resolved := { fc with pendingInbound := none }
  match ← rejectFrame alloc request.flowId reason with
  | none => return (.error .allocation, resolved, endpoint)
  | some frame => return (.ok (.rejected request.flowId reason frame), resolved, endpoint)

/-- The end of `accept_inbound`: the established flow is registered or rolled back. -/
def activateInbound (fc : FlowControl) (alloc : Allocator) (endpoint : DeliveryEndpoint)
    (request : InboundOpenRequest) (admission : InboundAdmission) (frame : ControlFrame) :
    Checked Resolved :=
  if h : 0 < request.maxMessageBytes ∧ request.maxMessageBytes ≤ usizeMax then
    match fc.registry.registerConsumedAcceptedFlow endpoint request.flowId admission.key
        ⟨request.maxMessageBytes, h.1, h.2⟩ (alloc .registry) with
    | (.ok (), registry) => .ok (.ok (.accepted
        ⟨request.flowId, admission.key, request.mode, request.maxMessageBytes⟩ frame),
        { fc with registry := registry, pendingInbound := none }, endpoint)
    | (.error err, registry) => do
      let fc := { fc with registry := registry }
      match ← endpoint.terminateFlow admission.key .requested with
      | (.error e, endpoint) =>
        return (.error (.coreRollback e), { fc with pendingInbound := none }, endpoint)
      | (.ok _, endpoint) => match err with
        | .capacityExceeded | .allocationFailed =>
          fc.resolveInboundRejection alloc endpoint request .resourceLimit
        | err => return (.error (.registry err), { fc with pendingInbound := none }, endpoint)
  else .error (.expect
    "accepted inbound policy maximum proves platform-sized non-zero stable limit")

def acceptInbound (fc : FlowControl) (alloc : Allocator) (endpoint : DeliveryEndpoint)
    (request : InboundOpenRequest) (admission : InboundAdmission) : Checked Resolved :=
  let decided := { fc with pendingInbound := none }
  if fc.pendingInbound ≠ some request then
    .ok (.error (.requestNotPending request.flowId), fc, endpoint)
  else if admission.key.connection ≠ fc.connection then
    .ok (.error (.wrongConnection fc.connection admission.key.connection), decided, endpoint)
  else if admission.key.direction ≠ .inbound then
    .ok (.error (.wrongDirection admission.key.direction), decided, endpoint)
  else match admission.policy.validateForMode request.mode with
    | .error e => .ok (.error (.invalidPolicy e), decided, endpoint)
    | .ok () =>
      if request.maxMessageBytes > admission.policy.maxMessageBytes.get then
        fc.resolveInboundRejection alloc endpoint request .messageLimit
      else if fc.registry.activeDirectionLen .inbound ≥
          fc.localSettings.maxActiveIncomingFlows then
        fc.resolveInboundRejection alloc endpoint request .resourceLimit
      else do
        match ← acceptFrame alloc request.flowId with
        | none => return (.error .allocation, decided, endpoint)
        | some frame => do
          match ← endpoint.establishFlow admission.key request.mode admission.policy
              admission.connectionLimits with
          | (.ok (), endpoint) => fc.activateInbound alloc endpoint request admission frame
          | (.error (.activeFlowLimitExceeded _), endpoint) =>
            fc.resolveInboundRejection alloc endpoint request .resourceLimit
          | (.error e, endpoint) => return (.error (.localEstablishment e), decided, endpoint)

def rejectInbound (fc : FlowControl) (alloc : Allocator) (endpoint : DeliveryEndpoint)
    (request : InboundOpenRequest) (reason : FlowRejectReason) : Checked Resolved :=
  if fc.pendingInbound ≠ some request then
    .ok (.error (.requestNotPending request.flowId), fc, endpoint)
  else fc.resolveInboundRejection alloc endpoint request reason

/-! ### Ending -/

def terminateLocal (fc : FlowControl) (alloc : Allocator) (endpoint : DeliveryEndpoint)
    (flowId : FlowId) (reason : FlowTerminateReason) :
    Checked (Except FlowControlError LocalTermination × FlowControl × DeliveryEndpoint) :=
  match fc.registry.registeredFlow flowId with
  | none => .ok (.error (.unknownActiveFlow flowId), fc, endpoint)
  | some flow =>
    if flow.mode = .reliableOrdered ∧ reason = .normal then
      .ok (.error (.reliableNormalUsesFin flowId), fc, endpoint)
    else do
      match ← terminateFrame alloc flowId reason with
      | none => return (.error .allocation, fc, endpoint)
      | some frame => do
        let (r, fc, endpoint) ← fc.endRegistered endpoint flowId flow
        return (r.map fun termination =>
          ⟨establishedFromRegistered flowId flow, reason, termination, frame⟩, fc, endpoint)

end FlowControl

end RunenNet
