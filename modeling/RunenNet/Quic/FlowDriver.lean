import RunenNet.Quic.Datagram

/-!
# Sending flow control frames, and failures of the data path

A frame to be sent travels with its effect: the local state that is already committed. A failure of
a stream or a datagram is classified by what the flow it concerns has come to.
-/

namespace RunenNet

open Foundation

inductive ApplicationErrorCode where
  | noError
  | profileProtocolError
  | controlFrameError
  | resourceLimitError
  | negotiationFailed
  | flowProtocolError
  | reliableDeliveryFailed
  deriving DecidableEq, Repr

/-- What a refused frame closes the connection with, if it closes it. -/
def receivedFlowControlCloseCode : FlowControlError → Option ApplicationErrorCode
  | .unexpectedFrame _ => some .profileProtocolError
  | .body _ | .flowId _ | .wrongResponseSide _ _ | .unknownPendingFlow _ | .unknownActiveFlow _
  | .reliableNormalUsesFin _ => some .flowProtocolError
  | .allocation => some .resourceLimitError
  | .inboundDecisionPending _ | .coreState _ | .localEstablishment _ | .registry _ => none

inductive FlowControlSendEffect where
  | outboundOpenPrepared (flow : EstablishedFlow)
  | inboundRejected (flowId : FlowId) (reason : FlowRejectReason)
  | inboundAccepted (flow : EstablishedFlow)
  | outboundFailedAfterAccept (flowId : FlowId) (key : DeliveryFlowKey)
      (reason : FlowTerminateReason) (termination : Option FlowTermination)
  | localTerminated (flow : EstablishedFlow) (reason : FlowTerminateReason)
      (termination : FlowTermination)
  | reportOnlyTermination (flowId : FlowId) (key : DeliveryFlowKey)
      (reason : FlowTerminateReason) (termination : Option FlowTermination)

structure PendingFlowControlSend where
  frame : ControlFrame
  effect : FlowControlSendEffect

inductive FlowControlDriverProgress where
  | inboundOpen (request : InboundOpenRequest)
  | pendingSend (pending : PendingFlowControlSend)
  | outboundEstablished (flow : EstablishedFlow)
  | outboundRejected (flowId : FlowId) (key : DeliveryFlowKey) (reason : FlowRejectReason)
  | remoteTerminated (flow : EstablishedFlow) (reason : FlowTerminateReason)
      (termination : FlowTermination)

inductive EstablishedDataFailureDisposition where
  | terminateAndReport (flowId : FlowId) (reason : FlowTerminateReason)
  | reportOnly (flowId : FlowId) (key : DeliveryFlowKey) (reason : FlowTerminateReason)
      (termination : Option FlowTermination)
  | cleanupOnly (flowId : FlowId)
  | connectionTerminal (code : Option ApplicationErrorCode)

inductive EstablishedDataFailureProgress where
  | pendingSend (pending : PendingFlowControlSend)
  | cleanupOnly (flowId : FlowId)
  | connectionTerminal (code : Option ApplicationErrorCode)

namespace FlowControlProgress

/-- What the driver is to do with the progress of flow control. -/
def toDriver : FlowControlProgress → FlowControlDriverProgress
  | .inboundOpen request => .inboundOpen request
  | .inboundRejected flowId reason frame => .pendingSend ⟨frame, .inboundRejected flowId reason⟩
  | .outboundEstablished flow => .outboundEstablished flow
  | .outboundRejected flowId key reason => .outboundRejected flowId key reason
  | .outboundFailedAfterAccept flowId key reason termination frame =>
    .pendingSend ⟨frame, .outboundFailedAfterAccept flowId key reason termination⟩
  | .remoteTerminated flow reason termination => .remoteTerminated flow reason termination

end FlowControlProgress

namespace FlowDriver

def prepareOutboundOpen (currentDatagramSize : Option Nat) (fc : FlowControl) (alloc : Allocator)
    (endpoint : DeliveryEndpoint) (request : OutboundOpenRequest) :
    Checked (Except OutboundOpenError PendingFlowControlSend × FlowControl) := do
  let (r, fc) ← fc.prepareOutboundOpen alloc endpoint request currentDatagramSize
  return (r.map fun prepared => ⟨prepared.frame, .outboundOpenPrepared prepared.flow⟩, fc)

def processReceived (fc : FlowControl) (alloc : Allocator) (endpoint : DeliveryEndpoint)
    (frame : ControlFrame) :
    Checked (Except FlowControlError FlowControlDriverProgress × FlowControl × DeliveryEndpoint) := do
  let (r, fc, endpoint) ← fc.receive alloc endpoint frame
  return (r.map FlowControlProgress.toDriver, fc, endpoint)

def pendingInboundResolution : InboundResolution → PendingFlowControlSend
  | .accepted flow frame => ⟨frame, .inboundAccepted flow⟩
  | .rejected flowId reason frame => ⟨frame, .inboundRejected flowId reason⟩

def reliableStagingRejection (mode : DeliveryMode) (maxMessageBytes : Nat)
    (maxStagingBytes : NonZeroUsize) : Option FlowRejectReason :=
  if mode ≠ .reliableOrdered then none
  else if maxMessageBytes > min maxStagingBytes.get u64Max then some .resourceLimit
  else none

/-- What a decision sends, and the state after it. -/
abbrev Decided :=
  Except InboundAdmissionError PendingFlowControlSend × FlowControl × DeliveryEndpoint

def rejectInbound (fc : FlowControl) (alloc : Allocator) (endpoint : DeliveryEndpoint)
    (request : InboundOpenRequest) (reason : FlowRejectReason) : Checked Decided := do
  let (r, fc, endpoint) ← fc.rejectInbound alloc endpoint request reason
  return (r.map pendingInboundResolution, fc, endpoint)

def acceptInbound (fc : FlowControl) (alloc : Allocator) (endpoint : DeliveryEndpoint)
    (request : InboundOpenRequest) (admission : InboundAdmission)
    (reliableMaxStagingBytes : NonZeroUsize) : Checked Decided :=
  match reliableStagingRejection request.mode request.maxMessageBytes reliableMaxStagingBytes with
  | some reason => rejectInbound fc alloc endpoint request reason
  | none => do
    let (r, fc, endpoint) ← fc.acceptInbound alloc endpoint request admission
    return (r.map pendingInboundResolution, fc, endpoint)

/-- What the end of a flow sends, and the state after it. -/
abbrev Ended := Except FlowControlError PendingFlowControlSend × FlowControl × DeliveryEndpoint

def terminateLocal (fc : FlowControl) (alloc : Allocator) (endpoint : DeliveryEndpoint)
    (flowId : FlowId) (reason : FlowTerminateReason) : Checked Ended := do
  let (r, fc, endpoint) ← fc.terminateLocal alloc endpoint flowId reason
  return (r.map fun t => ⟨t.frame, .localTerminated t.flow t.reason t.termination⟩, fc, endpoint)

def pendingReportOnlyTermination (alloc : Allocator) (flowId : FlowId) (key : DeliveryFlowKey)
    (reason : FlowTerminateReason) (termination : Option FlowTermination) :
    Checked (Except FlowControlError PendingFlowControlSend) := do
  match ← terminateFrame alloc flowId reason with
  | none => return .error .allocation
  | some frame => return .ok ⟨frame, .reportOnlyTermination flowId key reason termination⟩

def prepareEstablishedDataFailure (fc : FlowControl) (alloc : Allocator)
    (endpoint : DeliveryEndpoint) (disposition : EstablishedDataFailureDisposition) :
    Checked (Except FlowControlError EstablishedDataFailureProgress × FlowControl ×
      DeliveryEndpoint) :=
  match disposition with
  | .terminateAndReport flowId reason => do
    let (r, fc, endpoint) ← terminateLocal fc alloc endpoint flowId reason
    return (r.map .pendingSend, fc, endpoint)
  | .reportOnly flowId key reason termination =>
    if (fc.registry.registeredFlow flowId).isSome then do
      Checked.assert termination.isNone
      let (r, fc, endpoint) ← terminateLocal fc alloc endpoint flowId reason
      return (r.map .pendingSend, fc, endpoint)
    else do
      let r ← pendingReportOnlyTermination alloc flowId key reason termination
      return (r.map .pendingSend, fc, endpoint)
  | .cleanupOnly flowId => .ok (.ok (.cleanupOnly flowId), fc, endpoint)
  | .connectionTerminal code => .ok (.ok (.connectionTerminal code), fc, endpoint)

/-! ### Classifying failures -/

def reliableSendFailureReason : SendError → FlowTerminateReason
  | .registry _ | .framing _ | .unexpectedAcceptedIndex _ _ | .acceptedIndexExhausted =>
    .protocolFailure
  | .core _ | .custody _ | .invalidWriteCount | .writeZero | .io _ | .pendingData
  | .alreadyFinishing | .terminal => .reliableDeliveryFailure

def reliableFinishFailureReason : SendError → Option FlowTerminateReason
  | .pendingData | .alreadyFinishing | .terminal | .core .unknownFlow => none
  | error => some (reliableSendFailureReason error)

def reliableReceiveFailureReason : ReceiveError → FlowTerminateReason
  | .framing (.stagingLimitExceeded _ _) | .framing .allocationFailed | .allocationFailed
  | .adapterStagingBelowFlowMaximum _ _ => .resourceFailure
  | .io _ | .unexpectedCoreOutcome .terminalReliableFailure => .reliableDeliveryFailure
  | .registry _ | .flowPrefix _ | .framing _ | .core _ | .zeroRtt | .truncatedAssociation
  | .acceptedIndexExhausted | .unexpectedCoreOutcome _ | .terminal => .protocolFailure

def knownFlowDisposition (fc : FlowControl) (flowId : FlowId) (reason : FlowTerminateReason) :
    EstablishedDataFailureDisposition :=
  if (fc.registry.registeredFlow flowId).isSome then .terminateAndReport flowId reason
  else .cleanupOnly flowId

def classifyReliableActiveContext (fc : FlowControl) (context : ReliableFailureContext)
    (reason : FlowTerminateReason) : EstablishedDataFailureDisposition :=
  match context with
  | .unresolved => .connectionTerminal none
  | .resolvedDetached flowId _ => .cleanupOnly flowId
  | .resolvedReportable flowId key termination =>
    if (fc.registry.registeredFlow flowId).isSome then .terminateAndReport flowId reason
    else .reportOnly flowId key reason termination

def classifyUnresolvedReliableReceive (error : ReceiveError) : EstablishedDataFailureDisposition :=
  .connectionTerminal <| match error with
    | .registry _ | .flowPrefix _ | .zeroRtt | .truncatedAssociation => some .profileProtocolError
    | .allocationFailed => some .resourceLimitError
    | .framing _ | .core _ | .io _ | .adapterStagingBelowFlowMaximum _ _
    | .acceptedIndexExhausted | .unexpectedCoreOutcome _ | .terminal => none

def classifyOutboundReliableActiveFailure (fc : FlowControl) (context : ReliableFailureContext)
    (error : SendError) : EstablishedDataFailureDisposition :=
  classifyReliableActiveContext fc context (reliableSendFailureReason error)

def classifyInboundReliableActiveFailure (fc : FlowControl) (context : ReliableFailureContext)
    (error : ReceiveError) : EstablishedDataFailureDisposition :=
  match context with
  | .unresolved => classifyUnresolvedReliableReceive error
  | context => classifyReliableActiveContext fc context (reliableReceiveFailureReason error)

def classifyInboundReliableConstructionFailure (error : ReceiveError) :
    EstablishedDataFailureDisposition :=
  .connectionTerminal <| match error with
    | .zeroRtt => some .profileProtocolError
    | .allocationFailed => some .resourceLimitError
    | _ => none

def classifyOutboundReliableAcquisitionFailure (fc : FlowControl) (flowId : FlowId)
    (error : SendError) : EstablishedDataFailureDisposition :=
  knownFlowDisposition fc flowId (reliableSendFailureReason error)

def classifyOutboundReliableFinishFailure (fc : FlowControl) (flowId : FlowId)
    (error : SendError) : Option EstablishedDataFailureDisposition :=
  (reliableFinishFailureReason error).map (knownFlowDisposition fc flowId)

def classifyKnownFlowResourceFailure (fc : FlowControl) (flowId : FlowId) :
    EstablishedDataFailureDisposition :=
  knownFlowDisposition fc flowId .resourceFailure

def classifyDatagramSequenceExhaustion (fc : FlowControl) (flowId : FlowId) :
    EstablishedDataFailureDisposition :=
  match (fc.registry.registeredFlow flowId).map RegisteredFlow.mode with
  | none => .cleanupOnly flowId
  | some .unreliableSequenced => .terminateAndReport flowId .normal
  | some .reliableOrdered | some .unreliableUnordered =>
    .terminateAndReport flowId .protocolFailure

def classifyDatagramSubmissionError (fc : FlowControl) (flowId : FlowId) :
    DatagramSubmitError → Option EstablishedDataFailureDisposition
  | .envelope .sequenceExhausted => some (classifyDatagramSequenceExhaustion fc flowId)
  | .unknownFlowId | .wrongDirection | .reliableFlow | .core _ | .envelope _
  | .acceptedIndexMismatch _ _ => none

def classifyDatagramSendFailure (fc : FlowControl) (flowId : FlowId) :
    DatagramSendError → EstablishedDataFailureDisposition
  | .profileUnavailable | .connectionLost => .connectionTerminal none
  | .allocationFailed => knownFlowDisposition fc flowId .resourceFailure
  | .sequenceExhausted => classifyDatagramSequenceExhaustion fc flowId
  | .unknownFlowId | .wrongDirection | .reliableFlow | .core _ | .custody _ | .wire _
  | .lengthOverflow | .modeMismatch | .payloadExceedsProfile =>
    knownFlowDisposition fc flowId .protocolFailure

def unresolvedDatagramReceiveCloseCode : DatagramReceiveError → Option ApplicationErrorCode
  | .varInt _ | .flowId _ => some .profileProtocolError
  | .allocationFailed => some .resourceLimitError
  | .wrongDirection | .reliableFlow | .payloadExceedsProfile | .core _ => none

def datagramReceiveFailureReason : DatagramReceiveError → FlowTerminateReason
  | .allocationFailed => .resourceFailure
  | .varInt _ | .flowId _ | .wrongDirection | .reliableFlow | .payloadExceedsProfile | .core _ =>
    .protocolFailure

def classifyDatagramReceiveFailure (fc : FlowControl) (failure : DatagramReceiveFailure) :
    EstablishedDataFailureDisposition :=
  match failure.flowId with
  | none => .connectionTerminal (unresolvedDatagramReceiveCloseCode failure.error)
  | some flowId => knownFlowDisposition fc flowId (datagramReceiveFailureReason failure.error)

end FlowDriver

end RunenNet
