import RunenNet.Quic.ReliableBinding
import RunenNet.Quic.FlowControl

/-!
# The reliable streams of a connection

Streams that are being opened or accepted and the bindings that are active. A poll goes round from
a cursor and returns at the first binding that progressed or failed.
-/

namespace RunenNet

open Foundation

inductive ReliableIoStateError where
  | notReliable
  | wrongDirection
  | registryMismatch
  | duplicateOutboundFlow
  | capacityOverflow
  | inboundAcceptTerminated
  | outboundAcquisitionPending
  | unknownOutboundFlow
  deriving DecidableEq, Repr

inductive ReliableFailureContext where
  | unresolved
  | resolvedReportable (flowId : FlowId) (key : DeliveryFlowKey)
      (termination : Option FlowTermination)
  | resolvedDetached (flowId : FlowId) (key : DeliveryFlowKey)
  deriving Repr

inductive ReliableIoError where
  | state (e : ReliableIoStateError)
  | allocation
  | connection
  | outboundFinish (flowId : FlowId) (error : SendError)
  | outboundAcquisitionBinding (flowId : FlowId) (error : SendError)
  | outboundActiveBinding (context : ReliableFailureContext) (error : SendError)
  | inboundConstruction (error : ReceiveError)
  | inboundActiveBinding (context : ReliableFailureContext) (error : ReceiveError)
  deriving Repr

inductive OutboundAcquisitionProgress where
  | bound (flowId : FlowId)
  | cancelled (flowId : FlowId)
  deriving Repr

inductive ActiveReliableProgress where
  | outbound (flowId : FlowId) (progress : SendProgress)
  | inbound (progress : ReceiveProgress)
  deriving Repr

structure ActiveOutbound where
  flowId : FlowId
  binding : OutboundReliable

/-- `accepting` while an incoming stream is awaited. -/
structure ReliableConnectionIo where
  maxStagingBytes : NonZeroUsize
  accepting : Bool
  pendingOutbound : List FlowId
  activeOutbound : List ActiveOutbound
  activeInbound : List InboundReliable
  outboundOpenCursor : Nat
  outboundCursor : Nat
  inboundCursor : Nat

/-- What the transport and the allocator answer a poll, by the index of a stream. An accepted
stream says whether it is of 0-RTT. -/
structure ReliableTransport where
  openUni : Nat → Polled (Except Unit Unit)
  acceptUni : Polled (Except Unit Bool)
  send : Nat → SendStream
  recv : Nat → RecvStream
  reservesInbound : Bool
  reservesScratch : Bool

/-- `swap_remove`: the last element takes the place of the removed one. -/
def swapRemove {α : Type} (xs : List α) (index : Nat) : List α :=
  match xs.getLast? with
  | none => xs
  | some last => (xs.set index last).dropLast

def cursorAfterRemove (index newLen : Nat) : Nat := if newLen = 0 then 0 else index % newLen

/-- The indices a poll visits. -/
def rotation (start len : Nat) : List Nat :=
  (List.range len).map fun offset => (start + offset) % len

def resolvedFailureContext (flowId : FlowId) (key : DeliveryFlowKey) (registeredBefore : Bool)
    (termination : Option FlowTermination) : ReliableFailureContext :=
  if registeredBefore ∨ termination.isSome then .resolvedReportable flowId key termination
  else .resolvedDetached flowId key

def inboundFailureContext (beforeFlowId : Option FlowId) (beforeKey : Option DeliveryFlowKey)
    (beforeRegistered : Bool) (afterFlowId : Option FlowId) (afterKey : Option DeliveryFlowKey)
    (termination : Option FlowTermination) : ReliableFailureContext :=
  match beforeFlowId, beforeKey with
  | some flowId, some key => resolvedFailureContext flowId key beforeRegistered termination
  | none, none => match afterFlowId, afterKey with
    | some flowId, some key => .resolvedReportable flowId key termination
    | _, _ => .unresolved
  | _, _ => .unresolved

def registeredOutboundIsLive (fc : FlowControl) (flowId : FlowId) : Bool :=
  (fc.registry.registeredFlow flowId).any fun flow =>
    flow.mode = .reliableOrdered && flow.key.direction = .outbound

namespace ReliableConnectionIo

def new (maxStagingBytes : NonZeroUsize) : ReliableConnectionIo :=
  ⟨maxStagingBytes, true, [], [], [], 0, 0, 0⟩

def flowIds (io : ReliableConnectionIo) : List FlowId :=
  io.pendingOutbound ++ io.activeOutbound.map ActiveOutbound.flowId

def outboundFlowId (io : ReliableConnectionIo) (fc : FlowControl) (key : DeliveryFlowKey) :
    Option FlowId :=
  io.flowIds.find? fun flowId => (fc.registry.registeredFlow flowId).any fun registered =>
    registered.key = key && registered.mode = .reliableOrdered &&
      registered.key.direction = .outbound

def requestOutboundFinishNormal (io : ReliableConnectionIo) (finished : Except IoFailure Unit)
    (endpoint : DeliveryEndpoint) (flowId : FlowId) :
    Checked (Except ReliableIoError Unit × ReliableConnectionIo) :=
  if io.pendingOutbound.contains flowId then .ok (.error (.state .outboundAcquisitionPending), io)
  else match io.activeOutbound.findIdx? fun active => active.flowId = flowId with
    | none => .ok (.error (.state .unknownOutboundFlow), io)
    | some index => do
      let active ← Checked.expect "position of an active binding" io.activeOutbound[index]?
      let (r, binding) ← active.binding.requestFinishNormal finished endpoint
      return (r.mapError (.outboundFinish flowId), { io with
        activeOutbound := io.activeOutbound.set index { active with binding := binding } })

/-- `reservesActive` and `reservesPending` are the allocator's answers. -/
def scheduleOutbound (io : ReliableConnectionIo) (reservesActive reservesPending : Bool)
    (fc : FlowControl) (flow : EstablishedFlow) :
    Checked (Except ReliableIoError Unit × ReliableConnectionIo) :=
  if flow.mode ≠ .reliableOrdered then .ok (.error (.state .notReliable), io)
  else if flow.key.direction ≠ .outbound then .ok (.error (.state .wrongDirection), io)
  else match fc.registry.registeredFlow flow.flowId with
    | none => .ok (.error (.state .registryMismatch), io)
    | some registered =>
      if registered.key ≠ flow.key ∨ registered.mode ≠ flow.mode ∨
          registered.maxMessageBytes ≠ flow.maxMessageBytes then
        .ok (.error (.state .registryMismatch), io)
      else if io.flowIds.contains flow.flowId then .ok (.error (.state .duplicateOutboundFlow), io)
      else match (checkedAdd usizeMax io.activeOutbound.length io.pendingOutbound.length).bind
          (checkedAdd usizeMax · 1) with
        | none => .ok (.error (.state .capacityOverflow), io)
        | some _ =>
          if ¬ reservesActive then .ok (.error .allocation, io)
          else if ¬ reservesPending then .ok (.error .allocation, io)
          else do
            let io := { io with pendingOutbound := io.pendingOutbound ++ [flow.flowId] }
            Checked.assert (io.outboundFlowId fc flow.key = some flow.flowId)
            return (.ok (), io)

/-! ### Acquiring streams -/

def removePendingOutbound (io : ReliableConnectionIo) (index : Nat) : ReliableConnectionIo :=
  let pendingOutbound := swapRemove io.pendingOutbound index
  { io with
    pendingOutbound := pendingOutbound
    outboundOpenCursor := cursorAfterRemove index pendingOutbound.length }

/-- What a poll answers, and the state after it. -/
abbrev PolledIo (α : Type) :=
  Polled (Except ReliableIoError α) × ReliableConnectionIo × DeliveryEndpoint × FlowControl

/-- The loop of `poll_outbound_acquisition` over the indices that are left. -/
def pollOutboundAcquisitionFrom (t : ReliableTransport) (next : Nat) : List Nat →
    ReliableConnectionIo → DeliveryEndpoint → FlowControl →
    Checked (PolledIo OutboundAcquisitionProgress)
  | [], io, endpoint, fc => .ok (none, { io with outboundOpenCursor := next }, endpoint, fc)
  | index :: rest, io, endpoint, fc => do
    let flowId ← Checked.expect "index is bounded" io.pendingOutbound[index]?
    if ¬ registeredOutboundIsLive fc flowId then
      return (some (.ok (.cancelled flowId)), io.removePendingOutbound index, endpoint, fc)
    else match t.openUni index with
      | none => pollOutboundAcquisitionFrom t next rest io endpoint fc
      | some (.error ()) =>
        return (some (.error .connection), io.removePendingOutbound index, endpoint, fc)
      | some (.ok ()) =>
        let io := io.removePendingOutbound index
        match OutboundReliable.bind fc.registry flowId with
        | (.error e, registry) => return (some (.error (.outboundAcquisitionBinding flowId e)),
            io, endpoint, { fc with registry := registry })
        | (.ok binding, registry) => return (some (.ok (.bound flowId)),
            { io with activeOutbound := io.activeOutbound ++ [⟨flowId, binding⟩] },
            endpoint, { fc with registry := registry })

def pollOutboundAcquisition (io : ReliableConnectionIo) (t : ReliableTransport)
    (endpoint : DeliveryEndpoint) (fc : FlowControl) :
    Checked (PolledIo OutboundAcquisitionProgress) :=
  let len := io.pendingOutbound.length
  if len = 0 then .ok (none, io, endpoint, fc)
  else
    let start := io.outboundOpenCursor % len
    pollOutboundAcquisitionFrom t ((start + 1) % len) (rotation start len) io endpoint fc

def pollInboundAcquisition (io : ReliableConnectionIo) (t : ReliableTransport) :
    Polled (Except ReliableIoError Unit) × ReliableConnectionIo :=
  if ¬ t.reservesInbound then (some (.error .allocation), io)
  else if ¬ io.accepting then (some (.error (.state .inboundAcceptTerminated)), io)
  else match t.acceptUni with
    | none => (none, io)
    | some (.error ()) => (some (.error .connection), { io with accepting := false })
    | some (.ok zeroRtt) =>
      match InboundReliable.new zeroRtt t.reservesScratch io.maxStagingBytes with
      | .error e => (some (.error (.inboundConstruction e)), io)
      | .ok binding =>
        (some (.ok ()), { io with activeInbound := io.activeInbound ++ [binding] })

/-! ### Active bindings -/

def removeActiveOutbound (io : ReliableConnectionIo) (index : Nat) : ReliableConnectionIo :=
  let activeOutbound := swapRemove io.activeOutbound index
  { io with
    activeOutbound := activeOutbound
    outboundCursor := cursorAfterRemove index activeOutbound.length }

def removeActiveInbound (io : ReliableConnectionIo) (index : Nat) : ReliableConnectionIo :=
  let activeInbound := swapRemove io.activeInbound index
  { io with
    activeInbound := activeInbound
    inboundCursor := cursorAfterRemove index activeInbound.length }

/-- The loop of `poll_outbound_binding` over the indices that are left, of `len`. -/
def pollOutboundBindingFrom (t : ReliableTransport) (len next : Nat) : List Nat →
    ReliableConnectionIo → DeliveryEndpoint → FlowControl →
    Checked (PolledIo ActiveReliableProgress)
  | [], io, endpoint, fc => .ok (none, { io with outboundCursor := next }, endpoint, fc)
  | index :: rest, io, endpoint, fc => do
    let ⟨flowId, before⟩ ← Checked.expect "index is bounded" io.activeOutbound[index]?
    let registeredBefore := (fc.registry.registeredFlow flowId).isSome
    let (r, binding, endpoint, registry) ← before.pollStep (t.send index) endpoint fc.registry
    let fc := { fc with registry := registry }
    let io := { io with activeOutbound := io.activeOutbound.set index ⟨flowId, binding⟩ }
    match r with
    | none | some (.ok .idle) => pollOutboundBindingFrom t len next rest io endpoint fc
    | some (.ok (.closed termination)) =>
      return (some (.ok (.outbound flowId (.closed termination))), io.removeActiveOutbound index,
        endpoint, fc)
    | some (.ok progress) => return (some (.ok (.outbound flowId progress)),
        { io with outboundCursor := (index + 1) % len }, endpoint, fc)
    | some (.error error) =>
      let context := resolvedFailureContext flowId before.key registeredBefore
        binding.failureTermination
      return (some (.error (.outboundActiveBinding context error)), io.removeActiveOutbound index,
        endpoint, fc)

def pollOutboundBinding (io : ReliableConnectionIo) (t : ReliableTransport)
    (endpoint : DeliveryEndpoint) (fc : FlowControl) :
    Checked (PolledIo ActiveReliableProgress) :=
  let len := io.activeOutbound.length
  if len = 0 then .ok (none, io, endpoint, fc)
  else
    let start := io.outboundCursor % len
    pollOutboundBindingFrom t len ((start + 1) % len) (rotation start len) io endpoint fc

/-- The loop of `poll_inbound_binding` over the indices that are left, of `len`. -/
def pollInboundBindingFrom (t : ReliableTransport) (len next : Nat) : List Nat →
    ReliableConnectionIo → DeliveryEndpoint → FlowControl →
    Checked (PolledIo ActiveReliableProgress)
  | [], io, endpoint, fc => .ok (none, { io with inboundCursor := next }, endpoint, fc)
  | index :: rest, io, endpoint, fc => do
    let before ← Checked.expect "index is bounded" io.activeInbound[index]?
    let beforeRegistered := before.flowId.any fun flowId =>
      (fc.registry.registeredFlow flowId).isSome
    let (r, binding, endpoint, registry) ← before.pollStep (t.recv index) endpoint fc.registry
    let fc := { fc with registry := registry }
    let io := { io with activeInbound := io.activeInbound.set index binding }
    match r with
    | none | some (.ok (.draining _)) => pollInboundBindingFrom t len next rest io endpoint fc
    | some (.ok (.closed key termination)) =>
      return (some (.ok (.inbound (.closed key termination))), io.removeActiveInbound index,
        endpoint, fc)
    | some (.ok progress) => return (some (.ok (.inbound progress)),
        { io with inboundCursor := (index + 1) % len }, endpoint, fc)
    | some (.error error) =>
      let context := inboundFailureContext before.flowId before.resolvedFlowKey beforeRegistered
        binding.flowId binding.resolvedFlowKey binding.failureTermination
      return (some (.error (.inboundActiveBinding context error)), io.removeActiveInbound index,
        endpoint, fc)

def pollInboundBinding (io : ReliableConnectionIo) (t : ReliableTransport)
    (endpoint : DeliveryEndpoint) (fc : FlowControl) :
    Checked (PolledIo ActiveReliableProgress) :=
  let len := io.activeInbound.length
  if len = 0 then .ok (none, io, endpoint, fc)
  else
    let start := io.inboundCursor % len
    pollInboundBindingFrom t len ((start + 1) % len) (rotation start len) io endpoint fc

end ReliableConnectionIo

end RunenNet
