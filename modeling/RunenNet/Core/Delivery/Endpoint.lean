import RunenNet.Core.Delivery.Model
import Mathlib.Algebra.Group.Defs

/-!
# The delivery endpoint

Flows with their buffers, and the usage of the four nested scopes they are accounted in. Every
`expect`, assertion, unreachable branch and unchecked operation of the source is a `Checked`
step, so an accounting slip shows as a panic.
-/

namespace RunenNet

open Foundation

/-! ### Scope usage -/

@[ext] structure ScopeUsage where
  activeFlows : Nat
  pendingMessages : Nat
  pendingPayloadBytes : Nat
  deriving DecidableEq, Repr

namespace ScopeUsage

def default : ScopeUsage := ⟨0, 0, 0⟩

def canAdd (u : ScopeUsage) (limits : DeliveryScopeLimits) (flows messages bytes : Nat) : Bool :=
  (checkedAdd usizeMax u.activeFlows flows).any (· ≤ limits.maxActiveFlows.get) &&
    (checkedAdd usizeMax u.pendingMessages messages).any (· ≤ limits.maxPendingMessages.get) &&
    (checkedAdd usizeMax u.pendingPayloadBytes bytes).any (· ≤ limits.maxPendingPayloadBytes.get)

def add (u : ScopeUsage) (flows messages bytes : Nat) : Checked ScopeUsage := do
  let validated := "usage addition validated before mutation"
  let activeFlows ← Checked.expect validated (checkedAdd usizeMax u.activeFlows flows)
  let pendingMessages ← Checked.expect validated (checkedAdd usizeMax u.pendingMessages messages)
  let pendingPayloadBytes ←
    Checked.expect validated (checkedAdd usizeMax u.pendingPayloadBytes bytes)
  return ⟨activeFlows, pendingMessages, pendingPayloadBytes⟩

def remove (u : ScopeUsage) (flows messages bytes : Nat) : Checked ScopeUsage := do
  let activeFlows ← Checked.sub u.activeFlows flows
  let pendingMessages ← Checked.sub u.pendingMessages messages
  let pendingPayloadBytes ← Checked.sub u.pendingPayloadBytes bytes
  return ⟨activeFlows, pendingMessages, pendingPayloadBytes⟩

end ScopeUsage

structure ScopeState where
  limits : DeliveryScopeLimits
  usage : ScopeUsage
  deriving DecidableEq, Repr

def ScopeState.new (limits : DeliveryScopeLimits) : ScopeState := ⟨limits, .default⟩

/-- The scopes of one kind, by their identity. -/
abbrev Scopes (d : Domain) := SortedMap (Ident d) ScopeState

namespace Scopes

variable {d : Domain}

/-- The entry's usage after `f`; `missing` is the panic message when there is no entry. -/
def update (m : Scopes d) (s : Ident d) (missing : String)
    (f : ScopeUsage → Checked ScopeUsage) : Checked (Scopes d) := do
  let state ← Checked.expect missing (m.get? s)
  let usage ← f state.usage
  return m.insert s { state with usage := usage }

/-- The entry, or a new one under `limits`, charged for one more flow. -/
def enter (m : Scopes d) (s : Ident d) (limits : DeliveryScopeLimits) (messages bytes : Nat) :
    Checked (Scopes d) := do
  let state := (m.get? s).getD (.new limits)
  let usage ← state.usage.add 1 messages bytes
  return m.insert s { state with usage := usage }

/-- Releases one flow; an entry without active flows is removed. -/
def leave (m : Scopes d) (s : Ident d) (missing : String) (messages bytes : Nat) :
    Checked (Scopes d) := do
  let state ← Checked.expect missing (m.get? s)
  let usage ← state.usage.remove 1 messages bytes
  let m := m.insert s { state with usage := usage }
  if usage.activeFlows = 0 then do
    Checked.assert (m.contains s)
    return m.erase s
  else return m

end Scopes

/-! ### Flows -/

inductive ReceiverBuffer where
  | reliable (byIndex : SortedMap Nat DeliveryTransfer) (nextExposure : Option Nat)
  | unreliable (queue : List DeliveryTransfer) (lastExposedSequence : Option Nat)

def ReceiverBuffer.new : DeliveryMode → ReceiverBuffer
  | .reliableOrdered => .reliable .empty (some 0)
  | .unreliableUnordered | .unreliableSequenced => .unreliable [] none

/-- The message of the branches that find a receiver of the wrong mode. -/
def mismatchedBuffer : String := "mode and buffer are constructed together"

/-- The index is not newer than the last one exposed. -/
def ReceiverBuffer.stale (index : Nat) : ReceiverBuffer → Checked Bool
  | .reliable _ _ => Checked.unreachable mismatchedBuffer
  | .unreliable _ last => .ok (last.any (index ≤ ·))

/-- Only a sequenced flow looks for stale transfers. -/
def ReceiverBuffer.staleFor (sequenced : Bool) (index : Nat) (r : ReceiverBuffer) : Checked Bool :=
  if sequenced then r.stale index else .ok false

/-- `index` becomes the last one exposed. -/
def ReceiverBuffer.expose (index : Nat) : ReceiverBuffer → Checked ReceiverBuffer
  | .reliable _ _ => Checked.unreachable mismatchedBuffer
  | .unreliable queue _ => .ok (.unreliable queue (some index))

structure FlowState where
  mode : DeliveryMode
  policy : FlowResourcePolicy
  nextAcceptedIndex : Option Nat
  outbound : List DeliveryTransfer
  receiver : ReceiverBuffer
  pendingMessages : Nat
  pendingPayloadBytes : Nat
  session : Option SessionId

namespace FlowState

def new (mode : DeliveryMode) (policy : FlowResourcePolicy) : FlowState where
  mode := mode
  policy := policy
  nextAcceptedIndex := some 0
  outbound := []
  receiver := .new mode
  pendingMessages := 0
  pendingPayloadBytes := 0
  session := none

def canAddPending (f : FlowState) (messages bytes : Nat) : Bool :=
  (checkedAdd usizeMax f.pendingMessages messages).any (· ≤ f.policy.maxPendingMessages.get) &&
    (checkedAdd usizeMax f.pendingPayloadBytes bytes).any
      (· ≤ f.policy.maxPendingPayloadBytes.get)

end FlowState

structure DeliveryEndpoint where
  aggregate : ScopeState
  connections : Scopes .connectionHandle
  sessions : Scopes .session
  flows : SortedMap DeliveryFlowKey FlowState
  diagnostics : DeliveryDiagnostics

/-- What most operations return: their result and the endpoint after it. -/
abbrev OpResult (α : Type) := Except DeliveryOperationError α × DeliveryEndpoint

namespace DeliveryEndpoint

def new (aggregateLimits : DeliveryScopeLimits) : DeliveryEndpoint where
  aggregate := .new aggregateLimits
  connections := .empty
  sessions := .empty
  flows := .empty
  diagnostics := .default

def flowContract (e : DeliveryEndpoint) (key : DeliveryFlowKey) :
    Option (DeliveryMode × FlowResourcePolicy) :=
  (e.flows.get? key).map fun f => (f.mode, f.policy)

def flowPendingUsage (e : DeliveryEndpoint) (key : DeliveryFlowKey) : Option (Nat × Nat) :=
  (e.flows.get? key).map fun f => (f.pendingMessages, f.pendingPayloadBytes)

/-- The endpoint with one flow replaced. -/
def setFlow (e : DeliveryEndpoint) (key : DeliveryFlowKey) (f : FlowState) : DeliveryEndpoint :=
  { e with flows := e.flows.insert key f }

def nextOutboundAcceptedIndex (e : DeliveryEndpoint) (key : DeliveryFlowKey) :
    Except DeliveryOperationError (Option Nat) :=
  match e.flows.get? key with
  | none => .error .unknownFlow
  | some flow =>
    if key.direction ≠ .outbound then .error .wrongDirection else .ok flow.nextAcceptedIndex

/-! ### Pending usage -/

def missingConnection : String := "active flow has connection accounting"

def missingSession : String := "associated flow has session accounting"

def canAddPending (e : DeliveryEndpoint) (key : DeliveryFlowKey) (messages bytes : Nat) :
    Checked (Except DeliveryOperationError Bool) :=
  match e.flows.get? key with
  | none => .ok (.error .unknownFlow)
  | some flow =>
    if ¬ flow.canAddPending messages bytes then .ok (.ok false)
    else do
      let connection ← Checked.expect missingConnection (e.connections.get? key.connection)
      if ¬ connection.usage.canAdd connection.limits 0 messages bytes then return .ok false
      else if ¬ e.aggregate.usage.canAdd e.aggregate.limits 0 messages bytes then return .ok false
      else match flow.session with
        | none => return .ok true
        | some sessionId => do
          let session ← Checked.expect missingSession (e.sessions.get? sessionId)
          return .ok (session.usage.canAdd session.limits 0 messages bytes)

/-- The sessions after `f` on the usage of a flow's session, if it has one. -/
def updateSession (e : DeliveryEndpoint) (session : Option SessionId)
    (f : ScopeUsage → Checked ScopeUsage) : Checked (Scopes .session) :=
  match session with
  | none => .ok e.sessions
  | some sessionId => e.sessions.update sessionId missingSession f

def addPending (e : DeliveryEndpoint) (key : DeliveryFlowKey) (messages bytes : Nat) :
    Checked DeliveryEndpoint := do
  let flow ← Checked.expect "flow exists while adding pending usage" (e.flows.get? key)
  let pendingMessages ← Checked.add flow.pendingMessages messages
  let pendingPayloadBytes ← Checked.add flow.pendingPayloadBytes bytes
  let connections ←
    e.connections.update key.connection missingConnection (·.add 0 messages bytes)
  let usage ← e.aggregate.usage.add 0 messages bytes
  let sessions ← e.updateSession flow.session (·.add 0 messages bytes)
  return { e with
    aggregate := { e.aggregate with usage := usage }
    connections := connections
    sessions := sessions
    flows := e.flows.insert key { flow with
      pendingMessages := pendingMessages, pendingPayloadBytes := pendingPayloadBytes } }

def removePending (e : DeliveryEndpoint) (key : DeliveryFlowKey) (messages bytes : Nat) :
    Checked DeliveryEndpoint := do
  let flow ← Checked.expect "flow exists while removing pending usage" (e.flows.get? key)
  let pendingMessages ← Checked.sub flow.pendingMessages messages
  let pendingPayloadBytes ← Checked.sub flow.pendingPayloadBytes bytes
  let connections ←
    e.connections.update key.connection missingConnection (·.remove 0 messages bytes)
  let usage ← e.aggregate.usage.remove 0 messages bytes
  let sessions ← e.updateSession flow.session (·.remove 0 messages bytes)
  return { e with
    aggregate := { e.aggregate with usage := usage }
    connections := connections
    sessions := sessions
    flows := e.flows.insert key { flow with
      pendingMessages := pendingMessages, pendingPayloadBytes := pendingPayloadBytes } }

/-! ### Establishing and associating -/

def checkConnection (e : DeliveryEndpoint) (connection : ConnectionHandle)
    (connectionLimits : DeliveryScopeLimits) : Except FlowEstablishmentError Unit :=
  match e.connections.get? connection with
  | some state =>
    if state.limits ≠ connectionLimits then .error .connectionLimitsMismatch
    else if ¬ state.usage.canAdd state.limits 1 0 0 then
      .error (.activeFlowLimitExceeded .connection)
    else .ok ()
  | none =>
    if ¬ ScopeUsage.default.canAdd connectionLimits 1 0 0 then
      .error (.activeFlowLimitExceeded .connection)
    else .ok ()

def establishFlow (e : DeliveryEndpoint) (key : DeliveryFlowKey) (mode : DeliveryMode)
    (policy : FlowResourcePolicy) (connectionLimits : DeliveryScopeLimits) :
    Checked (Except FlowEstablishmentError Unit × DeliveryEndpoint) :=
  match policy.validateForMode mode with
  | .error err => .ok (.error (.invalidPolicy err), e)
  | .ok () =>
    if e.flows.contains key then .ok (.error .flowAlreadyExists, e)
    else if ¬ e.aggregate.usage.canAdd e.aggregate.limits 1 0 0 then
      .ok (.error (.activeFlowLimitExceeded .aggregate), e)
    else match e.checkConnection key.connection connectionLimits with
      | .error err => .ok (.error err, e)
      | .ok () => do
        let usage ← e.aggregate.usage.add 1 0 0
        let connections ← e.connections.enter key.connection connectionLimits 0 0
        return (.ok (), { e with
          aggregate := { e.aggregate with usage := usage }
          connections := connections
          flows := e.flows.insert key (.new mode policy) })

def checkSession (e : DeliveryEndpoint) (sessionId : SessionId)
    (sessionLimits : DeliveryScopeLimits) (messages bytes : Nat) :
    Except SessionAssociationError Unit :=
  match e.sessions.get? sessionId with
  | some state =>
    if state.limits ≠ sessionLimits then .error .sessionLimitsMismatch
    else if ¬ state.usage.canAdd sessionLimits 1 messages bytes then .error .resourceLimitExceeded
    else .ok ()
  | none =>
    if ¬ ScopeUsage.default.canAdd sessionLimits 1 messages bytes then
      .error .resourceLimitExceeded
    else .ok ()

def associateFlowWithSession (e : DeliveryEndpoint) (key : DeliveryFlowKey) (session : Session)
    (sessionLimits : DeliveryScopeLimits) :
    Checked (Except SessionAssociationError SessionAssociationOutcome × DeliveryEndpoint) :=
  if session.phase ≠ .open then .ok (.error .sessionClosed, e)
  else match e.flows.get? key with
    | none => .ok (.error .unknownFlow, e)
    | some flow => match flow.session with
      | some current =>
        if current ≠ session.id then .ok (.error .alreadyAssociatedWithDifferentSession, e)
        else do
          let state ← Checked.expect missingSession (e.sessions.get? current)
          if state.limits = sessionLimits then return (.ok .alreadyAssociated, e)
          else return (.error .sessionLimitsMismatch, e)
      | none =>
        let messages := flow.pendingMessages
        let bytes := flow.pendingPayloadBytes
        match e.checkSession session.id sessionLimits messages bytes with
        | .error err => .ok (.error err, e)
        | .ok () => do
          let sessions ← e.sessions.enter session.id sessionLimits messages bytes
          return (.ok .associated, { e with
            sessions := sessions
            flows := e.flows.insert key { flow with session := some session.id } })

/-! ### Terminating -/

/-- The sessions after a flow left its session, if it has one. -/
def leaveSession (e : DeliveryEndpoint) (session : Option SessionId) (messages bytes : Nat) :
    Checked (Scopes .session) :=
  match session with
  | none => .ok e.sessions
  | some sessionId => e.sessions.leave sessionId missingSession messages bytes

def terminateFlow (e : DeliveryEndpoint) (key : DeliveryFlowKey) (reason : FlowTerminationReason) :
    Checked (OpResult FlowTermination) :=
  match e.flows.get? key with
  | none => .ok (.error .unknownFlow, e)
  | some flow => do
    let messages := flow.pendingMessages
    let bytes := flow.pendingPayloadBytes
    let failed := flow.mode = .reliableOrdered ∧ (messages > 0 ∨ reason.forcesReliableFailure)
    let usage ← e.aggregate.usage.remove 1 messages bytes
    let connections ← e.connections.leave key.connection missingConnection messages bytes
    let sessions ← e.leaveSession flow.session messages bytes
    return (.ok ⟨key, reason, messages, failed⟩, { e with
      aggregate := { e.aggregate with usage := usage }
      connections := connections
      sessions := sessions
      flows := e.flows.erase key })

/-- A termination whose report is dropped. -/
def dropFlow (e : DeliveryEndpoint) (key : DeliveryFlowKey) (reason : FlowTerminationReason) :
    Checked DeliveryEndpoint := do
  let (_, e) ← e.terminateFlow key reason
  return e

def failReliableCustody (e : DeliveryEndpoint) (key : DeliveryFlowKey) :
    Checked (OpResult FlowTermination) :=
  match e.flows.get? key with
  | none => .ok (.error .unknownFlow, e)
  | some flow =>
    if flow.mode ≠ .reliableOrdered then .ok (.error .notReliable, e)
    else e.terminateFlow key .reliableCustodyLost

/-- The loop of `terminate_connection` over its keys, outbound first. -/
def terminateKeys : List DeliveryFlowKey → DeliveryEndpoint →
    Checked (List FlowTermination × DeliveryEndpoint)
  | [], e => .ok ([], e)
  | key :: keys, e => do
    let (r, e) ← e.terminateFlow key .connectionEnded
    let (rest, e) ← terminateKeys keys e
    match r with
    | .ok termination => return (termination :: rest, e)
    | .error _ => return (rest, e)

def terminateConnection (e : DeliveryEndpoint) (connection : ConnectionHandle) :
    Checked (List FlowTermination × DeliveryEndpoint) :=
  terminateKeys (e.flows.keys.filter fun key => key.connection = connection) e

/-! ### Eviction -/

/-- What an eviction returns: the evicted transfer, if there was one. -/
abbrev Evicts := DeliveryEndpoint → Checked (OpResult (Option DeliveryTransfer))

def evictOldestOutboundUnreliable (key : DeliveryFlowKey) : Evicts := fun e =>
  match e.flows.get? key with
  | none => .ok (.error .unknownFlow, e)
  | some flow =>
    if key.direction ≠ .outbound then .ok (.error .wrongDirection, e)
    else do
      Checked.assert (flow.mode ≠ .reliableOrdered)
      match flow.outbound with
      | [] => return (.ok none, e)
      | transfer :: rest => do
        let e := e.setFlow key { flow with outbound := rest }
        let e ← e.removePending key 1 transfer.payloadLen
        return (.ok (some transfer), e)

def evictOldestInboundUnreliable (key : DeliveryFlowKey) : Evicts := fun e =>
  match e.flows.get? key with
  | none => .ok (.error .unknownFlow, e)
  | some flow =>
    if key.direction ≠ .inbound then .ok (.error .wrongDirection, e)
    else do
      Checked.assert (flow.mode ≠ .reliableOrdered)
      match flow.receiver with
      | .reliable _ _ => Checked.unreachable mismatchedBuffer
      | .unreliable [] _ => return (.ok none, e)
      | .unreliable (transfer :: rest) last => do
        let e := e.setFlow key { flow with receiver := .unreliable rest last }
        let e ← e.removePending key 1 transfer.payloadLen
        return (.ok (some transfer), e)

/-- Evicts until `bytes` more fit: whether they fit and how many were evicted. -/
def evictUntilRoom (evict : Evicts) (key : DeliveryFlowKey) (bytes : Nat) :
    (bound drops : Nat) → DeliveryEndpoint → Checked (OpResult (Bool × Nat))
  | 0, _, _ => .error .divergence
  | bound + 1, drops, e => do
    match ← e.canAddPending key 1 bytes with
    | .error err => return (.error err, e)
    | .ok true => return (.ok (true, drops), e)
    | .ok false => match ← evict e with
      | (.error err, e) => return (.error err, e)
      | (.ok none, e) => return (.ok (false, drops), e)
      | (.ok (some _), e) =>
        evictUntilRoom evict key bytes bound (saturatingAdd usizeMax drops 1) e

/-! ### Sending -/

/-- The pressure part of `submit`: whether the payload fits now and how many were evicted. -/
def outboundRoom (e : DeliveryEndpoint) (key : DeliveryFlowKey) (flow : FlowState) (bytes : Nat) :
    Checked (OpResult (Bool × Nat)) := do
  match ← e.canAddPending key 1 bytes with
  | .error err => return (.error err, e)
  | .ok true => return (.ok (true, 0), e)
  | .ok false => match flow.policy.outboundPressure with
    | .rejectNew => return (.ok (false, 0), e)
    | .evictOldestUnreliable => do
      Checked.assert (flow.mode ≠ .reliableOrdered)
      evictUntilRoom (evictOldestOutboundUnreliable key) key bytes (flow.pendingMessages + 1) 0 e

/-- The end of `submit`: the transfer is queued, accounted for and its evictions counted. -/
def enqueueOutbound (e : DeliveryEndpoint) (key : DeliveryFlowKey) (mode : DeliveryMode)
    (index : Nat) (payload : List UInt8) (drops : Nat) :
    Checked (OpResult SubmissionOutcome) :=
  match e.flows.get? key with
  | none => .ok (.error .unknownFlow, e)
  | some flow => do
    let e := e.setFlow key { flow with
      nextAcceptedIndex := checkedAdd u64Max index 1
      outbound := flow.outbound ++ [⟨mode, index, payload⟩] }
    let e ← e.addPending key 1 payload.length
    let dropped := saturatingAdd usizeMax e.diagnostics.outboundUnreliablePressureDrops drops
    let diagnostics := if drops > 0 then
      { e.diagnostics with outboundUnreliablePressureDrops := dropped } else e.diagnostics
    return (.ok (.accepted index drops), { e with diagnostics := diagnostics })

def submit (e : DeliveryEndpoint) (key : DeliveryFlowKey) (payload : List UInt8) :
    Checked (OpResult SubmissionOutcome) :=
  match e.flows.get? key with
  | none => .ok (.error .unknownFlow, e)
  | some flow =>
    if key.direction ≠ .outbound then .ok (.error .wrongDirection, e)
    else if payload.length > flow.policy.maxMessageBytes.get then .ok (.ok .rejectedTooLarge, e)
    else match flow.nextAcceptedIndex with
      | none => .ok (.ok .rejectedCounterExhausted, e)
      | some index => do
        match ← e.outboundRoom key flow payload.length with
        | (.error err, e) => return (.error err, e)
        | (.ok (false, _), e) => return (.ok .rejectedPressure, e)
        | (.ok (true, drops), e) => e.enqueueOutbound key flow.mode index payload drops

def peekOutbound (e : DeliveryEndpoint) (key : DeliveryFlowKey) :
    Except DeliveryOperationError (Option DeliveryTransfer) :=
  match e.flows.get? key with
  | none => .error .unknownFlow
  | some flow =>
    if key.direction ≠ .outbound then .error .wrongDirection else .ok flow.outbound.head?

def peekOutboundMetadata (e : DeliveryEndpoint) (key : DeliveryFlowKey) :
    Except DeliveryOperationError (Option OutboundTransferMetadata) :=
  (e.peekOutbound key).map fun front =>
    front.map fun transfer => ⟨transfer.mode, transfer.acceptedIndex, transfer.payloadLen⟩

def commitOutboundCustody (e : DeliveryEndpoint) (key : DeliveryFlowKey) (acceptedIndex : Nat) :
    Checked (Except CustodyCommitError DeliveryTransfer × DeliveryEndpoint) :=
  if key.direction ≠ .outbound then .ok (.error .wrongDirection, e)
  else match e.flows.get? key with
    | none => .ok (.error .unknownFlow, e)
    | some flow => match flow.outbound with
      | [] => .ok (.error .noPendingMessage, e)
      | front :: rest =>
        if front.acceptedIndex ≠ acceptedIndex then .ok (.error .notFront, e)
        else do
          let e := e.setFlow key { flow with outbound := rest }
          let e ← e.removePending key 1 front.payloadLen
          return (.ok front, e)

/-! ### Receiving -/

/-- One more saturating count of duplicates. -/
def countDuplicate (e : DeliveryEndpoint) : DeliveryEndpoint :=
  { e with diagnostics := { e.diagnostics with
      reliableDuplicateSuppressions :=
        saturatingAdd usizeMax e.diagnostics.reliableDuplicateSuppressions 1 } }

def countStale (e : DeliveryEndpoint) : DeliveryEndpoint :=
  { e with diagnostics := { e.diagnostics with
      staleSequencedDrops := saturatingAdd usizeMax e.diagnostics.staleSequencedDrops 1 } }

def countInboundDrops (e : DeliveryEndpoint) (drops : Nat) : DeliveryEndpoint :=
  { e with diagnostics := { e.diagnostics with
      inboundUnreliablePressureDrops :=
        saturatingAdd usizeMax e.diagnostics.inboundUnreliablePressureDrops drops } }

/-- `some conflict` when the index was exposed or is buffered already. -/
def duplicateOrConflict (byIndex : SortedMap Nat DeliveryTransfer) (nextExposure : Option Nat)
    (transfer : DeliveryTransfer) : Option Bool :=
  if nextExposure.all (fun next => transfer.acceptedIndex < next) then some false
  else (byIndex.get? transfer.acceptedIndex).map fun existing => existing ≠ transfer

def receiveReliable (e : DeliveryEndpoint) (key : DeliveryFlowKey) (transfer : DeliveryTransfer) :
    Checked (OpResult ReceiveOutcome) :=
  match e.flows.get? key with
  | none => .ok (.error .unknownFlow, e)
  | some flow => match flow.receiver with
    | .unreliable _ _ => Checked.unreachable mismatchedBuffer
    | .reliable byIndex nextExposure => match duplicateOrConflict byIndex nextExposure transfer with
      | some true => do
        let e ← e.dropFlow key .reliableTransferConflict
        return (.ok .terminalReliableFailure, e)
      | some false => .ok (.ok .duplicateReliable, e.countDuplicate)
      | none => do
        match ← e.canAddPending key 1 transfer.payloadLen with
        | .error err => return (.error err, e)
        | .ok false => do
          let e ← e.dropFlow key .reliableReceiverPressure
          return (.ok .terminalReliableFailure, e)
        | .ok true => do
          Checked.assert (byIndex.get? transfer.acceptedIndex).isNone
          let e := e.setFlow key { flow with
            receiver := .reliable (byIndex.insert transfer.acceptedIndex transfer) nextExposure }
          let e ← e.addPending key 1 transfer.payloadLen
          return (.ok (.buffered 0), e)

/-- The pressure part of `receive_unreliable`: whether the transfer fits now and how many were
evicted. -/
def inboundRoom (e : DeliveryEndpoint) (key : DeliveryFlowKey) (flow : FlowState) (bytes : Nat) :
    Checked (OpResult (Bool × Nat)) := do
  match ← e.canAddPending key 1 bytes with
  | .error err => return (.error err, e)
  | .ok true => return (.ok (true, 0), e)
  | .ok false => match flow.policy.receiverPressure with
    | .dropIncomingUnreliable => return (.ok (false, 0), e)
    | .evictOldestBufferedUnreliable =>
      evictUntilRoom (evictOldestInboundUnreliable key) key bytes (flow.pendingMessages + 1) 0 e
    | .terminateReliable =>
      Checked.unreachable "unreliable policy validation rejects this combination"

/-- The end of `receive_unreliable`: the transfer is queued and its evictions counted. -/
def enqueueInbound (e : DeliveryEndpoint) (key : DeliveryFlowKey) (transfer : DeliveryTransfer)
    (drops : Nat) : Checked (OpResult ReceiveOutcome) :=
  match e.flows.get? key with
  | none => .ok (.error .unknownFlow, e)
  | some flow => match flow.receiver with
    | .reliable _ _ => Checked.unreachable mismatchedBuffer
    | .unreliable queue last => do
      let e := e.setFlow key { flow with receiver := .unreliable (queue ++ [transfer]) last }
      let e ← e.addPending key 1 transfer.payloadLen
      return (.ok (.buffered drops), if drops > 0 then e.countInboundDrops drops else e)

def receiveUnreliable (e : DeliveryEndpoint) (key : DeliveryFlowKey) (transfer : DeliveryTransfer)
    (sequenced : Bool) : Checked (OpResult ReceiveOutcome) :=
  match e.flows.get? key with
  | none => .ok (.error .unknownFlow, e)
  | some flow => do
    let stale ← flow.receiver.staleFor sequenced transfer.acceptedIndex
    if stale then return (.ok .staleSequenced, e.countStale)
    else match ← e.inboundRoom key flow transfer.payloadLen with
      | (.error err, e) => return (.error err, e)
      | (.ok (false, drops), e) =>
        -- the incoming transfer is one more drop
        let drops := saturatingAdd usizeMax drops 1
        return (.ok (.droppedByPressure drops), e.countInboundDrops drops)
      | (.ok (true, drops), e) => e.enqueueInbound key transfer drops

def receive (e : DeliveryEndpoint) (key : DeliveryFlowKey) (transfer : DeliveryTransfer) :
    Checked (OpResult ReceiveOutcome) :=
  if key.direction ≠ .inbound then .ok (.error .wrongDirection, e)
  else match e.flows.get? key with
    | none => .ok (.error .unknownFlow, e)
    | some flow =>
      if transfer.mode ≠ flow.mode then
        if flow.mode = .reliableOrdered then do
          let e ← e.dropFlow key .reliableModeMismatch
          return (.ok .terminalReliableFailure, e)
        else .ok (.ok .rejectedModeMismatch, e)
      else if transfer.payloadLen > flow.policy.maxMessageBytes.get then
        if flow.mode = .reliableOrdered then do
          let e ← e.dropFlow key .reliableInboundTooLarge
          return (.ok .terminalReliableFailure, e)
        else .ok (.ok .droppedTooLarge, e)
      else match flow.mode with
        | .reliableOrdered => e.receiveReliable key transfer
        | .unreliableUnordered => e.receiveUnreliable key transfer false
        | .unreliableSequenced => e.receiveUnreliable key transfer true

def receiveTransportPayload (e : DeliveryEndpoint) (key : DeliveryFlowKey) (acceptedIndex : Nat)
    (payload : List UInt8) : Checked (OpResult ReceiveOutcome) :=
  if key.direction ≠ .inbound then .ok (.error .wrongDirection, e)
  else match e.flows.get? key with
    | none => .ok (.error .unknownFlow, e)
    | some flow => e.receive key ⟨flow.mode, acceptedIndex, payload⟩

/-! ### Exposing -/

def exposed (t : DeliveryTransfer) : ExposedMessage := ⟨t.acceptedIndex, t.payload⟩

def pollReliableExposure (e : DeliveryEndpoint) (key : DeliveryFlowKey) :
    Checked (OpResult (Option ExposedMessage)) :=
  match e.flows.get? key with
  | none => .ok (.error .unknownFlow, e)
  | some flow => match flow.receiver with
    | .unreliable _ _ => Checked.unreachable mismatchedBuffer
    | .reliable _ none => .ok (.ok none, e)
    | .reliable byIndex (some expected) => match byIndex.get? expected with
      | none => .ok (.ok none, e)
      | some transfer => do
        let e := e.setFlow key { flow with
          receiver := .reliable (byIndex.erase expected) (checkedAdd u64Max expected 1) }
        let e ← e.removePending key 1 transfer.payloadLen
        return (.ok (some (exposed transfer)), e)

/-- Takes the oldest buffered transfer of an unreliable flow. -/
def popInbound (e : DeliveryEndpoint) (key : DeliveryFlowKey) :
    Checked (OpResult (Option DeliveryTransfer)) :=
  match e.flows.get? key with
  | none => .ok (.error .unknownFlow, e)
  | some flow => match flow.receiver with
    | .reliable _ _ => Checked.unreachable mismatchedBuffer
    | .unreliable [] _ => .ok (.ok none, e)
    | .unreliable (transfer :: rest) last => do
      let e := e.setFlow key { flow with receiver := .unreliable rest last }
      let e ← e.removePending key 1 transfer.payloadLen
      return (.ok (some transfer), e)

def pollUnorderedExposure (e : DeliveryEndpoint) (key : DeliveryFlowKey) :
    Checked (OpResult (Option ExposedMessage)) := do
  let (r, e) ← e.popInbound key
  return (r.map (Option.map exposed), e)

/-- The loop of `poll_sequenced_exposure`: drops stale transfers until one is exposed. -/
def pollSequenced (key : DeliveryFlowKey) :
    (bound : Nat) → DeliveryEndpoint → Checked (OpResult (Option ExposedMessage))
  | 0, _ => .error .divergence
  | bound + 1, e => do
    match ← e.popInbound key with
    | (.error err, e) => return (.error err, e)
    | (.ok none, e) => return (.ok none, e)
    | (.ok (some transfer), e) => match e.flows.get? key with
      | none => return (.error .unknownFlow, e)
      | some flow => do
        if ← flow.receiver.stale transfer.acceptedIndex then
          pollSequenced key bound e.countStale
        else
          let receiver ← flow.receiver.expose transfer.acceptedIndex
          return (.ok (some (exposed transfer)), e.setFlow key { flow with receiver := receiver })

def pollSequencedExposure (e : DeliveryEndpoint) (key : DeliveryFlowKey) :
    Checked (OpResult (Option ExposedMessage)) :=
  match e.flows.get? key with
  | none => .ok (.error .unknownFlow, e)
  | some flow => pollSequenced key (flow.pendingMessages + 1) e

def pollExposure (e : DeliveryEndpoint) (key : DeliveryFlowKey) :
    Checked (OpResult (Option ExposedMessage)) :=
  if key.direction ≠ .inbound then .ok (.error .wrongDirection, e)
  else match e.flows.get? key with
    | none => .ok (.error .unknownFlow, e)
    | some flow => match flow.mode with
      | .reliableOrdered => e.pollReliableExposure key
      | .unreliableUnordered => e.pollUnorderedExposure key
      | .unreliableSequenced => e.pollSequencedExposure key

def lastExposedSequence (e : DeliveryEndpoint) (key : DeliveryFlowKey) :
    Checked (Except DeliveryOperationError (Option Nat)) :=
  match e.flows.get? key with
  | none => .ok (.error .unknownFlow)
  | some flow =>
    if key.direction ≠ .inbound then .ok (.error .wrongDirection)
    else if flow.mode ≠ .unreliableSequenced then .ok (.ok none)
    else match flow.receiver with
      | .unreliable _ last => .ok (.ok last)
      | .reliable _ _ => Checked.unreachable mismatchedBuffer

end DeliveryEndpoint

end RunenNet
