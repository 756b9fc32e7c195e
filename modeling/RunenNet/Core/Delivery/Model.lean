import RunenNet.Core.Session
import Mathlib.Data.Prod.Lex

/-!
# Delivery vocabulary

Flow keys, delivery modes, pressure policies, scope limits and the outcomes of the delivery
operations.
-/

namespace RunenNet

open Foundation

abbrev DeliveryFlowHandle := Ident .flowHandle

inductive FlowDirection where
  | outbound
  | inbound
  deriving DecidableEq, Repr

/-- Outbound before inbound, as `terminate_connection` sorts. -/
def FlowDirection.rank : FlowDirection → Nat
  | .outbound => 0
  | .inbound => 1

structure DeliveryFlowKey where
  connection : ConnectionHandle
  direction : FlowDirection
  handle : DeliveryFlowHandle
  deriving Repr

namespace DeliveryFlowKey

/-- Lexicographic on connection, direction and handle. -/
def lexKey (k : DeliveryFlowKey) : Nat ×ₗ Nat ×ₗ Nat :=
  toLex (k.connection.get, toLex (k.direction.rank, k.handle.get))

theorem lexKey_injective : Function.Injective lexKey := fun a b h => by
  obtain ⟨⟨c⟩, d, ⟨n⟩⟩ := a
  obtain ⟨⟨c'⟩, d', ⟨n'⟩⟩ := b
  have h1 : c = c' := congrArg (fun x => (ofLex x).1) h
  have h2 : d.rank = d'.rank := congrArg (fun x => (ofLex (ofLex x).2).1) h
  have h3 : n = n' := congrArg (fun x => (ofLex (ofLex x).2).2) h
  subst h1 h3
  cases d <;> cases d' <;> first | rfl | cases h2

instance : LinearOrder DeliveryFlowKey := LinearOrder.lift' lexKey lexKey_injective

end DeliveryFlowKey

inductive DeliveryMode where
  | reliableOrdered
  | unreliableUnordered
  | unreliableSequenced
  deriving DecidableEq, Repr

inductive OutboundPressureBehavior where
  | rejectNew
  | evictOldestUnreliable
  deriving DecidableEq, Repr

inductive ReceiverPressureBehavior where
  | terminateReliable
  | dropIncomingUnreliable
  | evictOldestBufferedUnreliable
  deriving DecidableEq, Repr

inductive DeliveryPolicyError where
  | reliableOutboundMustRejectNew
  | reliableReceiverMustTerminate
  | unreliableReceiverPolicyRequired
  deriving DecidableEq, Repr

structure FlowResourcePolicy where
  maxMessageBytes : NonZeroUsize
  maxPendingMessages : NonZeroUsize
  maxPendingPayloadBytes : NonZeroUsize
  outboundPressure : OutboundPressureBehavior
  receiverPressure : ReceiverPressureBehavior
  deriving DecidableEq, Repr

def FlowResourcePolicy.validateForMode (p : FlowResourcePolicy) :
    DeliveryMode → Except DeliveryPolicyError Unit
  | .reliableOrdered =>
    if p.outboundPressure ≠ .rejectNew then .error .reliableOutboundMustRejectNew
    else if p.receiverPressure ≠ .terminateReliable then .error .reliableReceiverMustTerminate
    else .ok ()
  | .unreliableUnordered | .unreliableSequenced =>
    if p.receiverPressure = .terminateReliable then .error .unreliableReceiverPolicyRequired
    else .ok ()

structure DeliveryScopeLimits where
  maxActiveFlows : NonZeroUsize
  maxPendingMessages : NonZeroUsize
  maxPendingPayloadBytes : NonZeroUsize
  deriving DecidableEq, Repr

inductive ResourceScope where
  | flow
  | connection
  | session
  | aggregate
  deriving DecidableEq, Repr

/-- One accepted message: its mode, its acceptance index and its payload. -/
structure DeliveryTransfer where
  mode : DeliveryMode
  acceptedIndex : Nat
  payload : List UInt8
  deriving DecidableEq, Repr

def DeliveryTransfer.payloadLen (t : DeliveryTransfer) : Nat := t.payload.length

structure OutboundTransferMetadata where
  mode : DeliveryMode
  acceptedIndex : Nat
  payloadLen : Nat
  deriving DecidableEq, Repr

inductive CustodyCommitError where
  | unknownFlow
  | wrongDirection
  | noPendingMessage
  | notFront
  deriving DecidableEq, Repr

inductive FlowEstablishmentError where
  | invalidPolicy (e : DeliveryPolicyError)
  | flowAlreadyExists
  | connectionLimitsMismatch
  | activeFlowLimitExceeded (scope : ResourceScope)
  deriving DecidableEq, Repr

inductive SessionAssociationOutcome where
  | associated
  | alreadyAssociated
  deriving DecidableEq, Repr

inductive SessionAssociationError where
  | unknownFlow
  | sessionClosed
  | alreadyAssociatedWithDifferentSession
  | sessionLimitsMismatch
  | resourceLimitExceeded
  deriving DecidableEq, Repr

inductive SubmissionOutcome where
  | accepted (acceptedIndex localPressureDrops : Nat)
  | rejectedTooLarge
  | rejectedPressure
  | rejectedCounterExhausted
  deriving DecidableEq, Repr

/-- Whether one complete message was accepted into its delivery contract. -/
inductive DeliveryAcceptance where
  | accepted
  | notAccepted
  deriving DecidableEq, Repr

def SubmissionOutcome.acceptance : SubmissionOutcome → DeliveryAcceptance
  | .accepted _ _ => .accepted
  | .rejectedTooLarge | .rejectedPressure | .rejectedCounterExhausted => .notAccepted

inductive DeliveryOperationError where
  | unknownFlow
  | wrongDirection
  | notReliable
  deriving DecidableEq, Repr

inductive ReceiveOutcome where
  | buffered (localPressureDrops : Nat)
  | droppedByPressure (localPressureDrops : Nat)
  | droppedTooLarge
  | staleSequenced
  | duplicateReliable
  | rejectedModeMismatch
  | terminalReliableFailure
  deriving DecidableEq, Repr

structure ExposedMessage where
  acceptedIndex : Nat
  payload : List UInt8
  deriving DecidableEq, Repr

inductive FlowTerminationReason where
  | requested
  | connectionEnded
  | reliableCustodyLost
  | reliableReceiverPressure
  | reliableTransferConflict
  | reliableInboundTooLarge
  | reliableModeMismatch
  deriving DecidableEq, Repr

def FlowTerminationReason.forcesReliableFailure : FlowTerminationReason → Bool
  | .reliableCustodyLost | .reliableReceiverPressure | .reliableTransferConflict
  | .reliableInboundTooLarge | .reliableModeMismatch => true
  | .requested | .connectionEnded => false

structure FlowTermination where
  key : DeliveryFlowKey
  reason : FlowTerminationReason
  pendingMessages : Nat
  reliableObligationFailed : Bool
  deriving DecidableEq, Repr

structure DeliveryDiagnostics where
  outboundUnreliablePressureDrops : Nat
  inboundUnreliablePressureDrops : Nat
  staleSequencedDrops : Nat
  reliableDuplicateSuppressions : Nat
  deriving DecidableEq, Repr

def DeliveryDiagnostics.default : DeliveryDiagnostics := ⟨0, 0, 0, 0⟩

end RunenNet
