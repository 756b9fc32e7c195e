import RunenNet.Core.Replication.Client

/-!
# Local prediction

A `PredictionLineage` keeps the local inputs that were applied ahead of the authority, and
replays them when it observes a newer commit of its client lineage. The replay callback is a
function of the tick and the input: one observation passes a tick at most once, so it also stands
for a callback with state. An observation returns the inputs it passed to the callback.
-/

namespace RunenNet

open Foundation

inductive PredictionInvalidationReason where
  | initialBaseline
  | replicationRecovery (reason : ClientRecoveryReason)
  | connectionLoss
  | localApplicationFailure
  | replayFailure
  | participantMembershipEnded
  | sessionClosed
  deriving DecidableEq, Repr

def PredictionInvalidationReason.isTerminal : PredictionInvalidationReason → Bool
  | participantMembershipEnded => true
  | sessionClosed => true
  | _ => false

inductive PredictionState where
  | active (frontier : SimulationTick)
  | invalidated (reason : PredictionInvalidationReason) (frontier : Option SimulationTick)
  deriving DecidableEq, Repr

inductive PredictionInputOutcome where
  | inputAccepted
  | duplicateInput
  | conflictingInput
  | predictionInputNotNewerThanFrontier
  | pendingPredictionResourceRejected
  | predictionInvalidated (reason : PredictionInvalidationReason)
  deriving DecidableEq, Repr

inductive PredictionReconciliationOutcome where
  | noAuthoritativeCommit
  | activatedFromAuthoritative (frontier : SimulationTick)
  | reconciledNoReplay (frontier : SimulationTick)
  | reconciledReplay (frontier : SimulationTick) (replayed : Nat)
  | invalidatedByRecovery (reason : ClientRecoveryReason)
  | remainsInvalidated (reason : PredictionInvalidationReason)
  deriving DecidableEq, Repr

inductive PredictionActivationError where
  | replicationLineageMissing
  | notHostStateFailure
  | replicationNotSynchronized
  | missingCommittedTick
  | frontierRegression
  deriving DecidableEq, Repr

inductive PredictionReconciliationError (E : Type) where
  | replicationLineageMissing
  | committedCursorRegression (lastObserved current : ReplicationCursor)
  | missingCommittedTick
  | frontierRegression
  | accountingInvariantViolation
  | replayFailed (tick : SimulationTick) (source : E)
  deriving DecidableEq, Repr

structure PredictionLimits where
  maxPendingInputs : NonZeroUsize
  maxPendingBytes : NonZeroUsize
  maxFutureTickDistance : Nat
  deriving DecidableEq, Repr

structure PendingInput (I : Type) where
  value : I
  accountedBytes : Nat
  deriving DecidableEq, Repr

/-- The last observed commit and recovery boundary are evidence only: the client lineage owns
the current cursor and state. -/
structure PredictionLineage (I : Type) where
  key : ReplicationLineageKey
  limits : PredictionLimits
  state : PredictionState
  pending : SortedMap SimulationTick (PendingInput I)
  pendingBytes : Nat
  lastObservedCommit : Option ReplicationCursor
  lastObservedRecoveryBoundary : Option ReplicationCursor

/-- What an observation returns: its result, the inputs passed to the replay callback in order,
and the lineage after it. -/
structure Observation (I E : Type) where
  result : Except (PredictionReconciliationError E) PredictionReconciliationOutcome
  replayed : List (SimulationTick × I)
  lineage : PredictionLineage I

namespace PredictionLineage

variable {I S E : Type}

def new (key : ReplicationLineageKey) (limits : PredictionLimits) : PredictionLineage I where
  key := key
  limits := limits
  state := .invalidated .initialBaseline none
  pending := .empty
  pendingBytes := 0
  lastObservedCommit := none
  lastObservedRecoveryBoundary := none

def frontier (l : PredictionLineage I) : Option SimulationTick :=
  match l.state with
  | .active frontier => some frontier
  | .invalidated _ frontier => frontier

def terminalReason (l : PredictionLineage I) : Option PredictionInvalidationReason :=
  match l.state with
  | .invalidated reason _ => if reason.isTerminal then some reason else none
  | .active _ => none

def invalidate (l : PredictionLineage I) (reason : PredictionInvalidationReason) :
    PredictionLineage I :=
  { l with pending := .empty, pendingBytes := 0, state := .invalidated reason l.frontier }

def terminate (l : PredictionLineage I) (reason : PredictionInvalidationReason) :
    PredictionLineage I :=
  { l with pending := .empty, pendingBytes := 0, state := .invalidated reason none }

def admitLocal [DecidableEq I] (l : PredictionLineage I) (targetTick : SimulationTick) (input : I)
    (accountedBytes : Nat) : PredictionInputOutcome × PredictionLineage I :=
  match l.state with
  | .invalidated reason _ => (.predictionInvalidated reason, l)
  | .active frontier =>
    if targetTick ≤ frontier then (.predictionInputNotNewerThanFrontier, l)
    else match l.pending.get? targetTick with
      | some pending =>
        if pending.value = input then (.duplicateInput, l) else (.conflictingInput, l)
      | none =>
        if targetTick.get - frontier.get > l.limits.maxFutureTickDistance
            ∨ accountedBytes > l.limits.maxPendingBytes.get
            ∨ l.pending.size ≥ l.limits.maxPendingInputs.get then
          (.pendingPredictionResourceRejected, l)
        else match checkedAdd usizeMax l.pendingBytes accountedBytes with
          | none => (.pendingPredictionResourceRejected, l)
          | some nextPendingBytes =>
            if nextPendingBytes > l.limits.maxPendingBytes.get then
              (.pendingPredictionResourceRejected, l)
            else
              (.inputAccepted, { l with
                pending := l.pending.insert targetTick ⟨input, accountedBytes⟩
                pendingBytes := nextPendingBytes })

/-- Invalidation unless the prediction has ended for good. -/
def invalidateUnlessTerminal (l : PredictionLineage I) (reason : PredictionInvalidationReason) :
    PredictionLineage I :=
  if l.terminalReason.isNone then l.invalidate reason else l

def connectionLost (l : PredictionLineage I) : PredictionLineage I :=
  l.invalidateUnlessTerminal .connectionLoss

def localApplicationFailed (l : PredictionLineage I) : PredictionLineage I :=
  l.invalidateUnlessTerminal .localApplicationFailure

def participantMembershipEnded (l : PredictionLineage I) : PredictionLineage I :=
  l.terminate .participantMembershipEnded

def sessionClosed (l : PredictionLineage I) : PredictionLineage I := l.terminate .sessionClosed

def invalidateForRecovery (l : PredictionLineage I) (reason : ClientRecoveryReason) :
    PredictionLineage I :=
  l.invalidateUnlessTerminal (.replicationRecovery reason)

/-- The lineage with the recovery boundary of `lineage`, if it has one, taken as observed. -/
def noteBoundary (l : PredictionLineage I) (lineage : ClientLineage S) : PredictionLineage I :=
  match lineage.latestRecoveryBoundary with
  | some (boundary, _) => { l with lastObservedRecoveryBoundary := some boundary }
  | none => l

def requireConnectionReplacementFull (l : PredictionLineage I)
    (replication : ClientReplicationSet S) :
    Except ClientSetError Unit × PredictionLineage I × ClientReplicationSet S :=
  match replication.requireConnectionReplacementFull l.key with
  | (.error e, replication) => (.error e, l, replication)
  | (.ok (), replication) =>
    let l := match replication.lineages.get? l.key with
      | some lineage => l.noteBoundary lineage
      | none => l
    (.ok (), l.invalidateForRecovery .connectionReplacement, replication)

/-- The host's own prediction state failed: a local application or a replay. -/
def hostStateFailed (l : PredictionLineage I) : Bool :=
  match l.state with
  | .invalidated .localApplicationFailure _ => true
  | .invalidated .replayFailure _ => true
  | _ => false

def confirmHostRestoredAfterPredictionFailure (l : PredictionLineage I)
    (replication : ClientReplicationSet S) :
    Checked (Except PredictionActivationError SimulationTick × PredictionLineage I) :=
  match replication.lineages.get? l.key with
  | none => .ok (.error .replicationLineageMissing, l)
  | some lineage =>
    if ¬ l.hostStateFailed then .ok (.error .notHostStateFailure, l)
    else if lineage.state ≠ .synchronized then .ok (.error .replicationNotSynchronized, l)
    else match lineage.currentTick with
      | none => .ok (.error .missingCommittedTick, l)
      | some tick => do
        let cursor ← Checked.expect
          "synchronized lineage with committed tick has a current cursor" lineage.current
        if l.frontier.any (fun frontier => tick < frontier) then
          return (.error .frontierRegression, l)
        else
          let l := { l with
            pending := .empty
            pendingBytes := 0
            state := .active tick
            lastObservedCommit := some cursor }
          return (.ok tick, l.noteBoundary lineage)

/-- The replay loop: the inputs passed to the callback, and how many it accepted or why the loop
stopped. -/
def replayPending (replay : SimulationTick → I → Except E Unit) :
    List (SimulationTick × PendingInput I) → (replayed : Nat) →
      List (SimulationTick × I) × Except (PredictionReconciliationError E) Nat
  | [], replayed => ([], .ok replayed)
  | (tick, pending) :: rest, replayed =>
    match replay tick pending.value with
    | .error source => ([(tick, pending.value)], .error (.replayFailed tick source))
    | .ok () => match checkedAdd usizeMax replayed 1 with
      | none => ([(tick, pending.value)], .error .accountingInvariantViolation)
      | some replayed =>
        let (calls, result) := replayPending replay rest replayed
        ((tick, pending.value) :: calls, result)

def reconcileCommitted (l : PredictionLineage I) (cursor : ReplicationCursor)
    (tick : SimulationTick) (replay : SimulationTick → I → Except E Unit) : Observation I E :=
  if l.frontier.any (fun frontier => tick < frontier) then ⟨.error .frontierRegression, [], l⟩
  else match l.state with
    | .invalidated reason _ =>
      let l := { l with lastObservedCommit := some cursor }
      let activated := { l with pending := .empty, pendingBytes := 0, state := .active tick }
      match reason with
      | .initialBaseline => ⟨.ok (.activatedFromAuthoritative tick), [], activated⟩
      | .replicationRecovery _ => ⟨.ok (.activatedFromAuthoritative tick), [], activated⟩
      | reason => ⟨.ok (.remainsInvalidated reason), [], l⟩
    | .active _ =>
      let retired := l.pending.entries.filter fun e => e.1 ≤ tick
      let counted : Option Nat := do
        let retiredBytes ← checkedTotal (retired.map fun e => e.2.accountedBytes)
        checkedSub l.pendingBytes retiredBytes
      match counted with
      | none => ⟨.error .accountingInvariantViolation, [], l⟩
      | some nextPendingBytes =>
        let l := { l with
          lastObservedCommit := some cursor
          state := .active tick
          pending := (retired.map Prod.fst).foldl SortedMap.erase l.pending
          pendingBytes := nextPendingBytes }
        if l.pending.entries.isEmpty then ⟨.ok (.reconciledNoReplay tick), [], l⟩
        else match replayPending replay l.pending.entries 0 with
          | (calls, .ok replayed) => ⟨.ok (.reconciledReplay tick replayed), calls, l⟩
          | (calls, .error (.replayFailed failedTick source)) =>
            ⟨.error (.replayFailed failedTick source), calls, l.invalidate .replayFailure⟩
          | (calls, .error e) => ⟨.error e, calls, l⟩

/-- The part of an observation that comes before the commit: a recovery boundary newer than the
last observed one invalidates. -/
def observeBoundary (l : PredictionLineage I) (lineage : ClientLineage S) :
    Bool × PredictionLineage I :=
  match lineage.latestRecoveryBoundary with
  | none => (false, l)
  | some (boundary, reason) =>
    if l.lastObservedRecoveryBoundary.all (fun lastObserved => boundary > lastObserved) then
      (true, ({ l with lastObservedRecoveryBoundary := some boundary }).invalidateForRecovery reason)
    else (false, l)

/-- The part of an observation on a synchronized lineage with a current cursor. -/
def observeCommit (l : PredictionLineage I) (lineage : ClientLineage S)
    (cursor : ReplicationCursor) (replay : SimulationTick → I → Except E Unit) : Observation I E :=
  let reconcile : Observation I E := match lineage.currentTick with
    | none => ⟨.error .missingCommittedTick, [], l⟩
    | some tick => l.reconcileCommitted cursor tick replay
  match l.lastObservedCommit with
  | none => reconcile
  | some lastObserved =>
    if cursor < lastObserved then ⟨.error (.committedCursorRegression lastObserved cursor), [], l⟩
    else if cursor = lastObserved then ⟨.ok .noAuthoritativeCommit, [], l⟩
    else reconcile

def observeReplication (l : PredictionLineage I) (replication : ClientReplicationSet S)
    (replay : SimulationTick → I → Except E Unit) : Observation I E :=
  match replication.lineages.get? l.key with
  | none => ⟨.error .replicationLineageMissing, [], l⟩
  | some lineage =>
    let (observedNewRecovery, l) := l.observeBoundary lineage
    match lineage.state with
    | .fullSnapshotRequired reason => match l.terminalReason with
      | some terminal => ⟨.ok (.remainsInvalidated terminal), [], l⟩
      | none =>
        ⟨.ok (.invalidatedByRecovery reason), [],
          if observedNewRecovery then l else l.invalidateForRecovery reason⟩
    | .synchronized => match lineage.current with
      | none => ⟨.ok .noAuthoritativeCommit, [], l⟩
      | some cursor => match l.terminalReason with
        | some terminal => ⟨.ok (.remainsInvalidated terminal), [], l⟩
        | none => l.observeCommit lineage cursor replay

end PredictionLineage

end RunenNet
