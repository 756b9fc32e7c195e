import RunenNet.Core.Replication.Authority

/-!
# Client replication

A `ClientLineage` retains committed images, applies full and delta snapshots, and enters
recovery when a delta cannot be applied. The host's two callbacks are functions: `reconstruct`
builds a delta's target image and `hostCommit` accepts or refuses it. An apply also returns
the states it passed to `hostCommit`.
-/

namespace RunenNet

open Foundation

inductive ClientRecoveryReason where
  | initialBaseline
  | missingBase
  | malformedDelta
  | reconstructionFailure
  | deltaTickRegression
  | deltaCommitFailure
  | connectionReplacement
  deriving DecidableEq, Repr

inductive ClientReplicationState where
  | synchronized
  | fullSnapshotRequired (reason : ClientRecoveryReason)
  deriving DecidableEq, Repr

inductive ClientSnapshotOutcome where
  | committed (cursor : ReplicationCursor)
  | stale
  | duplicateCurrent
  | tickRegression
  | missingBase
  | deltaBlockedByRecovery
  | malformedDelta
  | reconstructionFailure
  | stateResourceFailure
  deriving DecidableEq, Repr

inductive DeltaReconstructionError where
  | malformed
  | reconstructionFailed
  deriving DecidableEq, Repr

inductive ClientSetError where
  | lineageAlreadyExists
  | unknownLineage
  | aggregateLineageLimitExceeded
  deriving DecidableEq, Repr

inductive ClientApplyError (E : Type) where
  | set (e : ClientSetError)
  | hostCommitFailure (source : E)
  deriving DecidableEq, Repr

structure CommitPlan where
  evict : List ReplicationCursor
  resultingCount : Nat
  resultingBytes : Nat
  deriving DecidableEq, Repr

structure ClientLineage (S : Type) where
  key : ReplicationLineageKey
  limits : ReplicationRetentionLimits
  state : ClientReplicationState
  current : Option ReplicationCursor
  latestRecoveryBoundary : Option (ReplicationCursor × ClientRecoveryReason)
  retained : RetainedImages S
  retainedBytes : Nat

namespace ClientLineage

variable {S : Type}

def new (key : ReplicationLineageKey) (limits : ReplicationRetentionLimits) : ClientLineage S where
  key := key
  limits := limits
  state := .fullSnapshotRequired .initialBaseline
  current := none
  latestRecoveryBoundary := none
  retained := .empty
  retainedBytes := 0

def currentTick (l : ClientLineage S) : Option SimulationTick :=
  l.current.bind fun c => (l.retained.get? c).map RetainedState.tick

def currentState (l : ClientLineage S) : Option S :=
  l.current.bind fun c => (l.retained.get? c).map fun r => r.image.state

theorem currentState_eq_some {l : ClientLineage S} {state : S} : l.currentState = some state ↔
    ∃ c r, l.current = some c ∧ l.retained.get? c = some r ∧ r.image.state = state := by
  simp [currentState, Option.bind_eq_some_iff]

def acknowledgementCursor (l : ClientLineage S) : Option ReplicationCursor := l.current

def classifyCursor (l : ClientLineage S) (target : ReplicationCursor) :
    Option ClientSnapshotOutcome :=
  match l.current with
  | none => none
  | some current =>
    if target < current then some .stale
    else if target = current then some .duplicateCurrent
    else none

def tickRegressesCurrent (l : ClientLineage S) (tick : SimulationTick) : Bool :=
  l.currentTick.any fun current => tick < current

def stateImageFits (l : ClientLineage S) (bytes : Nat) : Bool :=
  bytes ≤ l.limits.maxStateImageBytes.get &&
    bytes ≤ l.limits.maxCandidateBytesPerLineage.get &&
    bytes ≤ l.limits.maxRetainedStateBytesPerLineage.get

/-- The oldest-first loop of `plan_commit`: the evicted cursors and the count and bytes left. -/
def planEvictions (maxCount room : Nat) :
    List (ReplicationCursor × RetainedState S) → (count bytes : Nat) →
      Checked (List ReplicationCursor × Nat × Nat)
  | [], count, bytes => .ok ([], count, bytes)
  | (cursor, retained) :: rest, count, bytes =>
    if count < maxCount ∧ bytes ≤ room then .ok ([], count, bytes)
    else do
      let count ← Checked.sub count 1
      let bytes ← Checked.sub bytes retained.image.accountedBytes
      let (evict, count, bytes) ← planEvictions maxCount room rest count bytes
      return (cursor :: evict, count, bytes)

def planCommit (l : ClientLineage S) (targetBytes : Nat) : Checked (Option CommitPlan) :=
  if ¬ l.stateImageFits targetBytes then .ok none
  else do
    let maxCount := l.limits.maxRetainedImagesPerLineage.get
    let room ← Checked.sub l.limits.maxRetainedStateBytesPerLineage.get targetBytes
    let (evict, count, bytes) ←
      planEvictions maxCount room l.retained.entries l.retained.size l.retainedBytes
    if count ≥ maxCount ∨ bytes > room then return none
    else
      let resultingCount ← Checked.add count 1
      let resultingBytes ← Checked.add bytes targetBytes
      return some ⟨evict, resultingCount, resultingBytes⟩

/-- Removes the planned cursors. -/
def applyEvictions : List ReplicationCursor → ClientLineage S → Checked (ClientLineage S)
  | [], l => .ok l
  | evict :: rest, l => do
    let removed ← Checked.expect "commit plan references retained cursor" (l.retained.get? evict)
    let bytes ← Checked.sub l.retainedBytes removed.image.accountedBytes
    applyEvictions rest { l with retained := l.retained.erase evict, retainedBytes := bytes }

def commitWithPlan (l : ClientLineage S) (cursor : ReplicationCursor) (tick : SimulationTick)
    (image : AccountedState S) (plan : CommitPlan) : Checked (ClientLineage S) := do
  let l ← applyEvictions plan.evict l
  let bytes ← Checked.add l.retainedBytes image.accountedBytes
  Checked.assert (l.retained.get? cursor).isNone
  let l := { l with
    retained := l.retained.insert cursor ⟨tick, image⟩
    retainedBytes := bytes
    current := some cursor
    state := .synchronized }
  Checked.assert (l.retained.size = plan.resultingCount)
  Checked.assert (l.retainedBytes = plan.resultingBytes)
  return l

def enterRecovery (l : ClientLineage S) (reason : ClientRecoveryReason) : ClientLineage S :=
  let boundary := match l.current with
    | none => l.latestRecoveryBoundary
    | some cursor =>
      if l.latestRecoveryBoundary.all (fun b => b.1 ≠ cursor) then some (cursor, reason)
      else l.latestRecoveryBoundary
  { l with latestRecoveryBoundary := boundary, state := .fullSnapshotRequired reason }

def evictHistorical (l : ClientLineage S) (cursor : ReplicationCursor) :
    Checked (Bool × ClientLineage S) :=
  if l.current = some cursor then .ok (false, l)
  else match l.retained.get? cursor with
    | none => .ok (false, l)
    | some removed => do
      let bytes ← Checked.sub l.retainedBytes removed.image.accountedBytes
      return (true, { l with retained := l.retained.erase cursor, retainedBytes := bytes })

end ClientLineage

structure ClientReplicationSet (S : Type) where
  limits : ClientAggregateLimits
  lineages : SortedMap ReplicationLineageKey (ClientLineage S)

/-- What an apply returns: its result, the states given to `hostCommit`, and the set after it. -/
structure ApplyResult (S E : Type) where
  result : Except (ClientApplyError E) ClientSnapshotOutcome
  hostCommits : List S
  set : ClientReplicationSet S

namespace ClientReplicationSet

variable {S D E : Type}

def new (limits : ClientAggregateLimits) : ClientReplicationSet S := ⟨limits, .empty⟩

def addLineage (s : ClientReplicationSet S) (key : ReplicationLineageKey)
    (retention : ReplicationRetentionLimits) : Except ClientSetError Unit × ClientReplicationSet S :=
  if s.lineages.contains key then (.error .lineageAlreadyExists, s)
  else if s.lineages.size ≥ s.limits.maxLineages.get then
    (.error .aggregateLineageLimitExceeded, s)
  else (.ok (), { s with lineages := s.lineages.insert key (.new key retention) })

def removeLineage (s : ClientReplicationSet S) (key : ReplicationLineageKey) :
    Bool × ClientReplicationSet S :=
  (s.lineages.contains key, { s with lineages := s.lineages.erase key })

/-- The set with one lineage replaced. -/
def setLineage (s : ClientReplicationSet S) (key : ReplicationLineageKey) (l : ClientLineage S) :
    ClientReplicationSet S := { s with lineages := s.lineages.insert key l }

def checkedRetainedImageCount (s : ClientReplicationSet S) : Option Nat :=
  checkedTotal (s.lineages.values.map fun l => l.retained.size)

def checkedRetainedStateBytes (s : ClientReplicationSet S) : Option Nat :=
  checkedTotal (s.lineages.values.map ClientLineage.retainedBytes)

def aggregateCommitFits (s : ClientReplicationSet S) (l : ClientLineage S) (plan : CommitPlan)
    (candidateBytes : Nat) : Bool :=
  let fits : Option Bool := do
    let currentCount ← s.checkedRetainedImageCount
    let currentBytes ← s.checkedRetainedStateBytes
    let otherCount ← checkedSub currentCount l.retained.size
    let projectedCount ← checkedAdd usizeMax otherCount plan.resultingCount
    let otherBytes ← checkedSub currentBytes l.retainedBytes
    let projectedBytes ← checkedAdd usizeMax otherBytes plan.resultingBytes
    return projectedCount ≤ s.limits.maxRetainedImages.get
      && projectedBytes ≤ s.limits.maxRetainedStateBytes.get
      && (checkedAdd usizeMax currentBytes candidateBytes).any
        (fun bytes => bytes ≤ s.limits.maxRetainedStateBytes.get)
  fits.getD false

/-- The common end of both applies: plan, aggregate check, host commit and commit. `onRefusal`
is the lineage left behind when the host refuses. -/
def commitImage (s : ClientReplicationSet S) (key : ReplicationLineageKey) (l : ClientLineage S)
    (target : ReplicationCursor) (tick : SimulationTick) (image : AccountedState S)
    (hostCommit : S → Except E Unit) (onRefusal : ClientLineage S) :
    Checked (ApplyResult S E) := do
  match ← l.planCommit image.accountedBytes with
  | none => return ⟨.ok .stateResourceFailure, [], s⟩
  | some plan =>
    if ¬ s.aggregateCommitFits l plan image.accountedBytes then
      return ⟨.ok .stateResourceFailure, [], s⟩
    else match hostCommit image.state with
      | .error source =>
        return ⟨.error (.hostCommitFailure source), [image.state], s.setLineage key onRefusal⟩
      | .ok () =>
        let l ← l.commitWithPlan target tick image plan
        return ⟨.ok (.committed target), [image.state], s.setLineage key l⟩

def applyFull (s : ClientReplicationSet S) (key : ReplicationLineageKey)
    (snapshot : FullSnapshot S) (hostCommit : S → Except E Unit) : Checked (ApplyResult S E) :=
  match s.lineages.get? key with
  | none => .ok ⟨.error (.set .unknownLineage), [], s⟩
  | some l => match l.classifyCursor snapshot.targetCursor with
    | some classification => .ok ⟨.ok classification, [], s⟩
    | none =>
      if l.tickRegressesCurrent snapshot.targetTick then .ok ⟨.ok .tickRegression, [], s⟩
      else s.commitImage key l snapshot.targetCursor snapshot.targetTick snapshot.image hostCommit l

/-- The result of an apply that enters recovery. -/
def recovered (s : ClientReplicationSet S) (key : ReplicationLineageKey) (l : ClientLineage S)
    (reason : ClientRecoveryReason) (outcome : ClientSnapshotOutcome) : ApplyResult S E :=
  ⟨.ok outcome, [], s.setLineage key (l.enterRecovery reason)⟩

def applyDelta (s : ClientReplicationSet S) (key : ReplicationLineageKey)
    (snapshot : DeltaSnapshot D)
    (reconstruct : S → D → Nat → Except DeltaReconstructionError (AccountedState S))
    (hostCommit : S → Except E Unit) : Checked (ApplyResult S E) :=
  let target := snapshot.targetCursor
  let tick := snapshot.targetTick
  match s.lineages.get? key with
  | none => .ok ⟨.error (.set .unknownLineage), [], s⟩
  | some l => match l.classifyCursor target with
    | some classification => .ok ⟨.ok classification, [], s⟩
    | none => match l.state with
      | .fullSnapshotRequired _ => .ok ⟨.ok .deltaBlockedByRecovery, [], s⟩
      | .synchronized =>
        if target ≤ snapshot.baseCursor then
          .ok (s.recovered key l .malformedDelta .malformedDelta)
        else if l.tickRegressesCurrent tick then
          .ok (s.recovered key l .deltaTickRegression .tickRegression)
        else match l.retained.get? snapshot.baseCursor with
          | none => .ok (s.recovered key l .missingBase .missingBase)
          | some base =>
            if tick < base.tick then .ok (s.recovered key l .deltaTickRegression .tickRegression)
            else match reconstruct base.image.state snapshot.delta
                l.limits.maxCandidateBytesPerLineage.get with
              | .error .malformed => .ok (s.recovered key l .malformedDelta .malformedDelta)
              | .error .reconstructionFailed =>
                .ok (s.recovered key l .reconstructionFailure .reconstructionFailure)
              | .ok candidate =>
                s.commitImage key l target tick candidate hostCommit
                  (l.enterRecovery .deltaCommitFailure)

def enterRecovery (s : ClientReplicationSet S) (key : ReplicationLineageKey)
    (reason : ClientRecoveryReason) : Except ClientSetError Unit × ClientReplicationSet S :=
  match s.lineages.get? key with
  | none => (.error .unknownLineage, s)
  | some l => (.ok (), s.setLineage key (l.enterRecovery reason))

def requireConnectionReplacementFull (s : ClientReplicationSet S) (key : ReplicationLineageKey) :
    Except ClientSetError Unit × ClientReplicationSet S :=
  s.enterRecovery key .connectionReplacement

def evictHistorical (s : ClientReplicationSet S) (key : ReplicationLineageKey)
    (cursor : ReplicationCursor) :
    Checked (Except ClientSetError Bool × ClientReplicationSet S) :=
  match s.lineages.get? key with
  | none => .ok (.error .unknownLineage, s)
  | some l => do
    let (evicted, l) ← l.evictHistorical cursor
    return (.ok evicted, s.setLineage key l)

end ClientReplicationSet

end RunenNet
