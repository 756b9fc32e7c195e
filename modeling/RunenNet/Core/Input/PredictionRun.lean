import RunenNet.Core.Input.Prediction
import RunenNet.Core.Replication.ClientRecovery

/-!
# Runs of a prediction beside its client lineage

Operations of the client set and of one prediction in any order. The log of a run remembers, in
order, what the prediction's safety is about: recoveries and commits of the lineage, admitted and
replayed inputs, failures, and what made the prediction active again.
-/

namespace RunenNet

open Foundation

/-- The events that invalidate a prediction from outside the replication lineage. -/
inductive PredictionFailure where
  | connectionLoss
  | localApplicationFailure
  | replayFailure
  deriving DecidableEq, Repr

inductive PredictionEvent (I : Type) where
  | required
  | committed (cursor : ReplicationCursor)
  | admitted (tick : SimulationTick) (input : I)
  | replayed (tick : SimulationTick) (input : I)
  | failed (failure : PredictionFailure)
  | confirmed
  | activated
  deriving DecidableEq, Repr

/-- The operations; the replay callback is part of the observation. -/
inductive PredictionOp (S D E I R : Type) where
  | client (op : ClientOp S D E)
  | admitLocal (targetTick : SimulationTick) (input : I) (accountedBytes : Nat)
  | connectionLost
  | localApplicationFailed
  | participantMembershipEnded
  | sessionClosed
  | invalidateForRecovery (reason : ClientRecoveryReason)
  | requireConnectionReplacementFull
  | confirmHostRestoredAfterPredictionFailure
  | observeReplication (replay : SimulationTick → I → Except R Unit)

/-- The operation does not remove the client lineage. -/
def PredictionOp.Keeps {S D E I R : Type} (key : ReplicationLineageKey) :
    PredictionOp S D E I R → Prop
  | client (.removeLineage k) => k ≠ key
  | _ => True

/-- A prediction, its client set, and the log of the run, newest event first. -/
structure PredictionRun (S I : Type) where
  replication : ClientReplicationSet S
  prediction : PredictionLineage I
  log : List (PredictionEvent I)

namespace PredictionRun

variable {S D E I R : Type}

def start (key : ReplicationLineageKey) (clientLimits : ClientAggregateLimits)
    (limits : PredictionLimits) : PredictionRun S I :=
  ⟨.new clientLimits, .new key limits, []⟩

/-! ### What an operation adds to the log -/

/-- The lineage at `key` needs a full snapshot. -/
def requiredEvents (replication : ClientReplicationSet S) (key : ReplicationLineageKey) :
    List (PredictionEvent I) :=
  match replication.lineages.get? key with
  | some l => if l.state = .synchronized then [] else [.required]
  | none => []

def clientEvents (key : ReplicationLineageKey) (op : ClientOp S D E) (reply : ClientReply S E)
    (replication : ClientReplicationSet S) : List (PredictionEvent I) :=
  if op.key = key then
    match reply with
    | .applied (.ok (.committed c)) _ => [.committed c]
    | _ => requiredEvents replication key
  else []

/-- A failure is an event of a prediction that has not ended for good. -/
def failureEvents (l : PredictionLineage I) (failure : PredictionFailure) :
    List (PredictionEvent I) := if l.terminalReason.isNone then [.failed failure] else []

def outcomeEvents : Except (PredictionReconciliationError R) PredictionReconciliationOutcome →
    List (PredictionEvent I)
  | .ok (.activatedFromAuthoritative _) => [.activated]
  | .error (.replayFailed _ _) => [.failed .replayFailure]
  | _ => []

def replayEvents (calls : List (SimulationTick × I)) : List (PredictionEvent I) :=
  calls.reverse.map fun c => .replayed c.1 c.2

def step [DecidableEq I] (t : PredictionRun S I) :
    PredictionOp S D E I R → Checked (PredictionRun S I)
  | .client op => do
    let (reply, replication) ← t.replication.exec op
    return ⟨replication, t.prediction,
      clientEvents t.prediction.key op reply replication ++ t.log⟩
  | .admitLocal targetTick input accountedBytes =>
    match t.prediction.admitLocal targetTick input accountedBytes with
    | (.inputAccepted, l) => .ok ⟨t.replication, l, .admitted targetTick input :: t.log⟩
    | (_, l) => .ok ⟨t.replication, l, t.log⟩
  | .connectionLost => .ok ⟨t.replication, t.prediction.connectionLost,
      failureEvents t.prediction .connectionLoss ++ t.log⟩
  | .localApplicationFailed => .ok ⟨t.replication, t.prediction.localApplicationFailed,
      failureEvents t.prediction .localApplicationFailure ++ t.log⟩
  | .participantMembershipEnded =>
    .ok ⟨t.replication, t.prediction.participantMembershipEnded, t.log⟩
  | .sessionClosed => .ok ⟨t.replication, t.prediction.sessionClosed, t.log⟩
  | .invalidateForRecovery reason =>
    .ok ⟨t.replication, t.prediction.invalidateForRecovery reason, t.log⟩
  | .requireConnectionReplacementFull =>
    match t.prediction.requireConnectionReplacementFull t.replication with
    | (.ok (), l, replication) =>
      .ok ⟨replication, l, requiredEvents replication t.prediction.key ++ t.log⟩
    | (.error _, l, replication) => .ok ⟨replication, l, t.log⟩
  | .confirmHostRestoredAfterPredictionFailure => do
    match ← t.prediction.confirmHostRestoredAfterPredictionFailure t.replication with
    | (.ok _, l) => return ⟨t.replication, l, .activated :: .confirmed :: t.log⟩
    | (.error _, l) => return ⟨t.replication, l, t.log⟩
  | .observeReplication replay =>
    let o := t.prediction.observeReplication t.replication replay
    .ok ⟨t.replication, o.lineage, outcomeEvents o.result ++ (replayEvents o.replayed ++ t.log)⟩

def run [DecidableEq I] (key : ReplicationLineageKey) (clientLimits : ClientAggregateLimits)
    (limits : PredictionLimits) (ops : List (PredictionOp S D E I R)) :
    Checked (PredictionRun S I) := ops.foldlM step (start key clientLimits limits)

end PredictionRun

/-! ### The properties -/

/-- The newest admission at `tick` is of `input`, and the lineage has not needed a full snapshot
since. -/
def Replayable {I : Type} (tick : SimulationTick) (input : I) : List (PredictionEvent I) → Prop
  | [] => False
  | .admitted t i :: log => (t = tick ∧ i = input) ∨ (t ≠ tick ∧ Replayable tick input log)
  | .required :: _ => False
  | _ :: log => Replayable tick input log

/-- An input is replayed only while it is replayable. -/
def Barrier {I : Type} : List (PredictionEvent I) → Prop
  | [] => True
  | .replayed tick input :: log => Replayable tick input log ∧ Barrier log
  | _ :: log => Barrier log

/-- What allows a prediction to become active after a failure: a commit, or for a failure of the
host's own state its confirmation that the state is restored. -/
def Redeems {I : Type} (failure : PredictionFailure) : PredictionEvent I → Prop
  | .committed _ => True
  | .confirmed => failure ≠ .connectionLoss
  | _ => False

/-- The failure happened and nothing has redeemed it since. -/
def Awaits {I : Type} (failure : PredictionFailure) : List (PredictionEvent I) → Prop
  | [] => False
  | e :: log => e = .failed failure ∨ (¬ Redeems failure e ∧ Awaits failure log)

/-- The prediction never became active while a failure was not redeemed. -/
def NoStaleActivation {I : Type} : List (PredictionEvent I) → Prop
  | [] => True
  | .activated :: log => (∀ failure, ¬ Awaits failure log) ∧ NoStaleActivation log
  | _ :: log => NoStaleActivation log

/-! ### When a prediction restarts -/

namespace PredictionLineage

variable {I S : Type}

/-- The lineage has recorded a recovery boundary that the prediction has not observed. -/
def Unobserved (p : PredictionLineage I) (lineage : ClientLineage S) : Prop :=
  ∃ b, lineage.recoveryCursor = some b ∧ ∀ o, p.lastObservedRecoveryBoundary = some o → o < b

/-- The prediction was invalidated for want of a baseline, and by no failure since. -/
def awaitsBaseline (p : PredictionLineage I) : Bool :=
  match p.state with
  | .invalidated .initialBaseline _ => true
  | .invalidated (.replicationRecovery _) _ => true
  | _ => false

/-- The lineage is synchronized, at a commit newer than the last one observed. -/
def NewCommit (p : PredictionLineage I) (lineage : ClientLineage S) : Prop :=
  lineage.state = .synchronized ∧
    ∃ c, lineage.current = some c ∧ ∀ o, p.lastObservedCommit = some o → o < c

/-- An observation makes the prediction active. -/
def Restarts (p : PredictionLineage I) (lineage : ClientLineage S) : Prop :=
  p.NewCommit lineage ∧ p.terminalReason = none ∧
    (p.awaitsBaseline = true ∨ p.Unobserved lineage)

end PredictionLineage

/-- A failure is not redeemed, and the operation makes the prediction active all the same: an
observation of a commit from before the failure when the reason is no longer the failure or a
recovery boundary hides it, or a confirmation after a connection loss that a failure of the host
has overwritten. -/
def PredictionRun.Stale {S D E I R : Type} (t : PredictionRun S I) :
    PredictionOp S D E I R → Prop
  | .observeReplication _ => (∃ failure, Awaits failure t.log) ∧
    ∃ l, t.replication.lineages.get? t.prediction.key = some l ∧ t.prediction.Restarts l
  | .confirmHostRestoredAfterPredictionFailure => Awaits .connectionLoss t.log ∧
    t.prediction.hostStateFailed = true ∧
    ∃ l, t.replication.lineages.get? t.prediction.key = some l ∧ l.state = .synchronized
  | _ => False

end RunenNet
