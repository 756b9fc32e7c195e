import RunenNet.Core.Replication.Model

/-!
# Authority replication

One `AuthorityLineage` prepares snapshots, records their emission, classifies
acknowledgements and decides when a full snapshot is required. The session owns the lineages
of all participants and their aggregate limits.
-/

namespace RunenNet

open Foundation

inductive SnapshotKind where
  | full
  | delta
  deriving DecidableEq, Repr

inductive AuthorityRecoveryReason where
  | initialBaseline
  | recoveryDemand
  | baselineEvicted
  | confirmedBaselineUnavailable
  | connectionReplacement
  deriving DecidableEq, Repr

inductive AuthorityReplicationState where
  | deltaEligible (base : ReplicationCursor)
  | fullSnapshotRequired (reason : AuthorityRecoveryReason) (generation : RecoveryGeneration)
      (startCursorWatermark : Option ReplicationCursor)
  deriving DecidableEq, Repr

inductive AuthorityPrepareError where
  | pendingCandidateExists
  | cursorNotNewer
  | tickRegression
  | deltaNotEligible
  | baselineUnavailable
  | candidateTooLarge
  | recoveryDesignationRequiresRecovery
  | recoveryFullNotNewerThanWatermark
  deriving DecidableEq, Repr

inductive AuthorityOperationError where
  | unauthorized
  | noPendingCandidate
  | recoveryGenerationExhausted
  deriving DecidableEq, Repr

inductive AuthorityAckOutcome where
  | duplicateConfirmation
  | staleConfirmation
  | confirmed
  | futureConfirmation
  | unverifiableConfirmation
  deriving DecidableEq, Repr

inductive AuthoritySessionError where
  | lineageAlreadyExists
  | unknownLineage
  | aggregateResourceLimitExceeded
  | prepare (e : AuthorityPrepareError)
  | operation (e : AuthorityOperationError)
  deriving DecidableEq, Repr

structure PendingSnapshotSummary where
  kind : SnapshotKind
  baseCursor : Option ReplicationCursor
  targetCursor : ReplicationCursor
  targetTick : SimulationTick
  recoveryGeneration : Option RecoveryGeneration
  deriving DecidableEq, Repr

structure EmittedSnapshot where
  kind : SnapshotKind
  baseCursor : Option ReplicationCursor
  targetCursor : ReplicationCursor
  targetTick : SimulationTick
  recoveryGeneration : Option RecoveryGeneration
  deriving DecidableEq, Repr

/-- What is remembered of one emission, to classify its acknowledgement. -/
structure EmissionEvidence where
  kind : SnapshotKind
  recoveryGeneration : Option RecoveryGeneration
  deriving DecidableEq, Repr

inductive SnapshotCandidate (S D : Type) where
  | full (snapshot : FullSnapshot S) (recoveryGeneration : Option RecoveryGeneration)
  | delta (baseCursor targetCursor : ReplicationCursor) (targetTick : SimulationTick)
      (targetImage : AccountedState S) (delta : D) (additionalCandidateBytes : Nat)
  deriving DecidableEq, Repr

namespace SnapshotCandidate

variable {S D : Type}

def stateBytes : SnapshotCandidate S D → Nat
  | full snapshot _ => snapshot.image.accountedBytes
  | delta _ _ _ image _ _ => image.accountedBytes

def totalCandidateBytes : SnapshotCandidate S D → Nat
  | full snapshot _ => snapshot.image.accountedBytes
  | delta _ _ _ image _ additional => saturatingAdd usizeMax image.accountedBytes additional

def targetCursor : SnapshotCandidate S D → ReplicationCursor
  | full snapshot _ => snapshot.targetCursor
  | delta _ target _ _ _ _ => target

def targetTick : SnapshotCandidate S D → SimulationTick
  | full snapshot _ => snapshot.targetTick
  | delta _ _ tick _ _ _ => tick

def targetImage : SnapshotCandidate S D → AccountedState S
  | full snapshot _ => snapshot.image
  | delta _ _ _ image _ _ => image

def kind : SnapshotCandidate S D → SnapshotKind
  | full _ _ => .full
  | delta .. => .delta

def baseCursor : SnapshotCandidate S D → Option ReplicationCursor
  | full _ _ => none
  | delta base _ _ _ _ _ => some base

def recoveryGeneration : SnapshotCandidate S D → Option RecoveryGeneration
  | full _ generation => generation
  | delta .. => none

/-- The summary `pending_summary` reports for a candidate. -/
def summary (c : SnapshotCandidate S D) : PendingSnapshotSummary :=
  ⟨c.kind, c.baseCursor, c.targetCursor, c.targetTick, c.recoveryGeneration⟩

end SnapshotCandidate

structure AuthorityLineage (S D : Type) where
  key : ReplicationLineageKey
  limits : ReplicationRetentionLimits
  state : AuthorityReplicationState
  generation : RecoveryGeneration
  latestConfirmed : Option ReplicationCursor
  greatestEmitted : Option ReplicationCursor
  greatestEmittedTick : Option SimulationTick
  retained : RetainedImages S
  retainedBytes : Nat
  evidence : SortedMap ReplicationCursor EmissionEvidence
  pending : Option (SnapshotCandidate S D)

namespace AuthorityLineage

variable {S D : Type}

def new (key : ReplicationLineageKey) (limits : ReplicationRetentionLimits) :
    AuthorityLineage S D where
  key := key
  limits := limits
  state := .fullSnapshotRequired .initialBaseline ⟨0⟩ none
  generation := ⟨0⟩
  latestConfirmed := none
  greatestEmitted := none
  greatestEmittedTick := none
  retained := .empty
  retainedBytes := 0
  evidence := .empty
  pending := none

def baselineAvailable (l : AuthorityLineage S D) (cursor : ReplicationCursor) : Bool :=
  l.retained.contains cursor

def retainedImageCount (l : AuthorityLineage S D) : Nat := l.retained.size

def emissionEvidenceCount (l : AuthorityLineage S D) : Nat := l.evidence.size

def pendingStateBytes (l : AuthorityLineage S D) : Nat :=
  (l.pending.map SnapshotCandidate.stateBytes).getD 0

def pendingCandidateBytes (l : AuthorityLineage S D) : Nat :=
  (l.pending.map SnapshotCandidate.totalCandidateBytes).getD 0

def hasPending (l : AuthorityLineage S D) : Bool := l.pending.isSome

/-! ### Preparing -/

def requireCandidateSlot (l : AuthorityLineage S D) : Except AuthorityPrepareError Unit :=
  if l.pending.isSome then .error .pendingCandidateExists else .ok ()

def validateNewEmissionTarget (l : AuthorityLineage S D) (cursor : ReplicationCursor)
    (tick : SimulationTick) : Except AuthorityPrepareError Unit :=
  if l.greatestEmitted.any (fun greatest => cursor ≤ greatest) then .error .cursorNotNewer
  else if l.greatestEmittedTick.any (fun greatest => tick < greatest) then .error .tickRegression
  else .ok ()

def candidateFits (l : AuthorityLineage S D) (stateBytes additionalBytes : Nat) : Bool :=
  let max := l.limits.maxCandidateBytesPerLineage.get
  if stateBytes > l.limits.maxStateImageBytes.get then false
  else stateBytes ≤ max && additionalBytes ≤ max - stateBytes

/-- The generation a full snapshot is designated for, or why it cannot be. -/
def recoveryDesignation (l : AuthorityLineage S D) (target : ReplicationCursor)
    (designate : Bool) : Except AuthorityPrepareError (Option RecoveryGeneration) :=
  if designate then
    match l.state with
    | .fullSnapshotRequired _ generation watermark =>
      if watermark.any (fun w => target ≤ w) then .error .recoveryFullNotNewerThanWatermark
      else .ok (some generation)
    | .deltaEligible _ => .error .recoveryDesignationRequiresRecovery
  else .ok none

def prepareFull (l : AuthorityLineage S D) (snapshot : FullSnapshot S) (designate : Bool) :
    Except AuthorityPrepareError PendingSnapshotSummary × AuthorityLineage S D :=
  match l.requireCandidateSlot with
  | .error e => (.error e, l)
  | .ok () => match l.validateNewEmissionTarget snapshot.targetCursor snapshot.targetTick with
    | .error e => (.error e, l)
    | .ok () =>
      if ¬ l.candidateFits snapshot.image.accountedBytes 0 then (.error .candidateTooLarge, l)
      else match l.recoveryDesignation snapshot.targetCursor designate with
        | .error e => (.error e, l)
        | .ok generation =>
          let candidate := SnapshotCandidate.full snapshot generation
          (.ok candidate.summary, { l with pending := some candidate })

def prepareDelta (l : AuthorityLineage S D) (target : ReplicationCursor) (tick : SimulationTick)
    (image : AccountedState S) (delta : D) (additional : Nat) :
    Except AuthorityPrepareError PendingSnapshotSummary × AuthorityLineage S D :=
  match l.requireCandidateSlot with
  | .error e => (.error e, l)
  | .ok () => match l.state with
    | .fullSnapshotRequired .. => (.error .deltaNotEligible, l)
    | .deltaEligible baseCursor => match l.retained.get? baseCursor with
      | none => (.error .baselineUnavailable, l)
      | some base =>
        if target ≤ baseCursor then (.error .cursorNotNewer, l)
        else match l.validateNewEmissionTarget target tick with
          | .error e => (.error e, l)
          | .ok () =>
            if tick < base.tick then (.error .tickRegression, l)
            else if ¬ l.candidateFits image.accountedBytes additional then
              (.error .candidateTooLarge, l)
            else
              let candidate := SnapshotCandidate.delta baseCursor target tick image delta additional
              (.ok candidate.summary, { l with pending := some candidate })

def cancelPending (l : AuthorityLineage S D) : Bool × AuthorityLineage S D :=
  (l.pending.isSome, { l with pending := none })

/-! ### Emitting -/

/-- The condition of the retention loop; the subtraction runs only below the image limit. -/
def overRetention (l : AuthorityLineage S D) (targetBytes : Nat) : Checked Bool :=
  if l.retained.size ≥ l.limits.maxRetainedImagesPerLineage.get then .ok true
  else do
    let room ← Checked.sub l.limits.maxRetainedStateBytesPerLineage.get targetBytes
    return l.retainedBytes > room

/-- The cursor the retention loop must keep: the current delta base. -/
def protectedCursor (l : AuthorityLineage S D) : Option ReplicationCursor :=
  match l.state with
  | .deltaEligible base => some base
  | .fullSnapshotRequired .. => none

/-- The retention loop, oldest image first. The flag says whether the new image now fits;
`bound` iterations are enough when it exceeds the number of images. -/
def evictForRetention (targetBytes : Nat) :
    (bound : Nat) → AuthorityLineage S D → Checked (Bool × AuthorityLineage S D)
  | 0, _ => .error .divergence
  | bound + 1, l => do
    if ← l.overRetention targetBytes then
      match l.retained.keys.find? (fun existing => some existing ≠ l.protectedCursor) with
      | none => return (false, l)
      | some evict =>
        let removed ← Checked.expect "cursor selected from retained map" (l.retained.get? evict)
        let bytes ← Checked.sub l.retainedBytes removed.image.accountedBytes
        evictForRetention targetBytes bound
          { l with retained := l.retained.erase evict, retainedBytes := bytes }
    else return (true, l)

def retainAuthorityState (l : AuthorityLineage S D) (cursor : ReplicationCursor)
    (tick : SimulationTick) (image : AccountedState S) : Checked (AuthorityLineage S D) := do
  match ← evictForRetention image.accountedBytes (l.retained.size + 1) l with
  | (false, l) => return l
  | (true, l) =>
    let bytes ← Checked.add l.retainedBytes image.accountedBytes
    Checked.assert (l.retained.get? cursor).isNone
    return { l with retained := l.retained.insert cursor ⟨tick, image⟩, retainedBytes := bytes }

/-- Drops the oldest evidence until fewer than `max` entries are left. -/
def evictEvidence (max : Nat) :
    (bound : Nat) → SortedMap ReplicationCursor EmissionEvidence →
      Checked (SortedMap ReplicationCursor EmissionEvidence)
  | 0, _ => .error .divergence
  | bound + 1, evidence =>
    if evidence.size ≥ max then do
      let oldest ← Checked.expect "non-empty while at evidence limit" evidence.min?
      evictEvidence max bound (evidence.erase oldest.1)
    else .ok evidence

def retainEmissionEvidence (l : AuthorityLineage S D) (cursor : ReplicationCursor)
    (e : EmissionEvidence) : Checked (AuthorityLineage S D) := do
  let evidence ← evictEvidence l.limits.maxEmissionEvidencePerLineage.get
    (l.evidence.size + 1) l.evidence
  return { l with evidence := evidence.insert cursor e }

def recordEmittedState (l : AuthorityLineage S D) (cursor : ReplicationCursor)
    (tick : SimulationTick) (image : AccountedState S) (kind : SnapshotKind)
    (generation : Option RecoveryGeneration) : Checked (AuthorityLineage S D) := do
  let l := { l with greatestEmitted := some cursor, greatestEmittedTick := some tick }
  let l ← l.retainAuthorityState cursor tick image
  l.retainEmissionEvidence cursor ⟨kind, generation⟩

def recordDeliveryAcceptance (l : AuthorityLineage S D) (acceptance : DeliveryAcceptance) :
    Checked (Except AuthorityOperationError (Option EmittedSnapshot) × AuthorityLineage S D) :=
  match acceptance with
  | .notAccepted => .ok (.ok none, l)
  | .accepted => match l.pending with
    | none => .ok (.error .noPendingCandidate, l)
    | some (.full snapshot generation) => do
      let l ← { l with pending := none }.recordEmittedState snapshot.targetCursor
        snapshot.targetTick snapshot.image .full generation
      return (.ok (some ⟨.full, none, snapshot.targetCursor, snapshot.targetTick, generation⟩), l)
    | some (.delta base target tick image _ _) => do
      let l ← { l with pending := none }.recordEmittedState target tick image .delta none
      return (.ok (some ⟨.delta, some base, target, tick, none⟩), l)

/-! ### Recovery and acknowledgement -/

def installNewRecovery (l : AuthorityLineage S D) (reason : AuthorityRecoveryReason)
    (generation : RecoveryGeneration) : AuthorityLineage S D :=
  { l with
    pending := none
    generation := generation
    state := .fullSnapshotRequired reason generation l.greatestEmitted }

def authorizes (l : AuthorityLineage S D) (session : Session) (c : ConnectionHandle) : Bool :=
  session.id = l.key.session && session.isAuthorized l.key.participant c

/-- The part of `acknowledge_authorized` after authorization and the cursor comparisons:
`cursor` is newer than the latest confirmation and has `evidence`. -/
def confirm (l : AuthorityLineage S D) (cursor : ReplicationCursor) (evidence : EmissionEvidence) :
    Except AuthorityOperationError AuthorityAckOutcome × AuthorityLineage S D :=
  match l.state with
  | .deltaEligible _ =>
    if l.baselineAvailable cursor then
      (.ok .confirmed, { l with latestConfirmed := some cursor, state := .deltaEligible cursor })
    else match RecoveryGeneration.checkedNext l.generation with
      | none => (.error .recoveryGenerationExhausted, l)
      | some next => (.ok .confirmed,
          { l with latestConfirmed := some cursor }.installNewRecovery
            .confirmedBaselineUnavailable next)
  | .fullSnapshotRequired _ generation _ =>
    if evidence.kind = .full ∧ evidence.recoveryGeneration = some generation ∧
        l.baselineAvailable cursor then
      (.ok .confirmed, { l with latestConfirmed := some cursor, state := .deltaEligible cursor })
    else (.ok .confirmed, { l with latestConfirmed := some cursor })

def acknowledgeAuthorized (l : AuthorityLineage S D) (session : Session) (c : ConnectionHandle)
    (cursor : ReplicationCursor) :
    Except AuthorityOperationError AuthorityAckOutcome × AuthorityLineage S D :=
  if ¬ l.authorizes session c then (.error .unauthorized, l)
  else if l.latestConfirmed = some cursor then (.ok .duplicateConfirmation, l)
  else if l.latestConfirmed.any (fun latest => cursor < latest) then (.ok .staleConfirmation, l)
  else if l.greatestEmitted.all (fun greatest => cursor > greatest) then
    (.ok .futureConfirmation, l)
  else match l.evidence.get? cursor with
    | none => (.ok .unverifiableConfirmation, l)
    | some evidence => l.confirm cursor evidence

def requireFullRecovery (l : AuthorityLineage S D) (reason : AuthorityRecoveryReason) :
    Except AuthorityOperationError Unit × AuthorityLineage S D :=
  match l.state with
  | .fullSnapshotRequired .. => (.ok (), l)
  | .deltaEligible _ => match RecoveryGeneration.checkedNext l.generation with
    | none => (.error .recoveryGenerationExhausted, l)
    | some next => (.ok (), l.installNewRecovery reason next)

def connectionReplaced (l : AuthorityLineage S D) (session : Session) (c : ConnectionHandle) :
    Except AuthorityOperationError Unit × AuthorityLineage S D :=
  if ¬ l.authorizes session c then (.error .unauthorized, l)
  else match RecoveryGeneration.checkedNext l.generation with
    | none => (.error .recoveryGenerationExhausted, l)
    | some next => (.ok (), l.installNewRecovery .connectionReplacement next)

def evictRetainedState (l : AuthorityLineage S D) (cursor : ReplicationCursor) :
    Checked (Except AuthorityOperationError Bool × AuthorityLineage S D) :=
  if l.state = .deltaEligible cursor then
    match RecoveryGeneration.checkedNext l.generation with
    | none => .ok (.error .recoveryGenerationExhausted, l)
    | some next => match l.retained.get? cursor with
      | none => .ok (.ok false, l)
      | some removed => do
        let bytes ← Checked.sub l.retainedBytes removed.image.accountedBytes
        return (.ok true,
          { l with retained := l.retained.erase cursor, retainedBytes := bytes }.installNewRecovery
            .baselineEvicted next)
  else match l.retained.get? cursor with
    | none => .ok (.ok false, l)
    | some removed => do
      let bytes ← Checked.sub l.retainedBytes removed.image.accountedBytes
      return (.ok true, { l with retained := l.retained.erase cursor, retainedBytes := bytes })

end AuthorityLineage

/-! ### The session of lineages -/

structure AuthorityReplicationSession (S D : Type) where
  sessionId : SessionId
  limits : AuthorityAggregateLimits
  lineages : SortedMap ParticipantId (AuthorityLineage S D)

/-- A sum in checked arithmetic. -/
def checkedTotal (l : List Nat) : Option Nat := l.foldlM (checkedAdd usizeMax) 0

theorem foldlM_checkedAdd {l : List Nat} {a b : Nat} (ha : a ≤ usizeMax) :
    l.foldlM (checkedAdd usizeMax) a = some b ↔ a + l.sum ≤ usizeMax ∧ b = a + l.sum := by
  induction l generalizing a with
  | nil => simp [ha, eq_comm]
  | cons x l ih =>
    rw [List.foldlM_cons, List.sum_cons, ← Nat.add_assoc]
    by_cases hx : a + x ≤ usizeMax
    · rw [checkedAdd, if_pos hx]
      exact ih hx
    · rw [checkedAdd, if_neg hx]
      constructor
      · intro h; cases h
      · intro h; omega

theorem checkedTotal_eq_some {l : List Nat} {n : Nat} :
    checkedTotal l = some n ↔ l.sum ≤ usizeMax ∧ n = l.sum := by
  unfold checkedTotal
  rw [foldlM_checkedAdd (Nat.zero_le _), Nat.zero_add]

theorem checkedTotal_sum {l : List Nat} (h : l.sum ≤ usizeMax) : checkedTotal l = some l.sum :=
  checkedTotal_eq_some.mpr ⟨h, rfl⟩

namespace AuthorityReplicationSession

variable {S D : Type}

def new (sessionId : SessionId) (limits : AuthorityAggregateLimits) :
    AuthorityReplicationSession S D := ⟨sessionId, limits, .empty⟩

/-- The checked sum of a measure over the lineages. -/
def checkedSum (s : AuthorityReplicationSession S D) (measure : AuthorityLineage S D → Nat) :
    Option Nat := checkedTotal (s.lineages.values.map measure)

def checkedRetainedImageCount (s : AuthorityReplicationSession S D) : Option Nat :=
  s.checkedSum AuthorityLineage.retainedImageCount

def checkedRetainedStateBytes (s : AuthorityReplicationSession S D) : Option Nat :=
  s.checkedSum AuthorityLineage.retainedBytes

def checkedEmissionEvidenceCount (s : AuthorityReplicationSession S D) : Option Nat :=
  s.checkedSum AuthorityLineage.emissionEvidenceCount

def checkedPendingStateBytes (s : AuthorityReplicationSession S D) : Option Nat :=
  s.checkedSum AuthorityLineage.pendingStateBytes

def checkedPendingCandidateBytes (s : AuthorityReplicationSession S D) : Option Nat :=
  s.checkedSum AuthorityLineage.pendingCandidateBytes

def checkedAccountedStateBytes (s : AuthorityReplicationSession S D) : Option Nat := do
  let retained ← s.checkedRetainedStateBytes
  let pending ← s.checkedPendingCandidateBytes
  checkedAdd usizeMax retained pending

def aggregateReservationsFit (s : AuthorityReplicationSession S D) : Bool :=
  let pendingCount := (s.lineages.values.filter AuthorityLineage.hasPending).length
  let fits : Option Bool := do
    let accountedStateBytes ← s.checkedAccountedStateBytes
    let retainedImageCount ← s.checkedRetainedImageCount
    let retainedStateBytes ← s.checkedRetainedStateBytes
    let pendingTargetStateBytes ← s.checkedPendingStateBytes
    let emissionEvidenceCount ← s.checkedEmissionEvidenceCount
    let projectedImageCount ← checkedAdd usizeMax retainedImageCount pendingCount
    let projectedRetainedStateBytes ←
      checkedAdd usizeMax retainedStateBytes pendingTargetStateBytes
    let projectedEvidenceCount ← checkedAdd usizeMax emissionEvidenceCount pendingCount
    return accountedStateBytes ≤ s.limits.maxStateBytes.get
      && projectedImageCount ≤ s.limits.maxRetainedImages.get
      && projectedRetainedStateBytes ≤ s.limits.maxRetainedStateBytes.get
      && projectedEvidenceCount ≤ s.limits.maxEmissionEvidence.get
  fits.getD false

def addLineage (s : AuthorityReplicationSession S D) (p : ParticipantId)
    (retention : ReplicationRetentionLimits) :
    Except AuthoritySessionError ReplicationLineageKey × AuthorityReplicationSession S D :=
  if s.lineages.contains p then (.error .lineageAlreadyExists, s)
  else if s.lineages.size ≥ s.limits.maxLineages.get then
    (.error .aggregateResourceLimitExceeded, s)
  else
    let key := ⟨s.sessionId, p⟩
    (.ok key, { s with lineages := s.lineages.insert p (.new key retention) })

def removeLineage (s : AuthorityReplicationSession S D) (p : ParticipantId) :
    Bool × AuthorityReplicationSession S D :=
  (s.lineages.contains p, { s with lineages := s.lineages.erase p })

/-- The session with one lineage replaced. -/
def setLineage (s : AuthorityReplicationSession S D) (p : ParticipantId)
    (l : AuthorityLineage S D) : AuthorityReplicationSession S D :=
  { s with lineages := s.lineages.insert p l }

/-- The aggregate check after a prepare; a candidate that does not fit is cancelled. -/
def reserve (s : AuthorityReplicationSession S D) (p : ParticipantId) :
    Except AuthorityPrepareError PendingSnapshotSummary × AuthorityLineage S D →
      Except AuthoritySessionError PendingSnapshotSummary × AuthorityReplicationSession S D
  | (.error e, l) => (.error (.prepare e), s.setLineage p l)
  | (.ok summary, l) =>
    if (s.setLineage p l).aggregateReservationsFit then (.ok summary, s.setLineage p l)
    else (.error .aggregateResourceLimitExceeded, s.setLineage p l.cancelPending.2)

def prepareFull (s : AuthorityReplicationSession S D) (p : ParticipantId)
    (snapshot : FullSnapshot S) (designate : Bool) :
    Except AuthoritySessionError PendingSnapshotSummary × AuthorityReplicationSession S D :=
  match s.lineages.get? p with
  | none => (.error .unknownLineage, s)
  | some l => s.reserve p (l.prepareFull snapshot designate)

def prepareDelta (s : AuthorityReplicationSession S D) (p : ParticipantId)
    (target : ReplicationCursor) (tick : SimulationTick) (image : AccountedState S) (delta : D)
    (additional : Nat) :
    Except AuthoritySessionError PendingSnapshotSummary × AuthorityReplicationSession S D :=
  match s.lineages.get? p with
  | none => (.error .unknownLineage, s)
  | some l => s.reserve p (l.prepareDelta target tick image delta additional)

/-- The result of a lineage operation, lifted to the session. -/
def lift {α : Type} (s : AuthorityReplicationSession S D) (p : ParticipantId) :
    Except AuthorityOperationError α × AuthorityLineage S D →
      Except AuthoritySessionError α × AuthorityReplicationSession S D
  | (r, l) => (r.mapError .operation, s.setLineage p l)

def recordDeliveryAcceptance (s : AuthorityReplicationSession S D) (p : ParticipantId)
    (acceptance : DeliveryAcceptance) :
    Checked (Except AuthoritySessionError (Option EmittedSnapshot) ×
      AuthorityReplicationSession S D) :=
  match s.lineages.get? p with
  | none => .ok (.error .unknownLineage, s)
  | some l => do return s.lift p (← l.recordDeliveryAcceptance acceptance)

def cancelPending (s : AuthorityReplicationSession S D) (p : ParticipantId) :
    Except AuthoritySessionError Bool × AuthorityReplicationSession S D :=
  match s.lineages.get? p with
  | none => (.error .unknownLineage, s)
  | some l => (.ok l.cancelPending.1, s.setLineage p l.cancelPending.2)

def acknowledgeAuthorized (s : AuthorityReplicationSession S D) (session : Session)
    (c : ConnectionHandle) (p : ParticipantId) (cursor : ReplicationCursor) :
    Except AuthoritySessionError AuthorityAckOutcome × AuthorityReplicationSession S D :=
  match s.lineages.get? p with
  | none => (.error .unknownLineage, s)
  | some l => s.lift p (l.acknowledgeAuthorized session c cursor)

def requireFullRecovery (s : AuthorityReplicationSession S D) (p : ParticipantId)
    (reason : AuthorityRecoveryReason) :
    Except AuthoritySessionError Unit × AuthorityReplicationSession S D :=
  match s.lineages.get? p with
  | none => (.error .unknownLineage, s)
  | some l => s.lift p (l.requireFullRecovery reason)

def connectionReplaced (s : AuthorityReplicationSession S D) (session : Session)
    (c : ConnectionHandle) (p : ParticipantId) :
    Except AuthoritySessionError Unit × AuthorityReplicationSession S D :=
  match s.lineages.get? p with
  | none => (.error .unknownLineage, s)
  | some l => s.lift p (l.connectionReplaced session c)

def evictRetainedState (s : AuthorityReplicationSession S D) (p : ParticipantId)
    (cursor : ReplicationCursor) :
    Checked (Except AuthoritySessionError Bool × AuthorityReplicationSession S D) :=
  match s.lineages.get? p with
  | none => .ok (.error .unknownLineage, s)
  | some l => do return s.lift p (← l.evictRetainedState cursor)

end AuthorityReplicationSession

end RunenNet
