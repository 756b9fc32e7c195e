import RunenNet.Core.Replication.AuthoritySafety

/-!
# Runs of an authority session

The operations of a session act on one lineage at a time. An operation on the lineage of a
participant is the lineage operation of the same name, after which a prepared candidate may be
cancelled because the aggregate limits do not fit it.
-/

namespace RunenNet

open Foundation

inductive AuthoritySessionOp (S D : Type) where
  | addLineage (p : ParticipantId) (retention : ReplicationRetentionLimits)
  | removeLineage (p : ParticipantId)
  | lineage (p : ParticipantId) (op : AuthorityOp S D)

/-- The result of an operation. -/
inductive AuthoritySessionReply where
  | added (r : Except AuthoritySessionError ReplicationLineageKey)
  | removed (r : Bool)
  | prepared (r : Except AuthoritySessionError PendingSnapshotSummary)
  | recorded (r : Except AuthoritySessionError (Option EmittedSnapshot))
  | cancelled (r : Except AuthoritySessionError Bool)
  | acknowledged (r : Except AuthoritySessionError AuthorityAckOutcome)
  | required (r : Except AuthoritySessionError Unit)
  | evicted (r : Except AuthoritySessionError Bool)

namespace AuthoritySessionOp

variable {S D : Type}

/-- The participant whose lineage an operation names. -/
def participant : AuthoritySessionOp S D → ParticipantId
  | addLineage p _ => p
  | removeLineage p => p
  | lineage p _ => p

end AuthoritySessionOp

namespace AuthorityReplicationSession

variable {S D : Type}

/-- A lineage operation through the session. -/
def execLineage (s : AuthorityReplicationSession S D) (p : ParticipantId) :
    AuthorityOp S D → Checked (AuthoritySessionReply × AuthorityReplicationSession S D)
  | .prepareFull snapshot designate =>
    let (r, s) := s.prepareFull p snapshot designate
    .ok (.prepared r, s)
  | .prepareDelta target tick image delta additional =>
    let (r, s) := s.prepareDelta p target tick image delta additional
    .ok (.prepared r, s)
  | .recordDeliveryAcceptance acceptance => do
    let (r, s) ← s.recordDeliveryAcceptance p acceptance
    return (.recorded r, s)
  | .cancelPending =>
    let (r, s) := s.cancelPending p
    .ok (.cancelled r, s)
  | .acknowledgeAuthorized session connection cursor =>
    let (r, s) := s.acknowledgeAuthorized session connection p cursor
    .ok (.acknowledged r, s)
  | .requireFullRecovery reason =>
    let (r, s) := s.requireFullRecovery p reason
    .ok (.required r, s)
  | .evictRetainedState cursor => do
    let (r, s) ← s.evictRetainedState p cursor
    return (.evicted r, s)
  | .connectionReplaced session connection =>
    let (r, s) := s.connectionReplaced session connection p
    .ok (.required r, s)

def exec (s : AuthorityReplicationSession S D) :
    AuthoritySessionOp S D → Checked (AuthoritySessionReply × AuthorityReplicationSession S D)
  | .addLineage p retention =>
    let (r, s) := s.addLineage p retention
    .ok (.added r, s)
  | .removeLineage p =>
    let (r, s) := s.removeLineage p
    .ok (.removed r, s)
  | .lineage p op => s.execLineage p op

/-- The candidate of `p` that an operation emitted, if it did. -/
def emittedBy (s : AuthorityReplicationSession S D) (p : ParticipantId) :
    AuthoritySessionOp S D → AuthoritySessionReply → List (SnapshotCandidate S D)
  | .lineage q (.recordDeliveryAcceptance _), .recorded (.ok (some _)) =>
    if q = p then ((s.lineages.get? p).bind AuthorityLineage.pending).toList else []
  | _, _ => []

theorem get?_setLineage_self (s : AuthorityReplicationSession S D) (p : ParticipantId)
    (l : AuthorityLineage S D) : (s.setLineage p l).lineages.get? p = some l :=
  SortedMap.get?_insert_self _ _ _

theorem get?_setLineage_ne (s : AuthorityReplicationSession S D) {p q : ParticipantId}
    (l : AuthorityLineage S D) (h : q ≠ p) :
    (s.setLineage p l).lineages.get? q = s.lineages.get? q :=
  SortedMap.get?_insert_ne _ _ h

theorem reserve_frame (s : AuthorityReplicationSession S D) {p q : ParticipantId} (h : q ≠ p)
    (r : Except AuthorityPrepareError PendingSnapshotSummary × AuthorityLineage S D) :
    (s.reserve p r).2.lineages.get? q = s.lineages.get? q := by
  unfold reserve
  split
  · exact s.get?_setLineage_ne _ h
  · split
    · exact s.get?_setLineage_ne _ h
    · exact s.get?_setLineage_ne _ h

/-- A lineage operation leaves the lineages of other participants alone. -/
theorem execLineage_frame {s s' : AuthorityReplicationSession S D} {p q : ParticipantId}
    {op : AuthorityOp S D} {reply : AuthoritySessionReply}
    (h : s.execLineage p op = .ok (reply, s')) (hq : q ≠ p) :
    s'.lineages.get? q = s.lineages.get? q := by
  cases op with
  | prepareFull snapshot designate =>
    cases h
    split
    · rfl
    · exact s.reserve_frame hq _
  | prepareDelta target tick image delta additional =>
    cases h
    split
    · rfl
    · exact s.reserve_frame hq _
  | recordDeliveryAcceptance acceptance =>
    simp only [execLineage, recordDeliveryAcceptance, Checked.bind_eq_ok] at h
    obtain ⟨⟨r, s1⟩, h1, h⟩ := h
    cases h
    split at h1
    · cases h1; rfl
    · rw [Checked.bind_eq_ok] at h1
      obtain ⟨⟨r, l⟩, -, h1⟩ := h1
      cases h1
      exact s.get?_setLineage_ne _ hq
  | cancelPending =>
    cases h
    split
    · rfl
    · exact s.get?_setLineage_ne _ hq
  | acknowledgeAuthorized session connection cursor =>
    cases h
    split
    · rfl
    · exact s.get?_setLineage_ne _ hq
  | requireFullRecovery reason =>
    cases h
    split
    · rfl
    · exact s.get?_setLineage_ne _ hq
  | evictRetainedState cursor =>
    simp only [execLineage, evictRetainedState, Checked.bind_eq_ok] at h
    obtain ⟨⟨r, s1⟩, h1, h⟩ := h
    cases h
    split at h1
    · cases h1; rfl
    · rw [Checked.bind_eq_ok] at h1
      obtain ⟨⟨r, l⟩, -, h1⟩ := h1
      cases h1
      exact s.get?_setLineage_ne _ hq
  | connectionReplaced session connection =>
    cases h
    split
    · rfl
    · exact s.get?_setLineage_ne _ hq

theorem exec_frame {s s' : AuthorityReplicationSession S D} {op : AuthoritySessionOp S D}
    {reply : AuthoritySessionReply} (h : s.exec op = .ok (reply, s')) {q : ParticipantId}
    (hq : q ≠ op.participant) : s'.lineages.get? q = s.lineages.get? q := by
  cases op with
  | addLineage p retention =>
    simp only [exec, Except.ok.injEq, Prod.mk.injEq] at h
    obtain ⟨-, rfl⟩ := h
    unfold addLineage
    split
    · rfl
    · split
      · rfl
      · exact SortedMap.get?_insert_ne _ _ hq
  | removeLineage p => cases h; exact SortedMap.get?_erase_ne _ hq
  | lineage p op => exact execLineage_frame h hq

end AuthorityReplicationSession

namespace AuthorityTrace

variable {S D : Type}

/-- A session operation on `p` follows the lineage operation of the same name; after a prepare
the candidate may be gone again. -/
structure Follows (t : AuthorityTrace S D) (s s' : AuthorityReplicationSession S D)
    (p : ParticipantId) (op : AuthorityOp S D) (reply : AuthoritySessionReply)
    (t' : AuthorityTrace S D) : Prop where
  exec : t.exec op = .ok t'
  lineage : s'.lineages.get? p = some t'.lineage ∨
    s'.lineages.get? p = some t'.lineage.cancelPending.2
  emissions : t'.emissions.map Emission.candidate
    = t.emissions.map Emission.candidate ++ s.emittedBy p (.lineage p op) reply

theorem record_prepared_emissions (t : AuthorityTrace S D)
    (r : Except AuthorityPrepareError PendingSnapshotSummary) (l' : AuthorityLineage S D) :
    (t.record (.prepared r) l').emissions = t.emissions := by
  cases r <;> rfl

theorem follows_prepare {t : AuthorityTrace S D} {s : AuthorityReplicationSession S D}
    {p : ParticipantId} {op : AuthorityOp S D}
    {r : Except AuthorityPrepareError PendingSnapshotSummary × AuthorityLineage S D}
    {reply : AuthoritySessionReply} (hx : t.lineage.exec op = .ok (.prepared r.1, r.2))
    (he : s.emittedBy p (.lineage p op) reply = []) :
    ∃ t', Follows t s (s.reserve p r).2 p op reply t' := by
  refine ⟨t.record (.prepared r.1) r.2, ?_, ?_, ?_⟩
  · rw [AuthorityTrace.exec, hx]; rfl
  · rw [record_lineage]
    unfold AuthorityReplicationSession.reserve
    split
    · exact .inl (s.get?_setLineage_self p _)
    · split
      · exact .inl (s.get?_setLineage_self p _)
      · exact .inr (s.get?_setLineage_self p _)
  · rw [record_prepared_emissions, he, List.append_nil]

/-- An operation that neither prepares nor emits. -/
theorem follows_silent {t : AuthorityTrace S D} {s : AuthorityReplicationSession S D}
    {p : ParticipantId} {op : AuthorityOp S D} {reply' : AuthorityReply}
    {l' : AuthorityLineage S D} {reply : AuthoritySessionReply}
    (hx : t.lineage.exec op = .ok (reply', l'))
    (hr : t.record reply' l' = ⟨l', t.origin, t.emissions⟩)
    (he : s.emittedBy p (.lineage p op) reply = []) :
    ∃ t', Follows t s (s.setLineage p l') p op reply t' := by
  refine ⟨⟨l', t.origin, t.emissions⟩, ?_, .inl (s.get?_setLineage_self p l'), ?_⟩
  · rw [AuthorityTrace.exec, hx]
    exact congrArg Except.ok hr
  · rw [he, List.append_nil]

theorem follows_recorded {t : AuthorityTrace S D} (hi : t.Inv)
    {s : AuthorityReplicationSession S D} {p : ParticipantId}
    (hl : s.lineages.get? p = some t.lineage) {acceptance : DeliveryAcceptance}
    {r : Except AuthorityOperationError (Option EmittedSnapshot)} {l' : AuthorityLineage S D}
    (hx : t.lineage.recordDeliveryAcceptance acceptance = .ok (r, l')) :
    ∃ t', Follows t s (s.setLineage p l') p (.recordDeliveryAcceptance acceptance)
      (.recorded (r.mapError .operation)) t' := by
  have hexec : t.lineage.exec (.recordDeliveryAcceptance acceptance) = .ok (.recorded r, l') := by
    rw [AuthorityLineage.exec, hx]; rfl
  rcases AuthorityLineage.recordDeliveryAcceptance_effect hx with ⟨hne, rfl⟩ | ⟨c, hp, rfl, -⟩
  · cases r with
    | error e => exact follows_silent hexec rfl rfl
    | ok emitted =>
      cases emitted with
      | none => exact follows_silent hexec rfl rfl
      | some e => exact absurd rfl (hne e)
  · obtain ⟨o, ho, -⟩ := hi.pending_origin c hp
    refine ⟨⟨l', t.origin, t.emissions ++ [⟨c, o, t.lineage.generation⟩]⟩, ?_,
      .inl (s.get?_setLineage_self p l'), ?_⟩
    · rw [AuthorityTrace.exec, hexec]
      simp only [Checked.ok_bind, Checked.pure_eq, record, hp, ho]
    · have he : s.emittedBy p (.lineage p (.recordDeliveryAcceptance acceptance))
          (.recorded (.ok (some (AuthorityLineage.emittedOf c)))) = [c] := by
        simp only [AuthorityReplicationSession.emittedBy, if_pos, hl, Option.bind_some, hp,
          Option.toList_some]
      rw [List.map_append]
      exact congrArg _ he.symm

/-- The trace of the lineage of `p` follows every session operation on `p`. -/
theorem follows_execLineage {t : AuthorityTrace S D} (hi : t.Inv)
    {s s' : AuthorityReplicationSession S D} {p : ParticipantId} {op : AuthorityOp S D}
    {reply : AuthoritySessionReply} (hl : s.lineages.get? p = some t.lineage)
    (h : s.execLineage p op = .ok (reply, s')) : ∃ t', Follows t s s' p op reply t' := by
  cases op with
  | prepareFull snapshot designate =>
    simp only [AuthorityReplicationSession.execLineage, AuthorityReplicationSession.prepareFull,
      hl, Except.ok.injEq, Prod.mk.injEq] at h
    obtain ⟨rfl, rfl⟩ := h
    exact follows_prepare rfl rfl
  | prepareDelta target tick image delta additional =>
    simp only [AuthorityReplicationSession.execLineage, AuthorityReplicationSession.prepareDelta,
      hl, Except.ok.injEq, Prod.mk.injEq] at h
    obtain ⟨rfl, rfl⟩ := h
    exact follows_prepare rfl rfl
  | recordDeliveryAcceptance acceptance =>
    simp only [AuthorityReplicationSession.execLineage,
      AuthorityReplicationSession.recordDeliveryAcceptance, hl, Checked.bind_eq_ok] at h
    obtain ⟨⟨r1, s1⟩, ⟨⟨r, l'⟩, hr, h1⟩, h⟩ := h
    cases h1
    cases h
    exact follows_recorded hi hl hr
  | cancelPending =>
    simp only [AuthorityReplicationSession.execLineage, AuthorityReplicationSession.cancelPending,
      hl, Except.ok.injEq, Prod.mk.injEq] at h
    obtain ⟨rfl, rfl⟩ := h
    exact follows_silent rfl rfl rfl
  | acknowledgeAuthorized session connection cursor =>
    simp only [AuthorityReplicationSession.execLineage,
      AuthorityReplicationSession.acknowledgeAuthorized, hl, Except.ok.injEq, Prod.mk.injEq] at h
    obtain ⟨rfl, rfl⟩ := h
    exact follows_silent rfl rfl rfl
  | requireFullRecovery reason =>
    simp only [AuthorityReplicationSession.execLineage,
      AuthorityReplicationSession.requireFullRecovery, hl, Except.ok.injEq, Prod.mk.injEq] at h
    obtain ⟨rfl, rfl⟩ := h
    exact follows_silent rfl rfl rfl
  | evictRetainedState cursor =>
    simp only [AuthorityReplicationSession.execLineage,
      AuthorityReplicationSession.evictRetainedState, hl, Checked.bind_eq_ok] at h
    obtain ⟨⟨r1, s1⟩, ⟨⟨r, l'⟩, hr, h1⟩, h⟩ := h
    cases h1
    cases h
    have hx : t.lineage.exec (.evictRetainedState cursor) = .ok (.evicted r, l') := by
      rw [AuthorityLineage.exec, hr]; rfl
    exact follows_silent hx rfl rfl
  | connectionReplaced session connection =>
    simp only [AuthorityReplicationSession.execLineage,
      AuthorityReplicationSession.connectionReplaced, hl, Except.ok.injEq, Prod.mk.injEq] at h
    obtain ⟨rfl, rfl⟩ := h
    exact follows_silent rfl rfl rfl

end AuthorityTrace

end RunenNet
