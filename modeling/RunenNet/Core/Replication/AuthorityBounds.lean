import RunenNet.Core.Replication.AuthorityRetention

/-!
# Aggregate bounds of an authority session

In every run the lineages are sound and what they retain and reserve stays within the session's
budgets: a prepare is checked against all of them, and nothing else raises a charge.
-/

namespace RunenNet

open Foundation

/-- The reply reports an error. -/
def AuthoritySessionReply.Refused : AuthoritySessionReply → Prop
  | .added r => ∃ e, r = .error e
  | .removed _ => False
  | .prepared r => ∃ e, r = .error e
  | .recorded r => ∃ e, r = .error e
  | .cancelled r => ∃ e, r = .error e
  | .acknowledged r => ∃ e, r = .error e
  | .required r => ∃ e, r = .error e
  | .evicted r => ∃ e, r = .error e

namespace AuthorityReplicationSession

variable {S D : Type}

/-- What the lineages of a session hold of a budget. -/
def charged (s : AuthorityReplicationSession S D) (r : Resource) : Nat :=
  s.lineages.sum fun _ l => l.charge r

/-- The invariant of a session. -/
structure Sound (s : AuthorityReplicationSession S D) : Prop where
  lineage : ∀ p l, s.lineages.get? p = some l → l.Sound
  lineages_le : s.lineages.size ≤ s.limits.maxLineages.get
  charged_le : ∀ r, s.charged r ≤ s.limits.budget r

theorem sound_new (sessionId : SessionId) (limits : AuthorityAggregateLimits) :
    (new sessionId limits : AuthorityReplicationSession S D).Sound where
  lineage := by intro p l h; cases h
  lineages_le := Nat.zero_le _
  charged_le := fun _ => Nat.zero_le _

/-! ### The aggregate check -/

theorem length_filter_hasPending (ls : List (AuthorityLineage S D)) :
    (ls.filter AuthorityLineage.hasPending).length = (ls.map AuthorityLineage.pendingCount).sum := by
  induction ls with
  | nil => rfl
  | cons l ls ih =>
    rw [List.filter_cons, List.map_cons, List.sum_cons, AuthorityLineage.pendingCount]
    cases h : l.hasPending with
    | false => simpa using ih
    | true =>
      simp only [if_pos, List.length_cons, ih]
      omega

theorem budget_le (limits : AuthorityAggregateLimits) (r : Resource) :
    limits.budget r ≤ usizeMax := by
  cases r with
  | images => exact limits.maxRetainedImages.le_max
  | retainedBytes => exact limits.maxRetainedStateBytes.le_max
  | evidence => exact limits.maxEmissionEvidence.le_max
  | stateBytes => exact limits.maxStateBytes.le_max

/-- The check passes exactly when every budget covers what the lineages hold of it. -/
theorem aggregateReservationsFit_iff (s : AuthorityReplicationSession S D) :
    s.aggregateReservationsFit = true ↔ ∀ r, s.charged r ≤ s.limits.budget r := by
  have himages : s.charged .images = s.lineages.sum (fun _ l => l.retainedImageCount) +
      s.lineages.sum (fun _ l => l.pendingCount) := SortedMap.sum_add _ _ _
  have hbytes : s.charged .retainedBytes = s.lineages.sum (fun _ l => l.retainedBytes) +
      s.lineages.sum (fun _ l => l.pendingStateBytes) := SortedMap.sum_add _ _ _
  have hevidence : s.charged .evidence = s.lineages.sum (fun _ l => l.emissionEvidenceCount) +
      s.lineages.sum (fun _ l => l.pendingCount) := SortedMap.sum_add _ _ _
  have hstate : s.charged .stateBytes = s.lineages.sum (fun _ l => l.retainedBytes) +
      s.lineages.sum (fun _ l => l.pendingCandidateBytes) := SortedMap.sum_add _ _ _
  have hcount : (s.lineages.values.filter AuthorityLineage.hasPending).length =
      s.lineages.sum (fun _ l => l.pendingCount) := by
    rw [length_filter_hasPending, SortedMap.sum_values]
  simp only [aggregateReservationsFit, checkedAccountedStateBytes, checkedRetainedImageCount,
    checkedRetainedStateBytes, checkedEmissionEvidenceCount, checkedPendingStateBytes,
    checkedPendingCandidateBytes, checkedSum, Option.getD_eq_iff, Option.bind_eq_bind,
    Option.bind_eq_some_iff, Option.pure_def, Option.some.injEq, Bool.false_eq_true, and_false,
    or_false, Bool.and_eq_true, decide_eq_true_eq, checkedTotal_eq_some, checkedAdd_eq_some,
    SortedMap.sum_values, hcount]
  constructor
  · rintro ⟨a, ⟨b, ⟨-, rfl⟩, c, ⟨-, rfl⟩, -, rfl⟩, d, ⟨-, rfl⟩, e, ⟨-, rfl⟩, f, ⟨-, rfl⟩, g, ⟨-, rfl⟩,
      h, ⟨-, rfl⟩, i, ⟨-, rfl⟩, j, ⟨-, rfl⟩, ⟨⟨h1, h2⟩, h3⟩, h4⟩ r
    cases r with
    | images => rw [himages]; exact h2
    | retainedBytes => rw [hbytes]; exact h3
    | evidence => rw [hevidence]; exact h4
    | stateBytes => rw [hstate]; exact h1
  · intro h
    have h1 := h .stateBytes
    have h2 := h .images
    have h3 := h .retainedBytes
    have h4 := h .evidence
    have m1 := budget_le s.limits .stateBytes
    have m2 := budget_le s.limits .images
    have m3 := budget_le s.limits .retainedBytes
    have m4 := budget_le s.limits .evidence
    rw [hstate] at h1
    rw [himages] at h2
    rw [hbytes] at h3
    rw [hevidence] at h4
    refine ⟨_, ⟨_, ⟨?_, rfl⟩, _, ⟨?_, rfl⟩, ?_, rfl⟩, _, ⟨?_, rfl⟩, _, ⟨?_, rfl⟩, _, ⟨?_, rfl⟩, _,
      ⟨?_, rfl⟩, _, ⟨?_, rfl⟩, _, ⟨?_, rfl⟩, _, ⟨?_, rfl⟩, ⟨⟨h1, h2⟩, h3⟩, h4⟩
    all_goals omega

/-! ### One operation -/

section Steps

variable {s : AuthorityReplicationSession S D} {p : ParticipantId} {l l' : AuthorityLineage S D}

theorem setLineage_same (hl : s.lineages.get? p = some l) : s.setLineage p l = s := by
  unfold setLineage
  rw [SortedMap.insert_of_get? hl]

theorem charged_split (hl : s.lineages.get? p = some l) (r : Resource) :
    s.charged r = l.charge r + (s.lineages.erase p).sum (fun _ l => l.charge r) :=
  SortedMap.sum_of_get? _ hl

theorem charged_setLineage (s : AuthorityReplicationSession S D) (p : ParticipantId)
    (l' : AuthorityLineage S D) (r : Resource) : (s.setLineage p l').charged r =
      l'.charge r + (s.lineages.erase p).sum (fun _ l => l.charge r) :=
  SortedMap.sum_insert _ _ _ _

theorem Sound.setLineage (hs : s.Sound) (hl : s.lineages.get? p = some l) (hl' : l'.Sound)
    (hc : ∀ r, (s.setLineage p l').charged r ≤ s.limits.budget r) : (s.setLineage p l').Sound where
  lineage := by
    intro q m hm
    by_cases hq : q = p
    · subst hq
      rw [get?_setLineage_self] at hm
      cases hm
      exact hl'
    · rw [s.get?_setLineage_ne _ hq] at hm
      exact hs.lineage q m hm
  lineages_le := by
    show (s.lineages.insert p l').size ≤ _
    rw [SortedMap.size_insert_of_some l' hl]
    exact hs.lineages_le
  charged_le := hc

theorem Sound.setKept (hs : s.Sound) (hl : s.lineages.get? p = some l) (hl' : l'.Sound)
    (hc : ∀ r, l'.charge r ≤ l.charge r) : (s.setLineage p l').Sound := by
  refine hs.setLineage hl hl' fun r => ?_
  have hbefore := hs.charged_le r
  have hcharge := hc r
  rw [charged_split hl] at hbefore
  rw [charged_setLineage]
  omega

/-- The session keeps its invariant, and an error leaves it as it was. -/
structure Keeps (s s' : AuthorityReplicationSession S D) (refused : Prop) : Prop where
  sound : s'.Sound
  unchanged : refused → s' = s

theorem Sound.keeps (hs : s.Sound) (refused : Prop) : Keeps s s refused := ⟨hs, fun _ => rfl⟩

theorem lift_keeps {α : Type} (hs : s.Sound) (hl : s.lineages.get? p = some l)
    {a : Except AuthorityOperationError α × AuthorityLineage S D} (h : l.Kept a) :
    Keeps s (s.lift p a).2 (∃ e, (s.lift p a).1 = .error e) := by
  obtain ⟨r, l'⟩ := a
  refine ⟨hs.setKept hl h.sound h.charge, ?_⟩
  rintro ⟨e, he⟩
  cases r with
  | ok a => cases he
  | error x =>
    have hsame : l' = l := h.error x rfl
    show s.setLineage p l' = s
    rw [hsame, setLineage_same hl]

theorem reserve_keeps (hs : s.Sound) (hl : s.lineages.get? p = some l)
    {a : Except AuthorityPrepareError PendingSnapshotSummary × AuthorityLineage S D}
    (h : l.Reserved a) : Keeps s (s.reserve p a).2 (∃ e, (s.reserve p a).1 = .error e) := by
  obtain ⟨r, l'⟩ := a
  cases r with
  | error e =>
    have hsame : l' = l := h.error e rfl
    show Keeps s (s.setLineage p l') _
    rw [hsame, setLineage_same hl]
    exact hs.keeps _
  | ok summary =>
    unfold reserve
    by_cases hfit : (s.setLineage p l').aggregateReservationsFit = true
    · simp only [if_pos hfit]
      refine ⟨hs.setLineage hl h.sound ((aggregateReservationsFit_iff _).mp hfit), ?_⟩
      rintro ⟨e, he⟩
      cases he
    · have hcancel : l'.cancelPending.2 = l := h.cancel summary rfl
      simp only [if_neg hfit]
      rw [hcancel, setLineage_same hl]
      exact hs.keeps _

/-- The facts about one operation. -/
structure StepSound (s : AuthorityReplicationSession S D) (op : AuthoritySessionOp S D)
    (reply : AuthoritySessionReply) (s' : AuthorityReplicationSession S D) : Prop where
  sound : s'.Sound
  /-- An error leaves the session as it was. -/
  refused : reply.Refused → s' = s
  /-- An acceptance does not evict the image deltas are based on. -/
  base : ∀ p acceptance l base r, op = .lineage p (.recordDeliveryAcceptance acceptance) →
    s.lineages.get? p = some l → l.state = .deltaEligible base →
    l.retained.get? base = some r →
    ∃ l', s'.lineages.get? p = some l' ∧ l'.retained.get? base = some r

theorem Keeps.step {s' : AuthorityReplicationSession S D} {op : AuthoritySessionOp S D}
    {reply : AuthoritySessionReply} {refused : Prop} (h : Keeps s s' refused)
    (hr : reply.Refused → refused)
    (hop : ∀ p acceptance, op ≠ .lineage p (.recordDeliveryAcceptance acceptance)) :
    StepSound s op reply s' :=
  ⟨h.sound, fun hreply => h.unchanged (hr hreply),
    fun p acceptance _ _ _ he => absurd he (hop p acceptance)⟩

/-- A lineage operation on a participant without a lineage is refused. -/
theorem execLineage_unknown (hs : s.Sound) (hl : s.lineages.get? p = none) (op : AuthorityOp S D) :
    ∃ reply, s.execLineage p op = .ok (reply, s) ∧ StepSound s (.lineage p op) reply s := by
  have hstep : ∀ reply, StepSound s (.lineage p op) reply s := by
    refine fun reply => ⟨hs, fun _ => rfl, ?_⟩
    intro q acceptance l base r he hq
    cases he
    rw [hl] at hq
    cases hq
  have hrun : ∃ reply, s.execLineage p op = .ok (reply, s) := by
    cases op with
    | prepareFull snapshot designate => simp [execLineage, prepareFull, hl]
    | prepareDelta target tick image delta additional => simp [execLineage, prepareDelta, hl]
    | recordDeliveryAcceptance acceptance => simp [execLineage, recordDeliveryAcceptance, hl]
    | cancelPending => simp [execLineage, cancelPending, hl]
    | acknowledgeAuthorized session connection cursor =>
      simp [execLineage, acknowledgeAuthorized, hl]
    | requireFullRecovery reason => simp [execLineage, requireFullRecovery, hl]
    | evictRetainedState cursor => simp [execLineage, evictRetainedState, hl]
    | connectionReplaced session connection => simp [execLineage, connectionReplaced, hl]
  obtain ⟨reply, hrun⟩ := hrun
  exact ⟨reply, hrun, hstep reply⟩

theorem execLineage_step (hs : s.Sound) (hl : s.lineages.get? p = some l) (op : AuthorityOp S D) :
    ∃ reply s', s.execLineage p op = .ok (reply, s') ∧ StepSound s (.lineage p op) reply s' := by
  have hsound := hs.lineage p l hl
  cases op with
  | prepareFull snapshot designate =>
    have hkeeps := reserve_keeps hs hl (hsound.prepareFull_reserved snapshot designate)
    refine ⟨.prepared _, _, ?_, hkeeps.step (fun h => h) (by intro q a h; cases h)⟩
    simp only [execLineage, prepareFull, hl]
  | prepareDelta target tick image delta additional =>
    have hkeeps := reserve_keeps hs hl
      (hsound.prepareDelta_reserved target tick image delta additional)
    refine ⟨.prepared _, _, ?_, hkeeps.step (fun h => h) (by intro q a h; cases h)⟩
    simp only [execLineage, prepareDelta, hl]
  | recordDeliveryAcceptance acceptance =>
    obtain ⟨a, hrun, hkept, hbase⟩ :=
      AuthorityLineage.recordDeliveryAcceptance_kept hsound acceptance
    have hkeeps := lift_keeps hs hl hkept
    refine ⟨.recorded (s.lift p a).1, (s.lift p a).2, ?_, hkeeps.sound, hkeeps.unchanged, ?_⟩
    · simp only [execLineage, recordDeliveryAcceptance, hl, hrun, Checked.ok_bind, Checked.pure_eq]
    · intro q acceptance' m base r he hm hstate hr
      cases he
      rw [hl] at hm
      cases hm
      exact ⟨a.2, s.get?_setLineage_self p _, hbase base r hstate hr⟩
  | cancelPending =>
    have hkept : (s.setLineage p l.cancelPending.2).Sound :=
      hs.setKept hl hsound.unreserved
        (AuthorityLineage.charge_le l l.cancelPending.2 (Nat.le_refl _) (Nat.le_refl _)
          (Nat.le_refl _) (.inr rfl))
    refine ⟨.cancelled (.ok l.cancelPending.1), _, ?_, hkept, ?_, ?_⟩
    · simp only [execLineage, cancelPending, hl]
    · rintro ⟨e, he⟩
      cases he
    · intro q a m base r h
      cases h
  | acknowledgeAuthorized session connection cursor =>
    have hkeeps := lift_keeps hs hl
      (AuthorityLineage.acknowledgeAuthorized_kept hsound session connection cursor)
    refine ⟨.acknowledged _, _, ?_, hkeeps.step (fun h => h) (by intro q a h; cases h)⟩
    simp only [execLineage, acknowledgeAuthorized, hl]
  | requireFullRecovery reason =>
    have hkeeps := lift_keeps hs hl (AuthorityLineage.requireFullRecovery_kept hsound reason)
    refine ⟨.required _, _, ?_, hkeeps.step (fun h => h) (by intro q a h; cases h)⟩
    simp only [execLineage, requireFullRecovery, hl]
  | evictRetainedState cursor =>
    obtain ⟨a, hrun, hkept⟩ := AuthorityLineage.evictRetainedState_kept hsound cursor
    have hkeeps := lift_keeps hs hl hkept
    refine ⟨.evicted (s.lift p a).1, (s.lift p a).2, ?_,
      hkeeps.step (fun h => h) (by intro q a h; cases h)⟩
    simp only [execLineage, evictRetainedState, hl, hrun, Checked.ok_bind, Checked.pure_eq]
  | connectionReplaced session connection =>
    have hkeeps := lift_keeps hs hl
      (AuthorityLineage.connectionReplaced_kept hsound session connection)
    refine ⟨.required _, _, ?_, hkeeps.step (fun h => h) (by intro q a h; cases h)⟩
    simp only [execLineage, connectionReplaced, hl]

theorem addLineage_sound (hs : s.Sound) (retention : ReplicationRetentionLimits)
    (hp : s.lineages.get? p = none) (hroom : s.lineages.size < s.limits.maxLineages.get) :
    ({ s with lineages := s.lineages.insert p (.new ⟨s.sessionId, p⟩ retention) } :
      AuthorityReplicationSession S D).Sound where
  lineage := by
    intro q m hm
    rw [SortedMap.get?_insert] at hm
    split at hm
    · cases hm
      exact AuthorityLineage.sound_new _ retention
    · exact hs.lineage q m hm
  lineages_le := by
    show (s.lineages.insert p _).size ≤ _
    rw [SortedMap.size_insert_of_none _ hp]
    exact hroom
  charged_le := by
    intro r
    have hnew : (AuthorityLineage.new ⟨s.sessionId, p⟩ retention : AuthorityLineage S D).charge r
        = 0 := by cases r <;> rfl
    show (s.lineages.insert p _).sum _ ≤ _
    rw [SortedMap.sum_insert, SortedMap.erase_of_get?_none hp, hnew, Nat.zero_add]
    exact hs.charged_le r

theorem removeLineage_sound (hs : s.Sound) (p : ParticipantId) : (s.removeLineage p).2.Sound where
  lineage := by
    intro q m hm
    simp only [removeLineage, SortedMap.get?_erase] at hm
    split at hm
    · cases hm
    · exact hs.lineage q m hm
  lineages_le := Nat.le_trans (SortedMap.size_erase_le _ _) hs.lineages_le
  charged_le := by
    intro r
    have hbefore := hs.charged_le r
    rw [charged, SortedMap.sum_split _ s.lineages p] at hbefore
    exact Nat.le_trans (Nat.le_add_left _ _) hbefore

/-- In a sound session every operation returns and keeps the facts of a step. -/
theorem exec_step (hs : s.Sound) (op : AuthoritySessionOp S D) :
    ∃ reply s', s.exec op = .ok (reply, s') ∧ StepSound s op reply s' := by
  cases op with
  | addLineage p retention =>
    refine ⟨.added (s.addLineage p retention).1, (s.addLineage p retention).2, rfl, ?_⟩
    unfold addLineage
    by_cases hp : s.lineages.contains p = true
    · rw [if_pos hp]
      exact (hs.keeps True).step (fun _ => trivial) (by intro q a h; cases h)
    · rw [if_neg hp]
      by_cases hroom : s.lineages.size ≥ s.limits.maxLineages.get
      · rw [if_pos hroom]
        exact (hs.keeps True).step (fun _ => trivial) (by intro q a h; cases h)
      · rw [if_neg hroom]
        have hnone := SortedMap.contains_eq_false.mp (Bool.eq_false_iff.mpr hp)
        refine ⟨addLineage_sound hs retention hnone (Nat.lt_of_not_le hroom), ?_, ?_⟩
        · rintro ⟨e, he⟩
          cases he
        · intro q a m base r h
          cases h
  | removeLineage p =>
    refine ⟨_, _, rfl, removeLineage_sound hs p, fun h => absurd h id, ?_⟩
    intro q a m base r h
    cases h
  | lineage p op =>
    cases hl : s.lineages.get? p with
    | none =>
      obtain ⟨reply, hrun, hstep⟩ := execLineage_unknown hs hl op
      exact ⟨reply, s, hrun, hstep⟩
    | some l => exact execLineage_step hs hl op

end Steps

/-! ### Runs -/

def step (s : AuthorityReplicationSession S D) (op : AuthoritySessionOp S D) :
    Checked (AuthorityReplicationSession S D) := do
  let (_, s) ← s.exec op
  return s

/-- The session after a list of operations. -/
def run (sessionId : SessionId) (limits : AuthorityAggregateLimits)
    (ops : List (AuthoritySessionOp S D)) : Checked (AuthorityReplicationSession S D) :=
  ops.foldlM step (new sessionId limits)

theorem run_sound (sessionId : SessionId) (limits : AuthorityAggregateLimits)
    (ops : List (AuthoritySessionOp S D)) : ∃ s, run sessionId limits ops = .ok s ∧ s.Sound := by
  induction ops using List.reverseRecOn with
  | nil => exact ⟨_, rfl, sound_new sessionId limits⟩
  | append_singleton ops op ih =>
    obtain ⟨s, hrun, hs⟩ := ih
    obtain ⟨reply, s', hexec, hstep⟩ := exec_step hs op
    refine ⟨s', ?_, hstep.sound⟩
    rw [run, List.foldlM_append, ← run, hrun, Checked.ok_bind, List.foldlM_cons, step, hexec]
    rfl

/-- Every run returns in a session within its bounds, and the next operation, whatever it is,
returns within them too, changes nothing on an error, and spares the current delta base. -/
theorem retention_bounds (sessionId : SessionId) (limits : AuthorityAggregateLimits)
    (ops : List (AuthoritySessionOp S D)) :
    ∃ s, run sessionId limits ops = .ok s ∧ s.Sound ∧
      ∀ op, ∃ reply s', s.exec op = .ok (reply, s') ∧ StepSound s op reply s' := by
  obtain ⟨s, hrun, hs⟩ := run_sound sessionId limits ops
  exact ⟨s, hrun, hs, fun op => exec_step hs op⟩

end AuthorityReplicationSession

end RunenNet
