import RunenNet.Core.Replication.ClientRetention

/-!
# Safety of client replication

`Effect` lists what an operation of a client set can do; `exec_effect` shows that in a sound
set every operation returns and is one of these. A `ClientHistory` runs operations from a new
set and remembers what each lineage committed.
-/

namespace RunenNet

open Foundation

namespace ClientLineage

variable {S : Type}

/-- The invariant of one lineage. -/
structure Sound (l : ClientLineage S) : Prop where
  current_retained : ∀ c, l.current = some c → ∃ r, l.retained.get? c = some r
  current_greatest : ∀ c r, l.retained.get? c = some r → ∃ d, l.current = some d ∧ c ≤ d
  synchronized : l.state = .synchronized → ∃ c, l.current = some c
  bytes_exact : l.retainedBytes = l.retained.sum fun _ r => r.image.accountedBytes
  count_le : l.retained.size ≤ l.limits.maxRetainedImagesPerLineage.get
  bytes_le : l.retainedBytes ≤ l.limits.maxRetainedStateBytesPerLineage.get

theorem Sound.exact {l : ClientLineage S} (h : l.Sound) : l.Exact := h.bytes_exact

theorem sound_new (key : ReplicationLineageKey) (limits : ReplicationRetentionLimits) :
    (new key limits : ClientLineage S).Sound where
  current_retained := by intro c h; cases h
  current_greatest := by intro c r h; cases h
  synchronized := by intro h; cases h
  bytes_exact := rfl
  count_le := Nat.zero_le _
  bytes_le := Nat.zero_le _

theorem Sound.enterRecovery {l : ClientLineage S} (h : l.Sound) (reason : ClientRecoveryReason) :
    (l.enterRecovery reason).Sound where
  current_retained := h.current_retained
  current_greatest := h.current_greatest
  synchronized := by intro hs; cases hs
  bytes_exact := h.bytes_exact
  count_le := h.count_le
  bytes_le := h.bytes_le

/-- The lineage without one image. -/
def afterEviction (l : ClientLineage S) (c : ReplicationCursor) : ClientLineage S :=
  { l with retained := l.retained.erase c, retainedBytes := imageBytes (l.retained.erase c) }

theorem Sound.afterEviction {l : ClientLineage S} (h : l.Sound) {c : ReplicationCursor}
    (hc : l.current ≠ some c) : (l.afterEviction c).Sound where
  current_retained := by
    intro d hd
    obtain ⟨r, hr⟩ := h.current_retained d hd
    refine ⟨r, ?_⟩
    have hne : d ≠ c := by rintro rfl; exact hc hd
    exact (SortedMap.get?_erase_ne _ hne).trans hr
  current_greatest := by
    intro d r hd
    simp only [ClientLineage.afterEviction, SortedMap.get?_erase] at hd
    split at hd
    · cases hd
    · exact h.current_greatest d r hd
  synchronized := h.synchronized
  bytes_exact := rfl
  count_le := Nat.le_trans (SortedMap.size_erase_le _ _) h.count_le
  bytes_le := by
    refine Nat.le_trans ?_ h.bytes_le
    rw [h.exact.total]
    exact imageBytes_erase_le _ _

/-- A cursor newer than the current one is not retained. -/
theorem Sound.absent {l : ClientLineage S} (h : l.Sound) {target : ReplicationCursor}
    (hnew : ∀ c, l.current = some c → c < target) : l.retained.get? target = none := by
  rw [Option.eq_none_iff_forall_ne_some]
  intro r hr
  obtain ⟨d, hd, hle⟩ := h.current_greatest target r hr
  exact absurd (hnew d hd) (not_lt.mpr hle)

theorem Sound.absent_drop {l : ClientLineage S} (h : l.Sound) {target : ReplicationCursor}
    (hnew : ∀ c, l.current = some c → c < target) (n : Nat) :
    (l.retained.drop n).get? target = none :=
  SortedMap.get?_drop_of_none (h.absent hnew) n

theorem Sound.afterCommit {l : ClientLineage S} (h : l.Sound) {n : Nat}
    {target : ReplicationCursor} {tick : SimulationTick} {image : AccountedState S}
    (hnew : ∀ c, l.current = some c → c < target) (hfit : l.FitsAfter image.accountedBytes n) :
    (l.afterCommit n target tick image).Sound := by
  have habsent := h.absent_drop hnew n
  constructor
  · intro c hc
    cases hc
    exact ⟨_, SortedMap.get?_insert_self _ _ _⟩
  · intro c r hc
    refine ⟨target, rfl, ?_⟩
    simp only [ClientLineage.afterCommit, SortedMap.get?_insert] at hc
    split at hc
    · rename_i heq
      exact le_of_eq heq
    · obtain ⟨d, hd, hle⟩ := h.current_greatest c r (SortedMap.get?_of_drop hc)
      exact hle.trans (hnew d hd).le
  · intro _
    exact ⟨target, rfl⟩
  · exact (imageBytes_insert (⟨tick, image⟩ : RetainedState S) habsent).symm
  · show ((l.retained.drop n).insert target _).size ≤ _
    rw [SortedMap.size_insert_of_none _ habsent]
    exact hfit.1
  · exact hfit.2

theorem currentTick_afterCommit (l : ClientLineage S) (n : Nat) (target : ReplicationCursor)
    (tick : SimulationTick) (image : AccountedState S) :
    (l.afterCommit n target tick image).currentTick = some tick := by
  simp [currentTick, afterCommit]

theorem currentTick_afterEviction {l : ClientLineage S} {c : ReplicationCursor}
    (hc : l.current ≠ some c) : (l.afterEviction c).currentTick = l.currentTick := by
  unfold currentTick afterEviction
  cases h : l.current with
  | none => rfl
  | some d =>
    have hne : d ≠ c := by rintro rfl; exact hc h
    simp only [Option.bind_some, SortedMap.get?_erase_ne _ hne]

theorem tickRegressesCurrent_false {l : ClientLineage S} {tick t : SimulationTick}
    (h : ¬ l.tickRegressesCurrent tick = true) (ht : l.currentTick = some t) : t ≤ tick := by
  simp only [tickRegressesCurrent, ht, Option.any_some, decide_eq_true_eq] at h
  exact not_lt.mp h

end ClientLineage

/-- The reply of an operation that neither removes a lineage, calls the host nor commits. -/
def ClientReply.Quiet {S E : Type} : ClientReply S E → Prop
  | .applied r hostCommits => hostCommits = [] ∧ ∀ c, r ≠ .ok (.committed c)
  | .removed _ => False
  | _ => True

namespace ClientReplicationSet

variable {S D E : Type}

/-- The image an apply would commit on the lineage `l`, with the host's callback and the lineage
left behind when the host refuses. -/
inductive Offer (l : ClientLineage S) : ClientOp S D E → ReplicationCursor → SimulationTick →
    AccountedState S → (S → Except E Unit) → ClientLineage S → Prop
  | full {key : ReplicationLineageKey} {snapshot : FullSnapshot S}
      {hostCommit : S → Except E Unit} :
      Offer l (.applyFull key snapshot hostCommit) snapshot.targetCursor snapshot.targetTick
        snapshot.image hostCommit l
  | delta {key : ReplicationLineageKey} {snapshot : DeltaSnapshot D}
      {reconstruct : S → D → Nat → Except DeltaReconstructionError (AccountedState S)}
      {hostCommit : S → Except E Unit} {base : RetainedState S} {image : AccountedState S}
      (hstate : l.state = .synchronized)
      (hbase : l.retained.get? snapshot.baseCursor = some base)
      (himage : reconstruct base.image.state snapshot.delta
        l.limits.maxCandidateBytesPerLineage.get = .ok image) :
      Offer l (.applyDelta key snapshot reconstruct hostCommit) snapshot.targetCursor
        snapshot.targetTick image hostCommit (l.enterRecovery .deltaCommitFailure)

/-- What an operation can do to a set. -/
inductive Effect (s : ClientReplicationSet S) :
    ClientOp S D E → ClientReply S E → ClientReplicationSet S → Prop
  | added {key : ReplicationLineageKey} {retention : ReplicationRetentionLimits}
      (habsent : s.lineages.get? key = none)
      (hroom : s.lineages.size < s.limits.maxLineages.get) :
      Effect s (.addLineage key retention) (.added (.ok ()))
        { s with lineages := s.lineages.insert key (.new key retention) }
  | removed {key : ReplicationLineageKey} :
      Effect s (.removeLineage key) (.removed (s.lineages.contains key))
        { s with lineages := s.lineages.erase key }
  | kept {op : ClientOp S D E} {reply : ClientReply S E} (hq : reply.Quiet) : Effect s op reply s
  | recovered {op : ClientOp S D E} {reply : ClientReply S E} {l : ClientLineage S}
      (hq : reply.Quiet) (hl : s.lineages.get? op.key = some l) (reason : ClientRecoveryReason) :
      Effect s op reply (s.setLineage op.key (l.enterRecovery reason))
  | evicted {key : ReplicationLineageKey} {cursor : ReplicationCursor} {l : ClientLineage S}
      (hl : s.lineages.get? key = some l) (hc : l.current ≠ some cursor) :
      Effect s (.evictHistorical key cursor) (.evicted (.ok true))
        (s.setLineage key (l.afterEviction cursor))
  | refused {op : ClientOp S D E} {l onRefusal : ClientLineage S} {target : ReplicationCursor}
      {tick : SimulationTick} {image : AccountedState S} {hostCommit : S → Except E Unit}
      {source : E} (hl : s.lineages.get? op.key = some l)
      (ho : Offer l op target tick image hostCommit onRefusal)
      (hhost : hostCommit image.state = .error source) :
      Effect s op (.applied (.error (.hostCommitFailure source)) [image.state])
        (s.setLineage op.key onRefusal)
  | committed {op : ClientOp S D E} {l onRefusal : ClientLineage S} {target : ReplicationCursor}
      {tick : SimulationTick} {image : AccountedState S} {hostCommit : S → Except E Unit} {n : Nat}
      (hl : s.lineages.get? op.key = some l)
      (ho : Offer l op target tick image hostCommit onRefusal)
      (hhost : hostCommit image.state = .ok ())
      (hnew : ∀ c, l.current = some c → c < target)
      (htick : ∀ t, l.currentTick = some t → t ≤ tick)
      (hfit : l.FitsAfter image.accountedBytes n)
      (hset : s.aggregateCommitFits l (l.planOf image.accountedBytes n) image.accountedBytes = true) :
      Effect s op (.applied (.ok (.committed target)) [image.state])
        (s.setLineage op.key (l.afterCommit n target tick image))

/-- The invariant of a set: every lineage is sound, and the totals are within the set's limits. -/
structure Sound (s : ClientReplicationSet S) : Prop where
  lineage : ∀ key l, s.lineages.get? key = some l → l.Sound
  lineages_le : s.lineages.size ≤ s.limits.maxLineages.get
  images_le : (s.lineages.sum fun _ l => l.retained.size) ≤ s.limits.maxRetainedImages.get
  bytes_le : (s.lineages.sum fun _ l => l.retainedBytes) ≤ s.limits.maxRetainedStateBytes.get

theorem sound_new (limits : ClientAggregateLimits) : (new limits : ClientReplicationSet S).Sound where
  lineage := by intro key l h; cases h
  lineages_le := Nat.zero_le _
  images_le := Nat.zero_le _
  bytes_le := Nat.zero_le _

/-! ### Every operation has an effect -/

section Effects

variable {s : ClientReplicationSet S} {l : ClientLineage S}

theorem setLineage_same {key : ReplicationLineageKey} (hl : s.lineages.get? key = some l) :
    s.setLineage key l = s := by
  unfold setLineage
  rw [SortedMap.insert_of_get? hl]

theorem commitImage_exec (hs : s.Sound) (op : ClientOp S D E) {target : ReplicationCursor}
    {tick : SimulationTick} {image : AccountedState S} {hostCommit : S → Except E Unit}
    {onRefusal : ClientLineage S} (hl : s.lineages.get? op.key = some l)
    (ho : Offer l op target tick image hostCommit onRefusal)
    (hnew : ∀ c, l.current = some c → c < target)
    (htick : ∀ t, l.currentTick = some t → t ≤ tick) :
    ∃ a, s.commitImage op.key l target tick image hostCommit onRefusal = .ok a ∧
      Effect s op (.applied a.result a.hostCommits) a.set := by
  have hsound := hs.lineage op.key l hl
  have hquiet : (ClientReply.applied (E := E) (S := S) (.ok .stateResourceFailure) []).Quiet := by
    refine ⟨rfl, ?_⟩
    intro c h
    cases h
  unfold commitImage
  cases hfits : l.stateImageFits image.accountedBytes with
  | false =>
    rw [ClientLineage.planCommit_none hfits, Checked.ok_bind]
    exact ⟨_, rfl, .kept hquiet⟩
  | true =>
    obtain ⟨n, hplan, hfit, -⟩ := ClientLineage.planCommit_some hsound.exact hfits
    rw [hplan, Checked.ok_bind]
    simp only
    cases hset : s.aggregateCommitFits l (l.planOf image.accountedBytes n)
        image.accountedBytes with
    | false =>
      rw [if_pos (by simp)]
      exact ⟨_, rfl, .kept hquiet⟩
    | true =>
      rw [if_neg (by simp)]
      cases hhost : hostCommit image.state with
      | error source => exact ⟨_, rfl, .refused hl ho hhost⟩
      | ok u =>
        rw [ClientLineage.commitWithPlan_planOf hsound.exact hfit (hsound.absent hnew),
          Checked.ok_bind]
        exact ⟨_, rfl, .committed hl ho hhost hnew htick hfit hset⟩

theorem quiet_outcome {o : ClientSnapshotOutcome} (h : ∀ c, o ≠ .committed c) :
    (ClientReply.applied (E := E) (S := S) (.ok o) []).Quiet :=
  ⟨rfl, fun c e => h c (Except.ok.inj e)⟩

theorem applyFull_exec (hs : s.Sound) (key : ReplicationLineageKey) (snapshot : FullSnapshot S)
    (hostCommit : S → Except E Unit) :
    ∃ a, s.applyFull key snapshot hostCommit = .ok a ∧
      Effect s (.applyFull key snapshot hostCommit : ClientOp S D E)
        (.applied a.result a.hostCommits) a.set := by
  unfold applyFull
  cases hl : s.lineages.get? key with
  | none => exact ⟨_, rfl, .kept ⟨rfl, fun c e => by cases e⟩⟩
  | some l =>
    simp only
    cases hc : l.classifyCursor snapshot.targetCursor with
    | some classification =>
      exact ⟨_, rfl, .kept (quiet_outcome (ClientLineage.classifyCursor_ne_committed hc))⟩
    | none =>
      simp only
      by_cases htick : l.tickRegressesCurrent snapshot.targetTick = true
      · rw [if_pos htick]
        exact ⟨_, rfl, .kept (quiet_outcome (fun c e => by cases e))⟩
      · rw [if_neg htick]
        exact commitImage_exec hs (.applyFull key snapshot hostCommit) hl .full
          (ClientLineage.classifyCursor_none hc)
          (fun t ht => ClientLineage.tickRegressesCurrent_false htick ht)

theorem recovered_exec (op : ClientOp S D E) (hl : s.lineages.get? op.key = some l)
    (reason : ClientRecoveryReason) {o : ClientSnapshotOutcome} (h : ∀ c, o ≠ .committed c) :
    ∃ a, (.ok (s.recovered op.key l reason o) : Checked (ApplyResult S E)) = .ok a ∧
      Effect s op (.applied a.result a.hostCommits) a.set :=
  ⟨_, rfl, .recovered (quiet_outcome h) hl reason⟩

theorem applyDelta_exec (hs : s.Sound) (key : ReplicationLineageKey) (snapshot : DeltaSnapshot D)
    (reconstruct : S → D → Nat → Except DeltaReconstructionError (AccountedState S))
    (hostCommit : S → Except E Unit) :
    ∃ a, s.applyDelta key snapshot reconstruct hostCommit = .ok a ∧
      Effect s (.applyDelta key snapshot reconstruct hostCommit)
        (.applied a.result a.hostCommits) a.set := by
  unfold applyDelta
  cases hl : s.lineages.get? key with
  | none => exact ⟨_, rfl, .kept ⟨rfl, fun c e => by cases e⟩⟩
  | some l =>
    simp only
    have hrec := recovered_exec (.applyDelta key snapshot reconstruct hostCommit) hl
    cases hc : l.classifyCursor snapshot.targetCursor with
    | some classification =>
      exact ⟨_, rfl, .kept (quiet_outcome (ClientLineage.classifyCursor_ne_committed hc))⟩
    | none =>
      simp only
      cases hstate : l.state with
      | fullSnapshotRequired reason =>
        exact ⟨_, rfl, .kept (quiet_outcome (fun c e => by cases e))⟩
      | synchronized =>
        simp only
        by_cases hbase : snapshot.targetCursor ≤ snapshot.baseCursor
        · rw [if_pos hbase]
          exact hrec _ (fun c e => by cases e)
        · rw [if_neg hbase]
          by_cases htick : l.tickRegressesCurrent snapshot.targetTick = true
          · rw [if_pos htick]
            exact hrec _ (fun c e => by cases e)
          · rw [if_neg htick]
            cases hb : l.retained.get? snapshot.baseCursor with
            | none => exact hrec _ (fun c e => by cases e)
            | some base =>
              simp only
              by_cases hbt : snapshot.targetTick < base.tick
              · rw [if_pos hbt]
                exact hrec _ (fun c e => by cases e)
              · rw [if_neg hbt]
                cases hr : reconstruct base.image.state snapshot.delta
                    l.limits.maxCandidateBytesPerLineage.get with
                | error e =>
                  cases e with
                  | malformed => exact hrec _ (fun c e => by cases e)
                  | reconstructionFailed => exact hrec _ (fun c e => by cases e)
                | ok candidate =>
                  exact commitImage_exec hs
                    (.applyDelta key snapshot reconstruct hostCommit) hl
                    (.delta hstate hb hr) (ClientLineage.classifyCursor_none hc)
                    (fun t ht => ClientLineage.tickRegressesCurrent_false htick ht)

theorem evictHistorical_exec (hs : s.Sound) (key : ReplicationLineageKey)
    (cursor : ReplicationCursor) :
    ∃ r s', s.evictHistorical key cursor = .ok (r, s') ∧
      Effect s (.evictHistorical key cursor : ClientOp S D E) (.evicted r) s' := by
  unfold evictHistorical
  cases hl : s.lineages.get? key with
  | none => exact ⟨_, _, rfl, .kept trivial⟩
  | some l =>
    simp only
    unfold ClientLineage.evictHistorical
    by_cases hc : l.current = some cursor
    · rw [if_pos hc]
      refine ⟨_, _, rfl, ?_⟩
      rw [setLineage_same hl]
      exact .kept trivial
    · rw [if_neg hc]
      cases hr : l.retained.get? cursor with
      | none =>
        refine ⟨_, _, rfl, ?_⟩
        rw [setLineage_same hl]
        exact .kept trivial
      | some removed =>
        have hexact := (hs.lineage key l hl).exact.total
        have hbytes : Checked.sub l.retainedBytes removed.image.accountedBytes =
            .ok (imageBytes (l.retained.erase cursor)) := by
          rw [hexact, imageBytes_erase hr, Checked.sub_ok (Nat.le_add_right _ _),
            Nat.add_sub_cancel_left]
        simp only [hbytes, Checked.ok_bind]
        exact ⟨_, _, rfl, .evicted hl hc⟩

/-- In a sound set every operation returns, and does one of the listed things. -/
theorem exec_effect (hs : s.Sound) (op : ClientOp S D E) :
    ∃ reply s', s.exec op = .ok (reply, s') ∧ Effect s op reply s' := by
  cases op with
  | addLineage key retention =>
    refine ⟨.added (s.addLineage key retention).1, (s.addLineage key retention).2, rfl, ?_⟩
    unfold addLineage
    by_cases hp : s.lineages.contains key = true
    · rw [if_pos hp]
      exact .kept trivial
    · rw [if_neg hp]
      by_cases hroom : s.lineages.size ≥ s.limits.maxLineages.get
      · rw [if_pos hroom]
        exact .kept trivial
      · rw [if_neg hroom]
        refine .added ?_ (Nat.lt_of_not_le hroom)
        exact SortedMap.contains_eq_false.mp (Bool.eq_false_iff.mpr hp)
  | removeLineage key => exact ⟨_, _, rfl, .removed⟩
  | applyFull key snapshot hostCommit =>
    obtain ⟨a, ha, heff⟩ := applyFull_exec (D := D) hs key snapshot hostCommit
    refine ⟨_, _, ?_, heff⟩
    rw [exec, ha]
    rfl
  | applyDelta key snapshot reconstruct hostCommit =>
    obtain ⟨a, ha, heff⟩ := applyDelta_exec hs key snapshot reconstruct hostCommit
    refine ⟨_, _, ?_, heff⟩
    rw [exec, ha]
    rfl
  | requireConnectionReplacementFull key =>
    refine ⟨.required (s.requireConnectionReplacementFull key).1,
      (s.requireConnectionReplacementFull key).2, rfl, ?_⟩
    unfold requireConnectionReplacementFull enterRecovery
    cases hl : s.lineages.get? key with
    | none => exact .kept trivial
    | some l =>
      have hq : (ClientReply.required (.ok ()) : ClientReply S E).Quiet := trivial
      exact .recovered hq hl .connectionReplacement
  | evictHistorical key cursor =>
    obtain ⟨r, s', h, heff⟩ := evictHistorical_exec (D := D) (E := E) hs key cursor
    refine ⟨_, _, ?_, heff⟩
    rw [exec, h]
    rfl

end Effects

/-! ### The invariant -/

section Invariant

variable {s : ClientReplicationSet S} {key : ReplicationLineageKey} {l l' : ClientLineage S}

theorem get?_setLineage_cases {k : ReplicationLineageKey} {m : ClientLineage S}
    (h : (s.setLineage key l').lineages.get? k = some m) :
    (k = key ∧ m = l') ∨ (k ≠ key ∧ s.lineages.get? k = some m) := by
  by_cases hk : k = key
  · subst hk
    rw [get?_setLineage_self] at h
    exact .inl ⟨rfl, (Option.some.inj h).symm⟩
  · rw [get?_setLineage_ne s l' hk] at h
    exact .inr ⟨hk, h⟩

/-- Replacing a lineage by a sound one keeps the set sound when the totals stay within limits. -/
theorem Sound.setLineage (hs : s.Sound) (hl : s.lineages.get? key = some l) (hl' : l'.Sound)
    (himages : l'.retained.size + (s.lineages.erase key).sum (fun _ m => m.retained.size) ≤
      s.limits.maxRetainedImages.get)
    (hbytes : l'.retainedBytes + (s.lineages.erase key).sum (fun _ m => m.retainedBytes) ≤
      s.limits.maxRetainedStateBytes.get) : (s.setLineage key l').Sound where
  lineage := by
    intro k m hm
    rcases get?_setLineage_cases hm with ⟨-, rfl⟩ | ⟨-, hm⟩
    · exact hl'
    · exact hs.lineage k m hm
  lineages_le := by
    show (s.lineages.insert key l').size ≤ _
    rw [SortedMap.size_insert_of_some l' hl]
    exact hs.lineages_le
  images_le := by
    show (s.lineages.insert key l').sum _ ≤ _
    rw [SortedMap.sum_insert]
    exact himages
  bytes_le := by
    show (s.lineages.insert key l').sum _ ≤ _
    rw [SortedMap.sum_insert]
    exact hbytes

theorem Sound.setSmaller (hs : s.Sound) (hl : s.lineages.get? key = some l) (hl' : l'.Sound)
    (hsize : l'.retained.size ≤ l.retained.size) (hbytes : l'.retainedBytes ≤ l.retainedBytes) :
    (s.setLineage key l').Sound := by
  have himages := hs.images_le
  have htotal := hs.bytes_le
  rw [SortedMap.sum_of_get? _ hl] at himages htotal
  refine hs.setLineage hl hl' ?_ ?_
  · omega
  · omega

/-- What the aggregate check of a commit compares. -/
theorem aggregateCommitFits_true (hl : s.lineages.get? key = some l) {plan : CommitPlan}
    {bytes : Nat} (h : s.aggregateCommitFits l plan bytes = true) :
    plan.resultingCount + (s.lineages.erase key).sum (fun _ m => m.retained.size) ≤
      s.limits.maxRetainedImages.get ∧
    plan.resultingBytes + (s.lineages.erase key).sum (fun _ m => m.retainedBytes) ≤
      s.limits.maxRetainedStateBytes.get := by
  simp only [aggregateCommitFits, Option.getD_eq_iff, Option.bind_eq_bind,
    Option.bind_eq_some_iff, Option.pure_def, Option.some.injEq, Bool.false_eq_true, and_false,
    or_false, Bool.and_eq_true, decide_eq_true_eq] at h
  obtain ⟨count, hcount, total, htotal, other, hother, projected, hprojected, otherBytes,
    hotherBytes, projectedBytes, hprojectedBytes, ⟨himages, hbytes⟩, -⟩ := h
  rw [checkedRetainedImageCount, checkedTotal_eq_some, SortedMap.sum_values,
    SortedMap.sum_of_get? _ hl] at hcount
  rw [checkedRetainedStateBytes, checkedTotal_eq_some, SortedMap.sum_values,
    SortedMap.sum_of_get? _ hl] at htotal
  rw [checkedSub_eq_some] at hother hotherBytes
  rw [checkedAdd_eq_some] at hprojected hprojectedBytes
  constructor
  · omega
  · omega

theorem Offer.refused_cases {op : ClientOp S D E} {target : ReplicationCursor}
    {tick : SimulationTick} {image : AccountedState S} {hostCommit : S → Except E Unit}
    (ho : Offer l op target tick image hostCommit l') :
    l' = l ∨ l' = l.enterRecovery .deltaCommitFailure := by
  cases ho with
  | full => exact .inl rfl
  | delta _ _ _ => exact .inr rfl

theorem Effect.sound {op : ClientOp S D E} {reply : ClientReply S E} {s' : ClientReplicationSet S}
    (h : Effect s op reply s') (hs : s.Sound) : s'.Sound := by
  cases h with
  | @added key retention habsent hroom =>
    refine ⟨?_, ?_, ?_, ?_⟩
    · intro k m hm
      rw [SortedMap.get?_insert] at hm
      split at hm
      · cases hm; exact ClientLineage.sound_new key retention
      · exact hs.lineage k m hm
    · show (s.lineages.insert key _).size ≤ _
      rw [SortedMap.size_insert_of_none _ habsent]
      exact hroom
    · show (s.lineages.insert key _).sum _ ≤ _
      rw [SortedMap.sum_insert, SortedMap.erase_of_get?_none habsent]
      simpa [ClientLineage.new, SortedMap.size, SortedMap.empty] using hs.images_le
    · show (s.lineages.insert key _).sum _ ≤ _
      rw [SortedMap.sum_insert, SortedMap.erase_of_get?_none habsent]
      simpa [ClientLineage.new] using hs.bytes_le
  | @removed key =>
    have himages := hs.images_le
    have hbytes := hs.bytes_le
    rw [SortedMap.sum_split _ s.lineages key] at himages hbytes
    refine ⟨?_, ?_, ?_, ?_⟩
    · intro k m hm
      rw [SortedMap.get?_erase] at hm
      split at hm
      · cases hm
      · exact hs.lineage k m hm
    · exact Nat.le_trans (SortedMap.size_erase_le _ _) hs.lineages_le
    · exact Nat.le_trans (Nat.le_add_left _ _) himages
    · exact Nat.le_trans (Nat.le_add_left _ _) hbytes
  | kept hq => exact hs
  | recovered hq hl reason =>
    exact hs.setSmaller hl ((hs.lineage _ _ hl).enterRecovery reason) (Nat.le_refl _)
      (Nat.le_refl _)
  | @evicted key cursor l hl hc =>
    have hsound := hs.lineage _ _ hl
    refine hs.setSmaller hl (hsound.afterEviction hc) (SortedMap.size_erase_le _ _) ?_
    show imageBytes (l.retained.erase cursor) ≤ l.retainedBytes
    rw [hsound.exact.total]
    exact imageBytes_erase_le _ _
  | refused hl ho hhost =>
    rcases ho.refused_cases with rfl | rfl
    · rwa [setLineage_same hl]
    · exact hs.setSmaller hl ((hs.lineage _ _ hl).enterRecovery _) (Nat.le_refl _) (Nat.le_refl _)
  | @committed op l onRefusal target tick image hostCommit n hl ho hhost hnew htick hfit hset =>
    have hsound := hs.lineage _ _ hl
    have haggregate := aggregateCommitFits_true hl hset
    refine hs.setLineage hl (hsound.afterCommit hnew hfit) ?_ ?_
    · show ((l.retained.drop n).insert target _).size + _ ≤ _
      rw [SortedMap.size_insert_of_none _ (hsound.absent_drop hnew n)]
      exact haggregate.1
    · exact haggregate.2

end Invariant

/-! ### What one step keeps -/

/-- What a lineage has committed: its current cursor, its images and their bytes. -/
def images (s : ClientReplicationSet S) (key : ReplicationLineageKey) :
    Option (Option ReplicationCursor × RetainedImages S × Nat) :=
  (s.lineages.get? key).map fun l => (l.current, l.retained, l.retainedBytes)

/-- An apply calls the host at most once, and then commits or reports the host's error. -/
def HostCalled (op : ClientOp S D E) (r : Except (ClientApplyError E) ClientSnapshotOutcome)
    (calls : List S) : Prop :=
  calls = [] ∨ ∃ state hostCommit, calls = [state] ∧ op.hostCommit = some hostCommit ∧
    ((hostCommit state = .ok () ∧ ∃ c, r = .ok (.committed c)) ∨
      ∃ source, hostCommit state = .error source ∧ r = .error (.hostCommitFailure source))

/-- The facts about one operation. -/
structure StepSound (s : ClientReplicationSet S) (op : ClientOp S D E) (reply : ClientReply S E)
    (s' : ClientReplicationSet S) : Prop where
  /-- Only a commit touches what a lineage has committed. -/
  uncommitted : ∀ r calls, reply = .applied r calls → (∀ c, r ≠ .ok (.committed c)) →
    ∀ key, s'.images key = s.images key
  /-- A commit advances the cursor of its lineage and does not go back in time. -/
  committed : ∀ c calls, reply = .applied (.ok (.committed c)) calls →
    ∃ l l' tick, s.lineages.get? op.key = some l ∧ s'.lineages.get? op.key = some l' ∧
      (∀ d, l.current = some d → d < c) ∧ (∀ t, l.currentTick = some t → t ≤ tick) ∧
      l'.current = some c ∧ l'.currentTick = some tick ∧ op.tick = some tick
  /-- Only a committed full snapshot leaves recovery. -/
  recovery : ∀ key l l', s.lineages.get? key = some l → s'.lineages.get? key = some l' →
    l.state ≠ .synchronized → l'.state = .synchronized →
    ∃ snapshot hostCommit calls, op = .applyFull key snapshot hostCommit ∧
      reply = .applied (.ok (.committed snapshot.targetCursor)) calls
  host : ∀ r calls, reply = .applied r calls → HostCalled op r calls

section Steps

variable {s s' : ClientReplicationSet S} {op : ClientOp S D E} {reply : ClientReply S E}

theorem images_setLineage {key : ReplicationLineageKey} {l : ClientLineage S}
    (l' : ClientLineage S) (hl : s.lineages.get? key = some l)
    (h : (l'.current, l'.retained, l'.retainedBytes) = (l.current, l.retained, l.retainedBytes))
    (k : ReplicationLineageKey) : (s.setLineage key l').images k = s.images k := by
  unfold images
  by_cases hk : k = key
  · rw [hk, get?_setLineage_self, hl]
    exact congrArg some h
  · rw [get?_setLineage_ne s l' hk]

theorem Effect.uncommitted (h : Effect s op reply s')
    {r : Except (ClientApplyError E) ClientSnapshotOutcome} {calls : List S}
    (hreply : reply = .applied r calls) (hr : ∀ c, r ≠ .ok (.committed c))
    (key : ReplicationLineageKey) : s'.images key = s.images key := by
  cases h with
  | added habsent hroom => cases hreply
  | removed => cases hreply
  | kept hq => rfl
  | @recovered op reply l hq hl reason =>
    exact images_setLineage (l.enterRecovery reason) hl rfl key
  | evicted hl hc => cases hreply
  | @refused op l onRefusal target tick image hostCommit source hl ho hhost =>
    rcases ho.refused_cases with rfl | rfl
    · exact images_setLineage _ hl rfl key
    · exact images_setLineage (l.enterRecovery .deltaCommitFailure) hl rfl key
  | committed hl ho hhost hnew htick hfit hset =>
    cases hreply
    exact absurd rfl (hr _)

theorem Offer.tick {l l' : ClientLineage S} {target : ReplicationCursor} {tick : SimulationTick}
    {image : AccountedState S} {hostCommit : S → Except E Unit}
    (ho : Offer l op target tick image hostCommit l') :
    op.tick = some tick ∧ op.hostCommit = some hostCommit := by
  cases ho with
  | full => exact ⟨rfl, rfl⟩
  | delta _ _ _ => exact ⟨rfl, rfl⟩

theorem Effect.committed_step (h : Effect s op reply s') {c : ReplicationCursor} {calls : List S}
    (hreply : reply = .applied (.ok (.committed c)) calls) :
    ∃ l l' tick, s.lineages.get? op.key = some l ∧ s'.lineages.get? op.key = some l' ∧
      (∀ d, l.current = some d → d < c) ∧ (∀ t, l.currentTick = some t → t ≤ tick) ∧
      l'.current = some c ∧ l'.currentTick = some tick ∧ op.tick = some tick := by
  cases h with
  | added habsent hroom => cases hreply
  | removed => cases hreply
  | kept hq =>
    subst hreply
    exact absurd rfl (hq.2 c)
  | recovered hq hl reason =>
    subst hreply
    exact absurd rfl (hq.2 c)
  | evicted hl hc => cases hreply
  | refused hl ho hhost => cases hreply
  | @committed op l onRefusal target tick image hostCommit n hl ho hhost hnew htick hfit hset =>
    cases hreply
    refine ⟨l, _, tick, hl, s.get?_setLineage_self _ _, hnew, htick, rfl, ?_, ho.tick.1⟩
    exact ClientLineage.currentTick_afterCommit _ _ _ _ _

theorem Effect.recovery (h : Effect s op reply s') {key : ReplicationLineageKey}
    {l l' : ClientLineage S} (hl : s.lineages.get? key = some l)
    (hl' : s'.lineages.get? key = some l') (hstate : l.state ≠ .synchronized)
    (hstate' : l'.state = .synchronized) :
    ∃ snapshot hostCommit calls, op = .applyFull key snapshot hostCommit ∧
      reply = .applied (.ok (.committed snapshot.targetCursor)) calls := by
  -- Every other effect leaves the lineage as it was or in recovery.
  have hsame : s.lineages.get? key ≠ some l' := by
    intro h
    rw [hl] at h
    cases h
    exact hstate hstate'
  cases h with
  | @added k retention habsent hroom =>
    rw [SortedMap.get?_insert] at hl'
    split at hl'
    · cases hl'; cases hstate'
    · exact absurd hl' hsame
  | @removed k =>
    rw [SortedMap.get?_erase] at hl'
    split at hl'
    · cases hl'
    · exact absurd hl' hsame
  | kept hq => exact absurd hl' hsame
  | recovered hq hm reason =>
    rcases get?_setLineage_cases hl' with ⟨-, rfl⟩ | ⟨-, hl'⟩
    · cases hstate'
    · exact absurd hl' hsame
  | evicted hm hc =>
    rcases get?_setLineage_cases hl' with ⟨rfl, rfl⟩ | ⟨-, hl'⟩
    · rw [hl] at hm
      cases hm
      exact absurd hstate' hstate
    · exact absurd hl' hsame
  | refused hm ho hhost =>
    rcases get?_setLineage_cases hl' with ⟨rfl, rfl⟩ | ⟨-, hl'⟩
    · rcases ho.refused_cases with rfl | rfl
      · exact absurd hm hsame
      · cases hstate'
    · exact absurd hl' hsame
  | committed hm ho hhost hnew htick hfit hset =>
    rcases get?_setLineage_cases hl' with ⟨rfl, rfl⟩ | ⟨-, hl'⟩
    · cases ho with
      | full => exact ⟨_, _, _, rfl, rfl⟩
      | delta hsync _ _ =>
        rw [hl] at hm
        cases hm
        exact absurd hsync hstate
    · exact absurd hl' hsame

theorem Effect.host (h : Effect s op reply s')
    {r : Except (ClientApplyError E) ClientSnapshotOutcome} {calls : List S}
    (hreply : reply = .applied r calls) : HostCalled op r calls := by
  cases h with
  | added habsent hroom => cases hreply
  | removed => cases hreply
  | kept hq =>
    subst hreply
    exact .inl hq.1
  | recovered hq hl reason =>
    subst hreply
    exact .inl hq.1
  | evicted hl hc => cases hreply
  | refused hl ho hhost =>
    cases hreply
    exact .inr ⟨_, _, rfl, ho.tick.2, .inr ⟨_, hhost, rfl⟩⟩
  | committed hl ho hhost hnew htick hfit hset =>
    cases hreply
    exact .inr ⟨_, _, rfl, ho.tick.2, .inl ⟨hhost, _, rfl⟩⟩

theorem Effect.stepSound (h : Effect s op reply s') : StepSound s op reply s' where
  uncommitted := fun _ _ hreply hr => h.uncommitted hreply hr
  committed := fun _ _ hreply => h.committed_step hreply
  recovery := fun _ _ _ hl hl' => h.recovery hl hl'
  host := fun _ _ hreply => h.host hreply

end Steps

end ClientReplicationSet

/-! ### Runs -/

/-- A run of a set, with the commits of each lineage since it was added, newest first. -/
structure ClientHistory (S : Type) where
  set : ClientReplicationSet S
  commits : ReplicationLineageKey → List (ReplicationCursor × SimulationTick)

namespace ClientHistory

variable {S D E : Type}

def start (limits : ClientAggregateLimits) : ClientHistory S := ⟨.new limits, fun _ => []⟩

/-- The commits of a lineage after an operation on it. -/
def extend (op : ClientOp S D E) (reply : ClientReply S E)
    (commits : List (ReplicationCursor × SimulationTick)) :
    List (ReplicationCursor × SimulationTick) :=
  match reply with
  | .removed _ => []
  | .applied (.ok (.committed c)) _ => (op.tick.map fun tick => (c, tick)).toList ++ commits
  | _ => commits

def step (t : ClientHistory S) (op : ClientOp S D E) : Checked (ClientHistory S) := do
  let (reply, s) ← t.set.exec op
  return ⟨s, fun key => if key = op.key then extend op reply (t.commits key) else t.commits key⟩

def run (limits : ClientAggregateLimits) (ops : List (ClientOp S D E)) : Checked (ClientHistory S) :=
  ops.foldlM step (start limits)

/-- The newest commit is the current image of the lineage. -/
def Recorded (commits : List (ReplicationCursor × SimulationTick)) : Option (ClientLineage S) → Prop
  | none => commits = []
  | some l => commits.head?.map Prod.fst = l.current ∧ commits.head?.map Prod.snd = l.currentTick

/-- Newest first, cursors strictly increase and ticks never decrease. -/
def Advancing (commits : List (ReplicationCursor × SimulationTick)) : Prop :=
  commits.Pairwise fun newer older => older.1 < newer.1 ∧ older.2 ≤ newer.2

structure Sound (t : ClientHistory S) : Prop where
  set : t.set.Sound
  recorded : ∀ key, Recorded (t.commits key) (t.set.lineages.get? key)
  advancing : ∀ key, Advancing (t.commits key)

theorem sound_start (limits : ClientAggregateLimits) : (start limits : ClientHistory S).Sound where
  set := ClientReplicationSet.sound_new limits
  recorded := fun _ => rfl
  advancing := fun _ => List.Pairwise.nil

theorem extend_quiet (op : ClientOp S D E) {reply : ClientReply S E} (h : reply.Quiet)
    (commits : List (ReplicationCursor × SimulationTick)) : extend op reply commits = commits := by
  cases reply with
  | added r => rfl
  | removed r => exact absurd h id
  | applied r calls =>
    cases r with
    | error e => rfl
    | ok outcome =>
      cases outcome with
      | committed c => exact absurd rfl (h.2 c)
      | stale | duplicateCurrent | tickRegression | missingBase | deltaBlockedByRecovery
      | malformedDelta | reconstructionFailure | stateResourceFailure => rfl
  | required r => rfl
  | evicted r => rfl

/-- A commit newer than the newest one extends an advancing list. -/
theorem Advancing.cons {commits : List (ReplicationCursor × SimulationTick)}
    (h : Advancing commits) {c : ReplicationCursor} {tick : SimulationTick}
    (hc : ∀ d, commits.head?.map Prod.fst = some d → d < c)
    (ht : ∀ t, commits.head?.map Prod.snd = some t → t ≤ tick) :
    Advancing ((c, tick) :: commits) := by
  refine List.Pairwise.cons (fun older hm => ?_) h
  cases commits with
  | nil => cases hm
  | cons newest rest =>
    have hnewest : newest.1 < c ∧ newest.2 ≤ tick := ⟨hc _ rfl, ht _ rfl⟩
    rcases List.mem_cons.mp hm with rfl | hm
    · exact hnewest
    · have hold := (List.pairwise_cons.mp h).1 older hm
      exact ⟨hold.1.trans hnewest.1, hold.2.trans hnewest.2⟩

section Steps

variable {s s' : ClientReplicationSet S} {op : ClientOp S D E} {reply : ClientReply S E}
  {commits : List (ReplicationCursor × SimulationTick)}

/-- An operation keeps the record of the lineage it names. -/
theorem extend_recorded (heff : ClientReplicationSet.Effect s op reply s')
    (hr : Recorded commits (s.lineages.get? op.key)) :
    Recorded (extend op reply commits) (s'.lineages.get? op.key) := by
  cases heff with
  | @added key retention habsent hroom =>
    have hnone : commits = [] := by
      rw [show (ClientOp.addLineage key retention : ClientOp S D E).key = key from rfl,
        habsent] at hr
      exact hr
    show Recorded commits ((s.lineages.insert key _).get? key)
    rw [SortedMap.get?_insert_self, hnone]
    exact ⟨rfl, rfl⟩
  | @removed key =>
    show Recorded [] ((s.lineages.erase key).get? key)
    rw [SortedMap.get?_erase_self]
    rfl
  | kept hq =>
    rw [extend_quiet _ hq]
    exact hr
  | recovered hq hl reason =>
    rw [extend_quiet _ hq, ClientReplicationSet.get?_setLineage_self]
    rw [hl] at hr
    exact hr
  | @evicted key cursor l hl hc =>
    show Recorded commits ((s.setLineage key (l.afterEviction cursor)).lineages.get? key)
    rw [show (ClientOp.evictHistorical key cursor : ClientOp S D E).key = key from rfl, hl] at hr
    rw [ClientReplicationSet.get?_setLineage_self]
    exact ⟨hr.1, by rw [ClientLineage.currentTick_afterEviction hc]; exact hr.2⟩
  | refused hl ho hhost =>
    rw [hl] at hr
    rw [ClientReplicationSet.get?_setLineage_self]
    rcases ho.refused_cases with rfl | rfl
    · exact hr
    · exact hr
  | committed hl ho hhost hnew htick hfit hset =>
    rw [ClientReplicationSet.get?_setLineage_self]
    simp only [extend, ho.tick.1]
    exact ⟨rfl, (ClientLineage.currentTick_afterCommit _ _ _ _ _).symm⟩

theorem extend_advancing (heff : ClientReplicationSet.Effect s op reply s')
    (hr : Recorded commits (s.lineages.get? op.key)) (ha : Advancing commits) :
    Advancing (extend op reply commits) := by
  cases heff with
  | added habsent hroom => exact ha
  | removed => exact List.Pairwise.nil
  | kept hq => rwa [extend_quiet _ hq]
  | recovered hq hl reason => rwa [extend_quiet _ hq]
  | evicted hl hc => exact ha
  | refused hl ho hhost => exact ha
  | committed hl ho hhost hnew htick hfit hset =>
    rw [hl] at hr
    simp only [extend, ho.tick.1]
    refine Advancing.cons ha (fun d hd => hnew d ?_) (fun t ht => htick t ?_)
    · rw [← hr.1]
      exact hd
    · rw [← hr.2]
      exact ht

end Steps

/-- A step from a sound history returns a sound one. -/
theorem step_sound {t : ClientHistory S} (ht : t.Sound) (op : ClientOp S D E) :
    ∃ t', t.step op = .ok t' ∧ t'.Sound := by
  obtain ⟨reply, s', hexec, heff⟩ := ClientReplicationSet.exec_effect ht.set op
  refine ⟨_, by rw [step, hexec, Checked.ok_bind]; rfl, heff.sound ht.set, fun key => ?_,
    fun key => ?_⟩
  · by_cases hk : key = op.key
    · subst hk
      simp only [if_pos]
      exact extend_recorded heff (ht.recorded _)
    · simp only [if_neg hk]
      rw [ClientReplicationSet.exec_frame hexec hk]
      exact ht.recorded key
  · by_cases hk : key = op.key
    · subst hk
      simp only [if_pos]
      exact extend_advancing heff (ht.recorded _) (ht.advancing _)
    · simp only [if_neg hk]
      exact ht.advancing key

theorem run_sound (limits : ClientAggregateLimits) (ops : List (ClientOp S D E)) :
    ∃ t, run limits ops = .ok t ∧ t.Sound := by
  induction ops using List.reverseRecOn with
  | nil => exact ⟨_, rfl, sound_start limits⟩
  | append_singleton ops op ih =>
    obtain ⟨t, hrun, ht⟩ := ih
    obtain ⟨t', hstep, ht'⟩ := step_sound ht op
    refine ⟨t', ?_, ht'⟩
    rw [run, List.foldlM_append, ← run, hrun, Checked.ok_bind, List.foldlM_cons, hstep]
    rfl

/-- Every run returns in a sound set whose lineages only ever advanced, and every operation of
that set returns, commits forward, and changes images and recovery only as allowed. -/
theorem lineage_invariant (limits : ClientAggregateLimits) (ops : List (ClientOp S D E)) :
    ∃ t, run limits ops = .ok t ∧ t.set.Sound ∧ (∀ key, Advancing (t.commits key)) ∧
      ∀ op : ClientOp S D E, ∃ reply s', t.set.exec op = .ok (reply, s') ∧
        ClientReplicationSet.StepSound t.set op reply s' := by
  obtain ⟨t, hrun, ht⟩ := run_sound limits ops
  refine ⟨t, hrun, ht.set, ht.advancing, fun op => ?_⟩
  obtain ⟨reply, s', hexec, heff⟩ := ClientReplicationSet.exec_effect ht.set op
  exact ⟨reply, s', hexec, heff.stepSound⟩

/-! ### Planning -/

/-- `plan` evicts the `n` oldest images of `l`, and no shorter prefix makes room. -/
structure Shortest (l : ClientLineage S) (bytes n : Nat) (plan : CommitPlan) : Prop where
  evict : plan.evict = (l.retained.entries.take n).map Prod.fst
  within : n ≤ l.retained.size
  fits : l.FitsAfter bytes n
  least : ∀ m, l.FitsAfter bytes m → n ≤ m
  count : plan.resultingCount = (l.retained.drop n).size + 1
  bytes_eq : plan.resultingBytes = imageBytes (l.retained.drop n) + bytes

theorem shortest_planOf {l : ClientLineage S} {bytes n : Nat} (hfit : l.FitsAfter bytes n)
    (hleast : ∀ m, m < n → ¬ l.FitsAfter bytes m) : Shortest l bytes n (l.planOf bytes n) where
  evict := rfl
  within := by
    refine not_lt.mp fun hlt => hleast l.retained.size hlt ?_
    -- past the last image there is nothing left to evict
    have hdrop : l.retained.drop l.retained.size = l.retained.drop n := by
      refine SortedMap.ext_entries ?_
      simp only [SortedMap.drop, SortedMap.size]
      rw [List.drop_length, List.drop_eq_nil_of_le (Nat.le_of_lt hlt)]
    rw [ClientLineage.FitsAfter, hdrop]
    exact hfit
  fits := hfit
  least := fun m hm => not_lt.mp fun hlt => hleast m hlt hm
  count := rfl
  bytes_eq := rfl

/-- In every reachable lineage the plan is the shortest one, it is missing exactly for an image that
is too large by itself, and the commit of a newer image reaches the planned totals. -/
theorem planning_minimal_exact (limits : ClientAggregateLimits) (ops : List (ClientOp S D E)) :
    ∃ t, run limits ops = .ok t ∧ ∀ key l, t.set.lineages.get? key = some l → ∀ bytes,
      (l.planCommit bytes = .ok none ↔ l.limits.maxStateImageBytes.get < bytes ∨
        l.limits.maxCandidateBytesPerLineage.get < bytes ∨
        l.limits.maxRetainedStateBytesPerLineage.get < bytes) ∧
      (l.planCommit bytes = .ok none ∨ ∃ plan n, l.planCommit bytes = .ok (some plan) ∧
        Shortest l bytes n plan ∧
        ∀ target tick (image : AccountedState S), image.accountedBytes = bytes →
          l.classifyCursor target = none →
          ∃ l', l.commitWithPlan target tick image plan = .ok l' ∧
            l'.retained = (l.retained.drop n).insert target ⟨tick, image⟩ ∧
            l'.retained.size = plan.resultingCount ∧ l'.retainedBytes = plan.resultingBytes) := by
  obtain ⟨t, hrun, ht⟩ := run_sound limits ops
  refine ⟨t, hrun, fun key l hl bytes => ?_⟩
  have hsound := ht.set.lineage key l hl
  have hfits : l.stateImageFits bytes = false ↔ l.limits.maxStateImageBytes.get < bytes ∨
      l.limits.maxCandidateBytesPerLineage.get < bytes ∨
      l.limits.maxRetainedStateBytesPerLineage.get < bytes := by
    simp only [ClientLineage.stateImageFits, Bool.and_eq_false_iff, decide_eq_false_iff_not, not_le,
      or_assoc]
  rw [← hfits]
  cases h : l.stateImageFits bytes with
  | false => exact ⟨by simp [ClientLineage.planCommit_none h], .inl (ClientLineage.planCommit_none h)⟩
  | true =>
    obtain ⟨n, hplan, hfit, hleast⟩ := ClientLineage.planCommit_some hsound.exact h
    refine ⟨by simp [hplan], .inr ⟨_, n, hplan, shortest_planOf hfit hleast, ?_⟩⟩
    rintro target tick image rfl hnew
    have habsent := hsound.absent (ClientLineage.classifyCursor_none hnew)
    refine ⟨_, ClientLineage.commitWithPlan_planOf hsound.exact hfit habsent, rfl, ?_, rfl⟩
    exact SortedMap.size_insert_of_none _ (SortedMap.get?_drop_of_none habsent n)

end ClientHistory

end RunenNet
