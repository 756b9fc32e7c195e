import RunenNet.Core.Replication.AuthorityBounds

/-!
# Releasing an authority session's budgets

The host can cancel candidates and evict retained images. Neither gives emission evidence back,
nor the base of a lineage whose recovery generation is exhausted. What the host can release it
can release completely, so a full snapshot can be prepared exactly when these two leave room.
-/

namespace RunenNet

open Foundation

/-- What an empty candidate takes of a budget. -/
def Resource.taken : Resource → Nat
  | .images => 1
  | .evidence => 1
  | .retainedBytes => 0
  | .stateBytes => 0

namespace AuthorityLineage

variable {S D : Type}

/-- The delta base of the lineage cannot be evicted: no recovery generation is left. -/
def Pinned (l : AuthorityLineage S D) : Prop :=
  ∃ base, l.state = .deltaEligible base ∧ RecoveryGeneration.checkedNext l.generation = none

instance (l : AuthorityLineage S D) : Decidable l.Pinned :=
  match h : l.state with
  | .deltaEligible base =>
    decidable_of_iff (RecoveryGeneration.checkedNext l.generation = none)
      ⟨fun hn => ⟨base, h, hn⟩, fun ⟨_, _, hn⟩ => hn⟩
  | .fullSnapshotRequired .. => isFalse fun ⟨_, hb, _⟩ => by rw [h] at hb; cases hb

def pinnedImages (l : AuthorityLineage S D) : Nat := if l.Pinned then 1 else 0

/-- What releasing cannot change. -/
structure Released (l l' : AuthorityLineage S D) : Prop where
  evidence : l'.evidence = l.evidence
  greatestEmitted : l'.greatestEmitted = l.greatestEmitted
  greatestEmittedTick : l'.greatestEmittedTick = l.greatestEmittedTick
  pinned : l'.Pinned ↔ l.Pinned

theorem Released.refl (l : AuthorityLineage S D) : Released l l := ⟨rfl, rfl, rfl, Iff.rfl⟩

theorem Released.trans {l l' l'' : AuthorityLineage S D} (h : Released l l')
    (h' : Released l' l'') : Released l l'' :=
  ⟨h'.evidence.trans h.evidence, h'.greatestEmitted.trans h.greatestEmitted,
    h'.greatestEmittedTick.trans h.greatestEmittedTick, h'.pinned.trans h.pinned⟩

theorem Released.pinnedImages {l l' : AuthorityLineage S D} (h : Released l l') :
    l'.pinnedImages = l.pinnedImages := by
  unfold AuthorityLineage.pinnedImages
  by_cases hp : l.Pinned
  · rw [if_pos hp, if_pos (h.pinned.mpr hp)]
  · rw [if_neg hp, if_neg (fun hp' => hp (h.pinned.mp hp'))]

theorem cancelPending_released (l : AuthorityLineage S D) : Released l l.cancelPending.2 :=
  ⟨rfl, rfl, rfl, Iff.rfl⟩

theorem evictRetainedState_released {l l' : AuthorityLineage S D} {cursor : ReplicationCursor}
    {r : Except AuthorityOperationError Bool} (h : l.evictRetainedState cursor = .ok (r, l')) :
    Released l l' := by
  unfold evictRetainedState at h
  by_cases hbase : l.state = .deltaEligible cursor
  · rw [if_pos hbase] at h
    cases hn : RecoveryGeneration.checkedNext l.generation with
    | none =>
      rw [hn] at h
      cases h
      exact .refl l
    | some next =>
      rw [hn] at h
      cases hr : l.retained.get? cursor with
      | none =>
        rw [hr] at h
        cases h
        exact .refl l
      | some removed =>
        simp only [hr, Checked.bind_eq_ok] at h
        obtain ⟨bytes, -, h⟩ := h
        cases h
        refine ⟨rfl, rfl, rfl, ?_, ?_⟩
        · rintro ⟨base, hb, -⟩
          cases hb
        · rintro ⟨base, -, hnone⟩
          rw [hn] at hnone
          cases hnone
  · rw [if_neg hbase] at h
    cases hr : l.retained.get? cursor with
    | none =>
      rw [hr] at h
      cases h
      exact .refl l
    | some removed =>
      simp only [hr, Checked.bind_eq_ok] at h
      obtain ⟨bytes, -, h⟩ := h
      cases h
      exact ⟨rfl, rfl, rfl, Iff.rfl⟩

/-- A pinned lineage holds at least the image of its base. -/
theorem Sound.pinnedImages_le {l : AuthorityLineage S D} (hs : l.Sound) :
    l.pinnedImages ≤ l.retained.size := by
  unfold AuthorityLineage.pinnedImages
  by_cases hp : l.Pinned
  · obtain ⟨base, hb, -⟩ := hp
    obtain ⟨r, hr⟩ := hs.eligible base hb
    have := SortedMap.size_erase_of_some hr
    split <;> omega
  · rw [if_neg hp]
    exact Nat.zero_le _

/-- Beyond the pinned image there is one that can be evicted. -/
theorem exists_evictable {l : AuthorityLineage S D} (h : l.pinnedImages < l.retained.size) :
    ∃ c r, l.retained.get? c = some r ∧ (l.state = .deltaEligible c →
      ∃ next, RecoveryGeneration.checkedNext l.generation = some next) := by
  by_cases hp : l.Pinned
  · obtain ⟨base, hb, hn⟩ := hp
    have hone : l.pinnedImages = 1 := if_pos ⟨base, hb, hn⟩
    have hrest : 0 < (l.retained.erase base).size := by
      cases hr : l.retained.get? base with
      | none =>
        rw [SortedMap.erase_of_get?_none hr]
        omega
      | some r =>
        have := SortedMap.size_erase_of_some hr
        omega
    obtain ⟨c, r, hc⟩ := SortedMap.exists_of_size_pos hrest
    refine ⟨c, r, erase_subset hc, fun hstate => ?_⟩
    rw [hb] at hstate
    cases hstate
    rw [SortedMap.get?_erase_self] at hc
    cases hc
  · obtain ⟨c, r, hc⟩ := SortedMap.exists_of_size_pos (Nat.lt_of_le_of_lt (Nat.zero_le _) h)
    refine ⟨c, r, hc, fun hstate => ?_⟩
    cases hn : RecoveryGeneration.checkedNext l.generation with
    | none => exact absurd ⟨c, hstate, hn⟩ hp
    | some next => exact ⟨next, rfl⟩

theorem prepareFull_designated {l : AuthorityLineage S D} {base : ReplicationCursor}
    (h : l.state = .deltaEligible base) (snapshot : FullSnapshot S) :
    ∃ e, (l.prepareFull snapshot true).1 = .error e := by
  unfold prepareFull
  split
  · exact ⟨_, rfl⟩
  · split
    · exact ⟨_, rfl⟩
    · split
      · exact ⟨_, rfl⟩
      · simp only [recoveryDesignation, h, if_pos]
        exact ⟨_, rfl⟩

/-- An empty, newer full snapshot fits an empty slot; a designated one needs a recovery. -/
theorem Sound.prepareFull_ok {l : AuthorityLineage S D} (hs : l.Sound) (hempty : l.pending = none)
    {snapshot : FullSnapshot S} (hbytes : snapshot.image.accountedBytes = 0)
    (hnew : ∀ g, l.greatestEmitted = some g → g < snapshot.targetCursor)
    (htick : ∀ t, l.greatestEmittedTick = some t → t ≤ snapshot.targetTick) {designate : Bool}
    (hd : designate = true → ∃ reason generation watermark,
      l.state = .fullSnapshotRequired reason generation watermark) :
    ∃ generation, l.prepareFull snapshot designate =
      (.ok (SnapshotCandidate.full (D := D) snapshot generation).summary,
        { l with pending := some (.full snapshot generation) }) := by
  have hslot : l.requireCandidateSlot = .ok () := by simp [requireCandidateSlot, hempty]
  have htarget : l.validateNewEmissionTarget snapshot.targetCursor snapshot.targetTick = .ok () := by
    have hcursor : ¬ l.greatestEmitted.any (fun g => snapshot.targetCursor ≤ g) = true := by
      cases h : l.greatestEmitted with
      | none => simp
      | some g => simpa using hnew g h
    have hback : ¬ l.greatestEmittedTick.any (fun t => snapshot.targetTick < t) = true := by
      cases h : l.greatestEmittedTick with
      | none => simp
      | some t => simpa using htick t h
    rw [validateNewEmissionTarget, if_neg hcursor, if_neg hback]
  have hfits : l.candidateFits snapshot.image.accountedBytes 0 = true := by
    simp [candidateFits, hbytes]
  have hdesignation : ∃ generation,
      l.recoveryDesignation snapshot.targetCursor designate = .ok generation := by
    unfold recoveryDesignation
    cases designate with
    | false => exact ⟨none, rfl⟩
    | true =>
      obtain ⟨reason, generation, watermark, hstate⟩ := hd rfl
      have hmark : ¬ watermark.any (fun w => snapshot.targetCursor ≤ w) = true := by
        cases h : watermark with
        | none => simp
        | some w =>
          obtain ⟨g, hg, hle⟩ := hs.watermark_emitted reason generation w (h ▸ hstate)
          simpa using hle.trans_lt (hnew g hg)
      refine ⟨some generation, ?_⟩
      simp only [if_pos, hstate]
      rw [if_neg hmark]
  obtain ⟨generation, hgen⟩ := hdesignation
  refine ⟨generation, ?_⟩
  simp only [prepareFull, hslot, htarget, hfits, hgen, not_true_eq_false, if_false]

/-- An empty candidate takes a place of the images and of the evidence, and no bytes. -/
theorem charge_reserved {l : AuthorityLineage S D} (hempty : l.pending = none)
    {snapshot : FullSnapshot S} (hbytes : snapshot.image.accountedBytes = 0)
    (generation : Option RecoveryGeneration) (r : Resource) :
    ({ l with pending := some (.full snapshot generation) } : AuthorityLineage S D).charge r =
      l.charge r + r.taken := by
  cases r with
  | images => simp [charge, pendingCount, hasPending, hempty, Resource.taken]
  | retainedBytes =>
    simp [charge, pendingStateBytes, hempty, SnapshotCandidate.stateBytes, hbytes, Resource.taken]
  | evidence => simp [charge, pendingCount, hasPending, hempty, Resource.taken]
  | stateBytes =>
    simp [charge, pendingCandidateBytes, hempty, SnapshotCandidate.totalCandidateBytes, hbytes,
      Resource.taken]

/-- Evicting such an image gives back its place. -/
theorem evictRetainedState_charge {l : AuthorityLineage S D} (hs : l.Sound) {c : ReplicationCursor}
    {r : RetainedState S} (hr : l.retained.get? c = some r)
    (hnext : l.state = .deltaEligible c →
      ∃ next, RecoveryGeneration.checkedNext l.generation = some next) :
    ∃ a, l.evictRetainedState c = .ok a ∧ a.2.charge .images < l.charge .images := by
  have hsize := SortedMap.size_erase_of_some hr
  unfold evictRetainedState
  by_cases hbase : l.state = .deltaEligible c
  · obtain ⟨next, hn⟩ := hnext hbase
    simp only [if_pos hbase, hn, hr, hs.exact.sub hr, Checked.ok_bind, Checked.pure_eq]
    refine ⟨_, rfl, ?_⟩
    show (l.retained.erase c).size + 0 < l.retained.size + l.pendingCount
    omega
  · simp only [if_neg hbase, hr, hs.exact.sub hr, Checked.ok_bind, Checked.pure_eq]
    refine ⟨_, rfl, ?_⟩
    show (l.retained.erase c).size + l.pendingCount < l.retained.size + l.pendingCount
    omega

end AuthorityLineage

/-- The host's own release operations. -/
inductive Release where
  | cancelPending (p : ParticipantId)
  | evictRetainedState (p : ParticipantId) (cursor : ReplicationCursor)
  deriving DecidableEq, Repr

def Release.op {S D : Type} : Release → AuthoritySessionOp S D
  | .cancelPending p => .lineage p .cancelPending
  | .evictRetainedState p cursor => .lineage p (.evictRetainedState cursor)

namespace AuthorityReplicationSession

variable {S D : Type}

/-- The session after a list of releases. -/
def release (s : AuthorityReplicationSession S D) (rs : List Release) :
    Checked (AuthorityReplicationSession S D) := (rs.map Release.op).foldlM step s

/-- The emission evidence of all lineages. -/
def evidenceCount (s : AuthorityReplicationSession S D) : Nat :=
  s.lineages.sum fun _ l => l.evidence.size

/-- The images no release can evict. -/
def pinnedCount (s : AuthorityReplicationSession S D) : Nat :=
  s.lineages.sum fun _ l => l.pinnedImages

/-- An empty snapshot with a cursor newer than everything `l` emitted and a tick that does not go
backwards. -/
structure EmptyAndNewer (l : AuthorityLineage S D) (snapshot : FullSnapshot S) : Prop where
  empty : snapshot.image.accountedBytes = 0
  cursor_le : snapshot.targetCursor.get ≤ u64Max
  newer : ∀ g, l.greatestEmitted = some g → g < snapshot.targetCursor
  tick : ∀ t, l.greatestEmittedTick = some t → t ≤ snapshot.targetTick

/-- After some releases every empty, newer full snapshot can be prepared on the lineage. -/
def FullRecoverable (s : AuthorityReplicationSession S D) (p : ParticipantId)
    (l : AuthorityLineage S D) (designate : Bool) : Prop :=
  ∃ rs s', s.release rs = .ok s' ∧ ∀ snapshot, EmptyAndNewer l snapshot →
    ∃ summary, (s'.prepareFull p snapshot designate).1 = .ok summary

/-- What releasing cannot change of a session. -/
structure Released (s s' : AuthorityReplicationSession S D) : Prop where
  limits : s'.limits = s.limits
  evidence : s'.evidenceCount = s.evidenceCount
  pinned : s'.pinnedCount = s.pinnedCount
  lineage : ∀ p l, s.lineages.get? p = some l → ∃ l', s'.lineages.get? p = some l' ∧ l.Released l'

theorem Released.refl (s : AuthorityReplicationSession S D) : Released s s :=
  ⟨rfl, rfl, rfl, fun _ l hl => ⟨l, hl, .refl l⟩⟩

theorem Released.trans {s s' s'' : AuthorityReplicationSession S D} (h : Released s s')
    (h' : Released s' s'') : Released s s'' := by
  refine ⟨h'.limits.trans h.limits, h'.evidence.trans h.evidence, h'.pinned.trans h.pinned, ?_⟩
  intro p l hl
  obtain ⟨l', hl', hr⟩ := h.lineage p l hl
  obtain ⟨l'', hl'', hr'⟩ := h'.lineage p l' hl'
  exact ⟨l'', hl'', hr.trans hr'⟩

section Releasing

variable {s s' : AuthorityReplicationSession S D} {p : ParticipantId} {l : AuthorityLineage S D}

theorem Released.setLineage (hl : s.lineages.get? p = some l) {l' : AuthorityLineage S D}
    (h : l.Released l') : Released s (s.setLineage p l') where
  limits := rfl
  evidence := by
    show (s.lineages.insert p l').sum _ = s.lineages.sum _
    rw [SortedMap.sum_insert, SortedMap.sum_of_get? _ hl, h.evidence]
  pinned := by
    show (s.lineages.insert p l').sum _ = s.lineages.sum _
    rw [SortedMap.sum_insert, SortedMap.sum_of_get? _ hl, h.pinnedImages]
  lineage := by
    intro q m hm
    by_cases hq : q = p
    · subst hq
      rw [hl] at hm
      cases hm
      exact ⟨l', s.get?_setLineage_self q l', h⟩
    · exact ⟨m, (s.get?_setLineage_ne l' hq).trans hm, .refl m⟩

/-- A release changes nothing it cannot give back. -/
theorem step_released {r : Release} (h : s.step r.op = .ok s') : Released s s' := by
  rw [step, Checked.bind_eq_ok] at h
  obtain ⟨⟨reply, s1⟩, hexec, h⟩ := h
  cases h
  cases r with
  | cancelPending p =>
    simp only [Release.op, exec, execLineage, cancelPending] at hexec
    cases hl : s.lineages.get? p with
    | none =>
      rw [hl] at hexec
      cases hexec
      exact .refl s
    | some l =>
      rw [hl] at hexec
      cases hexec
      exact .setLineage hl l.cancelPending_released
  | evictRetainedState p cursor =>
    simp only [Release.op, exec, execLineage, evictRetainedState] at hexec
    cases hl : s.lineages.get? p with
    | none =>
      rw [hl] at hexec
      cases hexec
      exact .refl s
    | some l =>
      simp only [hl, Checked.bind_eq_ok] at hexec
      obtain ⟨⟨r1, s2⟩, ⟨⟨r2, l'⟩, hevict, h2⟩, h1⟩ := hexec
      cases h2
      cases h1
      exact .setLineage hl (AuthorityLineage.evictRetainedState_released hevict)

theorem release_sound (hs : s.Sound) {rs : List Release} (h : s.release rs = .ok s') :
    s'.Sound ∧ Released s s' := by
  induction rs generalizing s with
  | nil =>
    cases h
    exact ⟨hs, .refl _⟩
  | cons r rs ih =>
    rw [release, List.map_cons, List.foldlM_cons, Checked.bind_eq_ok] at h
    obtain ⟨s1, h1, h⟩ := h
    obtain ⟨reply, s2, hexec, hstep⟩ := exec_step hs (r.op : AuthoritySessionOp S D)
    have hsame : s.step r.op = .ok s2 := by
      rw [step, hexec]
      rfl
    rw [hsame] at h1
    cases h1
    obtain ⟨hs', hr⟩ := ih hstep.sound h
    exact ⟨hs', (step_released hsame).trans hr⟩

/-- While more than the pinned images is charged, some release lowers the charge. -/
theorem exists_release (hs : s.Sound) (h : s.pinnedCount < s.charged .images) :
    ∃ r s', s.step (Release.op r) = .ok s' ∧ s'.charged .images < s.charged .images := by
  have hlineage : ∃ p l, s.lineages.get? p = some l ∧ l.pinnedImages < l.charge .images := by
    by_contra hnone
    push Not at hnone
    exact absurd (SortedMap.sum_le hnone) (not_le.mpr h)
  obtain ⟨p, l, hl, hlt⟩ := hlineage
  have hsound := hs.lineage p l hl
  have hlower : ∀ l' : AuthorityLineage S D, l'.charge .images < l.charge .images →
      (s.setLineage p l').charged .images < s.charged .images := by
    intro l' hl'
    rw [charged_setLineage, charged_split hl]
    omega
  cases hp : l.pending with
  | some candidate =>
    refine ⟨.cancelPending p, s.setLineage p l.cancelPending.2, ?_, hlower _ ?_⟩
    · simp only [step, Release.op, exec, execLineage, cancelPending, hl, Checked.ok_bind,
        Checked.pure_eq]
    · show l.retained.size + 0 < l.retained.size + l.pendingCount
      rw [AuthorityLineage.pendingCount, AuthorityLineage.hasPending, hp]
      exact Nat.lt_succ_self _
  | none =>
    have hcount : l.charge .images = l.retained.size := by
      simp [AuthorityLineage.charge, AuthorityLineage.pendingCount, AuthorityLineage.hasPending, hp]
    rw [hcount] at hlt
    obtain ⟨c, r, hr, hnext⟩ := AuthorityLineage.exists_evictable hlt
    obtain ⟨⟨reply, l'⟩, hevict, hcharge⟩ :=
      AuthorityLineage.evictRetainedState_charge hsound hr hnext
    refine ⟨.evictRetainedState p c, s.setLineage p l', ?_, hlower _ hcharge⟩
    simp only [step, Release.op, exec, execLineage, evictRetainedState, hl, hevict,
      Checked.ok_bind, Checked.pure_eq]
    rfl

/-- Releases can bring the charge down to the pinned images. -/
theorem exists_releases (hs : s.Sound) :
    ∃ rs s', s.release rs = .ok s' ∧ s'.charged .images ≤ s'.pinnedCount := by
  induction hn : s.charged .images using Nat.strong_induction_on generalizing s with
  | _ n ih =>
    by_cases h : s.charged .images ≤ s.pinnedCount
    · exact ⟨[], s, rfl, h⟩
    · obtain ⟨r, s1, h1, hlt⟩ := exists_release hs (Nat.lt_of_not_le h)
      have hone : s.release [r] = .ok s1 := by
        rw [release, List.map_singleton, List.foldlM_cons, h1]
        rfl
      obtain ⟨rs, s', hrs, hle⟩ := ih _ (hn ▸ hlt) (release_sound hs hone).1 rfl
      refine ⟨r :: rs, s', ?_, hle⟩
      rw [release, List.map_cons, List.foldlM_cons, h1]
      exact hrs

/-- The budgets of the pinned images and of the evidence have room for one more. -/
def HasRoom (s : AuthorityReplicationSession S D) (l : AuthorityLineage S D) (designate : Bool) :
    Prop :=
  s.evidenceCount < s.limits.maxEmissionEvidence.get ∧
    s.pinnedCount < s.limits.maxRetainedImages.get ∧ (designate = true → ¬ l.Pinned)

theorem Released.hasRoom {l' : AuthorityLineage S D} (h : Released s s') (hl : l.Released l')
    {designate : Bool} : s'.HasRoom l' designate ↔ s.HasRoom l designate := by
  unfold HasRoom
  rw [h.evidence, h.pinned, h.limits, hl.pinned]

/-- The pinned images of the other lineages are charged to them. -/
theorem pinned_le_charged (hs : s.Sound) (p : ParticipantId) :
    (s.lineages.erase p).sum (fun _ m => m.pinnedImages) ≤
      (s.lineages.erase p).sum (fun _ m => m.charge .images) := by
  refine SortedMap.sum_le fun q m hm => ?_
  have hm' : s.lineages.get? q = some m := by
    rw [SortedMap.get?_erase] at hm
    split at hm
    · cases hm
    · exact hm
  exact Nat.le_trans (hs.lineage q m hm').pinnedImages_le (Nat.le_add_right _ _)

theorem pinnedCount_split (hl : s.lineages.get? p = some l) : s.pinnedCount =
    l.pinnedImages + (s.lineages.erase p).sum (fun _ m => m.pinnedImages) :=
  SortedMap.sum_of_get? _ hl

/-- A prepared full snapshot took one place of each budget. -/
theorem hasRoom_of_prepared (hs : s.Sound) (hl : s.lineages.get? p = some l)
    {snapshot : FullSnapshot S} {designate : Bool} {summary : PendingSnapshotSummary}
    (h : (s.prepareFull p snapshot designate).1 = .ok summary) : s.HasRoom l designate := by
  simp only [prepareFull, hl] at h
  rcases l.prepareFull_effect snapshot designate with ⟨⟨e, he⟩, -⟩ | ⟨c, hok, hl', hempty, -, -, -⟩
  · have hrefused : (s.reserve p (l.prepareFull snapshot designate)).1 = .error (.prepare e) := by
      rw [show l.prepareFull snapshot designate = (.error e, (l.prepareFull snapshot designate).2)
        from Prod.ext he rfl]
      rfl
    rw [hrefused] at h
    cases h
  · have hfit : (s.setLineage p { l with pending := some c }).aggregateReservationsFit = true := by
      by_contra hno
      rw [show l.prepareFull snapshot designate =
        (.ok c.summary, { l with pending := some c }) from Prod.ext hok hl', reserve,
        if_neg hno] at h
      cases h
    have hcharged := (aggregateReservationsFit_iff _).mp hfit
    have hevidence : l.evidence.size + 1 + (s.lineages.erase p).sum (fun _ m => m.charge .evidence) ≤
        s.limits.maxEmissionEvidence.get := by
      have := hcharged .evidence
      rwa [charged_setLineage] at this
    have himages : l.retained.size + 1 + (s.lineages.erase p).sum (fun _ m => m.charge .images) ≤
        s.limits.maxRetainedImages.get := by
      have := hcharged .images
      rwa [charged_setLineage] at this
    have hrest : (s.lineages.erase p).sum (fun _ m => m.evidence.size) ≤
        (s.lineages.erase p).sum (fun _ m => m.charge .evidence) :=
      SortedMap.sum_le fun _ _ _ => Nat.le_add_right _ _
    have hcount : s.evidenceCount = l.evidence.size +
        (s.lineages.erase p).sum (fun _ m => m.evidence.size) := SortedMap.sum_of_get? _ hl
    have hpinned := (hs.lineage p l hl).pinnedImages_le
    have hrestPinned := pinned_le_charged hs p
    have hsplit := pinnedCount_split hl
    refine ⟨by omega, by omega, ?_⟩
    rintro rfl ⟨base, hb, -⟩
    obtain ⟨e, he⟩ := l.prepareFull_designated hb snapshot
    rw [he] at hok
    cases hok

/-- When only pinned images are charged, no candidate is pending and nothing else is retained. -/
theorem only_pinned (hs : s.Sound) (hl : s.lineages.get? p = some l)
    (hleft : s.charged .images ≤ s.pinnedCount) :
    l.pending = none ∧ l.retained.size = l.pinnedImages := by
  have hmine : s.charged .images = l.retained.size + l.pendingCount +
      (s.lineages.erase p).sum (fun _ m => m.charge .images) := charged_split hl .images
  have hsplit := pinnedCount_split hl
  have hrest := pinned_le_charged hs p
  have hpinned := (hs.lineage p l hl).pinnedImages_le
  refine ⟨?_, by omega⟩
  have hzero : l.pendingCount = 0 := by omega
  unfold AuthorityLineage.pendingCount AuthorityLineage.hasPending at hzero
  cases hp : l.pending with
  | none => rfl
  | some c => simp [hp] at hzero

theorem only_evidence (hs : s.Sound) (hleft : s.charged .images ≤ s.pinnedCount) :
    s.charged .evidence = s.evidenceCount := by
  have himages : s.charged .images = s.lineages.sum (fun _ m => m.retained.size) +
      s.lineages.sum (fun _ m => m.pendingCount) := SortedMap.sum_add _ _ _
  have hevidence : s.charged .evidence = s.evidenceCount +
      s.lineages.sum (fun _ m => m.pendingCount) := SortedMap.sum_add _ _ _
  have hretained : s.pinnedCount ≤ s.lineages.sum (fun _ m => m.retained.size) :=
    SortedMap.sum_le fun q m hm => (hs.lineage q m hm).pinnedImages_le
  omega

/-- Once only pinned images are charged, a full snapshot can be prepared if there is room. -/
theorem prepared_of_hasRoom (hs : s.Sound) (hl : s.lineages.get? p = some l)
    (hleft : s.charged .images ≤ s.pinnedCount) {snapshot : FullSnapshot S}
    (hsnapshot : EmptyAndNewer l snapshot) {designate : Bool} (h : s.HasRoom l designate) :
    ∃ summary, (s.prepareFull p snapshot designate).1 = .ok summary := by
  have hsound := hs.lineage p l hl
  obtain ⟨hempty, hretained⟩ := only_pinned hs hl hleft
  have hrecovery : designate = true → ∃ reason generation watermark,
      l.state = .fullSnapshotRequired reason generation watermark := by
    intro hd
    have hunpinned : l.pinnedImages = 0 := if_neg (h.2.2 hd)
    cases hstate : l.state with
    | fullSnapshotRequired reason generation watermark => exact ⟨_, _, _, rfl⟩
    | deltaEligible base =>
      obtain ⟨r, hr⟩ := hsound.eligible base hstate
      have := SortedMap.size_erase_of_some hr
      omega
  obtain ⟨generation, hprepare⟩ := hsound.prepareFull_ok hempty hsnapshot.empty hsnapshot.newer
    hsnapshot.tick hrecovery
  have hfit : (s.setLineage p
      { l with pending := some (.full snapshot generation) }).aggregateReservationsFit = true := by
    refine (aggregateReservationsFit_iff _).mpr fun r => ?_
    have hcharge : ({ l with pending := some (.full snapshot generation) } :
        AuthorityLineage S D).charge r = l.charge r + r.taken :=
      AuthorityLineage.charge_reserved hempty hsnapshot.empty generation r
    have hsplit := charged_split hl r
    have hbefore := hs.charged_le r
    rw [charged_setLineage, hcharge]
    show _ ≤ s.limits.budget r
    cases r with
    | images =>
      have hroom : s.pinnedCount < s.limits.budget .images := h.2.1
      simp only [Resource.taken]
      omega
    | evidence =>
      have hroom : s.evidenceCount < s.limits.budget .evidence := h.1
      have honly := only_evidence hs hleft
      simp only [Resource.taken]
      omega
    | retainedBytes => simp only [Resource.taken]; omega
    | stateBytes => simp only [Resource.taken]; omega
  simp only [prepareFull, hl, hprepare, reserve, if_pos hfit]
  exact ⟨_, rfl⟩

theorem hasRoom_of_fullRecoverable (hs : s.Sound) (hl : s.lineages.get? p = some l)
    (hg : ∀ g, l.greatestEmitted = some g → g.get < u64Max) (state : S) {designate : Bool}
    (h : s.FullRecoverable p l designate) : s.HasRoom l designate := by
  obtain ⟨rs, s', hrelease, hprepare⟩ := h
  obtain ⟨hs', hreleased⟩ := release_sound hs hrelease
  obtain ⟨l', hl', hsame⟩ := hreleased.lineage p l hl
  obtain ⟨snapshot, hsnapshot⟩ : ∃ snapshot : FullSnapshot S, EmptyAndNewer l snapshot := by
    cases hc : l.greatestEmitted with
    | none =>
      refine ⟨⟨⟨0⟩, (l.greatestEmittedTick).getD ⟨0⟩, ⟨state, 0⟩⟩, rfl, Nat.zero_le _, ?_, ?_⟩
      · intro g h
        rw [hc] at h
        cases h
      · intro t h
        simp [h]
    | some c =>
      refine ⟨⟨⟨c.get + 1⟩, (l.greatestEmittedTick).getD ⟨0⟩, ⟨state, 0⟩⟩, rfl, hg c hc, ?_, ?_⟩
      · intro g h
        rw [hc] at h
        cases h
        exact Ident.lt_iff.mpr (Nat.lt_succ_self _)
      · intro t h
        simp [h]
  obtain ⟨summary, hok⟩ := hprepare snapshot hsnapshot
  exact (hreleased.hasRoom hsame).mp (hasRoom_of_prepared hs' hl' hok)

theorem fullRecoverable_of_hasRoom (hs : s.Sound) (hl : s.lineages.get? p = some l)
    {designate : Bool} (h : s.HasRoom l designate) : s.FullRecoverable p l designate := by
  obtain ⟨rs, s', hrelease, hleft⟩ := exists_releases hs
  obtain ⟨hs', hreleased⟩ := release_sound hs hrelease
  obtain ⟨l', hl', hsame⟩ := hreleased.lineage p l hl
  refine ⟨rs, s', hrelease, fun snapshot hsnapshot => ?_⟩
  have hsnapshot' : EmptyAndNewer l' snapshot :=
    { empty := hsnapshot.empty
      cursor_le := hsnapshot.cursor_le
      newer := by rw [hsame.greatestEmitted]; exact hsnapshot.newer
      tick := by rw [hsame.greatestEmittedTick]; exact hsnapshot.tick }
  exact prepared_of_hasRoom hs' hl' hleft hsnapshot' ((hreleased.hasRoom hsame).mpr h)

end Releasing

/-- In every reachable session a full snapshot can be prepared on a lineage after some releases
exactly when the evidence and the pinned images leave room. -/
theorem fullRecoverable_iff {sessionId : SessionId} {limits : AuthorityAggregateLimits}
    {ops : List (AuthoritySessionOp S D)} {s : AuthorityReplicationSession S D}
    (hrun : run sessionId limits ops = .ok s) {p : ParticipantId} {l : AuthorityLineage S D}
    (hl : s.lineages.get? p = some l) (hg : ∀ g, l.greatestEmitted = some g → g.get < u64Max)
    (state : S) (designate : Bool) : s.FullRecoverable p l designate ↔ s.HasRoom l designate := by
  obtain ⟨s', hrun', hs⟩ := run_sound sessionId limits ops
  rw [hrun] at hrun'
  cases hrun'
  exact ⟨hasRoom_of_fullRecoverable hs hl hg state, fullRecoverable_of_hasRoom hs hl⟩

/-! ### Sessions with little evidence -/

def tightLimits : AuthorityAggregateLimits where
  maxLineages := .nearest 4
  maxStateBytes := .nearest 1000
  maxRetainedImages := .nearest 8
  maxRetainedStateBytes := .nearest 1000
  maxEmissionEvidence := .nearest 1

def singleEvidence : ReplicationRetentionLimits where
  maxStateImageBytes := .nearest 10
  maxRetainedImagesPerLineage := .nearest 2
  maxRetainedStateBytesPerLineage := .nearest 20
  maxCandidateBytesPerLineage := .nearest 10
  maxEmissionEvidencePerLineage := .nearest 1
  image_le_retained := Nat.le_of_ble_eq_true rfl
  image_le_candidate := Nat.le_of_ble_eq_true rfl

/-- One lineage has emitted, and the candidate of another takes the second evidence entry. -/
def pressedOps : List (AuthoritySessionOp Unit Unit) :=
  [.addLineage ⟨7⟩ singleEvidence, .lineage ⟨7⟩ (.prepareFull ⟨⟨1⟩, ⟨5⟩, ⟨(), 3⟩⟩ true),
    .lineage ⟨7⟩ (.recordDeliveryAcceptance .accepted),
    .addLineage ⟨8⟩ singleEvidence, .lineage ⟨8⟩ (.prepareFull ⟨⟨1⟩, ⟨5⟩, ⟨(), 3⟩⟩ true)]

/-- Under pressure a full snapshot is refused, and can be prepared after a release. -/
theorem fullRecoverable_pressed :
    ∃ (s : AuthorityReplicationSession Unit Unit) (l : AuthorityLineage Unit Unit),
      run ⟨1⟩ { tightLimits with maxEmissionEvidence := .nearest 2 } pressedOps = .ok s ∧
      s.lineages.get? ⟨7⟩ = some l ∧ l.greatestEmitted = some ⟨1⟩ ∧
      EmptyAndNewer l ⟨⟨2⟩, ⟨5⟩, ⟨(), 0⟩⟩ ∧
      (s.prepareFull ⟨7⟩ ⟨⟨2⟩, ⟨5⟩, ⟨(), 0⟩⟩ true).1 = .error .aggregateResourceLimitExceeded ∧
      s.FullRecoverable ⟨7⟩ l true := by
  obtain ⟨s, hrun, -⟩ := run_sound (S := Unit) (D := Unit) ⟨1⟩
    { tightLimits with maxEmissionEvidence := .nearest 2 } pressedOps
  have hvalue := hrun
  cases hvalue
  have hg : ∀ g, some (⟨1⟩ : ReplicationCursor) = some g → g.get < u64Max := by
    intro g hg
    cases hg
    decide
  refine ⟨_, _, hrun, rfl, rfl, ⟨rfl, ?_, ?_, ?_⟩, rfl,
    (fullRecoverable_iff hrun rfl hg () true).mpr ⟨?_, ?_, ?_⟩⟩
  · decide
  · intro g h
    cases h
    decide
  · intro t h
    cases h
    decide
  · decide
  · decide
  · rintro - ⟨base, hb, -⟩
    cases hb

/-- The first emission takes the only evidence entry, and no release gives it back. -/
theorem evidence_never_released :
    ∃ (s : AuthorityReplicationSession Unit Unit) (l : AuthorityLineage Unit Unit),
      run ⟨1⟩ tightLimits [.addLineage ⟨7⟩ singleEvidence,
        .lineage ⟨7⟩ (.prepareFull ⟨⟨1⟩, ⟨5⟩, ⟨(), 3⟩⟩ true),
        .lineage ⟨7⟩ (.recordDeliveryAcceptance .accepted)] = .ok s ∧
      s.lineages.get? ⟨7⟩ = some l ∧ l.greatestEmitted = some ⟨1⟩ ∧
      ∀ designate, ¬ s.FullRecoverable ⟨7⟩ l designate := by
  obtain ⟨s, hrun, hs⟩ := run_sound (S := Unit) (D := Unit) ⟨1⟩ tightLimits
    [.addLineage ⟨7⟩ singleEvidence, .lineage ⟨7⟩ (.prepareFull ⟨⟨1⟩, ⟨5⟩, ⟨(), 3⟩⟩ true),
      .lineage ⟨7⟩ (.recordDeliveryAcceptance .accepted)]
  have hvalue := hrun
  cases hvalue
  refine ⟨_, _, hrun, rfl, rfl, fun designate h => ?_⟩
  have hg : ∀ g, some (⟨1⟩ : ReplicationCursor) = some g → g.get < u64Max := by
    intro g hg
    cases hg
    decide
  have hroom := hasRoom_of_fullRecoverable hs rfl hg () h
  exact absurd hroom.1 (by decide)

end AuthorityReplicationSession

end RunenNet
