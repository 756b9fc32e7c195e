import RunenNet.Core.Replication.AuthorityTrace

/-!
# Authority recovery safety

The invariant of a trace: a delta base is confirmed and retained, nothing delta is pending
while a full snapshot is required, and every piece of evidence comes from an emission. From it,
what one more operation may do to the recovery state.
-/

namespace RunenNet

open Foundation

variable {S D : Type}

/-- A candidate with recovery generation `g` belongs to the current recovery of `l`. -/
def Designates (l : AuthorityLineage S D) (g : RecoveryGeneration) (target : ReplicationCursor) :
    Prop :=
  g ≤ l.generation ∧ ∀ reason w, l.state = .fullSnapshotRequired reason g (some w) → w < target

/-- The emission's candidate was prepared in its origin under the checks of a prepare. -/
structure Emission.WellPrepared (e : Emission S D) : Prop where
  prepares : AuthorityLineage.Prepares e.origin e.candidate
  confirmed : ∀ b, e.candidate.baseCursor = some b → e.origin.latestConfirmed = some b
  during : ∀ g, e.candidate.recoveryGeneration = some g → e.during = g

structure AuthorityTrace.Inv (t : AuthorityTrace S D) : Prop where
  eligible : ∀ c, t.lineage.state = .deltaEligible c →
    t.lineage.latestConfirmed = some c ∧ t.lineage.retained.contains c = true
  required : ∀ reason g w, t.lineage.state = .fullSnapshotRequired reason g w →
    g = t.lineage.generation ∧ ∀ c, t.lineage.pending = some c → c.kind = .full
  pending_new : ∀ c, t.lineage.pending = some c →
    (∀ g, t.lineage.greatestEmitted = some g → g < c.targetCursor) ∧
    (∀ g, t.lineage.greatestEmittedTick = some g → g ≤ c.targetTick)
  pending_origin : ∀ c, t.lineage.pending = some c → ∃ o, t.origin = some o ∧
    Emission.WellPrepared ⟨c, o, t.lineage.generation⟩
  pending_designated : ∀ c g, t.lineage.pending = some c → c.recoveryGeneration = some g →
    Designates t.lineage g c.targetCursor
  evidence_designated : ∀ c e g, t.lineage.evidence.get? c = some e →
    e.recoveryGeneration = some g → Designates t.lineage g c
  evidence_emitted : ∀ c e, t.lineage.evidence.get? c = some e → ∃ m ∈ t.emissions,
    m.candidate.targetCursor = c ∧ m.candidate.kind = e.kind ∧
    m.candidate.recoveryGeneration = e.recoveryGeneration
  retained_emitted : ∀ c r, t.lineage.retained.get? c = some r → ∃ m ∈ t.emissions,
    m.candidate.targetCursor = c ∧ r = ⟨m.candidate.targetTick, m.candidate.targetImage⟩
  emissions : ∀ m ∈ t.emissions, m.WellPrepared
  greatest : ∀ m ∈ t.emissions, ∃ g k, t.lineage.greatestEmitted = some g ∧
    t.lineage.greatestEmittedTick = some k ∧ m.candidate.targetCursor ≤ g ∧
    m.candidate.targetTick ≤ k
  increasing : t.emissions.Pairwise fun a b =>
    a.candidate.targetCursor < b.candidate.targetCursor ∧
    a.candidate.targetTick ≤ b.candidate.targetTick

namespace AuthorityTrace

theorem start_inv (key : ReplicationLineageKey) (limits : ReplicationRetentionLimits) :
    (start key limits : AuthorityTrace S D).Inv where
  eligible := fun _ h => nomatch h
  required := fun _ _ _ h => by cases h; exact ⟨rfl, fun _ h => nomatch h⟩
  pending_new := fun _ h => nomatch h
  pending_origin := fun _ h => nomatch h
  pending_designated := fun _ _ h => nomatch h
  evidence_designated := fun _ _ _ h => nomatch h
  evidence_emitted := fun _ _ h => nomatch h
  retained_emitted := fun _ _ h => nomatch h
  emissions := fun _ h => nomatch h
  greatest := fun _ h => nomatch h
  increasing := .nil

/-- A prepare keeps the invariant: the new candidate's origin is the lineage itself. -/
theorem Inv.prepared {t : AuthorityTrace S D} (hi : t.Inv)
    {r : Except AuthorityPrepareError PendingSnapshotSummary} {l' : AuthorityLineage S D}
    (h : AuthorityLineage.PrepareEffect t.lineage l' r) : (t.record (.prepared r) l').Inv := by
  rcases h with ⟨⟨e, rfl⟩, rfl⟩ | ⟨c, rfl, rfl, -, hp, hc, ht⟩
  · exact { hi with }
  · have hgen : ∀ g, c.recoveryGeneration = some g → Designates t.lineage g c.targetCursor ∧
        t.lineage.generation = g := by
      intro g hg
      cases hp with
      | plain => cases hg
      | designated hs hw =>
        cases hg
        have hgen := (hi.required _ _ _ hs).1
        refine ⟨⟨le_of_eq hgen, fun _ w' e => ?_⟩, hgen.symm⟩
        rw [hs] at e
        cases e
        exact hw _ rfl
      | delta => cases hg
    exact
      { eligible := hi.eligible
        required := fun _ _ _ hs => ⟨(hi.required _ _ _ hs).1, fun c' hc' => by
          cases hc'
          cases hp with
          | plain => rfl
          | designated => rfl
          | delta hd => exact absurd (hd.symm.trans hs) (by simp)⟩
        pending_new := fun c' hc' => by cases hc'; exact ⟨hc, ht⟩
        pending_origin := fun c' hc' => by
          cases hc'
          refine ⟨_, rfl, hp, fun b hb => ?_, fun g hg => (hgen g hg).2⟩
          cases hp with
          | plain => cases hb
          | designated => cases hb
          | delta hd => cases hb; exact (hi.eligible _ hd).1
        pending_designated := fun c' g hc' hg => by cases hc'; exact (hgen g hg).1
        evidence_designated := hi.evidence_designated
        evidence_emitted := hi.evidence_emitted
        retained_emitted := hi.retained_emitted
        emissions := hi.emissions
        greatest := hi.greatest
        increasing := hi.increasing }

/-- Recording an acceptance keeps the invariant: the emission is newer than all earlier ones. -/
theorem Inv.recorded {t : AuthorityTrace S D} (hi : t.Inv) {candidate : SnapshotCandidate S D}
    {l' : AuthorityLineage S D} (hp : t.lineage.pending = some candidate)
    (h : AuthorityLineage.Recorded { t.lineage with pending := none } l' candidate.targetCursor
      candidate.targetTick candidate.targetImage
      ⟨candidate.kind, candidate.recoveryGeneration⟩) :
    (t.record (.recorded (.ok (some (AuthorityLineage.emittedOf candidate)))) l').Inv := by
  obtain ⟨o, ho, hwell⟩ := hi.pending_origin _ hp
  have hrec : t.record (.recorded (.ok (some (AuthorityLineage.emittedOf candidate)))) l'
      = ⟨l', some o, t.emissions ++ [⟨candidate, o, t.lineage.generation⟩]⟩ := by
    simp only [record, hp, ho]
  have hs : l'.state = t.lineage.state := by rw [h.frame]
  have hg : l'.generation = t.lineage.generation := by rw [h.frame]
  have hpend : l'.pending = none := by rw [h.frame]
  have hdes : ∀ g target, Designates t.lineage g target → Designates l' g target := fun g target hd =>
    ⟨hg ▸ hd.1, fun reason w e => hd.2 reason w (hs ▸ e)⟩
  rw [hrec]
  exact
    { eligible := fun c hc => by
        obtain ⟨h1, h2⟩ := hi.eligible c (hs ▸ hc)
        refine ⟨by rw [h.frame]; exact h1, h.spared c ?_ h2⟩
        simp only [AuthorityLineage.protectedCursor, hs ▸ hc]
      required := fun reason g w hc =>
        ⟨(hi.required reason g w (hs ▸ hc)).1.trans hg.symm, fun c hc' => by
          rw [hpend] at hc'; cases hc'⟩
      pending_new := fun c hc => by rw [hpend] at hc; cases hc
      pending_origin := fun c hc => by rw [hpend] at hc; cases hc
      pending_designated := fun c _ hc => by rw [hpend] at hc; cases hc
      evidence_designated := fun c e g hc hge => by
        rcases h.evidence c e hc with h1 | ⟨rfl, rfl⟩
        · exact hdes g c (hi.evidence_designated c e g h1 hge)
        · exact hdes g _ (hi.pending_designated _ g hp hge)
      evidence_emitted := fun c e hc => by
        rcases h.evidence c e hc with h1 | ⟨rfl, rfl⟩
        · obtain ⟨m, hm, hrest⟩ := hi.evidence_emitted c e h1
          exact ⟨m, List.mem_append_left _ hm, hrest⟩
        · exact ⟨_, List.mem_append_right _ List.mem_cons_self, rfl, rfl, rfl⟩
      retained_emitted := fun c r hc => by
        rcases h.images c r hc with h1 | ⟨rfl, rfl⟩
        · obtain ⟨m, hm, hrest⟩ := hi.retained_emitted c r h1
          exact ⟨m, List.mem_append_left _ hm, hrest⟩
        · exact ⟨_, List.mem_append_right _ List.mem_cons_self, rfl, rfl⟩
      emissions := fun m hm => by
        rcases List.mem_append.mp hm with hm | hm
        · exact hi.emissions m hm
        · rw [List.mem_singleton.mp hm]; exact hwell
      greatest := fun m hm => by
        refine ⟨candidate.targetCursor, candidate.targetTick, by rw [h.frame], by rw [h.frame], ?_⟩
        rcases List.mem_append.mp hm with hm | hm
        · obtain ⟨g, k, hg', hk, hle, hlk⟩ := hi.greatest m hm
          obtain ⟨h1, h2⟩ := hi.pending_new _ hp
          exact ⟨hle.trans (le_of_lt (h1 g hg')), hlk.trans (h2 k hk)⟩
        · rw [List.mem_singleton.mp hm]; exact ⟨le_refl _, le_refl _⟩
      increasing := by
        refine List.pairwise_append.mpr ⟨hi.increasing, List.pairwise_singleton _ _, ?_⟩
        intro m hm m' hm'
        rw [List.mem_singleton.mp hm']
        obtain ⟨g, k, hg', hk, hle, hlk⟩ := hi.greatest m hm
        obtain ⟨h1, h2⟩ := hi.pending_new _ hp
        exact ⟨hle.trans_lt (h1 g hg'), hlk.trans (h2 k hk)⟩ }

/-- A new recovery keeps the invariant: its generation is newer than every designation. -/
theorem Inv.newRecovery {t : AuthorityTrace S D} (hi : t.Inv) {l' : AuthorityLineage S D}
    (h : AuthorityLineage.NewRecovery t.lineage l') : Inv ⟨l', t.origin, t.emissions⟩ := by
  obtain ⟨reason, generation, hlt, hs, hg, hp, hge, hgt, hev, -, -, hsub⟩ := h
  have hdes : ∀ g target, Designates t.lineage g target → Designates l' g target := by
    intro g target hd
    refine ⟨hg ▸ (hd.1.trans (le_of_lt hlt)), fun reason' w e => ?_⟩
    rw [hs] at e
    injection e with _ hgen _
    exact absurd (hgen ▸ hlt) (not_lt.mpr hd.1)
  exact
    { eligible := fun c hc => by rw [hs] at hc; cases hc
      required := fun _ _ _ hc => by
        rw [hs] at hc
        cases hc
        exact ⟨hg.symm, fun c hc => by rw [hp] at hc; cases hc⟩
      pending_new := fun c hc => by rw [hp] at hc; cases hc
      pending_origin := fun c hc => by rw [hp] at hc; cases hc
      pending_designated := fun c _ hc => by rw [hp] at hc; cases hc
      evidence_designated := fun c e g hc hge' =>
        hdes g c (hi.evidence_designated c e g (hev ▸ hc) hge')
      evidence_emitted := fun c e hc => hi.evidence_emitted c e (hev ▸ hc)
      retained_emitted := fun c r hc => hi.retained_emitted c r (hsub c r hc)
      emissions := hi.emissions
      greatest := fun m hm => by
        obtain ⟨g, k, h1, h2, h3⟩ := hi.greatest m hm
        exact ⟨g, k, hge.trans h1, hgt.trans h2, h3⟩
      increasing := hi.increasing }

/-- Advancing the confirmation, the state or the images keeps the invariant as long as the
delta base stays confirmed and retained and no recovery is entered. -/
theorem Inv.advanced {t : AuthorityTrace S D} (hi : t.Inv) {l' : AuthorityLineage S D}
    (hframe : l' = { t.lineage with
      latestConfirmed := l'.latestConfirmed, state := l'.state, pending := l'.pending,
      retained := l'.retained, retainedBytes := l'.retainedBytes })
    (hpend : l'.pending = t.lineage.pending ∨ l'.pending = none)
    (hsub : ∀ c r, l'.retained.get? c = some r → t.lineage.retained.get? c = some r)
    (heligible : ∀ c, l'.state = .deltaEligible c →
      l'.latestConfirmed = some c ∧ l'.retained.contains c = true)
    (hrequired : ∀ reason g w, l'.state = .fullSnapshotRequired reason g w →
      t.lineage.state = .fullSnapshotRequired reason g w) :
    Inv ⟨l', t.origin, t.emissions⟩ := by
  have hg : l'.generation = t.lineage.generation := by rw [hframe]
  have hge : l'.greatestEmitted = t.lineage.greatestEmitted := by rw [hframe]
  have hgt : l'.greatestEmittedTick = t.lineage.greatestEmittedTick := by rw [hframe]
  have hev : l'.evidence = t.lineage.evidence := by rw [hframe]
  have hpc : ∀ c, l'.pending = some c → t.lineage.pending = some c := by
    intro c hc
    rcases hpend with e | e
    · rw [← e]; exact hc
    · rw [e] at hc; cases hc
  have hdes : ∀ g target, Designates t.lineage g target → Designates l' g target :=
    fun g target hd => ⟨hg ▸ hd.1, fun reason w e => hd.2 reason w (hrequired _ _ _ e)⟩
  exact
    { eligible := heligible
      required := fun reason g w hc => by
        obtain ⟨h1, h2⟩ := hi.required _ _ _ (hrequired reason g w hc)
        exact ⟨h1.trans hg.symm, fun c hc' => h2 c (hpc c hc')⟩
      pending_new := fun c hc => by
        obtain ⟨h1, h2⟩ := hi.pending_new c (hpc c hc)
        exact ⟨fun g e => h1 g (hge ▸ e), fun g e => h2 g (hgt ▸ e)⟩
      pending_origin := fun c hc => by
        obtain ⟨o, ho, hw⟩ := hi.pending_origin c (hpc c hc)
        exact ⟨o, ho, hg ▸ hw⟩
      pending_designated := fun c g hc hd => hdes g _ (hi.pending_designated c g (hpc c hc) hd)
      evidence_designated := fun c e g hc hd =>
        hdes g c (hi.evidence_designated c e g (hev ▸ hc) hd)
      evidence_emitted := fun c e hc => hi.evidence_emitted c e (hev ▸ hc)
      retained_emitted := fun c r hc => hi.retained_emitted c r (hsub c r hc)
      emissions := hi.emissions
      greatest := fun m hm => by
        obtain ⟨g, k, h1, h2, h3⟩ := hi.greatest m hm
        exact ⟨g, k, hge.trans h1, hgt.trans h2, h3⟩
      increasing := hi.increasing }

/-- Confirming a cursor with evidence keeps the invariant. -/
theorem Inv.confirmed {t : AuthorityTrace S D} (hi : t.Inv) (cursor : ReplicationCursor)
    (e : EmissionEvidence) : Inv ⟨(t.lineage.confirm cursor e).2, t.origin, t.emissions⟩ := by
  rcases AuthorityLineage.confirm_effect t.lineage cursor e with
    h | ⟨h, -⟩ | ⟨hr, h, -⟩ | ⟨reason, g, w, hs, h⟩
  · rw [h]; exact hi
  · exact hi.newRecovery h
  · rw [h]
    exact hi.advanced rfl (.inl rfl) (fun _ _ hc => hc) (fun c hc => by cases hc; exact ⟨rfl, hr⟩)
      (fun _ _ _ hc => nomatch hc)
  · rw [h]
    refine hi.advanced rfl (.inl rfl) (fun _ _ hc => hc) (fun c hc => ?_) (fun _ _ _ hc => hc)
    rw [show t.lineage.state = _ from hc] at hs
    cases hs

theorem Inv.exec {t t' : AuthorityTrace S D} (hi : t.Inv) {op : AuthorityOp S D}
    (h : t.exec op = .ok t') : t'.Inv := by
  rw [AuthorityTrace.exec, Checked.bind_eq_ok] at h
  obtain ⟨⟨reply, l'⟩, hx, h⟩ := h
  cases h
  cases op with
  | prepareFull snapshot designate =>
    cases hx
    exact hi.prepared (AuthorityLineage.prepareFull_effect _ _ _)
  | prepareDelta target tick image delta additional =>
    cases hx
    exact hi.prepared (AuthorityLineage.prepareDelta_effect _ _ _ _ _ _)
  | recordDeliveryAcceptance acceptance =>
    simp only [AuthorityLineage.exec, Checked.bind_eq_ok] at hx
    obtain ⟨⟨r, l⟩, hr, hx⟩ := hx
    cases hx
    rcases AuthorityLineage.recordDeliveryAcceptance_effect hr with ⟨hne, rfl⟩ | ⟨c, hp, rfl, hrec⟩
    · have : t.record (.recorded r) t.lineage = ⟨t.lineage, t.origin, t.emissions⟩ := by
        match r, hne with
        | .error e, _ => rfl
        | .ok none, _ => rfl
        | .ok (some e), hne => exact absurd rfl (hne e)
      rw [this]
      exact hi
    · exact hi.recorded hp hrec
  | cancelPending =>
    cases hx
    exact hi.advanced rfl (.inr rfl) (fun _ _ hc => hc) (fun c hc => hi.eligible c hc)
      (fun _ _ _ hc => hc)
  | acknowledgeAuthorized session connection cursor =>
    simp only [AuthorityLineage.exec, Except.ok.injEq, Prod.mk.injEq] at hx
    obtain ⟨rfl, rfl⟩ := hx
    change Inv ⟨_, t.origin, t.emissions⟩
    rcases AuthorityLineage.acknowledgeAuthorized_effect t.lineage session connection cursor with
      h | ⟨e, -, -, h⟩
    · rw [h]; exact hi
    · rw [h]; exact hi.confirmed cursor e
  | requireFullRecovery reason =>
    simp only [AuthorityLineage.exec, Except.ok.injEq, Prod.mk.injEq] at hx
    obtain ⟨rfl, rfl⟩ := hx
    change Inv ⟨_, t.origin, t.emissions⟩
    rcases AuthorityLineage.requireFullRecovery_effect t.lineage reason with h | ⟨h, -⟩
    · rw [h]; exact hi
    · exact hi.newRecovery h
  | evictRetainedState cursor =>
    simp only [AuthorityLineage.exec, Checked.bind_eq_ok] at hx
    obtain ⟨⟨r, l⟩, hr, hx⟩ := hx
    cases hx
    change Inv ⟨_, t.origin, t.emissions⟩
    rcases AuthorityLineage.evictRetainedState_effect hr with rfl | ⟨h, -⟩ | ⟨hs, bytes, rfl⟩
    · exact hi
    · exact hi.newRecovery h
    · refine hi.advanced rfl (.inl rfl) (fun c r hc => AuthorityLineage.erase_subset hc)
        (fun c hc => ?_) (fun _ _ _ hc => hc)
      obtain ⟨h1, h2⟩ := hi.eligible c hc
      refine ⟨h1, ?_⟩
      obtain ⟨r, hr⟩ := SortedMap.contains_iff.mp h2
      refine SortedMap.contains_iff.mpr ⟨r, ?_⟩
      exact (SortedMap.get?_erase_ne _ (fun e : c = cursor => by subst e; exact hs hc)).trans hr
  | connectionReplaced session connection =>
    simp only [AuthorityLineage.exec, Except.ok.injEq, Prod.mk.injEq] at hx
    obtain ⟨rfl, rfl⟩ := hx
    change Inv ⟨_, t.origin, t.emissions⟩
    rcases AuthorityLineage.connectionReplaced_effect t.lineage session connection with h | ⟨h, -⟩
    · rw [h]; exact hi
    · exact hi.newRecovery h

theorem inv_of_run {key : ReplicationLineageKey} {limits : ReplicationRetentionLimits}
    {ops : List (AuthorityOp S D)} {t : AuthorityTrace S D}
    (h : ops.foldlM AuthorityTrace.exec (start key limits) = .ok t) : t.Inv :=
  Checked.foldlM_invariant (fun _ _ _ hi hx => hi.exec hx) (start_inv key limits) h

/-! ### Recovery safety -/

end AuthorityTrace

/-- The emission is of a full snapshot designated for recovery and emitted during `g`. -/
def Emission.DesignatedIn (m : Emission S D) (g : RecoveryGeneration) : Prop :=
  m.candidate.kind = .full ∧ m.candidate.recoveryGeneration ≠ none ∧ m.during = g

/-- What holds of a lineage and its history after every run. -/
structure RecoverySafe (t : AuthorityTrace S D) : Prop where
  eligible : ∀ c, t.lineage.state = .deltaEligible c →
    t.lineage.latestConfirmed = some c ∧ t.lineage.retained.contains c = true
  no_pending_delta : ∀ reason g w, t.lineage.state = .fullSnapshotRequired reason g w →
    ∀ c, t.lineage.pending = some c → c.kind = .full
  no_delta_prepared : ∀ reason g w, t.lineage.state = .fullSnapshotRequired reason g w →
    ∀ target tick image delta additional,
      ∃ e, (t.lineage.prepareDelta target tick image delta additional).1 = .error e
  no_delta_emitted : ∀ reason g w, t.lineage.state = .fullSnapshotRequired reason g w →
    ∀ acceptance m l', t.lineage.recordDeliveryAcceptance acceptance = .ok (.ok (some m), l') →
      m.kind = .full
  emitted_increasing : t.emissions.Pairwise fun a b =>
    a.candidate.targetCursor < b.candidate.targetCursor ∧
    a.candidate.targetTick ≤ b.candidate.targetTick
  delta_base : ∀ m ∈ t.emissions, m.candidate.kind = .delta → ∃ b,
    m.candidate.baseCursor = some b ∧ m.origin.state = .deltaEligible b ∧
    m.origin.latestConfirmed = some b ∧ m.origin.retained.contains b = true ∧
    b < m.candidate.targetCursor

/-- What the reply of an operation tells of the lineage after it and of the history. -/
structure AuthorityReplied (t t' : AuthorityTrace S D) (op : AuthorityOp S D) : Prop where
  /-- A demand granted while deltas are eligible starts a new recovery. -/
  demanded : ∀ reason base l', t.lineage.state = .deltaEligible base →
    op = .requireFullRecovery reason → t.lineage.exec op = .ok (.required (.ok ()), l') →
    ∃ g, t.lineage.generation < g ∧
      t'.lineage.state = .fullSnapshotRequired reason g t.lineage.greatestEmitted
  /-- A replacement of the connection that is granted starts one in every state. -/
  replaced : ∀ session connection l', op = .connectionReplaced session connection →
    t.lineage.exec op = .ok (.required (.ok ()), l') →
    ∃ g, t.lineage.generation < g ∧
      t'.lineage.state = .fullSnapshotRequired .connectionReplacement g t.lineage.greatestEmitted
  /-- The history grows by the candidate of each snapshot that is returned as emitted. -/
  reported : ∀ m l', t.lineage.exec op = .ok (.recorded (.ok (some m)), l') →
    ∃ e, t'.emissions = t.emissions ++ [e] ∧ t.lineage.pending = some e.candidate ∧
      m = AuthorityLineage.emittedOf e.candidate
  unreported : (∀ m l', t.lineage.exec op ≠ .ok (.recorded (.ok (some m)), l')) →
    t'.emissions = t.emissions

/-- What one more operation may do to the recovery state of a lineage. -/
structure RecoveryStep (t t' : AuthorityTrace S D) (op : AuthorityOp S D) : Prop extends
    AuthorityReplied t t' op where
  /-- Only the acknowledgement of a full snapshot designated in the current generation, newer
  than the watermark and still retained, clears the requirement. -/
  cleared : ∀ reason g w c, t.lineage.state = .fullSnapshotRequired reason g w →
    t'.lineage.state = .deltaEligible c →
    (∃ session connection, op = .acknowledgeAuthorized session connection c) ∧
    (∃ m ∈ t.emissions, m.candidate.targetCursor = c ∧ m.DesignatedIn g ∧
      ∃ reason' w', m.origin.state = .fullSnapshotRequired reason' g w') ∧
    (∀ w', w = some w' → w' < c) ∧ t.lineage.retained.contains c = true
  kept : ∀ reason g w session connection c, t.lineage.state = .fullSnapshotRequired reason g w →
    op = .acknowledgeAuthorized session connection c →
    (∀ m ∈ t.emissions, m.candidate.targetCursor = c → ¬ m.DesignatedIn g) →
    t'.lineage.state = t.lineage.state
  generation : t.lineage.generation ≤ t'.lineage.generation
  new_recovery : ∀ reason g w, t'.lineage.state = .fullSnapshotRequired reason g w →
    t'.lineage.state ≠ t.lineage.state →
    t.lineage.generation < g ∧ t'.lineage.generation = g ∧ w = t.lineage.greatestEmitted

namespace AuthorityTrace

theorem Inv.safe {t : AuthorityTrace S D} (hi : t.Inv) : RecoverySafe t where
  eligible := hi.eligible
  no_pending_delta := fun reason g w hs => (hi.required reason g w hs).2
  no_delta_prepared := fun _ _ _ hs target tick image delta additional =>
    AuthorityLineage.prepareDelta_required hs target tick image delta additional
  no_delta_emitted := fun reason g w hs acceptance m l' h => by
    rcases AuthorityLineage.recordDeliveryAcceptance_effect h with ⟨hne, -⟩ | ⟨c, hp, hr, -⟩
    · exact absurd rfl (hne m)
    · cases hr
      exact (hi.required reason g w hs).2 c hp
  emitted_increasing := hi.increasing
  delta_base := fun m hm hk => by
    obtain ⟨hp, hc, -⟩ := hi.emissions m hm
    obtain ⟨candidate, origin, during⟩ := m
    cases hp with
    | plain => cases hk
    | designated => cases hk
    | delta hs hr hlt =>
      exact ⟨_, rfl, hs, hc _ rfl, SortedMap.contains_iff.mpr ⟨_, hr⟩, hlt⟩

theorem record_lineage (t : AuthorityTrace S D) (reply : AuthorityReply)
    (l' : AuthorityLineage S D) : (t.record reply l').lineage = l' := by
  unfold record
  split
  · rfl
  · split <;> rfl
  · rfl

/-- Only an acknowledgement advances the latest confirmation, and only to its own cursor. -/
def Confirms (l l' : AuthorityLineage S D) (op : AuthorityOp S D) : Prop :=
  l'.latestConfirmed = l.latestConfirmed ∨
  ∃ session connection c, op = .acknowledgeAuthorized session connection c ∧
    l'.latestConfirmed = some c

/-- What an operation can do to the state and the generation: keep both, start a new recovery,
or make a confirmed and retained cursor the delta base. -/
theorem exec_state {t t' : AuthorityTrace S D} {op : AuthorityOp S D} (h : t.exec op = .ok t') :
    Confirms t.lineage t'.lineage op ∧
    ((t'.lineage.state = t.lineage.state ∧ t'.lineage.generation = t.lineage.generation) ∨
    (AuthorityLineage.NewRecovery t.lineage t'.lineage ∧
      ∀ session connection c, op = .acknowledgeAuthorized session connection c →
        ∃ base, t.lineage.state = .deltaEligible base) ∨
    (∃ session connection c e, op = .acknowledgeAuthorized session connection c ∧
      t.lineage.evidence.get? c = some e ∧ t.lineage.retained.contains c = true ∧
      t'.lineage.state = .deltaEligible c ∧ t'.lineage.generation = t.lineage.generation ∧
      ∀ reason g w, t.lineage.state = .fullSnapshotRequired reason g w →
        e.kind = .full ∧ e.recoveryGeneration = some g)) := by
  rw [AuthorityTrace.exec, Checked.bind_eq_ok] at h
  obtain ⟨⟨reply, l'⟩, hx, h⟩ := h
  obtain rfl : t.record reply l' = t' := Except.ok.inj h
  rw [record_lineage]
  cases op with
  | prepareFull snapshot designate =>
    simp only [AuthorityLineage.exec, Except.ok.injEq, Prod.mk.injEq] at hx
    obtain ⟨-, rfl⟩ := hx
    rcases AuthorityLineage.prepareFull_effect t.lineage snapshot designate with
      ⟨-, h⟩ | ⟨c, -, h, -⟩
    · exact ⟨.inl (by rw [h]), .inl (by rw [h]; exact ⟨rfl, rfl⟩)⟩
    · exact ⟨.inl (by rw [h]), .inl (by rw [h]; exact ⟨rfl, rfl⟩)⟩
  | prepareDelta target tick image delta additional =>
    simp only [AuthorityLineage.exec, Except.ok.injEq, Prod.mk.injEq] at hx
    obtain ⟨-, rfl⟩ := hx
    rcases AuthorityLineage.prepareDelta_effect t.lineage target tick image delta additional with
      ⟨-, h⟩ | ⟨c, -, h, -⟩
    · exact ⟨.inl (by rw [h]), .inl (by rw [h]; exact ⟨rfl, rfl⟩)⟩
    · exact ⟨.inl (by rw [h]), .inl (by rw [h]; exact ⟨rfl, rfl⟩)⟩
  | recordDeliveryAcceptance acceptance =>
    simp only [AuthorityLineage.exec, Checked.bind_eq_ok] at hx
    obtain ⟨⟨r, l⟩, hr, hx⟩ := hx
    cases hx
    rcases AuthorityLineage.recordDeliveryAcceptance_effect hr with ⟨-, rfl⟩ | ⟨c, -, -, hrec⟩
    · exact ⟨.inl rfl, .inl ⟨rfl, rfl⟩⟩
    · exact ⟨.inl (by rw [hrec.frame]), .inl ⟨by rw [hrec.frame], by rw [hrec.frame]⟩⟩
  | cancelPending => cases hx; exact ⟨.inl rfl, .inl ⟨rfl, rfl⟩⟩
  | acknowledgeAuthorized session connection cursor =>
    simp only [AuthorityLineage.exec, Except.ok.injEq, Prod.mk.injEq] at hx
    obtain ⟨-, rfl⟩ := hx
    rcases AuthorityLineage.acknowledgeAuthorized_effect t.lineage session connection cursor with
      h | ⟨e, he, -, h⟩
    · exact ⟨.inl (by rw [h]), .inl (by rw [h]; exact ⟨rfl, rfl⟩)⟩
    · rw [h]
      rcases AuthorityLineage.confirm_effect t.lineage cursor e with
        h | ⟨h, hc, hb⟩ | ⟨hr, h, hd⟩ | ⟨reason, g, w, hs, h⟩
      · exact ⟨.inl (by rw [h]), .inl (by rw [h]; exact ⟨rfl, rfl⟩)⟩
      · exact ⟨.inr ⟨_, _, _, rfl, hc⟩, .inr (.inl ⟨h, fun _ _ _ _ => hb⟩)⟩
      · exact ⟨.inr ⟨_, _, _, rfl, by rw [h]⟩,
          .inr (.inr ⟨_, _, _, e, rfl, he, hr, by rw [h], by rw [h], hd⟩)⟩
      · exact ⟨.inr ⟨_, _, _, rfl, by rw [h]⟩, .inl (by rw [h]; exact ⟨rfl, rfl⟩)⟩
  | requireFullRecovery reason =>
    simp only [AuthorityLineage.exec, Except.ok.injEq, Prod.mk.injEq] at hx
    obtain ⟨-, rfl⟩ := hx
    rcases AuthorityLineage.requireFullRecovery_effect t.lineage reason with h | ⟨h, hc⟩
    · exact ⟨.inl (by rw [h]), .inl (by rw [h]; exact ⟨rfl, rfl⟩)⟩
    · exact ⟨.inl hc, .inr (.inl ⟨h, fun _ _ _ e => nomatch e⟩)⟩
  | evictRetainedState cursor =>
    simp only [AuthorityLineage.exec, Checked.bind_eq_ok] at hx
    obtain ⟨⟨r, l⟩, hr, hx⟩ := hx
    cases hx
    rcases AuthorityLineage.evictRetainedState_effect hr with rfl | ⟨h, hc⟩ | ⟨hs, bytes, rfl⟩
    · exact ⟨.inl rfl, .inl ⟨rfl, rfl⟩⟩
    · exact ⟨.inl hc, .inr (.inl ⟨h, fun _ _ _ e => nomatch e⟩)⟩
    · exact ⟨.inl rfl, .inl ⟨rfl, rfl⟩⟩
  | connectionReplaced session connection =>
    simp only [AuthorityLineage.exec, Except.ok.injEq, Prod.mk.injEq] at hx
    obtain ⟨-, rfl⟩ := hx
    rcases AuthorityLineage.connectionReplaced_effect t.lineage session connection with h | ⟨h, hc⟩
    · exact ⟨.inl (by rw [h]), .inl (by rw [h]; exact ⟨rfl, rfl⟩)⟩
    · exact ⟨.inl hc, .inr (.inl ⟨h, fun _ _ _ e => nomatch e⟩)⟩

/-- Evidence of the current generation comes from an emission designated in it. -/
theorem Inv.designated {t : AuthorityTrace S D} (hi : t.Inv) {c : ReplicationCursor}
    {e : EmissionEvidence} {g : RecoveryGeneration} (he : t.lineage.evidence.get? c = some e)
    (hk : e.kind = .full) (hg : e.recoveryGeneration = some g) :
    ∃ m ∈ t.emissions, m.candidate.targetCursor = c ∧ m.DesignatedIn g ∧
      ∃ reason w, m.origin.state = .fullSnapshotRequired reason g w := by
  obtain ⟨m, hm, hc, hmk, hmg⟩ := hi.evidence_emitted c e he
  have hmg' : m.candidate.recoveryGeneration = some g := hmg.trans hg
  have hwell := hi.emissions m hm
  refine ⟨m, hm, hc, ⟨hmk.trans hk, by rw [hmg']; exact nofun, hwell.during g hmg'⟩, ?_⟩
  obtain ⟨candidate, origin, during⟩ := m
  cases hwell.prepares with
  | plain => cases hmg'
  | designated hs => cases hmg'; exact ⟨_, _, hs⟩
  | delta => cases hmg'

theorem exec_reply {t t' : AuthorityTrace S D} {op : AuthorityOp S D} (h : t.exec op = .ok t')
    {reply : AuthorityReply} {l' : AuthorityLineage S D}
    (hx : t.lineage.exec op = .ok (reply, l')) : t' = t.record reply l' := by
  rw [AuthorityTrace.exec, hx, Checked.ok_bind] at h
  exact (Except.ok.inj h).symm

theorem exec_demanded {t t' : AuthorityTrace S D} {op : AuthorityOp S D} (h : t.exec op = .ok t')
    {reason : AuthorityRecoveryReason} {base : ReplicationCursor} {l' : AuthorityLineage S D}
    (hs : t.lineage.state = .deltaEligible base) (hop : op = .requireFullRecovery reason)
    (hx : t.lineage.exec op = .ok (.required (.ok ()), l')) :
    ∃ g, t.lineage.generation < g ∧
      t'.lineage.state = .fullSnapshotRequired reason g t.lineage.greatestEmitted := by
  rw [exec_reply h hx, record_lineage]
  subst hop
  have hrequired : t.lineage.requireFullRecovery reason = (.ok (), l') := by
    simp only [AuthorityLineage.exec, Except.ok.injEq, Prod.mk.injEq,
      AuthorityReply.required.injEq] at hx
    exact Prod.ext hx.1 hx.2
  obtain ⟨g, hlt, rfl⟩ := AuthorityLineage.requireFullRecovery_ok hs hrequired
  exact ⟨g, hlt, rfl⟩

theorem exec_replaced {t t' : AuthorityTrace S D} {op : AuthorityOp S D} (h : t.exec op = .ok t')
    {session : Session} {connection : ConnectionHandle} {l' : AuthorityLineage S D}
    (hop : op = .connectionReplaced session connection)
    (hx : t.lineage.exec op = .ok (.required (.ok ()), l')) :
    ∃ g, t.lineage.generation < g ∧
      t'.lineage.state =
        .fullSnapshotRequired .connectionReplacement g t.lineage.greatestEmitted := by
  rw [exec_reply h hx, record_lineage]
  subst hop
  have hreplaced : t.lineage.connectionReplaced session connection = (.ok (), l') := by
    simp only [AuthorityLineage.exec, Except.ok.injEq, Prod.mk.injEq,
      AuthorityReply.required.injEq] at hx
    exact Prod.ext hx.1 hx.2
  obtain ⟨g, hlt, rfl⟩ := AuthorityLineage.connectionReplaced_ok hreplaced
  exact ⟨g, hlt, rfl⟩

/-- A snapshot is returned as emitted only for the pending candidate. -/
theorem exec_recorded {l l' : AuthorityLineage S D} {op : AuthorityOp S D} {m : EmittedSnapshot}
    (h : l.exec op = .ok (.recorded (.ok (some m)), l')) :
    ∃ candidate, l.pending = some candidate ∧ m = AuthorityLineage.emittedOf candidate := by
  cases op with
  | recordDeliveryAcceptance acceptance =>
    simp only [AuthorityLineage.exec, Checked.bind_eq_ok] at h
    obtain ⟨⟨r, l₁⟩, hr, h⟩ := h
    cases h
    rcases AuthorityLineage.recordDeliveryAcceptance_effect hr with ⟨hne, -⟩ | ⟨c, hp, hm, -⟩
    · exact absurd rfl (hne m)
    · cases hm
      exact ⟨c, hp, rfl⟩
  | evictRetainedState cursor =>
    simp only [AuthorityLineage.exec, Checked.bind_eq_ok] at h
    obtain ⟨r, -, h⟩ := h
    cases h
  | prepareFull => cases h
  | prepareDelta => cases h
  | cancelPending => cases h
  | acknowledgeAuthorized => cases h
  | requireFullRecovery => cases h
  | connectionReplaced => cases h

theorem Inv.reported {t t' : AuthorityTrace S D} (hi : t.Inv) {op : AuthorityOp S D}
    (h : t.exec op = .ok t') {m : EmittedSnapshot} {l' : AuthorityLineage S D}
    (hx : t.lineage.exec op = .ok (.recorded (.ok (some m)), l')) :
    ∃ e, t'.emissions = t.emissions ++ [e] ∧ t.lineage.pending = some e.candidate ∧
      m = AuthorityLineage.emittedOf e.candidate := by
  obtain ⟨candidate, hp, hm⟩ := exec_recorded hx
  obtain ⟨o, ho, -⟩ := hi.pending_origin candidate hp
  refine ⟨⟨candidate, o, t.lineage.generation⟩, ?_, hp, hm⟩
  rw [exec_reply h hx]
  simp only [record, hp, ho]

theorem exec_unreported {t t' : AuthorityTrace S D} {op : AuthorityOp S D} (h : t.exec op = .ok t')
    (hno : ∀ m l', t.lineage.exec op ≠ .ok (.recorded (.ok (some m)), l')) :
    t'.emissions = t.emissions := by
  rw [AuthorityTrace.exec, Checked.bind_eq_ok] at h
  obtain ⟨⟨reply, l'⟩, hx, h⟩ := h
  obtain rfl := Except.ok.inj h
  unfold record
  split
  · rfl
  · exact absurd hx (hno _ _)
  · rfl

theorem Inv.replied {t t' : AuthorityTrace S D} (hi : t.Inv) {op : AuthorityOp S D}
    (h : t.exec op = .ok t') : AuthorityReplied t t' op where
  demanded := fun _ _ _ => exec_demanded h
  replaced := fun _ _ _ => exec_replaced h
  reported := fun _ _ => hi.reported h
  unreported := exec_unreported h

theorem Inv.step {t t' : AuthorityTrace S D} (hi : t.Inv) {op : AuthorityOp S D}
    (h : t.exec op = .ok t') : RecoveryStep t t' op := by
  rcases (exec_state h).2 with ⟨hs, hg⟩ | ⟨⟨reason, g, hlt, hs, hg, -⟩, hack⟩ |
    ⟨session, connection, c, e, rfl, he, hr, hs, hg, hd⟩
  · exact
      { toAuthorityReplied := hi.replied h
        cleared := fun _ _ _ _ h1 h2 => by rw [hs, h1] at h2; cases h2
        kept := fun _ _ _ _ _ _ _ _ _ => hs
        generation := le_of_eq hg.symm
        new_recovery := fun _ _ _ _ hne => absurd hs hne }
  · exact
      { toAuthorityReplied := hi.replied h
        cleared := fun _ _ _ _ _ h2 => by rw [hs] at h2; cases h2
        kept := fun _ _ _ _ _ _ h1 hop _ => by
          obtain ⟨base, hb⟩ := hack _ _ _ hop
          rw [hb] at h1
          cases h1
        generation := hg ▸ le_of_lt hlt
        new_recovery := fun _ _ _ h2 _ => by rw [hs] at h2; cases h2; exact ⟨hlt, hg, rfl⟩ }
  · exact
      { toAuthorityReplied := hi.replied h
        cleared := fun reason g w c' h1 h2 => by
          obtain rfl : c = c' := by rw [hs] at h2; cases h2; rfl
          obtain ⟨hk, hge⟩ := hd _ _ _ h1
          refine ⟨⟨_, _, rfl⟩, hi.designated he hk hge, fun w' hw => ?_, hr⟩
          exact (hi.evidence_designated c e g he hge).2 reason w' (hw ▸ h1)
        kept := fun reason g w _ _ c' h1 hop hno => by
          cases hop
          obtain ⟨hk, hge⟩ := hd _ _ _ h1
          obtain ⟨m, hm, hc, hdes, -⟩ := hi.designated he hk hge
          exact absurd hdes (hno m hm hc)
        generation := le_of_eq hg.symm
        new_recovery := fun _ _ _ h2 _ => by rw [hs] at h2; cases h2 }

/-- Every lineage reached by any sequence of operations is safe, and every further operation
respects the recovery requirement. -/
theorem recovery_safety {key : ReplicationLineageKey} {limits : ReplicationRetentionLimits}
    {ops : List (AuthorityOp S D)} {t : AuthorityTrace S D}
    (h : ops.foldlM AuthorityTrace.exec (start key limits) = .ok t) :
    RecoverySafe t ∧ ∀ op t', t.exec op = .ok t' → RecoveryStep t t' op :=
  ⟨(inv_of_run h).safe, fun _ _ hx => (inv_of_run h).step hx⟩

/-! A lineage whose initial baseline is designated, emitted and confirmed, and a delta from it. -/

def sampleKey : ReplicationLineageKey := ⟨⟨1⟩, ⟨7⟩⟩

def sampleRetention : ReplicationRetentionLimits where
  maxStateImageBytes := .nearest 8
  maxRetainedImagesPerLineage := .nearest 2
  maxRetainedStateBytesPerLineage := .nearest 16
  maxCandidateBytesPerLineage := .nearest 16
  maxEmissionEvidencePerLineage := .nearest 2
  image_le_retained := by decide
  image_le_candidate := by decide

def sampleSession : Session :=
  { Session.new ⟨1⟩ ⟨.nearest 4, .nearest 4, by decide⟩ with
    memberships := .ofList [(⟨7⟩, ⟨.bound ⟨3⟩, none⟩)]
    bindings := .ofList [(⟨3⟩, ⟨7⟩)] }

def sampleOps : List (AuthorityOp Nat Nat) :=
  [.prepareFull ⟨⟨1⟩, ⟨5⟩, ⟨40, 8⟩⟩ true, .recordDeliveryAcceptance .accepted,
    .acknowledgeAuthorized sampleSession ⟨3⟩ ⟨1⟩, .prepareDelta ⟨2⟩ ⟨6⟩ ⟨42, 8⟩ 2 1,
    .recordDeliveryAcceptance .accepted]

theorem recovery_safety_sample : ∃ t : AuthorityTrace Nat Nat, t.lineage.state = .deltaEligible ⟨1⟩ ∧
    t.emissions.length = 2 ∧ RecoverySafe t ∧
    ∀ op t', t.exec op = .ok t' → RecoveryStep t t' op := by
  obtain ⟨t, h, hs, he⟩ : ∃ t, sampleOps.foldlM exec (start sampleKey sampleRetention) = .ok t ∧
      t.lineage.state = .deltaEligible ⟨1⟩ ∧ t.emissions.length = 2 := ⟨_, rfl, rfl, rfl⟩
  exact ⟨t, hs, he, recovery_safety h⟩

end AuthorityTrace

end RunenNet
