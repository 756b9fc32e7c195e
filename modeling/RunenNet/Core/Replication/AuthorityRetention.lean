import RunenNet.Core.Replication.SessionTrace

/-!
# Retention of an authority lineage

The retention loops of an emission end, keep exact totals and leave room for what is added.
`Sound` is the invariant of one lineage, and `charge` is what it holds of each aggregate
budget: a delivery acceptance turns a reservation into retained state without raising it.
-/

namespace RunenNet

open Foundation

/-- The session-wide budgets that retained and reserved state share. -/
inductive Resource where
  | images
  | retainedBytes
  | evidence
  | stateBytes
  deriving DecidableEq, Repr

def AuthorityAggregateLimits.budget (limits : AuthorityAggregateLimits) : Resource → Nat
  | .images => limits.maxRetainedImages.get
  | .retainedBytes => limits.maxRetainedStateBytes.get
  | .evidence => limits.maxEmissionEvidence.get
  | .stateBytes => limits.maxStateBytes.get

namespace AuthorityLineage

variable {S D : Type}

/-- The total kept beside the images is exact. -/
def Exact (l : AuthorityLineage S D) : Prop := l.retainedBytes = imageBytes l.retained

theorem Exact.total {l : AuthorityLineage S D} (h : l.Exact) :
    l.retainedBytes = imageBytes l.retained := h

def pendingCount (l : AuthorityLineage S D) : Nat := if l.hasPending then 1 else 0

/-- What a lineage holds of a budget: its retained state and the reservation of its candidate. -/
def charge (l : AuthorityLineage S D) : Resource → Nat
  | .images => l.retained.size + l.pendingCount
  | .retainedBytes => l.retainedBytes + l.pendingStateBytes
  | .evidence => l.evidence.size + l.pendingCount
  | .stateBytes => l.retainedBytes + l.pendingCandidateBytes

/-- The invariant of one lineage. -/
structure Sound (l : AuthorityLineage S D) : Prop where
  bytes_exact : l.retainedBytes = l.retained.sum fun _ r => r.image.accountedBytes
  count_le : l.retained.size ≤ l.limits.maxRetainedImagesPerLineage.get
  bytes_le : l.retainedBytes ≤ l.limits.maxRetainedStateBytesPerLineage.get
  evidence_le : l.evidence.size ≤ l.limits.maxEmissionEvidencePerLineage.get
  eligible : ∀ base, l.state = .deltaEligible base → ∃ r, l.retained.get? base = some r
  retained_emitted : ∀ c r, l.retained.get? c = some r → ∃ g, l.greatestEmitted = some g ∧ c ≤ g
  evidence_emitted : ∀ c e, l.evidence.get? c = some e → ∃ g, l.greatestEmitted = some g ∧ c ≤ g
  watermark_emitted : ∀ reason generation w,
    l.state = .fullSnapshotRequired reason generation (some w) →
    ∃ g, l.greatestEmitted = some g ∧ w ≤ g
  pending_fits : ∀ c, l.pending = some c → c.stateBytes ≤ l.limits.maxStateImageBytes.get
  pending_new : ∀ c, l.pending = some c → ∀ g, l.greatestEmitted = some g → g < c.targetCursor

theorem Sound.exact {l : AuthorityLineage S D} (h : l.Sound) : l.Exact := h.bytes_exact

theorem sound_new (key : ReplicationLineageKey) (limits : ReplicationRetentionLimits) :
    (new key limits : AuthorityLineage S D).Sound where
  bytes_exact := rfl
  count_le := Nat.zero_le _
  bytes_le := Nat.zero_le _
  evidence_le := Nat.zero_le _
  eligible := by intro base h; cases h
  retained_emitted := by intro c r h; cases h
  evidence_emitted := by intro c e h; cases h
  watermark_emitted := by intro reason generation w h; cases h
  pending_fits := by intro c h; cases h
  pending_new := by intro c h; cases h

/-! ### The retention loops -/

theorem overRetention_spec {l : AuthorityLineage S D} {bytes : Nat}
    (h : bytes ≤ l.limits.maxRetainedStateBytesPerLineage.get) :
    ∃ full, l.overRetention bytes = .ok full ∧ (full = false →
      l.retained.size < l.limits.maxRetainedImagesPerLineage.get ∧
      l.retainedBytes + bytes ≤ l.limits.maxRetainedStateBytesPerLineage.get) := by
  unfold overRetention
  by_cases hcount : l.retained.size ≥ l.limits.maxRetainedImagesPerLineage.get
  · rw [if_pos hcount]
    exact ⟨true, rfl, by simp⟩
  · rw [if_neg hcount, Checked.sub_ok h, Checked.ok_bind]
    refine ⟨_, rfl, fun hover => ?_⟩
    simp only [decide_eq_false_iff_not, gt_iff_lt, not_lt] at hover
    omega

/-- The lineage without one image. -/
def withoutImage (l : AuthorityLineage S D) (c : ReplicationCursor) : AuthorityLineage S D :=
  { l with retained := l.retained.erase c, retainedBytes := imageBytes (l.retained.erase c) }

/-- Taking one image's bytes off an exact total. -/
theorem Exact.sub {l : AuthorityLineage S D} (h : l.Exact) {c : ReplicationCursor}
    {r : RetainedState S} (hr : l.retained.get? c = some r) :
    Checked.sub l.retainedBytes r.image.accountedBytes = .ok (imageBytes (l.retained.erase c)) := by
  rw [h.total, imageBytes_erase hr, Checked.sub_ok (Nat.le_add_right _ _), Nat.add_sub_cancel_left]

/-- The loop ends, keeps the total exact, and says whether there is room for the new image. -/
theorem evictForRetention_spec {bytes : Nat} (bound : Nat) {l : AuthorityLineage S D}
    (hbound : l.retained.size < bound) (hl : l.Exact)
    (hroom : bytes ≤ l.limits.maxRetainedStateBytesPerLineage.get) :
    ∃ fits l', evictForRetention bytes bound l = .ok (fits, l') ∧ l'.Exact ∧
      l'.retained.size ≤ l.retained.size ∧ l'.retainedBytes ≤ l.retainedBytes ∧
      (fits = true → l'.retained.size < l.limits.maxRetainedImagesPerLineage.get ∧
        l'.retainedBytes + bytes ≤ l.limits.maxRetainedStateBytesPerLineage.get) := by
  induction bound generalizing l with
  | zero => omega
  | succ bound ih =>
    obtain ⟨full, hover, hfits⟩ := overRetention_spec hroom
    rw [evictForRetention, hover, Checked.ok_bind]
    cases full with
    | false => exact ⟨true, l, rfl, hl, Nat.le_refl _, Nat.le_refl _, fun _ => hfits rfl⟩
    | true =>
      rw [if_pos rfl]
      cases hfind : l.retained.keys.find? (fun existing => some existing ≠ l.protectedCursor) with
      | none => exact ⟨false, l, rfl, hl, Nat.le_refl _, Nat.le_refl _, by simp⟩
      | some evict =>
        obtain ⟨removed, hget⟩ := SortedMap.mem_keys.mp (List.mem_of_find?_eq_some hfind)
        have hsize := SortedMap.size_erase_of_some hget
        have hbytes : imageBytes (l.retained.erase evict) ≤ l.retainedBytes := by
          rw [hl.total]
          exact imageBytes_erase_le _ _
        have hsmaller : (l.withoutImage evict).retained.size < bound := by
          show (l.retained.erase evict).size < bound
          omega
        obtain ⟨fits, l', hrun, hexact, hcount, htotal, hfits'⟩ :=
          ih (l := l.withoutImage evict) hsmaller rfl hroom
        refine ⟨fits, l', ?_, hexact, ?_, ?_, hfits'⟩
        · simp only [hget, Checked.expect_some, Checked.ok_bind, hl.sub hget]
          exact hrun
        · exact Nat.le_trans hcount (SortedMap.size_erase_le _ _)
        · exact Nat.le_trans htotal hbytes

/-- What retaining an emitted image leaves behind: the image is added to what the loop left, or
the loop found no room. -/
theorem retainAuthorityState_spec {l : AuthorityLineage S D} (hl : l.Exact)
    {cursor : ReplicationCursor} {tick : SimulationTick} {image : AccountedState S}
    (hroom : image.accountedBytes ≤ l.limits.maxRetainedStateBytesPerLineage.get)
    (hnew : l.retained.get? cursor = none) :
    ∃ l', l.retainAuthorityState cursor tick image = .ok l' ∧ l'.Exact ∧
      l' = { l with retained := l'.retained, retainedBytes := l'.retainedBytes } ∧
      l'.retained.size ≤ l.retained.size + 1 ∧
      l'.retainedBytes ≤ l.retainedBytes + image.accountedBytes ∧
      (l.retained.size ≤ l.limits.maxRetainedImagesPerLineage.get →
        l'.retained.size ≤ l.limits.maxRetainedImagesPerLineage.get) ∧
      (l.retainedBytes ≤ l.limits.maxRetainedStateBytesPerLineage.get →
        l'.retainedBytes ≤ l.limits.maxRetainedStateBytesPerLineage.get) := by
  obtain ⟨fits, l1, hrun, hexact, hcount, htotal, hfits⟩ :=
    evictForRetention_spec (l.retained.size + 1) (Nat.lt_succ_self _) hl hroom
  have hevicted := evictForRetention_evicted hrun
  unfold retainAuthorityState
  rw [hrun, Checked.ok_bind]
  cases fits with
  | false =>
    refine ⟨l1, rfl, hexact, hevicted.frame, ?_, ?_, ?_, ?_⟩
    · omega
    · omega
    · omega
    · omega
  | true =>
    obtain ⟨hspare, hspace⟩ := hfits rfl
    have habsent : l1.retained.get? cursor = none := by
      rw [Option.eq_none_iff_forall_ne_some]
      intro r hr
      exact absurd (hevicted.subset cursor r hr) (by simp [hnew])
    have hmax := l.limits.maxRetainedStateBytesPerLineage.le_max
    have hadd : Checked.add l1.retainedBytes image.accountedBytes =
        .ok (l1.retainedBytes + image.accountedBytes) :=
      Checked.add_ok (by omega)
    have hsize := SortedMap.size_insert_of_none (⟨tick, image⟩ : RetainedState S) habsent
    simp only [hadd, Checked.ok_bind, habsent, Option.isNone_none, Checked.assert_true]
    refine ⟨_, rfl, ?_, ?_, ?_, ?_, ?_, ?_⟩
    · show l1.retainedBytes + image.accountedBytes = imageBytes (l1.retained.insert cursor _)
      rw [imageBytes_insert _ habsent, hexact.total]
    · rw [hevicted.frame]
    · show (l1.retained.insert cursor _).size ≤ _
      omega
    · show l1.retainedBytes + image.accountedBytes ≤ _
      omega
    · intro _
      show (l1.retained.insert cursor _).size ≤ _
      omega
    · intro _
      exact hspace

/-- The evidence loop ends with room for one more entry. -/
theorem evictEvidence_spec {max : Nat} (hmax : 0 < max) (bound : Nat)
    {m : SortedMap ReplicationCursor EmissionEvidence} (hbound : m.size < bound) :
    ∃ m', evictEvidence max bound m = .ok m' ∧ m'.size < max ∧ m'.size ≤ m.size := by
  induction bound generalizing m with
  | zero => omega
  | succ bound ih =>
    unfold evictEvidence
    by_cases hfull : m.size ≥ max
    · rw [if_pos hfull]
      cases hes : m.entries with
      | nil =>
        have : m.size = 0 := by rw [SortedMap.size, hes]; rfl
        omega
      | cons e es =>
        have hmin : m.min? = some e := by rw [SortedMap.min?, hes]; rfl
        have hsize := SortedMap.size_erase_of_some (SortedMap.get?_head hes)
        obtain ⟨m', hrun, hlt, hle⟩ := ih (m := m.erase e.1) (by omega)
        rw [hmin, Checked.expect_some, Checked.ok_bind]
        exact ⟨m', hrun, hlt, by omega⟩
    · rw [if_neg hfull]
      exact ⟨m, rfl, by omega, Nat.le_refl _⟩

/-! ### Emitting -/

/-- Everything retained or remembered was emitted before, so a newer cursor is in neither map. -/
theorem Sound.retained_absent {l : AuthorityLineage S D} (hs : l.Sound) {cursor : ReplicationCursor}
    (hnew : ∀ g, l.greatestEmitted = some g → g < cursor) : l.retained.get? cursor = none := by
  rw [Option.eq_none_iff_forall_ne_some]
  intro r hr
  obtain ⟨g, hg, hle⟩ := hs.retained_emitted cursor r hr
  exact absurd (hnew g hg) (not_lt.mpr hle)

/-- What recording an emission leaves behind. -/
structure Emitted (l l' : AuthorityLineage S D) (bytes : Nat) : Prop where
  sound : l'.Sound
  pending : l'.pending = none
  images : l'.retained.size ≤ l.retained.size + 1
  bytes : l'.retainedBytes ≤ l.retainedBytes + bytes
  evidence : l'.evidence.size ≤ l.evidence.size + 1
  base : ∀ base r, l.state = .deltaEligible base → l.retained.get? base = some r →
    l'.retained.get? base = some r

theorem recordEmittedState_spec {l : AuthorityLineage S D} (hs : l.Sound)
    (hpending : l.pending = none) {cursor : ReplicationCursor} (tick : SimulationTick)
    (image : AccountedState S) (kind : SnapshotKind) (generation : Option RecoveryGeneration)
    (hnew : ∀ g, l.greatestEmitted = some g → g < cursor)
    (hfit : image.accountedBytes ≤ l.limits.maxStateImageBytes.get) :
    ∃ l', l.recordEmittedState cursor tick image kind generation = .ok l' ∧
      Emitted l l' image.accountedBytes := by
  obtain ⟨l1, hretain, hexact, hframe, himages, hbytes, hcount, htotal⟩ := retainAuthorityState_spec
    (l := { l with greatestEmitted := some cursor, greatestEmittedTick := some tick }) hs.exact
    (Nat.le_trans hfit l.limits.image_le_retained) (hs.retained_absent hnew)
  obtain ⟨m, hevict, hroom, hsize⟩ := evictEvidence_spec
    l1.limits.maxEmissionEvidencePerLineage.pos (l1.evidence.size + 1) (m := l1.evidence)
    (Nat.lt_succ_self _)
  have hrun : l.recordEmittedState cursor tick image kind generation =
      .ok { l1 with evidence := m.insert cursor ⟨kind, generation⟩ } := by
    rw [recordEmittedState, hretain, Checked.ok_bind, retainEmissionEvidence, hevict]
    rfl
  have hrec := recordEmittedState_recorded hrun
  have hstate : l1.state = l.state := by rw [hframe]
  have hlimits : l1.limits = l.limits := by rw [hframe]
  have hevidence : l1.evidence = l.evidence := by rw [hframe]
  have hgreatest : l1.greatestEmitted = some cursor := by rw [hframe]
  have hinsert := SortedMap.size_insert_le m cursor ⟨kind, generation⟩
  have hbase : ∀ base r, l.state = .deltaEligible base → l.retained.get? base = some r →
      l1.retained.get? base = some r := by
    intro base r hbase hr
    have hprotected : l.protectedCursor = some base := by rw [protectedCursor, hbase]
    have hkept := hrec.spared base hprotected (SortedMap.contains_iff.mpr ⟨r, hr⟩)
    obtain ⟨r', hr'⟩ := SortedMap.contains_iff.mp hkept
    rcases hrec.images base r' hr' with hold | ⟨rfl, -⟩
    · rw [hr] at hold
      rw [hold]
      exact hr'
    · rw [hs.retained_absent hnew] at hr
      cases hr
  refine ⟨_, hrun, ?_, ?_, himages, hbytes, ?_, hbase⟩
  · constructor
    · exact hexact
    · rw [hlimits]
      exact hcount hs.count_le
    · rw [hlimits]
      exact htotal hs.bytes_le
    · exact Nat.le_trans hinsert hroom
    · intro base hb
      obtain ⟨r, hr⟩ := hs.eligible base (hstate ▸ hb)
      exact ⟨r, hbase base r (hstate ▸ hb) hr⟩
    · intro c r hc
      refine ⟨cursor, hgreatest, ?_⟩
      rcases hrec.images c r hc with hold | ⟨rfl, -⟩
      · obtain ⟨g, hg, hle⟩ := hs.retained_emitted c r hold
        exact hle.trans (hnew g hg).le
      · exact le_refl _
    · intro c e hc
      refine ⟨cursor, hgreatest, ?_⟩
      rcases hrec.evidence c e hc with hold | ⟨rfl, -⟩
      · obtain ⟨g, hg, hle⟩ := hs.evidence_emitted c e hold
        exact hle.trans (hnew g hg).le
      · exact le_refl _
    · intro reason g w hw
      refine ⟨cursor, hgreatest, ?_⟩
      obtain ⟨e, he, hle⟩ := hs.watermark_emitted reason g w (hstate ▸ hw)
      exact hle.trans (hnew e he).le
    · intro c hc
      rw [hframe, hpending] at hc
      cases hc
    · intro c hc
      rw [hframe, hpending] at hc
      cases hc
  · show l1.pending = none
    rw [hframe, hpending]
  · show (m.insert cursor _).size ≤ _
    rw [hevidence] at hsize
    omega

/-! ### What an operation keeps -/

theorem charge_le (l l' : AuthorityLineage S D) (hsize : l'.retained.size ≤ l.retained.size)
    (hbytes : l'.retainedBytes ≤ l.retainedBytes) (hevidence : l'.evidence.size ≤ l.evidence.size)
    (hpending : l'.pending = l.pending ∨ l'.pending = none) (r : Resource) :
    l'.charge r ≤ l.charge r := by
  have hcount : l'.pendingCount ≤ l.pendingCount ∧ l'.pendingStateBytes ≤ l.pendingStateBytes ∧
      l'.pendingCandidateBytes ≤ l.pendingCandidateBytes := by
    unfold pendingCount hasPending pendingStateBytes pendingCandidateBytes
    rcases hpending with h | h
    · rw [h]
      exact ⟨Nat.le_refl _, Nat.le_refl _, Nat.le_refl _⟩
    · rw [h]
      exact ⟨Nat.zero_le _, Nat.zero_le _, Nat.zero_le _⟩
  cases r with
  | images => simp only [charge]; omega
  | retainedBytes => simp only [charge]; omega
  | evidence => simp only [charge]; omega
  | stateBytes => simp only [charge]; omega

/-- A candidate's image is part of the bytes reserved for it. -/
theorem Sound.stateBytes_le {l : AuthorityLineage S D} (hs : l.Sound) {c : SnapshotCandidate S D}
    (hc : l.pending = some c) : c.stateBytes ≤ c.totalCandidateBytes := by
  have hfit := hs.pending_fits c hc
  have hmax := l.limits.maxStateImageBytes.le_max
  cases c with
  | full snapshot generation => exact Nat.le_refl _
  | delta base target tick image delta additional =>
    simp only [SnapshotCandidate.stateBytes, SnapshotCandidate.totalCandidateBytes,
      saturatingAdd] at *
    omega

/-- An emission turns the reservation of its candidate into retained state. -/
theorem Emitted.charge_le {l l' : AuthorityLineage S D} (hs : l.Sound) {c : SnapshotCandidate S D}
    (hc : l.pending = some c) (h : Emitted { l with pending := none } l' c.stateBytes)
    (r : Resource) : l'.charge r ≤ l.charge r := by
  have htotal := hs.stateBytes_le hc
  have himages : l'.retained.size ≤ l.retained.size + 1 := h.images
  have hbytes : l'.retainedBytes ≤ l.retainedBytes + c.stateBytes := h.bytes
  have hevidence : l'.evidence.size ≤ l.evidence.size + 1 := h.evidence
  have hpending := h.pending
  cases r with
  | images => simp only [charge, pendingCount, hasPending, hpending, hc]; simpa using himages
  | retainedBytes =>
    simp only [charge, pendingStateBytes, hpending, hc, Option.map_none, Option.map_some,
      Option.getD_none, Option.getD_some]
    omega
  | evidence => simp only [charge, pendingCount, hasPending, hpending, hc]; simpa using hevidence
  | stateBytes =>
    simp only [charge, pendingCandidateBytes, hpending, hc, Option.map_none, Option.map_some,
      Option.getD_none, Option.getD_some]
    omega

theorem Sound.unreserved {l : AuthorityLineage S D} (hs : l.Sound) :
    ({ l with pending := none } : AuthorityLineage S D).Sound where
  bytes_exact := hs.bytes_exact
  count_le := hs.count_le
  bytes_le := hs.bytes_le
  evidence_le := hs.evidence_le
  eligible := hs.eligible
  retained_emitted := hs.retained_emitted
  evidence_emitted := hs.evidence_emitted
  watermark_emitted := hs.watermark_emitted
  pending_fits := by intro c h; cases h
  pending_new := by intro c h; cases h

theorem Sound.installNewRecovery {l : AuthorityLineage S D} (hs : l.Sound)
    (reason : AuthorityRecoveryReason) (generation : RecoveryGeneration) :
    (l.installNewRecovery reason generation).Sound where
  bytes_exact := hs.bytes_exact
  count_le := hs.count_le
  bytes_le := hs.bytes_le
  evidence_le := hs.evidence_le
  eligible := by intro base h; cases h
  retained_emitted := hs.retained_emitted
  evidence_emitted := hs.evidence_emitted
  watermark_emitted := by
    intro _ _ w h
    injection h with _ _ hw
    exact ⟨w, hw, le_refl w⟩
  pending_fits := by intro c h; cases h
  pending_new := by intro c h; cases h

theorem Sound.withoutImage {l : AuthorityLineage S D} (hs : l.Sound) {c : ReplicationCursor}
    (hc : l.state ≠ .deltaEligible c) : (l.withoutImage c).Sound where
  bytes_exact := rfl
  count_le := Nat.le_trans (SortedMap.size_erase_le _ _) hs.count_le
  bytes_le := by
    refine Nat.le_trans ?_ hs.bytes_le
    rw [hs.exact.total]
    exact imageBytes_erase_le _ _
  evidence_le := hs.evidence_le
  eligible := by
    intro base hbase
    obtain ⟨r, hr⟩ := hs.eligible base hbase
    have hne : base ≠ c := by rintro rfl; exact hc hbase
    exact ⟨r, (SortedMap.get?_erase_ne _ hne).trans hr⟩
  retained_emitted := fun d r hd => hs.retained_emitted d r (erase_subset hd)
  evidence_emitted := hs.evidence_emitted
  watermark_emitted := hs.watermark_emitted
  pending_fits := hs.pending_fits
  pending_new := hs.pending_new

theorem installNewRecovery_charge (l : AuthorityLineage S D) (reason : AuthorityRecoveryReason)
    (generation : RecoveryGeneration) (r : Resource) :
    (l.installNewRecovery reason generation).charge r ≤ l.charge r := by
  have hp : (l.installNewRecovery reason generation).pending = none := rfl
  exact charge_le l (l.installNewRecovery reason generation) (Nat.le_refl _) (Nat.le_refl _)
    (Nat.le_refl _) (.inr hp) r

/-- What an operation other than a prepare keeps: the invariant, and every budget's charge; an
error changes nothing. -/
structure Kept {α : Type} (l : AuthorityLineage S D)
    (a : Except AuthorityOperationError α × AuthorityLineage S D) : Prop where
  sound : a.2.Sound
  charge : ∀ r, a.2.charge r ≤ l.charge r
  error : ∀ e, a.1 = .error e → a.2 = l

theorem Sound.kept {α : Type} {l : AuthorityLineage S D} (hs : l.Sound)
    (r : Except AuthorityOperationError α) : Kept l (r, l) :=
  ⟨hs, fun _ => Nat.le_refl _, fun _ _ => rfl⟩

theorem Sound.kept_recovery {α : Type} {l : AuthorityLineage S D} (hs : l.Sound)
    (reason : AuthorityRecoveryReason) (generation : RecoveryGeneration) (a : α) :
    Kept l (.ok a, l.installNewRecovery reason generation) :=
  ⟨hs.installNewRecovery reason generation, installNewRecovery_charge l reason generation,
    fun e h => by cases h⟩

theorem withoutImage_charge {l : AuthorityLineage S D} (hs : l.Sound) (c : ReplicationCursor)
    (r : Resource) : (l.withoutImage c).charge r ≤ l.charge r := by
  have hbytes : (l.withoutImage c).retainedBytes ≤ l.retainedBytes := by
    rw [hs.exact.total]
    exact imageBytes_erase_le _ _
  exact charge_le l _ (SortedMap.size_erase_le _ _) hbytes (Nat.le_refl _) (.inl rfl) r

theorem Emitted.kept {l l' : AuthorityLineage S D} (hs : l.Sound) {c : SnapshotCandidate S D}
    (hc : l.pending = some c) (h : Emitted { l with pending := none } l' c.stateBytes)
    (e : EmittedSnapshot) : Kept l (.ok (some e), l') :=
  ⟨h.sound, h.charge_le hs hc, fun e h => by cases h⟩

theorem recordDeliveryAcceptance_kept {l : AuthorityLineage S D} (hs : l.Sound)
    (acceptance : DeliveryAcceptance) :
    ∃ a, l.recordDeliveryAcceptance acceptance = .ok a ∧ Kept l a ∧
      ∀ base r, l.state = .deltaEligible base → l.retained.get? base = some r →
        a.2.retained.get? base = some r := by
  unfold recordDeliveryAcceptance
  cases acceptance with
  | notAccepted => exact ⟨_, rfl, hs.kept _, fun _ _ _ hr => hr⟩
  | accepted =>
    cases hc : l.pending with
    | none => exact ⟨_, rfl, hs.kept _, fun _ _ _ hr => hr⟩
    | some candidate =>
      have hfit := hs.pending_fits candidate hc
      cases candidate with
      | full snapshot generation =>
        have hnew : ∀ g, l.greatestEmitted = some g → g < snapshot.targetCursor :=
          hs.pending_new _ hc
        obtain ⟨l', hrun, hemitted⟩ := recordEmittedState_spec hs.unreserved rfl
          snapshot.targetTick snapshot.image .full generation hnew hfit
        refine ⟨(.ok (some ⟨.full, none, snapshot.targetCursor, snapshot.targetTick, generation⟩), l'),
          ?_, hemitted.kept hs hc _, hemitted.base⟩
        simp only [hrun, Checked.ok_bind, Checked.pure_eq]
      | delta base target tick image delta additional =>
        have hnew : ∀ g, l.greatestEmitted = some g → g < target := hs.pending_new _ hc
        obtain ⟨l', hrun, hemitted⟩ := recordEmittedState_spec hs.unreserved rfl tick
          image .delta none hnew hfit
        refine ⟨(.ok (some ⟨.delta, some base, target, tick, none⟩), l'), ?_,
          hemitted.kept hs hc _, hemitted.base⟩
        simp only [hrun, Checked.ok_bind, Checked.pure_eq]

theorem confirm_kept {l : AuthorityLineage S D} (hs : l.Sound) (cursor : ReplicationCursor)
    (e : EmissionEvidence) : Kept l (l.confirm cursor e) := by
  have hconfirmed : ({ l with latestConfirmed := some cursor } : AuthorityLineage S D).Sound :=
    { hs with }
  have hadvanced : l.baselineAvailable cursor = true → Kept l
      (Except.ok AuthorityAckOutcome.confirmed,
        { l with latestConfirmed := some cursor, state := .deltaEligible cursor }) := by
    intro hb
    refine ⟨{ hs with eligible := ?_, watermark_emitted := ?_ }, fun _ => Nat.le_refl _, ?_⟩
    · intro base hbase
      cases hbase
      exact SortedMap.contains_iff.mp hb
    · intro reason generation w hw
      cases hw
    · intro e h
      cases h
  unfold AuthorityLineage.confirm
  split
  · split
    · rename_i hb
      exact hadvanced hb
    · split
      · exact hs.kept _
      · exact ⟨hconfirmed.installNewRecovery _ _, installNewRecovery_charge _ _ _,
          fun e h => by cases h⟩
  · split
    · rename_i hb
      exact hadvanced hb.2.2
    · exact ⟨hconfirmed, fun _ => Nat.le_refl _, fun e h => by cases h⟩

theorem acknowledgeAuthorized_kept {l : AuthorityLineage S D} (hs : l.Sound) (session : Session)
    (c : ConnectionHandle) (cursor : ReplicationCursor) :
    Kept l (l.acknowledgeAuthorized session c cursor) := by
  unfold acknowledgeAuthorized
  split
  · exact hs.kept _
  · split
    · exact hs.kept _
    · split
      · exact hs.kept _
      · split
        · exact hs.kept _
        · split
          · exact hs.kept _
          · exact confirm_kept hs cursor _

theorem requireFullRecovery_kept {l : AuthorityLineage S D} (hs : l.Sound)
    (reason : AuthorityRecoveryReason) : Kept l (l.requireFullRecovery reason) := by
  unfold requireFullRecovery
  split
  · exact hs.kept _
  · split
    · exact hs.kept _
    · exact hs.kept_recovery _ _ _

theorem connectionReplaced_kept {l : AuthorityLineage S D} (hs : l.Sound) (session : Session)
    (c : ConnectionHandle) : Kept l (l.connectionReplaced session c) := by
  unfold connectionReplaced
  split
  · exact hs.kept _
  · split
    · exact hs.kept _
    · exact hs.kept_recovery _ _ _

/-- An eviction keeps everything but the image; evicting the delta base starts a recovery. -/
theorem evictRetainedState_kept {l : AuthorityLineage S D} (hs : l.Sound)
    (cursor : ReplicationCursor) :
    ∃ a, l.evictRetainedState cursor = .ok a ∧ Kept l a := by
  unfold evictRetainedState
  by_cases hbase : l.state = .deltaEligible cursor
  · rw [if_pos hbase]
    cases RecoveryGeneration.checkedNext l.generation with
    | none => exact ⟨_, rfl, hs.kept _⟩
    | some next =>
      cases hr : l.retained.get? cursor with
      | none => exact ⟨_, rfl, hs.kept _⟩
      | some removed =>
        have hrecovered := hs.installNewRecovery .baselineEvicted next
        refine ⟨(.ok true, (l.installNewRecovery .baselineEvicted next).withoutImage cursor), ?_,
          hrecovered.withoutImage ?_, fun r => ?_, ?_⟩
        · simp only [hs.exact.sub hr, Checked.ok_bind]
          rfl
        · intro h
          cases h
        · exact Nat.le_trans (withoutImage_charge hrecovered cursor r)
            (installNewRecovery_charge l _ _ r)
        · intro e h
          cases h
  · rw [if_neg hbase]
    cases hr : l.retained.get? cursor with
    | none => exact ⟨_, rfl, hs.kept _⟩
    | some removed =>
      refine ⟨(.ok true, l.withoutImage cursor), ?_, hs.withoutImage hbase,
        withoutImage_charge hs cursor, ?_⟩
      · simp only [hs.exact.sub hr, Checked.ok_bind]
        rfl
      · intro e h
        cases h

/-! ### Preparing -/

theorem candidateFits_true {l : AuthorityLineage S D} {bytes additional : Nat}
    (h : l.candidateFits bytes additional = true) : bytes ≤ l.limits.maxStateImageBytes.get := by
  unfold candidateFits at h
  by_cases hbytes : bytes > l.limits.maxStateImageBytes.get
  · simp [hbytes] at h
  · exact Nat.le_of_not_lt hbytes

theorem prepareFull_fits (l : AuthorityLineage S D) (snapshot : FullSnapshot S) (designate : Bool)
    {c : SnapshotCandidate S D} (h : (l.prepareFull snapshot designate).2.pending = some c) :
    l.pending = some c ∨ c.stateBytes ≤ l.limits.maxStateImageBytes.get := by
  unfold prepareFull at h
  split at h
  · exact .inl h
  · split at h
    · exact .inl h
    · split at h
      · exact .inl h
      · rename_i hfits
        split at h
        · exact .inl h
        · cases h
          exact .inr (candidateFits_true (not_not.mp hfits))

theorem prepareDelta_fits (l : AuthorityLineage S D) (target : ReplicationCursor)
    (tick : SimulationTick) (image : AccountedState S) (delta : D) (additional : Nat)
    {c : SnapshotCandidate S D}
    (h : (l.prepareDelta target tick image delta additional).2.pending = some c) :
    l.pending = some c ∨ c.stateBytes ≤ l.limits.maxStateImageBytes.get := by
  unfold prepareDelta at h
  split at h
  · exact .inl h
  · split at h
    · exact .inl h
    · split at h
      · exact .inl h
      · split at h
        · exact .inl h
        · split at h
          · exact .inl h
          · split at h
            · exact .inl h
            · split at h
              · exact .inl h
              · rename_i hfits
                cases h
                exact .inr (candidateFits_true (not_not.mp hfits))

/-- What a prepare does to a sound lineage: nothing, or it fills the empty slot. -/
structure Reserved (l : AuthorityLineage S D)
    (a : Except AuthorityPrepareError PendingSnapshotSummary × AuthorityLineage S D) : Prop where
  sound : a.2.Sound
  error : ∀ e, a.1 = .error e → a.2 = l
  cancel : ∀ summary, a.1 = .ok summary → a.2.cancelPending.2 = l

theorem Sound.reserved {l : AuthorityLineage S D} (hs : l.Sound)
    {a : Except AuthorityPrepareError PendingSnapshotSummary × AuthorityLineage S D}
    (heff : PrepareEffect l a.2 a.1)
    (hfits : ∀ c, a.2.pending = some c → l.pending = some c ∨
      c.stateBytes ≤ l.limits.maxStateImageBytes.get) : Reserved l a := by
  obtain ⟨r, l'⟩ := a
  rcases heff with ⟨⟨e, he⟩, hl⟩ | ⟨c, hr, hl, hempty, -, hnew, -⟩
  · cases he
    cases hl
    exact ⟨hs, fun _ _ => rfl, fun summary h => by cases h⟩
  · cases hr
    cases hl
    refine ⟨{ hs with pending_fits := ?_, pending_new := ?_ }, (fun e h => by cases h), ?_⟩
    · intro d hd
      rcases hfits d hd with h | h
      · rw [hempty] at h
        cases h
      · exact h
    · intro d hd g hg
      cases hd
      exact hnew g hg
    · intro summary _
      show { l with pending := none } = l
      rw [← hempty]

theorem Sound.prepareFull_reserved {l : AuthorityLineage S D} (hs : l.Sound) (snapshot : FullSnapshot S)
    (designate : Bool) : Reserved l (l.prepareFull snapshot designate) :=
  hs.reserved (l.prepareFull_effect snapshot designate)
    (fun _ => l.prepareFull_fits snapshot designate)

theorem Sound.prepareDelta_reserved {l : AuthorityLineage S D} (hs : l.Sound) (target : ReplicationCursor)
    (tick : SimulationTick) (image : AccountedState S) (delta : D) (additional : Nat) :
    Reserved l (l.prepareDelta target tick image delta additional) :=
  hs.reserved (l.prepareDelta_effect target tick image delta additional)
    (fun _ => l.prepareDelta_fits target tick image delta additional)

end AuthorityLineage

end RunenNet
