import RunenNet.Core.Replication.ClientSafety

/-!
# Recovery boundaries of a client lineage

While a lineage is not removed, every operation changes it in one of four ways. The recorded
recovery boundary is the cursor at which the lineage last entered recovery: it is behind the
current cursor of a synchronized lineage, and is the current cursor of one that needs a full
snapshot.
-/

namespace RunenNet

open Foundation

namespace ClientLineage

variable {S : Type}

/-- What an operation that does not remove a lineage can do to it. -/
inductive Change (l : ClientLineage S) : ClientLineage S → Prop
  | kept : Change l l
  | recovered (reason : ClientRecoveryReason) : Change l (l.enterRecovery reason)
  | evicted {c : ReplicationCursor} (hc : l.current ≠ some c) : Change l (l.afterEviction c)
  | committed {n : Nat} {target : ReplicationCursor} {tick : SimulationTick}
      {image : AccountedState S} (hnew : ∀ c, l.current = some c → c < target)
      (htick : ∀ t, l.currentTick = some t → t ≤ tick) :
      Change l (l.afterCommit n target tick image)

/-- The cursor of the recorded recovery boundary. -/
def recoveryCursor (l : ClientLineage S) : Option ReplicationCursor :=
  l.latestRecoveryBoundary.map Prod.fst

/-- Where the recorded boundary is. -/
structure Bounded (l : ClientLineage S) : Prop where
  le_current : ∀ b, l.recoveryCursor = some b → ∃ c, l.current = some c ∧ b ≤ c
  synchronized : l.state = .synchronized → ∀ b, l.recoveryCursor = some b →
    ∃ c, l.current = some c ∧ b < c
  required : l.state ≠ .synchronized → ∀ c, l.current = some c → l.recoveryCursor = some c

theorem bounded_new (key : ReplicationLineageKey) (limits : ReplicationRetentionLimits) :
    (new key limits : ClientLineage S).Bounded where
  le_current := by intro b h; cases h
  synchronized := by intro h; cases h
  required := by intro _ c h; cases h

/-- Entering recovery records the current cursor. -/
theorem recoveryCursor_enterRecovery (l : ClientLineage S) (reason : ClientRecoveryReason) :
    (l.enterRecovery reason).recoveryCursor =
      match l.current with | none => l.recoveryCursor | some c => some c := by
  unfold recoveryCursor enterRecovery
  cases hc : l.current with
  | none => rfl
  | some c =>
    simp only
    cases hb : l.latestRecoveryBoundary with
    | none => rfl
    | some b =>
      by_cases hbc : b.1 = c
      · simp [hbc]
      · simp [hbc]

theorem Change.bounded {l l' : ClientLineage S} (h : l.Change l') (hb : l.Bounded) :
    l'.Bounded := by
  cases h with
  | kept => exact hb
  | recovered reason =>
    have hcursor := l.recoveryCursor_enterRecovery reason
    refine ⟨fun b h => ?_, fun hs => ?_, fun _ c hc => ?_⟩
    · rw [hcursor] at h
      cases hc : l.current with
      | none =>
        rw [hc] at h
        obtain ⟨c, hc', -⟩ := hb.le_current b h
        rw [hc] at hc'
        cases hc'
      | some c =>
        rw [hc] at h
        cases h
        exact ⟨b, hc, le_refl b⟩
    · cases hs
    · have hc' : l.current = some c := hc
      rw [hcursor, hc']
  | evicted hc => exact ⟨hb.le_current, hb.synchronized, hb.required⟩
  | committed hnew htick =>
    have hlt : ∀ b, l.recoveryCursor = some b → ∀ target, (∀ c, l.current = some c → c < target) →
        b < target := by
      intro b h target hnew
      obtain ⟨c, hc, hle⟩ := hb.le_current b h
      exact hle.trans_lt (hnew c hc)
    refine ⟨fun b h => ⟨_, rfl, (hlt b h _ hnew).le⟩, fun _ b h => ⟨_, rfl, hlt b h _ hnew⟩, ?_⟩
    intro hs
    exact absurd rfl hs

/-- Boundaries are only ever replaced by newer ones. -/
theorem Change.recoveryCursor_le {l l' : ClientLineage S} (h : l.Change l') (hb : l.Bounded)
    {b : ReplicationCursor} (hl : l.recoveryCursor = some b) :
    ∃ b', l'.recoveryCursor = some b' ∧ b ≤ b' := by
  cases h with
  | kept => exact ⟨b, hl, le_refl b⟩
  | recovered reason =>
    rw [l.recoveryCursor_enterRecovery reason]
    obtain ⟨c, hc, hle⟩ := hb.le_current b hl
    rw [hc]
    exact ⟨c, rfl, hle⟩
  | evicted hc => exact ⟨b, hl, le_refl b⟩
  | committed hnew htick => exact ⟨b, hl, le_refl b⟩

theorem Change.currentTick_le {l l' : ClientLineage S} (h : l.Change l') {t : SimulationTick}
    (hl : l.currentTick = some t) : ∃ t', l'.currentTick = some t' ∧ t ≤ t' := by
  cases h with
  | kept => exact ⟨t, hl, le_refl t⟩
  | recovered reason => exact ⟨t, hl, le_refl t⟩
  | evicted hc => exact ⟨t, (currentTick_afterEviction hc).trans hl, le_refl t⟩
  | committed hnew htick => exact ⟨_, currentTick_afterCommit _ _ _ _ _, htick t hl⟩

theorem Change.current_le {l l' : ClientLineage S} (h : l.Change l') {c : ReplicationCursor}
    (hl : l.current = some c) : ∃ c', l'.current = some c' ∧ c ≤ c' := by
  cases h with
  | kept => exact ⟨c, hl, le_refl c⟩
  | recovered reason => exact ⟨c, hl, le_refl c⟩
  | evicted hc => exact ⟨c, hl, le_refl c⟩
  | committed hnew htick => exact ⟨_, rfl, (hnew c hl).le⟩

/-- A synchronized lineage that falls into recovery records a newer boundary. -/
theorem Change.newer_boundary {l l' : ClientLineage S} (h : l.Change l') (hb : l.Bounded)
    (hs : l.Sound) (hsync : l.state = .synchronized) (hreq : l'.state ≠ .synchronized) :
    ∃ b', l'.recoveryCursor = some b' ∧ ∀ b, l.recoveryCursor = some b → b < b' := by
  cases h with
  | kept => exact absurd hsync hreq
  | recovered reason =>
    rw [l.recoveryCursor_enterRecovery reason]
    obtain ⟨c, hc⟩ := hs.synchronized hsync
    rw [hc]
    refine ⟨c, rfl, fun b hb' => ?_⟩
    obtain ⟨c', hc', hlt⟩ := hb.synchronized hsync b hb'
    rw [hc] at hc'
    cases hc'
    exact hlt
  | evicted hc => exact absurd hsync hreq
  | committed hnew htick => exact absurd rfl hreq

theorem Sound.currentTick {l : ClientLineage S} (hs : l.Sound) {c : ReplicationCursor}
    (hc : l.current = some c) : ∃ t, l.currentTick = some t := by
  obtain ⟨r, hr⟩ := hs.current_retained c hc
  exact ⟨r.tick, by simp [ClientLineage.currentTick, hc, hr]⟩

end ClientLineage

namespace ClientReplicationSet

variable {S D E : Type} {s s' : ClientReplicationSet S} {op : ClientOp S D E}
  {reply : ClientReply S E} {key : ReplicationLineageKey}

/-- An operation that does not remove the lineage changes it in one of the four ways. -/
theorem Effect.change (h : Effect s op reply s') (hkeep : op ≠ .removeLineage key)
    {l : ClientLineage S} (hl : s.lineages.get? key = some l) :
    ∃ l', s'.lineages.get? key = some l' ∧ l.Change l' := by
  have hset : ∀ {k : ReplicationLineageKey} {m m' : ClientLineage S},
      s.lineages.get? k = some m → m.Change m' →
      ∃ l', (s.setLineage k m').lineages.get? key = some l' ∧ l.Change l' := by
    intro k m m' hm hc
    by_cases hk : key = k
    · subst hk
      rw [hl] at hm
      cases hm
      exact ⟨m', s.get?_setLineage_self key m', hc⟩
    · exact ⟨l, (s.get?_setLineage_ne m' hk).trans hl, .kept⟩
  cases h with
  | @added k retention habsent hroom =>
    refine ⟨l, ?_, .kept⟩
    have hk : key ≠ k := by
      rintro rfl
      rw [hl] at habsent
      cases habsent
    exact (SortedMap.get?_insert_ne _ _ hk).trans hl
  | @removed k =>
    refine ⟨l, ?_, .kept⟩
    have hk : key ≠ k := by
      rintro rfl
      exact hkeep rfl
    exact (SortedMap.get?_erase_ne _ hk).trans hl
  | kept hq => exact ⟨l, hl, .kept⟩
  | recovered hq hm reason => exact hset hm (.recovered reason)
  | evicted hm hc => exact hset hm (.evicted hc)
  | refused hm ho hhost =>
    rcases ho.refused_cases with rfl | rfl
    · exact hset hm .kept
    · exact hset hm (.recovered _)
  | committed hm ho hhost hnew htick hfit hset' => exact hset hm (.committed hnew htick)

/-- A lineage that appears is a new one. -/
theorem Effect.appears (h : Effect s op reply s') (hl : s.lineages.get? key = none)
    {l' : ClientLineage S} (hl' : s'.lineages.get? key = some l') :
    ∃ retention, l' = .new key retention := by
  have hset : ∀ {k : ReplicationLineageKey} {m m' : ClientLineage S},
      s.lineages.get? k = some m → (s.setLineage k m').lineages.get? key ≠ some l' := by
    intro k m m' hm hm'
    rcases get?_setLineage_cases hm' with ⟨rfl, -⟩ | ⟨-, hold⟩
    · rw [hl] at hm
      cases hm
    · rw [hl] at hold
      cases hold
  cases h with
  | @added k retention habsent hroom =>
    rw [SortedMap.get?_insert] at hl'
    split at hl'
    · rename_i hk
      subst hk
      cases hl'
      exact ⟨retention, rfl⟩
    · rw [hl] at hl'
      cases hl'
  | @removed k =>
    rw [SortedMap.get?_erase] at hl'
    split at hl'
    · cases hl'
    · rw [hl] at hl'
      cases hl'
  | kept hq =>
    rw [hl] at hl'
    cases hl'
  | recovered hq hm reason => exact absurd hl' (hset hm)
  | evicted hm hc => exact absurd hl' (hset hm)
  | refused hm ho hhost => exact absurd hl' (hset hm)
  | committed hm ho hhost hnew htick hfit hset' => exact absurd hl' (hset hm)

end ClientReplicationSet

end RunenNet
