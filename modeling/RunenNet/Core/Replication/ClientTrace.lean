import RunenNet.Core.Replication.Client

/-!
# Runs of a client replication set

`ClientOp` lists the operations of a set and `exec` runs one. The lemmas say once what an
operation can do to the lineage it names, and that it leaves every other lineage alone.
-/

namespace RunenNet

open Foundation

/-- The operations of a client set; the host's callbacks are part of the operation. -/
inductive ClientOp (S D E : Type) where
  | addLineage (key : ReplicationLineageKey) (retention : ReplicationRetentionLimits)
  | removeLineage (key : ReplicationLineageKey)
  | applyFull (key : ReplicationLineageKey) (snapshot : FullSnapshot S)
      (hostCommit : S → Except E Unit)
  | applyDelta (key : ReplicationLineageKey) (snapshot : DeltaSnapshot D)
      (reconstruct : S → D → Nat → Except DeltaReconstructionError (AccountedState S))
      (hostCommit : S → Except E Unit)
  | requireConnectionReplacementFull (key : ReplicationLineageKey)
  | evictHistorical (key : ReplicationLineageKey) (cursor : ReplicationCursor)

/-- The result of an operation; an apply also reports the states given to `hostCommit`. -/
inductive ClientReply (S E : Type) where
  | added (r : Except ClientSetError Unit)
  | removed (r : Bool)
  | applied (r : Except (ClientApplyError E) ClientSnapshotOutcome) (hostCommits : List S)
  | required (r : Except ClientSetError Unit)
  | evicted (r : Except ClientSetError Bool)

namespace ClientOp

variable {S D E : Type}

/-- The lineage an operation names. -/
def key : ClientOp S D E → ReplicationLineageKey
  | addLineage key _ => key
  | removeLineage key => key
  | applyFull key _ _ => key
  | applyDelta key _ _ _ => key
  | requireConnectionReplacementFull key => key
  | evictHistorical key _ => key

/-- The tick of the snapshot an apply carries. -/
def tick : ClientOp S D E → Option SimulationTick
  | applyFull _ snapshot _ => some snapshot.targetTick
  | applyDelta _ snapshot _ _ => some snapshot.targetTick
  | _ => none

/-- The host's commit callback of an apply. -/
def hostCommit : ClientOp S D E → Option (S → Except E Unit)
  | applyFull _ _ hostCommit => some hostCommit
  | applyDelta _ _ _ hostCommit => some hostCommit
  | _ => none

end ClientOp

namespace ClientLineage

variable {S : Type}

/-- `l'` is `l` with the same commits: the same current cursor and no new image. -/
def Uncommitted (l l' : ClientLineage S) : Prop :=
  l'.current = l.current ∧ ∀ c r, l'.retained.get? c = some r → l.retained.get? c = some r

/-- `l'` is `l` after committing `image` at `target`, newer than everything committed. -/
def Committed (l l' : ClientLineage S) (target : ReplicationCursor) (tick : SimulationTick)
    (image : AccountedState S) : Prop :=
  (∀ c, l.current = some c → c < target) ∧ l'.current = some target ∧
  ∀ c r, l'.retained.get? c = some r →
    l.retained.get? c = some r ∨ (c = target ∧ r = ⟨tick, image⟩)

theorem Uncommitted.refl (l : ClientLineage S) : Uncommitted l l := ⟨rfl, fun _ _ h => h⟩

theorem applyEvictions_uncommitted {evict : List ReplicationCursor} {l l' : ClientLineage S}
    (h : applyEvictions evict l = .ok l') : Uncommitted l l' := by
  induction evict generalizing l with
  | nil => cases h; exact .refl _
  | cons c rest ih =>
    simp only [applyEvictions, Checked.bind_eq_ok] at h
    obtain ⟨removed, -, bytes, -, h⟩ := h
    obtain ⟨hc, hsub⟩ := ih h
    refine ⟨hc, fun c' r hr => ?_⟩
    have := hsub c' r hr
    rw [SortedMap.get?_erase] at this
    split at this
    · cases this
    · exact this

theorem commitWithPlan_committed {l l' : ClientLineage S} {target : ReplicationCursor}
    {tick : SimulationTick} {image : AccountedState S} {plan : CommitPlan}
    (hnew : ∀ c, l.current = some c → c < target)
    (h : l.commitWithPlan target tick image plan = .ok l') :
    Committed l l' target tick image := by
  simp only [commitWithPlan, Checked.bind_eq_ok] at h
  obtain ⟨l1, he, bytes, -, -, -, -, -, -, -, h⟩ := h
  cases h
  obtain ⟨-, hsub⟩ := applyEvictions_uncommitted he
  refine ⟨hnew, rfl, fun c r hr => ?_⟩
  rw [SortedMap.get?_insert] at hr
  split at hr
  · rename_i hc; cases hr; exact .inr ⟨hc, rfl⟩
  · exact .inl (hsub c r hr)

theorem evictHistorical_uncommitted {l l' : ClientLineage S} {cursor : ReplicationCursor} {b : Bool}
    (h : l.evictHistorical cursor = .ok (b, l')) : Uncommitted l l' := by
  unfold evictHistorical at h
  split at h
  · cases h; exact .refl l
  · split at h
    · cases h; exact .refl l
    · simp only [Checked.bind_eq_ok] at h
      obtain ⟨bytes, -, h⟩ := h
      cases h
      refine ⟨rfl, fun c r hr => ?_⟩
      rw [SortedMap.get?_erase] at hr
      split at hr
      · cases hr
      · exact hr

theorem classifyCursor_none {l : ClientLineage S} {target : ReplicationCursor}
    (h : l.classifyCursor target = none) : ∀ c, l.current = some c → c < target := by
  intro c hc
  simp only [classifyCursor, hc] at h
  split at h
  · cases h
  · rename_i h1
    split at h
    · cases h
    · rename_i h2
      exact lt_of_le_of_ne (not_lt.mp h1) (Ne.symm h2)

theorem classifyCursor_ne_committed {l : ClientLineage S} {target : ReplicationCursor}
    {o : ClientSnapshotOutcome} (h : l.classifyCursor target = some o) (c : ReplicationCursor) :
    o ≠ .committed c := by
  rintro rfl
  unfold classifyCursor at h
  split at h
  · cases h
  · split at h
    · cases h
    · split at h <;> cases h

end ClientLineage

namespace ClientReplicationSet

variable {S D E : Type}

/-- What an apply on the lineage `l` at `key` does: no commit, or a commit of one image it
produced and the host accepted. Other lineages are untouched. -/
def ApplyEffect (s : ClientReplicationSet S) (key : ReplicationLineageKey) (l : ClientLineage S)
    (target : ReplicationCursor) (tick : SimulationTick) (produced : AccountedState S → Prop)
    (a : ApplyResult S E) : Prop :=
  (∀ k, k ≠ key → a.set.lineages.get? k = s.lineages.get? k) ∧
  ∃ l', a.set.lineages.get? key = some l' ∧
    (((∀ c, a.result ≠ .ok (.committed c)) ∧ l.Uncommitted l') ∨
      ∃ image, produced image ∧ a.result = .ok (.committed target) ∧
        a.hostCommits = [image.state] ∧ l.Committed l' target tick image)

theorem get?_setLineage_self (s : ClientReplicationSet S) (key : ReplicationLineageKey)
    (l : ClientLineage S) : (s.setLineage key l).lineages.get? key = some l :=
  SortedMap.get?_insert_self _ _ _

theorem get?_setLineage_ne (s : ClientReplicationSet S) {key k : ReplicationLineageKey}
    (l : ClientLineage S) (h : k ≠ key) :
    (s.setLineage key l).lineages.get? k = s.lineages.get? k :=
  SortedMap.get?_insert_ne _ _ h

section Effects

variable {s : ClientReplicationSet S} {key : ReplicationLineageKey} {l : ClientLineage S}
  {target : ReplicationCursor} {tick : SimulationTick} {produced : AccountedState S → Prop}

theorem ApplyEffect.unchanged (hl : s.lineages.get? key = some l)
    {r : Except (ClientApplyError E) ClientSnapshotOutcome} {states : List S}
    (hr : ∀ c, r ≠ .ok (.committed c)) :
    ApplyEffect s key l target tick produced (⟨r, states, s⟩ : ApplyResult S E) :=
  ⟨fun _ _ => rfl, l, hl, .inl ⟨hr, .refl l⟩⟩

theorem ApplyEffect.replaced {r : Except (ClientApplyError E) ClientSnapshotOutcome}
    {states : List S} {l' : ClientLineage S} (hr : ∀ c, r ≠ .ok (.committed c))
    (hl' : l.Uncommitted l') :
    ApplyEffect s key l target tick produced
      (⟨r, states, s.setLineage key l'⟩ : ApplyResult S E) :=
  ⟨fun _ h => s.get?_setLineage_ne l' h, l', s.get?_setLineage_self key l', .inl ⟨hr, hl'⟩⟩

theorem ApplyEffect.recovered (reason : ClientRecoveryReason) {outcome : ClientSnapshotOutcome}
    (h : ∀ c, outcome ≠ .committed c) :
    ApplyEffect s key l target tick produced
      (s.recovered key l reason outcome : ApplyResult S E) :=
  .replaced (fun c e => h c (Except.ok.inj e)) ⟨rfl, fun _ _ h => h⟩

theorem commitImage_effect {image : AccountedState S} {hostCommit : S → Except E Unit}
    {onRefusal : ClientLineage S} {a : ApplyResult S E} (hl : s.lineages.get? key = some l)
    (hnew : ∀ c, l.current = some c → c < target) (hrefused : l.Uncommitted onRefusal)
    (himage : produced image)
    (h : s.commitImage key l target tick image hostCommit onRefusal = .ok a) :
    ApplyEffect s key l target tick produced a := by
  unfold commitImage at h
  rw [Checked.bind_eq_ok] at h
  obtain ⟨plan, -, h⟩ := h
  split at h
  · cases h; exact .unchanged hl nofun
  · split at h
    · cases h; exact .unchanged hl nofun
    · split at h
      · cases h; exact .replaced nofun hrefused
      · rw [Checked.bind_eq_ok] at h
        obtain ⟨l', hc, h⟩ := h
        cases h
        exact ⟨fun _ hk => s.get?_setLineage_ne l' hk, l', s.get?_setLineage_self key l',
          .inr ⟨image, himage, rfl, rfl, ClientLineage.commitWithPlan_committed hnew hc⟩⟩

theorem applyFull_effect {snapshot : FullSnapshot S} {hostCommit : S → Except E Unit}
    {a : ApplyResult S E} (hl : s.lineages.get? key = some l)
    (h : s.applyFull key snapshot hostCommit = .ok a) :
    ApplyEffect s key l snapshot.targetCursor snapshot.targetTick (· = snapshot.image) a := by
  simp only [applyFull, hl] at h
  split at h
  · rename_i classification hc
    cases h
    exact .unchanged hl fun c e => ClientLineage.classifyCursor_ne_committed hc c (Except.ok.inj e)
  · rename_i hc
    split at h
    · cases h; exact .unchanged hl nofun
    · exact commitImage_effect hl (ClientLineage.classifyCursor_none hc) (.refl l) rfl h

theorem applyDelta_effect {snapshot : DeltaSnapshot D}
    {reconstruct : S → D → Nat → Except DeltaReconstructionError (AccountedState S)}
    {hostCommit : S → Except E Unit} {a : ApplyResult S E} (hl : s.lineages.get? key = some l)
    (h : s.applyDelta key snapshot reconstruct hostCommit = .ok a) :
    ApplyEffect s key l snapshot.targetCursor snapshot.targetTick
      (fun image => ∃ base max, l.retained.get? snapshot.baseCursor = some base ∧
        reconstruct base.image.state snapshot.delta max = .ok image) a := by
  simp only [applyDelta, hl] at h
  split at h
  · rename_i classification hc
    cases h
    exact .unchanged hl fun c e => ClientLineage.classifyCursor_ne_committed hc c (Except.ok.inj e)
  · rename_i hc
    split at h
    · cases h; exact .unchanged hl nofun
    · split at h
      · cases h; exact .recovered _ nofun
      · split at h
        · cases h; exact .recovered _ nofun
        · split at h
          · cases h; exact .recovered _ nofun
          · rename_i base hb
            split at h
            · cases h; exact .recovered _ nofun
            · split at h
              · cases h; exact .recovered _ nofun
              · cases h; exact .recovered _ nofun
              · rename_i candidate hr
                have hrefused : l.Uncommitted (l.enterRecovery .deltaCommitFailure) :=
                  ⟨rfl, fun _ _ h => h⟩
                exact commitImage_effect hl (ClientLineage.classifyCursor_none hc) hrefused
                  ⟨base, _, hb, hr⟩ h

end Effects

/-! ### A whole operation -/

/-- The result of an apply as a reply. -/
def replied (a : ApplyResult S E) : ClientReply S E × ClientReplicationSet S :=
  (.applied a.result a.hostCommits, a.set)

def exec (s : ClientReplicationSet S) :
    ClientOp S D E → Checked (ClientReply S E × ClientReplicationSet S)
  | .addLineage key retention =>
    let (r, s) := s.addLineage key retention
    .ok (.added r, s)
  | .removeLineage key =>
    let (r, s) := s.removeLineage key
    .ok (.removed r, s)
  | .applyFull key snapshot hostCommit => do
    return replied (← s.applyFull key snapshot hostCommit)
  | .applyDelta key snapshot reconstruct hostCommit => do
    return replied (← s.applyDelta key snapshot reconstruct hostCommit)
  | .requireConnectionReplacementFull key =>
    let (r, s) := s.requireConnectionReplacementFull key
    .ok (.required r, s)
  | .evictHistorical key cursor => do
    let (r, s) ← s.evictHistorical key cursor
    return (.evicted r, s)

theorem applyFull_unknown {s : ClientReplicationSet S} {key : ReplicationLineageKey}
    {snapshot : FullSnapshot S} {hostCommit : S → Except E Unit} {a : ApplyResult S E}
    (hl : s.lineages.get? key = none) (h : s.applyFull key snapshot hostCommit = .ok a) :
    a.set = s := by
  simp only [applyFull, hl] at h
  cases h
  rfl

theorem applyDelta_unknown {s : ClientReplicationSet S} {key : ReplicationLineageKey}
    {snapshot : DeltaSnapshot D}
    {reconstruct : S → D → Nat → Except DeltaReconstructionError (AccountedState S)}
    {hostCommit : S → Except E Unit} {a : ApplyResult S E} (hl : s.lineages.get? key = none)
    (h : s.applyDelta key snapshot reconstruct hostCommit = .ok a) : a.set = s := by
  simp only [applyDelta, hl] at h
  cases h
  rfl

/-- An operation leaves the lineages it does not name alone. -/
theorem exec_frame {s s' : ClientReplicationSet S} {op : ClientOp S D E} {reply : ClientReply S E}
    (h : s.exec op = .ok (reply, s')) {key : ReplicationLineageKey} (hk : key ≠ op.key) :
    s'.lineages.get? key = s.lineages.get? key := by
  cases op with
  | addLineage k retention =>
    simp only [exec, Except.ok.injEq, Prod.mk.injEq] at h
    obtain ⟨-, rfl⟩ := h
    unfold addLineage
    split
    · rfl
    · split
      · rfl
      · exact SortedMap.get?_insert_ne _ _ hk
  | removeLineage k =>
    cases h
    exact SortedMap.get?_erase_ne _ hk
  | applyFull k snapshot hostCommit =>
    simp only [exec, Checked.bind_eq_ok] at h
    obtain ⟨a, ha, h⟩ := h
    cases h
    cases hl : s.lineages.get? k with
    | none => exact congrArg (fun s => s.lineages.get? key) (applyFull_unknown hl ha)
    | some l => exact (applyFull_effect hl ha).1 key hk
  | applyDelta k snapshot reconstruct hostCommit =>
    simp only [exec, Checked.bind_eq_ok] at h
    obtain ⟨a, ha, h⟩ := h
    cases h
    cases hl : s.lineages.get? k with
    | none => exact congrArg (fun s => s.lineages.get? key) (applyDelta_unknown hl ha)
    | some l => exact (applyDelta_effect hl ha).1 key hk
  | requireConnectionReplacementFull k =>
    simp only [exec, Except.ok.injEq, Prod.mk.injEq] at h
    obtain ⟨-, rfl⟩ := h
    unfold requireConnectionReplacementFull enterRecovery
    split
    · rfl
    · exact s.get?_setLineage_ne _ hk
  | evictHistorical k cursor =>
    simp only [exec, Checked.bind_eq_ok] at h
    obtain ⟨⟨r, s1⟩, h1, h⟩ := h
    cases h
    unfold evictHistorical at h1
    split at h1
    · cases h1; rfl
    · rw [Checked.bind_eq_ok] at h1
      obtain ⟨⟨b, l⟩, -, h1⟩ := h1
      cases h1
      exact s.get?_setLineage_ne _ hk

/-- Recovery and eviction commit nothing. -/
theorem exec_uncommitted {s s' : ClientReplicationSet S} {op : ClientOp S D E}
    {reply : ClientReply S E} {l : ClientLineage S} (h : s.exec op = .ok (reply, s'))
    (hop : (∃ key, op = .requireConnectionReplacementFull key) ∨
      ∃ key cursor, op = .evictHistorical key cursor)
    (hl : s.lineages.get? op.key = some l) :
    ∃ l', s'.lineages.get? op.key = some l' ∧ l.Uncommitted l' := by
  rcases hop with ⟨key, rfl⟩ | ⟨key, cursor, rfl⟩
  · simp only [ClientOp.key] at hl
    simp only [exec, requireConnectionReplacementFull, enterRecovery, hl] at h
    cases h
    exact ⟨_, s.get?_setLineage_self key _, rfl, fun _ _ h => h⟩
  · simp only [ClientOp.key] at hl
    simp only [exec, evictHistorical, hl, Checked.bind_eq_ok] at h
    obtain ⟨⟨r, s1⟩, ⟨⟨b, l'⟩, he, h1⟩, h⟩ := h
    cases h1
    cases h
    exact ⟨l', s.get?_setLineage_self key _, ClientLineage.evictHistorical_uncommitted he⟩

end ClientReplicationSet

end RunenNet
