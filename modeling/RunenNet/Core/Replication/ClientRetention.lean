import RunenNet.Core.Replication.ClientTrace

/-!
# Retention planning of a client lineage

`planCommit` chooses the oldest images to evict on simulated totals and `commitWithPlan`
removes them from the map. Both are described by one number, how many images go: the plan of a
lineage with exact totals evicts the least such prefix, and the commit reaches its totals.
-/

namespace RunenNet

open Foundation

namespace ClientLineage

variable {S : Type}

/-- The total kept beside the images is exact. -/
def Exact (l : ClientLineage S) : Prop := l.retainedBytes = imageBytes l.retained

theorem Exact.total {l : ClientLineage S} (h : l.Exact) : l.retainedBytes = imageBytes l.retained :=
  h

/-- The lineage without its `n` oldest images. -/
def evictOldest (l : ClientLineage S) (n : Nat) : ClientLineage S :=
  { l with retained := l.retained.drop n, retainedBytes := imageBytes (l.retained.drop n) }

/-- Without the `n` oldest images, both limits hold with an image of `bytes` bytes added. -/
def FitsAfter (l : ClientLineage S) (bytes n : Nat) : Prop :=
  (l.retained.drop n).size + 1 ≤ l.limits.maxRetainedImagesPerLineage.get ∧
    imageBytes (l.retained.drop n) + bytes ≤ l.limits.maxRetainedStateBytesPerLineage.get

/-- The plan that evicts the `n` oldest images. -/
def planOf (l : ClientLineage S) (bytes n : Nat) : CommitPlan where
  evict := (l.retained.entries.take n).map Prod.fst
  resultingCount := (l.retained.drop n).size + 1
  resultingBytes := imageBytes (l.retained.drop n) + bytes

/-- The lineage after the image replaced the `n` oldest ones and became current. -/
def afterCommit (l : ClientLineage S) (n : Nat) (target : ReplicationCursor)
    (tick : SimulationTick) (image : AccountedState S) : ClientLineage S :=
  { l with
    retained := (l.retained.drop n).insert target ⟨tick, image⟩
    retainedBytes := imageBytes (l.retained.drop n) + image.accountedBytes
    current := some target
    state := .synchronized }

/-- The bytes of a list of entries. -/
def entryBytes (es : List (ReplicationCursor × RetainedState S)) : Nat :=
  (es.map fun e => e.2.image.accountedBytes).sum

/-- The loop stops at the first suffix that is small enough. -/
theorem planEvictions_spec {maxCount : Nat} (hpos : 0 < maxCount) (room : Nat)
    (es : List (ReplicationCursor × RetainedState S)) :
    ∃ n, planEvictions maxCount room es es.length (entryBytes es) =
        .ok ((es.take n).map Prod.fst, (es.drop n).length, entryBytes (es.drop n)) ∧
      ((es.drop n).length < maxCount ∧ entryBytes (es.drop n) ≤ room) ∧
      ∀ m, m < n → ¬ ((es.drop m).length < maxCount ∧ entryBytes (es.drop m) ≤ room) := by
  induction es with
  | nil => exact ⟨0, rfl, ⟨hpos, Nat.zero_le _⟩, fun m hm => absurd hm (Nat.not_lt_zero m)⟩
  | cons e es ih =>
    unfold planEvictions
    by_cases hfit : (e :: es).length < maxCount ∧ entryBytes (e :: es) ≤ room
    · refine ⟨0, ?_, hfit, fun m hm => absurd hm (Nat.not_lt_zero m)⟩
      rw [if_pos hfit]
      rfl
    · obtain ⟨n, hplan, hn, hleast⟩ := ih
      have hcount : Checked.sub (e :: es).length 1 = .ok es.length :=
        Checked.sub_ok (Nat.le_add_left 1 _)
      have hbytes : Checked.sub (entryBytes (e :: es)) e.2.image.accountedBytes
          = .ok (entryBytes es) := by
        have hsum : entryBytes (e :: es) = e.2.image.accountedBytes + entryBytes es := rfl
        rw [hsum, Checked.sub_ok (Nat.le_add_right _ _), Nat.add_sub_cancel_left]
      refine ⟨n + 1, ?_, hn, fun m hm => ?_⟩
      · rw [if_neg hfit, hcount, Checked.ok_bind, hbytes, Checked.ok_bind, hplan]
        rfl
      · cases m with
        | zero => exact hfit
        | succ m => exact hleast m (Nat.lt_of_succ_lt_succ hm)

/-- An image that does not fit alone has no plan. -/
theorem planCommit_none {l : ClientLineage S} {bytes : Nat} (h : l.stateImageFits bytes = false) :
    l.planCommit bytes = .ok none := by
  unfold planCommit
  rw [if_pos (by simp [h])]

/-- An image that fits alone has a plan: the shortest prefix whose eviction makes room. -/
theorem planCommit_some {l : ClientLineage S} (hl : l.Exact) {bytes : Nat}
    (h : l.stateImageFits bytes = true) :
    ∃ n, l.planCommit bytes = .ok (some (l.planOf bytes n)) ∧ l.FitsAfter bytes n ∧
      ∀ m, m < n → ¬ l.FitsAfter bytes m := by
  have hmax : bytes ≤ l.limits.maxRetainedStateBytesPerLineage.get := by
    simp only [stateImageFits, Bool.and_eq_true, decide_eq_true_eq] at h
    exact h.2
  have hroom : ∀ b, b ≤ l.limits.maxRetainedStateBytesPerLineage.get - bytes ↔
      b + bytes ≤ l.limits.maxRetainedStateBytesPerLineage.get := by
    intro b
    omega
  obtain ⟨n, hplan, hn, hleast⟩ := planEvictions_spec l.limits.maxRetainedImagesPerLineage.pos
    (l.limits.maxRetainedStateBytesPerLineage.get - bytes) l.retained.entries
  have hfit : l.FitsAfter bytes n := ⟨hn.1, (hroom _).mp hn.2⟩
  refine ⟨n, ?_, hfit, fun m hm hf => hleast m hm ⟨hf.1, (hroom _).mpr hf.2⟩⟩
  have hbytes : entryBytes l.retained.entries = l.retainedBytes := hl.symm
  unfold planCommit
  rw [if_neg (by simp [h]), Checked.sub_ok hmax, Checked.ok_bind, ← hbytes]
  have hsize : l.retained.size = l.retained.entries.length := rfl
  rw [hsize, hplan, Checked.ok_bind]
  simp only
  have hstop : ¬ ((l.retained.entries.drop n).length ≥ l.limits.maxRetainedImagesPerLineage.get ∨
      entryBytes (l.retained.entries.drop n) >
        l.limits.maxRetainedStateBytesPerLineage.get - bytes) := by
    omega
  have hcount : (l.retained.entries.drop n).length + 1 ≤ usizeMax :=
    Nat.le_trans hn.1 l.limits.maxRetainedImagesPerLineage.le_max
  have htotal : entryBytes (l.retained.entries.drop n) + bytes ≤ usizeMax :=
    Nat.le_trans hfit.2 l.limits.maxRetainedStateBytesPerLineage.le_max
  rw [if_neg hstop, Checked.add_ok hcount, Checked.ok_bind, Checked.add_ok htotal]
  rfl

/-- Removing the planned cursors one by one drops the oldest images. -/
theorem applyEvictions_oldest (n : Nat) (l : ClientLineage S) (hl : l.Exact) :
    applyEvictions ((l.retained.entries.take n).map Prod.fst) l = .ok (l.evictOldest n) := by
  induction n generalizing l with
  | zero =>
    simp only [evictOldest, SortedMap.drop_zero]
    rw [← hl.total]
    rfl
  | succ n ih =>
    cases hes : l.retained.entries with
    | nil =>
      have hdrop : l.retained.drop (n + 1) = l.retained := by
        refine SortedMap.ext_entries ?_
        simp [SortedMap.drop, hes]
      simp only [evictOldest, hdrop]
      rw [← hl.total]
      rfl
    | cons e es =>
      have hget : l.retained.get? e.1 = some e.2 := SortedMap.get?_head hes
      have htail : (l.retained.erase e.1).entries = es := SortedMap.erase_head hes
      have hdrop : (l.retained.erase e.1).drop n = l.retained.drop (n + 1) := by
        refine SortedMap.ext_entries ?_
        simp [SortedMap.drop, hes, htail]
      have hbytes : Checked.sub l.retainedBytes e.2.image.accountedBytes
          = .ok (imageBytes (l.retained.erase e.1)) := by
        rw [hl.total, imageBytes_erase hget,
          Checked.sub_ok (Nat.le_add_right _ _), Nat.add_sub_cancel_left]
      rw [List.take_succ_cons, List.map_cons]
      unfold applyEvictions
      rw [hget, Checked.expect_some, Checked.ok_bind, hbytes, Checked.ok_bind]
      have hih := ih { l with
        retained := l.retained.erase e.1
        retainedBytes := imageBytes (l.retained.erase e.1) } rfl
      simp only [htail] at hih
      rw [hih]
      simp only [evictOldest, hdrop]

/-- The commit reaches exactly the planned totals. -/
theorem commitWithPlan_planOf {l : ClientLineage S} (hl : l.Exact) {n : Nat}
    {target : ReplicationCursor} {tick : SimulationTick} {image : AccountedState S}
    (hfit : l.FitsAfter image.accountedBytes n) (hnew : l.retained.get? target = none) :
    l.commitWithPlan target tick image (l.planOf image.accountedBytes n) =
      .ok (l.afterCommit n target tick image) := by
  have hnew' : (l.retained.drop n).get? target = none := SortedMap.get?_drop_of_none hnew n
  have htotal : imageBytes (l.retained.drop n) + image.accountedBytes ≤ usizeMax :=
    Nat.le_trans hfit.2 l.limits.maxRetainedStateBytesPerLineage.le_max
  unfold commitWithPlan
  rw [show (l.planOf image.accountedBytes n).evict = (l.retained.entries.take n).map Prod.fst
    from rfl, applyEvictions_oldest n l hl, Checked.ok_bind]
  simp only [evictOldest, Checked.add_ok htotal, Checked.ok_bind, hnew', Option.isNone_none,
    Checked.assert_true, SortedMap.size_insert_of_none _ hnew', planOf, decide_true]
  rfl

end ClientLineage

end RunenNet
