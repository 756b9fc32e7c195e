import RunenNet.Core.Input.PredictionSafety

/-!
# The frontier of a prediction

`Budgeted` is the accounting of a prediction: its pending inputs are counted exactly, stay within
the limits and lie ahead of the frontier. Every operation keeps it, whatever happens to the client
lineage, and moves the frontier forward only until the prediction has ended (`Onward`). An
observation of a new commit retires what the commit has reached and replays the rest
(`Reconciled`); while the client lineage is never removed, no observation or confirmation finds
the lineage behind the prediction.
-/

namespace RunenNet

open Foundation

namespace PredictionLineage

variable {I S D E R : Type} {p p' : PredictionLineage I}

/-- The invariant of the pending inputs. -/
structure Budgeted (p : PredictionLineage I) : Prop where
  bytes_exact : p.pendingBytes = p.pending.sum fun _ i => i.accountedBytes
  count_le : p.pending.size ≤ p.limits.maxPendingInputs.get
  bytes_le : p.pendingBytes ≤ p.limits.maxPendingBytes.get
  ahead : ∀ frontier, p.state = .active frontier → ∀ tick i, p.pending.get? tick = some i →
    frontier < tick ∧ tick.get ≤ frontier.get + p.limits.maxFutureTickDistance
  tidy : p.Tidy

/-- What every operation leaves behind: a prediction that has ended stays so, and another one has not
moved its frontier back. -/
structure Onward (p p' : PredictionLineage I) : Prop where
  key_eq : p'.key = p.key
  limits_eq : p'.limits = p.limits
  ended : p.terminalReason ≠ none → p'.terminalReason ≠ none
  frontier : p'.terminalReason = none → ∀ f, p.frontier = some f →
    ∃ f', p'.frontier = some f' ∧ f ≤ f'

theorem Onward.refl (p : PredictionLineage I) : p.Onward p :=
  ⟨rfl, rfl, id, fun _ f hf => ⟨f, hf, le_rfl⟩⟩

theorem Onward.trans {q : PredictionLineage I} (h : p.Onward q) (h' : q.Onward p') :
    p.Onward p' where
  key_eq := h'.key_eq.trans h.key_eq
  limits_eq := h'.limits_eq.trans h.limits_eq
  ended := fun ht => h'.ended (h.ended ht)
  frontier := fun hlive f hf => by
    have hmid : q.terminalReason = none := by
      by_contra hne
      exact h'.ended hne hlive
    obtain ⟨g, hg, hle⟩ := h.frontier hmid f hf
    obtain ⟨f', hf', hle'⟩ := h'.frontier hlive g hg
    exact ⟨f', hf', hle.trans hle'⟩

theorem budgeted_new (key : ReplicationLineageKey) (limits : PredictionLimits) :
    (new key limits : PredictionLineage I).Budgeted where
  bytes_exact := rfl
  count_le := Nat.zero_le _
  bytes_le := Nat.zero_le _
  ahead := fun _ h => by cases h
  tidy := fun _ _ _ => rfl

/-- A prediction without pending inputs. -/
theorem budgeted_empty (hpending : p.pending = .empty) (hbytes : p.pendingBytes = 0) :
    p.Budgeted where
  bytes_exact := by
    rw [hpending, hbytes]
    rfl
  count_le := by
    rw [hpending]
    exact Nat.zero_le _
  bytes_le := by
    rw [hbytes]
    exact Nat.zero_le _
  ahead := fun _ _ tick i h => by
    rw [hpending] at h
    cases h
  tidy := fun _ _ _ => hpending

/-- What was observed of the lineage has no part in the accounting. -/
theorem Budgeted.observed (h : p.Budgeted) (commit boundary : Option ReplicationCursor) :
    ({ p with lastObservedCommit := commit, lastObservedRecoveryBoundary := boundary } :
      PredictionLineage I).Budgeted :=
  ⟨h.bytes_exact, h.count_le, h.bytes_le, h.ahead, h.tidy⟩

theorem onward_observed (p : PredictionLineage I) (commit boundary : Option ReplicationCursor) :
    p.Onward { p with lastObservedCommit := commit, lastObservedRecoveryBoundary := boundary } :=
  ⟨rfl, rfl, id, fun _ f hf => ⟨f, hf, le_rfl⟩⟩

theorem Budgeted.invalidateUnlessTerminal (h : p.Budgeted) (reason : PredictionInvalidationReason) :
    (p.invalidateUnlessTerminal reason).Budgeted := by
  unfold PredictionLineage.invalidateUnlessTerminal
  split
  · exact budgeted_empty rfl rfl
  · exact h

theorem onward_invalidateUnlessTerminal (p : PredictionLineage I)
    (reason : PredictionInvalidationReason) : p.Onward (p.invalidateUnlessTerminal reason) := by
  unfold PredictionLineage.invalidateUnlessTerminal
  split
  · rename_i hlive
    refine ⟨rfl, rfl, fun ht => absurd (Option.isNone_iff_eq_none.mp hlive) ht, fun _ f hf => ?_⟩
    exact ⟨f, hf, le_rfl⟩
  · exact Onward.refl p

theorem onward_terminate (p : PredictionLineage I) {reason : PredictionInvalidationReason}
    (h : reason.isTerminal = true) : p.Onward (p.terminate reason) := by
  have hended : (p.terminate reason).terminalReason = some reason := by
    unfold terminalReason terminate
    exact if_pos h
  exact ⟨rfl, rfl, fun _ => by rw [hended]; simp, fun hlive => by rw [hended] at hlive; cases hlive⟩

/-- Activation at a tick that is not behind the frontier. -/
theorem onward_active {pending : SortedMap SimulationTick (PendingInput I)} {bytes : Nat}
    {commit boundary : Option ReplicationCursor} {tick : SimulationTick}
    (hlive : p.terminalReason = none) (hle : ∀ f, p.frontier = some f → f ≤ tick) :
    p.Onward { p with
      pending := pending
      pendingBytes := bytes
      state := .active tick
      lastObservedCommit := commit
      lastObservedRecoveryBoundary := boundary } :=
  ⟨rfl, rfl, fun ht => absurd hlive ht, fun _ f hf => ⟨tick, rfl, hle f hf⟩⟩

/-! ### Admission -/

theorem Budgeted.admitLocal [DecidableEq I] (h : p.Budgeted) (targetTick : SimulationTick) (input : I)
    (accountedBytes : Nat) : (p.admitLocal targetTick input accountedBytes).2.Budgeted := by
  unfold PredictionLineage.admitLocal
  split
  · exact h
  · rename_i frontier hstate
    split
    · exact h
    · rename_i hnew
      split
      · split <;> exact h
      · rename_i hnone
        split
        · exact h
        · rename_i hroom
          split
          · exact h
          · rename_i next hnext
            split
            · exact h
            · rename_i hfits
              obtain ⟨-, rfl⟩ := checkedAdd_eq_some.mp hnext
              have hlt : frontier.get < targetTick.get := not_le.mp hnew
              refine ⟨?_, ?_, not_lt.mp hfits, fun f hf tick i hi => ?_, fun reason f hs => ?_⟩
              · rw [SortedMap.sum_insert, SortedMap.erase_of_get?_none hnone, h.bytes_exact,
                  Nat.add_comm]
              · rw [SortedMap.size_insert_of_none _ hnone]
                show p.pending.size + 1 ≤ p.limits.maxPendingInputs.get
                omega
              · have hf' : p.state = .active f := hf
                rw [hstate] at hf'
                cases hf'
                simp only [SortedMap.get?_insert] at hi
                split at hi
                · rename_i he
                  subst he
                  refine ⟨not_le.mp hnew, ?_⟩
                  show tick.get ≤ frontier.get + p.limits.maxFutureTickDistance
                  omega
                · exact h.ahead frontier hstate tick i hi
              · have hs' : p.state = .invalidated reason f := hs
                rw [hstate] at hs'
                cases hs'

/-- An admission changes the pending inputs of an active prediction, and nothing else. -/
theorem admitLocal_pending [DecidableEq I] (p : PredictionLineage I) (targetTick : SimulationTick)
    (input : I) (accountedBytes : Nat) :
    ∃ pending bytes, (p.admitLocal targetTick input accountedBytes).2
      = { p with pending := pending, pendingBytes := bytes } := by
  rcases PredictionRun.admitLocal_cases p targetTick input accountedBytes with
    ⟨frontier, bytes, -, heq⟩ | ⟨outcome, -, heq⟩
  · rw [heq]
    exact ⟨_, _, rfl⟩
  · rw [heq]
    exact ⟨_, _, rfl⟩

theorem onward_pending (p : PredictionLineage I)
    (pending : SortedMap SimulationTick (PendingInput I)) (bytes : Nat) :
    p.Onward { p with pending := pending, pendingBytes := bytes } :=
  ⟨rfl, rfl, id, fun _ f hf => ⟨f, hf, le_rfl⟩⟩

/-! ### Retiring and replaying -/

/-- The pending inputs that a commit at `tick` has not reached. -/
def retire (p : PredictionLineage I) (tick : SimulationTick) :
    SortedMap SimulationTick (PendingInput I) :=
  ((p.pending.entries.filter fun e => e.1 ≤ tick).map Prod.fst).foldl SortedMap.erase p.pending

/-- These inputs in the order of their ticks. -/
def remaining (p : PredictionLineage I) (tick : SimulationTick) : List (SimulationTick × I) :=
  (p.retire tick).entries.map fun e => (e.1, e.2.value)

theorem entries_retire (p : PredictionLineage I) (tick : SimulationTick) :
    (p.retire tick).entries = p.pending.entries.filter fun e => tick < e.1 := by
  rw [retire, SortedMap.foldl_erase_filter]
  refine List.filter_congr fun e _ => ?_
  rw [← decide_not]
  exact decide_eq_decide.mpr not_le

theorem get?_retire (p : PredictionLineage I) (tick t : SimulationTick) :
    (p.retire tick).get? t = if t ≤ tick then none else p.pending.get? t := by
  ext i
  rw [SortedMap.get?_eq_some, entries_retire, List.mem_filter, decide_eq_true_eq]
  split
  · rename_i hle
    exact ⟨fun h => absurd h.2 (not_lt.mpr hle), fun h => by cases h⟩
  · rename_i hlt
    rw [SortedMap.get?_eq_some]
    exact and_iff_left (not_le.mp hlt)

theorem remaining_ascending (p : PredictionLineage I) (tick : SimulationTick) :
    (p.remaining tick).Pairwise fun a b => a.1 < b.1 :=
  List.pairwise_map.mpr (p.retire tick).sorted

theorem size_retire_le (p : PredictionLineage I) (tick : SimulationTick) :
    (p.retire tick).size ≤ p.pending.size := SortedMap.size_foldl_erase_le _ _

/-- The callback is called on the inputs in turn, up to the first one it refuses. -/
theorem replayPending_spec (replay : SimulationTick → I → Except R Unit)
    (entries : List (SimulationTick × PendingInput I)) (n : Nat)
    (hn : n + entries.length ≤ usizeMax) :
    ((∀ x ∈ entries.map fun e => (e.1, e.2.value), replay x.1 x.2 = .ok ()) ∧
      replayPending replay entries n
        = (entries.map fun e => (e.1, e.2.value), .ok (n + entries.length))) ∨
    ∃ before x after source, (entries.map fun e => (e.1, e.2.value)) = before ++ x :: after ∧
      (∀ y ∈ before, replay y.1 y.2 = .ok ()) ∧ replay x.1 x.2 = .error source ∧
      replayPending replay entries n = (before ++ [x], .error (.replayFailed x.1 source)) := by
  induction entries generalizing n with
  | nil => exact .inl ⟨by simp, rfl⟩
  | cons e entries ih =>
    rw [List.length_cons] at hn
    rw [replayPending]
    cases hr : replay e.1 e.2.value with
    | error source =>
      exact .inr ⟨[], (e.1, e.2.value), _, source, rfl, by simp, hr, rfl⟩
    | ok u =>
      have hadd : checkedAdd usizeMax n 1 = some (n + 1) := checkedAdd_eq_some.mpr ⟨by omega, rfl⟩
      simp only [hadd]
      rcases ih (n + 1) (by omega) with ⟨hall, heq⟩ | ⟨before, x, after, source, hes, hok, hx, heq⟩
      · refine .inl ⟨?_, ?_⟩
        · rw [List.map_cons, List.forall_mem_cons]
          exact ⟨hr, hall⟩
        · rw [heq, List.map_cons, List.length_cons, Nat.add_right_comm, Nat.add_assoc]
      · refine .inr ⟨(e.1, e.2.value) :: before, x, after, source, ?_, ?_, hx, ?_⟩
        · rw [List.map_cons, hes, List.cons_append]
        · rw [List.forall_mem_cons]
          exact ⟨hr, hok⟩
        · rw [heq, List.cons_append]

/-- What the observation of a commit at `tick` does to an active prediction. -/
inductive Reconciled (p : PredictionLineage I) (cursor : ReplicationCursor) (tick : SimulationTick)
    (replay : SimulationTick → I → Except R Unit) : Observation I R → Prop
  | idle (hnone : p.remaining tick = []) :
      Reconciled p cursor tick replay ⟨.ok (.reconciledNoReplay tick), [], { p with
        pending := p.retire tick
        pendingBytes := (p.retire tick).sum fun _ i => i.accountedBytes
        state := .active tick
        lastObservedCommit := some cursor }⟩
  | replayed (hsome : p.remaining tick ≠ [])
      (hok : ∀ x ∈ p.remaining tick, replay x.1 x.2 = .ok ()) :
      Reconciled p cursor tick replay
        ⟨.ok (.reconciledReplay tick (p.remaining tick).length), p.remaining tick, { p with
          pending := p.retire tick
          pendingBytes := (p.retire tick).sum fun _ i => i.accountedBytes
          state := .active tick
          lastObservedCommit := some cursor }⟩
  | failed {before after : List (SimulationTick × I)} {x : SimulationTick × I} {source : R}
      (hsplit : p.remaining tick = before ++ x :: after)
      (hok : ∀ y ∈ before, replay y.1 y.2 = .ok ()) (hfail : replay x.1 x.2 = .error source) :
      Reconciled p cursor tick replay ⟨.error (.replayFailed x.1 source), before ++ [x], { p with
        pending := .empty
        pendingBytes := 0
        state := .invalidated .replayFailure (some tick)
        lastObservedCommit := some cursor }⟩

theorem reconcileCommitted_active (h : p.Budgeted) {frontier : SimulationTick}
    (hstate : p.state = .active frontier) {tick : SimulationTick} (hle : frontier ≤ tick)
    (cursor : ReplicationCursor) (replay : SimulationTick → I → Except R Unit) :
    Reconciled p cursor tick replay (p.reconcileCommitted cursor tick replay) := by
  have hno : ¬ p.frontier.any (fun frontier => tick < frontier) = true := by
    rw [PredictionLineage.frontier, hstate]
    simpa using hle
  have hsum := p.pending.sum_foldl_erase (fun _ i => i.accountedBytes) fun e => e.1 ≤ tick
  rw [← h.bytes_exact] at hsum
  change _ + (p.retire tick).sum _ = _ at hsum
  have hmax := h.bytes_le.trans p.limits.maxPendingBytes.le_max
  have hcounted : (do
      let retiredBytes ← checkedTotal
        ((p.pending.entries.filter fun e => e.1 ≤ tick).map fun e => e.2.accountedBytes)
      checkedSub p.pendingBytes retiredBytes)
      = some ((p.retire tick).sum fun _ i => i.accountedBytes) := by
    rw [checkedTotal_sum (by omega)]
    exact checkedSub_eq_some.mpr ⟨by omega, by omega⟩
  unfold reconcileCommitted
  rw [if_neg hno, hstate]
  simp only [hcounted]
  change Reconciled p cursor tick replay (if (p.retire tick).entries.isEmpty then _ else _)
  have hsize : 0 + (p.retire tick).entries.length ≤ usizeMax := by
    rw [Nat.zero_add]
    exact ((p.size_retire_le tick).trans h.count_le).trans p.limits.maxPendingInputs.le_max
  split
  · rename_i hempty
    refine .idle ?_
    rw [remaining, List.isEmpty_iff.mp hempty, List.map_nil]
  · rename_i hne
    have hsome : p.remaining tick ≠ [] := fun h => hne (by
      rw [List.isEmpty_iff]
      exact List.map_eq_nil_iff.mp h)
    have hspec := replayPending_spec replay (p.retire tick).entries 0 hsize
    split
    · rename_i calls replayed hr
      rcases hspec with ⟨hok, heq⟩ | ⟨before, x, after, source, -, -, -, heq⟩
      · cases heq.symm.trans hr
        rw [Nat.zero_add]
        have hlen : (p.retire tick).entries.length = (p.remaining tick).length :=
          (List.length_map _).symm
        rw [hlen]
        exact .replayed hsome hok
      · cases heq.symm.trans hr
    · rename_i calls failedTick source hr
      rcases hspec with ⟨-, heq⟩ | ⟨before, x, after, source, hsplit, hok, hfail, heq⟩
      · cases heq.symm.trans hr
      · cases heq.symm.trans hr
        exact .failed hsplit hok hfail
    · rename_i calls e hnot hr
      rcases hspec with ⟨-, heq⟩ | ⟨before, x, after, source, -, -, -, heq⟩
      · cases heq.symm.trans hr
      · cases heq.symm.trans hr
        exact absurd rfl (hnot _ _)

theorem Budgeted.retire (h : p.Budgeted) {frontier tick : SimulationTick}
    (hstate : p.state = .active frontier) (hle : frontier ≤ tick)
    (commit : Option ReplicationCursor) : ({ p with
      pending := p.retire tick
      pendingBytes := (p.retire tick).sum fun _ i => i.accountedBytes
      state := .active tick
      lastObservedCommit := commit } : PredictionLineage I).Budgeted where
  bytes_exact := rfl
  count_le := (p.size_retire_le tick).trans h.count_le
  bytes_le := by
    have hsum := p.pending.sum_foldl_erase (fun _ i => i.accountedBytes) fun e => e.1 ≤ tick
    rw [← h.bytes_exact] at hsum
    change _ + (p.retire tick).sum _ = _ at hsum
    exact (Nat.le.intro ((Nat.add_comm _ _).trans hsum)).trans h.bytes_le
  ahead := fun f hf t i hi => by
    cases hf
    simp only [get?_retire] at hi
    split at hi
    · cases hi
    · rename_i hlt
      refine ⟨not_le.mp hlt, (h.ahead frontier hstate t i hi).2.trans ?_⟩
      exact Nat.add_le_add_right hle _
  tidy := fun _ _ hs => by cases hs

/-! ### Every observation -/

/-- What holds of every observation, whatever the lineage went through. -/
structure Kept (p : PredictionLineage I) (s : ClientReplicationSet S) (o : Observation I R) :
    Prop where
  budgeted : o.lineage.Budgeted
  onward : p.Onward o.lineage
  exact : o.result ≠ .error .accountingInvariantViolation
  commit : o.lineage.lastObservedCommit = p.lastObservedCommit ∨
    ∃ l c, s.lineages.get? p.key = some l ∧ l.current = some c ∧
      o.lineage.lastObservedCommit = some c

theorem kept_same {s : ClientReplicationSet S} (h : p.Budgeted)
    {result : Except (PredictionReconciliationError R) PredictionReconciliationOutcome}
    (hr : result ≠ .error .accountingInvariantViolation) : Kept p s ⟨result, [], p⟩ :=
  ⟨h, Onward.refl p, hr, .inl rfl⟩

/-- The frontier is not behind `tick`. -/
theorem frontier_le {tick : SimulationTick}
    (h : ¬ p.frontier.any (fun frontier => tick < frontier) = true) {f : SimulationTick}
    (hf : p.frontier = some f) : f ≤ tick := by
  rw [hf] at h
  simpa using h

theorem Budgeted.reconcile_kept (h : p.Budgeted) {s : ClientReplicationSet S} {l : ClientLineage S}
    (hl : s.lineages.get? p.key = some l) {cursor : ReplicationCursor}
    (hcur : l.current = some cursor) (tick : SimulationTick)
    (replay : SimulationTick → I → Except R Unit) :
    Kept p s (p.reconcileCommitted cursor tick replay) := by
  have hcommit : ∀ {c : Option ReplicationCursor}, c = some cursor →
      c = p.lastObservedCommit ∨ ∃ l c', s.lineages.get? p.key = some l ∧ l.current = some c' ∧
        c = some c' := fun hc => .inr ⟨l, cursor, hl, hcur, hc⟩
  by_cases hback : p.frontier.any (fun frontier => tick < frontier) = true
  · rw [reconcileCommitted, if_pos hback]
    exact kept_same h (by simp)
  · cases hstate : p.state with
    | active frontier =>
      have hfrontier : p.frontier = some frontier := by rw [PredictionLineage.frontier, hstate]
      have hle := frontier_le hback hfrontier
      have hlive : p.terminalReason = none := by rw [terminalReason, hstate]
      have hr := reconcileCommitted_active h hstate hle cursor replay
      generalize p.reconcileCommitted cursor tick replay = o at hr
      cases hr with
      | idle hnone =>
        exact ⟨h.retire hstate hle _, onward_active hlive fun f => frontier_le hback, by simp,
          hcommit rfl⟩
      | replayed hsome hok =>
        exact ⟨h.retire hstate hle _, onward_active hlive fun f => frontier_le hback, by simp,
          hcommit rfl⟩
      | failed hsplit hok hfail =>
        refine ⟨budgeted_empty rfl rfl, ⟨rfl, rfl, fun ht => absurd hlive ht, fun _ f hf => ?_⟩,
          by simp, hcommit rfl⟩
        exact ⟨tick, rfl, frontier_le hback hf⟩
    | invalidated reason frontier =>
      unfold reconcileCommitted
      rw [if_neg hback, hstate]
      have hlive : reason.isTerminal = false → p.terminalReason = none := fun hr => by
        rw [terminalReason, hstate]
        simp [hr]
      simp only
      split
      · exact ⟨budgeted_empty rfl rfl, onward_active (hlive rfl) fun f => frontier_le hback,
          by simp, hcommit rfl⟩
      · exact ⟨budgeted_empty rfl rfl, onward_active (hlive rfl) fun f => frontier_le hback,
          by simp, hcommit rfl⟩
      · rw [← hstate]
        exact ⟨h.observed _ _, p.onward_observed _ _, by simp, hcommit rfl⟩

theorem Budgeted.commit_kept (h : p.Budgeted) {s : ClientReplicationSet S} {l : ClientLineage S}
    (hl : s.lineages.get? p.key = some l) {cursor : ReplicationCursor}
    (hcur : l.current = some cursor) (replay : SimulationTick → I → Except R Unit) :
    Kept p s (p.observeCommit l cursor replay) := by
  unfold observeCommit
  simp only
  split
  · split
    · exact kept_same h (by simp)
    · exact h.reconcile_kept hl hcur _ replay
  · split
    · exact kept_same h (by simp)
    · split
      · exact kept_same h (by simp)
      · split
        · exact kept_same h (by simp)
        · exact h.reconcile_kept hl hcur _ replay

theorem Budgeted.observeBoundary (h : p.Budgeted) (l : ClientLineage S) :
    (p.observeBoundary l).2.Budgeted ∧ p.Onward (p.observeBoundary l).2 ∧
      (p.observeBoundary l).2.lastObservedCommit = p.lastObservedCommit := by
  rcases p.observeBoundary_cases l with ⟨-, heq⟩ | ⟨-, b, reason, -, heq⟩
  · rw [heq]
    exact ⟨h, Onward.refl p, rfl⟩
  · rw [heq]
    refine ⟨(h.observed p.lastObservedCommit (some b)).invalidateUnlessTerminal _,
      (p.onward_observed p.lastObservedCommit (some b)).trans
        (onward_invalidateUnlessTerminal _ _), ?_⟩
    exact (recovery_dropped h.tidy (some b) reason).commit

/-- The first part of an observation comes before the rest. -/
theorem Kept.after {q : PredictionLineage I} {s : ClientReplicationSet S} {o : Observation I R}
    (h : Kept q s o) (honward : p.Onward q) (hcommit : q.lastObservedCommit = p.lastObservedCommit) :
    Kept p s o where
  budgeted := h.budgeted
  onward := honward.trans h.onward
  exact := h.exact
  commit := by
    have hc := h.commit
    rwa [honward.key_eq, hcommit] at hc

theorem Budgeted.observeReplication (h : p.Budgeted) (s : ClientReplicationSet S)
    (replay : SimulationTick → I → Except R Unit) : Kept p s (p.observeReplication s replay) := by
  unfold PredictionLineage.observeReplication
  split
  · exact kept_same h (by simp)
  · rename_i l hl
    obtain ⟨hq, honward, hcommit⟩ := h.observeBoundary l
    simp only
    generalize p.observeBoundary l = seen at hq honward hcommit ⊢
    have hl' : s.lineages.get? seen.2.key = some l := by rw [honward.key_eq, hl]
    refine Kept.after ?_ honward hcommit
    split
    · split
      · exact kept_same hq (by simp)
      · rename_i reason hterm
        split
        · exact kept_same hq (by simp)
        · refine ⟨hq.invalidateUnlessTerminal _, onward_invalidateUnlessTerminal _ _, by simp, .inl ?_⟩
          exact (invalidateUnlessTerminal_dropped hq.tidy _).commit
    · split
      · exact kept_same hq (by simp)
      · rename_i cursor hcur
        split
        · exact kept_same hq (by simp)
        · exact hq.commit_kept hl' hcur replay

theorem noteBoundary_kept (h : p.Budgeted) (l : ClientLineage S) :
    (p.noteBoundary l).Budgeted ∧ p.Onward (p.noteBoundary l) ∧
      (p.noteBoundary l).lastObservedCommit = p.lastObservedCommit := by
  rw [noteBoundary_eq]
  exact ⟨h.observed _ _, p.onward_observed _ _, rfl⟩

theorem Budgeted.require (h : p.Budgeted) (s : ClientReplicationSet S)
    {r : Except ClientSetError Unit} {s' : ClientReplicationSet S}
    (hr : p.requireConnectionReplacementFull s = (r, p', s')) :
    p'.Budgeted ∧ p.Onward p' ∧ p'.lastObservedCommit = p.lastObservedCommit := by
  have hdrop : ∀ q : PredictionLineage I, q.Budgeted → p.Onward q →
      q.lastObservedCommit = p.lastObservedCommit →
      (q.invalidateForRecovery .connectionReplacement).Budgeted ∧
        p.Onward (q.invalidateForRecovery .connectionReplacement) ∧
        (q.invalidateForRecovery .connectionReplacement).lastObservedCommit
          = p.lastObservedCommit := fun q hq honward hcommit =>
    ⟨hq.invalidateUnlessTerminal _, honward.trans (onward_invalidateUnlessTerminal _ _),
      (invalidateUnlessTerminal_dropped hq.tidy _).commit.trans hcommit⟩
  unfold requireConnectionReplacementFull at hr
  split at hr
  · cases hr
    exact ⟨h, Onward.refl p, rfl⟩
  · cases hr
    split
    · rename_i l hl
      obtain ⟨hq, honward, hcommit⟩ := noteBoundary_kept h l
      exact hdrop _ hq honward hcommit
    · exact hdrop p h (Onward.refl p) rfl

/-- A confirmation never panics; it makes the prediction active at the current commit or changes
nothing. -/
theorem Budgeted.confirm (h : p.Budgeted) (s : ClientReplicationSet S) :
    ∃ r p', p.confirmHostRestoredAfterPredictionFailure s = .ok (r, p') ∧ p'.Budgeted ∧
      p.Onward p' ∧ (p'.lastObservedCommit = p.lastObservedCommit ∨
        ∃ l c, s.lineages.get? p.key = some l ∧ l.current = some c ∧
          p'.lastObservedCommit = some c) := by
  have hsame : ∀ {r : Except PredictionActivationError SimulationTick} {q : PredictionLineage I},
      q = p → ∃ r' p', (.ok (r, q) : Checked _) = .ok (r', p') ∧ p'.Budgeted ∧
        p.Onward p' ∧ (p'.lastObservedCommit = p.lastObservedCommit ∨
          ∃ l c, s.lineages.get? p.key = some l ∧ l.current = some c ∧
            p'.lastObservedCommit = some c) := by
    rintro r q rfl
    exact ⟨r, q, rfl, h, Onward.refl q, .inl rfl⟩
  unfold confirmHostRestoredAfterPredictionFailure
  split
  · exact hsame rfl
  · rename_i l hl
    split
    · exact hsame rfl
    · rename_i hfailed
      split
      · exact hsame rfl
      · split
        · exact hsame rfl
        · rename_i tick htick
          obtain ⟨cursor, hcur, -⟩ := Option.bind_eq_some_iff.mp htick
          rw [hcur, Checked.expect_some, Checked.ok_bind]
          split
          · exact hsame rfl
          · rename_i hback
            have hlive : p.terminalReason = none := by
              unfold hostStateFailed at hfailed
              unfold terminalReason
              split at hfailed
              · rename_i heq
                rw [heq]
                rfl
              · rename_i heq
                rw [heq]
                rfl
              · exact absurd Bool.false_ne_true hfailed
            refine ⟨_, _, rfl, ?_⟩
            rw [noteBoundary_eq]
            exact ⟨budgeted_empty rfl rfl, onward_active hlive fun f => frontier_le hback,
              .inr ⟨l, cursor, hl, hcur, rfl⟩⟩

/-! ### One observation after another -/

theorem observeBoundary_unlagged {l : ClientLineage S} (h : ¬ p.Unobserved l) :
    p.observeBoundary l = (false, p) := by
  rcases p.observeBoundary_cases l with ⟨-, heq⟩ | ⟨hlag, -⟩
  · exact heq
  · exact absurd hlag h

/-- A new commit reaches an active prediction. -/
theorem observe_newCommit (h : p.Budgeted) {s : ClientReplicationSet S} {l : ClientLineage S}
    (hl : s.lineages.get? p.key = some l) {frontier : SimulationTick}
    (hstate : p.state = .active frontier) (hseen : ¬ p.Unobserved l)
    (hsync : l.state = .synchronized) {cursor : ReplicationCursor} (hcur : l.current = some cursor)
    (hnew : ∀ o, p.lastObservedCommit = some o → o < cursor) {tick : SimulationTick}
    (htick : l.currentTick = some tick) (hle : frontier ≤ tick)
    (replay : SimulationTick → I → Except R Unit) :
    Reconciled p cursor tick replay (p.observeReplication s replay) := by
  have hlive : p.terminalReason = none := by rw [terminalReason, hstate]
  have heq : p.observeReplication s replay = p.reconcileCommitted cursor tick replay := by
    unfold PredictionLineage.observeReplication
    rw [hl]
    simp only [observeBoundary_unlagged hseen, hsync, hcur, hlive, observeCommit, htick]
    split
    · rfl
    · rename_i o ho
      rw [if_neg (lt_asymm (hnew o ho)), if_neg (hnew o ho).ne']
  rw [heq]
  exact reconcileCommitted_active h hstate hle cursor replay

/-- The lineage holds no commit that the prediction could still follow. -/
structure Idle (p : PredictionLineage I) (l : ClientLineage S) : Prop where
  seen : ¬ p.Unobserved l
  synchronized : l.state = .synchronized
  live : p.terminalReason = none
  followed : ∀ c, l.current = some c → p.lastObservedCommit = some c ∨
    (∃ o, p.lastObservedCommit = some o ∧ c < o) ∨
    (p.lastObservedCommit ≠ some c ∧ ∀ t, l.currentTick = some t →
      p.frontier.any (fun frontier => t < frontier) = true)

/-- An observation that has nothing to follow changes nothing. -/
theorem Idle.observe {s : ClientReplicationSet S} {l : ClientLineage S} (h : p.Idle l)
    (hl : s.lineages.get? p.key = some l) (replay : SimulationTick → I → Except R Unit) :
    ∃ result, p.observeReplication s replay = ⟨result, [], p⟩ := by
  unfold PredictionLineage.observeReplication
  rw [hl]
  simp only [observeBoundary_unlagged h.seen, h.synchronized, h.live]
  split
  · exact ⟨_, rfl⟩
  · rename_i c hcur
    unfold observeCommit
    simp only
    rcases h.followed c hcur with ho | ⟨o, ho, hlt⟩ | ⟨hne, hback⟩
    · rw [ho]
      simp only [lt_irrefl, if_false, if_true]
      exact ⟨_, rfl⟩
    · rw [ho]
      simp only [hlt, if_true]
      exact ⟨_, rfl⟩
    · have hreconcile : ∀ t, l.currentTick = some t →
          p.reconcileCommitted c t replay = ⟨.error .frontierRegression, [], p⟩ := fun t ht => by
        rw [reconcileCommitted, if_pos (hback t ht)]
      split
      · split
        · exact ⟨_, rfl⟩
        · rename_i t ht
          exact ⟨_, hreconcile t ht⟩
      · split
        · exact ⟨_, rfl⟩
        · split
          · exact ⟨_, rfl⟩
          · split
            · exact ⟨_, rfl⟩
            · rename_i t ht
              exact ⟨_, hreconcile t ht⟩

theorem not_active {f : SimulationTick} {q : PredictionLineage I} (hactive : q.state = .active f)
    (h : ∃ reason frontier, q.state = .invalidated reason frontier) : False := by
  obtain ⟨reason, frontier, hs⟩ := h
  rw [hactive] at hs
  cases hs

theorem reconcileCommitted_idle (h : p.Budgeted) {l : ClientLineage S} (hseen : ¬ p.Unobserved l)
    (hsync : l.state = .synchronized) {c : ReplicationCursor} (hcur : l.current = some c)
    (hnew : p.lastObservedCommit ≠ some c) {t : SimulationTick} (ht : l.currentTick = some t)
    (replay : SimulationTick → I → Except R Unit) {f : SimulationTick}
    (hactive : (p.reconcileCommitted c t replay).lineage.state = .active f) :
    (p.reconcileCommitted c t replay).lineage.Idle l := by
  have hlive : (p.reconcileCommitted c t replay).lineage.terminalReason = none := by
    rw [terminalReason, hactive]
  by_cases hback : p.frontier.any (fun frontier => t < frontier) = true
  · rw [reconcileCommitted, if_pos hback] at hlive ⊢
    refine ⟨hseen, hsync, hlive, fun c' hc' => .inr (.inr ⟨?_, fun t' ht' => ?_⟩)⟩
    · rw [hcur] at hc'
      cases hc'
      exact hnew
    · rw [ht] at ht'
      cases ht'
      exact hback
  · have hfollowed : ∀ q : PredictionLineage I, q.lastObservedCommit = some c →
        q.lastObservedRecoveryBoundary = p.lastObservedRecoveryBoundary →
        q.terminalReason = none → q.Idle l := fun q hq hboundary hlive => by
      refine ⟨fun hlag => hseen ?_, hsync, hlive, fun c' hc' => .inl ?_⟩
      · obtain ⟨b, hb, hlt⟩ := hlag
        exact ⟨b, hb, by rwa [hboundary] at hlt⟩
      · rw [hcur] at hc'
        cases hc'
        exact hq
    cases hstate : p.state with
    | active frontier =>
      have hfrontier : p.frontier = some frontier := by rw [PredictionLineage.frontier, hstate]
      have hr := reconcileCommitted_active h hstate (frontier_le hback hfrontier) c replay
      generalize p.reconcileCommitted c t replay = o at hr hlive hactive ⊢
      cases hr with
      | idle hnone => exact hfollowed _ rfl rfl hlive
      | replayed hsome hok => exact hfollowed _ rfl rfl hlive
      | failed hsplit hok hfail => cases hactive
    | invalidated reason frontier =>
      unfold reconcileCommitted at hlive hactive ⊢
      rw [if_neg hback, hstate] at hlive hactive ⊢
      simp only at hlive hactive ⊢
      split at hactive
      · exact hfollowed _ rfl rfl rfl
      · exact hfollowed _ rfl rfl rfl
      · cases hactive

theorem observeCommit_idle (h : p.Budgeted) {l : ClientLineage S} (hseen : ¬ p.Unobserved l)
    (hsync : l.state = .synchronized) (hlive : p.terminalReason = none) {c : ReplicationCursor}
    (hcur : l.current = some c) (replay : SimulationTick → I → Except R Unit) {f : SimulationTick}
    (hactive : (p.observeCommit l c replay).lineage.state = .active f) :
    (p.observeCommit l c replay).lineage.Idle l := by
  have hmissing : p.lastObservedCommit ≠ some c → l.currentTick = none → p.Idle l := fun hne ht =>
    ⟨hseen, hsync, hlive, fun c' hc' => .inr (.inr ⟨by
      rw [hcur] at hc'
      cases hc'
      exact hne, fun t ht' => by
      rw [ht] at ht'
      cases ht'⟩)⟩
  unfold observeCommit at hactive ⊢
  simp only at hactive ⊢
  cases ho : p.lastObservedCommit with
  | none =>
    rw [ho] at hactive hmissing
    simp only at hactive ⊢
    cases ht : l.currentTick with
    | none => exact hmissing (by simp) ht
    | some t =>
      rw [ht] at hactive
      exact reconcileCommitted_idle h hseen hsync hcur (by simp [ho]) ht replay hactive
  | some o =>
    rw [ho] at hactive hmissing
    simp only at hactive ⊢
    by_cases hlt : c < o
    · rw [if_pos hlt]
      refine ⟨hseen, hsync, hlive, fun c' hc' => .inr (.inl ⟨o, ho, ?_⟩)⟩
      rw [hcur] at hc'
      cases hc'
      exact hlt
    · rw [if_neg hlt] at hactive ⊢
      by_cases heq : c = o
      · rw [if_pos heq]
        refine ⟨hseen, hsync, hlive, fun c' hc' => .inl ?_⟩
        rw [hcur] at hc'
        cases hc'
        rw [ho, heq]
      · rw [if_neg heq] at hactive ⊢
        have hne : some o ≠ some c := fun h => heq (Option.some.inj h).symm
        cases ht : l.currentTick with
        | none => exact hmissing hne ht
        | some t =>
          rw [ht] at hactive
          exact reconcileCommitted_idle h hseen hsync hcur (by rwa [ho]) ht replay hactive

/-- An observation that leaves the prediction active leaves nothing to follow. -/
theorem observeReplication_idle (h : p.Budgeted) {s : ClientReplicationSet S} {l : ClientLineage S}
    (hl : s.lineages.get? p.key = some l) (replay : SimulationTick → I → Except R Unit)
    {f : SimulationTick} (hactive : (p.observeReplication s replay).lineage.state = .active f) :
    (p.observeReplication s replay).lineage.Idle l := by
  have hseen := p.observeBoundary_seen l
  have hbud := (h.observeBoundary l).1
  have hnoticed : (p.observeBoundary l).1 = true →
      ∃ reason frontier, (p.observeBoundary l).2.state = .invalidated reason frontier := fun hn => by
    rcases p.observeBoundary_cases l with ⟨-, heq⟩ | ⟨-, b, reason, -, heq⟩
    · rw [heq] at hn
      cases hn
    · rw [heq]
      exact (recovery_dropped h.tidy (some b) reason).invalidated
  unfold PredictionLineage.observeReplication at hactive ⊢
  rw [hl] at hactive ⊢
  simp only at hactive ⊢
  generalize p.observeBoundary l = seen at hseen hbud hnoticed hactive ⊢
  cases hstate : l.state with
  | fullSnapshotRequired reason =>
    simp only [hstate] at hactive
    exfalso
    split at hactive
    · rename_i terminal hterm
      obtain ⟨g, hs⟩ := terminal_invalidated hterm
      exact not_active hactive ⟨_, _, hs⟩
    · split at hactive
      · rename_i hn
        exact not_active hactive (hnoticed hn)
      · exact not_active hactive (invalidateUnlessTerminal_dropped hbud.tidy _).invalidated
  | synchronized =>
    simp only [hstate] at hactive ⊢
    cases hcur : l.current with
    | none =>
      rw [hcur] at hactive
      refine ⟨hseen, hstate, by rw [terminalReason, hactive], fun c hc => ?_⟩
      rw [hcur] at hc
      cases hc
    | some c =>
      rw [hcur] at hactive
      simp only at hactive ⊢
      cases hterm : seen.2.terminalReason with
      | some terminal =>
        rw [hterm] at hactive
        obtain ⟨g, hs⟩ := terminal_invalidated hterm
        exact (not_active hactive ⟨_, _, hs⟩).elim
      | none =>
        rw [hterm] at hactive
        exact observeCommit_idle hbud hseen hstate hterm hcur replay hactive

/-! ### Beside a lineage that stays -/

/-- The lineage at the key of the prediction has not gone back behind it. -/
structure Trails (p : PredictionLineage I) (l : ClientLineage S) : Prop where
  commit : ∀ o c, p.lastObservedCommit = some o → l.current = some c → o ≤ c
  frontier : ∀ f t, p.frontier = some f → l.currentTick = some t → f ≤ t

/-- The errors that find the lineage behind the prediction, or the accounting wrong. -/
def Impossible : Except (PredictionReconciliationError R) PredictionReconciliationOutcome → Prop
  | .error (.committedCursorRegression _ _) => True
  | .error .missingCommittedTick => True
  | .error .frontierRegression => True
  | .error .accountingInvariantViolation => True
  | _ => False

theorem reconcileCommitted_possible (h : p.Budgeted) {tick : SimulationTick}
    (hle : ∀ f, p.frontier = some f → f ≤ tick) (cursor : ReplicationCursor)
    (replay : SimulationTick → I → Except R Unit) :
    ¬ Impossible (p.reconcileCommitted cursor tick replay).result := by
  cases hstate : p.state with
  | active frontier =>
    have hfrontier : p.frontier = some frontier := by rw [PredictionLineage.frontier, hstate]
    have hr := reconcileCommitted_active h hstate (hle _ hfrontier) cursor replay
    generalize p.reconcileCommitted cursor tick replay = o at hr
    cases hr with
    | idle hnone => exact id
    | replayed hsome hok => exact id
    | failed hsplit hok hfail => exact id
  | invalidated reason frontier =>
    have hno : ¬ p.frontier.any (fun frontier => tick < frontier) = true := fun hback => by
      obtain ⟨f, hf, hlt⟩ := (Option.any_eq_true _ _).mp hback
      exact absurd (hle f hf) (not_le.mpr (of_decide_eq_true hlt))
    unfold reconcileCommitted
    rw [if_neg hno, hstate]
    simp only
    split <;> exact id

theorem observeCommit_possible (h : p.Budgeted) {l : ClientLineage S} (ht : p.Trails l)
    (hs : l.Sound) {cursor : ReplicationCursor} (hcur : l.current = some cursor)
    (replay : SimulationTick → I → Except R Unit) :
    ¬ Impossible (p.observeCommit l cursor replay).result := by
  obtain ⟨tick, htick⟩ := hs.currentTick hcur
  have hreconcile := reconcileCommitted_possible h (fun f hf => ht.frontier f tick hf htick) cursor
    replay
  unfold observeCommit
  rw [htick]
  simp only
  split
  · exact hreconcile
  · rename_i o ho
    rw [if_neg (not_lt.mpr (ht.commit o cursor ho hcur))]
    split
    · exact id
    · exact hreconcile

theorem Trails.seen {l : ClientLineage S} (h : p.Trails l) (htidy : p.Tidy) :
    (p.observeBoundary l).2.Trails l := by
  rcases p.observeBoundary_cases l with ⟨-, heq⟩ | ⟨-, b, reason, -, heq⟩
  · rw [heq]
    exact h
  · have hd := recovery_dropped htidy (some b) reason
    rw [heq]
    exact ⟨fun o c ho => h.commit o c (hd.commit ▸ ho),
      fun f t hf => h.frontier f t (hd.frontier f hf)⟩

/-- No observation of a lineage that stays fails, except in the callback. -/
theorem observeReplication_possible (h : p.Budgeted) {s : ClientReplicationSet S}
    (ht : ∀ l, s.lineages.get? p.key = some l → p.Trails l ∧ l.Sound)
    (replay : SimulationTick → I → Except R Unit) :
    ¬ Impossible (p.observeReplication s replay).result := by
  unfold PredictionLineage.observeReplication
  split
  · exact id
  · rename_i l hl
    obtain ⟨htrails, hs⟩ := ht l hl
    have hseen := htrails.seen h.tidy
    have hbud := (h.observeBoundary l).1
    simp only
    generalize p.observeBoundary l = seen at hseen hbud ⊢
    split
    · split <;> exact id
    · split
      · exact id
      · rename_i cursor hcur
        split
        · exact id
        · exact observeCommit_possible hbud hseen hs hcur replay

/-- A prediction that its lineage is not behind is idle only at the current commit. -/
theorem Idle.observe_quiet {s : ClientReplicationSet S} {l : ClientLineage S} (h : p.Idle l)
    (hl : s.lineages.get? p.key = some l) (ht : p.Trails l) (hs : l.Sound)
    (replay : SimulationTick → I → Except R Unit) :
    p.observeReplication s replay = ⟨.ok .noAuthoritativeCommit, [], p⟩ := by
  unfold PredictionLineage.observeReplication
  rw [hl]
  simp only [observeBoundary_unlagged h.seen, h.synchronized, h.live]
  split
  · rfl
  · rename_i c hcur
    obtain ⟨tick, htick⟩ := hs.currentTick hcur
    have ho : p.lastObservedCommit = some c := by
      rcases h.followed c hcur with ho | ⟨o, ho, hlt⟩ | ⟨hne, hback⟩
      · exact ho
      · exact absurd hlt (not_lt.mpr (ht.commit o c ho hcur))
      · obtain ⟨f, hf, hlt⟩ := (Option.any_eq_true _ _).mp (hback tick htick)
        exact absurd (ht.frontier f tick hf htick) (not_le.mpr (of_decide_eq_true hlt))
    simp only [observeCommit, ho, lt_irrefl, if_false, if_true]

/-- A confirmation beside a lineage that stays finds its commit. -/
theorem confirm_possible {s : ClientReplicationSet S}
    (ht : ∀ l, s.lineages.get? p.key = some l → p.Trails l ∧ l.Sound)
    {r : Except PredictionActivationError SimulationTick}
    (hr : p.confirmHostRestoredAfterPredictionFailure s = .ok (r, p')) :
    r ≠ .error .missingCommittedTick ∧ r ≠ .error .frontierRegression := by
  unfold confirmHostRestoredAfterPredictionFailure at hr
  split at hr
  · cases hr
    simp
  · rename_i l hl
    obtain ⟨htrails, hs⟩ := ht l hl
    split at hr
    · cases hr
      simp
    · split at hr
      · cases hr
        simp
      · rename_i hsync
        obtain ⟨cursor, hcur⟩ := hs.synchronized (not_not.mp hsync)
        obtain ⟨tick, htick⟩ := hs.currentTick hcur
        rw [htick, hcur] at hr
        simp only [Checked.expect_some, Checked.ok_bind, Checked.pure_eq] at hr
        split at hr
        · rename_i hback
          obtain ⟨f, hf, hlt⟩ := (Option.any_eq_true _ _).mp hback
          exact absurd (htrails.frontier f tick hf htick) (not_le.mpr (of_decide_eq_true hlt))
        · cases hr
          simp

end PredictionLineage

/-! ### Runs -/

namespace PredictionRun

variable {S D E I R : Type} {key : ReplicationLineageKey} {t t' : PredictionRun S I}

/-- The invariant of every run, also of one that removes the lineage. -/
structure Accounted (t : PredictionRun S I) : Prop where
  replication : t.replication.Sound
  prediction : t.prediction.Budgeted

/-- What one operation does. -/
structure Proceeds (op : PredictionOp S D E I R) (t t' : PredictionRun S I) : Prop where
  accounted : t'.Accounted
  onward : t.prediction.Onward t'.prediction
  /-- The prediction observed the current commit, or none. -/
  commit : t'.prediction.lastObservedCommit = t.prediction.lastObservedCommit ∨
    ∃ l c, t.replication.lineages.get? t.prediction.key = some l ∧ l.current = some c ∧
      t'.prediction.lastObservedCommit = some c
  change : ∀ key, op.Keeps key → ∀ l, t.replication.lineages.get? key = some l →
    ∃ l', t'.replication.lineages.get? key = some l' ∧ l.Change l'

theorem require_replication (p : PredictionLineage I) (s : ClientReplicationSet S) :
    (p.requireConnectionReplacementFull s).2.2 = (s.requireConnectionReplacementFull p.key).2 := by
  unfold PredictionLineage.requireConnectionReplacementFull
  split
  · rename_i heq
    rw [heq]
  · rename_i heq
    rw [heq]

/-- Through the prediction, too, a full snapshot is required by an operation of the set. -/
theorem require_effect {s : ClientReplicationSet S} (hs : s.Sound) (p : PredictionLineage I) :
    ∃ reply, ClientReplicationSet.Effect s
      (.requireConnectionReplacementFull p.key : ClientOp S Unit Unit) reply
      (p.requireConnectionReplacementFull s).2.2 := by
  obtain ⟨reply, s', hexec, heff⟩ := ClientReplicationSet.exec_effect hs
    (.requireConnectionReplacementFull p.key : ClientOp S Unit Unit)
  cases hexec
  rw [require_replication]
  exact ⟨_, heff⟩

section Step

variable [DecidableEq I]

theorem Accounted.step (ht : t.Accounted) (op : PredictionOp S D E I R) :
    ∃ t', t.step op = .ok t' ∧ Proceeds op t t' := by
  have hs := ht.replication
  have hp := ht.prediction
  have hsame : ∀ key, op.Keeps key → ∀ l, t.replication.lineages.get? key = some l →
      ∃ l', t.replication.lineages.get? key = some l' ∧ l.Change l' :=
    fun key _ l hl => ⟨l, hl, .kept⟩
  -- an event from outside the lineage
  have hinvalid : ∀ (reason : PredictionInvalidationReason) (log : List (PredictionEvent I)),
      Proceeds op t ⟨t.replication, t.prediction.invalidateUnlessTerminal reason, log⟩ :=
    fun reason log => ⟨⟨hs, hp.invalidateUnlessTerminal reason⟩,
      PredictionLineage.onward_invalidateUnlessTerminal _ reason,
      .inl (PredictionLineage.invalidateUnlessTerminal_dropped hp.tidy reason).commit, hsame⟩
  have hended : ∀ {reason : PredictionInvalidationReason}, reason.isTerminal = true →
      Proceeds op t ⟨t.replication, t.prediction.terminate reason, t.log⟩ :=
    fun hreason => ⟨⟨hs, PredictionLineage.budgeted_empty rfl rfl⟩,
      PredictionLineage.onward_terminate _ hreason, .inl rfl, hsame⟩
  cases op with
  | client op =>
    obtain ⟨reply, s', hexec, heff⟩ := ClientReplicationSet.exec_effect hs op
    refine ⟨⟨s', t.prediction, clientEvents t.prediction.key op reply s' ++ t.log⟩, ?_,
      ⟨heff.sound hs, hp⟩, PredictionLineage.Onward.refl _, .inl rfl, fun key hkeep l hl => ?_⟩
    · rw [PredictionRun.step, hexec]
      rfl
    · refine heff.change ?_ hl
      rintro rfl
      exact hkeep rfl
  | admitLocal targetTick input bytes =>
    have hadmit := hp.admitLocal targetTick input bytes
    obtain ⟨pending, total, heq⟩ := t.prediction.admitLocal_pending targetTick input bytes
    simp only [PredictionRun.step]
    split
    all_goals
      rename_i hr
      rw [hr] at hadmit heq
      simp only at hadmit heq
      subst heq
      exact ⟨_, rfl, ⟨hs, hadmit⟩, t.prediction.onward_pending pending total, .inl rfl, hsame⟩
  | connectionLost => exact ⟨_, rfl, hinvalid _ _⟩
  | localApplicationFailed => exact ⟨_, rfl, hinvalid _ _⟩
  | participantMembershipEnded => exact ⟨_, rfl, hended rfl⟩
  | sessionClosed => exact ⟨_, rfl, hended rfl⟩
  | invalidateForRecovery reason => exact ⟨_, rfl, hinvalid _ _⟩
  | requireConnectionReplacementFull =>
    obtain ⟨reply, heff⟩ := require_effect hs t.prediction
    have hchange : ∀ key l, t.replication.lineages.get? key = some l → ∃ l',
        (t.prediction.requireConnectionReplacementFull t.replication).2.2.lineages.get? key = some l' ∧
          l.Change l' := fun key l hl => heff.change (by simp) hl
    simp only [PredictionRun.step]
    split
    all_goals
      rename_i p' s' hr
      obtain ⟨hbud, honward, hcommit⟩ := hp.require t.replication hr
      rw [hr] at heff hchange
      exact ⟨_, rfl, ⟨heff.sound hs, hbud⟩, honward, .inl hcommit, fun key _ => hchange key⟩
  | confirmHostRestoredAfterPredictionFailure =>
    obtain ⟨r, p', hr, hbud, honward, hcommit⟩ := hp.confirm t.replication
    simp only [PredictionRun.step, hr, Checked.ok_bind]
    cases r with
    | ok tick => exact ⟨_, rfl, ⟨hs, hbud⟩, honward, hcommit, hsame⟩
    | error e => exact ⟨_, rfl, ⟨hs, hbud⟩, honward, hcommit, hsame⟩
  | observeReplication replay =>
    have hkept := hp.observeReplication t.replication replay
    exact ⟨_, rfl, ⟨hs, hkept.budgeted⟩, hkept.onward, hkept.commit, hsame⟩

/-- Any number of operations. -/
theorem Accounted.steps (ht : t.Accounted) (ops : List (PredictionOp S D E I R)) :
    ∃ t', ops.foldlM PredictionRun.step t = .ok t' ∧ t'.Accounted ∧
      t.prediction.Onward t'.prediction := by
  induction ops generalizing t with
  | nil => exact ⟨t, rfl, ht, PredictionLineage.Onward.refl _⟩
  | cons op ops ih =>
    obtain ⟨u, hstep, hu⟩ := ht.step op
    obtain ⟨t', hrun, ht', honward⟩ := ih hu.accounted
    exact ⟨t', by rw [List.foldlM_cons, hstep, Checked.ok_bind, hrun], ht',
      hu.onward.trans honward⟩

/-- The invariant of a run that does not remove the lineage. -/
structure Beside (key : ReplicationLineageKey) (t : PredictionRun S I) : Prop where
  accounted : t.Accounted
  sound : Sound key t
  commit : ∀ o, t.prediction.lastObservedCommit = some o →
    ∃ l c, t.replication.lineages.get? key = some l ∧ l.current = some c ∧ o ≤ c

theorem Beside.step (ht : Beside key t) (op : PredictionOp S D E I R) (hkeep : op.Keeps key) :
    ∃ t', t.step op = .ok t' ∧ Beside key t' := by
  obtain ⟨t', hstep, hp⟩ := ht.accounted.step op
  obtain ⟨u, hstep', hsound, -⟩ := step_sound ht.sound op hkeep
  rw [hstep] at hstep'
  cases hstep'
  refine ⟨t', hstep, hp.accounted, hsound, fun o ho => ?_⟩
  have hold : ∃ l c, t.replication.lineages.get? key = some l ∧ l.current = some c ∧ o ≤ c := by
    rcases hp.commit with heq | ⟨l, c, hl, hc, heq⟩
    · rw [heq] at ho
      exact ht.commit o ho
    · rw [ho] at heq
      cases heq
      rw [ht.sound.follows.key_eq] at hl
      exact ⟨l, o, hl, hc, le_rfl⟩
  obtain ⟨l, c, hl, hc, hle⟩ := hold
  obtain ⟨l', hl', hchange⟩ := hp.change key hkeep l hl
  obtain ⟨c', hc', hle'⟩ := hchange.current_le hc
  exact ⟨l', c', hl', hc', hle.trans hle'⟩

theorem run_beside (key : ReplicationLineageKey) (clientLimits : ClientAggregateLimits)
    (limits : PredictionLimits) (ops : List (PredictionOp S D E I R))
    (hkeep : ∀ op ∈ ops, op.Keeps key) :
    ∃ t, run key clientLimits limits ops = .ok t ∧ Beside key t := by
  induction ops using List.reverseRecOn with
  | nil =>
    exact ⟨_, rfl, ⟨ClientReplicationSet.sound_new _, PredictionLineage.budgeted_new _ _⟩,
      sound_start _ _ _, fun o ho => by cases ho⟩
  | append_singleton ops op ih =>
    obtain ⟨t, hrun, ht⟩ := ih fun o ho => hkeep o (List.mem_append_left _ ho)
    obtain ⟨t', hstep, ht'⟩ := ht.step op (hkeep op (by simp))
    refine ⟨t', ?_, ht'⟩
    rw [run, List.foldlM_append, ← run, hrun, Checked.ok_bind, List.foldlM_cons, hstep]
    rfl

omit [DecidableEq I] in
theorem Beside.trails (ht : Beside key t) (l : ClientLineage S)
    (hl : t.replication.lineages.get? t.prediction.key = some l) :
    t.prediction.Trails l ∧ l.Sound := by
  rw [ht.sound.follows.key_eq] at hl
  refine ⟨⟨fun o c ho hc => ?_, fun f tick hf htick => ?_⟩, ht.accounted.replication.lineage _ _ hl⟩
  · obtain ⟨m, d, hm, hd, hle⟩ := ht.commit o ho
    rw [hl] at hm
    cases hm
    rw [hc] at hd
    cases hd
    exact hle
  · obtain ⟨m, u, hm, hu, hle⟩ := ht.sound.follows.frontier f hf
    rw [hl] at hm
    cases hm
    rw [htick] at hu
    cases hu
    exact hle

/-- Local inputs admitted one after the other. -/
def admitAll (p : PredictionLineage I) (inputs : List (SimulationTick × I × Nat)) :
    PredictionLineage I := inputs.foldl (fun p a => (p.admitLocal a.1 a.2.1 a.2.2).2) p

theorem admitAll_pending (p : PredictionLineage I) (inputs : List (SimulationTick × I × Nat)) :
    ∃ pending bytes, admitAll p inputs = { p with pending := pending, pendingBytes := bytes } := by
  induction inputs generalizing p with
  | nil => exact ⟨_, _, rfl⟩
  | cons a inputs ih =>
    obtain ⟨pending, bytes, heq⟩ := p.admitLocal_pending a.1 a.2.1 a.2.2
    obtain ⟨pending', bytes', heq'⟩ := ih (p.admitLocal a.1 a.2.1 a.2.2).2
    refine ⟨pending', bytes', ?_⟩
    rw [admitAll, List.foldl_cons, ← admitAll, heq', heq]

/-- The prediction is accounted for, and an observation of the lineage reconciles what is new and
is repeated without an effect, whatever was admitted in between. -/
structure Frontier (R : Type) (t : PredictionRun S I) : Prop where
  budgeted : t.prediction.Budgeted
  reconciled : ∀ l frontier cursor tick (replay : SimulationTick → I → Except R Unit),
    t.replication.lineages.get? t.prediction.key = some l →
    t.prediction.state = .active frontier → ¬ t.prediction.Unobserved l →
    l.state = .synchronized → l.current = some cursor →
    (∀ o, t.prediction.lastObservedCommit = some o → o < cursor) →
    l.currentTick = some tick → frontier ≤ tick →
    PredictionLineage.Reconciled t.prediction cursor tick replay
      (t.prediction.observeReplication t.replication replay)
  retired : ∀ tick target, (t.prediction.retire tick).get? target =
    if target ≤ tick then none else t.prediction.pending.get? target
  ascending : ∀ tick, (t.prediction.remaining tick).Pairwise fun a b => a.1 < b.1
  again : ∀ frontier (replay replay' : SimulationTick → I → Except R Unit)
    (inputs : List (SimulationTick × I × Nat)),
    (t.prediction.observeReplication t.replication replay).lineage.state = .active frontier →
    ∃ result, (admitAll (t.prediction.observeReplication t.replication replay).lineage
        inputs).observeReplication t.replication replay'
      = ⟨result, [], admitAll (t.prediction.observeReplication t.replication replay).lineage inputs⟩

theorem Accounted.frontier (ht : t.Accounted) : t.Frontier R where
  budgeted := ht.prediction
  reconciled := fun l frontier cursor tick replay hl hstate hseen hsync hcur hnew htick hle =>
    PredictionLineage.observe_newCommit ht.prediction hl hstate hseen hsync hcur hnew htick hle replay
  retired := t.prediction.get?_retire
  ascending := t.prediction.remaining_ascending
  again := fun frontier replay replay' inputs hactive => by
    have hkey := (ht.prediction.observeReplication t.replication replay).onward.key_eq
    obtain ⟨pending, bytes, heq⟩ := admitAll_pending
      (t.prediction.observeReplication t.replication replay).lineage inputs
    rw [heq]
    cases hl : t.replication.lineages.get? t.prediction.key with
    | none =>
      refine ⟨.error .replicationLineageMissing, ?_⟩
      rw [PredictionLineage.observeReplication]
      simp only [hkey, hl]
    | some l =>
      have hidle := PredictionLineage.observeReplication_idle ht.prediction hl replay hactive
      have hidle' : ({ (t.prediction.observeReplication t.replication replay).lineage with
          pending := pending, pendingBytes := bytes } : PredictionLineage I).Idle l :=
        ⟨hidle.seen, hidle.synchronized, hidle.live, hidle.followed⟩
      exact hidle'.observe (by rw [← hl, ← hkey]) replay'

/-- What cannot happen beside a lineage that stays. -/
structure Undisturbed (R : Type) (t : PredictionRun S I) : Prop where
  observe : ∀ replay : SimulationTick → I → Except R Unit,
    ¬ PredictionLineage.Impossible (t.prediction.observeReplication t.replication replay).result
  confirm : ∀ r p', t.prediction.confirmHostRestoredAfterPredictionFailure t.replication
    = .ok (r, p') → r ≠ .error .missingCommittedTick ∧ r ≠ .error .frontierRegression
  frontier : ∀ l frontier tick, t.replication.lineages.get? t.prediction.key = some l →
    t.prediction.frontier = some frontier → l.currentTick = some tick → frontier ≤ tick
  again : ∀ l frontier (replay replay' : SimulationTick → I → Except R Unit)
    (inputs : List (SimulationTick × I × Nat)),
    t.replication.lineages.get? t.prediction.key = some l →
    (t.prediction.observeReplication t.replication replay).lineage.state = .active frontier →
    (admitAll (t.prediction.observeReplication t.replication replay).lineage
        inputs).observeReplication t.replication replay'
      = ⟨.ok .noAuthoritativeCommit, [],
        admitAll (t.prediction.observeReplication t.replication replay).lineage inputs⟩

theorem Beside.undisturbed (ht : Beside key t) : t.Undisturbed R where
  observe := PredictionLineage.observeReplication_possible ht.accounted.prediction ht.trails
  confirm := fun _ _ => PredictionLineage.confirm_possible ht.trails
  frontier := fun l _ _ hl => (ht.trails l hl).1.frontier _ _
  again := fun l frontier replay replay' inputs hl hactive => by
    have hkey := (ht.accounted.prediction.observeReplication t.replication replay).onward.key_eq
    obtain ⟨t', hstep, ht'⟩ := ht.step
      (.observeReplication replay : PredictionOp S Unit Unit I R) trivial
    cases hstep
    obtain ⟨htrails, hsound⟩ := ht'.trails l (by rw [← hl]; exact congrArg _ hkey)
    have hidle := PredictionLineage.observeReplication_idle ht.accounted.prediction hl replay hactive
    obtain ⟨pending, bytes, heq⟩ := admitAll_pending
      (t.prediction.observeReplication t.replication replay).lineage inputs
    rw [heq]
    have hidle' : ({ (t.prediction.observeReplication t.replication replay).lineage with
        pending := pending, pendingBytes := bytes } : PredictionLineage I).Idle l :=
      ⟨hidle.seen, hidle.synchronized, hidle.live, hidle.followed⟩
    exact hidle'.observe_quiet (by rw [← hl, ← hkey]) ⟨htrails.commit, htrails.frontier⟩ hsound
      replay'

/-- In every run the prediction is accounted for, reconciles each new commit and moves its frontier
forward until it has ended for good; in a run that never removes the client lineage nothing finds
that lineage behind the prediction. -/
theorem prediction_frontier (key : ReplicationLineageKey) (clientLimits : ClientAggregateLimits)
    (limits : PredictionLimits) (ops : List (PredictionOp S D E I R)) :
    ∃ t, run key clientLimits limits ops = .ok t ∧ t.prediction.limits = limits ∧ t.Frontier R ∧
      (∀ more : List (PredictionOp S D E I R), ∃ t', run key clientLimits limits (ops ++ more) = .ok t' ∧
        t.prediction.Onward t'.prediction) ∧
      ((∀ op ∈ ops, op.Keeps key) → t.Undisturbed R) := by
  have hstart : (start key clientLimits limits : PredictionRun S I).Accounted :=
    ⟨ClientReplicationSet.sound_new _, PredictionLineage.budgeted_new _ _⟩
  obtain ⟨t, hrun, ht, honward⟩ := hstart.steps ops
  refine ⟨t, hrun, honward.limits_eq, ht.frontier, fun more => ?_, fun hkeep => ?_⟩
  · obtain ⟨t', hmore, -, honward'⟩ := ht.steps more
    refine ⟨t', ?_, honward'⟩
    rw [run, List.foldlM_append, hrun, Checked.ok_bind, hmore]
  · obtain ⟨u, hrun', hu⟩ := run_beside key clientLimits limits ops hkeep
    rw [run, hrun] at hrun'
    cases hrun'
    exact hu.undisturbed

end Step

end PredictionRun

end RunenNet
