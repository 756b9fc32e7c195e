import RunenNet.Core.Input.PredictionRun

/-!
# What a prediction may replay and when it becomes active again

A prediction learns of a recovery only when it observes its lineage, so it can lag: the lineage
has recorded a boundary newer than the last one observed. The invariant says that there is a lag
while an active prediction's lineage needs a full snapshot, and that a pending input may
still be replayed or there is a lag. An observation that finds a lag drops the pending inputs before it replays.
-/

namespace RunenNet

open Foundation

/-! ### One prediction -/

namespace PredictionLineage

variable {I S R : Type}

/-- Invalid predictions hold no pending inputs. -/
def Tidy (p : PredictionLineage I) : Prop :=
  ∀ reason frontier, p.state = .invalidated reason frontier → p.pending = .empty

/-- `p'` is `p` after its pending inputs were dropped. -/
structure Dropped (p p' : PredictionLineage I) : Prop where
  key : p'.key = p.key
  pending : p'.pending = .empty
  invalidated : ∃ reason frontier, p'.state = .invalidated reason frontier
  frontier : ∀ f, p'.frontier = some f → p.frontier = some f
  commit : p'.lastObservedCommit = p.lastObservedCommit

theorem Dropped.tidy {p p' : PredictionLineage I} (h : p.Dropped p') : p'.Tidy :=
  fun _ _ _ => h.pending

@[simp] theorem frontier_invalidate (p : PredictionLineage I)
    (reason : PredictionInvalidationReason) : (p.invalidate reason).frontier = p.frontier := rfl

theorem invalidate_dropped (p : PredictionLineage I) (reason : PredictionInvalidationReason) :
    p.Dropped (p.invalidate reason) := ⟨rfl, rfl, ⟨_, _, rfl⟩, fun _ h => h, rfl⟩

theorem terminate_dropped (p : PredictionLineage I) (reason : PredictionInvalidationReason) :
    p.Dropped (p.terminate reason) := ⟨rfl, rfl, ⟨_, _, rfl⟩, fun _ h => (by cases h), rfl⟩

theorem terminal_invalidated {p : PredictionLineage I} {terminal : PredictionInvalidationReason}
    (h : p.terminalReason = some terminal) : ∃ frontier, p.state = .invalidated terminal frontier := by
  unfold terminalReason at h
  cases hs : p.state with
  | active f =>
    rw [hs] at h
    cases h
  | invalidated reason f =>
    simp only [hs] at h
    split at h
    · cases h
      exact ⟨f, rfl⟩
    · cases h

theorem invalidateUnlessTerminal_dropped {p : PredictionLineage I} (htidy : p.Tidy)
    (reason : PredictionInvalidationReason) : p.Dropped (p.invalidateUnlessTerminal reason) := by
  unfold invalidateUnlessTerminal
  cases ht : p.terminalReason with
  | none => exact p.invalidate_dropped reason
  | some terminal =>
    obtain ⟨f, hs⟩ := terminal_invalidated ht
    exact ⟨rfl, htidy terminal f hs, ⟨terminal, f, hs⟩, fun _ h => h, rfl⟩

@[simp] theorem invalidateUnlessTerminal_boundary (p : PredictionLineage I)
    (reason : PredictionInvalidationReason) :
    (p.invalidateUnlessTerminal reason).lastObservedRecoveryBoundary =
      p.lastObservedRecoveryBoundary := by
  unfold invalidateUnlessTerminal
  split <;> rfl

/-- Recording a boundary does not matter to what is dropped. -/
theorem recovery_dropped {p : PredictionLineage I} (htidy : p.Tidy)
    (boundary : Option ReplicationCursor) (reason : ClientRecoveryReason) :
    p.Dropped (({ p with lastObservedRecoveryBoundary := boundary }).invalidateForRecovery
      reason) :=
  have hd := invalidateUnlessTerminal_dropped
    (p := { p with lastObservedRecoveryBoundary := boundary }) htidy (.replicationRecovery reason)
  ⟨hd.key, hd.pending, hd.invalidated, hd.frontier, hd.commit⟩

theorem noteBoundary_eq (p : PredictionLineage I) (lineage : ClientLineage S) :
    p.noteBoundary lineage = { p with
      lastObservedRecoveryBoundary :=
        lineage.recoveryCursor.or p.lastObservedRecoveryBoundary } := by
  unfold noteBoundary ClientLineage.recoveryCursor
  cases lineage.latestRecoveryBoundary with
  | none => rfl
  | some b => rfl

/-! ### The first part of an observation -/

/-- A lag is noticed, drops the pending inputs and is gone; without one nothing changes. -/
theorem observeBoundary_cases (p : PredictionLineage I) (lineage : ClientLineage S) :
    (¬ p.Unobserved lineage ∧ p.observeBoundary lineage = (false, p)) ∨
      (p.Unobserved lineage ∧ ∃ b reason, lineage.recoveryCursor = some b ∧
        p.observeBoundary lineage = (true,
          ({ p with lastObservedRecoveryBoundary := some b }).invalidateForRecovery reason)) := by
  unfold observeBoundary Unobserved ClientLineage.recoveryCursor
  cases lineage.latestRecoveryBoundary with
  | none =>
    refine .inl ⟨?_, rfl⟩
    rintro ⟨b, hb, -⟩
    cases hb
  | some b =>
    by_cases hall :
        p.lastObservedRecoveryBoundary.all (fun lastObserved => b.1 > lastObserved) = true
    · refine .inr ⟨⟨b.1, rfl, fun o ho => ?_⟩, b.1, b.2, rfl, if_pos hall⟩
      simpa [ho] using hall
    · refine .inl ⟨fun h => hall ?_, if_neg hall⟩
      obtain ⟨b', hb', hlt⟩ := h
      cases hb'
      cases ho : p.lastObservedRecoveryBoundary with
      | none => rfl
      | some o => simpa using hlt o ho

/-- After the first part there is no lag. -/
theorem observeBoundary_seen (p : PredictionLineage I) (lineage : ClientLineage S) :
    ¬ (p.observeBoundary lineage).2.Unobserved lineage := by
  rcases p.observeBoundary_cases lineage with ⟨hno, heq⟩ | ⟨-, b, reason, hb, heq⟩
  · rw [heq]
    exact hno
  · rw [heq]
    rintro ⟨b', hb', hlt⟩
    rw [hb] at hb'
    cases hb'
    exact lt_irrefl b (hlt b (invalidateUnlessTerminal_boundary _ _))

theorem observeBoundary_spec {p : PredictionLineage I} (htidy : p.Tidy)
    (lineage : ClientLineage S) :
    (¬ p.Unobserved lineage ∧ (p.observeBoundary lineage).2 = p) ∨
      (p.Unobserved lineage ∧ p.Dropped (p.observeBoundary lineage).2 ∧
        (p.observeBoundary lineage).2.lastObservedRecoveryBoundary = lineage.recoveryCursor) := by
  rcases p.observeBoundary_cases lineage with ⟨hno, heq⟩ | ⟨hlag, b, reason, hb, heq⟩
  · exact .inl ⟨hno, by rw [heq]⟩
  · refine .inr ⟨hlag, ?_, ?_⟩
    · rw [heq]
      exact recovery_dropped htidy (some b) reason
    · rw [heq, hb]
      exact invalidateUnlessTerminal_boundary _ _

/-! ### The second part of an observation -/

/-- What an observation does to a prediction `p` that has seen the boundary of `lineage`. Only
`activated` makes it active. -/
inductive Observed (p : PredictionLineage I) (lineage : ClientLineage S) : Observation I R → Prop
  | kept {result : Except (PredictionReconciliationError R) PredictionReconciliationOutcome}
      {commit : Option ReplicationCursor} (hresult : PredictionRun.outcomeEvents result = ([] : List (PredictionEvent I)))
      (hno : ¬ (p.NewCommit lineage ∧ p.awaitsBaseline = true)) :
      Observed p lineage ⟨result, [], { p with lastObservedCommit := commit }⟩
  | dropped {reason : ClientRecoveryReason} (hrequired : lineage.state ≠ .synchronized) :
      Observed p lineage
        ⟨.ok (.invalidatedByRecovery reason), [], p.invalidateForRecovery reason⟩
  | activated {cursor : ReplicationCursor} {tick : SimulationTick}
      (hnew : p.NewCommit lineage) (hawaits : p.awaitsBaseline = true)
      (htick : lineage.currentTick = some tick) :
      Observed p lineage ⟨.ok (.activatedFromAuthoritative tick), [], { p with
        pending := .empty
        pendingBytes := 0
        state := .active tick
        lastObservedCommit := some cursor }⟩
  | reconciled {result : Except (PredictionReconciliationError R) PredictionReconciliationOutcome}
      {calls : List (SimulationTick × I)} {frontier tick : SimulationTick}
      {pending : SortedMap SimulationTick (PendingInput I)} {pendingBytes : Nat}
      {commit : Option ReplicationCursor}
      (hresult : PredictionRun.outcomeEvents result = ([] : List (PredictionEvent I))) (hactive : p.state = .active frontier)
      (hsync : lineage.state = .synchronized) (htick : lineage.currentTick = some tick)
      (hpending : ∀ t i, pending.get? t = some i → p.pending.get? t = some i)
      (hcalls : ∀ c ∈ calls, ∃ i, p.pending.get? c.1 = some i ∧ i.value = c.2) :
      Observed p lineage ⟨result, calls, { p with
        pending := pending
        pendingBytes := pendingBytes
        state := .active tick
        lastObservedCommit := commit }⟩
  | replayFailed {calls : List (SimulationTick × I)} {frontier tick failedTick : SimulationTick}
      {source : R} {q : PredictionLineage I} (hactive : p.state = .active frontier)
      (hsync : lineage.state = .synchronized) (htick : lineage.currentTick = some tick)
      (hq : q.frontier = some tick) (hkey : q.key = p.key)
      (hboundary : q.lastObservedRecoveryBoundary = p.lastObservedRecoveryBoundary)
      (hcalls : ∀ c ∈ calls, ∃ i, p.pending.get? c.1 = some i ∧ i.value = c.2) :
      Observed p lineage
        ⟨.error (.replayFailed failedTick source), calls, q.invalidate .replayFailure⟩

/-- The replay loop calls the callback on pending inputs only. -/
theorem replayPending_calls (replay : SimulationTick → I → Except R Unit)
    (entries : List (SimulationTick × PendingInput I)) (replayed : Nat) {c : SimulationTick × I}
    (hc : c ∈ (replayPending replay entries replayed).1) :
    ∃ i, (c.1, i) ∈ entries ∧ i.value = c.2 := by
  fun_induction replayPending replay entries replayed with
  | case1 replayed => cases hc
  | case2 tick pending rest replayed source hreplay =>
    rw [List.mem_singleton] at hc
    subst hc
    exact ⟨pending, List.mem_cons_self, rfl⟩
  | case3 tick pending rest replayed hreplay hadd =>
    rw [List.mem_singleton] at hc
    subst hc
    exact ⟨pending, List.mem_cons_self, rfl⟩
  | case4 tick pending rest replayed hreplay next hadd calls result heq ih =>
    rcases List.mem_cons.mp hc with rfl | hc
    · exact ⟨pending, List.mem_cons_self, rfl⟩
    · obtain ⟨i, hi, hv⟩ := ih (by rw [heq]; exact hc)
      exact ⟨i, List.mem_cons_of_mem _ hi, hv⟩

theorem awaitsBaseline_active {p : PredictionLineage I} {frontier : SimulationTick}
    (h : p.state = .active frontier) : p.awaitsBaseline = false := by
  unfold awaitsBaseline
  rw [h]

theorem reconcileCommitted_observed {p : PredictionLineage I} {lineage : ClientLineage S}
    {cursor : ReplicationCursor} {tick : SimulationTick} (hnew : p.NewCommit lineage)
    (htick : lineage.currentTick = some tick) (hfrontier : ∀ f, p.frontier = some f → f ≤ tick)
    (replay : SimulationTick → I → Except R Unit) :
    Observed p lineage (p.reconcileCommitted cursor tick replay) := by
  have hno : ¬ p.frontier.any (fun frontier => tick < frontier) = true := by
    intro h
    obtain ⟨f, hf, hlt⟩ := (Option.any_eq_true _ _).mp h
    exact absurd (hfrontier f hf) (not_le.mpr (of_decide_eq_true hlt))
  have hkept : p.awaitsBaseline = false → ¬ (p.NewCommit lineage ∧ p.awaitsBaseline = true) :=
    fun h hn => by rw [h] at hn; exact absurd hn.2 Bool.false_ne_true
  unfold reconcileCommitted
  rw [if_neg hno]
  split
  · rename_i reason f hstate
    split
    · exact .activated hnew (by rw [awaitsBaseline, hstate]) htick
    · exact .activated hnew (by rw [awaitsBaseline, hstate]) htick
    · rename_i hbaseline hrecovery
      refine .kept rfl (hkept ?_)
      unfold awaitsBaseline
      rw [hstate]
      split
      · rename_i heq
        cases heq
        exact absurd rfl hbaseline
      · rename_i heq
        cases heq
        exact absurd rfl (hrecovery _)
      · rfl
  · rename_i f hstate
    have hactive := awaitsBaseline_active hstate
    simp only
    split
    · exact .kept rfl (hkept hactive)
    · generalize hrest :
        ((p.pending.entries.filter fun e => e.1 ≤ tick).map Prod.fst).foldl SortedMap.erase
          p.pending = rest
      have hpending : ∀ t i, rest.get? t = some i → p.pending.get? t = some i := by
        intro t i h
        rw [← hrest] at h
        exact SortedMap.get?_of_foldl_erase h
      split
      · exact .reconciled rfl hstate hnew.1 htick hpending (fun c hc => by cases hc)
      · have hcalls : ∀ c ∈ (replayPending replay rest.entries 0).1,
            ∃ i, p.pending.get? c.1 = some i ∧ i.value = c.2 := by
          intro c hc
          obtain ⟨i, hi, hv⟩ := replayPending_calls replay _ _ hc
          exact ⟨i, hpending _ _ (SortedMap.get?_eq_some.mpr hi), hv⟩
        split
        · rename_i calls replayed heq
          rw [heq] at hcalls
          exact .reconciled rfl hstate hnew.1 htick hpending hcalls
        · rename_i calls failedTick source heq
          rw [heq] at hcalls
          exact .replayFailed hstate hnew.1 htick rfl rfl rfl hcalls
        · rename_i calls e hno heq
          rw [heq] at hcalls
          refine .reconciled ?_ hstate hnew.1 htick hpending hcalls
          cases e with
          | replayFailed failedTick source => exact absurd rfl (hno failedTick source)
          | _ => rfl

theorem awaitsBaseline_terminal {p : PredictionLineage I}
    {terminal : PredictionInvalidationReason} (h : p.terminalReason = some terminal) :
    p.awaitsBaseline = false := by
  unfold terminalReason at h
  unfold awaitsBaseline
  split
  · simp_all [PredictionInvalidationReason.isTerminal]
  · simp_all [PredictionInvalidationReason.isTerminal]
  · rfl

/-- An observation makes a prediction active exactly when, after its first part, the prediction
waits for a baseline and the commit is new. -/
theorem restarts_iff (p : PredictionLineage I) (lineage : ClientLineage S) :
    p.Restarts lineage ↔ (p.observeBoundary lineage).2.NewCommit lineage ∧
      (p.observeBoundary lineage).2.awaitsBaseline = true := by
  unfold Restarts
  rcases p.observeBoundary_cases lineage with ⟨hno, heq⟩ | ⟨hlag, b, reason, hb, heq⟩
  · rw [heq]
    constructor
    · rintro ⟨hnew, -, hawaits | hlag⟩
      · exact ⟨hnew, hawaits⟩
      · exact absurd hlag hno
    · rintro ⟨hnew, hawaits⟩
      refine ⟨hnew, ?_, .inl hawaits⟩
      cases hterm : p.terminalReason with
      | none => rfl
      | some terminal =>
        rw [awaitsBaseline_terminal hterm] at hawaits
        cases hawaits
  · rw [heq]
    cases hterm : p.terminalReason with
    | none =>
      have hrestart : ({ p with lastObservedRecoveryBoundary := some b }).invalidateForRecovery
          reason = { p with
            lastObservedRecoveryBoundary := some b
            pending := .empty
            pendingBytes := 0
            state := .invalidated (.replicationRecovery reason) p.frontier } := by
        rw [invalidateForRecovery, invalidateUnlessTerminal]
        exact if_pos (congrArg Option.isNone hterm)
      rw [hrestart]
      exact ⟨fun h => ⟨h.1, rfl⟩, fun h => ⟨h.1, rfl, .inr hlag⟩⟩
    | some terminal =>
      have hsame : ({ p with lastObservedRecoveryBoundary := some b }).invalidateForRecovery
          reason = { p with lastObservedRecoveryBoundary := some b } := by
        rw [invalidateForRecovery, invalidateUnlessTerminal]
        refine if_neg fun h => ?_
        have h' : p.terminalReason.isNone = true := h
        rw [hterm] at h'
        cases h'
      rw [hsame]
      constructor
      · rintro ⟨-, h, -⟩
        cases h
      · rintro ⟨-, h⟩
        have h' : p.awaitsBaseline = true := h
        rw [awaitsBaseline_terminal hterm] at h'
        cases h'

theorem observeCommit_observed {p : PredictionLineage I} {lineage : ClientLineage S}
    {cursor : ReplicationCursor} {tick : SimulationTick} (hsync : lineage.state = .synchronized)
    (hcur : lineage.current = some cursor) (htick : lineage.currentTick = some tick)
    (hfrontier : ∀ f, p.frontier = some f → f ≤ tick)
    (replay : SimulationTick → I → Except R Unit) :
    Observed p lineage (p.observeCommit lineage cursor replay) := by
  have hold : ∀ o, p.lastObservedCommit = some o → ¬ o < cursor →
      ¬ (p.NewCommit lineage ∧ p.awaitsBaseline = true) := by
    rintro o ho hlt ⟨⟨-, c, hc, hnew⟩, -⟩
    rw [hcur] at hc
    cases hc
    exact hlt (hnew o ho)
  unfold observeCommit
  rw [htick]
  simp only
  cases ho : p.lastObservedCommit with
  | none =>
    have hnew : p.NewCommit lineage := ⟨hsync, cursor, hcur, fun o h => by rw [ho] at h; cases h⟩
    exact reconcileCommitted_observed hnew htick hfrontier replay
  | some o =>
    simp only
    split
    · rename_i hlt
      exact .kept rfl (hold o ho (lt_asymm hlt))
    · split
      · rename_i heq
        exact .kept rfl (hold o ho (fun h => (ne_of_lt h) heq.symm))
      · rename_i hge hne
        have hnew : p.NewCommit lineage := by
          refine ⟨hsync, cursor, hcur, fun o' ho' => ?_⟩
          rw [ho] at ho'
          cases ho'
          exact lt_of_le_of_ne (not_lt.mp hge) (Ne.symm hne)
        exact reconcileCommitted_observed hnew htick hfrontier replay

theorem observeReplication_observed {p : PredictionLineage I} (htidy : p.Tidy)
    {s : ClientReplicationSet S} {lineage : ClientLineage S}
    (hl : s.lineages.get? p.key = some lineage) (hs : lineage.Sound)
    (hfrontier : ∀ f, p.frontier = some f → ∃ t, lineage.currentTick = some t ∧ f ≤ t)
    (replay : SimulationTick → I → Except R Unit) :
    Observed (p.observeBoundary lineage).2 lineage (p.observeReplication s replay) := by
  have hfrontier' : ∀ f, (p.observeBoundary lineage).2.frontier = some f →
      ∃ t, lineage.currentTick = some t ∧ f ≤ t := by
    intro f hf
    rcases observeBoundary_spec htidy lineage with ⟨-, heq⟩ | ⟨-, hd, -⟩
    · rw [heq] at hf
      exact hfrontier f hf
    · exact hfrontier f (hd.frontier f hf)
  unfold observeReplication
  rw [hl]
  simp only
  generalize p.observeBoundary lineage = o at hfrontier' ⊢
  cases hstate : lineage.state with
  | fullSnapshotRequired reason =>
    have hno : ¬ (o.2.NewCommit lineage ∧ o.2.awaitsBaseline = true) := by
      rintro ⟨⟨hsync, -⟩, -⟩
      rw [hstate] at hsync
      cases hsync
    simp only
    split
    · exact .kept rfl hno
    · split
      · exact .kept rfl hno
      · exact .dropped (by rw [hstate]; exact ClientReplicationState.noConfusion)
  | synchronized =>
    obtain ⟨cursor, hcur⟩ := hs.synchronized hstate
    obtain ⟨tick, htick⟩ := hs.currentTick hcur
    rw [hcur]
    simp only
    split
    · rename_i terminal hterm
      refine .kept rfl (fun hn => ?_)
      rw [awaitsBaseline_terminal hterm] at hn
      exact absurd hn.2 Bool.false_ne_true
    · refine observeCommit_observed hstate hcur htick (fun f hf => ?_) replay
      obtain ⟨t, ht, hle⟩ := hfrontier' f hf
      rw [htick] at ht
      cases ht
      exact hle

end PredictionLineage

/-! ### The log -/

section Log

variable {I : Type}

theorem replayable_replayed {tick : SimulationTick} {input : I} (calls : List (SimulationTick × I))
    (log : List (PredictionEvent I)) :
    Replayable tick input ((calls.map fun c => .replayed c.1 c.2) ++ log) ↔ Replayable tick input log := by
  induction calls with
  | nil => rfl
  | cons c cs ih => exact ih

theorem barrier_replayed {calls : List (SimulationTick × I)} {log : List (PredictionEvent I)}
    (hlog : Barrier log) (hlive : ∀ c ∈ calls, Replayable c.1 c.2 log) :
    Barrier (PredictionRun.replayEvents calls ++ log) := by
  unfold PredictionRun.replayEvents
  have hrev : ∀ c ∈ calls.reverse, Replayable c.1 c.2 log :=
    fun c hc => hlive c (List.mem_reverse.mp hc)
  generalize calls.reverse = cs at hrev ⊢
  induction cs with
  | nil => exact hlog
  | cons c cs ih =>
    exact ⟨(replayable_replayed cs log).mpr (hrev c List.mem_cons_self),
      ih fun d hd => hrev d (List.mem_cons_of_mem c hd)⟩

theorem noStale_replayed (calls : List (SimulationTick × I)) (log : List (PredictionEvent I)) :
    NoStaleActivation (PredictionRun.replayEvents calls ++ log) ↔ NoStaleActivation log := by
  unfold PredictionRun.replayEvents
  induction calls.reverse with
  | nil => rfl
  | cons c cs ih => exact ih

end Log

/-! ### A prediction beside its lineage -/

namespace PredictionLineage

variable {I S D E : Type}

/-- What the prediction remembers comes from the lineage at `key`. -/
structure Follows (key : ReplicationLineageKey) (s : ClientReplicationSet S)
    (p : PredictionLineage I) : Prop where
  key_eq : p.key = key
  tidy : p.Tidy
  boundary : ∀ o, p.lastObservedRecoveryBoundary = some o →
    ∃ l b, s.lineages.get? key = some l ∧ l.recoveryCursor = some b ∧ o ≤ b
  frontier : ∀ f, p.frontier = some f →
    ∃ l t, s.lineages.get? key = some l ∧ l.currentTick = some t ∧ f ≤ t
  active : ∀ f l, p.state = .active f → s.lineages.get? key = some l →
    l.state ≠ .synchronized → p.Unobserved l

variable {key : ReplicationLineageKey} {s s' : ClientReplicationSet S} {p p' : PredictionLineage I}

theorem Follows.dropped (h : Follows key s p) (hd : p.Dropped p')
    (hboundary : ∀ o, p'.lastObservedRecoveryBoundary = some o →
      ∃ l b, s.lineages.get? key = some l ∧ l.recoveryCursor = some b ∧ o ≤ b) :
    Follows key s p' where
  key_eq := hd.key.trans h.key_eq
  tidy := hd.tidy
  boundary := hboundary
  frontier := fun f hf => h.frontier f (hd.frontier f hf)
  active := by
    intro f l hf
    obtain ⟨reason, frontier, hs⟩ := hd.invalidated
    rw [hs] at hf
    cases hf

/-- Taking the lineage's boundary as observed keeps what the prediction remembers right. -/
theorem Follows.noted (h : Follows key s p) {l : ClientLineage S}
    (hl : s.lineages.get? key = some l) (o : ReplicationCursor)
    (ho : l.recoveryCursor.or p.lastObservedRecoveryBoundary = some o) :
    ∃ m b, s.lineages.get? key = some m ∧ m.recoveryCursor = some b ∧ o ≤ b := by
  cases hb : l.recoveryCursor with
  | none =>
    rw [hb] at ho
    exact h.boundary o ho
  | some b =>
    rw [hb] at ho
    cases ho
    exact ⟨l, o, hl, hb, le_refl o⟩

/-- A recovery of the lineage leaves an active prediction with a lag. -/
theorem Follows.effect (h : Follows key s p) {op : ClientOp S D E} {reply : ClientReply S E}
    (heff : ClientReplicationSet.Effect s op reply s') (hkeep : op ≠ .removeLineage key)
    (hs : s.Sound) (hb : ∀ l, s.lineages.get? key = some l → l.Bounded) : Follows key s' p where
  key_eq := h.key_eq
  tidy := h.tidy
  boundary := by
    intro o ho
    obtain ⟨l, b, hl, hlb, hle⟩ := h.boundary o ho
    obtain ⟨l', hl', hc⟩ := heff.change hkeep hl
    obtain ⟨b', hb', hle'⟩ := hc.recoveryCursor_le (hb l hl) hlb
    exact ⟨l', b', hl', hb', hle.trans hle'⟩
  frontier := by
    intro f hf
    obtain ⟨l, t, hl, ht, hle⟩ := h.frontier f hf
    obtain ⟨l', hl', hc⟩ := heff.change hkeep hl
    obtain ⟨t', ht', hle'⟩ := hc.currentTick_le ht
    exact ⟨l', t', hl', ht', hle.trans hle'⟩
  active := by
    intro f l' hf hl' hreq
    obtain ⟨l, t, hl, -, -⟩ := h.frontier f (by rw [PredictionLineage.frontier, hf])
    obtain ⟨l'', hl'', hc⟩ := heff.change hkeep hl
    rw [hl'] at hl''
    cases hl''
    by_cases hsync : l.state = .synchronized
    · obtain ⟨b', hb', hnew⟩ := hc.newer_boundary (hb l hl) (hs.lineage key l hl) hsync hreq
      refine ⟨b', hb', fun o ho => ?_⟩
      obtain ⟨m, b, hm, hmb, hle⟩ := h.boundary o ho
      rw [hl] at hm
      cases hm
      exact hle.trans_lt (hnew b hmb)
    · obtain ⟨b, hlb, hlt⟩ := h.active f l hf hl hsync
      obtain ⟨b', hb', hle⟩ := hc.recoveryCursor_le (hb l hl) hlb
      exact ⟨b', hb', fun o ho => (hlt o ho).trans_le hle⟩

/-- A lag stays until it is observed. -/
theorem Unobserved.effect {l : ClientLineage S} (h : p.Unobserved l) {op : ClientOp S D E}
    {reply : ClientReply S E} (heff : ClientReplicationSet.Effect s op reply s')
    (hkeep : op ≠ .removeLineage key) (hl : s.lineages.get? key = some l) (hb : l.Bounded) :
    ∃ l', s'.lineages.get? key = some l' ∧ p.Unobserved l' := by
  obtain ⟨b, hlb, hlt⟩ := h
  obtain ⟨l', hl', hc⟩ := heff.change hkeep hl
  obtain ⟨b', hb', hle⟩ := hc.recoveryCursor_le hb hlb
  exact ⟨l', hl', b', hb', fun o ho => (hlt o ho).trans_le hle⟩

end PredictionLineage

/-! ### Whole runs -/

namespace PredictionRun

variable {S D E I R : Type} {key : ReplicationLineageKey}

/-- The invariant of a run: a pending input may be replayed, or the prediction has yet to observe the
recovery that ended it. -/
structure Sound (key : ReplicationLineageKey) (t : PredictionRun S I) : Prop where
  replication : t.replication.Sound
  bounded : ∀ l, t.replication.lineages.get? key = some l → l.Bounded
  follows : t.prediction.Follows key t.replication
  replayable : ∀ tick i, t.prediction.pending.get? tick = some i →
    (∃ l, t.replication.lineages.get? key = some l ∧ t.prediction.Unobserved l) ∨
      Replayable tick i.value t.log
  barrier : Barrier t.log

theorem sound_start (key : ReplicationLineageKey) (clientLimits : ClientAggregateLimits)
    (limits : PredictionLimits) : Sound key (start key clientLimits limits : PredictionRun S I) where
  replication := ClientReplicationSet.sound_new clientLimits
  bounded := fun l h => by cases h
  follows := by
    refine ⟨rfl, fun _ _ _ => rfl, ?_, ?_, ?_⟩
    · intro o h
      cases h
    · intro f h
      cases h
    · intro f l h
      cases h
  replayable := fun _ _ h => by cases h
  barrier := trivial

/-- Dropping the pending inputs keeps the invariant. -/
theorem Sound.dropped {t : PredictionRun S I} (ht : Sound key t) {p' : PredictionLineage I}
    (hd : t.prediction.Dropped p') (hboundary : p'.lastObservedRecoveryBoundary =
      t.prediction.lastObservedRecoveryBoundary) {log : List (PredictionEvent I)}
    (hlog : Barrier log) : Sound key ⟨t.replication, p', log⟩ where
  replication := ht.replication
  bounded := ht.bounded
  follows := ht.follows.dropped hd (by rw [hboundary]; exact ht.follows.boundary)
  replayable := by
    intro tick i h
    rw [hd.pending] at h
    cases h
  barrier := hlog

theorem bounded_effect {s s' : ClientReplicationSet S} {op : ClientOp S D E}
    {reply : ClientReply S E} (heff : ClientReplicationSet.Effect s op reply s')
    (hkeep : op ≠ .removeLineage key) (hb : ∀ l, s.lineages.get? key = some l → l.Bounded)
    (l' : ClientLineage S) (hl' : s'.lineages.get? key = some l') : l'.Bounded := by
  cases hl : s.lineages.get? key with
  | none =>
    obtain ⟨retention, rfl⟩ := heff.appears hl hl'
    exact ClientLineage.bounded_new key retention
  | some l =>
    obtain ⟨l'', hl'', hc⟩ := heff.change hkeep hl
    rw [hl'] at hl''
    cases hl''
    exact hc.bounded (hb l hl)

/-- What a client operation adds to the log does not hide that the lineage needs a full
snapshot. -/
theorem requiredEvents_cases (s : ClientReplicationSet S) (key : ReplicationLineageKey) :
    requiredEvents s key = ([] : List (PredictionEvent I)) ∨
      (requiredEvents s key = ([.required] : List (PredictionEvent I)) ∧
        ∃ l, s.lineages.get? key = some l ∧ l.state ≠ .synchronized) := by
  unfold requiredEvents
  cases hl : s.lineages.get? key with
  | none => exact .inl rfl
  | some l =>
    by_cases hsync : l.state = .synchronized
    · exact .inl (if_pos hsync)
    · exact .inr ⟨if_neg hsync, l, rfl, hsync⟩

theorem clientEvents_cases (key : ReplicationLineageKey) (op : ClientOp S D E)
    (reply : ClientReply S E) (s : ClientReplicationSet S) :
    clientEvents key op reply s = ([] : List (PredictionEvent I)) ∨
      (∃ c, clientEvents key op reply s = ([.committed c] : List (PredictionEvent I))) ∨
      (clientEvents key op reply s = ([.required] : List (PredictionEvent I)) ∧
        ∃ l, s.lineages.get? key = some l ∧ l.state ≠ .synchronized) := by
  unfold clientEvents
  split
  · split
    · exact .inr (.inl ⟨_, rfl⟩)
    · rcases requiredEvents_cases s key with h | h
      · exact .inl h
      · exact .inr (.inr h)
  · exact .inl rfl

/-- A client operation keeps the invariant: if the lineage needs a full snapshot after it, the
inputs that could be replayed are behind a lag. -/
theorem Sound.client {t : PredictionRun S I} (ht : Sound key t) {op : ClientOp S D E}
    {reply : ClientReply S E} {s' : ClientReplicationSet S}
    (heff : ClientReplicationSet.Effect t.replication op reply s')
    (hkeep : op ≠ .removeLineage key) {events : List (PredictionEvent I)}
    (hevents : events = [] ∨ (∃ c, events = [.committed c]) ∨
      (events = [.required] ∧ ∃ l, s'.lineages.get? key = some l ∧ l.state ≠ .synchronized)) :
    Sound key ⟨s', t.prediction, events ++ t.log⟩ where
  replication := heff.sound ht.replication
  bounded := bounded_effect heff hkeep ht.bounded
  follows := ht.follows.effect heff hkeep ht.replication ht.bounded
  replayable := by
    intro tick i hi
    have hfollows := ht.follows.effect heff hkeep ht.replication ht.bounded
    rcases ht.replayable tick i hi with ⟨l, hl, hlag⟩ | hlive
    · exact .inl (hlag.effect heff hkeep hl (ht.bounded l hl))
    · rcases hevents with rfl | ⟨c, rfl⟩ | ⟨rfl, l, hl, hreq⟩
      · exact .inr hlive
      · exact .inr hlive
      · refine .inl ⟨l, hl, ?_⟩
        cases hstate : t.prediction.state with
        | active f => exact hfollows.active f l hstate hl hreq
        | invalidated reason f =>
          rw [hfollows.tidy reason f hstate] at hi
          cases hi
  barrier := by
    rcases hevents with rfl | ⟨c, rfl⟩ | ⟨rfl, -⟩
    · exact ht.barrier
    · exact ht.barrier
    · exact ht.barrier

/-- An admission happens in an active prediction, at a tick without a pending input. -/
theorem admitLocal_cases [DecidableEq I] (p : PredictionLineage I) (targetTick : SimulationTick)
    (input : I) (accountedBytes : Nat) :
    (∃ frontier bytes, p.state = .active frontier ∧
        p.admitLocal targetTick input accountedBytes = (.inputAccepted, { p with
          pending := p.pending.insert targetTick ⟨input, accountedBytes⟩
          pendingBytes := bytes })) ∨
      ∃ outcome, outcome ≠ .inputAccepted ∧
        p.admitLocal targetTick input accountedBytes = (outcome, p) := by
  unfold PredictionLineage.admitLocal
  split
  · exact .inr ⟨_, PredictionInputOutcome.noConfusion, rfl⟩
  · rename_i frontier hstate
    split
    · exact .inr ⟨_, PredictionInputOutcome.noConfusion, rfl⟩
    · split
      · split
        · exact .inr ⟨_, PredictionInputOutcome.noConfusion, rfl⟩
        · exact .inr ⟨_, PredictionInputOutcome.noConfusion, rfl⟩
      · split
        · exact .inr ⟨_, PredictionInputOutcome.noConfusion, rfl⟩
        · split
          · exact .inr ⟨_, PredictionInputOutcome.noConfusion, rfl⟩
          · split
            · exact .inr ⟨_, PredictionInputOutcome.noConfusion, rfl⟩
            · exact .inl ⟨frontier, _, hstate, rfl⟩

theorem Sound.admitted {t : PredictionRun S I} (ht : Sound key t) {frontier : SimulationTick}
    (hactive : t.prediction.state = .active frontier) (targetTick : SimulationTick) (input : I)
    (accountedBytes bytes : Nat) :
    Sound key ⟨t.replication, { t.prediction with
      pending := t.prediction.pending.insert targetTick ⟨input, accountedBytes⟩
      pendingBytes := bytes }, .admitted targetTick input :: t.log⟩ where
  replication := ht.replication
  bounded := ht.bounded
  follows := by
    refine ⟨ht.follows.key_eq, fun reason f hs => ?_, ht.follows.boundary, ht.follows.frontier,
      ht.follows.active⟩
    have hs' : t.prediction.state = .invalidated reason f := hs
    rw [hactive] at hs'
    cases hs'
  replayable := by
    intro tick i hi
    have hi' := hi
    simp only [SortedMap.get?_insert] at hi'
    split at hi'
    · rename_i htick
      cases hi'
      exact .inr (.inl ⟨htick.symm, rfl⟩)
    · rename_i htick
      rcases ht.replayable tick i hi' with hlag | hlive
      · exact .inl hlag
      · exact .inr (.inr ⟨Ne.symm htick, hlive⟩)
  barrier := ht.barrier

/-- A prediction that has seen the boundary of its lineage holds only inputs that may be
replayed. -/
theorem Sound.seen {t : PredictionRun S I} (ht : Sound key t) {l : ClientLineage S}
    (hl : t.replication.lineages.get? key = some l) :
    (t.prediction.observeBoundary l).2.Follows key t.replication ∧
      ∀ tick i, (t.prediction.observeBoundary l).2.pending.get? tick = some i →
        Replayable tick i.value t.log := by
  rcases PredictionLineage.observeBoundary_spec ht.follows.tidy l with
    ⟨hno, heq⟩ | ⟨-, hd, hboundary⟩
  · rw [heq]
    refine ⟨ht.follows, fun tick i hi => ?_⟩
    rcases ht.replayable tick i hi with ⟨l', hl', hlag⟩ | hlive
    · rw [hl] at hl'
      cases hl'
      exact absurd hlag hno
    · exact hlive
  · refine ⟨ht.follows.dropped hd fun o ho => ?_, fun tick i hi => ?_⟩
    · rw [hboundary] at ho
      exact ⟨l, o, hl, ho, le_refl o⟩
    · rw [hd.pending] at hi
      cases hi

/-- An observation replays only inputs that may be replayed. -/
theorem Sound.observed {t : PredictionRun S I} (ht : Sound key t) {l : ClientLineage S}
    (hl : t.replication.lineages.get? key = some l) {o : Observation I R}
    (ho : (t.prediction.observeBoundary l).2.Observed l o) :
    Sound key ⟨t.replication, o.lineage,
      outcomeEvents o.result ++ (replayEvents o.replayed ++ t.log)⟩ := by
  obtain ⟨hfollows, hlive⟩ := ht.seen hl
  generalize (t.prediction.observeBoundary l).2 = q at ho hfollows hlive
  -- with a synchronized lineage nothing can lag behind
  have hactive : ∀ {p : PredictionLineage I}, l.state = .synchronized → ∀ f m,
      p.state = .active f → t.replication.lineages.get? key = some m →
      m.state ≠ .synchronized → p.Unobserved m := by
    intro p hsync f m hf hm hreq
    rw [hl] at hm
    cases hm
    exact absurd hsync hreq
  have hcalled : ∀ calls : List (SimulationTick × I),
      (∀ c ∈ calls, ∃ i, q.pending.get? c.1 = some i ∧ i.value = c.2) →
      Barrier (replayEvents calls ++ t.log) := by
    intro calls hcalls
    refine barrier_replayed ht.barrier fun c hc => ?_
    obtain ⟨i, hi, hv⟩ := hcalls c hc
    rw [← hv]
    exact hlive c.1 i hi
  cases ho with
  | @kept result commit hresult hno =>
    rw [hresult]
    refine ⟨ht.replication, ht.bounded, ?_, fun tick i hi => .inr (hlive tick i hi), ht.barrier⟩
    exact ⟨hfollows.key_eq, hfollows.tidy, hfollows.boundary, hfollows.frontier, hfollows.active⟩
  | @dropped reason hrequired =>
    have hd : q.Dropped (q.invalidateForRecovery reason) :=
      PredictionLineage.invalidateUnlessTerminal_dropped hfollows.tidy _
    refine ⟨ht.replication, ht.bounded, hfollows.dropped hd fun o ho => ?_,
      fun tick i hi => ?_, ht.barrier⟩
    · rw [PredictionLineage.invalidateForRecovery,
        PredictionLineage.invalidateUnlessTerminal_boundary] at ho
      exact hfollows.boundary o ho
    · simp only [hd.pending] at hi
      cases hi
  | @activated cursor tick hnew hawaits htick =>
    refine ⟨ht.replication, ht.bounded, ⟨hfollows.key_eq, fun _ _ _ => rfl, hfollows.boundary,
      fun f hf => ?_, hactive hnew.1⟩, fun tick i hi => (by cases hi), ht.barrier⟩
    cases hf
    exact ⟨l, tick, hl, htick, le_refl tick⟩
  | @reconciled result calls frontier tick pending bytes commit hresult hstate hsync htick hpending
      hcalls =>
    rw [hresult]
    refine ⟨ht.replication, ht.bounded, ⟨hfollows.key_eq, fun _ _ hs => (by cases hs),
      hfollows.boundary, fun f hf => ?_, hactive hsync⟩, fun t' i hi => .inr ?_, hcalled calls hcalls⟩
    · cases hf
      exact ⟨l, tick, hl, htick, le_refl tick⟩
    · exact (replayable_replayed _ _).mpr (hlive t' i (hpending t' i hi))
  | @replayFailed calls frontier tick failedTick source q' hstate hsync htick hq hkey hboundary
      hcalls =>
    refine ⟨ht.replication, ht.bounded, ⟨hkey.trans hfollows.key_eq, fun _ _ _ => rfl, fun o ho => ?_,
      fun f hf => ?_, hactive hsync⟩, fun t' i hi => (by cases hi), hcalled calls hcalls⟩
    · exact hfollows.boundary o (hboundary.symm.trans ho)
    · rw [PredictionLineage.frontier_invalidate, hq] at hf
      cases hf
      exact ⟨l, tick, hl, htick, le_refl tick⟩

/-- A confirmation makes the prediction active without pending inputs, or changes nothing. -/
theorem confirm_cases {s : ClientReplicationSet S} {p : PredictionLineage I}
    (hs : s.Sound) (hp : p.Follows key s) :
    (∃ tick p', p.confirmHostRestoredAfterPredictionFailure s = .ok (.ok tick, p') ∧
        (p.hostStateFailed = true ∧ ∃ l, s.lineages.get? key = some l ∧ l.state = .synchronized) ∧
        p'.pending = .empty ∧ p'.Follows key s) ∨
      ((∃ e, p.confirmHostRestoredAfterPredictionFailure s = .ok (.error e, p)) ∧
        ¬ (p.hostStateFailed = true ∧
          ∃ l, s.lineages.get? key = some l ∧ l.state = .synchronized)) := by
  unfold PredictionLineage.confirmHostRestoredAfterPredictionFailure
  rw [hp.key_eq]
  cases hl : s.lineages.get? key with
  | none =>
    refine .inr ⟨⟨_, rfl⟩, ?_⟩
    rintro ⟨-, l, hl', -⟩
    cases hl'
  | some l =>
    simp only
    by_cases hfailed : p.hostStateFailed = true
    · rw [if_neg (not_not.mpr hfailed)]
      by_cases hsync : l.state = .synchronized
      · rw [if_neg (not_not.mpr hsync)]
        obtain ⟨cursor, hcur⟩ := (hs.lineage key l hl).synchronized hsync
        obtain ⟨tick, htick⟩ := (hs.lineage key l hl).currentTick hcur
        have hno : ¬ p.frontier.any (fun frontier => tick < frontier) = true := by
          intro h
          obtain ⟨f, hf, hlt⟩ := (Option.any_eq_true _ _).mp h
          obtain ⟨m, t, hm, hmt, hle⟩ := hp.frontier f hf
          rw [hl] at hm
          cases hm
          rw [htick] at hmt
          cases hmt
          exact absurd hle (not_le.mpr (of_decide_eq_true hlt))
        rw [htick, hcur]
        simp only [Checked.expect_some, Checked.ok_bind, Checked.pure_eq]
        rw [if_neg hno, PredictionLineage.noteBoundary_eq]
        refine .inl ⟨tick, _, rfl, ⟨hfailed, l, rfl, hsync⟩, rfl, rfl, fun _ _ _ => rfl,
          hp.noted hl, fun f hf => ?_, fun f m hf hm hreq => ?_⟩
        · cases hf
          exact ⟨l, tick, hl, htick, le_refl tick⟩
        · rw [hl] at hm
          cases hm
          exact absurd hsync hreq
      · rw [if_pos hsync]
        refine .inr ⟨⟨_, rfl⟩, ?_⟩
        rintro ⟨-, m, hm, hsync'⟩
        cases hm
        exact hsync hsync'
    · rw [if_pos hfailed]
      exact .inr ⟨⟨_, rfl⟩, fun h => hfailed h.1⟩

/-- Requiring a full snapshot through the prediction observes the boundary it records. -/
theorem require_cases {s : ClientReplicationSet S} {p : PredictionLineage I} (hs : s.Sound)
    (hb : ∀ l, s.lineages.get? key = some l → l.Bounded) (hp : p.Follows key s) :
    ∃ r p' s', p.requireConnectionReplacementFull s = (r, p', s') ∧ s'.Sound ∧
      (∀ l, s'.lineages.get? key = some l → l.Bounded) ∧ p'.Follows key s' ∧
      ((r = .ok () ∧ p'.pending = .empty) ∨ ((∃ e, r = .error e) ∧ p' = p ∧ s' = s)) := by
  unfold PredictionLineage.requireConnectionReplacementFull
    ClientReplicationSet.requireConnectionReplacementFull ClientReplicationSet.enterRecovery
  rw [hp.key_eq]
  cases hl : s.lineages.get? key with
  | none => exact ⟨_, _, _, rfl, hs, hb, hp, .inr ⟨⟨_, rfl⟩, rfl, rfl⟩⟩
  | some l =>
    have hq : (ClientReply.required (.ok ()) : ClientReply S Unit).Quiet := trivial
    have heff : ClientReplicationSet.Effect s
        (.requireConnectionReplacementFull key : ClientOp S Unit Unit) (.required (.ok ()))
        (s.setLineage key (l.enterRecovery .connectionReplacement)) :=
      .recovered hq hl .connectionReplacement
    have hkeep : (.requireConnectionReplacementFull key : ClientOp S Unit Unit) ≠
        .removeLineage key := by
      intro h
      cases h
    have hfollows := hp.effect heff hkeep hs hb
    have hl' := s.get?_setLineage_self key (l.enterRecovery .connectionReplacement)
    simp only [hl']
    rw [PredictionLineage.noteBoundary_eq]
    have hd : p.Dropped _ := PredictionLineage.recovery_dropped hp.tidy
      ((l.enterRecovery .connectionReplacement).recoveryCursor.or p.lastObservedRecoveryBoundary)
      .connectionReplacement
    refine ⟨_, _, _, rfl, heff.sound hs, bounded_effect heff hkeep hb,
      hfollows.dropped hd fun o ho => hfollows.noted hl' o ?_, .inl ⟨rfl, hd.pending⟩⟩
    rw [PredictionLineage.invalidateForRecovery,
      PredictionLineage.invalidateUnlessTerminal_boundary] at ho
    exact ho

/-! ### One step -/

theorem failureEvents_cases (p : PredictionLineage I) (failure : PredictionFailure) :
    failureEvents p failure = [] ∨ failureEvents p failure = [.failed failure] := by
  unfold failureEvents
  split
  · exact .inr rfl
  · exact .inl rfl

/-- A failure drops the pending inputs. -/
theorem Sound.failed {t : PredictionRun S I} (ht : Sound key t)
    (reason : PredictionInvalidationReason) (failure : PredictionFailure) :
    Sound key ⟨t.replication, t.prediction.invalidateUnlessTerminal reason,
        failureEvents t.prediction failure ++ t.log⟩ ∧
      (NoStaleActivation (failureEvents t.prediction failure ++ t.log) ↔
        NoStaleActivation t.log) := by
  have hd := PredictionLineage.invalidateUnlessTerminal_dropped ht.follows.tidy reason
  have hboundary := PredictionLineage.invalidateUnlessTerminal_boundary t.prediction reason
  rcases failureEvents_cases t.prediction failure with h | h
  · rw [h]
    exact ⟨ht.dropped hd hboundary ht.barrier, Iff.rfl⟩
  · rw [h]
    exact ⟨ht.dropped hd hboundary ht.barrier, Iff.rfl⟩

theorem awaits_confirmed {failure : PredictionFailure} {log : List (PredictionEvent I)} :
    Awaits failure (.confirmed :: log) ↔ failure = .connectionLoss ∧ Awaits failure log := by
  constructor
  · rintro (h | ⟨hr, h⟩)
    · cases h
    · exact ⟨not_not.mp hr, h⟩
  · rintro ⟨rfl, h⟩
    exact .inr ⟨not_not.mpr rfl, h⟩

/-- What an observation adds to the log is a stale activation exactly when it restarts the
prediction while a failure is not redeemed. -/
theorem observed_stale {p : PredictionLineage I} {l : ClientLineage S} {o : Observation I R}
    (ho : (p.observeBoundary l).2.Observed l o) (log : List (PredictionEvent I)) :
    NoStaleActivation (outcomeEvents o.result ++ (replayEvents o.replayed ++ log)) ↔
      NoStaleActivation log ∧ ¬ ((∃ failure, Awaits failure log) ∧ p.Restarts l) := by
  rw [p.restarts_iff l]
  generalize (p.observeBoundary l).2 = q at ho
  have hactive : ∀ {f : SimulationTick}, q.state = .active f →
      ¬ (q.NewCommit l ∧ q.awaitsBaseline = true) := by
    rintro f hf ⟨-, h⟩
    rw [PredictionLineage.awaitsBaseline_active hf] at h
    cases h
  have hquiet : ∀ {log' : List (PredictionEvent I)}, (NoStaleActivation log' ↔ NoStaleActivation log) →
      ¬ (q.NewCommit l ∧ q.awaitsBaseline = true) → (NoStaleActivation log' ↔ NoStaleActivation log ∧
        ¬ ((∃ failure, Awaits failure log) ∧ q.NewCommit l ∧ q.awaitsBaseline = true)) :=
    fun h hno => h.trans (and_iff_left fun hs => hno hs.2).symm
  cases ho with
  | kept hresult hno =>
    rw [hresult]
    exact hquiet Iff.rfl hno
  | dropped hrequired => exact hquiet Iff.rfl fun h => hrequired h.1.1
  | activated hnew hawaits htick =>
    constructor
    · rintro ⟨hall, hlog⟩
      refine ⟨hlog, ?_⟩
      rintro ⟨⟨failure, hf⟩, -⟩
      exact hall failure hf
    · rintro ⟨hlog, hno⟩
      exact ⟨fun failure hf => hno ⟨⟨failure, hf⟩, hnew, hawaits⟩, hlog⟩
  | reconciled hresult hstate hsync htick hpending hcalls =>
    rw [hresult]
    exact hquiet (noStale_replayed _ log) (hactive hstate)
  | replayFailed hstate hsync htick hq hkey hboundary hcalls =>
    exact hquiet (noStale_replayed _ log) (hactive hstate)

section Step

variable [DecidableEq I]

/-- A step keeps the invariant, and adds a stale activation exactly when it is stale. -/
theorem step_sound {t : PredictionRun S I} (ht : Sound key t) (op : PredictionOp S D E I R)
    (hkeep : op.Keeps key) :
    ∃ t', t.step op = .ok t' ∧ Sound key t' ∧
      (NoStaleActivation t'.log ↔ NoStaleActivation t.log ∧ ¬ t.Stale op) := by
  have hfollows := ht.follows
  -- an operation that never makes the prediction active
  have hquiet : ∀ {log : List (PredictionEvent I)} {p : Prop}, ¬ p →
      (NoStaleActivation log ↔ NoStaleActivation t.log) →
      (NoStaleActivation log ↔ NoStaleActivation t.log ∧ ¬ p) :=
    fun hp h => h.trans (and_iff_left hp).symm
  cases op with
  | client op =>
    obtain ⟨reply, s', hexec, heff⟩ := ClientReplicationSet.exec_effect ht.replication op
    have hkeep' : op ≠ .removeLineage key := by
      rintro rfl
      exact hkeep rfl
    refine ⟨⟨s', t.prediction, clientEvents t.prediction.key op reply s' ++ t.log⟩, ?_, ?_, ?_⟩
    · rw [step, hexec]
      rfl
    · rw [hfollows.key_eq]
      exact ht.client heff hkeep' (clientEvents_cases key op reply s')
    · refine hquiet not_false ?_
      rcases clientEvents_cases t.prediction.key op reply s' with h | ⟨c, h⟩ | ⟨h, -⟩
      · rw [h]
        rfl
      · rw [h]
        rfl
      · rw [h]
        rfl
  | admitLocal targetTick input bytes =>
    simp only [step]
    rcases admitLocal_cases t.prediction targetTick input bytes with
      ⟨f, nextBytes, hactive, heq⟩ | ⟨outcome, hne, heq⟩
    · rw [heq]
      exact ⟨_, rfl, ht.admitted hactive targetTick input bytes nextBytes, hquiet not_false Iff.rfl⟩
    · rw [heq]
      refine ⟨t, ?_, ht, hquiet not_false Iff.rfl⟩
      cases outcome with
      | inputAccepted => exact absurd rfl hne
      | _ => rfl
  | connectionLost =>
    obtain ⟨hsound, hlog⟩ := ht.failed .connectionLoss .connectionLoss
    exact ⟨_, rfl, hsound, hquiet not_false hlog⟩
  | localApplicationFailed =>
    obtain ⟨hsound, hlog⟩ := ht.failed .localApplicationFailure .localApplicationFailure
    exact ⟨_, rfl, hsound, hquiet not_false hlog⟩
  | participantMembershipEnded =>
    exact ⟨_, rfl, ht.dropped (PredictionLineage.terminate_dropped _ _) rfl ht.barrier,
      hquiet not_false Iff.rfl⟩
  | sessionClosed =>
    exact ⟨_, rfl, ht.dropped (PredictionLineage.terminate_dropped _ _) rfl ht.barrier,
      hquiet not_false Iff.rfl⟩
  | invalidateForRecovery reason =>
    exact ⟨_, rfl, ht.dropped (PredictionLineage.invalidateUnlessTerminal_dropped hfollows.tidy _)
      (PredictionLineage.invalidateUnlessTerminal_boundary _ _) ht.barrier,
      hquiet not_false Iff.rfl⟩
  | requireConnectionReplacementFull =>
    simp only [step]
    obtain ⟨r, p', s', heq, hs', hb', hf', ⟨rfl, hempty⟩ | ⟨⟨e, rfl⟩, rfl, rfl⟩⟩ :=
      require_cases ht.replication ht.bounded hfollows
    · rw [heq]
      have hevents := requiredEvents_cases (I := I) s' t.prediction.key
      refine ⟨_, rfl, ⟨hs', hb', hf', fun tick i hi => ?_, ?_⟩, hquiet not_false ?_⟩
      · rw [hempty] at hi
        cases hi
      · rcases hevents with h | ⟨h, -⟩
        · rw [h]
          exact ht.barrier
        · rw [h]
          exact ht.barrier
      · rcases hevents with h | ⟨h, -⟩
        · rw [h]
          rfl
        · rw [h]
          rfl
    · rw [heq]
      exact ⟨t, rfl, ht, hquiet not_false Iff.rfl⟩
  | confirmHostRestoredAfterPredictionFailure =>
    simp only [step, Stale, hfollows.key_eq]
    rcases confirm_cases ht.replication hfollows with
      ⟨tick, p', heq, hconfirm, hempty, hf'⟩ | ⟨⟨e, heq⟩, hno⟩
    · rw [heq]
      refine ⟨_, rfl, ⟨ht.replication, ht.bounded, hf', fun tick i hi => ?_, ht.barrier⟩, ?_, ?_⟩
      · rw [hempty] at hi
        cases hi
      · rintro ⟨hall, hlog⟩
        exact ⟨hlog, fun h => hall _ (awaits_confirmed.mpr ⟨rfl, h.1⟩)⟩
      · rintro ⟨hlog, hno⟩
        refine ⟨fun failure h => ?_, hlog⟩
        obtain ⟨rfl, h⟩ := awaits_confirmed.mp h
        exact hno ⟨h, hconfirm⟩
    · rw [heq]
      exact ⟨t, rfl, ht, hquiet (fun h => hno h.2) Iff.rfl⟩
  | observeReplication replay =>
    simp only [step, Stale, hfollows.key_eq]
    cases hl : t.replication.lineages.get? key with
    | none =>
      have heq : t.prediction.observeReplication t.replication replay =
          ⟨.error .replicationLineageMissing, [], t.prediction⟩ := by
        rw [PredictionLineage.observeReplication, hfollows.key_eq, hl]
      rw [heq]
      refine ⟨t, rfl, ht, hquiet ?_ Iff.rfl⟩
      rintro ⟨-, l, hl', -⟩
      cases hl'
    | some l =>
      have hfrontier : ∀ f, t.prediction.frontier = some f →
          ∃ tick, l.currentTick = some tick ∧ f ≤ tick := by
        intro f hf
        obtain ⟨m, tick, hm, htick, hle⟩ := hfollows.frontier f hf
        rw [hl] at hm
        cases hm
        exact ⟨tick, htick, hle⟩
      have ho := PredictionLineage.observeReplication_observed hfollows.tidy
        ((congrArg _ hfollows.key_eq).trans hl) (ht.replication.lineage key l hl) hfrontier replay
      refine ⟨_, rfl, ht.observed hl ho, (observed_stale ho t.log).trans ?_⟩
      refine and_congr_right fun _ => not_congr (and_congr_right fun _ => ?_)
      constructor
      · exact fun h => ⟨l, rfl, h⟩
      · rintro ⟨m, hm, h⟩
        cases hm
        exact h

theorem run_sound (key : ReplicationLineageKey) (clientLimits : ClientAggregateLimits)
    (limits : PredictionLimits) (ops : List (PredictionOp S D E I R))
    (hkeep : ∀ op ∈ ops, op.Keeps key) :
    ∃ t, run key clientLimits limits ops = .ok t ∧ Sound key t := by
  induction ops using List.reverseRecOn with
  | nil => exact ⟨_, rfl, sound_start key clientLimits limits⟩
  | append_singleton ops op ih =>
    obtain ⟨t, hrun, ht⟩ := ih fun o ho => hkeep o (List.mem_append_left _ ho)
    obtain ⟨t', hstep, ht', -⟩ := step_sound ht op (hkeep op (by simp))
    refine ⟨t', ?_, ht'⟩
    rw [run, List.foldlM_append, ← run, hrun, Checked.ok_bind, List.foldlM_cons, hstep]
    rfl

/-- The recovery barrier: whatever the order of the operations, an input that was admitted
before its lineage needed a full snapshot is never replayed after it. -/
theorem recovery_barrier (key : ReplicationLineageKey) (clientLimits : ClientAggregateLimits)
    (limits : PredictionLimits) (ops : List (PredictionOp S D E I R))
    (hkeep : ∀ op ∈ ops, op.Keeps key) :
    ∃ t, run key clientLimits limits ops = .ok t ∧ Barrier t.log := by
  obtain ⟨t, hrun, ht⟩ := run_sound key clientLimits limits ops hkeep
  exact ⟨t, hrun, ht.barrier⟩

/-- A failure that nothing has redeemed keeps the prediction invalid in exactly the runs without
a stale step. -/
theorem noStaleActivation_iff (key : ReplicationLineageKey) (clientLimits : ClientAggregateLimits)
    (limits : PredictionLimits) (ops : List (PredictionOp S D E I R))
    (hkeep : ∀ op ∈ ops, op.Keeps key) :
    ∃ t, run key clientLimits limits ops = .ok t ∧
      (NoStaleActivation t.log ↔ ∀ pre op t', pre ++ [op] <+: ops →
        run key clientLimits limits pre = .ok t' → ¬ t'.Stale op) := by
  induction ops using List.reverseRecOn with
  | nil =>
    refine ⟨_, rfl, fun _ pre op t' hpre => ?_, fun _ => trivial⟩
    simp at hpre
  | append_singleton ops op ih =>
    have hkeep' : ∀ o ∈ ops, o.Keeps key := fun o ho => hkeep o (List.mem_append_left _ ho)
    obtain ⟨t, hrun, hiff⟩ := ih hkeep'
    obtain ⟨u, hrun', ht⟩ := run_sound key clientLimits limits ops hkeep'
    rw [hrun] at hrun'
    cases hrun'
    obtain ⟨t', hstep, -, hstale⟩ := step_sound ht op (hkeep op (by simp))
    refine ⟨t', ?_, ?_⟩
    · rw [run, List.foldlM_append, ← run, hrun, Checked.ok_bind, List.foldlM_cons, hstep]
      rfl
    · rw [hstale, hiff]
      constructor
      · rintro ⟨hall, hno⟩ pre op' t₀ hpre hrun₀
        rcases List.prefix_concat_iff.mp hpre with heq | hpre'
        · obtain ⟨rfl, rfl⟩ := List.append_inj' heq rfl |>.imp id List.singleton_inj.mp
          rw [hrun] at hrun₀
          cases hrun₀
          exact hno
        · exact hall pre op' t₀ hpre' hrun₀
      · intro hall
        exact ⟨fun pre op' t₀ hpre => hall pre op' t₀ (hpre.trans (List.prefix_append _ _)),
          hall ops op t (List.prefix_refl _) hrun⟩

end Step

/-! ### A connection lost behind an unobserved commit -/

def sampleLineage : ReplicationLineageKey := ⟨⟨1⟩, ⟨7⟩⟩

def sampleClientLimits : ClientAggregateLimits := ⟨.nearest 4, .nearest 8, .nearest 256⟩

def sampleRetention : ReplicationRetentionLimits where
  maxStateImageBytes := .nearest 8
  maxRetainedImagesPerLineage := .nearest 4
  maxRetainedStateBytesPerLineage := .nearest 32
  maxCandidateBytesPerLineage := .nearest 32
  maxEmissionEvidencePerLineage := .nearest 4
  image_le_retained := Nat.le_of_ble_eq_true rfl
  image_le_candidate := Nat.le_of_ble_eq_true rfl

def sampleLimits : PredictionLimits := ⟨.nearest 4, .nearest 32, 8⟩

/-- A full snapshot of the sample lineage. -/
def sampleFull (cursor tick : Nat) : PredictionOp Nat Unit Unit Nat Unit :=
  .client (.applyFull sampleLineage ⟨⟨cursor⟩, ⟨tick⟩, ⟨cursor, 4⟩⟩ fun _ => .ok ())

/-- An active prediction whose lineage falls into recovery and leaves it again, unobserved. -/
def sampleRecovery : List (PredictionOp Nat Unit Unit Nat Unit) :=
  [.client (.addLineage sampleLineage sampleRetention), sampleFull 1 10,
    .observeReplication fun _ _ => .ok (), .admitLocal ⟨12⟩ 5 4,
    .client (.requireConnectionReplacementFull sampleLineage), sampleFull 2 11]

theorem sampleRecovery_keeps {rest : List (PredictionOp Nat Unit Unit Nat Unit)}
    (hrest : ∀ op ∈ rest, op.Keeps sampleLineage) :
    ∀ op ∈ sampleRecovery ++ rest, op.Keeps sampleLineage := by
  refine List.forall_mem_append.mpr ⟨?_, hrest⟩
  simp [sampleRecovery, sampleFull, PredictionOp.Keeps]

theorem recovery_barrier_sample :
    ∃ t, run sampleLineage sampleClientLimits sampleLimits
      (sampleRecovery ++ [.observeReplication fun _ _ => .ok ()]) = .ok t ∧ Barrier t.log :=
  recovery_barrier _ _ _ _ (sampleRecovery_keeps (by simp [PredictionOp.Keeps]))

theorem noStaleActivation_sample :
    ∃ t, run sampleLineage sampleClientLimits sampleLimits
      (sampleRecovery ++ [.connectionLost, sampleFull 3 12]) = .ok t ∧
      (NoStaleActivation t.log ↔ ∀ pre op t',
        pre ++ [op] <+: sampleRecovery ++ [.connectionLost, sampleFull 3 12] →
        run sampleLineage sampleClientLimits sampleLimits pre = .ok t' → ¬ t'.Stale op) :=
  noStaleActivation_iff _ _ _ _
    (sampleRecovery_keeps (by simp [sampleFull, PredictionOp.Keeps]))

/-- The connection is lost after the commit; the observation of that commit finds the recovery
boundary, takes it for the reason of the invalidation, and makes the prediction active. -/
theorem connection_lost_reactivated :
    ∃ t, run sampleLineage sampleClientLimits sampleLimits
      (sampleRecovery ++ [.connectionLost, .observeReplication fun _ _ => .ok ()]) = .ok t ∧
      t.prediction.state = .active ⟨11⟩ ∧
      t.log.take 3 = [.activated, .failed .connectionLoss, .committed ⟨2⟩] ∧
      ¬ NoStaleActivation t.log := by
  refine ⟨_, rfl, rfl, rfl, ?_⟩
  rintro ⟨hall, -⟩
  exact hall .connectionLoss (.inl rfl)

end PredictionRun

end RunenNet
