import RunenNet.Core.Replication.Authority

/-!
# Runs of an authority lineage

`AuthorityOp` lists the operations of a lineage and `exec` runs one. A trace remembers, beside
the lineage, what the emission history needs: the lineage each candidate was prepared in and
the generation in force when it was emitted. The lemmas say once what each operation can do.
-/

namespace RunenNet

open Foundation

inductive AuthorityOp (S D : Type) where
  | prepareFull (snapshot : FullSnapshot S) (designate : Bool)
  | prepareDelta (target : ReplicationCursor) (tick : SimulationTick) (image : AccountedState S)
      (delta : D) (additional : Nat)
  | recordDeliveryAcceptance (acceptance : DeliveryAcceptance)
  | cancelPending
  | acknowledgeAuthorized (session : Session) (connection : ConnectionHandle)
      (cursor : ReplicationCursor)
  | requireFullRecovery (reason : AuthorityRecoveryReason)
  | evictRetainedState (cursor : ReplicationCursor)
  | connectionReplaced (session : Session) (connection : ConnectionHandle)

/-- The result of an operation. -/
inductive AuthorityReply where
  | prepared (r : Except AuthorityPrepareError PendingSnapshotSummary)
  | recorded (r : Except AuthorityOperationError (Option EmittedSnapshot))
  | cancelled (r : Bool)
  | acknowledged (r : Except AuthorityOperationError AuthorityAckOutcome)
  | required (r : Except AuthorityOperationError Unit)
  | evicted (r : Except AuthorityOperationError Bool)

namespace AuthorityLineage

variable {S D : Type}

def exec (l : AuthorityLineage S D) :
    AuthorityOp S D → Checked (AuthorityReply × AuthorityLineage S D)
  | .prepareFull snapshot designate =>
    let (r, l) := l.prepareFull snapshot designate
    .ok (.prepared r, l)
  | .prepareDelta target tick image delta additional =>
    let (r, l) := l.prepareDelta target tick image delta additional
    .ok (.prepared r, l)
  | .recordDeliveryAcceptance acceptance => do
    let (r, l) ← l.recordDeliveryAcceptance acceptance
    return (.recorded r, l)
  | .cancelPending =>
    let (r, l) := l.cancelPending
    .ok (.cancelled r, l)
  | .acknowledgeAuthorized session connection cursor =>
    let (r, l) := l.acknowledgeAuthorized session connection cursor
    .ok (.acknowledged r, l)
  | .requireFullRecovery reason =>
    let (r, l) := l.requireFullRecovery reason
    .ok (.required r, l)
  | .evictRetainedState cursor => do
    let (r, l) ← l.evictRetainedState cursor
    return (.evicted r, l)
  | .connectionReplaced session connection =>
    let (r, l) := l.connectionReplaced session connection
    .ok (.required r, l)

/-! ### What preparing can do -/

/-- `candidate` passed the checks of a prepare on `l`. -/
inductive Prepares (l : AuthorityLineage S D) : SnapshotCandidate S D → Prop where
  | plain {snapshot} : Prepares l (.full snapshot none)
  | designated {snapshot reason generation watermark} :
      l.state = .fullSnapshotRequired reason generation watermark →
      (∀ w, watermark = some w → w < snapshot.targetCursor) →
      Prepares l (.full snapshot (some generation))
  | delta {base target tick image delta additional r} :
      l.state = .deltaEligible base → l.retained.get? base = some r → base < target →
      r.tick ≤ tick → Prepares l (.delta base target tick image delta additional)

theorem validateNewEmissionTarget_ok {l : AuthorityLineage S D} {cursor : ReplicationCursor}
    {tick : SimulationTick} (h : l.validateNewEmissionTarget cursor tick = .ok ()) :
    (∀ g, l.greatestEmitted = some g → g < cursor) ∧
      (∀ g, l.greatestEmittedTick = some g → g ≤ tick) := by
  unfold validateNewEmissionTarget at h
  split at h
  · cases h
  · rename_i hc
    split at h
    · cases h
    · rename_i ht
      constructor
      · intro g hg; simpa [hg] using hc
      · intro g hg; simpa [hg] using ht

/-- What a prepare leaves behind: nothing changed, or a new candidate that is newer than every
emission and passed the checks. -/
def PrepareEffect (l l' : AuthorityLineage S D)
    (r : Except AuthorityPrepareError PendingSnapshotSummary) : Prop :=
  ((∃ e, r = .error e) ∧ l' = l) ∨
  ∃ candidate, r = .ok candidate.summary ∧ l' = { l with pending := some candidate } ∧
    l.pending = none ∧ Prepares l candidate ∧
    (∀ g, l.greatestEmitted = some g → g < candidate.targetCursor) ∧
    (∀ g, l.greatestEmittedTick = some g → g ≤ candidate.targetTick)

theorem requireCandidateSlot_ok {l : AuthorityLineage S D} (h : l.requireCandidateSlot = .ok ()) :
    l.pending = none := by
  unfold requireCandidateSlot at h
  split at h
  · cases h
  · rename_i hp; simpa using hp

theorem prepareFull_effect (l : AuthorityLineage S D) (snapshot : FullSnapshot S)
    (designate : Bool) :
    PrepareEffect l (l.prepareFull snapshot designate).2 (l.prepareFull snapshot designate).1 := by
  unfold prepareFull
  split
  · exact .inl ⟨⟨_, rfl⟩, rfl⟩
  · rename_i hslot
    split
    · exact .inl ⟨⟨_, rfl⟩, rfl⟩
    · rename_i htarget
      split
      · exact .inl ⟨⟨_, rfl⟩, rfl⟩
      · split
        · exact .inl ⟨⟨_, rfl⟩, rfl⟩
        · rename_i generation hgen
          obtain ⟨hc, ht⟩ := validateNewEmissionTarget_ok htarget
          refine .inr ⟨_, rfl, rfl, requireCandidateSlot_ok hslot, ?_, hc, ht⟩
          unfold recoveryDesignation at hgen
          split at hgen
          · split at hgen
            · rename_i reason g watermark hs
              split at hgen
              · cases hgen
              · rename_i hw
                cases hgen
                exact .designated hs fun w e => by simpa [e] using hw
            · cases hgen
          · cases hgen
            exact .plain

theorem prepareDelta_effect (l : AuthorityLineage S D) (target : ReplicationCursor)
    (tick : SimulationTick) (image : AccountedState S) (delta : D) (additional : Nat) :
    PrepareEffect l (l.prepareDelta target tick image delta additional).2
      (l.prepareDelta target tick image delta additional).1 := by
  unfold prepareDelta
  split
  · exact .inl ⟨⟨_, rfl⟩, rfl⟩
  · rename_i hslot
    split
    · exact .inl ⟨⟨_, rfl⟩, rfl⟩
    · rename_i base hs
      split
      · exact .inl ⟨⟨_, rfl⟩, rfl⟩
      · rename_i r hr
        split
        · exact .inl ⟨⟨_, rfl⟩, rfl⟩
        · rename_i hlt
          split
          · exact .inl ⟨⟨_, rfl⟩, rfl⟩
          · rename_i htarget
            split
            · exact .inl ⟨⟨_, rfl⟩, rfl⟩
            · rename_i htick
              split
              · exact .inl ⟨⟨_, rfl⟩, rfl⟩
              · obtain ⟨hc, ht⟩ := validateNewEmissionTarget_ok htarget
                exact .inr ⟨_, rfl, rfl, requireCandidateSlot_ok hslot,
                  .delta hs hr (not_le.mp hlt) (not_lt.mp htick), hc, ht⟩

theorem prepareDelta_required {l : AuthorityLineage S D} {reason : AuthorityRecoveryReason}
    {generation : RecoveryGeneration} {watermark : Option ReplicationCursor}
    (h : l.state = .fullSnapshotRequired reason generation watermark) (target : ReplicationCursor)
    (tick : SimulationTick) (image : AccountedState S) (delta : D) (additional : Nat) :
    ∃ e, (l.prepareDelta target tick image delta additional).1 = .error e := by
  unfold prepareDelta
  split
  · exact ⟨_, rfl⟩
  · rw [h]
    exact ⟨_, rfl⟩

/-! ### What emitting can do -/

/-- Evictions keep everything but the images, drop images only, and spare the protected one. -/
structure Evicted (l l' : AuthorityLineage S D) : Prop where
  frame : l' = { l with retained := l'.retained, retainedBytes := l'.retainedBytes }
  subset : ∀ c r, l'.retained.get? c = some r → l.retained.get? c = some r
  spared : ∀ c, l.protectedCursor = some c → l'.retained.get? c = l.retained.get? c

theorem Evicted.refl (l : AuthorityLineage S D) : Evicted l l := ⟨rfl, fun _ _ h => h, fun _ _ => rfl⟩

theorem evictForRetention_evicted {targetBytes bound : Nat} {l l' : AuthorityLineage S D}
    {fits : Bool} (h : evictForRetention targetBytes bound l = .ok (fits, l')) : Evicted l l' := by
  induction bound generalizing l with
  | zero => cases h
  | succ bound ih =>
    rw [evictForRetention, Checked.bind_eq_ok] at h
    obtain ⟨_, -, h⟩ := h
    split at h
    · split at h
      · cases h; exact .refl _
      · rename_i evict hfind
        simp only [Checked.bind_eq_ok] at h
        obtain ⟨removed, -, bytes, -, h⟩ := h
        have hne : some evict ≠ l.protectedCursor := by simpa using List.find?_some hfind
        obtain ⟨hf, hsub, hsp⟩ := ih h
        refine ⟨hf, fun c r hc => ?_, fun c hc => ?_⟩
        · have := hsub c r hc
          rw [SortedMap.get?_erase] at this
          split at this
          · cases this
          · exact this
        · rw [hsp c hc]
          exact SortedMap.get?_erase_ne _ (fun e => hne (e ▸ hc.symm))
    · cases h; exact .refl _

/-- What recording an emission leaves behind. -/
structure Recorded (l l' : AuthorityLineage S D) (cursor : ReplicationCursor)
    (tick : SimulationTick) (image : AccountedState S) (e : EmissionEvidence) : Prop where
  frame : l' = { l with
    greatestEmitted := some cursor, greatestEmittedTick := some tick, retained := l'.retained,
    retainedBytes := l'.retainedBytes, evidence := l'.evidence }
  images : ∀ c r, l'.retained.get? c = some r →
    l.retained.get? c = some r ∨ (c = cursor ∧ r = ⟨tick, image⟩)
  spared : ∀ c, l.protectedCursor = some c → l.retained.contains c = true →
    l'.retained.contains c = true
  evidence : ∀ c e', l'.evidence.get? c = some e' →
    l.evidence.get? c = some e' ∨ (c = cursor ∧ e' = e)

theorem evictEvidence_subset {max bound : Nat} {m m' : SortedMap ReplicationCursor EmissionEvidence}
    (h : evictEvidence max bound m = .ok m') {c : ReplicationCursor} {e : EmissionEvidence}
    (hc : m'.get? c = some e) : m.get? c = some e := by
  induction bound generalizing m with
  | zero => cases h
  | succ bound ih =>
    unfold evictEvidence at h
    split at h
    · rw [Checked.bind_eq_ok] at h
      obtain ⟨oldest, -, h⟩ := h
      have := ih h
      rw [SortedMap.get?_erase] at this
      split at this
      · cases this
      · exact this
    · cases h; exact hc

theorem recordEmittedState_recorded {l l' : AuthorityLineage S D} {cursor : ReplicationCursor}
    {tick : SimulationTick} {image : AccountedState S} {kind : SnapshotKind}
    {generation : Option RecoveryGeneration}
    (h : l.recordEmittedState cursor tick image kind generation = .ok l') :
    Recorded l l' cursor tick image ⟨kind, generation⟩ := by
  simp only [recordEmittedState, retainAuthorityState, retainEmissionEvidence,
    Checked.bind_eq_ok] at h
  obtain ⟨l2, ⟨⟨fits, l1⟩, hev, h2⟩, evidence, hevd, h3⟩ := h
  obtain ⟨hf, hsub, hsp⟩ := evictForRetention_evicted hev
  -- the image is retained only when the eviction loop made room for it
  have hl2 : l2 = { l1 with retained := l2.retained, retainedBytes := l2.retainedBytes } ∧
      (l2.retained = l1.retained ∨ l2.retained = l1.retained.insert cursor ⟨tick, image⟩) := by
    cases fits with
    | false => cases h2; exact ⟨rfl, .inl rfl⟩
    | true =>
      simp only [Checked.bind_eq_ok] at h2
      obtain ⟨bytes, -, -, -, h2⟩ := h2
      cases h2
      exact ⟨rfl, .inr rfl⟩
  obtain ⟨hl2f, hl2r⟩ := hl2
  cases h3
  refine ⟨?_, fun c r hc => ?_, fun c hc hin => ?_, fun c e' hc => ?_⟩
  · rw [hl2f, hf]
  · rcases hl2r with e | e
    · exact .inl (hsub c r (e ▸ hc))
    · simp only [e, SortedMap.get?_insert] at hc
      split at hc
      · rename_i hcc; cases hc; exact .inr ⟨hcc, rfl⟩
      · exact .inl (hsub c r hc)
  · obtain ⟨r, hr⟩ := SortedMap.contains_iff.mp hin
    have h1 : l1.retained.get? c = some r := (hsp c hc).trans hr
    refine SortedMap.contains_iff.mpr ?_
    rcases hl2r with e | e
    · exact ⟨r, by simp only [e]; exact h1⟩
    · simp only [e, SortedMap.get?_insert]
      split
      · exact ⟨_, rfl⟩
      · exact ⟨r, h1⟩
  · simp only [SortedMap.get?_insert] at hc
    split at hc
    · rename_i hcc; cases hc; exact .inr ⟨hcc, rfl⟩
    · have := evictEvidence_subset hevd hc
      rw [hl2f, hf] at this
      exact .inl this

/-- The snapshot reported for an emitted candidate. -/
def emittedOf (candidate : SnapshotCandidate S D) : EmittedSnapshot :=
  ⟨candidate.kind, candidate.baseCursor, candidate.targetCursor, candidate.targetTick,
    candidate.recoveryGeneration⟩

/-- What recording a delivery acceptance leaves behind. -/
theorem recordDeliveryAcceptance_effect {l l' : AuthorityLineage S D}
    {acceptance : DeliveryAcceptance} {r : Except AuthorityOperationError (Option EmittedSnapshot)}
    (h : l.recordDeliveryAcceptance acceptance = .ok (r, l')) :
    ((∀ e, r ≠ .ok (some e)) ∧ l' = l) ∨
    ∃ candidate, l.pending = some candidate ∧ r = .ok (some (emittedOf candidate)) ∧
      Recorded { l with pending := none } l' candidate.targetCursor candidate.targetTick
        candidate.targetImage ⟨candidate.kind, candidate.recoveryGeneration⟩ := by
  unfold recordDeliveryAcceptance at h
  split at h
  · cases h; exact .inl ⟨(fun _ he => nomatch he), rfl⟩
  · split at h
    · cases h; exact .inl ⟨(fun _ he => nomatch he), rfl⟩
    · rename_i snapshot generation hp
      rw [Checked.bind_eq_ok] at h
      obtain ⟨l1, h1, h⟩ := h
      cases h
      exact .inr ⟨_, hp, rfl, recordEmittedState_recorded h1⟩
    · rename_i base target tick image delta additional hp
      rw [Checked.bind_eq_ok] at h
      obtain ⟨l1, h1, h⟩ := h
      cases h
      exact .inr ⟨_, hp, rfl, recordEmittedState_recorded h1⟩

/-! ### What recovery and acknowledgement can do -/

theorem checkedNext_lt {g g' : RecoveryGeneration} (h : RecoveryGeneration.checkedNext g = some g') :
    g < g' := by
  have := Ident.checkedAdd_eq_some h
  rw [Ident.lt_iff]
  omega

/-- `l'` is `l` after a new recovery of some generation, its images perhaps reduced and its
latest confirmation perhaps advanced. -/
def NewRecovery (l l' : AuthorityLineage S D) : Prop :=
  ∃ reason generation, l.generation < generation ∧
    l'.state = .fullSnapshotRequired reason generation l.greatestEmitted ∧
    l'.generation = generation ∧ l'.pending = none ∧ l'.greatestEmitted = l.greatestEmitted ∧
    l'.greatestEmittedTick = l.greatestEmittedTick ∧ l'.evidence = l.evidence ∧
    l'.key = l.key ∧ l'.limits = l.limits ∧
    (∀ c r, l'.retained.get? c = some r → l.retained.get? c = some r)

theorem confirm_effect (l : AuthorityLineage S D) (cursor : ReplicationCursor)
    (e : EmissionEvidence) :
    (l.confirm cursor e).2 = l ∨
    (NewRecovery l (l.confirm cursor e).2 ∧
      (l.confirm cursor e).2.latestConfirmed = some cursor ∧ ∃ base, l.state = .deltaEligible base) ∨
    (l.retained.contains cursor = true ∧
      (l.confirm cursor e).2
        = { l with latestConfirmed := some cursor, state := .deltaEligible cursor } ∧
      ∀ reason generation watermark, l.state = .fullSnapshotRequired reason generation watermark →
        e.kind = .full ∧ e.recoveryGeneration = some generation) ∨
    (∃ reason generation watermark, l.state = .fullSnapshotRequired reason generation watermark ∧
      (l.confirm cursor e).2 = { l with latestConfirmed := some cursor }) := by
  unfold confirm
  split
  · rename_i base hs
    split
    · rename_i hb
      exact .inr (.inr (.inl ⟨hb, rfl, fun _ _ _ h => by rw [hs] at h; cases h⟩))
    · split
      · exact .inl rfl
      · rename_i next hn
        exact .inr (.inl ⟨⟨_, _, checkedNext_lt hn, rfl, rfl, rfl, rfl, rfl, rfl, rfl, rfl,
          fun _ _ h => h⟩, rfl, base, hs⟩)
  · rename_i reason generation watermark hs
    split
    · rename_i hb
      refine .inr (.inr (.inl ⟨hb.2.2, rfl, fun _ _ _ h => ?_⟩))
      rw [hs] at h
      cases h
      exact ⟨hb.1, hb.2.1⟩
    · exact .inr (.inr (.inr ⟨_, _, _, hs, rfl⟩))

/-- An acknowledgement changes nothing, or it confirms a cursor that is newer than the latest
confirmation, not newer than the greatest emission, and has evidence. -/
theorem acknowledgeAuthorized_effect (l : AuthorityLineage S D) (session : Session)
    (c : ConnectionHandle) (cursor : ReplicationCursor) :
    (l.acknowledgeAuthorized session c cursor).2 = l ∨
    ∃ e, l.evidence.get? cursor = some e ∧ (∀ w, l.latestConfirmed = some w → w < cursor) ∧
      (l.acknowledgeAuthorized session c cursor).2 = (l.confirm cursor e).2 := by
  unfold acknowledgeAuthorized
  split
  · exact .inl rfl
  · split
    · exact .inl rfl
    · rename_i hdup
      split
      · exact .inl rfl
      · rename_i hstale
        split
        · exact .inl rfl
        · split
          · exact .inl rfl
          · rename_i e he
            refine .inr ⟨e, he, fun w hw => ?_, rfl⟩
            rw [hw] at hdup hstale
            have h1 : ¬ cursor < w := by simpa using hstale
            exact lt_of_le_of_ne (not_lt.mp h1) (fun e' => hdup (by rw [e']))

theorem requireFullRecovery_effect (l : AuthorityLineage S D) (reason : AuthorityRecoveryReason) :
    (l.requireFullRecovery reason).2 = l ∨
    (NewRecovery l (l.requireFullRecovery reason).2 ∧
      (l.requireFullRecovery reason).2.latestConfirmed = l.latestConfirmed) := by
  unfold requireFullRecovery
  split
  · exact .inl rfl
  · split
    · exact .inl rfl
    · rename_i next hn
      exact .inr ⟨⟨_, _, checkedNext_lt hn, rfl, rfl, rfl, rfl, rfl, rfl, rfl, rfl,
        fun _ _ h => h⟩, rfl⟩

theorem connectionReplaced_effect (l : AuthorityLineage S D) (session : Session)
    (c : ConnectionHandle) :
    (l.connectionReplaced session c).2 = l ∨
    (NewRecovery l (l.connectionReplaced session c).2 ∧
      (l.connectionReplaced session c).2.latestConfirmed = l.latestConfirmed) := by
  unfold connectionReplaced
  split
  · exact .inl rfl
  · split
    · exact .inl rfl
    · rename_i next hn
      exact .inr ⟨⟨_, _, checkedNext_lt hn, rfl, rfl, rfl, rfl, rfl, rfl, rfl, rfl,
        fun _ _ h => h⟩, rfl⟩

/-- A demand for recovery that is granted while deltas are eligible starts a new recovery. -/
theorem requireFullRecovery_ok {l l' : AuthorityLineage S D} {reason : AuthorityRecoveryReason}
    {base : ReplicationCursor} (hs : l.state = .deltaEligible base)
    (h : l.requireFullRecovery reason = (.ok (), l')) :
    ∃ g, l.generation < g ∧ l' = l.installNewRecovery reason g := by
  unfold requireFullRecovery at h
  rw [hs] at h
  simp only at h
  split at h
  · cases h
  · rename_i next hn
    cases h
    exact ⟨next, checkedNext_lt hn, rfl⟩

/-- A replacement of the connection that is granted starts a new recovery. -/
theorem connectionReplaced_ok {l l' : AuthorityLineage S D} {session : Session}
    {c : ConnectionHandle} (h : l.connectionReplaced session c = (.ok (), l')) :
    ∃ g, l.generation < g ∧ l' = l.installNewRecovery .connectionReplacement g := by
  unfold connectionReplaced at h
  split at h
  · cases h
  · split at h
    · cases h
    · rename_i next hn
      cases h
      exact ⟨next, checkedNext_lt hn, rfl⟩

theorem erase_subset {m : RetainedImages S} {cursor c : ReplicationCursor} {r : RetainedState S}
    (h : (m.erase cursor).get? c = some r) : m.get? c = some r := by
  rw [SortedMap.get?_erase] at h
  split at h
  · cases h
  · exact h

/-- An eviction changes nothing, starts a new recovery, or drops an image that is not the
delta base. -/
theorem evictRetainedState_effect {l l' : AuthorityLineage S D} {cursor : ReplicationCursor}
    {r : Except AuthorityOperationError Bool} (h : l.evictRetainedState cursor = .ok (r, l')) :
    l' = l ∨ (NewRecovery l l' ∧ l'.latestConfirmed = l.latestConfirmed) ∨
    (l.state ≠ .deltaEligible cursor ∧
      ∃ bytes, l' = { l with retained := l.retained.erase cursor, retainedBytes := bytes }) := by
  unfold evictRetainedState at h
  split at h
  · split at h
    · cases h; exact .inl rfl
    · rename_i next hn
      split at h
      · cases h; exact .inl rfl
      · simp only [Checked.bind_eq_ok] at h
        obtain ⟨bytes, -, h⟩ := h
        cases h
        exact .inr (.inl ⟨⟨_, _, checkedNext_lt hn, rfl, rfl, rfl, rfl, rfl, rfl, rfl, rfl,
          fun _ _ h => erase_subset h⟩, rfl⟩)
  · rename_i hs
    split at h
    · cases h; exact .inl rfl
    · simp only [Checked.bind_eq_ok] at h
      obtain ⟨bytes, -, h⟩ := h
      cases h
      exact .inr (.inr ⟨hs, bytes, rfl⟩)

end AuthorityLineage

/-! ### Traces -/

/-- One emission: what was reported and sent, the lineage its candidate was prepared in, and
the generation in force when it was emitted. -/
structure Emission (S D : Type) where
  candidate : SnapshotCandidate S D
  origin : AuthorityLineage S D
  during : RecoveryGeneration

/-- A lineage with its emission history, oldest first. `origin` is the lineage the pending
candidate, if any, was prepared in. -/
structure AuthorityTrace (S D : Type) where
  lineage : AuthorityLineage S D
  origin : Option (AuthorityLineage S D)
  emissions : List (Emission S D)

namespace AuthorityTrace

variable {S D : Type}

def start (key : ReplicationLineageKey) (limits : ReplicationRetentionLimits) :
    AuthorityTrace S D := ⟨.new key limits, none, []⟩

/-- The history after an operation on the lineage returned `reply` and left `l'`. -/
def record (t : AuthorityTrace S D) (reply : AuthorityReply) (l' : AuthorityLineage S D) :
    AuthorityTrace S D :=
  match reply with
  | .prepared (.ok _) => ⟨l', some t.lineage, t.emissions⟩
  | .recorded (.ok (some _)) =>
    match t.lineage.pending, t.origin with
    | some candidate, some origin =>
      ⟨l', t.origin, t.emissions ++ [⟨candidate, origin, t.lineage.generation⟩]⟩
    | _, _ => ⟨l', t.origin, t.emissions⟩
  | _ => ⟨l', t.origin, t.emissions⟩

def exec (t : AuthorityTrace S D) (op : AuthorityOp S D) : Checked (AuthorityTrace S D) := do
  let (reply, l') ← t.lineage.exec op
  return t.record reply l'

end AuthorityTrace

end RunenNet
