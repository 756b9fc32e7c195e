import RunenNet.Core.Replication.SessionTrace
import RunenNet.Core.Replication.ClientTrace
import RunenNet.Foundation.Transition

/-!
# Replication agreement

An authority session and a client set run side by side. Emitted snapshots and cursors returned
by `acknowledgementCursor` are only ever added to the run's logs and any of them may be
delivered at any time, so losses, duplicates and reorderings are all runs. Along every run the
images of the client are the images the authority emitted.
-/

namespace RunenNet

open Foundation

variable {S D E : Type}

/-- An image the client committed. -/
structure ClientCommit (S : Type) where
  cursor : ReplicationCursor
  tick : SimulationTick
  state : S

/-- Both sides of one lineage, with everything emitted, committed and acknowledged so far. -/
structure ReplicationRun (S D : Type) where
  authority : AuthorityReplicationSession S D
  client : ClientReplicationSet S
  emissions : List (SnapshotCandidate S D)
  commits : List (ClientCommit S)
  acknowledgements : List ReplicationCursor

/-- The tick and the state of the image emitted at `c`. -/
def emittedAt (emissions : List (SnapshotCandidate S D)) (c : ReplicationCursor) :
    Option (SimulationTick × S) :=
  (emissions.find? (fun m => m.targetCursor = c)).map fun m => (m.targetTick, m.targetImage.state)

/-- The commits of an apply of a snapshot with tick `tick`. -/
def ClientReply.commits (tick : SimulationTick) : ClientReply S E → List (ClientCommit S)
  | .applied (.ok (.committed c)) states => states.map (⟨c, tick, ·⟩)
  | _ => []

theorem ClientReply.commits_eq_nil {r : Except (ClientApplyError E) ClientSnapshotOutcome}
    {states : List S} {tick : SimulationTick} (h : ∀ c, r ≠ .ok (.committed c)) :
    (ClientReply.applied r states).commits tick = [] := by
  unfold commits
  split
  · rename_i hr
    injection hr with hr _
    exact absurd hr (h _)
  · rfl

/-- The commits of an operation on the lineage at `key`. -/
def committedBy (key : ReplicationLineageKey) (op : ClientOp S D E) (reply : ClientReply S E) :
    List (ClientCommit S) :=
  match op with
  | .applyFull k snapshot _ => if k = key then reply.commits snapshot.targetTick else []
  | .applyDelta k snapshot _ _ => if k = key then reply.commits snapshot.targetTick else []
  | _ => []

namespace ReplicationRun

/-- Operations the authority may run: anything on other lineages, and on this one any lineage
operation that acknowledges only what the client returned. -/
inductive AuthorityMay (key : ReplicationLineageKey) (r : ReplicationRun S D) :
    AuthoritySessionOp S D → Prop where
  | other {op} : key.participant ≠ op.participant → AuthorityMay key r op
  | lineage {op} :
      (∀ session connection c, op = .acknowledgeAuthorized session connection c →
        c ∈ r.acknowledgements) → AuthorityMay key r (.lineage key.participant op)

/-- Operations the client may run: anything on other lineages, and on this one recovery,
eviction and emitted snapshots, deltas with a reconstruction that turns the image emitted at
the base into the target image. -/
inductive ClientMay (key : ReplicationLineageKey) (r : ReplicationRun S D) :
    ClientOp S D E → Prop where
  | other {op} : key ≠ op.key → ClientMay key r op
  | full {snapshot generation hostCommit} : .full snapshot generation ∈ r.emissions →
      ClientMay key r (.applyFull key snapshot hostCommit)
  | delta {base target tick image delta additional reconstruct hostCommit} :
      .delta base target tick image delta additional ∈ r.emissions →
      (∀ t b max result, emittedAt r.emissions base = some (t, b) →
        reconstruct b delta max = .ok result → result.state = image.state) →
      ClientMay key r (.applyDelta key ⟨base, target, tick, delta⟩ reconstruct hostCommit)
  | require : ClientMay key r (.requireConnectionReplacementFull key)
  | evict {cursor} : ClientMay key r (.evictHistorical key cursor)

/-- One step of either side. -/
inductive Step (E : Type) (key : ReplicationLineageKey) :
    ReplicationRun S D → ReplicationRun S D → Prop where
  | authority {r op reply authority'} : AuthorityMay key r op →
      r.authority.exec op = .ok (reply, authority') →
      Step E key r { r with
        authority := authority'
        emissions := r.emissions ++ r.authority.emittedBy key.participant op reply }
  | client {r reply client'} {op : ClientOp S D E} : ClientMay key r op →
      r.client.exec op = .ok (reply, client') →
      Step E key r { r with client := client', commits := r.commits ++ committedBy key op reply }
  | acknowledge {r l c} : r.client.lineages.get? key = some l →
      l.acknowledgementCursor = some c →
      Step E key r { r with acknowledgements := r.acknowledgements ++ [c] }

/-- Both lineages are new and nothing has happened. -/
def Starts (key : ReplicationLineageKey) (r : ReplicationRun S D) : Prop :=
  (∃ limits, r.authority.lineages.get? key.participant = some (.new key limits)) ∧
  (∃ limits, r.client.lineages.get? key = some (.new key limits)) ∧
  r.emissions = [] ∧ r.commits = [] ∧ r.acknowledgements = []

/-! ### The invariant -/

structure Inv (key : ReplicationLineageKey) (r : ReplicationRun S D) (t : AuthorityTrace S D)
    (l : ClientLineage S) : Prop where
  trace : t.Inv
  authority : r.authority.lineages.get? key.participant = some t.lineage
  emissions : t.emissions.map Emission.candidate = r.emissions
  confirmed : ∀ c, t.lineage.latestConfirmed = some c → c ∈ r.acknowledgements
  client : r.client.lineages.get? key = some l
  images : ∀ c i, l.retained.get? c = some i →
    emittedAt r.emissions c = some (i.tick, i.image.state)
  commits : ∀ m ∈ r.commits, emittedAt r.emissions m.cursor = some (m.tick, m.state)
  current : ∀ c, l.current = some c → ∃ m ∈ r.commits, m.cursor = c
  acknowledged : ∀ a ∈ r.acknowledgements, ∃ c, l.current = some c ∧ a ≤ c
  acknowledged_committed : ∀ a ∈ r.acknowledgements, ∃ m ∈ r.commits, m.cursor = a

theorem emittedAt_append {l l' : List (SnapshotCandidate S D)} {c : ReplicationCursor}
    {x : SimulationTick × S} (h : emittedAt l c = some x) : emittedAt (l ++ l') c = some x := by
  simp only [emittedAt, Option.map_eq_some_iff, List.find?_append] at h ⊢
  obtain ⟨m, hm, hx⟩ := h
  exact ⟨m, by rw [hm]; rfl, hx⟩

theorem emittedAt_mem {l : List (SnapshotCandidate S D)}
    (h : l.Pairwise fun a b => a.targetCursor < b.targetCursor) {m : SnapshotCandidate S D}
    (hm : m ∈ l) : emittedAt l m.targetCursor = some (m.targetTick, m.targetImage.state) := by
  induction l with
  | nil => cases hm
  | cons x xs ih =>
    obtain ⟨hx, hxs⟩ := List.pairwise_cons.mp h
    rcases List.mem_cons.mp hm with rfl | hm
    · simp [emittedAt]
    · have hne : ¬ x.targetCursor = m.targetCursor := ne_of_lt (hx m hm)
      simpa [emittedAt, hne] using ih hxs hm

theorem Inv.increasing {key : ReplicationLineageKey} {r : ReplicationRun S D}
    {t : AuthorityTrace S D} {l : ClientLineage S} (hi : Inv key r t l) :
    r.emissions.Pairwise fun a b => a.targetCursor < b.targetCursor := by
  rw [← hi.emissions, List.pairwise_map]
  exact hi.trace.increasing.imp fun h => h.1

theorem Inv.start {key : ReplicationLineageKey} {r : ReplicationRun S D} (h : Starts key r) :
    ∃ t l, Inv key r t l := by
  obtain ⟨⟨limits, ha⟩, ⟨limits', hc⟩, he, hm, hk⟩ := h
  refine ⟨.start key limits, .new key limits', ?_⟩
  exact
    { trace := AuthorityTrace.start_inv key limits
      authority := ha
      emissions := he.symm
      confirmed := nofun
      client := hc
      images := nofun
      commits := by rw [hm]; nofun
      current := nofun
      acknowledged := by rw [hk]; nofun
      acknowledged_committed := by rw [hk]; nofun }

/-- An authority step only adds emissions and confirms acknowledged cursors. -/
theorem Inv.authorityStep {key : ReplicationLineageKey} {r : ReplicationRun S D}
    {t t' : AuthorityTrace S D} {l : ClientLineage S} (hi : Inv key r t l) (ht : t'.Inv)
    {authority' : AuthorityReplicationSession S D} {emitted : List (SnapshotCandidate S D)}
    (ha : authority'.lineages.get? key.participant = some t'.lineage)
    (he : t'.emissions.map Emission.candidate = r.emissions ++ emitted)
    (hc : ∀ c, t'.lineage.latestConfirmed = some c → c ∈ r.acknowledgements) :
    Inv key { r with authority := authority', emissions := r.emissions ++ emitted } t' l where
  trace := ht
  authority := ha
  emissions := he
  confirmed := hc
  client := hi.client
  images := fun c i h => emittedAt_append (hi.images c i h)
  commits := fun m hm => emittedAt_append (hi.commits m hm)
  current := hi.current
  acknowledged := hi.acknowledged
  acknowledged_committed := hi.acknowledged_committed

theorem Inv.authority_exec {key : ReplicationLineageKey} {r : ReplicationRun S D}
    {t : AuthorityTrace S D} {l : ClientLineage S} (hi : Inv key r t l)
    {op : AuthoritySessionOp S D} (hmay : AuthorityMay key r op) {reply : AuthoritySessionReply}
    {authority' : AuthorityReplicationSession S D}
    (h : r.authority.exec op = .ok (reply, authority')) :
    ∃ t', Inv key { r with
      authority := authority'
      emissions := r.emissions ++ r.authority.emittedBy key.participant op reply } t' l := by
  cases hmay with
  | other hne =>
    refine ⟨t, hi.authorityStep hi.trace ?_ ?_ hi.confirmed⟩
    · rw [AuthorityReplicationSession.exec_frame h hne, hi.authority]
    · have : r.authority.emittedBy key.participant op reply = [] := by
        unfold AuthorityReplicationSession.emittedBy
        split
        · exact if_neg (Ne.symm hne)
        · rfl
      rw [this, List.append_nil, hi.emissions]
  | lineage hack =>
    obtain ⟨t', hexec, hl, he⟩ := AuthorityTrace.follows_execLineage hi.trace hi.authority h
    rw [hi.emissions] at he
    have hc : ∀ c, t'.lineage.latestConfirmed = some c → c ∈ r.acknowledgements := by
      intro c hc
      rcases (AuthorityTrace.exec_state hexec).1 with hkeep | ⟨s, cn, c', hop, hc'⟩
      · exact hi.confirmed c (hkeep ▸ hc)
      · rw [hc'] at hc
        cases hc
        exact hack s cn c hop
    have ht' := hi.trace.exec hexec
    rcases hl with hl | hl
    · exact ⟨t', hi.authorityStep ht' hl he hc⟩
    · have hcancel : t'.exec .cancelPending
          = .ok ⟨t'.lineage.cancelPending.2, t'.origin, t'.emissions⟩ := rfl
      exact ⟨_, hi.authorityStep (ht'.exec hcancel) hl he hc⟩

/-- A client step without a commit drops images only. -/
theorem Inv.uncommitted {key : ReplicationLineageKey} {r : ReplicationRun S D}
    {t : AuthorityTrace S D} {l l' : ClientLineage S} (hi : Inv key r t l)
    {client' : ClientReplicationSet S} (hl : client'.lineages.get? key = some l')
    (h : l.Uncommitted l') : Inv key { r with client := client' } t l' :=
  { hi with
    client := hl
    images := fun c i hc => hi.images c i (h.2 c i hc)
    current := fun c hc => hi.current c (h.1 ▸ hc)
    acknowledged := fun a ha => h.1 ▸ hi.acknowledged a ha }

/-- A commit of the image emitted at `target` keeps the invariant; the current cursor grows. -/
theorem Inv.committed {key : ReplicationLineageKey} {r : ReplicationRun S D}
    {t : AuthorityTrace S D} {l l' : ClientLineage S} (hi : Inv key r t l)
    {client' : ClientReplicationSet S} (hl : client'.lineages.get? key = some l')
    {target : ReplicationCursor} {tick : SimulationTick} {image : AccountedState S}
    (h : l.Committed l' target tick image)
    (he : emittedAt r.emissions target = some (tick, image.state)) :
    Inv key { r with
      client := client', commits := r.commits ++ [⟨target, tick, image.state⟩] } t l' :=
  { hi with
    client := hl
    images := fun c i hc => by
      rcases h.2.2 c i hc with hc | ⟨rfl, rfl⟩
      · exact hi.images c i hc
      · exact he
    commits := fun m hm => by
      rcases List.mem_append.mp hm with hm | hm
      · exact hi.commits m hm
      · rw [List.mem_singleton.mp hm]; exact he
    current := fun c hc => by
      rw [h.2.1] at hc
      cases hc
      exact ⟨_, List.mem_append_right _ List.mem_cons_self, rfl⟩
    acknowledged := fun a ha => by
      obtain ⟨c, hc, hle⟩ := hi.acknowledged a ha
      exact ⟨target, h.2.1, hle.trans (le_of_lt (h.1 c hc))⟩
    acknowledged_committed := fun a ha => by
      obtain ⟨m, hm, hc⟩ := hi.acknowledged_committed a ha
      exact ⟨m, List.mem_append_left _ hm, hc⟩ }

/-- An apply of an emitted snapshot whose produced image is the emitted one. -/
theorem Inv.applied {key : ReplicationLineageKey} {r : ReplicationRun S D}
    {t : AuthorityTrace S D} {l : ClientLineage S} (hi : Inv key r t l)
    {target : ReplicationCursor} {tick : SimulationTick} {produced : AccountedState S → Prop}
    {a : ApplyResult S E}
    (h : ClientReplicationSet.ApplyEffect r.client key l target tick produced a)
    (hp : ∀ image, produced image → emittedAt r.emissions target = some (tick, image.state))
    {commits : List (ClientCommit S)}
    (hnone : (∀ c, a.result ≠ .ok (.committed c)) → commits = [])
    (hsome : ∀ c, a.result = .ok (.committed c) → commits = a.hostCommits.map (⟨c, tick, ·⟩)) :
    ∃ l', Inv key { r with client := a.set, commits := r.commits ++ commits } t l' := by
  obtain ⟨-, l', hl, ⟨hr, hu⟩ | ⟨image, hpi, hr, hh, hc⟩⟩ := h
  · rw [hnone hr, List.append_nil]
    exact ⟨l', hi.uncommitted hl hu⟩
  · rw [hsome target hr, hh]
    exact ⟨l', hi.committed hl hc (hp image hpi)⟩

theorem Inv.client_exec {key : ReplicationLineageKey} {r : ReplicationRun S D}
    {t : AuthorityTrace S D} {l : ClientLineage S} (hi : Inv key r t l) {op : ClientOp S D E}
    (hmay : ClientMay key r op) {reply : ClientReply S E} {client' : ClientReplicationSet S}
    (h : r.client.exec op = .ok (reply, client')) :
    ∃ l', Inv key { r with
      client := client', commits := r.commits ++ committedBy key op reply } t l' := by
  cases hmay with
  | other hne =>
    have hnone : committedBy key op reply = [] := by
      unfold committedBy
      split
      · exact if_neg (Ne.symm hne)
      · exact if_neg (Ne.symm hne)
      · rfl
    rw [hnone, List.append_nil]
    refine ⟨l, hi.uncommitted ?_ (.refl l)⟩
    rw [ClientReplicationSet.exec_frame h hne, hi.client]
  | @full snapshot generation hostCommit hm =>
    simp only [ClientReplicationSet.exec, Checked.bind_eq_ok] at h
    obtain ⟨a, ha, h⟩ := h
    cases h
    refine hi.applied (ClientReplicationSet.applyFull_effect hi.client ha) ?_ ?_ ?_
    · rintro image rfl
      exact emittedAt_mem hi.increasing hm
    · intro hr
      exact (if_pos rfl).trans (ClientReply.commits_eq_nil hr)
    · intro c hr
      simp only [hr, committedBy, if_pos, ClientReply.commits]
  | @delta base target tick image delta additional reconstruct hostCommit hm hrec =>
    simp only [ClientReplicationSet.exec, Checked.bind_eq_ok] at h
    obtain ⟨a, ha, h⟩ := h
    cases h
    refine hi.applied (ClientReplicationSet.applyDelta_effect hi.client ha) ?_ ?_ ?_
    · rintro result ⟨b, max, hb, hok⟩
      rw [hrec _ _ _ _ (hi.images base b hb) hok]
      exact emittedAt_mem hi.increasing hm
    · intro hr
      exact (if_pos rfl).trans (ClientReply.commits_eq_nil hr)
    · intro c hr
      simp only [hr, committedBy, if_pos, ClientReply.commits]
  | require =>
    obtain ⟨l', hl, hu⟩ := ClientReplicationSet.exec_uncommitted h (.inl ⟨_, rfl⟩) hi.client
    have hnone : committedBy key (.requireConnectionReplacementFull key : ClientOp S D E) reply = [] :=
      rfl
    rw [hnone, List.append_nil]
    exact ⟨l', hi.uncommitted hl hu⟩
  | @evict cursor =>
    obtain ⟨l', hl, hu⟩ := ClientReplicationSet.exec_uncommitted h (.inr ⟨_, _, rfl⟩) hi.client
    have hnone : committedBy key (.evictHistorical key cursor : ClientOp S D E) reply = [] := rfl
    rw [hnone, List.append_nil]
    exact ⟨l', hi.uncommitted hl hu⟩

/-- The client returns its current cursor, which it has committed. -/
theorem Inv.acknowledge {key : ReplicationLineageKey} {r : ReplicationRun S D}
    {t : AuthorityTrace S D} {l : ClientLineage S} (hi : Inv key r t l) {c : ReplicationCursor}
    (hc : l.acknowledgementCursor = some c) :
    Inv key { r with acknowledgements := r.acknowledgements ++ [c] } t l :=
  { hi with
    confirmed := fun c' h => List.mem_append_left _ (hi.confirmed c' h)
    acknowledged := fun a ha => by
      rcases List.mem_append.mp ha with ha | ha
      · exact hi.acknowledged a ha
      · rw [List.mem_singleton.mp ha]; exact ⟨c, hc, le_refl c⟩
    acknowledged_committed := fun a ha => by
      rcases List.mem_append.mp ha with ha | ha
      · exact hi.acknowledged_committed a ha
      · rw [List.mem_singleton.mp ha]; exact hi.current c hc }

theorem Inv.step {key : ReplicationLineageKey} {r r' : ReplicationRun S D}
    {t : AuthorityTrace S D} {l : ClientLineage S} (hi : Inv key r t l) (h : Step E key r r') :
    ∃ t' l', Inv key r' t' l' := by
  cases h with
  | authority hmay hx =>
    obtain ⟨t', h'⟩ := hi.authority_exec hmay hx
    exact ⟨t', l, h'⟩
  | client hmay hx =>
    obtain ⟨l', h'⟩ := hi.client_exec hmay hx
    exact ⟨t, l', h'⟩
  | acknowledge hl hc =>
    rw [hi.client] at hl
    cases hl
    exact ⟨t, l, hi.acknowledge hc⟩

/-! ### Agreement -/

/-- What the two sides agree on. -/
structure Agreement (r : ReplicationRun S D) (a : AuthorityLineage S D) (l : ClientLineage S) :
    Prop where
  /-- At most one image was emitted at a cursor. -/
  emitted : ∀ m ∈ r.emissions,
    emittedAt r.emissions m.targetCursor = some (m.targetTick, m.targetImage.state)
  authority_images : ∀ c i, a.retained.get? c = some i →
    emittedAt r.emissions c = some (i.tick, i.image.state)
  client_images : ∀ c i, l.retained.get? c = some i →
    emittedAt r.emissions c = some (i.tick, i.image.state)
  /-- What the client shows its host was emitted at the cursor that it acknowledges. -/
  shown : ∀ state, l.currentState = some state → ∃ c tick, l.acknowledgementCursor = some c ∧
    l.currentTick = some tick ∧ emittedAt r.emissions c = some (tick, state)
  commits : ∀ m ∈ r.commits, emittedAt r.emissions m.cursor = some (m.tick, m.state)
  confirmed : ∀ c, a.latestConfirmed = some c →
    (∃ m ∈ r.commits, m.cursor = c) ∧ ∃ current, l.current = some current ∧ c ≤ current

theorem Inv.agreement {key : ReplicationLineageKey} {r : ReplicationRun S D}
    {t : AuthorityTrace S D} {l : ClientLineage S} (hi : Inv key r t l) :
    Agreement r t.lineage l where
  emitted := fun _ hm => emittedAt_mem hi.increasing hm
  authority_images := fun c i hc => by
    obtain ⟨m, hm, rfl, rfl⟩ := hi.trace.retained_emitted c i hc
    refine emittedAt_mem hi.increasing ?_
    rw [← hi.emissions]
    exact List.mem_map_of_mem hm
  client_images := hi.images
  shown := fun state hstate => by
    obtain ⟨c, i, hc, hretained, rfl⟩ := ClientLineage.currentState_eq_some.mp hstate
    refine ⟨c, i.tick, hc, ?_, hi.images c i hretained⟩
    rw [ClientLineage.currentTick, hc, Option.bind_some, hretained, Option.map_some]
  commits := hi.commits
  confirmed := fun c hc =>
    ⟨hi.acknowledged_committed c (hi.confirmed c hc), hi.acknowledged c (hi.confirmed c hc)⟩

/-- Along every run of the two sides, whatever is lost, repeated or reordered on the way, the
client's images are the emitted ones and the confirmation never runs ahead of the client. -/
theorem replication_agreement {key : ReplicationLineageKey} {r : ReplicationRun S D}
    (h : Reachable (Starts key) (Step E key) r) :
    ∃ a l, r.authority.lineages.get? key.participant = some a ∧
      r.client.lineages.get? key = some l ∧ Agreement r a l := by
  obtain ⟨t, l, hi⟩ := h.invariant (P := fun r => ∃ t l, Inv key r t l) (fun _ h => Inv.start h)
    (fun _ _ ⟨_, _, hi⟩ hs => hi.step hs)
  exact ⟨_, _, hi.authority, hi.client, hi.agreement⟩

/-! A full snapshot and a delta from it, each delivered and acknowledged. -/

def sampleStart : ReplicationRun Nat Nat where
  authority := ⟨⟨1⟩, ⟨.nearest 4, .nearest 64,
    .nearest 8, .nearest 64, .nearest 8⟩,
    .ofList [(⟨7⟩, .new AuthorityTrace.sampleKey AuthorityTrace.sampleRetention)]⟩
  client := ⟨⟨.nearest 4, .nearest 8, .nearest 64⟩,
    .ofList [(AuthorityTrace.sampleKey,
      .new AuthorityTrace.sampleKey AuthorityTrace.sampleRetention)]⟩
  emissions := []
  commits := []
  acknowledgements := []

theorem sample_reachable : ∃ r : ReplicationRun Nat Nat,
    Reachable (Starts AuthorityTrace.sampleKey) (Step Unit AuthorityTrace.sampleKey) r ∧
    r.commits.map (fun m => (m.cursor.get, m.state)) = [(1, 40), (2, 42)] := by
  have h0 : Reachable (Starts AuthorityTrace.sampleKey) (Step Unit AuthorityTrace.sampleKey)
      sampleStart := .start ⟨⟨_, rfl⟩, ⟨_, rfl⟩, rfl, rfl, rfl⟩
  have h1 := h0.next (@Step.authority _ _ _ _ _ (.lineage ⟨7⟩ (.prepareFull ⟨⟨1⟩, ⟨5⟩, ⟨40, 8⟩⟩ true))
    _ _ (.lineage nofun) rfl)
  have h2 := h1.next (@Step.authority _ _ _ _ _ (.lineage ⟨7⟩ (.recordDeliveryAcceptance .accepted))
    _ _ (.lineage nofun) rfl)
  have h3 := h2.next (@Step.client _ _ _ _ _ _ _ (.applyFull AuthorityTrace.sampleKey
    ⟨⟨1⟩, ⟨5⟩, ⟨40, 8⟩⟩ fun _ => .ok ()) (.full List.mem_cons_self) rfl)
  have h4 := h3.next (.acknowledge rfl rfl)
  have h5 := h4.next (@Step.authority _ _ _ _ _
    (.lineage ⟨7⟩ (.acknowledgeAuthorized AuthorityTrace.sampleSession ⟨3⟩ ⟨1⟩)) _ _
    (.lineage fun _ _ _ h => by cases h; exact List.mem_cons_self) rfl)
  have h6 := h5.next (@Step.authority _ _ _ _ _
    (.lineage ⟨7⟩ (.prepareDelta ⟨2⟩ ⟨6⟩ ⟨42, 8⟩ 2 1)) _ _ (.lineage nofun) rfl)
  have h7 := h6.next (@Step.authority _ _ _ _ _ (.lineage ⟨7⟩ (.recordDeliveryAcceptance .accepted))
    _ _ (.lineage nofun) rfl)
  have h8 := h7.next (@Step.client _ _ _ _ _ _ _ (.applyDelta AuthorityTrace.sampleKey
    ⟨⟨1⟩, ⟨2⟩, ⟨6⟩, 2⟩ (fun s d _ => .ok ⟨s + d, 8⟩) fun _ => .ok ())
    (.delta (List.mem_cons_of_mem _ List.mem_cons_self)
      (fun t b max result hb hr => by cases hb; cases hr; rfl)) rfl)
  exact ⟨_, h8, rfl⟩

theorem replication_agreement_sample : ∃ r : ReplicationRun Nat Nat,
    r.commits.map (fun m => (m.cursor.get, m.state)) = [(1, 40), (2, 42)] ∧
    ∃ a l, r.authority.lineages.get? ⟨7⟩ = some a ∧
      r.client.lineages.get? AuthorityTrace.sampleKey = some l ∧ Agreement r a l := by
  obtain ⟨r, hr, hc⟩ := sample_reachable
  exact ⟨r, hc, replication_agreement hr⟩

end ReplicationRun

end RunenNet
