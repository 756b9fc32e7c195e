import RunenNet.Core.SessionRun

/-!
# Membership and authority along a run

A trace remembers, beside the session, who was admitted and which connections were lost. In every
run the maps of the session agree and nobody is admitted twice. A lost connection regains
authority only where a participant is bound again to a connection it lost before its last loss:
the record of a membership keeps the last one alone.
-/

namespace RunenNet

open Foundation

/-- A session, the participants admitted so far and the connections lost so far. -/
structure SessionTrace where
  session : Session
  admitted : List ParticipantId
  lost : List (ParticipantId × ConnectionHandle)

namespace SessionTrace

def start (id : SessionId) (limits : SessionLimits) : SessionTrace := ⟨.new id limits, [], []⟩

/-- The participant an operation admitted. -/
def admission : SessionOp → SessionReply → List ParticipantId
  | .admitNew p _, .admitted (.ok ()) => [p]
  | _, _ => []

/-- The connection an operation lost. -/
def loss : SessionOp → SessionReply → List (ParticipantId × ConnectionHandle)
  | .connectionLost p c _, .lost (.ok _) => [(p, c)]
  | _, _ => []

/-- The trace after an operation that returned `reply` and left `s`. -/
def record (t : SessionTrace) (op : SessionOp) (reply : SessionReply) (s : Session) :
    SessionTrace := ⟨s, t.admitted ++ admission op reply, t.lost ++ loss op reply⟩

def step (t : SessionTrace) (op : SessionOp) : SessionTrace :=
  t.record op (t.session.exec op).1 (t.session.exec op).2

def run (id : SessionId) (limits : SessionLimits) (ops : List SessionOp) : SessionTrace :=
  ops.foldl step (start id limits)

theorem run_snoc (id : SessionId) (limits : SessionLimits) (ops : List SessionOp)
    (op : SessionOp) : run id limits (ops ++ [op]) = (run id limits ops).step op := by
  simp only [run, List.foldl_append, List.foldl_cons, List.foldl_nil]

variable {t : SessionTrace} {op : SessionOp} {reply : SessionReply} {s' : Session}

theorem admission_refused {e : SessionError} (h : reply.error? = some e) :
    admission op reply = [] := by
  unfold admission
  split
  · cases h
  · rfl

theorem loss_refused {e : SessionError} (h : reply.error? = some e) : loss op reply = [] := by
  unfold loss
  split
  · cases h
  · rfl

/-! ### The invariant of a trace -/

structure Inv (t : SessionTrace) : Prop where
  session : t.session.Inv
  admitted_used : ∀ p ∈ t.admitted, p ∈ t.session.usedParticipants.used
  admitted_once : t.admitted.Nodup
  lost_used : ∀ p c, (p, c) ∈ t.lost → p ∈ t.session.usedParticipants.used

theorem start_inv (id : SessionId) (limits : SessionLimits) : (start id limits).Inv :=
  ⟨Session.new_inv id limits, nofun, .nil, nofun⟩

/-- Only an unused participant is admitted, and it is used from then on. -/
theorem admission_effect (h : Session.Effect t.session op reply s') :
    admission op reply = [] ∨ ∃ p, admission op reply = [p] ∧
      p ∉ t.session.usedParticipants.used ∧ p ∈ s'.usedParticipants.used := by
  cases h with
  | refused herror => exact .inl (admission_refused herror)
  | admitted _ _ _ hnew => exact .inr ⟨_, rfl, hnew, Finset.mem_insert_self _ _⟩
  | _ => exact .inl rfl

/-- Only a bound connection is lost. -/
theorem loss_effect (h : Session.Effect t.session op reply s') :
    loss op reply = [] ∨ ∃ p c, loss op reply = [(p, c)] ∧
      t.session.membershipState p = some (.bound c) ∧ s'.bindings.get? c = none := by
  cases h with
  | refused herror => exact .inl (loss_refused herror)
  | terminated _ hbound => exact .inr ⟨_, _, rfl, hbound, SortedMap.get?_erase_self _ _⟩
  | retained _ hbound => exact .inr ⟨_, _, rfl, hbound, SortedMap.get?_erase_self _ _⟩
  | _ => exact .inl rfl

theorem Inv.record (hi : t.Inv) (h : Session.Effect t.session op reply s') :
    (t.record op reply s').Inv := by
  have hsub := h.used_subset
  refine ⟨h.inv hi.session, fun p hp => ?_, ?_, fun p c hpc => ?_⟩
  · rcases List.mem_append.mp hp with hp | hp
    · exact hsub (hi.admitted_used p hp)
    · rcases admission_effect h with hnil | ⟨q, hq, -, hused⟩
      · rw [hnil] at hp
        cases hp
      · rw [hq, List.mem_singleton] at hp
        exact hp ▸ hused
  · rcases admission_effect h with hnil | ⟨q, hq, hnew, -⟩
    · simpa only [SessionTrace.record, hnil, List.append_nil] using hi.admitted_once
    · -- whoever was admitted before is used, and `q` was not
      have hfresh : q ∉ t.admitted := fun hmem => hnew (hi.admitted_used q hmem)
      simp only [SessionTrace.record, hq]
      exact List.nodup_append.mpr ⟨hi.admitted_once, List.nodup_singleton q,
        fun p hp r hr hpr => hfresh (List.mem_singleton.mp hr ▸ hpr ▸ hp)⟩
  · rcases List.mem_append.mp hpc with hpc | hpc
    · exact hsub (hi.lost_used p c hpc)
    · rcases loss_effect h with hnil | ⟨q, c', hq, hbound, -⟩
      · rw [hnil] at hpc
        cases hpc
      · rw [hq, List.mem_singleton] at hpc
        cases hpc
        obtain ⟨r, hr, -⟩ := Session.membershipState_eq_some.mp hbound
        exact hsub (hi.session.claimed p r hr)

theorem Inv.step (hi : t.Inv) (op : SessionOp) : (t.step op).Inv :=
  hi.record (hi.session.exec_effect op)

theorem run_inv (id : SessionId) (limits : SessionLimits) (ops : List SessionOp) :
    (run id limits ops).Inv := by
  induction ops using List.reverseRecOn with
  | nil => exact start_inv id limits
  | append_singleton ops op ih =>
    rw [run_snoc]
    exact ih.step op

theorem run_limits (id : SessionId) (limits : SessionLimits) (ops : List SessionOp) :
    (run id limits ops).session.limits = limits := by
  induction ops using List.reverseRecOn with
  | nil => rfl
  | append_singleton ops op ih =>
    rw [run_snoc]
    exact ((run_inv id limits ops).session.exec_effect op).limits_eq.trans ih

/-- In every state of every run the two maps agree, and every operation keeps them so. -/
theorem membership_invariant (id : SessionId) (limits : SessionLimits) (ops : List SessionOp) :
    let t := run id limits ops
    let s := t.session
    (∀ p c, s.bindings.get? c = some p ↔ s.membershipState p = some (.bound c)) ∧
    (∀ p q c d, s.isAuthorized p c → s.isAuthorized q d → (p = q ↔ c = d)) ∧
    s.memberships.size ≤ limits.maxMemberships.get ∧
    (∀ p ∈ t.admitted, s.usedParticipants.contains p) ∧ t.admitted.Nodup ∧
    (∀ p expiresAt, s.membershipState p = some (.unbound expiresAt) →
      s.recoveryClock < expiresAt) ∧
    (s.phase = .closed → s.memberships = .empty ∧ s.bindings = .empty) ∧
    ∀ op, let (reply, s') := s.exec op
      s.recoveryClock ≤ s'.recoveryClock ∧
      (∀ e, reply.error? = some e → s' = s ∧ e ≠ .membershipExpired) ∧
      (s.phase = .closed → s'.phase = .closed) := by
  intro t s
  have hi : t.Inv := run_inv id limits ops
  refine ⟨hi.session.bound_iff, fun p q c d hpc hqd => ?_, ?_, fun p hp => ?_, hi.admitted_once,
    hi.session.unexpired, hi.session.closed_empty, fun op => ?_⟩
  · have hp := (Session.isAuthorized_iff.mp hpc)
    have hq := (Session.isAuthorized_iff.mp hqd)
    constructor
    · rintro rfl
      have hstate := hp.2.symm.trans hq.2
      simpa only [Option.some.injEq, MembershipState.bound.injEq] using hstate
    · rintro rfl
      exact Option.some.inj (hp.1.symm.trans hq.1)
  · have hle := hi.session.memberships_le
    rwa [run_limits] at hle
  · exact decide_eq_true (hi.admitted_used p hp)
  · have heffect := hi.session.exec_effect op
    exact ⟨heffect.clock_le, fun e he => heffect.refused_eq he, heffect.closed_absorbs⟩

/-! ### Lost connections -/

/-- No lost connection has authority. -/
def Revoked (t : SessionTrace) : Prop :=
  ∀ p c, (p, c) ∈ t.lost → t.session.isAuthorized p c = false

/-- `op` binds an unbound participant of an open session to a free connection that it lost
earlier, not the one its record remembers. -/
def StaleRebind (t : SessionTrace) (op : SessionOp) : Prop :=
  ∃ p established r expiresAt, op = .bindReplacement p established ∧
    t.session.phase = .open ∧ t.session.bindings.get? established.connection = none ∧
    t.session.memberships.get? p = some r ∧ r.state = .unbound expiresAt ∧
    r.previousConnection ≠ some established.connection ∧ (p, established.connection) ∈ t.lost

theorem not_isAuthorized_of_unbound {s : Session} {p : ParticipantId} {c : ConnectionHandle}
    (h : s.bindings.get? c ≠ some p) : s.isAuthorized p c = false :=
  Bool.eq_false_iff.mpr fun ha => h (Session.isAuthorized_iff.mp ha).1

/-- A pair that had no authority gets it only when it is bound. -/
theorem effect_gains (h : Session.Effect t.session op reply s') {p : ParticipantId}
    {c : ConnectionHandle} (hold : t.session.bindings.get? c ≠ some p)
    (hnew : s'.bindings.get? c = some p) :
    p ∉ t.session.usedParticipants.used ∨
      ∃ established r expiresAt, op = .bindReplacement p established ∧
        established.connection = c ∧ t.session.phase = .open ∧
        t.session.bindings.get? c = none ∧ t.session.memberships.get? p = some r ∧
        r.state = .unbound expiresAt ∧ r.previousConnection ≠ some c := by
  have hinsert : ∀ {b : SortedMap ConnectionHandle ParticipantId} {d : ConnectionHandle}
      {q : ParticipantId}, b.get? c ≠ some p → (b.insert d q).get? c = some p → c = d ∧ q = p := by
    intro b d q hb hd
    rw [SortedMap.get?_insert] at hd
    split at hd
    · rename_i hcd
      exact ⟨hcd, Option.some.inj hd⟩
    · exact absurd hd hb
  have herase : ∀ {d : ConnectionHandle}, (t.session.bindings.erase d).get? c ≠ some p := by
    intro d hd
    rw [SortedMap.get?_erase] at hd
    split at hd
    · cases hd
    · exact hold hd
  cases h with
  | refused => exact absurd hnew hold
  | admitted _ _ _ hunused =>
    obtain ⟨-, rfl⟩ := hinsert hold hnew
    exact .inl hunused
  | terminated => exact absurd hnew herase
  | retained => exact absurd hnew herase
  | rebound hopen hfree hrecord hunbound hprevious =>
    obtain ⟨rfl, rfl⟩ := hinsert hold hnew
    exact .inr ⟨_, _, _, rfl, rfl, hopen, hfree, hrecord, hunbound, hprevious⟩
  | @removed q r =>
    simp only at hnew
    split at hnew
    · exact absurd hnew herase
    · exact absurd hnew hold
  | advanced => exact absurd hnew hold
  | closed => cases hnew

theorem Revoked.record (hi : t.Inv) (hr : t.Revoked) (hstale : ¬ t.StaleRebind op)
    (h : Session.Effect t.session op reply s') : (t.record op reply s').Revoked := by
  intro p c hpc
  refine not_isAuthorized_of_unbound fun hnew => ?_
  change s'.bindings.get? c = some p at hnew
  rcases List.mem_append.mp hpc with hlost | hlost
  · have hold : t.session.bindings.get? c ≠ some p := fun hb => by
      have hauth := hr p c hlost
      rw [hi.session.isAuthorized_iff_bound.mpr hb] at hauth
      cases hauth
    rcases effect_gains h hold hnew with hunused | ⟨established, r, expiresAt, rfl, rfl, hrebind⟩
    · exact hunused (hi.lost_used p c hlost)
    · obtain ⟨hopen, hfree, hrecord, hunbound, hprevious⟩ := hrebind
      exact hstale ⟨p, established, r, expiresAt, rfl, hopen, hfree, hrecord, hunbound, hprevious,
        hlost⟩
  · rcases loss_effect h with hnil | ⟨q, c', hq, -, hfree⟩
    · rw [hnil] at hlost
      cases hlost
    · rw [hq, List.mem_singleton] at hlost
      cases hlost
      rw [hfree] at hnew
      cases hnew

/-- Binding a participant again to a connection it lost before its last loss succeeds. -/
theorem StaleRebind.regains (hi : t.Inv) (h : t.StaleRebind op) : ¬ (t.step op).Revoked := by
  obtain ⟨p, established, r, expiresAt, rfl, hopen, hfree, hrecord, hunbound, hprevious, hlost⟩ := h
  have hlive := hi.session.unexpired p expiresAt
    (Session.membershipState_eq_some.mpr ⟨r, hrecord, hunbound⟩)
  have hexec : (t.session.exec (.bindReplacement p established)).2.bindings =
      t.session.bindings.insert established.connection p := by
    simp only [Session.exec, Session.bindReplacement, hopen, ne_eq, not_true_eq_false, if_false,
      SortedMap.contains_eq_false.mpr hfree, hrecord, hunbound, if_neg (not_le.mpr hlive),
      if_neg hprevious, Bool.false_eq_true]
  intro hr
  have hauth := hr p established.connection (List.mem_append_left _ hlost)
  have hbound : (t.step (.bindReplacement p established)).session.bindings.get?
      established.connection = some p := by
    simp only [step, SessionTrace.record, hexec]
    exact SortedMap.get?_insert_self _ _ _
  rw [(hi.step _).session.isAuthorized_iff_bound.mpr hbound] at hauth
  cases hauth

/-- A run never gives authority back to a lost connection exactly when no participant is bound
again to a connection it lost before its last loss. -/
theorem revoked_iff_no_stale_rebind (id : SessionId) (limits : SessionLimits)
    (ops : List SessionOp) :
    (∀ pre, pre <+: ops → (run id limits pre).Revoked) ↔
      ∀ pre op, pre ++ [op] <+: ops → ¬ (run id limits pre).StaleRebind op := by
  constructor
  · intro h pre op hpre hstale
    have hnext := h _ hpre
    rw [run_snoc] at hnext
    exact hstale.regains (run_inv id limits pre) hnext
  · intro h pre hpre
    induction pre using List.reverseRecOn with
    | nil => exact nofun
    | append_singleton pre op ih =>
      have hi := run_inv id limits pre
      rw [run_snoc]
      exact (ih ((List.prefix_append pre [op]).trans hpre)).record hi (h pre op hpre)
        (hi.session.exec_effect op)

/-- Participant 5 loses connection 1, is bound to connection 2, loses it, and is bound to
connection 1 again. -/
theorem earlier_loss_regains :
    let established (c : ConnectionHandle) : EstablishedNegotiation :=
      ⟨c, .new ⟨⟨1⟩, ⟨1⟩⟩⟩
    let retain : RetentionPolicy := .retainForRecovery ⟨5, by decide⟩
    let t := run ⟨10⟩ ⟨⟨4, by decide, by decide⟩, ⟨2, by decide, by decide⟩, by decide⟩
      [.admitNew ⟨5⟩ (established ⟨1⟩), .connectionLost ⟨5⟩ ⟨1⟩ retain,
        .bindReplacement ⟨5⟩ (established ⟨2⟩), .connectionLost ⟨5⟩ ⟨2⟩ retain,
        .bindReplacement ⟨5⟩ (established ⟨1⟩)]
    ¬ ∀ p c, (p, c) ∈ t.lost → t.session.isAuthorized p c = false := by
  intro established retain t h
  have hlost : ((⟨5⟩, ⟨1⟩) : ParticipantId × ConnectionHandle) ∈ t.lost := by decide
  have hauth : t.session.isAuthorized ⟨5⟩ ⟨1⟩ = true := by decide
  rw [h _ _ hlost] at hauth
  cases hauth

end SessionTrace

end RunenNet
