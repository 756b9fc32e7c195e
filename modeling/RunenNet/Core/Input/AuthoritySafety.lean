import RunenNet.Core.SessionRun
import RunenNet.Core.Input.Authority

/-!
# Runs of authority input beside a session

Operations of the session and of its input state in any order. A trace remembers which inputs
were accepted and which window minima were in force. A tick that was consumed stays consumed: its
input is retained, the window has passed it, or the membership has ended for good.
-/

namespace RunenNet

open Foundation

namespace AuthorityInputSession

variable {I : Type} {a : AuthorityInputSession I} {session : Session} {p : ParticipantId}

/-! ### What each operation does -/

theorem addParticipant_cases {window : InputWindow} {limits : AuthorityInputLimits}
    {r : Except AuthorityInputError Unit} {a' : AuthorityInputSession I}
    (h : a.addParticipant session p window limits = (r, a')) :
    (∃ e, r = .error e ∧ a' = a) ∨
      r = .ok () ∧ a.participants.get? p = none ∧ (∃ m, session.membershipState p = some m) ∧
        a' = { a with participants := a.participants.insert p (.new limits window) } := by
  unfold addParticipant at h
  split at h
  · cases h; exact .inl ⟨_, rfl, rfl⟩
  · split at h
    · cases h; exact .inl ⟨_, rfl, rfl⟩
    · rename_i hlive
      split at h
      · cases h; exact .inl ⟨_, rfl, rfl⟩
      · rename_i hnew
        split at h
        · cases h; exact .inl ⟨_, rfl, rfl⟩
        · cases h
          refine .inr ⟨rfl, SortedMap.contains_eq_false.mp (Bool.eq_false_iff.mpr hnew), ?_, rfl⟩
          exact Option.ne_none_iff_exists'.mp fun hn => hlive (Option.isNone_iff_eq_none.mpr hn)

theorem advanceWindow_cases {next : InputWindow} {r : Except AuthorityInputError Unit}
    {a' : AuthorityInputSession I} (h : a.advanceWindow p next = (r, a')) :
    (∃ e, r = .error e ∧ a' = a) ∨
      r = .ok () ∧ ∃ state bytes keys total, a.participants.get? p = some state ∧
        state.window.minimum ≤ next.minimum ∧
        a' = { a with
          participants := a.participants.insert p { state with
            retained := state.retained.splitOff next.minimum
            retainedBytes := bytes
            window := next }
          retainedKeys := keys
          retainedBytes := total } := by
  unfold advanceWindow at h
  split at h
  · cases h; exact .inl ⟨_, rfl, rfl⟩
  · rename_i state hstate
    split at h
    · cases h; exact .inl ⟨_, rfl, rfl⟩
    · rename_i hmin
      split at h
      · cases h; exact .inl ⟨_, rfl, rfl⟩
      · split at h
        · cases h; exact .inl ⟨_, rfl, rfl⟩
        · split at h
          · cases h; exact .inl ⟨_, rfl, rfl⟩
          · split at h
            · cases h
              exact .inr ⟨rfl, state, _, _, _, hstate, not_lt.mp hmin, rfl⟩
            · cases h; exact .inl ⟨_, rfl, rfl⟩

theorem mem_departed {e : ParticipantId × ParticipantInputState I} (h : e ∈ a.departed session) :
    session.memberships.get? e.1 = none := by
  have hnone := (List.mem_filter.mp h).2
  simpa only [Session.membershipState, Option.isNone_map, Option.isNone_iff_eq_none] using hnone

theorem reconcileMemberships_cases {r : Except AuthorityInputError (List ParticipantId)}
    {a' : AuthorityInputSession I} (h : a.reconcileMemberships session = (r, a')) :
    (∃ e, r = .error e ∧ a' = a) ∨
      ∃ keys total, r = .ok ((a.departed session).map Prod.fst) ∧
        a' = { a with
          participants := ((a.departed session).map Prod.fst).foldl SortedMap.erase a.participants
          retainedKeys := keys
          retainedBytes := total } := by
  unfold reconcileMemberships at h
  split at h
  · cases h; exact .inl ⟨_, rfl, rfl⟩
  · split at h
    · cases h; exact .inl ⟨_, rfl, rfl⟩
    · split at h
      · cases h; exact .inr ⟨_, _, rfl, rfl⟩
      · cases h; exact .inl ⟨_, rfl, rfl⟩

/-- A submission changes nothing unless it is accepted. -/
theorem submit_cases [DecidableEq I] {c : ConnectionHandle} {tick : SimulationTick} {input : I}
    {accountedBytes : Nat} {r : Except AuthorityInputError AuthorityInputOutcome}
    {a' : AuthorityInputSession I}
    (h : a.submit session p c tick input accountedBytes = (r, a')) :
    r ≠ .ok .inputAccepted ∧ a' = a ∨
      r = .ok .inputAccepted ∧ session.isAuthorized p c = true ∧
        ∃ state bytes keys total, a.participants.get? p = some state ∧
          state.window.minimum ≤ tick ∧ state.retained.get? tick = none ∧
          a' = { a with
            participants := a.participants.insert p { state with
              retained := state.retained.insert tick ⟨input, accountedBytes⟩
              retainedBytes := bytes }
            retainedKeys := keys
            retainedBytes := total } := by
  unfold submit at h
  split at h
  · cases h; exact .inl ⟨nofun, rfl⟩
  · split at h
    · cases h; exact .inl ⟨nofun, rfl⟩
    · rename_i hauth
      split at h
      · cases h; exact .inl ⟨nofun, rfl⟩
      · rename_i state hstate
        split at h
        · cases h; exact .inl ⟨nofun, rfl⟩
        · rename_i hmin
          split at h
          · cases h
            exact .inl ⟨by split <;> nofun, rfl⟩
          · rename_i hnone
            split at h
            · cases h; exact .inl ⟨nofun, rfl⟩
            · split at h
              · cases h; exact .inl ⟨nofun, rfl⟩
              · cases h
                exact .inr ⟨rfl, not_not.mp hauth, state, _, _, _, hstate, not_lt.mp hmin, hnone,
                  rfl⟩

end AuthorityInputSession

/-! ### Traces -/

/-- An accepted input. -/
structure InputAcceptance (I : Type) where
  participant : ParticipantId
  connection : ConnectionHandle
  tick : SimulationTick
  value : I

def InputAcceptance.key {I : Type} (x : InputAcceptance I) : ParticipantId × SimulationTick :=
  (x.participant, x.tick)

/-- The operations of a session and of its input state. -/
inductive InputOp (I : Type) where
  | session (op : SessionOp)
  | addParticipant (p : ParticipantId) (window : InputWindow) (limits : AuthorityInputLimits)
  | advanceWindow (p : ParticipantId) (next : InputWindow)
  | reconcileMemberships
  | submit (p : ParticipantId) (c : ConnectionHandle) (tick : SimulationTick) (input : I)
      (accountedBytes : Nat)

/-- The two states, the inputs accepted so far and the window minima in force so far. -/
structure InputTrace (I : Type) where
  session : Session
  input : AuthorityInputSession I
  accepted : List (InputAcceptance I)
  minima : List (ParticipantId × SimulationTick)

namespace InputTrace

variable {I : Type}

def start (id inputId : SessionId) (limits : SessionLimits)
    (inputLimits : AuthorityInputAggregateLimits) : InputTrace I :=
  ⟨.new id limits, .new inputId inputLimits, [], []⟩

/-- The trace after an operation on windows: its minimum is in force when it succeeded. -/
def afterWindow (t : InputTrace I) (p : ParticipantId) (minimum : SimulationTick)
    (r : Except AuthorityInputError Unit × AuthorityInputSession I) : InputTrace I :=
  match r.1 with
  | .ok () => { t with input := r.2, minima := t.minima ++ [(p, minimum)] }
  | .error _ => { t with input := r.2 }

/-- The trace after a submission. -/
def afterSubmit (t : InputTrace I) (x : InputAcceptance I)
    (r : Except AuthorityInputError AuthorityInputOutcome × AuthorityInputSession I) :
    InputTrace I :=
  if r.1 = .ok .inputAccepted then { t with input := r.2, accepted := t.accepted ++ [x] }
  else { t with input := r.2 }

def step [DecidableEq I] (t : InputTrace I) : InputOp I → InputTrace I
  | .session op => { t with session := (t.session.exec op).2 }
  | .addParticipant p window limits =>
    t.afterWindow p window.minimum (t.input.addParticipant t.session p window limits)
  | .advanceWindow p next => t.afterWindow p next.minimum (t.input.advanceWindow p next)
  | .reconcileMemberships => { t with input := (t.input.reconcileMemberships t.session).2 }
  | .submit p c tick input accountedBytes =>
    t.afterSubmit ⟨p, c, tick, input⟩ (t.input.submit t.session p c tick input accountedBytes)

def run [DecidableEq I] (id inputId : SessionId) (limits : SessionLimits)
    (inputLimits : AuthorityInputAggregateLimits) (ops : List (InputOp I)) : InputTrace I :=
  ops.foldl step (start id inputId limits inputLimits)

/-- The membership of `p` has ended for good. -/
def Ended (s : Session) (p : ParticipantId) : Prop :=
  p ∈ s.usedParticipants.used ∧ s.memberships.get? p = none

/-- The tick is behind the window or its input is retained. -/
def Consumed (state : ParticipantInputState I) (tick : SimulationTick) : Prop :=
  tick < state.window.minimum ∨ ∃ r, state.retained.get? tick = some r

structure Inv (t : InputTrace I) : Prop where
  session : t.session.Inv
  configured : ∀ p state, t.input.participants.get? p = some state →
    p ∈ t.session.usedParticipants.used
  consumed : ∀ x ∈ t.accepted, Ended t.session x.participant ∨
    ∃ state, t.input.participants.get? x.participant = some state ∧ Consumed state x.tick
  minima : ∀ p m, (p, m) ∈ t.minima → Ended t.session p ∨
    ∃ state, t.input.participants.get? p = some state ∧ m ≤ state.window.minimum
  value : ∀ x ∈ t.accepted, ∀ state r, t.input.participants.get? x.participant = some state →
    state.retained.get? x.tick = some r → r.value = x.value
  once : (t.accepted.map InputAcceptance.key).Nodup

theorem start_inv (id inputId : SessionId) (limits : SessionLimits)
    (inputLimits : AuthorityInputAggregateLimits) :
    (start id inputId limits inputLimits : InputTrace I).Inv :=
  ⟨Session.new_inv id limits, nofun, nofun, nofun, nofun, .nil⟩

variable {t : InputTrace I} {p : ParticipantId} {old new : ParticipantInputState I}
  {a' : AuthorityInputSession I}

/-! ### The invariant is kept -/

/-- A session step keeps ended memberships ended and used participants used. -/
theorem Inv.session_step (hi : t.Inv) (op : SessionOp) :
    ({ t with session := (t.session.exec op).2 } : InputTrace I).Inv := by
  have heffect := hi.session.exec_effect op
  have hended : ∀ p, Ended t.session p → Ended (t.session.exec op).2 p := fun p h =>
    ⟨heffect.used_subset h.1, heffect.departed h.1 h.2⟩
  refine ⟨heffect.inv hi.session, fun p state h => heffect.used_subset (hi.configured p state h),
    fun x hx => ?_, fun p m hm => ?_, hi.value, hi.once⟩
  · exact (hi.consumed x hx).imp_left (hended _)
  · exact (hi.minima p m hm).imp_left (hended _)

/-- `new` consumes what `old` consumed. -/
structure Follows (old new : ParticipantInputState I) : Prop where
  minimum_le : old.window.minimum ≤ new.window.minimum
  consumed : ∀ tick, Consumed old tick → Consumed new tick

/-- The state of one participant is replaced by one that consumes at least as much. -/
theorem Inv.replace (hi : t.Inv) (hused : p ∈ t.session.usedParticipants.used)
    (hparticipants : a'.participants = t.input.participants.insert p new)
    (hfollows : ∀ old, t.input.participants.get? p = some old → Follows old new)
    (hvalue : ∀ x ∈ t.accepted, x.participant = p → ∀ r, new.retained.get? x.tick = some r →
      r.value = x.value) : ({ t with input := a' } : InputTrace I).Inv := by
  have hnext : ∀ {q : ParticipantId} {state : ParticipantInputState I},
      t.input.participants.get? q = some state → ∃ state', a'.participants.get? q = some state' ∧
        (state' = state ∨ Follows state state') := by
    intro q state hstate
    by_cases hq : q = p
    · subst hq
      exact ⟨new, by rw [hparticipants, SortedMap.get?_insert_self], .inr (hfollows _ hstate)⟩
    · exact ⟨state, by rw [hparticipants, SortedMap.get?_insert_ne _ _ hq, hstate], .inl rfl⟩
  refine ⟨hi.session, fun q state hq => ?_, fun x hx => ?_, fun q m hm => ?_,
    fun x hx state r hstate hr => ?_, hi.once⟩
  · rw [hparticipants, SortedMap.get?_insert] at hq
    split at hq
    · rename_i he
      exact he ▸ hused
    · exact hi.configured q state hq
  · refine (hi.consumed x hx).imp_right fun ⟨state, hstate, hcons⟩ => ?_
    obtain ⟨state', hstate', rfl | hf⟩ := hnext hstate
    · exact ⟨state', hstate', hcons⟩
    · exact ⟨state', hstate', hf.consumed _ hcons⟩
  · refine (hi.minima q m hm).imp_right fun ⟨state, hstate, hle⟩ => ?_
    obtain ⟨state', hstate', rfl | hf⟩ := hnext hstate
    · exact ⟨state', hstate', hle⟩
    · exact ⟨state', hstate', hle.trans hf.minimum_le⟩
  · rw [hparticipants, SortedMap.get?_insert] at hstate
    split at hstate
    · rename_i he
      cases hstate
      exact hvalue x hx he r hr
    · exact hi.value x hx state r hstate hr

/-- The minimum of the window that replaces the old one comes into force. -/
theorem Inv.replace_logged (hi : t.Inv) (hused : p ∈ t.session.usedParticipants.used)
    (hparticipants : a'.participants = t.input.participants.insert p new)
    (hfollows : ∀ old, t.input.participants.get? p = some old → Follows old new)
    (hvalue : ∀ x ∈ t.accepted, x.participant = p → ∀ r, new.retained.get? x.tick = some r →
      r.value = x.value) :
    ({ t with input := a', minima := t.minima ++ [(p, new.window.minimum)] } : InputTrace I).Inv := by
  have hi' := hi.replace hused hparticipants hfollows hvalue
  refine ⟨hi'.session, hi'.configured, hi'.consumed, fun q m hm => ?_, hi'.value, hi'.once⟩
  rcases List.mem_append.mp hm with hm | hm
  · exact hi'.minima q m hm
  · cases List.mem_singleton.mp hm
    exact .inr ⟨new, by rw [hparticipants, SortedMap.get?_insert_self], le_refl _⟩

theorem Inv.added (hi : t.Inv) (window : InputWindow) (limits : AuthorityInputLimits) :
    (t.afterWindow p window.minimum (t.input.addParticipant t.session p window limits)).Inv := by
  rcases hr : t.input.addParticipant t.session p window limits with ⟨r, a⟩
  rcases AuthorityInputSession.addParticipant_cases hr with
    ⟨e, rfl, rfl⟩ | ⟨rfl, hnone, ⟨m, hm⟩, rfl⟩
  · exact hi
  · obtain ⟨record, hrecord, -⟩ := Session.membershipState_eq_some.mp hm
    simp only [afterWindow]
    have hnew : ∀ old, t.input.participants.get? p = some old →
        Follows old (.new limits window) := fun old hold => by
      rw [hnone] at hold
      cases hold
    exact hi.replace_logged (hi.session.claimed p record hrecord) rfl hnew nofun

theorem splitOff_follows {next : InputWindow} {bytes : Nat}
    (hle : old.window.minimum ≤ next.minimum) :
    Follows old { old with
      retained := old.retained.splitOff next.minimum, retainedBytes := bytes, window := next } := by
  refine ⟨hle, fun tick hcons => ?_⟩
  rcases lt_or_ge tick next.minimum with hlt | hge
  · exact .inl hlt
  · rcases hcons with hlt | ⟨r, hr⟩
    · exact absurd (lt_of_lt_of_le hlt hle) (not_lt.mpr hge)
    · exact .inr ⟨r, by rw [SortedMap.get?_splitOff, if_pos hge, hr]⟩

theorem insert_follows {tick : SimulationTick} {r : RetainedInput I} {bytes : Nat} :
    Follows old { old with
      retained := old.retained.insert tick r, retainedBytes := bytes } := by
  refine ⟨le_refl _, fun tick' hcons => hcons.imp_right fun ⟨r', hr'⟩ => ?_⟩
  rw [SortedMap.get?_insert]
  split
  · exact ⟨_, rfl⟩
  · exact ⟨r', hr'⟩

theorem Inv.window_advanced (hi : t.Inv) (next : InputWindow) :
    (t.afterWindow p next.minimum (t.input.advanceWindow p next)).Inv := by
  rcases hr : t.input.advanceWindow p next with ⟨r, a⟩
  rcases AuthorityInputSession.advanceWindow_cases hr with
    ⟨e, rfl, rfl⟩ | ⟨rfl, state, bytes, keys, total, hstate, hle, rfl⟩
  · exact hi
  · simp only [afterWindow]
    have hnew : ∀ old, t.input.participants.get? p = some old → Follows old { state with
        retained := state.retained.splitOff next.minimum
        retainedBytes := bytes
        window := next } := fun old hold => by
      rw [hstate] at hold
      cases hold
      exact splitOff_follows hle
    refine hi.replace_logged (hi.configured p state hstate) rfl hnew fun x hx hp r hr => ?_
    · rw [SortedMap.get?_splitOff] at hr
      split at hr
      · exact hi.value x hx state r (hp ▸ hstate) hr
      · cases hr

/-- Only participants whose membership ended are released. -/
theorem Inv.reconciled (hi : t.Inv) :
    ({ t with input := (t.input.reconcileMemberships t.session).2 } : InputTrace I).Inv := by
  rcases hr : t.input.reconcileMemberships t.session with ⟨r, a⟩
  rcases AuthorityInputSession.reconcileMemberships_cases hr with
    ⟨e, rfl, rfl⟩ | ⟨keys, total, rfl, rfl⟩
  · exact hi
  · have hkept : ∀ {q : ParticipantId} {state : ParticipantInputState I},
        t.input.participants.get? q = some state → Ended t.session q ∨
          (((t.input.departed t.session).map Prod.fst).foldl SortedMap.erase
            t.input.participants).get? q = some state := by
      intro q state hstate
      rw [SortedMap.get?_foldl_erase]
      split
      · rename_i hmem
        obtain ⟨e, he, rfl⟩ := List.mem_map.mp hmem
        exact .inl ⟨hi.configured _ _ hstate, AuthorityInputSession.mem_departed he⟩
      · exact .inr hstate
    have hsub : ∀ {q : ParticipantId} {state : ParticipantInputState I},
        (((t.input.departed t.session).map Prod.fst).foldl SortedMap.erase
          t.input.participants).get? q = some state →
        t.input.participants.get? q = some state := by
      intro q state hstate
      rw [SortedMap.get?_foldl_erase] at hstate
      split at hstate
      · cases hstate
      · exact hstate
    refine ⟨hi.session, fun q state hq => hi.configured q state (hsub hq), fun x hx => ?_,
      fun q m hm => ?_, fun x hx state r hstate hr => hi.value x hx state r (hsub hstate) hr, hi.once⟩
    · rcases hi.consumed x hx with hended | ⟨state, hstate, hcons⟩
      · exact .inl hended
      · exact (hkept hstate).imp_right fun h => ⟨state, h, hcons⟩
    · rcases hi.minima q m hm with hended | ⟨state, hstate, hle⟩
      · exact .inl hended
      · exact (hkept hstate).imp_right fun h => ⟨state, h, hle⟩

/-- A participant with an authorised connection has not ended. -/
theorem not_ended {s : Session} {c : ConnectionHandle} (h : s.isAuthorized p c = true) :
    ¬ Ended s p := by
  rintro ⟨-, hnone⟩
  obtain ⟨r, hr, -⟩ := Session.membershipState_eq_some.mp (Session.isAuthorized_iff.mp h).2
  rw [hnone] at hr
  cases hr

section Submission

variable [DecidableEq I] {c : ConnectionHandle} {tick : SimulationTick} {input : I} {bytes : Nat}

/-- What is accepted was not consumed, is behind no minimum, and comes over the participant's
authorised connection. -/
theorem Inv.submit_accepted (hi : t.Inv)
    (h : (t.input.submit t.session p c tick input bytes).1 = .ok .inputAccepted) :
    t.session.isAuthorized p c = true ∧ (∀ x ∈ t.accepted, x.key ≠ (p, tick)) ∧
      ∀ m, (p, m) ∈ t.minima → m ≤ tick := by
  rcases hr : t.input.submit t.session p c tick input bytes with ⟨r, a⟩
  rw [hr] at h
  rcases AuthorityInputSession.submit_cases hr with
    ⟨hne, -⟩ | ⟨-, hauth, state, -, -, -, hstate, hmin, hnone, -⟩
  · exact absurd h hne
  · refine ⟨hauth, fun x hx hkey => ?_, fun m hm => ?_⟩
    · cases hkey
      rcases hi.consumed x hx with hended | ⟨state', hstate', hcons⟩
      · exact not_ended hauth hended
      · rw [hstate] at hstate'
        cases hstate'
        rcases hcons with hlt | ⟨r', hr'⟩
        · exact absurd hmin (not_le.mpr hlt)
        · rw [hnone] at hr'
          cases hr'
    · rcases hi.minima p m hm with hended | ⟨state', hstate', hle⟩
      · exact absurd hended (not_ended hauth)
      · rw [hstate] at hstate'
        cases hstate'
        exact hle.trans hmin

theorem Inv.submitted (hi : t.Inv) :
    (t.afterSubmit ⟨p, c, tick, input⟩ (t.input.submit t.session p c tick input bytes)).Inv := by
  have hfresh := @Inv.submit_accepted _ t p _ c tick input bytes hi
  rcases hr : t.input.submit t.session p c tick input bytes with ⟨r, a⟩
  rw [hr] at hfresh
  rcases AuthorityInputSession.submit_cases hr with
    ⟨hne, rfl⟩ | ⟨rfl, -, state, b, keys, total, hstate, -, -, rfl⟩
  · simp only [afterSubmit, if_neg hne]
    exact hi
  · obtain ⟨-, hnew, -⟩ := hfresh rfl
    have hi' : ({ t with input := { t.input with
        participants := t.input.participants.insert p { state with
          retained := state.retained.insert tick ⟨input, bytes⟩, retainedBytes := b }
        retainedKeys := keys
        retainedBytes := total } } : InputTrace I).Inv := by
      refine hi.replace (hi.configured p state hstate) rfl (fun old hold => ?_) fun x hx hp r hr => ?_
      · rw [hstate] at hold
        cases hold
        exact insert_follows
      · have hne : x.tick ≠ tick := fun he => hnew x hx (Prod.ext hp he)
        rw [SortedMap.get?_insert_ne _ _ hne] at hr
        exact hi.value x hx state r (hp ▸ hstate) hr
    have hget := SortedMap.get?_insert_self t.input.participants p { state with
      retained := state.retained.insert tick ⟨input, bytes⟩, retainedBytes := b }
    simp only [afterSubmit, if_true]
    refine ⟨hi'.session, hi'.configured, fun x hx => ?_, hi'.minima, fun x hx st r hst hr => ?_, ?_⟩
    · rcases List.mem_append.mp hx with hx | hx
      · exact hi'.consumed x hx
      · cases List.mem_singleton.mp hx
        exact .inr ⟨_, hget, .inr ⟨_, SortedMap.get?_insert_self _ _ _⟩⟩
    · rcases List.mem_append.mp hx with hx | hx
      · exact hi'.value x hx st r hst hr
      · cases List.mem_singleton.mp hx
        cases hget.symm.trans hst
        rw [SortedMap.get?_insert_self] at hr
        cases hr
        rfl
    · rw [List.map_append]
      refine List.nodup_append.mpr ⟨hi.once, List.nodup_singleton _, fun k hk k' hk' he => ?_⟩
      obtain ⟨x, hx, rfl⟩ := List.mem_map.mp hk
      exact hnew x hx (he.trans (List.mem_singleton.mp hk'))

theorem Inv.step (hi : t.Inv) (op : InputOp I) : (t.step op).Inv := by
  cases op with
  | session op => exact hi.session_step op
  | addParticipant p window limits => exact hi.added window limits
  | advanceWindow p next => exact hi.window_advanced next
  | reconcileMemberships => exact hi.reconciled
  | submit p c tick input accountedBytes => exact hi.submitted

theorem run_inv (id inputId : SessionId) (limits : SessionLimits)
    (inputLimits : AuthorityInputAggregateLimits) (ops : List (InputOp I)) :
    (run id inputId limits inputLimits ops).Inv := by
  induction ops using List.reverseRecOn with
  | nil => exact start_inv id inputId limits inputLimits
  | append_singleton ops op ih =>
    rw [run, List.foldl_append]
    exact ih.step op

/-- In every run an input is accepted at most once for a participant and tick, its retained value
stays, and what is accepted next is authorised, new and behind no minimum that was in force. -/
theorem accepted_once_never_late (id inputId : SessionId) (limits : SessionLimits)
    (inputLimits : AuthorityInputAggregateLimits) (ops : List (InputOp I)) :
    let t := run id inputId limits inputLimits ops
    (t.accepted.map InputAcceptance.key).Nodup ∧
    (∀ x ∈ t.accepted, ∀ state r, t.input.participants.get? x.participant = some state →
      state.retained.get? x.tick = some r → r.value = x.value) ∧
    ∀ p c tick input bytes,
      (t.input.submit t.session p c tick input bytes).1 = .ok .inputAccepted →
      t.session.isAuthorized p c = true ∧ (∀ x ∈ t.accepted, x.key ≠ (p, tick)) ∧
        ∀ m, (p, m) ∈ t.minima → m ≤ tick := by
  intro t
  have hi : t.Inv := run_inv id inputId limits inputLimits ops
  exact ⟨hi.once, hi.value, fun p c tick input bytes h => hi.submit_accepted h⟩

end Submission

end InputTrace

end RunenNet
