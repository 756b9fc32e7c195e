import RunenNet.Core.Session

/-!
# Runs of a session

`exec` runs any operation of a session. `exec_effect` says once what an operation can do to a
session whose two maps agree, and `Effect.inv` that they still agree after it.
-/

namespace RunenNet

open Foundation

/-- The operations of a session. -/
inductive SessionOp where
  | admitNew (p : ParticipantId) (established : EstablishedNegotiation)
  | connectionLost (p : ParticipantId) (c : ConnectionHandle) (policy : RetentionPolicy)
  | bindReplacement (p : ParticipantId) (established : EstablishedNegotiation)
  | removeParticipant (p : ParticipantId)
  | advanceRecoveryClock (now : RecoveryTime)
  | close
  deriving DecidableEq

/-- The result of an operation. -/
inductive SessionReply where
  | admitted (r : Except SessionError Unit)
  | lost (r : Except SessionError ConnectionLossOutcome)
  | bound (r : Except SessionError Unit)
  | removed (r : Except SessionError MembershipState)
  | advanced (r : Except SessionError (List ParticipantId))
  | closed

/-- The error an operation returned. -/
def SessionReply.error? : SessionReply → Option SessionError
  | .admitted (.error e) | .lost (.error e) | .bound (.error e) | .removed (.error e)
  | .advanced (.error e) => some e
  | _ => none

namespace Session

def exec (s : Session) : SessionOp → SessionReply × Session
  | .admitNew p established =>
    let (r, s) := s.admitNew p established
    (.admitted r, s)
  | .connectionLost p c policy =>
    let (r, s) := s.connectionLost p c policy
    (.lost r, s)
  | .bindReplacement p established =>
    let (r, s) := s.bindReplacement p established
    (.bound r, s)
  | .removeParticipant p =>
    let (r, s) := s.removeParticipant p
    (.removed r, s)
  | .advanceRecoveryClock now =>
    let (r, s) := s.advanceRecoveryClock now
    (.advanced r, s)
  | .close => (.closed, s.close)

/-! ### The membership invariant -/

structure Inv (s : Session) : Prop where
  bound_iff : ∀ p c, s.bindings.get? c = some p ↔ s.membershipState p = some (.bound c)
  memberships_le : s.memberships.size ≤ s.limits.maxMemberships.get
  claimed : ∀ p r, s.memberships.get? p = some r → p ∈ s.usedParticipants.used
  unexpired : ∀ p expiresAt, s.membershipState p = some (.unbound expiresAt) →
    s.recoveryClock < expiresAt
  closed_empty : s.phase = .closed → s.memberships = .empty ∧ s.bindings = .empty

theorem new_inv (id : SessionId) (limits : SessionLimits) : (new id limits).Inv where
  bound_iff := fun _ _ => ⟨nofun, nofun⟩
  memberships_le := Nat.zero_le _
  claimed := nofun
  unexpired := nofun
  closed_empty := nofun

section Lookups

variable {s : Session} {p : ParticipantId} {c : ConnectionHandle}

theorem membershipState_eq_some {state : MembershipState} :
    s.membershipState p = some state ↔
      ∃ r, s.memberships.get? p = some r ∧ r.state = state := by
  simp only [membershipState, Option.map_eq_some_iff]

theorem isAuthorized_iff :
    s.isAuthorized p c = true ↔
      s.bindings.get? c = some p ∧ s.membershipState p = some (.bound c) := by
  simp only [isAuthorized, Bool.and_eq_true, decide_eq_true_eq]

theorem Inv.isAuthorized_iff_bound (hi : s.Inv) :
    s.isAuthorized p c = true ↔ s.bindings.get? c = some p := by
  rw [isAuthorized_iff, hi.bound_iff p c, and_self]

theorem mem_expired {now : RecoveryTime} :
    p ∈ s.expired now ↔ ∃ expiresAt, s.membershipState p = some (.unbound expiresAt) ∧
      expiresAt ≤ now := by
  simp only [expired, List.mem_filterMap, membershipState_eq_some]
  constructor
  · rintro ⟨⟨q, r⟩, hmem, h⟩
    split at h
    · rename_i expiresAt hstate
      split at h
      · rename_i hle
        cases h
        exact ⟨expiresAt, ⟨r, SortedMap.get?_eq_some.mpr hmem, hstate⟩, hle⟩
      · cases h
    · cases h
  · rintro ⟨expiresAt, ⟨r, hr, hstate⟩, hle⟩
    refine ⟨(p, r), SortedMap.get?_eq_some.mp hr, ?_⟩
    simp only [hstate, if_pos hle]

end Lookups

/-! ### What each operation does -/

/-- `p` becomes bound to `c`. -/
def bind (s : Session) (p : ParticipantId) (c : ConnectionHandle) : Session :=
  { s with
    bindings := s.bindings.insert c p
    memberships := s.memberships.insert p ⟨.bound c, none⟩ }

/-- What an operation does to a session whose maps agree: an error changes nothing, and no
error is `membershipExpired`. -/
inductive Effect (s : Session) : SessionOp → SessionReply → Session → Prop where
  | refused {op : SessionOp} {reply : SessionReply} {e : SessionError}
      (herror : reply.error? = some e) (hexpired : e ≠ .membershipExpired) : Effect s op reply s
  | admitted {p : ParticipantId} {established : EstablishedNegotiation}
      (hopen : s.phase = .open) (hroom : s.memberships.size < s.limits.maxMemberships.get)
      (hfree : s.bindings.get? established.connection = none)
      (hnew : p ∉ s.usedParticipants.used) :
      Effect s (.admitNew p established) (.admitted (.ok ()))
        ({ s with usedParticipants :=
            { s.usedParticipants with used := insert p s.usedParticipants.used } }.bind p
          established.connection)
  | terminated {p : ParticipantId} {c : ConnectionHandle} (hopen : s.phase = .open)
      (hbound : s.membershipState p = some (.bound c)) :
      Effect s (.connectionLost p c .terminate) (.lost (.ok .terminated))
        { s with bindings := s.bindings.erase c, memberships := s.memberships.erase p }
  | retained {p : ParticipantId} {c : ConnectionHandle} {duration : RecoveryDuration}
      {expiresAt : RecoveryTime} (hopen : s.phase = .open)
      (hbound : s.membershipState p = some (.bound c)) (hexpiry : s.recoveryClock < expiresAt) :
      Effect s (.connectionLost p c (.retainForRecovery duration))
        (.lost (.ok (.retained expiresAt)))
        { s with
          bindings := s.bindings.erase c
          memberships := s.memberships.insert p ⟨.unbound expiresAt, some c⟩ }
  | rebound {p : ParticipantId} {established : EstablishedNegotiation} {r : MembershipRecord}
      {expiresAt : RecoveryTime} (hopen : s.phase = .open)
      (hfree : s.bindings.get? established.connection = none)
      (hrecord : s.memberships.get? p = some r) (hunbound : r.state = .unbound expiresAt)
      (hprevious : r.previousConnection ≠ some established.connection) :
      Effect s (.bindReplacement p established) (.bound (.ok ()))
        (s.bind p established.connection)
  | removed {p : ParticipantId} {r : MembershipRecord} (hopen : s.phase = .open)
      (hrecord : s.memberships.get? p = some r) :
      Effect s (.removeParticipant p) (.removed (.ok r.state))
        { s with
          memberships := s.memberships.erase p
          bindings := match r.state with
            | .bound c => s.bindings.erase c
            | .unbound _ => s.bindings }
  | advanced {now : RecoveryTime} (hopen : s.phase = .open) (hle : s.recoveryClock ≤ now) :
      Effect s (.advanceRecoveryClock now) (.advanced (.ok (s.expired now)))
        { s with
          recoveryClock := now
          memberships := (s.expired now).foldl SortedMap.erase s.memberships }
  | closed : Effect s .close .closed s.close

section Effects

variable {s s' : Session} {op : SessionOp} {reply : SessionReply}

theorem admitNew_effect (s : Session) (p : ParticipantId) (established : EstablishedNegotiation) :
    Effect s (.admitNew p established) (s.exec (.admitNew p established)).1
      (s.exec (.admitNew p established)).2 := by
  simp only [exec, admitNew]
  split
  · exact .refused rfl nofun
  · rename_i hopen
    split
    · exact .refused rfl nofun
    · rename_i hroom
      split
      · exact .refused rfl nofun
      · rename_i hfree
        split
        · exact .refused rfl nofun
        · rename_i hnew
          simp only [IncarnationRegistry.contains, decide_eq_true_eq] at hnew
          by_cases hfull : s.usedParticipants.used.card ≥ s.usedParticipants.maxClaims
          · simp only [IncarnationRegistry.claim, if_neg hnew, if_pos hfull]
            exact .refused rfl nofun
          · simp only [IncarnationRegistry.claim, if_neg hnew, if_neg hfull]
            refine .admitted (not_not.mp hopen) (not_le.mp hroom) ?_ hnew
            exact SortedMap.contains_eq_false.mp (Bool.eq_false_iff.mpr hfree)

theorem connectionLost_effect (s : Session) (p : ParticipantId) (c : ConnectionHandle)
    (policy : RetentionPolicy) :
    Effect s (.connectionLost p c policy) (s.exec (.connectionLost p c policy)).1
      (s.exec (.connectionLost p c policy)).2 := by
  simp only [exec, connectionLost]
  split
  · exact .refused rfl nofun
  · rename_i hopen
    split
    · exact .refused rfl nofun
    · rename_i state hstate
      split
      · exact .refused rfl nofun
      · rename_i hbound
        have hbound : s.membershipState p = some (.bound c) := by
          rw [hstate, not_not.mp (not_or.mp hbound).1]
        cases policy with
        | terminate => exact .terminated (not_not.mp hopen) hbound
        | retainForRecovery duration =>
          simp only
          split
          · exact .refused rfl nofun
          · rename_i expiresAt hadd
            refine .retained (not_not.mp hopen) hbound ?_
            rw [Ident.lt_iff, Ident.checkedAdd_eq_some hadd]
            exact Nat.lt_add_of_pos_right duration.pos

theorem Inv.bindReplacement_effect (hi : s.Inv) (p : ParticipantId)
    (established : EstablishedNegotiation) :
    Effect s (.bindReplacement p established) (s.exec (.bindReplacement p established)).1
      (s.exec (.bindReplacement p established)).2 := by
  simp only [exec, bindReplacement]
  split
  · exact .refused rfl nofun
  · rename_i hopen
    split
    · exact .refused rfl nofun
    · rename_i hfree
      split
      · exact .refused rfl nofun
      · rename_i r hrecord
        split
        · exact .refused rfl nofun
        · rename_i expiresAt hunbound
          -- an expired membership was erased when the clock reached its expiry
          have hlive := hi.unexpired p expiresAt (membershipState_eq_some.mpr ⟨r, hrecord, hunbound⟩)
          rw [if_neg (not_le.mpr hlive)]
          split
          · exact .refused rfl nofun
          · rename_i hprevious
            refine .rebound (not_not.mp hopen) ?_ hrecord hunbound hprevious
            exact SortedMap.contains_eq_false.mp (Bool.eq_false_iff.mpr hfree)

theorem removeParticipant_effect (s : Session) (p : ParticipantId) :
    Effect s (.removeParticipant p) (s.exec (.removeParticipant p)).1
      (s.exec (.removeParticipant p)).2 := by
  simp only [exec, removeParticipant]
  split
  · exact .refused rfl nofun
  · rename_i hopen
    split
    · exact .refused rfl nofun
    · rename_i r hrecord
      exact .removed (not_not.mp hopen) hrecord

theorem advanceRecoveryClock_effect (s : Session) (now : RecoveryTime) :
    Effect s (.advanceRecoveryClock now) (s.exec (.advanceRecoveryClock now)).1
      (s.exec (.advanceRecoveryClock now)).2 := by
  simp only [exec, advanceRecoveryClock]
  split
  · exact .refused rfl nofun
  · rename_i hopen
    split
    · exact .refused rfl nofun
    · rename_i hle
      exact .advanced (not_not.mp hopen) (not_lt.mp hle)

theorem Inv.exec_effect (hi : s.Inv) (op : SessionOp) : Effect s op (s.exec op).1 (s.exec op).2 := by
  cases op with
  | admitNew p established => exact admitNew_effect s p established
  | connectionLost p c policy => exact connectionLost_effect s p c policy
  | bindReplacement p established => exact hi.bindReplacement_effect p established
  | removeParticipant p => exact removeParticipant_effect s p
  | advanceRecoveryClock now => exact advanceRecoveryClock_effect s now
  | close => exact .closed

end Effects

/-! ### The two maps -/

/-- The state recorded for `p`. -/
def stateAt (m : SortedMap ParticipantId MembershipRecord) (p : ParticipantId) :
    Option MembershipState := (m.get? p).map MembershipRecord.state

theorem stateAt_insert (m : SortedMap ParticipantId MembershipRecord) (p q : ParticipantId)
    (r : MembershipRecord) :
    stateAt (m.insert p r) q = if q = p then some r.state else stateAt m q := by
  simp only [stateAt, SortedMap.get?_insert]
  split <;> rfl

theorem stateAt_erase (m : SortedMap ParticipantId MembershipRecord) (p q : ParticipantId) :
    stateAt (m.erase p) q = if q = p then none else stateAt m q := by
  simp only [stateAt, SortedMap.get?_erase]
  split <;> rfl

/-- `c` is bound to `p` in one map when `p` is bound to `c` in the other. -/
def MapsAgree (b : SortedMap ConnectionHandle ParticipantId)
    (m : SortedMap ParticipantId MembershipRecord) : Prop :=
  ∀ p c, b.get? c = some p ↔ stateAt m p = some (.bound c)

namespace MapsAgree

variable {b : SortedMap ConnectionHandle ParticipantId}
  {m m' : SortedMap ParticipantId MembershipRecord} {p : ParticipantId} {c : ConnectionHandle}

theorem bind (h : MapsAgree b m) (hfree : b.get? c = none)
    (hunbound : ∀ c', stateAt m p ≠ some (.bound c')) :
    MapsAgree (b.insert c p) (m.insert p ⟨.bound c, none⟩) := by
  intro q c'
  rw [SortedMap.get?_insert, stateAt_insert]
  by_cases hq : q = p
  · subst hq
    rw [if_pos rfl]
    by_cases hc : c' = c
    · rw [if_pos hc, hc]
      simp only
    · rw [if_neg hc, h q c']
      simp only [Option.some.injEq, MembershipState.bound.injEq]
      exact ⟨fun hb => absurd hb (hunbound c'), fun hb => absurd hb.symm hc⟩
  · rw [if_neg hq, ← h q c']
    by_cases hc : c' = c
    · subst hc
      rw [if_pos rfl, hfree]
      simp only [Option.some.injEq, reduceCtorEq, iff_false]
      exact Ne.symm hq
    · rw [if_neg hc]

/-- The connection of `p` is unbound; what replaces the state of `p` is not bound. -/
theorem unbind (h : MapsAgree b m) (hbound : stateAt m p = some (.bound c))
    (hothers : ∀ q, q ≠ p → stateAt m' q = stateAt m q)
    (hnext : ∀ c', stateAt m' p ≠ some (.bound c')) : MapsAgree (b.erase c) m' := by
  intro q c'
  rw [SortedMap.get?_erase]
  by_cases hq : q = p
  · subst hq
    refine ⟨fun hb => ?_, fun hb => absurd hb (hnext c')⟩
    split at hb
    · cases hb
    · rename_i hc
      rw [h q c', hbound] at hb
      cases hb
      exact absurd rfl hc
  · rw [hothers q hq, ← h q c']
    by_cases hc : c' = c
    · subst hc
      rw [if_pos rfl, (h p c').mpr hbound]
      simp only [Option.some.injEq, reduceCtorEq, false_iff]
      exact Ne.symm hq
    · rw [if_neg hc]

/-- Only states that are not bound change, to states that are not. -/
theorem move (h : MapsAgree b m)
    (hmove : ∀ q, stateAt m' q = stateAt m q ∨
      (∀ c, stateAt m q ≠ some (.bound c)) ∧ ∀ c, stateAt m' q ≠ some (.bound c)) :
    MapsAgree b m' := by
  intro q c
  rw [h q c]
  rcases hmove q with heq | ⟨hold, hnew⟩
  · rw [heq]
  · exact ⟨fun hb => absurd hb (hold c), fun hb => absurd hb (hnew c)⟩

end MapsAgree

/-! ### The invariant is kept -/

section Preservation

variable {s s' : Session} {op : SessionOp} {reply : SessionReply}

theorem Inv.bind (hi : s.Inv) {p : ParticipantId} {c : ConnectionHandle}
    (hopen : s.phase = .open) (hfree : s.bindings.get? c = none)
    (hunbound : ∀ c', s.membershipState p ≠ some (.bound c'))
    (hroom : (s.memberships.insert p ⟨.bound c, none⟩).size ≤ s.limits.maxMemberships.get)
    (hused : p ∈ s.usedParticipants.used) : (s.bind p c).Inv where
  bound_iff := MapsAgree.bind (m := s.memberships) hi.bound_iff hfree hunbound
  memberships_le := hroom
  claimed := fun q r hr => by
    simp only [Session.bind, SortedMap.get?_insert] at hr
    split at hr
    · rename_i hq
      exact hq ▸ hused
    · exact hi.claimed q r hr
  unexpired := fun q expiresAt hq => by
    change stateAt (s.memberships.insert p _) q = _ at hq
    rw [stateAt_insert] at hq
    split at hq
    · cases hq
    · exact hi.unexpired q expiresAt hq
  closed_empty := fun hclosed => by
    rw [Session.bind, hopen] at hclosed
    cases hclosed

/-- The connection of `p` is unbound and `memberships` replaces the memberships. -/
theorem Inv.unbind (hi : s.Inv) {p : ParticipantId} {c : ConnectionHandle}
    (hopen : s.phase = .open) (hbound : s.membershipState p = some (.bound c))
    {memberships : SortedMap ParticipantId MembershipRecord}
    (hothers : ∀ q, q ≠ p → memberships.get? q = s.memberships.get? q)
    (hnext : stateAt memberships p = none ∨
      ∃ expiresAt, stateAt memberships p = some (.unbound expiresAt) ∧ s.recoveryClock < expiresAt)
    (hsize : memberships.size ≤ s.memberships.size) :
    ({ s with bindings := s.bindings.erase c, memberships := memberships } : Session).Inv where
  bound_iff := by
    refine MapsAgree.unbind (m := s.memberships) hi.bound_iff hbound
      (fun q hq => congrArg (Option.map _) (hothers q hq)) fun c' hc' => ?_
    rcases hnext with hnone | ⟨expiresAt, hsome, -⟩
    · rw [hnone] at hc'
      cases hc'
    · rw [hsome] at hc'
      cases hc'
  memberships_le := hsize.trans hi.memberships_le
  claimed := fun q r hr => by
    by_cases hq : q = p
    · subst hq
      obtain ⟨r', hr', -⟩ := membershipState_eq_some.mp hbound
      exact hi.claimed q r' hr'
    · exact hi.claimed q r (hothers q hq ▸ hr)
  unexpired := fun q expiresAt hq => by
    by_cases hp : q = p
    · subst hp
      change stateAt memberships q = _ at hq
      rcases hnext with hnone | ⟨e, hsome, hlt⟩
      · rw [hnone] at hq
        cases hq
      · rw [hsome] at hq
        cases hq
        exact hlt
    · refine hi.unexpired q expiresAt ?_
      rw [← hq, membershipState, membershipState, hothers q hp]
  closed_empty := fun hclosed => by
    rw [hopen] at hclosed
    cases hclosed

/-- Memberships that are not bound end. -/
theorem Inv.drop (hi : s.Inv) (hopen : s.phase = .open) {now : RecoveryTime}
    {memberships : SortedMap ParticipantId MembershipRecord}
    (hkept : ∀ q r, memberships.get? q = some r → s.memberships.get? q = some r)
    (hdropped : ∀ q, memberships.get? q = none → ∀ c, s.membershipState q ≠ some (.bound c))
    (hsize : memberships.size ≤ s.memberships.size)
    (hlive : ∀ q expiresAt, stateAt memberships q = some (.unbound expiresAt) → now < expiresAt) :
    ({ s with recoveryClock := now, memberships := memberships } : Session).Inv where
  bound_iff := by
    refine MapsAgree.move (m := s.memberships) hi.bound_iff fun q => ?_
    cases hq : memberships.get? q with
    | none => exact .inr ⟨hdropped q hq, fun c => by simp only [stateAt, hq]; nofun⟩
    | some r => exact .inl (by simp only [stateAt, hq, hkept q r hq])
  memberships_le := hsize.trans hi.memberships_le
  claimed := fun q r hr => hi.claimed q r (hkept q r hr)
  unexpired := hlive
  closed_empty := fun hclosed => by
    rw [hopen] at hclosed
    cases hclosed

theorem Inv.member_bound (hi : s.Inv) {p : ParticipantId} (hnew : p ∉ s.usedParticipants.used) :
    s.memberships.get? p = none := by
  cases hp : s.memberships.get? p with
  | none => rfl
  | some r => exact absurd (hi.claimed p r hp) hnew

theorem Effect.inv (hi : s.Inv) (h : Effect s op reply s') : s'.Inv := by
  cases h with
  | refused herror hexpired => exact hi
  | @admitted p established hopen hroom hfree hnew =>
    have hnone := hi.member_bound hnew
    have hi' : ({ s with usedParticipants :=
        { s.usedParticipants with used := insert p s.usedParticipants.used } } : Session).Inv :=
      ⟨hi.bound_iff, hi.memberships_le,
        fun q r hr => Finset.mem_insert_of_mem (hi.claimed q r hr), hi.unexpired, hi.closed_empty⟩
    refine hi'.bind hopen hfree (fun c' hc' => ?_) ?_ (Finset.mem_insert_self _ _)
    · simp only [membershipState, hnone] at hc'
      cases hc'
    · rw [SortedMap.size_insert_of_none _ hnone]
      exact hroom
  | @terminated p c hopen hbound =>
    refine hi.unbind hopen hbound (fun q hq => SortedMap.get?_erase_ne _ hq) (.inl ?_)
      (SortedMap.size_erase_le _ _)
    rw [stateAt_erase, if_pos rfl]
  | @retained p c duration expiresAt hopen hbound hexpiry =>
    obtain ⟨r, hr, -⟩ := membershipState_eq_some.mp hbound
    refine hi.unbind hopen hbound (fun q hq => SortedMap.get?_insert_ne _ _ hq)
      (.inr ⟨expiresAt, ?_, hexpiry⟩) (SortedMap.size_insert_of_some _ hr).le
    rw [stateAt_insert, if_pos rfl]
  | @rebound p established r expiresAt hopen hfree hrecord hunbound hprevious =>
    refine hi.bind hopen hfree (fun c' hc' => ?_) ?_ (hi.claimed p r hrecord)
    · simp only [membershipState, hrecord, Option.map_some, hunbound] at hc'
      cases hc'
    · rw [SortedMap.size_insert_of_some _ hrecord]
      exact hi.memberships_le
  | @removed p r hopen hrecord =>
    cases hstate : r.state with
    | bound c =>
      refine hi.unbind hopen (membershipState_eq_some.mpr ⟨r, hrecord, hstate⟩)
        (fun q hq => SortedMap.get?_erase_ne _ hq) (.inl ?_) (SortedMap.size_erase_le _ _)
      rw [stateAt_erase, if_pos rfl]
    | unbound expiresAt =>
      refine hi.drop hopen (fun q r' hr' => ?_) (fun q hq c hc => ?_)
        (SortedMap.size_erase_le _ _) fun q e hq => ?_
      · rw [SortedMap.get?_erase] at hr'
        split at hr'
        · cases hr'
        · exact hr'
      · rw [SortedMap.get?_erase] at hq
        split at hq
        · rename_i heq
          subst heq
          simp only [membershipState, hrecord, Option.map_some, hstate] at hc
          cases hc
        · rw [membershipState, hq] at hc
          cases hc
      · rw [stateAt_erase] at hq
        split at hq
        · cases hq
        · exact hi.unexpired q e hq
  | @advanced now hopen hle =>
    refine hi.drop hopen (fun q r hr => ?_) (fun q hq c hc => ?_)
      (SortedMap.size_foldl_erase_le _ _) fun q e hq => ?_
    · rw [SortedMap.get?_foldl_erase] at hr
      split at hr
      · cases hr
      · exact hr
    · rw [SortedMap.get?_foldl_erase] at hq
      split at hq
      · rename_i hmem
        obtain ⟨e, he, -⟩ := mem_expired.mp hmem
        rw [he] at hc
        cases hc
      · rw [membershipState, hq] at hc
        cases hc
    · -- what the clock has not passed is kept
      simp only [stateAt, SortedMap.get?_foldl_erase] at hq
      split at hq
      · cases hq
      · rename_i hmem
        by_contra hle'
        exact hmem (mem_expired.mpr ⟨e, hq, not_lt.mp hle'⟩)
  | closed =>
    exact ⟨fun _ _ => ⟨nofun, nofun⟩, Nat.zero_le _, nofun, nofun, fun _ => ⟨rfl, rfl⟩⟩

end Preservation

/-! ### What every operation leaves -/

section Steps

variable {s s' : Session} {op : SessionOp} {reply : SessionReply}

theorem Effect.clock_le (h : Effect s op reply s') : s.recoveryClock ≤ s'.recoveryClock := by
  cases h with
  | advanced _ hle => exact hle
  | _ => exact le_refl _

theorem Effect.used_subset (h : Effect s op reply s') :
    s.usedParticipants.used ⊆ s'.usedParticipants.used := by
  cases h with
  | admitted => exact Finset.subset_insert _ _
  | _ => exact Finset.Subset.refl _

/-- A participant whose membership ended has none later. -/
theorem Effect.departed (h : Effect s op reply s') {p : ParticipantId}
    (hused : p ∈ s.usedParticipants.used) (hnone : s.memberships.get? p = none) :
    s'.memberships.get? p = none := by
  cases h with
  | refused => exact hnone
  | @admitted q _ _ _ _ hnew =>
    have hne : p ≠ q := fun he => hnew (he ▸ hused)
    rw [bind, SortedMap.get?_insert_ne _ _ hne]
    exact hnone
  | terminated | removed =>
    rw [SortedMap.get?_erase, hnone, ite_self]
  | retained _ hbound =>
    obtain ⟨r, hr, -⟩ := membershipState_eq_some.mp hbound
    rw [SortedMap.get?_insert_ne _ _ fun he => by rw [he, hr] at hnone; cases hnone]
    exact hnone
  | rebound _ _ hrecord =>
    rw [bind, SortedMap.get?_insert_ne _ _ fun he => by rw [he, hrecord] at hnone; cases hnone]
    exact hnone
  | advanced =>
    rw [SortedMap.get?_foldl_erase, hnone, ite_self]
  | closed => rfl

theorem Effect.limits_eq (h : Effect s op reply s') : s'.limits = s.limits := by
  cases h <;> rfl

theorem Effect.refused_eq (h : Effect s op reply s') {e : SessionError}
    (he : reply.error? = some e) : s' = s ∧ e ≠ .membershipExpired := by
  cases h with
  | refused herror hexpired =>
    rw [herror] at he
    cases he
    exact ⟨rfl, hexpired⟩
  | _ => cases he

theorem Effect.closed_absorbs (h : Effect s op reply s') (hclosed : s.phase = .closed) :
    s'.phase = .closed := by
  cases h with
  | refused => exact hclosed
  | closed => rfl
  | admitted hopen | terminated hopen | retained hopen | rebound hopen | removed hopen
  | advanced hopen =>
    rw [hopen] at hclosed
    cases hclosed

end Steps

end Session

end RunenNet
