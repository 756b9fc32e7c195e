import RunenNet.Core.Input.AuthoritySafety

/-!
# Accounting of authority input

`Balanced` says that the totals of an input session are the sums over its participants, that every
limit holds and that every retained tick lies in its window. Each operation keeps it, and in a
balanced session the checked arithmetic never fails (`exec_sound`).
-/

namespace RunenNet

open Foundation

namespace AuthorityInputSession

variable {I : Type}

/-- The checked totals are the sums, where these are machine integers. -/
theorem removedTotals_from {α : Type} (keys bytes : α → Nat) (removed : List α) (k b : Nat)
    (hk : k + (removed.map keys).sum ≤ usizeMax) (hb : b + (removed.map bytes).sum ≤ usizeMax) :
    removed.foldlM (fun (total : Nat × Nat) x => do
      let removedKeys ← checkedAdd usizeMax total.1 (keys x)
      let removedBytes ← checkedAdd usizeMax total.2 (bytes x)
      return (removedKeys, removedBytes)) (k, b)
      = some (k + (removed.map keys).sum, b + (removed.map bytes).sum) := by
  induction removed generalizing k b with
  | nil => rfl
  | cons x removed ih =>
    rw [List.map_cons, List.sum_cons, ← Nat.add_assoc] at hk hb
    have hkeys : checkedAdd usizeMax k (keys x) = some (k + keys x) :=
      checkedAdd_eq_some.mpr ⟨by omega, rfl⟩
    have hbytes : checkedAdd usizeMax b (bytes x) = some (b + bytes x) :=
      checkedAdd_eq_some.mpr ⟨by omega, rfl⟩
    rw [List.foldlM_cons]
    simp only [hkeys, hbytes, Option.bind_eq_bind, Option.bind_some, Option.pure_def]
    rw [List.map_cons, List.map_cons, List.sum_cons, List.sum_cons, ← Nat.add_assoc,
      ← Nat.add_assoc]
    exact ih _ _ hk hb

theorem removedTotals_eq {α : Type} {keys bytes : α → Nat} {removed : List α}
    (hk : (removed.map keys).sum ≤ usizeMax) (hb : (removed.map bytes).sum ≤ usizeMax) :
    removedTotals keys bytes removed
      = some ((removed.map keys).sum, (removed.map bytes).sum) := by
  have h := removedTotals_from keys bytes removed 0 0 (by omega) (by omega)
  rwa [Nat.zero_add, Nat.zero_add] at h

end AuthorityInputSession

/-- What holds of the inputs of one participant. -/
structure ParticipantInputState.Balanced {I : Type} (s : ParticipantInputState I) : Prop where
  bytes_exact : s.retainedBytes = s.retained.sum fun _ r => r.accountedBytes
  keys_le : s.retained.size ≤ s.limits.maxRetainedKeysPerParticipant.get
  bytes_le : s.retainedBytes ≤ s.limits.maxRetainedBytesPerParticipant.get
  in_window : ∀ tick r, s.retained.get? tick = some r →
    s.window.minimum ≤ tick ∧ tick ≤ s.window.maximum
  span_le : s.window.span ≤ s.limits.maxFutureTickDistance

namespace ParticipantInputState

variable {I : Type} {s : ParticipantInputState I}

theorem balanced_new {limits : AuthorityInputLimits} {window : InputWindow}
    (h : window.span ≤ limits.maxFutureTickDistance) :
    (new limits window : ParticipantInputState I).Balanced where
  bytes_exact := rfl
  keys_le := Nat.zero_le _
  bytes_le := Nat.zero_le _
  in_window := nofun
  span_le := h

/-- The participant after its window moved. -/
def advanced (s : ParticipantInputState I) (next : InputWindow) : ParticipantInputState I :=
  { s with
    retained := s.retained.splitOff next.minimum
    retainedBytes := (s.retained.splitOff next.minimum).sum fun _ r => r.accountedBytes
    window := next }

theorem size_splitOff_le (s : ParticipantInputState I) (minimum : SimulationTick) :
    (s.retained.splitOff minimum).size ≤ s.retained.size := List.length_filter_le _ _

theorem Balanced.advanced (h : s.Balanced) {next : InputWindow}
    (hmax : s.window.maximum ≤ next.maximum) (hspan : next.span ≤ s.limits.maxFutureTickDistance) :
    (s.advanced next).Balanced where
  bytes_exact := rfl
  keys_le := (s.size_splitOff_le _).trans h.keys_le
  bytes_le := by
    refine Nat.le_trans ?_ h.bytes_le
    rw [h.bytes_exact, ← s.retained.sum_splitOff _ next.minimum]
    exact Nat.le_add_left _ _
  in_window := fun tick r hr => by
    simp only [ParticipantInputState.advanced, SortedMap.get?_splitOff] at hr
    split at hr
    · rename_i hle
      exact ⟨hle, (h.in_window tick r hr).2.trans hmax⟩
    · cases hr
  span_le := hspan

/-- The participant with one more input. -/
def accepting (s : ParticipantInputState I) (tick : SimulationTick) (r : RetainedInput I) :
    ParticipantInputState I :=
  { s with
    retained := s.retained.insert tick r
    retainedBytes := s.retainedBytes + r.accountedBytes }

theorem Balanced.accepting (h : s.Balanced) {tick : SimulationTick} {r : RetainedInput I}
    (hnew : s.retained.get? tick = none) (hmin : s.window.minimum ≤ tick)
    (hmax : tick ≤ s.window.maximum)
    (hkeys : s.retained.size < s.limits.maxRetainedKeysPerParticipant.get)
    (hbytes : s.retainedBytes + r.accountedBytes ≤ s.limits.maxRetainedBytesPerParticipant.get) :
    (s.accepting tick r).Balanced where
  bytes_exact := by
    simp only [ParticipantInputState.accepting]
    rw [SortedMap.sum_insert, SortedMap.erase_of_get?_none hnew, h.bytes_exact, Nat.add_comm]
  keys_le := by
    simp only [ParticipantInputState.accepting]
    rw [SortedMap.size_insert_of_none _ hnew]
    exact hkeys
  bytes_le := hbytes
  in_window := fun tick' r' hr => by
    simp only [ParticipantInputState.accepting, SortedMap.get?_insert] at hr
    split at hr
    · rename_i he
      subst he
      exact ⟨hmin, hmax⟩
    · exact h.in_window tick' r' hr
  span_le := h.span_le

end ParticipantInputState

namespace AuthorityInputSession

variable {I : Type} {a a' : AuthorityInputSession I} {p : ParticipantId}

/-- The invariant of a session. -/
structure Balanced (a : AuthorityInputSession I) : Prop where
  participant : ∀ p s, a.participants.get? p = some s → s.Balanced
  keys_exact : a.retainedKeys = a.participants.sum fun _ s => s.retained.size
  bytes_exact : a.retainedBytes = a.participants.sum fun _ s => s.retainedBytes
  keys_le : a.retainedKeys ≤ a.limits.maxRetainedKeys.get
  bytes_le : a.retainedBytes ≤ a.limits.maxRetainedBytes.get

theorem balanced_new (session : SessionId) (limits : AuthorityInputAggregateLimits) :
    (new session limits : AuthorityInputSession I).Balanced where
  participant := nofun
  keys_exact := rfl
  bytes_exact := rfl
  keys_le := Nat.zero_le _
  bytes_le := Nat.zero_le _

/-- The session with the state of one participant replaced, and totals to match. -/
def settled (a : AuthorityInputSession I) (p : ParticipantId) (s : ParticipantInputState I) :
    AuthorityInputSession I :=
  { a with
    participants := a.participants.insert p s
    retainedKeys := (a.participants.insert p s).sum fun _ s => s.retained.size
    retainedBytes := (a.participants.insert p s).sum fun _ s => s.retainedBytes }

theorem Balanced.settled (h : a.Balanced) {s : ParticipantInputState I} (hs : s.Balanced)
    (hkeys : (a.settled p s).retainedKeys ≤ a.limits.maxRetainedKeys.get)
    (hbytes : (a.settled p s).retainedBytes ≤ a.limits.maxRetainedBytes.get) :
    (a.settled p s).Balanced where
  participant := fun q s' hq => by
    simp only [AuthorityInputSession.settled, SortedMap.get?_insert] at hq
    split at hq
    · cases hq
      exact hs
    · exact h.participant q s' hq
  keys_exact := rfl
  bytes_exact := rfl
  keys_le := hkeys
  bytes_le := hbytes

/-- The totals of a session that replaces the state of a configured participant. -/
theorem Balanced.totals (h : a.Balanced) {s : ParticipantInputState I}
    (hp : a.participants.get? p = some s) (s' : ParticipantInputState I) :
    a.retainedKeys + s'.retained.size = (a.settled p s').retainedKeys + s.retained.size ∧
      a.retainedBytes + s'.retainedBytes
        = (a.settled p s').retainedBytes + s.retainedBytes := by
  have hkeys := SortedMap.sum_of_get? (fun _ s => s.retained.size) hp
  have hbytes := SortedMap.sum_of_get? (fun _ s => s.retainedBytes) hp
  simp only [AuthorityInputSession.settled, SortedMap.sum_insert]
  rw [h.keys_exact, h.bytes_exact, hkeys, hbytes]
  omega

/-! ### What an operation does in a balanced session -/

/-- The errors of an operation, those of the accounting apart. -/
def Refusal (e : AuthorityInputError) : Prop :=
  e ≠ .accountingOverflow ∧ e ≠ .accountingInvariantViolation

theorem Balanced.addParticipant (h : a.Balanced) (session : Session) (p : ParticipantId)
    (window : InputWindow) (limits : AuthorityInputLimits) {r : Except AuthorityInputError Unit}
    (hr : a.addParticipant session p window limits = (r, a')) :
    (∃ e, r = .error e ∧ Refusal e ∧ a' = a) ∨
      (r = .ok () ∧ a.participants.get? p = none ∧
        window.span ≤ limits.maxFutureTickDistance ∧ a' = a.settled p (.new limits window)) := by
  unfold AuthorityInputSession.addParticipant at hr
  split at hr
  · cases hr
    exact .inl ⟨_, rfl, by simp [Refusal], rfl⟩
  · split at hr
    · cases hr
      exact .inl ⟨_, rfl, by simp [Refusal], rfl⟩
    · split at hr
      · cases hr
        exact .inl ⟨_, rfl, by simp [Refusal], rfl⟩
      · rename_i hnew
        have hnone := SortedMap.contains_eq_false.mp (Bool.eq_false_iff.mpr hnew)
        split at hr
        · cases hr
          exact .inl ⟨_, rfl, by simp [Refusal], rfl⟩
        · rename_i hspan
          cases hr
          refine .inr ⟨rfl, hnone, not_lt.mp hspan, ?_⟩
          rw [AuthorityInputSession.settled, SortedMap.sum_insert, SortedMap.sum_insert,
            SortedMap.erase_of_get?_none hnone, ← h.keys_exact, ← h.bytes_exact]
          exact congrArg₂ (AuthorityInputSession.mk a.session a.limits _) (Nat.zero_add _).symm
            (Nat.zero_add _).symm

theorem Balanced.advanceWindow (h : a.Balanced) (p : ParticipantId) (next : InputWindow)
    {r : Except AuthorityInputError Unit} (hr : a.advanceWindow p next = (r, a')) :
    (∃ e, r = .error e ∧ Refusal e ∧ a' = a) ∨
      (r = .ok () ∧ ∃ s, a.participants.get? p = some s ∧ s.window.minimum ≤ next.minimum ∧
        s.window.maximum ≤ next.maximum ∧ next.span ≤ s.limits.maxFutureTickDistance ∧
        a' = a.settled p (s.advanced next)) := by
  unfold AuthorityInputSession.advanceWindow at hr
  split at hr
  · cases hr
    exact .inl ⟨_, rfl, by simp [Refusal], rfl⟩
  · rename_i s hs
    split at hr
    · cases hr
      exact .inl ⟨_, rfl, by simp [Refusal], rfl⟩
    · rename_i hmin
      split at hr
      · cases hr
        exact .inl ⟨_, rfl, by simp [Refusal], rfl⟩
      · rename_i hmax
        split at hr
        · cases hr
          exact .inl ⟨_, rfl, by simp [Refusal], rfl⟩
        · rename_i hspan
          refine .inr ?_
          have hbal := h.participant p s hs
          obtain ⟨hkeys, hbytes⟩ := h.totals hs (s.advanced next)
          have hbelow := s.retained.sum_splitOff (fun _ _ => 1) next.minimum
          have hbelow' := s.retained.sum_splitOff (fun _ r => r.accountedBytes) next.minimum
          have hsize : (s.advanced next).retained.size
              = (s.retained.splitOff next.minimum).sum fun _ _ => 1 := SortedMap.size_eq_sum _
          have hsum : (s.advanced next).retainedBytes
              = (s.retained.splitOff next.minimum).sum fun _ r => r.accountedBytes := rfl
          rw [← s.retained.size_eq_sum] at hbelow
          rw [← hbal.bytes_exact] at hbelow'
          have hk := hbal.keys_le.trans s.limits.maxRetainedKeysPerParticipant.le_max
          have hb := hbal.bytes_le.trans s.limits.maxRetainedBytesPerParticipant.le_max
          rw [removedTotals_eq (by omega) (by omega)] at hr
          simp only at hr
          have h₁ : checkedSub s.retainedBytes
              ((s.retained.below next.minimum).map fun e => e.2.accountedBytes).sum
              = some (s.advanced next).retainedBytes :=
            checkedSub_eq_some.mpr ⟨by omega, by omega⟩
          have h₂ : checkedSub a.retainedKeys ((s.retained.below next.minimum).map fun _ => 1).sum
              = some (a.settled p (s.advanced next)).retainedKeys :=
            checkedSub_eq_some.mpr ⟨by omega, by omega⟩
          have h₃ : checkedSub a.retainedBytes
              ((s.retained.below next.minimum).map fun e => e.2.accountedBytes).sum
              = some (a.settled p (s.advanced next)).retainedBytes :=
            checkedSub_eq_some.mpr ⟨by omega, by omega⟩
          rw [h₁, h₂, h₃] at hr
          cases hr
          exact ⟨rfl, s, hs, not_lt.mp hmin, not_lt.mp hmax, not_lt.mp hspan, rfl⟩

/-- The session without the departed participants. -/
def reconciled (a : AuthorityInputSession I) (session : Session) : AuthorityInputSession I :=
  let participants := ((a.departed session).map Prod.fst).foldl SortedMap.erase a.participants
  { a with
    participants := participants
    retainedKeys := participants.sum fun _ s => s.retained.size
    retainedBytes := participants.sum fun _ s => s.retainedBytes }

theorem Balanced.reconcileMemberships (h : a.Balanced) (session : Session)
    {r : Except AuthorityInputError (List ParticipantId)}
    (hr : a.reconcileMemberships session = (r, a')) :
    (∃ e, r = .error e ∧ Refusal e ∧ a' = a) ∨
      (r = .ok ((a.departed session).map Prod.fst) ∧ a' = a.reconciled session) := by
  unfold AuthorityInputSession.reconcileMemberships at hr
  split at hr
  · cases hr
    exact .inl ⟨_, rfl, by simp [Refusal], rfl⟩
  · refine .inr ?_
    have hkeys := a.participants.sum_foldl_erase (fun _ s => s.retained.size)
      fun e => (session.membershipState e.1).isNone
    have hbytes := a.participants.sum_foldl_erase (fun _ s => s.retainedBytes)
      fun e => (session.membershipState e.1).isNone
    rw [← h.keys_exact] at hkeys
    rw [← h.bytes_exact] at hbytes
    change ((a.departed session).map _).sum + (a.reconciled session).retainedKeys = _ at hkeys
    change ((a.departed session).map _).sum + (a.reconciled session).retainedBytes = _ at hbytes
    have hk := h.keys_le.trans a.limits.maxRetainedKeys.le_max
    have hb := h.bytes_le.trans a.limits.maxRetainedBytes.le_max
    rw [removedTotals_eq (by omega) (by omega)] at hr
    simp only at hr
    have h₁ : checkedSub a.retainedKeys
        ((a.departed session).map fun e => e.2.retained.size).sum
        = some (a.reconciled session).retainedKeys := checkedSub_eq_some.mpr ⟨by omega, by omega⟩
    have h₂ : checkedSub a.retainedBytes
        ((a.departed session).map fun e => e.2.retainedBytes).sum
        = some (a.reconciled session).retainedBytes := checkedSub_eq_some.mpr ⟨by omega, by omega⟩
    rw [h₁, h₂] at hr
    cases hr
    exact ⟨rfl, rfl⟩

/-- The totals that admit an input are those of the session that has it. -/
theorem admissible_spec {s : ParticipantInputState I} {bytes : Nat} {totals : Nat × Nat × Nat}
    (h : a.admissible s bytes = some totals) :
    s.retained.size < s.limits.maxRetainedKeysPerParticipant.get ∧
      totals = (s.retainedBytes + bytes, a.retainedKeys + 1, a.retainedBytes + bytes) ∧
      s.retainedBytes + bytes ≤ s.limits.maxRetainedBytesPerParticipant.get ∧
      a.retainedKeys + 1 ≤ a.limits.maxRetainedKeys.get ∧
      a.retainedBytes + bytes ≤ a.limits.maxRetainedBytes.get := by
  unfold admissible at h
  split at h
  · cases h
  · rename_i hroom
    simp only [Option.bind_eq_bind, Option.bind_eq_some_iff, checkedAdd_eq_some] at h
    obtain ⟨participantBytes, ⟨-, rfl⟩, h⟩ := h
    split at h
    · cases h
    · rename_i hparticipant
      simp only [Option.bind_eq_some_iff, checkedAdd_eq_some] at h
      obtain ⟨keys, ⟨-, rfl⟩, h⟩ := h
      split at h
      · cases h
      · rename_i hkeys
        simp only [Option.bind_eq_some_iff, checkedAdd_eq_some] at h
        obtain ⟨total, ⟨-, rfl⟩, h⟩ := h
        split at h
        · cases h
        · rename_i hbytes
          cases h
          refine ⟨?_, rfl, not_lt.mp hparticipant, not_lt.mp hkeys, not_lt.mp hbytes⟩
          omega

theorem Balanced.submit [DecidableEq I] (h : a.Balanced) (session : Session) (p : ParticipantId)
    (c : ConnectionHandle) (tick : SimulationTick) (input : I) (bytes : Nat)
    {r : Except AuthorityInputError AuthorityInputOutcome}
    (hr : a.submit session p c tick input bytes = (r, a')) :
    (r ≠ .ok .inputAccepted ∧ (∀ e, r = .error e → Refusal e) ∧ a' = a) ∨
      (r = .ok .inputAccepted ∧ a'.Balanced ∧ ∃ s, a.participants.get? p = some s ∧
        a' = a.settled p (s.accepting tick ⟨input, bytes⟩)) := by
  unfold AuthorityInputSession.submit at hr
  split at hr
  · cases hr
    exact .inl ⟨by simp, fun e he => by cases he; simp [Refusal], rfl⟩
  · split at hr
    · cases hr
      exact .inl ⟨by simp, by simp, rfl⟩
    · split at hr
      · cases hr
        exact .inl ⟨by simp, fun e he => by cases he; simp [Refusal], rfl⟩
      · rename_i s hs
        split at hr
        · cases hr
          exact .inl ⟨by simp, by simp, rfl⟩
        · rename_i hmin
          split at hr
          · cases hr
            refine .inl ⟨?_, by simp, rfl⟩
            split <;> simp
          · rename_i hnew
            split at hr
            · cases hr
              exact .inl ⟨by simp, by simp, rfl⟩
            · rename_i hmax
              split at hr
              · cases hr
                exact .inl ⟨by simp, by simp, rfl⟩
              · rename_i participantBytes keys total hadm
                cases hr
                obtain ⟨hsize, htotals, hparticipant, hkeys, hbytes⟩ := admissible_spec hadm
                cases htotals
                have hbal := (h.participant p s hs).accepting (r := ⟨input, bytes⟩) hnew
                  (not_lt.mp hmin) (not_lt.mp hmax) hsize hparticipant
                obtain ⟨hk, hb⟩ := h.totals hs (s.accepting tick ⟨input, bytes⟩)
                have hinsert : (s.accepting tick ⟨input, bytes⟩).retained.size
                    = s.retained.size + 1 := SortedMap.size_insert_of_none _ hnew
                have hplus : (s.accepting tick ⟨input, bytes⟩).retainedBytes
                    = s.retainedBytes + bytes := rfl
                have hk' : a.retainedKeys + 1
                    = (a.settled p (s.accepting tick ⟨input, bytes⟩)).retainedKeys := by omega
                have hb' : a.retainedBytes + bytes
                    = (a.settled p (s.accepting tick ⟨input, bytes⟩)).retainedBytes := by omega
                refine .inr ⟨rfl, ?_, s, hs, ?_⟩
                all_goals rw [hk', hb']
                · exact h.settled hbal (hk' ▸ hkeys) (hb' ▸ hbytes)
                · rfl

theorem Balanced.reconciled (h : a.Balanced) (session : Session) :
    (a.reconciled session).Balanced where
  participant := fun p s hp => h.participant p s (SortedMap.get?_of_foldl_erase hp)
  keys_exact := rfl
  bytes_exact := rfl
  keys_le := by
    refine Nat.le_trans ?_ h.keys_le
    rw [h.keys_exact, ← a.participants.sum_foldl_erase _
      fun e => (session.membershipState e.1).isNone]
    exact Nat.le_add_left _ _
  bytes_le := by
    refine Nat.le_trans ?_ h.bytes_le
    rw [h.bytes_exact, ← a.participants.sum_foldl_erase _
      fun e => (session.membershipState e.1).isNone]
    exact Nat.le_add_left _ _

/-! ### Runs -/

/-- A call of the input session; `session` is whatever session it is made with. -/
inductive Call (I : Type) where
  | addParticipant (session : Session) (p : ParticipantId) (window : InputWindow)
      (limits : AuthorityInputLimits)
  | advanceWindow (p : ParticipantId) (next : InputWindow)
  | reconcileMemberships (session : Session)
  | submit (session : Session) (p : ParticipantId) (c : ConnectionHandle) (tick : SimulationTick)
      (input : I) (accountedBytes : Nat)

inductive Answer where
  | done (r : Except AuthorityInputError Unit)
  | released (r : Except AuthorityInputError (List ParticipantId))
  | submitted (r : Except AuthorityInputError AuthorityInputOutcome)
  deriving DecidableEq

def Answer.error : Answer → Option AuthorityInputError
  | .done (.error e) | .released (.error e) | .submitted (.error e) => some e
  | _ => none

def exec [DecidableEq I] (a : AuthorityInputSession I) : Call I → Answer × AuthorityInputSession I
  | .addParticipant session p window limits =>
    let (r, a) := a.addParticipant session p window limits
    (.done r, a)
  | .advanceWindow p next =>
    let (r, a) := a.advanceWindow p next
    (.done r, a)
  | .reconcileMemberships session =>
    let (r, a) := a.reconcileMemberships session
    (.released r, a)
  | .submit session p c tick input accountedBytes =>
    let (r, a) := a.submit session p c tick input accountedBytes
    (.submitted r, a)

def run [DecidableEq I] (session : SessionId) (limits : AuthorityInputAggregateLimits)
    (calls : List (Call I)) : AuthorityInputSession I :=
  calls.foldl (fun a call => (a.exec call).2) (new session limits)

/-- A participant that stays configured keeps its limits and moves its window forward only. -/
def Forward (a a' : AuthorityInputSession I) : Prop :=
  ∀ p s s', a.participants.get? p = some s → a'.participants.get? p = some s' →
    s.window.minimum ≤ s'.window.minimum ∧ s.window.maximum ≤ s'.window.maximum ∧
      s'.limits = s.limits

theorem forward_refl (a : AuthorityInputSession I) : Forward a a := fun p s s' hs hs' => by
  rw [hs] at hs'
  cases hs'
  exact ⟨le_rfl, le_rfl, rfl⟩

theorem forward_settled {s : ParticipantInputState I}
    (h : ∀ old, a.participants.get? p = some old → old.window.minimum ≤ s.window.minimum ∧
      old.window.maximum ≤ s.window.maximum ∧ s.limits = old.limits) :
    Forward a (a.settled p s) := fun q old new hold hnew => by
  simp only [settled, SortedMap.get?_insert] at hnew
  split at hnew
  · rename_i hq
    subst hq
    cases hnew
    exact h old hold
  · exact forward_refl a q old new hold hnew

theorem forward_reconciled (session : Session) : Forward a (a.reconciled session) :=
  fun p s s' hs hs' => forward_refl a p s s' hs (SortedMap.get?_of_foldl_erase hs')

/-- What one call does to a balanced session. -/
structure Sound (a : AuthorityInputSession I) (answer : Answer) (a' : AuthorityInputSession I) :
    Prop where
  balanced : a'.Balanced
  forward : Forward a a'
  /-- No error is one of the accounting, and none changes anything. -/
  error : ∀ e, answer.error = some e → Refusal e ∧ a' = a
  unaccepted : ∀ o, answer = .submitted (.ok o) → o ≠ .inputAccepted → a' = a

theorem Balanced.kept (h : a.Balanced) {answer : Answer}
    (he : ∀ e, answer.error = some e → Refusal e) : Sound a answer a :=
  ⟨h, forward_refl a, fun e hr => ⟨he e hr, rfl⟩, fun _ _ _ => rfl⟩

theorem Balanced.exec_sound [DecidableEq I] (h : a.Balanced) (call : Call I) :
    Sound a (a.exec call).1 (a.exec call).2 := by
  cases call with
  | addParticipant session p window limits =>
    rcases hr : a.addParticipant session p window limits with ⟨r, a'⟩
    simp only [exec, hr]
    obtain ⟨e, rfl, he, rfl⟩ | ⟨rfl, hnone, hspan, rfl⟩ := h.addParticipant session p window limits hr
    · exact h.kept fun e' hr => by cases hr; exact he
    · have hbal := ParticipantInputState.balanced_new (I := I) hspan
      refine ⟨h.settled hbal ?_ ?_, forward_settled fun old hold => ?_, nofun, nofun⟩
      · simp only [AuthorityInputSession.settled, SortedMap.sum_insert,
          SortedMap.erase_of_get?_none hnone]
        rw [← h.keys_exact]
        exact (Nat.zero_add _).trans_le h.keys_le
      · simp only [AuthorityInputSession.settled, SortedMap.sum_insert,
          SortedMap.erase_of_get?_none hnone]
        rw [← h.bytes_exact]
        exact (Nat.zero_add _).trans_le h.bytes_le
      · rw [hnone] at hold
        cases hold
  | advanceWindow p next =>
    rcases hr : a.advanceWindow p next with ⟨r, a'⟩
    simp only [exec, hr]
    obtain ⟨e, rfl, he, rfl⟩ | ⟨rfl, s, hs, hmin, hmax, hspan, rfl⟩ := h.advanceWindow p next hr
    · exact h.kept fun e' hr => by cases hr; exact he
    · have hbal := h.participant p s hs
      obtain ⟨hkeys, hbytes⟩ := h.totals hs (s.advanced next)
      have hsize := s.size_splitOff_le next.minimum
      have hsum := s.retained.sum_splitOff (fun _ r => r.accountedBytes) next.minimum
      rw [← hbal.bytes_exact] at hsum
      change s.retained.size ≥ (s.advanced next).retained.size at hsize
      change _ + (s.advanced next).retainedBytes = _ at hsum
      have hk := h.keys_le
      have hb := h.bytes_le
      refine ⟨h.settled (hbal.advanced hmax hspan) (by omega) (by omega),
        forward_settled fun old hold => ?_, nofun, nofun⟩
      rw [hs] at hold
      cases hold
      exact ⟨hmin, hmax, rfl⟩
  | reconcileMemberships session =>
    rcases hr : a.reconcileMemberships session with ⟨r, a'⟩
    simp only [exec, hr]
    obtain ⟨e, rfl, he, rfl⟩ | ⟨rfl, rfl⟩ := h.reconcileMemberships session hr
    · exact h.kept fun e' hr => by cases hr; exact he
    · exact ⟨h.reconciled session, forward_reconciled session, nofun, nofun⟩
  | submit session p c tick input accountedBytes =>
    rcases hr : a.submit session p c tick input accountedBytes with ⟨r, a'⟩
    simp only [exec, hr]
    obtain ⟨hne, he, rfl⟩ | ⟨rfl, hbal, s, hs, rfl⟩ :=
      h.submit session p c tick input accountedBytes hr
    · refine h.kept fun e' hr => he e' ?_
      cases r with
      | error e => cases hr; rfl
      | ok o => cases hr
    · refine ⟨hbal, forward_settled fun old hold => ?_, nofun, fun o ho hne => ?_⟩
      · rw [hs] at hold
        cases hold
        exact ⟨le_rfl, le_rfl, rfl⟩
      · cases ho
        exact absurd rfl hne

theorem run_balanced [DecidableEq I] (session : SessionId) (limits : AuthorityInputAggregateLimits)
    (calls : List (Call I)) : (run session limits calls).Balanced := by
  induction calls using List.reverseRecOn with
  | nil => exact balanced_new session limits
  | append_singleton calls call ih =>
    rw [run, List.foldl_append]
    exact (ih.exec_sound call).balanced

/-- In every reachable session the totals are the sums over the participants and within the limits,
and every call keeps that, moves windows forward only, never fails in its accounting and changes
nothing unless it succeeds. -/
theorem accounting_exact [DecidableEq I] (session : SessionId)
    (limits : AuthorityInputAggregateLimits) (calls : List (Call I)) :
    (run session limits calls).Balanced ∧
      ∀ call, Sound (run session limits calls) ((run session limits calls).exec call).1
        ((run session limits calls).exec call).2 :=
  ⟨run_balanced session limits calls, (run_balanced session limits calls).exec_sound⟩

end AuthorityInputSession

end RunenNet
