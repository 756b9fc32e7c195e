import RunenNet.Core.Compatibility
import RunenNet.Foundation.Transition

/-!
# Runs of a negotiation manager

Any operations on any connections in any order. Beside the manager a run keeps, for each
connection the manager knows, what was done since its attempt was started.
-/

namespace RunenNet

open Foundation

inductive NegotiationOp where
  | start (c : ConnectionHandle) (authorityOffer peerOffer : CompatibilityOffer)
  | propose (c : ConnectionHandle) (contract : NegotiatedContract)
      (requirements : NegotiationRequirements)
  | validateAuthority (c : ConnectionHandle)
  | validatePeer (c : ConnectionHandle)
  | terminate (c : ConnectionHandle)

inductive NegotiationReply where
  | started (r : Except NegotiationManagerError Unit)
  | proposed (r : Except NegotiationManagerError Unit)
  | validated (r : Except NegotiationManagerError NegotiationStatus)
  | terminated (r : Except NegotiationManagerError ConnectionNegotiationTermination)

/-- What was done for a connection since its attempt was started. -/
structure AttemptLog where
  authorityOffer : CompatibilityOffer
  peerOffer : CompatibilityOffer
  proposals : List (NegotiatedContract × NegotiationRequirements)
  authorityValidated : Bool
  peerValidated : Bool

/-- The attempts by connection. -/
abbrev AttemptLogs := ConnectionHandle → Option AttemptLog

namespace AttemptLogs

/-- The logs after an operation that was answered. -/
def after (logs : AttemptLogs) : NegotiationOp → NegotiationReply → AttemptLogs
  | .start c authorityOffer peerOffer, .started (.ok ()) =>
    Function.update logs c (some ⟨authorityOffer, peerOffer, [], false, false⟩)
  | .propose c contract requirements, .proposed (.ok ()) =>
    Function.update logs c ((logs c).map fun log =>
      { log with proposals := log.proposals ++ [(contract, requirements)] })
  | .validateAuthority c, .validated (.ok _) =>
    Function.update logs c ((logs c).map fun log => { log with authorityValidated := true })
  | .validatePeer c, .validated (.ok _) =>
    Function.update logs c ((logs c).map fun log => { log with peerValidated := true })
  | .terminate c, .terminated (.ok _) => Function.update logs c none
  | _, _ => logs

end AttemptLogs

/-- The log of an attempt that a party validated. -/
def AttemptLog.validatedBy (log : AttemptLog) (authority : Bool) : AttemptLog :=
  if authority then { log with authorityValidated := true } else { log with peerValidated := true }

namespace NegotiationManager

variable {m m' : NegotiationManager} {logs : AttemptLogs} {log : AttemptLog} {c : ConnectionHandle}

def exec (m : NegotiationManager) : NegotiationOp → Checked (NegotiationReply × NegotiationManager)
  | .start c authorityOffer peerOffer => do
    let (r, m) ← m.start c authorityOffer peerOffer
    return (.started r, m)
  | .propose c contract requirements =>
    let (r, m) := m.propose c contract requirements
    .ok (.proposed r, m)
  | .validateAuthority c => do
    let (r, m) ← m.validateAuthority c
    return (.validated r, m)
  | .validatePeer c => do
    let (r, m) ← m.validatePeer c
    return (.validated r, m)
  | .terminate c => do
    let (r, m) ← m.terminate c
    return (.terminated r, m)

/-! ### The invariant -/

/-- The attempt is what its log says, and is not yet validated by both parties. -/
structure Tracked (limits : OfferLimits) (log : AttemptLog) (a : NegotiationAttempt) : Prop where
  authorityOffer : log.authorityOffer.validate limits = .ok a.authorityOffer
  peerOffer : log.peerOffer.validate limits = .ok a.peerOffer
  limits : a.offerLimits = limits
  authorityValidated : a.authorityValidated = log.authorityValidated
  peerValidated : a.peerValidated = log.peerValidated
  proposals : (log.proposals = [] ∧ a.proposal = none ∧ a.authorityValidated = false ∧
      a.peerValidated = false) ∨
    ∃ contract r, log.proposals = [(contract, r)] ∧ a.proposal = some contract ∧
      a.Selects contract r
  pending : a.status ≠ .established

/-- An established contract is the only proposal of its attempt and validated by both parties. -/
structure Settled (limits : OfferLimits) (log : AttemptLog) (s : EstablishedState) : Prop where
  validated : log.authorityValidated = true ∧ log.peerValidated = true
  agreed : ∃ a p r, log.authorityOffer.validate limits = .ok a ∧
    log.peerOffer.validate limits = .ok p ∧ log.proposals = [(s.contract, r)] ∧
    (NegotiationAttempt.opened a p limits).Selects s.contract r
  accounted : s.contract.accountedBytes = .ok s.accountedBytes

/-- The bytes that attempts and contracts reserve. -/
def reservations (m : NegotiationManager) : Nat :=
  m.attempts.size * m.perAttemptReservation +
    m.established.sum fun _ s => s.accountedBytes

structure Inv (m : NegotiationManager) (logs : AttemptLogs) : Prop where
  reservation : m.perAttemptReservation = m.offerLimits.maxOfferAccountedBytes * 3
  disjoint : ∀ c a, m.attempts.get? c = some a → m.established.get? c = none
  reserved : m.reservedBytes = m.reservations
  within : m.reservedBytes ≤ m.limits.maxAggregateAccountedBytes ∧ m.reservedBytes ≤ usizeMax
  attempts_le : m.attempts.size ≤ m.limits.maxConcurrentAttempts
  attempts : ∀ c a, m.attempts.get? c = some a →
    ∃ log, logs c = some log ∧ Tracked m.offerLimits log a
  established : ∀ c s, m.established.get? c = some s →
    ∃ log, logs c = some log ∧ Settled m.offerLimits log s

theorem new_inv {offerLimits : OfferLimits} {limits : NegotiationManagerLimits}
    (h : new offerLimits limits = .ok m) : m.Inv fun _ => none := by
  unfold new at h
  split at h
  · cases h
  · split at h
    · cases h
    · rename_i reservation hreservation
      rw [checkedMul_eq_some] at hreservation
      split at h
      · cases h
      · cases h
        exact {
          reservation := hreservation.2
          disjoint := fun _ _ ha => by cases ha
          reserved := (Nat.zero_mul _).symm
          within := ⟨Nat.zero_le _, Nat.zero_le _⟩
          attempts_le := Nat.zero_le _
          attempts := fun _ _ ha => by cases ha
          established := fun _ _ hs => by cases hs }

/-! ### Changes of one connection -/

/-- The attempt of a connection goes on. -/
theorem Inv.goesOn (hi : m.Inv logs) {a a' : NegotiationAttempt} {log' : AttemptLog}
    (ha : m.attempts.get? c = some a) (ht : Tracked m.offerLimits log' a') :
    Inv { m with attempts := m.attempts.insert c a' } (Function.update logs c (some log')) where
  reservation := hi.reservation
  disjoint := fun k b hb => by
    rw [SortedMap.get?_insert] at hb
    split at hb
    · rename_i hk
      exact hk ▸ hi.disjoint c a ha
    · exact hi.disjoint k b hb
  reserved := by
    rw [reservations, SortedMap.size_insert_of_some _ ha]
    exact hi.reserved
  within := hi.within
  attempts_le := by
    rw [SortedMap.size_insert_of_some _ ha]
    exact hi.attempts_le
  attempts := fun k b hb => by
    rw [SortedMap.get?_insert] at hb
    split at hb
    · rename_i hk
      cases hb
      exact ⟨log', by rw [hk, Function.update_self], ht⟩
    · rename_i hk
      rw [Function.update_of_ne hk]
      exact hi.attempts k b hb
  established := fun k s hs => by
    have hk : k ≠ c := by
      rintro rfl
      exact absurd ((hi.disjoint k a ha).symm.trans hs) nofun
    rw [Function.update_of_ne hk]
    exact hi.established k s hs

/-- An attempt is started. -/
theorem Inv.starts (hi : m.Inv logs) {a : NegotiationAttempt} {log : AttemptLog}
    (hnew : m.attempts.get? c = none ∧ m.established.get? c = none)
    (hlimit : m.attempts.size < m.limits.maxConcurrentAttempts)
    (hfits : m.reservedBytes + m.perAttemptReservation ≤ m.limits.maxAggregateAccountedBytes ∧
      m.reservedBytes + m.perAttemptReservation ≤ usizeMax)
    (ht : Tracked m.offerLimits log a) :
    Inv { m with
      attempts := m.attempts.insert c a
      reservedBytes := m.reservedBytes + m.perAttemptReservation }
      (Function.update logs c (some log)) where
  reservation := hi.reservation
  disjoint := fun k b hb => by
    rw [SortedMap.get?_insert] at hb
    split at hb
    · rename_i hk
      exact hk ▸ hnew.2
    · exact hi.disjoint k b hb
  reserved := by
    simp only [reservations, SortedMap.size_insert_of_none _ hnew.1, hi.reserved]
    rw [Nat.add_mul, Nat.one_mul, Nat.add_right_comm]
  within := hfits
  attempts_le := by
    rw [SortedMap.size_insert_of_none _ hnew.1]
    exact hlimit
  attempts := fun k b hb => by
    rw [SortedMap.get?_insert] at hb
    split at hb
    · rename_i hk
      cases hb
      exact ⟨log, by rw [hk, Function.update_self], ht⟩
    · rename_i hk
      rw [Function.update_of_ne hk]
      exact hi.attempts k b hb
  established := fun k s hs => by
    have hk : k ≠ c := by
      rintro rfl
      exact absurd (hnew.2.symm.trans hs) nofun
    rw [Function.update_of_ne hk]
    exact hi.established k s hs

/-- Each attempt holds its reservation. -/
theorem Inv.attempt_reserved (hi : m.Inv logs) {a : NegotiationAttempt}
    (ha : m.attempts.get? c = some a) :
    m.reservedBytes = m.perAttemptReservation + ((m.attempts.erase c).size *
      m.perAttemptReservation + m.established.sum fun _ s => s.accountedBytes) := by
  rw [hi.reserved, reservations, ← SortedMap.size_erase_of_some ha, Nat.add_mul, Nat.one_mul]
  omega

theorem erase_size_le (hi : m.Inv logs) :
    (m.attempts.erase c).size ≤ m.limits.maxConcurrentAttempts :=
  (SortedMap.size_erase_le _ _).trans hi.attempts_le

/-- An attempt is given up. -/
theorem Inv.aborts (hi : m.Inv logs) {a : NegotiationAttempt} (ha : m.attempts.get? c = some a) :
    Inv { m with
      attempts := m.attempts.erase c
      reservedBytes := m.reservedBytes - m.perAttemptReservation }
      (Function.update logs c none) where
  reservation := hi.reservation
  disjoint := fun k b hb => hi.disjoint k b (SortedMap.get?_of_erase hb).2
  reserved := by
    simp only [reservations]
    rw [hi.attempt_reserved ha, Nat.add_sub_cancel_left]
  within := ⟨(Nat.sub_le _ _).trans hi.within.1, (Nat.sub_le _ _).trans hi.within.2⟩
  attempts_le := erase_size_le hi
  attempts := fun k b hb => by
    obtain ⟨hk, hb⟩ := SortedMap.get?_of_erase hb
    rw [Function.update_of_ne hk]
    exact hi.attempts k b hb
  established := fun k s hs => by
    have hk : k ≠ c := by
      rintro rfl
      exact absurd ((hi.disjoint k a ha).symm.trans hs) nofun
    rw [Function.update_of_ne hk]
    exact hi.established k s hs

/-- A contract takes the place of its attempt; it is no larger than what the attempt reserved. -/
theorem Inv.settles (hi : m.Inv logs) {a : NegotiationAttempt} {log : AttemptLog}
    {s : EstablishedState} (ha : m.attempts.get? c = some a) (hs : Settled m.offerLimits log s)
    (hle : s.accountedBytes ≤ m.perAttemptReservation) :
    Inv { m with
      attempts := m.attempts.erase c
      reservedBytes := m.reservedBytes - m.perAttemptReservation + s.accountedBytes
      established := m.established.insert c s } (Function.update logs c (some log)) where
  reservation := hi.reservation
  disjoint := fun k b hb => by
    obtain ⟨hk, hb⟩ := SortedMap.get?_of_erase hb
    rw [SortedMap.get?_insert_ne _ _ hk]
    exact hi.disjoint k b hb
  reserved := by
    simp only [reservations, SortedMap.sum_insert,
      SortedMap.erase_of_get?_none (hi.disjoint c a ha)]
    rw [hi.attempt_reserved ha, Nat.add_sub_cancel_left]
    omega
  within := by
    have := hi.attempt_reserved ha
    have := hi.within
    constructor
    · simp only
      omega
    · simp only
      omega
  attempts_le := erase_size_le hi
  attempts := fun k b hb => by
    obtain ⟨hk, hb⟩ := SortedMap.get?_of_erase hb
    rw [Function.update_of_ne hk]
    exact hi.attempts k b hb
  established := fun k s' hs' => by
    rw [SortedMap.get?_insert] at hs'
    split at hs'
    · rename_i hk
      cases hs'
      exact ⟨log, by rw [hk, Function.update_self], hs⟩
    · rename_i hk
      rw [Function.update_of_ne hk]
      exact hi.established k s' hs'

/-- Each contract holds its accounted bytes. -/
theorem Inv.contract_reserved (hi : m.Inv logs) {s : EstablishedState}
    (hs : m.established.get? c = some s) :
    m.reservedBytes = s.accountedBytes + (m.attempts.size * m.perAttemptReservation +
      (m.established.erase c).sum fun _ s => s.accountedBytes) := by
  rw [hi.reserved, reservations, SortedMap.sum_of_get? _ hs]
  omega

/-- A contract ends with its connection. -/
theorem Inv.ends (hi : m.Inv logs) {s : EstablishedState} (hs : m.established.get? c = some s) :
    Inv { m with
      established := m.established.erase c
      reservedBytes := m.reservedBytes - s.accountedBytes } (Function.update logs c none) where
  reservation := hi.reservation
  disjoint := fun k b hb => by
    rw [SortedMap.get?_erase, hi.disjoint k b hb, ite_self]
  reserved := by
    simp only [reservations]
    rw [hi.contract_reserved hs, Nat.add_sub_cancel_left]
  within := ⟨(Nat.sub_le _ _).trans hi.within.1, (Nat.sub_le _ _).trans hi.within.2⟩
  attempts_le := hi.attempts_le
  attempts := fun k b hb => by
    have hk : k ≠ c := by
      rintro rfl
      exact absurd ((hi.disjoint k b hb).symm.trans hs) nofun
    rw [Function.update_of_ne hk]
    exact hi.attempts k b hb
  established := fun k s' hs' => by
    rw [SortedMap.get?_erase] at hs'
    split at hs'
    · cases hs'
    · rename_i hk
      rw [Function.update_of_ne hk]
      exact hi.established k s' hs'

/-! ### Each operation -/

theorem attempt_ok {a : NegotiationAttempt} (h : m.attempt c = .ok a) :
    m.attempts.get? c = some a := by
  unfold attempt at h
  split at h
  · cases h
  · split at h
    · rename_i ha
      cases h
      exact ha
    · cases h

theorem start_keeps (hi : m.Inv logs) (c : ConnectionHandle)
    (authorityOffer peerOffer : CompatibilityOffer) :
    ∃ r m', m.start c authorityOffer peerOffer = .ok (r, m') ∧
      m'.Inv (logs.after (.start c authorityOffer peerOffer) (.started r)) := by
  unfold start
  split
  · exact ⟨_, m, rfl, hi⟩
  · rename_i hnew
    split
    · exact ⟨_, m, rfl, hi⟩
    · rename_i hlimit
      split
      · exact ⟨_, m, rfl, hi⟩
      · rename_i hfits
        split
        · exact ⟨_, m, rfl, hi⟩
        · rename_i attempt hattempt
          have hnew : m.attempts.get? c = none ∧ m.established.get? c = none := by
            rw [not_or, Bool.not_eq_true, Bool.not_eq_true, SortedMap.contains_eq_false,
              SortedMap.contains_eq_false] at hnew
            exact hnew
          have hfits : m.reservedBytes + m.perAttemptReservation ≤
              m.limits.maxAggregateAccountedBytes ∧
              m.reservedBytes + m.perAttemptReservation ≤ usizeMax := by
            cases hsum : checkedAdd usizeMax m.reservedBytes m.perAttemptReservation with
            | none =>
              rw [hsum] at hfits
              exact absurd rfl hfits
            | some v =>
              rw [hsum] at hfits
              obtain ⟨hmax, rfl⟩ := checkedAdd_eq_some.mp hsum
              exact ⟨by simpa using hfits, hmax⟩
          have ht : Tracked m.offerLimits ⟨authorityOffer, peerOffer, [], false, false⟩ attempt := by
            obtain ⟨a, p, ha, hp, rfl⟩ := NegotiationAttempt.new_ok hattempt
            exact ⟨ha, hp, rfl, rfl, rfl, .inl ⟨rfl, rfl, rfl, rfl⟩, nofun⟩
          rw [Checked.add_ok hfits.2]
          exact ⟨_, _, rfl, hi.starts hnew (not_le.mp hlimit) hfits ht⟩

theorem propose_keeps (hi : m.Inv logs) (c : ConnectionHandle) (contract : NegotiatedContract)
    (r : NegotiationRequirements) :
    (m.propose c contract r).2.Inv
      (logs.after (.propose c contract r) (.proposed (m.propose c contract r).1)) := by
  unfold propose
  split
  · exact hi
  · rename_i a ha
    have ha := attempt_ok ha
    split
    · exact hi
    · rename_i a' hpropose
      obtain ⟨log, hlog, ht⟩ := hi.attempts c a ha
      obtain ⟨hnone, hselects, rfl⟩ := NegotiationAttempt.propose_ok hpropose
      simp only [AttemptLogs.after, hlog, Option.map_some]
      refine hi.goesOn ha ⟨ht.authorityOffer, ht.peerOffer, ht.limits, ht.authorityValidated,
        ht.peerValidated, .inr ⟨contract, r, ?_, rfl, hselects.of_offers rfl rfl rfl⟩, ?_⟩
      · rcases ht.proposals with ⟨hempty, -⟩ | ⟨_, _, -, hsome, -⟩
        · rw [hempty]
          rfl
        · rw [hnone] at hsome
          cases hsome
      · rcases ht.proposals with ⟨-, -, hauthority, -⟩ | ⟨_, _, -, hsome, -⟩
        · simp [NegotiationAttempt.status, hauthority]
        · rw [hnone] at hsome
          cases hsome

theorem status_established {a : NegotiationAttempt} :
    a.status = .established ↔ a.authorityValidated = true ∧ a.peerValidated = true := by
  unfold NegotiationAttempt.status
  split
  · rename_i h
    exact ⟨fun _ => h, fun _ => rfl⟩
  · rename_i h
    split
    · exact ⟨nofun, fun h' => absurd h' h⟩
    · exact ⟨nofun, fun h' => absurd h' h⟩

/-- A validation of a proposed attempt: both parties have validated it now, or it goes on. -/
theorem validateParty_tracked {limits : OfferLimits} {log : AttemptLog} {a a' : NegotiationAttempt}
    {authority : Bool} {status : NegotiationStatus} (ht : Tracked limits log a)
    (h : a.validateParty authority = .ok (status, a')) :
    status = a'.status ∧ ∃ contract r, a'.proposal = some contract ∧ a'.Selects contract r ∧
      a'.offerLimits = limits ∧
      (status = .established → ∀ bytes, contract.accountedBytes = .ok bytes →
        Settled limits (log.validatedBy authority) ⟨contract, bytes⟩) ∧
      (status ≠ .established → Tracked limits (log.validatedBy authority) a') := by
  unfold NegotiationAttempt.validateParty at h
  rcases ht.proposals with ⟨-, hnone, -, -⟩ | ⟨contract, r, hlog, hsome, hselects⟩
  · rw [hnone] at h
    cases h
  rw [hsome] at h
  simp only [Except.ok.injEq, Prod.mk.injEq] at h
  obtain ⟨rfl, rfl⟩ := h
  have hopened : (NegotiationAttempt.opened a.authorityOffer a.peerOffer limits).Selects contract r :=
    hselects.of_offers rfl rfl ht.limits.symm
  cases authority with
  | true =>
    refine ⟨rfl, contract, r, rfl, hselects.of_offers rfl rfl rfl, ht.limits,
      fun hstatus bytes hbytes =>
        ⟨⟨rfl, ?_⟩, ⟨_, _, r, ht.authorityOffer, ht.peerOffer, hlog, hopened⟩, hbytes⟩,
      fun hstatus =>
        ⟨ht.authorityOffer, ht.peerOffer, ht.limits, rfl, ht.peerValidated,
          .inr ⟨contract, r, hlog, rfl, hselects.of_offers rfl rfl rfl⟩, hstatus⟩⟩
    exact ht.peerValidated.symm.trans (status_established.mp hstatus).2
  | false =>
    refine ⟨rfl, contract, r, rfl, hselects.of_offers rfl rfl rfl, ht.limits,
      fun hstatus bytes hbytes =>
        ⟨⟨?_, rfl⟩, ⟨_, _, r, ht.authorityOffer, ht.peerOffer, hlog, hopened⟩, hbytes⟩,
      fun hstatus =>
        ⟨ht.authorityOffer, ht.peerOffer, ht.limits, ht.authorityValidated, rfl,
          .inr ⟨contract, r, hlog, rfl, hselects.of_offers rfl rfl rfl⟩, hstatus⟩⟩
    exact ht.authorityValidated.symm.trans (status_established.mp hstatus).1

/-- The log of a validation. -/
theorem after_validated (hlog : logs c = some log) (authority : Bool) (status : NegotiationStatus) :
    logs.after (if authority then .validateAuthority c else .validatePeer c)
        (.validated (.ok status)) = Function.update logs c (some (log.validatedBy authority)) := by
  cases authority with
  | true => simp only [if_true, AttemptLogs.after, hlog]; rfl
  | false => simp only [Bool.false_eq_true, if_false, AttemptLogs.after, hlog]; rfl

theorem after_refused (authority : Bool) (err : NegotiationManagerError) :
    logs.after (if authority then .validateAuthority c else .validatePeer c)
        (.validated (.error err)) = logs := by
  cases authority <;> rfl

/-- Validating promotes the attempt in the same step, or leaves it to the other party. -/
theorem validateParty_keeps (hi : m.Inv logs) (c : ConnectionHandle) (authority : Bool) :
    ∃ r m', m.validateParty c authority = .ok (r, m') ∧ m'.Inv
      (logs.after (if authority then .validateAuthority c else .validatePeer c) (.validated r)) := by
  unfold validateParty
  split
  · exact ⟨_, m, rfl, by rw [after_refused]; exact hi⟩
  · rename_i a ha
    have ha := attempt_ok ha
    split
    · exact ⟨_, m, rfl, by rw [after_refused]; exact hi⟩
    · rename_i status a' hvalidate
      obtain ⟨log, hlog, ht⟩ := hi.attempts c a ha
      obtain ⟨hstatus, contract, r, hproposal, hselects, hlimits, hsettled, hgoes⟩ :=
        validateParty_tracked ht hvalidate
      obtain ⟨bytes, hbytes, hle⟩ := hselects.bytes
      simp only
      split
      · rename_i hestablished
        have hs := hsettled hestablished bytes hbytes
        have hreserved := hi.attempt_reserved ha
        have hfits : bytes ≤ m.perAttemptReservation := by
          rw [hi.reservation, ← hlimits]
          omega
        have hsub : Checked.sub m.reservedBytes m.perAttemptReservation =
            .ok (m.reservedBytes - m.perAttemptReservation) := Checked.sub_ok (by omega)
        have hadd : Checked.add (m.reservedBytes - m.perAttemptReservation) bytes =
            .ok (m.reservedBytes - m.perAttemptReservation + bytes) := Checked.add_ok (by
          have := hi.within.2
          omega)
        have hassert : a'.status = .established := hstatus ▸ hestablished
        simp only [promoteEstablished, SortedMap.get?_insert_self, hproposal, hbytes, hassert,
          hi.disjoint c a ha, hsub, hadd, Checked.ok_bind, decide_true, Checked.assert_true,
          Option.isNone_none, Checked.pure_eq]
        refine ⟨_, _, rfl, ?_⟩
        rw [after_validated hlog]
        have := hi.settles ha hs hfits
        rwa [show (m.attempts.insert c a').erase c = m.attempts.erase c from
          SortedMap.erase_insert_self _ _ _]
      · rename_i hpending
        refine ⟨_, _, rfl, ?_⟩
        rw [after_validated hlog]
        exact hi.goesOn ha (hgoes hpending)

theorem terminate_keeps (hi : m.Inv logs) (c : ConnectionHandle) :
    ∃ r m', m.terminate c = .ok (r, m') ∧ m'.Inv (logs.after (.terminate c) (.terminated r)) := by
  unfold terminate
  split
  · rename_i a ha
    have hreserved := hi.attempt_reserved ha
    rw [Checked.sub_ok (by omega)]
    exact ⟨_, _, rfl, hi.aborts ha⟩
  · split
    · rename_i s hs
      have hreserved := hi.contract_reserved hs
      rw [Checked.sub_ok (by omega)]
      exact ⟨_, _, rfl, hi.ends hs⟩
    · exact ⟨_, m, rfl, hi⟩

/-- Every operation returns and keeps the invariant. -/
theorem exec_keeps (hi : m.Inv logs) (op : NegotiationOp) :
    ∃ reply m', m.exec op = .ok (reply, m') ∧ m'.Inv (logs.after op reply) := by
  cases op with
  | start c authorityOffer peerOffer =>
    obtain ⟨r, m', h, hi'⟩ := start_keeps hi c authorityOffer peerOffer
    exact ⟨.started r, m', by rw [exec, h]; rfl, hi'⟩
  | propose c contract requirements =>
    exact ⟨_, _, rfl, propose_keeps hi c contract requirements⟩
  | validateAuthority c =>
    obtain ⟨r, m', h, hi'⟩ := validateParty_keeps hi c true
    exact ⟨.validated r, m', by rw [exec, validateAuthority, h]; rfl, hi'⟩
  | validatePeer c =>
    obtain ⟨r, m', h, hi'⟩ := validateParty_keeps hi c false
    exact ⟨.validated r, m', by rw [exec, validatePeer, h]; rfl, hi'⟩
  | terminate c =>
    obtain ⟨r, m', h, hi'⟩ := terminate_keeps hi c
    exact ⟨.terminated r, m', by rw [exec, h]; rfl, hi'⟩

end NegotiationManager

/-! ### What an established contract says -/

/-- The offer lists the binding. -/
def CompatibilityOffer.Binds (o : CompatibilityOffer) (id : SchemaId) (b : SelectedSchema) : Prop :=
  ∃ s ∈ o.schemas, s.id = id ∧ ∃ k ∈ s.contracts, k.contractId = b.contractId ∧
    b.codecId ∈ k.codecs

/-- The contract selects from what both offers list, and everything that an offer or the
requirements demand. -/
structure NegotiatedContract.Agreed (c : NegotiatedContract) (ao po : CompatibilityOffer)
    (r : NegotiationRequirements) : Prop where
  protocol : c.protocol ∈ ao.protocols ∧ c.protocol ∈ po.protocols
  capabilities : ∀ id ∈ c.capabilities, (∃ e ∈ ao.capabilities, e.id = id) ∧
    ∃ e ∈ po.capabilities, e.id = id
  schemas : ∀ id b, c.schemas.get? id = some b → ao.Binds id b ∧ po.Binds id b
  required : ∀ e ∈ ao.capabilities ++ po.capabilities, e.requirement = .required →
    e.id ∈ c.capabilities
  requiredSchemas : ∀ s ∈ ao.schemas ++ po.schemas, s.requirement = .required →
    ∃ b, c.schemas.get? s.id = some b
  imposed : ∀ id ∈ r.requiredCapabilities, id ∈ c.capabilities
  imposedSchemas : ∀ id ∈ r.requiredSchemas, ∃ b, c.schemas.get? id = some b

namespace ValidatedOffer

variable {o : ValidatedOffer}

theorem capability_listed {id : CapabilityId} (h : (o.capability id).isSome) :
    ∃ e ∈ o.offer.capabilities, e.id = id :=
  List.mem_map.mp (capability_isSome.mp h)

theorem binds_of_supports {id : SchemaId} {b : SelectedSchema}
    (h : o.supportsSchemaBinding id b = true) : o.offer.Binds id b := by
  unfold supportsSchemaBinding schema at h
  rw [Option.any_eq_true] at h
  obtain ⟨s, hs, h⟩ := h
  obtain ⟨k, hk, h⟩ := List.any_eq_true.mp h
  exact ⟨s, List.mem_of_find?_eq_some hs, by simpa using List.find?_some hs, k, hk,
    of_decide_eq_true h⟩

theorem requiredCapabilities_mem {e : CapabilityOffer} (he : e ∈ o.offer.capabilities)
    (h : e.requirement = .required) : e.id ∈ o.requiredCapabilities :=
  List.mem_filterMap.mpr ⟨e, he, if_pos h⟩

theorem requiredSchemas_mem {s : SchemaOffer} (hs : s ∈ o.offer.schemas)
    (h : s.requirement = .required) : s.id ∈ o.requiredSchemas :=
  List.mem_filterMap.mpr ⟨s, hs, if_pos h⟩

end ValidatedOffer

theorem NegotiationAttempt.Selects.agreed {a : NegotiationAttempt} {c : NegotiatedContract}
    {r : NegotiationRequirements} (h : a.Selects c r) :
    c.Agreed a.authorityOffer.offer a.peerOffer.offer r where
  protocol := ⟨of_decide_eq_true h.protocol.1, of_decide_eq_true h.protocol.2⟩
  capabilities := fun id hid =>
    ⟨ValidatedOffer.capability_listed (h.capabilities id hid).1,
      ValidatedOffer.capability_listed (h.capabilities id hid).2⟩
  schemas := fun id b hb =>
    ⟨ValidatedOffer.binds_of_supports (h.schemas id b hb).1,
      ValidatedOffer.binds_of_supports (h.schemas id b hb).2⟩
  required := fun e he hrequired => by
    refine h.required e.id (List.mem_append.mpr ?_)
    rcases List.mem_append.mp he with he | he
    · exact .inl (ValidatedOffer.requiredCapabilities_mem he hrequired)
    · exact .inr (ValidatedOffer.requiredCapabilities_mem he hrequired)
  requiredSchemas := fun s hs hrequired => by
    refine Option.isSome_iff_exists.mp (h.requiredSchemas s.id (List.mem_append.mpr ?_))
    rcases List.mem_append.mp hs with hs | hs
    · exact .inl (ValidatedOffer.requiredSchemas_mem hs hrequired)
    · exact .inr (ValidatedOffer.requiredSchemas_mem hs hrequired)
  imposed := fun id hid => (h.imposed id hid).2
  imposedSchemas := fun id hid => Option.isSome_iff_exists.mp (h.imposedSchemas id hid).2

/-! ### Runs -/

structure NegotiationRun where
  manager : NegotiationManager
  logs : AttemptLogs

namespace NegotiationRun

variable {r s : NegotiationRun}

def Starts (r : NegotiationRun) : Prop :=
  (∃ offerLimits limits, NegotiationManager.new offerLimits limits = .ok r.manager) ∧
    r.logs = fun _ => none

inductive Step : NegotiationRun → NegotiationRun → Prop where
  | exec {r : NegotiationRun} {op : NegotiationOp} {reply : NegotiationReply}
      {m : NegotiationManager} (h : r.manager.exec op = .ok (reply, m)) :
      Step r ⟨m, r.logs.after op reply⟩

theorem inv_of_reachable (h : Reachable Starts Step r) : r.manager.Inv r.logs := by
  refine h.invariant (P := fun r => r.manager.Inv r.logs) ?_ ?_
  · rintro ⟨m, logs⟩ ⟨⟨_, _, hnew⟩, rfl⟩
    exact NegotiationManager.new_inv hnew
  · intro r s hi hstep
    cases hstep with
    | @exec op _ _ h =>
      obtain ⟨_, _, h', hi'⟩ := NegotiationManager.exec_keeps hi op
      rw [h] at h'
      cases h'
      exact hi'

/-- In every state of every run the reservations are the attempts' and the contracts', every
operation returns, and a contract is the one proposal of its attempt, validated by both parties
and agreed between the two offers. -/
theorem manager_invariant (h : Reachable Starts Step r) :
    (∀ c, r.manager.attempts.get? c = none ∨ r.manager.established.get? c = none) ∧
      r.manager.reservedBytes = r.manager.attempts.size * r.manager.perAttemptReservation +
        (r.manager.established.sum fun _ s => s.accountedBytes) ∧
      r.manager.reservedBytes ≤ r.manager.limits.maxAggregateAccountedBytes ∧
      r.manager.attempts.size ≤ r.manager.limits.maxConcurrentAttempts ∧
      (∀ op, ∃ reply m, r.manager.exec op = .ok (reply, m)) ∧
      ∀ c s, r.manager.established.get? c = some s → ∃ log requirements, r.logs c = some log ∧
        log.proposals = [(s.contract, requirements)] ∧ log.authorityValidated = true ∧
        log.peerValidated = true ∧ s.contract.accountedBytes = .ok s.accountedBytes ∧
        s.contract.Agreed log.authorityOffer log.peerOffer requirements := by
  have hi := inv_of_reachable h
  refine ⟨fun c => ?_, hi.reserved, hi.within.1, hi.attempts_le, fun op => ?_, fun c s hs => ?_⟩
  · cases ha : r.manager.attempts.get? c with
    | none => exact .inl rfl
    | some a => exact .inr (hi.disjoint c a ha)
  · obtain ⟨reply, m, hx, -⟩ := NegotiationManager.exec_keeps hi op
    exact ⟨reply, m, hx⟩
  · obtain ⟨log, hlog, hsettled⟩ := hi.established c s hs
    obtain ⟨a, p, requirements, ha, hp, hproposals, hselects⟩ := hsettled.agreed
    have hagreed := hselects.agreed
    simp only [NegotiationAttempt.opened, (CompatibilityOffer.validate_ok ha).1,
      (CompatibilityOffer.validate_ok hp).1] at hagreed
    exact ⟨log, requirements, hlog, hproposals, hsettled.validated.1, hsettled.validated.2,
      hsettled.accounted, hagreed⟩

/-! One connection negotiates and another starts; the contract of the first holds. -/

def sampleContract : NegotiatedContract where
  protocol := ⟨⟨1⟩, ⟨1⟩⟩
  capabilities := {⟨2⟩}
  schemas := SortedMap.empty.insert ⟨3⟩ ⟨⟨4⟩, ⟨6⟩⟩

theorem next_op (h : Reachable Starts Step r) (op : NegotiationOp) {reply : NegotiationReply}
    {m : NegotiationManager} (hx : r.manager.exec op = .ok (reply, m)) :
    Reachable Starts Step ⟨m, r.logs.after op reply⟩ :=
  h.next (.exec hx)

theorem sample_reachable : ∃ r, Reachable Starts Step r ∧
    r.manager.established.get? ⟨1⟩ = some ⟨sampleContract, 96⟩ ∧ r.manager.attempts.size = 1 := by
  have h0 : Reachable Starts Step ⟨⟨.default, ⟨64, 16777216⟩, 196608, 0, .empty, .empty⟩,
      fun _ => none⟩ :=
    .start ⟨⟨.default, ⟨64, 16777216⟩, rfl⟩, rfl⟩
  have h1 := next_op h0 (.start ⟨1⟩ NegotiationAttempt.sampleOffer NegotiationAttempt.sampleOffer)
    rfl
  have h2 := next_op h1 (.propose ⟨1⟩ sampleContract ⟨[⟨2⟩], []⟩) rfl
  have h3 := next_op h2 (.start ⟨2⟩ NegotiationAttempt.sampleOffer NegotiationAttempt.sampleOffer)
    rfl
  have h4 := next_op h3 (.validatePeer ⟨1⟩) rfl
  have h5 := next_op h4 (.validateAuthority ⟨1⟩) rfl
  exact ⟨_, h5, rfl, rfl⟩

theorem manager_invariant_sample : ∃ r : NegotiationRun,
    r.manager.established.get? ⟨1⟩ = some ⟨sampleContract, 96⟩ ∧
      r.manager.reservedBytes = 1 * r.manager.perAttemptReservation +
        (r.manager.established.sum fun _ s => s.accountedBytes) := by
  obtain ⟨r, h, hs, hsize⟩ := sample_reachable
  exact ⟨r, hs, hsize ▸ (manager_invariant h).2.1⟩

end NegotiationRun

end RunenNet
