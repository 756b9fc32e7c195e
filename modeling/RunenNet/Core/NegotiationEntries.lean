import RunenNet.Core.NegotiationRun

/-!
# The manager's entry of one connection

An operation on a connection changes only the entry of that connection: its attempt or its
established contract.
-/

namespace RunenNet

open Foundation

def NegotiationOp.connection : NegotiationOp → ConnectionHandle
  | .start c _ _ | .propose c _ _ | .validateAuthority c | .validatePeer c | .terminate c => c

namespace NegotiationManager

variable {m m' m'' : NegotiationManager} {logs : AttemptLogs} {c : ConnectionHandle}

/-- The manager knows the connection. -/
def Holds (m : NegotiationManager) (c : ConnectionHandle) : Prop :=
  (m.attempts.get? c).isSome ∨ (m.established.get? c).isSome

def SameAt (m m' : NegotiationManager) (c : ConnectionHandle) : Prop :=
  m'.attempts.get? c = m.attempts.get? c ∧ m'.established.get? c = m.established.get? c

/-- The entries of the other connections stay. -/
def OnlyAt (c : ConnectionHandle) (m m' : NegotiationManager) : Prop :=
  ∀ k, k ≠ c → SameAt m m' k

theorem SameAt.refl : SameAt m m c := ⟨rfl, rfl⟩

theorem SameAt.trans (h : SameAt m m' c) (h' : SameAt m' m'' c) : SameAt m m'' c :=
  ⟨h'.1.trans h.1, h'.2.trans h.2⟩

theorem SameAt.holds (h : SameAt m m' c) : m'.Holds c ↔ m.Holds c := by
  rw [Holds, Holds, h.1, h.2]

theorem OnlyAt.refl : OnlyAt c m m := fun _ _ => .refl

theorem OnlyAt.trans (h : OnlyAt c m m') (h' : OnlyAt c m' m'') : OnlyAt c m m'' :=
  fun k hk => (h k hk).trans (h' k hk)

theorem not_holds : ¬ m.Holds c ↔ m.attempts.get? c = none ∧ m.established.get? c = none := by
  rw [Holds, not_or, Option.not_isSome_iff_eq_none, Option.not_isSome_iff_eq_none]

theorem onlyAt_attempts (a : NegotiationAttempt) (bytes : Nat) :
    OnlyAt c m { m with attempts := m.attempts.insert c a, reservedBytes := bytes } :=
  fun _ hk => ⟨SortedMap.get?_insert_ne _ _ hk, rfl⟩

/-- Only a connection the manager does not know is started. -/
theorem start_entries {authorityOffer peerOffer : CompatibilityOffer}
    {r : Except NegotiationManagerError Unit}
    (h : m.start c authorityOffer peerOffer = .ok (r, m')) :
    OnlyAt c m m' ∧ ((∃ e, r = .error e ∧ e ≠ .unknownConnection ∧ m' = m) ∨
      r = .ok () ∧ ¬ m.Holds c ∧ (m'.attempts.get? c).isSome) := by
  unfold start at h
  split at h
  · cases h
    exact ⟨.refl, .inl ⟨_, rfl, by simp, rfl⟩⟩
  · rename_i hnew
    rw [SortedMap.contains, SortedMap.contains] at hnew
    split at h
    · cases h
      exact ⟨.refl, .inl ⟨_, rfl, by simp, rfl⟩⟩
    · split at h
      · cases h
        exact ⟨.refl, .inl ⟨_, rfl, by simp, rfl⟩⟩
      · split at h
        · cases h
          exact ⟨.refl, .inl ⟨_, rfl, by simp, rfl⟩⟩
        · rename_i attempt _
          simp only [Checked.bind_eq_ok, Checked.pure_eq, Except.ok.injEq, Prod.mk.injEq] at h
          obtain ⟨reserved, -, rfl, rfl⟩ := h
          refine ⟨onlyAt_attempts attempt reserved, .inr ⟨rfl, hnew, ?_⟩⟩
          simp

theorem attempt_known {e : NegotiationManagerError} (hc : m.Holds c) (h : m.attempt c = .error e) :
    e ≠ .unknownConnection := by
  unfold attempt at h
  split at h
  · cases h
    nofun
  · rename_i hest
    split at h
    · cases h
    · rename_i hnone
      rcases hc with hc | hc
      · rw [hnone] at hc
        cases hc
      · exact absurd hc hest

theorem propose_entries {contract : NegotiatedContract} {requirements : NegotiationRequirements}
    {r : Except NegotiationManagerError Unit} (h : m.propose c contract requirements = (r, m')) :
    OnlyAt c m m' ∧ ((∃ e, r = .error e ∧ m' = m ∧ (m.Holds c → e ≠ .unknownConnection)) ∨
      r = .ok () ∧ (m'.attempts.get? c).isSome) := by
  unfold propose at h
  split at h
  · rename_i e he
    cases h
    exact ⟨.refl, .inl ⟨_, rfl, rfl, fun hc => attempt_known hc he⟩⟩
  · split at h
    · cases h
      exact ⟨.refl, .inl ⟨_, rfl, rfl, fun _ => nofun⟩⟩
    · rename_i a _ _ _
      cases h
      refine ⟨onlyAt_attempts _ _, .inr ⟨rfl, ?_⟩⟩
      simp

theorem promoteEstablished_entries {r : Except NegotiationManagerError Unit}
    (h : m.promoteEstablished c = .ok (r, m')) :
    OnlyAt c m m' ∧ ((∃ e, r = .error e ∧ e ≠ .unknownConnection ∧ m' = m) ∨
      r = .ok () ∧ (m'.established.get? c).isSome) := by
  unfold promoteEstablished at h
  split at h
  · cases h
    exact ⟨.refl, .inl ⟨_, rfl, nofun, rfl⟩⟩
  · split at h
    · cases h
      exact ⟨.refl, .inl ⟨_, rfl, nofun, rfl⟩⟩
    · split at h
      · cases h
        exact ⟨.refl, .inl ⟨_, rfl, nofun, rfl⟩⟩
      · simp only [Checked.bind_eq_ok, Checked.pure_eq, Except.ok.injEq, Prod.mk.injEq] at h
        obtain ⟨_, -, _, -, _, -, _, -, rfl, rfl⟩ := h
        refine ⟨fun k hk => ⟨SortedMap.get?_erase_ne _ hk, SortedMap.get?_insert_ne _ _ hk⟩,
          .inr ⟨rfl, ?_⟩⟩
        simp

/-- A validation keeps the entry, as an attempt or as the contract it becomes. -/
theorem validateParty_entries {authority : Bool} {r : Except NegotiationManagerError NegotiationStatus}
    (h : m.validateParty c authority = .ok (r, m')) :
    OnlyAt c m m' ∧
      ((∃ e, r = .error e ∧ (m.Holds c → m'.Holds c ∧ e ≠ .unknownConnection)) ∨
      ∃ status, r = .ok status ∧ (status = .established → (m'.established.get? c).isSome) ∧
        (status ≠ .established → (m'.attempts.get? c).isSome)) := by
  unfold validateParty at h
  split at h
  · rename_i e he
    cases h
    exact ⟨.refl, .inl ⟨_, rfl, fun hc => ⟨hc, attempt_known hc he⟩⟩⟩
  · split at h
    · cases h
      exact ⟨.refl, .inl ⟨_, rfl, fun hc => ⟨hc, nofun⟩⟩⟩
    · rename_i a _ status a' _
      have hinsert := onlyAt_attempts (m := m) (c := c) a' m.reservedBytes
      simp only at h
      split at h
      · rename_i hstatus
        simp only [Checked.bind_eq_ok] at h
        obtain ⟨⟨res, m₁⟩, hpromote, h⟩ := h
        obtain ⟨honly, ⟨e, rfl, he, rfl⟩ | ⟨rfl, hest⟩⟩ := promoteEstablished_entries hpromote
        · cases h
          refine ⟨hinsert, .inl ⟨_, rfl, fun _ => ⟨.inl ?_, he⟩⟩⟩
          simp
        · cases h
          exact ⟨hinsert.trans honly,
            .inr ⟨_, rfl, fun _ => hest, fun hne => absurd hstatus hne⟩⟩
      · rename_i hstatus
        cases h
        refine ⟨hinsert, .inr ⟨_, rfl, fun heq => absurd heq hstatus, fun _ => ?_⟩⟩
        simp

/-- A connection the manager knows is terminated, and only such a connection. -/
theorem terminate_entries (hi : m.Inv logs)
    {r : Except NegotiationManagerError ConnectionNegotiationTermination}
    (h : m.terminate c = .ok (r, m')) :
    OnlyAt c m m' ∧ ((∃ t, r = .ok t ∧ m.Holds c ∧ ¬ m'.Holds c) ∨
      r = .error .unknownConnection ∧ ¬ m.Holds c ∧ m' = m) := by
  unfold terminate at h
  split at h
  · rename_i a ha
    simp only [Checked.bind_eq_ok, Checked.pure_eq, Except.ok.injEq, Prod.mk.injEq] at h
    obtain ⟨_, -, rfl, rfl⟩ := h
    refine ⟨fun k hk => ⟨SortedMap.get?_erase_ne _ hk, rfl⟩, .inl ⟨_, rfl, .inl ?_, ?_⟩⟩
    · rw [ha]
      rfl
    · exact not_holds.mpr ⟨SortedMap.get?_erase_self _ _, hi.disjoint c a ha⟩
  · rename_i ha
    split at h
    · rename_i s hs
      simp only [Checked.bind_eq_ok, Checked.pure_eq, Except.ok.injEq, Prod.mk.injEq] at h
      obtain ⟨_, -, rfl, rfl⟩ := h
      refine ⟨fun k hk => ⟨rfl, SortedMap.get?_erase_ne _ hk⟩, .inl ⟨_, rfl, .inr ?_, ?_⟩⟩
      · rw [hs]
        rfl
      · exact not_holds.mpr ⟨ha, SortedMap.get?_erase_self _ _⟩
    · rename_i hs
      cases h
      exact ⟨.refl, .inr ⟨rfl, not_holds.mpr ⟨ha, hs⟩, rfl⟩⟩

/-- An operation on one connection leaves the entries of the others. -/
theorem exec_onlyAt {op : NegotiationOp} {reply : NegotiationReply} (hi : m.Inv logs)
    (h : m.exec op = .ok (reply, m')) : OnlyAt op.connection m m' := by
  cases op with
  | start =>
    simp only [exec, Checked.bind_eq_ok, Checked.pure_eq, Except.ok.injEq, Prod.mk.injEq] at h
    obtain ⟨_, hop, -, rfl⟩ := h
    exact (start_entries hop).1
  | propose =>
    cases h
    exact (propose_entries rfl).1
  | validateAuthority =>
    simp only [exec, Checked.bind_eq_ok, Checked.pure_eq, Except.ok.injEq, Prod.mk.injEq] at h
    obtain ⟨_, hop, -, rfl⟩ := h
    exact (validateParty_entries hop).1
  | validatePeer =>
    simp only [exec, Checked.bind_eq_ok, Checked.pure_eq, Except.ok.injEq, Prod.mk.injEq] at h
    obtain ⟨_, hop, -, rfl⟩ := h
    exact (validateParty_entries hop).1
  | terminate =>
    simp only [exec, Checked.bind_eq_ok, Checked.pure_eq, Except.ok.injEq, Prod.mk.injEq] at h
    obtain ⟨_, hop, -, rfl⟩ := h
    exact (terminate_entries hi hop).1

end NegotiationManager

end RunenNet
