import RunenNet.Core.Delivery.Endpoint

/-!
# The books of the scopes

The usage recorded for a scope is the sum of the usages of its flows. One flow at a time enters,
leaves or changes, so every update is judged against the sum over the other flows.
-/

namespace RunenNet

open Foundation

namespace ScopeUsage

instance : Zero ScopeUsage := ⟨default⟩

instance : Add ScopeUsage := ⟨fun a b => ⟨a.activeFlows + b.activeFlows,
  a.pendingMessages + b.pendingMessages, a.pendingPayloadBytes + b.pendingPayloadBytes⟩⟩

@[simp] theorem zero_activeFlows : (0 : ScopeUsage).activeFlows = 0 := rfl
@[simp] theorem zero_pendingMessages : (0 : ScopeUsage).pendingMessages = 0 := rfl
@[simp] theorem zero_pendingPayloadBytes : (0 : ScopeUsage).pendingPayloadBytes = 0 := rfl
@[simp] theorem add_activeFlows (a b : ScopeUsage) :
    (a + b).activeFlows = a.activeFlows + b.activeFlows := rfl
@[simp] theorem add_pendingMessages (a b : ScopeUsage) :
    (a + b).pendingMessages = a.pendingMessages + b.pendingMessages := rfl
@[simp] theorem add_pendingPayloadBytes (a b : ScopeUsage) :
    (a + b).pendingPayloadBytes = a.pendingPayloadBytes + b.pendingPayloadBytes := rfl

instance : AddCommMonoid ScopeUsage where
  add_assoc a b c := by ext <;> simp [Nat.add_assoc]
  zero_add a := by ext <;> simp
  add_zero a := by ext <;> simp
  add_comm a b := by ext <;> simp [Nat.add_comm]
  nsmul := nsmulRec

/-- The usage is within the limits. -/
def Within (u : ScopeUsage) (limits : DeliveryScopeLimits) : Prop :=
  u.activeFlows ≤ limits.maxActiveFlows.get ∧
  u.pendingMessages ≤ limits.maxPendingMessages.get ∧
  u.pendingPayloadBytes ≤ limits.maxPendingPayloadBytes.get

theorem checkedAdd_any_le {a b m : Nat} (hm : m ≤ usizeMax) :
    (checkedAdd usizeMax a b).any (· ≤ m) = true ↔ a + b ≤ m := by
  unfold checkedAdd
  split
  · simp
  · simp; omega

theorem canAdd_iff {u : ScopeUsage} {limits : DeliveryScopeLimits} {flows messages bytes : Nat} :
    u.canAdd limits flows messages bytes = true ↔
      (u + ⟨flows, messages, bytes⟩).Within limits := by
  simp only [canAdd, Bool.and_eq_true, checkedAdd_any_le limits.maxActiveFlows.le_max,
    checkedAdd_any_le limits.maxPendingMessages.le_max,
    checkedAdd_any_le limits.maxPendingPayloadBytes.le_max, Within, and_assoc,
    add_activeFlows, add_pendingMessages, add_pendingPayloadBytes]

theorem add_ok {u : ScopeUsage} {limits : DeliveryScopeLimits} {flows messages bytes : Nat}
    (h : (u + ⟨flows, messages, bytes⟩).Within limits) :
    u.add flows messages bytes = .ok (u + ⟨flows, messages, bytes⟩) := by
  obtain ⟨h1, h2, h3⟩ := h
  have e1 : checkedAdd usizeMax u.activeFlows flows = some (u.activeFlows + flows) :=
    if_pos (h1.trans limits.maxActiveFlows.le_max)
  have e2 : checkedAdd usizeMax u.pendingMessages messages = some (u.pendingMessages + messages) :=
    if_pos (h2.trans limits.maxPendingMessages.le_max)
  have e3 : checkedAdd usizeMax u.pendingPayloadBytes bytes
      = some (u.pendingPayloadBytes + bytes) :=
    if_pos (h3.trans limits.maxPendingPayloadBytes.le_max)
  simp only [add, e1, e2, e3, Checked.expect_some, Checked.ok_bind, Checked.pure_eq]
  rfl

theorem remove_ok (u : ScopeUsage) (flows messages bytes : Nat) :
    (u + ⟨flows, messages, bytes⟩ : ScopeUsage).remove flows messages bytes = .ok u := by
  have e : ∀ a b : Nat, Checked.sub (a + b) b = .ok a := fun a b => by
    rw [Checked.sub_ok (Nat.le_add_left b a), Nat.add_sub_cancel]
  simp only [remove, add_activeFlows, add_pendingMessages, add_pendingPayloadBytes, e,
    Checked.ok_bind, Checked.pure_eq]

theorem Within.mono {u v : ScopeUsage} {limits : DeliveryScopeLimits}
    (h : (u + v).Within limits) : u.Within limits :=
  ⟨(Nat.le_add_right _ _).trans h.1, (Nat.le_add_right _ _).trans h.2.1,
    (Nat.le_add_right _ _).trans h.2.2⟩

theorem add_comm' (a b c : ScopeUsage) : a + b + c = a + c + b := by
  rw [add_assoc, add_comm b, ← add_assoc]

end ScopeUsage

/-- What an active flow contributes to its scopes. -/
def FlowState.usage (f : FlowState) : ScopeUsage := ⟨1, f.pendingMessages, f.pendingPayloadBytes⟩

/-- The scope records `u` and keeps its limits. -/
def ScopeState.Holds (state : ScopeState) (u : ScopeUsage) : Prop :=
  state.usage = u ∧ u.Within state.limits

/-- A scope without flows has no entry; an entry records the usage of its flows. -/
def ScopeEntry (entry : Option ScopeState) (u : ScopeUsage) : Prop :=
  match entry with
  | none => u = 0
  | some state => state.Holds u ∧ 0 < u.activeFlows

/-- The scope of one kind that a flow uses, if it uses one. -/
abbrev ScopeOf (d : Domain) := DeliveryFlowKey → FlowState → Option (Ident d)

section Books

variable {d : Domain} (scopeOf : ScopeOf d)

/-- What an entry of the flow table contributes to the scope `s`. -/
def charge (s : Ident d) (key : DeliveryFlowKey) (f : FlowState) : ScopeUsage :=
  if scopeOf key f = some s then f.usage else 0

def scopeTotal (s : Ident d) (flows : SortedMap DeliveryFlowKey FlowState) : ScopeUsage :=
  flows.sum (charge scopeOf s)

/-- Every scope of the kind has the entry its flows call for. -/
def Books (m : Scopes d) (flows : SortedMap DeliveryFlowKey FlowState) : Prop :=
  ∀ s, ScopeEntry (m.get? s) (scopeTotal scopeOf s flows)

variable {scopeOf} {m m' : Scopes d} {flows flows' : SortedMap DeliveryFlowKey FlowState}
  {key : DeliveryFlowKey} {f f' : FlowState} {s : Ident d}

/-- A sum of charges without active flows is empty. -/
theorem scopeTotal_eq_zero (h : (scopeTotal scopeOf s flows).activeFlows = 0) :
    scopeTotal scopeOf s flows = 0 := by
  refine SortedMap.sum_eq_zero fun k f hk => ?_
  have hsplit := SortedMap.sum_of_get? (charge scopeOf s) hk
  rw [scopeTotal, hsplit, ScopeUsage.add_activeFlows] at h
  unfold charge at h ⊢
  split
  · rename_i hs
    rw [if_pos hs] at h
    exact absurd h (by simp [FlowState.usage])
  · rfl

theorem scopeTotal_pos_iff :
    0 < (scopeTotal scopeOf s flows).activeFlows ↔
      ∃ k f, flows.get? k = some f ∧ scopeOf k f = some s := by
  constructor
  · intro h
    by_contra hno
    have hz : scopeTotal scopeOf s flows = 0 := by
      refine SortedMap.sum_eq_zero fun k f hk => if_neg fun hs => hno ⟨k, f, hk, hs⟩
    rw [hz] at h
    exact absurd h (lt_irrefl _)
  · rintro ⟨k, f, hk, hs⟩
    rw [scopeTotal, SortedMap.sum_of_get? _ hk, ScopeUsage.add_activeFlows, charge, if_pos hs]
    exact Nat.lt_of_lt_of_le Nat.one_pos (Nat.le_add_right 1 _)

/-- What the entry at a key contributes, nothing when there is none. -/
def chargeAt (scopeOf : ScopeOf d) (s : Ident d) (key : DeliveryFlowKey) (f : Option FlowState) :
    ScopeUsage := (f.map (charge scopeOf s key)).getD 0

/-- One flow changes: the books stay right when each entry follows the flow's charge. -/
theorem Books.move (h : Books scopeOf m flows) (he : flows'.erase key = flows.erase key)
    (hm : ∀ s, let rest := scopeTotal scopeOf s (flows.erase key)
      ScopeEntry (m.get? s) (chargeAt scopeOf s key (flows.get? key) + rest) →
      ScopeEntry (m'.get? s) (chargeAt scopeOf s key (flows'.get? key) + rest)) :
    Books scopeOf m' flows' := by
  intro s
  have hs := h s
  rw [scopeTotal, SortedMap.sum_split _ _ key] at hs ⊢
  rw [he]
  exact hm s hs

/-- Changes that do not touch the flow's charges. -/
theorem Books.unmoved (h : Books scopeOf m flows) (he : flows'.erase key = flows.erase key)
    (hc : ∀ s, chargeAt scopeOf s key (flows'.get? key) = chargeAt scopeOf s key (flows.get? key)) :
    Books scopeOf m flows' :=
  h.move he fun s hs => by rw [hc s]; exact hs

/-- The flow uses no scope of the kind but `s`. -/
def OnlyIn (scopeOf : ScopeOf d) (s : Ident d) (key : DeliveryFlowKey) (f : Option FlowState) :
    Prop := ∀ g s', f = some g → scopeOf key g = some s' → s' = s

theorem OnlyIn.of_eq (h : scopeOf key f = some s) : OnlyIn scopeOf s key (some f) := by
  intro g s' e hs
  cases e
  rw [h] at hs
  exact (Option.some.inj hs).symm

theorem OnlyIn.none : OnlyIn scopeOf s key none := nofun

theorem OnlyIn.chargeAt_ne {f : Option FlowState} (hf : OnlyIn scopeOf s key f) {s' : Ident d}
    (hne : s' ≠ s) : chargeAt scopeOf s' key f = 0 := by
  cases f with
  | none => rfl
  | some g => exact if_neg fun h => hne (hf g s' rfl h)

/-- One flow changes and uses no scope but `s`: only the entry of `s` is to be judged. -/
theorem Books.moveAt (h : Books scopeOf m flows) (s : Ident d)
    (he : flows'.erase key = flows.erase key) (hm : ∀ s', s' ≠ s → m'.get? s' = m.get? s')
    (ho : OnlyIn scopeOf s key (flows.get? key)) (hn : OnlyIn scopeOf s key (flows'.get? key))
    (hs : let rest := scopeTotal scopeOf s (flows.erase key)
      ScopeEntry (m.get? s) (chargeAt scopeOf s key (flows.get? key) + rest) →
      ScopeEntry (m'.get? s) (chargeAt scopeOf s key (flows'.get? key) + rest)) :
    Books scopeOf m' flows' := by
  refine h.move he fun s' hentry => ?_
  by_cases hss : s' = s
  · subst hss
    exact hs hentry
  · rw [hm s' hss, hn.chargeAt_ne hss]
    rwa [ho.chargeAt_ne hss] at hentry

theorem chargeAt_self (hs : scopeOf key f = some s) :
    chargeAt scopeOf s key (some f) = f.usage := if_pos hs

theorem chargeAt_none (hs : scopeOf key f = none) (s : Ident d) :
    chargeAt scopeOf s key (some f) = 0 := by
  refine if_neg fun h => ?_
  rw [hs] at h
  cases h

/-- The entry of a scope that an active flow uses. -/
theorem Books.entry (h : Books scopeOf m flows) (hf : flows.get? key = some f)
    (hs : scopeOf key f = some s) : ∃ state, m.get? s = some state := by
  have hentry := h s
  cases hm : m.get? s with
  | none =>
    rw [hm] at hentry
    have := scopeTotal_pos_iff.mpr ⟨key, f, hf, hs⟩
    rw [show scopeTotal scopeOf s flows = 0 from hentry] at this
    exact absurd this (lt_irrefl _)
  | some state => exact ⟨state, rfl⟩

/-- The flow's usage in its scope grows. -/
theorem Books.add (h : Books scopeOf m flows) (missing : String) {messages bytes : Nat}
    (hf : flows.get? key = some f) (hs : scopeOf key f = some s) (hs' : scopeOf key f' = some s)
    (hu : f'.usage = f.usage + ⟨0, messages, bytes⟩)
    (hroom : ∀ state, m.get? s = some state →
      state.usage.canAdd state.limits 0 messages bytes = true) :
    ∃ m', m.update s missing (·.add 0 messages bytes) = .ok m' ∧
      Books scopeOf m' (flows.insert key f') := by
  obtain ⟨state, hm⟩ := h.entry hf hs
  have hw := ScopeUsage.canAdd_iff.mp (hroom state hm)
  refine ⟨m.insert s { state with usage := state.usage + ⟨0, messages, bytes⟩ }, ?_, ?_⟩
  · simp only [Scopes.update, hm, Checked.expect_some, Checked.ok_bind, ScopeUsage.add_ok hw,
      Checked.pure_eq]
  · refine h.moveAt s (SortedMap.erase_insert_self flows key _)
      (fun s' => SortedMap.get?_insert_ne _ _) (hf ▸ .of_eq hs)
      (by rw [SortedMap.get?_insert_self]; exact .of_eq hs') fun he => ?_
    rw [SortedMap.get?_insert_self, SortedMap.get?_insert_self, chargeAt_self hs', hu]
    rw [hm, hf, chargeAt_self hs] at he
    obtain ⟨⟨h1, -⟩, h2⟩ := he
    rw [ScopeUsage.add_comm', ← h1]
    exact ⟨⟨rfl, hw⟩, by rw [h1]; simpa using h2⟩

/-- The flow's usage in its scope shrinks. -/
theorem Books.remove (h : Books scopeOf m flows) (missing : String) {messages bytes : Nat}
    (hf : flows.get? key = some f) (hs : scopeOf key f = some s) (hs' : scopeOf key f' = some s)
    (hu : f.usage = f'.usage + ⟨0, messages, bytes⟩) :
    ∃ m', m.update s missing (·.remove 0 messages bytes) = .ok m' ∧
      Books scopeOf m' (flows.insert key f') := by
  obtain ⟨state, hm⟩ := h.entry hf hs
  have hsplit := h s
  rw [scopeTotal, SortedMap.sum_of_get? _ hf, charge, if_pos hs, hm, hu,
    ScopeUsage.add_comm'] at hsplit
  obtain ⟨⟨hsum, hw⟩, hpos⟩ := hsplit
  have hsub : state.usage.remove 0 messages bytes
      = .ok (f'.usage + scopeTotal scopeOf s (flows.erase key)) := by
    rw [hsum]
    exact ScopeUsage.remove_ok _ 0 messages bytes
  refine ⟨m.insert s ⟨state.limits, f'.usage + scopeTotal scopeOf s (flows.erase key)⟩, ?_, ?_⟩
  · simp only [Scopes.update, hm, Checked.expect_some, Checked.ok_bind, hsub, Checked.pure_eq]
  · refine h.moveAt s (SortedMap.erase_insert_self flows key _)
      (fun s' => SortedMap.get?_insert_ne _ _) (hf ▸ .of_eq hs)
      (by rw [SortedMap.get?_insert_self]; exact .of_eq hs') fun _ => ?_
    rw [SortedMap.get?_insert_self, SortedMap.get?_insert_self, chargeAt_self hs']
    exact ⟨⟨rfl, hw.mono⟩, hpos⟩

/-- A flow enters a scope it did not use. -/
theorem Books.enter (h : Books scopeOf m flows) {limits : DeliveryScopeLimits}
    {messages bytes : Nat} (ho : ∀ g, flows.get? key = some g → scopeOf key g = none)
    (hs' : scopeOf key f' = some s) (hu : f'.usage = ⟨1, messages, bytes⟩)
    (hroom : ((m.get? s).getD (.new limits)).usage.canAdd
      ((m.get? s).getD (.new limits)).limits 1 messages bytes = true) :
    ∃ m', m.enter s limits messages bytes = .ok m' ∧ Books scopeOf m' (flows.insert key f') := by
  have hold : OnlyIn scopeOf s key (flows.get? key) := fun g s' e hs => by
    rw [ho g e] at hs
    cases hs
  have hzero : chargeAt scopeOf s key (flows.get? key) = 0 := by
    cases hf : flows.get? key with
    | none => rfl
    | some g => exact chargeAt_none (ho g hf) s
  have hw := ScopeUsage.canAdd_iff.mp hroom
  refine ⟨m.insert s ⟨((m.get? s).getD (.new limits)).limits,
    ((m.get? s).getD (.new limits)).usage + ⟨1, messages, bytes⟩⟩, ?_, ?_⟩
  · simp only [Scopes.enter, ScopeUsage.add_ok hw, Checked.ok_bind, Checked.pure_eq]
  · refine h.moveAt s (SortedMap.erase_insert_self flows key _)
      (fun s' => SortedMap.get?_insert_ne _ _) hold (by rw [SortedMap.get?_insert_self]; exact .of_eq hs') fun he => ?_
    rw [SortedMap.get?_insert_self, SortedMap.get?_insert_self, chargeAt_self hs', hu]
    rw [hzero, zero_add] at he
    have hrest : ((m.get? s).getD (.new limits)).usage = scopeTotal scopeOf s (flows.erase key) := by
      cases hm : m.get? s with
      | none => rw [hm] at he; exact he.symm
      | some state => rw [hm] at he; exact he.1.1
    rw [← hrest]
    refine ⟨⟨add_comm _ _, by rw [add_comm]; exact hw⟩, ?_⟩
    rw [ScopeUsage.add_activeFlows]
    exact Nat.lt_of_lt_of_le Nat.one_pos (Nat.le_add_right 1 _)

/-- A flow leaves the endpoint; the last flow of a scope takes its entry along. -/
theorem Books.leave (h : Books scopeOf m flows) (missing : String)
    (hf : flows.get? key = some f) (hs : scopeOf key f = some s) :
    ∃ m', m.leave s missing f.pendingMessages f.pendingPayloadBytes = .ok m' ∧
      Books scopeOf m' (flows.erase key) := by
  obtain ⟨state, hm⟩ := h.entry hf hs
  have hsplit := h s
  rw [scopeTotal, SortedMap.sum_of_get? _ hf, charge, if_pos hs, hm, add_comm] at hsplit
  obtain ⟨⟨hsum, hw⟩, -⟩ := hsplit
  have hsub : state.usage.remove 1 f.pendingMessages f.pendingPayloadBytes
      = .ok (scopeTotal scopeOf s (flows.erase key)) := by
    rw [hsum]
    exact ScopeUsage.remove_ok _ 1 f.pendingMessages f.pendingPayloadBytes
  simp only [Scopes.leave, hm, Checked.expect_some, Checked.ok_bind, hsub]
  split
  · rename_i hz
    refine ⟨m.erase s, ?_, ?_⟩
    · simp [SortedMap.contains, Checked.assert]
    · refine h.moveAt s (SortedMap.erase_erase_self flows key)
        (fun s' => SortedMap.get?_erase_ne _) (hf ▸ .of_eq hs) (by rw [SortedMap.get?_erase_self]; exact .none) fun _ => ?_
      rw [SortedMap.get?_erase_self, SortedMap.get?_erase_self]
      exact (zero_add _).trans (scopeTotal_eq_zero hz)
  · rename_i hz
    refine ⟨_, rfl, ?_⟩
    refine h.moveAt s (SortedMap.erase_erase_self flows key)
      (fun s' => SortedMap.get?_insert_ne _ _) (hf ▸ .of_eq hs)
      (by rw [SortedMap.get?_erase_self]; exact .none) fun _ => ?_
    rw [SortedMap.get?_insert_self, SortedMap.get?_erase_self]
    refine ⟨⟨(zero_add _).symm, ?_⟩, ?_⟩
    · rw [show chargeAt scopeOf s key none = 0 from rfl, zero_add]
      exact hw.mono
    · rw [show chargeAt scopeOf s key none = 0 from rfl, zero_add]
      exact Nat.pos_of_ne_zero hz

/-- A flow that uses no scope of the kind comes, goes or changes. -/
theorem Books.unscoped (h : Books scopeOf m flows) (he : flows'.erase key = flows.erase key)
    (ho : ∀ g, flows.get? key = some g → scopeOf key g = none)
    (hn : ∀ g, flows'.get? key = some g → scopeOf key g = none) : Books scopeOf m flows' := by
  have hz : ∀ (s : Ident d) (f : Option FlowState), (∀ g, f = some g → scopeOf key g = none) →
      chargeAt scopeOf s key f = 0 := by
    intro s f hf
    cases f with
    | none => rfl
    | some g => exact chargeAt_none (hf g rfl) s
  exact h.unmoved he fun s => by rw [hz s _ ho, hz s _ hn]

/-- A flow changes neither its scope nor its usage. -/
theorem Books.same (h : Books scopeOf m flows) (hf : flows.get? key = some f)
    (hs : scopeOf key f' = scopeOf key f) (hu : f'.usage = f.usage) :
    Books scopeOf m (flows.insert key f') := by
  refine h.unmoved (SortedMap.erase_insert_self flows key _) fun s => ?_
  rw [SortedMap.get?_insert_self, hf]
  simp only [chargeAt, charge, Option.map_some, Option.getD_some, hs, hu]

end Books

end RunenNet
