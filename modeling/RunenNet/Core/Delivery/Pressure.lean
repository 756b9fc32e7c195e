import RunenNet.Core.Delivery.Safety

/-!
# How far eviction can go

Evicting the oldest messages of a flow frees only what the flow itself holds. Whether a message
can be admitted after enough evictions is therefore known before the first one: it must fit every
scope without the flow's own pending messages.
-/

namespace RunenNet

open Foundation

/-- One message of `bytes` fits the scope once nothing of the flow is pending. -/
def ScopeState.FitsWithout (state : ScopeState) (f : FlowState) (bytes : Nat) : Prop :=
  state.usage.pendingMessages + 1 ≤ state.limits.maxPendingMessages.get + f.pendingMessages ∧
  state.usage.pendingPayloadBytes + bytes ≤
    state.limits.maxPendingPayloadBytes.get + f.pendingPayloadBytes

namespace DeliveryEndpoint

variable {L : DeliveryScopeLimits} {e e' : DeliveryEndpoint} {key : DeliveryFlowKey}
  {f f' : FlowState}

/-- One message of `bytes` fits every scope once nothing of the flow is pending. -/
structure FitsEmptied (e : DeliveryEndpoint) (key : DeliveryFlowKey) (f : FlowState)
    (bytes : Nat) : Prop where
  flow : bytes ≤ f.policy.maxPendingPayloadBytes.get
  connection : ∀ state, e.connections.get? key.connection = some state →
    state.FitsWithout f bytes
  aggregate : e.aggregate.FitsWithout f bytes
  session : ∀ s state, f.session = some s → e.sessions.get? s = some state →
    state.FitsWithout f bytes

/-! ### Evictions keep the limits of the scopes -/

/-- The scopes of the same limits. -/
structure SameLimits (e e' : DeliveryEndpoint) : Prop where
  aggregate : e'.aggregate.limits = e.aggregate.limits
  connections : ∀ c, (e'.connections.get? c).map ScopeState.limits =
    (e.connections.get? c).map ScopeState.limits
  sessions : ∀ s, (e'.sessions.get? s).map ScopeState.limits =
    (e.sessions.get? s).map ScopeState.limits

theorem SameLimits.refl (e : DeliveryEndpoint) : SameLimits e e := ⟨rfl, fun _ => rfl, fun _ => rfl⟩

theorem SameLimits.trans {e₁ e₂ e₃ : DeliveryEndpoint} (h : SameLimits e₁ e₂)
    (h' : SameLimits e₂ e₃) : SameLimits e₁ e₃ where
  aggregate := h'.aggregate.trans h.aggregate
  connections := fun c => (h'.connections c).trans (h.connections c)
  sessions := fun s => (h'.sessions s).trans (h.sessions s)

theorem update_limits {d : Domain} {m m' : Scopes d} {s : Ident d} {missing : String}
    {change : ScopeUsage → Checked ScopeUsage} (h : m.update s missing change = .ok m')
    (c : Ident d) :
    (m'.get? c).map ScopeState.limits = (m.get? c).map ScopeState.limits := by
  unfold Scopes.update at h
  obtain ⟨state, hs, h⟩ := Checked.bind_eq_ok.mp h
  obtain ⟨usage, -, h⟩ := Checked.bind_eq_ok.mp h
  cases h
  rw [Checked.expect_eq_ok] at hs
  by_cases hc : c = s
  · subst hc
    rw [SortedMap.get?_insert_self, hs]
    rfl
  · rw [SortedMap.get?_insert_ne _ _ hc]

theorem updateSession_limits {session : Option SessionId}
    {change : ScopeUsage → Checked ScopeUsage} {sessions : Scopes .session}
    (h : e.updateSession session change = .ok sessions) (s : SessionId) :
    (sessions.get? s).map ScopeState.limits = (e.sessions.get? s).map ScopeState.limits := by
  unfold updateSession at h
  cases session with
  | none =>
    cases h
    rfl
  | some id => exact update_limits h s

theorem removePending_limits {messages bytes : Nat}
    (h : e.removePending key messages bytes = .ok e') : SameLimits e e' := by
  unfold removePending at h
  obtain ⟨flow, -, h⟩ := Checked.bind_eq_ok.mp h
  obtain ⟨pendingMessages, -, h⟩ := Checked.bind_eq_ok.mp h
  obtain ⟨pendingPayloadBytes, -, h⟩ := Checked.bind_eq_ok.mp h
  obtain ⟨connections, hc, h⟩ := Checked.bind_eq_ok.mp h
  obtain ⟨usage, -, h⟩ := Checked.bind_eq_ok.mp h
  obtain ⟨sessions, hs, h⟩ := Checked.bind_eq_ok.mp h
  cases h
  exact ⟨rfl, update_limits hc, updateSession_limits hs⟩

/-- An outbound eviction takes the front of the queue, or finds the queue empty. -/
theorem evictOldestOutboundUnreliable_cases {r : Except DeliveryOperationError (Option DeliveryTransfer)}
    (h : evictOldestOutboundUnreliable key e = .ok (r, e')) :
    SameLimits e e' ∧
      (r = .ok none → e' = e ∧ ∀ f, e.flows.get? key = some f → f.outbound = []) := by
  unfold evictOldestOutboundUnreliable at h
  cases hf : e.flows.get? key with
  | none =>
    rw [hf] at h
    cases h
    refine ⟨.refl e, fun hr => ?_⟩
    cases hr
  | some flow =>
    rw [hf] at h
    simp only at h
    split at h
    · cases h
      refine ⟨.refl e, fun hr => ?_⟩
      cases hr
    · obtain ⟨-, -, h⟩ := Checked.bind_eq_ok.mp h
      cases ho : flow.outbound with
      | nil =>
        rw [ho] at h
        cases h
        refine ⟨.refl e, fun _ => ⟨rfl, fun g hg => ?_⟩⟩
        cases hg
        exact ho
      | cons transfer rest =>
        rw [ho] at h
        obtain ⟨e₁, hremove, h⟩ := Checked.bind_eq_ok.mp h
        cases h
        have hl := removePending_limits hremove
        refine ⟨⟨hl.aggregate, hl.connections, hl.sessions⟩, fun hr => ?_⟩
        cases hr

/-- The loop gives up when the message does not fit and nothing is left to evict. -/
theorem evictUntilRoom_outbound {e e' : DeliveryEndpoint} {bytes bound drops d : Nat}
    {fits : Bool} (h : evictUntilRoom (evictOldestOutboundUnreliable key) key bytes bound drops e =
      .ok (.ok (fits, d), e')) :
    SameLimits e e' ∧ (fits = false → e'.canAddPending key 1 bytes = .ok (.ok false) ∧
      ∀ f, e'.flows.get? key = some f → f.outbound = []) := by
  induction bound generalizing e drops with
  | zero => cases h
  | succ bound ih =>
    unfold evictUntilRoom at h
    obtain ⟨r, hroom, h⟩ := Checked.bind_eq_ok.mp h
    split at h
    · cases h
    · cases h
      refine ⟨.refl _, fun hf => ?_⟩
      cases hf
    · obtain ⟨⟨r, e₁⟩, hevict, h⟩ := Checked.bind_eq_ok.mp h
      obtain ⟨hl, hnone⟩ := evictOldestOutboundUnreliable_cases hevict
      split at h
      · cases h
      · rename_i heq
        cases heq
        cases h
        obtain ⟨rfl, hempty⟩ := hnone rfl
        exact ⟨.refl _, fun _ => ⟨hroom, hempty⟩⟩
      · rename_i heq
        cases heq
        obtain ⟨hl', hfalse⟩ := ih h
        exact ⟨hl.trans hl', hfalse⟩

/-! ### Room, before and after -/

/-- The usage of a scope is that of one of its flows and of the others. -/
theorem books_usage {d : Domain} {scopeOf : ScopeOf d} {m : Scopes d}
    {flows : SortedMap DeliveryFlowKey FlowState} (h : Books scopeOf m flows)
    (hf : flows.get? key = some f) {s : Ident d} (hs : scopeOf key f = some s) {state : ScopeState}
    (hm : m.get? s = some state) :
    state.usage = f.usage + scopeTotal scopeOf s (flows.erase key) := by
  have hentry := h s
  rw [scopeTotal, SortedMap.sum_of_get? _ hf, charge, if_pos hs, hm] at hentry
  exact hentry.1.1

/-- The scope after the flow `f` became `f'`, and nothing else changed. -/
structure Shifted (f f' : FlowState) (state state' : ScopeState) : Prop where
  limits : state'.limits = state.limits
  messages : state'.usage.pendingMessages + f.pendingMessages =
    state.usage.pendingMessages + f'.pendingMessages
  bytes : state'.usage.pendingPayloadBytes + f.pendingPayloadBytes =
    state.usage.pendingPayloadBytes + f'.pendingPayloadBytes
  flows : state'.usage.activeFlows ≤ state'.limits.maxActiveFlows.get

theorem Shifted.of_usage {state state' : ScopeState} {rest : ScopeUsage}
    (hl : state'.limits = state.limits) (hu : state.usage = f.usage + rest)
    (hu' : state'.usage = f'.usage + rest) (hw : state'.usage.Within state'.limits) :
    Shifted f f' state state' where
  limits := hl
  messages := by
    rw [hu, hu']
    simp only [FlowState.usage, ScopeUsage.add_pendingMessages]
    omega
  bytes := by
    rw [hu, hu']
    simp only [FlowState.usage, ScopeUsage.add_pendingPayloadBytes]
    omega
  flows := hw.1

theorem Shifted.fitsWithout {state state' : ScopeState} (h : Shifted f f' state state')
    {bytes : Nat} (hadd : state'.usage.canAdd state'.limits 0 1 bytes = true) :
    state.FitsWithout f bytes := by
  obtain ⟨-, hm, hb⟩ := ScopeUsage.canAdd_iff.mp hadd
  have hmessages := h.messages
  have hbytes := h.bytes
  rw [h.limits] at hm hb
  simp only [ScopeUsage.add_pendingMessages, ScopeUsage.add_pendingPayloadBytes] at hm hb
  unfold ScopeState.FitsWithout
  omega

theorem Shifted.canAdd {state state' : ScopeState} (h : Shifted f f' state state')
    (hm : f'.pendingMessages = 0) (hb : f'.pendingPayloadBytes = 0) {bytes : Nat}
    (hfits : state.FitsWithout f bytes) : state'.usage.canAdd state'.limits 0 1 bytes = true := by
  obtain ⟨h1, h2⟩ := hfits
  have hmessages := h.messages
  have hbytes := h.bytes
  have hroom : state'.usage.pendingMessages + 1 ≤ state'.limits.maxPendingMessages.get := by
    rw [h.limits]
    omega
  have hbytesRoom :
      state'.usage.pendingPayloadBytes + bytes ≤ state'.limits.maxPendingPayloadBytes.get := by
    rw [h.limits]
    omega
  exact ScopeUsage.canAdd_iff.mpr ⟨h.flows, hroom, hbytesRoom⟩

/-- Every scope of a flow is shifted when evictions have replaced the flow. -/
structure AllShifted (e e' : DeliveryEndpoint) (key : DeliveryFlowKey) (f f' : FlowState) :
    Prop where
  aggregate : Shifted f f' e.aggregate e'.aggregate
  connection : ∃ state state', e.connections.get? key.connection = some state ∧
    e'.connections.get? key.connection = some state' ∧ Shifted f f' state state'
  session : ∀ s, f.session = some s → ∃ state state', e.sessions.get? s = some state ∧
    e'.sessions.get? s = some state' ∧ Shifted f f' state state'

theorem books_shifted {d : Domain} {scopeOf : ScopeOf d} {m m' : Scopes d}
    {flows : SortedMap DeliveryFlowKey FlowState} (h : Books scopeOf m flows)
    (h' : Books scopeOf m' (flows.insert key f')) (hf : flows.get? key = some f) {s : Ident d}
    (hs : scopeOf key f = some s) (hs' : scopeOf key f' = some s)
    (hl : (m'.get? s).map ScopeState.limits = (m.get? s).map ScopeState.limits) :
    ∃ state state', m.get? s = some state ∧ m'.get? s = some state' ∧
      Shifted f f' state state' := by
  obtain ⟨state, hm⟩ := h.entry hf hs
  obtain ⟨state', hm'⟩ := h'.entry (SortedMap.get?_insert_self flows key f') hs'
  refine ⟨state, state', hm, hm', ?_⟩
  rw [hm, hm'] at hl
  have hu' := books_usage h' (SortedMap.get?_insert_self flows key f') hs' hm'
  rw [SortedMap.erase_insert_self] at hu'
  exact .of_usage (Option.some.inj hl) (books_usage h hf hs hm) hu' (entry_holds h' hm').2

theorem allShifted (hi : e.Inv L) (hf : e.flows.get? key = some f) (hu : Updated L e e' key f')
    {n : Nat} (hd : Dropped f f' n) (hl : SameLimits e e') : AllShifted e e' key f f' := by
  have ha := hi.accounted
  have haggregate := hu.inv.accounted.aggregate
  have hconnections := hu.inv.accounted.connections
  have hsessions := hu.inv.accounted.sessions
  rw [hu.flows] at haggregate hconnections hsessions
  refine ⟨?_, books_shifted ha.connections hconnections hf rfl rfl (hl.connections _), ?_⟩
  · refine .of_usage hl.aggregate (ha.aggregate.1.trans (aggregateTotal_of_get? hf))
      (haggregate.1.trans (aggregateTotal_insert _ _ _)) ?_
    rw [haggregate.1]
    exact haggregate.2
  · exact fun s hs => books_shifted ha.sessions hsessions hf hs (hd.session.trans hs)
      (hl.sessions s)

/-- What makes room for a message makes it fit the scopes without the flow. -/
theorem AllShifted.fitsEmptied (h : AllShifted e e' key f f') {n : Nat} (hd : Dropped f f' n)
    {bytes : Nat} (hroom : e'.HasRoom key f' 1 bytes) : e.FitsEmptied key f bytes where
  flow := by
    have hflow := (FlowState.canAddPending_iff.mp hroom.flow).2
    rw [hd.policy] at hflow
    omega
  connection := by
    intro state hs
    obtain ⟨state₁, state', h₁, h', hshift⟩ := h.connection
    rw [hs] at h₁
    cases h₁
    exact hshift.fitsWithout (hroom.connection state' h')
  aggregate := h.aggregate.fitsWithout hroom.aggregate
  session := by
    intro s state hs hstate
    obtain ⟨state₁, state', h₁, h', hshift⟩ := h.session s hs
    rw [hstate] at h₁
    cases h₁
    exact hshift.fitsWithout (hroom.session s state' (hd.session.trans hs) h')

/-- A message that fits the scopes without the flow has room once the flow holds nothing. -/
theorem AllShifted.hasRoom (h : AllShifted e e' key f f') {n : Nat} (hd : Dropped f f' n)
    (hm : f'.pendingMessages = 0) (hb : f'.pendingPayloadBytes = 0) {bytes : Nat}
    (hfits : e.FitsEmptied key f bytes) : e'.HasRoom key f' 1 bytes where
  flow := by
    have hone := f.policy.maxPendingMessages.pos
    have hbytes := hfits.flow
    refine FlowState.canAddPending_iff.mpr ⟨?_, ?_⟩
    · rw [hd.policy, hm]
      omega
    · rw [hd.policy, hb]
      omega
  connection := by
    intro state' hs'
    obtain ⟨state, state₁, hs, h₁, hshift⟩ := h.connection
    rw [hs'] at h₁
    cases h₁
    exact hshift.canAdd hm hb (hfits.connection state hs)
  aggregate := h.aggregate.canAdd hm hb hfits.aggregate
  session := by
    intro s state' hs hstate'
    rw [hd.session] at hs
    obtain ⟨state, state₁, hstate, h₁, hshift⟩ := h.session s hs
    rw [hstate'] at h₁
    cases h₁
    exact hshift.canAdd hm hb (hfits.session s state hs hstate)

/-! ### Submitting under pressure -/

theorem outboundRoom_cases {bytes d : Nat} {fits : Bool}
    (h : e.outboundRoom key f bytes = .ok (.ok (fits, d), e')) :
    SameLimits e e' ∧ (fits = false → (f.policy.outboundPressure = .rejectNew ∧ e' = e) ∨
      (f.policy.outboundPressure = .evictOldestUnreliable ∧
        e'.canAddPending key 1 bytes = .ok (.ok false) ∧
        ∀ g, e'.flows.get? key = some g → g.outbound = [])) := by
  unfold outboundRoom at h
  obtain ⟨r, hroom, h⟩ := Checked.bind_eq_ok.mp h
  split at h
  · cases h
  · cases h
    refine ⟨.refl _, fun hf => ?_⟩
    cases hf
  · split at h
    · rename_i hp
      cases h
      exact ⟨.refl _, fun _ => .inl ⟨hp, rfl⟩⟩
    · rename_i hp
      obtain ⟨-, -, h⟩ := Checked.bind_eq_ok.mp h
      obtain ⟨hl, hfalse⟩ := evictUntilRoom_outbound h
      exact ⟨hl, fun hf => .inr ⟨hp, hfalse hf⟩⟩

/-- Room is made in an evicting flow exactly when the message fits without the flow; otherwise
the flow is left with nothing pending. -/
theorem outboundRoom_fits (hi : e.Inv L) (hf : e.flows.get? key = some f)
    (hd : key.direction = .outbound) (bytes : Nat) :
    ∃ fits n f' e', e.outboundRoom key f bytes = .ok (.ok (fits, min n usizeMax), e') ∧
      RoomMade L e e' key f f' bytes n fits ∧
      (fits = true → e.FitsEmptied key f bytes) ∧
      (fits = false → (f.policy.outboundPressure = .rejectNew ∧ e' = e) ∨
        (f.policy.outboundPressure = .evictOldestUnreliable ∧ f'.outbound = [] ∧
          ¬ e.FitsEmptied key f bytes)) := by
  obtain ⟨fits, n, f', e', hx, hr⟩ := outboundRoom_spec hi hf hd bytes
  obtain ⟨hl, hfalse⟩ := outboundRoom_cases hx
  have hshift := allShifted hi hf hr.updated hr.dropped hl
  refine ⟨fits, n, f', e', hx, hr, fun ht => hshift.fitsEmptied hr.dropped (hr.room ht), ?_⟩
  intro ht
  rcases hfalse ht with hreject | ⟨hp, hfull, hempty⟩
  · exact .inl hreject
  · have hf' := hr.updated.get?
    have hok := hr.updated.inv.flows key f' hf'
    have hbuffered : f'.buffered = [] := by
      rw [FlowState.buffered, hempty f' hf', hok.shape.no_inbound hd]
      rfl
    refine .inr ⟨hp, hempty f' hf', fun hfits => ?_⟩
    obtain ⟨room, hcan, hiff⟩ := canAddPending_ok hr.updated.inv.accounted hf' 1 bytes
    have hroom : room = true := by
      refine hiff.mpr (hshift.hasRoom hr.dropped ?_ ?_ hfits)
      · rw [hok.messages, hbuffered]
        rfl
      · rw [hok.bytes, hbuffered]
        rfl
    rw [hfull, hroom] at hcan
    cases hcan

end DeliveryEndpoint

end RunenNet
