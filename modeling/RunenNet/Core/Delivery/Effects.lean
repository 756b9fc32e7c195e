import RunenNet.Core.Delivery.Accounting

/-!
# What each delivery operation does

On an endpoint whose accounting is right every operation returns. Its effect on the flow table
is that of the operation's purpose, and the accounting stays right.
-/

namespace RunenNet

open Foundation

namespace DeliveryEndpoint

variable {L : DeliveryScopeLimits} {e : DeliveryEndpoint} {key : DeliveryFlowKey} {f : FlowState}

theorem new_inv (L : DeliveryScopeLimits) : (new L).Inv L where
  limits := rfl
  accounted :=
    { aggregate := ⟨rfl, Nat.zero_le _, Nat.zero_le _, Nat.zero_le _⟩
      connections := fun _ => rfl
      sessions := fun _ => rfl }
  flows := nofun

/-! ### Establishing and associating -/

theorem checkConnection_ok {connection : ConnectionHandle} {limits : DeliveryScopeLimits}
    (h : e.checkConnection connection limits = .ok ()) :
    ((e.connections.get? connection).getD (.new limits)).usage.canAdd
      ((e.connections.get? connection).getD (.new limits)).limits 1 0 0 = true := by
  unfold checkConnection at h
  split at h
  · rename_i state hs
    rw [hs]
    split at h
    · cases h
    · split at h
      · cases h
      · rename_i hc; simpa using hc
  · rename_i hs
    rw [hs]
    split at h
    · cases h
    · rename_i hc
      exact (by simpa using hc : ScopeUsage.default.canAdd limits 1 0 0 = true)

theorem FlowState.new_ok {mode : DeliveryMode} {policy : FlowResourcePolicy}
    (h : policy.validateForMode mode = .ok ()) : (FlowState.new mode policy).Ok key where
  policy := h
  shape := by
    refine ⟨?_, fun _ => rfl, fun _ => ?_⟩
    · cases mode
      · rfl
      · exact nofun
      · exact nofun
    · cases mode <;> rfl
  messages := by cases mode <;> rfl
  bytes := by cases mode <;> rfl
  messages_le := Nat.zero_le _
  bytes_le := Nat.zero_le _

/-- A new flow is the only change. -/
def Established (e e' : DeliveryEndpoint) (key : DeliveryFlowKey) (mode : DeliveryMode)
    (policy : FlowResourcePolicy) (r : Except FlowEstablishmentError Unit) : Prop :=
  ((∃ err, r = .error err) ∧ e' = e) ∨
  (r = .ok () ∧ policy.validateForMode mode = .ok () ∧ e.flows.get? key = none ∧
    e'.flows = e.flows.insert key (.new mode policy))

theorem establishFlow_spec (hi : e.Inv L) (key : DeliveryFlowKey) (mode : DeliveryMode)
    (policy : FlowResourcePolicy) (limits : DeliveryScopeLimits) :
    ∃ r e', e.establishFlow key mode policy limits = .ok (r, e') ∧ e'.Inv L ∧
      Established e e' key mode policy r := by
  unfold establishFlow
  split
  · exact ⟨_, e, rfl, hi, .inl ⟨⟨_, rfl⟩, rfl⟩⟩
  · rename_i hpolicy
    split
    · exact ⟨_, e, rfl, hi, .inl ⟨⟨_, rfl⟩, rfl⟩⟩
    · rename_i hnew
      split
      · exact ⟨_, e, rfl, hi, .inl ⟨⟨_, rfl⟩, rfl⟩⟩
      · rename_i haggregate
        split
        · exact ⟨_, e, rfl, hi, .inl ⟨⟨_, rfl⟩, rfl⟩⟩
        · rename_i hconnection
          have hnone : e.flows.get? key = none :=
            SortedMap.contains_eq_false.mp (by simpa using hnew)
          have hw := ScopeUsage.canAdd_iff.mp (by simpa using haggregate)
          have hu : (FlowState.new mode policy).usage = ⟨1, 0, 0⟩ := rfl
          have htotal : aggregateTotal (e.flows.insert key (.new mode policy))
              = e.aggregate.usage + ⟨1, 0, 0⟩ := by
            rw [aggregateTotal_insert, SortedMap.erase_of_get?_none hnone, hu, add_comm,
              ← hi.accounted.aggregate.1]
          obtain ⟨connections, hc, hcb⟩ := hi.accounted.connections.enter
            (fun g hg => by rw [hnone] at hg; cases hg) rfl hu (checkConnection_ok hconnection)
          simp only [ScopeUsage.add_ok hw, Checked.ok_bind, hc, Checked.pure_eq]
          refine ⟨_, _, rfl, ⟨hi.limits, ⟨⟨htotal.symm, htotal ▸ hw⟩, hcb, ?_⟩, fun k g hg => ?_⟩,
            .inr ⟨rfl, hpolicy, hnone, rfl⟩⟩
          · exact hi.accounted.sessions.unscoped (SortedMap.erase_insert_self _ _ _)
              (fun g hg => by rw [hnone] at hg; cases hg)
              (fun g hg => by rw [SortedMap.get?_insert_self] at hg; cases hg; rfl)
          · rw [SortedMap.get?_insert] at hg
            split at hg
            · cases hg; exact FlowState.new_ok hpolicy
            · exact hi.flows k g hg

theorem checkSession_ok {session : SessionId} {limits : DeliveryScopeLimits} {messages bytes : Nat}
    (h : e.checkSession session limits messages bytes = .ok ()) :
    ((e.sessions.get? session).getD (.new limits)).usage.canAdd
      ((e.sessions.get? session).getD (.new limits)).limits 1 messages bytes = true := by
  unfold checkSession at h
  split at h
  · rename_i state hs
    rw [hs]
    split at h
    · cases h
    · rename_i hl
      split at h
      · cases h
      · rename_i hc
        have hl' : state.limits = limits := by simpa using hl
        simpa [hl'] using hc
  · rename_i hs
    rw [hs]
    split at h
    · cases h
    · rename_i hc
      exact (by simpa using hc : ScopeUsage.default.canAdd limits 1 messages bytes = true)

/-- The flow's session is the only change. -/
def Associated (e e' : DeliveryEndpoint) (key : DeliveryFlowKey) (session : Session)
    (r : Except SessionAssociationError SessionAssociationOutcome) : Prop :=
  e' = e ∨ ∃ f, e.flows.get? key = some f ∧ f.session = none ∧ r = .ok .associated ∧
    e'.flows = e.flows.insert key { f with session := some session.id }

theorem associateFlowWithSession_spec (hi : e.Inv L) (key : DeliveryFlowKey) (session : Session)
    (limits : DeliveryScopeLimits) :
    ∃ r e', e.associateFlowWithSession key session limits = .ok (r, e') ∧ e'.Inv L ∧
      Associated e e' key session r := by
  unfold associateFlowWithSession
  split
  · exact ⟨_, e, rfl, hi, .inl rfl⟩
  · split
    · exact ⟨_, e, rfl, hi, .inl rfl⟩
    · rename_i f hf
      split
      · rename_i current hs
        split
        · exact ⟨_, e, rfl, hi, .inl rfl⟩
        · obtain ⟨state, hstate⟩ := hi.accounted.sessions.entry hf hs
          simp only [hstate, Checked.expect_some, Checked.ok_bind]
          split
          · exact ⟨_, e, rfl, hi, .inl rfl⟩
          · exact ⟨_, e, rfl, hi, .inl rfl⟩
      · rename_i hs
        simp only
        split
        · exact ⟨_, e, rfl, hi, .inl rfl⟩
        · rename_i hcheck
          obtain ⟨sessions, hss, hsb⟩ := hi.accounted.sessions.enter
            (fun g hg => by rw [hf] at hg; cases hg; exact hs)
            (show sessionOf key { f with session := some session.id } = some session.id from rfl)
            rfl (checkSession_ok hcheck)
          simp only [hss, Checked.ok_bind, Checked.pure_eq]
          refine ⟨_, _, rfl, ⟨hi.limits, ⟨?_, ?_, hsb⟩, fun k g hg => ?_⟩, .inr ⟨f, hf, hs, rfl, rfl⟩⟩
          · exact hi.accounted.aggregate_same hf rfl
          · exact hi.accounted.connections.same hf rfl rfl
          · rw [SortedMap.get?_insert] at hg
            split at hg
            · rename_i hk
              cases hg
              have hok := hi.flows key f hf
              rw [hk]
              exact ⟨hok.policy, ⟨hok.shape.receiver, hok.shape.no_outbound, hok.shape.no_inbound⟩,
                hok.messages, hok.bytes, hok.messages_le, hok.bytes_le⟩
            · exact hi.flows k g hg

/-! ### Terminating -/

/-- The report of terminating a flow. -/
def terminationOf (key : DeliveryFlowKey) (f : FlowState) (reason : FlowTerminationReason) :
    FlowTermination where
  key := key
  reason := reason
  pendingMessages := f.pendingMessages
  reliableObligationFailed :=
    f.mode = .reliableOrdered ∧ (f.pendingMessages > 0 ∨ reason.forcesReliableFailure)

theorem Accounted.leaveSession (ha : e.Accounted) (hf : e.flows.get? key = some f) :
    ∃ sessions, e.leaveSession f.session f.pendingMessages f.pendingPayloadBytes = .ok sessions ∧
      Books sessionOf sessions (e.flows.erase key) := by
  unfold DeliveryEndpoint.leaveSession
  cases h : f.session with
  | none =>
    exact ⟨_, rfl, ha.sessions.unscoped (SortedMap.erase_erase_self _ _)
      (fun g hg => by rw [hf] at hg; cases hg; exact h)
      (fun g hg => by rw [SortedMap.get?_erase_self] at hg; cases hg)⟩
  | some s => exact ha.sessions.leave missingSession hf h

/-- The flow is gone and the invariant holds. -/
structure Removed (L : DeliveryScopeLimits) (e e' : DeliveryEndpoint) (key : DeliveryFlowKey) : Prop where
  inv : e'.Inv L
  flows : e'.flows = e.flows.erase key
  diagnostics : e'.diagnostics = e.diagnostics

theorem terminateFlow_spec (hi : e.Inv L) (hf : e.flows.get? key = some f)
    (reason : FlowTerminationReason) : ∃ e',
      e.terminateFlow key reason = .ok (.ok (terminationOf key f reason), e') ∧ Removed L e e' key := by
  have ha := hi.accounted
  obtain ⟨hsum, hw⟩ := ha.aggregate
  rw [aggregateTotal_of_get? hf, add_comm] at hsum hw
  have h1 : e.aggregate.usage.remove 1 f.pendingMessages f.pendingPayloadBytes
      = .ok (aggregateTotal (e.flows.erase key)) := by
    rw [hsum]
    exact ScopeUsage.remove_ok _ 1 f.pendingMessages f.pendingPayloadBytes
  obtain ⟨connections, hc, hcb⟩ := ha.connections.leave missingConnection hf rfl
  obtain ⟨sessions, hs, hsb⟩ := ha.leaveSession hf
  simp only [terminateFlow, hf, h1, Checked.ok_bind, hc, hs, Checked.pure_eq]
  refine ⟨_, rfl, ⟨hi.limits, ⟨⟨rfl, hw.mono⟩, hcb, hsb⟩, fun k g hg => ?_⟩, rfl, rfl⟩
  rw [SortedMap.get?_erase] at hg
  split at hg
  · cases hg
  · exact hi.flows k g hg

theorem terminateFlow_unknown (hf : e.flows.get? key = none) (reason : FlowTerminationReason) :
    e.terminateFlow key reason = .ok (.error .unknownFlow, e) := by
  simp only [terminateFlow, hf]

/-- A termination of any flow: the flow is unknown, or it is removed and reported. -/
def Terminated (L : DeliveryScopeLimits) (e e' : DeliveryEndpoint) (key : DeliveryFlowKey) (reason : FlowTerminationReason)
    (r : Except DeliveryOperationError FlowTermination) : Prop :=
  ((∃ err, r = .error err) ∧ e' = e) ∨
  ∃ f, e.flows.get? key = some f ∧ r = .ok (terminationOf key f reason) ∧ Removed L e e' key

theorem terminateFlow_total (hi : e.Inv L) (key : DeliveryFlowKey) (reason : FlowTerminationReason) :
    ∃ r e', e.terminateFlow key reason = .ok (r, e') ∧ e'.Inv L ∧ Terminated L e e' key reason r := by
  cases hf : e.flows.get? key with
  | none => exact ⟨_, e, terminateFlow_unknown hf reason, hi, .inl ⟨⟨_, rfl⟩, rfl⟩⟩
  | some f =>
    obtain ⟨e', h, hr⟩ := terminateFlow_spec hi hf reason
    exact ⟨_, e', h, hr.inv, .inr ⟨f, hf, rfl, hr⟩⟩

theorem failReliableCustody_spec (hi : e.Inv L) (key : DeliveryFlowKey) :
    ∃ r e', e.failReliableCustody key = .ok (r, e') ∧ e'.Inv L ∧
      Terminated L e e' key .reliableCustodyLost r := by
  unfold failReliableCustody
  split
  · exact ⟨_, e, rfl, hi, .inl ⟨⟨_, rfl⟩, rfl⟩⟩
  · split
    · exact ⟨_, e, rfl, hi, .inl ⟨⟨_, rfl⟩, rfl⟩⟩
    · exact terminateFlow_total hi key .reliableCustodyLost

/-- The keys are gone, each reported, and the other flows are untouched. -/
structure KeysRemoved (L : DeliveryScopeLimits) (e e' : DeliveryEndpoint) (keys : List DeliveryFlowKey)
    (reports : List FlowTermination) : Prop where
  inv : e'.Inv L
  gone : ∀ k ∈ keys, e'.flows.get? k = none
  kept : ∀ k, k ∉ keys → e'.flows.get? k = e.flows.get? k
  reports : reports = keys.filterMap fun k =>
    (e.flows.get? k).map fun f => terminationOf k f .connectionEnded

theorem terminateKeys_spec {keys : List DeliveryFlowKey} (hi : e.Inv L) (hn : keys.Nodup) :
    ∃ reports e', terminateKeys keys e = .ok (reports, e') ∧ KeysRemoved L e e' keys reports := by
  induction keys generalizing e with
  | nil => exact ⟨[], e, rfl, hi, nofun, fun _ _ => rfl, rfl⟩
  | cons key keys ih =>
    obtain ⟨hnot, hn⟩ := List.nodup_cons.mp hn
    obtain ⟨r, e1, h1, hi1, ht⟩ := terminateFlow_total hi key .connectionEnded
    obtain ⟨reports, e2, h2, hk⟩ := ih hi1 hn
    have hkept : ∀ k, k ≠ key → e1.flows.get? k = e.flows.get? k := by
      intro k hne
      rcases ht with ⟨-, rfl⟩ | ⟨f, -, -, hr⟩
      · rfl
      · rw [hr.flows, SortedMap.get?_erase_ne _ hne]
    have hgone : e1.flows.get? key = none := by
      rcases ht with ⟨⟨err, rfl⟩, he⟩ | ⟨f, -, -, hr⟩
      · cases hf : e.flows.get? key with
        | none => rw [he, hf]
        | some f =>
          obtain ⟨e', h', -⟩ := terminateFlow_spec hi hf .connectionEnded
          rw [h1] at h'
          cases h'
      · rw [hr.flows, SortedMap.get?_erase_self]
    have hreports : reports = keys.filterMap fun k =>
        (e.flows.get? k).map fun f => terminationOf k f .connectionEnded := by
      rw [hk.reports]
      refine List.filterMap_congr fun k hmem => ?_
      rw [hkept k (fun h => hnot (h ▸ hmem))]
    have hfinal : ∀ report : List FlowTermination,
        report = (key :: keys).filterMap (fun k =>
          (e.flows.get? k).map fun f => terminationOf k f .connectionEnded) →
        KeysRemoved L e e2 (key :: keys) report := fun report hreport =>
      { inv := hk.inv
        gone := fun k hmem => by
          rcases List.mem_cons.mp hmem with rfl | hmem
          · rw [hk.kept k hnot, hgone]
          · exact hk.gone k hmem
        kept := fun k hmem => by
          obtain ⟨h3, h4⟩ := not_or.mp (fun h => hmem (List.mem_cons.mpr h))
          rw [hk.kept k h4, hkept k h3]
        reports := hreport }
    simp only [terminateKeys, h1, h2, Checked.ok_bind]
    rcases ht with ⟨⟨err, rfl⟩, rfl⟩ | ⟨f, hf, rfl, hr⟩
    · exact ⟨reports, e2, rfl, hfinal _ (by rw [List.filterMap_cons, hgone]; exact hreports)⟩
    · exact ⟨_, e2, rfl, hfinal _ (by rw [List.filterMap_cons, hf, hreports]; rfl)⟩

theorem terminateConnection_spec (hi : e.Inv L) (connection : ConnectionHandle) :
    ∃ reports e', e.terminateConnection connection = .ok (reports, e') ∧
      KeysRemoved L e e' (e.flows.keys.filter fun key => key.connection = connection) reports :=
  terminateKeys_spec hi (e.flows.nodup_keys.filter _)

/-! ### Eviction -/

theorem Updated.refl (hi : e.Inv L) (hf : e.flows.get? key = some f) : Updated L e e key f :=
  ⟨hi, (SortedMap.insert_of_get? hf).symm, rfl⟩

theorem Updated.trans {e₁ e₂ : DeliveryEndpoint} {f₁ f₂ : FlowState} (h₁ : Updated L e e₁ key f₁)
    (h₂ : Updated L e₁ e₂ key f₂) : Updated L e e₂ key f₂ where
  inv := h₂.inv
  flows := by rw [h₂.flows, h₁.flows, SortedMap.insert_insert_self]
  diagnostics := h₂.diagnostics.trans h₁.diagnostics

theorem Updated.get? {e' : DeliveryEndpoint} (h : Updated L e e' key f) :
    e'.flows.get? key = some f := by rw [h.flows, SortedMap.get?_insert_self]

/-- `f'` is `f` without its `n` oldest pending transfers. -/
structure Dropped (f f' : FlowState) (n : Nat) : Prop where
  mode : f'.mode = f.mode
  policy : f'.policy = f.policy
  session : f'.session = f.session
  next : f'.nextAcceptedIndex = f.nextAcceptedIndex
  messages : f'.pendingMessages + n = f.pendingMessages
  outbound : ∃ l, f.outbound = l ++ f'.outbound
  receiver : f'.receiver = f.receiver ∨
    ∃ l queue last, f.receiver = .unreliable (l ++ queue) last ∧ f'.receiver = .unreliable queue last

theorem Dropped.refl (f : FlowState) : Dropped f f 0 :=
  ⟨rfl, rfl, rfl, rfl, rfl, ⟨[], rfl⟩, .inl rfl⟩

theorem Dropped.trans {f g h : FlowState} {n m : Nat} (h₁ : Dropped f g n) (h₂ : Dropped g h m) :
    Dropped f h (m + n) where
  mode := h₂.mode.trans h₁.mode
  policy := h₂.policy.trans h₁.policy
  session := h₂.session.trans h₁.session
  next := h₂.next.trans h₁.next
  messages := by rw [← Nat.add_assoc, h₂.messages, h₁.messages]
  outbound := by
    obtain ⟨l, hl⟩ := h₁.outbound
    obtain ⟨l', hl'⟩ := h₂.outbound
    exact ⟨l ++ l', by rw [hl, hl', List.append_assoc]⟩
  receiver := by
    rcases h₂.receiver with e₂ | ⟨l', queue', last', hg, hh⟩
    · rcases h₁.receiver with e₁ | ⟨l, queue, last, hf, hg⟩
      · exact .inl (e₂.trans e₁)
      · exact .inr ⟨l, queue, last, hf, e₂.trans hg⟩
    · rcases h₁.receiver with e₁ | ⟨l, queue, last, hf, hg'⟩
      · exact .inr ⟨l', queue', last', e₁ ▸ hg, hh⟩
      · rw [hg'] at hg
        cases hg
        exact .inr ⟨l ++ l', queue', last', by rw [hf, List.append_assoc], hh⟩

/-- The eviction drops the oldest pending transfer of the unreliable flow at `key`. -/
def Evicts.Drops (evict : Evicts) (L : DeliveryScopeLimits) (key : DeliveryFlowKey) : Prop :=
  ∀ e f, e.Inv L → e.flows.get? key = some f → f.mode ≠ .reliableOrdered →
    ∃ r e', evict e = .ok (.ok r, e') ∧
      ((r = none ∧ e' = e ∧ f.pendingMessages = 0) ∨
        ∃ t f', r = some t ∧ Updated L e e' key f' ∧ Dropped f f' 1)

/-- The front of the outbound queue leaves. -/
theorem Inv.popOutbound (hi : e.Inv L) (hf : e.flows.get? key = some f)
    (hd : key.direction = .outbound) {t : DeliveryTransfer} {rest : List DeliveryTransfer}
    (ho : f.outbound = t :: rest) :
    ∃ e', (e.setFlow key { f with outbound := rest }).removePending key 1 t.payloadLen = .ok e' ∧
      Updated L e e' key { f with outbound := rest }.recount := by
  have hs := (hi.flows key f hf).shape
  refine hi.release hf { f with outbound := rest } t ⟨rfl, rfl, rfl, rfl, rfl⟩
    ⟨hs.receiver, fun h => ?_, hs.no_inbound⟩ ?_
  · rw [hd] at h
    cases h
  · rw [FlowState.buffered, FlowState.buffered, ho]
    rfl

/-- The front of an unreliable receiver's queue leaves. -/
theorem Inv.popQueue (hi : e.Inv L) (hf : e.flows.get? key = some f)
    (hd : key.direction = .inbound) {t : DeliveryTransfer} {rest : List DeliveryTransfer}
    {last : Option Nat} (hr : f.receiver = .unreliable (t :: rest) last) :
    ∃ e', (e.setFlow key { f with receiver := .unreliable rest last }).removePending key 1
        t.payloadLen = .ok e' ∧
      Updated L e e' key { f with receiver := .unreliable rest last }.recount := by
  have hs := (hi.flows key f hf).shape
  have hfit := hs.receiver
  rw [hr] at hfit
  refine hi.release hf { f with receiver := .unreliable rest last } t ⟨rfl, rfl, rfl, rfl, rfl⟩
    ⟨hfit, hs.no_outbound, fun h => ?_⟩ ?_
  · rw [hd] at h
    cases h
  · simp only [FlowState.buffered, hr, hs.no_outbound hd]
    exact .refl _

theorem evictOldestOutboundUnreliable_drops (hd : key.direction = .outbound) :
    Evicts.Drops (evictOldestOutboundUnreliable key) L key := by
  intro e f hi hf hm
  have hok := hi.flows key f hf
  simp only [evictOldestOutboundUnreliable, hf, hd, ne_eq, not_true_eq_false, if_false, hm,
    not_false_eq_true, decide_true, Checked.assert_true, Checked.ok_bind]
  cases ho : f.outbound with
  | nil =>
    refine ⟨none, e, rfl, .inl ⟨rfl, rfl, ?_⟩⟩
    rw [hok.messages, FlowState.buffered, ho, hok.shape.no_inbound hd]
    rfl
  | cons t rest =>
    obtain ⟨e', he, hu⟩ := hi.popOutbound hf hd ho
    simp only [he, Checked.ok_bind, Checked.pure_eq]
    refine ⟨some t, e', rfl, .inr ⟨t, _, rfl, hu, rfl, rfl, rfl, rfl, ?_, ⟨[t], ho⟩, .inl rfl⟩⟩
    rw [hok.messages, FlowState.buffered, ho]
    rfl

theorem evictOldestInboundUnreliable_drops (hd : key.direction = .inbound) :
    Evicts.Drops (evictOldestInboundUnreliable key) L key := by
  intro e f hi hf hm
  have hok := hi.flows key f hf
  obtain ⟨queue, last, hr⟩ := hok.unreliable hm
  simp only [evictOldestInboundUnreliable, hf, hd, ne_eq, not_true_eq_false, if_false, hm,
    not_false_eq_true, decide_true, Checked.assert_true, Checked.ok_bind, hr]
  cases queue with
  | nil =>
    refine ⟨none, e, rfl, .inl ⟨rfl, rfl, ?_⟩⟩
    rw [hok.messages, FlowState.buffered, hr, hok.shape.no_outbound hd]
    rfl
  | cons t rest =>
    obtain ⟨e', he, hu⟩ := hi.popQueue hf hd hr
    simp only [he, Checked.ok_bind, Checked.pure_eq]
    refine ⟨some t, e', rfl, .inr ⟨t, _, rfl, hu, rfl, rfl, rfl, rfl, ?_, ⟨[], rfl⟩,
      .inr ⟨[t], rest, last, hr, rfl⟩⟩⟩
    rw [hok.messages, FlowState.buffered, hr, hok.shape.no_outbound hd]
    simp only [FlowState.recount, FlowState.buffered]
    rfl

/-- Making room for `bytes` more drops the oldest transfers, or finds nothing left to drop. -/
theorem evictUntilRoom_spec {evict : Evicts} (hev : evict.Drops L key) (bytes : Nat) {bound drops : Nat}
    (hi : e.Inv L) (hf : e.flows.get? key = some f) (hm : f.mode ≠ .reliableOrdered)
    (hb : f.pendingMessages < bound) (hdrops : drops ≤ usizeMax) :
    ∃ fits n f' e', evictUntilRoom evict key bytes bound drops e
        = .ok (.ok (fits, min (drops + n) usizeMax), e') ∧
      Updated L e e' key f' ∧ Dropped f f' n ∧ (fits = true → e'.HasRoom key f' 1 bytes) := by
  induction bound generalizing e f drops with
  | zero => omega
  | succ bound ih =>
    obtain ⟨fits, hc, hroom⟩ := canAddPending_ok hi.accounted hf 1 bytes
    cases fits with
    | true =>
      refine ⟨true, 0, f, e, ?_, .refl hi hf, .refl f, fun _ => hroom.mp rfl⟩
      simp only [evictUntilRoom, hc, Checked.ok_bind, Checked.pure_eq, Nat.add_zero,
        Nat.min_eq_left hdrops]
    | false =>
      obtain ⟨r, e1, hx, ⟨rfl, rfl, -⟩ | ⟨t, f1, rfl, hu, hdrop⟩⟩ := hev e f hi hf hm
      · refine ⟨false, 0, f, e1, ?_, .refl hi hf, .refl f, nofun⟩
        simp only [evictUntilRoom, hc, hx, Checked.ok_bind, Checked.pure_eq, Nat.add_zero,
          Nat.min_eq_left hdrops]
      · have hlt : f1.pendingMessages < bound := by
          have := hdrop.messages
          omega
        obtain ⟨fits, n, f2, e2, h2, hu2, hdrop2, hroom2⟩ := ih hu.inv hu.get?
          (hdrop.mode ▸ hm) hlt (show saturatingAdd usizeMax drops 1 ≤ usizeMax from
            Nat.min_le_right _ _)
        refine ⟨fits, n + 1, f2, e2, ?_, hu.trans hu2, hdrop.trans hdrop2, hroom2⟩
        have hmin : min (saturatingAdd usizeMax drops 1 + n) usizeMax
            = min (drops + (n + 1)) usizeMax := by
          unfold saturatingAdd
          omega
        simp only [evictUntilRoom, hc, hx, Checked.ok_bind, h2, hmin]

/-! ### Sending -/

theorem reliable_policy {p : FlowResourcePolicy} (h : p.validateForMode .reliableOrdered = .ok ()) :
    p.outboundPressure = .rejectNew ∧ p.receiverPressure = .terminateReliable := by
  simp only [FlowResourcePolicy.validateForMode] at h
  split at h
  · cases h
  · rename_i h1
    split at h
    · cases h
    · rename_i h2
      exact ⟨by simpa using h1, by simpa using h2⟩

theorem unreliable_policy {p : FlowResourcePolicy} {mode : DeliveryMode}
    (hm : mode ≠ .reliableOrdered) (h : p.validateForMode mode = .ok ()) :
    p.receiverPressure ≠ .terminateReliable := by
  cases mode with
  | reliableOrdered => exact absurd rfl hm
  | unreliableUnordered =>
    simp only [FlowResourcePolicy.validateForMode] at h
    split at h
    · cases h
    · assumption
  | unreliableSequenced =>
    simp only [FlowResourcePolicy.validateForMode] at h
    split at h
    · cases h
    · assumption

/-- What making room does: it drops `n` of the oldest transfers of an unreliable flow, and
nothing of a reliable one. -/
structure RoomMade (L : DeliveryScopeLimits) (e e' : DeliveryEndpoint) (key : DeliveryFlowKey) (f f' : FlowState)
    (bytes n : Nat) (fits : Bool) : Prop where
  updated : Updated L e e' key f'
  dropped : Dropped f f' n
  room : fits = true → e'.HasRoom key f' 1 bytes
  unchanged : f.mode = .reliableOrdered → e' = e ∧ f' = f
  full : fits = false → f.mode = .reliableOrdered → ¬ e.HasRoom key f 1 bytes

theorem outboundRoom_spec (hi : e.Inv L) (hf : e.flows.get? key = some f)
    (hd : key.direction = .outbound) (bytes : Nat) :
    ∃ fits n f' e', e.outboundRoom key f bytes = .ok (.ok (fits, min n usizeMax), e') ∧
      RoomMade L e e' key f f' bytes n fits := by
  obtain ⟨fits, hc, hroom⟩ := canAddPending_ok hi.accounted hf 1 bytes
  cases fits with
  | true =>
    refine ⟨true, 0, f, e, ?_, .refl hi hf, .refl f, fun _ => hroom.mp rfl, fun _ => ⟨rfl, rfl⟩, nofun⟩
    simp only [outboundRoom, hc, Checked.ok_bind, Checked.pure_eq, Nat.zero_min]
  | false =>
    have hfull : ¬ e.HasRoom key f 1 bytes := fun h => by cases hroom.mpr h
    cases hp : f.policy.outboundPressure with
    | rejectNew =>
      refine ⟨false, 0, f, e, ?_, .refl hi hf, .refl f, nofun, fun _ => ⟨rfl, rfl⟩, fun _ _ => hfull⟩
      simp only [outboundRoom, hc, hp, Checked.ok_bind, Checked.pure_eq, Nat.zero_min]
    | evictOldestUnreliable =>
      have hm : f.mode ≠ .reliableOrdered := fun hm => by
        have := (reliable_policy (hm ▸ (hi.flows key f hf).policy)).1
        rw [hp] at this
        cases this
      obtain ⟨fits, n, f', e', hx, hu, hdrop, hr⟩ := evictUntilRoom_spec
        (evictOldestOutboundUnreliable_drops hd) bytes hi hf hm (Nat.lt_succ_self _) (Nat.zero_le _)
      refine ⟨fits, n, f', e', ?_, hu, hdrop, hr, fun h => absurd h hm, fun _ h => absurd h hm⟩
      simp only [outboundRoom, hc, hp, Checked.ok_bind, ne_eq, hm, not_false_eq_true, decide_true,
        Checked.assert_true, hx, Nat.zero_add]

/-- The flow after it accepted `payload` as `index`. -/
def FlowState.enqueue (f : FlowState) (index : Nat) (payload : List UInt8) : FlowState :=
  FlowState.recount { f with
    nextAcceptedIndex := checkedAdd u64Max index 1
    outbound := f.outbound ++ [⟨f.mode, index, payload⟩] }

theorem enqueueOutbound_spec (hi : e.Inv L) (hf : e.flows.get? key = some f)
    (hd : key.direction = .outbound) (index drops : Nat) {payload : List UInt8}
    (hroom : e.HasRoom key f 1 payload.length) :
    ∃ e', e.enqueueOutbound key f.mode index payload drops = .ok (.ok (.accepted index drops), e') ∧
      e'.Inv L ∧ e'.flows = e.flows.insert key (FlowState.enqueue f index payload) := by
  have hs := (hi.flows key f hf).shape
  obtain ⟨e', he, hu⟩ := hi.admit hf { f with
      nextAcceptedIndex := checkedAdd u64Max index 1
      outbound := f.outbound ++ [⟨f.mode, index, payload⟩] } ⟨f.mode, index, payload⟩
    ⟨rfl, rfl, rfl, rfl, rfl⟩
    ⟨hs.receiver, fun h => absurd h (by rw [hd]; exact nofun), hs.no_inbound⟩
    (by
      simp only [FlowState.buffered, hs.no_inbound hd, List.append_nil]
      exact List.perm_append_singleton _ _) hroom
  have he' : (e.setFlow key { f with
      nextAcceptedIndex := checkedAdd u64Max index 1
      outbound := f.outbound ++ [⟨f.mode, index, payload⟩] }).addPending key 1 payload.length
      = .ok e' := he
  simp only [enqueueOutbound, hf, he', Checked.ok_bind, Checked.pure_eq]
  exact ⟨_, rfl, ⟨hu.inv.limits, ⟨hu.inv.accounted.aggregate, hu.inv.accounted.connections,
    hu.inv.accounted.sessions⟩, hu.inv.flows⟩, hu.flows⟩

/-- The transfer was accepted: `f'` is what is left of `f` after making room, and the payload
is queued behind it under the next index. -/
def Accepted (e e' : DeliveryEndpoint) (key : DeliveryFlowKey) (payload : List UInt8)
    (r : Except DeliveryOperationError SubmissionOutcome) : Prop :=
  ∃ f f' n index, e.flows.get? key = some f ∧ key.direction = .outbound ∧
    payload.length ≤ f.policy.maxMessageBytes.get ∧ f.nextAcceptedIndex = some index ∧
    Dropped f f' n ∧ (f.mode = .reliableOrdered → f' = f) ∧
    r = .ok (.accepted index (min n usizeMax)) ∧
    e'.flows = e.flows.insert key (FlowState.enqueue f' index payload)

/-- The transfer was not accepted; an unreliable flow may have lost transfers to pressure. -/
def Rejected (L : DeliveryScopeLimits) (e e' : DeliveryEndpoint) (key : DeliveryFlowKey)
    (r : Except DeliveryOperationError SubmissionOutcome) : Prop :=
  (∀ index drops, r ≠ .ok (.accepted index drops)) ∧
  (e' = e ∨ ∃ f f' n, e.flows.get? key = some f ∧ f.mode ≠ .reliableOrdered ∧
    Updated L e e' key f' ∧ Dropped f f' n)

theorem submit_spec (hi : e.Inv L) (key : DeliveryFlowKey) (payload : List UInt8) :
    ∃ r e', e.submit key payload = .ok (r, e') ∧ e'.Inv L ∧
      (Rejected L e e' key r ∨ Accepted e e' key payload r) := by
  unfold submit
  split
  · exact ⟨_, e, rfl, hi, .inl ⟨nofun, .inl rfl⟩⟩
  · rename_i f hf
    split
    · exact ⟨_, e, rfl, hi, .inl ⟨nofun, .inl rfl⟩⟩
    · rename_i hd
      split
      · exact ⟨_, e, rfl, hi, .inl ⟨nofun, .inl rfl⟩⟩
      · rename_i hlen
        split
        · exact ⟨_, e, rfl, hi, .inl ⟨nofun, .inl rfl⟩⟩
        · rename_i index hnext
          have hd' : key.direction = .outbound := by simpa using hd
          obtain ⟨fits, n, f', e1, hx, hr⟩ := outboundRoom_spec hi hf hd' payload.length
          simp only [hx, Checked.ok_bind]
          cases fits with
          | false =>
            refine ⟨_, e1, rfl, hr.updated.inv, .inl ⟨nofun, ?_⟩⟩
            by_cases hm : f.mode = .reliableOrdered
            · exact .inl (hr.unchanged hm).1
            · exact .inr ⟨f, f', n, hf, hm, hr.updated, hr.dropped⟩
          | true =>
            obtain ⟨e2, h2, hi2, hfl⟩ := enqueueOutbound_spec hr.updated.inv hr.updated.get? hd'
              index (min n usizeMax) (hr.room rfl)
            rw [hr.dropped.mode] at h2
            refine ⟨_, e2, h2, hi2, .inr ⟨f, f', n, index, hf, hd', not_lt.mp hlen, hnext,
              hr.dropped, fun hm => (hr.unchanged hm).2, rfl, ?_⟩⟩
            rw [hfl, hr.updated.flows, SortedMap.insert_insert_self]

end DeliveryEndpoint

end RunenNet
