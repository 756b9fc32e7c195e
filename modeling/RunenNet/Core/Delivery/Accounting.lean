import RunenNet.Core.Delivery.Books
import Mathlib.Data.List.Infix

/-!
# The accounting invariant

`Inv`: the books of all four scopes are right and every flow records exactly what it buffers.
One lemma an operation says that it returns, keeps the invariant, and what it does to the flows.
-/

namespace RunenNet

open Foundation

/-! ### What a flow buffers -/

def ReceiverBuffer.transfers : ReceiverBuffer → List DeliveryTransfer
  | .reliable byIndex _ => byIndex.values
  | .unreliable queue _ => queue

/-- The receiver is of the kind the mode constructs. -/
def ReceiverBuffer.Fits (mode : DeliveryMode) : ReceiverBuffer → Prop
  | .reliable _ _ => mode = .reliableOrdered
  | .unreliable _ _ => mode ≠ .reliableOrdered

def payloadBytes (l : List DeliveryTransfer) : Nat := (l.map DeliveryTransfer.payloadLen).sum

@[simp] theorem payloadBytes_cons (t : DeliveryTransfer) (l : List DeliveryTransfer) :
    payloadBytes (t :: l) = t.payloadLen + payloadBytes l := by simp [payloadBytes]

theorem payloadBytes_perm {l l' : List DeliveryTransfer} (h : l.Perm l') :
    payloadBytes l = payloadBytes l' := (h.map _).sum_eq

namespace FlowState

def buffered (f : FlowState) : List DeliveryTransfer := f.outbound ++ f.receiver.transfers

/-- The flow with its counters taken from its buffers. -/
def recount (f : FlowState) : FlowState :=
  { f with
    pendingMessages := f.buffered.length
    pendingPayloadBytes := payloadBytes f.buffered }

/-- The flow with more pending usage recorded. -/
def charged (f : FlowState) (messages bytes : Nat) : FlowState :=
  { f with
    pendingMessages := f.pendingMessages + messages
    pendingPayloadBytes := f.pendingPayloadBytes + bytes }

/-- The flow with less pending usage recorded. -/
def released (f : FlowState) (messages bytes : Nat) : FlowState :=
  { f with
    pendingMessages := f.pendingMessages - messages
    pendingPayloadBytes := f.pendingPayloadBytes - bytes }

theorem usage_charged (f : FlowState) (messages bytes : Nat) :
    (f.charged messages bytes).usage = f.usage + ⟨0, messages, bytes⟩ := rfl

theorem usage_released {f : FlowState} {messages bytes : Nat} (hm : messages ≤ f.pendingMessages)
    (hb : bytes ≤ f.pendingPayloadBytes) :
    f.usage = (f.released messages bytes).usage + ⟨0, messages, bytes⟩ := by
  ext
  · rfl
  · exact (Nat.sub_add_cancel hm).symm
  · exact (Nat.sub_add_cancel hb).symm

/-- The buffers are those of the flow's mode and direction. -/
structure Shape (key : DeliveryFlowKey) (f : FlowState) : Prop where
  receiver : f.receiver.Fits f.mode
  no_outbound : key.direction = .inbound → f.outbound = []
  no_inbound : key.direction = .outbound → f.receiver.transfers = []

/-- What every flow of an endpoint satisfies. -/
structure Ok (key : DeliveryFlowKey) (f : FlowState) : Prop where
  policy : f.policy.validateForMode f.mode = .ok ()
  shape : f.Shape key
  messages : f.pendingMessages = f.buffered.length
  bytes : f.pendingPayloadBytes = payloadBytes f.buffered
  messages_le : f.pendingMessages ≤ f.policy.maxPendingMessages.get
  bytes_le : f.pendingPayloadBytes ≤ f.policy.maxPendingPayloadBytes.get

/-- `f'` differs from `f` in its buffers, receiver position and acceptance index only. -/
structure Rebuffered (f f' : FlowState) : Prop where
  mode : f'.mode = f.mode
  policy : f'.policy = f.policy
  session : f'.session = f.session
  messages : f'.pendingMessages = f.pendingMessages
  bytes : f'.pendingPayloadBytes = f.pendingPayloadBytes

theorem canAddPending_iff {f : FlowState} {messages bytes : Nat} :
    f.canAddPending messages bytes = true ↔
      f.pendingMessages + messages ≤ f.policy.maxPendingMessages.get ∧
      f.pendingPayloadBytes + bytes ≤ f.policy.maxPendingPayloadBytes.get := by
  simp only [canAddPending, Bool.and_eq_true,
    ScopeUsage.checkedAdd_any_le f.policy.maxPendingMessages.le_max,
    ScopeUsage.checkedAdd_any_le f.policy.maxPendingPayloadBytes.le_max]

/-- New buffers within the limits, with the counters taken from them, are fine. -/
theorem Ok.recount {key : DeliveryFlowKey} {f f' : FlowState} (h : Ok key f)
    (hr : f.Rebuffered f') (hs : f'.Shape key)
    (hm : f'.buffered.length ≤ f.policy.maxPendingMessages.get)
    (hb : payloadBytes f'.buffered ≤ f.policy.maxPendingPayloadBytes.get) : Ok key f'.recount := by
  rw [← hr.policy] at hm hb
  refine ⟨?_, ⟨hs.receiver, hs.no_outbound, hs.no_inbound⟩, rfl, rfl, hm, hb⟩
  rw [show f'.recount.policy = f.policy from hr.policy,
    show f'.recount.mode = f.mode from hr.mode]
  exact h.policy

theorem Ok.reliable {key : DeliveryFlowKey} {f : FlowState} (h : Ok key f)
    (hm : f.mode = .reliableOrdered) : ∃ byIndex next, f.receiver = .reliable byIndex next := by
  have hr := h.shape.receiver
  cases hb : f.receiver with
  | reliable byIndex next => exact ⟨byIndex, next, rfl⟩
  | unreliable queue last => rw [hb] at hr; exact absurd hm hr

theorem Ok.unreliable {key : DeliveryFlowKey} {f : FlowState} (h : Ok key f)
    (hm : f.mode ≠ .reliableOrdered) : ∃ queue last, f.receiver = .unreliable queue last := by
  have hr := h.shape.receiver
  cases hb : f.receiver with
  | reliable byIndex next => rw [hb] at hr; exact absurd hr hm
  | unreliable queue last => exact ⟨queue, last, rfl⟩

end FlowState

namespace DeliveryEndpoint

/-- Every flow uses its connection's scope. -/
def connectionOf : ScopeOf .connectionHandle := fun key _ => some key.connection

/-- A flow uses a session's scope once it is associated. -/
def sessionOf : ScopeOf .session := fun _ f => f.session

/-- The usage of all flows. -/
def aggregateTotal (flows : SortedMap DeliveryFlowKey FlowState) : ScopeUsage :=
  flows.sum fun _ f => f.usage

/-- The books of all scopes are right. -/
structure Accounted (e : DeliveryEndpoint) : Prop where
  aggregate : e.aggregate.Holds (aggregateTotal e.flows)
  connections : Books connectionOf e.connections e.flows
  sessions : Books sessionOf e.sessions e.flows

/-- The invariant of an endpoint created with the aggregate limits `L`. -/
structure Inv (e : DeliveryEndpoint) (L : DeliveryScopeLimits) : Prop where
  limits : e.aggregate.limits = L
  accounted : e.Accounted
  flows : ∀ key f, e.flows.get? key = some f → f.Ok key

variable {L : DeliveryScopeLimits} {e : DeliveryEndpoint} {key : DeliveryFlowKey} {f f' : FlowState}

theorem aggregateTotal_insert (flows : SortedMap DeliveryFlowKey FlowState)
    (key : DeliveryFlowKey) (f : FlowState) :
    aggregateTotal (flows.insert key f) = f.usage + aggregateTotal (flows.erase key) :=
  SortedMap.sum_insert _ flows key f

theorem aggregateTotal_of_get? {flows : SortedMap DeliveryFlowKey FlowState}
    (h : flows.get? key = some f) :
    aggregateTotal flows = f.usage + aggregateTotal (flows.erase key) :=
  SortedMap.sum_of_get? _ h

theorem Accounted.aggregate_same (h : e.Accounted) (hf : e.flows.get? key = some f)
    (hu : f'.usage = f.usage) : e.aggregate.Holds (aggregateTotal (e.flows.insert key f')) := by
  rw [aggregateTotal_insert, hu, ← aggregateTotal_of_get? hf]
  exact h.aggregate

/-- Changing neither a flow's usage nor its session keeps the books. -/
theorem Accounted.same (h : e.Accounted) (hf : e.flows.get? key = some f)
    (hs : f'.session = f.session) (hu : f'.usage = f.usage) : (e.setFlow key f').Accounted where
  aggregate := h.aggregate_same hf hu
  connections := h.connections.same hf rfl hu
  sessions := h.sessions.same hf hs hu

/-! ### Pending usage -/

/-- `messages` and `bytes` more fit every scope of the flow. -/
structure HasRoom (e : DeliveryEndpoint) (key : DeliveryFlowKey) (f : FlowState)
    (messages bytes : Nat) : Prop where
  flow : f.canAddPending messages bytes = true
  connection : ∀ state, e.connections.get? key.connection = some state →
    state.usage.canAdd state.limits 0 messages bytes = true
  aggregate : e.aggregate.usage.canAdd e.aggregate.limits 0 messages bytes = true
  session : ∀ s state, f.session = some s → e.sessions.get? s = some state →
    state.usage.canAdd state.limits 0 messages bytes = true

theorem canAddPending_ok (ha : e.Accounted) (hf : e.flows.get? key = some f)
    (messages bytes : Nat) : ∃ fits, e.canAddPending key messages bytes = .ok (.ok fits) ∧
      (fits = true ↔ e.HasRoom key f messages bytes) := by
  obtain ⟨connection, hc⟩ := ha.connections.entry hf rfl
  simp only [canAddPending, hf, hc, Checked.expect_some, Checked.ok_bind]
  split
  · rename_i h
    exact ⟨false, rfl, by simp, fun hr => absurd hr.flow h⟩
  · rename_i hflow
    split
    · rename_i h
      exact ⟨false, rfl, by simp, fun hr => absurd (hr.connection _ hc) h⟩
    · rename_i hconnection
      split
      · rename_i h
        exact ⟨false, rfl, by simp, fun hr => absurd hr.aggregate h⟩
      · rename_i haggregate
        have hroom : (∀ s state, f.session = some s → e.sessions.get? s = some state →
            state.usage.canAdd state.limits 0 messages bytes = true) →
            e.HasRoom key f messages bytes := fun hs =>
          { flow := by simpa using hflow
            connection := fun state h => by
              rw [hc] at h
              cases h
              simpa using hconnection
            aggregate := by simpa using haggregate
            session := hs }
        cases hs : f.session with
        | none =>
          refine ⟨true, rfl, fun _ => hroom fun s state h => ?_, fun _ => rfl⟩
          rw [hs] at h
          cases h
        | some s =>
          obtain ⟨session, hss⟩ := ha.sessions.entry hf hs
          simp only [hss, Checked.expect_some, Checked.ok_bind]
          refine ⟨_, rfl, fun h => hroom fun s' state h1 h2 => ?_, fun hr => hr.session s _ hs hss⟩
          rw [hs] at h1
          cases h1
          rw [hss] at h2
          cases h2
          exact h

/-- A flow without a session changes. -/
theorem Accounted.sessionless (ha : e.Accounted) (hf : e.flows.get? key = some f)
    (hs : f.session = none) (hs' : f'.session = none) :
    Books sessionOf e.sessions (e.flows.insert key f') :=
  ha.sessions.unscoped (SortedMap.erase_insert_self _ _ _)
    (fun g hg => by rw [hf] at hg; cases hg; exact hs)
    (fun g hg => by rw [SortedMap.get?_insert_self] at hg; cases hg; exact hs')

theorem Accounted.updateSession_add (ha : e.Accounted) (hf : e.flows.get? key = some f)
    {messages bytes : Nat} (hu : f'.usage = f.usage + ⟨0, messages, bytes⟩)
    (hs : f'.session = f.session)
    (hroom : ∀ s state, f.session = some s → e.sessions.get? s = some state →
      state.usage.canAdd state.limits 0 messages bytes = true) :
    ∃ sessions, e.updateSession f.session (·.add 0 messages bytes) = .ok sessions ∧
      Books sessionOf sessions (e.flows.insert key f') := by
  unfold updateSession
  cases h : f.session with
  | none => exact ⟨_, rfl, ha.sessionless hf h (hs.trans h)⟩
  | some s =>
    exact ha.sessions.add missingSession hf h (hs.trans h) hu fun state => hroom s state h

theorem Accounted.updateSession_remove (ha : e.Accounted) (hf : e.flows.get? key = some f)
    {messages bytes : Nat} (hu : f.usage = f'.usage + ⟨0, messages, bytes⟩)
    (hs : f'.session = f.session) :
    ∃ sessions, e.updateSession f.session (·.remove 0 messages bytes) = .ok sessions ∧
      Books sessionOf sessions (e.flows.insert key f') := by
  unfold updateSession
  cases h : f.session with
  | none => exact ⟨_, rfl, ha.sessionless hf h (hs.trans h)⟩
  | some s => exact ha.sessions.remove missingSession hf h (hs.trans h) hu

/-- The effect of an update of one flow's pending usage. -/
structure Pended (e e' : DeliveryEndpoint) (key : DeliveryFlowKey) (f : FlowState) : Prop where
  accounted : e'.Accounted
  flows : e'.flows = e.flows.insert key f
  diagnostics : e'.diagnostics = e.diagnostics
  limits : e'.aggregate.limits = e.aggregate.limits

theorem addPending_ok (ha : e.Accounted) (hf : e.flows.get? key = some f) {messages bytes : Nat}
    (hroom : e.HasRoom key f messages bytes) : ∃ e', e.addPending key messages bytes = .ok e' ∧
      Pended e e' key (f.charged messages bytes) := by
  obtain ⟨h1, h2⟩ := FlowState.canAddPending_iff.mp hroom.flow
  have e1 := Checked.add_ok (h1.trans f.policy.maxPendingMessages.le_max)
  have e2 := Checked.add_ok (h2.trans f.policy.maxPendingPayloadBytes.le_max)
  have hw := ScopeUsage.canAdd_iff.mp hroom.aggregate
  have e3 := ScopeUsage.add_ok hw
  have hu := f.usage_charged messages bytes
  have htotal : aggregateTotal (e.flows.insert key (f.charged messages bytes))
      = e.aggregate.usage + ⟨0, messages, bytes⟩ := by
    rw [aggregateTotal_insert, hu, ScopeUsage.add_comm', ← aggregateTotal_of_get? hf,
      ← ha.aggregate.1]
  obtain ⟨connections, hc, hcb⟩ :=
    ha.connections.add missingConnection hf rfl rfl hu hroom.connection
  obtain ⟨sessions, hs, hsb⟩ := ha.updateSession_add hf hu rfl hroom.session
  simp only [addPending, hf, Checked.expect_some, Checked.ok_bind, e1, e2, e3, hc, hs]
  exact ⟨_, rfl, ⟨⟨htotal.symm, htotal ▸ hw⟩, hcb, hsb⟩, rfl, rfl, rfl⟩

theorem removePending_ok (ha : e.Accounted) (hf : e.flows.get? key = some f)
    {messages bytes : Nat} (hm : messages ≤ f.pendingMessages) (hb : bytes ≤ f.pendingPayloadBytes) :
    ∃ e', e.removePending key messages bytes = .ok e' ∧
      Pended e e' key (f.released messages bytes) := by
  have e1 := Checked.sub_ok hm
  have e2 := Checked.sub_ok hb
  have hu := FlowState.usage_released hm hb
  have hsum := ha.aggregate.1
  have hw := ha.aggregate.2
  rw [aggregateTotal_of_get? hf, hu, ScopeUsage.add_comm'] at hsum hw
  have e3 : e.aggregate.usage.remove 0 messages bytes
      = .ok ((f.released messages bytes).usage + aggregateTotal (e.flows.erase key)) := by
    rw [hsum]
    exact ScopeUsage.remove_ok _ 0 messages bytes
  have htotal := aggregateTotal_insert e.flows key (f.released messages bytes)
  obtain ⟨connections, hc, hcb⟩ := ha.connections.remove missingConnection hf rfl rfl hu
  obtain ⟨sessions, hs, hsb⟩ := ha.updateSession_remove hf hu rfl
  simp only [removePending, hf, Checked.expect_some, Checked.ok_bind, e1, e2, e3, hc, hs]
  exact ⟨_, rfl, ⟨⟨htotal.symm, htotal ▸ hw.mono⟩, hcb, hsb⟩, rfl, rfl, rfl⟩

/-- One flow of `e` has become `f`, and the invariant holds. -/
structure Updated (L : DeliveryScopeLimits) (e e' : DeliveryEndpoint) (key : DeliveryFlowKey) (f : FlowState) : Prop where
  inv : e'.Inv L
  flows : e'.flows = e.flows.insert key f
  diagnostics : e'.diagnostics = e.diagnostics

theorem Pended.updated {e₀ e' : DeliveryEndpoint} (hi : e₀.Inv L)
    (h : Pended e e' key f) (hflows : e.flows.insert key f = e₀.flows.insert key f)
    (hd : e.diagnostics = e₀.diagnostics) (hl : e.aggregate.limits = e₀.aggregate.limits)
    (hok : f.Ok key) : Updated L e₀ e' key f where
  inv := ⟨(h.limits.trans hl).trans hi.limits, h.accounted, fun k g hg => by
    rw [h.flows, hflows, SortedMap.get?_insert] at hg
    split at hg
    · rename_i hk; cases hg; exact hk ▸ hok
    · exact hi.flows k g hg⟩
  flows := h.flows.trans hflows
  diagnostics := h.diagnostics.trans hd

/-- A transfer leaves the buffers of a flow and its usage is released. -/
theorem Inv.release (hi : e.Inv L) (hf : e.flows.get? key = some f) (f' : FlowState)
    (t : DeliveryTransfer) (hr : f.Rebuffered f') (hs : f'.Shape key)
    (hp : f.buffered.Perm (t :: f'.buffered)) :
    ∃ e', (e.setFlow key f').removePending key 1 t.payloadLen = .ok e' ∧
      Updated L e e' key f'.recount := by
  have hok := hi.flows key f hf
  have hlen := hp.length_eq
  have hbytes := payloadBytes_perm hp
  rw [List.length_cons] at hlen
  rw [payloadBytes_cons] at hbytes
  have hm : f'.pendingMessages = f'.buffered.length + 1 := by rw [hr.messages, hok.messages, hlen]
  have hb : f'.pendingPayloadBytes = t.payloadLen + payloadBytes f'.buffered := by
    rw [hr.bytes, hok.bytes, hbytes]
  have hu : f'.usage = f.usage := by
    simp only [FlowState.usage, hr.messages, hr.bytes]
  have hset : (e.setFlow key f').flows.get? key = some f' := SortedMap.get?_insert_self _ _ _
  obtain ⟨e', he, hpd⟩ := removePending_ok (hi.accounted.same hf hr.session hu) hset
    (show 1 ≤ f'.pendingMessages by omega) (show t.payloadLen ≤ f'.pendingPayloadBytes by omega)
  have hrecount : f'.released 1 t.payloadLen = f'.recount := by
    simp only [FlowState.released, FlowState.recount, hm, hb, Nat.add_sub_cancel,
      Nat.add_sub_cancel_left]
  rw [hrecount] at hpd
  refine ⟨e', he, hpd.updated hi (SortedMap.insert_insert_self _ _ _ _) rfl rfl ?_⟩
  refine hok.recount hr hs (le_trans ?_ hok.messages_le) (le_trans ?_ hok.bytes_le)
  · rw [hok.messages]; omega
  · rw [hok.bytes]; omega

/-- A transfer that fits enters the buffers of a flow and its usage is added. -/
theorem Inv.admit (hi : e.Inv L) (hf : e.flows.get? key = some f) (f' : FlowState)
    (t : DeliveryTransfer) (hr : f.Rebuffered f') (hs : f'.Shape key)
    (hp : f'.buffered.Perm (t :: f.buffered)) (hroom : e.HasRoom key f 1 t.payloadLen) :
    ∃ e', (e.setFlow key f').addPending key 1 t.payloadLen = .ok e' ∧
      Updated L e e' key f'.recount := by
  have hok := hi.flows key f hf
  have hlen := hp.length_eq
  have hbytes := payloadBytes_perm hp
  rw [List.length_cons, ← hok.messages] at hlen
  rw [payloadBytes_cons, ← hok.bytes] at hbytes
  have hu : f'.usage = f.usage := by
    simp only [FlowState.usage, hr.messages, hr.bytes]
  have hset : (e.setFlow key f').flows.get? key = some f' := SortedMap.get?_insert_self _ _ _
  obtain ⟨hm, hb⟩ := FlowState.canAddPending_iff.mp hroom.flow
  have hroom' : (e.setFlow key f').HasRoom key f' 1 t.payloadLen :=
    { flow := FlowState.canAddPending_iff.mpr (by rw [hr.messages, hr.bytes, hr.policy]; exact ⟨hm, hb⟩)
      connection := hroom.connection
      aggregate := hroom.aggregate
      session := fun s state h => hroom.session s state (hr.session ▸ h) }
  obtain ⟨e', he, hpd⟩ := addPending_ok (hi.accounted.same hf hr.session hu) hset hroom'
  have hrecount : f'.charged 1 t.payloadLen = f'.recount := by
    simp only [FlowState.charged, FlowState.recount, hr.messages, hr.bytes, hlen, hbytes,
      Nat.add_comm t.payloadLen]
  rw [hrecount] at hpd
  refine ⟨e', he, hpd.updated hi (SortedMap.insert_insert_self _ _ _ _) rfl rfl ?_⟩
  exact hok.recount hr hs (hlen ▸ hm) (by rw [hbytes, Nat.add_comm]; exact hb)

end DeliveryEndpoint

end RunenNet
