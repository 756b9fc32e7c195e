import RunenNet.Core.Delivery.ReceiverEffects

/-!
# Runs of a delivery endpoint

Any sequence of operations with any arguments runs to its end without a panic, and every
endpoint it passes through accounts exactly for what its flows buffer.
-/

namespace RunenNet

open Foundation

/-- The operations of an endpoint. -/
inductive DeliveryOp where
  | establishFlow (key : DeliveryFlowKey) (mode : DeliveryMode) (policy : FlowResourcePolicy)
      (connectionLimits : DeliveryScopeLimits)
  | associateFlowWithSession (key : DeliveryFlowKey) (session : Session)
      (sessionLimits : DeliveryScopeLimits)
  | submit (key : DeliveryFlowKey) (payload : List UInt8)
  | commitOutboundCustody (key : DeliveryFlowKey) (acceptedIndex : Nat)
  | receive (key : DeliveryFlowKey) (transfer : DeliveryTransfer)
  | receiveTransportPayload (key : DeliveryFlowKey) (acceptedIndex : Nat) (payload : List UInt8)
  | pollExposure (key : DeliveryFlowKey)
  | terminateFlow (key : DeliveryFlowKey) (reason : FlowTerminationReason)
  | failReliableCustody (key : DeliveryFlowKey)
  | terminateConnection (connection : ConnectionHandle)

/-- The result of an operation. -/
inductive DeliveryReply where
  | established (r : Except FlowEstablishmentError Unit)
  | associated (r : Except SessionAssociationError SessionAssociationOutcome)
  | submitted (r : Except DeliveryOperationError SubmissionOutcome)
  | committed (r : Except CustodyCommitError DeliveryTransfer)
  | received (r : Except DeliveryOperationError ReceiveOutcome)
  | polled (r : Except DeliveryOperationError (Option ExposedMessage))
  | terminated (r : Except DeliveryOperationError FlowTermination)
  | ended (reports : List FlowTermination)

namespace DeliveryEndpoint

variable {L : DeliveryScopeLimits} {e : DeliveryEndpoint}

def exec (e : DeliveryEndpoint) : DeliveryOp → Checked (DeliveryReply × DeliveryEndpoint)
  | .establishFlow key mode policy connectionLimits => do
    let (r, e) ← e.establishFlow key mode policy connectionLimits
    return (.established r, e)
  | .associateFlowWithSession key session sessionLimits => do
    let (r, e) ← e.associateFlowWithSession key session sessionLimits
    return (.associated r, e)
  | .submit key payload => do
    let (r, e) ← e.submit key payload
    return (.submitted r, e)
  | .commitOutboundCustody key acceptedIndex => do
    let (r, e) ← e.commitOutboundCustody key acceptedIndex
    return (.committed r, e)
  | .receive key transfer => do
    let (r, e) ← e.receive key transfer
    return (.received r, e)
  | .receiveTransportPayload key acceptedIndex payload => do
    let (r, e) ← e.receiveTransportPayload key acceptedIndex payload
    return (.received r, e)
  | .pollExposure key => do
    let (r, e) ← e.pollExposure key
    return (.polled r, e)
  | .terminateFlow key reason => do
    let (r, e) ← e.terminateFlow key reason
    return (.terminated r, e)
  | .failReliableCustody key => do
    let (r, e) ← e.failReliableCustody key
    return (.terminated r, e)
  | .terminateConnection connection => do
    let (reports, e) ← e.terminateConnection connection
    return (.ended reports, e)

/-- An operation of which only the endpoint after it matters. -/
def step (e : DeliveryEndpoint) (op : DeliveryOp) : Checked DeliveryEndpoint := do
  let (_, e) ← e.exec op
  return e

/-- What each operation does to the flows, by its reply. -/
inductive Effect (L : DeliveryScopeLimits) (e e' : DeliveryEndpoint) :
    DeliveryOp → DeliveryReply → Prop where
  | establishFlow {key mode policy limits r} : Established e e' key mode policy r →
      Effect L e e' (.establishFlow key mode policy limits) (.established r)
  | associate {key session limits r} : Associated e e' key session r →
      Effect L e e' (.associateFlowWithSession key session limits) (.associated r)
  | submit {key payload r} : Rejected L e e' key r ∨ Accepted e e' key payload r →
      Effect L e e' (.submit key payload) (.submitted r)
  | commit {key index r} : CustodyCommitted e e' key index r →
      Effect L e e' (.commitOutboundCustody key index) (.committed r)
  | receive {key transfer r} : Received e e' key transfer r →
      Effect L e e' (.receive key transfer) (.received r)
  | receivePayload {key index payload mode r} :
      (∀ f, e.flows.get? key = some f → mode = f.mode) →
      Received e e' key ⟨mode, index, payload⟩ r →
      Effect L e e' (.receiveTransportPayload key index payload) (.received r)
  | poll {key r} : Polled e e' key r → Effect L e e' (.pollExposure key) (.polled r)
  | terminate {key reason r} : Terminated L e e' key reason r →
      Effect L e e' (.terminateFlow key reason) (.terminated r)
  | fail {key r} : Terminated L e e' key .reliableCustodyLost r →
      Effect L e e' (.failReliableCustody key) (.terminated r)
  | endConnection {connection reports} :
      KeysRemoved L e e' (e.flows.keys.filter fun key => key.connection = connection) reports →
      Effect L e e' (.terminateConnection connection) (.ended reports)

/-- Every operation returns, keeps the invariant and has its effect. -/
theorem exec_spec (hi : e.Inv L) (op : DeliveryOp) :
    ∃ reply e', e.exec op = .ok (reply, e') ∧ e'.Inv L ∧ Effect L e e' op reply := by
  cases op with
  | establishFlow key mode policy limits =>
    obtain ⟨r, e', h, hi', hx⟩ := establishFlow_spec hi key mode policy limits
    exact ⟨.established r, e', by rw [exec, h]; rfl, hi', .establishFlow hx⟩
  | associateFlowWithSession key session limits =>
    obtain ⟨r, e', h, hi', hx⟩ := associateFlowWithSession_spec hi key session limits
    exact ⟨.associated r, e', by rw [exec, h]; rfl, hi', .associate hx⟩
  | submit key payload =>
    obtain ⟨r, e', h, hi', hx⟩ := submit_spec hi key payload
    exact ⟨.submitted r, e', by rw [exec, h]; rfl, hi', .submit hx⟩
  | commitOutboundCustody key index =>
    obtain ⟨r, e', h, hi', hx⟩ := commitOutboundCustody_spec hi key index
    exact ⟨.committed r, e', by rw [exec, h]; rfl, hi', .commit hx⟩
  | receive key transfer =>
    obtain ⟨r, e', h, hi', hx⟩ := receive_spec hi key transfer
    exact ⟨.received r, e', by rw [exec, h]; rfl, hi', .receive hx⟩
  | receiveTransportPayload key index payload =>
    obtain ⟨r, e', h, hi', mode, hm, hx⟩ := receiveTransportPayload_spec hi key index payload
    exact ⟨.received r, e', by rw [exec, h]; rfl, hi', .receivePayload hm hx⟩
  | pollExposure key =>
    obtain ⟨r, e', h, hi', hx⟩ := pollExposure_spec hi key
    exact ⟨.polled r, e', by rw [exec, h]; rfl, hi', .poll hx⟩
  | terminateFlow key reason =>
    obtain ⟨r, e', h, hi', hx⟩ := terminateFlow_total hi key reason
    exact ⟨.terminated r, e', by rw [exec, h]; rfl, hi', .terminate hx⟩
  | failReliableCustody key =>
    obtain ⟨r, e', h, hi', hx⟩ := failReliableCustody_spec hi key
    exact ⟨.terminated r, e', by rw [exec, h]; rfl, hi', .fail hx⟩
  | terminateConnection connection =>
    obtain ⟨reports, e', h, hx⟩ := terminateConnection_spec hi connection
    exact ⟨.ended reports, e', by rw [exec, h]; rfl, hx.inv, .endConnection hx⟩

/-- The effect of an operation that returned. -/
theorem exec_effect (hi : e.Inv L) {op : DeliveryOp} {reply : DeliveryReply}
    {e' : DeliveryEndpoint} (h : e.exec op = .ok (reply, e')) :
    e'.Inv L ∧ Effect L e e' op reply := by
  obtain ⟨reply', e'', h', hi', hx⟩ := exec_spec hi op
  rw [h, Except.ok.injEq, Prod.mk.injEq] at h'
  obtain ⟨rfl, rfl⟩ := h'
  exact ⟨hi', hx⟩

/-- Every run returns and keeps the invariant. -/
theorem run_spec (hi : e.Inv L) (ops : List DeliveryOp) :
    ∃ e', ops.foldlM step e = .ok e' ∧ e'.Inv L := by
  induction ops generalizing e with
  | nil => exact ⟨e, rfl, hi⟩
  | cons op ops ih =>
    obtain ⟨reply, e1, h, hi1, -⟩ := exec_spec hi op
    obtain ⟨e2, h2, hi2⟩ := ih hi1
    have hstep : e.step op = .ok e1 := by rw [step, h]; rfl
    exact ⟨e2, by rw [List.foldlM_cons, hstep]; exact h2, hi2⟩

/-! ### What the books say -/

/-- The usage of the flows a predicate selects, added up. -/
def usageOf (flows : SortedMap DeliveryFlowKey FlowState)
    (uses : DeliveryFlowKey → FlowState → Bool) : ScopeUsage :=
  ((flows.entries.filter fun e => uses e.1 e.2).map fun e => e.2.usage).sum

theorem usageOf_eq_sum (flows : SortedMap DeliveryFlowKey FlowState)
    (uses : DeliveryFlowKey → FlowState → Bool) :
    usageOf flows uses = flows.sum fun key f => if uses key f then f.usage else 0 := by
  unfold usageOf SortedMap.sum
  induction flows.entries with
  | nil => rfl
  | cons x xs ih =>
    simp only [List.filter_cons, List.map_cons, List.sum_cons, ← ih]
    split
    · rw [List.map_cons, List.sum_cons]
    · rw [zero_add]

/-- The accounts of an endpoint created with the aggregate limits `L`. -/
structure Balanced (e : DeliveryEndpoint) (L : DeliveryScopeLimits) : Prop where
  flow : ∀ key f, e.flows.get? key = some f →
    f.pendingMessages = f.buffered.length ∧
    f.pendingPayloadBytes = (f.buffered.map DeliveryTransfer.payloadLen).sum
  flow_limits : ∀ key f, e.flows.get? key = some f →
    f.pendingMessages ≤ f.policy.maxPendingMessages.get ∧
    f.pendingPayloadBytes ≤ f.policy.maxPendingPayloadBytes.get
  aggregate : e.aggregate.usage = usageOf e.flows fun _ _ => true
  aggregate_limits : e.aggregate.limits = L ∧ e.aggregate.usage.Within L
  connection : ∀ c state, e.connections.get? c = some state →
    state.usage = (usageOf e.flows fun key _ => key.connection = c) ∧
    state.usage.Within state.limits
  session : ∀ s state, e.sessions.get? s = some state →
    state.usage = (usageOf e.flows fun _ f => f.session = some s) ∧
    state.usage.Within state.limits
  connection_entry : ∀ c, (∃ state, e.connections.get? c = some state) ↔
    ∃ key f, e.flows.get? key = some f ∧ key.connection = c
  session_entry : ∀ s, (∃ state, e.sessions.get? s = some state) ↔
    ∃ key f, e.flows.get? key = some f ∧ f.session = some s

theorem entry_iff {d : Domain} {scopeOf : ScopeOf d} {m : Scopes d}
    {flows : SortedMap DeliveryFlowKey FlowState} (h : Books scopeOf m flows) (s : Ident d) :
    (∃ state, m.get? s = some state) ↔
      ∃ key f, flows.get? key = some f ∧ scopeOf key f = some s := by
  constructor
  · rintro ⟨state, hs⟩
    have hentry := h s
    rw [hs] at hentry
    exact scopeTotal_pos_iff.mp hentry.2
  · rintro ⟨key, f, hf, hs⟩
    exact h.entry hf hs

theorem entry_holds {d : Domain} {scopeOf : ScopeOf d} {m : Scopes d}
    {flows : SortedMap DeliveryFlowKey FlowState} (h : Books scopeOf m flows) {s : Ident d}
    {state : ScopeState} (hs : m.get? s = some state) :
    state.usage = (usageOf flows fun key f => scopeOf key f = some s) ∧
      state.usage.Within state.limits := by
  have hentry := h s
  rw [hs] at hentry
  obtain ⟨⟨hu, hw⟩, -⟩ := hentry
  refine ⟨?_, hu ▸ hw⟩
  rw [hu, usageOf_eq_sum]
  exact SortedMap.sum_congr fun key f _ => by simp only [charge, decide_eq_true_eq]

theorem Inv.balanced (hi : e.Inv L) : e.Balanced L where
  flow := fun key f hf => ⟨(hi.flows key f hf).messages, (hi.flows key f hf).bytes⟩
  flow_limits := fun key f hf => ⟨(hi.flows key f hf).messages_le, (hi.flows key f hf).bytes_le⟩
  aggregate := by
    rw [usageOf_eq_sum]
    exact hi.accounted.aggregate.1
  aggregate_limits := ⟨hi.limits, by
    rw [hi.accounted.aggregate.1, ← hi.limits]
    exact hi.accounted.aggregate.2⟩
  connection := fun c state hs => by
    simpa only [connectionOf, Option.some.injEq] using entry_holds hi.accounted.connections hs
  session := fun s state hs => entry_holds hi.accounted.sessions hs
  connection_entry := fun c => by
    simpa only [connectionOf, Option.some.injEq] using entry_iff hi.accounted.connections c
  session_entry := fun s => entry_iff hi.accounted.sessions s

/-- Any sequence of operations with any arguments returns, without a panic, an endpoint whose
accounts are right. -/
theorem accounts_balanced (L : DeliveryScopeLimits) (ops : List DeliveryOp) :
    ∃ e, ops.foldlM step (new L) = .ok e ∧ e.Balanced L := by
  obtain ⟨e, h, hi⟩ := run_spec (new_inv L) ops
  exact ⟨e, h, hi.balanced⟩

end DeliveryEndpoint

end RunenNet
