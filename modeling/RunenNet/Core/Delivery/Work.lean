import RunenNet.Core.Delivery.ReliableFlow

/-!
# Work on an endpoint

What a layer above makes of an endpoint that it changes only through the operations of the
endpoint. An outbound queue that is empty stays empty until something is submitted to its flow.
-/

namespace RunenNet

open Foundation

/-- The flow that an operation submits to. -/
def DeliveryOp.submits : DeliveryOp → Option DeliveryFlowKey
  | .submit key _ => some key
  | _ => none

namespace DeliveryEndpoint

variable {L : DeliveryScopeLimits} {e e' e'' : DeliveryEndpoint} {key : DeliveryFlowKey}
  {f : FlowState} {op : DeliveryOp} {reply : DeliveryReply}

/-! ### Operations that submit nothing -/

/-- `e'` comes from `e` by operations that submit nothing. -/
def Quiet : DeliveryEndpoint → DeliveryEndpoint → Prop :=
  Relation.ReflTransGen fun e e' => ∃ op reply, op.submits = none ∧ e.exec op = .ok (reply, e')

namespace Quiet

theorem refl : Quiet e e := Relation.ReflTransGen.refl

theorem trans (h : Quiet e e') (h' : Quiet e' e'') : Quiet e e'' := Relation.ReflTransGen.trans h h'

theorem exec (hs : op.submits = none) (h : e.exec op = .ok (reply, e')) : Quiet e e' :=
  .single ⟨op, reply, hs, h⟩

theorem establishFlow {mode : DeliveryMode} {policy : FlowResourcePolicy}
    {limits : DeliveryScopeLimits} {r : Except FlowEstablishmentError Unit}
    (h : e.establishFlow key mode policy limits = .ok (r, e')) : Quiet e e' :=
  .exec rfl (by rw [DeliveryEndpoint.exec, h]; rfl : e.exec (.establishFlow key mode policy limits) =
    .ok (.established r, e'))

theorem terminateFlow {reason : FlowTerminationReason}
    {r : Except DeliveryOperationError FlowTermination}
    (h : e.terminateFlow key reason = .ok (r, e')) : Quiet e e' :=
  .exec rfl (by rw [DeliveryEndpoint.exec, h]; rfl : e.exec (.terminateFlow key reason) =
    .ok (.terminated r, e'))

theorem failReliableCustody {r : Except DeliveryOperationError FlowTermination}
    (h : e.failReliableCustody key = .ok (r, e')) : Quiet e e' :=
  .exec rfl (by rw [DeliveryEndpoint.exec, h]; rfl : e.exec (.failReliableCustody key) =
    .ok (.terminated r, e'))

theorem commitOutboundCustody {index : Nat} {r : Except CustodyCommitError DeliveryTransfer}
    (h : e.commitOutboundCustody key index = .ok (r, e')) : Quiet e e' :=
  .exec rfl (by rw [DeliveryEndpoint.exec, h]; rfl : e.exec (.commitOutboundCustody key index) =
    .ok (.committed r, e'))

theorem receiveTransportPayload {index : Nat} {payload : List UInt8}
    {r : Except DeliveryOperationError ReceiveOutcome}
    (h : e.receiveTransportPayload key index payload = .ok (r, e')) : Quiet e e' :=
  .exec rfl (by rw [DeliveryEndpoint.exec, h]; rfl :
    e.exec (.receiveTransportPayload key index payload) = .ok (.received r, e'))

end Quiet

/-! ### Empty queues -/

/-- No transfer of the flow waits to be sent. -/
def Drained (e : DeliveryEndpoint) (key : DeliveryFlowKey) : Prop :=
  ∀ f, e.flows.get? key = some f → f.outbound = []

theorem Drained.of_eq (h : e.Drained key) (he : e'.flows.get? key = e.flows.get? key) :
    e'.Drained key := fun f hf => h f (he ▸ hf)

theorem Drained.of_none (h : e.flows.get? key = none) : e.Drained key := fun f hf => by
  rw [h] at hf
  cases hf

theorem Drained.of_insert {f' : FlowState} (h : f'.outbound = [])
    (hfl : e'.flows = e.flows.insert key f') : e'.Drained key := fun f hf => by
  rw [hfl, SortedMap.get?_insert_self] at hf
  cases hf
  exact h

theorem Drained.of_erase (hfl : e'.flows = e.flows.erase key) : e'.Drained key :=
  .of_none (by rw [hfl, SortedMap.get?_erase_self])

theorem Received.drained {transfer : DeliveryTransfer} {r} (hdirection : key.direction = .outbound)
    (hx : Received e e' key transfer r) (h : e.Drained key) : e'.Drained key := by
  rcases hx with ⟨-, -, hfl⟩ | ⟨-, hin, -⟩ | ⟨-, hin, -⟩
  · exact h.of_eq (by rw [hfl])
  · rw [hdirection] at hin
    cases hin
  · rw [hdirection] at hin
    cases hin

theorem Polled.drained {r} (hdirection : key.direction = .outbound) (hx : Polled e e' key r)
    (h : e.Drained key) : e'.Drained key := by
  rcases hx with rfl | ⟨-, hin, -⟩ | ⟨-, hin, -⟩ | ⟨-, hin, -⟩
  · exact h
  all_goals
    rw [hdirection] at hin
    cases hin

theorem Terminated.drained {reason : FlowTerminationReason} {r}
    (hx : Terminated L e e' key reason r) (h : e.Drained key) : e'.Drained key := by
  rcases hx with ⟨-, rfl⟩ | ⟨_, -, -, hrem⟩
  · exact h
  · exact .of_erase hrem.flows

/-- Only a submission to the flow fills its queue. -/
theorem Effect.drained (hx : Effect L e e' op reply) (hdirection : key.direction = .outbound)
    (hs : op.submits ≠ some key) (h : e.Drained key) : e'.Drained key := by
  by_cases ht : op.Targets key
  swap
  · exact h.of_eq (hx.frame ht)
  cases hx with
  | establishFlow hx =>
    cases ht
    rcases hx with ⟨-, rfl⟩ | ⟨-, -, -, hfl⟩
    · exact h
    · exact .of_insert rfl hfl
  | associate hx =>
    cases ht
    rcases hx with rfl | ⟨f, hf, -, -, hfl⟩
    · exact h
    · intro g hg
      rw [hfl, SortedMap.get?_insert_self] at hg
      cases hg
      exact h f hf
  | submit hx =>
    cases ht
    exact absurd rfl hs
  | commit hx =>
    cases ht
    rcases hx with ⟨-, rfl⟩ | ⟨f, front, rest, hf, -, hq, -⟩
    · exact h
    · rw [h f hf] at hq
      cases hq
  | receive hx =>
    cases ht
    exact hx.drained hdirection h
  | receivePayload _ hx =>
    cases ht
    exact hx.drained hdirection h
  | poll hx =>
    cases ht
    exact hx.drained hdirection h
  | terminate hx =>
    cases ht
    exact hx.drained h
  | fail hx =>
    cases ht
    exact hx.drained h
  | @endConnection connection _ hx =>
    by_cases hmem : key ∈ e.flows.keys.filter fun k => k.connection = connection
    · exact .of_none (hx.gone key hmem)
    · exact h.of_eq (hx.kept key hmem)

theorem Quiet.inv (h : Quiet e e') (hi : e.Inv L) : e'.Inv L := by
  induction h with
  | refl => exact hi
  | tail _ hstep ih =>
    obtain ⟨op, reply, -, hexec⟩ := hstep
    exact (exec_effect ih hexec).1

theorem Quiet.drained (h : Quiet e e') (hi : e.Inv L) (hdirection : key.direction = .outbound)
    (hd : e.Drained key) : e'.Drained key := by
  induction h with
  | refl => exact hd
  | tail hprev hstep ih =>
    obtain ⟨op, reply, hs, hexec⟩ := hstep
    have hx := (exec_effect (Quiet.inv hprev hi) hexec).2
    refine hx.drained hdirection ?_ ih
    rw [hs]
    nofun

/-! ### Submissions that are refused -/

/-- The flow takes a payload of this length now: its contract allows it, an index is left and the
payload fits what is pending. -/
def Admits (e : DeliveryEndpoint) (key : DeliveryFlowKey) (length : Nat) : Prop :=
  ∃ f index, e.flows.get? key = some f ∧ length ≤ f.policy.maxMessageBytes.get ∧
    f.nextAcceptedIndex = some index ∧ e.canAddPending key 1 length = .ok (.ok true)

/-- A pressure that finds nothing to evict makes no room. -/
theorem outboundRoom_drained {bytes : Nat} {r : Except DeliveryOperationError (Bool × Nat)}
    (hf : e.flows.get? key = some f) (hdirection : key.direction = .outbound)
    (hq : f.outbound = []) (h : e.outboundRoom key f bytes = .ok (r, e')) :
    e' = e ∧ (r = .ok (true, 0) ∧ e.canAddPending key 1 bytes = .ok (.ok true) ∨
      (∀ drops, r ≠ .ok (true, drops)) ∧ e.canAddPending key 1 bytes ≠ .ok (.ok true)) := by
  simp only [outboundRoom, Checked.bind_eq_ok] at h
  obtain ⟨room, hroom, h⟩ := h
  rw [hroom]
  cases room with
  | error err =>
    cases h
    exact ⟨rfl, .inr ⟨by simp, by simp⟩⟩
  | ok fits =>
    cases fits with
    | true =>
      cases h
      exact ⟨rfl, .inl ⟨rfl, rfl⟩⟩
    | false =>
      simp only at h
      split at h
      · cases h
        exact ⟨rfl, .inr ⟨by simp, by simp⟩⟩
      · simp only [Checked.bind_eq_ok] at h
        obtain ⟨-, -, h⟩ := h
        simp only [evictUntilRoom, hroom, Checked.ok_bind, evictOldestOutboundUnreliable, hf,
          if_neg (not_not.mpr hdirection), hq, Checked.bind_eq_ok, Checked.pure_eq] at h
        obtain ⟨evicted, ⟨-, -, hevicted⟩, h⟩ := h
        cases hevicted
        cases h
        exact ⟨rfl, .inr ⟨by simp, by simp⟩⟩

/-- A flow without waiting transfers accepts exactly what it admits, and else stays as it is. -/
theorem submit_drained {payload : List UInt8} {r : Except DeliveryOperationError SubmissionOutcome}
    (hdirection : key.direction = .outbound) (hd : e.Drained key)
    (h : e.submit key payload = .ok (r, e')) :
    ((∃ index drops, r = .ok (.accepted index drops)) ∧ e.Admits key payload.length) ∨
      ((∀ index drops, r ≠ .ok (.accepted index drops)) ∧ ¬ e.Admits key payload.length ∧
        e' = e) := by
  unfold submit at h
  split at h
  · rename_i hnone
    cases h
    refine .inr ⟨by simp, ?_, rfl⟩
    rintro ⟨f, index, hf, -⟩
    rw [hnone] at hf
    cases hf
  · rename_i f hf
    rw [if_neg (not_not.mpr hdirection)] at h
    have hadmits : e.Admits key payload.length → payload.length ≤ f.policy.maxMessageBytes.get ∧
        (∃ index, f.nextAcceptedIndex = some index) ∧
        e.canAddPending key 1 payload.length = .ok (.ok true) := by
      rintro ⟨g, index, hg, hmax, hindex, hroom⟩
      rw [hf] at hg
      cases hg
      exact ⟨hmax, ⟨index, hindex⟩, hroom⟩
    split at h
    · rename_i hlarge
      cases h
      exact .inr ⟨by simp, fun ha => absurd (hadmits ha).1 (not_le.mpr hlarge), rfl⟩
    · rename_i hmax
      split at h
      · rename_i hnone
        cases h
        refine .inr ⟨by simp, fun ha => ?_, rfl⟩
        obtain ⟨index, hindex⟩ := (hadmits ha).2.1
        rw [hnone] at hindex
        cases hindex
      · rename_i index hindex
        simp only [Checked.bind_eq_ok] at h
        obtain ⟨⟨room, e₁⟩, hroom, h⟩ := h
        obtain ⟨rfl, ⟨rfl, hfits⟩ | ⟨hfull, hnot⟩⟩ := outboundRoom_drained hf hdirection (hd f hf) hroom
        · refine .inl ⟨?_, f, index, hf, not_lt.mp hmax, hindex, hfits⟩
          simp only [enqueueOutbound, hf, Checked.bind_eq_ok, Checked.pure_eq, Except.ok.injEq,
            Prod.mk.injEq] at h
          obtain ⟨_, -, rfl, -⟩ := h
          exact ⟨index, 0, rfl⟩
        · refine .inr ⟨?_, fun ha => hnot (hadmits ha).2.2, ?_⟩
          · cases room with
            | error err =>
              cases h
              simp
            | ok answer =>
              obtain ⟨fits, drops⟩ := answer
              cases fits with
              | true => exact absurd rfl (hfull drops)
              | false =>
                cases h
                simp
          · cases room with
            | error err =>
              cases h
              rfl
            | ok answer =>
              obtain ⟨fits, drops⟩ := answer
              cases fits with
              | true => exact absurd rfl (hfull drops)
              | false =>
                cases h
                rfl

/-- A layer above hands a payload to the flow at most once, and calls it accepted only where the
endpoint accepted it. -/
def Hands (e : DeliveryEndpoint) (key : DeliveryFlowKey) (payload : List UInt8) (accepted : Prop)
    (e' : DeliveryEndpoint) : Prop :=
  (¬ accepted ∧ e' = e) ∨ ∃ r, e.submit key payload = .ok (r, e') ∧
    (accepted → ∃ index drops, r = .ok (.accepted index drops))

namespace Hands

variable {payload : List UInt8} {accepted : Prop} {other : DeliveryFlowKey}

theorem imp {accepted' : Prop} (h : e.Hands key payload accepted e') (ha : accepted' → accepted) :
    e.Hands key payload accepted' e' := by
  rcases h with ⟨hrefused, rfl⟩ | ⟨r, hsubmit, haccepted⟩
  · exact .inl ⟨fun h => hrefused (ha h), rfl⟩
  · exact .inr ⟨r, hsubmit, fun h => haccepted (ha h)⟩

theorem exec {r : Except DeliveryOperationError SubmissionOutcome}
    (h : e.submit key payload = .ok (r, e')) :
    e.exec (.submit key payload) = .ok (.submitted r, e') := by
  rw [DeliveryEndpoint.exec, h]
  rfl

theorem inv (h : e.Hands key payload accepted e') (hi : e.Inv L) : e'.Inv L := by
  rcases h with ⟨-, rfl⟩ | ⟨r, hsubmit, -⟩
  · exact hi
  · exact (exec_effect hi (exec hsubmit)).1

/-- An empty queue whose flow does not admit the payload refuses it, and stays empty. -/
theorem refused (h : e.Hands key payload accepted e') (hdirection : key.direction = .outbound)
    (hd : e.Drained key) (ha : ¬ e.Admits key payload.length) : ¬ accepted ∧ e' = e := by
  rcases h with hrefused | ⟨r, hsubmit, haccepted⟩
  · exact hrefused
  · rcases submit_drained hdirection hd hsubmit with ⟨-, hadmits⟩ | ⟨hnot, -, he⟩
    · exact absurd hadmits ha
    · refine ⟨fun h => ?_, he⟩
      obtain ⟨index, drops, hr⟩ := haccepted h
      exact hnot index drops hr

/-- An empty queue stays empty where the payload goes to another flow or is not admitted. -/
theorem drained (h : e.Hands key payload accepted e') (hi : e.Inv L)
    (hdirection : other.direction = .outbound) (hd : e.Drained other)
    (ha : key = other → ¬ e.Admits key payload.length) : e'.Drained other := by
  by_cases hkey : key = other
  · subst hkey
    rw [(h.refused hdirection hd (ha rfl)).2]
    exact hd
  · rcases h with ⟨-, rfl⟩ | ⟨r, hsubmit, -⟩
    · exact hd
    · refine (exec_effect hi (exec hsubmit)).2.drained hdirection ?_ hd
      simpa [DeliveryOp.submits] using hkey

end Hands

end DeliveryEndpoint

end RunenNet
