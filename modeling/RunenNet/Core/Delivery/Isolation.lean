import RunenNet.Core.Delivery.ReliableFlow

/-!
# Flows do not disturb each other

Flows share the budgets of their connection, their session and the endpoint. What this pressure
costs is paid by the flow an operation works on: every other flow stays as it is, an unreliable
flow loses its oldest transfers first, and a reliable one loses nothing while it lives.
-/

namespace RunenNet

open Foundation

/-- The operation brings a transfer to the flow at `key`. -/
def DeliveryOp.Brings (key : DeliveryFlowKey) : DeliveryOp → Prop
  | .submit k _ | .receive k _ | .receiveTransportPayload k _ _ => k = key
  | _ => False

/-- The transfer an operation left in the buffer of its flow, a flow of mode `mode`. -/
def takenOn (mode : DeliveryMode) : DeliveryOp → DeliveryReply → List DeliveryTransfer
  | .submit _ payload, .submitted (.ok (.accepted index _)) => [⟨mode, index, payload⟩]
  | .receive _ transfer, .received (.ok (.buffered _)) => [transfer]
  | .receiveTransportPayload _ index payload, .received (.ok (.buffered _)) =>
    [⟨mode, index, payload⟩]
  | _, _ => []

/-- Pressure turned `f` into `f'` and `taken` is buffered: an unreliable flow lost a prefix of
its queue, a reliable one nothing. -/
structure Pressed (f f' : FlowState) (taken : List DeliveryTransfer) : Prop where
  mode : f'.mode = f.mode
  policy : f'.policy = f.policy
  unreliable : f.mode ≠ .reliableOrdered →
    ∃ evicted rest, f.buffered = evicted ++ rest ∧ f'.buffered = rest ++ taken
  reliable : f.mode = .reliableOrdered → f'.buffered.Perm (f.buffered ++ taken)

theorem Pressed.refl (f : FlowState) : Pressed f f [] where
  mode := rfl
  policy := rfl
  unreliable := fun _ => ⟨[], f.buffered, rfl, (List.append_nil _).symm⟩
  reliable := fun _ => by rw [List.append_nil]

namespace DeliveryEndpoint

variable {L : DeliveryScopeLimits} {e e' : DeliveryEndpoint} {key : DeliveryFlowKey}
  {f f' : FlowState} {op : DeliveryOp} {reply : DeliveryReply} {n : Nat}

/-! ### Pressure on one flow -/

/-- Only one of the two queues of a flow is in use, so what is dropped is a prefix of all that
is buffered. -/
theorem Dropped.oldest (hok : f.Ok key) (h : Dropped f f' n) :
    ∃ evicted, f.buffered = evicted ++ f'.buffered := by
  obtain ⟨l, hl⟩ := h.outbound
  cases hd : key.direction with
  | outbound =>
    have hempty := hok.shape.no_inbound hd
    refine ⟨l, ?_⟩
    rcases h.receiver with hsame | ⟨l', queue, last, hf, hf'⟩
    · rw [FlowState.buffered, FlowState.buffered, hl, hsame, List.append_assoc]
    · rw [hf] at hempty
      obtain ⟨rfl, rfl⟩ := List.append_eq_nil_iff.mp hempty
      rw [FlowState.buffered, FlowState.buffered, hl, hf, hf', List.append_assoc]
      rfl
  | inbound =>
    have hempty := hok.shape.no_outbound hd
    rw [hl] at hempty
    obtain ⟨rfl, hrest⟩ := List.append_eq_nil_iff.mp hempty
    rw [FlowState.buffered, FlowState.buffered, hl, hrest]
    rcases h.receiver with hsame | ⟨l', queue, last, hf, hf'⟩
    · exact ⟨[], by rw [hsame]; rfl⟩
    · exact ⟨l', by rw [hf, hf']; rfl⟩

theorem Dropped.pressed (hok : f.Ok key) (hm : f.mode ≠ .reliableOrdered) (h : Dropped f f' n) :
    Pressed f f' [] where
  mode := h.mode
  policy := h.policy
  unreliable := fun _ => by
    obtain ⟨evicted, hb⟩ := h.oldest hok
    exact ⟨evicted, f'.buffered, hb, (List.append_nil _).symm⟩
  reliable := fun hr => absurd hr hm

/-- What `Dropped` leaves takes one more transfer at its end. -/
theorem Dropped.pressed_taken (hok : f.Ok key) (h : Dropped f f' n) {g : FlowState}
    {transfer : DeliveryTransfer} (hmode : g.mode = f'.mode) (hpolicy : g.policy = f'.policy)
    (hb : g.buffered = f'.buffered ++ [transfer]) (hsame : f.mode = .reliableOrdered → f' = f) :
    Pressed f g [transfer] where
  mode := hmode.trans h.mode
  policy := hpolicy.trans h.policy
  unreliable := fun _ => by
    obtain ⟨evicted, hf⟩ := h.oldest hok
    exact ⟨evicted, f'.buffered, hf, hb⟩
  reliable := fun hm => by rw [hb, hsame hm]

theorem submit_pressed (hi : e.Inv L) (hf : e.flows.get? key = some f) {payload : List UInt8}
    {r : Except DeliveryOperationError SubmissionOutcome}
    (hx : Rejected L e e' key r ∨ Accepted e e' key payload r) :
    ∃ f', e'.flows.get? key = some f' ∧
      Pressed f f' (takenOn f.mode (.submit key payload) (.submitted r)) := by
  have hok := hi.flows key f hf
  rcases hx with ⟨hnot, hkept⟩ | ⟨g, f', n, index, hg, hd, -, -, hdrop, hsame, rfl, hfl⟩
  · have hnone : takenOn f.mode (.submit key payload) (.submitted r) = [] := by
      unfold takenOn
      split
      · rename_i heq
        injection heq with heq
        exact absurd heq (hnot _ _)
      · rename_i heq
        cases heq
      · rename_i heq
        cases heq
      · rfl
    rw [hnone]
    rcases hkept with rfl | ⟨g, f', n, hg, hm, hu, hdrop⟩
    · exact ⟨f, hf, .refl f⟩
    · rw [hf] at hg
      cases hg
      exact ⟨f', hu.get?, hdrop.pressed hok hm⟩
  · rw [hf] at hg
    cases hg
    have hempty : f'.receiver.transfers = [] := by
      have hnil := hok.shape.no_inbound hd
      rcases hdrop.receiver with heq | ⟨l, queue, last, h₁, h₂⟩
      · rw [heq, hnil]
      · rw [h₁] at hnil
        rw [h₂]
        exact (List.append_eq_nil_iff.mp hnil).2
    have hget : e'.flows.get? key = some (FlowState.enqueue f' index payload) := by
      rw [hfl, SortedMap.get?_insert_self]
    refine ⟨_, hget, hdrop.pressed_taken hok rfl rfl ?_ hsame⟩
    show (f'.outbound ++ [⟨f'.mode, index, payload⟩]) ++ f'.receiver.transfers = _
    rw [FlowState.buffered, hempty, List.append_nil, List.append_nil, hdrop.mode]

theorem received_pressed (hi : e.Inv L) (hf : e.flows.get? key = some f)
    {transfer : DeliveryTransfer} {r : Except DeliveryOperationError ReceiveOutcome}
    (hx : Received e e' key transfer r) {taken : List DeliveryTransfer}
    (htaken : ∀ n, r = .ok (.buffered n) → taken = [transfer])
    (hnone : (∀ n, r ≠ .ok (.buffered n)) → taken = []) :
    (∃ f', e'.flows.get? key = some f' ∧ Pressed f f' taken) ∨
      (f.mode = .reliableOrdered ∧ e'.flows.get? key = none) := by
  have hok := hi.flows key f hf
  have hkeep : e'.flows = e.flows → (∀ n, r ≠ .ok (.buffered n)) →
      ∃ f', e'.flows.get? key = some f' ∧ Pressed f f' taken := fun hfl hnot => by
    rw [hfl, hnone hnot]
    exact ⟨f, hf, .refl f⟩
  cases hx with
  | refused hnot _ hfl => exact .inl (hkeep hfl hnot)
  | reliable hg hd hm hrec _ =>
    rw [hf] at hg
    cases hg
    cases hrec with
    | duplicate _ _ hfl => exact .inl (hkeep hfl (by simp))
    | failed _ _ hfl => exact .inr ⟨hm, by rw [hfl, SortedMap.get?_erase_self]⟩
    | @buffered byIndex next hr hdup _ hfl =>
      have hget : e'.flows.get? key = some (FlowState.bufferReliable f byIndex next transfer) := by
        rw [hfl, SortedMap.get?_insert_self]
      refine .inl ⟨_, hget, rfl, rfl, fun hne => absurd hm hne, fun _ => ?_⟩
      rw [htaken 0 rfl]
      have hins := (byIndex.insert_perm transfer.acceptedIndex transfer).map Prod.snd
      rw [SortedMap.erase_of_get?_none (duplicateOrConflict_none hdup).1] at hins
      show (f.outbound ++ (byIndex.insert transfer.acceptedIndex transfer).values).Perm _
      rw [FlowState.buffered, hr, hok.shape.no_outbound hd]
      exact hins.trans (List.perm_append_singleton _ _).symm
  | unreliable hg hd hm _ _ hrec =>
    rw [hf] at hg
    cases hg
    cases hrec with
    | stale _ _ _ hfl => exact .inl (hkeep hfl (by simp))
    | @dropped f' n hdrop hfl =>
      have hget : e'.flows.get? key = some f' := by rw [hfl, SortedMap.get?_insert_self]
      refine .inl ⟨f', hget, ?_⟩
      rw [hnone (by simp)]
      exact hdrop.pressed hok hm
    | @buffered f' n queue last hdrop hr _ hfl =>
      have hget : e'.flows.get? key =
          some (FlowState.recount { f' with receiver := .unreliable (queue ++ [transfer]) last }) := by
        rw [hfl, SortedMap.get?_insert_self]
      refine .inl ⟨_, hget, ?_⟩
      rw [htaken _ rfl]
      refine hdrop.pressed_taken hok rfl rfl ?_ fun h => absurd h hm
      rw [FlowState.buffered, FlowState.buffered, hr, ReceiverBuffer.transfers, List.append_assoc]
      rfl

/-! ### A reliable flow that lives on -/

/-- All that a reliable flow buffered is buffered still or was handed on. -/
theorem ReliableEffect.keeps {after : Option FlowState}
    (hx : ReliableEffect e e' key f op reply after) :
    after = none ∨ ∃ f' left, after = some f' ∧ f.buffered.Subperm (left ++ f'.buffered) ∧
      left.map DeliveryEndpoint.exposed =
        (committedOn key op reply).map DeliveryEndpoint.exposed ++ exposedOn key op reply := by
  cases hx with
  | kept hs =>
    exact .inr ⟨_, [], rfl, List.Subperm.refl _, by rw [hs.committed, hs.exposed]; rfl⟩
  | @accepted index payload _ _ hc hexp =>
    refine .inr ⟨_, [], rfl, List.Sublist.subperm ?_, by rw [hc, hexp]; rfl⟩
    show (f.outbound ++ _).Sublist ((f.outbound ++ [⟨f.mode, index, payload⟩]) ++ _)
    exact (List.sublist_append_left _ _).append_right _
  | @committed front rest hout _ hc hexp =>
    refine .inr ⟨_, [front], rfl, List.Sublist.subperm ?_, by rw [hc, hexp]; rfl⟩
    show (f.outbound ++ _).Sublist ((front :: rest) ++ _)
    rw [hout]
    exact List.Sublist.refl _
  | @buffered byIndex next transfer hr _ hdup hs =>
    refine .inr ⟨_, [], rfl, ?_, by rw [hs.committed, hs.exposed]; rfl⟩
    have hins := (byIndex.insert_perm transfer.acceptedIndex transfer).map Prod.snd
    rw [SortedMap.erase_of_get?_none (duplicateOrConflict_none hdup).1] at hins
    show (f.outbound ++ f.receiver.transfers).Subperm
      (f.outbound ++ (byIndex.insert transfer.acceptedIndex transfer).values)
    rw [hr, List.subperm_append_left]
    exact (List.sublist_cons_self _ _).subperm.trans hins.symm.subperm
  | @exposed byIndex expected transfer hr hget _ hc hexp =>
    refine .inr ⟨_, [transfer], rfl, List.Perm.subperm ?_, by rw [hc, hexp]; rfl⟩
    have hperm := (SortedMap.perm_of_get? hget).map Prod.snd
    show (f.outbound ++ f.receiver.transfers).Perm
      ([transfer] ++ (f.outbound ++ (byIndex.erase expected).values))
    rw [hr]
    exact (hperm.append_left f.outbound).trans List.perm_middle
  | ended => exact .inl rfl

/-! ### Every operation -/

/-- What an operation leaves alone, whatever it returned. -/
structure Isolated (e e' : DeliveryEndpoint) (op : DeliveryOp) (reply : DeliveryReply) : Prop where
  others : ∀ key, ¬ op.Targets key → e'.flows.get? key = e.flows.get? key
  oldest : ∀ key f, op.Brings key → e.flows.get? key = some f →
    (∃ f', e'.flows.get? key = some f' ∧ Pressed f f' (takenOn f.mode op reply)) ∨
      (f.mode = .reliableOrdered ∧ e'.flows.get? key = none)
  reliable : ∀ key f, e.flows.get? key = some f → f.mode = .reliableOrdered →
    e'.flows.get? key = none ∨ ∃ f' left, e'.flows.get? key = some f' ∧
      f.buffered.Subperm (left ++ f'.buffered) ∧
      left.map exposed = (committedOn key op reply).map exposed ++ exposedOn key op reply

theorem Effect.isolated (hi : e.Inv L) (hx : Effect L e e' op reply) :
    Isolated e e' op reply where
  others := fun _ h => hx.frame h
  reliable := fun _ _ hf hm => (hx.reliableEffect hf hm).keeps
  oldest := fun key f hb hf => by
    cases hx with
    | submit hx =>
      cases hb
      exact .inl (submit_pressed hi hf hx)
    | @receive _ transfer r hx =>
      cases hb
      refine received_pressed hi hf hx (fun n hr => ?_) fun hnot => ?_
      · rw [hr]
        rfl
      · unfold takenOn
        split
        · rename_i heq _
          cases heq
        · rename_i heq
          injection heq with heq
          exact absurd heq (hnot _)
        · rename_i heq _
          cases heq
        · rfl
    | @receivePayload _ index payload mode r hmode hx =>
      cases hb
      refine received_pressed hi hf hx (fun n hr => ?_) fun hnot => ?_
      · rw [hr, hmode f hf]
        rfl
      · unfold takenOn
        split
        · rename_i heq _
          cases heq
        · rename_i heq _
          cases heq
        · rename_i heq
          injection heq with heq
          exact absurd heq (hnot _)
        · rfl
    | _ => exact hb.elim

/-! ### One eviction -/

/-- An eviction from `key` takes the oldest transfer there, if any, and nothing else. -/
structure EvictsOldest (e e' : DeliveryEndpoint) (key : DeliveryFlowKey)
    (r : Except DeliveryOperationError (Option DeliveryTransfer)) : Prop where
  others : ∀ k, k ≠ key → e'.flows.get? k = e.flows.get? k
  oldest : ∀ f, e.flows.get? key = some f → ∃ f', e'.flows.get? key = some f' ∧
    f'.mode = f.mode ∧ f'.policy = f.policy ∧
    f.buffered = r.toOption.join.toList ++ f'.buffered

theorem EvictsOldest.refl {r : Except DeliveryOperationError (Option DeliveryTransfer)}
    (hr : r.toOption.join = none) : EvictsOldest e e key r where
  others := fun _ _ => rfl
  oldest := fun f hf => ⟨f, hf, rfl, rfl, by rw [hr]; rfl⟩

theorem Updated.evicts (hf : e.flows.get? key = some f) (hu : Updated L e e' key f')
    {t : DeliveryTransfer} (hmode : f'.mode = f.mode) (hpolicy : f'.policy = f.policy)
    (hb : f.buffered = t :: f'.buffered) : EvictsOldest e e' key (.ok (some t)) where
  others := fun k hk => by rw [hu.flows, SortedMap.get?_insert_ne _ _ hk]
  oldest := fun g hg => by
    rw [hf] at hg
    cases hg
    exact ⟨f', hu.get?, hmode, hpolicy, hb⟩

/-- There is no reliable flow at `key`, as both evictions assert. -/
def NotReliable (e : DeliveryEndpoint) (key : DeliveryFlowKey) : Prop :=
  ∀ f, e.flows.get? key = some f → f.mode ≠ .reliableOrdered

theorem evictOldestOutboundUnreliable_oldest (hi : e.Inv L) (hm : e.NotReliable key) :
    ∃ r e', evictOldestOutboundUnreliable key e = .ok (r, e') ∧ EvictsOldest e e' key r := by
  unfold evictOldestOutboundUnreliable
  split
  · exact ⟨_, e, rfl, .refl rfl⟩
  · rename_i f hf
    split
    · exact ⟨_, e, rfl, .refl rfl⟩
    · rename_i hd
      have hd' : key.direction = .outbound := by simpa using hd
      simp only [ne_eq, hm f hf, not_false_eq_true, decide_true, Checked.assert_true,
        Checked.ok_bind]
      split
      · exact ⟨_, e, rfl, .refl rfl⟩
      · rename_i t rest ho
        obtain ⟨e', he, hu⟩ := hi.popOutbound hf hd' ho
        simp only [he, Checked.ok_bind, Checked.pure_eq]
        refine ⟨_, e', rfl, hu.evicts hf rfl rfl ?_⟩
        rw [FlowState.buffered, ho]
        rfl

theorem evictOldestInboundUnreliable_oldest (hi : e.Inv L) (hm : e.NotReliable key) :
    ∃ r e', evictOldestInboundUnreliable key e = .ok (r, e') ∧ EvictsOldest e e' key r := by
  unfold evictOldestInboundUnreliable
  split
  · exact ⟨_, e, rfl, .refl rfl⟩
  · rename_i f hf
    split
    · exact ⟨_, e, rfl, .refl rfl⟩
    · rename_i hd
      have hok := hi.flows key f hf
      have hd' : key.direction = .inbound := by simpa using hd
      obtain ⟨queue, last, hr⟩ := hok.unreliable (hm f hf)
      simp only [ne_eq, hm f hf, not_false_eq_true, decide_true, Checked.assert_true,
        Checked.ok_bind, hr]
      cases queue with
      | nil => exact ⟨_, e, rfl, .refl rfl⟩
      | cons t rest =>
        obtain ⟨e', he, hu⟩ := hi.popQueue hf hd' hr
        simp only [he, Checked.ok_bind, Checked.pure_eq]
        refine ⟨_, e', rfl, hu.evicts hf rfl rfl ?_⟩
        simp only [FlowState.buffered, FlowState.recount, hok.shape.no_outbound hd', hr]
        rfl

/-! ### Reachable endpoints -/

/-- On every reachable endpoint every operation returns and disturbs no flow but its own, and so
does a single eviction. -/
theorem flows_isolated (L : DeliveryScopeLimits) (ops : List DeliveryOp) :
    ∃ e, ops.foldlM step (new L) = .ok e ∧
      (∀ op, ∃ reply e', e.exec op = .ok (reply, e') ∧ Isolated e e' op reply) ∧
      ∀ key, e.NotReliable key →
        (∃ r e', evictOldestOutboundUnreliable key e = .ok (r, e') ∧ EvictsOldest e e' key r) ∧
        ∃ r e', evictOldestInboundUnreliable key e = .ok (r, e') ∧ EvictsOldest e e' key r := by
  obtain ⟨e, h, hi⟩ := run_spec (new_inv L) ops
  refine ⟨e, h, fun op => ?_, fun key hm => ?_⟩
  · obtain ⟨reply, e', hx, -, heffect⟩ := exec_spec hi op
    exact ⟨reply, e', hx, heffect.isolated hi⟩
  · exact ⟨evictOldestOutboundUnreliable_oldest hi hm, evictOldestInboundUnreliable_oldest hi hm⟩

end DeliveryEndpoint

end RunenNet
