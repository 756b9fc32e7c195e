import RunenNet.Core.Delivery.SequencedFlow

/-!
# What waits on an unreliable flow

A message waits from its arrival until it is exposed, skipped or evicted. What a flow exposes and
what still waits behind it is a part of what arrived, in the order of arrival.
-/

namespace RunenNet

open Foundation

/-- The message an operation brings to the flow at `key`. -/
def arrivedOn (key : DeliveryFlowKey) : DeliveryOp → List ExposedMessage
  | .receive k transfer => if k = key then [DeliveryEndpoint.exposed transfer] else []
  | .receiveTransportPayload k index payload => if k = key then [⟨index, payload⟩] else []
  | _ => []

namespace DeliveryEndpoint

/-- The messages of the flow at `key` that arrived and wait to be exposed, oldest first. -/
def unexposed (e : DeliveryEndpoint) (key : DeliveryFlowKey) : List ExposedMessage :=
  (e.flows.get? key).elim [] fun f => f.receiver.transfers.map exposed

variable {L : DeliveryScopeLimits} {e e' : DeliveryEndpoint} {key : DeliveryFlowKey}
  {f f' : FlowState} {op : DeliveryOp} {reply : DeliveryReply}

theorem unexposed_of_get? (hf : e.flows.get? key = some f) :
    e.unexposed key = f.receiver.transfers.map exposed := by
  rw [unexposed, hf]
  rfl

theorem unexposed_of_none (hf : e.flows.get? key = none) : e.unexposed key = [] := by
  rw [unexposed, hf]
  rfl

theorem unexposed_of_new {mode : DeliveryMode} {policy : FlowResourcePolicy}
    (hf : e.flows.get? key = some (.new mode policy)) : e.unexposed key = [] := by
  rw [unexposed_of_get? hf]
  cases mode <;> rfl

theorem unexposed_of_insert (h : e'.flows = e.flows.insert key f') :
    e'.unexposed key = f'.receiver.transfers.map exposed :=
  unexposed_of_get? (by rw [h, SortedMap.get?_insert_self])

/-- An operation adds to the messages that wait only the one it brings, behind them, and what it
exposes waited in front of what still waits. -/
def Passes (key : DeliveryFlowKey) (e e' : DeliveryEndpoint) (op : DeliveryOp)
    (reply : DeliveryReply) : Prop :=
  (exposedOn key op reply ++ e'.unexposed key).Sublist (e.unexposed key ++ arrivedOn key op)

theorem Passes.shrunk (hs : exposedOn key op reply = [])
    (h : (e'.unexposed key).Sublist (e.unexposed key)) : Passes key e e' op reply := by
  rw [Passes, hs]
  exact h.trans (List.sublist_append_left _ _)

theorem Passes.same (hs : exposedOn key op reply = [])
    (h : e'.flows.get? key = e.flows.get? key) : Passes key e e' op reply :=
  .shrunk hs (by rw [unexposed, unexposed, h])

theorem Passes.gone (hs : exposedOn key op reply = []) (h : e'.flows.get? key = none) :
    Passes key e e' op reply :=
  .shrunk hs (by rw [unexposed_of_none h]; exact List.nil_sublist _)

theorem Passes.inserted (hs : exposedOn key op reply = []) (hf : e.flows.get? key = some f)
    (h : e'.flows = e.flows.insert key f')
    (hsub : f'.receiver.transfers.Sublist f.receiver.transfers) : Passes key e e' op reply := by
  refine .shrunk hs ?_
  rw [unexposed_of_get? hf, unexposed_of_insert h]
  exact hsub.map _

/-- Only messages in front are evicted. -/
theorem Dropped.transfers {n : Nat} (h : Dropped f f' n) :
    f'.receiver.transfers.Sublist f.receiver.transfers := by
  rcases h.receiver with hr | ⟨l, queue, last, hr, hr'⟩
  · rw [hr]
  · rw [hr, hr']
    exact List.sublist_append_right l queue

theorem Received.passes (hm : ∀ f, e.flows.get? key = some f → f.mode ≠ .reliableOrdered)
    {transfer : DeliveryTransfer} {r : Except DeliveryOperationError ReceiveOutcome}
    (hx : Received e e' key transfer r) (hs : exposedOn key op reply = [])
    (harrived : arrivedOn key op = [exposed transfer]) : Passes key e e' op reply := by
  cases hx with
  | refused _ _ hfl => exact .same hs (by rw [hfl])
  | reliable hg _ hrel _ _ => exact absurd hrel (hm _ hg)
  | unreliable hg _ _ _ _ hrec =>
    cases hrec with
    | stale _ _ _ hfl => exact .same hs (by rw [hfl])
    | dropped hdrop hfl => exact .inserted hs hg hfl hdrop.transfers
    | buffered hdrop hr _ hfl =>
      have hsub := hdrop.transfers
      rw [hr] at hsub
      rw [Passes, hs, harrived, unexposed_of_get? hg, unexposed_of_insert hfl]
      show (List.map exposed (_ ++ [transfer])).Sublist _
      rw [List.map_append]
      exact (hsub.map _).append_right _

theorem PolledUnreliable.passes {stale : DeliveryTransfer → Bool}
    {mark : DeliveryTransfer → Option Nat → Option Nat} (hf : e.flows.get? key = some f)
    {r : Except DeliveryOperationError (Option ExposedMessage)}
    (hx : PolledUnreliable e e' key f stale mark r) :
    Passes key e e' (.pollExposure key) (.polled r) := by
  cases hx with
  | drained hr _ hfl => exact .inserted rfl hf hfl (List.nil_sublist _)
  | @exposed skipped t rest last hr _ _ hfl =>
    have hexposed : exposedOn key (.pollExposure key)
        (.polled (.ok (some (DeliveryEndpoint.exposed t)))) = [DeliveryEndpoint.exposed t] :=
      if_pos rfl
    rw [Passes, hexposed, unexposed_of_get? hf, unexposed_of_insert hfl, hr]
    show (List.map DeliveryEndpoint.exposed (t :: rest)).Sublist
      (List.map DeliveryEndpoint.exposed (skipped ++ t :: rest) ++ [])
    rw [List.append_nil, List.map_append]
    exact List.sublist_append_right _ _

theorem Terminated.passes {reason : FlowTerminationReason}
    {r : Except DeliveryOperationError FlowTermination} (hx : Terminated L e e' key reason r)
    (hs : exposedOn key op reply = []) : Passes key e e' op reply := by
  rcases hx with ⟨-, rfl⟩ | ⟨g, -, -, hrem⟩
  · exact .same hs rfl
  · exact .gone hs (by rw [hrem.flows, SortedMap.get?_erase_self])

/-- Every operation passes the messages of an unreliable flow on in the order of arrival. -/
theorem Effect.passes (hx : Effect L e e' op reply)
    (hm : ∀ f, e.flows.get? key = some f → f.mode ≠ .reliableOrdered) :
    Passes key e e' op reply := by
  by_cases ht : op.Targets key
  swap
  · exact .same (silent_of_not_targets ht).exposed (hx.frame ht)
  cases hf : e.flows.get? key with
  | none =>
    obtain ⟨hs, hnone | ⟨mode, policy, limits, -, -, hnew⟩⟩ := hx.absent hf
    · exact .gone hs.exposed hnone
    · refine .shrunk hs.exposed ?_
      rw [unexposed_of_new hnew]
      exact List.nil_sublist _
  | some f =>
    cases hx with
    | establishFlow hx =>
      cases ht
      rcases hx with ⟨-, rfl⟩ | ⟨-, -, hnone, -⟩
      · exact .same rfl rfl
      · rw [hf] at hnone
        cases hnone
    | associate hx =>
      cases ht
      rcases hx with rfl | ⟨g, hg, -, -, hfl⟩
      · exact .same rfl rfl
      · exact .inserted rfl hg hfl (List.Sublist.refl _)
    | submit hx =>
      cases ht
      rcases hx with ⟨-, rfl | ⟨g, g', n, hg, -, hu, hdrop⟩⟩ |
        ⟨g, g', n, index, hg, -, -, -, hdrop, -, rfl, hfl⟩
      · exact .same rfl rfl
      · exact .inserted rfl hg hu.flows hdrop.transfers
      · exact .inserted rfl hg hfl hdrop.transfers
    | commit hx =>
      cases ht
      rcases hx with ⟨-, rfl⟩ | ⟨g, front, rest, hg, -, -, -, rfl, hfl⟩
      · exact .same rfl rfl
      · exact .inserted rfl hg hfl (List.Sublist.refl _)
    | receive hx =>
      cases ht
      exact hx.passes hm rfl (if_pos rfl)
    | receivePayload _ hx =>
      cases ht
      exact hx.passes hm rfl (if_pos rfl)
    | poll hx =>
      cases ht
      rcases hx with rfl | ⟨hg, -, hrel, -⟩ | ⟨hg, -, -, hp⟩ | ⟨hg, -, -, -, hp⟩
      · exact .same rfl rfl
      · exact absurd hrel (hm _ hg)
      · exact hp.passes hg
      · exact hp.passes hg
    | terminate hx =>
      cases ht
      exact hx.passes rfl
    | fail hx =>
      cases ht
      exact hx.passes rfl
    | @endConnection connection reports hx =>
      have ht : key.connection = connection := ht
      have hmem : key ∈ e.flows.keys.filter fun k => k.connection = connection :=
        List.mem_filter.mpr ⟨SortedMap.mem_keys.mpr ⟨f, hf⟩, by simpa using ht⟩
      exact .gone rfl (hx.gone key hmem)

end DeliveryEndpoint

end RunenNet
