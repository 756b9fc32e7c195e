import RunenNet.Core.Delivery.Safety

/-!
# One reliable flow of an endpoint

What any operation of an endpoint does to one reliable flow, with the transfers it accepts, hands
to the transport and exposes. `SenderSide` and `ReceiverSide` are what these logs satisfy
throughout the lifetime of the flow.
-/

namespace RunenNet

open Foundation

/-- The flow an operation is about is the one at `key`. -/
def DeliveryOp.Targets (key : DeliveryFlowKey) : DeliveryOp → Prop
  | .establishFlow k _ _ _ | .associateFlowWithSession k _ _ | .submit k _
  | .commitOutboundCustody k _ | .receive k _ | .receiveTransportPayload k _ _ | .pollExposure k
  | .terminateFlow k _ | .failReliableCustody k => k = key
  | .terminateConnection connection => key.connection = connection

/-- The message an operation accepted on the flow at `key`. -/
def acceptedOn (key : DeliveryFlowKey) : DeliveryOp → DeliveryReply → List ExposedMessage
  | .submit k payload, .submitted (.ok (.accepted index _)) =>
    if k = key then [⟨index, payload⟩] else []
  | _, _ => []

/-- The transfer of the flow at `key` an operation handed to the transport. -/
def committedOn (key : DeliveryFlowKey) : DeliveryOp → DeliveryReply → List DeliveryTransfer
  | .commitOutboundCustody k _, .committed (.ok transfer) => if k = key then [transfer] else []
  | _, _ => []

/-- The message of the flow at `key` an operation exposed. -/
def exposedOn (key : DeliveryFlowKey) : DeliveryOp → DeliveryReply → List ExposedMessage
  | .pollExposure k, .polled (.ok (some message)) => if k = key then [message] else []
  | _, _ => []

/-- An operation that neither accepts, hands over nor exposes a message of the flow at `key`. -/
structure Silent (key : DeliveryFlowKey) (op : DeliveryOp) (reply : DeliveryReply) : Prop where
  accepted : acceptedOn key op reply = []
  committed : committedOn key op reply = []
  exposed : exposedOn key op reply = []

namespace DeliveryEndpoint

variable {L : DeliveryScopeLimits} {e e' : DeliveryEndpoint} {key : DeliveryFlowKey}
  {f f' : FlowState} {op : DeliveryOp} {reply : DeliveryReply}

theorem silent_of_not_targets (h : ¬ op.Targets key) : Silent key op reply := by
  refine ⟨?_, ?_, ?_⟩
  · unfold acceptedOn
    split
    · exact if_neg h
    · rfl
  · unfold committedOn
    split
    · exact if_neg h
    · rfl
  · unfold exposedOn
    split
    · exact if_neg h
    · rfl

/-- An operation about another flow leaves the one at `key` alone. -/
theorem Effect.frame (hx : Effect L e e' op reply) (h : ¬ op.Targets key) :
    e'.flows.get? key = e.flows.get? key := by
  have hinsert : ∀ {k : DeliveryFlowKey} {g : FlowState}, ¬ k = key →
      e'.flows = e.flows.insert k g → e'.flows.get? key = e.flows.get? key :=
    fun hk hfl => by rw [hfl, SortedMap.get?_insert_ne _ _ (Ne.symm hk)]
  have herase : ∀ {k : DeliveryFlowKey}, ¬ k = key →
      e'.flows = e.flows.erase k → e'.flows.get? key = e.flows.get? key :=
    fun hk hfl => by rw [hfl, SortedMap.get?_erase_ne _ (Ne.symm hk)]
  have hreceived : ∀ {k : DeliveryFlowKey} {t : DeliveryTransfer} {r}, ¬ k = key →
      Received e e' k t r → e'.flows.get? key = e.flows.get? key := by
    rintro k t r hk (⟨-, -, hfl⟩ | ⟨-, -, -, hrec, -⟩ | ⟨-, -, -, -, -, hrec⟩)
    · rw [hfl]
    · rcases hrec with ⟨-, -, hfl⟩ | ⟨-, -, hfl⟩ | ⟨-, -, -, hfl⟩
      · rw [hfl]
      · exact herase hk hfl
      · exact hinsert hk hfl
    · rcases hrec with ⟨-, -, -, hfl⟩ | ⟨-, hfl⟩ | ⟨-, -, -, hfl⟩
      · rw [hfl]
      · exact hinsert hk hfl
      · exact hinsert hk hfl
  have hterminated : ∀ {k : DeliveryFlowKey} {reason r}, ¬ k = key →
      Terminated L e e' k reason r → e'.flows.get? key = e.flows.get? key := by
    rintro k reason r hk (⟨-, rfl⟩ | ⟨_, -, -, hrem⟩)
    · rfl
    · exact herase hk hrem.flows
  have hpolled : ∀ {k : DeliveryFlowKey} {g : FlowState} {stale mark r}, ¬ k = key →
      PolledUnreliable e e' k g stale mark r → e'.flows.get? key = e.flows.get? key := by
    rintro k g stale mark r hk (⟨-, -, hfl⟩ | ⟨-, -, -, hfl⟩)
    · exact hinsert hk hfl
    · exact hinsert hk hfl
  cases hx with
  | establishFlow hx =>
    rcases hx with ⟨-, rfl⟩ | ⟨-, -, -, hfl⟩
    · rfl
    · exact hinsert h hfl
  | associate hx =>
    rcases hx with rfl | ⟨_, -, -, -, hfl⟩
    · rfl
    · exact hinsert h hfl
  | submit hx =>
    rcases hx with ⟨-, rfl | ⟨_, _, _, -, -, hu, -⟩⟩ | ⟨_, _, _, _, -, -, -, -, -, -, -, hfl⟩
    · rfl
    · exact hinsert h hu.flows
    · exact hinsert h hfl
  | commit hx =>
    rcases hx with ⟨-, rfl⟩ | ⟨_, _, _, -, -, -, -, -, hfl⟩
    · rfl
    · exact hinsert h hfl
  | receive hx => exact hreceived h hx
  | receivePayload _ hx => exact hreceived h hx
  | poll hx =>
    rcases hx with rfl | ⟨-, -, -, hp⟩ | ⟨-, -, -, hp⟩ | ⟨-, -, -, -, hp⟩
    · rfl
    · rcases hp with rfl | ⟨-, -, hfl⟩
      · rfl
      · exact hinsert h hfl
    · exact hpolled h hp
    · exact hpolled h hp
  | terminate hx => exact hterminated h hx
  | fail hx => exact hterminated h hx
  | endConnection hx =>
    refine hx.kept key fun hmem => h ?_
    simpa [DeliveryOp.Targets] using (List.mem_filter.mp hmem).2

/-- A flow that stays keeps its contract. -/
theorem Effect.contract (hx : Effect L e e' op reply) (hf : e.flows.get? key = some f)
    (hf' : e'.flows.get? key = some f') : f'.mode = f.mode ∧ f'.policy = f.policy := by
  by_cases ht : op.Targets key
  swap
  · rw [hx.frame ht, hf] at hf'
    cases hf'
    exact ⟨rfl, rfl⟩
  have hsame : e'.flows = e.flows → f'.mode = f.mode ∧ f'.policy = f.policy := fun hfl => by
    rw [hfl, hf] at hf'
    cases hf'
    exact ⟨rfl, rfl⟩
  have hinsert : ∀ {g : FlowState}, e'.flows = e.flows.insert key g → g.mode = f.mode →
      g.policy = f.policy → f'.mode = f.mode ∧ f'.policy = f.policy := fun hfl hmode hpolicy => by
    rw [hfl, SortedMap.get?_insert_self] at hf'
    cases hf'
    exact ⟨hmode, hpolicy⟩
  have herase : ∀ {P : Prop}, e'.flows = e.flows.erase key → P := fun hfl => by
    rw [hfl, SortedMap.get?_erase_self] at hf'
    cases hf'
  have hreceived : ∀ {t : DeliveryTransfer} {r}, Received e e' key t r →
      f'.mode = f.mode ∧ f'.policy = f.policy := by
    rintro t r (⟨-, -, hfl⟩ | ⟨hg, -, -, hrec, -⟩ | ⟨hg, -, -, -, -, hrec⟩)
    · exact hsame hfl
    · rw [hf] at hg
      cases hg
      rcases hrec with ⟨-, -, hfl⟩ | ⟨-, -, hfl⟩ | ⟨-, -, -, hfl⟩
      · exact hsame hfl
      · exact herase hfl
      · exact hinsert hfl rfl rfl
    · rw [hf] at hg
      cases hg
      rcases hrec with ⟨-, -, -, hfl⟩ | ⟨hdrop, hfl⟩ | ⟨hdrop, -, -, hfl⟩
      · exact hsame hfl
      · exact hinsert hfl hdrop.mode hdrop.policy
      · exact hinsert hfl hdrop.mode hdrop.policy
  have hterminated : ∀ {reason r}, Terminated L e e' key reason r →
      f'.mode = f.mode ∧ f'.policy = f.policy := by
    rintro reason r (⟨-, rfl⟩ | ⟨_, -, -, hrem⟩)
    · exact hsame rfl
    · exact herase hrem.flows
  have hpolled : ∀ {stale mark r}, PolledUnreliable e e' key f stale mark r →
      f'.mode = f.mode ∧ f'.policy = f.policy := by
    rintro stale mark r (⟨-, -, hfl⟩ | ⟨-, -, -, hfl⟩)
    · exact hinsert hfl rfl rfl
    · exact hinsert hfl rfl rfl
  cases hx with
  | establishFlow hx =>
    cases ht
    rcases hx with ⟨-, rfl⟩ | ⟨-, -, hnone, -⟩
    · exact hsame rfl
    · rw [hf] at hnone
      cases hnone
  | associate hx =>
    cases ht
    rcases hx with rfl | ⟨g, hg, -, -, hfl⟩
    · exact hsame rfl
    · rw [hf] at hg
      cases hg
      exact hinsert hfl rfl rfl
  | submit hx =>
    cases ht
    rcases hx with ⟨-, rfl | ⟨g, g', n, hg, -, hu, hdrop⟩⟩ | ⟨g, g', _, _, hg, -, -, -, hdrop, -, -, hfl⟩
    · exact hsame rfl
    · rw [hf] at hg
      cases hg
      exact hinsert hu.flows hdrop.mode hdrop.policy
    · rw [hf] at hg
      cases hg
      exact hinsert hfl hdrop.mode hdrop.policy
  | commit hx =>
    cases ht
    rcases hx with ⟨-, rfl⟩ | ⟨g, _, _, hg, -, -, -, -, hfl⟩
    · exact hsame rfl
    · rw [hf] at hg
      cases hg
      exact hinsert hfl rfl rfl
  | receive hx =>
    cases ht
    exact hreceived hx
  | receivePayload _ hx =>
    cases ht
    exact hreceived hx
  | poll hx =>
    cases ht
    rcases hx with rfl | ⟨hg, -, -, hp⟩ | ⟨hg, -, -, hp⟩ | ⟨hg, -, -, -, hp⟩
    · exact hsame rfl
    · rw [hf] at hg
      cases hg
      rcases hp with rfl | ⟨-, -, hfl⟩
      · exact hsame rfl
      · exact hinsert hfl rfl rfl
    · rw [hf] at hg
      cases hg
      exact hpolled hp
    · rw [hf] at hg
      cases hg
      exact hpolled hp
  | terminate hx =>
    cases ht
    exact hterminated hx
  | fail hx =>
    cases ht
    exact hterminated hx
  | @endConnection connection _ hx =>
    by_cases hmem : key ∈ e.flows.keys.filter fun k => k.connection = connection
    · rw [hx.gone key hmem] at hf'
      cases hf'
    · rw [hx.kept key hmem, hf] at hf'
      cases hf'
      exact ⟨rfl, rfl⟩

/-! ### A reliable flow -/

/-- The termination `report` of a flow was returned, or computed and dropped by a receive. -/
inductive EndedWith (e e' : DeliveryEndpoint) (report : FlowTermination) : DeliveryReply → Prop where
  | terminated : EndedWith e e' report (.terminated (.ok report))
  | ended {reports} : report ∈ reports → EndedWith e e' report (.ended reports)
  | received : report.reason.forcesReliableFailure = true →
      e.terminateFlow report.key report.reason = .ok (.ok report, e') →
      EndedWith e e' report (.received (.ok .terminalReliableFailure))

/-- What an operation does to the reliable flow `f` at `key`: the flow after it, if it is still
there. -/
inductive ReliableEffect (e e' : DeliveryEndpoint) (key : DeliveryFlowKey) (f : FlowState)
    (op : DeliveryOp) (reply : DeliveryReply) : Option FlowState → Prop where
  | kept {session} : Silent key op reply →
      ReliableEffect e e' key f op reply (some { f with session := session })
  | accepted {index payload} : f.nextAcceptedIndex = some index →
      acceptedOn key op reply = [⟨index, payload⟩] → committedOn key op reply = [] →
      exposedOn key op reply = [] →
      ReliableEffect e e' key f op reply (some (FlowState.enqueue f index payload))
  | committed {front rest} : f.outbound = front :: rest → acceptedOn key op reply = [] →
      committedOn key op reply = [front] → exposedOn key op reply = [] →
      ReliableEffect e e' key f op reply (some (FlowState.recount { f with outbound := rest }))
  | buffered {byIndex next transfer} : f.receiver = .reliable byIndex next →
      op = .receive key transfer ∨
        op = .receiveTransportPayload key transfer.acceptedIndex transfer.payload ∧
          transfer.mode = f.mode →
      duplicateOrConflict byIndex next transfer = none → Silent key op reply →
      ReliableEffect e e' key f op reply
        (some (FlowState.bufferReliable f byIndex next transfer))
  | exposed {byIndex expected transfer} : f.receiver = .reliable byIndex (some expected) →
      byIndex.get? expected = some transfer → acceptedOn key op reply = [] →
      committedOn key op reply = [] →
      exposedOn key op reply = [DeliveryEndpoint.exposed transfer] →
      ReliableEffect e e' key f op reply (some (FlowState.recount { f with
        receiver := .reliable (byIndex.erase expected) (checkedAdd u64Max expected 1) }))
  | ended {reason} : Silent key op reply → EndedWith e e' (terminationOf key f reason) reply →
      ReliableEffect e e' key f op reply none

theorem ReliableEffect.same {e' : DeliveryEndpoint} (hs : Silent key op reply)
    (hf : e.flows.get? key = some f) (h : e'.flows = e.flows) :
    ReliableEffect e e' key f op reply (e'.flows.get? key) := by
  rw [h, hf]
  exact .kept hs

theorem ReceiveFails.forces {transfer : DeliveryTransfer} {reason : FlowTerminationReason}
    (h : ReceiveFails e key f transfer reason) : reason.forcesReliableFailure = true := by
  cases reason <;> first | rfl | exact h.elim

theorem Received.reliableEffect (hf : e.flows.get? key = some f) (hm : f.mode = .reliableOrdered)
    {transfer : DeliveryTransfer} {r : Except DeliveryOperationError ReceiveOutcome}
    (hx : Received e e' key transfer r)
    (hop : op = .receive key transfer ∨
      op = .receiveTransportPayload key transfer.acceptedIndex transfer.payload ∧
        transfer.mode = f.mode) :
    ReliableEffect e e' key f op (.received r) (e'.flows.get? key) := by
  have hs : Silent key op (.received r) := by
    rcases hop with rfl | ⟨rfl, -⟩
    · exact ⟨rfl, rfl, rfl⟩
    · exact ⟨rfl, rfl, rfl⟩
  cases hx with
  | refused _ _ hfl => exact .same hs hf hfl
  | @reliable g r hg _ _ hrec _ =>
    rw [hf] at hg
    cases hg
    cases hrec with
    | duplicate _ _ hfl => exact .same hs hf hfl
    | failed hfails hterm hfl =>
      rw [hfl, SortedMap.get?_erase_self]
      exact .ended hs (.received hfails.forces hterm)
    | buffered hr hdup _ hfl =>
      rw [hfl, SortedMap.get?_insert_self]
      exact .buffered hr hop hdup hs
  | unreliable hg _ hne =>
    rw [hf] at hg
    cases hg
    exact absurd hm hne

theorem Terminated.reliableEffect (hf : e.flows.get? key = some f) {reason : FlowTerminationReason}
    {r : Except DeliveryOperationError FlowTermination} (hx : Terminated L e e' key reason r)
    (hs : Silent key op (.terminated r)) :
    ReliableEffect e e' key f op (.terminated r) (e'.flows.get? key) := by
  rcases hx with ⟨-, rfl⟩ | ⟨g, hg, rfl, hrem⟩
  · exact .same hs hf rfl
  · rw [hf] at hg
    cases hg
    rw [hrem.flows, SortedMap.get?_erase_self]
    exact .ended hs .terminated

/-- Every operation has one of the effects on a reliable flow. -/
theorem Effect.reliableEffect (hx : Effect L e e' op reply) (hf : e.flows.get? key = some f)
    (hm : f.mode = .reliableOrdered) :
    ReliableEffect e e' key f op reply (e'.flows.get? key) := by
  by_cases ht : op.Targets key
  swap
  · rw [hx.frame ht, hf]
    exact .kept (silent_of_not_targets ht)
  cases hx with
  | establishFlow hx =>
    cases ht
    rcases hx with ⟨-, rfl⟩ | ⟨-, -, hnone, -⟩
    · exact .same ⟨rfl, rfl, rfl⟩ hf rfl
    · rw [hf] at hnone
      cases hnone
  | associate hx =>
    cases ht
    rcases hx with rfl | ⟨g, hg, -, -, hfl⟩
    · exact .same ⟨rfl, rfl, rfl⟩ hf rfl
    · rw [hf] at hg
      cases hg
      rw [hfl, SortedMap.get?_insert_self]
      exact .kept ⟨rfl, rfl, rfl⟩
  | @submit k payload r hx =>
    cases ht
    rcases hx with ⟨hnot, rfl | ⟨g, _, _, hg, hne, -⟩⟩ |
      ⟨g, g', n, index, hg, -, -, hnext, -, hsame, rfl, hfl⟩
    · refine .same ⟨?_, rfl, rfl⟩ hf rfl
      unfold acceptedOn
      split
      · rename_i heq
        injection heq with heq
        exact absurd heq (hnot _ _)
      · rfl
    · rw [hf] at hg
      cases hg
      exact absurd hm hne
    · rw [hf] at hg
      cases hg
      rw [hfl, SortedMap.get?_insert_self, hsame hm]
      exact .accepted hnext (if_pos rfl) rfl rfl
  | commit hx =>
    cases ht
    rcases hx with ⟨⟨err, rfl⟩, rfl⟩ | ⟨g, front, rest, hg, -, ho, -, rfl, hfl⟩
    · exact .same ⟨rfl, rfl, rfl⟩ hf rfl
    · rw [hf] at hg
      cases hg
      rw [hfl, SortedMap.get?_insert_self]
      exact .committed ho rfl (if_pos rfl) rfl
  | receive hx =>
    cases ht
    exact hx.reliableEffect hf hm (.inl rfl)
  | receivePayload hmode hx =>
    cases ht
    exact hx.reliableEffect hf hm (.inr ⟨rfl, hmode f hf⟩)
  | poll hx =>
    cases ht
    rcases hx with rfl | ⟨hg, -, -, hp⟩ | ⟨hg, -, hne, -⟩ | ⟨hg, -, hne, -⟩
    · exact .same ⟨rfl, rfl, rfl⟩ hf rfl
    · rw [hf] at hg
      cases hg
      rcases hp with rfl | ⟨hr, ht, hfl⟩
      · exact .same ⟨rfl, rfl, rfl⟩ hf rfl
      · rw [hfl, SortedMap.get?_insert_self]
        exact .exposed hr ht rfl rfl (if_pos rfl)
    · rw [hf] at hg
      cases hg
      rw [hm] at hne
      cases hne
    · rw [hf] at hg
      cases hg
      rw [hm] at hne
      cases hne
  | terminate hx =>
    cases ht
    exact hx.reliableEffect hf ⟨rfl, rfl, rfl⟩
  | fail hx =>
    cases ht
    exact hx.reliableEffect hf ⟨rfl, rfl, rfl⟩
  | @endConnection connection reports hx =>
    have ht : key.connection = connection := ht
    have hmem : key ∈ e.flows.keys.filter fun k => k.connection = connection :=
      List.mem_filter.mpr ⟨SortedMap.mem_keys.mpr ⟨f, hf⟩, by simpa using ht⟩
    rw [hx.gone key hmem]
    refine .ended ⟨rfl, rfl, rfl⟩ (.ended (?_ : terminationOf key f .connectionEnded ∈ _))
    rw [hx.reports]
    exact List.mem_filterMap.mpr ⟨key, hmem, by rw [hf]; rfl⟩

/-- Without the flow, an operation is silent, and only an establishment makes it. -/
theorem Effect.absent (hx : Effect L e e' op reply) (hf : e.flows.get? key = none) :
    Silent key op reply ∧ (e'.flows.get? key = none ∨ ∃ mode policy limits,
      op = .establishFlow key mode policy limits ∧ reply = .established (.ok ()) ∧
        e'.flows.get? key = some (.new mode policy)) := by
  by_cases ht : op.Targets key
  swap
  · exact ⟨silent_of_not_targets ht, .inl (by rw [hx.frame ht, hf])⟩
  have hreceived : ∀ {t r}, Received e e' key t r → e'.flows.get? key = none := by
    rintro t r (⟨-, -, hfl⟩ | ⟨hg, -⟩ | ⟨hg, -⟩)
    · rw [hfl, hf]
    · rw [hf] at hg; cases hg
    · rw [hf] at hg; cases hg
  have hterminated : ∀ {reason r}, Terminated L e e' key reason r → e'.flows.get? key = none := by
    rintro reason r (⟨-, rfl⟩ | ⟨_, hg, -⟩)
    · exact hf
    · rw [hf] at hg; cases hg
  cases hx with
  | @establishFlow k mode policy limits r hx =>
    cases ht
    rcases hx with ⟨-, rfl⟩ | ⟨rfl, -, -, hfl⟩
    · exact ⟨⟨rfl, rfl, rfl⟩, .inl hf⟩
    · exact ⟨⟨rfl, rfl, rfl⟩, .inr ⟨mode, policy, limits, rfl, rfl, by
        rw [hfl, SortedMap.get?_insert_self]⟩⟩
  | associate hx =>
    cases ht
    rcases hx with rfl | ⟨_, hg, -⟩
    · exact ⟨⟨rfl, rfl, rfl⟩, .inl hf⟩
    · rw [hf] at hg; cases hg
  | submit hx =>
    cases ht
    rcases hx with ⟨hnot, rfl | ⟨_, _, _, hg, -⟩⟩ | ⟨_, _, _, _, hg, -⟩
    · refine ⟨⟨?_, rfl, rfl⟩, .inl hf⟩
      unfold acceptedOn
      split
      · rename_i heq
        injection heq with heq
        exact absurd heq (hnot _ _)
      · rfl
    · rw [hf] at hg; cases hg
    · rw [hf] at hg; cases hg
  | commit hx =>
    cases ht
    rcases hx with ⟨⟨err, rfl⟩, rfl⟩ | ⟨_, _, _, hg, -⟩
    · exact ⟨⟨rfl, rfl, rfl⟩, .inl hf⟩
    · rw [hf] at hg; cases hg
  | receive hx =>
    cases ht
    exact ⟨⟨rfl, rfl, rfl⟩, .inl (hreceived hx)⟩
  | receivePayload _ hx =>
    cases ht
    exact ⟨⟨rfl, rfl, rfl⟩, .inl (hreceived hx)⟩
  | poll hx =>
    cases ht
    rcases hx with rfl | ⟨hg, -⟩ | ⟨hg, -⟩ | ⟨hg, -⟩
    · exact ⟨⟨rfl, rfl, rfl⟩, .inl hf⟩
    · rw [hf] at hg; cases hg
    · rw [hf] at hg; cases hg
    · rw [hf] at hg; cases hg
  | terminate hx =>
    cases ht
    exact ⟨⟨rfl, rfl, rfl⟩, .inl (hterminated hx)⟩
  | fail hx =>
    cases ht
    exact ⟨⟨rfl, rfl, rfl⟩, .inl (hterminated hx)⟩
  | @endConnection connection reports hx =>
    refine ⟨⟨rfl, rfl, rfl⟩, .inl ?_⟩
    by_cases hmem : key ∈ e.flows.keys.filter fun k => k.connection = connection
    · exact hx.gone key hmem
    · rw [hx.kept key hmem, hf]

end DeliveryEndpoint

end RunenNet
