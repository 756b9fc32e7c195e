import RunenNet.Core.Delivery.ReliableDelivery
import RunenNet.Quic.DatagramEffects

/-!
# The custody of unreliable messages

Core keeps an accepted message until its datagram was handed to the transport, was found too
large for it, was evicted under pressure, or until the flow ends.
-/

namespace RunenNet

open Foundation DeliveryEndpoint

/-! ### The rest of Core -/

/-- The operation works on the outbound queue of the flow at `key`. -/
def DeliveryOp.movesOutbound (key : DeliveryFlowKey) : DeliveryOp → Bool
  | .submit k _ | .commitOutboundCustody k _ => k = key
  | _ => false

/-- Every other operation leaves the queue and the counter of the flow alone, or ends it. -/
theorem Effect.keepsOutbound {L : DeliveryScopeLimits} {e e' : DeliveryEndpoint}
    {key : DeliveryFlowKey} {f : FlowState} {op : DeliveryOp} {reply : DeliveryReply}
    (hi : e.Inv L) (hx : Effect L e e' op reply) (hop : op.movesOutbound key = false)
    (hf : e.flows.get? key = some f) :
    e'.flows.get? key = none ∨ ∃ f', e'.flows.get? key = some f' ∧ f'.outbound = f.outbound ∧
      f'.nextAcceptedIndex = f.nextAcceptedIndex := by
  by_cases ht : op.Targets key
  swap
  · exact .inr ⟨f, by rw [hx.frame ht, hf], rfl, rfl⟩
  have hsame : e'.flows = e.flows → ∃ f', e'.flows.get? key = some f' ∧
      f'.outbound = f.outbound ∧ f'.nextAcceptedIndex = f.nextAcceptedIndex := fun hfl =>
    ⟨f, by rw [hfl, hf], rfl, rfl⟩
  have hinsert : ∀ {g : FlowState}, e'.flows = e.flows.insert key g → g.outbound = f.outbound →
      g.nextAcceptedIndex = f.nextAcceptedIndex → ∃ f', e'.flows.get? key = some f' ∧
        f'.outbound = f.outbound ∧ f'.nextAcceptedIndex = f.nextAcceptedIndex :=
    fun hfl ho hn => ⟨_, by rw [hfl, SortedMap.get?_insert_self], ho, hn⟩
  have hdropped : ∀ {g : FlowState} {n : Nat}, key.direction = .inbound → Dropped f g n →
      g.outbound = f.outbound := fun hd hdrop => by
    obtain ⟨l, hl⟩ := hdrop.outbound
    rw [(hi.flows key f hf).shape.no_outbound hd] at hl ⊢
    exact (List.append_eq_nil_iff.mp hl.symm).2
  have hreceived : ∀ {t r}, Received e e' key t r → e'.flows.get? key = none ∨
      ∃ f', e'.flows.get? key = some f' ∧ f'.outbound = f.outbound ∧
        f'.nextAcceptedIndex = f.nextAcceptedIndex := by
    rintro t r (⟨-, -, hfl⟩ | ⟨hg, -, -, hrec, -⟩ | ⟨hg, hd, -, -, -, hrec⟩)
    · exact .inr (hsame hfl)
    · rw [hf] at hg
      cases hg
      rcases hrec with ⟨-, -, hfl⟩ | ⟨-, -, hfl⟩ | ⟨-, -, -, hfl⟩
      · exact .inr (hsame hfl)
      · exact .inl (by rw [hfl, SortedMap.get?_erase_self])
      · exact .inr (hinsert hfl rfl rfl)
    · rw [hf] at hg
      cases hg
      rcases hrec with ⟨-, -, -, hfl⟩ | ⟨hdrop, hfl⟩ | ⟨hdrop, -, -, hfl⟩
      · exact .inr (hsame hfl)
      · exact .inr (hinsert hfl (hdropped hd hdrop) hdrop.next)
      · have ho := hdropped hd hdrop
        exact .inr (hinsert hfl ho hdrop.next)
  have hterminated : ∀ {reason r}, Terminated L e e' key reason r → e'.flows.get? key = none ∨
      ∃ f', e'.flows.get? key = some f' ∧ f'.outbound = f.outbound ∧
        f'.nextAcceptedIndex = f.nextAcceptedIndex := by
    rintro reason r (⟨-, rfl⟩ | ⟨_, -, -, hrem⟩)
    · exact .inr (hsame rfl)
    · exact .inl (by rw [hrem.flows, SortedMap.get?_erase_self])
  have hpolled : ∀ {stale mark r}, PolledUnreliable e e' key f stale mark r →
      ∃ f', e'.flows.get? key = some f' ∧ f'.outbound = f.outbound ∧
        f'.nextAcceptedIndex = f.nextAcceptedIndex := by
    rintro stale mark r (⟨-, -, hfl⟩ | ⟨-, -, -, hfl⟩)
    · exact hinsert hfl rfl rfl
    · exact hinsert hfl rfl rfl
  cases hx with
  | establishFlow hx =>
    cases ht
    rcases hx with ⟨-, rfl⟩ | ⟨-, -, hnone, -⟩
    · exact .inr (hsame rfl)
    · rw [hf] at hnone
      cases hnone
  | associate hx =>
    cases ht
    rcases hx with rfl | ⟨g, hg, -, -, hfl⟩
    · exact .inr (hsame rfl)
    · rw [hf] at hg
      cases hg
      exact .inr (hinsert hfl rfl rfl)
  | submit hx =>
    cases ht
    simp [DeliveryOp.movesOutbound] at hop
  | commit hx =>
    cases ht
    simp [DeliveryOp.movesOutbound] at hop
  | receive hx =>
    cases ht
    exact hreceived hx
  | receivePayload _ hx =>
    cases ht
    exact hreceived hx
  | poll hx =>
    cases ht
    rcases hx with rfl | ⟨hg, -, -, hp⟩ | ⟨hg, -, -, hp⟩ | ⟨hg, -, -, -, hp⟩
    · exact .inr (hsame rfl)
    · rw [hf] at hg
      cases hg
      rcases hp with rfl | ⟨-, -, hfl⟩
      · exact .inr (hsame rfl)
      · exact .inr (hinsert hfl rfl rfl)
    · rw [hf] at hg
      cases hg
      exact .inr (hpolled hp)
    · rw [hf] at hg
      cases hg
      exact .inr (hpolled hp)
  | terminate hx =>
    cases ht
    exact hterminated hx
  | fail hx =>
    cases ht
    exact hterminated hx
  | @endConnection connection _ hx =>
    have ht : key.connection = connection := ht
    have hmem : key ∈ e.flows.keys.filter fun k => k.connection = connection :=
      List.mem_filter.mpr ⟨SortedMap.mem_keys.mpr ⟨f, hf⟩, by simpa using ht⟩
    exact .inl (hx.gone key hmem)

/-! ### Runs -/

/-- How a message left the custody of Core. -/
inductive Departure where
  | sent
  | transportDrop
  | evicted
  | terminated
  deriving DecidableEq, Repr

/-- The endpoint and the count of transport drops; and of the flow at one key, in its current
lifetime, the messages accepted and those that left custody. -/
structure DatagramRun where
  endpoint : DeliveryEndpoint
  transportDrops : Nat
  accepted : List ExposedMessage
  left : List (ExposedMessage × Departure)

/-- What may happen: the sender is used with any registry and any transport, and Core in any way
that leaves the queue at `key` to the sender. -/
inductive DatagramAction (key : DeliveryFlowKey) where
  | submit (registry : AcceptedFlowRegistry) (flowId : FlowId) (maxDatagramSize : Option Nat)
      (payload : List UInt8)
  | drive (registry : AcceptedFlowRegistry) (flowId : FlowId) (transport : DatagramSendTransport)
  | core (op : DeliveryOp) (h : op.movesOutbound key = false)

inductive DatagramReply where
  | submitted (r : Except DatagramSubmitError DatagramSubmissionOutcome)
  | driven (r : Except DatagramSendError DatagramSendProgress)
  | core (reply : DeliveryReply)

/-- What leaves custody while an action has this reply. -/
def DatagramReply.departure : DatagramReply → Departure
  | .submitted _ => .evicted
  | .driven (.ok (.enqueued _)) => .sent
  | .driven _ => .transportDrop
  | .core _ => .terminated

/-- The flow at `flowId` is the one at `key`. -/
def FlowAt (registry : AcceptedFlowRegistry) (flowId : FlowId) (key : DeliveryFlowKey) : Prop :=
  ∃ flow, registry.registeredFlow flowId = some flow ∧ flow.key = key

instance (registry : AcceptedFlowRegistry) (flowId : FlowId) (key : DeliveryFlowKey) :
    Decidable (FlowAt registry flowId key) :=
  decidable_of_iff ((registry.registeredFlow flowId).any fun flow => flow.key = key) (by
    simp only [Option.any_eq_true, decide_eq_true_eq, FlowAt])

namespace DatagramAction

variable {key : DeliveryFlowKey}

/-- The message an action got accepted on the flow at `key`. -/
def taken : DatagramAction key → DatagramReply → List ExposedMessage
  | .submit registry flowId _ payload, .submitted (.ok (.accepted index _)) =>
    if FlowAt registry flowId key then [⟨index, payload⟩] else []
  | _, _ => []

end DatagramAction

namespace DatagramRun

variable {key : DeliveryFlowKey}

def start (L : DeliveryScopeLimits) : DatagramRun := ⟨.new L, 0, [], []⟩

def exec (r : DatagramRun) :
    DatagramAction key → Checked (DatagramReply × DeliveryEndpoint × Nat)
  | .submit registry flowId maxDatagramSize payload => do
    let (reply, e) ← submitDatagram maxDatagramSize r.endpoint registry flowId payload
    return (.submitted reply, e, r.transportDrops)
  | .drive registry flowId transport => do
    let (reply, e, drops) ← driveOne transport r.endpoint registry flowId r.transportDrops
    return (.driven reply, e, drops)
  | .core op _ => do
    let (reply, e) ← r.endpoint.exec op
    return (.core reply, e, r.transportDrops)

/-- The messages that were in the queue or came and are not in it any more, oldest first. -/
def gone (before taken after : List ExposedMessage) : List ExposedMessage :=
  (before ++ taken).take ((before ++ taken).length - after.length)

/-- The flow at `key` begins its lifetime between `e` and `e'`. -/
def Opens (key : DeliveryFlowKey) (e e' : DeliveryEndpoint) : Prop :=
  e.nextIndex key = none ∧ e'.nextIndex key ≠ none

instance (e e' : DeliveryEndpoint) : Decidable (Opens key e e') :=
  inferInstanceAs (Decidable (_ ∧ _))

def record (r : DatagramRun) (action : DatagramAction key) (reply : DatagramReply)
    (e : DeliveryEndpoint) (drops : Nat) : DatagramRun :=
  if Opens key r.endpoint e then ⟨e, drops, [], []⟩
  else
    let taken := action.taken reply
    let gone := gone (r.endpoint.custody key) taken (e.custody key)
    ⟨e, drops, r.accepted ++ taken, r.left ++ gone.map fun m => (m, reply.departure)⟩

def step (r : DatagramRun) (action : DatagramAction key) :
    Checked (DatagramReply × DatagramRun) := do
  let (reply, e, drops) ← r.exec action
  return (reply, r.record action reply e drops)

/-- An action of which only the run after it matters. -/
def next (r : DatagramRun) (action : DatagramAction key) : Checked DatagramRun := do
  let (_, r) ← r.step action
  return r

/-! ### One action -/

/-- What an action does to the queue at `key`, and which messages leave it in which way. -/
inductive Moves (key : DeliveryFlowKey) (e e' : DeliveryEndpoint) :
    DatagramAction key → DatagramReply → List (ExposedMessage × Departure) → Prop where
  | unchanged {action reply} : action.taken reply = [] → e'.custody key = e.custody key →
      Moves key e e' action reply []
  | submitted {registry flowId size payload r evicted} : FlowAt registry flowId key →
      (evicted ≠ [] → ∃ f, e.flows.get? key = some f ∧ f.mode ≠ .reliableOrdered) →
      e.custody key ++ DatagramAction.taken
        (.submit registry flowId size payload : DatagramAction key) (.submitted r) =
          evicted ++ e'.custody key →
      Moves key e e' (.submit registry flowId size payload) (.submitted r)
        (evicted.map fun m => (m, .evicted))
  | sent {registry flowId t message} : FlowAt registry flowId key →
      e.custody key = message :: e'.custody key →
      Moves key e e' (.drive registry flowId t) (.driven (.ok (.enqueued message.acceptedIndex)))
        [(message, .sent)]
  | dropped {registry flowId t message} : FlowAt registry flowId key →
      e.custody key = message :: e'.custody key →
      Moves key e e' (.drive registry flowId t)
        (.driven (.ok (.droppedTransport message.acceptedIndex))) [(message, .transportDrop)]
  | ended {op h reply} : e'.flows.get? key = none →
      Moves key e e' (.core op h) (.core reply) ((e.custody key).map fun m => (m, .terminated))

/-- What the counter of the flow at `key` says about the messages accepted. -/
structure Counts (key : DeliveryFlowKey) (e e' : DeliveryEndpoint) (taken : List ExposedMessage) :
    Prop where
  absent : e'.nextIndex key = none → taken = []
  counter : ∀ next', e'.nextIndex key = some next' → ∃ next, e.nextIndex key = some next ∧
    (taken = [] ∧ next' = next ∨ ∃ index payload, next = some index ∧
      taken = [⟨index, payload⟩] ∧ next' = checkedAdd u64Max index 1)

/-- What an action does to the custody of the flow at `key`: a lifetime begins, or messages move
and are counted. -/
def CustodyMoves (key : DeliveryFlowKey) (e e' : DeliveryEndpoint) (action : DatagramAction key)
    (reply : DatagramReply) : Prop :=
  (Opens key e e' ∧ e'.custody key = [] ∧ e'.nextIndex key = some (some 0)) ∨
  (¬ Opens key e e' ∧ Counts key e e' (action.taken reply) ∧
    ∃ left, Moves key e e' action reply left)

/-- What an action never does, and what it tells. -/
structure KeepsCustody (key : DeliveryFlowKey) (e e' : DeliveryEndpoint) (drops drops' : Nat)
    (action : DatagramAction key) (reply : DatagramReply) : Prop where
  mismatch : ∀ expected accepted,
    reply ≠ .submitted (.error (.acceptedIndexMismatch expected accepted))
  custody : ∀ err, reply ≠ .driven (.error (.custody err))
  rejected : ∀ s, reply = .submitted s → (∀ index n, s ≠ .ok (.accepted index n)) →
    ∀ k, e'.nextIndex k = e.nextIndex k
  blocked : ∀ s, reply = .driven s → (∀ index, s ≠ .ok (.enqueued index)) →
    (∀ index, s ≠ .ok (.droppedTransport index)) → e' = e
  counted : ∀ index, reply = .driven (.ok (.droppedTransport index)) →
    drops' = saturatingAdd usizeMax drops 1
  uncounted : (∀ index, reply ≠ .driven (.ok (.droppedTransport index))) → drops' = drops
  offers : ∀ registry flowId t s, action = .drive registry flowId t → reply = .driven s →
    Offers t (CarriesFront e registry flowId) (fun t => driveOne t e registry flowId drops) s

section Actions

variable {L : DeliveryScopeLimits} {e e' : DeliveryEndpoint} {action : DatagramAction key}
  {reply : DatagramReply} {left : List (ExposedMessage × Departure)}
  {registry : AcceptedFlowRegistry} {flowId : FlowId} {flow : RegisteredFlow}

theorem flowAt_iff (h : registry.registeredFlow flowId = some flow) :
    FlowAt registry flowId key ↔ flow.key = key := by
  constructor
  · rintro ⟨flow', h', hk⟩
    rw [h] at h'
    cases h'
    exact hk
  · exact fun hk => ⟨flow, h, hk⟩

/-- Nothing happens to the flow at `key`. -/
theorem CustodyMoves.frame (h : e'.flows.get? key = e.flows.get? key)
    (ht : action.taken reply = []) : CustodyMoves key e e' action reply := by
  have hn : e'.nextIndex key = e.nextIndex key := by rw [nextIndex, nextIndex, h]
  refine .inr ⟨fun ho => ho.2 (hn.trans ho.1), ⟨fun _ => ht, fun next' h' => ?_⟩, [], .unchanged ht ?_⟩
  · exact ⟨next', hn ▸ h', .inl ⟨ht, rfl⟩⟩
  · rw [DeliveryEndpoint.custody, DeliveryEndpoint.custody, h]

/-- The flow at `key` is replaced. -/
theorem CustodyMoves.update {f f' : FlowState} (hf : e.flows.get? key = some f)
    (hf' : e'.flows.get? key = some f')
    (hnext : action.taken reply = [] ∧ f'.nextAcceptedIndex = f.nextAcceptedIndex ∨
      ∃ index payload, f.nextAcceptedIndex = some index ∧
        action.taken reply = [⟨index, payload⟩] ∧
        f'.nextAcceptedIndex = checkedAdd u64Max index 1)
    (hm : Moves key e e' action reply left) : CustodyMoves key e e' action reply := by
  have hn := nextIndex_of_get? hf
  have hn' := nextIndex_of_get? hf'
  refine .inr ⟨fun ho => ?_, ⟨fun h => ?_, fun next' h' => ⟨_, hn, ?_⟩⟩, left, hm⟩
  · rw [ho.1] at hn
    cases hn
  · rw [h] at hn'
    cases hn'
  · rw [hn'] at h'
    cases h'
    exact hnext

/-- The front of the queue at a key left it. -/
theorem moves_of_front {front : DeliveryTransfer} {k : DeliveryFlowKey}
    (h : FrontLeft e e' k front) (ht : action.taken reply = [])
    (hm : k = key → e.custody key = exposed front :: e'.custody key →
      Moves key e e' action reply left) : CustodyMoves key e e' action reply := by
  obtain ⟨f, rest, hf, ho, hfl⟩ := h
  by_cases hk : k = key
  · subst hk
    have hf' : e'.flows.get? k = some (FlowState.recount { f with outbound := rest }) := by
      rw [hfl, SortedMap.get?_insert_self]
    refine .update hf hf' (.inl ⟨ht, rfl⟩) (hm rfl ?_)
    rw [custody_of_get? hf, custody_of_get? hf', ho]
    rfl
  · exact .frame (by rw [hfl, SortedMap.get?_insert_ne _ _ (Ne.symm hk)]) ht

theorem taken_of_not_accepted {size : Option Nat} {payload : List UInt8}
    {s : Except DatagramSubmitError DatagramSubmissionOutcome} (h : NotAccepted s) :
    DatagramAction.taken (.submit registry flowId size payload : DatagramAction key)
      (.submitted s) = [] := by
  unfold DatagramAction.taken
  split
  · rename_i heq
    cases heq
    exact absurd rfl (h.accepted _ _)
  · rfl

theorem nextIndex_of_insert {k : DeliveryFlowKey} {f f' : FlowState}
    (hf : e.flows.get? k = some f) (hfl : e'.flows = e.flows.insert k f')
    (hn : f'.nextAcceptedIndex = f.nextAcceptedIndex) (k' : DeliveryFlowKey) :
    e'.nextIndex k' = e.nextIndex k' := by
  by_cases hk : k' = k
  · rw [hk, nextIndex_of_get? hf, nextIndex_of_get? (hfl ▸ SortedMap.get?_insert_self _ _ _), hn]
  · rw [nextIndex, nextIndex, hfl, SortedMap.get?_insert_ne _ _ hk]

/-- Pressure took the oldest messages of the flow at `k`. -/
theorem moves_of_dropped {f f' : FlowState} {n : Nat} {size : Option Nat}
    {payload : List UInt8} {s : Except DatagramSubmitError DatagramSubmissionOutcome}
    (hflow : registry.registeredFlow flowId = some flow) (hf : e.flows.get? flow.key = some f)
    (hm : f.mode ≠ .reliableOrdered) (hfl : e'.flows = e.flows.insert flow.key f')
    (hdrop : Dropped f f' n) (hs : NotAccepted s) :
    CustodyMoves key e e' (.submit registry flowId size payload) (.submitted s) := by
  have ht : DatagramAction.taken (.submit registry flowId size payload : DatagramAction key)
      (.submitted s) = [] := taken_of_not_accepted hs
  by_cases hk : flow.key = key
  · obtain ⟨l, hl⟩ := hdrop.outbound
    have hf' : e'.flows.get? key = some f' := by rw [hfl, hk, SortedMap.get?_insert_self]
    rw [hk] at hf
    have hq : e.custody key ++ DatagramAction.taken
        (.submit registry flowId size payload : DatagramAction key) (.submitted s) =
          l.map exposed ++ e'.custody key := by
      rw [custody_of_get? hf, custody_of_get? hf', ht, hl, List.map_append, List.append_nil]
    exact .update hf hf' (.inl ⟨ht, hdrop.next⟩)
      (.submitted ((flowAt_iff hflow).mpr hk) (fun _ => ⟨f, hf, hm⟩) hq)
  · exact .frame (by rw [hfl, SortedMap.get?_insert_ne _ _ (Ne.symm hk)]) ht

/-- The flow at `flow.key` accepted the message. -/
theorem moves_of_accepted {index drops : Nat} {size : Option Nat} {payload : List UInt8}
    (hflow : registry.registeredFlow flowId = some flow)
    (h : Accepted e e' flow.key payload (.ok (.accepted index drops))) :
    CustodyMoves key e e' (.submit registry flowId size payload)
      (.submitted (.ok (.accepted index drops))) := by
  obtain ⟨f, f', n, index', hf, -, -, hnext, hdrop, hsame, heq, hfl⟩ := h
  cases heq
  by_cases hk : flow.key = key
  · obtain ⟨l, hl⟩ := hdrop.outbound
    have hf' : e'.flows.get? key = some (FlowState.enqueue f' index payload) := by
      rw [hfl, hk, SortedMap.get?_insert_self]
    have ht : DatagramAction.taken (.submit registry flowId size payload : DatagramAction key)
        (.submitted (.ok (.accepted index (min n usizeMax)))) = [⟨index, payload⟩] :=
      if_pos ((flowAt_iff hflow).mpr hk)
    rw [hk] at hf
    have hq : e.custody key ++ DatagramAction.taken
        (.submit registry flowId size payload : DatagramAction key)
        (.submitted (.ok (.accepted index (min n usizeMax)))) =
          l.map exposed ++ e'.custody key := by
      rw [custody_of_get? hf, custody_of_get? hf', ht, hl, List.map_append, List.append_assoc]
      show _ = _ ++ List.map exposed (f'.outbound ++ [⟨f'.mode, index, payload⟩])
      rw [List.map_append]
      rfl
    refine .update hf hf' (.inr ⟨index, payload, hnext, ht, rfl⟩)
      (.submitted ((flowAt_iff hflow).mpr hk) (fun hne => ⟨f, hf, fun hm => hne ?_⟩) hq)
    -- a reliable flow evicts nothing
    rw [hsame hm] at hl
    rw [List.append_left_eq_self.mp hl.symm]
    rfl
  · refine .frame (by rw [hfl, SortedMap.get?_insert_ne _ _ (Ne.symm hk)]) ?_
    exact if_neg fun hat => hk ((flowAt_iff hflow).mp hat)

/-- What running an action comes to. -/
def Runs (L : DeliveryScopeLimits) (r : DatagramRun) (action : DatagramAction key) : Prop :=
  ∃ reply e' drops', r.exec action = .ok (reply, e', drops') ∧ e'.Inv L ∧
    KeepsCustody key r.endpoint e' r.transportDrops drops' action reply ∧
    CustodyMoves key r.endpoint e' action reply

theorem submit_runs {r : DatagramRun} (hi : r.endpoint.Inv L) (registry : AcceptedFlowRegistry)
    (flowId : FlowId) (size : Option Nat) (payload : List UInt8) :
    Runs L r (.submit registry flowId size payload : DatagramAction key) := by
  obtain ⟨s, e', h, hi', hx⟩ := submitDatagram_spec hi size registry flowId payload
  refine ⟨.submitted s, e', r.transportDrops, by simp [exec, h], hi', ?_, ?_⟩
  · refine ⟨fun expected accepted heq => ?_, by simp, fun s' hs' hnot k => ?_, by simp, by simp,
      fun _ => rfl, by simp⟩
    · cases heq
      cases hx with
      | refused hs _ => exact hs.mismatch _ _ rfl
      | rejected hs _ _ => exact hs.mismatch _ _ rfl
    · cases hs'
      cases hx with
      | refused _ he => rw [he]
      | rejected hs hflow hrej =>
        obtain ⟨-, rfl | ⟨f, f', n, hf, hm, hu, hdrop⟩⟩ := hrej
        · rfl
        · exact nextIndex_of_insert hf hu.flows hdrop.next k
      | accepted => exact absurd rfl (hnot _ _)
  · cases hx with
    | refused hs he =>
      subst he
      exact .frame rfl (taken_of_not_accepted hs)
    | rejected hs hflow hrej =>
      obtain ⟨-, rfl | ⟨f, f', n, hf, hm, hu, hdrop⟩⟩ := hrej
      · exact .frame rfl (taken_of_not_accepted hs)
      · exact moves_of_dropped hflow hf hm hu.flows hdrop hs
    | accepted hflow hacc => exact moves_of_accepted hflow hacc

theorem drive_runs {r : DatagramRun} (hi : r.endpoint.Inv L) (registry : AcceptedFlowRegistry)
    (flowId : FlowId) (t : DatagramSendTransport) :
    Runs L r (.drive registry flowId t : DatagramAction key) := by
  obtain ⟨s, e', drops', h, hi', hoffers, hx⟩ :=
    driveOne_spec hi t registry flowId r.transportDrops
  refine ⟨.driven s, e', drops', by simp [exec, h], hi', ?_, ?_⟩
  · have hkept : NotHanded s → e' = r.endpoint → drops' = r.transportDrops →
        KeepsCustody key r.endpoint e' r.transportDrops drops' (.drive registry flowId t)
          (.driven s) := fun hs he hd =>
      ⟨by simp, fun err heq => hs.custody err (by cases heq; rfl), by simp, fun _ _ _ _ => he,
        fun index heq => absurd (by cases heq; rfl) (hs.dropped index), fun _ => hd, by
          intro registry' flowId' t' s' ha hr
          cases ha
          cases hr
          exact hoffers⟩
    rcases hx with ⟨hs, he, hd⟩ | ⟨flow, hflow, hdriven⟩
    · exact hkept hs he hd
    · cases hdriven with
      | kept hs he hd => exact hkept hs he hd
      | sent hleft hd =>
        refine ⟨by simp, by simp, by simp, fun s' hs' hno _ => ?_, by simp, fun _ => hd, ?_⟩
        · cases hs'
          exact absurd rfl (hno _)
        · intro registry' flowId' t' s' ha hr
          cases ha
          cases hr
          exact hoffers
      | dropped hleft hd =>
        refine ⟨by simp, by simp, by simp, fun s' hs' _ hno => ?_, fun _ _ => hd,
          fun hno => absurd rfl (hno _), ?_⟩
        · cases hs'
          exact absurd rfl (hno _)
        · intro registry' flowId' t' s' ha hr
          cases ha
          cases hr
          exact hoffers
  · rcases hx with ⟨-, he, -⟩ | ⟨flow, hflow, hdriven⟩
    · exact .frame (by rw [he]) rfl
    · cases hdriven with
      | kept _ he _ => exact .frame (by rw [he]) rfl
      | sent hleft _ =>
        exact moves_of_front hleft rfl fun hk hq => .sent ((flowAt_iff hflow).mpr hk) hq
      | dropped hleft _ =>
        exact moves_of_front hleft rfl fun hk hq => .dropped ((flowAt_iff hflow).mpr hk) hq

theorem core_runs {r : DatagramRun} (hi : r.endpoint.Inv L) (op : DeliveryOp)
    (hop : op.movesOutbound key = false) : Runs L r (.core op hop : DatagramAction key) := by
  obtain ⟨reply, e', h, hi', hx⟩ := exec_spec hi op
  refine ⟨.core reply, e', r.transportDrops, by simp [exec, h], hi',
    ⟨by simp, by simp, by simp, by simp, by simp, fun _ => rfl, by simp⟩, ?_⟩
  cases hf : r.endpoint.flows.get? key with
  | none =>
    have hn : r.endpoint.nextIndex key = none := by rw [nextIndex, hf]; rfl
    obtain ⟨-, hnone | ⟨mode, policy, limits, -, -, hnew⟩⟩ := hx.absent hf
    · exact .frame (by rw [hf, hnone]) rfl
    · refine .inl ⟨⟨hn, ?_⟩, ?_, nextIndex_of_get? hnew⟩
      · rw [nextIndex_of_get? hnew]
        exact Option.some_ne_none _
      · rw [custody_of_get? hnew]
        rfl
  | some f =>
    rcases Effect.keepsOutbound hi hx hop hf with hnone | ⟨f', hf', ho, hn⟩
    · have hn' : e'.nextIndex key = none := by rw [nextIndex, hnone]; rfl
      refine .inr ⟨fun ho => ho.2 hn', ⟨fun _ => rfl, fun next' h' => ?_⟩, _, .ended hnone⟩
      rw [hn'] at h'
      cases h'
    · refine .update hf hf' (.inl ⟨rfl, hn⟩) (.unchanged rfl ?_)
      rw [custody_of_get? hf, custody_of_get? hf', ho]

theorem exec_runs {r : DatagramRun} (hi : r.endpoint.Inv L) :
    ∀ action : DatagramAction key, Runs L r action
  | .submit registry flowId size payload => submit_runs hi registry flowId size payload
  | .drive registry flowId t => drive_runs hi registry flowId t
  | .core op hop => core_runs hi op hop

end Actions

/-! ### Whole runs -/

/-- Every message the flow at `key` accepted left custody once, in the order of acceptance, or
waits behind those that left. -/
structure Custody (key : DeliveryFlowKey) (r : DatagramRun) : Prop where
  ledger : r.accepted = r.left.map Prod.fst ++ r.endpoint.custody key
  numbered : Numbered r.accepted
  next : ∀ next, r.endpoint.nextIndex key = some next →
    next = checkedAdd u64Max r.accepted.length 0

theorem gone_of_eq {before taken after l : List ExposedMessage} (h : before ++ taken = l ++ after) :
    gone before taken after = l := by
  rw [gone, h, List.length_append, Nat.add_sub_cancel, List.take_left]

section Runs

variable {L : DeliveryScopeLimits} {r : DatagramRun} {e e' : DeliveryEndpoint}
  {action : DatagramAction key} {reply : DatagramReply}
  {left : List (ExposedMessage × Departure)} {drops' : Nat}

/-- What leaves the queue leaves it at the front, and in the way its reply tells. -/
theorem Moves.queue (h : Moves key e e' action reply left) :
    e.custody key ++ action.taken reply = left.map Prod.fst ++ e'.custody key ∧
      left = (left.map Prod.fst).map fun m => (m, reply.departure) := by
  cases h with
  | unchanged ht hq => exact ⟨by rw [ht, hq, List.append_nil]; rfl, rfl⟩
  | submitted _ _ hq =>
    refine ⟨?_, ?_⟩
    · rw [hq, List.map_map]
      exact congrArg (· ++ _) (List.map_id _).symm
    · rw [List.map_map, List.map_map]
      rfl
  | sent _ hq => exact ⟨by rw [hq]; exact List.append_nil _, rfl⟩
  | dropped _ hq => exact ⟨by rw [hq]; exact List.append_nil _, rfl⟩
  | ended hnone =>
    refine ⟨?_, ?_⟩
    · rw [custody_of_none hnone, List.map_map]
      exact congrArg (· ++ _) (List.map_id _).symm
    · rw [List.map_map, List.map_map]
      rfl

theorem record_of_opens (h : Opens key r.endpoint e') :
    r.record action reply e' drops' = ⟨e', drops', [], []⟩ := if_pos h

theorem record_of_moves (ho : ¬ Opens key r.endpoint e')
    (h : Moves key r.endpoint e' action reply left) :
    r.record action reply e' drops' =
      ⟨e', drops', r.accepted ++ action.taken reply, r.left ++ left⟩ := by
  obtain ⟨hq, hleft⟩ := h.queue
  simp only [record, if_neg ho, gone_of_eq hq, ← hleft]

theorem Custody.start (L : DeliveryScopeLimits) : Custody key (start L) :=
  ⟨rfl, .nil, fun next h => by cases h⟩

theorem Custody.record (hc : Custody key r)
    (hm : CustodyMoves key r.endpoint e' action reply) :
    Custody key (r.record action reply e' drops') := by
  rcases hm with ⟨ho, hempty, hnext⟩ | ⟨ho, hcounts, left, hmoves⟩
  · rw [record_of_opens ho]
    refine ⟨hempty.symm, .nil, fun next h => ?_⟩
    rw [hnext] at h
    cases h
    rfl
  · obtain ⟨hq, -⟩ := hmoves.queue
    rw [record_of_moves ho hmoves]
    have hledger : r.accepted ++ action.taken reply =
        (r.left ++ left).map Prod.fst ++ e'.custody key := by
      rw [hc.ledger, List.append_assoc, hq, List.map_append, List.append_assoc]
    cases hn' : e'.nextIndex key with
    | none =>
      refine ⟨hledger, ?_, fun next h => ?_⟩
      · show Numbered (r.accepted ++ action.taken reply)
        rw [hcounts.absent hn', List.append_nil]
        exact hc.numbered
      · rw [show e'.nextIndex key = some next from h] at hn'
        cases hn'
    | some next' =>
      obtain ⟨next, hn, ⟨ht, rfl⟩ | ⟨index, payload, rfl, ht, rfl⟩⟩ := hcounts.counter next' hn'
      · refine ⟨hledger, ?_, fun next h => ?_⟩
        · show Numbered (r.accepted ++ action.taken reply)
          rw [ht, List.append_nil]
          exact hc.numbered
        · rw [show e'.nextIndex key = some next from h] at hn'
          cases hn'
          rw [ht, List.append_nil]
          exact hc.next _ hn
      · obtain ⟨-, hindex⟩ := checkedAdd_eq_some.mp (hc.next _ hn).symm
        rw [Nat.add_zero] at hindex
        subst hindex
        refine ⟨hledger, ?_, fun next h => ?_⟩
        · show Numbered (r.accepted ++ action.taken reply)
          rw [ht]
          exact hc.numbered.append payload
        · rw [show e'.nextIndex key = some next from h] at hn'
          cases hn'
          rw [ht, List.length_append]
          rfl

/-- What one action of a run does. -/
structure Steps (key : DeliveryFlowKey) (r r' : DatagramRun) (action : DatagramAction key)
    (reply : DatagramReply) : Prop where
  keeps : KeepsCustody key r.endpoint r'.endpoint r.transportDrops r'.transportDrops action reply
  logs : (Opens key r.endpoint r'.endpoint ∧ r'.accepted = [] ∧ r'.left = []) ∨
    ∃ left, Moves key r.endpoint r'.endpoint action reply left ∧
      r'.accepted = r.accepted ++ action.taken reply ∧ r'.left = r.left ++ left

theorem step_spec (hi : r.endpoint.Inv L) (hc : Custody key r) (action : DatagramAction key) :
    ∃ reply r', r.step action = .ok (reply, r') ∧ r'.endpoint.Inv L ∧ Custody key r' ∧
      Steps key r r' action reply := by
  obtain ⟨reply, e', drops', h, hi', hkeeps, hmoves⟩ := exec_runs hi action
  have hrecord : (r.record action reply e' drops').endpoint = e' ∧
      (r.record action reply e' drops').transportDrops = drops' := by
    unfold DatagramRun.record
    split
    · exact ⟨rfl, rfl⟩
    · exact ⟨rfl, rfl⟩
  refine ⟨reply, _, by simp [step, h], hrecord.1.symm ▸ hi', hc.record hmoves, ?_, ?_⟩
  · rw [hrecord.1, hrecord.2]
    exact hkeeps
  · rcases hmoves with ⟨ho, -⟩ | ⟨ho, -, left, hmoves⟩
    · rw [record_of_opens ho]
      exact .inl ⟨ho, rfl, rfl⟩
    · rw [record_of_moves ho hmoves]
      exact .inr ⟨left, hmoves, rfl, rfl⟩

theorem run_spec (hi : r.endpoint.Inv L) (hc : Custody key r)
    (actions : List (DatagramAction key)) :
    ∃ r', actions.foldlM next r = .ok r' ∧ r'.endpoint.Inv L ∧ Custody key r' := by
  induction actions generalizing r with
  | nil => exact ⟨r, rfl, hi, hc⟩
  | cons action actions ih =>
    obtain ⟨reply, r₁, h, hi₁, hc₁, -⟩ := step_spec hi hc action
    obtain ⟨r₂, h₂, hi₂, hc₂⟩ := ih hi₁ hc₁
    have hnext : r.next action = .ok r₁ := by simp [next, h]
    exact ⟨r₂, by rw [List.foldlM_cons, hnext]; exact h₂, hi₂, hc₂⟩

/-- No message is in two places, and none twice. -/
theorem Custody.once (hc : Custody key r) :
    ((r.left.map Prod.fst ++ r.endpoint.custody key).map ExposedMessage.acceptedIndex).Nodup := by
  rw [← hc.ledger, hc.numbered.indices]
  exact List.nodup_range

end Runs

/-- Every run of submissions and drives on any flows, among anything else that happens to Core,
keeps the custody of the flow at any key. -/
theorem sender_custody (L : DeliveryScopeLimits) (key : DeliveryFlowKey)
    (actions : List (DatagramAction key)) :
    ∃ r, actions.foldlM next (start L) = .ok r ∧ Custody key r ∧
      ((r.left.map Prod.fst ++ r.endpoint.custody key).map ExposedMessage.acceptedIndex).Nodup ∧
      ∀ action : DatagramAction key, ∃ reply r', r.step action = .ok (reply, r') ∧
        Steps key r r' action reply := by
  obtain ⟨r, h, hi, hc⟩ := run_spec (new_inv L) (Custody.start L) actions
  refine ⟨r, h, hc, hc.once, fun action => ?_⟩
  obtain ⟨reply, r', hstep, -, -, hs⟩ := step_spec hi hc action
  exact ⟨reply, r', hstep, hs⟩

end DatagramRun

end RunenNet
