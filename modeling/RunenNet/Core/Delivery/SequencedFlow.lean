import RunenNet.Core.Delivery.ReliableDelivery

/-!
# Unreliable sequenced flows

The sender numbers the messages it accepts; the receiver exposes what arrives in increasing order
of these numbers and skips what came too late. The logs of a run are those of the current
lifetime of the flow at one key.
-/

namespace RunenNet

open Foundation

/-- The index last exposed by a receiver that looks for stale transfers. -/
def ReceiverBuffer.lastExposed : ReceiverBuffer → Option Nat
  | .reliable _ _ => none
  | .unreliable _ last => last

namespace DeliveryEndpoint

variable {L : DeliveryScopeLimits} {e e' : DeliveryEndpoint} {key : DeliveryFlowKey}
  {f f' : FlowState} {op : DeliveryOp} {reply : DeliveryReply}

/-! ### What an operation does to the flow -/

/-- The counter and the mark are as before. -/
structure SameOrder (f f' : FlowState) : Prop where
  next : f'.nextAcceptedIndex = f.nextAcceptedIndex
  mark : f'.receiver.lastExposed = f.receiver.lastExposed

theorem SameOrder.refl (f : FlowState) : SameOrder f f := ⟨rfl, rfl⟩

theorem Dropped.sameOrder {n : Nat} (h : Dropped f f' n) : SameOrder f f' where
  next := h.next
  mark := by
    rcases h.receiver with hr | ⟨l, queue, last, hr, hr'⟩
    · rw [hr]
    · rw [hr, hr']
      rfl

/-- What an operation does to the sequenced flow `f` at `key`: the flow after it, if it is still
there. -/
inductive SequencedEffect (key : DeliveryFlowKey) (f : FlowState) (op : DeliveryOp)
    (reply : DeliveryReply) : Option FlowState → Prop where
  | kept {g} : SameOrder f g → acceptedOn key op reply = [] → exposedOn key op reply = [] →
      SequencedEffect key f op reply (some g)
  | accepted {g index payload} : f.nextAcceptedIndex = some index →
      g.nextAcceptedIndex = checkedAdd u64Max index 1 →
      g.receiver.lastExposed = f.receiver.lastExposed →
      acceptedOn key op reply = [⟨index, payload⟩] → exposedOn key op reply = [] →
      SequencedEffect key f op reply (some g)
  | exposed {g t} : staleAfter f.receiver.lastExposed t = false →
      g.receiver.lastExposed = some t.acceptedIndex →
      g.nextAcceptedIndex = f.nextAcceptedIndex → acceptedOn key op reply = [] →
      exposedOn key op reply = [DeliveryEndpoint.exposed t] →
      SequencedEffect key f op reply (some g)
  | ended : acceptedOn key op reply = [] → exposedOn key op reply = [] →
      SequencedEffect key f op reply none

theorem SequencedEffect.same (hs : Silent key op reply) (hf : e.flows.get? key = some f)
    (h : e'.flows = e.flows) : SequencedEffect key f op reply (e'.flows.get? key) := by
  rw [h, hf]
  exact .kept (.refl f) hs.accepted hs.exposed

theorem SequencedEffect.inserted (hs : Silent key op reply)
    (h : e'.flows = e.flows.insert key f') (hsame : SameOrder f f') :
    SequencedEffect key f op reply (e'.flows.get? key) := by
  rw [h, SortedMap.get?_insert_self]
  exact .kept hsame hs.accepted hs.exposed

theorem Received.sequencedEffect (hf : e.flows.get? key = some f)
    (hm : f.mode = .unreliableSequenced) {transfer : DeliveryTransfer}
    {r : Except DeliveryOperationError ReceiveOutcome} (hx : Received e e' key transfer r)
    (hs : Silent key op (.received r)) :
    SequencedEffect key f op (.received r) (e'.flows.get? key) := by
  cases hx with
  | refused _ _ hfl => exact .same hs hf hfl
  | reliable hg _ hrel _ _ =>
    rw [hf] at hg
    cases hg
    rw [hm] at hrel
    cases hrel
  | unreliable hg _ _ _ _ hrec =>
    rw [hf] at hg
    cases hg
    cases hrec with
    | stale _ _ _ hfl => exact .same hs hf hfl
    | dropped hdrop hfl => exact .inserted hs hfl hdrop.sameOrder
    | buffered hdrop hr _ hfl =>
      have hsame := hdrop.sameOrder
      refine .inserted hs hfl ⟨hsame.next, ?_⟩
      rw [← hsame.mark, hr]
      rfl

theorem Terminated.sequencedEffect (hf : e.flows.get? key = some f)
    {reason : FlowTerminationReason} {r : Except DeliveryOperationError FlowTermination}
    (hx : Terminated L e e' key reason r) (hs : Silent key op (.terminated r)) :
    SequencedEffect key f op (.terminated r) (e'.flows.get? key) := by
  rcases hx with ⟨-, rfl⟩ | ⟨g, -, -, hrem⟩
  · exact .same hs hf rfl
  · rw [hrem.flows, SortedMap.get?_erase_self]
    exact .ended hs.accepted hs.exposed

theorem PolledUnreliable.sequencedEffect {queue : List DeliveryTransfer} {last : Option Nat}
    {r : Except DeliveryOperationError (Option ExposedMessage)}
    (hr : f.receiver = .unreliable queue last)
    (hx : PolledUnreliable e e' key f (staleAfter last) (fun t _ => some t.acceptedIndex) r) :
    SequencedEffect key f (.pollExposure key) (.polled r) (e'.flows.get? key) := by
  cases hx with
  | @drained queue' last' hr' _ hfl =>
    rw [hr] at hr'
    cases hr'
    refine .inserted ⟨rfl, rfl, rfl⟩ hfl ⟨rfl, ?_⟩
    rw [hr]
    rfl
  | @exposed skipped t rest last' hr' _ hfresh hfl =>
    rw [hr] at hr'
    cases hr'
    rw [hfl, SortedMap.get?_insert_self]
    refine .exposed (t := t) ?_ rfl rfl rfl (if_pos rfl)
    rw [hr]
    exact hfresh

/-- Every operation has one of the effects on a sequenced flow. -/
theorem Effect.sequencedEffect (hx : Effect L e e' op reply) (hf : e.flows.get? key = some f)
    (hm : f.mode = .unreliableSequenced) :
    SequencedEffect key f op reply (e'.flows.get? key) := by
  by_cases ht : op.Targets key
  swap
  · have hs : Silent key op reply := silent_of_not_targets ht
    rw [hx.frame ht, hf]
    exact .kept (.refl f) hs.accepted hs.exposed
  cases hx with
  | establishFlow hx =>
    cases ht
    rcases hx with ⟨-, rfl⟩ | ⟨-, -, hnone, -⟩
    · exact .same ⟨rfl, rfl, rfl⟩ hf rfl
    · rw [hf] at hnone
      cases hnone
  | associate hx =>
    cases ht
    rcases hx with rfl | ⟨g, hg, -, -, hfl⟩
    · exact .same ⟨rfl, rfl, rfl⟩ hf rfl
    · rw [hf] at hg
      cases hg
      exact .inserted ⟨rfl, rfl, rfl⟩ hfl ⟨rfl, rfl⟩
  | @submit k payload r hx =>
    cases ht
    rcases hx with ⟨hnot, hkept⟩ | ⟨g, g', n, index, hg, -, -, hnext, hdrop, -, rfl, hfl⟩
    · have hs : Silent key (.submit key payload) (.submitted r) := by
        refine ⟨?_, rfl, rfl⟩
        unfold acceptedOn
        split
        · rename_i heq
          injection heq with heq
          exact absurd heq (hnot _ _)
        · rfl
      rcases hkept with rfl | ⟨g, g', n, hg, -, hu, hdrop⟩
      · exact .same hs hf rfl
      · rw [hf] at hg
        cases hg
        exact .inserted hs hu.flows hdrop.sameOrder
    · rw [hf] at hg
      cases hg
      have hsame := hdrop.sameOrder
      rw [hfl, SortedMap.get?_insert_self]
      exact .accepted hnext (by rw [FlowState.enqueue]; rfl) hsame.mark (if_pos rfl) rfl
  | commit hx =>
    cases ht
    rcases hx with ⟨⟨err, rfl⟩, rfl⟩ | ⟨g, front, rest, hg, -, -, -, rfl, hfl⟩
    · exact .same ⟨rfl, rfl, rfl⟩ hf rfl
    · rw [hf] at hg
      cases hg
      rw [hfl, SortedMap.get?_insert_self]
      exact .kept ⟨rfl, rfl⟩ rfl rfl
  | receive hx =>
    cases ht
    exact hx.sequencedEffect hf hm ⟨rfl, rfl, rfl⟩
  | receivePayload _ hx =>
    cases ht
    exact hx.sequencedEffect hf hm ⟨rfl, rfl, rfl⟩
  | poll hx =>
    cases ht
    rcases hx with rfl | ⟨hg, -, hrel, -⟩ | ⟨hg, -, hunordered, -⟩ | ⟨hg, -, -, hr, hp⟩
    · exact .same ⟨rfl, rfl, rfl⟩ hf rfl
    · rw [hf] at hg
      cases hg
      rw [hm] at hrel
      cases hrel
    · rw [hf] at hg
      cases hg
      rw [hm] at hunordered
      cases hunordered
    · rw [hf] at hg
      cases hg
      exact hp.sequencedEffect hr
  | terminate hx =>
    cases ht
    exact hx.sequencedEffect hf ⟨rfl, rfl, rfl⟩
  | fail hx =>
    cases ht
    exact hx.sequencedEffect hf ⟨rfl, rfl, rfl⟩
  | @endConnection connection reports hx =>
    have ht : key.connection = connection := ht
    have hmem : key ∈ e.flows.keys.filter fun k => k.connection = connection :=
      List.mem_filter.mpr ⟨SortedMap.mem_keys.mpr ⟨f, hf⟩, by simpa using ht⟩
    rw [hx.gone key hmem]
    exact .ended rfl rfl

end DeliveryEndpoint

/-! ### Runs -/

/-- An endpoint, and what the flow at one key accepted and exposed in its current lifetime. -/
structure SequencedRun where
  endpoint : DeliveryEndpoint
  accepted : List ExposedMessage
  exposed : List ExposedMessage

namespace SequencedRun

open DeliveryEndpoint

variable {key : DeliveryFlowKey} {r r' : SequencedRun}

/-- The log of the current lifetime after an operation. -/
def continued (opens : Bool) (log more : List ExposedMessage) : List ExposedMessage :=
  if opens then [] else log ++ more

/-- Any operation with any arguments: arrivals in any order, lost or repeated, under any
pressure. -/
inductive Step (key : DeliveryFlowKey) : SequencedRun → SequencedRun → Prop where
  | exec {r op reply e'} : r.endpoint.exec op = .ok (reply, e') →
      Step key r
        { endpoint := e'
          accepted := continued (opensOn key op reply) r.accepted (acceptedOn key op reply)
          exposed := continued (opensOn key op reply) r.exposed (exposedOn key op reply) }

def Starts (r : SequencedRun) : Prop :=
  (∃ L, r.endpoint = new L) ∧ r.accepted = [] ∧ r.exposed = []

/-- The flow's counter stands behind the messages it accepted, and its mark at the last message
it exposed. -/
structure Tracks (f : FlowState) (accepted exposed : List ExposedMessage) : Prop where
  numbered : Numbered accepted
  next : f.nextAcceptedIndex = checkedAdd u64Max accepted.length 0
  increasing : (exposed.map ExposedMessage.acceptedIndex).Pairwise (· < ·)
  mark : f.receiver.lastExposed = exposed.getLast?.map ExposedMessage.acceptedIndex

structure Inv (key : DeliveryFlowKey) (r : SequencedRun) : Prop where
  endpoint : ∃ L, r.endpoint.Inv L
  tracks : ∀ f, r.endpoint.flows.get? key = some f → f.mode = .unreliableSequenced →
    Tracks f r.accepted r.exposed

theorem Tracks.new (policy : FlowResourcePolicy) :
    Tracks (.new .unreliableSequenced policy) [] [] :=
  ⟨.nil, rfl, .nil, rfl⟩

/-- What is newer than the last message exposed is newer than all of them. -/
theorem increasing_append {exposed : List ExposedMessage} {t : DeliveryTransfer}
    (h : (exposed.map ExposedMessage.acceptedIndex).Pairwise (· < ·))
    (hfresh : staleAfter (exposed.getLast?.map ExposedMessage.acceptedIndex) t = false) :
    ((exposed ++ [DeliveryEndpoint.exposed t]).map ExposedMessage.acceptedIndex).Pairwise
      (· < ·) := by
  rcases List.eq_nil_or_concat exposed with rfl | ⟨before, m, rfl⟩
  · exact List.pairwise_singleton _ _
  rw [List.concat_eq_append] at h hfresh ⊢
  have hlast : m.acceptedIndex < t.acceptedIndex := by
    simpa [staleAfter] using hfresh
  rw [List.map_append, List.pairwise_append]
  refine ⟨h, List.pairwise_singleton _ _, fun i hi j hj => ?_⟩
  rw [List.map_singleton, List.mem_singleton] at hj
  subst hj
  rw [List.map_append, List.pairwise_append] at h
  rw [List.map_append, List.mem_append, List.map_singleton, List.mem_singleton] at hi
  rcases hi with hi | rfl
  · exact (h.2.2 i hi _ (List.mem_singleton_self _)).trans hlast
  · exact hlast

theorem Tracks.after {f f' : FlowState} {op : DeliveryOp} {reply : DeliveryReply}
    {accepted exposed : List ExposedMessage} (ht : Tracks f accepted exposed)
    (hx : SequencedEffect key f op reply (some f')) :
    Tracks f' (accepted ++ acceptedOn key op reply) (exposed ++ exposedOn key op reply) := by
  cases hx with
  | kept hsame ha he =>
    rw [ha, he, List.append_nil, List.append_nil]
    exact ⟨ht.numbered, hsame.next.trans ht.next, ht.increasing, hsame.mark.trans ht.mark⟩
  | @accepted _ index payload hnext hnext' hmark ha he =>
    rw [ht.next] at hnext
    obtain rfl : accepted.length = index := by
      have := (checkedAdd_eq_some.mp hnext).2
      omega
    rw [ha, he, List.append_nil]
    refine ⟨ht.numbered.append payload, ?_, ht.increasing, hmark.trans ht.mark⟩
    rw [hnext', List.length_append]
    rfl
  | exposed hfresh hmark hnext ha he =>
    rw [ha, he, List.append_nil]
    rw [ht.mark] at hfresh
    refine ⟨ht.numbered, hnext.trans ht.next, increasing_append ht.increasing hfresh, ?_⟩
    rw [hmark, List.getLast?_append]
    rfl

theorem opensOn_false {L : DeliveryScopeLimits} {e e' : DeliveryEndpoint} {op : DeliveryOp}
    {reply : DeliveryReply} (hx : Effect L e e' op reply) {f : FlowState}
    (hf : e.flows.get? key = some f) : opensOn key op reply = false := by
  cases hx with
  | @establishFlow k mode policy limits r hx =>
    rcases hx with ⟨⟨err, rfl⟩, -⟩ | ⟨rfl, -, hnone, -⟩
    · rfl
    · refine decide_eq_false fun hk => ?_
      rw [hk, hf] at hnone
      cases hnone
  | _ => rfl

theorem Inv.start (h : Starts r) : Inv key r := by
  obtain ⟨⟨L, he⟩, -, -⟩ := h
  refine ⟨⟨L, he ▸ new_inv L⟩, fun f hf => ?_⟩
  rw [he] at hf
  cases hf

theorem Inv.step (hi : Inv key r) (h : Step key r r') : Inv key r' := by
  obtain ⟨L, hinv⟩ := hi.endpoint
  cases h with
  | @exec op reply e' h =>
    obtain ⟨hi', hx⟩ := exec_effect hinv h
    refine ⟨⟨L, hi'⟩, fun f' hf' hm' => ?_⟩
    cases hf : r.endpoint.flows.get? key with
    | none =>
      obtain ⟨-, hnone | ⟨mode, policy, limits, rfl, rfl, hnew⟩⟩ := hx.absent hf
      · exact absurd (hf'.symm.trans hnone) nofun
      · obtain rfl : f' = .new mode policy := Option.some.inj (hf'.symm.trans hnew)
        obtain rfl : mode = .unreliableSequenced := hm'
        have hopens : opensOn key (.establishFlow key .unreliableSequenced policy limits)
            (.established (.ok ())) = true := decide_eq_true rfl
        simp only [continued, hopens, if_true]
        exact .new policy
    | some f =>
      rw [opensOn_false hx hf]
      have hmode : f.mode = .unreliableSequenced := (hx.contract hf hf').1.symm.trans hm'
      have hseq := hx.sequencedEffect hf hmode
      rw [show e'.flows.get? key = some f' from hf'] at hseq
      exact (hi.tracks f hf hmode).after hseq

/-! ### What the order of a sequenced flow promises -/

/-- The messages of an outbound flow are numbered 0, 1, 2, … in the order of their acceptance. -/
structure Numbers (key : DeliveryFlowKey) (r : SequencedRun) (f : FlowState) : Prop where
  indices : r.accepted.map ExposedMessage.acceptedIndex = List.range r.accepted.length
  /-- Only an acceptance takes an index: the one after the last. -/
  takes : ∀ op reply e' f', r.endpoint.exec op = .ok (reply, e') → e'.flows.get? key = some f' →
    f'.nextAcceptedIndex ≠ f.nextAcceptedIndex →
    ∃ payload, acceptedOn key op reply = [⟨r.accepted.length, payload⟩]
  /-- Nothing is accepted once the counter has run out. -/
  exhausted : r.accepted.length = u64Max + 1 → ∀ op reply e',
    r.endpoint.exec op = .ok (reply, e') → acceptedOn key op reply = []

/-- A poll exposes the first buffered message that is not stale and leaves what is behind it. -/
def ExposesFresh (key : DeliveryFlowKey) (e e' : DeliveryEndpoint) (f : FlowState)
    (queue : List DeliveryTransfer) (last : Option Nat) (message : Option ExposedMessage) : Prop :=
  (∃ skipped t rest, queue = skipped ++ t :: rest ∧ (∀ s ∈ skipped, staleAfter last s = true) ∧
    staleAfter last t = false ∧ message = some (DeliveryEndpoint.exposed t) ∧
    e'.flows = e.flows.insert key
      { f with receiver := .unreliable rest (some t.acceptedIndex) }.recount) ∨
  ((∀ s ∈ queue, staleAfter last s = true) ∧ message = none ∧
    e'.flows = e.flows.insert key { f with receiver := .unreliable [] last }.recount)

/-- The messages of an inbound flow are exposed in increasing order. -/
structure Increases (key : DeliveryFlowKey) (r : SequencedRun) (f : FlowState) : Prop where
  increasing : (r.exposed.map ExposedMessage.acceptedIndex).Pairwise (· < ·)
  mark : f.receiver.lastExposed = r.exposed.getLast?.map ExposedMessage.acceptedIndex
  reported : r.endpoint.lastExposedSequence key =
    .ok (.ok (r.exposed.getLast?.map ExposedMessage.acceptedIndex))
  moves : ∀ op reply e' f', r.endpoint.exec op = .ok (reply, e') → e'.flows.get? key = some f' →
    f'.receiver.lastExposed ≠ f.receiver.lastExposed →
    ∃ m, exposedOn key op reply = [m] ∧ f'.receiver.lastExposed = some m.acceptedIndex
  polls : ∃ queue last message e', f.receiver = .unreliable queue last ∧
    r.endpoint.pollExposure key = .ok (.ok message, e') ∧
    ExposesFresh key r.endpoint e' f queue last message

theorem Tracks.numbers {L : DeliveryScopeLimits} {f : FlowState} (hi : r.endpoint.Inv L)
    (hf : r.endpoint.flows.get? key = some f) (hm : f.mode = .unreliableSequenced)
    (ht : Tracks f r.accepted r.exposed) : Numbers key r f where
  indices := ht.numbered.indices
  takes := fun op reply e' f' h hf' hne => by
    have hx := (exec_effect hi h).2.sequencedEffect hf hm
    rw [hf'] at hx
    cases hx with
    | kept hsame => exact absurd hsame.next hne
    | @accepted _ index payload hnext _ _ ha _ =>
      rw [ht.next, checkedAdd_eq_some] at hnext
      obtain ⟨-, rfl⟩ := hnext
      exact ⟨payload, ha⟩
    | exposed _ _ hnext => exact absurd hnext hne
  exhausted := fun hlen op reply e' h => by
    have hx := (exec_effect hi h).2.sequencedEffect hf hm
    generalize e'.flows.get? key = after at hx
    cases hx with
    | kept _ ha _ => exact ha
    | accepted hnext =>
      rw [ht.next, checkedAdd_eq_some, hlen] at hnext
      omega
    | exposed _ _ _ ha _ => exact ha
    | ended ha _ => exact ha

theorem pollExposure_fresh {L : DeliveryScopeLimits} {e : DeliveryEndpoint} {f : FlowState}
    (hi : e.Inv L) (hf : e.flows.get? key = some f) (hm : f.mode = .unreliableSequenced)
    (hd : key.direction = .inbound) : ∃ queue last message e', f.receiver = .unreliable queue last ∧
      e.pollExposure key = .ok (.ok message, e') ∧ ExposesFresh key e e' f queue last message := by
  obtain ⟨queue, last, hr⟩ := (hi.flows key f hf).unreliable (by rw [hm]; exact nofun)
  obtain ⟨res, e', h, -, hp⟩ := pollSequencedExposure_spec hi hf hd hr
  have hpoll : e.pollExposure key = .ok (res, e') := by
    simp only [pollExposure, hd, ne_eq, not_true_eq_false, if_false, hf, hm, h]
  refine ⟨queue, last, ?_⟩
  cases hp with
  | @drained queue' last' hr' hall hfl =>
    rw [hr] at hr'
    cases hr'
    exact ⟨none, e', hr, hpoll, .inr ⟨hall, rfl, hfl⟩⟩
  | @exposed skipped t rest last' hr' hall hfresh hfl =>
    rw [hr] at hr'
    cases hr'
    exact ⟨_, e', hr, hpoll, .inl ⟨skipped, t, rest, rfl, hall, hfresh, rfl, hfl⟩⟩

/-- What a host is told of a sequenced flow is the mark of its receiver. -/
theorem lastExposedSequence_eq {L : DeliveryScopeLimits} {e : DeliveryEndpoint} {f : FlowState}
    (hi : e.Inv L) (hf : e.flows.get? key = some f) (hm : f.mode = .unreliableSequenced)
    (hd : key.direction = .inbound) :
    e.lastExposedSequence key = .ok (.ok f.receiver.lastExposed) := by
  obtain ⟨queue, last, hr⟩ := (hi.flows key f hf).unreliable (by rw [hm]; exact nofun)
  simp only [lastExposedSequence, hf, hd, hm, hr, ReceiverBuffer.lastExposed, ne_eq,
    not_true_eq_false, if_false]

theorem Tracks.increases {L : DeliveryScopeLimits} {f : FlowState} (hi : r.endpoint.Inv L)
    (hf : r.endpoint.flows.get? key = some f) (hm : f.mode = .unreliableSequenced)
    (hd : key.direction = .inbound) (ht : Tracks f r.accepted r.exposed) : Increases key r f where
  increasing := ht.increasing
  mark := ht.mark
  reported := by rw [lastExposedSequence_eq hi hf hm hd, ht.mark]
  moves := fun op reply e' f' h hf' hne => by
    have hx := (exec_effect hi h).2.sequencedEffect hf hm
    rw [hf'] at hx
    cases hx with
    | kept hsame => exact absurd hsame.mark hne
    | accepted _ _ hmark => exact absurd hmark hne
    | exposed _ hmark _ _ he => exact ⟨_, he, hmark⟩
  polls := pollExposure_fresh hi hf hm hd

/-- In every state of every run, a sequenced flow numbers what it accepts and exposes what
arrives in increasing order. -/
theorem sequenced_order (h : Reachable Starts (Step key) r) {f : FlowState}
    (hf : r.endpoint.flows.get? key = some f) (hm : f.mode = .unreliableSequenced) :
    (key.direction = .outbound → Numbers key r f) ∧
      (key.direction = .inbound → Increases key r f) := by
  have hi : Inv key r := h.invariant (P := Inv key) (fun _ => Inv.start) fun _ _ hi => hi.step
  obtain ⟨L, hinv⟩ := hi.endpoint
  have ht := hi.tracks f hf hm
  exact ⟨fun _ => ht.numbers hinv hf hm, fun hd => ht.increases hinv hf hm hd⟩

/-! Of four arrivals one is stale when it arrives and one when it is polled; the second exposure
is the newer message. -/

def samplePolicy : FlowResourcePolicy :=
  ⟨.nearest 16, .nearest 4, .nearest 64, .evictOldestUnreliable, .evictOldestBufferedUnreliable⟩

def sampleKey : DeliveryFlowKey := ⟨⟨1⟩, .inbound, ⟨9⟩⟩

theorem next_op (h : Reachable Starts (Step key) r) (op : DeliveryOp) {reply : DeliveryReply}
    {e' : DeliveryEndpoint} (hx : r.endpoint.exec op = .ok (reply, e')) :
    Reachable Starts (Step key)
      { endpoint := e'
        accepted := continued (opensOn key op reply) r.accepted (acceptedOn key op reply)
        exposed := continued (opensOn key op reply) r.exposed (exposedOn key op reply) } :=
  h.next (.exec hx)

theorem sample_reachable : ∃ r f, Reachable Starts (Step sampleKey) r ∧
    r.endpoint.flows.get? sampleKey = some f ∧ f.mode = .unreliableSequenced ∧
    r.exposed = [⟨3, [7]⟩, ⟨5, [8]⟩] := by
  have h0 : Reachable Starts (Step sampleKey) ⟨new ReliableRun.sampleLimits, [], []⟩ :=
    .start ⟨⟨_, rfl⟩, rfl, rfl⟩
  have h1 := next_op h0
    (.establishFlow sampleKey .unreliableSequenced samplePolicy ReliableRun.sampleLimits) rfl
  have h2 := next_op h1 (.receiveTransportPayload sampleKey 3 [7]) rfl
  have h3 := next_op h2 (.receiveTransportPayload sampleKey 2 [6]) rfl
  have h4 := next_op h3 (.receiveTransportPayload sampleKey 5 [8]) rfl
  have h5 := next_op h4 (.pollExposure sampleKey) rfl
  have h6 := next_op h5 (.receiveTransportPayload sampleKey 1 [5]) rfl
  have h7 := next_op h6 (.pollExposure sampleKey) rfl
  exact ⟨_, _, h7, rfl, rfl, rfl⟩

theorem sequenced_order_sample : ∃ r f,
    r.exposed = [⟨3, [7]⟩, ⟨5, [8]⟩] ∧ Increases sampleKey r f := by
  obtain ⟨r, f, h, hf, hm, he⟩ := sample_reachable
  exact ⟨r, f, he, (sequenced_order h hf hm).2 rfl⟩

end SequencedRun

end RunenNet
