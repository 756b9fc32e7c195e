import RunenNet.Core.Delivery.Pressure

/-!
# What the counters say of each operation

For every operation: how many messages of the flow it works on enter, leave or are discarded, and
how far the diagnostic counters move. The counters saturate, so they are exact only below their
bound.
-/

namespace RunenNet

open Foundation

/-! ### Counting -/

/-- The pressure drops counted in a direction. -/
def DeliveryDiagnostics.drops (g : DeliveryDiagnostics) : FlowDirection → Nat
  | .outbound => g.outboundUnreliablePressureDrops
  | .inbound => g.inboundUnreliablePressureDrops

/-- From `g` to `g'` so many pressure drops of the direction and stale drops were counted. -/
structure Counts (direction : FlowDirection) (drops stale : Nat) (g g' : DeliveryDiagnostics) :
    Prop where
  drops : g'.drops direction < usizeMax → g'.drops direction = g.drops direction + drops
  others : ∀ d, d ≠ direction → g'.drops d = g.drops d
  stale : g'.staleSequencedDrops < usizeMax →
    g'.staleSequencedDrops = g.staleSequencedDrops + stale

namespace Counts

variable {direction : FlowDirection} {g g' g'' : DeliveryDiagnostics} {m n s : Nat}

theorem of_same (hdrops : ∀ d, g'.drops d = g.drops d)
    (hstale : g'.staleSequencedDrops = g.staleSequencedDrops) : Counts direction 0 0 g g' :=
  ⟨fun _ => hdrops direction, fun d _ => hdrops d, fun _ => hstale⟩

theorem of_eq (h : g' = g) : Counts direction 0 0 g g' := by
  subst h
  exact .of_same (fun _ => rfl) rfl

/-- A counter that saturates is exact below its bound. -/
theorem saturating {a b c : Nat} (h : b = saturatingAdd usizeMax a c) (hb : b < usizeMax) :
    b = a + c := by
  unfold saturatingAdd at h
  omega

/-- One more stale drop, after the others. -/
theorem stale_cons {e : DeliveryEndpoint} (h : Counts direction n s e.countStale.diagnostics g') :
    Counts direction n (s + 1) e.diagnostics g' where
  drops := h.drops
  others := h.others
  stale := by
    intro hlt
    have htotal := h.stale hlt
    have hone : e.countStale.diagnostics.staleSequencedDrops =
        e.diagnostics.staleSequencedDrops + 1 := saturating rfl (by omega)
    omega

theorem inbound (e : DeliveryEndpoint) (n : Nat) :
    Counts .inbound n 0 e.diagnostics (e.countInboundDrops n).diagnostics where
  drops := saturating rfl
  others := by
    intro d hd
    cases d with
    | outbound => rfl
    | inbound => exact absurd rfl hd
  stale := fun _ => rfl

/-- The dropped transfer is counted with the evictions before it. -/
theorem inbound_dropped (e : DeliveryEndpoint) (n : Nat) :
    Counts .inbound (n + 1) 0 e.diagnostics
      (e.countInboundDrops (saturatingAdd usizeMax (min n usizeMax) 1)).diagnostics where
  drops := by
    intro hlt
    have h := (inbound e (saturatingAdd usizeMax (min n usizeMax) 1)).drops hlt
    have hvalue : saturatingAdd usizeMax (min n usizeMax) 1 = min (min n usizeMax + 1) usizeMax :=
      rfl
    omega
  others := (inbound e _).others
  stale := fun _ => rfl

end Counts

/-- The messages of an unreliable flow that wait in its buffers. -/
def FlowState.waiting (f : FlowState) : Nat :=
  if f.mode = .reliableOrdered then 0 else f.buffered.length

namespace DeliveryEndpoint

variable {L : DeliveryScopeLimits} {e e' : DeliveryEndpoint} {key : DeliveryFlowKey}
  {f f' : FlowState}

def waiting (e : DeliveryEndpoint) (key : DeliveryFlowKey) : Nat :=
  match e.flows.get? key with
  | some f => f.waiting
  | none => 0

/-- The flow is there and unreliable. -/
def unreliable (e : DeliveryEndpoint) (key : DeliveryFlowKey) : Bool :=
  (e.flows.get? key).any fun f => f.mode ≠ .reliableOrdered

/-- The transfer is of the mode and size of an unreliable inbound flow. -/
def admissible (e : DeliveryEndpoint) (key : DeliveryFlowKey) (transfer : DeliveryTransfer) :
    Bool :=
  key.direction = .inbound && (e.flows.get? key).any fun f =>
    f.mode ≠ .reliableOrdered && transfer.mode = f.mode &&
      transfer.payloadLen ≤ f.policy.maxMessageBytes.get

/-- The messages an operation takes in: an accepted submission, or a transfer of the right mode
and size. -/
def taken (e : DeliveryEndpoint) : DeliveryOp → DeliveryReply → Nat
  | .submit key _, .submitted (.ok (.accepted _ _)) => if e.unreliable key then 1 else 0
  | .receive key transfer, _ => if e.admissible key transfer then 1 else 0
  | .receiveTransportPayload key acceptedIndex payload, _ => match e.flows.get? key with
    | some f => if e.admissible key ⟨f.mode, acceptedIndex, payload⟩ then 1 else 0
    | none => 0
  | _, _ => 0

/-- The messages an operation hands on: custody committed to the transport, or exposed. -/
def handled (e : DeliveryEndpoint) : DeliveryOp → DeliveryReply → Nat
  | .commitOutboundCustody key _, .committed (.ok _) => if e.unreliable key then 1 else 0
  | .pollExposure key, .polled (.ok (some _)) => if e.unreliable key then 1 else 0
  | _, _ => 0

/-- What waited in a flow that is gone in `e'`. -/
def discarded (e e' : DeliveryEndpoint) (key : DeliveryFlowKey) : Nat :=
  match e'.flows.get? key with
  | some _ => 0
  | none => e.waiting key

theorem waiting_some (hf : e.flows.get? key = some f) : e.waiting key = f.waiting := by
  unfold waiting
  rw [hf]

theorem waiting_none (hf : e.flows.get? key = none) : e.waiting key = 0 := by
  unfold waiting
  rw [hf]

theorem waiting_reliable (hm : f.mode = .reliableOrdered) : f.waiting = 0 := if_pos hm

theorem waiting_unreliable (hm : f.mode ≠ .reliableOrdered) : f.waiting = f.buffered.length :=
  if_neg hm

/-- The messages of an unreliable flow whose counters are taken from new buffers. -/
theorem waiting_recount (hm : f.mode ≠ .reliableOrdered) (hmode : f'.mode = f.mode) {m n : Nat}
    (h : f.buffered.length + m = f'.buffered.length + n) :
    f.waiting + m = f'.recount.waiting + n := by
  have hm' : f'.recount.mode ≠ .reliableOrdered := by
    rw [← hmode] at hm
    exact hm
  rw [waiting_unreliable hm, waiting_unreliable hm']
  exact h

theorem discarded_some (hf : e'.flows.get? key = some f') : e.discarded e' key = 0 := by
  unfold discarded
  rw [hf]

theorem discarded_none (hf : e'.flows.get? key = none) : e.discarded e' key = e.waiting key := by
  unfold discarded
  rw [hf]

theorem unreliable_some (hf : e.flows.get? key = some f) :
    e.unreliable key = decide (f.mode ≠ .reliableOrdered) := by
  unfold unreliable
  rw [hf]
  rfl

/-- An operation on the flow at `key`: the messages it took in, handed on and lost account for
what waits after it, with what the counters say. -/
structure Settles (e e' : DeliveryEndpoint) (key : DeliveryFlowKey)
    (taken handled drops stale lost : Nat) : Prop where
  others : ∀ k, k ≠ key → e'.flows.get? k = e.flows.get? k
  counts : Counts key.direction drops stale e.diagnostics e'.diagnostics
  balance : e.waiting key + taken =
    e'.waiting key + handled + e.discarded e' key + drops + stale + lost

/-- Nothing happened to the flow and the counters. -/
theorem Settles.idle (hflows : e'.flows = e.flows) (hd : e'.diagnostics = e.diagnostics) :
    Settles e e' key 0 0 0 0 0 where
  others := fun k _ => by rw [hflows]
  counts := .of_eq hd
  balance := by
    have hwait : e'.waiting key = e.waiting key := by rw [waiting, waiting, hflows]
    cases hf : e'.flows.get? key with
    | some f => rw [discarded_some hf, hwait]
    | none => rw [discarded_none hf, waiting_none hf, ← hwait, waiting_none hf]

/-- The flow at `key` changes. -/
theorem Settles.insert (hf : e.flows.get? key = some f) (hflows : e'.flows = e.flows.insert key f')
    {taken handled drops stale lost : Nat}
    (hcounts : Counts key.direction drops stale e.diagnostics e'.diagnostics)
    (hbalance : f.waiting + taken = f'.waiting + handled + drops + stale + lost) :
    Settles e e' key taken handled drops stale lost where
  others := fun k hk => by rw [hflows, SortedMap.get?_insert_ne _ _ hk]
  counts := hcounts
  balance := by
    have hf' : e'.flows.get? key = some f' := by rw [hflows, SortedMap.get?_insert_self]
    rw [waiting_some hf, waiting_some hf', discarded_some hf']
    omega

/-- The flow at `key` ends. -/
theorem Settles.erase (hflows : e'.flows = e.flows.erase key)
    (hd : e'.diagnostics = e.diagnostics) : Settles e e' key 0 0 0 0 0 where
  others := fun k hk => by rw [hflows, SortedMap.get?_erase_ne _ hk]
  counts := .of_eq hd
  balance := by
    have hf' : e'.flows.get? key = none := by rw [hflows, SortedMap.get?_erase_self]
    rw [waiting_none hf', discarded_none hf']
    omega

/-! ### Submitting -/

/-- A submission that evicts everything the flow holds and is rejected all the same: the message
does not fit the scopes even without the flow's own messages. -/
def FutileSubmit (e : DeliveryEndpoint) (key : DeliveryFlowKey) (payload : List UInt8) : Prop :=
  ∃ f, e.flows.get? key = some f ∧ key.direction = .outbound ∧
    payload.length ≤ f.policy.maxMessageBytes.get ∧ f.nextAcceptedIndex ≠ none ∧
    f.policy.outboundPressure = .evictOldestUnreliable ∧ f.outbound ≠ [] ∧
    ¬ e.FitsEmptied key f payload.length

theorem addPending_diagnostics {messages bytes : Nat}
    (h : e.addPending key messages bytes = .ok e') : e'.diagnostics = e.diagnostics := by
  unfold addPending at h
  obtain ⟨flow, -, h⟩ := Checked.bind_eq_ok.mp h
  obtain ⟨pendingMessages, -, h⟩ := Checked.bind_eq_ok.mp h
  obtain ⟨pendingPayloadBytes, -, h⟩ := Checked.bind_eq_ok.mp h
  obtain ⟨connections, -, h⟩ := Checked.bind_eq_ok.mp h
  obtain ⟨usage, -, h⟩ := Checked.bind_eq_ok.mp h
  obtain ⟨sessions, -, h⟩ := Checked.bind_eq_ok.mp h
  cases h
  rfl

/-- An accepted submission counts its evictions. -/
theorem enqueueOutbound_counts {mode : DeliveryMode} {index drops i d : Nat}
    {payload : List UInt8}
    (h : e.enqueueOutbound key mode index payload drops = .ok (.ok (.accepted i d), e')) :
    Counts .outbound drops 0 e.diagnostics e'.diagnostics := by
  unfold enqueueOutbound at h
  cases hf : e.flows.get? key with
  | none =>
    rw [hf] at h
    cases h
  | some flow =>
    rw [hf] at h
    obtain ⟨e₁, hadd, h⟩ := Checked.bind_eq_ok.mp h
    have hd := addPending_diagnostics hadd
    change e₁.diagnostics = e.diagnostics at hd
    cases h
    by_cases hdrops : drops > 0
    · refine ⟨fun hlt => ?_, fun dir hdir => ?_, fun _ => ?_⟩
      · simp only [if_pos hdrops] at hlt ⊢
        rw [← hd]
        exact Counts.saturating rfl hlt
      · simp only [if_pos hdrops]
        rw [← hd]
        cases dir with
        | outbound => exact absurd rfl hdir
        | inbound => rfl
      · simp only [if_pos hdrops]
        rw [← hd]
        rfl
    · obtain rfl : drops = 0 := by omega
      exact .of_eq hd

theorem taken_rejected (payload : List UInt8) {r : Except DeliveryOperationError SubmissionOutcome}
    (hr : ∀ index drops, r ≠ .ok (.accepted index drops)) :
    e.taken (.submit key payload) (.submitted r) = 0 := by
  unfold taken
  split
  · rename_i heq
    cases heq
    exact absurd rfl (hr _ _)
  · rename_i heq
    cases heq
  · rename_i heq
    cases heq
  · rfl

/-- A submission that is rejected before pressure matters. -/
theorem refused_settles (payload : List UInt8) {r : Except DeliveryOperationError SubmissionOutcome}
    (hr : ∀ index drops, r ≠ .ok (.accepted index drops))
    (hno : ¬ e.FutileSubmit key payload) :
    ∃ drops lost, Settles e e key (e.taken (.submit key payload) (.submitted r)) 0 drops 0 lost ∧
      (lost = 0 ↔ ¬ e.FutileSubmit key payload) := by
  rw [taken_rejected payload hr]
  exact ⟨0, 0, .idle rfl rfl, fun _ => hno, fun _ => rfl⟩

theorem submit_settles (hi : e.Inv L) (key : DeliveryFlowKey) (payload : List UInt8)
    {r : Except DeliveryOperationError SubmissionOutcome}
    (h : e.submit key payload = .ok (r, e')) :
    ∃ drops lost, Settles e e' key (e.taken (.submit key payload) (.submitted r)) 0 drops 0 lost ∧
      (lost = 0 ↔ ¬ e.FutileSubmit key payload) := by
  unfold submit at h
  split at h
  · rename_i hf
    cases h
    refine refused_settles payload (by simp) ?_
    rintro ⟨f, hf', -⟩
    rw [hf] at hf'
    cases hf'
  · rename_i f hf
    have hfutile : e.FutileSubmit key payload → key.direction = .outbound ∧
        payload.length ≤ f.policy.maxMessageBytes.get ∧ f.nextAcceptedIndex ≠ none ∧
        f.policy.outboundPressure = .evictOldestUnreliable ∧ f.outbound ≠ [] ∧
        ¬ e.FitsEmptied key f payload.length := by
      rintro ⟨g, hg, hrest⟩
      rw [hf] at hg
      cases hg
      exact hrest
    split at h
    · rename_i hd
      cases h
      exact refused_settles payload (by simp) fun hx => hd (hfutile hx).1
    · rename_i hd
      have hd' : key.direction = .outbound := not_not.mp hd
      split at h
      · rename_i hlen
        cases h
        exact refused_settles payload (by simp) fun hx => absurd (hfutile hx).2.1 (not_le.mpr hlen)
      · rename_i hlen
        split at h
        · rename_i hnext
          cases h
          exact refused_settles payload (by simp) fun hx => (hfutile hx).2.2.1 hnext
        · rename_i index hnext
          obtain ⟨fits, n, f', e₁, hx, hr, hfits, hfull⟩ :=
            outboundRoom_fits hi hf hd' payload.length
          rw [hx, Checked.ok_bind] at h
          have hok := hi.flows key f hf
          have hf' := hr.updated.get?
          have hok' := hr.updated.inv.flows key f' hf'
          have hmessages := hr.dropped.messages
          cases fits with
          | false =>
            cases h
            rcases hfull rfl with ⟨hp, rfl⟩ | ⟨hp, hempty, hno⟩
            · refine refused_settles payload (by simp) fun hx => ?_
              have hp' := (hfutile hx).2.2.2.1
              rw [hp] at hp'
              cases hp'
            · have hm : f.mode ≠ .reliableOrdered := fun hm => by
                have hp' := (reliable_policy (hm ▸ hok.policy)).1
                rw [hp] at hp'
                cases hp'
              have hwait : f.waiting = f.outbound.length := by
                rw [waiting_unreliable hm, FlowState.buffered, hok.shape.no_inbound hd',
                  List.append_nil]
              have hwait' : f'.waiting = 0 := by
                rw [waiting_unreliable (hr.dropped.mode ▸ hm), FlowState.buffered, hempty,
                  hok'.shape.no_inbound hd']
                rfl
              refine ⟨0, f.outbound.length, ?_, ?_⟩
              · rw [taken_rejected payload (by simp)]
                exact .insert hf hr.updated.flows (.of_eq hr.updated.diagnostics) (by omega)
              · rw [List.length_eq_zero_iff]
                constructor
                · exact fun ho hx => (hfutile hx).2.2.2.2.1 ho
                · intro hx
                  by_contra ho
                  exact hx ⟨f, hf, hd', not_lt.mp hlen, by simp [hnext], hp, ho, hno⟩
          | true =>
            obtain ⟨e₂, h₂, -, hflows⟩ := enqueueOutbound_spec hr.updated.inv hf' hd' index
              (min n usizeMax) (hr.room rfl)
            rw [hr.dropped.mode] at h₂
            simp only at h
            rw [h₂] at h
            cases h
            have hcounts := enqueueOutbound_counts h₂
            rw [hr.updated.diagnostics] at hcounts
            rw [hr.updated.flows, SortedMap.insert_insert_self] at hflows
            have hlimit := f.policy.maxPendingMessages.le_max
            have hle := hok.messages_le
            refine ⟨min n usizeMax, 0, .insert hf hflows (hd' ▸ hcounts) ?_,
              fun _ hx => (hfutile hx).2.2.2.2.2 (hfits rfl), fun _ => rfl⟩
            simp only [taken, unreliable_some hf]
            by_cases hm : f.mode = .reliableOrdered
            · obtain rfl := (hr.unchanged hm).2
              have hm' : (FlowState.enqueue f' index payload).mode = .reliableOrdered := hm
              rw [waiting_reliable hm, waiting_reliable hm', if_neg (by simpa using hm)]
              omega
            · have hm' : (FlowState.enqueue f' index payload).mode ≠ .reliableOrdered := by
                rw [← hr.dropped.mode] at hm
                exact hm
              have hlength : (FlowState.enqueue f' index payload).buffered.length =
                  f'.buffered.length + 1 := by
                simp only [FlowState.enqueue, FlowState.recount, FlowState.buffered,
                  List.length_append, List.length_cons, List.length_nil]
                omega
              rw [waiting_unreliable hm, waiting_unreliable hm', hlength, ← hok.messages,
                ← hok'.messages, if_pos (by simpa using hm)]
              omega

/-! ### Committing custody -/

theorem commit_settles (hi : e.Inv L) (key : DeliveryFlowKey) (acceptedIndex : Nat)
    {r : Except CustodyCommitError DeliveryTransfer}
    (h : e.commitOutboundCustody key acceptedIndex = .ok (r, e')) :
    Settles e e' key 0 (e.handled (.commitOutboundCustody key acceptedIndex) (.committed r))
      0 0 0 := by
  unfold commitOutboundCustody at h
  split at h
  · cases h
    exact .idle rfl rfl
  · rename_i hd
    split at h
    · cases h
      exact .idle rfl rfl
    · rename_i f hf
      split at h
      · cases h
        exact .idle rfl rfl
      · rename_i front rest ho
        split at h
        · cases h
          exact .idle rfl rfl
        · obtain ⟨e₁, he, hu⟩ := hi.popOutbound hf (not_not.mp hd) ho
          simp only at h
          rw [he, Checked.ok_bind] at h
          cases h
          refine .insert hf hu.flows (.of_eq hu.diagnostics) ?_
          simp only [handled, unreliable_some hf]
          by_cases hm : f.mode = .reliableOrdered
          · have hm' : (FlowState.recount { f with outbound := rest }).mode = .reliableOrdered := hm
            rw [waiting_reliable hm, waiting_reliable hm', if_neg (by simpa using hm)]
          · rw [if_pos (by simpa using hm)]
            refine waiting_recount hm ?_ ?_
            · rfl
            · simp only [FlowState.buffered, ho, List.length_append, List.length_cons]
              omega

/-! ### Exposing -/

/-- Whether a message was exposed, as a number. -/
def exposures : Except DeliveryOperationError (Option ExposedMessage) → Nat
  | .ok (some _) => 1
  | _ => 0

theorem handled_poll (r : Except DeliveryOperationError (Option ExposedMessage)) :
    e.handled (.pollExposure key) (.polled r) = if e.unreliable key then exposures r else 0 := by
  rcases r with err | _ | message
  · exact (ite_self 0).symm
  · exact (ite_self 0).symm
  · rfl

theorem waiting_pop (hm : f.mode ≠ .reliableOrdered) {t : DeliveryTransfer}
    {rest : List DeliveryTransfer} {last : Option Nat}
    (hr : f.receiver = .unreliable (t :: rest) last) :
    f.waiting + 0 =
      (FlowState.recount { f with receiver := .unreliable rest last }).waiting + 1 := by
  refine waiting_recount hm ?_ ?_
  · rfl
  · simp only [FlowState.buffered, hr, ReceiverBuffer.transfers, List.length_append,
      List.length_cons]
    omega

/-- The loop of a sequenced flow counts what it skips. -/
theorem pollSequenced_counts {bound : Nat} (hi : e.Inv L) (hf : e.flows.get? key = some f)
    (hd : key.direction = .inbound) (hm : f.mode ≠ .reliableOrdered)
    {queue : List DeliveryTransfer} {last : Option Nat} (hr : f.receiver = .unreliable queue last)
    {r : Except DeliveryOperationError (Option ExposedMessage)}
    (h : pollSequenced key bound e = .ok (r, e')) :
    ∃ f' stale, e'.flows = e.flows.insert key f' ∧
      Counts .inbound 0 stale e.diagnostics e'.diagnostics ∧
      f.waiting = f'.waiting + exposures r + stale := by
  induction bound generalizing e f queue with
  | zero => cases h
  | succ bound ih =>
    unfold pollSequenced at h
    cases queue with
    | nil =>
      rw [popInbound_empty hf hr, Checked.ok_bind] at h
      cases h
      exact ⟨f, 0, (SortedMap.insert_of_get? hf).symm, .of_eq rfl, rfl⟩
    | cons t rest =>
      obtain ⟨e₁, he, hu⟩ := popInbound_cons hi hf hd hr
      have hwait := waiting_pop hm hr
      have hflows : ∀ g : FlowState, e₁.flows.insert key g = e.flows.insert key g := fun g => by
        rw [hu.flows, SortedMap.insert_insert_self]
      rw [he, Checked.ok_bind] at h
      simp only [hu.get?] at h
      have hstale : (FlowState.recount { f with receiver := .unreliable rest last }).receiver.stale
          t.acceptedIndex = .ok (staleAfter last t) := rfl
      rw [hstale, Checked.ok_bind] at h
      by_cases hskip : staleAfter last t = true
      · rw [if_pos hskip] at h
        obtain ⟨f', stale, hf', hcounts, hwait'⟩ :=
          ih (countStale_inv hu.inv) hu.get? hm rfl h
        refine ⟨f', stale + 1, hf'.trans (hflows f'), ?_, ?_⟩
        · rw [← hu.diagnostics]
          exact hcounts.stale_cons
        · omega
      · rw [if_neg hskip] at h
        cases h
        let kept := FlowState.recount { f with receiver := .unreliable rest last }
        refine ⟨{ kept with receiver := .unreliable rest (some t.acceptedIndex) }, 0,
          hflows _, .of_eq hu.diagnostics, hwait⟩

theorem removePending_diagnostics {messages bytes : Nat}
    (h : e.removePending key messages bytes = .ok e') : e'.diagnostics = e.diagnostics := by
  unfold removePending at h
  obtain ⟨flow, -, h⟩ := Checked.bind_eq_ok.mp h
  obtain ⟨pendingMessages, -, h⟩ := Checked.bind_eq_ok.mp h
  obtain ⟨pendingPayloadBytes, -, h⟩ := Checked.bind_eq_ok.mp h
  obtain ⟨connections, -, h⟩ := Checked.bind_eq_ok.mp h
  obtain ⟨usage, -, h⟩ := Checked.bind_eq_ok.mp h
  obtain ⟨sessions, -, h⟩ := Checked.bind_eq_ok.mp h
  cases h
  rfl

theorem pollReliableExposure_diagnostics {r : Except DeliveryOperationError (Option ExposedMessage)}
    (h : e.pollReliableExposure key = .ok (r, e')) : e'.diagnostics = e.diagnostics := by
  unfold pollReliableExposure at h
  split at h
  · cases h
    rfl
  · split at h
    · cases h
    · cases h
      rfl
    · split at h
      · cases h
        rfl
      · obtain ⟨e₁, hremove, h⟩ := Checked.bind_eq_ok.mp h
        cases h
        have hd := removePending_diagnostics hremove
        exact hd

/-- What stays reliable, or ends, has no unreliable messages to account for. -/
theorem Settles.reliable (hf : e.flows.get? key = some f) (hm : f.mode = .reliableOrdered)
    (hflows : e'.flows = e.flows ∨ e'.flows = e.flows.erase key ∨
      ∃ f', f'.mode = .reliableOrdered ∧ e'.flows = e.flows.insert key f')
    (hcounts : Counts key.direction 0 0 e.diagnostics e'.diagnostics) :
    Settles e e' key 0 0 0 0 0 := by
  have hwait : e.waiting key = 0 := (waiting_some hf).trans (waiting_reliable hm)
  rcases hflows with hflows | hflows | ⟨f', hm', hflows⟩
  · refine ⟨fun k _ => by rw [hflows], hcounts, ?_⟩
    have hf' : e'.flows.get? key = some f := by rw [hflows, hf]
    rw [hwait, discarded_some hf', waiting_some hf', waiting_reliable hm]
  · refine ⟨fun k hk => by rw [hflows, SortedMap.get?_erase_ne _ hk], hcounts, ?_⟩
    have hf' : e'.flows.get? key = none := by rw [hflows, SortedMap.get?_erase_self]
    rw [discarded_none hf', hwait, waiting_none hf']
  · exact .insert hf hflows hcounts (by rw [waiting_reliable hm, waiting_reliable hm'])

theorem poll_settles (hi : e.Inv L) (key : DeliveryFlowKey)
    {r : Except DeliveryOperationError (Option ExposedMessage)}
    (h : e.pollExposure key = .ok (r, e')) :
    ∃ stale, Settles e e' key 0 (e.handled (.pollExposure key) (.polled r)) 0 stale 0 := by
  rw [handled_poll]
  unfold pollExposure at h
  split at h
  · cases h
    refine ⟨0, ?_⟩
    rw [show exposures (.error .wrongDirection) = 0 from rfl, ite_self]
    exact .idle rfl rfl
  · rename_i hd
    have hd' : key.direction = .inbound := not_not.mp hd
    split at h
    · cases h
      refine ⟨0, ?_⟩
      rw [show exposures (.error .unknownFlow) = 0 from rfl, ite_self]
      exact .idle rfl rfl
    · rename_i f hf
      rw [unreliable_some hf]
      split at h
      · rename_i hm
        obtain ⟨r', e₁, h', -, hp⟩ := pollReliableExposure_spec hi hf hd' hm
        rw [h] at h'
        cases h'
        rw [if_neg (by simpa using hm)]
        refine ⟨0, .reliable hf hm ?_ (.of_eq (pollReliableExposure_diagnostics h))⟩
        cases hp with
        | waiting he => exact .inl (by rw [he])
        | exposed hr ht hflows =>
          refine .inr (.inr ⟨_, ?_, hflows⟩)
          exact hm
      · rename_i hm
        have hm' : f.mode ≠ .reliableOrdered := by
          rw [hm]
          exact DeliveryMode.noConfusion
        rw [if_pos (by simpa using hm')]
        obtain ⟨queue, last, hr⟩ := (hi.flows key f hf).unreliable hm'
        unfold pollUnorderedExposure at h
        cases queue with
        | nil =>
          rw [popInbound_empty hf hr, Checked.ok_bind] at h
          cases h
          exact ⟨0, .idle rfl rfl⟩
        | cons t rest =>
          obtain ⟨e₁, he, hu⟩ := popInbound_cons hi hf hd' hr
          rw [he, Checked.ok_bind] at h
          cases h
          refine ⟨0, .insert hf hu.flows (.of_eq hu.diagnostics) ?_⟩
          exact waiting_pop hm' hr
      · rename_i hm
        have hm' : f.mode ≠ .reliableOrdered := by
          rw [hm]
          exact DeliveryMode.noConfusion
        rw [if_pos (by simpa using hm')]
        obtain ⟨queue, last, hr⟩ := (hi.flows key f hf).unreliable hm'
        unfold pollSequencedExposure at h
        rw [hf] at h
        obtain ⟨f', stale, hflows, hcounts, hwait⟩ := pollSequenced_counts hi hf hd' hm' hr h
        exact ⟨stale, .insert hf hflows (hd' ▸ hcounts) (by omega)⟩

/-! ### Receiving -/

theorem terminateFlow_diagnostics {reason : FlowTerminationReason}
    {r : Except DeliveryOperationError FlowTermination}
    (h : e.terminateFlow key reason = .ok (r, e')) : e'.diagnostics = e.diagnostics := by
  unfold terminateFlow at h
  split at h
  · cases h
    rfl
  · obtain ⟨usage, -, h⟩ := Checked.bind_eq_ok.mp h
    obtain ⟨connections, -, h⟩ := Checked.bind_eq_ok.mp h
    obtain ⟨sessions, -, h⟩ := Checked.bind_eq_ok.mp h
    cases h
    rfl

theorem dropFlow_diagnostics {reason : FlowTerminationReason}
    (h : e.dropFlow key reason = .ok e') : e'.diagnostics = e.diagnostics := by
  unfold dropFlow at h
  obtain ⟨⟨r, e₁⟩, hterminate, h⟩ := Checked.bind_eq_ok.mp h
  cases h
  exact terminateFlow_diagnostics hterminate

/-- Receiving reliably counts duplicates at most. -/
theorem receiveReliable_counts {transfer : DeliveryTransfer}
    {r : Except DeliveryOperationError ReceiveOutcome}
    (h : e.receiveReliable key transfer = .ok (r, e')) (direction : FlowDirection) :
    Counts direction 0 0 e.diagnostics e'.diagnostics := by
  unfold receiveReliable at h
  split at h
  · cases h
    exact .of_eq rfl
  · split at h
    · cases h
    · split at h
      · obtain ⟨e₁, hdrop, h⟩ := Checked.bind_eq_ok.mp h
        cases h
        exact .of_eq (dropFlow_diagnostics hdrop)
      · cases h
        refine .of_same (fun d => ?_) rfl
        cases d with
        | outbound => rfl
        | inbound => rfl
      · obtain ⟨fits, -, h⟩ := Checked.bind_eq_ok.mp h
        split at h
        · cases h
          exact .of_eq rfl
        · obtain ⟨e₁, hdrop, h⟩ := Checked.bind_eq_ok.mp h
          cases h
          exact .of_eq (dropFlow_diagnostics hdrop)
        · obtain ⟨-, -, h⟩ := Checked.bind_eq_ok.mp h
          obtain ⟨e₁, hadd, h⟩ := Checked.bind_eq_ok.mp h
          cases h
          have hd := addPending_diagnostics hadd
          exact .of_eq hd

theorem enqueueInbound_counts {transfer : DeliveryTransfer} {drops d : Nat}
    (h : e.enqueueInbound key transfer drops = .ok (.ok (.buffered d), e')) :
    Counts .inbound drops 0 e.diagnostics e'.diagnostics := by
  unfold enqueueInbound at h
  split at h
  · cases h
  · split at h
    · cases h
    · obtain ⟨e₁, hadd, h⟩ := Checked.bind_eq_ok.mp h
      have hd := addPending_diagnostics hadd
      change e₁.diagnostics = e.diagnostics at hd
      cases h
      rw [← hd]
      by_cases hdrops : drops > 0
      · rw [if_pos hdrops]
        exact .inbound e₁ drops
      · obtain rfl : drops = 0 := by omega
        exact .of_eq rfl

theorem receiveUnreliable_settles (hi : e.Inv L) (hf : e.flows.get? key = some f)
    (hd : key.direction = .inbound) (hm : f.mode ≠ .reliableOrdered) (transfer : DeliveryTransfer)
    (sequenced : Bool) {r : Except DeliveryOperationError ReceiveOutcome}
    (h : e.receiveUnreliable key transfer sequenced = .ok (r, e')) :
    ∃ drops stale, Settles e e' key 1 0 drops stale 0 := by
  have hok := hi.flows key f hf
  obtain ⟨queue, last, hr⟩ := hok.unreliable hm
  have hstale : f.receiver.staleFor sequenced transfer.acceptedIndex
      = .ok (sequenced && last.any (transfer.acceptedIndex ≤ ·)) := by
    rw [hr]
    cases sequenced <;> rfl
  unfold receiveUnreliable at h
  rw [hf] at h
  simp only at h
  rw [hstale, Checked.ok_bind] at h
  split at h
  · cases h
    have hflows : e.countStale.flows = e.flows.insert key f := (SortedMap.insert_of_get? hf).symm
    exact ⟨0, 1, .insert hf hflows (Counts.of_eq rfl).stale_cons (by omega)⟩
  · obtain ⟨fits, n, f', e₁, hx, hu, hdrop, hroom⟩ :=
      inboundRoom_spec hi hf hd hm transfer.payloadLen
    rw [hx, Checked.ok_bind] at h
    have hf' := hu.get?
    have hok' := hu.inv.flows key f' hf'
    have hm' : f'.mode ≠ .reliableOrdered := hdrop.mode ▸ hm
    have hwait : f.waiting = f'.waiting + n := by
      rw [waiting_unreliable hm, waiting_unreliable hm', ← hok.messages, ← hok'.messages]
      exact hdrop.messages.symm
    have hlimit := f.policy.maxPendingMessages.le_max
    have hle := hok.messages_le
    have hn := hdrop.messages
    cases fits with
    | false =>
      cases h
      have hcounts := Counts.inbound_dropped e₁ n
      rw [hu.diagnostics] at hcounts
      have hflows : (e₁.countInboundDrops (saturatingAdd usizeMax (min n usizeMax) 1)).flows =
          e.flows.insert key f' := hu.flows
      exact ⟨n + 1, 0, .insert hf hflows (hd ▸ hcounts) (by omega)⟩
    | true =>
      obtain ⟨queue', hr'⟩ : ∃ queue', f'.receiver = .unreliable queue' last := by
        rcases hdrop.receiver with hsame | ⟨l, q, last', h1, h2⟩
        · exact ⟨queue, hsame.trans hr⟩
        · rw [hr] at h1
          cases h1
          exact ⟨q, h2⟩
      obtain ⟨e₂, h₂, -, hflows⟩ := enqueueInbound_spec hu.inv hf' hd hr' transfer
        (min n usizeMax) (hroom rfl)
      simp only at h
      rw [h₂] at h
      cases h
      have hcounts := enqueueInbound_counts h₂
      rw [hu.diagnostics] at hcounts
      rw [hu.flows, SortedMap.insert_insert_self] at hflows
      have hmin : min n usizeMax = n := by omega
      have hpush : f'.waiting + 1 = (FlowState.recount
          { f' with receiver := .unreliable (queue' ++ [transfer]) last }).waiting + 0 := by
        refine waiting_recount hm' ?_ ?_
        · rfl
        · simp only [FlowState.buffered, hr', ReceiverBuffer.transfers, List.length_append,
            List.length_cons, List.length_nil]
          omega
      exact ⟨min n usizeMax, 0, .insert hf hflows (hd ▸ hcounts) (by omega)⟩

theorem admissible_some (hf : e.flows.get? key = some f) (hd : key.direction = .inbound)
    (transfer : DeliveryTransfer) : e.admissible key transfer = true ↔
      f.mode ≠ .reliableOrdered ∧ transfer.mode = f.mode ∧
        transfer.payloadLen ≤ f.policy.maxMessageBytes.get := by
  unfold admissible
  rw [hf]
  simp [hd, and_assoc]

/-- A transfer that is not admissible is not counted. -/
theorem inadmissible (transfer : DeliveryTransfer) (hno : ¬ e.admissible key transfer = true)
    (h : Settles e e' key 0 0 0 0 0) :
    ∃ drops stale, Settles e e' key (if e.admissible key transfer then 1 else 0) 0
      drops stale 0 := by
  rw [if_neg hno]
  exact ⟨0, 0, h⟩

theorem receive_counts_reliable (hf : e.flows.get? key = some f) (hm : f.mode = .reliableOrdered)
    {transfer : DeliveryTransfer} {r : Except DeliveryOperationError ReceiveOutcome}
    (h : e.receive key transfer = .ok (r, e')) (direction : FlowDirection) :
    Counts direction 0 0 e.diagnostics e'.diagnostics := by
  unfold receive at h
  split at h
  · cases h
    exact .of_eq rfl
  · rw [hf] at h
    simp only [if_pos hm] at h
    split at h
    · obtain ⟨e₁, hdrop, h⟩ := Checked.bind_eq_ok.mp h
      cases h
      exact .of_eq (dropFlow_diagnostics hdrop)
    · split at h
      · obtain ⟨e₁, hdrop, h⟩ := Checked.bind_eq_ok.mp h
        cases h
        exact .of_eq (dropFlow_diagnostics hdrop)
      · rw [hm] at h
        exact receiveReliable_counts h direction

theorem receive_settles (hi : e.Inv L) (key : DeliveryFlowKey) (transfer : DeliveryTransfer)
    {r : Except DeliveryOperationError ReceiveOutcome}
    (h : e.receive key transfer = .ok (r, e')) :
    ∃ drops stale, Settles e e' key (if e.admissible key transfer then 1 else 0) 0
      drops stale 0 := by
  cases hf : e.flows.get? key with
  | none =>
    have hno : ¬ e.admissible key transfer = true := by
      unfold admissible
      rw [hf]
      simp
    unfold receive at h
    rw [hf] at h
    simp only at h
    split at h
    · cases h
      exact inadmissible transfer hno (.idle rfl rfl)
    · cases h
      exact inadmissible transfer hno (.idle rfl rfl)
  | some f =>
    by_cases hm : f.mode = .reliableOrdered
    · have hno : ¬ e.admissible key transfer = true := by
        unfold admissible
        rw [hf]
        simp [hm]
      obtain ⟨r', e₁, h', -, hx⟩ := receive_spec hi key transfer
      rw [h] at h'
      cases h'
      refine inadmissible transfer hno
        (.reliable hf hm ?_ (receive_counts_reliable hf hm h key.direction))
      cases hx with
      | refused hb ht hflows => exact .inl hflows
      | reliable hg hd hm' hx hfit =>
        rw [hf] at hg
        cases hg
        cases hx with
        | duplicate hr hdup hflows => exact .inl hflows
        | failed hr ht hflows => exact .inr (.inl hflows)
        | buffered hr hdup hroom hflows =>
          refine .inr (.inr ⟨_, ?_, hflows⟩)
          exact hm
      | unreliable hg hd hm' hmode hlen hx =>
        rw [hf] at hg
        cases hg
        exact absurd hm hm'
    · unfold receive at h
      rw [hf] at h
      split at h
      · rename_i hd
        cases h
        refine inadmissible transfer (fun ha => ?_) (.idle rfl rfl)
        unfold admissible at ha
        simp [hd] at ha
      · rename_i hd
        have hd' : key.direction = .inbound := not_not.mp hd
        have hiff := admissible_some hf hd' transfer
        simp only [if_neg hm] at h
        split at h
        · rename_i hmode
          cases h
          exact inadmissible transfer (fun ha => hmode (hiff.mp ha).2.1) (.idle rfl rfl)
        · rename_i hmode
          split at h
          · rename_i hlen
            cases h
            exact inadmissible transfer (fun ha => absurd (hiff.mp ha).2.2 (not_le.mpr hlen))
              (.idle rfl rfl)
          · rename_i hlen
            rw [if_pos (hiff.mpr ⟨hm, not_not.mp hmode, not_lt.mp hlen⟩)]
            split at h
            · rename_i hm'
              exact absurd hm' hm
            · exact receiveUnreliable_settles hi hf hd' hm transfer false h
            · exact receiveUnreliable_settles hi hf hd' hm transfer true h

theorem receivePayload_settles (hi : e.Inv L) (key : DeliveryFlowKey) (acceptedIndex : Nat)
    (payload : List UInt8) {r : Except DeliveryOperationError ReceiveOutcome}
    (h : e.receiveTransportPayload key acceptedIndex payload = .ok (r, e')) :
    ∃ drops stale, Settles e e' key
      (e.taken (.receiveTransportPayload key acceptedIndex payload) (.received r)) 0
      drops stale 0 := by
  unfold receiveTransportPayload at h
  cases hf : e.flows.get? key with
  | none =>
    rw [hf] at h
    simp only at h
    simp only [taken, hf]
    split at h
    · cases h
      exact ⟨0, 0, .idle rfl rfl⟩
    · cases h
      exact ⟨0, 0, .idle rfl rfl⟩
  | some f =>
    rw [hf] at h
    simp only at h
    simp only [taken, hf]
    split at h
    · rename_i hd
      cases h
      refine inadmissible _ (fun ha => ?_) (.idle rfl rfl)
      unfold admissible at ha
      simp [hd] at ha
    · exact receive_settles hi key _ h

/-! ### Establishing and ending -/

theorem establishFlow_settles (hi : e.Inv L) (key : DeliveryFlowKey) (mode : DeliveryMode)
    (policy : FlowResourcePolicy) (limits : DeliveryScopeLimits)
    {r : Except FlowEstablishmentError Unit}
    (h : e.establishFlow key mode policy limits = .ok (r, e')) : Settles e e' key 0 0 0 0 0 := by
  have hd : e'.diagnostics = e.diagnostics := by
    unfold establishFlow at h
    split at h
    · cases h
      rfl
    · split at h
      · cases h
        rfl
      · split at h
        · cases h
          rfl
        · split at h
          · cases h
            rfl
          · obtain ⟨usage, -, h⟩ := Checked.bind_eq_ok.mp h
            obtain ⟨connections, -, h⟩ := Checked.bind_eq_ok.mp h
            cases h
            rfl
  obtain ⟨r', e₁, h', -, ⟨-, rfl⟩ | ⟨-, -, hnone, hflows⟩⟩ :=
    establishFlow_spec hi key mode policy limits
  · rw [h] at h'
    cases h'
    exact .idle rfl rfl
  · rw [h] at h'
    cases h'
    have hf' : e'.flows.get? key = some (.new mode policy) := by
      rw [hflows, SortedMap.get?_insert_self]
    have hnew : (FlowState.new mode policy).waiting = 0 := by cases mode <;> rfl
    refine ⟨fun k hk => by rw [hflows, SortedMap.get?_insert_ne _ _ hk], .of_eq hd, ?_⟩
    rw [waiting_none hnone, waiting_some hf', discarded_some hf', hnew]

theorem associate_settles (hi : e.Inv L) (key : DeliveryFlowKey) (session : Session)
    (limits : DeliveryScopeLimits)
    {r : Except SessionAssociationError SessionAssociationOutcome}
    (h : e.associateFlowWithSession key session limits = .ok (r, e')) :
    Settles e e' key 0 0 0 0 0 := by
  have hd : e'.diagnostics = e.diagnostics := by
    unfold associateFlowWithSession at h
    split at h
    · cases h
      rfl
    · split at h
      · cases h
        rfl
      · split at h
        · split at h
          · cases h
            rfl
          · obtain ⟨state, -, h⟩ := Checked.bind_eq_ok.mp h
            split at h
            · cases h
              rfl
            · cases h
              rfl
        · simp only at h
          split at h
          · cases h
            rfl
          · obtain ⟨sessions, -, h⟩ := Checked.bind_eq_ok.mp h
            cases h
            rfl
  obtain ⟨r', e₁, h', -, rfl | ⟨f, hf, -, -, hflows⟩⟩ :=
    associateFlowWithSession_spec hi key session limits
  · rw [h] at h'
    cases h'
    exact .idle rfl rfl
  · rw [h] at h'
    cases h'
    exact .insert hf hflows (.of_eq hd) rfl

theorem terminated_settles {reason : FlowTerminationReason}
    {r : Except DeliveryOperationError FlowTermination} (h : Terminated L e e' key reason r) :
    Settles e e' key 0 0 0 0 0 := by
  rcases h with ⟨-, rfl⟩ | ⟨f, -, -, hr⟩
  · exact .idle rfl rfl
  · exact .erase hr.flows hr.diagnostics

theorem terminateKeys_diagnostics {keys : List DeliveryFlowKey} {reports : List FlowTermination}
    (h : terminateKeys keys e = .ok (reports, e')) : e'.diagnostics = e.diagnostics := by
  induction keys generalizing e e' reports with
  | nil =>
    cases h
    rfl
  | cons key keys ih =>
    unfold terminateKeys at h
    obtain ⟨⟨r, e₁⟩, h₁, h⟩ := Checked.bind_eq_ok.mp h
    obtain ⟨⟨rest, e₂⟩, h₂, h⟩ := Checked.bind_eq_ok.mp h
    have hd : e₂.diagnostics = e.diagnostics := (ih h₂).trans (terminateFlow_diagnostics h₁)
    cases r with
    | ok termination =>
      cases h
      exact hd
    | error err =>
      cases h
      exact hd

/-- Ending a connection discards what waits in each of its flows. -/
theorem removed_settles {keys : List DeliveryFlowKey} {reports : List FlowTermination}
    (h : KeysRemoved L e e' keys reports) (hkeys : key ∈ keys) :
    e.waiting key = e'.waiting key + e.discarded e' key := by
  rw [waiting_none (h.gone key hkeys), discarded_none (h.gone key hkeys), Nat.zero_add]

end DeliveryEndpoint

end RunenNet
