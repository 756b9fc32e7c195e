import RunenNet.Core.Delivery.Effects

/-!
# What committing, receiving and exposing do

The remaining operations of the endpoint: custody commits, the two receive paths and the three
ways to expose a message.
-/

namespace RunenNet

open Foundation

namespace DeliveryEndpoint

variable {L : DeliveryScopeLimits} {e : DeliveryEndpoint} {key : DeliveryFlowKey} {f : FlowState}

/-! ### Custody -/

/-- The front of the outbound queue left into the transport's custody. -/
def CustodyCommitted (e e' : DeliveryEndpoint) (key : DeliveryFlowKey) (acceptedIndex : Nat)
    (r : Except CustodyCommitError DeliveryTransfer) : Prop :=
  ((∃ err, r = .error err) ∧ e' = e) ∨
  ∃ f front rest, e.flows.get? key = some f ∧ key.direction = .outbound ∧
    f.outbound = front :: rest ∧ front.acceptedIndex = acceptedIndex ∧ r = .ok front ∧
    e'.flows = e.flows.insert key { f with outbound := rest }.recount

theorem commitOutboundCustody_spec (hi : e.Inv L) (key : DeliveryFlowKey) (acceptedIndex : Nat) :
    ∃ r e', e.commitOutboundCustody key acceptedIndex = .ok (r, e') ∧ e'.Inv L ∧
      CustodyCommitted e e' key acceptedIndex r := by
  unfold commitOutboundCustody
  split
  · exact ⟨_, e, rfl, hi, .inl ⟨⟨_, rfl⟩, rfl⟩⟩
  · rename_i hd
    split
    · exact ⟨_, e, rfl, hi, .inl ⟨⟨_, rfl⟩, rfl⟩⟩
    · rename_i f hf
      split
      · exact ⟨_, e, rfl, hi, .inl ⟨⟨_, rfl⟩, rfl⟩⟩
      · rename_i front rest ho
        split
        · exact ⟨_, e, rfl, hi, .inl ⟨⟨_, rfl⟩, rfl⟩⟩
        · rename_i hindex
          have hd' : key.direction = .outbound := by simpa using hd
          obtain ⟨e', he, hu⟩ := hi.popOutbound hf hd' ho
          simp only [he, Checked.ok_bind, Checked.pure_eq]
          exact ⟨_, e', rfl, hu.inv, .inr ⟨f, front, rest, hf, hd', ho, by simpa using hindex, rfl,
            hu.flows⟩⟩

/-! ### Receiving reliably -/

theorem countDuplicate_inv (hi : e.Inv L) : e.countDuplicate.Inv L :=
  ⟨hi.limits, ⟨hi.accounted.aggregate, hi.accounted.connections, hi.accounted.sessions⟩, hi.flows⟩

theorem countStale_inv (hi : e.Inv L) : e.countStale.Inv L :=
  ⟨hi.limits, ⟨hi.accounted.aggregate, hi.accounted.connections, hi.accounted.sessions⟩, hi.flows⟩

theorem countInboundDrops_inv (hi : e.Inv L) (drops : Nat) : (e.countInboundDrops drops).Inv L :=
  ⟨hi.limits, ⟨hi.accounted.aggregate, hi.accounted.connections, hi.accounted.sessions⟩, hi.flows⟩

/-- Why receiving a transfer terminates the reliable flow. -/
def ReceiveFails (e : DeliveryEndpoint) (key : DeliveryFlowKey) (f : FlowState)
    (transfer : DeliveryTransfer) : FlowTerminationReason → Prop
  | .reliableModeMismatch => transfer.mode ≠ f.mode
  | .reliableInboundTooLarge => f.policy.maxMessageBytes.get < transfer.payloadLen
  | .reliableTransferConflict => ∃ byIndex next, f.receiver = .reliable byIndex next ∧
      duplicateOrConflict byIndex next transfer = some true
  | .reliableReceiverPressure => ¬ e.HasRoom key f 1 transfer.payloadLen
  | _ => False

/-- The flow after a reliable receiver buffered the transfer. -/
def FlowState.bufferReliable (f : FlowState) (byIndex : SortedMap Nat DeliveryTransfer)
    (next : Option Nat) (transfer : DeliveryTransfer) : FlowState :=
  FlowState.recount
    { f with receiver := .reliable (byIndex.insert transfer.acceptedIndex transfer) next }

/-- What receiving on a reliable flow does. -/
inductive ReceivedReliable (e e' : DeliveryEndpoint) (key : DeliveryFlowKey) (f : FlowState)
    (transfer : DeliveryTransfer) : Except DeliveryOperationError ReceiveOutcome → Prop where
  | duplicate {byIndex next} : f.receiver = .reliable byIndex next →
      duplicateOrConflict byIndex next transfer = some false → e'.flows = e.flows →
      ReceivedReliable e e' key f transfer (.ok .duplicateReliable)
  | failed {reason} : ReceiveFails e key f transfer reason →
      e.terminateFlow key reason = .ok (.ok (terminationOf key f reason), e') →
      e'.flows = e.flows.erase key → ReceivedReliable e e' key f transfer (.ok .terminalReliableFailure)
  | buffered {byIndex next} : f.receiver = .reliable byIndex next →
      duplicateOrConflict byIndex next transfer = none →
      e.HasRoom key f 1 transfer.payloadLen →
      e'.flows = e.flows.insert key (FlowState.bufferReliable f byIndex next transfer) →
      ReceivedReliable e e' key f transfer (.ok (.buffered 0))

theorem duplicateOrConflict_none {byIndex : SortedMap Nat DeliveryTransfer} {next : Option Nat}
    {transfer : DeliveryTransfer} (h : duplicateOrConflict byIndex next transfer = none) :
    byIndex.get? transfer.acceptedIndex = none ∧ ∃ n, next = some n ∧ n ≤ transfer.acceptedIndex := by
  unfold duplicateOrConflict at h
  split at h
  · cases h
  · rename_i hn
    refine ⟨by simpa using h, ?_⟩
    cases next with
    | none => exact absurd rfl hn
    | some n => exact ⟨n, rfl, not_lt.mp (by simpa using hn)⟩

theorem drop_failed (hi : e.Inv L) (hf : e.flows.get? key = some f) {transfer : DeliveryTransfer}
    {reason : FlowTerminationReason} (hr : ReceiveFails e key f transfer reason) :
    ∃ e', e.dropFlow key reason = .ok e' ∧ e'.Inv L ∧
      ReceivedReliable e e' key f transfer (.ok .terminalReliableFailure) := by
  obtain ⟨e', h, hrem⟩ := terminateFlow_spec hi hf reason
  exact ⟨e', by simp only [dropFlow, h, Checked.ok_bind, Checked.pure_eq], hrem.inv,
    .failed hr h hrem.flows⟩

theorem receiveReliable_spec (hi : e.Inv L) (hf : e.flows.get? key = some f)
    (hd : key.direction = .inbound) (hm : f.mode = .reliableOrdered) (transfer : DeliveryTransfer) :
    ∃ r e', e.receiveReliable key transfer = .ok (r, e') ∧ e'.Inv L ∧
      ReceivedReliable e e' key f transfer r := by
  have hok := hi.flows key f hf
  obtain ⟨byIndex, next, hr⟩ := hok.reliable hm
  simp only [receiveReliable, hf, hr]
  cases hdup : duplicateOrConflict byIndex next transfer with
  | some conflict =>
    cases conflict with
    | true =>
      obtain ⟨e', h, hi', hrec⟩ := drop_failed hi hf
        (show ReceiveFails e key f transfer .reliableTransferConflict from ⟨_, _, hr, hdup⟩)
      simp only [h, Checked.ok_bind, Checked.pure_eq]
      exact ⟨_, e', rfl, hi', hrec⟩
    | false => exact ⟨_, _, rfl, countDuplicate_inv hi, .duplicate hr hdup rfl⟩
  | none =>
    obtain ⟨fits, hc, hroom⟩ := canAddPending_ok hi.accounted hf 1 transfer.payloadLen
    cases fits with
    | false =>
      have hfull : ¬ e.HasRoom key f 1 transfer.payloadLen := fun h => by cases hroom.mpr h
      obtain ⟨e', h, hi', hrec⟩ := drop_failed hi hf
        (show ReceiveFails e key f transfer .reliableReceiverPressure from hfull)
      simp only [hc, h, Checked.ok_bind, Checked.pure_eq]
      exact ⟨_, e', rfl, hi', hrec⟩
    | true =>
      obtain ⟨hnone, -⟩ := duplicateOrConflict_none hdup
      obtain ⟨e', he, hu⟩ := hi.admit hf
        { f with receiver := .reliable (byIndex.insert transfer.acceptedIndex transfer) next }
        transfer ⟨rfl, rfl, rfl, rfl, rfl⟩
        ⟨hm, hok.shape.no_outbound, fun h => absurd h (by rw [hd]; exact nofun)⟩
        (by
          simp only [FlowState.buffered, hok.shape.no_outbound hd, hr, List.nil_append,
            ReceiverBuffer.transfers]
          have := (byIndex.insert_perm transfer.acceptedIndex transfer).map Prod.snd
          rwa [SortedMap.erase_of_get?_none hnone] at this) (hroom.mp rfl)
      simp only [hc, hnone, Option.isNone_none, Checked.assert_true, Checked.ok_bind, he,
        Checked.pure_eq]
      exact ⟨_, e', rfl, hu.inv, .buffered hr hdup (hroom.mp rfl) hu.flows⟩

/-! ### Receiving unreliably -/

/-- What receiving on an unreliable flow does: the transfer is stale, dropped, or buffered after
the `n` oldest made room. -/
inductive ReceivedUnreliable (e e' : DeliveryEndpoint) (key : DeliveryFlowKey) (f : FlowState)
    (transfer : DeliveryTransfer) (sequenced : Bool) :
    Except DeliveryOperationError ReceiveOutcome → Prop where
  | stale {queue last} : sequenced = true → f.receiver = .unreliable queue last →
      last.any (transfer.acceptedIndex ≤ ·) = true → e'.flows = e.flows →
      ReceivedUnreliable e e' key f transfer sequenced (.ok .staleSequenced)
  | dropped {f' n} : Dropped f f' n → e'.flows = e.flows.insert key f' →
      ReceivedUnreliable e e' key f transfer sequenced
        (.ok (.droppedByPressure (saturatingAdd usizeMax (min n usizeMax) 1)))
  | buffered {f' n queue last} : Dropped f f' n → f'.receiver = .unreliable queue last →
      (sequenced = true → last.any (transfer.acceptedIndex ≤ ·) = false) →
      e'.flows = e.flows.insert key
        { f' with receiver := .unreliable (queue ++ [transfer]) last }.recount →
      ReceivedUnreliable e e' key f transfer sequenced (.ok (.buffered (min n usizeMax)))

theorem inboundRoom_spec (hi : e.Inv L) (hf : e.flows.get? key = some f)
    (hd : key.direction = .inbound) (hm : f.mode ≠ .reliableOrdered) (bytes : Nat) :
    ∃ fits n f' e', e.inboundRoom key f bytes = .ok (.ok (fits, min n usizeMax), e') ∧
      Updated L e e' key f' ∧ Dropped f f' n ∧ (fits = true → e'.HasRoom key f' 1 bytes) := by
  obtain ⟨fits, hc, hroom⟩ := canAddPending_ok hi.accounted hf 1 bytes
  cases fits with
  | true =>
    refine ⟨true, 0, f, e, ?_, .refl hi hf, .refl f, fun _ => hroom.mp rfl⟩
    simp only [inboundRoom, hc, Checked.ok_bind, Checked.pure_eq, Nat.zero_min]
  | false =>
    cases hp : f.policy.receiverPressure with
    | terminateReliable => exact absurd hp (unreliable_policy hm (hi.flows key f hf).policy)
    | dropIncomingUnreliable =>
      refine ⟨false, 0, f, e, ?_, .refl hi hf, .refl f, nofun⟩
      simp only [inboundRoom, hc, hp, Checked.ok_bind, Checked.pure_eq, Nat.zero_min]
    | evictOldestBufferedUnreliable =>
      obtain ⟨fits, n, f', e', hx, hrest⟩ := evictUntilRoom_spec
        (evictOldestInboundUnreliable_drops hd) bytes hi hf hm (Nat.lt_succ_self _) (Nat.zero_le _)
      refine ⟨fits, n, f', e', ?_, hrest⟩
      simp only [inboundRoom, hc, hp, Checked.ok_bind, hx, Nat.zero_add]

theorem enqueueInbound_spec (hi : e.Inv L) (hf : e.flows.get? key = some f)
    (hd : key.direction = .inbound) {queue : List DeliveryTransfer} {last : Option Nat}
    (hr : f.receiver = .unreliable queue last) (transfer : DeliveryTransfer) (drops : Nat)
    (hroom : e.HasRoom key f 1 transfer.payloadLen) :
    ∃ e', e.enqueueInbound key transfer drops = .ok (.ok (.buffered drops), e') ∧ e'.Inv L ∧
      e'.flows = e.flows.insert key
        { f with receiver := .unreliable (queue ++ [transfer]) last }.recount := by
  have hs := (hi.flows key f hf).shape
  have hfit := hs.receiver
  rw [hr] at hfit
  obtain ⟨e', he, hu⟩ := hi.admit hf { f with receiver := .unreliable (queue ++ [transfer]) last }
    transfer ⟨rfl, rfl, rfl, rfl, rfl⟩
    ⟨hfit, hs.no_outbound, fun h => absurd h (by rw [hd]; exact nofun)⟩
    (by
      simp only [FlowState.buffered, hs.no_outbound hd, hr, List.nil_append,
        ReceiverBuffer.transfers]
      exact List.perm_append_singleton _ _) hroom
  simp only [enqueueInbound, hf, hr, he, Checked.ok_bind, Checked.pure_eq]
  split
  · exact ⟨_, rfl, countInboundDrops_inv hu.inv drops, hu.flows⟩
  · exact ⟨_, rfl, hu.inv, hu.flows⟩

theorem receiveUnreliable_spec (hi : e.Inv L) (hf : e.flows.get? key = some f)
    (hd : key.direction = .inbound) (hm : f.mode ≠ .reliableOrdered) (transfer : DeliveryTransfer)
    (sequenced : Bool) :
    ∃ r e', e.receiveUnreliable key transfer sequenced = .ok (r, e') ∧ e'.Inv L ∧
      ReceivedUnreliable e e' key f transfer sequenced r := by
  have hok := hi.flows key f hf
  obtain ⟨queue, last, hr⟩ := hok.unreliable hm
  have hstale : f.receiver.staleFor sequenced transfer.acceptedIndex
      = .ok (sequenced && last.any (transfer.acceptedIndex ≤ ·)) := by
    rw [hr]
    cases sequenced <;> rfl
  simp only [receiveUnreliable, hf, hstale, Checked.ok_bind]
  split
  · rename_i hs
    obtain ⟨hs1, hs2⟩ := Bool.and_eq_true_iff.mp hs
    exact ⟨_, _, rfl, countStale_inv hi, .stale hs1 hr hs2 rfl⟩
  · rename_i hs
    obtain ⟨fits, n, f', e1, hx, hu, hdrop, hroom⟩ := inboundRoom_spec hi hf hd hm transfer.payloadLen
    simp only [hx, Checked.ok_bind]
    cases fits with
    | false =>
      exact ⟨_, _, rfl, countInboundDrops_inv hu.inv _, .dropped hdrop hu.flows⟩
    | true =>
      obtain ⟨queue', hr'⟩ : ∃ queue', f'.receiver = .unreliable queue' last := by
        rcases hdrop.receiver with hsame | ⟨l, q, last', h1, h2⟩
        · exact ⟨queue, hsame.trans hr⟩
        · rw [hr] at h1
          cases h1
          exact ⟨q, h2⟩
      obtain ⟨e2, h2, hi2, hfl⟩ := enqueueInbound_spec hu.inv hu.get? hd hr' transfer
        (min n usizeMax) (hroom rfl)
      refine ⟨_, e2, h2, hi2, .buffered hdrop hr' (fun hseq => ?_) ?_⟩
      · simpa [hseq] using hs
      · rw [hfl, hu.flows, SortedMap.insert_insert_self]

/-- What receiving does, on any key: nothing to the flows, or what its mode's path does to a
transfer of the flow's mode and size. -/
inductive Received (e e' : DeliveryEndpoint) (key : DeliveryFlowKey)
    (transfer : DeliveryTransfer) : Except DeliveryOperationError ReceiveOutcome → Prop where
  | refused {r} : (∀ n, r ≠ .ok (.buffered n)) → r ≠ .ok .terminalReliableFailure →
      e'.flows = e.flows → Received e e' key transfer r
  | reliable {f r} : e.flows.get? key = some f → key.direction = .inbound →
      f.mode = .reliableOrdered → ReceivedReliable e e' key f transfer r →
      (∀ n, r = .ok (.buffered n) →
        transfer.mode = f.mode ∧ transfer.payloadLen ≤ f.policy.maxMessageBytes.get) →
      Received e e' key transfer r
  | unreliable {f r} : e.flows.get? key = some f → key.direction = .inbound →
      f.mode ≠ .reliableOrdered → transfer.mode = f.mode →
      transfer.payloadLen ≤ f.policy.maxMessageBytes.get →
      ReceivedUnreliable e e' key f transfer (f.mode = .unreliableSequenced) r →
      Received e e' key transfer r

theorem receive_spec (hi : e.Inv L) (key : DeliveryFlowKey) (transfer : DeliveryTransfer) :
    ∃ r e', e.receive key transfer = .ok (r, e') ∧ e'.Inv L ∧ Received e e' key transfer r := by
  unfold receive
  split
  · exact ⟨_, e, rfl, hi, .refused nofun nofun rfl⟩
  · rename_i hd
    have hd' : key.direction = .inbound := by simpa using hd
    split
    · exact ⟨_, e, rfl, hi, .refused nofun nofun rfl⟩
    · rename_i f hf
      split
      · rename_i hmode
        split
        · rename_i hm
          obtain ⟨e', h, hi', hrec⟩ := drop_failed hi hf
            (show ReceiveFails e key f transfer .reliableModeMismatch from hmode)
          simp only [h, Checked.ok_bind, Checked.pure_eq]
          exact ⟨_, e', rfl, hi', .reliable hf hd' hm hrec nofun⟩
        · exact ⟨_, e, rfl, hi, .refused nofun nofun rfl⟩
      · rename_i hmode
        have hmode' : transfer.mode = f.mode := by simpa using hmode
        split
        · rename_i hlen
          split
          · rename_i hm
            obtain ⟨e', h, hi', hrec⟩ := drop_failed hi hf
              (show ReceiveFails e key f transfer .reliableInboundTooLarge from hlen)
            simp only [h, Checked.ok_bind, Checked.pure_eq]
            exact ⟨_, e', rfl, hi', .reliable hf hd' hm hrec nofun⟩
          · exact ⟨_, e, rfl, hi, .refused nofun nofun rfl⟩
        · rename_i hlen
          have hlen' := not_lt.mp hlen
          split
          · rename_i hm
            obtain ⟨r, e', h, hi', hrec⟩ := receiveReliable_spec hi hf hd' hm transfer
            exact ⟨r, e', h, hi', .reliable hf hd' hm hrec fun _ _ => ⟨hmode', hlen'⟩⟩
          · rename_i hm
            obtain ⟨r, e', h, hi', hrec⟩ :=
              receiveUnreliable_spec hi hf hd' (by rw [hm]; exact nofun) transfer false
            exact ⟨r, e', h, hi', .unreliable hf hd' (by rw [hm]; exact nofun) hmode' hlen'
              (by simpa [hm] using hrec)⟩
          · rename_i hm
            obtain ⟨r, e', h, hi', hrec⟩ :=
              receiveUnreliable_spec hi hf hd' (by rw [hm]; exact nofun) transfer true
            exact ⟨r, e', h, hi', .unreliable hf hd' (by rw [hm]; exact nofun) hmode' hlen'
              (by simpa [hm] using hrec)⟩

theorem receiveTransportPayload_spec (hi : e.Inv L) (key : DeliveryFlowKey) (index : Nat)
    (payload : List UInt8) : ∃ r e', e.receiveTransportPayload key index payload = .ok (r, e') ∧
      e'.Inv L ∧ ∃ mode, (∀ f, e.flows.get? key = some f → mode = f.mode) ∧
        Received e e' key ⟨mode, index, payload⟩ r := by
  unfold receiveTransportPayload
  cases hf : e.flows.get? key with
  | none =>
    refine ⟨.error (if key.direction = .inbound then .unknownFlow else .wrongDirection), e, ?_, hi,
      .reliableOrdered, nofun, .refused nofun nofun rfl⟩
    cases key.direction <;> rfl
  | some f =>
    have hmode : ∀ g, some f = some g → f.mode = g.mode := fun g hg => by cases hg; rfl
    split
    · exact ⟨_, e, rfl, hi, f.mode, hmode, .refused nofun nofun rfl⟩
    · obtain ⟨r, e', h, hi', hrec⟩ := receive_spec hi key ⟨f.mode, index, payload⟩
      exact ⟨r, e', h, hi', f.mode, hmode, hrec⟩

/-! ### Exposing -/

/-- What polling a reliable flow does: it exposes the transfer expected next, if buffered. -/
inductive PolledReliable (e e' : DeliveryEndpoint) (key : DeliveryFlowKey) (f : FlowState) :
    Except DeliveryOperationError (Option ExposedMessage) → Prop where
  | waiting : e' = e → PolledReliable e e' key f (.ok none)
  | exposed {byIndex expected t} : f.receiver = .reliable byIndex (some expected) →
      byIndex.get? expected = some t →
      e'.flows = e.flows.insert key
        { f with receiver :=
            .reliable (byIndex.erase expected) (checkedAdd u64Max expected 1) }.recount →
      PolledReliable e e' key f (.ok (some (DeliveryEndpoint.exposed t)))

theorem pollReliableExposure_spec (hi : e.Inv L) (hf : e.flows.get? key = some f)
    (hd : key.direction = .inbound) (hm : f.mode = .reliableOrdered) :
    ∃ r e', e.pollReliableExposure key = .ok (r, e') ∧ e'.Inv L ∧ PolledReliable e e' key f r := by
  have hok := hi.flows key f hf
  obtain ⟨byIndex, next, hr⟩ := hok.reliable hm
  simp only [pollReliableExposure, hf, hr]
  cases next with
  | none => exact ⟨_, e, rfl, hi, .waiting rfl⟩
  | some expected =>
    cases ht : byIndex.get? expected with
    | none =>
      simp only [ht]
      exact ⟨_, e, rfl, hi, .waiting rfl⟩
    | some t =>
      obtain ⟨e', he, hu⟩ := hi.release hf
        { f with receiver := .reliable (byIndex.erase expected) (checkedAdd u64Max expected 1) } t
        ⟨rfl, rfl, rfl, rfl, rfl⟩
        ⟨hm, hok.shape.no_outbound, fun h => absurd h (by rw [hd]; exact nofun)⟩
        (by
          simp only [FlowState.buffered, hok.shape.no_outbound hd, hr, List.nil_append,
            ReceiverBuffer.transfers]
          exact (SortedMap.perm_of_get? ht).map Prod.snd)
      simp only [ht, he, Checked.ok_bind, Checked.pure_eq]
      exact ⟨_, e', rfl, hu.inv, .exposed hr ht hu.flows⟩

theorem popInbound_empty (hf : e.flows.get? key = some f) {last : Option Nat}
    (hr : f.receiver = .unreliable [] last) : e.popInbound key = .ok (.ok none, e) := by
  simp only [popInbound, hf, hr]

theorem popInbound_cons (hi : e.Inv L) (hf : e.flows.get? key = some f)
    (hd : key.direction = .inbound) {t : DeliveryTransfer} {rest : List DeliveryTransfer}
    {last : Option Nat} (hr : f.receiver = .unreliable (t :: rest) last) :
    ∃ e', e.popInbound key = .ok (.ok (some t), e') ∧
      Updated L e e' key { f with receiver := .unreliable rest last }.recount := by
  obtain ⟨e', he, hu⟩ := hi.popQueue hf hd hr
  exact ⟨e', by simp only [popInbound, hf, hr, he, Checked.ok_bind, Checked.pure_eq], hu⟩

/-- What polling an unreliable flow does: `stale` are skipped from the front of the queue, and
what follows them, if anything, is exposed and leaves `last'` as the last sequence. -/
inductive PolledUnreliable (e e' : DeliveryEndpoint) (key : DeliveryFlowKey) (f : FlowState)
    (stale : DeliveryTransfer → Bool) (mark : DeliveryTransfer → Option Nat → Option Nat) :
    Except DeliveryOperationError (Option ExposedMessage) → Prop where
  | drained {queue last} : f.receiver = .unreliable queue last →
      (∀ t ∈ queue, stale t = true) →
      e'.flows = e.flows.insert key { f with receiver := .unreliable [] last }.recount →
      PolledUnreliable e e' key f stale mark (.ok none)
  | exposed {skipped t rest last} : f.receiver = .unreliable (skipped ++ t :: rest) last →
      (∀ t ∈ skipped, stale t = true) → stale t = false →
      e'.flows = e.flows.insert key { f with receiver := .unreliable rest (mark t last) }.recount →
      PolledUnreliable e e' key f stale mark (.ok (some (DeliveryEndpoint.exposed t)))

theorem recount_eq_self (hi : e.Inv L) (hf : e.flows.get? key = some f) : f.recount = f := by
  have hok := hi.flows key f hf
  cases f
  simp only [FlowState.recount]
  congr 1
  · exact hok.messages.symm
  · exact hok.bytes.symm

theorem pollUnorderedExposure_spec (hi : e.Inv L) (hf : e.flows.get? key = some f)
    (hd : key.direction = .inbound) (hm : f.mode ≠ .reliableOrdered) :
    ∃ r e', e.pollUnorderedExposure key = .ok (r, e') ∧ e'.Inv L ∧
      PolledUnreliable e e' key f (fun _ => false) (fun _ last => last) r := by
  obtain ⟨queue, last, hr⟩ := (hi.flows key f hf).unreliable hm
  cases queue with
  | nil =>
    simp only [pollUnorderedExposure, popInbound_empty hf hr, Checked.ok_bind, Checked.pure_eq]
    refine ⟨_, e, rfl, hi, .drained hr nofun ?_⟩
    have : ({ f with receiver := .unreliable [] last } : FlowState) = f := by rw [← hr]
    rw [this, recount_eq_self hi hf, SortedMap.insert_of_get? hf]
  | cons t rest =>
    obtain ⟨e', he, hu⟩ := popInbound_cons hi hf hd hr
    simp only [pollUnorderedExposure, he, Checked.ok_bind, Checked.pure_eq]
    exact ⟨_, e', rfl, hu.inv,
      .exposed (show f.receiver = .unreliable ([] ++ t :: rest) last from hr) nofun rfl hu.flows⟩

theorem Inv.setFlow (hi : e.Inv L) (hf : e.flows.get? key = some f) {f' : FlowState}
    (hok : f'.Ok key) (hs : f'.session = f.session) (hu : f'.usage = f.usage) :
    (e.setFlow key f').Inv L where
  limits := hi.limits
  accounted := hi.accounted.same hf hs hu
  flows := fun k g hg => by
    rw [show (e.setFlow key f').flows.get? k = _ from SortedMap.get?_insert _ _ _ _] at hg
    split at hg
    · rename_i hk; cases hg; exact hk ▸ hok
    · exact hi.flows k g hg

/-- The stale transfers of a sequenced flow whose last exposed sequence is `last`. -/
def staleAfter (last : Option Nat) (t : DeliveryTransfer) : Bool := last.any (t.acceptedIndex ≤ ·)

theorem pollSequenced_spec {bound : Nat} (hi : e.Inv L) (hf : e.flows.get? key = some f)
    (hd : key.direction = .inbound) {queue : List DeliveryTransfer} {last : Option Nat}
    (hr : f.receiver = .unreliable queue last) (hb : queue.length < bound) :
    ∃ r e', pollSequenced key bound e = .ok (r, e') ∧ e'.Inv L ∧
      PolledUnreliable e e' key f (staleAfter last) (fun t _ => some t.acceptedIndex) r := by
  induction bound generalizing e f queue with
  | zero => omega
  | succ bound ih =>
    cases queue with
    | nil =>
      simp only [pollSequenced, popInbound_empty hf hr, Checked.ok_bind, Checked.pure_eq]
      refine ⟨_, e, rfl, hi, .drained hr nofun ?_⟩
      have : ({ f with receiver := .unreliable [] last } : FlowState) = f := by rw [← hr]
      rw [this, recount_eq_self hi hf, SortedMap.insert_of_get? hf]
    | cons t rest =>
      obtain ⟨e1, he, hu⟩ := popInbound_cons hi hf hd hr
      simp only [pollSequenced, he, Checked.ok_bind, hu.get?]
      have hst : (FlowState.recount { f with receiver := .unreliable rest last }).receiver.stale
          t.acceptedIndex = .ok (staleAfter last t) := rfl
      simp only [hst, Checked.ok_bind]
      by_cases hstale : staleAfter last t = true
      · rw [if_pos hstale]
        obtain ⟨r, e2, h2, hi2, hp⟩ := ih (countStale_inv hu.inv) hu.get? rfl
          (Nat.lt_of_succ_lt_succ hb)
        have hflows : ∀ g : FlowState, e1.flows.insert key g = e.flows.insert key g := fun g => by
          rw [hu.flows, SortedMap.insert_insert_self]
        refine ⟨r, e2, h2, hi2, ?_⟩
        cases hp with
        | drained hq hall hfl =>
          cases hq
          exact .drained hr (fun t' ht' => by
            rcases List.mem_cons.mp ht' with rfl | ht'
            · exact hstale
            · exact hall t' ht') (hfl.trans (hflows _))
        | @exposed skipped t' rest' last' hq hall hfresh hfl =>
          injection hq with hq hlast
          subst hlast
          rw [hq] at hr
          exact .exposed (show f.receiver = .unreliable ((t :: skipped) ++ t' :: rest') last from hr)
            (fun u hu' => by
              rcases List.mem_cons.mp hu' with rfl | hu'
              · exact hstale
              · exact hall u hu') hfresh (hfl.trans (hflows _))
      · rw [if_neg hstale]
        have hok := hu.inv.flows key _ hu.get?
        have hok' : FlowState.Ok key (FlowState.recount { f with
            receiver := .unreliable rest (some t.acceptedIndex) }) :=
          ⟨hok.policy, ⟨hok.shape.receiver, hok.shape.no_outbound, hok.shape.no_inbound⟩,
            hok.messages, hok.bytes, hok.messages_le, hok.bytes_le⟩
        refine ⟨_, _, rfl, hu.inv.setFlow hu.get? hok' rfl rfl, ?_⟩
        refine .exposed (show f.receiver = .unreliable ([] ++ t :: rest) last from hr) nofun
          (by simpa using hstale) ?_
        exact (congrArg (SortedMap.insert · key _) hu.flows).trans
          (SortedMap.insert_insert_self _ _ _ _)

theorem pollSequencedExposure_spec (hi : e.Inv L) (hf : e.flows.get? key = some f)
    (hd : key.direction = .inbound) {queue : List DeliveryTransfer} {last : Option Nat}
    (hr : f.receiver = .unreliable queue last) :
    ∃ r e', e.pollSequencedExposure key = .ok (r, e') ∧ e'.Inv L ∧
      PolledUnreliable e e' key f (staleAfter last) (fun t _ => some t.acceptedIndex) r := by
  have hok := hi.flows key f hf
  simp only [pollSequencedExposure, hf]
  refine pollSequenced_spec hi hf hd hr ?_
  rw [hok.messages, FlowState.buffered, hok.shape.no_outbound hd, hr]
  exact Nat.lt_succ_self _

/-- What polling does, on any key. -/
inductive Polled (e e' : DeliveryEndpoint) (key : DeliveryFlowKey) :
    Except DeliveryOperationError (Option ExposedMessage) → Prop where
  | refused {err} : e' = e → Polled e e' key (.error err)
  | reliable {f r} : e.flows.get? key = some f → key.direction = .inbound →
      f.mode = .reliableOrdered → PolledReliable e e' key f r → Polled e e' key r
  | unordered {f r} : e.flows.get? key = some f → key.direction = .inbound →
      f.mode = .unreliableUnordered →
      PolledUnreliable e e' key f (fun _ => false) (fun _ last => last) r → Polled e e' key r
  | sequenced {f r queue last} : e.flows.get? key = some f → key.direction = .inbound →
      f.mode = .unreliableSequenced → f.receiver = .unreliable queue last →
      PolledUnreliable e e' key f (staleAfter last) (fun t _ => some t.acceptedIndex) r →
      Polled e e' key r

theorem pollExposure_spec (hi : e.Inv L) (key : DeliveryFlowKey) :
    ∃ r e', e.pollExposure key = .ok (r, e') ∧ e'.Inv L ∧ Polled e e' key r := by
  unfold pollExposure
  split
  · exact ⟨_, e, rfl, hi, .refused rfl⟩
  · rename_i hd
    have hd' : key.direction = .inbound := by simpa using hd
    split
    · exact ⟨_, e, rfl, hi, .refused rfl⟩
    · rename_i f hf
      split
      · rename_i hm
        obtain ⟨r, e', h, hi', hp⟩ := pollReliableExposure_spec hi hf hd' hm
        exact ⟨r, e', h, hi', .reliable hf hd' hm hp⟩
      · rename_i hm
        obtain ⟨r, e', h, hi', hp⟩ := pollUnorderedExposure_spec hi hf hd' (by rw [hm]; exact nofun)
        exact ⟨r, e', h, hi', .unordered hf hd' hm hp⟩
      · rename_i hm
        obtain ⟨queue, last, hr⟩ := (hi.flows key f hf).unreliable (by rw [hm]; exact nofun)
        obtain ⟨r, e', h, hi', hp⟩ := pollSequencedExposure_spec hi hf hd' hr
        exact ⟨r, e', h, hi', .sequenced hf hd' hm hr hp⟩

end DeliveryEndpoint

end RunenNet
