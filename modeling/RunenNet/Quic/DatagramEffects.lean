import RunenNet.Core.Delivery.ReceiverEffects
import RunenNet.Quic.Envelope

/-!
# What the datagram sender does

A submission asks Core for the next sequence before it accepts the message; a drive looks at the
front of a queue, measures, encodes, hands over and commits, while the transport may answer
anything at any of these steps.
-/

namespace RunenNet

open Foundation

/-! ### What is encoded -/

/-- Only a message with a sequence its mode allows has a length. -/
theorem EnvelopeSequence.of_len {flowId : FlowId} {mode : DeliveryMode} {sequence : Option Nat}
    {n total : Nat} (h : datagramLenForSend flowId mode sequence n = .ok total) :
    EnvelopeSequence mode sequence ∧ ∃ flow, encodeVarint flowId.value = .ok flow ∧
      flow.length + (sequenceBytes mode sequence).length + n ≤ usizeMax ∧
      total = flow.length + (sequenceBytes mode sequence).length + n := by
  obtain ⟨flow, hflow, -⟩ := flowId.encodes
  simp only [datagramLenForSend, hflow] at h
  cases mode with
  | reliableOrdered => cases h
  | unreliableUnordered =>
    refine ⟨.unordered, flow, hflow, ?_⟩
    simp only at h
    split at h
    · cases h
    · rename_i len hlen
      cases h
      exact sum_lengths.mp hlen
  | unreliableSequenced =>
    cases sequence with
    | none => cases h
    | some sequence =>
      by_cases hmax : sequence > maxVarint
      · simp only [if_pos hmax] at h
        cases h
      · obtain ⟨bytes, hbytes, -, -⟩ := encodeVarint_ok (not_lt.mp hmax)
        simp only [if_neg hmax, hbytes] at h
        refine ⟨.sequenced (not_lt.mp hmax), flow, hflow, ?_⟩
        split at h
        · cases h
        · rename_i len hlen
          cases h
          refine sum_lengths.mp ?_
          simp only [sequenceBytes, hbytes, Except.toOption, Option.getD_some]
          exact hlen

/-- Measuring knows nothing of custody. -/
theorem datagramLenForSend_custody {flowId : FlowId} {mode : DeliveryMode} {sequence : Option Nat}
    {n : Nat} {err : CustodyCommitError} :
    datagramLenForSend flowId mode sequence n ≠ .error (.custody err) := by
  intro h
  obtain ⟨flow, hflow, -⟩ := flowId.encodes
  simp only [datagramLenForSend, hflow] at h
  split at h
  · rename_i heq
    cases h
    repeat' split at heq
    all_goals cases heq
  · split at h
    · cases h
    · cases h

/-- A message that was measured is encoded in that length, if there is memory for it. -/
theorem encodeDatagram_measured {flowId : FlowId} {mode : DeliveryMode} {sequence : Option Nat}
    {payload : List UInt8} {total : Nat} (reserves : Bool)
    (h : datagramLenForSend flowId mode sequence payload.length = .ok total) :
    encodeDatagram reserves flowId mode sequence payload = .ok (.error .allocationFailed) ∨
    ∃ datagram, encodeDatagram reserves flowId mode sequence payload = .ok (.ok datagram) ∧
      datagram.length = total := by
  obtain ⟨hs, flow, hflow, hle, rfl⟩ := EnvelopeSequence.of_len h
  cases reserves with
  | false => exact .inl (by simp [encodeDatagram, h])
  | true =>
    refine .inr ⟨_, hs.encodeDatagram_eq hflow hle, ?_⟩
    rw [List.length_append, List.length_append]

/-! ### Submitting -/

namespace DeliveryEndpoint

/-- The messages of the flow at `key` that wait to be sent, oldest first. -/
def custody (e : DeliveryEndpoint) (key : DeliveryFlowKey) : List ExposedMessage :=
  (e.flows.get? key).elim [] fun f => f.outbound.map exposed

/-- The sequence the flow at `key` gives next, if it is there. -/
def nextIndex (e : DeliveryEndpoint) (key : DeliveryFlowKey) : Option (Option Nat) :=
  (e.flows.get? key).map FlowState.nextAcceptedIndex

variable {L : DeliveryScopeLimits} {e e' : DeliveryEndpoint} {key : DeliveryFlowKey}
  {f f' : FlowState} {n : Nat}

theorem custody_of_get? (hf : e.flows.get? key = some f) :
    e.custody key = f.outbound.map exposed := by
  rw [custody, hf]
  rfl

theorem custody_of_none (hf : e.flows.get? key = none) : e.custody key = [] := by
  rw [custody, hf]
  rfl

theorem nextIndex_of_get? (hf : e.flows.get? key = some f) :
    e.nextIndex key = some f.nextAcceptedIndex := by
  rw [nextIndex, hf]
  rfl

end DeliveryEndpoint

open DeliveryEndpoint

/-- The submission was not accepted and did not find Core disagreeing with its candidate. -/
structure NotAccepted (r : Except DatagramSubmitError DatagramSubmissionOutcome) : Prop where
  accepted : ∀ index drops, r ≠ .ok (.accepted index drops)
  mismatch : ∀ expected accepted, r ≠ .error (.acceptedIndexMismatch expected accepted)

/-- What a submission does to Core. -/
inductive DatagramSubmitted (L : DeliveryScopeLimits) (e e' : DeliveryEndpoint)
    (registry : AcceptedFlowRegistry) (flowId : FlowId) (payload : List UInt8) :
    Except DatagramSubmitError DatagramSubmissionOutcome → Prop where
  | refused {r} : NotAccepted r → e' = e → DatagramSubmitted L e e' registry flowId payload r
  | rejected {r flow r'} : NotAccepted r → registry.registeredFlow flowId = some flow →
      Rejected L e e' flow.key r' → DatagramSubmitted L e e' registry flowId payload r
  | accepted {flow index drops} : registry.registeredFlow flowId = some flow →
      Accepted e e' flow.key payload (.ok (.accepted index drops)) →
      DatagramSubmitted L e e' registry flowId payload (.ok (.accepted index drops))

theorem registeredOutboundUnreliable_ok {registry : AcceptedFlowRegistry} {flowId : FlowId}
    {flow : RegisteredFlow} (h : registeredOutboundUnreliable registry flowId = .ok flow) :
    registry.registeredFlow flowId = some flow ∧ flow.key.direction = .outbound ∧
      flow.mode ≠ .reliableOrdered := by
  unfold registeredOutboundUnreliable at h
  split at h
  · cases h
  · rename_i flow' hflow
    split at h
    · cases h
    · rename_i hd
      split at h
      · cases h
      · rename_i hm
        cases h
        exact ⟨hflow, by simpa using hd, hm⟩

section Submitting

variable {L : DeliveryScopeLimits} {e : DeliveryEndpoint} {registry : AcceptedFlowRegistry}
  {flowId : FlowId} {flow : RegisteredFlow}

theorem submitCandidate_spec (hi : e.Inv L) (hflow : registry.registeredFlow flowId = some flow)
    (size : Option Nat) {candidate : Option Nat} (payload : List UInt8)
    (hcandidate : ∀ i, candidate = some i → e.nextIndex flow.key = some (some i)) :
    ∃ r e', submitCandidate size e flowId flow candidate payload = .ok (r, e') ∧ e'.Inv L ∧
      DatagramSubmitted L e e' registry flowId payload r := by
  have hrefused : ∀ {r}, NotAccepted r → DatagramSubmitted L e e registry flowId payload r :=
    fun h => .refused h rfl
  unfold submitCandidate
  split
  · exact ⟨_, e, rfl, hi, hrefused ⟨by simp, by simp⟩⟩
  · split
    · exact ⟨_, e, rfl, hi, hrefused ⟨by simp, by simp⟩⟩
    · split
      · exact ⟨_, e, rfl, hi, hrefused ⟨by simp, by simp⟩⟩
      · obtain ⟨r, e', h, hi', hx⟩ := submit_spec hi flow.key payload
        simp only [h, Checked.ok_bind, Checked.pure_eq]
        refine ⟨_, e', rfl, hi', ?_⟩
        rcases hx with hrej | hacc
        · refine .rejected ?_ hflow hrej
          cases r with
          | error err => exact ⟨by simp [submissionOutcome], by simp [submissionOutcome]⟩
          | ok outcome =>
            cases outcome with
            | accepted index drops => exact absurd rfl (hrej.1 index drops)
            | rejectedTooLarge => exact ⟨by simp [submissionOutcome], by simp [submissionOutcome]⟩
            | rejectedPressure => exact ⟨by simp [submissionOutcome], by simp [submissionOutcome]⟩
            | rejectedCounterExhausted =>
              exact ⟨by simp [submissionOutcome], by simp [submissionOutcome]⟩
        · obtain ⟨f, f', n, index, hf, -, -, hnext, -, -, rfl, -⟩ := id hacc
          -- the candidate was read from the flow that accepts the message
          have hsame : ∀ i, candidate = some i → index = i := fun i hc => by
            have := hcandidate i hc
            rw [nextIndex_of_get? hf, hnext] at this
            exact Option.some.inj (Option.some.inj this)
          have hout : submissionOutcome candidate (.ok (.accepted index (min n usizeMax))) =
              .ok (.accepted index (min n usizeMax)) := by
            cases hc : candidate with
            | none => rfl
            | some i => simp [submissionOutcome, hsame i hc]
          rw [hout]
          exact .accepted hflow hacc

theorem submitDatagram_spec (hi : e.Inv L) (size : Option Nat) (registry : AcceptedFlowRegistry)
    (flowId : FlowId) (payload : List UInt8) :
    ∃ r e', submitDatagram size e registry flowId payload = .ok (r, e') ∧ e'.Inv L ∧
      DatagramSubmitted L e e' registry flowId payload r := by
  have hrefused : ∀ {r}, NotAccepted r → DatagramSubmitted L e e registry flowId payload r :=
    fun h => .refused h rfl
  unfold submitDatagram
  split
  · rename_i err _
    refine ⟨_, e, rfl, hi, hrefused ⟨by simp, ?_⟩⟩
    cases err <;> simp [mapRegistrationSubmissionError]
  · rename_i flow hregistered
    obtain ⟨hflow, hd, hm⟩ := registeredOutboundUnreliable_ok hregistered
    split
    · exact ⟨_, e, rfl, hi, hrefused ⟨by simp, by simp⟩⟩
    · split
      · rename_i hr
        exact absurd hr hm
      · exact submitCandidate_spec hi hflow size payload (by simp)
      · split
        · exact ⟨_, e, rfl, hi, hrefused ⟨by simp, by simp⟩⟩
        · exact ⟨_, e, rfl, hi, hrefused ⟨by simp, by simp⟩⟩
        · rename_i candidate hnext
          refine submitCandidate_spec hi hflow size payload fun i hc => ?_
          cases hc
          unfold nextOutboundAcceptedIndex at hnext
          split at hnext
          · cases hnext
          · rename_i f hf
            split at hnext
            · cases hnext
            · rw [nextIndex_of_get? hf]
              exact congrArg some (Except.ok.inj hnext)

end Submitting

/-! ### Driving -/

/-- The front of the queue at `key` left it. -/
def FrontLeft (e e' : DeliveryEndpoint) (key : DeliveryFlowKey) (front : DeliveryTransfer) : Prop :=
  ∃ f rest, e.flows.get? key = some f ∧ f.outbound = front :: rest ∧
    e'.flows = e.flows.insert key (FlowState.recount { f with outbound := rest })

/-- The drive left the message where it is. -/
structure NotHanded (r : Except DatagramSendError DatagramSendProgress) : Prop where
  enqueued : ∀ index, r ≠ .ok (.enqueued index)
  dropped : ∀ index, r ≠ .ok (.droppedTransport index)
  custody : ∀ err, r ≠ .error (.custody err)

/-- What a drive does to Core and to the count of transport drops. -/
inductive DatagramDriven (e e' : DeliveryEndpoint) (key : DeliveryFlowKey) (drops drops' : Nat) :
    Except DatagramSendError DatagramSendProgress → Prop where
  | kept {r} : NotHanded r → e' = e → drops' = drops → DatagramDriven e e' key drops drops' r
  | sent {front} : FrontLeft e e' key front → drops' = drops →
      DatagramDriven e e' key drops drops' (.ok (.enqueued front.acceptedIndex))
  | dropped {front} : FrontLeft e e' key front → drops' = saturatingAdd usizeMax drops 1 →
      DatagramDriven e e' key drops drops' (.ok (.droppedTransport front.acceptedIndex))

/-- A drive with its transport left open. -/
abbrev Drive :=
  DatagramSendTransport → Checked (Except DatagramSendError DatagramSendProgress ×
    DeliveryEndpoint × Nat)

/-- What a drive offers to the transport `t`: nothing, so that its result does not depend on the
answer, or one datagram within the size and the space last reported, on whose answer alone the
result depends. -/
inductive Offers (t : DatagramSendTransport) (carries : List UInt8 → Prop) (drive : Drive)
    (r : Except DatagramSendError DatagramSendProgress) : Prop where
  | nothing : (∀ trySend, drive { t with trySend := trySend } = drive t) →
      (∀ index, r ≠ .ok (.enqueued index)) → Offers t carries drive r
  | one {datagram size} : carries datagram → t.maxDatagramSizeAgain = some size →
      datagram.length ≤ size → datagram.length ≤ t.sendBufferSpaceAgain →
      (∀ trySend, trySend datagram = t.trySend datagram →
        drive { t with trySend := trySend } = drive t) →
      ((∃ index, r = .ok (.enqueued index)) ↔ t.trySend datagram = .ok ()) →
      Offers t carries drive r

section Driving

variable {L : DeliveryScopeLimits} {e : DeliveryEndpoint} {key : DeliveryFlowKey} {f : FlowState}
  {front : DeliveryTransfer} {rest : List DeliveryTransfer} {carries : List UInt8 → Prop}
  {t : DatagramSendTransport} {drops : Nat}

theorem commit_front (hi : e.Inv L) (hf : e.flows.get? key = some f)
    (hd : key.direction = .outbound) (ho : f.outbound = front :: rest) :
    ∃ e', e.commitOutboundCustody key front.acceptedIndex = .ok (.ok front, e') ∧ e'.Inv L ∧
      FrontLeft e e' key front := by
  obtain ⟨e', he, hu⟩ := hi.popOutbound hf hd ho
  refine ⟨e', ?_, hu.inv, f, rest, hf, ho, hu.flows⟩
  simp [commitOutboundCustody, hd, hf, ho, he]

theorem dropTransport_spec (hi : e.Inv L) (hf : e.flows.get? key = some f)
    (hd : key.direction = .outbound) (ho : f.outbound = front :: rest) (drops : Nat) :
    ∃ e', dropTransport e key front.acceptedIndex drops =
        .ok (.ok (.droppedTransport front.acceptedIndex), e', saturatingAdd usizeMax drops 1) ∧
      e'.Inv L ∧ FrontLeft e e' key front := by
  obtain ⟨e', he, hi', hleft⟩ := commit_front hi hf hd ho
  exact ⟨e', by simp [dropTransport, he], hi', hleft⟩

/-- A drive returns, keeps the invariant, has its effect and makes its offer. -/
def Drives (L : DeliveryScopeLimits) (e : DeliveryEndpoint) (key : DeliveryFlowKey) (drops : Nat)
    (t : DatagramSendTransport) (carries : List UInt8 → Prop) (drive : Drive) : Prop :=
  ∃ r e' drops', drive t = .ok (r, e', drops') ∧ e'.Inv L ∧
    DatagramDriven e e' key drops drops' r ∧ Offers t carries drive r

theorem Drives.kept (hi : e.Inv L) {drive : Drive}
    {r : Except DatagramSendError DatagramSendProgress} (hr : NotHanded r)
    (h : ∀ trySend, drive { t with trySend := trySend } = .ok (r, e, drops)) :
    Drives L e key drops t carries drive :=
  ⟨r, e, drops, h t.trySend, hi, .kept hr rfl rfl, .nothing
    (fun trySend => (h trySend).trans (h t.trySend).symm) hr.enqueued⟩

theorem Drives.dropped (hi : e.Inv L) (hf : e.flows.get? key = some f)
    (hd : key.direction = .outbound) (ho : f.outbound = front :: rest) {drive : Drive}
    (h : ∀ trySend, drive { t with trySend := trySend } =
      dropTransport e key front.acceptedIndex drops) : Drives L e key drops t carries drive := by
  obtain ⟨e', he, hi', hleft⟩ := dropTransport_spec hi hf hd ho drops
  exact ⟨_, e', _, (h t.trySend).trans he, hi', .dropped hleft rfl, .nothing
    (fun trySend => (h trySend).trans (h t.trySend).symm) (by simp)⟩

/-- Only what a drive does on transports that differ in their answer matters. -/
theorem Drives.congr {drive drive' : Drive} (h : Drives L e key drops t carries drive')
    (heq : ∀ trySend, drive { t with trySend := trySend } = drive' { t with trySend := trySend }) :
    Drives L e key drops t carries drive := by
  obtain ⟨r, e', drops', hx, hi', hdriven, hoffers⟩ := h
  have hself : drive t = drive' t := heq t.trySend
  refine ⟨r, e', drops', hself.trans hx, hi', hdriven, ?_⟩
  cases hoffers with
  | nothing hsame hr =>
    exact .nothing (fun trySend => (heq trySend).trans ((hsame trySend).trans hself.symm)) hr
  | one hc hsize hle hspace hsame hr =>
    exact .one hc hsize hle hspace
      (fun trySend htry => (heq trySend).trans ((hsame trySend htry).trans hself.symm)) hr

theorem handDatagram_drives (hi : e.Inv L) (hf : e.flows.get? key = some f)
    (hd : key.direction = .outbound) (ho : f.outbound = front :: rest) {datagram : List UInt8}
    (hc : carries datagram) :
    Drives L e key drops t carries fun t =>
      handDatagram t e key front.acceptedIndex datagram drops := by
  cases hsize : t.maxDatagramSizeAgain with
  | none =>
    exact .kept hi (r := .error .profileUnavailable) ⟨by simp, by simp, by simp⟩ fun trySend => by
      simp [handDatagram, hsize]
  | some size =>
    by_cases hlarge : datagram.length > size
    · exact .dropped hi hf hd ho fun trySend => by simp [handDatagram, hsize, hlarge]
    by_cases hspace : datagram.length > t.sendBufferSpaceAgain
    · exact .kept hi (r := .ok (.blockedNativeBuffer datagram.length t.sendBufferSpaceAgain))
        ⟨by simp, by simp, by simp⟩ fun trySend => by
          simp [handDatagram, hsize, hlarge, hspace]
    -- the datagram is offered: the rest is decided by the answer
    have hsame : ∀ trySend, trySend datagram = t.trySend datagram →
        handDatagram { t with trySend := trySend } e key front.acceptedIndex datagram drops =
          handDatagram t e key front.acceptedIndex datagram drops := fun trySend htry => by
      simp only [handDatagram, htry]
    have hoffers : ∀ {r}, ((∃ index, r = .ok (.enqueued index)) ↔ t.trySend datagram = .ok ()) →
        Offers t carries (fun t => handDatagram t e key front.acceptedIndex datagram drops) r :=
      fun hr => .one hc hsize (not_lt.mp hlarge) (not_lt.mp hspace) hsame hr
    cases htry : t.trySend datagram with
    | ok =>
      obtain ⟨e', he, hi', hleft⟩ := commit_front hi hf hd ho
      refine ⟨.ok (.enqueued front.acceptedIndex), e', drops, ?_, hi', .sent hleft rfl,
        hoffers (by simp [htry])⟩
      simp [handDatagram, hsize, hlarge, hspace, htry, he]
    | error err =>
      cases err with
      | tooLarge =>
        obtain ⟨e', he, hi', hleft⟩ := dropTransport_spec hi hf hd ho drops
        refine ⟨_, e', _, ?_, hi', .dropped hleft rfl, hoffers (by simp [htry])⟩
        simp [handDatagram, hsize, hlarge, hspace, htry, he]
      | unsupportedByPeer =>
        refine ⟨.error .profileUnavailable, e, drops, ?_, hi,
          .kept ⟨by simp, by simp, by simp⟩ rfl rfl, hoffers (by simp [htry])⟩
        simp [handDatagram, hsize, hlarge, hspace, htry]
      | disabled =>
        refine ⟨.error .profileUnavailable, e, drops, ?_, hi,
          .kept ⟨by simp, by simp, by simp⟩ rfl rfl, hoffers (by simp [htry])⟩
        simp [handDatagram, hsize, hlarge, hspace, htry]
      | connectionLost =>
        refine ⟨.error .connectionLost, e, drops, ?_, hi,
          .kept ⟨by simp, by simp, by simp⟩ rfl rfl, hoffers (by simp [htry])⟩
        simp [handDatagram, hsize, hlarge, hspace, htry]

/-- The sequence a message is sent with. -/
def sendSequence (flow : RegisteredFlow) (transfer : DeliveryTransfer) : Option Nat :=
  if flow.mode = .unreliableSequenced then some transfer.acceptedIndex else none

/-- The datagram carries the message. -/
def CarriesTransfer (flowId : FlowId) (flow : RegisteredFlow) (transfer : DeliveryTransfer)
    (datagram : List UInt8) : Prop :=
  encodeDatagram true flowId flow.mode (sendSequence flow transfer) transfer.payload =
    .ok (.ok datagram)

/-- `driveTransfer` once the sequence of the message is known. -/
def sendMeasured (t : DatagramSendTransport) (endpoint : DeliveryEndpoint) (flowId : FlowId)
    (flow : RegisteredFlow) (transfer : DeliveryTransfer) (drops : Nat) (sequence : Option Nat) :
    Checked (Except DatagramSendError DatagramSendProgress × DeliveryEndpoint × Nat) :=
  match datagramLenForSend flowId flow.mode sequence transfer.payloadLen with
  | .error e => .ok (.error e, endpoint, drops)
  | .ok wireLen => match t.maxDatagramSize with
    | none => .ok (.error .profileUnavailable, endpoint, drops)
    | some maxDatagramSize =>
      if wireLen > maxDatagramSize then
        dropTransport endpoint flow.key transfer.acceptedIndex drops
      else if wireLen > t.sendBufferSpace then
        .ok (.ok (.blockedNativeBuffer wireLen t.sendBufferSpace), endpoint, drops)
      else do
        match ← encodeDatagram t.reserves flowId flow.mode sequence transfer.payload with
        | .error e => return (.error e, endpoint, drops)
        | .ok datagram => handDatagram t endpoint flow.key transfer.acceptedIndex datagram drops

theorem driveTransfer_eq {flowId : FlowId} {flow : RegisteredFlow} (hm : flow.mode ≠ .reliableOrdered)
    (hmode : front.mode = flow.mode) (hlen : ¬ front.payloadLen > flow.maxMessageBytes) :
    driveTransfer t e flowId flow front drops =
      sendMeasured t e flowId flow front drops (sendSequence flow front) := by
  simp only [driveTransfer, if_neg (not_not.mpr hmode), if_neg hlen, sendSequence, sendMeasured]
  cases h : flow.mode with
  | reliableOrdered => exact absurd h hm
  | unreliableUnordered => rfl
  | unreliableSequenced => rfl

theorem sendMeasured_drives {flowId : FlowId} {flow : RegisteredFlow} (hi : e.Inv L)
    (hf : e.flows.get? flow.key = some f) (hd : flow.key.direction = .outbound)
    (ho : f.outbound = front :: rest) :
    Drives L e flow.key drops t (CarriesTransfer flowId flow front) fun t =>
      sendMeasured t e flowId flow front drops (sendSequence flow front) := by
  cases hlen : datagramLenForSend flowId flow.mode (sendSequence flow front) front.payloadLen with
  | error err =>
    refine .kept hi (r := .error err) ⟨by simp, by simp, fun c hc => ?_⟩ fun trySend => by
      simp [sendMeasured, hlen]
    -- measuring knows nothing of custody
    cases hc
    exact datagramLenForSend_custody hlen
  | ok wireLen =>
    cases hsize : t.maxDatagramSize with
    | none =>
      exact .kept hi (r := .error .profileUnavailable) ⟨by simp, by simp, by simp⟩ fun trySend => by
        simp [sendMeasured, hlen, hsize]
    | some size =>
      by_cases hlarge : wireLen > size
      · exact .dropped hi hf hd ho fun trySend => by simp [sendMeasured, hlen, hsize, hlarge]
      by_cases hspace : wireLen > t.sendBufferSpace
      · exact .kept hi (r := .ok (.blockedNativeBuffer wireLen t.sendBufferSpace))
          ⟨by simp, by simp, by simp⟩ fun trySend => by
            simp [sendMeasured, hlen, hsize, hlarge, hspace]
      rcases encodeDatagram_measured t.reserves hlen with henc | ⟨datagram, henc, -⟩
      · exact .kept hi (r := .error .allocationFailed) ⟨by simp, by simp, by simp⟩ fun trySend => by
          simp [sendMeasured, hlen, hsize, hlarge, hspace, henc]
      · have hcarries : CarriesTransfer flowId flow front datagram := by
          cases hr : t.reserves with
          | true => rwa [hr] at henc
          | false =>
            have hlen' : datagramLenForSend flowId flow.mode (sendSequence flow front)
                front.payload.length = .ok wireLen := hlen
            rw [hr] at henc
            simp [encodeDatagram, hlen'] at henc
        have heq : ∀ trySend, sendMeasured { t with trySend := trySend } e flowId flow front drops
            (sendSequence flow front) =
            handDatagram { t with trySend := trySend } e flow.key front.acceptedIndex datagram
              drops := fun trySend => by
          simp [sendMeasured, hlen, hsize, hlarge, hspace, henc]
        exact (handDatagram_drives hi hf hd ho hcarries).congr heq

/-- The datagram carries the message at the front of the flow's queue. -/
def CarriesFront (e : DeliveryEndpoint) (registry : AcceptedFlowRegistry) (flowId : FlowId)
    (datagram : List UInt8) : Prop :=
  ∃ flow f front rest, registry.registeredFlow flowId = some flow ∧
    e.flows.get? flow.key = some f ∧ f.outbound = front :: rest ∧
    CarriesTransfer flowId flow front datagram

theorem Offers.mono {carries' : List UInt8 → Prop} {drive : Drive}
    {r : Except DatagramSendError DatagramSendProgress} (h : Offers t carries drive r)
    (hc : ∀ datagram, carries datagram → carries' datagram) : Offers t carries' drive r := by
  cases h with
  | nothing hsame hr => exact .nothing hsame hr
  | one hd hsize hle hspace hsame hr => exact .one (hc _ hd) hsize hle hspace hsame hr

theorem driveTransfer_drives {flowId : FlowId} {flow : RegisteredFlow} (hi : e.Inv L)
    (hf : e.flows.get? flow.key = some f) (hd : flow.key.direction = .outbound)
    (hm : flow.mode ≠ .reliableOrdered) (ho : f.outbound = front :: rest) :
    Drives L e flow.key drops t (CarriesTransfer flowId flow front) fun t =>
      driveTransfer t e flowId flow front drops := by
  by_cases hmode : front.mode = flow.mode
  swap
  · exact .kept hi (r := .error .modeMismatch) ⟨by simp, by simp, by simp⟩ fun trySend => by
      simp [driveTransfer, hmode]
  by_cases hlen : front.payloadLen > flow.maxMessageBytes
  · exact .kept hi (r := .error .payloadExceedsProfile) ⟨by simp, by simp, by simp⟩
      fun trySend => by simp [driveTransfer, hmode, hlen]
  · exact (sendMeasured_drives hi hf hd ho).congr fun trySend => driveTransfer_eq hm hmode hlen

/-- What a drive of the flow at `flowId` does. -/
theorem driveOne_spec (hi : e.Inv L) (t : DatagramSendTransport) (registry : AcceptedFlowRegistry)
    (flowId : FlowId) (drops : Nat) :
    ∃ r e' drops', driveOne t e registry flowId drops = .ok (r, e', drops') ∧ e'.Inv L ∧
      Offers t (CarriesFront e registry flowId) (fun t => driveOne t e registry flowId drops) r ∧
      ((NotHanded r ∧ e' = e ∧ drops' = drops) ∨ ∃ flow,
        registry.registeredFlow flowId = some flow ∧
          DatagramDriven e e' flow.key drops drops' r) := by
  have hkept : ∀ {r}, NotHanded r →
      (∀ trySend, driveOne { t with trySend := trySend } e registry flowId drops =
        .ok (r, e, drops)) →
      ∃ r e' drops', driveOne t e registry flowId drops = .ok (r, e', drops') ∧ e'.Inv L ∧
        Offers t (CarriesFront e registry flowId) (fun t => driveOne t e registry flowId drops) r ∧
        ((NotHanded r ∧ e' = e ∧ drops' = drops) ∨ ∃ flow,
          registry.registeredFlow flowId = some flow ∧
            DatagramDriven e e' flow.key drops drops' r) := fun {r} hr h =>
    ⟨r, e, drops, h t.trySend, hi, .nothing (fun trySend => (h trySend).trans (h t.trySend).symm)
      hr.enqueued, .inl ⟨hr, rfl, rfl⟩⟩
  cases hregistered : registeredOutboundUnreliable registry flowId with
  | error err =>
    refine hkept (r := .error (mapRegistrationSendError err)) ⟨by simp, by simp, ?_⟩
      fun trySend => by simp [driveOne, hregistered]
    cases err <;> simp [mapRegistrationSendError]
  | ok flow =>
    obtain ⟨hflow, hd, hm⟩ := registeredOutboundUnreliable_ok hregistered
    cases hf : e.flows.get? flow.key with
    | none =>
      exact hkept (r := .error (.core .unknownFlow)) ⟨by simp, by simp, by simp⟩ fun trySend => by
        simp [driveOne, hregistered, peekOutbound, hf]
    | some f =>
      cases ho : f.outbound with
      | nil =>
        exact hkept (r := .ok .idle) ⟨by simp, by simp, by simp⟩ fun trySend => by
          simp [driveOne, hregistered, peekOutbound, hf, hd, ho]
      | cons front rest =>
        have heq : ∀ t, driveOne t e registry flowId drops =
            driveTransfer t e flowId flow front drops := fun t => by
          simp [driveOne, hregistered, peekOutbound, hf, hd, ho]
        have hdrives : Drives L e flow.key drops t (CarriesTransfer flowId flow front) fun t =>
            driveOne t e registry flowId drops :=
          (driveTransfer_drives hi hf hd hm ho).congr fun trySend => heq _
        obtain ⟨r, e', drops', hx, hi', hdriven, hoffers⟩ := hdrives
        exact ⟨r, e', drops', hx, hi',
          hoffers.mono fun datagram hc => ⟨flow, f, front, rest, hflow, hf, ho, hc⟩,
          .inr ⟨flow, hflow, hdriven⟩⟩

end Driving

end RunenNet
