import RunenNet.Quic.StreamRun

/-!
# How the ends of a stream close

A binding that closes its flow normally leaves nothing behind: the sender has written everything
that was accepted, the receiver has exposed everything that was written. A binding that stops for
another reason fails the flow, except where there is no flow to fail and where the connection is
lost, which is left to the teardown of the connection.
-/

namespace RunenNet

open Foundation

namespace StreamRun

open DeliveryEndpoint (OneLifetime opensOn)
open InboundReliable (Registers)
open OutboundReliable (normalTermination)
open ReliableRun (sampleSender sampleReceiver sampleLimits samplePolicy)

variable {ks kr : DeliveryFlowKey} {flowId : FlowId} {limit : Nat} {r r' : StreamRun}

/-- How a step of the sending binding ends its work. -/
inductive SendEnds (ks : DeliveryFlowKey) (e e' : DeliveryEndpoint)
    (report : Option FlowTermination) : Polled (Except SendError SendProgress) → Prop where
  | closed : e'.flows.get? ks = none →
    SendEnds ks e e' report (some (.ok (.closed (normalTermination ks))))
  | lost : e' = e → SendEnds ks e e' report (some (.error (.io .connectionLost)))
  | failed {error : SendError} : e'.flows.get? ks = none →
    ((e.flows.get? ks).isSome = true → CustodyLost ks report) →
    SendEnds ks e e' report (some (.error error))

/-- How a step of the receiving binding ends its work. A flow that cannot take a message was already
failed by Core. -/
inductive ReceiveEnds (kr : DeliveryFlowKey) (e e' : DeliveryEndpoint) (b : InboundReliable)
    (report : Option FlowTermination) : Polled (Except ReceiveError ReceiveProgress) → Prop where
  | closed : e'.flows.get? kr = none →
    ReceiveEnds kr e e' b report (some (.ok (.closed kr (some (normalTermination kr)))))
  | gone : e.flows.get? kr = none → e' = e →
    ReceiveEnds kr e e' b report (some (.ok (.closed kr none)))
  | lost : e' = e → ReceiveEnds kr e e' b report (some (.error (.io .connectionLost)))
  | unassociated {error : ReceiveError} : b.flow = none → e' = e →
    ReceiveEnds kr e e' b report (some (.error error))
  | failed {error : ReceiveError} : e'.flows.get? kr = none →
    ((e.flows.get? kr).isSome = true → CustodyLost kr report ∨
      error = .unexpectedCoreOutcome .terminalReliableFailure) →
    ReceiveEnds kr e e' b report (some (.error error))

theorem Sending.ends (h : Sending ks flowId limit r) {io : SendStream}
    {registry registry' : AcceptedFlowRegistry} {answer : Polled (Except SendError SendProgress)}
    {outbound' : OutboundReliable} {sender' : DeliveryEndpoint}
    (hworks : r.outbound.terminal = false) (hends : outbound'.terminal = true)
    (hx : r.outbound.pollStep io r.sender registry = .ok (answer, outbound', sender', registry')) :
    SendEnds ks r.sender sender' outbound'.failureTermination answer := by
  obtain ⟨L, hs⟩ := h.side
  have hw := h.writes
  obtain rfl := h.key
  obtain ⟨k', hpolls⟩ := OutboundReliable.pollStep_polls hs hw hx
  generalize r.written ++ r.outbound.taken io r.sender = written at hpolls
  have hopen : ∀ {state}, ({ r.outbound with state := state } : OutboundReliable).terminal ≠ true :=
    fun hyes => by
      rw [show r.outbound.terminal = true from hyes] at hworks
      cases hworks
  cases hpolls with
  | refused hterminal =>
    rw [hterminal] at hworks
    cases hworks
  | pending => exact absurd hends hopen
  | idle => exact absurd hends hopen
  | progressed => exact absurd hends hopen
  | committed => exact absurd hends hopen
  | closed _ _ _ _ _ hnone hnormal => exact hnormal ▸ .closed hnone
  | lost => exact .lost rfl
  | @failed _ _ _ report _ _ hexec =>
    obtain ⟨hnone, hlost⟩ : sender'.flows.get? r.outbound.key = none ∧
        ((r.sender.flows.get? r.outbound.key).isSome = true →
          CustodyLost r.outbound.key report.toOption) := by
      unfold DeliveryEndpoint.exec at hexec
      simp only [Checked.bind_eq_ok] at hexec
      obtain ⟨⟨_, _⟩, hfail, hpair⟩ := hexec
      cases hpair
      exact DeliveryEndpoint.custodyLost_of_fail hs.inv hs.mode hfail
    exact .failed hnone hlost

theorem Receiving.ends (hsend : Sending ks flowId limit r) (h : Receiving kr flowId limit r)
    {io : RecvStream} {registry registry' : AcceptedFlowRegistry}
    {answer : Polled (Except ReceiveError ReceiveProgress)} {inbound' : InboundReliable}
    {receiver' : DeliveryEndpoint} (hreg : Registers flowId kr limit registry) (hgives : Gives r io)
    (hworks : r.inbound.terminal = false) (hends : inbound'.terminal = true)
    (hx : r.inbound.pollStep io r.receiver registry =
      .ok (answer, inbound', receiver', registry')) :
    ReceiveEnds kr r.receiver receiver' r.inbound inbound'.failureTermination answer := by
  obtain ⟨L, k, hr, hb, hshown, hk, hreads⟩ := h.side
  obtain ⟨L', hs⟩ := hsend.side
  obtain ⟨k', -, -, -, -, hpolls⟩ := InboundReliable.pollStep_stepping hreads hreg
    (hgives.bytes.trans hsend.writes.isPrefix)
    (fun i a ha hlt => hsend.writes.fits_of_lt ha (hlt.trans_le hgives.bytes.length_le)) hr
    hs.numbered hb hshown hk hx
  generalize r.read ++ r.inbound.got io = read at hpolls
  cases hpolls with
  | refused hterminal =>
    rw [hterminal] at hworks
    cases hworks
  | pending =>
    rw [hends] at hworks
    cases hworks
  | read _ hterminal' =>
    rw [hends] at hterminal'
    cases hterminal'
  | draining =>
    rw [show r.inbound.terminal = true from hends] at hworks
    cases hworks
  | closed _ _ _ _ _ _ _ hnone hnormal => exact hnormal ▸ .closed hnone
  | gone _ _ _ _ _ hnone => exact .gone hnone rfl
  | lost => exact .lost rfl
  | unassociated _ hflow => exact .unassociated hflow rfl
  | failed _ _ _ _ _ hnone hlost => exact .failed hnone hlost

/-- Every end of a binding's work: nothing was left behind, or the flow is failed. -/
structure Closes (ks kr : DeliveryFlowKey) (flowId : FlowId) (limit : Nat) (r : StreamRun) :
    Prop where
  /-- The finish of the stream comes behind all of its bytes. -/
  last : r.finished = true → ∀ io, r.outbound.taken io r.sender = []
  sent : ∀ termination, r.sent = some termination → r.finished = true ∧
    r.written = streamBytes flowId r.accepted ∧ r.committed = List.range r.accepted.length ∧
    termination = normalTermination ks
  ended : ∀ termination, r.ended = some termination → r.finished = true ∧ r.read = r.written ∧
    (∃ i ≤ r.accepted.length, r.read = streamBytes flowId (r.accepted.take i) ∧
      r.exposed = r.accepted.take i) ∧ termination = normalTermination kr
  both : r.sent.isSome = true → r.ended.isSome = true → r.exposed = r.accepted
  sender : ∀ io registry answer outbound' sender' registry', r.outbound.terminal = false →
    outbound'.terminal = true →
    r.outbound.pollStep io r.sender registry = .ok (answer, outbound', sender', registry') →
    SendEnds ks r.sender sender' outbound'.failureTermination answer
  receiver : ∀ io registry answer inbound' receiver' registry', Registers flowId kr limit registry →
    Gives r io → r.inbound.terminal = false → inbound'.terminal = true →
    r.inbound.pollStep io r.receiver registry = .ok (answer, inbound', receiver', registry') →
    ReceiveEnds kr r.receiver receiver' r.inbound inbound'.failureTermination answer

theorem Inv.exposed_eq_accepted (h : Inv ks kr flowId limit r) (hsent : r.sent.isSome = true)
    (hended : r.ended.isSome = true) : r.exposed = r.accepted := by
  obtain ⟨sent, hsent⟩ := Option.isSome_iff_exists.mp hsent
  obtain ⟨ended, hended⟩ := Option.isSome_iff_exists.mp hended
  obtain ⟨-, hfinished, hall, -⟩ := h.sending.sent sent hsent
  obtain ⟨-, -, hread, ⟨i, hi, hwhole, hexposed⟩, -⟩ := h.receiving.ended ended hended
  have hwritten := (h.sending.finished hfinished).2
  rw [hall, List.take_length] at hwritten
  have hsame : streamBytes flowId (r.accepted.take i) = streamBytes flowId r.accepted :=
    hwhole.symm.trans (hread.trans hwritten)
  rcases hi.eq_or_lt with rfl | hlt
  · rw [hexposed, List.take_length]
  · have hless := streamBytes_lt flowId hlt (le_refl r.accepted.length)
    rw [hsame, List.take_length] at hless
    exact absurd hless (lt_irrefl _)

theorem Inv.closes (h : Inv ks kr flowId limit r) : Closes ks kr flowId limit r where
  last := h.sending.taken_nil
  sent := fun termination ht => by
    obtain ⟨-, hfinished, hall, -, -, hnormal⟩ := h.sending.sent termination ht
    have hwritten := (h.sending.finished hfinished).2
    have hcustody := h.sending.custody
    rw [hall, List.take_length] at hwritten
    rw [hall] at hcustody
    exact ⟨hfinished, hwritten, hcustody, hnormal⟩
  ended := fun termination ht => by
    obtain ⟨-, hfinished, hread, hexposed, -, -, hnormal⟩ := h.receiving.ended termination ht
    exact ⟨hfinished, hread, hexposed, hnormal⟩
  both := h.exposed_eq_accepted
  sender := fun _ _ _ _ _ _ hworks hends hx => h.sending.ends hworks hends hx
  receiver := fun _ _ _ _ _ _ hreg hgives hworks hends hx =>
    h.receiving.ends h.sending hreg hgives hworks hends hx

theorem close_is_complete (h : Run ks kr flowId limit r) : Closes ks kr flowId limit r :=
  (inv_reachable h).closes

/-! ### Two runs -/

/-- A message is written, finished, read, exposed, and both ends close. -/
theorem sample_closes : ∃ r, Run sampleSender sampleReceiver sampleFlowId 16 r ∧
    r.sent.isSome = true ∧ r.ended.isSome = true ∧ r.accepted = [⟨0, [5, 6]⟩] := by
  have h1 := next_send sampleAccepted.property sampleSend sampleRegistry rfl
  have h2 := next_send h1 sampleSend sampleRegistry rfl
  have h3 := next_send h2 sampleSend sampleRegistry rfl
  have h4 := next_send h3 sampleSend sampleRegistry rfl
  have h5 := next_finish h4 (.ok ()) rfl
  have h6 := next_receive h5 (sampleRecv [1, 2, 5, 6]) sampleRegistry_registers
    ⟨⟨[], rfl⟩, fun _ _ h => by cases h⟩ rfl
  have h7 := next_receiverHost h6 (.pollExposure sampleReceiver) (fun _ _ _ h => by cases h) id rfl
  have h8 := next_receive h7 (sampleRecv []) sampleRegistry_registers
    ⟨⟨[], rfl⟩, fun _ _ _ => ⟨rfl, rfl⟩⟩ rfl
  have h9 := next_send h8 sampleSend sampleRegistry rfl
  exact ⟨_, h9, rfl, rfl, rfl⟩

theorem close_is_complete_sample : ∃ r : StreamRun, r.sent.isSome = true ∧
    r.ended.isSome = true ∧ r.accepted = [⟨0, [5, 6]⟩] ∧
    Closes sampleSender sampleReceiver sampleFlowId 16 r := by
  obtain ⟨r, hr, hsent, hended, haccepted⟩ := sample_closes
  exact ⟨r, hsent, hended, haccepted, close_is_complete hr⟩

/-- A lost connection ends the work of the sending binding and leaves the flow as it was, with its
message pending. -/
theorem lost_connection_not_failed :
    ¬ ∀ r r', Run sampleSender sampleReceiver sampleFlowId 16 r →
      Step sampleSender sampleReceiver sampleFlowId 16 r r' → r.outbound.terminal = false →
      r'.outbound.terminal = true → r'.sent.isSome = true ∨
        r'.sender.flows.get? sampleSender = none := fun hall => by
  have hstep : Step sampleSender sampleReceiver sampleFlowId 16 sampleAccepted.val
      { sampleAccepted.val with
        outbound := { sampleAccepted.val.outbound with terminal := true } } := by
    have hlost : sampleAccepted.val.outbound.pollStep
        ⟨fun _ => some (.error .connectionLost), none⟩ sampleAccepted.val.sender sampleRegistry =
        .ok (some (.error (.io .connectionLost)),
          { sampleAccepted.val.outbound with terminal := true }, sampleAccepted.val.sender,
          sampleRegistry) := rfl
    exact Step.send hlost
  rcases hall _ _ sampleAccepted.property hstep rfl rfl with hsent | hnone
  · cases hsent
  · cases (show some _ = none from hnone)

end StreamRun

end RunenNet
