import RunenNet.Quic.StreamReceiver

/-!
# The stream of a reliable flow end to end

A binding that writes and one that reads, each at its own endpoint, and a stream between them that
hands over the bytes in order, in pieces of any size. The host works on either endpoint at any time,
only the custody of the flow and what it receives are left to the bindings.
-/

namespace RunenNet

open Foundation

/-- Both ends of a stream. `accepted` and `exposed` are the messages of the flow at its ends,
`committed` the messages whose custody the sending binding reported as handed over, `written` and
`read` the bytes that the stream took and gave. `finished` once the finish was requested, and
`sent` and `ended` are the terminations with which the bindings closed. A binding that was not
polled yet does nothing, so it may as well be there from the start. -/
structure StreamRun where
  sender : DeliveryEndpoint
  outbound : OutboundReliable
  senderOpened : Bool
  accepted : List ExposedMessage
  committed : List Nat
  written : List UInt8
  finished : Bool
  sent : Option FlowTermination
  receiver : DeliveryEndpoint
  inbound : InboundReliable
  receiverOpened : Bool
  read : List UInt8
  exposed : List ExposedMessage
  ended : Option FlowTermination

namespace StreamRun

open DeliveryEndpoint (OneLifetime opensOn SenderSide ReceiverSide Buffers Buffering)
open InboundReliable (Registers)
open ReliableRun (sampleSender sampleReceiver sampleLimits samplePolicy)

variable {ks kr : DeliveryFlowKey} {flowId : FlowId} {limit : Nat} {r r' : StreamRun}

/-- The custody that an answer of the sending binding reports. -/
def custodyOf : Polled (Except SendError SendProgress) → List Nat
  | some (.ok (.committed acceptedIndex)) => [acceptedIndex]
  | _ => []

/-- The termination with which the sending binding closes. -/
def sentWith : Polled (Except SendError SendProgress) → Option FlowTermination
  | some (.ok (.closed termination)) => some termination
  | _ => none

/-- The termination with which the receiving binding closes. -/
def endedWith : Polled (Except ReceiveError ReceiveProgress) → Option FlowTermination
  | some (.ok (.closed _ termination)) => termination
  | _ => none

/-- The stream gives the bytes that were written, in order, and ends behind all of them. -/
structure Gives (r : StreamRun) (io : RecvStream) : Prop where
  bytes : r.read ++ r.inbound.got io <+: r.written
  fin : r.inbound.terminal = false → r.inbound.draining = false → io.read = some (.ok []) →
    r.finished = true ∧ r.read = r.written

/-- The operations of the hosts, and the steps of the bindings, each with any answers of the stream
and of the allocator and with any registry. -/
inductive Step (ks kr : DeliveryFlowKey) (flowId : FlowId) (limit : Nat) :
    StreamRun → StreamRun → Prop where
  | senderHost {r : StreamRun} {op : DeliveryOp} {reply : DeliveryReply}
      {sender' : DeliveryEndpoint} : OneLifetime ks r.sender r.senderOpened op →
    (∀ index, op ≠ .commitOutboundCustody ks index) → r.sender.exec op = .ok (reply, sender') →
    Step ks kr flowId limit r { r with
      sender := sender'
      senderOpened := r.senderOpened || opensOn ks op reply
      accepted := r.accepted ++ acceptedOn ks op reply }
  | send {r : StreamRun} {io : SendStream} {registry registry' : AcceptedFlowRegistry}
      {answer : Polled (Except SendError SendProgress)} {outbound' : OutboundReliable}
      {sender' : DeliveryEndpoint} :
    r.outbound.pollStep io r.sender registry = .ok (answer, outbound', sender', registry') →
    Step ks kr flowId limit r { r with
      sender := sender'
      outbound := outbound'
      committed := r.committed ++ custodyOf answer
      written := r.written ++ r.outbound.taken io r.sender
      sent := r.sent.or (sentWith answer) }
  | finish {r : StreamRun} {granted : Except IoFailure Unit} {result : Except SendError Unit}
      {outbound' : OutboundReliable} :
    r.outbound.requestFinishNormal granted r.sender = .ok (result, outbound') →
    Step ks kr flowId limit r { r with
      outbound := outbound'
      finished := r.finished || result.toOption.isSome }
  | receiverHost {r : StreamRun} {op : DeliveryOp} {reply : DeliveryReply}
      {receiver' : DeliveryEndpoint} : OneLifetime kr r.receiver r.receiverOpened op →
    ¬ op.Receives kr → r.receiver.exec op = .ok (reply, receiver') →
    Step ks kr flowId limit r { r with
      receiver := receiver'
      receiverOpened := r.receiverOpened || opensOn kr op reply
      exposed := r.exposed ++ exposedOn kr op reply }
  | receive {r : StreamRun} {io : RecvStream} {registry registry' : AcceptedFlowRegistry}
      {answer : Polled (Except ReceiveError ReceiveProgress)} {inbound' : InboundReliable}
      {receiver' : DeliveryEndpoint} : Registers flowId kr limit registry → Gives r io →
    r.inbound.pollStep io r.receiver registry = .ok (answer, inbound', receiver', registry') →
    Step ks kr flowId limit r { r with
      receiver := receiver'
      inbound := inbound'
      read := r.read ++ r.inbound.got io
      ended := r.ended.or (endedWith answer) }

/-- Two endpoints with any past, before the lifetime of either flow, and new bindings. -/
structure Starts (ks kr : DeliveryFlowKey) (flowId : FlowId) (limit : Nat) (r : StreamRun) :
    Prop where
  sender : ∃ (L : DeliveryScopeLimits) (ops : List DeliveryOp),
    ops.foldlM DeliveryEndpoint.step (.new L) = .ok r.sender
  receiver : ∃ (L : DeliveryScopeLimits) (ops : List DeliveryOp),
    ops.foldlM DeliveryEndpoint.step (.new L) = .ok r.receiver
  no_sender : r.sender.flows.get? ks = none ∧ r.senderOpened = false
  no_receiver : r.receiver.flows.get? kr = none ∧ r.receiverOpened = false
  outbound : ∃ state, OutboundState.new flowId limit = .ok state ∧
    r.outbound = ⟨flowId, ks, state, false, none, false⟩
  inbound : ∃ maxStagingBytes, InboundReliable.new false true maxStagingBytes = .ok r.inbound
  empty : r.accepted = [] ∧ r.committed = [] ∧ r.written = [] ∧ r.read = [] ∧ r.exposed = []
  unfinished : r.finished = false ∧ r.sent = none ∧ r.ended = none

/-- The states of all runs. -/
abbrev Run (ks kr : DeliveryFlowKey) (flowId : FlowId) (limit : Nat) : StreamRun → Prop :=
  Reachable (Starts ks kr flowId limit) (Step ks kr flowId limit)

/-! ### The invariant -/

/-- The sending end: what was written stands for the messages that were accepted. -/
structure Sending (ks : DeliveryFlowKey) (flowId : FlowId) (limit : Nat) (r : StreamRun) :
    Prop where
  side : ∃ L, SenderSide L ks r.sender r.senderOpened r.accepted
    (transfersOf (r.accepted.take r.committed.length))
  key : r.outbound.key = ks
  writes : r.outbound.state.Writes flowId limit ks r.accepted r.committed.length r.written
  custody : r.committed = List.range r.committed.length
  finishing : r.outbound.finishing = true → r.finished = true
  finished : r.finished = true →
    (r.outbound.finishing = true ∨ r.outbound.terminal = true) ∧
      r.written = streamBytes flowId (r.accepted.take r.committed.length)
  sent : ∀ termination, r.sent = some termination → r.outbound.terminal = true ∧
    r.finished = true ∧ r.committed.length = r.accepted.length ∧
    r.sender.flows.get? ks = none ∧ r.senderOpened = true ∧
    termination = OutboundReliable.normalTermination ks

/-- The receiving end: what was read stands for the messages that were buffered. -/
structure Receiving (kr : DeliveryFlowKey) (flowId : FlowId) (limit : Nat) (r : StreamRun) :
    Prop where
  side : ∃ L k, ReceiverSide L kr r.receiver r.receiverOpened (transfersOf r.accepted) r.exposed ∧
    Buffers kr r.exposed.length k r.receiver ∧ r.exposed.length ≤ k ∧
    (r.receiverOpened = false → k = 0) ∧
    (r.inbound.terminal = false → r.inbound.Reads flowId kr limit r.accepted k r.read)
  read : r.read <+: r.written
  draining : r.inbound.draining = true → r.finished = true ∧ r.read = r.written
  ended : ∀ termination, r.ended = some termination → r.inbound.terminal = true ∧
    r.finished = true ∧ r.read = r.written ∧
    (∃ i ≤ r.accepted.length, r.read = streamBytes flowId (r.accepted.take i) ∧
      r.exposed = r.accepted.take i) ∧
    r.receiver.flows.get? kr = none ∧ r.receiverOpened = true ∧
    termination = OutboundReliable.normalTermination kr

/-- A flow whose lifetime is over stays away, and nothing is accepted, handed over or exposed. -/
theorem silent_of_over {L : DeliveryScopeLimits} {e e' : DeliveryEndpoint} {key : DeliveryFlowKey}
    {op : DeliveryOp} {reply : DeliveryReply} (hi : e.Inv L) (hf : e.flows.get? key = none)
    (hl : OneLifetime key e true op) (h : e.exec op = .ok (reply, e')) :
    Silent key op reply ∧ e'.flows.get? key = none := by
  obtain ⟨-, hx⟩ := DeliveryEndpoint.exec_effect hi h
  obtain ⟨hsilent, hnone | ⟨hopened, -⟩⟩ := hx.lifetime hf hl
  · exact ⟨hsilent, hnone⟩
  · cases hopened

theorem committedOn_nil {op : DeliveryOp} {reply : DeliveryReply}
    (hop : ∀ index, op ≠ .commitOutboundCustody ks index) : committedOn ks op reply = [] := by
  unfold committedOn
  split
  · rename_i k index transfer
    exact if_neg fun hk : k = ks => hop index (hk ▸ rfl)
  · rfl

/-- A stream that was finished, or whose binding is terminal, takes nothing more. -/
theorem Sending.taken_nil (h : Sending ks flowId limit r) (hfinished : r.finished = true)
    (io : SendStream) : r.outbound.taken io r.sender = [] := by
  rcases (h.finished hfinished).1 with hfinishing | hterminal
  · exact if_pos (.inr (.inr hfinishing))
  · exact if_pos (.inl hterminal)

theorem Sending.start (h : Starts ks kr flowId limit r) : Sending ks flowId limit r := by
  obtain ⟨⟨L, ops, hops⟩, -, ⟨hks, hopened⟩, -, ⟨state, hstate, hbinding⟩, -,
    ⟨ha, hc, hw, -, -⟩, hfinished, hsent, -⟩ := h
  obtain ⟨e, hrun, hi⟩ := DeliveryEndpoint.run_spec (DeliveryEndpoint.new_inv L) ops
  rw [hops, Except.ok.injEq] at hrun
  subst hrun
  refine ⟨⟨L, ?_⟩, ?_, ?_, ?_, ?_, ?_, ?_⟩
  · rw [ha, hc]
    exact .of_absent hi hks (fun _ => ⟨rfl, rfl⟩) Numbered.nil List.nil_prefix
  · rw [hbinding]
  · rw [ha, hc, hw, hbinding]
    exact OutboundState.writes_new hstate
  · rw [hc]
    rfl
  · intro hfinishing
    rw [hbinding] at hfinishing
    cases hfinishing
  · intro hfin
    rw [hfinished] at hfin
    cases hfin
  · intro termination hsome
    rw [hsent] at hsome
    cases hsome

/-- The host of the sender. -/
theorem Sending.host (h : Sending ks flowId limit r) {op : DeliveryOp} {reply : DeliveryReply}
    {sender' : DeliveryEndpoint} (hl : OneLifetime ks r.sender r.senderOpened op)
    (hop : ∀ index, op ≠ .commitOutboundCustody ks index)
    (hx : r.sender.exec op = .ok (reply, sender')) :
    Sending ks flowId limit { r with
      sender := sender'
      senderOpened := r.senderOpened || opensOn ks op reply
      accepted := r.accepted ++ acceptedOn ks op reply } := by
  obtain ⟨L, hs⟩ := h.side
  have htake : (r.accepted ++ acceptedOn ks op reply).take r.committed.length =
      r.accepted.take r.committed.length := List.take_append_of_le_length h.writes.count
  refine ⟨⟨L, ?_⟩, h.key, h.writes.extend _, h.custody, h.finishing, fun hfinished => ?_,
    fun termination hsent => ?_⟩
  · have hs' := hs.exec hl hx
    rw [committedOn_nil hop, List.append_nil, ← htake] at hs'
    exact hs'
  · obtain ⟨hstate, hwritten⟩ := h.finished hfinished
    exact ⟨hstate, hwritten.trans (congrArg _ htake.symm)⟩
  · obtain ⟨hterminal, hfinished, hall, hnone, hopened, hnormal⟩ := h.sent termination hsent
    rw [hopened] at hl
    obtain ⟨hsilent, hnone'⟩ := silent_of_over hs.inv hnone hl hx
    refine ⟨hterminal, hfinished, ?_, hnone', ?_, hnormal⟩
    · rw [hsilent.accepted, List.append_nil]
      exact hall
    · rw [hopened, Bool.true_or]

/-- The end of a flow keeps what is known of the sender. -/
theorem ends_sender {L : DeliveryScopeLimits} {e e' : DeliveryEndpoint} {opened : Bool}
    {accepted : List ExposedMessage} {committed : List DeliveryTransfer} {op : DeliveryOp}
    {reply : DeliveryReply} (hop : op = .failReliableCustody ks ∨ op = .terminateFlow ks .requested)
    (hs : SenderSide L ks e opened accepted committed) (h : e.exec op = .ok (reply, e')) :
    SenderSide L ks e' opened accepted committed := by
  have hquiet : OneLifetime ks e opened op ∧ opensOn ks op reply = false ∧
      acceptedOn ks op reply = [] ∧ committedOn ks op reply = [] := by
    rcases hop with rfl | rfl
    · exact ⟨fun _ _ _ heq => by (cases heq), rfl, rfl, rfl⟩
    · exact ⟨fun _ _ _ heq => by (cases heq), rfl, rfl, rfl⟩
  obtain ⟨hl, hopens, haccepted, hcommitted⟩ := hquiet
  have hs' := hs.exec hl h
  rwa [hopens, haccepted, hcommitted, Bool.or_false, List.append_nil, List.append_nil] at hs'

/-- The custody of the next message is handed over. -/
theorem commits_sender {L : DeliveryScopeLimits} {e e' : DeliveryEndpoint} {opened : Bool}
    {accepted : List ExposedMessage} {k : Nat} {a : ExposedMessage} (ha : accepted[k]? = some a)
    (hs : SenderSide L ks e opened accepted (transfersOf (accepted.take k)))
    (h : e.exec (.commitOutboundCustody ks k) = .ok (.committed (.ok (.ofMessage a)), e')) :
    SenderSide L ks e' opened accepted (transfersOf (accepted.take (k + 1))) := by
  have hs' := hs.exec (fun _ _ _ heq => by cases heq) h
  have hcommitted : committedOn ks (.commitOutboundCustody ks k)
      (.committed (.ok (DeliveryTransfer.ofMessage a))) = [.ofMessage a] := if_pos rfl
  rw [hcommitted] at hs'
  rw [List.take_add_one, ha, Option.toList_some, transfersOf, List.map_append]
  have hopens : opensOn ks (.commitOutboundCustody ks k)
      (.committed (.ok (DeliveryTransfer.ofMessage a))) = false := rfl
  have haccepted : acceptedOn ks (.commitOutboundCustody ks k)
      (.committed (.ok (DeliveryTransfer.ofMessage a))) = [] := rfl
  rwa [hopens, haccepted, Bool.or_false, List.append_nil] at hs'

/-- A binding that is not terminal did not close, and finishes if its stream was finished. -/
theorem Sending.open_of (h : Sending ks flowId limit r) (hterminal : r.outbound.terminal = false) :
    r.sent = none ∧ (r.finished = true → r.outbound.finishing = true) := by
  constructor
  · cases hsent : r.sent with
    | none => rfl
    | some t =>
      rw [(h.sent t hsent).1] at hterminal
      cases hterminal
  · intro hfinished
    refine (h.finished hfinished).1.resolve_right fun hyes => ?_
    rw [hyes] at hterminal
    cases hterminal

/-- A step of the sending binding. -/
theorem Sending.send (h : Sending ks flowId limit r) {io : SendStream}
    {registry registry' : AcceptedFlowRegistry}
    {answer : Polled (Except SendError SendProgress)} {outbound' : OutboundReliable}
    {sender' : DeliveryEndpoint}
    (hx : r.outbound.pollStep io r.sender registry = .ok (answer, outbound', sender', registry')) :
    Sending ks flowId limit { r with
      sender := sender'
      outbound := outbound'
      committed := r.committed ++ custodyOf answer
      written := r.written ++ r.outbound.taken io r.sender
      sent := r.sent.or (sentWith answer) } := by
  obtain rfl := h.key
  obtain ⟨L, hs⟩ := h.side
  obtain ⟨k', hpolls⟩ := OutboundReliable.pollStep_polls hs h.writes hx
  generalize r.written ++ r.outbound.taken io r.sender = written at hpolls ⊢
  have hkeep : ∀ t, r.sent.or none = some t → r.outbound.terminal = false → False :=
    fun t ht hterminal => by
      rw [(h.open_of hterminal).1] at ht
      cases ht
  cases hpolls with
  | refused hterminal =>
    rw [show custodyOf (some (.error .terminal)) = [] from rfl, List.append_nil,
      show sentWith (some (.error .terminal)) = none from rfl, Option.or_none]
    exact h
  | pending hterminal hw =>
    rw [show custodyOf none = [] from rfl, List.append_nil]
    exact ⟨⟨L, hs⟩, rfl, hw, h.custody, h.finishing, h.finished,
      fun t ht => (hkeep t ht hterminal).elim⟩
  | idle hterminal hfinishing hw =>
    rw [show custodyOf (some (.ok .idle)) = [] from rfl, List.append_nil]
    exact ⟨⟨L, hs⟩, rfl, hw, h.custody, h.finishing, h.finished,
      fun t ht => (hkeep t ht hterminal).elim⟩
  | @progressed _ _ bytes hterminal hfinishing hw =>
    rw [show custodyOf (some (.ok (.progressed bytes))) = [] from rfl, List.append_nil]
    refine ⟨⟨L, hs⟩, rfl, hw, h.custody, h.finishing, fun hfinished => ?_,
      fun t ht => (hkeep t ht hterminal).elim⟩
    rw [(h.open_of hterminal).2 hfinished] at hfinishing
    cases hfinishing
  | committed hterminal hfinishing hw ha hexec =>
    have hlen : (r.committed ++ custodyOf (some (.ok (.committed r.committed.length)))).length =
        r.committed.length + 1 := List.length_append
    refine ⟨⟨L, ?_⟩, rfl, ?_, ?_, h.finishing, fun hfinished => ?_,
      fun t ht => (hkeep t ht hterminal).elim⟩
    · rw [hlen]
      exact commits_sender ha hs hexec
    · rw [hlen]
      exact hw
    · rw [hlen, List.range_succ, ← h.custody]
      rfl
    · rw [(h.open_of hterminal).2 hfinished] at hfinishing
      cases hfinishing
  | @closed termination _ hterminal hfinishing hack hd hflow hnone hnormal hexec =>
    obtain ⟨f, hf⟩ := hflow
    rw [show custodyOf (some (.ok (.closed termination))) = [] from rfl, List.append_nil]
    have hfinished := h.finishing hfinishing
    refine ⟨⟨L, ends_sender (.inr rfl) hs hexec⟩, rfl, h.writes, h.custody,
      fun hno => by (cases hno), fun _ => ⟨.inr rfl, (h.finished hfinished).2⟩, fun t ht => ?_⟩
    rw [(h.open_of hterminal).1] at ht
    obtain rfl := Option.some.inj ht
    have hall := OutboundState.complete_of_drained hs hf hd
    exact ⟨rfl, hfinished, le_antisymm h.writes.count hall, hnone, hs.opened_of_flow hf, hnormal⟩
  | lost hterminal hw =>
    rw [show custodyOf (some (.error (.io .connectionLost))) = [] from rfl, List.append_nil]
    exact ⟨⟨L, hs⟩, rfl, hw, h.custody, h.finishing, fun hfinished =>
      ⟨.inr rfl, (h.finished hfinished).2⟩, fun t ht => (hkeep t ht hterminal).elim⟩
  | @failed _ error _ _ hterminal hw hexec =>
    rw [show custodyOf (some (.error error)) = [] from rfl, List.append_nil]
    exact ⟨⟨L, ends_sender (.inl rfl) hs hexec⟩, rfl, hw, h.custody, h.finishing,
      fun hfinished => ⟨.inr rfl, (h.finished hfinished).2⟩,
      fun t ht => (hkeep t ht hterminal).elim⟩

/-- A request to finish. -/
theorem Sending.finish (h : Sending ks flowId limit r) {granted : Except IoFailure Unit}
    {result : Except SendError Unit} {outbound' : OutboundReliable}
    (hx : r.outbound.requestFinishNormal granted r.sender = .ok (result, outbound')) :
    Sending ks flowId limit { r with
      outbound := outbound'
      finished := r.finished || result.toOption.isSome } := by
  obtain ⟨L, hs⟩ := h.side
  rcases OutboundReliable.requestFinishNormal_writes (h.key ▸ hs) (h.key ▸ h.writes) hx with
    ⟨state, error, hstate, rfl, rfl⟩ | ⟨rfl, rfl, hterminal, hfinishing, hall, hwhole⟩
  · rw [h.key] at hstate
    refine ⟨h.side, h.key, hstate, h.custody, fun hfin => ?_, fun hfin => ?_, fun t ht => ?_⟩
    · exact Bool.or_eq_true_iff.mpr (.inl (h.finishing hfin))
    · exact h.finished ((Bool.or_eq_true_iff.mp hfin).resolve_right fun hno => by cases hno)
    · obtain ⟨hterminal, hfin, hrest⟩ := h.sent t ht
      exact ⟨hterminal, Bool.or_eq_true_iff.mpr (.inl hfin), hrest⟩
  · refine ⟨h.side, h.key, h.writes, h.custody, fun _ => Bool.or_true _, fun _ => ⟨.inl rfl, ?_⟩,
      fun t ht => ?_⟩
    · rw [hall, List.take_length]
      exact hwhole
    · obtain ⟨hterminal', -⟩ := h.sent t ht
      rw [hterminal] at hterminal'
      cases hterminal'

theorem Receiving.start (h : Starts ks kr flowId limit r) : Receiving kr flowId limit r := by
  obtain ⟨-, ⟨L, ops, hops⟩, -, ⟨hkr, hopened⟩, -, ⟨staging, hinbound⟩,
    ⟨ha, -, hw, hread, hexposed⟩, -, -, hended⟩ := h
  obtain ⟨e, hrun, hi⟩ := DeliveryEndpoint.run_spec (DeliveryEndpoint.new_inv L) ops
  rw [hops, Except.ok.injEq] at hrun
  subst hrun
  have hnew : r.inbound = ⟨staging.get, .new, none, none, none, none, false, false⟩ :=
    (Except.ok.inj hinbound).symm
  refine ⟨⟨L, 0, ?_, .of_absent hkr, ?_, fun _ => rfl, fun _ => ?_⟩, ?_, fun hdraining => ?_,
    fun t ht => ?_⟩
  · rw [hexposed]
    exact .of_absent hi hkr (fun _ => rfl) List.nil_prefix
  · rw [hexposed]
    exact le_refl _
  · rw [hread, hnew]
    exact .unresolved rfl rfl rfl (FlowIdPrefix.holds_new flowId)
  · rw [hread]
    exact List.nil_prefix
  · rw [hnew] at hdraining
    cases hdraining
  · rw [hended] at ht
    cases ht

/-- More messages are accepted. -/
theorem Receiving.accepts (h : Receiving kr flowId limit r) (more : List ExposedMessage)
    (sender' : DeliveryEndpoint) (opened : Bool) :
    Receiving kr flowId limit { r with
      sender := sender', senderOpened := opened, accepted := r.accepted ++ more } := by
  obtain ⟨L, k, hr, hb, hshown, hk, hreads⟩ := h.side
  refine ⟨⟨L, k, ?_, hb, hshown, hk, fun hterminal => (hreads hterminal).extend more⟩, h.read,
    h.draining, fun t ht => ?_⟩
  · have hr' := hr.extend (transfersOf more)
    rwa [← List.map_append] at hr'
  · obtain ⟨hterminal, hfinished, hall, ⟨i, hi, hread, hexposed⟩, hrest⟩ := h.ended t ht
    refine ⟨hterminal, hfinished, hall, ⟨i, ?_, ?_, ?_⟩, hrest⟩
    · rw [List.length_append]
      exact hi.trans (Nat.le_add_right _ _)
    · rw [List.take_append_of_le_length hi]
      exact hread
    · rw [List.take_append_of_le_length hi]
      exact hexposed

/-- More bytes are written, unless the stream was finished. -/
theorem Receiving.sends (h : Receiving kr flowId limit r) (part : List UInt8)
    (hpart : r.finished = true → part = []) (sender' : DeliveryEndpoint)
    (outbound' : OutboundReliable) (committed' : List Nat) (finished' : Bool)
    (hfinished' : r.finished = true → finished' = true) (sent' : Option FlowTermination) :
    Receiving kr flowId limit { r with
      sender := sender', outbound := outbound', committed := committed',
      written := r.written ++ part, finished := finished', sent := sent' } := by
  have hsame : r.finished = true → r.written ++ part = r.written := fun hfinished => by
    rw [hpart hfinished, List.append_nil]
  refine ⟨h.side, h.read.trans (List.prefix_append _ _), fun hdraining => ?_, fun t ht => ?_⟩
  · obtain ⟨hfinished, hall⟩ := h.draining hdraining
    exact ⟨hfinished' hfinished, hall.trans (hsame hfinished).symm⟩
  · obtain ⟨hterminal, hfinished, hall, hrest⟩ := h.ended t ht
    exact ⟨hterminal, hfinished' hfinished, hall.trans (hsame hfinished).symm, hrest⟩

/-- The host of the receiver. -/
theorem Receiving.host (h : Receiving kr flowId limit r) (hn : Numbered r.accepted)
    {op : DeliveryOp} {reply : DeliveryReply} {receiver' : DeliveryEndpoint}
    (hl : OneLifetime kr r.receiver r.receiverOpened op) (hop : ¬ op.Receives kr)
    (hx : r.receiver.exec op = .ok (reply, receiver')) :
    Receiving kr flowId limit { r with
      receiver := receiver'
      receiverOpened := r.receiverOpened || opensOn kr op reply
      exposed := r.exposed ++ exposedOn kr op reply } := by
  obtain ⟨L, k, hr, hb, hshown, hk, hreads⟩ := h.side
  have hsource := fun t (ht : t ∈ transfersOf r.accepted) =>
    hn.getElem?_of_mem List.prefix_rfl ht
  have hr' := hr.exec hsource hl (.of_not_receives hop) hx
  obtain ⟨hb', hshown'⟩ := hb.exec hr hk hshown hl hop hx
  refine ⟨⟨L, k, hr', hb', hshown', fun hno => hk (Bool.or_eq_false_iff.mp hno).1, hreads⟩,
    h.read, h.draining, fun t ht => ?_⟩
  obtain ⟨hterminal, hfinished, hall, ⟨i, hi, hread, hexposed⟩, hnone, hopened, hnormal⟩ :=
    h.ended t ht
  rw [hopened] at hl
  obtain ⟨hsilent, hnone'⟩ := silent_of_over hr.inv hnone hl hx
  refine ⟨hterminal, hfinished, hall, ⟨i, hi, hread, ?_⟩, hnone', ?_, hnormal⟩
  · rw [hsilent.exposed, List.append_nil]
    exact hexposed
  · rw [hopened, Bool.true_or]

/-- With nothing pending, everything that was buffered is exposed. -/
theorem exposed_all {L : DeliveryScopeLimits} {e : DeliveryEndpoint} {opened : Bool} {k : Nat}
    {source : List DeliveryTransfer} {exposed : List ExposedMessage}
    (hr : ReceiverSide L kr e opened source exposed) (hb : Buffers kr exposed.length k e)
    (hshown : exposed.length ≤ k) (husage : e.flowPendingUsage kr = some (0, 0)) :
    exposed.length = k := by
  obtain ⟨f, hf, hpending⟩ := Option.map_eq_some_iff.mp husage
  obtain ⟨byIndex, hrec, hdom⟩ := hb f hf
  have hempty : f.buffered.length = 0 :=
    (hr.inv.flows kr f hf).messages.symm.trans (Prod.mk.inj hpending).1
  by_contra hne
  obtain ⟨t, ht⟩ := Option.isSome_iff_exists.mp ((hdom exposed.length).mpr ⟨le_refl _, by omega⟩)
  have hmem : t ∈ f.buffered := by
    refine List.mem_append_right _ ?_
    rw [hrec]
    exact SortedMap.mem_values.mpr ⟨_, ht⟩
  exact absurd (List.length_pos_of_mem hmem) (by omega)

/-- What was exposed are the first messages. -/
theorem exposed_take {L : DeliveryScopeLimits} {e : DeliveryEndpoint} {opened : Bool}
    {accepted exposed : List ExposedMessage}
    (hr : ReceiverSide L kr e opened (transfersOf accepted) exposed) :
    exposed = accepted.take exposed.length := by
  have hshown := hr.shown
  rw [transfersOf, List.map_map, show DeliveryEndpoint.exposed ∘ DeliveryTransfer.ofMessage = id
    from rfl, List.map_id] at hshown
  exact List.prefix_iff_eq_take.mp hshown

/-- A step of the receiving binding. -/
theorem Receiving.receive (hsend : Sending ks flowId limit r) (h : Receiving kr flowId limit r)
    {io : RecvStream} {registry registry' : AcceptedFlowRegistry}
    {answer : Polled (Except ReceiveError ReceiveProgress)} {inbound' : InboundReliable}
    {receiver' : DeliveryEndpoint} (hreg : Registers flowId kr limit registry) (hgives : Gives r io)
    (hx : r.inbound.pollStep io r.receiver registry =
      .ok (answer, inbound', receiver', registry')) :
    Receiving kr flowId limit { r with
      receiver := receiver'
      inbound := inbound'
      read := r.read ++ r.inbound.got io
      ended := r.ended.or (endedWith answer) } := by
  obtain ⟨L, k, hr, hb, hshown, hk, hreads⟩ := h.side
  obtain ⟨L', hs⟩ := hsend.side
  obtain ⟨k', hle, hunopened, hr', hb', hpolls⟩ := InboundReliable.pollStep_stepping hreads hreg
    (hgives.bytes.trans hsend.writes.isPrefix)
    (fun i a ha hlt => hsend.writes.fits_of_lt ha (hlt.trans_le hgives.bytes.length_le)) hr
    hs.numbered hb hshown hk hx
  have hshown' := hshown.trans hle
  have hbytes := hgives.bytes
  generalize r.read ++ r.inbound.got io = read at hpolls hbytes ⊢
  -- what follows from the end of the stream
  have hfin : r.inbound.terminal = false → (r.inbound.draining = true ∨ io.read = some (.ok [])) →
      r.finished = true ∧ r.read = r.written := fun hterminal hend => by
    rcases hend with hdraining | hread
    · exact h.draining hdraining
    · cases hdraining : r.inbound.draining with
      | true => exact h.draining hdraining
      | false => exact hgives.fin hterminal hdraining hread
  have hstill : ∀ part, r.read ++ part <+: r.written → r.inbound.draining = true →
      r.finished = true ∧ r.read ++ part = r.written := fun part hpart hdraining => by
    obtain ⟨hfinished, hall⟩ := h.draining hdraining
    refine ⟨hfinished, ?_⟩
    rw [← hall] at hpart ⊢
    exact (List.prefix_append _ _).eq_of_length_le hpart.length_le |>.symm
  have hkeep : ∀ t, r.ended.or none = some t → r.inbound.terminal = false → False :=
    fun t ht hterminal => by
      rw [Option.or_none] at ht
      rw [(h.ended t ht).1] at hterminal
      cases hterminal
  have hside : (inbound'.terminal = false → inbound'.Reads flowId kr limit r.accepted k' read) →
      ∃ L k, ReceiverSide L kr receiver' r.receiverOpened (transfersOf r.accepted) r.exposed ∧
        Buffers kr r.exposed.length k receiver' ∧ r.exposed.length ≤ k ∧
        (r.receiverOpened = false → k = 0) ∧
        (inbound'.terminal = false → inbound'.Reads flowId kr limit r.accepted k read) :=
    fun hreads' => ⟨L, k', hr', hb', hshown', hunopened, hreads'⟩
  cases hpolls with
  | refused hterminal =>
    rw [show endedWith (some (.error .terminal)) = none from rfl, Option.or_none]
    exact h
  | pending hterminal hread =>
    exact ⟨hside hreads, hbytes, h.draining, fun t ht => (hkeep t ht hterminal).elim⟩
  | @read _ _ progress _ _ hterminal hterminal' hdraining' hreads' hbuffering hopen =>
    have hnone : endedWith (some (.ok progress)) = none := by
      cases progress with
      | closed key' termination => exact absurd rfl (hopen key' termination)
      | progressed => rfl
      | associated => rfl
      | messagesBuffered => rfl
      | draining => rfl
    rw [hnone]
    refine ⟨hside fun _ => hreads', hbytes, fun hdraining => ?_,
      fun t ht => (hkeep t ht hterminal).elim⟩
    rw [show inbound'.draining = true from hdraining] at hdraining'
    cases hdraining'
  | draining flow usage hterminal hend hflow hkey hreads' husage hne =>
    exact ⟨hside fun _ => hreads', hbytes, fun _ => hfin hterminal hend,
      fun t ht => (hkeep t ht hterminal).elim⟩
  | @closed flow termination _ hterminal hend hflow hkey hreads' husage hnone hnormal hexec =>
    obtain ⟨hfinished, hall⟩ := hfin hterminal hend
    refine ⟨hside fun hno => (by cases hno), hbytes, fun _ => ⟨hfinished, hall⟩, fun t ht => ?_⟩
    have hsome : t = termination := by
      cases hended : r.ended with
      | none =>
        rw [hended] at ht
        exact (Option.some.inj ht).symm
      | some t' =>
        rw [(h.ended t' hended).1] at hterminal
        cases hterminal
    obtain ⟨f, hf, -⟩ := Option.map_eq_some_iff.mp husage
    have hlen := exposed_all hr hb hshown husage
    refine ⟨rfl, hfinished, hall, ⟨k, ?_, ?_, ?_⟩, hnone, hr.opened_of_flow hf, hsome ▸ hnormal⟩
    · exact hreads'.count_le
    · exact hreads'.drained rfl
    · rw [← hlen]
      exact exposed_take hr
  | gone flow hterminal hend hflow hkey hnone =>
    exact ⟨hside fun hno => (by cases hno), hbytes, fun _ => hfin hterminal hend,
      fun t ht => (hkeep t ht hterminal).elim⟩
  | lost hterminal hread =>
    exact ⟨hside fun hno => (by cases hno), hbytes, h.draining,
      fun t ht => (hkeep t ht hterminal).elim⟩
  | @unassociated part _ _ hterminal hflow hcause =>
    exact ⟨hside fun hno => (by cases hno), hbytes, fun hdraining => hstill part hbytes hdraining,
      fun t ht => (hkeep t ht hterminal).elim⟩
  | @failed _ part _ _ _ hterminal hfails hterminal' hkey hdraining' =>
    refine ⟨hside fun hno => ?_, hbytes, fun hdraining => hstill part hbytes (hdraining' hdraining),
      fun t ht => (hkeep t ht hterminal).elim⟩
    rw [hterminal'] at hno
    cases hno

structure Inv (ks kr : DeliveryFlowKey) (flowId : FlowId) (limit : Nat) (r : StreamRun) : Prop where
  sending : Sending ks flowId limit r
  receiving : Receiving kr flowId limit r

theorem Inv.numbered (h : Inv ks kr flowId limit r) : Numbered r.accepted := by
  obtain ⟨L, hs⟩ := h.sending.side
  exact hs.numbered

theorem Inv.step (h : Inv ks kr flowId limit r) (hstep : Step ks kr flowId limit r r') :
    Inv ks kr flowId limit r' := by
  cases hstep with
  | senderHost hl hop hx =>
    exact ⟨h.sending.host hl hop hx, h.receiving.accepts _ _ _⟩
  | send hx =>
    exact ⟨h.sending.send hx, h.receiving.sends _ (fun hfinished => h.sending.taken_nil hfinished _)
      _ _ _ _ id _⟩
  | @finish _ result outbound' hx =>
    have hreceiving := h.receiving.sends [] (fun _ => rfl) r.sender outbound' r.committed
      (r.finished || result.toOption.isSome)
      (fun hfinished => Bool.or_eq_true_iff.mpr (.inl hfinished)) r.sent
    rw [List.append_nil] at hreceiving
    exact ⟨h.sending.finish hx, hreceiving⟩
  | receiverHost hl hop hx =>
    exact ⟨⟨h.sending.side, h.sending.key, h.sending.writes, h.sending.custody,
      h.sending.finishing, h.sending.finished, h.sending.sent⟩,
      h.receiving.host h.numbered hl hop hx⟩
  | receive hreg hgives hx =>
    exact ⟨⟨h.sending.side, h.sending.key, h.sending.writes, h.sending.custody,
      h.sending.finishing, h.sending.finished, h.sending.sent⟩,
      h.receiving.receive h.sending hreg hgives hx⟩

theorem inv_reachable (h : Run ks kr flowId limit r) : Inv ks kr flowId limit r :=
  h.invariant (fun _ h => ⟨.start h, .start h⟩) fun _ _ hi hs => hi.step hs

/-! ### What the stream carries -/

/-- Why a step of the receiving binding fails that received `k` messages: there is no room or no
memory for one of the next messages, or something else than the bytes is at fault. -/
inductive Refusal (kr : DeliveryFlowKey) (flowId : FlowId) (limit : Nat) (r : StreamRun) (k : Nat)
    (registry : AcceptedFlowRegistry) (io : RecvStream) : ReceiveError → Prop where
  | io {failure : IoFailure} : io.read = some (.error failure) →
    Refusal kr flowId limit r k registry io (.io failure)
  | registry {error : RegistryError} {registry' : AcceptedFlowRegistry} :
    registry.associateInbound flowId = (.error error, registry') →
    Refusal kr flowId limit r k registry io (.registry error)
  | staging : r.inbound.maxStagingBytes < limit →
    Refusal kr flowId limit r k registry io
      (.adapterStagingBelowFlowMaximum limit r.inbound.maxStagingBytes)
  | framing {error : ReliableFrameError} :
    InboundFrames.new limit r.inbound.maxStagingBytes = .error error →
    Refusal kr flowId limit r k registry io (.framing error)
  | stopped {error : ReceiveError} :
    InboundFrames.Stops kr r.accepted io.reserves k r.receiver error →
    Refusal kr flowId limit r k registry io error

/-- The receiving binding works, and handed `k` messages to the flow. -/
structure Received (kr : DeliveryFlowKey) (flowId : FlowId) (limit : Nat) (r : StreamRun)
    (k : Nat) : Prop where
  complete : ∀ i < r.accepted.length,
    i < k ↔ (streamBytes flowId (r.accepted.take (i + 1))).length ≤ r.read.length
  known : r.inbound.flowId =
    if (varintBytes flowId.value).length ≤ r.read.length then some flowId else none
  shown : r.exposed = r.accepted.take r.exposed.length ∧ r.exposed.length ≤ k
  held : ∀ f, r.receiver.flows.get? kr = some f → ∃ byIndex next,
    f.receiver = .reliable byIndex next ∧ ∀ i t, byIndex.get? i = some t ↔
      r.exposed.length ≤ i ∧ i < k ∧ (transfersOf r.accepted)[i]? = some t
  finish : r.inbound.flow.isSome = true → ∃ frames, r.inbound.frames = some frames ∧
    (frames.finish = .ok () ↔
      ∃ i ≤ r.accepted.length, r.read = streamBytes flowId (r.accepted.take i))
  fails : ∀ io registry error inbound' receiver' registry', Registers flowId kr limit registry →
    Gives r io → r.inbound.pollStep io r.receiver registry =
      .ok (some (.error error), inbound', receiver', registry') →
    Refusal kr flowId limit r k registry io error

/-- The bytes on the stream are the messages that were accepted, custody is handed over with the
last byte of each, and what is read from them are the same messages. -/
structure Carries (ks kr : DeliveryFlowKey) (flowId : FlowId) (limit : Nat) (r : StreamRun) :
    Prop where
  written : r.written <+: streamBytes flowId r.accepted
  whole : ∀ io registry outbound' sender' registry',
    r.outbound.pollStep io r.sender registry =
      .ok (some (.ok .idle), outbound', sender', registry') →
    r.written = streamBytes flowId r.accepted
  once : r.committed = List.range r.committed.length
  custody : ∀ i < r.accepted.length,
    i ∈ r.committed ↔ (streamBytes flowId (r.accepted.take (i + 1))).length ≤ r.written.length
  queue : ∀ f, r.sender.flows.get? ks = some f →
    f.outbound = transfersOf (r.accepted.drop r.committed.length)
  read : r.read <+: r.written
  received : r.inbound.terminal = false → ∃ k, Received kr flowId limit r k

/-- A step of a working receiver fails for one of the reasons, never for the bytes. -/
theorem Inv.refusal (h : Inv ks kr flowId limit r) {L : DeliveryScopeLimits} {k : Nat}
    (hr : ReceiverSide L kr r.receiver r.receiverOpened (transfersOf r.accepted) r.exposed)
    (hb : Buffers kr r.exposed.length k r.receiver) (hshown : r.exposed.length ≤ k)
    (hk : r.receiverOpened = false → k = 0) (hterminal : r.inbound.terminal = false)
    (hreads : r.inbound.Reads flowId kr limit r.accepted k r.read) {io : RecvStream}
    {registry registry' : AcceptedFlowRegistry} {error : ReceiveError}
    {inbound' : InboundReliable} {receiver' : DeliveryEndpoint}
    (hreg : Registers flowId kr limit registry) (hgives : Gives r io)
    (hx : r.inbound.pollStep io r.receiver registry =
      .ok (some (.error error), inbound', receiver', registry')) :
    Refusal kr flowId limit r k registry io error := by
  have hwrites := h.sending.writes
  -- the stream ends behind whole messages
  have hend : io.read = some (.ok []) →
      ∃ i ≤ r.accepted.length, r.read = streamBytes flowId (r.accepted.take i) := fun hread => by
    obtain ⟨hfinished, hall⟩ : r.finished = true ∧ r.read = r.written := by
      cases hdraining : r.inbound.draining with
      | true => exact h.receiving.draining hdraining
      | false => exact hgives.fin hterminal hdraining hread
    exact ⟨_, hwrites.count, hall.trans (h.sending.finished hfinished).2⟩
  obtain ⟨k', -, -, -, -, hpolls⟩ := InboundReliable.pollStep_stepping (fun _ => hreads) hreg
    (hgives.bytes.trans hwrites.isPrefix)
    (fun i a ha hlt => hwrites.fits_of_lt ha (hlt.trans_le hgives.bytes.length_le)) hr
    h.numbered hb hshown hk hx
  generalize r.read ++ r.inbound.got io = read at hpolls
  generalize hanswer : some (Except.error error) = answer at hpolls
  cases hpolls with
  | refused hyes =>
    rw [hyes] at hterminal
    cases hterminal
  | lost _ hread =>
    cases hanswer
    exact .io hread
  | unassociated _ hflow hcause =>
    cases hanswer
    rcases hcause with ⟨failure, hread, rfl⟩ | ⟨hread, -⟩ | ⟨error', registry₁, hassociate, rfl⟩
    · exact .io hread
    · -- the `FlowId` would be incomplete, but the stream ends behind it
      obtain ⟨i, -, hall⟩ := hend hread
      cases hreads with
      | unresolved _ _ _ hp =>
        have hshort := hp.short
        rw [hall, streamBytes, List.length_append] at hshort
        omega
      | resolved _ _ hsome =>
        rw [hsome] at hflow
        cases hflow
    · exact .registry hassociate
  | failed _ hfails =>
    cases hanswer
    cases hfails with
    | io hread => exact .io hread
    | staging hlt => exact .staging hlt
    | framing hnew => exact .framing hnew
    | stopped hstops => exact .stopped hstops
    | truncated frames hread hframes hfinish =>
      cases hreads with
      | unresolved _ _ _ hp =>
        obtain ⟨i, -, hall⟩ := hend hread
        have hshort := hp.short
        rw [hall, streamBytes, List.length_append] at hshort
        omega
      | resolved flow frames' hflow hflowId hframes' hkey hbound hstaging hd hdrain =>
        rw [hframes] at hframes'
        cases hframes'
        have hok := ((hd.finish_iff hbound).1.trans (hd.finish_iff hbound).2).mpr (hend hread)
        rw [hfinish] at hok
        cases hok
  | pending => cases hanswer
  | read => cases hanswer
  | draining => cases hanswer
  | closed => cases hanswer
  | gone => cases hanswer

theorem Inv.received (h : Inv ks kr flowId limit r) (hterminal : r.inbound.terminal = false) :
    ∃ k, Received kr flowId limit r k := by
  obtain ⟨L, k, hr, hb, hshown, hk, hreads⟩ := h.receiving.side
  have hreads := hreads hterminal
  refine ⟨k, fun i hi => hreads.complete_iff hi, hreads.flowId_eq, ⟨exposed_take hr, hshown⟩,
    fun f hf => ?_, fun hflow => ?_, fun io registry error inbound' receiver' registry' hreg hgives
      hx => h.refusal hr hb hshown hk hterminal hreads hreg hgives hx⟩
  · obtain ⟨byIndex, hrec, hdom⟩ := hb f hf
    refine ⟨byIndex, _, hrec, fun i t => ?_⟩
    constructor
    · intro hget
      obtain ⟨hlo, hhi⟩ := (hdom i).mp (by rw [hget]; rfl)
      exact ⟨hlo, hhi, hr.buffered f hf byIndex _ hrec i t hget⟩
    · rintro ⟨hlo, hhi, hsource⟩
      obtain ⟨t', ht'⟩ := Option.isSome_iff_exists.mp ((hdom i).mpr ⟨hlo, hhi⟩)
      rw [hr.buffered f hf byIndex _ hrec i t' ht'] at hsource
      rw [ht', Option.some.inj hsource]
  · cases hreads with
    | unresolved hnone =>
      rw [hnone] at hflow
      cases hflow
    | resolved flow frames _ _ hframes _ hbound _ hd =>
      exact ⟨frames, hframes, (hd.finish_iff hbound).1.trans (hd.finish_iff hbound).2⟩

theorem Inv.carries (h : Inv ks kr flowId limit r) : Carries ks kr flowId limit r := by
  obtain ⟨L, hs⟩ := h.sending.side
  have hwrites := h.sending.writes
  refine ⟨hwrites.isPrefix, fun io registry outbound' sender' registry' hx => ?_, h.sending.custody,
    fun i hi => ?_, fun f hf => ?_, h.receiving.read, h.received⟩
  · obtain rfl := h.sending.key
    obtain ⟨k', hpolls⟩ := OutboundReliable.pollStep_polls hs hwrites hx
    generalize r.written ++ r.outbound.taken io r.sender = written at hpolls
    cases hpolls with
    | idle _ _ _ _ hwhole => exact hwhole
  · rw [← hwrites.complete_iff hi]
    conv_lhs => rw [h.sending.custody]
    exact List.mem_range
  · have hsplit : transfersOf r.accepted = transfersOf (r.accepted.take r.committed.length) ++
        transfersOf (r.accepted.drop r.committed.length) := by
      rw [← List.map_append, List.take_append_drop]
    exact List.append_cancel_left ((hs.queue f hf).trans hsplit)

/-- In every state of every run the stream carries the messages of its flow. -/
theorem stream_round_trip (h : Run ks kr flowId limit r) : Carries ks kr flowId limit r :=
  (inv_reachable h).carries

/-! ### A run -/

theorem sampleFlowId_le : 1 ≤ maxVarint := by decide

def sampleFlowId : FlowId := ⟨1, sampleFlowId_le⟩

def sampleStart : StreamRun where
  sender := .new sampleLimits
  outbound := ⟨sampleFlowId, sampleSender, ⟨[1], 0, 16, some 0, none⟩, false, none, false⟩
  senderOpened := false
  accepted := []
  committed := []
  written := []
  finished := false
  sent := none
  receiver := .new sampleLimits
  inbound := ⟨16, .new, none, none, none, none, false, false⟩
  receiverOpened := false
  read := []
  exposed := []
  ended := none

def sampleRegistry : AcceptedFlowRegistry :=
  ⟨.server, 4, SortedMap.empty.insert 1 ⟨sampleReceiver, .reliableOrdered, 16, some .unbound⟩⟩

theorem sampleRegistry_registers : Registers sampleFlowId sampleReceiver 16 sampleRegistry :=
  fun flow h => by
    cases (h : some (⟨sampleReceiver, .reliableOrdered, 16, some .unbound⟩ : RegisteredFlow) = _)
    exact ⟨rfl, rfl⟩

/-- A stream that takes one byte at a time, and whose finish is acknowledged. -/
def sampleSend : SendStream := ⟨fun _ => some (.ok 1), some (.ok none)⟩

def sampleRecv (chunk : List UInt8) : RecvStream := ⟨some (.ok chunk), fun _ => true⟩

theorem next_senderHost (h : Run ks kr flowId limit r) (op : DeliveryOp) {reply : DeliveryReply}
    {sender' : DeliveryEndpoint} (hl : OneLifetime ks r.sender r.senderOpened op)
    (hop : ∀ index, op ≠ .commitOutboundCustody ks index)
    (hx : r.sender.exec op = .ok (reply, sender')) :
    Run ks kr flowId limit { r with
      sender := sender'
      senderOpened := r.senderOpened || opensOn ks op reply
      accepted := r.accepted ++ acceptedOn ks op reply } :=
  h.next (.senderHost hl hop hx)

theorem next_send (h : Run ks kr flowId limit r) (io : SendStream)
    (registry : AcceptedFlowRegistry) {registry' : AcceptedFlowRegistry}
    {answer : Polled (Except SendError SendProgress)} {outbound' : OutboundReliable}
    {sender' : DeliveryEndpoint}
    (hx : r.outbound.pollStep io r.sender registry = .ok (answer, outbound', sender', registry')) :
    Run ks kr flowId limit { r with
      sender := sender'
      outbound := outbound'
      committed := r.committed ++ custodyOf answer
      written := r.written ++ r.outbound.taken io r.sender
      sent := r.sent.or (sentWith answer) } :=
  h.next (.send hx)

theorem next_finish (h : Run ks kr flowId limit r) (granted : Except IoFailure Unit)
    {result : Except SendError Unit} {outbound' : OutboundReliable}
    (hx : r.outbound.requestFinishNormal granted r.sender = .ok (result, outbound')) :
    Run ks kr flowId limit { r with
      outbound := outbound'
      finished := r.finished || result.toOption.isSome } :=
  h.next (.finish hx)

theorem next_receiverHost (h : Run ks kr flowId limit r) (op : DeliveryOp) {reply : DeliveryReply}
    {receiver' : DeliveryEndpoint} (hl : OneLifetime kr r.receiver r.receiverOpened op)
    (hop : ¬ op.Receives kr) (hx : r.receiver.exec op = .ok (reply, receiver')) :
    Run ks kr flowId limit { r with
      receiver := receiver'
      receiverOpened := r.receiverOpened || opensOn kr op reply
      exposed := r.exposed ++ exposedOn kr op reply } :=
  h.next (.receiverHost hl hop hx)

theorem next_receive (h : Run ks kr flowId limit r) (io : RecvStream)
    {registry registry' : AcceptedFlowRegistry}
    {answer : Polled (Except ReceiveError ReceiveProgress)} {inbound' : InboundReliable}
    {receiver' : DeliveryEndpoint} (hreg : Registers flowId kr limit registry)
    (hgives : Gives r io)
    (hx : r.inbound.pollStep io r.receiver registry =
      .ok (answer, inbound', receiver', registry')) :
    Run ks kr flowId limit { r with
      receiver := receiver'
      inbound := inbound'
      read := r.read ++ r.inbound.got io
      ended := r.ended.or (endedWith answer) } :=
  h.next (.receive hreg hgives hx)

/-- Both flows are established, and one message was accepted. -/
def sampleAccepted : { r // Run sampleSender sampleReceiver sampleFlowId 16 r } :=
  have h0 : Run sampleSender sampleReceiver sampleFlowId 16 sampleStart :=
    .start ⟨⟨_, [], rfl⟩, ⟨_, [], rfl⟩, ⟨rfl, rfl⟩, ⟨rfl, rfl⟩, ⟨_, rfl, rfl⟩, ⟨.nearest 16, rfl⟩,
      ⟨rfl, rfl, rfl, rfl, rfl⟩, rfl, rfl, rfl⟩
  have h1 := next_receiverHost h0
    (.establishFlow sampleReceiver .reliableOrdered samplePolicy sampleLimits)
    (fun _ _ _ h => by cases h; exact .inr ⟨rfl, rfl⟩) id rfl
  have h2 := next_senderHost h1
    (.establishFlow sampleSender .reliableOrdered samplePolicy sampleLimits)
    (fun _ _ _ h => by cases h; exact .inr ⟨rfl, rfl⟩) (fun _ h => by cases h) rfl
  ⟨_, next_senderHost h2 (.submit sampleSender [5, 6]) (fun _ _ _ h => by cases h)
    (fun _ h => by cases h) rfl⟩

/-- Three bytes of the stream, behind which the message is not complete. -/
theorem sample_reads : ∃ r, Run sampleSender sampleReceiver sampleFlowId 16 r ∧
    r.accepted = [⟨0, [5, 6]⟩] ∧ r.written = [1, 2, 5] ∧ r.read = [1, 2, 5] ∧
    r.committed = [] ∧ r.inbound.terminal = false := by
  have h1 := next_send sampleAccepted.property sampleSend sampleRegistry rfl
  have h2 := next_send h1 sampleSend sampleRegistry rfl
  have h3 := next_send h2 sampleSend sampleRegistry rfl
  have h4 := next_receive h3 (sampleRecv [1, 2, 5]) sampleRegistry_registers
    ⟨⟨[], rfl⟩, fun _ _ h => by cases h⟩ rfl
  exact ⟨_, h4, rfl, rfl, rfl, rfl, rfl⟩

theorem stream_round_trip_sample : ∃ r : StreamRun, r.accepted = [⟨0, [5, 6]⟩] ∧
    r.read = [1, 2, 5] ∧ r.committed = [] ∧ r.inbound.terminal = false ∧
    Carries sampleSender sampleReceiver sampleFlowId 16 r := by
  obtain ⟨r, hr, haccepted, -, hread, hcommitted, hterminal⟩ := sample_reads
  exact ⟨r, haccepted, hread, hcommitted, hterminal, stream_round_trip hr⟩

end StreamRun

end RunenNet
