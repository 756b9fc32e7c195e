import RunenNet.Quic.ReliableDecoder
import RunenNet.Quic.StreamSender

/-!
# What a receive stream reads

A binding reads the `FlowId` of its flow and then the frames of the messages, in chunks of any size.
Whatever the chunks, each message is handed to the flow at its own index when its last byte was
read, and what is kept back is a proper part of the next frame.
-/

namespace RunenNet

open Foundation

/-! ### The `FlowId` -/

namespace FlowIdPrefix

variable {flowId : FlowId} {read input rest : List UInt8} {p : FlowIdPrefix}

/-- A proper part of the `FlowId` was read. -/
structure Holds (flowId : FlowId) (read : List UInt8) (p : FlowIdPrefix) : Prop where
  bytes : p.bytes = read
  short : read.length < (varintBytes flowId.value).length
  needed : read ≠ [] → p.needed = (varintBytes flowId.value).length

theorem holds_new (flowId : FlowId) : Holds flowId [] .new :=
  ⟨rfl, varintBytes_length_pos flowId.le_max, fun h => absurd rfl h⟩

/-- More bytes of the `FlowId`, with all of its length known. -/
theorem consumeMore_holds (hshort : p.bytes.length < (varintBytes flowId.value).length)
    (hpart : p.bytes ++ input <+: varintBytes flowId.value ++ rest) :
    (∃ p', p.consumeMore (varintBytes flowId.value).length input =
        (.ok ⟨input.length, none⟩, p') ∧ Holds flowId (p.bytes ++ input) p') ∨
      ∃ p' n, p.consumeMore (varintBytes flowId.value).length input = (.ok ⟨n, some flowId⟩, p') ∧
        n ≤ input.length ∧ p.bytes ++ input.take n = varintBytes flowId.value := by
  rcases Nat.lt_or_ge (p.bytes.length + input.length) (varintBytes flowId.value).length
    with hmore | hfull
  · refine .inl ?_
    have htake : min ((varintBytes flowId.value).length - p.bytes.length) input.length =
        input.length := by omega
    have hlen : (p.bytes ++ input).length < (varintBytes flowId.value).length := by
      rw [List.length_append]
      exact hmore
    refine ⟨⟨p.bytes ++ input, (varintBytes flowId.value).length⟩, ?_, rfl, hlen, fun _ => rfl⟩
    simp only [consumeMore, htake, List.take_length, if_pos hlen.ne]
  · refine .inr ?_
    have htake : min ((varintBytes flowId.value).length - p.bytes.length) input.length =
        (varintBytes flowId.value).length - p.bytes.length := by omega
    have hbytes : p.bytes ++ input.take ((varintBytes flowId.value).length - p.bytes.length) =
        varintBytes flowId.value := by
      have hboth := congrArg (List.take (varintBytes flowId.value).length)
        (List.prefix_iff_eq_take.mp hpart)
      rw [List.take_take, List.length_append, Nat.min_eq_left hfull, List.take_left,
        List.take_append, List.take_of_length_le hshort.le] at hboth
      exact hboth
    refine ⟨⟨varintBytes flowId.value, (varintBytes flowId.value).length⟩,
      (varintBytes flowId.value).length - p.bytes.length, ?_, by omega, hbytes⟩
    have hdecode : decodeVarint (varintBytes flowId.value) =
        .ok (flowId.value, (varintBytes flowId.value).length) := by
      have h := decodeVarint_encode (encodeVarint_eq flowId.le_max) []
      rwa [List.append_nil] at h
    simp only [consumeMore, htake, hbytes, ne_eq, not_true_eq_false, if_false, hdecode,
      FlowId.fromWire_value]

/-- More bytes of the `FlowId`: all of them belong to it, or it is complete. -/
theorem consume_holds (hp : p.Holds flowId read) (hinput : input ≠ [])
    (hpart : read ++ input <+: varintBytes flowId.value ++ rest) :
    (∃ p', p.consume input = (.ok ⟨input.length, none⟩, p') ∧ Holds flowId (read ++ input) p') ∨
      ∃ p' n, p.consume input = (.ok ⟨n, some flowId⟩, p') ∧ n ≤ input.length ∧
        read ++ input.take n = varintBytes flowId.value := by
  obtain ⟨rfl, hshort, hneeded⟩ := hp
  have hmore := consumeMore_holds hshort hpart
  obtain ⟨first, tail, rfl⟩ := List.exists_cons_of_ne_nil hinput
  have hconsume : p.consume (first :: tail) =
      p.consumeMore (varintBytes flowId.value).length (first :: tail) := by
    obtain ⟨bytes, needed⟩ := p
    cases bytes with
    | nil =>
      obtain ⟨head, more, hcons, hlen⟩ := varintBytes_cons flowId.le_max
      rw [List.nil_append, hcons, List.cons_append, List.cons_prefix_cons] at hpart
      rw [hcons, List.length_cons, hlen, ← hpart.1]
      rfl
    | cons b bs =>
      rw [← hneeded (List.cons_ne_nil _ _)]
      rfl
  rwa [hconsume]

end FlowIdPrefix

/-! ### One frame after the other -/

namespace ReliableFrameDecoder

variable {limit staging : Nat} {d d' : ReliableFrameDecoder} {reserves : Bool}
  {input payload : List UInt8} {n : Nat}

/-- A decoder between two calls, within its limits. -/
structure Ready (limit staging : Nat) (d : ReliableFrameDecoder) : Prop where
  maximum : d.maxMessageBytes = limit
  memory : d.maxStagingBytes = staging
  state : d.state.Unfinished limit staging

theorem ready_new (h : new limit staging = .ok d) :
    limit ≤ maxVarint ∧ Ready limit staging d ∧ d.state.pending = [] := by
  obtain ⟨hle, rfl⟩ := new_ok h
  exact ⟨hle, ⟨rfl, rfl, .between⟩, rfl⟩

theorem consumePayload_message {expected consumed : Nat} {bytes : List UInt8}
    (h : (d.consumePayload expected bytes input consumed).1 = ⟨n, some payload⟩) :
    payload.length = expected ∧ payload = bytes ++ (input.drop consumed).take (n - consumed) ∧
      consumed ≤ n := by
  unfold consumePayload at h
  simp only at h
  split at h
  · rename_i hlen
    cases h
    exact ⟨hlen, by rw [Nat.add_sub_cancel_left], Nat.le_add_right _ _⟩
  · cases h

theorem startPayload_message {first : UInt8} {tail : List UInt8} {consumed : Nat}
    (hlen : tail.length + 1 = encodedLenFromFirst first) {r : FrameConsume}
    (h : d.startPayload reserves (first :: tail) input consumed = (.ok r, d'))
    (hr : r = ⟨n, some payload⟩) : first :: tail = varintBytes payload.length ∧
      payload = (input.drop consumed).take (n - consumed) ∧ consumed ≤ n := by
  rcases decodeVarint_whole hlen with hbad | ⟨claimed, -, hbytes, hok⟩
  · simp only [startPayload, hbad] at h
    cases h
  simp only [startPayload, hok] at h
  split at h
  · cases h
  · split at h
    · cases h
    · split at h
      · cases h
      · split at h
        · rename_i hzero
          cases h
          cases hr
          rw [hbytes, hzero, Nat.sub_self, List.take_zero]
          exact ⟨rfl, rfl, le_refl _⟩
        · split at h
          · cases h
          · cases h
            obtain ⟨hclaimed, hpayload, hle⟩ := consumePayload_message hr
            rw [hclaimed]
            exact ⟨hbytes, hpayload, hle⟩

theorem consumeLength_message {first : UInt8} {tail bytes : List UInt8}
    (hall : bytes ++ input = first :: tail) (hlt : bytes.length < encodedLenFromFirst first)
    {r : FrameConsume}
    (h : d.consumeLength reserves bytes (encodedLenFromFirst first) input = (.ok r, d'))
    (hr : r = ⟨n, some payload⟩) :
    bytes ++ input.take n = messageFrame payload := by
  unfold consumeLength at h
  simp only at h
  split at h
  · rename_i hlen
    -- the length begins with the same byte
    obtain ⟨tail', htail⟩ : ∃ tail', bytes ++ input.take
        (min input.length (encodedLenFromFirst first - bytes.length)) = first :: tail' := by
      have hprefix := (List.prefix_append_right_inj bytes).mpr
        (List.take_prefix (min input.length (encodedLenFromFirst first - bytes.length)) input)
      rw [hall] at hprefix
      generalize bytes ++ input.take
        (min input.length (encodedLenFromFirst first - bytes.length)) = read at hlen hprefix
      cases read with
      | nil =>
        rw [← hlen] at hlt
        exact absurd hlt (Nat.not_lt_zero _)
      | cons b bs => exact ⟨bs, by rw [(List.cons_prefix_cons.mp hprefix).1]⟩
    rw [htail] at h hlen
    obtain ⟨hbytes, hpayload, hle⟩ := startPayload_message hlen h hr
    rw [messageFrame, ← hbytes, ← htail, List.append_assoc]
    refine congrArg (bytes ++ ·) ?_
    conv_rhs => rw [hpayload]
    rw [← List.take_add, Nat.add_sub_cancel' hle]
  · cases h
    cases hr

/-- A message is handed out with the last byte of its frame. -/
theorem Ready.message (hd : d.Ready limit staging) {r : FrameConsume}
    (h : d.consume reserves input = (.ok r, d')) (hr : r = ⟨n, some payload⟩) :
    d.state.pending ++ input.take n = messageFrame payload := by
  obtain ⟨m, st, state⟩ := d
  obtain ⟨-, -, hstate⟩ := hd
  simp only at hstate
  cases hstate with
  | between =>
    cases input with
    | nil =>
      cases h
      cases hr
    | cons first rest =>
      have hlt : ([] : List UInt8).length < encodedLenFromFirst first := by
        rw [encodedLenFromFirst_eq, List.length_nil]
        positivity
      exact consumeLength_message rfl hlt h hr
  | length hlt => exact consumeLength_message List.cons_append hlt h hr
  | @payload expected bytes hlt =>
    cases h
    obtain ⟨hlen, hpayload, -⟩ := consumePayload_message hr
    rw [messageFrame, hlen]
    show varintBytes expected ++ bytes ++ input.take n = _
    rw [List.append_assoc]
    refine congrArg (varintBytes expected ++ ·) ?_
    rw [hpayload, Nat.sub_zero, List.drop_zero]

/-- A frame within the limits at the front of a stream is read, or there is no memory for it. -/
theorem parseFrames_frame (allows : Nat → Bool) (k : Nat) (hbound : payload.length ≤ maxVarint)
    (hlimit : payload.length ≤ limit) (hstaging : payload.length ≤ staging) (more : List UInt8) :
    (∃ later, parseFrames limit staging allows k (messageFrame payload ++ more) =
        (payload :: later, (parseFrames limit staging allows (k + 1) more).2)) ∨
      allows k = false ∧ parseFrames limit staging allows k (messageFrame payload ++ more) =
        ([], some .allocationFailed, .error .truncatedFrame) := by
  have hframe : messageFrame payload ++ more = varintBytes payload.length ++ (payload ++ more) :=
    List.append_assoc _ _ _
  rw [hframe]
  by_cases hallows : payload.length ≠ 0 → allows k = true
  · refine .inl ⟨(parseFrames limit staging allows (k + 1) more).1, ?_⟩
    rw [parseFrames_body hlimit hstaging hbound hallows, if_neg (by rw [List.length_append]; omega),
      List.take_left, List.drop_left]
  · obtain ⟨hne, hno⟩ := Classical.not_imp.mp hallows
    refine .inr ⟨Bool.not_eq_true _ ▸ hno, ?_⟩
    rw [parseFrames_ok (decodeVarint_encode (encodeVarint_eq hbound) _), if_neg (not_lt.mpr hlimit),
      if_neg (not_lt.mpr hstaging), if_pos ⟨hne, hno⟩]

/-- What a call does at a frame within the limits: all of the input belongs to the frame, the
message is complete, or there is no memory for it. -/
inductive FrameCall (limit staging : Nat) (payload input : List UInt8) (reserves : Bool)
    (d : ReliableFrameDecoder) : Except ReliableFrameError FrameConsume → ReliableFrameDecoder →
      Prop where
  | more {d' : ReliableFrameDecoder} : d'.Ready limit staging → d'.state.pending = d.state.pending ++ input →
    (d.state.pending ++ input).length < (messageFrame payload).length →
    FrameCall limit staging payload input reserves d (.ok ⟨input.length, none⟩) d'
  | message {n : Nat} {d' : ReliableFrameDecoder} : 0 < n → n ≤ input.length → d'.Ready limit staging → d'.state.pending = [] →
    d.state.pending ++ input.take n = messageFrame payload →
    FrameCall limit staging payload input reserves d (.ok ⟨n, some payload⟩) d'
  | starved {d' : ReliableFrameDecoder} : reserves = false →
    FrameCall limit staging payload input reserves d (.error .allocationFailed) d'

/-- Inside of a payload the allocator is not asked. -/
theorem Ready.live (hd : d.Ready limit staging) (reserves : Bool) : ∃ asked : Bool,
    Live limit staging (fun _ => asked) 0 d ∧ (asked = true ∨ asked = reserves) ∧
      ∀ input, d.consume asked input = d.consume reserves input := by
  cases hstate : d.state with
  | length bytes needed =>
    refine ⟨reserves, ⟨hd.maximum, hd.memory, hd.state, fun _ _ h => ?_⟩, .inr rfl, fun _ => rfl⟩
    rw [hstate] at h
    cases h
  | payload expected bytes =>
    refine ⟨true, ⟨hd.maximum, hd.memory, hd.state, fun _ _ _ => rfl⟩, .inl rfl, fun input => ?_⟩
    simp only [ReliableFrameDecoder.consume, hstate]

theorem Ready.frame (reserves : Bool) (hbound : limit ≤ maxVarint) (hd : d.Ready limit staging)
    (hlimit : payload.length ≤ limit) (hstaging : payload.length ≤ staging) {more : List UInt8}
    (hpart : d.state.pending ++ input <+: messageFrame payload ++ more) :
    FrameCall limit staging payload input reserves d (d.consume reserves input).1
      (d.consume reserves input).2 := by
  obtain ⟨asked, hlive, hasked, hsame⟩ := hd.live reserves
  have hcall := take_call hbound hlive input
  obtain ⟨rest, hrest⟩ := hpart
  rw [List.append_assoc] at hrest
  have hparse := parseFrames_frame (fun _ => asked) 0 (hlimit.trans hbound) hlimit hstaging
  rw [← hsame input]
  simp only [take] at hcall
  generalize hconsume : d.consume asked input = result at hcall
  obtain ⟨r, d'⟩ := result
  rcases r with error | ⟨n, message⟩
  · cases hcall with
    | failed _ _ _ hfailed =>
      have hboth := hfailed rest
      rw [hrest] at hboth
      rcases hparse more with ⟨later, hread⟩ | ⟨hno, hstarved⟩
      · rw [hread] at hboth
        cases hboth
      · rw [hstarved, Prod.mk.injEq, Prod.mk.injEq, Option.some.injEq] at hboth
        obtain ⟨-, rfl, -⟩ := hboth
        refine .starved ?_
        rcases hasked with hyes | hsame'
        · rw [hyes] at hno
          cases hno
        · rw [← hsame', hno]
  · cases hcall with
    | more hpending hlive' =>
      refine .more ⟨hlive'.message, hlive'.staging, hlive'.state⟩ hpending ?_
      by_contra hlong
      -- else the whole frame is pending, and the parse of what is pending has a message
      have hwhole : messageFrame payload <+: d.state.pending ++ input := by
        refine List.prefix_of_prefix_length_le (List.prefix_append _ more) ?_ (not_lt.mp hlong)
        rw [← hrest, ← List.append_assoc]
        exact List.prefix_append _ _
      obtain ⟨behind, hbehind⟩ := hwhole
      have hstopped := (agrees hbound).stopped hlive'
      simp only at hstopped
      rw [hpending, ← hbehind] at hstopped
      rcases hparse behind with ⟨later, hread⟩ | ⟨-, hstarved⟩
      · rw [hread] at hstopped
        cases hstopped
      · rw [hstarved] at hstopped
        cases hstopped
    | message hpos hle hmessage =>
      have hframe := hd.message hconsume rfl
      have hboth := hmessage rest
      rw [hrest] at hboth
      rcases hparse more with ⟨later, hread⟩ | ⟨-, hstarved⟩
      · rw [hread, Prod.mk.injEq, List.cons.injEq] at hboth
        obtain ⟨⟨rfl, -⟩, -⟩ := hboth
        exact .message hpos hle ⟨rfl, rfl, .between⟩ rfl hframe
      · rw [hstarved] at hboth
        cases hboth

end ReliableFrameDecoder

/-! ### What the flow holds -/

/-- The index of message `k`, as long as there are indices. -/
def indexAfter (k : Nat) : Option Nat := if k ≤ u64Max then some k else none

/-- The operation hands a message to the flow at `key` as received. -/
def DeliveryOp.Receives (key : DeliveryFlowKey) : DeliveryOp → Prop
  | .receive k _ | .receiveTransportPayload k _ _ => k = key
  | _ => False

/-- The transfers of the messages that were accepted. -/
abbrev transfersOf (accepted : List ExposedMessage) : List DeliveryTransfer :=
  accepted.map DeliveryTransfer.ofMessage

namespace DeliveryEndpoint

variable {L : DeliveryScopeLimits} {e e' : DeliveryEndpoint} {key : DeliveryFlowKey}
  {f : FlowState} {op : DeliveryOp} {reply : DeliveryReply} {opened : Bool}
  {accepted exposed : List ExposedMessage} {source : List DeliveryTransfer} {k : Nat}

/-- Of the first `k` messages the flow holds those that were not exposed. -/
def Buffers (key : DeliveryFlowKey) (shown k : Nat) (e : DeliveryEndpoint) : Prop :=
  ∀ f, e.flows.get? key = some f → ∃ byIndex, f.receiver = .reliable byIndex (indexAfter shown) ∧
    ∀ i, (byIndex.get? i).isSome = true ↔ shown ≤ i ∧ i < k

theorem Buffers.of_flow {shown : Nat} (hf : e.flows.get? key = some f)
    {byIndex : SortedMap Nat DeliveryTransfer}
    (hr : f.receiver = .reliable byIndex (indexAfter shown))
    (hdom : ∀ i, (byIndex.get? i).isSome = true ↔ shown ≤ i ∧ i < k) :
    Buffers key shown k e := fun g hg => by
  rw [hf] at hg
  cases hg
  exact ⟨byIndex, hr, hdom⟩

theorem Buffers.of_absent {shown : Nat} (hf : e.flows.get? key = none) :
    Buffers key shown k e := fun g hg => by
  rw [hf] at hg
  cases hg

theorem Honest.of_not_receives (h : ¬ op.Receives key) : Honest key source op where
  receive := fun _ heq => absurd (heq ▸ rfl) h
  payload := fun _ _ heq => absurd (heq ▸ rfl) h

/-- Any operation that does not hand a message to the flow. -/
theorem Buffers.exec (hr : ReceiverSide L key e opened source exposed)
    (hb : Buffers key exposed.length k e) (hk : opened = false → k = 0)
    (hshown : exposed.length ≤ k) (hl : OneLifetime key e opened op) (hop : ¬ op.Receives key)
    (h : e.exec op = .ok (reply, e')) :
    Buffers key (exposed ++ exposedOn key op reply).length k e' ∧
      (exposed ++ exposedOn key op reply).length ≤ k := by
  obtain ⟨hi', hx⟩ := exec_effect hr.inv h
  cases hf : e.flows.get? key with
  | none =>
    obtain ⟨hsilent, hafter⟩ := hx.lifetime hf hl
    rw [hsilent.exposed, List.append_nil]
    refine ⟨?_, hshown⟩
    rcases hafter with hnone | ⟨hopened, -, policy, hnew⟩
    · exact .of_absent hnone
    · obtain ⟨-, rfl⟩ := hr.unopened hopened
      refine .of_flow hnew rfl fun i => ?_
      rw [hk hopened]
      simp [SortedMap.get?_empty]
  | some f =>
    obtain ⟨byIndex, hrec, hdom⟩ := hb f hf
    have hx := hx.reliableEffect hf (hr.mode f hf)
    generalize hg : e'.flows.get? key = after at hx
    cases hx with
    | kept hsilent =>
      rw [hsilent.exposed, List.append_nil]
      exact ⟨.of_flow hg hrec hdom, hshown⟩
    | accepted _ _ _ hexp =>
      rw [hexp, List.append_nil]
      exact ⟨.of_flow hg hrec hdom, hshown⟩
    | committed _ _ _ hexp =>
      rw [hexp, List.append_nil]
      exact ⟨.of_flow hg hrec hdom, hshown⟩
    | buffered _ hwhich _ _ =>
      rcases hwhich with rfl | ⟨rfl, -⟩
      · exact absurd rfl hop
      · exact absurd rfl hop
    | @exposed byIndex' expected transfer hrec' ht _ _ hexp =>
      rw [hrec] at hrec'
      injection hrec' with hmap hnext
      subst hmap
      unfold indexAfter at hnext
      split at hnext
      swap
      · cases hnext
      cases hnext
      rw [hexp, List.length_append, List.length_singleton]
      refine ⟨.of_flow hg rfl fun i => ?_, ((hdom _).mp (by rw [ht]; rfl)).2⟩
      rw [SortedMap.get?_erase]
      split
      · rename_i hi
        subst hi
        simp only [Option.isSome_none, Bool.false_eq_true, false_iff]
        omega
      · rename_i hi
        rw [hdom i]
        omega
    | ended hsilent _ =>
      rw [hsilent.exposed, List.append_nil]
      exact ⟨.of_absent hg, hshown⟩

/-- Why the flow does not take a message that is handed to it at the next index. -/
inductive Refuses (key : DeliveryFlowKey) (e : DeliveryEndpoint) (payload : List UInt8) :
    Except DeliveryOperationError ReceiveOutcome → Prop where
  | unknown : e.flows.get? key = none → Refuses key e payload (.error .unknownFlow)
  | direction : key.direction ≠ .inbound → Refuses key e payload (.error .wrongDirection)
  | full (f : FlowState) : e.flows.get? key = some f →
    f.policy.maxMessageBytes.get < payload.length ∨ ¬ e.HasRoom key f 1 payload.length →
    Refuses key e payload (.ok .terminalReliableFailure)

/-- A transfer of the mode of the flow, for an inbound reliable flow. -/
theorem receive_reliable (hi : e.Inv L) (hf : e.flows.get? key = some f)
    (hd : key.direction = .inbound) (hm : f.mode = .reliableOrdered) {t : DeliveryTransfer}
    (hmode : t.mode = f.mode) {r : Except DeliveryOperationError ReceiveOutcome}
    (h : e.receive key t = .ok (r, e')) :
    r = .ok .terminalReliableFailure ∧ e'.flows.get? key = none ∧
        f.policy.maxMessageBytes.get < t.payloadLen ∨
      ReceivedReliable e e' key f t r := by
  simp only [receive, hd, ne_eq, not_true_eq_false, if_false, hf, hmode, hm, if_true] at h
  split at h
  · rename_i hlong
    obtain ⟨e₁, hdrop, -, hrec⟩ := drop_failed hi hf
      (show ReceiveFails e key f t .reliableInboundTooLarge from hlong)
    rw [hdrop] at h
    cases h
    cases hrec with
    | failed _ _ hflows =>
      exact .inl ⟨rfl, by rw [hflows, SortedMap.get?_erase_self], hlong⟩
  · obtain ⟨r', e₁, hreceive, -, hrec⟩ := receiveReliable_spec hi hf hd hm t
    rw [h] at hreceive
    cases hreceive
    exact .inr hrec

/-- The message at the next index is buffered, or refused for one of the reasons. -/
theorem receive_next (hr : ReceiverSide L key e opened (transfersOf accepted) exposed)
    (hn : Numbered accepted) (hb : Buffers key exposed.length k e) (hshown : exposed.length ≤ k)
    (hk : k ≤ u64Max) {a : ExposedMessage} (ha : accepted[k]? = some a)
    {r : Except DeliveryOperationError ReceiveOutcome}
    (h : e.receiveTransportPayload key k a.payload = .ok (r, e')) :
    ReceiverSide L key e' opened (transfersOf accepted) exposed ∧
      (r = .ok (.buffered 0) ∧ Buffers key exposed.length (k + 1) e' ∧
          (e'.flows.get? key).isSome = true ∨
        Refuses key e a.payload r ∧ Buffers key exposed.length k e' ∧
          (e' = e ∨ r = .ok .terminalReliableFailure)) := by
  have hindex : a.acceptedIndex = k := hn k a ha
  have hmem : DeliveryTransfer.ofMessage a ∈ transfersOf accepted :=
    List.mem_map_of_mem (List.mem_of_getElem? ha)
  have hsource := fun t (ht : t ∈ transfersOf accepted) =>
    hn.getElem?_of_mem List.prefix_rfl ht
  have hexec : e.exec (.receiveTransportPayload key k a.payload) = .ok (.received r, e') := by
    rw [exec, h]
    rfl
  have hafter : ReceiverSide L key e' opened (transfersOf accepted) exposed := by
    have hx := hr.exec hsource (fun _ _ _ heq => by cases heq)
      ⟨fun _ heq => by (cases heq), fun index payload heq => by
        cases heq
        rw [← hindex]
        exact hmem⟩ hexec
    rw [show opensOn key (.receiveTransportPayload key k a.payload) (.received r) = false from rfl,
      Bool.or_false] at hx
    rwa [show exposedOn key (.receiveTransportPayload key k a.payload) (.received r) = [] from rfl,
      List.append_nil] at hx
  refine ⟨hafter, ?_⟩
  unfold receiveTransportPayload at h
  split at h
  · rename_i hdir
    cases h
    exact .inr ⟨.direction hdir, hb, .inl rfl⟩
  rename_i hdir
  cases hf : e.flows.get? key with
  | none =>
    rw [hf] at h
    cases h
    exact .inr ⟨.unknown hf, hb, .inl rfl⟩
  | some f =>
    rw [hf] at h
    obtain ⟨byIndex, hrec, hdom⟩ := hb f hf
    have hm := hr.mode f hf
    rcases receive_reliable hr.inv hf (not_not.mp hdir) hm rfl h with
      ⟨rfl, hnone, hlong⟩ | hreceived
    · exact .inr ⟨.full f hf (.inl hlong), .of_absent hnone, .inr rfl⟩
    have hfresh : byIndex.get? k = none := by
      have hno := mt (hdom k).mp (fun hlt => absurd hlt.2 (lt_irrefl k))
      rwa [Bool.not_eq_true, Option.isSome_eq_false_iff, Option.isNone_iff_eq_none] at hno
    have hshown' : exposed.length ≤ u64Max := hshown.trans hk
    have hdup : duplicateOrConflict byIndex (indexAfter exposed.length)
        ⟨f.mode, k, a.payload⟩ = none := by
      unfold duplicateOrConflict
      rw [indexAfter, if_pos hshown']
      simp [hfresh, hshown]
    cases hreceived with
    | duplicate hrec' hdup' =>
      rw [hrec] at hrec'
      cases hrec'
      rw [hdup] at hdup'
      cases hdup'
    | @failed reason hfails hterm hflows =>
      have hnone : e'.flows.get? key = none := by rw [hflows, SortedMap.get?_erase_self]
      refine .inr ⟨.full f hf ?_, .of_absent hnone, .inr rfl⟩
      cases reason with
      | reliableInboundTooLarge => exact .inl hfails
      | reliableReceiverPressure => exact .inr hfails
      | reliableModeMismatch => exact absurd rfl hfails
      | reliableTransferConflict =>
        obtain ⟨byIndex', next', hrec', hconflict⟩ := hfails
        rw [hrec] at hrec'
        cases hrec'
        rw [hdup] at hconflict
        cases hconflict
      | requested => exact hfails.elim
      | connectionEnded => exact hfails.elim
      | reliableCustodyLost => exact hfails.elim
    | buffered hrec' _ _ hflows =>
      rw [hrec] at hrec'
      cases hrec'
      refine .inl ⟨rfl, .of_flow (by rw [hflows, SortedMap.get?_insert_self]) rfl fun i => ?_,
        by rw [hflows, SortedMap.get?_insert_self]; rfl⟩
      rw [SortedMap.get?_insert]
      split
      · rename_i hi
        subst hi
        simp only [Option.isSome_some, true_iff]
        exact ⟨hshown, Nat.lt_succ_self _⟩
      · rename_i hi
        rw [hdom i]
        have hne : i ≠ k := hi
        omega

theorem no_receive {payload : List UInt8} {outcome : ReceiveOutcome}
    (h : e.flows.get? key = none) :
    e.receiveTransportPayload key k payload ≠ .ok (.ok outcome, e') := by
  unfold receiveTransportPayload
  rw [h]
  split
  · exact fun heq => by cases heq
  · exact fun heq => by cases heq

/-- The flow takes the messages from the `k`th on, each at its own index. -/
inductive Buffering (key : DeliveryFlowKey) (accepted : List ExposedMessage) :
    Nat → DeliveryEndpoint → Nat → DeliveryEndpoint → Prop where
  | done {k : Nat} {e : DeliveryEndpoint} : Buffering key accepted k e k e
  | next {k k' : Nat} {e e₁ e' : DeliveryEndpoint} {a : ExposedMessage} : accepted[k]? = some a →
    e.receiveTransportPayload key k a.payload = .ok (.ok (.buffered 0), e₁) →
    Buffering key accepted (k + 1) e₁ k' e' → Buffering key accepted k e k' e'

end DeliveryEndpoint

namespace InboundFrames

open DeliveryEndpoint (ReceiverSide Buffers Refuses Buffering)

variable {L : DeliveryScopeLimits} {e e' : DeliveryEndpoint} {key : DeliveryFlowKey}
  {opened : Bool} {accepted exposed : List ExposedMessage} {k limit staging : Nat}
  {flowId : FlowId} {read total : List UInt8} {f f' : InboundFrames}

/-- Why message `k` is not handed over. -/
inductive Undelivered (key : DeliveryFlowKey) (e : DeliveryEndpoint) (k : Nat)
    (payload : List UInt8) : ReceiveError → Prop where
  | exhausted : u64Max < k → Undelivered key e k payload .acceptedIndexExhausted
  | core {error : DeliveryOperationError} : Refuses key e payload (.error error) →
    Undelivered key e k payload (.core error)
  | full {outcome : ReceiveOutcome} : Refuses key e payload (.ok outcome) →
    Undelivered key e k payload (.unexpectedCoreOutcome outcome)

/-- The flow is as present as it was, unless it could not take a message. -/
def Spares (key : DeliveryFlowKey) (e e' : DeliveryEndpoint) (error : ReceiveError) : Prop :=
  (e.flows.get? key).isSome = true → (e'.flows.get? key).isSome = true ∨
    error = .unexpectedCoreOutcome .terminalReliableFailure

theorem Spares.rfl {error : ReceiveError} : Spares key e e error := Or.inl

theorem deliver_next (hr : ReceiverSide L key e opened (transfersOf accepted) exposed)
    (hn : Numbered accepted) (hb : Buffers key exposed.length k e) (hshown : exposed.length ≤ k)
    (hnext : f.nextAcceptedIndex = indexAfter k) {a : ExposedMessage} (ha : accepted[k]? = some a)
    {r : Except ReceiveError Unit} (h : f.deliver e key a.payload = .ok (r, f', e')) :
    ReceiverSide L key e' opened (transfersOf accepted) exposed ∧
      (r = .ok () ∧ f' = { f with nextAcceptedIndex := indexAfter (k + 1) } ∧
          Buffers key exposed.length (k + 1) e' ∧ (e'.flows.get? key).isSome = true ∧
          e.receiveTransportPayload key k a.payload = .ok (.ok (.buffered 0), e') ∨
        ∃ error, r = .error error ∧ Undelivered key e k a.payload error ∧
          Buffers key exposed.length k e' ∧ Spares key e e' error) := by
  unfold deliver at h
  rw [hnext, indexAfter] at h
  by_cases hk : k ≤ u64Max
  swap
  · rw [if_neg hk] at h
    cases h
    exact ⟨hr, .inr ⟨_, rfl, .exhausted (not_le.mp hk), hb, .rfl⟩⟩
  rw [if_pos hk] at h
  simp only [Checked.bind_eq_ok] at h
  obtain ⟨⟨res, e₁⟩, hreceive, h⟩ := h
  obtain ⟨hr', hcase⟩ := DeliveryEndpoint.receive_next hr hn hb hshown hk ha hreceive
  rcases hcase with ⟨rfl, hb', hsome⟩ | ⟨hrefuses, hb', hsame⟩
  · cases h
    exact ⟨hr', .inl ⟨rfl, rfl, hb', hsome, hreceive⟩⟩
  · cases res with
    | error error =>
      cases h
      obtain rfl := hsame.resolve_right fun heq => by cases heq
      exact ⟨hr', .inr ⟨_, rfl, .core hrefuses, hb', .rfl⟩⟩
    | ok outcome =>
      have hne : outcome ≠ .buffered 0 := by
        cases hrefuses
        exact fun heq => by cases heq
      simp only [if_pos hne] at h
      cases h
      refine ⟨hr', .inr ⟨_, rfl, .full hrefuses, hb', fun _ => .inr ?_⟩⟩
      cases hrefuses
      rfl

/-- The frames of `k` messages were read, and a proper part of the next one. -/
structure Decodes (flowId : FlowId) (limit staging : Nat) (accepted : List ExposedMessage)
    (k : Nat) (read : List UInt8) (f : InboundFrames) : Prop where
  ready : f.decoder.Ready limit staging
  next : f.nextAcceptedIndex = indexAfter k
  count : k ≤ accepted.length
  read : read = streamBytes flowId (accepted.take k) ++ f.decoder.state.pending
  short : f.decoder.state.pending = [] ∨ ∃ a, accepted[k]? = some a ∧
    f.decoder.state.pending.length < (messageFrame a.payload).length

/-- More messages may be accepted at any time. -/
theorem Decodes.extend (h : Decodes flowId limit staging accepted k read f)
    (more : List ExposedMessage) : Decodes flowId limit staging (accepted ++ more) k read f where
  ready := h.ready
  next := h.next
  count := h.count.trans (List.length_append ▸ Nat.le_add_right _ _)
  read := by rw [List.take_append_of_le_length h.count, h.read]
  short := by
    rcases h.short with hnil | ⟨a, ha, hshort⟩
    · exact .inl hnil
    · refine .inr ⟨a, ?_, hshort⟩
      rw [List.getElem?_append_left (List.getElem?_eq_some_iff.mp ha).1, ha]

/-- A message was read when its last byte was read. -/
theorem Decodes.complete_iff (h : Decodes flowId limit staging accepted k read f) {i : Nat}
    (hi : i < accepted.length) :
    i < k ↔ (streamBytes flowId (accepted.take (i + 1))).length ≤ read.length := by
  rw [h.read, List.length_append]
  constructor
  · intro hik
    have hmore : accepted.take (i + 1) <+: accepted.take k := List.take_prefix_take_left hik
    exact (streamBytes_mono _ hmore).length_le.trans (Nat.le_add_right _ _)
  · intro hle
    by_contra hik
    have hmore : accepted.take (k + 1) <+: accepted.take (i + 1) :=
      List.take_prefix_take_left (by omega)
    have hlong := (streamBytes_mono flowId hmore).length_le.trans hle
    have hk : k < accepted.length := by omega
    have ha := List.getElem?_eq_getElem hk
    rw [streamBytes_take_succ ha, List.length_append] at hlong
    have hpos := messageFrame_length_pos accepted[k].payload
    rcases h.short with hnil | ⟨a, ha', hshort⟩
    · rw [hnil, List.length_nil] at hlong
      omega
    · rw [Option.some.inj (ha'.symm.trans ha)] at hshort
      omega

/-- Why the rest of a chunk is not read: the allocator or the flow refuses one of its messages,
after the flow took the ones before it. -/
inductive Stops (key : DeliveryFlowKey) (accepted : List ExposedMessage) (reserves : Nat → Bool)
    (k : Nat) (e : DeliveryEndpoint) : ReceiveError → Prop where
  | starved {k₁ : Nat} {e₁ : DeliveryEndpoint} (left : Nat) : Buffering key accepted k e k₁ e₁ →
    reserves left = false → Stops key accepted reserves k e (.framing .allocationFailed)
  | refused {k₁ : Nat} {e₁ : DeliveryEndpoint} {a : ExposedMessage} {error : ReceiveError} :
    Buffering key accepted k e k₁ e₁ → accepted[k₁]? = some a →
    Undelivered key e₁ k₁ a.payload error → Stops key accepted reserves k e error

theorem Stops.next {reserves : Nat → Bool} {e₁ : DeliveryEndpoint} {a : ExposedMessage}
    (ha : accepted[k]? = some a)
    (hreceive : e.receiveTransportPayload key k a.payload = .ok (.ok (.buffered 0), e₁))
    {error : ReceiveError} (h : Stops key accepted reserves (k + 1) e₁ error) :
    Stops key accepted reserves k e error := by
  cases h with
  | starved left hbuffering hno => exact .starved left (.next ha hreceive hbuffering) hno
  | refused hbuffering ha' hundelivered =>
    exact .refused (.next ha hreceive hbuffering) ha' hundelivered

/-- The message to which the bytes behind `read` belong. -/
theorem Decodes.next_message (hd : Decodes flowId limit staging accepted k read f)
    {input : List UInt8} (hinput : input ≠ [])
    (htotal : read ++ input <+: streamBytes flowId accepted) :
    ∃ a, accepted[k]? = some a ∧
      (streamBytes flowId (accepted.take k)).length < (read ++ input).length ∧
      f.decoder.state.pending ++ input <+: messageFrame a.payload ++
        (accepted.drop (k + 1)).flatMap fun a => messageFrame a.payload := by
  have hlong : (streamBytes flowId (accepted.take k)).length < (read ++ input).length := by
    have hpos := List.length_pos_of_ne_nil hinput
    rw [hd.read, List.length_append, List.length_append]
    omega
  have hk : k < accepted.length := by
    by_contra hk
    rw [List.take_of_length_le (not_lt.mp hk)] at hlong
    exact absurd htotal.length_le (not_le.mpr hlong)
  have ha := List.getElem?_eq_getElem hk
  refine ⟨_, ha, hlong, ?_⟩
  rw [hd.read, List.append_assoc, streamBytes_split ha] at htotal
  exact (List.prefix_append_right_inj _).mp htotal

theorem consumeFrom_decodes (hbound : limit ≤ maxVarint) (hstaging : limit ≤ staging)
    (hn : Numbered accepted) {reserves : Nat → Bool} {bound : Nat} {input : List UInt8}
    {messages : Nat} {r : Except ReceiveError Nat}
    (hr : ReceiverSide L key e opened (transfersOf accepted) exposed)
    (hb : Buffers key exposed.length k e) (hshown : exposed.length ≤ k)
    (hd : Decodes flowId limit staging accepted k read f) (htotal : read ++ input = total)
    (hpart : total <+: streamBytes flowId accepted)
    (hfits : ∀ i a, accepted[i]? = some a →
      (streamBytes flowId (accepted.take i)).length < total.length → OutboundState.Fits limit a)
    (h : consumeFrom key reserves bound input messages f e = .ok (r, f', e')) :
    ∃ k', k ≤ k' ∧ (opened = false → k' = k) ∧
      ReceiverSide L key e' opened (transfersOf accepted) exposed ∧
      Buffers key exposed.length k' e' ∧
      ((∃ n, r = .ok n) ∧ Decodes flowId limit staging accepted k' total f' ∧
          Buffering key accepted k e k' e' ∨
        ∃ error, r = .error error ∧ Stops key accepted reserves k e error ∧
          Spares key e e' error) := by
  induction bound generalizing input messages f e k read with
  | zero =>
    cases input with
    | nil =>
      cases h
      rw [List.append_nil] at htotal
      exact ⟨k, le_refl _, fun _ => rfl, hr, hb, .inl ⟨⟨_, rfl⟩, htotal ▸ hd, .done⟩⟩
    | cons first rest => cases h
  | succ bound ih =>
    cases input with
    | nil =>
      cases h
      rw [List.append_nil] at htotal
      exact ⟨k, le_refl _, fun _ => rfl, hr, hb, .inl ⟨⟨_, rfl⟩, htotal ▸ hd, .done⟩⟩
    | cons first rest =>
      obtain ⟨a, ha, hlong, hnext⟩ :=
        hd.next_message (List.cons_ne_nil first rest) (htotal ▸ hpart)
      obtain ⟨hvarint, hlimit⟩ := hfits k a ha (htotal ▸ hlong)
      have hcall := hd.ready.frame (reserves (first :: rest).length) hbound hlimit
        (hlimit.trans hstaging) hnext
      unfold consumeFrom at h
      generalize hconsume : f.decoder.consume (reserves (first :: rest).length) (first :: rest) =
        result at h hcall
      obtain ⟨taken, d'⟩ := result
      simp only at hcall
      cases hcall with
      | starved hno =>
        cases h
        exact ⟨k, le_refl _, fun _ => rfl, hr, hb, .inr ⟨_, rfl, .starved _ .done hno, .rfl⟩⟩
      | more hready hpending hshort =>
        have hne : ¬ ((first :: rest).length = 0 ∧ True) :=
          fun heq => absurd heq.1 (Nat.succ_ne_zero _)
        simp only [if_neg hne, List.drop_length] at h
        have hd' : Decodes flowId limit staging accepted k total { f with decoder := d' } := by
          refine ⟨hready, hd.next, hd.count, ?_, .inr ⟨a, ha, hpending ▸ hshort⟩⟩
          rw [← htotal, hd.read, List.append_assoc, hpending]
        exact ih hr hb hshown hd' (List.append_nil _) h
      | @message n _ hpos hle hready hpending hframe =>
        have hne : ¬ (n = 0 ∧ some a.payload = none) := fun heq => absurd heq.1 hpos.ne'
        simp only [if_neg hne, Checked.bind_eq_ok] at h
        obtain ⟨⟨delivered, f₁, e₁⟩, hdeliver, h⟩ := h
        obtain ⟨hr₁, ⟨rfl, rfl, hb₁, hsome, hreceive⟩ |
            ⟨error, rfl, hundelivered, hb₁, hspares⟩⟩ :=
          deliver_next (f := { f with decoder := d' }) hr hn hb hshown hd.next ha hdeliver
        · have hframes : read ++ (first :: rest).take n =
              streamBytes flowId (accepted.take (k + 1)) := by
            rw [hd.read, List.append_assoc, hframe, streamBytes_take_succ ha]
          have hd₁ : Decodes flowId limit staging accepted (k + 1)
              (read ++ (first :: rest).take n) ⟨d', indexAfter (k + 1)⟩ := by
            refine ⟨hready, rfl, (List.getElem?_eq_some_iff.mp ha).1, ?_, .inl hpending⟩
            rw [hframes, hpending, List.append_nil]
          have hleft : read ++ (first :: rest).take n ++ (first :: rest).drop n = total := by
            rw [List.append_assoc, List.take_append_drop, htotal]
          obtain ⟨k', hk, -, hr', hb', hcase⟩ := ih hr₁ hb₁ (hshown.trans (Nat.le_succ k)) hd₁ hleft h
          refine ⟨k', (Nat.le_succ k).trans hk, fun hopened => ?_, hr', hb', ?_⟩
          · exact absurd hreceive (DeliveryEndpoint.no_receive (hr.unopened hopened).1)
          rcases hcase with ⟨hok, hd', hbuffering⟩ | ⟨error, hr, hstops, hspares⟩
          · exact .inl ⟨hok, hd', .next ha hreceive hbuffering⟩
          · exact .inr ⟨error, hr, hstops.next ha hreceive, fun _ => hspares hsome⟩
        · cases h
          exact ⟨k, le_refl _, fun _ => rfl, hr₁, hb₁,
            .inr ⟨error, rfl, .refused .done ha hundelivered, hspares⟩⟩

/-- A stream may end where no frame is begun, which is behind a whole number of messages. -/
theorem Decodes.finish_iff (hbound : limit ≤ maxVarint)
    (hd : Decodes flowId limit staging accepted k read f) :
    (f.finish = .ok () ↔ f.decoder.state.pending = []) ∧
      (f.decoder.state.pending = [] ↔
        ∃ i ≤ accepted.length, read = streamBytes flowId (accepted.take i)) := by
  constructor
  · have hstate := hd.ready.state
    unfold finish ReliableFrameDecoder.finish
    cases hdecoder : f.decoder.state with
    | length bytes needed => cases bytes <;> simp [FrameState.pending]
    | payload expected bytes =>
      rw [hdecoder] at hstate
      cases hstate with
      | payload _ hlimit hstaging =>
        have hpos := varintBytes_length_pos (hlimit.trans hbound)
        have hne : varintBytes expected ++ bytes ≠ [] := fun hnil => by
          rw [(List.append_eq_nil_iff.mp hnil).1] at hpos
          exact absurd hpos (lt_irrefl 0)
        simp [FrameState.pending, hne]
  · constructor
    · intro hnil
      refine ⟨k, hd.count, ?_⟩
      rw [hd.read, hnil, List.append_nil]
    · rintro ⟨i, hi, hread⟩
      have hlen := congrArg List.length (hd.read.symm.trans hread)
      rw [List.length_append] at hlen
      rcases Nat.lt_trichotomy i k with hik | rfl | hki
      · have hlt := streamBytes_lt flowId hik hd.count
        omega
      · exact List.length_eq_zero_iff.mp (by omega)
      · -- the next frame would be complete
        rcases hd.short with hnil | ⟨a, ha, hshort⟩
        · exact hnil
        · have hmore : accepted.take (k + 1) <+: accepted.take i := List.take_prefix_take_left hki
          have hle := (streamBytes_mono flowId hmore).length_le
          rw [streamBytes_take_succ ha, List.length_append] at hle
          omega

end InboundFrames

/-! ### A step of the binding -/

namespace InboundReliable

open DeliveryEndpoint (ReceiverSide Buffers Buffering)
open InboundFrames (Decodes Stops Spares)

/-- The bytes that a step reads. -/
def got (b : InboundReliable) (io : RecvStream) : List UInt8 :=
  if b.terminal ∨ b.draining then []
  else match io.read with
    | some (.ok chunk) => chunk
    | _ => []

/-- The binding reads its `FlowId`, or knows its flow and the frames of `k` messages. -/
inductive Reads (flowId : FlowId) (key : DeliveryFlowKey) (limit : Nat)
    (accepted : List ExposedMessage) (b : InboundReliable) : Nat → List UInt8 → Prop where
  | unresolved {read : List UInt8} : b.flow = none → b.flowId = none → b.draining = false →
    b.flowPrefix.Holds flowId read → Reads flowId key limit accepted b 0 read
  | resolved {k : Nat} {read : List UInt8} (flow : RegisteredFlow) (frames : InboundFrames) :
    b.flow = some flow → b.flowId = some flowId → b.frames = some frames → flow.key = key →
    limit ≤ maxVarint → limit ≤ b.maxStagingBytes →
    frames.Decodes flowId limit b.maxStagingBytes accepted k read →
    (b.draining = true → frames.decoder.state.pending = []) →
    Reads flowId key limit accepted b k read

/-- What the registry says of the `FlowId`, if it says anything. -/
def Registers (flowId : FlowId) (key : DeliveryFlowKey) (limit : Nat)
    (registry : AcceptedFlowRegistry) : Prop :=
  ∀ flow, registry.registeredFlow flowId = some flow →
    flow.key = key ∧ flow.maxMessageBytes = limit

/-- Why a binding of a known flow fails. -/
inductive Fails (key : DeliveryFlowKey) (limit : Nat) (accepted : List ExposedMessage) (k : Nat)
    (b : InboundReliable) (io : RecvStream) (e : DeliveryEndpoint) : ReceiveError → Prop where
  | io {failure : IoFailure} : io.read = some (.error failure) → failure ≠ .connectionLost →
    Fails key limit accepted k b io e (.io failure)
  | staging : b.maxStagingBytes < limit →
    Fails key limit accepted k b io e (.adapterStagingBelowFlowMaximum limit b.maxStagingBytes)
  | framing {error : ReliableFrameError} :
    InboundFrames.new limit b.maxStagingBytes = .error error →
    Fails key limit accepted k b io e (.framing error)
  | stopped {error : ReceiveError} : Stops key accepted io.reserves k e error →
    Fails key limit accepted k b io e error
  | truncated (frames : InboundFrames) : io.read = some (.ok []) → b.frames = some frames →
    frames.finish = .error .truncatedFrame →
    Fails key limit accepted k b io e (.framing .truncatedFrame)

/-- What a step does to a binding that read `read` with the frames of `k` messages: how many it
read then, all the bytes, the answer, the binding and the endpoint. -/
inductive Polls (flowId : FlowId) (key : DeliveryFlowKey) (limit : Nat)
    (accepted : List ExposedMessage) (k : Nat) (read : List UInt8) (b : InboundReliable)
    (io : RecvStream) (e : DeliveryEndpoint) (registry : AcceptedFlowRegistry) :
    Nat → List UInt8 → Polled (Except ReceiveError ReceiveProgress) → InboundReliable →
      DeliveryEndpoint → Prop where
  | refused : b.terminal = true →
    Polls flowId key limit accepted k read b io e registry k read (some (.error .terminal)) b e
  | pending : b.terminal = false → io.read = none →
    Polls flowId key limit accepted k read b io e registry k read none b e
  | read {k' : Nat} {part : List UInt8} {progress : ReceiveProgress} {b' : InboundReliable}
      {e' : DeliveryEndpoint} : b.terminal = false → b'.terminal = false → b'.draining = false →
    b'.Reads flowId key limit accepted k' (read ++ part) → Buffering key accepted k e k' e' →
    (∀ key' termination, progress ≠ .closed key' termination) →
    Polls flowId key limit accepted k read b io e registry k' (read ++ part)
      (some (.ok progress)) b' e'
  | draining (flow : RegisteredFlow) (usage : Nat × Nat) : b.terminal = false →
    b.draining = true ∨ io.read = some (.ok []) → b.flow = some flow → flow.key = key →
    Reads flowId key limit accepted { b with draining := true } k read →
    e.flowPendingUsage key = some usage → usage ≠ (0, 0) →
    Polls flowId key limit accepted k read b io e registry k read
      (some (.ok (.draining key))) { b with draining := true } e
  | closed (flow : RegisteredFlow) {termination : FlowTermination} {e' : DeliveryEndpoint} :
    b.terminal = false → b.draining = true ∨ io.read = some (.ok []) → b.flow = some flow →
    flow.key = key → Reads flowId key limit accepted { b with draining := true } k read →
    e.flowPendingUsage key = some (0, 0) → e'.flows.get? key = none →
    termination = OutboundReliable.normalTermination key →
    e.exec (.terminateFlow key .requested) = .ok (.terminated (.ok termination), e') →
    Polls flowId key limit accepted k read b io e registry k read
      (some (.ok (.closed key (some termination))))
      { b with draining := true, terminal := true } e'
  | gone (flow : RegisteredFlow) : b.terminal = false →
    b.draining = true ∨ io.read = some (.ok []) → b.flow = some flow → flow.key = key →
    e.flows.get? key = none →
    Polls flowId key limit accepted k read b io e registry k read
      (some (.ok (.closed key none))) { b with draining := true, terminal := true } e
  | lost : b.terminal = false → io.read = some (.error .connectionLost) →
    Polls flowId key limit accepted k read b io e registry k read
      (some (.error (.io .connectionLost))) { b with terminal := true } e
  | unassociated {part : List UInt8} {error : ReceiveError} {p : FlowIdPrefix} :
    b.terminal = false → b.flow = none →
    (∃ failure, io.read = some (.error failure) ∧ error = .io failure) ∨
      io.read = some (.ok []) ∧ error = .truncatedAssociation ∨
      (∃ error' registry', registry.associateInbound flowId = (.error error', registry') ∧
        error = .registry error') →
    Polls flowId key limit accepted k read b io e registry k (read ++ part) (some (.error error))
      { b with flowPrefix := p, terminal := true } e
  | failed {k' : Nat} {part : List UInt8} {error : ReceiveError} {b' : InboundReliable}
      {e' : DeliveryEndpoint} : b.terminal = false → Fails key limit accepted k b io e error →
    b'.terminal = true → b'.resolvedFlowKey = some key →
    (b'.draining = true → b.draining = true) → e'.flows.get? key = none →
    ((e.flows.get? key).isSome = true → CustodyLost key b'.failureTermination ∨
      error = .unexpectedCoreOutcome .terminalReliableFailure) →
    Polls flowId key limit accepted k read b io e registry k' (read ++ part)
      (some (.error error)) b' e'

variable {L : DeliveryScopeLimits} {flowId : FlowId} {key : DeliveryFlowKey} {limit k : Nat}
  {accepted exposed : List ExposedMessage} {opened : Bool} {read part : List UInt8}
  {b b₁ b' : InboundReliable} {io : RecvStream} {e e₁ e' : DeliveryEndpoint}
  {registry registry₁ registry' : AcceptedFlowRegistry}
  {answer : Polled (Except ReceiveError ReceiveProgress)}

/-- What a step keeps of the endpoint, with what it does to the binding. -/
structure Stepping (L : DeliveryScopeLimits) (flowId : FlowId) (key : DeliveryFlowKey)
    (limit : Nat) (accepted exposed : List ExposedMessage) (opened : Bool) (k : Nat)
    (read part : List UInt8) (b : InboundReliable) (io : RecvStream) (e : DeliveryEndpoint)
    (registry : AcceptedFlowRegistry) (answer : Polled (Except ReceiveError ReceiveProgress))
    (b' : InboundReliable) (e' : DeliveryEndpoint) (k' : Nat) : Prop where
  le : k ≤ k'
  unopened : opened = false → k' = 0
  receiver : ReceiverSide L key e' opened (transfersOf accepted) exposed
  buffers : Buffers key exposed.length k' e'
  polls : Polls flowId key limit accepted k read b io e registry k' (read ++ part) answer b' e'

/-- The end of a flow keeps what is known of the receiver. -/
theorem ends_receiver {op : DeliveryOp} {reply : DeliveryReply}
    (hop : op = .failReliableCustody key ∨ op = .terminateFlow key .requested)
    (hr : ReceiverSide L key e opened (transfersOf accepted) exposed) (hn : Numbered accepted)
    (hb : Buffers key exposed.length k e) (hshown : exposed.length ≤ k)
    (hk : opened = false → k = 0) (h : e.exec op = .ok (reply, e')) :
    ReceiverSide L key e' opened (transfersOf accepted) exposed ∧
      Buffers key exposed.length k e' := by
  have hquiet : DeliveryEndpoint.OneLifetime key e opened op ∧ ¬ op.Receives key ∧
      DeliveryEndpoint.opensOn key op reply = false ∧ exposedOn key op reply = [] := by
    rcases hop with rfl | rfl
    · exact ⟨fun _ _ _ heq => by (cases heq), id, rfl, rfl⟩
    · exact ⟨fun _ _ _ heq => by (cases heq), id, rfl, rfl⟩
  obtain ⟨hl, hreceives, hopens, hexposed⟩ := hquiet
  have hsource := fun t (ht : t ∈ transfersOf accepted) =>
    hn.getElem?_of_mem List.prefix_rfl ht
  have hr' := hr.exec hsource hl (.of_not_receives hreceives) h
  obtain ⟨hb', -⟩ := hb.exec hr hk hshown hl hreceives h
  rw [hopens, hexposed, Bool.or_false, List.append_nil] at hr'
  rw [hexposed, List.append_nil] at hb'
  exact ⟨hr', hb'⟩

/-- A binding of a known flow fails. -/
theorem fail_stepping {flow : RegisteredFlow} {error : ReceiveError} {k' : Nat}
    (hterminal : b.terminal = false) (hterminal₁ : b₁.terminal = false)
    (hdraining₁ : b₁.draining = true → b.draining = true) (hflow : b₁.flow = some flow)
    (hkey : flow.key = key) (hfails : Fails key limit accepted k b io e error) (hle : k ≤ k')
    (hspares : Spares key e e₁ error)
    (hr : ReceiverSide L key e₁ opened (transfersOf accepted) exposed) (hn : Numbered accepted)
    (hb : Buffers key exposed.length k' e₁) (hshown : exposed.length ≤ k')
    (hk : opened = false → k' = 0) (h : b₁.fail e₁ registry₁ error = .ok (answer, b', e', registry')) :
    Stepping L flowId key limit accepted exposed opened k read part b io e registry answer b' e'
      k' := by
  unfold fail at h
  simp only [hterminal₁, Bool.false_eq_true, if_false, hflow, hkey, Checked.bind_eq_ok] at h
  obtain ⟨⟨r, e₂⟩, hfail, pair, hpair, h⟩ := h
  cases hpair
  cases h
  have hexec : e₁.exec (.failReliableCustody key) = .ok (.terminated r, e₂) := by
    rw [DeliveryEndpoint.exec, hfail]
    rfl
  obtain ⟨hr', hb'⟩ := ends_receiver (.inl rfl) hr hn hb hshown hk hexec
  obtain ⟨hnone, hlost⟩ := DeliveryEndpoint.custodyLost_of_fail hr.inv hr.mode hfail
  refine ⟨hle, hk, hr', hb', .failed hterminal hfails rfl (congrArg some hkey) hdraining₁ hnone
    fun hsome => ?_⟩
  exact (hspares hsome).imp_left hlost

/-- The end of the stream, with every frame complete. -/
theorem drain_stepping {flow : RegisteredFlow} (hterminal : b.terminal = false)
    (hend : b.draining = true ∨ io.read = some (.ok [])) (hflow : b.flow = some flow)
    (hkey : flow.key = key)
    (hreads : Reads flowId key limit accepted { b with draining := true } k read)
    (hr : ReceiverSide L key e opened (transfersOf accepted) exposed) (hn : Numbered accepted)
    (hb : Buffers key exposed.length k e) (hshown : exposed.length ≤ k)
    (hk : opened = false → k = 0) (h : drain { b with draining := true } e registry₁ = .ok (answer, b', e', registry')) :
    Stepping L flowId key limit accepted exposed opened k read [] b io e registry answer b' e'
      k := by
  unfold drain at h
  split at h
  · rename_i hnone
    rw [show b.flow = none from hnone] at hflow
    cases hflow
  rename_i flow' hsome
  obtain rfl := Option.some.inj ((show b.flow = some flow' from hsome).symm.trans hflow)
  rw [hkey] at h
  suffices hcase : ReceiverSide L key e' opened (transfersOf accepted) exposed ∧
      Buffers key exposed.length k e' ∧
      Polls flowId key limit accepted k read b io e registry k read answer b' e' by
    obtain ⟨hr', hb', hpolls⟩ := hcase
    exact ⟨le_refl _, hk, hr', hb', (List.append_nil read).symm ▸ hpolls⟩
  split at h
  · rename_i husage
    simp only [Checked.bind_eq_ok] at h
    obtain ⟨⟨r, e₂⟩, hterm, h⟩ := h
    obtain ⟨f, hf, hpending⟩ := Option.map_eq_some_iff.mp husage
    obtain ⟨e₃, hspec, hremoved⟩ := DeliveryEndpoint.terminateFlow_spec hr.inv hf .requested
    rw [hterm] at hspec
    cases hspec
    cases h
    have hnormal : DeliveryEndpoint.terminationOf key f .requested =
        OutboundReliable.normalTermination key := by
      simp [DeliveryEndpoint.terminationOf, OutboundReliable.normalTermination,
        FlowTerminationReason.forcesReliableFailure, (Prod.mk.inj hpending).1]
    have hnone : e'.flows.get? key = none := by
      rw [hremoved.flows, SortedMap.get?_erase_self]
    have hexec : e.exec (.terminateFlow key .requested) =
        .ok (.terminated (.ok (DeliveryEndpoint.terminationOf key f .requested)), e') := by
      rw [DeliveryEndpoint.exec, hterm]
      rfl
    obtain ⟨hr', hb'⟩ := ends_receiver (.inr rfl) hr hn hb hshown hk hexec
    exact ⟨hr', hb', .closed flow' hterminal hend hflow hkey hreads husage hnone hnormal hexec⟩
  · rename_i usage hne husage
    cases h
    exact ⟨hr, hb, .draining flow' usage hterminal hend hflow hkey hreads husage hne⟩
  · rename_i husage
    cases h
    exact ⟨hr, hb, .gone flow' hterminal hend hflow hkey (Option.map_eq_none_iff.mp husage)⟩

/-- The bytes of a chunk behind the `FlowId`. -/
theorem pollFrames_stepping {flow : RegisteredFlow} {frames : InboundFrames} {n : Nat}
    {rest before : List UInt8} (hterminal : b.terminal = false) (hterminal₁ : b₁.terminal = false)
    (hdraining : b₁.draining = false) (hflow : b₁.flow = some flow)
    (hflowId : b₁.flowId = some flowId) (hframes : b₁.frames = some frames)
    (hkey : flow.key = key) (hbound : limit ≤ maxVarint) (hstaging : limit ≤ b₁.maxStagingBytes)
    (hd : frames.Decodes flowId limit b₁.maxStagingBytes accepted k before)
    (htotal : before ++ rest = read ++ part)
    (hpart : read ++ part <+: streamBytes flowId accepted)
    (hfits : ∀ i a, accepted[i]? = some a →
      (streamBytes flowId (accepted.take i)).length < (read ++ part).length →
        OutboundState.Fits limit a)
    (hr : ReceiverSide L key e opened (transfersOf accepted) exposed) (hn : Numbered accepted)
    (hb : Buffers key exposed.length k e) (hshown : exposed.length ≤ k)
    (hk : opened = false → k = 0)
    (h : b₁.pollFrames io n rest e registry₁ = .ok (answer, b', e', registry')) :
    ∃ k', Stepping L flowId key limit accepted exposed opened k read part b io e registry answer b'
      e' k' := by
  obtain ⟨staging, p, id, bound, decoder, termination, draining, terminal⟩ := b₁
  simp only at hterminal₁ hdraining hflow hflowId hframes hstaging hd
  subst hterminal₁ hdraining hflow hflowId hframes
  simp only [pollFrames, Checked.expect_some, Checked.ok_bind, hkey, Checked.bind_eq_ok] at h
  obtain ⟨⟨r, frames', e₁⟩, hconsume, h⟩ := h
  obtain ⟨k', hle, hsame, hr', hb', hcase⟩ := InboundFrames.consumeFrom_decodes hbound hstaging hn
    hr hb hshown hd htotal hpart hfits hconsume
  have hk' : opened = false → k' = 0 := fun hopened => (hsame hopened).trans (hk hopened)
  refine ⟨k', ?_⟩
  rcases hcase with ⟨⟨count, rfl⟩, hd', hbuffering⟩ | ⟨error, rfl, hstops, hspares⟩
  · have hreads : Reads flowId key limit accepted
        ⟨staging, p, some flowId, some flow, some frames', termination, false, false⟩ k'
        (read ++ part) :=
      .resolved flow frames' rfl rfl rfl hkey hbound hstaging hd' fun heq => by cases heq
    cases count with
    | zero =>
      cases h
      exact ⟨hle, hk', hr', hb', .read hterminal rfl rfl hreads hbuffering
        fun _ _ heq => by cases heq⟩
    | succ count =>
      cases h
      exact ⟨hle, hk', hr', hb', .read hterminal rfl rfl hreads hbuffering
        fun _ _ heq => by cases heq⟩
  · exact fail_stepping hterminal rfl (fun heq => by cases heq) rfl hkey (.stopped hstops) hle hspares hr' hn
      hb' (hshown.trans hle) hk' h

theorem associateInbound_registered (hreg : Registers flowId key limit registry)
    {flow : RegisteredFlow} (h : registry.associateInbound flowId = (.ok flow, registry')) :
    flow.key = key ∧ flow.maxMessageBytes = limit := by
  unfold AcceptedFlowRegistry.associateInbound AcceptedFlowRegistry.associate at h
  split at h
  · cases h
  · rename_i flow' hflow'
    obtain ⟨hkey, hlimit⟩ := hreg flow' hflow'
    split at h
    · cases h
    · split at h
      · cases h
      · split at h
        · cases h
          exact ⟨hkey, hlimit⟩
        all_goals cases h

/-- A new decoder, behind the `FlowId`. -/
theorem decodes_new (accepted : List ExposedMessage) {staging : Nat} {frames : InboundFrames} (hread : read = varintBytes flowId.value)
    (h : InboundFrames.new limit staging = .ok frames) :
    limit ≤ maxVarint ∧ frames.Decodes flowId limit staging accepted 0 read := by
  unfold InboundFrames.new at h
  cases hnew : ReliableFrameDecoder.new limit staging with
  | error error =>
    rw [hnew] at h
    cases h
  | ok d =>
    rw [hnew] at h
    cases h
    obtain ⟨hbound, hready, hpending⟩ := ReliableFrameDecoder.ready_new hnew
    refine ⟨hbound, hready, rfl, Nat.zero_le _, ?_, .inl hpending⟩
    rw [hpending, hread, List.append_nil, List.take_zero]
    exact (List.append_nil _).symm

/-- A chunk of a stream whose flow is not known yet. -/
theorem pollAssociate_stepping {chunk : List UInt8} (hterminal : b.terminal = false)
    (hflow : b.flow = none) (hflowId : b.flowId = none) (hdraining : b.draining = false)
    (hp : b.flowPrefix.Holds flowId read) (hchunk : chunk ≠ [])
    (hreg : Registers flowId key limit registry)
    (hpart : read ++ chunk <+: streamBytes flowId accepted)
    (hfits : ∀ i a, accepted[i]? = some a →
      (streamBytes flowId (accepted.take i)).length < (read ++ chunk).length →
        OutboundState.Fits limit a)
    (hr : ReceiverSide L key e opened (transfersOf accepted) exposed) (hn : Numbered accepted)
    (hb : Buffers key exposed.length 0 e) (hshown : exposed.length ≤ 0)
    (h : b.pollAssociate io chunk e registry = .ok (answer, b', e', registry')) :
    ∃ k', Stepping L flowId key limit accepted exposed opened 0 read chunk b io e registry answer
      b' e' k' := by
  obtain ⟨staging, p, id, bound, decoder, termination, draining, terminal⟩ := b
  simp only at hterminal hflow hflowId hdraining hp
  subst hterminal hflow hflowId hdraining
  unfold pollAssociate at h
  rcases p.consume_holds hp hchunk hpart with ⟨p', hconsume, hp'⟩ | ⟨p', n, hconsume, hle, hwhole⟩
  · simp only [hconsume] at h
    cases h
    exact ⟨0, le_refl _, fun _ => rfl, hr, hb, .read rfl rfl rfl (.unresolved rfl rfl rfl hp')
      .done fun _ _ heq => by cases heq⟩
  simp only [hconsume] at h
  rcases hassociate : registry.associateInbound flowId with ⟨error | flow, registry₁⟩
  · rw [hassociate] at h
    cases h
    exact ⟨0, le_refl _, fun _ => rfl, hr, hb, .unassociated rfl rfl
      (.inr (.inr ⟨error, _, hassociate, rfl⟩))⟩
  obtain ⟨hkey, hlimit⟩ := associateInbound_registered hreg hassociate
  rw [hassociate] at h
  simp only [hlimit] at h
  split at h
  · rename_i hstaging
    exact ⟨0, fail_stepping rfl rfl (fun heq => by cases heq) rfl hkey (.staging hstaging)
      (le_refl _) .rfl hr hn hb hshown (fun _ => rfl) h⟩
  rename_i hstaging
  split at h
  · rename_i error hnew
    exact ⟨0, fail_stepping rfl rfl (fun heq => by cases heq) rfl hkey (.framing hnew)
      (le_refl _) .rfl hr hn hb hshown (fun _ => rfl) h⟩
  rename_i frames hnew
  obtain ⟨hbound, hd⟩ := decodes_new accepted hwhole hnew
  have htotal : read ++ chunk.take n ++ chunk.drop n = read ++ chunk := by
    rw [List.append_assoc, List.take_append_drop]
  split at h
  · rename_i hall
    cases h
    refine ⟨0, le_refl _, fun _ => rfl, hr, hb, .read rfl rfl rfl ?_ .done
      fun _ _ heq => by cases heq⟩
    rw [hall, List.take_length] at hd
    exact .resolved flow frames rfl rfl rfl hkey hbound (not_lt.mp hstaging) hd
      fun heq => by cases heq
  · exact pollFrames_stepping rfl rfl rfl rfl rfl rfl hkey hbound (not_lt.mp hstaging) hd htotal
      hpart hfits hr hn hb hshown (fun _ => rfl) h

/-- A read that fails. -/
theorem ioFail_stepping {failure : IoFailure} (hterminal : b.terminal = false)
    (hread : io.read = some (.error failure)) (hne : failure ≠ .connectionLost)
    (hreads : b.Reads flowId key limit accepted k read)
    (hr : ReceiverSide L key e opened (transfersOf accepted) exposed) (hn : Numbered accepted)
    (hb : Buffers key exposed.length k e) (hshown : exposed.length ≤ k)
    (hk : opened = false → k = 0) (h : b.fail e registry (.io failure) = .ok (answer, b', e', registry')) :
    Stepping L flowId key limit accepted exposed opened k read [] b io e registry answer b' e'
      k := by
  cases hreads with
  | unresolved hflow _ _ hp =>
    obtain ⟨staging, p, id, bound, decoder, termination, draining, terminal⟩ := b
    simp only at hterminal hflow
    subst hterminal hflow
    cases h
    exact ⟨le_refl _, hk, hr, hb, .unassociated rfl rfl (.inl ⟨failure, hread, rfl⟩)⟩
  | resolved flow frames hflow _ _ hkey =>
    exact fail_stepping hterminal hterminal id hflow hkey (.io hread hne) (le_refl _) .rfl hr hn hb hshown hk h

theorem finish_error {frames : InboundFrames} {error : ReliableFrameError}
    (h : frames.finish = .error error) : error = .truncatedFrame := by
  unfold InboundFrames.finish ReliableFrameDecoder.finish at h
  split at h
  · cases h
  · cases h
    rfl
  · cases h
    rfl

/-- The end of the stream. -/
theorem pollEnd_stepping (hterminal : b.terminal = false) (hread : io.read = some (.ok []))
    (hreads : b.Reads flowId key limit accepted k read)
    (hr : ReceiverSide L key e opened (transfersOf accepted) exposed) (hn : Numbered accepted)
    (hb : Buffers key exposed.length k e) (hshown : exposed.length ≤ k)
    (hk : opened = false → k = 0) (h : b.pollEnd e registry = .ok (answer, b', e', registry')) :
    Stepping L flowId key limit accepted exposed opened k read [] b io e registry answer b' e'
      k := by
  obtain ⟨staging, p, id, bound, decoder, termination, draining, terminal⟩ := b
  cases hreads with
  | unresolved hflow _ _ hp =>
    simp only at hterminal hflow
    subst hterminal hflow
    cases h
    exact ⟨le_refl _, hk, hr, hb, .unassociated rfl rfl (.inr (.inl ⟨hread, rfl⟩))⟩
  | resolved flow frames hflow hflowId hframes hkey hbound hstaging hd hend =>
    simp only at hterminal hflow hframes
    subst hterminal hflow hframes
    simp only [pollEnd, Checked.expect_some, Checked.ok_bind] at h
    split at h
    · rename_i error hfinish
      obtain rfl := finish_error hfinish
      exact fail_stepping rfl rfl (fun hdrain => hdrain) rfl hkey
        (.truncated frames hread rfl hfinish) (le_refl _) .rfl hr hn hb hshown hk h
    · rename_i hfinish
      have hnil := (hd.finish_iff hbound).1.mp hfinish
      have hreads' : Reads flowId key limit accepted
          ⟨staging, p, id, some flow, some frames, termination, true, false⟩ k read :=
        .resolved flow frames rfl hflowId rfl hkey hbound hstaging hd fun _ => hnil
      exact drain_stepping rfl (.inr hread) rfl hkey hreads' hr hn hb hshown hk h

/-- Every step of a binding. -/
theorem pollStep_stepping (hreads : b.terminal = false → b.Reads flowId key limit accepted k read)
    (hreg : Registers flowId key limit registry)
    (hpart : read ++ b.got io <+: streamBytes flowId accepted)
    (hfits : ∀ i a, accepted[i]? = some a →
      (streamBytes flowId (accepted.take i)).length < (read ++ b.got io).length →
        OutboundState.Fits limit a)
    (hr : ReceiverSide L key e opened (transfersOf accepted) exposed) (hn : Numbered accepted)
    (hb : Buffers key exposed.length k e) (hshown : exposed.length ≤ k)
    (hk : opened = false → k = 0)
    (h : b.pollStep io e registry = .ok (answer, b', e', registry')) :
    ∃ k', Stepping L flowId key limit accepted exposed opened k read (b.got io) b io e registry
      answer b' e' k' := by
  unfold pollStep at h
  split at h
  · rename_i hterminal
    cases h
    rw [show b.got io = [] from if_pos (.inl hterminal)]
    exact ⟨k, le_refl _, hk, hr, hb, (List.append_nil read).symm ▸ .refused hterminal⟩
  rename_i hterminal
  rw [Bool.not_eq_true] at hterminal
  have hreads := hreads hterminal
  split at h
  · rename_i hdraining
    rw [show b.got io = [] from if_pos (.inr hdraining)]
    have hsame : { b with draining := true } = b := by
      rw [← hdraining]
    cases hreads with
    | unresolved _ _ hno =>
      rw [hdraining] at hno
      cases hno
    | resolved flow frames hflow hflowId hframes hkey hbound hstaging hd hend =>
      have hreads' : Reads flowId key limit accepted { b with draining := true } k read := by
        rw [hsame]
        exact .resolved flow frames hflow hflowId hframes hkey hbound hstaging hd hend
      rw [← hsame] at h
      exact ⟨k, drain_stepping hterminal (.inl hdraining) hflow hkey hreads' hr hn hb hshown hk h⟩
  rename_i hdraining
  rw [Bool.not_eq_true] at hdraining
  have hgot : b.got io = match io.read with
      | some (.ok chunk) => chunk
      | _ => [] := if_neg (by rw [hterminal, hdraining]; simp)
  split at h
  · rename_i hread
    cases h
    rw [hgot, hread]
    exact ⟨k, le_refl _, hk, hr, hb, (List.append_nil read).symm ▸ .pending hterminal hread⟩
  · rename_i hread
    cases h
    rw [hgot, hread]
    exact ⟨k, le_refl _, hk, hr, hb, (List.append_nil read).symm ▸ .lost hterminal hread⟩
  · rename_i failure hne hread
    rw [hgot, hread]
    exact ⟨k, ioFail_stepping hterminal hread hne hreads hr hn hb hshown hk h⟩
  · rename_i hread
    rw [hgot, hread]
    exact ⟨k, pollEnd_stepping hterminal hread hreads hr hn hb hshown hk h⟩
  · rename_i chunk hne hread
    rw [hread] at hgot
    simp only at hgot
    rw [hgot] at hpart hfits ⊢
    cases hreads with
    | unresolved hflow hflowId _ hp =>
      rw [hflow] at h
      exact pollAssociate_stepping hterminal hflow hflowId hdraining hp hne hreg hpart hfits hr hn
        hb hshown h
    | resolved flow frames hflow hflowId hframes hkey hbound hstaging hd hend =>
      rw [hflow] at h
      exact pollFrames_stepping hterminal hterminal hdraining hflow hflowId hframes hkey hbound
        hstaging hd rfl hpart hfits hr hn hb hshown hk h

/-! ### What was read -/

theorem Reads.extend (h : b.Reads flowId key limit accepted k read) (more : List ExposedMessage) :
    b.Reads flowId key limit (accepted ++ more) k read := by
  cases h with
  | unresolved hflow hflowId hdraining hp => exact .unresolved hflow hflowId hdraining hp
  | resolved flow frames hflow hflowId hframes hkey hbound hstaging hd hend =>
    exact .resolved flow frames hflow hflowId hframes hkey hbound hstaging (hd.extend more) hend

theorem Reads.count_le (h : b.Reads flowId key limit accepted k read) : k ≤ accepted.length := by
  cases h with
  | unresolved => exact Nat.zero_le _
  | resolved _ _ _ _ _ _ _ _ hd => exact hd.count

/-- At the end of its stream a binding read whole messages. -/
theorem Reads.drained (h : b.Reads flowId key limit accepted k read) (hdraining : b.draining = true) :
    read = streamBytes flowId (accepted.take k) := by
  cases h with
  | unresolved _ _ hno =>
    rw [hdraining] at hno
    cases hno
  | resolved _ _ _ _ _ _ _ _ hd hend => rw [hd.read, hend hdraining, List.append_nil]

theorem Reads.complete_iff (h : b.Reads flowId key limit accepted k read) {i : Nat}
    (hi : i < accepted.length) :
    i < k ↔ (streamBytes flowId (accepted.take (i + 1))).length ≤ read.length := by
  cases h with
  | unresolved _ _ _ hp =>
    have hshort := hp.short
    rw [streamBytes, List.length_append]
    omega
  | resolved _ _ _ _ _ _ _ _ hd => exact hd.complete_iff hi

/-- The flow is known when its `FlowId` was read. -/
theorem Reads.flowId_eq (h : b.Reads flowId key limit accepted k read) :
    b.flowId = if (varintBytes flowId.value).length ≤ read.length then some flowId else none := by
  cases h with
  | unresolved _ hflowId _ hp => rw [if_neg (not_le.mpr hp.short), hflowId]
  | resolved _ _ _ hflowId _ _ _ _ hd =>
    refine hflowId.trans (if_pos ?_).symm
    rw [hd.read, streamBytes, List.length_append, List.length_append]
    omega

end InboundReliable

end RunenNet
