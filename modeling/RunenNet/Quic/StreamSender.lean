import RunenNet.Quic.NormalFinish
import RunenNet.Core.Delivery.ReliableDelivery

/-!
# What a send stream writes

A binding writes the `FlowId` of its flow and then the messages that the flow accepted, each behind
its length. However little the stream takes at a time, what it took is a prefix of these bytes, and
the custody of a message is handed over with its last byte.
-/

namespace RunenNet

open Foundation

/-- The frame of a message on its stream. -/
def messageFrame (payload : List UInt8) : List UInt8 := varintBytes payload.length ++ payload

/-- The bytes of a stream that carries the messages. -/
def streamBytes (flowId : FlowId) (messages : List ExposedMessage) : List UInt8 :=
  varintBytes flowId.value ++ messages.flatMap fun m => messageFrame m.payload

section Bytes

variable {flowId : FlowId} {messages : List ExposedMessage}

theorem streamBytes_append (more : List ExposedMessage) :
    streamBytes flowId (messages ++ more) =
      streamBytes flowId messages ++ more.flatMap fun m => messageFrame m.payload := by
  rw [streamBytes, List.flatMap_append, ← List.append_assoc]
  rfl

theorem streamBytes_mono (flowId : FlowId) {more : List ExposedMessage} (h : messages <+: more) :
    streamBytes flowId messages <+: streamBytes flowId more := by
  obtain ⟨rest, rfl⟩ := h
  rw [streamBytes_append]
  exact List.prefix_append _ _

theorem streamBytes_take_succ {k : Nat} {m : ExposedMessage} (h : messages[k]? = some m) :
    streamBytes flowId (messages.take (k + 1)) =
      streamBytes flowId (messages.take k) ++ messageFrame m.payload := by
  rw [List.take_add_one, h, Option.toList_some, streamBytes_append]
  exact congrArg _ (List.append_nil _)

/-- A stream around one of its frames. -/
theorem streamBytes_split {k : Nat} {m : ExposedMessage} (h : messages[k]? = some m) :
    streamBytes flowId messages = streamBytes flowId (messages.take k) ++
      (messageFrame m.payload ++
        (messages.drop (k + 1)).flatMap fun m => messageFrame m.payload) := by
  rw [← List.append_assoc, ← streamBytes_take_succ h, ← streamBytes_append, List.take_append_drop]

/-- The next frame of a stream. -/
theorem streamBytes_next {k : Nat} {m : ExposedMessage} (h : messages[k]? = some m) :
    streamBytes flowId (messages.take k) ++ messageFrame m.payload <+:
      streamBytes flowId messages := by
  rw [← streamBytes_take_succ h]
  exact streamBytes_mono _ (List.take_prefix _ _)

theorem varintBytes_length_pos {value : Nat} (h : value ≤ maxVarint) :
    0 < (varintBytes value).length := by
  obtain ⟨first, tail, hcons, -⟩ := varintBytes_cons h
  rw [hcons]
  exact Nat.zero_lt_succ _

theorem messageFrame_length_pos (payload : List UInt8) : 0 < (messageFrame payload).length := by
  rw [messageFrame, List.length_append]
  rcases Nat.eq_zero_or_pos payload.length with hzero | hpos
  · rw [hzero]
    exact varintBytes_length_pos (Nat.zero_le _)
  · omega

theorem streamBytes_lt (flowId : FlowId) {i k : Nat} (hik : i < k) (hk : k ≤ messages.length) :
    (streamBytes flowId (messages.take i)).length < (streamBytes flowId (messages.take k)).length := by
  have hi : messages[i]? = some messages[i] := List.getElem?_eq_getElem (hik.trans_le hk)
  have hmore : messages.take (i + 1) <+: messages.take k := List.take_prefix_take_left hik
  have hle := (streamBytes_mono flowId hmore).length_le
  have hpos := messageFrame_length_pos messages[i].payload
  rw [streamBytes_take_succ hi, List.length_append] at hle
  omega

end Bytes

/-! ### Where a stream is -/

/-- The part of a message that was written. -/
def OutboundMessage.written (m : OutboundMessage) : List UInt8 :=
  m.length.take m.lengthOffset ++ m.snapshot.payload.take m.payloadOffset

namespace OutboundState

open DeliveryEndpoint (SenderSide OneLifetime opensOn)

variable {L : DeliveryScopeLimits} {flowId : FlowId} {limit : Nat} {key : DeliveryFlowKey}
  {e e' : DeliveryEndpoint} {opened : Bool} {accepted : List ExposedMessage} {k : Nat}
  {written : List UInt8} {s s' : OutboundState}

/-- A message that may be framed: its length is a varint and at most that of its flow. -/
def Fits (maxMessageBytes : Nat) (a : ExposedMessage) : Prop :=
  a.payload.length ≤ maxVarint ∧ a.payload.length ≤ maxMessageBytes

/-- A stream is in its header, between two messages or in a message that is not complete. -/
inductive Position (flowId : FlowId) (limit : Nat) (key : DeliveryFlowKey)
    (accepted : List ExposedMessage) (k : Nat) (written : List UInt8) (s : OutboundState) : Prop where
  | header : s.flowHeaderOffset < s.flowHeader.length → s.current = none → k = 0 →
    written = s.flowHeader.take s.flowHeaderOffset → Position flowId limit key accepted k written s
  | between : s.flowHeaderOffset = s.flowHeader.length → s.current = none →
    written = streamBytes flowId (accepted.take k) → Position flowId limit key accepted k written s
  | message (m : OutboundMessage) (a : ExposedMessage) :
    s.flowHeaderOffset = s.flowHeader.length → s.current = some m →
    key.direction = .outbound → accepted[k]? = some a → m.snapshot = .ofMessage a →
    m.length = varintBytes a.payload.length → Fits limit a →
    (m.lengthOffset < m.length.length ∧ m.payloadOffset = 0 ∨
      m.lengthOffset = m.length.length ∧ m.payloadOffset < a.payload.length) →
    written = streamBytes flowId (accepted.take k) ++ m.written →
    Position flowId limit key accepted k written s

/-- The message that is being written. -/
theorem Position.of_message (h : Position flowId limit key accepted k written s)
    {m : OutboundMessage} (hsome : s.current = some m) : ∃ a : ExposedMessage,
      key.direction = .outbound ∧ accepted[k]? = some a ∧ m.snapshot = .ofMessage a ∧
      m.length = varintBytes a.payload.length ∧ Fits limit a ∧
      (m.lengthOffset < m.length.length ∧ m.payloadOffset = 0 ∨
        m.lengthOffset = m.length.length ∧ m.payloadOffset < a.payload.length) ∧
      written = streamBytes flowId (accepted.take k) ++ m.written := by
  cases h with
  | header _ hnone =>
    rw [hsome] at hnone
    cases hnone
  | between _ hnone =>
    rw [hsome] at hnone
    cases hnone
  | message m' a _ hsome' hdir ha hsnapshot hlength hmax hoffsets hwritten =>
    rw [hsome] at hsome'
    cases hsome'
    exact ⟨a, hdir, ha, hsnapshot, hlength, hmax, hoffsets, hwritten⟩

/-- The stream took `written`, with `k` of the accepted messages complete. -/
structure Writes (flowId : FlowId) (limit : Nat) (key : DeliveryFlowKey)
    (accepted : List ExposedMessage) (k : Nat) (written : List UInt8) (s : OutboundState) : Prop where
  header : s.flowHeader = varintBytes flowId.value
  maximum : s.maxMessageBytes = limit
  next : ∀ i, s.nextAcceptedIndex = some i → i = k
  count : k ≤ accepted.length
  fits : ∀ a ∈ accepted.take k, Fits limit a
  position : Position flowId limit key accepted k written s

theorem writes_new {maxMessageBytes : Nat} (h : new flowId maxMessageBytes = .ok s) :
    Writes flowId maxMessageBytes key [] 0 [] s := by
  rw [new, encodeVarint_eq flowId.le_max] at h
  cases h
  exact {
    header := rfl
    maximum := rfl
    next := fun i hi => (Option.some.inj hi).symm
    count := Nat.zero_le _
    fits := fun a ha => by rw [List.take_zero] at ha; cases ha
    position := .header (varintBytes_length_pos flowId.le_max) rfl rfl rfl }

/-- More messages may be accepted at any time. -/
theorem Writes.extend (h : s.Writes flowId limit key accepted k written)
    (more : List ExposedMessage) : s.Writes flowId limit key (accepted ++ more) k written where
  header := h.header
  maximum := h.maximum
  next := h.next
  count := h.count.trans (List.length_append ▸ Nat.le_add_right _ _)
  fits := by
    rw [List.take_append_of_le_length h.count]
    exact h.fits
  position := by
    have htake : (accepted ++ more).take k = accepted.take k :=
      List.take_append_of_le_length h.count
    cases h.position with
    | header hlt hnone hk hwritten => exact .header hlt hnone hk hwritten
    | between heq hnone hwritten => exact .between heq hnone (htake ▸ hwritten)
    | message m a heq hsome hdir ha hsnapshot hlength hle hoffsets hwritten =>
      refine .message m a heq hsome hdir ?_ hsnapshot hlength hle hoffsets (htake ▸ hwritten)
      rw [List.getElem?_append_left (List.getElem?_eq_some_iff.mp ha).1, ha]

theorem Writes.fits_succ (h : s.Writes flowId limit key accepted k written) {a : ExposedMessage}
    (ha : accepted[k]? = some a) (hfits : Fits limit a) :
    ∀ a ∈ accepted.take (k + 1), Fits limit a := by
  rw [List.take_add_one, ha, Option.toList_some, List.forall_mem_append]
  exact ⟨h.fits, List.forall_mem_singleton.mpr hfits⟩

/-- What the stream took is a prefix of the bytes of all accepted messages. -/
theorem Writes.isPrefix (h : s.Writes flowId limit key accepted k written) :
    written <+: streamBytes flowId accepted := by
  cases h.position with
  | header _ _ _ hwritten =>
    rw [hwritten, h.header]
    exact (List.take_prefix _ _).trans (List.prefix_append _ _)
  | between _ _ hwritten =>
    rw [hwritten]
    exact streamBytes_mono _ (List.take_prefix _ _)
  | message m a _ _ _ ha hsnapshot hlength _ hoffsets hwritten =>
    rw [hwritten]
    refine List.IsPrefix.trans ((List.prefix_append_right_inj _).mpr ?_) (streamBytes_next ha)
    rw [OutboundMessage.written, hsnapshot, messageFrame, ← hlength]
    rcases hoffsets with ⟨-, hzero⟩ | ⟨hfull, -⟩
    · rw [hzero]
      exact (List.append_nil _).symm ▸ (List.take_prefix _ _).trans (List.prefix_append _ _)
    · rw [hfull, List.take_length]
      exact (List.prefix_append_right_inj _).mpr (List.take_prefix _ _)

/-- A message is complete when the stream took its last byte. -/
theorem Writes.complete_iff (h : s.Writes flowId limit key accepted k written) {i : Nat}
    (hi : i < accepted.length) :
    i < k ↔ (streamBytes flowId (accepted.take (i + 1))).length ≤ written.length := by
  constructor
  · intro hik
    have hpart : streamBytes flowId (accepted.take k) <+: written := by
      cases h.position with
      | header _ _ hk => omega
      | between _ _ hwritten => exact hwritten ▸ List.prefix_rfl
      | message m a _ _ _ _ _ _ _ _ hwritten => exact hwritten ▸ List.prefix_append _ _
    exact (streamBytes_mono _ (List.take_prefix_take_left hik)).length_le.trans hpart.length_le
  · intro hle
    by_contra hik
    have hk : k < accepted.length := by omega
    obtain ⟨a', ha'⟩ : ∃ a', accepted[k]? = some a' := ⟨_, List.getElem?_eq_getElem hk⟩
    have hnext : (streamBytes flowId (accepted.take k)).length + (messageFrame a'.payload).length ≤
        written.length := by
      rw [← List.length_append, ← streamBytes_take_succ ha']
      have hmore : accepted.take (k + 1) <+: accepted.take (i + 1) :=
        List.take_prefix_take_left (by omega)
      exact (streamBytes_mono _ hmore).length_le.trans hle
    cases h.position with
    | header hlt _ hzero hwritten =>
      rw [hwritten, List.length_take, h.header] at hnext
      rw [h.header] at hlt
      rw [streamBytes, List.length_append] at hnext
      omega
    | between _ _ hwritten =>
      have hpos := messageFrame_length_pos a'.payload
      rw [hwritten] at hnext
      omega
    | message m a _ _ _ ha hsnapshot hlength _ hoffsets hwritten =>
      rw [← Option.some.inj (ha.symm.trans ha')] at hnext
      rw [hwritten, List.length_append, messageFrame, List.length_append, OutboundMessage.written,
        List.length_append, List.length_take, List.length_take, hsnapshot, ← hlength] at hnext
      have hpayload : (DeliveryTransfer.ofMessage a).payload.length = a.payload.length := rfl
      rw [hpayload] at hnext
      omega

/-- A message of which the stream took a byte may be framed. -/
theorem Writes.fits_of_lt (h : s.Writes flowId limit key accepted k written) {i : Nat}
    {a : ExposedMessage} (ha : accepted[i]? = some a)
    (hlt : (streamBytes flowId (accepted.take i)).length < written.length) :
    Fits limit a := by
  have hi : i < accepted.length := (List.getElem?_eq_some_iff.mp ha).1
  rcases Nat.lt_trichotomy i k with hik | rfl | hki
  · have hget : (accepted.take k)[i]? = some a := by rw [List.getElem?_take_of_lt hik, ha]
    exact h.fits a (List.mem_of_getElem? hget)
  · cases h.position with
    | header hheader _ hzero hwritten =>
      rw [hwritten, List.length_take, h.header] at hlt
      rw [streamBytes, List.length_append] at hlt
      omega
    | between _ _ hwritten =>
      rw [hwritten] at hlt
      exact absurd hlt (lt_irrefl _)
    | message m a' _ _ _ ha' _ _ hfits =>
      rw [← Option.some.inj (ha'.symm.trans ha)]
      exact hfits
  · have hmore : accepted.take (k + 1) <+: accepted.take i := List.take_prefix_take_left hki
    have hle := (streamBytes_mono flowId hmore).length_le.trans hlt.le
    exact absurd ((h.complete_iff (hki.trans hi)).mpr hle) (lt_irrefl k)

/-! ### The next segment -/

/-- The bytes that the stream is offered next. -/
inductive Segment (s : OutboundState) (segment : List UInt8) : Prop where
  | header : s.flowHeaderOffset < s.flowHeader.length →
    segment = s.flowHeader.drop s.flowHeaderOffset → Segment s segment
  | length (m : OutboundMessage) : s.flowHeaderOffset = s.flowHeader.length →
    s.current = some m → m.lengthOffset < m.length.length →
    segment = m.length.drop m.lengthOffset → Segment s segment
  | payload (m : OutboundMessage) : s.flowHeaderOffset = s.flowHeader.length →
    s.current = some m → m.lengthOffset = m.length.length →
    m.payloadOffset < m.snapshot.payloadLen →
    segment = m.snapshot.payload.drop m.payloadOffset → Segment s segment

theorem segmentOf_segment {m : OutboundMessage} {segment : List UInt8}
    (hheader : s.flowHeaderOffset = s.flowHeader.length) (hcurrent : s.current = some m)
    (hle : m.lengthOffset ≤ m.length.length) (h : segmentOf m = .ok segment) :
    s.Segment segment := by
  unfold segmentOf at h
  split at h
  · cases h
    exact .length m hheader hcurrent ‹_› rfl
  · split at h
    · cases h
      exact .payload m hheader hcurrent (by omega) ‹_› rfl
    · cases h

theorem encodePayloadLength_ok {payloadLen maxMessageBytes : Nat} {length : List UInt8}
    (h : encodePayloadLength payloadLen maxMessageBytes = .ok length) :
    payloadLen ≤ maxVarint ∧ payloadLen ≤ maxMessageBytes ∧ length = varintBytes payloadLen := by
  unfold encodePayloadLength at h
  split at h
  · cases h
  · split at h
    · cases h
    · rename_i hrange
      split at h
      · cases h
      · rename_i hmax
        have hle : payloadLen ≤ maxVarint := by omega
        rw [encodeVarint_eq hle] at h
        cases h
        exact ⟨hle, by omega, rfl⟩

/-- The message that is loaded is the first one that is not complete. -/
theorem load_writes (hs : SenderSide L key e opened accepted
    ((accepted.take k).map DeliveryTransfer.ofMessage))
    (h : s.Writes flowId limit key accepted k written)
    (hheader : s.flowHeaderOffset = s.flowHeader.length) (hcurrent : s.current = none)
    {m : OutboundMessage} (hload : s.load e key = .ok (some m)) :
    Writes flowId limit key accepted k written { s with current := some m } := by
  have hwritten : written = streamBytes flowId (accepted.take k) := by
    cases h.position with
    | header hlt => omega
    | between _ _ hwritten => exact hwritten
    | message m' a _ hsome =>
      rw [hcurrent] at hsome
      cases hsome
  unfold load DeliveryEndpoint.peekOutbound at hload
  cases hf : e.flows.get? key with
  | none =>
    rw [hf] at hload
    cases hload
  | some f =>
    rw [hf] at hload
    by_cases hdir : key.direction = .outbound
    swap
    · simp only [ne_eq, hdir, not_false_eq_true, if_true] at hload
      cases hload
    simp only [hdir, ne_eq, not_true_eq_false, if_false] at hload
    cases hhead : f.outbound.head? with
    | none =>
      rw [hhead] at hload
      cases hload
    | some snapshot =>
      rw [hhead] at hload
      simp only at hload
      split at hload
      · cases hload
      · split at hload
        · cases hload
        · split at hload
          · cases hload
          · split at hload
            · cases hload
            · rename_i length hencode
              cases hload
              -- the front of the queue is the message at index `k`
              obtain ⟨a, ha, hsnapshot⟩ : ∃ a, accepted[k]? = some a ∧ snapshot = .ofMessage a := by
                have hq := hs.queue f hf
                have hget : (accepted.map DeliveryTransfer.ofMessage)[k]? = some snapshot := by
                  rw [← hq, List.getElem?_append_right (by simp), List.length_map, List.length_take,
                    min_eq_left h.count, Nat.sub_self, ← List.head?_eq_getElem?, hhead]
                rw [List.getElem?_map, Option.map_eq_some_iff] at hget
                obtain ⟨a, ha, heq⟩ := hget
                exact ⟨a, ha, heq.symm⟩
              obtain ⟨hle, hmax, hlength⟩ := encodePayloadLength_ok hencode
              subst hsnapshot
              have hpos := varintBytes_length_pos hle
              refine ⟨h.header, h.maximum, h.next, h.count, h.fits, ?_⟩
              refine .message _ a hheader rfl hdir ha rfl hlength ⟨hle, h.maximum ▸ hmax⟩
                (.inl ⟨?_, rfl⟩) ?_
              · rw [hlength]
                exact hpos
              · rw [hwritten, OutboundMessage.written, List.take_zero, List.take_zero,
                  List.append_nil, List.append_nil]

/-- With nothing left in the queue, every message that was accepted is complete. -/
theorem complete_of_drained (hs : SenderSide L key e opened accepted
    ((accepted.take k).map DeliveryTransfer.ofMessage)) {f : FlowState}
    (hf : e.flows.get? key = some f) (hd : e.Drained key) : accepted.length ≤ k := by
  have hq := congrArg List.length (hs.queue f hf)
  rw [hd f hf, List.append_nil, List.length_map, List.length_map, List.length_take] at hq
  omega

/-- What the stream is offered, and the state that offers it. -/
structure Offers (flowId : FlowId) (accepted : List ExposedMessage) (k : Nat)
    (written : List UInt8) (s : OutboundState) (r : Except SendError (Option (List UInt8))) :
    Prop where
  segment : ∀ segment, r = .ok (some segment) → s.Segment segment
  idle : r = .ok none → k = accepted.length ∧ written = streamBytes flowId accepted

theorem nextSegment_writes (hs : SenderSide L key e opened accepted
    ((accepted.take k).map DeliveryTransfer.ofMessage)) {f : FlowState}
    (hf : e.flows.get? key = some f) (h : s.Writes flowId limit key accepted k written)
    {r : Except SendError (Option (List UInt8))} (hn : s.nextSegment e key = .ok (r, s')) :
    s'.Writes flowId limit key accepted k written ∧ Offers flowId accepted k written s' r := by
  unfold nextSegment at hn
  split at hn
  · rename_i hlt
    cases hn
    refine ⟨h, fun segment hsegment => ?_, fun hidle => by cases hidle⟩
    cases hsegment
    exact .header hlt rfl
  · rename_i hge
    have hheader : s.flowHeaderOffset = s.flowHeader.length := by
      cases h.position with
      | header hlt => exact absurd hlt hge
      | between heq => exact heq
      | message _ _ heq => exact heq
    cases hcurrent : s.current with
    | some m =>
      rw [hcurrent] at hn
      simp only [Checked.bind_eq_ok] at hn
      obtain ⟨segment, hsegment, hn⟩ := hn
      cases hn
      refine ⟨h, fun segment' heq => ?_, fun hidle => by cases hidle⟩
      cases heq
      refine segmentOf_segment hheader hcurrent ?_ hsegment
      cases h.position with
      | header hlt => omega
      | between _ hnone =>
        rw [hcurrent] at hnone
        cases hnone
      | message m' a _ hsome _ _ _ _ _ hoffsets =>
        rw [hcurrent] at hsome
        cases hsome
        omega
    | none =>
      rw [hcurrent] at hn
      simp only at hn
      split at hn
      · cases hn
        exact ⟨h, fun _ heq => by (cases heq), fun hidle => by (cases hidle)⟩
      · rename_i hload
        cases hn
        refine ⟨h, fun _ heq => by (cases heq), fun _ => ?_⟩
        have hd := DeliveryEndpoint.drained_of_peek (load_none hload)
        have hall : k = accepted.length := le_antisymm h.count (complete_of_drained hs hf hd)
        refine ⟨hall, ?_⟩
        cases h.position with
        | header hlt => omega
        | between _ _ hwritten => rw [hwritten, hall, List.take_length]
        | message m a _ hsome =>
          rw [hcurrent] at hsome
          cases hsome
      · rename_i m hload
        simp only [Checked.bind_eq_ok] at hn
        obtain ⟨segment, hsegment, hn⟩ := hn
        cases hn
        have hwrites := load_writes hs h hheader hcurrent hload
        refine ⟨hwrites, fun segment' heq => ?_, fun hidle => by cases hidle⟩
        cases heq
        refine segmentOf_segment hheader rfl ?_ hsegment
        cases hwrites.position with
        | header hlt => exact absurd hlt (not_lt.mpr (le_of_eq hheader.symm))
        | between _ hnone => cases hnone
        | message m' a _ hsome _ _ _ _ _ hoffsets =>
          cases hsome
          omega

/-! ### Taking a part of a segment -/

/-- What the stream took of a segment: the state goes on behind it, or a message is complete and
its custody was handed over. -/
inductive Advanced (flowId : FlowId) (limit : Nat) (key : DeliveryFlowKey)
    (accepted : List ExposedMessage) (k : Nat) (written : List UInt8) (e : DeliveryEndpoint) :
    Except SendError (Option Nat) → OutboundState → DeliveryEndpoint → Prop where
  | more {s : OutboundState} : s.Writes flowId limit key accepted k written →
    Advanced flowId limit key accepted k written e (.ok none) s e
  | committed {s : OutboundState} {e' : DeliveryEndpoint} {a : ExposedMessage} :
    s.Writes flowId limit key accepted (k + 1) written → accepted[k]? = some a →
    e.exec (.commitOutboundCustody key k) = .ok (.committed (.ok (.ofMessage a)), e') →
    Advanced flowId limit key accepted k written e (.ok (some k)) s e'

theorem commitCurrent_advanced (hs : SenderSide L key e opened accepted
    ((accepted.take k).map DeliveryTransfer.ofMessage)) {f : FlowState}
    (hf : e.flows.get? key = some f) (hdir : key.direction = .outbound)
    (hheader : s.flowHeader = varintBytes flowId.value) (hlimit : s.maxMessageBytes = limit)
    (hoffset : s.flowHeaderOffset = s.flowHeader.length) {m : OutboundMessage}
    {a : ExposedMessage} (ha : accepted[k]? = some a) (hsnapshot : m.snapshot = .ofMessage a)
    (hfits : ∀ a ∈ accepted.take (k + 1), Fits limit a) {r : Except SendError Nat}
    (h : s.commitCurrent m e key = .ok (r, s', e')) :
    Advanced flowId limit key accepted k (streamBytes flowId (accepted.take (k + 1))) e (r.map some) s'
      e' := by
  have hindex : a.acceptedIndex = k := hs.numbered k a ha
  have hklt : k < accepted.length := (List.getElem?_eq_some_iff.mp ha).1
  have hfront : ∃ rest, f.outbound = .ofMessage a :: rest := by
    have hq := hs.queue f hf
    have hget : (accepted.map DeliveryTransfer.ofMessage)[k]? = some (.ofMessage a) := by
      rw [List.getElem?_map, ha]
      rfl
    rw [← hq, List.getElem?_append_right (by simp), List.length_map, List.length_take,
      min_eq_left hklt.le, Nat.sub_self, ← List.head?_eq_getElem?] at hget
    exact List.head?_eq_some_iff.mp hget
  obtain ⟨rest, hrest⟩ := hfront
  have hsnapshotIndex : m.snapshot.acceptedIndex = k := by
    rw [hsnapshot]
    exact hindex
  simp only [commitCurrent, Checked.bind_eq_ok, hsnapshotIndex] at h
  obtain ⟨⟨committed, e₁⟩, hcommit, h⟩ := h
  have hok : committed = .ok (.ofMessage a) := by
    simp only [DeliveryEndpoint.commitOutboundCustody, hdir, ne_eq, not_true_eq_false, if_false, hf,
      hrest, show (DeliveryTransfer.ofMessage a).acceptedIndex = k from hindex,
      Checked.bind_eq_ok] at hcommit
    obtain ⟨e₂, -, hpair⟩ := hcommit
    cases hpair
    rfl
  subst hok
  cases h
  refine .committed ⟨hheader, hlimit, fun i hi => ?_, hklt, hfits, .between hoffset rfl rfl⟩ ha ?_
  · exact (checkedAdd_eq_some.mp hi).2
  · rw [DeliveryEndpoint.exec, hcommit]
    rfl

/-- Every part of a segment that the stream may take. -/
theorem advance_writes (hs : SenderSide L key e opened accepted
    ((accepted.take k).map DeliveryTransfer.ofMessage)) {f : FlowState}
    (hf : e.flows.get? key = some f) (h : s.Writes flowId limit key accepted k written)
    {segment : List UInt8} (hsegment : s.Segment segment) {bytes : Nat} (hpos : bytes ≠ 0)
    (hle : bytes ≤ segment.length) {r : Except SendError (Option Nat)}
    (ha : s.advance bytes e key = .ok (r, s', e')) :
    Advanced flowId limit key accepted k (written ++ segment.take bytes) e r s' e' := by
  unfold advance at ha
  rw [if_neg hpos] at ha
  cases hsegment with
  | header hlt hseg =>
    rw [hseg] at hle ⊢
    rw [List.length_drop] at hle
    rw [if_pos hlt, if_neg (not_lt.mpr hle)] at ha
    cases ha
    cases h.position with
    | header _ hnone hk hwritten =>
      refine .more ⟨h.header, h.maximum, h.next, h.count, h.fits, ?_⟩
      have htaken : written ++ (s.flowHeader.drop s.flowHeaderOffset).take bytes =
          s.flowHeader.take (s.flowHeaderOffset + bytes) := by rw [hwritten, List.take_add]
      rcases Nat.lt_or_ge (s.flowHeaderOffset + bytes) s.flowHeader.length with hmore | hfull
      · exact .header hmore hnone hk htaken
      · have hend : s.flowHeaderOffset + bytes = s.flowHeader.length :=
          le_antisymm (by omega) hfull
        refine .between hend hnone ?_
        rw [htaken, List.take_of_length_le hfull, h.header, hk, List.take_zero]
        exact (List.append_nil _).symm
    | between heq => omega
    | message _ _ heq => omega
  | length m heq hsome hlt hseg =>
    rw [hseg] at hle ⊢
    rw [List.length_drop] at hle
    obtain ⟨a, hdir, ha', hsnapshot, hlength, hmax, hoffsets, hwritten⟩ :=
      h.position.of_message hsome
    obtain ⟨-, hzero⟩ : m.lengthOffset < m.length.length ∧ m.payloadOffset = 0 := by omega
    have hpayload : m.snapshot.payloadLen = a.payload.length := by rw [hsnapshot]; rfl
    have htaken : written ++ (m.length.drop m.lengthOffset).take bytes =
        streamBytes flowId (accepted.take k) ++ m.length.take (m.lengthOffset + bytes) := by
      rw [hwritten, OutboundMessage.written, hzero, List.take_zero, List.append_nil,
        List.append_assoc, ← List.take_add]
    rw [if_neg (by omega), hsome] at ha
    simp only [Checked.expect_some, Checked.ok_bind, if_pos hlt, if_neg (not_lt.mpr hle)] at ha
    split at ha
    · rename_i hdone
      -- an empty message is complete with its length
      simp only [Checked.bind_eq_ok] at ha
      obtain ⟨⟨r', s₁, e₁⟩, hcommit, ha⟩ := ha
      cases ha
      have hwhole : written ++ (m.length.drop m.lengthOffset).take bytes =
          streamBytes flowId (accepted.take (k + 1)) := by
        have hempty : a.payload = [] := List.length_eq_zero_iff.mp (hpayload ▸ hdone.2)
        rw [htaken, hdone.1, List.take_length, streamBytes_take_succ ha', messageFrame, ← hlength,
          hempty, List.append_nil]
      rw [hwhole]
      exact commitCurrent_advanced hs hf hdir h.header h.maximum heq ha' hsnapshot
        (h.fits_succ ha' hmax) hcommit
    · rename_i hmore
      cases ha
      refine .more ⟨h.header, h.maximum, h.next, h.count, h.fits, ?_⟩
      refine .message _ a heq rfl hdir ha' hsnapshot hlength hmax ?_ ?_
      · rcases Nat.lt_or_ge (m.lengthOffset + bytes) m.length.length with hlt' | hge
        · exact .inl ⟨hlt', hzero⟩
        · have hend : m.lengthOffset + bytes = m.length.length := by omega
          refine .inr ⟨hend, Nat.lt_of_le_of_ne (hzero ▸ Nat.zero_le _) fun hnil => ?_⟩
          exact hmore ⟨hend, hpayload.trans (hnil.symm.trans hzero)⟩
      · rw [htaken, OutboundMessage.written, hzero, List.take_zero, List.append_nil]
  | payload m heq hsome hfull hlt hseg =>
    obtain ⟨a, hdir, ha', hsnapshot, hlength, hmax, hoffsets, hwritten⟩ :=
      h.position.of_message hsome
    have hpayload : m.snapshot.payload = a.payload := by rw [hsnapshot]; rfl
    have hlen : m.snapshot.payloadLen = a.payload.length := by rw [hsnapshot]; rfl
    rw [hlen] at hlt
    rw [hseg] at hle ⊢
    rw [List.length_drop, hpayload] at hle
    have htaken : written ++ (m.snapshot.payload.drop m.payloadOffset).take bytes =
        streamBytes flowId (accepted.take k) ++
          (m.length ++ a.payload.take (m.payloadOffset + bytes)) := by
      rw [hwritten, OutboundMessage.written, hfull, List.take_length, hpayload, List.append_assoc,
        List.append_assoc, ← List.take_add]
    rw [if_neg (by omega), hsome] at ha
    simp only [Checked.expect_some, Checked.ok_bind, hfull, lt_irrefl, if_false, hlen,
      if_neg (not_lt.mpr hle)] at ha
    split at ha
    · rename_i hdone
      simp only [Checked.bind_eq_ok] at ha
      obtain ⟨⟨r', s₁, e₁⟩, hcommit, ha⟩ := ha
      cases ha
      have hwhole : written ++ (m.snapshot.payload.drop m.payloadOffset).take bytes =
          streamBytes flowId (accepted.take (k + 1)) := by
        rw [htaken, hdone, List.take_length, streamBytes_take_succ ha', messageFrame, hlength]
      rw [hwhole]
      exact commitCurrent_advanced hs hf hdir h.header h.maximum heq ha' hsnapshot
        (h.fits_succ ha' hmax) hcommit
    · rename_i hmore
      cases ha
      refine .more ⟨h.header, h.maximum, h.next, h.count, h.fits, ?_⟩
      refine .message _ a heq rfl hdir ha' hsnapshot hlength hmax ?_ ?_
      · have hlt' : m.payloadOffset + bytes < a.payload.length := by omega
        exact .inr ⟨rfl, hlt'⟩
      · rw [htaken]
        simp only [OutboundMessage.written, List.take_length, hpayload]

/-- A count beyond the segment is refused. -/
theorem advance_overrun {segment : List UInt8} (hsegment : s.Segment segment) {bytes : Nat}
    (hlt : segment.length < bytes) :
    s.advance bytes e key = .ok (.error .invalidWriteCount, s, e) := by
  unfold advance
  rw [if_neg (Nat.ne_of_gt (Nat.zero_lt_of_lt hlt))]
  cases hsegment with
  | header hoffset hseg =>
    rw [hseg, List.length_drop] at hlt
    rw [if_pos hoffset, if_pos hlt]
  | length m heq hsome hoffset hseg =>
    rw [hseg, List.length_drop] at hlt
    rw [if_neg (by omega), hsome]
    simp only [Checked.expect_some, Checked.ok_bind, if_pos hoffset, gt_iff_lt, hlt, if_true,
      Checked.pure_eq]
  | payload m heq hsome hfull hoffset hseg =>
    rw [hseg, List.length_drop] at hlt
    have hover : m.snapshot.payloadLen - m.payloadOffset < bytes := hlt
    rw [if_neg (by omega), hsome]
    simp only [Checked.expect_some, Checked.ok_bind, hfull, lt_irrefl, if_false, gt_iff_lt, hover,
      if_true, Checked.pure_eq]

end OutboundState

/-! ### A step of the binding -/

/-- The flow ended with its reliable custody lost, and that is what was reported. -/
def CustodyLost (key : DeliveryFlowKey) (report : Option FlowTermination) : Prop :=
  ∃ pending, report = some ⟨key, .reliableCustodyLost, pending, true⟩

/-- A flow that loses its custody is gone, and reported if it was there. -/
theorem DeliveryEndpoint.custodyLost_of_fail {L : DeliveryScopeLimits} {e e' : DeliveryEndpoint}
    {key : DeliveryFlowKey} (hi : e.Inv L)
    (hm : ∀ f, e.flows.get? key = some f → f.mode = .reliableOrdered)
    {r : Except DeliveryOperationError FlowTermination}
    (h : e.failReliableCustody key = .ok (r, e')) :
    e'.flows.get? key = none ∧
      ((e.flows.get? key).isSome = true → CustodyLost key r.toOption) := by
  unfold failReliableCustody at h
  cases hf : e.flows.get? key with
  | none =>
    rw [hf] at h
    cases h
    exact ⟨hf, fun hsome => by cases hsome⟩
  | some f =>
    have hmode := hm f hf
    obtain ⟨e₁, hspec, hremoved⟩ := terminateFlow_spec hi hf .reliableCustodyLost
    simp only [hf, hmode, ne_eq, not_true_eq_false, if_false, hspec] at h
    cases h
    refine ⟨by rw [hremoved.flows, SortedMap.get?_erase_self], fun _ => ⟨f.pendingMessages, ?_⟩⟩
    simp [Except.toOption, terminationOf, hmode, FlowTerminationReason.forcesReliableFailure]

theorem DeliveryEndpoint.drained_of_metadata {e : DeliveryEndpoint} {key : DeliveryFlowKey}
    {f : FlowState} (hf : e.flows.get? key = some f) (h : e.peekOutboundMetadata key = .ok none) :
    e.Drained key ∧ key.direction = .outbound := by
  have hpeek : e.peekOutbound key = .ok none := by
    unfold peekOutboundMetadata at h
    cases hfront : e.peekOutbound key with
    | error err =>
      rw [hfront] at h
      cases h
    | ok front =>
      rw [hfront] at h
      cases front with
      | none => rfl
      | some t => cases h
  refine ⟨drained_of_peek hpeek, ?_⟩
  by_contra hdirection
  simp only [peekOutbound, hf, ne_eq, hdirection, not_false_eq_true, if_true] at hpeek
  cases hpeek

/-- The part that the stream reports of a segment that it is offered. -/
def SendStream.takes (io : SendStream) (segment : List UInt8) : List UInt8 :=
  match io.write segment with
  | some (.ok bytes) => if bytes ≤ segment.length then segment.take bytes else []
  | _ => []

namespace OutboundReliable

open DeliveryEndpoint (SenderSide)

/-- What the stream takes in a step. -/
def taken (b : OutboundReliable) (io : SendStream) (e : DeliveryEndpoint) : List UInt8 :=
  if b.terminal ∨ (e.flowContract b.key).isNone ∨ b.finishing then []
  else match b.state.nextSegment e b.key with
    | .ok (.ok (some segment), _) => io.takes segment
    | _ => []

variable {L : DeliveryScopeLimits} {flowId : FlowId} {limit : Nat} {e e' : DeliveryEndpoint}
  {opened : Bool} {accepted : List ExposedMessage} {k : Nat} {written : List UInt8}
  {b b' : OutboundReliable} {io : SendStream} {registry registry' : AcceptedFlowRegistry}
  {answer : Polled (Except SendError SendProgress)}

/-- What a step does to a binding that wrote `written` and completed `k` messages: how many are
complete then, what was written, the answer, the binding and the endpoint. -/
inductive Polls (flowId : FlowId) (limit : Nat) (accepted : List ExposedMessage) (k : Nat)
    (written : List UInt8) (b : OutboundReliable) (io : SendStream) (e : DeliveryEndpoint) :
    Nat → List UInt8 → Polled (Except SendError SendProgress) → OutboundReliable →
      DeliveryEndpoint → Prop where
  | refused : b.terminal = true →
    Polls flowId limit accepted k written b io e k written (some (.error .terminal)) b e
  | pending {state : OutboundState} : b.terminal = false →
    state.Writes flowId limit b.key accepted k written →
    Polls flowId limit accepted k written b io e k written none { b with state := state } e
  | idle {state : OutboundState} : b.terminal = false → b.finishing = false →
    state.Writes flowId limit b.key accepted k written → k = accepted.length →
    written = streamBytes flowId accepted →
    Polls flowId limit accepted k written b io e k written (some (.ok .idle))
      { b with state := state } e
  | progressed {state : OutboundState} {part : List UInt8} {bytes : Nat} : b.terminal = false →
    b.finishing = false → state.Writes flowId limit b.key accepted k (written ++ part) →
    Polls flowId limit accepted k written b io e k (written ++ part)
      (some (.ok (.progressed bytes))) { b with state := state } e
  | committed {state : OutboundState} {part : List UInt8} {a : ExposedMessage}
      {e' : DeliveryEndpoint} : b.terminal = false → b.finishing = false →
    state.Writes flowId limit b.key accepted (k + 1) (written ++ part) → accepted[k]? = some a →
    e.exec (.commitOutboundCustody b.key k) = .ok (.committed (.ok (.ofMessage a)), e') →
    Polls flowId limit accepted k written b io e (k + 1) (written ++ part)
      (some (.ok (.committed k))) { b with state := state } e'
  | closed {termination : FlowTermination} {e' : DeliveryEndpoint} : b.terminal = false →
    b.finishing = true → io.finishAck = some (.ok none) → e.Drained b.key →
    (∃ f, e.flows.get? b.key = some f) → e'.flows.get? b.key = none →
    termination = normalTermination b.key →
    e.exec (.terminateFlow b.key .requested) = .ok (.terminated (.ok termination), e') →
    Polls flowId limit accepted k written b io e k written (some (.ok (.closed termination)))
      { b with finishing := false, terminal := true } e'
  | lost {state : OutboundState} : b.terminal = false →
    state.Writes flowId limit b.key accepted k written →
    Polls flowId limit accepted k written b io e k written (some (.error (.io .connectionLost)))
      { b with state := state, terminal := true } e
  | failed {state : OutboundState} {error : SendError} {e' : DeliveryEndpoint}
      {r : Except DeliveryOperationError FlowTermination} : b.terminal = false →
    state.Writes flowId limit b.key accepted k written →
    e.exec (.failReliableCustody b.key) = .ok (.terminated r, e') →
    Polls flowId limit accepted k written b io e k written (some (.error error))
      { b with state := state, failureTermination := r.toOption, terminal := true } e'

theorem fail_polls {state : OutboundState} {error : SendError} (hterminal : b.terminal = false)
    (hw : state.Writes flowId limit b.key accepted k written)
    (h : fail { b with state := state } e registry error = .ok (answer, b', e', registry')) :
    Polls flowId limit accepted k written b io e k written answer b' e' := by
  unfold fail at h
  simp only [hterminal, Bool.false_eq_true, if_false, Checked.bind_eq_ok] at h
  obtain ⟨⟨r, e₁⟩, hfail, h⟩ := h
  cases h
  refine .failed hterminal hw ?_
  rw [DeliveryEndpoint.exec, hfail]
  rfl

theorem pollFinish_polls {f : FlowState} (hi : e.Inv L) (hf : e.flows.get? b.key = some f)
    (hw : b.state.Writes flowId limit b.key accepted k written) (hterminal : b.terminal = false)
    (hfinishing : b.finishing = true)
    (h : b.pollFinish io e registry = .ok (answer, b', e', registry')) :
    Polls flowId limit accepted k written b io e k written answer b' e' := by
  obtain ⟨id, key, state, finishing, failure, terminal⟩ := b
  unfold pollFinish at h
  split at h
  · exact fail_polls hterminal hw h
  · exact fail_polls hterminal hw h
  · rename_i hpeek
    split at h
    · cases h
      exact .pending hterminal hw
    · rename_i hack
      simp only [Checked.bind_eq_ok] at h
      obtain ⟨⟨r, e₁⟩, hterm, h⟩ := h
      obtain ⟨hd, hdirection⟩ := DeliveryEndpoint.drained_of_metadata hf hpeek
      obtain rfl := terminate_drained hi hf hdirection hd hterm
      obtain ⟨e₂, hspec, hremoved⟩ := DeliveryEndpoint.terminateFlow_spec hi hf .requested
      rw [hterm, Except.ok.injEq, Prod.mk.injEq] at hspec
      obtain ⟨-, rfl⟩ := hspec
      cases h
      refine .closed hterminal hfinishing hack hd ⟨f, hf⟩ ?_ rfl ?_
      · rw [hremoved.flows, SortedMap.get?_erase_self]
      · rw [DeliveryEndpoint.exec, hterm]
        rfl
    · cases h
      exact .lost hterminal hw
    · exact fail_polls hterminal hw h
    · exact fail_polls hterminal hw h

/-- What a step takes that writes. -/
theorem taken_of_writing {f : FlowState} (hterminal : b.terminal = false)
    (hfinishing : b.finishing = false) (hf : e.flows.get? b.key = some f) :
    b.taken io e = match b.state.nextSegment e b.key with
      | .ok (.ok (some segment), _) => io.takes segment
      | _ => [] := by
  have hcontract : (e.flowContract b.key).isNone = false := by
    rw [DeliveryEndpoint.flowContract, hf]
    rfl
  refine if_neg ?_
  rw [hterminal, hcontract, hfinishing]
  simp

theorem pollWrite_polls (hs : SenderSide L b.key e opened accepted
    ((accepted.take k).map DeliveryTransfer.ofMessage)) {f : FlowState}
    (hf : e.flows.get? b.key = some f)
    (hw : b.state.Writes flowId limit b.key accepted k written) (hterminal : b.terminal = false)
    (hfinishing : b.finishing = false)
    (h : b.pollWrite io e registry = .ok (answer, b', e', registry')) :
    ∃ k', Polls flowId limit accepted k written b io e k' (written ++ b.taken io e) answer b'
      e' := by
  simp only [pollWrite, Checked.bind_eq_ok] at h
  obtain ⟨⟨r, state⟩, hsegment, h⟩ := h
  obtain ⟨hstate, hoffers⟩ := OutboundState.nextSegment_writes hs hf hw hsegment
  rw [taken_of_writing hterminal hfinishing hf, hsegment]
  rcases r with error | _ | segment
  · rw [List.append_nil]
    exact ⟨k, fail_polls hterminal hstate h⟩
  · rw [List.append_nil]
    cases h
    obtain ⟨hall, hwhole⟩ := hoffers.idle rfl
    exact ⟨k, .idle hterminal hfinishing hstate hall hwhole⟩
  have hoffered := hoffers.segment segment rfl
  simp only at h ⊢
  unfold SendStream.takes
  rcases hwrite : io.write segment with _ | failure | bytes
  · rw [hwrite] at h
    cases h
    rw [List.append_nil]
    exact ⟨k, .pending hterminal hstate⟩
  · rw [hwrite] at h
    rw [List.append_nil]
    refine ⟨k, ?_⟩
    cases failure with
    | connectionLost =>
      cases h
      exact .lost hterminal hstate
    | read => exact fail_polls hterminal hstate h
    | write => exact fail_polls hterminal hstate h
  rw [hwrite] at h
  simp only
  by_cases hle : bytes ≤ segment.length
  swap
  · rw [if_neg hle, List.append_nil]
    refine ⟨k, ?_⟩
    cases bytes with
    | zero => exact absurd (Nat.zero_le _) hle
    | succ n =>
      simp only [OutboundState.advance_overrun hoffered (not_le.mp hle), Checked.ok_bind] at h
      exact fail_polls hterminal hstate h
  rw [if_pos hle]
  cases bytes with
  | zero =>
    rw [List.take_zero, List.append_nil]
    exact ⟨k, fail_polls hterminal hstate h⟩
  | succ n =>
    simp only [Checked.bind_eq_ok] at h
    obtain ⟨⟨r', state', e₁⟩, hadvance, h⟩ := h
    have hadvanced := OutboundState.advance_writes hs hf hstate hoffered (Nat.succ_ne_zero n) hle
      hadvance
    cases hadvanced with
    | more hmore =>
      cases h
      exact ⟨k, .progressed hterminal hfinishing hmore⟩
    | committed hmore ha hcommit =>
      cases h
      exact ⟨k + 1, .committed hterminal hfinishing hmore ha hcommit⟩

theorem flow_of_contract (h : ¬ (e.flowContract b.key).isNone = true) :
    ∃ f, e.flows.get? b.key = some f := by
  cases hf : e.flows.get? b.key with
  | none =>
    rw [DeliveryEndpoint.flowContract, hf] at h
    exact absurd rfl h
  | some f => exact ⟨f, rfl⟩

/-- Every step of a binding. -/
theorem pollStep_polls (hs : SenderSide L b.key e opened accepted
    ((accepted.take k).map DeliveryTransfer.ofMessage))
    (hw : b.state.Writes flowId limit b.key accepted k written)
    (h : b.pollStep io e registry = .ok (answer, b', e', registry')) :
    ∃ k', Polls flowId limit accepted k written b io e k' (written ++ b.taken io e) answer b'
      e' := by
  have hquiet : b.terminal = true ∨ (e.flowContract b.key).isNone ∨ b.finishing = true →
      b.taken io e = [] := fun hcase => if_pos hcase
  unfold pollStep at h
  split at h
  · rename_i hterminal
    cases h
    rw [hquiet (.inl hterminal), List.append_nil]
    exact ⟨k, .refused hterminal⟩
  rename_i hterminal
  rw [Bool.not_eq_true] at hterminal
  split at h
  · rename_i hcontract
    rw [hquiet (.inr (.inl hcontract)), List.append_nil]
    exact ⟨k, fail_polls hterminal hw h⟩
  rename_i hcontract
  obtain ⟨f, hf⟩ := flow_of_contract hcontract
  split at h
  · rename_i hfinishing
    rw [hquiet (.inr (.inr hfinishing)), List.append_nil]
    exact ⟨k, pollFinish_polls hs.inv hf hw hterminal hfinishing h⟩
  · rename_i hfinishing
    rw [Bool.not_eq_true] at hfinishing
    exact pollWrite_polls hs hf hw hterminal hfinishing h

/-- A finish is refused, or granted behind the bytes of everything that was accepted. -/
theorem requestFinishNormal_writes (hs : SenderSide L b.key e opened accepted
    ((accepted.take k).map DeliveryTransfer.ofMessage))
    (hw : b.state.Writes flowId limit b.key accepted k written)
    {finished : Except IoFailure Unit} {r : Except SendError Unit}
    (h : b.requestFinishNormal finished e = .ok (r, b')) :
    (∃ state error, state.Writes flowId limit b.key accepted k written ∧ r = .error error ∧
        b' = { b with state := state }) ∨
      r = .ok () ∧ b' = { b with finishing := true } ∧ b.terminal = false ∧
        b.finishing = false ∧ k = accepted.length ∧ written = streamBytes flowId accepted := by
  unfold requestFinishNormal at h
  split at h
  · cases h
    exact .inl ⟨b.state, _, hw, rfl, rfl⟩
  rename_i hterminal
  split at h
  · cases h
    exact .inl ⟨b.state, _, hw, rfl, rfl⟩
  rename_i hfinishing
  split at h
  · cases h
    exact .inl ⟨b.state, _, hw, rfl, rfl⟩
  rename_i hcontract
  obtain ⟨f, hf⟩ := flow_of_contract hcontract
  simp only [Checked.bind_eq_ok] at h
  obtain ⟨⟨segment, state⟩, hsegment, h⟩ := h
  obtain ⟨hstate, hoffers⟩ := OutboundState.nextSegment_writes hs hf hw hsegment
  rcases segment with error | _ | segment
  · cases h
    exact .inl ⟨state, _, hstate, rfl, rfl⟩
  · obtain ⟨hall, hwhole⟩ := hoffers.idle rfl
    obtain ⟨-, rfl⟩ := OutboundState.nextSegment_none hsegment
    cases finished with
    | error failure =>
      cases h
      exact .inl ⟨_, _, hstate, rfl, rfl⟩
    | ok _ =>
      cases h
      exact .inr ⟨rfl, rfl, Bool.not_eq_true _ ▸ hterminal, Bool.not_eq_true _ ▸ hfinishing, hall,
        hwhole⟩
  · cases h
    exact .inl ⟨state, _, hstate, rfl, rfl⟩

end OutboundReliable

end RunenNet
