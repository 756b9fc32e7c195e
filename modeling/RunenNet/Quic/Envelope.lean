import RunenNet.Quic.Datagram
import RunenNet.Quic.FlowControlEffects

/-!
# The datagram envelope

What is encoded is as long as the two length functions say and is read back by the receiver; the
size checked when a flow is opened is large enough for every message of the flow.
-/

namespace RunenNet

open Foundation

/-- The length of the longest slice. -/
def isizeMax : Nat := 2 ^ 63 - 1

/-- The sequences with which a message of the mode is sent. -/
inductive EnvelopeSequence : DeliveryMode → Option Nat → Prop where
  | unordered {sequence : Option Nat} : EnvelopeSequence .unreliableUnordered sequence
  | sequenced {sequence : Nat} (h : sequence ≤ maxVarint) :
      EnvelopeSequence .unreliableSequenced (some sequence)

/-- The bytes between the `FlowId` and the payload. -/
def sequenceBytes : DeliveryMode → Option Nat → List UInt8
  | .unreliableSequenced, some sequence => (encodeVarint sequence).toOption.getD []
  | _, _ => []

/-- The index with which the message is handed to Core. -/
def ingressIndex : DeliveryMode → Option Nat → Nat
  | .unreliableSequenced, some sequence => sequence
  | _, _ => unorderedIngressIndex

variable {flowId : FlowId} {mode : DeliveryMode} {sequence : Option Nat} {flow payload : List UInt8}
  {n : Nat}

theorem FlowId.encodes (flowId : FlowId) : ∃ flow, encodeVarint flowId.value = .ok flow ∧
    flow.length ≤ 8 := by
  obtain ⟨flow, h, -, hle⟩ := encodeVarint_ok flowId.le_max
  exact ⟨flow, h, hle⟩

namespace EnvelopeSequence

theorem length_le (h : EnvelopeSequence mode sequence) : (sequenceBytes mode sequence).length ≤ 8 := by
  cases h with
  | unordered => exact Nat.zero_le _
  | sequenced h =>
    obtain ⟨bs, hbs, -, hle⟩ := encodeVarint_ok h
    simp only [sequenceBytes, hbs, Except.toOption, Option.getD_some]
    exact hle

theorem sum_lengths {len : Nat} :
    (checkedAdd usizeMax flow.length (sequenceBytes mode sequence).length).bind
        (checkedAdd usizeMax · n) = some len ↔
      flow.length + (sequenceBytes mode sequence).length + n ≤ usizeMax ∧
        len = flow.length + (sequenceBytes mode sequence).length + n := by
  simp only [Option.bind_eq_some_iff, checkedAdd_eq_some]
  constructor
  · rintro ⟨_, ⟨-, rfl⟩, hle, rfl⟩
    exact ⟨hle, rfl⟩
  · rintro ⟨hle, rfl⟩
    exact ⟨_, ⟨by omega, rfl⟩, hle, rfl⟩

/-- The length is that of the three parts, unless it overflows. -/
theorem datagramLen_ok (h : EnvelopeSequence mode sequence)
    (hflow : encodeVarint flowId.value = .ok flow) {len : Nat} :
    datagramLen flowId mode sequence n = .ok len ↔
      flow.length + (sequenceBytes mode sequence).length + n ≤ usizeMax ∧
        len = flow.length + (sequenceBytes mode sequence).length + n := by
  rw [← sum_lengths]
  cases h with
  | unordered =>
    simp only [datagramLen, hflow, sequenceBytes, List.length_nil]
    split
    · rename_i hnone
      simp [hnone]
    · rename_i total htotal
      simp [htotal]
  | sequenced h =>
    obtain ⟨bs, hbs, -, -⟩ := encodeVarint_ok h
    simp only [datagramLen, hflow, hbs, if_neg (not_lt.mpr h), sequenceBytes, Except.toOption,
      Option.getD_some]
    split
    · rename_i hnone
      simp [hnone]
    · rename_i total htotal
      simp [htotal]

theorem datagramLenForSend_eq (h : EnvelopeSequence mode sequence)
    (hflow : encodeVarint flowId.value = .ok flow)
    (hle : flow.length + (sequenceBytes mode sequence).length + n ≤ usizeMax) :
    datagramLenForSend flowId mode sequence n =
      .ok (flow.length + (sequenceBytes mode sequence).length + n) := by
  have hsum := sum_lengths.mpr ⟨hle, rfl⟩
  cases h with
  | unordered =>
    simp only [sequenceBytes, List.length_nil] at hsum ⊢
    simp only [datagramLenForSend, hflow, hsum]
  | sequenced h =>
    obtain ⟨bs, hbs, -, -⟩ := encodeVarint_ok h
    simp only [sequenceBytes, hbs, Except.toOption, Option.getD_some] at hsum ⊢
    simp only [datagramLenForSend, hflow, hbs, if_neg (not_lt.mpr h), hsum]

theorem encodeDatagram_eq (h : EnvelopeSequence mode sequence)
    (hflow : encodeVarint flowId.value = .ok flow)
    (hle : flow.length + (sequenceBytes mode sequence).length + payload.length ≤ usizeMax) :
    encodeDatagram true flowId mode sequence payload =
      .ok (.ok (flow ++ sequenceBytes mode sequence ++ payload)) := by
  have hlen := h.datagramLenForSend_eq hflow hle
  have htotal : (flow ++ sequenceBytes mode sequence ++ payload).length =
      flow.length + (sequenceBytes mode sequence).length + payload.length := by
    rw [List.length_append, List.length_append]
  cases h with
  | unordered =>
    simp only [sequenceBytes] at hlen htotal ⊢
    simp [encodeDatagram, hlen, hflow]
  | sequenced h =>
    obtain ⟨bs, hbs, -, -⟩ := encodeVarint_ok h
    simp only [sequenceBytes, hbs, Except.toOption, Option.getD_some] at hlen htotal ⊢
    simp only [encodeDatagram, hlen, hflow, hbs, htotal, Except.mapError, decide_true,
      Checked.assert_true, Checked.ok_bind, Checked.pure_eq, not_true_eq_false, if_false]

/-- The receiver finds the sequence and the payload behind the `FlowId`. -/
theorem datagramEnvelope_eq (h : EnvelopeSequence mode sequence) :
    datagramEnvelope flowId mode (flow ++ sequenceBytes mode sequence ++ payload) flow.length =
      .ok (ingressIndex mode sequence, flow.length + (sequenceBytes mode sequence).length) := by
  cases h with
  | unordered => rfl
  | sequenced h =>
    obtain ⟨bs, hbs, -, -⟩ := encodeVarint_ok h
    simp only [sequenceBytes, hbs, Except.toOption, Option.getD_some, datagramEnvelope,
      List.append_assoc, List.drop_left, decodeVarint_encode hbs, ingressIndex]

theorem receiveDatagram_eq (h : EnvelopeSequence mode sequence)
    (hflow : encodeVarint flowId.value = .ok flow) {endpoint : DeliveryEndpoint}
    {registry : AcceptedFlowRegistry} {registered : RegisteredFlow}
    (hr : registry.registeredFlow flowId = some registered)
    (hd : registered.key.direction = .inbound) (hm : registered.mode = mode)
    (hle : payload.length ≤ registered.maxMessageBytes) :
    receiveDatagram true endpoint registry (flow ++ sequenceBytes mode sequence ++ payload) = do
      match ← endpoint.receiveTransportPayload registered.key (ingressIndex mode sequence) payload with
      | (.error e, endpoint) => return (.error (.resolved flowId (.core e)), endpoint)
      | (.ok outcome, endpoint) => return (.ok (.core registered.key outcome), endpoint) := by
  have hunreliable : registered.mode ≠ .reliableOrdered := by
    rw [hm]
    cases h with
    | unordered => exact nofun
    | sequenced => exact nofun
  have hvarint := decodeVarint_encode hflow (sequenceBytes mode sequence ++ payload)
  rw [← List.append_assoc] at hvarint
  have hwire : FlowId.fromWire flowId.value = .ok flowId := dif_neg (not_lt.mpr flowId.le_max)
  have hpayload : (flow ++ sequenceBytes mode sequence ++ payload).drop
      (flow.length + (sequenceBytes mode sequence).length) = payload := by
    rw [← List.length_append, List.drop_left]
  rcases hanswer : endpoint.receiveTransportPayload registered.key (ingressIndex mode sequence)
    payload with panic | ⟨err | outcome, e⟩
  all_goals
    simp only [receiveDatagram, hvarint, hwire, hr, hd, hm ▸ hunreliable, hm,
      h.datagramEnvelope_eq, hpayload, if_neg (not_lt.mpr hle), ne_eq, not_true_eq_false, if_false,
      hanswer, Checked.ok_bind, Checked.error_bind]

/-- The size checked when the flow is opened is large enough for every message. -/
theorem length_le_of_validated (h : EnvelopeSequence mode sequence)
    (hflow : encodeVarint flowId.value = .ok flow) {stableMax size : Nat}
    (hsize : FlowControl.validateDatagramSize flowId mode stableMax (some size) = .ok ())
    (hn : n ≤ stableMax) :
    flow.length + (sequenceBytes mode sequence).length + n ≤ size := by
  -- the check is made with the longest sequence
  have hlongest : ∃ longest, EnvelopeSequence mode longest ∧
      (sequenceBytes mode sequence).length ≤ (sequenceBytes mode longest).length ∧
      ∃ needed, datagramLen flowId mode longest stableMax = .ok needed ∧ needed ≤ size := by
    have hle := h.length_le
    unfold FlowControl.validateDatagramSize at hsize
    cases h with
    | unordered =>
      refine ⟨none, .unordered, le_refl _, ?_⟩
      simp only at hsize
      split at hsize
      · cases hsize
      · rename_i needed hneeded
        split at hsize
        · cases hsize
        · rename_i hfits
          exact ⟨needed, hneeded, not_lt.mp hfits⟩
    | sequenced _ =>
      refine ⟨some maxVarint, .sequenced (le_refl _), hle, ?_⟩
      simp only at hsize
      split at hsize
      · cases hsize
      · rename_i needed hneeded
        split at hsize
        · cases hsize
        · rename_i hfits
          exact ⟨needed, hneeded, not_lt.mp hfits⟩
  obtain ⟨longest, hlongest, hle, needed, hneeded, hfits⟩ := hlongest
  obtain ⟨-, rfl⟩ := (hlongest.datagramLen_ok hflow).mp hneeded
  omega

end EnvelopeSequence

/-- Every message is encoded in as many bytes as computed, read back by the receiver of the flow,
and never larger than the size with which its flow was opened. -/
theorem datagram_envelope (hs : EnvelopeSequence mode sequence) (hlen : payload.length ≤ isizeMax) :
    ∃ datagram, encodeDatagram true flowId mode sequence payload = .ok (.ok datagram) ∧
      datagramLen flowId mode sequence payload.length = .ok datagram.length ∧
      datagramLenForSend flowId mode sequence payload.length = .ok datagram.length ∧
      (∀ endpoint registry registered,
        AcceptedFlowRegistry.registeredFlow registry flowId = some registered →
        registered.key.direction = .inbound → registered.mode = mode →
        payload.length ≤ registered.maxMessageBytes →
        receiveDatagram true endpoint registry datagram = do
          match ← endpoint.receiveTransportPayload registered.key (ingressIndex mode sequence)
            payload with
          | (.error e, endpoint) => return (.error (.resolved flowId (.core e)), endpoint)
          | (.ok outcome, endpoint) => return (.ok (.core registered.key outcome), endpoint)) ∧
      ∀ (fc fc' : FlowControl) alloc endpoint (request : OutboundOpenRequest) size prepared,
        fc.prepareOutboundOpen alloc endpoint request (some size) = .ok (.ok prepared, fc') →
        prepared.flow.flowId = flowId → request.mode = mode →
        payload.length ≤ request.stableMaxMessageBytes.get → datagram.length ≤ size := by
  obtain ⟨flow, hflow, hle⟩ := flowId.encodes
  have hfits : flow.length + (sequenceBytes mode sequence).length + payload.length ≤ usizeMax := by
    have := hs.length_le
    unfold isizeMax at hlen
    unfold usizeMax
    omega
  have htotal : (flow ++ sequenceBytes mode sequence ++ payload).length =
      flow.length + (sequenceBytes mode sequence).length + payload.length := by
    rw [List.length_append, List.length_append]
  refine ⟨_, hs.encodeDatagram_eq hflow hfits, ?_, ?_, fun endpoint registry registered hr hd hm hmax =>
    hs.receiveDatagram_eq hflow hr hd hm hmax, ?_⟩
  · rw [htotal]
    exact (hs.datagramLen_ok hflow).mpr ⟨hfits, rfl⟩
  · rw [htotal]
    exact hs.datagramLenForSend_eq hflow hfits
  · intro fc fc' alloc endpoint request size prepared hopen hid hmode hmax
    obtain ⟨-, -, hsize⟩ := FlowControl.prepareOutboundOpen_checked hopen
    rw [hid, hmode] at hsize
    rw [htotal]
    exact hs.length_le_of_validated hflow hsize hmax

/-! The client opens its first sequenced flow for messages of up to four bytes over datagrams of 13
bytes: no sequence makes a message longer. -/

def sampleControl : FlowControl where
  connection := ⟨1⟩
  localSide := .client
  localSettings := ⟨.authority, 64, 64, 4, 64⟩
  peerSettings := ⟨.nonAuthority, 64, 64, 4, 64⟩
  localFlowIds := .new .client
  peerFlowIds := .new .server
  pendingOutbound := .empty
  pendingInbound := none
  registry := .new .client (.nearest 8)

def sampleOpen : OutboundOpenRequest where
  key := ⟨⟨1⟩, .outbound, ⟨9⟩⟩
  mode := .unreliableSequenced
  policy := ⟨.nearest 4, .nearest 4, .nearest 64, .evictOldestUnreliable,
    .evictOldestBufferedUnreliable⟩
  stableMaxMessageBytes := .nearest 4
  connectionLimits := ⟨.nearest 4, .nearest 8, .nearest 64⟩

theorem sampleOpen_prepared : ∃ prepared fc', sampleControl.prepareOutboundOpen (fun _ => true)
    (.new ⟨.nearest 4, .nearest 8, .nearest 64⟩) sampleOpen (some 13) = .ok (.ok prepared, fc') ∧
      prepared.flow.flowId = ⟨0, Nat.zero_le _⟩ := ⟨_, _, rfl, rfl⟩

theorem datagram_envelope_sample : ∃ datagram,
    encodeDatagram true ⟨0, Nat.zero_le _⟩ .unreliableSequenced (some maxVarint) [1, 2, 3, 4] =
      .ok (.ok datagram) ∧ datagram.length ≤ 13 := by
  obtain ⟨prepared, fc', hopen, hid⟩ := sampleOpen_prepared
  obtain ⟨datagram, he, -, -, -, hsize⟩ := datagram_envelope (.sequenced (le_refl maxVarint))
    (show [1, 2, 3, 4].length ≤ isizeMax by decide)
  exact ⟨datagram, he, hsize _ _ _ _ _ _ _ hopen hid rfl (show 4 ≤ 4 from le_refl 4)⟩

end RunenNet
