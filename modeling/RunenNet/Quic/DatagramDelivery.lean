import RunenNet.Core.Delivery.UnreliableQueue
import RunenNet.Quic.DatagramCustody
import Mathlib.Data.List.Sort

/-!
# Unreliable flows end to end

A sender and a receiver of datagrams, and a network between them that loses, repeats and reorders
what it is given. The hosts work on either endpoint at any time; only the queue of the flow at the
sender and what its receiver is given are left to the datagrams.
-/

namespace RunenNet

open Foundation

variable {flowId : FlowId} {mode : DeliveryMode}

/-! ### What a datagram carries -/

/-- The message a datagram carries for the flow at `flowId`. -/
def carried (flowId : FlowId) (mode : DeliveryMode) (datagram : List UInt8) :
    List ExposedMessage :=
  match decodeVarint datagram with
  | .error _ => []
  | .ok (value, flowBytes) =>
    if value ≠ flowId.value then []
    else match datagramEnvelope flowId mode datagram flowBytes with
      | .error _ => []
      | .ok (index, offset) => [⟨index, datagram.drop offset⟩]

/-- What an accepted message arrives as: a datagram of an unordered flow does not tell its index. -/
def arrival (mode : DeliveryMode) (m : ExposedMessage) : ExposedMessage :=
  ⟨ingressIndex mode (some m.acceptedIndex), m.payload⟩

theorem map_arrival (accepted : List ExposedMessage) :
    accepted.map (arrival .unreliableSequenced) = accepted := List.map_id accepted

/-- What is encoded consists of its three parts. -/
theorem encodeDatagram_parts {sequence : Option Nat} {payload datagram : List UInt8}
    (h : encodeDatagram true flowId mode sequence payload = .ok (.ok datagram)) :
    EnvelopeSequence mode sequence ∧ ∃ flow, encodeVarint flowId.value = .ok flow ∧
      datagram = flow ++ sequenceBytes mode sequence ++ payload := by
  cases hlen : datagramLenForSend flowId mode sequence payload.length with
  | error err => simp [encodeDatagram, hlen] at h
  | ok total =>
    obtain ⟨hs, flow, hflow, hle, -⟩ := EnvelopeSequence.of_len hlen
    refine ⟨hs, flow, hflow, ?_⟩
    rw [hs.encodeDatagram_eq hflow hle] at h
    cases h
    rfl

theorem carried_parts {sequence : Option Nat} {flow payload : List UInt8}
    (hs : EnvelopeSequence mode sequence) (hflow : encodeVarint flowId.value = .ok flow) :
    carried flowId mode (flow ++ sequenceBytes mode sequence ++ payload) =
      [⟨ingressIndex mode sequence, payload⟩] := by
  have hvarint := decodeVarint_encode hflow (sequenceBytes mode sequence ++ payload)
  rw [← List.append_assoc] at hvarint
  have hpayload : (flow ++ sequenceBytes mode sequence ++ payload).drop
      (flow.length + (sequenceBytes mode sequence).length) = payload := by
    rw [← List.length_append, List.drop_left]
  simp only [carried, hvarint, ne_eq, not_true_eq_false, if_false, hs.datagramEnvelope_eq, hpayload]

theorem carried_other {id : FlowId} (hid : id ≠ flowId) {flow rest : List UInt8}
    (hflow : encodeVarint id.value = .ok flow) : carried flowId mode (flow ++ rest) = [] := by
  have hne : id.value ≠ flowId.value := fun h => hid (by
    cases id
    cases flowId
    cases h
    rfl)
  simp only [carried, decodeVarint_encode hflow rest, if_pos hne]

/-- A datagram that carries a message frames it in the envelope of the flow. -/
theorem carried_eq_message {datagram : List UInt8} {m : ExposedMessage}
    (h : carried flowId mode datagram = [m]) : ∃ flowBytes index offset,
      decodeVarint datagram = .ok (flowId.value, flowBytes) ∧
      datagramEnvelope flowId mode datagram flowBytes = .ok (index, offset) ∧
      m = ⟨index, datagram.drop offset⟩ := by
  unfold carried at h
  split at h
  · cases h
  rename_i value flowBytes hvarint
  split at h
  · cases h
  rename_i hvalue
  rw [not_not] at hvalue
  subst hvalue
  split at h
  · cases h
  rename_i index offset henvelope
  cases h
  exact ⟨flowBytes, index, offset, hvarint, henvelope, rfl⟩

/-- The registry knows the flow at `key` as the one at `flowId`, if it knows either. -/
structure RegistersAt (flowId : FlowId) (key : DeliveryFlowKey) (mode : DeliveryMode)
    (limit : Nat) (registry : AcceptedFlowRegistry) : Prop where
  flow : ∀ flow, registry.registeredFlow flowId = some flow →
    flow.key = key ∧ flow.mode = mode ∧ flow.maxMessageBytes = limit
  alone : ∀ id flow, registry.registeredFlow id = some flow → flow.key = key → id = flowId

/-- The datagram of a message of the flow carries that message, any other datagram nothing. -/
theorem carried_of_transfer {ks : DeliveryFlowKey} {limit : Nat} {registry : AcceptedFlowRegistry}
    {id : FlowId} {flow : RegisteredFlow} {front : DeliveryTransfer} {datagram : List UInt8}
    (hreg : RegistersAt flowId ks mode limit registry)
    (hflow : registry.registeredFlow id = some flow)
    (h : CarriesTransfer id flow front datagram) :
    carried flowId mode datagram = [] ∨ flow.key = ks ∧ flow.maxMessageBytes = limit ∧
      carried flowId mode datagram = [arrival mode (DeliveryEndpoint.exposed front)] := by
  obtain ⟨hs, bytes, hbytes, rfl⟩ := encodeDatagram_parts h
  by_cases hid : id = flowId
  swap
  · rw [List.append_assoc]
    exact .inl (carried_other hid hbytes)
  subst hid
  obtain ⟨hkey, rfl, hlimit⟩ := hreg.flow flow hflow
  refine .inr ⟨hkey, hlimit, ?_⟩
  rw [carried_parts hs hbytes]
  have hindex : ingressIndex flow.mode (sendSequence flow front) =
      ingressIndex flow.mode (some front.acceptedIndex) := by
    unfold sendSequence
    cases flow.mode <;> rfl
  rw [hindex]
  rfl

/-- Only a message of the flow's size is handed to the transport. -/
theorem driveOne_sized {t : DatagramSendTransport} {e e' : DeliveryEndpoint}
    {registry : AcceptedFlowRegistry} {id : FlowId} {flow : RegisteredFlow} {f : FlowState}
    {front : DeliveryTransfer} {rest : List DeliveryTransfer} {drops drops' index : Nat}
    (hflow : registry.registeredFlow id = some flow) (hf : e.flows.get? flow.key = some f)
    (ho : f.outbound = front :: rest)
    (h : driveOne t e registry id drops = .ok (.ok (.enqueued index), e', drops')) :
    front.payload.length ≤ flow.maxMessageBytes := by
  by_contra hlarge
  have hlarge : front.payloadLen > flow.maxMessageBytes := not_le.mp hlarge
  cases hregistered : registeredOutboundUnreliable registry id with
  | error err => simp [driveOne, hregistered] at h
  | ok flow' =>
    obtain ⟨hflow', hd, -⟩ := registeredOutboundUnreliable_ok hregistered
    rw [hflow] at hflow'
    cases hflow'
    have hpeek : e.peekOutbound flow.key = .ok (some front) := by
      simp [DeliveryEndpoint.peekOutbound, hf, hd, ho]
    by_cases hmode : front.mode = flow.mode
    · simp [driveOne, hregistered, hpeek, driveTransfer, hmode, hlarge] at h
    · simp [driveOne, hregistered, hpeek, driveTransfer, hmode] at h

/-! ### What is received -/

section Receive

variable {kr : DeliveryFlowKey} {limit : Nat} {reserves : Bool} {e e' : DeliveryEndpoint}
  {registry : AcceptedFlowRegistry} {datagram : List UInt8} {m : ExposedMessage}
  {answer : Except DatagramReceiveFailure DatagramReceiveOutcome}

theorem FlowId.value_of_fromWire {value : Nat} (h : FlowId.fromWire value = .ok flowId) :
    flowId.value = value := by
  unfold FlowId.fromWire at h
  split at h
  · cases h
  · cases h
    rfl

/-- A datagram either leaves Core alone or hands it the payload that its envelope frames. -/
theorem receiveDatagram_hands
    (h : receiveDatagram reserves e registry datagram = .ok (answer, e')) :
    e' = e ∨ ∃ (id : FlowId) (flow : RegisteredFlow) (flowBytes index offset : Nat)
      (r : Except DeliveryOperationError ReceiveOutcome),
      decodeVarint datagram = .ok (id.value, flowBytes) ∧
      registry.registeredFlow id = some flow ∧
      datagramEnvelope id flow.mode datagram flowBytes = .ok (index, offset) ∧
      e.receiveTransportPayload flow.key index (datagram.drop offset) = .ok (r, e') := by
  have hkept : ∀ {a}, (Except.ok (a, e) : Checked _) = .ok (answer, e') → e' = e := fun h => by
    cases h
    rfl
  cases hvarint : decodeVarint datagram with
  | error err => exact .inl (hkept (by simpa [receiveDatagram, hvarint] using h))
  | ok decoded =>
    obtain ⟨value, flowBytes⟩ := decoded
    cases hwire : FlowId.fromWire value with
    | error err => exact .inl (hkept (by simpa [receiveDatagram, hvarint, hwire] using h))
    | ok id =>
      cases hflow : registry.registeredFlow id with
      | none => exact .inl (hkept (by simpa [receiveDatagram, hvarint, hwire, hflow] using h))
      | some flow =>
        by_cases hd : flow.key.direction = .inbound
        swap
        · exact .inl (hkept (by simpa [receiveDatagram, hvarint, hwire, hflow, hd] using h))
        by_cases hm : flow.mode = .reliableOrdered
        · exact .inl (hkept (by simpa [receiveDatagram, hvarint, hwire, hflow, hd, hm] using h))
        cases henvelope : datagramEnvelope id flow.mode datagram flowBytes with
        | error err =>
          exact .inl (hkept (by
            simpa [receiveDatagram, hvarint, hwire, hflow, hd, hm, henvelope] using h))
        | ok parts =>
          obtain ⟨index, offset⟩ := parts
          simp only [receiveDatagram, hvarint, hwire, hflow, hd, ne_eq, not_true_eq_false,
            if_false, hm, henvelope] at h
          split at h
          · exact .inl (hkept h)
          split at h
          · exact .inl (hkept h)
          cases hr : e.receiveTransportPayload flow.key index (datagram.drop offset) with
          | error panic =>
            rw [hr] at h
            cases h
          | ok result =>
            obtain ⟨r, e₁⟩ := result
            rw [hr] at h
            have he : e₁ = e' := by
              cases r <;> cases h <;> rfl
            subst he
            exact .inr ⟨id, flow, flowBytes, index, offset, r,
              by rw [FlowId.value_of_fromWire hwire], hflow, henvelope, hr⟩

/-- To the flow at `kr` a datagram hands only the message it carries. -/
theorem receiveDatagram_exec (hreg : RegistersAt flowId kr mode limit registry)
    (h : receiveDatagram reserves e registry datagram = .ok (answer, e')) :
    e' = e ∨ ∃ k index payload reply,
      e.exec (.receiveTransportPayload k index payload) = .ok (reply, e') ∧
        (k = kr → carried flowId mode datagram = [⟨index, payload⟩]) := by
  rcases receiveDatagram_hands h with
    hsame | ⟨id, flow, flowBytes, index, offset, r, hvarint, hflow, henvelope, hr⟩
  · exact .inl hsame
  · refine .inr ⟨flow.key, index, datagram.drop offset, .received r, ?_, fun hk => ?_⟩
    · rw [DeliveryEndpoint.exec, hr]
      rfl
    · have hid := hreg.alone id flow hflow hk
      subst hid
      obtain ⟨-, rfl, -⟩ := hreg.flow flow hflow
      simp only [carried, hvarint, ne_eq, not_true_eq_false, if_false, henvelope]

/-- What a datagram carries for the flow reaches it, if there is memory for it. -/
theorem receiveDatagram_of_carried (hreg : RegistersAt flowId kr mode limit registry)
    {flow : RegisteredFlow} (hflow : registry.registeredFlow flowId = some flow)
    (hc : carried flowId mode datagram = [m]) (hd : kr.direction = .inbound)
    (hm : mode ≠ .reliableOrdered) (hle : m.payload.length ≤ limit)
    {r : Except DeliveryOperationError ReceiveOutcome}
    (hr : e.receiveTransportPayload kr m.acceptedIndex m.payload = .ok (r, e')) :
    ∃ answer, receiveDatagram true e registry datagram = .ok (answer, e') ∧
      ((∃ outcome, answer = .ok (.core kr outcome)) ∨
        ∃ err, answer = .error (.resolved flowId (.core err))) := by
  obtain ⟨hkey, hmode, hlimit⟩ := hreg.flow flow hflow
  subst hkey hmode hlimit
  obtain ⟨flowBytes, index, offset, hvarint, henvelope, rfl⟩ := carried_eq_message hc
  have hwire : FlowId.fromWire flowId.value = .ok flowId := dif_neg (not_lt.mpr flowId.le_max)
  simp only [receiveDatagram, hvarint, hwire, hflow, hd, ne_eq, not_true_eq_false, if_false, hm,
    henvelope, if_neg (not_lt.mpr hle), hr, Checked.ok_bind]
  cases r with
  | error err => exact ⟨_, rfl, .inr ⟨err, rfl⟩⟩
  | ok outcome => exact ⟨_, rfl, .inl ⟨outcome, rfl⟩⟩

end Receive

/-! ### The receiving end -/

open DeliveryEndpoint (opensOn)
open SequencedRun (continued increasing_append)

/-- The receiver's flow at `kr`, with what arrived for it and what it exposed in its current
lifetime. -/
structure Receiving (kr : DeliveryFlowKey) (mode : DeliveryMode) (e : DeliveryEndpoint)
    (arrived exposed : List ExposedMessage) : Prop where
  inv : ∃ L, e.Inv L
  modes : ∀ f, e.flows.get? kr = some f → f.mode = mode
  passed : (exposed ++ e.unexposed kr).Sublist arrived
  increasing : mode = .unreliableSequenced →
    (exposed.map ExposedMessage.acceptedIndex).Pairwise (· < ·)
  mark : mode = .unreliableSequenced → ∀ f, e.flows.get? kr = some f →
    f.receiver.lastExposed = exposed.getLast?.map ExposedMessage.acceptedIndex

namespace Receiving

variable {kr : DeliveryFlowKey} {e e' : DeliveryEndpoint} {arrived exposed : List ExposedMessage}
  {op : DeliveryOp} {reply : DeliveryReply}

theorem more (h : Receiving kr mode e arrived exposed) {arrived' : List ExposedMessage}
    (hsub : arrived.Sublist arrived') : Receiving kr mode e arrived' exposed :=
  ⟨h.inv, h.modes, h.passed.trans hsub, h.increasing, h.mark⟩

/-- A flow that is not there yet: nothing of its lifetime happened. -/
theorem fresh (hi : ∃ L, e.Inv L) {policy : FlowResourcePolicy}
    (h : e.flows.get? kr = some (.new mode policy)) : Receiving kr mode e [] [] where
  inv := hi
  modes := fun f hf => by
    rw [h] at hf
    cases hf
    rfl
  passed := by
    rw [DeliveryEndpoint.unexposed_of_new h]
    exact List.Sublist.refl _
  increasing := fun _ => .nil
  mark := fun hm f hf => by
    rw [h] at hf
    cases hf
    subst hm
    rfl

/-- Without the flow nothing waits. -/
theorem closed (h : Receiving kr mode e arrived exposed) (hi : ∃ L, e'.Inv L)
    (hnone : e'.flows.get? kr = none) : Receiving kr mode e' arrived exposed where
  inv := hi
  modes := fun f hf => by
    rw [hnone] at hf
    cases hf
  passed := by
    rw [DeliveryEndpoint.unexposed_of_none hnone, List.append_nil]
    exact (List.sublist_append_left _ _).trans h.passed
  increasing := h.increasing
  mark := fun _ f hf => by
    rw [hnone] at hf
    cases hf

section Sequenced

open DeliveryEndpoint (SequencedEffect)

variable {f g : FlowState}

theorem increasing_goes (h : Receiving kr mode e arrived exposed)
    (hs : mode = .unreliableSequenced) (hf : e.flows.get? kr = some f) {after : Option FlowState}
    (hx : SequencedEffect kr f op reply after) :
    ((exposed ++ exposedOn kr op reply).map ExposedMessage.acceptedIndex).Pairwise (· < ·) := by
  cases hx with
  | kept _ _ he =>
    rw [he, List.append_nil]
    exact h.increasing hs
  | accepted _ _ _ _ he =>
    rw [he, List.append_nil]
    exact h.increasing hs
  | exposed hfresh _ _ _ he =>
    rw [h.mark hs f hf] at hfresh
    rw [he]
    exact increasing_append (h.increasing hs) hfresh
  | ended _ he =>
    rw [he, List.append_nil]
    exact h.increasing hs

theorem mark_goes (h : Receiving kr mode e arrived exposed) (hs : mode = .unreliableSequenced)
    (hf : e.flows.get? kr = some f) (hx : SequencedEffect kr f op reply (some g)) :
    g.receiver.lastExposed =
      (exposed ++ exposedOn kr op reply).getLast?.map ExposedMessage.acceptedIndex := by
  cases hx with
  | kept hsame _ he =>
    rw [he, List.append_nil]
    exact hsame.mark.trans (h.mark hs f hf)
  | accepted _ _ hmark _ he =>
    rw [he, List.append_nil]
    exact hmark.trans (h.mark hs f hf)
  | exposed _ hmark _ _ he =>
    rw [he, hmark, List.getLast?_append]
    rfl

end Sequenced

/-- In the lifetime of the flow, an operation adds what it brings and what it exposes. -/
theorem goes {L : DeliveryScopeLimits} (h : Receiving kr mode e arrived exposed)
    (hi' : e'.Inv L) (hx : DeliveryEndpoint.Effect L e e' op reply) {f : FlowState}
    (hf : e.flows.get? kr = some f) (hm : mode ≠ .reliableOrdered) :
    Receiving kr mode e' (arrived ++ arrivedOn kr op) (exposed ++ exposedOn kr op reply) := by
  have hmode := h.modes f hf
  have hpasses : DeliveryEndpoint.Passes kr e e' op reply := hx.passes fun g hg => by
    rw [h.modes g hg]
    exact hm
  have hsequenced : mode = .unreliableSequenced →
      DeliveryEndpoint.SequencedEffect kr f op reply (e'.flows.get? kr) := fun hs =>
    hx.sequencedEffect hf (hmode.trans hs)
  refine ⟨⟨L, hi'⟩, fun g hg => ?_, ?_, fun hs => h.increasing_goes hs hf (hsequenced hs),
    fun hs g hg => h.mark_goes hs hf (hg ▸ hsequenced hs)⟩
  · exact (hx.contract hf hg).1.trans hmode
  · have hsub := hpasses.append_left exposed
    rw [← List.append_assoc, ← List.append_assoc] at hsub
    exact hsub.trans (h.passed.append_right _)

/-- Any operation, that opens the flow in its mode if at all. -/
theorem exec (h : Receiving kr mode e arrived exposed) (hm : mode ≠ .reliableOrdered)
    (hopen : ∀ mode' policy limits, op = .establishFlow kr mode' policy limits → mode' = mode)
    (hx : e.exec op = .ok (reply, e')) :
    Receiving kr mode e' (continued (opensOn kr op reply) arrived (arrivedOn kr op))
      (continued (opensOn kr op reply) exposed (exposedOn kr op reply)) := by
  obtain ⟨L, hi⟩ := h.inv
  obtain ⟨hi', heffect⟩ := DeliveryEndpoint.exec_effect hi hx
  cases hf : e.flows.get? kr with
  | some f =>
    rw [SequencedRun.opensOn_false heffect hf]
    exact h.goes hi' heffect hf hm
  | none =>
    obtain ⟨hsilent, hnone | ⟨mode', policy, limits, rfl, rfl, hnew⟩⟩ := heffect.absent hf
    · cases opensOn kr op reply with
      | true => exact (closed ⟨⟨L, hi⟩, h.modes, by
          rw [DeliveryEndpoint.unexposed_of_none hf]
          exact List.Sublist.refl _, fun _ => .nil, fun _ f hf' => by
            rw [hf] at hf'
            cases hf'⟩ ⟨L, hi'⟩ hnone)
      | false =>
        show Receiving kr mode e' (arrived ++ _) (exposed ++ _)
        rw [hsilent.exposed, List.append_nil]
        exact (h.closed ⟨L, hi'⟩ hnone).more (List.sublist_append_left _ _)
    · obtain rfl := hopen mode' policy limits rfl
      have hopens : opensOn kr (.establishFlow kr mode' policy limits)
          (.established (.ok ())) = true := decide_eq_true rfl
      rw [hopens]
      exact fresh ⟨L, hi'⟩ hnew

end Receiving

/-! ### Runs -/

/-- Both ends of an unreliable flow, and the datagrams that the network was given. `arrived` are the
messages of the datagrams that the receiver was given and `exposed` those it exposed, both in the
current lifetime of its flow. -/
structure DatagramLink where
  sender : DatagramRun
  sent : List (List UInt8)
  receiver : DeliveryEndpoint
  arrived : List ExposedMessage
  exposed : List ExposedMessage

namespace DatagramLink

variable {ks kr : DeliveryFlowKey} {limit : Nat} {s s' : DatagramLink}

/-- The transport of a drive takes `datagram` and no other, so that it is what was handed over. -/
def Admits (flowId : FlowId) (mode : DeliveryMode) (limit : Nat) (datagram : List UInt8) :
    DatagramAction ks → Prop
  | .drive registry _ t => RegistersAt flowId ks mode limit registry ∧
    ∀ d, t.trySend d = .ok () → d = datagram
  | _ => True

/-- What an action handed to the network. -/
def handed : DatagramAction ks → DatagramReply → List UInt8 → List (List UInt8)
  | .drive _ _ _, .driven (.ok (.enqueued _)), datagram => [datagram]
  | _, _, _ => []

/-- The actions of the sender and of the receiver's host, and the arrival of a datagram that was
sent, at any time and any number of times. A lifetime of the sender's flow has a `FlowId` of its
own, and the receiver's flow is opened in the mode that was agreed. -/
inductive Step (ks kr : DeliveryFlowKey) (flowId : FlowId) (mode : DeliveryMode) (limit : Nat) :
    DatagramLink → DatagramLink → Prop where
  | sender {s : DatagramLink} {action : DatagramAction ks} {reply : DatagramReply}
      {sender' : DatagramRun} {datagram : List UInt8} : Admits flowId mode limit datagram action →
    s.sender.step action = .ok (reply, sender') →
    (DatagramRun.Opens ks s.sender.endpoint sender'.endpoint →
      ∀ d ∈ s.sent ++ handed action reply datagram, carried flowId mode d = []) →
    Step ks kr flowId mode limit s { s with
      sender := sender'
      sent := s.sent ++ handed action reply datagram }
  | host {s : DatagramLink} {op : DeliveryOp} {reply : DeliveryReply}
      {receiver' : DeliveryEndpoint} : arrivedOn kr op = [] →
    (∀ mode' policy limits, op = .establishFlow kr mode' policy limits → mode' = mode) →
    s.receiver.exec op = .ok (reply, receiver') →
    Step ks kr flowId mode limit s { s with
      receiver := receiver'
      arrived := continued (opensOn kr op reply) s.arrived []
      exposed := continued (opensOn kr op reply) s.exposed (exposedOn kr op reply) }
  | arrive {s : DatagramLink} {datagram : List UInt8} {reserves : Bool}
      {registry : AcceptedFlowRegistry}
      {answer : Except DatagramReceiveFailure DatagramReceiveOutcome}
      {receiver' : DeliveryEndpoint} : datagram ∈ s.sent →
    RegistersAt flowId kr mode limit registry →
    receiveDatagram reserves s.receiver registry datagram = .ok (answer, receiver') →
    Step ks kr flowId mode limit s { s with
      receiver := receiver'
      arrived := s.arrived ++ carried flowId mode datagram }

/-- Two endpoints before the flow is opened at either. -/
structure Starts (kr : DeliveryFlowKey) (mode : DeliveryMode) (s : DatagramLink) : Prop where
  sender : ∃ L, s.sender = DatagramRun.start L
  receiver : ∃ L, s.receiver = .new L
  empty : s.sent = [] ∧ s.arrived = [] ∧ s.exposed = []
  unreliable : mode ≠ .reliableOrdered
  inbound : kr.direction = .inbound

/-! ### The invariant -/

structure Inv (ks kr : DeliveryFlowKey) (flowId : FlowId) (mode : DeliveryMode) (limit : Nat)
    (s : DatagramLink) : Prop where
  unreliable : mode ≠ .reliableOrdered
  inbound : kr.direction = .inbound
  sender : ∃ L, s.sender.endpoint.Inv L
  custody : DatagramRun.Custody ks s.sender
  sent : ∀ d ∈ s.sent, ∀ m ∈ carried flowId mode d,
    m ∈ s.sender.accepted.map (arrival mode) ∧ m.payload.length ≤ limit
  arrived : ∀ m ∈ s.arrived, ∃ d ∈ s.sent, m ∈ carried flowId mode d
  receiving : Receiving kr mode s.receiver s.arrived s.exposed

theorem Inv.start (h : Starts kr mode s) : Inv ks kr flowId mode limit s := by
  obtain ⟨⟨L, hs⟩, ⟨L', hr⟩, ⟨hsent, harrived, hexposed⟩, hm, hd⟩ := h
  refine ⟨hm, hd, ⟨L, hs ▸ DeliveryEndpoint.new_inv L⟩, hs ▸ .start L, ?_, ?_, ?_⟩
  · rw [hsent]
    intro d hd
    cases hd
  · rw [harrived]
    intro m hm
    cases hm
  · rw [harrived, hexposed, hr]
    refine ⟨⟨L', DeliveryEndpoint.new_inv L'⟩, fun f hf => ?_, List.Sublist.refl _,
      fun _ => .nil, fun _ f hf => ?_⟩
    · cases hf
    · cases hf

theorem driveOne_of_step {r r' : DatagramRun} {registry : AcceptedFlowRegistry} {id : FlowId}
    {t : DatagramSendTransport} {progress : Except DatagramSendError DatagramSendProgress}
    (h : r.step (.drive registry id t : DatagramAction ks) = .ok (.driven progress, r')) :
    ∃ e' drops', driveOne t r.endpoint registry id r.transportDrops =
      .ok (progress, e', drops') := by
  cases hdrive : driveOne t r.endpoint registry id r.transportDrops with
  | error panic => simp [DatagramRun.step, DatagramRun.exec, hdrive] at h
  | ok result =>
    obtain ⟨progress', e', drops'⟩ := result
    simp [DatagramRun.step, DatagramRun.exec, hdrive] at h
    exact ⟨e', drops', by rw [h.1]⟩

/-- What an action hands over carries a message that waited for it. -/
theorem handed_carries {action : DatagramAction ks} {reply : DatagramReply} {sender' : DatagramRun}
    {datagram : List UInt8} (hc : DatagramRun.Custody ks s.sender)
    (hadmits : Admits flowId mode limit datagram action)
    (h : s.sender.step action = .ok (reply, sender'))
    (hsteps : DatagramRun.Steps ks s.sender sender' action reply) :
    ∀ d ∈ handed action reply datagram, ∀ m ∈ carried flowId mode d,
      m ∈ s.sender.accepted.map (arrival mode) ∧ m.payload.length ≤ limit := by
  intro d hd m hm
  unfold handed at hd
  split at hd
  swap
  · cases hd
  rename_i registry id t index
  rw [List.mem_singleton] at hd
  subst hd
  obtain ⟨hreg, honly⟩ := hadmits
  cases hsteps.keeps.offers registry id t _ rfl rfl with
  | nothing _ hno => exact absurd rfl (hno index)
  | @one d size hcarries _ _ _ _ hsent =>
    obtain rfl := honly d (hsent.mp ⟨index, rfl⟩)
    obtain ⟨flow, f, front, rest, hflow, hf, ho, htransfer⟩ := hcarries
    rcases carried_of_transfer hreg hflow htransfer with hnone | ⟨hkey, hlimit, hone⟩
    · rw [hnone] at hm
      cases hm
    rw [hone, List.mem_singleton] at hm
    subst hm
    constructor
    · refine List.mem_map_of_mem ?_
      rw [hc.ledger, DeliveryEndpoint.custody_of_get? (hkey ▸ hf), ho]
      exact List.mem_append_right _ List.mem_cons_self
    · obtain ⟨e', drops', hdrive⟩ := driveOne_of_step h
      exact hlimit ▸ driveOne_sized hflow hf ho hdrive

theorem Inv.sends (hi : Inv ks kr flowId mode limit s) {action : DatagramAction ks}
    {reply : DatagramReply} {sender' : DatagramRun} {datagram : List UInt8}
    (hadmits : Admits flowId mode limit datagram action)
    (hstep : s.sender.step action = .ok (reply, sender'))
    (hopens : DatagramRun.Opens ks s.sender.endpoint sender'.endpoint →
      ∀ d ∈ s.sent ++ handed action reply datagram, carried flowId mode d = []) :
    Inv ks kr flowId mode limit { s with
      sender := sender'
      sent := s.sent ++ handed action reply datagram } := by
  obtain ⟨L, hinv⟩ := hi.sender
  obtain ⟨reply', r', hstep', hinv', hcustody, hsteps⟩ :=
    DatagramRun.step_spec hinv hi.custody action
  rw [hstep, Except.ok.injEq, Prod.mk.injEq] at hstep'
  obtain ⟨rfl, rfl⟩ := hstep'
  have harrived : ∀ m ∈ s.arrived, ∃ d ∈ s.sent ++ handed action reply datagram,
      m ∈ carried flowId mode d := fun m hm => by
    obtain ⟨d, hd, hmd⟩ := hi.arrived m hm
    exact ⟨d, List.mem_append_left _ hd, hmd⟩
  refine ⟨hi.unreliable, hi.inbound, ⟨L, hinv'⟩, hcustody, fun d hd m hm => ?_, harrived,
    hi.receiving⟩
  rcases hsteps.logs with ⟨ho, -, -⟩ | ⟨left, -, haccepted, -⟩
  · rw [hopens ho d hd] at hm
    cases hm
  · have hold : m ∈ s.sender.accepted.map (arrival mode) ∧ m.payload.length ≤ limit := by
      rcases List.mem_append.mp hd with hd | hd
      · exact hi.sent d hd m hm
      · exact handed_carries hi.custody hadmits hstep hsteps d hd m hm
    refine ⟨?_, hold.2⟩
    rw [haccepted, List.map_append]
    exact List.mem_append_left _ hold.1

theorem Inv.hosts (hi : Inv ks kr flowId mode limit s) {op : DeliveryOp} {reply : DeliveryReply}
    {receiver' : DeliveryEndpoint} (harrivedOn : arrivedOn kr op = [])
    (hopen : ∀ mode' policy limits, op = .establishFlow kr mode' policy limits → mode' = mode)
    (hexec : s.receiver.exec op = .ok (reply, receiver')) :
    Inv ks kr flowId mode limit { s with
      receiver := receiver'
      arrived := continued (opensOn kr op reply) s.arrived []
      exposed := continued (opensOn kr op reply) s.exposed (exposedOn kr op reply) } := by
  have hreceiving := hi.receiving.exec hi.unreliable hopen hexec
  rw [harrivedOn] at hreceiving
  refine ⟨hi.unreliable, hi.inbound, hi.sender, hi.custody, hi.sent,
    fun m hm => hi.arrived m ?_, hreceiving⟩
  change m ∈ continued (opensOn kr op reply) s.arrived [] at hm
  unfold continued at hm
  split at hm
  · cases hm
  · rwa [List.append_nil] at hm

theorem Inv.arrives (hi : Inv ks kr flowId mode limit s) {datagram : List UInt8} {reserves : Bool}
    {registry : AcceptedFlowRegistry}
    {answer : Except DatagramReceiveFailure DatagramReceiveOutcome} {receiver' : DeliveryEndpoint}
    (hsent : datagram ∈ s.sent) (hreg : RegistersAt flowId kr mode limit registry)
    (hreceive : receiveDatagram reserves s.receiver registry datagram = .ok (answer, receiver')) :
    Inv ks kr flowId mode limit { s with
      receiver := receiver'
      arrived := s.arrived ++ carried flowId mode datagram } := by
  refine ⟨hi.unreliable, hi.inbound, hi.sender, hi.custody, hi.sent, fun m hm => ?_, ?_⟩
  · rcases List.mem_append.mp hm with hm | hm
    · exact hi.arrived m hm
    · exact ⟨datagram, hsent, hm⟩
  rcases receiveDatagram_exec hreg hreceive with
    he | ⟨k, index, payload, reply, hexec, hcarried⟩
  · rw [show receiver' = s.receiver from he]
    exact hi.receiving.more (List.sublist_append_left _ _)
  · have hreceiving := hi.receiving.exec hi.unreliable (fun _ _ _ h => by cases h) hexec
    change Receiving kr mode receiver'
      (s.arrived ++ if k = kr then [⟨index, payload⟩] else []) (s.exposed ++ []) at hreceiving
    rw [List.append_nil] at hreceiving
    refine hreceiving.more ?_
    split
    · rename_i hk
      rw [hcarried hk]
    · rw [List.append_nil]
      exact List.sublist_append_left _ _

theorem Inv.step (hi : Inv ks kr flowId mode limit s) (h : Step ks kr flowId mode limit s s') :
    Inv ks kr flowId mode limit s' := by
  cases h with
  | sender hadmits hstep hopens => exact hi.sends hadmits hstep hopens
  | host harrivedOn hopen hexec => exact hi.hosts harrivedOn hopen hexec
  | arrive hsent hreg hreceive => exact hi.arrives hsent hreg hreceive

/-! ### What the flow promises -/

/-- Messages that were accepted, in increasing order of their indices, are a part of those that were
accepted. -/
theorem sublist_of_increasing {accepted l : List ExposedMessage} (hn : Numbered accepted)
    (hl : (l.map ExposedMessage.acceptedIndex).Pairwise (· < ·))
    (hmem : ∀ m ∈ l, m ∈ accepted) : l.Sublist accepted := by
  have hanti : Std.Antisymm fun a b : ExposedMessage => a.acceptedIndex < b.acceptedIndex :=
    ⟨fun _ _ h h' => absurd h' h.asymm⟩
  have hirrefl : Std.Irrefl fun a b : ExposedMessage => a.acceptedIndex < b.acceptedIndex :=
    ⟨fun _ => lt_irrefl _⟩
  have haccepted : (accepted.map ExposedMessage.acceptedIndex).Pairwise (· < ·) := by
    rw [hn.indices]
    exact List.pairwise_lt_range
  rw [List.pairwise_map] at hl haccepted
  exact List.sublist_of_subperm_of_pairwise (List.subperm_of_subset hl.nodup hmem) hl haccepted

/-- Whatever the network does, the receiver exposes what arrived, each arrival once and in its
order, and only what the sender accepted; on a sequenced flow it exposes each message once, in the
order of acceptance. No datagram of the flow is refused by the receiver that knows the flow. -/
structure Delivers (ks kr : DeliveryFlowKey) (flowId : FlowId) (mode : DeliveryMode) (limit : Nat)
    (s : DatagramLink) : Prop where
  passed : s.exposed.Sublist s.arrived
  accepted : ∀ m ∈ s.arrived, m ∈ s.sender.accepted.map (arrival mode)
  sequenced : mode = .unreliableSequenced → s.exposed.Sublist s.sender.accepted
  custody : s.sender.accepted = s.sender.left.map Prod.fst ++ s.sender.endpoint.custody ks
  taken : ∀ d ∈ s.sent, ∀ m, carried flowId mode d = [m] → ∀ registry,
    RegistersAt flowId kr mode limit registry → (registry.registeredFlow flowId).isSome = true →
    ∃ answer receiver', receiveDatagram true s.receiver registry d = .ok (answer, receiver') ∧
      ((∃ outcome, answer = .ok (.core kr outcome)) ∨
        ∃ err, answer = .error (.resolved flowId (.core err)))

theorem Inv.delivers (hi : Inv ks kr flowId mode limit s) :
    Delivers ks kr flowId mode limit s := by
  have hpassed : s.exposed.Sublist s.arrived :=
    (List.sublist_append_left _ _).trans hi.receiving.passed
  have haccepted : ∀ m ∈ s.arrived, m ∈ s.sender.accepted.map (arrival mode) := fun m hm => by
    obtain ⟨d, hd, hmd⟩ := hi.arrived m hm
    exact (hi.sent d hd m hmd).1
  refine ⟨hpassed, haccepted, fun hs => ?_, hi.custody.ledger,
    fun d hd m hc registry hreg hsome => ?_⟩
  · subst hs
    rw [map_arrival] at haccepted
    exact sublist_of_increasing hi.custody.numbered (hi.receiving.increasing rfl) fun m hm =>
      haccepted m (hpassed.subset hm)
  · obtain ⟨flow, hflow⟩ := Option.isSome_iff_exists.mp hsome
    obtain ⟨L, hinv⟩ := hi.receiving.inv
    obtain ⟨r, e', hr, -⟩ :=
      DeliveryEndpoint.receiveTransportPayload_spec hinv kr m.acceptedIndex m.payload
    have hle := (hi.sent d hd m (by rw [hc]; exact List.mem_singleton_self m)).2
    obtain ⟨answer, hreceive, hanswer⟩ :=
      receiveDatagram_of_carried hreg hflow hc hi.inbound hi.unreliable hle hr
    exact ⟨answer, e', hreceive, hanswer⟩

/-- In every state of every run of the two ends and the network. -/
theorem unreliable_delivery
    (h : Reachable (Starts kr mode) (Step ks kr flowId mode limit) s) :
    Delivers ks kr flowId mode limit s :=
  (h.invariant (P := Inv ks kr flowId mode limit) (fun _ => Inv.start)
    fun _ _ hi => hi.step).delivers

/-! The second of two datagrams overtakes the first, which is stale when it arrives. -/

theorem sampleFlowId_le : 1 ≤ maxVarint := by decide

def sampleFlowId : FlowId := ⟨1, sampleFlowId_le⟩

def sampleSender : DeliveryFlowKey := ⟨⟨1⟩, .outbound, ⟨9⟩⟩

def sampleReceiver : DeliveryFlowKey := ⟨⟨1⟩, .inbound, ⟨9⟩⟩

def sampleRegistry (key : DeliveryFlowKey) : AcceptedFlowRegistry :=
  ⟨.server, 4, SortedMap.empty.insert 1 ⟨key, .unreliableSequenced, 16, none⟩⟩

/-- A transport that takes one datagram. -/
def sampleTransport (datagram : List UInt8) : DatagramSendTransport where
  maxDatagramSize := some 64
  sendBufferSpace := 64
  reserves := true
  maxDatagramSizeAgain := some 64
  sendBufferSpaceAgain := 64
  trySend d := if d = datagram then .ok () else .error .connectionLost

theorem sampleTransport_takes {datagram : List UInt8} :
    ∀ d, (sampleTransport datagram).trySend d = .ok () → d = datagram := fun d h => by
  by_contra hne
  rw [show (sampleTransport datagram).trySend d = _ from if_neg hne] at h
  cases h

theorem sampleRegistry_registers (key : DeliveryFlowKey) :
    RegistersAt sampleFlowId key .unreliableSequenced 16 (sampleRegistry key) where
  flow := fun flow h => by
    cases (h : some (⟨key, .unreliableSequenced, 16, none⟩ : RegisteredFlow) = _)
    exact ⟨rfl, rfl, rfl⟩
  alone := fun id flow h _ => by
    have h : (SortedMap.empty.insert 1
        (⟨key, .unreliableSequenced, 16, none⟩ : RegisteredFlow)).get? id.value = some flow := h
    rw [SortedMap.get?_insert] at h
    split at h
    · rename_i hv
      cases id
      cases hv
      rfl
    · cases h

theorem next_sender (h : Reachable (Starts kr mode) (Step ks kr flowId mode limit) s)
    (action : DatagramAction ks) (datagram : List UInt8) {reply : DatagramReply}
    {sender' : DatagramRun} (hadmits : Admits flowId mode limit datagram action)
    (hstep : s.sender.step action = .ok (reply, sender'))
    (hopens : DatagramRun.Opens ks s.sender.endpoint sender'.endpoint →
      ∀ d ∈ s.sent ++ handed action reply datagram, carried flowId mode d = []) :
    Reachable (Starts kr mode) (Step ks kr flowId mode limit) { s with
      sender := sender'
      sent := s.sent ++ handed action reply datagram } :=
  h.next (.sender hadmits hstep hopens)

theorem next_host (h : Reachable (Starts kr mode) (Step ks kr flowId mode limit) s)
    (op : DeliveryOp) {reply : DeliveryReply} {receiver' : DeliveryEndpoint}
    (harrived : arrivedOn kr op = [])
    (hopen : ∀ mode' policy limits, op = .establishFlow kr mode' policy limits → mode' = mode)
    (hexec : s.receiver.exec op = .ok (reply, receiver')) :
    Reachable (Starts kr mode) (Step ks kr flowId mode limit) { s with
      receiver := receiver'
      arrived := continued (opensOn kr op reply) s.arrived []
      exposed := continued (opensOn kr op reply) s.exposed (exposedOn kr op reply) } :=
  h.next (.host harrived hopen hexec)

theorem next_arrive (h : Reachable (Starts kr mode) (Step ks kr flowId mode limit) s)
    (datagram : List UInt8) {registry : AcceptedFlowRegistry}
    {answer : Except DatagramReceiveFailure DatagramReceiveOutcome} {receiver' : DeliveryEndpoint}
    (hsent : datagram ∈ s.sent) (hreg : RegistersAt flowId kr mode limit registry)
    (hreceive : receiveDatagram true s.receiver registry datagram = .ok (answer, receiver')) :
    Reachable (Starts kr mode) (Step ks kr flowId mode limit) { s with
      receiver := receiver'
      arrived := s.arrived ++ carried flowId mode datagram } :=
  h.next (.arrive hsent hreg hreceive)

theorem sample_overtakes : ∃ s : DatagramLink,
    Reachable (Starts sampleReceiver .unreliableSequenced)
      (Step sampleSender sampleReceiver sampleFlowId .unreliableSequenced 16) s ∧
    s.sender.accepted = [⟨0, [5]⟩, ⟨1, [6]⟩] ∧ s.arrived = [⟨1, [6]⟩, ⟨0, [5]⟩] ∧
    s.exposed = [⟨1, [6]⟩] := by
  have h0 : Reachable (Starts sampleReceiver .unreliableSequenced)
      (Step sampleSender sampleReceiver sampleFlowId .unreliableSequenced 16)
      ⟨.start ReliableRun.sampleLimits, [], .new ReliableRun.sampleLimits, [], []⟩ :=
    .start ⟨⟨_, rfl⟩, ⟨_, rfl⟩, ⟨rfl, rfl, rfl⟩, DeliveryMode.noConfusion, rfl⟩
  have h1 := next_sender h0 (.core (.establishFlow sampleSender .unreliableSequenced
    SequencedRun.samplePolicy ReliableRun.sampleLimits) rfl) [] trivial rfl
    fun _ d hd => by cases hd
  have h2 := next_sender h1 (.submit (sampleRegistry sampleSender) sampleFlowId (some 64) [5]) []
    trivial rfl fun ho => absurd ho (by decide)
  have h3 := next_sender h2 (.submit (sampleRegistry sampleSender) sampleFlowId (some 64) [6]) []
    trivial rfl fun ho => absurd ho (by decide)
  have h4 := next_sender h3 (.drive (sampleRegistry sampleSender) sampleFlowId
    (sampleTransport [1, 0, 5])) [1, 0, 5]
    ⟨sampleRegistry_registers sampleSender, sampleTransport_takes⟩ rfl
    fun ho => absurd ho (by decide)
  have h5 := next_sender h4 (.drive (sampleRegistry sampleSender) sampleFlowId
    (sampleTransport [1, 1, 6])) [1, 1, 6]
    ⟨sampleRegistry_registers sampleSender, sampleTransport_takes⟩ rfl
    fun ho => absurd ho (by decide)
  have h6 := next_host h5 (.establishFlow sampleReceiver .unreliableSequenced
    SequencedRun.samplePolicy ReliableRun.sampleLimits) rfl (fun _ _ _ h => by cases h; rfl) rfl
  have h7 := next_arrive h6 [1, 1, 6] (by decide) (sampleRegistry_registers sampleReceiver) rfl
  have h8 := next_host h7 (.pollExposure sampleReceiver) rfl (fun _ _ _ h => by cases h) rfl
  have h9 := next_arrive h8 [1, 0, 5] (by decide) (sampleRegistry_registers sampleReceiver) rfl
  exact ⟨_, h9, rfl, rfl, rfl⟩

theorem unreliable_delivery_sample : ∃ s : DatagramLink, s.exposed = [⟨1, [6]⟩] ∧
    Delivers sampleSender sampleReceiver sampleFlowId .unreliableSequenced 16 s := by
  obtain ⟨s, h, -, -, hexposed⟩ := sample_overtakes
  exact ⟨s, hexposed, unreliable_delivery h⟩

end DatagramLink

end RunenNet
