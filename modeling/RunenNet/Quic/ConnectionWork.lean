import RunenNet.Core.Delivery.Work
import RunenNet.Quic.FlowControlEffects
import RunenNet.Quic.ReliableIo

/-!
# What the parts of a connection do to each other

A connection works on its flow control, its reliable streams and the endpoint it shares. `Work` is
one elementary change of the three; whatever a layer of the connection does is a sequence of them.
A `FlowId` that once stood for an outbound flow never stands for another, so that a binding whose
flow is registered has the key of that flow (`Sound`).
-/

namespace RunenNet

open Foundation

/-! ### Identifiers that are spent -/

/-- The cursor is past the identifier. -/
def FlowIdCursor.Passed (c : FlowIdCursor) (flowId : FlowId) : Prop :=
  ∀ n, c.nextSequence = some n → flowId.sequence < n

theorem FlowIdCursor.Passed.advance {c : FlowIdCursor} {flowId next : FlowId}
    (h : c.Passed flowId) (hexp : c.Expects next) : (c.advance next.sequence).Passed flowId := by
  intro n hn
  have hlt := h _ hexp.2
  simp only [FlowIdCursor.advance] at hn
  split at hn
  · cases hn
  · cases hn
    exact Nat.lt_succ_of_lt hlt

theorem FlowIdCursor.passed_advance (c : FlowIdCursor) (flowId : FlowId) :
    (c.advance flowId.sequence).Passed flowId := by
  intro n hn
  simp only [FlowIdCursor.advance] at hn
  split at hn
  · cases hn
  · cases hn
    exact Nat.lt_succ_self _

namespace FlowControl

variable {fc fc' : FlowControl} {message sent : Option FlowMessage}

/-- The identifier was allocated here, and no open waits for its answer under it. -/
structure Spent (fc : FlowControl) (flowId : FlowId) : Prop where
  side : flowId.side = fc.localSide
  passed : fc.localFlowIds.Passed flowId
  answered : fc.pendingOutbound.get? flowId.value = none

/-- The identifiers in use here were allocated by the cursor. -/
structure Numbered (fc : FlowControl) : Prop where
  cursor : fc.localFlowIds.side = fc.localSide
  registry : fc.registry.localSide = fc.localSide
  keys : PendingOutbound fc
  pending : ∀ flowId pending, fc.pendingOutbound.get? flowId.value = some pending →
    flowId.side = fc.localSide ∧ fc.localFlowIds.Passed flowId
  spent : ∀ flowId flow, fc.registry.registeredFlow flowId = some flow →
    flow.key.direction = .outbound → fc.Spent flowId

/-- A move passes at most the next identifier. -/
theorem Move.passed (h : Move fc message fc' sent) {flowId : FlowId}
    (hp : fc.localFlowIds.Passed flowId) : fc'.localFlowIds.Passed flowId := by
  cases h with
  | opens hexp => exact hp.advance hexp
  | _ => exact hp

/-- An open that is pending after a move was so before, or was just allocated. -/
theorem Move.pending_cases (h : Move fc message fc' sent) {flowId : FlowId}
    {pending : PendingOutboundFlow} (hp : fc'.pendingOutbound.get? flowId.value = some pending) :
    fc.pendingOutbound.get? flowId.value = some pending ∨
      (fc.localFlowIds.Expects flowId ∧
        fc'.localFlowIds = fc.localFlowIds.advance flowId.sequence) := by
  rcases h.pendingOutbound hp with hold | ⟨g, hg, -, hsent⟩
  · exact .inl hold
  · rcases h.opening_cases with ⟨-, hnone⟩ | ⟨o, ho, hexp, -, hcursor, -⟩
    · rw [hsent] at hnone
      cases hnone
    · rw [hsent] at ho
      cases ho
      cases FlowId.ext_value hg
      exact .inr ⟨hexp, hcursor⟩

theorem Spent.move (hs : fc.Spent flowId) (h : Move fc message fc' sent) : fc'.Spent flowId where
  side := by rw [h.sides.1, hs.side]
  passed := h.passed hs.passed
  answered := by
    cases hp : fc'.pendingOutbound.get? flowId.value with
    | none => rfl
    | some pending =>
      rcases h.pending_cases hp with hold | ⟨hexp, -⟩
      · rw [hs.answered] at hold
        cases hold
      · exact absurd (hs.passed _ hexp.2) (lt_irrefl _)

/-- A spent identifier never begins to stand for a flow. -/
theorem Spent.registered (hs : fc.Spent flowId) (hn : fc.Numbered) (h : Move fc message fc' sent)
    {flow : RegisteredFlow} (hf : fc'.registry.registeredFlow flowId = some flow) :
    ∃ flow₀, fc.registry.registeredFlow flowId = some flow₀ ∧ flow.key = flow₀.key := by
  rcases h.registered hf with ⟨flow₀, hold, hkey, -⟩ | ⟨_, -, -, -, hside, -⟩ | ⟨pending, hp, -⟩
  · exact ⟨flow₀, hold, hkey⟩
  · rw [hn.registry, hs.side] at hside
    exact absurd hside (by cases fc.localSide <;> decide)
  · rw [hs.answered] at hp
    cases hp

theorem Numbered.move (hn : fc.Numbered) (h : Move fc message fc' sent) : fc'.Numbered where
  cursor := by rw [h.sides.2.1, h.sides.1, hn.cursor]
  registry := by rw [h.sides.2.2.2, h.sides.1, hn.registry]
  keys := fun v pending hp => by
    rcases h.pendingOutbound hp with hold | ⟨-, -, hdirection, -⟩
    · exact hn.keys v pending hold
    · exact hdirection
  pending := fun flowId pending hp => by
    rw [h.sides.1]
    rcases h.pending_cases hp with hold | ⟨hexp, hcursor⟩
    · obtain ⟨hside, hpassed⟩ := hn.pending flowId pending hold
      exact ⟨hside, h.passed hpassed⟩
    · rw [hcursor, ← hn.cursor]
      exact ⟨hexp.1, FlowIdCursor.passed_advance _ _⟩
  spent := fun flowId flow hf hdirection => by
    have hkept : fc'.registry = fc.registry → fc'.Spent flowId := fun hr =>
      (hn.spent flowId flow (hr ▸ hf) hdirection).move h
    rcases h.registered hf with ⟨flow₀, hold, hkey, -⟩ | ⟨_, -, -, -, -, hin, -⟩ | ⟨pending, hp, hm, -⟩
    · exact (hn.spent flowId flow₀ hold (by rw [← hkey, hdirection])).move h
    · rw [hdirection] at hin
      cases hin
    · obtain ⟨hside, hpassed⟩ := hn.pending flowId pending hp
      cases h with
      | establishes =>
        cases hm
        exact ⟨hside, hpassed, SortedMap.get?_erase_self _ _⟩
      | idle => exact hkept rfl
      | drops => exact hkept rfl
      | _ => cases hm

theorem Numbered.start {connection : ConnectionHandle} {localSide : WireSide}
    {localSettings peerSettings : Settings}
    (h : FlowControl.new connection localSide localSettings peerSettings = .ok fc) :
    fc.Numbered := by
  unfold FlowControl.new at h
  split at h
  · cases h
  · split at h
    · cases h
      exact {
        cursor := rfl
        registry := rfl
        keys := fun _ _ hp => by cases hp
        pending := fun _ _ hp => by cases hp
        spent := fun _ _ hf => by cases hf }
    · cases h

end FlowControl

/-! ### Elementary changes -/

namespace ReliableConnectionIo

/-- Nothing is scheduled or bound that was not before. -/
structure Keeps (io io' : ReliableConnectionIo) : Prop where
  pending : ∀ flowId ∈ io'.pendingOutbound, flowId ∈ io.pendingOutbound
  active : ∀ a' ∈ io'.activeOutbound, ∃ a ∈ io.activeOutbound,
    a'.flowId = a.flowId ∧ a'.binding.key = a.binding.key

end ReliableConnectionIo

structure ConnectionParts where
  control : FlowControl
  reliable : ReliableConnectionIo
  endpoint : DeliveryEndpoint

namespace ConnectionParts

open DeliveryEndpoint (Quiet)
open FlowControl (Move)

variable {fc fc' : FlowControl} {io io' : ReliableConnectionIo} {e e' : DeliveryEndpoint}

inductive Work : ConnectionParts → ConnectionParts → Prop where
  | endpoint {fc : FlowControl} {io : ReliableConnectionIo} {e e' : DeliveryEndpoint} :
      Quiet e e' → Work ⟨fc, io, e⟩ ⟨fc, io, e'⟩
  | control {fc fc' : FlowControl} {io : ReliableConnectionIo} {e : DeliveryEndpoint}
      {message sent : Option FlowMessage} : Move fc message fc' sent →
      Work ⟨fc, io, e⟩ ⟨fc', io, e⟩
  | keeps {fc : FlowControl} {io io' : ReliableConnectionIo} {e : DeliveryEndpoint} :
      io.Keeps io' → Work ⟨fc, io, e⟩ ⟨fc, io', e⟩
  | schedules {fc : FlowControl} {io : ReliableConnectionIo} {e : DeliveryEndpoint}
      {flowId : FlowId} {flow : RegisteredFlow} :
      fc.registry.registeredFlow flowId = some flow → flow.key.direction = .outbound →
      Work ⟨fc, io, e⟩
        ⟨fc, { io with pendingOutbound := io.pendingOutbound ++ [flowId] }, e⟩
  | acquires {fc : FlowControl} {io : ReliableConnectionIo} {e : DeliveryEndpoint}
      {flowId : FlowId} {flow : RegisteredFlow} {binding : OutboundReliable} :
      flowId ∈ io.pendingOutbound → fc.registry.registeredFlow flowId = some flow →
      binding.key = flow.key →
      Work ⟨fc, io, e⟩
        ⟨fc, { io with activeOutbound := io.activeOutbound ++ [⟨flowId, binding⟩] }, e⟩

/-- What is done in any number of elementary changes. -/
def Works : ConnectionParts → ConnectionParts → Prop := Relation.ReflTransGen Work

namespace Works

variable {p q r : ConnectionParts}

theorem refl : Works p p := Relation.ReflTransGen.refl

theorem trans (h : Works p q) (h' : Works q r) : Works p r := Relation.ReflTransGen.trans h h'

theorem endpoint (h : Quiet e e') : Works ⟨fc, io, e⟩ ⟨fc, io, e'⟩ :=
  .single (.endpoint h)

theorem control {message sent : Option FlowMessage} (h : Move fc message fc' sent) :
    Works ⟨fc, io, e⟩ ⟨fc', io, e⟩ := .single (.control h)

theorem keeps (h : io.Keeps io') : Works ⟨fc, io, e⟩ ⟨fc, io', e⟩ :=
  .single (.keeps h)

/-- Flow control moves as it works on the endpoint. -/
theorem both (hq : Quiet e e') (hm : ∃ message sent, Move fc message fc' sent) :
    Works ⟨fc, io, e⟩ ⟨fc', io, e'⟩ := by
  obtain ⟨message, sent, hm⟩ := hm
  exact (endpoint hq).trans (control hm)

end Works

/-! ### What work preserves -/

/-- The identifiers are in order, and a binding has the key of its registered flow. -/
structure Sound (L : DeliveryScopeLimits) (p : ConnectionParts) : Prop where
  endpoint : p.endpoint.Inv L
  numbered : p.control.Numbered
  spent : ∀ flowId ∈ p.reliable.flowIds, p.control.Spent flowId
  keys : ∀ a ∈ p.reliable.activeOutbound, ∀ flow,
    p.control.registry.registeredFlow a.flowId = some flow → flow.key = a.binding.key

variable {L : DeliveryScopeLimits} {p q : ConnectionParts}

theorem mem_flowIds {flowId : FlowId} : flowId ∈ io.flowIds ↔
    flowId ∈ io.pendingOutbound ∨ ∃ a ∈ io.activeOutbound, a.flowId = flowId := by
  simp [ReliableConnectionIo.flowIds]

theorem Sound.work (hs : p.Sound L) (h : Work p q) : q.Sound L := by
  cases h with
  | endpoint hq => exact ⟨hq.inv hs.endpoint, hs.numbered, hs.spent, hs.keys⟩
  | control hm =>
    refine ⟨hs.endpoint, hs.numbered.move hm, fun id hid => (hs.spent id hid).move hm,
      fun a ha flow hf => ?_⟩
    have hspent := hs.spent a.flowId (mem_flowIds.mpr (.inr ⟨a, ha, rfl⟩))
    obtain ⟨flow₀, hold, hkey⟩ := hspent.registered hs.numbered hm hf
    rw [hkey]
    exact hs.keys a ha flow₀ hold
  | keeps hk =>
    refine ⟨hs.endpoint, hs.numbered, fun id hid => ?_, fun a' ha' flow hf => ?_⟩
    · rcases mem_flowIds.mp hid with hpending | ⟨a', ha', rfl⟩
      · exact hs.spent id (mem_flowIds.mpr (.inl (hk.pending id hpending)))
      · obtain ⟨a, ha, hflowId, -⟩ := hk.active a' ha'
        rw [hflowId]
        exact hs.spent a.flowId (mem_flowIds.mpr (.inr ⟨a, ha, rfl⟩))
    · obtain ⟨a, ha, hflowId, hkey⟩ := hk.active a' ha'
      rw [hkey]
      exact hs.keys a ha flow (hflowId ▸ hf)
  | schedules hf hdirection =>
    refine ⟨hs.endpoint, hs.numbered, fun id hid => ?_, hs.keys⟩
    rcases mem_flowIds.mp hid with hpending | hactive
    · rcases List.mem_append.mp hpending with hold | hnew
      · exact hs.spent id (mem_flowIds.mpr (.inl hold))
      · cases List.mem_singleton.mp hnew
        exact hs.numbered.spent _ _ hf hdirection
    · exact hs.spent id (mem_flowIds.mpr (.inr hactive))
  | acquires hpending hf hkey =>
    refine ⟨hs.endpoint, hs.numbered, fun id hid => ?_, fun a ha flow hflow => ?_⟩
    · rcases mem_flowIds.mp hid with hold | ⟨a, ha, rfl⟩
      · exact hs.spent id (mem_flowIds.mpr (.inl hold))
      · rcases List.mem_append.mp ha with hold | hnew
        · exact hs.spent a.flowId (mem_flowIds.mpr (.inr ⟨a, hold, rfl⟩))
        · cases List.mem_singleton.mp hnew
          exact hs.spent _ (mem_flowIds.mpr (.inl hpending))
    · rcases List.mem_append.mp ha with hold | hnew
      · exact hs.keys a hold flow hflow
      · cases List.mem_singleton.mp hnew
        rw [hf] at hflow
        cases hflow
        exact hkey.symm

theorem Sound.works (hs : p.Sound L) (h : Works p q) : q.Sound L := by
  induction h with
  | refl => exact hs
  | tail _ hwork ih => exact ih.work hwork

/-- Work leaves an empty queue empty. -/
theorem Works.drained {key : DeliveryFlowKey} (h : Works p q) (hs : p.Sound L)
    (hdirection : key.direction = .outbound) (hd : p.endpoint.Drained key) :
    q.endpoint.Drained key := by
  induction h with
  | refl => exact hd
  | tail hprev hwork ih =>
    have hsound := hs.works hprev
    cases hwork with
    | endpoint hq => exact hq.drained hsound.endpoint hdirection ih
    | _ => exact ih

end ConnectionParts

end RunenNet
