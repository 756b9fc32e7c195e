import RunenNet.Quic.FlowRun

/-!
# Agreement on established flows

What holds between the side that opens flows and the side that decides them, in every
interleaving. The identifiers on their way (answers sent back, the open to be decided, opens
sent) are in the order the opener allocated them; they are distinct and pending at the opener, and
the opens are the next ones the other side's cursor expects.
-/

namespace RunenNet

open Foundation

namespace FlowSide

/-- Opens on the way. -/
def opens (a : FlowSide) : List OpenFlow := a.inFlight.filterMap FlowMessage.openOf

/-- The flows whose opens are answered on the way. -/
def answers (b : FlowSide) : List FlowId := b.inFlight.filterMap FlowMessage.answerOf

/-- The flow to be decided. -/
def waiting (b : FlowSide) : List FlowId :=
  (b.control.pendingInbound.map InboundOpenRequest.flowId).toList

/-- The flows `a` opened and has no answer for, the oldest first. -/
def outstanding (a b : FlowSide) : List FlowId :=
  b.answers ++ (b.waiting ++ a.opens.map OpenFlow.flowId)

/-- Whatever either side holds about a flow of `a` is in an open of `a`. -/
structure Known (s : WireSide) (a b : FlowSide) : Prop where
  pendingOutbound : ∀ f pending, a.control.pendingOutbound.get? (FlowId.value f) = some pending →
    ⟨f, pending.mode, pending.stableMaxMessageBytes.get⟩ ∈ a.opened
  opens : ∀ o ∈ a.opens, o ∈ a.opened
  pendingInbound : ∀ request, b.control.pendingInbound = some request →
    ⟨request.flowId, request.mode, request.maxMessageBytes⟩ ∈ a.opened
  outbound : ∀ f flow, a.control.registry.registeredFlow f = some flow → f.side = s →
    flow.key.direction = .outbound ∧ ⟨f, flow.mode, flow.maxMessageBytes⟩ ∈ a.opened
  inbound : ∀ f flow, b.control.registry.registeredFlow f = some flow → f.side = s →
    flow.key.direction = .inbound ∧ ⟨f, flow.mode, flow.maxMessageBytes⟩ ∈ a.opened

/-- The opens of `a` against the cursor of `b`, and its outstanding flows. -/
structure Handshake (s : WireSide) (a b : FlowSide) : Prop where
  allocated : (FlowIdCursor.new s).Runs (a.opened.map OpenFlow.flowId) a.control.localFlowIds
  opens : b.control.peerFlowIds.Runs (a.opens.map OpenFlow.flowId) a.control.localFlowIds
  distinct : (outstanding a b).Nodup
  pending : ∀ f ∈ outstanding a b,
    f.side = s ∧ (a.control.pendingOutbound.get? f.value).isSome

/-- `a` is side `s` and opens the flows of side `s`, `b` decides them. -/
structure Direction (s : WireSide) (a b : FlowSide) : Prop where
  side : a.control.localSide = s
  cursor : a.control.localFlowIds.side = s
  registry : a.control.registry.localSide = s
  peerRegistry : b.control.registry.localSide = s.opposite
  outbound : a.control.PendingOutbound
  formed : a.Formed
  known : Known s a b
  handshake : Handshake s a b
  accepted : ∀ f, .accept f ∈ b.inFlight → f.value ∈ b.registered
  established : ∀ f flow, a.control.registry.registeredFlow f = some flow →
    flow.key.direction = .outbound → f.value ∈ b.registered

variable {s : WireSide} {a a' b b' : FlowSide} {message sent : Option FlowMessage}

theorem filterMap_taken {α : Type} (g : FlowMessage → Option α) (m : Option FlowMessage)
    (l : List FlowMessage) :
    (m.toList ++ l).filterMap g = (m.bind g).toList ++ l.filterMap g := by
  cases m with
  | none => rfl
  | some m => cases hg : g m <;> simp [hg]

theorem filterMap_put {α : Type} (g : FlowMessage → Option α) (m : Option FlowMessage)
    (l : List FlowMessage) :
    (l ++ m.toList).filterMap g = l.filterMap g ++ (m.bind g).toList := by
  rw [List.filterMap_append]
  congr 1
  simpa using filterMap_taken g m []

namespace Moves

theorem opens_put (h : Moves a b a' b' message sent) :
    a'.opens = a.opens ++ (sent.bind FlowMessage.openOf).toList := by
  rw [opens, h.put, filterMap_put]
  rfl

theorem answers_put (h : Moves b a b' a' message sent) :
    b'.answers = b.answers ++ (sent.bind FlowMessage.answerOf).toList := by
  rw [answers, h.put, filterMap_put]
  rfl

theorem opens_taken (h : Moves b a b' a' message sent) :
    a.opens = (message.bind FlowMessage.openOf).toList ++ a'.opens := by
  rw [opens, h.taken, filterMap_taken]
  rfl

theorem answers_taken (h : Moves a b a' b' message sent) :
    b.answers = (message.bind FlowMessage.answerOf).toList ++ b'.answers := by
  rw [answers, h.taken, filterMap_taken]
  rfl

theorem mem_taken (h : Moves a b a' b' message sent) {m : FlowMessage} (hm : m ∈ b'.inFlight) :
    m ∈ b.inFlight := by
  rw [h.taken]
  exact List.mem_append_right _ hm

theorem head_mem {m : FlowMessage} (h : Moves a b a' b' (some m) sent) : m ∈ b.inFlight := by
  rw [h.taken]
  exact List.mem_cons_self

end Moves

/-! ### What the flows are -/

/-- The opener acts. -/
theorem Known.opener (hk : Known s a b) (h : Moves a b a' b' message sent)
    (hside : a.control.registry.localSide = s) : Known s a' b' where
  pendingOutbound := fun f pending hf => by
    rw [h.opened]
    rcases h.move.pendingOutbound hf with hold | ⟨g, hg, -, rfl⟩
    · exact List.mem_append_left _ (hk.pendingOutbound f pending hold)
    · cases FlowId.ext_value hg
      exact List.mem_append_right _ List.mem_cons_self
  opens := fun o ho => by
    rw [h.opens_put, List.mem_append] at ho
    rw [h.opened]
    exact List.mem_append.mpr (ho.imp_left (hk.opens o))
  pendingInbound := fun request hr => by
    rw [h.peer.1] at hr
    rw [h.opened]
    exact List.mem_append_left _ (hk.pendingInbound request hr)
  outbound := fun f flow hf hs => by
    rw [h.opened]
    rcases h.move.registered hf with ⟨flow₀, hold, hkey, hmode, hmax⟩ |
      ⟨request, -, -, -, hopens, -⟩ | ⟨pending, hp, -, -, hdirection, hmode, hmax⟩
    · obtain ⟨hdirection, hmem⟩ := hk.outbound f flow₀ hold hs
      rw [hkey, hmode, hmax]
      exact ⟨hdirection, List.mem_append_left _ hmem⟩
    · rw [hside, hs] at hopens
      cases s <;> cases hopens
    · rw [hmode, hmax]
      exact ⟨hdirection, List.mem_append_left _ (hk.pendingOutbound f pending hp)⟩
  inbound := fun f flow hf hs => by
    rw [h.peer.1] at hf
    obtain ⟨hdirection, hmem⟩ := hk.inbound f flow hf hs
    rw [h.opened]
    exact ⟨hdirection, List.mem_append_left _ hmem⟩

/-- The other side acts. -/
theorem Known.acceptor (hk : Known s a b) (h : Moves b a b' a' message sent)
    (hside : b.control.registry.localSide = s.opposite) : Known s a' b' where
  pendingOutbound := fun f pending hf => by
    rw [h.peer.1] at hf
    rw [h.peer.2.1]
    exact hk.pendingOutbound f pending hf
  opens := fun o ho => by
    rw [h.peer.2.1]
    refine hk.opens o ?_
    rw [h.opens_taken]
    exact List.mem_append_right _ ho
  pendingInbound := fun request hr => by
    rw [h.peer.2.1]
    rcases h.move.pendingInbound hr with hold | ⟨o, rfl, rfl⟩
    · exact hk.pendingInbound request hold
    · refine hk.opens o ?_
      rw [h.opens_taken]
      exact List.mem_append_left _ List.mem_cons_self
  outbound := fun f flow hf hs => by
    rw [h.peer.1] at hf
    rw [h.peer.2.1]
    exact hk.outbound f flow hf hs
  inbound := fun f flow hf hs => by
    rw [h.peer.2.1]
    rcases h.move.registered hf with ⟨flow₀, hold, hkey, hmode, hmax⟩ |
      ⟨request, hp, hf, -, -, hdirection, hmode, hmax⟩ | ⟨pending, -, -, hopens, -⟩
    · rw [hkey, hmode, hmax]
      exact hk.inbound f flow₀ hold hs
    · subst hf
      rw [hmode, hmax]
      exact ⟨hdirection, hk.pendingInbound request hp⟩
    · rw [hside, hs] at hopens
      cases s <;> cases hopens

/-! ### What is outstanding -/

theorem Handshake.opener (hh : Handshake s a b) (h : Moves a b a' b' message sent)
    (hside : a.control.localFlowIds.side = s) : Handshake s a' b' := by
  have hwaiting : b'.waiting = b.waiting := by rw [waiting, h.peer.1, waiting]
  have hout : outstanding a b = (message.bind FlowMessage.answerOf).toList ++
      (b'.answers ++ (b'.waiting ++ a.opens.map OpenFlow.flowId)) := by
    rw [outstanding, h.answers_taken, hwaiting, List.append_assoc]
  have hdistinct := hh.distinct
  rw [hout, List.nodup_append] at hdistinct
  obtain ⟨-, hrest, hne⟩ := hdistinct
  -- the flows that stay outstanding stay pending: the one answered is not among them
  have hstay : ∀ f ∈ b'.answers ++ (b'.waiting ++ a.opens.map OpenFlow.flowId),
      f.side = s ∧ (a.control.pendingOutbound.get? f.value).isSome ∧
        (a'.control.pendingOutbound.get? f.value).isSome := by
    intro f hf
    obtain ⟨hs, hsome⟩ := hh.pending f (hout ▸ List.mem_append_right _ hf)
    refine ⟨hs, hsome, (h.move.pendingOutbound_kept hsome).resolve_right fun hanswer => ?_⟩
    exact hne f (by rw [hanswer]; exact List.mem_cons_self) f hf rfl
  rcases h.move.opening_cases with ⟨hcursor, hnone⟩ | ⟨o, rfl, hexp, hfresh, hcursor, hsome⟩
  · have hopens : a'.opens = a.opens := by
      rw [h.opens_put, hnone, Option.toList_none, List.append_nil]
    have hopened : a'.opened = a.opened := by
      rw [h.opened, hnone, Option.toList_none, List.append_nil]
    refine ⟨?_, ?_, ?_, ?_⟩
    · rw [hopened, hcursor]
      exact hh.allocated
    · rw [h.peer.1, hopens, hcursor]
      exact hh.opens
    · rw [outstanding, hopens]
      exact hrest
    · intro f hf
      rw [outstanding, hopens] at hf
      obtain ⟨hs, -, hkept⟩ := hstay f hf
      exact ⟨hs, hkept⟩
  · have hopens : a'.opens.map OpenFlow.flowId = a.opens.map OpenFlow.flowId ++ [o.flowId] := by
      rw [h.opens_put, List.map_append]
      rfl
    have hopened : a'.opened.map OpenFlow.flowId = a.opened.map OpenFlow.flowId ++ [o.flowId] := by
      rw [h.opened, List.map_append]
      rfl
    have hout' : outstanding a' b' =
        b'.answers ++ (b'.waiting ++ a.opens.map OpenFlow.flowId) ++ [o.flowId] := by
      rw [outstanding, hopens, List.append_assoc, List.append_assoc]
    have hnew : o.flowId ∉ b'.answers ++ (b'.waiting ++ a.opens.map OpenFlow.flowId) := by
      intro hmem
      have hpending := (hstay _ hmem).2.1
      rw [hfresh] at hpending
      cases hpending
    refine ⟨?_, ?_, ?_, ?_⟩
    · rw [hopened, hcursor]
      exact hh.allocated.snoc hexp
    · rw [h.peer.1, hopens, hcursor]
      exact hh.opens.snoc hexp
    · rw [hout']
      exact List.nodup_append.mpr ⟨hrest, List.nodup_singleton _, fun f hf g hg => by
        rw [List.mem_singleton] at hg
        subst hg
        rintro rfl
        exact hnew hf⟩
    · intro f hf
      rw [hout', List.mem_append, List.mem_singleton] at hf
      rcases hf with hf | rfl
      · obtain ⟨hs, -, hkept⟩ := hstay f hf
        exact ⟨hs, hkept⟩
      · exact ⟨hexp.1.trans hside, hsome⟩

theorem Handshake.acceptor (hh : Handshake s a b) (h : Moves b a b' a' message sent) :
    Handshake s a' b' := by
  have hsub : (outstanding a' b').Sublist (outstanding a b) := by
    rw [outstanding, outstanding, h.answers_put, h.opens_taken, List.map_append,
      List.append_assoc]
    refine (List.Sublist.refl _).append ?_
    have hmove := h.move.deciding.append (List.Sublist.refl (a'.opens.map OpenFlow.flowId))
    rw [List.append_assoc, List.append_assoc] at hmove
    cases hm : message.bind FlowMessage.openOf with
    | none =>
      rw [hm] at hmove
      exact hmove
    | some o =>
      rw [hm] at hmove
      exact hmove
  refine ⟨?_, ?_, hh.distinct.sublist hsub, fun f hf => ?_⟩
  · rw [h.peer.1, h.peer.2.1]
    exact hh.allocated
  · have hopens := hh.opens
    rw [h.opens_taken] at hopens
    rw [h.peer.1]
    rcases h.move.taking_cases with ⟨hcursor, hnot⟩ | ⟨o, rfl, hcursor⟩
    · rw [hcursor]
      match message, hnot, hopens with
      | none, _, hopens => exact hopens
      | some (.openFlow o), hnot, hopens => exact absurd hopens.1 (hnot o rfl)
      | some (.accept _), _, hopens => exact hopens
      | some (.reject _ _), _, hopens => exact hopens
      | some (.terminate _ _), _, hopens => exact hopens
    · rw [hcursor]
      exact hopens.2
  · rw [h.peer.1]
    exact hh.pending f (hsub.subset hf)

/-! ### A step of either side -/

theorem Direction.opener (hd : Direction s a b) (h : Moves a b a' b' message sent) :
    Direction s a' b' := by
  obtain ⟨hlocal, hcursor, -, hregistry⟩ := h.move.sides
  refine ⟨hlocal.trans hd.side, hcursor.trans hd.cursor, hregistry.trans hd.registry, ?_, ?_,
    h.formed.1, hd.known.opener h hd.registry, hd.handshake.opener h hd.cursor, ?_, ?_⟩
  · rw [h.peer.1]
    exact hd.peerRegistry
  · intro v pending hv
    rcases h.move.pendingOutbound hv with hold | ⟨_, -, hdirection, -⟩
    · exact hd.outbound v pending hold
    · exact hdirection
  · intro f hf
    rw [h.peer.2.2]
    exact hd.accepted f (h.mem_taken hf)
  · intro f flow hf hdirection
    rw [h.peer.2.2]
    rcases h.move.registered hf with ⟨flow₀, hold, hkey, -, -⟩ |
      ⟨_, -, -, -, -, hinbound, -⟩ | ⟨_, -, rfl, -⟩
    · rw [hkey] at hdirection
      exact hd.established f flow₀ hold hdirection
    · rw [hinbound] at hdirection
      cases hdirection
    · exact hd.accepted f h.head_mem

theorem Direction.acceptor (hd : Direction s a b) (h : Moves b a b' a' message sent) :
    Direction s a' b' := by
  have hregistered : ∀ v ∈ b.registered, v ∈ b'.registered := fun v hv => by
    rw [h.registered]
    exact List.mem_append_left _ hv
  obtain ⟨-, -, -, hregistry⟩ := h.move.sides
  refine ⟨?_, ?_, ?_, hregistry.trans hd.peerRegistry, ?_, h.formed.2,
    hd.known.acceptor h hd.peerRegistry, hd.handshake.acceptor h, ?_, ?_⟩
  · rw [h.peer.1]
    exact hd.side
  · rw [h.peer.1]
    exact hd.cursor
  · rw [h.peer.1]
    exact hd.registry
  · rw [h.peer.1]
    exact hd.outbound
  · intro f hf
    rw [h.put, List.mem_append, Option.mem_toList] at hf
    rcases hf with hf | rfl
    · exact hregistered _ (hd.accepted f hf)
    · obtain ⟨flow, hflow⟩ := h.move.registered_of_accept
      rw [h.registered]
      exact List.mem_append_right _ (SortedMap.mem_keys.mpr ⟨flow, hflow⟩)
  · intro f flow hf hdirection
    rw [h.peer.1] at hf
    exact hregistered _ (hd.established f flow hf hdirection)

/-- What the peer sent is what this side may receive now. -/
theorem not_unexpected {m : FlowMessage} {rest : List FlowMessage} (hab : Direction s a b)
    (hba : Direction s.opposite b a) (hm : b.inFlight = m :: rest) : ¬ a.control.Unexpected m := by
  have answered : ∀ f, m.answerOf = some f →
      ¬ (f.side ≠ a.control.localSide ∨ a.control.pendingOutbound.get? f.value = none) := by
    intro f hf
    have hmem : f ∈ outstanding a b := by
      refine List.mem_append_left _ (List.mem_filterMap.mpr ⟨m, ?_, hf⟩)
      rw [hm]
      exact List.mem_cons_self
    obtain ⟨hside, hpending⟩ := hab.handshake.pending f hmem
    rintro (hne | hnone)
    · exact hne (hside.trans hab.side.symm)
    · rw [hnone] at hpending
      cases hpending
  cases m with
  | openFlow o =>
    have hruns := hba.handshake.opens
    simp only [opens, hm, FlowMessage.openOf, List.filterMap_cons, List.map_cons] at hruns
    exact fun hne => hne hruns.1
  | accept f => exact answered f rfl
  | reject f reason => exact answered f rfl
  | terminate f reason => exact id

end FlowSide

/-! ### Runs -/

namespace FlowRun

open FlowSide

/-- The refusals of a side are none of the handshake. -/
def NoneRefused (x : FlowSide) : Prop := ∀ err ∈ x.refused, ¬ FlowControl.RefusesHandshake err

structure Inv (r : FlowRun) : Prop where
  client : Direction .client r.client r.server
  server : Direction .server r.server r.client
  refused : NoneRefused r.client ∧ NoneRefused r.server

theorem StartsSide.direction {s : WireSide} {a b : FlowSide} (ha : StartsSide s a)
    (hb : StartsSide s.opposite b) : Direction s a b := by
  obtain ⟨hlocal, hcursor, -, hpending, -, hregistry, hflows⟩ := ha.new
  obtain ⟨-, -, hpeer, -, hinbound, hpeerRegistry, hpeerFlows⟩ := hb.new
  obtain ⟨hsent, hopened, -, -⟩ := ha.empty
  obtain ⟨hpeerSent, -, -, -⟩ := hb.empty
  have hopens : a.opens = [] := by simp [opens, inFlight, hsent]
  have hout : outstanding a b = [] := by
    simp [outstanding, answers, waiting, hopens, inFlight, hpeerSent, hinbound]
  have hnone : ∀ f, a.control.registry.registeredFlow f = none := fun f => by
    simp only [AcceptedFlowRegistry.registeredFlow, hflows, SortedMap.get?_empty]
  refine ⟨hlocal, by rw [hcursor]; rfl, hregistry, hpeerRegistry, ?_, ?_, ⟨?_, ?_, ?_, ?_, ?_⟩,
    ⟨?_, ?_, ?_, ?_⟩, ?_, ?_⟩
  · intro v pending hv
    rw [hpending] at hv
    cases hv
  · intro frame hframe
    rw [hsent] at hframe
    cases hframe
  · intro f pending hf
    rw [hpending] at hf
    cases hf
  · intro o ho
    rw [hopens] at ho
    cases ho
  · intro request hr
    rw [hinbound] at hr
    cases hr
  · intro f flow hf
    rw [hnone f] at hf
    cases hf
  · intro f flow hf
    simp only [AcceptedFlowRegistry.registeredFlow, hpeerFlows, SortedMap.get?_empty,
      reduceCtorEq] at hf
  · rw [hopened, hcursor]
    rfl
  · rw [hopens, hcursor, hpeer, WireSide.opposite_opposite]
    rfl
  · rw [hout]
    exact .nil
  · intro f hf
    rw [hout] at hf
    cases hf
  · intro f hf
    simp only [inFlight, hpeerSent, List.filterMap_nil, List.not_mem_nil] at hf
  · intro f flow hf
    rw [hnone f] at hf
    cases hf

theorem Inv.start {r : FlowRun} (h : Starts r) : Inv r := by
  refine ⟨h.client.direction h.server, h.server.direction h.client, ?_, ?_⟩
  · intro err herr
    rw [h.client.empty.2.2.2] at herr
    cases herr
  · intro err herr
    rw [h.server.empty.2.2.2] at herr
    cases herr

/-- An action keeps the refusals of both sides out of the handshake. -/
theorem act_noneRefused {s : WireSide} {me peer me' peer' : FlowSide} {action : FlowAction}
    (hme : Direction s me peer) (hpeer : Direction s.opposite peer me)
    (hnone : NoneRefused me ∧ NoneRefused peer) (hdecided : Decided me peer action)
    (h : me.act peer action = .ok (me', peer')) : NoneRefused me' ∧ NoneRefused peer' := by
  obtain ⟨hrefused, hsame | ⟨alloc, frame, rest, err, control, endpoint, rfl, hsent, hreceive,
    hnew⟩⟩ := act_refused h
  · exact ⟨by rw [NoneRefused, hsame]; exact hnone.1, by rw [NoneRefused, hrefused]; exact hnone.2⟩
  · obtain ⟨m, sent, hm, heff, -⟩ := receive_moves hme.formed hpeer.formed hsent hme.outbound
      (fun htype => hdecided (by rw [hsent, ← htype]; rfl)) hreceive
    have hfront : peer.inFlight = m :: rest.filterMap messageOf := by
      rw [inFlight, hsent, List.filterMap_cons, hm]
    have herr : ¬ FlowControl.RefusesHandshake err := fun hrefuses =>
      not_unexpected hme hpeer hfront (heff.refusal err rfl hrefuses)
    refine ⟨fun err' herr' => ?_, by rw [NoneRefused, hrefused]; exact hnone.2⟩
    rw [hnew, List.mem_append, List.mem_singleton] at herr'
    rcases herr' with hold | rfl
    · exact hnone.1 err' hold
    · exact herr

theorem Inv.step {r r' : FlowRun} (hi : Inv r) (h : Step Decided r r') : Inv r' := by
  rcases step_cases h with ⟨action, hdecided, hact⟩ | ⟨action, hdecided, hact⟩
  · obtain ⟨message, sent, hm⟩ :=
      act_moves hi.client.formed hi.server.formed hi.client.outbound hdecided hact
    exact ⟨hi.client.opener hm, hi.server.acceptor hm,
      act_noneRefused hi.client hi.server hi.refused hdecided hact⟩
  · obtain ⟨message, sent, hm⟩ :=
      act_moves hi.server.formed hi.client.formed hi.server.outbound hdecided hact
    exact ⟨hi.client.acceptor hm, hi.server.opener hm,
      (act_noneRefused hi.server hi.client hi.refused.symm hdecided hact).symm⟩

/-- What `me` may rely on with its peer. -/
structure Agrees (me peer : FlowSide) : Prop where
  none_refused : NoneRefused me
  contracts : ∀ f mine theirs, me.control.registry.registeredFlow f = some mine →
    peer.control.registry.registeredFlow f = some theirs →
    mine.mode = theirs.mode ∧ mine.maxMessageBytes = theirs.maxMessageBytes ∧
      mine.key.direction ≠ theirs.key.direction
  opened_once : ((me.opened ++ peer.opened).map OpenFlow.flowId).Nodup
  /-- A flow this side sends on was registered by the other side before. -/
  registered_first : ∀ f flow, me.control.registry.registeredFlow f = some flow →
    flow.key.direction = .outbound → f.value ∈ peer.registered
  /-- A Core flow that a received frame creates is the one of an open the frame accepts. -/
  created_after : ∀ alloc frame rest r control endpoint, peer.sent = frame :: rest →
    Decided me peer (.receive alloc) →
    me.control.receive alloc me.endpoint frame = .ok (r, control, endpoint) →
    ∀ key, me.endpoint.flows.get? key = none → endpoint.flows.get? key ≠ none →
      ∃ f pending, messageOf frame = some (.accept f) ∧
        me.control.pendingOutbound.get? f.value = some pending ∧ pending.key = key ∧
        f.value ∈ peer.registered

/-- Entries of one open are the same entry. -/
theorem opened_unique {s : WireSide} {a b : FlowSide} (h : Handshake s a b) {o o' : OpenFlow}
    (ho : o ∈ a.opened) (ho' : o' ∈ a.opened) (hf : o.flowId = o'.flowId) : o = o' :=
  List.inj_on_of_nodup_map h.allocated.nodup ho ho' hf

theorem agrees {s : WireSide} {a b : FlowSide} (hab : Direction s a b)
    (hba : Direction s.opposite b a) (hnone : NoneRefused a) : Agrees a b where
  none_refused := hnone
  contracts := fun f mine theirs hmine htheirs => by
    by_cases hs : f.side = s
    · obtain ⟨hout, hm⟩ := hab.known.outbound f mine hmine hs
      obtain ⟨hin, hm'⟩ := hab.known.inbound f theirs htheirs hs
      have heq := opened_unique hab.handshake hm hm' rfl
      simp only [OpenFlow.mk.injEq, true_and] at heq
      refine ⟨heq.1, heq.2, ?_⟩
      rw [hout, hin]
      decide
    · have hs' : f.side = s.opposite := by
        revert hs
        cases f.side <;> cases s <;> simp [WireSide.opposite]
      obtain ⟨hout, hm⟩ := hba.known.outbound f theirs htheirs hs'
      obtain ⟨hin, hm'⟩ := hba.known.inbound f mine hmine hs'
      have heq := opened_unique hba.handshake hm' hm rfl
      simp only [OpenFlow.mk.injEq, true_and] at heq
      refine ⟨heq.1, heq.2, ?_⟩
      rw [hout, hin]
      decide
  opened_once := by
    rw [List.map_append, List.nodup_append]
    refine ⟨hab.handshake.allocated.nodup, hba.handshake.allocated.nodup, ?_⟩
    rintro f hf _ hg rfl
    have h1 := hab.handshake.allocated.side f hf
    have h2 := hba.handshake.allocated.side f hg
    rw [h1] at h2
    cases s <;> cases h2
  registered_first := hab.established
  created_after := fun alloc frame rest r control endpoint hsent hdecided hreceive key hold hnew => by
    obtain ⟨m, sent, hm, heff, -⟩ := receive_moves hab.formed hba.formed hsent hab.outbound
      (fun htype => hdecided (by rw [hsent, ← htype]; rfl)) hreceive
    obtain ⟨f, pending, rfl, -, hp, hkey⟩ := heff.creates key hold hnew
    refine ⟨f, pending, hm, hp, hkey, hab.accepted f ?_⟩
    rw [inFlight, hsent, List.filterMap_cons, hm]
    exact List.mem_cons_self

theorem Inv.agrees {r : FlowRun} (hi : Inv r) :
    Agrees r.client r.server ∧ Agrees r.server r.client :=
  ⟨FlowRun.agrees hi.client hi.server hi.refused.1, FlowRun.agrees hi.server hi.client hi.refused.2⟩

/-- Both sides agree in every state of every run. -/
theorem establishment_agreement {r : FlowRun} (h : Reachable Starts (Step Decided) r) :
    Agrees r.client r.server ∧ Agrees r.server r.client :=
  (h.invariant (P := Inv) (fun _ h => Inv.start h) fun _ _ hi hs => hi.step hs).agrees

theorem establishment_agreement_sample : ∃ r, play Decided sampleStart sampleEstablish = .ok r ∧
    (r.client.control.registry.registeredFlow sampleFlowId).isSome ∧
    (r.server.control.registry.registeredFlow sampleFlowId).isSome ∧
    Agrees r.client r.server ∧ Agrees r.server r.client := by
  have hplayed : ((play Decided sampleStart sampleEstablish).toOption.any fun r =>
      (r.client.control.registry.registeredFlow sampleFlowId).isSome &&
        (r.server.control.registry.registeredFlow sampleFlowId).isSome) = true := by
    decide +kernel
  obtain ⟨r, hr, hregistered⟩ := (Option.any_eq_true _ _).mp hplayed
  rw [Bool.and_eq_true] at hregistered
  have hplay := ok_of_toOption hr
  exact ⟨r, hplay, hregistered.1, hregistered.2,
    establishment_agreement (play_reachable (.start sampleStart_starts) hplay)⟩

end FlowRun

end RunenNet
