import RunenNet.Quic.StreamRun
import RunenNet.Quic.FlowDriver
import RunenNet.Quic.FlowRun

/-!
# The stream of a reliable flow that fails

The sender of a flow resets its stream and reports the end of the flow on the control stream, and
the receiver may process either first. How it handles the stream is settled by what it processed
first: the `FlowId` at the front of the stream, the report, or the reset.
-/

namespace RunenNet

open Foundation

/-- What a receiver notices of a stream whose flow fails. -/
inductive StreamEvent where
  | associated
  | terminated
  | reset
  deriving DecidableEq, Repr

/-- The receiver of a stream: `read` are the bytes it read, `history` what it noticed in order, and
`outcome` how the failure of the stream was classified. -/
structure FailedStream where
  endpoint : DeliveryEndpoint
  flowControl : FlowControl
  inbound : InboundReliable
  read : List UInt8
  history : List StreamEvent
  outcome : Option EstablishedDataFailureDisposition

/-- The failure concerns the flow and nothing else. -/
def EstablishedDataFailureDisposition.ScopedTo (flowId : FlowId) :
    EstablishedDataFailureDisposition → Prop
  | .terminateAndReport id _ | .reportOnly id _ _ _ | .cleanupOnly id => id = flowId
  | .connectionTerminal _ => False

namespace FailedStream

variable {flowId : FlowId} {sent rest : List UInt8} {s s' : FailedStream}
  {b b' : InboundReliable} {io : RecvStream} {e e' : DeliveryEndpoint}
  {registry registry' : AcceptedFlowRegistry} {fc fc' : FlowControl}
  {answer : Polled (Except ReceiveError ReceiveProgress)}

/-- What a step of the binding notices. -/
def eventsOf (before after : InboundReliable) (io : RecvStream) : List StreamEvent :=
  match io.read with
  | some (.error _) => [.reset]
  | _ => if before.flow.isNone ∧ after.flow.isSome then [.associated] else []

def registeredBefore (before : InboundReliable) (fc : FlowControl) : Bool :=
  before.flowId.any fun flowId => (fc.registry.registeredFlow flowId).isSome

/-- What the driver makes of the answer of a step. -/
def outcomeOf (before after : InboundReliable) (registered : Bool) (fc : FlowControl) :
    Polled (Except ReceiveError ReceiveProgress) → Option EstablishedDataFailureDisposition
  | some (.error error) => some (FlowDriver.classifyInboundReliableActiveFailure fc
      (inboundFailureContext before.flowId before.resolvedFlowKey registered after.flowId
        after.resolvedFlowKey after.failureTermination) error)
  | _ => none

/-- The stream gives the bytes that were sent, in order, and then fails; it does not end. -/
structure Gives (sent read : List UInt8) (io : RecvStream) : Prop where
  bytes : ∀ chunk, io.read = some (.ok chunk) → chunk ≠ [] ∧ read ++ chunk <+: sent
  reset : ∀ failure, io.read = some (.error failure) → failure = .read

/-- The steps of the binding until it fails, the report of the sender, which is processed once, and
whatever else happens that leaves the flow registered as it is. -/
inductive Step (flowId : FlowId) (sent : List UInt8) : FailedStream → FailedStream → Prop where
  | poll {s : FailedStream} {io : RecvStream} {inbound' : InboundReliable}
      {endpoint' : DeliveryEndpoint} {registry' : AcceptedFlowRegistry}
      {answer : Polled (Except ReceiveError ReceiveProgress)} : s.outcome = none →
    Gives sent s.read io →
    s.inbound.pollStep io s.endpoint s.flowControl.registry =
      .ok (answer, inbound', endpoint', registry') →
    Step flowId sent s
      { endpoint := endpoint'
        flowControl := { s.flowControl with registry := registry' }
        inbound := inbound'
        read := s.read ++ s.inbound.got io
        history := s.history ++ eventsOf s.inbound inbound' io
        outcome := outcomeOf s.inbound inbound' (registeredBefore s.inbound s.flowControl)
          { s.flowControl with registry := registry' } answer }
  | report {s : FailedStream} {alloc alloc' : Allocator} {reason : FlowTerminateReason}
      {frame : ControlFrame} {progress : FlowControlDriverProgress} {flowControl' : FlowControl}
      {endpoint' : DeliveryEndpoint} : .terminated ∉ s.history →
    terminateFrame alloc flowId reason = .ok (some frame) →
    FlowDriver.processReceived s.flowControl alloc' s.endpoint frame =
      .ok (.ok progress, flowControl', endpoint') →
    Step flowId sent s { s with
      endpoint := endpoint'
      flowControl := flowControl'
      history := s.history ++ [.terminated] }
  | others {s : FailedStream} {flowControl' : FlowControl} {endpoint' : DeliveryEndpoint} :
    flowControl'.registry.registeredFlow flowId = s.flowControl.registry.registeredFlow flowId →
    Step flowId sent s { s with endpoint := endpoint', flowControl := flowControl' }

/-- The flow awaits its stream. -/
def Awaits (flowId : FlowId) (registry : AcceptedFlowRegistry) : Prop :=
  ∃ flow, registry.registeredFlow flowId = some flow ∧ flow.mode = .reliableOrdered ∧
    flow.key.direction = .inbound ∧ flow.reliableAssociation = some .unbound

/-- The receiver accepted the flow, and nothing of a new stream was read. -/
structure Starts (flowId : FlowId) (s : FailedStream) : Prop where
  awaits : Awaits flowId s.flowControl.registry
  inbound : ∃ maxStagingBytes, InboundReliable.new false true maxStagingBytes = .ok s.inbound
  empty : s.read = [] ∧ s.history = [] ∧ s.outcome = none

/-- The states of all runs. -/
abbrev Run (flowId : FlowId) (sent : List UInt8) : FailedStream → Prop :=
  Reachable (Starts flowId) (Step flowId sent)

/-! ### A turn of the loop over the bindings -/

/-- A binding that fails in a turn of the loop is handed to the driver with the context that is
classified here. -/
theorem turn_fails {conn : ReliableConnectionIo} {t : ReliableTransport} {index len next : Nat}
    {others : List Nat} {error : ReceiveError} (hb : conn.activeInbound[index]? = some b)
    (h : b.pollStep (t.recv index) e fc.registry = .ok (some (.error error), b', e', registry')) :
    ∃ context conn', conn.pollInboundBindingFrom t len next (index :: others) e fc =
        .ok (some (.error (.inboundActiveBinding context error)), conn', e',
          { fc with registry := registry' }) ∧
      outcomeOf b b' (registeredBefore b fc) { fc with registry := registry' }
          (some (.error error)) =
        some (FlowDriver.classifyInboundReliableActiveFailure { fc with registry := registry' }
          context error) := by
  refine ⟨inboundFailureContext b.flowId b.resolvedFlowKey (registeredBefore b fc) b'.flowId
      b'.resolvedFlowKey b'.failureTermination,
    { conn with activeInbound := conn.activeInbound.set index b' }.removeActiveInbound index,
    ?_, rfl⟩
  simp only [ReliableConnectionIo.pollInboundBindingFrom, hb, Checked.expect_some,
    Checked.ok_bind, h]
  rfl

/-! ### Bindings -/

/-- The binding reads its `FlowId`. -/
structure Unresolved (flowId : FlowId) (read : List UInt8) (b : InboundReliable) : Prop where
  flow : b.flow = none
  id : b.flowId = none
  going : b.terminal = false ∧ b.draining = false
  holds : b.flowPrefix.Holds flowId read

/-- The binding knows its flow. -/
structure Resolved (flowId : FlowId) (b : InboundReliable) : Prop where
  flow : b.flow.isSome = true
  id : b.flowId = some flowId

/-- The binding of a known flow reads its frames. -/
structure Framed (flowId : FlowId) (b : InboundReliable) : Prop extends Resolved flowId b where
  frames : b.frames.isSome = true
  going : b.terminal = false ∧ b.draining = false

/-- A step keeps the flow of a binding, and does not end it unless it fails. -/
def Keeps (flowId : FlowId) (answer : Polled (Except ReceiveError ReceiveProgress))
    (b' : InboundReliable) : Prop :=
  (∃ error, answer = some (.error error)) ∧ Resolved flowId b' ∨
    (∀ error, answer ≠ some (.error error)) ∧ Framed flowId b'

theorem unresolved_new {maxStagingBytes : NonZeroUsize}
    (h : InboundReliable.new false true maxStagingBytes = .ok b) : Unresolved flowId [] b := by
  cases h
  exact ⟨rfl, rfl, ⟨rfl, rfl⟩, FlowIdPrefix.holds_new flowId⟩

theorem fail_keeps {error : ReceiveError} (hb : Resolved flowId b)
    (h : b.fail e registry error = .ok (answer, b', e', registry')) : Keeps flowId answer b' := by
  unfold InboundReliable.fail at h
  split at h
  · cases h
    exact .inl ⟨⟨error, rfl⟩, hb⟩
  · obtain ⟨flow, hflow⟩ := Option.isSome_iff_exists.mp hb.flow
    simp only [hflow, Checked.bind_eq_ok] at h
    obtain ⟨⟨r, e₁⟩, -, pair, hpair, h⟩ := h
    cases hpair
    cases h
    exact .inl ⟨⟨error, rfl⟩, rfl, hb.id⟩

theorem pollFrames_keeps {n : Nat} {bytes : List UInt8} (hb : Framed flowId b)
    (h : b.pollFrames io n bytes e registry = .ok (answer, b', e', registry')) :
    Keeps flowId answer b' := by
  simp only [InboundReliable.pollFrames, Checked.bind_eq_ok] at h
  obtain ⟨flow, -, frames, -, ⟨r, frames', e₁⟩, -, h⟩ := h
  rcases r with error | count
  · exact fail_keeps (b := { b with frames := some frames' }) ⟨hb.flow, hb.id⟩ h
  cases count with
  | zero =>
    cases h
    exact .inr ⟨fun _ heq => by (cases heq), ⟨hb.flow, hb.id⟩, rfl, hb.going⟩
  | succ count =>
    cases h
    exact .inr ⟨fun _ heq => by (cases heq), ⟨hb.flow, hb.id⟩, rfl, hb.going⟩

/-- A flow that awaits its stream is associated with it. -/
theorem associateInbound_awaits (h : Awaits flowId registry) :
    ∃ flow registry', registry.associateInbound flowId = (.ok flow, registry') := by
  obtain ⟨flow, hflow, hmode, hdirection, hunbound⟩ := h
  unfold AcceptedFlowRegistry.associateInbound AcceptedFlowRegistry.associate
  rw [show registry.flows.get? flowId.value = some flow from hflow]
  simp only [hmode, hdirection, hunbound, ne_eq, not_true_eq_false, if_false]
  exact ⟨_, _, rfl⟩

/-- A flow that ended is not associated. -/
theorem associateInbound_ended (h : registry.registeredFlow flowId = none) :
    registry.associateInbound flowId = (.error .unknownFlowId, registry) := by
  unfold AcceptedFlowRegistry.associateInbound AcceptedFlowRegistry.associate
  rw [show registry.flows.get? flowId.value = none from h]

/-- What a chunk does to a binding that reads its `FlowId`. -/
inductive Chunk (flowId : FlowId) (registry : AcceptedFlowRegistry) (read : List UInt8)
    (answer : Polled (Except ReceiveError ReceiveProgress)) (b' : InboundReliable)
    (registry' : AcceptedFlowRegistry) : Prop where
  | more {n : Nat} : answer = some (.ok (.progressed n)) → registry' = registry →
    Unresolved flowId read b' → Chunk flowId registry read answer b' registry'
  | associated : Awaits flowId registry → Keeps flowId answer b' →
    Chunk flowId registry read answer b' registry'
  | unknown : registry.registeredFlow flowId = none →
    answer = some (.error (.registry .unknownFlowId)) → b'.flow = none → b'.flowId = none →
    Chunk flowId registry read answer b' registry'

theorem pollAssociate_chunk {read chunk : List UInt8} (hb : Unresolved flowId read b)
    (hchunk : chunk ≠ []) (hpart : read ++ chunk <+: varintBytes flowId.value ++ rest)
    (hregistry : Awaits flowId registry ∨ registry.registeredFlow flowId = none)
    (h : b.pollAssociate io chunk e registry = .ok (answer, b', e', registry')) :
    Chunk flowId registry (read ++ chunk) answer b' registry' := by
  unfold InboundReliable.pollAssociate at h
  rcases FlowIdPrefix.consume_holds hb.holds hchunk hpart with
    ⟨p', hconsume, hp'⟩ | ⟨p', n, hconsume, -, -⟩
  · simp only [hconsume] at h
    cases h
    exact .more rfl rfl ⟨hb.flow, hb.id, hb.going, hp'⟩
  simp only [hconsume] at h
  rcases hregistry with hawaits | hended
  · obtain ⟨flow, registry₁, hassociate⟩ := associateInbound_awaits hawaits
    rw [hassociate] at h
    refine .associated hawaits ?_
    simp only at h
    split at h
    · exact fail_keeps ⟨rfl, rfl⟩ h
    split at h
    · exact fail_keeps ⟨rfl, rfl⟩ h
    rename_i frames _
    split at h
    · cases h
      exact .inr ⟨fun _ heq => by (cases heq), ⟨rfl, rfl⟩, rfl, hb.going⟩
    · refine pollFrames_keeps ?_ h
      exact ⟨⟨rfl, rfl⟩, rfl, hb.going⟩
  · rw [associateInbound_ended hended] at h
    cases h
    exact .unknown hended rfl hb.flow hb.id

/-- What a step does to a binding that reads its `FlowId`. -/
inductive Before (flowId : FlowId) (registry : AcceptedFlowRegistry) (read : List UInt8)
    (io : RecvStream) (answer : Polled (Except ReceiveError ReceiveProgress))
    (b' : InboundReliable) (registry' : AcceptedFlowRegistry) : Prop where
  | idle : io.read = none → answer = none → registry' = registry → Unresolved flowId read b' →
    Before flowId registry read io answer b' registry'
  | reset : io.read = some (.error .read) → answer = some (.error (.io .read)) → b'.flow = none →
    b'.flowId = none → Before flowId registry read io answer b' registry'
  | chunk {bytes : List UInt8} : io.read = some (.ok bytes) →
    Chunk flowId registry (read ++ bytes) answer b' registry' →
    Before flowId registry read io answer b' registry'

theorem pollStep_before {read : List UInt8} (hb : Unresolved flowId read b)
    (hgives : Gives sent read io) (hsent : sent <+: varintBytes flowId.value ++ rest)
    (hregistry : Awaits flowId registry ∨ registry.registeredFlow flowId = none)
    (h : b.pollStep io e registry = .ok (answer, b', e', registry')) :
    Before flowId registry read io answer b' registry' := by
  obtain ⟨hterminal, hdraining⟩ := hb.going
  simp only [InboundReliable.pollStep, hterminal, hdraining, Bool.false_eq_true, if_false] at h
  cases hread : io.read with
  | none =>
    rw [hread] at h
    cases h
    exact .idle hread rfl rfl hb
  | some got =>
    rcases got with failure | chunk
    · obtain rfl := hgives.reset failure hread
      rw [hread] at h
      simp only [InboundReliable.fail, hterminal, Bool.false_eq_true, if_false, hb.flow] at h
      cases h
      exact .reset hread rfl rfl hb.id
    · obtain ⟨hne, hpart⟩ := hgives.bytes chunk hread
      obtain ⟨first, tail, rfl⟩ := List.exists_cons_of_ne_nil hne
      rw [hread] at h
      simp only [hb.flow, Option.isNone_none, if_true] at h
      exact .chunk hread (pollAssociate_chunk hb hne (hpart.trans hsent) hregistry h)

/-- A step of a binding that knows its flow. -/
theorem pollStep_keeps {read : List UInt8} (hb : Framed flowId b) (hgives : Gives sent read io)
    (h : b.pollStep io e registry = .ok (answer, b', e', registry')) : Keeps flowId answer b' := by
  obtain ⟨hterminal, hdraining⟩ := hb.going
  obtain ⟨flow, hflow⟩ := Option.isSome_iff_exists.mp hb.flow
  simp only [InboundReliable.pollStep, hterminal, hdraining, Bool.false_eq_true, if_false] at h
  cases hread : io.read with
  | none =>
    rw [hread] at h
    cases h
    exact .inr ⟨fun _ heq => by (cases heq), hb⟩
  | some got =>
    rcases got with failure | chunk
    · obtain rfl := hgives.reset failure hread
      rw [hread] at h
      exact fail_keeps hb.toResolved h
    · obtain ⟨hne, -⟩ := hgives.bytes chunk hread
      obtain ⟨first, tail, rfl⟩ := List.exists_cons_of_ne_nil hne
      rw [hread] at h
      simp only [hflow, Option.isNone_some, Bool.false_eq_true, if_false] at h
      exact pollFrames_keeps hb h

/-! ### The outcome -/

/-- A failure in the context of a flow concerns that flow. -/
theorem classify_resolved {context : ReliableFailureContext} {error : ReceiveError}
    (hcontext : (∃ key termination, context = .resolvedReportable flowId key termination) ∨
      ∃ key, context = .resolvedDetached flowId key) :
    (FlowDriver.classifyInboundReliableActiveFailure fc context error).ScopedTo flowId := by
  rcases hcontext with ⟨key, termination, rfl⟩ | ⟨key, rfl⟩
  · simp only [FlowDriver.classifyInboundReliableActiveFailure,
      FlowDriver.classifyReliableActiveContext]
    split
    · exact rfl
    · exact rfl
  · exact rfl

/-- A failure of a binding that knows its flow concerns that flow. -/
theorem outcomeOf_resolved {registered : Bool} {d : EstablishedDataFailureDisposition}
    (hb : (b.flow = none ∧ b.flowId = none) ∨ Resolved flowId b) (hb' : Resolved flowId b')
    (h : outcomeOf b b' registered fc answer = some d) : d.ScopedTo flowId := by
  unfold outcomeOf at h
  split at h
  · cases h
    refine classify_resolved ?_
    obtain ⟨flow', hflow'⟩ := Option.isSome_iff_exists.mp hb'.flow
    rcases hb with ⟨hflow, hid⟩ | ⟨hflow, hid⟩
    · refine .inl ⟨flow'.key, b'.failureTermination, ?_⟩
      rw [InboundReliable.resolvedFlowKey, InboundReliable.resolvedFlowKey, hflow, hid, hflow',
        hb'.id]
      rfl
    · obtain ⟨flow, hflow⟩ := Option.isSome_iff_exists.mp hflow
      have hcontext : inboundFailureContext b.flowId b.resolvedFlowKey registered b'.flowId
          b'.resolvedFlowKey b'.failureTermination =
          resolvedFailureContext flowId flow.key registered b'.failureTermination := by
        rw [InboundReliable.resolvedFlowKey, hflow, hid]
        rfl
      rw [hcontext, resolvedFailureContext]
      split
      · exact .inl ⟨_, _, rfl⟩
      · exact .inr ⟨_, rfl⟩
  · cases h

/-- A failure of a binding that does not know its flow ends the connection. -/
theorem outcomeOf_unresolved (registered : Bool) (fc : FlowControl) (error : ReceiveError)
    (hb : b.flow = none ∧ b.flowId = none) (hb' : b'.flow = none ∧ b'.flowId = none) :
    ∃ code, outcomeOf b b' registered fc (some (.error error)) =
      some (.connectionTerminal code) := by
  rw [outcomeOf, InboundReliable.resolvedFlowKey, InboundReliable.resolvedFlowKey, hb.1, hb.2,
    hb'.1, hb'.2]
  exact ⟨_, rfl⟩

/-- Where the stream stands, by what was noticed first. -/
inductive Stage (flowId : FlowId) (s : FailedStream) : Prop where
  | unresolved : s.history = [] → s.outcome = none → Awaits flowId s.flowControl.registry →
    Unresolved flowId s.read s.inbound → Stage flowId s
  | overtaken : s.history = [.terminated] → s.outcome = none →
    s.flowControl.registry.registeredFlow flowId = none →
    Unresolved flowId s.read s.inbound → Stage flowId s
  | resolved : s.history.head? = some .associated → s.outcome = none →
    Framed flowId s.inbound → Stage flowId s
  | isolated {d : EstablishedDataFailureDisposition} : s.history.head? = some .associated →
    s.outcome = some d → d.ScopedTo flowId → Stage flowId s
  | terminal {event : StreamEvent} {code : Option ApplicationErrorCode} :
    s.history.head? = some event → event ≠ .associated →
    s.outcome = some (.connectionTerminal code) → Stage flowId s

theorem stage_start (h : Starts flowId s) : Stage flowId s := by
  obtain ⟨hawaits, ⟨maxStagingBytes, hnew⟩, hread, hhistory, houtcome⟩ := h
  exact .unresolved hhistory houtcome hawaits (hread ▸ unresolved_new hnew)

/-- The first event stays the first. -/
theorem head_append {event : StreamEvent} {history more : List StreamEvent}
    (h : history.head? = some event) : (history ++ more).head? = some event := by
  cases history with
  | nil => cases h
  | cons first rest => exact h

/-- What a step of a binding that did not know its flow notices. -/
theorem eventsOf_unresolved (hread : ∀ failure, io.read ≠ some (.error failure))
    (hb : b.flow = none) : eventsOf b b' io = if b'.flow.isSome then [.associated] else [] := by
  unfold eventsOf
  split
  · rename_i failure hfail
    exact absurd hfail (hread failure)
  · rw [hb]
    simp

theorem eventsOf_reset (hread : io.read = some (.error .read)) : eventsOf b b' io = [.reset] := by
  unfold eventsOf
  rw [hread]

theorem outcomeOf_going {registered : Bool} (h : ∀ error, answer ≠ some (.error error)) :
    outcomeOf b b' registered fc answer = none := by
  unfold outcomeOf
  split
  · rename_i error
    exact absurd rfl (h error)
  · rfl

/-- A step of a binding that knows its flow, or comes to know it first. -/
theorem Stage.of_keeps {s' : FailedStream} {registered : Bool}
    (hb : (b.flow = none ∧ b.flowId = none) ∨ Resolved flowId b)
    (hk : Keeps flowId answer s'.inbound)
    (hhead : s'.history.head? = some .associated)
    (hout : s'.outcome = outcomeOf b s'.inbound registered fc answer) : Stage flowId s' := by
  rcases hk with ⟨⟨error, rfl⟩, hresolved⟩ | ⟨hgoing, hframed⟩
  · obtain ⟨d, hd⟩ : ∃ d, outcomeOf b s'.inbound registered fc (some (.error error)) = some d :=
      ⟨_, rfl⟩
    exact .isolated hhead (hout.trans hd) (outcomeOf_resolved hb hresolved hd)
  · exact .resolved hhead (hout.trans (outcomeOf_going hgoing)) hframed

/-- A step of a binding that reads its `FlowId`. -/
theorem Stage.before {s' : FailedStream} {registered : Bool} {history : List StreamEvent}
    (hhistory : history = [] ∧ Awaits flowId registry ∨
      history = [.terminated] ∧ registry.registeredFlow flowId = none)
    (hb : Unresolved flowId s.read s.inbound)
    (hx : Before flowId registry s.read io answer s'.inbound registry')
    (hread : s'.read = s.read ++ s.inbound.got io)
    (hevents : s'.history = history ++ eventsOf s.inbound s'.inbound io)
    (hregistry : s'.flowControl.registry = registry')
    (hout : s'.outcome = outcomeOf s.inbound s'.inbound registered fc answer) :
    Stage flowId s' := by
  obtain ⟨hterminal, hdraining⟩ := hb.going
  have hgoing : ¬ (s.inbound.terminal ∨ s.inbound.draining) := by
    rw [hterminal, hdraining]
    simp
  cases hx with
  | idle hio hanswer hsame hb' =>
    have hevents' : s'.history = history := by
      rw [hevents, eventsOf_unresolved (fun _ h => by rw [hio] at h; cases h) hb.flow, hb'.flow]
      exact List.append_nil _
    have hout' : s'.outcome = none := by
      rw [hout, hanswer]
      rfl
    have hread' : s'.read = s.read := by
      rw [hread, InboundReliable.got, if_neg hgoing, hio]
      exact List.append_nil _
    rw [← hread'] at hb'
    rcases hhistory with ⟨rfl, hawaits⟩ | ⟨rfl, hended⟩
    · exact .unresolved hevents' hout' (by rw [hregistry, hsame]; exact hawaits) hb'
    · exact .overtaken hevents' hout' (by rw [hregistry, hsame]; exact hended) hb'
  | reset hio hanswer hflow hid =>
    obtain ⟨code, hcode⟩ := outcomeOf_unresolved registered fc (.io .read) ⟨hb.flow, hb.id⟩
      ⟨hflow, hid⟩
    rw [eventsOf_reset hio] at hevents
    rw [hanswer, hcode] at hout
    rcases hhistory with ⟨rfl, -⟩ | ⟨rfl, -⟩
    · exact .terminal (congrArg List.head? hevents) (fun h => by cases h) hout
    · exact .terminal (congrArg List.head? hevents) (fun h => by cases h) hout
  | @chunk bytes hio hchunk =>
    rw [eventsOf_unresolved (fun _ h => by rw [hio] at h; cases h) hb.flow] at hevents
    have hread' : s'.read = s.read ++ bytes := by
      rw [hread, InboundReliable.got, if_neg hgoing, hio]
    cases hchunk with
    | more hanswer hsame hb' =>
      rw [hb'.flow] at hevents
      have hevents' : s'.history = history := hevents.trans (List.append_nil _)
      have hout' : s'.outcome = none := by
        rw [hout, hanswer]
        rfl
      rw [← hread'] at hb'
      rcases hhistory with ⟨rfl, hawaits⟩ | ⟨rfl, hended⟩
      · exact .unresolved hevents' hout' (by rw [hregistry, hsame]; exact hawaits) hb'
      · exact .overtaken hevents' hout' (by rw [hregistry, hsame]; exact hended) hb'
    | associated hawaits hkeeps =>
      have hflow : s'.inbound.flow.isSome = true := by
        rcases hkeeps with ⟨-, hresolved⟩ | ⟨-, hframed⟩
        · exact hresolved.flow
        · exact hframed.flow
      rcases hhistory with ⟨rfl, -⟩ | ⟨-, hended⟩
      · rw [if_pos hflow] at hevents
        exact .of_keeps (.inl ⟨hb.flow, hb.id⟩) hkeeps (congrArg List.head? hevents) hout
      · obtain ⟨flow, hsome, -⟩ := hawaits
        rw [hended] at hsome
        cases hsome
    | unknown hended hanswer hflow hid =>
      obtain ⟨code, hcode⟩ := outcomeOf_unresolved registered fc (.registry .unknownFlowId)
        ⟨hb.flow, hb.id⟩ ⟨hflow, hid⟩
      rw [hanswer, hcode] at hout
      rcases hhistory with ⟨-, flow, hsome, -⟩ | ⟨rfl, -⟩
      · rw [hended] at hsome
        cases hsome
      · rw [hflow] at hevents
        exact .terminal (congrArg List.head? hevents) (fun h => by cases h) hout

/-- The report of the sender ends the flow. -/
theorem report_ends {alloc alloc' : Allocator} {reason : FlowTerminateReason} {frame : ControlFrame}
    {progress : FlowControlDriverProgress}
    (hframe : terminateFrame alloc flowId reason = .ok (some frame))
    (h : FlowDriver.processReceived fc alloc' e frame = .ok (.ok progress, fc', e')) :
    fc'.registry.registeredFlow flowId = none := by
  obtain ⟨body, hbody, rfl⟩ := ownedFrame_some hframe
  obtain ⟨body', he, hdecode⟩ := FlowTerminate.decode_encode ⟨flowId, reason⟩
  rw [hbody, Except.ok.injEq] at he
  subst he
  simp only [FlowDriver.processReceived, FlowControl.receive, FlowControl.receiveTerminate,
    hdecode, Checked.bind_eq_ok] at h
  obtain ⟨⟨r, fc₁, e₁⟩, hreceive, h⟩ := h
  split at hreceive
  · cases hreceive
    cases h
  · split at hreceive
    · cases hreceive
      cases h
    · simp only [Checked.bind_eq_ok] at hreceive
      obtain ⟨⟨r', fc₂, e₂⟩, hend, hreceive⟩ := hreceive
      cases hreceive
      obtain ⟨-, ⟨err, rfl, -⟩ | ⟨termination, rfl, rfl⟩⟩ := FlowControl.endRegistered_ok hend
      · cases h
      · cases h
        exact SortedMap.get?_erase_self _ _

theorem Stage.step (hsent : sent <+: varintBytes flowId.value ++ rest) (h : Stage flowId s)
    (hst : Step flowId sent s s') : Stage flowId s' := by
  cases hst with
  | poll hgoing hgives hx =>
    cases h with
    | unresolved hhistory _ hawaits hb =>
      exact .before (.inl ⟨hhistory, hawaits⟩) hb
        (pollStep_before hb hgives hsent (.inl hawaits) hx) rfl rfl rfl rfl
    | overtaken hhistory _ hended hb =>
      exact .before (.inr ⟨hhistory, hended⟩) hb
        (pollStep_before hb hgives hsent (.inr hended) hx) rfl rfl rfl rfl
    | resolved hhead _ hb =>
      exact .of_keeps (.inr hb.toResolved) (pollStep_keeps hb hgives hx) (head_append hhead) rfl
    | isolated _ hout =>
      rw [hgoing] at hout
      cases hout
    | terminal _ _ hout =>
      rw [hgoing] at hout
      cases hout
  | report hfirst hframe hx =>
    cases h with
    | unresolved hhistory hout _ hb =>
      refine .overtaken ?_ hout (report_ends hframe hx) hb
      rw [hhistory]
      rfl
    | overtaken hhistory _ _ _ =>
      rw [hhistory] at hfirst
      exact absurd (List.mem_singleton_self _) hfirst
    | resolved hhead hout hb => exact .resolved (head_append hhead) hout hb
    | isolated hhead hout hd => exact .isolated (head_append hhead) hout hd
    | terminal hhead hne hout => exact .terminal (head_append hhead) hne hout
  | others hsame =>
    cases h with
    | unresolved hhistory hout hawaits hb =>
      refine .unresolved hhistory hout ?_ hb
      unfold Awaits at hawaits ⊢
      rw [← hsame] at hawaits
      exact hawaits
    | overtaken hhistory hout hended hb => exact .overtaken hhistory hout (hsame.trans hended) hb
    | resolved hhead hout hb => exact .resolved hhead hout hb
    | isolated hhead hout hd => exact .isolated hhead hout hd
    | terminal hhead hne hout => exact .terminal hhead hne hout

theorem stage_reachable (hsent : sent <+: varintBytes flowId.value ++ rest)
    (h : Run flowId sent s) : Stage flowId s :=
  h.invariant (fun _ h₀ => stage_start h₀) fun _ _ hstage hst => hstage.step hsent hst

/-- The failure of a stream that carries what its sender wrote concerns the flow alone if and only
if its `FlowId` was read before anything else was noticed; else it ends the connection. -/
theorem failure_scoped_iff {ks kr : DeliveryFlowKey} {limit : Nat} {r : StreamRun}
    {d : EstablishedDataFailureDisposition} (hsender : StreamRun.Run ks kr flowId limit r)
    (h : Run flowId r.written s) (hd : s.outcome = some d) :
    (d.ScopedTo flowId ↔ s.history.head? = some .associated) ∧
      ((∃ code, d = .connectionTerminal code) ↔ s.history.head? ≠ some .associated) := by
  have hsent : r.written <+: varintBytes flowId.value ++ _ :=
    (StreamRun.inv_reachable hsender).sending.writes.isPrefix
  cases stage_reachable hsent h with
  | unresolved _ hout => cases hout.symm.trans hd
  | overtaken _ hout => cases hout.symm.trans hd
  | resolved _ hout => cases hout.symm.trans hd
  | isolated hhead hout hscoped =>
    obtain rfl := Option.some.inj (hout.symm.trans hd)
    refine ⟨⟨fun _ => hhead, fun _ => hscoped⟩, ?_, fun hne => absurd hhead hne⟩
    rintro ⟨code, rfl⟩
    exact hscoped.elim
  | terminal hhead hne hout =>
    obtain rfl := Option.some.inj (hout.symm.trans hd)
    have hfirst : s.history.head? ≠ some .associated := by
      rw [hhead]
      exact fun heq => hne (Option.some.inj heq)
    exact ⟨⟨False.elim, fun heq => absurd heq hfirst⟩, fun _ => hfirst, fun _ => ⟨_, rfl⟩⟩

/-! ### Two runs

A flow of the client that the server accepted, whose stream carries its `FlowId` and no more. -/

open FlowRun (sampleFlowId sampleAlloc)
open ReliableRun (sampleSender sampleReceiver samplePolicy sampleLimits)

def sampleOpened : StreamRun := { StreamRun.sampleStart with
  outbound := ⟨sampleFlowId, sampleSender, ⟨[0], 0, 16, some 0, none⟩, false, none, false⟩ }

/-- The sender wrote the `FlowId`. -/
theorem sample_sender : ∃ r, StreamRun.Run sampleSender sampleReceiver sampleFlowId 16 r ∧
    r.written = [0] := by
  have h0 : StreamRun.Run sampleSender sampleReceiver sampleFlowId 16 sampleOpened :=
    .start ⟨⟨_, [], rfl⟩, ⟨_, [], rfl⟩, ⟨rfl, rfl⟩, ⟨rfl, rfl⟩, ⟨_, rfl, rfl⟩, ⟨.nearest 16, rfl⟩,
      ⟨rfl, rfl, rfl, rfl, rfl⟩, rfl, rfl, rfl⟩
  have h1 := StreamRun.next_senderHost h0
    (.establishFlow sampleSender .reliableOrdered samplePolicy sampleLimits)
    (fun _ _ _ h => by cases h; exact .inr ⟨rfl, rfl⟩) (fun _ h => by cases h) rfl
  exact ⟨_, StreamRun.next_send h1 StreamRun.sampleSend StreamRun.sampleRegistry rfl, rfl⟩

/-- Both sides with the flow established. -/
def sampleEstablished : FlowRun :=
  (FlowRun.play FlowSide.Decided FlowRun.sampleStart FlowRun.sampleEstablish).toOption.getD
    FlowRun.sampleStart

def sampleInbound : InboundReliable := ⟨16, .new, none, none, none, none, false, false⟩

def sampleStart : FailedStream :=
  ⟨sampleEstablished.server.endpoint, sampleEstablished.server.control, sampleInbound, [], [], none⟩

theorem sample_starts : Starts sampleFlowId sampleStart :=
  ⟨⟨⟨sampleReceiver, .reliableOrdered, 16, some .unbound⟩, by decide +kernel, rfl, rfl, rfl⟩,
    ⟨.nearest 16, rfl⟩, rfl, rfl, rfl⟩

def sampleFrame : ControlFrame := ⟨.flowTerminate, [0, 3]⟩

theorem sampleFrame_eq :
    terminateFrame sampleAlloc sampleFlowId .reliableDeliveryFailure = .ok (some sampleFrame) := rfl

theorem sample_report : ∃ progress fc' e',
    FlowDriver.processReceived sampleStart.flowControl sampleAlloc sampleStart.endpoint
      sampleFrame = .ok (.ok progress, fc', e') :=
  ⟨_, _, _, rfl⟩

/-- The bytes that were sent, or the reset of the stream. -/
def sampleChunk : RecvStream := ⟨some (.ok [0]), fun _ => true⟩

def sampleReset : RecvStream := ⟨some (.error .read), fun _ => true⟩

theorem sampleChunk_gives : Gives [0] [] sampleChunk := by
  refine ⟨fun chunk h => ?_, fun failure h => ?_⟩
  · cases h
    exact ⟨List.cons_ne_nil _ _, List.prefix_rfl⟩
  · cases h

theorem sampleReset_gives (read : List UInt8) : Gives [0] read sampleReset := by
  refine ⟨fun chunk h => ?_, fun failure h => ?_⟩
  · cases h
  · cases h
    rfl

/-- The report is processed before the `FlowId` is read. -/
theorem sample_overtaken : ∃ s, Run sampleFlowId [0] s ∧ s.history = [.terminated] ∧
    s.outcome = some (.connectionTerminal (some .profileProtocolError)) := by
  obtain ⟨progress, fc, e, hreport⟩ := sample_report
  have hended := report_ends sampleFrame_eq hreport
  have h1 : Run sampleFlowId [0] _ := Reachable.next (.start sample_starts)
    (Step.report (by decide) sampleFrame_eq hreport)
  have hpoll : sampleInbound.pollStep sampleChunk e fc.registry =
      .ok (some (.error (.registry .unknownFlowId)),
        { sampleInbound with flowPrefix := ⟨[0], 1⟩, terminal := true }, e, fc.registry) := by
    have hassociate := associateInbound_ended hended
    have hconsume : sampleInbound.flowPrefix.consume [0] = (.ok ⟨1, some sampleFlowId⟩, ⟨[0], 1⟩) :=
      rfl
    show sampleInbound.pollAssociate sampleChunk [0] e fc.registry = _
    simp only [InboundReliable.pollAssociate, hconsume, hassociate]
  exact ⟨_, h1.next (Step.poll rfl sampleChunk_gives hpoll), rfl, rfl⟩

/-- The `FlowId` is read before the stream is reset. -/
theorem sample_associated : ∃ s d, Run sampleFlowId [0] s ∧ s.history = [.associated, .reset] ∧
    s.outcome = some d := by
  have h1 : Run sampleFlowId [0] _ := Reachable.next (.start sample_starts)
    (Step.poll rfl sampleChunk_gives rfl)
  exact ⟨_, _, h1.next (Step.poll rfl (sampleReset_gives _) rfl), rfl, rfl⟩

theorem failure_scoped_iff_sample : ∃ (s : FailedStream) (d : EstablishedDataFailureDisposition),
    s.history = [.associated, .reset] ∧ s.outcome = some d ∧ d.ScopedTo sampleFlowId ∧
    ¬ ∃ code, d = .connectionTerminal code := by
  obtain ⟨r, hsender, hwritten⟩ := sample_sender
  obtain ⟨s, d, hrun, hhistory, hd⟩ := sample_associated
  rw [← hwritten] at hrun
  obtain ⟨hscoped, hterminal⟩ := failure_scoped_iff hsender hrun hd
  have hhead : s.history.head? = some .associated := by
    rw [hhistory]
    rfl
  exact ⟨s, d, hhistory, hd, hscoped.mpr hhead, fun h => hterminal.mp h hhead⟩

/-- A report that overtakes the `FlowId` makes the failure of one flow end the connection. -/
theorem overtaken_ends_connection : ¬ ∀ (ks kr : DeliveryFlowKey) (flowId : FlowId) (limit : Nat)
    (r : StreamRun) (s : FailedStream) (d : EstablishedDataFailureDisposition),
    StreamRun.Run ks kr flowId limit r → Run flowId r.written s → s.outcome = some d →
      ∀ code, d ≠ .connectionTerminal code := by
  intro h
  obtain ⟨r, hsender, hwritten⟩ := sample_sender
  obtain ⟨s, hrun, -, hd⟩ := sample_overtaken
  rw [← hwritten] at hrun
  exact h _ _ _ _ r s _ hsender hrun hd _ rfl

end FailedStream

end RunenNet
