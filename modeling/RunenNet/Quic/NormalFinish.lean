import RunenNet.Quic.DriverWork

/-!
# The normal end of a reliable flow

A finish is granted to a flow that has nothing left to send, and its binding then waits for the
stream to be acknowledged. As long as nothing is submitted to the flow, the binding ends it
normally.
-/

namespace RunenNet

open Foundation
open ConnectionParts (Works Sound)

/-! ### Bindings that finish -/

theorem DeliveryEndpoint.drained_of_peek {e : DeliveryEndpoint} {key : DeliveryFlowKey}
    (h : e.peekOutbound key = .ok none) : e.Drained key := by
  intro f hf
  simp only [peekOutbound, hf] at h
  split at h
  · cases h
  · exact List.head?_eq_none_iff.mp (Except.ok.inj h)

/-- A front of an empty queue. -/
theorem DeliveryEndpoint.Drained.peek {e : DeliveryEndpoint} {key : DeliveryFlowKey} {f : FlowState}
    (h : e.Drained key) (hdirection : key.direction = .outbound) (hf : e.flows.get? key = some f) :
    e.peekOutboundMetadata key = .ok none := by
  simp only [peekOutboundMetadata, peekOutbound, hf, hdirection, h f hf]
  rfl

namespace OutboundState

variable {s s' : OutboundState} {e : DeliveryEndpoint} {key : DeliveryFlowKey}

theorem load_none (h : s.load e key = .ok none) : e.peekOutbound key = .ok none := by
  unfold load at h
  split at h
  · cases h
  · assumption
  · split at h
    · cases h
    · split at h
      · cases h
      · split at h
        · cases h
        · split at h
          · cases h
          · cases h

/-- Nothing is left to be written only where the queue is empty. -/
theorem nextSegment_none (h : s.nextSegment e key = .ok (.ok none, s')) :
    e.Drained key ∧ s' = s := by
  unfold nextSegment at h
  split at h
  · cases h
  · split at h
    · simp only [Checked.bind_eq_ok] at h
      obtain ⟨segment, -, h⟩ := h
      cases h
    · split at h
      · cases h
      · rename_i hload
        cases h
        exact ⟨DeliveryEndpoint.drained_of_peek (load_none hload), rfl⟩
      · simp only [Checked.bind_eq_ok] at h
        obtain ⟨segment, -, h⟩ := h
        cases h

end OutboundState

/-- The stream does not fail, and the peer does not stop it. -/
def SendStream.Acknowledges (io : SendStream) : Prop :=
  io.finishAck = none ∨ io.finishAck = some (.ok none)

namespace OutboundReliable

variable {b b' : OutboundReliable} {e e' : DeliveryEndpoint} {L : DeliveryScopeLimits}
  {registry registry' : AcceptedFlowRegistry} {io : SendStream}
  {r : Polled (Except SendError SendProgress)}

theorem requestFinishNormal_ok {finished : Except IoFailure Unit}
    (h : b.requestFinishNormal finished e = .ok (.ok (), b')) :
    e.Drained b.key ∧ b' = { b with finishing := true } := by
  unfold requestFinishNormal at h
  split at h
  · cases h
  · split at h
    · cases h
    · split at h
      · cases h
      · simp only [Checked.bind_eq_ok] at h
        obtain ⟨⟨segment, state⟩, hsegment, h⟩ := h
        split at h
        · cases h
        · cases h
        · rename_i heq
          cases heq
          obtain ⟨hdrained, rfl⟩ := OutboundState.nextSegment_none hsegment
          split at h
          · cases h
          · cases h
            exact ⟨hdrained, rfl⟩

/-- What is reported of a flow that ends normally with nothing pending. -/
def normalTermination (key : DeliveryFlowKey) : FlowTermination := ⟨key, .requested, 0, false⟩

/-- No step of the binding fails for data that was accepted later, and while the stream does not
fail, a step waits or ends the flow with the normal event. -/
structure EndsNormally (b : OutboundReliable) (e : DeliveryEndpoint)
    (registry : AcceptedFlowRegistry) : Prop where
  never : ∀ io b' e' registry',
    b.pollStep io e registry ≠ .ok (some (.error .pendingData), b', e', registry')
  normal : ∀ io r b' e' registry', io.Acknowledges → b.terminal = false →
    (e.flowContract b.key).isSome → b.pollStep io e registry = .ok (r, b', e', registry') →
    (r = none ∧ b' = b ∧ e' = e ∧ registry' = registry) ∨
      ∃ progress, r = some (.ok progress) ∧ ∀ flowId,
        mapReliableProgress (.outbound flowId progress) =
          some (.flowTerminated b.key .local .normal (some (normalTermination b.key)))

/-- The error of a failing step is the one it fails with. -/
theorem fail_error {error error' : SendError}
    (h : b.fail e registry error = .ok (some (.error error'), b', e', registry')) :
    error' = error := by
  unfold fail at h
  split at h
  · cases h
    rfl
  · simp only [Checked.bind_eq_ok] at h
    obtain ⟨_, -, h⟩ := h
    cases h
    rfl

theorem terminate_drained {f : FlowState} {res : Except DeliveryOperationError FlowTermination}
    (hi : e.Inv L) (hf : e.flows.get? b.key = some f) (hdirection : b.key.direction = .outbound)
    (hd : e.Drained b.key) (h : e.terminateFlow b.key .requested = .ok (res, e')) :
    res = .ok (normalTermination b.key) := by
  obtain ⟨e₁, hterm, -⟩ := DeliveryEndpoint.terminateFlow_spec hi hf .requested
  rw [h] at hterm
  cases hterm
  have hok := hi.flows b.key f hf
  have hpending : f.pendingMessages = 0 := by
    rw [hok.messages, FlowState.buffered, hd f hf, hok.shape.no_inbound hdirection]
    rfl
  simp [DeliveryEndpoint.terminationOf, normalTermination, hpending,
    FlowTerminationReason.forcesReliableFailure]

/-- A finishing binding of a flow with an empty queue ends it normally. -/
theorem endsNormally (hi : e.Inv L) (hfinishing : b.finishing = true)
    (hdirection : b.key.direction = .outbound) (hd : e.Drained b.key) :
    b.EndsNormally e registry where
  never := fun io b' e' registry' h => by
    unfold pollStep at h
    split at h
    · cases h
    · split at h
      · cases fail_error h
      · rename_i hcontract
        cases hf : e.flows.get? b.key with
        | none => exact hcontract (by simp [DeliveryEndpoint.flowContract, hf])
        | some f =>
          simp only [pollFinish, hd.peek hdirection hf] at h
          split at h
          · cases h
          · simp only [Checked.bind_eq_ok] at h
            obtain ⟨⟨res, e₁⟩, hterm, h⟩ := h
            cases terminate_drained hi hf hdirection hd hterm
            cases h
          · cases h
          · cases fail_error h
          · cases fail_error h
  normal := fun io r b' e' registry' hio hterminal hcontract h => by
    obtain ⟨⟨mode, policy⟩, hsome⟩ := Option.isSome_iff_exists.mp hcontract
    obtain ⟨f, hf, -⟩ := Option.map_eq_some_iff.mp hsome
    have hnone : (e.flowContract b.key).isNone = false := by rw [hsome]; rfl
    simp only [pollStep, hterminal, hnone, hfinishing, pollFinish, hd.peek hdirection hf,
      Bool.false_eq_true, if_false, if_true] at h
    split at h
    · cases h
      exact .inl ⟨rfl, rfl, rfl, rfl⟩
    · simp only [Checked.bind_eq_ok] at h
      obtain ⟨⟨res, e₁⟩, hterm, h⟩ := h
      cases terminate_drained hi hf hdirection hd hterm
      cases h
      exact .inr ⟨_, rfl, fun _ => rfl⟩
    all_goals
      rename_i hack
      rcases hio with hio | hio
      · rw [hio] at hack
        cases hack
      · rw [hio] at hack
        cases hack

end OutboundReliable

/-! ### Granted finishes -/

/-- A finish that was granted: the flow has nothing left to send, and its binding finishes. -/
structure Granted (e : DeliveryEndpoint) (key : DeliveryFlowKey) (driver : EstablishedConnectionDriver) :
    Prop where
  drained : e.Drained key
  binding : ∃ a ∈ driver.reliable.activeOutbound, a.binding.key = key ∧ a.binding.finishing = true

namespace EstablishedConnectionDriver

variable {d d' : EstablishedConnectionDriver} {e e' : DeliveryEndpoint} {alloc : Allocator}
  {finished : Except IoFailure Unit} {L : DeliveryScopeLimits}

theorem requestOutboundFinishNormal_started {flowId : FlowId}
    (h : d.requestOutboundFinishNormal alloc finished e flowId = .ok (.ok .started, d', e')) :
    e' = e ∧ ∃ a ∈ d.reliable.activeOutbound, a.flowId = flowId ∧
      Granted e a.binding.key d' := by
  unfold requestOutboundFinishNormal at h
  split at h
  · cases h
  · simp only [Checked.bind_eq_ok] at h
    obtain ⟨⟨answer, reliable⟩, hfinish, h⟩ := h
    cases answer with
    | ok _ =>
      cases h
      rcases ReliableConnectionIo.requestOutboundFinishNormal_cases hfinish with
        ⟨⟨err, herr⟩, -⟩ | ⟨index, active, res, binding, hactive, hflowId, hrequest, hres, rfl⟩
      · cases herr
      · cases res with
        | error err => cases hres
        | ok _ =>
          obtain ⟨hdrained, rfl⟩ := OutboundReliable.requestFinishNormal_ok hrequest
          exact ⟨rfl, active, List.mem_of_getElem? hactive, hflowId, hdrained, _,
            List.mem_set (List.getElem?_eq_some_iff.mp hactive).1 _, rfl, rfl⟩
    | error err =>
      simp only at h
      split at h
      · cases h
      · cases h
      · split at h
        · cases h
        · simp only [Checked.bind_eq_ok] at h
          obtain ⟨⟨applied, d₁, e₁⟩, -, h⟩ := h
          cases applied <;> cases h
      · cases h

end EstablishedConnectionDriver

namespace Connection

variable {c c' : Connection} {e e' : DeliveryEndpoint} {L : DeliveryScopeLimits}

/-- A finish of a reliable flow that returned `Ok`. -/
theorem finishOutboundFlowNormal_granted {t : CommandTransport} {key : DeliveryFlowKey}
    {policy : FlowResourcePolicy} (hs : (c.parts e).Sound L)
    (hreliable : e.flowContract key = some (.reliableOrdered, policy))
    (h : c.finishOutboundFlowNormal t e key = .ok (.ok (), c', e')) :
    key.direction = .outbound ∧ e' = e ∧ Granted e key c'.state.driver := by
  unfold finishOutboundFlowNormal at h
  split at h
  · cases h
  · split at h
    · cases h
    · rename_i hdirection
      split at h
      · cases h
      · rename_i driver hdriver
        rw [parts, driver_of_some hdriver] at hs
        rw [hreliable] at h
        simp only [Checked.bind_eq_ok] at h
        obtain ⟨⟨res, driver', e₁⟩, hfinish, h⟩ := h
        have hstarted : res = .ok .started := by
          cases res with
          | error err => cases err <;> cases h
          | ok outcome =>
            cases outcome with
            | started => rfl
            | flowFailureHandled => cases h
        subst hstarted
        cases h
        unfold EstablishedConnectionDriver.requestOutboundFinishNormalByKey at hfinish
        split at hfinish
        · cases hfinish
        · simp only at hfinish
          split at hfinish
          · cases hfinish
          · rename_i flowId hflowId
            simp only [Checked.bind_eq_ok] at hfinish
            obtain ⟨⟨started, d₁, e₂⟩, hrequest, hfinish⟩ := hfinish
            have hok : started = .ok .started := by
              cases started with
              | error err => cases hfinish
              | ok outcome =>
                cases hfinish
                rfl
            subst hok
            cases hfinish
            obtain ⟨rfl, a, ha, haid, hgranted⟩ :=
              EstablishedConnectionDriver.requestOutboundFinishNormal_started hrequest
            have hregistered := List.find?_some hflowId
            rw [Option.any_eq_true] at hregistered
            obtain ⟨flow, hf, hkey⟩ := hregistered
            have hkey : flow.key = key := by
              simp only [Bool.and_eq_true, decide_eq_true_eq] at hkey
              exact hkey.1.1
            have hbinding := hs.keys a ha flow (by rw [haid]; exact hf)
            rw [hkey] at hbinding
            rw [hbinding]
            exact ⟨by rw [← hbinding]; exact not_not.mp hdirection, rfl, hgranted⟩

end Connection

end RunenNet
