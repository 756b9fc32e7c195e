import RunenNet.Quic.BindingWork

/-!
# The work of the reliable streams

The streams of a connection are scheduled for registered outbound flows, acquired for scheduled
ones and else only stepped and dropped.
-/

namespace RunenNet

open Foundation
open ConnectionParts (Works)

theorem mem_of_mem_swapRemove {α : Type} {xs : List α} {index : Nat} {x : α}
    (h : x ∈ swapRemove xs index) : x ∈ xs := by
  unfold swapRemove at h
  split at h
  · exact h
  · rename_i last hlast
    rcases List.mem_or_eq_of_mem_set (List.dropLast_subset _ h) with hx | rfl
    · exact hx
    · exact List.mem_of_getLast? hlast

/-- A bound stream has the key of its registered flow. -/
theorem OutboundReliable.bind_ok {registry registry' : AcceptedFlowRegistry} {flowId : FlowId}
    {b : OutboundReliable} (h : bind registry flowId = (.ok b, registry')) :
    ∃ flow, registry.registeredFlow flowId = some flow ∧ b.key = flow.key := by
  unfold bind at h
  split at h
  · cases h
  · rename_i flow registry₁ hassociate
    split at h
    · cases h
    · cases h
      simp only [AcceptedFlowRegistry.associateOutbound, AcceptedFlowRegistry.associate]
        at hassociate
      split at hassociate
      · cases hassociate
      · rename_i registered hregistered
        refine ⟨registered, hregistered, ?_⟩
        split at hassociate
        · cases hassociate
        · split at hassociate
          · cases hassociate
          · split at hassociate
            · cases hassociate
              rfl
            all_goals cases hassociate

theorem OutboundReliable.bind_turns {registry registry' : AcceptedFlowRegistry} {flowId : FlowId}
    {r : Except SendError OutboundReliable} (h : bind registry flowId = (r, registry')) :
    registry.Turns registry' := by
  unfold bind at h
  split at h
  · rename_i hassociate
    cases h
    exact .associate hassociate
  · rename_i hassociate
    split at h
    · cases h
      exact .associate hassociate
    · cases h
      exact .associate hassociate

namespace ReliableConnectionIo

variable {io io' io'' : ReliableConnectionIo} {e e' : DeliveryEndpoint} {fc fc' : FlowControl}
  {t : ReliableTransport}

/-! ### Streams that are kept -/

namespace Keeps

theorem of_eq (hp : io'.pendingOutbound = io.pendingOutbound)
    (ha : io'.activeOutbound = io.activeOutbound) : io.Keeps io' :=
  ⟨fun _ h => hp ▸ h, fun a h => ⟨a, ha ▸ h, rfl, rfl⟩⟩

theorem refl : io.Keeps io := .of_eq rfl rfl

/-- A step of a binding that leaves its key keeps the streams. -/
theorem set {index : Nat} {before after : ActiveOutbound}
    (hbefore : io.activeOutbound[index]? = some before) (hid : after.flowId = before.flowId)
    (hkey : after.binding.key = before.binding.key) :
    io.Keeps { io with activeOutbound := io.activeOutbound.set index after } where
  pending := fun _ h => h
  active := fun a' ha' => by
    rcases List.mem_or_eq_of_mem_set ha' with hmem | rfl
    · exact ⟨a', hmem, rfl, rfl⟩
    · exact ⟨before, List.mem_of_getElem? hbefore, hid, hkey⟩

theorem removePending (index : Nat) : io.Keeps (io.removePendingOutbound index) :=
  ⟨fun _ h => mem_of_mem_swapRemove h, fun a h => ⟨a, h, rfl, rfl⟩⟩

theorem removeActive (index : Nat) : io.Keeps (io.removeActiveOutbound index) :=
  ⟨fun _ h => h, fun a h => ⟨a, mem_of_mem_swapRemove h, rfl, rfl⟩⟩

end Keeps

/-! ### Scheduling and acquiring -/

theorem scheduleOutbound_works {reservesActive reservesPending : Bool} {flow : EstablishedFlow}
    {r : Except ReliableIoError Unit}
    (h : io.scheduleOutbound reservesActive reservesPending fc flow = .ok (r, io')) :
    Works ⟨fc, io, e⟩ ⟨fc, io', e⟩ := by
  unfold scheduleOutbound at h
  split at h
  · cases h
    exact .refl
  · split at h
    · cases h
      exact .refl
    · rename_i hdirection
      split at h
      · cases h
        exact .refl
      · rename_i registered hregistered
        split at h
        · cases h
          exact .refl
        · rename_i hsame
          split at h
          · cases h
            exact .refl
          · split at h
            · cases h
              exact .refl
            · split at h
              · cases h
                exact .refl
              · split at h
                · cases h
                  exact .refl
                · simp only [Checked.bind_eq_ok] at h
                  obtain ⟨-, -, h⟩ := h
                  cases h
                  have hkey : registered.key = flow.key := by
                    by_contra hne
                    exact hsame (.inl hne)
                  exact .single (.schedules hregistered (by rw [hkey]; exact not_not.mp hdirection))

theorem pollOutboundAcquisitionFrom_works {next : Nat} {indices : List Nat}
    {r : Polled (Except ReliableIoError OutboundAcquisitionProgress)}
    (h : pollOutboundAcquisitionFrom t next indices io e fc = .ok (r, io', e', fc')) :
    Works ⟨fc, io, e⟩ ⟨fc', io', e'⟩ := by
  induction indices generalizing io with
  | nil =>
    cases h
    exact .keeps (.of_eq rfl rfl)
  | cons index rest ih =>
    simp only [pollOutboundAcquisitionFrom, Checked.bind_eq_ok] at h
    obtain ⟨flowId, hindex, h⟩ := h
    rw [Checked.expect_eq_ok] at hindex
    split at h
    · cases h
      exact .keeps (.removePending index)
    · split at h
      · exact ih h
      · cases h
        exact .keeps (.removePending index)
      · split at h
        · rename_i hbind
          cases h
          exact (Works.keeps (.removePending index)).trans (OutboundReliable.bind_turns hbind).works
        · rename_i binding registry hbind
          cases h
          obtain ⟨flow, hflow, hkey⟩ := OutboundReliable.bind_ok hbind
          -- the stream is bound before it leaves the streams that are awaited
          refine (Works.trans (.single (.acquires (List.mem_of_getElem? hindex) hflow hkey))
            (.keeps ?_)).trans (OutboundReliable.bind_turns hbind).works
          exact ⟨fun _ h => mem_of_mem_swapRemove h, fun a h => ⟨a, h, rfl, rfl⟩⟩

theorem pollOutboundAcquisition_works
    {r : Polled (Except ReliableIoError OutboundAcquisitionProgress)}
    (h : io.pollOutboundAcquisition t e fc = .ok (r, io', e', fc')) :
    Works ⟨fc, io, e⟩ ⟨fc', io', e'⟩ := by
  unfold pollOutboundAcquisition at h
  simp only at h
  split at h
  · cases h
    exact .refl
  · exact pollOutboundAcquisitionFrom_works h

theorem pollInboundAcquisition_keeps (t : ReliableTransport) :
    io.Keeps (io.pollInboundAcquisition t).2 := by
  unfold pollInboundAcquisition
  split
  · exact .refl
  · split
    · exact .refl
    · split
      · exact .refl
      · exact .of_eq rfl rfl
      · split
        · exact .refl
        · exact .of_eq rfl rfl

/-! ### Active bindings -/

theorem pollOutboundBindingFrom_works {len next : Nat} {indices : List Nat}
    {r : Polled (Except ReliableIoError ActiveReliableProgress)}
    (h : pollOutboundBindingFrom t len next indices io e fc = .ok (r, io', e', fc')) :
    Works ⟨fc, io, e⟩ ⟨fc', io', e'⟩ := by
  induction indices generalizing io e fc with
  | nil =>
    cases h
    exact .keeps (.of_eq rfl rfl)
  | cons index rest ih =>
    simp only [pollOutboundBindingFrom, Checked.bind_eq_ok] at h
    obtain ⟨⟨flowId, before⟩, hindex, ⟨res, binding, e₁, registry⟩, hstep, h⟩ := h
    rw [Checked.expect_eq_ok] at hindex
    have hwork := OutboundReliable.pollStep_work hstep
    have hset : io.Keeps { io with activeOutbound := io.activeOutbound.set index ⟨flowId, binding⟩ } :=
      .set hindex rfl hwork.key
    have hstepped : Works ⟨fc, io, e⟩ ⟨{ fc with registry := registry },
        { io with activeOutbound := io.activeOutbound.set index ⟨flowId, binding⟩ }, e₁⟩ :=
      ((Works.endpoint hwork.quiet).trans (.keeps hset)).trans hwork.turns.works
    refine hstepped.trans ?_
    simp only at h
    split at h
    · exact ih h
    · exact ih h
    · cases h
      exact .keeps (.removeActive index)
    · cases h
      exact .keeps (.of_eq rfl rfl)
    · cases h
      exact .keeps (.removeActive index)

theorem pollOutboundBinding_works {r : Polled (Except ReliableIoError ActiveReliableProgress)}
    (h : io.pollOutboundBinding t e fc = .ok (r, io', e', fc')) :
    Works ⟨fc, io, e⟩ ⟨fc', io', e'⟩ := by
  unfold pollOutboundBinding at h
  simp only at h
  split at h
  · cases h
    exact .refl
  · exact pollOutboundBindingFrom_works h

theorem pollInboundBindingFrom_works {len next : Nat} {indices : List Nat}
    {r : Polled (Except ReliableIoError ActiveReliableProgress)}
    (h : pollInboundBindingFrom t len next indices io e fc = .ok (r, io', e', fc')) :
    Works ⟨fc, io, e⟩ ⟨fc', io', e'⟩ := by
  induction indices generalizing io e fc with
  | nil =>
    cases h
    exact .keeps (.of_eq rfl rfl)
  | cons index rest ih =>
    simp only [pollInboundBindingFrom, Checked.bind_eq_ok] at h
    obtain ⟨before, -, ⟨res, binding, e₁, registry⟩, hstep, h⟩ := h
    obtain ⟨hquiet, hturns⟩ := InboundReliable.pollStep_work hstep
    have hset : io.Keeps { io with activeInbound := io.activeInbound.set index binding } :=
      .of_eq rfl rfl
    have hstepped : Works ⟨fc, io, e⟩ ⟨{ fc with registry := registry },
        { io with activeInbound := io.activeInbound.set index binding }, e₁⟩ :=
      ((Works.endpoint hquiet).trans (.keeps hset)).trans hturns.works
    refine hstepped.trans ?_
    simp only at h
    split at h
    · exact ih h
    · exact ih h
    · cases h
      exact .keeps (.of_eq rfl rfl)
    · cases h
      exact .keeps (.of_eq rfl rfl)
    · cases h
      exact .keeps (.of_eq rfl rfl)

theorem pollInboundBinding_works {r : Polled (Except ReliableIoError ActiveReliableProgress)}
    (h : io.pollInboundBinding t e fc = .ok (r, io', e', fc')) :
    Works ⟨fc, io, e⟩ ⟨fc', io', e'⟩ := by
  unfold pollInboundBinding at h
  simp only at h
  split at h
  · cases h
    exact .refl
  · exact pollInboundBindingFrom_works h

/-- What a finish does to the streams: at most one binding is asked. -/
theorem requestOutboundFinishNormal_cases {finished : Except IoFailure Unit} {flowId : FlowId}
    {r : Except ReliableIoError Unit}
    (h : io.requestOutboundFinishNormal finished e flowId = .ok (r, io')) :
    ((∃ err, r = .error (.state err)) ∧ io' = io) ∨
      ∃ (index : Nat) (active : ActiveOutbound) (res : Except SendError Unit)
        (binding : OutboundReliable), io.activeOutbound[index]? = some active ∧
        active.flowId = flowId ∧ active.binding.requestFinishNormal finished e = .ok (res, binding) ∧
        r = res.mapError (.outboundFinish flowId) ∧
        io' = { io with
          activeOutbound := io.activeOutbound.set index { active with binding := binding } } := by
  unfold requestOutboundFinishNormal at h
  split at h
  · cases h
    exact .inl ⟨⟨_, rfl⟩, rfl⟩
  · split at h
    · cases h
      exact .inl ⟨⟨_, rfl⟩, rfl⟩
    · rename_i index hindex
      simp only [Checked.bind_eq_ok] at h
      obtain ⟨active, hactive, ⟨res, binding⟩, hfinish, h⟩ := h
      rw [Checked.expect_eq_ok] at hactive
      cases h
      refine .inr ⟨index, active, res, binding, hactive, ?_, hfinish, rfl, rfl⟩
      obtain ⟨hlt, hfound, -⟩ := List.findIdx?_eq_some_iff_getElem.mp hindex
      rw [List.getElem?_eq_getElem hlt, Option.some.injEq] at hactive
      rw [← hactive]
      exact of_decide_eq_true hfound

theorem requestOutboundFinishNormal_keeps {finished : Except IoFailure Unit} {flowId : FlowId}
    {r : Except ReliableIoError Unit}
    (h : io.requestOutboundFinishNormal finished e flowId = .ok (r, io')) : io.Keeps io' := by
  rcases requestOutboundFinishNormal_cases h with ⟨-, rfl⟩ | ⟨index, active, res, binding, hindex,
    -, hfinish, -, rfl⟩
  · exact .refl
  · exact .set hindex rfl (OutboundReliable.requestFinishNormal_key hfinish)

end ReliableConnectionIo

end RunenNet
