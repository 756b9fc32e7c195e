import RunenNet.Core.Delivery.Endpoint
import RunenNet.Quic.Wire

/-!
# The registry of accepted flows

Which `FlowId` stands for which flow of the delivery endpoint, and whether a reliable one has
its stream.
-/

namespace RunenNet

open Foundation

inductive ReliableAssociationState where
  | unbound
  | outbound
  | inbound
  deriving DecidableEq, Repr

structure RegisteredFlow where
  key : DeliveryFlowKey
  mode : DeliveryMode
  maxMessageBytes : Nat
  reliableAssociation : Option ReliableAssociationState
  deriving DecidableEq, Repr

inductive RegistryError where
  | capacityExceeded
  | allocationFailed
  | duplicateFlowId
  | unknownFlowId
  | unknownCoreFlow
  | notReliable
  | outboundMessageLimitExceedsProfile
  | inboundMessageLimitCannotSupportProfile
  | wrongFlowSide
  | wrongDirection
  | alreadyAssociated
  deriving DecidableEq, Repr

/-- Keyed by the value of the `FlowId`. -/
structure AcceptedFlowRegistry where
  localSide : WireSide
  maxActive : Nat
  flows : SortedMap Nat RegisteredFlow

/-- Who opened the flows of a direction. -/
def WireSide.opens (localSide : WireSide) : FlowDirection → WireSide
  | .outbound => localSide
  | .inbound => localSide.opposite

namespace AcceptedFlowRegistry

def new (localSide : WireSide) (maxActive : NonZeroUsize) : AcceptedFlowRegistry :=
  ⟨localSide, maxActive.get, .empty⟩

/-- The contract of the flow cannot stand for the stable limit. -/
def limitError (direction : FlowDirection) (policyMax stableMax : Nat) : Option RegistryError :=
  match direction with
  | .outbound =>
    if policyMax > stableMax then some .outboundMessageLimitExceedsProfile else none
  | .inbound =>
    if policyMax < stableMax then some .inboundMessageLimitCannotSupportProfile else none

/-- `reserves` is the allocator's answer. -/
def registerConsumedAcceptedFlow (r : AcceptedFlowRegistry) (endpoint : DeliveryEndpoint)
    (flowId : FlowId) (key : DeliveryFlowKey) (stableMaxMessageBytes : NonZeroUsize)
    (reserves : Bool) : Except RegistryError Unit × AcceptedFlowRegistry :=
  if r.flows.contains flowId.value then (.error .duplicateFlowId, r)
  else if r.flows.size ≥ r.maxActive then (.error .capacityExceeded, r)
  else match endpoint.flowContract key with
    | none => (.error .unknownCoreFlow, r)
    | some (mode, policy) =>
      match limitError key.direction policy.maxMessageBytes.get stableMaxMessageBytes.get with
      | some err => (.error err, r)
      | none =>
        if flowId.side ≠ r.localSide.opens key.direction then (.error .wrongFlowSide, r)
        else if ¬ reserves then (.error .allocationFailed, r)
        else
          let association : Option ReliableAssociationState := match mode with
            | .reliableOrdered => some .unbound
            | .unreliableUnordered | .unreliableSequenced => none
          let flow : RegisteredFlow := ⟨key, mode, stableMaxMessageBytes.get, association⟩
          (.ok (), { r with flows := r.flows.insert flowId.value flow })

def registeredFlow (r : AcceptedFlowRegistry) (flowId : FlowId) : Option RegisteredFlow :=
  r.flows.get? flowId.value

def activeDirectionLen (r : AcceptedFlowRegistry) (direction : FlowDirection) : Nat :=
  (r.flows.values.filter fun f => f.key.direction = direction).length

/-- `associate`, of which `associate_outbound` and `associate_inbound` are the two uses. -/
def associate (r : AcceptedFlowRegistry) (flowId : FlowId) (direction : FlowDirection)
    (target : ReliableAssociationState) : Except RegistryError RegisteredFlow × AcceptedFlowRegistry :=
  match r.flows.get? flowId.value with
  | none => (.error .unknownFlowId, r)
  | some flow =>
    if flow.mode ≠ .reliableOrdered then (.error .notReliable, r)
    else if flow.key.direction ≠ direction then (.error .wrongDirection, r)
    else match flow.reliableAssociation with
      | some .unbound =>
        let flow := { flow with reliableAssociation := some target }
        (.ok flow, { r with flows := r.flows.insert flowId.value flow })
      | some .outbound | some .inbound => (.error .alreadyAssociated, r)
      | none => (.error .notReliable, r)

def associateOutbound (r : AcceptedFlowRegistry) (flowId : FlowId) :
    Except RegistryError RegisteredFlow × AcceptedFlowRegistry :=
  r.associate flowId .outbound .outbound

def associateInbound (r : AcceptedFlowRegistry) (flowId : FlowId) :
    Except RegistryError RegisteredFlow × AcceptedFlowRegistry :=
  r.associate flowId .inbound .inbound

def release (r : AcceptedFlowRegistry) (flowId : FlowId) : AcceptedFlowRegistry :=
  { r with flows := r.flows.erase flowId.value }

/-! ### What registering does -/

/-- A flow was registered: its side is the one of its direction, and its contract the
endpoint's. -/
theorem register_ok {r r' : AcceptedFlowRegistry} {endpoint : DeliveryEndpoint} {flowId : FlowId}
    {key : DeliveryFlowKey} {stable : NonZeroUsize} {reserves : Bool}
    (h : r.registerConsumedAcceptedFlow endpoint flowId key stable reserves = (.ok (), r')) :
    ∃ flow policy, r.flows.get? flowId.value = none ∧
      endpoint.flowContract key = some (flow.mode, policy) ∧ flow.key = key ∧
      flow.maxMessageBytes = stable.get ∧ flowId.side = r.localSide.opens key.direction ∧
      (flow.mode = .reliableOrdered → flow.reliableAssociation = some .unbound) ∧
      r' = { r with flows := r.flows.insert flowId.value flow } := by
  unfold registerConsumedAcceptedFlow at h
  split at h
  · cases h
  · rename_i hnew
    split at h
    · cases h
    · split at h
      · cases h
      · rename_i mode policy hcontract
        split at h
        · cases h
        · split at h
          · cases h
          · rename_i hside
            split at h
            · cases h
            · simp only [Prod.mk.injEq, true_and] at h
              refine ⟨_, policy, SortedMap.contains_eq_false.mp (by simpa using hnew), hcontract,
                rfl, rfl, by simpa using hside, ?_, h.symm⟩
              rintro rfl
              rfl

/-- An association changes at most the association of a registered flow. -/
theorem associate_cases {r r' : AcceptedFlowRegistry} {flowId : FlowId} {direction : FlowDirection}
    {target : ReliableAssociationState} {res : Except RegistryError RegisteredFlow}
    (h : r.associate flowId direction target = (res, r')) :
    r' = r ∨ ∃ flow, r.registeredFlow flowId = some flow ∧
      r' = { r with flows :=
        r.flows.insert flowId.value { flow with reliableAssociation := some target } } := by
  unfold associate at h
  split at h
  · cases h
    exact .inl rfl
  · rename_i flow hflow
    split at h
    · cases h
      exact .inl rfl
    · split at h
      · cases h
        exact .inl rfl
      · split at h
        · cases h
          exact .inr ⟨flow, hflow, rfl⟩
        · cases h
          exact .inl rfl
        · cases h
          exact .inl rfl
        · cases h
          exact .inl rfl

/-- A refused registration changes nothing. -/
theorem register_error {r r' : AcceptedFlowRegistry} {endpoint : DeliveryEndpoint}
    {flowId : FlowId} {key : DeliveryFlowKey} {stable : NonZeroUsize} {reserves : Bool}
    {err : RegistryError}
    (h : r.registerConsumedAcceptedFlow endpoint flowId key stable reserves = (.error err, r')) :
    r' = r := by
  unfold registerConsumedAcceptedFlow at h
  repeat' split at h
  all_goals
    first
    | exact (congrArg Prod.snd h).symm
    | cases h

/-! ### Counting by direction -/

theorem activeDirectionLen_eq_sum (r : AcceptedFlowRegistry) (direction : FlowDirection) :
    r.activeDirectionLen direction =
      r.flows.sum fun _ f => if f.key.direction = direction then 1 else 0 := by
  rw [← SortedMap.sum_values fun f : RegisteredFlow => if f.key.direction = direction then 1 else 0,
    activeDirectionLen]
  induction r.flows.values with
  | nil => rfl
  | cons f fs ih =>
    rw [List.map_cons, List.sum_cons, ← ih]
    by_cases hd : f.key.direction = direction
    · simp [hd, Nat.add_comm]
    · simp [hd]

/-- Every registered flow has one of the two directions. -/
theorem size_eq_directions (r : AcceptedFlowRegistry) :
    r.flows.size = r.activeDirectionLen .outbound + r.activeDirectionLen .inbound := by
  rw [activeDirectionLen_eq_sum, activeDirectionLen_eq_sum, ← SortedMap.sum_add,
    SortedMap.size_eq_sum]
  refine SortedMap.sum_congr fun _ f _ => ?_
  cases f.key.direction <;> rfl

theorem activeDirectionLen_insert (r : AcceptedFlowRegistry) {v : Nat} (flow : RegisteredFlow)
    (direction : FlowDirection) (h : r.flows.get? v = none) :
    ({ r with flows := r.flows.insert v flow } : AcceptedFlowRegistry).activeDirectionLen direction =
      (if flow.key.direction = direction then 1 else 0) + r.activeDirectionLen direction := by
  simp only [activeDirectionLen_eq_sum, SortedMap.sum_insert, SortedMap.erase_of_get?_none h]

theorem activeDirectionLen_replace (r : AcceptedFlowRegistry) {v : Nat} {flow : RegisteredFlow}
    (flow' : RegisteredFlow) (direction : FlowDirection) (h : r.flows.get? v = some flow)
    (hkey : flow'.key = flow.key) :
    ({ r with flows := r.flows.insert v flow' } : AcceptedFlowRegistry).activeDirectionLen
      direction = r.activeDirectionLen direction := by
  simp only [activeDirectionLen_eq_sum, SortedMap.sum_insert, hkey]
  have hsum := SortedMap.sum_of_get?
    (fun _ f => if f.key.direction = direction then 1 else 0) h
  exact hsum.symm

theorem activeDirectionLen_release (r : AcceptedFlowRegistry) (flowId : FlowId)
    (direction : FlowDirection) :
    (r.release flowId).activeDirectionLen direction ≤ r.activeDirectionLen direction := by
  rw [activeDirectionLen_eq_sum, activeDirectionLen_eq_sum]
  have hsplit := r.flows.sum_split
    (fun _ f => if f.key.direction = direction then 1 else 0) flowId.value
  rw [hsplit]
  exact Nat.le_add_left _ _

/-- Only a full registry is out of capacity. -/
theorem register_room (r : AcceptedFlowRegistry) (endpoint : DeliveryEndpoint) (flowId : FlowId)
    (key : DeliveryFlowKey) (stable : NonZeroUsize) (reserves : Bool)
    (h : r.flows.size < r.maxActive) :
    (r.registerConsumedAcceptedFlow endpoint flowId key stable reserves).1 ≠
      .error .capacityExceeded := by
  unfold registerConsumedAcceptedFlow
  split
  · nofun
  · rw [if_neg (not_le.mpr h)]
    split
    · nofun
    · split
      · rename_i err hlimit
        unfold limitError at hlimit
        split at hlimit <;> split at hlimit <;> cases hlimit <;> nofun
      · split
        · nofun
        · split <;> nofun

/-- Only the allocator fails an allocation. -/
theorem register_refused {r r' : AcceptedFlowRegistry} {endpoint : DeliveryEndpoint}
    {flowId : FlowId} {key : DeliveryFlowKey} {stable : NonZeroUsize} {reserves : Bool}
    (h : r.registerConsumedAcceptedFlow endpoint flowId key stable reserves =
      (.error .allocationFailed, r')) : reserves = false := by
  unfold registerConsumedAcceptedFlow at h
  split at h
  · cases h
  · split at h
    · cases h
    · split at h
      · cases h
      · split at h
        · rename_i err hlimit
          cases h
          unfold limitError at hlimit
          split at hlimit <;> split at hlimit <;> cases hlimit
        · split at h
          · cases h
          · split at h
            · rename_i hreserves
              simpa using hreserves
            · cases h

end AcceptedFlowRegistry

end RunenNet
