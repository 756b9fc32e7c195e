import RunenNet.Core.Delivery.ReliableFlow
import RunenNet.Foundation.Transition

/-!
# Reliable delivery end to end

A sender and a receiver of one reliable flow, each under any operations of its endpoint, and a
transport that delivers copies of committed transfers in any order, repeatedly or not at all.
What the receiver exposes is a prefix of what the sender accepted.
-/

namespace RunenNet

open Foundation

/-- The transfer of a message of a reliable flow. -/
def DeliveryTransfer.ofMessage (m : ExposedMessage) : DeliveryTransfer :=
  ⟨.reliableOrdered, m.acceptedIndex, m.payload⟩

/-- The messages carry the indices 0, 1, 2, … -/
def Numbered (l : List ExposedMessage) : Prop :=
  ∀ (i : Nat) (m : ExposedMessage), l[i]? = some m → m.acceptedIndex = i

theorem Numbered.nil : Numbered [] := nofun

theorem Numbered.append {l : List ExposedMessage} (h : Numbered l) (payload : List UInt8) :
    Numbered (l ++ [⟨l.length, payload⟩]) := fun i m hm => by
  rcases lt_or_ge i l.length with hi | hi
  · rw [List.getElem?_append_left hi] at hm
    exact h i m hm
  · rw [List.getElem?_append_right hi, List.getElem?_singleton] at hm
    split at hm
    · rename_i h0
      cases hm
      exact (Nat.sub_eq_zero_iff_le.mp h0).antisymm hi |>.symm
    · cases hm

theorem Numbered.indices {l : List ExposedMessage} (h : Numbered l) :
    l.map ExposedMessage.acceptedIndex = List.range l.length := by
  refine List.ext_getElem (by simp) fun i h1 h2 => ?_
  rw [List.getElem_map, List.getElem_range]
  exact h i _ (List.getElem?_eq_getElem _)

/-- A committed transfer stands at its own index. -/
theorem Numbered.getElem?_of_mem {accepted : List ExposedMessage} (h : Numbered accepted)
    {committed : List DeliveryTransfer}
    (hp : committed <+: accepted.map DeliveryTransfer.ofMessage) {t : DeliveryTransfer}
    (ht : t ∈ committed) : committed[t.acceptedIndex]? = some t := by
  obtain ⟨i, hi⟩ := List.mem_iff_getElem?.mp ht
  obtain ⟨rest, hrest⟩ := hp
  have hm : (accepted.map DeliveryTransfer.ofMessage)[i]? = some t := by
    rw [← hrest, List.getElem?_append_left (List.getElem?_eq_some_iff.mp hi).1, hi]
  rw [List.getElem?_map, Option.map_eq_some_iff] at hm
  obtain ⟨m, hm, rfl⟩ := hm
  rw [show (DeliveryTransfer.ofMessage m).acceptedIndex = i from h i m hm]
  exact hi

namespace DeliveryEndpoint

variable {L : DeliveryScopeLimits} {e e' : DeliveryEndpoint} {key : DeliveryFlowKey}
  {f : FlowState} {op : DeliveryOp} {reply : DeliveryReply} {opened : Bool}
  {accepted exposed : List ExposedMessage} {committed source : List DeliveryTransfer}

/-- The operation established the flow at `key`. -/
def opensOn (key : DeliveryFlowKey) : DeliveryOp → DeliveryReply → Bool
  | .establishFlow k _ _ _, .established (.ok ()) => k = key
  | _, _ => false

/-- One lifetime: the flow is established at most once, as a reliable one. -/
def OneLifetime (key : DeliveryFlowKey) (e : DeliveryEndpoint) (opened : Bool) (op : DeliveryOp) :
    Prop :=
  ∀ mode policy limits, op = .establishFlow key mode policy limits →
    (∃ f, e.flows.get? key = some f) ∨ opened = false ∧ mode = .reliableOrdered

/-- Without the flow, an operation is silent, and leaves it absent or opens its lifetime. -/
theorem Effect.lifetime (hx : Effect L e e' op reply) (hf : e.flows.get? key = none)
    (hl : OneLifetime key e opened op) :
    Silent key op reply ∧ (e'.flows.get? key = none ∨
      opened = false ∧ opensOn key op reply = true ∧
        ∃ policy, e'.flows.get? key = some (.new .reliableOrdered policy)) := by
  obtain ⟨hs, hnone | ⟨mode, policy, limits, rfl, rfl, hnew⟩⟩ := hx.absent hf
  · exact ⟨hs, .inl hnone⟩
  · rcases hl mode policy limits rfl with ⟨f, hsome⟩ | ⟨hopened, rfl⟩
    · rw [hf] at hsome
      cases hsome
    · exact ⟨hs, .inr ⟨hopened, decide_eq_true rfl, policy, hnew⟩⟩

/-! ### The sending side -/

/-- The sender's flow at `key` and what it accepted and handed over. -/
structure SenderSide (L : DeliveryScopeLimits) (key : DeliveryFlowKey) (e : DeliveryEndpoint)
    (opened : Bool) (accepted : List ExposedMessage) (committed : List DeliveryTransfer) :
    Prop where
  inv : e.Inv L
  unopened : opened = false → e.flows.get? key = none ∧ accepted = [] ∧ committed = []
  numbered : Numbered accepted
  handed : committed <+: accepted.map DeliveryTransfer.ofMessage
  mode : ∀ f, e.flows.get? key = some f → f.mode = .reliableOrdered
  queue : ∀ f, e.flows.get? key = some f →
    committed ++ f.outbound = accepted.map DeliveryTransfer.ofMessage
  next : ∀ f, e.flows.get? key = some f → ∀ i, f.nextAcceptedIndex = some i → i = accepted.length

theorem SenderSide.of_absent (hi : e.Inv L) (hnone : e.flows.get? key = none)
    (hu : opened = false → accepted = [] ∧ committed = []) (hn : Numbered accepted)
    (hc : committed <+: accepted.map DeliveryTransfer.ofMessage) :
    SenderSide L key e opened accepted committed := by
  have hno : ∀ {P : FlowState → Prop} f, e.flows.get? key = some f → P f := fun f hf => by
    rw [hnone] at hf
    cases hf
  exact ⟨hi, fun ho => ⟨hnone, hu ho⟩, hn, hc, hno, hno, hno⟩

theorem SenderSide.of_flow (hi : e.Inv L) (hf : e.flows.get? key = some f) (hn : Numbered accepted)
    (hm : f.mode = .reliableOrdered)
    (hq : committed ++ f.outbound = accepted.map DeliveryTransfer.ofMessage)
    (hnext : ∀ i, f.nextAcceptedIndex = some i → i = accepted.length) :
    SenderSide L key e true accepted committed := by
  have hone : ∀ {P : FlowState → Prop}, P f → ∀ g, e.flows.get? key = some g → P g :=
    fun hp g hg => by
      rw [hf] at hg
      cases hg
      exact hp
  refine ⟨hi, fun h => (Bool.noConfusion h), hn, ⟨f.outbound, hq⟩, hone hm, hone hq, hone hnext⟩

theorem SenderSide.opened_of_flow (hs : SenderSide L key e opened accepted committed)
    (hf : e.flows.get? key = some f) : opened = true := by
  cases hb : opened with
  | true => rfl
  | false =>
    rw [(hs.unopened hb).1] at hf
    cases hf

theorem SenderSide.exec (hs : SenderSide L key e opened accepted committed)
    (hl : OneLifetime key e opened op) (h : e.exec op = .ok (reply, e')) :
    SenderSide L key e' (opened || opensOn key op reply) (accepted ++ acceptedOn key op reply)
      (committed ++ committedOn key op reply) := by
  obtain ⟨hi', hx⟩ := exec_effect hs.inv h
  cases hf : e.flows.get? key with
  | none =>
    obtain ⟨hsilent, hafter⟩ := hx.lifetime hf hl
    rw [hsilent.accepted, hsilent.committed, List.append_nil, List.append_nil]
    rcases hafter with hnone | ⟨hopened, hopens, policy, hnew⟩
    · exact .of_absent hi' hnone (fun ho => (hs.unopened (Bool.or_eq_false_iff.mp ho).1).2)
        hs.numbered hs.handed
    · obtain ⟨-, rfl, rfl⟩ := hs.unopened hopened
      rw [hopens, Bool.or_true]
      exact .of_flow hi' hnew hs.numbered rfl rfl fun i hnext => by cases hnext; rfl
  | some f =>
    have hm := hs.mode f hf
    have hq := hs.queue f hf
    have hx := hx.reliableEffect hf hm
    rw [hs.opened_of_flow hf, Bool.true_or]
    generalize hg : e'.flows.get? key = after at hx
    cases hx with
    | kept hsilent =>
      rw [hsilent.accepted, hsilent.committed, List.append_nil, List.append_nil]
      exact .of_flow hi' hg hs.numbered hm hq (hs.next f hf)
    | @accepted index payload hnext ha hc _ =>
      obtain rfl := hs.next f hf index hnext
      rw [ha, hc, List.append_nil]
      refine .of_flow hi' hg (hs.numbered.append payload) hm ?_ fun i hi => ?_
      · rw [List.map_append, ← hq, List.append_assoc]
        exact congrArg (fun m => committed ++ (f.outbound ++ [m]))
          (show (⟨f.mode, accepted.length, payload⟩ : DeliveryTransfer) = _ by rw [hm]; rfl)
      · rw [List.length_append]
        exact (checkedAdd_eq_some.mp hi).2
    | @committed front rest hout ha hc _ =>
      rw [ha, hc, List.append_nil]
      refine .of_flow hi' hg hs.numbered hm ?_ (hs.next f hf)
      rw [← hq, hout, List.append_assoc]
      rfl
    | buffered _ _ _ hsilent =>
      rw [hsilent.accepted, hsilent.committed, List.append_nil, List.append_nil]
      exact .of_flow hi' hg hs.numbered hm hq (hs.next f hf)
    | exposed _ _ ha hc _ =>
      rw [ha, hc, List.append_nil, List.append_nil]
      exact .of_flow hi' hg hs.numbered hm hq (hs.next f hf)
    | ended hsilent _ =>
      rw [hsilent.accepted, hsilent.committed, List.append_nil, List.append_nil]
      exact .of_absent hi' hg (fun h => Bool.noConfusion h) hs.numbered hs.handed

/-! ### The receiving side -/

/-- The receiver's flow at `key`, what it exposed, and the transfers it may be given copies of. -/
structure ReceiverSide (L : DeliveryScopeLimits) (key : DeliveryFlowKey) (e : DeliveryEndpoint)
    (opened : Bool) (source : List DeliveryTransfer) (exposed : List ExposedMessage) : Prop where
  inv : e.Inv L
  unopened : opened = false → e.flows.get? key = none ∧ exposed = []
  shown : exposed <+: source.map DeliveryEndpoint.exposed
  mode : ∀ f, e.flows.get? key = some f → f.mode = .reliableOrdered
  buffered : ∀ f, e.flows.get? key = some f → ∀ byIndex next, f.receiver = .reliable byIndex next →
    ∀ i t, byIndex.get? i = some t → source[i]? = some t
  next : ∀ f, e.flows.get? key = some f → ∀ byIndex n, f.receiver = .reliable byIndex (some n) →
    n = exposed.length

/-- The receiver is only given copies of the source's transfers. -/
structure Honest (key : DeliveryFlowKey) (source : List DeliveryTransfer) (op : DeliveryOp) :
    Prop where
  receive : ∀ t, op = .receive key t → t ∈ source
  payload : ∀ index payload, op = .receiveTransportPayload key index payload →
    ⟨.reliableOrdered, index, payload⟩ ∈ source

/-- More transfers may be delivered. -/
theorem ReceiverSide.extend (hs : ReceiverSide L key e opened source exposed)
    (more : List DeliveryTransfer) : ReceiverSide L key e opened (source ++ more) exposed where
  inv := hs.inv
  unopened := hs.unopened
  shown := by
    rw [List.map_append]
    exact hs.shown.trans (List.prefix_append _ _)
  mode := hs.mode
  buffered := fun f hf byIndex next hr i t ht => by
    have h := hs.buffered f hf byIndex next hr i t ht
    rw [List.getElem?_append_left (List.getElem?_eq_some_iff.mp h).1, h]
  next := hs.next

/-- The message at the next index extends what was exposed. -/
theorem exposed_next (hp : exposed <+: source.map DeliveryEndpoint.exposed) {t : DeliveryTransfer}
    (ht : source[exposed.length]? = some t) :
    exposed ++ [DeliveryEndpoint.exposed t] <+: source.map DeliveryEndpoint.exposed := by
  obtain ⟨rest, hrest⟩ := hp
  have h : (exposed ++ rest)[exposed.length]? = some (DeliveryEndpoint.exposed t) := by
    rw [hrest, List.getElem?_map, ht]
    rfl
  rw [List.getElem?_append_right (le_refl _), Nat.sub_self] at h
  obtain ⟨rest', rfl⟩ := List.head?_eq_some_iff.mp (List.head?_eq_getElem? ▸ h)
  exact ⟨rest', by rw [List.append_assoc, List.singleton_append, hrest]⟩

theorem ReceiverSide.of_absent (hi : e.Inv L) (hnone : e.flows.get? key = none)
    (hu : opened = false → exposed = [])
    (hp : exposed <+: source.map DeliveryEndpoint.exposed) :
    ReceiverSide L key e opened source exposed := by
  have hno : ∀ {P : FlowState → Prop} f, e.flows.get? key = some f → P f := fun f hf => by
    rw [hnone] at hf
    cases hf
  exact ⟨hi, fun ho => ⟨hnone, hu ho⟩, hp, hno, hno, hno⟩

theorem ReceiverSide.of_flow (hi : e.Inv L) (hf : e.flows.get? key = some f)
    (hp : exposed <+: source.map DeliveryEndpoint.exposed) (hm : f.mode = .reliableOrdered)
    {byIndex : SortedMap Nat DeliveryTransfer} {next : Option Nat}
    (hr : f.receiver = .reliable byIndex next)
    (hb : ∀ i t, byIndex.get? i = some t → source[i]? = some t)
    (hnext : ∀ n, next = some n → n = exposed.length) :
    ReceiverSide L key e true source exposed := by
  have hone : ∀ {P : FlowState → Prop}, P f → ∀ g, e.flows.get? key = some g → P g :=
    fun hp g hg => by
      rw [hf] at hg
      cases hg
      exact hp
  refine ⟨hi, fun h => (Bool.noConfusion h), hp, hone hm, hone fun byIndex' next' hr' => ?_,
    hone fun byIndex' n hr' => ?_⟩
  · rw [hr] at hr'
    cases hr'
    exact hb
  · rw [hr] at hr'
    cases hr'
    exact hnext n rfl

theorem ReceiverSide.opened_of_flow (hs : ReceiverSide L key e opened source exposed)
    (hf : e.flows.get? key = some f) : opened = true := by
  cases hb : opened with
  | true => rfl
  | false =>
    rw [(hs.unopened hb).1] at hf
    cases hf

theorem ReceiverSide.exec (hs : ReceiverSide L key e opened source exposed)
    (hsource : ∀ t ∈ source, source[t.acceptedIndex]? = some t)
    (hl : OneLifetime key e opened op) (hh : Honest key source op)
    (h : e.exec op = .ok (reply, e')) :
    ReceiverSide L key e' (opened || opensOn key op reply) source
      (exposed ++ exposedOn key op reply) := by
  obtain ⟨hi', hx⟩ := exec_effect hs.inv h
  cases hf : e.flows.get? key with
  | none =>
    obtain ⟨hsilent, hafter⟩ := hx.lifetime hf hl
    rw [hsilent.exposed, List.append_nil]
    rcases hafter with hnone | ⟨hopened, hopens, policy, hnew⟩
    · exact .of_absent hi' hnone (fun ho => (hs.unopened (Bool.or_eq_false_iff.mp ho).1).2) hs.shown
    · obtain ⟨-, rfl⟩ := hs.unopened hopened
      rw [hopens, Bool.or_true]
      exact .of_flow hi' hnew hs.shown rfl rfl (fun i t ht => by cases ht)
        fun n hn => (Option.some.inj hn).symm
  | some f =>
    have hm := hs.mode f hf
    have hx := hx.reliableEffect hf hm
    obtain ⟨byIndex, next, hr⟩ := (hs.inv.flows key f hf).reliable hm
    have hb := hs.buffered f hf byIndex next hr
    have hnext : ∀ n, next = some n → n = exposed.length := fun n hn =>
      hs.next f hf byIndex n (hn ▸ hr)
    rw [hs.opened_of_flow hf, Bool.true_or]
    generalize hg : e'.flows.get? key = after at hx
    cases hx with
    | kept hsilent =>
      rw [hsilent.exposed, List.append_nil]
      exact .of_flow hi' hg hs.shown hm hr hb hnext
    | accepted _ _ _ hexp =>
      rw [hexp, List.append_nil]
      exact .of_flow hi' hg hs.shown hm hr hb hnext
    | committed _ _ _ hexp =>
      rw [hexp, List.append_nil]
      exact .of_flow hi' hg hs.shown hm hr hb hnext
    | @buffered byIndex' next' transfer hr' hop hdup hsilent =>
      rw [hr] at hr'
      cases hr'
      rw [hsilent.exposed, List.append_nil]
      have hmem : transfer ∈ source := by
        rcases hop with rfl | ⟨rfl, hmode⟩
        · exact hh.receive _ rfl
        · have := hh.payload _ _ rfl
          rwa [← hm, ← hmode] at this
      refine .of_flow hi' hg hs.shown hm rfl (fun i t ht => ?_) hnext
      rw [SortedMap.get?_insert] at ht
      split at ht
      · rename_i hi
        cases ht
        rw [hi]
        exact hsource _ hmem
      · exact hb i t ht
    | @exposed byIndex' expected transfer hr' ht _ _ hexp =>
      rw [hr] at hr'
      cases hr'
      rw [hexp]
      obtain rfl := hnext expected rfl
      refine .of_flow hi' hg (exposed_next hs.shown (hb _ _ ht)) hm rfl (fun i t hget => ?_)
        fun n hn => ?_
      · rw [SortedMap.get?_erase] at hget
        split at hget
        · cases hget
        · exact hb i t hget
      · rw [List.length_append]
        exact (checkedAdd_eq_some.mp hn).2
    | ended hsilent _ =>
      rw [hsilent.exposed, List.append_nil]
      exact .of_absent hi' hg (fun h => Bool.noConfusion h) hs.shown

/-! ### How messages leave -/

/-- A flow that ends with messages pending ends with its obligation failed. -/
theorem terminationOf_failed (hi : e.Inv L) (hf : e.flows.get? key = some f)
    (hm : f.mode = .reliableOrdered) {t : DeliveryTransfer} (ht : t ∈ f.buffered)
    (reason : FlowTerminationReason) :
    (terminationOf key f reason).reliableObligationFailed = true := by
  have hlen := List.length_pos_of_mem ht
  rw [← (hi.flows key f hf).messages] at hlen
  exact decide_eq_true ⟨hm, .inl hlen⟩

/-- The flow ended, with its obligation failed. -/
def EndedFailed (e e' : DeliveryEndpoint) (key : DeliveryFlowKey) (reply : DeliveryReply) : Prop :=
  e'.flows.get? key = none ∧ ∃ report, EndedWith e e' report reply ∧ report.key = key ∧
    report.reliableObligationFailed = true

/-- A message leaves the sender's queue by a custody commit or with the flow. -/
theorem leaves_queue_of (hi : e.Inv L) (hf : e.flows.get? key = some f)
    (hm : f.mode = .reliableOrdered) (h : e.exec op = .ok (reply, e')) {t : DeliveryTransfer}
    (ht : t ∈ f.outbound) :
    (∃ f', e'.flows.get? key = some f' ∧ t ∈ f'.outbound) ∨ committedOn key op reply = [t] ∨
      EndedFailed e e' key reply := by
  have hx := (exec_effect hi h).2.reliableEffect hf hm
  generalize hg : e'.flows.get? key = after at hx
  cases hx with
  | kept => exact .inl ⟨_, rfl, ht⟩
  | accepted => exact .inl ⟨_, rfl, List.mem_append_left _ ht⟩
  | committed hout _ hc _ =>
    rw [hout] at ht
    rcases List.mem_cons.mp ht with rfl | ht
    · exact .inr (.inl hc)
    · exact .inl ⟨_, rfl, ht⟩
  | buffered => exact .inl ⟨_, rfl, ht⟩
  | exposed => exact .inl ⟨_, rfl, ht⟩
  | ended _ hend =>
    exact .inr (.inr ⟨hg, _, hend, rfl,
      terminationOf_failed hi hf hm (List.mem_append_left _ ht) _⟩)

/-- A message leaves the receiver's buffer by an exposure or with the flow. -/
theorem leaves_buffer_of (hi : e.Inv L) (hf : e.flows.get? key = some f)
    (hm : f.mode = .reliableOrdered) (h : e.exec op = .ok (reply, e')) {t : DeliveryTransfer}
    (ht : t ∈ f.receiver.transfers) :
    (∃ f', e'.flows.get? key = some f' ∧ t ∈ f'.receiver.transfers) ∨
      exposedOn key op reply = [DeliveryEndpoint.exposed t] ∨ EndedFailed e e' key reply := by
  have hx := (exec_effect hi h).2.reliableEffect hf hm
  generalize hg : e'.flows.get? key = after at hx
  cases hx with
  | kept => exact .inl ⟨_, rfl, ht⟩
  | accepted => exact .inl ⟨_, rfl, ht⟩
  | committed => exact .inl ⟨_, rfl, ht⟩
  | @buffered byIndex next transfer hr _ hdup _ =>
    rw [hr] at ht
    obtain ⟨i, hget⟩ := SortedMap.mem_values.mp ht
    have hne : i ≠ transfer.acceptedIndex := by
      rintro rfl
      rw [(duplicateOrConflict_none hdup).1] at hget
      cases hget
    exact .inl ⟨_, rfl, SortedMap.mem_values.mpr
      ⟨i, (SortedMap.get?_insert_ne _ _ hne).trans hget⟩⟩
  | @exposed byIndex expected transfer hr hexpected _ _ hexp =>
    rw [hr] at ht
    obtain ⟨i, hget⟩ := SortedMap.mem_values.mp ht
    by_cases hne : i = expected
    · rw [hne, hexpected] at hget
      cases hget
      exact .inr (.inl hexp)
    · exact .inl ⟨_, rfl, SortedMap.mem_values.mpr
        ⟨i, (SortedMap.get?_erase_ne _ hne).trans hget⟩⟩
  | ended _ hend =>
    exact .inr (.inr ⟨hg, _, hend, rfl,
      terminationOf_failed hi hf hm (List.mem_append_right _ ht) _⟩)

/-- A copy of a source transfer never conflicts. -/
theorem ReceiverSide.no_conflict (hs : ReceiverSide L key e opened source exposed)
    (hsource : ∀ t ∈ source, source[t.acceptedIndex]? = some t)
    (hf : e.flows.get? key = some f) {byIndex : SortedMap Nat DeliveryTransfer}
    {next : Option Nat} (hr : f.receiver = .reliable byIndex next) {t : DeliveryTransfer}
    (ht : t ∈ source) : duplicateOrConflict byIndex next t ≠ some true := by
  unfold duplicateOrConflict
  split
  · exact nofun
  · cases hget : byIndex.get? t.acceptedIndex with
    | none => exact nofun
    | some t' =>
      have h1 := hs.buffered f hf byIndex next hr _ _ hget
      rw [hsource t ht] at h1
      cases h1
      simp

/-- A copy of a source transfer ends the flow only when it is too large or there is no room. -/
theorem ReceiverSide.receive_fails (hs : ReceiverSide L key e opened source exposed)
    (hsource : ∀ t ∈ source, source[t.acceptedIndex]? = some t) {t : DeliveryTransfer}
    (ht : t ∈ source) (hmode : t.mode = .reliableOrdered)
    (h : e.receive key t = .ok (.ok .terminalReliableFailure, e')) :
    ∃ f, e.flows.get? key = some f ∧
      (f.policy.maxMessageBytes.get < t.payloadLen ∨ ¬ e.HasRoom key f 1 t.payloadLen) := by
  obtain ⟨r, e'', h', -, hrec⟩ := receive_spec hs.inv key t
  rw [h, Except.ok.injEq, Prod.mk.injEq] at h'
  obtain ⟨rfl, rfl⟩ := h'
  cases hrec with
  | refused _ hne _ => exact absurd rfl hne
  | @reliable f _ hf _ _ hrec _ =>
    refine ⟨f, hf, ?_⟩
    cases hrec with
    | @failed reason hfails _ _ =>
      cases reason with
      | reliableModeMismatch => exact absurd (hmode.trans (hs.mode f hf).symm) hfails
      | reliableInboundTooLarge => exact .inl hfails
      | reliableTransferConflict =>
        obtain ⟨byIndex, next, hr, hdup⟩ := hfails
        exact absurd hdup (hs.no_conflict hsource hf hr ht)
      | reliableReceiverPressure => exact .inr hfails
      | requested => exact hfails.elim
      | connectionEnded => exact hfails.elim
      | reliableCustodyLost => exact hfails.elim
  | unreliable hf _ hne => exact absurd (hs.mode _ hf) hne

end DeliveryEndpoint

/-! ### Runs -/

/-- A sender and a receiver with what the one accepted and handed over and the other exposed. -/
structure ReliableRun where
  sender : DeliveryEndpoint
  receiver : DeliveryEndpoint
  senderOpened : Bool
  receiverOpened : Bool
  accepted : List ExposedMessage
  committed : List DeliveryTransfer
  exposed : List ExposedMessage

namespace ReliableRun

open DeliveryEndpoint

variable {ks kr : DeliveryFlowKey} {r r' : ReliableRun}

/-- Operations of the receiver: any, with copies of committed transfers. -/
structure ReceiverMay (kr : DeliveryFlowKey) (r : ReliableRun) (op : DeliveryOp) : Prop where
  lifetime : OneLifetime kr r.receiver r.receiverOpened op
  honest : Honest kr r.committed op

inductive Step (ks kr : DeliveryFlowKey) : ReliableRun → ReliableRun → Prop where
  | sender {r op reply sender'} : OneLifetime ks r.sender r.senderOpened op →
      r.sender.exec op = .ok (reply, sender') →
      Step ks kr r { r with
        sender := sender'
        senderOpened := r.senderOpened || opensOn ks op reply
        accepted := r.accepted ++ acceptedOn ks op reply
        committed := r.committed ++ committedOn ks op reply }
  | receiver {r op reply receiver'} : ReceiverMay kr r op →
      r.receiver.exec op = .ok (reply, receiver') →
      Step ks kr r { r with
        receiver := receiver'
        receiverOpened := r.receiverOpened || opensOn kr op reply
        exposed := r.exposed ++ exposedOn kr op reply }

/-- Two endpoints with any past, before the lifetime of either flow. -/
structure Starts (ks kr : DeliveryFlowKey) (r : ReliableRun) : Prop where
  sender : ∃ (L : DeliveryScopeLimits) (ops : List DeliveryOp),
    ops.foldlM step (new L) = .ok r.sender
  receiver : ∃ (L : DeliveryScopeLimits) (ops : List DeliveryOp),
    ops.foldlM step (new L) = .ok r.receiver
  no_sender : r.sender.flows.get? ks = none ∧ r.senderOpened = false
  no_receiver : r.receiver.flows.get? kr = none ∧ r.receiverOpened = false
  empty : r.accepted = [] ∧ r.committed = [] ∧ r.exposed = []

structure Inv (ks kr : DeliveryFlowKey) (r : ReliableRun) : Prop where
  sender : ∃ L, SenderSide L ks r.sender r.senderOpened r.accepted r.committed
  receiver : ∃ L, ReceiverSide L kr r.receiver r.receiverOpened r.committed r.exposed

theorem Inv.source (hi : Inv ks kr r) : ∀ t ∈ r.committed, r.committed[t.acceptedIndex]? = some t :=
  fun _ ht => by
    obtain ⟨L, hs⟩ := hi.sender
    exact hs.numbered.getElem?_of_mem hs.handed ht

theorem Inv.start (h : Starts ks kr r) : Inv ks kr r := by
  obtain ⟨⟨L, ops, hsender⟩, ⟨L', ops', hreceiver⟩, ⟨hks, -⟩, ⟨hkr, -⟩, ha, hc, he⟩ := h
  obtain ⟨e, h1, hi⟩ := run_spec (new_inv L) ops
  rw [hsender, Except.ok.injEq] at h1
  obtain ⟨e', h2, hi'⟩ := run_spec (new_inv L') ops'
  rw [hreceiver, Except.ok.injEq] at h2
  subst h1 h2
  exact ⟨⟨L, .of_absent hi hks (fun _ => ⟨ha, hc⟩) (ha ▸ Numbered.nil) (hc ▸ List.nil_prefix)⟩,
    ⟨L', .of_absent hi' hkr (fun _ => he) (he ▸ List.nil_prefix)⟩⟩

theorem Inv.step (hi : Inv ks kr r) (h : Step ks kr r r') : Inv ks kr r' := by
  obtain ⟨L, hs⟩ := hi.sender
  obtain ⟨L', hr⟩ := hi.receiver
  cases h with
  | sender hl hx => exact ⟨⟨L, hs.exec hl hx⟩, ⟨L', hr.extend _⟩⟩
  | receiver hmay hx => exact ⟨⟨L, hs⟩, ⟨L', hr.exec hi.source hmay.lifetime hmay.honest hx⟩⟩

/-- What reliable delivery promises in a state of a run. -/
structure Delivers (ks kr : DeliveryFlowKey) (r : ReliableRun) : Prop where
  indices : r.accepted.map ExposedMessage.acceptedIndex = List.range r.accepted.length
  exposed : r.exposed <+: r.accepted
  /-- The branch that ends the flow with a transfer conflict is not taken for any copy. -/
  no_conflict : ∀ t ∈ r.committed, ∀ f byIndex next, r.receiver.flows.get? kr = some f →
    f.receiver = .reliable byIndex next → duplicateOrConflict byIndex next t ≠ some true
  /-- A copy ends the flow only by its size or by pressure. -/
  receive_fails : ∀ t ∈ r.committed, ∀ receiver',
    r.receiver.receive kr t = .ok (.ok .terminalReliableFailure, receiver') →
    ∃ f, r.receiver.flows.get? kr = some f ∧
      (f.policy.maxMessageBytes.get < t.payloadLen ∨ ¬ r.receiver.HasRoom kr f 1 t.payloadLen)
  leaves_queue : ∀ op reply sender', r.sender.exec op = .ok (reply, sender') →
    ∀ f t, r.sender.flows.get? ks = some f → t ∈ f.outbound →
      (∃ f', sender'.flows.get? ks = some f' ∧ t ∈ f'.outbound) ∨ committedOn ks op reply = [t] ∨
        EndedFailed r.sender sender' ks reply
  leaves_buffer : ∀ op reply receiver', r.receiver.exec op = .ok (reply, receiver') →
    ∀ f t, r.receiver.flows.get? kr = some f → t ∈ f.receiver.transfers →
      (∃ f', receiver'.flows.get? kr = some f' ∧ t ∈ f'.receiver.transfers) ∨
        exposedOn kr op reply = [DeliveryEndpoint.exposed t] ∨
        EndedFailed r.receiver receiver' kr reply

theorem Inv.delivers (hi : Inv ks kr r) : Delivers ks kr r := by
  obtain ⟨L, hs⟩ := hi.sender
  obtain ⟨L', hr⟩ := hi.receiver
  refine ⟨hs.numbered.indices, ?_, ?_, ?_, ?_, ?_⟩
  · have hp := hr.shown.trans (hs.handed.map DeliveryEndpoint.exposed)
    rwa [List.map_map, show DeliveryEndpoint.exposed ∘ DeliveryTransfer.ofMessage = id from rfl,
      List.map_id] at hp
  · exact fun t ht f byIndex next hf hb => hr.no_conflict hi.source hf hb ht
  · intro t ht receiver' h
    refine hr.receive_fails hi.source ht ?_ h
    obtain ⟨m, -, rfl⟩ := List.mem_map.mp (hs.handed.subset ht)
    rfl
  · exact fun op reply sender' h f t hf ht => leaves_queue_of hs.inv hf (hs.mode f hf) h ht
  · exact fun op reply receiver' h f t hf ht => leaves_buffer_of hr.inv hf (hr.mode f hf) h ht

/-- Reliable delivery holds in every state of every run. -/
theorem reliable_delivery (h : Reachable (Starts ks kr) (Step ks kr) r) : Delivers ks kr r :=
  (h.invariant (P := Inv ks kr) (fun _ h => Inv.start h) fun _ _ hi hs => hi.step hs).delivers

/-! Two messages arrive in the wrong order, the second one twice, and are exposed. -/

def sampleLimits : DeliveryScopeLimits :=
  ⟨.nearest 4, .nearest 8, .nearest 64⟩

def samplePolicy : FlowResourcePolicy :=
  ⟨.nearest 16, .nearest 4, .nearest 64,
    .rejectNew, .terminateReliable⟩

def sampleSender : DeliveryFlowKey := ⟨⟨1⟩, .outbound, ⟨9⟩⟩

def sampleReceiver : DeliveryFlowKey := ⟨⟨1⟩, .inbound, ⟨9⟩⟩

def sampleStart : ReliableRun where
  sender := new sampleLimits
  receiver := new sampleLimits
  senderOpened := false
  receiverOpened := false
  accepted := []
  committed := []
  exposed := []

/-- A sender operation other than an establishment. -/
theorem next_sender (h : Reachable (Starts ks kr) (Step ks kr) r) (op : DeliveryOp)
    {reply : DeliveryReply} {sender' : DeliveryEndpoint}
    (hl : OneLifetime ks r.sender r.senderOpened op) (hx : r.sender.exec op = .ok (reply, sender')) :
    Reachable (Starts ks kr) (Step ks kr) { r with
        sender := sender'
        senderOpened := r.senderOpened || opensOn ks op reply
        accepted := r.accepted ++ acceptedOn ks op reply
        committed := r.committed ++ committedOn ks op reply } := h.next (.sender hl hx)

theorem next_receiver (h : Reachable (Starts ks kr) (Step ks kr) r) (op : DeliveryOp)
    {reply : DeliveryReply} {receiver' : DeliveryEndpoint} (hmay : ReceiverMay kr r op)
    (hx : r.receiver.exec op = .ok (reply, receiver')) :
    Reachable (Starts ks kr) (Step ks kr) { r with
        receiver := receiver'
        receiverOpened := r.receiverOpened || opensOn kr op reply
        exposed := r.exposed ++ exposedOn kr op reply } := h.next (.receiver hmay hx)

theorem sample_reachable : ∃ r,
    Reachable (Starts sampleSender sampleReceiver) (Step sampleSender sampleReceiver) r ∧
    r.exposed = [⟨0, [5]⟩, ⟨1, [6, 7]⟩] := by
  have h0 : Reachable (Starts sampleSender sampleReceiver) (Step sampleSender sampleReceiver)
      sampleStart := .start ⟨⟨_, [], rfl⟩, ⟨_, [], rfl⟩, ⟨rfl, rfl⟩, ⟨rfl, rfl⟩, rfl, rfl, rfl⟩
  have h1 := next_receiver h0
    (.establishFlow sampleReceiver .reliableOrdered samplePolicy sampleLimits)
    ⟨fun _ _ _ h => by cases h; exact .inr ⟨rfl, rfl⟩, nofun, nofun⟩ rfl
  have h2 := next_sender h1
    (.establishFlow sampleSender .reliableOrdered samplePolicy sampleLimits)
    (fun _ _ _ h => by cases h; exact .inr ⟨rfl, rfl⟩) rfl
  have h3 := next_sender h2 (.submit sampleSender [5]) nofun rfl
  have h4 := next_sender h3 (.submit sampleSender [6, 7]) nofun rfl
  have h5 := next_sender h4 (.commitOutboundCustody sampleSender 0) nofun rfl
  have h6 := next_sender h5 (.commitOutboundCustody sampleSender 1) nofun rfl
  have h7 := next_receiver h6 (.receive sampleReceiver ⟨.reliableOrdered, 1, [6, 7]⟩)
    ⟨nofun, fun t h => by cases h; decide, nofun⟩ rfl
  have h8 := next_receiver h7 (.receive sampleReceiver ⟨.reliableOrdered, 1, [6, 7]⟩)
    ⟨nofun, fun t h => by cases h; decide, nofun⟩ rfl
  have h9 := next_receiver h8 (.receiveTransportPayload sampleReceiver 0 [5])
    ⟨nofun, nofun, fun _ _ h => by cases h; decide⟩ rfl
  have h10 := next_receiver h9 (.pollExposure sampleReceiver) ⟨nofun, nofun, nofun⟩ rfl
  have h11 := next_receiver h10 (.pollExposure sampleReceiver) ⟨nofun, nofun, nofun⟩ rfl
  exact ⟨_, h11, rfl⟩

theorem reliable_delivery_sample : ∃ r : ReliableRun,
    r.exposed = [⟨0, [5]⟩, ⟨1, [6, 7]⟩] ∧ Delivers sampleSender sampleReceiver r := by
  obtain ⟨r, hr, he⟩ := sample_reachable
  exact ⟨r, he, reliable_delivery hr⟩

end ReliableRun

end RunenNet
