import RunenNet.Core.Delivery.Counters
import Mathlib.Algebra.BigOperators.Group.Finset.Piecewise

/-!
# Unreliable messages are conserved, evictions apart

A history keeps a ledger for every flow key: the messages taken in, handed on and discarded when
a flow ended, and what the diagnostic counters recorded while an operation worked on the flow.
The ledger balances with what waits in the flow, except that a futile submission evicts messages
it never counts.
-/

namespace RunenNet

open Foundation

/-- The flow an operation works on; ending a connection works on many. -/
def DeliveryOp.key? : DeliveryOp → Option DeliveryFlowKey
  | .establishFlow key _ _ _ => some key
  | .associateFlowWithSession key _ _ => some key
  | .submit key _ => some key
  | .commitOutboundCustody key _ => some key
  | .receive key _ => some key
  | .receiveTransportPayload key _ _ => some key
  | .pollExposure key => some key
  | .terminateFlow key _ => some key
  | .failReliableCustody key => some key
  | .terminateConnection _ => none

def DeliveryOp.concerns (op : DeliveryOp) (key : DeliveryFlowKey) : Bool :=
  match op with
  | .terminateConnection connection => key.connection = connection
  | op => op.key? = some key

/-- What is known of the unreliable messages of one flow key. -/
structure FlowLedger where
  taken : Nat
  handled : Nat
  discarded : Nat
  dropped : Nat
  stale : Nat
  deriving DecidableEq, Repr

namespace FlowLedger

def empty : FlowLedger := ⟨0, 0, 0, 0, 0⟩

def post (l entry : FlowLedger) : FlowLedger :=
  ⟨l.taken + entry.taken, l.handled + entry.handled, l.discarded + entry.discarded,
    l.dropped + entry.dropped, l.stale + entry.stale⟩

end FlowLedger

namespace DeliveryEndpoint

/-- The operation evicts messages that are not counted. -/
def Futile (e : DeliveryEndpoint) : DeliveryOp → Prop
  | .submit key payload => e.FutileSubmit key payload
  | _ => False

/-- What an operation from `e` to `e'` adds to the ledger of a flow it concerns. -/
def entry (e e' : DeliveryEndpoint) (op : DeliveryOp) (reply : DeliveryReply)
    (key : DeliveryFlowKey) : FlowLedger where
  taken := e.taken op reply
  handled := e.handled op reply
  discarded := e.discarded e' key
  dropped := e'.diagnostics.drops key.direction - e.diagnostics.drops key.direction
  stale := e'.diagnostics.staleSequencedDrops - e.diagnostics.staleSequencedDrops

/-- The ledgers after an operation from `e` to `e'`. -/
def posted (e e' : DeliveryEndpoint) (op : DeliveryOp) (reply : DeliveryReply)
    (ledger : DeliveryFlowKey → FlowLedger) (key : DeliveryFlowKey) : FlowLedger :=
  if op.concerns key then (ledger key).post (e.entry e' op reply key) else ledger key

end DeliveryEndpoint

/-- An endpoint and the ledgers of its flow keys. -/
structure DeliveryHistory where
  endpoint : DeliveryEndpoint
  ledger : DeliveryFlowKey → FlowLedger

namespace DeliveryHistory

def start (limits : DeliveryScopeLimits) : DeliveryHistory := ⟨.new limits, fun _ => .empty⟩

def step (t : DeliveryHistory) (op : DeliveryOp) : Checked DeliveryHistory := do
  let (reply, e) ← t.endpoint.exec op
  return ⟨e, t.endpoint.posted e op reply t.ledger⟩

def run (limits : DeliveryScopeLimits) (ops : List DeliveryOp) : Checked DeliveryHistory :=
  ops.foldlM step (start limits)

/-- No counter has reached its bound. -/
structure Unsaturated (t : DeliveryHistory) : Prop where
  drops : ∀ d, t.endpoint.diagnostics.drops d < usizeMax
  stale : t.endpoint.diagnostics.staleSequencedDrops < usizeMax

/-- Every message taken in waits, was handed on, was discarded with its flow, or was counted. -/
def Conserved (t : DeliveryHistory) (key : DeliveryFlowKey) : Prop :=
  (t.ledger key).taken = t.endpoint.waiting key + (t.ledger key).handled +
    (t.ledger key).discarded + (t.ledger key).dropped + (t.ledger key).stale

instance (t : DeliveryHistory) (key : DeliveryFlowKey) : Decidable (t.Conserved key) :=
  inferInstanceAs (Decidable (_ = _))

/-- The counters are the sums of what the ledgers of the keys in `keys` say. -/
structure Attributed (t : DeliveryHistory) (keys : Finset DeliveryFlowKey) : Prop where
  drops : ∀ d, ∑ key ∈ keys with key.direction = d, (t.ledger key).dropped =
    t.endpoint.diagnostics.drops d
  stale : ∑ key ∈ keys, (t.ledger key).stale = t.endpoint.diagnostics.staleSequencedDrops

end DeliveryHistory

/-! ### One step -/

theorem DeliveryOp.concerns_key {op : DeliveryOp} {key : DeliveryFlowKey} (h : op.key? = some key)
    (k : DeliveryFlowKey) : op.concerns k = decide (k = key) := by
  cases op with
  | terminateConnection connection => cases h
  | _ =>
    cases h
    simp [concerns, key?, eq_comm]

namespace DeliveryEndpoint

variable {L : DeliveryScopeLimits} {e e' : DeliveryEndpoint} {op : DeliveryOp}
  {reply : DeliveryReply} {key : DeliveryFlowKey}

/-- What every operation does to the flows and the counters. -/
structure StepSettles (e e' : DeliveryEndpoint) (op : DeliveryOp) (reply : DeliveryReply)
    (drops stale lost : Nat) : Prop where
  counts : ∀ key, op.key? = some key →
    Counts key.direction drops stale e.diagnostics e'.diagnostics
  quiet : op.key? = none → e'.diagnostics = e.diagnostics ∧ drops = 0 ∧ stale = 0
  lost_iff : lost = 0 ↔ ¬ e.Futile op
  balance : ∀ key, op.concerns key = true → e.waiting key + e.taken op reply =
    e'.waiting key + e.handled op reply + e.discarded e' key + drops + stale + lost
  others : ∀ key, op.concerns key = false → e'.flows.get? key = e.flows.get? key

theorem Settles.step {drops stale lost : Nat}
    (h : Settles e e' key (e.taken op reply) (e.handled op reply) drops stale lost)
    (hkey : op.key? = some key) (hlost : lost = 0 ↔ ¬ e.Futile op) :
    StepSettles e e' op reply drops stale lost where
  counts := by
    intro k hk
    rw [hkey] at hk
    cases hk
    exact h.counts
  quiet := by
    intro hk
    rw [hkey] at hk
    cases hk
  lost_iff := hlost
  balance := by
    intro k hk
    rw [op.concerns_key hkey, decide_eq_true_eq] at hk
    subst hk
    exact h.balance
  others := by
    intro k hk
    rw [op.concerns_key hkey, decide_eq_false_iff_not] at hk
    exact h.others k hk

theorem exec_settles (hi : e.Inv L) (h : e.exec op = .ok (reply, e')) :
    ∃ drops stale lost, StepSettles e e' op reply drops stale lost := by
  have hsane : (0 : Nat) = 0 ↔ ¬ False := by simp
  cases op with
  | establishFlow key mode policy limits =>
    obtain ⟨⟨r, e₁⟩, hx, h⟩ := Checked.bind_eq_ok.mp h
    cases h
    exact ⟨_, _, _, (establishFlow_settles hi key mode policy limits hx).step rfl hsane⟩
  | associateFlowWithSession key session limits =>
    obtain ⟨⟨r, e₁⟩, hx, h⟩ := Checked.bind_eq_ok.mp h
    cases h
    exact ⟨_, _, _, (associate_settles hi key session limits hx).step rfl hsane⟩
  | submit key payload =>
    obtain ⟨⟨r, e₁⟩, hx, h⟩ := Checked.bind_eq_ok.mp h
    cases h
    obtain ⟨drops, lost, hs, hlost⟩ := submit_settles hi key payload hx
    exact ⟨_, _, _, hs.step rfl hlost⟩
  | commitOutboundCustody key acceptedIndex =>
    obtain ⟨⟨r, e₁⟩, hx, h⟩ := Checked.bind_eq_ok.mp h
    cases h
    exact ⟨_, _, _, (commit_settles hi key acceptedIndex hx).step rfl hsane⟩
  | receive key transfer =>
    obtain ⟨⟨r, e₁⟩, hx, h⟩ := Checked.bind_eq_ok.mp h
    cases h
    obtain ⟨drops, stale, hs⟩ := receive_settles hi key transfer hx
    exact ⟨_, _, _, hs.step rfl hsane⟩
  | receiveTransportPayload key acceptedIndex payload =>
    obtain ⟨⟨r, e₁⟩, hx, h⟩ := Checked.bind_eq_ok.mp h
    cases h
    obtain ⟨drops, stale, hs⟩ := receivePayload_settles hi key acceptedIndex payload hx
    exact ⟨_, _, _, hs.step rfl hsane⟩
  | pollExposure key =>
    obtain ⟨⟨r, e₁⟩, hx, h⟩ := Checked.bind_eq_ok.mp h
    cases h
    obtain ⟨stale, hs⟩ := poll_settles hi key hx
    exact ⟨_, _, _, hs.step rfl hsane⟩
  | terminateFlow key reason =>
    obtain ⟨⟨r, e₁⟩, hx, h⟩ := Checked.bind_eq_ok.mp h
    cases h
    obtain ⟨r', e₂, hx', -, ht⟩ := terminateFlow_total hi key reason
    rw [hx] at hx'
    cases hx'
    exact ⟨_, _, _, (terminated_settles ht).step rfl hsane⟩
  | failReliableCustody key =>
    obtain ⟨⟨r, e₁⟩, hx, h⟩ := Checked.bind_eq_ok.mp h
    cases h
    obtain ⟨r', e₂, hx', -, ht⟩ := failReliableCustody_spec hi key
    rw [hx] at hx'
    cases hx'
    exact ⟨_, _, _, (terminated_settles ht).step rfl hsane⟩
  | terminateConnection connection =>
    obtain ⟨⟨reports, e₁⟩, hx, h⟩ := Checked.bind_eq_ok.mp h
    cases h
    obtain ⟨reports', e₂, hx', hr⟩ := terminateConnection_spec hi connection
    rw [hx] at hx'
    cases hx'
    have hmem : ∀ k, k ∈ (e.flows.keys.filter fun key => key.connection = connection) ↔
        (∃ f, e.flows.get? k = some f) ∧
          (DeliveryOp.terminateConnection connection).concerns k = true := by
      intro k
      rw [List.mem_filter, SortedMap.mem_keys]
      rfl
    refine ⟨0, 0, 0, nofun, fun _ => ⟨terminateKeys_diagnostics hx, rfl, rfl⟩, hsane, ?_, ?_⟩
    · intro k hk
      cases hf : e.flows.get? k with
      | some f => exact removed_settles hr ((hmem k).mpr ⟨⟨f, hf⟩, hk⟩)
      | none =>
        have hnot : ¬ ∃ f, e.flows.get? k = some f := by simp [hf]
        have hf' := (hr.kept k fun h => hnot ((hmem k).mp h).1).trans hf
        rw [waiting_none hf, waiting_none hf', discarded_none hf', waiting_none hf]
        rfl
    · intro k hk
      refine hr.kept k fun h => ?_
      rw [((hmem k).mp h).2] at hk
      cases hk

end DeliveryEndpoint

/-! ### Whole runs -/

namespace DeliveryHistory

variable {L : DeliveryScopeLimits} {t t' : DeliveryHistory} {op : DeliveryOp}
  {key : DeliveryFlowKey}

/-- The ledger of a flow accounts for all but `n` of the messages taken in. -/
def Short (t : DeliveryHistory) (key : DeliveryFlowKey) (n : Nat) : Prop :=
  (t.ledger key).taken = t.endpoint.waiting key + (t.ledger key).handled +
    (t.ledger key).discarded + (t.ledger key).dropped + (t.ledger key).stale + n

theorem short_conserved {n : Nat} (h : t.Short key n) : t.Conserved key ↔ n = 0 := by
  unfold Short at h
  unfold Conserved
  omega

/-- What an operation leaves of a history. -/
structure Steps (t t' : DeliveryHistory) (op : DeliveryOp) : Prop where
  unsaturated : t'.Unsaturated → t.Unsaturated
  short : t'.Unsaturated → ∃ lost, (lost = 0 ↔ ¬ t.endpoint.Futile op) ∧
    ∀ key n, t.Short key n → t'.Short key (n + if op.concerns key then lost else 0)
  attributed : t'.Unsaturated → ∀ keys, (∀ key, op.key? = some key → key ∈ keys) →
    t.Attributed keys → t'.Attributed keys

theorem unsaturated_mono {drops stale lost : Nat} {e e' : DeliveryEndpoint} {reply : DeliveryReply}
    {l l' : DeliveryFlowKey → FlowLedger}
    (h : e.StepSettles e' op reply drops stale lost) (hu : Unsaturated ⟨e', l'⟩) :
    Unsaturated ⟨e, l⟩ := by
  obtain ⟨hdrops, hstale⟩ := hu
  simp only at hdrops hstale
  cases hkey : op.key? with
  | none =>
    obtain ⟨hd, -, -⟩ := h.quiet hkey
    rw [hd] at hdrops hstale
    exact ⟨hdrops, hstale⟩
  | some key =>
    have hc := h.counts key hkey
    refine ⟨fun d => ?_, ?_⟩
    · have hlt := hdrops d
      by_cases hd : d = key.direction
      · subst hd
        have hsum := hc.drops hlt
        simp only
        omega
      · rw [hc.others d hd] at hlt
        exact hlt
    · have hsum := hc.stale hstale
      simp only
      omega

/-- The ledger entry of an operation records what the counters say of it. -/
theorem entry_counts {drops stale lost : Nat} {e e' : DeliveryEndpoint} {reply : DeliveryReply}
    {l : DeliveryFlowKey → FlowLedger} (h : e.StepSettles e' op reply drops stale lost)
    (hu : Unsaturated ⟨e', l⟩) (hkey : op.concerns key = true) :
    (e.entry e' op reply key).dropped = drops ∧ (e.entry e' op reply key).stale = stale := by
  obtain ⟨hdrops, hstale⟩ := hu
  simp only at hdrops hstale
  simp only [DeliveryEndpoint.entry]
  cases hop : op.key? with
  | none =>
    obtain ⟨hd, rfl, rfl⟩ := h.quiet hop
    rw [hd]
    omega
  | some k =>
    rw [op.concerns_key hop, decide_eq_true_eq] at hkey
    subst hkey
    have hc := h.counts key hop
    have hsum := hc.drops (hdrops _)
    have hsum' := hc.stale hstale
    omega

/-- A sum changes by what one of its terms does. -/
theorem sum_bump {α : Type} [DecidableEq α] {keys : Finset α} {a b : α → Nat} {k : α} {n : Nat}
    (hself : b k = a k + n) (hother : ∀ k', k' ≠ k → b k' = a k') (hk : k ∈ keys) :
    ∑ k' ∈ keys, b k' = ∑ k' ∈ keys, a k' + n := by
  have hb : ∀ k' ∈ keys, b k' = a k' + if k' = k then n else 0 := by
    intro k' _
    by_cases heq : k' = k
    · rw [heq, if_pos rfl, hself]
    · rw [if_neg heq, hother k' heq, Nat.add_zero]
  rw [Finset.sum_congr rfl hb, Finset.sum_add_distrib, Finset.sum_ite_eq', if_pos hk]

theorem short_step {drops stale lost n : Nat} {e e' : DeliveryEndpoint} {reply : DeliveryReply}
    {l : DeliveryFlowKey → FlowLedger} (h : e.StepSettles e' op reply drops stale lost)
    (hu : Unsaturated ⟨e', e.posted e' op reply l⟩) (hshort : Short ⟨e, l⟩ key n) :
    Short ⟨e', e.posted e' op reply l⟩ key (n + if op.concerns key then lost else 0) := by
  unfold Short at hshort ⊢
  simp only [DeliveryEndpoint.posted] at hshort ⊢
  by_cases hkey : op.concerns key = true
  · obtain ⟨hdropped, hstale⟩ := entry_counts h hu hkey
    have hbalance := h.balance key hkey
    simp only [if_pos hkey, FlowLedger.post, hdropped, hstale]
    simp only [DeliveryEndpoint.entry]
    omega
  · have hother : e'.waiting key = e.waiting key := by
      unfold DeliveryEndpoint.waiting
      rw [h.others key (Bool.eq_false_iff.mpr hkey)]
    rw [if_neg hkey, if_neg hkey, hother]
    exact hshort

/-- An operation on no single flow adds nothing to what the ledgers say of the counters. -/
theorem posted_quiet {e e' : DeliveryEndpoint} {reply : DeliveryReply}
    {l : DeliveryFlowKey → FlowLedger} (hd : e'.diagnostics = e.diagnostics)
    (k : DeliveryFlowKey) : (e.posted e' op reply l k).dropped = (l k).dropped ∧
      (e.posted e' op reply l k).stale = (l k).stale := by
  unfold DeliveryEndpoint.posted
  split
  · simp only [FlowLedger.post, DeliveryEndpoint.entry, hd, Nat.sub_self, Nat.add_zero, and_self]
  · exact ⟨rfl, rfl⟩

theorem attributed_step {drops stale lost : Nat} {e e' : DeliveryEndpoint} {reply : DeliveryReply}
    {l : DeliveryFlowKey → FlowLedger} (h : e.StepSettles e' op reply drops stale lost)
    (hu : Unsaturated ⟨e', e.posted e' op reply l⟩) {keys : Finset DeliveryFlowKey}
    (hkeys : ∀ key, op.key? = some key → key ∈ keys) (ha : Attributed ⟨e, l⟩ keys) :
    Attributed ⟨e', e.posted e' op reply l⟩ keys := by
  obtain ⟨hdrops, hstale⟩ := ha
  simp only at hdrops hstale
  cases hop : op.key? with
  | none =>
    obtain ⟨hd, -, -⟩ := h.quiet hop
    refine ⟨fun d => ?_, ?_⟩
    · simp only [(posted_quiet hd _).1]
      rw [hdrops, hd]
    · simp only [(posted_quiet hd _).2]
      rw [hstale, hd]
  | some key =>
    have hmem := hkeys key hop
    have hself : op.concerns key = true := by rw [op.concerns_key hop, decide_eq_true rfl]
    have hother : ∀ k, k ≠ key → e.posted e' op reply l k = l k := by
      intro k hk
      refine if_neg ?_
      rw [op.concerns_key hop, decide_eq_true_eq]
      exact hk
    obtain ⟨hdropped, hstales⟩ := entry_counts h hu hself
    have hpost : e.posted e' op reply l key = (l key).post (e.entry e' op reply key) := if_pos hself
    have hc := h.counts key hop
    refine ⟨fun d => ?_, ?_⟩
    · by_cases hd : key.direction = d
      · subst hd
        have hsum : ∑ k ∈ keys with k.direction = key.direction,
            (e.posted e' op reply l k).dropped =
              ∑ k ∈ keys with k.direction = key.direction, (l k).dropped + drops :=
          sum_bump (by rw [hpost, ← hdropped]; rfl) (fun k hk => by rw [hother k hk])
            (Finset.mem_filter.mpr ⟨hmem, rfl⟩)
        simp only [hsum, hdrops, hc.drops (hu.drops _)]
      · have hsum : ∑ k ∈ keys with k.direction = d, (e.posted e' op reply l k).dropped =
            ∑ k ∈ keys with k.direction = d, (l k).dropped := by
          refine Finset.sum_congr rfl fun k hk => ?_
          rw [hother k fun heq => hd (heq ▸ (Finset.mem_filter.mp hk).2)]
        simp only [hsum, hdrops, hc.others d (Ne.symm hd)]
    · have hsum : ∑ k ∈ keys, (e.posted e' op reply l k).stale =
          ∑ k ∈ keys, (l k).stale + stale :=
        sum_bump (by rw [hpost, ← hstales]; rfl) (fun k hk => by rw [hother k hk]) hmem
      simp only [hsum, hstale, hc.stale hu.stale]

theorem step_steps (hi : t.endpoint.Inv L) (op : DeliveryOp) :
    ∃ t', t.step op = .ok t' ∧ t'.endpoint.Inv L ∧ Steps t t' op := by
  obtain ⟨e, l⟩ := t
  obtain ⟨reply, e', h, hi', -⟩ := DeliveryEndpoint.exec_spec hi op
  obtain ⟨drops, stale, lost, hs⟩ := DeliveryEndpoint.exec_settles hi h
  refine ⟨⟨e', e.posted e' op reply l⟩, ?_, hi', ?_⟩
  · unfold step
    rw [h]
    rfl
  · exact ⟨unsaturated_mono hs,
      fun hu => ⟨lost, hs.lost_iff, fun key n => short_step hs hu⟩,
      fun hu keys hkeys => attributed_step hs hu hkeys⟩

/-- Some operation of the run that works on the flow is futile. -/
def FutileRun (L : DeliveryScopeLimits) (ops : List DeliveryOp) (key : DeliveryFlowKey) : Prop :=
  ∃ pre op t, pre ++ [op] <+: ops ∧ run L pre = .ok t ∧ op.key? = some key ∧
    t.endpoint.Futile op

theorem futileRun_snoc {ops : List DeliveryOp} (h : run L ops = .ok t) :
    FutileRun L (ops ++ [op]) key ↔
      FutileRun L ops key ∨ op.key? = some key ∧ t.endpoint.Futile op := by
  constructor
  · rintro ⟨pre, op', t', hpre, hrun, hkey, hfutile⟩
    rcases List.prefix_concat_iff.mp hpre with heq | hpre
    · obtain ⟨rfl, hop⟩ := List.append_inj' heq rfl
      cases hop
      rw [h] at hrun
      cases hrun
      exact .inr ⟨hkey, hfutile⟩
    · exact .inl ⟨pre, op', t', hpre, hrun, hkey, hfutile⟩
  · rintro (⟨pre, op', t', hpre, hrun, hkey, hfutile⟩ | ⟨hkey, hfutile⟩)
    · exact ⟨pre, op', t', hpre.trans (List.prefix_append _ _), hrun, hkey, hfutile⟩
    · exact ⟨ops, op, t, List.prefix_rfl, h, hkey, hfutile⟩

theorem futile_concerns {e : DeliveryEndpoint} (h : e.Futile op) :
    op.key? = some key ↔ op.concerns key = true := by
  cases op with
  | terminateConnection connection => exact h.elim
  | _ => simp only [DeliveryOp.concerns, decide_eq_true_eq]

theorem run_snoc {ops : List DeliveryOp} (h : run L ops = .ok t) (h' : t.step op = .ok t') :
    run L (ops ++ [op]) = .ok t' := by
  unfold run at h ⊢
  rw [List.foldlM_append, h, Checked.ok_bind, List.foldlM_cons, h']
  rfl

theorem run_settles (L : DeliveryScopeLimits) (ops : List DeliveryOp) :
    ∃ t, run L ops = .ok t ∧ t.endpoint.Inv L ∧ (t.Unsaturated →
      (∀ key, ∃ n, t.Short key n ∧ (n = 0 ↔ ¬ FutileRun L ops key)) ∧
      ∀ keys, (∀ op ∈ ops, ∀ key, op.key? = some key → key ∈ keys) → t.Attributed keys) := by
  induction ops using List.reverseRecOn with
  | nil =>
    refine ⟨start L, rfl, DeliveryEndpoint.new_inv L, fun _ => ⟨fun key => ?_, fun keys _ => ?_⟩⟩
    · refine ⟨0, rfl, fun _ => ?_, fun _ => rfl⟩
      rintro ⟨pre, op, t, hpre, -⟩
      simp at hpre
    · refine ⟨fun d => ?_, Finset.sum_const_zero⟩
      cases d with
      | outbound => exact Finset.sum_const_zero
      | inbound => exact Finset.sum_const_zero
  | append_singleton ops op ih =>
    obtain ⟨t, h, hi, hih⟩ := ih
    obtain ⟨t', h', hi', hs⟩ := step_steps hi op
    refine ⟨t', run_snoc h h', hi', fun hu => ?_⟩
    obtain ⟨hshort, hattributed⟩ := hih (hs.unsaturated hu)
    obtain ⟨lost, hlost, hstep⟩ := hs.short hu
    refine ⟨fun key => ?_, fun keys hkeys => ?_⟩
    · obtain ⟨n, hn, hiff⟩ := hshort key
      refine ⟨_, hstep key n hn, ?_⟩
      rw [futileRun_snoc h, Nat.add_eq_zero_iff, hiff, not_or]
      refine and_congr_right fun _ => ?_
      by_cases hfutile : t.endpoint.Futile op
      · rw [futile_concerns hfutile, ite_eq_right_iff, hlost]
        simp only [hfutile, not_true_eq_false, and_true, imp_false]
      · rw [hlost.mpr hfutile, ite_self]
        simp only [hfutile, and_false, not_false_eq_true]
    · exact hs.attributed hu keys (fun key hkey => hkeys op (by simp) key hkey)
        (hattributed keys fun op' hop' => hkeys op' (List.mem_append_left _ hop'))

/-- In every run without saturation the messages of a flow are conserved exactly when no
submission on the flow was futile, and the counters add up what the ledgers of the flows say. -/
theorem unreliable_conserved_iff (L : DeliveryScopeLimits) (ops : List DeliveryOp) :
    ∃ t, run L ops = .ok t ∧ (t.Unsaturated →
      (∀ key, t.Conserved key ↔ ¬ FutileRun L ops key) ∧
      ∀ keys, (∀ op ∈ ops, ∀ key, op.key? = some key → key ∈ keys) → t.Attributed keys) := by
  obtain ⟨t, h, -, hu⟩ := run_settles L ops
  refine ⟨t, h, fun hun => ?_⟩
  obtain ⟨hshort, hattributed⟩ := hu hun
  refine ⟨fun key => ?_, hattributed⟩
  obtain ⟨n, hn, hiff⟩ := hshort key
  rw [short_conserved hn, hiff]

/-! ### Fixed runs -/

/-- Eight bytes may be pending in all. -/
def narrowLimits : DeliveryScopeLimits := ⟨.nearest 4, .nearest 8, .nearest 8⟩

def evictingPolicy : FlowResourcePolicy :=
  ⟨.nearest 6, .nearest 4, .nearest 8, .evictOldestUnreliable, .evictOldestBufferedUnreliable⟩

def evictingFlow : DeliveryFlowKey := ⟨⟨1⟩, .outbound, ⟨0⟩⟩

def crowdingFlow : DeliveryFlowKey := ⟨⟨1⟩, .outbound, ⟨1⟩⟩

/-- The crowding flow holds six of the eight bytes when four more are submitted to the other. -/
def futileOps : List DeliveryOp :=
  [.establishFlow evictingFlow .unreliableUnordered evictingPolicy narrowLimits,
    .establishFlow crowdingFlow .unreliableUnordered evictingPolicy narrowLimits,
    .submit crowdingFlow [1, 2, 3, 4, 5, 6],
    .submit evictingFlow [7],
    .submit evictingFlow [8, 9, 10, 11]]

/-- The accepted message `[7]` is gone, and no counter says so. -/
theorem futile_eviction_uncounted : ∃ t, run narrowLimits futileOps = .ok t ∧ t.Unsaturated ∧
    t.ledger evictingFlow = ⟨1, 0, 0, 0, 0⟩ ∧ t.endpoint.waiting evictingFlow = 0 ∧
    t.endpoint.diagnostics.drops .outbound = 0 ∧ ¬ t.Conserved evictingFlow := by
  refine ⟨_, rfl, ⟨fun d => ?_, ?_⟩, rfl, rfl, rfl, ?_⟩
  · cases d <;> decide
  · decide
  · decide

/-- The second message takes the place of the first, and its custody is committed. -/
def countedOps : List DeliveryOp :=
  [.establishFlow evictingFlow .unreliableUnordered evictingPolicy narrowLimits,
    .submit evictingFlow [1, 2, 3, 4, 5],
    .submit evictingFlow [6, 7, 8, 9],
    .commitOutboundCustody evictingFlow 1]

theorem counted_ledger : ∃ t, run narrowLimits countedOps = .ok t ∧ t.Unsaturated ∧
    t.ledger evictingFlow = ⟨2, 1, 0, 1, 0⟩ ∧ t.Conserved evictingFlow := by
  refine ⟨_, rfl, ⟨fun d => ?_, ?_⟩, rfl, ?_⟩
  · cases d <;> decide
  · decide
  · decide

theorem unreliable_conserved_sample : ∃ t, run narrowLimits countedOps = .ok t ∧
    t.ledger evictingFlow = ⟨2, 1, 0, 1, 0⟩ ∧ ¬ FutileRun narrowLimits countedOps evictingFlow ∧
    t.Attributed {evictingFlow} := by
  obtain ⟨t, h, hu, hledger, hconserved⟩ := counted_ledger
  obtain ⟨t', h', hsettled⟩ := unreliable_conserved_iff narrowLimits countedOps
  rw [h] at h'
  cases h'
  obtain ⟨hiff, hattributed⟩ := hsettled hu
  refine ⟨t, h, hledger, (hiff evictingFlow).mp hconserved, hattributed _ ?_⟩
  intro op hop key hkey
  simp only [countedOps, List.mem_cons, List.not_mem_nil, or_false] at hop
  rcases hop with rfl | rfl | rfl | rfl <;> cases hkey <;> exact Finset.mem_singleton_self _

end DeliveryHistory

end RunenNet
