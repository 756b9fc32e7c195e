import RunenNet.Core.Compatibility
import RunenNet.Quic.OfferCodec

/-!
# The proposal codec

A proposal is written in any iteration order of its two sets. The decoder accepts exactly the
encodings of the contracts within its limits, and takes each back to its contract.
-/

namespace RunenNet

open Foundation Reader

/-- What is read of a proposal, in the order in which it was written. -/
abbrev ProposalLists := ProtocolContract × List CapabilityId × List (SchemaId × SelectedSchema)

def SelectionFits (e : SchemaId × SelectedSchema) : Prop :=
  e.1.Fits ∧ e.2.contractId.Fits ∧ e.2.codecId.Fits

def selectionBytes (e : SchemaId × SelectedSchema) : List UInt8 :=
  bigEndian 16 e.1.get ++ (bigEndian 16 e.2.contractId.get ++ bigEndian 16 e.2.codecId.get)

namespace ProposalLists

def bytes (r : ProposalLists) : List UInt8 :=
  (bigEndian 16 r.1.id.get ++ bigEndian 16 r.1.revision.get) ++ (varintBytes r.2.1.length ++
    ((r.2.1.flatMap fun id => bigEndian 16 id.get) ++
      (varintBytes r.2.2.length ++ r.2.2.flatMap selectionBytes)))

/-- The lists have an encoding that is within the limits. -/
structure Admitted (l : OfferLimits) (r : ProposalLists) : Prop where
  protocol : r.1.Fits
  capabilities : ∀ id ∈ r.2.1, id.Fits
  schemas : ∀ e ∈ r.2.2, SelectionFits e
  distinct : r.2.1.Nodup ∧ (r.2.2.map Prod.fst).Nodup
  capabilityCount : r.2.1.length ≤ l.maxCapabilities ∧ r.2.1.length ≤ maxVarint
  schemaCount : r.2.2.length ≤ l.maxSchemas ∧ r.2.2.length ≤ maxVarint
  cost : 32 + r.2.1.length * 16 + r.2.2.length * 48 ≤ l.maxOfferAccountedBytes ∧
    32 + r.2.1.length * 16 + r.2.2.length * 48 ≤ usizeMax

end ProposalLists

/-! ### Distinct values -/

section Distinct

variable {α κ : Type} {P : α → Prop} {key : α → κ}

/-- Values that are each distinct from those before them are pairwise distinct. -/
theorem validFrom_distinct (seen as : List α) :
    ValidFrom (fun seen a => P a ∧ key a ∉ seen.map key) (fun seen a => seen ++ [a]) seen as ↔
      (∀ a ∈ as, P a) ∧ (as.map key).Nodup ∧ ∀ a ∈ as, key a ∉ seen.map key := by
  induction as generalizing seen with
  | nil => simp [ValidFrom]
  | cons a as ih =>
    simp only [ValidFrom, ih, List.forall_mem_cons, List.map_cons, List.nodup_cons, List.map_append,
      List.mem_append, List.map_nil, List.mem_singleton, not_or]
    constructor
    · rintro ⟨⟨ha, hseen⟩, hall, hnodup, hrest⟩
      refine ⟨⟨ha, hall⟩, ⟨fun hmem => ?_, hnodup⟩, hseen, fun x hx => (hrest x hx).1⟩
      obtain ⟨x, hx, heq⟩ := List.mem_map.mp hmem
      exact (hrest x hx).2 heq
    · rintro ⟨⟨ha, hall⟩, ⟨hnot, hnodup⟩, hseen, hrest⟩
      exact ⟨⟨ha, hseen⟩, hall, hnodup, fun x hx => ⟨hrest x hx, fun heq => hnot
        (List.mem_map.mpr ⟨x, hx, heq⟩)⟩⟩

theorem foldl_snoc (seen as : List α) : as.foldl (fun seen a => seen ++ [a]) seen = seen ++ as := by
  induction as generalizing seen with
  | nil => exact (List.append_nil seen).symm
  | cons a as ih => rw [List.foldl_cons, ih, List.append_assoc, List.singleton_append]

/-- Reading values that must be distinct. -/
theorem manyDistinct_exact {ε : Type} {p : List α → Reader ε (α × List α)} (P : α → Prop)
    (key : α → κ) (enc : α → List UInt8) (h : ∀ seen, Exact (p seen)
      (fun r => (P r.1 ∧ key r.1 ∉ seen.map key) ∧ r.2 = seen ++ [r.1]) fun r => enc r.1) (n : Nat) :
    Exact (manyState p n []) (fun r => r.1.length = n ∧ ((∀ a ∈ r.1, P a) ∧ (r.1.map key).Nodup) ∧
      r.2 = r.1) fun r => r.1.flatMap enc := by
  have hmany := Exact.manyState (fun seen a => P a ∧ key a ∉ seen.map key)
    (fun seen a => seen ++ [a]) h n []
  simpa only [validFrom_distinct, foldl_snoc, List.nil_append, List.map_nil, List.not_mem_nil,
    not_false_eq_true, implies_true, and_true] using hmany

end Distinct

theorem readSelectedCapability_exact (seen : List CapabilityId) :
    Exact (readSelectedCapability seen)
      (fun r => (Ident.Fits r.1 ∧ id r.1 ∉ seen.map id) ∧ r.2 = seen ++ [r.1])
      fun r => bigEndian 16 r.1.get := by
  rintro input ⟨capability, seen'⟩ rest
  simp only [readSelectedCapability, bind_eq_ok, mapError_eq_ok, readId_exact _ _ _, List.map_id,
    id_eq]
  constructor
  · rintro ⟨_, _, ⟨hid, rfl⟩, h⟩
    split at h
    · cases h
    · rename_i hnew
      cases pure_eq_ok.mp h
      exact ⟨⟨⟨hid, hnew⟩, rfl⟩, rfl⟩
  · rintro ⟨⟨⟨hid, hnew⟩, rfl⟩, rfl⟩
    refine ⟨_, rest, ⟨hid, rfl⟩, ?_⟩
    rw [if_neg hnew]
    rfl

theorem readSelectedSchema_exact (seen : List (SchemaId × SelectedSchema)) :
    Exact (readSelectedSchema seen)
      (fun r => (SelectionFits r.1 ∧ r.1.1 ∉ seen.map Prod.fst) ∧ r.2 = seen ++ [r.1])
      fun r => selectionBytes r.1 := by
  rintro input ⟨⟨schemaId, selected⟩, seen'⟩ rest
  have hany : ∀ schemaId : SchemaId, seen.any (fun e => e.1 = schemaId) = true ↔
      schemaId ∈ seen.map Prod.fst := fun schemaId => by
    simp only [List.any_eq_true, decide_eq_true_eq, List.mem_map]
  simp only [readSelectedSchema, bind_eq_ok, mapError_eq_ok, readId_exact _ _ _]
  constructor
  · rintro ⟨_, _, ⟨hid, rfl⟩, h⟩
    split at h
    · cases h
    · rename_i hnew
      simp only [bind_eq_ok, mapError_eq_ok, readId_exact _ _ _, pure_eq_ok] at h
      obtain ⟨_, _, ⟨hcontract, rfl⟩, _, _, ⟨hcodec, rfl⟩, heq⟩ := h
      cases heq
      refine ⟨⟨⟨⟨hid, hcontract, hcodec⟩, fun hmem => hnew ((hany _).mpr hmem)⟩, rfl⟩, ?_⟩
      simp only [selectionBytes, List.append_assoc]
  · rintro ⟨⟨⟨⟨hid, hcontract, hcodec⟩, hnew⟩, rfl⟩, rfl⟩
    refine ⟨schemaId.get, bigEndian 16 selected.contractId.get ++ (bigEndian 16 selected.codecId.get
      ++ rest), ⟨hid, ?_⟩, ?_⟩
    · simp only [selectionBytes, List.append_assoc]
    · rw [if_neg fun h => hnew ((hany _).mp h)]
      simp only [bind_eq_ok, mapError_eq_ok, readId_exact _ _ _, pure_eq_ok]
      exact ⟨_, _, ⟨hcontract, rfl⟩, _, rest, ⟨hcodec, rfl⟩, rfl⟩

variable {l : OfferLimits}

theorem readProposal_exact :
    Exact (readProposal reserving l) (ProposalLists.Admitted l) ProposalLists.bytes := by
  rintro input ⟨p, cs, ss⟩ rest
  have hcaps := fun n => manyDistinct_exact (@Ident.Fits .capabilityId) id
    (fun id => bigEndian 16 id.get) readSelectedCapability_exact n
  have hschemas := fun n => manyDistinct_exact SelectionFits Prod.fst selectionBytes
    readSelectedSchema_exact n
  simp only [readProposal, bind_eq_ok, mapError_eq_ok, readProtocol_exact _ _ _,
    readBoundedCount_exact _ _ _, lift_eq_ok, DecodeBudget.chargeBytes_eq_ok,
    DecodeBudget.chargeItems_eq_ok, reserveVec_eq_ok, hcaps _ _ _ _, hschemas _ _ _ _, pure_eq_ok]
  constructor
  · rintro ⟨p, _, ⟨hp, rfl⟩, _, _, ⟨⟨hroom, rfl⟩, rfl⟩, _, _, ⟨hcount, rfl⟩, _, _,
      ⟨⟨hroom', rfl⟩, rfl⟩, _, _, rfl, ⟨cs, _⟩, _, ⟨⟨rfl, ⟨hcs, hcnodup⟩, -⟩, rfl⟩, _, _,
      ⟨hscount, rfl⟩, _, _, ⟨⟨hroom'', -⟩, rfl⟩, _, _, rfl, ⟨ss, _⟩, _,
      ⟨⟨rfl, ⟨hss, hsnodup⟩, -⟩, rfl⟩, heq⟩
    cases heq
    simp only [DecodeBudget.after_after, DecodeBudget.room_after] at hroom''
    rw [List.map_id] at hcnodup
    refine ⟨⟨hp, hcs, hss, ⟨hcnodup, hsnodup⟩, hcount, hscount, ?_⟩, ?_⟩
    · exact ⟨(Nat.zero_add _).symm.trans_le hroom''.1, (Nat.zero_add _).symm.trans_le hroom''.2⟩
    · simp only [ProposalLists.bytes, List.append_assoc]
  · rintro ⟨⟨hp, hcs, hss, ⟨hcnodup, hsnodup⟩, hcount, hscount, hcost⟩, rfl⟩
    let budget : DecodeBudget := ⟨0, l.maxOfferAccountedBytes, .resourceLimitExceeded⟩
    have hroom : budget.Room (32 + cs.length * 16 + ss.length * 48) :=
      ⟨(Nat.zero_add _).trans_le hcost.1, (Nat.zero_add _).trans_le hcost.2⟩
    have hsecond := hroom.mono (Nat.le_add_right _ _)
    have hfirst := hsecond.mono (Nat.le_add_right _ _)
    refine ⟨p, _, ⟨hp, ?_⟩, _, _, ⟨⟨hfirst, rfl⟩, rfl⟩, _, _, ⟨hcount, rfl⟩, _, _,
      ⟨⟨DecodeBudget.room_after.mpr hsecond, rfl⟩, rfl⟩, (), _, rfl, (cs, cs), _,
      ⟨⟨rfl, ⟨hcs, by rw [List.map_id]; exact hcnodup⟩, rfl⟩, rfl⟩, _,
      ss.flatMap selectionBytes ++ rest, ⟨hscount, rfl⟩, _, _, ⟨⟨?_, rfl⟩, rfl⟩, (), _, rfl, (ss, ss),
      rest, ⟨⟨rfl, ⟨hss, hsnodup⟩, rfl⟩, rfl⟩, rfl⟩
    · simp only [ProposalLists.bytes, List.append_assoc]
    · rw [DecodeBudget.after_after, DecodeBudget.room_after]
      exact hroom

/-! ### The contract of the lists -/

/-- The lists hold the selections of the contract, in some order. -/
structure ProposalLists.Lists (r : ProposalLists) (c : NegotiatedContract) : Prop where
  protocol : r.1 = c.protocol
  distinct : r.2.1.Nodup ∧ (r.2.2.map Prod.fst).Nodup
  capabilities : ∀ id, id ∈ r.2.1 ↔ id ∈ c.capabilities
  schemas : ∀ id b, (id, b) ∈ r.2.2 ↔ c.schemas.get? id = some b

theorem enableAll {c : NegotiatedContract} {ids : List CapabilityId} (hnodup : ids.Nodup)
    (hnew : ∀ id ∈ ids, id ∉ c.capabilities) :
    ∃ s : Finset CapabilityId, (∀ id, id ∈ s ↔ id ∈ ids ∨ id ∈ c.capabilities) ∧
      (ids.foldlM (fun c id => do
        let (inserted, c) := NegotiatedContract.enableCapability c id
        Checked.assert inserted
        return c) c : Checked NegotiatedContract) = .ok { c with capabilities := s } := by
  induction ids generalizing c with
  | nil => exact ⟨c.capabilities, by simp, rfl⟩
  | cons id ids ih =>
    obtain ⟨hnot, hnodup⟩ := List.nodup_cons.mp hnodup
    have hid := hnew id (List.mem_cons_self ..)
    obtain ⟨s, hs, hfold⟩ := ih (c := { c with capabilities := insert id c.capabilities }) hnodup
      fun x hx hmem => by
        rcases Finset.mem_insert.mp hmem with rfl | hmem
        · exact hnot hx
        · exact hnew x (List.mem_cons_of_mem _ hx) hmem
    refine ⟨s, fun x => ?_, ?_⟩
    · rw [hs, List.mem_cons, Finset.mem_insert]
      tauto
    · rw [List.foldlM_cons]
      simp only [NegotiatedContract.enableCapability, hid, not_false_eq_true, decide_true,
        Checked.assert_true, Checked.ok_bind, Checked.pure_eq]
      exact hfold

theorem bindAll {c : NegotiatedContract} {es : List (SchemaId × SelectedSchema)}
    (hnodup : (es.map Prod.fst).Nodup) (hnew : ∀ e ∈ es, c.schemas.get? e.1 = none) :
    ∃ m : SortedMap SchemaId SelectedSchema,
      (∀ id b, m.get? id = some b ↔ (id, b) ∈ es ∨ c.schemas.get? id = some b) ∧
      es.foldlM (fun c e => Checked.expect
        "duplicate schema bindings were rejected during bounded decode"
        (NegotiatedContract.bindSchema c e.1 e.2)) c = .ok { c with schemas := m } := by
  induction es generalizing c with
  | nil => exact ⟨c.schemas, by simp, rfl⟩
  | cons e es ih =>
    rw [List.map_cons] at hnodup
    obtain ⟨hnot, hnodup⟩ := List.nodup_cons.mp hnodup
    have he := hnew e (List.mem_cons_self ..)
    obtain ⟨m, hm, hfold⟩ := ih (c := { c with schemas := c.schemas.insert e.1 e.2 }) hnodup
      fun x hx => by
        rw [SortedMap.get?_insert_ne]
        · exact hnew x (List.mem_cons_of_mem _ hx)
        · exact fun heq => hnot (List.mem_map.mpr ⟨x, hx, heq⟩)
    refine ⟨m, fun id b => ?_, ?_⟩
    · rw [hm, List.mem_cons, SortedMap.get?_insert]
      split
      · rename_i heq
        rw [heq, he]
        obtain ⟨k, v⟩ := e
        simp only [Option.some.injEq, Prod.mk.injEq, true_and, reduceCtorEq, or_false]
        constructor
        · rintro (h | rfl)
          · exact .inr h
          · exact .inl rfl
        · rintro (rfl | h)
          · exact .inr rfl
          · exact .inl h
      · rename_i hne
        constructor
        · rintro (h | h)
          · exact .inl (.inr h)
          · exact .inr h
        · rintro ((h | h) | h)
          · exact absurd (congrArg Prod.fst h) hne
          · exact .inl h
          · exact .inr h
    · rw [List.foldlM_cons]
      simp only [NegotiatedContract.bindSchema, he, Checked.expect_some, Checked.ok_bind]
      exact hfold

/-- Distinct selections are those of the contract that is built of them. -/
theorem buildContract_lists {r : ProposalLists} (hcaps : r.2.1.Nodup)
    (hschemas : (r.2.2.map Prod.fst).Nodup) :
    ∃ c, buildContract r.1 r.2.1 r.2.2 = .ok c ∧ r.Lists c := by
  obtain ⟨s, hs, hfold⟩ := enableAll (c := .new r.1) hcaps fun _ _ => Finset.notMem_empty _
  obtain ⟨m, hm, hfold'⟩ := bindAll (c := { NegotiatedContract.new r.1 with capabilities := s })
    hschemas fun _ _ => rfl
  refine ⟨⟨r.1, s, m⟩, ?_, rfl, ⟨hcaps, hschemas⟩, fun id => ?_, fun id b => ?_⟩
  · rw [buildContract, hfold, Checked.ok_bind]
    exact hfold'
  · rw [hs]
    simp [NegotiatedContract.new]
  · rw [hm]
    simp [NegotiatedContract.new]

theorem ProposalLists.Lists.unique {r : ProposalLists} {c c' : NegotiatedContract} (h : r.Lists c)
    (h' : r.Lists c') : c' = c := by
  obtain ⟨p, caps, schemas⟩ := c
  obtain ⟨p', caps', schemas'⟩ := c'
  obtain rfl : r.1 = p := h.protocol
  obtain rfl : r.1 = p' := h'.protocol
  obtain rfl : caps' = caps := Finset.ext fun id => (h'.capabilities id).symm.trans (h.capabilities id)
  obtain rfl : schemas' = schemas := SortedMap.ext_get? fun id => Option.ext fun b =>
    (h'.schemas id b).symm.trans (h.schemas id b)
  rfl

/-- An iteration order of a contract. -/
def ContractOrder.lists {c : NegotiatedContract} (order : ContractOrder c) : ProposalLists :=
  (c.protocol, order.capabilities, order.schemas)

theorem ContractOrder.lists_of {c : NegotiatedContract} (order : ContractOrder c) :
    order.lists.Lists c where
  protocol := rfl
  distinct := ⟨order.capabilities_nodup,
    ((order.schemas_perm.map Prod.fst).nodup_iff).mpr c.schemas.nodup_keys⟩
  capabilities := order.mem_capabilities
  schemas := fun _ _ => order.schemas_perm.mem_iff.trans SortedMap.get?_eq_some.symm

/-- Distinct lists are an iteration order of their contract. -/
theorem ProposalLists.Lists.order {r : ProposalLists} {c : NegotiatedContract} (h : r.Lists c) :
    ∃ order : ContractOrder c, order.lists = r := by
  obtain ⟨p, cs, ss⟩ := r
  have hperm : ss.Perm c.schemas.entries :=
    (List.perm_ext_iff_of_nodup (List.Nodup.of_map _ h.distinct.2) c.schemas.nodup_entries).mpr
      fun e => (h.schemas e.1 e.2).trans SortedMap.get?_eq_some
  obtain rfl : p = c.protocol := h.protocol
  exact ⟨⟨cs, ss, h.distinct.1, h.capabilities, hperm⟩, rfl⟩

theorem ProposalLists.Lists.counts {r : ProposalLists} {c : NegotiatedContract} (h : r.Lists c) :
    r.2.1.length = c.capabilities.card ∧ r.2.2.length = c.schemas.size := by
  obtain ⟨order, rfl⟩ := h.order
  constructor
  · rw [← List.toFinset_card_of_nodup h.distinct.1]
    congr 1
    ext id
    rw [List.mem_toFinset, h.capabilities]
  · exact order.schemas_perm.length_eq

/-! ### Encoding -/

theorem ContractOrder.lists_counts {c : NegotiatedContract} (order : ContractOrder c) :
    order.capabilities.length = c.capabilities.card ∧ order.schemas.length = c.schemas.size :=
  order.lists_of.counts

theorem proposalBody_eq_ok {c : NegotiatedContract} (order : ContractOrder c) {out : List UInt8} :
    proposalBody c order = .ok out ↔ c.capabilities.card ≤ maxVarint ∧ c.schemas.size ≤ maxVarint ∧
      out = order.lists.bytes := by
  have hselection : pushSelection = fun body e => body ++ selectionBytes e := by
    funext body e
    simp only [pushSelection, pushId, selectionBytes, List.append_assoc]
  simp only [proposalBody, outcome_bind_eq_ok, pushCount_eq_ok, hselection, pushId, foldl_push, pure,
    Except.pure, Except.ok.injEq, ContractOrder.lists, ProposalLists.bytes, pushProtocol,
    List.nil_append, order.lists_counts.1, order.lists_counts.2]
  constructor
  · rintro ⟨_, ⟨hc, rfl⟩, _, ⟨hs, rfl⟩, rfl⟩
    exact ⟨hc, hs, by simp only [List.append_assoc]⟩
  · rintro ⟨hc, hs, rfl⟩
    exact ⟨_, ⟨hc, rfl⟩, _, ⟨hs, rfl⟩, by simp only [List.append_assoc]⟩

theorem ContractOrder.bytes_length {c : NegotiatedContract} (order : ContractOrder c) :
    order.lists.bytes.length = 32 + (varintBytes c.capabilities.card).length +
      c.capabilities.card * 16 + (varintBytes c.schemas.size).length + c.schemas.size * 48 := by
  have hc : (order.capabilities.flatMap fun id => bigEndian 16 id.get).length =
      c.capabilities.card * 16 := by
    simp [List.length_flatMap, order.lists_counts.1]
  have hs : (order.schemas.flatMap selectionBytes).length = c.schemas.size * 48 := by
    simp [List.length_flatMap, selectionBytes, order.lists_counts.2]
  simp only [ContractOrder.lists, ProposalLists.bytes, List.length_append, hc, hs, bigEndian_length,
    order.lists_counts.1, order.lists_counts.2]
  omega

theorem proposalBodyLen_eq_some {c : NegotiatedContract} (order : ContractOrder c) {len : Nat} :
    proposalBodyLen c = some len ↔ (c.capabilities.card ≤ maxVarint ∧ c.schemas.size ≤ maxVarint) ∧
      order.lists.bytes.length ≤ usizeMax ∧ len = order.lists.bytes.length := by
  simp only [proposalBodyLen, Option.bind_eq_bind, Option.bind_eq_some_iff, countLen_eq_some,
    checkedAdd_eq_some, checkedAddMul_eq_some_iff, order.bytes_length]
  constructor
  · rintro ⟨_, ⟨hc, rfl⟩, _, ⟨-, rfl⟩, _, ⟨-, rfl⟩, _, ⟨hs, rfl⟩, _, ⟨-, rfl⟩, hsum, rfl⟩
    exact ⟨⟨hc, hs⟩, by omega, by omega⟩
  · rintro ⟨⟨hc, hs⟩, hsum, rfl⟩
    exact ⟨_, ⟨hc, rfl⟩, _, ⟨by omega, rfl⟩, _, ⟨by omega, rfl⟩, _, ⟨hs, rfl⟩, _, ⟨by omega, rfl⟩,
      by omega, by omega⟩

/-- A contract is encoded as the bytes of its lists, whose length is the one computed. -/
theorem encodeProposal_cases (reserves : Bool) (c : NegotiatedContract) (order : ContractOrder c)
    (maxBodyBytes : Nat) :
    ∃ r, encodeProposal reserves c order maxBodyBytes = .ok r ∧ ∀ body, r = .ok body ↔
      body = order.lists.bytes ∧ proposalBodyLen c = some body.length ∧
        body.length ≤ maxBodyBytes ∧ reserves = true := by
  obtain ⟨r, hr, hiff⟩ := writeBody_cases reserves maxBodyBytes (proposalBodyLen c)
    (proposalBody c order) fun n hn => by
      obtain ⟨⟨hc, hs⟩, -, rfl⟩ := (proposalBodyLen_eq_some order).mp hn
      exact ⟨_, (proposalBody_eq_ok order).mpr ⟨hc, hs, rfl⟩, rfl⟩
  refine ⟨r, hr, fun body => ?_⟩
  rw [hiff, proposalBody_eq_ok]
  constructor
  · rintro ⟨⟨-, -, h1⟩, h2⟩
    exact ⟨h1, h2⟩
  · rintro ⟨rfl, h⟩
    obtain ⟨⟨hc, hs⟩, -, -⟩ := (proposalBodyLen_eq_some order).mp h.1
    exact ⟨⟨hc, hs, rfl⟩, h⟩

/-! ### Decoding -/

theorem readProposal_refines (reserves : Nat → Bool) :
    Refines (readProposal reserves l) (readProposal reserving l) := by
  have hvec := reserveVec_refines reserves
  exact (Refines.refl _).bind fun _ => (Refines.refl _).bind fun _ => (Refines.refl _).bind fun _ =>
    (Refines.refl _).bind fun _ => (hvec _).bind fun _ => (Refines.refl _).bind fun _ =>
      (Refines.refl _).bind fun _ => (Refines.refl _).bind fun _ => (hvec _).bind fun _ =>
        Refines.refl _

/-- Decoding returns; what it accepts are the bytes of an iteration order of the contract. -/
theorem decodeProposal_cases (reserves : Nat → Bool) (input : List UInt8) (l : OfferLimits) :
    ∃ r, decodeProposal reserves input l = .ok r ∧ ∀ c, r = .ok c →
      ∃ order : ContractOrder c, order.lists.Admitted l ∧ input = order.lists.bytes := by
  unfold decodeProposal
  split
  · exact ⟨_, rfl, nofun⟩
  · rename_i p cs ss hparse
    obtain ⟨hadmitted, rfl⟩ :=
      readProposal_exact.parse_eq_ok.mp ((readProposal_refines reserves).parse_eq_ok hparse)
    obtain ⟨c, hc, hlists⟩ := buildContract_lists hadmitted.distinct.1 hadmitted.distinct.2
    obtain ⟨order, horder⟩ := hlists.order
    simp only at hc
    rw [hc, Checked.ok_bind]
    refine ⟨_, rfl, ?_⟩
    rintro _ ⟨⟩
    exact ⟨order, horder ▸ hadmitted, by rw [horder]⟩

theorem decodeProposal_lists {c : NegotiatedContract} {order : ContractOrder c}
    (h : order.lists.Admitted l) : decodeProposal reserving order.lists.bytes l = .ok (.ok c) := by
  obtain ⟨c', hc', hlists⟩ := buildContract_lists h.distinct.1 h.distinct.2
  obtain rfl := order.lists_of.unique hlists
  unfold decodeProposal
  rw [readProposal_exact.parse_eq_ok.mpr ⟨h, rfl⟩]
  have hc : buildContract c'.protocol order.capabilities order.schemas = .ok c' := hc'
  simp only [ContractOrder.lists, hc, Checked.ok_bind]
  rfl

/-- The selections of a contract fit their encoding. -/
structure NegotiatedContract.Fits (c : NegotiatedContract) : Prop where
  protocol : c.protocol.Fits
  capabilities : ∀ id ∈ c.capabilities, id.Fits
  schemas : ∀ id b, c.schemas.get? id = some b → SelectionFits (id, b)

/-- The contract is within the limits. -/
structure NegotiatedContract.Within (l : OfferLimits) (c : NegotiatedContract) : Prop where
  capabilities : c.capabilities.card ≤ l.maxCapabilities
  schemas : c.schemas.size ≤ l.maxSchemas
  bytes : ∃ bytes, c.accountedBytes = .ok bytes ∧ bytes ≤ l.maxOfferAccountedBytes

theorem NegotiatedContract.accountedBytes_eq_ok {c : NegotiatedContract} {bytes : Nat} :
    c.accountedBytes = .ok bytes ↔ 32 + c.capabilities.card * 16 + c.schemas.size * 48 ≤ usizeMax ∧
      bytes = 32 + c.capabilities.card * 16 + c.schemas.size * 48 := by
  constructor
  · intro h
    rcases le_or_gt (32 + c.capabilities.card * 16 + c.schemas.size * 48) usizeMax with hle | hgt
    · rw [accountedBytes_ok hle] at h
      exact ⟨hle, (Except.ok.inj h).symm⟩
    · simp only [accountedBytes, Option.bind_eq_bind] at h
      split at h
      · rename_i t ht
        simp only [Option.bind_eq_some_iff, checkedMul_eq_some, checkedAdd_eq_some] at ht
        obtain ⟨_, ⟨-, rfl⟩, _, ⟨-, rfl⟩, _, ⟨-, rfl⟩, hle, -⟩ := ht
        exact absurd hle (not_le.mpr hgt)
      · cases h
  · rintro ⟨hle, rfl⟩
    exact accountedBytes_ok hle

/-- The lists are admitted exactly if the contract is within the limits and can be counted. -/
theorem ContractOrder.admitted_iff {c : NegotiatedContract} (order : ContractOrder c) :
    order.lists.Admitted l ↔ c.Fits ∧ c.Within l ∧ c.capabilities.card ≤ maxVarint ∧
      c.schemas.size ≤ maxVarint := by
  have hlists := order.lists_of
  obtain ⟨hcaps, hschemas⟩ := hlists.counts
  constructor
  · intro h
    have hc := h.capabilityCount
    have hs := h.schemaCount
    have hcost := h.cost
    rw [hcaps] at hc
    rw [hschemas] at hs
    rw [hcaps, hschemas] at hcost
    exact ⟨⟨h.protocol, fun id hid => h.capabilities id ((hlists.capabilities id).mpr hid),
      fun id b hb => h.schemas (id, b) ((hlists.schemas id b).mpr hb)⟩, ⟨hc.1, hs.1, _,
        NegotiatedContract.accountedBytes_eq_ok.mpr ⟨hcost.2, rfl⟩, hcost.1⟩, hc.2, hs.2⟩
  · rintro ⟨hfits, ⟨hc, hs, bytes, hbytes, hle⟩, hcmax, hsmax⟩
    obtain ⟨hmax, rfl⟩ := NegotiatedContract.accountedBytes_eq_ok.mp hbytes
    refine ⟨hfits.protocol, fun id hid => hfits.capabilities id ((hlists.capabilities id).mp hid),
      fun e he => hfits.schemas e.1 e.2 ((hlists.schemas e.1 e.2).mp he), hlists.distinct, ?_, ?_, ?_⟩
    · rw [hcaps]
      exact ⟨hc, hcmax⟩
    · rw [hschemas]
      exact ⟨hs, hsmax⟩
    · rw [hcaps, hschemas]
      exact ⟨hle, hmax⟩

theorem encodeProposal_eq_ok {reserves : Bool} {c : NegotiatedContract} {order : ContractOrder c}
    {maxBodyBytes : Nat} {body : List UInt8} :
    encodeProposal reserves c order maxBodyBytes = .ok (.ok body) ↔
      body = order.lists.bytes ∧ proposalBodyLen c = some body.length ∧
        body.length ≤ maxBodyBytes ∧ reserves = true := by
  obtain ⟨r, hr, hiff⟩ := encodeProposal_cases reserves c order maxBodyBytes
  rw [hr, Except.ok.injEq, hiff]

/-- An encoded contract that is within the limits is decoded, in whatever order it was written. -/
theorem decodeProposal_encode {reserves : Bool} {c : NegotiatedContract} {order : ContractOrder c}
    {maxBodyBytes : Nat} {body : List UInt8} (hfits : c.Fits) (hwithin : c.Within l)
    (h : encodeProposal reserves c order maxBodyBytes = .ok (.ok body)) :
    decodeProposal reserving body l = .ok (.ok c) := by
  obtain ⟨rfl, hbodyLen, -⟩ := encodeProposal_eq_ok.mp h
  obtain ⟨⟨hc, hs⟩, -, -⟩ := (proposalBodyLen_eq_some order).mp hbodyLen
  exact decodeProposal_lists (order.admitted_iff.mpr ⟨hfits, hwithin, hc, hs⟩)

/-- A contract that can be encoded is admitted by the limits of the encoding. -/
theorem ContractOrder.encodable {reserves : Bool} {c : NegotiatedContract} {order : ContractOrder c}
    {maxBodyBytes : Nat} {body : List UInt8} (hfits : c.Fits)
    (h : encodeProposal reserves c order maxBodyBytes = .ok (.ok body)) :
    order.lists.Admitted wireLimits := by
  obtain ⟨rfl, hbodyLen, -⟩ := encodeProposal_eq_ok.mp h
  obtain ⟨⟨hc, hs⟩, hmax, -⟩ := (proposalBodyLen_eq_some order).mp hbodyLen
  rw [order.bytes_length] at hmax
  have hcost : 32 + c.capabilities.card * 16 + c.schemas.size * 48 ≤ usizeMax := by omega
  exact order.admitted_iff.mpr ⟨hfits, ⟨hc, hs, _,
    NegotiatedContract.accountedBytes_eq_ok.mpr ⟨hcost, rfl⟩, hcost⟩, hc, hs⟩

theorem ProposalLists.Admitted.encodable {r : ProposalLists} (h : r.Admitted l) :
    r.Admitted wireLimits :=
  ⟨h.protocol, h.capabilities, h.schemas, h.distinct, ⟨h.capabilityCount.2, h.capabilityCount.2⟩,
    ⟨h.schemaCount.2, h.schemaCount.2⟩, h.cost.2, h.cost.2⟩

/-- A part of an encoded contract, and an encoded contract with bytes behind it, are refused. -/
theorem decodeProposal_refused {reserves : Nat → Bool} {reserved : Bool} {c : NegotiatedContract}
    {order : ContractOrder c} {maxBodyBytes : Nat} {body : List UInt8} (hfits : c.Fits)
    (h : encodeProposal reserved c order maxBodyBytes = .ok (.ok body)) :
    (∀ n, n < body.length → ∃ e, decodeProposal reserves (body.take n) l = .ok (.error e)) ∧
      ∀ extra, extra ≠ [] → ∃ e, decodeProposal reserves (body ++ extra) l = .ok (.error e) := by
  have ho := ContractOrder.encodable hfits h
  obtain ⟨rfl, -⟩ := encodeProposal_eq_ok.mp h
  have hexact : Exact (readProposal reserving wireLimits) _ _ := readProposal_exact
  constructor
  · intro n hn
    obtain ⟨r, hr, hok⟩ := decodeProposal_cases reserves (order.lists.bytes.take n) l
    obtain ⟨e, rfl⟩ : ∃ e, r = .error e := exists_error fun c' hc' => by
      obtain ⟨order', h', htake⟩ := hok c' hc'
      obtain ⟨-, hdrop⟩ := hexact.prefix_free h'.encodable ho (by rw [← htake, List.take_append_drop])
      exact absurd (List.drop_eq_nil_iff.mp hdrop) (not_le.mpr hn)
    exact ⟨e, hr⟩
  · intro extra hextra
    obtain ⟨r, hr, hok⟩ := decodeProposal_cases reserves (order.lists.bytes ++ extra) l
    obtain ⟨e, rfl⟩ : ∃ e, r = .error e := exists_error fun c' hc' => by
      obtain ⟨order', h', hlong⟩ := hok c' hc'
      exact hextra (hexact.prefix_free ho h'.encodable hlong.symm).2
    exact ⟨e, hr⟩

/-! ### Both codecs -/

/-- Offers are decoded exactly from their encodings, bodies have the computed lengths, proposals are
decoded to their contracts from any order and hold no duplicate, and parts and extensions of bodies
are refused. -/
theorem negotiation_codecs_exact (l : OfferLimits) {maxBodyBytes : Nat}
    (hmax : maxBodyBytes ≤ u64Max) :
    (∀ input o, input.length ≤ maxBodyBytes → (decodeOffer reserving input l = .ok o ↔
      o.Fits ∧ o.Counts l ∧
        (∃ bytes, accountedOfferBytes o = .ok bytes ∧ bytes ≤ l.maxOfferAccountedBytes) ∧
        encodeOffer true o maxBodyBytes = .ok (.ok input))) ∧
    (∀ reserves input o, decodeOffer reserves input l = .ok o →
      decodeOffer reserving input l = .ok o) ∧
    (∀ reserves o, ∃ r, encodeOffer reserves o maxBodyBytes = .ok r ∧
      ∀ body, r = .ok body → offerBodyLen o = some body.length) ∧
    (∀ o len, o.diagnosticLabel = none → offerBodyLen o = some len → len ≤ maxBodyBytes →
      ∃ body, encodeOffer true o maxBodyBytes = .ok (.ok body) ∧ body.length = len) ∧
    (∀ reserves c order, ∃ r, encodeProposal reserves c order maxBodyBytes = .ok r ∧
      ∀ body, r = .ok body → proposalBodyLen c = some body.length) ∧
    (∀ c order len, proposalBodyLen c = some len → len ≤ maxBodyBytes →
      ∃ body, encodeProposal true c order maxBodyBytes = .ok (.ok body) ∧ body.length = len) ∧
    (∀ reserves c order body, c.Fits → c.Within l →
      encodeProposal reserves c order maxBodyBytes = .ok (.ok body) →
      decodeProposal reserving body l = .ok (.ok c)) ∧
    (∀ reserves input, ∃ r, decodeProposal reserves input l = .ok r ∧ ∀ c, r = .ok c →
      c.Fits ∧ c.Within l ∧ ∃ order : ContractOrder c, proposalBody c order = .ok input ∧
        order.capabilities.Nodup ∧ (order.schemas.map Prod.fst).Nodup) ∧
    (∀ reserves reserved o body, o.Fits → encodeOffer reserved o maxBodyBytes = .ok (.ok body) →
      (∀ n, n < body.length → ∃ e, decodeOffer reserves (body.take n) l = .error e) ∧
        ∀ extra, extra ≠ [] → ∃ e, decodeOffer reserves (body ++ extra) l = .error e) ∧
    ∀ reserves reserved c order body, c.Fits →
      encodeProposal reserved c order maxBodyBytes = .ok (.ok body) →
      (∀ n, n < body.length → ∃ e, decodeProposal reserves (body.take n) l = .ok (.error e)) ∧
        ∀ extra, extra ≠ [] → ∃ e, decodeProposal reserves (body ++ extra) l = .ok (.error e) := by
  refine ⟨fun input o hlen => decodeOffer_iff hlen hmax, fun _ _ _ => decodeOffer_reserving,
    fun reserves o => ?_, fun o len hlabel hlen hle => ?_, fun reserves c order => ?_,
    fun c order len hlen hle => ?_, fun _ _ _ _ => decodeProposal_encode, fun reserves input => ?_,
    fun _ _ _ _ => decodeOffer_refused, fun _ _ _ _ _ => decodeProposal_refused⟩
  · obtain ⟨r, hr, hiff⟩ := encodeOffer_cases reserves o maxBodyBytes
    exact ⟨r, hr, fun body h => ((hiff body).mp h).2.2.2.1⟩
  · obtain ⟨hcounts, -, rfl⟩ := offerBodyLen_eq_some.mp hlen
    exact ⟨_, encodeOffer_eq_ok.mpr ⟨hlabel, hcounts, rfl, hlen, hle, rfl⟩, rfl⟩
  · obtain ⟨r, hr, hiff⟩ := encodeProposal_cases reserves c order maxBodyBytes
    exact ⟨r, hr, fun body h => ((hiff body).mp h).2.1⟩
  · obtain ⟨-, -, rfl⟩ := (proposalBodyLen_eq_some order).mp hlen
    exact ⟨_, encodeProposal_eq_ok.mpr ⟨rfl, hlen, hle, rfl⟩, rfl⟩
  · obtain ⟨r, hr, hok⟩ := decodeProposal_cases reserves input l
    refine ⟨r, hr, fun c hc => ?_⟩
    obtain ⟨order, hadmitted, rfl⟩ := hok c hc
    obtain ⟨hfits, hwithin, hcaps, hschemas⟩ := order.admitted_iff.mp hadmitted
    exact ⟨hfits, hwithin, order, (proposalBody_eq_ok order).mpr ⟨hcaps, hschemas, rfl⟩,
      order.lists_of.distinct⟩

/-! One protocol, one required capability and one required schema are encoded and decoded. -/

theorem negotiation_codecs_exact_sample : ∃ body,
    encodeOffer true NegotiationAttempt.sampleOffer 65536 = .ok (.ok body) ∧
      decodeOffer reserving body .default = .ok NegotiationAttempt.sampleOffer := by
  obtain ⟨hiff, -, -, hlen, -⟩ := negotiation_codecs_exact .default
    (show 65536 ≤ u64Max by decide)
  obtain ⟨body, hbody, hbodyLen⟩ := hlen NegotiationAttempt.sampleOffer 119 rfl rfl (by decide)
  have hfits : NegotiationAttempt.sampleOffer.Fits := by
    constructor
    all_goals simp [NegotiationAttempt.sampleOffer, ProtocolContract.Fits, CapabilityOffer.Fits,
      SchemaOffer.Fits, SchemaContractOffer.Fits, Ident.Fits]
  have hcounts : NegotiationAttempt.sampleOffer.Counts .default := by
    constructor
    all_goals simp [NegotiationAttempt.sampleOffer, OfferLimits.default, SchemaOffer.Counts]
  exact ⟨body, hbody, (hiff body _ (by rw [hbodyLen]; decide)).mpr
    ⟨hfits, hcounts, ⟨114, rfl, by decide⟩, hbody⟩⟩

end RunenNet
