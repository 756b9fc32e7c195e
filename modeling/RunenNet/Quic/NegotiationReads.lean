import RunenNet.Quic.ProposalCodec

/-!
# Negotiation bodies are read back or refused

Whatever the limits of the reader and the answers of its allocator, a body that the other side wrote
is read back, or it is refused with an outcome of the negotiation. It is never taken for a malformed
one.
-/

namespace RunenNet

open Foundation Reader

variable {F : NegotiationWireError → Prop} {reserves : Nat → Bool} {l : OfferLimits}

/-- The reader refuses the body; it does not call it malformed. -/
def BodyDecodeError.Refuses (e : BodyDecodeError) : Prop := ∃ outcome, e = .failure outcome

/-! ### Parts -/

theorem readId_reads {id : Nat} (h : id < 2 ^ 128) : Reads F readId (bigEndian 16 id) id :=
  fun _ => .inl ((readId_exact _ _ _).mpr ⟨h, rfl⟩)

theorem readCount_reads {count : Nat} (h : count ≤ maxVarint) :
    Reads F readCount (varintBytes count) count :=
  fun _ => .inl ((readCount_exact _ _ _).mpr ⟨h, rfl⟩)

theorem readRequirement_reads (r : RequirementLevel) :
    Reads F readRequirement [encodeRequirement r] r :=
  fun _ => .inl ((readRequirement_exact _ _ _).mpr ⟨trivial, rfl⟩)

theorem readProtocol_reads {p : ProtocolContract} (h : p.Fits) :
    Reads F readProtocol (bigEndian 16 p.id.get ++ bigEndian 16 p.revision.get) p :=
  fun _ => .inl ((readProtocol_exact _ _ _).mpr ⟨h, rfl⟩)

theorem readCapability_reads {c : CapabilityOffer} (h : c.Fits) :
    Reads F readCapability (bigEndian 16 c.id.get ++ [encodeRequirement c.requirement]) c :=
  fun _ => .inl ((readCapability_exact _ _ _).mpr ⟨h, rfl⟩)

theorem readCodec_reads {codec : CodecId} (h : codec.Fits) :
    Reads F readCodec (bigEndian 16 codec.get) codec :=
  fun _ => .inl ((readCodec_exact _ _ _).mpr ⟨h, rfl⟩)

theorem readBoundedCount_reads {count limit : Nat} {exceeded : NegotiationOutcome}
    (h : count ≤ maxVarint) :
    Reads BodyDecodeError.Refuses (readBoundedCount limit exceeded) (varintBytes count) count := by
  refine ((readCount_reads h).mapError BodyDecodeError.protocol).before fun rest => ?_
  split
  · exact .inr ⟨_, ⟨_, rfl⟩, rfl⟩
  · exact .inl rfl

theorem reserveVec_reads (count : Nat) :
    Reads BodyDecodeError.Refuses (reserveVec reserves count) [] () := fun rest => by
  simp only [reserveVec, List.nil_append]
  split
  · exact .inl rfl
  · exact .inr ⟨_, ⟨_, rfl⟩, rfl⟩

namespace DecodeBudget

variable (b : DecodeBudget)

theorem chargeBytes_reads (bytes : Nat) :
    Reads BodyDecodeError.Refuses (lift (b.chargeBytes bytes)) [] (b.after bytes) := by
  refine .lift ?_
  unfold chargeBytes
  split
  · exact .inr ⟨_, ⟨_, rfl⟩, rfl⟩
  · rename_i next hnext
    obtain ⟨-, rfl⟩ := checkedAdd_eq_some.mp hnext
    split
    · exact .inr ⟨_, ⟨_, rfl⟩, rfl⟩
    · exact .inl rfl

theorem chargeItems_reads (count width : Nat) :
    Reads BodyDecodeError.Refuses (lift (b.chargeItems count width)) []
      (b.after (count * width)) := by
  unfold chargeItems
  split
  · exact .lift (.inr ⟨_, ⟨_, rfl⟩, rfl⟩)
  · rename_i bytes hbytes
    obtain ⟨-, rfl⟩ := checkedMul_eq_some.mp hbytes
    exact b.chargeBytes_reads _

end DecodeBudget

/-! ### Offers -/

theorem readContract_reads {c : SchemaContractOffer} (hfits : c.Fits)
    (hcodecs : c.codecs.length ≤ maxVarint) (b : DecodeBudget) :
    Reads BodyDecodeError.Refuses (readContract reserves l b) c.bytes (c, b.after c.listCost) := by
  refine ((readId_reads hfits.1).mapError BodyDecodeError.protocol).bind
    ((readBoundedCount_reads hcodecs).bind ?_)
  refine (b.chargeItems_reads _ 16).andThen ((reserveVec_reads _).andThen ?_)
  refine (Reads.many fun codec hcodec => ?_).before (.pure _)
  exact (readCodec_reads (hfits.2 codec hcodec)).mapError BodyDecodeError.protocol

/-- The budget behind the contracts of a schema. -/
def DecodeBudget.behind (b : DecodeBudget) (s : SchemaOffer) : DecodeBudget :=
  s.contracts.foldl (fun b c => b.after c.listCost) (b.after (s.contracts.length * 16))

theorem readSchema_reads {s : SchemaOffer} (hfits : s.Fits) (hcounts : s.Counts wireLimits)
    (b : DecodeBudget) :
    Reads BodyDecodeError.Refuses (readSchema reserves l b) s.bytes (s, b.behind s) := by
  refine ((readId_reads hfits.1).mapError BodyDecodeError.protocol).bind
    (((readRequirement_reads _).mapError BodyDecodeError.protocol).bind
      ((readBoundedCount_reads hcounts.1).bind ?_))
  refine (b.chargeItems_reads _ 16).andThen ((reserveVec_reads _).andThen ?_)
  refine Reads.before (Reads.manyState (fun b c => b.after c.listCost)
    fun before c behind heq => ?_) (.pure _)
  have hc : c ∈ s.contracts := heq ▸ List.mem_append_right _ List.mem_cons_self
  exact readContract_reads (hfits.2 c hc) (hcounts.2 c hc) _

theorem readOffer_reads {o : CompatibilityOffer} (hfits : o.Fits) (hlabel : o.diagnosticLabel = none)
    (hcounts : o.Counts wireLimits) :
    Reads BodyDecodeError.Refuses (readOffer reserves l) o.bytes o := by
  refine (readBoundedCount_reads hcounts.protocols).bind ?_
  refine (DecodeBudget.chargeItems_reads _ _ 32).andThen ((reserveVec_reads _).andThen ?_)
  refine (Reads.many fun p hp => (readProtocol_reads (hfits.protocols p hp)).mapError BodyDecodeError.protocol).bind
    ((readBoundedCount_reads hcounts.capabilities).bind ?_)
  refine (DecodeBudget.chargeItems_reads _ _ 17).andThen ((reserveVec_reads _).andThen ?_)
  refine (Reads.many fun c hc =>
    (readCapability_reads (hfits.capabilities c hc)).mapError BodyDecodeError.protocol).bind
      ((readBoundedCount_reads hcounts.schemas).bind ?_)
  refine (DecodeBudget.chargeItems_reads _ _ 17).andThen ((reserveVec_reads _).andThen ?_)
  refine (Reads.manyState DecodeBudget.behind fun before s behind heq => ?_).before ?_
  · have hs : s ∈ o.schemas := heq ▸ List.mem_append_right _ List.mem_cons_self
    exact readSchema_reads (hfits.schemas s hs) (hcounts.lists s hs) _
  · obtain ⟨protocols, capabilities, schemas, label⟩ := o
    cases hlabel
    exact .pure _

theorem decodeOffer_bytes (reserves : Nat → Bool) (l : OfferLimits) {o : CompatibilityOffer}
    (hfits : o.Fits)
    (hlabel : o.diagnosticLabel = none) (hcounts : o.Counts wireLimits) :
    decodeOffer reserves o.bytes l = .ok o ∨
      ∃ outcome, decodeOffer reserves o.bytes l = .error (.failure outcome) := by
  rcases (readOffer_reads hfits hlabel hcounts).parse with h | ⟨e, ⟨outcome, rfl⟩, h⟩
  · exact .inl h
  · exact .inr ⟨outcome, h⟩

/-! ### Proposals -/

theorem readSelectedCapability_reads {seen : List CapabilityId} {id : CapabilityId} (h : id.Fits)
    (hnew : id ∉ seen) : Reads BodyDecodeError.Refuses (readSelectedCapability seen)
      (bigEndian 16 id.get) (id, seen ++ [id]) := by
  refine ((readId_reads h).mapError BodyDecodeError.protocol).before fun rest => ?_
  rw [if_neg hnew]
  exact .inl rfl

theorem readSelectedSchema_reads {seen : List (SchemaId × SelectedSchema)}
    {e : SchemaId × SelectedSchema} (h : SelectionFits e) (hnew : e.1 ∉ seen.map Prod.fst) :
    Reads BodyDecodeError.Refuses (readSelectedSchema seen) (selectionBytes e)
      (e, seen ++ [e]) := by
  refine ((readId_reads h.1).mapError BodyDecodeError.protocol).bind ?_
  have hno : seen.any (fun s => decide (s.1 = ⟨e.1.get⟩)) = false := by
    refine List.any_eq_false.mpr fun s hs heq => hnew ?_
    exact List.mem_map.mpr ⟨s, hs, of_decide_eq_true heq⟩
  simp only [hno, Bool.false_eq_true, if_false]
  refine ((readId_reads h.2.1).mapError BodyDecodeError.protocol).bind
    (((readId_reads h.2.2).mapError BodyDecodeError.protocol).before ?_)
  exact .pure _

/-- What stands before a value in a list without duplicates is different from it. -/
theorem not_mem_before {α κ : Type} {key : α → κ} {as before behind : List α} {a : α}
    (hnodup : (as.map key).Nodup) (heq : as = before ++ a :: behind) : key a ∉ before.map key := by
  rw [heq, List.map_append, List.map_cons] at hnodup
  exact fun h => (List.disjoint_of_nodup_append hnodup) h List.mem_cons_self

theorem readProposal_reads {r : ProposalLists} (hprotocol : r.1.Fits)
    (hcaps : ∀ id ∈ r.2.1, id.Fits) (hschemas : ∀ e ∈ r.2.2, SelectionFits e)
    (hdistinct : r.2.1.Nodup ∧ (r.2.2.map Prod.fst).Nodup)
    (hcounts : r.2.1.length ≤ maxVarint ∧ r.2.2.length ≤ maxVarint) :
    Reads BodyDecodeError.Refuses (readProposal reserves l) r.bytes r := by
  refine ((readProtocol_reads hprotocol).mapError BodyDecodeError.protocol).bind ?_
  refine (DecodeBudget.chargeBytes_reads _ 32).andThen ((readBoundedCount_reads hcounts.1).bind ?_)
  refine (DecodeBudget.chargeItems_reads _ _ 16).andThen ((reserveVec_reads _).andThen ?_)
  refine (Reads.manyState (fun seen id => seen ++ [id])
    fun before id behind heq => ?_).bind ((readBoundedCount_reads hcounts.2).bind ?_)
  · have hmem : id ∈ r.2.1 := heq ▸ List.mem_append_right _ List.mem_cons_self
    have hnew := not_mem_before (List.map_id r.2.1 ▸ hdistinct.1) heq
    rw [foldl_snoc, List.nil_append]
    exact readSelectedCapability_reads (hcaps id hmem) (List.map_id before ▸ hnew)
  · refine (DecodeBudget.chargeItems_reads _ _ 48).andThen ((reserveVec_reads _).andThen ?_)
    refine (Reads.manyState (fun seen e => seen ++ [e])
      fun before e behind heq => ?_).before (.pure _)
    have hmem : e ∈ r.2.2 := heq ▸ List.mem_append_right _ List.mem_cons_self
    rw [foldl_snoc, List.nil_append]
    exact readSelectedSchema_reads (hschemas e hmem) (not_mem_before hdistinct.2 heq)

theorem decodeProposal_bytes (reserves : Nat → Bool) (l : OfferLimits) {c : NegotiatedContract}
    (order : ContractOrder c) (hfits : c.Fits)
    (hcounts : c.capabilities.card ≤ maxVarint ∧ c.schemas.size ≤ maxVarint) :
    decodeProposal reserves order.lists.bytes l = .ok (.ok c) ∨
      ∃ outcome, decodeProposal reserves order.lists.bytes l = .ok (.error (.failure outcome)) := by
  have hlists := order.lists_of
  obtain ⟨hcapabilities, hschemas⟩ := hlists.counts
  have hreads : Reads BodyDecodeError.Refuses (readProposal reserves l) order.lists.bytes
      order.lists :=
    readProposal_reads hfits.protocol (fun id hid => hfits.capabilities id
      ((hlists.capabilities id).mp hid)) (fun e he => hfits.schemas e.1 e.2
        ((hlists.schemas e.1 e.2).mp he)) hlists.distinct
      ⟨hcapabilities ▸ hcounts.1, hschemas ▸ hcounts.2⟩
  unfold decodeProposal
  rcases hreads.parse with h | ⟨e, ⟨outcome, rfl⟩, h⟩
  · left
    rw [h]
    obtain ⟨c', hc', hlists'⟩ := buildContract_lists hlists.distinct.1 hlists.distinct.2
    obtain rfl := hlists.unique hlists'
    have hc : buildContract c'.protocol order.capabilities order.schemas = .ok c' := hc'
    simp only [ContractOrder.lists, hc, Checked.ok_bind, Checked.pure_eq]
  · exact .inr ⟨outcome, by rw [h]⟩

end RunenNet
