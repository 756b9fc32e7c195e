import RunenNet.Core.Protocol

/-!
# Compatible offers

What a valid offer satisfies, what a selection must satisfy, and that the check made before an
attempt is opened finds exactly the offers for which some selection would be accepted.
-/

namespace RunenNet

open Foundation

/-! ### Valid offers -/

/-- What `CompatibilityOffer.validate` has checked. -/
structure CompatibilityOffer.Valid (o : CompatibilityOffer) (l : OfferLimits) : Prop where
  protocols : o.protocols ≠ []
  capabilities : o.capabilities.length ≤ l.maxCapabilities
  schemas : o.schemas.length ≤ l.maxSchemas
  contracts : ∀ s ∈ o.schemas, s.contracts ≠ []
  codecs : ∀ s ∈ o.schemas, ∀ c ∈ s.contracts, c.codecs ≠ []
  bytes : ∃ bytes, accountedOfferBytes o = .ok bytes ∧ bytes ≤ l.maxOfferAccountedBytes

theorem validateContracts_ok {l : OfferLimits} {seen : List SchemaContractId}
    {contracts : List SchemaContractOffer} (h : validateContracts l seen contracts = .ok ()) :
    ∀ c ∈ contracts, c.codecs ≠ [] := by
  induction contracts generalizing seen with
  | nil => exact nofun
  | cons c rest ih =>
    unfold validateContracts at h
    split at h
    · cases h
    · split at h
      · cases h
      · rename_i hcodecs
        split at h
        · cases h
        · split at h
          · cases h
          · intro c' hc'
            rcases List.mem_cons.mp hc' with rfl | hc'
            · exact fun hnil => hcodecs (by rw [hnil]; rfl)
            · exact ih h c' hc'

theorem validateSchemas_ok {l : OfferLimits} {seen : List SchemaId} {schemas : List SchemaOffer}
    (h : validateSchemas l seen schemas = .ok ()) :
    ∀ s ∈ schemas, s.contracts ≠ [] ∧ ∀ c ∈ s.contracts, c.codecs ≠ [] := by
  induction schemas generalizing seen with
  | nil => exact nofun
  | cons s rest ih =>
    unfold validateSchemas at h
    split at h
    · cases h
    · split at h
      · cases h
      · rename_i hcontracts
        split at h
        · cases h
        · split at h
          · cases h
          · rename_i hok
            intro s' hs'
            rcases List.mem_cons.mp hs' with rfl | hs'
            · exact ⟨fun hnil => hcontracts (by rw [hnil]; rfl), validateContracts_ok hok⟩
            · exact ih h s' hs'

theorem CompatibilityOffer.validate_ok {o : CompatibilityOffer} {l : OfferLimits}
    {v : ValidatedOffer} (h : o.validate l = .ok v) : v.offer = o ∧ o.Valid l := by
  unfold CompatibilityOffer.validate at h
  split at h
  · cases h
  · split at h
    · cases h
    · rename_i hprotocols
      split at h
      · cases h
      · split at h
        · cases h
        · rename_i hcapabilities
          split at h
          · cases h
          · rename_i hschemas
            split at h
            · cases h
            · split at h
              · cases h
              · split at h
                · cases h
                · split at h
                  · cases h
                  · rename_i hok
                    split at h
                    · cases h
                    · rename_i bytes hbytes
                      split at h
                      · cases h
                      · rename_i hle
                        cases h
                        have hs := validateSchemas_ok hok
                        exact ⟨rfl, fun hnil => hprotocols (by rw [hnil]; rfl),
                          not_lt.mp hcapabilities, not_lt.mp hschemas, fun s h => (hs s h).1,
                          fun s h => (hs s h).2, bytes, hbytes, not_lt.mp hle⟩

/-! ### The size of an offer -/

theorem checkedAddMul_eq_some {total count width t : Nat}
    (h : checkedAddMul total count width = some t) : t = total + count * width ∧ t ≤ usizeMax := by
  simp only [checkedAddMul, Option.bind_eq_some_iff, checkedMul_eq_some, checkedAdd_eq_some] at h
  obtain ⟨_, ⟨-, rfl⟩, hle, rfl⟩ := h
  exact ⟨rfl, hle⟩

theorem accountedCodecBytes_le {contracts : List SchemaContractOffer} {total t : Nat}
    (hc : ∀ c ∈ contracts, c.codecs ≠ [])
    (h : contracts.foldlM (fun t c => checkedAddMul t c.codecs.length 16) total = some t) :
    total + contracts.length * 16 ≤ t ∧ (total ≤ usizeMax → t ≤ usizeMax) := by
  induction contracts generalizing total with
  | nil =>
    cases h
    simp
  | cons c rest ih =>
    rw [List.foldlM_cons, Option.bind_eq_bind, Option.bind_eq_some_iff] at h
    obtain ⟨t', ht', h⟩ := h
    obtain ⟨rfl, hmax⟩ := checkedAddMul_eq_some ht'
    have hpos := List.length_pos_of_ne_nil (hc c (List.mem_cons_self ..))
    obtain ⟨hrest, hrestMax⟩ := ih (fun c' hc' => hc c' (List.mem_cons_of_mem _ hc')) h
    rw [List.length_cons]
    exact ⟨by omega, fun _ => hrestMax hmax⟩

/-- A schema accounts for its identity, its requirement, one contract and one codec at least. -/
theorem accountedSchemaBytes_le {schemas : List SchemaOffer} {total t : Nat}
    (hs : ∀ s ∈ schemas, s.contracts ≠ [] ∧ ∀ c ∈ s.contracts, c.codecs ≠ [])
    (h : accountedSchemaBytes total schemas = some t) :
    total + schemas.length * 49 ≤ t ∧ (total ≤ usizeMax → t ≤ usizeMax) := by
  induction schemas generalizing total with
  | nil =>
    cases h
    simp
  | cons s rest ih =>
    simp only [accountedSchemaBytes, Option.bind_eq_bind, Option.bind_eq_some_iff,
      checkedAdd_eq_some] at h
    obtain ⟨_, ⟨-, rfl⟩, t₂, ht₂, t₃, ht₃, h⟩ := h
    obtain ⟨rfl, hmax⟩ := checkedAddMul_eq_some ht₂
    obtain ⟨hcontracts, hcodecs⟩ := hs s (List.mem_cons_self ..)
    have hpos := List.length_pos_of_ne_nil hcontracts
    obtain ⟨hcodec, hcodecMax⟩ := accountedCodecBytes_le hcodecs ht₃
    obtain ⟨hrest, hrestMax⟩ := ih (fun s' hs' => hs s' (List.mem_cons_of_mem _ hs')) h
    rw [List.length_cons]
    exact ⟨by omega, fun _ => hrestMax (hcodecMax hmax)⟩

/-- The contract that selects everything an offer lists is no larger than the offer. -/
theorem CompatibilityOffer.Valid.size_le {o : CompatibilityOffer} {l : OfferLimits}
    (h : o.Valid l) :
    32 + o.capabilities.length * 16 + o.schemas.length * 48 ≤ l.maxOfferAccountedBytes ∧
      32 + o.capabilities.length * 16 + o.schemas.length * 48 ≤ usizeMax := by
  obtain ⟨bytes, hbytes, hle⟩ := h.bytes
  have hprotocols := List.length_pos_of_ne_nil h.protocols
  simp only [accountedOfferBytes] at hbytes
  split at hbytes
  · rename_i total ht
    cases hbytes
    simp only [Option.bind_eq_bind, Option.bind_eq_some_iff] at ht
    obtain ⟨t₁, h₁, t₂, h₂, t₃, h₃, h₄⟩ := ht
    obtain ⟨rfl, -⟩ := checkedAddMul_eq_some h₁
    obtain ⟨rfl, hmax⟩ := checkedAddMul_eq_some h₂
    obtain ⟨hschemas, hschemasMax⟩ :=
      accountedSchemaBytes_le (fun s hs => ⟨h.contracts s hs, h.codecs s hs⟩) h₃
    have hlabel : t₃ ≤ bytes ∧ bytes ≤ usizeMax := by
      have := hschemasMax hmax
      split at h₄
      · rw [checkedAdd_eq_some] at h₄
        omega
      · cases h₄
        exact ⟨le_refl _, this⟩
    omega
  · cases hbytes

/-! ### Selections -/

theorem NegotiatedContract.accountedBytes_ok {c : NegotiatedContract}
    (h : 32 + c.capabilities.card * 16 + c.schemas.size * 48 ≤ usizeMax) :
    c.accountedBytes = .ok (32 + c.capabilities.card * 16 + c.schemas.size * 48) := by
  have hcapabilities : checkedMul usizeMax c.capabilities.card 16 =
      some (c.capabilities.card * 16) := checkedMul_eq_some.mpr ⟨by omega, rfl⟩
  have hschemas : checkedMul usizeMax c.schemas.size 48 = some (c.schemas.size * 48) :=
    checkedMul_eq_some.mpr ⟨by omega, rfl⟩
  have hfirst : checkedAdd usizeMax 32 (c.capabilities.card * 16) =
      some (32 + c.capabilities.card * 16) := checkedAdd_eq_some.mpr ⟨by omega, rfl⟩
  have hsecond := checkedAdd_eq_some.mpr ⟨h, rfl⟩
  simp only [accountedBytes, hcapabilities, hschemas, hfirst, hsecond, Option.bind_eq_bind,
    Option.bind_some]

namespace NegotiationAttempt

/-- What a selection must satisfy: every condition of `validateSelection`. -/
structure Selects (a : NegotiationAttempt) (c : NegotiatedContract) (r : NegotiationRequirements) :
    Prop where
  protocol : a.authorityOffer.supportsProtocol c.protocol = true ∧
    a.peerOffer.supportsProtocol c.protocol = true
  counts : c.capabilities.card ≤ a.offerLimits.maxCapabilities ∧
    c.schemas.size ≤ a.offerLimits.maxSchemas
  bytes : ∃ bytes, c.accountedBytes = .ok bytes ∧ bytes ≤ a.offerLimits.maxOfferAccountedBytes
  capabilities : ∀ id ∈ c.capabilities,
    (a.authorityOffer.capability id).isSome ∧ (a.peerOffer.capability id).isSome
  schemas : ∀ id b, c.schemas.get? id = some b → a.authorityOffer.supportsSchemaBinding id b = true ∧
    a.peerOffer.supportsSchemaBinding id b = true
  required : ∀ id ∈ a.authorityOffer.requiredCapabilities ++ a.peerOffer.requiredCapabilities,
    id ∈ c.capabilities
  requiredSchemas : ∀ id ∈ a.authorityOffer.requiredSchemas ++ a.peerOffer.requiredSchemas,
    (c.schemas.get? id).isSome
  imposed : ∀ id ∈ r.requiredCapabilities, ((a.authorityOffer.capability id).isSome ∧
    (a.peerOffer.capability id).isSome) ∧ id ∈ c.capabilities
  imposedSchemas : ∀ id ∈ r.requiredSchemas,
    hasCommonSchemaBinding a.authorityOffer a.peerOffer id = true ∧ (c.schemas.get? id).isSome

variable {a : NegotiationAttempt} {c : NegotiatedContract} {r : NegotiationRequirements}

theorem checkRequiredCapabilities_ok {ids : List CapabilityId} :
    a.checkRequiredCapabilities c ids = .ok () ↔ ∀ id ∈ ids,
      ((a.authorityOffer.capability id).isSome ∧ (a.peerOffer.capability id).isSome) ∧
        id ∈ c.capabilities := by
  induction ids with
  | nil => exact ⟨fun _ => nofun, fun _ => rfl⟩
  | cons id rest ih =>
    unfold checkRequiredCapabilities
    rw [List.forall_mem_cons, ← ih]
    split
    · rename_i h
      exact ⟨nofun, fun h' => absurd h'.1.1 h⟩
    · rename_i h
      rw [not_not] at h
      split
      · rename_i hmem
        exact ⟨nofun, fun h' => absurd h'.1.2 hmem⟩
      · rename_i hmem
        exact ⟨fun h' => ⟨⟨h, not_not.mp hmem⟩, h'⟩, fun h' => h'.2⟩

theorem checkRequiredSchemas_ok {ids : List SchemaId} :
    a.checkRequiredSchemas c ids = .ok () ↔ ∀ id ∈ ids,
      hasCommonSchemaBinding a.authorityOffer a.peerOffer id = true ∧ (c.schemas.get? id).isSome := by
  induction ids with
  | nil => exact ⟨fun _ => nofun, fun _ => rfl⟩
  | cons id rest ih =>
    unfold checkRequiredSchemas
    rw [List.forall_mem_cons, ← ih]
    split
    · rename_i h
      exact ⟨nofun, fun h' => absurd h'.1.1 h⟩
    · rename_i h
      rw [not_not] at h
      split
      · rename_i hnone
        exact ⟨nofun, fun h' => absurd h'.1.2 (by simpa using hnone)⟩
      · rename_i hsome
        exact ⟨fun h' => ⟨⟨h, by simpa [Option.isSome_iff_ne_none] using hsome⟩, h'⟩, fun h' => h'.2⟩

theorem validateSelection_ok : a.validateSelection c r = .ok () ↔ a.Selects c r := by
  constructor
  · intro h
    unfold validateSelection at h
    split at h
    · cases h
    · rename_i hprotocol
      split at h
      · cases h
      · rename_i hcounts
        split at h
        · cases h
        · rename_i bytes hbytes
          split at h
          · cases h
          · rename_i hle
            split at h
            · cases h
            · rename_i hcapabilities
              split at h
              · cases h
              · rename_i hschemas
                split at h
                · cases h
                · rename_i hrequired
                  split at h
                  · cases h
                  · rename_i hrequiredSchemas
                    split at h
                    · cases h
                    · rename_i himposed
                      refine ⟨?_, ?_, ⟨bytes, hbytes, not_lt.mp hle⟩, ?_, ?_, ?_, ?_,
                        checkRequiredCapabilities_ok.mp himposed, checkRequiredSchemas_ok.mp h⟩
                      · simpa [not_or] using hprotocol
                      · simpa [not_or] using hcounts
                      · intro id hid
                        have := fun h' => hcapabilities ⟨id, hid, h'⟩
                        simpa [not_or, Option.isSome_iff_ne_none] using this
                      · intro id b hb
                        have := fun h' => hschemas ⟨(id, b), SortedMap.get?_eq_some.mp hb, h'⟩
                        simpa [not_or] using this
                      · exact fun id hid => by_contra fun h' => hrequired ⟨id, hid, h'⟩
                      · intro id hid
                        have := fun h' => hrequiredSchemas ⟨id, hid, h'⟩
                        simpa [Option.isSome_iff_ne_none] using this
  · intro h
    obtain ⟨bytes, hbytes, hle⟩ := h.bytes
    unfold validateSelection
    rw [if_neg (by simp [h.protocol.1, h.protocol.2]),
      if_neg (by simpa [not_or] using h.counts)]
    simp only [hbytes]
    rw [if_neg (not_lt.mpr hle), if_neg, if_neg, if_neg, if_neg,
      checkRequiredCapabilities_ok.mpr h.imposed]
    · exact checkRequiredSchemas_ok.mpr h.imposedSchemas
    · rintro ⟨id, hid, hnone⟩
      have := h.requiredSchemas id hid
      simp_all
    · rintro ⟨id, hid, hnot⟩
      exact hnot (h.required id hid)
    · rintro ⟨⟨id, b⟩, hmem, hnot⟩
      obtain ⟨h1, h2⟩ := h.schemas id b (SortedMap.get?_eq_some.mpr hmem)
      rcases hnot with hnot | hnot
      · exact hnot h1
      · exact hnot h2
    · rintro ⟨id, hid, hnone⟩
      obtain ⟨h1, h2⟩ := h.capabilities id hid
      rcases hnone with hnone | hnone
      · rw [Option.isNone_iff_eq_none] at hnone
        rw [hnone] at h1
        cases h1
      · rw [Option.isNone_iff_eq_none] at hnone
        rw [hnone] at h2
        cases h2

/-- Whether a selection is accepted depends on the offers and the limits only. -/
theorem Selects.of_offers {a' : NegotiationAttempt} (h : a.Selects c r)
    (ha : a'.authorityOffer = a.authorityOffer) (hp : a'.peerOffer = a.peerOffer)
    (hl : a'.offerLimits = a.offerLimits) : a'.Selects c r := by
  obtain ⟨_, _, _, _, _, _⟩ := a
  obtain ⟨_, _, _, _, _, _⟩ := a'
  cases ha
  cases hp
  cases hl
  exact ⟨h.protocol, h.counts, h.bytes, h.capabilities, h.schemas, h.required, h.requiredSchemas,
    h.imposed, h.imposedSchemas⟩

theorem propose_ok {a' : NegotiationAttempt} (h : a.propose c r = .ok a') :
    a.proposal = none ∧ a.Selects c r ∧ a' = { a with proposal := some c } := by
  unfold propose at h
  split at h
  · cases h
  · split at h
    · cases h
    · rename_i hnone
      split at h
      · cases h
      · rename_i hselection
        cases h
        exact ⟨by simpa using hnone, validateSelection_ok.mp hselection, rfl⟩

end NegotiationAttempt

/-! ### Finding a selection -/

theorem ValidatedOffer.mem_requiredCapabilities {o : ValidatedOffer} {id : CapabilityId}
    (h : id ∈ o.requiredCapabilities) : id ∈ o.offer.capabilities.map CapabilityOffer.id := by
  obtain ⟨entry, hentry, hid⟩ := List.mem_filterMap.mp h
  split at hid
  · exact List.mem_map.mpr ⟨entry, hentry, Option.some.inj hid⟩
  · cases hid

theorem ValidatedOffer.capability_isSome {o : ValidatedOffer} {id : CapabilityId} :
    (o.capability id).isSome ↔ id ∈ o.offer.capabilities.map CapabilityOffer.id := by
  simp [ValidatedOffer.capability, List.find?_isSome, List.mem_map]

theorem ValidatedOffer.schema_mem {o : ValidatedOffer} {id : SchemaId} {s : SchemaOffer}
    (h : o.schema id = some s) : id ∈ o.offer.schemas.map SchemaOffer.id :=
  List.mem_map.mpr ⟨s, List.mem_of_find?_eq_some h, by simpa using List.find?_some h⟩

/-- Two offers have a binding of the schema in common exactly if some binding is in both. -/
theorem hasCommonSchemaBinding_iff {a p : ValidatedOffer} {id : SchemaId} :
    hasCommonSchemaBinding a p id = true ↔
      ∃ b, a.supportsSchemaBinding id b = true ∧ p.supportsSchemaBinding id b = true := by
  unfold hasCommonSchemaBinding ValidatedOffer.supportsSchemaBinding
  cases ha : a.schema id with
  | none => simp
  | some sa =>
    cases hp : p.schema id with
    | none => simp
    | some sp =>
      simp only [List.any_eq_true, Bool.and_eq_true, decide_eq_true_eq, Option.any_some]
      constructor
      · rintro ⟨ca, hca, cp, hcp, hid, codec, hcodec, hmem⟩
        exact ⟨⟨ca.contractId, codec⟩, ⟨ca, hca, rfl, hcodec⟩, ⟨cp, hcp, hid.symm, hmem⟩⟩
      · rintro ⟨b, ⟨ca, hca, hid, hcodec⟩, ⟨cp, hcp, hid', hcodec'⟩⟩
        exact ⟨ca, hca, cp, hcp, hid.trans hid'.symm, b.codecId, hcodec, hcodec'⟩

theorem hasCommonSchemaBinding_comm {a p : ValidatedOffer} {id : SchemaId}
    (h : hasCommonSchemaBinding a p id = true) : hasCommonSchemaBinding p a id = true := by
  obtain ⟨b, ha, hp⟩ := hasCommonSchemaBinding_iff.mp h
  exact hasCommonSchemaBinding_iff.mpr ⟨b, hp, ha⟩

theorem hasCommonSchemaBinding_mem {a p : ValidatedOffer} {id : SchemaId}
    (h : hasCommonSchemaBinding a p id = true) : id ∈ a.offer.schemas.map SchemaOffer.id := by
  unfold hasCommonSchemaBinding at h
  split at h
  · rename_i sa _ ha _
    exact a.schema_mem ha
  · cases h

theorem verifyOfferRequirements_ok {requiring other : ValidatedOffer} :
    verifyOfferRequirements requiring other = .ok () ↔
      (∀ id ∈ requiring.requiredCapabilities, (other.capability id).isSome) ∧
      ∀ id ∈ requiring.requiredSchemas, hasCommonSchemaBinding requiring other id = true := by
  unfold verifyOfferRequirements
  split
  · rename_i id hid
    have hmem := List.mem_of_find?_eq_some hid
    have hnone := List.find?_some hid
    refine ⟨nofun, fun h => ?_⟩
    have hsome := h.1 id hmem
    simp_all
  · rename_i hcapabilities
    have hcapabilities : ∀ id ∈ requiring.requiredCapabilities, (other.capability id).isSome := by
      simpa [List.find?_eq_none, Option.isSome_iff_ne_none] using hcapabilities
    split
    · rename_i id hid
      have hmem := List.mem_of_find?_eq_some hid
      have hnot := List.find?_some hid
      refine ⟨nofun, fun h => ?_⟩
      have hcommon := h.2 id hmem
      simp_all
    · rename_i hschemas
      exact ⟨fun _ => ⟨hcapabilities, by simpa [List.find?_eq_none] using hschemas⟩, fun _ => rfl⟩

/-- Common bindings for any schemas that have one. -/
theorem exists_bindings {a p : ValidatedOffer} (ids : List SchemaId)
    (h : ∀ id ∈ ids, hasCommonSchemaBinding a p id = true) :
    ∃ m : SortedMap SchemaId SelectedSchema, (∀ id ∈ ids, (m.get? id).isSome) ∧
      ∀ id b, m.get? id = some b → id ∈ ids ∧ a.supportsSchemaBinding id b = true ∧
        p.supportsSchemaBinding id b = true := by
  induction ids with
  | nil => exact ⟨.empty, nofun, fun id b hb => by cases hb⟩
  | cons id rest ih =>
    obtain ⟨m, hall, hsound⟩ := ih fun id' hid' => h id' (List.mem_cons_of_mem _ hid')
    obtain ⟨b, ha, hp⟩ := hasCommonSchemaBinding_iff.mp (h id (List.mem_cons_self ..))
    refine ⟨m.insert id b, fun id' hid' => ?_, fun id' b' hb' => ?_⟩
    · rw [SortedMap.get?_insert]
      split
      · rfl
      · rename_i hne
        exact hall id' ((List.mem_cons.mp hid').resolve_left hne)
    · rw [SortedMap.get?_insert] at hb'
      split at hb'
      · rename_i heq
        cases hb'
        exact ⟨List.mem_cons.mpr (.inl heq), heq ▸ ha, heq ▸ hp⟩
      · obtain ⟨hmem, hb'⟩ := hsound id' b' hb'
        exact ⟨List.mem_cons_of_mem _ hmem, hb'⟩

namespace NegotiationAttempt

variable {ao po : CompatibilityOffer} {l : OfferLimits} {a p : ValidatedOffer}

/-- The attempt that two validated offers open. -/
def opened (a p : ValidatedOffer) (l : OfferLimits) : NegotiationAttempt :=
  ⟨a, p, l, none, false, false⟩

theorem new_ok {attempt : NegotiationAttempt} (h : new ao po l = .ok attempt) :
    ∃ a p, ao.validate l = .ok a ∧ po.validate l = .ok p ∧ attempt = opened a p l := by
  unfold new at h
  split at h
  · cases h
  · rename_i a ha
    split at h
    · cases h
    · rename_i p hp
      split at h
      · cases h
      · split at h
        · cases h
        · split at h
          · cases h
          · cases h
            exact ⟨a, p, ha, hp, rfl⟩

/-- The conditions under which an attempt is opened. -/
structure Compatible (a p : ValidatedOffer) : Prop where
  protocol : ∃ q ∈ a.offer.protocols, q ∈ p.offer.protocols
  capabilities : (∀ id ∈ a.requiredCapabilities, (p.capability id).isSome) ∧
    ∀ id ∈ p.requiredCapabilities, (a.capability id).isSome
  schemas : (∀ id ∈ a.requiredSchemas, hasCommonSchemaBinding a p id = true) ∧
    ∀ id ∈ p.requiredSchemas, hasCommonSchemaBinding p a id = true

theorem new_ok_iff (ha : ao.validate l = .ok a) (hp : po.validate l = .ok p) :
    (∃ attempt, new ao po l = .ok attempt) ↔ Compatible a p := by
  unfold new
  simp only [ha, hp]
  have hprotocol : (a.offer.protocols.any p.supportsProtocol = true) ↔
      ∃ q ∈ a.offer.protocols, q ∈ p.offer.protocols := by
    simp [List.any_eq_true, ValidatedOffer.supportsProtocol]
  split
  · rename_i hnot
    refine ⟨nofun, fun h => absurd (hprotocol.mpr h.protocol) hnot⟩
  · rename_i hany
    rw [not_not] at hany
    split
    · rename_i err herr
      refine ⟨nofun, fun h => ?_⟩
      rw [verifyOfferRequirements_ok.mpr ⟨h.capabilities.1, h.schemas.1⟩] at herr
      cases herr
    · rename_i hfirst
      obtain ⟨hc, hs⟩ := verifyOfferRequirements_ok.mp hfirst
      split
      · rename_i err herr
        refine ⟨nofun, fun h => ?_⟩
        rw [verifyOfferRequirements_ok.mpr ⟨h.capabilities.2, h.schemas.2⟩] at herr
        cases herr
      · rename_i hsecond
        obtain ⟨hc', hs'⟩ := verifyOfferRequirements_ok.mp hsecond
        exact ⟨fun _ => ⟨hprotocol.mp hany, ⟨hc, hc'⟩, hs, hs'⟩, fun _ => ⟨_, rfl⟩⟩

/-- The selection of a common protocol and of everything required. -/
theorem Compatible.selects (ha : a.offer.Valid l) (h : Compatible a p) :
    ∃ c, (opened a p l).Selects c ⟨[], []⟩ := by
  obtain ⟨q, hqa, hqp⟩ := h.protocol
  have hcommon : ∀ id ∈ a.requiredSchemas ++ p.requiredSchemas,
      hasCommonSchemaBinding a p id = true := fun id hid => by
    rcases List.mem_append.mp hid with hid | hid
    · exact h.schemas.1 id hid
    · exact hasCommonSchemaBinding_comm (h.schemas.2 id hid)
  obtain ⟨m, hall, hsound⟩ := exists_bindings _ hcommon
  let capabilities := (a.requiredCapabilities ++ p.requiredCapabilities).toFinset
  have hboth : ∀ id ∈ capabilities, (a.capability id).isSome ∧ (p.capability id).isSome := by
    intro id hid
    rcases List.mem_append.mp (List.mem_toFinset.mp hid) with hid | hid
    · exact ⟨a.capability_isSome.mpr (a.mem_requiredCapabilities hid), h.capabilities.1 id hid⟩
    · exact ⟨h.capabilities.2 id hid, p.capability_isSome.mpr (p.mem_requiredCapabilities hid)⟩
  have hcard : capabilities.card ≤ a.offer.capabilities.length := by
    have hsub : capabilities ⊆ (a.offer.capabilities.map CapabilityOffer.id).toFinset := fun id hid =>
      List.mem_toFinset.mpr (a.capability_isSome.mp (hboth id hid).1)
    calc capabilities.card ≤ _ := Finset.card_le_card hsub
      _ ≤ _ := List.toFinset_card_le _
      _ = _ := List.length_map ..
  have hsize : m.size ≤ a.offer.schemas.length := by
    have := SortedMap.size_le_of_keys (l := a.offer.schemas.map SchemaOffer.id) fun id b hb =>
      hasCommonSchemaBinding_mem (hcommon id (hsound id b hb).1)
    rwa [List.length_map] at this
  obtain ⟨hbytes, hmax⟩ := ha.size_le
  refine ⟨⟨q, capabilities, m⟩, ⟨?_, ?_⟩, ⟨hcard.trans ha.capabilities, hsize.trans ha.schemas⟩, ?_,
    hboth, fun id b hb => (hsound id b hb).2, fun id hid => List.mem_toFinset.mpr hid, hall,
    nofun, nofun⟩
  · exact decide_eq_true hqa
  · exact decide_eq_true hqp
  · exact ⟨_, NegotiatedContract.accountedBytes_ok (by simp only; omega), by
      simp only [opened]; omega⟩

theorem Selects.compatible {c : NegotiatedContract} (h : (opened a p l).Selects c ⟨[], []⟩) :
    Compatible a p where
  protocol := by
    obtain ⟨ha, hp⟩ := h.protocol
    exact ⟨c.protocol, of_decide_eq_true ha, of_decide_eq_true hp⟩
  capabilities := ⟨fun id hid => (h.capabilities id (h.required id
      (List.mem_append_left _ hid))).2, fun id hid => (h.capabilities id (h.required id
      (List.mem_append_right _ hid))).1⟩
  schemas := by
    have hbound : ∀ id ∈ a.requiredSchemas ++ p.requiredSchemas,
        hasCommonSchemaBinding a p id = true := fun id hid => by
      obtain ⟨b, hb⟩ := Option.isSome_iff_exists.mp (h.requiredSchemas id hid)
      exact hasCommonSchemaBinding_iff.mpr ⟨b, h.schemas id b hb⟩
    exact ⟨fun id hid => hbound id (List.mem_append_left _ hid), fun id hid =>
      hasCommonSchemaBinding_comm (hbound id (List.mem_append_right _ hid))⟩

/-- For two valid offers an attempt is opened exactly if some contract would be accepted as its
proposal. -/
theorem new_succeeds_iff (ha : ao.validate l = .ok a) (hp : po.validate l = .ok p) :
    (∃ attempt, new ao po l = .ok attempt) ↔
      ∃ c, (opened a p l).validateSelection c ⟨[], []⟩ = .ok () := by
  rw [new_ok_iff ha hp]
  obtain ⟨rfl, hvalid⟩ := CompatibilityOffer.validate_ok ha
  constructor
  · intro h
    obtain ⟨c, hc⟩ := h.selects hvalid
    exact ⟨c, validateSelection_ok.mpr hc⟩
  · rintro ⟨c, hc⟩
    exact (validateSelection_ok.mp hc).compatible

/-- One protocol, one required capability and one required schema. -/
def sampleOffer : CompatibilityOffer where
  protocols := [⟨⟨1⟩, ⟨1⟩⟩]
  capabilities := [⟨⟨2⟩, .required⟩]
  schemas := [⟨⟨3⟩, .required, [⟨⟨4⟩, [⟨5⟩, ⟨6⟩]⟩]⟩]
  diagnosticLabel := none

theorem new_succeeds_sample :
    ∃ c, (opened ⟨sampleOffer, 114⟩ ⟨sampleOffer, 114⟩ .default).validateSelection c ⟨[], []⟩ =
      .ok () :=
  (new_succeeds_iff (show sampleOffer.validate .default = .ok _ from rfl)
    (show sampleOffer.validate .default = .ok _ from rfl)).mp ⟨_, rfl⟩

end NegotiationAttempt

end RunenNet
