import RunenNet.Quic.NegotiationCodec
import RunenNet.Foundation.Exact

/-!
# The offer codec

The decoder of offers accepts exactly the encodings of the label-free offers within its limits.
-/

namespace RunenNet

open Foundation Reader

/-! ### Values that have an encoding -/

/-- Identities of negotiation have 128 bits. -/
def Ident.Fits {d : Domain} (id : Ident d) : Prop := id.get < 2 ^ 128

def ProtocolContract.Fits (p : ProtocolContract) : Prop := p.id.Fits ∧ p.revision.Fits

def CapabilityOffer.Fits (c : CapabilityOffer) : Prop := c.id.Fits

namespace SchemaContractOffer

def Fits (c : SchemaContractOffer) : Prop := c.contractId.Fits ∧ ∀ codec ∈ c.codecs, codec.Fits

def bytes (c : SchemaContractOffer) : List UInt8 :=
  bigEndian 16 c.contractId.get ++ (varintBytes c.codecs.length ++
    c.codecs.flatMap fun codec => bigEndian 16 codec.get)

/-- What the lists of a contract or a schema are charged. -/
def listCost (c : SchemaContractOffer) : Nat := c.codecs.length * 16

end SchemaContractOffer

namespace SchemaOffer

def Fits (s : SchemaOffer) : Prop := s.id.Fits ∧ ∀ c ∈ s.contracts, c.Fits

def bytes (s : SchemaOffer) : List UInt8 :=
  bigEndian 16 s.id.get ++ ([encodeRequirement s.requirement] ++ (varintBytes s.contracts.length ++
    s.contracts.flatMap SchemaContractOffer.bytes))

def listCost (s : SchemaOffer) : Nat :=
  s.contracts.length * 16 + (s.contracts.map SchemaContractOffer.listCost).sum

/-- The lists of the schema are within the limits. -/
def Counts (l : OfferLimits) (s : SchemaOffer) : Prop :=
  s.contracts.length ≤ l.maxContractsPerSchema ∧
    ∀ c ∈ s.contracts, c.codecs.length ≤ l.maxCodecsPerContract

end SchemaOffer

namespace CompatibilityOffer

structure Fits (o : CompatibilityOffer) : Prop where
  protocols : ∀ p ∈ o.protocols, p.Fits
  capabilities : ∀ c ∈ o.capabilities, c.Fits
  schemas : ∀ s ∈ o.schemas, s.Fits

def bytes (o : CompatibilityOffer) : List UInt8 :=
  varintBytes o.protocols.length ++ ((o.protocols.flatMap fun p =>
    bigEndian 16 p.id.get ++ bigEndian 16 p.revision.get) ++
  (varintBytes o.capabilities.length ++ ((o.capabilities.flatMap fun c =>
    bigEndian 16 c.id.get ++ [encodeRequirement c.requirement]) ++
  (varintBytes o.schemas.length ++ o.schemas.flatMap SchemaOffer.bytes))))

/-- The accounted size of an offer without a label. -/
def cost (o : CompatibilityOffer) : Nat :=
  o.protocols.length * 32 + o.capabilities.length * 17 + o.schemas.length * 17 +
    (o.schemas.map SchemaOffer.listCost).sum

/-- The lists of the offer are within the limits. -/
structure Counts (l : OfferLimits) (o : CompatibilityOffer) : Prop where
  protocols : o.protocols.length ≤ l.maxProtocols
  capabilities : o.capabilities.length ≤ l.maxCapabilities
  schemas : o.schemas.length ≤ l.maxSchemas
  lists : ∀ s ∈ o.schemas, s.Counts l

end CompatibilityOffer

/-- The lists that can be counted in a varint. -/
def wireLimits : OfferLimits :=
  ⟨maxVarint, maxVarint, maxVarint, maxVarint, maxVarint, 0, usizeMax⟩

/-! ### Readers of parts -/

theorem readId_exact : Exact readId (· < 2 ^ 128) (bigEndian 16) := fun input id rest => by
  have hpow : (256 : Nat) ^ 16 = 2 ^ 128 := by norm_num
  unfold readId
  split
  · rename_i hshort
    simp only [reduceCtorEq, false_iff]
    rintro ⟨-, rfl⟩
    rw [List.length_append, bigEndian_length] at hshort
    omega
  · rename_i hlong
    have htake : (input.take 16).length = 16 := by
      rw [List.length_take]
      omega
    simp only [Except.ok.injEq, Prod.mk.injEq]
    constructor
    · rintro ⟨rfl, rfl⟩
      refine ⟨?_, ?_⟩
      · have := ofBigEndian_lt (input.take 16)
        rwa [htake, hpow] at this
      · have := bigEndian_ofBigEndian 0 (input.take 16)
        rw [htake] at this
        rw [this, List.take_append_drop]
    · rintro ⟨hid, rfl⟩
      rw [← hpow] at hid
      rw [List.take_left' (bigEndian_length 16 id), List.drop_left' (bigEndian_length 16 id)]
      exact ⟨ofBigEndian_zero_bigEndian hid, rfl⟩

theorem readCount_exact : Exact readCount (· ≤ maxVarint) varintBytes :=
  varintReader_exact NegotiationWireError.varInt

theorem readRequirement_exact :
    Exact readRequirement (fun _ => True) fun r => [encodeRequirement r] := fun input r rest => by
  have hdecode : ∀ b, decodeRequirement b = .ok r ↔ b = encodeRequirement r := fun b => by
    unfold decodeRequirement
    split
    · cases r <;> simp_all [encodeRequirement]
    · split
      · cases r <;> simp_all [encodeRequirement]
      · cases r <;> simp_all [encodeRequirement]
  simp only [readRequirement, bind_eq_ok, lift_eq_ok, hdecode, true_and]
  cases input with
  | nil => simp [readByte]
  | cons b bs =>
    simp only [readByte, Except.ok.injEq, Prod.mk.injEq, List.cons_append, List.nil_append,
      List.cons.injEq]
    constructor
    · rintro ⟨_, _, ⟨rfl, rfl⟩, hb, rfl⟩
      exact ⟨hb, rfl⟩
    · rintro ⟨hb, rfl⟩
      exact ⟨_, _, ⟨rfl, rfl⟩, hb, rfl⟩

theorem readProtocol_exact : Exact readProtocol ProtocolContract.Fits fun p =>
    bigEndian 16 p.id.get ++ bigEndian 16 p.revision.get := fun input p rest => by
  simp only [readProtocol, bind_eq_ok, readId_exact _ _ _, pure_eq_ok, List.append_assoc]
  constructor
  · rintro ⟨_, _, ⟨hid, rfl⟩, _, _, ⟨hrevision, rfl⟩, heq⟩
    cases heq
    exact ⟨⟨hid, hrevision⟩, rfl⟩
  · rintro ⟨⟨hid, hrevision⟩, rfl⟩
    exact ⟨_, _, ⟨hid, rfl⟩, _, rest, ⟨hrevision, rfl⟩, rfl⟩

theorem readCapability_exact : Exact readCapability CapabilityOffer.Fits fun c =>
    bigEndian 16 c.id.get ++ [encodeRequirement c.requirement] := fun input c rest => by
  simp only [readCapability, bind_eq_ok, readId_exact _ _ _, readRequirement_exact _ _ _, true_and,
    pure_eq_ok, List.append_assoc]
  constructor
  · rintro ⟨_, _, ⟨hid, rfl⟩, _, _, rfl, heq⟩
    cases heq
    exact ⟨hid, rfl⟩
  · rintro ⟨hid, rfl⟩
    exact ⟨_, _, ⟨hid, rfl⟩, _, rest, rfl, rfl⟩

theorem readCodec_exact : Exact readCodec Ident.Fits fun codec => bigEndian 16 codec.get :=
  fun input codec rest => by
    simp only [readCodec, bind_eq_ok, readId_exact _ _ _, pure_eq_ok]
    constructor
    · rintro ⟨_, _, ⟨hid, rfl⟩, heq⟩
      cases heq
      exact ⟨hid, rfl⟩
    · rintro ⟨hid, rfl⟩
      exact ⟨_, rest, ⟨hid, rfl⟩, rfl⟩

theorem readBoundedCount_exact {limit : Nat} {exceeded : NegotiationOutcome} :
    Exact (readBoundedCount limit exceeded) (fun n => n ≤ limit ∧ n ≤ maxVarint) varintBytes :=
  fun input n rest => by
    simp only [readBoundedCount, bind_eq_ok, mapError_eq_ok, readCount_exact _ _ _]
    constructor
    · rintro ⟨_, _, ⟨hmax, rfl⟩, h⟩
      split at h
      · cases h
      · rename_i hle
        cases pure_eq_ok.mp h
        exact ⟨⟨not_lt.mp hle, hmax⟩, rfl⟩
    · rintro ⟨⟨hle, hmax⟩, rfl⟩
      refine ⟨n, rest, ⟨hmax, rfl⟩, ?_⟩
      rw [if_neg (not_lt.mpr hle)]
      rfl

/-- The allocator that never refuses. -/
abbrev reserving : Nat → Bool := fun _ => true

@[simp] theorem reserveVec_eq_ok {count : Nat} {input : List UInt8} {r : Unit × List UInt8} :
    reserveVec reserving count input = .ok r ↔ r.2 = input := by
  obtain ⟨u, rest⟩ := r
  simp [reserveVec, eq_comm]

/-! ### The budget -/

namespace DecodeBudget

/-- The budget after `bytes` more. -/
def after (b : DecodeBudget) (bytes : Nat) : DecodeBudget := { b with used := b.used + bytes }

/-- There is room for `bytes` more. -/
def Room (b : DecodeBudget) (bytes : Nat) : Prop :=
  b.used + bytes ≤ b.limit ∧ b.used + bytes ≤ usizeMax

variable {b b' : DecodeBudget} {m n : Nat}

@[simp] theorem after_after (b : DecodeBudget) (m n : Nat) :
    (b.after m).after n = b.after (m + n) := by
  simp only [after, Nat.add_assoc]

@[simp] theorem room_after : (b.after m).Room n ↔ b.Room (m + n) := by
  simp only [Room, after, Nat.add_assoc]

theorem Room.after (h : b.Room m) : (b.after m).Room 0 := room_after.mpr h

theorem Room.mono (h : b.Room n) (hle : m ≤ n) : b.Room m := by
  obtain ⟨h1, h2⟩ := h
  exact ⟨by omega, by omega⟩

theorem chargeBytes_eq_ok : b.chargeBytes n = .ok b' ↔ b.Room n ∧ b' = b.after n := by
  unfold chargeBytes
  split
  · rename_i hnone
    have hover : ¬ b.used + n ≤ usizeMax := fun h => by
      rw [checkedAdd_eq_some.mpr ⟨h, rfl⟩] at hnone
      cases hnone
    exact ⟨nofun, fun h => absurd h.1.2 hover⟩
  · rename_i next hnext
    obtain ⟨hmax, rfl⟩ := checkedAdd_eq_some.mp hnext
    split
    · rename_i hlimit
      exact ⟨nofun, fun h => absurd h.1.1 (not_le.mpr hlimit)⟩
    · rename_i hlimit
      simp only [Except.ok.injEq]
      exact ⟨fun h => ⟨⟨not_lt.mp hlimit, hmax⟩, h.symm⟩, fun h => h.2.symm⟩

theorem chargeItems_eq_ok {count width : Nat} :
    b.chargeItems count width = .ok b' ↔ b.Room (count * width) ∧ b' = b.after (count * width) := by
  unfold chargeItems
  split
  · rename_i hnone
    have hover : ¬ count * width ≤ usizeMax := fun h => by
      rw [checkedMul_eq_some.mpr ⟨h, rfl⟩] at hnone
      cases hnone
    refine ⟨nofun, fun h => absurd h.1.2 ?_⟩
    omega
  · rename_i bytes hbytes
    obtain ⟨-, rfl⟩ := checkedMul_eq_some.mp hbytes
    exact chargeBytes_eq_ok

variable {α : Type} {V : α → Prop} {cost : α → Nat}

/-- Values charged one after the other are charged together. -/
theorem validFrom_iff (hb : b.Room 0) (as : List α) :
    ValidFrom (fun b a => V a ∧ Room b (cost a)) (fun b a => after b (cost a)) b as ↔
      (∀ a ∈ as, V a) ∧ b.Room (as.map cost).sum := by
  induction as generalizing b with
  | nil => simpa [ValidFrom] using hb
  | cons a as ih =>
    simp only [ValidFrom, List.forall_mem_cons, List.map_cons, List.sum_cons]
    constructor
    · rintro ⟨⟨ha, hroom⟩, has⟩
      obtain ⟨has, hrest⟩ := (ih hroom.after).mp has
      exact ⟨⟨ha, has⟩, room_after.mp hrest⟩
    · rintro ⟨⟨ha, has⟩, hroom⟩
      have hfirst : b.Room (cost a) := hroom.mono (Nat.le_add_right _ _)
      exact ⟨⟨ha, hfirst⟩, (ih hfirst.after).mpr ⟨has, room_after.mpr hroom⟩⟩

theorem foldl_after (b : DecodeBudget) (as : List α) :
    as.foldl (fun b a => after b (cost a)) b = b.after (as.map cost).sum := by
  induction as generalizing b with
  | nil => rfl
  | cons a as ih => rw [List.foldl_cons, ih, after_after, List.map_cons, List.sum_cons]

/-- `n` values in a row are charged together. -/
theorem many_exact {ε : Type} {p : DecodeBudget → Reader ε (α × DecodeBudget)} (V : α → Prop)
    (cost : α → Nat) {enc : α → List UInt8} (h : ∀ b, Exact (p b)
      (fun r => (V r.1 ∧ b.Room (cost r.1)) ∧ r.2 = b.after (cost r.1)) fun r => enc r.1)
    (n : Nat) (hb : b.Room 0) : Exact (manyState p n b)
      (fun r => r.1.length = n ∧ ((∀ a ∈ r.1, V a) ∧ b.Room (r.1.map cost).sum) ∧
        r.2 = b.after (r.1.map cost).sum) fun r => r.1.flatMap enc := by
  have hmany := Exact.manyState (fun b a => V a ∧ Room b (cost a)) (fun b a => after b (cost a)) h n b
  simpa only [validFrom_iff hb, foldl_after] using hmany

end DecodeBudget

/-! ### Offers -/

variable {l : OfferLimits}

/-- The contract has an encoding that is within the limits. -/
def SchemaContractOffer.Admitted (l : OfferLimits) (c : SchemaContractOffer) : Prop :=
  c.Fits ∧ c.codecs.length ≤ l.maxCodecsPerContract ∧ c.codecs.length ≤ maxVarint

theorem readContract_exact (b : DecodeBudget) : Exact (readContract reserving l b)
    (fun r => (r.1.Admitted l ∧ b.Room r.1.listCost) ∧ r.2 = b.after r.1.listCost)
    fun r => r.1.bytes := by
  rintro input ⟨c, b'⟩ rest
  simp only [readContract, bind_eq_ok, mapError_eq_ok, readId_exact _ _ _,
    readBoundedCount_exact _ _ _, lift_eq_ok, DecodeBudget.chargeItems_eq_ok, reserveVec_eq_ok,
    (readCodec_exact.mapError _).many _ _ _ _, pure_eq_ok]
  constructor
  · rintro ⟨_, _, ⟨hid, rfl⟩, _, _, ⟨hcount, rfl⟩, _, _, ⟨⟨hroom, rfl⟩, rfl⟩, _, _, rfl, _, _,
      ⟨⟨rfl, hcodecs⟩, rfl⟩, heq⟩
    cases heq
    refine ⟨⟨⟨⟨⟨hid, hcodecs⟩, hcount⟩, hroom⟩, rfl⟩, ?_⟩
    simp only [SchemaContractOffer.bytes, List.append_assoc]
  · rintro ⟨⟨⟨⟨⟨hid, hcodecs⟩, hcount⟩, hroom⟩, rfl⟩, rfl⟩
    refine ⟨_, _, ⟨hid, ?_⟩, _, _, ⟨hcount, rfl⟩, _, _, ⟨⟨hroom, rfl⟩, rfl⟩, (), _, rfl, _, rest,
      ⟨⟨rfl, hcodecs⟩, rfl⟩, rfl⟩
    simp only [SchemaContractOffer.bytes, List.append_assoc]

namespace SchemaOffer

/-- The schema has an encoding that is within the limits. -/
def Admitted (l : OfferLimits) (s : SchemaOffer) : Prop :=
  s.Fits ∧ s.Counts l ∧ s.Counts wireLimits

/-- The schema is admitted with its contracts. -/
theorem admitted_iff {s : SchemaOffer} : s.Admitted l ↔ s.id.Fits ∧
    (s.contracts.length ≤ l.maxContractsPerSchema ∧ s.contracts.length ≤ maxVarint) ∧
    ∀ c ∈ s.contracts, c.Admitted l := by
  constructor
  · rintro ⟨⟨hid, hfits⟩, ⟨hcount, hcounts⟩, hmax, hmaxes⟩
    exact ⟨hid, ⟨hcount, hmax⟩, fun c hc => ⟨hfits c hc, hcounts c hc, hmaxes c hc⟩⟩
  · rintro ⟨hid, ⟨hcount, hmax⟩, hall⟩
    exact ⟨⟨hid, fun c hc => (hall c hc).1⟩, ⟨hcount, fun c hc => (hall c hc).2.1⟩,
      hmax, fun c hc => (hall c hc).2.2⟩

end SchemaOffer

theorem readSchema_exact (b : DecodeBudget) : Exact (readSchema reserving l b)
    (fun r => (r.1.Admitted l ∧ b.Room r.1.listCost) ∧ r.2 = b.after r.1.listCost)
    fun r => r.1.bytes := by
  rintro input ⟨s, b'⟩ rest
  have hmany := fun n b (hb : DecodeBudget.Room b 0) => DecodeBudget.many_exact
    (SchemaContractOffer.Admitted l) SchemaContractOffer.listCost readContract_exact n hb
  simp only [readSchema, bind_eq_ok, mapError_eq_ok, readId_exact _ _ _,
    readRequirement_exact _ _ _, true_and, readBoundedCount_exact _ _ _, lift_eq_ok,
    DecodeBudget.chargeItems_eq_ok, reserveVec_eq_ok, pure_eq_ok, SchemaOffer.admitted_iff]
  constructor
  · rintro ⟨_, _, ⟨hid, rfl⟩, _, _, rfl, n, _, ⟨hcount, rfl⟩, _, _, ⟨⟨hroom, rfl⟩, rfl⟩, _, _, rfl,
      ⟨contracts, b''⟩, _, hcontracts, heq⟩
    obtain ⟨⟨rfl, ⟨hall, hlists⟩, hb⟩, rfl⟩ :=
      (hmany n _ hroom.after _ _ _).mp hcontracts
    cases heq
    rw [DecodeBudget.room_after] at hlists
    rw [DecodeBudget.after_after] at hb
    refine ⟨⟨⟨⟨hid, hcount, hall⟩, hlists⟩, hb⟩, ?_⟩
    simp only [SchemaOffer.bytes, List.append_assoc]
  · rintro ⟨⟨⟨⟨hid, hcount, hall⟩, hroom⟩, hb⟩, rfl⟩
    have hfirst : b.Room (s.contracts.length * 16) := hroom.mono (Nat.le_add_right _ _)
    refine ⟨_, _, ⟨hid, ?_⟩, _, _, rfl, _, s.contracts.flatMap SchemaContractOffer.bytes ++ rest,
      ⟨hcount, rfl⟩, _, _, ⟨⟨hfirst, rfl⟩, rfl⟩, (), _, rfl, (s.contracts, b'), rest, ?_, rfl⟩
    · simp only [SchemaOffer.bytes, List.append_assoc]
    · refine (hmany _ _ hfirst.after _ _ _).mpr
        ⟨⟨rfl, ⟨hall, DecodeBudget.room_after.mpr hroom⟩, ?_⟩, rfl⟩
      rw [DecodeBudget.after_after]
      exact hb

namespace CompatibilityOffer

/-- The offer has an encoding that is within the limits. -/
structure Admitted (l : OfferLimits) (o : CompatibilityOffer) : Prop where
  fits : o.Fits
  label : o.diagnosticLabel = none
  counts : o.Counts l
  wire : o.Counts wireLimits
  cost : o.cost ≤ l.maxOfferAccountedBytes ∧ o.cost ≤ usizeMax

end CompatibilityOffer

theorem readOffer_exact : Exact (readOffer reserving l) (CompatibilityOffer.Admitted l)
    CompatibilityOffer.bytes := by
  intro input o rest
  have hmany := fun n b (hb : DecodeBudget.Room b 0) => DecodeBudget.many_exact
    (SchemaOffer.Admitted l) SchemaOffer.listCost readSchema_exact n hb
  simp only [readOffer, bind_eq_ok, (readProtocol_exact.mapError _).many _ _ _ _,
    (readCapability_exact.mapError _).many _ _ _ _, readBoundedCount_exact _ _ _, lift_eq_ok,
    DecodeBudget.chargeItems_eq_ok, reserveVec_eq_ok, pure_eq_ok]
  constructor
  · rintro ⟨_, _, ⟨hp, rfl⟩, _, _, ⟨⟨hroom, rfl⟩, rfl⟩, _, _, rfl, ps, _, ⟨⟨rfl, hps⟩, rfl⟩,
      _, _, ⟨hc, rfl⟩, _, _, ⟨⟨hroom', rfl⟩, rfl⟩, _, _, rfl, cs, _, ⟨⟨rfl, hcs⟩, rfl⟩,
      n, _, ⟨hs, rfl⟩, _, _, ⟨⟨hroom'', rfl⟩, rfl⟩, _, _, rfl, ⟨ss, b⟩, _, hschemas, heq⟩
    obtain ⟨⟨rfl, ⟨hall, hlists⟩, -⟩, rfl⟩ :=
      (hmany n _ hroom''.after _ _ _).mp hschemas
    cases heq
    simp only [DecodeBudget.after_after, DecodeBudget.room_after] at hlists
    refine ⟨⟨⟨hps, hcs, fun s hs => (hall s hs).1⟩, rfl, ⟨hp.1, hc.1, hs.1, fun s hs =>
      (hall s hs).2.1⟩, ⟨hp.2, hc.2, hs.2, fun s hs => (hall s hs).2.2⟩, ?_⟩, ?_⟩
    · exact ⟨(Nat.zero_add _).symm.trans_le hlists.1, (Nat.zero_add _).symm.trans_le hlists.2⟩
    · simp only [CompatibilityOffer.bytes, List.append_assoc]
  · rintro ⟨⟨hfits, hlabel, hcounts, hwire, hcost⟩, rfl⟩
    obtain ⟨ps, cs, ss, label⟩ := o
    cases hlabel
    let budget : DecodeBudget := ⟨0, l.maxOfferAccountedBytes, .malformedOffer⟩
    have hroom : budget.Room (ps.length * 32 + cs.length * 17 + ss.length * 17 +
        (ss.map SchemaOffer.listCost).sum) :=
      ⟨(Nat.zero_add _).trans_le hcost.1, (Nat.zero_add _).trans_le hcost.2⟩
    have hthird := hroom.mono (Nat.le_add_right _ _)
    have hsecond := hthird.mono (Nat.le_add_right _ _)
    have hfirst := hsecond.mono (Nat.le_add_right _ _)
    have hstart : ((budget.after (ps.length * 32)).after (cs.length * 17)).after (ss.length * 17) =
        budget.after (ps.length * 32 + cs.length * 17 + ss.length * 17) := by
      simp only [DecodeBudget.after_after]
    have hschemas := (hmany ss.length _ hthird.after
      (ss.flatMap SchemaOffer.bytes ++ rest)
      (ss, (budget.after _).after (ss.map SchemaOffer.listCost).sum) rest).mpr
      ⟨⟨rfl, ⟨fun s hs => ⟨hfits.schemas s hs, hcounts.lists s hs, hwire.lists s hs⟩,
        DecodeBudget.room_after.mpr hroom⟩, rfl⟩, rfl⟩
    rw [← hstart] at hschemas
    refine ⟨_, _, ⟨⟨hcounts.protocols, hwire.protocols⟩, ?_⟩, _, _, ⟨⟨hfirst, rfl⟩, rfl⟩, (), _, rfl,
      ps, _, ⟨⟨rfl, hfits.protocols⟩, rfl⟩, _, _, ⟨⟨hcounts.capabilities, hwire.capabilities⟩, rfl⟩,
      _, _, ⟨⟨DecodeBudget.room_after.mpr hsecond, rfl⟩, rfl⟩, (), _, rfl, cs, _,
      ⟨⟨rfl, hfits.capabilities⟩, rfl⟩, _, ss.flatMap SchemaOffer.bytes ++ rest,
      ⟨⟨hcounts.schemas, hwire.schemas⟩, rfl⟩, _, _, ⟨⟨?_, rfl⟩, rfl⟩, (), _, rfl,
      _, rest, hschemas, rfl⟩
    · simp only [CompatibilityOffer.bytes, List.append_assoc]
    · rw [DecodeBudget.after_after]
      exact DecodeBudget.room_after.mpr hthird

/-! ### Writing -/

theorem pushCount_eq_ok {body out : List UInt8} {count : Nat} :
    pushCount body count = .ok out ↔ count ≤ maxVarint ∧ out = body ++ varintBytes count := by
  unfold pushCount
  split
  · rename_i e he
    refine ⟨nofun, fun h => ?_⟩
    rw [encodeVarint_eq h.1] at he
    cases he
  · rename_i bs hbs
    have hle := le_maxVarint_of_encode hbs
    rw [encodeVarint_eq hle, Except.ok.injEq] at hbs
    simp only [Except.ok.injEq, hbs]
    exact ⟨fun h => ⟨hle, h.symm⟩, fun h => h.2.symm⟩

theorem foldl_push {α : Type} (enc : α → List UInt8) (as : List α) (body : List UInt8) :
    as.foldl (fun body a => body ++ enc a) body = body ++ as.flatMap enc := by
  induction as generalizing body with
  | nil => exact (List.append_nil body).symm
  | cons a as ih => rw [List.foldl_cons, ih, List.flatMap_cons, List.append_assoc]

/-- Values are written one after the other if each can be written. -/
theorem foldlM_push_eq_ok {α : Type} {push : List UInt8 → α → Except NegotiationOutcome (List UInt8)}
    {V : α → Prop} {enc : α → List UInt8}
    (h : ∀ body a out, push body a = .ok out ↔ V a ∧ out = body ++ enc a) {as : List α}
    {body out : List UInt8} :
    as.foldlM push body = .ok out ↔ (∀ a ∈ as, V a) ∧ out = body ++ as.flatMap enc := by
  induction as generalizing body with
  | nil =>
    simp only [List.foldlM_nil, List.flatMap_nil, List.append_nil]
    exact ⟨fun h => ⟨nofun, (Except.ok.inj h).symm⟩, fun h => congrArg Except.ok h.2.symm⟩
  | cons a as ih =>
    rw [List.foldlM_cons, List.forall_mem_cons, List.flatMap_cons, ← List.append_assoc]
    cases hpush : push body a with
    | error e =>
      refine ⟨nofun, fun hall => ?_⟩
      rw [(h body a _).mpr ⟨hall.1.1, rfl⟩] at hpush
      cases hpush
    | ok middle =>
      obtain ⟨ha, rfl⟩ := (h _ _ _).mp hpush
      exact ih.trans ⟨fun h => ⟨⟨ha, h.1⟩, h.2⟩, fun h => ⟨h.1.2, h.2⟩⟩

theorem outcome_bind_eq_ok {α β : Type} {x : Except NegotiationOutcome α}
    {f : α → Except NegotiationOutcome β} {b : β} :
    (x >>= f) = .ok b ↔ ∃ a, x = .ok a ∧ f a = .ok b := by
  cases x with
  | error e => exact ⟨nofun, fun h => by cases h.choose_spec.1⟩
  | ok a =>
    refine ⟨fun h => ⟨a, rfl, h⟩, ?_⟩
    rintro ⟨_, heq, h⟩
    cases heq
    exact h

theorem pushContract_eq_ok (body : List UInt8) (c : SchemaContractOffer) (out : List UInt8) :
    pushContract body c = .ok out ↔ c.codecs.length ≤ maxVarint ∧ out = body ++ c.bytes := by
  simp only [pushContract, outcome_bind_eq_ok, pushCount_eq_ok, pushId, foldl_push, pure,
    Except.pure, Except.ok.injEq, SchemaContractOffer.bytes, List.append_assoc]
  constructor
  · rintro ⟨_, ⟨hle, rfl⟩, rfl⟩
    exact ⟨hle, by simp only [List.append_assoc]⟩
  · rintro ⟨hle, rfl⟩
    exact ⟨_, ⟨hle, rfl⟩, by simp only [List.append_assoc]⟩

theorem pushSchema_eq_ok (body : List UInt8) (s : SchemaOffer) (out : List UInt8) :
    pushSchema body s = .ok out ↔ s.Counts wireLimits ∧ out = body ++ s.bytes := by
  simp only [pushSchema, outcome_bind_eq_ok, pushCount_eq_ok, foldlM_push_eq_ok pushContract_eq_ok,
    pushId, SchemaOffer.bytes, SchemaOffer.Counts, wireLimits]
  constructor
  · rintro ⟨_, ⟨hle, rfl⟩, hall, rfl⟩
    exact ⟨⟨hle, hall⟩, by simp only [List.append_assoc]⟩
  · rintro ⟨⟨hle, hall⟩, rfl⟩
    exact ⟨_, ⟨hle, rfl⟩, hall, by simp only [List.append_assoc]⟩

/-- The body of an offer is its bytes, if its lists can be counted. -/
theorem offerBody_eq_ok {o : CompatibilityOffer} {out : List UInt8} :
    offerBody o = .ok out ↔ o.Counts wireLimits ∧ out = o.bytes := by
  have hprotocol : pushProtocol = fun body p =>
      body ++ (bigEndian 16 p.id.get ++ bigEndian 16 p.revision.get) := by
    funext body p
    simp only [pushProtocol, pushId, List.append_assoc]
  have hcapability : pushCapability = fun body c =>
      body ++ (bigEndian 16 c.id.get ++ [encodeRequirement c.requirement]) := by
    funext body c
    simp only [pushCapability, pushId, List.append_assoc]
  simp only [offerBody, outcome_bind_eq_ok, pushCount_eq_ok, foldlM_push_eq_ok pushSchema_eq_ok,
    hprotocol, hcapability, foldl_push, List.nil_append]
  constructor
  · rintro ⟨_, ⟨hp, rfl⟩, _, ⟨hc, rfl⟩, _, ⟨hs, rfl⟩, hall, rfl⟩
    exact ⟨⟨hp, hc, hs, hall⟩, by simp only [CompatibilityOffer.bytes, List.append_assoc]⟩
  · rintro ⟨⟨hp, hc, hs, hall⟩, rfl⟩
    exact ⟨_, ⟨hp, rfl⟩, _, ⟨hc, rfl⟩, _, ⟨hs, rfl⟩, hall, by
      simp only [CompatibilityOffer.bytes, List.append_assoc]⟩

/-! ### Lengths -/

theorem SchemaContractOffer.bytes_length (c : SchemaContractOffer) :
    c.bytes.length = 16 + (varintBytes c.codecs.length).length + c.codecs.length * 16 := by
  simp [bytes, List.length_flatMap, Nat.add_assoc]

theorem SchemaOffer.bytes_length (s : SchemaOffer) :
    s.bytes.length = 17 + (varintBytes s.contracts.length).length +
      (s.contracts.map fun c => c.bytes.length).sum := by
  simp only [bytes, List.length_append, bigEndian_length, List.length_singleton,
    List.length_flatMap]
  omega

theorem CompatibilityOffer.bytes_length (o : CompatibilityOffer) :
    o.bytes.length = (varintBytes o.protocols.length).length + o.protocols.length * 32 +
      (varintBytes o.capabilities.length).length + o.capabilities.length * 17 +
      (varintBytes o.schemas.length).length + (o.schemas.flatMap SchemaOffer.bytes).length := by
  have hp : (o.protocols.flatMap fun p => bigEndian 16 p.id.get ++ bigEndian 16 p.revision.get).length
      = o.protocols.length * 32 := by
    simp [List.length_flatMap]
  have hc : (o.capabilities.flatMap fun c =>
      bigEndian 16 c.id.get ++ [encodeRequirement c.requirement]).length =
        o.capabilities.length * 17 := by
    simp [List.length_flatMap]
  simp only [bytes, List.length_append, hp, hc]
  omega

theorem countLen_eq_some {count len : Nat} :
    countLen count = some len ↔ count ≤ maxVarint ∧ len = (varintBytes count).length := by
  unfold countLen
  rcases le_or_gt count maxVarint with hle | hgt
  · simp [encodeVarint_eq hle, hle, Except.toOption, eq_comm]
  · cases he : encodeVarint count with
    | error e => simp [Except.toOption, not_le.mpr hgt]
    | ok bs => exact absurd (le_maxVarint_of_encode he) (not_le.mpr hgt)

theorem checkedAddMul_eq_some_iff {total count width t : Nat} :
    checkedAddMul total count width = some t ↔
      total + count * width ≤ usizeMax ∧ t = total + count * width := by
  simp only [checkedAddMul, Option.bind_eq_some_iff, checkedMul_eq_some, checkedAdd_eq_some]
  constructor
  · rintro ⟨_, ⟨-, rfl⟩, hle, rfl⟩
    exact ⟨hle, rfl⟩
  · rintro ⟨hle, rfl⟩
    exact ⟨_, ⟨by omega, rfl⟩, hle, rfl⟩

/-- Lengths are added up one after the other if the sum does not overflow. -/
theorem foldlM_total_eq_some {α : Type} {step : Nat → α → Option Nat} {V : α → Prop} {len : α → Nat}
    (h : ∀ t a t', step t a = some t' ↔ V a ∧ t + len a ≤ usizeMax ∧ t' = t + len a) {as : List α}
    {t t' : Nat} (ht : t ≤ usizeMax) :
    as.foldlM step t = some t' ↔ (∀ a ∈ as, V a) ∧ t + (as.map len).sum ≤ usizeMax ∧
      t' = t + (as.map len).sum := by
  induction as generalizing t with
  | nil => simp [ht, eq_comm]
  | cons a as ih =>
    simp only [List.foldlM_cons, Option.bind_eq_bind, Option.bind_eq_some_iff, h,
      List.forall_mem_cons, List.map_cons, List.sum_cons, ← Nat.add_assoc]
    constructor
    · rintro ⟨_, ⟨ha, hle, rfl⟩, hrest⟩
      obtain ⟨hall, hsum, rfl⟩ := (ih hle).mp hrest
      exact ⟨⟨ha, hall⟩, hsum, rfl⟩
    · rintro ⟨⟨ha, hall⟩, hsum, rfl⟩
      have hle : t + len a ≤ usizeMax := (Nat.le_add_right _ _).trans hsum
      exact ⟨_, ⟨ha, hle, rfl⟩, (ih hle).mpr ⟨hall, hsum, rfl⟩⟩

theorem contractLen_step (t : Nat) (c : SchemaContractOffer) (t' : Nat) :
    (do
      let total ← checkedAdd usizeMax t 16
      let total ← checkedAdd usizeMax total (← countLen c.codecs.length)
      checkedAddMul total c.codecs.length 16) = some t' ↔
    c.codecs.length ≤ maxVarint ∧ t + c.bytes.length ≤ usizeMax ∧ t' = t + c.bytes.length := by
  simp only [Option.bind_eq_bind, Option.bind_eq_some_iff, checkedAdd_eq_some, countLen_eq_some,
    checkedAddMul_eq_some_iff, SchemaContractOffer.bytes_length]
  constructor
  · rintro ⟨_, ⟨-, rfl⟩, _, ⟨hle, rfl⟩, _, ⟨-, rfl⟩, hsum, rfl⟩
    exact ⟨hle, by omega, by omega⟩
  · rintro ⟨hle, hsum, rfl⟩
    exact ⟨_, ⟨by omega, rfl⟩, _, ⟨hle, rfl⟩, _, ⟨by omega, rfl⟩, by omega, by omega⟩

theorem schemaBodyLen_eq_some {ss : List SchemaOffer} {t t' : Nat} (ht : t ≤ usizeMax) :
    schemaBodyLen t ss = some t' ↔ (∀ s ∈ ss, s.Counts wireLimits) ∧
      t + (ss.flatMap SchemaOffer.bytes).length ≤ usizeMax ∧
      t' = t + (ss.flatMap SchemaOffer.bytes).length := by
  induction ss generalizing t with
  | nil => simp [schemaBodyLen, ht, eq_comm]
  | cons s ss ih =>
    simp only [schemaBodyLen, Option.bind_eq_bind, Option.bind_eq_some_iff, checkedAdd_eq_some,
      countLen_eq_some, List.forall_mem_cons, List.flatMap_cons, List.length_append,
      SchemaOffer.bytes_length]
    constructor
    · rintro ⟨_, ⟨-, rfl⟩, _, ⟨hle, rfl⟩, _, ⟨hmax, rfl⟩, _, hcontracts, hrest⟩
      obtain ⟨hall, hsum, rfl⟩ := (foldlM_total_eq_some contractLen_step hmax).mp hcontracts
      obtain ⟨halls, hsum', rfl⟩ := (ih hsum).mp hrest
      exact ⟨⟨⟨hle, hall⟩, halls⟩, by omega, by omega⟩
    · rintro ⟨⟨⟨hle, hall⟩, hrest⟩, hsum, rfl⟩
      refine ⟨_, ⟨by omega, rfl⟩, _, ⟨hle, rfl⟩, _, ⟨by omega, rfl⟩, _,
        (foldlM_total_eq_some contractLen_step (by omega)).mpr ⟨hall, by omega, rfl⟩,
        (ih (by omega)).mpr ⟨hrest, by omega, by omega⟩⟩

/-- The computed length of a body is the length of its bytes. -/
theorem offerBodyLen_eq_some {o : CompatibilityOffer} {len : Nat} :
    offerBodyLen o = some len ↔
      o.Counts wireLimits ∧ o.bytes.length ≤ usizeMax ∧ len = o.bytes.length := by
  simp only [offerBodyLen, Option.bind_eq_bind, Option.bind_eq_some_iff, countLen_eq_some,
    checkedAdd_eq_some, checkedAddMul_eq_some_iff, CompatibilityOffer.bytes_length]
  constructor
  · rintro ⟨_, ⟨hp, rfl⟩, _, ⟨-, rfl⟩, _, ⟨hc, rfl⟩, _, ⟨-, rfl⟩, _, ⟨-, rfl⟩, _, ⟨hs, rfl⟩, _,
      ⟨hmax, rfl⟩, hschemas⟩
    obtain ⟨hall, hsum, rfl⟩ := (schemaBodyLen_eq_some hmax).mp hschemas
    exact ⟨⟨hp, hc, hs, hall⟩, by omega, by omega⟩
  · rintro ⟨⟨hp, hc, hs, hall⟩, hsum, rfl⟩
    refine ⟨_, ⟨hp, rfl⟩, _, ⟨by omega, rfl⟩, _, ⟨hc, rfl⟩, _, ⟨by omega, rfl⟩, _, ⟨by omega, rfl⟩, _,
      ⟨hs, rfl⟩, _, ⟨by omega, rfl⟩, (schemaBodyLen_eq_some (by omega)).mpr ⟨hall, by omega, by omega⟩⟩

theorem accountedSchemaBytes_eq_some {ss : List SchemaOffer} {t t' : Nat} (ht : t ≤ usizeMax) :
    accountedSchemaBytes t ss = some t' ↔
      t + (ss.length * 17 + (ss.map SchemaOffer.listCost).sum) ≤ usizeMax ∧
        t' = t + (ss.length * 17 + (ss.map SchemaOffer.listCost).sum) := by
  induction ss generalizing t with
  | nil => simp [accountedSchemaBytes, ht, eq_comm]
  | cons s ss ih =>
    have hstep : ∀ t (c : SchemaContractOffer) t', checkedAddMul t c.codecs.length 16 = some t' ↔
        True ∧ t + c.listCost ≤ usizeMax ∧ t' = t + c.listCost := fun t c t' => by
      rw [checkedAddMul_eq_some_iff, true_and]
      rfl
    simp only [accountedSchemaBytes, Option.bind_eq_bind, Option.bind_eq_some_iff,
      checkedAdd_eq_some, checkedAddMul_eq_some_iff, List.length_cons, List.map_cons, List.sum_cons,
      SchemaOffer.listCost]
    constructor
    · rintro ⟨_, ⟨-, rfl⟩, _, ⟨hmax, rfl⟩, _, hcontracts, hrest⟩
      obtain ⟨-, hsum, rfl⟩ := (foldlM_total_eq_some hstep hmax).mp hcontracts
      obtain ⟨hsum', rfl⟩ := (ih hsum).mp hrest
      exact ⟨by omega, by omega⟩
    · rintro ⟨hsum, rfl⟩
      refine ⟨_, ⟨by omega, rfl⟩, _, ⟨by omega, rfl⟩, _,
        (foldlM_total_eq_some hstep (by omega)).mpr ⟨fun _ _ => trivial, by omega, rfl⟩,
        (ih (by omega)).mpr ⟨by omega, by omega⟩⟩

/-- The accounted size of an offer without a label is its cost. -/
theorem accountedOfferBytes_eq_ok {o : CompatibilityOffer} (hlabel : o.diagnosticLabel = none)
    {bytes : Nat} : accountedOfferBytes o = .ok bytes ↔ o.cost ≤ usizeMax ∧ bytes = o.cost := by
  obtain ⟨ps, cs, ss, _⟩ := o
  cases hlabel
  have htotal : ∀ t, ((checkedAddMul 0 ps.length 32).bind fun total =>
      (checkedAddMul total cs.length 17).bind fun total =>
        (accountedSchemaBytes total ss).bind some) = some t ↔
      CompatibilityOffer.cost ⟨ps, cs, ss, none⟩ ≤ usizeMax ∧
        t = CompatibilityOffer.cost ⟨ps, cs, ss, none⟩ := fun t => by
    simp only [Option.bind_eq_some_iff, checkedAddMul_eq_some_iff, CompatibilityOffer.cost]
    constructor
    · rintro ⟨_, ⟨-, rfl⟩, _, ⟨hmax, rfl⟩, _, hschemas, heq⟩
      obtain ⟨hsum, rfl⟩ := (accountedSchemaBytes_eq_some hmax).mp hschemas
      cases heq
      exact ⟨by omega, by omega⟩
    · rintro ⟨hsum, rfl⟩
      exact ⟨_, ⟨by omega, rfl⟩, _, ⟨by omega, rfl⟩, _,
        (accountedSchemaBytes_eq_some (by omega)).mpr ⟨by omega, rfl⟩, congrArg some (by omega)⟩
  rw [← htotal]
  unfold accountedOfferBytes
  simp only [Option.bind_eq_bind]
  split
  · rename_i t ht
    rw [Except.ok.injEq, ← Option.some.injEq, ← ht]
  · rename_i hnone
    refine ⟨nofun, fun h => ?_⟩
    rw [hnone] at h
    cases h

/-! ### Encoding and decoding -/

/-- A body is written if it is not too long; its length is the one computed. -/
theorem writeBody_cases (reserves : Bool) (maxBodyBytes : Nat) (len : Option Nat)
    (body : Except NegotiationOutcome (List UInt8))
    (h : ∀ n, len = some n → ∃ bs, body = .ok bs ∧ bs.length = n) :
    ∃ r, writeBody reserves len maxBodyBytes body = .ok r ∧ ∀ bs, r = .ok bs ↔
      body = .ok bs ∧ len = some bs.length ∧ bs.length ≤ maxBodyBytes ∧ reserves = true := by
  unfold writeBody
  split
  · exact ⟨_, rfl, fun bs => ⟨nofun, fun h' => by cases h'.2.1⟩⟩
  · rename_i n
    obtain ⟨bs, rfl, rfl⟩ := h n rfl
    split
    · rename_i hlong
      refine ⟨_, rfl, fun bs' => ⟨nofun, fun h' => ?_⟩⟩
      cases h'.1
      exact absurd h'.2.2.1 (not_le.mpr hlong)
    · rename_i hfits
      split
      · rename_i hreserves
        exact ⟨_, rfl, fun bs' => ⟨nofun, fun h' => absurd h'.2.2.2 hreserves⟩⟩
      · rename_i hreserves
        rw [not_not] at hreserves
        simp only [decide_true, Checked.assert_true, Checked.ok_bind]
        refine ⟨_, rfl, fun bs' => ?_⟩
        simp only [Except.ok.injEq]
        constructor
        · rintro rfl
          exact ⟨rfl, rfl, not_lt.mp hfits, hreserves⟩
        · exact fun h' => h'.1

/-- An offer is encoded as its bytes, whose length is the one computed. -/
theorem encodeOffer_cases (reserves : Bool) (o : CompatibilityOffer) (maxBodyBytes : Nat) :
    ∃ r, encodeOffer reserves o maxBodyBytes = .ok r ∧ ∀ body, r = .ok body ↔
      o.diagnosticLabel = none ∧ o.Counts wireLimits ∧ body = o.bytes ∧
        offerBodyLen o = some body.length ∧ body.length ≤ maxBodyBytes ∧ reserves = true := by
  unfold encodeOffer
  split
  · rename_i hlabel
    refine ⟨_, rfl, fun body => ⟨nofun, fun h => ?_⟩⟩
    rw [h.1] at hlabel
    cases hlabel
  · rename_i hlabel
    obtain ⟨r, hr, hiff⟩ := writeBody_cases reserves maxBodyBytes (offerBodyLen o) (offerBody o)
      fun n hn => by
        obtain ⟨hcounts, -, rfl⟩ := offerBodyLen_eq_some.mp hn
        exact ⟨_, offerBody_eq_ok.mpr ⟨hcounts, rfl⟩, rfl⟩
    refine ⟨r, hr, fun body => ?_⟩
    rw [hiff, offerBody_eq_ok]
    have hnone : o.diagnosticLabel = none := by simpa using hlabel
    exact ⟨fun ⟨⟨h1, h2⟩, h3⟩ => ⟨hnone, h1, h2, h3⟩, fun ⟨_, h1, h2, h3⟩ => ⟨⟨h1, h2⟩, h3⟩⟩

theorem reserveVec_refines (reserves : Nat → Bool) (count : Nat) :
    Refines (reserveVec reserves count) (reserveVec reserving count) := fun input r h => by
  unfold reserveVec at h
  split at h
  · cases h
    exact reserveVec_eq_ok.mpr rfl
  · cases h

/-- A refused allocation refuses the offer. -/
theorem readOffer_refines (reserves : Nat → Bool) :
    Refines (readOffer reserves l) (readOffer reserving l) := by
  have hvec := reserveVec_refines reserves
  have hcontract : ∀ b, Refines (readContract reserves l b) (readContract reserving l b) := fun b =>
    (Refines.refl _).bind fun _ => (Refines.refl _).bind fun _ => (Refines.refl _).bind fun _ =>
      (hvec _).bind fun _ => Refines.refl _
  have hschema : ∀ b, Refines (readSchema reserves l b) (readSchema reserving l b) := fun b =>
    (Refines.refl _).bind fun _ => (Refines.refl _).bind fun _ => (Refines.refl _).bind fun _ =>
      (Refines.refl _).bind fun _ => (hvec _).bind fun _ => (Refines.manyState hcontract _ _).bind
        fun _ => Refines.refl _
  exact (Refines.refl _).bind fun _ => (Refines.refl _).bind fun _ => (hvec _).bind fun _ =>
    (Refines.refl _).bind fun _ => (Refines.refl _).bind fun _ => (Refines.refl _).bind fun _ =>
      (hvec _).bind fun _ => (Refines.refl _).bind fun _ => (Refines.refl _).bind fun _ =>
        (Refines.refl _).bind fun _ => (hvec _).bind fun _ => (Refines.manyState hschema _ _).bind
          fun _ => Refines.refl _

theorem decodeOffer_eq_ok {input : List UInt8} {o : CompatibilityOffer} :
    decodeOffer reserving input l = .ok o ↔ o.Admitted l ∧ input = o.bytes :=
  readOffer_exact.parse_eq_ok

theorem decodeOffer_reserving {reserves : Nat → Bool} {input : List UInt8} {o : CompatibilityOffer}
    (h : decodeOffer reserves input l = .ok o) : decodeOffer reserving input l = .ok o :=
  (readOffer_refines reserves).parse_eq_ok h

/-- The lists of a schema are charged for less than their bytes. -/
theorem SchemaOffer.listCost_le (s : SchemaOffer) : 17 + s.listCost ≤ s.bytes.length := by
  have hcontracts : s.contracts.length * 16 + (s.contracts.map SchemaContractOffer.listCost).sum ≤
      (s.contracts.map fun c => c.bytes.length).sum := by
    induction s.contracts with
    | nil => exact Nat.le_refl 0
    | cons c cs ih =>
      have := c.bytes_length
      simp only [List.length_cons, List.map_cons, List.sum_cons, SchemaContractOffer.listCost] at ih ⊢
      omega
  rw [bytes_length, listCost]
  omega

/-- The accounted size of an offer is at most the length of its body. -/
theorem CompatibilityOffer.cost_le (o : CompatibilityOffer) : o.cost ≤ o.bytes.length := by
  have hschemas : o.schemas.length * 17 + (o.schemas.map SchemaOffer.listCost).sum ≤
      (o.schemas.flatMap SchemaOffer.bytes).length := by
    induction o.schemas with
    | nil => exact Nat.le_refl 0
    | cons s ss ih =>
      have := s.listCost_le
      simp only [List.length_cons, List.map_cons, List.sum_cons, List.flatMap_cons,
        List.length_append] at ih ⊢
      omega
  rw [bytes_length, cost]
  omega

/-- What some limits admit can be encoded. -/
theorem CompatibilityOffer.Admitted.encodable {o : CompatibilityOffer} (h : o.Admitted l) :
    o.Admitted wireLimits :=
  ⟨h.fits, h.label, h.wire, h.wire, h.cost.2, h.cost.2⟩

theorem encodeOffer_eq_ok {reserves : Bool} {o : CompatibilityOffer} {maxBodyBytes : Nat}
    {body : List UInt8} : encodeOffer reserves o maxBodyBytes = .ok (.ok body) ↔
      o.diagnosticLabel = none ∧ o.Counts wireLimits ∧ body = o.bytes ∧
        offerBodyLen o = some body.length ∧ body.length ≤ maxBodyBytes ∧ reserves = true := by
  obtain ⟨r, hr, hiff⟩ := encodeOffer_cases reserves o maxBodyBytes
  rw [hr, Except.ok.injEq, hiff]

/-- An input is decoded exactly if it is the encoding of a label-free offer within the limits. -/
theorem decodeOffer_iff {input : List UInt8} {o : CompatibilityOffer} {maxBodyBytes : Nat}
    (hlen : input.length ≤ maxBodyBytes) (hmax : maxBodyBytes ≤ u64Max) :
    decodeOffer reserving input l = .ok o ↔ o.Fits ∧ o.Counts l ∧
      (∃ bytes, accountedOfferBytes o = .ok bytes ∧ bytes ≤ l.maxOfferAccountedBytes) ∧
      encodeOffer true o maxBodyBytes = .ok (.ok input) := by
  rw [decodeOffer_eq_ok, encodeOffer_eq_ok]
  constructor
  · rintro ⟨⟨hfits, hlabel, hcounts, hwire, hcost⟩, rfl⟩
    exact ⟨hfits, hcounts, ⟨_, (accountedOfferBytes_eq_ok hlabel).mpr ⟨hcost.2, rfl⟩, hcost.1⟩,
      hlabel, hwire, rfl, offerBodyLen_eq_some.mpr ⟨hwire, hlen.trans hmax, rfl⟩, hlen, rfl⟩
  · rintro ⟨hfits, hcounts, ⟨bytes, hbytes, hle⟩, hlabel, hwire, rfl, -⟩
    obtain ⟨hcost, rfl⟩ := (accountedOfferBytes_eq_ok hlabel).mp hbytes
    exact ⟨⟨hfits, hlabel, hcounts, hwire, hle, hcost⟩, rfl⟩

/-- A part of an encoded offer, and an encoded offer with bytes behind it, are refused. -/
theorem decodeOffer_refused {reserves : Nat → Bool} {reserved : Bool} {o : CompatibilityOffer}
    {maxBodyBytes : Nat} {body : List UInt8} (hfits : o.Fits)
    (h : encodeOffer reserved o maxBodyBytes = .ok (.ok body)) :
    (∀ n, n < body.length → ∃ e, decodeOffer reserves (body.take n) l = .error e) ∧
      ∀ extra, extra ≠ [] → ∃ e, decodeOffer reserves (body ++ extra) l = .error e := by
  obtain ⟨hlabel, hwire, rfl, hbodyLen, -⟩ := encodeOffer_eq_ok.mp h
  obtain ⟨-, hmax, -⟩ := offerBodyLen_eq_some.mp hbodyLen
  have hcost := o.cost_le.trans hmax
  have ho : o.Admitted wireLimits := ⟨hfits, hlabel, hwire, hwire, hcost, hcost⟩
  have hexact : Exact (readOffer reserving wireLimits) _ _ := readOffer_exact
  constructor
  · refine fun n hn => exists_error fun o' ho' => ?_
    obtain ⟨h', htake⟩ := decodeOffer_eq_ok.mp (decodeOffer_reserving ho')
    obtain ⟨-, hdrop⟩ := hexact.prefix_free h'.encodable ho (by rw [← htake, List.take_append_drop])
    exact absurd (List.drop_eq_nil_iff.mp hdrop) (not_le.mpr hn)
  · refine fun extra hextra => exists_error fun o' ho' => ?_
    obtain ⟨h', hlong⟩ := decodeOffer_eq_ok.mp (decodeOffer_reserving ho')
    exact hextra (hexact.prefix_free ho h'.encodable hlong.symm).2

end RunenNet
