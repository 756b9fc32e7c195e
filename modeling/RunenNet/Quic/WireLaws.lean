import RunenNet.Quic.Wire
import Mathlib.Data.List.Range

/-!
# Laws of varints and flow identifiers

`decodeVarint` accepts the minimal forms and no others (`decodeVarint_iff_minimal`), so no encoding
is a prefix of another one. A `FlowId` is a side with a sequence, and the cursors count the
sequences: `at side n` is the cursor behind the `n`-th identifier, for the side that allocates them
(`allocations_at`) and for the side that checks them (`consumptions_at`).
-/

namespace RunenNet

open Foundation

/-! ### Forms -/

/-- The bytes that hold `value` behind a tag. -/
def formBytes (value tag : Nat) : List UInt8 :=
  bigEndian (2 ^ tag) (2 ^ payloadBits tag * tag + value)

/-- `bs` holds `value`, in as few bytes as possible or not. -/
def IsForm (value : Nat) (bs : List UInt8) : Prop :=
  ∃ tag < 4, value < 2 ^ payloadBits tag ∧ bs = formBytes value tag

/-- No form of `value` is shorter than `bs`. -/
def IsMinimalForm (value : Nat) (bs : List UInt8) : Prop :=
  IsForm value bs ∧ ∀ cs, IsForm value cs → bs.length ≤ cs.length

@[simp] theorem formBytes_length (value tag : Nat) : (formBytes value tag).length = 2 ^ tag :=
  bigEndian_length _ _

theorem isMinimalForm_iff {value : Nat} {bs : List UInt8} :
    IsMinimalForm value bs ↔ ∃ tag, FormOf value tag ∧ bs = formBytes value tag := by
  constructor
  · rintro ⟨⟨tag, htag, hfits, rfl⟩, hmin⟩
    refine ⟨tag, ⟨htag, hfits, fun shorter hlt => not_lt.mp fun hshort => ?_⟩, rfl⟩
    have hle := hmin _ ⟨shorter, by omega, hshort, rfl⟩
    rw [formBytes_length, formBytes_length] at hle
    exact absurd (Nat.pow_lt_pow_right (by omega) hlt) (not_lt.mpr hle)
  · rintro ⟨tag, ⟨htag, hfits, hshorter⟩, rfl⟩
    refine ⟨⟨tag, htag, hfits, rfl⟩, ?_⟩
    rintro cs ⟨tag', -, hfits', rfl⟩
    have hle : tag ≤ tag' := not_lt.mp fun hlt => absurd hfits' (not_lt.mpr (hshorter tag' hlt))
    rw [formBytes_length, formBytes_length]
    exact Nat.pow_le_pow_right (by omega) hle

/-- What is written is the minimal form. -/
theorem encodeVarint_iff_minimal {value : Nat} {bs : List UInt8} :
    encodeVarint value = .ok bs ↔ IsMinimalForm value bs := by
  rw [isMinimalForm_iff]
  constructor
  · intro h
    obtain ⟨tag, hform⟩ := exists_form (le_maxVarint_of_encode h)
    rw [encodeVarint_of_form hform] at h
    cases h
    exact ⟨tag, hform, rfl⟩
  · rintro ⟨tag, hform, rfl⟩
    exact encodeVarint_of_form hform

theorem decodeVarint_iff_minimal {input : List UInt8} {value len : Nat} :
    decodeVarint input = .ok (value, len) ↔
      len ≤ input.length ∧ IsMinimalForm value (input.take len) := by
  rw [← encodeVarint_iff_minimal]
  constructor
  · exact encodeVarint_decode
  · rintro ⟨hlen, henc⟩
    have h := decodeVarint_encode henc (input.drop len)
    rwa [List.take_append_drop, List.length_take, Nat.min_eq_left hlen] at h

theorem encodeVarint_prefix_free {v w : Nat} {bs cs : List UInt8} (hv : encodeVarint v = .ok bs)
    (hw : encodeVarint w = .ok cs) (h : bs <+: cs) : v = w ∧ bs = cs := by
  obtain ⟨rest, rfl⟩ := h
  have h₁ := decodeVarint_encode hv rest
  have h₂ := decodeVarint_encode hw []
  rw [List.append_nil, h₁] at h₂
  obtain ⟨rfl, -⟩ := Prod.mk.inj (Except.ok.inj h₂)
  rw [hv] at hw
  exact ⟨rfl, Except.ok.inj hw⟩

/-! ### Flow identifiers -/

namespace FlowId

theorem sequence_le (f : FlowId) : f.sequence ≤ maxFlowSequence := by
  have hmax : maxVarint = 2 * maxFlowSequence + 1 := rfl
  have hle := f.le_max
  have hvalue := f.value_eq
  omega

/-- The side and the sequence of an identifier. -/
def parts (f : FlowId) : WireSide × {n // n ≤ maxFlowSequence} := (f.side, ⟨f.sequence, f.sequence_le⟩)

theorem parts_bijective : Function.Bijective parts := by
  constructor
  · intro f g h
    obtain ⟨hside, hseq⟩ := Prod.mk.inj h
    exact ext_side hside (Subtype.ext_iff.mp hseq)
  · rintro ⟨side, n, hn⟩
    obtain ⟨f, -, hside, hseq, -⟩ := new_ok side hn
    exact ⟨f, Prod.ext_iff.mpr ⟨hside, Subtype.ext_iff.mpr hseq⟩⟩

/-- An identifier is the one of its side and sequence. -/
theorem new_eq_ok {side : WireSide} {n : Nat} {f : FlowId} :
    new side n = .ok f ↔ n ≤ maxFlowSequence ∧ f.side = side ∧ f.sequence = n := by
  constructor
  · intro h
    rcases le_or_gt n maxFlowSequence with hle | hgt
    · obtain ⟨g, hg, hside, hseq, -⟩ := new_ok side hle
      rw [h] at hg
      cases hg
      exact ⟨hle, hside, hseq⟩
    · rw [new, dif_pos hgt] at h
      cases h
  · rintro ⟨hle, hside, hseq⟩
    obtain ⟨g, hg, hside', hseq', -⟩ := new_ok side hle
    rw [hg, ext_side (hside.trans hside'.symm) (hseq.trans hseq'.symm)]

end FlowId

/-! ### Counting with a cursor -/

namespace FlowIdCursor

/-- The results of `n` allocations and the cursor after them. -/
def allocations : Nat → FlowIdCursor →
    Checked (List (Except FlowIdCursorError FlowId) × FlowIdCursor)
  | 0, c => .ok ([], c)
  | n + 1, c => do
    let (r, c) ← c.allocate
    let (rs, c) ← allocations n c
    return (r :: rs, c)

/-- Presents the identifiers in turn: those that were accepted and the cursor after them. -/
def consumptions : List FlowId → FlowIdCursor → List FlowId × FlowIdCursor
  | [], c => ([], c)
  | f :: fs, c =>
    match c.validateAndConsume f with
    | (.ok (), c) => (f :: (consumptions fs c).1, (consumptions fs c).2)
    | (.error _, c) => consumptions fs c

/-- The cursor that has counted `n` sequences. -/
def counted (side : WireSide) (n : Nat) : FlowIdCursor :=
  ⟨side, if n ≤ maxFlowSequence then some n else none⟩

/-- What the cursor of a side gives out at its `n`-th turn. -/
def turn (side : WireSide) (n : Nat) : Except FlowIdCursorError FlowId :=
  (FlowId.new side n).mapError fun _ => .exhausted

variable {side : WireSide} {n : Nat}

theorem new_eq_counted (side : WireSide) : new side = counted side 0 := rfl

theorem turn_eq_ok {f : FlowId} :
    turn side n = .ok f ↔ n ≤ maxFlowSequence ∧ f.side = side ∧ f.sequence = n := by
  rw [← FlowId.new_eq_ok, turn]
  cases FlowId.new side n <;> simp [Except.mapError]

theorem turn_of_gt (h : maxFlowSequence < n) : turn side n = .error .exhausted := by
  rw [turn, FlowId.new, dif_pos h]
  rfl

theorem counted_next {k : Nat} :
    (counted side n).nextSequence = some k ↔ n ≤ maxFlowSequence ∧ k = n := by
  unfold counted
  rcases le_or_gt n maxFlowSequence with h | h
  · simp [h, eq_comm]
  · simp [not_le.mpr h]

theorem counted_next_none : (counted side n).nextSequence = none ↔ maxFlowSequence < n := by
  unfold counted
  rcases le_or_gt n maxFlowSequence with h | h
  · simp [h]
  · simp [not_le.mpr h, h]

theorem counted_advance (h : n ≤ maxFlowSequence) :
    (counted side n).advance n = counted side (n + 1) := by
  refine congrArg (FlowIdCursor.mk side) ?_
  by_cases hlast : n = maxFlowSequence
  · rw [if_pos hlast, if_neg (by omega)]
  · rw [if_neg hlast, if_pos (by omega)]

/-- Past the last sequence the cursor stays where it is. -/
theorem counted_stays (h : maxFlowSequence < n) : counted side (n + 1) = counted side n := by
  unfold counted
  rw [if_neg (by omega), if_neg (by omega)]

theorem allocate_counted (side : WireSide) (n : Nat) :
    (counted side n).allocate = .ok (turn side n, counted side (n + 1)) := by
  rcases le_or_gt n maxFlowSequence with h | h
  · obtain ⟨f, hf, -⟩ := FlowId.new_ok side h
    have hnext : (counted side n).nextSequence = some n := counted_next.mpr ⟨h, rfl⟩
    have hside : (counted side n).side = side := rfl
    simp only [allocate, hnext, hside, hf, turn, Except.mapError, counted_advance h]
  · have hnext : (counted side n).nextSequence = none := counted_next_none.mpr h
    simp only [allocate, hnext, turn_of_gt h, counted_stays h]

theorem allocations_counted (side : WireSide) (n k : Nat) :
    allocations n (counted side k)
      = .ok ((List.range' k n).map (turn side), counted side (k + n)) := by
  induction n generalizing k with
  | zero => rfl
  | succ n ih =>
    rw [allocations, allocate_counted, Checked.ok_bind]
    simp only [ih, Checked.ok_bind, Checked.pure_eq, List.range'_succ, List.map_cons,
      Nat.succ_add_eq_add_succ]

/-- The cursor of the peer takes what the cursor of the side itself gives out, and moves with it. -/
theorem consume_counted {f : FlowId} {r : Except FlowIdCursorError Unit} {c : FlowIdCursor}
    (h : (counted side n).validateAndConsume f = (r, c)) :
    (turn side n = .ok f ∧ r = .ok () ∧ c = counted side (n + 1)) ∨
      (turn side n ≠ .ok f ∧ (∃ e, r = .error e) ∧ c = counted side n) := by
  rcases consume_cases h with ⟨e, rfl, rfl, hexp⟩ | ⟨rfl, ⟨hside, hseq⟩, rfl⟩
  · refine .inr ⟨fun hturn => hexp ?_, ⟨e, rfl⟩, rfl⟩
    obtain ⟨hle, hside, hseq⟩ := turn_eq_ok.mp hturn
    exact ⟨hside, counted_next.mpr ⟨hle, hseq⟩⟩
  · obtain ⟨hle, hn⟩ := counted_next.mp hseq
    refine .inl ⟨turn_eq_ok.mpr ⟨hle, hside, hn⟩, rfl, ?_⟩
    rw [hn, counted_advance hle]

theorem consumptions_counted {fs gs : List FlowId} {c : FlowIdCursor}
    (h : consumptions fs (counted side n) = (gs, c)) :
    (List.range' n gs.length).map (turn side) = gs.map .ok ∧ c = counted side (n + gs.length) := by
  induction fs generalizing n gs c with
  | nil =>
    cases h
    exact ⟨rfl, rfl⟩
  | cons f fs ih =>
    unfold consumptions at h
    split at h
    · rename_i c' hc
      cases h
      obtain ⟨hturn, -, rfl⟩ | ⟨-, ⟨e, he⟩, -⟩ := consume_counted hc
      · obtain ⟨hgs, hcur⟩ := ih (Prod.mk.eta (p := consumptions fs (counted side (n + 1)))).symm
        rw [List.length_cons, List.range'_succ, List.map_cons, List.map_cons, hturn, hgs, hcur]
        exact ⟨rfl, congrArg (counted side) (by omega)⟩
      · cases he
    · rename_i e c' hc
      obtain ⟨-, he, -⟩ | ⟨-, -, rfl⟩ := consume_counted hc
      · cases he
      · exact ih h

/-- Presented in order, the identifiers that are given out are all taken. -/
theorem consumptions_turns {gs : List FlowId}
    (h : (List.range' n gs.length).map (turn side) = gs.map .ok) :
    consumptions gs (counted side n) = (gs, counted side (n + gs.length)) := by
  induction gs generalizing n with
  | nil => rfl
  | cons f gs ih =>
    rw [List.length_cons, List.range'_succ, List.map_cons, List.map_cons, List.cons.injEq] at h
    unfold consumptions
    split
    · rename_i c hc
      obtain ⟨-, -, rfl⟩ | ⟨-, ⟨e, he⟩, -⟩ := consume_counted hc
      · rw [ih h.2, List.length_cons]
        exact Prod.ext rfl (congrArg (counted side) (by omega))
      · cases he
    · rename_i e c hc
      obtain ⟨-, he, -⟩ | ⟨hne, -, -⟩ := consume_counted hc
      · cases he
      · exact absurd h.1 hne

end FlowIdCursor

/-- The varint code is canonical and prefix-free, identifiers are sides with sequences, and the two
cursors of a side count them alike. -/
theorem wire_laws :
    (∀ v ≤ 2 ^ 62 - 1, ∃ bs, encodeVarint v = .ok bs ∧
      ∀ suffix, decodeVarint (bs ++ suffix) = .ok (v, bs.length)) ∧
    (∀ input v len, decodeVarint input = .ok (v, len) ↔
      len ≤ input.length ∧ IsMinimalForm v (input.take len)) ∧
    (∀ v bs cs, IsMinimalForm v bs → IsMinimalForm v cs → bs = cs) ∧
    (∀ v w bs cs, encodeVarint v = .ok bs → encodeVarint w = .ok cs → bs <+: cs →
      v = w ∧ bs = cs) ∧
    Function.Bijective FlowId.parts ∧
    (∀ f : FlowId, FlowId.new f.side f.sequence = .ok f) ∧
    (∀ side n, ∃ rs c, FlowIdCursor.allocations n (.new side) = .ok (rs, c) ∧ rs.length = n ∧
      (∀ i < n, i ≤ 2 ^ 61 - 1 → ∃ f : FlowId, rs[i]? = some (.ok f) ∧ f.side = side ∧
        f.sequence = i) ∧
      ∀ i < n, 2 ^ 61 - 1 < i → rs[i]? = some (.error .exhausted)) ∧
    (∀ side n rs c, FlowIdCursor.allocations n (.new side) = .ok (rs, c) →
      ∀ f r c', c.validateAndConsume f = (r, c') →
        (r = .ok () ∧ c.allocate = .ok (.ok f, c')) ∨
          (r ≠ .ok () ∧ c' = c ∧ ∀ c'', c.allocate ≠ .ok (.ok f, c''))) ∧
    (∀ side fs gs c, FlowIdCursor.consumptions fs (.new side) = (gs, c) →
      FlowIdCursor.allocations gs.length (.new side) = .ok (gs.map .ok, c)) ∧
    ∀ side (gs : List FlowId) c,
      FlowIdCursor.allocations gs.length (.new side) = .ok (gs.map .ok, c) →
        FlowIdCursor.consumptions gs (.new side) = (gs, c) := by
  refine ⟨fun v hv => ?_, fun input v len => decodeVarint_iff_minimal, fun v bs cs hbs hcs => ?_,
    fun v w bs cs => encodeVarint_prefix_free, FlowId.parts_bijective,
    fun f => FlowId.new_eq_ok.mpr ⟨f.sequence_le, rfl, rfl⟩, fun side n => ?_,
    fun side n rs c h f r c' hc => ?_, fun side fs gs c h => ?_, fun side gs c h => ?_⟩
  · obtain ⟨bs, hbs, -⟩ := encodeVarint_ok hv
    exact ⟨bs, hbs, decodeVarint_encode hbs⟩
  · rw [← encodeVarint_iff_minimal] at hbs hcs
    rw [hbs] at hcs
    exact Except.ok.inj hcs
  · refine ⟨_, _, FlowIdCursor.allocations_counted side n 0, by simp, fun i hi hle => ?_,
      fun i hi hgt => ?_⟩
    · obtain ⟨f, hf, hside, hseq, -⟩ := FlowId.new_ok side (show i ≤ maxFlowSequence from hle)
      refine ⟨f, ?_, hside, hseq⟩
      rw [List.getElem?_map, List.getElem?_range' hi]
      simp only [Nat.zero_add, Nat.one_mul, Option.map_some, FlowIdCursor.turn, hf, Except.mapError]
    · rw [List.getElem?_map, List.getElem?_range' hi]
      simp only [Nat.zero_add, Nat.one_mul, Option.map_some]
      rw [FlowIdCursor.turn_of_gt hgt]
  · rw [FlowIdCursor.new_eq_counted, FlowIdCursor.allocations_counted] at h
    cases h
    rw [FlowIdCursor.allocate_counted]
    obtain ⟨hturn, rfl, rfl⟩ | ⟨hne, ⟨e, rfl⟩, rfl⟩ := FlowIdCursor.consume_counted hc
    · exact .inl ⟨rfl, by rw [hturn]⟩
    · refine .inr ⟨nofun, rfl, fun c'' h => hne ?_⟩
      exact (Prod.mk.inj (Except.ok.inj h)).1
  · obtain ⟨hgs, rfl⟩ := FlowIdCursor.consumptions_counted (n := 0) h
    rw [FlowIdCursor.new_eq_counted, FlowIdCursor.allocations_counted, hgs]
  · rw [FlowIdCursor.new_eq_counted, FlowIdCursor.allocations_counted] at h
    obtain ⟨hgs, rfl⟩ := Prod.mk.inj (Except.ok.inj h)
    exact FlowIdCursor.consumptions_turns hgs

end RunenNet
