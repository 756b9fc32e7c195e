import RunenNet.Foundation.Reader
import Mathlib.Algebra.BigOperators.Group.List.Basic

/-!
# Exact readers

`Exact p Valid enc`: `p` takes a value from the front of its input exactly if the value is valid
and its encoding stands there. The decoder that reads the whole input with `p` then accepts the
encodings of the valid values and nothing else (`Exact.parse_eq_ok`); no encoding is a prefix of
another (`Exact.prefix_free`).
-/

namespace Foundation.Reader

variable {ε ε' α β : Type} {p : Reader ε α} {f : α → Reader ε β} {input rest : List UInt8}
  {a : α} {b : β} {e : ε}

/-! ### What succeeds -/

@[simp] theorem pure_eq_ok {r : α × List UInt8} :
    (pure a : Reader ε α) input = .ok r ↔ r = (a, input) :=
  ⟨fun h => (Except.ok.inj h).symm, fun h => congrArg Except.ok h.symm⟩

theorem bind_eq_ok {r : β × List UInt8} :
    (p >>= f) input = .ok r ↔ ∃ a mid, p input = .ok (a, mid) ∧ f a mid = .ok r := by
  rw [bind_run]
  cases p input with
  | error e => simp
  | ok ar =>
    obtain ⟨a, mid⟩ := ar
    constructor
    · intro h
      exact ⟨a, mid, rfl, h⟩
    · rintro ⟨_, _, heq, h⟩
      cases heq
      exact h

@[simp] theorem lift_eq_ok {x : Except ε α} {r : α × List UInt8} :
    lift x input = .ok r ↔ x = .ok r.1 ∧ r.2 = input := by
  obtain ⟨a, rest⟩ := r
  cases x with
  | error e => simp [lift]
  | ok a' => simp [lift, eq_comm]

@[simp] theorem fail_eq_ok {r : α × List UInt8} : (fail e : Reader ε α) input = .ok r ↔ False :=
  ⟨nofun, nofun⟩

@[simp] theorem finish_eq_ok {r : Unit × List UInt8} :
    finish e input = .ok r ↔ input = [] ∧ r.2 = [] := by
  obtain ⟨u, rest⟩ := r
  cases input with
  | nil => simp [finish, eq_comm]
  | cons b bs => simp [finish]

@[simp] theorem mapError_eq_ok {g : ε → ε'} {r : α × List UInt8} :
    mapError g p input = .ok r ↔ p input = .ok r := by
  unfold mapError
  cases p input with
  | error e => simp
  | ok r' => simp

/-- A reader of the whole input takes all of it. -/
theorem parse_eq_ok :
    parse (do let a ← p; finish e; return a) input = .ok a ↔ p input = .ok (a, []) := by
  have hmap : ∀ x : Except ε (α × List UInt8),
      x.map Prod.fst = .ok a ↔ ∃ rest, x = .ok (a, rest) := fun x => by
    cases x with
    | error e => simp [Except.map]
    | ok ar =>
      obtain ⟨a', rest⟩ := ar
      simp [Except.map, eq_comm]
  simp only [parse, hmap, bind_eq_ok, finish_eq_ok, pure_eq_ok]
  constructor
  · rintro ⟨rest, a', mid, hp, _, _, ⟨rfl, -⟩, heq⟩
    cases heq
    exact hp
  · intro hp
    exact ⟨[], a, [], hp, (), [], ⟨rfl, rfl⟩, rfl⟩

/-! ### Exact readers -/

def Exact (p : Reader ε α) (Valid : α → Prop) (enc : α → List UInt8) : Prop :=
  ∀ input a rest, p input = .ok (a, rest) ↔ Valid a ∧ input = enc a ++ rest

variable {Valid : α → Prop} {enc : α → List UInt8}

/-- Each value is valid in the state the ones before it lead to. -/
def ValidFrom {σ : Type} (Valid : σ → α → Prop) (next : σ → α → σ) : σ → List α → Prop
  | _, [] => True
  | s, a :: as => Valid s a ∧ ValidFrom Valid next (next s a) as

namespace Exact

theorem mapError (h : Exact p Valid enc) (g : ε → ε') : Exact (mapError g p) Valid enc :=
  fun input a rest => by rw [mapError_eq_ok, h]

/-- `n` values in a row. -/
theorem many (h : Exact p Valid enc) (n : Nat) :
    Exact (many n p) (fun as => as.length = n ∧ ∀ a ∈ as, Valid a) (fun as => as.flatMap enc) := by
  induction n with
  | zero =>
    intro input as rest
    simp only [Reader.many, pure_eq_ok, Prod.mk.injEq, List.length_eq_zero_iff]
    constructor
    · rintro ⟨rfl, rfl⟩
      exact ⟨⟨rfl, nofun⟩, rfl⟩
    · rintro ⟨⟨rfl, -⟩, rfl⟩
      exact ⟨rfl, rfl⟩
  | succ n ih =>
    intro input as rest
    simp only [Reader.many, bind_eq_ok, pure_eq_ok, h _ _ _, ih _ _ _]
    constructor
    · rintro ⟨a, _, ⟨ha, rfl⟩, as, _, ⟨⟨hlen, has⟩, rfl⟩, heq⟩
      cases heq
      refine ⟨⟨by rw [List.length_cons, hlen], List.forall_mem_cons.mpr ⟨ha, has⟩⟩, ?_⟩
      rw [List.flatMap_cons, List.append_assoc]
    · rintro ⟨⟨hlen, has⟩, rfl⟩
      cases as with
      | nil => cases hlen
      | cons a as =>
        obtain ⟨ha, has⟩ := List.forall_mem_cons.mp has
        refine ⟨a, as.flatMap enc ++ rest, ⟨ha, ?_⟩, as, rest, ⟨⟨?_, has⟩, rfl⟩, rfl⟩
        · rw [List.flatMap_cons, List.append_assoc]
        · exact Nat.succ.inj hlen

/-- `n` values in a row, each valid in the state the ones before it left. -/
theorem manyState {σ : Type} {p : σ → Reader ε (α × σ)} (Valid : σ → α → Prop) (next : σ → α → σ)
    (h : ∀ s, Exact (p s) (fun r => Valid s r.1 ∧ r.2 = next s r.1) fun r => enc r.1) (n : Nat)
    (s : σ) : Exact (manyState p n s)
      (fun r => r.1.length = n ∧ ValidFrom Valid next s r.1 ∧ r.2 = r.1.foldl next s)
      fun r => r.1.flatMap enc := by
  induction n generalizing s with
  | zero =>
    rintro input ⟨as, s'⟩ rest
    simp only [Reader.manyState, pure_eq_ok, Prod.mk.injEq, List.length_eq_zero_iff]
    constructor
    · rintro ⟨⟨rfl, rfl⟩, rfl⟩
      exact ⟨⟨rfl, trivial, rfl⟩, rfl⟩
    · rintro ⟨⟨rfl, -, rfl⟩, rfl⟩
      exact ⟨⟨rfl, rfl⟩, rfl⟩
  | succ n ih =>
    rintro input ⟨as, s'⟩ rest
    simp only [Reader.manyState, bind_eq_ok, pure_eq_ok, h _ _ _, ih _ _ _ _]
    constructor
    · rintro ⟨⟨a, t⟩, _, ⟨⟨ha, ht⟩, rfl⟩, ⟨as, t'⟩, _, ⟨⟨hlen, has, ht'⟩, rfl⟩, heq⟩
      obtain rfl : t = next s a := ht
      obtain rfl : t' = as.foldl next (next s a) := ht'
      cases heq
      refine ⟨⟨by rw [List.length_cons, hlen], ⟨ha, has⟩, rfl⟩, ?_⟩
      rw [List.flatMap_cons, List.append_assoc]
    · rintro ⟨⟨hlen, has, rfl⟩, rfl⟩
      cases as with
      | nil => cases hlen
      | cons a as =>
        refine ⟨(a, next s a), as.flatMap enc ++ rest, ⟨⟨has.1, rfl⟩, ?_⟩, (as, _), rest,
          ⟨⟨Nat.succ.inj hlen, has.2, rfl⟩, rfl⟩, rfl⟩
        rw [List.flatMap_cons, List.append_assoc]

theorem parse_eq_ok (h : Exact p Valid enc) :
    parse (do let a ← p; finish e; return a) input = .ok a ↔ Valid a ∧ input = enc a := by
  rw [Reader.parse_eq_ok, h, List.append_nil]

/-- No encoding is a proper prefix of another. -/
theorem prefix_free (h : Exact p Valid enc) {a a' : α} (ha : Valid a) (ha' : Valid a')
    {extra : List UInt8} (heq : enc a' = enc a ++ extra) : a' = a ∧ extra = [] := by
  have h1 := (h (enc a ++ extra) a extra).mpr ⟨ha, rfl⟩
  have h2 := (h (enc a ++ extra) a' []).mpr ⟨ha', by rw [← heq, List.append_nil]⟩
  rw [h1] at h2
  cases h2
  exact ⟨rfl, rfl⟩

end Exact

/-! ### Readers that refuse less -/

/-- What `p` takes, `q` takes. -/
def Refines (p q : Reader ε α) : Prop := ∀ input r, p input = .ok r → q input = .ok r

namespace Refines

theorem refl (p : Reader ε α) : Refines p p := fun _ _ h => h

theorem bind {p q : Reader ε α} {f g : α → Reader ε β} (h : Refines p q)
    (hf : ∀ a, Refines (f a) (g a)) : Refines (p >>= f) (q >>= g) := fun input r hr => by
  rw [bind_eq_ok] at hr ⊢
  obtain ⟨a, mid, hp, hr⟩ := hr
  exact ⟨a, mid, h _ _ hp, hf a _ _ hr⟩

theorem manyState {σ : Type} {p q : σ → Reader ε (α × σ)} (h : ∀ s, Refines (p s) (q s)) (n : Nat)
    (s : σ) : Refines (Reader.manyState p n s) (Reader.manyState q n s) := by
  induction n generalizing s with
  | zero => exact refl _
  | succ n ih => exact (h s).bind fun _ => (ih _).bind fun _ => refl _

theorem parse_eq_ok {p q : Reader ε α} (h : Refines p q)
    (hp : parse (do let a ← p; finish e; return a) input = .ok a) :
    parse (do let a ← q; finish e; return a) input = .ok a :=
  Reader.parse_eq_ok.mpr (h _ _ (Reader.parse_eq_ok.mp hp))

end Refines

/-! ### Canonical codecs -/

/-- Encoding and decoding undo each other on the valid values, and every input that is not the
encoding of one is refused, in particular a part of one and one with bytes behind it. -/
structure Canonical {ω : Type} (Valid : α → Prop) (encode : α → Except ω (List UInt8))
    (decode : List UInt8 → Except ε α) : Prop where
  decode_encode : ∀ a, Valid a → ∃ body, encode a = .ok body ∧ decode body = .ok a
  encode_decode : ∀ input a, decode input = .ok a → Valid a ∧ encode a = .ok input
  refused : ∀ input, (∀ a, Valid a → encode a ≠ .ok input) → ∃ e, decode input = .error e
  truncated : ∀ a body n, Valid a → encode a = .ok body → n < body.length →
    ∃ e, decode (body.take n) = .error e
  extended : ∀ a body extra, Valid a → encode a = .ok body → extra ≠ [] →
    ∃ e, decode (body ++ extra) = .error e

theorem exists_error {x : Except ε α} (h : ∀ a, x ≠ .ok a) : ∃ e, x = .error e := by
  cases x with
  | error e => exact ⟨e, rfl⟩
  | ok a => exact absurd rfl (h a)

theorem Canonical.of_iff {ω : Type} {encode : α → Except ω (List UInt8)}
    {decode : List UInt8 → Except ε α} (henc : ∀ a, Valid a → encode a = .ok (enc a))
    (hdec : ∀ input a, decode input = .ok a ↔ Valid a ∧ input = enc a)
    (hfree : ∀ a a' extra, Valid a → Valid a' → enc a' = enc a ++ extra → extra = []) :
    Canonical Valid encode decode where
  decode_encode := fun a ha => ⟨enc a, henc a ha, (hdec _ _).mpr ⟨ha, rfl⟩⟩
  encode_decode := fun input a h => by
    obtain ⟨ha, rfl⟩ := (hdec input a).mp h
    exact ⟨ha, henc a ha⟩
  refused := fun input h => exists_error fun a hok => by
    obtain ⟨ha, rfl⟩ := (hdec input a).mp hok
    exact h a ha (henc a ha)
  truncated := fun a body n ha hbody hn => exists_error fun a' ha' => by
    obtain ⟨hvalid, htake⟩ := (hdec _ a').mp ha'
    rw [henc a ha] at hbody
    cases hbody
    have hdrop := hfree a' a _ hvalid ha (by rw [← htake, List.take_append_drop])
    rw [List.drop_eq_nil_iff] at hdrop
    exact absurd hdrop (Nat.not_le.mpr hn)
  extended := fun a body extra ha hbody hextra => exists_error fun a' ha' => by
    obtain ⟨hvalid, hlong⟩ := (hdec _ a').mp ha'
    rw [henc a ha] at hbody
    cases hbody
    exact hextra (hfree a a' extra ha hvalid hlong.symm)

theorem Exact.canonical {ω : Type} (h : Exact p Valid enc) {encode : α → Except ω (List UInt8)}
    (henc : ∀ a, Valid a → encode a = .ok (enc a)) :
    Canonical Valid encode (parse (do let a ← p; finish e; return a)) :=
  .of_iff henc (fun _ _ => h.parse_eq_ok) fun _ _ _ ha ha' heq => (h.prefix_free ha ha' heq).2

end Foundation.Reader
