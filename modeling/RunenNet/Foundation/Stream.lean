import RunenNet.Foundation.Machine

/-!
# Reading from a stream

A `StreamReader` takes a value from the front of the bytes that arrived. It waits when they are too
few, or fails; what it asks of its surroundings is listed in order. `Takes p bs a` says that `p`
takes `a` from exactly `bs`, whatever arrives behind. A `Settled` reader keeps what it came to when
more arrives, but for the failures that only tell that the stream ended too early, so that it never
takes a value from a part of what it takes (`Takes.short`).
-/

namespace Foundation

/-- What a reader came to, where `none` waits, with the bytes behind it. -/
structure Outcome (ρ ε α : Type) where
  result : Option (Except ε α)
  rest : List UInt8
  asked : List ρ

def StreamReader (ρ ε α : Type) : Type := List UInt8 → Outcome ρ ε α

namespace StreamReader

variable {ρ ε α β : Type}

instance : Monad (StreamReader ρ ε) where
  pure a := fun input => ⟨some (.ok a), input, []⟩
  bind p f := fun input => match p input with
    | ⟨some (.ok a), rest, asked⟩ => ⟨(f a rest).result, (f a rest).rest, asked ++ (f a rest).asked⟩
    | ⟨some (.error e), rest, asked⟩ => ⟨some (.error e), rest, asked⟩
    | ⟨none, rest, asked⟩ => ⟨none, rest, asked⟩

/-- A check that reads nothing. -/
def lift (x : Except ε α) : StreamReader ρ ε α := fun input => ⟨some x, input, []⟩

def ask (r : ρ) : StreamReader ρ ε Unit := fun input => ⟨some (.ok ()), input, [r]⟩

/-- The next `n` bytes, asked for with `r`. If there are fewer, it fails with what `short` says of
their number, or waits. -/
def exactly (r : ρ) (short : Option (Nat → ε)) (n : Nat) : StreamReader ρ ε (List UInt8) :=
  fun input =>
    if n ≤ input.length then ⟨some (.ok (input.take n)), input.drop n, [r]⟩
    else ⟨short.map fun f => .error (f input.length), [], [r]⟩

/-- Value after value, at most `n` of them, up to where it stops. -/
def readAll (p : StreamReader ρ ε α) : Nat → List UInt8 → List α × Option ε × List UInt8
  | 0, input => ([], none, input)
  | n + 1, input => match p input with
    | ⟨some (.ok a), rest, _⟩ =>
      (a :: (readAll p n rest).1, (readAll p n rest).2.1, (readAll p n rest).2.2)
    | ⟨some (.error e), rest, _⟩ => ([], some e, rest)
    | ⟨none, rest, _⟩ => ([], none, rest)

variable {p : StreamReader ρ ε α} {f : α → StreamReader ρ ε β} {input rest bs cs : List UInt8}
  {asked : List ρ} {a : α} {b : β}

theorem bind_run_ok (h : p input = ⟨some (.ok a), rest, asked⟩) : (p >>= f) input =
    ⟨(f a rest).result, (f a rest).rest, asked ++ (f a rest).asked⟩ := by
  simp only [bind, h]

theorem bind_run_error {e : ε} (h : p input = ⟨some (.error e), rest, asked⟩) :
    (p >>= f) input = ⟨some (.error e), rest, asked⟩ := by
  simp only [bind, h]

theorem bind_run_none (h : p input = ⟨none, rest, asked⟩) :
    (p >>= f) input = ⟨none, rest, asked⟩ := by
  simp only [bind, h]

/-! ### What is taken -/

def Takes (p : StreamReader ρ ε α) (bs : List UInt8) (a : α) : Prop :=
  ∀ rest, ∃ asked, p (bs ++ rest) = ⟨some (.ok a), rest, asked⟩

namespace Takes

theorem pure (a : α) : Takes (pure a : StreamReader ρ ε α) [] a := fun _ => ⟨[], rfl⟩

theorem bind (hp : Takes p bs a) (hf : Takes (f a) cs b) : Takes (p >>= f) (bs ++ cs) b :=
  fun rest => by
    obtain ⟨asked, hp⟩ := hp (cs ++ rest)
    obtain ⟨asked', hf⟩ := hf rest
    rw [List.append_assoc, bind_run_ok hp, hf]
    exact ⟨asked ++ asked', rfl⟩

/-- What comes first takes nothing. -/
theorem before (hp : Takes p [] a) (hf : Takes (f a) bs b) : Takes (p >>= f) bs b := hp.bind hf

/-- What comes last takes nothing. -/
theorem after (hp : Takes p bs a) (hf : Takes (f a) [] b) : Takes (p >>= f) bs b := by
  simpa using hp.bind hf

theorem lift {x : Except ε α} (h : x = .ok a) : Takes (lift x : StreamReader ρ ε α) [] a :=
  fun _ => ⟨[], by rw [h]; rfl⟩

theorem ask (r : ρ) : Takes (ask r : StreamReader ρ ε Unit) [] () := fun _ => ⟨[r], rfl⟩

theorem exactly (r : ρ) (short : Option (Nat → ε)) {n : Nat} (h : bs.length = n) :
    Takes (exactly r short n) bs bs := fun rest => by
  subst h
  refine ⟨[r], ?_⟩
  rw [StreamReader.exactly, if_pos (by simp), List.take_left, List.drop_left]

end Takes

/-! ### What stays -/

variable {F : ε → Prop}

def Settled (F : ε → Prop) (p : StreamReader ρ ε α) : Prop :=
  ∀ input x rest asked, p input = ⟨some x, rest, asked⟩ → (∀ e, x = .error e → ¬ F e) →
    ∀ more, p (input ++ more) = ⟨some x, rest ++ more, asked⟩

namespace Settled

theorem pure (a : α) : Settled F (pure a : StreamReader ρ ε α) := fun _ _ _ _ h _ _ => by
  cases h
  rfl

theorem bind (hp : Settled F p) (hf : ∀ a, Settled F (f a)) : Settled F (p >>= f) :=
  fun input x rest asked h hx more => by
    rcases hrun : p input with ⟨_ | e | a, rest', asked'⟩
    · rw [bind_run_none hrun] at h
      cases h
    · rw [bind_run_error hrun] at h
      cases h
      refine bind_run_error (hp _ _ _ _ hrun (fun e' he' => hx e' ?_) more)
      cases he'
      rfl
    · rw [bind_run_ok hrun] at h
      rcases hnext : f a rest' with ⟨_ | x', rest'', asked''⟩
      · rw [hnext] at h
        cases h
      · rw [hnext] at h
        cases h
        rw [bind_run_ok (hp _ _ _ _ hrun nofun more), hf a _ _ _ _ hnext hx more]

theorem lift (x : Except ε α) : Settled F (lift x : StreamReader ρ ε α) := fun _ _ _ _ h _ _ => by
  cases h
  rfl

theorem ask (r : ρ) : Settled F (ask r : StreamReader ρ ε Unit) := fun _ _ _ _ h _ _ => by
  cases h
  rfl

theorem exactly (r : ρ) {short : Option (Nat → ε)} (h : ∀ g, short = some g → ∀ k, F (g k))
    (n : Nat) : Settled F (exactly r short n) := fun input x rest asked hrun hx more => by
  unfold StreamReader.exactly at hrun ⊢
  split at hrun
  · rename_i hle
    cases hrun
    rw [if_pos (by rw [List.length_append]; omega), List.take_append_of_le_length hle,
      List.drop_append_of_le_length hle]
  · cases hs : short with
    | none =>
      rw [hs] at hrun
      cases hrun
    | some g =>
      rw [hs] at hrun
      cases hrun
      exact absurd (h g hs input.length) (hx _ rfl)

end Settled

/-- From a part of what it takes, a settled reader takes nothing. -/
theorem Takes.short (hp : Settled F p) (h : Takes p (bs ++ cs) a) (hcs : cs ≠ []) :
    (p bs).result = none ∨ ∃ e, F e ∧ (p bs).result = some (.error e) := by
  rcases hrun : p bs with ⟨_ | x, rest, asked⟩
  · exact .inl rfl
  · refine .inr ?_
    by_contra hno
    have hx : ∀ e, x = .error e → ¬ F e := fun e he hF => hno ⟨e, hF, congrArg some he⟩
    obtain ⟨asked', htakes⟩ := h []
    rw [List.append_nil, hp _ _ _ _ hrun hx cs] at htakes
    have hrest := congrArg Outcome.rest htakes
    exact hcs (List.append_eq_nil_iff.mp hrest).2

/-- Values that stand one after the other are read one after the other, up to a part of one. -/
theorem readAll_takes {enc : α → List UInt8} (hp : Settled F p) {as : List α}
    (has : ∀ a ∈ as, Takes p (enc a) a) {part more : List UInt8} (hmore : more ≠ [])
    (ha : Takes p (part ++ more) a) {n : Nat} (hn : as.length < n) :
    ∃ stop left, readAll p n (as.flatMap enc ++ part) = (as, stop, left) ∧
      ∀ e, stop = some e → F e := by
  induction as generalizing n with
  | nil =>
    obtain ⟨n, rfl⟩ := Nat.exists_eq_add_of_lt hn
    rw [List.flatMap_nil, List.nil_append, List.length_nil, Nat.zero_add, readAll]
    rcases hrun : p part with ⟨_ | e | a', rest, asked⟩
    · exact ⟨_, _, rfl, nofun⟩
    · refine ⟨_, _, rfl, fun e' he' => ?_⟩
      cases he'
      rcases ha.short hp hmore with hnone | ⟨e', hF, herr⟩
      · rw [hrun] at hnone
        cases hnone
      · rw [hrun] at herr
        cases herr
        exact hF
    · rcases ha.short hp hmore with hnone | ⟨e', -, herr⟩
      · rw [hrun] at hnone
        cases hnone
      · rw [hrun] at herr
        cases herr
  | cons a' as ih =>
    obtain ⟨n, rfl⟩ : ∃ m, n = m + 1 := ⟨n - 1, by omega⟩
    obtain ⟨asked, hfirst⟩ := has a' List.mem_cons_self (as.flatMap enc ++ part)
    obtain ⟨stop, left, hall, hstop⟩ := ih (fun b hb => has b (List.mem_cons_of_mem _ hb))
      (n := n) (by rw [List.length_cons] at hn; omega)
    refine ⟨stop, left, ?_, hstop⟩
    rw [List.flatMap_cons, List.append_assoc, readAll, hfirst]
    simp only [hall]

/-! ### What comes out -/

/-- Whatever arrives, a value satisfies `Q` and a failure `E`. -/
def Yields (Q : α → Prop) (E : ε → Prop) (p : StreamReader ρ ε α) : Prop :=
  ∀ input, (∀ a, (p input).result = some (.ok a) → Q a) ∧
    ∀ e, (p input).result = some (.error e) → E e

namespace Yields

variable {Q Q' : α → Prop} {R : β → Prop} {E : ε → Prop}

theorem imp (hp : Yields Q E p) (hQ : ∀ a, Q a → Q' a) : Yields Q' E p := fun input =>
  ⟨fun a ha => hQ a ((hp input).1 a ha), (hp input).2⟩

theorem pure (h : Q a) : Yields Q E (pure a : StreamReader ρ ε α) := fun _ =>
  ⟨fun _ ha => by cases ha; exact h, nofun⟩

theorem bind (hp : Yields Q E p) (hf : ∀ a, Q a → Yields R E (f a)) : Yields R E (p >>= f) :=
  fun input => by
    obtain ⟨hvalue, herror⟩ := hp input
    rcases hrun : p input with ⟨_ | e | a, rest, asked⟩
    · rw [bind_run_none hrun]
      exact ⟨nofun, nofun⟩
    · rw [bind_run_error hrun]
      refine ⟨nofun, fun e' he' => ?_⟩
      cases he'
      exact herror e (by rw [hrun])
    · rw [bind_run_ok hrun]
      exact hf a (hvalue a (by rw [hrun])) rest

theorem lift {x : Except ε α} (hvalue : ∀ a, x = .ok a → Q a) (herror : ∀ e, x = .error e → E e) :
    Yields Q E (lift x : StreamReader ρ ε α) := fun _ =>
  ⟨fun a ha => hvalue a (Option.some.inj ha), fun e he => herror e (Option.some.inj he)⟩

theorem ask (r : ρ) : Yields (fun _ => True) E (ask r : StreamReader ρ ε Unit) := fun _ =>
  ⟨fun _ _ => trivial, nofun⟩

theorem exactly (r : ρ) {short : Option (Nat → ε)} (h : ∀ g, short = some g → ∀ k, E (g k))
    (n : Nat) : Yields (fun bs => bs.length = n) E (exactly r short n) := fun input => by
  unfold StreamReader.exactly
  split
  · rename_i hle
    refine ⟨fun bs hbs => ?_, nofun⟩
    cases hbs
    rw [List.length_take, Nat.min_eq_left hle]
  · refine ⟨fun bs hbs => ?_, fun e he => ?_⟩
    · obtain ⟨_, _, hcontra⟩ := Option.map_eq_some_iff.mp hbs
      cases hcontra
    · obtain ⟨g, hg, heq⟩ := Option.map_eq_some_iff.mp he
      cases heq
      exact h g hg input.length

end Yields

/-! ### What is asked for -/

/-- Whatever arrives, the reader asks only for what `P` allows. -/
def Asks (P : ρ → Prop) (p : StreamReader ρ ε α) : Prop := ∀ input, ∀ r ∈ (p input).asked, P r

namespace Asks

variable {P : ρ → Prop}

theorem pure (a : α) : Asks P (pure a : StreamReader ρ ε α) := nofun

theorem bind (hp : Asks P p) (hf : ∀ a, Asks P (f a)) : Asks P (p >>= f) := fun input r hr => by
  rcases hrun : p input with ⟨_ | e | a, rest, asked⟩
  · rw [bind_run_none hrun] at hr
    exact hp input r (by rw [hrun]; exact hr)
  · rw [bind_run_error hrun] at hr
    exact hp input r (by rw [hrun]; exact hr)
  · rw [bind_run_ok hrun] at hr
    rcases List.mem_append.mp hr with hr | hr
    · exact hp input r (by rw [hrun]; exact hr)
    · exact hf a rest r hr

theorem lift (x : Except ε α) : Asks P (lift x : StreamReader ρ ε α) := nofun

/-- What follows a check may use that it passed. -/
theorem lift_bind {x : Except ε α} (hf : ∀ a, x = .ok a → Asks P (f a)) :
    Asks P (StreamReader.lift x >>= f) := fun input r hr => by
  cases x with
  | error e => cases hr
  | ok a => exact hf a rfl input r hr

theorem ask {r : ρ} (h : P r) : Asks P (ask r : StreamReader ρ ε Unit) := fun _ r' hr' => by
  rw [List.mem_singleton.mp hr']
  exact h

theorem exactly {r : ρ} (h : P r) (short : Option (Nat → ε)) (n : Nat) :
    Asks P (exactly r short n) := fun input r' hr' => by
  unfold StreamReader.exactly at hr'
  split at hr'
  · rw [List.mem_singleton.mp hr']
    exact h
  · rw [List.mem_singleton.mp hr']
    exact h

end Asks

/-! ### From what a value was taken -/

/-- Whatever arrives, a value was taken from bytes that it stands in `R` to. -/
def Gives (R : List UInt8 → α → Prop) (p : StreamReader ρ ε α) : Prop :=
  ∀ input a rest asked, p input = ⟨some (.ok a), rest, asked⟩ →
    ∃ bs, input = bs ++ rest ∧ R bs a

namespace Gives

variable {R R' : List UInt8 → α → Prop} {S : α → List UInt8 → β → Prop}

theorem imp (hp : Gives R p) (hR : ∀ bs a, R bs a → R' bs a) : Gives R' p :=
  fun input a rest asked h => by
    obtain ⟨bs, hinput, hbs⟩ := hp input a rest asked h
    exact ⟨bs, hinput, hR bs a hbs⟩

theorem pure (a : α) : Gives (fun bs b => bs = [] ∧ b = a) (pure a : StreamReader ρ ε α) :=
  fun input b rest asked h => by
    cases h
    exact ⟨[], rfl, rfl, rfl⟩

theorem bind (hp : Gives R p) (hf : ∀ a, Gives (S a) (f a)) :
    Gives (fun bs b => ∃ a cs ds, bs = cs ++ ds ∧ R cs a ∧ S a ds b) (p >>= f) :=
  fun input b rest asked h => by
    rcases hrun : p input with ⟨_ | e | a, rest', asked'⟩
    · rw [bind_run_none hrun] at h
      cases h
    · rw [bind_run_error hrun] at h
      cases h
    · rw [bind_run_ok hrun] at h
      rcases hnext : f a rest' with ⟨x, rest'', asked''⟩
      rw [hnext] at h
      cases h
      obtain ⟨cs, rfl, hcs⟩ := hp _ _ _ _ hrun
      obtain ⟨ds, rfl, hds⟩ := hf a _ _ _ _ hnext
      exact ⟨cs ++ ds, (List.append_assoc _ _ _).symm, a, cs, ds, rfl, hcs, hds⟩

theorem lift (x : Except ε α) :
    Gives (fun bs a => bs = [] ∧ x = .ok a) (lift x : StreamReader ρ ε α) :=
  fun input a rest asked h => by
    cases h
    exact ⟨[], rfl, rfl, rfl⟩

theorem ask (r : ρ) : Gives (fun bs _ => bs = []) (ask r : StreamReader ρ ε Unit) :=
  fun input a rest asked h => by
    cases h
    exact ⟨[], rfl, rfl⟩

theorem exactly (r : ρ) (short : Option (Nat → ε)) (n : Nat) :
    Gives (fun bs a => bs = a ∧ a.length = n) (exactly r short n) :=
  fun input a rest asked h => by
    unfold StreamReader.exactly at h
    split at h
    · rename_i hle
      cases h
      exact ⟨input.take n, (List.take_append_drop n input).symm, rfl,
        by rw [List.length_take, Nat.min_eq_left hle]⟩
    · simp only [Outcome.mk.injEq] at h
      obtain ⟨_, _, hcontra⟩ := Option.map_eq_some_iff.mp h.1
      cases hcontra

end Gives

/-! ### Failing -/

/-- The reader fails with `e` once it read `bs`, whatever arrives behind. -/
def Fails (p : StreamReader ρ ε α) (bs : List UInt8) (e : ε) : Prop :=
  ∀ rest, ∃ asked, p (bs ++ rest) = ⟨some (.error e), rest, asked⟩

theorem Fails.lift {e : ε} {x : Except ε α} (h : x = .error e) :
    Fails (lift x : StreamReader ρ ε α) [] e := fun _ => ⟨[], by rw [h]; rfl⟩

/-- What follows what is taken fails. -/
theorem Takes.fails {e : ε} {g : α → StreamReader ρ ε β} (hp : Takes p bs a)
    (hf : Fails (g a) cs e) : Fails (p >>= g) (bs ++ cs) e := fun rest => by
  obtain ⟨asked, hp⟩ := hp (cs ++ rest)
  obtain ⟨asked', hf⟩ := hf rest
  rw [List.append_assoc, bind_run_ok hp, hf]
  exact ⟨asked ++ asked', rfl⟩

/-! ### The same but for waiting -/

/-- What `p` came to, `q` comes to as well; where `p` waits, `q` may do anything. -/
def Decides (p q : StreamReader ρ ε α) : Prop :=
  ∀ input x rest asked, p input = ⟨some x, rest, asked⟩ → q input = ⟨some x, rest, asked⟩

namespace Decides

theorem refl (p : StreamReader ρ ε α) : Decides p p := fun _ _ _ _ h => h

theorem bind {q : StreamReader ρ ε α} {g : α → StreamReader ρ ε β} (hp : Decides p q)
    (hf : ∀ a, Decides (f a) (g a)) : Decides (p >>= f) (q >>= g) := fun input x rest asked h => by
  rcases hrun : p input with ⟨_ | e | a, rest', asked'⟩
  · rw [bind_run_none hrun] at h
    cases h
  · rw [bind_run_error hrun] at h
    rw [bind_run_error (hp _ _ _ _ hrun), h]
  · rw [bind_run_ok hrun] at h
    rcases hnext : f a rest' with ⟨_ | x', rest'', asked''⟩
    · rw [hnext] at h
      cases h
    · rw [hnext] at h
      rw [bind_run_ok (hp _ _ _ _ hrun), hf a _ _ _ _ hnext, h]

/-- Bytes that are awaited may be told to be missing. -/
theorem exactly (r : ρ) (short : Option (Nat → ε)) (n : Nat) :
    Decides (exactly r none n) (exactly r short n) := fun input x rest asked h => by
  unfold StreamReader.exactly at h ⊢
  split at h
  · rename_i hle
    rw [if_pos hle, h]
  · cases h

end Decides

/-! ### The same but for a failure -/

/-- `p` comes to what `q` comes to, or to a failure in `F`. -/
def Falters (F : ε → Prop) (p q : StreamReader ρ ε α) : Prop :=
  ∀ input, p input = q input ∨ ∃ e, F e ∧ (p input).result = some (.error e)

namespace Falters

theorem refl (p : StreamReader ρ ε α) : Falters F p p := fun _ => .inl rfl

theorem bind {q : StreamReader ρ ε α} {g : α → StreamReader ρ ε β} (hp : Falters F p q)
    (hf : ∀ a, Falters F (f a) (g a)) : Falters F (p >>= f) (q >>= g) := fun input => by
  rcases hp input with heq | ⟨e, he, hfails⟩
  · rcases hrun : q input with ⟨_ | e | a, rest, asked⟩
    · rw [bind_run_none (heq.trans hrun), bind_run_none hrun]
      exact .inl rfl
    · rw [bind_run_error (heq.trans hrun), bind_run_error hrun]
      exact .inl rfl
    · rw [bind_run_ok (heq.trans hrun), bind_run_ok hrun]
      rcases hf a rest with hnext | ⟨e, he, hfails⟩
      · rw [hnext]
        exact .inl rfl
      · exact .inr ⟨e, he, hfails⟩
  · rcases hrun : p input with ⟨_, rest, asked⟩
    rw [hrun] at hfails
    cases hfails
    rw [bind_run_error hrun]
    exact .inr ⟨e, he, rfl⟩

theorem lift {x : Except ε α} {a : α} (h : x = .ok a ∨ ∃ e, F e ∧ x = .error e) :
    Falters F (lift x : StreamReader ρ ε α) (StreamReader.lift (.ok a)) := fun input => by
  rcases h with rfl | ⟨e, he, rfl⟩
  · exact .inl rfl
  · exact .inr ⟨e, he, rfl⟩

end Falters

/-! ### Failures in other terms -/

def mapError {ε' : Type} (g : ε → ε') (p : StreamReader ρ ε α) : StreamReader ρ ε' α := fun input =>
  ⟨(p input).result.map (·.mapError g), (p input).rest, (p input).asked⟩

variable {ε' : Type} {g : ε → ε'}

theorem mapError_ok : mapError g p input = ⟨some (.ok a), rest, asked⟩ ↔
    p input = ⟨some (.ok a), rest, asked⟩ := by
  unfold mapError
  rcases p input with ⟨_ | e | b, rest', asked'⟩ <;> simp [Except.mapError]

theorem Takes.mapError (h : Takes p bs a) : Takes (mapError g p) bs a := fun rest => by
  obtain ⟨asked, hrun⟩ := h rest
  exact ⟨asked, mapError_ok.mpr hrun⟩

theorem Gives.mapError {R : List UInt8 → α → Prop} (h : Gives R p) : Gives R (mapError g p) :=
  fun input a rest asked hrun => h input a rest asked (mapError_ok.mp hrun)

theorem Settled.mapError {F' : ε' → Prop} (h : Settled F p) (hF : ∀ e, F e → F' (g e)) :
    Settled F' (mapError g p) := fun input x rest asked hrun hx more => by
  unfold StreamReader.mapError at hrun ⊢
  rcases hp : p input with ⟨_ | x₀, rest₀, asked₀⟩
  · rw [hp] at hrun
    cases hrun
  · rw [hp] at hrun
    cases hrun
    rw [h _ _ _ _ hp (fun e he hFe => ?_) more]
    · rfl
    · subst he
      exact hx _ rfl (hF e hFe)

theorem Decides.mapError {q : StreamReader ρ ε α} (h : Decides p q) :
    Decides (mapError g p) (mapError g q) := fun input x rest asked hrun => by
  unfold StreamReader.mapError at hrun ⊢
  rcases hp : p input with ⟨_ | x₀, rest₀, asked₀⟩
  · rw [hp] at hrun
    cases hrun
  · rw [hp] at hrun
    rw [h _ _ _ _ hp, hrun]

theorem Falters.mapError {F' : ε' → Prop} {q : StreamReader ρ ε α} (h : Falters F p q)
    (hF : ∀ e, F e → F' (g e)) : Falters F' (mapError g p) (mapError g q) := fun input => by
  rcases h input with heq | ⟨e, he, hfails⟩
  · left
    rw [StreamReader.mapError, heq]
    rfl
  · right
    refine ⟨g e, hF e he, ?_⟩
    rw [StreamReader.mapError, hfails]
    rfl

theorem Asks.mapError {P : ρ → Prop} (h : Asks P p) : Asks P (mapError g p) := h

theorem Yields.mapError {Q : α → Prop} {E : ε → Prop} {E' : ε' → Prop} (h : Yields Q E p)
    (hE : ∀ e, E e → E' (g e)) : Yields Q E' (mapError g p) := fun input => by
  obtain ⟨hvalue, herror⟩ := h input
  unfold StreamReader.mapError
  rcases hrun : p input with ⟨_ | e | a, rest, asked⟩
  · exact ⟨fun _ h => by (cases h), fun _ h => by cases h⟩
  · refine ⟨fun _ h => by (cases h), fun e' he' => ?_⟩
    cases he'
    exact hE e (herror e (by rw [hrun]))
  · refine ⟨fun b hb => ?_, fun _ h => by cases h⟩
    cases hb
    exact hvalue a (by rw [hrun])

end StreamReader

end Foundation
