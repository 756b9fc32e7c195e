import RunenNet.Foundation.Machine

/-!
# Decoders that take a stream in chunks

`consume k s input` takes some of the input, with `k` messages behind it, and hands out at most one
message. `feed` calls it on chunk after chunk until it fails. When each call agrees with a parse of
the whole stream, so does every run, whatever the chunks.
-/

namespace Foundation

variable {σ β μ ε φ : Type}

/-- The result of one call: how much of the input was used, and a message. -/
abbrev Taken (μ ε : Type) := Except ε (Nat × Option μ)

section Running

variable (consume : Nat → σ → List β → Taken μ ε × σ)

/-- Calls until the input is used up or a call fails: the messages, the error and the state. -/
def drain : (bound k : Nat) → σ → List β → Checked (List μ × Option ε × σ)
  | _, _, s, [] => .ok ([], none, s)
  | 0, _, _, _ :: _ => .error .divergence
  | bound + 1, k, s, first :: rest => match consume k s (first :: rest) with
    | (.error e, s) => .ok ([], some e, s)
    | (.ok (n, none), s) => drain bound k s ((first :: rest).drop n)
    | (.ok (n, some m), s) => do
      let (ms, e, s) ← drain bound (k + 1) s ((first :: rest).drop n)
      return (m :: ms, e, s)

/-- Chunk after chunk, until a call fails. -/
def feed : (k : Nat) → σ → List (List β) → Checked (List μ × Option ε × σ)
  | _, s, [] => .ok ([], none, s)
  | k, s, chunk :: chunks => do
    match ← drain consume chunk.length k s chunk with
    | (ms, some e, s) => return (ms, some e, s)
    | (ms, none, s) => do
      let (more, e, s) ← feed (k + ms.length) s chunks
      return (ms ++ more, e, s)

end Running

/-- Each call agrees with the parse: `pending` are the bytes of the unfinished message that the
state stands for, and `Live k` holds of the states between calls that did not fail. -/
structure Agrees (consume : Nat → σ → List β → Taken μ ε × σ)
    (parse : Nat → List β → List μ × Option ε × φ) (finish : σ → φ) (pending : σ → List β)
    (Live : Nat → σ → Prop) : Prop where
  progress : ∀ {k s input n m s'}, Live k s → input ≠ [] → consume k s input = (.ok (n, m), s') →
    0 < n
  more : ∀ {k s input n s'}, Live k s → input ≠ [] → consume k s input = (.ok (n, none), s') →
    input.length ≤ n ∧ pending s' = pending s ++ input ∧ Live k s'
  message : ∀ {k s input n m s'}, Live k s → input ≠ [] →
    consume k s input = (.ok (n, some m), s') → pending s' = [] ∧ Live (k + 1) s' ∧
      ∀ rest, parse k (pending s ++ (input ++ rest)) =
        (m :: (parse (k + 1) (input.drop n ++ rest)).1, (parse (k + 1) (input.drop n ++ rest)).2)
  failed : ∀ {k s input e s'}, Live k s → input ≠ [] → consume k s input = (.error e, s') →
    ∀ rest, parse k (pending s ++ (input ++ rest)) = ([], some e, finish s')
  stopped : ∀ {k s}, Live k s → parse k (pending s) = ([], none, finish s)

namespace Agrees

variable {consume : Nat → σ → List β → Taken μ ε × σ}
  {parse : Nat → List β → List μ × Option ε × φ} {finish : σ → φ} {pending : σ → List β}
  {Live : Nat → σ → Prop}

/-- The parse of a stream whose beginning gave `ms`, left `s` and failed or went on. -/
def resumed (parse : Nat → List β → List μ × Option ε × φ) (finish : σ → φ)
    (pending : σ → List β) (k : Nat) (ms : List μ) (s : σ) (rest : List β) :
    Option ε → List μ × Option ε × φ
  | some e => (ms, some e, finish s)
  | none =>
    let later := parse (k + ms.length) (pending s ++ rest)
    (ms ++ later.1, later.2)

/-- A chunk is used up: the parse of the stream goes on behind it, or has failed. -/
theorem drain_parse (h : Agrees consume parse finish pending Live) {bound k : Nat} {s : σ}
    {input : List β} (hs : Live k s) (hb : input.length ≤ bound) :
    ∃ ms e s', drain consume bound k s input = .ok (ms, e, s') ∧
      (e = none → Live (k + ms.length) s') ∧
      ∀ rest, parse k (pending s ++ (input ++ rest)) =
        resumed parse finish pending k ms s' rest e := by
  induction bound generalizing k s input with
  | zero =>
    obtain rfl := List.eq_nil_of_length_eq_zero (Nat.le_zero.mp hb)
    exact ⟨[], none, s, by rw [drain], fun _ => hs, fun rest => rfl⟩
  | succ bound ih =>
    cases input with
    | nil => exact ⟨[], none, s, by rw [drain], fun _ => hs, fun rest => rfl⟩
    | cons first tail =>
      have hne : first :: tail ≠ [] := List.cons_ne_nil _ _
      -- what a call leaves of the input is shorter
      have hrest : ∀ {n m s'}, consume k s (first :: tail) = (.ok (n, m), s') →
          ((first :: tail).drop n).length ≤ bound := fun hc => by
        have hpos := h.progress hs hne hc
        rw [List.length_drop]
        omega
      cases hc : consume k s (first :: tail) with
      | mk result s₁ =>
        cases result with
        | error e =>
          exact ⟨[], some e, s₁, by simp only [drain, hc], nofun, h.failed hs hne hc⟩
        | ok taken =>
          obtain ⟨n, m⟩ := taken
          cases m with
          | none =>
            obtain ⟨hn, hp, hs₁⟩ := h.more hs hne hc
            obtain ⟨ms, e, s₂, hd, hlive, hparse⟩ := ih hs₁ (hrest hc)
            refine ⟨ms, e, s₂, by simp only [drain, hc]; exact hd, hlive, fun rest => ?_⟩
            have := hparse rest
            rwa [List.drop_eq_nil_of_le hn, hp, List.nil_append, List.append_assoc] at this
          | some m =>
            obtain ⟨hp, hs₁, hm⟩ := h.message hs hne hc
            obtain ⟨ms, e, s₂, hd, hlive, hparse⟩ := ih hs₁ (hrest hc)
            refine ⟨m :: ms, e, s₂, ?_, fun he => ?_, fun rest => ?_⟩
            · simp only [drain, hc, hd]
              rfl
            · rw [List.length_cons, Nat.add_comm ms.length, ← Nat.add_assoc]
              exact hlive he
            · have := hparse rest
              rw [hp, List.nil_append] at this
              rw [hm rest, this]
              cases e with
              | none =>
                rw [resumed, resumed, List.length_cons, Nat.add_comm ms.length, ← Nat.add_assoc]
                rfl
              | some e => rfl

/-- Whatever the chunks, the run ends with the messages, the error and the finish of the parse. -/
theorem feed_parse (h : Agrees consume parse finish pending Live) {k : Nat} {s : σ}
    (hs : Live k s) (chunks : List (List β)) :
    ∃ ms e s', feed consume k s chunks = .ok (ms, e, s') ∧
      parse k (pending s ++ chunks.flatten) = (ms, e, finish s') := by
  induction chunks generalizing k s with
  | nil =>
    refine ⟨[], none, s, rfl, ?_⟩
    rw [List.flatten_nil, List.append_nil]
    exact h.stopped hs
  | cons chunk chunks ih =>
    obtain ⟨ms, e, s₁, hd, hlive, hparse⟩ := h.drain_parse hs (le_refl chunk.length)
    have hparse := hparse chunks.flatten
    rw [List.flatten_cons]
    cases e with
    | some e => exact ⟨ms, some e, s₁, by simp only [feed, hd]; rfl, hparse⟩
    | none =>
      obtain ⟨more, e, s₂, hf, hp⟩ := ih (hlive rfl)
      refine ⟨ms ++ more, e, s₂, by simp only [feed, hd, Checked.ok_bind, hf]; rfl, ?_⟩
      rw [hparse, resumed, hp]

end Agrees

end Foundation
