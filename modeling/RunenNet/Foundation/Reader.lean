import Mathlib.Logic.Basic
import Mathlib.Tactic.Basic

/-!
# Reading from a byte string

`Reader ε α` takes a value from the front of its input or fails. `Reads F p bs a` says that `p`
reads `a` from exactly the bytes `bs`, whatever follows them, unless it fails with an error in
`F`; with `F` empty it never fails.
-/

namespace Foundation

universe u

/-- Takes a value from the front of the input. -/
def Reader (ε α : Type) : Type := List UInt8 → Except ε (α × List UInt8)

namespace Reader

variable {ε α β : Type}

instance : Monad (Reader ε) where
  pure a := fun input => .ok (a, input)
  bind p f := fun input => match p input with
    | .error e => .error e
    | .ok (a, rest) => f a rest

/-- A check that reads nothing. -/
def lift (x : Except ε α) : Reader ε α := fun input => match x with
  | .error e => .error e
  | .ok a => .ok (a, input)

def fail (e : ε) : Reader ε α := fun _ => .error e

/-- Fails with `e` when there is input left. -/
def finish (e : ε) : Reader ε Unit := fun input =>
  match input with
  | [] => .ok ((), [])
  | _ :: _ => .error e

/-- `n` values in a row. -/
def many (n : Nat) (p : Reader ε α) : Reader ε (List α) :=
  match n with
  | 0 => pure []
  | n + 1 => do
    let a ← p
    let as ← many n p
    return a :: as

/-- `n` values in a row, each read with the state the ones before it left. -/
def manyState {σ : Type} (p : σ → Reader ε (α × σ)) : Nat → σ → Reader ε (List α × σ)
  | 0, s => pure ([], s)
  | n + 1, s => do
    let (a, s) ← p s
    let (as, s) ← manyState p n s
    return (a :: as, s)

/-- A reader whose errors stand for others. -/
def mapError {ε' : Type} (g : ε → ε') (p : Reader ε α) : Reader ε' α := fun input =>
  match p input with
  | .error e => .error (g e)
  | .ok r => .ok r

/-- The value read from the whole input. -/
def parse (p : Reader ε α) (input : List UInt8) : Except ε α := (p input).map Prod.fst

theorem bind_run (p : Reader ε α) (f : α → Reader ε β) (input : List UInt8) :
    (p >>= f) input = match p input with
      | .error e => .error e
      | .ok (a, rest) => f a rest := rfl

def Reads (F : ε → Prop) (p : Reader ε α) (bs : List UInt8) (a : α) : Prop :=
  ∀ rest, p (bs ++ rest) = .ok (a, rest) ∨ ∃ e, F e ∧ p (bs ++ rest) = .error e

variable {F : ε → Prop} {p : Reader ε α} {f : α → Reader ε β} {bs cs : List UInt8} {a : α} {b : β}

theorem Reads.pure (a : α) : Reads F (pure a) [] a := fun _ => .inl rfl

theorem Reads.bind (hp : Reads F p bs a) (hf : Reads F (f a) cs b) :
    Reads F (p >>= f) (bs ++ cs) b := fun rest => by
  rw [bind_run, List.append_assoc]
  rcases hp (cs ++ rest) with h | ⟨e, he, h⟩
  · rw [h]
    exact hf rest
  · rw [h]
    exact .inr ⟨e, he, rfl⟩

/-- A step that reads nothing. -/
theorem Reads.andThen (hp : Reads F p [] a) (hf : Reads F (f a) cs b) :
    Reads F (p >>= f) cs b := hp.bind hf

/-- A last step that reads nothing. -/
theorem Reads.before (hp : Reads F p bs a) (hf : Reads F (f a) [] b) :
    Reads F (p >>= f) bs b := by
  have h := hp.bind hf
  rwa [List.append_nil] at h

theorem Reads.lift {x : Except ε α} (h : x = .ok a ∨ ∃ e, F e ∧ x = .error e) :
    Reads F (lift x) [] a := fun rest => by
  rcases h with rfl | ⟨e, he, rfl⟩
  · exact .inl rfl
  · exact .inr ⟨e, he, rfl⟩

theorem Reads.many {encode : α → List UInt8} {as : List α}
    (h : ∀ a ∈ as, Reads F p (encode a) a) :
    Reads F (many as.length p) (as.flatMap encode) as := by
  induction as with
  | nil => exact .pure []
  | cons a as ih =>
    rw [List.flatMap_cons]
    refine (h a List.mem_cons_self).bind (Reads.before (ih fun x hx => h x ?_) (.pure _))
    exact List.mem_cons_of_mem _ hx

theorem Reads.mapError {ε' : Type} {F : ε' → Prop} (g : ε → ε')
    (hp : Reads (fun _ => False) p bs a) : Reads F (mapError g p) bs a := fun rest => by
  rcases hp rest with h | ⟨e, he, -⟩
  · left
    simp only [Reader.mapError, h]
  · exact he.elim

/-- Values one after the other are read with the states they lead to. -/
theorem Reads.manyState {σ : Type} {p : σ → Reader ε (α × σ)} (next : σ → α → σ)
    {encode : α → List UInt8} {as : List α} {s : σ}
    (h : ∀ before a behind, as = before ++ a :: behind →
      Reads F (p (before.foldl next s)) (encode a) (a, next (before.foldl next s) a)) :
    Reads F (manyState p as.length s) (as.flatMap encode) (as, as.foldl next s) := by
  induction as generalizing s with
  | nil => exact .pure _
  | cons a as ih =>
    rw [List.flatMap_cons]
    have hrest : Reads F (Reader.manyState p as.length (next s a)) (as.flatMap encode)
        (as, as.foldl next (next s a)) :=
      ih fun before x behind heq => h (a :: before) x behind (by rw [heq]; rfl)
    exact (h [] a as rfl).bind (hrest.before (.pure _))

/-- What is read at the end of the input. -/
theorem Reads.parse (hp : Reads F p bs a) {e₀ : ε} :
    Reader.parse (do let a ← p; finish e₀; return a) bs = .ok a ∨
      ∃ e, F e ∧ Reader.parse (do let a ← p; finish e₀; return a) bs = .error e := by
  have h := hp []
  rw [List.append_nil] at h
  rcases h with h | ⟨e, he, h⟩
  · left
    simp only [Reader.parse, bind_run, h, finish]
    rfl
  · right
    refine ⟨e, he, ?_⟩
    simp only [Reader.parse, bind_run, h]
    rfl

end Reader

end Foundation
