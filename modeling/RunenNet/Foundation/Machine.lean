import Mathlib.Algebra.Order.Ring.Nat

/-!
# Checked machine arithmetic

`Checked α` is a computation that may stop the program: a failed `expect`, a reached
`unreachable`, a violated assertion, an arithmetic overflow or underflow, or a loop that
outruns its bound. `checkedAdd` and its siblings are the operations that answer `none`
instead. The lemmas turn an equation `x = .ok a` into the facts that made `x` succeed.
-/

namespace Foundation

universe u

/-- The largest value of a pointer-sized unsigned integer. -/
def usizeMax : Nat := 2 ^ 64 - 1

/-- The largest value of a 64-bit unsigned integer. -/
def u64Max : Nat := 2 ^ 64 - 1

/-- A positive pointer-sized integer. -/
@[ext] structure NonZeroUsize where
  get : Nat
  pos : 0 < get
  le_max : get ≤ usizeMax
  deriving DecidableEq, Repr

/-- The positive integer nearest to `n`. -/
def NonZeroUsize.nearest (n : Nat) : NonZeroUsize where
  get := max 1 (min n usizeMax)
  pos := Nat.lt_of_lt_of_le Nat.one_pos (Nat.le_max_left _ _)
  le_max := Nat.max_le.mpr ⟨by decide, Nat.min_le_right _ _⟩

/-- The ways a program stops without returning. -/
inductive Panic where
  | expect (message : String)
  | unreachable (message : String)
  | assertion
  | overflow
  | underflow
  | divergence
  deriving DecidableEq, Repr

/-- A computation that returns a value or panics. -/
abbrev Checked := Except Panic

/-- `checked_add`: `none` past `max`. -/
def checkedAdd (max a b : Nat) : Option Nat := if a + b ≤ max then some (a + b) else none

/-- `checked_sub`: `none` below zero. -/
def checkedSub (a b : Nat) : Option Nat := if b ≤ a then some (a - b) else none

/-- `checked_mul`: `none` past `max`. -/
def checkedMul (max a b : Nat) : Option Nat := if a * b ≤ max then some (a * b) else none

/-- `saturating_add`. -/
def saturatingAdd (max a b : Nat) : Nat := min (a + b) max

namespace Checked

variable {α β : Type u}

/-- The value of an option, or a panic with the message. -/
def expect (message : String) : Option α → Checked α
  | some a => .ok a
  | none => .error (.expect message)

/-- A branch the program declares impossible. -/
def unreachable (message : String) : Checked α := .error (.unreachable message)

/-- An assertion. -/
def assert (b : Bool) : Checked Unit := if b then .ok () else .error .assertion

/-- Addition that panics past `usizeMax`. -/
def add (a b : Nat) : Checked Nat := if a + b ≤ usizeMax then .ok (a + b) else .error .overflow

/-- Subtraction that panics below zero. -/
def sub (a b : Nat) : Checked Nat := if b ≤ a then .ok (a - b) else .error .underflow

@[simp] theorem ok_bind (a : α) (f : α → Checked β) : ((Except.ok a : Checked α) >>= f) = f a := rfl

@[simp] theorem error_bind (e : Panic) (f : α → Checked β) :
    ((Except.error e : Checked α) >>= f) = .error e := rfl

@[simp] theorem pure_eq (a : α) : (pure a : Checked α) = .ok a := rfl

theorem bind_eq_ok {x : Checked α} {f : α → Checked β} {b : β} :
    (x >>= f) = .ok b ↔ ∃ a, x = .ok a ∧ f a = .ok b := by
  cases x with
  | error e => simp
  | ok a => simp

/-- The computation does not panic. -/
def Returns (x : Checked α) : Prop := ∃ a, x = .ok a

theorem Returns.ok (a : α) : Returns (.ok a : Checked α) := ⟨a, rfl⟩

theorem Returns.bind {x : Checked α} {f : α → Checked β} (h : Returns x)
    (hf : ∀ a, x = .ok a → Returns (f a)) : Returns (x >>= f) := by
  obtain ⟨a, rfl⟩ := h
  exact hf a rfl

@[simp] theorem expect_some (m : String) (a : α) : expect m (some a) = .ok a := rfl

/-- An invariant of the step is an invariant of every run that does not panic. -/
theorem foldlM_invariant {σ ι : Type u} {P : σ → Prop} {exec : σ → ι → Checked σ}
    (hs : ∀ s a t, P s → exec s a = .ok t → P t) {as : List ι} {s t : σ} (h₀ : P s)
    (h : as.foldlM exec s = .ok t) : P t := by
  induction as generalizing s with
  | nil => cases h; exact h₀
  | cons a as ih =>
    rw [List.foldlM_cons, bind_eq_ok] at h
    obtain ⟨s', h1, h2⟩ := h
    exact ih (hs s a s' h₀ h1) h2

theorem expect_eq_ok {m : String} {o : Option α} {a : α} : expect m o = .ok a ↔ o = some a := by
  cases o <;> simp [expect]

@[simp] theorem assert_true : assert true = .ok () := rfl

theorem assert_eq_ok {b : Bool} {u : Unit} : assert b = .ok u ↔ b = true := by
  cases b <;> simp [assert]

theorem add_ok {a b : Nat} (h : a + b ≤ usizeMax) : add a b = .ok (a + b) := if_pos h

theorem sub_ok {a b : Nat} (h : b ≤ a) : sub a b = .ok (a - b) := if_pos h

end Checked

theorem checkedAdd_eq_some {m a b c : Nat} :
    checkedAdd m a b = some c ↔ a + b ≤ m ∧ c = a + b := by
  unfold checkedAdd
  split
  · rename_i h; simp [h, eq_comm]
  · rename_i h; simp [h]

theorem checkedMul_eq_some {m a b c : Nat} :
    checkedMul m a b = some c ↔ a * b ≤ m ∧ c = a * b := by
  unfold checkedMul
  split
  · rename_i h; simp [h, eq_comm]
  · rename_i h; simp [h]

theorem checkedSub_eq_some {a b c : Nat} : checkedSub a b = some c ↔ b ≤ a ∧ c = a - b := by
  unfold checkedSub
  split
  · rename_i h; simp [h, eq_comm]
  · rename_i h; simp [h]

end Foundation
