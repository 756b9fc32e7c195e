import Mathlib.Logic.Relation

/-!
# Transition systems

`Reachable init step s`: some initial state runs to `s`. An invariant is proved once for the
initial states and once for a step (`Reachable.invariant`).
-/

namespace Foundation

variable {σ : Type*} {init : σ → Prop} {step : σ → σ → Prop} {P : σ → Prop}

/-- `s` is the last state of a run that starts in an initial state. -/
def Reachable (init : σ → Prop) (step : σ → σ → Prop) (s : σ) : Prop :=
  ∃ s₀, init s₀ ∧ Relation.ReflTransGen step s₀ s

namespace Reachable

theorem start {s : σ} (h : init s) : Reachable init step s := ⟨s, h, .refl⟩

theorem next {s t : σ} (h : Reachable init step s) (hst : step s t) : Reachable init step t := by
  obtain ⟨s₀, h₀, hr⟩ := h
  exact ⟨s₀, h₀, hr.tail hst⟩

theorem invariant (h₀ : ∀ s, init s → P s) (hs : ∀ s t, P s → step s t → P t) {s : σ}
    (h : Reachable init step s) : P s := by
  obtain ⟨s₀, hi, hr⟩ := h
  induction hr with
  | refl => exact h₀ _ hi
  | tail _ hst ih => exact hs _ _ ih hst

/-- What became true in a run became true in one of its steps. -/
theorem passes (h₀ : ∀ s, init s → ¬ P s) {s : σ} (h : Reachable init step s) (hs : P s) :
    ∃ s₁ s₂, Reachable init step s₁ ∧ step s₁ s₂ ∧ Relation.ReflTransGen step s₂ s ∧ ¬ P s₁ ∧
      P s₂ := by
  obtain ⟨s₀, hi, hr⟩ := h
  induction hr with
  | refl => exact absurd hs (h₀ _ hi)
  | @tail b c hr' hst ih =>
    by_cases hb : P b
    · obtain ⟨s₁, s₂, hs₁, hst', hr₂, hnot, hp⟩ := ih hb
      exact ⟨s₁, s₂, hs₁, hst', hr₂.tail hst, hnot, hp⟩
    · exact ⟨b, c, ⟨s₀, hi, hr'⟩, hst, .refl, hb, hs⟩

end Reachable

end Foundation
