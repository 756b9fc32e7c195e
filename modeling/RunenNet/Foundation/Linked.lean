import RunenNet.Foundation.SortedMap
import Mathlib.Logic.Function.Basic

/-!
# Two views of one set

A table of names and a map of what is held, kept apart and changed together: every name stands
for something held, everything held has a name, and no two names stand for the same.
-/

namespace Foundation

variable {K V X W : Type*} [LinearOrder K]

/-- The entry under a name says which object it stands for (`key`) and as what (`val`). -/
structure Linked (names : SortedMap K V) (key : V → X) (val : V → W) (held : X → Option W) :
    Prop where
  stands : ∀ k v, names.get? k = some v → held (key v) = some (val v)
  named : ∀ x w, held x = some w → ∃ k v, names.get? k = some v ∧ key v = x ∧ val v = w
  distinct : ∀ k k' v v', names.get? k = some v → names.get? k' = some v' → key v = key v' → k = k'

namespace Linked

variable {names : SortedMap K V} {key : V → X} {val : V → W} {held : X → Option W}

theorem empty (h : ∀ x, held x = none) : Linked (.empty : SortedMap K V) key val held where
  stands := nofun
  named := fun x w hx => by
    rw [h x] at hx
    cases hx
  distinct := nofun

/-- What is not held has no name. -/
theorem unnamed (h : Linked names key val held) {k : K} {v : V} (hv : names.get? k = some v)
    {x : X} (hx : held x = none) : key v ≠ x := by
  rintro rfl
  rw [h.stands k v hv] at hx
  cases hx

/-- A new object gets a new name. -/
theorem insert [DecidableEq X] (h : Linked names key val held) {k : K} {v : V}
    (hk : names.get? k = none) (hx : held (key v) = none) :
    Linked (names.insert k v) key val (Function.update held (key v) (some (val v))) where
  stands := fun k' v' hv' => by
    rw [SortedMap.get?_insert] at hv'
    split at hv'
    · cases hv'
      exact Function.update_self ..
    · rw [Function.update_of_ne (h.unnamed hv' hx)]
      exact h.stands k' v' hv'
  named := fun x w hw => by
    by_cases hxv : x = key v
    · subst hxv
      rw [Function.update_self] at hw
      exact ⟨k, v, SortedMap.get?_insert_self .., rfl, Option.some.inj hw⟩
    · rw [Function.update_of_ne hxv] at hw
      obtain ⟨k', v', hv', hkey, hval⟩ := h.named x w hw
      have hne : k' ≠ k := by
        rintro rfl
        rw [hk] at hv'
        cases hv'
      exact ⟨k', v', by rw [SortedMap.get?_insert_ne _ _ hne]; exact hv', hkey, hval⟩
  distinct := fun k₁ k₂ v₁ v₂ h₁ h₂ heq => by
    rw [SortedMap.get?_insert] at h₁ h₂
    split at h₁ <;> split at h₂
    · rename_i e₁ e₂
      rw [e₁, e₂]
    · cases h₁
      exact absurd heq.symm (h.unnamed h₂ hx)
    · cases h₂
      exact absurd heq (h.unnamed h₁ hx)
    · exact h.distinct k₁ k₂ v₁ v₂ h₁ h₂ heq

/-- An object goes with its name. -/
theorem erase [DecidableEq X] (h : Linked names key val held) {k : K} {v : V} (hv : names.get? k = some v) :
    Linked (names.erase k) key val (Function.update held (key v) none) where
  stands := fun k' v' hv' => by
    obtain ⟨hne, hv'⟩ := SortedMap.get?_of_erase hv'
    have hkey : key v' ≠ key v := fun heq => hne (h.distinct k' k v' v hv' hv heq)
    rw [Function.update_of_ne hkey]
    exact h.stands k' v' hv'
  named := fun x w hw => by
    have hne : x ≠ key v := by
      rintro rfl
      rw [Function.update_self] at hw
      cases hw
    rw [Function.update_of_ne hne] at hw
    obtain ⟨k', v', hv', hkey, hval⟩ := h.named x w hw
    have hk : k' ≠ k := by
      rintro rfl
      rw [hv] at hv'
      cases hv'
      exact hne hkey.symm
    exact ⟨k', v', by rw [SortedMap.get?_erase_ne _ hk]; exact hv', hkey, hval⟩
  distinct := fun k₁ k₂ v₁ v₂ h₁ h₂ heq =>
    h.distinct k₁ k₂ v₁ v₂ (SortedMap.get?_of_erase h₁).2 (SortedMap.get?_of_erase h₂).2 heq

/-- An entry may change in what the two views do not share. -/
theorem relabel (h : Linked names key val held) {k : K} {v v' : V} (hv : names.get? k = some v)
    (hkey : key v' = key v) (hval : val v' = val v) :
    Linked (names.insert k v') key val held := by
  have entry : ∀ {k' : K} {u : V}, (names.insert k v').get? k' = some u →
      ∃ u', names.get? k' = some u' ∧ key u = key u' ∧ val u = val u' := by
    intro k' u hu
    rw [SortedMap.get?_insert] at hu
    split at hu
    · rename_i heq
      cases hu
      exact ⟨v, heq ▸ hv, hkey, hval⟩
    · exact ⟨u, hu, rfl, rfl⟩
  exact {
    stands := fun k' u hu => by
      obtain ⟨u', hu', hk, hw⟩ := entry hu
      rw [hk, hw]
      exact h.stands k' u' hu'
    named := fun x w hw => by
      obtain ⟨k', u, hu, rfl, rfl⟩ := h.named x w hw
      by_cases heq : k' = k
      · subst heq
        rw [hv] at hu
        cases hu
        exact ⟨k', v', SortedMap.get?_insert_self .., hkey, hval⟩
      · exact ⟨k', u, by rw [SortedMap.get?_insert_ne _ _ heq]; exact hu, rfl, rfl⟩
    distinct := fun k₁ k₂ v₁ v₂ h₁ h₂ heq => by
      obtain ⟨u₁, hu₁, hk₁, -⟩ := entry h₁
      obtain ⟨u₂, hu₂, hk₂, -⟩ := entry h₂
      exact h.distinct k₁ k₂ u₁ u₂ hu₁ hu₂ (hk₁ ▸ hk₂ ▸ heq) }

end Linked

end Foundation
