import Mathlib.Data.List.Range
import Mathlib.Data.Nat.ModEq

/-!
# Turns around a circle

A scheduler looks at places that stand in a circle, each time from behind the place at which it
stopped before. Within as many turns as there are places it looks at each of them.
-/

namespace Foundation

variable {n start m cursor cursor' next r : Nat} {ls ls' : List (List Nat)}

/-- The first `m` places from `start` on, of `n` in a circle. -/
def around (n start m : Nat) : List Nat := (List.range m).map fun k => (start + k) % n

theorem mem_around : r ∈ around n start m ↔ ∃ k < m, (start + k) % n = r := by
  simp only [around, List.mem_map, List.mem_range]

@[simp] theorem around_mod : around n (start % n) m = around n start m := by
  simp only [around, Nat.mod_add_mod]

/-- Every place is met within one round. -/
theorem mem_around_whole (hr : r < n) : r ∈ around n start n := by
  have hlt : start % n < n := Nat.mod_lt _ (Nat.zero_lt_of_lt hr)
  rw [← around_mod, mem_around]
  rcases le_or_gt (start % n) r with hle | hgt
  · refine ⟨r - start % n, by omega, ?_⟩
    rw [Nat.add_sub_cancel' hle, Nat.mod_eq_of_lt hr]
  · refine ⟨r + n - start % n, by omega, ?_⟩
    rw [show start % n + (r + n - start % n) = r + n by omega, Nat.add_mod_right,
      Nat.mod_eq_of_lt hr]

/-- A round that stopped early looked at the places up to where it stopped. -/
theorem around_split {before after : List Nat} (h : around n start m = before ++ r :: after) :
    before ++ [r] = around n start (before.length + 1) ∧ r = (start + before.length) % n := by
  have hlen : before.length < m := by
    have := congrArg List.length h
    simp only [around, List.length_map, List.length_range, List.length_append,
      List.length_cons] at this
    omega
  have htake : before ++ [r] = around n start (before.length + 1) := by
    have := congrArg (List.take (before.length + 1)) h
    rw [around, ← List.map_take, List.take_range, min_eq_left hlen, List.take_append,
      List.take_of_length_le (Nat.le_succ _), Nat.add_sub_cancel_left] at this
    exact this.symm
  refine ⟨htake, ?_⟩
  have hlast := congrArg (fun l => l[before.length]?) htake
  simpa [around] using hlast

/-- One turn: the places looked at, and where the next turn begins: behind the last of them, or
anywhere if all were looked at. -/
inductive Turn (n cursor : Nat) : List Nat → Nat → Prop where
  | stopped {m next : Nat} : 0 < m → next % n = (cursor + m) % n →
    Turn n cursor (around n cursor m) next
  | whole {next : Nat} : Turn n cursor (around n cursor n) next

/-- A loop that goes around, and stops behind the place at which it has something to do, takes a
turn. -/
theorem Turn.of_loop {looked : List Nat}
    (h : looked = around n cursor n ∨ ∃ before r after, around n cursor n = before ++ r :: after ∧
      looked = before ++ [r] ∧ next = (r + 1) % n) : Turn n cursor looked next := by
  rcases h with rfl | ⟨before, r, after, hsplit, rfl, rfl⟩
  · exact .whole
  · obtain ⟨hlooked, hr⟩ := around_split hsplit
    rw [hlooked]
    refine .stopped (Nat.succ_pos _) ?_
    rw [hr, Nat.mod_mod, Nat.mod_add_mod, Nat.add_assoc]

/-- Turns in a row. -/
inductive Turns (n : Nat) : Nat → List (List Nat) → Nat → Prop where
  | nil {cursor : Nat} : Turns n cursor [] cursor
  | cons {cursor next cursor' : Nat} {l : List Nat} {ls : List (List Nat)} :
    Turn n cursor l next → Turns n next ls cursor' → Turns n cursor (l :: ls) cursor'

namespace Turns

theorem append (h : Turns n cursor ls next) (h' : Turns n next ls' cursor') :
    Turns n cursor (ls ++ ls') cursor' := by
  induction h with
  | nil => exact h'
  | cons hturn _ ih => exact .cons hturn (ih h')

theorem split (h : Turns n cursor (ls ++ ls') cursor') :
    ∃ next, Turns n cursor ls next ∧ Turns n next ls' cursor' := by
  induction ls generalizing cursor with
  | nil => exact ⟨cursor, .nil, h⟩
  | cons l ls ih =>
    cases h with
    | cons hturn hrest =>
      obtain ⟨next, hls, hls'⟩ := ih hrest
      exact ⟨next, .cons hturn hls, hls'⟩

/-- Unless a turn went all around, the turns together looked at the places from the first cursor to
the last, one place a turn at least. -/
theorem covers (h : Turns n cursor ls cursor') :
    (∀ r < n, ∃ l ∈ ls, r ∈ l) ∨ ∃ s ≥ ls.length, cursor' % n = (cursor + s) % n ∧
      ∀ k < s, ∃ l ∈ ls, (cursor + k) % n ∈ l := by
  induction h with
  | nil => exact .inr ⟨0, le_refl _, rfl, fun k hk => absurd hk k.not_lt_zero⟩
  | @cons cursor next cursor' l ls hturn _ ih =>
    rcases ih with hall | ⟨s, hs, hend, hseen⟩
    · exact .inl fun r hr => (hall r hr).imp fun _ h => ⟨List.mem_cons_of_mem _ h.1, h.2⟩
    cases hturn with
    | whole => exact .inl fun r hr => ⟨_, List.mem_cons_self, mem_around_whole hr⟩
    | @stopped m _ hm hnext =>
      have hshift : ∀ k, (next + k) % n = (cursor + (m + k)) % n := fun k => by
        rw [← Nat.mod_add_mod, hnext, Nat.mod_add_mod, Nat.add_assoc]
      refine .inr ⟨m + s, ?_, hend.trans (hshift s), fun k hk => ?_⟩
      · rw [List.length_cons]
        omega
      rcases lt_or_ge k m with hlt | hge
      · exact ⟨_, List.mem_cons_self, mem_around.mpr ⟨k, hlt, rfl⟩⟩
      · obtain ⟨l', hl', hmem⟩ := hseen (k - m) (by omega)
        rw [hshift, Nat.add_sub_cancel' hge] at hmem
        exact ⟨l', List.mem_cons_of_mem _ hl', hmem⟩

/-- As many turns as there are places look at every place. -/
theorem all (h : Turns n cursor ls cursor') (hlen : n ≤ ls.length) (hr : r < n) :
    ∃ l ∈ ls, r ∈ l := by
  rcases h.covers with hall | ⟨s, hs, -, hseen⟩
  · exact hall r hr
  · have hmem : r ∈ around n cursor n := mem_around_whole hr
    obtain ⟨k, hk, rfl⟩ := mem_around.mp hmem
    exact hseen k (by omega)

/-- So do as many turns in a row anywhere among others. -/
theorem all_within {before after : List (List Nat)}
    (h : Turns n cursor (before ++ ls ++ after) cursor') (hlen : n ≤ ls.length)
    (hr : r < n) : ∃ l ∈ ls, r ∈ l := by
  rw [List.append_assoc] at h
  obtain ⟨_, -, h⟩ := h.split
  obtain ⟨_, h, -⟩ := h.split
  exact h.all hlen hr

end Turns

end Foundation
