import Mathlib.Algebra.BigOperators.Group.List.Basic
import Mathlib.Data.List.Perm.Subperm
import Mathlib.Data.List.Nodup
import Mathlib.Algebra.Order.Ring.Nat
import Mathlib.Algebra.Order.BigOperators.Group.List

/-!
# Finite maps as sorted association lists

`SortedMap K V` keeps its entries in strictly increasing key order, so equal lookups mean
equal maps (`SortedMap.ext_get?`). Iteration is in key order. A sum over the entries splits
at a key: `sum_insert` and `sum_of_get?` both reduce to the map without that key.
-/

namespace Foundation

universe u v w

/-- A finite map with its entries in strictly increasing key order. -/
structure SortedMap (K : Type u) (V : Type v) [LinearOrder K] where
  entries : List (K × V)
  sorted : entries.Pairwise (fun a b => a.1 < b.1)

namespace SortedMap

variable {K : Type u} {V : Type v} {M : Type w} [LinearOrder K]

instance [DecidableEq V] : DecidableEq (SortedMap K V) := fun m n =>
  decidable_of_iff (m.entries = n.entries) (by cases m; cases n; simp)

def empty : SortedMap K V := ⟨[], .nil⟩

instance : Inhabited (SortedMap K V) := ⟨empty⟩

/-- The value of the first entry at `k`. -/
def find (k : K) : List (K × V) → Option V
  | [] => none
  | e :: es => if e.1 = k then some e.2 else find k es

def get? (m : SortedMap K V) (k : K) : Option V := find k m.entries

def contains (m : SortedMap K V) (k : K) : Bool := (m.get? k).isSome

def size (m : SortedMap K V) : Nat := m.entries.length

def keys (m : SortedMap K V) : List K := m.entries.map Prod.fst

def values (m : SortedMap K V) : List V := m.entries.map Prod.snd

/-- The entries with `k` bound to `v`. -/
def place (k : K) (v : V) : List (K × V) → List (K × V)
  | [] => [(k, v)]
  | e :: es => if k < e.1 then (k, v) :: e :: es
      else if k = e.1 then (k, v) :: es else e :: place k v es

theorem mem_place {k : K} {v : V} {x : K × V} {l : List (K × V)} (h : x ∈ place k v l) :
    x = (k, v) ∨ x ∈ l := by
  induction l with
  | nil => simpa [place] using h
  | cons e es ih =>
    unfold place at h
    split at h
    · simpa using h
    · split at h
      · rcases List.mem_cons.mp h with h | h
        · exact .inl h
        · exact .inr (List.mem_cons_of_mem _ h)
      · rcases List.mem_cons.mp h with h | h
        · exact .inr (h ▸ List.mem_cons_self)
        · exact (ih h).imp_right (List.mem_cons_of_mem _)

theorem place_sorted (k : K) (v : V) {l : List (K × V)}
    (h : l.Pairwise (fun a b => a.1 < b.1)) : (place k v l).Pairwise (fun a b => a.1 < b.1) := by
  induction l with
  | nil => simp [place]
  | cons e es ih =>
    obtain ⟨he, hes⟩ := List.pairwise_cons.mp h
    unfold place
    split
    · rename_i hk
      refine List.pairwise_cons.mpr ⟨fun x hx => ?_, h⟩
      rcases List.mem_cons.mp hx with rfl | hx
      · exact hk
      · exact hk.trans (he x hx)
    · split
      · rename_i hk
        exact List.pairwise_cons.mpr ⟨fun x hx => hk ▸ he x hx, hes⟩
      · rename_i h1 h2
        have hlt : e.1 < k := lt_of_le_of_ne (not_lt.mp h1) (Ne.symm h2)
        refine List.pairwise_cons.mpr ⟨fun x hx => ?_, ih hes⟩
        rcases mem_place hx with rfl | hx
        · exact hlt
        · exact he x hx

def insert (m : SortedMap K V) (k : K) (v : V) : SortedMap K V :=
  ⟨place k v m.entries, place_sorted k v m.sorted⟩

def erase (m : SortedMap K V) (k : K) : SortedMap K V :=
  ⟨m.entries.filter (fun e => e.1 ≠ k), m.sorted.filter _⟩

/-- The entry with the least key. -/
def min? (m : SortedMap K V) : Option (K × V) := m.entries.head?

def ofList (l : List (K × V)) : SortedMap K V := l.foldl (fun m e => m.insert e.1 e.2) empty

/-! ### Lookups -/

theorem nodup_keys (m : SortedMap K V) : m.keys.Nodup := by
  unfold keys
  exact List.Pairwise.imp (fun h => ne_of_lt h) (List.pairwise_map.mpr m.sorted)

theorem nodup_entries (m : SortedMap K V) : m.entries.Nodup :=
  List.Nodup.of_map _ m.nodup_keys

private theorem find_eq_some {k : K} {v : V} {l : List (K × V)}
    (h : l.Pairwise (fun a b => a.1 < b.1)) : find k l = some v ↔ (k, v) ∈ l := by
  induction l with
  | nil => simp [find]
  | cons e es ih =>
    obtain ⟨he, hes⟩ := List.pairwise_cons.mp h
    unfold find
    split
    · rename_i hk
      subst hk
      constructor
      · intro hv; cases hv; exact List.mem_cons_self
      · intro hm
        rcases List.mem_cons.mp hm with hm | hm
        · rw [← hm]
        · exact absurd (he _ hm) (lt_irrefl _)
    · rename_i hk
      rw [ih hes, List.mem_cons]
      exact ⟨.inr, fun hm => hm.resolve_left (fun e' => hk (by rw [← e']))⟩

theorem get?_eq_some {m : SortedMap K V} {k : K} {v : V} :
    m.get? k = some v ↔ (k, v) ∈ m.entries := find_eq_some m.sorted

theorem get?_eq_none {m : SortedMap K V} {k : K} : m.get? k = none ↔ ∀ v, (k, v) ∉ m.entries := by
  rw [Option.eq_none_iff_forall_ne_some]
  simp only [ne_eq, get?_eq_some]

@[simp] theorem get?_empty (k : K) : (empty : SortedMap K V).get? k = none := rfl

private theorem mem_place_iff {k : K} {v : V} {l : List (K × V)} {x : K × V}
    (h : l.Pairwise (fun a b => a.1 < b.1)) :
    x ∈ place k v l ↔ x = (k, v) ∨ (x ∈ l ∧ x.1 ≠ k) := by
  induction l with
  | nil => simp [place]
  | cons e es ih =>
    obtain ⟨he, hes⟩ := List.pairwise_cons.mp h
    unfold place
    split
    · rename_i hk
      constructor
      · intro hx
        rcases List.mem_cons.mp hx with hx | hx
        · exact .inl hx
        · refine .inr ⟨hx, ?_⟩
          rcases List.mem_cons.mp hx with rfl | hx
          · exact ne_of_gt hk
          · exact ne_of_gt (hk.trans (he _ hx))
      · rintro (rfl | ⟨hx, -⟩)
        · exact List.mem_cons_self
        · exact List.mem_cons_of_mem _ hx
    · split
      · rename_i hk
        constructor
        · intro hx
          rcases List.mem_cons.mp hx with hx | hx
          · exact .inl hx
          · exact .inr ⟨List.mem_cons_of_mem _ hx, hk ▸ ne_of_gt (he _ hx)⟩
        · rintro (rfl | ⟨hx, hne⟩)
          · exact List.mem_cons_self
          · rcases List.mem_cons.mp hx with rfl | hx
            · exact absurd hk.symm hne
            · exact List.mem_cons_of_mem _ hx
      · rename_i h1 h2
        rw [List.mem_cons, ih hes]
        constructor
        · rintro (rfl | rfl | ⟨hx, hne⟩)
          · exact .inr ⟨List.mem_cons_self, fun e' => h2 e'.symm⟩
          · exact .inl rfl
          · exact .inr ⟨List.mem_cons_of_mem _ hx, hne⟩
        · rintro (rfl | ⟨hx, hne⟩)
          · exact .inr (.inl rfl)
          · rcases List.mem_cons.mp hx with rfl | hx
            · exact .inl rfl
            · exact .inr (.inr ⟨hx, hne⟩)

theorem mem_insert {m : SortedMap K V} {k : K} {v : V} {x : K × V} :
    x ∈ (m.insert k v).entries ↔ x = (k, v) ∨ (x ∈ m.entries ∧ x.1 ≠ k) := mem_place_iff m.sorted

theorem mem_erase {m : SortedMap K V} {k : K} {x : K × V} :
    x ∈ (m.erase k).entries ↔ x ∈ m.entries ∧ x.1 ≠ k := by
  simp [erase]

@[simp] theorem get?_insert_self (m : SortedMap K V) (k : K) (v : V) :
    (m.insert k v).get? k = some v := get?_eq_some.mpr (mem_insert.mpr (.inl rfl))

theorem get?_insert_ne (m : SortedMap K V) {k k' : K} (v : V) (h : k' ≠ k) :
    (m.insert k v).get? k' = m.get? k' := by
  ext v'
  simp only [get?_eq_some, mem_insert, Prod.mk.injEq]
  exact ⟨fun hx => (hx.resolve_left (fun e => h e.1)).1, fun hx => .inr ⟨hx, h⟩⟩

theorem get?_insert (m : SortedMap K V) (k k' : K) (v : V) :
    (m.insert k v).get? k' = if k' = k then some v else m.get? k' := by
  split
  · rename_i h; rw [h, get?_insert_self]
  · rename_i h; exact get?_insert_ne m v h

@[simp] theorem get?_erase_self (m : SortedMap K V) (k : K) : (m.erase k).get? k = none :=
  get?_eq_none.mpr (fun _ hx => (mem_erase.mp hx).2 rfl)

theorem get?_erase_ne (m : SortedMap K V) {k k' : K} (h : k' ≠ k) :
    (m.erase k).get? k' = m.get? k' := by
  ext v'
  simp only [get?_eq_some, mem_erase]
  exact ⟨And.left, fun hx => ⟨hx, h⟩⟩

theorem get?_erase (m : SortedMap K V) (k k' : K) :
    (m.erase k).get? k' = if k' = k then none else m.get? k' := by
  split
  · rename_i h; rw [h, get?_erase_self]
  · rename_i h; exact get?_erase_ne m h

theorem get?_of_erase {m : SortedMap K V} {k k' : K} {v : V}
    (h : (m.erase k).get? k' = some v) : k' ≠ k ∧ m.get? k' = some v := by
  rw [get?_erase] at h
  split at h
  · cases h
  · rename_i hne
    exact ⟨hne, h⟩

theorem ext_entries {m n : SortedMap K V} (h : m.entries = n.entries) : m = n := by
  cases m; cases n; cases h; rfl

/-- Maps with the same lookups are equal. -/
theorem ext_get? {m n : SortedMap K V} (h : ∀ k, m.get? k = n.get? k) : m = n := by
  apply ext_entries
  have hperm : m.entries.Perm n.entries := by
    refine (List.perm_ext_iff_of_nodup m.nodup_entries n.nodup_entries).mpr fun x => ?_
    obtain ⟨k, v⟩ := x
    rw [← get?_eq_some, ← get?_eq_some, h k]
  refine hperm.eq_of_pairwise (fun a b _ _ hab hba => ?_) m.sorted n.sorted
  exact absurd (hab.trans hba) (lt_irrefl _)

theorem erase_of_get?_none {m : SortedMap K V} {k : K} (h : m.get? k = none) : m.erase k = m := by
  refine ext_get? fun k' => ?_
  rw [get?_erase]
  split
  · rename_i e; rw [e, h]
  · rfl

@[simp] theorem erase_insert_self (m : SortedMap K V) (k : K) (v : V) :
    (m.insert k v).erase k = m.erase k := by
  refine ext_get? fun k' => ?_
  rw [get?_erase, get?_erase]
  split
  · rfl
  · rename_i h; exact get?_insert_ne m v h

@[simp] theorem insert_insert_self (m : SortedMap K V) (k : K) (v w : V) :
    (m.insert k v).insert k w = m.insert k w := by
  refine ext_get? fun k' => ?_
  simp only [get?_insert]
  split <;> rfl

theorem insert_of_get? {m : SortedMap K V} {k : K} {v : V} (h : m.get? k = some v) :
    m.insert k v = m := by
  refine ext_get? fun k' => ?_
  rw [get?_insert]
  split
  · rename_i e; rw [e, h]
  · rfl

@[simp] theorem erase_erase_self (m : SortedMap K V) (k : K) :
    (m.erase k).erase k = m.erase k :=
  erase_of_get?_none (get?_erase_self m k)

theorem contains_iff {m : SortedMap K V} {k : K} : m.contains k = true ↔ ∃ v, m.get? k = some v := by
  simp [contains, Option.isSome_iff_exists]

theorem contains_eq_false {m : SortedMap K V} {k : K} :
    m.contains k = false ↔ m.get? k = none := by
  simp [contains]

theorem mem_keys {m : SortedMap K V} {k : K} : k ∈ m.keys ↔ ∃ v, m.get? k = some v := by
  simp only [keys, List.mem_map, get?_eq_some, Prod.exists, exists_and_right, exists_eq_right]

theorem mem_values {m : SortedMap K V} {v : V} : v ∈ m.values ↔ ∃ k, m.get? k = some v := by
  simp only [values, List.mem_map, get?_eq_some, Prod.exists, exists_eq_right]

/-! ### Sums -/

theorem insert_perm (m : SortedMap K V) (k : K) (v : V) :
    (m.insert k v).entries.Perm ((k, v) :: (m.erase k).entries) := by
  refine (List.perm_ext_iff_of_nodup (m.insert k v).nodup_entries ?_).mpr fun x => ?_
  · exact List.nodup_cons.mpr ⟨fun h => (mem_erase.mp h).2 rfl, (m.erase k).nodup_entries⟩
  · rw [mem_insert, List.mem_cons, mem_erase]

theorem perm_of_get? {m : SortedMap K V} {k : K} {v : V} (h : m.get? k = some v) :
    m.entries.Perm ((k, v) :: (m.erase k).entries) := by
  simpa only [insert_of_get? h] using m.insert_perm k v

/-- The sum of `f` over the entries. -/
def sum [AddCommMonoid M] (f : K → V → M) (m : SortedMap K V) : M :=
  (m.entries.map (fun e => f e.1 e.2)).sum

section Sum

variable [AddCommMonoid M] (f g : K → V → M)

theorem sum_insert (m : SortedMap K V) (k : K) (v : V) :
    sum f (m.insert k v) = f k v + sum f (m.erase k) := by
  unfold sum
  rw [((m.insert_perm k v).map _).sum_eq, List.map_cons, List.sum_cons]

theorem sum_of_get? {m : SortedMap K V} {k : K} {v : V} (h : m.get? k = some v) :
    sum f m = f k v + sum f (m.erase k) := by
  unfold sum
  rw [((perm_of_get? h).map _).sum_eq, List.map_cons, List.sum_cons]

/-- A sum splits at any key into what the key contributes and the rest. -/
theorem sum_split (m : SortedMap K V) (k : K) :
    sum f m = ((m.get? k).map (f k)).getD 0 + sum f (m.erase k) := by
  cases h : m.get? k with
  | none => simp [erase_of_get?_none h]
  | some v => simpa using sum_of_get? f h

theorem sum_add (m : SortedMap K V) : (sum (fun k v => f k v + g k v) m) = sum f m + sum g m :=
  List.sum_map_add

variable {f g} in
theorem sum_congr {m : SortedMap K V} (h : ∀ k v, m.get? k = some v → f k v = g k v) :
    sum f m = sum g m := by
  unfold sum
  refine congrArg List.sum (List.map_congr_left fun x hx => ?_)
  exact h x.1 x.2 (get?_eq_some.mpr hx)

variable {f} in
theorem sum_eq_zero {m : SortedMap K V} (h : ∀ k v, m.get? k = some v → f k v = 0) :
    sum f m = 0 := by
  rw [sum_congr (g := fun _ _ => 0) h]
  simp [sum]

end Sum

theorem sum_le {f g : K → V → Nat} {m : SortedMap K V}
    (h : ∀ k v, m.get? k = some v → f k v ≤ g k v) : sum f m ≤ sum g m := by
  unfold sum
  refine List.sum_le_sum fun e he => ?_
  exact h e.1 e.2 (get?_eq_some.mpr he)

theorem size_eq_sum (m : SortedMap K V) : m.size = sum (fun _ _ => 1) m := by
  simp [size, sum]

theorem exists_of_size_pos {m : SortedMap K V} (h : 0 < m.size) : ∃ k v, m.get? k = some v := by
  obtain ⟨e, he⟩ := List.exists_mem_of_length_pos h
  exact ⟨e.1, e.2, get?_eq_some.mpr he⟩

/-- Distinct keys from a list are no more than the list. -/
theorem size_le_of_keys {m : SortedMap K V} {l : List K}
    (h : ∀ k v, m.get? k = some v → k ∈ l) : m.size ≤ l.length := by
  have hsub : m.keys ⊆ l := fun k hk => by
    obtain ⟨v, hv⟩ := mem_keys.mp hk
    exact h k v hv
  have hle := (m.nodup_keys.subperm hsub).length_le
  rwa [show m.keys.length = m.size from List.length_map ..] at hle

theorem size_insert_of_none {m : SortedMap K V} {k : K} (v : V) (h : m.get? k = none) :
    (m.insert k v).size = m.size + 1 := by
  rw [size_eq_sum, sum_insert, erase_of_get?_none h, ← size_eq_sum, Nat.add_comm]

theorem size_erase_of_some {m : SortedMap K V} {k : K} {v : V} (h : m.get? k = some v) :
    (m.erase k).size + 1 = m.size := by
  rw [m.size_eq_sum, sum_of_get? _ h, ← size_eq_sum, Nat.add_comm]

theorem size_insert_of_some {m : SortedMap K V} {k : K} {v : V} (w : V) (h : m.get? k = some v) :
    (m.insert k w).size = m.size := by
  rw [size_eq_sum, sum_insert, m.size_eq_sum, sum_of_get? _ h]

theorem size_insert_le (m : SortedMap K V) (k : K) (v : V) : (m.insert k v).size ≤ m.size + 1 := by
  cases h : m.get? k with
  | none => exact le_of_eq (size_insert_of_none v h)
  | some w => exact Nat.le_succ_of_le (le_of_eq (size_insert_of_some v h))

theorem size_erase_le (m : SortedMap K V) (k : K) : (m.erase k).size ≤ m.size :=
  List.length_filter_le _ _

/-! ### Erasing several keys -/

theorem get?_foldl_erase (ks : List K) (m : SortedMap K V) (k : K) :
    (ks.foldl erase m).get? k = if k ∈ ks then none else m.get? k := by
  induction ks generalizing m with
  | nil => rfl
  | cons k' ks ih =>
    rw [List.foldl_cons, ih, get?_erase]
    simp only [List.mem_cons]
    by_cases hk : k ∈ ks
    · rw [if_pos hk, if_pos (.inr hk)]
    · by_cases he : k = k'
      · rw [if_neg hk, if_pos he, if_pos (.inl he)]
      · rw [if_neg hk, if_neg he, if_neg (not_or.mpr ⟨he, hk⟩)]

theorem get?_of_foldl_erase {ks : List K} {m : SortedMap K V} {k : K} {v : V}
    (h : (ks.foldl erase m).get? k = some v) : m.get? k = some v := by
  rw [get?_foldl_erase] at h
  split at h
  · cases h
  · exact h

theorem size_foldl_erase_le (ks : List K) (m : SortedMap K V) :
    (ks.foldl erase m).size ≤ m.size := by
  induction ks generalizing m with
  | nil => exact Nat.le_refl _
  | cons k ks ih => exact Nat.le_trans (ih _) (size_erase_le m k)

theorem entries_foldl_erase (ks : List K) (m : SortedMap K V) :
    (ks.foldl erase m).entries = m.entries.filter (fun e => e.1 ∉ ks) := by
  induction ks generalizing m with
  | nil => simp
  | cons k ks ih =>
    rw [List.foldl_cons, ih, erase, List.filter_filter]
    refine List.filter_congr fun e _ => ?_
    simp only [List.mem_cons, not_or, Bool.decide_and, Bool.and_comm]

/-- Erasing the keys of some entries leaves the other entries. -/
theorem foldl_erase_filter (q : K × V → Bool) (m : SortedMap K V) :
    (((m.entries.filter q).map Prod.fst).foldl erase m).entries
      = m.entries.filter (fun e => !q e) := by
  rw [entries_foldl_erase]
  refine List.filter_congr fun e he => ?_
  rw [Bool.eq_iff_iff, decide_eq_true_eq, Bool.not_eq_true', ← Bool.not_eq_true, not_iff_not]
  constructor
  · intro hmem
    obtain ⟨e', he', hkey⟩ := List.mem_map.mp hmem
    obtain ⟨he', hq⟩ := List.mem_filter.mp he'
    have hsame : e' = e := by
      have h₁ := get?_eq_some.mpr (show (e.1, e'.2) ∈ m.entries from hkey ▸ he')
      rw [get?_eq_some.mpr (show (e.1, e.2) ∈ m.entries from he)] at h₁
      exact Prod.ext hkey (Option.some.inj h₁).symm
    exact hsame ▸ hq
  · intro hq
    exact List.mem_map_of_mem (List.mem_filter.mpr ⟨he, hq⟩)

omit [LinearOrder K] in
theorem sum_filter_add [AddCommMonoid M] (f : K × V → M) (q : K × V → Bool) (l : List (K × V)) :
    ((l.filter q).map f).sum + ((l.filter fun e => !q e).map f).sum = (l.map f).sum := by
  rw [← List.sum_append, ← List.map_append]
  exact ((List.filter_append_perm q l).map f).sum_eq

/-- The entries whose keys are erased and the entries left make up the sum. -/
theorem sum_foldl_erase [AddCommMonoid M] (f : K → V → M) (m : SortedMap K V) (q : K × V → Bool) :
    ((m.entries.filter q).map (fun e => f e.1 e.2)).sum
      + sum f (((m.entries.filter q).map Prod.fst).foldl erase m) = sum f m := by
  rw [sum, foldl_erase_filter]
  exact sum_filter_add _ _ _

/-! ### Splitting at a key -/

/-- The entries below `k`. -/
def below (m : SortedMap K V) (k : K) : List (K × V) := m.entries.filter (fun e => e.1 < k)

/-- `split_off`: the entries from `k` on. -/
def splitOff (m : SortedMap K V) (k : K) : SortedMap K V :=
  ⟨m.entries.filter (fun e => k ≤ e.1), m.sorted.filter _⟩

theorem get?_splitOff (m : SortedMap K V) (k k' : K) :
    (m.splitOff k).get? k' = if k ≤ k' then m.get? k' else none := by
  ext v
  rw [get?_eq_some]
  simp only [splitOff, List.mem_filter, decide_eq_true_eq]
  split
  · rename_i h
    rw [get?_eq_some]
    exact and_iff_left h
  · rename_i h
    exact ⟨fun hx => absurd hx.2 h, nofun⟩

/-- The entries below a key and the entries from it on make up the sum. -/
theorem sum_splitOff [AddCommMonoid M] (f : K → V → M) (m : SortedMap K V) (k : K) :
    ((m.below k).map (fun e => f e.1 e.2)).sum + sum f (m.splitOff k) = sum f m := by
  have hrest : (m.splitOff k).entries = m.entries.filter (fun e => !decide (e.1 < k)) :=
    List.filter_congr fun e _ => by
      rw [← decide_not]
      exact decide_eq_decide.mpr not_lt.symm
  rw [sum, hrest]
  exact sum_filter_add _ _ _

/-! ### Dropping the oldest entries -/

/-- The map without its first `n` entries. -/
def drop (m : SortedMap K V) (n : Nat) : SortedMap K V := ⟨m.entries.drop n, m.sorted.drop⟩

@[simp] theorem drop_zero (m : SortedMap K V) : m.drop 0 = m := ext_entries List.drop_zero

theorem get?_of_drop {m : SortedMap K V} {n : Nat} {k : K} {v : V}
    (h : (m.drop n).get? k = some v) : m.get? k = some v := by
  rw [get?_eq_some] at h ⊢
  exact List.mem_of_mem_drop h

theorem get?_drop_of_none {m : SortedMap K V} {k : K} (h : m.get? k = none) (n : Nat) :
    (m.drop n).get? k = none := by
  rw [Option.eq_none_iff_forall_ne_some]
  intro v hv
  exact absurd (get?_of_drop hv) (by simp [h])

theorem get?_head {m : SortedMap K V} {e : K × V} {es : List (K × V)} (h : m.entries = e :: es) :
    m.get? e.1 = some e.2 := by
  rw [get?_eq_some, h]
  exact List.mem_cons_self

/-- Erasing the least key drops the first entry. -/
theorem erase_head {m : SortedMap K V} {e : K × V} {es : List (K × V)} (h : m.entries = e :: es) :
    (m.erase e.1).entries = es := by
  have hs := m.sorted
  rw [h, List.pairwise_cons] at hs
  unfold erase
  simp only [h]
  rw [List.filter_cons_of_neg (by simp)]
  refine List.filter_eq_self.mpr fun x hx => ?_
  simpa using (hs.1 x hx).ne'

theorem sum_values [AddCommMonoid M] (f : V → M) (m : SortedMap K V) :
    (m.values.map f).sum = sum (fun _ v => f v) m := by
  rw [values, List.map_map]
  rfl

end SortedMap

end Foundation
