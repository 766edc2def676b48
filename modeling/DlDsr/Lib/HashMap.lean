import Mathlib.Algebra.Ring.Nat
import Mathlib.Data.Finset.Card
import Mathlib.Data.List.AList

/-!
# Hash maps whose iteration order is unspecified

A hash map is an association list with distinct keys (`AList`). The list order
stands for the order in which the map happens to iterate, which a program can
observe but must not rely on: two maps with permuted entries are the *same* map
(`SameMap`), and every lookup agrees on them. What depends on the order is only
a search by value (`values.find?`), and that is order-free as soon as at most
one entry satisfies the predicate (`find?_values_eq_some`).

Mathlib's `AList` provides `lookup`, `insert` and `erase`; this file adds the
iteration-based operations `values`, `retain` and `size`.
-/

universe u v

/-- A hash map from `K` to `V`, its entries listed in iteration order. -/
abbrev HashMap (K : Type u) (V : Type v) := AList fun _ : K => V

namespace AList

variable {K : Type u} {V : Type v}

/-- The values of a map, in iteration order. -/
def values (m : HashMap K V) : List V := m.entries.map Sigma.snd

/-- The number of entries of a map. -/
def size (m : HashMap K V) : Nat := m.entries.length

/-- Keep the entries that satisfy `p`. -/
def retain (p : K → V → Bool) (m : HashMap K V) : HashMap K V :=
  ⟨m.entries.filter fun e => p e.1 e.2,
    List.NodupKeys.sublist List.filter_sublist m.nodupKeys⟩

/-- The same map, iterating in a possibly different order. -/
def SameMap (m₁ m₂ : HashMap K V) : Prop := m₁.entries.Perm m₂.entries

theorem SameMap.refl (m : HashMap K V) : SameMap m m := List.Perm.refl _

theorem SameMap.size_eq {m₁ m₂ : HashMap K V} (h : SameMap m₁ m₂) : m₁.size = m₂.size :=
  List.Perm.length_eq h

/-- A sum over the values does not depend on their order. -/
theorem SameMap.sum_values {m₁ m₂ : HashMap K V} (h : SameMap m₁ m₂) (f : V → Nat) :
    (m₁.values.map f).sum = (m₂.values.map f).sum := by
  have hvalues : m₁.values.Perm m₂.values := by
    unfold values
    exact List.Perm.map _ h
  exact (hvalues.map f).sum_nat

section Lookup

variable [DecidableEq K]

theorem SameMap.lookup_eq {m₁ m₂ : HashMap K V} (h : SameMap m₁ m₂) (k : K) :
    m₁.lookup k = m₂.lookup k :=
  AList.perm_lookup h

theorem mem_entries_iff {m : HashMap K V} {k : K} {v : V} :
    ⟨k, v⟩ ∈ m.entries ↔ m.lookup k = some v :=
  (AList.mem_lookup_iff (β := fun _ => V)).symm

theorem mem_values_iff {m : HashMap K V} {v : V} :
    v ∈ m.values ↔ ∃ k, m.lookup k = some v := by
  constructor
  · intro h
    obtain ⟨⟨k, w⟩, hmem, rfl⟩ := List.mem_map.mp h
    exact ⟨k, mem_entries_iff.mp hmem⟩
  · rintro ⟨k, h⟩
    exact List.mem_map.mpr ⟨⟨k, v⟩, mem_entries_iff.mpr h, rfl⟩

/-- A search by value finds *the* matching entry, in whatever order the map
iterates, provided no other value matches. -/
theorem find?_values_eq_some {m : HashMap K V} {p : V → Bool} {k : K} {v : V}
    (hv : m.lookup k = some v) (hp : p v)
    (huniq : ∀ k' w, m.lookup k' = some w → p w → w = v) :
    m.values.find? p = some v := by
  cases hfind : m.values.find? p with
  | none =>
    have hmem : v ∈ m.values := mem_values_iff.mpr ⟨k, hv⟩
    exact absurd hp (List.find?_eq_none.mp hfind v hmem)
  | some w =>
    obtain ⟨k', hw⟩ := mem_values_iff.mp (List.mem_of_find?_eq_some hfind)
    rw [huniq k' w hw (List.find?_some hfind)]

/-- A successful search by value returns an entry of the map. -/
theorem lookup_of_find?_values {m : HashMap K V} {p : V → Bool} {v : V}
    (h : m.values.find? p = some v) : ∃ k, m.lookup k = some v ∧ p v := by
  obtain ⟨k, hk⟩ := mem_values_iff.mp (List.mem_of_find?_eq_some h)
  exact ⟨k, hk, List.find?_some h⟩

theorem lookup_retain {m : HashMap K V} {p : K → V → Bool} {k : K} {v : V} :
    (m.retain p).lookup k = some v ↔ m.lookup k = some v ∧ p k v := by
  rw [← mem_entries_iff, ← mem_entries_iff]
  exact List.mem_filter

theorem mem_retain {m : HashMap K V} {p : K → V → Bool} {k : K} :
    k ∈ m.retain p ↔ ∃ v, m.lookup k = some v ∧ p k v := by
  rw [← AList.lookup_isSome, Option.isSome_iff_exists]
  exact exists_congr fun v => lookup_retain

/-- Retaining everything changes nothing. -/
theorem retain_eq_self {m : HashMap K V} {p : K → V → Bool}
    (h : ∀ k v, m.lookup k = some v → p k v) : m.retain p = m := by
  apply AList.ext
  refine List.filter_eq_self.mpr fun e he => ?_
  exact h e.1 e.2 (mem_entries_iff.mp he)

/-- A lookup in a map that was just written. -/
theorem lookup_insert_eq {m : HashMap K V} {k k' : K} {v : V} :
    (m.insert k' v).lookup k = if k = k' then some v else m.lookup k := by
  by_cases h : k = k'
  · subst h
    rw [if_pos rfl]
    exact AList.lookup_insert m
  · rw [if_neg h]
    exact AList.lookup_insert_ne h

/-- A lookup in a map from which one key was removed. -/
theorem lookup_erase_eq {m : HashMap K V} {k k' : K} :
    (m.erase k').lookup k = if k = k' then none else m.lookup k := by
  by_cases h : k = k'
  · subst h
    rw [if_pos rfl]
    exact AList.lookup_erase k m
  · rw [if_neg h]
    exact AList.lookup_erase_ne h

/-- Maps with the same lookups are the same map. -/
theorem sameMap_of_lookup {m₁ m₂ : HashMap K V} (h : ∀ k, m₁.lookup k = m₂.lookup k) :
    SameMap m₁ m₂ := by
  refine List.lookup_ext m₁.nodupKeys m₂.nodupKeys fun k v => ?_
  show m₁.lookup k = some v ↔ m₂.lookup k = some v
  rw [h k]

/-- Erasing a key takes one entry away. -/
theorem size_erase {m : HashMap K V} {k : K} (h : k ∈ m) : (m.erase k).size + 1 = m.size := by
  obtain ⟨v, l₁, l₂, -, hm, herase⟩ := List.exists_of_kerase (AList.mem_keys.mp h)
  show (List.kerase k m.entries).length + 1 = m.entries.length
  rw [herase, hm, List.length_append, List.length_append, List.length_cons]
  omega

/-- Erasing what is not there changes nothing. -/
theorem size_erase_of_notMem {m : HashMap K V} {k : K} (h : k ∉ m) :
    (m.erase k).size = m.size := by
  show (List.kerase k m.entries).length = m.entries.length
  rw [List.kerase_of_notMem_keys fun hmem => h (AList.mem_keys.mpr hmem)]

/-- A write to a new key adds one entry. -/
theorem size_insert {m : HashMap K V} {k : K} (v : V) (h : k ∉ m) :
    (m.insert k v).size = m.size + 1 := by
  show (AList.insert k v m).entries.length = _
  rw [AList.entries_insert_of_notMem h]
  rfl

/-- A write to an existing key keeps the size. -/
theorem size_insert_of_mem {m : HashMap K V} {k : K} (v : V) (h : k ∈ m) :
    (m.insert k v).size = m.size :=
  size_erase h

/-- What a write adds to a sum over the values, it adds to what the key held before. -/
theorem sum_values_insert (m : HashMap K V) (f : V → Nat) (k : K) (v : V) :
    ((m.insert k v).values.map f).sum + ((m.lookup k).map f).getD 0 =
      (m.values.map f).sum + f v := by
  have hinsert : ((m.insert k v).values.map f).sum =
      f v + (((List.kerase k m.entries).map Sigma.snd).map f).sum := rfl
  rw [hinsert]
  by_cases hk : k ∈ m
  · -- The write replaces the one entry of the key.
    obtain ⟨w, l₁, l₂, -, hm, herase⟩ := List.exists_of_kerase (AList.mem_keys.mp hk)
    have hold : m.lookup k = some w := by
      refine mem_entries_iff.mp ?_
      rw [hm]
      exact List.mem_append_right _ List.mem_cons_self
    have hvalues : m.values = l₁.map Sigma.snd ++ w :: l₂.map Sigma.snd := by
      unfold values
      rw [hm, List.map_append, List.map_cons]
    rw [herase, hold, hvalues, List.map_append, List.map_append, List.map_append, List.map_cons,
      List.sum_append, List.sum_append, List.sum_cons, Option.map_some, Option.getD_some]
    omega
  · rw [List.kerase_of_notMem_keys fun hmem => hk (AList.mem_keys.mpr hmem),
      AList.lookup_eq_none.mpr hk, Option.map_none, Option.getD_none, Nat.add_zero]
    exact Nat.add_comm _ _

/-- A map whose keys are drawn from a finite set is no larger than the set. -/
theorem size_le_card {m : HashMap K V} {s : Finset K} (h : ∀ k ∈ m, k ∈ s) :
    m.size ≤ s.card := by
  have hlength : m.keys.length = m.size := List.length_map ..
  rw [← hlength, ← List.toFinset_card_of_nodup m.keys_nodup]
  refine Finset.card_le_card fun k hk => h k ?_
  exact AList.mem_keys.mpr (List.mem_toFinset.mp hk)

/-- Erasing a list of keys. -/
theorem lookup_foldl_erase (l : List (Sigma fun _ : K => V)) (m : HashMap K V) (k : K) :
    (l.foldl (fun m e => m.erase e.1) m).lookup k =
      if k ∈ l.map Sigma.fst then none else m.lookup k := by
  induction l generalizing m with
  | nil => rfl
  | cons e l ih =>
    rw [List.foldl_cons, ih, lookup_erase_eq, List.map_cons]
    by_cases hl : k ∈ l.map Sigma.fst
    · rw [if_pos hl, if_pos (List.mem_cons_of_mem _ hl)]
    · rw [if_neg hl]
      by_cases he : k = e.1
      · rw [if_pos he, if_pos (List.mem_cons.mpr (.inl he))]
      · rw [if_neg he, if_neg]
        intro hmem
        rcases List.mem_cons.mp hmem with h | h
        · exact he h
        · exact hl h

/-- Erasing distinct keys of the map takes as many entries away. -/
theorem size_foldl_erase {l : List (Sigma fun _ : K => V)} {m : HashMap K V}
    (hnodup : (l.map Sigma.fst).Nodup) (hmem : ∀ e ∈ l, e.1 ∈ m) :
    (l.foldl (fun m e => m.erase e.1) m).size + l.length = m.size := by
  induction l generalizing m with
  | nil => rfl
  | cons e l ih =>
    rw [List.map_cons, List.nodup_cons] at hnodup
    have hrest : ∀ e' ∈ l, e'.1 ∈ m.erase e.1 := by
      intro e' he'
      refine AList.mem_erase.mpr ⟨fun heq => hnodup.1 ?_, hmem e' (List.mem_cons_of_mem _ he')⟩
      exact List.mem_map.mpr ⟨e', he', heq⟩
    have hstep := size_erase (hmem e List.mem_cons_self)
    have hloop := ih hnodup.2 hrest
    rw [List.foldl_cons, List.length_cons]
    omega

end Lookup

end AList
