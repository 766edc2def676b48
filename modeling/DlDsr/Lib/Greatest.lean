import Mathlib.Data.Finset.Card
import Mathlib.Data.Finset.Max
import Mathlib.Data.Finset.Sort
import Mathlib.Data.List.Sort

/-!
# The greatest elements of a finite set

A store of bounded size that gives up its least element whenever it overflows holds
the `n` greatest elements of what it was given. `greatest n s` says it without
counting the elements one by one: an element belongs to the `n` greatest if fewer
than `n` others exceed it.

The one law that an insertion step needs is `greatest_eq_of_outranked`: a part of a
set has the same `n` greatest elements as the set, if every element that it leaves
out is exceeded by `n` of its elements.
-/

universe u

namespace Finset

variable {α : Type u} [LinearOrder α] {n : Nat} {s t : Finset α} {a : α}

/-- The elements that exceed `a`. -/
def above (s : Finset α) (a : α) : Finset α := s.filter fun b => a < b

@[simp] theorem mem_above {b : α} : b ∈ s.above a ↔ b ∈ s ∧ a < b := mem_filter

/-- The `n` greatest elements. -/
def greatest (n : Nat) (s : Finset α) : Finset α := s.filter fun a => (s.above a).card < n

@[simp] theorem mem_greatest : a ∈ s.greatest n ↔ a ∈ s ∧ (s.above a).card < n := mem_filter

theorem greatest_subset : s.greatest n ⊆ s := filter_subset _ _

/-- What exceeds an element has fewer elements above it. -/
theorem card_above_mono {b : α} (h : a ≤ b) : (s.above b).card ≤ (s.above a).card := by
  refine card_le_card fun c hc => ?_
  rw [mem_above] at hc ⊢
  exact ⟨hc.1, lt_of_le_of_lt h hc.2⟩

/-- An element that is not among the `n` greatest is exceeded by `n` of them. -/
theorem le_card_above_greatest (ha : a ∈ s) (hnot : a ∉ s.greatest n) :
    n ≤ ((s.greatest n).above a).card := by
  have hmany : n ≤ (s.above a).card := by
    by_contra hfew
    exact hnot (mem_greatest.mpr ⟨ha, by omega⟩)
  by_cases hall : s.above a ⊆ s.greatest n
  · -- Everything above is among the greatest.
    refine hmany.trans (card_le_card fun b hb => ?_)
    exact mem_above.mpr ⟨hall hb, (mem_above.mp hb).2⟩
  · -- Otherwise the greatest element that is not will do instead of `a`.
    have hne : ((s.above a).filter (· ∉ s.greatest n)).Nonempty := by
      obtain ⟨b, hb, hb'⟩ := not_subset.mp hall
      exact ⟨b, mem_filter.mpr ⟨hb, hb'⟩⟩
    obtain ⟨m, hm, hmax⟩ := exists_max_image _ id hne
    obtain ⟨hma, hmnot⟩ := mem_filter.mp hm
    rw [mem_above] at hma
    have hmany' : n ≤ (s.above m).card := by
      by_contra hfew
      exact hmnot (mem_greatest.mpr ⟨hma.1, by omega⟩)
    refine hmany'.trans (card_le_card fun b hb => ?_)
    rw [mem_above] at hb ⊢
    have hab : a < b := lt_trans hma.2 hb.2
    refine ⟨?_, hab⟩
    by_contra hbnot
    have hbm : b ≤ m := hmax b (mem_filter.mpr ⟨mem_above.mpr ⟨hb.1, hab⟩, hbnot⟩)
    exact absurd hb.2 (not_lt_of_ge hbm)

/-- **The law of an overflow.** Elements that `n` others exceed may be left out. -/
theorem greatest_eq_of_outranked (hsub : t ⊆ s)
    (hout : ∀ a ∈ s, a ∉ t → n ≤ (t.above a).card) : s.greatest n = t.greatest n := by
  have habove : ∀ a, (t.above a).card ≤ (s.above a).card := fun a => by
    refine card_le_card fun b hb => ?_
    rw [mem_above] at hb ⊢
    exact ⟨hsub hb.1, hb.2⟩
  ext a
  rw [mem_greatest, mem_greatest]
  constructor
  · rintro ⟨ha, hfew⟩
    have hat : a ∈ t := by
      by_contra hnot
      have := hout a ha hnot
      have := habove a
      omega
    exact ⟨hat, lt_of_le_of_lt (habove a) hfew⟩
  · rintro ⟨ha, hfew⟩
    refine ⟨hsub ha, ?_⟩
    -- Whatever exceeds `a` is in `t`: otherwise `n` elements of `t` would exceed it.
    have hsame : s.above a = t.above a := by
      ext b
      rw [mem_above, mem_above]
      constructor
      · rintro ⟨hb, hab⟩
        refine ⟨?_, hab⟩
        by_contra hnot
        have := hout b hb hnot
        have := card_above_mono (s := t) hab.le
        omega
      · rintro ⟨hb, hab⟩
        exact ⟨hsub hb, hab⟩
    rwa [hsame]

/-- A set of at most `n` elements is its own `n` greatest. -/
theorem greatest_eq_self (h : s.card ≤ n) : s.greatest n = s := by
  refine filter_true_of_mem fun a ha => ?_
  refine lt_of_lt_of_le (card_lt_card ?_) h
  refine ⟨filter_subset _ _, fun hsub => ?_⟩
  exact lt_irrefl a (mem_above.mp (hsub ha)).2

/-- An upward closed part of the set has, among the `n` greatest, those of its own. -/
theorem greatest_filter {p : α → Prop} [DecidablePred p]
    (hup : ∀ a b, a < b → p a → p b) :
    (s.filter p).greatest n = (s.greatest n).filter p := by
  have hsame : ∀ a, p a → (s.filter p).above a = s.above a := by
    intro a ha
    ext b
    rw [mem_above, mem_above, mem_filter]
    constructor
    · rintro ⟨⟨hb, -⟩, hab⟩
      exact ⟨hb, hab⟩
    · rintro ⟨hb, hab⟩
      exact ⟨⟨hb, hup a b hab ha⟩, hab⟩
  ext a
  rw [mem_greatest, mem_filter, mem_filter, mem_greatest]
  constructor
  · rintro ⟨⟨ha, hp⟩, hfew⟩
    rw [hsame a hp] at hfew
    exact ⟨⟨ha, hfew⟩, hp⟩
  · rintro ⟨⟨ha, hfew⟩, hp⟩
    refine ⟨⟨ha, hp⟩, ?_⟩
    rwa [hsame a hp]

/-- **The law of a replacement.** A new element comes in for those that fail `q`, of
which there is at most one and which it is not below: it makes no difference whether the
least were given up before. -/
theorem greatest_insert_filter {q : α → Prop} [DecidablePred q] {x : α} (hx : ¬ q x)
    (hle : ∀ a ∈ s, ¬ q a → a ≤ x) (huniq : ∀ a ∈ s, ∀ b ∈ s, ¬ q a → ¬ q b → a = b) :
    (insert x (s.filter q)).greatest n = (insert x ((s.greatest n).filter q)).greatest n := by
  refine greatest_eq_of_outranked (insert_subset_insert x ?_) fun a ha hout => ?_
  · exact filter_subset_filter q greatest_subset
  rw [mem_insert, mem_filter, not_or, not_and] at hout
  obtain ⟨has, hqa⟩ : a ∈ s ∧ q a :=
    mem_filter.mp ((mem_insert.mp ha).resolve_left hout.1)
  have hnot : a ∉ s.greatest n := fun hmem => hout.2 hmem hqa
  refine (le_card_above_greatest has hnot).trans ?_
  -- Of the `n` elements above `a`, the one that fails `q` is replaced by `x`.
  refine card_le_card_of_injOn (fun b => if q b then b else x) (fun b hb => ?_) ?_
  · obtain ⟨hb, hab⟩ := mem_above.mp hb
    dsimp only
    split
    · next hqb => exact mem_above.mpr ⟨mem_insert_of_mem (mem_filter.mpr ⟨hb, hqb⟩), hab⟩
    · next hqb =>
      have hbx : b ≤ x := hle b (greatest_subset hb) hqb
      exact mem_above.mpr ⟨mem_insert_self x _, lt_of_lt_of_le hab hbx⟩
  · intro b hb c hc heq
    have hb := greatest_subset (mem_above.mp hb).1
    have hc := greatest_subset (mem_above.mp hc).1
    dsimp only at heq
    split at heq
    · next hqb =>
      split at heq
      · exact heq
      · exact absurd (heq ▸ hqb) hx
    · next hqb =>
      split at heq
      · next hqc => exact absurd (heq ▸ hqc) hx
      · next hqc => exact huniq b hb c hc hqb hqc

end Finset

/-- In an ascending list, what stands before the last `n` entries is what `n` entries
exceed. -/
theorem List.mem_take_iff_of_pairwise_lt {α : Type u} [LinearOrder α] {l : List α}
    (h : l.Pairwise (· < ·)) (n : Nat) {a : α} (ha : a ∈ l) :
    a ∈ l.take (l.length - n) ↔ n ≤ (l.toFinset.above a).card := by
  induction l with
  | nil => cases ha
  | cons b l ih =>
    obtain ⟨hb, hl⟩ := List.pairwise_cons.mp h
    have hnodup : l.Nodup := hl.imp fun hlt => ne_of_lt hlt
    -- `b` is the least, so it exceeds nothing.
    have habove : (b :: l).toFinset.above a = l.toFinset.above a := by
      ext c
      simp only [Finset.mem_above, List.mem_toFinset, List.mem_cons]
      constructor
      · rintro ⟨rfl | hc, hac⟩
        · rcases List.mem_cons.mp ha with rfl | hal
          · exact absurd hac (lt_irrefl _)
          · exact absurd (hb a hal) (not_lt_of_gt hac)
        · exact ⟨hc, hac⟩
      · rintro ⟨hc, hac⟩
        exact ⟨.inr hc, hac⟩
    rw [habove]
    rcases List.mem_cons.mp ha with rfl | hal
    · have hall : l.toFinset.above a = l.toFinset := by
        ext c
        simp only [Finset.mem_above, List.mem_toFinset, and_iff_left_iff_imp]
        exact hb c
      rw [hall, List.toFinset_card_of_nodup hnodup, List.length_cons]
      rcases Nat.lt_or_ge l.length n with hlt | hge
      · rw [Nat.sub_eq_zero_of_le (by omega)]
        simp only [List.take_zero, List.not_mem_nil, false_iff]
        omega
      · rw [Nat.sub_add_comm hge, List.take_succ_cons]
        simp [hge]
    · rcases Nat.lt_or_ge l.length n with hlt | hge
      · rw [List.length_cons, Nat.sub_eq_zero_of_le (by omega)]
        have hle := Finset.card_le_card (Finset.filter_subset (fun c => a < c) l.toFinset)
        rw [List.toFinset_card_of_nodup hnodup] at hle
        simp only [List.take_zero, List.not_mem_nil, false_iff]
        unfold Finset.above
        omega
      · rw [List.length_cons, Nat.sub_add_comm hge, List.take_succ_cons, List.mem_cons,
          ← ih hl hal]
        exact or_iff_right (ne_of_gt (hb a hal))

/-- The `n` greatest elements are the last `n` in ascending order. -/
theorem Finset.greatest_eq_drop_sort {α : Type u} [LinearOrder α] (s : Finset α) (n : Nat) :
    s.greatest n = ((s.sort (· ≤ ·)).drop (s.card - n)).toFinset := by
  have hsorted : (s.sort (· ≤ ·)).Pairwise (· < ·) := (Finset.sortedLT_sort s).pairwise
  have hlength : (s.sort (· ≤ ·)).length = s.card := Finset.length_sort _
  ext a
  rw [List.mem_toFinset, ← hlength]
  by_cases ha : a ∈ s
  · have hmem : a ∈ s.sort (· ≤ ·) := (Finset.mem_sort _).mpr ha
    have htake := List.mem_take_iff_of_pairwise_lt hsorted n hmem
    rw [Finset.sort_toFinset] at htake
    have hsplit : a ∈ (s.sort (· ≤ ·)).take ((s.sort (· ≤ ·)).length - n) ∨
        a ∈ (s.sort (· ≤ ·)).drop ((s.sort (· ≤ ·)).length - n) := by
      rw [← List.mem_append, List.take_append_drop]
      exact hmem
    have hapart := List.disjoint_take_drop (Finset.sort_nodup s (· ≤ ·))
      (Nat.le_refl ((s.sort (· ≤ ·)).length - n))
    rw [Finset.mem_greatest]
    constructor
    · rintro ⟨-, hfew⟩
      refine hsplit.resolve_left fun hin => ?_
      exact absurd (htake.mp hin) (by omega)
    · intro hdrop
      refine ⟨ha, ?_⟩
      by_contra hmany
      exact hapart (htake.mpr (by omega)) hdrop
  · constructor
    · intro h
      exact absurd (Finset.mem_greatest.mp h).1 ha
    · intro h
      exact absurd ((Finset.mem_sort _).mp (List.mem_of_mem_drop h)) ha

/-- There are at most `n` of them. -/
theorem Finset.card_greatest_le {α : Type u} [LinearOrder α] (s : Finset α) (n : Nat) :
    (s.greatest n).card ≤ n := by
  rw [Finset.greatest_eq_drop_sort]
  refine (List.toFinset_card_le _).trans ?_
  rw [List.length_drop, Finset.length_sort]
  omega
