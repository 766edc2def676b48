import Mathlib.Data.List.Chain

/-!
# Walks

A walk along a relation, given by the list of its vertices, may visit a vertex
several times. Walks grow at their end (`IsWalk.concat`).

A labelled walk has a label for each of its links (`Labelled`). If every vertex
resolves the label of the link that leaves it, the labels alone lead along the
same vertices (`Labelled.follow`).

A partly labelled walk has labels only for the links that lead to some of its vertices
(`PartlyLabelled`). Its labels are in step with its links as long as no other vertex
comes before one of these (`PartlyLabelled.link`).
-/

universe u v

variable {α : Type u} {β : Type v} {R : α → α → Prop}

/-- `path` leads from `a` to `b` along `R`. -/
structure IsWalk (R : α → α → Prop) (path : List α) (a b : α) : Prop where
  head : path.head? = some a
  last : path.getLast? = some b
  chain : path.IsChain R

namespace IsWalk

variable {path : List α} {a b c : α}

theorem single (a : α) : IsWalk R [a] a a := ⟨rfl, rfl, List.isChain_singleton a⟩

theorem length_pos (h : IsWalk R path a b) : 0 < path.length :=
  List.length_pos_of_mem (List.mem_of_getLast? h.last)

theorem getElem?_zero (h : IsWalk R path a b) : path[0]? = some a := by
  rw [← List.head?_eq_getElem?, h.head]

theorem getElem?_last (h : IsWalk R path a b) : path[path.length - 1]? = some b := by
  rw [← List.getLast?_eq_getElem?, h.last]

/-- A walk goes on from its last vertex. -/
theorem concat (h : IsWalk R path a b) (hR : R b c) : IsWalk R (path ++ [c]) a c := by
  refine ⟨?_, List.getLast?_concat, ?_⟩
  · rw [List.head?_append, h.head]
    rfl
  · refine h.chain.append (List.isChain_singleton c) ?_
    intro x hx y hy
    obtain rfl : b = x := Option.some.inj (h.last.symm.trans hx)
    obtain rfl : c = y := by simpa using hy
    exact hR

/-- Consecutive vertices are related. -/
theorem rel {i : Nat} {x y : α} (h : IsWalk R path a b) (hx : path[i]? = some x)
    (hy : path[i + 1]? = some y) : R x y := by
  obtain ⟨hi, rfl⟩ := List.getElem?_eq_some_iff.mp hy
  obtain ⟨hi', rfl⟩ := List.getElem?_eq_some_iff.mp hx
  exact List.isChain_iff_getElem.mp h.chain i hi

end IsWalk

/-- `labels` has a label for every link of `path`, and `K a b l` holds of the
label `l` of a link from `a` to `b`. -/
structure Labelled (K : α → α → β → Prop) (path : List α) (labels : List β) : Prop where
  length : labels.length + 1 = path.length
  link : ∀ i a b l, path[i]? = some a → path[i + 1]? = some b → labels[i]? = some l → K a b l

/-- The vertices that `labels` lead along from a vertex, by `next`. -/
def followLabels (next : α → β → Option α) : α → List β → Option (List α)
  | a, [] => some [a]
  | a, l :: labels =>
    (next a l).bind fun b => (followLabels next b labels).map fun path => a :: path

namespace Labelled

variable {K K' : α → α → β → Prop} {path : List α} {labels : List β}

theorem single (a : α) : Labelled K [a] [] := by
  refine ⟨rfl, fun i _ _ l _ _ hl => ?_⟩
  cases hl

theorem mono (h : Labelled K path labels) (hK : ∀ a b l, K a b l → K' a b l) :
    Labelled K' path labels :=
  ⟨h.length, fun i a b l ha hb hl => hK a b l (h.link i a b l ha hb hl)⟩

/-- A labelled walk goes on over a labelled link. -/
theorem concat (h : Labelled K path labels) {a b : α} {l : β} (hlast : path.getLast? = some a)
    (hK : K a b l) : Labelled K (path ++ [b]) (labels ++ [l]) := by
  refine ⟨by rw [List.length_append, List.length_append, ← h.length]; rfl, ?_⟩
  intro i x y k hx hy hk
  have hlen := h.length
  have hi : i < (labels ++ [l]).length := (List.getElem?_eq_some_iff.mp hk).1
  rw [List.length_append, List.length_singleton] at hi
  by_cases hlt : i < labels.length
  · rw [List.getElem?_append_left (by omega)] at hx hy hk
    exact h.link i x y k hx hy hk
  · -- The new link is the last one.
    obtain rfl : i = labels.length := by omega
    rw [List.getElem?_append_left (by omega)] at hx
    rw [hlen, List.getElem?_concat_length] at hy
    rw [List.getElem?_concat_length] at hk
    have hlast' : path[labels.length]? = some a := by
      rw [List.getLast?_eq_getElem?, ← hlen] at hlast
      exact hlast
    obtain rfl : a = x := Option.some.inj (hlast'.symm.trans hx)
    cases hy
    cases hk
    exact hK

theorem tail {a b : α} {l : β} (h : Labelled K (a :: b :: path) (l :: labels)) :
    Labelled K (b :: path) labels := by
  refine ⟨Nat.succ.inj h.length, fun i x y k hx hy hk => ?_⟩
  exact h.link (i + 1) x y k hx hy hk

/-- If the labels resolve link by link, following them visits the path. -/
theorem follow {next : α → β → Option α} (h : Labelled K path labels)
    (hK : ∀ a b l, K a b l → next a l = some b) {a : α} (hhead : path.head? = some a) :
    followLabels next a labels = some path := by
  induction labels generalizing path a with
  | nil =>
    cases path with
    | nil => cases hhead
    | cons x path =>
      cases path with
      | nil =>
        cases hhead
        rfl
      | cons y path =>
        have hlen := h.length
        simp at hlen
  | cons l labels ih =>
    cases path with
    | nil => cases hhead
    | cons x path =>
      cases path with
      | nil =>
        have hlen := h.length
        simp at hlen
      | cons y path =>
        cases hhead
        have hnext : next a l = some y := hK a y l (h.link 0 a y l rfl rfl rfl)
        rw [followLabels, hnext, Option.bind_some, ih h.tail rfl]
        rfl

end Labelled

/-- `labels` has a label for every link of `path` that leads to a marked vertex, in
their order, and `K a b l` holds of the label `l` of a link from `a` to `b`. -/
inductive PartlyLabelled (marked : α → Prop) (K : α → α → β → Prop) : List α → List β → Prop where
  | single (a : α) : PartlyLabelled marked K [a] []
  | skip {path : List α} {labels : List β} {b : α} (h : PartlyLabelled marked K path labels)
      (hb : ¬ marked b) : PartlyLabelled marked K (path ++ [b]) labels
  | push {path : List α} {labels : List β} {a b : α} {l : β}
      (h : PartlyLabelled marked K path labels) (hlast : path.getLast? = some a)
      (hb : marked b) (hK : K a b l) : PartlyLabelled marked K (path ++ [b]) (labels ++ [l])

namespace PartlyLabelled

variable {marked : α → Prop} {K K' : α → α → β → Prop} {path : List α} {labels : List β}

theorem mono (h : PartlyLabelled marked K path labels) (hK : ∀ a b l, K a b l → K' a b l) :
    PartlyLabelled marked K' path labels := by
  induction h with
  | single a => exact .single a
  | skip _ hb ih => exact .skip ih hb
  | push _ hlast hb hl ih => exact .push ih hlast hb (hK _ _ _ hl)

/-- Where all vertices are marked, every link has its label. -/
theorem length_eq (h : PartlyLabelled marked K path labels) (hall : ∀ x ∈ path, marked x) :
    labels.length + 1 = path.length := by
  induction h with
  | single => rfl
  | skip _ hb => exact absurd (hall _ (List.mem_append_right _ (List.mem_singleton_self _))) hb
  | push _ _ _ _ ih =>
    rw [List.length_append, List.length_append, ← ih fun x hx => hall x (List.mem_append_left _ hx)]
    rfl

/-- If only marked vertices come before a marked one, the `i`-th label belongs to the
`i`-th link. -/
theorem link (h : PartlyLabelled marked K path labels)
    (hlead : path.Pairwise fun x y => marked y → marked x) {i : Nat} {l : β}
    (hl : labels[i]? = some l) :
    ∃ a b, path[i]? = some a ∧ path[i + 1]? = some b ∧ K a b l := by
  induction h with
  | single => cases hl
  | @skip path labels c h hc ih =>
    obtain ⟨hold, -, -⟩ := List.pairwise_append.mp hlead
    obtain ⟨a, b, ha, hb, hK⟩ := ih hold hl
    refine ⟨a, b, ?_, ?_, hK⟩
    · rw [List.getElem?_append_left (List.getElem?_eq_some_iff.mp ha).1, ha]
    · rw [List.getElem?_append_left (List.getElem?_eq_some_iff.mp hb).1, hb]
  | @push path labels a' c l' h hlast hc hK' ih =>
    obtain ⟨hold, -, hbefore⟩ := List.pairwise_append.mp hlead
    rcases Nat.lt_or_ge i labels.length with hi | hi
    · rw [List.getElem?_append_left hi] at hl
      obtain ⟨a, b, ha, hb, hK⟩ := ih hold hl
      refine ⟨a, b, ?_, ?_, hK⟩
      · rw [List.getElem?_append_left (List.getElem?_eq_some_iff.mp ha).1, ha]
      · rw [List.getElem?_append_left (List.getElem?_eq_some_iff.mp hb).1, hb]
    · -- The last label, of the last link: everything before it is labelled.
      have hlength : labels.length + 1 = path.length :=
        h.length_eq fun x hx => hbefore x hx c (List.mem_singleton_self c) hc
      have hlast' : path[labels.length]? = some a' := by
        rw [List.getLast?_eq_getElem?, ← hlength] at hlast
        exact hlast
      have hi' : i < (labels ++ [l']).length := (List.getElem?_eq_some_iff.mp hl).1
      rw [List.length_append, List.length_singleton] at hi'
      obtain rfl : i = labels.length := by omega
      rw [List.getElem?_concat_length] at hl
      obtain rfl : l' = l := Option.some.inj hl
      refine ⟨a', c, ?_, ?_, hK'⟩
      · rw [List.getElem?_append_left (by omega), hlast']
      · rw [hlength, List.getElem?_concat_length]

end PartlyLabelled
