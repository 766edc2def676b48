import Mathlib.Data.List.MinMax
import Mathlib.Data.List.Nodup

/-!
# First occurrences in a trace

A trace is a list in which a walker looks itself up by its *first* occurrence
and steps to the entry before it. `FirstAt l i x` says that `x` stands at index
`i` and nowhere before. Walking a trace backwards through first occurrences
proves it repetition-free (`nodup_of_firstAt`): this is the only source of
loop-freedom for a walk over a list that may repeat elements.
-/

universe u

variable {α : Type u}

/-- The element just before index `i`, if any. -/
def List.before? (l : List α) : Nat → Option α
  | 0 => none
  | i + 1 => l[i]?

/-- `x` stands at index `i` of `l` and at no smaller index. -/
def FirstAt (l : List α) (i : Nat) (x : α) : Prop :=
  l[i]? = some x ∧ ∀ j < i, l[j]? ≠ some x

namespace FirstAt

theorem unique {l : List α} {i j : Nat} {x : α} (hi : FirstAt l i x) (hj : FirstAt l j x) :
    i = j := by
  rcases Nat.lt_trichotomy i j with h | h | h
  · exact absurd hi.1 (hj.2 i h)
  · exact h
  · exact absurd hj.1 (hi.2 j h)

/-- The first occurrence of `x` is at most any occurrence of `x`. -/
theorem le_of_getElem? {l : List α} {i j : Nat} {x : α} (hi : FirstAt l i x)
    (hj : l[j]? = some x) : i ≤ j := by
  by_contra hlt
  exact hi.2 j (Nat.lt_of_not_le hlt) hj

/-- An element that does not occur in `l` is first at the end of `l ++ [x]`. -/
theorem append_singleton {l : List α} {x : α} (h : x ∉ l) : FirstAt (l ++ [x]) l.length x := by
  refine ⟨by simp, fun j hj hx => h ?_⟩
  rw [List.getElem?_append_left hj] at hx
  exact List.mem_of_getElem? hx

end FirstAt

theorem idxOf?_eq_some_iff_firstAt [BEq α] [LawfulBEq α] {l : List α} {i : Nat} {x : α} :
    l.idxOf? x = some i ↔ FirstAt l i x := by
  rw [List.idxOf?_eq_some_iff]
  constructor
  · rintro ⟨hi, hx, hfirst⟩
    refine ⟨by rw [List.getElem?_eq_getElem hi, hx], fun j hj hjx => ?_⟩
    rw [List.getElem?_eq_getElem (Nat.lt_trans hj hi)] at hjx
    exact hfirst j hj (Option.some.inj hjx)
  · rintro ⟨hx, hfirst⟩
    obtain ⟨hi, hx'⟩ := List.getElem?_eq_some_iff.mp hx
    refine ⟨hi, hx', fun j hj hjx => hfirst j hj ?_⟩
    rw [List.getElem?_eq_getElem (Nat.lt_trans hj hi), hjx]

/-- From index `i` on, every element of `l` is at its first occurrence. -/
def FirstFrom (l : List α) (i : Nat) : Prop :=
  ∀ j x, i ≤ j → l[j]? = some x → FirstAt l j x

namespace FirstFrom

/-- One index further to the front. -/
theorem step {l : List α} {i : Nat} {x : α} (h : FirstFrom l (i + 1)) (hx : FirstAt l i x) :
    FirstFrom l i := by
  intro j y hj hy
  rcases Nat.eq_or_lt_of_le hj with rfl | hlt
  · obtain rfl : x = y := Option.some.inj (hx.1.symm.trans hy)
    exact hx
  · exact h j y hlt hy

/-- If only the last element is left, there is nothing to compare it with but the
elements before it. -/
theorem of_last {l : List α} {i : Nat} {x : α} (hx : FirstAt l i x) (hlast : i + 1 = l.length) :
    FirstFrom l i := by
  refine step (fun j y hj hy => ?_) hx
  have hlt : j < l.length := (List.getElem?_eq_some_iff.mp hy).1
  omega

/-- A list all of whose elements are at their first occurrence has no
repetition. -/
theorem nodup {l : List α} (h : FirstFrom l 0) : l.Nodup := by
  rw [List.nodup_iff_getElem?_ne_getElem?]
  intro i j hij hj heq
  rw [List.getElem?_eq_getElem hj] at heq
  exact (h j l[j] (Nat.zero_le j) (List.getElem?_eq_getElem hj)).2 i hij heq

/-- **The retracing step.** Walking back from index `i + 1`, at which `b` stands
for the first time, to an `a` just before it: if the *first* occurrence of `a` is
also followed by `b`, then it is the occurrence at index `i`. -/
theorem retrace {l : List α} {i k : Nat} {a b : α} (h : FirstFrom l (i + 1))
    (ha : l[i]? = some a) (hb : l[i + 1]? = some b) (hk : FirstAt l k a)
    (hkb : l[k + 1]? = some b) : k = i := by
  have hki : k ≤ i := hk.le_of_getElem? ha
  have hik : i + 1 ≤ k + 1 := (h (i + 1) b (Nat.le_refl _) hb).le_of_getElem? hkb
  omega

end FirstFrom

/-- In a repetition-free list every element is at its first occurrence. -/
theorem firstAt_of_nodup {l : List α} (h : l.Nodup) {i : Nat} {x : α} (hx : l[i]? = some x) :
    FirstAt l i x := by
  refine ⟨hx, fun j hj hjx => ?_⟩
  obtain ⟨hi, -⟩ := List.getElem?_eq_some_iff.mp hx
  exact List.nodup_iff_getElem?_ne_getElem?.mp h j i hj hi (hjx.trans hx.symm)

/-- The least element that a search finds is the first one: all before it are greater. -/
theorem List.exists_split_of_argmin {β : Type*} [LinearOrder β] {f : α → β} {l : List α} {m : α}
    (h : l.argmin f = some m) :
    ∃ before after, l = before ++ m :: after ∧ (∀ a ∈ before, f m < f a) ∧
      ∀ a ∈ after, f m ≤ f a := by
  induction l generalizing m with
  | nil => cases h
  | cons a l ih =>
    rw [List.argmin_cons] at h
    cases hmin : l.argmin f with
    | none =>
      rw [hmin] at h
      cases h
      refine ⟨[], l, rfl, fun b hb => absurd hb List.not_mem_nil, ?_⟩
      rw [List.argmin_eq_none.mp hmin]
      exact fun b hb => absurd hb List.not_mem_nil
    | some c =>
      rw [hmin] at h
      dsimp only at h
      by_cases hca : f c < f a
      · rw [if_pos hca] at h
        cases h
        obtain ⟨before, after, rfl, hbefore, hafter⟩ := ih hmin
        refine ⟨a :: before, after, rfl, fun b hb => ?_, hafter⟩
        rcases List.mem_cons.mp hb with rfl | hb
        · exact hca
        · exact hbefore b hb
      · rw [if_neg hca] at h
        cases h
        refine ⟨[], l, rfl, fun b hb => absurd hb List.not_mem_nil, fun b hb => ?_⟩
        exact (le_of_not_gt hca).trans (List.le_of_mem_argmin hb hmin)
