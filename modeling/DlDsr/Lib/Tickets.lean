import Mathlib.Data.List.Nodup

/-!
# Items served in turn

Items of several classes are submitted one after the other; the ticket of an item is its
position among all submissions. An item is served at once or has to wait, and the waiting
items of a class are served together or discarded together. `InTurn` says that every class
is served in the order of its tickets, and that nobody who waits has been overtaken. It
is kept by all four operations, provided that an item is served at once only while
nothing of its class waits (`InTurn.serve`).
-/

universe u v

/-- What was submitted, what waits, and what was served so far, in the order of service;
the last two with their tickets. -/
structure Tickets (α : Type u) where
  submissions : List α := []
  waiting : List (Nat × α) := []
  served : List (Nat × α) := []

namespace Tickets

variable {α : Type u} {κ : Type v} {t : Tickets α} {key : α → κ} {a : α} {k : κ}

/-- A new item is served at once. -/
def serve (t : Tickets α) (a : α) : Tickets α :=
  { submissions := t.submissions ++ [a]
    waiting := t.waiting
    served := t.served ++ [(t.submissions.length, a)] }

/-- A new item has to wait. -/
def wait (t : Tickets α) (a : α) : Tickets α :=
  { submissions := t.submissions ++ [a]
    waiting := t.waiting ++ [(t.submissions.length, a)]
    served := t.served }

/-- The waiting items of class `k` are served, in the order in which they wait. -/
def release [DecidableEq κ] (key : α → κ) (t : Tickets α) (k : κ) : Tickets α :=
  { submissions := t.submissions
    waiting := t.waiting.filter fun x => key x.2 != k
    served := t.served ++ t.waiting.filter fun x => key x.2 == k }

/-- Some of the waiting items are discarded. -/
def retain (t : Tickets α) (keep : α → Bool) : Tickets α :=
  { submissions := t.submissions
    waiting := t.waiting.filter fun x => keep x.2
    served := t.served }

/-- Every class is served in the order of its tickets. -/
structure InTurn (key : α → κ) (t : Tickets α) : Prop where
  waiting_submitted : ∀ x ∈ t.waiting, t.submissions[x.1]? = some x.2
  served_submitted : ∀ x ∈ t.served, t.submissions[x.1]? = some x.2
  waiting_sorted : t.waiting.Pairwise fun x y => x.1 < y.1
  served_sorted : t.served.Pairwise fun x y => key x.2 = key y.2 → x.1 < y.1
  not_overtaken : ∀ x ∈ t.served, ∀ y ∈ t.waiting, key x.2 = key y.2 → x.1 < y.1

theorem inTurn_empty (key : α → κ) : InTurn key {} where
  waiting_submitted _ h := absurd h List.not_mem_nil
  served_submitted _ h := absurd h List.not_mem_nil
  waiting_sorted := List.Pairwise.nil
  served_sorted := List.Pairwise.nil
  not_overtaken _ h := absurd h List.not_mem_nil

namespace InTurn

theorem lt_of_submitted {x : Nat × α} (h : t.submissions[x.1]? = some x.2) :
    x.1 < t.submissions.length :=
  (List.getElem?_eq_some_iff.mp h).1

/-- A ticket stays valid when more is submitted. -/
theorem submitted_append {x : Nat × α} (h : t.submissions[x.1]? = some x.2) (a : α) :
    (t.submissions ++ [a])[x.1]? = some x.2 := by
  rw [List.getElem?_append_left (lt_of_submitted h)]
  exact h

theorem submitted_last (l : List α) (a : α) : (l ++ [a])[l.length]? = some a := by simp

theorem serve (h : t.InTurn key) (hnone : ∀ x ∈ t.waiting, key x.2 ≠ key a) :
    (t.serve a).InTurn key := by
  refine ⟨?_, ?_, h.waiting_sorted, ?_, ?_⟩
  · intro x hx
    exact submitted_append (h.waiting_submitted x hx) a
  · intro x hx
    rcases List.mem_append.mp hx with hx | hx
    · exact submitted_append (h.served_submitted x hx) a
    · rw [List.mem_singleton.mp hx]
      exact submitted_last t.submissions a
  · refine List.pairwise_append.mpr ⟨h.served_sorted, List.pairwise_singleton _ _, ?_⟩
    intro x hx y hy _
    rw [List.mem_singleton.mp hy]
    exact lt_of_submitted (h.served_submitted x hx)
  · intro x hx y hy heq
    rcases List.mem_append.mp hx with hx | hx
    · exact h.not_overtaken x hx y hy heq
    · rw [List.mem_singleton.mp hx] at heq
      exact absurd heq.symm (hnone y hy)

theorem wait (h : t.InTurn key) (a : α) : (t.wait a).InTurn key := by
  refine ⟨?_, ?_, ?_, h.served_sorted, ?_⟩
  · intro x hx
    rcases List.mem_append.mp hx with hx | hx
    · exact submitted_append (h.waiting_submitted x hx) a
    · rw [List.mem_singleton.mp hx]
      exact submitted_last t.submissions a
  · intro x hx
    exact submitted_append (h.served_submitted x hx) a
  · refine List.pairwise_append.mpr ⟨h.waiting_sorted, List.pairwise_singleton _ _, ?_⟩
    intro x hx y hy
    rw [List.mem_singleton.mp hy]
    exact lt_of_submitted (h.waiting_submitted x hx)
  · intro x hx y hy heq
    rcases List.mem_append.mp hy with hy | hy
    · exact h.not_overtaken x hx y hy heq
    · rw [List.mem_singleton.mp hy]
      exact lt_of_submitted (h.served_submitted x hx)

theorem retain (h : t.InTurn key) (keep : α → Bool) : (t.retain keep).InTurn key := by
  refine ⟨?_, h.served_submitted, h.waiting_sorted.filter _, h.served_sorted, ?_⟩
  · intro x hx
    exact h.waiting_submitted x (List.mem_of_mem_filter hx)
  · intro x hx y hy heq
    exact h.not_overtaken x hx y (List.mem_of_mem_filter hy) heq

theorem release [DecidableEq κ] (h : t.InTurn key) (k : κ) : (t.release key k).InTurn key := by
  refine ⟨?_, ?_, h.waiting_sorted.filter _, ?_, ?_⟩
  · intro x hx
    exact h.waiting_submitted x (List.mem_of_mem_filter hx)
  · intro x hx
    rcases List.mem_append.mp hx with hx | hx
    · exact h.served_submitted x hx
    · exact h.waiting_submitted x (List.mem_of_mem_filter hx)
  · refine List.pairwise_append.mpr ⟨h.served_sorted, ?_, ?_⟩
    · refine (h.waiting_sorted.filter fun x => key x.2 == k).imp ?_
      intro x y hlt _
      exact hlt
    · intro x hx y hy heq
      exact h.not_overtaken x hx y (List.mem_of_mem_filter hy) heq
  · intro x hx y hy heq
    obtain ⟨hy, hother⟩ := List.mem_filter.mp hy
    rcases List.mem_append.mp hx with hx | hx
    · exact h.not_overtaken x hx y hy heq
    · -- What was released is of class `k`, what still waits is not.
      obtain ⟨-, hsame⟩ := List.mem_filter.mp hx
      rw [← heq] at hother
      rw [eq_of_beq hsame] at hother
      simp at hother

/-- Nothing is served twice. -/
theorem served_nodup (h : t.InTurn key) : (t.served.map Prod.fst).Nodup := by
  refine List.pairwise_map.mpr (h.served_sorted.imp_of_mem ?_)
  intro x y hx hy hlt heq
  have hitem : x.2 = y.2 := by
    have hsub := h.served_submitted x hx
    rw [heq, h.served_submitted y hy] at hsub
    exact (Option.some.inj hsub).symm
  have := hlt (by rw [hitem])
  omega

/-- What waits has not been served. -/
theorem waiting_not_served (h : t.InTurn key) {x y : Nat × α} (hx : x ∈ t.served)
    (hy : y ∈ t.waiting) : x.1 ≠ y.1 := by
  intro heq
  have hitem : x.2 = y.2 := by
    have hsub := h.served_submitted x hx
    rw [heq, h.waiting_submitted y hy] at hsub
    exact (Option.some.inj hsub).symm
  have := h.not_overtaken x hx y hy (by rw [hitem])
  omega

end InTurn

end Tickets
