import DlDsr.Lib.Walk
import Mathlib.Data.List.Nodup

/-!
# Walks on a line

On the natural numbers, with a link between any two that differ by one, a walk passes
everything between its ends (`IsWalk.mem_of_between`). So there is one simple walk between
any two numbers, straight from one to the other (`IsWalk.eq_straight`).
-/

universe u v

/-- A walk backwards. -/
theorem IsWalk.reverse {α : Type u} {R : α → α → Prop} {path : List α} {a b : α}
    (hR : ∀ x y, R x y → R y x) (h : IsWalk R path a b) : IsWalk R path.reverse b a := by
  refine ⟨?_, ?_, ?_⟩
  · rw [List.head?_reverse, h.last]
  · rw [List.getLast?_reverse, h.head]
  · exact List.isChain_reverse.mpr (h.chain.imp hR)

/-- The image of a walk. -/
theorem IsWalk.map {α : Type u} {β : Type v} {R : α → α → Prop} {S : β → β → Prop}
    {path : List α} {a b : α} (f : α → β) (hf : ∀ x y, R x y → S (f x) (f y))
    (h : IsWalk R path a b) : IsWalk S (path.map f) (f a) (f b) := by
  refine ⟨?_, ?_, ?_⟩
  · rw [List.head?_map, h.head]
    rfl
  · rw [List.getLast?_map, h.last]
    rfl
  · exact List.isChain_map_of_isChain f (fun x y => hf x y) h.chain

/-- The numbers differ by one. -/
def Adjacent (m n : Nat) : Prop := m + 1 = n ∨ n + 1 = m

theorem Adjacent.symm {m n : Nat} (h : Adjacent m n) : Adjacent n m := Or.symm h

/-- The numbers from `a` to `b`, upwards or downwards. -/
def straight (a b : Nat) : List Nat :=
  if a ≤ b then List.range' a (b + 1 - a) else (List.range' b (a + 1 - b)).reverse

theorem length_straight (a b : Nat) : (straight a b).length = max a b - min a b + 1 := by
  unfold straight
  split <;> simp only [List.length_reverse, List.length_range'] <;> omega

namespace IsWalk

variable {path : List Nat} {a b m : Nat}

/-- The first step of a walk that is not over. -/
theorem tail_of_ne (h : IsWalk Adjacent path a b) (hne : a ≠ b) :
    ∃ y rest, path = a :: y :: rest ∧ Adjacent a y ∧ IsWalk Adjacent (y :: rest) y b := by
  obtain ⟨hhead, hlast, hchain⟩ := h
  cases path with
  | nil => cases hhead
  | cons x rest =>
    obtain rfl : x = a := Option.some.inj hhead
    cases rest with
    | nil => exact absurd (Option.some.inj hlast) hne
    | cons y rest =>
      obtain ⟨hstep, hrest⟩ := List.isChain_cons_cons.mp hchain
      exact ⟨y, rest, rfl, hstep, rfl, hlast, hrest⟩

/-- A walk does not jump over a number. -/
theorem mem_of_between (h : IsWalk Adjacent path a b) (ha : a ≤ m) (hb : m ≤ b) : m ∈ path := by
  induction hlength : path.length generalizing path a with
  | zero =>
    rw [List.length_eq_zero_iff.mp hlength] at h
    cases h.head
  | succ k ih =>
    by_cases hne : a = m
    · subst hne
      exact List.mem_of_mem_head? (by rw [h.head]; rfl)
    · obtain ⟨y, rest, rfl, hstep, hrest⟩ := h.tail_of_ne (by omega)
      have hy : y ≤ m := by
        rcases hstep with hup | hdown <;> omega
      exact List.mem_cons_of_mem a (ih hrest hy (Nat.succ.inj hlength))

/-- A simple walk upwards never turns. -/
theorem eq_range' (h : IsWalk Adjacent path a b) (hnodup : path.Nodup) (hle : a ≤ b) :
    path = List.range' a (b + 1 - a) := by
  induction hk : b - a generalizing path a with
  | zero =>
    obtain rfl : a = b := by omega
    obtain ⟨hhead, hlast, -⟩ := h
    cases path with
    | nil => cases hhead
    | cons x rest =>
      obtain rfl : x = a := Option.some.inj hhead
      cases rest with
      | nil => simp
      | cons y rest =>
        rw [List.getLast?_cons_cons] at hlast
        exact absurd (List.mem_of_getLast? hlast) (List.nodup_cons.mp hnodup).1
  | succ k ih =>
    obtain ⟨y, rest, rfl, hstep, hrest⟩ := h.tail_of_ne (by omega)
    obtain ⟨hfresh, hnodup⟩ := List.nodup_cons.mp hnodup
    have hup : a + 1 = y := by
      rcases hstep with hup | hdown
      · exact hup
      · -- The rest of the walk would come back to `a`.
        exact absurd (hrest.mem_of_between (by omega) hle) hfresh
    subst hup
    rw [ih hrest hnodup (by omega) (by omega)]
    have hcount : b + 1 - a = b + 1 - (a + 1) + 1 := by omega
    rw [hcount, List.range'_succ]

/-- There is one simple walk between two numbers. -/
theorem eq_straight (h : IsWalk Adjacent path a b) (hnodup : path.Nodup) : path = straight a b := by
  unfold straight
  split
  · next hle => exact h.eq_range' hnodup hle
  · next hlt =>
    have hback := (h.reverse fun _ _ => Adjacent.symm).eq_range' (List.nodup_reverse.mpr hnodup)
      (by omega)
    rw [← hback, List.reverse_reverse]

end IsWalk
