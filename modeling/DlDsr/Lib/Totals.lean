import Mathlib.Algebra.BigOperators.Group.List.Basic
import Mathlib.Data.List.Nodup
import Mathlib.Logic.Function.Basic

/-!
# Sums over the members of a system

What every member of a system keeps for itself (a counter, a multiset) is summed over all of
them. A step in which one member acts changes one term of the sum (`sumOver_split`), so what
the step does to the sum is what it does to that member.
-/

universe u v w

/-- The sum of `f` over the members. -/
def sumOver {α : Type u} {M : Type w} [AddCommMonoid M] (members : List α) (f : α → M) : M :=
  (members.map f).sum

variable {α : Type u} {σ : Type v} {M : Type w} [AddCommMonoid M] {members : List α}

theorem sumOver_congr {f g : α → M} (h : ∀ a ∈ members, f a = g a) :
    sumOver members f = sumOver members g :=
  congrArg List.sum (List.map_congr_left h)

theorem sumOver_eq_zero {f : α → M} (h : ∀ a ∈ members, f a = 0) : sumOver members f = 0 := by
  refine List.sum_eq_zero fun k hk => ?_
  obtain ⟨a, ha, rfl⟩ := List.mem_map.mp hk
  exact h a ha

section Update

variable [DecidableEq α] {a : α} {state : α → σ} {f : σ → M}

/-- One member and the others: whatever state the one gets into, the rest of the sum stays. -/
theorem sumOver_split (hnodup : members.Nodup) (ha : a ∈ members) (state : α → σ) (f : σ → M) :
    ∃ rest, sumOver members (fun b => f (state b)) = f (state a) + rest ∧
      ∀ s, sumOver members (fun b => f (Function.update state a s b)) = f s + rest := by
  refine ⟨((members.erase a).map fun b => f (state b)).sum,
    (List.sum_map_erase (fun b => f (state b)) ha).symm, fun s => ?_⟩
  have hafter := List.sum_map_erase (fun b => f (Function.update state a s b)) ha
  -- The other members are as they were.
  have hothers : (members.erase a).map (fun b => f (Function.update state a s b)) =
      (members.erase a).map fun b => f (state b) := by
    refine List.map_congr_left fun b hb => ?_
    have hne : b ≠ a := ((List.Nodup.mem_erase_iff hnodup).mp hb).1
    rw [Function.update_of_ne hne]
  rw [hothers, Function.update_self] at hafter
  exact hafter.symm

/-- The new state of one member takes the place of its old one. -/
theorem sumOver_update (hnodup : members.Nodup) (ha : a ∈ members) (state : α → σ) (s : σ)
    (f : σ → M) :
    sumOver members (fun b => f (Function.update state a s b)) + f (state a) =
      sumOver members (fun b => f (state b)) + f s := by
  obtain ⟨rest, hbefore, hafter⟩ := sumOver_split hnodup ha state f
  rw [hbefore, hafter, add_right_comm, add_comm (f s), add_right_comm]

/-- A step that does not touch the counter keeps the sum. -/
theorem sumOver_update_of_eq {s : σ} (h : f s = f (state a)) :
    sumOver members (fun b => f (Function.update state a s b)) =
      sumOver members fun b => f (state b) := by
  refine sumOver_congr fun b _ => ?_
  by_cases hb : b = a
  · subst hb
    rw [Function.update_self, h]
  · rw [Function.update_of_ne hb]

end Update
