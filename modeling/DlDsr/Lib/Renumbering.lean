import Mathlib.Data.List.Nodup
import Mathlib.Logic.Equiv.Defs

/-!
# Numbering the same things in two orders

Elements that are numbered one after the other, from `base` on, get other numbers when they
are taken in another order. `renumbering` is the permutation of the numbers that undoes the
difference: it takes the number of an element in the first order to its number in the
second (`renumbering_idxOf`) and leaves every number alone that was not given out.
-/

namespace List

universe u

variable {α : Type u} [DecidableEq α] {base n : Nat} {l l' : List α}

/-- The number in the second order of the element that has the number `n` in the first. -/
def renumber (base : Nat) (l l' : List α) (n : Nat) : Nat :=
  if n < base then n
  else
    match l[n - base]? with
    | some a => base + l'.idxOf a
    | none => n

theorem renumber_of_lt (h : n < base) : renumber base l l' n = n := if_pos h

theorem renumber_of_le (h : base + l.length ≤ n) : renumber base l l' n = n := by
  unfold renumber
  rw [if_neg (by omega), getElem?_eq_none (by omega)]

/-- An element's number in the first order is taken to its number in the second. -/
theorem renumber_idxOf {a : α} (ha : a ∈ l) :
    renumber base l l' (base + l.idxOf a) = base + l'.idxOf a := by
  have hget : l[l.idxOf a]? = some a := by
    rw [getElem?_eq_getElem (idxOf_lt_length_of_mem ha), getElem_idxOf]
  unfold renumber
  rw [if_neg (by omega), Nat.add_sub_cancel_left, hget]

/-- Every number is that of an element, or is left alone. -/
theorem exists_idxOf_of_number (base : Nat) (hnodup : l.Nodup) (n : Nat) :
    (n < base ∨ base + l.length ≤ n) ∨ ∃ a ∈ l, n = base + l.idxOf a := by
  by_cases hrange : n < base ∨ base + l.length ≤ n
  · exact .inl hrange
  · have hlt : n - base < l.length := by omega
    refine .inr ⟨l[n - base], getElem_mem hlt, ?_⟩
    rw [hnodup.idxOf_getElem]
    omega

theorem renumber_leftInverse (hperm : l.Perm l') (hnodup : l.Nodup) :
    Function.LeftInverse (renumber base l' l) (renumber base l l') := by
  intro n
  rcases exists_idxOf_of_number base hnodup n with (hlow | hhigh) | ⟨a, ha, rfl⟩
  · rw [renumber_of_lt hlow, renumber_of_lt hlow]
  · have hhigh' : base + l'.length ≤ n := hperm.length_eq ▸ hhigh
    rw [renumber_of_le hhigh, renumber_of_le hhigh']
  · rw [renumber_idxOf ha, renumber_idxOf (hperm.subset ha)]

/-- Taking the elements in another order permutes their numbers. -/
def renumbering (base : Nat) (hperm : l.Perm l') (hnodup : l.Nodup) : Equiv.Perm Nat where
  toFun := renumber base l l'
  invFun := renumber base l' l
  left_inv := renumber_leftInverse hperm hnodup
  right_inv := renumber_leftInverse hperm.symm (hperm.nodup_iff.mp hnodup)

theorem renumbering_idxOf (base : Nat) (hperm : l.Perm l') (hnodup : l.Nodup) {a : α} (ha : a ∈ l) :
    renumbering base hperm hnodup (base + l.idxOf a) = base + l'.idxOf a :=
  renumber_idxOf ha

theorem renumbering_eq_self (hperm : l.Perm l') (hnodup : l.Nodup)
    (h : n < base ∨ base + l.length ≤ n) : renumbering base hperm hnodup n = n :=
  h.elim renumber_of_lt renumber_of_le

end List
