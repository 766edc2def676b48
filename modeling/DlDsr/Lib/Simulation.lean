import Mathlib.Logic.Relation

/-!
# Forward simulations

Two transition systems and a relation between their states. If every step of the first is
matched by a run of the second that ends in a related state, so is every run of the first,
and what the second never does, the first never does either.
-/

universe u v

variable {C : Type u} {A : Type v}

/-- Every concrete step is matched by an abstract run. -/
def Simulates (concrete : C → C → Prop) (abstract : A → A → Prop) (R : C → A → Prop) : Prop :=
  ∀ c a c', R c a → concrete c c' → ∃ a', Relation.ReflTransGen abstract a a' ∧ R c' a'

namespace Simulates

variable {concrete : C → C → Prop} {abstract : A → A → Prop} {R : C → A → Prop}

/-- Every concrete run is matched by an abstract run. -/
theorem run (h : Simulates concrete abstract R) {c c' : C} {a : A} (hR : R c a)
    (hrun : Relation.ReflTransGen concrete c c') :
    ∃ a', Relation.ReflTransGen abstract a a' ∧ R c' a' := by
  induction hrun with
  | refl => exact ⟨a, .refl, hR⟩
  | tail _ hstep ih =>
    obtain ⟨a₁, hrun₁, hR₁⟩ := ih
    obtain ⟨a₂, hrun₂, hR₂⟩ := h _ _ _ hR₁ hstep
    exact ⟨a₂, hrun₁.trans hrun₂, hR₂⟩

/-- What holds throughout the abstract system, and carries over to related states, holds
throughout the concrete one. -/
theorem safety (h : Simulates concrete abstract R) {P : A → Prop} {Q : C → Prop} {c c' : C}
    {a : A} (hR : R c a) (hP : ∀ a', Relation.ReflTransGen abstract a a' → P a')
    (hQ : ∀ c a, R c a → P a → Q c) (hrun : Relation.ReflTransGen concrete c c') : Q c' := by
  obtain ⟨a', hrun', hR'⟩ := h.run hR hrun
  exact hQ c' a' hR' (hP a' hrun')

end Simulates
