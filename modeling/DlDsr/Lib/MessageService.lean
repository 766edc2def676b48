import Mathlib.Algebra.Order.Group.Multiset
import Mathlib.Logic.Relation

/-!
# Message services

A message service takes messages and hands them out, in any order. It may give up on the
messages of a kind, and then says so. A lossy one may also lose messages without a word,
and a duplicating one may hand them out more often than they were submitted. What its users
see is its log; what they can rely on is what every log of a run has in common
(`held_deliveries_subset`, `held_add_deliveries_le`, `count_submissions_le`), at any time of
the run (`exists_of_suffix`).
-/

universe u v

namespace MessageService

/-- What the users of a service see. -/
inductive Event (α : Type u) (κ : Type v) where
  | submit (a : α)
  | deliver (a : α)
  | giveUp (k : κ)
deriving DecidableEq

/-- The messages that the service holds, and its log, latest event first. -/
structure State (α : Type u) (κ : Type v) where
  held : Multiset α
  log : List (Event α κ)

variable {α : Type u} {κ : Type v} {kind : α → κ} {lossy duplicating : Bool} {s s' : State α κ}

/-- Nothing has been submitted yet. -/
def State.empty : State α κ := ⟨0, []⟩

/-- One step of the service. -/
inductive Step (kind : α → κ) (lossy duplicating : Bool) (s : State α κ) : State α κ → Prop where
  | submit (a : α) : Step kind lossy duplicating s ⟨s.held + {a}, .submit a :: s.log⟩
  | deliver (a : α) (rest : Multiset α) (h : s.held = rest + {a}) :
      Step kind lossy duplicating s ⟨rest, .deliver a :: s.log⟩
  | giveUp (k : κ) (rest gone : Multiset α) (h : s.held = rest + gone)
      (hkind : ∀ a ∈ gone, kind a = k) : Step kind lossy duplicating s ⟨rest, .giveUp k :: s.log⟩
  | lose (hlossy : lossy) (rest gone : Multiset α) (h : s.held = rest + gone) :
      Step kind lossy duplicating s ⟨rest, s.log⟩
  | duplicate (hdup : duplicating) (a : α) (h : a ∈ s.held) :
      Step kind lossy duplicating s ⟨s.held + {a}, s.log⟩

/-- A run of the service. -/
abbrev Run (kind : α → κ) (lossy duplicating : Bool) : State α κ → State α κ → Prop :=
  Relation.ReflTransGen (Step kind lossy duplicating)

def Event.submission : Event α κ → Option α
  | .submit a => some a
  | _ => none

def Event.delivery : Event α κ → Option α
  | .deliver a => some a
  | _ => none

/-- The messages submitted according to a log. -/
def submissions (log : List (Event α κ)) : Multiset α := (log.filterMap Event.submission : List α)

/-- The messages delivered according to a log. -/
def deliveries (log : List (Event α κ)) : Multiset α := (log.filterMap Event.delivery : List α)

@[simp] theorem submissions_nil : submissions ([] : List (Event α κ)) = 0 := rfl

@[simp] theorem deliveries_nil : deliveries ([] : List (Event α κ)) = 0 := rfl

@[simp] theorem submissions_submit (a : α) (log : List (Event α κ)) :
    submissions (.submit a :: log) = submissions log + {a} := by
  show a ::ₘ submissions log = _
  rw [← Multiset.singleton_add, add_comm]

@[simp] theorem submissions_deliver (a : α) (log : List (Event α κ)) :
    submissions (.deliver a :: log) = submissions log := rfl

@[simp] theorem submissions_giveUp (k : κ) (log : List (Event α κ)) :
    submissions (.giveUp k :: log) = submissions log := rfl

@[simp] theorem deliveries_submit (a : α) (log : List (Event α κ)) :
    deliveries (.submit a :: log) = deliveries log := rfl

@[simp] theorem deliveries_deliver (a : α) (log : List (Event α κ)) :
    deliveries (.deliver a :: log) = deliveries log + {a} := by
  show a ::ₘ deliveries log = _
  rw [← Multiset.singleton_add, add_comm]

@[simp] theorem deliveries_giveUp (k : κ) (log : List (Event α κ)) :
    deliveries (.giveUp k :: log) = deliveries log := rfl

/-! ## What the users can rely on -/

/-- Nothing is held or delivered that was not submitted. -/
theorem held_deliveries_subset (h : Run kind lossy duplicating .empty s) :
    s.held ⊆ submissions s.log ∧ deliveries s.log ⊆ submissions s.log := by
  induction h with
  | refl => exact ⟨Multiset.Subset.refl _, Multiset.Subset.refl _⟩
  | @tail s s' _ hs ih =>
    obtain ⟨hheld, hdelivered⟩ := ih
    cases hs with
    | submit a =>
      simp only [submissions_submit, deliveries_submit]
      refine ⟨fun b hb => ?_, fun b hb => Multiset.mem_add.mpr (.inl (hdelivered hb))⟩
      rcases Multiset.mem_add.mp hb with hb | hb
      · exact Multiset.mem_add.mpr (.inl (hheld hb))
      · exact Multiset.mem_add.mpr (.inr hb)
    | deliver a rest h =>
      rw [h] at hheld
      simp only [submissions_deliver, deliveries_deliver]
      refine ⟨fun b hb => hheld (Multiset.mem_add.mpr (.inl hb)), fun b hb => ?_⟩
      rcases Multiset.mem_add.mp hb with hb | hb
      · exact hdelivered hb
      · exact hheld (Multiset.mem_add.mpr (.inr hb))
    | giveUp k rest gone h =>
      rw [h] at hheld
      exact ⟨fun b hb => hheld (Multiset.mem_add.mpr (.inl hb)), hdelivered⟩
    | lose _ rest gone h =>
      rw [h] at hheld
      exact ⟨fun b hb => hheld (Multiset.mem_add.mpr (.inl hb)), hdelivered⟩
    | duplicate _ a h =>
      refine ⟨fun b hb => ?_, hdelivered⟩
      rcases Multiset.mem_add.mp hb with hb | hb
      · exact hheld hb
      · rw [Multiset.mem_singleton.mp hb]
        exact hheld h

/-- A service that does not duplicate delivers no message more often than it was submitted. -/
theorem held_add_deliveries_le (h : Run kind lossy false .empty s) :
    s.held + deliveries s.log ≤ submissions s.log := by
  induction h with
  | refl => exact le_refl _
  | @tail s s' _ hs ih =>
    cases hs with
    | submit a =>
      simp only [submissions_submit, deliveries_submit]
      rw [add_right_comm]
      exact add_le_add_left ih {a}
    | deliver a rest h =>
      rw [h] at ih
      simp only [submissions_deliver, deliveries_deliver]
      rwa [← add_assoc, add_right_comm]
    | giveUp k rest gone h =>
      rw [h] at ih
      exact le_trans (add_le_add_left (Multiset.le_add_right _ _) _) ih
    | lose _ rest gone h =>
      rw [h] at ih
      exact le_trans (add_le_add_left (Multiset.le_add_right _ _) _) ih
    | duplicate hdup => cases hdup

/-- A service that loses nothing holds or has delivered every message, as often as it was
submitted, unless it has given up on messages of that kind. -/
theorem count_submissions_le [DecidableEq α] (h : Run kind false duplicating .empty s) {a : α}
    (hkept : .giveUp (kind a) ∉ s.log) :
    (submissions s.log).count a ≤ s.held.count a + (deliveries s.log).count a := by
  induction h with
  | refl => exact Nat.zero_le _
  | @tail s s' _ hs ih =>
    cases hs with
    | submit b =>
      have hbefore := ih fun hmem => hkept (List.mem_cons_of_mem _ hmem)
      simp only [submissions_submit, deliveries_submit, Multiset.count_add]
      omega
    | deliver b rest h =>
      have hbefore := ih fun hmem => hkept (List.mem_cons_of_mem _ hmem)
      rw [h] at hbefore
      simp only [submissions_deliver, deliveries_deliver, Multiset.count_add] at hbefore ⊢
      omega
    | giveUp k rest gone h hkind =>
      have hbefore := ih fun hmem => hkept (List.mem_cons_of_mem _ hmem)
      have hnone : gone.count a = 0 := Multiset.count_eq_zero.mpr fun ha =>
        hkept (by rw [hkind a ha]; exact List.mem_cons_self)
      rw [h, Multiset.count_add, hnone] at hbefore
      exact hbefore
    | lose hlossy => cases hlossy
    | duplicate _ b h =>
      have hbefore : (submissions s.log).count a ≤ s.held.count a + (deliveries s.log).count a :=
        ih hkept
      show (submissions s.log).count a ≤ (s.held + {b}).count a + (deliveries s.log).count a
      rw [Multiset.count_add]
      omega

/-- The log at any time of a run is the end of its log. -/
theorem exists_of_suffix (h : Run kind lossy duplicating .empty s) {older : List (Event α κ)}
    (hsuffix : older <:+ s.log) : ∃ s', Run kind lossy duplicating .empty s' ∧ s'.log = older := by
  induction h with
  | refl => exact ⟨.empty, .refl, (List.suffix_nil.mp hsuffix).symm⟩
  | @tail s s' hrun hs ih =>
    by_cases hwhole : older = s'.log
    · exact ⟨s', hrun.tail hs, hwhole.symm⟩
    · -- What is not the whole log was there before the last step.
      refine ih ?_
      cases hs with
      | submit a => exact (List.suffix_cons_iff.mp hsuffix).resolve_left hwhole
      | deliver a => exact (List.suffix_cons_iff.mp hsuffix).resolve_left hwhole
      | giveUp k => exact (List.suffix_cons_iff.mp hsuffix).resolve_left hwhole
      | lose => exact hsuffix
      | duplicate => exact hsuffix

end MessageService
