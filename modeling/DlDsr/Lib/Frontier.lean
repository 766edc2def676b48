import DlDsr.Lib.Walk
import Mathlib.Logic.Relation

/-!
# Flooding a graph

An item is passed along the edges of a graph: a node that sees it for the first time
passes it to its neighbours, apart from one node, `stop`, that keeps it. `Frontier`
says that the flood has not been cut off: every edge out of a node that has seen the
item leads to a node that has seen it too, or is just being crossed. When nothing is
being crossed any more, the item has come to `stop` if it could
(`Frontier.reaches`).
-/

namespace DlDsr

variable {α : Type} {R : α → α → Prop} {stop : α} {seen seen' : α → Prop}
  {crossing crossing' : α → α → Prop}

/-- No edge out of what has been seen is left out. -/
def Frontier (R : α → α → Prop) (stop : α) (seen : α → Prop) (crossing : α → α → Prop) : Prop :=
  ∀ n m, n ≠ stop → R n m → seen n → seen m ∨ crossing n m

namespace Frontier

/-- A flood starts at one node, which passes the item to all its neighbours. -/
theorem start {s : α} (hnew : ∀ n, seen n → n = s) (hcrossing : ∀ m, R s m → crossing s m) :
    Frontier R stop seen crossing := by
  intro n m _ hR hn
  rw [hnew n hn] at hR ⊢
  exact .inr (hcrossing m hR)

/-- Nothing is seen for the first time, and no edge is given up. -/
theorem mono (h : Frontier R stop seen crossing) (hseen : ∀ n, seen' n ↔ seen n)
    (hcrossing : ∀ n m, R n m → crossing n m → crossing' n m) :
    Frontier R stop seen' crossing' := by
  intro n m hstop hR hn
  rcases h n m hstop hR ((hseen n).mp hn) with hm | hm
  · exact .inl ((hseen m).mpr hm)
  · exact .inr (hcrossing n m hR hm)

/-- The item arrives at `x`, which passes it on unless it has seen it before or is
`stop`. Only crossings to `x` end. -/
theorem arrive (h : Frontier R stop seen crossing) {x : α} (hx : seen' x)
    (hkept : ∀ n, seen n → seen' n) (hnew : ∀ n, seen' n → seen n ∨ n = x)
    (hcrossing : ∀ n m, R n m → crossing n m → crossing' n m ∨ m = x)
    (hforward : seen x ∨ x = stop ∨ ∀ m, R x m → seen' m ∨ crossing' x m) :
    Frontier R stop seen' crossing' := by
  -- Edges out of what had been seen before.
  have hold : ∀ n m, n ≠ stop → R n m → seen n → seen' m ∨ crossing' n m := by
    intro n m hstop hR hn
    rcases h n m hstop hR hn with hm | hm
    · exact .inl (hkept m hm)
    · rcases hcrossing n m hR hm with hm | rfl
      · exact .inr hm
      · exact .inl hx
  intro n m hstop hR hn
  rcases hnew n hn with hn | rfl
  · exact hold n m hstop hR hn
  · rcases hforward with hseen | rfl | hforward
    · exact hold n m hstop hR hseen
    · exact absurd rfl hstop
    · exact hforward m hR

/-- **A flood that has come to rest has come everywhere**, up to `stop`. -/
theorem reaches (h : Frontier R stop seen crossing) (hrest : ∀ n m, ¬ crossing n m) {s : α}
    (hs : seen s) (hconnected : Relation.ReflTransGen R s stop) : seen stop := by
  induction hconnected using Relation.ReflTransGen.head_induction_on with
  | refl => exact hs
  | @head n m hR _ ih =>
    by_cases hstop : n = stop
    · exact hstop ▸ hs
    · rcases h n m hstop hR hs with hm | hm
      · exact ih hm
      · exact absurd hm (hrest n m)

/-- On a walk from where the item has been seen to a `stop` that has not seen it, some edge
is being crossed. -/
theorem exists_crossing (h : Frontier R stop seen crossing) {s : α} {path : List α}
    (hwalk : IsWalk R path s stop) (hs : seen s) (hstop : ¬ seen stop) :
    ∃ (i : Nat) (x y : α), path[i]? = some x ∧ path[i + 1]? = some y ∧ ¬ seen y ∧
      crossing x y := by
  by_contra hnone
  -- Otherwise every vertex of the walk has seen it.
  have hseen : ∀ (i : Nat) (x : α), path[i]? = some x → seen x := by
    intro i
    induction i with
    | zero =>
      intro x hx
      rw [hwalk.getElem?_zero] at hx
      exact Option.some.inj hx ▸ hs
    | succ i ih =>
      intro y hy
      have hlt : i < path.length := by
        have := (List.getElem?_eq_some_iff.mp hy).1
        omega
      have hx : path[i]? = some path[i] := List.getElem?_eq_getElem hlt
      have hne : path[i] ≠ stop := fun heq => hstop (heq ▸ ih _ hx)
      rcases h _ y hne (hwalk.rel hx hy) (ih _ hx) with hseen | hcrossing
      · exact hseen
      · by_contra hunseen
        exact hnone ⟨i, _, y, hx, hy, hunseen, hcrossing⟩
  exact hstop (hseen _ stop hwalk.getElem?_last)

end Frontier

end DlDsr
