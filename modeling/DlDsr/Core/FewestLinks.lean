import DlDsr.Core.Route
import DlDsr.Lib.FirstOccurrence

/-!
# Which route the cache picks

`RouteCache::shortest` takes the first live route with the least `hop_count`. That
counts the nodes of a route that lists nodes and the labels of one that lists labels, so
it is one more than the number of links for the former and the number of links for the
latter. In a cache that holds routes of one kind this makes no difference; in a mixed
one the choice is wrong exactly if a label route with one link too many was inserted
before the node routes with the fewest (`picksFewestLinks_iff`).
-/

namespace DlDsr

namespace RouteEntry

/-- The route lists nodes, not labels. -/
def ListsNodes (self : RouteEntry) : Prop := self.dsrPath ≠ []

instance (self : RouteEntry) : Decidable self.ListsNodes :=
  inferInstanceAs (Decidable (_ ≠ _))

/-- The number of links: one less than the nodes from source to destination, or one for
every label. -/
def links (self : RouteEntry) : Nat :=
  if self.ListsNodes then self.dsrPath.length - 1 else self.dldsrLabelPath.length

/-- A route as one of the two constructor functions builds it; a node path lists all nodes
from source to destination, so it is not empty. -/
inductive Built : RouteEntry → Prop where
  | dsr (dstNodeId : NodeId) {dsrPath : List NodeId} (expiresAtMillis : Nat)
      (hpath : dsrPath ≠ []) : Built (newDsr dstNodeId dsrPath expiresAtMillis)
  | dldsr (dstNodeId : NodeId) (dldsrLabelPath : List Label) (expiresAtMillis : Nat) :
      Built (newDldsr dstNodeId dldsrLabelPath expiresAtMillis)

variable {route : RouteEntry}

theorem hopCount_of_nodes (h : route.ListsNodes) : route.hopCount = route.links + 1 := by
  have hpos : 0 < route.dsrPath.length := List.length_pos_iff.mpr h
  have hempty : ¬ route.dsrPath.isEmpty = true := fun hnil => h (List.isEmpty_iff.mp hnil)
  rw [hopCount, links, if_neg hempty, if_pos h]
  omega

theorem hopCount_of_labels (h : ¬ route.ListsNodes) : route.hopCount = route.links := by
  have hempty : route.dsrPath.isEmpty = true := List.isEmpty_iff.mpr (not_not.mp h)
  rw [hopCount, links, if_pos hempty, if_neg h]

end RouteEntry

namespace RouteCache

/-- The cache after a sequence of `insert` calls. -/
def afterInserts (inserts : List RouteEntry) : RouteCache := inserts.foldl insert {}

/-- The live routes for a destination, in the order of their insertion. -/
def liveRoutes (inserts : List RouteEntry) (d : NodeId) (now : Nat) : List RouteEntry :=
  inserts.filter fun route => decide (route.dstNodeId = d ∧ now ≤ route.expiresAtMillis)

/-- A route is returned if there is a live one, and it has the fewest links of these. -/
structure PicksFewestLinks (inserts : List RouteEntry) (d : NodeId) (now : Nat) : Prop where
  answers : (∃ route, (afterInserts inserts).shortest d now = some route) ↔
    ∃ route ∈ inserts, route.dstNodeId = d ∧ now ≤ route.expiresAtMillis
  fewest : ∀ route, (afterInserts inserts).shortest d now = some route →
    route ∈ liveRoutes inserts d now ∧
      ∀ other ∈ liveRoutes inserts d now, route.links ≤ other.links

/-- Only node routes have the fewest links, and a label route with one link more was
inserted before all of these. -/
def LabelRouteFirst (inserts : List RouteEntry) (d : NodeId) (now : Nat) : Prop :=
  ∃ before route after, liveRoutes inserts d now = before ++ route :: after ∧
    ¬ route.ListsNodes ∧
    (∀ other ∈ liveRoutes inserts d now, ¬ other.ListsNodes → route.links ≤ other.links) ∧
    (∀ other ∈ before, other.ListsNodes → route.links ≤ other.links) ∧
    (∀ other ∈ after, other.ListsNodes → route.links ≤ other.links + 1) ∧
    ∃ other ∈ after, other.ListsNodes ∧ other.links + 1 = route.links

/-! ## What is held and what is picked -/

theorem held_foldl_insert (inserts : List RouteEntry) (cache : RouteCache) (d : NodeId) :
    (inserts.foldl insert cache).held d =
      cache.held d ++ inserts.filter fun route => decide (route.dstNodeId = d) := by
  induction inserts generalizing cache with
  | nil => simp
  | cons route inserts ih =>
    rw [List.foldl_cons, ih, held_insert]
    by_cases hd : d = route.dstNodeId
    · rw [if_pos hd, List.filter_cons_of_pos (by simp [hd]), List.append_assoc]
      rfl
    · rw [if_neg hd, List.filter_cons_of_neg (by simp [Ne.symm hd])]

/-- The choice is made among what is held. -/
theorem shortest_eq_argmin (self : RouteCache) (d : NodeId) (now : Nat) :
    self.shortest d now = List.argmin RouteEntry.hopCount
      ((self.held d).filter fun route => decide (now ≤ route.expiresAtMillis)) := by
  unfold shortest held
  cases self.routes.lookup d with
  | none => rfl
  | some routes => rfl

theorem shortest_afterInserts (inserts : List RouteEntry) (d : NodeId) (now : Nat) :
    (afterInserts inserts).shortest d now =
      List.argmin RouteEntry.hopCount (liveRoutes inserts d now) := by
  rw [shortest_eq_argmin, afterInserts, held_foldl_insert, liveRoutes]
  congr 1
  show List.filter _ ([] ++ _) = _
  rw [List.nil_append, List.filter_filter]
  refine List.filter_congr fun route _ => ?_
  rw [← Bool.decide_and, Bool.decide_congr and_comm]

variable {inserts : List RouteEntry} {d : NodeId} {now : Nat}

theorem mem_liveRoutes {route : RouteEntry} :
    route ∈ liveRoutes inserts d now ↔
      route ∈ inserts ∧ route.dstNodeId = d ∧ now ≤ route.expiresAtMillis := by
  simp [liveRoutes]

/-- There is an answer if there is a live route. -/
theorem exists_shortest_iff :
    (∃ route, (afterInserts inserts).shortest d now = some route) ↔
      ∃ route ∈ inserts, route.dstNodeId = d ∧ now ≤ route.expiresAtMillis := by
  rw [shortest_afterInserts]
  constructor
  · rintro ⟨route, hroute⟩
    exact ⟨route, mem_liveRoutes.mp (List.argmin_mem hroute)⟩
  · rintro ⟨route, hroute⟩
    cases hmin : (liveRoutes inserts d now).argmin RouteEntry.hopCount with
    | some picked => exact ⟨picked, rfl⟩
    | none =>
      have hmem := mem_liveRoutes.mpr hroute
      rw [List.argmin_eq_none.mp hmin] at hmem
      cases hmem

/-- A route that is picked although another one has fewer links is a label route, the
other one a node route with one link less, inserted later. -/
theorem labelRouteFirst_of_fewer {picked other : RouteEntry}
    (hpicked : (liveRoutes inserts d now).argmin RouteEntry.hopCount = some picked)
    (hother : other ∈ liveRoutes inserts d now) (hfewer : other.links < picked.links) :
    LabelRouteFirst inserts d now := by
  obtain ⟨before, after, hsplit, hbefore, hafter⟩ := List.exists_split_of_argmin hpicked
  have hleast : ∀ route ∈ liveRoutes inserts d now, picked.hopCount ≤ route.hopCount :=
    fun route hroute => List.le_of_mem_argmin hroute hpicked
  have hle := hleast other hother
  by_cases hpickedNodes : picked.ListsNodes
  · -- A node route is counted with one link too many, the other with one at most.
    rw [RouteEntry.hopCount_of_nodes hpickedNodes] at hle
    by_cases hotherNodes : other.ListsNodes
    · rw [RouteEntry.hopCount_of_nodes hotherNodes] at hle
      omega
    · rw [RouteEntry.hopCount_of_labels hotherNodes] at hle
      omega
  have hcount := RouteEntry.hopCount_of_labels hpickedNodes
  have hotherNodes : other.ListsNodes := by
    by_contra hotherLabels
    rw [hcount, RouteEntry.hopCount_of_labels hotherLabels] at hle
    omega
  have hsame : other.links + 1 = picked.links := by
    rw [hcount, RouteEntry.hopCount_of_nodes hotherNodes] at hle
    omega
  refine ⟨before, picked, after, hsplit, hpickedNodes, ?_, ?_, ?_, other, ?_, hotherNodes, hsame⟩
  · intro route hroute hlabels
    rw [← hcount, ← RouteEntry.hopCount_of_labels hlabels]
    exact hleast route hroute
  · intro route hroute hnodes
    have hlt := hbefore route hroute
    rw [hcount, RouteEntry.hopCount_of_nodes hnodes] at hlt
    omega
  · intro route hroute hnodes
    rw [← hcount, ← RouteEntry.hopCount_of_nodes hnodes]
    exact hafter route hroute
  · -- Before the picked route everything is longer.
    rw [hsplit] at hother
    rcases List.mem_append.mp hother with hin | hin
    · have hlt := hbefore other hin
      rw [hcount, RouteEntry.hopCount_of_nodes hotherNodes] at hlt
      omega
    · rcases List.mem_cons.mp hin with rfl | hin
      · exact absurd hotherNodes hpickedNodes
      · exact hin

/-- Of two occurrences in a list one comes first. -/
theorem mem_before_of_split {pre pre' post post' : List RouteEntry} {x y : RouteEntry}
    (h : pre ++ x :: post = pre' ++ y :: post') (hne : x ≠ y) (hnotMem : y ∉ pre) : x ∈ pre' := by
  rcases List.append_eq_append_iff.mp h with ⟨mid, rfl, hmid⟩ | ⟨mid, rfl, hmid⟩
  · cases mid with
    | nil => exact absurd (List.cons.inj hmid).1 hne
    | cons z mid =>
      rw [(List.cons.inj hmid).1]
      exact List.mem_append_right _ List.mem_cons_self
  · cases mid with
    | nil => exact absurd (List.cons.inj hmid).1.symm hne
    | cons z mid =>
      rw [(List.cons.inj hmid).1] at hnotMem
      exact absurd (List.mem_append_right _ List.mem_cons_self) hnotMem

/-- A label route that comes first keeps the node route with fewer links from being
picked. -/
theorem LabelRouteFirst.fewer (h : LabelRouteFirst inserts d now) {picked : RouteEntry}
    (hpicked : (liveRoutes inserts d now).argmin RouteEntry.hopCount = some picked) :
    ∃ other ∈ liveRoutes inserts d now, other.links < picked.links := by
  obtain ⟨before, route, after, hsplit, hlabels, hall, hbefore, hafter, other, hother,
    hotherNodes, hsame⟩ := h
  have hotherMem : other ∈ liveRoutes inserts d now := by
    rw [hsplit]
    exact List.mem_append_right _ (List.mem_cons_of_mem _ hother)
  refine ⟨other, hotherMem, ?_⟩
  have hpickedMem := List.argmin_mem hpicked
  by_cases hpickedNodes : picked.ListsNodes
  · by_contra hle
    -- Such a node route does not stand before the label route, so that one comes first.
    have hnotBefore : picked ∉ before := by
      intro hin
      have := hbefore picked hin hpickedNodes
      omega
    have hne : route ≠ picked := by
      rintro rfl
      exact hlabels hpickedNodes
    obtain ⟨pre, post, hsplit', hpre, -⟩ := List.exists_split_of_argmin hpicked
    have hin : route ∈ pre := mem_before_of_split (hsplit.symm.trans hsplit') hne hnotBefore
    have hlt := hpre route hin
    rw [RouteEntry.hopCount_of_nodes hpickedNodes, RouteEntry.hopCount_of_labels hlabels] at hlt
    have hpickedAfter : picked ∈ after := by
      rw [hsplit] at hpickedMem
      rcases List.mem_append.mp hpickedMem with hin | hin
      · exact absurd hin hnotBefore
      · exact (List.mem_cons.mp hin).resolve_left (Ne.symm hne)
    have := hafter picked hpickedAfter hpickedNodes
    omega
  · have := hall picked hpickedMem hpickedNodes
    omega

/-- **When the cache picks a route with the fewest links.** For every sequence of
insertions, every destination and every time: exactly unless a label route is first in
the way. -/
theorem picksFewestLinks_iff (inserts : List RouteEntry) (d : NodeId) (now : Nat) :
    PicksFewestLinks inserts d now ↔ ¬ LabelRouteFirst inserts d now := by
  constructor
  · intro h hfirst
    cases hmin : (liveRoutes inserts d now).argmin RouteEntry.hopCount with
    | none =>
      obtain ⟨before, route, after, hsplit, -⟩ := hfirst
      rw [List.argmin_eq_none.mp hmin] at hsplit
      exact absurd hsplit.symm (List.append_ne_nil_of_right_ne_nil _ (List.cons_ne_nil _ _))
    | some picked =>
      obtain ⟨other, hother, hfewer⟩ := hfirst.fewer hmin
      have hpicked := (h.fewest picked ((shortest_afterInserts inserts d now).trans hmin)).2
      exact absurd (hpicked other hother) (by omega)
  · intro h
    refine ⟨exists_shortest_iff, fun picked hpicked => ?_⟩
    rw [shortest_afterInserts] at hpicked
    refine ⟨List.argmin_mem hpicked, fun other hother => ?_⟩
    by_contra hfewer
    exact h (labelRouteFirst_of_fewer hpicked hother (by omega))

/-- A route of two labels hides a later one of one link, which lists two nodes. -/
theorem label_route_hides_shorter :
    ¬ ∀ inserts : List RouteEntry, (∀ route ∈ inserts, route.Built) →
      ∀ (d : NodeId) (now : Nat), PicksFewestLinks inserts d now := by
  intro h
  have hbuilt : ∀ route ∈ [RouteEntry.newDldsr 9 [1, 2] 1000, RouteEntry.newDsr 9 [0, 9] 1000],
      route.Built := by
    intro route hroute
    rcases List.mem_cons.mp hroute with rfl | hroute
    · exact .dldsr 9 [1, 2] 1000
    · rw [List.mem_singleton.mp hroute]
      exact .dsr 9 1000 (by decide)
  have hpicks := (h _ hbuilt 9 1).fewest (.newDldsr 9 [1, 2] 1000) (by decide)
  exact absurd (hpicks.2 (.newDsr 9 [0, 9] 1000) (by decide)) (by decide)

end RouteCache

end DlDsr
