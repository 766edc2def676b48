import DlDsr.Core.Packet
import DlDsr.Lib.HashMap
import Mathlib.Data.List.MinMax
import Mathlib.Data.List.Sort
import Mathlib.Data.Prod.Lex

/-!
# Route cache and duplicate cache (`dldsr-core/src/route.rs`)

`RouteCache` keeps every route ever inserted, per destination, and picks a live
one with the smallest `hopCount`. `SeenRequests` remembers which route requests
a node has handled: entries expire after `ttlMs`, and the oldest ones are evicted
when there are more than `maxEntries`.
-/

namespace DlDsr

/-- A cached route. -/
structure RouteEntry where
  dstNodeId : NodeId
  dsrPath : List NodeId
  dldsrLabelPath : List Label
  expiresAtMillis : Nat
deriving DecidableEq

namespace RouteEntry

/-- `RouteEntry::new_dsr`. -/
def newDsr (dstNodeId : NodeId) (dsrPath : List NodeId) (expiresAtMillis : Nat) : RouteEntry :=
  { dstNodeId := dstNodeId, dsrPath := dsrPath, dldsrLabelPath := [],
    expiresAtMillis := expiresAtMillis }

/-- `RouteEntry::new_dldsr`. -/
def newDldsr (dstNodeId : NodeId) (dldsrLabelPath : List Label) (expiresAtMillis : Nat) :
    RouteEntry :=
  { dstNodeId := dstNodeId, dsrPath := [], dldsrLabelPath := dldsrLabelPath,
    expiresAtMillis := expiresAtMillis }

/-- `RouteEntry::hop_count`. -/
def hopCount (self : RouteEntry) : Nat :=
  if self.dsrPath.isEmpty then self.dldsrLabelPath.length else self.dsrPath.length

end RouteEntry

/-- Cached routes, per destination. -/
structure RouteCache where
  routes : HashMap NodeId (List RouteEntry) := ∅
deriving DecidableEq

namespace RouteCache

/-- The routes held under a destination, oldest first. -/
def held (self : RouteCache) (dstNodeId : NodeId) : List RouteEntry :=
  (self.routes.lookup dstNodeId).getD []

/-- `RouteCache::insert`. -/
def insert (self : RouteCache) (route : RouteEntry) : RouteCache :=
  { routes := self.routes.insert route.dstNodeId (self.held route.dstNodeId ++ [route]) }

/-- `RouteCache::shortest`: the first of the live routes with the least
`hopCount`. -/
def shortest (self : RouteCache) (dstNodeId : NodeId) (now : Nat) : Option RouteEntry :=
  (self.routes.lookup dstNodeId).bind fun routes =>
    List.argmin RouteEntry.hopCount
      (routes.filter fun route => decide (now ≤ route.expiresAtMillis))

theorem held_insert (self : RouteCache) (route : RouteEntry) (d : NodeId) :
    (self.insert route).held d =
      if d = route.dstNodeId then self.held d ++ [route] else self.held d := by
  unfold held insert
  simp only [AList.lookup_insert_eq]
  split
  · next h => subst h; rfl
  · rfl

/-- The chosen route is one of those held for the destination, and it is live. -/
theorem shortest_mem {self : RouteCache} {d : NodeId} {now : Nat} {route : RouteEntry}
    (h : self.shortest d now = some route) :
    route ∈ self.held d ∧ now ≤ route.expiresAtMillis := by
  obtain ⟨routes, hroutes, hmin⟩ := Option.bind_eq_some_iff.mp h
  have hmem := List.mem_filter.mp (List.argmin_mem hmin)
  refine ⟨?_, by simpa using hmem.2⟩
  rw [held, hroutes]
  exact hmem.1

end RouteCache

/-- The key of a route request: its source and request id. -/
abbrev RequestKey := NodeId × Nat

/-- The requests a node has handled, with the time each was last seen. -/
structure SeenRequests where
  seen : HashMap RequestKey Nat := ∅
deriving DecidableEq

namespace SeenRequests

/-- `SeenRequests::prune`. -/
def prune (self : SeenRequests) (now ttlMs : Nat) : SeenRequests :=
  { seen := self.seen.retain fun _ seenAt => decide (now - seenAt ≤ ttlMs) }

/-- `SeenRequests::len`. -/
def len (self : SeenRequests) : Nat := self.seen.size

/-- The eviction order: by time, then by source, then by request id. -/
def evictionKey (entry : Sigma fun _ : RequestKey => Nat) : Nat ×ₗ Nat ×ₗ Nat :=
  toLex (entry.2, toLex (entry.1.1.toNat, entry.1.2))

/-- `SeenRequests::enforce_max_entries`. -/
def enforceMaxEntries (self : SeenRequests) (maxEntries : Nat) : SeenRequests :=
  if maxEntries = 0 then { seen := ∅ }
  else if self.len ≤ maxEntries then self
  else
    let entries := self.seen.entries.insertionSort fun a b => evictionKey a ≤ evictionKey b
    let removeCount := entries.length - maxEntries
    { seen := (entries.take removeCount).foldl (fun seen entry => seen.erase entry.1) self.seen }

/-- `SeenRequests::mark_if_new`: whether the request is new, and the cache that
remembers it. -/
def markIfNew (self : SeenRequests) (srcNodeId : NodeId) (requestId now ttlMs maxEntries : Nat) :
    SeenRequests × Bool :=
  let pruned := self.prune now ttlMs
  let isNew := (pruned.seen.lookup (srcNodeId, requestId)).isNone
  let inserted : SeenRequests := { seen := pruned.seen.insert (srcNodeId, requestId) now }
  (inserted.enforceMaxEntries maxEntries, isNew)

variable {self : SeenRequests} {maxEntries ttlMs now requestId : Nat} {srcNodeId : NodeId}

instance : Std.Total fun a b : Sigma fun _ : RequestKey => Nat => evictionKey a ≤ evictionKey b :=
  ⟨fun a b => le_total (evictionKey a) (evictionKey b)⟩

instance : IsTrans (Sigma fun _ : RequestKey => Nat)
    fun a b => evictionKey a ≤ evictionKey b :=
  ⟨fun _ _ _ => le_trans⟩

/-- The entries in eviction order. -/
def byAge (self : SeenRequests) : List (Sigma fun _ : RequestKey => Nat) :=
  self.seen.entries.insertionSort fun a b => evictionKey a ≤ evictionKey b

theorem byAge_perm (self : SeenRequests) : self.byAge.Perm self.seen.entries :=
  List.perm_insertionSort _ _

theorem byAge_keys_nodup (self : SeenRequests) : (self.byAge.map Sigma.fst).Nodup :=
  ((self.byAge_perm.map Sigma.fst).nodup_iff).mpr self.seen.nodupKeys

theorem seen_enforceMaxEntries_zero : (self.enforceMaxEntries 0).seen = ∅ := by
  simp [enforceMaxEntries]

/-- Where there is room, nothing is evicted. -/
theorem enforceMaxEntries_of_le (hmax : maxEntries ≠ 0) (hlen : self.len ≤ maxEntries) :
    self.enforceMaxEntries maxEntries = self := by
  simp [enforceMaxEntries, hmax, hlen]

/-- What eviction keeps, when there is too much: everything but the oldest. -/
theorem lookup_enforceMaxEntries (hmax : maxEntries ≠ 0) (hlen : maxEntries < self.len)
    (k : RequestKey) :
    (self.enforceMaxEntries maxEntries).seen.lookup k =
      if k ∈ (self.byAge.take (self.len - maxEntries)).map Sigma.fst then none
      else self.seen.lookup k := by
  have hlength : self.byAge.length = self.len := self.byAge_perm.length_eq
  unfold enforceMaxEntries
  rw [if_neg hmax, if_neg (by omega)]
  show AList.lookup k ((self.byAge.take (self.byAge.length - maxEntries)).foldl
    (fun seen entry => seen.erase entry.1) self.seen) = _
  rw [hlength]
  rw [AList.lookup_foldl_erase]
  congr

/-- Eviction leaves `maxEntries` entries, when there is too much. -/
theorem len_enforceMaxEntries (hmax : maxEntries ≠ 0) (hlen : maxEntries < self.len) :
    (self.enforceMaxEntries maxEntries).len = maxEntries := by
  have hlength : self.byAge.length = self.len := self.byAge_perm.length_eq
  unfold enforceMaxEntries
  rw [if_neg hmax, if_neg (by omega)]
  show AList.size ((self.byAge.take (self.byAge.length - maxEntries)).foldl
    (fun seen entry => seen.erase entry.1) self.seen) = _
  have hnodup : ((self.byAge.take (self.byAge.length - maxEntries)).map Sigma.fst).Nodup :=
    List.Nodup.sublist (List.Sublist.map _ (List.take_sublist _ _)) self.byAge_keys_nodup
  have hmem : ∀ e ∈ self.byAge.take (self.byAge.length - maxEntries), e.1 ∈ self.seen :=
    fun e he => List.mem_map_of_mem (self.byAge_perm.subset (List.mem_of_mem_take he))
  have hsize := AList.size_foldl_erase hnodup hmem
  have hseen : self.seen.size = self.len := rfl
  rw [List.length_take] at hsize
  omega

/-- Eviction only takes entries away. -/
theorem lookup_of_enforceMaxEntries {k : RequestKey} {t : Nat}
    (h : (self.enforceMaxEntries maxEntries).seen.lookup k = some t) :
    self.seen.lookup k = some t := by
  by_cases hmax : maxEntries = 0
  · rw [hmax, seen_enforceMaxEntries_zero] at h
    cases h
  · by_cases hlen : self.len ≤ maxEntries
    · rwa [enforceMaxEntries_of_le hmax hlen] at h
    · rw [lookup_enforceMaxEntries hmax (by omega)] at h
      split at h
      · cases h
      · exact h

/-- No entry has expired. -/
def Fresh (self : SeenRequests) (now ttlMs : Nat) : Prop :=
  ∀ k t, self.seen.lookup k = some t → now - t ≤ ttlMs

theorem prune_of_fresh (h : self.Fresh now ttlMs) : self.prune now ttlMs = self := by
  unfold prune
  rw [AList.retain_eq_self fun k t hk => by simpa using h k t hk]

/-- The cache with a request written into it, before eviction. -/
def marked (self : SeenRequests) (key : RequestKey) (now ttlMs : Nat) : SeenRequests :=
  { seen := (self.prune now ttlMs).seen.insert key now }

theorem markIfNew_fst :
    (self.markIfNew srcNodeId requestId now ttlMs maxEntries).1 =
      (self.marked (srcNodeId, requestId) now ttlMs).enforceMaxEntries maxEntries := rfl

theorem lookup_marked {key k : RequestKey} :
    (self.marked key now ttlMs).seen.lookup k =
      if k = key then some now else (self.prune now ttlMs).seen.lookup k :=
  AList.lookup_insert_eq

/-- Where nothing expires, marking a request the cache has keeps its size. -/
theorem len_marked_of_mem {key : RequestKey} (hfresh : self.Fresh now ttlMs)
    (hmem : key ∈ self.seen) : (self.marked key now ttlMs).len = self.len := by
  simp only [marked, prune_of_fresh hfresh]
  exact AList.size_insert_of_mem now hmem

/-- Where nothing expires, marking a request the cache lacks adds one entry. -/
theorem len_marked_of_notMem {key : RequestKey} (hfresh : self.Fresh now ttlMs)
    (hnotMem : key ∉ self.seen) : (self.marked key now ttlMs).len = self.len + 1 := by
  simp only [marked, prune_of_fresh hfresh]
  exact AList.size_insert now hnotMem

/-- What survives in the cache was in it before and had not expired, or is the
request that was just marked. -/
theorem lookup_of_marked {key k : RequestKey} {t : Nat}
    (h : (self.marked key now ttlMs).seen.lookup k = some t) :
    (k = key ∧ t = now) ∨ (self.seen.lookup k = some t ∧ now - t ≤ ttlMs) := by
  rw [lookup_marked] at h
  split at h
  · next hk =>
    cases h
    exact .inl ⟨hk, rfl⟩
  · obtain ⟨hold, hfresh⟩ := AList.lookup_retain.mp h
    exact .inr ⟨hold, by simpa using hfresh⟩

theorem mem_of_prune {k : RequestKey} (h : k ∈ (self.prune now ttlMs).seen) : k ∈ self.seen :=
  let ⟨_, hold, _⟩ := AList.mem_retain.mp h
  AList.lookup_isSome.mp (by rw [hold]; rfl)

/-- Marking a request adds its key only. -/
theorem mem_of_markIfNew {k : RequestKey}
    (h : k ∈ (self.markIfNew srcNodeId requestId now ttlMs maxEntries).1.seen) :
    k = (srcNodeId, requestId) ∨ k ∈ self.seen := by
  obtain ⟨t, ht⟩ := Option.isSome_iff_exists.mp (AList.lookup_isSome.mpr h)
  rcases lookup_of_marked (lookup_of_enforceMaxEntries ht) with ⟨hk, -⟩ | ⟨hold, -⟩
  · exact .inl hk
  · exact .inr (AList.lookup_isSome.mp (by rw [hold]; rfl))

/-- A request that is not new is in the cache. -/
theorem mem_of_markIfNew_snd
    (h : (self.markIfNew srcNodeId requestId now ttlMs maxEntries).2 = false) :
    (srcNodeId, requestId) ∈ self.seen := by
  have hsome : ((self.prune now ttlMs).seen.lookup (srcNodeId, requestId)).isNone = false := h
  have hmem : (srcNodeId, requestId) ∈ (self.prune now ttlMs).seen := by
    rw [← AList.lookup_isSome, ← Option.not_isNone, hsome]
    rfl
  exact mem_of_prune hmem

/-- The two ways in which marking a request leaves the cache as it was: nothing
expires, and either the request is in the cache with the current time and there is
room, or the cache is exactly full and the request is evicted at once, being the
oldest. -/
structure Unmoved (cache : SeenRequests) (key : RequestKey) (now ttlMs maxEntries : Nat) :
    Prop where
  fresh : cache.Fresh now ttlMs
  stays : (cache.seen.lookup key = some now ∧ cache.len ≤ maxEntries) ∨
    (cache.seen.lookup key = none ∧ cache.len = maxEntries ∧
      ∀ e ∈ cache.seen.entries, evictionKey ⟨key, now⟩ ≤ evictionKey e)

/-- If marking leaves the cache as it was, nothing in it had expired. -/
theorem fresh_of_sameMap {key : RequestKey}
    (hsame : ((self.marked key now ttlMs).enforceMaxEntries maxEntries).seen.SameMap self.seen) :
    self.Fresh now ttlMs := by
  intro k t hk
  rw [← hsame.lookup_eq k] at hk
  rcases lookup_of_marked (lookup_of_enforceMaxEntries hk) with ⟨-, rfl⟩ | ⟨-, hlive⟩
  · omega
  · exact hlive

/-- A new request that is the one entry evicted is first in the eviction order. -/
theorem least_of_evicted {key : RequestKey} (hfresh : self.Fresh now ttlMs)
    (hnone : self.seen.lookup key = none)
    (hgone : key ∈ ((self.marked key now ttlMs).byAge.take 1).map Sigma.fst) :
    ∀ e ∈ self.seen.entries, evictionKey ⟨key, now⟩ ≤ evictionKey e := by
  intro e he
  have hsorted : (self.marked key now ttlMs).byAge.Pairwise
      fun a b => evictionKey a ≤ evictionKey b :=
    List.pairwise_insertionSort _ _
  -- What the cache held is still there before the eviction.
  have hmem : e ∈ (self.marked key now ttlMs).byAge := by
    refine (byAge_perm _).symm.subset (AList.mem_entries_iff.mpr ?_)
    have hk := AList.mem_entries_iff.mp (show ⟨e.1, e.2⟩ ∈ self.seen.entries from he)
    have hne : e.1 ≠ key := by
      rintro heq
      rw [heq, hnone] at hk
      cases hk
    rw [lookup_marked, if_neg hne, prune_of_fresh hfresh]
    exact hk
  cases hage : (self.marked key now ttlMs).byAge with
  | nil =>
    rw [hage] at hmem
    cases hmem
  | cons oldest rest =>
    rw [hage] at hgone hsorted hmem
    -- The oldest entry is the request, and it carries the current time.
    have hkey : key = oldest.1 := by simpa using hgone
    have hin : ⟨oldest.1, oldest.2⟩ ∈ (self.marked key now ttlMs).seen.entries := by
      refine (byAge_perm _).subset ?_
      rw [hage]
      exact List.mem_cons_self
    have hlookup := AList.mem_entries_iff.mp hin
    rw [lookup_marked, if_pos hkey.symm] at hlookup
    have holdest : (⟨key, now⟩ : Sigma fun _ : RequestKey => Nat) = oldest :=
      Sigma.ext hkey (heq_of_eq (Option.some.inj hlookup))
    rw [holdest]
    rcases List.mem_cons.mp hmem with rfl | hrest
    · exact le_refl _
    · exact (List.pairwise_cons.mp hsorted).1 e hrest

/-- A new request that is first in the eviction order is written in front. -/
theorem byAge_marked_of_least {key : RequestKey} (hfresh : self.Fresh now ttlMs)
    (hnotMem : key ∉ self.seen)
    (hleast : ∀ e ∈ self.seen.entries, evictionKey ⟨key, now⟩ ≤ evictionKey e) :
    (self.marked key now ttlMs).byAge = ⟨key, now⟩ :: self.byAge := by
  simp only [byAge, marked, prune_of_fresh hfresh]
  rw [AList.entries_insert_of_notMem hnotMem]
  exact List.insertionSort_cons_of_forall_rel _ hleast

theorem unmoved_of_sameMap {key : RequestKey}
    (hsame : ((self.marked key now ttlMs).enforceMaxEntries maxEntries).seen.SameMap self.seen) :
    self.Unmoved key now ttlMs maxEntries := by
  have hfresh := fresh_of_sameMap hsame
  have hsize : ((self.marked key now ttlMs).enforceMaxEntries maxEntries).len = self.len :=
    hsame.size_eq
  have hgone := hsame.lookup_eq key
  refine ⟨hfresh, ?_⟩
  by_cases hmax : maxEntries = 0
  · -- Nothing is kept, so there was nothing.
    subst hmax
    have hself : self.seen.entries = [] := by
      have hperm : List.Perm _ self.seen.entries := hsame
      rw [seen_enforceMaxEntries_zero] at hperm
      exact List.nil_perm.mp hperm
    rw [seen_enforceMaxEntries_zero] at hgone
    exact .inr ⟨hgone.symm, List.length_eq_zero_iff.mpr hself, by simp [hself]⟩
  by_cases hlen : (self.marked key now ttlMs).len ≤ maxEntries
  · -- Nothing is evicted, so the request was there.
    rw [enforceMaxEntries_of_le hmax hlen] at hgone hsize
    rw [lookup_marked, if_pos rfl] at hgone
    exact .inl ⟨hgone.symm, by omega⟩
  · have hlen : maxEntries < (self.marked key now ttlMs).len := by omega
    have hfull : self.len = maxEntries := by
      rw [← hsize, len_enforceMaxEntries hmax hlen]
    -- If the request had been there, marking it would not have overfilled the cache.
    have hnotMem : key ∉ self.seen := by
      intro hmem
      have := len_marked_of_mem hfresh hmem
      omega
    have hnone : self.seen.lookup key = none := AList.lookup_eq_none.mpr hnotMem
    have hone : (self.marked key now ttlMs).len - maxEntries = 1 := by
      rw [len_marked_of_notMem hfresh hnotMem]
      omega
    refine .inr ⟨hnone, hfull, least_of_evicted hfresh hnone ?_⟩
    rw [lookup_enforceMaxEntries hmax hlen, hone, hnone, lookup_marked, if_pos rfl] at hgone
    by_contra hkept
    rw [if_neg hkept] at hgone
    cases hgone

theorem sameMap_of_unmoved {key : RequestKey} (h : self.Unmoved key now ttlMs maxEntries) :
    ((self.marked key now ttlMs).enforceMaxEntries maxEntries).seen.SameMap self.seen := by
  obtain ⟨hfresh, ⟨hnow, hroom⟩ | ⟨hnone, hfull, hleast⟩⟩ := h
  · have hmem : key ∈ self.seen := AList.lookup_isSome.mp (by rw [hnow]; rfl)
    have hmax : maxEntries ≠ 0 := by
      have hpos := AList.size_erase hmem
      have hlen : self.len = self.seen.size := rfl
      omega
    rw [enforceMaxEntries_of_le hmax (by rw [len_marked_of_mem hfresh hmem]; exact hroom)]
    refine AList.sameMap_of_lookup fun k => ?_
    rw [lookup_marked, prune_of_fresh hfresh]
    split
    · next hk => rw [hk, hnow]
    · rfl
  · have hnotMem : key ∉ self.seen := AList.lookup_eq_none.mp hnone
    by_cases hmax : maxEntries = 0
    · subst hmax
      rw [seen_enforceMaxEntries_zero]
      have hempty : self.seen.entries = [] := List.length_eq_zero_iff.mp hfull
      show List.Perm [] self.seen.entries
      rw [hempty]
    · have hsize := len_marked_of_notMem hfresh hnotMem
      have hone : (self.marked key now ttlMs).len - maxEntries = 1 := by omega
      refine AList.sameMap_of_lookup fun k => ?_
      rw [lookup_enforceMaxEntries hmax (by omega), hone,
        byAge_marked_of_least hfresh hnotMem hleast, lookup_marked, prune_of_fresh hfresh]
      -- The entry in front is the request: it goes, and the rest is untouched.
      by_cases hk : k = key
      · subst hk
        rw [hnone]
        simp
      · simp [hk]

/-- **Marking a request leaves the cache as it was exactly in these two cases.** -/
theorem markIfNew_sameMap_iff :
    ((self.markIfNew srcNodeId requestId now ttlMs maxEntries).1.seen.SameMap self.seen) ↔
      self.Unmoved (srcNodeId, requestId) now ttlMs maxEntries := by
  rw [markIfNew_fst]
  exact ⟨unmoved_of_sameMap, sameMap_of_unmoved⟩

end SeenRequests

end DlDsr
