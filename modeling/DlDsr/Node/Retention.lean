import DlDsr.Core.Recall
import DlDsr.Node.Requests

/-!
# When the duplicate cache retains everything

A call makes a number of marks in the duplicate cache (`marks`), and a tick lets it
expire before. If the clock readings that the cache is given lie within its time to
live of each other and the keys that it is given fit into it, then it retains what it
has seen (`Within.retains`). The readings need not increase: an entry only
expires when a reading is far above its own.
-/

namespace DlDsr

namespace SeenRequests

variable {self : SeenRequests} {keys : Finset RequestKey} {times : Set Nat}
  {now ttlMs maxEntries : Nat} {key : RequestKey} {marks : List Mark}

/-- The cache holds no keys but those of `keys`, and no times but those of `times`. -/
structure Within (cache : SeenRequests) (keys : Finset RequestKey) (times : Set Nat) : Prop where
  key : ∀ k ∈ cache.seen, k ∈ keys
  time : ∀ k t, cache.seen.lookup k = some t → t ∈ times

theorem Within.empty : Within {} keys times where
  key k hk := absurd hk (AList.notMem_empty k)
  time _ _ h := absurd h (by simp)

theorem Within.reorder {other : SeenRequests} (h : self.Within keys times)
    (hsame : self.seen.SameMap other.seen) : other.Within keys times := by
  refine ⟨fun k hk => h.key k ?_, fun k t hk => h.time k t ?_⟩
  · exact (AList.mem_of_perm hsame).mpr hk
  · rwa [hsame.lookup_eq k]

/-- Marks that are made one after the other. -/
def markAll (ttlMs maxEntries : Nat) (self : SeenRequests) (marks : List Mark) : SeenRequests :=
  marks.foldl (fun cache mark =>
    (cache.markIfNew mark.key.1 mark.key.2 mark.now ttlMs maxEntries).1) self

section Room

variable (hroom : keys.card ≤ maxEntries) (hwindow : ∀ t ∈ times, ∀ t' ∈ times, t - t' ≤ ttlMs)

include hwindow

/-- Nothing has expired. -/
theorem Within.fresh (h : self.Within keys times) (hnow : now ∈ times) : self.Fresh now ttlMs :=
  fun k t hk => hwindow now hnow t (h.time k t hk)

/-- A key that the cache has is recognized. -/
theorem Within.recognized (h : self.Within keys times) (hnow : now ∈ times)
    (hmem : key ∈ self.seen) :
    (self.markIfNew key.1 key.2 now ttlMs maxEntries).2 = false := by
  show Option.isNone (AList.lookup key (self.prune now ttlMs).seen) = false
  rw [prune_of_fresh (h.fresh hwindow hnow)]
  obtain ⟨t, ht⟩ := Option.isSome_iff_exists.mp (AList.lookup_isSome.mpr hmem)
  rw [ht]
  rfl

include hroom

/-- Marking a key writes it, and does nothing else. -/
theorem Within.lookup_mark (h : self.Within keys times) (hkey : key ∈ keys) (hnow : now ∈ times)
    (k : RequestKey) :
    (self.markIfNew key.1 key.2 now ttlMs maxEntries).1.seen.lookup k =
      if k = key then some now else self.seen.lookup k := by
  have hlookup : ∀ k, (self.marked key now ttlMs).seen.lookup k =
      if k = key then some now else self.seen.lookup k := by
    intro k
    rw [lookup_marked, prune_of_fresh (h.fresh hwindow hnow)]
  -- All keys are in `keys`, so there is room for them.
  have hlen : (self.marked key now ttlMs).len ≤ maxEntries := by
    refine (AList.size_le_card fun k hk => ?_).trans hroom
    rw [← AList.lookup_isSome, hlookup k] at hk
    split at hk
    · next heq => rwa [heq]
    · exact h.key k (AList.lookup_isSome.mp hk)
  have hmax : maxEntries ≠ 0 := by
    have hpos := Finset.card_pos.mpr ⟨key, hkey⟩
    omega
  rw [markIfNew_fst, enforceMaxEntries_of_le hmax hlen]
  exact hlookup k

theorem Within.mark (h : self.Within keys times) (hkey : key ∈ keys) (hnow : now ∈ times) :
    (self.markIfNew key.1 key.2 now ttlMs maxEntries).1.Within keys times := by
  have hlookup := h.lookup_mark hroom hwindow hkey hnow
  constructor
  · intro k hk
    rw [← AList.lookup_isSome, hlookup k] at hk
    split at hk
    · next heq => rwa [heq]
    · exact h.key k (AList.lookup_isSome.mp hk)
  · intro k t hk
    rw [hlookup k] at hk
    split at hk
    · exact Option.some.inj hk ▸ hnow
    · exact h.time k t hk

/-- After a number of marks, the cache has what it had, and what was marked. -/
theorem Within.markAll (h : self.Within keys times) (hkeys : ∀ m ∈ marks, m.key ∈ keys)
    (htimes : ∀ m ∈ marks, m.now ∈ times) :
    (self.markAll ttlMs maxEntries marks).Within keys times ∧
      ∀ k, k ∈ self.seen ∨ (∃ m ∈ marks, m.key = k) →
        k ∈ (self.markAll ttlMs maxEntries marks).seen := by
  induction marks generalizing self with
  | nil => exact ⟨h, fun k hk => hk.resolve_right (by simp)⟩
  | cons mark marks ih =>
    have hkey := hkeys mark List.mem_cons_self
    have hnow := htimes mark List.mem_cons_self
    obtain ⟨hwithin, hseen⟩ := ih (h.mark hroom hwindow hkey hnow)
      (fun m hm => hkeys m (List.mem_cons_of_mem _ hm))
      (fun m hm => htimes m (List.mem_cons_of_mem _ hm))
    refine ⟨hwithin, fun k hk => hseen k ?_⟩
    rw [← AList.lookup_isSome, h.lookup_mark hroom hwindow hkey hnow k]
    by_cases heq : k = mark.key
    · rw [if_pos heq]
      exact .inl rfl
    · rw [if_neg heq]
      rcases hk with hk | ⟨m, hm, hmk⟩
      · exact .inl (AList.lookup_isSome.mpr hk)
      · rcases List.mem_cons.mp hm with rfl | hm
        · exact absurd hmk.symm heq
        · exact .inr ⟨m, hm, hmk⟩

end Room

end SeenRequests

namespace ProtocolState

variable {s : ProtocolState} {clock : Clock} {input : Input}

/-- The marks of `count` discoveries started one after the other. -/
def discoveryMarks (nodeId : NodeId) (clock : Clock) (requestId : Nat) : Nat → List Mark
  | 0 => []
  | count + 1 =>
    ⟨(nodeId, requestId), clock 0⟩ :: discoveryMarks nodeId (clock.later 1) (requestId + 1) count

theorem mem_discoveryMarks {nodeId : NodeId} {requestId count : Nat} {key : RequestKey}
    (hid : key.1 = nodeId) (hlow : requestId ≤ key.2) (hhigh : key.2 < requestId + count) :
    ∃ m ∈ discoveryMarks nodeId clock requestId count, m.key = key := by
  induction count generalizing clock requestId with
  | zero => omega
  | succ count ih =>
    by_cases hfirst : key.2 = requestId
    · exact ⟨_, List.mem_cons_self, Prod.ext hid.symm hfirst.symm⟩
    · have hrest : ∃ m ∈ discoveryMarks nodeId (clock.later 1) (requestId + 1) count,
          m.key = key := ih (by omega) (by omega)
      obtain ⟨m, hm, hkey⟩ := hrest
      exact ⟨m, List.mem_cons_of_mem _ hm, hkey⟩

/-- The number of discoveries that a call starts. -/
def discoveriesStarted (s : ProtocolState) (clock : Clock) (input : Input) : Nat :=
  (s.call clock input).1.nextRequestId - s.nextRequestId

/-- The marks that a call makes in the duplicate cache. -/
def marks (s : ProtocolState) (clock : Clock) : Input → List Mark
  | .packet (.rreq q) _ => if s.Admits q then [⟨q.key, clock 0⟩] else []
  | .packet _ _ => []
  | .command c =>
    discoveryMarks s.config.nodeId (clock.later 1) s.nextRequestId
      (s.discoveriesStarted clock (.command c))
  | .tick now =>
    discoveryMarks s.config.nodeId clock s.nextRequestId (s.discoveriesStarted clock (.tick now))
  | .hello => []

/-- The clock readings that a call gives to the duplicate cache. -/
def cacheReadings (s : ProtocolState) (clock : Clock) (input : Input) : List Nat :=
  (match input with
    | .tick now => [now]
    | _ => []) ++ (s.marks clock input).map Mark.now

/-- The cache with the marks of a call. -/
def markedBy (s : ProtocolState) (cache : SeenRequests) (marks : List Mark) : SeenRequests :=
  cache.markAll s.config.seenRequestTtlMs s.config.seenRequestMaxEntries marks

theorem retryLoop_seenRequests (s : ProtocolState) (clock : Clock)
    (expired : List (Sigma fun _ : NodeId => DiscoveryState)) :
    (s.retryLoop clock expired).1.seenRequests =
      s.markedBy s.seenRequests (discoveryMarks s.config.nodeId clock s.nextRequestId
        ((s.retryLoop clock expired).1.nextRequestId - s.nextRequestId)) := by
  induction expired generalizing s clock with
  | nil =>
    show s.seenRequests = s.markedBy s.seenRequests
      (discoveryMarks s.config.nodeId clock s.nextRequestId (s.nextRequestId - s.nextRequestId))
    rw [Nat.sub_self]
    rfl
  | cons entry expired ih =>
    obtain ⟨dst, state⟩ := entry
    simp only [retryLoop]
    split
    · exact ih (s.failDiscovery dst state).1 clock
    · -- The discovery takes a number, and the rest of the loop the numbers above it.
      have hstep := ih (s.startDiscovery clock dst (state.retriesDone + 1)).1 (clock.later 1)
      have hcounter : (s.startDiscovery clock dst (state.retriesDone + 1)).1.nextRequestId ≤
          ((s.startDiscovery clock dst (state.retriesDone + 1)).1.retryLoop (clock.later 1)
            expired).1.nextRequestId := retryLoop_nextRequestId expired
      have hnext : (s.startDiscovery clock dst (state.retriesDone + 1)).1.nextRequestId =
        s.nextRequestId + 1 := rfl
      rw [hnext] at hcounter hstep
      obtain ⟨count, hcount⟩ := Nat.exists_eq_add_of_le hcounter
      rw [hcount, Nat.add_sub_cancel_left] at hstep
      rw [hcount, Nat.add_assoc, Nat.add_sub_cancel_left, Nat.add_comm 1 count]
      exact hstep

/-- A call does nothing to the duplicate cache but make its marks, after the expiry of a
tick. -/
theorem call_seenRequests (s : ProtocolState) (clock : Clock) (input : Input) :
    (s.call clock input).1.seenRequests = s.markedBy
      (match input with
        | .tick now => s.seenRequests.prune now s.config.seenRequestTtlMs
        | _ => s.seenRequests) (s.marks clock input) := by
  cases input with
  | hello => rfl
  | tick now => exact retryLoop_seenRequests _ clock _
  | command c =>
    obtain ⟨dst, payload⟩ := c
    have hcall : s.call clock (.command (.discoverAndSend dst payload)) =
      s.discoverAndSend clock dst payload := rfl
    simp only [marks, discoveriesStarted]
    rw [hcall]
    rcases discoverAndSend_cases s clock dst payload with
      ⟨route, -, heq⟩ | ⟨-, -, heq⟩ | ⟨-, -, heq⟩
    · obtain ⟨m, hm⟩ := originData_state s (clock.later 1) dst payload route
      rw [heq, hm]
      show s.seenRequests = s.markedBy s.seenRequests
        (discoveryMarks _ _ _ (s.nextRequestId - s.nextRequestId))
      rw [Nat.sub_self]
      rfl
    · rw [heq]
      show s.seenRequests = s.markedBy s.seenRequests
        (discoveryMarks _ _ _ (s.nextRequestId - s.nextRequestId))
      rw [Nat.sub_self]
      rfl
    · rw [heq]
      show _ = s.markedBy s.seenRequests
        (discoveryMarks _ _ _ (s.nextRequestId + 1 - s.nextRequestId))
      rw [Nat.add_sub_cancel_left]
      rfl
  | packet packet sender =>
    cases packet with
    | rreq q =>
      show (s.handleRreq clock q).1.seenRequests =
        s.markedBy s.seenRequests (if s.Admits q then [⟨q.key, clock 0⟩] else [])
      rcases handleRreq_state s clock q with ⟨hrefused, m, heq⟩ | ⟨hadmits, m, heq⟩
      · rw [heq, if_neg hrefused]
        rfl
      · rw [heq, if_pos hadmits]
        rfl
    | _ =>
      refine (handlePacket_seenRequests s clock _ sender).resolve_right ?_
      rintro ⟨q, heq, -⟩
      cases heq

/-- A discovery that is started is marked. -/
theorem StartedBy.mem_marks {key : RequestKey} (h : s.StartedBy (s.call clock input).1 key) :
    ∃ m ∈ s.marks clock input, m.key = key := by
  have hinput := h.input
  obtain ⟨hid, hlow, hhigh⟩ := h
  have hcount : key.2 < s.nextRequestId + s.discoveriesStarted clock input := by
    unfold discoveriesStarted
    omega
  rcases hinput with ⟨c, rfl⟩ | ⟨now, rfl⟩
  · exact mem_discoveryMarks hid hlow hcount
  · exact mem_discoveryMarks hid hlow hcount

end ProtocolState

open ProtocolState in
/-- **A cache that is given clock readings close to each other, and no more keys than it
has room for, retains what it has seen.** -/
theorem SeenRequests.Within.retains {s : ProtocolState} {clock : Clock} {input : Input}
    {keys : Finset RequestKey} {times : Set Nat} (h : s.seenRequests.Within keys times)
    (hroom : keys.card ≤ s.config.seenRequestMaxEntries)
    (hwindow : ∀ t ∈ times, ∀ t' ∈ times, t - t' ≤ s.config.seenRequestTtlMs)
    (hkeys : ∀ m ∈ s.marks clock input, m.key ∈ keys)
    (htimes : ∀ t ∈ s.cacheReadings clock input, t ∈ times) :
    (s.call clock input).1.seenRequests.Within keys times ∧ s.Retains clock input := by
  have hmarked : ∀ m ∈ s.marks clock input, m.now ∈ times :=
    fun m hm => htimes _ (List.mem_append_right _ (List.mem_map_of_mem hm))
  -- The expiry of a tick takes nothing away.
  have hcache : (s.call clock input).1.seenRequests =
      s.markedBy s.seenRequests (s.marks clock input) := by
    rw [call_seenRequests]
    cases input with
    | tick now =>
      have hnow : now ∈ times := htimes now (List.mem_append_left _ List.mem_cons_self)
      exact congrArg (s.markedBy · _) (prune_of_fresh (h.fresh hwindow hnow))
    | _ => rfl
  obtain ⟨hwithin, hseen⟩ := h.markAll hroom hwindow hkeys hmarked
  rw [← markedBy, ← hcache] at hwithin hseen
  refine ⟨hwithin, fun key hkey => hseen key (.inl hkey),
    fun key hstarted => hseen key (.inr hstarted.mem_marks), ?_, ?_⟩
  · rintro q sender rfl ha
    refine hseen _ (.inr ⟨⟨q.key, clock 0⟩, ?_, rfl⟩)
    simp [marks, ha]
  · rintro q sender rfl ha hmem
    refine h.recognized hwindow (hmarked ⟨q.key, clock 0⟩ ?_) hmem
    simp [marks, ha]

end DlDsr
