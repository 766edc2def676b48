import DlDsr.Lib.Renumbering
import DlDsr.Node.Retention
import DlDsr.Node.Retries

/-!
# A tick in another iteration order

The snapshot that `retry_expired_discoveries` walks over comes in the order in which a hash
map iterates. This order decides which discovery gets which of the fresh request ids, and
nothing else: two ticks of the same state that visit the expired discoveries in different
orders agree up to a renaming of the fresh ids (`tick_order_irrelevant`). The closed form
of the loop carries the argument; every part of it is a count, a filter or a list over the
discoveries that fail or are retried.
-/

namespace DlDsr

/-- A packet with its request id renamed, if it is an RREQ. -/
def Packet.renameRequest (σ : Nat → Nat) : Packet → Packet
  | .rreq q => .rreq { q with requestId := σ q.requestId }
  | p => p

/-- An outbound RREQ with its request id renamed. -/
def OutboundPacket.renameRequest (σ : Nat → Nat) (o : OutboundPacket) : OutboundPacket :=
  { o with packet := o.packet.renameRequest σ }

/-- A discovery with its request id renamed. -/
def DiscoveryState.renameRequest (σ : Nat → Nat) (state : DiscoveryState) : DiscoveryState :=
  { state with requestId := σ state.requestId }

namespace ProtocolState

variable {s s' : ProtocolState}

/-- Two results of a call agree up to a renaming of request ids: the states differ in
iteration orders and in the request ids of discoveries only, the events in their order,
and the packets in their order and their request ids. -/
structure AgreesUpTo (σ : Nat → Nat) (r r' : ProtocolState × ProtocolActions) : Prop where
  config : r'.1.config = r.1.config
  neighbors : r.1.neighbors.entries.SameMap r'.1.neighbors.entries
  labels : r.1.labels.entries.SameMap r'.1.labels.entries
  routes : r.1.routes.routes.SameMap r'.1.routes.routes
  metrics : r'.1.metrics = r.1.metrics
  seenRequests : r.1.seenRequests.seen.SameMap r'.1.seenRequests.seen
  pendingData : r'.1.pendingData = r.1.pendingData
  discoveries : ∀ d, r'.1.discoveries.lookup d =
    (r.1.discoveries.lookup d).map (DiscoveryState.renameRequest σ)
  nextRequestId : r'.1.nextRequestId = r.1.nextRequestId
  nextSequence : r'.1.nextSequence = r.1.nextSequence
  events : r.2.events.Perm r'.2.events
  outbound : (r.2.outbound.map (OutboundPacket.renameRequest σ)).Perm r'.2.outbound

theorem Reorder.symm (h : s.Reorder s') : s'.Reorder s where
  config := h.config.symm
  neighbors := List.Perm.symm h.neighbors
  labels := List.Perm.symm h.labels
  routes := List.Perm.symm h.routes
  metrics := h.metrics.symm
  seenRequests := List.Perm.symm h.seenRequests
  pendingData := h.pendingData.symm
  discoveries := List.Perm.symm h.discoveries
  nextRequestId := h.nextRequestId.symm
  nextSequence := h.nextSequence.symm

theorem Reorder.trans {s'' : ProtocolState} (h : s.Reorder s') (h' : s'.Reorder s'') :
    s.Reorder s'' where
  config := h'.config.trans h.config
  neighbors := List.Perm.trans h.neighbors h'.neighbors
  labels := List.Perm.trans h.labels h'.labels
  routes := List.Perm.trans h.routes h'.routes
  metrics := h'.metrics.trans h.metrics
  seenRequests := List.Perm.trans h.seenRequests h'.seenRequests
  pendingData := h'.pendingData.trans h.pendingData
  discoveries := List.Perm.trans h.discoveries h'.discoveries
  nextRequestId := h'.nextRequestId.trans h.nextRequestId
  nextSequence := h'.nextSequence.trans h.nextSequence

/-- What the loop does not touch. -/
theorem retryLoop_frame (s : ProtocolState) (clock : Clock) (expired : List Expired) :
    s.SameTables (s.retryLoop clock expired).1 ∧
      (s.retryLoop clock expired).1.nextSequence = s.nextSequence :=
  retryLoop_induction (P := fun t => s.SameTables t ∧ t.nextSequence = s.nextSequence)
    (fun _ _ _ h => ⟨⟨h.1.config, h.1.neighbors, h.1.labels, h.1.routes⟩, h.2⟩)
    (fun _ _ _ _ h => ⟨⟨h.1.config, h.1.neighbors, h.1.labels, h.1.routes⟩, h.2⟩)
    ⟨⟨rfl, rfl, rfl, rfl⟩, rfl⟩ expired

/-! ## Another order of the snapshot -/

section Order

variable {maxRetries : Nat} {expired expired' : List Expired}

theorem keysOf_perm (h : expired.Perm expired') : (keysOf expired).Perm (keysOf expired') :=
  h.map _

theorem failing_perm (h : expired.Perm expired') :
    (failing maxRetries expired).Perm (failing maxRetries expired') := h.filter _

theorem retrying_perm (h : expired.Perm expired') :
    (retrying maxRetries expired).Perm (retrying maxRetries expired') := h.filter _

/-- The same marks in the same cache. -/
theorem markAll_sameMap {cache cache' : SeenRequests} (h : cache.seen.SameMap cache'.seen)
    (ttlMs maxEntries : Nat) (marks : List Mark) :
    (cache.markAll ttlMs maxEntries marks).seen.SameMap
      (cache'.markAll ttlMs maxEntries marks).seen := by
  induction marks generalizing cache cache' with
  | nil => exact h
  | cons m marks ih => exact ih (SeenRequests.sameMap_markIfNew h _ _ _ _ _).1

theorem droppedFor_perm {keys keys' : List NodeId} (h : keys.Perm keys')
    (pending : List PendingData) : droppedFor pending keys = droppedFor pending keys' := by
  unfold droppedFor
  simp only [h.mem_iff]

theorem floodRound_renameRequest (s : ProtocolState) (σ : Nat → Nat) (round : Round) :
    (s.floodRound round).map (OutboundPacket.renameRequest σ) =
      s.floodRound { round with requestId := σ round.requestId } := by
  unfold floodRound floodRreq
  rw [List.map_filterMap]
  refine List.filterMap_congr fun neighborId _ => ?_
  cases s.endpoint neighborId with
  | none => rfl
  | some endpoint => rfl

/-- Taken in another order, the rounds are the same up to order and request ids, given one
reading of the clock. -/
theorem floodRounds_perm (s : ProtocolState) (now requestId : Nat) {keys keys' : List NodeId}
    (hperm : keys.Perm keys') (hnodup : keys.Nodup) :
    (((roundsFrom (fun _ => now) requestId keys).flatMap s.floodRound).map
      (OutboundPacket.renameRequest (List.renumbering requestId hperm hnodup))).Perm
        ((roundsFrom (fun _ => now) requestId keys').flatMap s.floodRound) := by
  rw [roundsFrom_eq_map _ _ hnodup, roundsFrom_eq_map _ _ (hperm.nodup_iff.mp hnodup),
    List.map_flatMap, List.flatMap_map, List.flatMap_map]
  have hrenamed : ∀ d ∈ keys,
      (s.floodRound ⟨requestId + keys.idxOf d, d, now⟩).map
          (OutboundPacket.renameRequest (List.renumbering requestId hperm hnodup)) =
        s.floodRound ⟨requestId + keys'.idxOf d, d, now⟩ := by
    intro d hd
    rw [floodRound_renameRequest, List.renumbering_idxOf requestId hperm hnodup hd]
  rw [List.flatMap_congr hrenamed]
  exact hperm.flatMap_right _

/-- The discoveries after the loop: those that fail are gone, those that are retried carry
the numbers of their positions, and the others are untouched. -/
theorem retryLoop_discoveries_renamed (hs : s.Reorder s') (hnumbered : s.DiscoveriesNumbered)
    (now : Nat) (hperm : expired.Perm expired') (hnodup : (keysOf expired).Nodup)
    (hretrying : (keysOf (retrying s.config.routeDiscoveryMaxRetries expired)).Perm
      (keysOf (retrying s.config.routeDiscoveryMaxRetries expired')))
    (hretryingNodup : (keysOf (retrying s.config.routeDiscoveryMaxRetries expired)).Nodup)
    (d : NodeId) :
    (s'.retryLoop (fun _ => now) expired').1.discoveries.lookup d =
      ((s.retryLoop (fun _ => now) expired).1.discoveries.lookup d).map
        (DiscoveryState.renameRequest
          (List.renumbering s.nextRequestId hretrying hretryingNodup)) := by
  have hnodup' : (keysOf expired').Nodup := (keysOf_perm hperm).nodup_iff.mp hnodup
  by_cases hd : d ∈ keysOf expired
  · obtain ⟨state, hstate⟩ := mem_keysOf.mp hd
    by_cases hmax : s.config.routeDiscoveryMaxRetries ≤ state.retriesDone
    · have hfailing : (⟨d, state⟩ : Expired) ∈
          failing s.config.routeDiscoveryMaxRetries expired := mem_failing.mpr ⟨hstate, hmax⟩
      have hfailing' := (failing_perm hperm).subset hfailing
      rw [← hs.config] at hfailing'
      rw [retryLoop_discoveries_of_failing s _ hnodup (mem_keysOf.mpr ⟨state, hfailing⟩),
        retryLoop_discoveries_of_failing s' _ hnodup' (mem_keysOf.mpr ⟨state, hfailing'⟩)]
      rfl
    · have hretried : (⟨d, state⟩ : Expired) ∈
          retrying s.config.routeDiscoveryMaxRetries expired :=
        mem_retrying.mpr ⟨hstate, Nat.lt_of_not_le hmax⟩
      have hretried' := (retrying_perm hperm).subset hretried
      have hlookup := retryLoop_discoveries_of_retrying s (fun _ => now) hnodup hretried
      rw [← hs.config] at hretried'
      have hlookup' := retryLoop_discoveries_of_retrying s' (fun _ => now) hnodup' hretried'
      dsimp only at hlookup hlookup'
      rw [hlookup, hlookup', hs.config, hs.nextRequestId]
      -- Its number among the retried ones is renamed to its number in the other order.
      have hrename := List.renumbering_idxOf s.nextRequestId hretrying hretryingNodup
        (mem_keysOf.mpr ⟨state, hretried⟩)
      simp only [Option.map_some, DiscoveryState.renameRequest, hrename]
  · have hd' : d ∉ keysOf expired' := fun h => hd ((keysOf_perm hperm).symm.subset h)
    rw [retryLoop_discoveries_of_notMem s _ hd, retryLoop_discoveries_of_notMem s' _ hd',
      ← hs.discoveries.lookup_eq d]
    cases hlookup : s.discoveries.lookup d with
    | none => rfl
    | some state =>
      -- It was numbered before, and is not renamed.
      have hsame := List.renumbering_eq_self hretrying hretryingNodup
        (.inl (hnumbered d state hlookup))
      simp only [Option.map_some, DiscoveryState.renameRequest, hsame]

/-- The loop, from two states that differ in iteration orders only, over a snapshot in two
orders. -/
theorem retryLoop_agree (hs : s.Reorder s') (hnumbered : s.DiscoveriesNumbered) (now : Nat)
    (hperm : expired.Perm expired') (hnodup : (keysOf expired).Nodup) :
    ∃ σ : Equiv.Perm Nat,
      (∀ id, id < s.nextRequestId ∨
        (s.retryLoop (fun _ => now) expired).1.nextRequestId ≤ id → σ id = id) ∧
      AgreesUpTo σ (s.retryLoop (fun _ => now) expired)
        (s'.retryLoop (fun _ => now) expired') := by
  have hfailed : (failing s.config.routeDiscoveryMaxRetries expired).Perm
    (failing s.config.routeDiscoveryMaxRetries expired') := failing_perm hperm
  have hretried : (retrying s.config.routeDiscoveryMaxRetries expired).Perm
    (retrying s.config.routeDiscoveryMaxRetries expired') := retrying_perm hperm
  have hretrying := keysOf_perm hretried
  have hretryingNodup : (keysOf (retrying s.config.routeDiscoveryMaxRetries expired)).Nodup :=
    keysOf_retrying_nodup hnodup
  have hlength := hretried.length_eq
  have hnodup' : (keysOf expired').Nodup := (keysOf_perm hperm).nodup_iff.mp hnodup
  obtain ⟨htables, hsequence⟩ := retryLoop_frame s (fun _ => now) expired
  obtain ⟨htables', hsequence'⟩ := retryLoop_frame s' (fun _ => now) expired'
  refine ⟨List.renumbering s.nextRequestId hretrying hretryingNodup, fun id hid => ?_, ?_⟩
  · rw [retryLoop_nextRequestId_eq] at hid
    refine List.renumbering_eq_self hretrying hretryingNodup ?_
    unfold keysOf
    rw [List.length_map]
    exact hid
  · refine
      { config := ?_, neighbors := ?_, labels := ?_, routes := ?_, metrics := ?_,
        seenRequests := ?_, pendingData := ?_, discoveries := ?_, nextRequestId := ?_,
        nextSequence := ?_, events := ?_, outbound := ?_ }
    · rw [retryLoop_config, retryLoop_config, hs.config]
    · rw [htables.neighbors, htables'.neighbors]
      exact hs.neighbors
    · rw [htables.labels, htables'.labels]
      exact hs.labels
    · rw [htables.routes, htables'.routes]
      exact hs.routes
    · rw [retryLoop_metrics, retryLoop_metrics, hs.config, hs.metrics, hs.pendingData]
      dsimp only
      rw [← hlength, hfailed.length_eq, droppedFor_perm (keysOf_perm hfailed)]
    · rw [retryLoop_seenRequests, retryLoop_seenRequests, markedBy, markedBy,
        retryLoop_nextRequestId_eq, retryLoop_nextRequestId_eq, hs.config, hs.nextRequestId,
        ← hlength]
      exact markAll_sameMap hs.seenRequests _ _ _
    · rw [retryLoop_pendingData, retryLoop_pendingData, hs.config, hs.pendingData]
      simp only [(keysOf_perm hfailed).mem_iff]
    · exact retryLoop_discoveries_renamed hs hnumbered now hperm hnodup hretrying hretryingNodup
    · rw [retryLoop_nextRequestId_eq, retryLoop_nextRequestId_eq, hs.config, hs.nextRequestId,
        ← hlength]
    · rw [hsequence, hsequence', hs.nextSequence]
    · rw [retryLoop_events_eq s _ hnodup, retryLoop_events_eq s' _ hnodup', hs.config,
        hs.pendingData]
      exact hfailed.flatMap_right _
    · have hflood : s'.floodRound = s.floodRound := funext (floodRound_of_config hs.config)
      rw [retryLoop_outbound_eq, retryLoop_outbound_eq, hflood, hs.config, hs.nextRequestId]
      exact floodRounds_perm s now s.nextRequestId hretrying hretryingNodup

end Order

/-! ## A tick -/

/-- Pruning the duplicate cache does not depend on the order either. -/
theorem Reorder.pruned (h : s.Reorder s') (now : Nat) :
    (s.pruned now).Reorder (s'.pruned now) := by
  refine { h with seenRequests := ?_ }
  show AList.SameMap (s.seenRequests.prune now s.config.seenRequestTtlMs).seen
    (s'.seenRequests.prune now s'.config.seenRequestTtlMs).seen
  rw [h.config]
  exact SeenRequests.sameMap_prune h.seenRequests

/-- **A tick does not depend on the order of iteration.** For every reachable state and any
two orders in which its hash maps may iterate: with one reading of the clock, the two ticks
agree up to the order of events and packets and a permutation of the request ids that
leaves all but the fresh ones alone. -/
theorem tick_order_irrelevant {config : NodeConfig} {s₁ s₂ : ProtocolState}
    (hreach : ReachableFrom config s) (h₁ : s.Reorder s₁) (h₂ : s.Reorder s₂)
    (reading now : Nat) :
    ∃ σ : Equiv.Perm Nat,
      (∀ id, id < s.nextRequestId ∨
        (s₁.handleTick (fun _ => reading) now).1.nextRequestId ≤ id → σ id = id) ∧
      AgreesUpTo σ (s₁.handleTick (fun _ => reading) now)
        (s₂.handleTick (fun _ => reading) now) := by
  have hs := h₁.symm.trans h₂
  have hnumbered : s₁.DiscoveriesNumbered := (hreach.reorder h₁).discoveriesNumbered
  -- The two snapshots are taken from the same entries, against the same timeout.
  have hsnapshot : (s₁.expiredDiscoveries now).Perm (s₂.expiredDiscoveries now) := by
    unfold expiredDiscoveries
    rw [hs.config]
    exact List.Perm.filter _ hs.discoveries
  rw [← h₁.nextRequestId]
  exact retryLoop_agree (hs.pruned now) hnumbered reading hsnapshot
    (s₁.expiredDiscoveries_nodup now)

/-- Node 0 with its neighbour node 1, after commands for nodes 8 and 9. -/
def twoDiscoveries : ProtocolState :=
  let config : NodeConfig :=
    { NodeConfig.testSettings .dsr with
      topology := ⟨[⟨0, .localhost 7000, [1]⟩, ⟨1, .localhost 7001, [0]⟩]⟩ }
  let first := (new config).call (fun _ => 5) (.command (.discoverAndSend 8 [1]))
  (first.1.call (fun _ => 6) (.command (.discoverAndSend 9 [2]))).1

/-- Both discoveries expire, and are visited in either order. -/
theorem tick_order_irrelevant_two :
    ∃ (s₂ : ProtocolState) (σ : Equiv.Perm Nat),
      s₂.discoveries.entries = twoDiscoveries.discoveries.entries.reverse ∧
      (twoDiscoveries.expiredDiscoveries 5000).length = 2 ∧
      AgreesUpTo σ (twoDiscoveries.handleTick (fun _ => 5000) 5000)
        (s₂.handleTick (fun _ => 5000) 5000) := by
  have hreverse : twoDiscoveries.discoveries.entries.Perm
      twoDiscoveries.discoveries.entries.reverse := (List.reverse_perm _).symm
  have hnodup := (List.perm_nodupKeys hreverse).mp twoDiscoveries.discoveries.nodupKeys
  have hreach : ReachableFrom twoDiscoveries.config twoDiscoveries :=
    .call _ _ (.call _ _ .new)
  have hsame : twoDiscoveries.Reorder twoDiscoveries :=
    ⟨rfl, .refl _, .refl _, .refl _, rfl, .refl _, rfl, .refl _, rfl, rfl⟩
  have hreversed : twoDiscoveries.Reorder { twoDiscoveries with
      discoveries := ⟨twoDiscoveries.discoveries.entries.reverse, hnodup⟩ } :=
    ⟨rfl, .refl _, .refl _, .refl _, rfl, .refl _, rfl, hreverse, rfl, rfl⟩
  obtain ⟨σ, -, hagree⟩ := tick_order_irrelevant hreach hsame hreversed 5000 5000
  exact ⟨_, σ, rfl, by decide, hagree⟩

end ProtocolState

end DlDsr
