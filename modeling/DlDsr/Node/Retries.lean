import DlDsr.Node.Effects

/-!
# The retry loop in closed form

`retry_expired_discoveries` walks over a snapshot of the expired discoveries and changes
counters, queue and discoveries as it goes. Because every destination occurs in the
snapshot once, what it does to one of them does not interfere with the others: the
discoveries that have no retry left fail, the others get the next request ids in the order
in which they are visited. The lemmas say so for each part of the state and of the
actions, for every state, snapshot and clock.
-/

namespace DlDsr

/-- An entry of `discoveries`, as the snapshot holds it. -/
abbrev Expired := Sigma fun _ : NodeId => DiscoveryState

/-- The entries that have used up their retries. -/
def failing (maxRetries : Nat) (expired : List Expired) : List Expired :=
  expired.filter fun entry => decide (maxRetries ≤ entry.2.retriesDone)

/-- The entries that are retried. -/
def retrying (maxRetries : Nat) (expired : List Expired) : List Expired :=
  expired.filter fun entry => !decide (maxRetries ≤ entry.2.retriesDone)

/-- The destinations of some entries. -/
def keysOf (expired : List Expired) : List NodeId := expired.map Sigma.fst

variable {maxRetries : Nat} {expired : List Expired} {entry : Expired}

theorem failing_cons_of_le (h : maxRetries ≤ entry.2.retriesDone) :
    failing maxRetries (entry :: expired) = entry :: failing maxRetries expired :=
  List.filter_cons_of_pos (by simpa using h)

theorem failing_cons_of_not_le (h : ¬ maxRetries ≤ entry.2.retriesDone) :
    failing maxRetries (entry :: expired) = failing maxRetries expired :=
  List.filter_cons_of_neg (by simpa using h)

theorem retrying_cons_of_le (h : maxRetries ≤ entry.2.retriesDone) :
    retrying maxRetries (entry :: expired) = retrying maxRetries expired :=
  List.filter_cons_of_neg (by simpa using h)

theorem retrying_cons_of_not_le (h : ¬ maxRetries ≤ entry.2.retriesDone) :
    retrying maxRetries (entry :: expired) = entry :: retrying maxRetries expired :=
  List.filter_cons_of_pos (by simpa using h)

theorem mem_failing : entry ∈ failing maxRetries expired ↔
    entry ∈ expired ∧ maxRetries ≤ entry.2.retriesDone := by
  simp [failing]

theorem mem_retrying : entry ∈ retrying maxRetries expired ↔
    entry ∈ expired ∧ entry.2.retriesDone < maxRetries := by
  simp [retrying]

theorem mem_keysOf {d : NodeId} : d ∈ keysOf expired ↔ ∃ state, ⟨d, state⟩ ∈ expired := by
  unfold keysOf
  rw [List.mem_map]
  constructor
  · rintro ⟨⟨d, state⟩, hmem, rfl⟩
    exact ⟨state, hmem⟩
  · rintro ⟨state, hmem⟩
    exact ⟨_, hmem, rfl⟩

theorem mem_keysOf_retrying {d : NodeId} (h : d ∈ keysOf (retrying maxRetries expired)) :
    d ∈ keysOf expired := by
  obtain ⟨state, hmem⟩ := mem_keysOf.mp h
  exact mem_keysOf.mpr ⟨state, (mem_retrying.mp hmem).1⟩

theorem keysOf_retrying_nodup (h : (keysOf expired).Nodup) :
    (keysOf (retrying maxRetries expired)).Nodup :=
  List.Nodup.sublist (List.Sublist.map _ List.filter_sublist) h

/-- An entry of a snapshot without repetitions either fails or is retried. -/
theorem keysOf_disjoint (hnodup : (keysOf expired).Nodup) {d : NodeId}
    (hfailing : d ∈ keysOf (failing maxRetries expired)) :
    d ∉ keysOf (retrying maxRetries expired) := by
  intro hretrying
  obtain ⟨state, hstate⟩ := mem_keysOf.mp hfailing
  obtain ⟨state', hstate'⟩ := mem_keysOf.mp hretrying
  obtain ⟨hmem, hle⟩ := mem_failing.mp hstate
  obtain ⟨hmem', hlt⟩ := mem_retrying.mp hstate'
  have hsame := List.inj_on_of_nodup_map hnodup hmem hmem' rfl
  cases hsame
  omega

/-- A round of a route discovery: the RREQs that one `start_discovery` floods. -/
structure Round where
  requestId : Nat
  dstNodeId : NodeId
  sentAtMillis : Nat
deriving DecidableEq

/-- One round for each destination, the first of which carries `requestId`. -/
def roundsFrom (clock : Clock) (requestId : Nat) : List NodeId → List Round
  | [] => []
  | dstNodeId :: rest =>
    ⟨requestId, dstNodeId, clock 0⟩ :: roundsFrom (clock.later 1) (requestId + 1) rest

/-- The round of a destination is determined by its position. -/
theorem roundsFrom_eq_map (clock : Clock) (requestId : Nat) {keys : List NodeId}
    (hnodup : keys.Nodup) :
    roundsFrom clock requestId keys =
      keys.map fun d => ⟨requestId + keys.idxOf d, d, clock (keys.idxOf d)⟩ := by
  induction keys generalizing clock requestId with
  | nil => rfl
  | cons dst keys ih =>
    obtain ⟨hnotMem, hnodup⟩ := List.nodup_cons.mp hnodup
    rw [List.map_cons, List.idxOf_cons_self]
    show _ :: roundsFrom (clock.later 1) (requestId + 1) keys = _
    rw [ih (clock.later 1) (requestId + 1) hnodup]
    refine congrArg _ (List.map_congr_left fun d hd => ?_)
    have hne : dst ≠ d := fun heq => hnotMem (heq ▸ hd)
    rw [List.idxOf_cons_ne _ hne, Nat.add_assoc, Nat.add_comm 1]
    rfl

namespace ProtocolState

variable {s : ProtocolState}

/-- The events of a failing discovery, given the queue. -/
def failureEvents (nodeId : NodeId) (pending : List PendingData) (entry : Expired) :
    List ProtocolEvent :=
  .routeDiscoveryFailed nodeId entry.1 (entry.2.retriesDone + 1) ::
    if 0 < pending.countP fun p => p.dstNodeId == entry.1 then
      [.dataDropped nodeId entry.1 "route discovery failed"] else []

/-- How many payloads the failing discoveries take with them. -/
def droppedFor (pending : List PendingData) (keys : List NodeId) : Nat :=
  pending.countP fun p => decide (p.dstNodeId ∈ keys)

theorem failDiscovery_events (s : ProtocolState) (entry : Expired) :
    (s.failDiscovery entry.1 entry.2).2.events =
      failureEvents s.config.nodeId s.pendingData entry := rfl

/-! ## Queue, counters and request ids -/

theorem retryLoop_config (s : ProtocolState) (clock : Clock) (expired : List Expired) :
    (s.retryLoop clock expired).1.config = s.config :=
  retryLoop_induction (P := fun t => t.config = s.config) (fun _ _ _ h => h)
    (fun _ _ _ _ h => h) rfl expired

/-- What the loop leaves in the queue. -/
theorem retryLoop_pendingData (s : ProtocolState) (clock : Clock) (expired : List Expired) :
    (s.retryLoop clock expired).1.pendingData = s.pendingData.filter fun p =>
      decide (p.dstNodeId ∉ keysOf (failing s.config.routeDiscoveryMaxRetries expired)) := by
  induction expired generalizing s clock with
  | nil => exact (List.filter_eq_self.mpr fun p _ => by simp [failing, keysOf]).symm
  | cons entry expired ih =>
    by_cases hmax : s.config.routeDiscoveryMaxRetries ≤ entry.2.retriesDone
    · rw [retryLoop_cons_of_le s clock expired hmax, ih]
      show List.filter _ (s.pendingData.filter fun p => p.dstNodeId != entry.1) = _
      rw [List.filter_filter, failing_cons_of_le hmax]
      refine List.filter_congr fun p _ => ?_
      show (decide (p.dstNodeId ∉ keysOf (failing _ expired)) && _) =
        decide (p.dstNodeId ∉ entry.1 :: keysOf (failing _ expired))
      by_cases hp : p.dstNodeId = entry.1
      · simp [hp]
      · simp [hp, failDiscovery, dropPendingForDst]
    · rw [retryLoop_cons_of_not_le s clock expired hmax, ih, failing_cons_of_not_le hmax]
      rfl

theorem retryLoop_nextRequestId_eq (s : ProtocolState) (clock : Clock) (expired : List Expired) :
    (s.retryLoop clock expired).1.nextRequestId =
      s.nextRequestId + (retrying s.config.routeDiscoveryMaxRetries expired).length := by
  induction expired generalizing s clock with
  | nil => rfl
  | cons entry expired ih =>
    by_cases hmax : s.config.routeDiscoveryMaxRetries ≤ entry.2.retriesDone
    · rw [retryLoop_cons_of_le s clock expired hmax, ih, retrying_cons_of_le hmax]
      rfl
    · rw [retryLoop_cons_of_not_le s clock expired hmax, ih, retrying_cons_of_not_le hmax,
        List.length_cons]
      show s.nextRequestId + 1 +
        (retrying s.config.routeDiscoveryMaxRetries expired).length = _
      omega

/-- Taking one destination out of the queue does not change what others wait for. -/
theorem countP_filter_ne {dst d : NodeId} (hne : d ≠ dst) (pending : List PendingData) :
    (pending.filter fun p => p.dstNodeId != dst).countP (fun p => p.dstNodeId == d) =
      pending.countP fun p => p.dstNodeId == d := by
  rw [List.countP_filter]
  refine List.countP_congr fun p _ => ?_
  by_cases hp : p.dstNodeId = d
  · simp [hp, hne]
  · simp [hp]

/-- Payloads are dropped destination by destination. -/
theorem droppedFor_cons (pending : List PendingData) (dst : NodeId) (keys : List NodeId) :
    droppedFor pending (dst :: keys) =
      pending.countP (fun p => p.dstNodeId == dst) +
        droppedFor (pending.filter fun p => p.dstNodeId != dst) keys := by
  induction pending with
  | nil => rfl
  | cons p pending ih =>
    unfold droppedFor at ih ⊢
    by_cases hp : p.dstNodeId = dst
    · rw [List.countP_cons_of_pos (by simp [hp]), List.countP_cons_of_pos (by simp [hp]),
        List.filter_cons_of_neg (by simp [hp]), ih]
      omega
    · rw [List.countP_cons_of_neg (a := p) (p := fun q => q.dstNodeId == dst) (by simp [hp]),
        List.filter_cons_of_pos (by simp [hp])]
      by_cases hkeys : p.dstNodeId ∈ keys
      · rw [List.countP_cons_of_pos (by simp [hkeys]), List.countP_cons_of_pos (by simp [hkeys]),
          ih]
        omega
      · rw [List.countP_cons_of_neg (by simp [hp, hkeys]),
          List.countP_cons_of_neg (by simp [hkeys]), ih]

/-- What the loop counts. -/
theorem retryLoop_metrics (s : ProtocolState) (clock : Clock) (expired : List Expired) :
    (s.retryLoop clock expired).1.metrics =
      let failed := failing s.config.routeDiscoveryMaxRetries expired
      { s.metrics with
        routeDiscoveryAttempts := s.metrics.routeDiscoveryAttempts +
          (retrying s.config.routeDiscoveryMaxRetries expired).length
        routeDiscoveryFailures := s.metrics.routeDiscoveryFailures + failed.length
        droppedPackets := s.metrics.droppedPackets + droppedFor s.pendingData (keysOf failed)
        dataDropped := s.metrics.dataDropped + droppedFor s.pendingData (keysOf failed) } := by
  induction expired generalizing s clock with
  | nil =>
    have hnone : droppedFor s.pendingData [] = 0 := by
      unfold droppedFor
      exact List.countP_eq_zero.mpr fun p _ => by simp
    simp only [retryLoop, failing, retrying, keysOf, List.filter_nil, List.map_nil,
      List.length_nil, Nat.add_zero, hnone]
  | cons entry expired ih =>
    by_cases hmax : s.config.routeDiscoveryMaxRetries ≤ entry.2.retriesDone
    · rw [retryLoop_cons_of_le s clock expired hmax, ih, failing_cons_of_le hmax,
        retrying_cons_of_le hmax]
      have hdropped := droppedFor_cons s.pendingData entry.1
        (keysOf (failing s.config.routeDiscoveryMaxRetries expired))
      simp only [failDiscovery, dropPendingForDst, keysOf, List.map_cons, List.length_cons,
        NodeMetrics.mk.injEq, true_and] at hdropped ⊢
      refine ⟨?_, ?_, ?_⟩ <;> omega
    · rw [retryLoop_cons_of_not_le s clock expired hmax, ih, failing_cons_of_not_le hmax,
        retrying_cons_of_not_le hmax]
      simp only [startDiscovery, List.length_cons, NodeMetrics.mk.injEq, true_and, and_true]
      omega

/-! ## Discoveries -/

/-- The loop does not touch other discoveries. -/
theorem retryLoop_discoveries_of_notMem (s : ProtocolState) (clock : Clock)
    {expired : List Expired} {d : NodeId} (hd : d ∉ keysOf expired) :
    (s.retryLoop clock expired).1.discoveries.lookup d = s.discoveries.lookup d := by
  induction expired generalizing s clock with
  | nil => rfl
  | cons entry expired ih =>
    obtain ⟨hne, hd⟩ := List.ne_and_not_mem_of_not_mem_cons hd
    by_cases hmax : s.config.routeDiscoveryMaxRetries ≤ entry.2.retriesDone
    · rw [retryLoop_cons_of_le s clock expired hmax, ih _ _ hd]
      exact AList.lookup_erase_ne hne
    · rw [retryLoop_cons_of_not_le s clock expired hmax, ih _ _ hd]
      exact AList.lookup_insert_ne hne

/-- A failing discovery is gone. -/
theorem retryLoop_discoveries_of_failing (s : ProtocolState) (clock : Clock)
    {expired : List Expired} (hnodup : (keysOf expired).Nodup) {d : NodeId}
    (hd : d ∈ keysOf (failing s.config.routeDiscoveryMaxRetries expired)) :
    (s.retryLoop clock expired).1.discoveries.lookup d = none := by
  induction expired generalizing s clock with
  | nil => cases hd
  | cons entry expired ih =>
    obtain ⟨hnotMem, hnodup⟩ := List.nodup_cons.mp hnodup
    by_cases hmax : s.config.routeDiscoveryMaxRetries ≤ entry.2.retriesDone
    · rw [retryLoop_cons_of_le s clock expired hmax]
      rw [failing_cons_of_le hmax] at hd
      rcases List.mem_cons.mp hd with rfl | hd
      · -- It fails now, and does not occur again.
        rw [retryLoop_discoveries_of_notMem _ _ hnotMem]
        exact AList.lookup_erase entry.1 s.discoveries
      · exact ih _ _ hnodup hd
    · rw [retryLoop_cons_of_not_le s clock expired hmax]
      rw [failing_cons_of_not_le hmax] at hd
      exact ih _ _ hnodup hd

/-- A retried discovery carries the request id and the time of its new round. -/
theorem retryLoop_discoveries_of_retrying (s : ProtocolState) (clock : Clock)
    {expired : List Expired} (hnodup : (keysOf expired).Nodup) {entry : Expired}
    (hentry : entry ∈ retrying s.config.routeDiscoveryMaxRetries expired) :
    let position :=
      (keysOf (retrying s.config.routeDiscoveryMaxRetries expired)).idxOf entry.1
    (s.retryLoop clock expired).1.discoveries.lookup entry.1 =
      some ⟨s.nextRequestId + position, clock position, entry.2.retriesDone + 1⟩ := by
  induction expired generalizing s clock with
  | nil => cases hentry
  | cons first expired ih =>
    obtain ⟨hnotMem, hnodup⟩ := List.nodup_cons.mp hnodup
    by_cases hmax : s.config.routeDiscoveryMaxRetries ≤ first.2.retriesDone
    · rw [retrying_cons_of_le hmax] at hentry ⊢
      rw [retryLoop_cons_of_le s clock expired hmax]
      exact ih (s.failDiscovery first.1 first.2).1 clock hnodup hentry
    · rw [retrying_cons_of_not_le hmax] at hentry ⊢
      rw [retryLoop_cons_of_not_le s clock expired hmax]
      rcases List.mem_cons.mp hentry with rfl | hlater
      · have hfirst : (keysOf (entry ::
            retrying s.config.routeDiscoveryMaxRetries expired)).idxOf entry.1 = 0 :=
          List.idxOf_cons_self
        rw [hfirst, retryLoop_discoveries_of_notMem _ _ hnotMem]
        exact AList.lookup_insert s.discoveries
      · have hne : first.1 ≠ entry.1 := by
          intro heq
          exact hnotMem (heq ▸ mem_keysOf_retrying (mem_keysOf.mpr ⟨entry.2, hlater⟩))
        have hnext : (keysOf (first ::
            retrying s.config.routeDiscoveryMaxRetries expired)).idxOf entry.1 =
            (keysOf (retrying s.config.routeDiscoveryMaxRetries expired)).idxOf entry.1 + 1 :=
          List.idxOf_cons_ne _ hne
        rw [hnext]
        dsimp only
        rw [← Nat.add_assoc, Nat.add_right_comm]
        exact ih (s.startDiscovery clock first.1 (first.2.retriesDone + 1)).1 (clock.later 1)
          hnodup hlater

/-! ## Actions -/

/-- Other destinations' payloads do not enter into the events of a failure. -/
theorem failureEvents_filter_ne {nodeId dst : NodeId} {entry : Expired} (hne : entry.1 ≠ dst)
    (pending : List PendingData) :
    failureEvents nodeId (pending.filter fun p => p.dstNodeId != dst) entry =
      failureEvents nodeId pending entry := by
  unfold failureEvents
  rw [countP_filter_ne hne]

/-- The loop reports every failing discovery, in the order in which it visits them. -/
theorem retryLoop_events_eq (s : ProtocolState) (clock : Clock) {expired : List Expired}
    (hnodup : (keysOf expired).Nodup) :
    (s.retryLoop clock expired).2.events =
      (failing s.config.routeDiscoveryMaxRetries expired).flatMap
        (failureEvents s.config.nodeId s.pendingData) := by
  induction expired generalizing s clock with
  | nil => rfl
  | cons entry expired ih =>
    obtain ⟨hnotMem, hnodup⟩ := List.nodup_cons.mp hnodup
    by_cases hmax : s.config.routeDiscoveryMaxRetries ≤ entry.2.retriesDone
    · rw [retryLoop_cons_of_le s clock expired hmax, failing_cons_of_le hmax,
        List.flatMap_cons]
      dsimp only
      rw [failDiscovery_events s entry, ih _ _ hnodup]
      -- The payloads that this failure drops were for no other destination.
      refine congrArg _ (List.flatMap_congr fun later hlater => ?_)
      refine failureEvents_filter_ne (fun heq => hnotMem ?_) s.pendingData
      exact heq ▸ mem_keysOf.mpr ⟨later.2, (mem_failing.mp hlater).1⟩
    · rw [retryLoop_cons_of_not_le s clock expired hmax, failing_cons_of_not_le hmax]
      exact ih _ _ hnodup

/-- The RREQs of a round. -/
def floodRound (self : ProtocolState) (round : Round) : List OutboundPacket :=
  self.floodRreq round.sentAtMillis round.dstNodeId round.requestId

/-- A flood depends on the configuration only. -/
theorem floodRound_of_config {s' : ProtocolState} (h : s'.config = s.config) (round : Round) :
    s'.floodRound round = s.floodRound round := by
  unfold floodRound floodRreq logicalNeighbors endpoint
  rw [h]

theorem retryLoop_outbound_eq (s : ProtocolState) (clock : Clock) (expired : List Expired) :
    (s.retryLoop clock expired).2.outbound =
      (roundsFrom clock s.nextRequestId
        (keysOf (retrying s.config.routeDiscoveryMaxRetries expired))).flatMap s.floodRound := by
  induction expired generalizing s clock with
  | nil => rfl
  | cons entry expired ih =>
    by_cases hmax : s.config.routeDiscoveryMaxRetries ≤ entry.2.retriesDone
    · rw [retryLoop_cons_of_le s clock expired hmax, retrying_cons_of_le hmax, ih]
      exact List.flatMap_congr fun round _ => floodRound_of_config (by rfl) round
    · rw [retryLoop_cons_of_not_le s clock expired hmax, retrying_cons_of_not_le hmax]
      dsimp only
      rw [ih]
      refine congrArg _ (List.flatMap_congr fun round _ => ?_)
      exact floodRound_of_config (by rfl) round

/-! ## The tick -/

/-- The state in which a tick goes through the snapshot. -/
def pruned (self : ProtocolState) (now : Nat) : ProtocolState :=
  { self with seenRequests := self.seenRequests.prune now self.config.seenRequestTtlMs }

@[simp] theorem pruned_config (s : ProtocolState) (now : Nat) :
    (s.pruned now).config = s.config := rfl

theorem call_tick (s : ProtocolState) (clock : Clock) (now : Nat) :
    s.call clock (.tick now) =
      (s.pruned now).retryLoop clock (s.expiredDiscoveries now) := rfl

/-- Every destination occurs in the snapshot once. -/
theorem expiredDiscoveries_nodup (s : ProtocolState) (now : Nat) :
    (keysOf (s.expiredDiscoveries now)).Nodup :=
  List.Nodup.sublist (List.Sublist.map _ List.filter_sublist) s.discoveries.nodupKeys

theorem mem_expiredDiscoveries {now : Nat} {d : NodeId} {state : DiscoveryState} :
    ⟨d, state⟩ ∈ s.expiredDiscoveries now ↔ s.discoveries.lookup d = some state ∧
      s.config.routeDiscoveryTimeoutMs ≤ now - state.lastSentMillis := by
  unfold expiredDiscoveries
  rw [List.mem_filter, AList.mem_entries_iff, decide_eq_true_iff]

end ProtocolState

end DlDsr
