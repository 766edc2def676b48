import DlDsr.Node.Accounting
import DlDsr.Node.Events

/-!
# Discovery episodes

An episode begins when a command finds neither a live route nor an outstanding discovery
for its destination, and it ends when that discovery is removed: by an RREP, which is
counted as a success, or by a tick, which is counted as a failure. `handle_rrep` counts
a success whether or not there was a discovery to remove (`Overdue`), so the counters and
the outstanding discoveries together exceed the episodes by the overdue replies
(`call_settles`).
-/

namespace DlDsr

/-- The event reports the end of the discovery of `dst`. -/
def ProtocolEvent.concludes (dst : NodeId) : ProtocolEvent → Bool
  | .routeCached _ dstNodeId _ => dstNodeId == dst
  | .routeDiscoveryFailed _ dstNodeId _ => dstNodeId == dst
  | _ => false

/-- Neither counter of concluded discoveries has moved. -/
def NodeMetrics.SameDiscoveryCounts (m m' : NodeMetrics) : Prop :=
  m.routeDiscoverySuccesses = m'.routeDiscoverySuccesses ∧
    m.routeDiscoveryFailures = m'.routeDiscoveryFailures

namespace ProtocolState

variable {s : ProtocolState} {clock : Clock} {input : Input} {dst : NodeId}

/-- The call begins an episode for `dst`. -/
def Begins (s : ProtocolState) (clock : Clock) (input : Input) (dst : NodeId) : Prop :=
  match input with
  | .command (.discoverAndSend dstNodeId _) =>
    dstNodeId = dst ∧ s.routes.shortest dst (clock 0) = none ∧ dst ∉ s.discoveries
  | _ => False

instance (s : ProtocolState) (clock : Clock) (input : Input) (dst : NodeId) :
    Decidable (s.Begins clock input dst) := by
  unfold Begins
  split <;> infer_instance

/-- How many episodes the call begins. -/
def episodes (s : ProtocolState) (clock : Clock) : Input → Nat
  | .command (.discoverAndSend dst payload) =>
    if s.Begins clock (.command (.discoverAndSend dst payload)) dst then 1 else 0
  | _ => 0

/-- An RREP is accepted, and there is no outstanding discovery for its destination. -/
def Overdue (s : ProtocolState) (input : Input) : Prop :=
  match input with
  | .packet (.rrep p) sender =>
    s.validateRrep sender p.tracePath = .ok () ∧ s.config.nodeId = p.srcNodeId ∧
      p.dstNodeId ∉ s.discoveries
  | _ => False

instance (s : ProtocolState) (input : Input) : Decidable (s.Overdue input) := by
  unfold Overdue
  split <;> infer_instance

/-- Concluded and outstanding discoveries. -/
def discoveryBalance (s : ProtocolState) : Nat :=
  s.metrics.routeDiscoverySuccesses + s.metrics.routeDiscoveryFailures + s.discoveries.size

/-! ## The tick loop -/

/-- A failing discovery is one discovery less and one failure more. -/
theorem failDiscovery_balance (state : DiscoveryState) (hmem : dst ∈ s.discoveries) :
    (s.failDiscovery dst state).1.discoveryBalance = s.discoveryBalance := by
  have hsize := AList.size_erase hmem
  show s.metrics.routeDiscoverySuccesses + (s.metrics.routeDiscoveryFailures + 1) +
    (s.discoveries.erase dst).size = _
  unfold discoveryBalance
  omega

/-- It is reported, and nothing else is concluded. -/
theorem failDiscovery_concludes (s : ProtocolState) (dst' : NodeId) (state : DiscoveryState)
    (dst : NodeId) :
    (s.failDiscovery dst' state).2.events.any (ProtocolEvent.concludes dst) = (dst' == dst) := by
  unfold failDiscovery
  rw [List.any_cons]
  split <;> simp [ProtocolEvent.concludes]

/-- A retried discovery is written again under its own key. -/
theorem startDiscovery_balance (clock : Clock) (k : Nat) (hmem : dst ∈ s.discoveries) :
    (s.startDiscovery clock dst k).1.discoveryBalance = s.discoveryBalance := by
  show _ + _ + (s.discoveries.insert dst _).size = _
  rw [AList.size_insert_of_mem _ hmem]
  rfl

theorem mem_discoveries_startDiscovery (clock : Clock) (k : Nat) {dst' : NodeId}
    (hmem : dst' ∈ s.discoveries) :
    dst ∈ (s.startDiscovery clock dst' k).1.discoveries ↔ dst ∈ s.discoveries := by
  show dst ∈ s.discoveries.insert dst' _ ↔ _
  rw [AList.mem_insert]
  constructor
  · rintro (rfl | hdst)
    · exact hmem
    · exact hdst
  · exact .inr

/-- The tick loop counts a failure for every discovery it removes, over a snapshot whose
entries are still outstanding. -/
theorem retryLoop_balance (s : ProtocolState) (clock : Clock)
    {expired : List (Sigma fun _ : NodeId => DiscoveryState)}
    (hnodup : (expired.map Sigma.fst).Nodup) (hmem : ∀ entry ∈ expired, entry.1 ∈ s.discoveries) :
    (s.retryLoop clock expired).1.discoveryBalance = s.discoveryBalance ∧
      ∀ dst, dst ∈ (s.retryLoop clock expired).1.discoveries ↔
        dst ∈ s.discoveries ∧
          (s.retryLoop clock expired).2.events.any (ProtocolEvent.concludes dst) = false := by
  induction expired generalizing s clock with
  | nil =>
    refine ⟨rfl, fun dst => ?_⟩
    simp [retryLoop]
  | cons entry expired ih =>
    rw [List.map_cons, List.nodup_cons] at hnodup
    obtain ⟨hfresh, hnodup⟩ := hnodup
    have hhead : entry.1 ∈ s.discoveries := hmem _ List.mem_cons_self
    have hrest : ∀ e ∈ expired, e.1 ≠ entry.1 ∧ e.1 ∈ s.discoveries := by
      intro e he
      refine ⟨fun heq => hfresh ?_, hmem e (List.mem_cons_of_mem _ he)⟩
      exact List.mem_map.mpr ⟨e, he, heq⟩
    by_cases hmax : s.config.routeDiscoveryMaxRetries ≤ entry.2.retriesDone
    · rw [retryLoop_cons_of_le s clock expired hmax]
      obtain ⟨hbalance, hkeys⟩ := ih (s.failDiscovery entry.1 entry.2).1 clock hnodup
        fun e he => AList.mem_erase.mpr (hrest e he)
      refine ⟨hbalance.trans (failDiscovery_balance entry.2 hhead), fun dst => ?_⟩
      dsimp only
      rw [hkeys dst, List.any_append, failDiscovery_concludes, Bool.or_eq_false_iff]
      show (dst ∈ s.discoveries.erase entry.1 ∧ _) ↔ _
      rw [AList.mem_erase, beq_eq_false_iff_ne]
      constructor
      · rintro ⟨⟨hne, hdst⟩, hnone⟩
        exact ⟨hdst, Ne.symm hne, hnone⟩
      · rintro ⟨hdst, hne, hnone⟩
        exact ⟨⟨Ne.symm hne, hdst⟩, hnone⟩
    · rw [retryLoop_cons_of_not_le s clock expired hmax]
      obtain ⟨hbalance, hkeys⟩ :=
        ih (s.startDiscovery clock entry.1 (entry.2.retriesDone + 1)).1 (clock.later 1) hnodup
          fun e he => (mem_discoveries_startDiscovery clock _ hhead).mpr (hrest e he).2
      refine ⟨hbalance.trans (startDiscovery_balance clock _ hhead), fun dst => ?_⟩
      dsimp only
      rw [hkeys dst, mem_discoveries_startDiscovery clock _ hhead]

theorem call_tick_balance (s : ProtocolState) (clock : Clock) (now : Nat) :
    (s.call clock (.tick now)).1.discoveryBalance = s.discoveryBalance ∧
      ∀ dst, dst ∈ (s.call clock (.tick now)).1.discoveries ↔
        dst ∈ s.discoveries ∧
          (s.call clock (.tick now)).2.events.any (ProtocolEvent.concludes dst) = false := by
  refine retryLoop_balance { s with
    seenRequests := s.seenRequests.prune now s.config.seenRequestTtlMs } clock ?_ ?_
  · exact List.Nodup.sublist (List.filter_sublist.map _) s.discoveries.nodupKeys
  · intro entry hentry
    have hmem : entry ∈ s.discoveries.entries := List.mem_of_mem_filter hentry
    exact AList.mem_keys.mpr (List.mem_map_of_mem hmem)

/-! ## Commands and packets -/

/-- Discoveries are concluded by accepted RREPs and by ticks. -/
theorem Announces.concludes {e : ProtocolEvent} (h : s.Announces clock input e)
    (hconcludes : e.concludes dst = true) :
    (∃ now, input = .tick now) ∨
      ∃ p sender, input = .packet (.rrep p) sender ∧
        s.validateRrep sender p.tracePath = .ok () ∧ s.config.nodeId = p.srcNodeId ∧
        p.dstNodeId = dst := by
  cases h with
  | routeCached p sender hok hsrc =>
    exact .inr ⟨p, sender, rfl, hok, hsrc, by simpa [ProtocolEvent.concludes] using hconcludes⟩
  | discoveryFailed now => exact .inl ⟨now, rfl⟩
  | _ => cases hconcludes

theorem Announces.of_routeCached {n : NodeId} {id : Nat}
    (h : s.Announces clock input (.routeCached n dst id)) :
    ∃ p sender, input = .packet (.rrep p) sender ∧
      s.validateRrep sender p.tracePath = .ok () ∧ s.config.nodeId = p.srcNodeId ∧
      p.dstNodeId = dst := by
  cases h with
  | routeCached p sender hok hsrc => exact ⟨p, sender, rfl, hok, hsrc, rfl⟩

/-- What neither ticks nor accepts an RREP concludes nothing. -/
theorem concludes_eq_false (clock : Clock) (htick : ∀ now, input ≠ .tick now)
    (hrrep : ∀ p sender, input = .packet (.rrep p) sender →
      s.validateRrep sender p.tracePath = .ok () → s.config.nodeId ≠ p.srcNodeId) (dst : NodeId) :
    (s.call clock input).2.events.any (ProtocolEvent.concludes dst) = false := by
  refine List.any_eq_false.mpr fun e he hconcludes => ?_
  rcases (announces_of_mem he).concludes hconcludes with
    ⟨now, rfl⟩ | ⟨p, sender, rfl, hok, hsrc, -⟩
  · exact htick now rfl
  · exact hrrep p sender rfl hok hsrc

/-- What a call does to the discoveries and to what is counted of them. -/
structure Settles (s : ProtocolState) (clock : Clock) (input : Input) : Prop where
  balance : (s.call clock input).1.discoveryBalance =
    s.discoveryBalance + s.episodes clock input + if s.Overdue input then 1 else 0
  outstanding : ∀ dst, dst ∈ (s.call clock input).1.discoveries ↔
    s.Begins clock input dst ∨ (dst ∈ s.discoveries ∧
      (s.call clock input).2.events.any (ProtocolEvent.concludes dst) = false)

/-- A call that begins and concludes nothing, and keeps discoveries and counters. -/
theorem settles_of_idle (hbegins : ∀ dst, ¬ s.Begins clock input dst)
    (hepisodes : s.episodes clock input = 0) (hoverdue : ¬ s.Overdue input)
    (hnone : ∀ dst, (s.call clock input).2.events.any (ProtocolEvent.concludes dst) = false)
    (hkeys : (s.call clock input).1.discoveries = s.discoveries)
    (hcounts : (s.call clock input).1.metrics.SameDiscoveryCounts s.metrics) :
    s.Settles clock input := by
  constructor
  · rw [hepisodes, if_neg hoverdue, Nat.add_zero]
    unfold discoveryBalance
    rw [hkeys, hcounts.1, hcounts.2]
  · intro dst
    rw [hnone dst, hkeys]
    simp [hbegins dst]

/-- A packet other than an accepted RREP counts no discovery as concluded. -/
theorem handlePacket_discoveryCounts (s : ProtocolState) (clock : Clock) {packet : Packet}
    {sender : SocketAddr}
    (hrrep : ∀ p, packet = .rrep p → s.validateRrep sender p.tracePath = .ok () →
      s.config.nodeId ≠ p.srcNodeId) :
    (s.handlePacket clock packet sender).1.metrics.SameDiscoveryCounts s.metrics := by
  cases packet with
  | hello p =>
    show (s.handleHello clock p sender).1.metrics.SameDiscoveryCounts _
    rcases handleHello_state s clock p sender with h | ⟨-, h⟩ <;> rw [h] <;> exact ⟨rfl, rfl⟩
  | helloReply p =>
    show (s.handleHelloReply p).1.metrics.SameDiscoveryCounts _
    rcases handleHelloReply_state s p with h | ⟨-, -, h⟩ <;> rw [h] <;> exact ⟨rfl, rfl⟩
  | rreq q =>
    have hout := handleRreq_outcome s clock q
    show (s.handleRreq clock q).1.metrics.SameDiscoveryCounts _
    generalize s.handleRreq clock q = r at hout ⊢
    cases hout with
    | refused m _ hm => rcases hm with rfl | rfl <;> exact ⟨rfl, rfl⟩
    | answered e =>
      rw [answerRreq_state]
      exact ⟨rfl, rfl⟩
    | _ => exact ⟨rfl, rfl⟩
  | rrep p =>
    have hout := handleRrep_outcome s clock sender p
    show (s.handleRrep clock sender p).1.metrics.SameDiscoveryCounts _
    generalize s.handleRrep clock sender p = r at hout ⊢
    cases hout with
    | accepted hok hsrc => exact absurd hsrc (hrrep p rfl hok)
    | _ => exact ⟨rfl, rfl⟩
  | data d =>
    have hout := handleData_outcome s clock sender d
    show (s.handleData clock sender d).1.metrics.SameDiscoveryCounts _
    generalize s.handleData clock sender d = r at hout ⊢
    cases hout <;> exact ⟨rfl, rfl⟩
  | ack _ => exact ⟨rfl, rfl⟩
  | error _ => exact ⟨rfl, rfl⟩

/-- A packet other than an accepted RREP has nothing to do with discoveries. -/
theorem settles_of_packet {packet : Packet} {sender : SocketAddr}
    (hrrep : ∀ p, packet = .rrep p → s.validateRrep sender p.tracePath = .ok () →
      s.config.nodeId ≠ p.srcNodeId) :
    s.Settles clock (.packet packet sender) := by
  have hkeys : (s.handlePacket clock packet sender).1.discoveries = s.discoveries := by
    rcases handlePacket_queue s clock packet sender with ⟨-, hsame⟩ | ⟨p, hp, hok, hsrc, -⟩
    · exact hsame
    · exact absurd hsrc (hrrep p hp hok)
  have hoverdue : ¬ s.Overdue (.packet packet sender) := by
    cases packet with
    | rrep p =>
      rintro ⟨hok, hsrc, -⟩
      exact hrrep p rfl hok hsrc
    | _ => exact id
  have hnone : ∀ dst, (s.call clock (.packet packet sender)).2.events.any
      (ProtocolEvent.concludes dst) = false :=
    concludes_eq_false clock (fun _ h => by cases h) fun p _ h => by
      cases h
      exact hrrep p rfl
  exact settles_of_idle (fun _ => id) rfl hoverdue hnone hkeys
    (handlePacket_discoveryCounts s clock hrrep)

theorem settles_of_accepted {p : Rrep} {sender : SocketAddr}
    (hok : s.validateRrep sender p.tracePath = .ok ()) (hsrc : s.config.nodeId = p.srcNodeId) :
    s.Settles clock (.packet (.rrep p) sender) := by
  have hcall : s.call clock (.packet (.rrep p) sender) = s.acceptRrep clock p :=
    call_of_accepted hok hsrc
  have hkeys : (s.acceptRrep clock p).1.discoveries = s.discoveries.erase p.dstNodeId := by
    obtain ⟨n, m, hstate⟩ := acceptRrep_state s clock p
    rw [hstate]
  constructor
  · rw [hcall]
    unfold discoveryBalance
    rw [acceptRrep_metrics, hkeys]
    show _ = _ + 0 + _
    by_cases hmem : p.dstNodeId ∈ s.discoveries
    · -- One discovery less, one success more.
      have hsize := AList.size_erase hmem
      rw [if_neg fun h => h.2.2 hmem]
      dsimp only
      omega
    · have hsize := AList.size_erase_of_notMem hmem
      rw [if_pos ⟨hok, hsrc, hmem⟩]
      dsimp only
      omega
  · intro dst
    rw [hcall, hkeys, AList.mem_erase]
    have hevents : (s.acceptRrep clock p).2.events.any (ProtocolEvent.concludes dst) =
        (p.dstNodeId == dst) := by
      show (ProtocolEvent.concludes dst (.routeCached _ p.dstNodeId _) || false) = _
      rw [Bool.or_false]
      rfl
    rw [hevents, beq_eq_false_iff_ne]
    show _ ↔ False ∨ _
    rw [false_or, and_comm, ne_comm]

/-- A command that starts no discovery. -/
theorem settles_of_known {dst : NodeId} {payload : List UInt8}
    (hbegins : ¬ s.Begins clock (.command (.discoverAndSend dst payload)) dst)
    (hkeys : (s.discoverAndSend clock dst payload).1.discoveries = s.discoveries)
    (hcounts : (s.discoverAndSend clock dst payload).1.metrics.SameDiscoveryCounts s.metrics) :
    s.Settles clock (.command (.discoverAndSend dst payload)) := by
  have hno : ∀ d, ¬ s.Begins clock (.command (.discoverAndSend dst payload)) d := by
    rintro d ⟨rfl, hroute, hmem⟩
    exact hbegins ⟨rfl, hroute, hmem⟩
  have hnone : ∀ d, (s.call clock (.command (.discoverAndSend dst payload))).2.events.any
      (ProtocolEvent.concludes d) = false :=
    concludes_eq_false clock (fun _ h => by cases h) (fun _ _ h => by cases h)
  exact settles_of_idle hno (if_neg hbegins) id hnone hkeys hcounts

/-- A command that begins an episode. -/
theorem settles_of_begins {dst : NodeId} {payload : List UInt8}
    (hbegins : s.Begins clock (.command (.discoverAndSend dst payload)) dst) :
    s.Settles clock (.command (.discoverAndSend dst payload)) := by
  obtain ⟨-, hroute, hmem⟩ := hbegins
  have hnone : ∀ d, (s.call clock (.command (.discoverAndSend dst payload))).2.events.any
      (ProtocolEvent.concludes d) = false :=
    concludes_eq_false clock (fun _ h => by cases h) (fun _ _ h => by cases h)
  have hepisodes : s.episodes clock (.command (.discoverAndSend dst payload)) = 1 :=
    if_pos ⟨rfl, hroute, hmem⟩
  have hoverdue : ¬ s.Overdue (.command (.discoverAndSend dst payload)) := id
  have hcall : s.call clock (.command (.discoverAndSend dst payload)) =
      s.discoverAndSend clock dst payload := rfl
  rcases discoverAndSend_cases s clock dst payload with
    ⟨route, hsome, -⟩ | ⟨-, hold, -⟩ | ⟨-, -, heq⟩
  · rw [hroute] at hsome
    cases hsome
  · exact absurd hold hmem
  constructor
  · rw [hepisodes, if_neg hoverdue, hcall, heq]
    show s.metrics.routeDiscoverySuccesses + s.metrics.routeDiscoveryFailures +
      (s.discoveries.insert dst _).size = s.discoveryBalance + 1
    rw [AList.size_insert _ hmem]
    rfl
  · intro d
    rw [hnone d, hcall, heq]
    show d ∈ s.discoveries.insert dst _ ↔ _
    rw [AList.mem_insert]
    constructor
    · rintro (rfl | hd)
      · exact .inl ⟨rfl, hroute, hmem⟩
      · exact .inr ⟨hd, rfl⟩
    · rintro (⟨rfl, -⟩ | ⟨hd, -⟩)
      · exact .inl rfl
      · exact .inr hd

theorem settles_of_command (s : ProtocolState) (clock : Clock) (dst : NodeId)
    (payload : List UInt8) : s.Settles clock (.command (.discoverAndSend dst payload)) := by
  rcases discoverAndSend_cases s clock dst payload with
    ⟨route, hroute, heq⟩ | ⟨-, hmem, heq⟩ | ⟨hroute, hmem, -⟩
  · -- The payload is sent, or dropped if there is no next hop.
    have hno : ¬ s.Begins clock (.command (.discoverAndSend dst payload)) dst := by
      rintro ⟨-, hnone, -⟩
      rw [hroute] at hnone
      cases hnone
    cases hfirst : s.firstHop route with
    | some endpoint =>
      rw [originData_of_hop hfirst] at heq
      exact settles_of_known hno (by rw [heq]) (by rw [heq]; exact ⟨rfl, rfl⟩)
    | none =>
      rw [originData_of_noHop hfirst] at heq
      exact settles_of_known hno (by rw [heq]; rfl) (by rw [heq]; exact ⟨rfl, rfl⟩)
  · -- The payload is queued.
    exact settles_of_known (fun h => h.2.2 hmem) (by rw [heq]) (by rw [heq]; exact ⟨rfl, rfl⟩)
  · exact settles_of_begins ⟨rfl, hroute, hmem⟩

/-- **The account of one call**: it adds the episode it begins, and an overdue reply. -/
theorem call_settles (s : ProtocolState) (clock : Clock) (input : Input) :
    s.Settles clock input := by
  cases input with
  | command c =>
    obtain ⟨dst, payload⟩ := c
    exact settles_of_command s clock dst payload
  | tick now =>
    obtain ⟨hbalance, hkeys⟩ := call_tick_balance s clock now
    constructor
    · have hoverdue : ¬ s.Overdue (.tick now) := id
      rw [if_neg hoverdue]
      exact hbalance
    · intro dst
      rw [hkeys dst]
      exact (or_iff_right id).symm
  | hello =>
    exact settles_of_idle (fun _ => id) rfl id (fun _ => rfl) rfl ⟨rfl, rfl⟩
  | packet packet sender =>
    by_cases haccept : ∃ p, packet = .rrep p ∧ s.validateRrep sender p.tracePath = .ok () ∧
        s.config.nodeId = p.srcNodeId
    · obtain ⟨p, rfl, hok, hsrc⟩ := haccept
      exact settles_of_accepted hok hsrc
    · exact settles_of_packet fun p hp hok hsrc => haccept ⟨p, hp, hok, hsrc⟩

end ProtocolState

end DlDsr
