import DlDsr.Node.Effects

/-!
# Handing payloads to `origin_data`

`origin_data` gives a payload the next sequence number, whether or not it can send it:
where the first hop of the route does not resolve, the number is spent and the payload
is dropped. Whether it resolves depends on the configuration, the neighbour table and
the route only (`firstHop`), so one flush sends all payloads for its destination or
drops all of them (`flushLoop_sends`, `flushLoop_drops`). `handOver` lists the packets
that the flush calls `origin_data` with, in their order.
-/

namespace DlDsr

namespace ProtocolState

variable {s : ProtocolState} {clock : Clock}

/-- Where `origin_data` sends what goes over `route`. -/
def firstHop (s : ProtocolState) (route : RouteEntry) : Option SocketAddr :=
  match s.config.protocolMode with
  | .dsr => (route.dsrPath[1]?).bind s.endpoint
  | .dlDsr =>
    (route.dldsrLabelPath[0]?).bind fun label =>
      (s.neighbors.neighborByLabel label).map NeighborEntry.endpoint

/-- What `origin_data` sends for the packet it looked the first hop up with. -/
def departing (d : Data) (endpoint : SocketAddr) : OutboundPacket :=
  ⟨.data { d with routeCursor := 1 }, endpoint⟩

theorem nextDataEndpoint_lookupPacket (s : ProtocolState) (clock : Clock) (dst : NodeId)
    (payload : List UInt8) (route : RouteEntry) :
    s.nextDataEndpoint (.data (s.lookupPacket clock dst payload route)) = s.firstHop route := by
  unfold nextDataEndpoint firstHop lookupPacket
  cases s.config.protocolMode <;> rfl

/-- The first hop depends on the configuration and the neighbour table only. -/
theorem firstHop_congr {s' : ProtocolState} (hconfig : s'.config = s.config)
    (hneighbors : s'.neighbors = s.neighbors) (route : RouteEntry) :
    s'.firstHop route = s.firstHop route := by
  unfold firstHop endpoint
  rw [hconfig, hneighbors]

theorem originData_of_hop {route : RouteEntry} {endpoint : SocketAddr}
    (h : s.firstHop route = some endpoint) (clock : Clock) (dst : NodeId)
    (payload : List UInt8) :
    s.originData clock dst payload route =
      ({ s with nextSequence := s.nextSequence + 1 },
       { outbound := [departing (s.lookupPacket clock dst payload route) endpoint] }) := by
  have hnext : ({ s with nextSequence := s.nextSequence + 1 } : ProtocolState).nextDataEndpoint
      (.data (s.lookupPacket clock dst payload route)) = some endpoint :=
    (nextDataEndpoint_lookupPacket s clock dst payload route).trans h
  simp only [originData, hnext]
  rfl

theorem originData_of_noHop {route : RouteEntry} (h : s.firstHop route = none) (clock : Clock)
    (dst : NodeId) (payload : List UInt8) :
    s.originData clock dst payload route =
      ({ s with nextSequence := s.nextSequence + 1 } : ProtocolState).dropData dst
        "DATA origin next-hop lookup failed" := by
  have hnext : ({ s with nextSequence := s.nextSequence + 1 } : ProtocolState).nextDataEndpoint
      (.data (s.lookupPacket clock dst payload route)) = none :=
    (nextDataEndpoint_lookupPacket s clock dst payload route).trans h
  simp only [originData, hnext]

/-- The packets that the loop of `flush_pending` calls `origin_data` with. -/
def handOver (s : ProtocolState) (clock : Clock) (dst : NodeId) (route : RouteEntry) :
    List PendingData → List Data
  | [] => []
  | pending :: queue =>
    if pending.dstNodeId = dst then
      s.lookupPacket clock dst pending.payload route ::
        (s.originData clock dst pending.payload route).1.handOver (clock.later 1) dst route queue
    else s.handOver clock dst route queue

/-- What is handed over are the payloads queued for the destination, in their order. -/
theorem handOver_pending (s : ProtocolState) (clock : Clock) (dst : NodeId) (route : RouteEntry)
    (queue : List PendingData) :
    (s.handOver clock dst route queue).map (fun d => ⟨d.dstNodeId, d.payload⟩) =
      queue.filter fun q => q.dstNodeId == dst := by
  induction queue generalizing s clock with
  | nil => rfl
  | cons pending queue ih =>
    simp only [handOver]
    split
    · next hdst =>
      rw [List.map_cons, ih, List.filter_cons_of_pos (by simpa using hdst)]
      congr 1
      rw [← hdst]
      rfl
    · next hdst => rw [ih, List.filter_cons_of_neg (by simpa using hdst)]

/-- What is handed over goes along the route. -/
theorem handOver_header {dst : NodeId} {route : RouteEntry} {queue : List PendingData} {d : Data}
    (h : d ∈ s.handOver clock dst route queue) :
    d.srcNodeId = s.config.nodeId ∧ d.dstNodeId = dst ∧
      d.protocolMode = s.config.protocolMode ∧ d.routeCursor = 0 ∧
      d.dsrPath = route.dsrPath ∧ d.dldsrLabelPath = route.dldsrLabelPath := by
  induction queue generalizing s clock with
  | nil => cases h
  | cons pending queue ih =>
    simp only [handOver] at h
    split at h
    · rcases List.mem_cons.mp h with rfl | h
      · exact ⟨rfl, rfl, rfl, rfl, rfl, rfl⟩
      · obtain ⟨m, hm⟩ := originData_state s clock dst pending.payload route
        rw [hm] at h
        have hrest := ih h
        exact hrest
    · exact ih h

/-- The packets handed over differ in what the first hop does not depend on. -/
theorem handOver_hop {dst : NodeId} {route : RouteEntry} {queue : List PendingData} {d : Data}
    (h : d ∈ s.handOver clock dst route queue) :
    s.nextDataEndpoint (.data d) = s.firstHop route := by
  obtain ⟨-, -, hmode, hcursor, hpath, hlabels⟩ := handOver_header h
  unfold nextDataEndpoint firstHop
  cases hconf : s.config.protocolMode <;>
    simp only [hcursor, hmode, hpath, hlabels, hconf, Nat.zero_add]

/-- The payloads handed over are numbered on from the sequence counter. -/
theorem handOver_sequences (s : ProtocolState) (clock : Clock) (dst : NodeId)
    (route : RouteEntry) (queue : List PendingData) :
    (s.handOver clock dst route queue).map Data.sequence =
      List.range' s.nextSequence (queue.countP fun q => q.dstNodeId == dst) := by
  induction queue generalizing s clock with
  | nil => rfl
  | cons pending queue ih =>
    simp only [handOver]
    split
    · next hdst =>
      obtain ⟨m, hm⟩ := originData_state s clock dst pending.payload route
      rw [List.map_cons, ih, hm, List.countP_cons_of_pos (by simpa using hdst),
        List.range'_succ]
      rfl
    · next hdst => rw [ih, List.countP_cons_of_neg (by simpa using hdst)]

/-- A flush whose first hop resolves sends everything it hands over. -/
theorem flushLoop_sends {route : RouteEntry} {endpoint : SocketAddr}
    (h : s.firstHop route = some endpoint) (clock : Clock) (dst : NodeId)
    (queue : List PendingData) :
    (s.flushLoop clock dst route queue).1 =
        { s with nextSequence :=
            s.nextSequence + queue.countP fun q => q.dstNodeId == dst } ∧
      (s.flushLoop clock dst route queue).2.1 =
        (s.handOver clock dst route queue).map fun d => departing d endpoint := by
  induction queue generalizing s clock with
  | nil => exact ⟨rfl, rfl⟩
  | cons pending queue ih =>
    simp only [flushLoop, handOver]
    split
    · next hdst =>
      have hfirst := originData_of_hop h clock dst pending.payload
      have hrest : (s.originData clock dst pending.payload route).1.firstHop route =
          some endpoint := by
        rw [hfirst]
        exact h
      obtain ⟨hstate, hsent⟩ := ih hrest (clock.later 1)
      constructor
      · rw [hstate, hfirst, List.countP_cons_of_pos (by simpa using hdst)]
        simp only [Nat.add_assoc, Nat.add_comm 1]
      · rw [hsent, List.map_cons, hfirst]
        rfl
    · next hdst =>
      obtain ⟨hstate, hsent⟩ := ih h clock
      refine ⟨?_, hsent⟩
      rw [hstate, List.countP_cons_of_neg (by simpa using hdst)]

/-- A flush whose first hop does not resolve drops everything it hands over. -/
theorem flushLoop_drops {route : RouteEntry} (h : s.firstHop route = none) (clock : Clock)
    (dst : NodeId) (queue : List PendingData) :
    (s.flushLoop clock dst route queue).1 =
        { s with
          nextSequence := s.nextSequence + queue.countP fun q => q.dstNodeId == dst
          metrics := { s.metrics with
            droppedPackets :=
              s.metrics.droppedPackets + queue.countP fun q => q.dstNodeId == dst
            dataDropped :=
              s.metrics.dataDropped + queue.countP fun q => q.dstNodeId == dst } } ∧
      (s.flushLoop clock dst route queue).2.1 = [] := by
  induction queue generalizing s clock with
  | nil => exact ⟨rfl, rfl⟩
  | cons pending queue ih =>
    simp only [flushLoop]
    split
    · next hdst =>
      have hfirst := originData_of_noHop h clock dst pending.payload
      have hrest : (s.originData clock dst pending.payload route).1.firstHop route = none := by
        rw [hfirst]
        exact h
      obtain ⟨hstate, hsent⟩ := ih hrest (clock.later 1)
      constructor
      · rw [hstate, hfirst, List.countP_cons_of_pos (by simpa using hdst)]
        simp only [dropData, Nat.add_assoc, Nat.add_comm 1]
      · rw [hsent, hfirst]
        rfl
    · next hdst =>
      obtain ⟨hstate, hsent⟩ := ih h clock
      refine ⟨?_, hsent⟩
      rw [hstate, List.countP_cons_of_neg (by simpa using hdst)]

theorem firstHop_cacheRoute (s : ProtocolState) (clock : Clock) (p : Rrep) (route : RouteEntry) :
    (s.cacheRoute clock p).firstHop route = s.firstHop route :=
  firstHop_congr rfl rfl route

/-- How many payloads an accepted RREP makes the node drop. -/
def droppedByFlush (s : ProtocolState) (clock : Clock) (p : Rrep) : Nat :=
  if s.firstHop (s.routeOf clock p) = none then
    s.pendingData.countP fun q => q.dstNodeId == p.dstNodeId
  else 0

/-- The counters after an RREP was accepted. -/
theorem acceptRrep_metrics (s : ProtocolState) (clock : Clock) (p : Rrep) :
    (s.acceptRrep clock p).1.metrics =
      { s.metrics with
        routeDiscoverySuccesses := s.metrics.routeDiscoverySuccesses + 1
        droppedPackets := s.metrics.droppedPackets + s.droppedByFlush clock p
        dataDropped := s.metrics.dataDropped + s.droppedByFlush clock p } := by
  show ((s.cacheRoute clock p).flushLoop (clock.later 1) p.dstNodeId _ s.pendingData).1.metrics = _
  unfold droppedByFlush
  cases hfirst : s.firstHop (s.routeOf clock p) with
  | some endpoint =>
    rw [(flushLoop_sends ((s.firstHop_cacheRoute clock p _).trans hfirst) _ _ _).1,
      if_neg (by simp)]
    rfl
  | none =>
    rw [(flushLoop_drops ((s.firstHop_cacheRoute clock p _).trans hfirst) _ _ _).1, if_pos rfl]
    rfl

/-- An RREP whose route has no first hop sends nothing. -/
theorem acceptRrep_outbound_of_noHop {p : Rrep} (h : s.firstHop (s.routeOf clock p) = none) :
    (s.acceptRrep clock p).2.outbound = [] :=
  (flushLoop_drops ((s.firstHop_cacheRoute clock p _).trans h) _ _ _).2

end ProtocolState

end DlDsr
