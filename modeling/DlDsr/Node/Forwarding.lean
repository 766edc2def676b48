import DlDsr.Node.Emissions
import DlDsr.Node.Origination

/-!
# DATA along a usable route

The three cursor conventions of the DATA path, each under the conditions that make
it work: the origin looks the next hop up at cursor 0 and sends with cursor 1
(`originData_of_canSend`, and `flushLoop_of_canSend` for a whole queue); a node on
the way finds itself at the cursor and sends with the cursor moved by one
(`handleData_forward`); the destination is the last node (`handleData_deliver`).
-/

namespace DlDsr

namespace ProtocolState

variable {s : ProtocolState} {clock : Clock}

/-- The next hop of index `i` of a route is `next`, at `endpoint`, whichever of the
two paths the protocol mode follows. -/
structure NextHop (s : ProtocolState) (mode : ProtocolMode) (path : List NodeId)
    (labels : List Label) (i : Nat) (next : NodeId) (endpoint : SocketAddr) : Prop where
  at_next : path[i + 1]? = some next
  neighbor : next ∈ s.logicalNeighbors
  at_endpoint : s.endpoint next = some endpoint
  label : mode = .dlDsr → ∃ l entry, labels[i]? = some l ∧
    s.neighbors.neighborByLabel l = some entry ∧ entry.nodeId = next ∧ entry.endpoint = endpoint

theorem nextDataEndpoint_of_nextHop {d : Data} {next : NodeId} {endpoint : SocketAddr}
    (h : s.NextHop d.protocolMode d.dsrPath d.dldsrLabelPath d.routeCursor next endpoint) :
    s.nextDataEndpoint (.data d) = some endpoint := by
  cases hmode : d.protocolMode with
  | dsr =>
    simp only [nextDataEndpoint, hmode, h.at_next]
    exact h.at_endpoint
  | dlDsr =>
    obtain ⟨l, entry, hl, hentry, -, hend⟩ := h.label hmode
    simp only [nextDataEndpoint, hmode, hl]
    show (s.neighbors.neighborByLabel l).map NeighborEntry.endpoint = some endpoint
    rw [hentry, ← hend]
    rfl

/-! ## Origin -/

/-- The first hop of `route` is at `endpoint`. -/
def CanSend (s : ProtocolState) (route : RouteEntry) (endpoint : SocketAddr) : Prop :=
  ∃ next, s.NextHop s.config.protocolMode route.dsrPath route.dldsrLabelPath 0 next endpoint

/-- Only the configuration and the neighbour table matter for sending. -/
theorem CanSend.congr {s' : ProtocolState} {route : RouteEntry} {endpoint : SocketAddr}
    (h : s.CanSend route endpoint) (hconfig : s'.config = s.config)
    (hneighbors : s'.neighbors = s.neighbors) : s'.CanSend route endpoint := by
  obtain ⟨next, hnext⟩ := h
  refine ⟨next, hnext.at_next, ?_, ?_, ?_⟩
  · rw [logicalNeighbors_of_config hconfig]
    exact hnext.neighbor
  · unfold ProtocolState.endpoint
    rw [hconfig]
    exact hnext.at_endpoint
  · rw [hconfig, hneighbors]
    exact hnext.label

theorem CanSend.firstHop {route : RouteEntry} {endpoint : SocketAddr}
    (h : s.CanSend route endpoint) : s.firstHop route = some endpoint := by
  obtain ⟨next, hnext⟩ := h
  rw [← nextDataEndpoint_lookupPacket s (fun _ => 0) 0 [] route]
  exact nextDataEndpoint_of_nextHop (d := s.lookupPacket (fun _ => 0) 0 [] route)
    ⟨hnext.at_next, hnext.neighbor, hnext.at_endpoint, hnext.label⟩

/-- The origin sends exactly one packet, and drops nothing. -/
theorem originData_of_canSend {route : RouteEntry} {endpoint : SocketAddr}
    (h : s.CanSend route endpoint) (clock : Clock) (dst : NodeId) (payload : List UInt8) :
    s.originData clock dst payload route =
      ({ s with nextSequence := s.nextSequence + 1 },
       { outbound := [⟨.data { s.lookupPacket clock dst payload route with routeCursor := 1 },
          endpoint⟩] }) :=
  originData_of_hop h.firstHop clock dst payload

/-- Flushing sends one packet for every payload of the queue that is for `dst`, in
their order, and drops nothing. -/
theorem flushLoop_of_canSend {route : RouteEntry} {endpoint : SocketAddr}
    (h : s.CanSend route endpoint) (clock : Clock) (dst : NodeId) (queue : List PendingData) :
    (∃ n, (s.flushLoop clock dst route queue).1 = { s with nextSequence := n }) ∧
      List.Forall₂ (fun p o => s.OriginatesData dst p.payload route o)
        (queue.filter fun p => p.dstNodeId == dst) (s.flushLoop clock dst route queue).2.1 := by
  obtain ⟨hstate, hsent⟩ := flushLoop_sends h.firstHop clock dst queue
  refine ⟨⟨_, hstate⟩, ?_⟩
  rw [hsent, ← handOver_pending s clock dst route, List.forall₂_map_left_iff,
    List.forall₂_map_right_iff, List.forall₂_same]
  intro d hd
  obtain ⟨hsrc, hdst, hmode, hcursor, hpath, hlabels⟩ := handOver_header hd
  have hhop : s.nextDataEndpoint (.data d) = some endpoint := (handOver_hop hd).trans h.firstHop
  exact ⟨d, rfl, hsrc, hdst, rfl, hmode, hcursor, hpath, hlabels, hhop⟩

/-- An accepted RREP flushes the payloads for its destination, and drops nothing. -/
theorem acceptRrep_of_canSend {p : Rrep} {endpoint : SocketAddr}
    (h : s.CanSend (s.routeOf clock p) endpoint) :
    (s.acceptRrep clock p).1.metrics.dataDropped = s.metrics.dataDropped ∧
      List.Forall₂ (fun q o => s.OriginatesData p.dstNodeId q.payload (s.routeOf clock p) o)
        (s.pendingData.filter fun q => q.dstNodeId == p.dstNodeId)
        (s.acceptRrep clock p).2.outbound := by
  obtain ⟨⟨n, hstate⟩, hsent⟩ := flushLoop_of_canSend (s := s.cacheRoute clock p)
    (CanSend.congr h rfl rfl) (clock.later 1) p.dstNodeId s.pendingData
  refine ⟨?_, hsent⟩
  show ((s.cacheRoute clock p).flushLoop (clock.later 1) p.dstNodeId _
    s.pendingData).1.metrics.dataDropped = _
  rw [hstate]
  rfl

/-! ## What drops nothing

`origin_data` and `handle_data` are the only functions that drop DATA, apart from a
failed discovery. -/

/-- From `s` to `s'`, no DATA was dropped, and no event says so. -/
structure KeepsData (s s' : ProtocolState) (actions : ProtocolActions) : Prop where
  count : s'.metrics.dataDropped = s.metrics.dataDropped
  events : ∀ n dst reason, .dataDropped n dst reason ∉ actions.events

theorem handleHello_keepsData (s : ProtocolState) (clock : Clock) (p : Hello)
    (sender : SocketAddr) :
    KeepsData s (s.handleHello clock p sender).1 (s.handleHello clock p sender).2 := by
  unfold handleHello
  split
  · exact ⟨rfl, fun _ _ _ => List.not_mem_nil⟩
  · split <;> exact ⟨rfl, fun _ _ _ => List.not_mem_nil⟩

theorem handleHelloReply_keepsData (s : ProtocolState) (p : HelloReply) :
    KeepsData s (s.handleHelloReply p).1 (s.handleHelloReply p).2 := by
  unfold handleHelloReply
  split <;> exact ⟨rfl, fun _ _ _ => List.not_mem_nil⟩

theorem handleRreq_keepsData (s : ProtocolState) (clock : Clock) (q : Rreq) :
    KeepsData s (s.handleRreq clock q).1 (s.handleRreq clock q).2 := by
  have hout := handleRreq_outcome s clock q
  generalize s.handleRreq clock q = r at hout ⊢
  cases hout with
  | refused m h hm =>
    refine ⟨?_, fun _ _ _ => List.not_mem_nil⟩
    rcases hm with rfl | rfl <;> rfl
  | duplicate => exact ⟨rfl, fun _ _ _ => List.not_mem_nil⟩
  | noLabel => exact ⟨rfl, fun _ _ _ => List.not_mem_nil⟩
  | answered e =>
    unfold ProtocolState.answerRreq
    split <;> exact ⟨rfl, fun _ _ _ => List.not_mem_nil⟩
  | forwarded e => exact ⟨rfl, fun _ _ _ => List.not_mem_nil⟩

/-- An RREP drops DATA only by flushing along a route that cannot be used. -/
theorem handleRrep_keepsData {sender : SocketAddr} {p : Rrep}
    (h : s.validateRrep sender p.tracePath = .ok () → s.config.nodeId = p.srcNodeId →
      ∃ endpoint, s.CanSend (s.routeOf clock p) endpoint) :
    KeepsData s (s.handleRrep clock sender p).1 (s.handleRrep clock sender p).2 := by
  unfold handleRrep
  split
  · refine ⟨rfl, fun n dst reason hmem => ?_⟩
    have := List.mem_singleton.mp hmem
    cases this
  next hok =>
  split
  · next hsrc =>
    obtain ⟨endpoint, hsend⟩ := h hok hsrc
    refine ⟨(acceptRrep_of_canSend hsend).1, fun n dst reason hmem => ?_⟩
    have := List.mem_singleton.mp hmem
    cases this
  · unfold relayRrep
    split <;> exact ⟨rfl, fun _ _ _ => List.not_mem_nil⟩

/-- A command drops DATA only by sending along a route that cannot be used. -/
theorem discoverAndSend_keepsData {dst : NodeId} {payload : List UInt8}
    (h : ∀ route, s.routes.shortest dst (clock 0) = some route →
      ∃ endpoint, s.CanSend route endpoint) :
    KeepsData s (s.discoverAndSend clock dst payload).1 (s.discoverAndSend clock dst payload).2 := by
  rcases discoverAndSend_cases s clock dst payload with
    ⟨route, hroute, heq⟩ | ⟨-, -, heq⟩ | ⟨-, -, heq⟩
  · obtain ⟨endpoint, hsend⟩ := h route hroute
    rw [heq, originData_of_canSend hsend]
    exact ⟨rfl, fun _ _ _ => List.not_mem_nil⟩
  · rw [heq]
    exact ⟨rfl, fun _ _ _ => List.not_mem_nil⟩
  · rw [heq]
    exact ⟨rfl, fun _ _ _ => List.not_mem_nil⟩

/-! ## On the way and at the destination -/

/-- The checks every DATA packet passes before it is delivered or forwarded. -/
structure DataAdmitted (s : ProtocolState) (sender : SocketAddr) (d : Data) (prev : NodeId) :
    Prop where
  mode : d.protocolMode = s.config.protocolMode
  sender : s.nodeIdByEndpoint sender = some prev
  neighbor : prev ∈ s.logicalNeighbors

/-- At the destination, which is the last node of a path without repetitions. -/
theorem handleData_deliver {sender : SocketAddr} {d : Data} {prev : NodeId} {i : Nat}
    (h : s.DataAdmitted sender d prev) (hdst : d.dstNodeId = s.config.nodeId)
    (hnodup : d.dsrPath.Nodup) (hcursor : d.routeCursor = i + 1)
    (hprev : d.dsrPath[i]? = some prev) (hme : d.dsrPath[i + 1]? = some s.config.nodeId)
    (hlast : d.dsrPath.getLast? = some s.config.nodeId)
    (hlabels : d.protocolMode = .dlDsr → d.routeCursor = d.dldsrLabelPath.length) :
    s.handleData clock sender d =
      ({ s with metrics := { s.metrics with
          deliveredPackets := s.metrics.deliveredPackets + 1
          dataDelivered := s.metrics.dataDelivered + 1
          latencySamplesMs := s.metrics.latencySamplesMs ++ [clock 0 - d.createdAtMillis] } },
       { events :=
          [.dataDelivered s.config.nodeId d.srcNodeId d.dstNodeId d.sequence d.payload] }) := by
  have hvalid : s.validateDataDelivery prev d = .ok () := by
    unfold validateDataDelivery
    cases hmode : d.protocolMode with
    | dsr =>
      -- A node occurs once in the path, so its first occurrence is the one at the cursor.
      have hidx : d.dsrPath.idxOf? s.config.nodeId = some (i + 1) :=
        idxOf?_eq_some_iff_firstAt.mpr (firstAt_of_nodup hnodup hme)
      have hbefore : d.dsrPath.before? (i + 1) = some prev := hprev
      simp only [hlast, hidx, hcursor, hbefore, ne_eq, not_true_eq_false, if_false]
    | dlDsr =>
      show (if d.routeCursor ≠ d.dldsrLabelPath.length then _ else _) = Except.ok ()
      rw [if_neg (not_not.mpr (hlabels hmode))]
  unfold handleData
  rw [if_neg (fun hstrict => hstrict.2 h.mode), h.sender]
  dsimp only
  rw [isLogicalNeighbor_iff.mpr h.neighbor, if_neg Bool.noConfusion, if_pos hdst]
  unfold deliverData
  rw [hvalid]

/-- On the way, a node that finds itself at the cursor sends the packet on. -/
theorem handleData_forward {sender : SocketAddr} {d : Data} {prev next : NodeId}
    {endpoint : SocketAddr} (h : s.DataAdmitted sender d prev)
    (hdst : d.dstNodeId ≠ s.config.nodeId)
    (hme : d.dsrPath[d.routeCursor]? = some s.config.nodeId)
    (hnext : s.NextHop d.protocolMode d.dsrPath d.dldsrLabelPath d.routeCursor next endpoint) :
    s.handleData clock sender d = s.sendOn d endpoint := by
  unfold handleData
  rw [if_neg (fun hstrict => hstrict.2 h.mode), h.sender]
  dsimp only
  rw [isLogicalNeighbor_iff.mpr h.neighbor, if_neg Bool.noConfusion, if_neg hdst]
  cases hmode : d.protocolMode with
  | dsr =>
    show s.forwardDsr d = _
    unfold forwardDsr
    rw [if_neg (not_not.mpr hme), hnext.at_next]
    dsimp only
    rw [isLogicalNeighbor_iff.mpr hnext.neighbor, if_neg Bool.noConfusion, hnext.at_endpoint]
  | dlDsr =>
    obtain ⟨l, entry, hl, hentry, hid, hend⟩ := hnext.label hmode
    show s.forwardDlDsr d = _
    unfold forwardDlDsr
    rw [hl]
    dsimp only
    rw [hentry]
    dsimp only
    rw [hid, isLogicalNeighbor_iff.mpr hnext.neighbor, if_neg Bool.noConfusion, hend]

end ProtocolState

end DlDsr
