import DlDsr.Core.Topology
import DlDsr.Core.Tables
import DlDsr.Core.Route
import DlDsr.Core.Metrics
import DlDsr.Lib.FirstOccurrence

/-!
# The protocol state machine (`dldsr-node/src/protocol.rs`)

One node's `ProtocolState` and every handler of it, translated function by
function. A handler returns the new state and the `ProtocolActions` it produced.

- **Clock.** The handlers read `now_millis()` themselves, some of them several
  times in one call. A call takes the whole sequence of readings it may make
  (`Clock`); nothing relates one reading to another.
- **Hash maps** iterate in the order of their entries; `ProtocolState.Reorder`
  relates two states that differ in these orders only, so that an arbitrary
  order is an arbitrary `Reorder` before a call.
- Logging is left out.
-/

namespace DlDsr

/-- The readings of `now_millis()` in one call, in the order they are made. -/
abbrev Clock := Nat → Nat

/-- The readings left after `k` of them. -/
def Clock.later (clock : Clock) (k : Nat) : Clock := fun i => clock (i + k)

/-- `ProtocolCommand`. -/
inductive ProtocolCommand where
  | discoverAndSend (dstNodeId : NodeId) (payload : List UInt8)
deriving DecidableEq

/-- `ProtocolEvent`. -/
inductive ProtocolEvent where
  | routeCached (nodeId dstNodeId : NodeId) (requestId : Nat)
  | dataDelivered (nodeId srcNodeId dstNodeId : NodeId) (sequence : Nat) (payload : List UInt8)
  | routeDiscoveryFailed (nodeId dstNodeId : NodeId) (attempts : Nat)
  | dataDropped (nodeId dstNodeId : NodeId) (reason : String)
  | routeError (nodeId dstNodeId : NodeId) (reason : String)
deriving DecidableEq

/-- A packet and the address it is sent to. -/
structure OutboundPacket where
  packet : Packet
  dst : SocketAddr
deriving DecidableEq

/-- What a call hands back to the daemon. -/
structure ProtocolActions where
  outbound : List OutboundPacket := []
  events : List ProtocolEvent := []
deriving DecidableEq

/-- A payload waiting for a route. -/
structure PendingData where
  dstNodeId : NodeId
  payload : List UInt8
deriving DecidableEq

/-- An outstanding route discovery. -/
structure DiscoveryState where
  requestId : Nat
  lastSentMillis : Nat
  retriesDone : Nat
deriving DecidableEq

/-- The state of one node. -/
structure ProtocolState where
  config : NodeConfig
  neighbors : NeighborTable := {}
  labels : LabelTable := {}
  routes : RouteCache := {}
  metrics : NodeMetrics := {}
  seenRequests : SeenRequests := {}
  pendingData : List PendingData := []
  discoveries : HashMap NodeId DiscoveryState := ∅
  nextRequestId : Nat := 1
  nextSequence : Nat := 1
deriving DecidableEq

/-- `previous_in_trace`: the node before the first occurrence of `current`. -/
def previousInTrace (tracePath : List NodeId) (current : NodeId) : Option NodeId :=
  (tracePath.idxOf? current).bind tracePath.before?

/-- `dsr_path` (or `trace_path`) with this node appended, unless it ends there. -/
def pushIfNotLast (path : List NodeId) (nodeId : NodeId) : List NodeId :=
  if path.getLast? ≠ some nodeId then path ++ [nodeId] else path

namespace ProtocolState

/-- `ProtocolState::new`. -/
def new (config : NodeConfig) : ProtocolState := { config := config }

/-! ## Topology lookups -/

/-- `ProtocolState::logical_neighbors`. -/
def logicalNeighbors (self : ProtocolState) : List NodeId :=
  ((self.config.topology.node self.config.nodeId).map TopologyNode.neighbors).getD []

/-- `ProtocolState::is_logical_neighbor`. -/
def isLogicalNeighbor (self : ProtocolState) (nodeId : NodeId) : Bool :=
  self.logicalNeighbors.contains nodeId

/-- `ProtocolState::endpoint`. -/
def endpoint (self : ProtocolState) (nodeId : NodeId) : Option SocketAddr :=
  (self.config.topology.node nodeId).map TopologyNode.endpoint

/-- `ProtocolState::node_id_by_endpoint`. -/
def nodeIdByEndpoint (self : ProtocolState) (endpoint : SocketAddr) : Option NodeId :=
  (self.config.topology.nodes.find? fun node => node.endpoint == endpoint).map TopologyNode.nodeId

/-- `ProtocolState::are_adjacent`. -/
def areAdjacent (self : ProtocolState) (left right : NodeId) : Bool :=
  ((self.config.topology.node left).map fun node => node.neighbors.contains right).getD false

/-! ## Sending and dropping DATA -/

/-- `ProtocolState::next_data_endpoint`. -/
def nextDataEndpoint (self : ProtocolState) : Packet → Option SocketAddr
  | .data d =>
    match d.protocolMode with
    | .dsr => (d.dsrPath[d.routeCursor + 1]?).bind self.endpoint
    | .dlDsr =>
      (d.dldsrLabelPath[d.routeCursor]?).bind fun label =>
        (self.neighbors.neighborByLabel label).map NeighborEntry.endpoint
  | _ => none

/-- `ProtocolState::drop_data`. -/
def dropData (self : ProtocolState) (dstNodeId : NodeId) (reason : String) :
    ProtocolState × ProtocolActions :=
  ({ self with metrics := { self.metrics with
      droppedPackets := self.metrics.droppedPackets + 1
      dataDropped := self.metrics.dataDropped + 1 } },
   { events := [.dataDropped self.config.nodeId dstNodeId reason,
      .routeError self.config.nodeId dstNodeId reason] })

/-- The packet `origin_data` looks the next hop up with: its cursor is 0. -/
def lookupPacket (self : ProtocolState) (clock : Clock) (dstNodeId : NodeId)
    (payload : List UInt8) (route : RouteEntry) : Data :=
  { srcNodeId := self.config.nodeId, dstNodeId := dstNodeId, sequence := self.nextSequence,
    protocolMode := self.config.protocolMode, routeCursor := 0, dsrPath := route.dsrPath,
    dldsrLabelPath := route.dldsrLabelPath, payload := payload, createdAtMillis := clock 0 }

/-- `ProtocolState::origin_data`: the packet is sent with cursor 1. -/
def originData (self : ProtocolState) (clock : Clock) (dstNodeId : NodeId)
    (payload : List UInt8) (route : RouteEntry) : ProtocolState × ProtocolActions :=
  let data := self.lookupPacket clock dstNodeId payload route
  let next := { self with nextSequence := self.nextSequence + 1 }
  match next.nextDataEndpoint (.data data) with
  | some endpoint => (next, { outbound := [⟨.data { data with routeCursor := 1 }, endpoint⟩] })
  | none => next.dropData dstNodeId "DATA origin next-hop lookup failed"

/-- The loop of `flush_pending` over the queue: the state after it, what it
sends, and the payloads it keeps. Only the `outbound` part of `origin_data`'s
actions is collected. -/
def flushLoop (self : ProtocolState) (clock : Clock) (dstNodeId : NodeId) (route : RouteEntry) :
    List PendingData → ProtocolState × List OutboundPacket × List PendingData
  | [] => (self, [], [])
  | pending :: queue =>
    if pending.dstNodeId = dstNodeId then
      let sent := self.originData clock dstNodeId pending.payload route
      let rest := sent.1.flushLoop (clock.later 1) dstNodeId route queue
      (rest.1, sent.2.outbound ++ rest.2.1, rest.2.2)
    else
      let rest := self.flushLoop clock dstNodeId route queue
      (rest.1, rest.2.1, pending :: rest.2.2)

/-- `ProtocolState::flush_pending`. -/
def flushPending (self : ProtocolState) (clock : Clock) (dstNodeId : NodeId)
    (route : RouteEntry) : ProtocolState × List OutboundPacket :=
  let flushed := self.flushLoop clock dstNodeId route self.pendingData
  ({ flushed.1 with pendingData := flushed.2.2 }, flushed.2.1)

/-- `ProtocolState::drop_pending_for_dst`: the state without the payloads for
`dstNodeId`, and how many there were. -/
def dropPendingForDst (self : ProtocolState) (dstNodeId : NodeId) : ProtocolState × Nat :=
  ({ self with pendingData := self.pendingData.filter fun p => p.dstNodeId != dstNodeId },
   self.pendingData.countP fun p => p.dstNodeId == dstNodeId)

/-! ## Commands and ticks -/

/-- The RREQ copies `start_discovery` floods. -/
def floodRreq (self : ProtocolState) (now : Nat) (dstNodeId : NodeId) (requestId : Nat) :
    List OutboundPacket :=
  self.logicalNeighbors.filterMap fun neighborId =>
    (self.endpoint neighborId).map fun endpoint =>
      { packet := .rreq
          { srcNodeId := self.config.nodeId, dstNodeId := dstNodeId, requestId := requestId,
            previousHop := self.config.nodeId, hopCount := 0,
            dsrPath := [self.config.nodeId], dldsrLabelPath := [],
            tracePath := [self.config.nodeId], createdAtMillis := now }
        dst := endpoint }

/-- `ProtocolState::start_discovery`. -/
def startDiscovery (self : ProtocolState) (clock : Clock) (dstNodeId : NodeId)
    (retriesDone : Nat) : ProtocolState × ProtocolActions :=
  let requestId := self.nextRequestId
  let now := clock 0
  let marked := self.seenRequests.markIfNew self.config.nodeId requestId now
    self.config.seenRequestTtlMs self.config.seenRequestMaxEntries
  ({ self with
      nextRequestId := self.nextRequestId + 1
      seenRequests := marked.1
      discoveries := self.discoveries.insert dstNodeId
        { requestId := requestId, lastSentMillis := now, retriesDone := retriesDone }
      metrics := { self.metrics with
        routeDiscoveryAttempts := self.metrics.routeDiscoveryAttempts + 1 } },
   { outbound := self.floodRreq now dstNodeId requestId })

/-- `ProtocolState::discover_and_send`. -/
def discoverAndSend (self : ProtocolState) (clock : Clock) (dstNodeId : NodeId)
    (payload : List UInt8) : ProtocolState × ProtocolActions :=
  match self.routes.shortest dstNodeId (clock 0) with
  | some route => self.originData (clock.later 1) dstNodeId payload route
  | none =>
    let queued := { self with pendingData := self.pendingData ++ [⟨dstNodeId, payload⟩] }
    if dstNodeId ∈ self.discoveries then (queued, {})
    else queued.startDiscovery (clock.later 1) dstNodeId 0

/-- `ProtocolState::handle_command`. -/
def handleCommand (self : ProtocolState) (clock : Clock) :
    ProtocolCommand → ProtocolState × ProtocolActions
  | .discoverAndSend dstNodeId payload => self.discoverAndSend clock dstNodeId payload

/-- The failing branch of the `retry_expired_discoveries` loop. -/
def failDiscovery (self : ProtocolState) (dstNodeId : NodeId) (state : DiscoveryState) :
    ProtocolState × ProtocolActions :=
  let removed := { self with discoveries := self.discoveries.erase dstNodeId }
  let dropped := removed.dropPendingForDst dstNodeId
  ({ dropped.1 with metrics := { self.metrics with
      routeDiscoveryFailures := self.metrics.routeDiscoveryFailures + 1
      droppedPackets := self.metrics.droppedPackets + dropped.2
      dataDropped := self.metrics.dataDropped + dropped.2 } },
   { events := .routeDiscoveryFailed self.config.nodeId dstNodeId (state.retriesDone + 1) ::
      if 0 < dropped.2 then
        [.dataDropped self.config.nodeId dstNodeId "route discovery failed"] else [] })

/-- The loop of `retry_expired_discoveries` over the expired discoveries. -/
def retryLoop (self : ProtocolState) (clock : Clock) :
    List (Sigma fun _ : NodeId => DiscoveryState) → ProtocolState × ProtocolActions
  | [] => (self, {})
  | ⟨dstNodeId, state⟩ :: expired =>
    if self.config.routeDiscoveryMaxRetries ≤ state.retriesDone then
      let failed := self.failDiscovery dstNodeId state
      let rest := failed.1.retryLoop clock expired
      (rest.1, { outbound := rest.2.outbound, events := failed.2.events ++ rest.2.events })
    else
      let retried := self.startDiscovery clock dstNodeId (state.retriesDone + 1)
      let rest := retried.1.retryLoop (clock.later 1) expired
      (rest.1, { outbound := retried.2.outbound ++ rest.2.outbound, events := rest.2.events })

/-- The snapshot of discoveries whose timeout has passed, in iteration order. -/
def expiredDiscoveries (self : ProtocolState) (now : Nat) :
    List (Sigma fun _ : NodeId => DiscoveryState) :=
  self.discoveries.entries.filter fun entry =>
    decide (self.config.routeDiscoveryTimeoutMs ≤ now - entry.2.lastSentMillis)

/-- `ProtocolState::retry_expired_discoveries`. -/
def retryExpiredDiscoveries (self : ProtocolState) (clock : Clock) (now : Nat) :
    ProtocolState × ProtocolActions :=
  self.retryLoop clock (self.expiredDiscoveries now)

/-- `ProtocolState::handle_tick`. -/
def handleTick (self : ProtocolState) (clock : Clock) (now : Nat) :
    ProtocolState × ProtocolActions :=
  { self with seenRequests := self.seenRequests.prune now self.config.seenRequestTtlMs
    }.retryExpiredDiscoveries clock now

/-! ## HELLO and HELLO_REPLY -/

/-- `ProtocolState::handle_hello`. -/
def handleHello (self : ProtocolState) (clock : Clock) (p : Hello) (sender : SocketAddr) :
    ProtocolState × ProtocolActions :=
  if self.isLogicalNeighbor p.srcNodeId = false then (self, {})
  else
    match self.neighbors.assignOrReuseLabel p.srcNodeId sender (clock 0) with
    | (neighbors, .error _) => ({ self with neighbors := neighbors }, {})
    | (neighbors, .ok label) =>
      ({ self with neighbors := neighbors },
       { outbound := [{
          packet := .helloReply
            { srcNodeId := self.config.nodeId, dstNodeId := p.srcNodeId, assignedLabel := label,
              updateFlag := true, timestampMillis := clock 1 }
          dst := sender }] })

/-- `ProtocolState::handle_hello_reply`. -/
def handleHelloReply (self : ProtocolState) (p : HelloReply) :
    ProtocolState × ProtocolActions :=
  if p.dstNodeId = self.config.nodeId ∧ self.isLogicalNeighbor p.srcNodeId then
    ({ self with labels :=
        self.labels.updateFromHelloReply p.srcNodeId p.assignedLabel p.timestampMillis }, {})
  else (self, {})

/-! ## RREQ -/

/-- The RREP a destination answers an RREQ with; `q` carries the extended paths. -/
def generatedRrep (q : Rreq) : Rrep :=
  { srcNodeId := q.srcNodeId, dstNodeId := q.dstNodeId, requestId := q.requestId,
    dsrPath := q.dsrPath, dldsrLabelPath := q.dldsrLabelPath, tracePath := q.tracePath,
    createdAtMillis := q.createdAtMillis }

/-- The destination's part of `handle_rreq`. -/
def answerRreq (self : ProtocolState) (q : Rreq) : ProtocolState × ProtocolActions :=
  match (previousInTrace q.tracePath self.config.nodeId).bind self.endpoint with
  | some endpoint => (self, { outbound := [⟨.rrep (generatedRrep q), endpoint⟩] })
  | none => (self, {})

/-- The copies `handle_rreq` forwards; `q` carries the extended paths. -/
def rreqCopies (self : ProtocolState) (q : Rreq) : List OutboundPacket :=
  (self.logicalNeighbors.filter fun neighborId => neighborId != q.previousHop).filterMap
    fun neighborId => (self.endpoint neighborId).map fun endpoint =>
      { packet := .rreq { q with
          previousHop := self.config.nodeId
          hopCount := q.hopCount + 1 }
        dst := endpoint }

/-- The flooding part of `handle_rreq`. -/
def forwardRreq (self : ProtocolState) (q : Rreq) : ProtocolState × ProtocolActions :=
  let copies := self.rreqCopies q
  ({ self with metrics := { self.metrics with
      rreqForwarded := self.metrics.rreqForwarded + copies.length } },
   { outbound := copies })

/-- The RREQ with this node appended to `dsr_path` and `trace_path`, and, in
DL-DSR mode, the label the previous hop assigned to this node; `none` when that
label is not known. -/
def extendRreq (self : ProtocolState) (q : Rreq) : Option Rreq :=
  let extended := { q with
    dsrPath := pushIfNotLast q.dsrPath self.config.nodeId
    tracePath := pushIfNotLast q.tracePath self.config.nodeId }
  match self.config.protocolMode with
  | .dsr => some extended
  | .dlDsr =>
    (self.labels.labelAssignedByNeighbor q.previousHop).map fun label =>
      { extended with dldsrLabelPath := q.dldsrLabelPath ++ [label] }

/-- `ProtocolState::handle_rreq`. -/
def handleRreq (self : ProtocolState) (clock : Clock) (q : Rreq) :
    ProtocolState × ProtocolActions :=
  if self.isLogicalNeighbor q.previousHop = false then (self, {})
  else if self.config.maxRreqHops ≤ q.hopCount then
    ({ self with metrics := { self.metrics with
        rreqDroppedTtl := self.metrics.rreqDroppedTtl + 1 } }, {})
  else
    let marked := self.seenRequests.markIfNew q.srcNodeId q.requestId (clock 0)
      self.config.seenRequestTtlMs self.config.seenRequestMaxEntries
    let remembered := { self with seenRequests := marked.1 }
    if marked.2 = false then
      ({ remembered with metrics := { self.metrics with
          rreqDroppedDuplicate := self.metrics.rreqDroppedDuplicate + 1 } }, {})
    else
      match remembered.extendRreq q with
      | none =>
        ({ remembered with metrics := { self.metrics with
            droppedPackets := self.metrics.droppedPackets + 1 } }, {})
      | some extended =>
        if self.config.nodeId = q.dstNodeId then remembered.answerRreq extended
        else remembered.forwardRreq extended

/-! ## RREP -/

/-- `ProtocolState::validate_rrep`. -/
def validateRrep (self : ProtocolState) (sender : SocketAddr) (tracePath : List NodeId) :
    Except String Unit :=
  match self.nodeIdByEndpoint sender with
  | none => .error s!"RREP sender endpoint {sender} is unknown"
  | some senderNodeId =>
    if self.isLogicalNeighbor senderNodeId = false then
      .error s!"RREP sender node {senderNodeId} is not a logical neighbor"
    else
      match tracePath.idxOf? self.config.nodeId with
      | none => .error "RREP trace_path does not include current node"
      | some position =>
        match tracePath[position + 1]? with
        | none => .error "RREP current node has no sender-side trace hop"
        | some expectedSender =>
          if senderNodeId ≠ expectedSender then
            .error s!"RREP sender node {senderNodeId} does not match trace hop {expectedSender}"
          else if self.areAdjacent self.config.nodeId expectedSender = false then
            .error s!"RREP sender trace hop {expectedSender} is not adjacent to current node"
          else
            match tracePath.before? position with
            | some reverseNext =>
              if self.areAdjacent self.config.nodeId reverseNext = false then
                .error s!"RREP reverse next hop {reverseNext} is not adjacent to current node"
              else .ok ()
            | none => .ok ()

/-- The route `handle_rrep` caches at the source. -/
def routeOf (self : ProtocolState) (clock : Clock) (p : Rrep) : RouteEntry :=
  match self.config.protocolMode with
  | .dsr => RouteEntry.newDsr p.dstNodeId p.dsrPath (clock 0 + self.config.routeCacheTtlMs)
  | .dlDsr =>
    { dstNodeId := p.dstNodeId, dsrPath := p.dsrPath, dldsrLabelPath := p.dldsrLabelPath,
      expiresAtMillis := clock 0 + self.config.routeCacheTtlMs }

/-- The source's part of `handle_rrep`. -/
def acceptRrep (self : ProtocolState) (clock : Clock) (p : Rrep) :
    ProtocolState × ProtocolActions :=
  let route := self.routeOf clock p
  let cached := { self with
    routes := self.routes.insert route
    discoveries := self.discoveries.erase p.dstNodeId
    metrics := { self.metrics with
      routeDiscoverySuccesses := self.metrics.routeDiscoverySuccesses + 1 } }
  let flushed := cached.flushPending (clock.later 1) p.dstNodeId route
  (flushed.1,
   { outbound := flushed.2
     events := [.routeCached self.config.nodeId p.dstNodeId p.requestId] })

/-- The relaying part of `handle_rrep`. -/
def relayRrep (self : ProtocolState) (p : Rrep) : ProtocolState × ProtocolActions :=
  match (previousInTrace p.tracePath self.config.nodeId).bind self.endpoint with
  | some endpoint =>
    ({ self with metrics := { self.metrics with
        rrepForwarded := self.metrics.rrepForwarded + 1 } },
     { outbound := [⟨.rrep p, endpoint⟩] })
  | none => (self, {})

/-- `ProtocolState::handle_rrep`. -/
def handleRrep (self : ProtocolState) (clock : Clock) (sender : SocketAddr) (p : Rrep) :
    ProtocolState × ProtocolActions :=
  match self.validateRrep sender p.tracePath with
  | .error reason =>
    ({ self with metrics := { self.metrics with
        rrepDroppedInvalid := self.metrics.rrepDroppedInvalid + 1 } },
     { events := [.routeError self.config.nodeId p.dstNodeId reason] })
  | .ok () =>
    if self.config.nodeId = p.srcNodeId then self.acceptRrep clock p
    else self.relayRrep p

/-! ## DATA -/

/-- `ProtocolState::validate_data_delivery`. -/
def validateDataDelivery (self : ProtocolState) (senderNodeId : NodeId) (d : Data) :
    Except String Unit :=
  match d.protocolMode with
  | .dsr =>
    if d.dsrPath.getLast? ≠ some self.config.nodeId then
      .error "DATA DSR path does not end at destination"
    else
      match d.dsrPath.idxOf? self.config.nodeId with
      | none => .error "DATA DSR path does not include destination"
      | some expectedPosition =>
        if d.routeCursor ≠ expectedPosition then
          .error s!"DATA DSR delivery cursor {d.routeCursor} does not match destination position {expectedPosition}"
        else
          match d.dsrPath.before? expectedPosition with
          | none => .error "DATA DSR destination has no previous hop"
          | some previous =>
            if previous ≠ senderNodeId then
              .error s!"DATA DSR sender {senderNodeId} does not match previous hop {previous}"
            else .ok ()
  | .dlDsr =>
    if d.routeCursor ≠ d.dldsrLabelPath.length then
      .error s!"DATA DL-DSR delivery cursor {d.routeCursor} does not equal label path length {d.dldsrLabelPath.length}"
    else .ok ()

/-- The destination's part of `handle_data`. -/
def deliverData (self : ProtocolState) (clock : Clock) (senderNodeId : NodeId) (d : Data) :
    ProtocolState × ProtocolActions :=
  match self.validateDataDelivery senderNodeId d with
  | .error reason => self.dropData d.dstNodeId reason
  | .ok () =>
    ({ self with metrics := { self.metrics with
        deliveredPackets := self.metrics.deliveredPackets + 1
        dataDelivered := self.metrics.dataDelivered + 1
        latencySamplesMs := self.metrics.latencySamplesMs ++ [clock 0 - d.createdAtMillis] } },
     { events :=
        [.dataDelivered self.config.nodeId d.srcNodeId d.dstNodeId d.sequence d.payload] })

/-- DATA sent on with the cursor moved by one. -/
def sendOn (self : ProtocolState) (d : Data) (endpoint : SocketAddr) :
    ProtocolState × ProtocolActions :=
  ({ self with metrics := { self.metrics with dataForwarded := self.metrics.dataForwarded + 1 } },
   { outbound := [⟨.data { d with routeCursor := d.routeCursor + 1 }, endpoint⟩] })

/-- The DSR forwarding arm of `handle_data`. A listed neighbour without an
endpoint makes the packet vanish. -/
def forwardDsr (self : ProtocolState) (d : Data) : ProtocolState × ProtocolActions :=
  if d.dsrPath[d.routeCursor]? ≠ some self.config.nodeId then
    self.dropData d.dstNodeId "DATA DSR cursor mismatch"
  else
    match d.dsrPath[d.routeCursor + 1]? with
    | none => self.dropData d.dstNodeId "DATA DSR route exhausted"
    | some nextNodeId =>
      if self.isLogicalNeighbor nextNodeId = false then
        self.dropData d.dstNodeId s!"DATA DSR next hop {nextNodeId} is not a logical neighbor"
      else
        match self.endpoint nextNodeId with
        | some endpoint => self.sendOn d endpoint
        | none => (self, {})

/-- The DL-DSR forwarding arm of `handle_data`. -/
def forwardDlDsr (self : ProtocolState) (d : Data) : ProtocolState × ProtocolActions :=
  match d.dldsrLabelPath[d.routeCursor]? with
  | none => self.dropData d.dstNodeId "DATA DL-DSR label path exhausted"
  | some nextLabel =>
    match self.neighbors.neighborByLabel nextLabel with
    | none => self.dropData d.dstNodeId s!"DATA DL-DSR label {nextLabel} lookup failed"
    | some entry =>
      if self.isLogicalNeighbor entry.nodeId = false then
        self.dropData d.dstNodeId
          s!"DATA DL-DSR next hop {entry.nodeId} is not a logical neighbor"
      else self.sendOn d entry.endpoint

/-- `ProtocolState::handle_data`. -/
def handleData (self : ProtocolState) (clock : Clock) (sender : SocketAddr) (d : Data) :
    ProtocolState × ProtocolActions :=
  if self.config.strictProtocolMode ∧ d.protocolMode ≠ self.config.protocolMode then
    self.dropData d.dstNodeId
      s!"protocol mode mismatch: packet={d.protocolMode}, node={self.config.protocolMode}"
  else
    match self.nodeIdByEndpoint sender with
    | none => self.dropData d.dstNodeId s!"DATA sender endpoint {sender} is unknown"
    | some senderNodeId =>
      if self.isLogicalNeighbor senderNodeId = false then
        self.dropData d.dstNodeId
          s!"DATA sender node {senderNodeId} is not a logical neighbor"
      else if d.dstNodeId = self.config.nodeId then self.deliverData clock senderNodeId d
      else
        match d.protocolMode with
        | .dsr => self.forwardDsr d
        | .dlDsr => self.forwardDlDsr d

/-! ## Packets and calls -/

/-- `ProtocolState::handle_packet`. -/
def handlePacket (self : ProtocolState) (clock : Clock) (packet : Packet) (sender : SocketAddr) :
    ProtocolState × ProtocolActions :=
  match packet with
  | .hello p => self.handleHello clock p sender
  | .helloReply p => self.handleHelloReply p
  | .rreq p => self.handleRreq clock p
  | .rrep p => self.handleRrep clock sender p
  | .data p => self.handleData clock sender p
  | .ack _ => (self, {})
  | .error _ => (self, {})

/-- `Daemon::send_hellos`: one HELLO to every neighbour. The clock is read once
per packet. -/
def sendHellos (self : ProtocolState) (clock : Clock) : ProtocolActions :=
  let known := self.logicalNeighbors.filterMap self.endpoint
  { outbound := known.zipIdx.map fun (endpoint, i) =>
      { packet := .hello { srcNodeId := self.config.nodeId, timestampMillis := clock i }
        dst := endpoint } }

end ProtocolState

/-- What the daemon's event loop calls a node with. -/
inductive Input where
  | command (command : ProtocolCommand)
  | packet (packet : Packet) (sender : SocketAddr)
  | tick (now : Nat)
  | hello
deriving DecidableEq

namespace ProtocolState

/-- One call into the protocol. -/
def call (self : ProtocolState) (clock : Clock) : Input → ProtocolState × ProtocolActions
  | .command command => self.handleCommand clock command
  | .packet packet sender => self.handlePacket clock packet sender
  | .tick now => self.handleTick clock now
  | .hello => (self, self.sendHellos clock)

/-- The same state, its hash maps iterating in possibly different orders. -/
structure Reorder (s s' : ProtocolState) : Prop where
  config : s'.config = s.config
  neighbors : s.neighbors.entries.SameMap s'.neighbors.entries
  labels : s.labels.entries.SameMap s'.labels.entries
  routes : s.routes.routes.SameMap s'.routes.routes
  metrics : s'.metrics = s.metrics
  seenRequests : s.seenRequests.seen.SameMap s'.seenRequests.seen
  pendingData : s'.pendingData = s.pendingData
  discoveries : s.discoveries.SameMap s'.discoveries
  nextRequestId : s'.nextRequestId = s.nextRequestId
  nextSequence : s'.nextSequence = s.nextSequence

end ProtocolState

end DlDsr
