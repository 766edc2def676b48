import DlDsr.Lib.Overflow
import DlDsr.Node.Effects

/-!
# Packets and commands with overflow checks

The handlers of packets and commands once more, translated as a build with overflow checks
runs them: every addition and subtraction of the source is checked against the width of its
type (`usize` has 64 bits), and the `unreachable!` arm is an outcome of its own. Vectors and
maps are read with `get` everywhere, so no access can be out of range. What a handler
computes without a check is taken from the unchecked translation.

Each function comes with the lemma that it `Returns` what its unchecked counterpart returns,
provided the counters that are left behind still fit (`CountersFit`). `no_panic` puts them
together.
-/

namespace DlDsr

open Panic

/-! ## What fits -/

/-- A configuration as the TOML loader can produce it: an integer of a TOML file is at most
`i64::MAX`. -/
structure NodeConfig.FromToml (config : NodeConfig) : Prop where
  routeCacheTtlMs : config.routeCacheTtlMs < 2 ^ 63
  routeDiscoveryTimeoutMs : config.routeDiscoveryTimeoutMs < 2 ^ 63
  seenRequestTtlMs : config.seenRequestTtlMs < 2 ^ 63
  seenRequestMaxEntries : config.seenRequestMaxEntries < 2 ^ 63
  routeDiscoveryMaxRetries : config.routeDiscoveryMaxRetries < 2 ^ 32

/-- A vector takes up at most `isize::MAX` bytes. Every other field of a packet is
arbitrary. -/
def Packet.Sized : Packet → Prop
  | .rreq q =>
    q.dsrPath.length < 2 ^ 63 ∧ q.dldsrLabelPath.length < 2 ^ 63 ∧ q.tracePath.length < 2 ^ 63
  | .rrep p =>
    p.dsrPath.length < 2 ^ 63 ∧ p.dldsrLabelPath.length < 2 ^ 63 ∧ p.tracePath.length < 2 ^ 63
  | .data d => d.dsrPath.length < 2 ^ 63 ∧ d.dldsrLabelPath.length < 2 ^ 63
  | _ => True

/-- The `u64` counters are not exhausted. -/
structure ProtocolState.CountersFit (s : ProtocolState) : Prop where
  nextRequestId : s.nextRequestId < 2 ^ 64
  nextSequence : s.nextSequence < 2 ^ 64
  deliveredPackets : s.metrics.deliveredPackets < 2 ^ 64
  droppedPackets : s.metrics.droppedPackets < 2 ^ 64
  routeDiscoveryAttempts : s.metrics.routeDiscoveryAttempts < 2 ^ 64
  routeDiscoverySuccesses : s.metrics.routeDiscoverySuccesses < 2 ^ 64
  rreqForwarded : s.metrics.rreqForwarded < 2 ^ 64
  rreqDroppedDuplicate : s.metrics.rreqDroppedDuplicate < 2 ^ 64
  rreqDroppedTtl : s.metrics.rreqDroppedTtl < 2 ^ 64
  rrepForwarded : s.metrics.rrepForwarded < 2 ^ 64
  rrepDroppedInvalid : s.metrics.rrepDroppedInvalid < 2 ^ 64
  dataForwarded : s.metrics.dataForwarded < 2 ^ 64
  dataDelivered : s.metrics.dataDelivered < 2 ^ 64
  dataDropped : s.metrics.dataDropped < 2 ^ 64

namespace Checked

variable {s : ProtocolState} {clock : Clock} {dstNodeId : NodeId} {reason : String}
  {payload : List UInt8} {route : RouteEntry} {sender : SocketAddr}

/-- A checked computation does not stop, but returns what the unchecked one returns, if the
counters that are left behind fit. -/
def Returns {α : Type} (checked : Except Panic (ProtocolState × α))
    (result : ProtocolState × α) : Prop :=
  result.1.CountersFit → checked = .ok result

/-- Both branch on the same condition. -/
theorem Returns.ite {α : Type} {c : Prop} [Decidable c]
    {x y : Except Panic (ProtocolState × α)} {a b : ProtocolState × α}
    (hpos : c → Returns x a) (hneg : ¬ c → Returns y b) :
    Returns (if c then x else y) (if c then a else b) := by
  by_cases hc : c
  · rw [if_pos hc, if_pos hc]
    exact hpos hc
  · rw [if_neg hc, if_neg hc]
    exact hneg hc

/-! ## The duplicate cache -/

/-- `SeenRequests::enforce_max_entries`. -/
def enforceMaxEntries (seen : SeenRequests) (maxEntries : Nat) : Except Panic SeenRequests :=
  if maxEntries = 0 then .ok { seen := ∅ }
  else if seen.len ≤ maxEntries then .ok seen
  else do
    let entries := seen.byAge
    let removeCount ← sub entries.length maxEntries
    return { seen :=
      (entries.take removeCount).foldl (fun seen entry => seen.erase entry.1) seen.seen }

/-- `SeenRequests::mark_if_new`. -/
def markIfNew (seen : SeenRequests) (srcNodeId : NodeId)
    (requestId now ttlMs maxEntries : Nat) : Except Panic (SeenRequests × Bool) := do
  let pruned := seen.prune now ttlMs
  let isNew := (pruned.seen.lookup (srcNodeId, requestId)).isNone
  let inserted : SeenRequests := { seen := pruned.seen.insert (srcNodeId, requestId) now }
  let kept ← enforceMaxEntries inserted maxEntries
  return (kept, isNew)

/-- More entries are there than may stay when some are evicted. -/
theorem enforceMaxEntries_ok (seen : SeenRequests) (maxEntries : Nat) :
    enforceMaxEntries seen maxEntries = .ok (seen.enforceMaxEntries maxEntries) := by
  have hlength : seen.byAge.length = seen.len := seen.byAge_perm.length_eq
  unfold enforceMaxEntries SeenRequests.enforceMaxEntries
  by_cases hzero : maxEntries = 0
  · rw [if_pos hzero, if_pos hzero]
  rw [if_neg hzero, if_neg hzero]
  by_cases hlen : seen.len ≤ maxEntries
  · rw [if_pos hlen, if_pos hlen]
  · have hmore : maxEntries ≤ seen.byAge.length := by omega
    rw [if_neg hlen, if_neg hlen]
    dsimp only
    rw [sub_eq_ok hmore]
    rfl

theorem markIfNew_ok (seen : SeenRequests) (srcNodeId : NodeId)
    (requestId now ttlMs maxEntries : Nat) :
    markIfNew seen srcNodeId requestId now ttlMs maxEntries =
      .ok (seen.markIfNew srcNodeId requestId now ttlMs maxEntries) := by
  unfold markIfNew
  dsimp only
  rw [enforceMaxEntries_ok]
  rfl

/-! ## Sending and dropping DATA -/

/-- `ProtocolState::next_data_endpoint`. -/
def nextDataEndpoint (s : ProtocolState) : Packet → Except Panic (Option SocketAddr)
  | .data d =>
    match d.protocolMode with
    | .dsr => do
      let next ← add 64 d.routeCursor 1
      return (d.dsrPath[next]?).bind s.endpoint
    | .dlDsr =>
      .ok ((d.dldsrLabelPath[d.routeCursor]?).bind fun label =>
        (s.neighbors.neighborByLabel label).map NeighborEntry.endpoint)
  | _ => .ok none

/-- `ProtocolState::drop_data`. -/
def dropData (s : ProtocolState) (dstNodeId : NodeId) (reason : String) :
    Except Panic (ProtocolState × ProtocolActions) := do
  let droppedPackets ← add 64 s.metrics.droppedPackets 1
  let dataDropped ← add 64 s.metrics.dataDropped 1
  return ({ s with metrics := { s.metrics with
      droppedPackets := droppedPackets
      dataDropped := dataDropped } },
    { events := [.dataDropped s.config.nodeId dstNodeId reason,
      .routeError s.config.nodeId dstNodeId reason] })

/-- `ProtocolState::origin_data`. -/
def originData (s : ProtocolState) (clock : Clock) (dstNodeId : NodeId) (payload : List UInt8)
    (route : RouteEntry) : Except Panic (ProtocolState × ProtocolActions) := do
  let nextSequence ← add 64 s.nextSequence 1
  let next := { s with nextSequence := nextSequence }
  let lookupPacket := Packet.data (s.lookupPacket clock dstNodeId payload route)
  match ← nextDataEndpoint next lookupPacket with
  | some endpoint =>
    match lookupPacket with
    | .data d => return (next, { outbound := [⟨.data { d with routeCursor := 1 }, endpoint⟩] })
    | _ => throw .unreachable
  | none => dropData next dstNodeId "DATA origin next-hop lookup failed"

/-- The loop of `flush_pending`. -/
def flushLoop (s : ProtocolState) (clock : Clock) (dstNodeId : NodeId) (route : RouteEntry) :
    List PendingData → Except Panic (ProtocolState × List OutboundPacket × List PendingData)
  | [] => .ok (s, [], [])
  | pending :: queue =>
    if pending.dstNodeId = dstNodeId then do
      let sent ← originData s clock dstNodeId pending.payload route
      let rest ← flushLoop sent.1 (clock.later 1) dstNodeId route queue
      return (rest.1, sent.2.outbound ++ rest.2.1, rest.2.2)
    else do
      let rest ← flushLoop s clock dstNodeId route queue
      return (rest.1, rest.2.1, pending :: rest.2.2)

/-- `ProtocolState::flush_pending`. -/
def flushPending (s : ProtocolState) (clock : Clock) (dstNodeId : NodeId)
    (route : RouteEntry) : Except Panic (ProtocolState × List OutboundPacket) := do
  let flushed ← flushLoop s clock dstNodeId route s.pendingData
  return ({ flushed.1 with pendingData := flushed.2.2 }, flushed.2.1)

theorem dropData_returns :
    Returns (dropData s dstNodeId reason) (s.dropData dstNodeId reason) := by
  intro hfit
  have hdropped : s.metrics.droppedPackets + 1 < 2 ^ 64 := hfit.droppedPackets
  have hdata : s.metrics.dataDropped + 1 < 2 ^ 64 := hfit.dataDropped
  unfold dropData
  rw [add_eq_ok hdropped, add_eq_ok hdata]
  rfl

/-- A cursor that can be moved on is looked up without overflow. -/
theorem nextDataEndpoint_ok {d : Data} (hcursor : d.routeCursor + 1 < 2 ^ 64) :
    nextDataEndpoint s (.data d) = .ok (s.nextDataEndpoint (.data d)) := by
  unfold nextDataEndpoint ProtocolState.nextDataEndpoint
  cases hmode : d.protocolMode with
  | dsr =>
    simp only [hmode]
    rw [add_eq_ok hcursor]
    rfl
  | dlDsr => simp only [hmode]

/-- Dropping only counts up. -/
theorem countersFit_of_dropData (hfit : (s.dropData dstNodeId reason).1.CountersFit) :
    s.CountersFit :=
  { hfit with
    droppedPackets := Nat.lt_of_succ_lt hfit.droppedPackets
    dataDropped := Nat.lt_of_succ_lt hfit.dataDropped }

/-- So does originating DATA. -/
theorem countersFit_of_originData
    (hfit : (s.originData clock dstNodeId payload route).1.CountersFit) : s.CountersFit := by
  unfold ProtocolState.originData at hfit
  dsimp only at hfit
  split at hfit
  · exact { hfit with nextSequence := Nat.lt_of_succ_lt hfit.nextSequence }
  · have hnext := countersFit_of_dropData hfit
    exact { hnext with nextSequence := Nat.lt_of_succ_lt hnext.nextSequence }

theorem countersFit_of_flushLoop (queue : List PendingData)
    (hfit : (s.flushLoop clock dstNodeId route queue).1.CountersFit) : s.CountersFit := by
  induction queue generalizing s clock with
  | nil => exact hfit
  | cons pending queue ih =>
    simp only [ProtocolState.flushLoop] at hfit
    split at hfit
    · exact countersFit_of_originData (ih hfit)
    · exact ih hfit

/-- The packet that the next hop is looked up with is DATA with cursor 0. -/
theorem originData_returns :
    Returns (originData s clock dstNodeId payload route)
      (s.originData clock dstNodeId payload route) := by
  intro hfit
  have hsequence : s.nextSequence + 1 < 2 ^ 64 := by
    obtain ⟨m, hm⟩ := ProtocolState.originData_state s clock dstNodeId payload route
    rw [hm] at hfit
    exact hfit.nextSequence
  have hcursor : (s.lookupPacket clock dstNodeId payload route).routeCursor + 1 < 2 ^ 64 := by
    show 0 + 1 < 2 ^ 64
    omega
  unfold originData
  rw [add_eq_ok hsequence, ok_bind]
  dsimp only
  rw [nextDataEndpoint_ok hcursor, ok_bind]
  unfold ProtocolState.originData at hfit ⊢
  dsimp only at hfit ⊢
  cases hend : ProtocolState.nextDataEndpoint { s with nextSequence := s.nextSequence + 1 }
    (.data (s.lookupPacket clock dstNodeId payload route)) with
  | some endpoint => rfl
  | none =>
    rw [hend] at hfit
    exact dropData_returns hfit

theorem flushLoop_returns (queue : List PendingData) :
    Returns (flushLoop s clock dstNodeId route queue)
      (s.flushLoop clock dstNodeId route queue) := by
  induction queue generalizing s clock with
  | nil => exact fun _ => rfl
  | cons pending queue ih =>
    simp only [ProtocolState.flushLoop, flushLoop]
    refine .ite (fun _ hfit => ?_) fun _ hfit => ?_
    · -- The counters fit after the rest of the queue, so they fit before it.
      rw [originData_returns (countersFit_of_flushLoop queue hfit), ok_bind, ih hfit]
      rfl
    · rw [ih hfit]
      rfl

theorem flushPending_returns :
    Returns (flushPending s clock dstNodeId route) (s.flushPending clock dstNodeId route) := by
  intro hfit
  have hloop : (s.flushLoop clock dstNodeId route s.pendingData).1.CountersFit :=
    { hfit with }
  unfold flushPending
  rw [flushLoop_returns s.pendingData hloop]
  rfl

/-! ## Commands -/

/-- `ProtocolState::start_discovery`. -/
def startDiscovery (s : ProtocolState) (clock : Clock) (dstNodeId : NodeId)
    (retriesDone : Nat) : Except Panic (ProtocolState × ProtocolActions) := do
  let requestId := s.nextRequestId
  let nextRequestId ← add 64 s.nextRequestId 1
  let now := clock 0
  let marked ← markIfNew s.seenRequests s.config.nodeId requestId now
    s.config.seenRequestTtlMs s.config.seenRequestMaxEntries
  let attempts ← add 64 s.metrics.routeDiscoveryAttempts 1
  return ({ s with
      nextRequestId := nextRequestId
      seenRequests := marked.1
      discoveries := s.discoveries.insert dstNodeId
        { requestId := requestId, lastSentMillis := now, retriesDone := retriesDone }
      metrics := { s.metrics with routeDiscoveryAttempts := attempts } },
    { outbound := s.floodRreq now dstNodeId requestId })

/-- `ProtocolState::discover_and_send`. -/
def discoverAndSend (s : ProtocolState) (clock : Clock) (dstNodeId : NodeId)
    (payload : List UInt8) : Except Panic (ProtocolState × ProtocolActions) :=
  match s.routes.shortest dstNodeId (clock 0) with
  | some route => originData s (clock.later 1) dstNodeId payload route
  | none =>
    let queued := { s with pendingData := s.pendingData ++ [⟨dstNodeId, payload⟩] }
    if dstNodeId ∈ s.discoveries then .ok (queued, {})
    else startDiscovery queued (clock.later 1) dstNodeId 0

/-- `ProtocolState::handle_command`. -/
def handleCommand (s : ProtocolState) (clock : Clock) :
    ProtocolCommand → Except Panic (ProtocolState × ProtocolActions)
  | .discoverAndSend dstNodeId payload => discoverAndSend s clock dstNodeId payload

theorem startDiscovery_returns {retriesDone : Nat} :
    Returns (startDiscovery s clock dstNodeId retriesDone)
      (s.startDiscovery clock dstNodeId retriesDone) := by
  intro hfit
  have hid : s.nextRequestId + 1 < 2 ^ 64 := hfit.nextRequestId
  have hattempts : s.metrics.routeDiscoveryAttempts + 1 < 2 ^ 64 := hfit.routeDiscoveryAttempts
  unfold startDiscovery
  dsimp only
  rw [add_eq_ok hid, ok_bind, markIfNew_ok, ok_bind, add_eq_ok hattempts]
  rfl

theorem handleCommand_returns (command : ProtocolCommand) :
    Returns (handleCommand s clock command) (s.handleCommand clock command) := by
  obtain ⟨dst, payload⟩ := command
  show Returns (discoverAndSend s clock dst payload) (s.discoverAndSend clock dst payload)
  unfold discoverAndSend ProtocolState.discoverAndSend
  cases s.routes.shortest dst (clock 0) with
  | some route => exact originData_returns
  | none => exact .ite (fun _ _ => rfl) fun _ => startDiscovery_returns

/-! ## RREQ -/

/-- The loop in which `handle_rreq` forwards an RREQ: `rreq_forwarded` after it, and the
copies. `q` carries the extended paths. -/
def forwardLoop (s : ProtocolState) (q : Rreq) (rreqForwarded : Nat) :
    List NodeId → Except Panic (Nat × List OutboundPacket)
  | [] => .ok (rreqForwarded, [])
  | neighborId :: neighbors =>
    if neighborId != q.previousHop then
      match s.endpoint neighborId with
      | none => forwardLoop s q rreqForwarded neighbors
      | some endpoint => do
        let rreqForwarded ← add 64 rreqForwarded 1
        let hopCount ← addU8 q.hopCount 1
        let rest ← forwardLoop s q rreqForwarded neighbors
        return (rest.1,
          { packet := .rreq { q with
              previousHop := s.config.nodeId
              hopCount := hopCount }
            dst := endpoint } :: rest.2)
    else forwardLoop s q rreqForwarded neighbors

/-- `ProtocolState::handle_rreq`. -/
def handleRreq (s : ProtocolState) (clock : Clock) (q : Rreq) :
    Except Panic (ProtocolState × ProtocolActions) :=
  if s.isLogicalNeighbor q.previousHop = false then .ok (s, {})
  else if s.config.maxRreqHops ≤ q.hopCount then do
    let rreqDroppedTtl ← add 64 s.metrics.rreqDroppedTtl 1
    return ({ s with metrics := { s.metrics with rreqDroppedTtl := rreqDroppedTtl } }, {})
  else do
    let marked ← markIfNew s.seenRequests q.srcNodeId q.requestId (clock 0)
      s.config.seenRequestTtlMs s.config.seenRequestMaxEntries
    let remembered := { s with seenRequests := marked.1 }
    if marked.2 = false then do
      let rreqDroppedDuplicate ← add 64 s.metrics.rreqDroppedDuplicate 1
      return ({ remembered with metrics := { s.metrics with
        rreqDroppedDuplicate := rreqDroppedDuplicate } }, {})
    else
      match remembered.extendRreq q with
      | none => do
        let droppedPackets ← add 64 s.metrics.droppedPackets 1
        return ({ remembered with metrics := { s.metrics with
          droppedPackets := droppedPackets } }, {})
      | some extended =>
        if s.config.nodeId = q.dstNodeId then do
          -- The log line of the answer counts this hop.
          let _ ← addU8 q.hopCount 1
          return remembered.answerRreq extended
        else do
          let forwarded ← forwardLoop remembered extended s.metrics.rreqForwarded
            remembered.logicalNeighbors
          return ({ remembered with metrics := { s.metrics with
              rreqForwarded := forwarded.1 } },
            { outbound := forwarded.2 })

/-- The copies for some of the neighbours. -/
def copiesFor (s : ProtocolState) (q : Rreq) (neighbors : List NodeId) : List OutboundPacket :=
  (neighbors.filter fun neighborId => neighborId != q.previousHop).filterMap
    fun neighborId => (s.endpoint neighborId).map fun endpoint =>
      { packet := .rreq { q with
          previousHop := s.config.nodeId
          hopCount := q.hopCount + 1 }
        dst := endpoint }

/-- Every copy is counted, and carries one more hop. -/
theorem forwardLoop_ok {q : Rreq} (hhop : q.hopCount.toNat + 1 < 2 ^ 8) (rreqForwarded : Nat)
    (neighbors : List NodeId)
    (hfit : rreqForwarded + (copiesFor s q neighbors).length < 2 ^ 64) :
    forwardLoop s q rreqForwarded neighbors =
      .ok (rreqForwarded + (copiesFor s q neighbors).length, copiesFor s q neighbors) := by
  induction neighbors generalizing rreqForwarded with
  | nil => rfl
  | cons neighborId neighbors ih =>
    unfold forwardLoop
    by_cases hprevious : (neighborId != q.previousHop) = true
    · rw [if_pos hprevious]
      cases hend : s.endpoint neighborId with
      | none =>
        have hcopies : copiesFor s q (neighborId :: neighbors) = copiesFor s q neighbors := by
          simp [copiesFor, hprevious, hend]
        rw [hcopies] at hfit ⊢
        exact ih rreqForwarded hfit
      | some endpoint =>
        have hcopies : copiesFor s q (neighborId :: neighbors) =
            { packet := .rreq { q with
                previousHop := s.config.nodeId
                hopCount := q.hopCount + 1 }
              dst := endpoint } :: copiesFor s q neighbors := by
          simp [copiesFor, hprevious, hend]
        rw [hcopies, List.length_cons] at hfit ⊢
        have hcount : rreqForwarded + 1 < 2 ^ 64 := by omega
        have hbyte : q.hopCount.toNat + (1 : UInt8).toNat < 2 ^ 8 := hhop
        have hrest := ih (rreqForwarded + 1) (by omega)
        dsimp only
        rw [add_eq_ok hcount, ok_bind, addU8_eq_ok hbyte, ok_bind, hrest, Nat.add_right_comm]
        rfl
    · rw [if_neg hprevious]
      have hcopies : copiesFor s q (neighborId :: neighbors) = copiesFor s q neighbors := by
        simp only [copiesFor, List.filter_cons, if_neg hprevious]
      rw [hcopies] at hfit ⊢
      exact ih rreqForwarded hfit

/-- An RREQ that may still be forwarded has a hop count that can be increased. -/
theorem handleRreq_returns (q : Rreq) :
    Returns (handleRreq s clock q) (s.handleRreq clock q) := by
  unfold handleRreq ProtocolState.handleRreq
  refine .ite (fun _ _ => rfl) fun hneighbor => .ite (fun _ hfit => ?_) fun hhops => ?_
  · rw [add_eq_ok hfit.rreqDroppedTtl]
    rfl
  have hadmits : s.Admits q := ⟨by simpa using hneighbor, by simpa using hhops⟩
  have hhop : q.hopCount.toNat + 1 < 2 ^ 8 := by
    have hlt := (q.hopCount + 1).toNat_lt
    rw [hadmits.hopCount_succ] at hlt
    exact hlt
  rw [markIfNew_ok, ok_bind]
  dsimp only
  generalize s.seenRequests.markIfNew q.srcNodeId q.requestId (clock 0)
    s.config.seenRequestTtlMs s.config.seenRequestMaxEntries = marked
  refine .ite (fun _ hfit => ?_) fun _ => ?_
  · rw [add_eq_ok hfit.rreqDroppedDuplicate]
    rfl
  cases he : ProtocolState.extendRreq { s with seenRequests := marked.1 } q with
  | none =>
    intro hfit
    dsimp only
    rw [add_eq_ok hfit.droppedPackets]
    rfl
  | some e =>
    have hhop' : e.hopCount.toNat + 1 < 2 ^ 8 := by
      rw [(ProtocolState.extendRreq_eq_some.mp he).1]
      exact hhop
    refine .ite (fun _ _ => ?_) fun _ hfit => ?_
    · rw [addU8_eq_ok hhop]
      rfl
    · rw [forwardLoop_ok hhop' _ _ hfit.rreqForwarded]
      rfl

/-! ## RREP -/

/-- `ProtocolState::validate_rrep`. -/
def validateRrep (s : ProtocolState) (sender : SocketAddr) (tracePath : List NodeId) :
    Except Panic (Except String Unit) :=
  match s.nodeIdByEndpoint sender with
  | none => .ok (.error s!"RREP sender endpoint {sender} is unknown")
  | some senderNodeId =>
    if s.isLogicalNeighbor senderNodeId = false then
      .ok (.error s!"RREP sender node {senderNodeId} is not a logical neighbor")
    else
      match tracePath.idxOf? s.config.nodeId with
      | none => .ok (.error "RREP trace_path does not include current node")
      | some position => do
        let next ← add 64 position 1
        match tracePath[next]? with
        | none => return .error "RREP current node has no sender-side trace hop"
        | some expectedSender =>
          if senderNodeId ≠ expectedSender then
            return .error
              s!"RREP sender node {senderNodeId} does not match trace hop {expectedSender}"
          else if s.areAdjacent s.config.nodeId expectedSender = false then
            return .error
              s!"RREP sender trace hop {expectedSender} is not adjacent to current node"
          else
            match tracePath.before? position with
            | some reverseNext =>
              if s.areAdjacent s.config.nodeId reverseNext = false then
                return .error
                  s!"RREP reverse next hop {reverseNext} is not adjacent to current node"
              else return .ok ()
            | none => return .ok ()

/-- The source's part of `handle_rrep`. -/
def acceptRrep (s : ProtocolState) (clock : Clock) (p : Rrep) :
    Except Panic (ProtocolState × ProtocolActions) := do
  let expiresAtMillis ← add 64 (clock 0) s.config.routeCacheTtlMs
  let route : RouteEntry :=
    match s.config.protocolMode with
    | .dsr => RouteEntry.newDsr p.dstNodeId p.dsrPath expiresAtMillis
    | .dlDsr =>
      { dstNodeId := p.dstNodeId, dsrPath := p.dsrPath, dldsrLabelPath := p.dldsrLabelPath,
        expiresAtMillis := expiresAtMillis }
  let successes ← add 64 s.metrics.routeDiscoverySuccesses 1
  let cached := { s with
    routes := s.routes.insert route
    discoveries := s.discoveries.erase p.dstNodeId
    metrics := { s.metrics with routeDiscoverySuccesses := successes } }
  let flushed ← flushPending cached (clock.later 1) p.dstNodeId route
  return (flushed.1,
    { outbound := flushed.2
      events := [.routeCached s.config.nodeId p.dstNodeId p.requestId] })

/-- The relaying part of `handle_rrep`. -/
def relayRrep (s : ProtocolState) (p : Rrep) : Except Panic (ProtocolState × ProtocolActions) :=
  match (previousInTrace p.tracePath s.config.nodeId).bind s.endpoint with
  | some endpoint => do
    let rrepForwarded ← add 64 s.metrics.rrepForwarded 1
    return ({ s with metrics := { s.metrics with rrepForwarded := rrepForwarded } },
      { outbound := [⟨.rrep p, endpoint⟩] })
  | none => .ok (s, {})

/-- `ProtocolState::handle_rrep`. -/
def handleRrep (s : ProtocolState) (clock : Clock) (sender : SocketAddr) (p : Rrep) :
    Except Panic (ProtocolState × ProtocolActions) := do
  match ← validateRrep s sender p.tracePath with
  | .error reason =>
    let rrepDroppedInvalid ← add 64 s.metrics.rrepDroppedInvalid 1
    return ({ s with metrics := { s.metrics with rrepDroppedInvalid := rrepDroppedInvalid } },
      { events := [.routeError s.config.nodeId p.dstNodeId reason] })
  | .ok () =>
    if s.config.nodeId = p.srcNodeId then acceptRrep s clock p
    else relayRrep s p

/-- A position at which a path can be read can be increased. -/
theorem succ_lt_of_read {α : Type} {path : List α} {position : Nat} {a : α}
    (hread : path[position]? = some a) (hsized : path.length < 2 ^ 63) :
    position + 1 < 2 ^ 64 := by
  obtain ⟨hlt, -⟩ := List.getElem?_eq_some_iff.mp hread
  omega

/-- The position of a node in a trace can be increased. -/
theorem validateRrep_ok {tracePath : List NodeId} (hsized : tracePath.length < 2 ^ 63) :
    validateRrep s sender tracePath = .ok (s.validateRrep sender tracePath) := by
  unfold validateRrep ProtocolState.validateRrep
  cases s.nodeIdByEndpoint sender with
  | none => rfl
  | some senderNodeId =>
    dsimp only
    split
    · rfl
    cases hposition : tracePath.idxOf? s.config.nodeId with
    | none => rfl
    | some position =>
      have hnext : position + 1 < 2 ^ 64 :=
        succ_lt_of_read (idxOf?_eq_some_iff_firstAt.mp hposition).1 hsized
      dsimp only
      rw [add_eq_ok hnext, ok_bind]
      cases tracePath[position + 1]? with
      | none => rfl
      | some expectedSender =>
        dsimp only
        split
        · rfl
        split
        · rfl
        cases tracePath.before? position with
        | none => rfl
        | some reverseNext =>
          dsimp only
          split <;> rfl

/-- The time at which a route expires is below `u64::MAX`. -/
theorem acceptRrep_returns {p : Rrep} (hclock : clock 0 < 2 ^ 63)
    (hconfig : s.config.FromToml) :
    Returns (acceptRrep s clock p) (s.acceptRrep clock p) := by
  intro hfit
  have hexpires : clock 0 + s.config.routeCacheTtlMs < 2 ^ 64 := by
    have := hconfig.routeCacheTtlMs
    omega
  have hloop : ((s.cacheRoute clock p).flushLoop (clock.later 1) p.dstNodeId
      (s.routeOf clock p) s.pendingData).1.CountersFit := { hfit with }
  have hsuccesses := (countersFit_of_flushLoop s.pendingData hloop).routeDiscoverySuccesses
  have hflush : flushPending (s.cacheRoute clock p) (clock.later 1) p.dstNodeId
      (s.routeOf clock p) = _ := flushPending_returns { hfit with }
  unfold acceptRrep
  rw [add_eq_ok hexpires, ok_bind]
  dsimp only
  rw [add_eq_ok hsuccesses, ok_bind]
  show (flushPending (s.cacheRoute clock p) (clock.later 1) p.dstNodeId
    (s.routeOf clock p) >>= _) = _
  rw [hflush]
  rfl

theorem relayRrep_returns (p : Rrep) : Returns (relayRrep s p) (s.relayRrep p) := by
  unfold relayRrep ProtocolState.relayRrep
  cases (previousInTrace p.tracePath s.config.nodeId).bind s.endpoint with
  | none => exact fun _ => rfl
  | some endpoint =>
    intro hfit
    dsimp only
    rw [add_eq_ok hfit.rrepForwarded]
    rfl

theorem handleRrep_returns {p : Rrep} (hclock : clock 0 < 2 ^ 63)
    (hconfig : s.config.FromToml) (hsized : p.tracePath.length < 2 ^ 63) :
    Returns (handleRrep s clock sender p) (s.handleRrep clock sender p) := by
  unfold handleRrep ProtocolState.handleRrep
  rw [validateRrep_ok hsized, ok_bind]
  cases s.validateRrep sender p.tracePath with
  | error reason =>
    intro hfit
    dsimp only
    rw [add_eq_ok hfit.rrepDroppedInvalid]
    rfl
  | ok _ =>
    exact .ite (fun _ => acceptRrep_returns hclock hconfig) fun _ => relayRrep_returns p

/-! ## DATA -/

/-- The destination's part of `handle_data`. -/
def deliverData (s : ProtocolState) (clock : Clock) (senderNodeId : NodeId) (d : Data) :
    Except Panic (ProtocolState × ProtocolActions) :=
  match s.validateDataDelivery senderNodeId d with
  | .error reason => dropData s d.dstNodeId reason
  | .ok () => do
    let deliveredPackets ← add 64 s.metrics.deliveredPackets 1
    let dataDelivered ← add 64 s.metrics.dataDelivered 1
    return ({ s with metrics := { s.metrics with
        deliveredPackets := deliveredPackets
        dataDelivered := dataDelivered
        latencySamplesMs := s.metrics.latencySamplesMs ++ [clock 0 - d.createdAtMillis] } },
      { events :=
        [.dataDelivered s.config.nodeId d.srcNodeId d.dstNodeId d.sequence d.payload] })

/-- DATA sent on with the cursor moved by one. -/
def sendOn (s : ProtocolState) (d : Data) (endpoint : SocketAddr) :
    Except Panic (ProtocolState × ProtocolActions) := do
  let dataForwarded ← add 64 s.metrics.dataForwarded 1
  let routeCursor ← add 64 d.routeCursor 1
  return ({ s with metrics := { s.metrics with dataForwarded := dataForwarded } },
    { outbound := [⟨.data { d with routeCursor := routeCursor }, endpoint⟩] })

/-- The DSR forwarding arm of `handle_data`. -/
def forwardDsr (s : ProtocolState) (d : Data) : Except Panic (ProtocolState × ProtocolActions) :=
  if d.dsrPath[d.routeCursor]? ≠ some s.config.nodeId then
    dropData s d.dstNodeId "DATA DSR cursor mismatch"
  else do
    let next ← add 64 d.routeCursor 1
    match d.dsrPath[next]? with
    | none => dropData s d.dstNodeId "DATA DSR route exhausted"
    | some nextNodeId =>
      if s.isLogicalNeighbor nextNodeId = false then
        dropData s d.dstNodeId s!"DATA DSR next hop {nextNodeId} is not a logical neighbor"
      else
        match s.endpoint nextNodeId with
        | some endpoint => sendOn s d endpoint
        | none => return (s, {})

/-- The DL-DSR forwarding arm of `handle_data`. -/
def forwardDlDsr (s : ProtocolState) (d : Data) :
    Except Panic (ProtocolState × ProtocolActions) :=
  match d.dldsrLabelPath[d.routeCursor]? with
  | none => dropData s d.dstNodeId "DATA DL-DSR label path exhausted"
  | some nextLabel =>
    match s.neighbors.neighborByLabel nextLabel with
    | none => dropData s d.dstNodeId s!"DATA DL-DSR label {nextLabel} lookup failed"
    | some entry =>
      if s.isLogicalNeighbor entry.nodeId = false then
        dropData s d.dstNodeId
          s!"DATA DL-DSR next hop {entry.nodeId} is not a logical neighbor"
      else sendOn s d entry.endpoint

/-- `ProtocolState::handle_data`. -/
def handleData (s : ProtocolState) (clock : Clock) (sender : SocketAddr) (d : Data) :
    Except Panic (ProtocolState × ProtocolActions) :=
  if s.config.strictProtocolMode ∧ d.protocolMode ≠ s.config.protocolMode then
    dropData s d.dstNodeId
      s!"protocol mode mismatch: packet={d.protocolMode}, node={s.config.protocolMode}"
  else
    match s.nodeIdByEndpoint sender with
    | none => dropData s d.dstNodeId s!"DATA sender endpoint {sender} is unknown"
    | some senderNodeId =>
      if s.isLogicalNeighbor senderNodeId = false then
        dropData s d.dstNodeId s!"DATA sender node {senderNodeId} is not a logical neighbor"
      else if d.dstNodeId = s.config.nodeId then deliverData s clock senderNodeId d
      else
        match d.protocolMode with
        | .dsr => forwardDsr s d
        | .dlDsr => forwardDlDsr s d

theorem deliverData_returns (senderNodeId : NodeId) (d : Data) :
    Returns (deliverData s clock senderNodeId d) (s.deliverData clock senderNodeId d) := by
  unfold deliverData ProtocolState.deliverData
  cases s.validateDataDelivery senderNodeId d with
  | error reason => exact dropData_returns
  | ok _ =>
    intro hfit
    dsimp only
    rw [add_eq_ok hfit.deliveredPackets, ok_bind, add_eq_ok hfit.dataDelivered]
    rfl

theorem sendOn_returns {d : Data} (endpoint : SocketAddr)
    (hcursor : d.routeCursor + 1 < 2 ^ 64) :
    Returns (sendOn s d endpoint) (s.sendOn d endpoint) := by
  intro hfit
  have hforwarded : s.metrics.dataForwarded + 1 < 2 ^ 64 := hfit.dataForwarded
  unfold sendOn
  rw [add_eq_ok hforwarded, ok_bind, add_eq_ok hcursor]
  rfl

/-- The cursor is moved on only where the path could be read at it. -/
theorem forwardDsr_returns {d : Data} (hsized : d.dsrPath.length < 2 ^ 63) :
    Returns (forwardDsr s d) (s.forwardDsr d) := by
  unfold forwardDsr ProtocolState.forwardDsr
  refine .ite (fun _ => dropData_returns) fun hread => ?_
  have hcursor := succ_lt_of_read (not_not.mp hread) hsized
  rw [add_eq_ok hcursor, ok_bind]
  cases d.dsrPath[d.routeCursor + 1]? with
  | none => exact dropData_returns
  | some nextNodeId =>
    refine .ite (fun _ => dropData_returns) fun _ => ?_
    cases s.endpoint nextNodeId with
    | none => exact fun _ => rfl
    | some endpoint => exact sendOn_returns endpoint hcursor

theorem forwardDlDsr_returns {d : Data} (hsized : d.dldsrLabelPath.length < 2 ^ 63) :
    Returns (forwardDlDsr s d) (s.forwardDlDsr d) := by
  unfold forwardDlDsr ProtocolState.forwardDlDsr
  cases hread : d.dldsrLabelPath[d.routeCursor]? with
  | none => exact dropData_returns
  | some nextLabel =>
    dsimp only
    cases s.neighbors.neighborByLabel nextLabel with
    | none => exact dropData_returns
    | some entry =>
      exact .ite (fun _ => dropData_returns) fun _ =>
        sendOn_returns entry.endpoint (succ_lt_of_read hread hsized)

theorem handleData_returns {d : Data} (hdsr : d.dsrPath.length < 2 ^ 63)
    (hlabels : d.dldsrLabelPath.length < 2 ^ 63) :
    Returns (handleData s clock sender d) (s.handleData clock sender d) := by
  unfold handleData ProtocolState.handleData
  refine .ite (fun _ => dropData_returns) fun _ => ?_
  cases s.nodeIdByEndpoint sender with
  | none => exact dropData_returns
  | some senderNodeId =>
    refine .ite (fun _ => dropData_returns) fun _ =>
      .ite (fun _ => deliverData_returns senderNodeId d) fun _ => ?_
    cases d.protocolMode with
    | dsr => exact forwardDsr_returns hdsr
    | dlDsr => exact forwardDlDsr_returns hlabels

/-! ## Packets -/

/-- `ProtocolState::handle_packet`. HELLO and HELLO_REPLY are handled without arithmetic. -/
def handlePacket (s : ProtocolState) (clock : Clock) (packet : Packet) (sender : SocketAddr) :
    Except Panic (ProtocolState × ProtocolActions) :=
  match packet with
  | .hello p => .ok (s.handleHello clock p sender)
  | .helloReply p => .ok (s.handleHelloReply p)
  | .rreq p => handleRreq s clock p
  | .rrep p => handleRrep s clock sender p
  | .data p => handleData s clock sender p
  | .ack _ => .ok (s, {})
  | .error _ => .ok (s, {})

theorem handlePacket_returns {packet : Packet} (hclock : clock 0 < 2 ^ 63)
    (hconfig : s.config.FromToml) (hsized : packet.Sized) :
    Returns (handlePacket s clock packet sender) (s.handlePacket clock packet sender) := by
  cases packet with
  | hello p => exact fun _ => rfl
  | helloReply p => exact fun _ => rfl
  | rreq q => exact handleRreq_returns q
  | rrep p => exact handleRrep_returns hclock hconfig hsized.2.2
  | data d => exact handleData_returns hsized.1 hsized.2
  | ack _ => exact fun _ => rfl
  | error _ => exact fun _ => rfl

/-- **No received packet and no command stops a node.** For every configuration that the
TOML loader can produce and every reachable state, whatever the fields of the packet and
whoever sends it: no addition or subtraction overflows and the `unreachable!` arm is not
taken, but the call returns what the unchecked one returns, as long as the clock is below
`2 ^ 63` and the `u64` counters are not exhausted by the call. -/
theorem no_panic {config : NodeConfig} (hconfig : config.FromToml)
    (hreach : ProtocolState.ReachableFrom config s) (hclock : ∀ i, clock i < 2 ^ 63) :
    (∀ packet sender, packet.Sized → (s.handlePacket clock packet sender).1.CountersFit →
      handlePacket s clock packet sender = .ok (s.handlePacket clock packet sender)) ∧
    ∀ command, (s.handleCommand clock command).1.CountersFit →
      handleCommand s clock command = .ok (s.handleCommand clock command) := by
  have hfrom : s.config.FromToml := hreach.config_eq ▸ hconfig
  exact ⟨fun packet sender hsized => handlePacket_returns (hclock 0) hfrom hsized,
    handleCommand_returns⟩

/-- Node 0, with node 1 as its neighbour. -/
def checkedSettings : NodeConfig :=
  { NodeConfig.testSettings .dsr with
    topology := ⟨[⟨0, .localhost 7000, [1]⟩, ⟨1, .localhost 7001, [0]⟩]⟩ }

/-- Its neighbour sends DATA with the last cursor and an RREQ with the last hop count. -/
theorem no_panic_hostile :
    let s : ProtocolState := .new checkedSettings
    let data : Packet := .data
      { srcNodeId := 1, dstNodeId := 9, sequence := 0, protocolMode := .dsr,
        routeCursor := 2 ^ 64 - 1, dsrPath := [1, 0, 0], dldsrLabelPath := [],
        payload := [], createdAtMillis := 0 }
    let rreq : Packet := .rreq
      { srcNodeId := 1, dstNodeId := 9, requestId := 2 ^ 64 - 1, previousHop := 1,
        hopCount := 255, dsrPath := [], dldsrLabelPath := [], tracePath := [],
        createdAtMillis := 0 }
    handlePacket s (fun _ => 5) data (.localhost 7001) =
        .ok (s.handlePacket (fun _ => 5) data (.localhost 7001)) ∧
      handlePacket s (fun _ => 5) rreq (.localhost 7001) =
        .ok (s.handlePacket (fun _ => 5) rreq (.localhost 7001)) ∧
      handleCommand s (fun _ => 5) (.discoverAndSend 9 [1]) =
        .ok (s.handleCommand (fun _ => 5) (.discoverAndSend 9 [1])) := by
  have hconfig : checkedSettings.FromToml := by constructor <;> decide
  have hclock : ∀ i, (fun _ => 5 : Clock) i < 2 ^ 63 := fun _ => show 5 < 2 ^ 63 by decide
  obtain ⟨hpacket, hcommand⟩ := no_panic hconfig .new hclock
  refine ⟨hpacket _ _ ⟨by decide, by decide⟩ ?_,
    hpacket _ _ ⟨by decide, by decide, by decide⟩ ?_, hcommand _ ?_⟩
  · constructor <;> decide
  · constructor <;> decide
  · constructor <;> decide

end Checked

end DlDsr
