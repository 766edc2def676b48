import DlDsr.Core.Recall
import DlDsr.Node.Origination

/-!
# What a rejected RREQ leaves behind

`handle_rreq` rejects a copy at three points: when it does not come over a neighbour,
when its hops are used up, and, in DL-DSR mode, when no label of the previous hop is
known. The first two come before the duplicate check, the third comes after it, so a copy
that is rejected there has already been marked as seen.

- **Drop counters are never read** (`call_similar`): two nodes that differ in drop
  counters and in the iteration order of the duplicate cache only make the same calls
  with the same results.
- **The rejections that leave no trace** (`traceless_iff`) are thus those that do not
  reach the mark, and those whose mark is evicted at once.
-/

namespace DlDsr

/-- The same counters, apart from those of dropped packets. -/
def NodeMetrics.SameButDrops (m m' : NodeMetrics) : Prop :=
  ∃ dropped ttl duplicate, m' = { m with
    droppedPackets := dropped
    rreqDroppedTtl := ttl
    rreqDroppedDuplicate := duplicate }

namespace ProtocolState

variable {s s' : ProtocolState} {clock : Clock}

/-! ## Drop counters are never read -/

/-- The same state, apart from drop counters and the iteration order of the duplicate
cache. -/
def SameButDrops (s s' : ProtocolState) : Prop :=
  ∃ metrics seenRequests,
    s' = { s with metrics := metrics, seenRequests := seenRequests } ∧
      s.metrics.SameButDrops metrics ∧ s.seenRequests.seen.SameMap seenRequests.seen

/-- The same packets and events, and the same state apart from drop counters. -/
structure Similar (r r' : ProtocolState × ProtocolActions) : Prop where
  state : r.1.SameButDrops r'.1
  actions : r.2 = r'.2

theorem SameButDrops.refl (s : ProtocolState) : s.SameButDrops s :=
  ⟨s.metrics, s.seenRequests, rfl, ⟨_, _, _, rfl⟩, AList.SameMap.refl _⟩

theorem SameButDrops.trans {s'' : ProtocolState} (h : s.SameButDrops s')
    (h' : s'.SameButDrops s'') : s.SameButDrops s'' := by
  obtain ⟨_, _, rfl, ⟨_, _, _, rfl⟩, hseen⟩ := h
  obtain ⟨m, c, rfl, ⟨dropped, ttl, duplicate, hm⟩, hseen'⟩ := h'
  exact ⟨m, c, rfl, ⟨dropped, ttl, duplicate, hm⟩, hseen.trans hseen'⟩

/-- Counting dropped packets is no difference. -/
theorem sameButDrops_droppedPackets (s : ProtocolState) (k : Nat) :
    s.SameButDrops { s with metrics := { s.metrics with droppedPackets := k } } :=
  ⟨_, _, rfl, ⟨k, _, _, rfl⟩, AList.SameMap.refl _⟩

/-- Iterating in another order is none either. -/
theorem SameButDrops.reorder {t' : ProtocolState} (h : s.SameButDrops s') (hr : s'.Reorder t') :
    ∃ t, s.Reorder t ∧ t.SameButDrops t' := by
  obtain ⟨m, c, rfl, hm, hseen⟩ := h
  refine ⟨{ t' with metrics := s.metrics }, ?_, t'.metrics, t'.seenRequests, rfl, ?_,
    AList.SameMap.refl _⟩
  · exact
      { config := hr.config
        neighbors := hr.neighbors
        labels := hr.labels
        routes := hr.routes
        metrics := rfl
        seenRequests := hseen.trans hr.seenRequests
        pendingData := hr.pendingData
        discoveries := hr.discoveries
        nextRequestId := hr.nextRequestId
        nextSequence := hr.nextSequence }
  · rw [hr.metrics]
    exact hm

namespace SameButDrops

/-- What reads neither counters nor the duplicate cache has the same value. -/
theorem eq_of {β : Type} (h : s.SameButDrops s') (f : ProtocolState → β)
    (hf : ∀ s metrics seenRequests,
      f { s with metrics := metrics, seenRequests := seenRequests } = f s) : f s' = f s := by
  obtain ⟨m, c, rfl, -, -⟩ := h
  exact hf s m c

theorem seenRequests (h : s.SameButDrops s') :
    s.seenRequests.seen.SameMap s'.seenRequests.seen := by
  obtain ⟨m, c, rfl, -, hc⟩ := h
  exact hc

theorem config (h : s.SameButDrops s') : s'.config = s.config :=
  h.eq_of ProtocolState.config fun _ _ _ => rfl

theorem neighbors (h : s.SameButDrops s') : s'.neighbors = s.neighbors :=
  h.eq_of ProtocolState.neighbors fun _ _ _ => rfl

theorem routes (h : s.SameButDrops s') : s'.routes = s.routes :=
  h.eq_of ProtocolState.routes fun _ _ _ => rfl

theorem discoveries (h : s.SameButDrops s') : s'.discoveries = s.discoveries :=
  h.eq_of ProtocolState.discoveries fun _ _ _ => rfl

theorem isLogicalNeighbor (h : s.SameButDrops s') (n : NodeId) :
    s'.isLogicalNeighbor n = s.isLogicalNeighbor n :=
  h.eq_of (·.isLogicalNeighbor n) fun _ _ _ => rfl

theorem endpoint (h : s.SameButDrops s') : s'.endpoint = s.endpoint :=
  h.eq_of ProtocolState.endpoint fun _ _ _ => rfl

theorem nodeIdByEndpoint (h : s.SameButDrops s') (a : SocketAddr) :
    s'.nodeIdByEndpoint a = s.nodeIdByEndpoint a :=
  h.eq_of (·.nodeIdByEndpoint a) fun _ _ _ => rfl

theorem validateRrep (h : s.SameButDrops s') (sender : SocketAddr) (path : List NodeId) :
    s'.validateRrep sender path = s.validateRrep sender path :=
  h.eq_of (·.validateRrep sender path) fun _ _ _ => rfl

theorem validateDataDelivery (h : s.SameButDrops s') (n : NodeId) (d : Data) :
    s'.validateDataDelivery n d = s.validateDataDelivery n d :=
  h.eq_of (·.validateDataDelivery n d) fun _ _ _ => rfl

theorem extendRreq (h : s.SameButDrops s') (q : Rreq) : s'.extendRreq q = s.extendRreq q :=
  h.eq_of (·.extendRreq q) fun _ _ _ => rfl

end SameButDrops

/-! ### Forwarding and dropping -/

theorem dropData_similar (h : s.SameButDrops s') (dst : NodeId) (reason : String) :
    Similar (s.dropData dst reason) (s'.dropData dst reason) := by
  obtain ⟨m, c, rfl, ⟨dropped, ttl, duplicate, rfl⟩, hc⟩ := h
  exact ⟨⟨_, c, rfl, ⟨_, _, _, rfl⟩, hc⟩, rfl⟩

theorem originData_similar (h : s.SameButDrops s') (clock : Clock) (dst : NodeId)
    (payload : List UInt8) (route : RouteEntry) :
    Similar (s.originData clock dst payload route) (s'.originData clock dst payload route) := by
  obtain ⟨m, c, rfl, hm, hc⟩ := h
  cases hhop : s.firstHop route with
  | some endpoint =>
    rw [originData_of_hop hhop, originData_of_hop (s := { s with
      metrics := m, seenRequests := c }) ((firstHop_congr rfl rfl route).trans hhop)]
    exact ⟨⟨m, c, rfl, hm, hc⟩, rfl⟩
  | none =>
    rw [originData_of_noHop hhop, originData_of_noHop (s := { s with
      metrics := m, seenRequests := c }) ((firstHop_congr rfl rfl route).trans hhop)]
    refine dropData_similar ?_ dst _
    exact ⟨m, c, rfl, hm, hc⟩

theorem flushLoop_similar (h : s.SameButDrops s') (clock : Clock) (dst : NodeId)
    (route : RouteEntry) (queue : List PendingData) :
    (s.flushLoop clock dst route queue).1.SameButDrops
        (s'.flushLoop clock dst route queue).1 ∧
      (s.flushLoop clock dst route queue).2 = (s'.flushLoop clock dst route queue).2 := by
  induction queue generalizing s s' clock with
  | nil => exact ⟨h, rfl⟩
  | cons pending queue ih =>
    simp only [flushLoop]
    split
    · have hsent := originData_similar h clock dst pending.payload route
      obtain ⟨hstate, hrest⟩ := ih hsent.state (clock.later 1)
      exact ⟨hstate, by rw [hsent.actions, hrest]⟩
    · obtain ⟨hstate, hrest⟩ := ih h clock
      exact ⟨hstate, by rw [hrest]⟩

theorem SameButDrops.cacheRoute (h : s.SameButDrops s') (clock : Clock) (p : Rrep) :
    (s.cacheRoute clock p).SameButDrops (s'.cacheRoute clock p) := by
  obtain ⟨m, c, rfl, ⟨dropped, ttl, duplicate, rfl⟩, hc⟩ := h
  exact ⟨_, c, rfl, ⟨_, _, _, rfl⟩, hc⟩

theorem acceptRrep_similar (h : s.SameButDrops s') (clock : Clock) (p : Rrep) :
    Similar (s.acceptRrep clock p) (s'.acceptRrep clock p) := by
  have hcached := h.cacheRoute clock p
  obtain ⟨m, c, rfl, hm, hc⟩ := h
  obtain ⟨⟨m', c', hstate, hm', hc'⟩, hrest⟩ := flushLoop_similar hcached (clock.later 1)
    p.dstNodeId (s.routeOf clock p) s.pendingData
  unfold acceptRrep flushPending
  refine ⟨⟨m', c', ?_, hm', hc'⟩, ?_⟩
  · exact congrArg₂ (fun (t : ProtocolState) queue => { t with pendingData := queue }) hstate
      (congrArg Prod.snd hrest.symm)
  · exact congrArg (fun outbound => (⟨outbound, _⟩ : ProtocolActions)) (congrArg Prod.fst hrest)

theorem relayRrep_similar (h : s.SameButDrops s') (p : Rrep) :
    Similar (s.relayRrep p) (s'.relayRrep p) := by
  have hsame := h
  simp only [relayRrep, h.config, h.endpoint]
  cases (previousInTrace p.tracePath s.config.nodeId).bind s.endpoint with
  | some endpoint =>
    obtain ⟨m, c, rfl, ⟨dropped, ttl, duplicate, rfl⟩, hc⟩ := h
    exact ⟨⟨_, c, rfl, ⟨_, _, _, rfl⟩, hc⟩, rfl⟩
  | none => exact ⟨hsame, rfl⟩

theorem handleRrep_similar (h : s.SameButDrops s') (clock : Clock) (sender : SocketAddr)
    (p : Rrep) : Similar (s.handleRrep clock sender p) (s'.handleRrep clock sender p) := by
  simp only [handleRrep, h.validateRrep, h.config]
  cases s.validateRrep sender p.tracePath with
  | error reason =>
    obtain ⟨m, c, rfl, ⟨dropped, ttl, duplicate, rfl⟩, hc⟩ := h
    exact ⟨⟨_, c, rfl, ⟨_, _, _, rfl⟩, hc⟩, rfl⟩
  | ok _ =>
    dsimp only
    split
    · exact acceptRrep_similar h clock p
    · exact relayRrep_similar h p

theorem sendOn_similar (h : s.SameButDrops s') (d : Data) (endpoint : SocketAddr) :
    Similar (s.sendOn d endpoint) (s'.sendOn d endpoint) := by
  obtain ⟨m, c, rfl, ⟨dropped, ttl, duplicate, rfl⟩, hc⟩ := h
  exact ⟨⟨_, c, rfl, ⟨_, _, _, rfl⟩, hc⟩, rfl⟩

theorem forwardDsr_similar (h : s.SameButDrops s') (d : Data) :
    Similar (s.forwardDsr d) (s'.forwardDsr d) := by
  have hdrop := fun reason => dropData_similar h d.dstNodeId reason
  simp only [forwardDsr, h.config, h.isLogicalNeighbor, h.endpoint]
  split
  · exact hdrop _
  cases d.dsrPath[d.routeCursor + 1]? with
  | none => exact hdrop _
  | some next =>
    dsimp only
    split
    · exact hdrop _
    cases s.endpoint next with
    | none => exact ⟨h, rfl⟩
    | some endpoint => exact sendOn_similar h d endpoint

theorem forwardDlDsr_similar (h : s.SameButDrops s') (d : Data) :
    Similar (s.forwardDlDsr d) (s'.forwardDlDsr d) := by
  have hdrop := fun reason => dropData_similar h d.dstNodeId reason
  simp only [forwardDlDsr, h.neighbors, h.isLogicalNeighbor]
  cases d.dldsrLabelPath[d.routeCursor]? with
  | none => exact hdrop _
  | some label =>
    dsimp only
    cases s.neighbors.neighborByLabel label with
    | none => exact hdrop _
    | some entry =>
      dsimp only
      split
      · exact hdrop _
      · exact sendOn_similar h d entry.endpoint

theorem deliverData_similar (h : s.SameButDrops s') (clock : Clock) (n : NodeId) (d : Data) :
    Similar (s.deliverData clock n d) (s'.deliverData clock n d) := by
  simp only [deliverData, h.validateDataDelivery]
  cases s.validateDataDelivery n d with
  | error reason => exact dropData_similar h d.dstNodeId reason
  | ok _ =>
    obtain ⟨m, c, rfl, ⟨dropped, ttl, duplicate, rfl⟩, hc⟩ := h
    exact ⟨⟨_, c, rfl, ⟨_, _, _, rfl⟩, hc⟩, rfl⟩

theorem handleData_similar (h : s.SameButDrops s') (clock : Clock) (sender : SocketAddr)
    (d : Data) : Similar (s.handleData clock sender d) (s'.handleData clock sender d) := by
  have hdrop := fun reason => dropData_similar h d.dstNodeId reason
  simp only [handleData, h.config, h.nodeIdByEndpoint, h.isLogicalNeighbor]
  split
  · exact hdrop _
  cases s.nodeIdByEndpoint sender with
  | none => exact hdrop _
  | some senderNodeId =>
    dsimp only
    split
    · exact hdrop _
    split
    · exact deliverData_similar h clock senderNodeId d
    cases d.protocolMode with
    | dsr => exact forwardDsr_similar h d
    | dlDsr => exact forwardDlDsr_similar h d

/-! ### HELLO and RREQ -/

theorem handleHello_similar (h : s.SameButDrops s') (clock : Clock) (p : Hello)
    (sender : SocketAddr) :
    Similar (s.handleHello clock p sender) (s'.handleHello clock p sender) := by
  simp only [handleHello, h.isLogicalNeighbor, h.neighbors]
  split
  · exact ⟨h, rfl⟩
  obtain ⟨m, c, rfl, hm, hc⟩ := h
  obtain ⟨neighbors, result⟩ := s.neighbors.assignOrReuseLabel p.srcNodeId sender (clock 0)
  cases result with
  | error _ => exact ⟨⟨m, c, rfl, hm, hc⟩, rfl⟩
  | ok label => exact ⟨⟨m, c, rfl, hm, hc⟩, rfl⟩

theorem handleHelloReply_similar (h : s.SameButDrops s') (p : HelloReply) :
    Similar (s.handleHelloReply p) (s'.handleHelloReply p) := by
  simp only [handleHelloReply, h.config, h.isLogicalNeighbor]
  split
  · obtain ⟨m, c, rfl, hm, hc⟩ := h
    exact ⟨⟨m, c, rfl, hm, hc⟩, rfl⟩
  · exact ⟨h, rfl⟩

theorem answerRreq_similar (h : s.SameButDrops s') (q : Rreq) :
    Similar (s.answerRreq q) (s'.answerRreq q) := by
  simp only [answerRreq, h.config, h.endpoint]
  cases (previousInTrace q.tracePath s.config.nodeId).bind s.endpoint with
  | some endpoint => exact ⟨h, rfl⟩
  | none => exact ⟨h, rfl⟩

theorem forwardRreq_similar (h : s.SameButDrops s') (q : Rreq) :
    Similar (s.forwardRreq q) (s'.forwardRreq q) := by
  obtain ⟨m, c, rfl, ⟨dropped, ttl, duplicate, rfl⟩, hc⟩ := h
  exact ⟨⟨_, c, rfl, ⟨_, _, _, rfl⟩, hc⟩, rfl⟩

theorem handleRreq_similar (h : s.SameButDrops s') (clock : Clock) (q : Rreq) :
    Similar (s.handleRreq clock q) (s'.handleRreq clock q) := by
  obtain ⟨hseen, hnew⟩ := SeenRequests.sameMap_markIfNew h.seenRequests q.srcNodeId q.requestId
    (clock 0) s.config.seenRequestTtlMs s.config.seenRequestMaxEntries
  have hremembered : SameButDrops
      { s with seenRequests := (s.seenRequests.markIfNew q.srcNodeId q.requestId (clock 0)
          s.config.seenRequestTtlMs s.config.seenRequestMaxEntries).1 }
      { s' with
        config := s.config
        seenRequests := (s'.seenRequests.markIfNew q.srcNodeId q.requestId (clock 0)
          s.config.seenRequestTtlMs s.config.seenRequestMaxEntries).1 } := by
    obtain ⟨m, c, rfl, hm, -⟩ := h
    exact ⟨m, _, rfl, hm, hseen⟩
  simp only [handleRreq, h.isLogicalNeighbor, h.config, ← hnew]
  split
  · exact ⟨h, rfl⟩
  split
  · obtain ⟨m, c, rfl, ⟨dropped, ttl, duplicate, rfl⟩, hc⟩ := h
    exact ⟨⟨_, c, rfl, ⟨_, _, _, rfl⟩, hc⟩, rfl⟩
  split
  · obtain ⟨m, c, rfl, ⟨dropped, ttl, duplicate, rfl⟩, hc⟩ := h
    exact ⟨⟨_, _, rfl, ⟨_, _, _, rfl⟩, hseen⟩, rfl⟩
  rw [hremembered.extendRreq]
  cases extendRreq { s with seenRequests := _ } q with
  | none =>
    obtain ⟨m, c, rfl, ⟨dropped, ttl, duplicate, rfl⟩, hc⟩ := h
    exact ⟨⟨_, _, rfl, ⟨_, _, _, rfl⟩, hseen⟩, rfl⟩
  | some e =>
    dsimp only
    split
    · exact answerRreq_similar hremembered e
    · exact forwardRreq_similar hremembered e

/-! ### Commands and ticks -/

theorem startDiscovery_similar (h : s.SameButDrops s') (clock : Clock) (dst : NodeId)
    (retriesDone : Nat) :
    Similar (s.startDiscovery clock dst retriesDone) (s'.startDiscovery clock dst retriesDone) := by
  obtain ⟨m, c, rfl, ⟨dropped, ttl, duplicate, rfl⟩, hc⟩ := h
  exact ⟨⟨_, _, rfl, ⟨_, _, _, rfl⟩, (SeenRequests.sameMap_markIfNew hc _ _ _ _ _).1⟩, rfl⟩

theorem discoverAndSend_similar (h : s.SameButDrops s') (clock : Clock) (dst : NodeId)
    (payload : List UInt8) :
    Similar (s.discoverAndSend clock dst payload) (s'.discoverAndSend clock dst payload) := by
  simp only [discoverAndSend, h.routes, h.discoveries]
  cases s.routes.shortest dst (clock 0) with
  | some route => exact originData_similar h (clock.later 1) dst payload route
  | none =>
    have hqueued : SameButDrops { s with pendingData := s.pendingData ++ [⟨dst, payload⟩] }
        { s' with pendingData := s'.pendingData ++ [⟨dst, payload⟩] } := by
      obtain ⟨m, c, rfl, hm, hc⟩ := h
      exact ⟨m, c, rfl, hm, hc⟩
    rw [h.routes, h.discoveries] at hqueued
    dsimp only
    split
    · exact ⟨hqueued, rfl⟩
    · exact startDiscovery_similar hqueued (clock.later 1) dst 0

theorem failDiscovery_similar (h : s.SameButDrops s') (dst : NodeId) (state : DiscoveryState) :
    Similar (s.failDiscovery dst state) (s'.failDiscovery dst state) := by
  obtain ⟨m, c, rfl, ⟨dropped, ttl, duplicate, rfl⟩, hc⟩ := h
  exact ⟨⟨_, c, rfl, ⟨_, _, _, rfl⟩, hc⟩, rfl⟩

theorem retryLoop_similar (h : s.SameButDrops s') (clock : Clock)
    (expired : List (Sigma fun _ : NodeId => DiscoveryState)) :
    Similar (s.retryLoop clock expired) (s'.retryLoop clock expired) := by
  induction expired generalizing s s' clock with
  | nil => exact ⟨h, rfl⟩
  | cons entry expired ih =>
    obtain ⟨dst, state⟩ := entry
    simp only [retryLoop, h.config]
    split
    · have hfailed := failDiscovery_similar h dst state
      have hrest := ih hfailed.state clock
      exact ⟨hrest.state, by rw [hfailed.actions, hrest.actions]⟩
    · have hretried := startDiscovery_similar h clock dst (state.retriesDone + 1)
      have hrest := ih hretried.state (clock.later 1)
      exact ⟨hrest.state, by rw [hretried.actions, hrest.actions]⟩

theorem handleTick_similar (h : s.SameButDrops s') (clock : Clock) (now : Nat) :
    Similar (s.handleTick clock now) (s'.handleTick clock now) := by
  have hpruned : SameButDrops
      { s with seenRequests := s.seenRequests.prune now s.config.seenRequestTtlMs }
      { s' with seenRequests := s'.seenRequests.prune now s'.config.seenRequestTtlMs } := by
    obtain ⟨m, c, rfl, hm, hc⟩ := h
    exact ⟨m, _, rfl, hm, SeenRequests.sameMap_prune hc⟩
  have hloop := retryLoop_similar hpruned clock (expiredDiscoveries { s with
    seenRequests := s.seenRequests.prune now s.config.seenRequestTtlMs } now)
  obtain ⟨m, c, rfl, -, -⟩ := h
  exact hloop

/-- **Drop counters are never read**, and the iteration order of the duplicate cache makes
no difference. -/
theorem call_similar (h : s.SameButDrops s') (clock : Clock) (input : Input) :
    Similar (s.call clock input) (s'.call clock input) := by
  cases input with
  | command c =>
    obtain ⟨dst, payload⟩ := c
    exact discoverAndSend_similar h clock dst payload
  | tick now => exact handleTick_similar h clock now
  | hello =>
    have hactions : s.sendHellos clock = s'.sendHellos clock := by
      obtain ⟨m, c, rfl, -, -⟩ := h
      rfl
    exact ⟨h, hactions⟩
  | packet packet sender =>
    cases packet with
    | hello p => exact handleHello_similar h clock p sender
    | helloReply p => exact handleHelloReply_similar h p
    | rreq q => exact handleRreq_similar h clock q
    | rrep p => exact handleRrep_similar h clock sender p
    | data d => exact handleData_similar h clock sender d
    | ack _ => exact ⟨h, rfl⟩
    | error _ => exact ⟨h, rfl⟩

/-! ## Rejected copies -/

/-- A node serves one call after the other. -/
def serve (s : ProtocolState) : List (Clock × Input) → ProtocolState
  | [] => s
  | (clock, input) :: calls => (s.call clock input).1.serve calls

theorem serve_sameButDrops (h : s.SameButDrops s') (calls : List (Clock × Input)) :
    (s.serve calls).SameButDrops (s'.serve calls) := by
  induction calls generalizing s s' with
  | nil => exact h
  | cons call calls ih => exact ih (call_similar h call.1 call.2).state

/-- `handle_rreq` rejects the copy: it does not come over a neighbour, its hops are used
up, or it is new and the label of the previous hop is not known. -/
def TurnsAway (s : ProtocolState) (clock : Clock) (q : Rreq) : Prop :=
  ¬ s.Admits q ∨ ((s.markRreq clock q).2 = true ∧ s.extendRreq q = none)

instance (s : ProtocolState) (clock : Clock) (q : Rreq) : Decidable (s.TurnsAway clock q) :=
  inferInstanceAs (Decidable (_ ∨ _))

/-- The copy changes nothing but drop counters, and a later copy of the request, after
whatever calls, is handled as if this one had never arrived. -/
structure Traceless (s : ProtocolState) (clock : Clock) (q : Rreq) : Prop where
  state : s.SameButDrops (s.handleRreq clock q).1
  later : ∀ (calls : List (Clock × Input)) (clock' : Clock) (q' : Rreq),
    q'.srcNodeId = q.srcNodeId → q'.requestId = q.requestId →
    Similar ((s.serve calls).handleRreq clock' q')
      (((s.handleRreq clock q).1.serve calls).handleRreq clock' q')

/-- The mark of the copy is evicted as soon as it is made: nothing in the cache expires,
and the cache is exactly full of entries that come later in the eviction order. -/
structure EvictedAtOnce (s : ProtocolState) (clock : Clock) (q : Rreq) : Prop where
  fresh : s.seenRequests.Fresh (clock 0) s.config.seenRequestTtlMs
  full : s.seenRequests.len = s.config.seenRequestMaxEntries
  first : ∀ e ∈ s.seenRequests.seen.entries,
    SeenRequests.evictionKey ⟨(q.srcNodeId, q.requestId), clock 0⟩ ≤ SeenRequests.evictionKey e

/-- A copy that is rejected before the duplicate check moves a drop counter at most. -/
theorem handleRreq_of_not_admits {q : Rreq} (h : ¬ s.Admits q) :
    s.SameButDrops (s.handleRreq clock q).1 := by
  have hout := handleRreq_outcome s clock q
  generalize s.handleRreq clock q = r at hout ⊢
  cases hout with
  | refused m _ hm =>
    refine ⟨m, s.seenRequests, rfl, ?_, AList.SameMap.refl _⟩
    rcases hm with rfl | rfl <;> exact ⟨_, _, _, rfl⟩
  | duplicate ha => exact absurd ha h
  | noLabel ha => exact absurd ha h
  | answered e ha => exact absurd ha h
  | forwarded e ha => exact absurd ha h

/-- A copy without a label leaves its mark in the duplicate cache. -/
theorem handleRreq_of_noLabel {q : Rreq} (ha : s.Admits q) (hnew : (s.markRreq clock q).2 = true)
    (hnone : s.extendRreq q = none) :
    (s.handleRreq clock q).1 = { s with
      seenRequests := (s.markRreq clock q).1
      metrics := { s.metrics with droppedPackets := s.metrics.droppedPackets + 1 } } := by
  have hout := handleRreq_outcome s clock q
  generalize s.handleRreq clock q = r at hout ⊢
  cases hout with
  | refused m h => exact absurd ha h
  | duplicate _ hdup =>
    rw [hnew] at hdup
    cases hdup
  | noLabel => rfl
  | answered e _ _ he =>
    rw [hnone] at he
    cases he
  | forwarded e _ _ he =>
    rw [hnone] at he
    cases he

/-- A new request whose mark leaves the cache as it was has been evicted at once. -/
theorem evictedAtOnce_iff {q : Rreq} (hnew : (s.markRreq clock q).2 = true) :
    s.EvictedAtOnce clock q ↔ (s.markRreq clock q).1.seen.SameMap s.seenRequests.seen := by
  have hnone : (s.seenRequests.prune (clock 0) s.config.seenRequestTtlMs).seen.lookup
      (q.srcNodeId, q.requestId) = none :=
    Option.isNone_iff_eq_none.mp hnew
  show _ ↔ (s.seenRequests.markIfNew _ _ _ _ _).1.seen.SameMap _
  rw [SeenRequests.markIfNew_sameMap_iff]
  constructor
  · rintro ⟨hfresh, hfull, hfirst⟩
    rw [SeenRequests.prune_of_fresh hfresh] at hnone
    exact ⟨hfresh, .inr ⟨hnone, hfull, hfirst⟩⟩
  · rintro ⟨hfresh, ⟨hsome, -⟩ | ⟨-, hfull, hfirst⟩⟩
    · -- The request is new, so the cache has no entry for it.
      rw [SeenRequests.prune_of_fresh hfresh, hsome] at hnone
      cases hnone
    · exact ⟨hfresh, hfull, hfirst⟩

/-- A rejection leaves no trace if it changes nothing but drop counters. -/
theorem traceless_of_sameButDrops {q : Rreq} (h : s.SameButDrops (s.handleRreq clock q).1) :
    s.Traceless clock q :=
  ⟨h, fun calls clock' q' _ _ => handleRreq_similar (serve_sameButDrops h calls) clock' q'⟩

/-- **Which rejections leave no trace**: those that come before the duplicate check, and
those whose mark is evicted at once. -/
theorem traceless_iff {q : Rreq} (h : s.TurnsAway clock q) :
    s.Traceless clock q ↔ ¬ s.Admits q ∨ s.EvictedAtOnce clock q := by
  by_cases ha : s.Admits q
  · obtain ⟨hnew, hnone⟩ := h.resolve_left (not_not.mpr ha)
    have hstate := handleRreq_of_noLabel ha hnew hnone
    rw [evictedAtOnce_iff hnew]
    constructor
    · intro htraceless
      have hseen := htraceless.state.seenRequests
      rw [hstate] at hseen
      exact .inr hseen.symm
    · rintro (hna | hsame)
      · exact absurd ha hna
      · refine traceless_of_sameButDrops ?_
        rw [hstate]
        exact ⟨_, _, rfl, ⟨_, _, _, rfl⟩, hsame.symm⟩
  · exact ⟨fun _ => .inl ha, fun _ => traceless_of_sameButDrops (handleRreq_of_not_admits ha)⟩

/-- Node 0 in DL-DSR mode, between nodes 1 and 2. -/
def corner : NodeConfig :=
  { NodeConfig.testSettings .dlDsr with
    topology := ⟨[⟨0, .localhost 7000, [1, 2]⟩, ⟨1, .localhost 7001, [0, 2]⟩,
      ⟨2, .localhost 7002, [0, 1]⟩]⟩ }

/-- A copy of node 1's request for node 0, straight from node 1. -/
def directRreq : Rreq :=
  { srcNodeId := 1, dstNodeId := 0, requestId := 1, previousHop := 1, hopCount := 0,
    dsrPath := [1], dldsrLabelPath := [], tracePath := [1], createdAtMillis := 10 }

/-- A copy of the same request that comes over node 2. -/
def detouredRreq : Rreq :=
  { directRreq with
    previousHop := 2, hopCount := 1, dsrPath := [1, 2], dldsrLabelPath := [4],
    tracePath := [1, 2] }

/-- A copy that does not come over a neighbour is forgotten. -/
theorem traceless_iff_stranger :
    (new corner).Traceless (fun _ => 10) { directRreq with previousHop := 3 } :=
  (traceless_iff (by decide)).mpr (.inl (by decide))

/-- Node 0 has its label from node 2, but not yet from node 1. The copy from node 1 is
rejected for want of a label, and the good one over node 2 is then taken for a
duplicate. -/
theorem rejection_blocks :
    ¬ ∀ (config : NodeConfig) (s : ProtocolState), ReachableFrom config s →
      ∀ (clock : Clock) (q : Rreq), s.TurnsAway clock q → s.Traceless clock q := by
  intro h
  let s := ((new corner).call (fun _ => 10)
    (.packet (.helloReply ⟨2, 0, 5, true, 10⟩) (.localhost 7002))).1
  have htraceless := h corner s (.call _ _ .new) (fun _ => 10) directRreq (by decide +kernel)
  have hactions := (htraceless.later [] (fun _ => 10) detouredRreq rfl rfl).actions
  exact absurd hactions (by decide +kernel)

end ProtocolState

end DlDsr
