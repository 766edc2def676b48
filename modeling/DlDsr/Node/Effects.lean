import DlDsr.Node.Protocol

/-!
# What one call can do

The handlers branch on a dozen conditions. This file states once what each of
them can do, so that no invariant proof unfolds a handler again.

- **Frames** (`handleData_state`, `acceptRrep_state`, `retryLoop_induction`, …):
  which fields of the state a handler writes; for a received packet they are put
  together in `PacketEffect`.
- **Outcomes** (`RreqOutcome`): the branches of `handle_rreq` with their guards.
- **Tables** (`TableEffect`): what a call can do to the tables and the routes.
-/

namespace DlDsr

namespace ProtocolState

variable {s : ProtocolState} {clock : Clock}

@[simp] theorem isLogicalNeighbor_iff {n : NodeId} :
    s.isLogicalNeighbor n = true ↔ n ∈ s.logicalNeighbors := by
  simp [isLogicalNeighbor]

@[simp] theorem isLogicalNeighbor_eq_false_iff {n : NodeId} :
    s.isLogicalNeighbor n = false ↔ n ∉ s.logicalNeighbors := by
  rw [← isLogicalNeighbor_iff, Bool.not_eq_true]

/-! ## Traces and validation -/

/-- `previous_in_trace` looks at the first occurrence. -/
theorem previousInTrace_eq_some {path : List NodeId} {x y : NodeId} :
    previousInTrace path x = some y ↔ ∃ i, FirstAt path (i + 1) x ∧ path[i]? = some y := by
  unfold previousInTrace
  rw [Option.bind_eq_some_iff]
  constructor
  · rintro ⟨i, hi, hy⟩
    cases i with
    | zero => cases hy
    | succ i => exact ⟨i, idxOf?_eq_some_iff_firstAt.mp hi, hy⟩
  · rintro ⟨i, hi, hy⟩
    exact ⟨i + 1, idxOf?_eq_some_iff_firstAt.mpr hi, hy⟩

theorem pushIfNotLast_of_ne {path : List NodeId} {n : NodeId} (h : path.getLast? ≠ some n) :
    pushIfNotLast path n = path ++ [n] := if_pos h

/-- The copy of an RREQ that a node works with: both paths are extended, and in
DL-DSR mode the label path by the label the previous hop assigned to this node. -/
theorem extendRreq_eq_some {q e : Rreq} :
    s.extendRreq q = some e ↔
      e = { q with
        dsrPath := pushIfNotLast q.dsrPath s.config.nodeId
        dldsrLabelPath := e.dldsrLabelPath
        tracePath := pushIfNotLast q.tracePath s.config.nodeId } ∧
      match s.config.protocolMode with
      | .dsr => e.dldsrLabelPath = q.dldsrLabelPath
      | .dlDsr => ∃ label, s.labels.labelAssignedByNeighbor q.previousHop = some label ∧
          e.dldsrLabelPath = q.dldsrLabelPath ++ [label] := by
  unfold extendRreq
  cases s.config.protocolMode with
  | dsr =>
    constructor
    · intro h
      obtain rfl := Option.some.inj h
      exact ⟨rfl, rfl⟩
    · rintro ⟨he, hlabels⟩
      rw [he, hlabels]
  | dlDsr =>
    constructor
    · intro h
      obtain ⟨label, hlabel, rfl⟩ := Option.map_eq_some_iff.mp h
      exact ⟨rfl, label, hlabel, rfl⟩
    · rintro ⟨he, label, hlabel, hlabels⟩
      rw [he, hlabels, hlabel]
      rfl

/-- Only a missing label keeps a node from extending an RREQ. -/
theorem extendRreq_eq_none {q : Rreq} :
    s.extendRreq q = none ↔
      s.config.protocolMode = .dlDsr ∧ s.labels.labelAssignedByNeighbor q.previousHop = none := by
  unfold extendRreq
  cases s.config.protocolMode <;> simp

/-- What `validate_rrep` checks: the sender is the logical neighbour that follows
the first occurrence of this node in the trace, and the node before that
occurrence, if any, is adjacent too. -/
theorem validateRrep_ok_iff {sender : SocketAddr} {path : List NodeId} :
    s.validateRrep sender path = .ok () ↔
      ∃ m i, s.nodeIdByEndpoint sender = some m ∧ m ∈ s.logicalNeighbors ∧
        FirstAt path i s.config.nodeId ∧ path[i + 1]? = some m ∧
        s.areAdjacent s.config.nodeId m = true ∧
        ∀ prev, path.before? i = some prev → s.areAdjacent s.config.nodeId prev = true := by
  unfold validateRrep
  constructor
  · intro h
    split at h
    · cases h
    next m hm =>
    split at h
    · cases h
    next hn =>
    split at h
    · cases h
    next i hi =>
    split at h
    · cases h
    next expected hexp =>
    split at h
    · cases h
    next heq =>
    obtain rfl : m = expected := not_not.mp heq
    split at h
    · cases h
    next hadj =>
    refine ⟨m, i, hm, by simpa using hn, idxOf?_eq_some_iff_firstAt.mp hi, hexp,
      by simpa using hadj, fun prev hprev => ?_⟩
    rw [hprev] at h
    dsimp only at h
    split at h
    · cases h
    next hadj' => simpa using hadj'
  · rintro ⟨m, i, hm, hn, hi, hexp, hadj, hprev⟩
    simp only [hm, isLogicalNeighbor_iff.mpr hn, idxOf?_eq_some_iff_firstAt.mpr hi, hexp, hadj,
      Bool.true_eq_false, if_false, ne_eq, not_true_eq_false]
    cases hb : path.before? i with
    | none => rfl
    | some prev => simp [hprev prev hb]

/-! ## Frames -/

theorem originData_state (s : ProtocolState) (clock : Clock) (dst : NodeId)
    (payload : List UInt8) (route : RouteEntry) :
    ∃ m, (s.originData clock dst payload route).1 =
      { s with nextSequence := s.nextSequence + 1, metrics := m } := by
  unfold originData
  dsimp only
  split
  · exact ⟨s.metrics, rfl⟩
  · exact ⟨_, rfl⟩

/-- Flushing writes the sequence counter and the metrics only. -/
theorem flushLoop_state (s : ProtocolState) (clock : Clock) (dst : NodeId) (route : RouteEntry)
    (queue : List PendingData) :
    ∃ n m, (s.flushLoop clock dst route queue).1 =
      { s with nextSequence := n, metrics := m } := by
  induction queue generalizing s clock with
  | nil => exact ⟨s.nextSequence, s.metrics, rfl⟩
  | cons pending queue ih =>
    simp only [flushLoop]
    split
    · obtain ⟨m, hm⟩ := originData_state s clock dst pending.payload route
      -- This payload is sent, by a state that the rest of the queue is flushed from.
      obtain ⟨n', m', hrest⟩ :=
        ih (s.originData clock dst pending.payload route).1 (clock.later 1)
      exact ⟨n', m', by rw [hrest, hm]⟩
    · exact ih s clock

/-- Flushing keeps exactly the payloads for other destinations, in their order. -/
theorem flushLoop_kept (s : ProtocolState) (clock : Clock) (dst : NodeId) (route : RouteEntry)
    (queue : List PendingData) :
    (s.flushLoop clock dst route queue).2.2 =
      queue.filter fun p => p.dstNodeId != dst := by
  induction queue generalizing s clock with
  | nil => rfl
  | cons pending queue ih =>
    simp only [flushLoop]
    split
    · next h => simp [ih, h]
    · next h => simp [ih, h]

@[simp] theorem routeOf_dsrPath (p : Rrep) : (s.routeOf clock p).dsrPath = p.dsrPath := by
  unfold routeOf
  split <;> rfl

@[simp] theorem routeOf_dstNodeId (p : Rrep) :
    (s.routeOf clock p).dstNodeId = p.dstNodeId := by
  unfold routeOf
  split <;> rfl

/-- The state in which an accepted RREP flushes the queue. -/
def cacheRoute (s : ProtocolState) (clock : Clock) (p : Rrep) : ProtocolState :=
  { s with
    routes := s.routes.insert (s.routeOf clock p)
    discoveries := s.discoveries.erase p.dstNodeId
    metrics := { s.metrics with
      routeDiscoverySuccesses := s.metrics.routeDiscoverySuccesses + 1 } }

/-- An accepted RREP sends what the flush sends. -/
theorem acceptRrep_outbound_eq (s : ProtocolState) (clock : Clock) (p : Rrep) :
    (s.acceptRrep clock p).2.outbound =
      ((s.cacheRoute clock p).flushLoop (clock.later 1) p.dstNodeId (s.routeOf clock p)
        s.pendingData).2.1 := rfl

/-- The state `acceptRrep` leaves behind. -/
theorem acceptRrep_state (s : ProtocolState) (clock : Clock) (p : Rrep) :
    ∃ n m, (s.acceptRrep clock p).1 =
      { s with
        routes := s.routes.insert (s.routeOf clock p)
        discoveries := s.discoveries.erase p.dstNodeId
        pendingData := s.pendingData.filter fun q => q.dstNodeId != p.dstNodeId
        nextSequence := n
        metrics := m } := by
  unfold acceptRrep flushPending
  dsimp only
  obtain ⟨n, m, h⟩ := flushLoop_state (s.cacheRoute clock p) (clock.later 1) p.dstNodeId
    (s.routeOf clock p) s.pendingData
  unfold cacheRoute at h
  exact ⟨n, m, by rw [h, flushLoop_kept]⟩

theorem relayRrep_state (s : ProtocolState) (p : Rrep) :
    ∃ m, (s.relayRrep p).1 = { s with metrics := m } := by
  unfold relayRrep
  split
  · exact ⟨_, rfl⟩
  · exact ⟨s.metrics, rfl⟩

/-- An RREP that is valid and comes to its source is accepted. -/
theorem call_of_accepted {p : Rrep} {sender : SocketAddr}
    (hok : s.validateRrep sender p.tracePath = .ok ()) (hsrc : s.config.nodeId = p.srcNodeId) :
    s.call clock (.packet (.rrep p) sender) = s.acceptRrep clock p := by
  show s.handleRrep clock sender p = _
  unfold handleRrep
  rw [hok]
  exact if_pos hsrc

/-- An RREP either changes nothing but counters, or is accepted at its source. -/
theorem handleRrep_state (s : ProtocolState) (clock : Clock) (sender : SocketAddr) (p : Rrep) :
    (∃ m, (s.handleRrep clock sender p).1 = { s with metrics := m }) ∨
      (s.validateRrep sender p.tracePath = .ok () ∧ s.config.nodeId = p.srcNodeId ∧
        s.handleRrep clock sender p = s.acceptRrep clock p) := by
  unfold handleRrep
  split
  · exact .inl ⟨_, rfl⟩
  · next hok =>
    split
    · next hsrc => exact .inr ⟨hok, hsrc, rfl⟩
    · exact .inl (relayRrep_state s p)

theorem forwardDsr_state (s : ProtocolState) (d : Data) :
    ∃ m, (s.forwardDsr d).1 = { s with metrics := m } := by
  unfold forwardDsr
  split
  · exact ⟨_, rfl⟩
  split
  · exact ⟨_, rfl⟩
  split
  · exact ⟨_, rfl⟩
  split
  · exact ⟨_, rfl⟩
  · exact ⟨s.metrics, rfl⟩

theorem forwardDlDsr_state (s : ProtocolState) (d : Data) :
    ∃ m, (s.forwardDlDsr d).1 = { s with metrics := m } := by
  unfold forwardDlDsr
  split
  · exact ⟨_, rfl⟩
  split
  · exact ⟨_, rfl⟩
  split <;> exact ⟨_, rfl⟩

theorem deliverData_state (s : ProtocolState) (clock : Clock) (n : NodeId) (d : Data) :
    ∃ m, (s.deliverData clock n d).1 = { s with metrics := m } := by
  unfold deliverData
  split <;> exact ⟨_, rfl⟩

/-- A DATA packet changes nothing but counters. -/
theorem handleData_state (s : ProtocolState) (clock : Clock) (sender : SocketAddr) (d : Data) :
    ∃ m, (s.handleData clock sender d).1 = { s with metrics := m } := by
  unfold handleData
  split
  · exact ⟨_, rfl⟩
  split
  · exact ⟨_, rfl⟩
  split
  · exact ⟨_, rfl⟩
  split
  · exact deliverData_state s clock _ d
  split
  · exact forwardDsr_state s d
  · exact forwardDlDsr_state s d

/-- An entry without a retry left fails, and the loop goes on from there. -/
theorem retryLoop_cons_of_le (s : ProtocolState) (clock : Clock)
    {entry : Sigma fun _ : NodeId => DiscoveryState}
    (expired : List (Sigma fun _ : NodeId => DiscoveryState))
    (hmax : s.config.routeDiscoveryMaxRetries ≤ entry.2.retriesDone) :
    s.retryLoop clock (entry :: expired) =
      let failed := s.failDiscovery entry.1 entry.2
      let rest := failed.1.retryLoop clock expired
      (rest.1, { outbound := rest.2.outbound, events := failed.2.events ++ rest.2.events }) :=
  if_pos hmax

/-- Any other entry starts a round, and the loop goes on from there. -/
theorem retryLoop_cons_of_not_le (s : ProtocolState) (clock : Clock)
    {entry : Sigma fun _ : NodeId => DiscoveryState}
    (expired : List (Sigma fun _ : NodeId => DiscoveryState))
    (hmax : ¬ s.config.routeDiscoveryMaxRetries ≤ entry.2.retriesDone) :
    s.retryLoop clock (entry :: expired) =
      let retried := s.startDiscovery clock entry.1 (entry.2.retriesDone + 1)
      let rest := retried.1.retryLoop (clock.later 1) expired
      (rest.1, { outbound := retried.2.outbound ++ rest.2.outbound, events := rest.2.events }) :=
  if_neg hmax

/-- What the failing branch and the retrying branch of the tick loop both
preserve, the whole loop preserves. -/
theorem retryLoop_induction {P : ProtocolState → Prop}
    (hfail : ∀ s dst state, P s → P (s.failDiscovery dst state).1)
    (hretry : ∀ s clock dst k, P s → P (s.startDiscovery clock dst k).1)
    (h : P s) (expired : List (Sigma fun _ : NodeId => DiscoveryState)) :
    P (s.retryLoop clock expired).1 := by
  induction expired generalizing s clock with
  | nil => exact h
  | cons entry expired ih =>
    obtain ⟨dst, state⟩ := entry
    simp only [retryLoop]
    split
    · exact ih (hfail s dst state h)
    · exact ih (hretry s clock dst _ h)

/-- The same for a whole tick, given that pruning preserves it too. -/
theorem handleTick_induction {P : ProtocolState → Prop} {now : Nat}
    (hprune : P { s with
      seenRequests := s.seenRequests.prune now s.config.seenRequestTtlMs })
    (hfail : ∀ s dst state, P s → P (s.failDiscovery dst state).1)
    (hretry : ∀ s clock dst k, P s → P (s.startDiscovery clock dst k).1) :
    P (s.handleTick clock now).1 :=
  retryLoop_induction hfail hretry hprune _

/-! ## RREQ outcomes -/

/-- The admission checks of `handle_rreq`. -/
def Admits (s : ProtocolState) (q : Rreq) : Prop :=
  q.previousHop ∈ s.logicalNeighbors ∧ q.hopCount < s.config.maxRreqHops

instance (s : ProtocolState) (q : Rreq) : Decidable (s.Admits q) :=
  inferInstanceAs (Decidable (_ ∧ _))

/-- An admitted RREQ has not used up its hops. -/
theorem Admits.hopCount_succ {q : Rreq} (ha : s.Admits q) :
    (q.hopCount + 1).toNat = q.hopCount.toNat + 1 := by
  have hlt : q.hopCount.toNat < s.config.maxRreqHops.toNat := UInt8.lt_iff_toNat_lt.mp ha.2
  have hmax : s.config.maxRreqHops.toNat < 256 := s.config.maxRreqHops.toNat_lt
  rw [UInt8.toNat_add]
  show (q.hopCount.toNat + 1) % 256 = q.hopCount.toNat + 1
  omega

/-- The duplicate check `handle_rreq` makes of an admitted RREQ. -/
def markRreq (s : ProtocolState) (clock : Clock) (q : Rreq) : SeenRequests × Bool :=
  s.seenRequests.markIfNew q.srcNodeId q.requestId (clock 0)
    s.config.seenRequestTtlMs s.config.seenRequestMaxEntries

/-- The branches of `handle_rreq`. -/
inductive RreqOutcome (s : ProtocolState) (clock : Clock) (q : Rreq) :
    ProtocolState × ProtocolActions → Prop where
  | refused (m : NodeMetrics) (h : ¬ s.Admits q)
      (hm : m = s.metrics ∨
        m = { s.metrics with rreqDroppedTtl := s.metrics.rreqDroppedTtl + 1 }) :
      RreqOutcome s clock q ({ s with metrics := m }, {})
  | duplicate (h : s.Admits q) (hdup : (s.markRreq clock q).2 = false) :
      RreqOutcome s clock q
        ({ s with
          seenRequests := (s.markRreq clock q).1
          metrics := { s.metrics with
            rreqDroppedDuplicate := s.metrics.rreqDroppedDuplicate + 1 } }, {})
  | noLabel (h : s.Admits q) (hnew : (s.markRreq clock q).2 = true)
      (hlabel : s.extendRreq q = none) :
      RreqOutcome s clock q
        ({ s with
          seenRequests := (s.markRreq clock q).1
          metrics := { s.metrics with droppedPackets := s.metrics.droppedPackets + 1 } }, {})
  | answered (e : Rreq) (h : s.Admits q) (hnew : (s.markRreq clock q).2 = true)
      (he : s.extendRreq q = some e) (hdst : s.config.nodeId = q.dstNodeId) :
      RreqOutcome s clock q
        ({ s with seenRequests := (s.markRreq clock q).1 }.answerRreq e)
  | forwarded (e : Rreq) (h : s.Admits q) (hnew : (s.markRreq clock q).2 = true)
      (he : s.extendRreq q = some e) (hdst : s.config.nodeId ≠ q.dstNodeId) :
      RreqOutcome s clock q
        ({ s with seenRequests := (s.markRreq clock q).1 }.forwardRreq e)

theorem handleRreq_outcome (s : ProtocolState) (clock : Clock) (q : Rreq) :
    RreqOutcome s clock q (s.handleRreq clock q) := by
  unfold handleRreq
  split
  · next hn =>
    exact .refused s.metrics (fun ha => (isLogicalNeighbor_eq_false_iff.mp hn) ha.1) (.inl rfl)
  next hn =>
  have hneighbor : q.previousHop ∈ s.logicalNeighbors := by simpa using hn
  split
  · next hhop => exact .refused _ (fun ha => absurd ha.2 (by simpa using hhop)) (.inr rfl)
  next hhop =>
  have hadmits : s.Admits q := ⟨hneighbor, by simpa using hhop⟩
  dsimp only
  split
  · next hdup => exact .duplicate hadmits hdup
  next hnew =>
  have hnew : (s.markRreq clock q).2 = true := Bool.eq_true_of_not_eq_false hnew
  split
  · next hlabel => exact .noLabel hadmits hnew hlabel
  next e he =>
  split
  · next hdst => exact .answered e hadmits hnew he hdst
  · next hdst => exact .forwarded e hadmits hnew he hdst

/-- The answer to an RREQ goes to the node before this one in the trace. -/
def answers (s : ProtocolState) (e : Rreq) : List OutboundPacket :=
  ((previousInTrace e.tracePath s.config.nodeId).bind s.endpoint).toList.map fun endpoint =>
    ⟨.rrep (generatedRrep e), endpoint⟩

theorem answerRreq_outbound (s : ProtocolState) (e : Rreq) :
    (s.answerRreq e).2.outbound = s.answers e := by
  unfold answerRreq answers
  split
  · next endpoint hend =>
    rw [hend]
    rfl
  · next hnone =>
    rw [hnone]
    rfl

theorem answerRreq_state (s : ProtocolState) (q : Rreq) : (s.answerRreq q).1 = s := by
  unfold answerRreq
  split <;> rfl

/-- An RREQ changes nothing but the duplicate cache and counters; the cache
changes exactly when the RREQ is admitted. -/
theorem handleRreq_state (s : ProtocolState) (clock : Clock) (q : Rreq) :
    (¬ s.Admits q ∧ ∃ m, (s.handleRreq clock q).1 = { s with metrics := m }) ∨
      (s.Admits q ∧ ∃ m, (s.handleRreq clock q).1 =
        { s with seenRequests := (s.markRreq clock q).1, metrics := m }) := by
  have hout := handleRreq_outcome s clock q
  generalize s.handleRreq clock q = r at hout ⊢
  cases hout with
  | refused m h => exact .inl ⟨h, m, rfl⟩
  | duplicate h => exact .inr ⟨h, _, rfl⟩
  | noLabel h => exact .inr ⟨h, _, rfl⟩
  | answered e h => exact .inr ⟨h, s.metrics, by rw [answerRreq_state]⟩
  | forwarded e h => exact .inr ⟨h, _, rfl⟩

/-! ## Tables, routes and configuration -/

theorem handleHello_state (s : ProtocolState) (clock : Clock) (p : Hello) (sender : SocketAddr) :
    (s.handleHello clock p sender).1 = s ∨
      (p.srcNodeId ∈ s.logicalNeighbors ∧ (s.handleHello clock p sender).1 =
        { s with neighbors := (s.neighbors.assignOrReuseLabel p.srcNodeId sender (clock 0)).1 }) := by
  unfold handleHello
  split
  · exact .inl rfl
  next hn =>
  have hn : p.srcNodeId ∈ s.logicalNeighbors := by simpa using hn
  split <;> next hassign => exact .inr ⟨hn, by rw [hassign]⟩

theorem handleHello_neighbors (s : ProtocolState) (clock : Clock) {p : Hello}
    (sender : SocketAddr) (hn : p.srcNodeId ∈ s.logicalNeighbors) :
    (s.handleHello clock p sender).1.neighbors =
      (s.neighbors.assignOrReuseLabel p.srcNodeId sender (clock 0)).1 := by
  unfold handleHello
  rw [if_neg (by simpa using hn)]
  split <;> next hassign => rw [hassign]

theorem handleHelloReply_state (s : ProtocolState) (p : HelloReply) :
    (s.handleHelloReply p).1 = s ∨
      (p.dstNodeId = s.config.nodeId ∧ p.srcNodeId ∈ s.logicalNeighbors ∧
        (s.handleHelloReply p).1 =
          { s with
            labels := s.labels.updateFromHelloReply p.srcNodeId p.assignedLabel
              p.timestampMillis }) := by
  unfold handleHelloReply
  split
  · next h => exact .inr ⟨h.1, by simpa using h.2, rfl⟩
  · exact .inl rfl

/-- What a received packet can do to the state. -/
inductive PacketEffect (s : ProtocolState) (clock : Clock) :
    Packet → SocketAddr → ProtocolState → Prop where
  | counted (packet : Packet) (sender : SocketAddr) (m : NodeMetrics) :
      PacketEffect s clock packet sender { s with metrics := m }
  | hello (p : Hello) (sender : SocketAddr) (hn : p.srcNodeId ∈ s.logicalNeighbors) :
      PacketEffect s clock (.hello p) sender
        { s with neighbors := (s.neighbors.assignOrReuseLabel p.srcNodeId sender (clock 0)).1 }
  | helloReply (p : HelloReply) (sender : SocketAddr) (hdst : p.dstNodeId = s.config.nodeId)
      (hn : p.srcNodeId ∈ s.logicalNeighbors) :
      PacketEffect s clock (.helloReply p) sender
        { s with
          labels := s.labels.updateFromHelloReply p.srcNodeId p.assignedLabel p.timestampMillis }
  | rreq (q : Rreq) (sender : SocketAddr) (ha : s.Admits q) (m : NodeMetrics) :
      PacketEffect s clock (.rreq q) sender
        { s with seenRequests := (s.markRreq clock q).1, metrics := m }
  | rrep (p : Rrep) (sender : SocketAddr) (hok : s.validateRrep sender p.tracePath = .ok ())
      (hsrc : s.config.nodeId = p.srcNodeId) (n : Nat) (m : NodeMetrics) :
      PacketEffect s clock (.rrep p) sender
        { s with
          routes := s.routes.insert (s.routeOf clock p)
          discoveries := s.discoveries.erase p.dstNodeId
          pendingData := s.pendingData.filter fun q => q.dstNodeId != p.dstNodeId
          nextSequence := n
          metrics := m }

theorem handlePacket_effect (s : ProtocolState) (clock : Clock) (packet : Packet)
    (sender : SocketAddr) :
    PacketEffect s clock packet sender (s.handlePacket clock packet sender).1 := by
  cases packet with
  | hello p =>
    show PacketEffect s clock _ sender (s.handleHello clock p sender).1
    rcases handleHello_state s clock p sender with h | ⟨hn, h⟩ <;> rw [h]
    · exact .counted _ sender s.metrics
    · exact .hello p sender hn
  | helloReply p =>
    show PacketEffect s clock _ sender (s.handleHelloReply p).1
    rcases handleHelloReply_state s p with h | ⟨hdst, hn, h⟩ <;> rw [h]
    · exact .counted _ sender s.metrics
    · exact .helloReply p sender hdst hn
  | rreq q =>
    show PacketEffect s clock _ sender (s.handleRreq clock q).1
    rcases handleRreq_state s clock q with ⟨-, m, h⟩ | ⟨ha, m, h⟩ <;> rw [h]
    · exact .counted _ sender m
    · exact .rreq q sender ha m
  | rrep p =>
    show PacketEffect s clock _ sender (s.handleRrep clock sender p).1
    rcases handleRrep_state s clock sender p with ⟨m, h⟩ | ⟨hok, hsrc, h⟩ <;> rw [h]
    · exact .counted _ sender m
    · obtain ⟨n, m, hacc⟩ := acceptRrep_state s clock p
      rw [hacc]
      exact .rrep p sender hok hsrc n m
  | data d =>
    show PacketEffect s clock _ sender (s.handleData clock sender d).1
    obtain ⟨m, h⟩ := handleData_state s clock sender d
    rw [h]
    exact .counted _ sender m
  | ack _ => exact .counted _ sender s.metrics
  | error _ => exact .counted _ sender s.metrics

/-- A command is answered from the cache, or queued, or queued and a discovery
started for it. -/
theorem discoverAndSend_cases (s : ProtocolState) (clock : Clock) (dst : NodeId)
    (payload : List UInt8) :
    (∃ route, s.routes.shortest dst (clock 0) = some route ∧
      s.discoverAndSend clock dst payload =
        s.originData (clock.later 1) dst payload route) ∨
    (s.routes.shortest dst (clock 0) = none ∧ dst ∈ s.discoveries ∧
      s.discoverAndSend clock dst payload =
        ({ s with pendingData := s.pendingData ++ [⟨dst, payload⟩] }, {})) ∨
    (s.routes.shortest dst (clock 0) = none ∧ dst ∉ s.discoveries ∧
      s.discoverAndSend clock dst payload =
        ({ s with pendingData := s.pendingData ++ [⟨dst, payload⟩] } : ProtocolState).startDiscovery
          (clock.later 1) dst 0) := by
  unfold discoverAndSend
  split
  · next route hroute => exact .inl ⟨route, hroute, rfl⟩
  · next hroute =>
    dsimp only
    split
    · next hmem => exact .inr (.inl ⟨hroute, hmem, rfl⟩)
    · next hmem => exact .inr (.inr ⟨hroute, hmem, rfl⟩)

/-- A property that every write to counters, queue, discoveries, duplicate cache
and identifiers preserves holds after a tick. -/
theorem call_tick_induction {P : ProtocolState → Prop} {now : Nat} (h : P s)
    (hframe : ∀ s seen pending discoveries metrics id, P s →
      P { s with seenRequests := seen, pendingData := pending, discoveries := discoveries,
                 metrics := metrics, nextRequestId := id }) :
    P (s.call clock (.tick now)).1 :=
  handleTick_induction
    (hframe s _ s.pendingData s.discoveries s.metrics s.nextRequestId h)
    (fun t _ _ ht => hframe t t.seenRequests _ _ _ t.nextRequestId ht)
    (fun t _ _ _ ht => hframe t _ t.pendingData _ _ _ ht)

/-- The same for a command, which also writes the sequence counter. -/
theorem call_command_induction {P : ProtocolState → Prop} {c : ProtocolCommand} (h : P s)
    (hframe : ∀ s seen pending discoveries metrics id seq, P s →
      P { s with seenRequests := seen, pendingData := pending, discoveries := discoveries,
                 metrics := metrics, nextRequestId := id, nextSequence := seq }) :
    P (s.call clock (.command c)).1 := by
  obtain ⟨dst, payload⟩ := c
  change P (s.discoverAndSend clock dst payload).1
  rcases discoverAndSend_cases s clock dst payload with
    ⟨route, -, heq⟩ | ⟨-, -, heq⟩ | ⟨-, -, heq⟩
  · rw [heq]
    obtain ⟨m, hm⟩ := originData_state s (clock.later 1) dst payload route
    rw [hm]
    exact hframe s s.seenRequests s.pendingData s.discoveries m s.nextRequestId _ h
  · rw [heq]
    exact hframe s s.seenRequests _ s.discoveries s.metrics s.nextRequestId s.nextSequence h
  · rw [heq]
    exact hframe s _ _ _ _ _ s.nextSequence h

/-- Two states with the same configuration, tables and routes. -/
structure SameTables (s s' : ProtocolState) : Prop where
  config : s'.config = s.config
  neighbors : s'.neighbors = s.neighbors
  labels : s'.labels = s.labels
  routes : s'.routes = s.routes

/-- What a call can do to the tables and the routes. -/
inductive TableEffect (s : ProtocolState) (clock : Clock) : Input → ProtocolState → Prop where
  | same {input : Input} {s' : ProtocolState} (h : SameTables s s') :
      TableEffect s clock input s'
  | hello (p : Hello) (sender : SocketAddr) (hn : p.srcNodeId ∈ s.logicalNeighbors) :
      TableEffect s clock (.packet (.hello p) sender)
        { s with neighbors := (s.neighbors.assignOrReuseLabel p.srcNodeId sender (clock 0)).1 }
  | helloReply (p : HelloReply) (sender : SocketAddr) (hdst : p.dstNodeId = s.config.nodeId)
      (hn : p.srcNodeId ∈ s.logicalNeighbors) :
      TableEffect s clock (.packet (.helloReply p) sender)
        { s with
          labels := s.labels.updateFromHelloReply p.srcNodeId p.assignedLabel p.timestampMillis }
  | rrep (p : Rrep) (sender : SocketAddr) (hok : s.validateRrep sender p.tracePath = .ok ())
      (hsrc : s.config.nodeId = p.srcNodeId) {s' : ProtocolState}
      (h : SameTables { s with routes := s.routes.insert (s.routeOf clock p) } s') :
      TableEffect s clock (.packet (.rrep p) sender) s'

/-- A table changes only by a HELLO of a logical neighbour, a HELLO_REPLY that is
addressed to this node and claims a logical neighbour, or an RREP that is
validated at its source. -/
theorem call_tableEffect (s : ProtocolState) (clock : Clock) (input : Input) :
    TableEffect s clock input (s.call clock input).1 := by
  cases input with
  | command c =>
    exact .same (call_command_induction (P := SameTables s) ⟨rfl, rfl, rfl, rfl⟩
      fun _ _ _ _ _ _ _ h => ⟨h.config, h.neighbors, h.labels, h.routes⟩)
  | tick now =>
    exact .same (call_tick_induction (P := SameTables s) ⟨rfl, rfl, rfl, rfl⟩
      fun _ _ _ _ _ _ h => ⟨h.config, h.neighbors, h.labels, h.routes⟩)
  | hello => exact .same ⟨rfl, rfl, rfl, rfl⟩
  | packet packet sender =>
    have heff := handlePacket_effect s clock packet sender
    change TableEffect s clock _ (s.handlePacket clock packet sender).1
    generalize (s.handlePacket clock packet sender).1 = s' at heff ⊢
    cases heff with
    | counted => exact .same ⟨rfl, rfl, rfl, rfl⟩
    | hello p _ hn => exact .hello p sender hn
    | helloReply p _ hdst hn => exact .helloReply p sender hdst hn
    | rreq => exact .same ⟨rfl, rfl, rfl, rfl⟩
    | rrep p _ hok hsrc => exact .rrep p sender hok hsrc ⟨rfl, rfl, rfl, rfl⟩

/-- A route that is held after a call was held before, or an accepted RREP brings it. -/
theorem held_call {input : Input} {d : NodeId} {route : RouteEntry}
    (h : route ∈ (s.call clock input).1.routes.held d) :
    route ∈ s.routes.held d ∨ ∃ p sender, input = .packet (.rrep p) sender ∧
      s.validateRrep sender p.tracePath = .ok () ∧ s.config.nodeId = p.srcNodeId ∧
      d = p.dstNodeId ∧ route = s.routeOf clock p := by
  have heff := call_tableEffect s clock input
  generalize (s.call clock input).1 = s' at heff h
  cases heff with
  | same hsame =>
    rw [hsame.routes] at h
    exact .inl h
  | hello => exact .inl h
  | helloReply => exact .inl h
  | rrep p sender hok hsrc hsame =>
    rw [hsame.routes, RouteCache.held_insert] at h
    split at h
    · next hd =>
      rcases List.mem_append.mp h with hold | hnew
      · exact .inl hold
      · exact .inr ⟨p, sender, rfl, hok, hsrc, hd.trans (routeOf_dstNodeId p),
          List.mem_singleton.mp hnew⟩
    · exact .inl h

@[simp] theorem call_config (input : Input) : (s.call clock input).1.config = s.config := by
  have heff := call_tableEffect s clock input
  generalize (s.call clock input).1 = s' at heff ⊢
  cases heff with
  | same h => exact h.config
  | hello => rfl
  | helloReply => rfl
  | rrep _ _ _ _ h => exact h.config

/-- A packet touches the queue and the discoveries only when it is an RREP that
is accepted at its source. -/
theorem handlePacket_queue (s : ProtocolState) (clock : Clock) (packet : Packet)
    (sender : SocketAddr) :
    ((s.handlePacket clock packet sender).1.pendingData = s.pendingData ∧
      (s.handlePacket clock packet sender).1.discoveries = s.discoveries) ∨
    ∃ p, packet = .rrep p ∧ s.validateRrep sender p.tracePath = .ok () ∧
      s.config.nodeId = p.srcNodeId ∧
      (s.handlePacket clock packet sender).1.pendingData =
        s.pendingData.filter (fun q => q.dstNodeId != p.dstNodeId) ∧
      (s.handlePacket clock packet sender).1.discoveries = s.discoveries.erase p.dstNodeId := by
  have heff := handlePacket_effect s clock packet sender
  generalize (s.handlePacket clock packet sender).1 = s' at heff ⊢
  cases heff with
  | rrep p _ hok hsrc => exact .inr ⟨p, rfl, hok, hsrc, rfl, rfl⟩
  | _ => exact .inl ⟨rfl, rfl⟩

/-- The queue grows by commands only. -/
theorem call_pendingData {input : Input} {q : PendingData}
    (h : q ∈ (s.call clock input).1.pendingData) :
    q ∈ s.pendingData ∨ input = .command (.discoverAndSend q.dstNodeId q.payload) := by
  cases input with
  | command c =>
    obtain ⟨dst, payload⟩ := c
    have h : q ∈ (s.discoverAndSend clock dst payload).1.pendingData := h
    rcases discoverAndSend_cases s clock dst payload with
      ⟨route, -, heq⟩ | ⟨-, -, heq⟩ | ⟨-, -, heq⟩
    · obtain ⟨m, hm⟩ := originData_state s (clock.later 1) dst payload route
      rw [heq, hm] at h
      exact .inl h
    all_goals
      rw [heq] at h
      rcases List.mem_append.mp h with hold | hnew
      · exact .inl hold
      · rw [List.mem_singleton.mp hnew]
        exact .inr rfl
  | tick now =>
    left
    -- Only a failing discovery writes the queue, and it takes payloads out.
    refine handleTick_induction (P := fun t => ∀ q ∈ t.pendingData, q ∈ s.pendingData)
      (fun _ hq => hq) ?_ (fun _ _ _ _ ht => ht) q h
    intro t dst state ht q hq
    exact ht q (List.mem_of_mem_filter hq)
  | hello => exact .inl h
  | packet packet sender =>
    left
    have h : q ∈ (s.handlePacket clock packet sender).1.pendingData := h
    rcases handlePacket_queue s clock packet sender with
      ⟨hpending, -⟩ | ⟨p, -, -, -, hpending, -⟩
    · rw [hpending] at h
      exact h
    · rw [hpending] at h
      exact List.mem_of_mem_filter h

theorem logicalNeighbors_of_config {s s' : ProtocolState} (h : s'.config = s.config) :
    s'.logicalNeighbors = s.logicalNeighbors := by
  unfold logicalNeighbors
  rw [h]

/-! ## Iteration orders -/

namespace Reorder

variable {s' : ProtocolState}

theorem labelOf_eq (h : s.Reorder s') (n : NodeId) :
    s'.neighbors.labelOf n = s.neighbors.labelOf n := by
  unfold NeighborTable.labelOf
  rw [h.neighbors.lookup_eq]

theorem labelAssignedByNeighbor_eq (h : s.Reorder s') (n : NodeId) :
    s'.labels.labelAssignedByNeighbor n = s.labels.labelAssignedByNeighbor n := by
  unfold LabelTable.labelAssignedByNeighbor
  rw [h.labels.lookup_eq]

theorem held_eq (h : s.Reorder s') (d : NodeId) : s'.routes.held d = s.routes.held d := by
  unfold RouteCache.held
  rw [h.routes.lookup_eq]

end Reorder

/-! ## Runs of one node -/

/-- The states a node can get into, whatever it is called with, whatever its clock
reads, and in whatever order its hash maps iterate. -/
inductive ReachableFrom (config : NodeConfig) : ProtocolState → Prop where
  | new : ReachableFrom config (.new config)
  | call {s : ProtocolState} (clock : Clock) (input : Input) (h : ReachableFrom config s) :
      ReachableFrom config (s.call clock input).1
  | reorder {s s' : ProtocolState} (h : ReachableFrom config s) (hs : s.Reorder s') :
      ReachableFrom config s'

theorem ReachableFrom.config_eq {config : NodeConfig} (h : ReachableFrom config s) :
    s.config = config := by
  induction h with
  | new => rfl
  | call clock input _ ih => rw [call_config, ih]
  | reorder _ hs ih => rw [hs.config, ih]

end ProtocolState

end DlDsr
