import DlDsr.Node.Accounting
import DlDsr.Node.Retries
import DlDsr.Node.Fates
import DlDsr.Node.Rejections
import DlDsr.Node.Submissions

/-!
# The counters can be recounted

A node counts what it does while it does it. This file recounts the same from outside: from
the inputs a node was called with and the actions it handed back (`recount`). `Tallied` says
what a call adds to the counters, `Recounted` what they hold after any run from the start,
whatever the calls, the clocks and the iteration orders (`counters_recounted`):

- what was discovered, relayed, delivered and rejected is the number of events or packets
  that say so;
- every payload that came in, from an application or from another node, is queued, sent,
  delivered or counted as dropped, or its packet was answered with nothing at all;
- every cached route stands for one counted success, and every attempt for one request id.

The counter of dropped packets has no such equation. It also counts RREQs without a label,
which only DL-DSR drops.
-/

namespace DlDsr

/-- The counters that the inputs and the actions of a node determine. -/
inductive Counter where
  | routeDiscoverySuccesses
  | routeDiscoveryFailures
  | rreqForwarded
  | rrepForwarded
  | rrepDroppedInvalid
  | dataForwarded
  | dataDelivered
  | deliveredPackets
  | latencySamples
deriving DecidableEq

/-- What a counter holds. -/
def NodeMetrics.read (self : NodeMetrics) : Counter → Nat
  | .routeDiscoverySuccesses => self.routeDiscoverySuccesses
  | .routeDiscoveryFailures => self.routeDiscoveryFailures
  | .rreqForwarded => self.rreqForwarded
  | .rrepForwarded => self.rrepForwarded
  | .rrepDroppedInvalid => self.rrepDroppedInvalid
  | .dataForwarded => self.dataForwarded
  | .dataDelivered => self.dataDelivered
  | .deliveredPackets => self.deliveredPackets
  | .latencySamples => self.latencySamplesMs.length

namespace ProtocolEvent

/-- A route was cached. -/
def isRouteCached : ProtocolEvent → Bool
  | .routeCached .. => true
  | _ => false

/-- A discovery failed. -/
def isDiscoveryFailed : ProtocolEvent → Bool
  | .routeDiscoveryFailed .. => true
  | _ => false

/-- DATA was delivered. -/
def isDataDelivered : ProtocolEvent → Bool
  | .dataDelivered .. => true
  | _ => false

/-- A packet was turned away. -/
def isRouteError : ProtocolEvent → Bool
  | .routeError .. => true
  | _ => false

end ProtocolEvent

namespace OutboundPacket

/-- Whether a packet is an RREQ. -/
def isRreq (o : OutboundPacket) : Bool :=
  match o.packet with
  | .rreq _ => true
  | _ => false

/-- Whether a packet is an RREP. -/
def isRrep (o : OutboundPacket) : Bool :=
  match o.packet with
  | .rrep _ => true
  | _ => false

end OutboundPacket

/-- What a call adds to a counter, read off its input and its actions. Events name what
happened; packets are forwarded by a call that received one of their type. -/
def recount (input : Input) (actions : ProtocolActions) : Counter → Nat
  | .routeDiscoverySuccesses => actions.events.countP ProtocolEvent.isRouteCached
  | .routeDiscoveryFailures => actions.events.countP ProtocolEvent.isDiscoveryFailed
  | .dataDelivered => actions.events.countP ProtocolEvent.isDataDelivered
  | .deliveredPackets => actions.events.countP ProtocolEvent.isDataDelivered
  | .latencySamples => actions.events.countP ProtocolEvent.isDataDelivered
  | .rreqForwarded =>
    match input with
    | .packet (.rreq _) _ => actions.outbound.countP OutboundPacket.isRreq
    | _ => 0
  | .rrepForwarded =>
    match input with
    | .packet (.rrep _) _ => actions.outbound.countP OutboundPacket.isRrep
    | _ => 0
  | .rrepDroppedInvalid =>
    match input with
    | .packet (.rrep _) _ => actions.events.countP ProtocolEvent.isRouteError
    | _ => 0
  | .dataForwarded =>
    match input with
    | .packet (.data _) _ => actions.outbound.countP ProtocolState.isData
    | _ => 0

/-- How many payloads an input brings. -/
def Input.payloads : Input → Nat
  | .command _ => 1
  | .packet (.data _) _ => 1
  | _ => 0

/-- How many payloads leave with the actions: those in DATA packets, and the one whose
packet was answered with nothing. -/
def payloadsOut (input : Input) (actions : ProtocolActions) : Nat :=
  actions.outbound.countP ProtocolState.isData +
    match input with
    | .packet (.data _) _ => if actions = {} then 1 else 0
    | _ => 0

/-- The number of cached routes, live or expired. -/
def RouteCache.size (self : RouteCache) : Nat := (self.routes.values.map List.length).sum

/-- A route is added to the cache; none is replaced. -/
theorem RouteCache.size_insert (self : RouteCache) (route : RouteEntry) :
    (self.insert route).size = self.size + 1 := by
  have hsum := AList.sum_values_insert self.routes List.length route.dstNodeId
    (self.held route.dstNodeId ++ [route])
  have hheld : ((self.routes.lookup route.dstNodeId).map List.length).getD 0 =
      (self.held route.dstNodeId).length := by
    unfold RouteCache.held
    cases self.routes.lookup route.dstNodeId <;> rfl
  rw [hheld, List.length_append, List.length_singleton] at hsum
  have hafter : (self.insert route).size = ((self.routes.insert route.dstNodeId
      (self.held route.dstNodeId ++ [route])).values.map List.length).sum := rfl
  have hbefore : self.size = (self.routes.values.map List.length).sum := rfl
  omega

namespace ProtocolState

variable {s : ProtocolState} {clock : Clock} {input : Input}
  {r : ProtocolState × ProtocolActions}

/-- What a call adds to the counters. -/
structure Tallied (s : ProtocolState) (input : Input) (r : ProtocolState × ProtocolActions) :
    Prop where
  counters : ∀ c, r.1.metrics.read c = s.metrics.read c + recount input r.2 c
  attempts : r.1.metrics.routeDiscoveryAttempts + s.nextRequestId =
    s.metrics.routeDiscoveryAttempts + r.1.nextRequestId
  routes : r.1.routes.size + s.metrics.routeDiscoverySuccesses =
    s.routes.size + r.1.metrics.routeDiscoverySuccesses
  payloads : r.1.pendingData.length + r.1.metrics.dataDropped + r.1.metrics.dataDelivered +
      payloadsOut input r.2 =
    s.pendingData.length + s.metrics.dataDropped + s.metrics.dataDelivered + input.payloads
  dropped : r.1.metrics.dataDropped + s.metrics.droppedPackets ≤
    s.metrics.dataDropped + r.1.metrics.droppedPackets
  dropped_dsr : s.config.protocolMode = .dsr →
    r.1.metrics.dataDropped + s.metrics.droppedPackets =
      s.metrics.dataDropped + r.1.metrics.droppedPackets

/-! ## Commands and ticks -/

theorem isData_flood {now requestId : Nat} {dst : NodeId} :
    (s.floodRreq now dst requestId).countP isData = 0 := by
  refine List.countP_eq_zero.mpr fun o ho => ?_
  obtain ⟨v, -, -, hpacket⟩ := mem_floodRreq.mp ho
  unfold isData
  rw [hpacket]
  exact Bool.false_ne_true

/-- One payload handed to `origin_data` is sent or dropped. -/
theorem originData_payloads (s : ProtocolState) (clock : Clock) (dst : NodeId)
    (payload : List UInt8) (route : RouteEntry) :
    (s.originData clock dst payload route).1.metrics.dataDropped +
        (s.originData clock dst payload route).2.outbound.countP isData =
      s.metrics.dataDropped + 1 := by
  cases hfirst : s.firstHop route with
  | some endpoint => rw [originData_of_hop hfirst]; rfl
  | none => rw [originData_of_noHop hfirst]; rfl

/-- A call that queues or sends the payload of a command. -/
theorem discoverAndSend_tallied (s : ProtocolState) (clock : Clock) (dst : NodeId)
    (payload : List UInt8) :
    Tallied s (.command (.discoverAndSend dst payload)) (s.discoverAndSend clock dst payload) := by
  rcases discoverAndSend_cases s clock dst payload with
    ⟨route, -, heq⟩ | ⟨-, -, heq⟩ | ⟨-, -, heq⟩
  · rw [heq]
    cases hfirst : s.firstHop route with
    | some endpoint =>
      rw [originData_of_hop hfirst]
      exact ⟨fun c => by cases c <;> rfl, rfl, rfl, rfl, Nat.le_refl _, fun _ => rfl⟩
    | none =>
      rw [originData_of_noHop hfirst]
      refine ⟨fun c => by cases c <;> rfl, rfl, rfl, ?_, ?_, fun _ => ?_⟩
      · simp only [dropData, payloadsOut, Input.payloads, List.countP_nil]
        omega
      · simp only [dropData]
        omega
      · simp only [dropData]
        omega
  · rw [heq]
    refine ⟨fun c => by cases c <;> rfl, rfl, rfl, ?_, Nat.le_refl _, fun _ => rfl⟩
    simp only [payloadsOut, Input.payloads, List.countP_nil, List.length_append,
      List.length_singleton]
    omega
  · rw [heq]
    refine ⟨fun c => by cases c <;> rfl, ?_, rfl, ?_, Nat.le_refl _, fun _ => rfl⟩
    · simp only [startDiscovery]
      omega
    · simp only [startDiscovery, payloadsOut, Input.payloads, isData_flood, List.length_append,
        List.length_singleton]
      omega

/-- A failing discovery drops what waits for it. -/
theorem failDiscovery_tallied (s : ProtocolState) (dst : NodeId) (state : DiscoveryState)
    (now : Nat) : Tallied s (.tick now) (s.failDiscovery dst state) := by
  have hqueue : (s.pendingData.filter fun q => q.dstNodeId != dst).length +
      s.pendingData.countP (fun q => q.dstNodeId == dst) = s.pendingData.length := by
    rw [List.countP_eq_length_filter, Nat.add_comm]
    exact (List.length_eq_length_filter_add _).symm
  refine ⟨fun c => ?_, rfl, rfl, ?_, ?_, fun _ => ?_⟩
  · -- The event of the dropped payloads is none of those counted.
    unfold failDiscovery
    dsimp only
    split <;> cases c <;> rfl
  · simp only [failDiscovery, dropPendingForDst, payloadsOut, Input.payloads, List.countP_nil]
    omega
  · simp only [failDiscovery]
    omega
  · simp only [failDiscovery]
    omega

/-- A new round of a discovery takes one attempt and one request id. -/
theorem startDiscovery_tallied (s : ProtocolState) (clock : Clock) (dst : NodeId)
    (retriesDone now : Nat) :
    Tallied s (.tick now) (s.startDiscovery clock dst retriesDone) := by
  refine ⟨fun c => by cases c <;> rfl, ?_, rfl, ?_, Nat.le_refl _, fun _ => rfl⟩
  · simp only [startDiscovery]
    omega
  · simp only [startDiscovery, payloadsOut, Input.payloads, isData_flood]

/-- What a tick counts in two parts, it counts in all. -/
theorem Tallied.append {now : Nat} {t u : ProtocolState} {a b : ProtocolActions}
    (h : Tallied s (.tick now) (t, a)) (hconfig : t.config = s.config)
    (h' : Tallied t (.tick now) (u, b)) :
    Tallied s (.tick now) (u, { outbound := a.outbound ++ b.outbound,
                                events := a.events ++ b.events }) := by
  have ha := h.attempts
  have hb := h'.attempts
  have hroutes := h.routes
  have hroutes' := h'.routes
  have hpayloads := h.payloads
  have hpayloads' := h'.payloads
  have hdropped := h.dropped
  have hdropped' := h'.dropped
  refine ⟨fun c => ?_, ?_, ?_, ?_, ?_, fun hdsr => ?_⟩
  · have hsum : recount (.tick now)
        { outbound := a.outbound ++ b.outbound, events := a.events ++ b.events } c =
        recount (.tick now) a c + recount (.tick now) b c := by
      cases c <;> simp only [recount, List.countP_append]
    rw [h'.counters c, h.counters c, hsum, Nat.add_assoc]
  · dsimp only at ha hb ⊢
    omega
  · dsimp only at hroutes hroutes' ⊢
    omega
  · simp only [payloadsOut, Input.payloads, List.countP_append] at hpayloads hpayloads' ⊢
    omega
  · dsimp only at hdropped hdropped' ⊢
    omega
  · have hd := h.dropped_dsr hdsr
    have hd' := h'.dropped_dsr (by rw [hconfig]; exact hdsr)
    dsimp only at hd hd' ⊢
    omega

theorem retryLoop_tallied (s : ProtocolState) (clock : Clock) (now : Nat)
    (expired : List Expired) : Tallied s (.tick now) (s.retryLoop clock expired) := by
  induction expired generalizing s clock with
  | nil => exact ⟨fun c => by cases c <;> rfl, rfl, rfl, rfl, Nat.le_refl _, fun _ => rfl⟩
  | cons entry expired ih =>
    by_cases hmax : s.config.routeDiscoveryMaxRetries ≤ entry.2.retriesDone
    · rw [retryLoop_cons_of_le s clock expired hmax]
      exact (failDiscovery_tallied s entry.1 entry.2 now).append rfl (ih _ clock)
    · rw [retryLoop_cons_of_not_le s clock expired hmax]
      exact (startDiscovery_tallied s clock entry.1 _ now).append rfl (ih _ (clock.later 1))

/-! ## Packets -/

theorem handleRreq_tallied (s : ProtocolState) (clock : Clock) (q : Rreq) (sender : SocketAddr) :
    Tallied s (.packet (.rreq q) sender) (s.handleRreq clock q) := by
  have hout := handleRreq_outcome s clock q
  generalize s.handleRreq clock q = r at hout ⊢
  cases hout with
  | refused m _ hm =>
    rcases hm with rfl | rfl <;>
      exact ⟨fun c => by cases c <;> rfl, rfl, rfl, rfl, Nat.le_refl _, fun _ => rfl⟩
  | duplicate =>
    exact ⟨fun c => by cases c <;> rfl, rfl, rfl, rfl, Nat.le_refl _, fun _ => rfl⟩
  | noLabel _ _ hlabel =>
    refine ⟨fun c => by cases c <;> rfl, rfl, rfl, rfl, ?_, fun hdsr => ?_⟩
    · dsimp only
      omega
    · -- In DSR mode no label is looked up.
      rw [(extendRreq_eq_none.mp hlabel).1] at hdsr
      cases hdsr
  | answered e =>
    -- One RREP is sent, or none; neither of the two counts here.
    unfold ProtocolState.answerRreq
    split <;> exact ⟨fun c => by cases c <;> rfl, rfl, rfl, rfl, Nat.le_refl _, fun _ => rfl⟩
  | forwarded e =>
    have hall : (s.rreqCopies e).countP OutboundPacket.isRreq = (s.rreqCopies e).length := by
      refine List.countP_eq_length.mpr fun o ho => ?_
      obtain ⟨v, -, -, -, hpacket⟩ := mem_rreqCopies.mp ho
      unfold OutboundPacket.isRreq
      rw [hpacket]
    have hnoData : (s.rreqCopies e).countP isData = 0 := by
      refine List.countP_eq_zero.mpr fun o ho => ?_
      obtain ⟨v, -, -, -, hpacket⟩ := mem_rreqCopies.mp ho
      unfold isData
      rw [hpacket]
      exact Bool.false_ne_true
    refine ⟨fun c => ?_, rfl, rfl, ?_, Nat.le_refl _, fun _ => rfl⟩
    · cases c with
      | rreqForwarded =>
        show s.metrics.rreqForwarded + (s.rreqCopies e).length =
          s.metrics.rreqForwarded + (s.rreqCopies e).countP OutboundPacket.isRreq
        rw [hall]
      | _ => rfl
    · show _ + ((s.rreqCopies e).countP isData + 0) = _
      rw [hnoData]
      rfl

/-- What a flush takes out of the queue, it sends or drops. -/
theorem flushLoop_payloads (s : ProtocolState) (clock : Clock) (dst : NodeId) (route : RouteEntry)
    (queue : List PendingData) :
    (s.flushLoop clock dst route queue).2.2.length +
        (s.flushLoop clock dst route queue).1.metrics.dataDropped +
        (s.flushLoop clock dst route queue).2.1.countP isData =
      queue.length + s.metrics.dataDropped := by
  induction queue generalizing s clock with
  | nil => exact Nat.add_zero _
  | cons pending queue ih =>
    simp only [flushLoop]
    split
    · have hfirst := originData_payloads s clock dst pending.payload route
      have hrest := ih (s.originData clock dst pending.payload route).1 (clock.later 1)
      dsimp only
      rw [List.countP_append, List.length_cons]
      omega
    · have hrest := ih s clock
      dsimp only
      rw [List.length_cons, List.length_cons]
      omega

theorem acceptRrep_tallied (s : ProtocolState) (clock : Clock) (p : Rrep) (sender : SocketAddr) :
    Tallied s (.packet (.rrep p) sender) (s.acceptRrep clock p) := by
  have hmetrics := acceptRrep_metrics s clock p
  obtain ⟨n, m, hstate⟩ := acceptRrep_state s clock p
  have hnoRrep : (s.acceptRrep clock p).2.outbound.countP OutboundPacket.isRrep = 0 := by
    refine List.countP_eq_zero.mpr fun o ho => ?_
    obtain ⟨payload, -, hdata⟩ := acceptRrep_outbound ho
    obtain ⟨d, hpacket⟩ := hdata.is_data
    unfold OutboundPacket.isRrep
    rw [hpacket]
    exact Bool.false_ne_true
  have hflush := flushLoop_payloads (s.cacheRoute clock p) (clock.later 1) p.dstNodeId
    (s.routeOf clock p) s.pendingData
  refine ⟨fun c => ?_, ?_, ?_, ?_, ?_, fun _ => ?_⟩
  · rw [hmetrics]
    cases c with
    | rrepForwarded =>
      show s.metrics.rrepForwarded = s.metrics.rrepForwarded +
        (s.acceptRrep clock p).2.outbound.countP OutboundPacket.isRrep
      rw [hnoRrep]
      rfl
    | _ => rfl
  · rw [hmetrics, hstate]
  · rw [hmetrics, hstate]
    dsimp only
    rw [RouteCache.size_insert]
    omega
  · have hdelivered : (s.acceptRrep clock p).1.metrics.dataDelivered = s.metrics.dataDelivered := by
      rw [hmetrics]
    rw [hdelivered]
    show (s.acceptRrep clock p).1.pendingData.length + _ + _ +
      ((s.acceptRrep clock p).2.outbound.countP isData + 0) = _ + _ + _ + 0
    have hkept : (s.acceptRrep clock p).1.pendingData.length +
        (s.acceptRrep clock p).1.metrics.dataDropped +
        (s.acceptRrep clock p).2.outbound.countP isData =
      s.pendingData.length + s.metrics.dataDropped := hflush
    omega
  · rw [hmetrics]
    dsimp only
    omega
  · rw [hmetrics]
    dsimp only
    omega

theorem handleRrep_tallied (s : ProtocolState) (clock : Clock) (p : Rrep) (sender : SocketAddr) :
    Tallied s (.packet (.rrep p) sender) (s.handleRrep clock sender p) := by
  have hout := handleRrep_outcome s clock sender p
  generalize s.handleRrep clock sender p = r at hout ⊢
  cases hout with
  | accepted => exact acceptRrep_tallied s clock p sender
  | rejected | relayed | vanished =>
    exact ⟨fun c => by cases c <;> rfl, rfl, rfl, rfl, Nat.le_refl _, fun _ => rfl⟩

theorem handleData_tallied (s : ProtocolState) (clock : Clock) (d : Data) (sender : SocketAddr) :
    Tallied s (.packet (.data d) sender) (s.handleData clock sender d) := by
  have hout := handleData_outcome s clock sender d
  generalize s.handleData clock sender d = r at hout ⊢
  cases hout with
  | dropped reason =>
    refine ⟨fun c => by cases c <;> rfl, rfl, rfl, ?_, ?_, fun _ => ?_⟩
    · show s.pendingData.length + (s.metrics.dataDropped + 1) + s.metrics.dataDelivered + 0 = _
      simp only [Input.payloads]
      omega
    · simp only [dropData]
      omega
    · simp only [dropData]
      omega
  | delivered =>
    refine ⟨fun c => ?_, rfl, rfl, rfl, Nat.le_refl _, fun _ => rfl⟩
    cases c with
    | latencySamples => exact List.length_append
    | _ => rfl
  | sentOn endpoint =>
    exact ⟨fun c => by cases c <;> rfl, rfl, rfl, rfl, Nat.le_refl _, fun _ => rfl⟩
  | vanished =>
    exact ⟨fun c => by cases c <;> rfl, rfl, rfl, rfl, Nat.le_refl _, fun _ => rfl⟩

/-- What every call adds to the counters. -/
theorem call_tallied (s : ProtocolState) (clock : Clock) (input : Input) :
    Tallied s input (s.call clock input) := by
  cases input with
  | command c =>
    obtain ⟨dst, payload⟩ := c
    exact discoverAndSend_tallied s clock dst payload
  | tick now =>
    rw [call_tick]
    have hloop := retryLoop_tallied (s.pruned now) clock now (s.expiredDiscoveries now)
    exact ⟨hloop.counters, hloop.attempts, hloop.routes, hloop.payloads, hloop.dropped,
      hloop.dropped_dsr⟩
  | hello =>
    have hnoData : (s.sendHellos clock).outbound.countP isData = 0 := by
      refine List.countP_eq_zero.mpr fun o ho => ?_
      obtain ⟨⟨endpoint, i⟩, -, rfl⟩ := List.mem_map.mp ho
      exact Bool.false_ne_true
    refine ⟨fun c => by cases c <;> rfl, rfl, rfl, ?_, Nat.le_refl _, fun _ => rfl⟩
    show _ + ((s.sendHellos clock).outbound.countP isData + 0) = _
    rw [hnoData]
    rfl
  | packet packet sender =>
    cases packet with
    | rreq q => exact handleRreq_tallied s clock q sender
    | rrep p => exact handleRrep_tallied s clock p sender
    | data d => exact handleData_tallied s clock d sender
    | ack _ | error _ =>
      exact ⟨fun c => by cases c <;> rfl, rfl, rfl, rfl, Nat.le_refl _, fun _ => rfl⟩
    | helloReply p =>
      show Tallied s _ (s.handleHelloReply p)
      unfold handleHelloReply
      split <;> exact ⟨fun c => by cases c <;> rfl, rfl, rfl, rfl, Nat.le_refl _, fun _ => rfl⟩
    | hello p =>
      show Tallied s _ (s.handleHello clock p sender)
      unfold handleHello
      split
      · exact ⟨fun c => by cases c <;> rfl, rfl, rfl, rfl, Nat.le_refl _, fun _ => rfl⟩
      split <;> exact ⟨fun c => by cases c <;> rfl, rfl, rfl, rfl, Nat.le_refl _, fun _ => rfl⟩

/-! ## Runs -/

/-- What passed between a node and its daemon: the inputs, oldest first, with the actions
they were answered with. -/
abbrev CallLog := List (Input × ProtocolActions)

/-- The runs of one node, whatever it is called with, whatever its clock reads, and in
whatever order its hash maps iterate. -/
inductive Logs (config : NodeConfig) : CallLog → ProtocolState → Prop where
  | new : Logs config [] (.new config)
  | call {log : CallLog} {s : ProtocolState} (clock : Clock) (input : Input)
      (h : Logs config log s) :
      Logs config (log ++ [(input, (s.call clock input).2)]) (s.call clock input).1
  | reorder {log : CallLog} {s s' : ProtocolState} (h : Logs config log s) (hs : s.Reorder s') :
      Logs config log s'

/-- The counters of a node agree with its log. -/
structure Recounted (config : NodeConfig) (log : CallLog) (s : ProtocolState) : Prop where
  settings : s.config = config
  counters : ∀ c, s.metrics.read c = (log.map fun e => recount e.1 e.2 c).sum
  attempts : s.metrics.routeDiscoveryAttempts + 1 = s.nextRequestId
  routes : s.routes.size = s.metrics.routeDiscoverySuccesses
  payloads : s.pendingData.length + s.metrics.dataDropped + s.metrics.dataDelivered +
    (log.map fun e => payloadsOut e.1 e.2).sum = (log.map fun e => e.1.payloads).sum
  dropped : s.metrics.dataDropped ≤ s.metrics.droppedPackets
  dropped_dsr : config.protocolMode = .dsr → s.metrics.dataDropped = s.metrics.droppedPackets

variable {config : NodeConfig} {log : CallLog}

theorem Recounted.call (h : Recounted config log s) (clock : Clock) (input : Input) :
    Recounted config (log ++ [(input, (s.call clock input).2)]) (s.call clock input).1 := by
  have hcall := call_tallied s clock input
  have hattempts := h.attempts
  have hattempts' := hcall.attempts
  have hroutes := h.routes
  have hroutes' := hcall.routes
  have hpayloads := h.payloads
  have hpayloads' := hcall.payloads
  have hdropped := h.dropped
  have hdropped' := hcall.dropped
  refine ⟨?_, fun c => ?_, ?_, ?_, ?_, ?_, fun hdsr => ?_⟩
  · rw [call_config]
    exact h.settings
  · rw [hcall.counters, h.counters, List.map_append, List.sum_append, List.map_singleton,
      List.sum_singleton]
  · omega
  · omega
  · rw [List.map_append, List.sum_append, List.map_append, List.sum_append, List.map_singleton,
      List.sum_singleton, List.map_singleton, List.sum_singleton]
    dsimp only
    omega
  · omega
  · have hequal := h.dropped_dsr hdsr
    have hequal' := hcall.dropped_dsr (by rw [h.settings]; exact hdsr)
    omega

theorem Recounted.reorder {s' : ProtocolState} (h : Recounted config log s)
    (hs : s.Reorder s') : Recounted config log s' := by
  have hsize : s'.routes.size = s.routes.size := (AList.SameMap.sum_values hs.routes List.length).symm
  refine ⟨?_, ?_, ?_, ?_, ?_, ?_, ?_⟩
  · rw [hs.config]
    exact h.settings
  · rw [hs.metrics]
    exact h.counters
  · rw [hs.metrics, hs.nextRequestId]
    exact h.attempts
  · rw [hs.metrics, hsize]
    exact h.routes
  · rw [hs.metrics, hs.pendingData]
    exact h.payloads
  · rw [hs.metrics]
    exact h.dropped
  · rw [hs.metrics]
    exact h.dropped_dsr

/-- **The counters are right**: after any run of a node from the start, its counters are
what its inputs and its actions add up to. -/
theorem counters_recounted (h : Logs config log s) : Recounted config log s := by
  induction h with
  | new =>
    exact ⟨rfl, fun c => by cases c <;> rfl, rfl, rfl, rfl, Nat.le_refl _, fun _ => rfl⟩
  | call clock input _ ih => exact ih.call clock input
  | reorder _ hs ih => exact ih.reorder hs

/-- The log of a node that serves one call after the other. -/
def logOf (s : ProtocolState) : List (Clock × Input) → CallLog
  | [] => []
  | (clock, input) :: calls =>
    (input, (s.call clock input).2) :: (s.call clock input).1.logOf calls

theorem Logs.serve (h : Logs config log s) (calls : List (Clock × Input)) :
    Logs config (log ++ s.logOf calls) (s.serve calls) := by
  induction calls generalizing log s with
  | nil =>
    rw [logOf, List.append_nil]
    exact h
  | cons call calls ih =>
    obtain ⟨clock, input⟩ := call
    have hrest := ih (h.call clock input)
    rw [List.append_assoc] at hrest
    exact hrest

/-- Node 1 of the line is asked to send to node 2 and accepts the RREP from there. Then node
0 floods a request through it, gets the RREP back, and sends one DATA packet to node 2 and
one to node 1. -/
def middleOfLineCalls : List (Clock × Input) :=
  let data : Data :=
    { srcNodeId := 0, dstNodeId := 2, sequence := 1, protocolMode := .dsr, routeCursor := 1,
      dsrPath := [0, 1, 2], dldsrLabelPath := [], payload := [8], createdAtMillis := 40 }
  [(fun _ => 10, .command (.discoverAndSend 2 [7])),
   (fun _ => 20, .packet (.rrep
      { srcNodeId := 1, dstNodeId := 2, requestId := 1, dsrPath := [1, 2], dldsrLabelPath := [],
        tracePath := [1, 2], createdAtMillis := 10 }) (.localhost 7002)),
   (fun _ => 30, .packet (.rreq
      { srcNodeId := 0, dstNodeId := 2, requestId := 1, previousHop := 0, hopCount := 0,
        dsrPath := [0], dldsrLabelPath := [], tracePath := [0], createdAtMillis := 30 })
      (.localhost 7000)),
   (fun _ => 40, .packet (.rrep
      { srcNodeId := 0, dstNodeId := 2, requestId := 1, dsrPath := [0, 1, 2],
        dldsrLabelPath := [], tracePath := [0, 1, 2], createdAtMillis := 30 })
      (.localhost 7002)),
   (fun _ => 50, .packet (.data data) (.localhost 7000)),
   (fun _ => 60, .packet (.data { data with dstNodeId := 1, dsrPath := [0, 1] })
      (.localhost 7000))]

/-- All of this is in its counters. -/
theorem counters_recounted_middleOfLine :
    let s := (new middleOfLineSettings).serve middleOfLineCalls
    Recounted middleOfLineSettings ((new middleOfLineSettings).logOf middleOfLineCalls) s ∧
      s.metrics.routeDiscoverySuccesses = 1 ∧ s.metrics.rreqForwarded = 1 ∧
      s.metrics.rrepForwarded = 1 ∧ s.metrics.dataForwarded = 1 ∧
      s.metrics.dataDelivered = 1 ∧ s.metrics.latencySamplesMs = [20] :=
  ⟨counters_recounted (Logs.serve .new middleOfLineCalls), by decide +kernel⟩

end ProtocolState

end DlDsr
