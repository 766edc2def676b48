import DlDsr.Node.Accounting
import DlDsr.Node.Events
import DlDsr.Node.Forwarding
import Mathlib.Algebra.BigOperators.Group.Multiset.Basic
import Mathlib.Algebra.Order.Group.Multiset

/-!
# What one call does to the payloads

A submitted payload is queued, carried by a DATA packet, delivered or discarded. One
call moves payloads between these four, and `Conserves` says that it neither loses nor
duplicates one: what was submitted, queued or carried before is queued or carried
afterwards, or an event reports its delivery or the failure of its discovery. A call that
finds no next hop, or rejects DATA, does lose payloads, but none makes one up
(`call_noMore`).
-/

namespace DlDsr

/-- A payload, with the node it was submitted at and the node it is for. -/
structure Submission where
  srcNodeId : NodeId
  dstNodeId : NodeId
  payload : List UInt8
deriving DecidableEq

/-- What a packet carries. -/
def Packet.submissions : Packet → Multiset Submission
  | .data d => {⟨d.srcNodeId, d.dstNodeId, d.payload⟩}
  | _ => 0

/-- What an event reports as delivered. -/
def ProtocolEvent.delivery : ProtocolEvent → Multiset Submission
  | .dataDelivered _ srcNodeId dstNodeId _ payload => {⟨srcNodeId, dstNodeId, payload⟩}
  | _ => 0

/-- The event reports that a discovery of `dst` has failed. -/
def ProtocolEvent.failsFor (dst : NodeId) : ProtocolEvent → Bool
  | .routeDiscoveryFailed _ dstNodeId _ => dstNodeId == dst
  | _ => false

/-- What a call of node `n` submits. -/
def Input.submitted (n : NodeId) : Input → Multiset Submission
  | .command (.discoverAndSend dst payload) => {⟨n, dst, payload⟩}
  | _ => 0

/-- What the received packet carries. -/
def Input.carried : Input → Multiset Submission
  | .packet p _ => p.submissions
  | _ => 0

/-- What a list of packets carries. -/
def carriedBy (packets : List Packet) : Multiset Submission :=
  (packets.map Packet.submissions).sum

/-- What a list of events reports as delivered. -/
def deliveredBy (events : List ProtocolEvent) : Multiset Submission :=
  (events.map ProtocolEvent.delivery).sum

/-- A queue of node `n`. -/
def queuedBy (n : NodeId) (queue : List PendingData) : Multiset Submission :=
  (queue.map fun q => (⟨n, q.dstNodeId, q.payload⟩ : Submission) : List Submission)

theorem carriedBy_eq_zero {packets : List Packet} (h : ∀ p ∈ packets, p.submissions = 0) :
    carriedBy packets = 0 := by
  refine List.sum_eq_zero fun m hm => ?_
  obtain ⟨p, hp, rfl⟩ := List.mem_map.mp hm
  exact h p hp

theorem deliveredBy_eq_zero {events : List ProtocolEvent} (h : ∀ e ∈ events, e.delivery = 0) :
    deliveredBy events = 0 := by
  refine List.sum_eq_zero fun m hm => ?_
  obtain ⟨e, he, rfl⟩ := List.mem_map.mp hm
  exact h e he

/-- A queue splits by any test of its payloads. -/
theorem queuedBy_split (n : NodeId) (p : PendingData → Bool) (queue : List PendingData) :
    queuedBy n queue =
      queuedBy n (queue.filter fun q => !p q) + queuedBy n (queue.filter p) := by
  unfold queuedBy
  rw [Multiset.coe_add, ← List.map_append, Multiset.coe_eq_coe]
  refine List.Perm.map _ (List.Perm.symm ?_)
  exact List.perm_append_comm.trans (List.filter_append_perm p queue)

namespace ProtocolState

variable {s : ProtocolState} {clock : Clock}

/-! ## Conservation -/

/-- The payloads in the queue. -/
def queued (s : ProtocolState) : Multiset Submission := queuedBy s.config.nodeId s.pendingData

/-- The events report that a discovery of the payload's destination has failed. -/
def lost (events : List ProtocolEvent) (q : PendingData) : Bool :=
  events.any (ProtocolEvent.failsFor q.dstNodeId)

/-- What the failed discoveries among the events discard. -/
def discarded (s : ProtocolState) (events : List ProtocolEvent) : Multiset Submission :=
  queuedBy s.config.nodeId (s.pendingData.filter (lost events))

/-- No payload is lost or duplicated by a call with this result. -/
def Conserves (s : ProtocolState) (input : Input) (r : ProtocolState × ProtocolActions) : Prop :=
  input.submitted s.config.nodeId + s.queued + input.carried =
    r.1.queued + carriedBy (r.2.outbound.map OutboundPacket.packet) + deliveredBy r.2.events +
      s.discarded r.2.events

theorem discarded_eq_zero {events : List ProtocolEvent}
    (h : ∀ n dst attempts, .routeDiscoveryFailed n dst attempts ∉ events) :
    s.discarded events = 0 := by
  have hnone : s.pendingData.filter (lost events) = [] := by
    refine List.filter_eq_nil_iff.mpr fun q _ hlost => ?_
    obtain ⟨e, he, hfails⟩ := List.any_eq_true.mp hlost
    cases e with
    | routeDiscoveryFailed n dst attempts => exact h n dst attempts he
    | _ => cases hfails
  unfold discarded
  rw [hnone]
  rfl

/-- A packet that carries nothing, is answered without DATA and leaves the queue alone. -/
theorem conserves_of_idle {input : Input} {r : ProtocolState × ProtocolActions}
    (hinput : input.submitted s.config.nodeId = 0 ∧ input.carried = 0)
    (hconfig : r.1.config = s.config) (hqueue : r.1.pendingData = s.pendingData)
    (hout : ∀ o ∈ r.2.outbound, o.packet.submissions = 0)
    (hevents : ∀ e ∈ r.2.events, e.delivery = 0 ∧ ∀ dst, e.failsFor dst = false) :
    s.Conserves input r := by
  have hqueued : r.1.queued = s.queued := by
    unfold queued
    rw [hconfig, hqueue]
  have hcarried : carriedBy (r.2.outbound.map OutboundPacket.packet) = 0 := by
    refine carriedBy_eq_zero fun p hp => ?_
    obtain ⟨o, ho, rfl⟩ := List.mem_map.mp hp
    exact hout o ho
  have hdiscarded : s.discarded r.2.events = 0 := by
    refine discarded_eq_zero fun n dst attempts hmem => ?_
    have := (hevents _ hmem).2 dst
    simp [ProtocolEvent.failsFor] at this
  unfold Conserves
  rw [hinput.1, hinput.2, hqueued, hcarried, hdiscarded,
    deliveredBy_eq_zero fun e he => (hevents e he).1]
  simp

/-! ## Ticks -/

theorem failDiscovery_lost (s : ProtocolState) (dst : NodeId) (state : DiscoveryState)
    (q : PendingData) :
    lost (s.failDiscovery dst state).2.events q = (dst == q.dstNodeId) := by
  unfold failDiscovery lost
  rw [List.any_cons]
  split <;> simp [ProtocolEvent.failsFor]

theorem lost_append (events events' : List ProtocolEvent) (q : PendingData) :
    lost (events ++ events') q = (lost events q || lost events' q) := List.any_append

/-- Counting what the one or the other test accepts, one after the other. -/
theorem countP_or {α : Type} (p r : α → Bool) (l : List α) :
    l.countP p + (l.filter fun x => !p x).countP r = l.countP fun x => p x || r x := by
  induction l with
  | nil => rfl
  | cons x l ih =>
    cases hp : p x with
    | true =>
      rw [List.countP_cons_of_pos hp, List.countP_cons_of_pos (by simp [hp]),
        List.filter_cons_of_neg (by simp [hp])]
      omega
    | false =>
      rw [List.countP_cons_of_neg (by simp [hp]), List.filter_cons_of_pos (by simp [hp]),
        List.countP_cons, List.countP_cons]
      simp only [hp, Bool.false_or]
      omega

/-- The tick loop keeps the payloads whose discovery it does not report as failed, and
counts the others as dropped. -/
theorem retryLoop_queue (s : ProtocolState) (clock : Clock)
    (expired : List (Sigma fun _ : NodeId => DiscoveryState)) :
    (s.retryLoop clock expired).1.pendingData =
        s.pendingData.filter (fun q => !lost (s.retryLoop clock expired).2.events q) ∧
      (s.retryLoop clock expired).1.metrics.dataDropped =
        s.metrics.dataDropped + s.pendingData.countP (lost (s.retryLoop clock expired).2.events) := by
  induction expired generalizing s clock with
  | nil =>
    have hnone : lost ([] : List ProtocolEvent) = fun _ => false := rfl
    simp [retryLoop, hnone]
  | cons entry expired ih =>
    obtain ⟨dst, state⟩ := entry
    simp only [retryLoop]
    split
    · -- The discovery fails: its payloads go, and the rest is left to the rest of the loop.
      obtain ⟨hqueue, hcount⟩ := ih (s.failDiscovery dst state).1 clock
      have hpending : (s.failDiscovery dst state).1.pendingData =
          s.pendingData.filter fun q => !(dst == q.dstNodeId) := by
        refine List.filter_congr fun q _ => ?_
        show (q.dstNodeId != dst) = _
        rw [bne, BEq.comm]
      have hdropped : (s.failDiscovery dst state).1.metrics.dataDropped =
          s.metrics.dataDropped + s.pendingData.countP fun q => dst == q.dstNodeId := by
        show s.metrics.dataDropped + s.pendingData.countP (fun q => q.dstNodeId == dst) = _
        congr 2
        funext q
        exact BEq.comm
      have hlost : lost ((s.failDiscovery dst state).2.events ++
          ((s.failDiscovery dst state).1.retryLoop clock expired).2.events) = fun q =>
            (dst == q.dstNodeId) ||
              lost ((s.failDiscovery dst state).1.retryLoop clock expired).2.events q := by
        funext q
        rw [lost_append, failDiscovery_lost]
      constructor
      · rw [hqueue, hpending, List.filter_filter, hlost]
        refine List.filter_congr fun q _ => ?_
        rw [Bool.not_or, Bool.and_comm]
      · rw [hcount, hdropped, hpending, hlost, Nat.add_assoc, countP_or]
    · exact ih (s.startDiscovery clock dst (state.retriesDone + 1)).1 (clock.later 1)

/-- What a tick does not keep, its failed discoveries discard. -/
theorem call_tick_conserves (s : ProtocolState) (clock : Clock) (now : Nat) :
    s.Conserves (.tick now) (s.call clock (.tick now)) := by
  have hqueue : (s.call clock (.tick now)).1.pendingData =
      s.pendingData.filter fun q => !lost (s.call clock (.tick now)).2.events q :=
    (retryLoop_queue { s with
      seenRequests := s.seenRequests.prune now s.config.seenRequestTtlMs } clock _).1
  have hcarried :
      carriedBy ((s.call clock (.tick now)).2.outbound.map OutboundPacket.packet) = 0 := by
    refine carriedBy_eq_zero fun p hp => ?_
    obtain ⟨o, ho, rfl⟩ := List.mem_map.mp hp
    cases emits_of_mem ho with
    | originate _ _ _ _ _ _ _ _ hflood =>
      obtain ⟨v, -, -, hpacket⟩ := mem_floodRreq.mp hflood
      rw [hpacket]
      rfl
  have hdelivered : deliveredBy (s.call clock (.tick now)).2.events = 0 := by
    refine deliveredBy_eq_zero fun e he => ?_
    cases announces_of_mem he <;> rfl
  have hsplit := queuedBy_split s.config.nodeId (lost (s.call clock (.tick now)).2.events)
    s.pendingData
  unfold Conserves
  rw [hcarried, hdelivered]
  unfold queued discarded
  rw [call_config, hqueue]
  show 0 + queuedBy s.config.nodeId s.pendingData + 0 = _
  rw [zero_add, add_zero, add_zero, add_zero]
  exact hsplit

/-- The counter of dropped DATA grows by what a tick discards. -/
theorem call_tick_dataDropped (s : ProtocolState) (clock : Clock) (now : Nat) :
    (s.call clock (.tick now)).1.metrics.dataDropped =
      s.metrics.dataDropped + (s.discarded (s.call clock (.tick now)).2.events).card := by
  have hcount : (s.call clock (.tick now)).1.metrics.dataDropped =
      s.metrics.dataDropped + s.pendingData.countP (lost (s.call clock (.tick now)).2.events) :=
    (retryLoop_queue { s with
      seenRequests := s.seenRequests.prune now s.config.seenRequestTtlMs } clock _).2
  rw [hcount, List.countP_eq_length_filter]
  unfold discarded queuedBy
  rw [Multiset.coe_card, List.length_map]

/-! ## Commands and packets -/

theorem call_hello_conserves (s : ProtocolState) (clock : Clock) :
    s.Conserves .hello (s.call clock .hello) := by
  refine conserves_of_idle ⟨rfl, rfl⟩ rfl rfl (fun o ho => ?_) (fun e he => ?_)
  · cases emits_of_mem ho with
    | hello => rfl
    | originate _ _ _ _ _ hinput => rcases hinput with ⟨_, heq⟩ | ⟨_, heq⟩ <;> cases heq
  · cases he

theorem discarded_nil : s.discarded [] = 0 := discarded_eq_zero fun _ _ _ => List.not_mem_nil

theorem queued_append (s : ProtocolState) (dst : NodeId) (payload : List UInt8) {t : ProtocolState}
    (hconfig : t.config = s.config) (hpending : t.pendingData = s.pendingData ++ [⟨dst, payload⟩]) :
    t.queued = {⟨s.config.nodeId, dst, payload⟩} + s.queued := by
  unfold queued queuedBy
  rw [hconfig, hpending, List.map_append, ← Multiset.coe_add, add_comm]
  rfl

/-- A command sends its payload or queues it, if the route it finds has a first hop. -/
theorem discoverAndSend_conserves {dst : NodeId} {payload : List UInt8}
    (h : ∀ route, s.routes.shortest dst (clock 0) = some route →
      ∃ endpoint, s.firstHop route = some endpoint) :
    s.Conserves (.command (.discoverAndSend dst payload)) (s.discoverAndSend clock dst payload) := by
  rcases discoverAndSend_cases s clock dst payload with
    ⟨route, hroute, heq⟩ | ⟨-, -, heq⟩ | ⟨-, -, heq⟩
  · obtain ⟨endpoint, hhop⟩ := h route hroute
    rw [heq, originData_of_hop hhop]
    show {⟨s.config.nodeId, dst, payload⟩} + s.queued + 0 =
      s.queued + ({⟨s.config.nodeId, dst, payload⟩} + 0) + 0 + s.discarded []
    rw [discarded_nil, add_comm s.queued]
    simp
  · rw [heq]
    have hqueued : ({ s with pendingData := s.pendingData ++ [⟨dst, payload⟩] } :
        ProtocolState).queued = {⟨s.config.nodeId, dst, payload⟩} + s.queued :=
      queued_append s dst payload rfl rfl
    unfold Conserves
    rw [hqueued]
    show {⟨s.config.nodeId, dst, payload⟩} + s.queued + 0 = _ + 0 + 0 + s.discarded []
    rw [discarded_nil]
    simp
  · rw [heq]
    have hqueued : (({ s with pendingData := s.pendingData ++ [⟨dst, payload⟩] } :
        ProtocolState).startDiscovery (clock.later 1) dst 0).1.queued =
          {⟨s.config.nodeId, dst, payload⟩} + s.queued :=
      queued_append s dst payload rfl rfl
    have hcarried : carriedBy (((({ s with pendingData := s.pendingData ++ [⟨dst, payload⟩] } :
        ProtocolState).startDiscovery (clock.later 1) dst 0).2.outbound).map
          OutboundPacket.packet) = 0 := by
      refine carriedBy_eq_zero fun p hp => ?_
      obtain ⟨o, ho, rfl⟩ := List.mem_map.mp hp
      obtain ⟨v, -, -, hpacket⟩ := mem_floodRreq.mp ho
      rw [hpacket]
      rfl
    unfold Conserves
    rw [hcarried, hqueued]
    show {⟨s.config.nodeId, dst, payload⟩} + s.queued + 0 = _ + 0 + 0 + s.discarded []
    rw [discarded_nil]
    simp

/-- The packets that leave carry what was queued. -/
theorem carriedBy_departing {n : NodeId} {data : List Data} (h : ∀ d ∈ data, d.srcNodeId = n)
    (endpoint : SocketAddr) :
    carriedBy ((data.map fun d => departing d endpoint).map OutboundPacket.packet) =
      queuedBy n (data.map fun d => ⟨d.dstNodeId, d.payload⟩) := by
  induction data with
  | nil => rfl
  | cons d data ih =>
    have hrest := ih fun d hd => h d (List.mem_cons_of_mem _ hd)
    show {⟨d.srcNodeId, d.dstNodeId, d.payload⟩} +
        carriedBy ((data.map fun d => departing d endpoint).map OutboundPacket.packet) =
      {⟨n, d.dstNodeId, d.payload⟩} + queuedBy n (data.map fun d => ⟨d.dstNodeId, d.payload⟩)
    rw [hrest, h d List.mem_cons_self]

/-- An accepted RREP takes what is queued for its destination out of the queue. -/
theorem acceptRrep_queued (s : ProtocolState) (clock : Clock) (p : Rrep) :
    s.queued = (s.acceptRrep clock p).1.queued +
      queuedBy s.config.nodeId (s.pendingData.filter fun q => q.dstNodeId == p.dstNodeId) := by
  obtain ⟨n, m, hstate⟩ := acceptRrep_state s clock p
  rw [hstate]
  exact queuedBy_split s.config.nodeId (fun q => q.dstNodeId == p.dstNodeId) s.pendingData

theorem acceptRrep_discarded (s : ProtocolState) (clock : Clock) (p : Rrep) :
    s.discarded (s.acceptRrep clock p).2.events = 0 :=
  discarded_eq_zero fun n dst attempts hmem => by cases List.mem_singleton.mp hmem

/-- An accepted RREP sends what is queued for its destination, if its route has a first
hop. -/
theorem acceptRrep_conserves {p : Rrep} {sender : SocketAddr} {endpoint : SocketAddr}
    (h : s.firstHop (s.routeOf clock p) = some endpoint) :
    s.Conserves (.packet (.rrep p) sender) (s.acceptRrep clock p) := by
  have hhop := (s.firstHop_cacheRoute clock p _).trans h
  have hsent : (s.acceptRrep clock p).2.outbound = _ :=
    (flushLoop_sends hhop (clock.later 1) p.dstNodeId s.pendingData).2
  have hcarried : carriedBy ((s.acceptRrep clock p).2.outbound.map OutboundPacket.packet) =
      queuedBy s.config.nodeId (s.pendingData.filter fun q => q.dstNodeId == p.dstNodeId) := by
    rw [hsent, carriedBy_departing (fun d hd => (handOver_header hd).1), handOver_pending]
    rfl
  unfold Conserves
  rw [hcarried, acceptRrep_discarded]
  show 0 + s.queued + 0 = _ + _ + 0 + 0
  rw [zero_add, add_zero, add_zero, add_zero]
  exact acceptRrep_queued s clock p

/-- A packet without DATA that is not accepted as an answer touches no payload. -/
theorem handlePacket_conserves {packet : Packet} {sender : SocketAddr}
    (hdata : packet.submissions = 0)
    (hrrep : ∀ p, packet = .rrep p → s.validateRrep sender p.tracePath = .ok () →
      s.config.nodeId ≠ p.srcNodeId) :
    s.Conserves (.packet packet sender) (s.call clock (.packet packet sender)) := by
  -- A packet that carries nothing is no DATA.
  have hno : ∀ d : Data, packet ≠ .data d := by
    rintro d rfl
    exact Multiset.singleton_ne_zero _ hdata
  refine conserves_of_idle ⟨rfl, hdata⟩ (call_config _) ?_ (fun o ho => ?_) (fun e he => ?_)
  · rcases handlePacket_queue s clock packet sender with
      ⟨hpending, -⟩ | ⟨p, hp, hok, hsrc, -⟩
    · exact hpending
    · exact absurd hsrc (hrrep p hp hok)
  · cases emits_of_mem ho with
    | helloReply => rfl
    | originate _ _ _ _ _ hinput => rcases hinput with ⟨_, heq⟩ | ⟨_, heq⟩ <;> cases heq
    | forwardRreq q e _ _ _ _ _ _ hcopy =>
      obtain ⟨v, -, -, -, hpacket⟩ := mem_rreqCopies.mp hcopy
      rw [hpacket]
      rfl
    | answerRreq => rfl
    | relayRrep => rfl
    | flushData p _ _ _ hok hsrc => exact absurd hsrc (hrrep p rfl hok)
    | forwardData d => exact absurd rfl (hno d)
  · cases announces_of_mem he with
    | routeCached => exact ⟨rfl, fun _ => rfl⟩
    | dataDelivered d => exact absurd rfl (hno d)
    | dataDropped => exact ⟨rfl, fun _ => rfl⟩
    | routeError => exact ⟨rfl, fun _ => rfl⟩

/-! ## No call makes up a payload -/

/-- What is queued, carried, delivered or discarded after the call was submitted, queued or
carried before. -/
def NoMore (s : ProtocolState) (input : Input) (r : ProtocolState × ProtocolActions) : Prop :=
  r.1.queued + carriedBy (r.2.outbound.map OutboundPacket.packet) + deliveredBy r.2.events +
      s.discarded r.2.events ≤
    input.submitted s.config.nodeId + s.queued + input.carried

theorem Conserves.noMore {input : Input} {r : ProtocolState × ProtocolActions}
    (h : s.Conserves input r) : s.NoMore input r := h.ge

/-- A payload that is dropped is nowhere any more. -/
theorem dropData_noMore (input : Input) {t : ProtocolState} (hconfig : t.config = s.config)
    (hpending : t.pendingData = s.pendingData) (dst : NodeId) (reason : String) :
    s.NoMore input (t.dropData dst reason) := by
  have hqueued : (t.dropData dst reason).1.queued = s.queued := by
    show queuedBy t.config.nodeId t.pendingData = _
    rw [hconfig, hpending]
    rfl
  have hdiscarded : s.discarded (t.dropData dst reason).2.events = 0 := by
    refine discarded_eq_zero fun n dst' attempts hmem => ?_
    rcases List.mem_cons.mp hmem with heq | hmem
    · cases heq
    · cases List.mem_singleton.mp hmem
  unfold NoMore
  rw [hqueued, hdiscarded]
  show s.queued + 0 + (0 + 0) + 0 ≤ _
  rw [add_zero, add_zero, add_zero, add_zero]
  exact le_trans (Multiset.le_add_left _ _) (Multiset.le_add_right _ _)

theorem handleData_noMore (s : ProtocolState) (clock : Clock) (d : Data) (sender : SocketAddr) :
    s.NoMore (.packet (.data d) sender) (s.handleData clock sender d) := by
  have hout := handleData_outcome s clock sender d
  generalize s.handleData clock sender d = r at hout ⊢
  unfold NoMore
  cases hout with
  | dropped reason => exact dropData_noMore _ rfl rfl d.dstNodeId reason
  | delivered hdst =>
    have hnone : s.discarded [.dataDelivered s.config.nodeId d.srcNodeId d.dstNodeId d.sequence
        d.payload] = 0 :=
      discarded_eq_zero fun n dst attempts hmem => by cases List.mem_singleton.mp hmem
    rw [hnone]
    show s.queued + 0 + ({⟨d.srcNodeId, d.dstNodeId, d.payload⟩} + 0) + 0 ≤
      0 + s.queued + {⟨d.srcNodeId, d.dstNodeId, d.payload⟩}
    simp
  | sentOn endpoint =>
    show s.queued + ({⟨d.srcNodeId, d.dstNodeId, d.payload⟩} + 0) + 0 + s.discarded [] ≤
      0 + s.queued + {⟨d.srcNodeId, d.dstNodeId, d.payload⟩}
    rw [discarded_nil]
    simp
  | vanished =>
    show s.queued + 0 + 0 + s.discarded [] ≤
      0 + s.queued + {⟨d.srcNodeId, d.dstNodeId, d.payload⟩}
    rw [discarded_nil]
    simp

theorem acceptRrep_noMore (s : ProtocolState) (clock : Clock) (p : Rrep) (sender : SocketAddr) :
    s.NoMore (.packet (.rrep p) sender) (s.acceptRrep clock p) := by
  cases hhop : s.firstHop (s.routeOf clock p) with
  | some endpoint => exact (acceptRrep_conserves hhop).noMore
  | none =>
    unfold NoMore
    rw [acceptRrep_outbound_of_noHop hhop, acceptRrep_discarded, acceptRrep_queued s clock p]
    show _ + 0 + 0 + 0 ≤ 0 + (_ + _) + 0
    rw [add_zero, add_zero, add_zero, add_zero, zero_add]
    exact Multiset.le_add_right _ _

/-- **No call makes up a payload**, in whatever state and whatever arrives. -/
theorem call_noMore (s : ProtocolState) (clock : Clock) (input : Input) :
    s.NoMore input (s.call clock input) := by
  cases input with
  | command c =>
    obtain ⟨dst, payload⟩ := c
    by_cases hhops : ∀ route, s.routes.shortest dst (clock 0) = some route →
        ∃ endpoint, s.firstHop route = some endpoint
    · exact (discoverAndSend_conserves hhops).noMore
    · push Not at hhops
      obtain ⟨route, hroute, hnone⟩ := hhops
      have hhop : s.firstHop route = none := Option.eq_none_iff_forall_ne_some.mpr hnone
      show s.NoMore _ (s.discoverAndSend clock dst payload)
      unfold discoverAndSend
      rw [hroute]
      dsimp only
      rw [originData_of_noHop hhop]
      exact dropData_noMore _ rfl rfl dst _
  | tick now => exact (call_tick_conserves s clock now).noMore
  | hello => exact (call_hello_conserves s clock).noMore
  | packet packet sender =>
    cases packet with
    | data d => exact handleData_noMore s clock d sender
    | rrep p =>
      by_cases haccept : s.validateRrep sender p.tracePath = .ok () ∧
          s.config.nodeId = p.srcNodeId
      · rw [call_of_accepted haccept.1 haccept.2]
        exact acceptRrep_noMore s clock p sender
      · refine (handlePacket_conserves rfl fun p' hp hok hsrc => ?_).noMore
        obtain rfl := Packet.rrep.inj hp
        exact haccept ⟨hok, hsrc⟩
    | hello _ => exact Conserves.noMore (handlePacket_conserves rfl fun _ hp => nomatch hp)
    | helloReply _ => exact Conserves.noMore (handlePacket_conserves rfl fun _ hp => nomatch hp)
    | rreq _ => exact Conserves.noMore (handlePacket_conserves rfl fun _ hp => nomatch hp)
    | ack _ => exact Conserves.noMore (handlePacket_conserves rfl fun _ hp => nomatch hp)
    | error _ => exact Conserves.noMore (handlePacket_conserves rfl fun _ hp => nomatch hp)

end ProtocolState

end DlDsr
