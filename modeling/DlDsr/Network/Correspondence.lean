import DlDsr.Network.Delivery
import DlDsr.Node.Accounting
import DlDsr.Node.Discovery
import DlDsr.Node.Events
import DlDsr.Node.Retries

/-!
# Nothing is made up

What a node reports and what it caches goes back to what other nodes have done before, in
any network and under any faults, restarts included, whatever modes the nodes run:

- a route to `d` is cached for a request that this node has started, and `d` has answered
  that very request, with these paths;
- a payload is delivered to the node it was submitted for, by the node it is said to be from;
- a discovery fails, or DATA is dropped, for a destination that a payload was submitted for.

The converse fails under loss: an answer may never arrive. And the correspondence is not one
to one, since a duplicated answer is cached twice.
-/

namespace DlDsr

namespace Network

open ProtocolState

variable {D : Deployment} {F : Faults} {net net' : Network}

/-! ## What has happened before -/

/-- `n` has started a request for `d`, and sent it. -/
def Asked (net : Network) (n d : NodeId) (requestId : Nat) : Prop :=
  ∃ c ∈ callsOf net.history, c.nodeId = n ∧ c.input.isLocal = true ∧
    ∃ o ∈ c.actions.outbound, ∃ q, o.packet = .rreq q ∧ q.srcNodeId = n ∧ q.dstNodeId = d ∧
      q.requestId = requestId

/-- The destination has answered the request with `p`. -/
def Answered (net : Network) (p : Rrep) : Prop :=
  ∃ c ∈ callsOf net.history, c.nodeId = p.dstNodeId ∧
    (∃ q sender, c.input = .packet (.rreq q) sender ∧ q.srcNodeId = p.srcNodeId ∧
      q.dstNodeId = p.dstNodeId ∧ q.requestId = p.requestId) ∧
    ∃ o ∈ c.actions.outbound, o.packet = .rrep p

/-- The answer of `d` to a request of `n`. -/
structure Replied (net : Network) (n d : NodeId) (p : Rrep) : Prop where
  src : p.srcNodeId = n
  dst : p.dstNodeId = d
  asked : Asked net n d p.requestId
  answered : Answered net p

/-- Where the packets in flight come from. -/
def PacketFounded (net : Network) (p : InFlight) : Prop :=
  match p.packet with
  | .rreq q => Asked net q.srcNodeId q.dstNodeId q.requestId
  | .rrep a => Replied net a.srcNodeId a.dstNodeId a
  | .data d => Submitted net d.srcNodeId d.dstNodeId d.payload ∧ Originated net d
  | _ => True

/-- Where the routes and the queue of a node come from. -/
structure NodeFounded (net : Network) (n : NodeId) (s : ProtocolState) : Prop where
  routes : ∀ d, ∀ route ∈ s.routes.held d, ∃ p, Replied net n d p ∧ route.dsrPath = p.dsrPath
  queue : QueueSubmitted net n s
  tracked : s.Tracked

theorem Asked.step (hs : StepCases D F net net') {n d : NodeId} {requestId : Nat}
    (h : Asked net n d requestId) : Asked net' n d requestId := by
  obtain ⟨c, hc, hrest⟩ := h
  exact ⟨c, callsOf_mono hs hc, hrest⟩

theorem Answered.step (hs : StepCases D F net net') {p : Rrep} (h : Answered net p) :
    Answered net' p := by
  obtain ⟨c, hc, hrest⟩ := h
  exact ⟨c, callsOf_mono hs hc, hrest⟩

theorem Replied.step (hs : StepCases D F net net') {n d : NodeId} {p : Rrep}
    (h : Replied net n d p) : Replied net' n d p :=
  ⟨h.src, h.dst, h.asked.step hs, h.answered.step hs⟩

theorem PacketFounded.step (hs : StepCases D F net net') {p : InFlight}
    (h : PacketFounded net p) : PacketFounded net' p := by
  unfold PacketFounded at h ⊢
  split at h
  · exact h.step hs
  · exact h.step hs
  · exact ⟨h.1.step hs, h.2.step hs⟩
  · trivial

theorem NodeFounded.step (hs : StepCases D F net net') {n : NodeId} {s : ProtocolState}
    (h : NodeFounded net n s) : NodeFounded net' n s where
  routes d route hroute := by
    obtain ⟨p, hp, hpath⟩ := h.routes d route hroute
    exact ⟨p, hp.step hs, hpath⟩
  queue q hq := (h.queue q hq).step hs
  tracked := h.tracked

/-! ## One call -/

section Call

variable {n : NodeId} {clock : Clock} {input : Input} {rest : List InFlight} {origin : Nat}

/-- An RREQ that is sent was started here, or by the node that a received one names. -/
theorem rreq_founded (h : Reachable D F net) (hn : D.Runs n)
    (hpkt : ∀ p ∈ net.inFlight, PacketFounded net p)
    (hserved : Served D net n input origin rest) {o : OutboundPacket}
    (ho : o ∈ ((net.node n).call clock input).2.outbound) {q : Rreq} (hq : o.packet = .rreq q) :
    Asked ({ net with inFlight := rest }.call n clock input origin) q.srcNodeId q.dstNodeId
      q.requestId := by
  have hid : (net.node n).config.nodeId = n := nodeId_eq (node_config h n)
  rcases (emits_of_mem ho).of_rreq hq with ⟨now, dst, requestId, hinput, -, -, rfl⟩ |
    ⟨q₀, e, sender, rfl, -, -, he, rfl⟩
  · refine ⟨_, mem_callsOf_call, hid.symm, ?_, o, ho, _, hq, rfl, rfl, rfl⟩
    rcases hinput with ⟨c, rfl⟩ | ⟨t, rfl⟩ <;> rfl
  · have hreceived : Asked net q₀.srcNodeId q₀.dstNodeId q₀.requestId := hpkt _ hserved.inFlight
    rw [(extendRreq_eq_some.mp he).1]
    exact hreceived.step (served_step F clock hn hserved)

/-- An RREP that is sent answers the RREQ received, or is the one received. -/
theorem rrep_founded (h : Reachable D F net) (hn : D.Runs n)
    (hpkt : ∀ p ∈ net.inFlight, PacketFounded net p)
    (hserved : Served D net n input origin rest) {o : OutboundPacket}
    (ho : o ∈ ((net.node n).call clock input).2.outbound) {a : Rrep} (ha : o.packet = .rrep a) :
    Replied ({ net with inFlight := rest }.call n clock input origin) a.srcNodeId a.dstNodeId
      a := by
  have hs := served_step F clock hn hserved
  have hid : (net.node n).config.nodeId = n := nodeId_eq (node_config h n)
  rcases (emits_of_mem ho).of_rrep ha with
    ⟨q, e, sender, prev, rfl, -, -, he, hdst, -, -, rfl⟩ | ⟨sender, prev, rfl, -, -⟩
  · have hreceived : Asked net q.srcNodeId q.dstNodeId q.requestId := hpkt _ hserved.inFlight
    have hfields := (extendRreq_eq_some.mp he).1
    refine ⟨rfl, rfl, ?_, _, mem_callsOf_call, ?_, ⟨q, sender, rfl, ?_, ?_, ?_⟩, o, ho, ha⟩
    · rw [hfields]
      exact hreceived.step hs
    · rw [hfields]
      exact hid.symm.trans hdst
    all_goals rw [hfields]; rfl
  · have hreceived : Replied net a.srcNodeId a.dstNodeId a := hpkt _ hserved.inFlight
    exact hreceived.step hs

/-- DATA that is sent carries a payload submitted here, or is the one received. -/
theorem data_founded (h : Reachable D F net) (hn : D.Runs n)
    (hnode : NodeFounded net n (net.node n)) (hpkt : ∀ p ∈ net.inFlight, PacketFounded net p)
    (hserved : Served D net n input origin rest) {o : OutboundPacket}
    (ho : o ∈ ((net.node n).call clock input).2.outbound) {d : Data} (hd : o.packet = .data d) :
    let net' := { net with inFlight := rest }.call n clock input origin
    Submitted net' d.srcNodeId d.dstNodeId d.payload ∧ Originated net' d := by
  have hs := served_step F clock hn hserved
  have hid : (net.node n).config.nodeId = n := nodeId_eq (node_config h n)
  rcases (emits_of_mem ho).of_data hd with ⟨dst, payload, route, rfl, -, horigin⟩ |
    ⟨p, sender, payload, rfl, -, -, hpending, horigin⟩ | ⟨d₀, sender, rfl, rfl⟩
  · obtain ⟨d', hpacket, hsrc, hdst, hpayload, -⟩ := horigin
    obtain rfl : d = { d' with routeCursor := 1 } := Packet.data.inj (hd.symm.trans hpacket)
    rw [hid] at hsrc
    refine ⟨⟨_, mem_callsOf_call, hsrc.symm, ?_⟩, _, mem_callsOf_call, hsrc.symm, o, ho, hpacket⟩
    show Input.command _ = .command (.discoverAndSend d'.dstNodeId d'.payload)
    rw [hdst, hpayload]
  · obtain ⟨d', hpacket, hsrc, hdst, hpayload, -⟩ := horigin
    obtain rfl : d = { d' with routeCursor := 1 } := Packet.data.inj (hd.symm.trans hpacket)
    rw [hid] at hsrc
    refine ⟨?_, _, mem_callsOf_call, hsrc.symm, o, ho, hpacket⟩
    show Submitted _ d'.srcNodeId d'.dstNodeId d'.payload
    rw [hsrc, hdst, hpayload]
    exact (hnode.queue _ hpending).step hs
  · have hreceived : Submitted net d₀.srcNodeId d₀.dstNodeId d₀.payload ∧ Originated net d₀ :=
      hpkt _ hserved.inFlight
    exact ⟨hreceived.1.step hs, hreceived.2.step hs⟩

end Call

/-- Routes, queues and packets go back to requests, answers and submissions. -/
theorem foundedInvariant (D : Deployment) (F : Faults) :
    GlobalInvariant D F NodeFounded PacketFounded where
  new _ _ := by
    refine ⟨fun _ _ hroute => absurd hroute List.not_mem_nil,
      fun _ hq => absurd hq List.not_mem_nil, fun d => ⟨?_, fun hd => ?_⟩⟩
    · rintro ⟨q, hq, -⟩
      exact absurd hq List.not_mem_nil
    · exact absurd hd (AList.notMem_empty d)
  node_mono _ hs h := h.step hs
  packet_mono _ hs h := h.step hs
  reorder h hr := by
    refine ⟨fun d route hroute => h.routes d route ?_, fun q hq => h.queue q ?_, ?_⟩
    · rw [← hr.held_eq d]
      exact hroute
    · rw [← hr.pendingData]
      exact hq
    · exact h.tracked.of_eq hr.pendingData fun d => (AList.mem_of_perm hr.discoveries).symm
  node := by
    intro net n clock input rest origin h hn hnode hpkt hserved
    have hs := served_step F clock hn hserved
    refine ⟨fun d route hroute => ?_, fun q hq => ?_, call_tracked input (hnode n).tracked⟩
    · rcases held_call hroute with hold | ⟨p, sender, rfl, -, hsrc, rfl, rfl⟩
      · exact ((hnode n).step hs).routes d route hold
      · have hreceived : Replied net p.srcNodeId p.dstNodeId p := hpkt _ hserved.inFlight
        rw [← hsrc, nodeId_eq (node_config h n)] at hreceived
        exact ⟨p, hreceived.step hs, routeOf_dsrPath p⟩
    · rcases call_pendingData hq with hold | hinput
      · exact ((hnode n).queue q hold).step hs
      · exact ⟨_, mem_callsOf_call, rfl, hinput⟩
  packet := by
    intro net n clock input o rest origin h hn hnode hpkt hserved ho
    unfold PacketFounded
    split
    · next q hq => exact rreq_founded h hn hpkt hserved ho hq
    · next a ha => exact rrep_founded h hn hpkt hserved ho ha
    · next d hd => exact data_founded h hn (hnode n) hpkt hserved ho hd
    · trivial

theorem founded (h : Reachable D F net) :
    (∀ n, NodeFounded net n (net.node n)) ∧ ∀ p ∈ net.inFlight, PacketFounded net p :=
  (foundedInvariant D F).reachable h

/-! ## Events -/

/-- Why node `n` may report an event when it serves `input`: because of what has happened
before, or, where a payload is dropped at once, because of the command itself. -/
def Justified (net : Network) (n : NodeId) (input : Input) : ProtocolEvent → Prop
  | .routeCached m d requestId => m = n ∧ ∃ p, p.requestId = requestId ∧ Replied net n d p
  | .dataDelivered m srcNodeId dstNodeId sequence payload =>
    m = n ∧ dstNodeId = n ∧ Submitted net srcNodeId n payload ∧
      ∃ d, Originated net d ∧ d.srcNodeId = srcNodeId ∧ d.dstNodeId = n ∧
        d.sequence = sequence ∧ d.payload = payload
  | .routeDiscoveryFailed m d _ => m = n ∧ ∃ payload, Submitted net n d payload
  | .dataDropped m d _ =>
    m = n ∧ ∃ srcNodeId payload, Submitted net srcNodeId d payload ∨
      input = .command (.discoverAndSend d payload)
  | .routeError m _ _ => m = n

/-- A command drops its own payload only. -/
theorem dataDropped_of_command {s : ProtocolState} {clock : Clock} {n dst d : NodeId}
    {payload : List UInt8} {reason : String}
    (he : .dataDropped n d reason ∈
      (s.call clock (.command (.discoverAndSend dst payload))).2.events) : d = dst := by
  change _ ∈ (s.discoverAndSend clock dst payload).2.events at he
  rcases discoverAndSend_cases s clock dst payload with
    ⟨route, -, heq⟩ | ⟨-, -, heq⟩ | ⟨-, -, heq⟩
  · rw [heq] at he
    cases hfirst : s.firstHop route with
    | some endpoint =>
      rw [originData_of_hop hfirst] at he
      cases he
    | none =>
      rw [originData_of_noHop hfirst] at he
      rcases List.mem_cons.mp he with heq | he
      · exact (ProtocolEvent.dataDropped.inj heq).2.1
      · cases List.mem_singleton.mp he
  · rw [heq] at he
    cases he
  · rw [heq] at he
    cases he

/-- A packet makes a node drop no DATA but itself. -/
theorem dataDropped_of_packet {s : ProtocolState} {clock : Clock} {packet : Packet}
    {sender : SocketAddr} {n dst : NodeId} {reason : String}
    (he : .dataDropped n dst reason ∈ (s.call clock (.packet packet sender)).2.events) :
    ∃ d, packet = .data d ∧ d.dstNodeId = dst := by
  cases packet with
  | data d =>
    change _ ∈ (s.handleData clock sender d).2.events at he
    have hout := handleData_outcome s clock sender d
    generalize s.handleData clock sender d = r at hout he
    cases hout with
    | dropped =>
      rcases List.mem_cons.mp he with heq | he
      · exact ⟨d, rfl, (ProtocolEvent.dataDropped.inj heq).2.1.symm⟩
      · cases List.mem_singleton.mp he
    | delivered => cases List.mem_singleton.mp he
    | sentOn => cases he
    | vanished => cases he
  | rrep p =>
    change _ ∈ (s.handleRrep clock sender p).2.events at he
    have hout := handleRrep_outcome s clock sender p
    generalize s.handleRrep clock sender p = r at hout he
    cases hout with
    | rejected => cases List.mem_singleton.mp he
    | accepted => cases List.mem_singleton.mp he
    | relayed => cases he
    | vanished => cases he
  | rreq q =>
    change _ ∈ (s.handleRreq clock q).2.events at he
    rw [handleRreq_events] at he
    cases he
  | hello p =>
    change _ ∈ (s.handleHello clock p sender).2.events at he
    unfold handleHello at he
    split at he
    · cases he
    · split at he <;> cases he
  | helloReply p =>
    change _ ∈ (s.handleHelloReply p).2.events at he
    unfold handleHelloReply at he
    split at he <;> cases he
  | ack => cases he
  | error => cases he

/-- A tick ends the discoveries of destinations that payloads wait for. -/
theorem failed_submitted {n d : NodeId} {clock : Clock} {now : Nat} {s : ProtocolState}
    (hfounded : NodeFounded net n s) {e : ProtocolEvent}
    (he : e ∈ (s.call clock (.tick now)).2.events)
    (hkind : (∃ attempts, e = .routeDiscoveryFailed s.config.nodeId d attempts) ∨
      ∃ reason, e = .dataDropped s.config.nodeId d reason) :
    ∃ payload, Submitted net n d payload := by
  rw [call_tick, retryLoop_events_eq _ clock (s.expiredDiscoveries_nodup now)] at he
  obtain ⟨⟨dst, state⟩, hentry, he⟩ := List.mem_flatMap.mp he
  have hdst : dst = d := by
    rcases List.mem_cons.mp he with rfl | he
    · rcases hkind with ⟨attempts, heq⟩ | ⟨reason, heq⟩
      · exact (ProtocolEvent.routeDiscoveryFailed.inj heq).2.1
      · cases heq
    · split at he
      · obtain rfl := List.mem_singleton.mp he
        rcases hkind with ⟨attempts, heq⟩ | ⟨reason, heq⟩
        · cases heq
        · exact (ProtocolEvent.dataDropped.inj heq).2.1
      · cases he
  subst hdst
  -- The discovery was outstanding, so a payload is queued for it.
  have hstate := (mem_expiredDiscoveries.mp (mem_failing.mp hentry).1).1
  have hmem : dst ∈ s.discoveries :=
    AList.lookup_isSome.mp (Option.isSome_iff_exists.mpr ⟨state, hstate⟩)
  obtain ⟨q, hq, rfl⟩ := (hfounded.tracked dst).mpr hmem
  exact ⟨q.payload, hfounded.queue q hq⟩

theorem event_justified (h : Reachable D F net) {n : NodeId} {clock : Clock} {input : Input}
    {origin : Nat} {rest : List InFlight} (hserved : Served D net n input origin rest)
    {e : ProtocolEvent} (he : e ∈ ((net.node n).call clock input).2.events) :
    Justified net n input e := by
  obtain ⟨hnode, hpkt⟩ := founded h
  have hid : (net.node n).config.nodeId = n := nodeId_eq (node_config h n)
  have hann := announces_of_mem he
  cases hann with
  | routeCached p sender hok hsrc =>
    have hreceived : Replied net p.srcNodeId p.dstNodeId p := hpkt _ hserved.inFlight
    rw [← hsrc, hid] at hreceived
    exact ⟨hid, p, rfl, hreceived⟩
  | dataDelivered d sender hdst =>
    have hreceived : Submitted net d.srcNodeId d.dstNodeId d.payload ∧ Originated net d :=
      hpkt _ hserved.inFlight
    rw [hid] at hdst
    rw [hdst] at hreceived
    exact ⟨hid, hdst, hreceived.1, d, hreceived.2, rfl, hdst, rfl, rfl⟩
  | discoveryFailed now dst attempts =>
    exact ⟨hid, failed_submitted (hnode n) he (.inl ⟨attempts, rfl⟩)⟩
  | routeError => exact hid
  | dataDropped _ dst reason =>
    refine ⟨hid, ?_⟩
    cases input with
    | command c =>
      obtain ⟨d, payload⟩ := c
      obtain rfl := dataDropped_of_command he
      exact ⟨n, payload, .inr rfl⟩
    | tick now =>
      obtain ⟨payload, hpayload⟩ := failed_submitted (hnode n) he (.inr ⟨reason, rfl⟩)
      exact ⟨n, payload, .inl hpayload⟩
    | hello => cases he
    | packet packet sender =>
      obtain ⟨d, rfl, rfl⟩ := dataDropped_of_packet he
      have hreceived : Submitted net d.srcNodeId d.dstNodeId d.payload ∧ Originated net d :=
        hpkt _ hserved.inFlight
      exact ⟨d.srcNodeId, d.payload, .inl hreceived.1⟩

/-! ## Together -/

/-- Everything goes back to what has happened before. -/
structure Founded (D : Deployment) (net : Network) : Prop where
  /-- A cached route was reported by its destination, in answer to a request of this node. -/
  routes : ∀ n d, ∀ route ∈ (net.node n).routes.held d, ∃ p, Replied net n d p ∧
    route.dsrPath = p.dsrPath
  /-- A payload waits where it was submitted. -/
  queue : ∀ n, ∀ q ∈ (net.node n).pendingData, Submitted net n q.dstNodeId q.payload
  /-- A packet in flight is what its kind says it is. -/
  packets : ∀ p ∈ net.inFlight, PacketFounded net p
  /-- Whatever is served next, the events have a reason. -/
  events : ∀ n clock input origin rest, Served D net n input origin rest →
    ∀ e ∈ ((net.node n).call clock input).2.events, Justified net n input e

/-- **Nothing is made up.** In every reachable network, whatever its modes and its faults, the
routes, queues and packets go back to requests, answers and submissions that the nodes have
made before, and so do the events that the next call reports. -/
theorem nothing_made_up (h : Reachable D F net) : Founded D net where
  routes n d route hroute := ((founded h).1 n).routes d route hroute
  queue n := ((founded h).1 n).queue
  packets := (founded h).2
  events _ _ _ _ _ hserved _ he := event_justified h hserved he

/-- On a line of three nodes that may lose, duplicate and restart, the route that node 0 has
found was reported by node 2. -/
theorem nothing_made_up_line :
    Founded (.line .dlDsr) (after (.line .dlDsr) ⟨true, true, true⟩ labelsOnLine) :=
  nothing_made_up (reachable_after _ _ _)

end Network

end DlDsr
