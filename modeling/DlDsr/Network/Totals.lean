import DlDsr.Lib.Totals
import DlDsr.Network.Transmissions
import DlDsr.Node.Counters

/-!
# What the counters of all nodes add up to

Every node counts what it delivers, relays and drops, and nothing else is known about a
network from outside. Together the counters account for every payload (`counters_balanced`):
what was submitted is queued, delivered, dropped or in flight, unless the transport has lost
it, and nothing else is, unless the transport has duplicated it. This needs no agreement
between the nodes on their protocol mode. Where they agree, and the transport is reliable,
the relays counted are those on the routes of the packets.
-/

namespace DlDsr

/-- The payloads that have come to stay at a node. -/
def ProtocolState.payloadsKept (self : ProtocolState) : Nat :=
  self.pendingData.length + self.metrics.dataDropped + self.metrics.dataDelivered

namespace Network

open ProtocolState

variable {D : Deployment} {F : Faults} {net net' : Network} {mode : ProtocolMode}

/-- The sum of a counter over all nodes. -/
def total (D : Deployment) (net : Network) (counter : ProtocolState → Nat) : Nat :=
  sumOver (D.topology.nodes.map TopologyNode.nodeId) fun n => counter (net.node n)

/-- Only the node that is called changes its counter. -/
theorem total_call (hP : D.Placed) (net : Network) {n : NodeId} (hn : D.Runs n) (clock : Clock)
    (input : Input) (origin : Nat) (rest : List InFlight) (counter : ProtocolState → Nat) :
    total D ({ net with inFlight := rest }.call n clock input origin) counter +
        counter (net.node n) =
      total D net counter + counter ((net.node n).call clock input).1 := by
  obtain ⟨tn, hmem, rfl⟩ := hn
  exact sumOver_update hP.ids_nodup (List.mem_map_of_mem hmem) net.node _ counter

theorem total_reorder {n : NodeId} {s' : ProtocolState} {counter : ProtocolState → Nat}
    (h : counter s' = counter (net.node n)) :
    total D { net with node := Function.update net.node n s' } counter = total D net counter :=
  sumOver_update_of_eq h

theorem total_init {counter : ProtocolState → Nat} (h : ∀ config, counter (.new config) = 0) :
    total D (init D) counter = 0 :=
  sumOver_eq_zero fun _ _ => h _

/-! ## One call -/

theorem countP_isData (outbound : List OutboundPacket) :
    outbound.countP isData = (dataOf (outbound.map OutboundPacket.packet)).length := by
  induction outbound with
  | nil => rfl
  | cons o outbound ih =>
    obtain ⟨packet, dst⟩ := o
    cases packet with
    | data d =>
      rw [List.countP_cons_of_pos (by rfl), ih]
      rfl
    | _ =>
      rw [List.countP_cons_of_neg (by exact Bool.false_ne_true), ih]
      rfl

/-- A payload that comes in was submitted here, or a packet has brought it. -/
theorem payloads_eq (n : NodeId) (input : Input) :
    input.payloads = (input.submitted n).card + input.data.length := by
  cases input with
  | command c => rfl
  | packet p sender => cases p <;> rfl
  | tick => rfl
  | hello => rfl

theorem card_delivery (e : ProtocolEvent) : e.delivery.card = if e.isDataDelivered then 1 else 0 := by
  cases e <;> rfl

theorem card_deliveredBy (events : List ProtocolEvent) :
    (deliveredBy events).card = events.countP ProtocolEvent.isDataDelivered := by
  induction events with
  | nil => rfl
  | cons e events ih =>
    have hcons : deliveredBy (e :: events) = e.delivery + deliveredBy events := rfl
    rw [hcons, Multiset.card_add, ih, card_delivery, List.countP_cons, Nat.add_comm]

/-- Where every listed neighbour is a node, no DATA packet goes unanswered. -/
theorem payloadsOut_eq (hP : D.Placed) (hlisted : D.NeighborsListed) {s : ProtocolState}
    {n : NodeId} (hcfg : s.config = D.config n) (clock : Clock) (input : Input) :
    payloadsOut input (s.call clock input).2 =
      (dataOf ((s.call clock input).2.outbound.map OutboundPacket.packet)).length := by
  unfold payloadsOut
  rw [countP_isData]
  split
  · next d sender =>
    have hanswered : (s.call clock (.packet (.data d) sender)).2 ≠ {} := by
      have hout := handleData_outcome s clock sender d
      show (s.handleData clock sender d).2 ≠ {}
      generalize s.handleData clock sender d = r at hout ⊢
      cases hout with
      | dropped => exact fun heq => List.cons_ne_nil _ _ (congrArg ProtocolActions.events heq)
      | delivered => exact fun heq => List.cons_ne_nil _ _ (congrArg ProtocolActions.events heq)
      | sentOn => exact fun heq => List.cons_ne_nil _ _ (congrArg ProtocolActions.outbound heq)
      | vanished hloses =>
        -- The next node is a listed neighbour, so it has an endpoint.
        obtain ⟨next, -, hnext, hnone⟩ := hloses.no_endpoint
        rw [logicalNeighbors_eq hcfg] at hnext
        rw [(endpoint_eq_some hP hcfg).mpr ⟨hlisted n next hnext, rfl⟩] at hnone
        cases hnone
    rw [if_neg hanswered]
    rfl
  · rfl

/-- What a call keeps and sends is what it had and what came in. -/
theorem call_payloads (hP : D.Placed) (hlisted : D.NeighborsListed) (h : Reachable D F net)
    (n : NodeId) (clock : Clock) (input : Input) :
    ((net.node n).call clock input).1.payloadsKept +
        (dataOf (((net.node n).call clock input).2.outbound.map OutboundPacket.packet)).length =
      (net.node n).payloadsKept + (input.submitted n).card + input.data.length := by
  have hcall := (call_tallied (net.node n) clock input).payloads
  rw [payloadsOut_eq hP hlisted (node_config h n), payloads_eq n] at hcall
  unfold payloadsKept
  omega

/-! ## Payloads in a run -/

theorem card_submitted_call (net : Network) (n : NodeId) (clock : Clock) (input : Input)
    (origin : Nat) (rest : List InFlight) :
    ({ net with inFlight := rest }.call n clock input origin).submitted.card =
      (input.submitted n).card + net.submitted.card :=
  Multiset.card_add _ _

/-- A call turns what it takes out of flight into what it keeps and sends. -/
theorem kept_call (hP : D.Placed) (hlisted : D.NeighborsListed) (h : Reachable D F net)
    {n : NodeId} (clock : Clock) {input : Input} {origin : Nat} {rest : List InFlight}
    (hn : D.Runs n) (hserved : Served D net n input origin rest)
    (hnet : net' = { net with inFlight := rest }.call n clock input origin) :
    total D net' payloadsKept + net'.travelling.length + net.submitted.card =
      total D net payloadsKept + net.travelling.length + net'.submitted.card := by
  have htotal := total_call hP net hn clock input origin rest payloadsKept
  have hcall := call_payloads hP hlisted h n clock input
  have hsubmitted := card_submitted_call net n clock input origin rest
  have hbefore := hserved.travelling_perm.length_eq
  have hafter : ({ net with inFlight := rest }.call n clock input origin).travelling.length = _ :=
    congrArg List.length travelling_call
  rw [← hnet] at htotal hsubmitted hafter
  rw [List.length_append] at hbefore hafter
  omega

/-- Taking a packet out of flight, or putting one in, changes what is travelling by one
DATA packet at most. -/
theorem travelling_cons (p : InFlight) (rest : List InFlight) :
    (dataOf ((p :: rest).map InFlight.packet)).length =
      (dataOf [p.packet]).length + (dataOf (rest.map InFlight.packet)).length := by
  rw [← List.length_append, ← dataOf_append]
  rfl

theorem payloadsKept_reorder {s s' : ProtocolState} (h : s.Reorder s') :
    s'.payloadsKept = s.payloadsKept := by
  unfold payloadsKept
  rw [h.pendingData, h.metrics]

/-- Unless packets are lost, every payload is somewhere. -/
theorem submitted_le (hP : D.Placed) (hlisted : D.NeighborsListed) (hF : F.restarts = false)
    (hloss : F.loss = false) (h : Reachable D F net) :
    net.submitted.card ≤ total D net payloadsKept + net.travelling.length := by
  refine reachable_induction
    (fun net => net.submitted.card ≤ total D net payloadsKept + net.travelling.length)
    (Nat.zero_le _) ?_ h
  intro net net' hreach ih hs
  cases hs with
  | @call n clock input origin rest hn hserved =>
    have hcall := kept_call hP hlisted hreach clock hn hserved rfl
    omega
  | lose hF => simp [hloss] at hF
  | @duplicate p hF hp =>
    have hmore := travelling_cons p net.inFlight
    show net.submitted.card ≤ total D net payloadsKept + (dataOf _).length
    rw [hmore]
    exact Nat.le_trans ih (Nat.add_le_add_left (Nat.le_add_left _ _) _)
  | restart hF' => simp [hF] at hF'
  | reorder hr =>
    rw [total_reorder (payloadsKept_reorder hr)]
    exact ih

/-- Unless packets are duplicated, no payload is anywhere twice. -/
theorem le_submitted (hP : D.Placed) (hlisted : D.NeighborsListed) (hF : F.restarts = false)
    (hdup : F.duplication = false) (h : Reachable D F net) :
    total D net payloadsKept + net.travelling.length ≤ net.submitted.card := by
  refine reachable_induction
    (fun net => total D net payloadsKept + net.travelling.length ≤ net.submitted.card) ?_ ?_ h
  · rw [total_init fun _ => rfl]
    exact Nat.le_refl 0
  intro net net' hreach ih hs
  cases hs with
  | @call n clock input origin rest hn hserved =>
    have hcall := kept_call hP hlisted hreach clock hn hserved rfl
    omega
  | @lose p rest hF hp =>
    have hless : net.travelling.length = (dataOf ((p :: rest).map InFlight.packet)).length :=
      ((hp.map InFlight.packet).filterMap _).length_eq
    rw [travelling_cons] at hless
    show total D net payloadsKept + (dataOf (rest.map InFlight.packet)).length ≤ net.submitted.card
    omega
  | duplicate hF => simp [hdup] at hF
  | restart hF' => simp [hF] at hF'
  | reorder hr =>
    rw [total_reorder (payloadsKept_reorder hr)]
    exact ih

/-- What the nodes count as delivered was reported as delivered. -/
theorem delivered_counted (hP : D.Placed) (hF : F.restarts = false) (h : Reachable D F net) :
    total D net (fun s => s.metrics.dataDelivered) = net.delivered.card := by
  refine reachable_induction
    (fun net => total D net (fun s => s.metrics.dataDelivered) = net.delivered.card)
    (total_init fun _ => rfl) ?_ h
  intro net net' hreach ih hs
  cases hs with
  | @call n clock input origin rest hn hserved =>
    have htotal := total_call hP net hn clock input origin rest
      fun s => s.metrics.dataDelivered
    have hcall : ((net.node n).call clock input).1.metrics.dataDelivered =
        (net.node n).metrics.dataDelivered +
          ((net.node n).call clock input).2.events.countP ProtocolEvent.isDataDelivered :=
      (call_tallied (net.node n) clock input).counters .dataDelivered
    have hdelivered : ({ net with inFlight := rest }.call n clock input origin).delivered.card =
        (deliveredBy ((net.node n).call clock input).2.events).card + net.delivered.card :=
      Multiset.card_add _ _
    rw [card_deliveredBy] at hdelivered
    omega
  | lose => exact ih
  | duplicate => exact ih
  | restart hF' => simp [hF] at hF'
  | reorder hr =>
    rw [total_reorder (by rw [hr.metrics])]
    exact ih

/-! ## Relays -/

/-- What a reliable transport brings to a node is either for it, or sent on. -/
theorem arrived_or_forwarded (hU : D.Uniform mode) (hF : F.restarts = false)
    (h : Reachable D F net) {n : NodeId} {d : Data} {sender : SocketAddr} {origin : Nat}
    {rest : List InFlight} (clock : Clock) (hn : D.Runs n)
    (hserved : Served D net n (.packet (.data d) sender) origin rest) :
    ((Input.packet (.data d) sender).arrived n).length +
      (dataOf (((net.node n).call clock (.packet (.data d) sender)).2.outbound.map
        OutboundPacket.packet)).length = 1 := by
  have hmem := hserved.inFlight
  obtain ⟨hpath, -⟩ := packetData hU hF h hmem d rfl
  obtain ⟨-, hdone⟩ := dataOnPath_served hU hF h hn hmem hpath clock
  have hid : (net.node n).config.nodeId = n := nodeId_eq (node_config h n)
  show (List.filter _ [d]).length +
    (dataOf (((net.node n).handleData clock sender d).2.outbound.map
      OutboundPacket.packet)).length = 1
  generalize (net.node n).handleData clock sender d = r at hdone ⊢
  cases hdone with
  | delivered hlast hdst =>
    have hdst : d.dstNodeId = n := hdst.trans hid
    rw [List.filter_cons_of_pos (by simpa using hdst)]
    rfl
  | forwarded next hlast =>
    have hdst : d.dstNodeId ≠ n := by
      intro heq
      rw [hid] at hlast
      exact hlast (hpath.walk.last.trans (congrArg some heq))
    rw [List.filter_cons_of_neg (by simpa using hdst)]
    rfl

theorem charge_one (data : List Data) : charge (fun _ => 1) data = data.length := by
  rw [charge_const (c := 1) fun _ _ => rfl, Nat.mul_one]

/-- Each relay takes a packet over one link more. -/
theorem call_relays (hU : D.Uniform mode) (hF : F.restarts = false) (h : Reachable D F net)
    {n : NodeId} (clock : Clock) {input : Input} {origin : Nat} {rest : List InFlight}
    (hn : D.Runs n) (hserved : Served D net n input origin rest) :
    let sent := dataOf (((net.node n).call clock input).2.outbound.map OutboundPacket.packet)
    ((net.node n).call clock input).1.metrics.dataForwarded + (input.arrived n).length +
        sent.length + charge (crossed fun _ => 1) input.data =
      (net.node n).metrics.dataForwarded + input.data.length +
        charge (due fun _ => 1) (input.arrived n) + charge (crossed fun _ => 1) sent := by
  intro sent
  have hlinks : charge (fun _ => 1) sent + charge (crossed fun _ => 1) input.data =
      charge (due fun _ => 1) (input.arrived n) + charge (crossed fun _ => 1) sent :=
    (call_charges hU hF h hn hserved).links (fun _ => 1) fun _ _ => rfl
  have hforwarded : ((net.node n).call clock input).1.metrics.dataForwarded =
      (net.node n).metrics.dataForwarded +
        recount input ((net.node n).call clock input).2 .dataForwarded :=
    (call_tallied (net.node n) clock input).counters .dataForwarded
  rw [charge_one] at hlinks
  by_cases hinput : ∃ d sender, input = .packet (.data d) sender
  · obtain ⟨d, sender, rfl⟩ := hinput
    have hone : ((Input.packet (.data d) sender).arrived n).length + sent.length = 1 :=
      arrived_or_forwarded hU hF h clock hn hserved
    have hcount : recount (.packet (.data d) sender)
        ((net.node n).call clock (.packet (.data d) sender)).2 .dataForwarded = sent.length :=
      countP_isData _
    have hdata : (Input.packet (.data d) sender).data.length = 1 := rfl
    omega
  · -- Nothing is received, so nothing is relayed.
    have hnone : recount input ((net.node n).call clock input).2 .dataForwarded = 0 ∧
        input.data = [] ∧ input.arrived n = [] := by
      cases input with
      | packet p sender =>
        cases p with
        | data d => exact absurd ⟨d, sender, rfl⟩ hinput
        | _ => exact ⟨rfl, rfl, rfl⟩
      | _ => exact ⟨rfl, rfl, rfl⟩
    obtain ⟨hcount, hdata, harrived⟩ := hnone
    rw [hdata, harrived] at hlinks ⊢
    simp only [List.length_nil]
    omega

/-- The relays counted are those of the packets delivered and in flight: one for each link
but the first. -/
theorem forwarded_counted (hU : D.Uniform mode) (hloss : F.loss = false)
    (hdup : F.duplication = false) (hF : F.restarts = false) (h : Reachable D F net) :
    total D net (fun s => s.metrics.dataForwarded) + net.arrived.length + net.travelling.length =
      charge (due fun _ => 1) net.arrived + charge (crossed fun _ => 1) net.travelling := by
  refine reachable_induction
    (fun net => total D net (fun s => s.metrics.dataForwarded) + net.arrived.length +
        net.travelling.length =
      charge (due fun _ => 1) net.arrived + charge (crossed fun _ => 1) net.travelling) ?_ ?_ h
  · rw [total_init fun _ => rfl]
    rfl
  intro net net' hreach ih hs
  cases hs with
  | @call n clock input origin rest hn hserved =>
    have htotal := total_call hU.placed net hn clock input origin rest
      fun s => s.metrics.dataForwarded
    have hcall := call_relays hU hF hreach clock hn hserved
    have hbefore := hserved.travelling_perm.length_eq
    have hcharged := charge_perm (crossed fun _ => 1) hserved.travelling_perm
    have harrived : ({ net with inFlight := rest }.call n clock input origin).arrived =
        input.arrived n ++ net.arrived := rfl
    rw [travelling_call, harrived]
    simp only [List.length_append, charge_append] at hbefore hcharged ⊢
    omega
  | lose hF => simp [hloss] at hF
  | duplicate hF => simp [hdup] at hF
  | restart hF' => simp [hF] at hF'
  | reorder hr =>
    rw [total_reorder (by rw [hr.metrics])]
    exact ih

/-! ## All nodes -/

/-- What the counters of all nodes say about a network. -/
structure Balances (D : Deployment) (F : Faults) (net : Network) : Prop where
  delivered : total D net (fun s => s.metrics.dataDelivered) = net.delivered.card
  submitted_le : F.loss = false →
    net.submitted.card ≤ total D net payloadsKept + net.travelling.length
  le_submitted : F.duplication = false →
    total D net payloadsKept + net.travelling.length ≤ net.submitted.card
  forwarded : F.loss = false → F.duplication = false → ∀ mode, D.Uniform mode →
    total D net (fun s => s.metrics.dataForwarded) + net.arrived.length + net.travelling.length =
      charge (due fun _ => 1) net.arrived + charge (crossed fun _ => 1) net.travelling

/-- **The counters account for every payload.** In a network whose nodes do not restart, what
was submitted is queued, counted as delivered, counted as dropped, or in flight, if nothing is
lost, and nothing else is, if nothing is duplicated, whatever modes the nodes run. If they run
the same, over a transport that does neither, the relays counted are the links of the routes
of the packets, but for the first of each. -/
theorem counters_balanced (hP : D.Placed) (hlisted : D.NeighborsListed) (hF : F.restarts = false)
    (h : Reachable D F net) : Balances D F net where
  delivered := delivered_counted hP hF h
  submitted_le hloss := submitted_le hP hlisted hF hloss h
  le_submitted hdup := le_submitted hP hlisted hF hdup h
  forwarded hloss hdup _ hU := forwarded_counted hU hloss hdup hF h

/-- On a line of three nodes, the payload from node 0 to node 2 is relayed by node 1. -/
theorem counters_balanced_line :
    Balances (.line .dsr) ⟨false, false, false⟩
      (after (.line .dsr) ⟨false, false, false⟩ deliveryOnLine) :=
  counters_balanced (Deployment.line_placed .dsr) (Deployment.line_neighborsListed .dsr) rfl
    (reachable_after _ _ _)

end Network

end DlDsr
