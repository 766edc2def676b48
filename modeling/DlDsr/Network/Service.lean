import DlDsr.Lib.MessageService
import DlDsr.Lib.Simulation
import DlDsr.Lib.Totals
import DlDsr.Network.EndToEnd
import Mathlib.Tactic.Abel

/-!
# The network is a message service

What all the discoveries, routes and relays are for: applications submit payloads, and get
them delivered or hear that the discovery of their destination has failed. Seen like this,
the network is a message service (`message_service`). The service holds what is queued or on
its way; it gives up on the payloads of a source for a destination; it may lose payloads if
the transport does, if nodes restart, or if the nodes run different modes, and it duplicates
what the transport duplicates. Users of the network can rely on what users of such a service
can rely on, at any time of a run.
-/

namespace DlDsr

/-- What a user sees: payloads, and the source and the destination of those that are given
up. -/
abbrev Visible := MessageService.Event Submission (NodeId × NodeId)

/-- The source and the destination of a payload. -/
def Submission.kind (t : Submission) : NodeId × NodeId := (t.srcNodeId, t.dstNodeId)

/-- What a user sees of an event. -/
def ProtocolEvent.visible : ProtocolEvent → Option Visible
  | .dataDelivered _ srcNodeId dstNodeId _ payload =>
    some (.deliver ⟨srcNodeId, dstNodeId, payload⟩)
  | .routeDiscoveryFailed nodeId dstNodeId _ => some (.giveUp (nodeId, dstNodeId))
  | _ => none

/-- What a user does by a call of node `n`. -/
def Input.visible (n : NodeId) : Input → Option Visible
  | .command (.discoverAndSend dst payload) => some (.submit ⟨n, dst, payload⟩)
  | _ => none

namespace Network

open ProtocolState MessageService

variable {D : Deployment} {F : Faults} {net net' : Network} {mode : ProtocolMode} {lossy : Bool}

/-- What a user sees of a call, latest first. -/
def Call.log (c : Call) : List Visible :=
  (c.actions.events.filterMap ProtocolEvent.visible).reverse ++ (c.input.visible c.nodeId).toList

/-- What the users have seen, latest first. -/
def log (net : Network) : List Visible := (callsOf net.history).flatMap Call.log

/-- What the nodes have queued, and what is on its way. -/
def payloadsHeld (D : Deployment) (net : Network) : Multiset Submission :=
  sumOver (D.topology.nodes.map TopologyNode.nodeId) (fun n => (net.node n).queued) + net.carried

/-- What the network looks like to its users. -/
def service (D : Deployment) (net : Network) : MessageService.State Submission (NodeId × NodeId) :=
  ⟨net.payloadsHeld D, net.log⟩

theorem service_init : (init D).service D = .empty := by
  have hqueued : sumOver (D.topology.nodes.map TopologyNode.nodeId)
      (fun n => ((init D).node n).queued) = 0 :=
    sumOver_eq_zero fun _ _ => rfl
  unfold service payloadsHeld
  rw [hqueued]
  rfl

theorem submissions_cases (p : Packet) : p.submissions = 0 ∨ ∃ t, p.submissions = {t} := by
  cases p with
  | data d => exact .inr ⟨_, rfl⟩
  | _ => exact .inl rfl

/-- The node that acts holds a part of what is held. -/
theorem exists_others (hP : D.Placed) (net : Network) {n : NodeId} (hn : D.Runs n) :
    ∃ others, net.payloadsHeld D = (net.node n).queued + others + net.carried ∧
      ∀ s, sumOver (D.topology.nodes.map TopologyNode.nodeId)
        (fun m => (Function.update net.node n s m).queued) = s.queued + others := by
  obtain ⟨tn, hmem, rfl⟩ := hn
  obtain ⟨others, hbefore, hafter⟩ :=
    sumOver_split hP.ids_nodup (List.mem_map_of_mem hmem) net.node queued
  exact ⟨others, congrArg (· + net.carried) hbefore, hafter⟩

/-! ## What a call looks like -/

theorem visible_cons {e : ProtocolEvent} {v : Visible} (h : e.visible = some v)
    (events : List ProtocolEvent) (log : List Visible) :
    ((e :: events).filterMap ProtocolEvent.visible).reverse ++ log =
      (events.filterMap ProtocolEvent.visible).reverse ++ v :: log := by
  rw [List.filterMap_cons_some h, List.reverse_cons, List.append_assoc]
  rfl

/-- The service hands out what the events report as delivered, and gives up what they report
as failed. -/
theorem run_events {n : NodeId} {duplicating : Bool} {events : List ProtocolEvent}
    (hown : ∀ m dst attempts, .routeDiscoveryFailed m dst attempts ∈ events → m = n)
    (queue : List PendingData) (rest : Multiset Submission) (log : List Visible) :
    MessageService.Run Submission.kind lossy duplicating
      ⟨rest + deliveredBy events + queuedBy n (queue.filter (lost events)), log⟩
      ⟨rest, (events.filterMap ProtocolEvent.visible).reverse ++ log⟩ := by
  induction events generalizing queue log with
  | nil =>
    have hnone : queue.filter (lost []) = [] := List.filter_eq_nil_iff.mpr fun _ _ h => nomatch h
    rw [hnone]
    show MessageService.Run _ _ _ ⟨rest + 0 + 0, log⟩ ⟨rest, log⟩
    rw [add_zero, add_zero]
  | cons e events ih =>
    have hrest := ih fun m dst attempts hmem => hown m dst attempts (List.mem_cons_of_mem _ hmem)
    cases e with
    | dataDelivered m src dst sequence payload =>
      have hheld : rest + deliveredBy (.dataDelivered m src dst sequence payload :: events) +
          queuedBy n (queue.filter
            (lost (.dataDelivered m src dst sequence payload :: events))) =
          rest + deliveredBy events + queuedBy n (queue.filter (lost events)) +
            {⟨src, dst, payload⟩} := by
        show rest + ({⟨src, dst, payload⟩} + deliveredBy events) +
          queuedBy n (queue.filter (lost events)) = _
        abel
      rw [hheld, visible_cons rfl]
      exact .head (.deliver _ _ rfl) (hrest queue _)
    | routeDiscoveryFailed m dst attempts =>
      obtain rfl := hown m dst attempts List.mem_cons_self
      have hlost : ∀ q, lost (.routeDiscoveryFailed m dst attempts :: events) q =
          ((dst == q.dstNodeId) || lost events q) := fun _ => rfl
      -- What is lost is for `dst`, or it is lost by one of the other events.
      have hgone : (queue.filter (lost (.routeDiscoveryFailed m dst attempts :: events))).filter
          (fun q => dst == q.dstNodeId) = queue.filter fun q => dst == q.dstNodeId := by
        rw [List.filter_filter]
        refine List.filter_congr fun q _ => ?_
        rw [hlost]
        cases dst == q.dstNodeId <;> rfl
      have hkept : (queue.filter (lost (.routeDiscoveryFailed m dst attempts :: events))).filter
          (fun q => !(dst == q.dstNodeId)) =
            (queue.filter fun q => !(dst == q.dstNodeId)).filter (lost events) := by
        rw [List.filter_filter, List.filter_filter]
        refine List.filter_congr fun q _ => ?_
        rw [hlost]
        cases dst == q.dstNodeId <;> simp
      have hheld : rest + deliveredBy (.routeDiscoveryFailed m dst attempts :: events) +
          queuedBy m (queue.filter
            (lost (.routeDiscoveryFailed m dst attempts :: events))) =
          rest + deliveredBy events +
            queuedBy m ((queue.filter fun q => !(dst == q.dstNodeId)).filter (lost events)) +
            queuedBy m (queue.filter fun q => dst == q.dstNodeId) := by
        rw [queuedBy_split m fun q => dst == q.dstNodeId, hgone, hkept]
        show rest + (0 + deliveredBy events) + _ = _
        abel
      rw [hheld, visible_cons rfl]
      refine .head (.giveUp (m, dst) _ _ rfl fun t ht => ?_) (hrest _ _)
      obtain ⟨q, hq, rfl⟩ := List.mem_map.mp (Multiset.mem_coe.mp ht)
      have hdst : dst = q.dstNodeId := by simpa using (List.mem_filter.mp hq).2
      rw [hdst]
      rfl
    | _ =>
      have hsame := hrest queue log
      rw [← zero_add (deliveredBy events)] at hsame
      exact hsame

/-- A call submits what it submits. -/
theorem run_submitted {duplicating : Bool} (n : NodeId) (input : Input)
    (a : MessageService.State Submission (NodeId × NodeId)) :
    MessageService.Run Submission.kind lossy duplicating a
      ⟨a.held + input.submitted n, (input.visible n).toList ++ a.log⟩ := by
  cases input with
  | command c => exact .single (.submit _)
  | _ =>
    show MessageService.Run _ _ _ a ⟨a.held + 0, a.log⟩
    rw [add_zero]

/-- The service loses some payloads, if it may lose any. -/
theorem run_lost {duplicating : Bool} {gone : Multiset Submission}
    (hgone : lossy = false → gone = 0) (rest : Multiset Submission) (log : List Visible) :
    MessageService.Run Submission.kind lossy duplicating ⟨rest + gone, log⟩ ⟨rest, log⟩ := by
  cases lossy with
  | true => exact .single (.lose rfl _ _ rfl)
  | false =>
    rw [hgone rfl, add_zero]

/-- When the service must not lose payloads, nothing in the network does. -/
def Lossless (D : Deployment) (F : Faults) : Prop :=
  F.loss = false ∧ F.restarts = false ∧ ∃ mode, D.Uniform mode

/-- What a call loses without a word, if the nodes run different modes or restart. -/
theorem exists_gone (hlossless : lossy = false → Lossless D F) (h : Reachable D F net)
    {n : NodeId} (clock : Clock) {input : Input} {origin : Nat} {rest : List InFlight}
    (hn : D.Runs n) (hserved : Served D net n input origin rest) :
    ∃ gone, (lossy = false → gone = 0) ∧
      input.submitted n + (net.node n).queued + input.carried =
        ((net.node n).call clock input).1.queued +
          carriedBy (((net.node n).call clock input).2.outbound.map OutboundPacket.packet) +
          deliveredBy ((net.node n).call clock input).2.events +
          (net.node n).discarded ((net.node n).call clock input).2.events + gone := by
  have hid := ProtocolState.nodeId_eq (node_config h n)
  cases lossy with
  | false =>
    obtain ⟨-, hF, mode, hU⟩ := hlossless rfl
    have hconserves : (net.node n).Conserves input ((net.node n).call clock input) :=
      call_conserves hU hF h hn hserved
    unfold Conserves at hconserves
    rw [hid] at hconserves
    exact ⟨0, fun _ => rfl, by rw [add_zero]; exact hconserves⟩
  | true =>
    have hnoMore : (net.node n).NoMore input ((net.node n).call clock input) :=
      call_noMore (net.node n) clock input
    unfold NoMore at hnoMore
    rw [hid] at hnoMore
    obtain ⟨gone, hgone⟩ := Multiset.le_iff_exists_add.mp hnoMore
    exact ⟨gone, fun h => (nomatch h), hgone⟩

/-- What is held before a call, with what it submits, falls into what is held afterwards, what
is handed out or given up, and what is gone. -/
theorem payloadsHeld_call (hP : D.Placed) (h : Reachable D F net) {n : NodeId} {clock : Clock}
    {input : Input} {origin : Nat} {rest : List InFlight} (hn : D.Runs n)
    (hserved : Served D net n input origin rest)
    (hnet : net' = { net with inFlight := rest }.call n clock input origin)
    {gone : Multiset Submission}
    (hcall : input.submitted n + (net.node n).queued + input.carried =
      ((net.node n).call clock input).1.queued +
        carriedBy (((net.node n).call clock input).2.outbound.map OutboundPacket.packet) +
        deliveredBy ((net.node n).call clock input).2.events +
        (net.node n).discarded ((net.node n).call clock input).2.events + gone) :
    net.payloadsHeld D + input.submitted n = net'.payloadsHeld D + gone +
      deliveredBy ((net.node n).call clock input).2.events +
      queuedBy n ((net.node n).pendingData.filter
        (lost ((net.node n).call clock input).2.events)) := by
  have hid := ProtocolState.nodeId_eq (node_config h n)
  obtain ⟨others, hbefore, hafter⟩ := exists_others hP net hn
  have hheld' : net'.payloadsHeld D = ((net.node n).call clock input).1.queued + others +
      (carriedBy (rest.map InFlight.packet) +
        carriedBy (((net.node n).call clock input).2.outbound.map OutboundPacket.packet)) := by
    rw [hnet, payloadsHeld, carried_call]
    exact congrArg (· + _) (hafter _)
  rw [ProtocolState.discarded, hid] at hcall
  rw [hbefore, hserved.carried, hheld']
  calc (net.node n).queued + others + (input.carried + carriedBy (rest.map InFlight.packet)) +
        input.submitted n
      = input.submitted n + (net.node n).queued + input.carried +
          (others + carriedBy (rest.map InFlight.packet)) := by abel
    _ = _ := by
      rw [hcall]
      abel

/-- A call is a submission, then what its events say, and then perhaps a loss. -/
theorem service_call (hP : D.Placed) (hlossless : lossy = false → Lossless D F)
    (h : Reachable D F net) {n : NodeId} (clock : Clock) {input : Input} {origin : Nat}
    {rest : List InFlight} (hn : D.Runs n) (hserved : Served D net n input origin rest)
    (hnet : net' = { net with inFlight := rest }.call n clock input origin) :
    MessageService.Run Submission.kind lossy F.duplication (net.service D) (net'.service D) := by
  obtain ⟨gone, hnone, hcall⟩ := exists_gone hlossless h clock hn hserved
  have hown : ∀ m dst attempts, .routeDiscoveryFailed m dst attempts ∈
      ((net.node n).call clock input).2.events → m = n := by
    intro m dst attempts hmem
    have hid := ProtocolState.nodeId_eq (node_config h n)
    cases announces_of_mem hmem with
    | discoveryFailed => exact hid
  have hlog : net'.log =
      (((net.node n).call clock input).2.events.filterMap ProtocolEvent.visible).reverse ++
        ((input.visible n).toList ++ net.log) := by
    rw [hnet]
    exact List.append_assoc ..
  have hsubmitted : MessageService.Run Submission.kind lossy F.duplication (net.service D)
      ⟨net.payloadsHeld D + input.submitted n, (input.visible n).toList ++ net.log⟩ :=
    run_submitted n input (net.service D)
  rw [payloadsHeld_call hP h hn hserved hnet hcall] at hsubmitted
  have hevents := hsubmitted.trans (run_events hown _ _ _)
  rw [← hlog] at hevents
  exact hevents.trans (run_lost hnone _ _)

/-! ## Refinement -/

/-- Whatever the network does, the service does. -/
theorem service_step (hP : D.Placed) (hlossless : lossy = false → Lossless D F)
    (h : Reachable D F net) (hs : StepCases D F net net') :
    MessageService.Run Submission.kind lossy F.duplication (net.service D) (net'.service D) := by
  cases hs with
  | call hn hserved => exact service_call hP hlossless h _ hn hserved rfl
  | @lose p rest hF hp =>
    have hgone : lossy = false → p.packet.submissions = 0 := by
      intro hlossy
      rw [(hlossless hlossy).1] at hF
      cases hF
    unfold service payloadsHeld
    rw [carried_perm hp, add_comm p.packet.submissions, ← add_assoc]
    exact run_lost hgone _ _
  | @duplicate p hF hp =>
    have hcarried : carriedBy ((p :: net.inFlight).map InFlight.packet) =
        p.packet.submissions + net.carried := rfl
    have hbefore := carried_perm (List.perm_cons_erase hp)
    unfold service payloadsHeld
    show MessageService.Run _ _ _ _ ⟨_ + carriedBy ((p :: net.inFlight).map InFlight.packet), _⟩
    rw [hcarried]
    rcases submissions_cases p.packet with hnone | ⟨t, ht⟩
    · rw [hnone, zero_add]
      exact .refl
    · have hmem : t ∈ net.carried := by
        rw [hbefore, ht]
        exact Multiset.mem_add.mpr (.inl (Multiset.mem_singleton_self t))
      rw [ht, add_comm ({t} : Multiset Submission), ← add_assoc]
      exact .single (.duplicate hF t (Multiset.mem_add.mpr (.inr hmem)))
  | @restart n hF hn =>
    obtain ⟨others, hbefore, hafter⟩ := exists_others hP net hn
    have hgone : lossy = false → (net.node n).queued = 0 := by
      intro hlossy
      rw [(hlossless hlossy).2.1] at hF
      cases hF
    have hheld : net.payloadsHeld D = others + net.carried + (net.node n).queued := by
      rw [hbefore]
      abel
    have hheld' : sumOver (D.topology.nodes.map TopologyNode.nodeId)
        (fun m => (Function.update net.node n (.new (D.config n)) m).queued) = others :=
      (hafter _).trans (zero_add others)
    unfold service
    rw [hheld, payloadsHeld, hheld']
    exact run_lost hgone _ _
  | @reorder n s' hr =>
    have hqueued : sumOver (D.topology.nodes.map TopologyNode.nodeId)
        (fun m => (Function.update net.node n s' m).queued) =
          sumOver (D.topology.nodes.map TopologyNode.nodeId) fun m => (net.node m).queued :=
      sumOver_update_of_eq (queued_reorder hr)
    unfold service payloadsHeld
    rw [hqueued]
    exact .refl

/-- What the network does is matched by the service, which sees nothing but the payloads. -/
theorem simulates_service (hP : D.Placed) (hlossless : lossy = false → Lossless D F) :
    Simulates (Step D F) (MessageService.Step Submission.kind lossy F.duplication)
      fun net a => Reachable D F net ∧ a = net.service D := by
  rintro net _ net' ⟨h, rfl⟩ hs
  exact ⟨_, service_step hP hlossless h (step_cases hs), h.tail hs, rfl⟩

/-- The network has come about as the service may. -/
theorem refines_service (hP : D.Placed) (hlossless : lossy = false → Lossless D F)
    (h : Reachable D F net) :
    MessageService.Run Submission.kind lossy F.duplication .empty (net.service D) := by
  obtain ⟨a, hrun, -, rfl⟩ :=
    (simulates_service hP hlossless).run ⟨.refl, (service_init).symm⟩ h
  exact hrun

theorem refines_lossy (hP : D.Placed) (h : Reachable D F net) :
    MessageService.Run Submission.kind true F.duplication .empty (net.service D) :=
  refines_service hP (fun hlossy => nomatch hlossy) h

/-! ## What the users can rely on -/

theorem submissions_events (events : List ProtocolEvent) (log : List Visible) :
    submissions ((events.filterMap ProtocolEvent.visible).reverse ++ log) = submissions log := by
  induction events generalizing log with
  | nil => rfl
  | cons e events ih =>
    cases e with
    | dataDelivered | routeDiscoveryFailed =>
      rw [visible_cons rfl, ih]
      rfl
    | _ => exact ih log

theorem deliveries_events (events : List ProtocolEvent) (log : List Visible) :
    deliveries ((events.filterMap ProtocolEvent.visible).reverse ++ log) =
      deliveredBy events + deliveries log := by
  induction events generalizing log with
  | nil => exact (zero_add _).symm
  | cons e events ih =>
    cases e with
    | dataDelivered n src dst sequence payload =>
      rw [visible_cons rfl, ih, deliveries_deliver]
      show _ = {⟨src, dst, payload⟩} + deliveredBy events + deliveries log
      abel
    | routeDiscoveryFailed =>
      rw [visible_cons rfl, ih, deliveries_giveUp]
      exact congrArg (· + _) (zero_add _).symm
    | _ =>
      rw [← zero_add (deliveredBy events)] at ih
      exact ih log

/-- The log has the submissions that the calls have made. -/
theorem submissions_log (net : Network) : submissions net.log = net.submitted := by
  unfold log submitted
  induction callsOf net.history with
  | nil => rfl
  | cons c calls ih =>
    rw [List.flatMap_cons, Call.log, List.append_assoc, submissions_events, List.map_cons,
      List.sum_cons, ← ih]
    cases c.input with
    | command cmd => exact (submissions_submit _ _).trans (add_comm _ _)
    | _ => exact (zero_add _).symm

/-- The log has the deliveries that the events have reported. -/
theorem deliveries_log (net : Network) : deliveries net.log = net.delivered := by
  unfold log delivered
  induction callsOf net.history with
  | nil => rfl
  | cons c calls ih =>
    rw [List.flatMap_cons, Call.log, List.append_assoc, deliveries_events, List.map_cons,
      List.sum_cons, ← ih]
    cases c.input with
    | command cmd => exact congrArg (_ + ·) (deliveries_submit _ _)
    | _ => rfl

/-- The network has come about as a service may, and so its users can rely on it, at any
time: `older` is their log at that time. -/
structure Dependable (D : Deployment) (F : Faults) (net : Network) : Prop where
  service : MessageService.Run Submission.kind true F.duplication .empty (net.service D)
  lossless : Lossless D F →
    MessageService.Run Submission.kind false F.duplication .empty (net.service D)
  submitted : submissions net.log = net.submitted
  delivered : deliveries net.log = net.delivered
  genuine : ∀ older, older <:+ net.log → deliveries older ⊆ submissions older
  once : F.duplication = false → ∀ older, older <:+ net.log → deliveries older ≤ submissions older
  kept : Lossless D F → ∀ t, .giveUp t.kind ∉ net.log →
    net.submitted.count t ≤ (net.payloadsHeld D).count t + net.delivered.count t

/-- **The network is a message service**, and loses nothing if nothing in the network does.
So at any time of any run, every payload delivered was submitted before, with this source and
this destination; if the transport does not duplicate packets, it was submitted at least as
often. If all nodes run the same mode and nothing is lost, a payload is delivered, queued or
on its way as often as it was submitted, unless its source has reported that it found no
route to its destination. -/
theorem message_service (hP : D.Placed) (h : Reachable D F net) : Dependable D F net where
  service := refines_lossy hP h
  lossless hlossless := refines_service hP (fun _ => hlossless) h
  submitted := submissions_log net
  delivered := deliveries_log net
  genuine := by
    intro older hsuffix
    obtain ⟨a, hrun, rfl⟩ := exists_of_suffix (refines_lossy hP h) hsuffix
    exact (held_deliveries_subset hrun).2
  once := by
    intro hdup older hsuffix
    have hrefines := refines_lossy hP h
    rw [hdup] at hrefines
    obtain ⟨a, hrun, rfl⟩ := exists_of_suffix hrefines hsuffix
    exact le_trans (Multiset.le_add_left _ _) (held_add_deliveries_le hrun)
  kept := by
    intro hlossless t hkept
    rw [← submissions_log, ← deliveries_log]
    exact count_submissions_le (refines_service hP (fun _ => hlossless) h) hkept

/-- The payload of node 0 for node 2 is delivered. Then node 0 submits one for a node 9 that
does not exist, and tries in vain. -/
def servedOnLine : List Action :=
  deliveryOnLine ++
    [.act 0 tenMillis (.command (.discoverAndSend 9 [8])), .act 0 tenMillis (.tick 10000),
     .act 0 (fun _ => 10000) (.tick 20000), .act 0 (fun _ => 20000) (.tick 40000),
     .act 0 (fun _ => 40000) (.tick 80000)]

/-- The line loses nothing, and its users see the one payload delivered and the other given
up. -/
theorem message_service_line :
    Dependable (.line .dsr) ⟨false, false, false⟩
        (after (.line .dsr) ⟨false, false, false⟩ servedOnLine) ∧
      Lossless (.line .dsr) ⟨false, false, false⟩ ∧
      (after (.line .dsr) ⟨false, false, false⟩ servedOnLine).log =
        [.giveUp (0, 9), .submit ⟨0, 9, [8]⟩, .deliver ⟨0, 2, [7]⟩, .submit ⟨0, 2, [7]⟩] :=
  ⟨message_service (Deployment.line_placed .dsr) (reachable_after ..),
    ⟨rfl, rfl, .dsr, Deployment.line_uniform .dsr⟩, by decide +kernel⟩

end Network

end DlDsr
