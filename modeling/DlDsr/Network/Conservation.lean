import DlDsr.Network.Delivery
import DlDsr.Node.Fates

/-!
# Every submitted payload has one fate

If the transport loses and duplicates nothing and no node restarts, the payloads
submitted so far are, as a multiset, the ones queued, carried, delivered and
discarded (`accounts`). Every call conserves them (`call_conserves`): commands and
accepted RREPs send along routes they can use, and DATA is never rejected on its way.
-/

namespace DlDsr

namespace Network

open ProtocolState

variable {D : Deployment} {F : Faults} {net net' : Network} {mode : ProtocolMode}

/-- All payloads submitted so far. -/
def submitted (net : Network) : Multiset Submission :=
  ((callsOf net.history).map fun c => c.input.submitted c.nodeId).sum

/-- The payloads of the DATA packets in flight. -/
def carried (net : Network) : Multiset Submission := carriedBy (net.inFlight.map InFlight.packet)

/-- All payloads delivered so far. -/
def delivered (net : Network) : Multiset Submission :=
  ((callsOf net.history).map fun c => deliveredBy c.actions.events).sum

/-- All payloads discarded by failed discoveries so far. -/
def discarded (net : Network) : Multiset Submission :=
  ((callsOf net.history).map fun c => c.before.discarded c.actions.events).sum

/-! ## Calls conserve payloads -/

theorem dataServed_conserves {s : ProtocolState} {clock : Clock} {d : Data} {sender : SocketAddr}
    {r : ProtocolState × ProtocolActions} (h : DataServed D s clock d r) :
    s.Conserves (.packet (.data d) sender) r := by
  unfold Conserves
  cases h with
  | delivered =>
    have hnone : s.discarded [.dataDelivered s.config.nodeId d.srcNodeId d.dstNodeId d.sequence
        d.payload] = 0 := by
      refine discarded_eq_zero fun n dst attempts hmem => ?_
      cases List.mem_singleton.mp hmem
    rw [hnone]
    show 0 + s.queued + {⟨d.srcNodeId, d.dstNodeId, d.payload⟩} =
      s.queued + 0 + ({⟨d.srcNodeId, d.dstNodeId, d.payload⟩} + 0) + 0
    simp
  | forwarded next =>
    show 0 + s.queued + {⟨d.srcNodeId, d.dstNodeId, d.payload⟩} =
      s.queued + ({⟨d.srcNodeId, d.dstNodeId, d.payload⟩} + 0) + 0 + s.discarded []
    rw [discarded_nil]
    simp

/-- Every call that is served conserves the payloads. -/
theorem call_conserves (hU : D.Uniform mode) (hF : F.restarts = false) (h : Reachable D F net)
    {n : NodeId} {clock : Clock} {input : Input} {origin : Nat} {rest : List InFlight}
    (hn : D.Runs n) (hserved : Served D net n input origin rest) :
    (net.node n).Conserves input ((net.node n).call clock input) := by
  cases input with
  | command c =>
    obtain ⟨dst, payload⟩ := c
    refine discoverAndSend_conserves fun route hroute => ?_
    have hu := usable_of_held hU hF h (RouteCache.shortest_mem hroute).1
    obtain ⟨next, -, hsend⟩ := hu.canSend hU hF h
    exact ⟨_, hsend.firstHop⟩
  | tick now => exact call_tick_conserves _ clock now
  | hello => exact call_hello_conserves _ clock
  | packet packet sender =>
    have hmem := hserved.inFlight
    cases packet with
    | rrep p =>
      by_cases haccept : (net.node n).validateRrep sender p.tracePath = .ok () ∧
          (net.node n).config.nodeId = p.srcNodeId
      · have hu := usable_of_rrep hU hF h clock hn hmem haccept.1 haccept.2
        obtain ⟨next, -, hsend⟩ := hu.canSend hU hF h
        rw [call_of_accepted haccept.1 haccept.2]
        exact acceptRrep_conserves hsend.firstHop
      · refine handlePacket_conserves rfl fun p' hp hok hsrc => ?_
        obtain rfl := Packet.rrep.inj hp
        exact haccept ⟨hok, hsrc⟩
    | data d =>
      obtain ⟨hpath, -⟩ := packetData hU hF h hmem d rfl
      exact dataServed_conserves (dataOnPath_served hU hF h hn hmem hpath clock).2
    | hello _ => exact handlePacket_conserves rfl fun _ hp => nomatch hp
    | helloReply _ => exact handlePacket_conserves rfl fun _ hp => nomatch hp
    | rreq _ => exact handlePacket_conserves rfl fun _ hp => nomatch hp
    | ack _ => exact handlePacket_conserves rfl fun _ hp => nomatch hp
    | error _ => exact handlePacket_conserves rfl fun _ hp => nomatch hp

/-! ## The accounts of a run -/

/-- What a packet in flight carries is carried with the rest. -/
theorem carried_perm {p : InFlight} {rest : List InFlight} (hp : net.inFlight.Perm (p :: rest)) :
    net.carried = p.packet.submissions + carriedBy (rest.map InFlight.packet) :=
  ((hp.map InFlight.packet).map Packet.submissions).sum_eq

/-- The packet that is served was carried with the rest. -/
theorem Served.carried {n : NodeId} {input : Input} {origin : Nat} {rest : List InFlight}
    (h : Served D net n input origin rest) :
    net.carried = input.carried + carriedBy (rest.map InFlight.packet) := by
  cases h with
  | act input hlocal =>
    have hnone : input.carried = 0 := by
      cases input with
      | packet => cases hlocal
      | _ => rfl
    rw [hnone, zero_add]
    rfl
  | deliver p _ hp => exact carried_perm hp

theorem carried_call {n : NodeId} {clock : Clock} {input : Input} {origin : Nat}
    {rest : List InFlight} :
    ({ net with inFlight := rest }.call n clock input origin).carried =
      carriedBy (rest.map InFlight.packet) +
        carriedBy (((net.node n).call clock input).2.outbound.map OutboundPacket.packet) := by
  unfold Network.carried carriedBy Network.call
  rw [List.map_append, List.map_append, List.sum_append]
  simp [sent, Function.comp_def]

theorem count_queued_other {s : ProtocolState} {t : Submission}
    (h : t.srcNodeId ≠ s.config.nodeId) : s.queued.count t = 0 := by
  refine Multiset.count_eq_zero.mpr fun hmem => ?_
  obtain ⟨q, -, rfl⟩ := List.mem_map.mp (Multiset.mem_coe.mp hmem)
  exact h rfl

/-- What comes in with a call, and what the network held of a payload before, it holds
afterwards, or the call has delivered or discarded it. -/
theorem accounts_call (hU : D.Uniform mode) (hF : F.restarts = false) (h : Reachable D F net)
    {n : NodeId} (clock : Clock) {input : Input} {origin : Nat} {rest : List InFlight}
    (hn : D.Runs n) (hserved : Served D net n input origin rest)
    (hnet : net' = { net with inFlight := rest }.call n clock input origin) (t : Submission) :
    (input.submitted n).count t + (net.node t.srcNodeId).queued.count t + net.carried.count t =
      (net'.node t.srcNodeId).queued.count t + net'.carried.count t +
        (deliveredBy ((net.node n).call clock input).2.events).count t +
        ((net.node n).discarded ((net.node n).call clock input).2.events).count t := by
  have hconserves : (net.node n).Conserves input ((net.node n).call clock input) :=
    call_conserves hU hF h hn hserved
  have hid := ProtocolState.nodeId_eq (node_config h n)
  -- How often `t` occurs on both sides of what the call and the transport conserve.
  have hcount := congrArg (Multiset.count t) hconserves
  rw [hid] at hcount
  have hcarried := congrArg (Multiset.count t) hserved.carried
  rw [hnet, carried_call]
  simp only [Multiset.count_add] at hcount hcarried ⊢
  by_cases hsrc : t.srcNodeId = n
  · rw [hsrc, call_node_self]
    show _ = (((net.node n).call clock input).1).queued.count t + _ + _ + _
    omega
  · -- Payloads of other nodes are neither in the queue before nor after.
    rw [call_node_other hsrc]
    have hbefore : (net.node n).queued.count t = 0 :=
      count_queued_other (by rw [hid]; exact hsrc)
    have hafter : ((net.node n).call clock input).1.queued.count t = 0 :=
      count_queued_other (by rw [call_config, hid]; exact hsrc)
    show _ = (net.node t.srcNodeId).queued.count t + _ + _ + _
    omega

theorem queued_reorder {s s' : ProtocolState} (h : s.Reorder s') : s'.queued = s.queued := by
  unfold queued
  rw [h.config, h.pendingData]

/-- **Nothing is lost and nothing is duplicated.** -/
theorem accounts (hU : D.Uniform mode) (hloss : F.loss = false) (hdup : F.duplication = false)
    (hF : F.restarts = false) (h : Reachable D F net) (t : Submission) :
    net.submitted.count t = (net.node t.srcNodeId).queued.count t + net.carried.count t +
      net.delivered.count t + net.discarded.count t := by
  refine reachable_induction
    (fun net => net.submitted.count t = (net.node t.srcNodeId).queued.count t +
      net.carried.count t + net.delivered.count t + net.discarded.count t) rfl ?_ h
  intro net net' hreach ih hs
  cases hs with
  | @call n clock input origin rest hn hserved =>
    have hcall := accounts_call hU hF hreach clock hn hserved rfl t
    show (input.submitted n + net.submitted).count t =
      _ + _ + (deliveredBy _ + net.delivered).count t +
        ((net.node n).discarded _ + net.discarded).count t
    simp only [Multiset.count_add]
    omega
  | lose hF => simp [hloss] at hF
  | duplicate hF => simp [hdup] at hF
  | restart hF' => simp [hF] at hF'
  | @reorder n s' hr =>
    show net.submitted.count t = (Function.update net.node n s' t.srcNodeId).queued.count t +
      net.carried.count t + net.delivered.count t + net.discarded.count t
    rw [update_node_eq queued (queued_reorder hr)]
    exact ih

/-! ## The counter of dropped DATA -/

theorem countP_discarded {s : ProtocolState} {events : List ProtocolEvent} (n : NodeId) :
    (s.discarded events).countP (fun t => t.srcNodeId = n) =
      if s.config.nodeId = n then (s.discarded events).card else 0 := by
  have hsrc : ∀ t ∈ s.discarded events, t.srcNodeId = s.config.nodeId := by
    intro t ht
    obtain ⟨q, -, rfl⟩ := List.mem_map.mp (Multiset.mem_coe.mp ht)
    rfl
  split
  · next hid => exact Multiset.countP_eq_card.mpr fun t ht => (hsrc t ht).trans hid
  · next hid => exact Multiset.countP_eq_zero.mpr fun t ht heq => hid ((hsrc t ht).symm.trans heq)

/-- A call counts as dropped what it discards. -/
theorem call_dataDropped (hU : D.Uniform mode) (hF : F.restarts = false) (h : Reachable D F net)
    {n : NodeId} {clock : Clock} {input : Input} {origin : Nat} {rest : List InFlight}
    (hn : D.Runs n) (hserved : Served D net n input origin rest) :
    ((net.node n).call clock input).1.metrics.dataDropped = (net.node n).metrics.dataDropped +
      ((net.node n).discarded ((net.node n).call clock input).2.events).card := by
  by_cases htick : ∃ now, input = .tick now
  · obtain ⟨now, rfl⟩ := htick
    exact call_tick_dataDropped _ clock now
  · have hkeeps : KeepsData (net.node n) ((net.node n).call clock input).1 _ :=
      call_keepsData hU hF h hn hserved fun now heq => htick ⟨now, heq⟩
    have hnone : (net.node n).discarded ((net.node n).call clock input).2.events = 0 := by
      refine discarded_eq_zero fun m dst attempts hmem => ?_
      -- Only ticks report failed discoveries.
      cases announces_of_mem hmem with
      | discoveryFailed now => exact htick ⟨now, rfl⟩
    rw [hkeeps.count, hnone]
    rfl

/-- The counter of dropped DATA counts the payloads of the node that were discarded. -/
theorem dataDropped_eq (hU : D.Uniform mode) (hF : F.restarts = false) (h : Reachable D F net)
    (n : NodeId) :
    (net.node n).metrics.dataDropped = net.discarded.countP fun t => t.srcNodeId = n := by
  refine reachable_induction
    (fun net => (net.node n).metrics.dataDropped =
      net.discarded.countP fun t => t.srcNodeId = n) rfl ?_ h
  intro net net' hreach ih hs
  cases hs with
  | @call m clock input origin rest hm hserved =>
    have hid := ProtocolState.nodeId_eq (node_config hreach m)
    have hcount : ((net.node m).call clock input).1.metrics.dataDropped = _ :=
      call_dataDropped hU hF hreach hm hserved
    show _ = Multiset.countP _ ((net.node m).discarded _ + net.discarded)
    rw [Multiset.countP_add, countP_discarded, hid]
    by_cases hnm : n = m
    · subst hnm
      rw [call_node_self, if_pos rfl, ← ih, Nat.add_comm]
      exact hcount
    · rw [call_node_other hnm, if_neg (Ne.symm hnm), Nat.zero_add]
      exact ih
  | lose => exact ih
  | duplicate => exact ih
  | restart hF' => simp [hF] at hF'
  | @reorder m s' hr =>
    show (Function.update net.node m s' n).metrics.dataDropped = _
    rw [update_node_eq metrics hr.metrics]
    exact ih

/-! ## Fates -/

/-- What can have become of a submitted payload. -/
inductive Fate where
  | queued
  | inFlight
  | delivered
  | discarded
deriving DecidableEq

/-- How many submissions of this payload have met this fate: in the queue of its
origin, in DATA packets in flight, in `DataDelivered` events, or in the queue of its
origin when a `RouteDiscoveryFailed` event for its destination was emitted there. -/
def fateCount (net : Network) (t : Submission) : Fate → Nat
  | .queued => (net.node t.srcNodeId).queued.count t
  | .inFlight => net.carried.count t
  | .delivered => net.delivered.count t
  | .discarded => net.discarded.count t

/-- **Every submitted payload has exactly one fate.** A payload that was submitted once
is queued once, or carried by one packet, or delivered once, or discarded once; of a
payload that was submitted several times, the fates add up. It is delivered
unchanged at its destination, and what is discarded is counted in the `dataDropped`
of its origin. -/
theorem one_fate (hU : D.Uniform mode) (hloss : F.loss = false) (hdup : F.duplication = false)
    (hF : F.restarts = false) (h : Reachable D F net) :
    (∀ t, net.submitted.count t = net.fateCount t .queued + net.fateCount t .inFlight +
      net.fateCount t .delivered + net.fateCount t .discarded) ∧
    (∀ t, net.submitted.count t = 1 →
      ∃ fate, net.fateCount t fate = 1 ∧ ∀ other, other ≠ fate → net.fateCount t other = 0) ∧
    (∀ c ∈ callsOf net.history, ∀ n src dst sequence payload,
      .dataDelivered n src dst sequence payload ∈ c.actions.events →
        n = c.nodeId ∧ dst = c.nodeId) ∧
    ∀ n, (net.node n).metrics.dataDropped = net.discarded.countP fun t => t.srcNodeId = n := by
  have hsum : ∀ t, net.submitted.count t = net.fateCount t .queued + net.fateCount t .inFlight +
      net.fateCount t .delivered + net.fateCount t .discarded :=
    accounts hU hloss hdup hF h
  refine ⟨hsum, fun t hone => ?_, fun c hc n src dst sequence payload hmem => ?_,
    dataDropped_eq hU hF h⟩
  · -- One of the four summands is 1, and then the others are 0.
    have htotal := hsum t
    rw [hone] at htotal
    have hpick : ∃ fate, net.fateCount t fate ≠ 0 := by
      by_contra hnone
      push Not at hnone
      rw [hnone .queued, hnone .inFlight, hnone .delivered, hnone .discarded] at htotal
      omega
    obtain ⟨fate, hfate⟩ := hpick
    refine ⟨fate, ?_, fun other hother => ?_⟩
    · cases fate <;> omega
    · cases fate <;> cases other <;> first | exact absurd rfl hother | omega
  · obtain ⟨hresult, hcfg⟩ := result_of_mem_callsOf h hc
    have hactions : c.actions = (c.before.call c.clock c.input).2 := congrArg Prod.snd hresult
    have hid : c.before.config.nodeId = c.nodeId := ProtocolState.nodeId_eq hcfg
    rw [hactions] at hmem
    generalize c.input = input at hmem
    cases announces_of_mem hmem with
    | dataDelivered d sender hdst => exact ⟨hid, hdst.trans hid⟩

/-- On a line of three nodes, the payload submitted at node 0 is on its way once a
route has been found. -/
theorem one_fate_line :
    let net := after (.line .dsr) ⟨false, false, false⟩ discoveryOnLine
    (∃ fate, net.fateCount ⟨0, 2, [7]⟩ fate = 1 ∧
      ∀ other, other ≠ fate → net.fateCount ⟨0, 2, [7]⟩ other = 0) ∧
    net.fateCount ⟨0, 2, [7]⟩ .inFlight = 1 := by
  intro net
  refine ⟨?_, by decide +kernel⟩
  exact (one_fate (Deployment.line_uniform .dsr) rfl rfl rfl (reachable_after ..)).2.1
    ⟨0, 2, [7]⟩ (by decide +kernel)

end Network

end DlDsr
