import DlDsr.Node.Accounting
import DlDsr.Node.Fates

/-!
# Which drops are reported

A call that discards payloads counts them in `dataDropped` and hands back a
`DataDropped` event for their destination. One merge keeps only part of an inner result:
`flush_pending` collects the packets of `origin_data` and leaves its events behind, so
what an accepted RREP makes the node drop is counted, but not reported
(`reported_iff`).
-/

namespace DlDsr

namespace ProtocolState

variable {s : ProtocolState} {clock : Clock} {input : Input}
  {r : ProtocolState × ProtocolActions}

/-- The payloads that a call is given or finds in the queue. -/
def payloadsBefore (s : ProtocolState) (input : Input) : Multiset Submission :=
  input.submitted s.config.nodeId + s.queued + input.carried

/-- The payloads that a call leaves in the queue, sends or delivers. -/
def payloadsAfter (r : ProtocolState × ProtocolActions) : Multiset Submission :=
  r.1.queued + carriedBy (r.2.outbound.map OutboundPacket.packet) + deliveredBy r.2.events

/-- The call discards a payload for `dst`, and counts what it discards. -/
def Discards (s : ProtocolState) (input : Input) (r : ProtocolState × ProtocolActions)
    (dst : NodeId) : Prop :=
  s.metrics.dataDropped < r.1.metrics.dataDropped ∧
    ∃ x : Submission, x.dstNodeId = dst ∧
      (payloadsAfter r).count x < (s.payloadsBefore input).count x

/-- Every drop is reported under its destination, and whatever is reported is counted. -/
structure Reported (s : ProtocolState) (input : Input) (r : ProtocolState × ProtocolActions) :
    Prop where
  discarded : ∀ dst, s.Discards input r dst →
    ∃ reason, .dataDropped s.config.nodeId dst reason ∈ r.2.events
  counted : ∀ n dst reason, .dataDropped n dst reason ∈ r.2.events →
    s.metrics.dataDropped < r.1.metrics.dataDropped

/-- An RREP is accepted whose route has no first hop, while a payload waits for it. -/
def SilentFlush (s : ProtocolState) (clock : Clock) : Input → Prop
  | .packet (.rrep p) sender =>
    s.validateRrep sender p.tracePath = .ok () ∧ s.config.nodeId = p.srcNodeId ∧
      s.firstHop (s.routeOf clock p) = none ∧ ∃ q ∈ s.pendingData, q.dstNodeId = p.dstNodeId
  | _ => False

theorem KeepsData.reported (h : KeepsData s r.1 r.2) : s.Reported input r := by
  constructor
  · rintro dst ⟨hcounted, -⟩
    rw [h.count] at hcounted
    exact absurd hcounted (Nat.lt_irrefl _)
  · intro n dst reason hmem
    exact absurd hmem (h.events n dst reason)

/-- A single payload is dropped. -/
theorem reported_of_dropData {t : ProtocolState} {x : Submission} {reason : String}
    (hconfig : t.config = s.config) (hqueue : t.pendingData = s.pendingData)
    (hmetrics : t.metrics = s.metrics)
    (hbefore : s.payloadsBefore input = s.queued + {x}) :
    s.Reported input (t.dropData x.dstNodeId reason) := by
  have hevent : (.dataDropped s.config.nodeId x.dstNodeId reason : ProtocolEvent) ∈
      (t.dropData x.dstNodeId reason).2.events := by
    rw [← hconfig]
    exact List.mem_cons_self
  have hcount : (t.dropData x.dstNodeId reason).1.metrics.dataDropped =
      s.metrics.dataDropped + 1 := by
    rw [← hmetrics]
    rfl
  have hafter : payloadsAfter (t.dropData x.dstNodeId reason) = s.queued := by
    have hqueued : (t.dropData x.dstNodeId reason).1.queued = s.queued := by
      show queuedBy t.config.nodeId t.pendingData = _
      rw [hconfig, hqueue]
      rfl
    unfold payloadsAfter
    rw [hqueued]
    show s.queued + 0 + 0 = _
    rw [add_zero, add_zero]
  constructor
  · rintro dst ⟨-, y, rfl, hlost⟩
    -- Only the one payload is missing afterwards.
    rw [hafter, hbefore, Multiset.count_add, Multiset.count_singleton] at hlost
    split at hlost
    · next hyx =>
      rw [hyx]
      exact ⟨reason, hevent⟩
    · omega
  · intro n dst reason' _
    omega

/-! ## Ticks -/

/-- A failed discovery reports the payloads it drops, if there are any. -/
theorem dataDropped_mem_failDiscovery {n dst dst' : NodeId} {reason : String}
    {state : DiscoveryState} :
    .dataDropped n dst' reason ∈ (s.failDiscovery dst state).2.events ↔
      0 < (s.pendingData.countP fun q => q.dstNodeId == dst) ∧ n = s.config.nodeId ∧ dst' = dst ∧
        reason = "route discovery failed" := by
  have hevents : (s.failDiscovery dst state).2.events =
      .routeDiscoveryFailed s.config.nodeId dst (state.retriesDone + 1) ::
        if 0 < s.pendingData.countP fun q => q.dstNodeId == dst then
          [.dataDropped s.config.nodeId dst "route discovery failed"] else [] := rfl
  rw [hevents]
  split
  · next hpos => simp [hpos]
  · next hzero => simp [hzero]

/-- A payload whose discovery fails is reported as dropped. -/
theorem retryLoop_reports {expired : List (Sigma fun _ : NodeId => DiscoveryState)}
    {q : PendingData} (hq : q ∈ s.pendingData)
    (hlost : lost (s.retryLoop clock expired).2.events q = true) :
    ∃ reason, .dataDropped s.config.nodeId q.dstNodeId reason ∈
      (s.retryLoop clock expired).2.events := by
  induction expired generalizing s clock with
  | nil => cases hlost
  | cons entry expired ih =>
    obtain ⟨dst, state⟩ := entry
    simp only [retryLoop] at hlost ⊢
    split at hlost
    · next hmax =>
      rw [if_pos hmax]
      by_cases hdst : q.dstNodeId = dst
      · -- The payload goes with this discovery.
        have hpos : 0 < s.pendingData.countP fun p => p.dstNodeId == dst :=
          List.countP_pos_iff.mpr ⟨q, hq, by simpa using hdst⟩
        exact ⟨"route discovery failed", List.mem_append_left _
          (dataDropped_mem_failDiscovery.mpr ⟨hpos, rfl, hdst, rfl⟩)⟩
      · have hkept : q ∈ (s.failDiscovery dst state).1.pendingData :=
          List.mem_filter.mpr ⟨hq, by simpa using hdst⟩
        rw [lost_append, failDiscovery_lost, beq_eq_false_iff_ne.mpr (Ne.symm hdst),
          Bool.false_or] at hlost
        obtain ⟨reason, hreason⟩ := ih hkept hlost
        exact ⟨reason, List.mem_append_right _ hreason⟩
    · next hmax =>
      rw [if_neg hmax]
      exact ih (s := (s.startDiscovery clock dst (state.retriesDone + 1)).1) hq hlost

/-- What the tick loop reports as dropped, it counts. -/
theorem retryLoop_counts {expired : List (Sigma fun _ : NodeId => DiscoveryState)}
    {n dst : NodeId} {reason : String}
    (h : .dataDropped n dst reason ∈ (s.retryLoop clock expired).2.events) :
    s.metrics.dataDropped < (s.retryLoop clock expired).1.metrics.dataDropped := by
  induction expired generalizing s clock with
  | nil => cases h
  | cons entry expired ih =>
    obtain ⟨dst', state⟩ := entry
    simp only [retryLoop] at h ⊢
    split at h
    · next hmax =>
      rw [if_pos hmax]
      have hfailed : (s.failDiscovery dst' state).1.metrics.dataDropped =
          s.metrics.dataDropped + s.pendingData.countP fun p => p.dstNodeId == dst' := rfl
      have hrest := (retryLoop_queue (s.failDiscovery dst' state).1 clock expired).2
      dsimp only
      rcases List.mem_append.mp h with h | h
      · -- The event is there because the queue had payloads for this destination.
        have hpos := (dataDropped_mem_failDiscovery.mp h).1
        omega
      · have := ih h
        omega
    · next hmax =>
      rw [if_neg hmax]
      exact ih (s := (s.startDiscovery clock dst' (state.retriesDone + 1)).1) h

theorem call_tick_reported (s : ProtocolState) (clock : Clock) (now : Nat) :
    s.Reported (.tick now) (s.call clock (.tick now)) := by
  constructor
  · rintro dst ⟨-, x, rfl, hlost⟩
    have hconserves : s.payloadsBefore (.tick now) =
        payloadsAfter (s.call clock (.tick now)) +
          s.discarded (s.call clock (.tick now)).2.events :=
      call_tick_conserves s clock now
    -- What is missing afterwards was discarded with a failed discovery.
    rw [hconserves, Multiset.count_add] at hlost
    have hmem : x ∈ s.discarded (s.call clock (.tick now)).2.events :=
      Multiset.count_pos.mp (by omega)
    obtain ⟨q, hq, rfl⟩ := List.mem_map.mp (Multiset.mem_coe.mp hmem)
    obtain ⟨hq, hfails⟩ := List.mem_filter.mp hq
    exact retryLoop_reports (s := { s with
      seenRequests := s.seenRequests.prune now s.config.seenRequestTtlMs }) hq hfails
  · intro n dst reason hmem
    exact retryLoop_counts (s := { s with
      seenRequests := s.seenRequests.prune now s.config.seenRequestTtlMs }) hmem

/-! ## Commands and packets -/

theorem discoverAndSend_reported (s : ProtocolState) (clock : Clock) (dst : NodeId)
    (payload : List UInt8) :
    s.Reported (.command (.discoverAndSend dst payload))
      (s.discoverAndSend clock dst payload) := by
  rcases discoverAndSend_cases s clock dst payload with
    ⟨route, -, heq⟩ | ⟨-, -, heq⟩ | ⟨-, -, heq⟩
  · cases hfirst : s.firstHop route with
    | some endpoint =>
      rw [heq, originData_of_hop hfirst]
      exact KeepsData.reported ⟨rfl, fun _ _ _ => List.not_mem_nil⟩
    | none =>
      rw [heq, originData_of_noHop hfirst]
      refine reported_of_dropData (x := ⟨s.config.nodeId, dst, payload⟩) rfl rfl rfl ?_
      show {⟨s.config.nodeId, dst, payload⟩} + s.queued + 0 = _
      rw [add_zero, add_comm]
  · rw [heq]
    exact KeepsData.reported ⟨rfl, fun _ _ _ => List.not_mem_nil⟩
  · rw [heq]
    exact KeepsData.reported ⟨rfl, fun _ _ _ => List.not_mem_nil⟩

theorem handleData_reported (s : ProtocolState) (clock : Clock) (sender : SocketAddr) (d : Data) :
    s.Reported (.packet (.data d) sender) (s.handleData clock sender d) := by
  have hout := handleData_outcome s clock sender d
  generalize s.handleData clock sender d = r at hout ⊢
  cases hout with
  | dropped reason =>
    refine reported_of_dropData (x := ⟨d.srcNodeId, d.dstNodeId, d.payload⟩) rfl rfl rfl ?_
    show 0 + s.queued + {⟨d.srcNodeId, d.dstNodeId, d.payload⟩} = _
    rw [zero_add]
  | delivered =>
    refine KeepsData.reported ⟨rfl, fun n dst reason hmem => ?_⟩
    cases List.mem_singleton.mp hmem
  | sentOn => exact KeepsData.reported ⟨rfl, fun _ _ _ => List.not_mem_nil⟩
  | vanished => exact KeepsData.reported ⟨rfl, fun _ _ _ => List.not_mem_nil⟩

/-- A flush that drops what it should send counts it, and reports nothing. -/
theorem not_reported_of_silentFlush {p : Rrep} {sender : SocketAddr} {q : PendingData}
    (hhop : s.firstHop (s.routeOf clock p) = none) (hq : q ∈ s.pendingData)
    (hdst : q.dstNodeId = p.dstNodeId) :
    ¬ s.Reported (.packet (.rrep p) sender) (s.acceptRrep clock p) := by
  intro hreported
  have hpos : 0 < s.droppedByFlush clock p := by
    unfold droppedByFlush
    rw [if_pos hhop]
    exact List.countP_pos_iff.mpr ⟨q, hq, by simpa using hdst⟩
  -- The payload was in the queue, and afterwards it is nowhere.
  have hbefore : 0 < (s.payloadsBefore (.packet (.rrep p) sender)).count
      ⟨s.config.nodeId, q.dstNodeId, q.payload⟩ := by
    refine Multiset.count_pos.mpr (Multiset.mem_add.mpr (.inl (Multiset.mem_add.mpr (.inr ?_))))
    exact Multiset.mem_coe.mpr (List.mem_map.mpr ⟨q, hq, rfl⟩)
  have hafter : (payloadsAfter (s.acceptRrep clock p)).count
      ⟨s.config.nodeId, q.dstNodeId, q.payload⟩ = 0 := by
    unfold payloadsAfter
    rw [acceptRrep_outbound_of_noHop hhop]
    refine Multiset.count_eq_zero.mpr fun hmem => ?_
    have hmem : (⟨s.config.nodeId, q.dstNodeId, q.payload⟩ : Submission) ∈
        (s.acceptRrep clock p).1.queued + 0 + 0 := hmem
    rw [add_zero, add_zero] at hmem
    obtain ⟨n, m, hstate⟩ := acceptRrep_state s clock p
    rw [hstate] at hmem
    obtain ⟨q', hq', heq⟩ := List.mem_map.mp (Multiset.mem_coe.mp hmem)
    have hne := (List.mem_filter.mp hq').2
    have hsame : q'.dstNodeId = q.dstNodeId := congrArg Submission.dstNodeId heq
    rw [hsame, hdst] at hne
    simp at hne
  have hdiscards : s.Discards (.packet (.rrep p) sender) (s.acceptRrep clock p) p.dstNodeId := by
    refine ⟨?_, _, hdst, by rw [hafter]; exact hbefore⟩
    rw [acceptRrep_metrics]
    exact Nat.lt_add_of_pos_right hpos
  obtain ⟨reason, hreason⟩ := hreported.discarded _ hdiscards
  cases List.mem_singleton.mp hreason

theorem handleRrep_reported_iff (s : ProtocolState) (clock : Clock) (sender : SocketAddr)
    (p : Rrep) :
    s.Reported (.packet (.rrep p) sender) (s.handleRrep clock sender p) ↔
      ¬ s.SilentFlush clock (.packet (.rrep p) sender) := by
  have hout := handleRrep_outcome s clock sender p
  generalize s.handleRrep clock sender p = r at hout ⊢
  cases hout with
  | rejected reason hbad =>
    refine ⟨fun _ h => hbad h.1, fun _ => KeepsData.reported ⟨rfl, fun _ _ _ hmem => ?_⟩⟩
    cases List.mem_singleton.mp hmem
  | accepted hok hsrc =>
    constructor
    · rintro hreported ⟨-, -, hhop, q, hq, hdst⟩
      exact not_reported_of_silentFlush hhop hq hdst hreported
    · intro hflush
      -- Nothing is dropped: the route has a first hop, or nothing waits for it.
      have hnone : s.droppedByFlush clock p = 0 := by
        unfold droppedByFlush
        split
        · next hhop =>
          refine List.countP_eq_zero.mpr fun q hq hdst => hflush ⟨hok, hsrc, hhop, q, hq, ?_⟩
          simpa using hdst
        · rfl
      refine KeepsData.reported ⟨?_, fun _ _ _ hmem => ?_⟩
      · rw [acceptRrep_metrics, hnone]
        rfl
      · cases List.mem_singleton.mp hmem
  | relayed endpoint hsrc =>
    refine ⟨fun _ h => hsrc h.2.1, fun _ => ?_⟩
    exact KeepsData.reported ⟨rfl, fun _ _ _ => List.not_mem_nil⟩
  | vanished h =>
    refine ⟨fun _ h' => h.in_transit h'.2.1, fun _ => ?_⟩
    exact KeepsData.reported ⟨rfl, fun _ _ _ => List.not_mem_nil⟩

/-- **Which calls report their drops**: for every state, every command, tick, packet and
sender, all but those whose RREP makes a flush drop what it should send. -/
theorem reported_iff (s : ProtocolState) (clock : Clock) (input : Input) :
    s.Reported input (s.call clock input) ↔ ¬ s.SilentFlush clock input := by
  cases input with
  | command c =>
    obtain ⟨dst, payload⟩ := c
    exact ⟨fun _ h => h, fun _ => discoverAndSend_reported s clock dst payload⟩
  | tick now => exact ⟨fun _ h => h, fun _ => call_tick_reported s clock now⟩
  | hello =>
    exact ⟨fun _ h => h, fun _ => KeepsData.reported ⟨rfl, fun _ _ _ => List.not_mem_nil⟩⟩
  | packet packet sender =>
    cases packet with
    | hello p =>
      exact ⟨fun _ h => h, fun _ => KeepsData.reported (handleHello_keepsData s clock p sender)⟩
    | helloReply p =>
      exact ⟨fun _ h => h, fun _ => KeepsData.reported (handleHelloReply_keepsData s p)⟩
    | rreq q =>
      exact ⟨fun _ h => h, fun _ => KeepsData.reported (handleRreq_keepsData s clock q)⟩
    | rrep p => exact handleRrep_reported_iff s clock sender p
    | data d => exact ⟨fun _ h => h, fun _ => handleData_reported s clock sender d⟩
    | ack _ =>
      exact ⟨fun _ h => h, fun _ => KeepsData.reported ⟨rfl, fun _ _ _ => List.not_mem_nil⟩⟩
    | error _ =>
      exact ⟨fun _ h => h, fun _ => KeepsData.reported ⟨rfl, fun _ _ _ => List.not_mem_nil⟩⟩

/-- An RREP whose source route stops at the source. -/
def stuntedRrep : Rrep :=
  { srcNodeId := 0, dstNodeId := 2, requestId := 1, dsrPath := [0], dldsrLabelPath := [],
    tracePath := [0, 1, 2], createdAtMillis := 10 }

/-- Node 0 of a line has queued a payload for node 2 and looks for it. When the RREP
comes, the payload is dropped without an event. -/
theorem flush_unreported :
    ¬ ∀ (config : NodeConfig) (s : ProtocolState), ReachableFrom config s →
      ∀ (clock : Clock) (input : Input), s.Reported input (s.call clock input) := by
  intro h
  let config : NodeConfig :=
    { middleOfLineSettings with nodeId := 0, bindAddr := .localhost 7000 }
  let s := ((new config).call (fun _ => 10) (.command (.discoverAndSend 2 [7]))).1
  have hreported : s.Reported (.packet (.rrep stuntedRrep) (.localhost 7001))
      (s.handleRrep (fun _ => 10) (.localhost 7001) stuntedRrep) :=
    h config s (.call _ _ .new) (fun _ => 10) (.packet (.rrep stuntedRrep) (.localhost 7001))
  refine (handleRrep_reported_iff _ _ _ _).mp hreported ⟨?_, ?_, ?_, ⟨2, [7]⟩, ?_, rfl⟩
  · decide +kernel
  · decide
  · decide +kernel
  · decide +kernel

end ProtocolState

end DlDsr
