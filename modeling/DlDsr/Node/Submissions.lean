import DlDsr.Lib.Tickets
import DlDsr.Node.Emissions
import DlDsr.Node.Origination
import DlDsr.Node.Outsiders

/-!
# Payloads leave in the order of their submission

A `Journal` is a node together with the payloads that were submitted to it: each gets a
ticket, and the journal keeps the tickets of the payloads in `pending_data` and of those
that were handed to `origin_data`. What becomes of the tickets is what becomes of the
payloads, call by call (`Journal.serve`).

A payload is handed over directly only when a live route is cached for its destination,
and while anything waits for a destination every route held for it has expired
(`Orderly.stale`): commands queue only when there is no live route, an accepted RREP
flushes the queue together with caching its route, and the clock does not go back.
-/

namespace DlDsr

/-! ## Routes -/

namespace RouteCache

/-- No route is chosen when all that are held have expired. -/
theorem expired_of_shortest {self : RouteCache} {d : NodeId} {now : Nat}
    (h : self.shortest d now = none) : ∀ route ∈ self.held d, route.expiresAtMillis < now := by
  intro route hroute
  unfold held at hroute
  cases hlookup : self.routes.lookup d with
  | none =>
    rw [hlookup] at hroute
    cases hroute
  | some routes =>
    rw [hlookup] at hroute
    unfold shortest at h
    rw [hlookup] at h
    have hnone := List.argmin_eq_none.mp h
    by_contra hlive
    have hmem : route ∈ routes.filter fun r => decide (now ≤ r.expiresAtMillis) :=
      List.mem_filter.mpr ⟨hroute, by simpa using hlive⟩
    rw [hnone] at hmem
    cases hmem

end RouteCache

namespace ProtocolState

variable {s : ProtocolState} {clock : Clock}

/-! ## What a call hands to `origin_data` -/

/-- The packets that a call hands to `origin_data`. -/
def handsOver (s : ProtocolState) (clock : Clock) : Input → List Data
  | .command (.discoverAndSend dst payload) =>
    match s.routes.shortest dst (clock 0) with
    | some route => [s.lookupPacket (clock.later 1) dst payload route]
    | none => []
  | .packet (.rrep p) sender =>
    if s.validateRrep sender p.tracePath = .ok () ∧ s.config.nodeId = p.srcNodeId then
      s.handOver (clock.later 1) p.dstNodeId (s.routeOf clock p) s.pendingData
    else []
  | _ => []

/-- A command that finds a route hands one packet over. -/
theorem handsOver_of_route {dst : NodeId} {payload : List UInt8} {route : RouteEntry}
    (hroute : s.routes.shortest dst (clock 0) = some route) :
    s.handsOver clock (.command (.discoverAndSend dst payload)) =
      [s.lookupPacket (clock.later 1) dst payload route] := by
  simp only [handsOver, hroute]

theorem call_of_route {dst : NodeId} {payload : List UInt8} {route : RouteEntry}
    (hroute : s.routes.shortest dst (clock 0) = some route) :
    s.call clock (.command (.discoverAndSend dst payload)) =
      s.originData (clock.later 1) dst payload route := by
  show s.discoverAndSend clock dst payload = _
  simp only [discoverAndSend, hroute]

/-- The counter moves on by one for every payload handed over. -/
theorem nextSequence_flushLoop (s : ProtocolState) (clock : Clock) (dst : NodeId)
    (route : RouteEntry) (queue : List PendingData) :
    (s.flushLoop clock dst route queue).1.nextSequence =
      s.nextSequence + queue.countP fun q => q.dstNodeId == dst := by
  cases h : s.firstHop route with
  | some endpoint => rw [(flushLoop_sends h clock dst queue).1]
  | none => rw [(flushLoop_drops h clock dst queue).1]

theorem nextSequence_acceptRrep (s : ProtocolState) (clock : Clock) (p : Rrep) :
    (s.acceptRrep clock p).1.nextSequence =
      s.nextSequence + s.pendingData.countP fun q => q.dstNodeId == p.dstNodeId :=
  nextSequence_flushLoop _ _ _ _ _

theorem length_handOver (s : ProtocolState) (clock : Clock) (dst : NodeId) (route : RouteEntry)
    (queue : List PendingData) :
    (s.handOver clock dst route queue).length = queue.countP fun q => q.dstNodeId == dst := by
  rw [← List.length_map (f := Data.sequence), handOver_sequences, List.length_range']

/-- Only the configuration and the counter matter for what is handed over. -/
theorem handOver_congr (s s' : ProtocolState) (hconfig : s'.config = s.config)
    (hnext : s'.nextSequence = s.nextSequence) (clock : Clock) (dst : NodeId)
    (route : RouteEntry) (queue : List PendingData) :
    s'.handOver clock dst route queue = s.handOver clock dst route queue := by
  induction queue generalizing s s' clock with
  | nil => rfl
  | cons pending queue ih =>
    simp only [handOver]
    split
    · obtain ⟨m, hm⟩ := originData_state s clock dst pending.payload route
      obtain ⟨m', hm'⟩ := originData_state s' clock dst pending.payload route
      have hrest : (s'.originData clock dst pending.payload route).1.handOver (clock.later 1) dst
          route queue =
          (s.originData clock dst pending.payload route).1.handOver (clock.later 1) dst route
            queue := by
        apply ih
        · rw [hm, hm']
          exact hconfig
        · rw [hm, hm', hnext]
      rw [hrest]
      unfold lookupPacket
      rw [hconfig, hnext]
    · exact ih s s' hconfig hnext clock

/-- Whether a packet is DATA. -/
def isData (o : OutboundPacket) : Bool :=
  match o.packet with
  | .data _ => true
  | _ => false

theorem isData_iff {o : OutboundPacket} : isData o = true ↔ ∃ d, o.packet = .data d := by
  unfold isData
  cases o.packet <;> simp

/-- What the packets handed over make of the outbound packets. -/
theorem filterMap_of_hop {route : RouteEntry} {endpoint : SocketAddr} {data : List Data}
    (hhop : s.firstHop route = some endpoint)
    (hdata : ∀ d ∈ data, s.nextDataEndpoint (.data d) = s.firstHop route) :
    (data.filterMap fun d => (s.nextDataEndpoint (.data d)).map (departing d)) =
      data.map fun d => departing d endpoint := by
  rw [← List.filterMap_eq_map]
  refine List.filterMap_congr fun d hd => ?_
  rw [hdata d hd, hhop]
  rfl

theorem filterMap_of_noHop {route : RouteEntry} {data : List Data}
    (hhop : s.firstHop route = none)
    (hdata : ∀ d ∈ data, s.nextDataEndpoint (.data d) = s.firstHop route) :
    (data.filterMap fun d => (s.nextDataEndpoint (.data d)).map (departing d)) = [] := by
  refine List.filterMap_eq_nil_iff.mpr fun d hd => ?_
  rw [hdata d hd, hhop]
  rfl

/-- An accepted RREP sends what it hands over, as far as the first hop resolves. -/
theorem acceptRrep_originates (s : ProtocolState) (clock : Clock) (p : Rrep) :
    (s.acceptRrep clock p).2.outbound =
      (s.handOver (clock.later 1) p.dstNodeId (s.routeOf clock p) s.pendingData).filterMap
        fun d => (s.nextDataEndpoint (.data d)).map (departing d) := by
  have hhand : (s.cacheRoute clock p).handOver (clock.later 1) p.dstNodeId (s.routeOf clock p)
      s.pendingData =
      s.handOver (clock.later 1) p.dstNodeId (s.routeOf clock p) s.pendingData :=
    handOver_congr s (s.cacheRoute clock p) rfl rfl _ _ _ _
  have hhop := s.firstHop_cacheRoute clock p (s.routeOf clock p)
  rw [acceptRrep_outbound_eq]
  cases hfirst : s.firstHop (s.routeOf clock p) with
  | some endpoint =>
    rw [(flushLoop_sends (hhop.trans hfirst) _ _ _).2, hhand,
      filterMap_of_hop hfirst fun d hd => handOver_hop hd]
  | none =>
    rw [(flushLoop_drops (hhop.trans hfirst) _ _ _).2,
      filterMap_of_noHop hfirst fun d hd => handOver_hop hd]

theorem command_originates {dst : NodeId} {payload : List UInt8} {route : RouteEntry}
    (hroute : s.routes.shortest dst (clock 0) = some route) :
    (s.call clock (.command (.discoverAndSend dst payload))).2.outbound.filter isData =
      (s.handsOver clock (.command (.discoverAndSend dst payload))).filterMap fun d =>
        (s.nextDataEndpoint (.data d)).map (departing d) := by
  have hhop := nextDataEndpoint_lookupPacket s (clock.later 1) dst payload route
  rw [handsOver_of_route hroute, call_of_route hroute, List.filterMap_cons, hhop]
  cases hfirst : s.firstHop route with
  | some endpoint =>
    rw [originData_of_hop hfirst]
    rfl
  | none =>
    rw [originData_of_noHop hfirst]
    rfl

/-- An accepted RREP sends nothing but what it hands over. -/
theorem accepted_originates {p : Rrep} {sender : SocketAddr}
    (hok : s.validateRrep sender p.tracePath = .ok ()) (hsrc : s.config.nodeId = p.srcNodeId) :
    (s.call clock (.packet (.rrep p) sender)).2.outbound.filter isData =
      (s.handsOver clock (.packet (.rrep p) sender)).filterMap fun d =>
        (s.nextDataEndpoint (.data d)).map (departing d) := by
  have hhanded : s.handsOver clock (.packet (.rrep p) sender) =
      s.handOver (clock.later 1) p.dstNodeId (s.routeOf clock p) s.pendingData :=
    if_pos ⟨hok, hsrc⟩
  rw [hhanded, call_of_accepted hok hsrc, acceptRrep_originates]
  refine List.filter_eq_self.mpr fun o ho => ?_
  obtain ⟨d, -, hd⟩ := List.mem_filterMap.mp ho
  obtain ⟨endpoint, -, rfl⟩ := Option.map_eq_some_iff.mp hd
  rfl

/-- A call that hands nothing over originates no DATA. -/
theorem originates_nothing {input : Input}
    (hforward : ∀ d sender, input ≠ .packet (.data d) sender)
    (hcommand : ∀ dst payload, input = .command (.discoverAndSend dst payload) →
      s.routes.shortest dst (clock 0) = none)
    (hrrep : ∀ p sender, input = .packet (.rrep p) sender →
      ¬ (s.validateRrep sender p.tracePath = .ok () ∧ s.config.nodeId = p.srcNodeId)) :
    (s.call clock input).2.outbound.filter isData =
      (s.handsOver clock input).filterMap fun d =>
        (s.nextDataEndpoint (.data d)).map (departing d) := by
  have hhanded : s.handsOver clock input = [] := by
    unfold handsOver
    split
    · next dst payload => rw [hcommand dst payload rfl]
    · next p sender => exact if_neg (hrrep p sender rfl)
    · rfl
  rw [hhanded, List.filterMap_nil, List.filter_eq_nil_iff]
  intro o ho hdata
  obtain ⟨d, hd⟩ := isData_iff.mp hdata
  rcases (emits_of_mem ho).of_data hd with ⟨dst, payload, route, rfl, hroute, -⟩ |
    ⟨p, sender, payload, rfl, hok, hsrc, -⟩ | ⟨d, sender, rfl, -⟩
  · rw [hcommand dst payload rfl] at hroute
    cases hroute
  · exact hrrep p sender rfl ⟨hok, hsrc⟩
  · exact hforward d sender rfl

/-- **What is handed over is what is sent**: the DATA packets that a call originates are
the ones it hands to `origin_data`, in the same order, without those whose first hop does
not resolve. -/
theorem call_originates {input : Input}
    (hforward : ∀ d sender, input ≠ .packet (.data d) sender) :
    (s.call clock input).2.outbound.filter isData =
      (s.handsOver clock input).filterMap fun d =>
        (s.nextDataEndpoint (.data d)).map (departing d) := by
  by_cases hcommand : ∃ dst payload route, input = .command (.discoverAndSend dst payload) ∧
      s.routes.shortest dst (clock 0) = some route
  · obtain ⟨dst, payload, route, rfl, hroute⟩ := hcommand
    exact command_originates hroute
  by_cases hrrep : ∃ p sender, input = .packet (.rrep p) sender ∧
      s.validateRrep sender p.tracePath = .ok () ∧ s.config.nodeId = p.srcNodeId
  · obtain ⟨p, sender, rfl, hok, hsrc⟩ := hrrep
    exact accepted_originates hok hsrc
  refine originates_nothing hforward (fun dst payload hinput => ?_) fun p sender hinput haccept => ?_
  · exact Option.eq_none_iff_forall_ne_some.mpr fun route hroute =>
      hcommand ⟨dst, payload, route, hinput, hroute⟩
  · exact hrrep ⟨p, sender, hinput, haccept⟩

/-! ## Ticks -/

/-- A tick discards the payloads of some destinations, and keeps the rest as it was. -/
theorem call_tick_pendingData (s : ProtocolState) (clock : Clock) (now : Nat) :
    ∃ keep : NodeId → Bool, (s.call clock (.tick now)).1.pendingData =
      s.pendingData.filter fun q => keep q.dstNodeId := by
  refine handleTick_induction (P := fun t => ∃ keep : NodeId → Bool,
    t.pendingData = s.pendingData.filter fun q => keep q.dstNodeId) ?_ ?_ (fun _ _ _ _ h => h)
  · exact ⟨fun _ => true, (List.filter_eq_self.mpr fun _ _ => rfl).symm⟩
  · rintro t dst state ⟨keep, hkeep⟩
    refine ⟨fun d => d != dst && keep d, ?_⟩
    show t.pendingData.filter (fun q => q.dstNodeId != dst) = _
    rw [hkeep, List.filter_filter]

theorem call_tick_nextSequence (s : ProtocolState) (clock : Clock) (now : Nat) :
    (s.call clock (.tick now)).1.nextSequence = s.nextSequence :=
  call_tick_induction (P := fun t => t.nextSequence = s.nextSequence) rfl fun _ _ _ _ _ _ h => h

/-- A packet that is no accepted RREP leaves queue, routes and counter alone. -/
theorem handlePacket_same (clock : Clock) {packet : Packet} {sender : SocketAddr}
    (h : ∀ p, packet = .rrep p →
      ¬ (s.validateRrep sender p.tracePath = .ok () ∧ s.config.nodeId = p.srcNodeId)) :
    (s.handlePacket clock packet sender).1.pendingData = s.pendingData ∧
      (s.handlePacket clock packet sender).1.routes = s.routes ∧
      (s.handlePacket clock packet sender).1.nextSequence = s.nextSequence := by
  have heff := handlePacket_effect s clock packet sender
  generalize (s.handlePacket clock packet sender).1 = s' at heff ⊢
  cases heff with
  | rrep p _ hok hsrc => exact absurd ⟨hok, hsrc⟩ (h p rfl)
  | _ => exact ⟨rfl, rfl, rfl⟩

end ProtocolState

open ProtocolState

/-! ## The journal -/

/-- A node, the payloads submitted to it (the ticket of a payload is its position among
them), the tickets of the payloads in `pending_data`, in its order, and the packets
handed to `origin_data`, in their order, with their tickets. -/
structure Journal where
  state : ProtocolState
  submissions : List PendingData := []
  waiting : List (Nat × PendingData) := []
  handed : List (Nat × Data) := []

namespace Journal

variable {j : Journal} {clock : Clock} {now : Nat}

/-- One call. A command hands its payload over or adds it to the queue; an accepted RREP
hands over what waits for its destination; a tick leaves the tickets whose destination
still has payloads in the queue. -/
def serve (j : Journal) (clock : Clock) (input : Input) : Journal :=
  let after := (j.state.call clock input).1
  let handed := j.state.handsOver clock input
  match input with
  | .command (.discoverAndSend dst payload) =>
    let ticket := j.submissions.length
    { state := after
      submissions := j.submissions ++ [⟨dst, payload⟩]
      waiting := if handed = [] then j.waiting ++ [(ticket, ⟨dst, payload⟩)] else j.waiting
      handed := j.handed ++ handed.map fun d => (ticket, d) }
  | .packet (.rrep p) sender =>
    if j.state.validateRrep sender p.tracePath = .ok () ∧
        j.state.config.nodeId = p.srcNodeId then
      let flushed := j.waiting.filter fun x => x.2.dstNodeId == p.dstNodeId
      { state := after
        submissions := j.submissions
        waiting := j.waiting.filter fun x => x.2.dstNodeId != p.dstNodeId
        handed := j.handed ++ (flushed.map Prod.fst).zip handed }
    else { j with state := after }
  | .tick _ =>
    { j with
      state := after
      waiting := j.waiting.filter fun x =>
        after.pendingData.any fun q => q.dstNodeId == x.2.dstNodeId }
  | _ => { j with state := after }

/-- The journals of one node, and the clock reading that the last call began with. The
calls are arbitrary; what is used of a clock that never goes back is that no call begins
at an earlier time than the one before. -/
inductive Journaled (config : NodeConfig) : Nat → Journal → Prop where
  | new : Journaled config 0 { state := .new config }
  | serve {now : Nat} {j : Journal} (h : Journaled config now j) (clock : Clock) (input : Input)
      (hclock : now ≤ clock 0) : Journaled config (clock 0) (j.serve clock input)
  | reorder {now : Nat} {j : Journal} {s : ProtocolState} (h : Journaled config now j)
      (hs : j.state.Reorder s) : Journaled config now { j with state := s }

/-- **Payloads to one destination leave in the order of their submission.** -/
structure InOrder (j : Journal) : Prop where
  /-- The tickets of `pending_data` are those of its payloads, and increase. -/
  queue : j.waiting.map Prod.snd = j.state.pendingData
  queued : ∀ x ∈ j.waiting, j.submissions[x.1]? = some x.2
  increasing : j.waiting.Pairwise fun x y => x.1 < y.1
  /-- What was handed over was submitted under its ticket, and is gone from the queue. -/
  submitted : ∀ x ∈ j.handed, j.submissions[x.1]? = some ⟨x.2.dstNodeId, x.2.payload⟩
  once : (j.handed.map Prod.fst).Nodup
  gone : ∀ x ∈ j.handed, ∀ y ∈ j.waiting, x.1 ≠ y.1
  /-- Of two payloads for one destination, the earlier one gets the smaller number. -/
  sequences : ∀ x ∈ j.handed, ∀ y ∈ j.handed, x.2.dstNodeId = y.2.dstNodeId → x.1 < y.1 →
    x.2.sequence < y.2.sequence
  /-- What was handed over has overtaken nothing that still waits. -/
  notOvertaken : ∀ x ∈ j.handed, ∀ y ∈ j.waiting, x.2.dstNodeId = y.2.dstNodeId → x.1 < y.1

/-! ## The journal as tickets -/

/-- The journal without the node. -/
def tickets (j : Journal) : Tickets PendingData :=
  { submissions := j.submissions
    waiting := j.waiting
    served := j.handed.map fun x => (x.1, ⟨x.2.dstNodeId, x.2.payload⟩) }

/-- What holds of every journal whose clock has reached `now`. -/
structure Orderly (now : Nat) (j : Journal) : Prop where
  queue : j.waiting.map Prod.snd = j.state.pendingData
  stale : ∀ q ∈ j.state.pendingData, ∀ route ∈ j.state.routes.held q.dstNodeId,
    route.expiresAtMillis < now
  inTurn : j.tickets.InTurn PendingData.dstNodeId
  numbered : j.handed.map (fun x => x.2.sequence) = List.range' 1 j.handed.length
  next : j.state.nextSequence = j.handed.length + 1

theorem orderly_new (config : NodeConfig) : Orderly 0 { state := .new config } where
  queue := rfl
  stale _ h := absurd h List.not_mem_nil
  inTurn := Tickets.inTurn_empty _
  numbered := rfl
  next := rfl

/-- Where there is a live route, nothing waits. -/
theorem Orderly.none_waiting (h : j.Orderly now) (hclock : now ≤ clock 0) {dst : NodeId}
    {route : RouteEntry} (hroute : j.state.routes.shortest dst (clock 0) = some route) :
    ∀ x ∈ j.waiting, x.2.dstNodeId ≠ dst := by
  intro x hx heq
  obtain ⟨hheld, hlive⟩ := RouteCache.shortest_mem hroute
  have hmem : x.2 ∈ j.state.pendingData := by
    rw [← h.queue]
    exact List.mem_map_of_mem hx
  have hstale := h.stale x.2 hmem route (by rwa [heq])
  omega

/-- The numbers go on where they stopped. -/
theorem numbered_append {handed new : List (Nat × Data)} {next : Nat}
    (hold : handed.map (fun x => x.2.sequence) = List.range' 1 handed.length)
    (hnext : next = handed.length + 1)
    (hnew : new.map (fun x => x.2.sequence) = List.range' next new.length) :
    (handed ++ new).map (fun x => x.2.sequence) = List.range' 1 (handed ++ new).length := by
  rw [List.map_append, hold, hnew, hnext, List.length_append, Nat.add_comm handed.length 1]
  exact List.range'_append_1

/-- A call that leaves queue, routes, counter and tickets alone. -/
theorem Orderly.same (h : j.Orderly now) (hclock : now ≤ clock 0) {s : ProtocolState}
    (hpending : s.pendingData = j.state.pendingData) (hroutes : s.routes = j.state.routes)
    (hnext : s.nextSequence = j.state.nextSequence) :
    Orderly (clock 0) { j with state := s } := by
  refine ⟨h.queue.trans hpending.symm, ?_, h.inTurn, h.numbered, hnext.trans h.next⟩
  intro q hq route hroute
  rw [hpending] at hq
  rw [hroutes] at hroute
  exact Nat.lt_of_lt_of_le (h.stale q hq route hroute) hclock

theorem serve_direct {dst : NodeId} {payload : List UInt8} {route : RouteEntry}
    (h : j.Orderly now) (hclock : now ≤ clock 0)
    (hroute : j.state.routes.shortest dst (clock 0) = some route) :
    Orderly (clock 0) (j.serve clock (.command (.discoverAndSend dst payload))) := by
  obtain ⟨m, hstate⟩ := originData_state j.state (clock.later 1) dst payload route
  simp only [serve, handsOver_of_route hroute, call_of_route hroute, hstate]
  refine ⟨h.queue, ?_, ?_, ?_, ?_⟩
  · intro q hq r hr
    exact Nat.lt_of_lt_of_le (h.stale q hq r hr) hclock
  · have hserve := h.inTurn.serve (a := ⟨dst, payload⟩) (h.none_waiting hclock hroute)
    unfold tickets
    simp only [List.map_append]
    exact hserve
  · exact numbered_append h.numbered h.next rfl
  · simp [h.next]

theorem serve_queued {dst : NodeId} {payload : List UInt8} (h : j.Orderly now)
    (hclock : now ≤ clock 0) (hroute : j.state.routes.shortest dst (clock 0) = none) :
    Orderly (clock 0) (j.serve clock (.command (.discoverAndSend dst payload))) := by
  have hhanded : j.state.handsOver clock (.command (.discoverAndSend dst payload)) = [] := by
    simp only [handsOver, hroute]
  have hcall : ∃ seen discoveries metrics id,
      (j.state.call clock (.command (.discoverAndSend dst payload))).1 =
        { j.state with
          pendingData := j.state.pendingData ++ [⟨dst, payload⟩], seenRequests := seen,
          discoveries := discoveries, metrics := metrics, nextRequestId := id } := by
    show ∃ seen discoveries metrics id, (j.state.discoverAndSend clock dst payload).1 = _
    rcases discoverAndSend_cases j.state clock dst payload with
      ⟨route, hsome, -⟩ | ⟨-, -, heq⟩ | ⟨-, -, heq⟩
    · rw [hroute] at hsome
      cases hsome
    · exact ⟨_, _, _, _, by rw [heq]⟩
    · exact ⟨_, _, _, _, by rw [heq]; rfl⟩
  obtain ⟨seen, discoveries, metrics, id, hstate⟩ := hcall
  simp only [serve, hhanded, hstate, if_true, List.map_nil, List.append_nil]
  refine ⟨?_, ?_, h.inTurn.wait ⟨dst, payload⟩, h.numbered, h.next⟩
  · rw [List.map_append, h.queue]
    rfl
  · intro q hq r hr
    rcases List.mem_append.mp hq with hq | hq
    · exact Nat.lt_of_lt_of_le (h.stale q hq r hr) hclock
    · -- What is queued now found no live route.
      rw [List.mem_singleton.mp hq] at hr
      exact RouteCache.expired_of_shortest hroute r hr

/-- Tickets zipped with the packets of their payloads. -/
theorem zip_tickets {flushed : List (Nat × PendingData)} {data : List Data}
    (hdata : data.map (fun d => (⟨d.dstNodeId, d.payload⟩ : PendingData)) =
      flushed.map Prod.snd) :
    ((flushed.map Prod.fst).zip data).map
        (fun x => (x.1, (⟨x.2.dstNodeId, x.2.payload⟩ : PendingData))) = flushed ∧
      ((flushed.map Prod.fst).zip data).map Prod.snd = data := by
  have hlength : data.length = flushed.length := by
    have := congrArg List.length hdata
    simpa using this
  constructor
  · calc ((flushed.map Prod.fst).zip data).map _
        = (flushed.map Prod.fst).zip (data.map fun d => ⟨d.dstNodeId, d.payload⟩) :=
          List.zip_map_right.symm
      _ = (flushed.map Prod.fst).zip (flushed.map Prod.snd) := by rw [hdata]
      _ = flushed := (List.zip_of_prod rfl rfl).symm
  · exact List.map_snd_zip (by simp [hlength])

theorem serve_accepted {p : Rrep} {sender : SocketAddr} (h : j.Orderly now)
    (hclock : now ≤ clock 0)
    (haccept : j.state.validateRrep sender p.tracePath = .ok () ∧
      j.state.config.nodeId = p.srcNodeId) :
    Orderly (clock 0) (j.serve clock (.packet (.rrep p) sender)) := by
  let data := j.state.handOver (clock.later 1) p.dstNodeId (j.state.routeOf clock p)
    j.state.pendingData
  let flushed := j.waiting.filter fun x => x.2.dstNodeId == p.dstNodeId
  have hserve : j.serve clock (.packet (.rrep p) sender) =
      { state := (j.state.acceptRrep clock p).1
        submissions := j.submissions
        waiting := j.waiting.filter fun x => x.2.dstNodeId != p.dstNodeId
        handed := j.handed ++ (flushed.map Prod.fst).zip data } := by
    simp only [serve, handsOver, if_pos haccept, call_of_accepted haccept.1 haccept.2]
    rfl
  -- There is one packet for each ticket that is flushed.
  have hflushed : flushed.map Prod.snd =
      j.state.pendingData.filter fun q => q.dstNodeId == p.dstNodeId := by
    rw [← h.queue, List.filter_map]
    rfl
  have hdata : data.map (fun d => (⟨d.dstNodeId, d.payload⟩ : PendingData)) =
      flushed.map Prod.snd :=
    (handOver_pending _ _ _ _ _).trans hflushed.symm
  obtain ⟨hzip, hsnd⟩ := zip_tickets hdata
  have hcount : ((flushed.map Prod.fst).zip data).length =
      j.state.pendingData.countP fun q => q.dstNodeId == p.dstNodeId := by
    rw [← List.length_map (f := Prod.snd), hsnd, length_handOver]
  obtain ⟨n, m, hstate⟩ := acceptRrep_state j.state clock p
  have hnext := nextSequence_acceptRrep j.state clock p
  rw [hserve]
  refine ⟨?_, ?_, ?_, ?_, ?_⟩
  · rw [hstate]
    show (j.waiting.filter _).map Prod.snd = j.state.pendingData.filter _
    rw [← h.queue, List.filter_map]
    rfl
  · intro q hq r hr
    rw [hstate] at hq hr
    obtain ⟨hq, hother⟩ := List.mem_filter.mp hq
    -- The new route is for another destination.
    rw [RouteCache.held_insert, if_neg (by simpa using hother)] at hr
    exact Nat.lt_of_lt_of_le (h.stale q hq r hr) hclock
  · have hrelease := h.inTurn.release p.dstNodeId
    unfold tickets
    simp only [List.map_append, hzip]
    exact hrelease
  · refine numbered_append h.numbered h.next ?_
    have hnumbers : ((flushed.map Prod.fst).zip data).map (fun x => x.2.sequence) =
        (((flushed.map Prod.fst).zip data).map Prod.snd).map Data.sequence := by
      rw [List.map_map]
      rfl
    rw [hnumbers, hsnd, handOver_sequences, hcount]
  · rw [hnext, h.next, List.length_append, hcount]
    omega

theorem serve_tick (h : j.Orderly now) (hclock : now ≤ clock 0) (t : Nat) :
    Orderly (clock 0) (j.serve clock (.tick t)) := by
  obtain ⟨keep, hkeep⟩ := call_tick_pendingData j.state clock t
  have hroutes : (j.state.call clock (.tick t)).1.routes = j.state.routes :=
    call_tick_induction (P := fun s => s.routes = j.state.routes) rfl fun _ _ _ _ _ _ h => h
  -- A ticket stays if its destination is kept.
  have hwaiting : (j.waiting.filter fun x =>
        (j.state.call clock (.tick t)).1.pendingData.any fun q => q.dstNodeId == x.2.dstNodeId) =
      j.waiting.filter fun x => keep x.2.dstNodeId := by
    refine List.filter_congr fun x hx => ?_
    have hmem : x.2 ∈ j.state.pendingData := by
      rw [← h.queue]
      exact List.mem_map_of_mem hx
    rw [hkeep, Bool.eq_iff_iff, List.any_eq_true]
    constructor
    · rintro ⟨q, hq, heq⟩
      rw [← eq_of_beq heq]
      exact (List.mem_filter.mp hq).2
    · intro hk
      exact ⟨x.2, List.mem_filter.mpr ⟨hmem, hk⟩, beq_self_eq_true _⟩
  simp only [serve, hwaiting]
  refine ⟨?_, ?_, h.inTurn.retain fun q => keep q.dstNodeId, h.numbered, ?_⟩
  · rw [hkeep, ← h.queue, List.filter_map]
    rfl
  · intro q hq r hr
    rw [hkeep] at hq
    rw [hroutes] at hr
    exact Nat.lt_of_lt_of_le (h.stale q (List.mem_of_mem_filter hq) r hr) hclock
  · exact (call_tick_nextSequence j.state clock t).trans h.next

theorem serve_other {packet : Packet} {sender : SocketAddr} (h : j.Orderly now)
    (hclock : now ≤ clock 0)
    (hother : ∀ p, packet = .rrep p → ¬ (j.state.validateRrep sender p.tracePath = .ok () ∧
      j.state.config.nodeId = p.srcNodeId)) :
    Orderly (clock 0) (j.serve clock (.packet packet sender)) := by
  have hserve : j.serve clock (.packet packet sender) =
      { j with state := (j.state.call clock (.packet packet sender)).1 } := by
    cases packet with
    | rrep p => exact if_neg (hother p rfl)
    | _ => rfl
  obtain ⟨hpending, hroutes, hnext⟩ := handlePacket_same clock hother
  rw [hserve]
  exact h.same hclock hpending hroutes hnext

/-- The step. -/
theorem Orderly.serve (h : j.Orderly now) (hclock : now ≤ clock 0) (input : Input) :
    Orderly (clock 0) (j.serve clock input) := by
  cases input with
  | command c =>
    obtain ⟨dst, payload⟩ := c
    cases hroute : j.state.routes.shortest dst (clock 0) with
    | some route => exact serve_direct h hclock hroute
    | none => exact serve_queued h hclock hroute
  | tick t => exact serve_tick h hclock t
  | hello => exact h.same hclock rfl rfl rfl
  | packet packet sender =>
    by_cases haccept : ∃ p, packet = .rrep p ∧
        j.state.validateRrep sender p.tracePath = .ok () ∧ j.state.config.nodeId = p.srcNodeId
    · obtain ⟨p, rfl, haccept⟩ := haccept
      exact serve_accepted h hclock haccept
    · exact serve_other h hclock fun p hp h => haccept ⟨p, hp, h⟩

/-- Another iteration order changes neither the queue nor what routes are held. -/
theorem Orderly.reorder (h : j.Orderly now) {s : ProtocolState} (hs : j.state.Reorder s) :
    Orderly now { j with state := s } := by
  refine ⟨h.queue.trans hs.pendingData.symm, ?_, h.inTurn, h.numbered,
    hs.nextSequence.trans h.next⟩
  intro q hq route hroute
  rw [hs.pendingData] at hq
  rw [hs.held_eq] at hroute
  exact h.stale q hq route hroute

/-- The run. -/
theorem Journaled.orderly {config : NodeConfig} (h : Journaled config now j) :
    j.Orderly now := by
  induction h with
  | new => exact orderly_new config
  | serve _ clock input hclock ih => exact ih.serve hclock input
  | reorder _ hs ih => exact ih.reorder hs

/-- What comes later in a list that is numbered consecutively has the larger number. -/
theorem sequence_lt_of_ticket_lt {handed : List (Nat × Data)}
    (hnumbered : handed.map (fun x => x.2.sequence) = List.range' 1 handed.length)
    (hsorted : handed.Pairwise fun x y => x.2.dstNodeId = y.2.dstNodeId → x.1 < y.1)
    {x y : Nat × Data} (hx : x ∈ handed) (hy : y ∈ handed)
    (hdst : x.2.dstNodeId = y.2.dstNodeId) (hlt : x.1 < y.1) : x.2.sequence < y.2.sequence := by
  have hnumber : ∀ (i : Nat) (hi : i < handed.length), handed[i].2.sequence = 1 + i := by
    intro i hi
    have := congrArg (fun l => l[i]?) hnumbered
    simpa [hi] using this
  obtain ⟨i, hi, rfl⟩ := List.getElem_of_mem hx
  obtain ⟨k, hk, rfl⟩ := List.getElem_of_mem hy
  rw [hnumber i hi, hnumber k hk]
  rcases Nat.lt_trichotomy i k with hik | rfl | hki
  · omega
  · omega
  · have := List.pairwise_iff_getElem.mp hsorted k i hk hi hki hdst.symm
    omega

/-- **In every run of a node whose clock does not go back, the payloads for each
destination leave in the order of their submission**, whatever the node is called with. -/
theorem Journaled.inOrder {config : NodeConfig} (h : Journaled config now j) : j.InOrder := by
  have ho := h.orderly
  have hsorted : j.handed.Pairwise fun x y => x.2.dstNodeId = y.2.dstNodeId → x.1 < y.1 :=
    List.pairwise_map.mp ho.inTurn.served_sorted
  have hserved : ∀ x ∈ j.handed, (x.1, ⟨x.2.dstNodeId, x.2.payload⟩) ∈ j.tickets.served :=
    fun x hx => List.mem_map_of_mem (f := fun x : Nat × Data =>
      (x.1, (⟨x.2.dstNodeId, x.2.payload⟩ : PendingData))) hx
  have hnodup := ho.inTurn.served_nodup
  rw [tickets, List.map_map] at hnodup
  exact
    { queue := ho.queue
      queued := ho.inTurn.waiting_submitted
      increasing := ho.inTurn.waiting_sorted
      submitted := fun x hx => ho.inTurn.served_submitted _ (hserved x hx)
      once := hnodup
      gone := fun x hx y hy => ho.inTurn.waiting_not_served (hserved x hx) hy
      sequences := fun x hx y hy => sequence_lt_of_ticket_lt ho.numbered hsorted hx hy
      notOvertaken := fun x hx y hy => ho.inTurn.not_overtaken _ (hserved x hx) y hy }

/-- The reply of node 1 to its only neighbour, node 0. -/
def promptRrep : Rrep :=
  { srcNodeId := 0, dstNodeId := 1, requestId := 1, dsrPath := [0, 1], dldsrLabelPath := [],
    tracePath := [0, 1], createdAtMillis := 10 }

/-- Two payloads wait for one reply, and leave when it comes. -/
def twoQueued : Journal :=
  ((Journal.serve { state := .new pairSettings } (fun _ => 10)
    (.command (.discoverAndSend 1 [7]))).serve (fun _ => 10)
    (.command (.discoverAndSend 1 [8]))).serve (fun _ => 10)
    (.packet (.rrep promptRrep) (.localhost 7001))

/-- They get the numbers 1 and 2. -/
theorem inOrder_twoQueued :
    twoQueued.handed.map (fun x => (x.1, x.2.sequence, x.2.payload)) =
        [(0, 1, [7]), (1, 2, [8])] ∧
      twoQueued.InOrder := by
  have hfirst : Journaled pairSettings 10 (Journal.serve { state := .new pairSettings }
      (fun _ => 10) (.command (.discoverAndSend 1 [7]))) :=
    .serve .new (fun _ => 10) _ (Nat.zero_le _)
  have hrun : Journaled pairSettings 10 twoQueued :=
    .serve (.serve hfirst (fun _ => 10) (.command (.discoverAndSend 1 [8])) (Nat.le_refl _))
      (fun _ => 10) (.packet (.rrep promptRrep) (.localhost 7001)) (Nat.le_refl _)
  exact ⟨by decide +kernel, hrun.inOrder⟩

end Journal

end DlDsr
