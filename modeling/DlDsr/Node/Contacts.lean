import DlDsr.Node.Emissions

/-!
# Whom a node sends to

Most destinations come from the node's own neighbour list. Three do not: the RREP
that answers an RREQ goes to the node before this one in a trace that nobody has
checked; DATA over labels goes to the endpoint that the last HELLO came from; and
DATA over node ids goes, at its origin, to the second node of whatever path the
RREP carried. In a run that never takes these wrong turns (`Orderly`), every RREQ,
RREP and DATA packet goes to the topology endpoint of a logical neighbour
(`contacts_neighbor`).
-/

namespace DlDsr

namespace ProtocolState

variable {s : ProtocolState} {clock : Clock} {config : NodeConfig}

/-- `a` is the endpoint that the topology assigns to a logical neighbour. -/
def NeighborEndpoint (s : ProtocolState) (a : SocketAddr) : Prop :=
  ∃ v ∈ s.logicalNeighbors, s.endpoint v = some a

/-- The node resolves labels: it runs DL-DSR, or tolerates DATA of the other mode. -/
def UsesLabels (s : ProtocolState) : Prop :=
  s.config.protocolMode = .dlDsr ∨ s.config.strictProtocolMode = false

/-- The node answers `q`: it is the destination, the request is admitted and not in
the duplicate cache, and the label for the paths is known. -/
structure Answers (s : ProtocolState) (clock : Clock) (q : Rreq) : Prop where
  admits : s.Admits q
  destination : q.dstNodeId = s.config.nodeId
  new : (s.seenRequests.prune (clock 0) s.config.seenRequestTtlMs).seen.lookup
    (q.srcNodeId, q.requestId) = none
  label : s.config.protocolMode = .dlDsr →
    s.labels.labelAssignedByNeighbor q.previousHop ≠ none

/-- The input does not lead the node astray: a HELLO that gets a label comes from a
neighbour's endpoint, an RREQ that is answered came over a neighbour, and an RREP
that is accepted in DSR mode starts with a neighbour. -/
def Orderly (s : ProtocolState) (clock : Clock) : Input → Prop
  | .packet (.hello p) sender =>
    s.UsesLabels → p.srcNodeId ∈ s.logicalNeighbors →
      (s.neighbors.entries.lookup p.srcNodeId ≠ none ∨
        ∃ label ∈ NeighborTable.labelCandidates, s.neighbors.labelInUse label = false) →
      s.NeighborEndpoint sender
  | .packet (.rreq q) _ =>
    s.Answers clock q → ∀ prev,
      previousInTrace (pushIfNotLast q.tracePath s.config.nodeId) s.config.nodeId = some prev →
      prev ∈ s.logicalNeighbors ∨ s.endpoint prev = none
  | .packet (.rrep p) sender =>
    s.config.protocolMode = .dsr → s.config.nodeId = p.srcNodeId →
      s.validateRrep sender p.tracePath = .ok () →
      ∀ m, p.dsrPath[1]? = some m → m ∈ s.logicalNeighbors ∨ s.endpoint m = none
  | _ => True

/-- The states of runs all of whose inputs are orderly. -/
inductive OrderlyFrom (config : NodeConfig) : ProtocolState → Prop where
  | new : OrderlyFrom config (.new config)
  | call {s : ProtocolState} (clock : Clock) (input : Input) (h : OrderlyFrom config s)
      (hinput : s.Orderly clock input) : OrderlyFrom config (s.call clock input).1
  | reorder {s s' : ProtocolState} (h : OrderlyFrom config s) (hs : s.Reorder s') :
      OrderlyFrom config s'

/-- RREQ, RREP and DATA. -/
def Routed : Packet → Prop
  | .rreq _ => True
  | .rrep _ => True
  | .data _ => True
  | _ => False

/-- What an orderly run keeps true: the tables and routes lead to neighbours. -/
structure LeadsToNeighbors (s : ProtocolState) : Prop where
  table : s.UsesLabels → ∀ n entry, s.neighbors.entries.lookup n = some entry →
    s.NeighborEndpoint entry.endpoint
  routes : s.config.protocolMode = .dsr → ∀ d, ∀ route ∈ s.routes.held d,
    ∀ m, route.dsrPath[1]? = some m → m ∈ s.logicalNeighbors ∨ s.endpoint m = none

/-- Only the configuration, the table and the routes matter. -/
theorem LeadsToNeighbors.congr {s' : ProtocolState} (hs : s.LeadsToNeighbors)
    (h : SameTables s s') : s'.LeadsToNeighbors := by
  constructor
  · unfold UsesLabels NeighborEndpoint endpoint
    rw [logicalNeighbors_of_config h.config, h.config, h.neighbors]
    exact hs.table
  · unfold endpoint
    rw [logicalNeighbors_of_config h.config, h.config, h.routes]
    exact hs.routes

theorem areAdjacent_self_iff {n : NodeId} :
    s.areAdjacent s.config.nodeId n = true ↔ n ∈ s.logicalNeighbors := by
  unfold areAdjacent logicalNeighbors
  cases s.config.topology.node s.config.nodeId with
  | none => simp
  | some tn => simp

/-- The next hop of a route's origin is a neighbour. -/
theorem originatesData_neighbor {dst : NodeId} {payload : List UInt8} {route : RouteEntry}
    {o : OutboundPacket} (hs : s.LeadsToNeighbors)
    (hroute : s.config.protocolMode = .dsr → ∀ m, route.dsrPath[1]? = some m →
      m ∈ s.logicalNeighbors ∨ s.endpoint m = none)
    (h : s.OriginatesData dst payload route o) : s.NeighborEndpoint o.dst := by
  obtain ⟨d, -, -, -, -, hmode, hcursor, hpath, -, hend⟩ := h
  cases hd : d.protocolMode with
  | dsr =>
    simp only [nextDataEndpoint, hd, hcursor, hpath] at hend
    obtain ⟨m, hm, hend⟩ := Option.bind_eq_some_iff.mp hend
    rcases hroute (hmode.symm.trans hd) m hm with hneighbor | hnone
    · exact ⟨m, hneighbor, hend⟩
    · rw [hnone] at hend
      cases hend
  | dlDsr =>
    simp only [nextDataEndpoint, hd] at hend
    obtain ⟨label, -, hend⟩ := Option.bind_eq_some_iff.mp hend
    obtain ⟨entry, hentry, hend⟩ := Option.map_eq_some_iff.mp hend
    obtain ⟨n, hn, -⟩ := AList.lookup_of_find?_values hentry
    rw [← hend]
    exact hs.table (.inl (hmode.symm.trans hd)) n entry hn

/-- **One call.** With good tables and an orderly input, the packets go to
neighbours. -/
theorem call_contacts_neighbor {input : Input} {o : OutboundPacket} (hs : s.LeadsToNeighbors)
    (hinput : s.Orderly clock input) (ho : o ∈ (s.call clock input).2.outbound)
    (hrouted : Routed o.packet) : s.NeighborEndpoint o.dst := by
  cases emits_of_mem ho with
  | hello => cases hrouted
  | helloReply => cases hrouted
  | originate _ now dst id _ _ _ _ hflood =>
    obtain ⟨v, hv, hend, -⟩ := mem_floodRreq.mp hflood
    exact ⟨v, hv, hend⟩
  | forwardRreq q e sender _ ha hnew he hdst hcopy =>
    obtain ⟨v, hv, -, hend, -⟩ := mem_rreqCopies.mp hcopy
    exact ⟨v, hv, hend⟩
  | answerRreq q e sender dst prev ha hnew he hdst hprev hend =>
    obtain ⟨htrace, -⟩ := extendRreq_eq_some.mp he
    have hpath : e.tracePath = pushIfNotLast q.tracePath s.config.nodeId := by rw [htrace]
    have hanswers : s.Answers clock q := by
      refine ⟨ha, hdst.symm, Option.isNone_iff_eq_none.mp hnew, fun hmode hlabel => ?_⟩
      rw [extendRreq_eq_none.mpr ⟨hmode, hlabel⟩] at he
      cases he
    rw [hpath] at hprev
    rcases hinput hanswers prev hprev with hneighbor | hnone
    · exact ⟨prev, hneighbor, hend⟩
    · rw [hnone] at hend
      cases hend
  | relayRrep p sender dst prev hok hsrc hprev hend =>
    -- `validate_rrep` has checked the reverse next hop.
    obtain ⟨m, i, -, -, hfirst, -, -, hadj⟩ := validateRrep_ok_iff.mp hok
    obtain ⟨k, hk, hkprev⟩ := previousInTrace_eq_some.mp hprev
    obtain rfl : k + 1 = i := hk.unique hfirst
    exact ⟨prev, areAdjacent_self_iff.mp (hadj prev hkprev), hend⟩
  | sendData dst payload route _ hroute horigin =>
    refine originatesData_neighbor hs (fun hmode m hm => ?_) horigin
    exact hs.routes hmode dst route (RouteCache.shortest_mem hroute).1 m hm
  | flushData p sender payload _ hok hsrc hpending horigin =>
    refine originatesData_neighbor hs (fun hmode m hm => ?_) horigin
    rw [routeOf_dsrPath] at hm
    exact hinput hmode hsrc hok m hm
  | forwardData d sender dst n hmode hsender hneighbor hdst hfwd =>
    cases hfwd with
    | dsr next _ _ _ hnext hend => exact ⟨next, hnext, hend⟩
    | dlDsr label entry hd _ hentry _ hend =>
      obtain ⟨m, hm, -⟩ := AList.lookup_of_find?_values hentry
      -- A DSR node that is strict would have dropped the packet.
      have huses : s.UsesLabels := by
        cases hconfig : s.config.protocolMode with
        | dlDsr => exact .inl hconfig
        | dsr =>
          refine .inr (Bool.eq_false_iff.mpr fun hstrict => hmode ⟨hstrict, ?_⟩)
          rw [hd, hconfig]
          exact fun h => by cases h
      rw [← hend]
      exact hs.table huses m entry hm

/-- An orderly input keeps the tables and routes good. -/
theorem leadsToNeighbors_call {input : Input} (hs : s.LeadsToNeighbors)
    (hinput : s.Orderly clock input) : (s.call clock input).1.LeadsToNeighbors := by
  have heff := call_tableEffect s clock input
  generalize (s.call clock input).1 = s' at heff ⊢
  cases heff with
  | same h => exact hs.congr h
  | hello p sender hn =>
    refine ⟨fun huses n entry hentry => ?_, hs.routes⟩
    -- If there is a label, the entry gets the endpoint the HELLO came from.
    rcases NeighborTable.assignOrReuseLabel_cases s.neighbors p.srcNodeId sender (clock 0) with
      ⟨old, hold, -⟩ | ⟨label, hlabel, -, hfree, -⟩ | ⟨-, -, heq⟩
    · rcases NeighborTable.endpoint_of_assign hentry with ⟨-, hend⟩ | hkept
      · rw [hend]
        exact hinput huses hn (.inl (by rw [hold]; exact Option.some_ne_none old))
      · exact hs.table huses n entry hkept
    · rcases NeighborTable.endpoint_of_assign hentry with ⟨-, hend⟩ | hkept
      · rw [hend]
        exact hinput huses hn (.inr ⟨label, hlabel, hfree⟩)
      · exact hs.table huses n entry hkept
    · simp only [heq] at hentry
      exact hs.table huses n entry hentry
  | helloReply => exact ⟨hs.table, hs.routes⟩
  | rrep p sender hok hsrc h =>
    have hinserted :
        LeadsToNeighbors { s with routes := s.routes.insert (s.routeOf clock p) } := by
      refine ⟨hs.table, fun hmode d route hroute m hm => ?_⟩
      rw [RouteCache.held_insert] at hroute
      split at hroute
      · rcases List.mem_append.mp hroute with hold | hnew
        · exact hs.routes hmode d route hold m hm
        · rw [List.mem_singleton.mp hnew, routeOf_dsrPath] at hm
          exact hinput hmode hsrc hok m hm
      · exact hs.routes hmode d route hroute m hm
    exact hinserted.congr h

theorem OrderlyFrom.leadsToNeighbors (h : OrderlyFrom config s) : s.LeadsToNeighbors := by
  induction h with
  | new =>
    refine ⟨fun _ n entry hn => ?_, fun _ d route hroute => absurd hroute List.not_mem_nil⟩
    cases hn
  | call clock input _ hinput ih => exact leadsToNeighbors_call ih hinput
  | @reorder s s' _ hr ih =>
    constructor
    · unfold UsesLabels NeighborEndpoint endpoint
      rw [logicalNeighbors_of_config hr.config, hr.config]
      intro huses n entry hn
      rw [← hr.neighbors.lookup_eq n] at hn
      exact ih.table huses n entry hn
    · unfold endpoint
      rw [logicalNeighbors_of_config hr.config, hr.config]
      intro hmode d route hroute
      rw [hr.held_eq] at hroute
      exact ih.routes hmode d route hroute

/-- **A node only contacts its logical neighbours**, in every run all of whose inputs
are orderly. -/
theorem contacts_neighbor (h : OrderlyFrom config s) {input : Input}
    (hinput : s.Orderly clock input) :
    ∀ o ∈ (s.call clock input).2.outbound, Routed o.packet →
      ∃ v ∈ s.logicalNeighbors, s.endpoint v = some o.dst :=
  fun _ ho hrouted => call_contacts_neighbor h.leadsToNeighbors hinput ho hrouted

/-- Node 0 of three, which has node 1 as its only neighbour. -/
def endOfLineSettings : NodeConfig :=
  { NodeConfig.testSettings .dsr with
    topology := ⟨[⟨0, .localhost 7000, [1]⟩, ⟨1, .localhost 7001, [0, 2]⟩,
      ⟨2, .localhost 7002, [1]⟩]⟩ }

/-- Node 0 again, which also tolerates DATA of the other mode, so that its table of labels
counts. -/
def tolerantSettings : NodeConfig := { endOfLineSettings with strictProtocolMode := false }

/-- It gets a HELLO from node 1, answers a request of node 2, and is asked to send to
node 2. -/
def endOfLine : ProtocolState :=
  let s := new tolerantSettings
  let s := (s.call (fun _ => 10) (.packet (.hello ⟨1, 10⟩) (.localhost 7001))).1
  let s := (s.call (fun _ => 20) (.packet (.rreq
    { srcNodeId := 2, dstNodeId := 0, requestId := 1, previousHop := 1, hopCount := 1,
      dsrPath := [2, 1], dldsrLabelPath := [], tracePath := [2, 1], createdAtMillis := 10 })
    (.localhost 7001))).1
  (s.call (fun _ => 30) (.command (.discoverAndSend 2 [7]))).1

/-- The answer to its own request, from node 1. -/
def endOfLineRrep : Rrep :=
  { srcNodeId := 0, dstNodeId := 2, requestId := 1, dsrPath := [0, 1, 2], dldsrLabelPath := [],
    tracePath := [0, 1, 2], createdAtMillis := 30 }

/-- Every call has been orderly: the HELLO and the request came from the neighbour. -/
theorem endOfLine_orderly : OrderlyFrom tolerantSettings endOfLine := by
  have hneighbors : ∀ s : ProtocolState, s.config = (new tolerantSettings).config →
      (1 : NodeId) ∈ s.logicalNeighbors ∧ s.endpoint 1 = some (.localhost 7001) := by
    intro s hs
    rw [logicalNeighbors_of_config hs, endpoint, hs]
    decide +kernel
  refine .call _ _ (.call _ _ (.call _ _ .new ?_) ?_) trivial
  · intro _ _ _
    exact ⟨1, hneighbors _ rfl⟩
  · intro _ prev hprev
    obtain rfl : (1 : NodeId) = prev := by
      have hlast : previousInTrace (pushIfNotLast [2, 1] 0) 0 = some 1 := by decide
      exact Option.some.inj (hlast.symm.trans hprev)
    exact .inl (hneighbors _ (call_config ..)).1

/-- It accepts the answer, and the DATA for node 2 goes to node 1. -/
theorem contacts_neighbor_endOfLine :
    let answered := endOfLine.call (fun _ => 40) (.packet (.rrep endOfLineRrep) (.localhost 7001))
    (∀ o ∈ answered.2.outbound, Routed o.packet →
      ∃ v ∈ endOfLine.logicalNeighbors, endOfLine.endpoint v = some o.dst) ∧
    answered.2.outbound =
      [⟨.data
        { srcNodeId := 0, dstNodeId := 2, sequence := 1, protocolMode := .dsr, routeCursor := 1,
          dsrPath := [0, 1, 2], dldsrLabelPath := [], payload := [7], createdAtMillis := 40 },
        .localhost 7001⟩] := by
  refine ⟨contacts_neighbor endOfLine_orderly ?_, by decide +kernel⟩
  intro _ _ _ m hm
  obtain rfl : (1 : NodeId) = m := Option.some.inj hm
  exact .inl (by decide +kernel)

/-- The RREQ that leads node 0 astray: it asks for node 0, and its trace says that it
came from node 2. -/
def strayRreq : Rreq :=
  { srcNodeId := 2, dstNodeId := 0, requestId := 1, previousHop := 1, hopCount := 0,
    dsrPath := [2], dldsrLabelPath := [], tracePath := [2], createdAtMillis := 10 }

/-- Node 0 answers it at node 2's endpoint, which is not a neighbour's. -/
theorem contacts_stranger :
    ¬ ∀ (config : NodeConfig) (s : ProtocolState), ReachableFrom config s →
      ∀ (clock : Clock) (input : Input), ∀ o ∈ (s.call clock input).2.outbound,
        Routed o.packet → ∃ v ∈ s.logicalNeighbors, s.endpoint v = some o.dst := by
  intro h
  have hrrep : ⟨.rrep (generatedRrep { strayRreq with dsrPath := [2, 0], tracePath := [2, 0] }),
      .localhost 7002⟩ ∈ ((new endOfLineSettings).call (fun _ => 10)
        (.packet (.rreq strayRreq) (.localhost 7001))).2.outbound := by
    decide +kernel
  obtain ⟨v, hv, hend⟩ := h endOfLineSettings _ .new _ _ _ hrrep trivial
  have hneighbors : (new endOfLineSettings).logicalNeighbors = [1] := by decide +kernel
  rw [hneighbors, List.mem_singleton] at hv
  subst hv
  exact absurd hend (by decide +kernel)

end ProtocolState

end DlDsr
