import DlDsr.Node.Origination

/-!
# What becomes of a received DATA or RREP packet

A DATA packet is delivered, sent on or dropped, and an RREP is consumed, relayed or
dropped; each of these leaves a trace in the counters and in what the call hands back
(`Accounted`). Two lookups have no `else` branch: the endpoint of the next node of a DSR
path, and the node before this one in the trace of an RREP or its endpoint. A packet
that comes to one of them in vain disappears (`Vanishes`), and only such a packet does
(`accounted_iff`).
-/

namespace DlDsr

/-- One of three, and only one. -/
def ExactlyOne (a b c : Prop) : Prop :=
  (a ∧ ¬ b ∧ ¬ c) ∨ (¬ a ∧ b ∧ ¬ c) ∨ (¬ a ∧ ¬ b ∧ c)

namespace ProtocolState

variable {s : ProtocolState} {clock : Clock} {sender : SocketAddr}
  {r : ProtocolState × ProtocolActions}

/-! ## The visible ways -/

/-- DATA was delivered. -/
structure Delivers (s : ProtocolState) (d : Data) (r : ProtocolState × ProtocolActions) :
    Prop where
  counted : r.1.metrics.dataDelivered = s.metrics.dataDelivered + 1
  event : r.2.events =
    [.dataDelivered s.config.nodeId d.srcNodeId d.dstNodeId d.sequence d.payload]
  silent : r.2.outbound = []

/-- DATA was sent on. -/
structure Forwards (s : ProtocolState) (d : Data) (r : ProtocolState × ProtocolActions) :
    Prop where
  counted : r.1.metrics.dataForwarded = s.metrics.dataForwarded + 1
  sent : ∃ endpoint,
    r.2.outbound = [⟨.data { d with routeCursor := d.routeCursor + 1 }, endpoint⟩]

/-- DATA was dropped. -/
structure Drops (s : ProtocolState) (d : Data) (r : ProtocolState × ProtocolActions) :
    Prop where
  counted : r.1.metrics.dataDropped = s.metrics.dataDropped + 1
  event : ∃ reason, .dataDropped s.config.nodeId d.dstNodeId reason ∈ r.2.events
  silent : r.2.outbound = []

/-- An RREP was consumed at its source. -/
structure Consumes (s : ProtocolState) (p : Rrep) (r : ProtocolState × ProtocolActions) :
    Prop where
  event : r.2.events = [.routeCached s.config.nodeId p.dstNodeId p.requestId]

/-- An RREP was relayed. -/
structure Relays (s : ProtocolState) (p : Rrep) (r : ProtocolState × ProtocolActions) :
    Prop where
  counted : r.1.metrics.rrepForwarded = s.metrics.rrepForwarded + 1
  sent : ∃ endpoint, r.2.outbound = [⟨.rrep p, endpoint⟩]

/-- An RREP was dropped. -/
structure Rejects (s : ProtocolState) (p : Rrep) (r : ProtocolState × ProtocolActions) :
    Prop where
  counted : r.1.metrics.rrepDroppedInvalid = s.metrics.rrepDroppedInvalid + 1
  event : ∃ reason, .routeError s.config.nodeId p.dstNodeId reason ∈ r.2.events
  silent : r.2.outbound = []

/-- The packet was disposed of in exactly one of the visible ways. -/
def Accounted (s : ProtocolState) (packet : Packet) (r : ProtocolState × ProtocolActions) :
    Prop :=
  match packet with
  | .data d => ExactlyOne (s.Delivers d r) (s.Forwards d r) (s.Drops d r)
  | .rrep p => ExactlyOne (s.Consumes p r) (s.Relays p r) (s.Rejects p r)
  | _ => True

/-! ## The lookups without an `else` branch -/

/-- A DATA packet in transit passes every check of the DSR arm, and the next node of its
path is a listed neighbour without an endpoint. -/
structure LosesData (s : ProtocolState) (sender : SocketAddr) (d : Data) : Prop where
  mode : ¬ (s.config.strictProtocolMode ∧ d.protocolMode ≠ s.config.protocolMode)
  from_neighbor : ∃ n, s.nodeIdByEndpoint sender = some n ∧ n ∈ s.logicalNeighbors
  in_transit : d.dstNodeId ≠ s.config.nodeId
  dsr : d.protocolMode = .dsr
  at_cursor : d.dsrPath[d.routeCursor]? = some s.config.nodeId
  no_endpoint : ∃ next, d.dsrPath[d.routeCursor + 1]? = some next ∧
    next ∈ s.logicalNeighbors ∧ s.endpoint next = none

/-- An RREP in transit passes every check, and there is no node before this one in its
trace, or it has no endpoint. -/
structure LosesRrep (s : ProtocolState) (sender : SocketAddr) (p : Rrep) : Prop where
  valid : s.validateRrep sender p.tracePath = .ok ()
  in_transit : s.config.nodeId ≠ p.srcNodeId
  no_endpoint : (previousInTrace p.tracePath s.config.nodeId).bind s.endpoint = none

/-- The packet disappears. -/
def Vanishes (s : ProtocolState) (sender : SocketAddr) : Packet → Prop
  | .data d => s.LosesData sender d
  | .rrep p => s.LosesRrep sender p
  | _ => False

/-! ## DATA -/

/-- The ends of `handle_data`. -/
inductive DataOutcome (s : ProtocolState) (clock : Clock) (sender : SocketAddr) (d : Data) :
    ProtocolState × ProtocolActions → Prop where
  | dropped (reason : String) : DataOutcome s clock sender d (s.dropData d.dstNodeId reason)
  | delivered (hdst : d.dstNodeId = s.config.nodeId) :
      DataOutcome s clock sender d
        ({ s with metrics := { s.metrics with
            deliveredPackets := s.metrics.deliveredPackets + 1
            dataDelivered := s.metrics.dataDelivered + 1
            latencySamplesMs := s.metrics.latencySamplesMs ++ [clock 0 - d.createdAtMillis] } },
         { events :=
            [.dataDelivered s.config.nodeId d.srcNodeId d.dstNodeId d.sequence d.payload] })
  | sentOn (endpoint : SocketAddr) : DataOutcome s clock sender d (s.sendOn d endpoint)
  | vanished (h : s.LosesData sender d) : DataOutcome s clock sender d (s, {})

theorem handleData_outcome (s : ProtocolState) (clock : Clock) (sender : SocketAddr) (d : Data) :
    DataOutcome s clock sender d (s.handleData clock sender d) := by
  unfold handleData
  split
  · exact .dropped _
  next hmode =>
  split
  · exact .dropped _
  next n hsender =>
  split
  · exact .dropped _
  next hneighbor =>
  split
  · next hdst =>
    unfold deliverData
    split
    · exact .dropped _
    · exact .delivered hdst
  next hdst =>
  split
  · next hdsr =>
    unfold forwardDsr
    split
    · exact .dropped _
    next hcursor =>
    split
    · exact .dropped _
    next next hnext =>
    split
    · exact .dropped _
    next hlisted =>
    split
    · exact .sentOn _
    · next hend =>
      refine .vanished ⟨hmode, ⟨n, hsender, ?_⟩, hdst, hdsr, ?_, next, hnext, ?_, hend⟩
      · simpa using hneighbor
      · simpa using hcursor
      · simpa using hlisted
  · unfold forwardDlDsr
    split
    · exact .dropped _
    split
    · exact .dropped _
    split
    · exact .dropped _
    · exact .sentOn _

theorem handleData_of_loses {d : Data} (h : s.LosesData sender d) :
    s.handleData clock sender d = (s, {}) := by
  obtain ⟨n, hsender, hneighbor⟩ := h.from_neighbor
  obtain ⟨next, hnext, hlisted, hend⟩ := h.no_endpoint
  unfold handleData
  rw [if_neg h.mode, hsender]
  dsimp only
  rw [isLogicalNeighbor_iff.mpr hneighbor, if_neg Bool.noConfusion, if_neg h.in_transit, h.dsr]
  show s.forwardDsr d = _
  unfold forwardDsr
  rw [if_neg (not_not.mpr h.at_cursor), hnext]
  dsimp only
  rw [isLogicalNeighbor_iff.mpr hlisted, if_neg Bool.noConfusion, hend]

/-- DATA is accounted for, unless it vanishes. -/
theorem handleData_accounted_iff (s : ProtocolState) (clock : Clock) (sender : SocketAddr)
    (d : Data) :
    s.Accounted (.data d) (s.handleData clock sender d) ↔ ¬ s.LosesData sender d := by
  constructor
  · -- A packet that vanishes moves no counter.
    intro haccounted hloses
    rw [handleData_of_loses hloses] at haccounted
    rcases haccounted with ⟨h, -⟩ | ⟨-, h, -⟩ | ⟨-, -, h⟩
    · exact absurd h.counted (Nat.ne_of_lt (Nat.lt_succ_self _))
    · exact absurd h.counted (Nat.ne_of_lt (Nat.lt_succ_self _))
    · exact absurd h.counted (Nat.ne_of_lt (Nat.lt_succ_self _))
  · intro hkept
    have hout := handleData_outcome s clock sender d
    generalize s.handleData clock sender d = r at hout ⊢
    cases hout with
    | dropped reason =>
      refine .inr (.inr ⟨fun h => ?_, fun h => ?_, ⟨rfl, ⟨reason, ?_⟩, rfl⟩⟩)
      · exact absurd h.counted (Nat.ne_of_lt (Nat.lt_succ_self _))
      · exact absurd h.counted (Nat.ne_of_lt (Nat.lt_succ_self _))
      · exact List.mem_cons_self
    | delivered =>
      refine .inl ⟨⟨rfl, rfl, rfl⟩, fun h => ?_, fun h => ?_⟩
      · exact absurd h.counted (Nat.ne_of_lt (Nat.lt_succ_self _))
      · exact absurd h.counted (Nat.ne_of_lt (Nat.lt_succ_self _))
    | sentOn endpoint =>
      refine .inr (.inl ⟨fun h => ?_, ⟨rfl, endpoint, rfl⟩, fun h => ?_⟩)
      · exact absurd h.counted (Nat.ne_of_lt (Nat.lt_succ_self _))
      · exact absurd h.counted (Nat.ne_of_lt (Nat.lt_succ_self _))
    | vanished h => exact absurd h hkept

/-! ## RREP -/

/-- The ends of `handle_rrep`. -/
inductive RrepOutcome (s : ProtocolState) (clock : Clock) (sender : SocketAddr) (p : Rrep) :
    ProtocolState × ProtocolActions → Prop where
  | rejected (reason : String) (h : s.validateRrep sender p.tracePath ≠ .ok ()) :
      RrepOutcome s clock sender p
        ({ s with metrics := { s.metrics with
            rrepDroppedInvalid := s.metrics.rrepDroppedInvalid + 1 } },
         { events := [.routeError s.config.nodeId p.dstNodeId reason] })
  | accepted (h : s.validateRrep sender p.tracePath = .ok ())
      (hsrc : s.config.nodeId = p.srcNodeId) :
      RrepOutcome s clock sender p (s.acceptRrep clock p)
  | relayed (endpoint : SocketAddr) (hsrc : s.config.nodeId ≠ p.srcNodeId) :
      RrepOutcome s clock sender p
        ({ s with metrics := { s.metrics with
            rrepForwarded := s.metrics.rrepForwarded + 1 } },
         { outbound := [⟨.rrep p, endpoint⟩] })
  | vanished (h : s.LosesRrep sender p) : RrepOutcome s clock sender p (s, {})

theorem handleRrep_outcome (s : ProtocolState) (clock : Clock) (sender : SocketAddr) (p : Rrep) :
    RrepOutcome s clock sender p (s.handleRrep clock sender p) := by
  unfold handleRrep
  split
  · next hbad => exact .rejected _ (by simp [hbad])
  next hok =>
  split
  · next hsrc => exact .accepted hok hsrc
  next hsrc =>
  unfold relayRrep
  split
  · exact .relayed _ hsrc
  · next hend => exact .vanished ⟨hok, hsrc, hend⟩

theorem handleRrep_of_loses {p : Rrep} (h : s.LosesRrep sender p) :
    s.handleRrep clock sender p = (s, {}) := by
  unfold handleRrep
  rw [h.valid]
  dsimp only
  rw [if_neg h.in_transit]
  unfold relayRrep
  rw [h.no_endpoint]

/-- An RREP is accounted for, unless it vanishes. -/
theorem handleRrep_accounted_iff (s : ProtocolState) (clock : Clock) (sender : SocketAddr)
    (p : Rrep) :
    s.Accounted (.rrep p) (s.handleRrep clock sender p) ↔ ¬ s.LosesRrep sender p := by
  constructor
  · intro haccounted hloses
    rw [handleRrep_of_loses hloses] at haccounted
    rcases haccounted with ⟨h, -⟩ | ⟨-, h, -⟩ | ⟨-, -, h⟩
    · cases h.event
    · exact absurd h.counted (Nat.ne_of_lt (Nat.lt_succ_self _))
    · exact absurd h.counted (Nat.ne_of_lt (Nat.lt_succ_self _))
  · intro hkept
    have hout := handleRrep_outcome s clock sender p
    generalize s.handleRrep clock sender p = r at hout ⊢
    cases hout with
    | rejected reason =>
      refine .inr (.inr ⟨fun h => ?_, fun h => ?_, ⟨rfl, ⟨reason, ?_⟩, rfl⟩⟩)
      · cases h.event
      · exact absurd h.counted (Nat.ne_of_lt (Nat.lt_succ_self _))
      · exact List.mem_cons_self
    | accepted =>
      -- Neither counter of the other two ways has moved.
      have hmetrics := acceptRrep_metrics s clock p
      refine .inl ⟨⟨rfl⟩, fun h => ?_, fun h => ?_⟩
      · have hcounted := h.counted
        rw [hmetrics] at hcounted
        exact absurd hcounted (Nat.ne_of_lt (Nat.lt_succ_self _))
      · have hcounted := h.counted
        rw [hmetrics] at hcounted
        exact absurd hcounted (Nat.ne_of_lt (Nat.lt_succ_self _))
    | relayed endpoint =>
      refine .inr (.inl ⟨fun h => ?_, ⟨rfl, endpoint, rfl⟩, fun h => ?_⟩)
      · cases h.event
      · exact absurd h.counted (Nat.ne_of_lt (Nat.lt_succ_self _))
    | vanished h => exact absurd h hkept

/-- **Which packets are accounted for**: for every state, every DATA or RREP packet and
every sender, all but those that vanish. -/
theorem accounted_iff (s : ProtocolState) (clock : Clock) (packet : Packet)
    (sender : SocketAddr) :
    s.Accounted packet (s.handlePacket clock packet sender) ↔ ¬ s.Vanishes sender packet := by
  cases packet with
  | data d => exact handleData_accounted_iff s clock sender d
  | rrep p => exact handleRrep_accounted_iff s clock sender p
  | _ => exact ⟨fun _ h => h, fun _ => trivial⟩

/-- Node 1 in the middle of a line of three. -/
def middleOfLineSettings : NodeConfig :=
  { NodeConfig.testSettings .dsr with
    nodeId := 1
    bindAddr := .localhost 7001
    topology := ⟨[⟨0, .localhost 7000, [1]⟩, ⟨1, .localhost 7001, [0, 2]⟩,
      ⟨2, .localhost 7002, [1]⟩]⟩ }

/-- An RREP for node 0 that comes back from node 2, and whose trace begins at node 1. -/
def truncatedRrep : Rrep :=
  { srcNodeId := 0, dstNodeId := 2, requestId := 1, dsrPath := [0, 1, 2], dldsrLabelPath := [],
    tracePath := [1, 2], createdAtMillis := 10 }

/-- Node 1 forgets it. -/
theorem relay_unaccounted :
    ¬ ∀ (config : NodeConfig) (s : ProtocolState), ReachableFrom config s →
      ∀ (clock : Clock) (packet : Packet) (sender : SocketAddr),
        s.Accounted packet (s.handlePacket clock packet sender) := by
  intro h
  have haccounted : (new middleOfLineSettings).Accounted (.rrep truncatedRrep)
      ((new middleOfLineSettings).handleRrep (fun _ => 10) (.localhost 7002) truncatedRrep) :=
    h middleOfLineSettings _ .new (fun _ => 10) (.rrep truncatedRrep) (.localhost 7002)
  refine (handleRrep_accounted_iff _ _ _ _).mp haccounted ⟨?_, ?_, ?_⟩
  · decide +kernel
  · decide
  · decide +kernel

end ProtocolState

end DlDsr
