import DlDsr.Node.Effects

/-!
# Packets from outside the neighbourhood

RREP and DATA are checked against the address they come from; HELLO, HELLO_REPLY
and RREQ are checked against the node id they *claim*. So a packet from an address
that is no logical neighbour's has no effect beyond counters and events exactly
when its claim is of no use (`outsider_ignored_iff`), and otherwise it gets a label,
a HELLO_REPLY, a place in the duplicate cache or a flood.
-/

namespace DlDsr

namespace ProtocolState

variable {s : ProtocolState} {clock : Clock}

/-- `sender` is not the topology endpoint of a logical neighbour. -/
def Outsider (s : ProtocolState) (sender : SocketAddr) : Prop :=
  ∀ tn ∈ s.config.topology.nodes, tn.nodeId ∈ s.logicalNeighbors → tn.endpoint ≠ sender

instance (s : ProtocolState) (sender : SocketAddr) : Decidable (s.Outsider sender) :=
  inferInstanceAs (Decidable (∀ tn ∈ s.config.topology.nodes,
    tn.nodeId ∈ s.logicalNeighbors → tn.endpoint ≠ sender))

/-- From `s` to `s'`, nothing but counters and events has changed, and nothing was
sent. -/
structure Ignored (s s' : ProtocolState) (actions : ProtocolActions) : Prop where
  outbound : actions.outbound = []
  neighbors : s'.neighbors.entries.SameMap s.neighbors.entries
  labels : s'.labels.entries.SameMap s.labels.entries
  routes : s'.routes.routes.SameMap s.routes.routes
  pendingData : s'.pendingData = s.pendingData
  discoveries : s'.discoveries.SameMap s.discoveries
  seenRequests : s'.seenRequests.seen.SameMap s.seenRequests.seen

/-- An admitted new RREQ makes the node send nothing: a label is missing, the
destination has nowhere to answer to, or there is nobody to forward to. -/
def SendsNothing (s : ProtocolState) (q : Rreq) : Prop :=
  (s.config.protocolMode = .dlDsr ∧ s.labels.labelAssignedByNeighbor q.previousHop = none) ∨
  if s.config.nodeId = q.dstNodeId then
    (previousInTrace (pushIfNotLast q.tracePath s.config.nodeId) s.config.nodeId).bind
      s.endpoint = none
  else ∀ v ∈ s.logicalNeighbors, v ≠ q.previousHop → s.endpoint v = none

/-- When a packet of an outsider has no effect. -/
def IgnoredWhen (s : ProtocolState) (clock : Clock) : Packet → Prop
  | .hello p =>
    p.srcNodeId ∉ s.logicalNeighbors ∨
      (s.neighbors.entries.lookup p.srcNodeId = none ∧
        ∀ label ∈ NeighborTable.labelCandidates, s.neighbors.labelInUse label = true)
  | .helloReply p =>
    p.dstNodeId ≠ s.config.nodeId ∨ p.srcNodeId ∉ s.logicalNeighbors ∨
      s.labels.entries.lookup p.srcNodeId =
        some ⟨p.srcNodeId, p.assignedLabel, p.timestampMillis⟩
  | .rreq q =>
    ¬ s.Admits q ∨
      (s.seenRequests.Unmoved (q.srcNodeId, q.requestId) (clock 0) s.config.seenRequestTtlMs
          s.config.seenRequestMaxEntries ∧
        (s.seenRequests.seen.lookup (q.srcNodeId, q.requestId) ≠ none ∨ s.SendsNothing q))
  | .rrep _ => True
  | .data _ => True
  | .ack _ => True
  | .error _ => True

/-- A state that differs in counters only. -/
theorem Ignored.of_metrics {m : NodeMetrics} {actions : ProtocolActions}
    (h : actions.outbound = []) : Ignored s { s with metrics := m } actions :=
  ⟨h, .refl _, .refl _, .refl _, rfl, .refl _, .refl _⟩

/-! ## RREP and DATA: the sender is checked -/

/-- The node an address is looked up to is no logical neighbour, if the address is
an outsider's. -/
theorem Outsider.not_neighbor {sender : SocketAddr} (h : s.Outsider sender) {m : NodeId}
    (hm : s.nodeIdByEndpoint sender = some m) : m ∉ s.logicalNeighbors := by
  obtain ⟨tn, hfind, rfl⟩ := Option.map_eq_some_iff.mp hm
  intro hmem
  refine h tn (List.mem_of_find?_eq_some hfind) hmem ?_
  simpa using List.find?_some hfind

theorem handleRrep_ignored {sender : SocketAddr} (h : s.Outsider sender) (p : Rrep) :
    Ignored s (s.handleRrep clock sender p).1 (s.handleRrep clock sender p).2 := by
  unfold handleRrep
  split
  · exact .of_metrics rfl
  next hok =>
  obtain ⟨m, i, hm, hneighbor, -⟩ := validateRrep_ok_iff.mp hok
  exact absurd hneighbor (h.not_neighbor hm)

theorem handleData_ignored {sender : SocketAddr} (h : s.Outsider sender) (d : Data) :
    Ignored s (s.handleData clock sender d).1 (s.handleData clock sender d).2 := by
  unfold handleData
  split
  · exact .of_metrics rfl
  split
  · exact .of_metrics rfl
  next m hm =>
  rw [if_pos (isLogicalNeighbor_eq_false_iff.mpr (h.not_neighbor hm))]
  exact .of_metrics rfl

/-! ## HELLO, HELLO_REPLY and RREQ: the claim is checked -/

theorem handleHello_ignored_iff (p : Hello) (sender : SocketAddr) :
    Ignored s (s.handleHello clock p sender).1 (s.handleHello clock p sender).2 ↔
      s.IgnoredWhen clock (.hello p) := by
  unfold handleHello
  by_cases hn : p.srcNodeId ∈ s.logicalNeighbors
  · rw [if_neg (by simpa using hn)]
    rcases NeighborTable.assignOrReuseLabel_cases s.neighbors p.srcNodeId sender (clock 0) with
      ⟨entry, hentry, heq⟩ | ⟨label, hlabel, -, hfree, heq⟩ | ⟨hnone, hexhausted, heq⟩
    · -- A known neighbour is answered.
      rw [heq]
      constructor
      · intro h
        exact absurd h.outbound (List.cons_ne_nil _ _)
      · rintro (hout | ⟨hnone, -⟩)
        · exact absurd hn hout
        · rw [hentry] at hnone
          cases hnone
    · -- So is a new one, if there is a free label.
      rw [heq]
      constructor
      · intro h
        exact absurd h.outbound (List.cons_ne_nil _ _)
      · rintro (hout | ⟨-, hall⟩)
        · exact absurd hn hout
        · rw [hall label hlabel] at hfree
          cases hfree
    · rw [heq]
      constructor
      · intro _
        refine .inr ⟨hnone, fun label hlabel => ?_⟩
        have := List.find?_eq_none.mp hexhausted label hlabel
        simpa using this
      · intro _
        exact ⟨rfl, .refl _, .refl _, .refl _, rfl, .refl _, .refl _⟩
  · rw [if_pos (by simpa using hn)]
    exact ⟨fun _ => .inl hn, fun _ => .of_metrics rfl⟩

theorem handleHelloReply_ignored_iff (p : HelloReply) :
    Ignored s (s.handleHelloReply p).1 (s.handleHelloReply p).2 ↔
      s.IgnoredWhen clock (.helloReply p) := by
  unfold handleHelloReply
  split
  · next h =>
    constructor
    · intro hignored
      refine .inr (.inr ?_)
      have hlookup := hignored.labels.lookup_eq p.srcNodeId
      unfold LabelTable.updateFromHelloReply at hlookup
      rw [AList.lookup_insert_eq, if_pos rfl] at hlookup
      exact hlookup.symm
    · rintro (hdst | hn | hsame)
      · exact absurd h.1 hdst
      · exact absurd (isLogicalNeighbor_iff.mp h.2) hn
      · refine ⟨rfl, .refl _, AList.sameMap_of_lookup fun k => ?_, .refl _, rfl, .refl _, .refl _⟩
        unfold LabelTable.updateFromHelloReply
        rw [AList.lookup_insert_eq]
        split
        · next hk => rw [hk, hsame]
        · rfl
  · next h =>
    refine ⟨fun _ => ?_, fun _ => .of_metrics rfl⟩
    by_cases hdst : p.dstNodeId = s.config.nodeId
    · refine .inr (.inl fun hn => h ⟨hdst, isLogicalNeighbor_iff.mpr hn⟩)
    · exact .inl hdst

/-- What an admitted new RREQ makes the node send. -/
theorem sendsNothing_iff {q : Rreq} (ha : s.Admits q) (hnew : (s.markRreq clock q).2 = true) :
    (s.handleRreq clock q).2.outbound = [] ↔ s.SendsNothing q := by
  have hout := handleRreq_outcome s clock q
  generalize s.handleRreq clock q = r at hout ⊢
  unfold SendsNothing
  cases hout with
  | refused m h => exact absurd ha h
  | duplicate _ hdup => rw [hnew] at hdup; cases hdup
  | noLabel _ _ hlabel => exact ⟨fun _ => .inl (extendRreq_eq_none.mp hlabel), fun _ => rfl⟩
  | answered e _ _ he hdst =>
    obtain ⟨htrace, -⟩ := extendRreq_eq_some.mp he
    have hlabel : ¬ (s.config.protocolMode = .dlDsr ∧
        s.labels.labelAssignedByNeighbor q.previousHop = none) := by
      rw [← extendRreq_eq_none, he]
      exact Option.some_ne_none e
    have hpath : e.tracePath = pushIfNotLast q.tracePath s.config.nodeId := by rw [htrace]
    rw [or_iff_right hlabel, if_pos hdst, ← hpath]
    rw [answerRreq_outbound]
    -- The answer is sent if the node before this one in the trace has an endpoint.
    show s.answers e = [] ↔ _
    rw [answers, List.map_eq_nil_iff, Option.toList_eq_nil_iff]
  | forwarded e _ _ he hdst =>
    obtain ⟨htrace, -⟩ := extendRreq_eq_some.mp he
    have hlabel : ¬ (s.config.protocolMode = .dlDsr ∧
        s.labels.labelAssignedByNeighbor q.previousHop = none) := by
      rw [← extendRreq_eq_none, he]
      exact Option.some_ne_none e
    have hprev : e.previousHop = q.previousHop := by rw [htrace]
    rw [or_iff_right hlabel, if_neg hdst]
    show s.rreqCopies e = [] ↔ _
    unfold rreqCopies
    rw [List.filterMap_eq_nil_iff, hprev]
    constructor
    · intro h v hv hne
      have := h v (List.mem_filter.mpr ⟨hv, by simpa using hne⟩)
      exact Option.map_eq_none_iff.mp this
    · intro h v hv
      obtain ⟨hv, hne⟩ := List.mem_filter.mp hv
      exact Option.map_eq_none_iff.mpr (h v hv (by simpa using hne))

theorem handleRreq_ignored_iff (q : Rreq) :
    Ignored s (s.handleRreq clock q).1 (s.handleRreq clock q).2 ↔
      s.IgnoredWhen clock (.rreq q) := by
  by_cases ha : s.Admits q
  · -- Of an admitted RREQ, the duplicate cache and the copies matter.
    have hstate : Ignored s (s.handleRreq clock q).1 (s.handleRreq clock q).2 ↔
        (s.markRreq clock q).1.seen.SameMap s.seenRequests.seen ∧
          (s.handleRreq clock q).2.outbound = [] := by
      rcases handleRreq_state s clock q with ⟨hna, -⟩ | ⟨-, m, hm⟩
      · exact absurd ha hna
      · constructor
        · intro h
          have hseen := h.seenRequests
          rw [hm] at hseen
          exact ⟨hseen, h.outbound⟩
        · rintro ⟨hseen, hnil⟩
          rw [hm]
          exact ⟨hnil, .refl _, .refl _, .refl _, rfl, .refl _, hseen⟩
    rw [hstate]
    unfold markRreq
    rw [SeenRequests.markIfNew_sameMap_iff]
    show _ ↔ ¬ s.Admits q ∨ _
    rw [or_iff_right (not_not.mpr ha)]
    refine and_congr_right fun hunmoved => ?_
    -- Nothing expires, so the request is new exactly when it is not in the cache.
    have hnew : (s.markRreq clock q).2 =
        (s.seenRequests.seen.lookup (q.srcNodeId, q.requestId)).isNone := by
      unfold markRreq SeenRequests.markIfNew
      rw [SeenRequests.prune_of_fresh hunmoved.fresh]
    cases hlookup : s.seenRequests.seen.lookup (q.srcNodeId, q.requestId) with
    | none =>
      rw [hlookup] at hnew
      rw [sendsNothing_iff ha hnew]
      exact ⟨.inr, fun h => h.resolve_left (fun hne => hne rfl)⟩
    | some t =>
      rw [hlookup] at hnew
      refine ⟨fun _ => .inl (Option.some_ne_none t), fun _ => ?_⟩
      have hout := handleRreq_outcome s clock q
      generalize s.handleRreq clock q = r at hout ⊢
      cases hout with
      | refused => rfl
      | duplicate => rfl
      | noLabel => rfl
      | answered e _ hnew' => rw [hnew] at hnew'; cases hnew'
      | forwarded e _ hnew' => rw [hnew] at hnew'; cases hnew'
  · rcases handleRreq_state s clock q with ⟨-, m, hm⟩ | ⟨ha', -⟩
    · refine ⟨fun _ => .inl ha, fun _ => ?_⟩
      have hout := handleRreq_outcome s clock q
      generalize s.handleRreq clock q = r at hout ⊢
      cases hout with
      | refused => exact .of_metrics rfl
      | duplicate h => exact absurd h ha
      | noLabel h => exact absurd h ha
      | answered e h => exact absurd h ha
      | forwarded e h => exact absurd h ha
    · exact absurd ha' ha

/-- **When a packet from outside has no effect.** For every state, every packet and
every sender that is no logical neighbour's endpoint: the node sends nothing and
changes nothing but counters if and only if `IgnoredWhen` holds. -/
theorem outsider_ignored_iff (packet : Packet) {sender : SocketAddr} (h : s.Outsider sender) :
    Ignored s (s.handlePacket clock packet sender).1 (s.handlePacket clock packet sender).2 ↔
      s.IgnoredWhen clock packet := by
  cases packet with
  | hello p => exact handleHello_ignored_iff p sender
  | helloReply p => exact handleHelloReply_ignored_iff p
  | rreq q => exact handleRreq_ignored_iff q
  | rrep p => exact ⟨fun _ => trivial, fun _ => handleRrep_ignored h p⟩
  | data d => exact ⟨fun _ => trivial, fun _ => handleData_ignored h d⟩
  | ack _ => exact ⟨fun _ => trivial, fun _ => .of_metrics rfl⟩
  | error _ => exact ⟨fun _ => trivial, fun _ => .of_metrics rfl⟩

/-- Node 0, which has node 1 as its only neighbour. -/
def pairSettings : NodeConfig :=
  { NodeConfig.testSettings .dsr with
    topology := ⟨[⟨0, .localhost 7000, [1]⟩, ⟨1, .localhost 7001, [0]⟩]⟩ }

/-- A request of node 1 for a node that is not there. -/
def pairRreq : Rreq :=
  { srcNodeId := 1, dstNodeId := 9, requestId := 1, previousHop := 1, hopCount := 0,
    dsrPath := [1], dldsrLabelPath := [], tracePath := [1], createdAtMillis := 10 }

/-- Once node 0 has the request from node 1, a copy of it from port 9999 within the same
millisecond is ignored, and so is a HELLO from there that claims to come from node 9. One
that claims to come from node 1 is not. -/
theorem outsider_ignored_iff_pair :
    let s := ((new pairSettings).call (fun _ => 10)
      (.packet (.rreq pairRreq) (.localhost 7001))).1
    let outside := fun packet => s.handlePacket (fun _ => 10) packet (.localhost 9999)
    Ignored s (outside (.rreq pairRreq)).1 (outside (.rreq pairRreq)).2 ∧
      Ignored s (outside (.hello ⟨9, 10⟩)).1 (outside (.hello ⟨9, 10⟩)).2 ∧
      ¬ Ignored s (outside (.hello ⟨1, 10⟩)).1 (outside (.hello ⟨1, 10⟩)).2 := by
  intro s outside
  have houtside : s.Outsider (.localhost 9999) := by decide +kernel
  refine ⟨(outsider_ignored_iff _ houtside).mpr (.inr ⟨⟨?_, .inl ?_⟩, .inl ?_⟩),
    (outsider_ignored_iff _ houtside).mpr (.inl (by decide +kernel)),
    fun hignored => ?_⟩
  · intro k t hk
    have hentries : s.seenRequests.seen.entries = [⟨(1, 1), 10⟩] := by decide +kernel
    have hmem : (⟨k, t⟩ : Sigma fun _ : RequestKey => Nat) ∈ s.seenRequests.seen.entries :=
      AList.mem_lookup_iff.mp hk
    rw [hentries, List.mem_singleton] at hmem
    cases hmem
    decide +kernel
  · decide +kernel
  · decide +kernel
  · have hwhen := (outsider_ignored_iff _ houtside).mp hignored
    exact absurd hwhen (by unfold IgnoredWhen; decide +kernel)

/-- A HELLO from port 9999 that claims to come from node 1 is answered. -/
theorem outsider_answered :
    ¬ ∀ (config : NodeConfig) (s : ProtocolState), ReachableFrom config s →
      ∀ (clock : Clock) (packet : Packet) (sender : SocketAddr), s.Outsider sender →
        Ignored s (s.handlePacket clock packet sender).1
          (s.handlePacket clock packet sender).2 := by
  intro h
  have hignored := h pairSettings _ .new (fun _ => 10) (.hello ⟨1, 10⟩) (.localhost 9999)
    (by decide)
  exact absurd hignored.outbound (by decide)

end ProtocolState

end DlDsr
