import DlDsr.Network.LoopFreedom

/-!
# Label paths follow node paths

In DL-DSR mode a route carries two paths: the nodes, and for every link the label
that its first node assigned to its second. A node learns the labels that its
neighbours assigned *to it* (HELLO_REPLY) and appends them to the RREQs it
receives; DATA is forwarded with the labels that a node assigned itself
(`neighbor_by_label`). The two agree because an assigned label is never changed:
`Assigned net a b l` is a fact that no step makes false, and every HELLO_REPLY,
label table, route and packet with a label path only ever states such facts
(`labelsInvariant`).

Restarts are excluded: they empty the neighbour table while packets and other
nodes still carry its labels.
-/

namespace DlDsr

namespace Network

open ProtocolState

variable {D : Deployment} {F : Faults} {net net' : Network}

/-- In `net`, node `a` has assigned label `l` to node `b`. -/
def Assigned (net : Network) (a b : NodeId) (l : Label) : Prop :=
  (net.node a).neighbors.labelOf b = some l

/-- The node that `a` resolves label `l` to. -/
def resolve (net : Network) (a : NodeId) (l : Label) : Option NodeId :=
  ((net.node a).neighbors.neighborByLabel l).map NeighborEntry.nodeId

/-- An assigned label stays assigned, as long as no node restarts. -/
theorem Assigned.step (hF : F.restarts = false) (hs : StepCases D F net net') {a b : NodeId}
    {l : Label} (h : Assigned net a b l) : Assigned net' a b l := by
  unfold Assigned at h ⊢
  cases hs with
  | @call n clock input origin rest hn hserved =>
    by_cases ha : a = n
    · subst ha
      rw [call_node_self]
      show ((net.node a).call clock input).1.neighbors.labelOf b = some l
      have heff := call_tableEffect (net.node a) clock input
      generalize ((net.node a).call clock input).1 = s' at heff ⊢
      cases heff with
      | same hsame => rw [hsame.neighbors]; exact h
      | hello p sender hn => exact NeighborTable.labelOf_assign h
      | helloReply => exact h
      | rrep _ _ _ _ hsame => rw [hsame.neighbors]; exact h
    · rw [call_node_other ha]
      exact h
  | lose => exact h
  | duplicate => exact h
  | restart hrestart => rw [hF] at hrestart; cases hrestart
  | @reorder n s' hr =>
    show (Function.update net.node n s' a).neighbors.labelOf b = some l
    rw [update_node_eq (fun s => s.neighbors.labelOf b) (hr.labelOf_eq b)]
    exact h

/-- The tables of node `n` say what has been assigned. -/
structure TablesOk (D : Deployment) (net : Network) (n : NodeId) (s : ProtocolState) : Prop where
  wellFormed : s.neighbors.WellFormed
  endpoints : ∀ b entry, s.neighbors.entries.lookup b = some entry →
    D.Runs b ∧ entry.endpoint = D.addr b
  learnt : ∀ a l, s.labels.labelAssignedByNeighbor a = some l → Assigned net a n l

theorem TablesOk.new (n : NodeId) (config : NodeConfig) : TablesOk D net n (.new config) where
  wellFormed := NeighborTable.wellFormed_empty
  endpoints := fun _ _ hb => by cases hb
  learnt := fun _ _ hl => by cases hl

theorem TablesOk.reorder {n : NodeId} {s s' : ProtocolState} (h : TablesOk D net n s)
    (hr : s.Reorder s') : TablesOk D net n s' where
  wellFormed := h.wellFormed.reorder hr.neighbors
  endpoints b entry hb := h.endpoints b entry (by rwa [hr.neighbors.lookup_eq b])
  learnt a l hl := h.learnt a l (by rwa [← hr.labelAssignedByNeighbor_eq])

/-- What holds of every node `n`. -/
structure LabelsOk (D : Deployment) (net : Network) (n : NodeId) (s : ProtocolState) : Prop where
  wellFormed : s.neighbors.WellFormed
  endpoints : ∀ b entry, s.neighbors.entries.lookup b = some entry →
    D.Runs b ∧ entry.endpoint = D.addr b
  learnt : ∀ a l, s.labels.labelAssignedByNeighbor a = some l → Assigned net a n l
  routes : ∀ d, ∀ route ∈ s.routes.held d,
    Labelled (Assigned net) route.dsrPath route.dldsrLabelPath

theorem LabelsOk.tables {n : NodeId} {s : ProtocolState} (h : LabelsOk D net n s) :
    TablesOk D net n s := ⟨h.wellFormed, h.endpoints, h.learnt⟩

/-- What holds of every packet in flight. -/
def PacketLabels (D : Deployment) (net : Network) (p : InFlight) : Prop :=
  match p.packet with
  | .hello q => D.Runs q.srcNodeId ∧ p.sender = D.addr q.srcNodeId
  | .helloReply q => Assigned net q.srcNodeId q.dstNodeId q.assignedLabel
  | .rreq q => Labelled (Assigned net) q.tracePath q.dldsrLabelPath
  | .rrep q => Labelled (Assigned net) q.dsrPath q.dldsrLabelPath
  | .data d => Labelled (Assigned net) d.dsrPath d.dldsrLabelPath
  | _ => True

theorem LabelsOk.mono {n : NodeId} {s : ProtocolState} (h : LabelsOk D net n s)
    (hK : ∀ a b l, Assigned net a b l → Assigned net' a b l) : LabelsOk D net' n s :=
  { h with
    learnt := fun a l hl => hK a n l (h.learnt a l hl)
    routes := fun d route hroute => (h.routes d route hroute).mono hK }

theorem PacketLabels.mono {p : InFlight} (h : PacketLabels D net p)
    (hK : ∀ a b l, Assigned net a b l → Assigned net' a b l) : PacketLabels D net' p := by
  unfold PacketLabels at h ⊢
  split at h
  · exact h
  · exact hK _ _ _ h
  · exact h.mono hK
  · exact h.mono hK
  · exact h.mono hK
  · trivial

/-! ## One call -/

section Call

variable {n : NodeId} {s : ProtocolState} {clock : Clock} {input : Input}

theorem routeOf_labels (clock : Clock) (hmode : s.config.protocolMode = .dlDsr) (p : Rrep) :
    (s.routeOf clock p).dldsrLabelPath = p.dldsrLabelPath := by
  unfold routeOf
  rw [hmode]

/-- The DATA a node originates carries both paths of its route. -/
theorem originatesData_labels {dst : NodeId} {payload : List UInt8} {route : RouteEntry}
    {o : OutboundPacket} {sender : SocketAddr} {origin : Nat}
    (h : s.OriginatesData dst payload route o)
    (hroute : Labelled (Assigned net) route.dsrPath route.dldsrLabelPath) :
    PacketLabels D net ⟨o.packet, sender, o.dst, origin⟩ := by
  obtain ⟨d, hd, -, -, -, -, -, hpath, hlabels, -⟩ := h
  rw [hd]
  show Labelled (Assigned net) d.dsrPath d.dldsrLabelPath
  rw [hpath, hlabels]
  exact hroute

/-- The extended RREQ has a label for the link it came over. -/
theorem extendRreq_labels {q e : Rreq} (hP : D.Placed) (hself : D.NoSelfNeighbor) (hn : D.Runs n)
    (hcfg : s.config = D.config n) (hmode : s.config.protocolMode = .dlDsr)
    (hlearnt : ∀ a l, s.labels.labelAssignedByNeighbor a = some l → Assigned net a n l)
    (hwalk : RreqWalk D (D.addr n) q) (hq : Labelled (Assigned net) q.tracePath q.dldsrLabelPath)
    (ha : s.Admits q) (he : s.extendRreq q = some e) :
    e.dsrPath = q.tracePath ++ [n] ∧ e.tracePath = q.tracePath ++ [n] ∧
      Labelled (Assigned net) (q.tracePath ++ [n]) e.dldsrLabelPath := by
  have hext := hwalk.extend hP hself hn hcfg ha he
  obtain ⟨-, hlabels⟩ := extendRreq_eq_some.mp he
  rw [hmode] at hlabels
  obtain ⟨label, hlabel, hpath⟩ := hlabels
  refine ⟨by rw [hext], by rw [hext], ?_⟩
  rw [hpath]
  exact hq.concat hwalk.walk.last (hlearnt _ _ hlabel)

/-- Serving a call keeps a node's tables right. -/
theorem tablesOk_call (hcfg : s.config = D.config n) (hs : TablesOk D net n s)
    (hhello : ∀ p sender, input = .packet (.hello p) sender →
      D.Runs p.srcNodeId ∧ sender = D.addr p.srcNodeId)
    (hreply : ∀ p sender, input = .packet (.helloReply p) sender →
      Assigned net p.srcNodeId p.dstNodeId p.assignedLabel) :
    TablesOk D net n (s.call clock input).1 := by
  have heff := call_tableEffect s clock input
  generalize (s.call clock input).1 = s' at heff ⊢
  cases heff with
  | same h =>
    exact
      { wellFormed := by rw [h.neighbors]; exact hs.wellFormed
        endpoints := by rw [h.neighbors]; exact hs.endpoints
        learnt := by rw [h.labels]; exact hs.learnt }
  | hello p sender hneighbor =>
    obtain ⟨hruns, hsender⟩ := hhello _ _ rfl
    refine
      { wellFormed := hs.wellFormed.assign _ _ _
        endpoints := fun b entry hb => ?_
        learnt := hs.learnt }
    -- A HELLO comes from the address of the node it names.
    rcases NeighborTable.endpoint_of_assign hb with ⟨rfl, hend⟩ | hold
    · exact ⟨hruns, hend.trans hsender⟩
    · exact hs.endpoints b entry hold
  | helloReply p sender hdst hneighbor =>
    have hassigned := hreply _ _ rfl
    refine
      { wellFormed := hs.wellFormed
        endpoints := hs.endpoints
        learnt := fun a l hl => ?_ }
    -- The reply is addressed to this node, and says what its sender has assigned.
    rw [LabelTable.labelAssignedByNeighbor_update] at hl
    split at hl
    · next ha =>
      cases hl
      rw [ha, ← nodeId_eq hcfg, ← hdst]
      exact hassigned
    · exact hs.learnt a l hl
  | rrep p sender hok hsrc h =>
    exact
      { wellFormed := by rw [h.neighbors]; exact hs.wellFormed
        endpoints := by rw [h.neighbors]; exact hs.endpoints
        learnt := by rw [h.labels]; exact hs.learnt }

/-- Serving a call keeps a node's tables and routes right. -/
theorem labelsOk_call (hcfg : s.config = D.config n) (hmode : s.config.protocolMode = .dlDsr)
    (hs : LabelsOk D net n s)
    (hinput : ∀ packet sender, input = .packet packet sender →
      ∃ origin, PacketLabels D net ⟨packet, sender, D.addr n, origin⟩) :
    LabelsOk D net n (s.call clock input).1 := by
  have htables : TablesOk D net n (s.call clock input).1 := by
    refine tablesOk_call hcfg hs.tables (fun p sender h => ?_) fun p sender h => ?_
    all_goals
      obtain ⟨_, hp⟩ := hinput _ _ h
      exact hp
  refine { htables with routes := fun d route hroute => ?_ }
  rcases held_call hroute with hold | ⟨p, sender, rfl, -, -, -, rfl⟩
  · exact hs.routes d route hold
  · obtain ⟨_, hp⟩ := hinput _ _ rfl
    rw [routeOf_dsrPath, routeOf_labels clock hmode]
    exact hp

/-- Serving a call sends only packets whose label paths are right. `s'` is the
node's state after the call. -/
theorem packetLabels_emits {o : OutboundPacket} {origin : Nat} (hP : D.Placed)
    (hself : D.NoSelfNeighbor) (hn : D.Runs n) (hcfg : s.config = D.config n)
    (hmode : s.config.protocolMode = .dlDsr) (hs : LabelsOk D net n s)
    (hnode : net.node n = (s.call clock input).1)
    (hinput : ∀ packet sender, input = .packet packet sender →
      ∃ origin, PacketWalk D ⟨packet, sender, D.addr n, origin⟩ ∧
        PacketLabels D net ⟨packet, sender, D.addr n, origin⟩)
    (h : s.Emits clock input o) : PacketLabels D net ⟨o.packet, D.addr n, o.dst, origin⟩ := by
  cases h with
  | hello m t dst hm hdst =>
    refine ⟨?_, ?_⟩ <;> rw [nodeId_eq hcfg]
    exact hn
  | helloReply p sender label t hm hlabel =>
    -- The label in the reply is the one that this very call has put into the table.
    show (net.node s.config.nodeId).neighbors.labelOf p.srcNodeId = some label
    have htable := handleHello_neighbors s clock sender hm
    rw [nodeId_eq hcfg, hnode]
    show (s.handleHello clock p sender).1.neighbors.labelOf p.srcNodeId = some label
    rw [htable]
    exact NeighborTable.labelOf_assign_self hlabel
  | originate _ now dst id o _ _ _ ho =>
    obtain ⟨v, -, -, hpacket⟩ := mem_floodRreq.mp ho
    simp only [PacketLabels, hpacket]
    exact .single _
  | forwardRreq q e sender o ha hnew he hdst ho =>
    obtain ⟨_, hwalk, hq⟩ := hinput _ _ rfl
    obtain ⟨-, htrace, hlabels⟩ :=
      extendRreq_labels hP hself hn hcfg hmode hs.learnt hwalk hq ha he
    obtain ⟨v, -, -, -, hpacket⟩ := mem_rreqCopies.mp ho
    simp only [PacketLabels, hpacket, htrace]
    exact hlabels
  | answerRreq q e sender dst prev ha hnew he hdst hprev hend =>
    obtain ⟨_, hwalk, hq⟩ := hinput _ _ rfl
    obtain ⟨hpath, -, hlabels⟩ :=
      extendRreq_labels hP hself hn hcfg hmode hs.learnt hwalk hq ha he
    show Labelled (Assigned net) e.dsrPath e.dldsrLabelPath
    rw [hpath]
    exact hlabels
  | relayRrep p sender dst prev hok hsrc hprev hend =>
    obtain ⟨_, -, hp⟩ := hinput _ _ rfl
    exact hp
  | sendData dst payload route o hroute ho =>
    exact originatesData_labels ho (hs.routes dst route (RouteCache.shortest_mem hroute).1)
  | flushData p sender payload o hok hsrc hpending ho =>
    obtain ⟨_, -, hp⟩ := hinput _ _ rfl
    refine originatesData_labels ho ?_
    rw [routeOf_dsrPath, routeOf_labels clock hmode]
    exact hp
  | forwardData d sender dst m hstrict hsender hm hdst hfwd =>
    obtain ⟨_, -, hd⟩ := hinput _ _ rfl
    exact hd

end Call

/-! ## The invariant -/

theorem labelsInvariant (hP : D.Placed) (hself : D.NoSelfNeighbor) (hmode : D.AllMode .dlDsr)
    (hF : F.restarts = false) : GlobalInvariant D F (LabelsOk D) (PacketLabels D) where
  new net n :=
    have htables : TablesOk D net n (.new (D.config n)) := .new n _
    { htables with routes := fun d route hroute => absurd hroute List.not_mem_nil }
  node_mono _ hs h := h.mono fun _ _ _ hK => hK.step hF hs
  packet_mono _ hs h := h.mono fun _ _ _ hK => hK.step hF hs
  reorder := by
    intro net n s s' h hr
    have htables := h.tables.reorder hr
    refine { htables with routes := fun d route hroute => ?_ }
    rw [hr.held_eq] at hroute
    exact h.routes d route hroute
  node := by
    intro net n clock input rest origin hreach hn hnode hpkt hserved
    have hcfg := node_config hreach n
    have hs := served_step F clock hn hserved
    refine labelsOk_call hcfg (by rw [hcfg]; exact hmode n hn)
      ((hnode n).mono fun _ _ _ hK => hK.step hF hs) ?_
    rintro packet sender rfl
    exact ⟨origin, (hpkt _ hserved.inFlight).mono fun _ _ _ hK => hK.step hF hs⟩
  packet := by
    intro net n clock input o rest origin hreach hn hnode hpkt hserved ho
    have hcfg := node_config hreach n
    have hs := served_step F clock hn hserved
    refine packetLabels_emits hP hself hn hcfg (by rw [hcfg]; exact hmode n hn)
      ((hnode n).mono fun _ _ _ hK => hK.step hF hs) call_node_self ?_ (emits_of_mem ho)
    rintro packet sender rfl
    exact ⟨origin, packetWalk hP hself hreach hserved.inFlight,
      (hpkt _ hserved.inFlight).mono fun _ _ _ hK => hK.step hF hs⟩

theorem labelsOk (hP : D.Placed) (hself : D.NoSelfNeighbor) (hmode : D.AllMode .dlDsr)
    (hF : F.restarts = false) (h : Reachable D F net) (n : NodeId) :
    LabelsOk D net n (net.node n) :=
  ((labelsInvariant hP hself hmode hF).reachable h).1 n

theorem packetLabels (hP : D.Placed) (hself : D.NoSelfNeighbor) (hmode : D.AllMode .dlDsr)
    (hF : F.restarts = false) (h : Reachable D F net) {p : InFlight} (hp : p ∈ net.inFlight) :
    PacketLabels D net p :=
  ((labelsInvariant hP hself hmode hF).reachable h).2 p hp

/-- A node resolves a label that it has assigned to the node it was assigned to. -/
theorem neighborByLabel_of_labelOf {s : ProtocolState} (hwell : s.neighbors.WellFormed)
    (hends : ∀ b entry, s.neighbors.entries.lookup b = some entry →
      D.Runs b ∧ entry.endpoint = D.addr b) {b : NodeId} {l : Label}
    (h : s.neighbors.labelOf b = some l) :
    ∃ entry, s.neighbors.neighborByLabel l = some entry ∧ entry.nodeId = b ∧
      D.Runs b ∧ entry.endpoint = D.addr b := by
  obtain ⟨entry, hentry, rfl⟩ := Option.map_eq_some_iff.mp h
  obtain ⟨hruns, hend⟩ := hends b entry hentry
  exact ⟨entry, hwell.neighborByLabel hentry, (hwell.keyed hentry).1, hruns, hend⟩

theorem Assigned.neighborByLabel {a b : NodeId} {l : Label} (h : Assigned net a b l)
    (hok : LabelsOk D net a (net.node a)) :
    ∃ entry, (net.node a).neighbors.neighborByLabel l = some entry ∧ entry.nodeId = b ∧
      D.Runs b ∧ entry.endpoint = D.addr b :=
  neighborByLabel_of_labelOf hok.wellFormed hok.endpoints h

/-- The label path `labels` denotes the node path `path`: link by link, the first
node of the link resolves the label to the second, with its topology endpoint, and
following the labels from the start visits the path. -/
structure Denotes (D : Deployment) (net : Network) (labels : List Label) (path : List NodeId) :
    Prop where
  length : labels.length + 1 = path.length
  link : ∀ i a b l, path[i]? = some a → path[i + 1]? = some b → labels[i]? = some l →
    ∃ entry, (net.node a).neighbors.neighborByLabel l = some entry ∧ entry.nodeId = b ∧
      (D.topology.node b).map TopologyNode.endpoint = some entry.endpoint
  follow : ∀ a, path.head? = some a → followLabels net.resolve a labels = some path

theorem denotes_of_labelled (hP : D.Placed) (hok : ∀ n, LabelsOk D net n (net.node n))
    {labels : List Label} {path : List NodeId} (h : Labelled (Assigned net) path labels) :
    Denotes D net labels path := by
  refine ⟨h.length, fun i a b l ha hb hl => ?_, fun a ha => h.follow (fun a b l hK => ?_) ha⟩
  · obtain ⟨entry, hentry, hid, hruns, hend⟩ := (h.link i a b l ha hb hl).neighborByLabel (hok a)
    obtain ⟨tn, htn, hendpoint⟩ := hP.node_of_runs hruns
    exact ⟨entry, hentry, hid, by rw [htn, hend, ← hendpoint]; rfl⟩
  · obtain ⟨entry, hentry, hid, -, -⟩ := hK.neighborByLabel (hok a)
    rw [resolve, hentry, ← hid]
    rfl

/-- **A label path denotes the node path.** In every reachable network whose nodes
all run DL-DSR and do not restart, this holds of every cached route and of every
RREP and DATA packet in flight. -/
theorem label_path_denotes_dsr_path (hP : D.Placed) (hself : D.NoSelfNeighbor)
    (hmode : D.AllMode .dlDsr) (hF : F.restarts = false) (h : Reachable D F net) :
    (∀ n d, ∀ route ∈ (net.node n).routes.held d,
      Denotes D net route.dldsrLabelPath route.dsrPath) ∧
    ∀ p ∈ net.inFlight,
      (∀ q, p.packet = .rrep q → Denotes D net q.dldsrLabelPath q.dsrPath) ∧
      ∀ d, p.packet = .data d → Denotes D net d.dldsrLabelPath d.dsrPath := by
  have hok := labelsOk hP hself hmode hF h
  refine ⟨fun n d route hroute => denotes_of_labelled hP hok ((hok n).routes d route hroute), ?_⟩
  intro p hp
  have hlabels := packetLabels hP hself hmode hF h hp
  constructor
  · intro q hq
    rw [PacketLabels, hq] at hlabels
    exact denotes_of_labelled hP hok hlabels
  · intro d hd
    rw [PacketLabels, hd] at hlabels
    exact denotes_of_labelled hP hok hlabels

/-- All HELLOs and HELLO_REPLYs of `Deployment.line`, and then a discovery. -/
def labelsOnLine : List Action :=
  [.act 0 tenMillis .hello, .act 1 tenMillis .hello, .act 2 tenMillis .hello,
   .deliver 0 1 tenMillis, .deliver 0 0 tenMillis, .deliver 0 2 tenMillis,
   .deliver 0 1 tenMillis, .deliver 0 0 tenMillis, .deliver 0 1 tenMillis,
   .deliver 0 1 tenMillis, .deliver 0 2 tenMillis] ++ discoveryOnLine

/-- On a line of three nodes, the route to node 2 and the DATA sent along it are
labelled. -/
theorem label_path_denotes_dsr_path_line :
    let net := after (.line .dlDsr) ⟨true, true, false⟩ labelsOnLine
    Denotes (.line .dlDsr) net [1, 2] [0, 1, 2] := by
  intro net
  have hroute : (⟨2, [0, 1, 2], [1, 2], 30010⟩ : RouteEntry) ∈ (net.node 0).routes.held 2 := by
    decide +kernel
  exact (label_path_denotes_dsr_path (Deployment.line_placed .dlDsr)
    (Deployment.line_noSelfNeighbor .dlDsr) (fun _ _ => rfl) rfl (reachable_after ..)).1
    0 2 _ hroute

end Network

end DlDsr
