import DlDsr.Network.LabelPaths

/-!
# Label paths where protocol modes are mixed

RREQs and RREPs do not carry a mode. A DL-DSR node appends a label to the RREQs that pass
through it, a DSR node does not, so a label path has the labels of the links that lead to
DL-DSR nodes (`MixedLabels`). Such a label path is in step with the node path as long as
no DSR node comes before a DL-DSR node on it (`Deployment.Leading`). Otherwise the nodes in
front of the first DSR node use labels of links further on, and may send DATA to any of
their neighbours.

DATA in DSR mode is sent along the node path, whatever the modes of the other nodes.
-/

namespace DlDsr

/-- On the path, no node that runs DSR comes before one that runs DL-DSR. -/
def Deployment.Leading (D : Deployment) (path : List NodeId) : Prop :=
  path.Pairwise fun a b => (D.config b).protocolMode = .dlDsr → (D.config a).protocolMode = .dlDsr

instance (D : Deployment) (path : List NodeId) : Decidable (D.Leading path) :=
  inferInstanceAs (Decidable (path.Pairwise _))

/-- The call takes up a route along `path`, by an RREP that is accepted at its source. -/
def ProtocolState.TakesUp (s : ProtocolState) (input : Input) (path : List NodeId) : Prop :=
  ∃ p sender, input = .packet (.rrep p) sender ∧ s.validateRrep sender p.tracePath = .ok () ∧
    s.config.nodeId = p.srcNodeId ∧ p.dsrPath = path

namespace Network

open ProtocolState

variable {D : Deployment} {F : Faults} {net net' : Network}

/-- In `net`, the label path has the labels of the links to the DL-DSR nodes. -/
def MixedLabels (D : Deployment) (net : Network) (path : List NodeId) (labels : List Label) :
    Prop :=
  PartlyLabelled (fun n => (D.config n).protocolMode = .dlDsr) (Assigned net) path labels

/-- Node `n` has taken up a route along `path`. -/
def TookUp (net : Network) (n : NodeId) (path : List NodeId) : Prop :=
  ∃ c ∈ callsOf net.history, c.nodeId = n ∧ c.before.TakesUp c.input path

theorem TookUp.step (hs : StepCases D F net net') {n : NodeId} {path : List NodeId}
    (h : TookUp net n path) : TookUp net' n path := by
  obtain ⟨c, hc, hn, hpath⟩ := h
  exact ⟨c, callsOf_mono hs hc, hn, hpath⟩

/-- The packet is addressed to the node at its cursor. -/
def Addressed (D : Deployment) (p : InFlight) (d : Data) : Prop :=
  ∃ b, D.Runs b ∧ d.dsrPath[d.routeCursor]? = some b ∧ p.dst = D.addr b

/-- What holds of every node `n`. -/
structure MixedOk (D : Deployment) (net : Network) (n : NodeId) (s : ProtocolState) : Prop where
  wellFormed : s.neighbors.WellFormed
  endpoints : ∀ b entry, s.neighbors.entries.lookup b = some entry →
    D.Runs b ∧ entry.endpoint = D.addr b
  learnt : ∀ a l, s.labels.labelAssignedByNeighbor a = some l → Assigned net a n l
  tookUp : ∀ d, ∀ route ∈ s.routes.held d, TookUp net n route.dsrPath
  labels : (D.config n).protocolMode = .dlDsr → ∀ d, ∀ route ∈ s.routes.held d,
    MixedLabels D net route.dsrPath route.dldsrLabelPath

theorem MixedOk.tables {n : NodeId} {s : ProtocolState} (h : MixedOk D net n s) :
    TablesOk D net n s := ⟨h.wellFormed, h.endpoints, h.learnt⟩

/-- What holds of every DATA packet in flight. -/
structure DataRight (D : Deployment) (net : Network) (p : InFlight) (d : Data) : Prop where
  tookUp : d.protocolMode = .dlDsr →
    ∃ n, (D.config n).protocolMode = .dlDsr ∧ TookUp net n d.dsrPath
  labels : d.protocolMode = .dlDsr → MixedLabels D net d.dsrPath d.dldsrLabelPath
  addressed : (d.protocolMode = .dlDsr → D.Leading d.dsrPath) → Addressed D p d

/-- What holds of every packet in flight. -/
def PacketMixed (D : Deployment) (net : Network) (p : InFlight) : Prop :=
  match p.packet with
  | .hello q => D.Runs q.srcNodeId ∧ p.sender = D.addr q.srcNodeId
  | .helloReply q => Assigned net q.srcNodeId q.dstNodeId q.assignedLabel
  | .rreq q => MixedLabels D net q.tracePath q.dldsrLabelPath
  | .rrep q => MixedLabels D net q.dsrPath q.dldsrLabelPath
  | .data d => DataRight D net p d
  | _ => True

section Mono

variable (hK : ∀ a b l, Assigned net a b l → Assigned net' a b l)
  (hT : ∀ n path, TookUp net n path → TookUp net' n path)

include hK

theorem MixedLabels.mono {path : List NodeId} {labels : List Label}
    (h : MixedLabels D net path labels) : MixedLabels D net' path labels :=
  PartlyLabelled.mono h hK

include hT

theorem MixedOk.mono {n : NodeId} {s : ProtocolState} (h : MixedOk D net n s) :
    MixedOk D net' n s :=
  { h with
    learnt := fun a l hl => hK a n l (h.learnt a l hl)
    tookUp := fun d route hroute => hT n _ (h.tookUp d route hroute)
    labels := fun hmode d route hroute => (h.labels hmode d route hroute).mono hK }

theorem DataRight.mono {p : InFlight} {d : Data} (h : DataRight D net p d) :
    DataRight D net' p d where
  tookUp hmode :=
    let ⟨n, hn, hpath⟩ := h.tookUp hmode
    ⟨n, hn, hT n _ hpath⟩
  labels hmode := (h.labels hmode).mono hK
  addressed := h.addressed

theorem PacketMixed.mono {p : InFlight} (h : PacketMixed D net p) : PacketMixed D net' p := by
  unfold PacketMixed at h ⊢
  split at h
  · exact h
  · exact hK _ _ _ h
  · exact MixedLabels.mono hK h
  · exact MixedLabels.mono hK h
  · exact DataRight.mono hK hT h
  · trivial

end Mono

/-! ## One call -/

section Call

variable {n : NodeId} {s : ProtocolState} {clock : Clock} {input : Input}

/-- The next hop of DATA in DSR mode is the next node of its path. -/
theorem addressed_of_dsr (hP : D.Placed) (hcfg : s.config = D.config n) {d : Data}
    {dst : SocketAddr} (hmode : d.protocolMode = .dsr)
    (h : s.nextDataEndpoint (.data d) = some dst) :
    ∃ b, D.Runs b ∧ d.dsrPath[d.routeCursor + 1]? = some b ∧ dst = D.addr b := by
  simp only [nextDataEndpoint, hmode] at h
  obtain ⟨b, hb, hend⟩ := Option.bind_eq_some_iff.mp h
  obtain ⟨hruns, haddr⟩ := (endpoint_eq_some hP hcfg).mp hend
  exact ⟨b, hruns, hb, haddr⟩

/-- So it is of DATA in DL-DSR mode at a node of its path, where no DSR node comes before
a DL-DSR node. -/
theorem addressed_of_label (hs : MixedOk D net n (net.node n)) {path : List NodeId}
    {labels : List Label} {i : Nat} {l : Label} {entry : NeighborEntry}
    (hlabels : MixedLabels D net path labels) (hlead : D.Leading path)
    (hn : path[i]? = some n) (hl : labels[i]? = some l)
    (hentry : (net.node n).neighbors.neighborByLabel l = some entry) :
    ∃ b, D.Runs b ∧ path[i + 1]? = some b ∧ entry.endpoint = D.addr b := by
  obtain ⟨a, b, ha, hb, hassigned⟩ := PartlyLabelled.link hlabels hlead hl
  obtain rfl : n = a := Option.some.inj (hn.symm.trans ha)
  obtain ⟨entry', hentry', -, hruns, hend⟩ :=
    neighborByLabel_of_labelOf hs.wellFormed hs.endpoints hassigned
  obtain rfl : entry = entry' := Option.some.inj (hentry.symm.trans hentry')
  exact ⟨b, hruns, hb, hend⟩

/-- The DATA a node originates along a route that starts at it. `net'` is the network after
the call. -/
theorem originatesData_right (hP : D.Placed) (h : Reachable D F net)
    (hs : MixedOk D net n (net.node n))
    (hK : ∀ a b l, Assigned net a b l → Assigned net' a b l) {dst : NodeId} {payload : List UInt8}
    {route : RouteEntry} {o : OutboundPacket} {sender : SocketAddr} {origin : Nat}
    (ho : (net.node n).OriginatesData dst payload route o)
    (hhead : route.dsrPath.head? = some n)
    (htook : TookUp net' n route.dsrPath)
    (hlabels : (D.config n).protocolMode = .dlDsr →
      MixedLabels D net route.dsrPath route.dldsrLabelPath) :
    PacketMixed D net' ⟨o.packet, sender, o.dst, origin⟩ := by
  have hcfg := node_config h n
  obtain ⟨d, hd, -, -, -, hmode, hcursor, hpath, hlabelPath, hend⟩ := ho
  rw [hcfg] at hmode
  rw [hd]
  show DataRight D net' _ { d with routeCursor := 1 }
  refine ⟨fun hdl => ⟨n, hmode.symm.trans hdl, ?_⟩, fun hdl => ?_, fun hlead => ?_⟩
  · show TookUp net' n d.dsrPath
    rw [hpath]
    exact htook
  · show MixedLabels D net' d.dsrPath d.dldsrLabelPath
    rw [hpath, hlabelPath]
    exact MixedLabels.mono hK (hlabels (hmode.symm.trans hdl))
  · show ∃ b, D.Runs b ∧ d.dsrPath[1]? = some b ∧ o.dst = D.addr b
    cases hdmode : d.protocolMode with
    | dsr =>
      have haddressed := addressed_of_dsr hP hcfg hdmode hend
      rw [hcursor] at haddressed
      exact haddressed
    | dlDsr =>
      simp only [nextDataEndpoint, hdmode, hcursor] at hend
      obtain ⟨l, hl, hend⟩ := Option.bind_eq_some_iff.mp hend
      obtain ⟨entry, hentry, hdst⟩ := Option.map_eq_some_iff.mp hend
      rw [← hdst]
      have hmixed : MixedLabels D net d.dsrPath d.dldsrLabelPath := by
        rw [hpath, hlabelPath]
        exact hlabels (hmode.symm.trans hdmode)
      refine addressed_of_label hs hmixed (hlead hdmode) ?_ hl hentry
      rw [hpath, ← List.head?_eq_getElem?]
      exact hhead

/-- DATA on its way. -/
theorem forwardData_right (hP : D.Placed) (h : Reachable D F net)
    (hs : MixedOk D net n (net.node n)) (hn : D.Runs n) {d : Data} {sender dst : SocketAddr}
    {origin origin' : Nat} (hfwd : (net.node n).ForwardsData d dst)
    (hd : DataRight D net ⟨.data d, sender, D.addr n, origin⟩ d) :
    PacketMixed D net
      ⟨.data { d with routeCursor := d.routeCursor + 1 }, D.addr n, dst, origin'⟩ := by
  have hcfg := node_config h n
  show DataRight D net _ { d with routeCursor := d.routeCursor + 1 }
  refine ⟨hd.tookUp, hd.labels, fun hlead => ?_⟩
  show ∃ b, D.Runs b ∧ d.dsrPath[d.routeCursor + 1]? = some b ∧ dst = D.addr b
  cases hfwd with
  | dsr next hmode hme hnext hneighbor hdst =>
    obtain ⟨hruns, haddr⟩ := (endpoint_eq_some hP hcfg).mp hdst
    exact ⟨next, hruns, hnext, haddr⟩
  | dlDsr l entry hmode hl hentry hneighbor hdst =>
    rw [← hdst]
    -- This node is the one at the cursor.
    obtain ⟨b, hruns, hb, haddr⟩ := hd.addressed hlead
    obtain rfl : n = b := hP.addr_injective hn hruns haddr
    exact addressed_of_label hs (hd.labels hmode) (hlead hmode) hb hl hentry

/-- The extended RREQ has one more label if this node runs DL-DSR. -/
theorem extendRreq_mixed (hP : D.Placed) (hself : D.NoSelfNeighbor) (hn : D.Runs n)
    (hcfg : s.config = D.config n) (hs : MixedOk D net n s) {q e : Rreq}
    (hwalk : RreqWalk D (D.addr n) q) (hq : MixedLabels D net q.tracePath q.dldsrLabelPath)
    (ha : s.Admits q) (he : s.extendRreq q = some e) :
    e.dsrPath = q.tracePath ++ [n] ∧ e.tracePath = q.tracePath ++ [n] ∧
      MixedLabels D net (q.tracePath ++ [n]) e.dldsrLabelPath := by
  have hext := hwalk.extend hP hself hn hcfg ha he
  obtain ⟨-, hlabels⟩ := extendRreq_eq_some.mp he
  refine ⟨by rw [hext], by rw [hext], ?_⟩
  rw [hcfg] at hlabels
  cases hmode : (D.config n).protocolMode with
  | dsr =>
    rw [hmode] at hlabels
    have hlabels : e.dldsrLabelPath = q.dldsrLabelPath := hlabels
    rw [hlabels]
    refine PartlyLabelled.skip hq ?_
    rw [hmode]
    exact fun hdl => by cases hdl
  | dlDsr =>
    rw [hmode] at hlabels
    obtain ⟨label, hlabel, hpath⟩ := hlabels
    rw [hpath]
    exact PartlyLabelled.push hq hwalk.walk.last hmode (hs.learnt _ _ hlabel)

/-- Serving a call keeps a node's tables and routes right. `net'` is the network after the
call. -/
theorem mixedOk_call (hcfg : s.config = D.config n) (hs : MixedOk D net' n s)
    (hserved : ∀ path, s.TakesUp input path → TookUp net' n path)
    (hinput : ∀ packet sender, input = .packet packet sender →
      ∃ origin, PacketMixed D net' ⟨packet, sender, D.addr n, origin⟩) :
    MixedOk D net' n (s.call clock input).1 := by
  have htables : TablesOk D net' n (s.call clock input).1 := by
    refine tablesOk_call hcfg hs.tables (fun p sender h => ?_) fun p sender h => ?_
    all_goals
      obtain ⟨_, hp⟩ := hinput _ _ h
      exact hp
  refine
    { htables with
      tookUp := fun d route hroute => ?_
      labels := fun hmode d route hroute => ?_ }
  · rcases held_call hroute with hold | ⟨p, sender, rfl, hok, hsrc, -, rfl⟩
    · exact hs.tookUp d route hold
    · rw [routeOf_dsrPath]
      exact hserved _ ⟨p, sender, rfl, hok, hsrc, rfl⟩
  · rcases held_call hroute with hold | ⟨p, sender, rfl, -, -, -, rfl⟩
    · exact hs.labels hmode d route hold
    · obtain ⟨_, hp⟩ := hinput _ _ rfl
      rw [← hcfg] at hmode
      rw [routeOf_dsrPath, routeOf_labels clock hmode]
      exact hp

/-- The packets a call sends. `net'` is the network after the call. -/
theorem packetMixed_emits (hP : D.Placed) (hself : D.NoSelfNeighbor) (h : Reachable D F net)
    (hn : D.Runs n) (hs : MixedOk D net n (net.node n))
    (hK : ∀ a b l, Assigned net a b l → Assigned net' a b l)
    (hT : ∀ n path, TookUp net n path → TookUp net' n path)
    (hnode : net'.node n = ((net.node n).call clock input).1)
    (hserved : ∀ path, (net.node n).TakesUp input path → TookUp net' n path)
    (hinput : ∀ packet sender, input = .packet packet sender →
      ∃ origin, PacketWalk D ⟨packet, sender, D.addr n, origin⟩ ∧
        PacketMixed D net ⟨packet, sender, D.addr n, origin⟩)
    {o : OutboundPacket} {origin : Nat} (ho : (net.node n).Emits clock input o) :
    PacketMixed D net' ⟨o.packet, D.addr n, o.dst, origin⟩ := by
  have hcfg := node_config h n
  cases ho with
  | hello m t dst hm hdst =>
    refine ⟨?_, ?_⟩ <;> rw [nodeId_eq hcfg]
    exact hn
  | helloReply p sender label t hm hlabel =>
    -- The label in the reply is the one that this very call has put into the table.
    show (net'.node (net.node n).config.nodeId).neighbors.labelOf p.srcNodeId = some label
    have htable := handleHello_neighbors (net.node n) clock sender hm
    rw [nodeId_eq hcfg, hnode]
    show ((net.node n).handleHello clock p sender).1.neighbors.labelOf p.srcNodeId = some label
    rw [htable]
    exact NeighborTable.labelOf_assign_self hlabel
  | originate _ now dst id o _ _ _ ho =>
    obtain ⟨v, -, -, hpacket⟩ := mem_floodRreq.mp ho
    simp only [PacketMixed, hpacket]
    exact PartlyLabelled.single _
  | forwardRreq q e sender o ha hnew he hdst ho =>
    obtain ⟨_, hwalk, hq⟩ := hinput _ _ rfl
    obtain ⟨-, htrace, hlabels⟩ := extendRreq_mixed hP hself hn hcfg hs hwalk hq ha he
    obtain ⟨v, -, -, -, hpacket⟩ := mem_rreqCopies.mp ho
    simp only [PacketMixed, hpacket, htrace]
    exact MixedLabels.mono hK hlabels
  | answerRreq q e sender dst prev ha hnew he hdst hprev hend =>
    obtain ⟨_, hwalk, hq⟩ := hinput _ _ rfl
    obtain ⟨hpath, -, hlabels⟩ := extendRreq_mixed hP hself hn hcfg hs hwalk hq ha he
    show MixedLabels D net' e.dsrPath e.dldsrLabelPath
    rw [hpath]
    exact MixedLabels.mono hK hlabels
  | relayRrep p sender dst prev hok hsrc hprev hend =>
    obtain ⟨_, -, hp⟩ := hinput _ _ rfl
    exact MixedLabels.mono hK hp
  | sendData dst payload route o hroute ho =>
    have hheld := (RouteCache.shortest_mem hroute).1
    refine originatesData_right hP h hs hK ho ?_ ?_ ?_
    · exact (routesSimple hP hself h n dst route hheld).walk.head
    · exact hT n _ (hs.tookUp dst route hheld)
    · exact fun hmode => hs.labels hmode dst route hheld
  | flushData p sender payload o hok hsrc hpending ho =>
    obtain ⟨_, hwalk, hp⟩ := hinput _ _ rfl
    refine originatesData_right hP h hs hK ho ?_ ?_ ?_
    · exact (routeOf_simple hP hn hcfg hwalk hok hsrc).walk.head
    · rw [routeOf_dsrPath]
      exact hserved _ ⟨p, sender, rfl, hok, hsrc, rfl⟩
    · intro hmode
      rw [← hcfg] at hmode
      rw [routeOf_dsrPath, routeOf_labels clock hmode]
      exact hp
  | forwardData d sender dst m hstrict hsender hm hdst hfwd =>
    obtain ⟨_, -, hd⟩ := hinput _ _ rfl
    exact PacketMixed.mono hK hT (forwardData_right hP h hs hn hfwd hd)

end Call

/-! ## The invariant -/

/-- What a call takes up is recorded. -/
theorem tookUp_of_served {n : NodeId} {clock : Clock} {input : Input} {origin : Nat}
    {rest : List InFlight} {path : List NodeId} (h : (net.node n).TakesUp input path) :
    TookUp ({ net with inFlight := rest }.call n clock input origin) n path :=
  ⟨_, mem_callsOf_call, rfl, h⟩

theorem mixedInvariant (hP : D.Placed) (hself : D.NoSelfNeighbor) (hF : F.restarts = false) :
    GlobalInvariant D F (MixedOk D) (PacketMixed D) where
  new net n :=
    have htables : TablesOk D net n (.new (D.config n)) := .new n _
    { htables with
      tookUp := fun d route hroute => absurd hroute List.not_mem_nil
      labels := fun _ d route hroute => absurd hroute List.not_mem_nil }
  node_mono _ hs h := h.mono (fun _ _ _ hK => hK.step hF hs) fun _ _ hT => hT.step hs
  packet_mono _ hs h := h.mono (fun _ _ _ hK => hK.step hF hs) fun _ _ hT => hT.step hs
  reorder := by
    intro net n s s' h hr
    have htables := h.tables.reorder hr
    refine
      { htables with
        tookUp := fun d route hroute => ?_
        labels := fun hmode d route hroute => ?_ }
    · rw [hr.held_eq] at hroute
      exact h.tookUp d route hroute
    · rw [hr.held_eq] at hroute
      exact h.labels hmode d route hroute
  node := by
    intro net n clock input rest origin hreach hn hnode hpkt hserved
    have hs := served_step F clock hn hserved
    refine mixedOk_call (node_config hreach n)
      ((hnode n).mono (fun _ _ _ hK => hK.step hF hs) fun _ _ hT => hT.step hs)
      (fun path hpath => tookUp_of_served hpath) ?_
    rintro packet sender rfl
    exact ⟨origin, (hpkt _ hserved.inFlight).mono (fun _ _ _ hK => hK.step hF hs)
      fun _ _ hT => hT.step hs⟩
  packet := by
    intro net n clock input o rest origin hreach hn hnode hpkt hserved ho
    have hs := served_step F clock hn hserved
    refine packetMixed_emits hP hself hreach hn (hnode n) (fun _ _ _ hK => hK.step hF hs)
      (fun _ _ hT => hT.step hs) call_node_self (fun path hpath => tookUp_of_served hpath) ?_
      (emits_of_mem ho)
    rintro packet sender rfl
    exact ⟨origin, packetWalk hP hself hreach hserved.inFlight, hpkt _ hserved.inFlight⟩

/-- The mode is right, or the path is, for every DATA packet in flight. -/
theorem dataRight (hP : D.Placed) (hself : D.NoSelfNeighbor) (hF : F.restarts = false)
    (h : Reachable D F net) {p : InFlight} {d : Data} (hp : p ∈ net.inFlight)
    (hd : p.packet = .data d) : DataRight D net p d := by
  have hright := ((mixedInvariant hP hself hF).reachable h).2 p hp
  rw [PacketMixed, hd] at hright
  exact hright

/-- **DATA is sent to the next node of its path**, in every run in which no RREP that a
DL-DSR node accepts as the source has a DSR node before a DL-DSR node on its node path,
whatever the modes of the nodes and whatever the transport does. -/
theorem data_addressed (hP : D.Placed) (hself : D.NoSelfNeighbor) (hF : F.restarts = false)
    (h : Reachable D F net)
    (hlead : ∀ c ∈ callsOf net.history, (D.config c.nodeId).protocolMode = .dlDsr →
      ∀ path, c.before.TakesUp c.input path → D.Leading path)
    {p : InFlight} {d : Data} (hp : p ∈ net.inFlight) (hd : p.packet = .data d) :
    ∃ b, d.dsrPath[d.routeCursor]? = some b ∧ p.dst = D.addr b := by
  have hright := dataRight hP hself hF h hp hd
  obtain ⟨b, -, hb, haddr⟩ := hright.addressed fun hmode => by
    obtain ⟨n, hn, c, hc, rfl, hpath⟩ := hright.tookUp hmode
    exact hlead c hc hn _ hpath
  exact ⟨b, hb, haddr⟩

/-- The line with DL-DSR nodes 0 and 1 and a DSR node 2 at its end. -/
def dsrAtTheEnd : Deployment :=
  let all := Deployment.line .dlDsr
  { topology := all.topology
    config := fun n =>
      if n = 2 then { all.config n with protocolMode := .dsr } else all.config n
    config_nodeId := fun n => by split <;> rfl
    config_topology := fun n => by split <;> rfl }

/-- The node path of an RREP; of other inputs, the empty one. -/
def rrepPath : Input → List NodeId
  | .packet (.rrep p) _ => p.dsrPath
  | _ => []

/-- Its only label path has one label for two links, and yet the DATA that node 0 sends to
node 2 is on its way to node 1. -/
theorem data_addressed_line :
    ∃ p ∈ (after dsrAtTheEnd ⟨true, true, false⟩ labelsOnLine).inFlight,
      ∃ d, p.packet = .data d ∧ d.dldsrLabelPath = [1] ∧ d.dsrPath = [0, 1, 2] ∧
        ∃ b, d.dsrPath[d.routeCursor]? = some b ∧ p.dst = dsrAtTheEnd.addr b := by
  let d : Data :=
    { srcNodeId := 0, dstNodeId := 2, sequence := 1, protocolMode := .dlDsr, routeCursor := 1,
      dsrPath := [0, 1, 2], dldsrLabelPath := [1], payload := [7], createdAtMillis := 10 }
  have hp : (⟨.data d, .localhost 7000, .localhost 7001, 11⟩ : InFlight) ∈
      (after dsrAtTheEnd ⟨true, true, false⟩ labelsOnLine).inFlight := by
    decide +kernel
  have hplaced : dsrAtTheEnd.Placed := ⟨by decide +kernel, by decide +kernel, by decide +kernel⟩
  have hself : dsrAtTheEnd.NoSelfNeighbor :=
    Deployment.noSelfNeighbor_of_nodes (by decide +kernel)
  -- The path of every RREP that has arrived anywhere ends with the DSR node.
  have hleading : ∀ c ∈ callsOf (after dsrAtTheEnd ⟨true, true, false⟩ labelsOnLine).history,
      dsrAtTheEnd.Leading (rrepPath c.input) := by
    decide +kernel
  refine ⟨_, hp, d, rfl, rfl, rfl, data_addressed hplaced hself rfl (reachable_after ..) ?_ hp rfl⟩
  rintro c hc - path ⟨p, sender, hinput, -, -, rfl⟩
  have hpath := hleading c hc
  rw [hinput] at hpath
  exact hpath

/-- The nodes 0, 2 and 3 run DL-DSR, node 1 between 0 and 2 runs DSR. -/
def dsrInTheMiddle : Deployment :=
  let all := Deployment.onLocalhost (.testSettings .dlDsr)
    [(0, [1, 3]), (1, [0, 2]), (2, [1]), (3, [0])]
  { topology := all.topology
    config := fun n =>
      if n = 1 then { all.config n with protocolMode := .dsr } else all.config n
    config_nodeId := fun n => by split <;> rfl
    config_topology := fun n => by split <;> rfl }

/-- Node 2 gets its label from node 1, node 3 gets one from node 0, and node 0 looks for
node 2. -/
def labelsThroughDsr : List Action :=
  [.act 2 tenMillis .hello, .deliver 0 1 tenMillis, .deliver 0 2 tenMillis,
   .act 3 tenMillis .hello, .deliver 0 0 tenMillis, .deliver 0 3 tenMillis,
   .act 0 tenMillis (.command (.discoverAndSend 2 [7])), .deliver 0 1 tenMillis,
   .deliver 1 2 tenMillis, .deliver 1 1 tenMillis, .deliver 1 0 tenMillis]

/-- The label path has the label of the link from node 1 to node 2 only. Node 0 has
assigned the same label to node 3, and sends the DATA for node 2 there. -/
theorem data_misrouted :
    ¬ ∀ (D : Deployment) (F : Faults) (net : Network), D.Placed → D.NoSelfNeighbor →
      (∀ n, (D.config n).strictProtocolMode = true) → F.restarts = false → Reachable D F net →
      ∀ p ∈ net.inFlight, ∀ d, p.packet = .data d →
        ∃ b, d.dsrPath[d.routeCursor]? = some b ∧ p.dst = D.addr b := by
  intro h
  let d : Data :=
    { srcNodeId := 0, dstNodeId := 2, sequence := 1, protocolMode := .dlDsr, routeCursor := 1,
      dsrPath := [0, 1, 2], dldsrLabelPath := [1], payload := [7], createdAtMillis := 10 }
  have hp : (⟨.data d, .localhost 7000, .localhost 7003, 6⟩ : InFlight) ∈
      (after dsrInTheMiddle ⟨false, false, false⟩ labelsThroughDsr).inFlight := by
    decide +kernel
  have hplaced : dsrInTheMiddle.Placed :=
    ⟨by decide +kernel, by decide +kernel, by decide +kernel⟩
  have hself : dsrInTheMiddle.NoSelfNeighbor :=
    Deployment.noSelfNeighbor_of_nodes (by decide +kernel)
  have hstrict : ∀ n, (dsrInTheMiddle.config n).strictProtocolMode = true := by
    intro n
    simp only [dsrInTheMiddle]
    split <;> rfl
  obtain ⟨b, hb, hdst⟩ := h dsrInTheMiddle ⟨false, false, false⟩ _ hplaced hself hstrict rfl
    (reachable_after _ _ labelsThroughDsr) _ hp d rfl
  obtain rfl : 1 = b := Option.some.inj hb
  exact absurd hdst (by decide +kernel)

end Network

end DlDsr
