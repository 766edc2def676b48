import DlDsr.Network.Datagrams
import DlDsr.Network.Delivery

/-!
# Safety on the wire

Networks of daemons inherit what holds of every network of nodes (`Simulates.safety`), as
long as it does not speak of the counters of dropped packets. So routes lead where they
say, labels resolve to the nodes of the path, and no daemon turns DATA away
(`daemons_safe`), although the transport loses and duplicates datagrams, sends fail, and
datagrams arrive that are none of ours.
-/

namespace DlDsr

/-- What a node that does not reject DATA does with it. -/
inductive PassesOn (D : Deployment) (n : NodeId) (d : Data) : ProtocolActions → Prop where
  | delivered (hdst : d.dstNodeId = n) :
      PassesOn D n d
        { events := [.dataDelivered n d.srcNodeId d.dstNodeId d.sequence d.payload] }
  | forwarded (next : NodeId) (hdst : d.dstNodeId ≠ n)
      (hnext : d.dsrPath[d.routeCursor + 1]? = some next) :
      PassesOn D n d
        { outbound := [⟨.data { d with routeCursor := d.routeCursor + 1 }, D.addr next⟩] }

/-- The path leads from `a` to `b` over mutual links and visits no node twice, and every
label of it stands for the next node of the path, in the table of the node before. -/
structure LeadsTo (D : Deployment) (mode : ProtocolMode) (state : NodeId → ProtocolState)
    (path : List NodeId) (labels : List Label) (a b : NodeId) : Prop where
  walk : IsWalk D.Mutual path a b
  nodup : path.Nodup
  long : 2 ≤ path.length
  labels_length : mode = .dlDsr → labels.length + 1 = path.length
  resolve : mode = .dlDsr → ∀ i u v l, path[i]? = some u → path[i + 1]? = some v →
    labels[i]? = some l →
    ((state u).neighbors.neighborByLabel l).map NeighborEntry.nodeId = some v

/-- The DATA packet is addressed to the node at its cursor, which does not reject it. -/
def Accepted (D : Deployment) (state : NodeId → ProtocolState) (m : Message) (d : Data) : Prop :=
  ∃ n, D.Runs n ∧ m.dst = D.addr n ∧ d.dsrPath[d.routeCursor]? = some n ∧
    ∀ clock, PassesOn D n d ((state n).call clock (.packet m.packet m.sender)).2

/-- What holds of nodes in these states with these packets on their way. -/
structure Safe (D : Deployment) (mode : ProtocolMode) (state : NodeId → ProtocolState)
    (messages : List Message) : Prop where
  routes : ∀ n d, ∀ route ∈ (state n).routes.held d,
    LeadsTo D mode state route.dsrPath route.dldsrLabelPath n d
  data : ∀ m ∈ messages, ∀ d, m.packet = .data d →
    LeadsTo D mode state d.dsrPath d.dldsrLabelPath d.srcNodeId d.dstNodeId
  accepted : ∀ m ∈ messages, ∀ d, m.packet = .data d → Accepted D state m d

section Transfer

variable {D : Deployment} {mode : ProtocolMode} {state state' : NodeId → ProtocolState}

theorem LeadsTo.transfer {path : List NodeId} {labels : List Label} {a b : NodeId}
    (h : LeadsTo D mode state path labels a b) (hsame : ∀ n, (state n).SameButDrops (state' n)) :
    LeadsTo D mode state' path labels a b where
  walk := h.walk
  nodup := h.nodup
  long := h.long
  labels_length := h.labels_length
  resolve := by
    intro hmode i u v l hu hv hl
    rw [(hsame u).neighbors]
    exact h.resolve hmode i u v l hu hv hl

/-- Neither the counters of dropped packets nor the order of the packets matter. -/
theorem Safe.transfer {messages messages' : List Message} (h : Safe D mode state messages)
    (hsame : ∀ n, (state n).SameButDrops (state' n)) (hperm : messages.Perm messages') :
    Safe D mode state' messages' where
  routes := by
    intro n d route hroute
    rw [(hsame n).routes] at hroute
    exact (h.routes n d route hroute).transfer hsame
  data m hm d hd := (h.data m (hperm.mem_iff.mpr hm) d hd).transfer hsame
  accepted := by
    intro m hm d hd
    obtain ⟨n, hn, hdst, hme, hpasses⟩ := h.accepted m (hperm.mem_iff.mpr hm) d hd
    refine ⟨n, hn, hdst, hme, fun clock => ?_⟩
    rw [← (ProtocolState.call_similar (hsame n) clock (.packet m.packet m.sender)).actions]
    exact hpasses clock

end Transfer

namespace Network

open ProtocolState

variable {D : Deployment} {F : Faults} {net : Network} {mode : ProtocolMode}

theorem Usable.leadsTo {path : List NodeId} {labels : List Label} {a b : NodeId}
    (hu : Usable D mode net path labels a b) (hU : D.Uniform mode) (hF : F.restarts = false)
    (h : Reachable D F net) : LeadsTo D mode net.node path labels a b where
  walk := hu.walk
  nodup := hu.nodup
  long := hu.long
  labels_length hmode := (hu.labelled hmode).length
  resolve := by
    rintro rfl i u v l hpath hnext hl
    have hok := labelsOk hU.placed hU.noSelf hU.allMode hF h u
    obtain ⟨entry, hentry, hid, -, -⟩ :=
      ((hu.labelled rfl).link i u v l hpath hnext hl).neighborByLabel hok
    rw [hentry]
    exact congrArg some hid

/-- Networks of nodes are safe. -/
theorem nodes_safe (hU : D.Uniform mode) (hF : F.restarts = false) (h : Reachable D F net) :
    Safe D mode net.node (net.inFlight.map InFlight.message) where
  routes n d route hroute := (usable_of_held hU hF h hroute).leadsTo hU hF h
  data := by
    intro m hm d hd
    obtain ⟨p, hp, rfl⟩ := List.mem_map.mp hm
    obtain ⟨hpath, -⟩ := packetData hU hF h hp d hd
    obtain ⟨i, a, b, -, -, hb, -⟩ := hpath.hop
    have hlt : i + 1 < d.dsrPath.length := (List.getElem?_eq_some_iff.mp hb).1
    have hu : Usable D mode net d.dsrPath d.dldsrLabelPath d.srcNodeId d.dstNodeId := by
      refine ⟨hpath.walk, hpath.nodup, by omega, fun hmode => ?_⟩
      subst hmode
      have hlabels := packetLabels hU.placed hU.noSelf hU.allMode hF h hp
      rw [PacketLabels, show p.packet = .data d from hd] at hlabels
      exact hlabels
    exact hu.leadsTo hU hF h
  accepted := by
    intro m hm d hd
    obtain ⟨⟨packet, sender, dst, origin⟩, hp, rfl⟩ := List.mem_map.mp hm
    obtain rfl : packet = .data d := hd
    obtain ⟨hpath, -⟩ := packetData hU hF h hp d rfl
    obtain ⟨i, a, b, hcursor, ha, hb, hsender, hdst⟩ := hpath.hop
    have hb' : D.Runs b := D.runs_of_mem_neighborsOf (hpath.walk.rel ha hb).2
    obtain rfl : dst = D.addr b := hdst
    refine ⟨b, hb', rfl, by rw [hcursor]; exact hb, fun clock => ?_⟩
    obtain ⟨-, hserved⟩ := dataOnPath_served hU hF h hb' hp hpath clock
    have hid : (net.node b).config.nodeId = b := nodeId_eq (node_config h b)
    show PassesOn D b d ((net.node b).handleData clock sender d).2
    generalize (net.node b).handleData clock sender d = r at hserved ⊢
    cases hserved with
    | delivered hlast hdst =>
      rw [hid] at hdst ⊢
      exact .delivered hdst
    | forwarded next hlast hnext =>
      refine .forwarded next (fun heq => hlast ?_) hnext
      rw [hid]
      exact hpath.walk.last.trans (congrArg some heq)

end Network

namespace DaemonNetwork

variable {codec : Codec} {D : Deployment} {F : Faults} {net : DaemonNetwork} {mode : ProtocolMode}

/-- **Daemons are safe.** In a network of daemons of one protocol mode that do not restart,
whatever the transport loses, duplicates, refuses or brings in from elsewhere: every cached
route and every DATA datagram in flight follows a simple path of mutual links whose labels
resolve to its nodes, and the daemon that the datagram is addressed to delivers it or sends
it on to the next node of the path. -/
theorem daemons_safe (hU : D.Uniform mode) (hF : F.restarts = false)
    (h : Reachable codec D F net) :
    Safe D mode (fun n => (net.daemon n).state) (net.datagrams.filterMap codec.read) :=
  (simulates codec D F).safety ⟨fun _ => .refl _, .refl _⟩
    (fun _ ha => Network.nodes_safe (F := unsentLost F) hU hF ha)
    (fun _ _ hrefines hsafe => hsafe.transfer hrefines.nodes hrefines.packets) h

/-- The daemons of the line are safe, node 0 has a route to node 2 with its labels, and the
DATA for node 2 is on its way to node 1, which sends it on. -/
theorem daemons_safe_line :
    Safe (.line .dlDsr) .dlDsr (fun n => (onLine.daemon n).state)
      (onLine.datagrams.filterMap wireCodec.read) ∧
    ⟨2, [0, 1, 2], [1, 2], 30010⟩ ∈ (onLine.daemon 0).state.routes.held 2 ∧
    ⟨.data Network.dataOnLine, .localhost 7000, .localhost 7001⟩ ∈
      onLine.datagrams.filterMap wireCodec.read ∧
    ((onLine.daemon 1).state.call Network.tenMillis
      (.packet (.data Network.dataOnLine) (.localhost 7000))).2.outbound =
        [⟨.data { Network.dataOnLine with routeCursor := 2 }, .localhost 7002⟩] :=
  ⟨daemons_safe (Deployment.line_uniform .dlDsr) rfl (reachable_after ..), by decide +kernel,
    by decide +kernel, by decide +kernel⟩

end DaemonNetwork

end DlDsr
