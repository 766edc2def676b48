import DlDsr.Network.LabelPaths
import DlDsr.Node.Forwarding

/-!
# Honest DATA is never rejected

In a network whose nodes all run one protocol mode and do not restart, every DATA
packet in flight travels a simple path, stands one hop further than the node that
sent it, and is addressed to the node at its cursor (`DataOnPath`). So every check
of `handle_data` succeeds, and the packet is either sent on with only its cursor
changed or delivered (`dataOnPath_served`).

Beside this, the invariant remembers where a DATA packet comes from: the command
that submitted its payload and the call that first sent it (`Submitted`,
`Originated`).
-/

namespace DlDsr

namespace Network

open ProtocolState

variable {D : Deployment} {F : Faults} {net net' : Network} {mode : ProtocolMode}

/-! ## Usable routes -/

/-- A simple path from `a` to `b` with the labels that its nodes resolve. -/
structure Usable (D : Deployment) (mode : ProtocolMode) (net : Network) (path : List NodeId)
    (labels : List Label) (a b : NodeId) : Prop where
  walk : IsWalk D.Mutual path a b
  nodup : path.Nodup
  long : 2 ≤ path.length
  labelled : mode = .dlDsr → Labelled (Assigned net) path labels

theorem usable_of_held (hU : D.Uniform mode) (hF : F.restarts = false) (h : Reachable D F net)
    {n d : NodeId} {route : RouteEntry} (hroute : route ∈ (net.node n).routes.held d) :
    Usable D mode net route.dsrPath route.dldsrLabelPath n d := by
  have hsimple := routesSimple hU.placed hU.noSelf h n d route hroute
  refine ⟨hsimple.walk, hsimple.nodup, hsimple.long, fun hmode => ?_⟩
  subst hmode
  exact (labelsOk hU.placed hU.noSelf hU.allMode hF h n).routes d route hroute

theorem usable_of_rrep (hU : D.Uniform mode) (hF : F.restarts = false) (h : Reachable D F net)
    {n : NodeId} {p : Rrep} {sender : SocketAddr} {origin : Nat} (clock : Clock) (hn : D.Runs n)
    (hp : ⟨.rrep p, sender, D.addr n, origin⟩ ∈ net.inFlight)
    (hok : (net.node n).validateRrep sender p.tracePath = .ok ())
    (hsrc : (net.node n).config.nodeId = p.srcNodeId) :
    Usable D mode net ((net.node n).routeOf clock p).dsrPath
      ((net.node n).routeOf clock p).dldsrLabelPath n p.dstNodeId := by
  have hcfg := node_config h n
  have hwalk : RrepWalk D sender (D.addr n) p := packetWalk hU.placed hU.noSelf h hp
  have hsimple : RouteSimple D n p.dstNodeId ((net.node n).routeOf clock p) :=
    routeOf_simple hU.placed hn hcfg hwalk hok hsrc
  refine ⟨hsimple.walk, hsimple.nodup, hsimple.long, fun hmode => ?_⟩
  subst hmode
  have hmode : (net.node n).config.protocolMode = .dlDsr := by
    rw [hcfg]
    exact hU.allMode n hn
  rw [routeOf_dsrPath, routeOf_labels clock hmode]
  exact packetLabels hU.placed hU.noSelf hU.allMode hF h hp

/-- A node on a usable route, other than the last, knows its next hop. -/
theorem Usable.nextHop {path : List NodeId} {labels : List Label} {a b : NodeId}
    (hu : Usable D mode net path labels a b) (hU : D.Uniform mode) (hF : F.restarts = false)
    (h : Reachable D F net) {n : NodeId} {i : Nat} (hn : path[i]? = some n)
    (hlt : i + 1 < path.length) :
    ∃ next, D.Runs next ∧
      (net.node n).NextHop mode path labels i next (D.addr next) := by
  have hcfg := node_config h n
  have hnext : path[i + 1]? = some path[i + 1] := List.getElem?_eq_getElem hlt
  have hmutual := hu.walk.rel hn hnext
  have hruns := D.runs_of_mem_neighborsOf hmutual.2
  refine ⟨path[i + 1], hruns, hnext, ?_, ?_, fun hmode => ?_⟩
  · rw [logicalNeighbors_eq hcfg]
    exact hmutual.1
  · exact (endpoint_eq_some hU.placed hcfg).mpr ⟨hruns, rfl⟩
  · subst hmode
    -- The label of this link resolves to the next node of the path.
    have hlabelled := hu.labelled rfl
    have hi : i < labels.length := by
      have hlen := hlabelled.length
      omega
    have hl : labels[i]? = some labels[i] := List.getElem?_eq_getElem hi
    have hok := labelsOk hU.placed hU.noSelf hU.allMode hF h n
    obtain ⟨entry, hentry, hid, -, hend⟩ :=
      (hlabelled.link i n _ _ hn hnext hl).neighborByLabel hok
    exact ⟨labels[i], entry, hl, hentry, hid, hend⟩

/-- A node can send along a usable route that starts at it. -/
theorem Usable.canSend {route : RouteEntry} {n b : NodeId}
    (hu : Usable D mode net route.dsrPath route.dldsrLabelPath n b) (hU : D.Uniform mode)
    (hF : F.restarts = false) (h : Reachable D F net) :
    ∃ next, route.dsrPath[1]? = some next ∧ (net.node n).CanSend route (D.addr next) := by
  have hlong := hu.long
  obtain ⟨next, -, hnext⟩ := hu.nextHop hU hF h hu.walk.getElem?_zero (by omega)
  have hmode : (net.node n).config.protocolMode = mode := by
    rw [node_config h n]
    refine hU.allMode n ?_
    exact D.runs_of_mem_neighborsOf (hu.walk.rel hu.walk.getElem?_zero hnext.at_next).1
  refine ⟨next, hnext.at_next, next, ?_⟩
  rw [hmode]
  exact hnext

/-! ## DATA in flight -/

/-- What holds of every DATA packet in flight: it stands at a node of a simple path
whose predecessor has sent it. -/
structure DataOnPath (D : Deployment) (mode : ProtocolMode) (p : InFlight) (d : Data) : Prop where
  mode : d.protocolMode = mode
  walk : IsWalk D.Mutual d.dsrPath d.srcNodeId d.dstNodeId
  nodup : d.dsrPath.Nodup
  hop : ∃ i a b, d.routeCursor = i + 1 ∧ d.dsrPath[i]? = some a ∧ d.dsrPath[i + 1]? = some b ∧
    p.sender = D.addr a ∧ p.dst = D.addr b

/-- What the node that a DATA packet is addressed to does with it. -/
inductive DataServed (D : Deployment) (s : ProtocolState) (clock : Clock) (d : Data) :
    ProtocolState × ProtocolActions → Prop where
  | delivered (hlast : d.dsrPath.getLast? = some s.config.nodeId)
      (hdst : d.dstNodeId = s.config.nodeId) :
      DataServed D s clock d
        ({ s with metrics := { s.metrics with
            deliveredPackets := s.metrics.deliveredPackets + 1
            dataDelivered := s.metrics.dataDelivered + 1
            latencySamplesMs := s.metrics.latencySamplesMs ++ [clock 0 - d.createdAtMillis] } },
         { events :=
            [.dataDelivered s.config.nodeId d.srcNodeId d.dstNodeId d.sequence d.payload] })
  | forwarded (next : NodeId) (hlast : d.dsrPath.getLast? ≠ some s.config.nodeId)
      (hnext : d.dsrPath[d.routeCursor + 1]? = some next) :
      DataServed D s clock d (s.sendOn d (D.addr next))

/-- **No check of `handle_data` fails.** -/
theorem dataOnPath_served (hU : D.Uniform mode) (hF : F.restarts = false)
    (h : Reachable D F net) {n : NodeId} {d : Data} {sender : SocketAddr} {origin : Nat}
    (hn : D.Runs n) (hp : ⟨.data d, sender, D.addr n, origin⟩ ∈ net.inFlight)
    (hd : DataOnPath D mode ⟨.data d, sender, D.addr n, origin⟩ d) (clock : Clock) :
    d.dsrPath[d.routeCursor]? = some n ∧
      DataServed D (net.node n) clock d ((net.node n).handleData clock sender d) := by
  have hcfg := node_config h n
  have hid : (net.node n).config.nodeId = n := nodeId_eq hcfg
  obtain ⟨i, a, b, hcursor, ha, hb, hsender, hdst⟩ := hd.hop
  have hmutual := hd.walk.rel ha hb
  obtain rfl : n = b := hU.placed.addr_injective hn (D.runs_of_mem_neighborsOf hmutual.2) hdst
  have hlt : i + 1 < d.dsrPath.length := (List.getElem?_eq_some_iff.mp hb).1
  have hu : Usable D mode net d.dsrPath d.dldsrLabelPath d.srcNodeId d.dstNodeId := by
    refine ⟨hd.walk, hd.nodup, by omega, fun hmode => ?_⟩
    subst hmode
    exact packetLabels hU.placed hU.noSelf hU.allMode hF h hp
  have hadmitted : (net.node n).DataAdmitted sender d a := by
    refine ⟨?_, ?_, ?_⟩
    · rw [hd.mode, hcfg]
      exact (hU.allMode n hn).symm
    · have hsender : sender = D.addr a := hsender
      rw [hsender]
      exact nodeIdByEndpoint_addr hU.placed hcfg (D.runs_of_mem_neighborsOf hmutual.1)
    · rw [logicalNeighbors_eq hcfg]
      exact hmutual.2
  refine ⟨by rw [hcursor]; exact hb, ?_⟩
  by_cases hlast : i + 1 + 1 = d.dsrPath.length
  · -- The cursor is at the end of the path: this is the destination.
    have hgetLast : d.dsrPath.getLast? = some n := by
      rw [List.getLast?_eq_getElem?, ← hlast]
      exact hb
    have hdstId : d.dstNodeId = n := Option.some.inj (hd.walk.last.symm.trans hgetLast)
    rw [handleData_deliver hadmitted (by rw [hid, hdstId]) hd.nodup hcursor ha
      (by rw [hid]; exact hb) (by rw [hid]; exact hgetLast) ?_]
    · exact .delivered (by rw [hid]; exact hgetLast) (by rw [hid, hdstId])
    · intro hmode
      have hlen := (hu.labelled (hd.mode.symm.trans hmode)).length
      omega
  · obtain ⟨next, -, hnext⟩ := hu.nextHop hU hF h hb (by omega)
    -- The path has no repetition, so this node is not at its end as well.
    have hgetLast : d.dsrPath.getLast? ≠ some n := by
      intro hend
      rw [List.getLast?_eq_getElem?] at hend
      have heq := List.nodup_iff_getElem?_ne_getElem?.mp hd.nodup (i + 1)
        (d.dsrPath.length - 1) (by omega) (by omega)
      exact heq (hb.trans hend.symm)
    rw [← hcursor, ← hd.mode] at hnext
    rw [handleData_forward hadmitted ?_ (by rw [hcursor, hid]; exact hb) hnext]
    · exact .forwarded next (by rw [hid]; exact hgetLast) hnext.at_next
    · intro heq
      rw [hid] at heq
      exact hgetLast (hd.walk.last.trans (congrArg some heq))

/-! ## Where DATA comes from -/

/-- `n` was asked to send `payload` to `dst`. -/
def Submitted (net : Network) (n dst : NodeId) (payload : List UInt8) : Prop :=
  ∃ c ∈ callsOf net.history, c.nodeId = n ∧ c.input = .command (.discoverAndSend dst payload)

/-- The source of `d` has sent it, with cursor 1. -/
def Originated (net : Network) (d : Data) : Prop :=
  ∃ c ∈ callsOf net.history, c.nodeId = d.srcNodeId ∧
    ∃ o ∈ c.actions.outbound, o.packet = .data { d with routeCursor := 1 }

/-- What the invariant says of a packet in flight. -/
def PacketData (D : Deployment) (mode : ProtocolMode) (net : Network) (p : InFlight) : Prop :=
  ∀ d, p.packet = .data d →
    DataOnPath D mode p d ∧ Submitted net d.srcNodeId d.dstNodeId d.payload ∧ Originated net d

/-- What the invariant says of the queue of a node. -/
def QueueSubmitted (net : Network) (n : NodeId) (s : ProtocolState) : Prop :=
  ∀ q ∈ s.pendingData, Submitted net n q.dstNodeId q.payload

theorem Submitted.step (hs : StepCases D F net net') {n dst : NodeId} {payload : List UInt8}
    (h : Submitted net n dst payload) : Submitted net' n dst payload := by
  obtain ⟨c, hc, hn, hinput⟩ := h
  exact ⟨c, callsOf_mono hs hc, hn, hinput⟩

theorem Originated.step (hs : StepCases D F net net') {d : Data} (h : Originated net d) :
    Originated net' d := by
  obtain ⟨c, hc, hn, ho⟩ := h
  exact ⟨c, callsOf_mono hs hc, hn, ho⟩

/-- A packet sent along a usable route stands on its path. -/
theorem originatesData_onPath (hU : D.Uniform mode) (hF : F.restarts = false)
    (h : Reachable D F net) {n dst : NodeId} {payload : List UInt8} {route : RouteEntry}
    {o : OutboundPacket} {origin : Nat}
    (hu : Usable D mode net route.dsrPath route.dldsrLabelPath n dst)
    (ho : (net.node n).OriginatesData dst payload route o) :
    ∃ d : Data, o.packet = .data { d with routeCursor := 1 } ∧ d.srcNodeId = n ∧ d.dstNodeId = dst ∧
      d.payload = payload ∧
      DataOnPath D mode ⟨o.packet, D.addr n, o.dst, origin⟩ { d with routeCursor := 1 } := by
  have hcfg := node_config h n
  obtain ⟨next, hnext, hsend⟩ := hu.canSend hU hF h
  obtain ⟨d, hpacket, hsrc, hdst, hpayload, hmode, hcursor, hpath, hlabels, hend⟩ := ho
  have hn : D.Runs n :=
    D.runs_of_mem_neighborsOf (hu.walk.rel hu.walk.getElem?_zero hnext).1
  -- The packet that is looked up has the cursor 0, the one that is sent the cursor 1.
  have haddr : o.dst = D.addr next := by
    obtain ⟨next', hhop⟩ := hsend
    rw [← hmode, ← hpath, ← hlabels, ← hcursor] at hhop
    rw [nextDataEndpoint_of_nextHop hhop] at hend
    exact (Option.some.inj hend).symm
  rw [nodeId_eq hcfg] at hsrc
  refine ⟨d, hpacket, hsrc, hdst, hpayload, ?_⟩
  exact
    { mode := by
        show d.protocolMode = mode
        rw [hmode, hcfg]
        exact hU.allMode n hn
      walk := by
        show IsWalk D.Mutual d.dsrPath d.srcNodeId d.dstNodeId
        rw [hpath, hsrc, hdst]
        exact hu.walk
      nodup := by
        show d.dsrPath.Nodup
        rw [hpath]
        exact hu.nodup
      hop := by
        refine ⟨0, n, next, rfl, ?_, ?_, rfl, haddr⟩
        · show d.dsrPath[0]? = some n
          rw [hpath]
          exact hu.walk.getElem?_zero
        · show d.dsrPath[1]? = some next
          rw [hpath]
          exact hnext }

/-- A packet that is sent on stands one hop further. -/
theorem forwardData_onPath (hU : D.Uniform mode) (hF : F.restarts = false)
    (h : Reachable D F net) {n : NodeId} {d : Data} {sender dst : SocketAddr} {origin origin' : Nat}
    {clock : Clock} (hn : D.Runs n)
    (hp : ⟨.data d, sender, D.addr n, origin⟩ ∈ net.inFlight)
    (hd : DataOnPath D mode ⟨.data d, sender, D.addr n, origin⟩ d)
    (ho : ⟨.data { d with routeCursor := d.routeCursor + 1 }, dst⟩ ∈
      ((net.node n).handleData clock sender d).2.outbound) :
    DataOnPath D mode
      ⟨.data { d with routeCursor := d.routeCursor + 1 }, D.addr n, dst, origin'⟩
      { d with routeCursor := d.routeCursor + 1 } := by
  obtain ⟨hme, hserved⟩ := dataOnPath_served hU hF h hn hp hd clock
  generalize (net.node n).handleData clock sender d = r at hserved ho
  cases hserved with
  | delivered => cases ho
  | forwarded next hlast hnext =>
    have hdst : dst = D.addr next := congrArg OutboundPacket.dst (List.mem_singleton.mp ho)
    exact
      { mode := hd.mode
        walk := hd.walk
        nodup := hd.nodup
        hop := ⟨d.routeCursor, n, next, rfl, hme, hnext, rfl, hdst⟩ }

theorem dataInvariant (hU : D.Uniform mode) (hF : F.restarts = false) :
    GlobalInvariant D F QueueSubmitted (PacketData D mode) where
  new _ _ _ hq := absurd hq List.not_mem_nil
  node_mono _ hs h q hq := (h q hq).step hs
  packet_mono := by
    intro net net' p _ hs h d hd
    obtain ⟨hpath, hsubmitted, horiginated⟩ := h d hd
    exact ⟨hpath, hsubmitted.step hs, horiginated.step hs⟩
  reorder := by
    intro net n s s' h hr q hq
    rw [hr.pendingData] at hq
    exact h q hq
  node := by
    intro net n clock input rest origin _ hn hnode _ hserved q hq
    rcases call_pendingData hq with hold | hinput
    · exact (hnode n q hold).step (served_step F clock hn hserved)
    · exact ⟨_, mem_callsOf_call, rfl, hinput⟩
  packet := by
    intro net n clock input o rest origin h hn hnode hpkt hserved ho d hd
    have hs := served_step F clock hn hserved
    rcases (emits_of_mem ho).of_data hd with ⟨dst, payload, route, rfl, hroute, horigin⟩ |
      ⟨p, sender, payload, rfl, hvalid, hsrc, hpending, horigin⟩ | ⟨d₀, sender, rfl, rfl⟩
    · have hu := usable_of_held hU hF h (RouteCache.shortest_mem hroute).1
      obtain ⟨d', hpacket, hsrc, hdst, hpayload, hpath⟩ :=
        originatesData_onPath hU hF h hu horigin
      obtain rfl : d = { d' with routeCursor := 1 } :=
        Packet.data.inj (hd.symm.trans hpacket)
      refine ⟨hpath, ⟨_, mem_callsOf_call, hsrc.symm, ?_⟩,
        ⟨_, mem_callsOf_call, hsrc.symm, o, ho, hpacket⟩⟩
      show Input.command _ = .command (.discoverAndSend d'.dstNodeId d'.payload)
      rw [hdst, hpayload]
    · have hu := usable_of_rrep hU hF h clock hn hserved.inFlight hvalid hsrc
      obtain ⟨d', hpacket, hsrc', hdst, hpayload, hpath⟩ :=
        originatesData_onPath hU hF h hu horigin
      obtain rfl : d = { d' with routeCursor := 1 } :=
        Packet.data.inj (hd.symm.trans hpacket)
      refine ⟨hpath, ?_, ⟨_, mem_callsOf_call, hsrc'.symm, o, ho, hpacket⟩⟩
      show Submitted _ d'.srcNodeId d'.dstNodeId d'.payload
      rw [hsrc', hdst, hpayload]
      exact (hnode n _ hpending).step hs
    · have hmem := hserved.inFlight
      obtain ⟨hpath, hsubmitted, horiginated⟩ := hpkt _ hmem d₀ rfl
      obtain ⟨_, dst⟩ := o
      obtain rfl := hd
      exact ⟨forwardData_onPath hU hF h hn hmem hpath ho, hsubmitted.step hs, horiginated.step hs⟩

theorem packetData (hU : D.Uniform mode) (hF : F.restarts = false) (h : Reachable D F net)
    {p : InFlight} (hp : p ∈ net.inFlight) : PacketData D mode net p :=
  ((dataInvariant hU hF).reachable h).2 p hp

/-! ## No DATA is dropped -/

/-- A call that is served drops no DATA, unless it is a tick. -/
theorem call_keepsData (hU : D.Uniform mode) (hF : F.restarts = false) (h : Reachable D F net)
    {n : NodeId} {clock : Clock} {input : Input} {origin : Nat} {rest : List InFlight}
    (hn : D.Runs n) (hserved : Served D net n input origin rest)
    (hinput : ∀ now, input ≠ .tick now) :
    KeepsData (net.node n) ((net.node n).call clock input).1
      ((net.node n).call clock input).2 := by
  cases input with
  | command c =>
    obtain ⟨dst, payload⟩ := c
    refine discoverAndSend_keepsData fun route hroute => ?_
    have hu := usable_of_held hU hF h (RouteCache.shortest_mem hroute).1
    obtain ⟨next, -, hsend⟩ := hu.canSend hU hF h
    exact ⟨_, hsend⟩
  | tick now => exact absurd rfl (hinput now)
  | hello => exact ⟨rfl, fun _ _ _ => List.not_mem_nil⟩
  | packet packet sender =>
    have hmem := hserved.inFlight
    cases packet with
    | hello p => exact handleHello_keepsData _ clock p sender
    | helloReply p => exact handleHelloReply_keepsData _ p
    | rreq q => exact handleRreq_keepsData _ clock q
    | rrep p =>
      refine handleRrep_keepsData fun hok hsrc => ?_
      have hu := usable_of_rrep hU hF h clock hn hmem hok hsrc
      obtain ⟨next, -, hsend⟩ := hu.canSend hU hF h
      exact ⟨_, hsend⟩
    | data d =>
      obtain ⟨hpath, -⟩ := packetData hU hF h hmem d rfl
      obtain ⟨-, hd⟩ := dataOnPath_served hU hF h hn hmem hpath clock
      show KeepsData _ ((net.node n).handleData clock sender d).1
        ((net.node n).handleData clock sender d).2
      generalize (net.node n).handleData clock sender d = r at hd ⊢
      cases hd with
      | delivered =>
        refine ⟨rfl, fun m dst reason hmem => ?_⟩
        have := List.mem_singleton.mp hmem
        cases this
      | forwarded => exact ⟨rfl, fun _ _ _ => List.not_mem_nil⟩
    | ack _ => exact ⟨rfl, fun _ _ _ => List.not_mem_nil⟩
    | error _ => exact ⟨rfl, fun _ _ _ => List.not_mem_nil⟩

/-- In the history of a reachable network, only ticks have dropped DATA. -/
theorem history_keepsData (hU : D.Uniform mode) (hF : F.restarts = false)
    (h : Reachable D F net) :
    ∀ c ∈ callsOf net.history, (∀ now, c.input ≠ .tick now) →
      KeepsData c.before c.after c.actions := by
  refine reachable_induction (fun net => ∀ c ∈ callsOf net.history, (∀ now, c.input ≠ .tick now) →
    KeepsData c.before c.after c.actions) (fun c hc => absurd hc List.not_mem_nil) ?_ h
  intro net net' hreach ih hs c hc hinput
  cases hs with
  | call hn hserved =>
    rcases List.mem_cons.mp hc with rfl | hold
    · exact call_keepsData hU hF hreach hn hserved hinput
    · exact ih c hold hinput
  | lose => exact ih c hc hinput
  | duplicate => exact ih c hc hinput
  | restart => exact ih c hc hinput
  | reorder => exact ih c hc hinput

/-- **Honest DATA is never rejected.** A DATA packet in flight is on its way to the
node at its cursor, which delivers it if it is the last node of the path and sends
exactly one copy on otherwise, whatever its clock reads; the packet was sent by its
source for a payload submitted there; and no call of the history but a tick has
dropped DATA. -/
theorem data_forwarded_or_delivered (hU : D.Uniform mode) (hF : F.restarts = false)
    (h : Reachable D F net) :
    (∀ p ∈ net.inFlight, ∀ d, p.packet = .data d →
      (∃ n, D.Runs n ∧ p.dst = D.addr n ∧ d.dsrPath[d.routeCursor]? = some n) ∧
      Submitted net d.srcNodeId d.dstNodeId d.payload ∧ Originated net d ∧
      ∀ n clock, D.Runs n → p.dst = D.addr n →
        d.dsrPath[d.routeCursor]? = some n ∧
        (d.dsrPath.getLast? = some n →
          ((net.node n).handleData clock p.sender d).2 =
            { events := [.dataDelivered n d.srcNodeId d.dstNodeId d.sequence d.payload] }) ∧
        (d.dsrPath.getLast? ≠ some n →
          ∃ next, d.dsrPath[d.routeCursor + 1]? = some next ∧
            ((net.node n).handleData clock p.sender d).2 =
              { outbound :=
                [⟨.data { d with routeCursor := d.routeCursor + 1 }, D.addr next⟩] })) ∧
    ∀ c ∈ callsOf net.history, (∀ now, c.input ≠ .tick now) →
      KeepsData c.before c.after c.actions := by
  refine ⟨fun p hp d hd => ?_, history_keepsData hU hF h⟩
  obtain ⟨packet, sender, dst, origin⟩ := p
  subst hd
  obtain ⟨hpath, hsubmitted, horiginated⟩ := packetData hU hF h hp d rfl
  obtain ⟨i, a, b, hcursor, ha, hb, -, hdst⟩ := hpath.hop
  have hb' : D.Runs b := D.runs_of_mem_neighborsOf (hpath.walk.rel ha hb).2
  refine ⟨⟨b, hb', hdst, by rw [hcursor]; exact hb⟩, hsubmitted, horiginated, ?_⟩
  intro n clock hn hpn
  obtain rfl : dst = D.addr n := hpn
  have hid : (net.node n).config.nodeId = n := nodeId_eq (node_config h n)
  obtain ⟨hme, hserved⟩ := dataOnPath_served hU hF h hn hp hpath clock
  refine ⟨hme, ?_, ?_⟩
  · intro hlast
    show ((net.node n).handleData clock sender d).2 = _
    generalize (net.node n).handleData clock sender d = r at hserved ⊢
    cases hserved with
    | delivered => rw [hid]
    | forwarded next hne => exact absurd (hid.symm ▸ hlast) hne
  · intro hlast
    show ∃ next, _ ∧ ((net.node n).handleData clock sender d).2 = _
    generalize (net.node n).handleData clock sender d = r at hserved ⊢
    cases hserved with
    | delivered hend => exact absurd (hid ▸ hend) hlast
    | forwarded next _ hnext => exact ⟨next, hnext, rfl⟩

/-- The DATA packet that `labelsOnLine` leaves in flight to node 1. -/
def dataOnLine : Data :=
  { srcNodeId := 0, dstNodeId := 2, sequence := 1, protocolMode := .dlDsr, routeCursor := 1,
    dsrPath := [0, 1, 2], dldsrLabelPath := [1, 2], payload := [7], createdAtMillis := 10 }

/-- On a line of three nodes, node 1 passes the DATA for node 2 on. -/
theorem data_forwarded_or_delivered_line :
    let net := after (.line .dlDsr) ⟨true, true, false⟩ labelsOnLine
    ∃ next, dataOnLine.dsrPath[2]? = some next ∧
      ((net.node 1).handleData tenMillis (.localhost 7000) dataOnLine).2 =
        { outbound := [⟨.data { dataOnLine with routeCursor := 2 },
          (Deployment.line .dlDsr).addr next⟩] } := by
  intro net
  have hp : ⟨.data dataOnLine, .localhost 7000, .localhost 7001, 11⟩ ∈ net.inFlight := by
    decide +kernel
  obtain ⟨-, -, -, hserved⟩ := (data_forwarded_or_delivered (Deployment.line_uniform .dlDsr) rfl
    (reachable_after ..)).1 _ hp dataOnLine rfl
  exact (hserved 1 tenMillis (by decide +kernel) rfl).2.2 (by decide)

end Network

end DlDsr
