import DlDsr.Network.Steps
import DlDsr.Lib.Walk

/-!
# Cached routes are simple paths

An RREQ records the walk it has taken, and nothing keeps this walk from looping
when the duplicate cache expires or evicts. Routes are loop-free all the same:
an RREP travels back by *first* occurrences, and every hop of the way is checked
against the first occurrence too (`previous_in_trace`, `validate_rrep`). An RREP
that reaches its source has therefore seen every element of its trace at its first
occurrence (`RrepWalk.retraced`).

The invariant speaks of one packet or one node at a time, so it holds under loss,
duplication, reordering and restarts.
-/

namespace DlDsr

namespace Network

open ProtocolState

variable {D : Deployment} {F : Faults} {net : Network}

/-- What holds of every RREQ in flight to `dst`. -/
structure RreqWalk (D : Deployment) (dst : SocketAddr) (q : Rreq) : Prop where
  dsr_eq_trace : q.dsrPath = q.tracePath
  walk : IsWalk D.Mutual q.tracePath q.srcNodeId q.previousHop
  hops : q.tracePath.length = q.hopCount.toNat + 1
  /-- Its destination answers an RREQ, so it is met once, apart from a source
  that looks for itself. -/
  avoids : q.dstNodeId ∉ q.tracePath.tail
  receiver : ∃ v, D.Runs v ∧ v ∈ D.neighborsOf q.previousHop ∧ dst = D.addr v

/-- What holds of every RREP in flight from `sender` to `dst`: it is at the hop
from `b` to `a`, and has retraced everything from `b` on. -/
structure RrepWalk (D : Deployment) (sender dst : SocketAddr) (p : Rrep) : Prop where
  dsr_eq_trace : p.dsrPath = p.tracePath
  walk : IsWalk D.Mutual p.tracePath p.srcNodeId p.dstNodeId
  dst_runs : D.Runs p.dstNodeId
  short : p.tracePath.length ≤ (D.config p.dstNodeId).maxRreqHops.toNat + 1
  retraced : ∃ i a b, D.Runs a ∧ D.Runs b ∧
    p.tracePath[i]? = some a ∧ p.tracePath[i + 1]? = some b ∧
    dst = D.addr a ∧ sender = D.addr b ∧ FirstFrom p.tracePath (i + 1)

/-- What holds of every route that `n` holds for `d`. -/
structure RouteSimple (D : Deployment) (n d : NodeId) (route : RouteEntry) : Prop where
  walk : IsWalk D.Mutual route.dsrPath n d
  nodup : route.dsrPath.Nodup
  dst_runs : D.Runs d
  short : route.dsrPath.length ≤ (D.config d).maxRreqHops.toNat + 1
  long : 2 ≤ route.dsrPath.length

/-- The packet part of the invariant. -/
def PacketWalk (D : Deployment) (p : InFlight) : Prop :=
  match p.packet with
  | .rreq q => RreqWalk D p.dst q
  | .rrep q => RrepWalk D p.sender p.dst q
  | _ => True

/-- The node part of the invariant. -/
def RoutesSimple (D : Deployment) (n : NodeId) (s : ProtocolState) : Prop :=
  ∀ d, ∀ route ∈ s.routes.held d, RouteSimple D n d route

/-! ## RREQs -/

section Rreq

variable {n : NodeId} {s : ProtocolState} {q e : Rreq}

/-- The node that receives an RREQ is listed by the node that sent it. -/
theorem RreqWalk.receiver_mem (hq : RreqWalk D (D.addr n) q) (hP : D.Placed) (hn : D.Runs n) :
    n ∈ D.neighborsOf q.previousHop := by
  obtain ⟨v, hv, hmem, haddr⟩ := hq.receiver
  rw [hP.addr_injective hn hv haddr]
  exact hmem

/-- An admitted RREQ came over a link that both ends list. -/
theorem RreqWalk.mutual (hq : RreqWalk D (D.addr n) q) (hP : D.Placed) (hn : D.Runs n)
    (hcfg : s.config = D.config n) (ha : s.Admits q) : D.Mutual q.previousHop n := by
  refine ⟨hq.receiver_mem hP hn, ?_⟩
  rw [← logicalNeighbors_eq hcfg]
  exact ha.1

/-- A node that did not send the RREQ itself appends itself to both paths. -/
theorem RreqWalk.extend_of_ne (hq : RreqWalk D (D.addr n) q) (hcfg : s.config = D.config n)
    (hne : q.previousHop ≠ n) (he : s.extendRreq q = some e) :
    e = { q with
      dsrPath := q.tracePath ++ [n]
      dldsrLabelPath := e.dldsrLabelPath
      tracePath := q.tracePath ++ [n] } := by
  have hlast : q.tracePath.getLast? ≠ some s.config.nodeId := by
    rw [hq.walk.last, nodeId_eq hcfg]
    exact fun h => hne (Option.some.inj h)
  obtain ⟨heq, -⟩ := extendRreq_eq_some.mp he
  rw [hq.dsr_eq_trace, pushIfNotLast_of_ne hlast, nodeId_eq hcfg] at heq
  exact heq

/-- The extended RREQ carries the walk on to this node. -/
theorem RreqWalk.extend (hq : RreqWalk D (D.addr n) q) (hP : D.Placed) (hself : D.NoSelfNeighbor)
    (hn : D.Runs n) (hcfg : s.config = D.config n) (ha : s.Admits q)
    (he : s.extendRreq q = some e) :
    e = { q with
      dsrPath := q.tracePath ++ [n]
      dldsrLabelPath := e.dldsrLabelPath
      tracePath := q.tracePath ++ [n] } := by
  have hmutual := hq.mutual hP hn hcfg ha
  refine hq.extend_of_ne hcfg (fun heq => ?_) he
  rw [heq] at hmutual
  exact hself n hmutual.1

/-- The RREQ a node originates. -/
theorem floodRreq_walk {now requestId origin : Nat} {dst : NodeId} {o : OutboundPacket}
    (hP : D.Placed) (hcfg : s.config = D.config n) (ho : o ∈ s.floodRreq now dst requestId) :
    PacketWalk D ⟨o.packet, D.addr n, o.dst, origin⟩ := by
  obtain ⟨v, hv, hend, hpacket⟩ := mem_floodRreq.mp ho
  obtain ⟨hrun, haddr⟩ := (endpoint_eq_some hP hcfg).mp hend
  rw [logicalNeighbors_eq hcfg] at hv
  simp only [PacketWalk, hpacket, nodeId_eq hcfg]
  exact
    { dsr_eq_trace := rfl
      walk := .single n
      hops := rfl
      avoids := List.not_mem_nil
      receiver := ⟨v, hrun, hv, haddr⟩ }

/-- The copies a node forwards. -/
theorem rreqCopies_walk {origin : Nat} {o : OutboundPacket} (hP : D.Placed) (hn : D.Runs n)
    (hcfg : s.config = D.config n) (hq : RreqWalk D (D.addr n) q) (ha : s.Admits q)
    (hext : e = { q with
      dsrPath := q.tracePath ++ [n]
      dldsrLabelPath := e.dldsrLabelPath
      tracePath := q.tracePath ++ [n] })
    (hdst : s.config.nodeId ≠ q.dstNodeId) (ho : o ∈ s.rreqCopies e) :
    PacketWalk D ⟨o.packet, D.addr n, o.dst, origin⟩ := by
  obtain ⟨v, hv, -, hend, hpacket⟩ := mem_rreqCopies.mp ho
  obtain ⟨hrun, haddr⟩ := (endpoint_eq_some hP hcfg).mp hend
  rw [logicalNeighbors_eq hcfg] at hv
  have hne : q.dstNodeId ≠ n := by
    rw [← nodeId_eq hcfg]
    exact hdst.symm
  rw [hext] at hpacket
  simp only [PacketWalk, hpacket, nodeId_eq hcfg]
  refine
    { dsr_eq_trace := rfl
      walk := hq.walk.concat (hq.mutual hP hn hcfg ha)
      hops := ?_
      avoids := ?_
      receiver := ⟨v, hrun, hv, haddr⟩ }
  · rw [ha.hopCount_succ, List.length_append, hq.hops]
    rfl
  · have hnil : q.tracePath ≠ [] := List.ne_nil_of_length_pos hq.walk.length_pos
    rw [List.tail_append_of_ne_nil hnil, List.mem_append, List.mem_singleton]
    rintro (hmem | heq)
    · exact hq.avoids hmem
    · exact hne heq

/-- The RREP a destination answers with starts at the end of the trace. -/
theorem answerRreq_walk {prev : NodeId} {dst : SocketAddr} {origin : Nat} (hP : D.Placed)
    (hself : D.NoSelfNeighbor) (hn : D.Runs n) (hcfg : s.config = D.config n)
    (hq : RreqWalk D (D.addr n) q) (ha : s.Admits q) (he : s.extendRreq q = some e)
    (hdst : s.config.nodeId = q.dstNodeId)
    (hprev : previousInTrace e.tracePath s.config.nodeId = some prev)
    (hend : s.endpoint prev = some dst) :
    PacketWalk D ⟨.rrep (generatedRrep e), D.addr n, dst, origin⟩ := by
  have hext := hq.extend hP hself hn hcfg ha he
  have htrace : e.tracePath = q.tracePath ++ [n] := by rw [hext]
  obtain ⟨hrun, haddr⟩ := (endpoint_eq_some hP hcfg).mp hend
  rw [nodeId_eq hcfg] at hdst hprev
  rw [htrace] at hprev
  obtain ⟨i, hfirst, hi⟩ := previousInTrace_eq_some.mp hprev
  -- This node stands nowhere in the trace but at its end, or it is the source.
  have hlen : i + 1 = q.tracePath.length := by
    have hlt : i + 1 < (q.tracePath ++ [n]).length := (List.getElem?_eq_some_iff.mp hfirst.1).1
    rw [List.length_append, List.length_singleton] at hlt
    rcases Nat.lt_or_ge (i + 1) q.tracePath.length with hinside | hge
    · have htail : q.tracePath.tail[i]? = some n := by
        have hleft : (q.tracePath ++ [n])[i + 1]? = q.tracePath[i + 1]? :=
          List.getElem?_append_left hinside
        rw [List.getElem?_tail, ← hleft]
        exact hfirst.1
      rw [hdst] at htail
      exact absurd (List.mem_of_getElem? htail) hq.avoids
    · omega
  have hlast : i + 1 + 1 = (q.tracePath ++ [n]).length := by
    rw [hlen, List.length_append, List.length_singleton]
  rw [hext]
  show RrepWalk D (D.addr n) dst _
  exact
    { dsr_eq_trace := rfl
      walk := by
        have hwalk := hq.walk.concat (hq.mutual hP hn hcfg ha)
        rw [hdst] at hwalk ⊢
        exact hwalk
      dst_runs := by
        rw [hdst] at hn
        exact hn
      short := by
        have hlt : q.hopCount.toNat < s.config.maxRreqHops.toNat := UInt8.lt_iff_toNat_lt.mp ha.2
        show (q.tracePath ++ [n]).length ≤ (D.config q.dstNodeId).maxRreqHops.toNat + 1
        rw [hcfg, hdst] at hlt
        rw [List.length_append, hq.hops, List.length_singleton]
        omega
      retraced := ⟨i, prev, n, hrun, hn, hi, hfirst.1, haddr, rfl,
        .of_last hfirst hlast⟩ }

end Rreq

/-! ## RREPs -/

section Rrep

variable {n : NodeId} {s : ProtocolState} {p : Rrep} {sender : SocketAddr}

/-- A node that validates an RREP stands in the trace at the index the RREP has
reached, and nowhere before it. -/
theorem RrepWalk.validated (hp : RrepWalk D sender (D.addr n) p) (hP : D.Placed) (hn : D.Runs n)
    (hcfg : s.config = D.config n) (hok : s.validateRrep sender p.tracePath = .ok ()) :
    ∃ i, FirstAt p.tracePath i n ∧ FirstFrom p.tracePath i := by
  obtain ⟨i, a, b, ha, hb, hia, hib, hdst, hsender, hfrom⟩ := hp.retraced
  obtain ⟨m, k, hm, -, hk, hkm, -, -⟩ := validateRrep_ok_iff.mp hok
  rw [nodeId_eq hcfg] at hk
  obtain rfl : n = a := hP.addr_injective hn ha hdst
  obtain rfl : b = m := by
    rw [hsender, nodeIdByEndpoint_addr hP hcfg hb] at hm
    exact Option.some.inj hm
  obtain rfl : k = i := hfrom.retrace hia hib hk hkm
  exact ⟨k, hk, hfrom.step hk⟩

/-- A relayed RREP has retraced one more element. -/
theorem relayRrep_walk {prev : NodeId} {dst : SocketAddr} {origin : Nat} (hP : D.Placed)
    (hn : D.Runs n) (hcfg : s.config = D.config n) (hp : RrepWalk D sender (D.addr n) p)
    (hok : s.validateRrep sender p.tracePath = .ok ())
    (hprev : previousInTrace p.tracePath s.config.nodeId = some prev)
    (hend : s.endpoint prev = some dst) : PacketWalk D ⟨.rrep p, D.addr n, dst, origin⟩ := by
  obtain ⟨hrun, haddr⟩ := (endpoint_eq_some hP hcfg).mp hend
  obtain ⟨i, hfirst, hfrom⟩ := hp.validated hP hn hcfg hok
  rw [nodeId_eq hcfg] at hprev
  obtain ⟨k, hk, hkprev⟩ := previousInTrace_eq_some.mp hprev
  obtain rfl : k + 1 = i := hk.unique hfirst
  exact { hp with retraced := ⟨k, prev, n, hrun, hn, hkprev, hfirst.1, haddr, rfl, hfrom⟩ }

/-- The route cached at the source. -/
theorem routeOf_simple {clock : Clock} (hP : D.Placed) (hn : D.Runs n)
    (hcfg : s.config = D.config n) (hp : RrepWalk D sender (D.addr n) p)
    (hok : s.validateRrep sender p.tracePath = .ok ()) (hsrc : s.config.nodeId = p.srcNodeId) :
    RouteSimple D n p.dstNodeId (s.routeOf clock p) := by
  have hpath : (s.routeOf clock p).dsrPath = p.tracePath := by
    rw [routeOf_dsrPath, hp.dsr_eq_trace]
  rw [nodeId_eq hcfg] at hsrc
  obtain ⟨i, hfirst, hfrom⟩ := hp.validated hP hn hcfg hok
  -- The source stands at index 0, so everything has been retraced.
  obtain rfl : i = 0 := by
    refine Nat.le_zero.mp (hfirst.le_of_getElem? ?_)
    rw [hp.walk.getElem?_zero, hsrc]
  exact
    { walk := by rw [hpath, hsrc]; exact hp.walk
      nodup := by rw [hpath]; exact hfrom.nodup
      dst_runs := hp.dst_runs
      short := by rw [hpath]; exact hp.short
      long := by
        obtain ⟨i, a, b, -, -, -, hb, -⟩ := hp.retraced
        have hlt : i + 1 < p.tracePath.length := (List.getElem?_eq_some_iff.mp hb).1
        rw [hpath]
        omega }

end Rrep

/-! ## The invariant -/

/-- Serving a call keeps the routes of a node simple. -/
theorem routesSimple_call {n : NodeId} {s : ProtocolState} {clock : Clock} {input : Input}
    (hP : D.Placed) (hn : D.Runs n) (hcfg : s.config = D.config n) (hs : RoutesSimple D n s)
    (hinput : ∀ packet sender, input = .packet packet sender →
      ∃ origin, PacketWalk D ⟨packet, sender, D.addr n, origin⟩) :
    RoutesSimple D n (s.call clock input).1 := by
  intro d route hroute
  rcases held_call hroute with hold | ⟨p, sender, rfl, hok, hsrc, rfl, rfl⟩
  · exact hs d route hold
  · obtain ⟨origin, hp⟩ := hinput _ _ rfl
    exact routeOf_simple hP hn hcfg hp hok hsrc

/-- Serving a call sends only packets that satisfy the invariant. -/
theorem packetWalk_emits {n : NodeId} {s : ProtocolState} {clock : Clock} {input : Input}
    {o : OutboundPacket} {origin : Nat} (hP : D.Placed) (hself : D.NoSelfNeighbor)
    (hn : D.Runs n) (hcfg : s.config = D.config n)
    (hinput : ∀ packet sender, input = .packet packet sender →
      ∃ origin, PacketWalk D ⟨packet, sender, D.addr n, origin⟩)
    (h : s.Emits clock input o) : PacketWalk D ⟨o.packet, D.addr n, o.dst, origin⟩ := by
  cases h with
  | hello => trivial
  | helloReply => trivial
  | originate _ now dst id o _ _ _ ho => exact floodRreq_walk hP hcfg ho
  | forwardRreq q e sender o ha hnew he hdst ho =>
    obtain ⟨_, hq⟩ := hinput _ _ rfl
    exact rreqCopies_walk hP hn hcfg hq ha (hq.extend hP hself hn hcfg ha he) hdst ho
  | answerRreq q e sender dst prev ha hnew he hdst hprev hend =>
    obtain ⟨_, hq⟩ := hinput _ _ rfl
    exact answerRreq_walk hP hself hn hcfg hq ha he hdst hprev hend
  | relayRrep p sender dst prev hok hsrc hprev hend =>
    obtain ⟨_, hp⟩ := hinput _ _ rfl
    exact relayRrep_walk hP hn hcfg hp hok hprev hend
  | sendData dst payload route o hroute ho =>
    obtain ⟨d, hd, -⟩ := ho
    rw [hd]
    trivial
  | flushData p sender payload o hok hsrc hpending ho =>
    obtain ⟨d, hd, -⟩ := ho
    rw [hd]
    trivial
  | forwardData => trivial

theorem walkInvariant (hP : D.Placed) (hself : D.NoSelfNeighbor) :
    LocalInvariant D (RoutesSimple D) (PacketWalk D) where
  new _ _ _ hroute := absurd hroute List.not_mem_nil
  reorder := by
    intro n s s' hs h d route hroute
    rw [h.held_eq] at hroute
    exact hs d route hroute
  node hn hcfg hs hinput := routesSimple_call hP hn hcfg hs hinput
  packet hn hcfg _ hinput h := packetWalk_emits hP hself hn hcfg hinput h

/-- The walk invariant of a packet in flight. -/
theorem packetWalk (hP : D.Placed) (hself : D.NoSelfNeighbor) (h : Reachable D F net)
    {p : InFlight} (hp : p ∈ net.inFlight) : PacketWalk D p :=
  ((walkInvariant hP hself).reachable h).2 p hp

/-- The routes of every node of a reachable network are simple. -/
theorem routesSimple (hP : D.Placed) (hself : D.NoSelfNeighbor) (h : Reachable D F net)
    (n : NodeId) : RoutesSimple D n (net.node n) :=
  ((walkInvariant hP hself).reachable h).1 n

/-- **Cached routes are simple paths.** Whatever the limits of the duplicate
caches, a route that `s` holds for `d` leads from `s` to `d` over links that both
ends list, visits no node twice, and has at most `H + 1` nodes. -/
theorem cached_route_simple {H : UInt8} (hP : D.Placed) (hself : D.NoSelfNeighbor)
    (hH : ∀ n, D.Runs n → (D.config n).maxRreqHops = H) (h : Reachable D F net)
    {s d : NodeId} {route : RouteEntry} (hroute : route ∈ (net.node s).routes.held d) :
    route.dsrPath.head? = some s ∧ route.dsrPath.getLast? = some d ∧ route.dsrPath.Nodup ∧
      (∀ i a b, route.dsrPath[i]? = some a → route.dsrPath[i + 1]? = some b →
        b ∈ D.neighborsOf a ∧ a ∈ D.neighborsOf b) ∧
      route.dsrPath.length ≤ H.toNat + 1 := by
  have hsimple := routesSimple hP hself h s d route hroute
  refine ⟨hsimple.walk.head, hsimple.walk.last, hsimple.nodup,
    fun i a b ha hb => hsimple.walk.rel ha hb, ?_⟩
  rw [← hH d hsimple.dst_runs]
  exact hsimple.short

/-- On a line of three nodes, node 0 ends up with the route along the line. -/
theorem cached_route_simple_line :
    ∃ route ∈ ((after (.line .dsr) ⟨true, true, true⟩ discoveryOnLine).node 0).routes.held 2,
      route.dsrPath.Nodup ∧ route.dsrPath.length ≤ 65 := by
  have hroute : (⟨2, [0, 1, 2], [], 30010⟩ : RouteEntry) ∈
      ((after (.line .dsr) ⟨true, true, true⟩ discoveryOnLine).node 0).routes.held 2 := by
    decide +kernel
  obtain ⟨-, -, hnodup, -, hshort⟩ := cached_route_simple (H := 64) (Deployment.line_placed .dsr)
    (Deployment.line_noSelfNeighbor .dsr) (fun _ _ => rfl) (reachable_after ..) hroute
  exact ⟨_, hroute, hnodup, hshort⟩

end Network

end DlDsr
