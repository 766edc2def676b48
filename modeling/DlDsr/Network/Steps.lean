import DlDsr.Network.Model
import DlDsr.Node.Emissions
import Mathlib.Data.List.Perm.Basic

/-!
# Steps and runs of a network

`StepCases` lists what a step can do to a network, once for all. For properties
of nodes and of packets in flight, `GlobalInvariant` packages the induction over
runs: if a node that served only good packets sends only good packets, and what is
good stays good, then every reachable network is good. `LocalInvariant` is the
case in which good does not depend on the rest of the network.

The second half translates the topology lookups of a node's own copy of the
configuration into the terms of the deployment (`neighborsOf`, `addr`, `Runs`).
-/

namespace DlDsr

/-! ## The topology as the nodes see it -/

namespace Deployment

variable {D : Deployment}

/-- With distinct endpoints, running nodes are told apart by their addresses. -/
theorem Placed.addr_injective (hP : D.Placed) {m n : NodeId} (hm : D.Runs m) (hn : D.Runs n)
    (h : D.addr m = D.addr n) : m = n := by
  obtain ⟨tm, hmem, rfl⟩ := hm
  obtain ⟨tn, hnmem, rfl⟩ := hn
  rw [hP.bind_endpoint tm hmem, hP.bind_endpoint tn hnmem] at h
  rw [List.inj_on_of_nodup_map hP.endpoints_nodup hmem hnmem h]

theorem Placed.node_of_runs (hP : D.Placed) {n : NodeId} (hn : D.Runs n) :
    ∃ tn, D.topology.node n = some tn ∧ tn.endpoint = D.addr n := by
  obtain ⟨tn, hmem, rfl⟩ := hn
  exact ⟨tn, Topology.node_eq_some hP.ids_nodup hmem, (hP.bind_endpoint tn hmem).symm⟩

/-- The node that has an endpoint. -/
def nodeAt (D : Deployment) (endpoint : SocketAddr) : Option NodeId :=
  (D.topology.nodes.find? fun node => node.endpoint == endpoint).map TopologyNode.nodeId

theorem Placed.nodeAt_addr (hP : D.Placed) {m : NodeId} (hm : D.Runs m) :
    D.nodeAt (D.addr m) = some m := by
  unfold nodeAt
  obtain ⟨tm, hmem, rfl⟩ := hm
  have hend := hP.bind_endpoint tm hmem
  cases hfind : D.topology.nodes.find? fun node => node.endpoint == D.addr tm.nodeId with
  | none =>
    have := List.find?_eq_none.mp hfind tm hmem
    simp [hend] at this
  | some tn =>
    have htn : tn.endpoint = D.addr tm.nodeId := by simpa using List.find?_some hfind
    have htm : tm = tn := List.inj_on_of_nodup_map hP.endpoints_nodup hmem
      (List.mem_of_find?_eq_some hfind) (by rw [htn, hend])
    rw [htm]
    rfl

theorem mem_node_of_mem_neighborsOf {m n : NodeId} (h : m ∈ D.neighborsOf n) :
    ∃ tn ∈ D.topology.nodes, tn.nodeId = n ∧ m ∈ tn.neighbors := by
  unfold neighborsOf at h
  cases hn : D.topology.node n with
  | none => simp [hn] at h
  | some tn =>
    rw [hn] at h
    exact ⟨tn, (Topology.mem_of_node hn).1, (Topology.mem_of_node hn).2, h⟩

/-- A node with a neighbour is in the topology. -/
theorem runs_of_mem_neighborsOf {m n : NodeId} (h : m ∈ D.neighborsOf n) : D.Runs n := by
  obtain ⟨tn, hmem, hid, -⟩ := mem_node_of_mem_neighborsOf h
  exact ⟨tn, hmem, hid⟩

/-- Checking the node list suffices. -/
theorem noSelfNeighbor_of_nodes
    (h : (D.topology.nodes.all fun tn => !tn.neighbors.contains tn.nodeId) = true) :
    D.NoSelfNeighbor := by
  intro n hn
  obtain ⟨tn, hmem, rfl, hself⟩ := mem_node_of_mem_neighborsOf hn
  have hcheck := List.all_eq_true.mp h tn hmem
  simp [hself] at hcheck

theorem neighborsListed_of_nodes
    (h : (D.topology.nodes.all fun tn => tn.neighbors.all fun m => decide (D.Runs m)) = true) :
    D.NeighborsListed := by
  intro n m hm
  obtain ⟨tn, hmem, -, hneighbor⟩ := mem_node_of_mem_neighborsOf hm
  exact of_decide_eq_true (List.all_eq_true.mp (List.all_eq_true.mp h tn hmem) m hneighbor)

theorem line_placed (mode : ProtocolMode) : (line mode).Placed := by
  cases mode <;> exact ⟨by decide +kernel, by decide +kernel, by decide +kernel⟩

theorem line_noSelfNeighbor (mode : ProtocolMode) : (line mode).NoSelfNeighbor := by
  apply noSelfNeighbor_of_nodes
  cases mode <;> decide +kernel

theorem line_neighborsListed (mode : ProtocolMode) : (line mode).NeighborsListed := by
  apply neighborsListed_of_nodes
  cases mode <;> decide +kernel

theorem line_uniform (mode : ProtocolMode) : (line mode).Uniform mode :=
  ⟨line_placed mode, line_noSelfNeighbor mode, line_neighborsListed mode, fun _ _ => rfl⟩

end Deployment

namespace ProtocolState

variable {D : Deployment} {s : ProtocolState} {n : NodeId}

theorem nodeId_eq (hcfg : s.config = D.config n) : s.config.nodeId = n := by
  rw [hcfg, D.config_nodeId]

theorem topology_eq (hcfg : s.config = D.config n) : s.config.topology = D.topology := by
  rw [hcfg, D.config_topology]

theorem logicalNeighbors_eq (hcfg : s.config = D.config n) :
    s.logicalNeighbors = D.neighborsOf n := by
  unfold logicalNeighbors Deployment.neighborsOf
  rw [topology_eq hcfg, nodeId_eq hcfg]

theorem areAdjacent_iff (hcfg : s.config = D.config n) {a b : NodeId} :
    s.areAdjacent a b = true ↔ b ∈ D.neighborsOf a := by
  unfold areAdjacent Deployment.neighborsOf
  rw [topology_eq hcfg]
  cases D.topology.node a with
  | none => simp
  | some tn => simp

theorem endpoint_eq_some (hP : D.Placed) (hcfg : s.config = D.config n) {m : NodeId}
    {a : SocketAddr} : s.endpoint m = some a ↔ D.Runs m ∧ a = D.addr m := by
  unfold endpoint
  rw [topology_eq hcfg]
  constructor
  · intro h
    obtain ⟨tm, htm, rfl⟩ := Option.map_eq_some_iff.mp h
    obtain ⟨hmem, rfl⟩ := Topology.mem_of_node htm
    exact ⟨⟨tm, hmem, rfl⟩, (hP.bind_endpoint tm hmem).symm⟩
  · rintro ⟨hm, rfl⟩
    obtain ⟨tm, htm, hend⟩ := hP.node_of_runs hm
    rw [htm, ← hend]
    rfl

theorem nodeIdByEndpoint_addr (hP : D.Placed) (hcfg : s.config = D.config n) {m : NodeId}
    (hm : D.Runs m) : s.nodeIdByEndpoint (D.addr m) = some m := by
  unfold nodeIdByEndpoint
  rw [topology_eq hcfg]
  exact hP.nodeAt_addr hm

end ProtocolState

namespace Network

variable {D : Deployment} {F : Faults} {net net' : Network}

/-! ## Step cases -/

/-- `List.getElem_cons_eraseIdx_perm` for a lookup. -/
theorem perm_eraseIdx {α : Type} {l : List α} {i : Nat} {x : α} (h : l[i]? = some x) :
    l.Perm (x :: l.eraseIdx i) := by
  obtain ⟨hi, rfl⟩ := List.getElem?_eq_some_iff.mp h
  exact (List.getElem_cons_eraseIdx_perm hi).symm

/-- Where a call of node `n` comes from: `input` is local and the call starts a
new origin, or it is a packet in flight to `n`, taken out of flight. The last
argument is what stays in flight. -/
inductive Served (D : Deployment) (net : Network) (n : NodeId) :
    Input → Nat → List InFlight → Prop where
  | act (input : Input) (h : input.isLocal) : Served D net n input net.history.length net.inFlight
  | deliver (p : InFlight) (rest : List InFlight) (hp : net.inFlight.Perm (p :: rest))
      (hdst : p.dst = D.addr n) : Served D net n (.packet p.packet p.sender) p.origin rest

/-- What a step can do. -/
inductive StepCases (D : Deployment) (F : Faults) (net : Network) : Network → Prop where
  | call {n : NodeId} {clock : Clock} {input : Input} {origin : Nat} {rest : List InFlight}
      (hn : D.Runs n) (hserved : Served D net n input origin rest) :
      StepCases D F net ({ net with inFlight := rest }.call n clock input origin)
  | lose {p : InFlight} {rest : List InFlight} (hF : F.loss)
      (hp : net.inFlight.Perm (p :: rest)) :
      StepCases D F net { net with inFlight := rest }
  | duplicate {p : InFlight} (hF : F.duplication) (hp : p ∈ net.inFlight) :
      StepCases D F net { net with inFlight := p :: net.inFlight }
  | restart {n : NodeId} (hF : F.restarts) (hn : D.Runs n) :
      StepCases D F net
        { net with
          node := Function.update net.node n (.new (D.config n))
          history := .restart n :: net.history }
  | reorder {n : NodeId} {s' : ProtocolState} (h : (net.node n).Reorder s') :
      StepCases D F net { net with node := Function.update net.node n s' }

theorem served_step (F : Faults) (clock : Clock) {n : NodeId} {input : Input} {origin : Nat}
    {rest : List InFlight} (hn : D.Runs n) (hserved : Served D net n input origin rest) :
    StepCases D F net ({ net with inFlight := rest }.call n clock input origin) :=
  .call hn hserved

theorem step_cases (h : Step D F net net') : StepCases D F net net' := by
  cases h with
  | reorder n s' h => exact .reorder h
  | action a hF h =>
    cases a with
    | act n clock input =>
      simp only [perform, Option.ite_none_right_eq_some, Option.some.injEq] at h
      obtain ⟨⟨hn, hlocal⟩, rfl⟩ := h
      exact .call hn (.act input hlocal)
    | deliver i n clock =>
      simp only [perform] at h
      split at h
      · next p hp =>
        simp only [Option.ite_none_right_eq_some, Option.some.injEq] at h
        obtain ⟨⟨hn, hdst⟩, rfl⟩ := h
        exact .call hn (.deliver p _ (perm_eraseIdx hp) hdst)
      · cases h
    | lose i =>
      simp only [perform, Option.ite_none_right_eq_some, Option.some.injEq] at h
      obtain ⟨hi, rfl⟩ := h
      exact .lose hF (perm_eraseIdx (List.getElem?_eq_getElem hi))
    | duplicate i =>
      obtain ⟨p, hp, rfl⟩ := Option.map_eq_some_iff.mp h
      exact .duplicate hF (List.mem_of_getElem? hp)
    | restart n =>
      simp only [perform, Option.ite_none_right_eq_some, Option.some.injEq] at h
      obtain ⟨hn, rfl⟩ := h
      exact .restart hF hn

/-- Whatever is preserved by every kind of step holds at the end of a run if it holds
at its beginning. -/
theorem run_induction (Inv : Network → Prop) {net₀ : Network} (h₀ : Reachable D F net₀)
    (hinit : Inv net₀)
    (hstep : ∀ net net', Reachable D F net → Inv net → StepCases D F net net' → Inv net')
    (h : Run D F net₀ net) : Inv net := by
  induction h with
  | refl => exact hinit
  | tail hrun hs ih => exact hstep _ _ (h₀.trans hrun) ih (step_cases hs)

/-- Whatever holds initially and is preserved by every kind of step holds in
every reachable network. -/
theorem reachable_induction (Inv : Network → Prop) (hinit : Inv (init D))
    (hstep : ∀ net net', Reachable D F net → Inv net → StepCases D F net net' → Inv net')
    (h : Reachable D F net) : Inv net :=
  run_induction Inv .refl hinit hstep h

/-- What a transport may do, one with more faults may do as well. -/
theorem Step.mono {F' : Faults} (hF : ∀ a, F'.permits a → F.permits a)
    (h : Step D F' net net') : Step D F net net' := by
  cases h with
  | reorder n s' hr => exact .reorder n s' hr
  | action a ha h => exact .action a (hF a ha) h

theorem run_mono {F' : Faults} (hF : ∀ a, F'.permits a → F.permits a) {net₀ : Network}
    (h : Run D F' net₀ net) : Run D F net₀ net := by
  induction h with
  | refl => exact .refl
  | tail _ hs ih => exact ih.tail (hs.mono hF)

theorem run_of_reliable {net₀ : Network} (h : Run D .reliable net₀ net) : Run D F net₀ net :=
  run_mono Faults.permits_of_reliable h

theorem run_steady (hF : F.restarts = false) {net₀ : Network} (h : Run D F net₀ net) :
    Run D .steady net₀ net :=
  run_mono (Faults.steady_permits hF) h

/-- Induction over the part of a run in which less goes wrong than before. -/
theorem later_induction (Inv : Network → Prop) {F' : Faults}
    (hF : ∀ a, F'.permits a → F.permits a) {net₀ : Network} (h₀ : Reachable D F net₀)
    (hinit : Inv net₀)
    (hstep : ∀ net net', Reachable D F net → Run D F' net₀ net → Inv net →
      StepCases D F' net net' → Inv net')
    (h : Run D F' net₀ net) : Inv net := by
  induction h with
  | refl => exact hinit
  | tail hrun hs ih => exact hstep _ _ (h₀.trans (run_mono hF hrun)) hrun ih (step_cases hs)

/-! ## Packets of one call -/

theorem mem_sent {s : ProtocolState} {outbound : List OutboundPacket} {origin : Nat}
    {p : InFlight} :
    p ∈ sent s outbound origin ↔
      ∃ o ∈ outbound, p = ⟨o.packet, s.config.bindAddr, o.dst, origin⟩ := by
  simp only [sent, List.mem_map]
  exact exists_congr fun o => and_congr_right fun _ => eq_comm

/-- The packets in flight after a call: those that were left, and those sent. -/
theorem mem_inFlight_call {n : NodeId} {clock : Clock} {input : Input} {origin : Nat}
    {rest : List InFlight} {p : InFlight} :
    p ∈ ({ net with inFlight := rest }.call n clock input origin).inFlight ↔
      p ∈ rest ∨ ∃ o ∈ ((net.node n).call clock input).2.outbound,
        p = ⟨o.packet, (net.node n).config.bindAddr, o.dst, origin⟩ := by
  rw [call, List.mem_append, mem_sent]

theorem Served.mem_of_mem_rest {n : NodeId} {input : Input} {origin : Nat}
    {rest : List InFlight} (h : Served D net n input origin rest) {p : InFlight} (hp : p ∈ rest) :
    p ∈ net.inFlight := by
  cases h with
  | act => exact hp
  | deliver q _ hperm => exact hperm.mem_iff.mpr (List.mem_cons_of_mem q hp)

/-- A packet that is being served was in flight to the node that serves it. -/
theorem Served.inFlight {n : NodeId} {packet : Packet} {sender : SocketAddr} {origin : Nat}
    {rest : List InFlight} (h : Served D net n (.packet packet sender) origin rest) :
    ⟨packet, sender, D.addr n, origin⟩ ∈ net.inFlight := by
  cases h with
  | act _ h => cases h
  | deliver p _ hperm hdst =>
    rw [← hdst]
    exact hperm.mem_iff.mpr List.mem_cons_self

@[simp] theorem call_node_self {n : NodeId} {clock : Clock} {input : Input} {origin : Nat} :
    (net.call n clock input origin).node n = ((net.node n).call clock input).1 :=
  Function.update_self ..

theorem call_node_other {m n : NodeId} {clock : Clock} {input : Input} {origin : Nat}
    (h : m ≠ n) : (net.call n clock input origin).node m = net.node m :=
  Function.update_of_ne h ..

/-- What a change of one node's state leaves as it was there, it leaves everywhere. -/
theorem update_node_eq {β : Type} (f : ProtocolState → β) {n : NodeId} {s' : ProtocolState}
    (h : f s' = f (net.node n)) (m : NodeId) :
    f (Function.update net.node n s' m) = f (net.node m) := by
  by_cases hm : m = n
  · subst hm
    rw [Function.update_self, h]
  · rw [Function.update_of_ne hm]

/-! ## The history only grows -/

theorem history_suffix (hs : StepCases D F net net') : net.history <:+ net'.history := by
  cases hs with
  | call => exact List.suffix_cons _ _
  | lose => exact List.suffix_rfl
  | duplicate => exact List.suffix_rfl
  | restart => exact List.suffix_cons _ _
  | reorder => exact List.suffix_rfl

theorem callsOf_mono (hs : StepCases D F net net') {c : Call} (hc : c ∈ callsOf net.history) :
    c ∈ callsOf net'.history :=
  (List.IsSuffix.filterMap _ (history_suffix hs)).subset hc

/-- A call is recorded. -/
theorem mem_callsOf_call {n : NodeId} {clock : Clock} {input : Input} {origin : Nat}
    {rest : List InFlight} :
    ⟨n, clock, input, net.node n, ((net.node n).call clock input).1,
      ((net.node n).call clock input).2, origin⟩ ∈
      callsOf ({ net with inFlight := rest }.call n clock input origin).history :=
  List.mem_cons_self

/-- The calls served since `net₀`, latest first. -/
def since (net₀ net : Network) : List Call :=
  (callsOf net.history).take ((callsOf net.history).length - (callsOf net₀.history).length)

theorem since_eq {net₀ : Network} {calls : List Call}
    (h : callsOf net.history = calls ++ callsOf net₀.history) : since net₀ net = calls := by
  unfold since
  rw [h, List.length_append, Nat.add_sub_cancel, List.take_left]

@[simp] theorem since_self (net : Network) : since net net = [] := since_eq rfl

theorem since_transport {inFlight : List InFlight} :
    since net { net with inFlight := inFlight } = [] :=
  since_eq rfl

theorem since_reorder {n : NodeId} {s' : ProtocolState} :
    since net { net with node := Function.update net.node n s' } = [] :=
  since_eq rfl

theorem callsOf_step (hs : StepCases D F net net') :
    callsOf net'.history = since net net' ++ callsOf net.history := by
  obtain ⟨newer, hnewer⟩ := history_suffix hs
  have hcalls : callsOf net'.history = callsOf newer ++ callsOf net.history := by
    rw [← hnewer]
    exact List.filterMap_append
  rw [since_eq hcalls, hcalls]

theorem callsOf_run {net₀ : Network} (h : Run D F net₀ net) :
    callsOf net.history = since net₀ net ++ callsOf net₀.history := by
  have hcalls : ∃ calls, callsOf net.history = calls ++ callsOf net₀.history := by
    induction h with
    | refl => exact ⟨[], rfl⟩
    | tail _ hs ih =>
      obtain ⟨calls, hcalls⟩ := ih
      exact ⟨_, by rw [callsOf_step (step_cases hs), hcalls, List.append_assoc]⟩
  obtain ⟨calls, hcalls⟩ := hcalls
  rw [since_eq hcalls, hcalls]

/-- What has happened since is what the last step adds to it. -/
theorem since_step {net₀ : Network} (h : Run D F net₀ net) (hs : StepCases D F net net') :
    since net₀ net' = since net net' ++ since net₀ net :=
  since_eq (by rw [callsOf_step hs, callsOf_run h, List.append_assoc])

theorem since_call {n : NodeId} {clock : Clock} {input : Input} {origin : Nat}
    {rest : List InFlight} :
    since net ({ net with inFlight := rest }.call n clock input origin) =
      [⟨n, clock, input, net.node n, ((net.node n).call clock input).1,
        ((net.node n).call clock input).2, origin⟩] :=
  since_eq rfl

/-- The `i`-th record, counted from the beginning. -/
def record (net : Network) (i : Nat) : Option Record := net.history.reverse[i]?

theorem record_lt {i : Nat} {r : Record} (h : net.record i = some r) : i < net.history.length := by
  have := (List.getElem?_eq_some_iff.mp h).1
  rwa [List.length_reverse] at this

/-- Records are never changed. -/
theorem record_of_lt (hs : StepCases D F net net') {i : Nat} (hi : i < net.history.length) :
    net'.record i = net.record i := by
  obtain ⟨newer, hnewer⟩ := history_suffix hs
  unfold record
  rw [← hnewer, List.reverse_append, List.getElem?_append_left (by simpa using hi)]

theorem record_step (hs : StepCases D F net net') {i : Nat} {r : Record}
    (h : net.record i = some r) : net'.record i = some r := by
  rw [record_of_lt hs (record_lt h)]
  exact h

/-- The entry written last. -/
theorem record_last {r : Record} (hnet : net'.history = r :: net.history) :
    net'.record net.history.length = some r := by
  unfold record
  rw [hnet, List.reverse_cons, List.getElem?_append_right (by simp)]
  simp

/-- After one more entry, a record is that entry or an old one. -/
theorem record_cons {r r' : Record} {i : Nat} (hnet : net'.history = r :: net.history)
    (h : net'.record i = some r') :
    net.record i = some r' ∨ (i = net.history.length ∧ r' = r) := by
  have hi := record_lt h
  rw [hnet, List.length_cons] at hi
  by_cases hlast : i = net.history.length
  · subst hlast
    rw [record_last hnet] at h
    exact .inr ⟨rfl, (Option.some.inj h).symm⟩
  · left
    rw [← h]
    unfold record
    rw [hnet, List.reverse_cons, List.getElem?_append_left (by simp; omega)]

/-- What holds of every call when it is served, and is not made false by later
steps, holds of every recorded call. -/
theorem record_induction (P : Network → Nat → Call → Prop)
    (hmono : ∀ net net' i c, StepCases D F net net' → net.record i = some (.call c) →
      P net i c → P net' i c)
    (hcall : ∀ net n clock input origin rest, Reachable D F net → D.Runs n →
      Served D net n input origin rest →
      P ({ net with inFlight := rest }.call n clock input origin) net.history.length
        ⟨n, clock, input, net.node n, ((net.node n).call clock input).1,
          ((net.node n).call clock input).2, origin⟩)
    (h : Reachable D F net) {i : Nat} {c : Call} (hc : net.record i = some (.call c)) :
    P net i c := by
  refine reachable_induction (fun net => ∀ i c, net.record i = some (.call c) → P net i c)
    (fun i c hc => by simp [record, init] at hc) ?_ h i c hc
  intro net net' hreach ih hs i c hc
  -- An old record was a record before, whatever the step.
  have hold : net.record i = some (.call c) → P net' i c :=
    fun hc => hmono net net' i c hs hc (ih i c hc)
  cases hs with
  | call hn hserved =>
    rcases record_cons rfl hc with hc | ⟨rfl, heq⟩
    · exact hold hc
    · obtain rfl := Record.call.inj heq
      exact hcall net _ _ _ _ _ hreach hn hserved
  | lose => exact hold hc
  | duplicate => exact hold hc
  | restart =>
    rcases record_cons rfl hc with hc | ⟨-, heq⟩
    · exact hold hc
    · cases heq
  | reorder => exact hold hc

/-! ## Configurations never change -/

theorem node_config (h : Reachable D F net) (n : NodeId) :
    (net.node n).config = D.config n := by
  refine reachable_induction (fun net => ∀ n, (net.node n).config = D.config n)
    (fun _ => rfl) ?_ h n
  intro net net' _ ih hs m
  cases hs with
  | @call n clock input origin rest =>
    by_cases hm : m = n
    · subst hm
      rw [call_node_self, ProtocolState.call_config]
      exact ih m
    · rw [call_node_other hm]
      exact ih m
  | lose => exact ih m
  | duplicate => exact ih m
  | @restart n => exact (update_node_eq ProtocolState.config (ih n).symm m).trans (ih m)
  | reorder h => exact (update_node_eq ProtocolState.config h.config m).trans (ih m)

/-- What is recorded of a call is what its node did. -/
theorem result_of_mem_callsOf (h : Reachable D F net) {c : Call} (hc : c ∈ callsOf net.history) :
    (c.after, c.actions) = c.before.call c.clock c.input ∧
      c.before.config = D.config c.nodeId := by
  refine reachable_induction (fun net => ∀ c ∈ callsOf net.history,
    (c.after, c.actions) = c.before.call c.clock c.input ∧ c.before.config = D.config c.nodeId)
    (fun c hc => absurd hc List.not_mem_nil) ?_ h c hc
  intro net net' hreach ih hs c hc
  cases hs with
  | call hn hserved =>
    rcases List.mem_cons.mp hc with rfl | hold
    · exact ⟨rfl, node_config hreach _⟩
    · exact ih c hold
  | lose => exact ih c hc
  | duplicate => exact ih c hc
  | restart => exact ih c hc
  | reorder => exact ih c hc

/-! ## Invariants of nodes and packets -/

/-- An invariant of nodes and packets that may refer to the network they are in,
as long as no step makes it false by what happens elsewhere (`node_mono`,
`packet_mono`). Serving a good packet, or a local call, keeps a good node good and
sends good packets only. -/
structure GlobalInvariant (D : Deployment) (F : Faults)
    (NodeOk : Network → NodeId → ProtocolState → Prop)
    (PacketOk : Network → InFlight → Prop) : Prop where
  new : ∀ net n, NodeOk net n (.new (D.config n))
  node_mono : ∀ {net net' n s}, Reachable D F net → StepCases D F net net' →
    NodeOk net n s → NodeOk net' n s
  packet_mono : ∀ {net net' p}, Reachable D F net → StepCases D F net net' →
    PacketOk net p → PacketOk net' p
  reorder : ∀ {net n s s'}, NodeOk net n s → s.Reorder s' → NodeOk net n s'
  node : ∀ {net n clock input rest origin}, Reachable D F net → D.Runs n →
    (∀ m, NodeOk net m (net.node m)) → (∀ p ∈ net.inFlight, PacketOk net p) →
    Served D net n input origin rest →
    NodeOk ({ net with inFlight := rest }.call n clock input origin) n
      ((net.node n).call clock input).1
  packet : ∀ {net n clock input o rest origin}, Reachable D F net → D.Runs n →
    (∀ m, NodeOk net m (net.node m)) → (∀ p ∈ net.inFlight, PacketOk net p) →
    Served D net n input origin rest → o ∈ ((net.node n).call clock input).2.outbound →
    PacketOk ({ net with inFlight := rest }.call n clock input origin)
      ⟨o.packet, D.addr n, o.dst, origin⟩

/-- Such an invariant holds in every reachable network. -/
theorem GlobalInvariant.reachable {NodeOk : Network → NodeId → ProtocolState → Prop}
    {PacketOk : Network → InFlight → Prop} (I : GlobalInvariant D F NodeOk PacketOk)
    (h : Reachable D F net) :
    (∀ n, NodeOk net n (net.node n)) ∧ ∀ p ∈ net.inFlight, PacketOk net p := by
  refine reachable_induction
    (fun net => (∀ n, NodeOk net n (net.node n)) ∧ ∀ p ∈ net.inFlight, PacketOk net p)
    ⟨I.new _, fun p hp => absurd hp List.not_mem_nil⟩ ?_ h
  intro net net' hreach ⟨hnode, hpkt⟩ hs
  -- What a step does not touch stays good.
  have hnode' : ∀ m, NodeOk net' m (net.node m) := fun m => I.node_mono hreach hs (hnode m)
  have hpkt' : ∀ p ∈ net.inFlight, PacketOk net' p :=
    fun p hp => I.packet_mono hreach hs (hpkt p hp)
  cases hs with
  | @call n clock input origin rest hn hserved =>
    refine ⟨fun m => ?_, fun p hp => ?_⟩
    · by_cases hm : m = n
      · subst hm
        rw [call_node_self]
        exact I.node hreach hn hnode hpkt hserved
      · rw [call_node_other hm]
        exact hnode' m
    · rcases mem_inFlight_call.mp hp with hp | ⟨o, ho, rfl⟩
      · exact hpkt' p (hserved.mem_of_mem_rest hp)
      · rw [node_config hreach n]
        exact I.packet hreach hn hnode hpkt hserved ho
  | lose _ hp => exact ⟨hnode', fun q hq => hpkt' q (hp.mem_iff.mpr (List.mem_cons_of_mem _ hq))⟩
  | duplicate _ hp =>
    refine ⟨hnode', fun q hq => ?_⟩
    rcases List.mem_cons.mp hq with rfl | hq
    · exact hpkt' q hp
    · exact hpkt' q hq
  | @restart n _ _ =>
    refine ⟨fun m => ?_, hpkt'⟩
    by_cases hm : m = n
    · subst hm
      simpa using I.new _ m
    · simpa [Function.update_of_ne hm] using hnode' m
  | @reorder n s' h =>
    refine ⟨fun m => ?_, hpkt'⟩
    by_cases hm : m = n
    · subst hm
      simpa using I.reorder (hnode' m) h
    · simpa [Function.update_of_ne hm] using hnode' m

/-- An invariant that speaks of one node or one packet at a time. -/
structure LocalInvariant (D : Deployment) (NodeOk : NodeId → ProtocolState → Prop)
    (PacketOk : InFlight → Prop) : Prop where
  new : ∀ n, NodeOk n (.new (D.config n))
  reorder : ∀ {n s s'}, NodeOk n s → s.Reorder s' → NodeOk n s'
  node : ∀ {n s clock input}, D.Runs n → s.config = D.config n → NodeOk n s →
    (∀ packet sender, input = .packet packet sender →
      ∃ origin, PacketOk ⟨packet, sender, D.addr n, origin⟩) →
    NodeOk n (s.call clock input).1
  packet : ∀ {n s clock input o origin}, D.Runs n → s.config = D.config n → NodeOk n s →
    (∀ packet sender, input = .packet packet sender →
      ∃ origin, PacketOk ⟨packet, sender, D.addr n, origin⟩) →
    s.Emits clock input o → PacketOk ⟨o.packet, D.addr n, o.dst, origin⟩

/-- A local invariant holds in every reachable network, whatever the faults. -/
theorem LocalInvariant.reachable {NodeOk : NodeId → ProtocolState → Prop}
    {PacketOk : InFlight → Prop} (I : LocalInvariant D NodeOk PacketOk)
    (h : Reachable D F net) :
    (∀ n, NodeOk n (net.node n)) ∧ ∀ p ∈ net.inFlight, PacketOk p := by
  have G : GlobalInvariant D F (fun _ => NodeOk) (fun _ => PacketOk) :=
    { new := fun _ => I.new
      node_mono := fun _ _ h => h
      packet_mono := fun _ _ h => h
      reorder := I.reorder
      node := fun hreach hn hnode hpkt hserved =>
        I.node hn (node_config hreach _) (hnode _) fun packet sender heq => by
          subst heq
          exact ⟨_, hpkt _ hserved.inFlight⟩
      packet := fun hreach hn hnode hpkt hserved ho =>
        I.packet hn (node_config hreach _) (hnode _)
          (fun packet sender heq => by
            subst heq
            exact ⟨_, hpkt _ hserved.inFlight⟩)
          (ProtocolState.emits_of_mem ho) }
  exact G.reachable h

end Network

end DlDsr
