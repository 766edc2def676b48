import DlDsr.Core.Chain
import DlDsr.Network.Transmissions
import DlDsr.Node.Config

/-!
# The benchmark's chain, run by daemons

Daemons that are started on one topology file, each with its node id and with the same
mode, make a deployment that the results about networks apply to (`StartedOn.uniform`).
On a chain there is one simple path between two nodes, so every cached route is that path,
and what node 0 sends to the last node crosses the links that `simulate_chain` counts for
as many hops as the chain has nodes (`chain_as_simulated`).
-/

namespace DlDsr

/-! ## Daemons started on one topology file -/

/-- Every node of the topology is started with the topology file, its node id and `mode`. -/
def StartedOn (D : Deployment) (files : Files) (path : String) (mode : Option ProtocolMode) :
    Prop :=
  ∀ n, D.Runs n → ∃ cli c, cli.config = none ∧ cli.topology = some path ∧ cli.nodeId = some n ∧
    cli.bind = none ∧ cli.mode = mode ∧ load files cli = .ok c ∧ c.protocol = D.config n

/-- The deployment of daemons that are started like this on a file with this topology. -/
def Deployment.startedOn (topology : Topology) (mode : Option ProtocolMode) : Deployment where
  topology := topology
  config n := (defaultConfig { mode := mode } topology n
    (((topology.node n).map TopologyNode.endpoint).getD (.localhost 0))).protocol
  config_nodeId _ := rfl
  config_topology _ := rfl

section StartedOn

variable {D : Deployment} {files : Files} {path : String} {mode : Option ProtocolMode}

theorem startedOn_startedOn {topology : Topology} {text : String}
    (hread : files.readToString path = some text)
    (hparse : files.parseTopology text = some topology) :
    StartedOn (.startedOn topology mode) files path mode := by
  rintro n ⟨tn, hmem, hid⟩
  have hnode : ((topology.node n).map TopologyNode.endpoint).isSome := by
    rw [Option.isSome_map]
    refine List.find?_isSome.mpr ⟨tn, hmem, ?_⟩
    rw [hid]
    exact BEq.rfl
  obtain ⟨bindAddr, hbind⟩ := Option.isSome_iff_exists.mp hnode
  refine ⟨{ topology := some path, nodeId := some n, mode := mode }, _, rfl, rfl, rfl, rfl, rfl,
    (load_eq_ok rfl).mpr ⟨path, text, topology, n, bindAddr, rfl, hread, hparse, rfl, hbind, rfl⟩, ?_⟩
  show _ = (defaultConfig _ topology n _).protocol
  rw [hbind]
  rfl

/-- What such a daemon is configured with. -/
theorem StartedOn.config (h : StartedOn D files path mode) {n : NodeId} (hn : D.Runs n) :
    ∃ tn, D.topology.node n = some tn ∧
      D.config n = (defaultConfig { mode := mode } D.topology n tn.endpoint).protocol := by
  obtain ⟨cli, c, hconfig, hpath, hid, hbind, hmode, hload, hprotocol⟩ := h n hn
  obtain ⟨_, _, topology, nodeId, bindAddr, -, -, -, hid', hbound, rfl⟩ :=
    (load_eq_ok hconfig).mp hload
  obtain rfl : n = nodeId := Option.some.inj (hid.symm.trans hid')
  have htopology : topology = D.topology := by
    rw [← D.config_topology n, ← hprotocol]
    rfl
  rw [hbind, htopology] at hbound
  obtain ⟨tn, htn, rfl⟩ := Option.map_eq_some_iff.mp hbound
  refine ⟨tn, htn, ?_⟩
  rw [← hprotocol, htopology]
  unfold defaultConfig
  rw [hmode]

/-- Daemons started on a topology file that makes sense form a deployment that does. -/
theorem StartedOn.uniform (h : StartedOn D files path mode)
    (hids : (D.topology.nodes.map TopologyNode.nodeId).Nodup)
    (hendpoints : (D.topology.nodes.map TopologyNode.endpoint).Nodup)
    (hself : D.NoSelfNeighbor) (hlisted : D.NeighborsListed) :
    D.Uniform (mode.getD .dlDsr) where
  placed :=
    { ids_nodup := hids
      endpoints_nodup := hendpoints
      bind_endpoint := by
        intro tn hmem
        obtain ⟨tm, hnode, hconfig⟩ := h.config ⟨tn, hmem, rfl⟩
        rw [Topology.node_eq_some hids hmem] at hnode
        obtain rfl := Option.some.inj hnode
        unfold Deployment.addr
        rw [hconfig]
        rfl }
  noSelf := hself
  listed := hlisted
  allMode := by
    intro n hn
    obtain ⟨tn, -, hconfig⟩ := h.config hn
    rw [hconfig]
    rfl

end StartedOn

/-! ## Chains -/

namespace Deployment

variable {D : Deployment} {nodes : Nat} {basePort : UInt16}

theorem runs_chain (hD : D.topology = .chain nodes basePort)
    (hports : basePort.toNat + nodes ≤ 65536) {n : NodeId} : D.Runs n ↔ n.toNat < nodes := by
  unfold Runs
  rw [hD]
  constructor
  · rintro ⟨tn, hmem, rfl⟩
    obtain ⟨idx, hidx, rfl⟩ := Topology.mem_chain.mp hmem
    show (UInt32.ofNat idx).toNat < nodes
    rwa [Topology.toNat_chainId hports hidx]
  · intro hn
    exact ⟨_, Topology.mem_chain.mpr ⟨n.toNat, hn, rfl⟩, UInt32.ofNat_toNat⟩

theorem mem_neighborsOf_chain (hD : D.topology = .chain nodes basePort)
    (hports : basePort.toNat + nodes ≤ 65536) {n m : NodeId} (h : m ∈ D.neighborsOf n) :
    m.toNat < nodes ∧ Adjacent n.toNat m.toNat := by
  obtain ⟨tn, hmem, rfl, hm⟩ := mem_node_of_mem_neighborsOf h
  rw [hD] at hmem
  obtain ⟨idx, hidx, rfl⟩ := Topology.mem_chain.mp hmem
  show _ ∧ Adjacent (UInt32.ofNat idx).toNat _
  rw [Topology.toNat_chainId hports hidx]
  exact (Topology.mem_chainNode_neighbors hports hidx).mp hm

theorem chain_noSelfNeighbor (hD : D.topology = .chain nodes basePort)
    (hports : basePort.toNat + nodes ≤ 65536) : D.NoSelfNeighbor := by
  intro n hn
  rcases (mem_neighborsOf_chain hD hports hn).2 with hup | hdown <;> omega

theorem chain_neighborsListed (hD : D.topology = .chain nodes basePort)
    (hports : basePort.toNat + nodes ≤ 65536) : D.NeighborsListed :=
  fun _ _ hm => (runs_chain hD hports).mpr (mem_neighborsOf_chain hD hports hm).1

end Deployment

namespace Network

open ProtocolState

variable {D : Deployment} {F : Faults} {net net' : Network} {mode : ProtocolMode}
  {nodes : Nat} {basePort : UInt16}

/-- On a chain, a simple path over mutual links runs straight from its start to its end. -/
theorem path_of_chain (hD : D.topology = .chain nodes basePort)
    (hports : basePort.toNat + nodes ≤ 65536) {path : List NodeId} {a b : NodeId}
    (hwalk : IsWalk D.Mutual path a b) (hnodup : path.Nodup) :
    path.map UInt32.toNat = straight a.toNat b.toNat :=
  (hwalk.map UInt32.toNat fun _ _ hlink =>
    (Deployment.mem_neighborsOf_chain hD hports hlink.1).2).eq_straight
    (hnodup.map fun _ _ heq => UInt32.toNat_inj.mp heq)

/-- DATA that has arrived has travelled a simple path. -/
theorem arrived_walk (hU : D.Uniform mode) (hF : F.restarts = false) (h : Reachable D F net) :
    ∀ d ∈ net.arrived, IsWalk D.Mutual d.dsrPath d.srcNodeId d.dstNodeId ∧ d.dsrPath.Nodup := by
  refine reachable_induction (fun net => ∀ d ∈ net.arrived,
    IsWalk D.Mutual d.dsrPath d.srcNodeId d.dstNodeId ∧ d.dsrPath.Nodup) nofun ?_ h
  intro net net' hreach ih hs
  cases hs with
  | @call n clock input origin rest hn hserved =>
    intro d hd
    rcases List.mem_append.mp hd with hnew | hold
    · have hdata : d ∈ net.travelling :=
        hserved.travelling_perm.mem_iff.mpr (List.mem_append_left _ (List.mem_filter.mp hnew).1)
      obtain ⟨p, hp, hpacket⟩ := List.mem_map.mp (mem_dataOf.mp hdata)
      obtain ⟨hpath, -⟩ := packetData hU hF hreach hp d hpacket
      exact ⟨hpath.walk, hpath.nodup⟩
    · exact ih d hold
  | lose => exact ih
  | duplicate => exact ih
  | restart hF' => simp [hF] at hF'
  | reorder => exact ih

/-- A chain of daemons behaves as the benchmark assumes. -/
structure ChainAsSimulated (D : Deployment) (mode : ProtocolMode) (nodes : Nat) (net : Network) :
    Prop where
  uniform : D.Uniform mode
  routes : ∀ i j, ∀ route ∈ (net.node i).routes.held j,
    route.dsrPath.map UInt32.toNat = straight i.toNat j.toNat
  totalTxBytes : net.travelling = [] → ∀ payloadSize packets : UInt64,
    (∀ d ∈ net.arrived, d.srcNodeId.toNat = 0 ∧ d.dstNodeId.toNat = nodes - 1 ∧
      d.payload.length = payloadSize.toNat) →
    net.arrived.length = packets.toNat → LatenciesFit packets →
    ∃ run, simulateChain (UInt64.ofNat nodes) mode payloadSize packets = .ok run ∧
      run.totalTxBytes.toNat = charge (benchmarkBytes mode) net.transmitted % 2 ^ 64

/-- **A chain of daemons sends what the benchmark counts.** Start a daemon for every node of
`Topology::chain`, on one file and in one mode, with ports that do not overflow. As long as
the transport loses and duplicates nothing and no daemon restarts, every cached route from
`i` to `j` visits the nodes between them in their order; and once no DATA is in flight, and if
all of it went from the first node to the last with payloads of one size, the bytes counted
for all transmissions are the total of `simulate_chain` for the number of nodes, if it can
hold as many latencies. -/
theorem chain_as_simulated {files : Files} {path : String} {mode : Option ProtocolMode}
    (hD : D.topology = .chain nodes basePort) (hpos : 0 < nodes)
    (hports : basePort.toNat + nodes ≤ 65536) (hstarted : StartedOn D files path mode)
    (hloss : F.loss = false) (hdup : F.duplication = false) (hF : F.restarts = false)
    (h : Reachable D F net) : ChainAsSimulated D (mode.getD .dlDsr) nodes net := by
  have hU : D.Uniform (mode.getD .dlDsr) := by
    refine hstarted.uniform ?_ ?_ (Deployment.chain_noSelfNeighbor hD hports)
      (Deployment.chain_neighborsListed hD hports)
    · rw [hD]
      exact Topology.chain_ids_nodup hports
    · rw [hD]
      exact Topology.chain_endpoints_nodup hports
  refine ⟨hU, fun i j route hroute => ?_, fun hnone payloadSize packets hsame hcount hfit => ?_⟩
  · have hu := usable_of_held hU hF h hroute
    exact path_of_chain hD hports hu.walk hu.nodup
  · refine totalTxBytes_of_same (charged hU hloss hdup hF h (benchmarkBytes_cursorFree _)) hnone
      (fun d hd => ?_) hcount hfit
    obtain ⟨hsrc, hdst, hpayload⟩ := hsame d hd
    obtain ⟨hwalk, hnodup⟩ := arrived_walk hU hF h d hd
    have hlength := congrArg List.length (path_of_chain hD hports hwalk hnodup)
    rw [List.length_map, length_straight, hsrc, hdst] at hlength
    refine ⟨?_, hpayload⟩
    rw [UInt64.toNat_ofNat']
    omega

/-- A chain of three nodes as a topology file. -/
def chainFile : String :=
  "[[nodes]]\nnode_id = 0\nendpoint = \"127.0.0.1:7000\"\nneighbors = [1]\n\n" ++
  "[[nodes]]\nnode_id = 1\nendpoint = \"127.0.0.1:7001\"\nneighbors = [0, 2]\n\n" ++
  "[[nodes]]\nnode_id = 2\nendpoint = \"127.0.0.1:7002\"\nneighbors = [1]\n"

/-- A file system with this file. -/
def chainFiles : Files where
  readToString path := if path = "chain.toml" then some chainFile else none
  parseConfig _ := none
  parseTopology text := if text = chainFile then some (.chain 3 7000) else none

/-- On a chain of three daemons, one byte from node 0 to node 2 costs what the benchmark
says. -/
theorem chain_as_simulated_three :
    ChainAsSimulated (.startedOn (.chain 3 7000) (some .dsr)) .dsr 3
        (after (.startedOn (.chain 3 7000) (some .dsr)) ⟨false, false, false⟩ deliveryOnLine) ∧
      ∃ run, simulateChain 3 .dsr 1 1 = .ok run ∧ run.totalTxBytes.toNat =
        charge (benchmarkBytes .dsr) (after (.startedOn (.chain 3 7000) (some .dsr))
          ⟨false, false, false⟩ deliveryOnLine).transmitted % 2 ^ 64 := by
  have hstarted : StartedOn (.startedOn (.chain 3 7000) (some .dsr)) chainFiles "chain.toml"
      (some .dsr) := by
    have hread : chainFiles.readToString "chain.toml" = some chainFile := by
      unfold chainFiles
      simp only [if_true]
    have hparse : chainFiles.parseTopology chainFile = some (.chain 3 7000) := by
      unfold chainFiles
      simp only [if_true]
    exact startedOn_startedOn hread hparse
  have htopology : (Deployment.startedOn (.chain 3 7000) (some .dsr)).topology = .chain 3 7000 :=
    rfl
  have hchain := chain_as_simulated htopology (by decide) (by decide) hstarted rfl rfl rfl
    (reachable_after _ ⟨false, false, false⟩ deliveryOnLine)
  exact ⟨hchain, hchain.totalTxBytes (by decide +kernel) 1 1 (by decide +kernel)
    (by decide +kernel) (by decide)⟩

end Network

end DlDsr
