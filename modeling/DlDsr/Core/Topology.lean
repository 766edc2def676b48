import DlDsr.Core.Packet
import Mathlib.Data.List.Nodup

/-!
# Topology and node configuration (`dldsr-core/src/topology.rs`)

The logical topology every daemon is configured with, and the part of
`NodeConfig` that the protocol reads. The remaining fields (intervals of the
event loop, log level, demo sender, metrics and control sockets) belong to the
daemon around it.
-/

namespace DlDsr

/-- One node of the topology file. -/
structure TopologyNode where
  nodeId : NodeId
  endpoint : SocketAddr
  neighbors : List NodeId
deriving DecidableEq

/-- The logical topology. -/
structure Topology where
  nodes : List TopologyNode
deriving DecidableEq

namespace Topology

/-- `Topology::node`: the first node listed under an id. -/
def node (self : Topology) (nodeId : NodeId) : Option TopologyNode :=
  self.nodes.find? fun node => node.nodeId == nodeId

theorem mem_of_node {T : Topology} {n : NodeId} {tn : TopologyNode}
    (h : T.node n = some tn) : tn ∈ T.nodes ∧ tn.nodeId = n :=
  ⟨List.mem_of_find?_eq_some h, by simpa using List.find?_some h⟩

/-- With distinct ids, a listed node is the one found under its id. -/
theorem node_eq_some {T : Topology} (hids : (T.nodes.map TopologyNode.nodeId).Nodup)
    {tn : TopologyNode} (h : tn ∈ T.nodes) : T.node tn.nodeId = some tn := by
  cases hfind : T.node tn.nodeId with
  | none =>
    have := List.find?_eq_none.mp hfind tn h
    simp at this
  | some tm =>
    obtain ⟨hmem, hid⟩ := mem_of_node hfind
    rw [List.inj_on_of_nodup_map hids hmem h hid]

end Topology

/-- The part of `NodeConfig` that the protocol reads. `bindAddr` is the address
of the daemon's UDP socket, hence the sender of everything the node sends. -/
structure NodeConfig where
  nodeId : NodeId
  bindAddr : SocketAddr
  protocolMode : ProtocolMode
  routeCacheTtlMs : Nat
  topology : Topology
  routeDiscoveryTimeoutMs : Nat
  routeDiscoveryMaxRetries : Nat
  maxRreqHops : UInt8
  seenRequestTtlMs : Nat
  seenRequestMaxEntries : Nat
  strictProtocolMode : Bool
deriving DecidableEq

/-- The settings of the integration tests, in a given protocol mode. -/
def NodeConfig.testSettings (mode : ProtocolMode) : NodeConfig :=
  { nodeId := 0, bindAddr := .localhost 7000, protocolMode := mode, routeCacheTtlMs := 30000,
    topology := ⟨[]⟩, routeDiscoveryTimeoutMs := 2000, routeDiscoveryMaxRetries := 3,
    maxRreqHops := 64, seenRequestTtlMs := 60000, seenRequestMaxEntries := 10000,
    strictProtocolMode := true }

end DlDsr
