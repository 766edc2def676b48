import DlDsr.Core.Topology
import DlDsr.Lib.Line

/-!
# Chains of nodes (`dldsr-core/src/topology.rs`)

`Topology::chain` numbers its nodes from 0 and lets each of them listen on a port of its
own and list the nodes before and after it. Ids and ports are machine words, so this holds
for up to 2^32 ids, and as long as the ports do not exceed 65535.
-/

namespace DlDsr

namespace Topology

/-- One node of `Topology::chain`. -/
def chainNode (nodes : Nat) (basePort : UInt16) (idx : Nat) : TopologyNode :=
  { nodeId := UInt32.ofNat idx
    endpoint := .localhost (basePort + UInt16.ofNat idx)
    neighbors := (if 0 < idx then [UInt32.ofNat (idx - 1)] else []) ++
      if idx + 1 < nodes then [UInt32.ofNat (idx + 1)] else [] }

/-- `Topology::chain`. -/
def chain (nodes : Nat) (basePort : UInt16) : Topology :=
  { nodes := (List.range nodes).map (chainNode nodes basePort) }

variable {nodes : Nat} {basePort : UInt16}

theorem mem_chain {tn : TopologyNode} :
    tn ∈ (chain nodes basePort).nodes ↔ ∃ idx < nodes, chainNode nodes basePort idx = tn := by
  unfold chain
  simp only [List.mem_map, List.mem_range]

theorem toNat_chainId {idx : Nat} (h : basePort.toNat + nodes ≤ 65536) (hidx : idx < nodes) :
    (UInt32.ofNat idx).toNat = idx := by
  rw [UInt32.toNat_ofNat']
  omega

theorem toNat_chainPort {idx : Nat} (h : basePort.toNat + nodes ≤ 65536) (hidx : idx < nodes) :
    (basePort + UInt16.ofNat idx).toNat = basePort.toNat + idx := by
  rw [UInt16.toNat_add, UInt16.toNat_ofNat']
  omega

/-- A chain lists every id once. -/
theorem chain_ids_nodup (h : basePort.toNat + nodes ≤ 65536) :
    ((chain nodes basePort).nodes.map TopologyNode.nodeId).Nodup := by
  unfold chain
  rw [List.map_map]
  refine List.Nodup.map_on ?_ List.nodup_range
  intro i hi j hj heq
  have hvalues : (UInt32.ofNat i).toNat = (UInt32.ofNat j).toNat := congrArg UInt32.toNat heq
  rwa [toNat_chainId h (List.mem_range.mp hi), toNat_chainId h (List.mem_range.mp hj)] at hvalues

/-- No two nodes of a chain listen on the same port. -/
theorem chain_endpoints_nodup (h : basePort.toNat + nodes ≤ 65536) :
    ((chain nodes basePort).nodes.map TopologyNode.endpoint).Nodup := by
  unfold chain
  rw [List.map_map]
  refine List.Nodup.map_on ?_ List.nodup_range
  intro i hi j hj heq
  have hports : basePort + UInt16.ofNat i = basePort + UInt16.ofNat j := (SocketAddr.v4.inj heq).2
  have hvalues := congrArg UInt16.toNat hports
  rw [toNat_chainPort h (List.mem_range.mp hi), toNat_chainPort h (List.mem_range.mp hj)]
    at hvalues
  omega

/-- The neighbours of a node of a chain are the nodes whose numbers differ by one. -/
theorem mem_chainNode_neighbors (h : basePort.toNat + nodes ≤ 65536) {idx : Nat}
    (hidx : idx < nodes) {m : NodeId} :
    m ∈ (chainNode nodes basePort idx).neighbors ↔
      m.toNat < nodes ∧ Adjacent idx m.toNat := by
  have hmem : m ∈ (chainNode nodes basePort idx).neighbors ↔
      (0 < idx ∧ m = UInt32.ofNat (idx - 1)) ∨ (idx + 1 < nodes ∧ m = UInt32.ofNat (idx + 1)) := by
    unfold chainNode
    rw [List.mem_append]
    refine or_congr ?_ ?_ <;> split <;> simp [*]
  rw [hmem]
  constructor
  · rintro (⟨hpos, rfl⟩ | ⟨hlt, rfl⟩)
    · rw [toNat_chainId h (show idx - 1 < nodes by omega)]
      exact ⟨by omega, .inr (by omega)⟩
    · rw [toNat_chainId h hlt]
      exact ⟨hlt, .inl rfl⟩
  · rintro ⟨hm, hup | hdown⟩
    · refine .inr ⟨by omega, UInt32.toNat_inj.mp ?_⟩
      rw [toNat_chainId h (by omega), hup]
    · refine .inl ⟨by omega, UInt32.toNat_inj.mp ?_⟩
      rw [toNat_chainId h (by omega), ← hdown, Nat.add_sub_cancel]

end Topology

end DlDsr
