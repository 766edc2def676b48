import DlDsr.Core.Packet

/-!
# Node metrics (`dldsr-core/src/metrics.rs`)

The counters the protocol handlers maintain. The byte and packet counters of the
transport (`record_rx`, `record_tx`) are the daemon's. A latency sample is kept
as the number of milliseconds that the source converts to `f64`.
-/

namespace DlDsr

/-- The counters of one node. -/
structure NodeMetrics where
  deliveredPackets : Nat := 0
  droppedPackets : Nat := 0
  latencySamplesMs : List Nat := []
  routeDiscoveryAttempts : Nat := 0
  routeDiscoverySuccesses : Nat := 0
  routeDiscoveryFailures : Nat := 0
  rreqForwarded : Nat := 0
  rreqDroppedDuplicate : Nat := 0
  rreqDroppedTtl : Nat := 0
  rrepForwarded : Nat := 0
  rrepDroppedInvalid : Nat := 0
  dataForwarded : Nat := 0
  dataDelivered : Nat := 0
  dataDropped : Nat := 0
deriving DecidableEq

end DlDsr
