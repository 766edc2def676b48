import DlDsr.Core.Topology

/-!
# Loading the configuration (`dldsr-node/src/config.rs`, `cli.rs`)

A daemon takes its configuration from a file, or makes it up from its topology file, its
node id and default settings (`load`). The contents of the files and the TOML parser are
parameters (`Files`).
-/

namespace DlDsr

/-! ## Default settings (`dldsr-core/src/topology.rs`) -/

/-- `default_hello_interval_ms`. -/
def defaultHelloIntervalMs : Nat := 800

/-- `default_route_cache_ttl_ms`. -/
def defaultRouteCacheTtlMs : Nat := 30000

/-- `default_neighbor_ttl_ms`. -/
def defaultNeighborTtlMs : Nat := 5000

/-- `default_route_discovery_timeout_ms`. -/
def defaultRouteDiscoveryTimeoutMs : Nat := 2000

/-- `default_route_discovery_max_retries`. -/
def defaultRouteDiscoveryMaxRetries : Nat := 3

/-- `default_max_rreq_hops`. -/
def defaultMaxRreqHops : UInt8 := 64

/-- `default_seen_request_ttl_ms`. -/
def defaultSeenRequestTtlMs : Nat := 60000

/-- `default_seen_request_max_entries`. -/
def defaultSeenRequestMaxEntries : Nat := 10000

/-- `default_strict_protocol_mode`. -/
def defaultStrictProtocolMode : Bool := true

/-- `DemoSendConfig`. -/
structure DemoSendConfig where
  dstNodeId : NodeId
  payload : String
  startAfterMs : Nat
deriving DecidableEq

/-- `NodeConfig` with the fields that only the daemon reads. -/
structure DaemonConfig where
  protocol : NodeConfig
  helloIntervalMs : Nat
  neighborTtlMs : Nat
  logLevel : String
  demoSend : Option DemoSendConfig
  metricsOutputPath : Option String
  controlBindAddr : Option SocketAddr
deriving DecidableEq

/-- `Cli`, without its subcommand. -/
structure Cli where
  config : Option String := none
  nodeId : Option NodeId := none
  bind : Option SocketAddr := none
  topology : Option String := none
  mode : Option ProtocolMode := none
  sendDst : Option NodeId := none
  payload : Option String := some "hello from dl-dsr-rs"
  sendAfterMs : Nat := 2000
deriving DecidableEq

/-- The files and the parser of their format. -/
structure Files where
  /-- `fs::read_to_string` -/
  readToString : String → Option String
  /-- `toml::from_str::<NodeConfig>` -/
  parseConfig : String → Option DaemonConfig
  /-- `toml::from_str::<Topology>` -/
  parseTopology : String → Option Topology

/-- `Context::with_context`: the value, or the error with this text. -/
def withContext {α : Type} (value : Option α) (context : String) : Except String α :=
  match value with
  | some a => .ok a
  | none => .error context

theorem withContext_eq_ok {α : Type} {value : Option α} {context : String} {a : α} :
    withContext value context = .ok a ↔ value = some a := by
  cases value with
  | none => exact ⟨nofun, nofun⟩
  | some b => exact ⟨fun h => congrArg some (Except.ok.inj h), fun h => by rw [h]; rfl⟩

/-- The configuration that `load` makes up for a node of a topology. -/
def defaultConfig (cli : Cli) (topology : Topology) (nodeId : NodeId) (bindAddr : SocketAddr) :
    DaemonConfig :=
  { protocol :=
      { nodeId := nodeId, bindAddr := bindAddr, protocolMode := cli.mode.getD .dlDsr,
        routeCacheTtlMs := defaultRouteCacheTtlMs, topology := topology,
        routeDiscoveryTimeoutMs := defaultRouteDiscoveryTimeoutMs,
        routeDiscoveryMaxRetries := defaultRouteDiscoveryMaxRetries,
        maxRreqHops := defaultMaxRreqHops, seenRequestTtlMs := defaultSeenRequestTtlMs,
        seenRequestMaxEntries := defaultSeenRequestMaxEntries,
        strictProtocolMode := defaultStrictProtocolMode }
    helloIntervalMs := defaultHelloIntervalMs
    neighborTtlMs := defaultNeighborTtlMs
    logLevel := "info"
    demoSend := cli.sendDst.map fun dstNodeId =>
      { dstNodeId := dstNodeId, payload := cli.payload.getD "hello from dl-dsr-rs",
        startAfterMs := cli.sendAfterMs }
    metricsOutputPath := none
    controlBindAddr := none }

/-- `load`. -/
def load (files : Files) (cli : Cli) : Except String DaemonConfig :=
  match cli.config with
  | some path => do
    let text ← withContext (files.readToString path) s!"read config {path}"
    withContext (files.parseConfig text) s!"parse config {path}"
  | none => do
    let path ← withContext cli.topology "--topology is required when --config is omitted"
    let text ← withContext (files.readToString path) s!"read topology {path}"
    let topology ← withContext (files.parseTopology text) s!"parse topology {path}"
    let nodeId ← withContext cli.nodeId "--node-id is required when --config is omitted"
    let bindAddr ← withContext
      (cli.bind <|> (topology.node nodeId).map TopologyNode.endpoint)
      "bind address not supplied and node id not found in topology"
    return defaultConfig cli topology nodeId bindAddr

theorem bind_eq_ok {α β : Type} {x : Except String α} {f : α → Except String β} {b : β} :
    x.bind f = .ok b ↔ ∃ a, x = .ok a ∧ f a = .ok b := by
  cases x with
  | error e => exact ⟨nofun, nofun⟩
  | ok a => exact ⟨fun h => ⟨a, rfl, h⟩, fun ⟨_, ha, h⟩ => by cases ha; exact h⟩

/-- When a configuration is made up, and which. -/
theorem load_eq_ok {files : Files} {cli : Cli} (hconfig : cli.config = none)
    {c : DaemonConfig} :
    load files cli = .ok c ↔ ∃ path text topology nodeId bindAddr,
      cli.topology = some path ∧ files.readToString path = some text ∧
        files.parseTopology text = some topology ∧ cli.nodeId = some nodeId ∧
        (cli.bind <|> (topology.node nodeId).map TopologyNode.endpoint) = some bindAddr ∧
        c = defaultConfig cli topology nodeId bindAddr := by
  unfold load
  rw [hconfig]
  simp only [bind, bind_eq_ok, withContext_eq_ok, pure, Except.pure, Except.ok.injEq]
  constructor
  · rintro ⟨path, hpath, text, htext, topology, htopology, nodeId, hid, bindAddr, hbind, rfl⟩
    exact ⟨path, text, topology, nodeId, bindAddr, hpath, htext, htopology, hid, hbind, rfl⟩
  · rintro ⟨path, text, topology, nodeId, bindAddr, hpath, htext, htopology, hid, hbind, rfl⟩
    exact ⟨path, hpath, text, htext, topology, htopology, nodeId, hid, bindAddr, hbind, rfl⟩

end DlDsr
