import DlDsr.Node.Effects
import Mathlib.Logic.Function.Basic
import Mathlib.Logic.Relation

/-!
# Networks of protocol nodes

A network is one `ProtocolState` per node id, the packets in flight and a record
of what happened. Packets are delivered in any order; whether the transport may
also lose or duplicate them, and whether nodes may restart, is a parameter
(`Faults`). Nothing forges packets: only calls put packets into flight, with the
socket address of the calling node as their sender.

The transition function `Network.perform` is executable, so that a concrete
schedule can be run; `Step` adds the one thing that is not a function of the
schedule, the iteration order of the nodes' hash maps.

`history` and `InFlight.origin` are bookkeeping that no handler reads. The origin
of a packet is the index, in the history, of the command, tick or HELLO broadcast
that it stems from, through however many nodes it has passed since.
-/

namespace DlDsr

/-- A topology shared by all nodes and the configuration of each node. -/
structure Deployment where
  topology : Topology
  config : NodeId → NodeConfig
  config_nodeId : ∀ n, (config n).nodeId = n
  config_topology : ∀ n, (config n).topology = topology

namespace Deployment

/-- `n` is one of the nodes of the topology. -/
def Runs (D : Deployment) (n : NodeId) : Prop := ∃ tn ∈ D.topology.nodes, tn.nodeId = n

instance (D : Deployment) (n : NodeId) : Decidable (D.Runs n) :=
  inferInstanceAs (Decidable (∃ tn ∈ D.topology.nodes, tn.nodeId = n))

/-- The neighbour list of a node. -/
def neighborsOf (D : Deployment) (n : NodeId) : List NodeId :=
  ((D.topology.node n).map TopologyNode.neighbors).getD []

/-- The address a node's daemon is bound to, which is the sender of all its packets. -/
def addr (D : Deployment) (n : NodeId) : SocketAddr := (D.config n).bindAddr

/-- Both nodes list each other as neighbours. -/
def Mutual (D : Deployment) (a b : NodeId) : Prop :=
  b ∈ D.neighborsOf a ∧ a ∈ D.neighborsOf b

/-- Node ids and endpoints are distinct, and every node is bound to its topology
endpoint. -/
structure Placed (D : Deployment) : Prop where
  ids_nodup : (D.topology.nodes.map TopologyNode.nodeId).Nodup
  endpoints_nodup : (D.topology.nodes.map TopologyNode.endpoint).Nodup
  bind_endpoint : ∀ tn ∈ D.topology.nodes, D.addr tn.nodeId = tn.endpoint

/-- No node lists itself as a neighbour. -/
def NoSelfNeighbor (D : Deployment) : Prop := ∀ n, n ∉ D.neighborsOf n

/-- Every listed neighbour is a node of the topology. -/
def NeighborsListed (D : Deployment) : Prop := ∀ n, ∀ m ∈ D.neighborsOf n, D.Runs m

/-- All nodes run protocol mode `mode`. -/
def AllMode (D : Deployment) (mode : ProtocolMode) : Prop :=
  ∀ n, D.Runs n → (D.config n).protocolMode = mode

/-- All nodes run one protocol mode, in a deployment that makes sense. -/
structure Uniform (D : Deployment) (mode : ProtocolMode) : Prop where
  placed : D.Placed
  noSelf : D.NoSelfNeighbor
  listed : D.NeighborsListed
  allMode : D.AllMode mode

/-- A deployment on one machine: node `n` listens on port `7000 + n`, all nodes
have the same settings, and `links` lists every node with its neighbours. -/
def onLocalhost (settings : NodeConfig) (links : List (NodeId × List NodeId)) : Deployment :=
  let topology : Topology :=
    { nodes := links.map fun link => ⟨link.1, .localhost (7000 + link.1.toUInt16), link.2⟩ }
  { topology := topology
    config := fun n => { settings with
      nodeId := n, bindAddr := .localhost (7000 + n.toUInt16), topology := topology }
    config_nodeId := fun _ => rfl
    config_topology := fun _ => rfl }

/-- Three nodes in a row. -/
def line (mode : ProtocolMode) : Deployment :=
  onLocalhost (.testSettings mode) [(0, [1]), (1, [0, 2]), (2, [1])]

end Deployment

/-- A packet in flight. -/
structure InFlight where
  packet : Packet
  sender : SocketAddr
  dst : SocketAddr
  origin : Nat
deriving DecidableEq

/-- A call that a node has served. -/
structure Call where
  nodeId : NodeId
  clock : Clock
  input : Input
  before : ProtocolState
  after : ProtocolState
  actions : ProtocolActions
  origin : Nat

/-- An entry of the history. -/
inductive Record where
  | call (c : Call)
  | restart (n : NodeId)

/-- The calls of a history, latest first. -/
def callsOf (history : List Record) : List Call :=
  history.filterMap fun
    | .call c => some c
    | .restart _ => none

/-- The state of a network. `history` lists the latest entry first. -/
structure Network where
  node : NodeId → ProtocolState
  inFlight : List InFlight
  history : List Record

/-- What may go wrong besides delay and reordering. -/
structure Faults where
  loss : Bool
  duplication : Bool
  restarts : Bool

/-- The transport neither loses nor duplicates, and no node restarts. -/
def Faults.reliable : Faults := ⟨false, false, false⟩

/-- The transport may do what it likes, but no node restarts. -/
def Faults.steady : Faults := ⟨true, true, false⟩

/-- A schedulable event: a local call of a node, the delivery of the `i`-th
packet in flight to the node `n` bound to its destination, a loss, a duplication,
a restart. -/
inductive Action where
  | act (n : NodeId) (clock : Clock) (input : Input)
  | deliver (i : Nat) (n : NodeId) (clock : Clock)
  | lose (i : Nat)
  | duplicate (i : Nat)
  | restart (n : NodeId)

/-- Whether the transport and the nodes may behave like this. -/
def Faults.permits (F : Faults) : Action → Bool
  | .act .. => true
  | .deliver .. => true
  | .lose _ => F.loss
  | .duplicate _ => F.duplication
  | .restart _ => F.restarts

theorem Faults.permits_of_reliable {F : Faults} (a : Action) (h : Faults.reliable.permits a) :
    F.permits a := by
  cases a with
  | act => rfl
  | deliver => rfl
  | lose => cases h
  | duplicate => cases h
  | restart => cases h

theorem Faults.steady_permits {F : Faults} (hF : F.restarts = false) (a : Action)
    (h : F.permits a) : Faults.steady.permits a := by
  cases a with
  | restart => exact absurd h (by simp [Faults.permits, hF])
  | _ => rfl

/-- A command, a tick or a HELLO broadcast, rather than a received packet. -/
def Input.isLocal : Input → Bool
  | .packet .. => false
  | _ => true

namespace Network

/-- The network before anything happened. -/
def init (D : Deployment) : Network where
  node n := .new (D.config n)
  inFlight := []
  history := []

/-- The packets that a call of node `n` puts into flight. -/
def sent (state : ProtocolState) (outbound : List OutboundPacket) (origin : Nat) :
    List InFlight :=
  outbound.map fun o =>
    { packet := o.packet, sender := state.config.bindAddr, dst := o.dst, origin := origin }

/-- Node `n` serves one call. -/
def call (net : Network) (n : NodeId) (clock : Clock) (input : Input) (origin : Nat) :
    Network :=
  let result := (net.node n).call clock input
  { node := Function.update net.node n result.1
    inFlight := net.inFlight ++ sent (net.node n) result.2.outbound origin
    history := .call ⟨n, clock, input, net.node n, result.1, result.2, origin⟩ :: net.history }

/-- Perform an action, if it is enabled. -/
def perform (D : Deployment) (net : Network) : Action → Option Network
  | .act n clock input =>
    if D.Runs n ∧ input.isLocal then some (net.call n clock input net.history.length) else none
  | .deliver i n clock =>
    match net.inFlight[i]? with
    | some p =>
      if D.Runs n ∧ p.dst = D.addr n then
        some ({ net with inFlight := net.inFlight.eraseIdx i }.call n clock
          (.packet p.packet p.sender) p.origin)
      else none
    | none => none
  | .lose i =>
    if i < net.inFlight.length then some { net with inFlight := net.inFlight.eraseIdx i }
    else none
  | .duplicate i => (net.inFlight[i]?).map fun p => { net with inFlight := p :: net.inFlight }
  | .restart n =>
    if D.Runs n then
      some { net with
        node := Function.update net.node n (.new (D.config n))
        history := .restart n :: net.history }
    else none

/-- One step of a network. -/
inductive Step (D : Deployment) (F : Faults) (net : Network) : Network → Prop where
  | action {net' : Network} (a : Action) (hF : F.permits a)
      (h : net.perform D a = some net') : Step D F net net'
  | reorder (n : NodeId) (s' : ProtocolState) (h : (net.node n).Reorder s') :
      Step D F net { net with node := Function.update net.node n s' }

/-- A run of a network. -/
abbrev Run (D : Deployment) (F : Faults) : Network → Network → Prop :=
  Relation.ReflTransGen (Step D F)

/-- The states a network can get into. -/
def Reachable (D : Deployment) (F : Faults) (net : Network) : Prop := Run D F (init D) net

/-- Perform a schedule, if every action of it is permitted and enabled. -/
def exec (D : Deployment) (F : Faults) (net : Network) : List Action → Option Network
  | [] => some net
  | a :: schedule =>
    if F.permits a then (net.perform D a).bind fun net' => net'.exec D F schedule else none

theorem run_of_exec {D : Deployment} {F : Faults} {net net' : Network} {schedule : List Action}
    (h : net.exec D F schedule = some net') : Run D F net net' := by
  induction schedule generalizing net with
  | nil =>
    obtain rfl := Option.some.inj h
    exact .refl
  | cons a schedule ih =>
    simp only [exec] at h
    split at h
    · next hF =>
      obtain ⟨net₁, h₁, h₂⟩ := Option.bind_eq_some_iff.mp h
      exact .head (.action a hF h₁) (ih h₂)
    · cases h

/-- The network a schedule leads to; the initial one if the schedule cannot be
performed. -/
def after (D : Deployment) (F : Faults) (schedule : List Action) : Network :=
  ((init D).exec D F schedule).getD (init D)

theorem reachable_after (D : Deployment) (F : Faults) (schedule : List Action) :
    Reachable D F (after D F schedule) := by
  unfold after
  cases h : (init D).exec D F schedule with
  | none => exact .refl
  | some net => exact run_of_exec h

/-- The network that a schedule leads on to; the same if the schedule cannot be performed. -/
def resumed (D : Deployment) (F : Faults) (net : Network) (schedule : List Action) : Network :=
  (net.exec D F schedule).getD net

theorem run_resumed (D : Deployment) (F : Faults) (net : Network) (schedule : List Action) :
    Run D F net (resumed D F net schedule) := by
  unfold resumed
  cases h : net.exec D F schedule with
  | none => exact .refl
  | some net' => exact run_of_exec h

/-- A schedule that can be performed runs on from its first action. -/
theorem run_of_after {D : Deployment} {F : Faults} {a : Action} {schedule : List Action}
    {net₁ : Network} (h₁ : (init D).perform D a = some net₁)
    (h : ((init D).exec D F (a :: schedule)).isSome = true) :
    Run D F net₁ (after D F (a :: schedule)) := by
  unfold after
  obtain ⟨net, hnet⟩ := Option.isSome_iff_exists.mp h
  rw [hnet]
  simp only [exec, h₁] at hnet
  split at hnet
  · exact run_of_exec hnet
  · cases hnet

theorem exec_append {D : Deployment} {F : Faults} (net : Network) (first rest : List Action) :
    net.exec D F (first ++ rest) = (net.exec D F first).bind fun net₁ => net₁.exec D F rest := by
  induction first generalizing net with
  | nil => rfl
  | cons a first ih =>
    simp only [List.cons_append, exec]
    split
    · cases net.perform D a with
      | none => rfl
      | some net₁ => exact ih net₁
    · rfl

/-- A schedule that can be performed runs on from any part of it. -/
theorem run_after_append {D : Deployment} {F : Faults} {first rest : List Action}
    (h : ((init D).exec D F (first ++ rest)).isSome = true) :
    Run D F (after D F first) (after D F (first ++ rest)) := by
  unfold after
  obtain ⟨net, hnet⟩ := Option.isSome_iff_exists.mp h
  rw [hnet]
  rw [exec_append] at hnet
  obtain ⟨net₁, h₁, h₂⟩ := Option.bind_eq_some_iff.mp hnet
  rw [h₁]
  exact run_of_exec h₂

/-! ## A concrete schedule -/

/-- A clock that stands still. -/
def tenMillis : Clock := fun _ => 10

/-- On `Deployment.line`, node 0 looks for a route to node 2 and finds it. -/
def discoveryOnLine : List Action :=
  [.act 0 tenMillis (.command (.discoverAndSend 2 [7])), .deliver 0 1 tenMillis,
   .deliver 0 2 tenMillis, .deliver 0 1 tenMillis, .deliver 0 0 tenMillis]

end Network

end DlDsr
