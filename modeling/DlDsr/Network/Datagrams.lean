import DlDsr.Core.Wire
import DlDsr.Lib.Simulation
import DlDsr.Network.Steps
import DlDsr.Node.Daemon

/-!
# Networks of daemons

`Network` lets nodes exchange packets. What daemons exchange are datagrams: a packet is
encoded where it is sent, its bytes are all that arrives, and a send may fail. Datagrams
from elsewhere may arrive as well, as long as they do not happen to be packets.

So **daemons behave like nodes** (`daemons_refine`): whatever a network of daemons does, a
network of nodes does, if a packet that could not be sent is taken for one that is lost.
The protocol states agree but for the counters of dropped packets.
-/

namespace DlDsr

/-- A packet on its way, without its origin. -/
structure Message where
  packet : Packet
  sender : SocketAddr
  dst : SocketAddr
deriving DecidableEq

/-- What the receiver learns of a packet in flight. -/
def InFlight.message (p : InFlight) : Message := ⟨p.packet, p.sender, p.dst⟩

/-- The packet in a datagram, if it is one. -/
def Codec.read (codec : Codec) (g : Datagram) : Option Message :=
  (codec.decode g.bytes).map fun packet => ⟨packet, g.sender, g.dst⟩

/-- The state of a network of daemons. `lost`, `duplicated`, `foreign` and `unread` keep
book of what the transport has done: the datagrams it lost and duplicated, those that came
from elsewhere, and those that arrived but could not be decoded. -/
structure DaemonNetwork where
  daemon : NodeId → Daemon
  datagrams : List Datagram := []
  lost : List Datagram := []
  duplicated : List Datagram := []
  foreign : List Datagram := []
  unread : List Datagram := []

/-- A schedulable event of a network of daemons. -/
inductive DaemonAction where
  | wake (n : NodeId) (clock : Clock) (accepts : Nat → Bool) (wakeup : Wakeup)
  | deliver (i : Nat) (n : NodeId) (clock : Clock) (accepts : Nat → Bool)
  | lose (i : Nat)
  | duplicate (i : Nat)
  | inject (g : Datagram)
  | restart (n : NodeId)

/-- Whether the transport and the nodes may behave like this. -/
def Faults.permitsDaemon (F : Faults) : DaemonAction → Bool
  | .lose _ => F.loss
  | .duplicate _ => F.duplication
  | .restart _ => F.restarts
  | _ => true

namespace DaemonNetwork

/-- The network before anything happened. -/
def init (D : Deployment) : DaemonNetwork where
  daemon n := .new (D.config n)

/-- Daemon `n` wakes up. -/
def wake (net : DaemonNetwork) (codec : Codec) (n : NodeId) (clock : Clock)
    (accepts : Nat → Bool) (wakeup : Wakeup) : DaemonNetwork :=
  let result := (net.daemon n).wake codec clock accepts wakeup
  { net with
    daemon := Function.update net.daemon n result.1
    datagrams := net.datagrams ++ result.2.datagrams }

/-- The datagram `g` is taken out of flight. -/
def take (net : DaemonNetwork) (codec : Codec) (g : Datagram) (rest : List Datagram) :
    DaemonNetwork :=
  { net with
    datagrams := rest
    unread := if (codec.decode g.bytes).isSome then net.unread else g :: net.unread }

/-- Perform an action, if it is enabled. -/
def perform (codec : Codec) (D : Deployment) (net : DaemonNetwork) :
    DaemonAction → Option DaemonNetwork
  | .wake n clock accepts wakeup =>
    if D.Runs n ∧ wakeup.isLocal then some (net.wake codec n clock accepts wakeup) else none
  | .deliver i n clock accepts =>
    match net.datagrams[i]? with
    | some g =>
      if D.Runs n ∧ g.dst = D.addr n then
        some ((net.take codec g (net.datagrams.eraseIdx i)).wake codec n clock accepts
          (.received g.bytes g.sender))
      else none
    | none => none
  | .lose i => (net.datagrams[i]?).map fun g =>
      { net with datagrams := net.datagrams.eraseIdx i, lost := g :: net.lost }
  | .duplicate i => (net.datagrams[i]?).map fun g =>
      { net with datagrams := g :: net.datagrams, duplicated := g :: net.duplicated }
  | .inject g =>
    if codec.decode g.bytes = none then
      some { net with datagrams := g :: net.datagrams, foreign := g :: net.foreign }
    else none
  | .restart n =>
    if D.Runs n then
      some { net with daemon := Function.update net.daemon n (.new (D.config n)) }
    else none

/-- One step of a network of daemons. -/
inductive Step (codec : Codec) (D : Deployment) (F : Faults) (net : DaemonNetwork) :
    DaemonNetwork → Prop where
  | action {net' : DaemonNetwork} (a : DaemonAction) (hF : F.permitsDaemon a)
      (h : net.perform codec D a = some net') : Step codec D F net net'
  | reorder (n : NodeId) (s' : ProtocolState) (h : (net.daemon n).state.Reorder s') :
      Step codec D F net
        { net with daemon := Function.update net.daemon n { net.daemon n with state := s' } }

/-- The states a network of daemons can get into. -/
def Reachable (codec : Codec) (D : Deployment) (F : Faults) (net : DaemonNetwork) : Prop :=
  Relation.ReflTransGen (Step codec D F) (init D) net

variable {codec : Codec} {D : Deployment} {F : Faults} {net net' : DaemonNetwork}

/-- What a step can do. -/
inductive StepCases (codec : Codec) (D : Deployment) (F : Faults) (net : DaemonNetwork) :
    DaemonNetwork → Prop where
  | wake {n : NodeId} {clock : Clock} {accepts : Nat → Bool} {wakeup : Wakeup} (hn : D.Runs n)
      (hlocal : wakeup.isLocal) : StepCases codec D F net (net.wake codec n clock accepts wakeup)
  | deliver {n : NodeId} {clock : Clock} {accepts : Nat → Bool} {g : Datagram}
      {rest : List Datagram} (hn : D.Runs n) (hg : net.datagrams.Perm (g :: rest))
      (hdst : g.dst = D.addr n) :
      StepCases codec D F net ((net.take codec g rest).wake codec n clock accepts
        (.received g.bytes g.sender))
  | lose {g : Datagram} {rest : List Datagram} (hF : F.loss)
      (hg : net.datagrams.Perm (g :: rest)) :
      StepCases codec D F net { net with datagrams := rest, lost := g :: net.lost }
  | duplicate {g : Datagram} (hF : F.duplication) (hg : g ∈ net.datagrams) :
      StepCases codec D F net
        { net with datagrams := g :: net.datagrams, duplicated := g :: net.duplicated }
  | inject {g : Datagram} (hg : codec.decode g.bytes = none) :
      StepCases codec D F net
        { net with datagrams := g :: net.datagrams, foreign := g :: net.foreign }
  | restart {n : NodeId} (hF : F.restarts) (hn : D.Runs n) :
      StepCases codec D F net
        { net with daemon := Function.update net.daemon n (.new (D.config n)) }
  | reorder {n : NodeId} {s' : ProtocolState} (h : (net.daemon n).state.Reorder s') :
      StepCases codec D F net
        { net with daemon := Function.update net.daemon n { net.daemon n with state := s' } }

theorem step_cases (h : Step codec D F net net') : StepCases codec D F net net' := by
  cases h with
  | reorder n s' h => exact .reorder h
  | action a hF h =>
    cases a with
    | wake n clock accepts wakeup =>
      simp only [perform, Option.ite_none_right_eq_some, Option.some.injEq] at h
      obtain ⟨⟨hn, hlocal⟩, rfl⟩ := h
      exact .wake hn hlocal
    | deliver i n clock accepts =>
      simp only [perform] at h
      split at h
      · next g hg =>
        simp only [Option.ite_none_right_eq_some, Option.some.injEq] at h
        obtain ⟨⟨hn, hdst⟩, rfl⟩ := h
        exact .deliver hn (Network.perm_eraseIdx hg) hdst
      · cases h
    | lose i =>
      obtain ⟨g, hg, rfl⟩ := Option.map_eq_some_iff.mp h
      exact .lose hF (Network.perm_eraseIdx hg)
    | duplicate i =>
      obtain ⟨g, hg, rfl⟩ := Option.map_eq_some_iff.mp h
      exact .duplicate hF (List.mem_of_getElem? hg)
    | inject g =>
      simp only [perform, Option.ite_none_right_eq_some, Option.some.injEq] at h
      obtain ⟨hg, rfl⟩ := h
      exact .inject hg
    | restart n =>
      simp only [perform, Option.ite_none_right_eq_some, Option.some.injEq] at h
      obtain ⟨hn, rfl⟩ := h
      exact .restart hF hn

/-! ## Daemons behave like nodes -/

/-- The network of nodes `a` is what the network of daemons `net` looks like to the
protocol. -/
structure Refines (codec : Codec) (net : DaemonNetwork) (a : Network) : Prop where
  nodes : ∀ n, (a.node n).SameButDrops (net.daemon n).state
  packets : (a.inFlight.map InFlight.message).Perm (net.datagrams.filterMap codec.read)

/-- A network may lose any of the packets in flight. -/
theorem run_of_sublist (hF : F.loss = true) (a : Network) {kept all : List InFlight}
    (h : kept.Sublist all) (before : List InFlight) :
    Network.Run D F { a with inFlight := before ++ all } { a with inFlight := before ++ kept } := by
  induction h generalizing before with
  | slnil => exact .refl
  | @cons kept all p _ ih =>
    refine .head (.action (.lose before.length) hF ?_) (ih before)
    have hlt : before.length < (before ++ p :: all).length := by simp
    have herase : (before ++ p :: all).eraseIdx before.length = before ++ all := by
      rw [List.eraseIdx_append_of_length_le (Nat.le_refl _), Nat.sub_self]
      rfl
    show (if before.length < (before ++ p :: all).length then some _ else none) = _
    rw [if_pos hlt]
    show some { a with inFlight := (before ++ p :: all).eraseIdx before.length } = _
    rw [herase]
  | @cons_cons kept all p _ ih =>
    have hih := ih (before ++ [p])
    rw [List.append_assoc, List.append_assoc] at hih
    exact hih

/-- The datagrams of the packets that were sent are read as these packets. -/
theorem filterMap_read {s : ProtocolState} {sent : List OutboundPacket}
    {datagrams : List Datagram} (origin : Nat)
    (h : List.Forall₂ (Daemon.Carries codec s.config.bindAddr) sent datagrams) :
    datagrams.filterMap codec.read = (Network.sent s sent origin).map InFlight.message := by
  induction h with
  | nil => rfl
  | @cons o g sent datagrams hg _ ih =>
    have hread : codec.read g = some ⟨o.packet, s.config.bindAddr, o.dst⟩ := by
      unfold Codec.read
      rw [codec.decode_encode _ _ hg.encoded, hg.sender, hg.dst]
      rfl
    rw [List.filterMap_cons_some hread, ih]
    rfl

/-- A wakeup that makes a call is a call of the node, after which the packets that could
not be sent are lost. -/
theorem Refines.call (hF : F.loss = true) {a : Network} (h : Refines codec net a) (n : NodeId)
    (clock : Clock) (accepts : Nat → Bool) (origin : Nat) {wakeup : Wakeup} {input : Input}
    (hinput : wakeup.input codec = some input) :
    ∃ a', Network.Run D F (a.call n clock input origin) a' ∧
      Refines codec (net.wake codec n clock accepts wakeup) a' := by
  have hsimilar := ProtocolState.call_similar (h.nodes n) clock input
  obtain ⟨⟨sent, hsub, hcarries⟩, hstate, -, -⟩ :=
    Daemon.wake_wakes (net.daemon n) clock accepts hinput
  rw [← hsimilar.actions] at hsub
  rw [(h.nodes n).config] at hcarries
  refine ⟨_, run_of_sublist hF (a.call n clock input origin) (hsub.map _) a.inFlight,
    fun m => ?_, ?_⟩
  · show (Function.update a.node n _ m).SameButDrops (Function.update net.daemon n _ m).state
    by_cases hm : m = n
    · subst hm
      rw [Function.update_self, Function.update_self, hstate]
      exact hsimilar.state.trans (ProtocolState.sameButDrops_droppedPackets _ _)
    · rw [Function.update_of_ne hm, Function.update_of_ne hm]
      exact h.nodes m
  · show ((a.inFlight ++ Network.sent (a.node n) sent origin).map InFlight.message).Perm
      ((net.datagrams ++ ((net.daemon n).wake codec clock accepts wakeup).2.datagrams).filterMap
        codec.read)
    rw [List.map_append, List.filterMap_append, filterMap_read origin hcarries]
    exact h.packets.append_right _

/-- A wakeup that makes no call leaves the network as it is. -/
theorem wake_of_none {n : NodeId} {clock : Clock} {accepts : Nat → Bool} {wakeup : Wakeup}
    (h : wakeup.input codec = none) : net.wake codec n clock accepts wakeup = net := by
  unfold DaemonNetwork.wake
  rw [Daemon.wake_of_none h]
  dsimp only
  rw [Function.update_eq_self, List.append_nil]

theorem Wakeup.input_isLocal {wakeup : Wakeup} {input : Input} (hlocal : wakeup.isLocal = true)
    (h : wakeup.input codec = some input) : input.isLocal = true := by
  cases wakeup with
  | control bytes sender =>
    unfold Wakeup.input at h
    dsimp only at h
    split at h
    · cases h
      rfl
    · cases h
  | received => cases hlocal
  | _ => cases h; rfl

/-- The packet in a datagram in flight is in flight. -/
theorem Refines.take {a : Network} (h : Refines codec net a) {g : Datagram}
    {rest : List Datagram} {packet : Packet} (hg : net.datagrams.Perm (g :: rest))
    (hread : codec.decode g.bytes = some packet) :
    ∃ i p, a.inFlight[i]? = some p ∧ p.message = ⟨packet, g.sender, g.dst⟩ ∧
      ((a.inFlight.eraseIdx i).map InFlight.message).Perm (rest.filterMap codec.read) := by
  have hmessage : codec.read g = some ⟨packet, g.sender, g.dst⟩ := by
    unfold Codec.read
    rw [hread]
    rfl
  have hperm : (a.inFlight.map InFlight.message).Perm
      (⟨packet, g.sender, g.dst⟩ :: rest.filterMap codec.read) := by
    refine h.packets.trans ((hg.filterMap _).trans ?_)
    rw [List.filterMap_cons_some hmessage]
  obtain ⟨p, hp, hpm⟩ := List.mem_map.mp (hperm.mem_iff.mpr List.mem_cons_self)
  obtain ⟨i, hi⟩ := List.mem_iff_getElem?.mp hp
  refine ⟨i, p, hi, hpm, List.Perm.cons_inv (a := p.message) ?_⟩
  have herase := (Network.perm_eraseIdx hi).map InFlight.message
  rw [List.map_cons] at herase
  rw [hpm] at herase ⊢
  exact herase.symm.trans hperm

/-- What is not a packet cannot be seen. -/
theorem filterMap_read_of_none {g : Datagram} {datagrams rest : List Datagram}
    (hread : codec.decode g.bytes = none) (hg : datagrams.Perm (g :: rest)) :
    (datagrams.filterMap codec.read).Perm (rest.filterMap codec.read) := by
  have hnone : codec.read g = none := by
    unfold Codec.read
    rw [hread]
    rfl
  have hperm := hg.filterMap codec.read
  rw [List.filterMap_cons_none hnone] at hperm
  exact hperm

/-- The faults of the network of nodes: a packet that cannot be sent is lost. -/
def unsentLost (F : Faults) : Faults := { F with loss := true }

/-- A datagram that arrives is a packet that arrives, or nothing. -/
theorem Refines.deliver (hF : F.loss = true) {a : Network} (h : Refines codec net a) {n : NodeId}
    {clock : Clock} {accepts : Nat → Bool} {g : Datagram} {rest : List Datagram}
    (hn : D.Runs n) (hg : net.datagrams.Perm (g :: rest)) (hdst : g.dst = D.addr n) :
    ∃ a', Network.Run D F a a' ∧
      Refines codec ((net.take codec g rest).wake codec n clock accepts
        (.received g.bytes g.sender)) a' := by
  cases hread : codec.decode g.bytes with
  | none =>
    have hinput : (Wakeup.received g.bytes g.sender).input codec = none := by
      simp [Wakeup.input, hread]
    rw [wake_of_none hinput]
    exact ⟨a, .refl, h.nodes, h.packets.trans (filterMap_read_of_none hread hg)⟩
  | some packet =>
    have hinput : (Wakeup.received g.bytes g.sender).input codec =
        some (.packet packet g.sender) := by
      simp [Wakeup.input, hread]
    obtain ⟨i, p, hi, hp, hrest⟩ := h.take hg hread
    have htaken : Refines codec (net.take codec g rest)
        { a with inFlight := a.inFlight.eraseIdx i } := ⟨h.nodes, hrest⟩
    obtain ⟨a', hrun, h'⟩ := htaken.call (D := D) hF n clock accepts p.origin hinput
    obtain ⟨packet', sender, dst, origin⟩ := p
    cases hp
    refine ⟨a', .head (.action (.deliver i n clock) rfl ?_) hrun, h'⟩
    unfold Network.perform
    dsimp only
    rw [hi]
    exact if_pos ⟨hn, hdst⟩

/-- Every step of the daemons is matched by steps of the nodes. -/
theorem simulates (codec : Codec) (D : Deployment) (F : Faults) :
    Simulates (Step codec D F) (Network.Step D (unsentLost F)) (Refines codec) := by
  intro net a net' h hstep
  have hs := step_cases hstep
  cases hs with
  | @wake n clock accepts wakeup hn hlocal =>
    cases hinput : wakeup.input codec with
    | none =>
      rw [wake_of_none hinput]
      exact ⟨a, .refl, h⟩
    | some input =>
      obtain ⟨a', hrun, h'⟩ := h.call (D := D) (F := unsentLost F) rfl n clock accepts
        a.history.length hinput
      refine ⟨a', .head (.action (.act n clock input) rfl ?_) hrun, h'⟩
      exact if_pos ⟨hn, Wakeup.input_isLocal hlocal hinput⟩
  | deliver hn hg hdst => exact h.deliver rfl hn hg hdst
  | @lose g rest hF hg =>
    cases hread : codec.decode g.bytes with
    | none => exact ⟨a, .refl, h.nodes, h.packets.trans (filterMap_read_of_none hread hg)⟩
    | some packet =>
      obtain ⟨i, p, hi, -, hrest⟩ := h.take hg hread
      refine ⟨{ a with inFlight := a.inFlight.eraseIdx i },
        .single (.action (.lose i) rfl ?_), h.nodes, hrest⟩
      exact if_pos (List.getElem?_eq_some_iff.mp hi).1
  | @duplicate g hF hg =>
    cases hread : codec.decode g.bytes with
    | none =>
      refine ⟨a, .refl, h.nodes, h.packets.trans ?_⟩
      exact (filterMap_read_of_none hread (.refl _)).symm
    | some packet =>
      obtain ⟨i, p, hi, hp, -⟩ := h.take (List.perm_cons_erase hg) hread
      have hmessage : codec.read g = some p.message := by
        unfold Codec.read
        rw [hread, hp]
        rfl
      refine ⟨{ a with inFlight := p :: a.inFlight },
        .single (.action (.duplicate i) hF ?_), h.nodes, ?_⟩
      · show (a.inFlight[i]?).map _ = _
        rw [hi]
        rfl
      · show (p.message :: a.inFlight.map InFlight.message).Perm
          ((g :: net.datagrams).filterMap codec.read)
        rw [List.filterMap_cons_some hmessage]
        exact h.packets.cons _
  | @inject g hg =>
    refine ⟨a, .refl, h.nodes, h.packets.trans ?_⟩
    exact (filterMap_read_of_none hg (.refl _)).symm
  | @restart n hF hn =>
    refine ⟨_, .single (.action (.restart n) hF (if_pos hn)), fun m => ?_, h.packets⟩
    show (Function.update a.node n _ m).SameButDrops (Function.update net.daemon n _ m).state
    by_cases hm : m = n
    · subst hm
      rw [Function.update_self, Function.update_self]
      exact .refl _
    · rw [Function.update_of_ne hm, Function.update_of_ne hm]
      exact h.nodes m
  | @reorder n s' hr =>
    obtain ⟨t, ht, hsame⟩ := (h.nodes n).reorder hr
    refine ⟨_, .single (.reorder n t ht), fun m => ?_, h.packets⟩
    show (Function.update a.node n t m).SameButDrops (Function.update net.daemon n _ m).state
    by_cases hm : m = n
    · subst hm
      rw [Function.update_self, Function.update_self]
      exact hsame
    · rw [Function.update_of_ne hm, Function.update_of_ne hm]
      exact h.nodes m

/-- **Daemons behave like nodes.** Whatever a network of daemons gets into, a network of
nodes that may also lose packets gets into: the same protocol states, but for the counters
of dropped packets, and the same packets in flight. -/
theorem daemons_refine (h : Reachable codec D F net) :
    ∃ a, Network.Reachable D (unsentLost F) a ∧ Refines codec net a :=
  (simulates codec D F).run ⟨fun _ => .refl _, .refl _⟩ h

/-! ## A concrete schedule -/

/-- Perform a schedule, if every action of it is permitted and enabled. -/
def exec (codec : Codec) (D : Deployment) (F : Faults) (net : DaemonNetwork) :
    List DaemonAction → Option DaemonNetwork
  | [] => some net
  | a :: schedule =>
    if F.permitsDaemon a then
      (net.perform codec D a).bind fun net' => net'.exec codec D F schedule
    else none

/-- The network a schedule leads to; the initial one if the schedule cannot be performed. -/
def after (codec : Codec) (D : Deployment) (F : Faults) (schedule : List DaemonAction) :
    DaemonNetwork :=
  ((init D).exec codec D F schedule).getD (init D)

theorem run_of_exec {schedule : List DaemonAction}
    (h : net.exec codec D F schedule = some net') :
    Relation.ReflTransGen (Step codec D F) net net' := by
  induction schedule generalizing net with
  | nil =>
    obtain rfl := Option.some.inj h
    exact .refl
  | cons a schedule ih =>
    simp only [exec] at h
    split at h
    · next hF =>
      obtain ⟨net₁, h₁, h₂⟩ := Option.bind_eq_some_iff.mp h
      exact .head (.action a hF h₁) (ih h₂)
    · cases h

theorem reachable_after (codec : Codec) (D : Deployment) (F : Faults)
    (schedule : List DaemonAction) : Reachable codec D F (after codec D F schedule) := by
  unfold after
  cases h : (init D).exec codec D F schedule with
  | none => exact .refl
  | some net => exact run_of_exec h

/-- The format of `Wire` for packets. There is no control message on the line, and none is
understood. -/
def wireCodec : Codec where
  encode := Packet.encode
  decode := Packet.decode
  parseControl _ := .error "expected value at line 1 column 1"
  decode_encode _ _ h := Packet.decode_encode h

/-- On `Deployment.line`, all greet each other and learn their labels. The first HELLO is
duplicated and one of the two lost, a datagram from elsewhere arrives, and the socket of
node 2 refuses a HELLO. -/
def greetings : List DaemonAction :=
  let all := fun _ => true
  [.wake 0 Network.tenMillis all .helloTick, .duplicate 0, .lose 0,
   .wake 1 Network.tenMillis all .helloTick, .wake 2 Network.tenMillis all .helloTick,
   .deliver 0 1 Network.tenMillis all, .deliver 0 0 Network.tenMillis all,
   .deliver 0 2 Network.tenMillis all, .deliver 0 1 Network.tenMillis all,
   .deliver 0 0 Network.tenMillis all, .deliver 0 1 Network.tenMillis all,
   .deliver 0 1 Network.tenMillis all, .deliver 0 2 Network.tenMillis all,
   .inject ⟨[255], .localhost 9000, .localhost 7001⟩, .deliver 0 1 Network.tenMillis all,
   .wake 2 Network.tenMillis (fun _ => false) .helloTick]

/-- After the greetings, node 0 looks for node 2 and finds it; its DATA is on the way to
node 1. -/
def lineSchedule : List DaemonAction :=
  let all := fun _ => true
  greetings ++
    [.wake 0 Network.tenMillis all (.command (.discoverAndSend 2 [7])),
     .deliver 0 1 Network.tenMillis all, .deliver 0 2 Network.tenMillis all,
     .deliver 0 1 Network.tenMillis all, .deliver 0 0 Network.tenMillis all]

/-- The daemons of the line after `lineSchedule`. -/
def onLine : DaemonNetwork := after wireCodec (.line .dlDsr) ⟨true, true, false⟩ lineSchedule

/-- The DATA is the only datagram on its way, and node 0 has its route with two labels. -/
example :
    (onLine.datagrams.filterMap wireCodec.read).map (·.dst) = [.localhost 7001] ∧
    ((onLine.daemon 0).state.routes.held 2).map (·.dldsrLabelPath) = [[1, 2]] ∧
    (onLine.daemon 2).state.metrics.droppedPackets = 1 := by
  decide +kernel

/-- The daemons of the line behave like nodes. -/
theorem daemons_refine_line :
    ∃ a, Network.Reachable (.line .dlDsr) (unsentLost ⟨true, true, false⟩) a ∧
      Refines wireCodec onLine a :=
  daemons_refine (reachable_after ..)

end DaemonNetwork

end DlDsr
