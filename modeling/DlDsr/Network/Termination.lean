import DlDsr.Network.Steps
import Mathlib.Data.Multiset.DershowitzManna
import Mathlib.Data.Prod.Lex
import Mathlib.Order.WellFounded

/-!
# Deliveries come to an end

Without commands, ticks and HELLO broadcasts, every delivery takes a packet out of
flight and puts finitely many in, each of a lower rank (`emits_rank`): an RREQ turns
into RREQs that have used up one more hop, or into an RREP; an RREP moves towards the
front of its trace, or releases DATA; DATA moves its cursor, or ends; a HELLO is
answered once. So the multiset of the ranks in flight decreases in the
Dershowitz–Manna order, which is well founded.

None of this looks at the duplicate cache, and nothing is assumed of the states of
the nodes or of the packets in flight.
-/

namespace DlDsr

namespace Network

open ProtocolState

variable {D : Deployment} {net net' : Network} {s : ProtocolState} {clock : Clock} {n : NodeId}

/-- How far a DATA packet can still go. -/
def hopsLeft (d : Data) : ℕ :=
  match d.protocolMode with
  | .dsr => d.dsrPath.length - d.routeCursor
  | .dlDsr => d.dldsrLabelPath.length - d.routeCursor

/-- What a packet to `dst` can still set off: first by its kind, then by its place. -/
def rank (D : Deployment) (packet : Packet) (dst : SocketAddr) : ℕ ×ₗ ℕ :=
  match packet with
  | .rreq q => toLex (3, 255 - q.hopCount.toNat)
  | .rrep p => toLex (2, ((D.nodeAt dst).bind p.tracePath.idxOf?).getD 0)
  | .data d => toLex (1, hopsLeft d)
  | .hello _ => toLex (0, 1)
  | .helloReply _ => toLex (0, 0)
  | .ack _ => toLex (0, 0)
  | .error _ => toLex (0, 0)

/-- The ranks of the packets in flight. -/
def ranks (D : Deployment) (inFlight : List InFlight) : Multiset (ℕ ×ₗ ℕ) :=
  inFlight.map fun p => rank D p.packet p.dst

theorem lower_kind {i j x y : ℕ} (h : i < j) : toLex (i, x) < toLex (j, y) :=
  Prod.Lex.toLex_lt_toLex.mpr (.inl h)

theorem lower_place {i x y : ℕ} (h : x < y) : toLex (i, x) < toLex (i, y) :=
  Prod.Lex.toLex_lt_toLex.mpr (.inr ⟨rfl, h⟩)

/-! ## One packet -/

/-- An RREP is relayed to a node that occurs earlier in the trace, however often the
nodes occur in it. -/
theorem relayRrep_rank (hP : D.Placed) (hn : D.Runs n) (hcfg : s.config = D.config n) {p : Rrep}
    {prev : NodeId} {dst : SocketAddr}
    (hprev : previousInTrace p.tracePath s.config.nodeId = some prev)
    (hend : s.endpoint prev = some dst) :
    rank D (.rrep p) dst < rank D (.rrep p) (D.addr n) := by
  obtain ⟨i, hfirst, hi⟩ := previousInTrace_eq_some.mp hprev
  obtain ⟨hrun, rfl⟩ := (endpoint_eq_some hP hcfg).mp hend
  have hme : p.tracePath.idxOf? n = some (i + 1) := by
    rw [ProtocolState.nodeId_eq hcfg] at hfirst
    exact idxOf?_eq_some_iff_firstAt.mpr hfirst
  apply lower_place
  rw [hP.nodeAt_addr hrun, hP.nodeAt_addr hn]
  show (p.tracePath.idxOf? prev).getD 0 < (p.tracePath.idxOf? n).getD 0
  rw [hme]
  -- `prev` stands just before the first occurrence of this node, or earlier already.
  cases hidx : p.tracePath.idxOf? prev with
  | none => exact Nat.succ_pos i
  | some j =>
    have hj := (idxOf?_eq_some_iff_firstAt.mp hidx).le_of_getElem? hi
    exact Nat.lt_succ_of_le hj

theorem forwardData_rank {d : Data} {dst dst' : SocketAddr} (h : s.ForwardsData d dst) :
    rank D (.data { d with routeCursor := d.routeCursor + 1 }) dst < rank D (.data d) dst' := by
  apply lower_place
  unfold hopsLeft
  cases h with
  | dsr next hmode hme hnext =>
    have hlt := (List.getElem?_eq_some_iff.mp hme).1
    simp only [hmode]
    omega
  | dlDsr label entry hmode hlabel =>
    have hlt := (List.getElem?_eq_some_iff.mp hlabel).1
    simp only [hmode]
    omega

/-- **What a packet makes a node send ranks below it.** -/
theorem emits_rank (hP : D.Placed) (hn : D.Runs n) (hcfg : s.config = D.config n)
    {packet : Packet} {sender : SocketAddr} {o : OutboundPacket}
    (h : s.Emits clock (.packet packet sender) o) :
    rank D o.packet o.dst < rank D packet (D.addr n) := by
  cases h with
  | helloReply => exact lower_place Nat.zero_lt_one
  | originate _ _ _ _ _ hinput => rcases hinput with ⟨_, heq⟩ | ⟨_, heq⟩ <;> cases heq
  | forwardRreq q e _ _ ha _ he _ hcopy =>
    obtain ⟨v, -, -, -, hpacket⟩ := mem_rreqCopies.mp hcopy
    obtain ⟨he, -⟩ := extendRreq_eq_some.mp he
    have hhops : e.hopCount = q.hopCount := by rw [he]
    rw [hpacket]
    apply lower_place
    -- The hop count has not reached a `u8`'s limit, since it is below the node's own.
    have hlt : q.hopCount.toNat < s.config.maxRreqHops.toNat := UInt8.lt_iff_toNat_lt.mp ha.2
    have hmax : s.config.maxRreqHops.toNat < 256 := s.config.maxRreqHops.toNat_lt
    show 255 - (e.hopCount + 1).toNat < 255 - q.hopCount.toNat
    rw [hhops, ha.hopCount_succ]
    omega
  | answerRreq => exact lower_kind (by omega)
  | relayRrep p _ dst prev _ _ hprev hend => exact relayRrep_rank hP hn hcfg hprev hend
  | flushData p _ payload _ _ _ _ ho =>
    obtain ⟨d, hpacket, -⟩ := ho
    rw [hpacket]
    exact lower_kind (by omega)
  | forwardData d _ dst prev _ _ _ _ hfwd => exact forwardData_rank hfwd

/-! ## Networks -/

/-- The nodes run with the configurations of the deployment. -/
def Configured (D : Deployment) (net : Network) : Prop :=
  ∀ n, (net.node n).config = D.config n

/-- A delivery, for which the hash maps of the receiver iterate in any order. -/
inductive Delivers (D : Deployment) (net : Network) : Network → Prop where
  | deliver {net' : Network} (n : NodeId) (s : ProtocolState) (hs : (net.node n).Reorder s)
      (i : Nat) (clock : Clock)
      (h : { net with node := Function.update net.node n s }.perform D (.deliver i n clock) =
        some net') :
      Delivers D net net'

/-- Items that are replaced by items of lower rank. -/
theorem ranks_lt {p : InFlight} {inFlight rest new : List InFlight}
    (hp : inFlight.Perm (p :: rest))
    (hnew : ∀ q ∈ new, rank D q.packet q.dst < rank D p.packet p.dst) :
    Multiset.IsDershowitzMannaLT (ranks D (rest ++ new)) (ranks D inFlight) := by
  refine ⟨ranks D rest, ranks D new, {rank D p.packet p.dst}, ?_, ?_, ?_, ?_⟩
  · exact Multiset.singleton_ne_zero _
  · unfold ranks
    rw [List.map_append, Multiset.coe_add]
  · have hperm : ranks D inFlight = ranks D (p :: rest) :=
      Multiset.coe_eq_coe.mpr (hp.map _)
    rw [hperm, add_comm]
    rfl
  · intro r hr
    obtain ⟨q, hq, rfl⟩ := List.mem_map.mp (Multiset.mem_coe.mp hr)
    exact ⟨_, Multiset.mem_singleton_self _, hnew q hq⟩

theorem delivers_ranks (hP : D.Placed) (hcfg : Configured D net) (h : Delivers D net net') :
    Configured D net' ∧
      Multiset.IsDershowitzMannaLT (ranks D net'.inFlight) (ranks D net.inFlight) := by
  obtain ⟨n, s, hs, i, clock, h⟩ := h
  have hscfg : s.config = D.config n := hs.config.trans (hcfg n)
  simp only [perform] at h
  split at h
  · next p hp =>
    simp only [Option.ite_none_right_eq_some, Option.some.injEq] at h
    obtain ⟨⟨hn, hdst⟩, rfl⟩ := h
    constructor
    · intro m
      by_cases hm : m = n
      · subst hm
        simp [Network.call, hscfg]
      · simp [Network.call, Function.update_of_ne hm, hcfg m]
    · refine ranks_lt (perm_eraseIdx hp) fun q hq => ?_
      obtain ⟨o, ho, rfl⟩ := mem_sent.mp hq
      simp only [Function.update_self] at ho
      rw [hdst]
      exact emits_rank hP hn hscfg (emits_of_mem ho)
  · cases h

/-- **No packet storm.** Whatever the states of the nodes and the packets in flight,
every delivery decreases the ranks in flight in a well-founded order, so that no
sequence of deliveries is infinite. The queues of the nodes need not be measured: an
RREP ranks above all the DATA it can release. -/
theorem deliveries_finite (hP : D.Placed) :
    (∀ net net', Configured D net → Delivers D net net' →
      Multiset.IsDershowitzMannaLT (ranks D net'.inFlight) (ranks D net.inFlight)) ∧
    WellFounded (Multiset.IsDershowitzMannaLT : Multiset (ℕ ×ₗ ℕ) → Multiset (ℕ ×ₗ ℕ) → Prop) ∧
    ∀ run : ℕ → Network, Configured D (run 0) → ∃ i, ¬ Delivers D (run i) (run (i + 1)) := by
  have hwf := Multiset.wellFounded_isDershowitzMannaLT (α := ℕ ×ₗ ℕ)
  refine ⟨fun net net' hcfg h => (delivers_ranks hP hcfg h).2, hwf, fun run hcfg => ?_⟩
  by_contra hforever
  push Not at hforever
  have hconfigured : ∀ i, Configured D (run i) := by
    intro i
    induction i with
    | zero => exact hcfg
    | succ i ih => exact (delivers_ranks hP ih (hforever i)).1
  have : IsWellFounded _ (Multiset.IsDershowitzMannaLT (α := ℕ ×ₗ ℕ)) := ⟨hwf⟩
  obtain ⟨i, hi⟩ := WellFounded.not_rel_apply_succ (r := Multiset.IsDershowitzMannaLT)
    fun i => ranks D (run i).inFlight
  exact hi (delivers_ranks hP (hconfigured i) (hforever i)).2

/-- A line of three nodes in which node 2 seems to have sent a forged RREP, whose trace
passes node 1 twice, to node 1. -/
def forgedOnLine : Network :=
  { init (.line .dsr) with
    inFlight :=
      [{ packet := .rrep
          { srcNodeId := 0, dstNodeId := 2, requestId := 5, dsrPath := [0, 1, 2],
            dldsrLabelPath := [], tracePath := [0, 1, 2, 1], createdAtMillis := 10 }
         sender := .localhost 7002
         dst := .localhost 7001
         origin := 0 }] }

/-- Node 1 relays the forged RREP to node 0. -/
theorem deliveries_finite_line :
    ∃ net', Delivers (.line .dsr) forgedOnLine net' ∧
      net'.inFlight.map InFlight.dst = [.localhost 7000] ∧
      Multiset.IsDershowitzMannaLT (ranks (.line .dsr) net'.inFlight)
        (ranks (.line .dsr) forgedOnLine.inFlight) := by
  obtain ⟨net', hnet', hsent⟩ :
      ∃ net', forgedOnLine.perform (.line .dsr) (.deliver 0 1 tenMillis) = some net' ∧
        net'.inFlight.map InFlight.dst = [.localhost 7000] := by
    have hrun : ((forgedOnLine.perform (.line .dsr) (.deliver 0 1 tenMillis)).map fun net' =>
        net'.inFlight.map InFlight.dst) = some [.localhost 7000] := by
      decide +kernel
    exact Option.map_eq_some_iff.mp hrun
  have hdelivers : Delivers (.line .dsr) forgedOnLine net' := by
    refine .deliver 1 (forgedOnLine.node 1) ⟨rfl, .refl _, .refl _, .refl _, rfl, .refl _, rfl,
      .refl _, rfl, rfl⟩ 0 tenMillis ?_
    rw [Function.update_eq_self]
    exact hnet'
  exact ⟨net', hdelivers, hsent,
    (deliveries_finite (Deployment.line_placed .dsr)).1 _ _ (fun _ => rfl) hdelivers⟩

end Network

end DlDsr
