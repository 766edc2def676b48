import DlDsr.Core.Benchmark
import DlDsr.Network.EndToEnd

/-!
# What the benchmark counts

`simulate_chain` charges every packet for `hops - 1` links, and delivers it. In a network
whose transport neither loses nor duplicates and whose nodes do not restart, the protocol
does the same: whatever is charged for sending a DATA packet once, what has been charged
so far is what the delivered packets cost on the links of their routes, and those in
flight on the links they have crossed (`charged`). The cursor counts these links
(`call_charges`), and at the destination it is one less than the length of the path.
-/

namespace DlDsr

/-- The payload that a DATA packet carries. -/
def Data.submission (d : Data) : Submission := ⟨d.srcNodeId, d.dstNodeId, d.payload⟩

/-- The DATA packets among these. -/
def dataOf (packets : List Packet) : List Data :=
  packets.filterMap fun
    | .data d => some d
    | _ => none

/-- The DATA packet that a call receives. -/
def Input.data : Input → List Data
  | .packet p _ => dataOf [p]
  | _ => []

/-- The DATA packet that a call of node `n` receives, if it is for `n`. -/
def Input.arrived (n : NodeId) (input : Input) : List Data :=
  input.data.filter fun d => d.dstNodeId == n

/-- The sum of `w` over DATA packets. -/
def charge (w : Data → Nat) (data : List Data) : Nat := (data.map w).sum

/-- `w` does not depend on the cursor, so it charges a packet the same on every link. -/
def CursorFree (w : Data → Nat) : Prop := ∀ d cursor, w { d with routeCursor := cursor } = w d

/-- What a packet has cost on the links it has crossed. -/
def crossed (w : Data → Nat) (d : Data) : Nat := w d * d.routeCursor

/-- What a packet costs on all links of its route, counted as `simulate_chain` does. -/
def due (w : Data → Nat) (d : Data) : Nat := w d * chainLinks d.dsrPath.length

/-- The bytes that `simulate_chain` counts for a packet. -/
def benchmarkBytes (mode : ProtocolMode) (d : Data) : Nat :=
  d.payload.length + pathHeaderBytes mode d.dsrPath.length + 32

theorem mem_dataOf {packets : List Packet} {d : Data} :
    d ∈ dataOf packets ↔ .data d ∈ packets := by
  unfold dataOf
  rw [List.mem_filterMap]
  constructor
  · rintro ⟨p, hp, hd⟩
    split at hd
    · cases hd
      exact hp
    · cases hd
  · exact fun hp => ⟨_, hp, rfl⟩

theorem dataOf_append (first rest : List Packet) :
    dataOf (first ++ rest) = dataOf first ++ dataOf rest := List.filterMap_append ..

theorem charge_append (w : Data → Nat) (first rest : List Data) :
    charge w (first ++ rest) = charge w first + charge w rest := by
  unfold charge
  rw [List.map_append, List.sum_append]

theorem charge_perm (w : Data → Nat) {data data' : List Data} (h : data.Perm data') :
    charge w data = charge w data' := (h.map w).sum_eq

theorem charge_congr {v w : Data → Nat} {data : List Data} (h : ∀ d ∈ data, v d = w d) :
    charge v data = charge w data := congrArg List.sum (List.map_congr_left h)

theorem benchmarkBytes_cursorFree (mode : ProtocolMode) : CursorFree (benchmarkBytes mode) :=
  fun _ _ => rfl

/-- Packets that cost the same are charged for by their number. -/
theorem charge_const {w : Data → Nat} {data : List Data} {c : Nat} (h : ∀ d ∈ data, w d = c) :
    charge w data = data.length * c := by
  rw [charge_congr h]
  unfold charge
  rw [List.map_const', List.sum_replicate_nat]

namespace Network

open ProtocolState

variable {D : Deployment} {F : Faults} {net net' : Network} {mode : ProtocolMode}
  {w : Data → Nat}

/-- The DATA packets sent so far, once for every link. -/
def transmitted (net : Network) : List Data :=
  (callsOf net.history).flatMap fun c => dataOf (c.actions.outbound.map OutboundPacket.packet)

/-- The DATA packets that have reached the node they are for. -/
def arrived (net : Network) : List Data :=
  (callsOf net.history).flatMap fun c => c.input.arrived c.nodeId

/-- The DATA packets in flight. -/
def travelling (net : Network) : List Data := dataOf (net.inFlight.map InFlight.packet)

/-! ## One call -/

/-- What a call charges, and whether it delivers. -/
structure Charges (n : NodeId) (input : Input) (r : ProtocolState × ProtocolActions) : Prop where
  /-- The links of the packet received and the ones sent. -/
  links : ∀ w, CursorFree w →
    charge w (dataOf (r.2.outbound.map OutboundPacket.packet)) + charge (crossed w) input.data =
      charge (due w) (input.arrived n) +
        charge (crossed w) (dataOf (r.2.outbound.map OutboundPacket.packet))
  delivers : deliveredBy r.2.events = ((input.arrived n).map Data.submission : List Submission)

/-- At the end of a path without repetitions, the cursor has counted all its links. -/
theorem due_of_last {d : Data} {n : NodeId} (hnodup : d.dsrPath.Nodup)
    (hme : d.dsrPath[d.routeCursor]? = some n) (hlast : d.dsrPath.getLast? = some n)
    (hpos : 0 < d.routeCursor) (w : Data → Nat) : due w d = crossed w d := by
  have hlt : d.routeCursor < d.dsrPath.length := (List.getElem?_eq_some_iff.mp hme).1
  have hend : d.routeCursor = d.dsrPath.length - 1 := by
    by_contra hne
    rw [List.getLast?_eq_getElem?] at hlast
    exact List.nodup_iff_getElem?_ne_getElem?.mp hnodup d.routeCursor (d.dsrPath.length - 1)
      (by omega) (by omega) (hme.trans hlast.symm)
  unfold due crossed chainLinks
  rw [hend]
  congr 1
  omega

/-- A call that receives no DATA sends DATA on its first link only. -/
theorem cursor_of_not_data {s : ProtocolState} {clock : Clock} {input : Input}
    (hinput : ∀ d sender, input ≠ .packet (.data d) sender) {d : Data}
    (hd : d ∈ dataOf ((s.call clock input).2.outbound.map OutboundPacket.packet)) :
    d.routeCursor = 1 := by
  obtain ⟨o, ho, hpacket⟩ := List.mem_map.mp (mem_dataOf.mp hd)
  rcases (emits_of_mem ho).of_data hpacket with ⟨_, _, _, -, -, horigin⟩ |
    ⟨_, _, _, -, -, -, -, horigin⟩ | ⟨d₀, sender, heq, -⟩
  · obtain ⟨d', hd', -⟩ := horigin
    obtain rfl := Packet.data.inj (hpacket.symm.trans hd')
    rfl
  · obtain ⟨d', hd', -⟩ := horigin
    obtain rfl := Packet.data.inj (hpacket.symm.trans hd')
    rfl
  · exact absurd heq (hinput d₀ sender)

theorem call_charges (hU : D.Uniform mode) (hF : F.restarts = false) (h : Reachable D F net)
    {n : NodeId} {clock : Clock} {input : Input} {origin : Nat} {rest : List InFlight}
    (hn : D.Runs n) (hserved : Served D net n input origin rest) :
    Charges n input ((net.node n).call clock input) := by
  by_cases hinput : ∃ d sender, input = .packet (.data d) sender
  · obtain ⟨d, sender, rfl⟩ := hinput
    have hmem := hserved.inFlight
    obtain ⟨hpath, -⟩ := packetData hU hF h hmem d rfl
    obtain ⟨hme, hdone⟩ := dataOnPath_served hU hF h hn hmem hpath clock
    have hid : (net.node n).config.nodeId = n := nodeId_eq (node_config h n)
    show Charges n _ ((net.node n).handleData clock sender d)
    generalize (net.node n).handleData clock sender d = r at hdone ⊢
    cases hdone with
    | delivered hlast hdst =>
      rw [hid] at hlast hdst
      have hpos : 0 < d.routeCursor := by
        obtain ⟨i, -, -, hcursor, -⟩ := hpath.hop
        omega
      have harrived : (Input.packet (.data d) sender).arrived n = [d] := by
        show List.filter _ [d] = [d]
        simp [hdst]
      refine ⟨fun w _ => ?_, ?_⟩
      · rw [harrived]
        show 0 + (crossed w d + 0) = due w d + 0 + 0
        rw [due_of_last hpath.nodup hme hlast hpos w]
        omega
      · rw [harrived]
        rfl
    | forwarded next hlast hnext =>
      have hdst : d.dstNodeId ≠ n := by
        intro heq
        rw [hid] at hlast
        exact hlast (hpath.walk.last.trans (congrArg some heq))
      have harrived : (Input.packet (.data d) sender).arrived n = [] := by
        show List.filter _ [d] = []
        simp [hdst]
      refine ⟨fun w hw => ?_, by rw [harrived]; rfl⟩
      rw [harrived]
      -- The packet that is sent on has crossed one link more.
      show w { d with routeCursor := d.routeCursor + 1 } + 0 + (crossed w d + 0) =
        0 + (w { d with routeCursor := d.routeCursor + 1 } * (d.routeCursor + 1) + 0)
      unfold crossed
      rw [hw, Nat.mul_succ]
      omega
  · have hno : ∀ d sender, input ≠ .packet (.data d) sender := fun d sender heq =>
      hinput ⟨d, sender, heq⟩
    have hdata : input.data = [] := by
      cases input with
      | packet p sender =>
        cases p with
        | data d => exact absurd rfl (hno d sender)
        | _ => rfl
      | _ => rfl
    have harrived : input.arrived n = [] := by
      unfold Input.arrived
      rw [hdata]
      rfl
    refine ⟨fun w _ => ?_, ?_⟩
    · have hfirst : ∀ d ∈ dataOf (((net.node n).call clock input).2.outbound.map
          OutboundPacket.packet), w d = crossed w d := by
        intro d hd
        unfold crossed
        rw [cursor_of_not_data hno hd, Nat.mul_one]
      rw [hdata, harrived, charge_congr hfirst]
      exact Nat.add_comm _ _
    · rw [harrived]
      refine deliveredBy_eq_zero fun e he => ?_
      cases announces_of_mem he with
      | dataDelivered d sender => exact absurd rfl (hno d sender)
      | _ => rfl

/-! ## A run -/

/-- The packet that is served was travelling with the rest. -/
theorem Served.travelling_perm {n : NodeId} {input : Input} {origin : Nat}
    {rest : List InFlight} (hserved : Served D net n input origin rest) :
    net.travelling.Perm (input.data ++ dataOf (rest.map InFlight.packet)) := by
  cases hserved with
  | act input hlocal =>
    have hnone : input.data = [] := by
      cases input with
      | packet => cases hlocal
      | _ => rfl
    rw [hnone]
    exact .refl _
  | deliver p _ hp =>
    have hperm : net.travelling.Perm (dataOf ([p.packet] ++ rest.map InFlight.packet)) :=
      (hp.map InFlight.packet).filterMap _
    rwa [dataOf_append] at hperm

theorem travelling_call {n : NodeId} {clock : Clock} {input : Input} {origin : Nat}
    {rest : List InFlight} :
    ({ net with inFlight := rest }.call n clock input origin).travelling =
      dataOf (rest.map InFlight.packet) ++
        dataOf (((net.node n).call clock input).2.outbound.map OutboundPacket.packet) := by
  unfold travelling Network.call
  rw [List.map_append, dataOf_append]
  simp [sent, Function.comp_def]

/-- What is charged so far is charged to the packets delivered and to those in flight. -/
theorem charged (hU : D.Uniform mode) (hloss : F.loss = false) (hdup : F.duplication = false)
    (hF : F.restarts = false) (h : Reachable D F net) (hw : CursorFree w) :
    charge w net.transmitted =
      charge (due w) net.arrived + charge (crossed w) net.travelling := by
  refine reachable_induction
    (fun net => charge w net.transmitted =
      charge (due w) net.arrived + charge (crossed w) net.travelling) rfl ?_ h
  intro net net' hreach ih hs
  cases hs with
  | @call n clock input origin rest hn hserved =>
    have hcharges : Charges n input ((net.node n).call clock input) :=
      call_charges hU hF hreach hn hserved
    have hlinks := hcharges.links w hw
    have htravelling := charge_perm (crossed w) hserved.travelling_perm
    rw [travelling_call]
    show charge w (dataOf (((net.node n).call clock input).2.outbound.map OutboundPacket.packet) ++
        net.transmitted) =
      charge (due w) (input.arrived n ++ net.arrived) + _
    simp only [charge_append] at htravelling ⊢
    omega
  | lose hF => simp [hloss] at hF
  | duplicate hF => simp [hdup] at hF
  | restart hF' => simp [hF] at hF'
  | reorder => exact ih

/-- What has arrived has been delivered. -/
theorem delivered_eq (hU : D.Uniform mode) (hF : F.restarts = false) (h : Reachable D F net) :
    net.delivered = (net.arrived.map Data.submission : List Submission) := by
  refine reachable_induction
    (fun net => net.delivered = (net.arrived.map Data.submission : List Submission)) rfl ?_ h
  intro net net' hreach ih hs
  cases hs with
  | @call n clock input origin rest hn hserved =>
    have hcharges : Charges n input ((net.node n).call clock input) :=
      call_charges hU hF hreach hn hserved
    show deliveredBy ((net.node n).call clock input).2.events + net.delivered =
      ((input.arrived n ++ net.arrived).map Data.submission : List Submission)
    rw [hcharges.delivers, ih, List.map_append, Multiset.coe_add]
  | lose => exact ih
  | duplicate => exact ih
  | restart hF' => simp [hF] at hF'
  | reorder => exact ih

/-! ## The benchmark -/

/-- Packets of one size that cross the same number of links cost what the benchmark says. -/
theorem totalTxBytes_of_same {hops payloadSize packets : UInt64}
    (hcharged : charge (benchmarkBytes mode) net.transmitted =
      charge (due (benchmarkBytes mode)) net.arrived +
        charge (crossed (benchmarkBytes mode)) net.travelling) (hnone : net.travelling = [])
    (hsame : ∀ d ∈ net.arrived,
      d.dsrPath.length = hops.toNat ∧ d.payload.length = payloadSize.toNat)
    (hcount : net.arrived.length = packets.toNat) (hfit : LatenciesFit packets) :
    ∃ run, simulateChain hops mode payloadSize packets = .ok run ∧
      run.totalTxBytes.toNat = charge (benchmarkBytes mode) net.transmitted % 2 ^ 64 := by
  obtain ⟨run, hrun⟩ := exists_simulateChain hops payloadSize mode hfit
  refine ⟨run, hrun, ?_⟩
  have hdue : ∀ d ∈ net.arrived, due (benchmarkBytes mode) d =
      (payloadSize.toNat + pathHeaderBytes mode hops.toNat + 32) * chainLinks hops.toNat := by
    intro d hd
    obtain ⟨hlength, hpayload⟩ := hsame d hd
    unfold due benchmarkBytes
    rw [hlength, hpayload]
  rw [hcharged, hnone, charge_const hdue, hcount, toNat_totalTxBytes hrun]
  unfold exactTotalTxBytes
  rw [Nat.mul_comm packets.toNat, Nat.mul_right_comm]
  rfl

/-- The protocol's transmissions are those that the benchmark counts. -/
structure AsSimulated (mode : ProtocolMode) (net : Network) : Prop where
  delivered : net.delivered = (net.arrived.map Data.submission : List Submission)
  charged : ∀ w, CursorFree w → charge w net.transmitted =
    charge (due w) net.arrived + charge (crossed w) net.travelling
  totalTxBytes : net.travelling = [] → ∀ hops payloadSize packets : UInt64,
    (∀ d ∈ net.arrived, d.dsrPath.length = hops.toNat ∧ d.payload.length = payloadSize.toNat) →
    net.arrived.length = packets.toNat → LatenciesFit packets →
    ∃ run, simulateChain hops mode payloadSize packets = .ok run ∧
      run.totalTxBytes.toNat = charge (benchmarkBytes mode) net.transmitted % 2 ^ 64

/-- **The benchmark counts what the protocol sends.** Whatever a DATA packet is charged on
each link, the transmissions so far are charged to the packets delivered, for all links of
their routes, and to those in flight, for the links they have crossed. So once no DATA is in
flight, and if all payloads have the same size and all routes the same length, the bytes
counted for a packet sum up to the total of `simulate_chain`, as a machine word, if it can
hold as many latencies. -/
theorem transmissions_as_simulated (hU : D.Uniform mode) (hloss : F.loss = false)
    (hdup : F.duplication = false) (hF : F.restarts = false) (h : Reachable D F net) :
    AsSimulated mode net where
  delivered := delivered_eq hU hF h
  charged _ hw := charged hU hloss hdup hF h hw
  totalTxBytes hnone _ _ _ hsame hcount hfit :=
    totalTxBytes_of_same (charged hU hloss hdup hF h (benchmarkBytes_cursorFree mode)) hnone hsame
      hcount hfit

/-- On a line of three nodes, node 0 sends one byte to node 2 over two links, and the
benchmark counts the same. -/
theorem transmissions_as_simulated_line :
    ∃ run, simulateChain 3 .dsr 1 1 = .ok run ∧ run.totalTxBytes.toNat =
      charge (benchmarkBytes .dsr)
        (after (.line .dsr) ⟨false, false, false⟩ deliveryOnLine).transmitted % 2 ^ 64 :=
  (transmissions_as_simulated (Deployment.line_uniform .dsr) rfl rfl rfl
    (reachable_after _ _ _)).totalTxBytes (by decide +kernel) 3 1 1 (by decide +kernel)
    (by decide +kernel) (by decide)

end Network

end DlDsr
