import DlDsr.Network.LoopFreedom
import DlDsr.Lib.Frontier
import DlDsr.Node.Requests
import Mathlib.Algebra.Ring.Nat

/-!
# The flood of a request

In a network that loses and duplicates nothing, whose caches retain what they have
seen, a request floods the graph of mutual links (`Flooding.frontier`). Its
destination answers the first copy it sees and no other, and the answer is never
rejected on its way back (`rrep_validated`), so that at any time the one answer is in
flight, or the source has cached the route (`Flooding.arrived`). This file states the
invariant and what one call does to it.
-/

namespace DlDsr

/-- The duplicate cache loses nothing in this call. -/
def Call.Retains (c : Call) : Prop := c.before.Retains c.clock c.input

instance (c : Call) : Decidable c.Retains :=
  inferInstanceAs (Decidable (c.before.Retains c.clock c.input))

/-- The RREPs for this request that the call sends in answer to an RREQ. -/
def Call.repliesTo (key : RequestKey) (c : Call) : Nat :=
  match c.input with
  | .packet (.rreq _) _ => c.actions.outbound.countP fun o => o.packet.isRrepOf key
  | _ => 0

namespace Network

open ProtocolState

variable {D : Deployment} {F : Faults} {net : Network} {mode : ProtocolMode}
  {key : RequestKey} {d : NodeId}

/-- Node `n` has the request in its duplicate cache. -/
def Seen (net : Network) (key : RequestKey) (n : NodeId) : Prop :=
  key ∈ (net.node n).seenRequests.seen

/-- A copy of the request is in flight from `n` to `m`. -/
def CopyInFlight (D : Deployment) (net : Network) (key : RequestKey) (n m : NodeId) : Prop :=
  ∃ p ∈ net.inFlight, ∃ q, p.packet = .rreq q ∧ q.key = key ∧ q.previousHop = n ∧ p.dst = D.addr m

/-- The RREPs for the request that are in flight. -/
def repliesInFlight (net : Network) (key : RequestKey) : Nat :=
  net.inFlight.countP fun p => p.packet.isRrepOf key

/-- The RREPs that `d` has generated for the request. -/
def replies (net : Network) (d : NodeId) (key : RequestKey) : Nat :=
  ((callsOf net.history).map fun c => if c.nodeId = d then c.repliesTo key else 0).sum

/-- The events in which the source of the request has reported a route to `d` for it. -/
def routesCached (net : Network) (key : RequestKey) (d : NodeId) : Nat :=
  ((callsOf net.history).map fun c =>
    if c.nodeId = key.1 then c.actions.events.count (.routeCached key.1 d key.2) else 0).sum

/-- Every node knows the labels that its mutual neighbours have assigned to it. -/
def Learnt (D : Deployment) (net : Network) : Prop :=
  ∀ a b, D.Mutual a b → ∃ l, (net.node b).labels.labelAssignedByNeighbor a = some l

/-- Reordering a node's hash maps changes neither what it has seen nor its numbers. -/
theorem reorder_seen {n : NodeId} {s' : ProtocolState} (key : RequestKey)
    (hr : (net.node n).Reorder s') (m : NodeId) :
    (Function.update net.node n s' m).nextRequestId = (net.node m).nextRequestId ∧
      (key ∈ (Function.update net.node n s' m).seenRequests.seen ↔ net.Seen key m) := by
  refine ⟨update_node_eq nextRequestId hr.nextRequestId m, Iff.of_eq ?_⟩
  exact update_node_eq (fun s => key ∈ s.seenRequests.seen)
    (propext (AList.mem_of_perm hr.seenRequests).symm) m

/-! ## Requests that have not been started -/

theorem isRrepOf_requestKey {packet : Packet} (h : packet.isRrepOf key = true) :
    packet.requestKey = some key := by
  obtain ⟨a, rfl, rfl⟩ := Packet.isRrepOf_iff.mp h
  rfl

/-- Packets of other requests are no RREPs of this one. -/
theorem countP_isRrepOf {outbound : List OutboundPacket}
    (h : ∀ o ∈ outbound, o.packet.requestKey ≠ some key) :
    outbound.countP (fun o => o.packet.isRrepOf key) = 0 :=
  List.countP_eq_zero.mpr fun o ho hrrep => h o ho (isRrepOf_requestKey hrrep)

theorem repliesTo_eq_zero {c : Call}
    (h : ∀ o ∈ c.actions.outbound, o.packet.requestKey ≠ some key) : c.repliesTo key = 0 := by
  unfold Call.repliesTo
  split
  · exact countP_isRrepOf h
  · rfl

/-- The request has left no trace. -/
structure Untouched (net : Network) (key : RequestKey) (d : NodeId) : Prop where
  unseen : ∀ n, ¬ net.Seen key n
  packets : ∀ p ∈ net.inFlight, p.packet.requestKey ≠ some key
  replies : net.replies d key = 0
  routesCached : net.routesCached key d = 0

theorem Served.requestKey_ne {n : NodeId} {input : Input} {origin : Nat} {rest : List InFlight}
    (h : Served D net n input origin rest)
    (hpackets : ∀ p ∈ net.inFlight, p.packet.requestKey ≠ some key) :
    input.requestKey ≠ some key := by
  cases h with
  | act input hlocal =>
    cases input with
    | packet => cases hlocal
    | _ => exact fun h => nomatch h
  | deliver p _ hp => exact hpackets p (hp.mem_iff.mpr List.mem_cons_self)

/-- A request whose number has not been taken has left no trace. -/
theorem untouched_of_le (hF : F.restarts = false) (h : Reachable D F net)
    (hfresh : (net.node key.1).nextRequestId ≤ key.2) (d : NodeId) : Untouched net key d := by
  refine reachable_induction
    (fun net => (net.node key.1).nextRequestId ≤ key.2 → Untouched net key d) ?_ ?_ h hfresh
  · intro _
    exact ⟨fun n hn => AList.notMem_empty key hn, fun p hp => absurd hp List.not_mem_nil, rfl, rfl⟩
  intro net net' hreach ih hs hfresh
  cases hs with
  | @call n clock input origin rest hn hserved =>
    have hid := ProtocolState.nodeId_eq (node_config hreach n)
    -- The number is still free after the call, so the call has not taken it.
    have hstarted : ¬ (net.node n).StartedBy ((net.node n).call clock input).1 key := by
      rintro ⟨hsrc, -, hhigh⟩
      rw [hsrc, hid, call_node_self] at hfresh
      exact absurd (Nat.lt_of_lt_of_le hhigh hfresh) (Nat.lt_irrefl _)
    have hbefore : (net.node key.1).nextRequestId ≤ key.2 := by
      by_cases hsrc : key.1 = n
      · rw [hsrc, call_node_self] at hfresh
        rw [hsrc]
        exact (call_nextRequestId_le _ clock input).trans hfresh
      · rwa [call_node_other hsrc] at hfresh
    have hold := ih hbefore
    obtain ⟨hseen, hout, hevents⟩ :=
      call_unconcerned (hserved.requestKey_ne hold.packets) hstarted
    refine ⟨fun m hm => ?_, fun p hp => ?_, ?_, ?_⟩
    · unfold Seen at hm
      by_cases hmn : m = n
      · rw [hmn, call_node_self] at hm
        exact hold.unseen n (hseen hm)
      · rw [call_node_other hmn] at hm
        exact hold.unseen m hm
    · rcases mem_inFlight_call.mp hp with hp | ⟨o, ho, rfl⟩
      · exact hold.packets p (hserved.mem_of_mem_rest hp)
      · exact hout o ho
    · show (if n = d then Call.repliesTo key _ else 0) + net.replies d key = 0
      rw [hold.replies, repliesTo_eq_zero hout]
      split <;> rfl
    · show (if n = key.1 then List.count _ _ else 0) + net.routesCached key d = 0
      rw [hold.routesCached, List.count_eq_zero.mpr (hevents d)]
      split <;> rfl
  | lose _ hp =>
    have hold := ih hfresh
    exact ⟨hold.unseen, fun q hq => hold.packets q (hp.mem_iff.mpr (List.mem_cons_of_mem _ hq)),
      hold.replies, hold.routesCached⟩
  | duplicate _ hp =>
    have hold := ih hfresh
    refine ⟨hold.unseen, fun q hq => ?_, hold.replies, hold.routesCached⟩
    rcases List.mem_cons.mp hq with rfl | hq
    · exact hold.packets q hp
    · exact hold.packets q hq
  | restart hF' =>
    rw [hF] at hF'
    cases hF'
  | @reorder n s' hr =>
    have hnode := reorder_seen key hr
    have hold := ih ((hnode key.1).1 ▸ hfresh)
    exact ⟨fun m hm => hold.unseen m ((hnode m).2.mp hm), hold.packets, hold.replies,
      hold.routesCached⟩

/-! ## The invariant -/

/-- What holds from the start of a request on. `d` is the node that is looked for. -/
structure Flooding (D : Deployment) (key : RequestKey) (d : NodeId) (net : Network) : Prop where
  used : key.2 < (net.node key.1).nextRequestId
  source : net.Seen key key.1
  frontier : Frontier D.Mutual d (net.Seen key) (net.CopyInFlight D key)
  rreqs : ∀ p ∈ net.inFlight, ∀ q, p.packet = .rreq q → q.key = key →
    q.dstNodeId = d ∧ q.tracePath.Nodup ∧ ∀ m ∈ q.tracePath, D.Runs m ∧ net.Seen key m
  rreps : ∀ p ∈ net.inFlight, ∀ a, p.packet = .rrep a → a.key = key →
    a.dstNodeId = d ∧ a.tracePath.Nodup
  answered : net.Seen key d → net.replies d key = 1
  unanswered : ¬ net.Seen key d → net.replies d key = 0
  arrived : net.replies d key = net.repliesInFlight key + net.routesCached key d

/-! ### The start of a request -/

section Start

variable {n : NodeId} {clock : Clock} {input : Input} {requestId origin : Nat}

/-- Once a request has been started, its source has seen it, and nobody else. -/
theorem seen_start (origin : Nat) (hid : (net.node n).config.nodeId = n)
    (hfresh : Untouched net (n, requestId) d)
    (hdisc : (net.node n).Discovers clock input requestId d)
    (hretains : (net.node n).Retains clock input) (m : NodeId) :
    (net.call n clock input origin).Seen (n, requestId) m ↔ m = n := by
  obtain ⟨⟨-, hlow, hhigh⟩, -⟩ := hdisc
  unfold Seen
  by_cases hm : m = n
  · rw [hm, call_node_self]
    simp only [iff_true]
    exact hretains.started _ ⟨hid.symm, hlow, hhigh⟩
  · rw [call_node_other hm]
    simp only [hm, iff_false]
    exact hfresh.unseen m

/-- The RREQ of a discovery, as its source floods it. -/
def floodedRreq (n d : NodeId) (requestId now : Nat) : Rreq :=
  { srcNodeId := n, dstNodeId := d, requestId := requestId, previousHop := n, hopCount := 0,
    dsrPath := [n], dldsrLabelPath := [], tracePath := [n], createdAtMillis := now }

/-- Once a request has been started, its packets are the copies of the flood, one to
every neighbour. -/
theorem inFlight_start (origin : Nat) (hP : D.Placed) (hcfg : (net.node n).config = D.config n)
    (hfresh : Untouched net (n, requestId) d)
    (hdisc : (net.node n).Discovers clock input requestId d) :
    ∃ now,
      (∀ p ∈ (net.call n clock input origin).inFlight,
        p.packet.requestKey = some (n, requestId) →
          p.packet = .rreq (floodedRreq n d requestId now) ∧
            ∃ v, D.Runs v ∧ v ∈ D.neighborsOf n ∧ p.dst = D.addr v) ∧
      ∀ m ∈ D.neighborsOf n, D.Runs m → ∃ p ∈ (net.call n clock input origin).inFlight,
        p.packet = .rreq (floodedRreq n d requestId now) ∧ p.dst = D.addr m := by
  have hid : (net.node n).config.nodeId = n := ProtocolState.nodeId_eq hcfg
  obtain ⟨-, now, hflood⟩ := hdisc
  rw [hid] at hflood
  refine ⟨now, fun p hp hkey => ?_, fun m hm hruns => ?_⟩
  · rcases mem_inFlight_call.mp hp with hp | ⟨o, ho, rfl⟩
    · exact absurd hkey (hfresh.packets p hp)
    · have hcopy : o ∈ (net.node n).floodRreq now d requestId := by
        rw [← hflood, List.mem_filter]
        simpa [ho] using hkey
      obtain ⟨v, hv, hend, hpacket⟩ := mem_floodRreq.mp hcopy
      rw [logicalNeighbors_eq hcfg] at hv
      rw [hid] at hpacket
      obtain ⟨hvruns, haddr⟩ := (endpoint_eq_some hP hcfg).mp hend
      exact ⟨hpacket, v, hvruns, hv, haddr⟩
  · have hmem : m ∈ (net.node n).logicalNeighbors := by
      rw [logicalNeighbors_eq hcfg]
      exact hm
    have hend := (endpoint_eq_some hP hcfg).mpr ⟨hruns, rfl⟩
    have hcopy : ⟨.rreq (floodedRreq n d requestId now), D.addr m⟩ ∈
        (net.node n).floodRreq now d requestId :=
      mem_floodRreq.mpr ⟨m, hmem, hend, by rw [hid]; rfl⟩
    rw [← hflood] at hcopy
    exact ⟨_, mem_inFlight_call.mpr (.inr ⟨_, (List.mem_filter.mp hcopy).1, rfl⟩), rfl, rfl⟩

/-- The call that starts a request starts its flood. -/
theorem flooding_start (hU : D.Uniform mode) (hF : F.restarts = false) (h : Reachable D F net)
    (hlocal : input.isLocal) (hdisc : (net.node n).Discovers clock input requestId d)
    (hretains : (net.node n).Retains clock input) (hne : d ≠ n) :
    Flooding D (n, requestId) d (net.call n clock input origin) := by
  have hcfg := node_config h n
  have hid : (net.node n).config.nodeId = n := ProtocolState.nodeId_eq hcfg
  have hfresh : Untouched net (n, requestId) d := untouched_of_le hF h hdisc.1.2.1 d
  have hseen := seen_start origin hid hfresh hdisc hretains
  obtain ⟨now, hpackets, hcopies⟩ := inFlight_start origin hU.placed hcfg hfresh hdisc
  have hreplies : (net.call n clock input origin).replies d (n, requestId) = 0 := by
    show (if n = d then _ else 0) + net.replies d (n, requestId) = 0
    rw [if_neg hne.symm, hfresh.replies]
  have hcached : (net.call n clock input origin).routesCached (n, requestId) d = 0 := by
    have hnone : .routeCached n d requestId ∉ ((net.node n).call clock input).2.events := by
      intro hmem
      obtain ⟨p, sender, rfl, -⟩ := (announces_of_mem hmem).rrep_of_routeCached
      cases hlocal
    show (if n = n then List.count _ _ else 0) + net.routesCached (n, requestId) d = 0
    rw [if_pos rfl, hfresh.routesCached, List.count_eq_zero.mpr hnone]
  exact
    { used := by
        rw [call_node_self]
        exact hdisc.1.2.2
      source := (hseen n).mpr rfl
      frontier := by
        refine .start (fun m hm => (hseen m).mp hm) fun m hm => ?_
        obtain ⟨p, hp, hpacket, hdst⟩ := hcopies m hm.1 (hU.listed n m hm.1)
        exact ⟨p, hp, _, hpacket, rfl, rfl, hdst⟩
      rreqs := by
        intro p hp q hq hkey
        obtain ⟨hpacket, v, -, hv, -⟩ := hpackets p hp (by rw [hq]; exact congrArg some hkey)
        obtain rfl := Packet.rreq.inj (hq.symm.trans hpacket)
        refine ⟨rfl, List.nodup_singleton n, fun m hm => ?_⟩
        obtain rfl := List.mem_singleton.mp hm
        exact ⟨D.runs_of_mem_neighborsOf hv, (hseen m).mpr rfl⟩
      rreps := by
        intro p hp a ha hkey
        obtain ⟨hpacket, -⟩ := hpackets p hp (by rw [ha]; exact congrArg some hkey)
        cases ha.symm.trans hpacket
      answered := fun hd => absurd ((hseen d).mp hd) hne
      unanswered := fun _ => hreplies
      arrived := by
        have hnone : (net.call n clock input origin).repliesInFlight (n, requestId) = 0 := by
          refine List.countP_eq_zero.mpr fun p hp hrrep => ?_
          obtain ⟨hpacket, -⟩ := hpackets p hp (isRrepOf_requestKey hrrep)
          rw [hpacket] at hrrep
          cases hrrep
        rw [hreplies, hnone, hcached] }

end Start

/-! ### One call -/

section Call

variable {n : NodeId} {clock : Clock} {input : Input} {origin : Nat} {rest : List InFlight}

/-- What has been seen stays seen. -/
theorem Seen.call (hretains : (net.node n).Retains clock input) {m : NodeId}
    (h : net.Seen key m) : ({ net with inFlight := rest }.call n clock input origin).Seen key m := by
  unfold Seen at h ⊢
  by_cases hm : m = n
  · subst hm
    rw [call_node_self]
    exact hretains.kept key h
  · rw [call_node_other hm]
    exact h

/-- What has not been seen is seen by a call of the node. -/
theorem seen_call_cases {m : NodeId}
    (h : ({ net with inFlight := rest }.call n clock input origin).Seen key m) :
    net.Seen key m ∨ (m = n ∧ key ∈ ((net.node n).call clock input).1.seenRequests.seen) := by
  unfold Seen at h
  by_cases hm : m = n
  · subst hm
    rw [call_node_self] at h
    exact .inr ⟨rfl, h⟩
  · rw [call_node_other hm] at h
    exact .inl h

/-- A copy stays in flight unless it is served. -/
theorem CopyInFlight.call {a b : NodeId} (h : net.CopyInFlight D key a b) (hP : D.Placed)
    (hn : D.Runs n) (hb : D.Runs b) (hserved : Served D net n input origin rest) :
    ({ net with inFlight := rest }.call n clock input origin).CopyInFlight D key a b ∨
      ∃ q sender, input = .packet (.rreq q) sender ∧ q.key = key ∧ q.previousHop = a ∧ b = n := by
  obtain ⟨p, hp, q, hq, hkey, hprev, hdst⟩ := h
  have hstays : p ∈ rest →
      ({ net with inFlight := rest }.call n clock input origin).CopyInFlight D key a b :=
    fun hp => ⟨p, mem_inFlight_call.mpr (.inl hp), q, hq, hkey, hprev, hdst⟩
  cases hserved with
  | act => exact .inl (hstays hp)
  | deliver p₀ _ hperm hdst₀ =>
    rcases List.mem_cons.mp (hperm.mem_iff.mp hp) with rfl | hp
    · refine .inr ⟨q, p.sender, by rw [hq], hkey, hprev, ?_⟩
      exact hP.addr_injective hb hn (hdst.symm.trans hdst₀)
    · exact .inl (hstays hp)

/-- Serving a packet takes it out of flight. -/
theorem Served.repliesInFlight (h : Served D net n input origin rest) :
    net.repliesInFlight key = (rest.countP fun p => p.packet.isRrepOf key) +
      if input.isRrepOf key then 1 else 0 := by
  unfold Network.repliesInFlight
  cases h with
  | act input hlocal =>
    have hnot : input.isRrepOf key = false := by
      cases input with
      | packet => cases hlocal
      | _ => rfl
    rw [hnot]
    rfl
  | deliver p _ hp => rw [hp.countP_eq, List.countP_cons]; rfl

theorem repliesInFlight_call :
    ({ net with inFlight := rest }.call n clock input origin).repliesInFlight key =
      (rest.countP fun p => p.packet.isRrepOf key) +
        ((net.node n).call clock input).2.outbound.countP fun o => o.packet.isRrepOf key := by
  unfold Network.repliesInFlight Network.call sent
  rw [List.countP_append, List.countP_map]
  rfl

/-- What has to be checked of a call for the invariant to go on. -/
theorem Flooding.call (hflood : Flooding D key d net) (hserved : Served D net n input origin rest)
    (hretains : (net.node n).Retains clock input) (replied cached : Nat)
    (hfrontier : Frontier D.Mutual d
      (({ net with inFlight := rest }.call n clock input origin).Seen key)
      (({ net with inFlight := rest }.call n clock input origin).CopyInFlight D key))
    (hrreqs : ∀ o ∈ ((net.node n).call clock input).2.outbound, ∀ q, o.packet = .rreq q →
      q.key = key → q.dstNodeId = d ∧ q.tracePath.Nodup ∧ ∀ m ∈ q.tracePath, D.Runs m ∧
        ({ net with inFlight := rest }.call n clock input origin).Seen key m)
    (hrreps : ∀ o ∈ ((net.node n).call clock input).2.outbound, ∀ a, o.packet = .rrep a →
      a.key = key → a.dstNodeId = d ∧ a.tracePath.Nodup)
    (hreplied : (if n = d then Call.repliesTo key ⟨n, clock, input, net.node n,
        ((net.node n).call clock input).1, ((net.node n).call clock input).2, origin⟩ else 0) =
      replied)
    (hcached : (if n = key.1 then ((net.node n).call clock input).2.events.count
        (.routeCached key.1 d key.2) else 0) = cached)
    (hfirst : replied = 1 ∧ ¬ net.Seen key d ∧
        ({ net with inFlight := rest }.call n clock input origin).Seen key d ∨
      replied = 0 ∧ (({ net with inFlight := rest }.call n clock input origin).Seen key d →
        net.Seen key d))
    (hbalance : (replied + if input.isRrepOf key then 1 else 0) =
      (((net.node n).call clock input).2.outbound.countP fun o => o.packet.isRrepOf key) + cached) :
    Flooding D key d ({ net with inFlight := rest }.call n clock input origin) := by
  have hreplies : ({ net with inFlight := rest }.call n clock input origin).replies d key =
      replied + net.replies d key := by
    rw [← hreplied]
    rfl
  have hroutes : ({ net with inFlight := rest }.call n clock input origin).routesCached key d =
      cached + net.routesCached key d := by
    rw [← hcached]
    rfl
  exact
    { used := by
        by_cases hsrc : key.1 = n
        · have hused := hflood.used
          rw [hsrc] at hused ⊢
          rw [call_node_self]
          exact Nat.lt_of_lt_of_le hused (call_nextRequestId_le _ clock input)
        · rw [call_node_other hsrc]
          exact hflood.used
      source := hflood.source.call hretains
      frontier := hfrontier
      rreqs := by
        intro p hp q hq hkey
        rcases mem_inFlight_call.mp hp with hp | ⟨o, ho, rfl⟩
        · obtain ⟨hdst, hnodup, htrace⟩ :=
            hflood.rreqs p (hserved.mem_of_mem_rest hp) q hq hkey
          exact ⟨hdst, hnodup, fun m hm => ⟨(htrace m hm).1, (htrace m hm).2.call hretains⟩⟩
        · exact hrreqs o ho q hq hkey
      rreps := by
        intro p hp a ha hkey
        rcases mem_inFlight_call.mp hp with hp | ⟨o, ho, rfl⟩
        · exact hflood.rreps p (hserved.mem_of_mem_rest hp) a ha hkey
        · exact hrreps o ho a ha hkey
      answered := by
        intro hd
        rw [hreplies]
        rcases hfirst with ⟨hone, hbefore, -⟩ | ⟨hzero, hbefore⟩
        · rw [hone, hflood.unanswered hbefore]
        · rw [hzero, hflood.answered (hbefore hd)]
      unanswered := by
        intro hd
        rw [hreplies]
        rcases hfirst with ⟨-, -, hafter⟩ | ⟨hzero, -⟩
        · exact absurd hafter hd
        · rw [hzero, hflood.unanswered fun hbefore => hd (hbefore.call hretains)]
      arrived := by
        have harrived := hflood.arrived
        rw [hserved.repliesInFlight] at harrived
        rw [hreplies, repliesInFlight_call, hroutes]
        omega }

/-- A call that neither sends nor reports anything of the request, and sees it nowhere
anew. -/
theorem Flooding.call_silent (hflood : Flooding D key d net)
    (hserved : Served D net n input origin rest) (hretains : (net.node n).Retains clock input)
    (hfrontier : Frontier D.Mutual d
      (({ net with inFlight := rest }.call n clock input origin).Seen key)
      (({ net with inFlight := rest }.call n clock input origin).CopyInFlight D key))
    (hout : ∀ o ∈ ((net.node n).call clock input).2.outbound, o.packet.requestKey ≠ some key)
    (hevents : .routeCached key.1 d key.2 ∉ ((net.node n).call clock input).2.events)
    (hinput : input.isRrepOf key = false)
    (hback : ∀ m, ({ net with inFlight := rest }.call n clock input origin).Seen key m →
      net.Seen key m) :
    Flooding D key d ({ net with inFlight := rest }.call n clock input origin) := by
  refine hflood.call hserved hretains 0 0 hfrontier ?_ ?_ ?_ ?_ (.inr ⟨rfl, hback d⟩) ?_
  · intro o ho q hq hkey
    exact absurd (by rw [hq]; exact congrArg some hkey) (hout o ho)
  · intro o ho a ha hkey
    exact absurd (by rw [ha]; exact congrArg some hkey) (hout o ho)
  · rw [repliesTo_eq_zero hout, ite_self]
  · rw [List.count_eq_zero.mpr hevents, ite_self]
  · rw [hinput, countP_isRrepOf hout]
    rfl

/-- A call that has to do with other requests. -/
theorem Flooding.call_unconcerned (hflood : Flooding D key d net) (hU : D.Uniform mode)
    (h : Reachable D F net) (hn : D.Runs n) (hserved : Served D net n input origin rest)
    (hretains : (net.node n).Retains clock input) (hinput : input.requestKey ≠ some key) :
    Flooding D key d ({ net with inFlight := rest }.call n clock input origin) := by
  have hid := ProtocolState.nodeId_eq (node_config h n)
  have hstarted : ¬ (net.node n).StartedBy ((net.node n).call clock input).1 key := by
    rintro ⟨hsrc, hlow, -⟩
    have hused := hflood.used
    rw [hsrc, hid] at hused
    omega
  obtain ⟨hseen, hout, hevents⟩ := ProtocolState.call_unconcerned hinput hstarted
  have hback : ∀ m, ({ net with inFlight := rest }.call n clock input origin).Seen key m →
      net.Seen key m := by
    intro m hm
    rcases seen_call_cases hm with hm | ⟨rfl, hm⟩
    · exact hm
    · exact hseen hm
  have hnot : input.isRrepOf key = false := by
    cases input with
    | packet packet sender =>
      exact Bool.eq_false_iff.mpr fun hrrep => hinput (isRrepOf_requestKey hrrep)
    | _ => rfl
  have hfrontier : Frontier D.Mutual d
      (({ net with inFlight := rest }.call n clock input origin).Seen key)
      (({ net with inFlight := rest }.call n clock input origin).CopyInFlight D key) := by
    refine hflood.frontier.mono (fun m => ⟨hback m, Seen.call hretains⟩) fun a b hR hcopy => ?_
    rcases hcopy.call hU.placed hn (hU.listed a b hR.1) hserved with hcopy | ⟨q, _, rfl, hkey, -⟩
    · exact hcopy
    · exact absurd (congrArg some hkey) hinput
  exact hflood.call_silent hserved hretains hfrontier hout (hevents d) hnot hback

/-! ### RREQs of the request -/

/-- An RREQ that comes over a mutual link is admitted, as long as its trace visits no
node twice. -/
theorem admits_of_mutual {s : ProtocolState} {q : Rreq} (hwalk : RreqWalk D (D.addr n) q)
    (hhops : D.topology.nodes.length ≤ (D.config n).maxRreqHops.toNat)
    (hcfg : s.config = D.config n) (hnodup : q.tracePath.Nodup)
    (hruns : ∀ m ∈ q.tracePath, D.Runs m) (hmutual : D.Mutual q.previousHop n) : s.Admits q := by
  refine ⟨?_, UInt8.lt_iff_toNat_lt.mpr ?_⟩
  · rw [logicalNeighbors_eq hcfg]
    exact hmutual.2
  · -- A trace without repetitions is no longer than the list of nodes.
    have hsubset : q.tracePath ⊆ D.topology.nodes.map TopologyNode.nodeId := by
      intro m hm
      obtain ⟨tm, hmem, rfl⟩ := hruns m hm
      exact List.mem_map_of_mem hmem
    have hlength := (List.subperm_of_subset hnodup hsubset).length_le
    rw [List.length_map, hwalk.hops] at hlength
    rw [hcfg]
    omega

/-- Where labels are needed, they are known. -/
theorem extendRreq_of_learnt {s : ProtocolState} {q : Rreq} (hmode : s.config.protocolMode = mode)
    (hlearnt : mode = .dlDsr → ∃ l, s.labels.labelAssignedByNeighbor q.previousHop = some l) :
    ∃ e, s.extendRreq q = some e := by
  unfold extendRreq
  rw [hmode]
  cases mode with
  | dsr => exact ⟨_, rfl⟩
  | dlDsr =>
    obtain ⟨l, hl⟩ := hlearnt rfl
    exact ⟨_, by rw [hl]; rfl⟩

/-- The destination answers to the node it was reached from. -/
theorem answers_eq {s : ProtocolState} {q e : Rreq} (hP : D.Placed) (hcfg : s.config = D.config n)
    (hwalk : RreqWalk D (D.addr n) q) (hprev : D.Runs q.previousHop)
    (htrace : e.tracePath = q.tracePath ++ [n]) (hfresh : n ∉ q.tracePath) :
    s.answers e = [⟨.rrep (generatedRrep e), D.addr q.previousHop⟩] := by
  have hpos := hwalk.walk.length_pos
  have hlast : q.tracePath[q.tracePath.length - 1]? = some q.previousHop :=
    hwalk.walk.getElem?_last
  have hbefore : previousInTrace e.tracePath s.config.nodeId = some q.previousHop := by
    rw [htrace, ProtocolState.nodeId_eq hcfg]
    refine previousInTrace_eq_some.mpr ⟨q.tracePath.length - 1, ?_, ?_⟩
    · rw [Nat.sub_add_cancel hpos]
      exact .append_singleton hfresh
    · rw [List.getElem?_append_left (by omega)]
      exact hlast
  unfold answers
  rw [hbefore]
  show ((s.endpoint q.previousHop).toList).map _ = _
  rw [(endpoint_eq_some hP hcfg).mpr ⟨hprev, rfl⟩]
  rfl

section Rreq

variable {q : Rreq} {sender : SocketAddr}

/-- A node that admits a copy of the request has seen it from then on. -/
theorem seen_call_rreq (hkey : q.key = key)
    (hretains : (net.node n).Retains clock (.packet (.rreq q) sender))
    (ha : (net.node n).Admits q) :
    ({ net with inFlight := rest }.call n clock (.packet (.rreq q) sender) origin).Seen key n := by
  unfold Seen
  rw [call_node_self, ← hkey]
  exact hretains.handled q sender rfl ha

/-- No other node sees the request for the first time. -/
theorem seen_call_rreq_cases {m : NodeId}
    (hm : ({ net with inFlight := rest }.call n clock
      (.packet (.rreq q) sender) origin).Seen key m) :
    net.Seen key m ∨ (m = n ∧ (net.node n).Admits q) := by
  rcases seen_call_cases hm with hm | ⟨rfl, hm⟩
  · exact .inl hm
  · rcases call_seen hm with hold | ⟨q', sender', heq, ha, -⟩ | hstarted
    · exact .inl hold
    · cases heq
      exact .inr ⟨rfl, ha⟩
    · rcases hstarted.input with ⟨_, heq⟩ | ⟨_, heq⟩ <;> cases heq

/-- No other copy of the request is served. -/
theorem CopyInFlight.call_rreq {a b : NodeId} (h : net.CopyInFlight D key a b)
    (hU : D.Uniform mode) (hn : D.Runs n) (hR : D.Mutual a b)
    (hserved : Served D net n (.packet (.rreq q) sender) origin rest) :
    ({ net with inFlight := rest }.call n clock
        (.packet (.rreq q) sender) origin).CopyInFlight D key a b ∨
      (a = q.previousHop ∧ b = n) := by
  rcases h.call hU.placed hn (hU.listed a b hR.1) hserved with hcopy | ⟨q', _, heq, -, ha, hb⟩
  · exact .inl hcopy
  · cases heq
    exact .inr ⟨ha.symm, hb⟩

/-- A copy that is admitted takes the flood to its receiver. -/
theorem Flooding.frontier_rreq (hflood : Flooding D key d net) (hU : D.Uniform mode)
    (hn : D.Runs n) (hkey : q.key = key)
    (hserved : Served D net n (.packet (.rreq q) sender) origin rest)
    (hretains : (net.node n).Retains clock (.packet (.rreq q) sender))
    (ha : (net.node n).Admits q)
    (hforward : net.Seen key n ∨ n = d ∨ ∀ m, D.Mutual n m →
      ({ net with inFlight := rest }.call n clock (.packet (.rreq q) sender) origin).Seen key m ∨
      ({ net with inFlight := rest }.call n clock
        (.packet (.rreq q) sender) origin).CopyInFlight D key n m) :
    Frontier D.Mutual d
      (({ net with inFlight := rest }.call n clock (.packet (.rreq q) sender) origin).Seen key)
      (({ net with inFlight := rest }.call n clock
        (.packet (.rreq q) sender) origin).CopyInFlight D key) :=
  hflood.frontier.arrive (seen_call_rreq hkey hretains ha) (fun _ => Seen.call hretains)
    (fun _ hm => (seen_call_rreq_cases hm).imp_right And.left)
    (fun _ _ hR hcopy => (hcopy.call_rreq hU hn hR hserved).imp_right And.right) hforward

theorem count_routeCached_rreq :
    (if n = key.1 then ((net.node n).call clock
      (.packet (.rreq q) sender)).2.events.count (.routeCached key.1 d key.2) else 0) = 0 := by
  have hevents : ((net.node n).call clock (.packet (.rreq q) sender)).2.events = [] :=
    handleRreq_events (net.node n) clock q
  rw [hevents, List.count_nil, ite_self]

/-- A copy that makes its receiver send nothing: it came over a link that is not
mutual, or the receiver has seen the request before. -/
theorem Flooding.call_rreq_silent (hflood : Flooding D key d net)
    (hserved : Served D net n (.packet (.rreq q) sender) origin rest)
    (hretains : (net.node n).Retains clock (.packet (.rreq q) sender))
    (hfrontier : Frontier D.Mutual d
      (({ net with inFlight := rest }.call n clock (.packet (.rreq q) sender) origin).Seen key)
      (({ net with inFlight := rest }.call n clock
        (.packet (.rreq q) sender) origin).CopyInFlight D key))
    (hout : ((net.node n).handleRreq clock q).2.outbound = [])
    (hold : (net.node n).Admits q → net.Seen key n) :
    Flooding D key d
      ({ net with inFlight := rest }.call n clock (.packet (.rreq q) sender) origin) := by
  have hnone : ((net.node n).call clock (.packet (.rreq q) sender)).2.outbound = [] := hout
  have hevents : ((net.node n).call clock (.packet (.rreq q) sender)).2.events = [] :=
    handleRreq_events (net.node n) clock q
  refine hflood.call_silent hserved hretains hfrontier ?_ ?_ rfl fun m hm => ?_
  · simp [hnone]
  · simp [hevents]
  · rcases seen_call_rreq_cases hm with hm | ⟨rfl, ha⟩
    · exact hm
    · exact hold ha

/-- The destination sees the request for the first time, and answers it. -/
theorem Flooding.call_rreq_answered (hflood : Flooding D key d net) (hU : D.Uniform mode)
    (h : Reachable D F net) (hn : D.Runs n) (hkey : q.key = key)
    (hserved : Served D net n (.packet (.rreq q) sender) origin rest)
    (hretains : (net.node n).Retains clock (.packet (.rreq q) sender)) {e : Rreq}
    (ha : (net.node n).Admits q) (hnew : ¬ net.Seen key n) (hnd : n = d)
    (hext : e = { q with
      dsrPath := q.tracePath ++ [n]
      dldsrLabelPath := e.dldsrLabelPath
      tracePath := q.tracePath ++ [n] })
    (hnodup : (q.tracePath ++ [n]).Nodup)
    (hout : ((net.node n).handleRreq clock q).2.outbound = (net.node n).answers e) :
    Flooding D key d
      ({ net with inFlight := rest }.call n clock (.packet (.rreq q) sender) origin) := by
  subst hnd
  have hcfg := node_config h n
  have hwalk : RreqWalk D (D.addr n) q := packetWalk hU.placed hU.noSelf h hserved.inFlight
  obtain ⟨hdst, -, htrace⟩ := hflood.rreqs _ hserved.inFlight q rfl hkey
  have hprev : D.Runs q.previousHop := (htrace _ (List.mem_of_getLast? hwalk.walk.last)).1
  have hfresh : n ∉ q.tracePath := fun hmem => hnew (htrace n hmem).2
  have hanswer : ((net.node n).call clock (.packet (.rreq q) sender)).2.outbound =
      [⟨.rrep (generatedRrep e), D.addr q.previousHop⟩] :=
    hout.trans (answers_eq hU.placed hcfg hwalk hprev (by rw [hext]) hfresh)
  have hrrep : (generatedRrep e).key = key := by
    rw [hext]
    exact hkey
  have hone : List.countP (fun o : OutboundPacket => o.packet.isRrepOf key)
      [⟨.rrep (generatedRrep e), D.addr q.previousHop⟩] = 1 := by
    simp [Packet.isRrepOf, hrrep]
  refine hflood.call hserved hretains 1 0
    (hflood.frontier_rreq hU hn hkey hserved hretains ha (.inr (.inl rfl))) ?_ ?_ ?_
    count_routeCached_rreq (.inl ⟨rfl, hnew, seen_call_rreq hkey hretains ha⟩) ?_
  · rw [hanswer]
    intro o ho q' hq'
    rw [List.mem_singleton.mp ho] at hq'
    cases hq'
  · rw [hanswer]
    intro o ho a heq _
    rw [List.mem_singleton.mp ho] at heq
    obtain rfl := Packet.rrep.inj heq
    rw [hext]
    exact ⟨hdst, hnodup⟩
  · show (if n = n then List.countP _ _ else 0) = 1
    rw [if_pos rfl, hanswer, hone]
  · rw [hanswer, hone]
    rfl

/-- Another node sees the request for the first time, and passes it on. -/
theorem Flooding.call_rreq_forwarded (hflood : Flooding D key d net) (hU : D.Uniform mode)
    (h : Reachable D F net) (hn : D.Runs n) (hkey : q.key = key)
    (hserved : Served D net n (.packet (.rreq q) sender) origin rest)
    (hretains : (net.node n).Retains clock (.packet (.rreq q) sender)) {e : Rreq}
    (ha : (net.node n).Admits q) (hnd : n ≠ d)
    (hext : e = { q with
      dsrPath := q.tracePath ++ [n]
      dldsrLabelPath := e.dldsrLabelPath
      tracePath := q.tracePath ++ [n] })
    (hnodup : (q.tracePath ++ [n]).Nodup)
    (hout : ((net.node n).handleRreq clock q).2.outbound = (net.node n).rreqCopies e) :
    Flooding D key d
      ({ net with inFlight := rest }.call n clock (.packet (.rreq q) sender) origin) := by
  have hcfg := node_config h n
  have hid : (net.node n).config.nodeId = n := ProtocolState.nodeId_eq hcfg
  have hwalk : RreqWalk D (D.addr n) q := packetWalk hU.placed hU.noSelf h hserved.inFlight
  obtain ⟨hdst, -, htrace⟩ := hflood.rreqs _ hserved.inFlight q rfl hkey
  have hcopies : ((net.node n).call clock (.packet (.rreq q) sender)).2.outbound =
      (net.node n).rreqCopies e := hout
  have hnone : ((net.node n).call clock (.packet (.rreq q) sender)).2.outbound.countP
      (fun o => o.packet.isRrepOf key) = 0 := by
    rw [hcopies]
    refine List.countP_eq_zero.mpr fun o ho hrrep => ?_
    obtain ⟨v, -, -, -, hpacket⟩ := mem_rreqCopies.mp ho
    rw [hpacket] at hrrep
    cases hrrep
  have hback : ({ net with inFlight := rest }.call n clock
      (.packet (.rreq q) sender) origin).Seen key d → net.Seen key d :=
    fun hd => (seen_call_rreq_cases hd).resolve_right fun hd => hnd hd.1.symm
  have hforward : ∀ m, D.Mutual n m →
      ({ net with inFlight := rest }.call n clock (.packet (.rreq q) sender) origin).Seen key m ∨
      ({ net with inFlight := rest }.call n clock
        (.packet (.rreq q) sender) origin).CopyInFlight D key n m := by
    intro m hR
    by_cases hm : m = q.previousHop
    · rw [hm]
      exact .inl ((htrace _ (List.mem_of_getLast? hwalk.walk.last)).2.call hretains)
    · -- Every neighbour but the previous hop is sent a copy.
      have hmem : m ∈ (net.node n).logicalNeighbors := by
        rw [logicalNeighbors_eq hcfg]
        exact hR.1
      have hend := (endpoint_eq_some hU.placed hcfg).mpr ⟨hU.listed n m hR.1, rfl⟩
      have hcopy : (⟨_, D.addr m⟩ : OutboundPacket) ∈ (net.node n).rreqCopies e :=
        mem_rreqCopies.mpr ⟨m, hmem, by rw [hext]; exact hm, hend, rfl⟩
      rw [← hcopies] at hcopy
      refine .inr ⟨_, mem_inFlight_call.mpr (.inr ⟨_, hcopy, rfl⟩), _, rfl, ?_, hid, rfl⟩
      rw [hext]
      exact hkey
  refine hflood.call hserved hretains 0 0
    (hflood.frontier_rreq hU hn hkey hserved hretains ha (.inr (.inr hforward))) ?_ ?_
    (if_neg hnd) count_routeCached_rreq (.inr ⟨rfl, hback⟩) ?_
  · rw [hcopies]
    intro o ho q' hq' _
    obtain ⟨v, -, -, -, hpacket⟩ := mem_rreqCopies.mp ho
    obtain rfl := Packet.rreq.inj (hq'.symm.trans hpacket)
    rw [hext]
    refine ⟨hdst, hnodup, fun m hm => ?_⟩
    rcases List.mem_append.mp hm with hm | hm
    · exact ⟨(htrace m hm).1, (htrace m hm).2.call hretains⟩
    · rw [List.mem_singleton.mp hm]
      exact ⟨hn, seen_call_rreq hkey hretains ha⟩
  · rw [hcopies]
    intro o ho a heq
    obtain ⟨v, -, -, -, hpacket⟩ := mem_rreqCopies.mp ho
    cases heq.symm.trans hpacket
  · rw [hnone]
    rfl

/-- Serving a copy of the request. -/
theorem Flooding.call_rreq (hflood : Flooding D key d net) (hU : D.Uniform mode)
    (hhops : ∀ n, D.Runs n → D.topology.nodes.length ≤ (D.config n).maxRreqHops.toNat)
    (hlearnt : mode = .dlDsr → Learnt D net) (h : Reachable D F net) (hn : D.Runs n)
    (hkey : q.key = key)
    (hserved : Served D net n (.packet (.rreq q) sender) origin rest)
    (hretains : (net.node n).Retains clock (.packet (.rreq q) sender)) :
    Flooding D key d
      ({ net with inFlight := rest }.call n clock (.packet (.rreq q) sender) origin) := by
  have hcfg := node_config h n
  have hid : (net.node n).config.nodeId = n := ProtocolState.nodeId_eq hcfg
  have hwalk : RreqWalk D (D.addr n) q := packetWalk hU.placed hU.noSelf h hserved.inFlight
  obtain ⟨hdst, hnodup, htrace⟩ := hflood.rreqs _ hserved.inFlight q rfl hkey
  have hlabel : (net.node n).Admits q → ∃ e, (net.node n).extendRreq q = some e := by
    intro ha
    have hmode : (net.node n).config.protocolMode = mode := by
      rw [hcfg]
      exact hU.allMode n hn
    exact extendRreq_of_learnt hmode fun hmode =>
      hlearnt hmode _ _ (hwalk.mutual hU.placed hn hcfg ha)
  -- A node that sees the request for the first time is not in its trace.
  have hnodup' : q.key ∉ (net.node n).seenRequests.seen → (q.tracePath ++ [n]).Nodup := by
    intro hnew
    rw [← List.concat_eq_append]
    exact hnodup.concat fun hmem => hnew (hkey ▸ (htrace n hmem).2)
  rcases handleRreq_cases hretains hlabel with
    ⟨hrefused, hout⟩ | ⟨ha, hold, hout⟩ | ⟨ha, hnew, e, he, ⟨hme, hout⟩ | ⟨hme, hout⟩⟩
  · -- The copy did not cross an edge of the graph.
    refine hflood.call_rreq_silent hserved hretains ?_ hout fun ha => absurd ha hrefused
    refine hflood.frontier.mono (fun m => ⟨fun hm => ?_, Seen.call hretains⟩) fun a b hR hcopy => ?_
    · exact (seen_call_rreq_cases hm).resolve_right fun hm => hrefused hm.2
    · rcases hcopy.call_rreq hU hn hR hserved with hcopy | ⟨rfl, rfl⟩
      · exact hcopy
      · exact absurd (admits_of_mutual hwalk (hhops b hn) hcfg hnodup
          (fun m hm => (htrace m hm).1) hR) hrefused
  · have hold : net.Seen key n := hkey ▸ hold
    exact hflood.call_rreq_silent hserved hretains
      (hflood.frontier_rreq hU hn hkey hserved hretains ha (.inl hold)) hout fun _ => hold
  · exact hflood.call_rreq_answered hU h hn hkey hserved hretains ha (hkey ▸ hnew)
      (hid.symm.trans (hme.trans hdst)) (hwalk.extend hU.placed hU.noSelf hn hcfg ha he)
      (hnodup' hnew) hout
  · exact hflood.call_rreq_forwarded hU h hn hkey hserved hretains ha
      (fun heq => hme (hid.trans (heq.trans hdst.symm)))
      (hwalk.extend hU.placed hU.noSelf hn hcfg ha he) (hnodup' hnew) hout

end Rreq

/-! ### RREPs of the request -/

/-- **An RREP is never rejected on its way back**, as long as its trace visits no node
twice: it has come to its source, or goes on to the node before. -/
theorem rrep_validated {s : ProtocolState} {sender : SocketAddr} {a : Rrep} (hP : D.Placed)
    (hn : D.Runs n) (hcfg : s.config = D.config n) (hwalk : RrepWalk D sender (D.addr n) a)
    (hnodup : a.tracePath.Nodup) :
    s.validateRrep sender a.tracePath = .ok () ∧
      (n = a.srcNodeId ∨ n ≠ a.srcNodeId ∧ ∃ prev,
        previousInTrace a.tracePath s.config.nodeId = some prev ∧
          s.endpoint prev = some (D.addr prev)) := by
  obtain ⟨i, x, y, hx, hy, hix, hiy, hdst, hsender, -⟩ := hwalk.retraced
  obtain rfl : n = x := hP.addr_injective hn hx hdst
  have hmutual := hwalk.walk.rel hix hiy
  have hfirst : FirstAt a.tracePath i s.config.nodeId := by
    rw [ProtocolState.nodeId_eq hcfg]
    exact firstAt_of_nodup hnodup hix
  refine ⟨validateRrep_ok_iff.mpr ⟨y, i, ?_, ?_, hfirst, hiy, ?_, fun prev hprev => ?_⟩, ?_⟩
  · rw [hsender]
    exact nodeIdByEndpoint_addr hP hcfg hy
  · rw [logicalNeighbors_eq hcfg]
    exact hmutual.1
  · rw [areAdjacent_iff hcfg, ProtocolState.nodeId_eq hcfg]
    exact hmutual.1
  · rw [areAdjacent_iff hcfg, ProtocolState.nodeId_eq hcfg]
    cases i with
    | zero => cases hprev
    | succ i => exact (hwalk.walk.rel hprev hix).2
  · cases i with
    | zero =>
      left
      exact Option.some.inj (hix.symm.trans hwalk.walk.getElem?_zero)
    | succ i =>
      -- The source stands at the front of the trace, and nowhere else.
      right
      have hlt : i < a.tracePath.length := by
        have := (List.getElem?_eq_some_iff.mp hix).1
        omega
      have hprev : a.tracePath[i]? = some a.tracePath[i] := List.getElem?_eq_getElem hlt
      refine ⟨fun hsrc => ?_, a.tracePath[i], previousInTrace_eq_some.mpr ⟨i, hfirst, hprev⟩, ?_⟩
      · have hzero := firstAt_of_nodup hnodup hwalk.walk.getElem?_zero
        rw [← hsrc] at hzero
        exact absurd (hzero.unique (firstAt_of_nodup hnodup hix)) (by omega)
      · exact (endpoint_eq_some hP hcfg).mpr
          ⟨D.runs_of_mem_neighborsOf (hwalk.walk.rel hprev hix).1, rfl⟩

section Rrep

variable {a : Rrep} {sender : SocketAddr}

/-- An RREP makes no node see a request. -/
theorem seen_call_rrep {m : NodeId}
    (hm : ({ net with inFlight := rest }.call n clock
      (.packet (.rrep a) sender) origin).Seen key m) : net.Seen key m := by
  rcases seen_call_cases hm with hm | ⟨rfl, hm⟩
  · exact hm
  · rcases call_seen hm with hold | ⟨q, _, heq, -⟩ | hstarted
    · exact hold
    · cases heq
    · rcases hstarted.input with ⟨_, heq⟩ | ⟨_, heq⟩ <;> cases heq

/-- An RREP leaves the flood as it is. -/
theorem Flooding.frontier_rrep (hflood : Flooding D key d net) (hU : D.Uniform mode)
    (hn : D.Runs n) (hserved : Served D net n (.packet (.rrep a) sender) origin rest)
    (hretains : (net.node n).Retains clock (.packet (.rrep a) sender)) :
    Frontier D.Mutual d
      (({ net with inFlight := rest }.call n clock (.packet (.rrep a) sender) origin).Seen key)
      (({ net with inFlight := rest }.call n clock
        (.packet (.rrep a) sender) origin).CopyInFlight D key) := by
  refine hflood.frontier.mono (fun m => ⟨seen_call_rrep, Seen.call hretains⟩) fun x y hR hcopy => ?_
  rcases hcopy.call hU.placed hn (hU.listed x y hR.1) hserved with hcopy | ⟨q, _, heq, -⟩
  · exact hcopy
  · cases heq

/-- The RREP is at its source, which caches the route and flushes DATA. -/
theorem Flooding.call_rrep_accepted (hflood : Flooding D key d net) (hU : D.Uniform mode)
    (h : Reachable D F net) (hn : D.Runs n) (hkey : a.key = key)
    (hserved : Served D net n (.packet (.rrep a) sender) origin rest)
    (hretains : (net.node n).Retains clock (.packet (.rrep a) sender))
    (hok : (net.node n).validateRrep sender a.tracePath = .ok ()) (hsrc : n = a.srcNodeId) :
    Flooding D key d
      ({ net with inFlight := rest }.call n clock (.packet (.rrep a) sender) origin) := by
  have hid : (net.node n).config.nodeId = n := ProtocolState.nodeId_eq (node_config h n)
  obtain ⟨hdst, -⟩ := hflood.rreps _ hserved.inFlight a rfl hkey
  have hcall : (net.node n).call clock (.packet (.rrep a) sender) =
      (net.node n).acceptRrep clock a :=
    call_of_accepted hok (hid.trans hsrc)
  have hdata : ∀ o ∈ ((net.node n).call clock (.packet (.rrep a) sender)).2.outbound,
      o.packet.requestKey ≠ some key := by
    rw [hcall]
    intro o ho hrequest
    obtain ⟨payload, -, d', hpacket, -⟩ := acceptRrep_outbound ho
    rw [hpacket] at hrequest
    cases hrequest
  have hevent : ((net.node n).call clock (.packet (.rrep a) sender)).2.events =
      [.routeCached key.1 d key.2] := by
    rw [hcall, ← hkey, ← hdst]
    show [ProtocolEvent.routeCached (net.node n).config.nodeId a.dstNodeId a.requestId] = _
    rw [hid, hsrc]
    rfl
  have hsource : n = key.1 := by
    rw [← hkey]
    exact hsrc
  have hserves : Input.isRrepOf key (.packet (.rrep a) sender) = true := beq_iff_eq.mpr hkey
  refine hflood.call hserved hretains 0 1 (hflood.frontier_rrep hU hn hserved hretains) ?_ ?_
    (ite_self _) ?_ (.inr ⟨rfl, seen_call_rrep⟩) ?_
  · intro o ho q hq hrequest
    exact absurd (by rw [hq]; exact congrArg some hrequest) (hdata o ho)
  · intro o ho a' ha' hrequest
    exact absurd (by rw [ha']; exact congrArg some hrequest) (hdata o ho)
  · rw [if_pos hsource, hevent]
    exact List.count_singleton_self
  · rw [if_pos hserves, countP_isRrepOf hdata]

/-- The RREP goes on to the node before. -/
theorem Flooding.call_rrep_relayed (hflood : Flooding D key d net) (hU : D.Uniform mode)
    (h : Reachable D F net) (hn : D.Runs n) (hkey : a.key = key)
    (hserved : Served D net n (.packet (.rrep a) sender) origin rest)
    (hretains : (net.node n).Retains clock (.packet (.rrep a) sender))
    (hok : (net.node n).validateRrep sender a.tracePath = .ok ()) (hsrc : n ≠ a.srcNodeId)
    {prev : NodeId} (hprev : previousInTrace a.tracePath (net.node n).config.nodeId = some prev)
    (hend : (net.node n).endpoint prev = some (D.addr prev)) :
    Flooding D key d
      ({ net with inFlight := rest }.call n clock (.packet (.rrep a) sender) origin) := by
  have hid : (net.node n).config.nodeId = n := ProtocolState.nodeId_eq (node_config h n)
  have hrrep := hflood.rreps _ hserved.inFlight a rfl hkey
  have hrelay : ((net.node n).call clock (.packet (.rrep a) sender)).2 =
      { outbound := [⟨.rrep a, D.addr prev⟩] } := by
    show ((net.node n).handleRrep clock sender a).2 = _
    unfold handleRrep
    rw [hok]
    dsimp only
    rw [if_neg fun heq => hsrc (hid.symm.trans heq)]
    exact relayRrep_actions hprev hend
  have hone : List.countP (fun o : OutboundPacket => o.packet.isRrepOf key)
      [⟨.rrep a, D.addr prev⟩] = 1 := by
    simp [Packet.isRrepOf, hkey]
  have hserves : Input.isRrepOf key (.packet (.rrep a) sender) = true := beq_iff_eq.mpr hkey
  refine hflood.call hserved hretains 0 0 (hflood.frontier_rrep hU hn hserved hretains) ?_ ?_
    (ite_self _) ?_ (.inr ⟨rfl, seen_call_rrep⟩) ?_
  · rw [hrelay]
    intro o ho q hq
    rw [List.mem_singleton.mp ho] at hq
    cases hq
  · rw [hrelay]
    intro o ho a' ha' _
    rw [List.mem_singleton.mp ho] at ha'
    obtain rfl := Packet.rrep.inj ha'
    exact hrrep
  · rw [hrelay]
    exact ite_self _
  · rw [if_pos hserves, hrelay, hone]

/-- Serving an RREP of the request. -/
theorem Flooding.call_rrep (hflood : Flooding D key d net) (hU : D.Uniform mode)
    (h : Reachable D F net) (hn : D.Runs n) (hkey : a.key = key)
    (hserved : Served D net n (.packet (.rrep a) sender) origin rest)
    (hretains : (net.node n).Retains clock (.packet (.rrep a) sender)) :
    Flooding D key d
      ({ net with inFlight := rest }.call n clock (.packet (.rrep a) sender) origin) := by
  have hwalk : RrepWalk D sender (D.addr n) a := packetWalk hU.placed hU.noSelf h hserved.inFlight
  obtain ⟨-, hnodup⟩ := hflood.rreps _ hserved.inFlight a rfl hkey
  obtain ⟨hok, hsrc | ⟨hsrc, prev, hprev, hend⟩⟩ :=
    rrep_validated hU.placed hn (node_config h n) hwalk hnodup
  · exact hflood.call_rrep_accepted hU h hn hkey hserved hretains hok hsrc
  · exact hflood.call_rrep_relayed hU h hn hkey hserved hretains hok hsrc hprev hend

end Rrep

end Call

end Network

end DlDsr
