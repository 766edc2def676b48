import DlDsr.Network.Flooding
import DlDsr.Node.Retention
import DlDsr.Node.Uptake
import Mathlib.Algebra.BigOperators.Group.Finset.Piecewise
import Mathlib.Algebra.Order.BigOperators.Group.Finset
import Mathlib.Algebra.Ring.Nat

/-!
# How far a request floods

If the duplicate caches retain what they have seen, no node takes a request up twice
(`TakenOnce.call`): its source takes it up by starting it, and passes the duplicate check
for it never, the other nodes pass the duplicate check for it at most once. As only a
node that takes the request up sends RREQs of it, their number is bounded by the
neighbour lists (`flood_bounded`). The transport may lose and duplicate packets.

The destination answers the RREQ that it lets through. It gets no answer to relay,
because an RREP only travels to nodes that are not the last of its trace (`Spread`).
-/

namespace DlDsr

namespace Call

/-- The marks that the call makes in the duplicate cache of its node. -/
def marks (c : Call) : List Mark := c.before.marks c.clock c.input

/-- The clock readings that the call gives to the duplicate cache of its node. -/
def cacheReadings (c : Call) : List Nat := c.before.cacheReadings c.clock c.input

/-- The call lets an RREQ of the request through the duplicate check. -/
def passes (key : RequestKey) (c : Call) : Bool := c.before.passes c.clock key c.input

/-- The call takes the request up. -/
def takes (key : RequestKey) (c : Call) : Bool := c.before.takes c.clock key c.input

/-- The RREQs of the request that the call sends. -/
def rreqsOf (key : RequestKey) (c : Call) : List OutboundPacket :=
  c.actions.outbound.filter fun o => o.packet.isRreqOf key

/-- The RREPs of the request that the call sends. -/
def rrepsOf (key : RequestKey) (c : Call) : List OutboundPacket :=
  c.actions.outbound.filter fun o => o.packet.isRrepOf key

/-- What holds of every call from the start of a request for `d` on. -/
structure Confined (c : Call) (key : RequestKey) (d : NodeId) : Prop where
  source : c.nodeId = key.1 → c.passes key = false
  sought : ∀ o ∈ c.rreqsOf key, ∀ q, o.packet = .rreq q → q.dstNodeId = d
  replies : c.nodeId = d → (c.rrepsOf key).length ≤ if c.passes key then 1 else 0

end Call

namespace Network

open ProtocolState

variable {D : Deployment} {F : Faults} {net net' : Network} {key : RequestKey} {d : NodeId}

/-! ## Caches that retain everything -/

/-- The source and request id pairs that are marked in a run. -/
def requestKeys (net : Network) : Finset RequestKey :=
  ((callsOf net.history).flatMap fun c => c.marks.map Mark.key).toFinset

/-- The clock readings that a node gives to its duplicate cache lie within the time to live
of its entries. -/
def Timely (D : Deployment) (net : Network) : Prop :=
  ∀ c ∈ callsOf net.history, ∀ c' ∈ callsOf net.history, c.nodeId = c'.nodeId →
    ∀ t ∈ c.cacheReadings, ∀ t' ∈ c'.cacheReadings,
      t - t' ≤ (D.config c.nodeId).seenRequestTtlMs

/-- Every duplicate cache has room for all requests. -/
def Roomy (D : Deployment) (net : Network) : Prop :=
  ∀ n, D.Runs n → net.requestKeys.card ≤ (D.config n).seenRequestMaxEntries

instance (D : Deployment) (net : Network) : Decidable (net.Timely D) :=
  inferInstanceAs (Decidable (∀ c ∈ callsOf net.history, ∀ c' ∈ callsOf net.history,
    c.nodeId = c'.nodeId → ∀ t ∈ c.cacheReadings, ∀ t' ∈ c'.cacheReadings,
      t - t' ≤ (D.config c.nodeId).seenRequestTtlMs))

/-- **In a run with close clock readings and few requests, the duplicate caches retain
everything.** -/
theorem retains_of_timely (h : Reachable D F net) (htimely : net.Timely D)
    (hroomy : net.Roomy D) : ∀ c ∈ callsOf net.history, c.Retains := by
  -- The keys and the readings of the whole run bound those of its beginnings.
  let times (n : NodeId) : Set Nat :=
    { t | ∃ c ∈ callsOf net.history, c.nodeId = n ∧ t ∈ c.cacheReadings }
  suffices hinv : (∀ c ∈ callsOf net.history,
      (∀ m ∈ c.marks, m.key ∈ net.requestKeys) ∧ ∀ t ∈ c.cacheReadings, t ∈ times c.nodeId) →
      (∀ n, (net.node n).seenRequests.Within net.requestKeys (times n)) ∧
        ∀ c ∈ callsOf net.history, c.Retains by
    refine (hinv fun c hc => ⟨fun m hm => ?_, fun t ht => ⟨c, hc, rfl, ht⟩⟩).2
    exact List.mem_toFinset.mpr (List.mem_flatMap.mpr ⟨c, hc, List.mem_map_of_mem hm⟩)
  have hwindow : ∀ n, ∀ t ∈ times n, ∀ t' ∈ times n, t - t' ≤ (D.config n).seenRequestTtlMs := by
    rintro n t ⟨c, hc, rfl, ht⟩ t' ⟨c', hc', hid, ht'⟩
    exact htimely c hc c' hc' hid.symm t ht t' ht'
  refine reachable_induction (fun net₁ => (∀ c ∈ callsOf net₁.history,
    (∀ m ∈ c.marks, m.key ∈ net.requestKeys) ∧ ∀ t ∈ c.cacheReadings, t ∈ times c.nodeId) →
    (∀ n, (net₁.node n).seenRequests.Within net.requestKeys (times n)) ∧
      ∀ c ∈ callsOf net₁.history, c.Retains) ?_ ?_ h
  · exact fun _ => ⟨fun _ => .empty, fun c hc => absurd hc List.not_mem_nil⟩
  intro net₁ net₂ hreach ih hs hall
  obtain ⟨hwithin, hretains⟩ := ih fun c hc => hall c (callsOf_mono hs hc)
  have hupdate : ∀ n s', s'.seenRequests.Within net.requestKeys (times n) →
      ∀ m, (Function.update net₁.node n s' m).seenRequests.Within net.requestKeys (times m) :=
    fun n s' hs' => (Function.forall_update_iff net₁.node fun m s =>
      s.seenRequests.Within net.requestKeys (times m)).mpr ⟨hs', fun m _ => hwithin m⟩
  cases hs with
  | @call n clock input origin rest hn hserved =>
    have hcfg := node_config hreach n
    obtain ⟨hkeys, htimes⟩ := hall _ mem_callsOf_call
    have hroom : net.requestKeys.card ≤ (net₁.node n).config.seenRequestMaxEntries := by
      rw [hcfg]
      exact hroomy n hn
    have htime : ∀ t ∈ times n, ∀ t' ∈ times n,
        t - t' ≤ (net₁.node n).config.seenRequestTtlMs := by
      rw [hcfg]
      exact hwindow n
    obtain ⟨hcall, hretained⟩ := (hwithin n).retains hroom htime hkeys htimes
    refine ⟨hupdate n _ hcall, fun c hc => ?_⟩
    rcases List.mem_cons.mp hc with rfl | hold
    · exact hretained
    · exact hretains c hold
  | lose => exact ⟨hwithin, hretains⟩
  | duplicate => exact ⟨hwithin, hretains⟩
  | @restart n => exact ⟨hupdate n _ .empty, hretains⟩
  | @reorder n s' hr => exact ⟨hupdate n s' ((hwithin n).reorder hr.seenRequests), hretains⟩

/-! ## No node takes a request up twice -/

/-- How often a node has let an RREQ of the request through the duplicate check. -/
def passes (net : Network) (key : RequestKey) (n : NodeId) : Nat :=
  (callsOf net.history).countP fun c => c.nodeId == n && c.passes key

/-- How often a node has taken the request up. -/
def takings (net : Network) (key : RequestKey) (n : NodeId) : Nat :=
  (callsOf net.history).countP fun c => c.nodeId == n && c.takes key

/-- A node has taken the request up once if it has seen it, and otherwise never. -/
def TakenOnce (net : Network) (key : RequestKey) : Prop :=
  ∀ n, (net.Seen key n ∧ net.takings key n = 1) ∨ (¬ net.Seen key n ∧ net.takings key n = 0)

section Call

variable {n : NodeId} {clock : Clock} {input : Input} {origin : Nat} {rest : List InFlight}

theorem TakenOnce.call (h : net.TakenOnce key) (hretains : (net.node n).Retains clock input)
    (hnew : (net.node n).takes clock key input = true → ¬ net.Seen key n) :
    ({ net with inFlight := rest }.call n clock input origin).TakenOnce key := by
  intro m
  have hcount : ({ net with inFlight := rest }.call n clock input origin).takings key m =
      net.takings key m + if n == m && (net.node n).takes clock key input then 1 else 0 :=
    List.countP_cons
  rw [hcount]
  by_cases hm : m = n
  · subst hm
    have hseen : ({ net with inFlight := rest }.call m clock input origin).Seen key m ↔
        net.Seen key m ∨ (net.node m).takes clock key input = true := by
      unfold Seen
      rw [call_node_self]
      exact hretains.mem_iff
    rw [hseen]
    rcases h m with ⟨hold, hone⟩ | ⟨hold, hzero⟩
    · have hnot : (net.node m).takes clock key input = false :=
        Bool.eq_false_iff.mpr fun htakes => hnew htakes hold
      simp [hold, hone, hnot]
    · cases htakes : (net.node m).takes clock key input <;> simp [hold, hzero]
  · have hother : ({ net with inFlight := rest }.call n clock input origin).Seen key m ↔
        net.Seen key m := by
      unfold Seen
      rw [call_node_other hm]
    rw [hother]
    simpa [Ne.symm hm] using h m

end Call

/-! ## The packets of a request -/

/-- The RREP travels to a node of its trace that is not the last one. -/
def HeadsBack (D : Deployment) (path : List NodeId) (dst : SocketAddr) : Prop :=
  ∃ i x, path[i]? = some x ∧ i + 1 < path.length ∧ D.Runs x ∧ dst = D.addr x

theorem heads_back {s : ProtocolState} {n prev : NodeId} {path : List NodeId} {dst : SocketAddr}
    (hP : D.Placed) (hcfg : s.config = D.config n)
    (hprev : previousInTrace path s.config.nodeId = some prev)
    (hend : s.endpoint prev = some dst) : HeadsBack D path dst := by
  obtain ⟨hruns, rfl⟩ := (endpoint_eq_some hP hcfg).mp hend
  obtain ⟨i, hfirst, hi⟩ := previousInTrace_eq_some.mp hprev
  exact ⟨i, prev, hi, (List.getElem?_eq_some_iff.mp hfirst.1).1, hruns, rfl⟩

/-- The last node of a trace is not one that an RREP heads back to. -/
theorem HeadsBack.ne_last {path : List NodeId} {n : NodeId} (h : HeadsBack D path (D.addr n))
    (hP : D.Placed) (hn : D.Runs n) (hnodup : path.Nodup) : path.getLast? ≠ some n := by
  obtain ⟨i, x, hx, hi, hruns, haddr⟩ := h
  obtain rfl := hP.addr_injective hn hruns haddr
  intro hlast
  rw [List.getLast?_eq_getElem?] at hlast
  have heq := (List.getElem?_inj (by omega) hnodup).mp (hx.trans hlast.symm)
  omega

/-- The request has not been started, and has left no trace. -/
structure Unstarted (net : Network) (key : RequestKey) : Prop where
  unseen : ∀ n, ¬ net.Seen key n
  packets : ∀ p ∈ net.inFlight, p.packet.requestKey ≠ some key
  calls : ∀ c ∈ callsOf net.history,
    c.passes key = false ∧ ∀ o ∈ c.actions.outbound, o.packet.requestKey ≠ some key

/-- What holds from the start of a request for `d` on. -/
structure Spread (D : Deployment) (key : RequestKey) (d : NodeId) (net : Network) : Prop where
  used : key.2 < (net.node key.1).nextRequestId
  source : net.Seen key key.1
  rreqs : ∀ p ∈ net.inFlight, ∀ q, p.packet = .rreq q → q.key = key →
    q.dstNodeId = d ∧ q.tracePath.Nodup ∧ ∀ m ∈ q.tracePath, net.Seen key m
  rreps : ∀ p ∈ net.inFlight, ∀ a, p.packet = .rrep a → a.key = key →
    a.tracePath.Nodup ∧ a.tracePath.getLast? = some d ∧ HeadsBack D a.tracePath p.dst
  calls : ∀ c ∈ callsOf net.history, c.Confined key d

/-- A call that has to do with other requests. -/
theorem confined_of_unconcerned {c : Call} (hpasses : c.passes key = false)
    (hout : ∀ o ∈ c.actions.outbound, o.packet.requestKey ≠ some key) : c.Confined key d := by
  refine ⟨fun _ => hpasses, fun o ho q _ => ?_, fun _ => ?_⟩
  · obtain ⟨hmem, hkey⟩ := List.mem_filter.mp ho
    exact absurd (Packet.requestKey_of_isRreqOf hkey) (hout o hmem)
  · have hnone : c.rrepsOf key = [] :=
      List.filter_eq_nil_iff.mpr fun o ho hkey => hout o ho (isRrepOf_requestKey hkey)
    rw [hnone]
    exact Nat.zero_le _

theorem passes_eq_false {s : ProtocolState} {clock : Clock} {input : Input}
    (h : input.requestKey ≠ some key) : s.passes clock key input = false := by
  refine Bool.eq_false_iff.mpr fun hpasses => ?_
  obtain ⟨q, sender, rfl, -, hkey, -⟩ := passes_iff.mp hpasses
  exact h (congrArg some hkey)

section Call

variable {n : NodeId} {clock : Clock} {input : Input} {origin : Nat} {rest : List InFlight}

/-- A request is not started again. -/
theorem Spread.not_startedBy (hspread : Spread D key d net) (h : Reachable D F net) :
    ¬ (net.node n).StartedBy ((net.node n).call clock input).1 key := by
  rintro ⟨hsrc, hlow, -⟩
  have hused := hspread.used
  rw [hsrc, ProtocolState.nodeId_eq (node_config h n)] at hused
  omega

/-- A node that takes the request up has not seen it. -/
theorem Spread.unseen_of_takes (hspread : Spread D key d net) (h : Reachable D F net)
    (hretains : (net.node n).Retains clock input)
    (htakes : (net.node n).takes clock key input = true) : ¬ net.Seen key n := by
  rcases takes_iff.mp htakes with hpasses | hstarted
  · exact hretains.notMem_of_passes hpasses
  · exact absurd hstarted (hspread.not_startedBy h)

/-- An RREQ that is let through gets a trace without repetitions. -/
theorem Spread.extend (hspread : Spread D key d net) (h : Reachable D F net) {q e : Rreq}
    {p : InFlight} (hp : p ∈ net.inFlight) (hq : p.packet = .rreq q) (hkey : q.key = key)
    (hunseen : ¬ net.Seen key n) (he : (net.node n).extendRreq q = some e) :
    e.key = key ∧ e.dstNodeId = d ∧ e.tracePath = q.tracePath ++ [n] ∧ e.tracePath.Nodup ∧
      ∀ m ∈ q.tracePath, net.Seen key m := by
  obtain ⟨hdst, hnodup, hseen⟩ := hspread.rreqs p hp q hq hkey
  have hfresh : n ∉ q.tracePath := fun hmem => hunseen (hseen n hmem)
  have hlast : q.tracePath.getLast? ≠ some n :=
    fun hlast => hfresh (List.mem_of_getLast? hlast)
  obtain ⟨he, -⟩ := extendRreq_eq_some.mp he
  rw [ProtocolState.nodeId_eq (node_config h n),
    pushIfNotLast_of_ne hlast] at he
  rw [he]
  refine ⟨hkey, hdst, rfl, ?_, hseen⟩
  show (q.tracePath ++ [n]).Nodup
  rw [← List.concat_eq_append]
  exact hnodup.concat hfresh

/-- The RREQs of the request that a call sends. -/
theorem Spread.rreq_sent (hspread : Spread D key d net) (h : Reachable D F net)
    (hserved : Served D net n input origin rest) (hretains : (net.node n).Retains clock input)
    {o : OutboundPacket} (ho : o ∈ ((net.node n).call clock input).2.outbound) {q : Rreq}
    (hq : o.packet = .rreq q) (hkey : q.key = key) :
    q.dstNodeId = d ∧ q.tracePath.Nodup ∧ ∀ m ∈ q.tracePath,
      ({ net with inFlight := rest }.call n clock input origin).Seen key m := by
  rcases (emits_of_mem ho).of_rreq hq with
    ⟨now, dst, id, -, hlow, hhigh, rfl⟩ | ⟨q₀, e, sender, rfl, ha, hnew, he, rfl⟩
  · have hkey : ((net.node n).config.nodeId, id) = key := hkey
    have hstarted : (net.node n).StartedBy ((net.node n).call clock input).1 key := by
      rw [← hkey]
      exact ⟨rfl, hlow, hhigh⟩
    exact absurd hstarted (hspread.not_startedBy h)
  · have hkey₀ : q₀.key = key := (extendRreq_key he).symm.trans hkey
    have hunseen := hretains.notMem_of_passes (passes_iff.mpr ⟨q₀, sender, rfl, ha, hkey₀, hnew⟩)
    obtain ⟨-, hdst, htrace, hnodup, hseen⟩ :=
      hspread.extend h hserved.inFlight rfl hkey₀ hunseen he
    refine ⟨hdst, hnodup, fun m hm => ?_⟩
    have hm : m ∈ e.tracePath := hm
    rw [htrace] at hm
    rcases List.mem_append.mp hm with hm | hm
    · exact (hseen m hm).call hretains
    · rw [List.mem_singleton.mp hm]
      exact seen_call_rreq hkey₀ hretains ha

/-- The RREPs of the request that a call sends. -/
theorem Spread.rrep_sent (hspread : Spread D key d net) (hP : D.Placed) (h : Reachable D F net)
    (hserved : Served D net n input origin rest) (hretains : (net.node n).Retains clock input)
    {o : OutboundPacket} (ho : o ∈ ((net.node n).call clock input).2.outbound) {a : Rrep}
    (ha : o.packet = .rrep a) (hkey : a.key = key) :
    a.tracePath.Nodup ∧ a.tracePath.getLast? = some d ∧ HeadsBack D a.tracePath o.dst := by
  have hcfg := node_config h n
  rcases (emits_of_mem ho).of_rrep ha with
    ⟨q, e, sender, prev, rfl, hadmits, hnew, he, hme, hprev, hend, rfl⟩ |
    ⟨sender, prev, rfl, hprev, hend⟩
  · have hkey₀ : q.key = key := (extendRreq_key he).symm.trans hkey
    have hunseen :=
      hretains.notMem_of_passes (passes_iff.mpr ⟨q, sender, rfl, hadmits, hkey₀, hnew⟩)
    obtain ⟨-, -, htrace, hnodup, -⟩ := hspread.extend h hserved.inFlight rfl hkey₀ hunseen he
    obtain ⟨hdst, -⟩ := hspread.rreqs _ hserved.inFlight q rfl hkey₀
    refine ⟨hnodup, ?_, heads_back hP hcfg hprev hend⟩
    -- The trace ends with the node that answers, which is the destination.
    show e.tracePath.getLast? = some d
    rw [htrace, List.getLast?_concat, ← hdst, ← hme, ProtocolState.nodeId_eq hcfg]
  · obtain ⟨hnodup, hlast, -⟩ := hspread.rreps _ hserved.inFlight a rfl hkey
    exact ⟨hnodup, hlast, heads_back hP hcfg hprev hend⟩

/-- The destination is not handed an RREP of the request. -/
theorem Spread.isRrepOf_eq_false (hspread : Spread D key d net) (hP : D.Placed) (hd : D.Runs d)
    (hserved : Served D net d input origin rest) : input.isRrepOf key = false := by
  refine Bool.eq_false_iff.mpr fun hrrep => ?_
  cases input with
  | packet packet sender =>
    cases packet with
    | rrep a =>
      obtain ⟨hnodup, hlast, hback⟩ :=
        hspread.rreps _ hserved.inFlight a rfl (eq_of_beq hrrep)
      exact hback.ne_last hP hd hnodup hlast
    | _ => cases hrrep
  | _ => cases hrrep

/-- Every call keeps the invariant of a request. -/
theorem Spread.call (hspread : Spread D key d net) (hP : D.Placed) (h : Reachable D F net)
    (hn : D.Runs n) (hserved : Served D net n input origin rest)
    (hretains : (net.node n).Retains clock input) :
    Spread D key d ({ net with inFlight := rest }.call n clock input origin) := by
  constructor
  · by_cases hsrc : key.1 = n
    · have hused := hspread.used
      rw [hsrc] at hused ⊢
      rw [call_node_self]
      exact Nat.lt_of_lt_of_le hused (call_nextRequestId_le _ clock input)
    · rw [call_node_other hsrc]
      exact hspread.used
  · exact hspread.source.call hretains
  · intro p hp q hq hkey
    rcases mem_inFlight_call.mp hp with hp | ⟨o, ho, rfl⟩
    · obtain ⟨hdst, hnodup, hseen⟩ := hspread.rreqs p (hserved.mem_of_mem_rest hp) q hq hkey
      exact ⟨hdst, hnodup, fun m hm => (hseen m hm).call hretains⟩
    · exact hspread.rreq_sent h hserved hretains ho hq hkey
  · intro p hp a ha hkey
    rcases mem_inFlight_call.mp hp with hp | ⟨o, ho, rfl⟩
    · exact hspread.rreps p (hserved.mem_of_mem_rest hp) a ha hkey
    · exact hspread.rrep_sent hP h hserved hretains ho ha hkey
  · intro c hc
    rcases List.mem_cons.mp hc with rfl | hold
    · refine ⟨fun hsrc => ?_, fun o ho q hq => ?_, fun hd => ?_⟩
      · -- The source has seen its own request.
        have hsrc : n = key.1 := hsrc
        refine Bool.eq_false_iff.mpr fun hpasses => ?_
        have hunseen := hretains.notMem_of_passes hpasses
        rw [hsrc] at hunseen
        exact hunseen hspread.source
      · obtain ⟨hmem, hkey⟩ := List.mem_filter.mp ho
        rw [hq] at hkey
        exact (hspread.rreq_sent h hserved hretains hmem hq (eq_of_beq hkey)).1
      · have hd : n = d := hd
        subst hd
        exact rreps_length_le (hspread.isRrepOf_eq_false hP hn hserved)
    · exact hspread.calls c hold

theorem Spread.reorder {s' : ProtocolState} (hspread : Spread D key d net)
    (hr : (net.node n).Reorder s') :
    Spread D key d { net with node := Function.update net.node n s' } := by
  have hnode := reorder_seen key hr
  refine ⟨?_, (hnode key.1).2.mpr hspread.source, fun p hp q hq hkey => ?_, hspread.rreps,
    hspread.calls⟩
  · show key.2 < (Function.update net.node n s' key.1).nextRequestId
    rw [(hnode key.1).1]
    exact hspread.used
  · obtain ⟨hdst, hnodup, hseen⟩ := hspread.rreqs p hp q hq hkey
    exact ⟨hdst, hnodup, fun m hm => (hnode m).2.mpr (hseen m hm)⟩

/-- Losing or duplicating packets adds none that was not there. -/
theorem Spread.subset {packets : List InFlight} (hspread : Spread D key d net)
    (hsub : ∀ p ∈ packets, p ∈ net.inFlight) :
    Spread D key d { net with inFlight := packets } :=
  ⟨hspread.used, hspread.source, fun p hp => hspread.rreqs p (hsub p hp),
    fun p hp => hspread.rreps p (hsub p hp), hspread.calls⟩

theorem Unstarted.subset {packets : List InFlight} (hfresh : Unstarted net key)
    (hsub : ∀ p ∈ packets, p ∈ net.inFlight) :
    Unstarted { net with inFlight := packets } key :=
  ⟨hfresh.unseen, fun p hp => hfresh.packets p (hsub p hp), hfresh.calls⟩

/-- A call before the request is started. -/
theorem Unstarted.call (hfresh : Unstarted net key) (hserved : Served D net n input origin rest)
    (hnot : ¬ (net.node n).StartedBy ((net.node n).call clock input).1 key) :
    Unstarted ({ net with inFlight := rest }.call n clock input origin) key := by
  have hinput := hserved.requestKey_ne hfresh.packets
  obtain ⟨hseen, hout, -⟩ := ProtocolState.call_unconcerned hinput hnot
  refine ⟨fun m hm => ?_, fun p hp => ?_, fun c hc => ?_⟩
  · rcases seen_call_cases hm with hm | ⟨-, hm⟩
    · exact hfresh.unseen m hm
    · exact hfresh.unseen n (hseen hm)
  · rcases mem_inFlight_call.mp hp with hp | ⟨o, ho, rfl⟩
    · exact hfresh.packets p (hserved.mem_of_mem_rest hp)
    · exact hout o ho
  · rcases List.mem_cons.mp hc with rfl | hold
    · exact ⟨passes_eq_false hinput, hout⟩
    · exact hfresh.calls c hold

/-- The call that starts the request. -/
theorem Unstarted.start {requestId : Nat} (hfresh : Unstarted net (n, requestId))
    (h : Reachable D F net) (hserved : Served D net n input origin rest)
    (hretains : (net.node n).Retains clock input)
    (hdisc : (net.node n).Discovers clock input requestId d) :
    Spread D (n, requestId) d ({ net with inFlight := rest }.call n clock input origin) := by
  have hid := ProtocolState.nodeId_eq (node_config h n)
  obtain ⟨hstarted, now, hflood⟩ := hdisc
  rw [hid] at hstarted hflood
  -- Its packets are the copies of the flood.
  have hcopy : ∀ o ∈ ((net.node n).call clock input).2.outbound,
      o.packet.requestKey = some (n, requestId) →
        o.packet = .rreq (floodedRreq n d requestId now) := by
    intro o ho hkey
    have hmem : o ∈ (net.node n).floodRreq now d requestId := by
      rw [← hflood, List.mem_filter]
      simpa [ho] using hkey
    obtain ⟨v, -, -, hpacket⟩ := mem_floodRreq.mp hmem
    rw [hid] at hpacket
    exact hpacket
  have hpackets : ∀ p ∈ ({ net with inFlight := rest }.call n clock input origin).inFlight,
      p.packet.requestKey = some (n, requestId) →
        p.packet = .rreq (floodedRreq n d requestId now) := by
    intro p hp hkey
    rcases mem_inFlight_call.mp hp with hp | ⟨o, ho, rfl⟩
    · exact absurd hkey (hfresh.packets p (hserved.mem_of_mem_rest hp))
    · exact hcopy o ho hkey
  have hsource : ({ net with inFlight := rest }.call n clock input origin).Seen
      (n, requestId) n := by
    unfold Seen
    rw [call_node_self]
    exact hretains.started _ hstarted
  refine ⟨?_, hsource, fun p hp q hq hkey => ?_, fun p hp a ha hkey => ?_, fun c hc => ?_⟩
  · show requestId < (Network.node _ n).nextRequestId
    rw [call_node_self]
    exact hstarted.2.2
  · have hpacket := hpackets p hp (by rw [hq]; exact congrArg some hkey)
    obtain rfl := Packet.rreq.inj (hq.symm.trans hpacket)
    refine ⟨rfl, List.nodup_singleton _, fun m hm => ?_⟩
    rw [List.mem_singleton.mp hm]
    exact hsource
  · have hpacket := hpackets p hp (by rw [ha]; exact congrArg some hkey)
    cases ha.symm.trans hpacket
  · rcases List.mem_cons.mp hc with rfl | hold
    · refine ⟨fun _ => ?_, fun o ho q hq => ?_, fun _ => ?_⟩
      · -- A local call lets no RREQ through.
        refine Bool.eq_false_iff.mpr fun hpasses => ?_
        obtain ⟨q, sender, rfl, -⟩ := passes_iff.mp hpasses
        rcases hstarted.input with ⟨_, heq⟩ | ⟨_, heq⟩ <;> cases heq
      · obtain ⟨hmem, hkey⟩ := List.mem_filter.mp ho
        have hpacket := hcopy o hmem (Packet.requestKey_of_isRreqOf hkey)
        obtain rfl := Packet.rreq.inj (hq.symm.trans hpacket)
        rfl
      · refine le_of_eq_of_le (List.length_eq_zero_iff.mpr ?_) (Nat.zero_le _)
        refine List.filter_eq_nil_iff.mpr fun o ho hkey => ?_
        rw [hcopy o ho (isRrepOf_requestKey hkey)] at hkey
        cases hkey
    · obtain ⟨hpasses, hout⟩ := hfresh.calls c hold
      exact confined_of_unconcerned hpasses hout

end Call

/-- **The invariant of a request holds throughout its life**, and no node takes the request
up twice. -/
theorem taken_and_spread (hP : D.Placed) (hF : F.restarts = false) (h : Reachable D F net)
    (hretains : ∀ c ∈ callsOf net.history, c.Retains) (key : RequestKey) :
    net.TakenOnce key ∧ (Unstarted net key ∨ ∃ d, Spread D key d net) := by
  refine reachable_induction (fun net => (∀ c ∈ callsOf net.history, c.Retains) →
    net.TakenOnce key ∧ (Unstarted net key ∨ ∃ d, Spread D key d net)) ?_ ?_ h hretains
  · intro _
    have hunseen : ∀ n, ¬ (init D).Seen key n := fun n => AList.notMem_empty key
    exact ⟨fun n => .inr ⟨hunseen n, rfl⟩, .inl ⟨hunseen, fun p hp => absurd hp List.not_mem_nil,
      fun c hc => absurd hc List.not_mem_nil⟩⟩
  intro net net' hreach ih hs hretains
  obtain ⟨htaken, hstage⟩ := ih fun c hc => hretains c (callsOf_mono hs hc)
  cases hs with
  | @call n clock input origin rest hn hserved =>
    have hcall : (net.node n).Retains clock input := hretains _ mem_callsOf_call
    rcases hstage with hfresh | ⟨d, hspread⟩
    · refine ⟨htaken.call hcall fun _ => hfresh.unseen n, ?_⟩
      by_cases hstarted : (net.node n).StartedBy ((net.node n).call clock input).1 key
      · obtain ⟨src, requestId⟩ := key
        obtain rfl : src = n :=
          hstarted.1.trans (ProtocolState.nodeId_eq (node_config hreach n))
        have hdisc : ∃ d, (net.node src).Discovers clock input requestId d :=
          discovers_of_startedBy ⟨rfl, hstarted.2.1, hstarted.2.2⟩
        obtain ⟨d, hdisc⟩ := hdisc
        exact .inr ⟨d, hfresh.start hreach hserved hcall hdisc⟩
      · exact .inl (hfresh.call hserved hstarted)
    · exact ⟨htaken.call hcall (hspread.unseen_of_takes hreach hcall),
        .inr ⟨d, hspread.call hP hreach hn hserved hcall⟩⟩
  | lose _ hp =>
    have hmem : ∀ q ∈ _, q ∈ net.inFlight :=
      fun q hq => hp.mem_iff.mpr (List.mem_cons_of_mem _ hq)
    exact ⟨htaken, hstage.imp (·.subset hmem) fun ⟨d, hspread⟩ => ⟨d, hspread.subset hmem⟩⟩
  | @duplicate p _ hp =>
    have hmem : ∀ q ∈ p :: net.inFlight, q ∈ net.inFlight := by
      intro q hq
      rcases List.mem_cons.mp hq with rfl | hq
      · exact hp
      · exact hq
    exact ⟨htaken, hstage.imp (·.subset hmem) fun ⟨d, hspread⟩ => ⟨d, hspread.subset hmem⟩⟩
  | restart hF' =>
    rw [hF] at hF'
    cases hF'
  | @reorder n s' hr =>
    have hnode := reorder_seen key hr
    refine ⟨fun m => ?_, hstage.imp (fun hfresh => ?_) fun ⟨d, hspread⟩ => ⟨d, ?_⟩⟩
    · exact (htaken m).imp (fun hold => ⟨(hnode m).2.mpr hold.1, hold.2⟩)
        fun hold => ⟨fun hm => hold.1 ((hnode m).2.mp hm), hold.2⟩
    · exact ⟨fun m hm => hfresh.unseen m ((hnode m).2.mp hm), hfresh.packets, hfresh.calls⟩
    · exact hspread.reorder hr

/-! ## Sums over the calls of a run -/

section Sums

variable {α β : Type} {l : List α} {f : α → Nat}

/-- A sum over a list is the sum of its parts, where every element belongs to one of
finitely many owners. -/
theorem sum_by_owner [DecidableEq β] (owner : α → β) (owners : Finset β)
    (h : ∀ x ∈ l, owner x ∈ owners) :
    (l.map f).sum = ∑ b ∈ owners, (l.map fun x => if owner x = b then f x else 0).sum := by
  induction l with
  | nil => simp
  | cons x l ih =>
    have hx := h x List.mem_cons_self
    simp only [List.map_cons, List.sum_cons, Finset.sum_add_distrib, Finset.sum_ite_eq, hx,
      if_true]
    rw [ih fun y hy => h y (List.mem_cons_of_mem _ hy)]

/-- A sum whose terms are bounded, and are 0 but for some elements of the list. -/
theorem sum_le_countP_mul (p : α → Bool) (bound : Nat)
    (h : ∀ x ∈ l, f x ≤ if p x then bound else 0) : (l.map f).sum ≤ l.countP p * bound := by
  induction l with
  | nil => exact Nat.zero_le _
  | cons x l ih =>
    have hx := h x List.mem_cons_self
    have hl := ih fun y hy => h y (List.mem_cons_of_mem _ hy)
    rw [List.map_cons, List.sum_cons, List.countP_cons, Nat.add_mul, Nat.add_comm]
    refine Nat.add_le_add hl (hx.trans ?_)
    split
    · exact (Nat.one_mul bound).ge
    · exact Nat.zero_le _

end Sums

/-- Calls are made by the nodes of the topology. -/
theorem runs_of_mem_callsOf (h : Reachable D F net) {c : Call} (hc : c ∈ callsOf net.history) :
    D.Runs c.nodeId := by
  refine reachable_induction (fun net => ∀ c ∈ callsOf net.history, D.Runs c.nodeId)
    (fun c hc => absurd hc List.not_mem_nil) ?_ h c hc
  intro net net' _ ih hs c hc
  cases hs with
  | call hn =>
    rcases List.mem_cons.mp hc with rfl | hold
    · exact hn
    · exact ih c hold
  | lose => exact ih c hc
  | duplicate => exact ih c hc
  | restart => exact ih c hc
  | reorder => exact ih c hc

/-! ## The bound -/

/-- The calls in which a node sends RREQs of the request. -/
def batches (net : Network) (key : RequestKey) (n : NodeId) : Nat :=
  (callsOf net.history).countP fun c => c.nodeId == n && !(c.rreqsOf key).isEmpty

/-- The RREQs of the request that are sent in a run. -/
def rreqsSent (net : Network) (key : RequestKey) : Nat :=
  ((callsOf net.history).map fun c => (c.rreqsOf key).length).sum

/-- The RREPs of the request that a node sends in a run, in answer or in relay. -/
def rrepsSent (net : Network) (key : RequestKey) (n : NodeId) : Nat :=
  ((callsOf net.history).map fun c => if c.nodeId = n then (c.rrepsOf key).length else 0).sum

/-- An RREQ of the request that is sent in a run looks for `d`. -/
def Seeks (net : Network) (key : RequestKey) (d : NodeId) : Prop :=
  ∃ c ∈ callsOf net.history, ∃ o ∈ c.rreqsOf key, ∃ q, o.packet = .rreq q ∧ q.dstNodeId = d

/-- The bounds on what is sent for one request. -/
structure FloodBounded (D : Deployment) (net : Network) (key : RequestKey) : Prop where
  source : net.passes key key.1 = 0
  once : ∀ n, n ≠ key.1 → net.passes key n ≤ 1
  batch : ∀ n, net.batches key n ≤ 1
  copies : ∀ c ∈ callsOf net.history,
    ((c.rreqsOf key).map OutboundPacket.dst).Sublist ((D.neighborsOf c.nodeId).map D.addr)
  replies : ∀ d, net.Seeks key d → net.rrepsSent key d ≤ 1
  total : net.rreqsSent key ≤ (D.topology.nodes.map fun node => node.neighbors.length).sum

theorem TakenOnce.le_one (h : net.TakenOnce key) (n : NodeId) : net.takings key n ≤ 1 := by
  rcases h n with ⟨-, h⟩ | ⟨-, h⟩ <;> omega

/-- Letting an RREQ through is one way to take the request up. -/
theorem passes_le_takings (net : Network) (key : RequestKey) (n : NodeId) :
    net.passes key n ≤ net.takings key n := by
  refine List.countP_mono_left fun c _ hc => ?_
  obtain ⟨hid, hpasses⟩ := Bool.and_eq_true_iff.mp hc
  exact Bool.and_eq_true_iff.mpr ⟨hid, takes_iff.mpr (.inl hpasses)⟩

/-- A call that sends RREQs of the request takes it up. -/
theorem takes_of_rreqsOf (h : Reachable D F net) {c : Call} (hc : c ∈ callsOf net.history)
    {o : OutboundPacket} (ho : o ∈ c.rreqsOf key) : c.takes key = true := by
  obtain ⟨hmem, hkey⟩ := List.mem_filter.mp ho
  obtain ⟨hresult, -⟩ := result_of_mem_callsOf h hc
  have hactions : c.actions = (c.before.call c.clock c.input).2 := congrArg Prod.snd hresult
  rw [hactions] at hmem
  exact takes_of_rreq hmem hkey

theorem batches_le_takings (h : Reachable D F net) (n : NodeId) :
    net.batches key n ≤ net.takings key n := by
  refine List.countP_mono_left fun c hc hbatch => ?_
  obtain ⟨hid, hsome⟩ := Bool.and_eq_true_iff.mp hbatch
  obtain ⟨o, ho⟩ := List.exists_mem_of_ne_nil _ (by simpa using hsome)
  exact Bool.and_eq_true_iff.mpr ⟨hid, takes_of_rreqsOf h hc ho⟩

/-- The copies of one call go to entries of the neighbour list. -/
theorem rreqsOf_sublist (hP : D.Placed) (h : Reachable D F net) {c : Call}
    (hc : c ∈ callsOf net.history) :
    ((c.rreqsOf key).map OutboundPacket.dst).Sublist ((D.neighborsOf c.nodeId).map D.addr) := by
  obtain ⟨hresult, hcfg⟩ := result_of_mem_callsOf h hc
  have hactions : c.actions = (c.before.call c.clock c.input).2 := congrArg Prod.snd hresult
  have hsub := rreqs_sublist c.before c.clock c.input key
  rw [← hactions, logicalNeighbors_eq hcfg] at hsub
  refine hsub.trans ?_
  -- A neighbour that has an endpoint has the address of its node.
  induction D.neighborsOf c.nodeId with
  | nil => exact List.nil_sublist _
  | cons v neighbors ih =>
    cases hend : c.before.endpoint v with
    | none =>
      rw [List.filterMap_cons_none hend]
      exact ih.cons _
    | some dst =>
      obtain ⟨-, rfl⟩ := (endpoint_eq_some hP hcfg).mp hend
      rw [List.filterMap_cons_some hend]
      exact ih.cons_cons _

theorem rreqsSent_le (hP : D.Placed) (h : Reachable D F net) (htaken : net.TakenOnce key) :
    net.rreqsSent key ≤ (D.topology.nodes.map fun node => node.neighbors.length).sum := by
  have hcalls : ∀ c ∈ callsOf net.history,
      c.nodeId ∈ (D.topology.nodes.map TopologyNode.nodeId).toFinset := by
    intro c hc
    obtain ⟨tn, hmem, hid⟩ := runs_of_mem_callsOf h hc
    exact List.mem_toFinset.mpr (List.mem_map.mpr ⟨tn, hmem, hid⟩)
  -- What one node sends.
  have hnode : ∀ n, ((callsOf net.history).map fun c =>
      if c.nodeId = n then (c.rreqsOf key).length else 0).sum ≤ (D.neighborsOf n).length := by
    intro n
    refine (sum_le_countP_mul (fun c => c.nodeId == n && c.takes key)
      (D.neighborsOf n).length fun c hc => ?_).trans
      ((Nat.mul_le_mul_right _ (htaken.le_one n)).trans_eq (Nat.one_mul _))
    by_cases hid : c.nodeId = n
    · rw [if_pos hid]
      cases htakes : c.takes key with
      | false =>
        have hnone : c.rreqsOf key = [] := List.eq_nil_iff_forall_not_mem.mpr fun o ho => by
          rw [takes_of_rreqsOf h hc ho] at htakes
          cases htakes
        rw [hnone]
        exact Nat.zero_le _
      | true =>
        have hlength : ((c.rreqsOf key).map OutboundPacket.dst).length ≤
            ((D.neighborsOf c.nodeId).map D.addr).length := (rreqsOf_sublist hP h hc).length_le
        rw [List.length_map, List.length_map, hid] at hlength
        simpa [hid] using hlength
    · rw [if_neg hid]
      exact Nat.zero_le _
  calc net.rreqsSent key
      = ∑ n ∈ (D.topology.nodes.map TopologyNode.nodeId).toFinset, ((callsOf net.history).map
          fun c => if c.nodeId = n then (c.rreqsOf key).length else 0).sum :=
        sum_by_owner Call.nodeId _ hcalls
    _ ≤ ∑ n ∈ (D.topology.nodes.map TopologyNode.nodeId).toFinset, (D.neighborsOf n).length :=
        Finset.sum_le_sum fun n _ => hnode n
    _ = ((D.topology.nodes.map TopologyNode.nodeId).map fun n => (D.neighborsOf n).length).sum :=
        List.sum_toFinset _ hP.ids_nodup
    _ = (D.topology.nodes.map fun node => node.neighbors.length).sum := by
        rw [List.map_map]
        refine congrArg List.sum (List.map_congr_left fun tn hmem => ?_)
        show (((D.topology.node tn.nodeId).map TopologyNode.neighbors).getD []).length = _
        rw [Topology.node_eq_some hP.ids_nodup hmem]
        rfl

/-- **The flood of a request is bounded.** In any run in which the clock readings lie
within the time to live of each other and the requests fit into the duplicate caches, every
node other than the source lets at most one RREQ of the request through the duplicate
check, and the source none. So every node sends at most one batch of RREQs, one to an
entry of its neighbour list at most, and all nodes together at most as many as the
neighbour lists have entries. The node that is looked for sends at most one RREP. -/
theorem flood_bounded (hP : D.Placed) (hF : F.restarts = false) (h : Reachable D F net)
    (htimely : net.Timely D) (hroomy : net.Roomy D) (key : RequestKey) :
    FloodBounded D net key := by
  obtain ⟨htaken, hstage⟩ := taken_and_spread hP hF h (retains_of_timely h htimely hroomy) key
  have hpasses : ∀ n, net.passes key n ≤ 1 :=
    fun n => (passes_le_takings net key n).trans (htaken.le_one n)
  refine
    { source := ?_
      once := fun n _ => hpasses n
      batch := fun n => (batches_le_takings h n).trans (htaken.le_one n)
      copies := fun c hc => rreqsOf_sublist hP h hc
      replies := ?_
      total := rreqsSent_le hP h htaken }
  · refine List.countP_eq_zero.mpr fun c hc hpass => ?_
    obtain ⟨hid, hpass⟩ := Bool.and_eq_true_iff.mp hpass
    rcases hstage with hfresh | ⟨d, hspread⟩
    · rw [(hfresh.calls c hc).1] at hpass
      cases hpass
    · rw [(hspread.calls c hc).source (eq_of_beq hid)] at hpass
      cases hpass
  · rintro d ⟨c, hc, o, ho, q, hq, rfl⟩
    rcases hstage with hfresh | ⟨d, hspread⟩
    · obtain ⟨hmem, hkey⟩ := List.mem_filter.mp ho
      exact absurd (Packet.requestKey_of_isRreqOf hkey) ((hfresh.calls c hc).2 o hmem)
    · rw [(hspread.calls c hc).sought o ho q hq]
      refine (sum_le_countP_mul (fun c => c.nodeId == d && c.passes key) 1
        fun c hc => ?_).trans (by rw [Nat.mul_one]; exact hpasses d)
      by_cases hid : c.nodeId = d
      · have hreplies := (hspread.calls c hc).replies hid
        simpa [hid] using hreplies
      · rw [if_neg hid]
        exact Nat.zero_le _

/-- A clock that has been set back. -/
def fiveMillis : Clock := fun _ => 5

/-- On `Deployment.line`, the RREQ of node 0 is duplicated, and node 1 is handed the second
copy after its clock has been set back. -/
def duplicatedFlood : List Action :=
  [.act 0 tenMillis (.command (.discoverAndSend 2 [7])), .duplicate 0, .deliver 0 1 tenMillis,
   .deliver 0 1 fiveMillis, .deliver 0 2 fiveMillis]

/-- Two RREQs are sent, and the neighbour lists have four entries. -/
theorem flood_bounded_line :
    let net := after (.line .dsr) ⟨true, true, false⟩ duplicatedFlood
    net.rreqsSent (0, 1) = 2 ∧ net.rrepsSent (0, 1) 2 = 1 ∧
      FloodBounded (.line .dsr) net (0, 1) := by
  intro net
  refine ⟨by decide +kernel, by decide +kernel, ?_⟩
  exact flood_bounded (Deployment.line_placed .dsr) rfl (reachable_after ..) (by decide +kernel)
    (fun _ _ => show net.requestKeys.card ≤ 10000 by decide +kernel) (0, 1)

end Network

end DlDsr
