import DlDsr.Network.FloodBound

/-!
# What the hop limit bounds

A node marks a request as seen on the first copy that arrives, and the hop count of that
copy decides how far the request goes on. A copy has come over a simple path
(`LimitedFlood.rreqs`), so a destination that answers is within the hop limit. The
converse depends on the order of the deliveries: a node may be reached over a detour that
uses the hops up, and then refuses the later copy of a shorter path as a duplicate. Such
detours are the only way for a request to miss a destination within the limit
(`found_unless_detour`), and it does happen (`missed_within_limit`).
-/

namespace DlDsr

/-- Neighbour lists are symmetric. -/
def Deployment.Symmetric (D : Deployment) : Prop :=
  ∀ a b, b ∈ D.neighborsOf a → a ∈ D.neighborsOf b

/-- All nodes have this hop limit. -/
def Deployment.HopLimit (D : Deployment) (H : Nat) : Prop :=
  ∀ n, D.Runs n → (D.config n).maxRreqHops.toNat = H

namespace Network

open ProtocolState

variable {D : Deployment} {F : Faults} {net net' : Network} {key : RequestKey} {s d : NodeId}
  {H : Nat}

/-- A simple path of exactly `H` links leads from `s` to `n` and avoids `d` and `m`. A node
that is reached over it cannot pass the request on to `m`. -/
def Detour (D : Deployment) (H : Nat) (s d n m : NodeId) : Prop :=
  ∃ path, IsWalk D.Mutual path s n ∧ path.Nodup ∧ path.length = H + 1 ∧ d ∉ path ∧ m ∉ path

/-- What holds of every RREQ in flight to `dst`. -/
structure Travelled (D : Deployment) (H : Nat) (d : NodeId) (dst : SocketAddr) (q : Rreq) :
    Prop where
  walk : RreqWalk D dst q
  limit : q.hopCount.toNat ≤ H
  avoids : d ∉ q.tracePath

/-- What holds from the start of a request for `d` on, where caches retain everything. -/
structure LimitedFlood (D : Deployment) (H : Nat) (key : RequestKey) (d : NodeId)
    (net : Network) : Prop where
  spread : Spread D key d net
  rreqs : ∀ p ∈ net.inFlight, ∀ q, p.packet = .rreq q → q.key = key → Travelled D H d p.dst q
  near : ∀ n, net.Seen key n → ∃ path, IsWalk D.Mutual path key.1 n ∧ path.length ≤ H + 1
  frontier : Frontier D.Mutual d (net.Seen key) fun n m =>
    net.CopyInFlight D key n m ∨ Detour D H key.1 d n m
  answered : net.Seen key d → net.replies d key = 1
  unanswered : ¬ net.Seen key d → net.replies d key = 0

/-! ## The start of a request -/

/-- The call that starts a request starts its flood. -/
theorem limitedFlood_start {n : NodeId} {clock : Clock} {input : Input} {requestId : Nat}
    (hP : D.Placed) (hF : F.restarts = false) (h : Reachable D F net)
    (hfresh : Unstarted net (n, requestId)) (hlocal : input.isLocal)
    (hdisc : (net.node n).Discovers clock input requestId d)
    (hretains : (net.node n).Retains clock input) (hne : d ≠ n) :
    LimitedFlood D H (n, requestId) d (net.call n clock input net.history.length) := by
  have hcfg := node_config h n
  have hid : (net.node n).config.nodeId = n := ProtocolState.nodeId_eq hcfg
  have huntouched : Untouched net (n, requestId) d := untouched_of_le hF h hdisc.1.2.1 d
  have hseen := seen_start net.history.length hid huntouched hdisc hretains
  obtain ⟨now, hpackets, hcopies⟩ :=
    inFlight_start net.history.length hP hcfg huntouched hdisc
  have hreplies : (net.call n clock input net.history.length).replies d (n, requestId) = 0 := by
    show (if n = d then _ else 0) + net.replies d (n, requestId) = 0
    rw [if_neg hne.symm, huntouched.replies]
  refine
    { spread := hfresh.start h (.act input hlocal) hretains hdisc
      rreqs := ?_
      near := ?_
      frontier := ?_
      answered := fun hd => absurd ((hseen d).mp hd) hne
      unanswered := fun _ => hreplies }
  · intro p hp q hq hkey
    obtain ⟨hpacket, v, hv, hmem, hdst⟩ := hpackets p hp (by rw [hq]; exact congrArg some hkey)
    obtain rfl := Packet.rreq.inj (hq.symm.trans hpacket)
    exact
      { walk :=
          { dsr_eq_trace := rfl
            walk := .single n
            hops := rfl
            avoids := List.not_mem_nil
            receiver := ⟨v, hv, hmem, hdst⟩ }
        limit := Nat.zero_le _
        avoids := fun hmem => hne (List.mem_singleton.mp hmem) }
  · intro m hm
    rw [(hseen m).mp hm]
    exact ⟨[n], .single n, Nat.le_add_left 1 H⟩
  · refine .start (fun m hm => (hseen m).mp hm) fun m hm => ?_
    obtain ⟨p, hp, hpacket, hdst⟩ := hcopies m hm.1 (D.runs_of_mem_neighborsOf hm.2)
    exact .inl ⟨p, hp, _, hpacket, rfl, rfl, hdst⟩

/-! ## One call -/

section Call

variable {n : NodeId} {clock : Clock} {input : Input} {origin : Nat} {rest : List InFlight}

/-- A call that caches retain is seen where it was seen before, or where it is taken up. -/
theorem seen_call_iff (hretains : (net.node n).Retains clock input) (m : NodeId) :
    ({ net with inFlight := rest }.call n clock input origin).Seen key m ↔
      net.Seen key m ∨ (m = n ∧ (net.node n).takes clock key input = true) := by
  unfold Seen
  by_cases hm : m = n
  · subst hm
    rw [call_node_self]
    simpa using hretains.mem_iff
  · rw [call_node_other hm]
    simp [hm]

/-- A node answers an RREQ of the request only if it lets it through. -/
theorem repliesTo_eq_zero_of_passes {s : ProtocolState} (origin : Nat)
    (hpasses : s.passes clock key input = false) :
    Call.repliesTo key ⟨n, clock, input, s, (s.call clock input).1, (s.call clock input).2,
      origin⟩ = 0 := by
  unfold Call.repliesTo
  split
  · next q sender heq =>
    have heq : input = .packet (.rreq q) sender := heq
    subst heq
    have hlength : ((s.call clock (.packet (.rreq q) sender)).2.outbound.filter
        fun o => o.packet.isRrepOf key).length ≤
          if s.passes clock key (.packet (.rreq q) sender) then 1 else 0 := rreps_length_le rfl
    rw [hpasses] at hlength
    rw [List.countP_eq_length_filter]
    exact Nat.le_zero.mp hlength
  · rfl

/-- A copy that is refused although it comes from a neighbour has used up its hops on a
detour. -/
theorem LimitedFlood.detour_of_refused {q : Rreq} {sender : SocketAddr}
    (hflood : LimitedFlood D H key d net) (hlimit : D.HopLimit H) (h : Reachable D F net)
    (hn : D.Runs n) (hkey : q.key = key)
    (hserved : Served D net n (.packet (.rreq q) sender) origin rest)
    (hlisted : q.previousHop ∈ D.neighborsOf n) (hrefused : ¬ (net.node n).Admits q)
    (hunseen : ¬ net.Seen key n) : Detour D H key.1 d q.previousHop n := by
  have hcfg := node_config h n
  have htravelled := hflood.rreqs _ hserved.inFlight q rfl hkey
  obtain ⟨-, hnodup, htrace⟩ := hflood.spread.rreqs _ hserved.inFlight q rfl hkey
  have hhops : H ≤ q.hopCount.toNat := by
    by_contra hlt
    refine hrefused ⟨?_, UInt8.lt_iff_toNat_lt.mpr ?_⟩
    · rw [logicalNeighbors_eq hcfg]
      exact hlisted
    · rw [hcfg, hlimit n hn]
      omega
  have hsrc : q.srcNodeId = key.1 := congrArg Prod.fst hkey
  refine ⟨q.tracePath, hsrc ▸ htravelled.walk.walk, hnodup, ?_, htravelled.avoids,
    fun hmem => hunseen (htrace n hmem)⟩
  have hlength := htravelled.walk.hops
  have hle := htravelled.limit
  omega

/-- A call that does not take the request up: it sends no copies, and the copy that it may
have served was a duplicate, or had used up its hops. -/
theorem LimitedFlood.call_silent (hflood : LimitedFlood D H key d net) (hP : D.Placed)
    (hlimit : D.HopLimit H) (h : Reachable D F net) (hn : D.Runs n)
    (hserved : Served D net n input origin rest) (hretains : (net.node n).Retains clock input)
    (htakes : (net.node n).takes clock key input = false) :
    LimitedFlood D H key d ({ net with inFlight := rest }.call n clock input origin) := by
  have hseen : ∀ m, ({ net with inFlight := rest }.call n clock input origin).Seen key m ↔
      net.Seen key m := by
    intro m
    rw [seen_call_iff hretains m, htakes]
    simp
  have hpasses : (net.node n).passes clock key input = false :=
    Bool.eq_false_iff.mpr fun hpasses => by
      rw [takes_iff.mpr (.inl hpasses)] at htakes
      cases htakes
  have hreplies : ({ net with inFlight := rest }.call n clock input origin).replies d key =
      net.replies d key := by
    show (if n = d then Call.repliesTo key _ else 0) + net.replies d key = net.replies d key
    rw [repliesTo_eq_zero_of_passes origin hpasses, ite_self, Nat.zero_add]
  refine
    { spread := hflood.spread.call hP h hn hserved hretains
      rreqs := ?_
      near := fun m hm => hflood.near m ((hseen m).mp hm)
      frontier := ?_
      answered := fun hd => hreplies.trans (hflood.answered ((hseen d).mp hd))
      unanswered := fun hd => hreplies.trans
        (hflood.unanswered fun hold => hd ((hseen d).mpr hold)) }
  · intro p hp q hq hkey
    rcases mem_inFlight_call.mp hp with hp | ⟨o, ho, rfl⟩
    · exact hflood.rreqs p (hserved.mem_of_mem_rest hp) q hq hkey
    · have hcopy : o.packet.isRreqOf key = true := by
        have hq : o.packet = .rreq q := hq
        rw [hq]
        exact beq_iff_eq.mpr hkey
      rw [takes_of_rreq ho hcopy] at htakes
      cases htakes
  · intro a b hstop hR ha
    rw [hseen] at ha
    by_cases hb : net.Seen key b
    · exact .inl ((hseen b).mpr hb)
    right
    rcases (hflood.frontier a b hstop hR ha).resolve_left hb with hcopy | hdetour
    · have hruns : D.Runs b := D.runs_of_mem_neighborsOf hR.2
      rcases hcopy.call hP hn hruns hserved with hcopy | ⟨q, sender, rfl, hkey, rfl, rfl⟩
      · exact .inl hcopy
      · -- A copy that is neither let through nor a duplicate has been refused.
        refine .inr (hflood.detour_of_refused hlimit h hn hkey hserved hR.2 (fun hadmits => ?_) hb)
        exact hb ((hseen b).mp (seen_call_rreq hkey hretains hadmits))
    · exact .inr hdetour

section Rreq

variable {q e : Rreq} {sender : SocketAddr}

/-- What a node knows of an RREQ of the request that it lets through. -/
structure LetThrough (D : Deployment) (H : Nat) (key : RequestKey) (d n : NodeId) (net : Network)
    (q e : Rreq) : Prop where
  travelled : Travelled D H d (D.addr n) q
  link : D.Mutual q.previousHop n
  seen : ∀ m ∈ q.tracePath, net.Seen key m
  fresh : n ∉ q.tracePath
  near : q.hopCount.toNat + 1 ≤ H
  dst : q.dstNodeId = d
  extended : e = { q with
    dsrPath := q.tracePath ++ [n]
    dldsrLabelPath := e.dldsrLabelPath
    tracePath := q.tracePath ++ [n] }

theorem LimitedFlood.letThrough (hflood : LimitedFlood D H key d net) (hP : D.Placed)
    (hlimit : D.HopLimit H) (h : Reachable D F net) (hn : D.Runs n) (hkey : q.key = key)
    (hserved : Served D net n (.packet (.rreq q) sender) origin rest)
    (ha : (net.node n).Admits q) (hunseen : ¬ net.Seen key n)
    (he : (net.node n).extendRreq q = some e) : LetThrough D H key d n net q e := by
  have hcfg := node_config h n
  have htravelled := hflood.rreqs _ hserved.inFlight q rfl hkey
  obtain ⟨hdst, -, hseen⟩ := hflood.spread.rreqs _ hserved.inFlight q rfl hkey
  have hfresh : n ∉ q.tracePath := fun hmem => hunseen (hseen n hmem)
  have hne : q.previousHop ≠ n := by
    rintro rfl
    exact hfresh (List.mem_of_getLast? htravelled.walk.walk.last)
  have hhops : q.hopCount.toNat < (net.node n).config.maxRreqHops.toNat :=
    UInt8.lt_iff_toNat_lt.mp ha.2
  rw [hcfg, hlimit n hn] at hhops
  exact
    { travelled := htravelled
      link := htravelled.walk.mutual hP hn hcfg ha
      seen := hseen
      fresh := hfresh
      near := hhops
      dst := hdst
      extended := htravelled.walk.extend_of_ne hcfg hne he }

/-- The walk of the RREQ goes on to the node that lets it through. -/
theorem LetThrough.walk (ht : LetThrough D H key d n net q e) (hkey : q.key = key) :
    ∃ path, IsWalk D.Mutual path key.1 n ∧ path.length ≤ H + 1 := by
  have hsrc : q.srcNodeId = key.1 := congrArg Prod.fst hkey
  refine ⟨q.tracePath ++ [n], hsrc ▸ ht.travelled.walk.walk.concat ht.link, ?_⟩
  have hlength := ht.travelled.walk.hops
  have hnear := ht.near
  rw [List.length_append, List.length_singleton]
  omega

/-- What has to be checked of a call that takes the request up. -/
theorem LimitedFlood.call_taken (hflood : LimitedFlood D H key d net) (hP : D.Placed)
    (h : Reachable D F net) (hn : D.Runs n) (hkey : q.key = key)
    (hserved : Served D net n (.packet (.rreq q) sender) origin rest)
    (hretains : (net.node n).Retains clock (.packet (.rreq q) sender))
    (ht : LetThrough D H key d n net q e) (ha : (net.node n).Admits q)
    (hunseen : ¬ net.Seen key n)
    (hrreqs : ∀ o ∈ ((net.node n).call clock (.packet (.rreq q) sender)).2.outbound, ∀ q',
      o.packet = .rreq q' → Travelled D H d o.dst q')
    (hforward : n = d ∨ ∀ m, D.Mutual n m →
      ({ net with inFlight := rest }.call n clock (.packet (.rreq q) sender) origin).Seen key m ∨
      ({ net with inFlight := rest }.call n clock
        (.packet (.rreq q) sender) origin).CopyInFlight D key n m)
    (hreplied : n = d → Call.repliesTo key ⟨n, clock, .packet (.rreq q) sender, net.node n,
      ((net.node n).call clock (.packet (.rreq q) sender)).1,
      ((net.node n).call clock (.packet (.rreq q) sender)).2, origin⟩ = 1) :
    LimitedFlood D H key d
      ({ net with inFlight := rest }.call n clock (.packet (.rreq q) sender) origin) := by
  have hseen : ({ net with inFlight := rest }.call n clock
      (.packet (.rreq q) sender) origin).Seen key n := seen_call_rreq hkey hretains ha
  have hback : ∀ m, ({ net with inFlight := rest }.call n clock
      (.packet (.rreq q) sender) origin).Seen key m → net.Seen key m ∨ m = n :=
    fun m hm => (seen_call_rreq_cases hm).imp_right And.left
  have hreplies : ({ net with inFlight := rest }.call n clock
      (.packet (.rreq q) sender) origin).replies d key =
        (if n = d then 1 else 0) + net.replies d key := by
    show (if n = d then Call.repliesTo key _ else 0) + net.replies d key = _
    split
    · next hd => rw [hreplied hd]
    · rfl
  refine
    { spread := hflood.spread.call hP h hn hserved hretains
      rreqs := ?_
      near := ?_
      frontier := ?_
      answered := ?_
      unanswered := ?_ }
  · intro p hp q' hq' hkey'
    rcases mem_inFlight_call.mp hp with hp | ⟨o, ho, rfl⟩
    · exact hflood.rreqs p (hserved.mem_of_mem_rest hp) q' hq' hkey'
    · exact hrreqs o ho q' hq'
  · intro m hm
    rcases hback m hm with hm | rfl
    · exact hflood.near m hm
    · exact ht.walk hkey
  · refine hflood.frontier.arrive hseen (fun _ => Seen.call hretains) hback ?_
      (.inr (hforward.imp_right fun hall m hR => (hall m hR).imp_right .inl))
    rintro a b hR (hcopy | hdetour)
    · have hruns : D.Runs b := D.runs_of_mem_neighborsOf hR.2
      rcases hcopy.call hP hn hruns hserved with hcopy | ⟨_, _, -, -, -, hb⟩
      · exact .inl (.inl hcopy)
      · exact .inr hb
    · exact .inl (.inr hdetour)
  · intro hd
    rw [hreplies]
    rcases hback d hd with hold | rfl
    · have hnd : n ≠ d := fun heq => hunseen (heq ▸ hold)
      rw [if_neg hnd, hflood.answered hold]
    · rw [if_pos rfl, hflood.unanswered hunseen]
  · intro hd
    have hnd : n ≠ d := by
      rintro rfl
      exact hd hseen
    rw [hreplies, if_neg hnd, hflood.unanswered fun hold => hd (hold.call hretains)]

/-- The destination lets the request through and answers it. -/
theorem LimitedFlood.call_answered (hflood : LimitedFlood D H key d net) (hP : D.Placed)
    (h : Reachable D F net) (hn : D.Runs n) (hkey : q.key = key)
    (hserved : Served D net n (.packet (.rreq q) sender) origin rest)
    (hretains : (net.node n).Retains clock (.packet (.rreq q) sender))
    (ht : LetThrough D H key d n net q e) (ha : (net.node n).Admits q)
    (hunseen : ¬ net.Seen key n) (hnd : n = d)
    (hout : ((net.node n).handleRreq clock q).2.outbound = (net.node n).answers e) :
    LimitedFlood D H key d
      ({ net with inFlight := rest }.call n clock (.packet (.rreq q) sender) origin) := by
  have hprev : D.Runs q.previousHop := D.runs_of_mem_neighborsOf ht.link.1
  have hanswer : ((net.node n).call clock (.packet (.rreq q) sender)).2.outbound =
      [⟨.rrep (generatedRrep e), D.addr q.previousHop⟩] :=
    hout.trans (answers_eq hP (node_config h n) ht.travelled.walk hprev
      (by rw [ht.extended]) ht.fresh)
  have hrrep : (generatedRrep e).key = key := by
    rw [ht.extended]
    exact hkey
  refine hflood.call_taken hP h hn hkey hserved hretains ht ha hunseen ?_ (.inl hnd) fun _ => ?_
  · rw [hanswer]
    intro o ho q' hq'
    rw [List.mem_singleton.mp ho] at hq'
    cases hq'
  · show List.countP (fun o : OutboundPacket => o.packet.isRrepOf key)
      ((net.node n).call clock (.packet (.rreq q) sender)).2.outbound = 1
    rw [hanswer]
    simp [Packet.isRrepOf, hrrep]

/-- Another node lets the request through and passes it on. -/
theorem LimitedFlood.call_forwarded (hflood : LimitedFlood D H key d net) (hP : D.Placed)
    (h : Reachable D F net) (hn : D.Runs n) (hkey : q.key = key)
    (hserved : Served D net n (.packet (.rreq q) sender) origin rest)
    (hretains : (net.node n).Retains clock (.packet (.rreq q) sender))
    (ht : LetThrough D H key d n net q e) (ha : (net.node n).Admits q)
    (hunseen : ¬ net.Seen key n) (hnd : n ≠ d)
    (hout : ((net.node n).handleRreq clock q).2.outbound = (net.node n).rreqCopies e) :
    LimitedFlood D H key d
      ({ net with inFlight := rest }.call n clock (.packet (.rreq q) sender) origin) := by
  have hcfg := node_config h n
  have hid : (net.node n).config.nodeId = n := ProtocolState.nodeId_eq hcfg
  have hcopies : ((net.node n).call clock (.packet (.rreq q) sender)).2.outbound =
      (net.node n).rreqCopies e := hout
  refine hflood.call_taken hP h hn hkey hserved hretains ht ha hunseen ?_ (.inr ?_)
    fun hd => absurd hd hnd
  · rw [hcopies]
    intro o ho q' hq'
    have hdst : (net.node n).config.nodeId ≠ q.dstNodeId := by
      rw [hid, ht.dst]
      exact hnd
    have hwalk : PacketWalk D ⟨o.packet, D.addr n, o.dst, origin⟩ :=
      rreqCopies_walk hP hn hcfg ht.travelled.walk ha ht.extended hdst ho
    obtain ⟨v, -, -, -, hpacket⟩ := mem_rreqCopies.mp ho
    simp only [PacketWalk, hq'] at hwalk
    obtain rfl := Packet.rreq.inj (hq'.symm.trans hpacket)
    refine ⟨hwalk, ?_, ?_⟩
    · rw [ht.extended]
      show (q.hopCount + 1).toNat ≤ H
      rw [ha.hopCount_succ]
      exact ht.near
    · rw [ht.extended]
      show d ∉ q.tracePath ++ [n]
      simp only [List.mem_append, List.mem_singleton, not_or]
      exact ⟨ht.travelled.avoids, hnd.symm⟩
  · intro m hR
    by_cases hm : m = q.previousHop
    · -- The node that it comes from has seen it.
      rw [hm]
      exact .inl ((ht.seen _ (List.mem_of_getLast? ht.travelled.walk.walk.last)).call hretains)
    · have hmem : m ∈ (net.node n).logicalNeighbors := by
        rw [logicalNeighbors_eq hcfg]
        exact hR.1
      have hend := (endpoint_eq_some hP hcfg).mpr ⟨D.runs_of_mem_neighborsOf hR.2, rfl⟩
      have hcopy : (⟨_, D.addr m⟩ : OutboundPacket) ∈ (net.node n).rreqCopies e :=
        mem_rreqCopies.mpr ⟨m, hmem, by rw [ht.extended]; exact hm, hend, rfl⟩
      rw [← hcopies] at hcopy
      refine .inr ⟨_, mem_inFlight_call.mpr (.inr ⟨_, hcopy, rfl⟩), _, rfl, ?_, hid, rfl⟩
      rw [ht.extended]
      exact hkey

end Rreq

/-- Every call keeps the invariant of a request. -/
theorem LimitedFlood.call (hflood : LimitedFlood D H key d net) (hP : D.Placed)
    (hmode : D.AllMode .dsr) (hlimit : D.HopLimit H) (h : Reachable D F net) (hn : D.Runs n)
    (hserved : Served D net n input origin rest) (hretains : (net.node n).Retains clock input) :
    LimitedFlood D H key d ({ net with inFlight := rest }.call n clock input origin) := by
  cases htakes : (net.node n).takes clock key input with
  | false => exact hflood.call_silent hP hlimit h hn hserved hretains htakes
  | true =>
    have hcfg := node_config h n
    have hid : (net.node n).config.nodeId = n := ProtocolState.nodeId_eq hcfg
    have hunseen := hflood.spread.unseen_of_takes h hretains htakes
    rcases takes_iff.mp htakes with hpasses | hstarted
    · obtain ⟨q, sender, rfl, ha, hkey, -⟩ := passes_iff.mp hpasses
      have hlabel : (net.node n).Admits q → ∃ e, (net.node n).extendRreq q = some e := by
        intro _
        have hdsr : (net.node n).config.protocolMode = .dsr := by
          rw [hcfg]
          exact hmode n hn
        exact extendRreq_of_learnt hdsr fun heq => by cases heq
      rcases handleRreq_cases hretains hlabel with
        ⟨hrefused, -⟩ | ⟨-, hold, -⟩ | ⟨-, -, e, he, hout⟩
      · exact absurd ha hrefused
      · exact absurd (hkey ▸ hold) hunseen
      · have ht := hflood.letThrough hP hlimit h hn hkey hserved ha hunseen he
        rcases hout with ⟨hme, hout⟩ | ⟨hme, hout⟩
        · exact hflood.call_answered hP h hn hkey hserved hretains ht ha hunseen
            (hid.symm.trans (hme.trans ht.dst)) hout
        · exact hflood.call_forwarded hP h hn hkey hserved hretains ht ha hunseen
            (fun heq => hme (hid.trans (heq.trans ht.dst.symm))) hout
    · exact absurd hstarted (hflood.spread.not_startedBy h)

end Call

/-- Every step keeps the invariant of a request. -/
theorem LimitedFlood.step (hflood : LimitedFlood D H key d net) (hP : D.Placed)
    (hmode : D.AllMode .dsr) (hlimit : D.HopLimit H) (hloss : F.loss = false)
    (hdup : F.duplication = false) (hF : F.restarts = false) (h : Reachable D F net)
    (hs : StepCases D F net net') (hretains : ∀ c ∈ callsOf net'.history, c.Retains) :
    LimitedFlood D H key d net' := by
  cases hs with
  | call hn hserved =>
    exact hflood.call hP hmode hlimit h hn hserved (hretains _ mem_callsOf_call)
  | lose hF' =>
    rw [hloss] at hF'
    cases hF'
  | duplicate hF' =>
    rw [hdup] at hF'
    cases hF'
  | restart hF' =>
    rw [hF] at hF'
    cases hF'
  | reorder hr =>
    have hnode := reorder_seen key hr
    exact
      { spread := hflood.spread.reorder hr
        rreqs := hflood.rreqs
        near := fun m hm => hflood.near m ((hnode m).2.mp hm)
        frontier := hflood.frontier.mono (fun m => (hnode m).2) fun _ _ _ hcrossing => hcrossing
        answered := fun hd => hflood.answered ((hnode d).2.mp hd)
        unanswered := fun hd => hflood.unanswered fun hold => hd ((hnode d).2.mpr hold) }

/-! ## What a request finds -/

/-- The invariant holds from the start of a request on. -/
theorem limitedFlood_of_run (hP : D.Placed) (hmode : D.AllMode .dsr) (hlimit : D.HopLimit H)
    (hloss : F.loss = false) (hdup : F.duplication = false) (hF : F.restarts = false)
    {net₀ net₁ : Network} (h₀ : Reachable D F net₀) {requestId : Nat} {clock : Clock}
    {input : Input} (hstart : net₀.perform D (.act s clock input) = some net₁)
    (hdisc : (net₀.node s).Discovers clock input requestId d) (hne : d ≠ s)
    (hrun : Run D F net₁ net) (hretains : ∀ c ∈ callsOf net.history, c.Retains) :
    LimitedFlood D H (s, requestId) d net := by
  have hstep : Step D F net₀ net₁ := .action (.act s clock input) rfl hstart
  have h₁ : Reachable D F net₁ := h₀.tail hstep
  simp only [perform, Option.ite_none_right_eq_some, Option.some.injEq] at hstart
  obtain ⟨⟨-, hlocal⟩, rfl⟩ := hstart
  refine run_induction (fun net => (∀ c ∈ callsOf net.history, c.Retains) →
    LimitedFlood D H (s, requestId) d net) h₁ ?_ ?_ hrun hretains
  · intro hretains
    -- A request whose number is free has not been started.
    have hfresh : Unstarted net₀ (s, requestId) := by
      have hold : ∀ c ∈ callsOf net₀.history, c.Retains :=
        fun c hc => hretains c (List.mem_cons_of_mem _ hc)
      rcases (taken_and_spread hP hF h₀ hold (s, requestId)).2 with hfresh | ⟨d, hspread⟩
      · exact hfresh
      · have hfree : (net₀.node s).nextRequestId ≤ requestId := hdisc.1.2.1
        exact absurd hspread.used (by simpa using hfree)
    exact limitedFlood_start hP hF h₀ hfresh hlocal hdisc (hretains _ List.mem_cons_self) hne
  · intro net net' hreach ih hs hretains
    have hflood := ih fun c hc => hretains c (callsOf_mono hs hc)
    exact hflood.step hP hmode hlimit hloss hdup hF hreach hs hretains

/-- When no copy is in flight, a destination within the hop limit that has not answered lies
behind a detour. -/
theorem LimitedFlood.detour (hflood : LimitedFlood D H key d net)
    (hquiet : ∀ p ∈ net.inFlight, p.packet.isRreqOf key = false) (hunseen : ¬ net.Seen key d)
    {path : List NodeId} (hwalk : IsWalk D.Mutual path key.1 d) (hshort : path.length ≤ H + 1) :
    ∃ i x y, 0 < i ∧ path[i]? = some x ∧ path[i + 1]? = some y ∧ Detour D H key.1 d x y := by
  obtain ⟨i, x, y, hx, hy, -, hcopy | hdetour⟩ :=
    hflood.frontier.exists_crossing hwalk hflood.spread.source hunseen
  · obtain ⟨p, hp, q, hq, hkey, -⟩ := hcopy
    have hcopy := hquiet p hp
    rw [hq] at hcopy
    exact absurd hkey (by simpa [Packet.isRreqOf] using hcopy)
  refine ⟨i, x, y, Nat.pos_of_ne_zero fun hzero => ?_, hx, hy, hdetour⟩
  -- A simple path from the source to itself has no links.
  subst hzero
  obtain rfl : key.1 = x := Option.some.inj (hwalk.getElem?_zero.symm.trans hx)
  obtain ⟨detour, hloop, hnodup, hlength, -, -⟩ := hdetour
  have hlast : detour[0]? = detour[detour.length - 1]? :=
    hloop.getElem?_zero.trans hloop.getElem?_last.symm
  have hpos := hloop.length_pos
  have hzero := (List.getElem?_inj hpos hnodup).mp hlast
  have hlink := (List.getElem?_eq_some_iff.mp hy).1
  omega

/-- **What the hop limit bounds.** In a network of DSR nodes that loses and duplicates
nothing and whose caches retain what they have seen, let `s` start a request for another
node `d`. In every order of the deliveries, `d` answers the request at most once, and only
if a path within the hop limit joins it to `s`. And if there is such a path, then, once
no copy of the request is in flight, `d` has answered it, or some inner node of the path
lies at the end of a detour, from which it could not pass the request on along the path. -/
theorem found_unless_detour (hP : D.Placed) (hmode : D.AllMode .dsr) (hlimit : D.HopLimit H)
    (hloss : F.loss = false) (hdup : F.duplication = false) (hF : F.restarts = false)
    {net₀ net₁ : Network} (h₀ : Reachable D F net₀) {requestId : Nat} {clock : Clock}
    {input : Input} (hstart : net₀.perform D (.act s clock input) = some net₁)
    (hdisc : (net₀.node s).Discovers clock input requestId d) (hne : d ≠ s)
    (hrun : Run D F net₁ net) (hretains : ∀ c ∈ callsOf net.history, c.Retains) :
    net.replies d (s, requestId) ≤ 1 ∧
      (net.replies d (s, requestId) = 1 →
        ∃ path, IsWalk D.Mutual path s d ∧ path.length ≤ H + 1) ∧
      ((∀ p ∈ net.inFlight, p.packet.isRreqOf (s, requestId) = false) →
        ∀ path, IsWalk D.Mutual path s d → path.length ≤ H + 1 →
          net.replies d (s, requestId) = 1 ∨
            ∃ i x y, 0 < i ∧ path[i]? = some x ∧ path[i + 1]? = some y ∧
              Detour D H s d x y) := by
  have hflood := limitedFlood_of_run hP hmode hlimit hloss hdup hF h₀ hstart hdisc hne hrun hretains
  by_cases hd : net.Seen (s, requestId) d
  · have hone := hflood.answered hd
    exact ⟨hone.le, fun _ => hflood.near d hd, fun _ _ _ _ => .inl hone⟩
  · have hzero := hflood.unanswered hd
    refine ⟨by omega, fun hone => by omega, fun hquiet path hwalk hshort => .inr ?_⟩
    exact hflood.detour hquiet hd hwalk hshort

/-! ## Two orders of the same deliveries -/

/-- Node 2 is a neighbour of node 0, which also reaches it through node 1, and node 3 hangs
on node 2. The hop limit is 2. -/
def shortcut : Deployment :=
  .onLocalhost { NodeConfig.testSettings .dsr with maxRreqHops := 2 }
    [(0, [1, 2]), (1, [0, 2]), (2, [0, 1, 3]), (3, [2])]

/-- Node 0 looks for node 3. -/
def lookForThree : Action := .act 0 tenMillis (.command (.discoverAndSend 3 [7]))

/-- The copy that went through node 1 reaches node 2 before the copy of node 0. -/
def detourFirst : List Action :=
  [lookForThree, .deliver 0 1 tenMillis, .deliver 1 2 tenMillis, .deliver 0 2 tenMillis,
   .deliver 0 0 tenMillis, .deliver 0 3 tenMillis]

/-- The copy of node 0 reaches node 2 first. -/
def shortcutFirst : List Action :=
  [lookForThree, .deliver 1 2 tenMillis, .deliver 0 1 tenMillis, .deliver 0 1 tenMillis,
   .deliver 0 3 tenMillis, .deliver 0 2 tenMillis]

theorem symmetric_of_nodes (h : (D.topology.nodes.all fun node =>
    node.neighbors.all fun m => (D.neighborsOf m).contains node.nodeId) = true) :
    D.Symmetric := by
  intro a b hb
  obtain ⟨node, hmem, rfl, hneighbor⟩ := Deployment.mem_node_of_mem_neighborsOf hb
  exact List.contains_iff_mem.mp (List.all_eq_true.mp (List.all_eq_true.mp h node hmem) b hneighbor)

theorem shortcut_placed : shortcut.Placed :=
  ⟨by decide +kernel, by decide +kernel, by decide +kernel⟩

theorem shortcut_hopLimit : shortcut.HopLimit 2 := fun _ _ => rfl

/-- A path of two links leads from node 0 to node 3. -/
theorem shortcut_walk : IsWalk shortcut.Mutual [0, 2, 3] 0 3 :=
  IsWalk.concat (IsWalk.concat (.single 0) ⟨by decide, by decide⟩) ⟨by decide, by decide⟩

theorem shortcut_start : (init shortcut).perform shortcut lookForThree =
    some ((init shortcut).call 0 tenMillis (.command (.discoverAndSend 3 [7])) 0) := by
  simp only [lookForThree, perform]
  exact if_pos ⟨by decide, rfl⟩

theorem shortcut_discovers : ((init shortcut).node 0).Discovers tenMillis
    (.command (.discoverAndSend 3 [7])) 1 3 :=
  ⟨⟨rfl, by decide, by decide +kernel⟩, 10, by decide +kernel⟩

theorem missed_run : Run shortcut ⟨false, false, false⟩
    ((init shortcut).call 0 tenMillis (.command (.discoverAndSend 3 [7])) 0)
    (after shortcut ⟨false, false, false⟩ detourFirst) :=
  run_of_after shortcut_start (by decide +kernel)

/-- Node 3 does not answer, and the node that is cut off is node 2. -/
theorem found_unless_detour_shortcut :
    (after shortcut ⟨false, false, false⟩ detourFirst).replies 3 (0, 1) = 0 ∧
      ∃ i x y, 0 < i ∧ [0, 2, 3][i]? = some x ∧ [0, 2, 3][i + 1]? = some y ∧
        Detour shortcut 2 0 3 x y := by
  have hzero : (after shortcut ⟨false, false, false⟩ detourFirst).replies 3 (0, 1) = 0 := by
    decide +kernel
  obtain ⟨-, -, hfound⟩ := found_unless_detour shortcut_placed (fun _ _ => rfl) shortcut_hopLimit
    rfl rfl rfl .refl shortcut_start shortcut_discovers (by decide) missed_run (by decide +kernel)
  refine ⟨hzero, (hfound (by decide +kernel) [0, 2, 3] shortcut_walk (by decide)).resolve_left ?_⟩
  intro hone
  have hone : (after shortcut ⟨false, false, false⟩ detourFirst).replies 3 (0, 1) = 1 := hone
  omega

/-- In every order of the deliveries, a destination within the hop limit answers. -/
def FindsWithinLimit : Prop :=
  ∀ (D : Deployment) (H : Nat), D.Placed → D.Symmetric → D.AllMode .dsr → D.HopLimit H →
    ∀ (net₀ net₁ net : Network) (s d : NodeId) (requestId : Nat) (clock : Clock) (input : Input)
      (path : List NodeId), Reachable D ⟨false, false, false⟩ net₀ →
      net₀.perform D (.act s clock input) = some net₁ →
      (net₀.node s).Discovers clock input requestId d → d ≠ s →
      IsWalk D.Mutual path s d → path.length ≤ H + 1 →
      Run D ⟨false, false, false⟩ net₁ net → (∀ c ∈ callsOf net.history, c.Retains) →
      (∀ p ∈ net.inFlight, p.packet.isRreqOf (s, requestId) = false) →
      net.replies d (s, requestId) ≠ 0

/-- A destination within the hop limit may be missed, and whether it is missed depends on
the order of the deliveries alone. -/
theorem missed_within_limit : ¬ FindsWithinLimit ∧
    (let missed := after shortcut ⟨false, false, false⟩ detourFirst
     missed.replies 3 (0, 1) = 0 ∧
      ∀ p ∈ missed.inFlight, p.packet.isRreqOf (0, 1) = false) ∧
    (let found := after shortcut ⟨false, false, false⟩ shortcutFirst
     found.replies 3 (0, 1) = 1 ∧
      ∀ p ∈ found.inFlight, p.packet.isRreqOf (0, 1) = false) := by
  refine ⟨fun hfinds => ?_, ⟨by decide +kernel, by decide +kernel⟩, by decide +kernel,
    by decide +kernel⟩
  exact hfinds shortcut 2 shortcut_placed (symmetric_of_nodes (by decide +kernel))
    (fun _ _ => rfl) shortcut_hopLimit _ _ _ 0 3 1 tenMillis _ [0, 2, 3] .refl shortcut_start
    shortcut_discovers (by decide) shortcut_walk (by decide) missed_run (by decide +kernel)
    (by decide +kernel) (by decide +kernel)

end Network

end DlDsr
