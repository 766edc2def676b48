import DlDsr.Network.Completeness
import DlDsr.Network.Conservation
import DlDsr.Network.Handshake
import DlDsr.Node.Discovery
import DlDsr.Node.Rounds

/-!
# From submission to delivery

A payload that has to wait is never forgotten. While it waits there is a discovery of its
destination, and the latest round of that discovery has a flood under way that `s` has not
heard back from (`Sought`); this goes on over every call, the retries of a tick included,
which give up one flood and start the next. In a network that loses and duplicates
nothing, a flood that is no longer in flight has been answered. So once the requests of
`s` have died down, nothing waits there for a node it is connected to, and what it has
submitted is delivered, as often as it was submitted, unless a discovery has run out of
retries (`submissions_settled`).
-/

namespace DlDsr

/-- Of elements that are told apart by `f`, only one has its value. -/
theorem List.flatMap_ite_eq {α β γ : Type} [DecidableEq γ] {l : List α} {f : α → γ} {x : α}
    (g : α → List β) (hnodup : (l.map f).Nodup) (hx : x ∈ l) :
    (l.flatMap fun y => if f y = f x then g y else []) = g x := by
  obtain ⟨l₁, l₂, rfl⟩ := List.append_of_mem hx
  rw [List.map_append, List.map_cons, List.nodup_append] at hnodup
  obtain ⟨-, hright, hleft⟩ := hnodup
  have hbefore : (l₁.flatMap fun y => if f y = f x then g y else []) = [] := by
    refine List.flatMap_eq_nil_iff.mpr fun y hy => if_neg ?_
    exact hleft _ (List.mem_map_of_mem hy) _ List.mem_cons_self
  have hafter : (l₂.flatMap fun y => if f y = f x then g y else []) = [] := by
    refine List.flatMap_eq_nil_iff.mpr fun y hy => if_neg fun heq => ?_
    exact (List.nodup_cons.mp hright).1 (heq ▸ List.mem_map_of_mem hy)
  rw [List.flatMap_append, List.flatMap_cons, hbefore, hafter, if_pos rfl, List.append_nil,
    List.nil_append]

/-- The packet belongs to a request or carries a payload of node `s`. -/
def Packet.isOf (s : NodeId) : Packet → Bool
  | .rreq q => q.srcNodeId = s
  | .rrep p => p.srcNodeId = s
  | .data d => d.srcNodeId = s
  | _ => false

namespace ProtocolState

variable {s : ProtocolState} {clock : Clock} {input : Input}

/-- Every round that a call originates is the start of a discovery. -/
theorem discovers_of_mem_rounds {round : Round} (h : round ∈ s.rounds clock input) :
    s.Discovers clock input round.requestId round.dstNodeId := by
  obtain ⟨hids, hnext⟩ := rounds_requestIds s clock input
  have hid : round.requestId ∈ List.range' s.nextRequestId (s.rounds clock input).length := by
    rw [← hids]
    exact List.mem_map_of_mem h
  rw [List.mem_range'_1] at hid
  have hnodup : ((s.rounds clock input).map Round.requestId).Nodup := by
    rw [hids]
    exact List.nodup_range'
  refine ⟨⟨rfl, hid.1, by rw [hnext]; exact hid.2⟩, round.sentAtMillis, ?_⟩
  rw [rounds_outbound s clock input (List.ne_nil_of_mem h), List.filter_flatMap]
  rw [List.flatMap_congr fun r _ => filter_floodRreq s r.sentAtMillis r.dstNodeId r.requestId
    round.requestId]
  exact List.flatMap_ite_eq s.floodRound hnodup h

theorem tracked_new (config : NodeConfig) : (new config).Tracked := by
  intro d
  constructor
  · rintro ⟨p, hp, -⟩
    exact absurd hp List.not_mem_nil
  · intro hd
    exact absurd hd (AList.notMem_empty d)

/-- A call that reports a route has ended the discovery. -/
theorem lookup_of_routeCached {n d : NodeId} {requestId : Nat}
    (h : .routeCached n d requestId ∈ (s.call clock input).2.events) :
    (s.call clock input).1.discoveries.lookup d = none := by
  cases announces_of_mem h with
  | routeCached p sender hok hsrc =>
    rw [call_of_accepted hok hsrc]
    obtain ⟨_, _, hstate⟩ := acceptRrep_state s clock p
    rw [hstate]
    exact AList.lookup_erase _ _

end ProtocolState

namespace Network

open ProtocolState

variable {D : Deployment} {F : Faults} {net₀ net net' : Network} {mode : ProtocolMode}
  {s d : NodeId} {state : DiscoveryState}

/-- The discovery of `d` that was outstanding in `net₀` is still waiting for its first
retry since: no tick has found it overdue. -/
structure Unretried (D : Deployment) (s d : NodeId) (state : DiscoveryState)
    (net₀ net : Network) : Prop where
  before : (net₀.node s).discoveries.lookup d = some state
  waits : ∀ c ∈ since net₀ net, c.nodeId = s → ∀ now, c.input = .tick now →
    now - state.lastSentMillis < (D.config s).routeDiscoveryTimeoutMs

/-- Every outstanding discovery of `s` for a node that it is connected to was outstanding
in `net₀` already, or it has a flood under way and `s` has not been told of a route yet. -/
def Sought (D : Deployment) (s : NodeId) (net₀ net : Network) : Prop :=
  ∀ d state, (net.node s).discoveries.lookup d = some state → d ≠ s →
    Relation.ReflTransGen D.Mutual s d → Unretried D s d state net₀ net ∨
      Flooding D (s, state.requestId) d net ∧ net.routesCached (s, state.requestId) d = 0

/-- Calls of other nodes, and calls that find the discovery in time, leave it as it is. -/
theorem Unretried.step (h : Unretried D s d state net₀ net) (hrun : Run D .reliable net₀ net)
    (hs : StepCases D .reliable net net')
    (hwaits : ∀ c ∈ since net net', c.nodeId = s → ∀ now, c.input = .tick now →
      now - state.lastSentMillis < (D.config s).routeDiscoveryTimeoutMs) :
    Unretried D s d state net₀ net' where
  before := h.before
  waits := by
    rw [since_step hrun hs]
    intro c hc
    rcases List.mem_append.mp hc with hc | hc
    · exact hwaits c hc
    · exact h.waits c hc

/-- A call that does not report the route leaves the count as it is. -/
theorem routesCached_call {n : NodeId} {clock : Clock} {input : Input} {origin requestId : Nat}
    {rest : List InFlight}
    (h : n = s → .routeCached s d requestId ∉ ((net.node s).call clock input).2.events) :
    ({ net with inFlight := rest }.call n clock input origin).routesCached (s, requestId) d =
      net.routesCached (s, requestId) d := by
  show (if n = s then List.count _ _ else 0) + net.routesCached (s, requestId) d = _
  by_cases hn : n = s
  · subst hn
    rw [if_pos rfl, List.count_eq_zero.mpr (h rfl), Nat.zero_add]
  · rw [if_neg hn, Nat.zero_add]

/-- What a call of `s` itself does to what is sought. -/
theorem Sought.call_self (hU : D.Uniform mode) (hF : F.restarts = false)
    (h : Reachable D F net) (hrun : Run D .reliable net₀ net) (hsought : Sought D s net₀ net)
    {clock : Clock} {input : Input} {origin : Nat} {rest : List InFlight} (hn : D.Runs s)
    (hserved : Served D net s input origin rest)
    (hretains : (net.node s).Retains clock input)
    (hstep : ∀ key d, Flooding D key d net →
      Flooding D key d ({ net with inFlight := rest }.call s clock input origin)) :
    Sought D s net₀ ({ net with inFlight := rest }.call s clock input origin) := by
  intro d state hstate hne hconnected
  rw [call_node_self] at hstate
  have hstate : ((net.node s).call clock input).1.discoveries.lookup d = some state := hstate
  have hquiet : ∀ requestId,
      .routeCached s d requestId ∉ ((net.node s).call clock input).2.events := by
    intro requestId hmem
    rw [lookup_of_routeCached hmem] at hstate
    cases hstate
  -- A round that the call originates for `d` starts a flood.
  have hfresh : ∀ requestId sentAt,
      roundsFor d ((net.node s).rounds clock input) = [⟨requestId, d, sentAt⟩] →
      input.isLocal = true →
      Flooding D (s, requestId) d ({ net with inFlight := rest }.call s clock input origin) ∧
        ({ net with inFlight := rest }.call s clock input origin).routesCached
          (s, requestId) d = 0 := by
    intro requestId sentAt hrounds hlocal
    have hmem : (⟨requestId, d, sentAt⟩ : Round) ∈ (net.node s).rounds clock input := by
      have hmem : (⟨requestId, d, sentAt⟩ : Round) ∈
          roundsFor d ((net.node s).rounds clock input) := by
        rw [hrounds]
        exact List.mem_cons_self
      exact List.mem_of_mem_filter hmem
    have hdisc := discovers_of_mem_rounds hmem
    have hfresh : Untouched net (s, requestId) d := untouched_of_le hF h hdisc.started.2.1 d
    cases hserved with
    | act =>
      refine ⟨flooding_start hU hF h hlocal hdisc hretains hne, ?_⟩
      rw [routesCached_call fun _ => hquiet requestId]
      exact hfresh.routesCached
    | deliver => cases hlocal
  have hdstep := call_discoveryStep (net.node s) clock input d
  rw [hstate] at hdstep
  generalize hafter : some state = after, hnew : roundsFor d ((net.node s).rounds clock input) =
    rounds at hdstep
  cases hdstep with
  | kept _ hwait =>
    rcases hsought d state hafter.symm hne hconnected with hold | ⟨hflood, hnone⟩
    · refine .inl (hold.step hrun (.call hn hserved) fun c hc _ now hinput => ?_)
      rw [since_call, List.mem_singleton] at hc
      subst hc
      rw [← node_config h s]
      exact hwait now state hinput hafter.symm
    · refine .inr ⟨hstep _ _ hflood, ?_⟩
      rw [routesCached_call fun _ => hquiet state.requestId]
      exact hnone
  | answered => cases hafter
  | opened payload requestId sentAt =>
    cases hafter
    exact .inr (hfresh requestId sentAt hnew rfl)
  | retried now requestId sentAt old =>
    cases hafter
    exact .inr (hfresh requestId sentAt hnew rfl)
  | failed => cases hafter

/-- Every step of a transport that neither loses nor duplicates keeps what is sought. -/
theorem Sought.step (hU : D.Uniform mode) (hF : F.restarts = false)
    (hhops : ∀ n, D.Runs n → D.topology.nodes.length ≤ (D.config n).maxRreqHops.toNat)
    (hlearnt : mode = .dlDsr → Learnt D net) (h : Reachable D F net) (hrun : Run D .reliable net₀ net)
    (hs : StepCases D .reliable net net') (hretains : ∀ c ∈ since net net', c.Retains)
    (hsought : Sought D s net₀ net) : Sought D s net₀ net' := by
  have hstep : ∀ key d, Flooding D key d net → Flooding D key d net' :=
    fun key d hflood => hflood.step_since hU rfl rfl rfl hhops hlearnt h hs hretains
  have hkeeps : ∀ {d state}, Unretried D s d state net₀ net →
      (∀ c ∈ since net net', c.nodeId ≠ s) → Unretried D s d state net₀ net' :=
    fun hold hothers => hold.step hrun hs fun c hc hself => absurd hself (hothers c hc)
  cases hs with
  | @call n clock input origin rest hn hserved =>
    rw [since_call] at hretains
    by_cases hns : s = n
    · subst hns
      exact hsought.call_self hU hF h hrun hn hserved (hretains _ List.mem_cons_self) hstep
    · intro d state hstate hne hconnected
      rw [call_node_other hns] at hstate
      rcases hsought d state hstate hne hconnected with hold | ⟨hflood, hnone⟩
      · refine .inl (hkeeps hold fun c hc => ?_)
        rw [since_call, List.mem_singleton] at hc
        subst hc
        exact Ne.symm hns
      · refine .inr ⟨hstep _ _ hflood, ?_⟩
        rw [routesCached_call fun heq => absurd heq.symm hns]
        exact hnone
  | lose hF => cases hF
  | duplicate hF => cases hF
  | restart hF => cases hF
  | @reorder n s' hr =>
    intro d state hstate hne hconnected
    have hlookup : (net.node s).discoveries.lookup d = some state := by
      have hsame : (Function.update net.node n s' s).discoveries.lookup d =
          (net.node s).discoveries.lookup d :=
        update_node_eq (fun t => t.discoveries.lookup d) (hr.discoveries.lookup_eq d).symm s
      rw [← hsame]
      exact hstate
    rcases hsought d state hlookup hne hconnected with hold | ⟨hflood, hnone⟩
    · refine .inl (hkeeps hold fun c hc => ?_)
      rw [since_reorder] at hc
      cases hc
    · exact .inr ⟨hstep _ _ hflood, hnone⟩

/-- Calls of a run retain what they have seen if those of a longer run do. -/
theorem retains_since (hrun : Run D F net₀ net) (hs : StepCases D F net net')
    (hretains : ∀ c ∈ since net₀ net', c.Retains) :
    (∀ c ∈ since net₀ net, c.Retains) ∧ ∀ c ∈ since net net', c.Retains := by
  rw [since_step hrun hs] at hretains
  exact ⟨fun c hc => hretains c (List.mem_append_right _ hc),
    fun c hc => hretains c (List.mem_append_left _ hc)⟩

/-- The queue and the discoveries of every node are in step. -/
theorem tracked_node (h : Reachable D F net) (n : NodeId) : (net.node n).Tracked := by
  have hlocal : LocalInvariant D (fun _ => Tracked) (fun _ => True) :=
    { new := fun n => tracked_new _
      reorder := fun htracked hr =>
        htracked.of_eq hr.pendingData fun _ => (AList.mem_of_perm hr.discoveries).symm
      node := fun _ _ htracked _ => call_tracked _ htracked
      packet := fun _ _ _ _ _ => trivial }
  exact (hlocal.reachable h).1 n

/-- At first, every outstanding discovery is an old one. -/
theorem sought_self (D : Deployment) (s : NodeId) (net : Network) : Sought D s net net := by
  refine fun d state hstate _ _ => .inl ⟨hstate, fun c hc => ?_⟩
  rw [since_self] at hc
  cases hc

/-- Labels stay learnt, and what is sought goes on, as long as nothing goes wrong. -/
theorem sought_of_run (hU : D.Uniform mode) (hF : F.restarts = false)
    (hhops : ∀ n, D.Runs n → D.topology.nodes.length ≤ (D.config n).maxRreqHops.toNat)
    (h₀ : Reachable D F net₀) (hlearnt : mode = .dlDsr → Learnt D net₀)
    (hrun : Run D .reliable net₀ net) (hretains : ∀ c ∈ since net₀ net, c.Retains) :
    (mode = .dlDsr → Learnt D net) ∧ Sought D s net₀ net := by
  refine later_induction (fun net => (∀ c ∈ since net₀ net, c.Retains) →
    (mode = .dlDsr → Learnt D net) ∧ Sought D s net₀ net) Faults.permits_of_reliable h₀ ?_ ?_
    hrun hretains
  · exact fun _ => ⟨hlearnt, sought_self D s net₀⟩
  · intro net net' hreach hrun ih hs hretains
    obtain ⟨hbefore, hnow⟩ := retains_since hrun hs hretains
    obtain ⟨hlabels, hsought⟩ := ih hbefore
    exact ⟨fun hmode => (hlabels hmode).step rfl hs,
      hsought.step hU hF hhops hlabels hreach hrun hs hnow⟩

/-! ## Once the packets of a node have died down -/

/-- No RREQ, RREP or DATA of node `s` is in flight. -/
def DiedDown (net : Network) (s : NodeId) : Prop :=
  ∀ p ∈ net.inFlight, p.packet.isOf s = false

instance (net : Network) (s : NodeId) : Decidable (DiedDown net s) :=
  inferInstanceAs (Decidable (∀ p ∈ net.inFlight, _))

theorem DiedDown.requestKey_ne (hquiet : DiedDown net s) (requestId : Nat) :
    ∀ p ∈ net.inFlight, p.packet.requestKey ≠ some (s, requestId) := by
  intro p hp hkey
  have hidle := hquiet p hp
  cases hpacket : p.packet with
  | rreq q =>
    rw [hpacket] at hkey hidle
    exact of_decide_eq_false hidle (congrArg Prod.fst (Option.some.inj hkey))
  | rrep a =>
    rw [hpacket] at hkey hidle
    exact of_decide_eq_false hidle (congrArg Prod.fst (Option.some.inj hkey))
  | _ =>
    rw [hpacket] at hkey
    cases hkey

/-- What has been sought since has a packet in flight. -/
theorem Sought.unretried (hsought : Sought D s net₀ net) (hquiet : DiedDown net s) (hne : d ≠ s)
    (hconnected : Relation.ReflTransGen D.Mutual s d)
    (hstate : (net.node s).discoveries.lookup d = some state) :
    Unretried D s d state net₀ net := by
  rcases hsought d state hstate hne hconnected with hold | ⟨hflood, hnone⟩
  · exact hold
  · have hsettled := hflood.settled (hquiet.requestKey_ne state.requestId) hconnected
    omega

theorem count_sum_eq_zero {l : List (Multiset Submission)} {t : Submission}
    (h : ∀ m ∈ l, t ∉ m) : l.sum.count t = 0 := by
  induction l with
  | nil => rfl
  | cons m l ih =>
    rw [List.sum_cons, Multiset.count_add, Multiset.count_eq_zero.mpr (h m List.mem_cons_self),
      ih fun m' hm' => h m' (List.mem_cons_of_mem _ hm')]

theorem count_carried_eq_zero (hquiet : DiedDown net s) (payload : List UInt8) :
    net.carried.count ⟨s, d, payload⟩ = 0 := by
  refine count_sum_eq_zero fun m hm ht => ?_
  obtain ⟨packet, hpacket, rfl⟩ := List.mem_map.mp hm
  obtain ⟨p, hp, rfl⟩ := List.mem_map.mp hpacket
  have hidle := hquiet p hp
  cases hdata : p.packet with
  | data q =>
    rw [hdata] at ht hidle
    have hsrc := congrArg Submission.srcNodeId (Multiset.mem_singleton.mp ht)
    exact of_decide_eq_false hidle hsrc.symm
  | _ =>
    rw [hdata] at ht
    exact absurd ht (Multiset.notMem_zero _)

/-- Only failed discoveries discard payloads. -/
theorem count_discarded_eq_zero (h : Reachable D F net) {calls : List Call}
    (hcalls : ∀ c ∈ calls, c ∈ callsOf net.history)
    (hok : ∀ c ∈ calls, ∀ attempts, .routeDiscoveryFailed s d attempts ∉ c.actions.events)
    (payload : List UInt8) :
    (calls.map fun c : Call => c.before.discarded c.actions.events).sum.count ⟨s, d, payload⟩ = 0 := by
  refine count_sum_eq_zero fun m hm ht => ?_
  obtain ⟨c, hc, rfl⟩ := List.mem_map.mp hm
  obtain ⟨q, hq, heq⟩ := List.mem_map.mp (Multiset.mem_coe.mp ht)
  obtain ⟨-, hlost⟩ := List.mem_filter.mp hq
  obtain ⟨e, he, hfails⟩ := List.any_eq_true.mp hlost
  cases e with
  | routeDiscoveryFailed n dst attempts =>
    have hresult := (result_of_mem_callsOf h (hcalls c hc)).1
    have hactions : c.actions = (c.before.call c.clock c.input).2 := congrArg Prod.snd hresult
    have hsrc : c.before.config.nodeId = s := congrArg Submission.srcNodeId heq
    have hdst : q.dstNodeId = d := congrArg Submission.dstNodeId heq
    have hn : n = c.before.config.nodeId := by
      rw [hactions] at he
      generalize c.input = input at he
      cases announces_of_mem he with
      | discoveryFailed => rfl
    obtain rfl : dst = q.dstNodeId := eq_of_beq hfails
    exact hok c hc attempts (by rw [← hsrc, ← hn, ← hdst]; exact he)
  | _ => cases hfails

/-- What has become of the payloads that `s` has submitted for `d`. -/
structure SubmissionsSettled (net : Network) (s d : NodeId) : Prop where
  nothingWaits : ∀ q ∈ (net.node s).pendingData, q.dstNodeId ≠ d
  accounted : ∀ payload, net.submitted.count ⟨s, d, payload⟩ =
    net.delivered.count ⟨s, d, payload⟩ + net.discarded.count ⟨s, d, payload⟩
  delivered : (∀ c ∈ callsOf net.history, ∀ attempts,
      .routeDiscoveryFailed s d attempts ∉ c.actions.events) →
    ∀ payload, net.submitted.count ⟨s, d, payload⟩ = net.delivered.count ⟨s, d, payload⟩

/-- **From submission to delivery.** In a network that loses and duplicates nothing, which
in DL-DSR mode has completed its greetings before `s` first had to queue anything, once the
packets of `s` have died down no payload waits there for a node `d` that it is connected
to over mutual links: all of them have been delivered, each as often as it was submitted,
but for those that a failed discovery of `d` has discarded. -/
theorem submissions_settled (hU : D.Uniform mode) (hloss : F.loss = false)
    (hdup : F.duplication = false) (hF : F.restarts = false)
    (hhops : ∀ n, D.Runs n → D.topology.nodes.length ≤ (D.config n).maxRreqHops.toNat)
    {net₀ : Network} (h₀ : Reachable D F net₀)
    (hgreetings : mode = .dlDsr → GreetingsArrived net₀ ∧ (∀ n, D.Runs n → Greeted net₀ n) ∧
      ∀ a, (D.mutualsOf a).card ≤ 255)
    (hempty : (net₀.node s).pendingData = []) (hrun : Run D F net₀ net)
    (hretains : ∀ c ∈ callsOf net.history, c.Retains) (hquiet : DiedDown net s) (hne : d ≠ s)
    (hconnected : Relation.ReflTransGen D.Mutual s d) : SubmissionsSettled net s d := by
  have h : Reachable D F net := h₀.trans hrun
  have hlearnt : mode = .dlDsr → Learnt D net₀ := by
    intro hmode
    obtain ⟨harrived, hgreeted, hfew⟩ := hgreetings hmode
    exact learnt_of_introduced hfew
      (introduced_everywhere hU.placed hU.noSelf .refl hloss hF h₀ harrived fun n hn =>
        (hgreeted n hn).since_init)
  obtain rfl : F = .reliable := by
    cases F
    cases hloss
    cases hdup
    cases hF
    rfl
  have hsought : Sought D s net₀ net :=
    (sought_of_run hU hF hhops h₀ hlearnt hrun fun c hc =>
      hretains c (by rw [callsOf_run hrun]; exact List.mem_append_left _ hc)).2
  have hidle : d ∉ (net.node s).discoveries := by
    intro hmem
    obtain ⟨state, hstate⟩ := Option.isSome_iff_exists.mp (AList.lookup_isSome.mpr hmem)
    have hold := (hsought.unretried hquiet hne hconnected hstate).before
    obtain ⟨q, hq, -⟩ := (tracked_node h₀ s d).mpr
      (AList.lookup_isSome.mp (by rw [hold]; rfl))
    rw [hempty] at hq
    cases hq
  have hwaits : ∀ q ∈ (net.node s).pendingData, q.dstNodeId ≠ d :=
    fun q hq hdst => hidle ((tracked_node h s d).mp ⟨q, hq, hdst⟩)
  have haccounted : ∀ payload, net.submitted.count ⟨s, d, payload⟩ =
      net.delivered.count ⟨s, d, payload⟩ + net.discarded.count ⟨s, d, payload⟩ := by
    intro payload
    have hqueued : (net.node s).queued.count ⟨s, d, payload⟩ = 0 := by
      refine Multiset.count_eq_zero.mpr fun hmem => ?_
      obtain ⟨q, hq, heq⟩ := List.mem_map.mp (Multiset.mem_coe.mp hmem)
      exact hwaits q hq (congrArg Submission.dstNodeId heq)
    have hsum := accounts hU hloss hdup hF h ⟨s, d, payload⟩
    have hcarried := count_carried_eq_zero (d := d) hquiet payload
    dsimp only at hsum
    omega
  refine ⟨hwaits, haccounted, fun hok payload => ?_⟩
  have hnone : net.discarded.count ⟨s, d, payload⟩ = 0 :=
    count_discarded_eq_zero h (fun _ hc => hc) hok payload
  rw [haccounted payload, hnone, Nat.add_zero]

/-- On `Deployment.line`, the DATA of node 0 goes to node 2. -/
def deliveryOnLine : List Action :=
  discoveryOnLine ++ [.deliver 0 1 tenMillis, .deliver 0 2 tenMillis]

/-- On a line of three nodes that have greeted each other, what node 0 has submitted for
node 2 has been delivered. -/
theorem submissions_settled_line :
    SubmissionsSettled (after (.line .dlDsr) ⟨false, false, false⟩
      (greetingsOnLine ++ deliveryOnLine)) 0 2 := by
  have hconnected : Relation.ReflTransGen (Deployment.line .dlDsr).Mutual 0 2 :=
    .head (b := 1) ⟨by decide, by decide⟩ (.single ⟨by decide, by decide⟩)
  have hgreeted : ∀ n, (Deployment.line .dlDsr).Runs n →
      Greeted (after (.line .dlDsr) ⟨false, false, false⟩ greetingsOnLine) n := by
    rintro n ⟨tn, hmem, rfl⟩
    revert tn
    decide +kernel
  have hfew : ∀ a, ((Deployment.line .dlDsr).mutualsOf a).card ≤ 255 :=
    Deployment.card_mutualsOf_le (by decide +kernel)
  exact submissions_settled (Deployment.line_uniform .dlDsr) rfl rfl rfl
    (fun _ _ => show 3 ≤ 64 by decide) (reachable_after _ _ greetingsOnLine)
    (fun _ => ⟨by unfold GreetingsArrived; decide +kernel, hgreeted, hfew⟩) (by decide +kernel)
    (run_after_append (by decide +kernel)) (by decide +kernel) (by decide +kernel) (by decide)
    hconnected

end Network

end DlDsr
