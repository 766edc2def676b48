import DlDsr.Network.EndToEnd

/-!
# Recovery

A transport that has lost and duplicated packets at will leaves behind nodes that have seen
requests whose answers never came, stale packets, and discoveries that nobody will answer.
None of it does harm. From the moment the transport is reliable again, every discovery that
starts is answered once (`flooding_since`), every payload that is still somewhere stays
somewhere until it is delivered (`held_since`), and what waits longer than that waits for
nothing but the next retry of a discovery from before (`Unretried`). So once a tick has found
those overdue, and the packets of `s` have died down, everything that the faults have left of
its payloads has been delivered (`recovered`).
-/

namespace DlDsr

/-- The payloads submitted in these calls. -/
def submittedIn (calls : List Call) : Multiset Submission :=
  (calls.map fun c => c.input.submitted c.nodeId).sum

/-- The payloads delivered in these calls. -/
def deliveredIn (calls : List Call) : Multiset Submission :=
  (calls.map fun c => deliveredBy c.actions.events).sum

/-- The payloads that these calls have discarded with a failed discovery. -/
def discardedIn (calls : List Call) : Multiset Submission :=
  (calls.map fun c => c.before.discarded c.actions.events).sum

namespace Network

open ProtocolState

variable {D : Deployment} {F : Faults} {net₀ net : Network} {mode : ProtocolMode} {s d : NodeId}

/-- How often a payload is queued at its origin or carried by a packet in flight. -/
def held (net : Network) (t : Submission) : Nat :=
  (net.node t.srcNodeId).queued.count t + net.carried.count t

/-- A reliable transport keeps what the faults have left. -/
theorem held_since (hU : D.Uniform mode) (hF : F.restarts = false) (h₀ : Reachable D F net₀)
    (hrun : Run D .reliable net₀ net) (t : Submission) :
    net₀.held t + (submittedIn (since net₀ net)).count t =
      net.held t + (deliveredIn (since net₀ net)).count t +
        (discardedIn (since net₀ net)).count t := by
  refine later_induction (fun net => net₀.held t + (submittedIn (since net₀ net)).count t =
    net.held t + (deliveredIn (since net₀ net)).count t +
      (discardedIn (since net₀ net)).count t) Faults.permits_of_reliable h₀ ?_ ?_ hrun
  · rw [since_self]
    rfl
  intro net net' hreach hrun ih hs
  cases hs with
  | @call n clock input origin rest hn hserved =>
    have hcall := accounts_call hU hF hreach clock hn hserved rfl t
    rw [since_step hrun (.call hn hserved), since_call]
    show net₀.held t + (input.submitted n + submittedIn (since net₀ net)).count t =
      held _ t + (deliveredBy _ + deliveredIn (since net₀ net)).count t +
        ((net.node n).discarded _ + discardedIn (since net₀ net)).count t
    simp only [Multiset.count_add]
    unfold held at ih ⊢
    omega
  | lose hF => cases hF
  | duplicate hF => cases hF
  | restart hF => cases hF
  | @reorder n s' hr =>
    rw [since_step hrun (.reorder hr), since_reorder]
    show _ = (Function.update net.node n s' t.srcNodeId).queued.count t + net.carried.count t +
      _ + _
    rw [update_node_eq queued (queued_reorder hr)]
    exact ih

/-- Every discovery that has been started since has a flood of its own, which no packet and
no cache entry from before gets in the way of. -/
theorem flooding_since (hU : D.Uniform mode) (hF : F.restarts = false)
    (hhops : ∀ n, D.Runs n → D.topology.nodes.length ≤ (D.config n).maxRreqHops.toNat)
    (h₀ : Reachable D F net₀) (hlearnt : mode = .dlDsr → Learnt D net₀)
    (hrun : Run D .reliable net₀ net) (hretains : ∀ c ∈ since net₀ net, c.Retains) :
    ∀ c ∈ since net₀ net, ∀ requestId d,
      c.before.Discovers c.clock c.input requestId d → d ≠ c.nodeId →
        Flooding D (c.nodeId, requestId) d net := by
  have hinv : (mode = .dlDsr → Learnt D net) ∧ ∀ c ∈ since net₀ net, ∀ requestId d,
      c.before.Discovers c.clock c.input requestId d → d ≠ c.nodeId →
        Flooding D (c.nodeId, requestId) d net := by
    refine later_induction (fun net => (∀ c ∈ since net₀ net, c.Retains) →
      (mode = .dlDsr → Learnt D net) ∧ ∀ c ∈ since net₀ net, ∀ requestId d,
        c.before.Discovers c.clock c.input requestId d → d ≠ c.nodeId →
          Flooding D (c.nodeId, requestId) d net) Faults.permits_of_reliable h₀ ?_ ?_ hrun hretains
    · refine fun _ => ⟨hlearnt, fun c hc => ?_⟩
      rw [since_self] at hc
      cases hc
    intro net net' hreach hrun ih hs hretains
    obtain ⟨hbefore, hnow⟩ := retains_since hrun hs hretains
    obtain ⟨hlabels, hflood⟩ := ih hbefore
    refine ⟨fun hmode => (hlabels hmode).step rfl hs, fun c hc requestId d hdisc hne => ?_⟩
    rw [since_step hrun hs] at hc
    rcases List.mem_append.mp hc with hc | hc
    · -- The discovery starts in this very step.
      cases hs with
      | @call n clock input origin rest hn hserved =>
        rw [since_call] at hc hnow
        have hretained : (net.node n).Retains clock input := hnow _ List.mem_cons_self
        obtain rfl := List.mem_singleton.mp hc
        cases hserved with
        | act input hlocal => exact flooding_start hU hF hreach hlocal hdisc hretained hne
        | deliver p _ hp hdst =>
          rcases hdisc.started.input with ⟨_, hinput⟩ | ⟨_, hinput⟩
          · cases hinput
          · cases hinput
      | lose hF => cases hF
      | duplicate hF => cases hF
      | restart hF => cases hF
      | reorder hr =>
        rw [since_reorder] at hc
        cases hc
    · exact (hflood c hc requestId d hdisc hne).step_since hU rfl rfl rfl hhops hlabels hreach hs
        hnow
  exact hinv.2

/-- The discoveries of `d` that were outstanding in `net₀` have become overdue at a tick
since. -/
def Overdue (D : Deployment) (s d : NodeId) (net₀ net : Network) : Prop :=
  ∀ state, (net₀.node s).discoveries.lookup d = some state →
    ∃ c ∈ since net₀ net, c.nodeId = s ∧ ∃ now, c.input = .tick now ∧
      (D.config s).routeDiscoveryTimeoutMs ≤ now - state.lastSentMillis

theorem Overdue.not_unretried (h : Overdue D s d net₀ net) {state : DiscoveryState} :
    ¬ Unretried D s d state net₀ net := by
  intro hold
  obtain ⟨c, hc, hself, now, hinput, hdue⟩ := h state hold.before
  have hwaits := hold.waits c hc hself now hinput
  omega

/-- What holds of the payloads from `s` to `d` some time after the faults of `net₀`. -/
structure Recovered (D : Deployment) (s d : NodeId) (net₀ net : Network) : Prop where
  answered : ∀ c ∈ since net₀ net, c.nodeId = s → ∀ requestId,
    c.before.Discovers c.clock c.input requestId d →
      net.replies d (s, requestId) = 1 ∧ net.routesCached (s, requestId) d = 1
  waiting : ∀ q ∈ (net.node s).pendingData, q.dstNodeId = d →
    ∃ state, (net.node s).discoveries.lookup d = some state ∧ Unretried D s d state net₀ net
  accounted : ∀ payload,
    net₀.held ⟨s, d, payload⟩ + (submittedIn (since net₀ net)).count ⟨s, d, payload⟩ =
      (net.node s).queued.count ⟨s, d, payload⟩ +
        (deliveredIn (since net₀ net)).count ⟨s, d, payload⟩ +
        (discardedIn (since net₀ net)).count ⟨s, d, payload⟩
  delivered : Overdue D s d net₀ net →
    (∀ c ∈ since net₀ net, ∀ attempts, .routeDiscoveryFailed s d attempts ∉ c.actions.events) →
      ∀ payload,
        net₀.held ⟨s, d, payload⟩ + (submittedIn (since net₀ net)).count ⟨s, d, payload⟩ =
          (deliveredIn (since net₀ net)).count ⟨s, d, payload⟩

/-- **The network recovers from its faults.** Up to `net₀` the transport may have lost and
duplicated whatever it liked; in DL-DSR mode the labels are learnt by then, for which one
round of greetings is enough (`all_introduced`). From there on it is reliable, and the
duplicate caches retain what they see. Let `s` and `d` be connected over mutual links. Once
the packets of `s` have died down, every discovery of `d` that `s` has started since has been
answered once, what still waits for `d` waits for the first retry of a discovery from before,
and once that was due, every payload that was queued or in flight in `net₀`, or was submitted
since, has been delivered, as often as there were copies of it, unless a discovery of `d` has
failed. -/
theorem recovered (hU : D.Uniform mode) (hF : F.restarts = false)
    (hhops : ∀ n, D.Runs n → D.topology.nodes.length ≤ (D.config n).maxRreqHops.toNat)
    (h₀ : Reachable D F net₀) (hlearnt : mode = .dlDsr → Learnt D net₀)
    (hrun : Run D .reliable net₀ net) (hretains : ∀ c ∈ since net₀ net, c.Retains)
    (hquiet : DiedDown net s) (hne : d ≠ s) (hconnected : Relation.ReflTransGen D.Mutual s d) :
    Recovered D s d net₀ net := by
  have h : Reachable D F net := h₀.trans (run_of_reliable hrun)
  have hsought : Sought D s net₀ net :=
    (sought_of_run hU hF hhops h₀ hlearnt hrun hretains).2
  have hwaiting : ∀ q ∈ (net.node s).pendingData, q.dstNodeId = d →
      ∃ state, (net.node s).discoveries.lookup d = some state ∧
        Unretried D s d state net₀ net := by
    intro q hq hdst
    obtain ⟨state, hstate⟩ := Option.isSome_iff_exists.mp
      (AList.lookup_isSome.mpr ((tracked_node h s d).mp ⟨q, hq, hdst⟩))
    exact ⟨state, hstate, hsought.unretried hquiet hne hconnected hstate⟩
  have haccounted : ∀ payload,
      net₀.held ⟨s, d, payload⟩ + (submittedIn (since net₀ net)).count ⟨s, d, payload⟩ =
        (net.node s).queued.count ⟨s, d, payload⟩ +
          (deliveredIn (since net₀ net)).count ⟨s, d, payload⟩ +
          (discardedIn (since net₀ net)).count ⟨s, d, payload⟩ := by
    intro payload
    rw [held_since hU hF h₀ hrun]
    unfold held
    rw [count_carried_eq_zero hquiet payload, Nat.add_zero]
  refine ⟨fun c hc hself requestId hdisc => ?_, hwaiting, haccounted, fun hdue hok payload => ?_⟩
  · subst hself
    exact (flooding_since hU hF hhops h₀ hlearnt hrun hretains c hc requestId d hdisc hne).settled
      (hquiet.requestKey_ne requestId) hconnected
  · have hqueued : (net.node s).queued.count ⟨s, d, payload⟩ = 0 := by
      refine Multiset.count_eq_zero.mpr fun hmem => ?_
      obtain ⟨q, hq, heq⟩ := List.mem_map.mp (Multiset.mem_coe.mp hmem)
      obtain ⟨state, -, hold⟩ := hwaiting q hq (congrArg Submission.dstNodeId heq)
      exact hdue.not_unretried hold
    have hnone : (discardedIn (since net₀ net)).count ⟨s, d, payload⟩ = 0 :=
      count_discarded_eq_zero h
        (fun c hc => by rw [callsOf_run hrun]; exact List.mem_append_left _ hc) hok payload
    rw [haccounted payload, hqueued, hnone, Nat.zero_add, Nat.add_zero]

/-- A clock that stands still, three seconds later. -/
def threeSeconds : Clock := fun _ => 3000

/-- On `Deployment.line`, the only RREQ of node 0 is lost. -/
def lossOnLine : List Action :=
  [.act 0 tenMillis (.command (.discoverAndSend 2 [7])), .lose 0]

/-- Node 0 tries again, and its DATA comes to node 2. -/
def retryOnLine : List Action :=
  [.act 0 threeSeconds (.tick 3000), .deliver 0 1 threeSeconds, .deliver 0 2 threeSeconds,
   .deliver 0 1 threeSeconds, .deliver 0 0 threeSeconds, .deliver 0 1 threeSeconds,
   .deliver 0 2 threeSeconds]

/-- On a line of three nodes, the payload whose first RREQ was lost has come to node 2. -/
theorem recovered_line :
    let lossy := after (.line .dsr) ⟨true, true, false⟩ lossOnLine
    let net := resumed (.line .dsr) .reliable lossy retryOnLine
    Recovered (.line .dsr) 0 2 lossy net ∧ Overdue (.line .dsr) 0 2 lossy net ∧
      (deliveredIn (since lossy net)).count ⟨0, 2, [7]⟩ = 1 := by
  intro lossy net
  have hconnected : Relation.ReflTransGen (Deployment.line .dsr).Mutual 0 2 :=
    .head (b := 1) ⟨by decide, by decide⟩ (.single ⟨by decide, by decide⟩)
  refine ⟨?_, fun state hstate => ?_, by decide +kernel⟩
  · exact recovered (Deployment.line_uniform .dsr) rfl (fun _ _ => show 3 ≤ 64 by decide)
      (reachable_after _ _ lossOnLine) (fun hmode => absurd hmode (by decide))
      (run_resumed _ _ _ _) (by decide +kernel) (by decide +kernel) (by decide) hconnected
  · have hlookup : (lossy.node 0).discoveries.lookup 2 = some ⟨1, 10, 0⟩ := by decide +kernel
    have hticks : ∃ c ∈ since lossy net, c.nodeId = 0 ∧ c.input = .tick 3000 := by
      decide +kernel
    obtain rfl := Option.some.inj (hlookup.symm.trans hstate)
    obtain ⟨c, hc, hself, hinput⟩ := hticks
    exact ⟨c, hc, hself, 3000, hinput, by decide⟩

end Network

end DlDsr
