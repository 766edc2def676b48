import DlDsr.Network.Flooding

/-!
# Discoveries succeed

The flood of a request goes on over every step of the network (`Flooding.step`). When
none of its packets is in flight any more, it has come to its destination, and the one
answer has come back to the source (`discovery_complete`).
-/

namespace DlDsr

namespace Network

open ProtocolState

variable {D : Deployment} {F F' : Faults} {net net' : Network} {mode : ProtocolMode}
  {key : RequestKey} {d : NodeId}

/-- Learnt labels are not forgotten, as long as no node restarts. -/
theorem Learnt.step (hF : F.restarts = false) (hs : StepCases D F net net') (h : Learnt D net) :
    Learnt D net' := by
  intro a b hmutual
  obtain ⟨l, hl⟩ := h a b hmutual
  cases hs with
  | @call n clock input origin rest hn hserved =>
    by_cases hb : b = n
    · subst hb
      rw [call_node_self]
      show ∃ l, ((net.node b).call clock input).1.labels.labelAssignedByNeighbor a = some l
      have heff := call_tableEffect (net.node b) clock input
      generalize ((net.node b).call clock input).1 = s' at heff ⊢
      cases heff with
      | same hsame => exact ⟨l, by rw [hsame.labels]; exact hl⟩
      | hello => exact ⟨l, hl⟩
      | helloReply p =>
        rw [LabelTable.labelAssignedByNeighbor_update]
        split
        · exact ⟨_, rfl⟩
        · exact ⟨l, hl⟩
      | rrep _ _ _ _ hsame => exact ⟨l, by rw [hsame.labels]; exact hl⟩
    · rw [call_node_other hb]
      exact ⟨l, hl⟩
  | lose => exact ⟨l, hl⟩
  | duplicate => exact ⟨l, hl⟩
  | restart hF' =>
    rw [hF] at hF'
    cases hF'
  | @reorder n s' hr =>
    refine ⟨l, ?_⟩
    show (Function.update net.node n s' b).labels.labelAssignedByNeighbor a = some l
    rw [update_node_eq (fun s => s.labels.labelAssignedByNeighbor a)
      (hr.labelAssignedByNeighbor_eq a)]
    exact hl

/-- Every step of a transport that neither loses nor duplicates keeps the invariant of a
request, whatever the transport has done before. -/
theorem Flooding.step_since (hflood : Flooding D key d net) (hU : D.Uniform mode)
    (hloss : F'.loss = false) (hdup : F'.duplication = false) (hF : F'.restarts = false)
    (hhops : ∀ n, D.Runs n → D.topology.nodes.length ≤ (D.config n).maxRreqHops.toNat)
    (hlearnt : mode = .dlDsr → Learnt D net) (h : Reachable D F net)
    (hs : StepCases D F' net net') (hretains : ∀ c ∈ since net net', c.Retains) :
    Flooding D key d net' := by
  cases hs with
  | @call n clock input origin rest hn hserved =>
    rw [since_call] at hretains
    have hcall : (net.node n).Retains clock input := hretains _ List.mem_cons_self
    -- Only the packets of the request matter.
    by_cases hinput : input.requestKey = some key
    · cases input with
      | packet packet sender =>
        cases packet with
        | rreq q =>
          exact hflood.call_rreq hU hhops hlearnt h hn (Option.some.inj hinput) hserved hcall
        | rrep a => exact hflood.call_rrep hU h hn (Option.some.inj hinput) hserved hcall
        | _ => cases hinput
      | _ => cases hinput
    · exact hflood.call_unconcerned hU h hn hserved hcall hinput
  | lose hF' =>
    rw [hloss] at hF'
    cases hF'
  | duplicate hF' =>
    rw [hdup] at hF'
    cases hF'
  | restart hF' =>
    rw [hF] at hF'
    cases hF'
  | @reorder n s' hr =>
    have hnode := reorder_seen key hr
    exact
      { used := by
          show key.2 < (Function.update net.node n s' key.1).nextRequestId
          rw [(hnode key.1).1]
          exact hflood.used
        source := (hnode key.1).2.mpr hflood.source
        frontier := hflood.frontier.mono (fun m => (hnode m).2) fun _ _ _ hcopy => hcopy
        rreqs := by
          intro p hp q hq hkey
          obtain ⟨hdst, hnodup, htrace⟩ := hflood.rreqs p hp q hq hkey
          exact ⟨hdst, hnodup, fun m hm => ⟨(htrace m hm).1, (hnode m).2.mpr (htrace m hm).2⟩⟩
        rreps := hflood.rreps
        answered := fun hd => hflood.answered ((hnode d).2.mp hd)
        unanswered := fun hd => hflood.unanswered fun hbefore => hd ((hnode d).2.mpr hbefore)
        arrived := hflood.arrived }

/-- Every step keeps the invariant of a request. -/
theorem Flooding.step (hflood : Flooding D key d net) (hU : D.Uniform mode)
    (hloss : F.loss = false) (hdup : F.duplication = false) (hF : F.restarts = false)
    (hhops : ∀ n, D.Runs n → D.topology.nodes.length ≤ (D.config n).maxRreqHops.toNat)
    (hlearnt : mode = .dlDsr → Learnt D net) (h : Reachable D F net)
    (hs : StepCases D F net net') (hretains : ∀ c ∈ callsOf net'.history, c.Retains) :
    Flooding D key d net' :=
  hflood.step_since hU hloss hdup hF hhops hlearnt h hs fun c hc =>
    hretains c (by rw [callsOf_step hs]; exact List.mem_append_left _ hc)

/-- When no packet of the request is in flight any more, the flood has come to `d`, and the
answer to the source. -/
theorem Flooding.settled (hflood : Flooding D key d net)
    (hquiet : ∀ p ∈ net.inFlight, p.packet.requestKey ≠ some key)
    (hconnected : Relation.ReflTransGen D.Mutual key.1 d) :
    net.replies d key = 1 ∧ net.routesCached key d = 1 := by
  have hseen : net.Seen key d := by
    refine hflood.frontier.reaches (fun n m hcopy => ?_) hflood.source hconnected
    obtain ⟨p, hp, q, hq, hkey, -⟩ := hcopy
    exact hquiet p hp (by rw [hq]; exact congrArg some hkey)
  have hnone : net.repliesInFlight key = 0 :=
    List.countP_eq_zero.mpr fun p hp hrrep => hquiet p hp (isRrepOf_requestKey hrrep)
  have hreplies := hflood.answered hseen
  have harrived := hflood.arrived
  exact ⟨hreplies, by omega⟩

/-- **Every discovery is completed, whatever the schedule.** From a network in which,
in DL-DSR mode, all labels have been learnt, let node `s` start the discovery of a
node `d` it is connected to over mutual links. If the transport loses and duplicates
nothing and the duplicate caches retain what they have seen, then, once no RREQ and
no RREP of the request is in flight, `d` has generated exactly one RREP for it, and
`s` has reported exactly one route for it. -/
theorem discovery_complete (hU : D.Uniform mode) (hloss : F.loss = false)
    (hdup : F.duplication = false) (hF : F.restarts = false)
    (hhops : ∀ n, D.Runs n → D.topology.nodes.length ≤ (D.config n).maxRreqHops.toNat)
    {net₀ net₁ : Network} (h₀ : Reachable D F net₀) (hlearnt : mode = .dlDsr → Learnt D net₀)
    {s d : NodeId} {requestId : Nat} {clock : Clock} {input : Input}
    (hstart : net₀.perform D (.act s clock input) = some net₁)
    (hdisc : (net₀.node s).Discovers clock input requestId d)
    (hne : d ≠ s) (hconnected : Relation.ReflTransGen D.Mutual s d)
    (hrun : Run D F net₁ net) (hretains : ∀ c ∈ callsOf net.history, c.Retains)
    (hquiet : ∀ p ∈ net.inFlight, p.packet.requestKey ≠ some (s, requestId)) :
    net.replies d (s, requestId) = 1 ∧ net.routesCached (s, requestId) d = 1 := by
  have hstep : Step D F net₀ net₁ := .action (.act s clock input) rfl hstart
  have h₁ : Reachable D F net₁ := h₀.tail hstep
  simp only [perform, Option.ite_none_right_eq_some, Option.some.injEq] at hstart
  obtain ⟨⟨-, hlocal⟩, rfl⟩ := hstart
  -- From the start of the request on, the invariant holds.
  have hinv : (∀ c ∈ callsOf net.history, c.Retains) →
      (mode = .dlDsr → Learnt D net) ∧ Flooding D (s, requestId) d net := by
    refine run_induction (fun net => (∀ c ∈ callsOf net.history, c.Retains) →
      (mode = .dlDsr → Learnt D net) ∧ Flooding D (s, requestId) d net) h₁ ?_ ?_ hrun
    · intro hretains
      refine ⟨fun hmode => (hlearnt hmode).step hF (step_cases hstep), ?_⟩
      exact flooding_start hU hF h₀ hlocal hdisc (hretains _ List.mem_cons_self) hne
    · intro net net' hreach ih hs hretains
      obtain ⟨hlabels, hflood⟩ := ih fun c hc => hretains c (callsOf_mono hs hc)
      exact ⟨fun hmode => (hlabels hmode).step hF hs,
        hflood.step hU hloss hdup hF hhops hlabels hreach hs hretains⟩
  obtain ⟨-, hflood⟩ := hinv hretains
  exact hflood.settled hquiet hconnected

/-- On a line of three nodes, node 2 has answered node 0 once, and node 0 has reported
one route to it. -/
theorem discovery_complete_line :
    let net := after (.line .dsr) ⟨false, false, false⟩ discoveryOnLine
    net.replies 2 (0, 1) = 1 ∧ net.routesCached (0, 1) 2 = 1 := by
  intro net
  have hstart : (init (.line .dsr)).perform (.line .dsr)
      (.act 0 tenMillis (.command (.discoverAndSend 2 [7]))) =
        some ((init (.line .dsr)).call 0 tenMillis (.command (.discoverAndSend 2 [7])) 0) := by
    simp only [perform]
    exact if_pos ⟨by decide, rfl⟩
  have hrun : Run (.line .dsr) ⟨false, false, false⟩ _
      (after (.line .dsr) ⟨false, false, false⟩ discoveryOnLine) :=
    run_of_after hstart (by decide +kernel)
  have hconnected : Relation.ReflTransGen (Deployment.line .dsr).Mutual 0 2 :=
    .head (b := 1) ⟨by decide, by decide⟩ (.single ⟨by decide, by decide⟩)
  exact discovery_complete (Deployment.line_uniform .dsr) rfl rfl rfl
    (fun _ _ => show 3 ≤ 64 by decide) .refl (fun hmode => absurd hmode (by decide)) hstart
    ⟨⟨rfl, by decide, by decide +kernel⟩, 10, by decide +kernel⟩ (by decide)
    hconnected hrun (by decide +kernel) (by decide +kernel)

end Network

end DlDsr
