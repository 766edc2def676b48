import DlDsr.Core.Allocation
import DlDsr.Network.Flooding
import DlDsr.Network.MixedModes

/-!
# The exchange of labels

Before DL-DSR can route anything, a node has to know the labels its neighbours assigned to
it. It asks for them with HELLOs, and every mutual neighbour answers with a HELLO_REPLY,
as long as it has labels left. Nothing acknowledges either packet; what makes the exchange
work is that each of them is followed up by the handler that takes it
(`Link`): the label of a neighbour that was asked is on its way, known, or refused for
good, and nothing else.

So once all greetings have arrived, each node has introduced itself to as many of its
mutual neighbours as there are labels, whatever the order of arrival
(`introduced_of_quiet`). With at most 255 of them that is to all.
-/

namespace DlDsr

namespace NeighborTable

variable {t : NeighborTable} {b : NodeId}

/-- All labels are taken, and none of them by `b`. -/
structure Refuses (t : NeighborTable) (b : NodeId) : Prop where
  notMem : b ∉ t.entries
  full : t.entries.size = 255

/-- A full table stays closed to the nodes it does not list. -/
theorem Refuses.assign (h : t.Refuses b) (ht : t.WellFormed) (hrange : ∀ l ∈ t.heldLabels, l ≠ 0)
    (a : Assignment) : (t.assign a).1.Refuses b := by
  by_cases ha : a.nodeId ∈ t.entries
  · have hne : b ≠ a.nodeId := fun hb => h.notMem (hb ▸ ha)
    unfold NeighborTable.assign
    rcases assignOrReuseLabel_cases t a.nodeId a.endpoint a.now with
      ⟨entry, -, heq⟩ | ⟨_, -, hnone, -, -⟩ | ⟨-, -, heq⟩
    · rw [heq]
      refine ⟨fun hmem => ?_, (AList.size_insert_of_mem _ ha).trans h.full⟩
      rcases (AList.mem_insert _).mp hmem with hb | hb
      · exact hne hb
      · exact h.notMem hb
    · exact absurd ha (AList.lookup_eq_none.mp hnone)
    · rw [heq]
      exact h
  · obtain ⟨err, herr⟩ := (ht.assign_error_iff hrange a).mpr ⟨ha, h.full⟩
    rw [assign_eq_of_error herr]
    exact h

theorem Refuses.reorder {t' : NeighborTable} (h : t.Refuses b)
    (hr : t.entries.SameMap t'.entries) : t'.Refuses b where
  notMem := by
    rw [← AList.lookup_eq_none, ← hr.lookup_eq, AList.lookup_eq_none]
    exact h.notMem
  full := by rw [← hr.size_eq, h.full]

/-- A table has no more entries than there are labels. -/
theorem WellFormed.size_le (ht : t.WellFormed) (hrange : ∀ l ∈ t.heldLabels, l ≠ 0) :
    t.entries.size ≤ 255 := by
  rw [← length_heldLabels, ← List.toFinset_card_of_nodup ht.heldLabels_nodup,
    ← card_labelCandidates]
  refine Finset.card_le_card fun l hl => ?_
  rw [List.mem_toFinset] at hl ⊢
  exact mem_labelCandidates.mpr (hrange l hl)

theorem mem_of_labelOf {l : Label} (h : t.labelOf b = some l) : b ∈ t.entries := by
  obtain ⟨entry, hentry, -⟩ := Option.map_eq_some_iff.mp h
  exact AList.lookup_isSome.mp (by rw [hentry]; rfl)

end NeighborTable

/-- A HELLO or a HELLO_REPLY. -/
def Packet.isGreeting : Packet → Bool
  | .hello _ => true
  | .helloReply _ => true
  | _ => false

namespace Deployment

/-- The nodes that `a` lists as neighbours and that list `a`. -/
def mutualsOf (D : Deployment) (a : NodeId) : Finset NodeId :=
  ((D.neighborsOf a).filter fun b => (D.neighborsOf b).contains a).toFinset

variable {D : Deployment} {a b : NodeId}

theorem mem_mutualsOf : b ∈ D.mutualsOf a ↔ D.Mutual a b := by
  simp [mutualsOf, Mutual]

/-- Checking the node list suffices. -/
theorem card_mutualsOf_le {k : Nat} (h : ∀ tn ∈ D.topology.nodes, tn.neighbors.length ≤ k)
    (a : NodeId) : (D.mutualsOf a).card ≤ k := by
  have hlength : (D.neighborsOf a).length ≤ k := by
    unfold neighborsOf
    cases hnode : D.topology.node a with
    | none => exact Nat.zero_le k
    | some tn => exact h tn (Topology.mem_of_node hnode).1
  exact (List.toFinset_card_le _).trans (List.length_filter_le _ _ |>.trans hlength)

end Deployment

namespace Network

open ProtocolState NeighborTable

variable {D : Deployment} {F F' : Faults} {net₀ net net' : Network} {a b n : NodeId}

/-! ## What greetings and neighbour tables say -/

/-- What holds of the neighbour table of every node `n`. -/
structure TableMutual (D : Deployment) (n : NodeId) (s : ProtocolState) : Prop where
  wellFormed : s.neighbors.WellFormed
  range : ∀ l ∈ s.neighbors.heldLabels, l ≠ 0
  listed : ∀ b ∈ s.neighbors.entries, D.Mutual n b

/-- A HELLO goes from a node to one it lists; a HELLO_REPLY goes between nodes that list
each other. -/
def GreetingOk (D : Deployment) (p : InFlight) : Prop :=
  match p.packet with
  | .hello q => p.sender = D.addr q.srcNodeId ∧ D.Runs q.srcNodeId ∧
      ∃ m ∈ D.neighborsOf q.srcNodeId, D.Runs m ∧ p.dst = D.addr m
  | .helloReply q => D.Mutual q.srcNodeId q.dstNodeId ∧ p.dst = D.addr q.dstNodeId
  | _ => True

/-- A HELLO that arrives at a node that lists its sender comes from a mutual neighbour. -/
theorem mutual_of_hello (hP : D.Placed) {q : Hello} {sender : SocketAddr} {origin : Nat}
    (hn : D.Runs n) (hq : GreetingOk D ⟨.hello q, sender, D.addr n, origin⟩)
    (hlisted : q.srcNodeId ∈ D.neighborsOf n) : D.Mutual n q.srcNodeId := by
  obtain ⟨-, -, m, hm, hruns, hdst⟩ := hq
  obtain rfl : n = m := hP.addr_injective hn hruns hdst
  exact ⟨hlisted, hm⟩

theorem greetingInvariant (hP : D.Placed) :
    LocalInvariant D (TableMutual D) (GreetingOk D) where
  new n :=
    { wellFormed := wellFormed_empty
      range := fun l hl => absurd hl List.not_mem_nil
      listed := fun b hb => absurd hb (AList.notMem_empty b) }
  reorder := by
    intro n s s' h hr
    refine ⟨h.wellFormed.reorder hr.neighbors, fun l hl => ?_, fun b hb => ?_⟩
    · obtain ⟨m, entry, hm, rfl⟩ := mem_heldLabels.mp hl
      exact h.range _ (mem_heldLabels.mpr ⟨m, entry, by rw [hr.neighbors.lookup_eq, hm], rfl⟩)
    · refine h.listed b ?_
      rw [← AList.lookup_isSome] at hb ⊢
      rwa [hr.neighbors.lookup_eq]
  node := by
    intro n s clock input hn hcfg hs hinput
    have heff := call_tableEffect s clock input
    generalize (s.call clock input).1 = s' at heff ⊢
    cases heff with
    | same h => exact ⟨by rw [h.neighbors]; exact hs.wellFormed, by rw [h.neighbors]; exact hs.range,
        by rw [h.neighbors]; exact hs.listed⟩
    | hello q sender hlisted =>
      obtain ⟨origin, hq⟩ := hinput _ _ rfl
      rw [logicalNeighbors_eq hcfg] at hlisted
      refine ⟨hs.wellFormed.assign _ _ _,
        assign_label_ne_zero hs.range ⟨q.srcNodeId, sender, clock 0⟩, fun b hb => ?_⟩
      rcases assignOrReuseLabel_cases s.neighbors q.srcNodeId sender (clock 0) with
        ⟨entry, -, heq⟩ | ⟨label, -, -, -, heq⟩ | ⟨-, -, heq⟩
      all_goals simp only [heq] at hb
      · rcases (AList.mem_insert _).mp hb with rfl | hb
        · exact mutual_of_hello hP hn hq hlisted
        · exact hs.listed b hb
      · rcases (AList.mem_insert _).mp hb with rfl | hb
        · exact mutual_of_hello hP hn hq hlisted
        · exact hs.listed b hb
      · exact hs.listed b hb
    | helloReply => exact ⟨hs.wellFormed, hs.range, hs.listed⟩
    | rrep _ _ _ _ h => exact ⟨by rw [h.neighbors]; exact hs.wellFormed,
        by rw [h.neighbors]; exact hs.range, by rw [h.neighbors]; exact hs.listed⟩
  packet := by
    intro n s clock input o origin hn hcfg hs hinput ho
    cases ho with
    | hello m t dst hm hdst =>
      rw [logicalNeighbors_eq hcfg] at hm
      obtain ⟨hruns, rfl⟩ := (endpoint_eq_some hP hcfg).mp hdst
      simp only [GreetingOk, nodeId_eq hcfg]
      exact ⟨trivial, hn, m, hm, hruns, rfl⟩
    | helloReply q sender label t hlisted hlabel =>
      obtain ⟨origin, hq⟩ := hinput _ _ rfl
      rw [logicalNeighbors_eq hcfg] at hlisted
      have hmutual := mutual_of_hello hP hn hq hlisted
      simp only [GreetingOk, nodeId_eq hcfg]
      exact ⟨hmutual, hq.1⟩
    | originate _ now dst id _ _ _ _ hflood =>
      obtain ⟨v, -, -, hpacket⟩ := mem_floodRreq.mp hflood
      simp only [GreetingOk, hpacket]
    | forwardRreq q e sender _ _ _ _ _ hcopy =>
      obtain ⟨v, -, -, -, hpacket⟩ := mem_rreqCopies.mp hcopy
      simp only [GreetingOk, hpacket]
    | sendData _ _ _ _ _ hdata =>
      obtain ⟨d, hpacket⟩ := hdata.is_data
      simp only [GreetingOk, hpacket]
    | flushData _ _ _ _ _ _ _ hdata =>
      obtain ⟨d, hpacket⟩ := hdata.is_data
      simp only [GreetingOk, hpacket]
    | answerRreq => trivial
    | relayRrep => trivial
    | forwardData => trivial

theorem tableMutual (hP : D.Placed) (h : Reachable D F net) (n : NodeId) :
    TableMutual D n (net.node n) :=
  ((greetingInvariant hP).reachable h).1 n

theorem greetingOk (hP : D.Placed) (h : Reachable D F net) {p : InFlight}
    (hp : p ∈ net.inFlight) : GreetingOk D p :=
  ((greetingInvariant hP).reachable h).2 p hp

/-! ## The state of a link -/

/-- Node `b` knows the label that `a` assigned to it. -/
def Knows (net : Network) (b a : NodeId) : Prop :=
  ((net.node b).labels.labelAssignedByNeighbor a).isSome = true

instance (net : Network) (b a : NodeId) : Decidable (Knows net b a) :=
  inferInstanceAs (Decidable (_ = true))

/-- Node `b` has sent its HELLOs. -/
def Greeted (net : Network) (b : NodeId) : Prop :=
  ∃ c ∈ callsOf net.history, c.nodeId = b ∧ c.input = .hello

instance (net : Network) (b : NodeId) : Decidable (Greeted net b) :=
  inferInstanceAs (Decidable (∃ c ∈ callsOf net.history, _))

/-- Node `b` has sent its HELLOs since `net₀`. -/
def GreetedSince (net₀ net : Network) (b : NodeId) : Prop :=
  ∃ c ∈ since net₀ net, c.nodeId = b ∧ c.input = .hello

instance (net₀ net : Network) (b : NodeId) : Decidable (GreetedSince net₀ net b) :=
  inferInstanceAs (Decidable (∃ c ∈ since net₀ net, _))

theorem Greeted.since_init (h : Greeted net b) : GreetedSince (init D) net b := by
  have hall : since (init D) net = callsOf net.history := since_eq (List.append_nil _).symm
  unfold GreetedSince
  rw [hall]
  exact h

/-- What has become of the greetings of `b` at `a`. -/
inductive Link (D : Deployment) (net : Network) (a b : NodeId) : Prop where
  | asked (p : InFlight) (t : Nat) (hp : p ∈ net.inFlight) (hpacket : p.packet = .hello ⟨b, t⟩)
      (hdst : p.dst = D.addr a)
  | answered (p : InFlight) (q : HelloReply) (hp : p ∈ net.inFlight)
      (hpacket : p.packet = .helloReply q) (hsrc : q.srcNodeId = a) (hdst : q.dstNodeId = b)
  | known (h : Knows net b a)
  | refused (h : (net.node a).neighbors.Refuses b)

/-- A label that is known stays known. -/
theorem knows_call {s : ProtocolState} {clock : Clock} {input : Input}
    (h : (s.labels.labelAssignedByNeighbor a).isSome = true) :
    ((s.call clock input).1.labels.labelAssignedByNeighbor a).isSome = true := by
  have heff := call_tableEffect s clock input
  generalize (s.call clock input).1 = s' at heff ⊢
  cases heff with
  | same hsame => rw [hsame.labels]; exact h
  | hello => exact h
  | helloReply p sender =>
    show ((s.labels.updateFromHelloReply _ _ _).labelAssignedByNeighbor a).isSome = true
    rw [LabelTable.labelAssignedByNeighbor_update]
    split
    · rfl
    · exact h
  | rrep _ _ _ _ hsame => rw [hsame.labels]; exact h

/-- A refusal is final. -/
theorem refuses_call {s : ProtocolState} {clock : Clock} {input : Input}
    (hs : TableMutual D n s) (h : s.neighbors.Refuses b) :
    (s.call clock input).1.neighbors.Refuses b := by
  have heff := call_tableEffect s clock input
  generalize (s.call clock input).1 = s' at heff ⊢
  cases heff with
  | same hsame => rw [hsame.neighbors]; exact h
  | hello q sender => exact h.assign hs.wellFormed hs.range ⟨q.srcNodeId, sender, clock 0⟩
  | helloReply => exact h
  | rrep _ _ _ _ hsame => rw [hsame.neighbors]; exact h

/-- A node that takes a HELLO answers it or has no label for its sender. -/
theorem handleHello_answers {s : ProtocolState} (hs : TableMutual D n s) (clock : Clock)
    {q : Hello} (sender : SocketAddr) (hlisted : q.srcNodeId ∈ s.logicalNeighbors) :
    (∃ r, ⟨.helloReply r, sender⟩ ∈ (s.handleHello clock q sender).2.outbound ∧
      r.srcNodeId = s.config.nodeId ∧ r.dstNodeId = q.srcNodeId) ∨
    (s.handleHello clock q sender).1.neighbors.Refuses q.srcNodeId := by
  have htable := handleHello_neighbors s clock sender hlisted
  cases hassign : (s.neighbors.assignOrReuseLabel q.srcNodeId sender (clock 0)).2 with
  | ok label =>
    left
    refine ⟨⟨s.config.nodeId, q.srcNodeId, label, true, clock 1⟩, ?_, rfl, rfl⟩
    unfold handleHello
    rw [if_neg (by simpa using hlisted)]
    split
    · next herr =>
      rw [herr] at hassign
      cases hassign
    · next hok =>
      rw [hok] at hassign
      cases hassign
      exact List.mem_singleton_self _
  | error err =>
    right
    obtain ⟨hnot, hfull⟩ :=
      (hs.wellFormed.assign_error_iff hs.range ⟨q.srcNodeId, sender, clock 0⟩).mp ⟨err, hassign⟩
    have hsame : (s.neighbors.assignOrReuseLabel q.srcNodeId sender (clock 0)).1 = s.neighbors :=
      assign_eq_of_error (a := ⟨q.srcNodeId, sender, clock 0⟩) hassign
    rw [htable, hsame]
    exact ⟨hnot, hfull⟩

/-- What becomes of a HELLO of `b` that `a` takes. -/
theorem Link.of_asked (hP : D.Placed) (hreach : Reachable D F net) (hab : D.Mutual a b)
    {clock : Clock} {t origin : Nat} {sender : SocketAddr} {rest : List InFlight} :
    Link D ({ net with inFlight := rest }.call a clock (.packet (.hello ⟨b, t⟩) sender) origin)
      a b := by
  have hcfg := node_config hreach a
  have hlisted : b ∈ (net.node a).logicalNeighbors := by
    rw [logicalNeighbors_eq hcfg]
    exact hab.1
  rcases handleHello_answers (q := ⟨b, t⟩) (tableMutual hP hreach a) clock sender hlisted with
    ⟨r, hr, hsrc, hdst⟩ | hrefuses
  · rw [nodeId_eq hcfg] at hsrc
    exact .answered ⟨.helloReply r, (net.node a).config.bindAddr, sender, origin⟩ r
      (mem_inFlight_call.mpr (.inr ⟨_, hr, rfl⟩)) rfl hsrc hdst
  · refine .refused ?_
    rw [call_node_self]
    exact hrefuses

/-- A HELLO_REPLY of `a` that `b` takes tells it its label. -/
theorem knows_of_answered (hreach : Reachable D F net) (hab : D.Mutual a b) {clock : Clock}
    {q : HelloReply} (hsrc : q.srcNodeId = a) (hdst : q.dstNodeId = b) {origin : Nat}
    {sender : SocketAddr} {rest : List InFlight} :
    Knows ({ net with inFlight := rest }.call b clock (.packet (.helloReply q) sender) origin)
      b a := by
  have hcfg := node_config hreach b
  have hlisted : q.srcNodeId ∈ (net.node b).logicalNeighbors := by
    rw [logicalNeighbors_eq hcfg, hsrc]
    exact hab.2
  have hme : q.dstNodeId = (net.node b).config.nodeId := hdst.trans (nodeId_eq hcfg).symm
  unfold Knows
  rw [call_node_self]
  show (((net.node b).handleHelloReply q).1.labels.labelAssignedByNeighbor a).isSome = true
  rw [handleHelloReply, if_pos ⟨hme, by simpa using hlisted⟩]
  show ((LabelTable.updateFromHelloReply _ _ _ _).labelAssignedByNeighbor a).isSome = true
  rw [LabelTable.labelAssignedByNeighbor_update, if_pos hsrc.symm]
  rfl

/-- A call keeps what is known. -/
theorem Knows.call (h : Knows net b a) {clock : Clock} {input : Input} {origin : Nat}
    {rest : List InFlight} :
    Knows ({ net with inFlight := rest }.call n clock input origin) b a := by
  unfold Knows at h ⊢
  by_cases hb : b = n
  · subst hb
    rw [call_node_self]
    exact knows_call h
  · rw [call_node_other hb]
    exact h

/-- What a call does to a link: it takes the greeting that is on its way, and answers or
refuses it, or leaves the link as it is. -/
theorem Link.call (hP : D.Placed) (hreach : Reachable D F net) (hab : D.Mutual a b)
    (h : Link D net a b) {clock : Clock} {input : Input} {origin : Nat} {rest : List InFlight}
    (hn : D.Runs n) (hserved : Served D net n input origin rest) :
    Link D ({ net with inFlight := rest }.call n clock input origin) a b := by
  have ha : D.Runs a := Deployment.runs_of_mem_neighborsOf hab.1
  have hb : D.Runs b := Deployment.runs_of_mem_neighborsOf hab.2
  cases h with
  | asked p t hp hpacket hdst =>
    cases hserved with
    | act => exact .asked p t (mem_inFlight_call.mpr (.inl hp)) hpacket hdst
    | deliver p' rest hperm hdst' =>
      rcases List.mem_cons.mp (hperm.mem_iff.mp hp) with rfl | hp
      · obtain rfl : a = n := hP.addr_injective ha hn (hdst.symm.trans hdst')
        rw [hpacket]
        exact .of_asked hP hreach hab
      · exact .asked p t (mem_inFlight_call.mpr (.inl hp)) hpacket hdst
  | answered p q hp hpacket hsrc hdst =>
    cases hserved with
    | act => exact .answered p q (mem_inFlight_call.mpr (.inl hp)) hpacket hsrc hdst
    | deliver p' rest hperm hdst' =>
      rcases List.mem_cons.mp (hperm.mem_iff.mp hp) with rfl | hp
      · have hok := greetingOk hP hreach hp
        simp only [GreetingOk, hpacket, hdst] at hok
        obtain rfl : b = n := hP.addr_injective hb hn (hok.2.symm.trans hdst')
        rw [hpacket]
        exact .known (knows_of_answered hreach hab hsrc hdst)
      · exact .answered p q (mem_inFlight_call.mpr (.inl hp)) hpacket hsrc hdst
  | known h => exact .known h.call
  | refused h =>
    refine .refused ?_
    by_cases han : a = n
    · subst han
      rw [call_node_self]
      exact refuses_call (tableMutual hP hreach a) h
    · rw [call_node_other han]
      exact h

/-- Whatever happens to a greeting, the link is in one of its four states after it. -/
theorem Link.step (hP : D.Placed) (hloss : F'.loss = false) (hrestarts : F'.restarts = false)
    (hreach : Reachable D F net) (hab : D.Mutual a b) (hs : StepCases D F' net net')
    (h : Link D net a b) : Link D net' a b := by
  cases hs with
  | call hn hserved => exact h.call hP hreach hab hn hserved
  | lose h => rw [hloss] at h; cases h
  | restart h => rw [hrestarts] at h; cases h
  | duplicate =>
    cases h with
    | asked p t hp hpacket hdst => exact .asked p t (List.mem_cons_of_mem _ hp) hpacket hdst
    | answered p q hp hpacket hsrc hdst =>
      exact .answered p q (List.mem_cons_of_mem _ hp) hpacket hsrc hdst
    | known h => exact .known h
    | refused h => exact .refused h
  | @reorder n s' hr =>
    cases h with
    | asked p t hp hpacket hdst => exact .asked p t hp hpacket hdst
    | answered p q hp hpacket hsrc hdst => exact .answered p q hp hpacket hsrc hdst
    | known h =>
      refine .known ?_
      show ((Function.update net.node n s' b).labels.labelAssignedByNeighbor a).isSome = true
      rw [update_node_eq (fun s => s.labels.labelAssignedByNeighbor a)
        (hr.labelAssignedByNeighbor_eq a)]
      exact h
    | refused h =>
      refine .refused ?_
      show (Function.update net.node n s' a).neighbors.Refuses b
      by_cases hn : a = n
      · subst hn
        rw [Function.update_self]
        exact h.reorder hr.neighbors
      · rw [Function.update_of_ne hn]
        exact h

/-- A node that broadcasts HELLOs asks every neighbour that runs. -/
theorem Link.of_hello (hP : D.Placed) (hreach : Reachable D F net) (hab : D.Mutual a b)
    {clock : Clock} {origin : Nat} {rest : List InFlight} :
    Link D ({ net with inFlight := rest }.call b clock .hello origin) a b := by
  have hcfg := node_config hreach b
  have ha : D.Runs a := Deployment.runs_of_mem_neighborsOf hab.1
  have hend : (net.node b).endpoint a = some (D.addr a) :=
    (endpoint_eq_some hP hcfg).mpr ⟨ha, rfl⟩
  have hmem : D.addr a ∈ (net.node b).logicalNeighbors.filterMap (net.node b).endpoint :=
    List.mem_filterMap.mpr ⟨a, by rw [logicalNeighbors_eq hcfg]; exact hab.2, hend⟩
  obtain ⟨i, hi⟩ := List.mem_iff_getElem?.mp hmem
  refine .asked _ (clock i) (mem_inFlight_call.mpr (.inr ⟨⟨.hello ⟨b, clock i⟩, D.addr a⟩, ?_, rfl⟩))
    rfl rfl
  show _ ∈ ((net.node b).sendHellos clock).outbound
  refine List.mem_map.mpr ⟨(D.addr a, i), List.mem_zipIdx_iff_getElem?.mpr hi, ?_⟩
  rw [nodeId_eq hcfg]

/-- Whoever has greeted a mutual neighbour since nothing is lost any more is in one of the
four states with it. -/
theorem link_of_greeted (hP : D.Placed) (h₀ : Reachable D .steady net₀) (hloss : F.loss = false)
    (hrestarts : F.restarts = false) (hrun : Run D F net₀ net) (hab : D.Mutual a b)
    (hgreeted : GreetedSince net₀ net b) : Link D net a b := by
  refine later_induction (fun net => GreetedSince net₀ net b → Link D net a b)
    (Faults.steady_permits hrestarts) h₀ ?_ ?_ hrun hgreeted
  · rintro ⟨c, hc, -⟩
    rw [since_self] at hc
    cases hc
  intro net net' hreach hrun ih hs hgreeted
  obtain ⟨c, hc, hcb, hinput⟩ := hgreeted
  rw [since_step hrun hs] at hc
  rcases List.mem_append.mp hc with hc | hc
  · -- The HELLOs are sent in this very step.
    cases hs with
    | @call n clock input origin rest hn hserved =>
      rw [since_call] at hc
      obtain rfl := List.mem_singleton.mp hc
      obtain rfl : n = b := hcb
      obtain rfl : input = .hello := hinput
      exact .of_hello hP hreach hab
    | lose h => rw [hloss] at h; cases h
    | duplicate => rw [since_transport] at hc; cases hc
    | restart h => rw [hrestarts] at h; cases h
    | reorder => rw [since_reorder] at hc; cases hc
  · exact (ih ⟨c, hc, hcb, hinput⟩).step hP hloss hrestarts hreach hab hs

/-! ## Once all greetings have arrived -/

/-- No HELLO and no HELLO_REPLY is in flight. -/
def GreetingsArrived (net : Network) : Prop :=
  ∀ p ∈ net.inFlight, p.packet.isGreeting = false

/-- What node `a` has told its neighbours. -/
structure Introduced (D : Deployment) (net : Network) (a : NodeId) : Prop where
  card : ((D.mutualsOf a).filter fun b => Knows net b a).card = min (D.mutualsOf a).card 255
  resolves : ∀ b l, (net.node b).labels.labelAssignedByNeighbor a = some l →
    D.Mutual a b ∧ net.resolve a l = some b

/-- A node that knows a label of `a` has an entry in the neighbour table of `a`. -/
theorem mem_of_knows (hP : D.Placed) (hself : D.NoSelfNeighbor) (hrestarts : F.restarts = false)
    (h : Reachable D F net) (hknows : Knows net b a) : b ∈ (net.node a).neighbors.entries := by
  obtain ⟨l, hl⟩ := Option.isSome_iff_exists.mp hknows
  exact mem_of_labelOf ((((mixedInvariant hP hself hrestarts).reachable h).1 b).learnt a l hl)

/-- A node that all its mutual neighbours have greeted has introduced itself to as many of
them as there are labels. -/
theorem introduced (hP : D.Placed) (hself : D.NoSelfNeighbor) (h₀ : Reachable D .steady net₀)
    (hloss : F.loss = false) (hrestarts : F.restarts = false) (hrun : Run D F net₀ net)
    (hquiet : GreetingsArrived net) (hgreeted : ∀ b ∈ D.mutualsOf a, GreetedSince net₀ net b) :
    Introduced D net a := by
  have h : Reachable D .steady net := h₀.trans (run_steady hrestarts hrun)
  have hok := ((mixedInvariant hP hself rfl).reachable h).1
  have htable := tableMutual hP h a
  -- Whoever does not know its label has been refused one.
  have hlinks : ∀ b ∈ D.mutualsOf a, Knows net b a ∨ (net.node a).neighbors.Refuses b := by
    intro b hb
    have hlink := link_of_greeted hP h₀ hloss hrestarts hrun (Deployment.mem_mutualsOf.mp hb)
      (hgreeted b hb)
    cases hlink with
    | asked p t hp hpacket =>
      have harrived := hquiet p hp
      rw [hpacket] at harrived
      cases harrived
    | answered p q hp hpacket =>
      have harrived := hquiet p hp
      rw [hpacket] at harrived
      cases harrived
    | known h => exact .inl h
    | refused h => exact .inr h
  have hkeys : ((D.mutualsOf a).filter fun b => Knows net b a) ⊆
      (net.node a).neighbors.entries.keys.toFinset := by
    intro b hb
    rw [List.mem_toFinset]
    exact AList.mem_keys.mp (mem_of_knows hP hself rfl h (Finset.mem_filter.mp hb).2)
  have hsize : (net.node a).neighbors.entries.keys.toFinset.card =
      (net.node a).neighbors.entries.size := by
    rw [List.toFinset_card_of_nodup (AList.keys_nodup _)]
    exact List.length_map ..
  have hfew := htable.wellFormed.size_le htable.range
  refine ⟨?_, fun b l hl => ?_⟩
  · by_cases hall : ∀ b ∈ D.mutualsOf a, Knows net b a
    · -- Nobody is refused, so there are no more neighbours than labels.
      have hle := Finset.card_le_card hkeys
      rw [Finset.filter_true_of_mem hall] at hle ⊢
      omega
    · -- Somebody is refused, so the table is full, and all its nodes know their labels.
      obtain ⟨b, hb, hunknown⟩ := not_forall₂.mp hall
      have hrefuses := (hlinks b hb).resolve_left hunknown
      have heq : ((D.mutualsOf a).filter fun b => Knows net b a) =
          (net.node a).neighbors.entries.keys.toFinset := by
        refine Finset.Subset.antisymm hkeys fun c hc => ?_
        have hc : c ∈ (net.node a).neighbors.entries :=
          AList.mem_keys.mpr (List.mem_toFinset.mp hc)
        have hmutual := Deployment.mem_mutualsOf.mpr (htable.listed c hc)
        exact Finset.mem_filter.mpr
          ⟨hmutual, (hlinks c hmutual).resolve_right fun hr => hr.notMem hc⟩
      have hlt : ((D.mutualsOf a).filter fun b => Knows net b a).card < (D.mutualsOf a).card :=
        Finset.card_lt_card (Finset.filter_ssubset.mpr ⟨b, hb, hunknown⟩)
      have hfull := hrefuses.full
      rw [heq, hsize] at hlt ⊢
      omega
  · have hassigned := (hok b).learnt a l hl
    obtain ⟨entry, hentry, hid, -, -⟩ :=
      neighborByLabel_of_labelOf (hok a).wellFormed (hok a).endpoints hassigned
    refine ⟨htable.listed b (mem_of_labelOf hassigned), ?_⟩
    rw [resolve, hentry, ← hid]
    rfl

/-- With no more than 255 mutual neighbours at a node, all labels are learnt. -/
theorem learnt_of_introduced (hfew : ∀ a, (D.mutualsOf a).card ≤ 255)
    (h : ∀ a, Introduced D net a) : Learnt D net := by
  intro a b hmutual
  have hcard := (h a).card
  rw [Nat.min_eq_left (hfew a)] at hcard
  have hall := Finset.eq_of_subset_of_card_le (Finset.filter_subset (fun b => Knows net b a) _)
    hcard.ge
  have hb := Deployment.mem_mutualsOf.mpr hmutual
  rw [← hall] at hb
  exact Option.isSome_iff_exists.mp (Finset.mem_filter.mp hb).2

theorem introduced_everywhere (hP : D.Placed) (hself : D.NoSelfNeighbor)
    (h₀ : Reachable D .steady net₀) (hloss : F.loss = false) (hrestarts : F.restarts = false)
    (hrun : Run D F net₀ net) (hquiet : GreetingsArrived net)
    (hgreeted : ∀ n, D.Runs n → GreetedSince net₀ net n) (a : NodeId) : Introduced D net a := by
  refine introduced hP hself h₀ hloss hrestarts hrun hquiet fun b hb => hgreeted b ?_
  exact Deployment.runs_of_mem_neighborsOf (Deployment.mem_mutualsOf.mp hb).2

/-- **Every node introduces itself to as many neighbours as it has labels for.** Up to `net₀`
the transport may have lost and duplicated whatever it liked; from there on it loses nothing.
Once all nodes have greeted since and no greeting is in flight, each of them has told as many
of its mutual neighbours their label as there are labels, and resolves these labels to them,
in whatever order and however often the greetings arrived. All labels are learnt exactly if
no node has more than 255 mutual neighbours. -/
theorem all_introduced (hP : D.Placed) (hself : D.NoSelfNeighbor)
    (h₀ : Reachable D .steady net₀) (hloss : F.loss = false) (hrestarts : F.restarts = false)
    (hrun : Run D F net₀ net) (hquiet : GreetingsArrived net)
    (hgreeted : ∀ n, D.Runs n → GreetedSince net₀ net n) :
    (∀ a, Introduced D net a) ∧ (Learnt D net ↔ ∀ a, (D.mutualsOf a).card ≤ 255) := by
  have hintroduced := introduced_everywhere hP hself h₀ hloss hrestarts hrun hquiet hgreeted
  refine ⟨hintroduced, fun hlearnt a => ?_, fun hfew => learnt_of_introduced hfew hintroduced⟩
  have hall : ∀ b ∈ D.mutualsOf a, Knows net b a := fun b hb =>
    Option.isSome_iff_exists.mpr (hlearnt a b (Deployment.mem_mutualsOf.mp hb))
  have hcard := (hintroduced a).card
  rw [Finset.filter_true_of_mem hall] at hcard
  omega

/-- All HELLOs and HELLO_REPLYs of `Deployment.line`. -/
def greetingsOnLine : List Action := labelsOnLine.take 11

/-- On a line of three nodes, node 1 introduces itself to both others, though the first
greeting of node 0 was lost. -/
theorem all_introduced_line :
    let lossy := after (.line .dlDsr) ⟨true, true, false⟩ [.act 0 tenMillis .hello, .lose 0]
    let net := resumed (.line .dlDsr) ⟨false, true, false⟩ lossy greetingsOnLine
    Introduced (.line .dlDsr) net 1 ∧ Knows net 0 1 := by
  intro lossy net
  refine ⟨?_, by decide +kernel⟩
  have hlossy : Reachable (.line .dlDsr) .steady lossy := reachable_after ..
  refine (all_introduced (Deployment.line_placed .dlDsr) (Deployment.line_noSelfNeighbor .dlDsr)
    hlossy rfl rfl (run_resumed _ ⟨false, true, false⟩ _ _) ?_ ?_).1 1
  · unfold GreetingsArrived
    decide +kernel
  · rintro n ⟨tn, hmem, rfl⟩
    revert tn
    decide +kernel

end Network

end DlDsr
