import DlDsr.Network.Steps
import DlDsr.Node.Requests

/-!
# What duplicate suppression suppresses

A node files an RREQ under its source and request id, and every process numbers its
requests from 1. So two discoveries share a key only if their node has restarted
between them (`starts_unique`), and an RREQ is taken for a duplicate only if the
node has admitted a copy of the same discovery, or has started it itself, or the
source has restarted meanwhile (`duplicate_cause`). The last two cases do occur
(`duplicate_of_no_copy`).

Discoveries are told apart by the index of the call that starts them, which their
packets carry as their origin.
-/

namespace DlDsr

/-- The call handles an RREQ with this key that is admitted. -/
def Call.Handles (c : Call) (key : RequestKey) : Prop :=
  ∃ q sender, c.input = .packet (.rreq q) sender ∧ c.before.Admits q ∧ q.key = key

/-- The call starts the discovery with this key. -/
def Call.Starts (c : Call) (key : RequestKey) : Prop := c.before.StartedBy c.after key

namespace Network

open ProtocolState

variable {D : Deployment} {F : Faults} {net net' : Network}

/-- The call with index `origin` has started the discovery with this key. -/
def StemsFrom (net : Network) (origin : Nat) (key : RequestKey) : Prop :=
  ∃ c, net.record origin = some (.call c) ∧ c.Starts key

/-- Node `n` has restarted between the records `i` and `j`, in either order. -/
def RestartedBetween (net : Network) (n : NodeId) (i j : Nat) : Prop :=
  ∃ k, net.record k = some (.restart n) ∧ ((i < k ∧ k < j) ∨ (j < k ∧ k < i))

theorem RestartedBetween.symm {n : NodeId} {i j : Nat} (h : RestartedBetween net n i j) :
    RestartedBetween net n j i := by
  obtain ⟨k, hk, horder⟩ := h
  exact ⟨k, hk, horder.symm⟩

theorem StemsFrom.step (hs : StepCases D F net net') {origin : Nat} {key : RequestKey}
    (h : StemsFrom net origin key) : StemsFrom net' origin key := by
  obtain ⟨c, hc, hstarts⟩ := h
  exact ⟨c, record_step hs hc, hstarts⟩

/-! ## Request ids are not reused by one process -/

/-- As long as a node does not restart, its counter stays above the numbers it has
used. -/
theorem counter_le (h : Reachable D F net) {i : Nat} {c : Call}
    (hc : net.record i = some (.call c))
    (hrunning : ∀ k, i < k → net.record k ≠ some (.restart c.nodeId)) :
    c.after.nextRequestId ≤ (net.node c.nodeId).nextRequestId := by
  refine reachable_induction
    (fun net => ∀ i c, net.record i = some (.call c) →
      (∀ k, i < k → net.record k ≠ some (.restart c.nodeId)) →
      c.after.nextRequestId ≤ (net.node c.nodeId).nextRequestId)
    (fun i c hc => by simp [record, init] at hc) ?_ h i c hc hrunning
  intro net net' hreach ih hs i c hc hrunning
  -- A call that was recorded before the step was followed by no restart before it.
  have hold : net.record i = some (.call c) →
      c.after.nextRequestId ≤ (net.node c.nodeId).nextRequestId :=
    fun hc => ih i c hc fun k hk hrestart => hrunning k hk (record_step hs hrestart)
  cases hs with
  | @call n clock input origin rest hn hserved =>
    rcases record_cons rfl hc with hc | ⟨-, heq⟩
    · by_cases hm : c.nodeId = n
      · rw [hm, call_node_self]
        have hcounter := hold hc
        rw [hm] at hcounter
        exact hcounter.trans (call_nextRequestId_le _ clock input)
      · rw [call_node_other hm]
        exact hold hc
    · obtain rfl := Record.call.inj heq
      rw [call_node_self]
  | lose => exact hold hc
  | duplicate => exact hold hc
  | @restart n hF hn =>
    rcases record_cons rfl hc with hc | ⟨-, heq⟩
    · by_cases hm : c.nodeId = n
      · -- This very step is a restart of the node.
        refine absurd ?_ (hrunning net.history.length (record_lt hc))
        rw [hm]
        exact record_last rfl
      · show _ ≤ (Function.update net.node n _ c.nodeId).nextRequestId
        rw [Function.update_of_ne hm]
        exact hold hc
    · cases heq
  | @reorder n s' hr =>
    show _ ≤ (Function.update net.node n s' c.nodeId).nextRequestId
    rw [update_node_eq nextRequestId hr.nextRequestId]
    exact hold hc

/-- Of two calls of one process, the later starts with a counter above the numbers
of the earlier. -/
theorem counter_le_of_lt (h : Reachable D F net) {i j : Nat} {c c' : Call}
    (hc : net.record i = some (.call c)) (hc' : net.record j = some (.call c')) (hij : i < j)
    (hid : c.nodeId = c'.nodeId)
    (hrunning : ∀ k, i < k → k < j → net.record k ≠ some (.restart c.nodeId)) :
    c.after.nextRequestId ≤ c'.before.nextRequestId := by
  refine record_induction
    (fun net j c' => ∀ i c, net.record i = some (.call c) → i < j → c.nodeId = c'.nodeId →
      (∀ k, i < k → k < j → net.record k ≠ some (.restart c.nodeId)) →
      c.after.nextRequestId ≤ c'.before.nextRequestId)
    ?_ ?_ h hc' i c hc hij hid hrunning
  · intro net net' j c' hs hc' ih i c hc hij hid hrunning
    have hj := record_lt hc'
    rw [record_of_lt hs (by omega)] at hc
    refine ih i c hc hij hid fun k hik hkj => ?_
    rw [← record_of_lt hs (by omega)]
    exact hrunning k hik hkj
  · intro net n clock input origin rest hreach hn hserved i c hc hij hid hrunning
    have hs := served_step F clock hn hserved
    rw [record_of_lt hs hij] at hc
    obtain rfl : c.nodeId = n := hid
    refine counter_le hreach hc fun k hk hrestart => ?_
    exact hrunning k hk (record_lt hrestart) (record_step hs hrestart)

/-! ## Where things come from -/

/-- The key is in the duplicate cache of `n` because of a recorded call. -/
def SeenBy (net : Network) (n : NodeId) (key : RequestKey) (bound : Nat) : Prop :=
  ∃ j < bound, ∃ c, net.record j = some (.call c) ∧ c.nodeId = n ∧ (c.Handles key ∨ c.Starts key)

theorem SeenBy.step (hs : StepCases D F net net') {n : NodeId} {key : RequestKey} {bound : Nat}
    (h : SeenBy net n key bound) : SeenBy net' n key bound := by
  obtain ⟨j, hj, c, hc, hrest⟩ := h
  exact ⟨j, hj, c, record_step hs hc, hrest⟩

theorem SeenBy.mono {n : NodeId} {key : RequestKey} {b b' : Nat} (h : SeenBy net n key b)
    (hb : b ≤ b') : SeenBy net n key b' := by
  obtain ⟨j, hj, c, hrest⟩ := h
  exact ⟨j, hj.trans_le hb, c, hrest⟩

/-- What the invariant says of the duplicate cache of a node. -/
def CacheTraced (net : Network) (n : NodeId) (s : ProtocolState) : Prop :=
  ∀ key ∈ s.seenRequests.seen, SeenBy net n key net.history.length

/-- What the invariant says of an RREQ in flight. -/
def RreqTraced (net : Network) (p : InFlight) : Prop :=
  ∀ q, p.packet = .rreq q → StemsFrom net p.origin q.key

theorem length_history_le (hs : StepCases D F net net') :
    net.history.length ≤ net'.history.length := (history_suffix hs).length_le

theorem tracedInvariant (D : Deployment) (F : Faults) :
    GlobalInvariant D F CacheTraced RreqTraced where
  new _ _ key hkey := absurd hkey (AList.notMem_empty key)
  node_mono _ hs h key hkey := ((h key hkey).step hs).mono (length_history_le hs)
  packet_mono _ hs h q hq := (h q hq).step hs
  reorder := by
    intro net n s s' h hr key hkey
    exact h key ((AList.mem_of_perm hr.seenRequests).mpr hkey)
  node := by
    intro net n clock input rest origin h hn hnode _ hserved key hkey
    have hs := served_step F clock hn hserved
    rcases call_seen hkey with hold | ⟨q, sender, rfl, hadmits, hq⟩ | hstarted
    · exact ((hnode n key hold).step hs).mono (length_history_le hs)
    · exact ⟨net.history.length, Nat.lt_succ_self _, _, record_last rfl, rfl,
        .inl ⟨q, sender, rfl, hadmits, hq⟩⟩
    · exact ⟨net.history.length, Nat.lt_succ_self _, _, record_last rfl, rfl, .inr hstarted⟩
  packet := by
    intro net n clock input o rest origin h hn hnode hpkt hserved ho q hq
    rcases (emits_of_mem ho).of_rreq hq with
      ⟨now, dst, id, hinput, hlow, hhigh, rfl⟩ | ⟨q₀, e, sender, rfl, -, -, he, rfl⟩
    · -- A discovery is started by a local call, whose index is the origin.
      cases hserved with
      | act => exact ⟨_, record_last rfl, rfl, hlow, hhigh⟩
      | deliver => rcases hinput with ⟨_, heq⟩ | ⟨_, heq⟩ <;> cases heq
    · show StemsFrom _ origin e.key
      rw [extendRreq_key he]
      exact (hpkt _ hserved.inFlight q₀ rfl).step (served_step F clock hn hserved)

/-- What is known of every recorded call. -/
structure CallTraced (net : Network) (i : Nat) (c : Call) : Prop where
  result : c.after = (c.before.call c.clock c.input).1
  nodeId : c.before.config.nodeId = c.nodeId
  own : c.input.isLocal → c.origin = i
  rreq : ∀ q sender, c.input = .packet (.rreq q) sender → StemsFrom net c.origin q.key
  seen : ∀ key ∈ c.before.seenRequests.seen, SeenBy net c.nodeId key i

theorem callTraced (h : Reachable D F net) {i : Nat} {c : Call}
    (hc : net.record i = some (.call c)) : CallTraced net i c := by
  refine record_induction CallTraced ?_ ?_ h hc
  · intro net net' i c hs _ ih
    exact ⟨ih.result, ih.nodeId, ih.own, fun q sender hq => (ih.rreq q sender hq).step hs,
      fun key hkey => (ih.seen key hkey).step hs⟩
  · intro net n clock input origin rest hreach hn hserved
    have hs := served_step F clock hn hserved
    obtain ⟨hnode, hpkt⟩ := (tracedInvariant D F).reachable hreach
    refine ⟨rfl, ProtocolState.nodeId_eq (node_config hreach n), ?_, ?_, ?_⟩
    · intro hlocal
      cases hserved with
      | act => rfl
      | deliver => cases hlocal
    · rintro q sender rfl
      exact (hpkt _ hserved.inFlight q rfl).step hs
    · intro key hkey
      exact (hnode n key hkey).step hs

/-! ## Discoveries with one key -/

/-- **One process never gives two discoveries the same key.** -/
theorem starts_unique (h : Reachable D F net) {i j : Nat} {key : RequestKey}
    (hi : StemsFrom net i key) (hj : StemsFrom net j key) :
    i = j ∨ RestartedBetween net key.1 i j := by
  -- It suffices to look at two calls in their order.
  have hlt : ∀ i j, StemsFrom net i key → StemsFrom net j key → i < j →
      RestartedBetween net key.1 i j := by
    rintro i j ⟨c, hc, hid, hlow, hhigh⟩ ⟨c', hc', hid', hlow', hhigh'⟩ hij
    rw [(callTraced h hc).nodeId] at hid
    rw [(callTraced h hc').nodeId] at hid'
    by_contra hrestart
    -- Without a restart, the later call would start above the number of the earlier.
    have hcounter := counter_le_of_lt h hc hc' hij (hid.symm.trans hid') fun k hik hkj hk => by
      rw [← hid] at hk
      exact hrestart ⟨k, hk, .inl ⟨hik, hkj⟩⟩
    omega
  rcases Nat.lt_trichotomy i j with hij | hij | hij
  · exact .inr (hlt i j hi hj hij)
  · exact .inl hij
  · exact .inr (hlt j i hj hi hij).symm

/-- **Duplicate suppression discards no fresh discovery of a running process.** When a
node counts an RREQ as a duplicate, then in an earlier call it has admitted an RREQ
with its key or has started a discovery with its key, and that is the very
discovery the RREQ stems from unless the source has restarted between the two. -/
theorem duplicate_cause (h : Reachable D F net) {i : Nat} {c : Call} {q : Rreq}
    {sender : SocketAddr} (hc : net.record i = some (.call c))
    (hq : c.input = .packet (.rreq q) sender)
    (hdup : c.after.metrics.rreqDroppedDuplicate ≠ c.before.metrics.rreqDroppedDuplicate) :
    StemsFrom net c.origin q.key ∧
      ∃ j < i, ∃ c₀, net.record j = some (.call c₀) ∧ c₀.nodeId = c.nodeId ∧
        (c₀.Handles q.key ∨ c₀.Starts q.key) ∧ StemsFrom net c₀.origin q.key ∧
        (c₀.origin = c.origin ∨ RestartedBetween net q.srcNodeId c₀.origin c.origin) := by
  have htraced := callTraced h hc
  have hstems := htraced.rreq q sender hq
  rw [htraced.result, hq] at hdup
  obtain ⟨-, hseen⟩ := handleRreq_duplicate hdup
  obtain ⟨j, hj, c₀, hc₀, hid, hcause⟩ := htraced.seen q.key hseen
  have htraced₀ := callTraced h hc₀
  -- The earlier call has handled an RREQ, or it is itself where the discovery started.
  have hstems₀ : StemsFrom net c₀.origin q.key := by
    rcases hcause with ⟨q₀, sender₀, hq₀, -, hkey⟩ | hstarts
    · rw [← hkey]
      exact htraced₀.rreq q₀ sender₀ hq₀
    · have hlocal : c₀.input.isLocal := by
        have hstarted := hstarts
        unfold Call.Starts at hstarted
        rw [htraced₀.result] at hstarted
        rcases hstarted.input with ⟨_, heq⟩ | ⟨_, heq⟩ <;> rw [heq] <;> rfl
      rw [htraced₀.own hlocal]
      exact ⟨c₀, hc₀, hstarts⟩
  exact ⟨hstems, j, hj, c₀, hc₀, hid, hcause, hstems₀, starts_unique h hstems₀ hstems⟩

/-- Whether a record is a call with a given property. -/
def isCall (p : Call → Bool) : Record → Bool
  | .call c => p c
  | .restart _ => false

theorem call_of_isCall {p : Call → Bool} {i : Nat} (h : (net.record i).any (isCall p) = true) :
    ∃ c, net.record i = some (.call c) ∧ p c = true := by
  cases hr : net.record i with
  | none =>
    rw [hr] at h
    cases h
  | some r =>
    rw [hr] at h
    cases r with
    | call c => exact ⟨c, rfl, h⟩
    | restart n => cases h

/-- The call handles `q` and counts it as a duplicate. -/
def countsRreq (q : Rreq) (sender : SocketAddr) (c : Call) : Bool :=
  c.input == .packet (.rreq q) sender &&
    c.after.metrics.rreqDroppedDuplicate != c.before.metrics.rreqDroppedDuplicate

/-- The RREQ of node 0 for node 2, with request id 1. -/
def firstRreq : Rreq :=
  { srcNodeId := 0, dstNodeId := 2, requestId := 1, previousHop := 0, hopCount := 0,
    dsrPath := [0], dldsrLabelPath := [], tracePath := [0], createdAtMillis := 10 }

/-- The RREQ is duplicated by the transport, and node 1 is handed both copies. -/
def duplicatedOnLine : List Action :=
  [.act 0 tenMillis (.command (.discoverAndSend 2 [7])), .duplicate 0, .deliver 0 1 tenMillis,
   .deliver 0 1 tenMillis]

/-- Node 1 counts the second copy, and has admitted the first. -/
theorem duplicate_cause_line :
    let net := after (.line .dsr) ⟨false, true, false⟩ duplicatedOnLine
    ∃ c, net.record 2 = some (.call c) ∧ countsRreq firstRreq (.localhost 7000) c = true ∧
      ∃ j < 2, ∃ c₀, net.record j = some (.call c₀) ∧ c₀.nodeId = c.nodeId ∧
        (c₀.Handles firstRreq.key ∨ c₀.Starts firstRreq.key) := by
  intro net
  have hrun : (net.record 2).any (isCall (countsRreq firstRreq (.localhost 7000))) = true := by
    decide +kernel
  obtain ⟨c, hc, hcounts⟩ := call_of_isCall hrun
  have hparts := hcounts
  simp only [countsRreq, Bool.and_eq_true, beq_iff_eq, bne_iff_ne] at hparts
  obtain ⟨hinput, hdup⟩ := hparts
  obtain ⟨-, j, hj, c₀, hc₀, hid, hcause, -⟩ :=
    duplicate_cause (reachable_after ..) hc hinput hdup
  exact ⟨c, hc, hcounts, j, hj, c₀, hc₀, hid, hcause⟩

/-- When a node counts an RREQ as a duplicate, it has handled a copy that stems from
the same discovery before. -/
def SuppressesCopiesOnly (D : Deployment) (F : Faults) : Prop :=
  ∀ net, Reachable D F net → ∀ i c q sender, net.record i = some (.call c) →
    c.input = .packet (.rreq q) sender →
    c.after.metrics.rreqDroppedDuplicate ≠ c.before.metrics.rreqDroppedDuplicate →
    ∃ j < i, ∃ c₀, net.record j = some (.call c₀) ∧ c₀.nodeId = c.nodeId ∧
      c₀.Handles q.key ∧ c₀.origin = c.origin

/-- A run in which the record `i` counts a duplicate, although no earlier call of its
node has handled a packet of the same origin. -/
theorem not_suppressesCopiesOnly (h : Reachable D F net) (n : NodeId) (i origin : Nat) (q : Rreq)
    (sender : SocketAddr)
    (hcounts : (net.record i).any (isCall fun c =>
      c.nodeId == n && c.origin == origin && countsRreq q sender c) = true)
    (hbefore : ∀ j < i, (net.record j).any (isCall fun c =>
      c.nodeId == n && c.origin == origin && !c.input.isLocal) = false) :
    ¬ SuppressesCopiesOnly D F := by
  intro hsuppresses
  obtain ⟨c, hc, hcounts⟩ := call_of_isCall hcounts
  simp only [countsRreq, Bool.and_eq_true, beq_iff_eq, bne_iff_ne] at hcounts
  obtain ⟨⟨hnode, horigin⟩, hinput, hdup⟩ := hcounts
  obtain ⟨j, hj, c₀, hc₀, hid, ⟨q₀, sender₀, hinput₀, -⟩, heq⟩ :=
    hsuppresses net h i c q sender hc hinput hdup
  have hnone := hbefore j hj
  rw [hc₀] at hnone
  simp [isCall, hid, hnode, heq, horigin, hinput₀, Input.isLocal] at hnone

/-- Node 0 restarts after its RREQ has reached node 1, and looks for node 2 again. -/
def restartedOnLine : List Action :=
  [.act 0 tenMillis (.command (.discoverAndSend 2 [7])), .deliver 0 1 tenMillis, .restart 0,
   .act 0 tenMillis (.command (.discoverAndSend 2 [7])), .deliver 1 1 tenMillis]

/-- Three nodes, each a neighbour of the others. -/
def triangle : Deployment :=
  .onLocalhost (.testSettings .dsr) [(0, [1, 2]), (1, [0, 2]), (2, [0, 1])]

/-- On a triangle, node 0 looks for a node 9 that does not exist, and its RREQ comes back
to it through nodes 1 and 2. -/
def echoOnTriangle : List Action :=
  [.act 0 tenMillis (.command (.discoverAndSend 9 [7])), .deliver 0 1 tenMillis,
   .deliver 1 2 tenMillis, .deliver 1 0 tenMillis]

/-- The RREQ that comes back. -/
def echoedRreq : Rreq :=
  { srcNodeId := 0, dstNodeId := 9, requestId := 1, previousHop := 2, hopCount := 2,
    dsrPath := [0, 1, 2], dldsrLabelPath := [], tracePath := [0, 1, 2], createdAtMillis := 10 }

/-- An RREQ of which the node has handled no copy is counted in two cases: after a
restart of its source, whose fresh discovery is discarded, and, without any fault, at
its source, which has marked the discovery as seen when it started it. -/
theorem duplicate_of_no_copy :
    ¬ SuppressesCopiesOnly (.line .dsr) ⟨false, false, true⟩ ∧
      ¬ SuppressesCopiesOnly triangle ⟨false, false, false⟩ := by
  constructor
  · exact not_suppressesCopiesOnly
      (reachable_after (.line .dsr) ⟨false, false, true⟩ restartedOnLine) 1 4 3 firstRreq
      (.localhost 7000) (by decide +kernel) (by decide +kernel)
  · exact not_suppressesCopiesOnly
      (reachable_after triangle ⟨false, false, false⟩ echoOnTriangle) 0 3 0 echoedRreq
      (.localhost 7002) (by decide +kernel) (by decide +kernel)

end Network

end DlDsr
