import DlDsr.Network.Steps
import DlDsr.Node.Episodes
import Mathlib.Algebra.Ring.Nat

/-!
# Every discovery is concluded once

The calls a node has served since it last started tell which discoveries have begun and
not been concluded (`Open`); the `discoveries` of the node are exactly these. Successes,
failures and outstanding discoveries therefore add up to the episodes begun, unless an
RREP was accepted that found no outstanding discovery (`settled`). A reply to an earlier
request that does find one concludes that one.
-/

namespace DlDsr

/-- The calls that node `n` has served since it last started, latest first. -/
def callsSinceStart (n : NodeId) : List Record → List Call
  | [] => []
  | .call c :: earlier =>
    if c.nodeId = n then c :: callsSinceStart n earlier else callsSinceStart n earlier
  | .restart m :: earlier => if m = n then [] else callsSinceStart n earlier

theorem mem_callsOf_of_sinceStart {n : NodeId} {history : List Record} {c : Call}
    (h : c ∈ callsSinceStart n history) : c ∈ callsOf history ∧ c.nodeId = n := by
  induction history with
  | nil => cases h
  | cons r history ih =>
    cases r with
    | call c' =>
      simp only [callsSinceStart] at h
      split at h
      · next hn =>
        rcases List.mem_cons.mp h with rfl | h
        · exact ⟨List.mem_cons_self, hn⟩
        · exact ⟨List.mem_cons_of_mem _ (ih h).1, (ih h).2⟩
      · exact ⟨List.mem_cons_of_mem _ (ih h).1, (ih h).2⟩
    | restart m =>
      simp only [callsSinceStart] at h
      split at h
      · cases h
      · exact ih h

/-- Among these calls, latest first, the last one that began or concluded a discovery of
`dst` began one. -/
def Open (dst : NodeId) : List Call → Prop
  | [] => False
  | c :: earlier =>
    c.before.Begins c.clock c.input dst ∨
      (Open dst earlier ∧ c.actions.events.any (ProtocolEvent.concludes dst) = false)

/-- The episodes that the calls began. -/
def episodesBegun (calls : List Call) : Nat :=
  (calls.map fun c => c.before.episodes c.clock c.input).sum

/-- How many of the calls accepted an RREP that found no outstanding discovery. -/
def overdueReplies (calls : List Call) : Nat :=
  (calls.map fun c => if c.before.Overdue c.input then 1 else 0).sum

theorem overdueReplies_eq_zero {calls : List Call} :
    overdueReplies calls = 0 ↔ ∀ c ∈ calls, ¬ c.before.Overdue c.input := by
  induction calls with
  | nil => simp [overdueReplies]
  | cons c calls ih =>
    have hcons : overdueReplies (c :: calls) =
        (if c.before.Overdue c.input then 1 else 0) + overdueReplies calls := rfl
    rw [hcons, Nat.add_eq_zero_iff, ih, List.forall_mem_cons]
    refine and_congr_left fun _ => ?_
    split <;> simp [*]

namespace Network

open ProtocolState

variable {D : Deployment} {F : Faults} {net net' : Network}

/-- **Each discovery of node `n` is concluded once**: what is counted and what is
outstanding adds up to the episodes begun, and every RREP counted as a success concludes
a discovery that was still open. -/
structure ConcludedOnce (net : Network) (n : NodeId) : Prop where
  balanced : (net.node n).discoveryBalance = episodesBegun (callsSinceStart n net.history)
  once : ∀ later c earlier, callsSinceStart n net.history = later ++ c :: earlier →
    ∀ dst id, .routeCached n dst id ∈ c.actions.events → Open dst earlier

/-- What a node has counted, has outstanding and has served, taken together. -/
structure Settled (s : ProtocolState) (calls : List Call) : Prop where
  balance : s.discoveryBalance = episodesBegun calls + overdueReplies calls
  outstanding : ∀ dst, dst ∈ s.discoveries ↔ Open dst calls
  before : ∀ later c earlier, calls = later ++ c :: earlier →
    ∀ dst, dst ∈ c.before.discoveries ↔ Open dst earlier

theorem settled_new (config : NodeConfig) : Settled (.new config) [] where
  balance := rfl
  outstanding _ := iff_of_false (AList.notMem_empty _) id
  before later _ _ h := absurd h.symm (by simp)

/-- The step: one more call. -/
theorem Settled.call {s : ProtocolState} {calls : List Call} (h : Settled s calls) {c : Call}
    (hbefore : c.before = s) (hresult : (c.after, c.actions) = s.call c.clock c.input) :
    Settled c.after (c :: calls) := by
  obtain ⟨hafter, hactions⟩ := Prod.ext_iff.mp hresult
  dsimp only at hafter hactions
  have hsettles := call_settles s c.clock c.input
  refine ⟨?_, ?_, ?_⟩
  · have hepisodes : episodesBegun (c :: calls) =
        s.episodes c.clock c.input + episodesBegun calls := by
      rw [← hbefore]
      rfl
    have hoverdue : overdueReplies (c :: calls) =
        (if s.Overdue c.input then 1 else 0) + overdueReplies calls := by
      rw [← hbefore]
      rfl
    have hbalance := hsettles.balance
    have hold := h.balance
    rw [hafter, hepisodes, hoverdue]
    omega
  · intro dst
    rw [hafter, hsettles.outstanding dst, h.outstanding dst, ← hactions, ← hbefore]
    rfl
  · intro later c' earlier hsplit dst
    rcases List.cons_eq_append_iff.mp hsplit with ⟨-, hhead⟩ | ⟨later', -, hsplit⟩
    · obtain ⟨rfl, rfl⟩ := List.cons.inj hhead.symm
      rw [hbefore]
      exact h.outstanding dst
    · exact h.before later' c' earlier hsplit dst

/-- Another iteration order changes neither the number of outstanding discoveries nor
which there are. -/
theorem Settled.reorder {s s' : ProtocolState} {calls : List Call} (h : Settled s calls)
    (hs : s.Reorder s') : Settled s' calls := by
  refine ⟨?_, fun dst => ?_, h.before⟩
  · have hsize := hs.discoveries.size_eq
    rw [← h.balance]
    unfold discoveryBalance
    rw [hs.metrics, hsize]
  · rw [← h.outstanding dst, ← AList.lookup_isSome, ← AList.lookup_isSome,
      hs.discoveries.lookup_eq dst]

theorem callsSinceStart_call_self {n : NodeId} {clock : Clock} {input : Input} {origin : Nat}
    {rest : List InFlight} :
    callsSinceStart n ({ net with inFlight := rest }.call n clock input origin).history =
      ⟨n, clock, input, net.node n, ((net.node n).call clock input).1,
        ((net.node n).call clock input).2, origin⟩ :: callsSinceStart n net.history :=
  if_pos rfl

theorem callsSinceStart_call_other {m n : NodeId} {clock : Clock} {input : Input} {origin : Nat}
    {rest : List InFlight} (h : m ≠ n) :
    callsSinceStart n ({ net with inFlight := rest }.call m clock input origin).history =
      callsSinceStart n net.history :=
  if_neg h

/-- A call of any node. -/
theorem settled_call {m n : NodeId} {clock : Clock} {input : Input} {origin : Nat}
    {rest : List InFlight} (h : Settled (net.node n) (callsSinceStart n net.history)) :
    Settled (({ net with inFlight := rest }.call m clock input origin).node n)
      (callsSinceStart n ({ net with inFlight := rest }.call m clock input origin).history) := by
  by_cases hm : m = n
  · subst hm
    rw [callsSinceStart_call_self, call_node_self]
    exact Settled.call h (c := ⟨m, clock, input, net.node m, _, _, origin⟩) rfl rfl
  · rw [callsSinceStart_call_other hm, call_node_other (Ne.symm hm)]
    exact h

/-- The run: in every reachable network, whatever the faults. -/
theorem settled (h : Reachable D F net) (n : NodeId) :
    Settled (net.node n) (callsSinceStart n net.history) := by
  refine reachable_induction (fun net => Settled (net.node n) (callsSinceStart n net.history))
    (settled_new _) ?_ h
  intro net net' _ ih hs
  cases hs with
  | call => exact settled_call ih
  | lose => exact ih
  | duplicate => exact ih
  | @restart m =>
    by_cases hm : m = n
    · subst hm
      show Settled (Function.update net.node m _ m) (callsSinceStart m (.restart m :: net.history))
      rw [Function.update_self]
      have hnone : callsSinceStart m (.restart m :: net.history) = [] := if_pos rfl
      rw [hnone]
      exact settled_new _
    · show Settled (Function.update net.node m _ n) (callsSinceStart n (.restart m :: net.history))
      rw [Function.update_of_ne (Ne.symm hm)]
      have hsame : callsSinceStart n (.restart m :: net.history) = callsSinceStart n net.history :=
        if_neg hm
      rw [hsame]
      exact ih
  | @reorder m s' hreorder =>
    by_cases hm : m = n
    · subst hm
      show Settled (Function.update net.node m s' m) _
      rw [Function.update_self]
      exact ih.reorder hreorder
    · show Settled (Function.update net.node m s' n) _
      rw [Function.update_of_ne (Ne.symm hm)]
      exact ih

/-- **Each discovery is concluded once, exactly if every RREP that is accepted at its
source finds an outstanding discovery for its destination.** -/
theorem concludedOnce_iff (h : Reachable D F net) (n : NodeId) :
    net.ConcludedOnce n ↔
      ∀ c ∈ callsSinceStart n net.history, ¬ c.before.Overdue c.input := by
  have hsettled := settled h n
  rw [← overdueReplies_eq_zero]
  constructor
  · intro honce
    have hbalanced := honce.balanced
    have hbalance := hsettled.balance
    omega
  · intro hnone
    refine ⟨?_, ?_⟩
    · rw [hsettled.balance, hnone, Nat.add_zero]
    · intro later c earlier hsplit dst id hevent
      have hmem : c ∈ callsSinceStart n net.history := by
        rw [hsplit]
        exact List.mem_append_right _ List.mem_cons_self
      obtain ⟨hresult, -⟩ := result_of_mem_callsOf h (mem_callsOf_of_sinceStart hmem).1
      have hactions : c.actions = (c.before.call c.clock c.input).2 := (Prod.ext_iff.mp hresult).2
      rw [hactions] at hevent
      -- The RREP was accepted, so it found the discovery.
      obtain ⟨p, sender, hinput, hok, hsrc, rfl⟩ := (announces_of_mem hevent).of_routeCached
      have hfound : p.dstNodeId ∈ c.before.discoveries := by
        by_contra hmissing
        refine overdueReplies_eq_zero.mp hnone c hmem ?_
        rw [hinput]
        exact ⟨hok, hsrc, hmissing⟩
      exact (hsettled.before later c earlier hsplit _).mp hfound

/-- On the line, node 0's discovery of node 2 is concluded once. -/
theorem concludedOnce_iff_onLine :
    (after (.line .dsr) ⟨true, false, false⟩ discoveryOnLine).ConcludedOnce 0 :=
  (concludedOnce_iff (reachable_after _ _ _) 0).mpr (by decide +kernel)

/-- Two nodes, each the other's only neighbour. -/
def pair : Deployment := .onLocalhost (.testSettings .dsr) [(0, [1]), (1, [0])]

/-- Node 0 looks for node 1 and, with no answer in time, asks again. Both requests
arrive after all, and so do both replies. -/
def slowPair : List Action :=
  [.act 0 tenMillis (.command (.discoverAndSend 1 [7])), .act 0 tenMillis (.tick 5000),
   .deliver 0 1 tenMillis, .deliver 0 1 tenMillis, .deliver 0 0 tenMillis, .deliver 0 0 tenMillis]

/-- One discovery, two successes: nothing is lost, duplicated or restarted. -/
theorem success_counted_twice :
    ∃ net, Reachable pair ⟨false, false, false⟩ net ∧
      episodesBegun (callsSinceStart 0 net.history) = 1 ∧
      (net.node 0).metrics.routeDiscoverySuccesses = 2 ∧ ¬ net.ConcludedOnce 0 := by
  refine ⟨after pair ⟨false, false, false⟩ slowPair, reachable_after _ _ _, by decide +kernel,
    by decide +kernel, fun h => ?_⟩
  exact absurd h.balanced (by decide +kernel)

end Network

end DlDsr
