import DlDsr.Lib.Totals
import DlDsr.Network.Datagrams
import Mathlib.Algebra.BigOperators.Group.List.Basic

/-!
# The counters of the transport

Every daemon counts the packets and bytes that it sends and receives; a send is counted
when the socket has taken the datagram, a datagram when it has been decoded. What one
daemon counts as sent, another counts as received, unless the transport has lost it, and
it may count what the transport has duplicated. So the counters of all daemons together
account for every datagram (`transport_balanced`).
-/

namespace DlDsr

namespace DaemonNetwork

variable {codec : Codec} {D : Deployment} {F : Faults} {net net' : DaemonNetwork}

/-- What the counters of the transport count. -/
inductive Tally where
  | packets
  | bytes
deriving DecidableEq

namespace Tally

/-- The counter of what was sent. -/
def tx : Tally → TransportMetrics → Nat
  | packets => TransportMetrics.txPackets
  | bytes => TransportMetrics.txBytes

/-- The counter of what was received. -/
def rx : Tally → TransportMetrics → Nat
  | packets => TransportMetrics.rxPackets
  | bytes => TransportMetrics.rxBytes

/-- What a datagram counts for. -/
def weigh : Tally → Datagram → Nat
  | packets, _ => 1
  | bytes, g => g.bytes.length

/-- What some datagrams count for. -/
def weighAll (tally : Tally) (datagrams : List Datagram) : Nat := (datagrams.map tally.weigh).sum

variable {tally : Tally}

theorem weighAll_cons (g : Datagram) (gs : List Datagram) :
    tally.weighAll (g :: gs) = tally.weigh g + tally.weighAll gs := rfl

theorem weighAll_append (gs gs' : List Datagram) :
    tally.weighAll (gs ++ gs') = tally.weighAll gs + tally.weighAll gs' := by
  unfold weighAll
  rw [List.map_append, List.sum_append]

theorem weighAll_perm {gs gs' : List Datagram} (h : gs.Perm gs') :
    tally.weighAll gs = tally.weighAll gs' :=
  (h.map _).sum_eq

theorem weighAll_packets (gs : List Datagram) : weighAll packets gs = gs.length := by
  induction gs with
  | nil => rfl
  | cons g gs ih => rw [weighAll_cons, ih, List.length_cons, Nat.add_comm]; rfl

end Tally

/-- What a wakeup receives. -/
def received (codec : Codec) (tally : Tally) : Wakeup → Nat
  | .received bytes sender =>
    if (codec.decode bytes).isSome then tally.weigh ⟨bytes, sender, sender⟩ else 0
  | _ => 0

/-- A wakeup counts what it receives and what it sends. -/
theorem tally_wake (codec : Codec) (tally : Tally) (d : Daemon) (clock : Clock) (accepts : Nat → Bool)
    (wakeup : Wakeup) :
    tally.tx (d.wake codec clock accepts wakeup).1.transport =
        tally.tx d.transport + tally.weighAll (d.wake codec clock accepts wakeup).2.datagrams ∧
      tally.rx (d.wake codec clock accepts wakeup).1.transport =
        tally.rx d.transport + received codec tally wakeup := by
  cases hinput : wakeup.input codec with
  | none =>
    have hnone : received codec tally wakeup = 0 := by
      cases wakeup with
      | received bytes sender =>
        have hread : codec.decode bytes = none := Option.map_eq_none_iff.mp hinput
        unfold received
        dsimp only
        rw [hread]
        rfl
      | _ => rfl
    rw [Daemon.wake_of_none hinput, hnone]
    exact ⟨rfl, rfl⟩
  | some input =>
    have hcounted := (Daemon.wake_wakes d clock accepts hinput).counted
    rw [hcounted]
    constructor
    · cases tally with
      | packets =>
        rw [Tally.weighAll_packets]
        rfl
      | bytes => rfl
    · cases wakeup with
      | received bytes sender =>
        obtain ⟨packet, hread, -⟩ := Option.map_eq_some_iff.mp hinput
        unfold received
        dsimp only
        rw [hread]
        cases tally <;> rfl
      | _ => cases tally <;> rfl

/-- The sum of a counter over all daemons. -/
def total (D : Deployment) (net : DaemonNetwork) (counter : TransportMetrics → Nat) : Nat :=
  ((D.topology.nodes.map TopologyNode.nodeId).map fun n => counter (net.daemon n).transport).sum

theorem total_wake (hP : D.Placed) {n : NodeId} (hn : D.Runs n)
    {counter : TransportMetrics → Nat} {k : Nat} {d : Daemon}
    (h : counter d.transport = counter (net.daemon n).transport + k) {datagrams : List Datagram} :
    total D { net with daemon := Function.update net.daemon n d, datagrams := datagrams } counter =
      total D net counter + k := by
  obtain ⟨tn, hmem, rfl⟩ := hn
  have hsum := sumOver_update hP.ids_nodup (List.mem_map_of_mem hmem) net.daemon d
    fun d => counter d.transport
  show sumOver _ (fun m => counter (Function.update net.daemon tn.nodeId d m).transport) =
    sumOver _ (fun m => counter (net.daemon m).transport) + k
  omega

/-- The counters of all transports together account for every datagram. -/
def Balanced (D : Deployment) (net : DaemonNetwork) (tally : Tally) : Prop :=
  total D net tally.tx + tally.weighAll net.duplicated + tally.weighAll net.foreign =
    total D net tally.rx + tally.weighAll net.datagrams + tally.weighAll net.lost +
      tally.weighAll net.unread

theorem received_received (tally : Tally) (g : Datagram) :
    received codec tally (.received g.bytes g.sender) =
      if (codec.decode g.bytes).isSome then tally.weigh g else 0 := by
  unfold received
  cases tally <;> rfl

theorem total_update {n : NodeId} {s' : ProtocolState}
    (counter : TransportMetrics → Nat) :
    total D { net with daemon := Function.update net.daemon n { net.daemon n with state := s' } }
      counter = total D net counter :=
  sumOver_update_of_eq (f := fun d : Daemon => counter d.transport) rfl

/-- A wakeup keeps the balance, with what it receives taken from the datagrams. -/
theorem balanced_wake (hP : D.Placed) {tally : Tally} {n : NodeId} (hn : D.Runs n) (clock : Clock)
    (accepts : Nat → Bool) (wakeup : Wakeup)
    (h : total D net tally.tx + tally.weighAll net.duplicated + tally.weighAll net.foreign =
      total D net tally.rx + received codec tally wakeup + tally.weighAll net.datagrams +
        tally.weighAll net.lost + tally.weighAll net.unread) :
    Balanced D (net.wake codec n clock accepts wakeup) tally := by
  obtain ⟨htx, hrx⟩ := tally_wake codec tally (net.daemon n) clock accepts wakeup
  unfold Balanced wake
  dsimp only
  rw [Tally.weighAll_append, total_wake hP hn htx, total_wake hP hn hrx]
  omega

/-- Every step keeps the balance. -/
theorem Balanced.step (hP : D.Placed) (hF : F.restarts = false) {tally : Tally}
    (h : Balanced D net tally) (hs : StepCases codec D F net net') : Balanced D net' tally := by
  cases hs with
  | @wake n clock accepts wakeup hn hlocal =>
    refine balanced_wake hP hn clock accepts wakeup ?_
    have hnone : received codec tally wakeup = 0 := by
      cases wakeup with
      | received => cases hlocal
      | _ => rfl
    rw [hnone]
    exact h
  | @deliver n clock accepts g rest hn hg hdst =>
    refine balanced_wake hP hn clock accepts _ ?_
    have hweight : tally.weighAll net.datagrams = tally.weighAll (g :: rest) :=
      Tally.weighAll_perm hg
    rw [Tally.weighAll_cons] at hweight
    have hbalance : total D net tally.tx + _ + _ = total D net tally.rx + _ + _ + _ := h
    show total D net tally.tx + tally.weighAll net.duplicated + tally.weighAll net.foreign =
      total D net tally.rx + received codec tally _ + tally.weighAll rest +
        tally.weighAll net.lost + tally.weighAll (net.take codec g rest).unread
    rw [received_received]
    unfold take
    dsimp only
    split
    · omega
    · rw [Tally.weighAll_cons]
      omega
  | @lose g rest hF hg =>
    have hweight : tally.weighAll net.datagrams = tally.weighAll (g :: rest) :=
      Tally.weighAll_perm hg
    rw [Tally.weighAll_cons] at hweight
    unfold Balanced at h ⊢
    dsimp only
    rw [Tally.weighAll_cons]
    show total D net tally.tx + _ + _ = total D net tally.rx + _ + _ + _
    omega
  | @duplicate g hF hg =>
    unfold Balanced at h ⊢
    dsimp only
    rw [Tally.weighAll_cons, Tally.weighAll_cons]
    show total D net tally.tx + _ + _ = total D net tally.rx + _ + _ + _
    omega
  | @inject g hg =>
    unfold Balanced at h ⊢
    dsimp only
    rw [Tally.weighAll_cons, Tally.weighAll_cons]
    show total D net tally.tx + _ + _ = total D net tally.rx + _ + _ + _
    omega
  | restart hF' => rw [hF] at hF'; cases hF'
  | reorder hr =>
    unfold Balanced
    rw [total_update, total_update]
    exact h

theorem balanced_init (D : Deployment) (tally : Tally) : Balanced D (init D) tally := by
  have hzero : ∀ counter : TransportMetrics → Nat, counter {} = 0 →
      total D (init D) counter = 0 := by
    intro counter hcounter
    exact sumOver_eq_zero fun _ _ => hcounter
  unfold Balanced
  rw [hzero tally.tx (by cases tally <;> rfl), hzero tally.rx (by cases tally <;> rfl)]
  rfl

theorem balanced (hP : D.Placed) (hF : F.restarts = false) (h : Reachable codec D F net)
    (tally : Tally) : Balanced D net tally := by
  induction h with
  | refl => exact balanced_init D tally
  | tail _ hstep ih => exact ih.step hP hF (step_cases hstep)

/-! ## Control and data -/

/-- All bytes sent are bytes of control packets or of others. -/
def Split (transport : TransportMetrics) : Prop :=
  transport.txBytes = transport.controlBytes + transport.dataBytes

theorem bytesOf_add (codec : Codec) (gs : List Datagram) :
    Daemon.bytesOf codec true gs + Daemon.bytesOf codec false gs = Daemon.totalBytes gs := by
  unfold Daemon.bytesOf Daemon.totalBytes
  generalize hkind : (fun g : Datagram => ((codec.decode g.bytes).map isControlPacket).getD false) =
    kind
  have hfalse : (gs.filter fun g => kind g == false) = gs.filter fun g => !(kind g == true) :=
    List.filter_congr fun g _ => by cases kind g <;> rfl
  have hperm := (List.filter_append_perm (fun g => kind g == true) gs).map fun g => g.bytes.length
  subst hkind
  rw [hfalse, ← hperm.sum_eq, List.map_append, List.sum_append]

theorem split_wake {d : Daemon} (h : Split d.transport) (clock : Clock) (accepts : Nat → Bool)
    (wakeup : Wakeup) : Split (d.wake codec clock accepts wakeup).1.transport := by
  cases hinput : wakeup.input codec with
  | none =>
    rw [Daemon.wake_of_none hinput]
    exact h
  | some input =>
    rw [(Daemon.wake_wakes d clock accepts hinput).counted]
    have hadd := bytesOf_add codec (d.wake codec clock accepts wakeup).2.datagrams
    unfold Split at h ⊢
    dsimp only
    omega

/-- What holds of every daemon that keeps it in a wakeup holds of every daemon. -/
theorem daemon_induction {P : Daemon → Prop} (hnew : ∀ n, P (.new (D.config n)))
    (hwake : ∀ d clock accepts wakeup, P d → P (d.wake codec clock accepts wakeup).1)
    (hreorder : ∀ d s', P d → d.state.Reorder s' → P { d with state := s' })
    (h : Reachable codec D F net) (n : NodeId) : P (net.daemon n) := by
  have hupdate : ∀ {net : DaemonNetwork} {m : NodeId} {d : Daemon}, (∀ n, P (net.daemon n)) →
      P d → ∀ n, P (Function.update net.daemon m d n) := by
    intro net m d hall hd n
    by_cases hn : n = m
    · subst hn
      rw [Function.update_self]
      exact hd
    · rw [Function.update_of_ne hn]
      exact hall n
  revert n
  induction h with
  | refl => exact hnew
  | tail _ hstep ih =>
    cases step_cases hstep with
    | wake => exact hupdate ih (hwake _ _ _ _ (ih _))
    | deliver => exact hupdate ih (hwake _ _ _ _ (ih _))
    | lose => exact ih
    | duplicate => exact ih
    | inject => exact ih
    | restart => exact hupdate ih (hnew _)
    | reorder hr => exact hupdate ih (hreorder _ _ (ih _) hr)

theorem split (h : Reachable codec D F net) (n : NodeId) : Split (net.daemon n).transport :=
  daemon_induction (P := fun d => Split d.transport) (fun _ => rfl)
    (fun _ clock accepts wakeup hd => split_wake hd clock accepts wakeup) (fun _ _ hd _ => hd) h n

/-- What the counters of the transports say. -/
structure Accounted (D : Deployment) (net : DaemonNetwork) : Prop where
  packets : Balanced D net .packets
  bytes : Balanced D net .bytes
  split : ∀ n, Split (net.daemon n).transport

/-- **The transports account for every datagram.** As long as no daemon restarts, what all
daemons together have sent, and what has been duplicated or has come from elsewhere, has
been received by one of them, is in flight, was lost, or could not be decoded, in packets
and in bytes; and the bytes that a daemon has sent are those of its control packets and of
the others. -/
theorem transport_balanced (hP : D.Placed) (hF : F.restarts = false)
    (h : Reachable codec D F net) : Accounted D net :=
  ⟨balanced hP hF h .packets, balanced hP hF h .bytes, split h⟩

/-- On the line, a HELLO that was duplicated and lost, a discovery and a datagram from
elsewhere are accounted for. -/
theorem transport_balanced_line : Accounted (.line .dlDsr) onLine :=
  transport_balanced (Deployment.line_placed .dlDsr) rfl (reachable_after ..)

end DaemonNetwork

end DlDsr
