import DlDsr.Node.Discovery
import DlDsr.Node.Rounds

/-!
# How long a payload waits

The daemon ticks the protocol again and again. If every call is over at most `gap`
milliseconds after the last tick began, a discovery is retried or fails at most `gap` after
its timeout has passed, and it is retried `route_discovery_max_retries` times at most. So a
destination has payloads in the queue for no longer than the timeouts of all its rounds
with a gap each (`waits_bounded`), whatever arrives in the meantime.

The invariant (`Timely`) says that the last tick left no discovery behind whose timeout had
passed, and `Since` how late the current round of a discovery can be.
-/

namespace DlDsr

namespace ProtocolState

variable {s : ProtocolState} {clock : Clock} {d : NodeId}

/-- The time of every round is a reading of the clock. -/
theorem sentAt_of_mem_rounds {input : Input} {round : Round}
    (h : round ∈ s.rounds clock input) : ∃ i, round.sentAtMillis = clock i := by
  cases input with
  | command c =>
    obtain ⟨dst, payload⟩ := c
    unfold rounds commandRounds at h
    dsimp only at h
    split at h
    · cases h
    · split at h
      · cases h
      · rw [List.mem_singleton.mp h]
        exact ⟨1, rfl⟩
  | tick now =>
    have h : round ∈ s.loopRounds clock (s.expiredDiscoveries now) := h
    rw [loopRounds_eq, roundsFrom_eq_map clock s.nextRequestId
      (keysOf_retrying_nodup (s.expiredDiscoveries_nodup now))] at h
    obtain ⟨dst, -, rfl⟩ := List.mem_map.mp h
    exact ⟨_, rfl⟩
  | packet => cases h
  | hello => cases h

end ProtocolState

/-- A node, the time its last tick began, and the time. -/
structure TimedNode where
  state : ProtocolState
  lastTick : Nat
  now : Nat

namespace TimedNode

/-- The time of the last tick after a call. -/
def tickAfter (x : TimedNode) : Input → Nat
  | .tick now => now
  | _ => x.lastTick

/-- A call that begins and ends at these times. A tick is given the time it begins at. -/
inductive Step (gap : Nat) (x : TimedNode) : TimedNode → Prop where
  | call (clock : Clock) (input : Input) (begins ends : Nat) (hbegins : x.now ≤ begins)
      (hends : begins ≤ ends) (hreads : ∀ i, begins ≤ clock i ∧ clock i ≤ ends)
      (htick : ∀ now, input = .tick now → now = begins) (hgap : ends ≤ x.lastTick + gap) :
      Step gap x ⟨(x.state.call clock input).1, x.tickAfter input, ends⟩
  | reorder (s' : ProtocolState) (h : x.state.Reorder s') :
      Step gap x ⟨s', x.lastTick, x.now⟩

/-- What a node can get into that is started at some time. -/
def Reachable (config : NodeConfig) (start gap : Nat) (x : TimedNode) : Prop :=
  Relation.ReflTransGen (Step gap) ⟨.new config, start, start⟩ x

/-- A payload for `d` is in the queue. -/
def Waiting (d : NodeId) (x : TimedNode) : Prop := ∃ p ∈ x.state.pendingData, p.dstNodeId = d

/-- A run throughout which a payload for `d` is in the queue. -/
def WaitsThrough (gap : Nat) (d : NodeId) (x y : TimedNode) : Prop :=
  x.Waiting d ∧ Relation.ReflTransGen (fun x y => Step gap x y ∧ y.Waiting d) x y

variable {config : NodeConfig} {start gap : Nat} {x y z : TimedNode} {d : NodeId}

/-! ## One discovery -/

/-- Where the record of a discovery comes from: it was there, and no tick found it expired,
or a round was sent in the call. -/
inductive Origin (x : TimedNode) (begins ends : Nat) (d : NodeId) (tick : Nat)
    (state : DiscoveryState) : Prop where
  | kept (h : x.state.discoveries.lookup d = some state)
      (hwait : tick = x.lastTick ∨
        tick < state.lastSentMillis + x.state.config.routeDiscoveryTimeoutMs)
  | opened (hsent : begins ≤ state.lastSentMillis ∧ state.lastSentMillis ≤ ends)
      (hretries : state.retriesDone = 0) (hnone : x.state.discoveries.lookup d = none)
  | retried (old : DiscoveryState) (h : x.state.discoveries.lookup d = some old)
      (hsent : begins ≤ state.lastSentMillis ∧ state.lastSentMillis ≤ ends)
      (hretries : state.retriesDone = old.retriesDone + 1)
      (hleft : old.retriesDone < x.state.config.routeDiscoveryMaxRetries)

theorem origin_of_lookup {clock : Clock} {input : Input} {begins ends : Nat}
    {state : DiscoveryState} (hreads : ∀ i, begins ≤ clock i ∧ clock i ≤ ends)
    (h : (x.state.call clock input).1.discoveries.lookup d = some state) :
    Origin x begins ends d (x.tickAfter input) state := by
  have hstep := ProtocolState.call_discoveryStep x.state clock input d
  have htimes : ∀ round ∈ ProtocolState.roundsFor d (x.state.rounds clock input),
      begins ≤ round.sentAtMillis ∧ round.sentAtMillis ≤ ends := by
    intro round hround
    obtain ⟨i, hi⟩ := ProtocolState.sentAt_of_mem_rounds (List.mem_of_mem_filter hround)
    rw [hi]
    exact hreads i
  rw [h] at hstep
  generalize hafter : some state = after, ProtocolState.roundsFor d (x.state.rounds clock input) =
    rounds at hstep htimes
  cases hstep with
  | kept _ hwait =>
    refine .kept hafter.symm ?_
    cases input with
    | tick now =>
      have hlt := hwait now state rfl hafter.symm
      refine .inr ?_
      show now < _
      omega
    | _ => exact .inl rfl
  | answered => cases hafter
  | opened payload requestId sentAt hnone =>
    cases hafter
    exact .opened (htimes _ List.mem_cons_self) rfl hnone
  | retried now requestId sentAt old hold hexpired hleft =>
    cases hafter
    exact .retried old hold (htimes _ List.mem_cons_self) rfl hleft
  | failed => cases hafter

/-! ## What holds of every node that is ticked in time -/

/-- The times of the discoveries of a node that is ticked in time. -/
structure Timely (config : NodeConfig) (gap : Nat) (x : TimedNode) : Prop where
  configured : x.state.config = config
  tracked : x.state.Tracked
  tick_le : x.lastTick ≤ x.now
  now_le : x.now ≤ x.lastTick + gap
  fresh : ∀ d state, x.state.discoveries.lookup d = some state →
    x.lastTick ≤ state.lastSentMillis + config.routeDiscoveryTimeoutMs ∧
      state.lastSentMillis ≤ x.now ∧ state.retriesDone ≤ config.routeDiscoveryMaxRetries

theorem timely_new (config : NodeConfig) (start gap : Nat) :
    Timely config gap ⟨.new config, start, start⟩ where
  configured := rfl
  tracked := by
    intro d
    refine ⟨fun ⟨p, hp, _⟩ => absurd hp List.not_mem_nil, fun h => ?_⟩
    exact absurd h (AList.notMem_empty d)
  tick_le := Nat.le_refl start
  now_le := Nat.le_add_right start gap
  fresh _ _ h := nomatch h

theorem Timely.step (h : Timely config gap x) (hs : Step gap x y) : Timely config gap y := by
  cases hs with
  | call clock input begins ends hbegins hends hreads htick hgap =>
    have hcfg := h.configured
    have hle := h.tick_le
    have htick' : x.lastTick ≤ x.tickAfter input ∧ x.tickAfter input ≤ begins := by
      cases input with
      | tick now =>
        show x.lastTick ≤ now ∧ now ≤ begins
        rw [htick now rfl]
        omega
      | _ =>
        show x.lastTick ≤ x.lastTick ∧ x.lastTick ≤ begins
        omega
    refine ⟨?_, ProtocolState.call_tracked input h.tracked, by dsimp only; omega,
      by dsimp only; omega, fun d state hstate => ?_⟩
    · show (x.state.call clock input).1.config = config
      rw [ProtocolState.call_config, hcfg]
    · dsimp only
      cases origin_of_lookup hreads hstate with
      | kept hold hwait =>
        obtain ⟨hfresh, hsent, hretries⟩ := h.fresh d state hold
        rw [hcfg] at hwait
        refine ⟨?_, by omega, hretries⟩
        rcases hwait with heq | hlt
        · rw [heq]
          exact hfresh
        · exact hlt.le
      | opened hsent hretries => exact ⟨by omega, hsent.2, by omega⟩
      | retried old hold hsent hretries hleft =>
        rw [hcfg] at hleft
        exact ⟨by omega, hsent.2, by omega⟩
  | reorder s' hr =>
    refine ⟨hr.config.trans h.configured, ?_, h.tick_le, h.now_le, fun d state hstate => ?_⟩
    · exact h.tracked.of_eq hr.pendingData fun d => (AList.mem_of_perm hr.discoveries).symm
    · exact h.fresh d state (by rw [hr.discoveries.lookup_eq]; exact hstate)

theorem Reachable.timely (h : Reachable config start gap x) : Timely config gap x := by
  induction h with
  | refl => exact timely_new config start gap
  | tail _ hs ih => exact ih.step hs

/-! ## Waiting -/

/-- The discovery of `d` has sent its rounds in time, counted from `since`. -/
def Since (config : NodeConfig) (gap since : Nat) (d : NodeId) (x : TimedNode) : Prop :=
  ∃ state, x.state.discoveries.lookup d = some state ∧ state.lastSentMillis ≤
    since + state.retriesDone * (config.routeDiscoveryTimeoutMs + gap)

/-- Where a payload waits, a discovery is outstanding. -/
theorem Timely.discovery (h : Timely config gap x) (hwaiting : x.Waiting d) :
    ∃ state, x.state.discoveries.lookup d = some state :=
  Option.isSome_iff_exists.mp (AList.lookup_isSome.mpr ((h.tracked d).mp hwaiting))

theorem Since.step {since : Nat} (h : Timely config gap x) (hsince : Since config gap since d x)
    (hs : Step gap x y) (hwaiting : y.Waiting d) : Since config gap since d y := by
  obtain ⟨state, hstate⟩ := (h.step hs).discovery hwaiting
  obtain ⟨old, hold, hsent⟩ := hsince
  refine ⟨state, hstate, ?_⟩
  cases hs with
  | call clock input begins ends hbegins hends hreads htick hgap =>
    cases origin_of_lookup hreads hstate with
    | kept hkept =>
      obtain rfl := Option.some.inj (hold.symm.trans hkept)
      exact hsent
    | opened _ _ hnone =>
      rw [hold] at hnone
      cases hnone
    | retried old' hold' hnew hretries =>
      obtain rfl := Option.some.inj (hold.symm.trans hold')
      have hfresh := (h.fresh d old hold).1
      rw [hretries, Nat.succ_mul]
      omega
  | reorder s' hr =>
    rw [hr.discoveries.lookup_eq] at hold
    obtain rfl := Option.some.inj (hold.symm.trans hstate)
    exact hsent

/-- **No payload waits for ever.** Whatever a node is called with, as long as every call is
over `gap` milliseconds after the last tick began: if payloads for `d` are in the queue
throughout a run, the run takes no longer than one round of a discovery and its retries, each
with its timeout and a gap. -/
theorem waits_bounded (hx : Reachable config start gap x) (hwaits : WaitsThrough gap d x y) :
    y.now ≤ x.now +
      (config.routeDiscoveryMaxRetries + 1) * (config.routeDiscoveryTimeoutMs + gap) := by
  obtain ⟨hwaiting, hrun⟩ := hwaits
  have hinv : Timely config gap y ∧ Since config gap x.now d y := by
    induction hrun with
    | refl =>
      obtain ⟨state, hstate⟩ := hx.timely.discovery hwaiting
      refine ⟨hx.timely, state, hstate, ?_⟩
      exact (hx.timely.fresh d state hstate).2.1.trans (Nat.le_add_right _ _)
    | tail _ hs ih => exact ⟨ih.1.step hs.1, ih.2.step ih.1 hs.1 hs.2⟩
  obtain ⟨htimely, state, hstate, hsent⟩ := hinv
  obtain ⟨hfresh, -, hretries⟩ := htimely.fresh d state hstate
  have hnow := htimely.now_le
  have hrounds := Nat.mul_le_mul_right (config.routeDiscoveryTimeoutMs + gap) hretries
  rw [Nat.succ_mul]
  omega

/-- A node that is asked at time 100 to send to node 2, and ticked every 100 milliseconds. -/
theorem waits_bounded_queued :
    let queued : TimedNode := ⟨((ProtocolState.new (.testSettings .dsr)).call (fun _ => 150)
      (.command (.discoverAndSend 2 [7]))).1, 100, 150⟩
    let ticked : TimedNode := ⟨(queued.state.call (fun _ => 200) (.tick 200)).1, 200, 200⟩
    ticked.now ≤ queued.now + (3 + 1) * (2000 + 100) := by
  intro queued ticked
  have hqueued : Reachable (.testSettings .dsr) 100 100 queued :=
    .single (.call (fun _ => 150) (.command (.discoverAndSend 2 [7])) 150 150 (by decide)
      (by decide) (fun _ => ⟨Nat.le_refl _, Nat.le_refl _⟩) nofun (by decide))
  have hstep : Step 100 queued ticked :=
    .call (fun _ => 200) (.tick 200) 200 200 (by decide) (by decide)
      (fun _ => ⟨Nat.le_refl _, Nat.le_refl _⟩) (fun _ heq => (Input.tick.inj heq).symm) (by decide)
  exact waits_bounded (d := 2) hqueued
    ⟨⟨_, List.mem_cons_self, rfl⟩, .single ⟨hstep, ⟨_, List.mem_cons_self, rfl⟩⟩⟩

end TimedNode

end DlDsr
