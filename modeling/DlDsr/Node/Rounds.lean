import DlDsr.Node.Requests
import DlDsr.Node.Retries
import Mathlib.Algebra.Order.Group.Nat

/-!
# Accounting for retries

`discoveries` holds one record per outstanding discovery, which every round replaces as a
whole. To say what the record counts, a run is watched with a `Ledger`, which the code does
not have: it keeps all rounds the node has originated, those of each discovery since it was
opened, and the ticks since the latest of them.

`call_discoveryStep` says once what a call can do to the discovery of one destination; that
the records and the ledger agree (`Accounted`) is an invariant of every run, and what a tick
does (`TickAccounted`) is then read off the ledger alone.
-/

namespace DlDsr

namespace ProtocolState

variable {s : ProtocolState} {clock : Clock} {d : NodeId}

/-! ## The rounds of a call -/

/-- The round that `start_discovery` originates. -/
def startedRound (self : ProtocolState) (clock : Clock) (dstNodeId : NodeId) : Round :=
  { requestId := self.nextRequestId, dstNodeId := dstNodeId, sentAtMillis := clock 0 }

/-- The round of `discover_and_send`, if it starts a discovery. -/
def commandRounds (self : ProtocolState) (clock : Clock) (dstNodeId : NodeId) : List Round :=
  match self.routes.shortest dstNodeId (clock 0) with
  | some _ => []
  | none =>
    if dstNodeId ∈ self.discoveries then []
    else [self.startedRound (clock.later 1) dstNodeId]

/-- The rounds of the loop of `retry_expired_discoveries`. -/
def loopRounds (self : ProtocolState) (clock : Clock) : List Expired → List Round
  | [] => []
  | ⟨dstNodeId, state⟩ :: expired =>
    if self.config.routeDiscoveryMaxRetries ≤ state.retriesDone then
      (self.failDiscovery dstNodeId state).1.loopRounds clock expired
    else
      self.startedRound clock dstNodeId ::
        (self.startDiscovery clock dstNodeId (state.retriesDone + 1)).1.loopRounds
          (clock.later 1) expired

/-- The rounds that a call originates: only commands and ticks start discoveries. -/
def rounds (self : ProtocolState) (clock : Clock) : Input → List Round
  | .command (.discoverAndSend dstNodeId _) => self.commandRounds clock dstNodeId
  | .tick now => self.loopRounds clock (self.expiredDiscoveries now)
  | .packet _ _ => []
  | .hello => []

theorem loopRounds_eq (s : ProtocolState) (clock : Clock) (expired : List Expired) :
    s.loopRounds clock expired = roundsFrom clock s.nextRequestId
      (keysOf (retrying s.config.routeDiscoveryMaxRetries expired)) := by
  induction expired generalizing s clock with
  | nil => rfl
  | cons entry expired ih =>
    obtain ⟨dst, state⟩ := entry
    simp only [loopRounds]
    by_cases hmax : s.config.routeDiscoveryMaxRetries ≤ state.retriesDone
    · rw [if_pos hmax, retrying_cons_of_le hmax, ih]
      rfl
    · rw [if_neg hmax, retrying_cons_of_not_le hmax, ih]
      rfl

/-- What a tick sends are the floods of its rounds. -/
theorem tick_outbound (s : ProtocolState) (clock : Clock) (now : Nat) :
    (s.call clock (.tick now)).2.outbound =
      (s.rounds clock (.tick now)).flatMap s.floodRound := by
  show _ = (s.loopRounds clock (s.expiredDiscoveries now)).flatMap s.floodRound
  rw [call_tick, retryLoop_outbound_eq, loopRounds_eq]
  exact List.flatMap_congr fun round _ => floodRound_of_config (by rfl) round

/-- If a call originates rounds, what it sends are their floods. -/
theorem rounds_outbound (s : ProtocolState) (clock : Clock) (input : Input)
    (h : s.rounds clock input ≠ []) :
    (s.call clock input).2.outbound = (s.rounds clock input).flatMap s.floodRound := by
  cases input with
  | command c =>
    obtain ⟨dst, payload⟩ := c
    change s.commandRounds clock dst ≠ [] at h
    show (s.discoverAndSend clock dst payload).2.outbound =
      (s.commandRounds clock dst).flatMap s.floodRound
    unfold commandRounds at h ⊢
    rcases discoverAndSend_cases s clock dst payload with
      ⟨route, hroute, -⟩ | ⟨hroute, hmem, -⟩ | ⟨hroute, hmem, heq⟩
    · rw [hroute] at h
      exact absurd rfl h
    · rw [hroute, if_pos hmem] at h
      exact absurd rfl h
    · rw [hroute, if_neg hmem, heq]
      exact (List.flatMap_singleton ..).symm
  | tick now => exact tick_outbound s clock now
  | packet => exact absurd rfl h
  | hello => exact absurd rfl h

/-! ## What a call does to one discovery -/

/-- The rounds for one destination. -/
def roundsFor (d : NodeId) (rounds : List Round) : List Round :=
  rounds.filter fun round => round.dstNodeId == d

theorem roundsFor_roundsFrom (clock : Clock) (requestId : Nat) {keys : List NodeId}
    (hnodup : keys.Nodup) :
    roundsFor d (roundsFrom clock requestId keys) =
      if d ∈ keys then [⟨requestId + keys.idxOf d, d, clock (keys.idxOf d)⟩] else [] := by
  rw [roundsFrom_eq_map clock requestId hnodup, roundsFor, List.filter_map]
  show (keys.filter fun key => key == d).map _ = _
  rw [List.filter_beq, hnodup.count]
  split <;> rfl

/-- What a call can do to the discovery of `d`: the record it leaves behind, and the rounds
it originates for `d`. -/
inductive DiscoveryStep (s : ProtocolState) (d : NodeId) :
    Input → Option DiscoveryState → List Round → Prop where
  | kept (input : Input)
      (hwait : ∀ now state, input = .tick now → s.discoveries.lookup d = some state →
        now - state.lastSentMillis < s.config.routeDiscoveryTimeoutMs) :
      DiscoveryStep s d input (s.discoveries.lookup d) []
  | answered (p : Rrep) (sender : SocketAddr) (hdst : d = p.dstNodeId) :
      DiscoveryStep s d (.packet (.rrep p) sender) none []
  | opened (payload : List UInt8) (requestId sentAt : Nat)
      (hnone : s.discoveries.lookup d = none) :
      DiscoveryStep s d (.command (.discoverAndSend d payload)) (some ⟨requestId, sentAt, 0⟩)
        [⟨requestId, d, sentAt⟩]
  | retried (now requestId sentAt : Nat) (state : DiscoveryState)
      (hstate : s.discoveries.lookup d = some state)
      (hexpired : s.config.routeDiscoveryTimeoutMs ≤ now - state.lastSentMillis)
      (hleft : state.retriesDone < s.config.routeDiscoveryMaxRetries) :
      DiscoveryStep s d (.tick now) (some ⟨requestId, sentAt, state.retriesDone + 1⟩)
        [⟨requestId, d, sentAt⟩]
  | failed (now : Nat) (state : DiscoveryState) (hstate : s.discoveries.lookup d = some state)
      (hexpired : s.config.routeDiscoveryTimeoutMs ≤ now - state.lastSentMillis)
      (hmax : s.config.routeDiscoveryMaxRetries ≤ state.retriesDone) :
      DiscoveryStep s d (.tick now) none []

/-- The step of a command. -/
theorem discoverAndSend_discoveryStep (s : ProtocolState) (clock : Clock) (dst : NodeId)
    (payload : List UInt8) (d : NodeId) :
    DiscoveryStep s d (.command (.discoverAndSend dst payload))
      ((s.discoverAndSend clock dst payload).1.discoveries.lookup d)
      (roundsFor d (s.commandRounds clock dst)) := by
  have hkept := DiscoveryStep.kept (s := s) (d := d) (.command (.discoverAndSend dst payload))
    (by intro now state h; cases h)
  unfold commandRounds
  rcases discoverAndSend_cases s clock dst payload with
    ⟨route, hroute, heq⟩ | ⟨hroute, hmem, heq⟩ | ⟨hroute, hmem, heq⟩
  · obtain ⟨m, hm⟩ := originData_state s (clock.later 1) dst payload route
    rw [heq, hm, hroute]
    exact hkept
  · rw [heq, hroute, if_pos hmem]
    exact hkept
  · rw [heq, hroute, if_neg hmem]
    show DiscoveryStep s d _ ((s.discoveries.insert dst _).lookup d)
      (roundsFor d [s.startedRound (clock.later 1) dst])
    rw [AList.lookup_insert_eq]
    by_cases hd : d = dst
    · subst hd
      have hround : roundsFor d [s.startedRound (clock.later 1) d] =
          [s.startedRound (clock.later 1) d] := List.filter_cons_of_pos (beq_self_eq_true d)
      rw [if_pos rfl, hround]
      exact .opened payload _ _ (AList.lookup_eq_none.mpr hmem)
    · have hround : roundsFor d [s.startedRound (clock.later 1) dst] = [] :=
        List.filter_cons_of_neg (by simpa [startedRound] using Ne.symm hd)
      rw [if_neg hd, hround]
      exact hkept

/-- The step of a tick. -/
theorem handleTick_discoveryStep (s : ProtocolState) (clock : Clock) (now : Nat) (d : NodeId) :
    DiscoveryStep s d (.tick now) ((s.call clock (.tick now)).1.discoveries.lookup d)
      (roundsFor d (s.rounds clock (.tick now))) := by
  have hnodup := s.expiredDiscoveries_nodup now
  have hretryingNodup :
      (keysOf (retrying s.config.routeDiscoveryMaxRetries (s.expiredDiscoveries now))).Nodup :=
    keysOf_retrying_nodup hnodup
  show DiscoveryStep s d _ _ (roundsFor d (s.loopRounds clock (s.expiredDiscoveries now)))
  rw [call_tick, loopRounds_eq, roundsFor_roundsFrom clock s.nextRequestId hretryingNodup]
  by_cases hd : d ∈ keysOf (s.expiredDiscoveries now)
  · obtain ⟨state, hmem⟩ := mem_keysOf.mp hd
    obtain ⟨hstate, hexpired⟩ := mem_expiredDiscoveries.mp hmem
    by_cases hmax : s.config.routeDiscoveryMaxRetries ≤ state.retriesDone
    · have hfailing := mem_keysOf.mpr ⟨state, mem_failing.mpr ⟨hmem, hmax⟩⟩
      rw [if_neg (keysOf_disjoint hnodup hfailing)]
      rw [retryLoop_discoveries_of_failing (s.pruned now) clock hnodup hfailing]
      exact .failed now state hstate hexpired hmax
    · have hleft := Nat.lt_of_not_le hmax
      have hretrying := mem_retrying.mpr ⟨hmem, hleft⟩
      rw [if_pos (mem_keysOf.mpr ⟨state, hretrying⟩)]
      have hlookup := retryLoop_discoveries_of_retrying (s.pruned now) clock hnodup hretrying
      dsimp only at hlookup
      rw [hlookup]
      exact .retried now _ _ state hstate hexpired hleft
  · rw [if_neg fun h => hd (mem_keysOf_retrying h)]
    rw [retryLoop_discoveries_of_notMem (s.pruned now) clock hd]
    refine .kept (.tick now) fun now' state htick hstate => ?_
    cases htick
    by_contra hexpired
    exact hd (mem_keysOf.mpr ⟨state, mem_expiredDiscoveries.mpr ⟨hstate, by omega⟩⟩)

theorem call_discoveryStep (s : ProtocolState) (clock : Clock) (input : Input) (d : NodeId) :
    DiscoveryStep s d input ((s.call clock input).1.discoveries.lookup d)
      (roundsFor d (s.rounds clock input)) := by
  cases input with
  | command c =>
    obtain ⟨dst, payload⟩ := c
    exact discoverAndSend_discoveryStep s clock dst payload d
  | tick now => exact handleTick_discoveryStep s clock now d
  | hello => exact .kept .hello (by intro now state h; cases h)
  | packet packet sender =>
    have hkept := DiscoveryStep.kept (s := s) (d := d) (.packet packet sender)
      (by intro now state h; cases h)
    show DiscoveryStep s d _ ((s.handlePacket clock packet sender).1.discoveries.lookup d) []
    rcases handlePacket_queue s clock packet sender with
      ⟨-, hsame⟩ | ⟨p, rfl, -, -, -, herase⟩
    · rw [hsame]
      exact hkept
    · rw [herase, AList.lookup_erase_eq]
      split
      · next hdst => exact .answered p sender hdst
      · exact hkept

/-! ## Request ids -/

theorem roundsFrom_requestIds (clock : Clock) (requestId : Nat) (keys : List NodeId) :
    (roundsFrom clock requestId keys).map Round.requestId =
      List.range' requestId keys.length := by
  induction keys generalizing clock requestId with
  | nil => rfl
  | cons d keys ih =>
    show requestId :: (roundsFrom (clock.later 1) (requestId + 1) keys).map Round.requestId = _
    rw [ih, List.length_cons, List.range'_succ]

/-- The rounds of a call take the next request ids, one after the other. -/
theorem rounds_requestIds (s : ProtocolState) (clock : Clock) (input : Input) :
    (s.rounds clock input).map Round.requestId =
        List.range' s.nextRequestId (s.rounds clock input).length ∧
      (s.call clock input).1.nextRequestId =
        s.nextRequestId + (s.rounds clock input).length := by
  cases input with
  | command c =>
    obtain ⟨dst, payload⟩ := c
    show (s.commandRounds clock dst).map Round.requestId =
        List.range' s.nextRequestId (s.commandRounds clock dst).length ∧
      (s.discoverAndSend clock dst payload).1.nextRequestId =
        s.nextRequestId + (s.commandRounds clock dst).length
    unfold commandRounds
    rcases discoverAndSend_cases s clock dst payload with
      ⟨route, hroute, heq⟩ | ⟨hroute, hmem, heq⟩ | ⟨hroute, hmem, heq⟩
    · obtain ⟨m, hm⟩ := originData_state s (clock.later 1) dst payload route
      rw [heq, hm, hroute]
      exact ⟨rfl, rfl⟩
    · rw [heq, hroute, if_pos hmem]
      exact ⟨rfl, rfl⟩
    · rw [heq, hroute, if_neg hmem]
      exact ⟨rfl, rfl⟩
  | tick now =>
    have hids := roundsFrom_requestIds clock s.nextRequestId
      (keysOf (retrying s.config.routeDiscoveryMaxRetries (s.expiredDiscoveries now)))
    have hlength := congrArg List.length hids
    rw [List.length_map, List.length_range'] at hlength
    have hkeys : (keysOf (retrying s.config.routeDiscoveryMaxRetries
      (s.expiredDiscoveries now))).length = _ := List.length_map ..
    have hrounds : s.rounds clock (.tick now) = _ :=
      loopRounds_eq s clock (s.expiredDiscoveries now)
    rw [call_tick, retryLoop_nextRequestId_eq, hrounds, hids, hlength, hkeys]
    exact ⟨rfl, rfl⟩
  | hello => exact ⟨rfl, rfl⟩
  | packet packet sender => exact ⟨rfl, handlePacket_nextRequestId s clock packet sender⟩

end ProtocolState

/-! ## The ledger -/

open ProtocolState

/-- A node under observation: its state, the rounds it has originated (oldest first), and
for each destination with an outstanding discovery the rounds since it was opened and the
ticks since the latest of them. -/
structure Ledger where
  state : ProtocolState
  rounds : List Round := []
  since : NodeId → List Round := fun _ => []
  ticks : NodeId → List Nat := fun _ => []

/-- The time of a tick. -/
def Input.tickTimes : Input → List Nat
  | .tick now => [now]
  | _ => []

namespace Ledger

variable {l : Ledger} {clock : Clock} {config : NodeConfig} {d : NodeId} {now : Nat}

/-- The rounds for `d` since its discovery was opened, after a call. -/
def sinceAfter (l : Ledger) (clock : Clock) (input : Input) (d : NodeId) : List Round :=
  if d ∈ (l.state.call clock input).1.discoveries then
    (if d ∈ l.state.discoveries then l.since d else []) ++
      roundsFor d (l.state.rounds clock input)
  else []

/-- The ticks since the latest round for `d`, after a call. -/
def ticksAfter (l : Ledger) (clock : Clock) (input : Input) (d : NodeId) : List Nat :=
  if d ∈ (l.state.call clock input).1.discoveries ∧ roundsFor d (l.state.rounds clock input) = []
  then l.ticks d ++ input.tickTimes
  else []

/-- One call, observed. -/
def call (l : Ledger) (clock : Clock) (input : Input) : Ledger :=
  { state := (l.state.call clock input).1
    rounds := l.rounds ++ l.state.rounds clock input
    since := l.sinceAfter clock input
    ticks := l.ticksAfter clock input }

/-- The runs of a node, observed from its start. -/
inductive Reachable (config : NodeConfig) : Ledger → Prop where
  | new : Reachable config { state := .new config }
  | call {l : Ledger} (clock : Clock) (input : Input) (h : Reachable config l) :
      Reachable config (l.call clock input)
  | reorder {l : Ledger} {s' : ProtocolState} (h : Reachable config l)
      (hs : l.state.Reorder s') : Reachable config { l with state := s' }

theorem Reachable.config_eq (h : l.Reachable config) : l.state.config = config := by
  induction h with
  | new => rfl
  | @call l clock input _ ih =>
    show (l.state.call clock input).1.config = config
    rw [call_config, ih]
  | reorder _ hs ih => rw [hs.config, ih]

/-- What a record of `discoveries` says about the ledger. -/
structure Records (l : Ledger) (d : NodeId) (state : DiscoveryState) : Prop where
  retries : state.retriesDone ≤ l.state.config.routeDiscoveryMaxRetries
  rounds : (l.since d).length = state.retriesDone + 1
  latest : (l.since d).getLast? = some ⟨state.requestId, d, state.lastSentMillis⟩
  waited : ∀ now ∈ l.ticks d,
    now - state.lastSentMillis < l.state.config.routeDiscoveryTimeoutMs

/-- The records and the ledger agree. -/
structure Accounted (l : Ledger) : Prop where
  outstanding : ∀ d state, l.state.discoveries.lookup d = some state → l.Records d state
  closed : ∀ d, l.state.discoveries.lookup d = none → l.since d = [] ∧ l.ticks d = []
  numbered : l.rounds.map Round.requestId = List.range' 1 l.rounds.length
  counter : l.state.nextRequestId = l.rounds.length + 1

theorem mem_of_lookup {s : ProtocolState} {state : DiscoveryState}
    (h : s.discoveries.lookup d = some state) : d ∈ s.discoveries :=
  AList.lookup_isSome.mp (by rw [h]; rfl)

/-- The step of the ledger for one destination, by what the call does to its discovery. -/
theorem Accounted.outstanding_call (h : l.Accounted) (clock : Clock) (input : Input)
    {state : DiscoveryState}
    (hstate : (l.state.call clock input).1.discoveries.lookup d = some state) :
    (l.call clock input).Records d state := by
  have hmem' := mem_of_lookup hstate
  have hsince : (l.call clock input).since d =
      (if d ∈ l.state.discoveries then l.since d else []) ++
        roundsFor d (l.state.rounds clock input) := if_pos hmem'
  have hticks : (l.call clock input).ticks d =
      if roundsFor d (l.state.rounds clock input) = [] then l.ticks d ++ input.tickTimes
      else [] := by
    show l.ticksAfter clock input d = _
    unfold ticksAfter
    simp only [hmem', true_and]
  have hconfig : (l.call clock input).state.config = l.state.config := call_config input
  have hstep := call_discoveryStep l.state clock input d
  rw [hstate] at hstep
  generalize hrounds : roundsFor d (l.state.rounds clock input) = rounds at hstep hsince hticks
  generalize hafter : some state = after at hstep
  cases hstep with
  | kept _ hwait =>
    obtain ⟨hretries, hlength, hlatest, hwaited⟩ := h.outstanding d state hafter.symm
    rw [if_pos (mem_of_lookup hafter.symm), List.append_nil] at hsince
    rw [if_pos rfl] at hticks
    refine ⟨hconfig ▸ hretries, hsince ▸ hlength, hsince ▸ hlatest, fun now hnow => ?_⟩
    rw [hticks] at hnow
    rw [hconfig]
    rcases List.mem_append.mp hnow with hold | hnew
    · exact hwaited now hold
    · cases input with
      | tick time =>
        rw [List.mem_singleton.mp hnew]
        exact hwait time state rfl hafter.symm
      | _ => cases hnew
  | answered => cases hafter
  | opened payload requestId sentAt hnone =>
    cases hafter
    rw [if_neg (AList.lookup_eq_none.mp hnone), List.nil_append] at hsince
    rw [if_neg (List.cons_ne_nil _ _)] at hticks
    refine ⟨Nat.zero_le _, by rw [hsince]; rfl, by rw [hsince]; rfl, fun now hnow => ?_⟩
    rw [hticks] at hnow
    cases hnow
  | retried now requestId sentAt old hold hexpired hleft =>
    cases hafter
    obtain ⟨-, hlength, -, -⟩ := h.outstanding d old hold
    rw [if_pos (mem_of_lookup hold)] at hsince
    rw [if_neg (List.cons_ne_nil _ _)] at hticks
    refine ⟨hconfig ▸ hleft, ?_, ?_, fun now hnow => ?_⟩
    · rw [hsince, List.length_append, hlength]
      rfl
    · rw [hsince, List.getLast?_append]
      rfl
    · rw [hticks] at hnow
      cases hnow
  | failed => cases hafter

theorem Accounted.call (h : l.Accounted) (clock : Clock) (input : Input) :
    (l.call clock input).Accounted := by
  obtain ⟨hids, hcounter⟩ := rounds_requestIds l.state clock input
  refine ⟨fun d state hstate => h.outstanding_call clock input hstate, fun d hnone => ?_, ?_, ?_⟩
  · have hnotMem := AList.lookup_eq_none.mp hnone
    exact ⟨if_neg hnotMem, if_neg fun hmem => hnotMem hmem.1⟩
  · show (l.rounds ++ l.state.rounds clock input).map Round.requestId =
      List.range' 1 (l.rounds ++ l.state.rounds clock input).length
    rw [List.map_append, h.numbered, hids, h.counter, List.length_append,
      Nat.add_comm l.rounds.length 1]
    exact List.range'_append_1
  · show (l.state.call clock input).1.nextRequestId =
      (l.rounds ++ l.state.rounds clock input).length + 1
    rw [hcounter, h.counter, List.length_append]
    omega

theorem Reachable.accounted (h : l.Reachable config) : l.Accounted := by
  induction h with
  | new =>
    refine ⟨fun d state hstate => ?_, fun _ _ => ⟨rfl, rfl⟩, rfl, rfl⟩
    change none = some state at hstate
    cases hstate
  | call clock input _ ih => exact ih.call clock input
  | @reorder l s' _ hs ih =>
    refine ⟨fun d state hstate => ?_, fun d hnone => ?_, ih.numbered, ?_⟩
    · obtain ⟨hretries, hlength, hlatest, hwaited⟩ :=
        ih.outstanding d state ((hs.discoveries.lookup_eq d).trans hstate)
      refine ⟨?_, hlength, hlatest, fun now hnow => ?_⟩
      · show _ ≤ s'.config.routeDiscoveryMaxRetries
        rw [hs.config]
        exact hretries
      · show _ < s'.config.routeDiscoveryTimeoutMs
        rw [hs.config]
        exact hwaited now hnow
    · exact ih.closed d ((hs.discoveries.lookup_eq d).trans hnone)
    · exact hs.nextRequestId.trans ih.counter

/-! ## What a tick does, read off the ledger -/

/-- The timeout has passed since the latest round for `d`. -/
def overdue (l : Ledger) (now : Nat) (d : NodeId) : Bool :=
  match (l.since d).getLast? with
  | some latest =>
    decide (l.state.config.routeDiscoveryTimeoutMs ≤ now - latest.sentAtMillis)
  | none => false

/-- A tick at `now` is to fail the discovery of `d`: it is overdue, and all rounds are used
up. -/
def failsAt (l : Ledger) (now : Nat) (d : NodeId) : Bool :=
  l.overdue now d && (l.since d).length == l.state.config.routeDiscoveryMaxRetries + 1

/-- A tick at `now` is to originate a new round for `d`. -/
def retriesAt (l : Ledger) (now : Nat) (d : NodeId) : Bool :=
  l.overdue now d && decide ((l.since d).length ≤ l.state.config.routeDiscoveryMaxRetries)

/-- The event reports that the discovery of `d` failed. -/
def isFailureOf (d : NodeId) : ProtocolEvent → Bool
  | .routeDiscoveryFailed _ dst _ => dst == d
  | _ => false

/-- What a tick does, as the ledger determines it. -/
structure TickAccounted (l : Ledger) (clock : Clock) (now : Nat) : Prop where
  rounds : ∀ d, (roundsFor d (l.state.rounds clock (.tick now))).length =
    if l.retriesAt now d then 1 else 0
  flooded : (l.state.call clock (.tick now)).2.outbound =
    (l.state.rounds clock (.tick now)).flatMap l.state.floodRound
  reported : ∀ d, (l.state.call clock (.tick now)).2.events.filter (isFailureOf d) =
    if l.failsAt now d then
      [.routeDiscoveryFailed l.state.config.nodeId d
        (l.state.config.routeDiscoveryMaxRetries + 1)]
    else []
  removed : ∀ d, d ∈ (l.state.call clock (.tick now)).1.discoveries ↔
    d ∈ l.state.discoveries ∧ l.failsAt now d = false
  pendingData : (l.state.call clock (.tick now)).1.pendingData =
    l.state.pendingData.filter fun p => !l.failsAt now p.dstNodeId
  dataDropped : (l.state.call clock (.tick now)).1.metrics.dataDropped =
    l.state.metrics.dataDropped + l.state.pendingData.countP fun p => l.failsAt now p.dstNodeId
  droppedPackets : (l.state.call clock (.tick now)).1.metrics.droppedPackets =
    l.state.metrics.droppedPackets +
      l.state.pendingData.countP fun p => l.failsAt now p.dstNodeId

/-- Overdue are the discoveries of the snapshot. -/
theorem Accounted.overdue_iff (h : l.Accounted) :
    l.overdue now d = true ↔ ∃ state, ⟨d, state⟩ ∈ l.state.expiredDiscoveries now := by
  unfold overdue
  constructor
  · intro hoverdue
    cases hstate : l.state.discoveries.lookup d with
    | none =>
      rw [(h.closed d hstate).1] at hoverdue
      cases hoverdue
    | some state =>
      rw [(h.outstanding d state hstate).latest] at hoverdue
      exact ⟨state, mem_expiredDiscoveries.mpr ⟨hstate, of_decide_eq_true hoverdue⟩⟩
  · rintro ⟨state, hmem⟩
    obtain ⟨hstate, hexpired⟩ := mem_expiredDiscoveries.mp hmem
    rw [(h.outstanding d state hstate).latest]
    exact decide_eq_true hexpired

/-- A record with no retry left stands for the last of the rounds. -/
theorem Accounted.mem_failing_iff (h : l.Accounted) :
    d ∈ keysOf (failing l.state.config.routeDiscoveryMaxRetries
      (l.state.expiredDiscoveries now)) ↔ l.failsAt now d = true := by
  unfold failsAt
  rw [mem_keysOf, Bool.and_eq_true, h.overdue_iff, beq_iff_eq]
  constructor
  · rintro ⟨state, hmem⟩
    obtain ⟨hmem, hmax⟩ := mem_failing.mp hmem
    obtain ⟨hretries, hrounds, -, -⟩ :=
      h.outstanding d state (mem_expiredDiscoveries.mp hmem).1
    have hmax : l.state.config.routeDiscoveryMaxRetries ≤ state.retriesDone := hmax
    exact ⟨⟨state, hmem⟩, by omega⟩
  · rintro ⟨⟨state, hmem⟩, hlength⟩
    obtain ⟨-, hrounds, -, -⟩ := h.outstanding d state (mem_expiredDiscoveries.mp hmem).1
    refine ⟨state, mem_failing.mpr ⟨hmem, ?_⟩⟩
    show _ ≤ state.retriesDone
    omega

theorem Accounted.mem_retrying_iff (h : l.Accounted) :
    d ∈ keysOf (retrying l.state.config.routeDiscoveryMaxRetries
      (l.state.expiredDiscoveries now)) ↔ l.retriesAt now d = true := by
  unfold retriesAt
  rw [mem_keysOf, Bool.and_eq_true, h.overdue_iff, decide_eq_true_iff]
  constructor
  · rintro ⟨state, hmem⟩
    obtain ⟨hmem, hleft⟩ := mem_retrying.mp hmem
    obtain ⟨-, hrounds, -, -⟩ := h.outstanding d state (mem_expiredDiscoveries.mp hmem).1
    refine ⟨⟨state, hmem⟩, ?_⟩
    have hleft : state.retriesDone < l.state.config.routeDiscoveryMaxRetries := hleft
    omega
  · rintro ⟨⟨state, hmem⟩, hlength⟩
    obtain ⟨-, hrounds, -, -⟩ := h.outstanding d state (mem_expiredDiscoveries.mp hmem).1
    refine ⟨state, mem_retrying.mpr ⟨hmem, ?_⟩⟩
    show state.retriesDone < _
    omega

/-! ### Events -/

theorem failureEvents_reports (nodeId : NodeId) (pending : List PendingData) (entry : Expired) :
    (failureEvents nodeId pending entry).filter (isFailureOf d) =
      if entry.1 = d then
        [.routeDiscoveryFailed nodeId entry.1 (entry.2.retriesDone + 1)] else [] := by
  have hrest : (if 0 < pending.countP fun p => p.dstNodeId == entry.1 then
      [ProtocolEvent.dataDropped nodeId entry.1 "route discovery failed"] else []).filter
        (isFailureOf d) = [] := by
    split <;> rfl
  unfold failureEvents
  by_cases hd : entry.1 = d
  · rw [if_pos hd, List.filter_cons_of_pos (by simpa [isFailureOf] using hd), hrest]
  · rw [if_neg hd, List.filter_cons_of_neg (by simpa [isFailureOf] using hd), hrest]

/-- A destination that does not fail is not reported. -/
theorem reports_of_notMem (nodeId : NodeId) (pending : List PendingData) {failed : List Expired}
    (hd : d ∉ keysOf failed) :
    (failed.flatMap (failureEvents nodeId pending)).filter (isFailureOf d) = [] := by
  induction failed with
  | nil => rfl
  | cons entry failed ih =>
    obtain ⟨hne, hd⟩ := List.ne_and_not_mem_of_not_mem_cons hd
    rw [List.flatMap_cons, List.filter_append, failureEvents_reports, if_neg (Ne.symm hne), ih hd]
    rfl

/-- A destination that fails is reported once. -/
theorem reports_of_mem (nodeId : NodeId) (pending : List PendingData) {failed : List Expired}
    (hnodup : (keysOf failed).Nodup) {state : DiscoveryState} (hmem : ⟨d, state⟩ ∈ failed) :
    (failed.flatMap (failureEvents nodeId pending)).filter (isFailureOf d) =
      [.routeDiscoveryFailed nodeId d (state.retriesDone + 1)] := by
  induction failed with
  | nil => cases hmem
  | cons entry failed ih =>
    obtain ⟨hnotMem, hnodup⟩ := List.nodup_cons.mp hnodup
    rw [List.flatMap_cons, List.filter_append, failureEvents_reports]
    rcases List.mem_cons.mp hmem with rfl | hlater
    · rw [if_pos rfl, reports_of_notMem nodeId pending hnotMem]
      rfl
    · have hne : entry.1 ≠ d := fun heq => hnotMem (heq ▸ mem_keysOf.mpr ⟨state, hlater⟩)
      rw [if_neg hne, ih hnodup hlater]
      rfl

/-! ### The tick -/

theorem Accounted.tick_reported (h : l.Accounted) (clock : Clock) (now : Nat) (d : NodeId) :
    (l.state.call clock (.tick now)).2.events.filter (isFailureOf d) =
      if l.failsAt now d then
        [.routeDiscoveryFailed l.state.config.nodeId d
          (l.state.config.routeDiscoveryMaxRetries + 1)]
      else [] := by
  have hnodup := l.state.expiredDiscoveries_nodup now
  rw [call_tick, retryLoop_events_eq (l.state.pruned now) clock hnodup]
  by_cases hfails : l.failsAt now d = true
  · obtain ⟨state, hmem⟩ := mem_keysOf.mp (h.mem_failing_iff.mpr hfails)
    have hfailedNodup : (keysOf (failing l.state.config.routeDiscoveryMaxRetries
        (l.state.expiredDiscoveries now))).Nodup :=
      List.Nodup.sublist (List.Sublist.map _ List.filter_sublist) hnodup
    obtain ⟨hexpired, hmax⟩ := mem_failing.mp hmem
    have hretries := (h.outstanding d state (mem_expiredDiscoveries.mp hexpired).1).retries
    have hattempts : state.retriesDone = l.state.config.routeDiscoveryMaxRetries :=
      Nat.le_antisymm hretries hmax
    rw [if_pos hfails, pruned_config, reports_of_mem _ _ hfailedNodup hmem, hattempts]
  · rw [if_neg hfails]
    exact reports_of_notMem _ _ fun hmem => hfails (h.mem_failing_iff.mp hmem)

theorem Accounted.tick_removed (h : l.Accounted) (clock : Clock) (now : Nat) (d : NodeId) :
    d ∈ (l.state.call clock (.tick now)).1.discoveries ↔
      d ∈ l.state.discoveries ∧ l.failsAt now d = false := by
  have hfailing : d ∈ keysOf (failing l.state.config.routeDiscoveryMaxRetries
      (l.state.expiredDiscoveries now)) ↔ l.failsAt now d = true := h.mem_failing_iff
  have hstep := handleTick_discoveryStep l.state clock now d
  rw [← AList.lookup_isSome, ← AList.lookup_isSome]
  generalize (l.state.call clock (.tick now)).1.discoveries.lookup d = after at hstep ⊢
  generalize roundsFor d (l.state.rounds clock (.tick now)) = rounds at hstep
  rw [← Bool.not_eq_true, ← hfailing]
  cases hstep with
  | kept _ hwait =>
    refine ⟨fun hsome => ⟨hsome, fun hmem => ?_⟩, fun hsome => hsome.1⟩
    obtain ⟨state, hmem⟩ := mem_keysOf.mp hmem
    obtain ⟨hstate, hexpired⟩ := mem_expiredDiscoveries.mp (mem_failing.mp hmem).1
    have := hwait now state rfl hstate
    omega
  | retried _ _ _ state hstate hexpired hleft =>
    have hmem := mem_expiredDiscoveries.mpr ⟨hstate, hexpired⟩
    refine ⟨fun _ => ⟨by rw [hstate]; rfl, fun hfailed => ?_⟩, fun _ => rfl⟩
    exact keysOf_disjoint (l.state.expiredDiscoveries_nodup now) hfailed
      (mem_keysOf.mpr ⟨state, mem_retrying.mpr ⟨hmem, hleft⟩⟩)
  | failed _ state hstate hexpired hmax =>
    have hmem := mem_expiredDiscoveries.mpr ⟨hstate, hexpired⟩
    refine ⟨fun hsome => absurd hsome Bool.false_ne_true, fun hkept => ?_⟩
    exact absurd (mem_keysOf.mpr ⟨state, mem_failing.mpr ⟨hmem, hmax⟩⟩) hkept.2

/-- What a tick drops is what waits for the destinations that fail. -/
theorem Accounted.droppedFor_eq (h : l.Accounted) (now : Nat) :
    droppedFor l.state.pendingData (keysOf (failing l.state.config.routeDiscoveryMaxRetries
        (l.state.expiredDiscoveries now))) =
      l.state.pendingData.countP fun p => l.failsAt now p.dstNodeId := by
  unfold droppedFor
  refine List.countP_congr fun p _ => ?_
  rw [decide_eq_true_iff]
  exact h.mem_failing_iff

theorem Accounted.tick (h : l.Accounted) (clock : Clock) (now : Nat) :
    l.TickAccounted clock now := by
  have hmetrics := retryLoop_metrics (l.state.pruned now) clock (l.state.expiredDiscoveries now)
  refine
    { rounds := fun d => ?_, flooded := tick_outbound l.state clock now,
      reported := h.tick_reported clock now, removed := h.tick_removed clock now,
      pendingData := ?_, dataDropped := ?_, droppedPackets := ?_ }
  · show (roundsFor d (l.state.loopRounds clock (l.state.expiredDiscoveries now))).length = _
    rw [loopRounds_eq, roundsFor_roundsFrom _ _
      (keysOf_retrying_nodup (l.state.expiredDiscoveries_nodup now))]
    simp only [h.mem_retrying_iff]
    split <;> rfl
  · rw [call_tick, retryLoop_pendingData]
    refine List.filter_congr fun p _ => ?_
    rw [decide_not]
    refine congrArg _ (Bool.eq_iff_iff.mpr ?_)
    rw [decide_eq_true_iff]
    exact h.mem_failing_iff
  · rw [← h.droppedFor_eq]
    exact congrArg NodeMetrics.dataDropped hmetrics
  · rw [← h.droppedFor_eq]
    exact congrArg NodeMetrics.droppedPackets hmetrics

/-- **Retry accounting.** In every run of a node that allows fewer than `u32::MAX` retries:
an outstanding discovery counts the rounds since it was opened and carries the request id
of the latest, and no tick since then found it overdue; no two rounds share a request id;
a tick originates one round for an overdue discovery with a round left, and fails it,
with all that follows, if there is none left; nothing but a tick fails a discovery; and what
a call with rounds sends are the floods of these. -/
theorem retry_accounting (hmax : config.routeDiscoveryMaxRetries < 2 ^ 32 - 1)
    (h : l.Reachable config) :
    (∀ d state, l.state.discoveries.lookup d = some state →
      l.Records d state ∧ state.retriesDone + 1 < 2 ^ 32) ∧
    (l.rounds.map Round.requestId).Nodup ∧
    (∀ clock now, l.TickAccounted clock now) ∧
    (∀ clock input n d attempts,
      .routeDiscoveryFailed n d attempts ∈ (l.state.call clock input).2.events →
        ∃ now, input = .tick now) ∧
    ∀ clock input, l.state.rounds clock input ≠ [] →
      (l.state.call clock input).2.outbound =
        (l.state.rounds clock input).flatMap l.state.floodRound := by
  have haccounted := h.accounted
  refine ⟨fun d state hstate => ?_, ?_, haccounted.tick, ?_, rounds_outbound l.state⟩
  · have hrecords := haccounted.outstanding d state hstate
    have hretries := hrecords.retries
    rw [h.config_eq] at hretries
    exact ⟨hrecords, by omega⟩
  · rw [haccounted.numbered]
    exact List.nodup_range'
  · intro clock input n d attempts hevent
    have hannounced := announces_of_mem hevent
    generalize heq : ProtocolEvent.routeDiscoveryFailed n d attempts = event at hannounced
    cases hannounced with
    | discoveryFailed now => exact ⟨now, rfl⟩
    | _ => cases heq

/-- One retry is allowed: the discovery of node 9 fails at the first overdue tick after its
second round. -/
theorem retry_accounting_second_round :
    let config := { NodeConfig.testSettings .dsr with routeDiscoveryMaxRetries := 1 }
    let opened := ({ state := .new config } : Ledger).call (fun _ => 0)
      (.command (.discoverAndSend 9 [1]))
    let retried := opened.call (fun _ => 2000) (.tick 2000)
    let waiting := retried.call (fun _ => 3999) (.tick 3999)
    (waiting.rounds.map Round.requestId).Nodup ∧ waiting.failsAt 4000 9 = true ∧
      (waiting.state.call (fun _ => 4000) (.tick 4000)).2.events.filter (isFailureOf 9) =
        [.routeDiscoveryFailed 0 9 2] := by
  intro config opened retried waiting
  have hreach : waiting.Reachable config := .call _ _ (.call _ _ (.call _ _ .new))
  obtain ⟨-, hids, htick, -⟩ := retry_accounting (by decide) hreach
  have hfails : waiting.failsAt 4000 9 = true := by decide
  have hreported := (htick (fun _ => 4000) 4000).reported 9
  rw [if_pos hfails] at hreported
  exact ⟨hids, hfails, hreported⟩

end Ledger

end DlDsr
