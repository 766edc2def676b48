import DlDsr.Node.EventLoop
import DlDsr.Node.Rejections

/-!
# What the event loop serves

A run of the event loop is a run of the protocol: every turn makes at most one call
(`Branch.input`), and the calls happen in the order of the turns. Commands reach the
protocol in the order in which they were sent over the channel, each of them once or, as
long as it is queued, not yet (`run_serves`). So the demo sender's command is handled at
most once, and not at all if an external channel is attached. After the shutdown signal no
turn follows.
-/

namespace DlDsr

/-- The call that a turn makes. -/
def Branch.input : Branch → Option Input
  | .helloTick => some .hello
  | .protocolTick now => some (.tick now)
  | .metricsTick => none
  | .control request => request.map Input.command
  | .received result => result.map fun (packet, sender) => .packet packet sender
  | .command yielded => yielded.map Input.command
  | .shutdown => none

/-- The command that the demo sender has yet to send. -/
def DemoTask.unsent : DemoTask → Option ProtocolCommand
  | .sleeping command => some command
  | _ => none

namespace EventLoop

/-- The call that an event makes. -/
def Event.input : Event → Option Input
  | .turn branch => branch.input
  | _ => none

/-- The command that an event takes from the channel. -/
def Event.taken : Event → Option ProtocolCommand
  | .turn (.command yielded) => yielded
  | _ => none

/-- The command that an event sends over the channel; `demo` is the demo sender's. -/
def Event.sent (demo : Option ProtocolCommand) : Event → Option ProtocolCommand
  | .send command => some command
  | .demoSend => demo
  | _ => none

/-- What is queued in the channel, if one is attached. -/
def queued (self : EventLoop) : List ProtocolCommand :=
  (self.commands.map CommandChannel.queue).getD []

variable {self next last : EventLoop} {event : Event} {events : List Event}

/-! ## One step -/

/-- What a step does to the protocol state, the channel and the demo sender. -/
structure Moves (l : EventLoop) (event : Event) (next : EventLoop) : Prop where
  call : ∃ calls : List (Clock × Input), calls.map Prod.snd = event.input.toList ∧
    next.state = l.state.serve calls
  fifo : ∀ demo, (∀ command, l.demoTask = .sleeping command → demo = some command) →
    l.queued ++ (event.sent demo).toList = event.taken.toList ++ next.queued
  demo : next.demoTask.unsent = if event = .demoSend then none else l.demoTask.unsent
  unsent : event = .demoSend → l.demoTask.unsent ≠ none
  returned : ∀ branch, event = .turn branch → l.returned = false
  shutdown : event = .turn .shutdown → next.returned = true
  stays : l.returned = true → next.returned = true

/-- A turn of any branch but the command branch. -/
theorem turn_moves {clock : Clock} {branch : Branch} (hbranch : branch.isCommand = false)
    (h : self.turn clock branch = some next) :
    next.state = self.state.serve (branch.input.toList.map fun input => (clock, input)) ∧
      next.demoTask = self.demoTask ∧ (branch = .shutdown → next.returned = true) := by
  unfold turn at h
  split at h
  · cases h
  cases branch with
  | helloTick => cases h; exact ⟨rfl, rfl, nofun⟩
  | protocolTick now => cases h; exact ⟨rfl, rfl, nofun⟩
  | metricsTick => cases h; exact ⟨rfl, rfl, nofun⟩
  | control request =>
    dsimp only at h
    split at h
    · cases request with
      | none => cases h; exact ⟨rfl, rfl, nofun⟩
      | some command => cases h; exact ⟨rfl, rfl, nofun⟩
    · cases h
  | received received =>
    cases received with
    | none => cases h; exact ⟨rfl, rfl, nofun⟩
    | some delivered => cases h; exact ⟨rfl, rfl, nofun⟩
  | command yielded => cases hbranch
  | shutdown => cases h; exact ⟨rfl, rfl, fun _ => rfl⟩

/-- A turn of the command branch takes the first command that is queued, if there is
one. -/
theorem turn_takes {clock : Clock} {yielded : Option ProtocolCommand}
    (h : self.turn clock (.command yielded) = some next) :
    next.state = self.state.serve (yielded.toList.map fun command => (clock, .command command)) ∧
      self.queued = yielded.toList ++ next.queued ∧ next.demoTask = self.demoTask := by
  obtain ⟨state, commands, controlSocket, demoTask, returned⟩ := self
  obtain ⟨channel, rfl, hyields⟩ := turn_command h
  obtain ⟨queue, senderAlive⟩ := channel
  unfold turn recvCommand at h
  split at h
  · cases h
  obtain ⟨command, rest, rfl, rfl⟩ | ⟨rfl, rfl, rfl⟩ := hyields
  · simp only [Option.isSome_some, if_true, Option.some.injEq] at h
    cases h
    exact ⟨rfl, rfl, rfl⟩
  · simp only [Option.isSome_some, if_true, Bool.false_eq_true, if_false, Option.some.injEq] at h
    cases h
    exact ⟨rfl, rfl, rfl⟩

theorem turn_returned {clock : Clock} {branch : Branch}
    (h : self.turn clock branch = some next) : self.returned = false := by
  unfold turn at h
  split at h
  · cases h
  · next hreturned => exact Bool.eq_false_of_not_eq_true hreturned

theorem Step.moves (h : Step self event next) : Moves self event next := by
  cases h with
  | @turn _ clock branch h =>
    have hreturned := turn_returned h
    by_cases hbranch : branch.isCommand = false
    · obtain ⟨hstate, hdemo, hshutdown⟩ := turn_moves hbranch h
      have hqueued : next.queued = self.queued := by
        unfold queued
        rw [turn_commands hbranch h]
      have htaken : (Event.turn branch).taken = none := by
        cases branch with
        | command => cases hbranch
        | _ => rfl
      refine ⟨⟨_, ?_, hstate⟩, fun demo _ => ?_, ?_, nofun, fun _ _ => hreturned, ?_, ?_⟩
      · simp [Event.input, Function.comp_def]
      · rw [htaken, hqueued]
        exact List.append_nil _
      · rw [hdemo]
        rfl
      · rintro ⟨⟩
        exact hshutdown rfl
      · intro hdone
        rw [hreturned] at hdone
        cases hdone
    · obtain ⟨yielded, rfl⟩ : ∃ yielded, branch = .command yielded := by
        cases branch with
        | command yielded => exact ⟨yielded, rfl⟩
        | _ => exact absurd rfl hbranch
      obtain ⟨hstate, hqueued, hdemo⟩ := turn_takes h
      refine ⟨⟨_, ?_, hstate⟩, fun demo _ => ?_, ?_, nofun, fun _ _ => hreturned, nofun, ?_⟩
      · cases yielded <;> rfl
      · rw [hqueued]
        exact List.append_nil _
      · rw [hdemo]
        rfl
      · intro hdone
        rw [hreturned] at hdone
        cases hdone
  | send command hchannel _ hexternal =>
    refine ⟨⟨[], rfl, rfl⟩, fun demo _ => ?_, rfl, nofun, nofun, nofun, id⟩
    unfold queued
    rw [hchannel]
    rfl
  | dropSenders hchannel =>
    refine ⟨⟨[], rfl, rfl⟩, fun demo _ => ?_, rfl, nofun, nofun, nofun, id⟩
    unfold queued
    rw [hchannel]
    exact List.append_nil _
  | @demoSend channel command hchannel hdemo =>
    refine ⟨⟨[], rfl, rfl⟩, fun demo hown => ?_, rfl, fun _ => ?_, nofun, nofun, id⟩
    · rw [hown command hdemo]
      unfold queued
      rw [hchannel]
      rfl
    · rw [hdemo]
      exact nofun
  | demoExit hchannel hdemo =>
    refine ⟨⟨[], rfl, rfl⟩, fun demo _ => ?_, ?_, nofun, nofun, nofun, id⟩
    · unfold queued
      rw [hchannel]
      exact List.append_nil _
    · rw [hdemo]
      rfl

/-! ## A run -/

theorem serve_append (s : ProtocolState) (first rest : List (Clock × Input)) :
    s.serve (first ++ rest) = (s.serve first).serve rest := by
  induction first generalizing s with
  | nil => rfl
  | cons call first ih => exact ih _

theorem reachableFrom_serve {config : NodeConfig} {s : ProtocolState}
    (h : ProtocolState.ReachableFrom config s) (calls : List (Clock × Input)) :
    ProtocolState.ReachableFrom config (s.serve calls) := by
  induction calls generalizing s with
  | nil => exact h
  | cons call calls ih => exact ih (h.call call.1 call.2)

theorem filterMap_cons_toList {α β : Type} (f : α → Option β) (a : α) (l : List α) :
    (a :: l).filterMap f = (f a).toList ++ l.filterMap f := by
  rw [List.filterMap_cons]
  cases f a <;> rfl

/-- The protocol is called as the turns say, one call after the other. -/
theorem Run.calls (h : Run self events last) :
    ∃ calls : List (Clock × Input), calls.map Prod.snd = events.filterMap Event.input ∧
      last.state = self.state.serve calls := by
  induction h with
  | nil => exact ⟨[], rfl, rfl⟩
  | cons hstep _ ih =>
    obtain ⟨first, hfirst, hnext⟩ := hstep.moves.call
    obtain ⟨rest, hrest, hlast⟩ := ih
    refine ⟨first ++ rest, ?_, ?_⟩
    · rw [List.map_append, hfirst, hrest, filterMap_cons_toList]
    · rw [serve_append, ← hnext, hlast]

/-- What was queued or has been sent has been taken or is still queued, in this order. -/
theorem Run.fifo {demo : Option ProtocolCommand} (h : Run self events last)
    (hown : ∀ command, self.demoTask = .sleeping command → demo = some command) :
    self.queued ++ events.filterMap (Event.sent demo) =
      events.filterMap Event.taken ++ last.queued := by
  induction h with
  | nil => exact List.append_nil _
  | @cons self next last event events hstep _ ih =>
    have hnext : ∀ command, next.demoTask = .sleeping command → demo = some command := by
      intro command hsleeping
      have hdemo := hstep.moves.demo
      rw [hsleeping] at hdemo
      split at hdemo
      · cases hdemo
      · cases htask : self.demoTask with
        | sleeping command' =>
          rw [htask] at hdemo
          cases hdemo
          exact hown command htask
        | _ =>
          rw [htask] at hdemo
          cases hdemo
    rw [filterMap_cons_toList, filterMap_cons_toList, ← List.append_assoc,
      hstep.moves.fifo demo hown, List.append_assoc, ih hnext, List.append_assoc]

/-- The demo sender sends what it has left to send, once. -/
theorem Run.demo (h : Run self events last) :
    events.count .demoSend + last.demoTask.unsent.toList.length =
      self.demoTask.unsent.toList.length := by
  induction h with
  | nil => exact Nat.zero_add _
  | @cons self next last event events hstep _ ih =>
    have hdemo := hstep.moves.demo
    rw [List.count_cons]
    by_cases hevent : event = .demoSend
    · subst hevent
      obtain ⟨command, hcommand⟩ := Option.ne_none_iff_exists'.mp (hstep.moves.unsent rfl)
      rw [if_pos rfl] at hdemo
      rw [hdemo] at ih
      rw [hcommand]
      simp only [BEq.rfl, if_true, Option.toList_some, List.length_singleton]
      simp only [Option.toList_none, List.length_nil] at ih
      omega
    · rw [if_neg hevent] at hdemo
      rw [hdemo] at ih
      rw [if_neg (by simpa using hevent), Nat.add_zero, ih]

/-- A loop that has returned makes no further turn. -/
theorem Run.no_turn_of_returned (h : Run self events last) (hreturned : self.returned = true) :
    ∀ branch, .turn branch ∉ events := by
  induction h with
  | nil => exact fun _ => List.not_mem_nil
  | cons hstep _ ih =>
    intro branch hmem
    rcases List.mem_cons.mp hmem with rfl | hmem
    · have hrunning := hstep.moves.returned branch rfl
      rw [hreturned] at hrunning
      cases hrunning
    · exact ih (hstep.moves.stays hreturned) branch hmem

theorem Run.shutdown (h : Run self events last) :
    events.Pairwise fun earlier later =>
      earlier = .turn .shutdown → ∀ branch, later ≠ .turn branch := by
  induction h with
  | nil => exact .nil
  | cons hstep hrun ih =>
    refine .cons (fun later hlater hevent branch heq => ?_) ih
    rw [heq] at hlater
    exact hrun.no_turn_of_returned (hstep.moves.shutdown hevent) branch hlater

/-- What a run of the loop serves. -/
structure Serves (state : ProtocolState) (external : Option CommandChannel)
    (demo : Option ProtocolCommand) (events : List Event) (last : EventLoop) : Prop where
  calls : ∃ calls : List (Clock × Input), calls.map Prod.snd = events.filterMap Event.input ∧
    last.state = state.serve calls
  reachable : ∀ config, state = .new config → ProtocolState.ReachableFrom config last.state
  fifo : (external.map CommandChannel.queue).getD [] ++ events.filterMap (Event.sent demo) =
    events.filterMap Event.taken ++ last.queued
  demo_once : events.count .demoSend ≤ 1
  demo_ignored : external.isSome → .demoSend ∉ events
  shutdown : events.Pairwise fun earlier later =>
    earlier = .turn .shutdown → ∀ branch, later ≠ .turn branch

/-- **The event loop serves every command once, in order.** In every run: the protocol
state is the one after the calls that the turns make, in their order, so it is one that the
protocol can get into; the commands taken from the channel, followed by those still queued,
are those queued at first, followed by those sent; the demo sender sends at most once, and
never if an external channel is attached; and no turn follows the shutdown signal. -/
theorem run_serves {state : ProtocolState} {external : Option CommandChannel}
    {demo : Option ProtocolCommand} {controlSocket : Bool}
    (h : Run (start state external demo controlSocket) events last) :
    Serves state external demo events last := by
  have hstart : (start state external demo controlSocket).state = state ∧
      (start state external demo controlSocket).queued =
        (external.map CommandChannel.queue).getD [] ∧
      (∀ command, (start state external demo controlSocket).demoTask = .sleeping command →
        demo = some command) ∧
      (start state external demo controlSocket).demoTask.unsent.toList.length ≤ 1 ∧
      (external.isSome →
        (start state external demo controlSocket).demoTask.unsent.toList.length = 0) := by
    cases demo with
    | none => cases external <;> exact ⟨rfl, rfl, nofun, Nat.zero_le 1, fun _ => rfl⟩
    | some command =>
      cases external with
      | none =>
        refine ⟨rfl, rfl, fun command' heq => ?_, Nat.le_refl 1, nofun⟩
        cases heq
        rfl
      | some channel => exact ⟨rfl, rfl, nofun, Nat.zero_le 1, fun _ => rfl⟩
  obtain ⟨hstate, hqueued, hown, hleft, hnone⟩ := hstart
  have hdemo := h.demo
  obtain ⟨calls, hinputs, hlast⟩ := h.calls
  rw [hstate] at hlast
  refine ⟨⟨calls, hinputs, hlast⟩, ?_, ?_, by omega, fun hexternal => ?_, h.shutdown⟩
  · rintro config rfl
    rw [hlast]
    exact reachableFrom_serve .new calls
  · rw [← hqueued]
    exact h.fifo hown
  · rw [hnone hexternal] at hdemo
    exact List.count_eq_zero.mp (by omega)

/-- The demo sender's command reaches the protocol, and then the loop is shut down. -/
theorem run_serves_demo :
    Serves (.new (.testSettings .dsr)) none (some (.discoverAndSend 1 [7]))
      [.demoSend, .demoExit, .turn (.command (some (.discoverAndSend 1 [7]))), .turn .shutdown]
      { state := ((ProtocolState.new (.testSettings .dsr)).handleCommand (fun _ => 10)
          (.discoverAndSend 1 [7])).1
        commands := some { senderAlive := false }, demoTask := .exited, returned := true } :=
  run_serves
    (.cons (.demoSend rfl rfl) (.cons (.demoExit rfl rfl) (.cons (.turn (fun _ => 10) _ rfl)
      (.cons (.turn (fun _ => 10) _ rfl) (.nil _)))))

end EventLoop

end DlDsr
