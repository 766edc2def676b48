import DlDsr.Node.Protocol

/-!
# The event loop (`dldsr-node/src/daemon.rs`)

`Daemon::run_with_channels` attaches at most one command channel, an external one or that
of the demo sender, and then serves one branch of a `select!` per turn. A turn may take
any branch that is enabled and ready: timers, packets, control messages and the shutdown
signal are ready whenever the environment pleases, and the receiver of a command channel
is ready when a command is queued, or when all senders are gone.

The command branch is enabled as long as a channel is attached, and nothing ever detaches
it. So the branch is idle only while a sender is alive; once the senders are gone and the
queue is drained, the branch is ready in every turn and can be taken for ever
(`Spinning.spins`). Transport counters and metrics files are left out.
-/

namespace DlDsr

/-- An mpsc channel for commands: what is queued, and whether a sender is left. -/
structure CommandChannel where
  queue : List ProtocolCommand := []
  senderAlive : Bool := true
deriving DecidableEq

/-- The task of the demo sender. It owns the only sender of its channel until it exits. -/
inductive DemoTask where
  | absent
  | sleeping (command : ProtocolCommand)
  | sent
  | exited
deriving DecidableEq

/-- The state of `run_with_channels` around the protocol state. -/
structure EventLoop where
  state : ProtocolState
  commands : Option CommandChannel := none
  controlSocket : Bool := false
  demoTask : DemoTask := .absent
  returned : Bool := false
deriving DecidableEq

/-- A branch of the `select!`, with what its future yields. -/
inductive Branch where
  | helloTick
  | protocolTick (now : Nat)
  | metricsTick
  | control (request : Option ProtocolCommand)
  | received (received : Option (Packet × SocketAddr))
  | command (command : Option ProtocolCommand)
  | shutdown
deriving DecidableEq

/-- The branch is the command branch. -/
def Branch.isCommand : Branch → Bool
  | .command _ => true
  | _ => false

/-- `recv_command`: what polling the receiver yields, and the receiver after it; `none`
while it is pending. A closed and drained channel is ready with `None` at once. -/
def recvCommand : Option CommandChannel →
    Option (Option ProtocolCommand × Option CommandChannel)
  | none => some (none, none)
  | some channel =>
    match channel.queue with
    | command :: queue => some (some command, some { channel with queue := queue })
    | [] => if channel.senderAlive then none else some (none, some channel)

namespace EventLoop

/-- The setup in `run_with_channels`: the demo sender gets a channel only if no external
one is attached. -/
def start (state : ProtocolState) (external : Option CommandChannel)
    (demo : Option ProtocolCommand) (controlSocket : Bool) : EventLoop :=
  match demo, external with
  | some command, none =>
    { state := state, commands := some {}, controlSocket := controlSocket,
      demoTask := .sleeping command }
  | _, external => { state := state, commands := external, controlSocket := controlSocket }

/-- A turn of the loop, `none` if the branch is not enabled, or not ready with what it is
supposed to yield. -/
def turn (self : EventLoop) (clock : Clock) (branch : Branch) : Option EventLoop :=
  if self.returned then none
  else
    match branch with
    | .helloTick => some self
    | .protocolTick now => some { self with state := (self.state.handleTick clock now).1 }
    | .metricsTick => some self
    | .control request =>
      if self.controlSocket then
        match request with
        | some command => some { self with state := (self.state.handleCommand clock command).1 }
        | none => some self
      else none
    | .received (some (packet, sender)) =>
      some { self with state := (self.state.handlePacket clock packet sender).1 }
    | .received none => some self
    | .command yielded =>
      if self.commands.isSome then
        match recvCommand self.commands with
        | some (received, commands) =>
          if received = yielded then
            match received with
            | some command =>
              some { self with
                state := (self.state.handleCommand clock command).1, commands := commands }
            | none => some { self with commands := commands }
          else none
        | none => none
      else none
    | .shutdown => some { self with returned := true }

/-- What happens: a turn of the loop, or something the senders do. -/
inductive Event where
  | turn (branch : Branch)
  | send (command : ProtocolCommand)
  | dropSenders
  | demoSend
  | demoExit
deriving DecidableEq

/-- The steps of the loop and of the senders. An external sender may send and be dropped
at any time; the demo sender sends its command and exits. -/
inductive Step : EventLoop → Event → EventLoop → Prop where
  | turn {self next : EventLoop} (clock : Clock) (branch : Branch)
      (h : self.turn clock branch = some next) : Step self (.turn branch) next
  | send {self : EventLoop} {channel : CommandChannel} (command : ProtocolCommand)
      (hchannel : self.commands = some channel) (halive : channel.senderAlive = true)
      (hexternal : self.demoTask = .absent) :
      Step self (.send command)
        { self with commands := some { channel with queue := channel.queue ++ [command] } }
  | dropSenders {self : EventLoop} {channel : CommandChannel}
      (hchannel : self.commands = some channel) (hexternal : self.demoTask = .absent) :
      Step self .dropSenders
        { self with commands := some { channel with senderAlive := false } }
  | demoSend {self : EventLoop} {channel : CommandChannel} {command : ProtocolCommand}
      (hchannel : self.commands = some channel) (hdemo : self.demoTask = .sleeping command) :
      Step self .demoSend
        { self with
          commands := some { channel with queue := channel.queue ++ [command] }
          demoTask := .sent }
  | demoExit {self : EventLoop} {channel : CommandChannel}
      (hchannel : self.commands = some channel) (hdemo : self.demoTask = .sent) :
      Step self .demoExit
        { self with
          commands := some { channel with senderAlive := false }
          demoTask := .exited }

/-- A run, with its events in their order. -/
inductive Run : EventLoop → List Event → EventLoop → Prop where
  | nil (self : EventLoop) : Run self [] self
  | cons {self next last : EventLoop} {event : Event} {events : List Event}
      (hstep : Step self event next) (hrun : Run next events last) :
      Run self (event :: events) last

/-- After the command branch has yielded `None`, it is not taken again. -/
def DisabledAfterNone (events : List Event) : Prop :=
  events.Pairwise fun earlier later =>
    earlier = .turn (.command none) → ∀ branch, later = .turn branch → branch.isCommand = false

/-- The attached channel, if any, is not closed and drained. -/
def Open (self : EventLoop) : Prop :=
  ∀ channel, self.commands = some channel → channel.senderAlive = true ∨ channel.queue ≠ []

/-- A run in which every turn begins while the channel is open. -/
inductive OpenRun : EventLoop → List Event → EventLoop → Prop where
  | nil (self : EventLoop) : OpenRun self [] self
  | cons {self next last : EventLoop} {event : Event} {events : List Event}
      (hopen : ∀ branch, event = .turn branch → self.Open) (hstep : Step self event next)
      (hrun : OpenRun next events last) : OpenRun self (event :: events) last

variable {self next last : EventLoop} {clock : Clock} {events : List Event}

/-! ## While the channel is open -/

/-- What the command branch can do. -/
theorem turn_command {yielded : Option ProtocolCommand}
    (h : self.turn clock (.command yielded) = some next) :
    ∃ channel, self.commands = some channel ∧
      ((∃ command queue, yielded = some command ∧ channel.queue = command :: queue) ∨
        (yielded = none ∧ channel.queue = [] ∧ channel.senderAlive = false)) := by
  unfold turn at h
  split at h
  · cases h
  dsimp only at h
  cases hcommands : self.commands with
  | none =>
    rw [hcommands] at h
    cases h
  | some channel =>
    refine ⟨channel, rfl, ?_⟩
    rw [hcommands] at h
    unfold recvCommand at h
    dsimp only [Option.isSome_some] at h
    rw [if_pos rfl] at h
    cases hqueue : channel.queue with
    | cons command queue =>
      rw [hqueue] at h
      dsimp only at h
      by_cases hyielded : some command = yielded
      · exact .inl ⟨command, queue, hyielded.symm, rfl⟩
      · rw [if_neg hyielded] at h
        cases h
    | nil =>
      rw [hqueue] at h
      dsimp only at h
      cases halive : channel.senderAlive with
      | true =>
        rw [halive, if_pos rfl] at h
        cases h
      | false =>
        rw [halive, if_neg Bool.false_ne_true] at h
        dsimp only at h
        by_cases hyielded : none = yielded
        · exact .inr ⟨hyielded.symm, rfl, rfl⟩
        · rw [if_neg hyielded] at h
          cases h

/-- The other branches leave the channel alone. -/
theorem turn_commands {branch : Branch} (hbranch : branch.isCommand = false)
    (h : self.turn clock branch = some next) : next.commands = self.commands := by
  unfold turn at h
  split at h
  · cases h
  cases branch with
  | helloTick => cases h; rfl
  | protocolTick now => cases h; rfl
  | metricsTick => cases h; rfl
  | control request =>
    dsimp only at h
    split at h
    · cases request with
      | none => cases h; rfl
      | some command => cases h; rfl
    · cases h
  | received received =>
    cases received with
    | none => cases h; rfl
    | some delivered => cases h; rfl
  | command yielded => cases hbranch
  | shutdown => cases h; rfl

/-- An open channel does not yield `None`. -/
theorem Open.not_none (hopen : self.Open) : self.turn clock (.command none) ≠ some next := by
  intro h
  obtain ⟨channel, hchannel, ⟨command, queue, hyielded, -⟩ | ⟨-, hqueue, hgone⟩⟩ := turn_command h
  · cases hyielded
  · rcases hopen channel hchannel with halive | hqueued
    · rw [hgone] at halive
      cases halive
    · exact hqueued hqueue

/-- A run in which the command branch never yields `None`. -/
theorem disabledAfterNone_of_forall (h : ∀ event ∈ events, event ≠ .turn (.command none)) :
    DisabledAfterNone events := by
  induction events with
  | nil => exact List.Pairwise.nil
  | cons event events ih =>
    refine List.Pairwise.cons (fun later _ hnone => ?_) (ih fun e he => ?_)
    · exact absurd hnone (h event List.mem_cons_self)
    · exact h e (List.mem_cons_of_mem _ he)

theorem OpenRun.disabledAfterNone (h : OpenRun self events last) : DisabledAfterNone events := by
  refine disabledAfterNone_of_forall ?_
  induction h with
  | nil => exact fun event hevent => absurd hevent List.not_mem_nil
  | cons hopen hstep _ ih =>
    intro event hevent
    rcases List.mem_cons.mp hevent with rfl | hevent
    · rintro rfl
      cases hstep with
      | turn clock branch h => exact (hopen _ rfl).not_none h
    · exact ih event hevent

/-- Without a channel the command branch is not enabled. -/
theorem Run.disabledAfterNone_of_unattached (h : Run self events last)
    (hnone : self.commands = none) : DisabledAfterNone events := by
  refine disabledAfterNone_of_forall ?_
  induction h with
  | nil => exact fun event hevent => absurd hevent List.not_mem_nil
  | @cons self next last event events hstep hrun ih =>
    cases hstep with
    | turn clock branch h =>
      have hbranch : branch.isCommand = false := by
        cases branch with
        | command yielded =>
          obtain ⟨channel, hchannel, -⟩ := turn_command h
          rw [hnone] at hchannel
          cases hchannel
        | _ => rfl
      intro event hevent
      rcases List.mem_cons.mp hevent with rfl | hevent
      · rintro heq
        cases heq
        cases hbranch
      · exact ih ((turn_commands hbranch h).trans hnone) event hevent
    | send _ hchannel =>
      rw [hnone] at hchannel
      cases hchannel
    | dropSenders hchannel =>
      rw [hnone] at hchannel
      cases hchannel
    | demoSend hchannel =>
      rw [hnone] at hchannel
      cases hchannel
    | demoExit hchannel =>
      rw [hnone] at hchannel
      cases hchannel

/-! ## When the senders are gone -/

theorem Run.append {events' : List Event} (h : Run self events next)
    (h' : Run next events' last) : Run self (events ++ events') last := by
  induction h with
  | nil => exact h'
  | cons hstep _ ih => exact .cons hstep (ih h')

/-- The channel is closed and drained, and the loop goes on. -/
def Spinning (self : EventLoop) : Prop :=
  self.commands = some { queue := [], senderAlive := false } ∧ self.returned = false

/-- A turn of the command branch, which leaves everything as it was. -/
theorem Spinning.turn (h : self.Spinning) (clock : Clock) :
    self.turn clock (.command none) = some self := by
  obtain ⟨state, commands, controlSocket, demoTask, returned⟩ := self
  obtain ⟨rfl, rfl⟩ := h
  rfl

/-- Nothing keeps the loop from taking it again and again. -/
theorem Spinning.spins (h : self.Spinning) (clock : Clock) (k : Nat) :
    Run self (List.replicate k (.turn (.command none))) self := by
  induction k with
  | zero => exact .nil self
  | succ k ih => exact .cons (.turn clock (.command none) (h.turn clock)) ih

/-- What is queued when the senders are gone is served, turn by turn. -/
theorem exists_drained (clock : Clock) {l : EventLoop} {queue : List ProtocolCommand}
    (hcommands : l.commands = some { queue := queue, senderAlive := false })
    (hreturned : l.returned = false) : ∃ events last, Run l events last ∧ last.Spinning := by
  induction queue generalizing l with
  | nil => exact ⟨[], l, .nil l, hcommands, hreturned⟩
  | cons command queue ih =>
    obtain ⟨state, commands, controlSocket, demoTask, returned⟩ := l
    obtain rfl : commands = _ := hcommands
    obtain rfl : returned = false := hreturned
    obtain ⟨events, last, hrun, hlast⟩ := ih (l :=
      { state := (state.handleCommand clock command).1
        commands := some { queue := queue, senderAlive := false }
        controlSocket := controlSocket, demoTask := demoTask }) rfl rfl
    refine ⟨_, last, .cons (.turn clock (.command (some command)) ?_) hrun, hlast⟩
    unfold EventLoop.turn recvCommand
    simp

/-- If a channel is attached, a run may end with its senders gone and its queue
drained. -/
theorem exists_spinning (clock : Clock) (state : ProtocolState)
    {external : Option CommandChannel} {demo : Option ProtocolCommand} (controlSocket : Bool)
    (h : ¬ (external = none ∧ demo = none)) :
    ∃ events last, Run (start state external demo controlSocket) events last ∧
      last.Spinning := by
  cases external with
  | some channel =>
    -- The external senders are dropped; the demo sender has no channel.
    have hstart : start state (some channel) demo controlSocket =
        { state := state, commands := some channel, controlSocket := controlSocket } := by
      cases demo <;> rfl
    rw [hstart]
    obtain ⟨events, last, hrun, hlast⟩ := exists_drained clock (l :=
      { state := state, commands := some { channel with senderAlive := false }
        controlSocket := controlSocket }) rfl rfl
    exact ⟨_, last, .cons (.dropSenders rfl rfl) hrun, hlast⟩
  | none =>
    cases demo with
    | none => exact absurd ⟨rfl, rfl⟩ h
    | some command =>
      obtain ⟨events, last, hrun, hlast⟩ := exists_drained clock (l :=
        { state := state, commands := some { queue := [command], senderAlive := false }
          controlSocket := controlSocket, demoTask := .exited }) rfl rfl
      exact ⟨_, last, .cons (.demoSend rfl rfl) (.cons (.demoExit rfl rfl) hrun), hlast⟩

/-- A loop whose channel is not open goes on like this, unless it has returned. -/
theorem spinning_of_not_open (hopen : ¬ self.Open) (hreturned : self.returned = false) :
    self.Spinning := by
  refine ⟨?_, hreturned⟩
  unfold Open at hopen
  push Not at hopen
  obtain ⟨⟨queue, senderAlive⟩, hchannel, hgone, hqueue⟩ := hopen
  obtain rfl : queue = [] := hqueue
  obtain rfl : senderAlive = false := Bool.eq_false_of_not_eq_true hgone
  exact hchannel

/-- Taking the branch twice more is one time too many. -/
theorem not_disabledAfterNone_append (events : List Event) :
    ¬ DisabledAfterNone (events ++ List.replicate 2 (.turn (.command none))) := by
  intro h
  have htwice := (List.pairwise_append.mp h).2.1
  have hlater := (List.pairwise_cons.mp htwice).1 _ List.mem_cons_self rfl _ rfl
  cases hlater

/-- **When the command branch stays disabled.** The loop keeps it so in all its runs
exactly if no command channel is attached. With a channel it keeps it so in every run
whose turns all begin while a sender is alive or a command is queued; but once that is
over, the branch can be taken for ever. -/
theorem disabledAfterNone_iff (state : ProtocolState) (external : Option CommandChannel)
    (demo : Option ProtocolCommand) (controlSocket : Bool) :
    ((∀ events last, Run (start state external demo controlSocket) events last →
        DisabledAfterNone events) ↔ external = none ∧ demo = none) ∧
      (∀ events last, OpenRun (start state external demo controlSocket) events last →
        DisabledAfterNone events) ∧
      ∀ events last, Run (start state external demo controlSocket) events last →
        last.returned = false → ¬ last.Open →
        ∀ k, Run last (List.replicate k (.turn (.command none))) last := by
  refine ⟨⟨fun h => ?_, ?_⟩, fun _ _ hrun => hrun.disabledAfterNone, ?_⟩
  · by_contra hattached
    obtain ⟨events, last, hrun, hlast⟩ :=
      exists_spinning (fun _ => 0) state controlSocket hattached
    have hspins := hlast.spins (fun _ => 0) 2
    exact not_disabledAfterNone_append events (h _ last (hrun.append hspins))
  · rintro ⟨rfl, rfl⟩ events last hrun
    exact hrun.disabledAfterNone_of_unattached rfl
  · intro events last _ hreturned hopen k
    exact (spinning_of_not_open hopen hreturned).spins (fun _ => 0) k

/-- The demo sender sends its command and exits; from then on every turn may be one of the
command branch. -/
theorem command_branch_spins :
    ¬ ∀ (state : ProtocolState) (external : Option CommandChannel)
      (demo : Option ProtocolCommand) (controlSocket : Bool) (events : List Event)
      (last : EventLoop), Run (start state external demo controlSocket) events last →
        DisabledAfterNone events := by
  intro h
  have hrun := h (.new (.testSettings .dsr)) none (some (.discoverAndSend 1 [7])) false
    [.demoSend, .demoExit, .turn (.command (some (.discoverAndSend 1 [7]))),
      .turn (.command none), .turn (.command none)] _
    (.cons (.demoSend rfl rfl) (.cons (.demoExit rfl rfl) (.cons (.turn (fun _ => 10) _ rfl)
      (.cons (.turn (fun _ => 11) _ rfl) (.cons (.turn (fun _ => 12) _ rfl) (.nil _))))))
  exact absurd hrun (not_disabledAfterNone_append
    [.demoSend, .demoExit, .turn (.command (some (.discoverAndSend 1 [7])))])

end EventLoop

end DlDsr
