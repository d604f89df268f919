/-
This file models the loop of the I/O thread. A turn of the loop drains the commands that are
queued, makes one service pass, sleeps until a socket is readable or a deadline has passed, and
takes the datagrams that have arrived. What a turn finds, and when, is up to the world: a turn is
given the commands, the clock, the order of the map, the outcome of the wait and what the socket
returns.

The loop refines the worker that takes one event at a time: its effects are those of a run over the
events of its turns, cut off where the loop ends.
-/

import EipScanner.Trace
import EipScanner.Transition

namespace EipScanner

/-! ### The loop -/

/-- What a call that receives from the data socket returns. -/
inductive Received where
  | datagram (source : IpAddr) (bytes : Bytes) (now : Nat)
  | connectionReset
  | failed

/-- Which sockets are readable after a wait. -/
structure Readable where
  data : Bool
  wake : Bool

/-- What one turn of the loop finds. The commands are drained until the queue is empty, or
disconnected. Receiving ends when nothing is left, or with a failure. -/
structure Turn where
  commands : List Command
  disconnected : Bool
  now : Nat
  preferred : List ConnectionKey
  waited : Except Error Readable
  received : List Received

namespace Worker

/-- Carry out the commands that are queued. The answer is false on shutdown. -/
def drainCommands (disconnected : Bool) : Worker → List Command → Worker × List Effect × Bool
  | worker, [] => (worker, [], !disconnected)
  | worker, .shutdown :: _ => ((worker.drainCommand .shutdown).1, [], false)
  | worker, command :: later =>
    let (after, effects) := worker.drainCommand command
    let (last, more, goesOn) := drainCommands disconnected after later
    (last, effects ++ more, goesOn)

/-- Take the datagrams that have arrived. -/
def receiveAll : Worker → List Received → Worker × List Effect
  | worker, [] => (worker, [])
  | worker, .failed :: _ => (worker, [])
  | worker, .connectionReset :: later => receiveAll worker later
  | worker, .datagram source bytes now :: later =>
    let (after, effects) := worker.receive source bytes now
    let (last, more) := receiveAll after later
    (last, effects ++ more)

/-- Take the datagrams if the data socket is readable. -/
def receiveReadable (worker : Worker) (turn : Turn) : Worker × List Effect :=
  match turn.waited with
  | .ok readable => if readable.data then worker.receiveAll turn.received else (worker, [])
  | .error _ => (worker, [])

/-- One turn of the loop. The answer is false if the loop ends with it. -/
def turn (worker : Worker) (turn : Turn) : Worker × List Effect × Bool :=
  match worker.drainCommands turn.disconnected turn.commands with
  | (drained, changed, false) => (drained, changed, false)
  | (drained, changed, true) =>
    let (served, sent) := drained.serviceConnections turn.preferred turn.now
    let (last, handed) := served.receiveReadable turn
    (last, changed ++ (sent ++ handed), true)

/-- The loop, for as many turns as there are. The answer is false if it has ended. -/
def runLoop : Worker → List Turn → Worker × List Effect × Bool
  | worker, [] => (worker, [], true)
  | worker, turn :: later =>
    match worker.turn turn with
    | (after, effects, false) => (after, effects, false)
    | (after, effects, true) =>
      let (last, more, goesOn) := runLoop after later
      (last, effects ++ more, goesOn)

end Worker

/-! ### The events of a loop -/

/-- The commands that are carried out: those up to a shutdown. -/
def commandEvents : List Command → List WorkerEvent
  | [] => []
  | .shutdown :: _ => [.command .shutdown]
  | command :: later => .command command :: commandEvents later

/-- The datagrams that are taken: those up to a failure. -/
def datagramEvents : List Received → List WorkerEvent
  | [] => []
  | .failed :: _ => []
  | .connectionReset :: later => datagramEvents later
  | .datagram source bytes now :: later => .receive source bytes now :: datagramEvents later

namespace Turn

/-- The turn is the last one: a shutdown is among its commands, or all senders are gone. -/
def last (turn : Turn) : Bool :=
  turn.disconnected || turn.commands.any fun command => command.key.isNone

/-- The datagrams that the turn takes. -/
def arrivals (turn : Turn) : List WorkerEvent :=
  match turn.waited with
  | .ok readable => if readable.data then datagramEvents turn.received else []
  | .error _ => []

/-- What happens in the turn, one event at a time. -/
def events (turn : Turn) : List WorkerEvent :=
  commandEvents turn.commands ++
    if turn.last then [] else .service turn.preferred turn.now :: turn.arrivals

end Turn

/-- What happens in a loop, up to the turn that ends it. -/
def loopEvents : List Turn → List WorkerEvent
  | [] => []
  | turn :: later => turn.events ++ if turn.last then [] else loopEvents later

/-- The effects of a run of the worker, one after the other. -/
def Worker.effects (worker : Worker) (events : List WorkerEvent) : List Effect :=
  workerTransducer.leaves (fun _ effects => effects) worker events

/-! ### One part of a turn -/

/-- The effects of a run, and where it leads. -/
structure Worker.Does (worker : Worker) (events : List WorkerEvent) (last : Worker)
    (effects : List Effect) : Prop where
  run : workerTransducer.run worker events = last
  effects : worker.effects events = effects

section
variable {worker middle last : Worker} {earlier later : List WorkerEvent}
  {first second : List Effect}

theorem Worker.does_nil : worker.Does [] worker [] := ⟨rfl, rfl⟩

theorem Worker.Does.append (before : worker.Does earlier middle first)
    (after : middle.Does later last second) :
    worker.Does (earlier ++ later) last (first ++ second) := by
  refine ⟨?_, ?_⟩
  · rw [Transducer.run_append, before.run, after.run]
  · have joined := workerTransducer.leaves_append (fun _ effects => effects) worker earlier later
    rw [before.run] at joined
    exact joined.trans (congr (congrArg _ before.effects) after.effects)

theorem Worker.does_step (event : WorkerEvent) :
    worker.Does [event] (workerTransducer.step worker event).1
      (workerTransducer.step worker event).2 :=
  ⟨rfl, List.append_nil _⟩

theorem Worker.Does.cons {event : WorkerEvent}
    (after : (workerTransducer.step worker event).1.Does later last second) :
    worker.Does (event :: later) last ((workerTransducer.step worker event).2 ++ second) :=
  (Worker.does_step event).append after

end

namespace Worker

variable {worker : Worker}

theorem step_of_running (running : worker.running = true) (command : Command) :
    workerTransducer.step worker (.command command) = worker.drainCommand command :=
  if_pos running

theorem running_drainCommand {command : Command} {key : ConnectionKey}
    (named : command.key = some key) :
    (worker.drainCommand command).1.running = worker.running := by
  have view := congrArg (fun drained => drained.1.running)
    (slot_drainCommand key worker command fun other target =>
      (Option.some.inj (named.symm.trans target)).symm)
  refine view.trans ?_
  cases command with
  | add conn callbacks flag =>
    unfold Slot.drainCommand
    cases (worker.slot key).entry <;> rfl
  | remove removed => rfl
  | setOutput changed data => rfl
  | setRun changed run => rfl
  | shutdown => exact absurd named (by simp [Command.key])

theorem running_receive (source : IpAddr) (datagram : Bytes) (now : Nat) :
    (worker.receive source datagram now).1.running = worker.running :=
  (quiet_receive source datagram now).running

theorem running_serviceConnections (preferred : List ConnectionKey) (now : Nat) :
    (worker.serviceConnections preferred now).1.running = worker.running := by
  have view := congrArg (fun served => served.1.running)
    (slot_serviceConnections ⟨⟨0⟩, 0⟩ worker preferred now)
  refine view.trans ?_
  unfold Slot.service
  split
  · rfl
  · split
    · rfl
    · split <;> rfl

/-- What draining the queue comes to. -/
structure Drains (worker : Worker) (turn : Turn) (drained : Worker × List Effect × Bool) :
    Prop where
  does : worker.Does (commandEvents turn.commands) drained.1 drained.2.1
  goesOn : drained.2.2 = !turn.last
  running : turn.last = false → drained.1.running = true

/-- A command with a key is carried out, and the others are drained after it. -/
theorem drainCommands_cons {command : Command} {key : ConnectionKey}
    (named : command.key = some key) (disconnected : Bool) (later : List Command) :
    worker.drainCommands disconnected (command :: later) =
      (((worker.drainCommand command).1.drainCommands disconnected later).1,
        (worker.drainCommand command).2 ++
          ((worker.drainCommand command).1.drainCommands disconnected later).2.1,
        ((worker.drainCommand command).1.drainCommands disconnected later).2.2) := by
  cases command with
  | shutdown => exact absurd named (by simp [Command.key])
  | add conn callbacks flag => rfl
  | remove removed => rfl
  | setOutput changed data => rfl
  | setRun changed run => rfl

theorem commandEvents_cons {command : Command} {key : ConnectionKey}
    (named : command.key = some key) (later : List Command) :
    commandEvents (command :: later) = .command command :: commandEvents later := by
  cases command with
  | shutdown => exact absurd named (by simp [Command.key])
  | add conn callbacks flag => rfl
  | remove removed => rfl
  | setOutput changed data => rfl
  | setRun changed run => rfl

theorem drains (running : worker.running = true) (turn : Turn) :
    worker.Drains turn (worker.drainCommands turn.disconnected turn.commands) := by
  obtain ⟨commands, disconnected, now, preferred, waited, received⟩ := turn
  dsimp only
  induction commands generalizing worker with
  | nil => exact ⟨does_nil, by simp [Turn.last, drainCommands], fun _ => running⟩
  | cons command later inductionHypothesis =>
    have step := step_of_running running command
    cases target : command.key with
    | none =>
      obtain rfl : command = .shutdown := by
        cases command <;> first | rfl | exact absurd target (by simp [Command.key])
      have last : Turn.last ⟨.shutdown :: later, disconnected, now, preferred, waited, received⟩ =
          true := by simp [Turn.last, Command.key]
      have shutDown := @does_step worker (.command .shutdown)
      rw [step] at shutDown
      exact ⟨shutDown, by rw [last]; rfl, fun goes =>
        absurd (last.symm.trans goes) Bool.noConfusion⟩
    | some key =>
      have last : Turn.last ⟨command :: later, disconnected, now, preferred, waited, received⟩ =
          Turn.last ⟨later, disconnected, now, preferred, waited, received⟩ := by
        simp [Turn.last, target]
      have rest := inductionHypothesis ((running_drainCommand target).trans running)
      rw [drainCommands_cons target]
      refine ⟨?_, last ▸ rest.goesOn, last ▸ rest.running⟩
      have after := rest.does
      dsimp only at after ⊢
      rw [commandEvents_cons target, ← step]
      rw [← step] at after
      exact after.cons

theorem does_receiveAll (running : worker.running = true) (received : List Received) :
    worker.Does (datagramEvents received) (worker.receiveAll received).1
      (worker.receiveAll received).2 := by
  induction received generalizing worker with
  | nil => exact does_nil
  | cons first later inductionHypothesis =>
    cases first with
    | failed => exact does_nil
    | connectionReset => exact inductionHypothesis running
    | datagram source bytes now =>
      have step : workerTransducer.step worker (.receive source bytes now) =
          worker.receive source bytes now := if_pos running
      have after := inductionHypothesis ((running_receive source bytes now).trans running)
      rw [← step] at after
      have whole := after.cons
      rwa [step] at whole

theorem does_receiveReadable (running : worker.running = true) (turn : Turn) :
    worker.Does turn.arrivals (worker.receiveReadable turn).1
      (worker.receiveReadable turn).2 := by
  unfold Turn.arrivals receiveReadable
  split
  · split
    · exact does_receiveAll running turn.received
    · exact does_nil
  · exact does_nil

/-- A turn that is not the last one: the commands, the pass, and the datagrams. -/
theorem turn_of_goesOn {turn : Turn} {drained : Worker} {changed : List Effect}
    (drains : worker.drainCommands turn.disconnected turn.commands = (drained, changed, true)) :
    worker.turn turn =
      (((drained.serviceConnections turn.preferred turn.now).1.receiveReadable turn).1,
        changed ++ ((drained.serviceConnections turn.preferred turn.now).2 ++
          ((drained.serviceConnections turn.preferred turn.now).1.receiveReadable turn).2),
        true) := by
  rw [Worker.turn, drains]

theorem turn_of_ends {turn : Turn} {drained : Worker} {changed : List Effect}
    (drains : worker.drainCommands turn.disconnected turn.commands = (drained, changed, false)) :
    worker.turn turn = (drained, changed, false) := by
  rw [Worker.turn, drains]

theorem running_receiveReadable (running : worker.running = true) (turn : Turn) :
    (worker.receiveReadable turn).1.running = true := by
  have all (received : List Received) : (worker.receiveAll received).1.running = true := by
    induction received generalizing worker with
    | nil => exact running
    | cons first later inductionHypothesis =>
      cases first with
      | failed => exact running
      | connectionReset => exact inductionHypothesis running
      | datagram source bytes now =>
        exact inductionHypothesis ((running_receive source bytes now).trans running)
  unfold receiveReadable
  split
  · split
    · exact all turn.received
    · exact running
  · exact running

/-- A turn does what happens in it, and goes on unless it is the last one. -/
theorem does_turn (running : worker.running = true) (turn : Turn) :
    worker.Does turn.events (worker.turn turn).1 (worker.turn turn).2.1 ∧
      (worker.turn turn).2.2 = !turn.last ∧
      (turn.last = false → (worker.turn turn).1.running = true) := by
  obtain ⟨does, goes, stillRunning⟩ := drains running turn
  rcases split : worker.drainCommands turn.disconnected turn.commands with
    ⟨drained, changed, goesOn⟩
  rw [split] at does goes stillRunning
  dsimp only at does goes stillRunning
  cases last : turn.last with
  | true =>
    obtain rfl : goesOn = false := goes.trans (by rw [last]; rfl)
    rw [turn_of_ends split, Turn.events, last, if_pos rfl, List.append_nil]
    exact ⟨does, rfl, fun goes => absurd goes Bool.noConfusion⟩
  | false =>
    obtain rfl : goesOn = true := goes.trans (by rw [last]; rfl)
    have awake := stillRunning last
    have serves : workerTransducer.step drained (.service turn.preferred turn.now) =
        drained.serviceConnections turn.preferred turn.now := if_pos awake
    have servedRunning : (drained.serviceConnections turn.preferred turn.now).1.running = true :=
      (running_serviceConnections turn.preferred turn.now).trans awake
    have receives := does_receiveReadable servedRunning turn
    rw [← serves] at receives
    have rest := receives.cons
    rw [serves] at rest
    rw [turn_of_goesOn split, Turn.events, last, if_neg Bool.false_ne_true]
    exact ⟨does.append rest, rfl, fun _ => running_receiveReadable servedRunning turn⟩

end Worker

/-- The loop refines the worker. Whatever its turns find, and whenever, what the loop does is what
the worker does in a run over the commands, passes and datagrams of these turns: the commands in
front of each pass, in the order of the queue, and the datagrams behind it. It ends with the first
turn that finds a shutdown or a queue without senders, and does nothing after that. -/
theorem Worker.runLoop_refines {worker : Worker} (running : worker.running = true)
    (turns : List Turn) :
    (worker.runLoop turns).1 = workerTransducer.run worker (loopEvents turns) ∧
      (worker.runLoop turns).2.1 = worker.effects (loopEvents turns) ∧
      (worker.runLoop turns).2.2 = !(turns.any Turn.last) ∧
      ∀ more, turns.any Turn.last = true →
        worker.runLoop (turns ++ more) = worker.runLoop turns := by
  induction turns generalizing worker with
  | nil => exact ⟨rfl, rfl, rfl, fun _ ended => absurd ended Bool.false_ne_true⟩
  | cons turn later inductionHypothesis =>
    obtain ⟨does, goes, stillRunning⟩ := Worker.does_turn running turn
    rcases split : worker.turn turn with ⟨after, effects, goesOn⟩
    rw [split] at does goes stillRunning
    dsimp only at does goes stillRunning
    cases last : turn.last with
    | true =>
      obtain rfl : goesOn = false := goes.trans (by rw [last]; rfl)
      have ends : ∀ rest, worker.runLoop (turn :: rest) = (after, effects, false) := fun rest => by
        rw [Worker.runLoop, split]
      have any : (turn :: later).any Turn.last = true := by rw [List.any_cons, last, Bool.true_or]
      rw [ends, loopEvents, last, if_pos rfl, List.append_nil, any]
      exact ⟨does.run.symm, does.effects.symm, rfl, fun more _ => ends (later ++ more)⟩
    | false =>
      obtain rfl : goesOn = true := goes.trans (by rw [last]; rfl)
      have turns : ∀ rest, worker.runLoop (turn :: rest) =
          ((after.runLoop rest).1, effects ++ (after.runLoop rest).2.1,
            (after.runLoop rest).2.2) := fun rest => by
        rw [Worker.runLoop, split]
      obtain ⟨run, done, goesLater, stays⟩ := inductionHypothesis (stillRunning last)
      have rest : after.Does (loopEvents later) (after.runLoop later).1 (after.runLoop later).2.1 :=
        ⟨run.symm, done.symm⟩
      have whole := does.append rest
      have any : (turn :: later).any Turn.last = later.any Turn.last := by
        rw [List.any_cons, last, Bool.false_or]
      rw [turns, loopEvents, last, if_neg Bool.false_ne_true, any]
      refine ⟨whole.run.symm, whole.effects.symm, goesLater, fun more ended => ?_⟩
      rw [List.cons_append, turns, stays more ended]

/-- A turn that opens a connection and sends its first datagram, and one that finds a shutdown with
another command behind it. -/
def twoTurns : List Turn :=
  [⟨[.add (IoConnection.new IoConnection.mirroredConfig 0) ⟨true, none, true⟩ 0], false, 0, [],
      .ok ⟨false, true⟩, []⟩,
    ⟨[.shutdown, .remove IoConnection.mirroredConfig.key], false, 10000000, [], .ok ⟨false, false⟩,
      []⟩]

theorem Worker.runLoop_refines_shutdown :
    Worker.new.runLoop (twoTurns ++ twoTurns) = Worker.new.runLoop twoTurns :=
  (@Worker.runLoop_refines Worker.new rfl twoTurns).2.2.2 twoTurns rfl

end EipScanner
