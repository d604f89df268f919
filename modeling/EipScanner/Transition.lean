/-
This file describes every step of the I/O system completely, one case for each thing
that can happen. An invariant is then a case analysis over these, and none of them has
to look into the definition of a step again.

Most steps of the worker only change an entry in place: a packet is built, a datagram
is taken. To the flags, the queue and the handles these are one case. It leaves it
open which effects there are, but says that each belongs to the entry under its key.
-/

import EipScanner.IoSystem

namespace EipScanner

/-! ### Who is under which key -/

namespace Worker

section
variable (worker : Worker) (key : ConnectionKey)

theorem occupant_eq_some {worker : Worker} {key : ConnectionKey} {entry : Entry}
    (found : worker.connections.lookup key = some entry) :
    worker.occupant key = some entry.flag := by
  rw [occupant, found, Option.map_some]

theorem occupant_insert (place : ConnectionKey) (entry : Entry) (rxBuf : RxBuf) (txBuf : Bytes) :
    occupant { worker with connections := worker.connections.insert place entry, rxBuf, txBuf }
        key =
      if key = place then some entry.flag else worker.occupant key := by
  rw [occupant]
  split
  next same => rw [same, AList.lookup_insert, Option.map_some]
  next other => rw [AList.lookup_insert_ne other, occupant]

theorem occupant_erase (place : ConnectionKey) :
    occupant { worker with connections := worker.connections.erase place } key =
      if key = place then none else worker.occupant key := by
  rw [occupant]
  split
  next same => rw [same, AList.lookup_erase, Option.map_none]
  next other => rw [AList.lookup_erase_ne other, occupant]

theorem occupant_of_erase {worker : Worker} {place key : ConnectionKey} {flag : Nat}
    (taken :
      occupant { worker with connections := worker.connections.erase place } key = some flag) :
    worker.occupant key = some flag := by
  rw [occupant_erase] at taken
  split at taken
  · exact absurd taken nofun
  · exact taken

/-- Changing an entry does not change whose it is. -/
theorem occupant_insert_same {place : ConnectionKey} {entry after : Entry}
    (found : worker.connections.lookup place = some entry) (same : after.flag = entry.flag)
    (rxBuf : RxBuf) (txBuf : Bytes) :
    occupant { worker with connections := worker.connections.insert place after, rxBuf, txBuf }
        key =
      worker.occupant key := by
  rw [occupant_insert]
  split
  next here => rw [here, occupant_eq_some found, same]
  next => rfl

theorem occupant_update (place : ConnectionKey) {change : Entry → Entry}
    (same : ∀ entry, (change entry).flag = entry.flag) :
    (worker.update place change).occupant key = worker.occupant key := by
  unfold update
  split
  · rfl
  next entry found => exact occupant_insert_same worker key found (same entry) _ _

end

/-- A step of the worker that only changes entries in place: no flag is closed, no close callback
is called, and every effect is that of an entry in the map. -/
structure Quiet (worker : Worker) (outcome : Worker × List Effect) : Prop where
  running : outcome.1.running = worker.running
  occupant : ∀ key, outcome.1.occupant key = worker.occupant key
  effects : ∀ effect ∈ outcome.2, effect.action ≠ .closeFlag ∧ effect.action ≠ .onClose ∧
    worker.occupant effect.key = some effect.flag

variable {worker : Worker}

theorem flag_transmit (entry : Entry) (now : Nat) (txBuf : Bytes) :
    (entry.transmit now txBuf).1.flag = entry.flag := by
  simp only [Entry.transmit, Entry.callOnSend]
  cases entry.callbacks.onSend <;> rfl

theorem mem_transmit {entry : Entry} {now : Nat} {txBuf : Bytes} {action : Action}
    (member : action ∈ (entry.transmit now txBuf).2.2) :
    action ≠ .closeFlag ∧ action ≠ .onClose := by
  simp only [Entry.transmit, List.mem_append] at member
  rcases member with called | sending
  · rw [Entry.callOnSend] at called
    split at called
    · exact absurd called List.not_mem_nil
    · obtain rfl := List.mem_singleton.mp called
      exact ⟨(by simp), (by simp)⟩
  · split at sending
    · obtain rfl := List.mem_singleton.mp sending
      exact ⟨(by simp), (by simp)⟩
    · exact absurd sending List.not_mem_nil

theorem quiet_sendDue {key : ConnectionKey} {entry : Entry} (now : Nat)
    (found : worker.connections.lookup key = some entry) :
    Quiet worker (worker.sendDue now key entry) := by
  cases due : entry.conn.isSendDue now with
  | false =>
    simp only [sendDue, due, Bool.false_eq_true, if_false]
    exact ⟨rfl, fun _ => rfl, (by simp)⟩
  | true =>
    simp only [sendDue, due, if_true]
    refine ⟨rfl, fun other => ?_, fun effect member => ?_⟩
    · exact occupant_insert_same worker other found (flag_transmit entry now _) _ _
    · obtain ⟨action, inActions, rfl⟩ := List.mem_map.mp member
      exact ⟨(mem_transmit inActions).1, (mem_transmit inActions).2, occupant_eq_some found⟩

theorem flag_receive (entry : Entry) (packet : ConnectedPacket) (now : Nat) :
    (entry.receive packet now).1.flag = entry.flag := by
  unfold Entry.receive
  split
  · rfl
  · split <;> rfl

theorem mem_receive {entry : Entry} {packet : ConnectedPacket} {now : Nat} {action : Action}
    (member : action ∈ (entry.receive packet now).2) :
    action ≠ .closeFlag ∧ action ≠ .onClose := by
  unfold Entry.receive at member
  split at member
  · exact absurd member List.not_mem_nil
  · split at member
    · obtain rfl := List.mem_singleton.mp member
      exact ⟨nofun, nofun⟩
    · exact absurd member List.not_mem_nil

theorem quiet_receive (source : IpAddr) (datagram : Bytes) (now : Nat) :
    Quiet worker (worker.receive source datagram now) := by
  rw [receive_eq]
  dsimp only
  split
  next packet peerIp decoded =>
    split
    · exact ⟨rfl, fun _ => rfl, nofun⟩
    next entry found =>
      refine ⟨rfl, fun other => ?_, fun effect member => ?_⟩
      · exact occupant_insert_same worker other found (flag_receive entry packet now) _ _
      · obtain ⟨action, inActions, rfl⟩ := List.mem_map.mp member
        exact ⟨(mem_receive inActions).1, (mem_receive inActions).2, occupant_eq_some found⟩
  · exact ⟨rfl, fun _ => rfl, nofun⟩

end Worker

/-! ### What a step can do -/

/-- The command changes the output or the run bit of the entry under a key. -/
def Command.Touches (key : ConnectionKey) : Command → Prop
  | .setOutput other _ => other = key
  | .setRun other _ => other = key
  | _ => False

theorem drainCommand_of_touches (worker : Worker) {key : ConnectionKey} {command : Command}
    (touches : command.Touches key) :
    ∃ change : Entry → Entry, (∀ entry, (change entry).flag = entry.flag) ∧
      worker.drainCommand command = (worker.update key change, []) := by
  cases command with
  | setOutput other data =>
    obtain rfl : other = key := touches
    exact ⟨fun entry => { entry with conn := entry.conn.setOutput data }, fun _ => rfl, rfl⟩
  | setRun other run =>
    obtain rfl : other = key := touches
    exact ⟨fun entry => { entry with conn := entry.conn.setRun run }, fun _ => rfl, rfl⟩
  | add conn callbacks flag => exact touches.elim
  | remove other => exact touches.elim
  | shutdown => exact touches.elim

section
open IoSystem

/-- The handle that a call to set something is made through. -/
def IoEvent.call : IoEvent → Option Nat
  | .setOutput handle _ => some handle
  | .setRun handle _ => some handle
  | _ => none

/-- Every way a step can change the system. A command that is lost changes
nothing; the steps that only change entries in place are one case. -/
inductive Transition (system : IoSystem) : IoEvent → IoSystem → Prop where
  | idle {event : IoEvent} (lost : system.connected = false) :
    Transition system event system
  | opened {config response peerIp callbacks now opened} (connected : system.connected = true)
    (completed : completeOpen config response peerIp = .ok opened) :
    Transition system (.opened config response peerIp callbacks now)
      { system with
        flags := system.flags ++ [true]
        openCount := system.openCount + 1
        handles := system.handles ++ [⟨opened.ioConfig.key, opened.closeRequest, .held⟩]
        queue := system.queue ++ [⟨some system.flags.length,
          .add (IoConnection.new opened.ioConfig now) callbacks system.flags.length⟩] }
  | openedLost {config response peerIp callbacks now opened} (lost : system.connected = false)
    (completed : completeOpen config response peerIp = .ok opened) :
    Transition system (.opened config response peerIp callbacks now)
      { system with
        flags := system.flags ++ [true]
        openCount := system.openCount + 1
        handles := system.handles ++ [⟨opened.ioConfig.key, opened.closeRequest, .gone⟩] }
  | called {event : IoEvent} {handle owner command} (connected : system.connected = true)
    (found : system.handles[handle]? = some owner) (held : owner.stage = .held)
    (touches : Command.Touches owner.key command) (made : event.call = some handle) :
    Transition system event { system with queue := system.queue ++ [⟨some handle, command⟩] }
  | shutdown (connected : system.connected = true) :
    Transition system .shutdown { system with queue := system.queue ++ [⟨none, .shutdown⟩] }
  | won {handle owner} (found : system.handles[handle]? = some owner) (held : owner.stage = .held)
    (isOpen : system.flags[handle]? = some true) :
    Transition system (.closeHandle handle)
      ((setStage { system with
          flags := system.flags.set handle false
          openCount := fetchSub system.openCount } handle .closing).record (.won handle))
  | lost {handle owner} (found : system.handles[handle]? = some owner)
    (held : owner.stage = .held) (isClosed : system.flags[handle]? ≠ some true) :
    Transition system (.closeHandle handle) (system.setStage handle .gone)
  | removeQueued {handle owner} (connected : system.connected = true)
    (found : system.handles[handle]? = some owner) (closing : owner.stage = .closing) :
    Transition system (.queueRemove handle)
      (setStage { system with queue := system.queue ++ [⟨some handle, .remove owner.key⟩] }
        handle .removing)
  | removeLost {handle owner} (lost : system.connected = false)
    (found : system.handles[handle]? = some owner) (closing : owner.stage = .closing) :
    Transition system (.queueRemove handle) (system.setStage handle .gone)
  | closeSent {handle owner} (found : system.handles[handle]? = some owner)
    (removing : owner.stage = .removing) :
    Transition system (.sendForwardClose handle) (system.sendForwardClose handle owner)
  | dropped {handle owner} (found : system.handles[handle]? = some owner)
    (held : owner.stage = .held) :
    Transition system (.dropHandle handle) (system.setStage handle .gone)
  | letGo (stopped : system.worker.running = false) :
    Transition system .letGo { system with connected := false }
  | drainedAdd {sender conn callbacks flag later} (running : system.worker.running = true)
    (queued : system.queue = ⟨sender, .add conn callbacks flag⟩ :: later)
    (vacant : system.worker.connections.lookup conn.cfg.key = none) :
    Transition system .drain
      { system with
        queue := later
        worker := { system.worker with
          connections :=
            system.worker.connections.insert conn.cfg.key ⟨conn, callbacks, flag, []⟩ } }
  | drainedAddTaken {sender conn callbacks flag later entry}
    (running : system.worker.running = true)
    (queued : system.queue = ⟨sender, .add conn callbacks flag⟩ :: later)
    (taken : system.worker.connections.lookup conn.cfg.key = some entry) :
    Transition system .drain
      { system with
        queue := later
        flags := system.flags.set flag false
        openCount := system.countAfterClose flag
        log := system.log ++ [.effect ⟨conn.cfg.key, flag, .closeFlag⟩] }
  | drainedRemove {sender key later} (running : system.worker.running = true)
    (queued : system.queue = ⟨sender, .remove key⟩ :: later) :
    Transition system .drain
      { system with
        queue := later
        worker := { system.worker with connections := system.worker.connections.erase key }
        log := system.log ++ sender.toList.map .removed }
  | drainedTouch {sender command key later} {change : Entry → Entry}
    (running : system.worker.running = true)
    (queued : system.queue = ⟨sender, command⟩ :: later) (touches : command.Touches key)
    (same : ∀ entry, (change entry).flag = entry.flag) :
    Transition system .drain
      { system with queue := later, worker := system.worker.update key change }
  | drainedShutdown {sender later} (running : system.worker.running = true)
    (queued : system.queue = ⟨sender, .shutdown⟩ :: later) :
    Transition system .drain
      { system with queue := later, worker := { system.worker with running := false } }
  | quiet {event : IoEvent} {outcome : Worker × List Effect}
    (running : system.worker.running = true) (quiet : Worker.Quiet system.worker outcome) :
    Transition system event
      { system with worker := outcome.1, log := system.log ++ outcome.2.map .effect }
  | expired {key now entry} (running : system.worker.running = true)
    (found : system.worker.connections.lookup key = some entry)
    (late : entry.conn.isTimedOut now = true) :
    Transition system (.expire key now)
      { system with
        worker := { system.worker with connections := system.worker.connections.erase key }
        flags := system.flags.set entry.flag false
        openCount := system.countAfterClose entry.flag
        log := system.log ++ (entry.expired.map (Effect.mk key entry.flag)).map .effect }

/-- A handle is gone on with when it is at the stage. -/
theorem withHandle_eq_some_iff {system after : IoSystem} {handle : Nat} {stage : Stage}
    {next : Handle → IoSystem} :
    system.withHandle handle stage next = some after ↔
      ∃ owner, system.handles[handle]? = some owner ∧ owner.stage = stage ∧ next owner = after := by
  unfold withHandle
  cases found : system.handles[handle]? with
  | none => simp
  | some owner =>
    by_cases reached : owner.stage = stage <;> simp [reached]

theorem closeFlags_of_quiet (system : IoSystem) {effects : List Effect}
    (quiet : ∀ effect ∈ effects, effect.action ≠ .closeFlag) :
    system.closeFlags effects = system := by
  induction effects with
  | nil => rfl
  | cons effect later inductionHypothesis =>
    rw [closeFlags, List.foldl_cons, if_neg (quiet effect List.mem_cons_self)]
    exact inductionHypothesis fun other member => quiet other (List.mem_cons_of_mem effect member)

/-- Effects that close no flag leave everything but the worker and the log alone. -/
theorem absorb_of_quiet (system : IoSystem) {outcome : Worker × List Effect}
    (quiet : ∀ effect ∈ outcome.2, effect.action ≠ .closeFlag) :
    system.absorb outcome =
      { system with worker := outcome.1, log := system.log ++ outcome.2.map .effect } := by
  rw [absorb, closeFlags_of_quiet system quiet]

/-- A step of the worker without effects changes the worker alone. -/
theorem absorb_silent (system : IoSystem) (worker : Worker) :
    system.absorb (worker, []) = { system with worker } := by
  rw [absorb_of_quiet system fun _ member => absurd member List.not_mem_nil, List.map_nil,
    List.append_nil]

/-- A step of the worker that closes one flag, and what else it does. -/
theorem absorb_closing (system : IoSystem) (worker : Worker) (key : ConnectionKey) (flag : Nat)
    {effects : List Effect} (quiet : ∀ effect ∈ effects, effect.action ≠ .closeFlag) :
    system.absorb (worker, ⟨key, flag, .closeFlag⟩ :: effects) =
      { system with
        worker
        flags := system.flags.set flag false
        openCount := system.countAfterClose flag
        log := system.log ++ .effect ⟨key, flag, .closeFlag⟩ :: effects.map .effect } := by
  have closed : system.closeFlags (⟨key, flag, .closeFlag⟩ :: effects) =
      (system.closeFlag flag).1 :=
    closeFlags_of_quiet (system.closeFlag flag).1 quiet
  rw [absorb, closed]
  rfl

/-- Sending is queueing until the worker lets go of the queue. -/
theorem send_of_connected {system : IoSystem} (connected : system.connected = true)
    (sender : Option Nat) (command : Command) :
    system.send sender command =
      { system with queue := system.queue ++ [⟨sender, command⟩] } :=
  if_pos connected

theorem send_of_lost {system : IoSystem} (lost : system.connected = false)
    (sender : Option Nat) (command : Command) : system.send sender command = system :=
  if_neg (Bool.eq_false_iff.mp lost)

theorem addConnection_of_connected {system : IoSystem} (connected : system.connected = true)
    (opened : OpenedConnection) (callbacks : IoCallbacks) (now : Nat) :
    system.addConnection opened callbacks now =
      { system with
        flags := system.flags ++ [true]
        openCount := system.openCount + 1
        handles := system.handles ++ [⟨opened.ioConfig.key, opened.closeRequest, .held⟩]
        queue := system.queue ++ [⟨some system.flags.length,
          .add (IoConnection.new opened.ioConfig now) callbacks system.flags.length⟩] } := by
  rw [addConnection, if_pos connected]
  exact if_pos connected

theorem addConnection_of_lost {system : IoSystem} (lost : system.connected = false)
    (opened : OpenedConnection) (callbacks : IoCallbacks) (now : Nat) :
    system.addConnection opened callbacks now =
      { system with
        flags := system.flags ++ [true]
        openCount := system.openCount + 1
        handles := system.handles ++ [⟨opened.ioConfig.key, opened.closeRequest, .gone⟩] } := by
  rw [addConnection, if_neg (Bool.eq_false_iff.mp lost)]
  exact if_neg (Bool.eq_false_iff.mp lost)

/-- Closing a flag that is not open changes nothing. -/
theorem closeFlag_of_closed {system : IoSystem} {flag : Nat}
    (isClosed : system.flags[flag]? ≠ some true) : system.closeFlag flag = (system, false) := by
  have same : system.flags.set flag false = system.flags := by
    refine List.ext_getElem? fun index => ?_
    rw [List.getElem?_set]
    split
    next here =>
      subst here
      cases value : system.flags[flag]? with
      | none => rw [if_neg (Nat.not_lt.mpr (List.getElem?_eq_none_iff.mp value))]
      | some wasOpen =>
        rw [if_pos (List.getElem?_eq_some_iff.mp value).1]
        cases wasOpen with
        | false => rfl
        | true => exact absurd value isClosed
    next => rfl
  rw [closeFlag, countAfterClose, if_neg isClosed, same, decide_eq_false isClosed]

theorem closeFlag_of_open {system : IoSystem} {flag : Nat}
    (isOpen : system.flags[flag]? = some true) :
    system.closeFlag flag =
      ({ system with
          flags := system.flags.set flag false
          openCount := fetchSub system.openCount }, true) := by
  rw [closeFlag, countAfterClose, if_pos isOpen, decide_eq_true isOpen]

theorem transition_of_drain {system after : IoSystem} (running : system.worker.running = true)
    (drained : system.drain = some after) : Transition system .drain after := by
  unfold drain at drained
  cases queued : system.queue with
  | nil =>
    rw [queued] at drained
    exact absurd drained nofun
  | cons taken later =>
    obtain ⟨sender, command⟩ := taken
    rw [queued] at drained
    obtain rfl := Option.some.inj drained
    cases command with
    | add conn callbacks flag =>
      rw [Worker.drainCommand]
      cases found : system.worker.connections.lookup conn.cfg.key with
      | none =>
        rw [absorb_silent]
        cases sender <;> exact .drainedAdd running queued found
      | some entry =>
        rw [absorb_closing _ _ _ _ fun _ member => absurd member List.not_mem_nil]
        cases sender <;> exact .drainedAddTaken running queued found
    | remove key =>
      have removed := Transition.drainedRemove running queued
      rw [Worker.drainCommand, absorb_silent]
      cases sender with
      | none => rwa [Option.toList_none, List.map_nil, List.append_nil] at removed
      | some handle => exact removed
    | setOutput key data =>
      rw [Worker.drainCommand, absorb_silent]
      cases sender <;> exact .drainedTouch running queued rfl fun _ => rfl
    | setRun key run =>
      rw [Worker.drainCommand, absorb_silent]
      cases sender <;> exact .drainedTouch running queued rfl fun _ => rfl
    | shutdown =>
      rw [Worker.drainCommand, absorb_silent]
      cases sender <;> exact .drainedShutdown running queued

theorem transition_of_serve {system after : IoSystem} {key : ConnectionKey} {now : Nat}
    (running : system.worker.running = true) (served : system.serve key now = some after) :
    Transition system (.serve key now) after := by
  unfold IoSystem.serve at served
  split at served
  · exact absurd served nofun
  next entry found =>
    split at served
    · exact absurd served nofun
    · obtain rfl := Option.some.inj served
      have quiet := Worker.quiet_sendDue now found
      rw [absorb_of_quiet system fun effect member => (quiet.effects effect member).1]
      exact .quiet running quiet

/-- Handling an entry that timed out. -/
theorem expire_of_found {system : IoSystem} {key : ConnectionKey} {entry : Entry}
    (found : system.worker.connections.lookup key = some entry) (now : Nat) :
    system.expire key now =
      if entry.conn.isTimedOut now then
        some { system with
          worker := { system.worker with connections := system.worker.connections.erase key }
          flags := system.flags.set entry.flag false
          openCount := system.countAfterClose entry.flag
          log := system.log ++ (entry.expired.map (Effect.mk key entry.flag)).map .effect }
      else none := by
  rw [IoSystem.expire, Worker.expire, found]
  dsimp only
  rw [Entry.expired, List.map_cons, absorb_closing]
  · rfl
  · intro effect member
    obtain ⟨action, inActions, rfl⟩ := List.mem_map.mp member
    split at inActions
    · rw [List.mem_singleton.mp inActions]
      simp
    · exact absurd inActions List.not_mem_nil

theorem transition_of_expire {system after : IoSystem} {key : ConnectionKey} {now : Nat}
    (running : system.worker.running = true) (expired : system.expire key now = some after) :
    Transition system (.expire key now) after := by
  cases found : system.worker.connections.lookup key with
  | none =>
    rw [IoSystem.expire, found] at expired
    exact absurd expired nofun
  | some entry =>
    rw [expire_of_found found, Option.ite_none_right_eq_some] at expired
    obtain ⟨late, handled⟩ := expired
    obtain rfl := Option.some.inj handled
    exact .expired running found late

/-- A step is one of the transitions. -/
theorem transition_of_step {system after : IoSystem} {event : IoEvent}
    (step : ioMachine.step system event = some after) : Transition system event after := by
  cases event with
  | opened config response peerIp callbacks now =>
    cases completed : completeOpen config response peerIp with
    | error refused => simp [ioMachine, completed] at step
    | ok opened =>
      simp only [ioMachine, completed, Option.some.injEq] at step
      subst step
      cases connected : system.connected with
      | true =>
        rw [addConnection_of_connected connected]
        exact .opened connected completed
      | false =>
        rw [addConnection_of_lost connected]
        exact .openedLost connected completed
  | setOutput handle data =>
    obtain ⟨owner, found, held, rfl⟩ := withHandle_eq_some_iff.mp step
    cases connected : system.connected with
    | true =>
      rw [send_of_connected connected]
      exact .called connected found held rfl rfl
    | false =>
      rw [send_of_lost connected]
      exact .idle connected
  | setRun handle run =>
    obtain ⟨owner, found, held, rfl⟩ := withHandle_eq_some_iff.mp step
    cases connected : system.connected with
    | true =>
      rw [send_of_connected connected]
      exact .called connected found held rfl rfl
    | false =>
      rw [send_of_lost connected]
      exact .idle connected
  | closeHandle handle =>
    obtain ⟨owner, found, held, rfl⟩ := withHandle_eq_some_iff.mp step
    by_cases isOpen : system.flags[handle]? = some true
    · rw [IoSystem.closeHandle, closeFlag_of_open isOpen]
      exact .won found held isOpen
    · rw [IoSystem.closeHandle, closeFlag_of_closed isOpen]
      exact .lost found held isOpen
  | queueRemove handle =>
    obtain ⟨owner, found, closing, rfl⟩ := withHandle_eq_some_iff.mp step
    cases connected : system.connected with
    | true =>
      rw [IoSystem.queueRemove, send_of_connected connected, if_pos connected]
      exact .removeQueued connected found closing
    | false =>
      rw [IoSystem.queueRemove, send_of_lost connected, connected, if_neg Bool.false_ne_true]
      exact .removeLost connected found closing
  | sendForwardClose handle =>
    obtain ⟨owner, found, removing, rfl⟩ := withHandle_eq_some_iff.mp step
    exact .closeSent found removing
  | dropHandle handle =>
    obtain ⟨owner, found, held, rfl⟩ := withHandle_eq_some_iff.mp step
    exact .dropped found held
  | shutdown =>
    obtain rfl := Option.some.inj step
    cases connected : system.connected with
    | true =>
      rw [send_of_connected connected]
      exact .shutdown connected
    | false =>
      rw [send_of_lost connected]
      exact .idle connected
  | letGo =>
    cases running : system.worker.running with
    | true => simp [ioMachine, running] at step
    | false =>
      simp only [ioMachine, running, Bool.false_eq_true, if_false, Option.some.injEq] at step
      exact step ▸ .letGo running
  | drain =>
    cases running : system.worker.running with
    | true => exact transition_of_drain running (by simpa [ioMachine, running] using step)
    | false => simp [ioMachine, running] at step
  | serve key now =>
    cases running : system.worker.running with
    | true => exact transition_of_serve running (by simpa [ioMachine, running] using step)
    | false => simp [ioMachine, running] at step
  | expire key now =>
    cases running : system.worker.running with
    | true => exact transition_of_expire running (by simpa [ioMachine, running] using step)
    | false => simp [ioMachine, running] at step
  | receive source datagram now =>
    cases running : system.worker.running with
    | true =>
      simp only [ioMachine, running, if_true, Option.some.injEq] at step
      have quiet := @Worker.quiet_receive system.worker source datagram now
      rw [absorb_of_quiet system fun effect member => (quiet.effects effect member).1] at step
      exact step ▸ .quiet running quiet
    | false => simp [ioMachine, running] at step

end

end EipScanner
