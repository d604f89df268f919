/-
This file is about calls through a handle: whose entry a command changes when it is
drained. A command names its connection by the peer's address and the connection ID that
the peer chose, and so finds whatever entry is under this key when its turn comes.

Under each key the worker is a place with one occupant. The commands under the key are
operations on it, and who owns them is the handle they were sent through. If a device
hands out a key only when the commands already queued leave no entry under it, and if a
handle is not used any more once another connection has its key, every operation in the
queue is safe, in every run.
-/

import EipScanner.Registry
import EipScanner.OwnedPlace

namespace EipScanner

open PlaceOperation

/-! ### Commands as operations -/

/-- What a queued command does to the place under a key. -/
def Queued.operation (key : ConnectionKey) (queued : Queued) : Option (PlaceOperation Nat) :=
  match queued.command, queued.sender with
  | .add conn _ flag, _ => if conn.cfg.key = key then some (.occupy flag) else none
  | .remove other, some handle => if other = key then some (.vacate handle) else none
  | .setOutput other _, some handle => if other = key then some (.touch handle) else none
  | .setRun other _, some handle => if other = key then some (.touch handle) else none
  | _, _ => none

namespace Queued

theorem operation_of_touches {command : Command} {addressed key : ConnectionKey} {handle : Nat}
    (touches : command.Touches addressed) :
    operation key ⟨some handle, command⟩ =
      if addressed = key then some (.touch handle) else none := by
  cases command with
  | setOutput other data =>
    obtain rfl : other = addressed := touches
    rfl
  | setRun other run =>
    obtain rfl : other = addressed := touches
    rfl
  | add conn callbacks flag => exact touches.elim
  | remove other => exact touches.elim
  | shutdown => exact touches.elim

theorem occupant_of_touches (worker : Worker) (key : ConnectionKey) {addressed : ConnectionKey}
    {command : Command} (touches : command.Touches addressed) :
    (worker.drainCommand command).1.occupant key = worker.occupant key := by
  obtain ⟨change, same, drained⟩ := drainCommand_of_touches worker touches
  rw [drained]
  exact Worker.occupant_update _ _ _ same

/-- Carrying out a command is performing its operation on the place under each key. -/
theorem occupant_drainCommand (worker : Worker) (key : ConnectionKey) {queued : Queued}
    (addressed : queued.sender = none → queued.command.key = none) :
    (worker.drainCommand queued.command).1.occupant key =
      perform (worker.occupant key) (queued.operation key) := by
  obtain ⟨sender, command⟩ := queued
  cases command with
  | add conn callbacks flag =>
    rw [Worker.drainCommand, operation]
    dsimp only
    by_cases same : conn.cfg.key = key
    · subst same
      rw [if_pos rfl]
      cases found : worker.connections.lookup conn.cfg.key with
      | none =>
        have vacant : worker.occupant conn.cfg.key = none := by rw [Worker.occupant, found]; rfl
        rw [vacant]
        exact (Worker.occupant_insert _ _ _ _ _ _).trans (if_pos rfl)
      | some entry =>
        rw [Worker.occupant_eq_some found]
        rfl
    · rw [if_neg same]
      cases worker.connections.lookup conn.cfg.key with
      | none => exact (Worker.occupant_insert _ _ _ _ _ _).trans (if_neg (Ne.symm same))
      | some entry => rfl
  | remove other =>
    cases sender with
    | none => exact absurd (addressed rfl) (Option.some_ne_none _)
    | some handle =>
      rw [Worker.drainCommand, Worker.occupant_erase, operation]
      dsimp only
      by_cases same : other = key
      · rw [if_pos same, if_pos same.symm]
        rfl
      · rw [if_neg same, if_neg (Ne.symm same)]
        rfl
  | setOutput other data =>
    cases sender with
    | none => exact absurd (addressed rfl) (Option.some_ne_none _)
    | some handle =>
      have touches : Command.Touches other (.setOutput other data) := rfl
      rw [occupant_of_touches worker key touches, operation_of_touches touches]
      split <;> rfl
  | setRun other run =>
    cases sender with
    | none => exact absurd (addressed rfl) (Option.some_ne_none _)
    | some handle =>
      have touches : Command.Touches other (.setRun other run) := rfl
      rw [occupant_of_touches worker key touches, operation_of_touches touches]
      split <;> rfl
  | shutdown => rfl

/-- A command under a key is an operation of the handle it was sent through. -/
theorem exists_operation {queued : Queued} {handle : Nat} {key : ConnectionKey}
    (sent : queued.sender = some handle) (toKey : queued.command.key = some key)
    (added : ∀ flag, queued.command.adds = some flag → queued.sender = some flag) :
    ∃ operation, queued.operation key = some operation ∧ operation.owner = handle := by
  obtain ⟨sender, command⟩ := queued
  obtain rfl : sender = some handle := sent
  cases command with
  | add conn callbacks flag =>
    exact ⟨.occupy flag, if_pos (Option.some.inj toKey), (Option.some.inj (added flag rfl)).symm⟩
  | remove other => exact ⟨.vacate handle, if_pos (Option.some.inj toKey), rfl⟩
  | setOutput other data => exact ⟨.touch handle, if_pos (Option.some.inj toKey), rfl⟩
  | setRun other run => exact ⟨.touch handle, if_pos (Option.some.inj toKey), rfl⟩
  | shutdown => exact absurd toKey nofun

end Queued

/-- The worker after it has drained a whole queue. -/
def Worker.drainAll (worker : Worker) (queue : List Queued) : Worker :=
  queue.foldl (fun worker queued => (worker.drainCommand queued.command).1) worker

namespace IoSystem

section
variable (system : IoSystem) (key : ConnectionKey)

/-- The operations under a key that wait in the queue. -/
def operations : List (PlaceOperation Nat) := system.queue.filterMap (Queued.operation key)

/-- Who will be under a key when the queue as it is has been drained. -/
def finalOccupant : Option Nat := replay (system.worker.occupant key) (system.operations key)

/-- The operations under a key are safe. -/
def Reserved : Prop := Safe (system.worker.occupant key) (system.operations key)

end

namespace Reserved
variable {system after : IoSystem} {key : ConnectionKey}

/-- The occupant stays or leaves. -/
theorem mono (reserved : Reserved system key) (queue : after.queue = system.queue)
    (occupant : after.worker.occupant key = system.worker.occupant key ∨
      after.worker.occupant key = none) : Reserved after key := by
  rw [Reserved, operations, queue]
  rcases occupant with stays | leaves
  · rw [stays]
    exact reserved
  · rw [leaves]
    exact reserved.vacated

/-- A command may be queued that does nothing under the key, or will find its own entry there. -/
theorem enqueue (reserved : Reserved system key) {queued : Queued}
    (queue : after.queue = system.queue ++ [queued]) (worker : after.worker = system.worker)
    (finds : ∀ operation, queued.operation key = some operation →
      operation.FindsOwn (system.finalOccupant key)) : Reserved after key := by
  rw [Reserved, worker, operations, queue]
  exact safe_filterMap_concat _ reserved finds

/-- The first command may be taken from the queue and carried out. -/
theorem dequeue (reserved : Reserved system key) {taken : Queued} {later : List Queued}
    (queued : system.queue = taken :: later) (queue : after.queue = later)
    (occupant : after.worker.occupant key =
      perform (system.worker.occupant key) (taken.operation key)) : Reserved after key := by
  rw [Reserved, operations, queued] at reserved
  rw [Reserved, occupant, operations, queue]
  exact safe_of_filterMap_cons _ reserved

end Reserved

/-- Draining the whole queue is performing all its operations. -/
theorem occupant_drainAll {system : IoSystem} (wellFormed : WellFormed system)
    (key : ConnectionKey) :
    (system.worker.drainAll system.queue).occupant key = system.finalOccupant key := by
  have addressed : ∀ queued ∈ system.queue, queued.sender = none → queued.command.key = none :=
    fun queued member => wellFormed.key_of_no_sender member
  rw [finalOccupant, operations]
  generalize system.worker = worker
  generalize system.queue = queue at addressed
  induction queue generalizing worker with
  | nil => rfl
  | cons taken later inductionHypothesis =>
    rw [Worker.drainAll, List.foldl_cons, replay_filterMap_cons,
      ← Queued.occupant_drainCommand worker key (addressed taken List.mem_cons_self)]
    exact inductionHypothesis _ fun queued member =>
      addressed queued (List.mem_cons_of_mem taken member)

/-- A command that is queued through a handle now will find the entry of the handle, or none. -/
def WillFindOwn (system : IoSystem) (handle : Nat) : Prop :=
  ∀ key, system.keyOf handle = some key →
    ∀ other ∈ (system.worker.drainAll system.queue).occupant key, other = handle

/-- A step that queues a command does so for a key that is free of the entries of others: a forward
open gets a key under which the queued commands will have left no entry, and a handle is used only
where they will have left its own entry or none. -/
def KeyFree (system : IoSystem) : IoEvent → Prop
  | .opened config response peerIp _ _ =>
    ∀ opened, completeOpen config response peerIp = .ok opened →
      (system.worker.drainAll system.queue).occupant opened.ioConfig.key = none
  | .setOutput handle _ => system.stageOf handle = some .held → system.WillFindOwn handle
  | .setRun handle _ => system.stageOf handle = some .held → system.WillFindOwn handle
  | .queueRemove handle => system.stageOf handle = some .closing → system.WillFindOwn handle
  | _ => True

theorem KeyFree.willFindOwn {system : IoSystem} {event : IoEvent} {handle : Nat}
    (free : KeyFree system event) (made : event.call = some handle)
    (held : system.stageOf handle = some .held) : system.WillFindOwn handle := by
  cases event with
  | setOutput other data =>
    obtain rfl := Option.some.inj made
    exact free held
  | setRun other run =>
    obtain rfl := Option.some.inj made
    exact free held
  | _ => exact absurd made nofun

namespace Reserved
variable {system after : IoSystem} {key : ConnectionKey}

/-- A forward open takes a key that is free. -/
theorem opened (wellFormed : WellFormed system) (reserved : Reserved system key)
    {conn : IoConnection} {callbacks : IoCallbacks} {flag : Nat}
    (vacant : (system.worker.drainAll system.queue).occupant conn.cfg.key = none)
    (queue : after.queue = system.queue ++ [⟨some flag, .add conn callbacks flag⟩])
    (worker : after.worker = system.worker) : Reserved after key := by
  refine reserved.enqueue queue worker fun operation adding => ?_
  obtain ⟨rfl, isOccupy⟩ := Option.ite_none_right_eq_some.mp adding
  obtain rfl := Option.some.inj isOccupy
  rwa [occupant_drainAll wellFormed] at vacant

/-- A command through a handle finds the entry of the handle, or none. -/
theorem called (wellFormed : WellFormed system) (reserved : Reserved system key) {handle : Nat}
    {owner : Handle} {command : Command} (found : system.handles[handle]? = some owner)
    (own : system.WillFindOwn handle)
    (means : ∀ operation, Queued.operation key ⟨some handle, command⟩ = some operation →
      owner.key = key ∧ (operation = .touch handle ∨ operation = .vacate handle))
    (queue : after.queue = system.queue ++ [⟨some handle, command⟩])
    (worker : after.worker = system.worker) : Reserved after key := by
  refine reserved.enqueue queue worker fun operation doing => ?_
  obtain ⟨rfl, isOperation⟩ := means operation doing
  have finds := own owner.key (keyOf_of_found found)
  rw [occupant_drainAll wellFormed] at finds
  rcases isOperation with rfl | rfl
  · exact finds
  · exact finds

end Reserved

theorem reserved_of_transition {system after : IoSystem} {event : IoEvent} {key : ConnectionKey}
    (wellFormed : WellFormed system) (reserved : Reserved system key)
    (free : KeyFree system event) (transition : Transition system event after) :
    Reserved after key := by
  have addressed : ∀ {taken later}, system.queue = taken :: later →
      taken.sender = none → taken.command.key = none :=
    fun queued => wellFormed.key_of_no_sender (queued ▸ List.mem_cons_self)
  cases transition with
  | idle => exact reserved
  | opened connected completed => exact reserved.opened wellFormed (free _ completed) rfl rfl
  | called connected found held touches made =>
    have own := free.willFindOwn made ((stageOf_of_found found).trans (congrArg some held))
    refine reserved.called wellFormed found own (fun operation calling => ?_) rfl rfl
    rw [Queued.operation_of_touches touches, Option.ite_none_right_eq_some] at calling
    exact ⟨calling.1, Or.inl (Option.some.inj calling.2).symm⟩
  | shutdown connected => exact reserved.enqueue rfl rfl nofun
  | openedLost | won | lost | removeLost | closeSent | dropped | letGo =>
    exact reserved.mono rfl (Or.inl rfl)
  | removeQueued connected found closing =>
    have own := free ((stageOf_of_found found).trans (congrArg some closing))
    refine reserved.called wellFormed found own (fun operation removing => ?_) rfl rfl
    obtain ⟨toKey, isVacate⟩ := Option.ite_none_right_eq_some.mp removing
    exact ⟨toKey, Or.inr (Option.some.inj isVacate).symm⟩
  | drainedAdd running queued vacant =>
    refine reserved.dequeue queued rfl ?_
    rw [← Queued.occupant_drainCommand _ _ (addressed queued), Worker.drainCommand, vacant]
  | drainedAddTaken running queued taken =>
    refine reserved.dequeue queued rfl ?_
    rw [← Queued.occupant_drainCommand _ _ (addressed queued), Worker.drainCommand, taken]
  | drainedRemove running queued =>
    refine reserved.dequeue queued rfl ?_
    rw [← Queued.occupant_drainCommand _ _ (addressed queued), Worker.drainCommand]
  | @drainedTouch sender command place later change running queued touches same =>
    have untouched := Queued.occupant_of_touches system.worker key touches
    have drained := Queued.occupant_drainCommand system.worker key (addressed queued)
    refine reserved.dequeue queued rfl ?_
    rw [Worker.occupant_update _ _ _ same]
    exact untouched.symm.trans drained
  | drainedShutdown running queued => exact reserved.dequeue queued rfl rfl
  | quiet running quiet => exact reserved.mono rfl (Or.inl (quiet.occupant key))
  | expired running found late =>
    refine reserved.mono rfl ?_
    rw [Worker.occupant_erase]
    split
    · exact Or.inr rfl
    · exact Or.inl rfl

theorem reserved_new (key : ConnectionKey) : Reserved IoSystem.new key := trivial

/-! ### Calls through a handle -/

/-- The next command in the queue, if it was sent through a handle, changes no entry but the one
of this handle. -/
def NextIsolated (system : IoSystem) : Prop :=
  ∀ taken later handle, system.queue = taken :: later → taken.sender = some handle →
    ∀ key, (system.worker.drainCommand taken.command).1.connections.lookup key ≠
        system.worker.connections.lookup key →
      (∀ entry, system.worker.connections.lookup key = some entry → entry.flag = handle) ∧
        ∀ entry, (system.worker.drainCommand taken.command).1.connections.lookup key =
          some entry → entry.flag = handle

/-- A command that is drained is isolated. -/
def DrainIsolated (system : IoSystem) : IoEvent → Prop
  | .drain => system.NextIsolated
  | _ => True

theorem nextIsolated_of_reserved {system : IoSystem} (wellFormed : WellFormed system)
    (reserved : ∀ key, Reserved system key) : NextIsolated system := by
  intro taken later handle queued sent key changed
  have member : taken ∈ system.queue := queued ▸ List.mem_cons_self
  obtain ⟨place, toPlace, -⟩ := wellFormed.keyOf_sender member sent
  by_cases same : place = key
  · subst same
    obtain ⟨operation, doing, rfl⟩ :=
      Queued.exists_operation sent toPlace (wellFormed.added taken member)
    have safe := reserved place
    rw [Reserved, operations, queued, List.filterMap_cons_some doing] at safe
    have drained := Queued.occupant_drainCommand system.worker place
      (wellFormed.key_of_no_sender member)
    rw [doing] at drained
    obtain ⟨before, after⟩ := safe.1.isolated
    exact ⟨fun entry found => before entry.flag (Worker.occupant_eq_some found),
      fun entry found => after entry.flag (drained.symm.trans (Worker.occupant_eq_some found))⟩
  · have unchanged := (Worker.slot_drainCommand_other key system.worker _ toPlace same).1
    exact absurd (congrArg Slot.entry unchanged) changed

/-- Calls through a handle are isolated in every run in which a device hands out a key only when
the commands already queued leave no entry under it, and a handle is used only while they leave
under its key its own entry or none. -/
theorem calls_isolated {events : List IoEvent}
    (free : ioMachine.Meets KeyFree IoSystem.new events) :
    ioMachine.Meets DrainIsolated IoSystem.new events := by
  have preserved : ∀ system event after,
      (Sound system ∧ ∀ key, Reserved system key) → KeyFree system event →
        ioMachine.step system event = some after → Sound after ∧ ∀ key, Reserved after key := by
    rintro system event after ⟨sound, reserved⟩ freeHere step
    exact ⟨sound_of_step sound step, fun key =>
      reserved_of_transition sound.wellFormed (reserved key) freeHere (transition_of_step step)⟩
  refine Machine.Meets.of_invariant ioMachine preserved ?_ ⟨sound_new, reserved_new⟩ free
  rintro system event ⟨sound, reserved⟩ -
  cases event with
  | drain => exact nextIsolated_of_reserved sound.wellFormed reserved
  | _ => trivial

/-- A connection times out and the device hands out the same key again, while the first handle is
still held. The new connection is used and closed, and the first handle is only closed. -/
def reopened : List IoEvent :=
  [grantedOpen ⟨0⟩ ⟨false, none, true⟩ 0, .drain, .expire ⟨⟨0⟩, 0x200⟩ 1000000000,
    grantedOpen ⟨0⟩ ⟨false, none, true⟩ 1000000000, .setOutput 1 [1, 2], .closeHandle 0,
    .closeHandle 1, .queueRemove 1, .drain, .drain, .drain]

theorem willFindOwn_of_eq {system : IoSystem} {handle : Nat} {key : ConnectionKey}
    (known : system.keyOf handle = some key)
    (finds : (system.worker.drainAll system.queue).occupant key = some handle) :
    system.WillFindOwn handle := by
  intro other same occupant member
  obtain rfl := Option.some.inj (known.symm.trans same)
  exact (Option.some.inj (finds.symm.trans member)).symm

theorem calls_isolated_reopened : ioMachine.Meets DrainIsolated IoSystem.new reopened := by
  refine calls_isolated ⟨?_, fun opened opening => ⟨trivial, fun added adding => ⟨trivial,
    fun expired expiring => ⟨?_, fun again reopening => ⟨fun _ => ?_, fun called calling =>
      ⟨trivial, fun closed closing => ⟨trivial, fun won winning => ⟨fun _ => ?_,
        fun _ _ => ⟨trivial, fun _ _ => ⟨trivial, fun _ _ => ⟨trivial,
          fun _ _ => trivial⟩⟩⟩⟩⟩⟩⟩⟩⟩⟩⟩
  · rintro granted ⟨⟩
    rfl
  all_goals
    obtain rfl := Option.some.inj opening
    obtain rfl := Option.some.inj adding
    obtain rfl := Option.some.inj expiring
  · rintro granted ⟨⟩
    rfl
  · obtain rfl := Option.some.inj reopening
    exact @willFindOwn_of_eq _ 1 ⟨⟨0⟩, 0x200⟩ rfl rfl
  · obtain rfl := Option.some.inj reopening
    obtain rfl := Option.some.inj calling
    obtain rfl := Option.some.inj closing
    obtain rfl := Option.some.inj winning
    exact @willFindOwn_of_eq _ 1 ⟨⟨0⟩, 0x200⟩ rfl rfl

/-- A connection times out, the device hands out the same key again, and the owner of the first
handle sets its output: the output of the second connection changes. -/
theorem stale_call_changes_other :
    ¬ ioMachine.Meets DrainIsolated IoSystem.new [grantedOpen ⟨0⟩ ⟨false, none, true⟩ 0, .drain,
      .expire ⟨⟨0⟩, 0x200⟩ 1000000000, grantedOpen ⟨0⟩ ⟨false, none, true⟩ 1000000000, .drain,
      .setOutput 0 [9, 9], .drain] := by
  intro isolated
  have next := ((((((isolated.2 _ rfl).2 _ rfl).2 _ rfl).2 _ rfl).2 _ rfl).2 _ rfl).1
  have own := (next _ _ 0 rfl rfl ⟨⟨0⟩, 0x200⟩ ?_).1 _ rfl
  · exact absurd own (by decide)
  · intro unchanged
    have sameOutput := congrArg (Option.map fun entry : Entry => entry.conn.output) unchanged
    exact absurd sameOutput (by decide)

end IoSystem

end EipScanner
