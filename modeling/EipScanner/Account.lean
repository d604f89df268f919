/-
This file keeps account of the open flags: their count, who closed them, and why a
connection whose flag is closed still has a place.

Four pieces of state are changed by two threads in separate steps: the flags, their
count, the queue, and the map of the worker. What connects them is where a forward close
stands. A handle that leaves has closed its flag and either still has to queue its Remove
or has queued it; until the Remove is carried out the connection may keep its place in
the queue or in the map. The account holds in every run, also when devices reuse a key.
-/

import EipScanner.Placement

namespace EipScanner

/-! ### Flags -/

/-- Closing a flag opens none, and only that one is closed. -/
theorem open_set_iff {flags : List Bool} {closed handle : Nat} :
    (flags.set closed false)[handle]? = some true ↔
      handle ≠ closed ∧ flags[handle]? = some true := by
  rw [List.getElem?_set]
  by_cases same : closed = handle
  · rw [if_pos same]
    constructor
    · intro isOpen
      split at isOpen
      · exact absurd (Option.some.inj isOpen) Bool.false_ne_true
      · exact absurd isOpen nofun
    · rintro ⟨differs, -⟩
      exact absurd same.symm differs
  · rw [if_neg same]
    exact ⟨fun isOpen => ⟨Ne.symm same, isOpen⟩, fun both => both.2⟩

/-- A new flag is open, and changes no other. -/
theorem open_append_iff {flags : List Bool} {handle : Nat} :
    (flags ++ [true])[handle]? = some true ↔
      handle = flags.length ∨ flags[handle]? = some true := by
  rw [getElem?_concat]
  split
  next last => exact ⟨fun _ => Or.inl last, fun _ => rfl⟩
  next notLast => exact ⟨Or.inr, fun either => either.resolve_left notLast⟩

namespace IoSystem

section
variable (system : IoSystem)

def IsOpen (handle : Nat) : Prop := system.flags[handle]? = some true

/-- The owner of the handle has closed the flag, and its Remove is still to be queued or to be
drained. -/
def RemoveToCome (handle : Nat) : Prop :=
  system.RemoveQueued handle ∨ system.stageOf handle = some .closing

/-- A handle on its way out: the flag was closed by its owner. -/
def Leaving (handle : Nat) : Prop :=
  system.RemoveToCome handle ∨ system.stageOf handle = some .removing

end

/-- Closing a flag takes it out of the count. -/
theorem countAfterClose_eq {system : IoSystem}
    (counted : system.openCount = system.flags.count true) (flag : Nat) :
    system.countAfterClose flag = (system.flags.set flag false).count true := by
  unfold countAfterClose
  by_cases isOpen : system.flags[flag]? = some true
  · obtain ⟨inside, value⟩ := List.getElem?_eq_some_iff.mp isOpen
    have positive : 0 < system.flags.count true :=
      List.count_pos_iff.mpr (value ▸ List.getElem_mem inside)
    rw [if_pos isOpen, fetchSub, counted, if_neg positive.ne', List.count_set inside, value]
    rfl
  · have unchanged := congrArg (fun closed => closed.1.flags) (closeFlag_of_closed isOpen)
    rw [if_neg isOpen, counted]
    exact congrArg (List.count true) unchanged.symm

/-! ### The account -/

structure Accounted (system : IoSystem) : Prop where
  counted : system.openCount = system.flags.count true
  leaving : ∀ handle, system.Leaving handle → ¬ system.IsOpen handle
  won : ∀ flag, system.Placed flag → ¬ system.IsOpen flag → .won flag ∈ system.log
  remaining : system.connected = true → ∀ flag, system.Placed flag →
    ¬ system.IsOpen flag → system.RemoveToCome flag

/-- The only handle that leaves through a command in the queue is the sender of a Remove. -/
theorem removeQueued_concat {system : IoSystem} {queued : Queued} {handle : Nat}
    (found : RemoveQueued { system with queue := system.queue ++ [queued] } handle) :
    system.RemoveQueued handle ∨ ∃ key, queued = ⟨some handle, .remove key⟩ := by
  obtain ⟨key, member⟩ := found
  rcases List.mem_append.mp member with earlier | last
  · exact Or.inl ⟨key, earlier⟩
  · exact Or.inr ⟨key, (List.mem_singleton.mp last).symm⟩

theorem placed_concat {system : IoSystem} {queued : Queued} {flag : Nat}
    (found : Placed { system with queue := system.queue ++ [queued] } flag) :
    system.Placed flag ∨ queued.command.adds = some flag := by
  rcases found with ⟨other, member, adds⟩ | mapped
  · rcases List.mem_append.mp member with earlier | last
    · exact Or.inl (Or.inl ⟨other, earlier, adds⟩)
    · exact Or.inr (List.mem_singleton.mp last ▸ adds)
  · exact Or.inl (Or.inr mapped)

/-- A new handle has a stage of its own, and leaves the others theirs. -/
theorem stageOf_concat {system : IoSystem} {owner : Handle} {handle : Nat} {stage : Stage}
    (differs : owner.stage ≠ stage)
    (found : (system.handles ++ [owner])[handle]?.map Handle.stage = some stage) :
    system.stageOf handle = some stage := by
  rw [getElem?_concat] at found
  split at found
  · exact absurd (Option.some.inj found) differs
  · exact found

theorem lt_of_stageOf {system : IoSystem} {handle : Nat} {stage : Stage}
    (atStage : system.stageOf handle = some stage) : handle < system.handles.length := by
  obtain ⟨owner, found, -⟩ := Option.map_eq_some_iff.mp atStage
  exact (List.getElem?_eq_some_iff.mp found).1

theorem WellFormed.leaving_lt {system : IoSystem} (wellFormed : WellFormed system) {handle : Nat}
    (leaving : system.Leaving handle) : handle < system.flags.length := by
  rcases leaving with (⟨key, member⟩ | closing) | removing
  · exact wellFormed.sender_lt member rfl
  · exact wellFormed.length ▸ lt_of_stageOf closing
  · exact wellFormed.length ▸ lt_of_stageOf removing

namespace Accounted
variable {system : IoSystem}

/-- Commands and entries may move and go. What comes new into the queue is an Add of an open
connection, and a Remove stays for as long as its connection has a place. -/
theorem relocate (accounted : Accounted system) {queue : List Queued} {worker : Worker}
    {log : List LogEntry}
    (removes : ∀ handle, RemoveQueued { system with queue, worker, log } handle →
      system.RemoveQueued handle)
    (placed : ∀ flag, Placed { system with queue, worker, log } flag →
      system.Placed flag ∨ system.IsOpen flag)
    (keeps : ∀ flag, Placed { system with queue, worker, log } flag → system.RemoveQueued flag →
      RemoveQueued { system with queue, worker, log } flag)
    (logged : ∀ entry ∈ system.log, entry ∈ log) :
    Accounted { system with queue, worker, log } where
  counted := accounted.counted
  leaving := by
    rintro handle ((queued | closing) | removing)
    · exact accounted.leaving handle (Or.inl (Or.inl (removes handle queued)))
    · exact accounted.leaving handle (Or.inl (Or.inr closing))
    · exact accounted.leaving handle (Or.inr removing)
  won := by
    intro flag here closed
    exact logged _ (accounted.won flag ((placed flag here).resolve_right closed) closed)
  remaining := by
    intro connected flag here closed
    rcases accounted.remaining connected flag ((placed flag here).resolve_right closed) closed with
      queued | closing
    · exact Or.inl (keeps flag here queued)
    · exact Or.inr closing

/-- The worker may close the flag of a connection that has no place. -/
theorem close (accounted : Accounted system) {flag : Nat} (unplaced : ¬ system.Placed flag) :
    Accounted { system with
      flags := system.flags.set flag false, openCount := system.countAfterClose flag } where
  counted := countAfterClose_eq accounted.counted flag
  leaving handle left isOpen := accounted.leaving handle left (open_set_iff.mp isOpen).2
  won := by
    intro other here closed
    have differs : other ≠ flag := fun same => unplaced (same ▸ here)
    exact accounted.won other here fun isOpen => closed (open_set_iff.mpr ⟨differs, isOpen⟩)
  remaining := by
    intro connected other here closed
    have differs : other ≠ flag := fun same => unplaced (same ▸ here)
    exact accounted.remaining connected other here fun isOpen =>
      closed (open_set_iff.mpr ⟨differs, isOpen⟩)

/-- A handle may be given up that does not owe a Remove to the queue. -/
theorem leave (accounted : Accounted system) {handle : Nat}
    (owesNothing : system.connected = true → system.stageOf handle ≠ some .closing) :
    Accounted (system.setStage handle .gone) where
  counted := accounted.counted
  leaving := by
    have staged : ∀ other stage, stage ≠ .gone →
        (system.setStage handle .gone).stageOf other = some stage →
          system.stageOf other = some stage := by
      intro other stage notGone found
      rw [stageOf_setStage] at found
      split at found
      · obtain ⟨-, -, gone⟩ := Option.map_eq_some_iff.mp found
        exact absurd gone.symm notGone
      · exact found
    rintro other ((queued | closing) | removing)
    · exact accounted.leaving other (Or.inl (Or.inl queued))
    · exact accounted.leaving other (Or.inl (Or.inr (staged other _ nofun closing)))
    · exact accounted.leaving other (Or.inr (staged other _ nofun removing))
  won := accounted.won
  remaining := by
    intro connected other here closed
    rcases accounted.remaining connected other here closed with queued | closing
    · exact Or.inl queued
    · refine Or.inr ?_
      rw [stageOf_setStage, if_neg]
      · exact closing
      · rintro rfl
        exact owesNothing connected closing

/-- There may be a new open flag with its handle. -/
theorem extend (accounted : Accounted system) (wellFormed : WellFormed system) (owner : Handle)
    (notClosing : owner.stage ≠ .closing) (notRemoving : owner.stage ≠ .removing) :
    Accounted { system with
      flags := system.flags ++ [true]
      openCount := system.openCount + 1
      handles := system.handles ++ [owner] } where
  counted := by
    rw [List.count_append, ← accounted.counted]
    rfl
  leaving := by
    intro handle left isOpen
    have before : system.Leaving handle := by
      rcases left with (queued | closing) | removing
      · exact Or.inl (Or.inl queued)
      · exact Or.inl (Or.inr (stageOf_concat notClosing closing))
      · exact Or.inr (stageOf_concat notRemoving removing)
    rcases open_append_iff.mp isOpen with last | earlier
    · exact absurd last (wellFormed.leaving_lt before).ne
    · exact accounted.leaving handle before earlier
  won flag here closed :=
    accounted.won flag here fun isOpen => closed (open_append_iff.mpr (Or.inr isOpen))
  remaining := by
    intro connected flag here closed
    rcases accounted.remaining connected flag here fun isOpen =>
      closed (open_append_iff.mpr (Or.inr isOpen)) with queued | closing
    · exact Or.inl queued
    · refine Or.inr ?_
      show (system.handles ++ [owner])[flag]?.map Handle.stage = some .closing
      rwa [List.getElem?_append_left (lt_of_stageOf closing)]

/-- A command may be queued that removes nothing, and adds only what is open. -/
theorem enqueue (accounted : Accounted system) {queued : Queued}
    (notRemove : ∀ key, queued.command ≠ .remove key)
    (adds : ∀ flag, queued.command.adds = some flag → system.IsOpen flag) :
    Accounted { system with queue := system.queue ++ [queued] } := by
  refine accounted.relocate ?_ ?_ ?_ fun _ => id
  · intro handle found
    refine (removeQueued_concat found).resolve_right ?_
    rintro ⟨key, rfl⟩
    exact notRemove key rfl
  · exact fun flag here => (@placed_concat system _ _ here).imp_right (adds flag)
  · rintro flag - ⟨key, member⟩
    exact ⟨key, List.mem_append_left _ member⟩

/-- A command may be taken from the queue. If it is a Remove, its connection has no place left. -/
theorem dequeue (accounted : Accounted system) {taken : Queued} {later : List Queued}
    (queued : system.queue = taken :: later) {worker : Worker} {log : List LogEntry}
    (placed : ∀ flag, Placed { system with queue := later, worker, log } flag →
      system.Placed flag)
    (removes : ∀ handle key, taken = ⟨some handle, .remove key⟩ →
      ¬ Placed { system with queue := later, worker, log } handle)
    (logged : ∀ entry ∈ system.log, entry ∈ log) :
    Accounted { system with queue := later, worker, log } := by
  refine accounted.relocate ?_ (fun flag here => Or.inl (placed flag here)) ?_ logged
  · rintro handle ⟨key, member⟩
    exact ⟨key, queued ▸ List.mem_cons_of_mem taken member⟩
  · rintro flag here ⟨key, member⟩
    rw [queued] at member
    rcases List.mem_cons.mp member with first | rest
    · exact absurd here (removes flag key first.symm)
    · exact ⟨key, rest⟩

/-- The owner of a handle may close its flag. -/
theorem win (accounted : Accounted system) {handle : Nat} {owner : Handle}
    (found : system.handles[handle]? = some owner) (isOpen : system.IsOpen handle) :
    Accounted ((setStage { system with
      flags := system.flags.set handle false
      openCount := fetchSub system.openCount } handle .closing).record (.won handle)) := by
  have staged : ∀ other, other ≠ handle →
      (system.setStage handle .closing).stageOf other = system.stageOf other := by
    intro other differs
    rw [stageOf_setStage, if_neg differs.symm]
  have counted := countAfterClose_eq accounted.counted handle
  rw [countAfterClose, if_pos (show system.flags[handle]? = some true from isOpen)] at counted
  refine ⟨counted, ?_, ?_, ?_⟩
  · intro other left stillOpen
    obtain ⟨differs, wasOpen⟩ := open_set_iff.mp stillOpen
    refine accounted.leaving other ?_ wasOpen
    rcases left with (queued | closing) | removing
    · exact Or.inl (Or.inl queued)
    · exact Or.inl (Or.inr ((staged other differs).symm.trans closing))
    · exact Or.inr ((staged other differs).symm.trans removing)
  · intro flag here closed
    by_cases same : flag = handle
    · exact same ▸ List.mem_append_right _ (List.mem_singleton_self _)
    · exact List.mem_append_left _ (accounted.won flag here fun wasOpen =>
        closed (open_set_iff.mpr ⟨same, wasOpen⟩))
  · intro connected flag here closed
    by_cases same : flag = handle
    · refine Or.inr ?_
      show (system.setStage handle .closing).stageOf flag = some .closing
      rw [stageOf_setStage, if_pos same.symm, same, stageOf_of_found found, Option.map_some]
    · rcases accounted.remaining connected flag here fun wasOpen =>
        closed (open_set_iff.mpr ⟨same, wasOpen⟩) with queued | closing
      · exact Or.inl queued
      · exact Or.inr ((staged flag same).trans closing)

/-- The owner of a handle may queue its Remove after it has closed the flag. -/
theorem queueRemove (accounted : Accounted system) {handle : Nat} (key : ConnectionKey)
    (atClosing : system.stageOf handle = some .closing) :
    Accounted (setStage
      { system with queue := system.queue ++ [⟨some handle, .remove key⟩] } handle .removing) := by
  have staged : ∀ other, other ≠ handle →
      (system.setStage handle .removing).stageOf other = system.stageOf other := by
    intro other differs
    rw [stageOf_setStage, if_neg differs.symm]
  have placed : ∀ flag, Placed { system with
      queue := system.queue ++ [⟨some handle, .remove key⟩] } flag → system.Placed flag :=
    fun flag here => (@placed_concat system _ _ here).resolve_right nofun
  refine ⟨accounted.counted, ?_, fun flag here => accounted.won flag (placed flag here), ?_⟩
  · intro other left
    refine accounted.leaving other ?_
    by_cases same : other = handle
    · exact Or.inl (Or.inr (same ▸ atClosing))
    · rcases left with (queued | closing) | removing
      · refine Or.inl (Or.inl ((@removeQueued_concat system _ _ queued).resolve_right ?_))
        rintro ⟨removed, last⟩
        exact same (Option.some.inj (congrArg Queued.sender last)).symm
      · exact Or.inl (Or.inr ((staged other same).symm.trans closing))
      · exact Or.inr ((staged other same).symm.trans removing)
  · intro connected flag here closed
    rcases accounted.remaining connected flag (placed flag here) closed with
      ⟨removed, member⟩ | closing
    · exact Or.inl ⟨removed, List.mem_append_left _ member⟩
    · by_cases same : flag = handle
      · exact same ▸ Or.inl ⟨key, List.mem_append_right _ (List.mem_singleton_self _)⟩
      · exact Or.inr ((staged flag same).trans closing)

end Accounted

/-- A connection keeps its place or loses it; none that was there before gets one. -/
theorem placed_of_transition {system after : IoSystem} {event : IoEvent}
    (transition : Transition system event after) {flag : Nat} (old : flag < system.flags.length)
    (here : after.Placed flag) : system.Placed flag := by
  have tail : ∀ {taken later}, system.queue = taken :: later →
      (∃ queued ∈ later, queued.command.adds = some flag) → system.Pending flag := by
    rintro taken later queued ⟨other, member, adds⟩
    exact ⟨other, queued ▸ List.mem_cons_of_mem taken member, adds⟩
  cases transition with
  | idle | openedLost | letGo | won | lost | removeLost | closeSent | dropped => exact here
  | opened connected completed =>
    refine (@placed_concat system _ _ here).resolve_right fun adds => ?_
    exact absurd (Option.some.inj adds) old.ne'
  | called connected found held touches =>
    refine (@placed_concat system _ _ here).resolve_right fun adds => ?_
    exact absurd ((Command.adds_of_touches touches).symm.trans adds) nofun
  | shutdown => exact (@placed_concat system _ _ here).resolve_right nofun
  | removeQueued => exact (@placed_concat system _ _ here).resolve_right nofun
  | drainedAdd running queued vacant =>
    rcases here with pending | ⟨key, taken⟩
    · exact Or.inl (tail queued pending)
    · rw [Worker.occupant_insert] at taken
      split at taken
      · exact Or.inl ⟨⟨_, .add _ _ _⟩, queued ▸ List.mem_cons_self, taken⟩
      · exact Or.inr ⟨key, taken⟩
  | drainedAddTaken running queued taken => exact here.imp_left (tail queued)
  | drainedRemove running queued =>
    exact here.imp (tail queued) fun ⟨key, taken⟩ => ⟨key, Worker.occupant_of_erase taken⟩
  | drainedTouch running queued touches same =>
    refine here.imp (tail queued) fun ⟨key, taken⟩ => ⟨key, ?_⟩
    rwa [Worker.occupant_update _ _ _ same] at taken
  | drainedShutdown running queued => exact here.imp_left (tail queued)
  | quiet running quiet =>
    exact here.imp_right fun ⟨key, taken⟩ => ⟨key, (quiet.occupant key).symm.trans taken⟩
  | expired running found late =>
    exact here.imp_right fun ⟨key, taken⟩ => ⟨key, Worker.occupant_of_erase taken⟩

/-- A Remove that is carried out leaves no place for the connection of its sender. -/
theorem WellFormed.not_placed_of_remove {system : IoSystem} (wellFormed : WellFormed system)
    {handle : Nat} {key : ConnectionKey} {later : List Queued} {log : List LogEntry}
    (queued : system.queue = ⟨some handle, .remove key⟩ :: later) :
    ¬ Placed { system with
      queue := later
      worker := { system.worker with connections := system.worker.connections.erase key }
      log } handle := by
  obtain ⟨place, toPlace, known⟩ :=
    wellFormed.keyOf_sender (queued ▸ List.mem_cons_self) rfl
  obtain rfl := Option.some.inj toPlace
  rintro (⟨other, member, adds⟩ | ⟨other, taken⟩)
  · exact wellFormed.not_adds_behind queued rfl member adds
  · exact wellFormed.occupant_erase_ne known other taken

theorem accounted_of_transition {system after : IoSystem} {event : IoEvent}
    (wellFormed : WellFormed system) (accounted : Accounted system)
    (transition : Transition system event after) : Accounted after := by
  have placed : after.flags.length = system.flags.length →
      ∀ flag, after.Placed flag → system.Placed flag := by
    intro sameLength flag here
    have known := (wellFormed_of_transition wellFormed transition).placed_lt here
    exact placed_of_transition transition (sameLength ▸ known) here
  cases transition with
  | idle => exact accounted
  | @opened config response peerIp callbacks now opened connected completed =>
    refine (accounted.extend wellFormed ⟨opened.ioConfig.key, opened.closeRequest, .held⟩
      nofun nofun).enqueue nofun fun flag adds => ?_
    exact open_append_iff.mpr (Or.inl (Option.some.inj adds).symm)
  | openedLost => exact accounted.extend wellFormed _ nofun nofun
  | called connected found held touches =>
    refine accounted.enqueue ?_ ?_
    · rintro key rfl
      exact touches.elim
    · intro flag adds
      exact absurd ((Command.adds_of_touches touches).symm.trans adds) nofun
  | shutdown => exact accounted.enqueue nofun nofun
  | won found held isOpen => exact accounted.win found isOpen
  | lost found held =>
    refine accounted.leave fun _ => ?_
    rw [stageOf_of_found found, held]
    exact nofun
  | removeQueued connected found closing =>
    exact accounted.queueRemove _ ((stageOf_of_found found).trans (congrArg some closing))
  | removeLost lost found =>
    exact accounted.leave fun connected => absurd (lost.symm.trans connected) Bool.false_ne_true
  | closeSent found removing =>
    refine (accounted.leave fun _ => ?_).relocate (fun _ => id) (fun _ => Or.inl)
      (fun _ _ => id) fun entry => List.mem_append_left _
    rw [stageOf_of_found found, removing]
    exact nofun
  | dropped found held =>
    refine accounted.leave fun _ => ?_
    rw [stageOf_of_found found, held]
    exact nofun
  | letGo =>
    exact ⟨accounted.counted, accounted.leaving, accounted.won, nofun⟩
  | drainedAdd running queued vacant =>
    exact accounted.dequeue queued (placed rfl) nofun fun _ => id
  | @drainedAddTaken sender conn callbacks flag later entry running queued taken =>
    have moved : Accounted { system with
        queue := later
        log := system.log ++ [.effect ⟨conn.cfg.key, flag, .closeFlag⟩] } :=
      accounted.dequeue queued (placed List.length_set) nofun fun _ => List.mem_append_left _
    have first := queued ▸ List.mem_cons_self
    have sent := wellFormed.added _ first flag rfl
    refine moved.close ?_
    rintro (⟨other, member, adds⟩ | mapped)
    · exact wellFormed.not_adds_behind queued sent member adds
    · exact wellFormed.not_mapped_of_pending ⟨_, first, rfl⟩ mapped
  | @drainedRemove sender key later running queued =>
    refine accounted.dequeue queued (placed rfl) ?_ fun _ => List.mem_append_left _
    intro handle removed same
    obtain ⟨rfl, rfl⟩ : sender = some handle ∧ key = removed := by simpa using same
    exact wellFormed.not_placed_of_remove queued
  | drainedTouch running queued touches same =>
    refine accounted.dequeue queued (placed rfl) ?_ fun _ => id
    intro handle key isRemove
    obtain rfl := congrArg Queued.command isRemove
    exact touches.elim
  | drainedShutdown running queued =>
    exact accounted.dequeue queued (placed rfl) nofun fun _ => id
  | quiet running quiet =>
    exact accounted.relocate (fun _ => id) (fun flag here => Or.inl (placed rfl flag here))
      (fun _ _ => id) fun entry => List.mem_append_left _
  | @expired key now entry running found late =>
    have taken := Worker.occupant_eq_some found
    have moved : Accounted { system with
        worker := { system.worker with connections := system.worker.connections.erase key }
        log := system.log ++ (entry.expired.map (Effect.mk key entry.flag)).map .effect } :=
      accounted.relocate (fun _ => id)
        (fun flag here => Or.inl (placed List.length_set flag here))
        (fun _ _ => id) fun _ => List.mem_append_left _
    refine moved.close ?_
    rintro (pending | ⟨other, taken'⟩)
    · exact wellFormed.not_mapped_of_pending pending ⟨key, taken⟩
    · exact wellFormed.occupant_erase_ne (wellFormed.keyed key _ taken) other taken'

theorem accounted_new : Accounted IoSystem.new where
  counted := rfl
  leaving := by
    rintro handle ((⟨key, member⟩ | closing) | removing)
    · exact absurd member List.not_mem_nil
    · exact absurd closing nofun
    · exact absurd removing nofun
  won := by
    rintro flag (⟨queued, member, -⟩ | ⟨key, taken⟩)
    · exact absurd member List.not_mem_nil
    · exact absurd taken nofun
  remaining := by
    rintro - flag (⟨queued, member, -⟩ | ⟨key, taken⟩)
    · exact absurd member List.not_mem_nil
    · exact absurd taken nofun

end IoSystem

end EipScanner
