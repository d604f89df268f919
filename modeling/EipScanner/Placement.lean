/-
This file proves where things are in every run: a command is addressed to the key of
the handle it was sent through, an entry is under the key of its handle, and the queue
is in order, so that what is in front of an Add was sent through older handles. A
connection therefore is in the queue or in the map of the worker, never in both, and
once it has left it does not come back.

This holds whatever keys the devices hand out, and whether or not the worker is shut
down.
-/

import EipScanner.Transition

namespace EipScanner

/-- The flag of the connection that a command adds. -/
def Command.adds : Command → Option Nat
  | .add _ _ flag => some flag
  | _ => none

theorem Command.adds_of_touches {key : ConnectionKey} {command : Command}
    (touches : command.Touches key) : command.adds = none := by
  cases command with
  | add conn callbacks flag => exact touches.elim
  | _ => rfl

theorem Command.key_of_touches {key : ConnectionKey} {command : Command}
    (touches : command.Touches key) : command.key = some key := by
  cases command with
  | setOutput other data => exact congrArg some touches
  | setRun other run => exact congrArg some touches
  | add conn callbacks flag => exact touches.elim
  | remove other => exact touches.elim
  | shutdown => exact touches.elim

namespace IoSystem

section
variable (system : IoSystem)

def keyOf (handle : Nat) : Option ConnectionKey := system.handles[handle]?.map Handle.key

def stageOf (handle : Nat) : Option Stage := system.handles[handle]?.map Handle.stage

/-- The connection of a flag is on its way to the worker. -/
def Pending (flag : Nat) : Prop := ∃ queued ∈ system.queue, queued.command.adds = some flag

/-- The connection of a flag is in the map of the worker. -/
def Mapped (flag : Nat) : Prop := ∃ key, system.worker.occupant key = some flag

def Placed (flag : Nat) : Prop := system.Pending flag ∨ system.Mapped flag

/-- The removal of a handle's connection is in the queue. -/
def RemoveQueued (handle : Nat) : Prop := ∃ key, ⟨some handle, .remove key⟩ ∈ system.queue

theorem keyOf_setStage (changed : Nat) (stage : Stage) (handle : Nat) :
    (system.setStage changed stage).keyOf handle = system.keyOf handle := by
  rw [keyOf, keyOf, setStage, List.getElem?_modify]
  cases system.handles[handle]? with
  | none => rfl
  | some owner =>
    show some (if changed = handle then { owner with stage } else owner).key = some owner.key
    split <;> rfl

theorem stageOf_setStage (changed : Nat) (stage : Stage) (handle : Nat) :
    (system.setStage changed stage).stageOf handle =
      if changed = handle then (system.stageOf handle).map fun _ => stage
      else system.stageOf handle := by
  rw [stageOf, stageOf, setStage, List.getElem?_modify]
  cases system.handles[handle]? with
  | none =>
    show none = if changed = handle then none else none
    rw [ite_self]
  | some owner =>
    show some (if changed = handle then { owner with stage } else owner).stage = _
    split <;> rfl

end

theorem keyOf_of_found {system : IoSystem} {handle : Nat} {owner : Handle}
    (found : system.handles[handle]? = some owner) : system.keyOf handle = some owner.key := by
  rw [keyOf, found, Option.map_some]

theorem stageOf_of_found {system : IoSystem} {handle : Nat} {owner : Handle}
    (found : system.handles[handle]? = some owner) : system.stageOf handle = some owner.stage := by
  rw [stageOf, found, Option.map_some]

theorem lt_of_keyOf {system : IoSystem} {handle : Nat} {key : ConnectionKey}
    (known : system.keyOf handle = some key) : handle < system.handles.length := by
  obtain ⟨owner, found, -⟩ := Option.map_eq_some_iff.mp known
  exact (List.getElem?_eq_some_iff.mp found).1

/-! ### Where things are -/

/-- A command is addressed to the key of the handle it was sent through. Only a shutdown comes
from no handle. -/
def Addressed (system : IoSystem) (queued : Queued) : Prop :=
  match queued.sender with
  | none => queued.command.key = none
  | some handle => ∃ key, queued.command.key = some key ∧ system.keyOf handle = some key

structure WellFormed (system : IoSystem) : Prop where
  length : system.handles.length = system.flags.length
  addressed : ∀ queued ∈ system.queue, system.Addressed queued
  added : ∀ queued ∈ system.queue, ∀ flag, queued.command.adds = some flag →
    queued.sender = some flag
  keyed : ∀ key flag, system.worker.occupant key = some flag → system.keyOf flag = some key
  ordered : system.queue.Pairwise fun earlier later =>
    ∀ handle flag, earlier.sender = some handle → later.command.adds = some flag → handle < flag
  older : ∀ flag, system.Mapped flag → ∀ added, system.Pending added → flag < added

theorem Addressed.mono {system after : IoSystem} {queued : Queued}
    (addressed : system.Addressed queued)
    (keys : ∀ handle key, system.keyOf handle = some key → after.keyOf handle = some key) :
    after.Addressed queued := by
  unfold Addressed at *
  cases sent : queued.sender with
  | none => rwa [sent] at addressed
  | some handle =>
    rw [sent] at addressed
    obtain ⟨key, toKey, known⟩ := addressed
    exact ⟨key, toKey, keys handle key known⟩

namespace WellFormed
variable {system after : IoSystem}

theorem keyOf_sender (wellFormed : WellFormed system) {queued : Queued} {handle : Nat}
    (member : queued ∈ system.queue) (sent : queued.sender = some handle) :
    ∃ key, queued.command.key = some key ∧ system.keyOf handle = some key := by
  have addressed := wellFormed.addressed queued member
  rwa [Addressed, sent] at addressed

theorem key_of_no_sender (wellFormed : WellFormed system) {queued : Queued}
    (member : queued ∈ system.queue) (sent : queued.sender = none) :
    queued.command.key = none := by
  have addressed := wellFormed.addressed queued member
  rwa [Addressed, sent] at addressed

/-- Every handle that a command was sent through is known. -/
theorem sender_lt (wellFormed : WellFormed system) {queued : Queued} {handle : Nat}
    (member : queued ∈ system.queue) (sent : queued.sender = some handle) :
    handle < system.flags.length := by
  obtain ⟨key, -, known⟩ := wellFormed.keyOf_sender member sent
  exact wellFormed.length ▸ lt_of_keyOf known

theorem mapped_lt (wellFormed : WellFormed system) {flag : Nat} (mapped : system.Mapped flag) :
    flag < system.flags.length := by
  obtain ⟨key, taken⟩ := mapped
  exact wellFormed.length ▸ lt_of_keyOf (wellFormed.keyed key flag taken)

theorem pending_lt (wellFormed : WellFormed system) {flag : Nat} (pending : system.Pending flag) :
    flag < system.flags.length := by
  obtain ⟨queued, member, adds⟩ := pending
  exact wellFormed.sender_lt member (wellFormed.added queued member flag adds)

theorem placed_lt (wellFormed : WellFormed system) {flag : Nat} (here : system.Placed flag) :
    flag < system.flags.length :=
  here.elim wellFormed.pending_lt wellFormed.mapped_lt

/-- Commands and entries may go, and handles may come or change their stage. -/
theorem mono (wellFormed : WellFormed system)
    (length : after.handles.length = after.flags.length)
    (keys : ∀ handle key, system.keyOf handle = some key → after.keyOf handle = some key)
    (queue : after.queue.Sublist system.queue)
    (entries : ∀ key flag, after.worker.occupant key = some flag →
      system.worker.occupant key = some flag) : WellFormed after where
  length
  addressed queued member := (wellFormed.addressed queued (queue.subset member)).mono keys
  added queued member := wellFormed.added queued (queue.subset member)
  keyed key flag taken := keys flag key (wellFormed.keyed key flag (entries key flag taken))
  ordered := wellFormed.ordered.sublist queue
  older := by
    rintro flag ⟨key, taken⟩ added ⟨queued, member, adds⟩
    exact wellFormed.older flag ⟨key, entries key flag taken⟩ added
      ⟨queued, queue.subset member, adds⟩

/-- A command may be queued through the right handle. If it adds a connection, this is that of
the handle, and no older connection has a greater flag. -/
theorem enqueue (wellFormed : WellFormed system) {queued : Queued}
    (addressed : system.Addressed queued)
    (adding : ∀ flag, queued.command.adds = some flag → queued.sender = some flag ∧
      (∀ earlier ∈ system.queue, ∀ handle, earlier.sender = some handle → handle < flag) ∧
      ∀ other, system.Mapped other → other < flag) :
    WellFormed { system with queue := system.queue ++ [queued] } where
  length := wellFormed.length
  addressed := by
    intro other member
    rcases List.mem_append.mp member with earlier | last
    · exact wellFormed.addressed other earlier
    · obtain rfl := List.mem_singleton.mp last
      exact addressed
  added := by
    intro other member flag adds
    rcases List.mem_append.mp member with earlier | last
    · exact wellFormed.added other earlier flag adds
    · obtain rfl := List.mem_singleton.mp last
      exact (adding flag adds).1
  keyed := wellFormed.keyed
  ordered := by
    refine List.pairwise_append.mpr ⟨wellFormed.ordered, List.pairwise_singleton _ _, ?_⟩
    intro earlier member later last handle flag sent adds
    obtain rfl := List.mem_singleton.mp last
    exact (adding flag adds).2.1 earlier member handle sent
  older := by
    rintro flag mapped added ⟨other, member, adds⟩
    rcases List.mem_append.mp member with earlier | last
    · exact wellFormed.older flag mapped added ⟨other, earlier, adds⟩
    · obtain rfl := List.mem_singleton.mp last
      exact (adding added adds).2.2 flag mapped

/-- There may be a new flag and a new handle. -/
theorem extend (wellFormed : WellFormed system) (handle : Handle) (openCount : Nat) :
    WellFormed { system with
      flags := system.flags ++ [true], openCount, handles := system.handles ++ [handle] } := by
  refine wellFormed.mono ?_ ?_ (List.Sublist.refl _) fun _ _ => id
  · simp only [List.length_append, wellFormed.length, List.length_singleton]
  · intro older key known
    unfold keyOf at known ⊢
    rwa [List.getElem?_append_left (lt_of_keyOf known)]

/-- The first command may be taken from the queue, and an Add may become an entry. -/
theorem insert (wellFormed : WellFormed system) {taken : Queued} {later : List Queued}
    (queued : system.queue = taken :: later) {flag : Nat} {key : ConnectionKey}
    (adds : taken.command.adds = some flag) (toKey : taken.command.key = some key)
    {worker : Worker}
    (entries : ∀ other, worker.occupant other =
      if other = key then some flag else system.worker.occupant other) :
    WellFormed { system with queue := later, worker } := by
  have first : taken ∈ system.queue := queued ▸ List.mem_cons_self
  have rest : ∀ other ∈ later, other ∈ system.queue := fun other member =>
    queued ▸ List.mem_cons_of_mem taken member
  have sent := wellFormed.added taken first flag adds
  have ordered := wellFormed.ordered
  rw [queued, List.pairwise_cons] at ordered
  refine ⟨wellFormed.length, fun other member => wellFormed.addressed other (rest other member),
    fun other member => wellFormed.added other (rest other member), ?_, ordered.2, ?_⟩
  · intro other occupying found
    rw [entries] at found
    split at found
    next same =>
      obtain rfl := Option.some.inj found
      obtain ⟨place, toPlace, known⟩ := wellFormed.keyOf_sender first sent
      obtain rfl := Option.some.inj (toKey.symm.trans toPlace)
      exact same ▸ known
    next => exact wellFormed.keyed other occupying found
  · rintro occupying ⟨other, found⟩ added ⟨another, member, addsLater⟩
    rw [entries] at found
    split at found
    next =>
      obtain rfl := Option.some.inj found
      exact ordered.1 another member flag added sent addsLater
    next =>
      exact wellFormed.older occupying ⟨other, found⟩ added
        ⟨another, rest another member, addsLater⟩

end WellFormed

theorem wellFormed_of_transition {system after : IoSystem} {event : IoEvent}
    (wellFormed : WellFormed system) (transition : Transition system event after) :
    WellFormed after := by
  have restaged : ∀ changed stage, WellFormed (system.setStage changed stage) := by
    intro changed stage
    refine wellFormed.mono ?_ ?_ (List.Sublist.refl _) fun _ _ => id
    · exact (List.length_modify _ _ _).trans wellFormed.length
    · intro handle key known
      rwa [keyOf_setStage]
  cases transition with
  | idle => exact wellFormed
  | @opened config response peerIp callbacks now opened running completed =>
    refine (wellFormed.extend ⟨opened.ioConfig.key, opened.closeRequest, .held⟩
      (system.openCount + 1)).enqueue ?_ ?_
    · refine ⟨opened.ioConfig.key, rfl, ?_⟩
      rw [keyOf, ← wellFormed.length, List.getElem?_concat_length, Option.map_some]
    · intro flag adds
      obtain rfl : system.flags.length = flag := Option.some.inj adds
      exact ⟨rfl, fun earlier member handle sent => wellFormed.sender_lt member sent,
        fun other mapped => wellFormed.mapped_lt mapped⟩
  | openedLost => exact wellFormed.extend _ _
  | called running found held touches =>
    refine wellFormed.enqueue ⟨_, Command.key_of_touches touches, keyOf_of_found found⟩ ?_
    intro flag adds
    exact absurd ((Command.adds_of_touches touches).symm.trans adds) nofun
  | shutdown => exact wellFormed.enqueue rfl nofun
  | @won handle =>
    refine (restaged handle .closing).mono ?_ (fun _ _ => id) (List.Sublist.refl _) fun _ _ => id
    exact (restaged handle .closing).length.trans List.length_set.symm
  | lost => exact restaged _ _
  | @removeQueued handle owner running found closing =>
    refine (restaged handle .removing).enqueue ⟨owner.key, rfl, ?_⟩ nofun
    rw [keyOf_setStage, keyOf_of_found found]
  | removeLost => exact restaged _ _
  | closeSent =>
    exact (restaged _ _).mono (restaged _ _).length (fun _ _ => id) (List.Sublist.refl _)
      fun _ _ => id
  | dropped => exact restaged _ _
  | letGo =>
    exact wellFormed.mono wellFormed.length (fun _ _ => id) (List.Sublist.refl _) fun _ _ => id
  | drainedAdd running queued vacant =>
    exact wellFormed.insert queued rfl rfl fun other => Worker.occupant_insert _ _ _ _ _ _
  | drainedAddTaken running queued taken =>
    exact wellFormed.mono (wellFormed.length.trans List.length_set.symm) (fun _ _ => id)
      (queued ▸ List.sublist_cons_self _ _) fun _ _ => id
  | drainedRemove running queued =>
    exact wellFormed.mono wellFormed.length (fun _ _ => id) (queued ▸ List.sublist_cons_self _ _)
      fun key flag => Worker.occupant_of_erase
  | drainedTouch running queued touches same =>
    refine wellFormed.mono wellFormed.length (fun _ _ => id) (queued ▸ List.sublist_cons_self _ _)
      fun key flag taken => ?_
    rwa [Worker.occupant_update _ _ _ same] at taken
  | drainedShutdown running queued =>
    exact wellFormed.mono wellFormed.length (fun _ _ => id) (queued ▸ List.sublist_cons_self _ _)
      fun _ _ => id
  | quiet running quiet =>
    exact wellFormed.mono wellFormed.length (fun _ _ => id) (List.Sublist.refl _)
      fun key flag taken => (quiet.occupant key).symm.trans taken
  | expired running found late =>
    exact wellFormed.mono (wellFormed.length.trans List.length_set.symm) (fun _ _ => id)
      (List.Sublist.refl _) fun key flag => Worker.occupant_of_erase

theorem wellFormed_new : WellFormed IoSystem.new where
  length := rfl
  addressed _ member := absurd member List.not_mem_nil
  added _ member := absurd member List.not_mem_nil
  keyed _ _ := nofun
  ordered := List.Pairwise.nil
  older := by
    rintro flag ⟨key, taken⟩
    exact absurd taken nofun

/-! ### What has left -/

namespace WellFormed
variable {system : IoSystem} (wellFormed : WellFormed system)
include wellFormed

/-- A connection that is on its way is not yet in the map. -/
theorem not_mapped_of_pending {flag : Nat} (pending : system.Pending flag) :
    ¬ system.Mapped flag :=
  fun mapped => Nat.lt_irrefl flag (wellFormed.older flag mapped flag pending)

/-- Behind a command that was sent through a handle there is no Add of its connection. -/
theorem not_adds_behind {taken : Queued} {later : List Queued}
    (queued : system.queue = taken :: later) {handle : Nat} (sent : taken.sender = some handle)
    {other : Queued} (member : other ∈ later) : other.command.adds ≠ some handle := by
  have ordered := wellFormed.ordered
  rw [queued, List.pairwise_cons] at ordered
  exact fun adds =>
    Nat.lt_irrefl handle (ordered.1 other member handle handle sent adds)

/-- Where the entry under a handle's key was removed, there is no entry of the handle. -/
theorem occupant_erase_ne {handle : Nat} {key : ConnectionKey}
    (known : system.keyOf handle = some key) (other : ConnectionKey) :
    Worker.occupant
        { system.worker with connections := system.worker.connections.erase key } other ≠
      some handle := by
  intro taken
  rw [Worker.occupant_erase] at taken
  split at taken
  · exact absurd taken nofun
  next differs =>
    have known' := wellFormed.keyed other handle taken
    exact differs (Option.some.inj (known'.symm.trans known))

end WellFormed

end IoSystem

end EipScanner
