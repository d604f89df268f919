/-
This file proves the registry invariant: how the open flags, their count, the queue and
the map of the worker fit together in every run in which the keys are all different and
the worker is not shut down.

Most of it is the account, which needs neither. The keys are needed for two things: no
Remove can hit the entry of another handle, and so an open connection keeps its place
for as long as the worker runs. What was removed stays silent, because effects come only
from connections that have a place.
-/

import EipScanner.Account

namespace EipScanner
namespace IoSystem

/-! ### The log -/

/-- A step adds effects only of connections that have a place, and the record of a removal only
when the connection has none left. -/
theorem log_of_transition {system after : IoSystem} {event : IoEvent}
    (wellFormed : WellFormed system) (transition : Transition system event after) :
    ∃ added, after.log = system.log ++ added ∧
      (∀ effect, .effect effect ∈ added → system.Placed effect.flag) ∧
      ∀ handle, .removed handle ∈ added → handle < system.flags.length ∧ ¬ after.Placed handle ∧
        ∀ effect, .effect effect ∉ added := by
  have ofEffects : ∀ effects : List Effect, (∀ effect ∈ effects, system.Mapped effect.flag) →
      (∀ effect, .effect effect ∈ effects.map LogEntry.effect → system.Placed effect.flag) ∧
        ∀ handle, .removed handle ∉ effects.map LogEntry.effect := by
    intro effects mapped
    refine ⟨fun effect member => ?_, fun handle member => ?_⟩
    · obtain ⟨other, inEffects, same⟩ := List.mem_map.mp member
      exact LogEntry.effect.inj same ▸ Or.inr (mapped other inEffects)
    · obtain ⟨other, -, differs⟩ := List.mem_map.mp member
      exact absurd differs nofun
  cases transition with
  | idle | opened | openedLost | called | shutdown | lost | removeQueued | removeLost | dropped
  | letGo | drainedAdd | drainedTouch | drainedShutdown =>
    exact ⟨[], (List.append_nil _).symm, nofun, nofun⟩
  | won =>
    exact ⟨_, rfl, fun effect member => absurd (List.mem_singleton.mp member) nofun,
      fun handle member => absurd (List.mem_singleton.mp member) nofun⟩
  | closeSent =>
    exact ⟨_, rfl, fun effect member => absurd (List.mem_singleton.mp member) nofun,
      fun handle member => absurd (List.mem_singleton.mp member) nofun⟩
  | drainedAddTaken running queued taken =>
    refine ⟨_, rfl, fun effect member => ?_,
      fun handle member => absurd (List.mem_singleton.mp member) nofun⟩
    obtain rfl := LogEntry.effect.inj (List.mem_singleton.mp member)
    exact Or.inl ⟨_, queued ▸ List.mem_cons_self, rfl⟩
  | @drainedRemove sender key later running queued =>
    cases sender with
    | none => exact ⟨_, rfl, nofun, nofun⟩
    | some sender =>
      refine ⟨_, rfl, fun effect member => absurd (List.mem_singleton.mp member) nofun,
        fun handle member => ?_⟩
      obtain rfl := LogEntry.removed.inj (List.mem_singleton.mp member)
      exact ⟨wellFormed.sender_lt (queued ▸ List.mem_cons_self) rfl,
        wellFormed.not_placed_of_remove queued,
        fun effect other => absurd (List.mem_singleton.mp other) nofun⟩
  | quiet running quiet =>
    obtain ⟨placed, notRemoved⟩ := ofEffects _ fun effect member =>
      ⟨effect.key, (quiet.effects effect member).2.2⟩
    exact ⟨_, rfl, placed, fun handle member => absurd member (notRemoved handle)⟩
  | @expired key now entry running found late =>
    have mapped : ∀ effect ∈ entry.expired.map (Effect.mk key entry.flag),
        system.Mapped effect.flag := by
      intro effect member
      obtain ⟨action, -, rfl⟩ := List.mem_map.mp member
      exact ⟨key, Worker.occupant_eq_some found⟩
    obtain ⟨placed, notRemoved⟩ := ofEffects _ mapped
    exact ⟨_, rfl, placed, fun handle member => absurd member (notRemoved handle)⟩

/-- Flags are never forgotten. -/
theorem flags_length_of_transition {system after : IoSystem} {event : IoEvent}
    (transition : Transition system event after) :
    system.flags.length ≤ after.flags.length := by
  cases transition with
  | opened | openedLost =>
    rw [List.length_append]
    exact Nat.le_add_right _ _
  | won | drainedAddTaken | expired => exact List.length_set.ge
  | _ => exact Nat.le_refl _

/-- A connection that was removed has no place and no effect any more. -/
structure Settled (system : IoSystem) : Prop where
  gone : ∀ handle, .removed handle ∈ system.log →
    handle < system.flags.length ∧ ¬ system.Placed handle
  silent : ∀ effect : Effect, ¬ [.removed effect.flag, .effect effect].Sublist system.log

theorem settled_of_transition {system after : IoSystem} {event : IoEvent}
    (wellFormed : WellFormed system) (settled : Settled system)
    (transition : Transition system event after) : Settled after := by
  obtain ⟨added, log, effects, removals⟩ := log_of_transition wellFormed transition
  refine ⟨fun handle recorded => ?_, fun effect inside => ?_⟩
  · have longer := flags_length_of_transition transition
    rcases List.mem_append.mp (log ▸ recorded) with before | now
    · obtain ⟨known, unplaced⟩ := settled.gone handle before
      exact ⟨known.trans_le longer, fun here =>
        unplaced (placed_of_transition transition known here)⟩
    · obtain ⟨known, unplaced, -⟩ := removals handle now
      exact ⟨known.trans_le longer, unplaced⟩
  · rw [log] at inside
    rcases pair_sublist_append.mp inside with before | ⟨removed, effected⟩ | now
    · exact settled.silent effect before
    · exact (settled.gone _ removed).2 (effects effect effected)
    · have members := now.subset
      exact (removals _ (members List.mem_cons_self)).2.2 effect
        (members (List.mem_cons_of_mem _ (List.mem_singleton_self _)))

theorem settled_new : Settled IoSystem.new where
  gone _ recorded := absurd recorded List.not_mem_nil
  silent _ inside := absurd (List.sublist_nil.mp inside) nofun

/-! ### Keys that are all different -/

/-- A forward open gets a key that no earlier handle has. -/
def FreshKey (system : IoSystem) : IoEvent → Prop
  | .opened config response peerIp _ _ =>
    ∀ opened, completeOpen config response peerIp = .ok opened →
      ∀ handle, system.keyOf handle ≠ some opened.ioConfig.key
  | _ => True

structure Separate (system : IoSystem) : Prop where
  distinct : ∀ first second key, system.keyOf first = some key → system.keyOf second = some key →
    first = second
  covered : system.connected = true → ∀ flag, system.IsOpen flag → system.Placed flag

theorem keyOf_concat {system : IoSystem} {owner : Handle} {handle : Nat} {key : ConnectionKey}
    (known : (system.handles ++ [owner])[handle]?.map Handle.key = some key) :
    (handle = system.handles.length ∧ owner.key = key) ∨ system.keyOf handle = some key := by
  rw [getElem?_concat] at known
  split at known
  next last => exact Or.inl ⟨last, Option.some.inj known⟩
  next => exact Or.inr known

/-- A fresh key belongs to the new handle alone. -/
theorem distinct_concat {system : IoSystem} {owner : Handle}
    (distinct : ∀ first second key, system.keyOf first = some key →
      system.keyOf second = some key → first = second)
    (fresh : ∀ handle, system.keyOf handle ≠ some owner.key) (first second : Nat)
    (key : ConnectionKey)
    (knownFirst : (system.handles ++ [owner])[first]?.map Handle.key = some key)
    (knownSecond : (system.handles ++ [owner])[second]?.map Handle.key = some key) :
    first = second := by
  rcases keyOf_concat knownFirst with ⟨rfl, rfl⟩ | oldFirst
  · rcases keyOf_concat knownSecond with ⟨rfl, -⟩ | oldSecond
    · rfl
    · exact absurd oldSecond (fresh second)
  · rcases keyOf_concat knownSecond with ⟨-, rfl⟩ | oldSecond
    · exact absurd oldFirst (fresh first)
    · exact distinct first second key oldFirst oldSecond

theorem distinct_of_transition {system after : IoSystem} {event : IoEvent}
    (separate : Separate system) (fresh : FreshKey system event)
    (transition : Transition system event after) (first second : Nat) (key : ConnectionKey)
    (knownFirst : after.keyOf first = some key) (knownSecond : after.keyOf second = some key) :
    first = second := by
  have restaged : ∀ changed stage, (system.setStage changed stage).keyOf first = some key →
      (system.setStage changed stage).keyOf second = some key → first = second := by
    intro changed stage atFirst atSecond
    rw [keyOf_setStage] at atFirst atSecond
    exact separate.distinct first second key atFirst atSecond
  cases transition with
  | opened connected completed =>
    exact distinct_concat separate.distinct (fresh _ completed) first second key knownFirst
      knownSecond
  | openedLost lost completed =>
    exact distinct_concat separate.distinct (fresh _ completed) first second key knownFirst
      knownSecond
  | won | lost | removeQueued | removeLost | closeSent | dropped =>
    exact restaged _ _ knownFirst knownSecond
  | idle | called | shutdown | letGo | drainedAdd | drainedAddTaken | drainedRemove | drainedTouch
  | drainedShutdown | quiet | expired =>
    exact separate.distinct first second key knownFirst knownSecond

theorem covered_of_transition {system after : IoSystem} {event : IoEvent}
    (wellFormed : WellFormed system) (accounted : Accounted system) (separate : Separate system)
    (transition : Transition system event after) (connected : after.connected = true) (flag : Nat)
    (isOpen : after.IsOpen flag) : after.Placed flag := by
  have head : ∀ {taken later}, system.queue = taken :: later → system.Pending flag →
      taken.command.adds = some flag ∨ ∃ queued ∈ later, queued.command.adds = some flag := by
    rintro taken later queued ⟨other, member, adds⟩
    rw [queued] at member
    rcases List.mem_cons.mp member with rfl | rest
    · exact Or.inl adds
    · exact Or.inr ⟨other, rest, adds⟩
  have behind : ∀ added, system.Placed flag →
      Placed { system with queue := system.queue ++ [added] } flag := by
    rintro added (⟨other, member, adds⟩ | taken)
    · exact Or.inl ⟨other, List.mem_append_left _ member, adds⟩
    · exact Or.inr taken
  cases transition with
  | idle lost | openedLost lost | removeLost lost =>
    exact absurd (lost.symm.trans connected) Bool.false_ne_true
  | letGo => exact absurd connected Bool.false_ne_true
  | opened _ completed =>
    rcases open_append_iff.mp isOpen with rfl | wasOpen
    · exact Or.inl ⟨_, List.mem_append_right _ (List.mem_singleton_self _), rfl⟩
    · exact behind _ (separate.covered connected flag wasOpen)
  | called | shutdown | removeQueued => exact behind _ (separate.covered connected flag isOpen)
  | won => exact separate.covered connected flag (open_set_iff.mp isOpen).2
  | lost | closeSent | dropped => exact separate.covered connected flag isOpen
  | @drainedAdd sender conn callbacks added later running queued vacant =>
    rcases separate.covered connected flag isOpen with pending | ⟨key, taken⟩
    · rcases head queued pending with first | rest
      · refine Or.inr ⟨conn.cfg.key, ?_⟩
        rw [Worker.occupant_insert, if_pos rfl]
        exact first
      · exact Or.inl rest
    · refine Or.inr ⟨key, ?_⟩
      rw [Worker.occupant_insert, if_neg]
      · exact taken
      · rintro rfl
        rw [Worker.occupant, vacant] at taken
        exact absurd taken (by simp)
  | drainedAddTaken running queued taken =>
    obtain ⟨differs, wasOpen⟩ := open_set_iff.mp isOpen
    refine (separate.covered connected flag wasOpen).imp_left fun pending => ?_
    exact (head queued pending).resolve_left fun adds => differs (Option.some.inj adds).symm
  | @drainedRemove sender key later running queued =>
    rcases separate.covered connected flag isOpen with pending | ⟨place, taken⟩
    · exact Or.inl ((head queued pending).resolve_left (by simp [Command.adds]))
    · refine Or.inr ⟨place, ?_⟩
      rw [Worker.occupant_erase, if_neg]
      · exact taken
      · rintro rfl
        have first : (⟨sender, .remove place⟩ : Queued) ∈ system.queue :=
          queued ▸ List.mem_cons_self
        cases sender with
        | none => exact absurd (wellFormed.key_of_no_sender first rfl) (Option.some_ne_none _)
        | some sender =>
          obtain ⟨other, toPlace, known⟩ := wellFormed.keyOf_sender first rfl
          obtain rfl := Option.some.inj toPlace
          obtain rfl := separate.distinct sender flag place known (wellFormed.keyed _ _ taken)
          exact accounted.leaving sender (Or.inl (Or.inl ⟨place, first⟩)) isOpen
  | drainedTouch running queued touches same =>
    rcases separate.covered connected flag isOpen with pending | ⟨key, taken⟩
    · refine Or.inl ((head queued pending).resolve_left fun adds => ?_)
      exact absurd ((Command.adds_of_touches touches).symm.trans adds) (by simp)
    · exact Or.inr ⟨key, (Worker.occupant_update _ _ _ same).trans taken⟩
  | drainedShutdown running queued =>
    exact (separate.covered connected flag isOpen).imp_left fun pending =>
      (head queued pending).resolve_left (by simp [Command.adds])
  | quiet running quiet =>
    rcases separate.covered connected flag isOpen with pending | ⟨key, taken⟩
    · exact Or.inl pending
    · exact Or.inr ⟨key, (quiet.occupant key).trans taken⟩
  | @expired key now entry running found late =>
    obtain ⟨differs, wasOpen⟩ := open_set_iff.mp isOpen
    rcases separate.covered connected flag wasOpen with pending | ⟨place, taken⟩
    · exact Or.inl pending
    · refine Or.inr ⟨place, ?_⟩
      rw [Worker.occupant_erase, if_neg]
      · exact taken
      · rintro rfl
        exact differs (Option.some.inj (taken.symm.trans (Worker.occupant_eq_some found)))

/-! ### The registry -/

/-- What holds in every run. -/
structure Sound (system : IoSystem) : Prop where
  wellFormed : WellFormed system
  accounted : Accounted system
  settled : Settled system
  connected : system.worker.running = true → system.connected = true

/-- The worker holds the queue for as long as it runs. -/
theorem connected_of_transition {system after : IoSystem} {event : IoEvent}
    (connected : system.worker.running = true → system.connected = true)
    (transition : Transition system event after) (running : after.worker.running = true) :
    after.connected = true := by
  cases transition with
  | letGo stopped => exact absurd (stopped.symm.trans running) Bool.false_ne_true
  | drainedTouch runs | drainedShutdown runs | quiet runs => exact connected runs
  | _ => exact connected running

theorem sound_of_step {system after : IoSystem} {event : IoEvent} (sound : Sound system)
    (step : ioMachine.step system event = some after) : Sound after :=
  have transition := transition_of_step step
  ⟨wellFormed_of_transition sound.wellFormed transition,
    accounted_of_transition sound.wellFormed sound.accounted transition,
    settled_of_transition sound.wellFormed sound.settled transition,
    connected_of_transition sound.connected transition⟩

theorem sound_new : Sound IoSystem.new :=
  ⟨wellFormed_new, accounted_new, settled_new, fun _ => rfl⟩

theorem sound_of_run {last : IoSystem} {events : List IoEvent}
    (reached : ioMachine.run IoSystem.new events = some last) : Sound last :=
  ioMachine.invariant_run (fun _ _ _ sound step => sound_of_step sound step) sound_new reached

theorem separate_new : Separate IoSystem.new where
  distinct _ _ _ known := absurd known nofun
  covered _ _ isOpen := absurd isOpen nofun

theorem separate_of_run {last : IoSystem} {events : List IoEvent}
    (fresh : ioMachine.Meets FreshKey IoSystem.new events)
    (reached : ioMachine.run IoSystem.new events = some last) : Separate last := by
  have preserved : ∀ system event after, Sound system ∧ Separate system →
      FreshKey system event → ioMachine.step system event = some after →
        Sound after ∧ Separate after := by
    rintro system event after ⟨sound, separate⟩ freshHere step
    have transition := transition_of_step step
    exact ⟨sound_of_step sound step, distinct_of_transition separate freshHere transition,
      covered_of_transition sound.wellFormed sound.accounted separate transition⟩
  exact (ioMachine.invariant_of_meets preserved ⟨sound_new, separate_new⟩ fresh reached).2

theorem Accounted.countAfterClose_of_open {system : IoSystem} (accounted : Accounted system)
    {flag : Nat} (isOpen : system.IsOpen flag) :
    system.countAfterClose flag + 1 = system.openCount := by
  have positive : 0 < system.openCount :=
    accounted.counted ▸ List.count_pos_iff.mpr (List.mem_of_getElem? isOpen)
  rw [countAfterClose, if_pos (show system.flags[flag]? = some true from isOpen), fetchSub,
    if_neg positive.ne']
  omega

/-- The Remove that is to come is addressed to the key under which the entry is. -/
theorem Sound.remove_to_come {system : IoSystem} (sound : Sound system)
    (running : system.worker.running = true) {key : ConnectionKey} {flag : Nat}
    (taken : system.worker.occupant key = some flag) (closed : ¬ system.IsOpen flag) :
    ⟨some flag, .remove key⟩ ∈ system.queue ∨ system.stageOf flag = some .closing := by
  have connected := sound.connected running
  refine (sound.accounted.remaining connected flag (Or.inr ⟨key, taken⟩) closed).imp_left ?_
  rintro ⟨other, member⟩
  obtain ⟨place, toPlace, known⟩ := sound.wellFormed.keyOf_sender member rfl
  obtain rfl := Option.some.inj toPlace
  obtain rfl := Option.some.inj (known.symm.trans (sound.wellFormed.keyed key flag taken))
  exact member

/-- The registry invariant. With keys that are all different, and for as long as the I/O thread
runs: the open count is the number of open flags, so it never wraps around and tells exactly
whether a connection is open; an open connection is in the queue or in the map, and not in both;
an entry whose flag was closed has its Remove in the queue, or its owner is about to queue it; and
after the Remove was carried out there is no effect of the connection. -/
theorem registry_invariant {last : IoSystem} {events : List IoEvent}
    (fresh : ioMachine.Meets FreshKey IoSystem.new events)
    (reached : ioMachine.run IoSystem.new events = some last)
    (running : last.worker.running = true) :
    (last.openCount = last.flags.count true ∧
      (last.hasOpenConnections = true ↔ ∃ flag, last.IsOpen flag) ∧
      ∀ flag, last.IsOpen flag → last.countAfterClose flag + 1 = last.openCount) ∧
    (∀ flag, last.IsOpen flag →
      (last.Pending flag ∨ last.Mapped flag) ∧ ¬ (last.Pending flag ∧ last.Mapped flag)) ∧
    (∀ key flag, last.worker.occupant key = some flag → ¬ last.IsOpen flag →
      .won flag ∈ last.log ∧
        (⟨some flag, .remove key⟩ ∈ last.queue ∨ last.stageOf flag = some .closing)) ∧
    ∀ effect : Effect, ¬ [.removed effect.flag, .effect effect].Sublist last.log := by
  have sound := sound_of_run reached
  have separate := separate_of_run fresh reached
  refine ⟨⟨sound.accounted.counted, ?_, fun flag => sound.accounted.countAfterClose_of_open⟩, ?_,
    fun key flag taken closed => ?_, sound.settled.silent⟩
  · rw [hasOpenConnections, decide_eq_true_iff, sound.accounted.counted, List.count_pos_iff]
    exact List.mem_iff_getElem?
  · intro flag isOpen
    exact ⟨separate.covered (sound.connected running) flag isOpen, fun both =>
      sound.wellFormed.not_mapped_of_pending both.1 both.2⟩
  · exact ⟨sound.accounted.won flag (Or.inr ⟨key, taken⟩) closed,
      sound.remove_to_come running taken closed⟩

/-- Connections with two devices are opened, and the first one is closed while the worker runs. -/
def twoOpens : List IoEvent :=
  [grantedOpen ⟨0⟩ ⟨false, none, true⟩ 0, grantedOpen ⟨1⟩ ⟨false, none, true⟩ 0, .drain, .drain,
    .closeHandle 0, .queueRemove 0, .drain, .sendForwardClose 0]

theorem freshKey_twoOpens : ioMachine.Meets FreshKey IoSystem.new twoOpens := by
  refine ⟨fun _ _ _ => nofun, fun first opened => ⟨?_, fun _ _ => ⟨trivial, fun _ _ => ⟨trivial,
    fun _ _ => ⟨trivial, fun _ _ => ⟨trivial, fun _ _ => ⟨trivial, fun _ _ => ⟨trivial,
      fun _ _ => trivial⟩⟩⟩⟩⟩⟩⟩⟩
  obtain rfl := Option.some.inj opened
  rintro granted ⟨⟩ handle known
  cases handle with
  | zero => exact absurd known (by decide)
  | succ handle => exact absurd known nofun

/-- The second one is still open then, and is counted. -/
theorem registry_invariant_twoOpens :
    ∃ last, ioMachine.run IoSystem.new twoOpens = some last ∧ last.openCount = 1 ∧
      last.flags = [false, true] ∧ last.openCount = last.flags.count true ∧
      (last.Pending 1 ∨ last.Mapped 1) := by
  have outcome : (ioMachine.run IoSystem.new twoOpens).map
        (fun system => (system.worker.running, system.openCount, system.flags)) =
      some (true, 1, [false, true]) := rfl
  obtain ⟨last, reached, state⟩ := Option.map_eq_some_iff.mp outcome
  obtain ⟨running, count, flags⟩ := by simpa only [Prod.mk.injEq] using state
  obtain ⟨⟨counted, -, -⟩, placed, -, -⟩ := registry_invariant freshKey_twoOpens reached running
  refine ⟨last, reached, count, flags, counted, (placed 1 ?_).1⟩
  rw [IsOpen, flags]
  rfl

end IoSystem

end EipScanner
