/-
This file is about the two ways a connection can end: the worker finds it timed out and
calls its close callback, or its owner closes it and sends a Forward Close.

An open flag is worth one ending. Whoever closes it takes it, and the count of what is
left and what was taken never rises. The worker does not ask whether it was the one to
close the flag before it calls the callback. So a connection that times out after its
owner has closed the flag, and before the Remove is drained, ends twice. A run in which
this does not happen ends every connection once, and only such a run does.
-/

import EipScanner.Registry

namespace EipScanner

/-! ### Endings -/

namespace LogEntry

/-- The owner of a handle closed its flag. -/
def isWon (handle : Nat) : LogEntry → Bool
  | .won winner => winner = handle
  | _ => false

/-- The close callback of a connection was called. -/
def isOnClose (handle : Nat) : LogEntry → Bool
  | .effect caused => caused.flag = handle ∧ caused.action = .onClose
  | _ => false

/-- A Forward Close was sent for a handle. -/
def isForwardClose (handle : Nat) : LogEntry → Bool
  | .forwardClose closed _ => closed = handle
  | _ => false

end LogEntry

/-- A connection ends at most once, and its close callback is not called after its owner has
closed it. -/
def EndsOnce (log : List LogEntry) (handle : Nat) : Prop :=
  log.countP (LogEntry.isOnClose handle) + log.countP (LogEntry.isForwardClose handle) ≤ 1 ∧
    ∀ key, ¬ [.won handle, .effect ⟨key, handle, .onClose⟩].Sublist log

/-- What ends once in a log has ended once in every earlier one. -/
theorem EndsOnce.earlier {earlier later : List LogEntry} {handle : Nat}
    (once : EndsOnce (earlier ++ later) handle) : EndsOnce earlier handle := by
  have shorter := List.sublist_append_left earlier later
  refine ⟨?_, fun key inside => once.2 key (inside.trans shorter)⟩
  exact (Nat.add_le_add shorter.countP_le shorter.countP_le).trans once.1

/-- A Forward Close is still to be sent at these stages. -/
def Stage.owes : Stage → Nat
  | .held => 0
  | .closing => 1
  | .removing => 1
  | .gone => 0

namespace IoSystem

section
variable (system : IoSystem) (handle : Nat)

/-- The flag of a handle can still be closed, now or when there is one. -/
def unclosed : Nat := if system.flags[handle]? = some false then 0 else 1

/-- A Forward Close is still to be sent for a handle. -/
def owed : Nat := ((system.stageOf handle).map Stage.owes).getD 0

/-- A new flag is worth an ending that was there to have before. -/
theorem unclosed_append :
    unclosed { system with flags := system.flags ++ [true] } handle ≤ system.unclosed handle := by
  rw [unclosed, unclosed, getElem?_concat]
  split
  next last =>
    rw [last, List.getElem?_eq_none (Nat.le_refl _)]
    exact Nat.le_refl 1
  next => exact Nat.le_refl _

theorem unclosed_set_le (closed : Nat) :
    unclosed { system with flags := system.flags.set closed false } handle ≤
      system.unclosed handle := by
  rw [unclosed, unclosed, List.getElem?_set]
  split
  next same =>
    split
    · exact Nat.zero_le _
    next outside =>
      rw [← same, List.getElem?_eq_none (Nat.not_lt.mp outside)]
  next => exact Nat.le_refl _

/-- Closing an open flag takes what it was worth. -/
theorem unclosed_set_self {system : IoSystem} {closed : Nat} (isOpen : system.IsOpen closed) :
    unclosed { system with flags := system.flags.set closed false } closed = 0 ∧
      system.unclosed closed = 1 := by
  have inside := (List.getElem?_eq_some_iff.mp isOpen).1
  rw [unclosed, unclosed, List.getElem?_set_self inside, show system.flags[closed]? = _ from isOpen]
  exact ⟨rfl, rfl⟩

end

theorem owed_of_found {system : IoSystem} {handle : Nat} {owner : Handle}
    (found : system.handles[handle]? = some owner) : system.owed handle = owner.stage.owes := by
  rw [owed, stageOf_of_found found, Option.map_some, Option.getD_some]

theorem owed_setStage {system : IoSystem} {changed : Nat} {owner : Handle}
    (found : system.handles[changed]? = some owner) (stage : Stage) (handle : Nat) :
    (system.setStage changed stage).owed handle =
      if changed = handle then stage.owes else system.owed handle := by
  rw [owed, stageOf_setStage]
  split
  next same =>
    subst same
    rw [stageOf_of_found found]
    rfl
  next => rfl

/-- A new handle owes nothing. -/
theorem owed_concat (system : IoSystem) (owner : Handle) (owesNothing : owner.stage.owes = 0)
    (handle : Nat) :
    owed { system with handles := system.handles ++ [owner] } handle = system.owed handle := by
  rw [owed, owed, stageOf, stageOf, getElem?_concat]
  split
  next last =>
    rw [last, List.getElem?_eq_none (Nat.le_refl _)]
    exact owesNothing
  next => rfl

/-- A handle that moves on without owing more. -/
theorem owed_setStage_le {system : IoSystem} {changed : Nat} {owner : Handle}
    (found : system.handles[changed]? = some owner) {stage : Stage}
    (notMore : stage.owes ≤ owner.stage.owes) (handle : Nat) :
    (system.setStage changed stage).owed handle ≤ system.owed handle := by
  rw [owed_setStage found]
  split
  next same => exact same ▸ (owed_of_found found).symm ▸ notMore
  next => exact Nat.le_refl _

/-- A flag is worth one ending, and a Forward Close is paid for by closing the flag. -/
structure Budget (system : IoSystem) (handle : Nat) : Prop where
  one : system.unclosed handle + system.log.countP (LogEntry.isWon handle) +
    system.log.countP (LogEntry.isOnClose handle) ≤ 1
  paid : system.log.countP (LogEntry.isForwardClose handle) + system.owed handle ≤
    system.log.countP (LogEntry.isWon handle)

/-- Whoever has kept within the budget has ended once. -/
theorem Budget.endsOnce {system : IoSystem} {handle : Nat} (budget : Budget system handle) :
    EndsOnce system.log handle := by
  have one := budget.one
  have paid := budget.paid
  refine ⟨by omega, fun key inside => ?_⟩
  have members := inside.subset
  have won : 0 < system.log.countP (LogEntry.isWon handle) :=
    List.countP_pos_iff.mpr ⟨_, members List.mem_cons_self, decide_eq_true rfl⟩
  have called : 0 < system.log.countP (LogEntry.isOnClose handle) :=
    List.countP_pos_iff.mpr ⟨_, members (List.mem_cons_of_mem _ List.mem_cons_self),
      decide_eq_true (And.intro rfl rfl)⟩
  omega

/-- A connection that has a close callback is still open when it times out. -/
def OpenAtTimeout (system : IoSystem) : IoEvent → Prop
  | .expire key _ => ∀ entry, system.worker.connections.lookup key = some entry →
      entry.callbacks.onClose = true → system.IsOpen entry.flag
  | _ => True

/-- A step keeps within the budget if what it takes was there to take. -/
theorem Budget.spend {system after : IoSystem} {handle : Nat} (budget : Budget system handle)
    {added : List LogEntry} (log : after.log = system.log ++ added)
    (one : after.unclosed handle + added.countP (LogEntry.isWon handle) +
      added.countP (LogEntry.isOnClose handle) ≤ system.unclosed handle)
    (paid : added.countP (LogEntry.isForwardClose handle) + after.owed handle ≤
      added.countP (LogEntry.isWon handle) + system.owed handle) : Budget after handle := by
  have oneBefore := budget.one
  have paidBefore := budget.paid
  refine ⟨?_, ?_⟩
  · rw [log, List.countP_append, List.countP_append]
    omega
  · rw [log, List.countP_append, List.countP_append]
    omega

/-- A step that writes nothing into the log. -/
theorem Budget.keep {system after : IoSystem} {handle : Nat} (budget : Budget system handle)
    (log : after.log = system.log) (unclosed : after.unclosed handle ≤ system.unclosed handle)
    (owed : after.owed handle ≤ system.owed handle) : Budget after handle := by
  have nothingAdded : after.log = system.log ++ [] := log.trans (List.append_nil _).symm
  exact budget.spend nothingAdded unclosed (Nat.add_le_add_left owed 0)

/-- Effects none of which is counted. -/
theorem countP_effects {counted : LogEntry → Bool} {effects : List Effect}
    (none : ∀ effect ∈ effects, counted (.effect effect) = false) :
    (effects.map LogEntry.effect).countP counted = 0 := by
  refine List.countP_eq_zero.mpr fun entry member => ?_
  obtain ⟨effect, inEffects, rfl⟩ := List.mem_map.mp member
  exact Bool.eq_false_iff.mp (none effect inEffects)

/-- A step of the worker that calls no close callback of the handle. -/
theorem Budget.effects {system after : IoSystem} {handle : Nat} (budget : Budget system handle)
    {effects : List Effect} (log : after.log = system.log ++ effects.map .effect)
    (unclosed : after.unclosed handle ≤ system.unclosed handle)
    (owed : after.owed handle ≤ system.owed handle)
    (uncalled : ∀ effect ∈ effects, effect.flag = handle → effect.action ≠ .onClose) :
    Budget after handle := by
  have notWon := @countP_effects (LogEntry.isWon handle) effects fun _ _ => rfl
  have notSent := @countP_effects (LogEntry.isForwardClose handle) effects fun _ _ => rfl
  have notCalled := @countP_effects (LogEntry.isOnClose handle) effects fun effect member =>
    decide_eq_false fun both => uncalled effect member both.1 both.2
  refine budget.spend log ?_ ?_
  · rw [notWon, notCalled]
    exact unclosed
  · rw [notWon, notSent]
    exact Nat.add_le_add_left owed 0

/-- Whoever closes an open flag takes its ending. -/
theorem Budget.win {system : IoSystem} {handle winner : Nat} {owner : Handle}
    (budget : Budget system handle) (found : system.handles[winner]? = some owner)
    (held : owner.stage = .held) (isOpen : system.IsOpen winner) (openCount : Nat) :
    Budget ((setStage { system with
      flags := system.flags.set winner false, openCount } winner .closing).record
        (.won winner)) handle := by
  have staged := owed_setStage found .closing handle
  by_cases same : winner = handle
  · subst same
    obtain ⟨taken, worth⟩ := unclosed_set_self isOpen
    have won : [LogEntry.won winner].countP (LogEntry.isWon winner) = 1 :=
      List.countP_singleton.trans (if_pos (decide_eq_true rfl))
    rw [if_pos rfl] at staged
    refine budget.spend rfl ?_ ?_
    · show unclosed { system with flags := system.flags.set winner false } winner +
        [LogEntry.won winner].countP (LogEntry.isWon winner) + 0 ≤ system.unclosed winner
      rw [taken, won, worth]
    · show 0 + (system.setStage winner .closing).owed winner ≤
        [LogEntry.won winner].countP (LogEntry.isWon winner) + system.owed winner
      rw [staged, won, owed_of_found found, held]
      exact Nat.le_refl 1
  · have notWon : [LogEntry.won winner].countP (LogEntry.isWon handle) = 0 :=
      List.countP_singleton.trans (if_neg (Bool.eq_false_iff.mp (decide_eq_false same)))
    rw [if_neg same] at staged
    refine budget.spend rfl ?_ ?_
    · show unclosed { system with flags := system.flags.set winner false } handle +
        [LogEntry.won winner].countP (LogEntry.isWon handle) + 0 ≤ system.unclosed handle
      rw [notWon]
      exact system.unclosed_set_le handle winner
    · show 0 + (system.setStage winner .closing).owed handle ≤
        [LogEntry.won winner].countP (LogEntry.isWon handle) + system.owed handle
      rw [notWon, staged]

/-- A connection that times out while it is open takes its ending, if it has a close callback. -/
theorem Budget.expire {system : IoSystem} {handle : Nat} {key : ConnectionKey} {entry : Entry}
    (budget : Budget system handle)
    (isOpen : entry.callbacks.onClose = true → system.IsOpen entry.flag) (worker : Worker)
    (openCount : Nat) :
    Budget { system with
      worker
      flags := system.flags.set entry.flag false
      openCount
      log := system.log ++ (entry.expired.map (Effect.mk key entry.flag)).map .effect } handle := by
  by_cases called : entry.callbacks.onClose = true ∧ entry.flag = handle
  · obtain ⟨hasCallback, rfl⟩ := called
    obtain ⟨taken, worth⟩ := unclosed_set_self (isOpen hasCallback)
    have added : entry.expired = [.closeFlag, .onClose] := by
      rw [Entry.expired, if_pos hasCallback]
    have once : ((entry.expired.map (Effect.mk key entry.flag)).map LogEntry.effect).countP
        (LogEntry.isOnClose entry.flag) = 1 := by
      simp [added, LogEntry.isOnClose]
    have notWon : ((entry.expired.map (Effect.mk key entry.flag)).map LogEntry.effect).countP
        (LogEntry.isWon entry.flag) = 0 := countP_effects fun _ _ => rfl
    have notSent : ((entry.expired.map (Effect.mk key entry.flag)).map LogEntry.effect).countP
        (LogEntry.isForwardClose entry.flag) = 0 := countP_effects fun _ _ => rfl
    refine budget.spend rfl ?_ ?_
    · rw [once, notWon, worth]
      show unclosed { system with flags := system.flags.set entry.flag false } entry.flag +
        0 + 1 ≤ 1
      rw [taken]
    · rw [notSent, notWon]
      exact Nat.le_refl _
  · refine budget.effects rfl (system.unclosed_set_le handle entry.flag) (Nat.le_refl _) ?_
    intro effect member same isOnClose
    obtain ⟨action, inExpired, rfl⟩ := List.mem_map.mp member
    obtain rfl : action = .onClose := isOnClose
    refine called ⟨?_, same⟩
    by_contra noCallback
    rw [Entry.expired, if_neg noCallback] at inExpired
    exact absurd (List.mem_singleton.mp inExpired) (by simp)

theorem budget_of_transition {system after : IoSystem} {event : IoEvent} {handle : Nat}
    (budget : Budget system handle) (openAtTimeout : OpenAtTimeout system event)
    (transition : Transition system event after) : Budget after handle := by
  cases transition with
  | idle | called | shutdown | letGo | drainedAdd | drainedTouch | drainedShutdown =>
    exact ⟨budget.one, budget.paid⟩
  | @opened config response peerIp callbacks now opened =>
    exact budget.keep rfl (system.unclosed_append handle)
      (system.owed_concat ⟨opened.ioConfig.key, opened.closeRequest, .held⟩ rfl handle).le
  | @openedLost config response peerIp callbacks now opened =>
    exact budget.keep rfl (system.unclosed_append handle)
      (system.owed_concat ⟨opened.ioConfig.key, opened.closeRequest, .gone⟩ rfl handle).le
  | won found held isOpen => exact budget.win found held isOpen _
  | lost found held =>
    exact budget.keep rfl (Nat.le_refl _) (owed_setStage_le found (Nat.zero_le _) handle)
  | removeQueued connected found closing =>
    exact budget.keep rfl (Nat.le_refl _) (owed_setStage_le found (closing ▸ Nat.le_refl 1) handle)
  | removeLost lost found closing =>
    exact budget.keep rfl (Nat.le_refl _) (owed_setStage_le found (Nat.zero_le _) handle)
  | @closeSent closer owner found removing =>
    have staged := owed_setStage found .gone handle
    refine budget.spend rfl (Nat.le_refl _) ?_
    show [LogEntry.forwardClose closer owner.closeRequest.encode].countP
        (LogEntry.isForwardClose handle) + (system.setStage closer .gone).owed handle ≤
      0 + system.owed handle
    rw [staged, List.countP_singleton]
    by_cases same : closer = handle
    · subst same
      have sent : LogEntry.isForwardClose closer
          (.forwardClose closer owner.closeRequest.encode) = true := decide_eq_true rfl
      rw [if_pos sent, if_pos rfl, owed_of_found found, removing]
      exact Nat.le_refl 1
    · have notSent : LogEntry.isForwardClose handle
          (.forwardClose closer owner.closeRequest.encode) = false := decide_eq_false same
      rw [if_neg (Bool.eq_false_iff.mp notSent), if_neg same]
  | dropped found held =>
    exact budget.keep rfl (Nat.le_refl _) (owed_setStage_le found (Nat.zero_le _) handle)
  | @drainedAddTaken sender conn callbacks flag =>
    refine @Budget.effects system _ handle budget [⟨conn.cfg.key, flag, .closeFlag⟩] rfl
      (system.unclosed_set_le handle flag) (Nat.le_refl _) ?_
    intro effect member _
    obtain rfl := List.mem_singleton.mp member
    exact nofun
  | @drainedRemove sender =>
    cases sender with
    | none => exact budget.keep (List.append_nil _) (Nat.le_refl _) (Nat.le_refl _)
    | some sender => exact budget.spend rfl (Nat.le_refl _) (Nat.le_refl _)
  | quiet running quiet =>
    exact budget.effects rfl (Nat.le_refl _) (Nat.le_refl _) fun effect member _ =>
      (quiet.effects effect member).2.1
  | expired running found late => exact budget.expire (openAtTimeout _ found) _ _

theorem budget_new (handle : Nat) : Budget IoSystem.new handle := ⟨Nat.le_refl 1, Nat.le_refl 0⟩

/-- If every connection has ended once after a step, the step found the connection open that timed
out in it. Otherwise its owner had closed it before. -/
theorem openAtTimeout_of_endsOnce {system after : IoSystem} {event : IoEvent}
    (sound : Sound system) (step : ioMachine.step system event = some after)
    (once : ∀ handle, EndsOnce after.log handle) : OpenAtTimeout system event := by
  cases event with
  | expire key now =>
    intro entry found hasCallback
    by_contra closed
    have won := sound.accounted.won entry.flag
      (Or.inr ⟨key, Worker.occupant_eq_some found⟩) closed
    simp only [ioMachine, expire_of_found found, Option.ite_none_right_eq_some] at step
    obtain ⟨-, -, handled⟩ := step
    obtain rfl := Option.some.inj handled
    refine (once entry.flag).2 key (pair_sublist_append.mpr (Or.inr (Or.inl ⟨won, ?_⟩)))
    rw [Entry.expired, if_pos hasCallback]
    exact List.mem_cons_of_mem _ List.mem_cons_self
  | _ => trivial

/-- Every connection ends once in a run exactly if every connection with a close callback that
times out in it is still open then. -/
theorem endsOnce_iff {last : IoSystem} {events : List IoEvent}
    (reached : ioMachine.run IoSystem.new events = some last) :
    (∀ handle, EndsOnce last.log handle) ↔ ioMachine.Meets OpenAtTimeout IoSystem.new events := by
  constructor
  · intro once
    have before : ∀ system event after, Sound system → ioMachine.step system event = some after →
        (∀ handle, EndsOnce after.log handle) →
          (∀ handle, EndsOnce system.log handle) ∧ OpenAtTimeout system event := by
      intro system event after sound step onceAfter
      obtain ⟨added, log, -⟩ := log_of_transition sound.wellFormed (transition_of_step step)
      refine ⟨fun handle => ?_, openAtTimeout_of_endsOnce sound step onceAfter⟩
      exact (log ▸ onceAfter handle).earlier
    exact (ioMachine.meets_of_run (fun _ _ _ => sound_of_step) before sound_new reached once).2
  · intro meets handle
    have preserved : ∀ system event after, Budget system handle → OpenAtTimeout system event →
        ioMachine.step system event = some after → Budget after handle := by
      intro system event after budget openAtTimeout step
      exact budget_of_transition budget openAtTimeout (transition_of_step step)
    exact (ioMachine.invariant_of_meets preserved (budget_new handle) meets reached).endsOnce

/-- One connection times out, and its close is then only logged. Another one is closed. -/
theorem endsOnce_iff_both :
    ∃ last, ioMachine.run IoSystem.new [grantedOpen ⟨0⟩ ⟨false, none, true⟩ 0, .drain,
        .expire ⟨⟨0⟩, 0x200⟩ 1000000000, .closeHandle 0,
        grantedOpen ⟨0⟩ ⟨false, none, true⟩ 1000000000, .drain, .closeHandle 1,
        .queueRemove 1, .sendForwardClose 1, .drain] = some last ∧
      ∀ handle, EndsOnce last.log handle := by
  have outcome : (ioMachine.run IoSystem.new [grantedOpen ⟨0⟩ ⟨false, none, true⟩ 0, .drain,
      .expire ⟨⟨0⟩, 0x200⟩ 1000000000, .closeHandle 0,
      grantedOpen ⟨0⟩ ⟨false, none, true⟩ 1000000000, .drain, .closeHandle 1,
      .queueRemove 1, .sendForwardClose 1, .drain]).isSome := rfl
  obtain ⟨last, reached⟩ := Option.isSome_iff_exists.mp outcome
  refine ⟨last, reached, (endsOnce_iff reached).mpr ⟨trivial, fun opened opening =>
    ⟨trivial, fun added adding => ⟨?_, fun _ _ => ⟨trivial, fun _ _ => ⟨trivial, fun _ _ =>
      ⟨trivial, fun _ _ => ⟨trivial, fun _ _ => ⟨trivial, fun _ _ => ⟨trivial, fun _ _ =>
        ⟨trivial, fun _ _ => trivial⟩⟩⟩⟩⟩⟩⟩⟩⟩⟩⟩
  obtain rfl := Option.some.inj opening
  obtain rfl := Option.some.inj adding
  intro entry found _
  obtain rfl := Option.some.inj found
  exact rfl

/-- A connection times out after its owner has closed it, and before the Remove is drained: its
close callback is called, and a Forward Close is sent. -/
theorem ends_twice :
    ∃ last, ioMachine.run IoSystem.new [grantedOpen ⟨0⟩ ⟨false, none, true⟩ 0, .drain,
        .closeHandle 0, .expire ⟨⟨0⟩, 0x200⟩ 1000000000, .queueRemove 0,
        .sendForwardClose 0] = some last ∧
      ¬ EndsOnce last.log 0 := by
  have outcome : (ioMachine.run IoSystem.new [grantedOpen ⟨0⟩ ⟨false, none, true⟩ 0, .drain,
      .closeHandle 0, .expire ⟨⟨0⟩, 0x200⟩ 1000000000, .queueRemove 0,
      .sendForwardClose 0]).map IoSystem.log =
        some [.won 0, .effect ⟨⟨⟨0⟩, 0x200⟩, 0, .closeFlag⟩, .effect ⟨⟨⟨0⟩, 0x200⟩, 0, .onClose⟩,
          .forwardClose 0 (ForwardCloseRequest.encode
            ⟨1, 0, 0, (assemblyConfig [] .fixed).path.bytes⟩)] := rfl
  obtain ⟨last, reached, log⟩ := Option.map_eq_some_iff.mp outcome
  refine ⟨last, reached, fun once => ?_⟩
  have tooMany := once.1
  rw [log] at tooMany
  exact absurd tooMany (by decide)

end IoSystem

end EipScanner
