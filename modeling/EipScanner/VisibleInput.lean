/-
This file is about what reaches the callbacks of a connection, and about its end. The inputs that
are handed to the receive callback are those that the datagrams carried that arrived while the
connection was there: none is lost, none comes twice, none is out of its order, and none comes from
anywhere else. Once the connection is removed, has timed out or is shut down, nothing is done for
it any more, but for the close callback that is called right after a timeout.
-/

import EipScanner.Visible
import Mathlib.Data.List.TakeWhile

namespace EipScanner

open Trace

/-! ### Inputs -/

/-- The packet that arrives with an item. -/
def Visible.packet : Visible → Option ConnectedPacket
  | .datagram packet => some packet
  | _ => none

/-- The input that the receive callback is called with. -/
def Action.input : Action → Option InputData
  | .onReceive input => some input
  | _ => none

def Visible.input : Visible → Option InputData
  | .action done => done.input
  | _ => none

/-- The packet that an event brings for the connection under a key: the datagram comes from its
device, can be decoded, and has its ID. -/
def WorkerEvent.arrival (key : ConnectionKey) : WorkerEvent → Option ConnectedPacket
  | .receive (.v4 peerIp) datagram _ =>
    match decodeConnectedPacket (datagram.take rxBufSize) with
    | .error _ => none
    | .ok packet => if ⟨peerIp, packet.connectionId⟩ = key then some packet else none
  | _ => none

/-- What a packet carries for a connection: behind the headers that the settings ask for, the
data, of the configured size if that is fixed. -/
structure CarriesInput (cfg : IoConnectionConfig) (packet : ConnectedPacket) (input : InputData) :
    Prop where
  number : input.sequenceNumber = packet.sequenceNumber
  layout : packet.data =
    (if cfg.hasSequenceCount then putU16 input.sequenceCount else []) ++
      ((if cfg.t2oRealTimeFormat then putU32 input.runIdleHeader else []) ++ input.data)
  uncounted : cfg.hasSequenceCount = false → input.sequenceCount = 0
  headless : cfg.t2oRealTimeFormat = false → input.runIdleHeader = 0
  fixed : cfg.t2oFixed = true → input.data.length = cfg.t2oSize

section
variable {Value : Type} {absent : Value}

/-- A field is read exactly when the bytes begin with it. -/
theorem readIf_eq_some_iff {read : Bytes → Except Error (Value × Bytes)} {put : Value → Bytes}
    (exact : ∀ buf value rest, read buf = .ok (value, rest) ↔ buf = put value ++ rest)
    (present : Bool) (buf rest : Bytes) (value : Value) :
    IoConnection.readIf present absent read buf = some (value, rest) ↔
      buf = (if present then put value else []) ++ rest ∧ (present = false → value = absent) := by
  cases present with
  | false =>
    rw [IoConnection.readIf, if_neg Bool.false_ne_true, if_neg Bool.false_ne_true, List.nil_append,
      Option.some.injEq, Prod.mk.injEq, and_comm, @eq_comm _ absent]
    simp
  | true =>
    rw [IoConnection.readIf, if_pos rfl, if_pos rfl, ← exact, and_iff_left (by simp)]
    cases read buf with
    | error refused => simp [Except.toOption]
    | ok pair => simp [Except.toOption]

end

/-- A connection accepts a packet with an input exactly if the packet carries that input. -/
theorem inputOf_eq_some_iff {cfg : IoConnectionConfig} {packet : ConnectedPacket}
    {input : InputData} : cfg.inputOf packet = some input ↔ CarriesInput cfg packet input := by
  have reads : cfg.inputOf packet =
      (IoConnection.readIf cfg.hasSequenceCount 0 tryGetU16 packet.data).bind fun counted =>
        (IoConnection.readIf cfg.t2oRealTimeFormat 0 tryGetU32 counted.2).bind fun headed =>
          if cfg.t2oFixed && headed.2.length != cfg.t2oSize then none
          else some ⟨packet.sequenceNumber, counted.1, headed.1, headed.2⟩ :=
    onReceive_snd (IoConnection.new cfg 0) packet 0
  rw [reads]
  simp only [Option.bind_eq_some_iff, Prod.exists,
    readIf_eq_some_iff fun _ _ _ => tryGetU16_eq_ok_iff,
    readIf_eq_some_iff fun _ _ _ => tryGetU32_eq_ok_iff]
  constructor
  · rintro ⟨count, rest, ⟨split, uncounted⟩, header, data, ⟨rfl, headless⟩, accepted⟩
    split at accepted
    next refused => exact absurd accepted (by simp)
    next sized =>
      obtain rfl := Option.some.inj accepted
      refine ⟨rfl, split, uncounted, headless, fun fixed => ?_⟩
      rw [fixed, Bool.true_and, bne_iff_ne, not_not] at sized
      exact sized
  · rintro ⟨number, layout, uncounted, headless, fixed⟩
    refine ⟨_, _, ⟨layout, uncounted⟩, _, _, ⟨rfl, headless⟩, ?_⟩
    rw [if_neg (by simpa using fixed), ← number]

/-! ### What is handed out -/

/-- The worker calls the receive callback for a datagram only. -/
theorem inputs_callOnSend (entry : Entry) : entry.callOnSend.2.filterMap Action.input = [] := by
  unfold Entry.callOnSend
  cases entry.callbacks.onSend <;> rfl

theorem inputs_transmit (entry : Entry) (now : Nat) (txBuf : Bytes) :
    (entry.transmit now txBuf).2.2.filterMap Action.input = [] := by
  simp only [Entry.transmit, List.filterMap_append, inputs_callOnSend, List.nil_append]
  split <;> rfl

theorem inputs_expired (entry : Entry) : entry.expired.filterMap Action.input = [] := by
  unfold Entry.expired
  cases entry.callbacks.onClose <;> rfl

theorem inputs_doneFor (flag : Nat) {shown : SlotOutput}
    (none : (shown.map Prod.snd).filterMap Action.input = []) :
    (doneFor flag shown).filterMap Action.input = [] := by
  rw [List.filterMap_eq_nil_iff] at none ⊢
  intro action member
  obtain ⟨output, inside, found⟩ := List.mem_filterMap.mp member
  split at found
  · exact Option.some.inj found ▸ none _ (List.mem_map_of_mem inside)
  · exact absurd found (by simp)

theorem inputs_drainCommand (slot : Slot) (drained : Command) :
    ((slot.drainCommand drained).2.map Prod.snd).filterMap Action.input = [] := by
  cases drained with
  | add conn callbacks flag =>
    unfold Slot.drainCommand
    cases slot.entry <;> rfl
  | remove key => rfl
  | setOutput key data => rfl
  | setRun key run => rfl
  | shutdown => rfl

theorem inputs_service (slot : Slot) (now : Nat) :
    ((slot.service now).2.map Prod.snd).filterMap Action.input = [] := by
  have bare (flag : Nat) (actions : List Action) :
      (actions.map (flag, ·)).map Prod.snd = actions := by
    rw [List.map_map]
    exact List.map_id actions
  unfold Slot.service
  cases slot.entry with
  | none => rfl
  | some entry =>
    dsimp only
    split
    · rw [bare, inputs_expired]
    · split
      · rw [bare, inputs_transmit]
      · rfl

/-- The inputs among some items are what the connection accepts of the packets among them. -/
structure Delivers (cfg : IoConnectionConfig) (callbacks : IoCallbacks)
    (seen items : List Visible) : Prop where
  live : Live seen → items.filterMap Visible.input =
    if callbacks.onReceive then ((livePart items).filterMap Visible.packet).filterMap cfg.inputOf
    else []
  ended : ¬ Live seen → items.filterMap Visible.input = []

section
variable {cfg : IoConnectionConfig} {callbacks : IoCallbacks} {flag : Nat} {seen : List Visible}

theorem livePart_append_of_live {earlier : List Visible} (live : Live earlier)
    (later : List Visible) : livePart (earlier ++ later) = earlier ++ livePart later :=
  List.takeWhile_append_of_pos fun item member => by rw [live item member]; rfl

theorem livePart_of_live {items : List Visible} (live : Live items) : livePart items = items := by
  have whole := livePart_append_of_live live []
  rwa [List.append_nil, show livePart [] = [] from rfl, List.append_nil] at whole

theorem livePart_append_of_ended {earlier : List Visible} (ended : ¬ Live earlier)
    (later : List Visible) : livePart (earlier ++ later) = livePart earlier := by
  induction earlier with
  | nil => exact absurd (List.forall_mem_nil _) ended
  | cons item rest inductionHypothesis =>
    rw [List.cons_append, livePart, livePart, List.takeWhile_cons, List.takeWhile_cons]
    cases ends : item.ends with
    | true => rfl
    | false =>
      have restEnds : ¬ Live rest := fun live => ended (List.forall_mem_cons.mpr ⟨ends, live⟩)
      exact congrArg (item :: ·) (inductionHypothesis restEnds)

theorem Delivers.append {earlier later : List Visible}
    (first : Delivers cfg callbacks seen earlier)
    (second : Delivers cfg callbacks (seen ++ earlier) later) :
    Delivers cfg callbacks seen (earlier ++ later) := by
  refine ⟨fun live => ?_, fun ended => ?_⟩
  · rw [List.filterMap_append, first.live live]
    by_cases lasting : Live earlier
    · rw [second.live (live_append.mpr ⟨live, lasting⟩), livePart_append_of_live lasting,
        livePart_of_live lasting, List.filterMap_append, List.filterMap_append]
      split <;> rfl
    · rw [second.ended fun all => lasting (live_append.mp all).2,
        livePart_append_of_ended lasting, List.append_nil]
  · rw [List.filterMap_append, first.ended ended,
      second.ended fun all => ended (live_append.mp all).1]
    rfl

/-- Where no packet arrives, no input is handed out. -/
theorem delivers_nothing {items : List Visible} (packets : items.filterMap Visible.packet = [])
    (inputs : items.filterMap Visible.input = []) : Delivers cfg callbacks seen items := by
  have none : (livePart items).filterMap Visible.packet = [] := by
    rw [List.filterMap_eq_nil_iff] at packets ⊢
    exact fun item member => packets item (List.takeWhile_subset _ member)
  refine ⟨fun _ => ?_, fun _ => inputs⟩
  rw [inputs, none, List.filterMap_nil]
  split <;> rfl

theorem packets_actions (actions : List Action) :
    (actions.map Visible.action).filterMap Visible.packet = [] := by
  rw [List.filterMap_map, List.filterMap_eq_nil_iff]
  exact fun _ _ => rfl

theorem inputs_actions (actions : List Action) :
    (actions.map Visible.action).filterMap Visible.input = actions.filterMap Action.input :=
  List.filterMap_map

/-- What one event hands out. -/
theorem delivers_step {slot : Slot} {event : SlotEvent}
    (tracks : Tracks cfg callbacks flag seen slot) (avoids : event.Avoids flag) :
    Delivers cfg callbacks seen (visibleItems flag event (slotTransducer.step slot event).2) := by
  by_cases live : Live seen
  · obtain ⟨running, entry, present, shows⟩ := tracks.live live
    simp only [slotTransducer, running, if_true]
    cases event with
    | command drained =>
      refine delivers_nothing ?_ ?_
      · rw [visibleItems, List.filterMap_append, packets_actions]
        rfl
      · rw [visibleItems, List.filterMap_append, inputs_actions,
          inputs_doneFor flag (inputs_drainCommand slot drained)]
        rfl
    | service now =>
      refine delivers_nothing ?_ ?_
      · rw [visibleItems, List.filterMap_append, packets_actions]
        rfl
      · rw [visibleItems, List.filterMap_append, inputs_actions,
          inputs_doneFor flag (inputs_service slot now)]
        rfl
    | datagram packet now =>
      obtain ⟨-, lasting, -⟩ := shows.receive live packet now
      refine ⟨fun _ => ?_, fun ended => absurd live ended⟩
      simp only [Slot.receive, present]
      have arrived : (Visible.datagram packet ::
          (entry.receive packet now).2.map Visible.action).filterMap Visible.packet = [packet] :=
        congrArg (packet :: ·) (packets_actions _)
      rw [shows.sameFlag, visibleItems, doneFor_own, SlotEvent.visible, List.singleton_append,
        livePart_of_live (live_append.mp lasting).2, arrived, List.filterMap_cons_none rfl,
        inputs_actions, shows.receive_actions]
      cases callbacks.onReceive with
      | false => rfl
      | true =>
        rw [if_pos rfl, if_pos rfl]
        cases carried : cfg.inputOf packet with
        | none =>
          rw [List.filterMap_cons_none carried]
          rfl
        | some input =>
          rw [List.filterMap_cons_some carried]
          rfl
  · obtain ⟨silent, -⟩ := foreign_step (tracks.ended live) avoids
    refine ⟨fun all => absurd all live, fun _ => ?_⟩
    rw [visibleItems, silent, List.map_nil, List.append_nil]
    cases event <;> rfl

/-! ### The end -/

/-- A connection whose flag the worker has closed has its close callback called next. -/
def closeAnswer (callbacks : IoCallbacks) : Visible → Option Visible
  | .action .closeFlag => if callbacks.onClose then some (.action .onClose) else none
  | _ => none

theorem closeAnswer_visible (event : SlotEvent) :
    ∀ item ∈ event.visible, closeAnswer callbacks item = none := by
  cases event with
  | command drained => exact List.forall_mem_singleton.mpr rfl
  | service now => exact List.forall_mem_nil _
  | datagram packet now => exact List.forall_mem_singleton.mpr rfl

theorem closeAnswer_actions {actions : List Action}
    (noClose : ∀ action ∈ actions, action ≠ .closeFlag) :
    ∀ item ∈ actions.map Visible.action, closeAnswer callbacks item = none := by
  intro item member
  obtain ⟨action, inside, rfl⟩ := List.mem_map.mp member
  cases action with
  | closeFlag => exact absurd rfl (noClose _ inside)
  | send destination bytes => rfl
  | onReceive input => rfl
  | onSend output => rfl
  | onClose => rfl

/-- Where there is an entry, a command does nothing for its flag. -/
theorem doneFor_drainCommand {slot : Slot} {entry : Entry} {drained : Command}
    (present : slot.entry = some entry) (avoids : ¬ drained.Adds flag) :
    doneFor flag (slot.drainCommand drained).2 = [] := by
  cases drained with
  | add conn callbacks added =>
    have differs : added ≠ flag := avoids
    simp only [Slot.drainCommand, present]
    exact doneFor_other differs [.closeFlag]
  | remove key => rfl
  | setOutput key data => rfl
  | setRun key run => rfl
  | shutdown => rfl

theorem answered_expired (entry : Entry) (same : entry.callbacks = callbacks) :
    Answered (closeAnswer callbacks) (entry.expired.map Visible.action) := by
  rw [Entry.expired, same]
  cases called : callbacks.onClose with
  | false =>
    refine Answered.of_silent (List.forall_mem_singleton.mpr ?_)
    rw [closeAnswer, called]
    rfl
  | true =>
    refine Answered.cons (fun wanted asked => ?_)
      (Answered.of_silent (List.forall_mem_singleton.mpr rfl))
    rw [closeAnswer, called] at asked
    exact asked

/-- A timeout closes the flag and calls the close callback; nothing else closes it. -/
theorem answered_step {slot : Slot} {event : SlotEvent}
    (tracks : Tracks cfg callbacks flag seen slot) (avoids : event.Avoids flag) :
    Answered (closeAnswer callbacks)
      (visibleItems flag event (slotTransducer.step slot event).2) := by
  have front := Answered.of_silent (@closeAnswer_visible callbacks event)
  by_cases live : Live seen
  · obtain ⟨running, entry, present, shows⟩ := tracks.live live
    simp only [slotTransducer, running, if_true]
    refine front.append ?_
    cases event with
    | command drained =>
      have nothing := doneFor_drainCommand present (avoids drained rfl)
      dsimp only
      rw [nothing]
      exact Answered.of_silent (List.forall_mem_nil _)
    | service now =>
      simp only [Slot.service, present]
      split
      · rw [shows.sameFlag, doneFor_own]
        exact answered_expired entry shows.sameCallbacks
      · split
        · rw [shows.sameFlag, doneFor_own]
          exact Answered.of_silent (closeAnswer_actions fun action member =>
            (Worker.mem_transmit member).1)
        · exact Answered.of_silent (List.forall_mem_nil _)
    | datagram packet now =>
      simp only [Slot.receive, present]
      rw [shows.sameFlag, doneFor_own]
      exact Answered.of_silent (closeAnswer_actions fun action member =>
        (Worker.mem_receive member).1)
  · obtain ⟨silent, -⟩ := foreign_step (tracks.ended live) avoids
    rw [visibleItems, silent, List.map_nil, List.append_nil]
    exact front

/-! ### Arrivals -/

def SlotEvent.packet : SlotEvent → Option ConnectedPacket
  | .datagram packet _ => some packet
  | _ => none

theorem packets_visibleItems (event : SlotEvent) (shown : SlotOutput) :
    (visibleItems flag event shown).filterMap Visible.packet = event.packet.toList := by
  rw [visibleItems, List.filterMap_append, packets_actions, List.append_nil]
  cases event <;> rfl

theorem packets_leaves (slot : Slot) (events : List SlotEvent) :
    (slotTransducer.leaves (visibleItems flag) slot events).filterMap Visible.packet =
      events.filterMap SlotEvent.packet := by
  induction events generalizing slot with
  | nil => rfl
  | cons event later inductionHypothesis =>
    rw [Transducer.leaves, List.filterMap_append, inductionHypothesis, packets_visibleItems]
    cases found : event.packet with
    | none => rw [List.filterMap_cons_none found, Option.toList_none, List.nil_append]
    | some packet => rw [List.filterMap_cons_some found, Option.toList_some, List.singleton_append]

/-- What arrives for a connection is a datagram under its key. -/
theorem arrival_eq (key : ConnectionKey) (event : WorkerEvent) :
    event.arrival key = (event.underKey key).bind SlotEvent.packet := by
  cases event with
  | command drained =>
    rw [WorkerEvent.underKey]
    cases drained.key with
    | none => rfl
    | some other =>
      dsimp only
      split <;> rfl
  | service preferred now => rfl
  | receive source datagram now =>
    cases decoded : decodeConnectedPacket (datagram.take rxBufSize) with
    | error refused => cases source <;> simp [WorkerEvent.underKey, WorkerEvent.arrival, decoded]
    | ok packet =>
      cases source with
      | v6 => simp [WorkerEvent.underKey, WorkerEvent.arrival, decoded]
      | v4 peerIp =>
        simp only [WorkerEvent.underKey, WorkerEvent.arrival, decoded]
        split <;> rfl

end

/-- What the worker does. -/
def Visible.done : Visible → Option Action
  | .action done => some done
  | _ => none

/-- What stands from the end of the connection on. -/
def endPart (seen : List Visible) : List Visible := seen.dropWhile fun item => !item.ends

section
variable {cfg : IoConnectionConfig} {callbacks : IoCallbacks} {trace : List Visible}

theorem eq_action_of_done {item : Visible} {action : Action} (does : item.done = some action) :
    item = .action action := by
  cases item with
  | action done => exact congrArg _ (Option.some.inj does)
  | command drained => exact absurd does (by simp [Visible.done])
  | datagram packet => exact absurd does (by simp [Visible.done])

/-- What ends a connection is a command, or the closing of its flag. -/
theorem done_of_ends {item : Visible} (ends : item.ends = true)
    (differs : item ≠ .action .closeFlag) : item.done = none := by
  cases item with
  | action done =>
    cases done with
    | closeFlag => exact absurd rfl differs
    | send destination bytes => exact absurd ends Bool.false_ne_true
    | onReceive input => exact absurd ends Bool.false_ne_true
    | onSend output => exact absurd ends Bool.false_ne_true
    | onClose => exact absurd ends Bool.false_ne_true
  | command drained => rfl
  | datagram packet => rfl

/-- Once a connection has ended, all that is permitted is to call its close callback right after
its flag was closed. -/
theorem permitted_of_ended {seen : List Visible} {action : Action} (ended : ¬ Live seen)
    (permitted : Permitted cfg callbacks seen (.action action)) :
    action = .onClose ∧ callbacks.onClose = true ∧
      seen.getLast? = some (.action .closeFlag) := by
  cases action with
  | send destination bytes => exact absurd permitted.1 ended
  | onReceive input => exact absurd permitted.1 ended
  | onSend output => exact absurd permitted.1 ended
  | closeFlag => exact absurd permitted ended
  | onClose => exact ⟨rfl, permitted⟩

theorem livePart_append_endPart : livePart trace ++ endPart trace = trace :=
  List.takeWhile_append_dropWhile

theorem live_livePart : Live (livePart trace) := fun item member => by
  have kept := List.mem_takeWhile_imp member
  rwa [Bool.not_eq_true'] at kept

theorem ends_of_endPart {item : Visible} {after : List Visible}
    (split : endPart trace = item :: after) : item.ends = true := by
  have first := List.head?_dropWhile_not (fun item : Visible => !item.ends) trace
  rw [show trace.dropWhile (fun item => !item.ends) = item :: after from split] at first
  change (!item.ends) = false at first
  rwa [Bool.not_eq_false'] at first

section
variable (orderly : Orderly (Permitted cfg callbacks) [] trace)
include orderly

/-- As long as the connection is there, its end is not announced. -/
theorem livePart_open :
    ∀ action ∈ (livePart trace).filterMap Visible.done,
      action ≠ .closeFlag ∧ action ≠ .onClose := by
  intro action member
  obtain ⟨item, inside, found⟩ := List.mem_filterMap.mp member
  obtain rfl := eq_action_of_done found
  have lasting := live_livePart _ inside
  refine ⟨?_, ?_⟩
  · rintro rfl
    exact absurd lasting (by simp [Visible.ends])
  · rintro rfl
    obtain ⟨before, after, split⟩ := List.append_of_mem inside
    have whole : trace = before ++ .action .onClose :: (after ++ endPart trace) := by
      rw [← List.cons_append, ← List.append_assoc, ← split, livePart_append_endPart]
    obtain ⟨-, closed⟩ := orderly.permitted_at whole
    rw [List.nil_append] at closed
    have earlier : .action .closeFlag ∈ livePart trace :=
      split ▸ List.mem_append_left _ (List.mem_of_getLast? closed)
    exact absurd (live_livePart _ earlier) (by simp [Visible.ends])

/-- What is done behind the end is to call the close callback, right after the flag was closed. -/
theorem done_behind_end {item other : Visible} {between after : List Visible}
    (split : endPart trace = item :: (between ++ other :: after)) {action : Action}
    (does : other.done = some action) :
    action = .onClose ∧ callbacks.onClose = true ∧ between = [] ∧ item = .action .closeFlag := by
  obtain rfl := eq_action_of_done does
  have ended : ∀ later, ¬ Live (livePart trace ++ item :: later) :=
    not_live_concat (ends_of_endPart split)
  have whole : trace = (livePart trace ++ item :: between) ++ .action action :: after := by
    rw [List.append_assoc, List.cons_append, ← split, livePart_append_endPart]
  have permitted := orderly.permitted_at whole
  rw [List.nil_append] at permitted
  obtain ⟨rfl, called, last⟩ := permitted_of_ended (ended between) permitted
  rcases List.eq_nil_or_concat' between with rfl | ⟨front, closed, rfl⟩
  · rw [List.getLast?_concat] at last
    exact ⟨rfl, called, rfl, Option.some.inj last⟩
  · rw [← List.cons_append, ← List.append_assoc, List.getLast?_concat] at last
    obtain rfl := Option.some.inj last
    have earlier : trace = (livePart trace ++ item :: front) ++
        .action .closeFlag :: .action .onClose :: after :=
      whole.trans (by simp only [List.append_assoc, List.cons_append, List.nil_append])
    have closing := orderly.permitted_at earlier
    rw [List.nil_append] at closing
    exact absurd closing (ended front)

theorem done_eq_nil {item : Visible} {after : List Visible} (split : endPart trace = item :: after)
    (other : item ≠ .action .closeFlag ∨ callbacks.onClose = false) :
    after.filterMap Visible.done = [] := by
  rw [List.filterMap_eq_nil_iff]
  intro done member
  by_contra does
  obtain ⟨action, does⟩ := Option.ne_none_iff_exists'.mp does
  obtain ⟨between, rest, rfl⟩ := List.append_of_mem member
  obtain ⟨-, called, -, closed⟩ := done_behind_end orderly split does
  rcases other with differs | uncalled
  · exact differs closed
  · exact absurd (called.symm.trans uncalled) Bool.noConfusion

theorem done_eq_nil_behind {item first : Visible} {rest : List Visible}
    (split : endPart trace = item :: first :: rest) : rest.filterMap Visible.done = [] := by
  rw [List.filterMap_eq_nil_iff]
  intro done member
  by_contra does
  obtain ⟨action, does⟩ := Option.ne_none_iff_exists'.mp does
  obtain ⟨between, after, rfl⟩ := List.append_of_mem member
  obtain ⟨-, -, none, -⟩ :=
    @done_behind_end cfg callbacks trace orderly item done (first :: between) after split action
      does
  exact absurd none (List.cons_ne_nil _ _)

/-- A connection that is found timed out has its flag closed, and its close callback called. -/
theorem done_of_timeout (answered : Answered (closeAnswer callbacks) trace)
    (closed : (endPart trace).head? = some (.action .closeFlag)) :
    (endPart trace).filterMap Visible.done =
      .closeFlag :: if callbacks.onClose then [.onClose] else [] := by
  obtain ⟨after, split⟩ := List.head?_eq_some_iff.mp closed
  rw [split]
  refine congrArg (Action.closeFlag :: ·) ?_
  cases called : callbacks.onClose with
  | false => exact done_eq_nil orderly split (Or.inr called)
  | true =>
    have whole : trace = livePart trace ++ .action .closeFlag :: after := by
      rw [← split, livePart_append_endPart]
    have next := answered _ _ _ whole (.action .onClose) (by rw [closeAnswer, called]; rfl)
    obtain ⟨rest, rfl⟩ := List.head?_eq_some_iff.mp next
    exact congrArg (Action.onClose :: ·) (done_eq_nil_behind orderly split)

/-- A connection that is removed or shut down has nothing done for it any more. -/
theorem done_of_removal (removed : (endPart trace).head? ≠ some (.action .closeFlag)) :
    (endPart trace).filterMap Visible.done = [] := by
  cases split : endPart trace with
  | nil => rfl
  | cons item after =>
    have differs : item ≠ .action .closeFlag := by
      rintro rfl
      exact removed (by rw [split]; rfl)
    rw [List.filterMap_cons_none (done_of_ends (ends_of_endPart split) differs)]
    exact done_eq_nil orderly split (Or.inl differs)

end

end

section
variable {worker : Worker} {cfg : IoConnectionConfig} {callbacks : IoCallbacks} {flag : Nat}
  (running : worker.running = true) (vacant : worker.connections.lookup cfg.key = none) (now : Nat)
  {events : List WorkerEvent} (avoids : ∀ event ∈ events, event.Avoids flag)
include running vacant avoids

/-- Of the datagrams that a device sends a connection while it is there, each that the connection
accepts is handed to the receive callback as what it carries, once and in the order of their
arrival; and nothing else is. -/
theorem delivers_inputs :
    let trace := (worker.added cfg callbacks flag now).trace cfg.key flag events
    trace.filterMap Visible.packet = events.filterMap (WorkerEvent.arrival cfg.key) ∧
      trace.filterMap Visible.input =
        if callbacks.onReceive then
          ((livePart trace).filterMap Visible.packet).filterMap cfg.inputOf
        else [] := by
  have delivers : Delivers cfg callbacks []
      ((worker.added cfg callbacks flag now).trace cfg.key flag events) :=
    trace_induction running vacant now avoids (fun seen => delivers_nothing rfl rfl)
      (fun _ _ _ => Delivers.append) fun _ _ _ => delivers_step
  refine ⟨?_, delivers.live (List.forall_mem_nil _)⟩
  rw [Worker.trace, Projection.leaves_observed, packets_leaves, List.filterMap_filterMap]
  exact List.filterMap_congr fun event _ => (arrival_eq cfg.key event).symm

/-- The end of a connection is quiet. As long as it is there, its flag is not closed by the worker
and its close callback is not called. After that the worker does nothing for it, unless it found
the connection timed out: then it closes the flag and calls the close callback, once. -/
theorem ends_quietly :
    let trace := (worker.added cfg callbacks flag now).trace cfg.key flag events
    (∀ action ∈ (livePart trace).filterMap Visible.done,
        action ≠ .closeFlag ∧ action ≠ .onClose) ∧
      ((endPart trace).head? = some (.action .closeFlag) →
        (endPart trace).filterMap Visible.done =
          .closeFlag :: if callbacks.onClose then [.onClose] else []) ∧
      ((endPart trace).head? ≠ some (.action .closeFlag) →
        (endPart trace).filterMap Visible.done = []) := by
  have orderly := @orderly_trace worker cfg callbacks flag running vacant now events avoids
  have answered : Answered (closeAnswer callbacks)
      ((worker.added cfg callbacks flag now).trace cfg.key flag events) :=
    @trace_induction worker cfg callbacks flag running vacant now events avoids
      (fun _ items => Answered (closeAnswer callbacks) items)
      (fun _ => Answered.of_silent (List.forall_mem_nil _)) (fun _ _ _ => Answered.append)
      fun _ _ _ => answered_step
  exact ⟨livePart_open orderly, done_of_timeout orderly answered, done_of_removal orderly⟩

end

/-- A datagram with one byte of data behind its headers, and one that is too short. -/
def twoDatagrams : List WorkerEvent :=
  [.receive (.v4 ⟨0x7F000001⟩)
      (encodeConnectedPacket [] 0x200 7 [putU16 5, putU32 1, [0xAA, 0xBB]]) 3,
    .receive (.v4 ⟨0x7F000001⟩) (encodeConnectedPacket [] 0x200 8 [[0xAA]]) 4]

theorem delivers_inputs_first :
    ((Worker.new.added IoConnection.mirroredConfig ⟨true, none, true⟩ 0 0).trace
      IoConnection.mirroredConfig.key 0 twoDatagrams).filterMap Visible.input =
        [⟨7, 5, 1, [0xAA, 0xBB]⟩] :=
  (@delivers_inputs Worker.new IoConnection.mirroredConfig ⟨true, none, true⟩ 0 rfl rfl 0
    twoDatagrams (by simp [twoDatagrams, WorkerEvent.Avoids])).2

theorem ends_quietly_late :
    (endPart ((Worker.new.added IoConnection.mirroredConfig ⟨true, none, true⟩ 0 0).trace
      IoConnection.mirroredConfig.key 0 [.service [] 40000000, .service [] 50000000])).filterMap
        Visible.done = [.closeFlag, .onClose] :=
  (@ends_quietly Worker.new IoConnection.mirroredConfig ⟨true, none, true⟩ 0 rfl rfl 0
    [.service [] 40000000, .service [] 50000000] (by simp [WorkerEvent.Avoids])).2.1 rfl

end EipScanner
