/-
This file says what can be seen of one connection from outside the I/O thread, over whole runs of
the worker: the commands that are drained for its key, the datagrams that its device sends it, and
what the worker does for it. What is seen makes up a trace.

The trace alone tells what the output, the run bit and the numbers of the connection are. So what
the worker may do next can be said without its state: a datagram that is sent carries the output
that was set last, as the send callback left it; an input that is handed out was carried by the
datagram before it; and once the connection has ended nothing is done for it but the one call that
says so. One invariant ties the worker's entry to the trace, and each result follows from it.
-/

import EipScanner.Trace
import EipScanner.Transition

namespace EipScanner

open Trace

/-! ### The trace -/

inductive Visible where
  | command (command : Command)
  | datagram (packet : ConnectedPacket)
  | action (action : Action)

/-- What is seen of an event before the worker does anything about it. -/
def SlotEvent.visible : SlotEvent → List Visible
  | .command drained => [.command drained]
  | .service _ => []
  | .datagram packet _ => [.datagram packet]

/-- What is done for the connection with a flag. -/
def doneFor (flag : Nat) (shown : SlotOutput) : List Action :=
  shown.filterMap fun output => if output.1 = flag then some output.2 else none

/-- What an event leaves in the trace of the connection with a flag. -/
def visibleItems (flag : Nat) (event : SlotEvent) (shown : SlotOutput) : List Visible :=
  event.visible ++ (doneFor flag shown).map Visible.action

/-- The trace of the connection with a flag under a key, over a run of the worker. -/
def Worker.trace (key : ConnectionKey) (flag : Nat) (worker : Worker) (events : List WorkerEvent) :
    List Visible :=
  workerTransducer.leaves ((slotProjection key).observed (visibleItems flag)) worker events

/-- The command adds a connection with the flag. -/
def Command.Adds (flag : Nat) : Command → Prop
  | .add _ _ added => added = flag
  | _ => False

/-- The event does not add another connection with the flag. -/
def SlotEvent.Avoids (flag : Nat) (event : SlotEvent) : Prop :=
  ∀ drained, event = .command drained → ¬ drained.Adds flag

def WorkerEvent.Avoids (flag : Nat) (event : WorkerEvent) : Prop :=
  ∀ drained, event = .command drained → ¬ drained.Adds flag

/-! ### What the trace tells -/

/-- What the callers and the callbacks have made of a connection so far: its output and run bit,
how many datagrams were sent, and what the callbacks were called with. -/
structure ProcessImage where
  output : Bytes
  run : Bool
  sent : Nat
  history : List Invocation

/-- A new connection sends zeroes, and runs. -/
def ProcessImage.new (cfg : IoConnectionConfig) : ProcessImage :=
  ⟨List.replicate cfg.o2tSize 0, true, 0, []⟩

/-- What one item of the trace makes of the image. -/
def ProcessImage.after (callbacks : IoCallbacks) (image : ProcessImage) : Visible → ProcessImage
  | .command (.setOutput _ data) => { image with output := data }
  | .command (.setRun _ run) => { image with run }
  | .action (.onSend output) =>
    callbacks.onSend.elim image fun edit =>
      { image with
        output := edit image.history output
        history := image.history ++ [.send output] }
  | .action (.onReceive input) => { image with history := image.history ++ [.receive input] }
  | .action (.send _ _) => { image with sent := image.sent + 1 }
  | _ => image

/-- The image that a trace leads to. -/
def imageAfter (cfg : IoConnectionConfig) (callbacks : IoCallbacks) (seen : List Visible) :
    ProcessImage :=
  seen.foldl (ProcessImage.after callbacks) (ProcessImage.new cfg)

/-- The datagram with a number that carries a run bit and an output. -/
def IoConnectionConfig.datagram (cfg : IoConnectionConfig) (number : Nat) (run : Bool)
    (output : Bytes) : Bytes :=
  encodeConnectedPacket [] cfg.o2tId (UInt32.ofNat number)
    [if cfg.hasSequenceCount then putU16 (UInt16.ofNat number) else [],
      if cfg.o2tRealTimeFormat then putU32 run.toUInt32 else [],
      output]

/-- What a packet carries for a connection, if it is one that the connection accepts. -/
def IoConnectionConfig.inputOf (cfg : IoConnectionConfig) (packet : ConnectedPacket) :
    Option InputData :=
  ((IoConnection.new cfg 0).onReceive packet 0).2

/-- The item ends the connection: it is removed, it timed out, or the thread shuts down. -/
def Visible.ends : Visible → Bool
  | .command (.remove _) => true
  | .command .shutdown => true
  | .action .closeFlag => true
  | _ => false

/-- The part of a trace in which the connection is there: what stands before its end. -/
def livePart (seen : List Visible) : List Visible := seen.takeWhile fun item => !item.ends

/-- The connection has not ended. -/
def Live (seen : List Visible) : Prop := ∀ item ∈ seen, item.ends = false

/-- What may be seen of a connection after what was seen of it. Only what the worker does is
bound to anything. -/
def Permitted (cfg : IoConnectionConfig) (callbacks : IoCallbacks) (seen : List Visible) :
    Visible → Prop
  | .action (.send destination bytes) =>
    let image := imageAfter cfg callbacks seen
    Live seen ∧ destination = cfg.destination ∧
      bytes = cfg.datagram (image.sent + 1) image.run image.output ∧
      (cfg.o2tFixed = true → image.output.length = cfg.o2tSize) ∧
      (callbacks.onSend.isSome = true → ∃ output, seen.getLast? = some (.action (.onSend output)))
  | .action (.onSend output) =>
    Live seen ∧ callbacks.onSend.isSome = true ∧ output = (imageAfter cfg callbacks seen).output
  | .action (.onReceive input) =>
    Live seen ∧ callbacks.onReceive = true ∧
      ∃ packet, seen.getLast? = some (.datagram packet) ∧ cfg.inputOf packet = some input
  | .action .closeFlag => Live seen
  | .action .onClose => callbacks.onClose = true ∧ seen.getLast? = some (.action .closeFlag)
  | _ => True

/-! ### The entry behind a trace -/

/-- An entry is what the image of its trace shows. -/
structure Shows (cfg : IoConnectionConfig) (callbacks : IoCallbacks) (flag : Nat)
    (image : ProcessImage) (entry : Entry) : Prop where
  sameFlag : entry.flag = flag
  sameCallbacks : entry.callbacks = callbacks
  sameCfg : entry.conn.cfg = cfg
  output : entry.conn.output = image.output
  run : entry.conn.run = image.run
  number : entry.conn.o2tSequenceNumber = UInt32.ofNat image.sent
  count : cfg.hasSequenceCount = true → entry.conn.sequenceCount = UInt16.ofNat image.sent
  history : entry.history = image.history

/-- As long as the connection has not ended, its entry is in the slot; from then on it is not. -/
structure Tracks (cfg : IoConnectionConfig) (callbacks : IoCallbacks) (flag : Nat)
    (seen : List Visible) (slot : Slot) : Prop where
  live : Live seen → slot.running = true ∧ ∃ entry, slot.entry = some entry ∧
    Shows cfg callbacks flag (imageAfter cfg callbacks seen) entry
  ended : ¬ Live seen → slot.running = true →
    ∀ entry, slot.entry = some entry → entry.flag ≠ flag

section
variable {cfg : IoConnectionConfig} {callbacks : IoCallbacks} {flag : Nat} {seen : List Visible}

theorem live_append {earlier later : List Visible} :
    Live (earlier ++ later) ↔ Live earlier ∧ Live later :=
  List.forall_mem_append

theorem live_single {item : Visible} : Live [item] ↔ item.ends = false :=
  List.forall_mem_singleton

theorem imageAfter_concat (earlier : List Visible) (item : Visible) :
    imageAfter cfg callbacks (earlier ++ [item]) =
      (imageAfter cfg callbacks earlier).after callbacks item :=
  List.foldl_concat _ _ _ _

theorem doneFor_own (actions : List Action) : doneFor flag (actions.map (flag, ·)) = actions := by
  simp only [doneFor, List.filterMap_map, Function.comp_def, if_true, List.filterMap_some]

theorem doneFor_other {other : Nat} (differs : other ≠ flag) (actions : List Action) :
    doneFor flag (actions.map (other, ·)) = [] := by
  simp only [doneFor, List.filterMap_map, Function.comp_def, if_neg differs,
    List.filterMap_eq_nil_iff, implies_true]

theorem visibleItems_silent (event : SlotEvent) : visibleItems flag event [] = event.visible :=
  List.append_nil _

/-- Anything is permitted to callers and devices. -/
theorem orderly_visible (event : SlotEvent) :
    Orderly (Permitted cfg callbacks) seen event.visible := by
  cases event with
  | command drained => exact Orderly.single trivial
  | service now => trivial
  | datagram packet now => exact Orderly.single trivial

/-! ### What the callbacks and the wire are given -/

theorem outputRefused_eq_false {conn : IoConnection} (accepted : conn.outputRefused = false)
    (fixed : conn.cfg.o2tFixed = true) : conn.output.length = conn.cfg.o2tSize := by
  rw [IoConnection.outputRefused, fixed, Bool.true_and, bne_eq_false_iff_eq] at accepted
  exact accepted

/-- The next packet of an entry, once it is counted, is the next datagram of its image. -/
theorem Shows.packet {image : ProcessImage} {entry : Entry}
    (shows : Shows cfg callbacks flag image entry) (nextSend : Nat) (warned : Bool)
    (txBuf : Bytes) :
    encodeConnectedPacket txBuf entry.conn.cfg.o2tId (entry.conn.o2tSequenceNumber + 1)
        { entry.conn with nextSend := nextSend, o2tSizeWarned := warned }.count.parts =
      cfg.datagram (image.sent + 1) image.run image.output := by
  have number : entry.conn.o2tSequenceNumber + 1 = UInt32.ofNat (image.sent + 1) := by
    rw [shows.number, UInt32.ofNat_add]
    rfl
  have count : (if cfg.hasSequenceCount then putU16 (if cfg.hasSequenceCount then
      entry.conn.sequenceCount + 1 else entry.conn.sequenceCount) else []) =
        if cfg.hasSequenceCount then putU16 (UInt16.ofNat (image.sent + 1)) else [] := by
    cases counted : cfg.hasSequenceCount with
    | false => rfl
    | true =>
      rw [if_pos rfl, if_pos rfl, if_pos rfl, shows.count counted, UInt16.ofNat_add]
      rfl
  simp only [IoConnectionConfig.datagram, encodeConnectedPacket, IoConnection.parts,
    IoConnection.count, IoConnection.runIdleHeader, shows.sameCfg, shows.output, shows.run, number,
    count]

/-- A packet that is built for an entry is the next datagram of its image. One that is refused
leaves the image as it is. -/
theorem Shows.buildPacket {image : ProcessImage} {entry : Entry}
    (shows : Shows cfg callbacks flag image entry) (now : Nat) (txBuf : Bytes) :
    ((entry.conn.buildPacket now txBuf).2.2 = false ∧
        Shows cfg callbacks flag image
          { entry with conn := (entry.conn.buildPacket now txBuf).1 }) ∨
      ((entry.conn.buildPacket now txBuf).2.2 = true ∧
        (cfg.o2tFixed = true → image.output.length = cfg.o2tSize) ∧
        (entry.conn.buildPacket now txBuf).2.1 =
          cfg.datagram (image.sent + 1) image.run image.output ∧
        Shows cfg callbacks flag { image with sent := image.sent + 1 }
          { entry with conn := (entry.conn.buildPacket now txBuf).1 }) := by
  cases refused : entry.conn.outputRefused with
  | true =>
    refine Or.inl ?_
    rw [entry.conn.buildPacket_of_refused now txBuf refused]
    exact ⟨rfl, shows.sameFlag, shows.sameCallbacks, shows.sameCfg, shows.output, shows.run,
      shows.number, shows.count, shows.history⟩
  | false =>
    refine Or.inr ?_
    rw [entry.conn.buildPacket_of_accepted now txBuf refused]
    refine ⟨rfl, fun fixed => ?_, shows.packet _ _ txBuf, shows.sameFlag, shows.sameCallbacks,
      shows.sameCfg, shows.output, shows.run, ?_, fun counted => ?_, shows.history⟩
    · rw [← shows.output, ← shows.sameCfg]
      exact outputRefused_eq_false refused (shows.sameCfg ▸ fixed)
    · change entry.conn.o2tSequenceNumber + 1 = _
      rw [shows.number, UInt32.ofNat_add]
      rfl
    · change (if entry.conn.cfg.hasSequenceCount then _ else _) = _
      rw [shows.sameCfg, if_pos counted]
      change entry.conn.sequenceCount + 1 = _
      rw [shows.count counted, UInt16.ofNat_add]
      rfl

/-- The send callback is handed the output of the image, and is called exactly if there is one. -/
theorem Shows.callOnSend {entry : Entry} (live : Live seen)
    (shows : Shows cfg callbacks flag (imageAfter cfg callbacks seen) entry) :
    let called := entry.callOnSend.2.map Visible.action
    Orderly (Permitted cfg callbacks) seen called ∧ Live (seen ++ called) ∧
      Shows cfg callbacks flag (imageAfter cfg callbacks (seen ++ called)) entry.callOnSend.1 ∧
      (callbacks.onSend.isSome = true →
        ∃ output, (seen ++ called).getLast? = some (.action (.onSend output))) := by
  have same := shows.sameCallbacks
  cases handler : callbacks.onSend with
  | none =>
    simp only [Entry.callOnSend, same, handler, List.map_nil, List.append_nil]
    exact ⟨trivial, live, shows, fun absent => absurd absent Bool.false_ne_true⟩
  | some edit =>
    simp only [Entry.callOnSend, same, handler, List.map_cons, List.map_nil, shows.output]
    refine ⟨Orderly.single ⟨live, by rw [handler]; rfl, rfl⟩,
      live_append.mpr ⟨live, live_single.mpr rfl⟩, ?_,
      fun _ => ⟨_, List.getLast?_concat⟩⟩
    rw [imageAfter_concat, ProcessImage.after, handler]
    exact ⟨shows.sameFlag, rfl, shows.sameCfg, congrArg (edit · _) shows.history, shows.run,
      shows.number, shows.count, congrArg (· ++ [_]) shows.history⟩

/-- A due entry calls its send callback and sends the datagram of what that leaves. -/
theorem Shows.transmit {entry : Entry} (live : Live seen)
    (shows : Shows cfg callbacks flag (imageAfter cfg callbacks seen) entry) (now : Nat)
    (txBuf : Bytes) :
    let done := (entry.transmit now txBuf).2.2.map Visible.action
    Orderly (Permitted cfg callbacks) seen done ∧ Live (seen ++ done) ∧
      Shows cfg callbacks flag (imageAfter cfg callbacks (seen ++ done))
        (entry.transmit now txBuf).1 := by
  obtain ⟨orderly, liveCalled, showsCalled, handed⟩ := shows.callOnSend live
  simp only [Entry.transmit, List.map_append]
  rcases showsCalled.buildPacket now txBuf with ⟨unbuilt, after⟩ | ⟨built, fits, packet, after⟩
  · rw [unbuilt, if_neg Bool.false_ne_true, List.map_nil, List.append_nil]
    exact ⟨orderly, liveCalled, after⟩
  · rw [built, if_pos rfl, List.map_cons, List.map_nil, ← List.append_assoc]
    have destination : (entry.callOnSend.1.conn.buildPacket now txBuf).1.cfg.destination =
        cfg.destination := by
      rw [IoConnection.buildPacket_cfg, showsCalled.sameCfg]
    refine ⟨orderly.append (Orderly.single ⟨liveCalled, destination, packet, fits, handed⟩),
      live_append.mpr ⟨liveCalled, live_single.mpr rfl⟩, ?_⟩
    rw [imageAfter_concat]
    exact after

/-! ### What a datagram brings -/

/-- What a packet carries depends on the settings of the connection only: the two headers are read
one after the other, and the rest has the right size. -/
theorem onReceive_snd (conn : IoConnection) (packet : ConnectedPacket) (now : Nat) :
    (conn.onReceive packet now).2 =
      (IoConnection.readIf conn.cfg.hasSequenceCount 0 tryGetU16 packet.data).bind fun counted =>
        (IoConnection.readIf conn.cfg.t2oRealTimeFormat 0 tryGetU32 counted.2).bind fun headed =>
          if conn.cfg.t2oFixed && headed.2.length != conn.cfg.t2oSize then none
          else some ⟨packet.sequenceNumber, counted.1, headed.1, headed.2⟩ := by
  unfold IoConnection.onReceive
  cases IoConnection.readIf conn.cfg.hasSequenceCount 0 tryGetU16 packet.data with
  | none => rfl
  | some counted =>
    dsimp only [Option.bind_some]
    cases IoConnection.readIf conn.cfg.t2oRealTimeFormat 0 tryGetU32 counted.2 with
    | none => rfl
    | some headed =>
      dsimp only [Option.bind_some]
      split <;> rfl

theorem inputOf_eq (conn : IoConnection) (packet : ConnectedPacket) (now : Nat) :
    (conn.onReceive packet now).2 = conn.cfg.inputOf packet :=
  (onReceive_snd conn packet now).trans (onReceive_snd (IoConnection.new conn.cfg 0) packet 0).symm

/-- An arrival changes nothing of what an entry shows. -/
theorem Shows.onReceive {image : ProcessImage} {entry : Entry}
    (shows : Shows cfg callbacks flag image entry) (packet : ConnectedPacket) (now : Nat) :
    Shows cfg callbacks flag image { entry with conn := (entry.conn.onReceive packet now).1 } := by
  obtain ⟨lastReceive, warned, same⟩ := entry.conn.onReceive_fst now packet
  rw [same]
  exact ⟨shows.sameFlag, shows.sameCallbacks, shows.sameCfg, shows.output, shows.run,
    shows.number, shows.count, shows.history⟩

/-- What an entry does about a datagram: it hands out what the packet carries, if it accepts the
packet and there is a callback. -/
theorem Shows.receive_actions {image : ProcessImage} {entry : Entry}
    (shows : Shows cfg callbacks flag image entry) (packet : ConnectedPacket) (now : Nat) :
    (entry.receive packet now).2 =
      if callbacks.onReceive then ((cfg.inputOf packet).map Action.onReceive).toList else [] := by
  have carried := inputOf_eq entry.conn packet now
  rw [shows.sameCfg] at carried
  rw [← carried]
  unfold Entry.receive
  split
  next received =>
    rw [received]
    cases callbacks.onReceive <;> rfl
  next received =>
    rw [received, shows.sameCallbacks]
    cases callbacks.onReceive <;> rfl

theorem Shows.receive {entry : Entry} (live : Live seen)
    (shows : Shows cfg callbacks flag (imageAfter cfg callbacks seen) entry)
    (packet : ConnectedPacket) (now : Nat) :
    let done := .datagram packet :: (entry.receive packet now).2.map Visible.action
    Orderly (Permitted cfg callbacks) seen done ∧ Live (seen ++ done) ∧
      Shows cfg callbacks flag (imageAfter cfg callbacks (seen ++ done))
        (entry.receive packet now).1 := by
  have arrived : Live (seen ++ [.datagram packet]) := live_append.mpr ⟨live, live_single.mpr rfl⟩
  have image : imageAfter cfg callbacks (seen ++ [.datagram packet]) =
      imageAfter cfg callbacks seen := imageAfter_concat seen _
  have changed := shows.onReceive packet now
  have carried := inputOf_eq entry.conn packet now
  rw [shows.sameCfg] at carried
  have silent : Orderly (Permitted cfg callbacks) seen [.datagram packet] := Orderly.single trivial
  unfold Entry.receive
  split
  next conn received =>
    rw [received] at changed
    exact ⟨silent, arrived, image ▸ changed⟩
  next conn input received =>
    rw [received] at changed carried
    have handler := congrArg IoCallbacks.onReceive shows.sameCallbacks
    cases called : callbacks.onReceive with
    | false =>
      rw [handler, called, if_neg Bool.false_ne_true]
      exact ⟨silent, arrived, image ▸ changed⟩
    | true =>
      rw [handler, called, if_pos rfl]
      have permitted : Permitted cfg callbacks (seen ++ [.datagram packet])
          (.action (.onReceive input)) :=
        ⟨arrived, called, packet, List.getLast?_concat, carried.symm⟩
      refine ⟨silent.append (Orderly.single permitted), ?_, ?_⟩
      · rw [List.append_cons]
        exact live_append.mpr ⟨arrived, live_single.mpr rfl⟩
      · rw [List.append_cons, List.map_cons, List.map_nil, imageAfter_concat, image]
        exact ⟨changed.sameFlag, changed.sameCallbacks, changed.sameCfg, changed.output,
          changed.run,
          changed.number, changed.count, congrArg (· ++ [Invocation.receive input]) shows.history⟩

/-! ### One event -/

theorem tracks_of_live {slot : Slot} {entry : Entry} (running : slot.running = true)
    (live : Live seen) (present : slot.entry = some entry)
    (shows : Shows cfg callbacks flag (imageAfter cfg callbacks seen) entry) :
    Tracks cfg callbacks flag seen slot :=
  ⟨fun _ => ⟨running, entry, present, shows⟩, fun ended => absurd live ended⟩

theorem tracks_of_ended {slot : Slot} (ended : ¬ Live seen)
    (gone : slot.running = true → ∀ entry, slot.entry = some entry → entry.flag ≠ flag) :
    Tracks cfg callbacks flag seen slot :=
  ⟨fun live => absurd live ended, fun _ => gone⟩

/-- A connection that ends is not live from then on. -/
theorem not_live_concat {item : Visible} (ends : item.ends = true) (later : List Visible) :
    ¬ Live (seen ++ item :: later) := fun live =>
  absurd ((live item (List.mem_append_right _ List.mem_cons_self)).symm.trans ends)
    Bool.false_ne_true

/-- The connection in a slot, if the worker runs and the slot has one, is another one. -/
def Slot.Foreign (flag : Nat) (slot : Slot) : Prop :=
  slot.running = true → ∀ entry, slot.entry = some entry → entry.flag ≠ flag

/-- A step does nothing for a flag, and leaves a slot whose connection is another one. -/
def StaysForeign (flag : Nat) (outcome : Slot × SlotOutput) : Prop :=
  doneFor flag outcome.2 = [] ∧ outcome.1.Foreign flag

section
variable {slot : Slot} (foreign : slot.Foreign flag)
include foreign

theorem foreign_same : StaysForeign flag (slot, []) := ⟨rfl, foreign⟩

theorem foreign_change {change : Entry → Entry} (kept : ∀ entry, (change entry).flag = entry.flag) :
    StaysForeign flag ({ slot with entry := slot.entry.map change }, []) := by
  refine ⟨rfl, fun running entry changed => ?_⟩
  obtain ⟨before, present, rfl⟩ := Option.map_eq_some_iff.mp changed
  rw [kept]
  exact foreign running before present

theorem foreign_drainCommand {drained : Command} (avoids : ¬ drained.Adds flag) :
    StaysForeign flag (slot.drainCommand drained) := by
  cases drained with
  | add conn callbacks added =>
    have differs : added ≠ flag := avoids
    cases present : slot.entry with
    | none =>
      simp only [Slot.drainCommand, present]
      refine ⟨rfl, fun _ entry same => ?_⟩
      obtain rfl := Option.some.inj same
      exact differs
    | some before =>
      have step : slot.drainCommand (.add conn callbacks added) =
          (slot, [(added, .closeFlag)]) := by
        simp only [Slot.drainCommand, present]
      rw [step]
      exact ⟨doneFor_other differs [.closeFlag], foreign⟩
  | remove key => exact ⟨rfl, fun _ entry same => absurd same (by simp [Slot.drainCommand])⟩
  | setOutput key data => exact foreign_change foreign fun _ => rfl
  | setRun key run => exact foreign_change foreign fun _ => rfl
  | shutdown => exact ⟨rfl, fun still => absurd still Bool.false_ne_true⟩

theorem foreign_service (running : slot.running = true) (now : Nat) :
    StaysForeign flag (slot.service now) := by
  unfold Slot.service
  split
  · exact foreign_same foreign
  next before present =>
    have differs := foreign running before present
    split
    · exact ⟨doneFor_other differs _, fun _ entry same => absurd same (by simp)⟩
    · split
      · refine ⟨doneFor_other differs _, fun _ entry same => ?_⟩
        obtain rfl := Option.some.inj same
        rwa [Worker.flag_transmit]
      · exact foreign_same foreign

theorem foreign_receive (running : slot.running = true) (packet : ConnectedPacket) (now : Nat) :
    StaysForeign flag (slot.receive packet now) := by
  unfold Slot.receive
  split
  · exact foreign_same foreign
  next before present =>
    have differs := foreign running before present
    refine ⟨doneFor_other differs _, fun _ entry same => ?_⟩
    obtain rfl := Option.some.inj same
    rwa [Worker.flag_receive]

theorem foreign_step {event : SlotEvent} (avoids : event.Avoids flag) :
    StaysForeign flag (slotTransducer.step slot event) := by
  cases running : slot.running with
  | false =>
    simp only [slotTransducer, running, Bool.false_eq_true, if_false]
    exact foreign_same foreign
  | true =>
    simp only [slotTransducer, running, if_true]
    cases event with
    | command drained => exact foreign_drainCommand foreign (avoids drained rfl)
    | service now => exact foreign_service foreign running now
    | datagram packet now => exact foreign_receive foreign running packet now

end

/-- What a step leaves in the trace is permitted, and the trace goes on to track the slot. -/
def KeepsTrack (cfg : IoConnectionConfig) (callbacks : IoCallbacks) (flag : Nat)
    (seen : List Visible) (event : SlotEvent) (outcome : Slot × SlotOutput) : Prop :=
  Orderly (Permitted cfg callbacks) seen (visibleItems flag event outcome.2) ∧
    Tracks cfg callbacks flag (seen ++ visibleItems flag event outcome.2) outcome.1

/-- A command that changes the entry as the image changes. -/
theorem keepsTrack_change {slot : Slot} {entry : Entry} {drained : Command}
    {change : Entry → Entry} (running : slot.running = true) (live : Live seen)
    (present : slot.entry = some entry) (lasts : (Visible.command drained).ends = false)
    (shows : Shows cfg callbacks flag
      ((imageAfter cfg callbacks seen).after callbacks (.command drained)) (change entry)) :
    KeepsTrack cfg callbacks flag seen (.command drained)
      ({ slot with entry := slot.entry.map change }, []) := by
  rw [KeepsTrack, visibleItems_silent, SlotEvent.visible]
  refine ⟨Orderly.single trivial, tracks_of_live running
    (live_append.mpr ⟨live, live_single.mpr lasts⟩) (congrArg (Option.map change) present) ?_⟩
  rw [imageAfter_concat]
  exact shows

/-- An entry that timed out has its flag closed, and its close callback called after that. -/
theorem keepsTrack_expired {slot : Slot} {entry : Entry} (live : Live seen)
    (shows : Shows cfg callbacks flag (imageAfter cfg callbacks seen) entry) (now : Nat) :
    KeepsTrack cfg callbacks flag seen (.service now)
      ({ slot with entry := none }, entry.expired.map (entry.flag, ·)) := by
  have items : visibleItems flag (.service now) (entry.expired.map (entry.flag, ·)) =
      entry.expired.map Visible.action := by
    rw [shows.sameFlag, visibleItems, doneFor_own]
    rfl
  have gone : Slot.Foreign flag { slot with entry := none } := fun _ entry same =>
    absurd same (by simp)
  rw [KeepsTrack, items, Entry.expired, shows.sameCallbacks]
  refine ⟨?_, tracks_of_ended (not_live_concat rfl _) gone⟩
  have closes : Permitted cfg callbacks seen (.action .closeFlag) := live
  cases called : callbacks.onClose with
  | false => exact Orderly.single closes
  | true => exact ⟨closes, ⟨called, List.getLast?_concat⟩, trivial⟩

section
variable {slot : Slot} {entry : Entry} (running : slot.running = true) (live : Live seen)
  (present : slot.entry = some entry)
  (shows : Shows cfg callbacks flag (imageAfter cfg callbacks seen) entry)
include running live present shows

theorem keepsTrack_drainCommand {drained : Command} (avoids : ¬ drained.Adds flag) :
    KeepsTrack cfg callbacks flag seen (.command drained) (slot.drainCommand drained) := by
  have orderly : Orderly (Permitted cfg callbacks) seen [.command drained] :=
    Orderly.single trivial
  cases drained with
  | add conn others added =>
    have differs : added ≠ flag := avoids
    have nothing : visibleItems flag (.command (.add conn others added)) [(added, .closeFlag)] =
        [.command (.add conn others added)] :=
      congrArg (_ ++ List.map Visible.action ·) (doneFor_other differs [.closeFlag])
    have step : slot.drainCommand (.add conn others added) = (slot, [(added, .closeFlag)]) := by
      simp only [Slot.drainCommand, present]
    rw [KeepsTrack, step, nothing]
    refine ⟨orderly, tracks_of_live running (live_append.mpr ⟨live, live_single.mpr rfl⟩) present
      ?_⟩
    rw [imageAfter_concat]
    exact shows
  | remove key => exact ⟨orderly, tracks_of_ended (not_live_concat rfl []) fun _ entry same =>
      absurd same (by simp [Slot.drainCommand])⟩
  | setOutput key data =>
    exact keepsTrack_change running live present rfl ⟨shows.sameFlag, shows.sameCallbacks,
      shows.sameCfg, rfl, shows.run, shows.number, shows.count, shows.history⟩
  | setRun key run =>
    exact keepsTrack_change running live present rfl ⟨shows.sameFlag, shows.sameCallbacks,
      shows.sameCfg, shows.output, rfl, shows.number, shows.count, shows.history⟩
  | shutdown => exact ⟨orderly, tracks_of_ended (not_live_concat rfl []) fun still =>
      absurd still Bool.false_ne_true⟩

theorem keepsTrack_service (now : Nat) :
    KeepsTrack cfg callbacks flag seen (.service now) (slot.service now) := by
  cases late : entry.conn.isTimedOut now with
  | true =>
    simp only [Slot.service, present, late, if_true]
    exact keepsTrack_expired live shows now
  | false =>
    cases due : entry.conn.isSendDue now with
    | true =>
      obtain ⟨orderly, liveAfter, showsAfter⟩ := shows.transmit live now []
      simp only [Slot.service, present, late, due, Bool.false_eq_true, if_false, if_true]
      rw [KeepsTrack, shows.sameFlag, visibleItems, doneFor_own]
      exact ⟨orderly, tracks_of_live running liveAfter rfl showsAfter⟩
    | false =>
      have step : slot.service now = (slot, []) := by
        simp only [Slot.service, present, late, due, Bool.false_eq_true, if_false]
      rw [KeepsTrack, step, visibleItems_silent, SlotEvent.visible, List.append_nil]
      exact ⟨trivial, tracks_of_live running live present shows⟩

theorem keepsTrack_receive (packet : ConnectedPacket) (now : Nat) :
    KeepsTrack cfg callbacks flag seen (.datagram packet now) (slot.receive packet now) := by
  obtain ⟨orderly, liveAfter, showsAfter⟩ := shows.receive live packet now
  simp only [Slot.receive, present]
  rw [KeepsTrack, shows.sameFlag, visibleItems, doneFor_own]
  exact ⟨orderly, tracks_of_live running liveAfter rfl showsAfter⟩

end

theorem keepsTrack_step {slot : Slot} {event : SlotEvent}
    (tracks : Tracks cfg callbacks flag seen slot) (avoids : event.Avoids flag) :
    KeepsTrack cfg callbacks flag seen event (slotTransducer.step slot event) := by
  by_cases live : Live seen
  · obtain ⟨running, entry, present, shows⟩ := tracks.live live
    simp only [slotTransducer, running, if_true]
    cases event with
    | command drained =>
      exact keepsTrack_drainCommand running live present shows (avoids drained rfl)
    | service now => exact keepsTrack_service running live present shows now
    | datagram packet now => exact keepsTrack_receive running live present shows packet now
  · obtain ⟨silent, foreign⟩ := foreign_step (tracks.ended live) avoids
    rw [KeepsTrack, visibleItems, silent, List.map_nil, List.append_nil]
    exact ⟨orderly_visible event, tracks_of_ended (fun all => live (live_append.mp all).1) foreign⟩

/-! ### Runs of the worker -/

end

/-- The worker once it has drained the command that adds a new connection. -/
def Worker.added (worker : Worker) (cfg : IoConnectionConfig) (callbacks : IoCallbacks)
    (flag now : Nat) : Worker :=
  (worker.drainCommand (.add (IoConnection.new cfg now) callbacks flag)).1

section
variable {worker : Worker} {cfg : IoConnectionConfig} {callbacks : IoCallbacks} {flag : Nat}

theorem tracks_added (running : worker.running = true)
    (vacant : worker.connections.lookup cfg.key = none) (now : Nat) :
    Tracks cfg callbacks flag [] ((worker.added cfg callbacks flag now).slot cfg.key) := by
  have inside : ((worker.added cfg callbacks flag now).slot cfg.key) =
      ⟨true, some ⟨IoConnection.new cfg now, callbacks, flag, []⟩⟩ := by
    unfold Worker.added Worker.drainCommand
    dsimp only
    rw [show (IoConnection.new cfg now).cfg.key = cfg.key from rfl, vacant]
    dsimp only
    rw [Worker.slot_insert_self cfg.key worker _ worker.txBuf, Worker.slot, running]
  rw [inside]
  exact tracks_of_live rfl (List.forall_mem_nil _) rfl
    ⟨rfl, rfl, rfl, rfl, rfl, rfl, fun _ => rfl, rfl⟩

theorem avoids_underKey {key : ConnectionKey} {event : WorkerEvent} (avoids : event.Avoids flag)
    {kept : SlotEvent} (found : event.underKey key = some kept) : kept.Avoids flag := by
  rintro drained rfl
  cases event with
  | command command =>
    obtain ⟨-, same⟩ := underKey_command found
    obtain rfl := SlotEvent.command.inj same
    exact avoids _ rfl
  | service preferred now => exact absurd found (by simp [WorkerEvent.underKey])
  | receive source datagram now =>
    obtain ⟨_, _, _, _, _, same⟩ := underKey_receive found
    exact absurd same (by simp)

theorem avoids_filterMap {key : ConnectionKey} {events : List WorkerEvent}
    (avoids : ∀ event ∈ events, event.Avoids flag) :
    ∀ kept ∈ events.filterMap (WorkerEvent.underKey key), kept.Avoids flag := by
  intro kept member
  obtain ⟨event, inside, found⟩ := List.mem_filterMap.mp member
  exact avoids_underKey (avoids event inside) found

/-- What every event leaves in a trace that tracks the slot, the whole trace leaves. -/
theorem trace_induction (running : worker.running = true)
    (vacant : worker.connections.lookup cfg.key = none) (now : Nat) {events : List WorkerEvent}
    (avoids : ∀ event ∈ events, event.Avoids flag) {kept : List Visible → List Visible → Prop}
    (nothing : ∀ seen, kept seen [])
    (join : ∀ seen earlier later, kept seen earlier → kept (seen ++ earlier) later →
      kept seen (earlier ++ later))
    (each : ∀ seen slot event, Tracks cfg callbacks flag seen slot → event.Avoids flag →
      kept seen (visibleItems flag event (slotTransducer.step slot event).2)) :
    kept [] ((worker.added cfg callbacks flag now).trace cfg.key flag events) := by
  rw [Worker.trace, Projection.leaves_observed]
  exact (Transducer.leaves_induction nothing join
    (fun seen slot event tracks free => ⟨each seen slot event tracks free,
      (keepsTrack_step tracks free).2⟩)
    (tracks_added running vacant now) (avoids_filterMap avoids)).1

/-- Whatever the worker is given, all it does for a connection is permitted. -/
theorem orderly_trace (running : worker.running = true)
    (vacant : worker.connections.lookup cfg.key = none) (now : Nat) {events : List WorkerEvent}
    (avoids : ∀ event ∈ events, event.Avoids flag) :
    Orderly (Permitted cfg callbacks) []
      ((worker.added cfg callbacks flag now).trace cfg.key flag events) :=
  trace_induction running vacant now avoids (fun _ => trivial) (fun _ _ _ => Orderly.append)
    fun _ _ _ tracks free => (keepsTrack_step tracks free).1

end

end EipScanner
