/-
This file is about the datagrams that the worker sends for a connection. Which number, run bit and
output the next one carries can be told from the trace: the number from how many were handed to the
socket, the run bit and the output from what was set last. A send callback edits the output that it
is handed, and what it leaves is sent and kept. A datagram that the socket fails to send has taken
its number like any other.

So what a caller sets is what a device reads, whatever else the worker does in between.
-/

import EipScanner.Visible

namespace EipScanner

open Trace

/-! ### What is sent -/

/-- The output that an item sets. -/
def Visible.outputSet : Visible → Option Bytes
  | .command (.setOutput _ data) => some data
  | _ => none

/-- The run bit that an item sets. -/
def Visible.runSet : Visible → Option Bool
  | .command (.setRun _ run) => some run
  | _ => none

/-- The item is a datagram that the worker hands to the socket. -/
def Visible.isSend : Visible → Bool
  | .action (.send _ _) => true
  | _ => false

section
variable (cfg : IoConnectionConfig) (callbacks : IoCallbacks) (seen : List Visible)

theorem after_onSend (image : ProcessImage) (output : Bytes) :
    (image.after callbacks (.action (.onSend output))).run = image.run ∧
      (image.after callbacks (.action (.onSend output))).sent = image.sent := by
  rw [ProcessImage.after]
  cases callbacks.onSend <;> exact ⟨rfl, rfl⟩

/-- The datagrams are counted. -/
theorem imageAfter_sent : (imageAfter cfg callbacks seen).sent = seen.countP Visible.isSend := by
  induction seen using List.reverseRecOn with
  | nil => rfl
  | append_singleton earlier item inductionHypothesis =>
    rw [imageAfter_concat, List.countP_append, ← inductionHypothesis]
    cases item with
    | command drained => cases drained <;> rfl
    | datagram packet => rfl
    | action action =>
      cases action with
      | onSend output => exact (after_onSend callbacks _ output).2
      | send destination bytes => rfl
      | onReceive input => rfl
      | onClose => rfl
      | closeFlag => rfl

/-- The run bit is the one that was set last. -/
theorem imageAfter_run :
    (imageAfter cfg callbacks seen).run = ((seen.filterMap Visible.runSet).getLast?).getD true := by
  refine @foldl_eq_last_set _ _ _ _ ProcessImage.run _ (fun image item => ?_)
    (ProcessImage.new cfg) seen
  cases item with
  | command drained => cases drained <;> rfl
  | datagram packet => rfl
  | action action =>
    cases action with
    | onSend output => exact (after_onSend callbacks image output).1
    | send destination bytes => rfl
    | onReceive input => rfl
    | onClose => rfl
    | closeFlag => rfl

variable {callbacks} in
/-- The output is the one that was set last, unless a callback edits it. -/
theorem imageAfter_output (unedited : callbacks.onSend = none) :
    (imageAfter cfg callbacks seen).output =
      ((seen.filterMap Visible.outputSet).getLast?).getD (List.replicate cfg.o2tSize 0) := by
  refine @foldl_eq_last_set _ _ _ _ ProcessImage.output _ (fun image item => ?_)
    (ProcessImage.new cfg) seen
  cases item with
  | command drained => cases drained <;> rfl
  | datagram packet => rfl
  | action action =>
    cases action with
    | onSend output =>
      rw [ProcessImage.after, unedited]
      rfl
    | send destination bytes => rfl
    | onReceive input => rfl
    | onClose => rfl
    | closeFlag => rfl

end

/-- What a device whose receiving settings mirror the sending settings reads from the datagram with
a number. -/
theorem inputOf_datagram {cfg receiver : IoConnectionConfig}
    (mirrors : IoConnection.Mirrors cfg receiver) (number : Nat) (run : Bool) {output : Bytes}
    (fixed : cfg.o2tFixed = true → output.length = cfg.o2tSize)
    (fits : (connectedData (cfg.datagram number run output)).length ≤ 65535) :
    ∃ packet, decodeConnectedPacket (cfg.datagram number run output) = .ok packet ∧
      packet.connectionId = cfg.o2tId ∧
      receiver.inputOf packet = some {
        sequenceNumber := UInt32.ofNat number
        sequenceCount := if cfg.hasSequenceCount then UInt16.ofNat number else 0
        runIdleHeader := if cfg.o2tRealTimeFormat then run.toUInt32 else 0
        data := output } := by
  have short : [if cfg.hasSequenceCount then putU16 (UInt16.ofNat number) else [],
      if cfg.o2tRealTimeFormat then putU32 run.toUInt32 else [], output].flatten.length <
        2 ^ 16 := by
    rw [IoConnectionConfig.datagram, connectedData_encode] at fits
    exact Nat.lt_succ_of_le fits
  refine ⟨_, decode_encodeConnectedPacket [] cfg.o2tId (UInt32.ofNat number) short, rfl, ?_⟩
  have accepted : ({ IoConnection.new cfg 0 with output := output } : IoConnection).outputRefused =
      false := by
    cases sized : cfg.o2tFixed with
    | false => exact Bool.and_eq_false_iff.mpr (Or.inl sized)
    | true => exact Bool.and_eq_false_iff.mpr (Or.inr (bne_eq_false_iff_eq.mpr (fixed sized)))
  exact congrArg Prod.snd (@IoConnection.onReceive_parts 0
    { IoConnection.new cfg 0 with
      output := output, run := run, o2tSequenceNumber := UInt32.ofNat number
      sequenceCount := UInt16.ofNat number }
    (IoConnection.new receiver 0) mirrors accepted cfg.o2tId)

section
variable {worker : Worker} {cfg : IoConnectionConfig} {callbacks : IoCallbacks} {flag : Nat}
  (running : worker.running = true) (vacant : worker.connections.lookup cfg.key = none) (now : Nat)
  {events : List WorkerEvent} (avoids : ∀ event ∈ events, event.Avoids flag)
include running vacant avoids

/-- What is sent is what was set. In every run of the worker, whatever else it serves, each datagram
that it hands to the socket for a connection goes to the connection's destination, carries the
number after those handed over before and the run bit that was set last, and as its output what was
set last, or what the send callback made of that just before. A fixed size is the size of this
output. A device with mirrored settings reads exactly this from a datagram whose length fits. -/
theorem sends_last_output {before after : List Visible} {destination : SocketAddrV4}
    {bytes : Bytes} (split : (worker.added cfg callbacks flag now).trace cfg.key flag events =
      before ++ .action (.send destination bytes) :: after) :
    let number := before.countP Visible.isSend + 1
    let run := ((before.filterMap Visible.runSet).getLast?).getD true
    let output := (imageAfter cfg callbacks before).output
    destination = cfg.destination ∧ bytes = cfg.datagram number run output ∧
      (cfg.o2tFixed = true → output.length = cfg.o2tSize) ∧
      (callbacks.onSend = none →
        output = ((before.filterMap Visible.outputSet).getLast?).getD
          (List.replicate cfg.o2tSize 0)) ∧
      (∀ edit, callbacks.onSend = some edit → ∃ front handed,
        before = front ++ [.action (.onSend handed)] ∧
          handed = (imageAfter cfg callbacks front).output ∧
          output = edit (imageAfter cfg callbacks front).history handed) ∧
      ∀ receiver, IoConnection.Mirrors cfg receiver → (connectedData bytes).length ≤ 65535 →
        ∃ packet, decodeConnectedPacket bytes = .ok packet ∧ packet.connectionId = cfg.o2tId ∧
          receiver.inputOf packet = some {
            sequenceNumber := UInt32.ofNat number
            sequenceCount := if cfg.hasSequenceCount then UInt16.ofNat number else 0
            runIdleHeader := if cfg.o2tRealTimeFormat then run.toUInt32 else 0
            data := output } := by
  have orderly := @orderly_trace worker cfg callbacks flag running vacant now events avoids
  obtain ⟨-, goes, packet, fits, handed⟩ := orderly.permitted_at split
  rw [List.nil_append] at packet fits handed
  dsimp only
  rw [← imageAfter_sent cfg callbacks before, ← imageAfter_run cfg callbacks before]
  refine ⟨goes, packet, fits, imageAfter_output cfg before, fun edit edits => ?_,
    fun receiver mirrors short => ?_⟩
  · obtain ⟨given, last⟩ := handed (by rw [edits]; rfl)
    obtain ⟨front, rfl⟩ := List.getLast?_eq_some_iff.mp last
    rw [List.append_assoc] at split
    obtain ⟨-, -, output⟩ := orderly.permitted_at split
    rw [List.nil_append] at output
    refine ⟨front, given, rfl, output, ?_⟩
    rw [imageAfter_concat, ProcessImage.after, edits]
    rfl
  · rw [packet] at short ⊢
    exact inputOf_datagram mirrors _ _ fits short

end

/-- A send callback that adds one to each byte. -/
def addingOne : IoCallbacks where
  onReceive := true
  onSend := some fun _ output => output.map (· + 1)
  onClose := true

/-- An output is set, and a pass is made. -/
def oneOutput : List WorkerEvent :=
  [.command (.setOutput IoConnection.mirroredConfig.key [1, 2]), .service [] 0]

theorem sends_last_output_edited :
    ∃ packet, decodeConnectedPacket (IoConnection.mirroredConfig.datagram 1 true [2, 3]) =
        .ok packet ∧ packet.connectionId = 0x100 ∧
      IoConnection.mirroredConfig.inputOf packet = some ⟨1, 1, 1, [2, 3]⟩ :=
  (@sends_last_output Worker.new IoConnection.mirroredConfig addingOne 0 rfl rfl 0 oneOutput
    (by simp [oneOutput, WorkerEvent.Avoids, Command.Adds])
    [.command (.setOutput IoConnection.mirroredConfig.key [1, 2]), .action (.onSend [1, 2])] []
    ⟨⟨0x7F000001⟩, 2222⟩ (IoConnection.mirroredConfig.datagram 1 true [2, 3]) rfl).2.2.2.2.2
    IoConnection.mirroredConfig ⟨rfl, rfl, rfl, rfl⟩ (by decide)

end EipScanner
