/-
This file says when the I/O thread sends for a connection whose O->T direction is null. Such a
direction carries no data. But the connection type is only written into the Forward Open
request. The settings of the I/O connection do not keep it, and a service pass does not ask for
it.

So the connection is silent in a run exactly when no pass of the run finds it ready: still in the
map, in time, due, and with an output that its direction lets through. The other commands, the
datagrams and the callbacks of the run may be any.
-/

import EipScanner.Timeout

namespace EipScanner

/-! ### What a pass sends -/

/-- The event sends a packet for the connection with the flag. -/
def Worker.Sends (worker : Worker) (key : ConnectionKey) (flag : Nat) (event : WorkerEvent) :
    Prop :=
  ∃ destination datagram,
    ⟨key, flag, .send destination datagram⟩ ∈ (workerTransducer.step worker event).2

theorem mem_underKey {key : ConnectionKey} {flag : Nat} {action : Action}
    {effects : List Effect} :
    (flag, action) ∈ underKey key effects ↔ ⟨key, flag, action⟩ ∈ effects := by
  rw [← List.count_pos_iff, ← List.count_pos_iff, count_underKey]

/-- A due entry sends what was built, if it was. -/
theorem send_mem_transmit_iff {entry : Entry} {now : Nat} {txBuf : Bytes} :
    (∃ destination datagram, .send destination datagram ∈ (entry.transmit now txBuf).2.2) ↔
      entry.callOnSend.1.conn.outputRefused = false := by
  have silent : ∀ destination datagram, .send destination datagram ∉ entry.callOnSend.2 := by
    intro destination datagram member
    unfold Entry.callOnSend at member
    split at member
    · exact absurd member List.not_mem_nil
    · exact absurd (List.mem_singleton.mp member) nofun
  have built := entry.callOnSend.1.conn.buildPacket_built now txBuf
  simp only [Entry.transmit, List.mem_append, silent, false_or, built]
  cases entry.callOnSend.1.conn.outputRefused with
  | true => simp
  | false => simp

theorem send_not_mem_receive {entry : Entry} {packet : ConnectedPacket} {now : Nat}
    (destination : SocketAddrV4) (datagram : Bytes) :
    .send destination datagram ∉ (entry.receive packet now).2 := by
  intro member
  unfold Entry.receive at member
  split at member
  · exact absurd member List.not_mem_nil
  · split at member
    · exact absurd (List.mem_singleton.mp member) nofun
    · exact absurd member List.not_mem_nil

theorem send_not_mem_expired (entry : Entry) (destination : SocketAddrV4) (datagram : Bytes) :
    .send destination datagram ∉ entry.expired := by
  intro member
  unfold Entry.expired at member
  split at member <;> simp at member

/-- A pass sends for an entry: it has not timed out, it is due, and the output that the send
callback leaves is not refused. -/
structure Entry.Ready (entry : Entry) (now : Nat) : Prop where
  inTime : now < entry.conn.timeoutAt
  due : entry.conn.nextSend ≤ now
  accepted : entry.callOnSend.1.conn.outputRefused = false

theorem send_mem_service_iff {slot : Slot} {entry : Entry} (present : slot.entry = some entry)
    {now flag : Nat} :
    (∃ destination datagram, (flag, .send destination datagram) ∈ (slot.service now).2) ↔
      entry.flag = flag ∧ entry.Ready now := by
  rcases Nat.lt_or_ge now entry.conn.timeoutAt with early | late
  · have inTime : entry.conn.isTimedOut now = false := decide_eq_false (Nat.not_le_of_lt early)
    by_cases due : entry.conn.nextSend ≤ now
    · have isDue : entry.conn.isSendDue now = true := decide_eq_true due
      have built := @send_mem_transmit_iff entry now []
      simp only [Slot.service, present, inTime, isDue, Bool.false_eq_true, if_false, if_true,
        List.mem_map, Prod.mk.injEq]
      constructor
      · rintro ⟨destination, datagram, action, member, rfl, rfl⟩
        exact ⟨rfl, early, due, built.mp ⟨destination, datagram, member⟩⟩
      · rintro ⟨rfl, ready⟩
        obtain ⟨destination, datagram, member⟩ := built.mpr ready.accepted
        exact ⟨destination, datagram, _, member, rfl, rfl⟩
    · have isDue : entry.conn.isSendDue now = false := decide_eq_false due
      simp only [Slot.service, present, inTime, isDue, Bool.false_eq_true, if_false]
      exact ⟨fun sends => absurd sends (by simp), fun ready => absurd ready.2.due due⟩
  · have timedOut : entry.conn.isTimedOut now = true := decide_eq_true late
    simp only [Slot.service, present, timedOut, if_true]
    constructor
    · rintro ⟨destination, datagram, member⟩
      obtain ⟨action, inActions, same⟩ := List.mem_map.mp member
      obtain ⟨-, rfl⟩ := Prod.mk.inj same
      exact absurd inActions (send_not_mem_expired entry destination datagram)
    · exact fun ready => absurd ready.2.inTime (Nat.not_lt_of_le late)

theorem send_not_mem_drainCommand (slot : Slot) (command : Command) (flag : Nat)
    (destination : SocketAddrV4) (datagram : Bytes) :
    (flag, .send destination datagram) ∉ (slot.drainCommand command).2 := by
  intro member
  cases command with
  | add conn callbacks other =>
    unfold Slot.drainCommand at member
    dsimp only at member
    split at member
    · exact absurd (List.mem_singleton.mp member) nofun
    · exact absurd member List.not_mem_nil
  | remove key => exact absurd member List.not_mem_nil
  | setOutput key data => exact absurd member List.not_mem_nil
  | setRun key run => exact absurd member List.not_mem_nil
  | shutdown => exact absurd member List.not_mem_nil

/-- Under a key, only a pass sends, and only for an entry that is ready. -/
theorem send_mem_slot_iff {slot : Slot} {event : SlotEvent} {flag : Nat}
    (running : slot.running = true) :
    (∃ destination datagram,
        (flag, .send destination datagram) ∈ (slotTransducer.step slot event).2) ↔
      ∃ now entry, event = .service now ∧ slot.entry = some entry ∧ entry.flag = flag ∧
        entry.Ready now := by
  simp only [slotTransducer, running, if_true]
  cases event with
  | command drained =>
    simp only [send_not_mem_drainCommand, reduceCtorEq, false_and, exists_false]
  | datagram packet now =>
    simp only [reduceCtorEq, false_and, exists_false, iff_false]
    rintro ⟨destination, datagram, member⟩
    unfold Slot.receive at member
    split at member
    · exact absurd member List.not_mem_nil
    · obtain ⟨action, inActions, same⟩ := List.mem_map.mp member
      obtain ⟨-, rfl⟩ := Prod.mk.inj same
      exact send_not_mem_receive destination datagram inActions
  | service now =>
    cases present : slot.entry with
    | none =>
      simp only [Slot.service, present, List.not_mem_nil, exists_false, reduceCtorEq, false_and,
        and_false]
    | some entry =>
      simp only [send_mem_service_iff present, SlotEvent.service.injEq, Option.some.injEq]
      constructor
      · exact fun ready => ⟨now, entry, rfl, rfl, ready⟩
      · rintro ⟨_, _, rfl, rfl, ready⟩
        exact ready

/-- One event of the worker sends for the connection with the flag exactly when it is a pass that
finds it in the map and ready. -/
theorem sends_iff (worker : Worker) (key : ConnectionKey) (flag : Nat) (event : WorkerEvent) :
    worker.Sends key flag event ↔
      ∃ preferred now entry, event = .service preferred now ∧ worker.running = true ∧
        worker.connections.lookup key = some entry ∧ entry.flag = flag ∧ entry.Ready now := by
  unfold Worker.Sends
  simp only [← mem_underKey]
  cases found : event.underKey key with
  | none =>
    rw [(slot_still key worker event found).2]
    refine ⟨fun sends => absurd sends (by simp), ?_⟩
    rintro ⟨preferred, now, entry, rfl, -⟩
    exact absurd found (Option.some_ne_none _)
  | some kept =>
    have moved := congrArg Prod.snd (slot_step key worker event found)
    dsimp only at moved
    rw [← moved]
    cases running : worker.running with
    | false =>
      have stopped : (worker.slot key).running = false := running
      simp [slotTransducer, stopped]
    | true =>
      rw [send_mem_slot_iff running]
      constructor
      · rintro ⟨now, entry, rfl, present, ready⟩
        cases event with
        | service preferred instant =>
          obtain rfl := SlotEvent.service.inj (Option.some.inj found)
          exact ⟨preferred, instant, entry, rfl, rfl, present, ready⟩
        | command drained => exact absurd (underKey_command found).2 (by simp)
        | receive source datagram instant =>
          obtain ⟨_, _, -, -, -, same⟩ := underKey_receive found
          exact absurd same (by simp)
      · rintro ⟨preferred, now, entry, rfl, -, present, ready⟩
        exact ⟨now, entry, (Option.some.inj found).symm, present, ready⟩

/-! ### The settings of a connection in the map -/

/-- The connection with the flag, if it is in the slot, has the settings. -/
def Slot.Keeps (cfg : IoConnectionConfig) (flag : Nat) (slot : Slot) : Prop :=
  ∀ entry, slot.entry = some entry → entry.flag = flag → entry.conn.cfg = cfg

section
variable {cfg : IoConnectionConfig} {flag : Nat} {slot : Slot} (keeps : slot.Keeps cfg flag)

include keeps

theorem keeps_drainCommand {command : Command}
    (own : ∀ conn callbacks, command ≠ .add conn callbacks flag) :
    (slot.drainCommand command).1.Keeps cfg flag := by
  cases command with
  | add conn callbacks other =>
    cases present : slot.entry with
    | some entry =>
      simp only [Slot.drainCommand, present]
      exact keeps
    | none =>
      simp only [Slot.drainCommand, present]
      rintro _ ⟨⟩ rfl
      exact absurd rfl (own conn callbacks)
  | remove key => exact fun _ found => absurd found.symm (Option.some_ne_none _)
  | setOutput key data =>
    intro after found same
    obtain ⟨entry, present, rfl⟩ := Option.map_eq_some_iff.mp found
    exact keeps entry present same
  | setRun key run =>
    intro after found same
    obtain ⟨entry, present, rfl⟩ := Option.map_eq_some_iff.mp found
    exact keeps entry present same
  | shutdown => exact keeps

theorem keeps_of_continues {entry after : Entry} {lastReceive : Nat} {moved : Slot}
    (present : slot.entry = some entry) (continues : entry.Continues lastReceive after)
    (stays : moved.entry = some after) : moved.Keeps cfg flag := by
  intro found isFound same
  obtain rfl := Option.some.inj (stays.symm.trans isFound)
  rw [continues.cfg]
  exact keeps entry present (continues.flag.symm.trans same)

theorem keeps_step {event : SlotEvent}
    (own : ∀ conn callbacks, event ≠ .command (.add conn callbacks flag)) :
    (slotTransducer.step slot event).1.Keeps cfg flag := by
  cases running : slot.running with
  | false =>
    simp only [slotTransducer, running, Bool.false_eq_true, if_false]
    exact keeps
  | true =>
    simp only [slotTransducer, running, if_true]
    cases event with
    | command drained =>
      exact keeps_drainCommand keeps fun conn callbacks same => own conn callbacks (same ▸ rfl)
    | service now =>
      cases present : slot.entry with
      | none =>
        simp only [Slot.service, present]
        exact keeps
      | some entry =>
        simp only [Slot.service, present]
        split
        · exact fun _ found => absurd found (by simp)
        · split
          · exact keeps_of_continues keeps present (continues_transmit entry now []) rfl
          · exact keeps
    | datagram packet now =>
      cases present : slot.entry with
      | none =>
        simp only [Slot.receive, present]
        exact keeps
      | some entry =>
        simp only [Slot.receive, present]
        exact keeps_of_continues keeps present (continues_receive entry packet now) rfl

end

/-- In a run that adds no other connection with the flag, the connection keeps its settings. -/
theorem keeps_run {cfg : IoConnectionConfig} {key : ConnectionKey} {flag : Nat} {worker : Worker}
    {events : List WorkerEvent} (keeps : (worker.slot key).Keeps cfg flag)
    (own : ∀ conn callbacks, .command (.add conn callbacks flag) ∉ events) :
    ((workerTransducer.run worker events).slot key).Keeps cfg flag := by
  induction events generalizing worker with
  | nil => exact keeps
  | cons event later inductionHypothesis =>
    refine inductionHypothesis ?_ fun conn callbacks member =>
      own conn callbacks (List.mem_cons_of_mem event member)
    cases found : event.underKey key with
    | none =>
      rw [(slot_still key worker event found).1]
      exact keeps
    | some kept =>
      have moved := congrArg Prod.fst (slot_step key worker event found)
      dsimp only at moved
      rw [← moved]
      refine keeps_step keeps ?_
      rintro conn callbacks rfl
      cases event with
      | command drained =>
        obtain ⟨-, same⟩ := underKey_command found
        obtain rfl := SlotEvent.command.inj same
        exact own conn callbacks List.mem_cons_self
      | service preferred now => exact absurd found nofun
      | receive source datagram now =>
        obtain ⟨_, _, -, -, -, same⟩ := underKey_receive found
        exact absurd same nofun

/-! ### A connection without data -/

/-- A connection that was opened with no data in the O->T direction. -/
structure NullConnection where
  counters : IdCounters
  after : IdCounters
  config : ConnectionConfig
  sent : RouterRequest
  response : MessageRouterResponse
  peerIp : Ipv4Addr
  opened : OpenedConnection
  noData : config.o2t.connectionType = .null
  prepared : prepareOpen counters config = .ok (sent, after)
  completed : completeOpen config response peerIp = .ok opened

/-- The connection is ready at a pass: it is in time, it is due, and in a fixed-size direction the
output that the send callback leaves has the configured size. -/
structure NullConnection.Ready (connection : NullConnection) (entry : Entry) (now : Nat) :
    Prop where
  inTime : now < entry.conn.timeoutAt
  due : entry.conn.nextSend ≤ now
  size : connection.config.o2t.sizeType = .fixed →
    entry.callOnSend.1.conn.output.length = connection.config.o2t.size.toNat

/-- Nothing is sent for a connection without data, in a run after it was added to the map, exactly
when no pass of the run finds it in the map and ready. The flag is the identity of the
connection, so it is not added again; it may be removed, and another one may come under its
key. -/
theorem silent_iff (connection : NullConnection) {worker : Worker} {callbacks : IoCallbacks}
    {flag created : Nat} {events : List WorkerEvent}
    (added : worker.connections.lookup connection.opened.ioConfig.key =
      some ⟨IoConnection.new connection.opened.ioConfig created, callbacks, flag, []⟩)
    (own : ∀ conn callbacks, .command (.add conn callbacks flag) ∉ events) :
    (∀ earlier event later, events = earlier ++ event :: later →
      ¬ (workerTransducer.run worker earlier).Sends connection.opened.ioConfig.key flag event) ↔
    ∀ earlier preferred now later, events = earlier ++ .service preferred now :: later →
      let before := workerTransducer.run worker earlier
      before.running = true → ∀ entry,
        before.connections.lookup connection.opened.ioConfig.key = some entry →
        entry.flag = flag → ¬ connection.Ready entry now := by
  have start : (worker.slot connection.opened.ioConfig.key).Keeps connection.opened.ioConfig
      flag := by
    intro entry present _
    obtain rfl := Option.some.inj (added.symm.trans present)
    rfl
  have asked : ∀ {earlier event later}, events = earlier ++ event :: later → ∀ {entry},
      (workerTransducer.run worker earlier).connections.lookup connection.opened.ioConfig.key =
        some entry → entry.flag = flag → ∀ now,
      entry.Ready now ↔ connection.Ready entry now := by
    rintro earlier event later rfl entry present same now
    have settings : entry.callOnSend.1.conn.cfg = connection.opened.ioConfig := by
      obtain ⟨output, edited⟩ := callOnSend_conn entry
      rw [edited]
      exact keeps_run start (fun conn callbacks member => own conn callbacks
        (List.mem_append_left _ member)) entry present same
    have size := outputRefused_of_opened connection.completed settings
    exact ⟨fun ready => ⟨ready.inTime, ready.due, size.mp ready.accepted⟩,
      fun ready => ⟨ready.inTime, ready.due, size.mpr ready.size⟩⟩
  constructor
  · intro silent earlier preferred now later split before running entry present same ready
    have sends := (asked split present same now).mpr ready
    exact silent earlier _ later split ((sends_iff _ _ _ _).mpr
      ⟨preferred, now, entry, rfl, running, present, same, sends⟩)
  · intro never earlier event later split sends
    obtain ⟨preferred, now, entry, rfl, running, present, same, ready⟩ :=
      (sends_iff _ _ _ _).mp sends
    exact never earlier preferred now later split running entry present same
      ((asked split present same now).mp ready)

/-- The settings of the crate's examples, but without data in the O->T direction. -/
def inputOnlyConfig : ConnectionConfig :=
  { assemblyConfig [] .fixed with o2t := ⟨2, 10000000, .null, .scheduled, .fixed, true⟩ }

def inputOnlyConnection : NullConnection where
  counters := ⟨0, 0⟩
  after := ⟨1, 1⟩
  config := inputOnlyConfig
  sent := routerRequest ⟨0, 0⟩ inputOnlyConfig
  response := grantedResponse
  peerIp := ⟨7⟩
  opened := grantedConnection inputOnlyConfig ⟨7⟩
  noData := rfl
  prepared :=
    have accepted := @assemblyConfig_accepted [] .fixed (Nat.zero_le _)
    prepareOpen_ok_iff.mpr ⟨⟨accepted.1, accepted.2, accepted.3, accepted.4, accepted.5⟩, rfl, rfl⟩
  completed := rfl

/-- A worker with this connection, whose callbacks do nothing. -/
def inputOnlyWorker : Worker :=
  (Worker.new.drainCommand
    (.add (IoConnection.new inputOnlyConnection.opened.ioConfig 1000) ⟨false, none, false⟩ 0)).1

/-- The connection is silent in a run whose only pass comes after its timeout. -/
theorem silent_iff_inputOnly :
    inputOnlyConnection.config.o2t.connectionType = .null ∧
      ∀ earlier event later, [.service [] 40001000] = earlier ++ event :: later →
        ¬ (workerTransducer.run inputOnlyWorker earlier).Sends
          inputOnlyConnection.opened.ioConfig.key 0 event := by
  refine ⟨rfl, (@silent_iff inputOnlyConnection inputOnlyWorker ⟨false, none, false⟩ 0 1000
    [.service [] 40001000] rfl (by simp)).mpr ?_⟩
  intro earlier preferred now later split before running entry present same ready
  obtain ⟨rfl, rest⟩ := List.singleton_eq_append_iff.mp split |>.resolve_right
    fun other => absurd other.2 (List.cons_ne_nil _ _)
  obtain ⟨⟨rfl, rfl⟩, rfl⟩ := rest
  obtain rfl := Option.some.inj present
  exact absurd ready.inTime (by decide)

/-- The first pass sends for the connection: its type is not asked for. -/
theorem inputOnly_sends :
    inputOnlyConnection.config.o2t.connectionType = .null ∧
      inputOnlyWorker.Sends inputOnlyConnection.opened.ioConfig.key 0 (.service [] 1000) :=
  ⟨rfl, (sends_iff _ _ _ _).mpr ⟨[], 1000, _, rfl, rfl, rfl, rfl, by decide, by decide, rfl⟩⟩

end EipScanner
