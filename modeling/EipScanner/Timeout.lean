/-
This file says when a connection times out. A datagram counts for a connection when it
comes from its device, can be decoded, carries its ID, and its data have the headers and,
in a fixed-size direction, exactly the configured size after them. The connection is
removed by the first service pass that is later by the timeout than the last datagram that
counted, or than the creation of the connection if none did. Nothing else removes it but a
remove command, and nothing but such a datagram postpones it.

One event under the key of the connection is described once. That the timeout is exact
follows by induction over the events. The close callback is owed as long as the connection
is in the map, and what is owed before an event is called in it or owed after it.
-/

import EipScanner.OpenConnection
import EipScanner.Schedule
import EipScanner.Transition

namespace EipScanner

/-! ### Datagrams that count -/

/-- The data of a packet pass the header check and the size check. -/
def IoConnectionConfig.Fits (cfg : IoConnectionConfig) (data : Bytes) : Prop :=
  let headers := IoConnection.headersLength cfg.hasSequenceCount cfg.t2oRealTimeFormat
  headers ≤ data.length ∧ (cfg.t2oFixed = true → data.length = headers + cfg.t2oSize)

instance (cfg : IoConnectionConfig) (data : Bytes) : Decidable (cfg.Fits data) :=
  inferInstanceAs (Decidable (_ ∧ _))

/-- The instant of a datagram that counts for a connection. -/
def WorkerEvent.countedAt (cfg : IoConnectionConfig) : WorkerEvent → Option Nat
  | .receive source datagram now =>
    match decodeConnectedPacket (datagram.take rxBufSize) with
    | .error _ => none
    | .ok packet =>
      if source = .v4 cfg.peerIp ∧ packet.connectionId = cfg.t2oId ∧ cfg.Fits packet.data then
        some now
      else none
  | _ => none

/-- The instant of the last datagram that counts, or of the creation if none does. -/
def lastCounted (cfg : IoConnectionConfig) (created : Nat) (events : List WorkerEvent) : Nat :=
  (events.filterMap (WorkerEvent.countedAt cfg)).getLast?.getD created

def SlotEvent.countedAt (cfg : IoConnectionConfig) : SlotEvent → Option Nat
  | .datagram packet now => if cfg.Fits packet.data then some now else none
  | _ => none

/-- Whether a datagram counts can be seen under the key of the connection. -/
theorem countedAt_underKey (cfg : IoConnectionConfig) (event : WorkerEvent) :
    (event.underKey cfg.key).bind (SlotEvent.countedAt cfg) = event.countedAt cfg := by
  cases event with
  | service preferred now => rfl
  | command drained =>
    cases found : (WorkerEvent.command drained).underKey cfg.key with
    | none => rfl
    | some kept =>
      obtain ⟨-, rfl⟩ := underKey_command found
      rfl
  | receive source datagram now =>
    cases decoded : decodeConnectedPacket (datagram.take rxBufSize) with
    | error refused =>
      simp only [WorkerEvent.underKey, WorkerEvent.countedAt, decoded, Option.bind_none]
    | ok packet =>
      cases source with
      | v6 =>
        simp only [WorkerEvent.underKey, WorkerEvent.countedAt, decoded, Option.bind_none,
          reduceCtorEq, false_and, if_false]
      | v4 peerIp =>
        simp only [WorkerEvent.underKey, WorkerEvent.countedAt, decoded, IoConnectionConfig.key,
          ConnectionKey.mk.injEq, IpAddr.v4.injEq]
        by_cases addressed : peerIp = cfg.peerIp ∧ packet.connectionId = cfg.t2oId
        · simp only [addressed, and_self, true_and, if_true, Option.bind_some, SlotEvent.countedAt]
        · rw [if_neg addressed, Option.bind_none, if_neg fun all => addressed ⟨all.1, all.2.1⟩]

/-! ### One event of the connection -/

/-- A packet is accepted when it passes the checks, and then the timeout starts again; any other
packet leaves it alone. -/
theorem onReceive_lastReceive (conn : IoConnection) (packet : ConnectedPacket) (now : Nat) :
    (conn.onReceive packet now).1.cfg = conn.cfg ∧
      (conn.onReceive packet now).1.lastReceive =
        if conn.cfg.Fits packet.data then now else conn.lastReceive := by
  have accepted : (conn.onReceive packet now).2.isSome = true ↔ conn.cfg.Fits packet.data :=
    conn.onReceive_isSome_iff now packet
  rcases Nat.lt_or_ge packet.data.length (IoConnection.headersLength conn.cfg.hasSequenceCount
    conn.cfg.t2oRealTimeFormat) with short | enough
  · rw [conn.onReceive_of_short now short, if_neg fun fits => absurd fits.1 (Nat.not_le.mpr short)]
    exact ⟨rfl, rfl⟩
  · obtain ⟨count, header, received⟩ := conn.onReceive_of_enough now enough
    dsimp only at received
    rw [received] at accepted ⊢
    split at accepted
    next wrong =>
      rw [if_pos wrong, if_neg fun fits => absurd (accepted.mpr fits) Bool.false_ne_true]
      exact ⟨rfl, rfl⟩
    next exact_ =>
      rw [if_neg exact_, if_pos (accepted.mp rfl)]
      exact ⟨rfl, rfl⟩

/-- An entry is still that of the same connection: its settings, its flag and its callbacks are
the same, and its timeout runs from an instant. -/
structure Entry.Continues (before : Entry) (lastReceive : Nat) (after : Entry) : Prop where
  cfg : after.conn.cfg = before.conn.cfg
  flag : after.flag = before.flag
  callbacks : after.callbacks = before.callbacks
  lastReceive : after.conn.lastReceive = lastReceive

theorem continues_transmit (entry : Entry) (now : Nat) (txBuf : Bytes) :
    entry.Continues entry.conn.lastReceive (entry.transmit now txBuf).1 := by
  obtain ⟨output, edited⟩ := callOnSend_conn entry
  have callbacks : entry.callOnSend.1.callbacks = entry.callbacks := by
    unfold Entry.callOnSend
    cases entry.callbacks.onSend <;> rfl
  have conn : (entry.transmit now txBuf).1.conn =
      (entry.callOnSend.1.conn.buildPacket now txBuf).1 := rfl
  refine ⟨?_, Worker.flag_transmit entry now txBuf, callbacks, ?_⟩
  · rw [conn, IoConnection.buildPacket_cfg, edited, IoConnection.setOutput]
  · rw [conn, IoConnection.buildPacket_lastReceive, edited, IoConnection.setOutput]

theorem continues_receive (entry : Entry) (packet : ConnectedPacket) (now : Nat) :
    entry.Continues (if entry.conn.cfg.Fits packet.data then now else entry.conn.lastReceive)
      (entry.receive packet now).1 := by
  have moved := onReceive_lastReceive entry.conn packet now
  have callbacks : (entry.receive packet now).1.callbacks = entry.callbacks := by
    unfold Entry.receive
    split
    · rfl
    · split <;> rfl
  refine ⟨?_, Worker.flag_receive entry packet now, callbacks, ?_⟩
  · rw [receive_conn]
    exact moved.1
  · rw [receive_conn]
    exact moved.2

/-- The event does not remove the connection with the flag by a command, and does not add another
one with the same flag. -/
def SlotEvent.Spares (flag : Nat) : SlotEvent → Prop
  | .command (.remove _) => False
  | .command (.add _ _ other) => other ≠ flag
  | _ => True

/-- The connection stays in the slot with a timeout that runs from an instant, and no close callback
is called. -/
structure Entry.Stays (entry : Entry) (lastReceive : Nat) (moved : Slot × SlotOutput) : Prop where
  here : ∃ after, moved.1.entry = some after ∧ entry.Continues lastReceive after
  silent : ∀ other, (other, .onClose) ∉ moved.2

section
variable {slot : Slot} {entry : Entry} (present : slot.entry = some entry)

include present

theorem stays_drainCommand {command : Command} {flag : Nat}
    (spares : (SlotEvent.command command).Spares flag) :
    entry.Stays entry.conn.lastReceive (slot.drainCommand command) := by
  cases command with
  | add conn callbacks other =>
    simp only [Slot.drainCommand, present]
    exact ⟨⟨entry, present, rfl, rfl, rfl, rfl⟩, fun _ member =>
      absurd (List.mem_singleton.mp member) (by simp)⟩
  | remove key => exact absurd spares not_false
  | setOutput key data =>
    simp only [Slot.drainCommand, present]
    exact ⟨⟨_, rfl, rfl, rfl, rfl, rfl⟩, fun _ => List.not_mem_nil⟩
  | setRun key run =>
    simp only [Slot.drainCommand, present]
    exact ⟨⟨_, rfl, rfl, rfl, rfl, rfl⟩, fun _ => List.not_mem_nil⟩
  | shutdown => exact ⟨⟨entry, present, rfl, rfl, rfl, rfl⟩, fun _ => List.not_mem_nil⟩

theorem stays_service {now : Nat} (early : now < entry.conn.timeoutAt) :
    entry.Stays entry.conn.lastReceive (slot.service now) := by
  have inTime : entry.conn.isTimedOut now = false := decide_eq_false (Nat.not_le_of_lt early)
  simp only [Slot.service, present, inTime, Bool.false_eq_true, if_false]
  split
  · refine ⟨⟨_, rfl, continues_transmit entry now []⟩, fun other member => ?_⟩
    obtain ⟨action, inActions, same⟩ := List.mem_map.mp member
    exact (Worker.mem_transmit inActions).2 (Prod.mk.inj same).2
  · exact ⟨⟨entry, present, rfl, rfl, rfl, rfl⟩, fun _ => List.not_mem_nil⟩

theorem stays_receive (packet : ConnectedPacket) (now : Nat) :
    entry.Stays (if entry.conn.cfg.Fits packet.data then now else entry.conn.lastReceive)
      (slot.receive packet now) := by
  simp only [Slot.receive, present]
  refine ⟨⟨_, rfl, continues_receive entry packet now⟩, fun other member => ?_⟩
  obtain ⟨action, inActions, same⟩ := List.mem_map.mp member
  exact (Worker.mem_receive inActions).2 (Prod.mk.inj same).2

/-- One event of a connection in the map. It is removed by a pass that finds it timed out. Every
other event leaves it in the map and calls no close callback of it. -/
theorem step_of_present {event : SlotEvent} {flag : Nat} (running : slot.running = true)
    (spares : event.Spares flag) :
    (∃ now, event = .service now ∧ entry.conn.timeoutAt ≤ now ∧
      slotTransducer.step slot event =
        ({ slot with entry := none }, entry.expired.map (entry.flag, ·))) ∨
    (∀ now, event = .service now → now < entry.conn.timeoutAt) ∧
      entry.Stays ((event.countedAt entry.conn.cfg).getD entry.conn.lastReceive)
        (slotTransducer.step slot event) := by
  simp only [slotTransducer, running, if_true]
  cases event with
  | command drained => exact Or.inr ⟨(by simp), stays_drainCommand present spares⟩
  | service now =>
    rcases Nat.lt_or_ge now entry.conn.timeoutAt with early | late
    · refine Or.inr ⟨?_, stays_service present early⟩
      rintro _ ⟨⟩
      exact early
    · have timedOut : entry.conn.isTimedOut now = true := decide_eq_true late
      simp only [Slot.service, present, timedOut, if_true]
      exact Or.inl ⟨now, rfl, late, by rw [running]⟩
  | datagram packet now =>
    have stays := stays_receive present packet now
    refine Or.inr ⟨(by simp), ?_⟩
    by_cases fits : entry.conn.cfg.Fits packet.data
    · rw [if_pos fits] at stays
      rw [SlotEvent.countedAt, if_pos fits]
      exact stays
    · rw [if_neg fits] at stays
      rw [SlotEvent.countedAt, if_neg fits]
      exact stays

end

/-- No entry of the connection with the flag is in the slot. -/
def Slot.Absent (flag : Nat) (slot : Slot) : Prop :=
  ∀ entry, slot.entry = some entry → entry.flag ≠ flag

theorem Slot.absent_none (running : Bool) (flag : Nat) : Slot.Absent flag ⟨running, none⟩ :=
  fun _ found => absurd found nofun

/-- One event of an empty slot: nothing is called, and only another connection comes in. -/
theorem step_of_empty {slot : Slot} {event : SlotEvent} {flag : Nat} (empty : slot.entry = none)
    (running : slot.running = true) (spares : event.Spares flag) :
    (slotTransducer.step slot event).1.Absent flag ∧ (slotTransducer.step slot event).2 = [] := by
  have absent : slot.Absent flag := fun entry found => absurd (empty.symm.trans found) nofun
  simp only [slotTransducer, running, if_true]
  cases event with
  | command drained =>
    cases drained with
    | add conn callbacks other =>
      simp only [Slot.drainCommand, empty, and_true]
      intro entry isFound
      obtain rfl := Option.some.inj isFound
      exact spares
    | remove key => exact absurd spares not_false
    | setOutput key data =>
      simp only [Slot.drainCommand, empty, Option.map_none, and_true]
      exact Slot.absent_none slot.running flag
    | setRun key run =>
      simp only [Slot.drainCommand, empty, Option.map_none, and_true]
      exact Slot.absent_none slot.running flag
    | shutdown =>
      simp only [Slot.drainCommand, and_true]
      exact absent
  | service now =>
    simp only [Slot.service, empty, and_true]
    exact absent
  | datagram packet now =>
    simp only [Slot.receive, empty, and_true]
    exact absent

/-- One event of a slot without the connection: it does not come back, and no close callback of it
is called. -/
theorem step_of_absent {slot : Slot} {event : SlotEvent} {flag : Nat} (absent : slot.Absent flag)
    (spares : event.Spares flag) :
    (slotTransducer.step slot event).1.Absent flag ∧
      (flag, .onClose) ∉ (slotTransducer.step slot event).2 := by
  cases running : slot.running with
  | false =>
    simp only [slotTransducer, running, Bool.false_eq_true, if_false]
    exact ⟨absent, List.not_mem_nil⟩
  | true =>
    cases present : slot.entry with
    | none =>
      obtain ⟨still, silent⟩ := step_of_empty present running spares
      exact ⟨still, silent ▸ List.not_mem_nil⟩
    | some entry =>
      have other := absent entry present
      rcases step_of_present present running spares with
        ⟨now, -, -, removed⟩ | ⟨-, ⟨after, stays, continues⟩, silent⟩
      · rw [removed]
        refine ⟨Slot.absent_none slot.running flag, fun member => ?_⟩
        obtain ⟨action, -, same⟩ := List.mem_map.mp member
        exact other (Prod.mk.inj same).1
      · refine ⟨fun found isFound => ?_, silent flag⟩
        obtain rfl := Option.some.inj (stays.symm.trans isFound)
        rw [continues.flag]
        exact other

/-! ### Runs of the connection -/

theorem run_of_stopped {slot : Slot} (stopped : slot.running = false) (events : List SlotEvent) :
    slotTransducer.run slot events = slot := by
  induction events with
  | nil => rfl
  | cons event later inductionHypothesis =>
    have still : (slotTransducer.step slot event).1 = slot := by
      simp only [slotTransducer, stopped, Bool.false_eq_true, if_false]
    rw [Transducer.run, still, inductionHypothesis]

theorem run_of_absent {slot : Slot} {flag : Nat} (absent : slot.Absent flag)
    {events : List SlotEvent} (spares : ∀ event ∈ events, event.Spares flag) :
    (slotTransducer.run slot events).Absent flag := by
  induction events generalizing slot with
  | nil => exact absent
  | cons event later inductionHypothesis =>
    exact inductionHypothesis (step_of_absent absent (spares event List.mem_cons_self)).1
      fun other member => spares other (List.mem_cons_of_mem event member)

/-- A connection that is still in the map is unchanged, but for the datagrams that counted while
the worker ran. -/
theorem run_of_present {slot : Slot} {entry : Entry} (present : slot.entry = some entry)
    {events : List SlotEvent} (spares : ∀ event ∈ events, event.Spares entry.flag)
    {after : Entry} (found : (slotTransducer.run slot events).entry = some after)
    (same : after.flag = entry.flag) :
    ∃ lastReceive, entry.Continues lastReceive after ∧
      ((slotTransducer.run slot events).running = true →
        lastReceive = (events.filterMap (SlotEvent.countedAt entry.conn.cfg)).getLast?.getD
          entry.conn.lastReceive) := by
  induction events generalizing slot entry with
  | nil =>
    obtain rfl := Option.some.inj (present.symm.trans found)
    exact ⟨entry.conn.lastReceive, ⟨rfl, rfl, rfl, rfl⟩, fun _ => rfl⟩
  | cons event later inductionHypothesis =>
    have sparesLater := fun other member => spares other (List.mem_cons_of_mem event member)
    cases started : slot.running with
    | false =>
      rw [run_of_stopped started] at found ⊢
      obtain rfl := Option.some.inj (present.symm.trans found)
      exact ⟨entry.conn.lastReceive, ⟨rfl, rfl, rfl, rfl⟩, fun running =>
        absurd (started.symm.trans running) Bool.false_ne_true⟩
    | true =>
      rcases step_of_present present started (spares event List.mem_cons_self) with
        ⟨now, -, -, removed⟩ | ⟨-, ⟨next, stays, continues⟩, -⟩
      · have absent : (slotTransducer.step slot event).1.Absent entry.flag := by
          rw [removed]
          exact Slot.absent_none slot.running entry.flag
        exact absurd same (run_of_absent absent sparesLater after found)
      · rw [← continues.flag] at sparesLater same
        obtain ⟨lastReceive, rest, counts⟩ := inductionHypothesis stays sparesLater found same
        refine ⟨lastReceive, ⟨rest.cfg.trans continues.cfg, rest.flag.trans continues.flag,
          rest.callbacks.trans continues.callbacks, rest.lastReceive⟩, fun running => ?_⟩
        refine (counts running).trans ?_
        rw [continues.cfg, continues.lastReceive]
        cases counted : event.countedAt entry.conn.cfg with
        | none => rw [List.filterMap_cons_none counted, Option.getD_none]
        | some now =>
          rw [List.filterMap_cons_some counted, List.getLast?_cons, Option.getD_some,
            Option.getD_some]

/-- The close callback of the connection is still to be called: it has one, and is in the map. -/
def Slot.owed (flag : Nat) (slot : Slot) : Nat :=
  match slot.entry with
  | none => 0
  | some entry => if entry.flag = flag ∧ entry.callbacks.onClose = true then 1 else 0

theorem Slot.owed_of_absent {slot : Slot} {flag : Nat} (absent : slot.Absent flag) :
    slot.owed flag = 0 := by
  unfold owed
  split
  · rfl
  next entry found => exact if_neg fun both => absent entry found both.1

theorem Slot.owed_of_present {slot : Slot} {entry : Entry} (present : slot.entry = some entry) :
    slot.owed entry.flag = if entry.callbacks.onClose then 1 else 0 := by
  simp only [owed, present, true_and]

theorem count_expired (entry : Entry) :
    (entry.expired.map (entry.flag, ·)).count (entry.flag, .onClose) =
      if entry.callbacks.onClose then 1 else 0 := by
  unfold Entry.expired
  cases entry.callbacks.onClose <;> simp

/-- What is owed before an event is called in it or owed after it. -/
theorem count_add_owed (slot : Slot) {event : SlotEvent} {flag : Nat}
    (spares : event.Spares flag) :
    (slotTransducer.step slot event).2.count (flag, .onClose) +
        (slotTransducer.step slot event).1.owed flag =
      slot.owed flag := by
  by_cases absent : slot.Absent flag
  · obtain ⟨after, silent⟩ := step_of_absent absent spares
    rw [List.count_eq_zero_of_not_mem silent, Slot.owed_of_absent after,
      Slot.owed_of_absent absent]
  · unfold Slot.Absent at absent
    push Not at absent
    obtain ⟨entry, present, rfl⟩ := absent
    cases running : slot.running with
    | false =>
      simp only [slotTransducer, running, Bool.false_eq_true, if_false, List.count_nil,
        Nat.zero_add]
    | true =>
      rcases step_of_present present running spares with
        ⟨now, -, -, removed⟩ | ⟨-, ⟨after, stays, continues⟩, silent⟩
      · rw [removed, Slot.owed_of_absent (Slot.absent_none slot.running entry.flag),
          Slot.owed_of_present present, count_expired, Nat.add_zero]
      · have owedAfter := Slot.owed_of_present stays
        rw [continues.flag, continues.callbacks] at owedAfter
        rw [List.count_eq_zero_of_not_mem (silent entry.flag), owedAfter,
          Slot.owed_of_present present, Nat.zero_add]

/-! ### Runs of the worker -/

/-- How often the close callback of the connection with a flag is called in a run. -/
def Worker.closes (worker : Worker) (key : ConnectionKey) (flag : Nat)
    (events : List WorkerEvent) : Nat :=
  ((workerTransducer.trace worker events).map fun after =>
    after.2.count ⟨key, flag, .onClose⟩).sum

/-- Counting the effects of an entry is counting under its key. -/
theorem count_underKey (key : ConnectionKey) (flag : Nat) (action : Action)
    (effects : List Effect) :
    (underKey key effects).count (flag, action) = effects.count ⟨key, flag, action⟩ := by
  rw [List.count, List.count, underKey, List.countP_filterMap]
  refine List.countP_congr fun effect _ => ?_
  obtain ⟨place, other, did⟩ := effect
  by_cases same : place = key
  · simp [same]
  · simp [same]

/-- The event does not remove the connection under a key by a command, and does not add another
one with its flag. -/
def WorkerEvent.Spares (key : ConnectionKey) (flag : Nat) (event : WorkerEvent) : Prop :=
  ∀ kept, event.underKey key = some kept → kept.Spares flag

/-- In a run the close callback is called as often as it was owed before and is not any more. -/
theorem closes_add_owed (worker : Worker) {key : ConnectionKey} {flag : Nat}
    {events : List WorkerEvent} (spares : ∀ event ∈ events, event.Spares key flag) :
    worker.closes key flag events + ((workerTransducer.run worker events).slot key).owed flag =
      (worker.slot key).owed flag := by
  induction events generalizing worker with
  | nil => exact Nat.zero_add _
  | cons event later inductionHypothesis =>
    have rest := inductionHypothesis (workerTransducer.step worker event).1
      fun other member => spares other (List.mem_cons_of_mem event member)
    have first : (workerTransducer.step worker event).2.count ⟨key, flag, .onClose⟩ +
        ((workerTransducer.step worker event).1.slot key).owed flag =
          (worker.slot key).owed flag := by
      rw [← count_underKey]
      cases found : event.underKey key with
      | none =>
        obtain ⟨same, silent⟩ := slot_still key worker event found
        rw [same, silent, List.count_nil, Nat.zero_add]
      | some kept =>
        have moved := slot_step key worker event found
        have owed := count_add_owed (worker.slot key)
          (spares event List.mem_cons_self kept found)
        rw [moved] at owed
        exact owed
    rw [Worker.closes, Transducer.trace, List.map_cons, List.sum_cons, Transducer.run]
    unfold Worker.closes at rest
    omega

theorem spares_service (key : ConnectionKey) (flag : Nat) (preferred : List ConnectionKey)
    (now : Nat) : (WorkerEvent.service preferred now).Spares key flag := by
  intro kept found
  obtain rfl : SlotEvent.service now = kept := Option.some.inj found
  trivial

/-- A run spares a connection if it has no remove command for its key, and no other command to add
one with its flag. -/
theorem spares_of_commands {key : ConnectionKey} {flag : Nat} {events : List WorkerEvent}
    (kept : .command (.remove key) ∉ events)
    (own : ∀ conn callbacks, .command (.add conn callbacks flag) ∉ events) :
    ∀ event ∈ events, event.Spares key flag := by
  intro event member slotEvent found
  cases event with
  | service preferred now => exact spares_service key flag preferred now slotEvent found
  | receive source datagram now =>
    obtain ⟨peerIp, packet, -, -, -, rfl⟩ := underKey_receive found
    trivial
  | command drained =>
    obtain ⟨addressed, rfl⟩ := underKey_command found
    cases drained with
    | add conn callbacks other =>
      rintro rfl
      exact own conn callbacks member
    | remove removed =>
      obtain rfl := addressed removed rfl
      exact kept member
    | setOutput changed data => trivial
    | setRun changed run => trivial
    | shutdown => trivial

/-- The connection that was just added, later in a run: it is unchanged but for the datagrams that
counted while the worker ran. -/
theorem continues_of_occupant {worker : Worker} {cfg : IoConnectionConfig}
    {callbacks : IoCallbacks} {flag created : Nat} {events : List WorkerEvent}
    (added : worker.connections.lookup cfg.key =
      some ⟨IoConnection.new cfg created, callbacks, flag, []⟩)
    (spares : ∀ event ∈ events, event.Spares cfg.key flag)
    (present : (workerTransducer.run worker events).occupant cfg.key = some flag) :
    ∃ entry, (workerTransducer.run worker events).connections.lookup cfg.key = some entry ∧
      entry.flag = flag ∧ entry.conn.cfg = cfg ∧ entry.callbacks = callbacks ∧
      ((workerTransducer.run worker events).running = true →
        entry.conn.lastReceive = lastCounted cfg created events) := by
  obtain ⟨entry, found, same⟩ := Option.map_eq_some_iff.mp present
  have view := (slotProjection cfg.key).view_run worker events
  have slotFound : (slotTransducer.run (worker.slot cfg.key)
      (events.filterMap (WorkerEvent.underKey cfg.key))).entry = some entry :=
    (congrArg Slot.entry view).symm.trans found
  have slotSpares : ∀ event ∈ events.filterMap (WorkerEvent.underKey cfg.key),
      event.Spares flag := by
    intro kept member
    obtain ⟨event, inRun, under⟩ := List.mem_filterMap.mp member
    exact spares event inRun kept under
  have counted : (events.filterMap (WorkerEvent.underKey cfg.key)).filterMap
      (SlotEvent.countedAt cfg) = events.filterMap (WorkerEvent.countedAt cfg) := by
    rw [List.filterMap_filterMap]
    exact List.filterMap_congr fun event _ => countedAt_underKey cfg event
  obtain ⟨lastReceive, continues, counts⟩ :=
    @run_of_present (worker.slot cfg.key) _ added _ slotSpares entry slotFound same
  refine ⟨entry, found, same, continues.cfg, continues.callbacks, fun running => ?_⟩
  have slotRunning : (slotTransducer.run (worker.slot cfg.key)
      (events.filterMap (WorkerEvent.underKey cfg.key))).running = true :=
    (congrArg Slot.running view).symm.trans running
  rw [continues.lastReceive, counts slotRunning, lastCounted, ← counted]
  rfl

/-- The event takes the connection with the flag out of the map. -/
def Worker.Removes (worker : Worker) (key : ConnectionKey) (flag : Nat) (event : WorkerEvent) :
    Prop :=
  worker.occupant key = some flag ∧ (workerTransducer.step worker event).1.occupant key ≠ some flag

theorem running_of_removes {worker : Worker} {key : ConnectionKey} {flag : Nat}
    {event : WorkerEvent} (removes : worker.Removes key flag event) : worker.running = true := by
  cases running : worker.running with
  | true => rfl
  | false =>
    have idle : (workerTransducer.step worker event).1 = worker := by
      simp only [workerTransducer, running, Bool.false_eq_true, if_false]
    exact absurd ((congrArg (Worker.occupant · key) idle).trans removes.1) removes.2

/-- A connection is removed by a pass that finds it timed out, and its close callback is called
once then. Nothing else removes it. -/
theorem removes_of_present {worker : Worker} {key : ConnectionKey} {entry : Entry}
    {event : WorkerEvent} (found : worker.connections.lookup key = some entry)
    (running : worker.running = true) (spares : event.Spares key entry.flag) :
    (worker.Removes key entry.flag event ↔
      ∃ preferred now, event = .service preferred now ∧ entry.conn.timeoutAt ≤ now) ∧
    (worker.Removes key entry.flag event →
      (workerTransducer.step worker event).2.count ⟨key, entry.flag, .onClose⟩ =
        if entry.callbacks.onClose then 1 else 0) := by
  have occupied : worker.occupant key = some entry.flag := congrArg (Option.map Entry.flag) found
  cases under : event.underKey key with
  | none =>
    have still : (workerTransducer.step worker event).1.occupant key = some entry.flag :=
      (congrArg (fun slot => slot.entry.map Entry.flag) (slot_still key worker event under).1).trans
        occupied
    refine ⟨⟨fun removes => absurd still removes.2, ?_⟩, fun removes => absurd still removes.2⟩
    rintro ⟨preferred, now, rfl, -⟩
    exact absurd under nofun
  | some kept =>
    have moved := slot_step key worker event under
    rcases @step_of_present (worker.slot key) entry found kept entry.flag running
        (spares kept under) with
      ⟨now, rfl, late, removed⟩ | ⟨early, ⟨after, stays, continues⟩, -⟩
    · rw [removed] at moved
      obtain ⟨slotAfter, outputs⟩ := Prod.mk.inj moved
      have gone : (workerTransducer.step worker event).1.occupant key ≠ some entry.flag := by
        have empty : (workerTransducer.step worker event).1.occupant key = none :=
          congrArg (fun slot => slot.entry.map Entry.flag) slotAfter.symm
        rw [empty]
        exact nofun
      refine ⟨⟨fun _ => ?_, fun _ => ⟨occupied, gone⟩⟩, fun _ => ?_⟩
      · cases event with
        | service preferred instant =>
          obtain rfl := SlotEvent.service.inj (Option.some.inj under)
          exact ⟨preferred, instant, rfl, late⟩
        | command drained => exact absurd (underKey_command under).2 nofun
        | receive source datagram instant =>
          obtain ⟨_, _, -, -, -, same⟩ := underKey_receive under
          exact absurd same nofun
      · rw [← count_underKey, ← outputs]
        exact count_expired entry
    · rw [moved] at stays
      have still : (workerTransducer.step worker event).1.occupant key = some entry.flag :=
        (congrArg (Option.map Entry.flag) stays).trans (congrArg some continues.flag)
      refine ⟨⟨fun removes => absurd still removes.2, ?_⟩, fun removes => absurd still removes.2⟩
      rintro ⟨preferred, now, rfl, late⟩
      obtain rfl : SlotEvent.service now = kept := Option.some.inj under
      exact absurd late (Nat.not_le_of_lt (early now rfl))

/-! ### The timeout -/

section
variable {worker : Worker} {cfg : IoConnectionConfig} {callbacks : IoCallbacks}
  {flag created : Nat}
  (added : worker.connections.lookup cfg.key =
    some ⟨IoConnection.new cfg created, callbacks, flag, []⟩)

include added

/-- When a later pass removes the connection: when the last datagram that counted is the timeout
ago. -/
theorem removes_service_iff {earlier : List WorkerEvent}
    (spares : ∀ event ∈ earlier, event.Spares cfg.key flag)
    (running : (workerTransducer.run worker earlier).running = true)
    (occupied : (workerTransducer.run worker earlier).occupant cfg.key = some flag)
    (preferred : List ConnectionKey) (now : Nat) :
    (workerTransducer.run worker earlier).Removes cfg.key flag (.service preferred now) ↔
      lastCounted cfg created earlier + cfg.timeout ≤ now := by
  obtain ⟨entry, found, rfl, settings, -, lastReceive⟩ :=
    continues_of_occupant added spares occupied
  have timeoutAt : entry.conn.timeoutAt = lastCounted cfg created earlier + cfg.timeout := by
    rw [IoConnection.timeoutAt, lastReceive running, settings]
  rw [(removes_of_present found running (spares_service cfg.key entry.flag preferred now)).1,
    timeoutAt]
  constructor
  · rintro ⟨_, _, ⟨⟩, late⟩
    exact late
  · exact fun late => ⟨preferred, now, rfl, late⟩

/-- A later event that removes the connection is a pass, and it calls the close callback once. -/
theorem closed_of_removes {earlier : List WorkerEvent} {event : WorkerEvent}
    (spares : ∀ event ∈ earlier, event.Spares cfg.key flag)
    (sparesEvent : event.Spares cfg.key flag)
    (removes : (workerTransducer.run worker earlier).Removes cfg.key flag event) :
    (∃ preferred now, event = .service preferred now) ∧
      (workerTransducer.step (workerTransducer.run worker earlier) event).2.count
          ⟨cfg.key, flag, .onClose⟩ = if callbacks.onClose then 1 else 0 := by
  obtain ⟨entry, found, rfl, -, sameCallbacks, -⟩ :=
    continues_of_occupant added spares removes.1
  obtain ⟨byPass, closes⟩ := removes_of_present found (running_of_removes removes) sparesEvent
  obtain ⟨preferred, now, service, -⟩ := byPass.mp removes
  exact ⟨⟨preferred, now, service⟩, sameCallbacks ▸ closes removes⟩

/-- In a run the close callback is called once if the connection is removed, and else not. -/
theorem closes_eq {events : List WorkerEvent}
    (spares : ∀ event ∈ events, event.Spares cfg.key flag) :
    worker.closes cfg.key flag events =
      if (workerTransducer.run worker events).occupant cfg.key ≠ some flag ∧
        callbacks.onClose = true then 1 else 0 := by
  have balance := closes_add_owed worker spares
  have start : (worker.slot cfg.key).owed flag = if callbacks.onClose then 1 else 0 := by
    simp only [Slot.owed, Worker.slot, added, true_and]
  rw [start] at balance
  by_cases present : (workerTransducer.run worker events).occupant cfg.key = some flag
  · obtain ⟨entry, found, rfl, -, sameCallbacks, -⟩ := continues_of_occupant added spares present
    have stillOwed : ((workerTransducer.run worker events).slot cfg.key).owed entry.flag =
        if callbacks.onClose then 1 else 0 := by
      rw [← sameCallbacks]
      exact Slot.owed_of_present found
    rw [stillOwed] at balance
    rw [if_neg fun both => both.1 present]
    exact Nat.add_eq_right.mp balance
  · have absent : ((workerTransducer.run worker events).slot cfg.key).Absent flag :=
      fun entry found same =>
        present ((congrArg (Option.map Entry.flag) found).trans (congrArg some same))
    rw [Slot.owed_of_absent absent, Nat.add_zero] at balance
    simp only [balance, ne_eq, present, not_false_eq_true, true_and]

end

/-- The timeout of a connection that a reply made: the granted interval times the multiplier, and
the multiplication in 64 bits does not overflow. -/
theorem timeout_of_opened {config : ConnectionConfig} {response : MessageRouterResponse}
    {peerIp : Ipv4Addr} {opened : OpenedConnection} (accepted : config.Accepted)
    (completed : completeOpen config response peerIp = .ok opened) :
    opened.ioConfig.timeout = opened.t2oApi * (4 * 2 ^ config.timeoutMultiplier.toNat) ∧
      ∃ reply, ForwardOpenResponse.decode response.data = .ok reply ∧
        opened.t2oApi = fromMicros reply.t2oApi.toNat ∧
        (reply.t2oApi.toUInt64 * (4 <<< config.timeoutMultiplier.toUInt64)).toNat =
          reply.t2oApi.toNat * (4 * 2 ^ config.timeoutMultiplier.toNat) := by
  obtain ⟨checked, same, rest⟩ := bind_eq_ok_iff.mp completed
  obtain ⟨reply, decoded, rest⟩ := bind_eq_ok_iff.mp rest
  obtain ⟨o2tSockaddr, -, rest⟩ := bind_eq_ok_iff.mp rest
  obtain rfl := Except.ok.inj rest
  have unchanged : response = checked := by
    unfold MessageRouterResponse.check at same
    split at same
    · exact Except.ok.inj same
    · exact absurd same nofun
  have few : config.timeoutMultiplier.toNat ≤ 7 :=
    UInt8.le_iff_toNat_le.mp accepted.timeoutMultiplier
  have power : 4 * 2 ^ config.timeoutMultiplier.toNat ≤ 4 * 2 ^ 7 :=
    Nat.mul_le_mul_left 4 (Nat.pow_le_pow_right (by decide) few)
  refine ⟨?_, reply, unchanged ▸ decoded, rfl, ?_⟩
  · simp only [ioConnectionConfig, fromMicros, Nat.shiftLeft_eq]
    ring
  · have shift : config.timeoutMultiplier.toNat % 64 = config.timeoutMultiplier.toNat :=
      Nat.mod_eq_of_lt (by omega)
    have shifted : ((4 : UInt64) <<< config.timeoutMultiplier.toUInt64).toNat =
        4 * 2 ^ config.timeoutMultiplier.toNat := by
      rw [UInt64.toNat_shiftLeft, UInt8.toNat_toUInt64, shift, Nat.shiftLeft_eq]
      exact Nat.mod_eq_of_lt (Nat.lt_of_le_of_lt power (by decide))
    rw [UInt64.toNat_mul, UInt32.toNat_toUInt64, shifted]
    refine Nat.mod_eq_of_lt ?_
    calc reply.t2oApi.toNat * (4 * 2 ^ config.timeoutMultiplier.toNat)
        ≤ reply.t2oApi.toNat * (4 * 2 ^ 7) := Nat.mul_le_mul_left _ power
      _ < 2 ^ 32 * (4 * 2 ^ 7) := Nat.mul_lt_mul_of_pos_right (UInt32.toNat_lt _) (by decide)
      _ < 2 ^ 64 := by decide

/-- The timeout is exact. In every run after a connection was added that has no remove command for
it, a service pass removes the connection exactly when the last datagram that counted, or its
creation, is the timeout ago. Nothing else removes it, and its close callback is called once, by
the pass that does. The flag is the identity of the connection, so it is not added again. The
times of the run need not increase. -/
theorem exact_timeout {counters after : IdCounters} {config : ConnectionConfig}
    {sent : RouterRequest} {response : MessageRouterResponse} {peerIp : Ipv4Addr}
    {opened : OpenedConnection} {worker : Worker} {callbacks : IoCallbacks} {flag created : Nat}
    {events : List WorkerEvent}
    (prepared : prepareOpen counters config = .ok (sent, after))
    (completed : completeOpen config response peerIp = .ok opened)
    (added : worker.connections.lookup opened.ioConfig.key =
      some ⟨IoConnection.new opened.ioConfig created, callbacks, flag, []⟩)
    (kept : .command (.remove opened.ioConfig.key) ∉ events)
    (own : ∀ conn callbacks, .command (.add conn callbacks flag) ∉ events) :
    (∃ reply, ForwardOpenResponse.decode response.data = .ok reply ∧
      opened.t2oApi = fromMicros reply.t2oApi.toNat ∧
      (reply.t2oApi.toUInt64 * (4 <<< config.timeoutMultiplier.toUInt64)).toNat =
        reply.t2oApi.toNat * (4 * 2 ^ config.timeoutMultiplier.toNat)) ∧
    (∀ earlier preferred now later, events = earlier ++ .service preferred now :: later →
      let before := workerTransducer.run worker earlier
      before.running = true → before.occupant opened.ioConfig.key = some flag →
      (before.Removes opened.ioConfig.key flag (.service preferred now) ↔
        lastCounted opened.ioConfig created earlier +
          opened.t2oApi * (4 * 2 ^ config.timeoutMultiplier.toNat) ≤ now)) ∧
    (∀ earlier event later, events = earlier ++ event :: later →
      let before := workerTransducer.run worker earlier
      before.Removes opened.ioConfig.key flag event →
        (∃ preferred now, event = .service preferred now) ∧
        (workerTransducer.step before event).2.count ⟨opened.ioConfig.key, flag, .onClose⟩ =
          if callbacks.onClose then 1 else 0) ∧
    worker.closes opened.ioConfig.key flag events =
      if (workerTransducer.run worker events).occupant opened.ioConfig.key ≠ some flag ∧
        callbacks.onClose = true then 1 else 0 := by
  obtain ⟨accepted, -, -⟩ := prepareOpen_ok_iff.mp prepared
  obtain ⟨timeout, granted⟩ := timeout_of_opened accepted completed
  have spares := spares_of_commands kept own
  refine ⟨granted, ?_, ?_, closes_eq added spares⟩
  · rintro earlier preferred now later rfl before running occupied
    rw [← timeout]
    exact removes_service_iff added
      (fun other member => spares other (List.mem_append_left _ member)) running occupied
      preferred now
  · rintro earlier event later rfl before removes
    exact closed_of_removes added
      (fun other member => spares other (List.mem_append_left _ member))
      (spares event (List.mem_append_right _ List.mem_cons_self)) removes

/-- A connection that was granted 10 ms with the smallest multiplier, and whose callback waits for
the close. -/
def timedWorker : Worker :=
  (Worker.new.drainCommand (.add
    (IoConnection.new (grantedConnection (assemblyConfig [] .fixed) ⟨7⟩).ioConfig 1000)
    ⟨false, none, true⟩ 0)).1

/-- An input of three bytes from the device, an empty datagram, and two passes: 40 ms after the
empty datagram would be late, and 40 ms after the input is in time. -/
def timedRun : List WorkerEvent :=
  [.receive (.v4 ⟨7⟩) (encodeConnectedPacket [] 0x200 1 [[1, 0], [1, 2, 3]]) 30000000,
    .receive (.v4 ⟨7⟩) [] 60000000, .service [] 69999999, .service [] 70000000]

/-- The input moves the timeout to 70 ms, and the empty datagram does not count. -/
theorem exact_timeout_timedRun :
    ¬ (workerTransducer.run timedWorker (timedRun.take 2)).Removes ⟨⟨7⟩, 0x200⟩ 0
      (.service [] 69999999) ∧
    (workerTransducer.run timedWorker (timedRun.take 3)).Removes ⟨⟨7⟩, 0x200⟩ 0
      (.service [] 70000000) ∧
    timedWorker.closes ⟨⟨7⟩, 0x200⟩ 0 timedRun = 1 := by
  have prepared := @prepareOpen_assemblyConfig [] .fixed (Nat.zero_le maxConfigData)
  obtain ⟨-, removes, -, closes⟩ := @exact_timeout _ _ _ _ _ ⟨7⟩ _ timedWorker ⟨false, none, true⟩ 0
    1000 timedRun prepared (completeOpen_granted (assemblyConfig [] .fixed) ⟨7⟩) rfl
    (by simp [timedRun]) (by simp [timedRun])
  have early := (removes (timedRun.take 2) [] 69999999 _ rfl rfl rfl).not.mpr (by decide)
  have removed := (removes (timedRun.take 3) [] 70000000 [] rfl rfl rfl).mpr (Nat.le_refl 70000000)
  exact ⟨early, removed, closes.trans (if_pos ⟨removed.2, rfl⟩)⟩

end EipScanner
