/-
This file follows the outgoing packets of one connection through whole runs of the
worker. A connection is due at points of the grid of its interval. After a pass that
looked at it, the next due point is the first grid point after that pass, whatever
was sent or refused in it and however late it came. So each slot of the grid gets at
most one packet, and the schedule after a run is a function of the times alone. The
packets that are sent are numbered one after the other.

One event of a slot is described once, by what it does to the numbers and to the
schedule; a run follows by induction over its events.
-/

import EipScanner.Worker

namespace EipScanner

/-! ### The packets of a run -/

/-- The datagrams that a service pass sends, each with the instant of the pass. -/
def SlotEvent.datagrams (event : SlotEvent) (shown : SlotOutput) : List (Nat × Bytes) :=
  match event with
  | .service now =>
    shown.filterMap fun output =>
      match output.2 with
      | .send _ bytes => some (now, bytes)
      | _ => none
  | _ => []

/-- The datagrams that a run of one slot sends. -/
def Slot.packets (slot : Slot) : List SlotEvent → List (Nat × Bytes)
  | [] => []
  | event :: later =>
    event.datagrams (slotTransducer.step slot event).2 ++
      packets (slotTransducer.step slot event).1 later

/-- The datagrams that a run of the worker sends for the entry under a key. -/
def Worker.packets (key : ConnectionKey) (worker : Worker) :
    List WorkerEvent → List (Nat × Bytes)
  | [] => []
  | event :: later =>
    let (after, effects) := workerTransducer.step worker event
    let sent :=
      match event with
      | .service _ now => (SlotEvent.service now).datagrams (underKey key effects)
      | _ => []
    sent ++ packets key after later

/-- What the worker sends for an entry is what the slot of the entry sends. -/
theorem packets_eq_slot_packets (key : ConnectionKey) (worker : Worker)
    (events : List WorkerEvent) :
    worker.packets key events =
      (worker.slot key).packets (events.filterMap (WorkerEvent.underKey key)) := by
  induction events generalizing worker with
  | nil => rfl
  | cons event later inductionHypothesis =>
    cases found : event.underKey key with
    | none =>
      obtain ⟨same, silent⟩ := slot_still key worker event found
      rw [List.filterMap_cons_none found, ← same, ← inductionHypothesis]
      cases event with
      | service preferred now => exact absurd found nofun
      | command drained => rfl
      | receive source datagram now => rfl
    | some kept =>
      have moved := slot_step key worker event found
      simp only [List.filterMap_cons_some found, Slot.packets, Worker.packets, moved,
        inductionHypothesis]
      cases event with
      | service preferred now =>
        obtain rfl : SlotEvent.service now = kept := Option.some.inj found
        rfl
      | command drained =>
        obtain ⟨-, rfl⟩ := underKey_command found
        rfl
      | receive source datagram now =>
        obtain ⟨peerIp, packet, -, -, -, rfl⟩ := underKey_receive found
        rfl

/-! ### What a pass leaves behind -/

section
variable {cfg : IoConnectionConfig} {origin : Nat} {last : Option Nat} {sent : Nat}

/-- The state of a connection that started at an origin, was looked at by passes of which the last
is given, and has sent a number of packets. -/
structure Scheduled (cfg : IoConnectionConfig) (origin : Nat) (last : Option Nat) (sent : Nat)
    (conn : IoConnection) : Prop where
  settings : conn.cfg = cfg
  nextSend : conn.nextSend = origin + TimeGrid.ahead origin cfg.o2tApi last * cfg.o2tApi
  sequenceNumber : conn.o2tSequenceNumber.toNat = sent % 2 ^ 32
  sequenceCount : cfg.hasSequenceCount = true → conn.sequenceCount.toNat = sent % 2 ^ 16

/-- A packet that carries a number: in the sequence number and, if the class has one, in the
sequence count. -/
structure Carries (cfg : IoConnectionConfig) (number : Nat) (packet : Bytes) : Prop where
  sequenceNumber : connectedSequenceNumber packet = number % 2 ^ 32
  sequenceCount : cfg.hasSequenceCount = true →
    IoConnection.packetSequenceCount packet = number % 2 ^ 16

theorem scheduled_new (cfg : IoConnectionConfig) (origin : Nat) :
    Scheduled cfg origin none 0 (IoConnection.new cfg origin) where
  settings := rfl
  nextSend := by rw [TimeGrid.ahead, Nat.zero_mul]; rfl
  sequenceNumber := rfl
  sequenceCount _ := rfl

variable {conn : IoConnection} (scheduled : Scheduled cfg origin last sent conn)

include scheduled

theorem Scheduled.setOutput (data : Bytes) :
    Scheduled cfg origin last sent (conn.setOutput data) :=
  ⟨scheduled.1, scheduled.2, scheduled.3, scheduled.4⟩

theorem Scheduled.setRun (run : Bool) : Scheduled cfg origin last sent (conn.setRun run) :=
  ⟨scheduled.1, scheduled.2, scheduled.3, scheduled.4⟩

theorem Scheduled.onReceive (packet : ConnectedPacket) (now : Nat) :
    Scheduled cfg origin last sent (conn.onReceive packet now).1 := by
  obtain ⟨lastReceive, warned, moved⟩ := conn.onReceive_fst now packet
  rw [moved]
  exact ⟨scheduled.1, scheduled.2, scheduled.3, scheduled.4⟩

variable {now : Nat}

/-- A pass before the connection is due changes nothing. -/
theorem Scheduled.wait (started : origin ≤ last.getD origin) (passed : last.getD origin ≤ now)
    (early : now < conn.nextSend) :
    Scheduled cfg origin (some now) sent conn := by
  have looked : last.isSome = true := by
    cases last with
    | none =>
      have due := scheduled.nextSend
      rw [TimeGrid.ahead, Nat.zero_mul] at due
      rw [Option.getD_none] at passed
      omega
    | some earlier => rfl
  have same : TimeGrid.ahead origin cfg.o2tApi (some now) = TimeGrid.ahead origin cfg.o2tApi last :=
    TimeGrid.ahead_eq_of_lt passed looked started (scheduled.nextSend ▸ early)
  exact ⟨scheduled.settings, same ▸ scheduled.nextSend, scheduled.sequenceNumber,
    scheduled.sequenceCount⟩

/-- The packet that is due lies in a slot that no pass has looked at. -/
theorem Scheduled.ahead_le_slot (positive : 0 < cfg.o2tApi) (due : conn.nextSend ≤ now) :
    TimeGrid.ahead origin cfg.o2tApi last ≤ TimeGrid.slot origin cfg.o2tApi now :=
  TimeGrid.le_slot positive (scheduled.nextSend ▸ due)

variable (started : origin ≤ last.getD origin) (positive : 0 < cfg.o2tApi)
  (due : conn.nextSend ≤ now) (near : now < last.getD origin + 2 ^ 32 * cfg.o2tApi)

include started positive due near

/-- A pass over a due connection moves it to the first grid point after the pass. -/
theorem Scheduled.advance :
    conn.advance now = origin + TimeGrid.ahead origin cfg.o2tApi (some now) * cfg.o2tApi := by
  have reached : last.getD origin ≤ conn.nextSend := by
    rw [scheduled.nextSend]
    cases last with
    | none => exact Nat.le_add_right _ _
    | some earlier => exact (TimeGrid.lt_ahead positive started).le
  have interval : conn.cfg.o2tApi = cfg.o2tApi := congrArg _ scheduled.settings
  rw [conn.advance_eq_next now (interval ▸ positive) due (by rw [interval]; omega), interval,
    scheduled.nextSend]
  exact TimeGrid.next_eq_ahead positive (scheduled.nextSend ▸ due)

/-- A packet that is due is refused and costs no number, or it is built and carries the next
one. Either way the schedule moves to the first grid point after the pass. -/
theorem Scheduled.buildPacket (out : Bytes) :
    ((conn.buildPacket now out).2.2 = false ∧
        Scheduled cfg origin (some now) sent (conn.buildPacket now out).1) ∨
      ((conn.buildPacket now out).2.2 = true ∧
        Scheduled cfg origin (some now) (sent + 1) (conn.buildPacket now out).1 ∧
        Carries cfg (sent + 1) (conn.buildPacket now out).2.1) := by
  have moved := scheduled.advance started positive due near
  have counted : (conn.o2tSequenceNumber + 1).toNat = (sent + 1) % 2 ^ 32 := by
    rw [UInt32.toNat_add, scheduled.sequenceNumber]
    exact Nat.mod_add_mod sent _ 1
  have countedToo : cfg.hasSequenceCount = true →
      (conn.sequenceCount + 1).toNat = (sent + 1) % 2 ^ 16 := by
    intro present
    rw [UInt16.toNat_add, scheduled.sequenceCount present]
    exact Nat.mod_add_mod sent _ 1
  have settings := scheduled.settings
  cases refused : conn.outputRefused with
  | true =>
    rw [conn.buildPacket_of_refused now out refused]
    exact .inl ⟨rfl, settings, moved, scheduled.sequenceNumber, scheduled.sequenceCount⟩
  | false =>
    refine .inr ⟨?_, ?_, ?_, ?_⟩
    · rw [conn.buildPacket_built, refused, Bool.not_false]
    · rw [conn.buildPacket_of_accepted now out refused]
      refine ⟨settings, moved, counted, fun present => ?_⟩
      have asked : conn.cfg.hasSequenceCount = true := settings ▸ present
      simp only [IoConnection.count, asked, if_true]
      exact countedToo present
    · rw [conn.connectedSequenceNumber_buildPacket now out refused, counted]
    · intro present
      rw [conn.packetSequenceCount_buildPacket now out refused (settings ▸ present),
        countedToo present]

end

/-! ### What one event does -/

/-- The instant of a service pass. -/
def SlotEvent.instant : SlotEvent → Option Nat
  | .service now => some now
  | _ => none

/-- The event would put a new connection under the key. -/
def SlotEvent.adds : SlotEvent → Bool
  | .command (.add _ _ _) => true
  | _ => false

/-- A pass is not before an earlier one, and less than 2^32 intervals after it. -/
def Paced (period earlier later : Nat) : Prop :=
  earlier ≤ later ∧ later < earlier + 2 ^ 32 * period

theorem callOnSend_conn (entry : Entry) :
    ∃ output, entry.callOnSend.1.conn = entry.conn.setOutput output := by
  unfold Entry.callOnSend
  cases entry.callbacks.onSend with
  | none => exact ⟨entry.conn.output, rfl⟩
  | some edit => exact ⟨edit entry.history entry.conn.output, rfl⟩

/-- The send callback sends nothing itself, so a due entry sends what was built, if it was. -/
theorem datagrams_transmit (entry : Entry) (now : Nat) (txBuf : Bytes) (flag : Nat) :
    (SlotEvent.service now).datagrams ((entry.transmit now txBuf).2.2.map (flag, ·)) =
      if (entry.callOnSend.1.conn.buildPacket now txBuf).2.2 then
        [(now, (entry.callOnSend.1.conn.buildPacket now txBuf).2.1)]
      else [] := by
  have silent : (SlotEvent.service now).datagrams (entry.callOnSend.2.map (flag, ·)) = [] := by
    unfold Entry.callOnSend
    cases entry.callbacks.onSend <;> rfl
  simp only [Entry.transmit, List.map_append]
  rw [SlotEvent.datagrams, List.filterMap_append]
  refine (congrArg (· ++ _) silent).trans ?_
  cases (entry.callOnSend.1.conn.buildPacket now txBuf).2.2 <;> rfl

theorem datagrams_expired (entry : Entry) (now flag : Nat) :
    (SlotEvent.service now).datagrams (entry.expired.map (flag, ·)) = [] := by
  unfold Entry.expired
  cases entry.callbacks.onClose <;> rfl

section
variable {cfg : IoConnectionConfig} {origin : Nat} {last : Option Nat} {sent : Nat} {slot : Slot}

/-- The connection in a slot is scheduled, as long as the worker runs and the slot has one. -/
def Slot.Scheduled (cfg : IoConnectionConfig) (origin : Nat) (last : Option Nat) (sent : Nat)
    (slot : Slot) : Prop :=
  slot.running = true → ∀ entry, slot.entry = some entry →
    EipScanner.Scheduled cfg origin last sent entry.conn

theorem scheduled_drainCommand (scheduled : slot.Scheduled cfg origin last sent)
    (command : Command) (kept : (SlotEvent.command command).adds = false) :
    (slot.drainCommand command).1.Scheduled cfg origin last sent := by
  cases command with
  | add conn callbacks flag => exact absurd kept nofun
  | remove key => exact fun _ entry none => absurd none nofun
  | setOutput key data =>
    intro running entry changed
    obtain ⟨before, present, rfl⟩ := Option.map_eq_some_iff.mp changed
    exact (scheduled running before present).setOutput data
  | setRun key run =>
    intro running entry changed
    obtain ⟨before, present, rfl⟩ := Option.map_eq_some_iff.mp changed
    exact (scheduled running before present).setRun run
  | shutdown => exact fun running => absurd running Bool.false_ne_true

theorem receive_conn (entry : Entry) (packet : ConnectedPacket) (now : Nat) :
    (entry.receive packet now).1.conn = (entry.conn.onReceive packet now).1 := by
  unfold Entry.receive
  split
  next conn received => rw [received]
  next conn input received =>
    rw [received]
    split <;> rfl

theorem scheduled_receive (scheduled : slot.Scheduled cfg origin last sent)
    (packet : ConnectedPacket) (now : Nat) :
    (slot.receive packet now).1.Scheduled cfg origin last sent := by
  cases present : slot.entry with
  | none =>
    simp only [Slot.receive, present]
    exact scheduled
  | some before =>
    simp only [Slot.receive, present]
    intro running entry changed
    obtain rfl : (before.receive packet now).1 = entry := Option.some.inj changed
    rw [receive_conn]
    exact (scheduled running before present).onReceive packet now

/-- A pass sends nothing, or it sends one packet, in a slot of the grid that no pass has looked at
before, and the packet carries the next number. -/
theorem scheduled_service (scheduled : slot.Scheduled cfg origin last sent)
    (running : slot.running = true) (positive : 0 < cfg.o2tApi)
    (started : origin ≤ last.getD origin) {now : Nat}
    (paced : Paced cfg.o2tApi (last.getD origin) now) :
    ((SlotEvent.service now).datagrams (slot.service now).2 = [] ∧
        (slot.service now).1.Scheduled cfg origin (some now) sent) ∨
      ∃ packet, (SlotEvent.service now).datagrams (slot.service now).2 = [(now, packet)] ∧
        TimeGrid.ahead origin cfg.o2tApi last ≤ TimeGrid.slot origin cfg.o2tApi now ∧
        Carries cfg (sent + 1) packet ∧
        (slot.service now).1.Scheduled cfg origin (some now) (sent + 1) := by
  cases present : slot.entry with
  | none =>
    refine .inl ⟨by simp only [Slot.service, present, SlotEvent.datagrams, List.filterMap_nil], ?_⟩
    intro _ entry found
    simp only [Slot.service, present, reduceCtorEq] at found
  | some entry =>
    have before := scheduled running entry present
    cases late : entry.conn.isTimedOut now with
    | true =>
      simp only [Slot.service, present, late, if_true]
      exact .inl ⟨datagrams_expired entry now entry.flag, fun _ _ none => absurd none (by simp)⟩
    | false =>
      simp only [Slot.service, present, late, Bool.false_eq_true, if_false]
      by_cases due : entry.conn.nextSend ≤ now
      · have isDue : entry.conn.isSendDue now = true := decide_eq_true due
        simp only [isDue, if_true]
        rw [datagrams_transmit]
        obtain ⟨output, edited⟩ := callOnSend_conn entry
        have built := (before.setOutput output).buildPacket started positive due paced.2 []
        rw [← edited] at built
        rcases built with ⟨refused, after⟩ | ⟨accepted, after, carries⟩
        · rw [refused, if_neg Bool.false_ne_true]
          refine .inl ⟨rfl, fun _ served found => ?_⟩
          obtain rfl := Option.some.inj found
          exact after
        · rw [accepted, if_pos rfl]
          refine .inr ⟨_, rfl, before.ahead_le_slot positive due, carries, fun _ served found => ?_⟩
          obtain rfl := Option.some.inj found
          exact after
      · have isDue : entry.conn.isSendDue now = false := decide_eq_false due
        simp only [isDue, Bool.false_eq_true, if_false]
        refine .inl ⟨rfl, fun _ served found => ?_⟩
        obtain rfl : entry = served := Option.some.inj (present.symm.trans found)
        exact before.wait started paced.1 (Nat.lt_of_not_le due)

/-- One event sends nothing, or it is a pass that sends the next packet in a slot that no pass has
looked at before. -/
theorem scheduled_step (scheduled : slot.Scheduled cfg origin last sent)
    (positive : 0 < cfg.o2tApi) (started : origin ≤ last.getD origin) {event : SlotEvent}
    (kept : event.adds = false)
    (paced : ∀ now, event.instant = some now → Paced cfg.o2tApi (last.getD origin) now) :
    (event.datagrams (slotTransducer.step slot event).2 = [] ∧
        (slotTransducer.step slot event).1.Scheduled cfg origin (event.instant.or last) sent) ∨
      ∃ now packet, event.instant = some now ∧
        event.datagrams (slotTransducer.step slot event).2 = [(now, packet)] ∧
        TimeGrid.ahead origin cfg.o2tApi last ≤ TimeGrid.slot origin cfg.o2tApi now ∧
        Carries cfg (sent + 1) packet ∧
        (slotTransducer.step slot event).1.Scheduled cfg origin (some now) (sent + 1) := by
  cases running : slot.running with
  | false =>
    simp only [slotTransducer, running, Bool.false_eq_true, if_false]
    refine .inl ⟨?_, fun going => absurd (running.symm.trans going) Bool.false_ne_true⟩
    cases event <;> rfl
  | true =>
    simp only [slotTransducer, running, if_true]
    cases event with
    | command drained => exact .inl ⟨rfl, scheduled_drainCommand scheduled drained kept⟩
    | datagram packet now => exact .inl ⟨rfl, scheduled_receive scheduled packet now⟩
    | service now =>
      rcases scheduled_service scheduled running positive started (paced now rfl) with
        silent | ⟨packet, sending, slotAhead, carries, after⟩
      · exact .inl silent
      · exact .inr ⟨now, packet, rfl, sending, slotAhead, carries, after⟩

/-! ### Whole runs of a slot -/

/-- What a run sends, from a scheduled slot on: packets in later and later slots of the grid, all
of them ahead of the last pass, and numbered one after the other. -/
structure RunsOnSchedule (cfg : IoConnectionConfig) (origin : Nat) (last : Option Nat) (sent : Nat)
    (packets : List (Nat × Bytes)) : Prop where
  ahead : ∀ packet ∈ packets,
    TimeGrid.ahead origin cfg.o2tApi last ≤ TimeGrid.slot origin cfg.o2tApi packet.1
  increasing : packets.Pairwise fun earlier later =>
    TimeGrid.slot origin cfg.o2tApi earlier.1 < TimeGrid.slot origin cfg.o2tApi later.1
  numbered : ∀ index packet, packets[index]? = some packet →
    Carries cfg (sent + index + 1) packet.2

theorem runsOnSchedule_nil : RunsOnSchedule cfg origin last sent [] :=
  ⟨nofun, .nil, nofun⟩

/-- One more packet in front of a run. -/
theorem runsOnSchedule_cons {now : Nat} {packet : Bytes} {packets : List (Nat × Bytes)}
    (slotAhead : TimeGrid.ahead origin cfg.o2tApi last ≤ TimeGrid.slot origin cfg.o2tApi now)
    (carries : Carries cfg (sent + 1) packet)
    (later : RunsOnSchedule cfg origin (some now) (sent + 1) packets) :
    RunsOnSchedule cfg origin last sent ((now, packet) :: packets) where
  ahead other member := by
    rcases List.mem_cons.mp member with rfl | inLater
    · exact slotAhead
    · have beyond := later.ahead other inLater
      rw [TimeGrid.ahead] at beyond
      omega
  increasing := List.pairwise_cons.mpr ⟨fun other member => later.ahead other member,
    later.increasing⟩
  numbered index other found := by
    cases index with
    | zero =>
      obtain rfl : (now, packet) = other := Option.some.inj found
      exact carries
    | succ index =>
      have next := later.numbered index other found
      rwa [Nat.add_right_comm sent 1 index] at next

/-- An earlier pass that was looked at only raises what is ahead. -/
theorem RunsOnSchedule.of_later {now : Nat} {packets : List (Nat × Bytes)}
    (started : origin ≤ last.getD origin) (passed : last.getD origin ≤ now)
    (later : RunsOnSchedule cfg origin (some now) sent packets) :
    RunsOnSchedule cfg origin last sent packets where
  ahead packet member := by
    have beyond := later.ahead packet member
    cases last with
    | none => exact Nat.zero_le _
    | some earlier =>
      have order : TimeGrid.slot origin cfg.o2tApi earlier ≤ TimeGrid.slot origin cfg.o2tApi now :=
        Nat.div_le_div_right (Nat.sub_le_sub_right passed origin)
      simp only [TimeGrid.ahead] at beyond ⊢
      omega
  increasing := later.increasing
  numbered := later.numbered

end

/-- A run without a new connection, in which every pass is paced by the one before, stays on
schedule. -/
theorem scheduled_run {cfg : IoConnectionConfig} {origin : Nat} (positive : 0 < cfg.o2tApi)
    (events : List SlotEvent) (kept : ∀ event ∈ events, event.adds = false) :
    ∀ {last : Option Nat} {sent : Nat} {slot : Slot}, slot.Scheduled cfg origin last sent →
      origin ≤ last.getD origin →
      (last.getD origin :: events.filterMap SlotEvent.instant).IsChain (Paced cfg.o2tApi) →
      RunsOnSchedule cfg origin last sent (slot.packets events) ∧
        (slotTransducer.run slot events).Scheduled cfg origin
          ((events.filterMap SlotEvent.instant).getLast?.or last)
          (sent + (slot.packets events).length) := by
  induction events with
  | nil =>
    intro last sent slot scheduled _ _
    exact ⟨runsOnSchedule_nil, scheduled⟩
  | cons event later inductionHypothesis =>
    intro last sent slot scheduled started chain
    have keptLater := fun other member => kept other (List.mem_cons_of_mem event member)
    have keptHead := kept event List.mem_cons_self
    rw [Slot.packets, Transducer.run]
    cases passed : event.instant with
    | none =>
      rw [List.filterMap_cons_none passed] at chain ⊢
      have step := scheduled_step scheduled positive started keptHead
        (fun now found => absurd (passed.symm.trans found) (by simp))
      rw [passed] at step
      rcases step with ⟨silent, after⟩ | ⟨now, packet, found, -⟩
      · rw [silent, List.nil_append]
        exact inductionHypothesis keptLater after started chain
      · exact absurd found (by simp)
    | some now =>
      rw [List.filterMap_cons_some passed] at chain ⊢
      obtain ⟨paced, chainLater⟩ := List.isChain_cons_cons.mp chain
      have startedLater : origin ≤ (some now).getD origin := started.trans paced.1
      have lastPass : (now :: later.filterMap SlotEvent.instant).getLast?.or last =
          (later.filterMap SlotEvent.instant).getLast?.or (some now) := by
        rw [List.getLast?_cons]
        cases (later.filterMap SlotEvent.instant).getLast? <;> rfl
      have step := scheduled_step scheduled positive started keptHead
        (fun instant found => Option.some.inj (passed.symm.trans found) ▸ paced)
      rw [passed] at step
      rw [lastPass]
      rcases step with ⟨silent, after⟩ |
        ⟨instant, packet, found, sending, slotAhead, carries, after⟩
      · obtain ⟨onSchedule, final⟩ := inductionHypothesis keptLater after startedLater chainLater
        rw [silent, List.nil_append]
        exact ⟨onSchedule.of_later started paced.1, final⟩
      · obtain rfl := Option.some.inj found
        obtain ⟨onSchedule, final⟩ := inductionHypothesis keptLater after startedLater chainLater
        rw [sending, List.singleton_append, List.length_cons, Nat.add_comm _ 1, ← Nat.add_assoc]
        exact ⟨runsOnSchedule_cons slotAhead carries onSchedule, final⟩

/-! ### Whole runs of the worker -/

/-- The instant of a service pass. -/
def WorkerEvent.instant : WorkerEvent → Option Nat
  | .service _ now => some now
  | _ => none

/-- The passes of a run are the same under every key. -/
theorem instants_underKey (key : ConnectionKey) (events : List WorkerEvent) :
    (events.filterMap (WorkerEvent.underKey key)).filterMap SlotEvent.instant =
      events.filterMap WorkerEvent.instant := by
  rw [List.filterMap_filterMap]
  refine List.filterMap_congr fun event _ => ?_
  cases event with
  | service preferred now => rfl
  | command drained =>
    cases found : (WorkerEvent.command drained).underKey key with
    | none => rfl
    | some kept =>
      obtain ⟨-, rfl⟩ := underKey_command found
      rfl
  | receive source datagram now =>
    cases found : (WorkerEvent.receive source datagram now).underKey key with
    | none => rfl
    | some kept =>
      obtain ⟨peerIp, packet, -, -, -, rfl⟩ := underKey_receive found
      rfl

/-- Rate and numbering of the packets of one connection, over any run of the worker from when the
connection was put into the map. The run may contain any commands but another connection under
the same key, and any datagrams; its passes are at nondecreasing instants less than 2^32
intervals apart. Then the packets lie in different slots of the grid, in order; the n-th packet
carries the number n; and after the run the connection counts exactly these packets, and is next
due at the first grid point after the last pass. -/
theorem rate_and_numbering (key : ConnectionKey) (worker : Worker) (events : List WorkerEvent)
    (cfg : IoConnectionConfig) (callbacks : IoCallbacks) (flag origin : Nat)
    (added : worker.connections.lookup key =
      some ⟨IoConnection.new cfg origin, callbacks, flag, []⟩)
    (positive : 0 < cfg.o2tApi)
    (paced : (origin :: events.filterMap WorkerEvent.instant).IsChain (Paced cfg.o2tApi))
    (alone : ∀ conn callbacks flag, .command (.add conn callbacks flag) ∈ events →
      conn.cfg.key ≠ key) :
    let packets := worker.packets key events
    (packets.Pairwise fun earlier later =>
        TimeGrid.slot origin cfg.o2tApi earlier.1 < TimeGrid.slot origin cfg.o2tApi later.1) ∧
      (∀ index packet, packets[index]? = some packet →
        connectedSequenceNumber packet.2 = (index + 1) % 2 ^ 32 ∧
          (cfg.hasSequenceCount = true →
            IoConnection.packetSequenceCount packet.2 = (index + 1) % 2 ^ 16)) ∧
      ∀ after, (workerTransducer.run worker events).running = true →
        (workerTransducer.run worker events).connections.lookup key = some after →
          after.conn.nextSend = origin + TimeGrid.ahead origin cfg.o2tApi
              (events.filterMap WorkerEvent.instant).getLast? * cfg.o2tApi ∧
            after.conn.o2tSequenceNumber.toNat = packets.length % 2 ^ 32 ∧
            (cfg.hasSequenceCount = true →
              after.conn.sequenceCount.toNat = packets.length % 2 ^ 16) := by
  have start : (worker.slot key).Scheduled cfg origin none 0 := by
    intro _ entry present
    obtain rfl := Option.some.inj (added.symm.trans present)
    exact scheduled_new cfg origin
  have kept : ∀ event ∈ events.filterMap (WorkerEvent.underKey key), event.adds = false := by
    intro event member
    obtain ⟨source, inRun, found⟩ := List.mem_filterMap.mp member
    cases source with
    | service preferred now =>
      obtain rfl : SlotEvent.service now = event := Option.some.inj found
      rfl
    | receive source datagram now =>
      obtain ⟨peerIp, packet, -, -, -, rfl⟩ := underKey_receive found
      rfl
    | command drained =>
      obtain ⟨addressed, rfl⟩ := underKey_command found
      cases drained with
      | add conn callbacks flag => exact absurd (addressed _ rfl) (alone conn callbacks flag inRun)
      | remove removed => rfl
      | setOutput changed data => rfl
      | setRun changed run => rfl
      | shutdown => rfl
  obtain ⟨onSchedule, final⟩ := scheduled_run positive _ kept start le_rfl
    ((instants_underKey key events).symm ▸ paced)
  rw [instants_underKey, Option.or_none, Nat.zero_add] at final
  intro packets
  have same : packets = (worker.slot key).packets (events.filterMap (WorkerEvent.underKey key)) :=
    packets_eq_slot_packets key worker events
  rw [← same] at onSchedule final
  refine ⟨onSchedule.increasing, fun index packet found => ?_, fun after running present => ?_⟩
  · have carries := onSchedule.numbered index packet found
    rw [Nat.zero_add] at carries
    exact ⟨carries.sequenceNumber, carries.sequenceCount⟩
  · have projected := (slotProjection key).view_run worker events
    have scheduled := final (projected ▸ running) after (projected ▸ present)
    exact ⟨scheduled.nextSend, scheduled.sequenceNumber, scheduled.sequenceCount⟩

/-- A worker with one connection, whose callbacks do nothing. -/
def mirroredWorker : Worker :=
  (Worker.new.drainCommand
    (.add (IoConnection.new IoConnection.mirroredConfig 0) ⟨false, none, false⟩ 0)).1

/-- A pass in time, a late one that refuses an output of the wrong size, and a third. -/
def refusedSlot : List WorkerEvent :=
  [.service [] 0, .command (.setOutput IoConnection.mirroredConfig.key [1]), .service [] 12000000,
    .command (.setOutput IoConnection.mirroredConfig.key [1, 2]), .service [] 25000000]

/-- The slot of the refused output costs no number: the next packet is the second. -/
theorem rate_and_numbering_refusedSlot :
    ∃ packet, (mirroredWorker.packets IoConnection.mirroredConfig.key refusedSlot)[1]? =
      some packet ∧ packet.1 = 25000000 ∧ connectedSequenceNumber packet.2 = 2 := by
  have paced : (0 :: refusedSlot.filterMap WorkerEvent.instant).IsChain
      (Paced IoConnection.mirroredConfig.o2tApi) := by
    simp only [refusedSlot, WorkerEvent.instant, IoConnection.mirroredConfig, List.filterMap_cons,
      List.filterMap_nil, List.isChain_cons_cons, List.isChain_singleton, Paced, and_true]
    omega
  have alone : ∀ conn callbacks flag, .command (.add conn callbacks flag) ∈ refusedSlot →
      conn.cfg.key ≠ IoConnection.mirroredConfig.key := by
    intro conn callbacks flag member
    simp only [refusedSlot, List.mem_cons, reduceCtorEq, WorkerEvent.command.injEq,
      List.not_mem_nil, or_self] at member
  obtain ⟨-, numbered, -⟩ := rate_and_numbering IoConnection.mirroredConfig.key mirroredWorker
    refusedSlot IoConnection.mirroredConfig ⟨false, none, false⟩ 0 0 rfl (by decide) paced alone
  exact ⟨_, rfl, rfl, (numbered 1 _ rfl).1⟩

end EipScanner
