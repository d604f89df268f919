/-
This file says for how long the I/O thread sleeps after a service pass: until the first of
the deadlines of the connections that remain, but at most for its idle wait. The deadline is
never later than what a connection asks for. It is after the present exactly when every
connection that was due was moved past the present.

Moving a schedule past the present takes a positive interval, and the number of missed slots
has to fit in 32 bits. The interval is whatever the device granted, and a device may grant
zero. Then the connection stays due, and the thread does not sleep at all.

The end of the idle wait is a sum of an instant and a duration that the user chooses, and the
addition panics where the platform cannot represent the sum. Then there is no deadline.
-/

import EipScanner.Timeout

namespace EipScanner

/-! ### The deadline -/

/-- An instant and a duration are added. The addition panics unless the sum is before a limit, the
first instant that the platform cannot represent. -/
def instantAdd (limit instant duration : Nat) : Option Nat :=
  if instant + duration < limit then some (instant + duration) else none

/-- The first of the deadlines of the connections and of the end of the idle wait. -/
def Worker.firstDeadline (worker : Worker) (idle : Nat) : Nat :=
  min ((worker.connections.entries.map fun entry => entry.2.conn.nextDeadline).min?.getD idle) idle

/-- How long the loop sleeps after a pass: until the first of the deadlines of the connections, but
at most for the idle wait. -/
def Worker.deadline (worker : Worker) (limit idleWait now : Nat) : Option Nat :=
  (instantAdd limit now idleWait).map worker.firstDeadline

theorem deadline_eq_some_iff {worker : Worker} {limit idleWait now deadline : Nat} :
    worker.deadline limit idleWait now = some deadline ↔
      now + idleWait < limit ∧ worker.firstDeadline (now + idleWait) = deadline := by
  simp only [Worker.deadline, instantAdd, Option.map_eq_some_iff, Option.ite_none_right_eq_some,
    Option.some.injEq, and_assoc, exists_eq_left', exists_and_left]

theorem lt_firstDeadline_iff (worker : Worker) (idle bound : Nat) :
    bound < worker.firstDeadline idle ↔
      bound < idle ∧ ∀ key entry, worker.connections.lookup key = some entry →
        bound < entry.conn.nextDeadline := by
  have member : ∀ key entry, worker.connections.lookup key = some entry ↔
      ⟨key, entry⟩ ∈ worker.connections.entries := fun key entry => AList.mem_lookup_iff
  simp only [Worker.firstDeadline, lt_min_iff, member]
  rw [and_comm]
  refine and_congr_right fun early => ?_
  cases first : (worker.connections.entries.map fun entry => entry.2.conn.nextDeadline).min? with
  | none =>
    have empty := List.map_eq_nil_iff.mp (List.min?_eq_none_iff.mp first)
    simp only [Option.getD_none, early, empty, List.not_mem_nil, false_imp_iff, implies_true]
  | some least =>
    have lower := @List.le_min?_iff _ _ _ _ _ _ first (bound + 1)
    simp only [Option.getD_some, Nat.lt_iff_add_one_le, lower, List.mem_map, Sigma.exists]
    constructor
    · exact fun all key entry inMap => all _ ⟨key, entry, inMap, rfl⟩
    · rintro all _ ⟨key, entry, inMap, rfl⟩
      exact all key entry inMap

/-- The loop does not sleep past what a connection waits for. -/
theorem firstDeadline_le {worker : Worker} {key : ConnectionKey} {entry : Entry} (idle : Nat)
    (found : worker.connections.lookup key = some entry) :
    worker.firstDeadline idle ≤ entry.conn.nextSend ∧
      worker.firstDeadline idle ≤ entry.conn.timeoutAt := by
  have within : worker.firstDeadline idle ≤ entry.conn.nextDeadline := by
    by_contra late
    exact absurd (((lt_firstDeadline_iff worker idle _).mp (Nat.lt_of_not_le late)).2 key entry
      found) (Nat.lt_irrefl _)
  exact ⟨within.trans (Nat.min_le_left _ _), within.trans (Nat.min_le_right _ _)⟩

/-- A send that is 2^32 intervals late or more is not moved past the present: the number of missed
slots loses its high bits. An interval of zero is the case where every due send is so late. -/
theorem advance_le_of_far {conn : IoConnection} {now : Nat}
    (far : conn.nextSend + 2 ^ 32 * conn.cfg.o2tApi ≤ now) : conn.advance now ≤ now := by
  have late : conn.nextSend + conn.cfg.o2tApi ≤ now := by omega
  rcases Nat.eq_zero_or_pos conn.cfg.o2tApi with zero | positive
  · rw [IoConnection.advance]
    dsimp only
    rw [if_pos late, zero, Nat.zero_mul]
    omega
  · have many : 2 ^ 32 ≤ (now - conn.nextSend) / conn.cfg.o2tApi := by
      rw [Nat.le_div_iff_mul_le positive]
      omega
    have lost : (now - conn.nextSend) / conn.cfg.o2tApi % 2 ^ 32 + 2 ^ 32 ≤
        (now - conn.nextSend) / conn.cfg.o2tApi := by omega
    have passed : conn.cfg.o2tApi * ((now - conn.nextSend) / conn.cfg.o2tApi % 2 ^ 32) +
        conn.cfg.o2tApi * 2 ^ 32 ≤ now - conn.nextSend := by
      rw [← Nat.mul_add]
      exact (Nat.mul_le_mul_left _ lost).trans (Nat.mul_div_le _ _)
    rw [conn.advance_of_late now positive late]
    omega

/-- A due send is moved past the present exactly when it is less than 2^32 intervals late. -/
theorem lt_advance_iff {conn : IoConnection} {now : Nat} (due : conn.nextSend ≤ now) :
    now < conn.advance now ↔ now < conn.nextSend + 2 ^ 32 * conn.cfg.o2tApi := by
  constructor
  · intro moved
    by_contra far
    exact absurd (advance_le_of_far (Nat.le_of_not_lt far)) (Nat.not_le_of_lt moved)
  · intro near
    have positive : 0 < conn.cfg.o2tApi := by
      refine Nat.pos_of_ne_zero fun zero => ?_
      rw [zero, Nat.mul_zero, Nat.add_zero] at near
      omega
    rw [conn.advance_eq_next now positive due near]
    exact TimeGrid.lt_next positive

theorem nextSend_transmit (entry : Entry) (now : Nat) (txBuf : Bytes) :
    (entry.transmit now txBuf).1.conn.nextSend = entry.conn.advance now := by
  obtain ⟨output, edited⟩ := callOnSend_conn entry
  have conn : (entry.transmit now txBuf).1.conn =
      (entry.callOnSend.1.conn.buildPacket now txBuf).1 := rfl
  rw [conn, IoConnection.buildPacket_nextSend, edited]
  rfl

theorem timeoutAt_transmit (entry : Entry) (now : Nat) (txBuf : Bytes) :
    (entry.transmit now txBuf).1.conn.timeoutAt = entry.conn.timeoutAt := by
  have continues := continues_transmit entry now txBuf
  rw [IoConnection.timeoutAt, continues.lastReceive, continues.cfg]
  rfl

/-- What a pass leaves under a key: nothing if the connection timed out, the connection after its
send if it was due, or the connection as it was. -/
theorem lookup_serviceConnections (worker : Worker) (preferred : List ConnectionKey) (now : Nat)
    {key : ConnectionKey} {after : Entry} :
    (worker.serviceConnections preferred now).1.connections.lookup key = some after ↔
      ∃ entry, worker.connections.lookup key = some entry ∧ now < entry.conn.timeoutAt ∧
        after = if entry.conn.nextSend ≤ now then (entry.transmit now []).1 else entry := by
  have view : (worker.serviceConnections preferred now).1.connections.lookup key =
      ((worker.slot key).service now).1.entry :=
    congrArg (fun served => served.1.entry)
      (Worker.slot_serviceConnections key worker preferred now)
  rw [view]
  cases found : worker.connections.lookup key with
  | none =>
    have vacant : (worker.slot key).entry = none := found
    simp only [Slot.service, vacant, reduceCtorEq, false_and, exists_false]
  | some entry =>
    have occupied : (worker.slot key).entry = some entry := found
    simp only [Slot.service, occupied, IoConnection.isTimedOut, IoConnection.isSendDue,
      decide_eq_true_iff, Option.some.injEq, exists_eq_left']
    by_cases late : entry.conn.timeoutAt ≤ now
    · rw [if_pos late]
      exact ⟨(by simp), fun both => absurd late (Nat.not_le_of_lt both.1)⟩
    · rw [if_neg late, and_iff_right (Nat.lt_of_not_le late)]
      split
      · exact ⟨fun same => (Option.some.inj same).symm, fun same => congrArg some same.symm⟩
      · rw [occupied, Option.some.injEq]
        exact eq_comm

/-! ### The loop neither spins nor oversleeps -/

/-- The loop computes a deadline after a pass, sleeps until then, and not past anything a connection
waits for. -/
def Worker.WakesInTime (worker : Worker) (limit idleWait now : Nat) : Prop :=
  ∃ deadline, worker.deadline limit idleWait now = some deadline ∧ now < deadline ∧
    ∀ key entry, worker.connections.lookup key = some entry →
      deadline ≤ entry.conn.nextSend ∧ deadline ≤ entry.conn.timeoutAt

/-- The send of a connection at an instant is less than 2^32 intervals late, if it is due. -/
def IoConnection.Punctual (conn : IoConnection) (now : Nat) : Prop :=
  conn.nextSend ≤ now → now < conn.nextSend + 2 ^ 32 * conn.cfg.o2tApi

/-- After a pass over any connections, the loop neither spins nor oversleeps exactly when the end of
the idle wait can be represented and every connection that has not timed out is less than 2^32
intervals late. No due connection with an interval of zero is. -/
theorem wakesInTime_iff (worker : Worker) (preferred : List ConnectionKey) (limit : Nat)
    {idleWait : Nat} (positive : 0 < idleWait) (now : Nat) :
    (worker.serviceConnections preferred now).1.WakesInTime limit idleWait now ↔
      now + idleWait < limit ∧
        ∀ key entry, worker.connections.lookup key = some entry → now < entry.conn.timeoutAt →
          entry.conn.Punctual now := by
  have sleeps : (worker.serviceConnections preferred now).1.WakesInTime limit idleWait now ↔
      now + idleWait < limit ∧
        ∀ key after, (worker.serviceConnections preferred now).1.connections.lookup key =
          some after → now < after.conn.nextDeadline := by
    simp only [Worker.WakesInTime, deadline_eq_some_iff, and_assoc, exists_and_left,
      exists_eq_left', lt_firstDeadline_iff]
    refine and_congr_right fun _ => ?_
    rw [and_iff_right (Nat.lt_add_of_pos_right positive),
      and_iff_left fun key entry => firstDeadline_le _]
  rw [sleeps]
  refine and_congr_right fun _ => ?_
  constructor
  · intro awake key entry found inTime due
    have remains := awake key (entry.transmit now []).1
      ((lookup_serviceConnections worker preferred now).mpr
        ⟨entry, found, inTime, (if_pos due).symm⟩)
    rw [IoConnection.nextDeadline, nextSend_transmit] at remains
    exact (lt_advance_iff due).mp (lt_min_iff.mp remains).1
  · intro punctual key after found
    obtain ⟨entry, present, inTime, rfl⟩ :=
      (lookup_serviceConnections worker preferred now).mp found
    by_cases due : entry.conn.nextSend ≤ now
    · rw [if_pos due, IoConnection.nextDeadline, nextSend_transmit, timeoutAt_transmit]
      exact lt_min ((lt_advance_iff due).mpr (punctual key entry present inTime due)) inTime
    · rw [if_neg due]
      exact lt_min (Nat.lt_of_not_le due) inTime

/-- The loop sleeps after the first pass over the connection that was granted 10 ms. -/
theorem wakesInTime_iff_timedWorker :
    (timedWorker.serviceConnections [] 1000).1.WakesInTime (2 ^ 63 * 10 ^ 9) 100000000 1000 := by
  refine (wakesInTime_iff timedWorker [] _ (by decide) 1000).mpr
    ⟨by decide, fun key entry found _ _ => ?_⟩
  have only : entry.conn =
      IoConnection.new (grantedConnection (assemblyConfig [] .fixed) ⟨7⟩).ioConfig 1000 := by
    have inMap := AList.mem_lookup_iff.mp found
    cases List.mem_singleton.mp inMap
    rfl
  rw [only]
  decide

/-- A reply that grants an O->T interval of zero, and 10 ms the other way. -/
def zeroIntervalResponse : MessageRouterResponse :=
  { grantedResponse with
    data := [0x00, 0x01, 0, 0, 0x00, 0x02, 0, 0, 1, 0, 0, 0, 0, 0, 0, 0, 0, 0, 0, 0,
      0x10, 0x27, 0, 0, 0, 0] }

def zeroIntervalReply : ForwardOpenResponse := ⟨0x100, 0x200, 1, 0, 0, 0, 10000, []⟩

/-- The connection is due again as soon as it has sent, so the loop does not sleep. -/
theorem not_wakesInTime_zeroInterval :
    let config := assemblyConfig [] .fixed
    let opened : OpenedConnection :=
      { grantedConnection config ⟨7⟩ with
        ioConfig := ioConnectionConfig config zeroIntervalReply ⟨⟨7⟩, defaultImplicitPort⟩ ⟨7⟩ }
    let worker := (Worker.new.drainCommand
      (.add (IoConnection.new opened.ioConfig 1000) ⟨false, none, false⟩ 0)).1
    prepareOpen ⟨0, 0⟩ config = .ok (routerRequest ⟨0, 0⟩ config, ⟨1, 1⟩) ∧
      completeOpen config zeroIntervalResponse ⟨7⟩ = .ok opened ∧
      ∀ limit, ¬ (worker.serviceConnections [] 1000).1.WakesInTime limit 100000000 1000 := by
  refine ⟨prepareOpen_assemblyConfig .fixed (Nat.zero_le _), rfl, fun limit awake => ?_⟩
  obtain ⟨deadline, computed, later, _⟩ := awake
  obtain ⟨_, rfl⟩ := deadline_eq_some_iff.mp computed
  exact absurd later (by decide)

end EipScanner
