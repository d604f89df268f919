/-
This file says on which point of its grid a send leaves the schedule. The O->T sends of a
connection fall on the points `origin + index * interval`, and building a packet moves the
next send to the least point after the present, whether or not the packet is refused.

The number of missed slots is narrowed to 32 bits before it multiplies the interval. So the
schedule lands on that point exactly when the send is less than 2^32 intervals late. A later
send loses the high bits of the number, and stays at or before the present.
-/

import EipScanner.Deadline

namespace EipScanner

/-- The points of a grid that lie after an instant. -/
def gridAfter (origin interval now : Nat) : Set Nat :=
  {instant | now < instant ∧ ∃ index, instant = origin + index * interval}

/-- The computed point is the least one after the present, of the grid that the due point is
on. -/
theorem isLeast_next {origin interval due now index : Nat} (positive : 0 < interval)
    (onGrid : due = origin + index * interval) (late : due ≤ now) :
    IsLeast (gridAfter origin interval now) (TimeGrid.next interval due now) := by
  refine ⟨⟨TimeGrid.lt_next positive, _, TimeGrid.next_mem_grid onGrid⟩, ?_⟩
  rintro instant ⟨after, other, rfl⟩
  have ahead : index ≤ other := by
    by_contra behind
    have before : origin + other * interval ≤ due := by
      rw [onGrid]
      exact Nat.add_le_add_left (Nat.mul_le_mul_right _ (Nat.le_of_not_le behind)) _
    exact absurd (after.trans_le (before.trans late)) (Nat.lt_irrefl _)
  have steps : origin + other * interval = due + (other - index) * interval := by
    rw [onGrid, Nat.add_assoc, ← Nat.add_mul, Nat.add_sub_of_le ahead]
  rw [steps] at after ⊢
  exact TimeGrid.next_least late _ after

/-- A due send of a connection with an interval of at least a microsecond is moved to the least
point of its grid after the present exactly when it is less than 2^32 intervals late. -/
theorem isLeast_nextSend_buildPacket_iff (conn : IoConnection) {origin index now : Nat}
    (out : Bytes) (interval : 1000 ≤ conn.cfg.o2tApi)
    (onGrid : conn.nextSend = origin + index * conn.cfg.o2tApi) (due : conn.nextSend ≤ now) :
    IsLeast (gridAfter origin conn.cfg.o2tApi now) (conn.buildPacket now out).1.nextSend ↔
      now < conn.nextSend + 2 ^ 32 * conn.cfg.o2tApi := by
  have positive : 0 < conn.cfg.o2tApi := Nat.lt_of_lt_of_le (by decide) interval
  rw [IoConnection.buildPacket_nextSend]
  constructor
  · intro least
    exact (lt_advance_iff due).mp least.1.1
  · intro near
    rw [conn.advance_eq_next now positive due near]
    exact isLeast_next positive onGrid due

/-- A reply that grants an O->T interval of one microsecond, and 10 ms the other way. -/
def microsecondReply : ForwardOpenResponse := ⟨0x100, 0x200, 1, 0, 0, 1, 10000, []⟩

/-- The connection opened with that reply, added at the origin of time. -/
def microsecondConnection : IoConnection :=
  IoConnection.new (ioConnectionConfig (assemblyConfig [] .fixed) microsecondReply
    ⟨⟨7⟩, defaultImplicitPort⟩ ⟨7⟩) 0

/-- Seven microseconds late, the send moves to the eighth. -/
theorem isLeast_nextSend_buildPacket_iff_microsecond :
    IsLeast (gridAfter 0 1000 7300) (microsecondConnection.buildPacket 7300 []).1.nextSend :=
  (@isLeast_nextSend_buildPacket_iff microsecondConnection 0 0 7300 [] (by decide) rfl
    (by decide)).mpr (by decide)

/-- After a stall of 2^32 microseconds, the schedule is left at the first microsecond. -/
theorem not_isLeast_nextSend_stalled :
    microsecondConnection.cfg.o2tApi = 1000 ∧ microsecondConnection.nextSend = 0 ∧
      (microsecondConnection.buildPacket (2 ^ 32 * 1000) []).1.nextSend = 1000 ∧
      ¬ IsLeast (gridAfter 0 1000 (2 ^ 32 * 1000))
        (microsecondConnection.buildPacket (2 ^ 32 * 1000) []).1.nextSend := by
  have left : (microsecondConnection.buildPacket (2 ^ 32 * 1000) []).1.nextSend = 1000 := by
    decide
  refine ⟨rfl, rfl, left, fun least => ?_⟩
  rw [left] at least
  exact absurd least.1.1 (by decide)

end EipScanner
