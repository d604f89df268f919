/-
This file is the arithmetic of a periodic schedule. The points of a grid are
`origin + k * period`; the half-open interval from one point to the next is a slot.
A scheduler that was due at some grid point and looks at the clock late has to find
the first grid point after the present, however many it has missed. The first such
point is computed with one division, and starts a later slot than the present one.
-/

import Mathlib.Tactic

namespace TimeGrid

/-- The number of the slot that contains an instant. -/
def slot (origin period instant : Nat) : Nat := (instant - origin) / period

/-- The first point after `now` of the grid through `due`. -/
def next (period due now : Nat) : Nat := due + period * ((now - due) / period + 1)

variable {origin period due now : Nat}

theorem lt_next (positive : 0 < period) : now < next period due now := by
  have remainder : now - due < period * ((now - due) / period + 1) := by
    rw [Nat.mul_add, Nat.mul_one]
    have split := Nat.div_add_mod (now - due) period
    have small := Nat.mod_lt (now - due) positive
    omega
  unfold next
  omega

/-- No grid point between the present and the computed one was passed over. -/
theorem next_least (late : due ≤ now) (count : Nat) (after : now < due + count * period) :
    next period due now ≤ due + count * period := by
  have missed : (now - due) / period < count := by
    refine Nat.div_lt_of_lt_mul ?_
    rw [Nat.mul_comm]
    omega
  have steps : period * ((now - due) / period + 1) ≤ count * period := by
    rw [Nat.mul_comm count]
    exact Nat.mul_le_mul_left period missed
  unfold next
  omega

/-- The computed point is on the grid that the due point is on. -/
theorem next_mem_grid {index : Nat} (onGrid : due = origin + index * period) :
    next period due now = origin + (index + (now - due) / period + 1) * period := by
  rw [next, onGrid]
  ring

/-! ### The slots still ahead -/

/-- The first slot after those that were looked at, of which the last is given. -/
def ahead (origin period : Nat) : Option Nat → Nat
  | none => 0
  | some last => slot origin period last + 1

/-- An instant at or after the start of a slot lies in that slot or a later one. -/
theorem le_slot (positive : 0 < period) {index instant : Nat}
    (reached : origin + index * period ≤ instant) : index ≤ slot origin period instant := by
  rw [slot, Nat.le_div_iff_mul_le positive]
  omega

theorem lt_ahead (positive : 0 < period) (started : origin ≤ now) :
    now < origin + ahead origin period (some now) * period := by
  have inside : now - origin < (slot origin period now + 1) * period :=
    Nat.lt_mul_of_div_lt (Nat.lt_succ_self _) positive
  rw [ahead]
  omega

/-- Looking again before the next slot starts changes nothing. -/
theorem ahead_eq_of_lt {last : Option Nat}
    (passed : last.getD origin ≤ now) (looked : last.isSome = true)
    (started : origin ≤ last.getD origin)
    (before : now < origin + ahead origin period last * period) :
    ahead origin period (some now) = ahead origin period last := by
  obtain ⟨earlier, rfl⟩ := Option.isSome_iff_exists.mp looked
  have low : slot origin period earlier ≤ slot origin period now :=
    Nat.div_le_div_right (Nat.sub_le_sub_right passed origin)
  have high : slot origin period now < slot origin period earlier + 1 := by
    refine Nat.div_lt_of_lt_mul ?_
    rw [ahead, Nat.mul_comm] at before
    omega
  simp only [ahead]
  omega

/-- From a due point on the grid, the first point after the present starts the slot ahead. -/
theorem next_eq_ahead (positive : 0 < period) {index : Nat}
    (late : origin + index * period ≤ now) :
    next period (origin + index * period) now =
      origin + ahead origin period (some now) * period := by
  have whole : slot origin period now = (now - (origin + index * period)) / period + index := by
    rw [slot, ← Nat.add_mul_div_right _ _ positive]
    congr 1
    omega
  rw [next, ahead, whole]
  ring

end TimeGrid
