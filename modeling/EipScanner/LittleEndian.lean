/-
This file is the byte arithmetic that every wire format of the development rests
on. A number is written as a fixed count of bytes, least significant first, and a
list of bytes is read back as a number. Writing and reading are inverse up to the
width: a value is recovered modulo `256 ^ width`, and a list of bytes is recovered
from its value and its length.

Nothing here names a packet or a field. The widths and values are arbitrary.
-/

import Mathlib.Tactic

namespace LittleEndian

/-- The `width` lowest base-256 digits of a number, least significant first. -/
def digits : Nat → Nat → List UInt8
  | 0, _ => []
  | width + 1, number => UInt8.ofNat number :: digits width (number / 256)

/-- The number a list of base-256 digits denotes. -/
def number : List UInt8 → Nat
  | [] => 0
  | digit :: higher => digit.toNat + 256 * number higher

@[simp]
theorem length_digits (width value : Nat) : (digits width value).length = width := by
  induction width generalizing value with
  | zero => rfl
  | succ width inductionHypothesis =>
    rw [digits, List.length_cons, inductionHypothesis]

/-- Reading back what was written recovers the number up to the width. -/
theorem number_digits (width value : Nat) : number (digits width value) = value % 256 ^ width := by
  induction width generalizing value with
  | zero => rw [digits, number, Nat.pow_zero, Nat.mod_one]
  | succ width inductionHypothesis =>
    have split : value % 256 ^ (width + 1) =
        value % 256 + 256 * (value / 256 % 256 ^ width) := by
      rw [Nat.pow_succ', Nat.mod_mul]
    rw [digits, number, inductionHypothesis, UInt8.toNat_ofNat', split]

/-- A number that fits its width is read back exactly. -/
theorem number_digits_of_lt {width value : Nat} (fits : value < 256 ^ width) :
    number (digits width value) = value := by
  rw [number_digits, Nat.mod_eq_of_lt fits]

/-- Digits denote a number below the power of their count. -/
theorem number_lt (bytes : List UInt8) : number bytes < 256 ^ bytes.length := by
  induction bytes with
  | nil => exact Nat.one_pos
  | cons digit higher inductionHypothesis =>
    have low : digit.toNat < 256 := digit.toNat_lt
    rw [number, List.length_cons, Nat.pow_succ]
    omega

/-- Writing back what was read recovers the bytes. -/
theorem digits_number (bytes : List UInt8) : digits bytes.length (number bytes) = bytes := by
  induction bytes with
  | nil => rfl
  | cons digit higher inductionHypothesis =>
    have low : digit.toNat < 256 := digit.toNat_lt
    have lowest : UInt8.ofNat (digit.toNat + 256 * number higher) = digit := by
      refine UInt8.toNat_inj.mp ?_
      rw [UInt8.toNat_ofNat']
      omega
    have rest : (digit.toNat + 256 * number higher) / 256 = number higher := by omega
    rw [List.length_cons, number, digits, lowest, rest, inductionHypothesis]

/-- Taking exactly the written digits off the front of a longer list. -/
@[simp]
theorem take_digits_append (width value : Nat) (rest : List UInt8) :
    (digits width value ++ rest).take width = digits width value :=
  List.take_left' (length_digits width value)

@[simp]
theorem drop_digits_append (width value : Nat) (rest : List UInt8) :
    (digits width value ++ rest).drop width = rest :=
  List.drop_left' (length_digits width value)

end LittleEndian
