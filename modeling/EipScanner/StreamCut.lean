/-
This file is about a receiver that cuts a stream into units as its symbols come in. Where the
first unit ends is known from the front of the stream; a unit is cut off as soon as all of
it is there, and the rest is kept for later.

The receiver knows nothing of the writers. If what it has kept is empty and a writer adds
one unit, then it cuts off that unit. If it has kept something, then the symbols that a
writer adds are never cut off as a unit of their own: the first unit begins with what was
kept, and takes some of them.

Nothing here names a packet or a byte. The symbols and the measure of a unit are arbitrary.
-/

import Mathlib.Tactic

namespace StreamCut

variable {Symbol : Type*}

/-- A measure of the unit at the front of a stream, known once all of it is there. -/
structure Measures (front : List Symbol → Option Nat) : Prop where
  within : ∀ stream size, front stream = some size → 0 < size ∧ size ≤ stream.length
  settled : ∀ stream later size, front (stream ++ later) = some size → size ≤ stream.length →
    front stream = some size

/-- Cut off at most a number of units. -/
def cutUnits (front : List Symbol → Option Nat) :
    Nat → List Symbol → List (List Symbol) × List Symbol
  | 0, stream => ([], stream)
  | count + 1, stream =>
    match front stream with
    | none => ([], stream)
    | some size =>
      let (units, rest) := cutUnits front count (stream.drop size)
      (stream.take size :: units, rest)

/-- The units that are complete, and what is kept. -/
def cut (front : List Symbol → Option Nat) (stream : List Symbol) :
    List (List Symbol) × List Symbol :=
  cutUnits front stream.length stream

variable {front : List Symbol → Option Nat} {stream behind unit : List Symbol} {size : Nat}

theorem cutUnits_succ (count : Nat) (measured : front stream = some size) :
    cutUnits front (count + 1) stream =
      (stream.take size :: (cutUnits front count (stream.drop size)).1,
        (cutUnits front count (stream.drop size)).2) := by
  rw [cutUnits, measured]

theorem cutUnits_of_none (count : Nat) (short : front stream = none) :
    cutUnits front count stream = ([], stream) := by
  cases count with
  | zero => rfl
  | succ count => rw [cutUnits, short]

theorem cut_of_none (short : front stream = none) : cut front stream = ([], stream) :=
  cutUnits_of_none _ short

theorem flatten_cutUnits (count : Nat) (stream : List Symbol) :
    (cutUnits front count stream).1.flatten ++ (cutUnits front count stream).2 = stream := by
  induction count generalizing stream with
  | zero => rfl
  | succ count inductionHypothesis =>
    cases measured : front stream with
    | none =>
      rw [cutUnits_of_none _ measured]
      rfl
    | some size =>
      rw [cutUnits_succ _ measured]
      dsimp only
      rw [List.flatten_cons, List.append_assoc, inductionHypothesis, List.take_append_drop]

/-- Nothing is lost. -/
theorem flatten_cut (stream : List Symbol) :
    (cut front stream).1.flatten ++ (cut front stream).2 = stream :=
  flatten_cutUnits _ stream

theorem mem_of_mem_cut {symbol : Symbol} (member : unit ∈ (cut front stream).1)
    (inside : symbol ∈ unit) : symbol ∈ stream := by
  rw [← @flatten_cut Symbol front stream]
  exact List.mem_append_left _ (List.mem_flatten.mpr ⟨unit, member, inside⟩)

theorem mem_of_mem_rest {symbol : Symbol} (inside : symbol ∈ (cut front stream).2) :
    symbol ∈ stream := by
  rw [← @flatten_cut Symbol front stream]
  exact List.mem_append_right _ inside

theorem length_le_of_mem_cutUnits (count : Nat)
    (member : unit ∈ (cutUnits front count stream).1) : unit.length ≤ stream.length := by
  have lengths := congrArg List.length (@flatten_cutUnits Symbol front count stream)
  have inside := (List.sublist_flatten_of_mem member).length_le
  rw [List.length_append] at lengths
  omega

namespace Measures

theorem front_nil (measures : Measures front) : front [] = none := by
  cases measured : front [] with
  | none => rfl
  | some size =>
    obtain ⟨some, within⟩ := measures.within _ _ measured
    exact absurd (some.trans_le within) (Nat.not_lt_zero 0)

theorem front_cutUnits (measures : Measures front) (count : Nat) (stream : List Symbol)
    (enough : stream.length ≤ count) : front (cutUnits front count stream).2 = none := by
  induction count generalizing stream with
  | zero =>
    rw [List.length_eq_zero_iff.mp (Nat.le_zero.mp enough)]
    exact measures.front_nil
  | succ count inductionHypothesis =>
    cases measured : front stream with
    | none => rwa [cutUnits_of_none _ measured]
    | some size =>
      obtain ⟨some, within⟩ := measures.within _ _ measured
      rw [cutUnits_succ _ measured]
      refine inductionHypothesis _ ?_
      rw [List.length_drop]
      omega

/-- What is kept is short of a unit. -/
theorem front_cut (measures : Measures front) (stream : List Symbol) :
    front (cut front stream).2 = none :=
  measures.front_cutUnits _ stream (Nat.le_refl _)

theorem cut_nil (measures : Measures front) : cut front [] = ([], []) :=
  cut_of_none measures.front_nil

/-- One whole unit is cut off as such. -/
theorem cut_unit (measures : Measures front) (whole : front unit = some unit.length) :
    cut front unit = ([unit], []) := by
  obtain ⟨count, length⟩ := Nat.exists_eq_succ_of_ne_zero
    (Nat.ne_of_gt (measures.within _ _ whole).1)
  rw [cut, length, cutUnits_succ _ whole, List.take_length, List.drop_length,
    cutUnits_of_none _ measures.front_nil]

/-- What is added to a stream is cut off as one unit only if nothing was kept before it and it is
one unit. -/
theorem whole_of_mem_cut (measures : Measures front) (short : front behind = none)
    (apart : ∀ symbol ∈ behind, symbol ∉ unit)
    (member : unit ∈ (cut front (behind ++ unit)).1) :
    behind = [] ∧ front unit = some unit.length := by
  cases measured : front (behind ++ unit) with
  | none =>
    rw [cut_of_none measured] at member
    exact absurd member List.not_mem_nil
  | some size =>
    obtain ⟨some, within⟩ := measures.within _ _ measured
    -- the first unit takes all that was kept, and more
    have more : behind.length < size := by
      by_contra all
      rw [measures.settled _ _ _ measured (Nat.le_of_not_lt all)] at short
      exact absurd short (by simp)
    obtain ⟨count, length⟩ := Nat.exists_eq_succ_of_ne_zero
      (Nat.ne_of_gt (some.trans_le within))
    rw [cut, length, cutUnits_succ _ measured] at member
    rw [List.length_append] at within
    rcases List.mem_cons.mp member with first | later
    · cases behind with
      | nil =>
        refine ⟨rfl, ?_⟩
        rw [List.nil_append] at first measured
        have same := congrArg List.length first
        rw [List.length_take] at same
        rw [measured]
        exact congrArg _ (by rw [List.length_nil] at within; omega)
      | cons symbol kept =>
        -- it begins with a symbol that was kept
        refine absurd ?_ (apart symbol List.mem_cons_self)
        rw [first, List.cons_append]
        obtain ⟨count, rfl⟩ := Nat.exists_eq_succ_of_ne_zero (Nat.ne_of_gt some)
        exact List.mem_cons_self
    · have bound := length_le_of_mem_cutUnits _ later
      rw [List.length_drop, List.length_append] at bound
      omega

end Measures

end StreamCut
