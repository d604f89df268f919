/-
This file is about formats in which a value ends where its own symbols say it ends, so
that values can be written one after the other and read back one by one.

A reader takes one value off the front of its input. It delimits a writer when it reads
back what was written and leaves what follows, and it is exact when besides it accepts
nothing else. An exact reader accepts one split of its input only. So a list of values
that was written can be cut anywhere: what is read from a front of it are the values
that lie in the front completely, and the front is refused if more than that remains.

A reader is local when what it reads does not depend on what follows. It then refuses
every front of an input that it reads to the end.

Nothing here names a packet or a byte. The values, the symbols and the failures are
arbitrary.
-/

import Mathlib.Tactic

namespace SelfDelimiting

variable {Value Symbol Failure : Type*}

/-- Read at most a number of values. It stops early where the input ends between two values. -/
def readMany (read : List Symbol → Except Failure (Value × List Symbol)) :
    Nat → List Symbol → Except Failure (List Value × List Symbol)
  | 0, input => .ok ([], input)
  | count + 1, input =>
    if input.isEmpty then .ok ([], [])
    else
      match read input with
      | .error failure => .error failure
      | .ok (value, rest) =>
        match readMany read count rest with
        | .error failure => .error failure
        | .ok (values, rest) => .ok (value :: values, rest)

/-- The reader reads back what was written, whatever follows it. -/
structure Delimits (fits : Value → Prop) (write : Value → List Symbol)
    (read : List Symbol → Except Failure (Value × List Symbol)) : Prop where
  read_write : ∀ value rest, fits value → read (write value ++ rest) = .ok (value, rest)
  write_ne_nil : ∀ value, fits value → write value ≠ []

/-- The reader also accepts nothing but what was written. -/
structure Exact (fits : Value → Prop) (write : Value → List Symbol)
    (read : List Symbol → Except Failure (Value × List Symbol)) : Prop
    extends Delimits fits write read where
  written : ∀ input value rest, read input = .ok (value, rest) →
    fits value ∧ input = write value ++ rest

variable {fits : Value → Prop} {write : Value → List Symbol}
  {read : List Symbol → Except Failure (Value × List Symbol)}

theorem readMany_nil (count : Nat) : readMany read count [] = .ok ([], []) := by
  cases count with
  | zero => rfl
  | succ count => rfl

/-- Reading on where a value can be read. -/
theorem readMany_succ {input rest : List Symbol} {value : Value} (count : Nat)
    (some : input ≠ []) (first : read input = .ok (value, rest)) :
    readMany read (count + 1) input =
      match readMany read count rest with
      | .error failure => .error failure
      | .ok (values, rest) => .ok (value :: values, rest) := by
  have more : ¬ input.isEmpty = true := fun none => some (List.isEmpty_iff.mp none)
  rw [readMany, if_neg more, first]

namespace Delimits

variable (delimits : Delimits fits write read)

include delimits

/-- Values that were written are read back one after the other, and what follows is left. -/
theorem readMany_write_append {values : List Value} (fitting : ∀ value ∈ values, fits value)
    (rest : List Symbol) :
    readMany read values.length (values.flatMap write ++ rest) = .ok (values, rest) := by
  induction values with
  | nil => rfl
  | cons value values inductionHypothesis =>
    have fitsHere := fitting value List.mem_cons_self
    have first := delimits.read_write value (values.flatMap write ++ rest) fitsHere
    rw [← List.append_assoc, ← List.flatMap_cons] at first
    have some : (value :: values).flatMap write ++ rest ≠ [] := by
      rw [List.flatMap_cons, List.append_assoc]
      exact List.append_ne_nil_of_left_ne_nil (delimits.write_ne_nil value fitsHere) _
    rw [List.length_cons, readMany_succ _ some first,
      inductionHypothesis fun other member => fitting other (List.mem_cons_of_mem value member)]

/-- Any number of reads at least as large as the number of values reads exactly these. -/
theorem readMany_write {values : List Value} (fitting : ∀ value ∈ values, fits value)
    {count : Nat} (enough : values.length ≤ count) :
    readMany read count (values.flatMap write) = .ok (values, []) := by
  induction values generalizing count with
  | nil => exact readMany_nil count
  | cons value values inductionHypothesis =>
    obtain ⟨count, rfl⟩ := Nat.exists_eq_add_of_le' enough
    have fitsHere := fitting value List.mem_cons_self
    have first := delimits.read_write value (values.flatMap write) fitsHere
    rw [← List.flatMap_cons] at first
    have some : (value :: values).flatMap write ≠ [] := by
      rw [List.flatMap_cons]
      exact List.append_ne_nil_of_left_ne_nil (delimits.write_ne_nil value fitsHere) _
    rw [List.length_cons, ← Nat.add_assoc, readMany_succ _ some first,
      inductionHypothesis (fun other member => fitting other (List.mem_cons_of_mem value member))
        (Nat.le_add_left _ _)]

/-- There are at least as many symbols as values. -/
theorem length_le_flatMap {values : List Value} (fitting : ∀ value ∈ values, fits value) :
    values.length ≤ (values.flatMap write).length := by
  induction values with
  | nil => exact Nat.le_refl _
  | cons value values inductionHypothesis =>
    have positive : 0 < (write value).length :=
      List.length_pos_iff.mpr (delimits.write_ne_nil value (fitting value List.mem_cons_self))
    have rest := inductionHypothesis fun other member =>
      fitting other (List.mem_cons_of_mem value member)
    rw [List.flatMap_cons, List.length_append, List.length_cons]
    omega

/-- Where written values begin with other written values, they begin with the same values. -/
theorem split_unique {front values : List Value} {rest : List Symbol}
    (fittingFront : ∀ value ∈ front, fits value) (fitting : ∀ value ∈ values, fits value)
    (same : front.flatMap write ++ rest = values.flatMap write) :
    ∃ later, values = front ++ later ∧ rest = later.flatMap write := by
  induction front generalizing values with
  | nil => exact ⟨values, rfl, same⟩
  | cons value front inductionHypothesis =>
    have fitsHere := fittingFront value List.mem_cons_self
    rw [List.flatMap_cons, List.append_assoc] at same
    cases values with
    | nil =>
      have empty := (List.append_eq_nil_iff.mp same).1
      exact absurd empty (delimits.write_ne_nil value fitsHere)
    | cons other values =>
      have first := delimits.read_write value (front.flatMap write ++ rest) fitsHere
      have second := delimits.read_write other (values.flatMap write)
        (fitting other List.mem_cons_self)
      rw [same, List.flatMap_cons, second] at first
      obtain ⟨rfl, rests⟩ := Prod.mk.inj (Except.ok.inj first)
      obtain ⟨later, rfl, remains⟩ := inductionHypothesis
        (fun each member => fittingFront each (List.mem_cons_of_mem _ member))
        (fun each member => fitting each (List.mem_cons_of_mem _ member)) rests.symm
      exact ⟨later, rfl, remains⟩

end Delimits

namespace Exact

variable (exact : Exact fits write read)

include exact

theorem read_eq_ok_iff {input rest : List Symbol} {value : Value} :
    read input = .ok (value, rest) ↔ fits value ∧ input = write value ++ rest := by
  constructor
  · exact exact.written input value rest
  · rintro ⟨fitting, rfl⟩
    exact exact.read_write value rest fitting

/-- What reading a number of values accepts: as many values as that and anything after them, or
fewer and nothing after them. -/
theorem readMany_eq_ok_iff {count : Nat} {input rest : List Symbol} {values : List Value} :
    readMany read count input = .ok (values, rest) ↔
      (∀ value ∈ values, fits value) ∧ input = values.flatMap write ++ rest ∧
        (values.length = count ∨ values.length < count ∧ rest = []) := by
  constructor
  · intro accepted
    induction count generalizing input values with
    | zero =>
      obtain ⟨rfl, rfl⟩ := Prod.mk.inj (Except.ok.inj accepted)
      exact ⟨nofun, rfl, Or.inl rfl⟩
    | succ count inductionHypothesis =>
      rw [readMany] at accepted
      split at accepted
      next none =>
        obtain ⟨rfl, rfl⟩ := Prod.mk.inj (Except.ok.inj accepted)
        exact ⟨nofun, List.isEmpty_iff.mp none, Or.inr ⟨Nat.zero_lt_succ _, rfl⟩⟩
      next some =>
        split at accepted
        · exact absurd accepted nofun
        next value remaining first =>
          obtain ⟨fitsHere, rfl⟩ := exact.written _ _ _ first
          split at accepted
          · exact absurd accepted nofun
          next others last rests =>
            obtain ⟨rfl, rfl⟩ := Prod.mk.inj (Except.ok.inj accepted)
            obtain ⟨fitting, rfl, ends⟩ := inductionHypothesis rests
            refine ⟨List.forall_mem_cons.mpr ⟨fitsHere, fitting⟩, ?_, ?_⟩
            · rw [List.flatMap_cons, List.append_assoc]
            · rw [List.length_cons]
              exact ends.imp (congrArg (· + 1)) fun fewer => ⟨Nat.succ_lt_succ fewer.1, fewer.2⟩
  · rintro ⟨fitting, rfl, rfl | ⟨fewer, rfl⟩⟩
    · exact exact.readMany_write_append fitting rest
    · rw [List.append_nil]
      exact exact.readMany_write fitting fewer.le

/-- What is read from a front of values that were written: the values that lie in it completely,
if nothing more does. -/
theorem readMany_front_eq_ok_iff {count : Nat} {front rest back : List Symbol}
    {values whole : List Value} (fitting : ∀ value ∈ values, fits value)
    (enough : values.length ≤ count) (cut : front ++ back = values.flatMap write) :
    readMany read count front = .ok (whole, rest) ↔
      whole <+: values ∧ front = whole.flatMap write ∧ rest = [] := by
  rw [exact.readMany_eq_ok_iff]
  constructor
  · rintro ⟨fittingWhole, rfl, ends⟩
    rw [List.append_assoc] at cut
    obtain ⟨later, rfl, remains⟩ := exact.split_unique fittingWhole fitting cut
    refine ⟨List.prefix_append whole later, ?_⟩
    have nothing : rest = [] := by
      rcases ends with all | fewer
      · -- as many values as can be read are all of them
        have none : later = [] := by
          rw [List.length_append] at enough
          exact List.length_eq_zero_iff.mp (by omega)
        rw [none, List.flatMap_nil] at remains
        exact (List.append_eq_nil_iff.mp remains).1
      · exact fewer.2
    rw [nothing, List.append_nil]
    exact ⟨rfl, rfl⟩
  · rintro ⟨⟨later, rfl⟩, rfl, rfl⟩
    refine ⟨fun value member => fitting value (List.mem_append_left _ member),
      (List.append_nil _).symm, ?_⟩
    rw [List.length_append] at enough
    rcases Nat.lt_or_ge whole.length count with fewer | all
    · exact Or.inr ⟨fewer, rfl⟩
    · exact Or.inl (by omega)

end Exact

/-! ### Readers that do not look ahead -/

/-- What the reader reads does not depend on what follows it. -/
def Local (read : List Symbol → Except Failure (Value × List Symbol)) : Prop :=
  ∀ ⦃input value rest⦄ more, read input = .ok (value, rest) →
    read (input ++ more) = .ok (value, rest ++ more)

namespace Local

variable {First Second : Type*} {first : List Symbol → Except Failure (First × List Symbol)}

/-- Reading a second value behind the first. -/
theorem andThen {next : First × List Symbol → Except Failure (Second × List Symbol)}
    (isLocal : Local first) (areLocal : ∀ value, Local fun rest => next (value, rest)) :
    Local fun input => (first input).bind next := by
  intro input value rest more accepted
  dsimp only at accepted ⊢
  cases here : first input with
  | error failure =>
    rw [here] at accepted
    cases accepted
  | ok found =>
    rw [here] at accepted
    rw [isLocal more here]
    exact areLocal found.1 more accepted

/-- A value that is computed from what was read. -/
theorem done (value : Value) : @Local Value Symbol Failure fun input => .ok (value, input) := by
  intro input other rest more accepted
  obtain ⟨rfl, rfl⟩ := Prod.mk.inj (Except.ok.inj accepted)
  rfl

/-- Where a whole input is read as one value, every shorter front of it is refused. -/
theorem refused_of_front (isLocal : Local first) {front back : List Symbol} {value : First}
    (whole : first (front ++ back) = .ok (value, [])) (some : back ≠ []) :
    ∃ failure, first front = .error failure := by
  cases here : first front with
  | error failure => exact ⟨failure, rfl⟩
  | ok found =>
    rw [isLocal back here] at whole
    have nothing := (Prod.mk.inj (Except.ok.inj whole)).2
    exact absurd (List.append_eq_nil_iff.mp nothing).2 some

end Local

end SelfDelimiting
