/-
This file is about a place that holds at most one occupant, and operations on it that
wait in a queue. An operation has an owner, but the place does not check it: an operation
finds whoever is there when its turn comes.

A queue is safe for an occupant if every operation in it will find its own owner there, or
nobody. Safety is lost neither when the occupant leaves early nor when an operation is
queued by someone who is the only one to be found at the end of the queue.
-/

import Mathlib.Tactic

/-- An operation on a place. Occupying a place that is taken does nothing. -/
inductive PlaceOperation (Owner : Type*) where
  | occupy (owner : Owner)
  | touch (owner : Owner)
  | vacate (owner : Owner)

namespace PlaceOperation

variable {Owner : Type*}

def owner : PlaceOperation Owner → Owner
  | occupy owner => owner
  | touch owner => owner
  | vacate owner => owner

/-- Who is in the place after an operation. -/
def after (occupant : Option Owner) : PlaceOperation Owner → Option Owner
  | occupy owner => some (occupant.getD owner)
  | touch _ => occupant
  | vacate _ => none

/-- Who is in the place after all operations of a queue. -/
def replay (occupant : Option Owner) (queue : List (PlaceOperation Owner)) : Option Owner :=
  queue.foldl after occupant

/-- The operation finds its own owner in the place, or nobody. -/
def FindsOwn (occupant : Option Owner) : PlaceOperation Owner → Prop
  | occupy _ => occupant = none
  | touch owner => ∀ other ∈ occupant, other = owner
  | vacate owner => ∀ other ∈ occupant, other = owner

/-- An operation that finds its own owner or nobody leaves its own owner or nobody. -/
theorem FindsOwn.isolated {occupant : Option Owner} {operation : PlaceOperation Owner}
    (finds : operation.FindsOwn occupant) :
    (∀ other ∈ occupant, other = operation.owner) ∧
      ∀ other ∈ after occupant operation, other = operation.owner := by
  cases operation with
  | occupy owner =>
    obtain rfl : occupant = none := finds
    exact ⟨nofun, fun other member => (Option.some.inj member).symm⟩
  | touch owner => exact ⟨finds, finds⟩
  | vacate owner => exact ⟨finds, nofun⟩

/-- Every operation of a queue will find its own owner in the place, or nobody. -/
def Safe (occupant : Option Owner) : List (PlaceOperation Owner) → Prop
  | [] => True
  | operation :: later => operation.FindsOwn occupant ∧ Safe (after occupant operation) later

theorem safe_append {occupant : Option Owner} {earlier later : List (PlaceOperation Owner)} :
    Safe occupant (earlier ++ later) ↔
      Safe occupant earlier ∧ Safe (replay occupant earlier) later := by
  induction earlier generalizing occupant with
  | nil => exact ⟨fun safe => ⟨trivial, safe⟩, fun safe => safe.2⟩
  | cons operation earlier inductionHypothesis =>
    rw [List.cons_append, Safe, Safe, inductionHypothesis, and_assoc]
    rfl

/-- The occupant may leave before its turn. -/
theorem Safe.vacated {occupant : Option Owner} {queue : List (PlaceOperation Owner)}
    (safe : Safe occupant queue) : Safe none queue := by
  induction queue generalizing occupant with
  | nil => trivial
  | cons operation later inductionHypothesis =>
    obtain ⟨finds, rest⟩ := safe
    cases operation with
    | occupy owner =>
      obtain rfl : occupant = none := finds
      exact ⟨rfl, rest⟩
    | touch owner => exact ⟨fun _ member => absurd member nofun, inductionHypothesis rest⟩
    | vacate owner => exact ⟨fun _ member => absurd member nofun, rest⟩

/-! ### Commands that may be operations -/

/-- Who is in the place after a command that may be an operation on it. -/
def perform (occupant : Option Owner) : Option (PlaceOperation Owner) → Option Owner
  | none => occupant
  | some operation => after occupant operation

section
variable {Command : Type*} (meaning : Command → Option (PlaceOperation Owner))
  {occupant : Option Owner} {queue : List Command} {command : Command}

theorem replay_filterMap_cons :
    replay occupant ((command :: queue).filterMap meaning) =
      replay (perform occupant (meaning command)) (queue.filterMap meaning) := by
  cases means : meaning command with
  | none => rw [List.filterMap_cons_none means, perform]
  | some operation =>
    rw [List.filterMap_cons_some means, perform]
    rfl

/-- The first command of a queue that is safe leaves a queue that is safe. -/
theorem safe_of_filterMap_cons (safe : Safe occupant ((command :: queue).filterMap meaning)) :
    Safe (perform occupant (meaning command)) (queue.filterMap meaning) := by
  cases means : meaning command with
  | none => rwa [List.filterMap_cons_none means] at safe
  | some operation =>
    rw [List.filterMap_cons_some means] at safe
    exact safe.2

/-- A command may be queued that is no operation, or finds its own owner at the end. -/
theorem safe_filterMap_concat (safe : Safe occupant (queue.filterMap meaning))
    (finds : ∀ operation, meaning command = some operation →
      operation.FindsOwn (replay occupant (queue.filterMap meaning))) :
    Safe occupant ((queue ++ [command]).filterMap meaning) := by
  rw [List.filterMap_append]
  cases means : meaning command with
  | none => rwa [List.filterMap_cons_none means, List.filterMap_nil, List.append_nil]
  | some operation =>
    rw [List.filterMap_cons_some means, List.filterMap_nil]
    exact safe_append.mpr ⟨safe, finds operation means, trivial⟩

end

end PlaceOperation
