/-
This file is the run theory that the concurrent parts of the development share.

A machine here takes one named event at a time and either moves to a next state or
refuses. All nondeterminism is in the events, so a schedule, an interleaving or a
choice of the environment is a list of events. An invariant is proved once for a
step and holds along every run; when it needs a condition at each step, it holds
along the runs that meet the condition at each step.

A transducer is a machine that never refuses and answers every event with an
output. When a transducer is watched through a view that only some events can
change, it projects to a smaller transducer that runs on those events alone. Two
runs of the large one that contain the same relevant events are then equal in the
view, whatever else they contain.
-/

import Mathlib.Tactic

/-- A machine moves on an event or refuses it. -/
structure Machine (State Event : Type*) where
  step : State → Event → Option State

namespace Machine

variable {State Event : Type*} (machine : Machine State Event)

/-- The state after a list of events, when none of them is refused. -/
def run (state : State) : List Event → Option State
  | [] => some state
  | event :: later => (machine.step state event).bind fun next => run next later

theorem run_cons {state last : State} {event : Event} {later : List Event} :
    machine.run state (event :: later) = some last ↔
      ∃ next, machine.step state event = some next ∧ machine.run next later = some last :=
  Option.bind_eq_some_iff

theorem run_singleton (state : State) (event : Event) :
    machine.run state [event] = machine.step state event :=
  Option.bind_fun_some _

theorem run_append {state last : State} {earlier later : List Event} :
    machine.run state (earlier ++ later) = some last ↔
      ∃ middle, machine.run state earlier = some middle ∧
        machine.run middle later = some last := by
  induction earlier generalizing state with
  | nil => simp only [List.nil_append, run, Option.some.injEq, exists_eq_left']
  | cons event earlier inductionHypothesis =>
    simp only [List.cons_append, run_cons, inductionHypothesis]
    constructor
    · rintro ⟨next, first, middle, second, third⟩
      exact ⟨middle, ⟨next, first, second⟩, third⟩
    · rintro ⟨middle, ⟨next, first, second⟩, third⟩
      exact ⟨next, first, middle, second, third⟩

/-- Every event of the run happens in a state in which it meets the condition. -/
def Meets (condition : State → Event → Prop) (state : State) : List Event → Prop
  | [] => True
  | event :: later =>
    condition state event ∧
      ∀ next, machine.step state event = some next → Meets condition next later

/-- A condition on events alone is met by a run of events that all satisfy it. -/
theorem meets_of_forall_mem {condition : Event → Prop} {state : State} {events : List Event}
    (each : ∀ event ∈ events, condition event) :
    machine.Meets (fun _ event => condition event) state events := by
  induction events generalizing state with
  | nil => trivial
  | cons event later inductionHypothesis =>
    exact ⟨each event List.mem_cons_self, fun next _ =>
      inductionHypothesis fun other member => each other (List.mem_cons_of_mem event member)⟩

/-- What every step that meets the condition preserves holds at the end of every run that
meets it. -/
theorem invariant_of_meets {condition : State → Event → Prop} {invariant : State → Prop}
    (preserved : ∀ state event next, invariant state → condition state event →
      machine.step state event = some next → invariant next)
    {state last : State} {events : List Event} (holds : invariant state)
    (meets : machine.Meets condition state events)
    (reached : machine.run state events = some last) : invariant last := by
  induction events generalizing state with
  | nil => exact Option.some.inj reached ▸ holds
  | cons event later inductionHypothesis =>
    obtain ⟨next, step, rest⟩ := machine.run_cons.mp reached
    exact inductionHypothesis (preserved state event next holds meets.1 step)
      (meets.2 next step) rest

/-- What every step preserves holds at the end of every run. -/
theorem invariant_run {invariant : State → Prop}
    (preserved : ∀ state event next, invariant state →
      machine.step state event = some next → invariant next)
    {state last : State} {events : List Event} (holds : invariant state)
    (reached : machine.run state events = some last) : invariant last := by
  have unconditional : machine.Meets (fun _ _ => True) state events :=
    machine.meets_of_forall_mem fun _ _ => trivial
  exact machine.invariant_of_meets (fun state event next holds _ =>
    preserved state event next holds) holds unconditional reached

/-- A run that meets one condition meets another, if an invariant that the first preserves makes
the second follow from the first. -/
theorem Meets.of_invariant {first second : State → Event → Prop} {invariant : State → Prop}
    (preserved : ∀ state event next, invariant state → first state event →
      machine.step state event = some next → invariant next)
    (follows : ∀ state event, invariant state → first state event → second state event)
    {state : State} {events : List Event} (holds : invariant state)
    (meets : machine.Meets first state events) : machine.Meets second state events := by
  induction events generalizing state with
  | nil => trivial
  | cons event later inductionHypothesis =>
    exact ⟨follows state event holds meets.1, fun next step =>
      inductionHypothesis (preserved state event next holds meets.1 step) (meets.2 next step)⟩

/-- What holds at the end of a run, and therefore held before each step of it, may be what makes
each step meet a condition. -/
theorem meets_of_run {condition : State → Event → Prop} {invariant good : State → Prop}
    (preserved : ∀ state event next, invariant state →
      machine.step state event = some next → invariant next)
    (before : ∀ state event next, invariant state → machine.step state event = some next →
      good next → good state ∧ condition state event)
    {state last : State} {events : List Event} (holds : invariant state)
    (reached : machine.run state events = some last) (goodAtEnd : good last) :
    good state ∧ machine.Meets condition state events := by
  induction events generalizing state with
  | nil =>
    obtain rfl : state = last := Option.some.inj reached
    exact ⟨goodAtEnd, trivial⟩
  | cons event later inductionHypothesis =>
    obtain ⟨next, step, rest⟩ := machine.run_cons.mp reached
    obtain ⟨goodNext, meets⟩ := inductionHypothesis (preserved state event next holds step) rest
    obtain ⟨goodHere, met⟩ := before state event next holds step goodNext
    refine ⟨goodHere, met, fun other moved => ?_⟩
    obtain rfl := Option.some.inj (step.symm.trans moved)
    exact meets

/-- A loop over keys, each step of which is a run of allowed events, is itself such a run. The
invariant speaks about the keys that are still to come. -/
theorem run_foldl {Loop Key : Type*} {view : Loop → State} {step : Loop → Key → Loop}
    {allowed : Event → Prop} {invariant : List Key → Loop → Prop}
    (each : ∀ loop key later, invariant (key :: later) loop →
      invariant later (step loop key) ∧ ∃ events, (∀ event ∈ events, allowed event) ∧
        machine.run (view loop) events = some (view (step loop key)))
    {keys : List Key} {loop : Loop} (holds : invariant keys loop) :
    invariant [] (keys.foldl step loop) ∧ ∃ events, (∀ event ∈ events, allowed event) ∧
      machine.run (view loop) events = some (view (keys.foldl step loop)) := by
  induction keys generalizing loop with
  | nil => exact ⟨holds, [], nofun, rfl⟩
  | cons key later inductionHypothesis =>
    obtain ⟨holdsNext, first, firstAllowed, reached⟩ := each loop key later holds
    obtain ⟨holdsLast, rest, restAllowed, finished⟩ := inductionHypothesis holdsNext
    refine ⟨holdsLast, first ++ rest, fun event member => ?_,
      machine.run_append.mpr ⟨_, reached, finished⟩⟩
    exact (List.mem_append.mp member).elim (firstAllowed event) (restAllowed event)

end Machine

/-- A transducer answers every event with a next state and an output. -/
structure Transducer (State Event Output : Type*) where
  step : State → Event → State × Output

namespace Transducer

variable {State Event Output : Type*} (transducer : Transducer State Event Output)

/-- The state after a list of events. -/
def run (state : State) : List Event → State
  | [] => state
  | event :: later => run (transducer.step state event).1 later

/-- The state and the output after each event of a list. -/
def trace (state : State) : List Event → List (State × Output)
  | [] => []
  | event :: later =>
    transducer.step state event :: trace (transducer.step state event).1 later

end Transducer

/-- A projection watches a large transducer through a view. A relevant event moves the view as
the small transducer moves; any other event leaves the view alone and shows no output. -/
structure Projection {State Event Output View Relevant Shown : Type*}
    (large : Transducer State Event Output) (small : Transducer View Relevant Shown) where
  view : State → View
  relevant : Event → Option Relevant
  shown : Output → Shown
  silence : Shown
  moves : ∀ state event kept, relevant event = some kept →
    small.step (view state) kept =
      (view (large.step state event).1, shown (large.step state event).2)
  still : ∀ state event, relevant event = none →
    view (large.step state event).1 = view state ∧ shown (large.step state event).2 = silence

namespace Projection

variable {State Event Output View Relevant Shown : Type*}
  {large : Transducer State Event Output} {small : Transducer View Relevant Shown}
  (projection : Projection large small)

/-- What the view shows after each relevant event of a run of the large transducer. -/
def watch (state : State) : List Event → List (View × Shown)
  | [] => []
  | event :: later =>
    let after := large.step state event
    match projection.relevant event with
    | none => watch after.1 later
    | some _ => (projection.view after.1, projection.shown after.2) :: watch after.1 later

/-- Watching the large transducer is running the small one on the relevant events. -/
theorem watch_eq_trace (state : State) (events : List Event) :
    projection.watch state events =
      small.trace (projection.view state) (events.filterMap projection.relevant) := by
  induction events generalizing state with
  | nil => rfl
  | cons event later inductionHypothesis =>
    cases found : projection.relevant event with
    | none =>
      have unchanged := (projection.still state event found).1
      simp only [watch, found, List.filterMap_cons_none found, inductionHypothesis, unchanged]
    | some kept =>
      have moved := projection.moves state event kept found
      simp only [watch, found, List.filterMap_cons_some found, Transducer.trace,
        inductionHypothesis, moved]

/-- The view at the end of a run of the large transducer. -/
theorem view_run (state : State) (events : List Event) :
    projection.view (large.run state events) =
      small.run (projection.view state) (events.filterMap projection.relevant) := by
  induction events generalizing state with
  | nil => rfl
  | cons event later inductionHypothesis =>
    cases found : projection.relevant event with
    | none =>
      have unchanged := (projection.still state event found).1
      simp only [List.filterMap_cons_none found, Transducer.run, inductionHypothesis, unchanged]
    | some kept =>
      have moved := projection.moves state event kept found
      simp only [List.filterMap_cons_some found, Transducer.run, inductionHypothesis, moved]

/-- Two runs with the same relevant events, from states with the same view, show the same. -/
theorem watch_congr {first second : State} {firstEvents secondEvents : List Event}
    (sameView : projection.view first = projection.view second)
    (sameEvents : firstEvents.filterMap projection.relevant =
      secondEvents.filterMap projection.relevant) :
    projection.watch first firstEvents = projection.watch second secondEvents := by
  rw [watch_eq_trace, watch_eq_trace, sameView, sameEvents]

theorem view_run_congr {first second : State} {firstEvents secondEvents : List Event}
    (sameView : projection.view first = projection.view second)
    (sameEvents : firstEvents.filterMap projection.relevant =
      secondEvents.filterMap projection.relevant) :
    projection.view (large.run first firstEvents) =
      projection.view (large.run second secondEvents) := by
  rw [view_run, view_run, sameView, sameEvents]

end Projection

/-! ### Loops and lists that grow -/

/-- A loop over keys, watched through a view that only the visits to one key move, moves the view
once for each of these visits. -/
theorem foldl_watched {State Key View : Type*} [DecidableEq Key] {step : State → Key → State}
    {view : State → View} {move : View → View} {key : Key}
    (own : ∀ state, view (step state key) = move (view state))
    (other : ∀ state visited, visited ≠ key → view (step state visited) = view state)
    (state : State) (keys : List Key) :
    view (keys.foldl step state) = move^[keys.count key] (view state) := by
  induction keys generalizing state with
  | nil => rfl
  | cons visited later inductionHypothesis =>
    rw [List.foldl_cons, inductionHypothesis]
    by_cases same : visited = key
    · rw [same, List.count_cons_self, Function.iterate_succ_apply, own]
    · rw [List.count_cons_of_ne same, other state visited same]

/-- Where a list grows by one, there is the new value at the end, and before it the old ones. -/
theorem getElem?_concat {Value : Type*} (values : List Value) (last : Value) (index : Nat) :
    (values ++ [last])[index]? = if index = values.length then some last else values[index]? := by
  rw [← List.getElem?_toArray, ← List.push_toArray, Array.getElem?_push, List.size_toArray,
    List.getElem?_toArray]

/-- Where a log grows, one entry stands before another if it did already, if the second is among
the new ones and the first among the old, or if both are new. -/
theorem pair_sublist_append {Entry : Type*} {first second : Entry} {earlier later : List Entry} :
    [first, second].Sublist (earlier ++ later) ↔
      [first, second].Sublist earlier ∨ (first ∈ earlier ∧ second ∈ later) ∨
        [first, second].Sublist later := by
  constructor
  · intro inside
    obtain ⟨front, back, split, inEarlier, inLater⟩ := List.sublist_append_iff.mp inside
    match front, split with
    | [], split => exact Or.inr (Or.inr (split ▸ inLater))
    | [_], split =>
      obtain ⟨rfl, rfl⟩ := List.cons.inj split
      exact Or.inr (Or.inl ⟨List.singleton_sublist.mp inEarlier, List.singleton_sublist.mp inLater⟩)
    | [_, _], split =>
      obtain ⟨rfl, rest⟩ := List.cons.inj split
      obtain ⟨rfl, -⟩ := List.cons.inj rest
      exact Or.inl inEarlier
    | _ :: _ :: _ :: _, split => exact absurd (congrArg List.length split) (by simp)
  · rintro (old | ⟨before, after⟩ | new)
    · exact old.trans (List.sublist_append_left _ _)
    · exact (List.singleton_sublist.mpr before).append (List.singleton_sublist.mpr after)
    · exact new.trans (List.sublist_append_right _ _)
