/-
This file is about what a run leaves behind for an observer: a list of items, to which each step
adds some. A property of such a trace says, of each item, that it is permitted after the items
before it. It is proved for the items of one step, from an invariant that ties the state to what
was seen so far, and then holds of the trace of every run.

A transducer that is watched through a projection leaves behind what the smaller one leaves.
-/

import EipScanner.Machine

namespace Trace

variable {Item : Type*} (permitted : List Item → Item → Prop)

/-- Every item is permitted after all the items before it. -/
def Orderly (seen : List Item) : List Item → Prop
  | [] => True
  | item :: later => permitted seen item ∧ Orderly (seen ++ [item]) later

variable {permitted}

theorem Orderly.append {seen earlier later : List Item} (first : Orderly permitted seen earlier)
    (second : Orderly permitted (seen ++ earlier) later) :
    Orderly permitted seen (earlier ++ later) := by
  induction earlier generalizing seen with
  | nil => rwa [List.append_nil] at second
  | cons item rest inductionHypothesis =>
    refine ⟨first.1, inductionHypothesis first.2 ?_⟩
    rwa [List.append_assoc]

theorem Orderly.single {seen : List Item} {item : Item} (holds : permitted seen item) :
    Orderly permitted seen [item] :=
  ⟨holds, trivial⟩

/-- An item of an orderly trace is permitted after what stands in front of it. -/
theorem Orderly.permitted_at {seen items before after : List Item} {item : Item}
    (orderly : Orderly permitted seen items) (split : items = before ++ item :: after) :
    permitted (seen ++ before) item := by
  subst split
  induction before generalizing seen with
  | nil =>
    rw [List.append_nil]
    exact orderly.1
  | cons first rest inductionHypothesis =>
    have behind := inductionHypothesis orderly.2
    rwa [List.append_assoc] at behind

/-- Every item that calls for an answer is followed by it at once. -/
def Answered (answer : Item → Option Item) (items : List Item) : Prop :=
  ∀ before item after, items = before ++ item :: after →
    ∀ wanted, answer item = some wanted → after.head? = some wanted

theorem Answered.cons {answer : Item → Option Item} {item : Item} {items : List Item}
    (here : ∀ wanted, answer item = some wanted → items.head? = some wanted)
    (rest : Answered answer items) : Answered answer (item :: items) := by
  intro before asking after split wanted asked
  cases before with
  | nil =>
    obtain ⟨rfl, rfl⟩ := List.cons.inj split
    exact here wanted asked
  | cons first front =>
    obtain ⟨rfl, behind⟩ := List.cons.inj split
    exact rest front asking after behind wanted asked

theorem Answered.append {answer : Item → Option Item} {earlier later : List Item}
    (first : Answered answer earlier) (second : Answered answer later) :
    Answered answer (earlier ++ later) := by
  intro before item after split wanted asked
  rcases List.append_eq_append_iff.mp split with ⟨between, rfl, rest⟩ | ⟨between, rfl, rest⟩
  · exact second between item after rest wanted asked
  · cases between with
    | nil => exact second [] item after rest.symm wanted asked
    | cons head tail =>
      obtain ⟨rfl, rfl⟩ := List.cons.inj rest
      have answered := first before item tail rfl wanted asked
      change (tail ++ later).head? = some wanted
      rw [List.head?_append, answered]
      rfl

theorem Answered.of_silent {answer : Item → Option Item} {items : List Item}
    (silent : ∀ item ∈ items, answer item = none) : Answered answer items := by
  rintro before item after rfl wanted asked
  have none := silent item (List.mem_append_right _ List.mem_cons_self)
  exact absurd (none.symm.trans asked) (by simp)

/-- A part of a state that items set, and that nothing else moves, is what was set last. -/
theorem foldl_eq_last_set {State Value : Type*} {step : State → Item → State}
    {part : State → Value} {set : Item → Option Value}
    (each : ∀ state item, part (step state item) = (set item).getD (part state))
    (state : State) (items : List Item) :
    part (items.foldl step state) = ((items.filterMap set).getLast?).getD (part state) := by
  induction items generalizing state with
  | nil => rfl
  | cons item later inductionHypothesis =>
    rw [List.foldl_cons, inductionHypothesis, each]
    cases found : set item with
    | none => rw [List.filterMap_cons_none found, Option.getD_none]
    | some value =>
      rw [List.filterMap_cons_some found, List.getLast?_cons, Option.getD_some, Option.getD_some]

end Trace

namespace Transducer

variable {State Event Output Item : Type*} (transducer : Transducer State Event Output)
  (items : Event → Output → List Item)

/-- What the steps of a run leave behind, one after the other. -/
def leaves (state : State) : List Event → List Item
  | [] => []
  | event :: later =>
    items event (transducer.step state event).2 ++
      leaves (transducer.step state event).1 later

theorem leaves_append (state : State) (earlier later : List Event) :
    transducer.leaves items state (earlier ++ later) =
      transducer.leaves items state earlier ++
        transducer.leaves items (transducer.run state earlier) later := by
  induction earlier generalizing state with
  | nil => rfl
  | cons event rest inductionHypothesis =>
    rw [List.cons_append, leaves, leaves, run, inductionHypothesis, List.append_assoc]

theorem run_append (state : State) (earlier later : List Event) :
    transducer.run state (earlier ++ later) =
      transducer.run (transducer.run state earlier) later := by
  induction earlier generalizing state with
  | nil => rfl
  | cons event rest inductionHypothesis => exact inductionHypothesis _

variable {transducer items}

/-- What one step does to an invariant between trace and state, and to what is left behind, a run
does. -/
theorem leaves_induction {allowed : Event → Prop} {invariant : List Item → State → Prop}
    {kept : List Item → List Item → Prop} (nothing : ∀ seen, kept seen [])
    (join : ∀ seen earlier later, kept seen earlier → kept (seen ++ earlier) later →
      kept seen (earlier ++ later))
    (each : ∀ seen state event, invariant seen state → allowed event →
      kept seen (items event (transducer.step state event).2) ∧
        invariant (seen ++ items event (transducer.step state event).2)
          (transducer.step state event).1)
    {seen : List Item} {state : State} {events : List Event} (holds : invariant seen state)
    (all : ∀ event ∈ events, allowed event) :
    kept seen (transducer.leaves items state events) ∧
      invariant (seen ++ transducer.leaves items state events) (transducer.run state events) := by
  induction events generalizing seen state with
  | nil =>
    refine ⟨nothing seen, ?_⟩
    rwa [leaves, List.append_nil]
  | cons event later inductionHypothesis =>
    obtain ⟨keptHere, holdsNext⟩ := each seen state event holds (all event List.mem_cons_self)
    obtain ⟨keptLater, holdsLast⟩ := inductionHypothesis holdsNext fun other member =>
      all other (List.mem_cons_of_mem event member)
    refine ⟨join _ _ _ keptHere keptLater, ?_⟩
    rwa [List.append_assoc] at holdsLast

end Transducer

namespace Projection

variable {State Event Output View Relevant Shown Item : Type*}
  {large : Transducer State Event Output} {small : Transducer View Relevant Shown}
  (projection : Projection large small) (items : Relevant → Shown → List Item)

/-- What an event of the large transducer leaves behind for the observer of the view. -/
def observed (event : Event) (output : Output) : List Item :=
  match projection.relevant event with
  | none => []
  | some kept => items kept (projection.shown output)

/-- The observer of the view sees a run of the small transducer. -/
theorem leaves_observed (state : State) (events : List Event) :
    large.leaves (projection.observed items) state events =
      small.leaves items (projection.view state) (events.filterMap projection.relevant) := by
  induction events generalizing state with
  | nil => rfl
  | cons event later inductionHypothesis =>
    rw [Transducer.leaves, inductionHypothesis]
    cases found : projection.relevant event with
    | none =>
      have unchanged := (projection.still state event found).1
      rw [List.filterMap_cons_none found, unchanged, observed, found, List.nil_append]
    | some kept =>
      have moved := projection.moves state event kept found
      rw [List.filterMap_cons_some found, Transducer.leaves, moved, observed, found]

end Projection
