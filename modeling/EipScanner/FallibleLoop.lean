/-
This file is about loops of the form `while body()? {}`: the body changes a state and says
whether to go on, or it fails, and a failure leaves the loop at once.

The loop is run for a number of rounds at most. Two rules say what holds of it. For a run
that ended, it is enough to look at a last round and at a round before others. For a run
to end, it is enough to follow the states of the rounds in order, up to one that stops.

Nothing here names what the body does. The states and the failures are arbitrary.
-/

import Mathlib.Tactic

namespace FallibleLoop

variable {State Failure : Type*}

/-- The loop, given up after a number of rounds. -/
def run (body : State → Except Failure Bool × State) :
    Nat → State → Option (Except Failure Unit × State)
  | 0, _ => none
  | rounds + 1, state =>
    match body state with
    | (.error failure, next) => some (.error failure, next)
    | (.ok true, next) => run body rounds next
    | (.ok false, next) => some (.ok (), next)

variable {body : State → Except Failure Bool × State}

theorem run_goesOn {state next : State} (goesOn : body state = (.ok true, next)) (rounds : Nat) :
    run body (rounds + 1) state = run body rounds next := by
  rw [run, goesOn]

/-- A round that does not go on ends the loop with its own outcome. -/
theorem run_stops {state next : State} {outcome : Except Failure Bool}
    (stops : body state = (outcome, next)) (not : outcome ≠ .ok true) (rounds : Nat) :
    run body (rounds + 1) state = some (outcome.map fun _ => (), next) := by
  rw [run, stops]
  rcases outcome with failure | _ | _
  · rfl
  · rfl
  · exact absurd rfl not

/-- What holds of a loop that ended: it holds of a round that stops, and of a round that goes on
if it holds of the rounds after it. -/
theorem run_induction {Holds : State → Except Failure Unit × State → Prop}
    (stops : ∀ state next outcome, body state = (outcome, next) → outcome ≠ .ok true →
      Holds state (outcome.map fun _ => (), next))
    (goesOn : ∀ state next final, body state = (.ok true, next) → Holds next final →
      Holds state final)
    {rounds : Nat} {state : State} {final : Except Failure Unit × State}
    (ended : run body rounds state = some final) : Holds state final := by
  induction rounds generalizing state with
  | zero => exact absurd ended nofun
  | succ rounds inductionHypothesis =>
    rcases round : body state with ⟨outcome, next⟩
    by_cases on : outcome = .ok true
    · subst on
      rw [run_goesOn round] at ended
      exact goesOn state next final round (inductionHypothesis ended)
    · rw [run_stops round on] at ended
      obtain rfl := Option.some.inj ended
      exact stops state next outcome round on

/-- When a loop ends: its rounds go on through a number of stages, and the stage after them is
one at which it stops. -/
theorem run_of_stages {At : Nat → State → Prop} {count : Nat}
    {Last : Except Failure Unit × State → Prop}
    (goesOn : ∀ index < count, ∀ state, At index state →
      ∃ next, body state = (.ok true, next) ∧ At (index + 1) next)
    (stops : ∀ state, At count state → ∃ outcome next, body state = (outcome, next) ∧
      outcome ≠ .ok true ∧ Last (outcome.map fun _ => (), next))
    {rounds : Nat} (enough : count < rounds) {state : State} (start : At 0 state) :
    ∃ final, run body rounds state = some final ∧ Last final := by
  have ending (left : Nat) : ∀ index allowed state, index + left = count → left < allowed →
      At index state → ∃ final, run body allowed state = some final ∧ Last final := by
    induction left with
    | zero =>
      intro index allowed state stage more here
      obtain rfl : index = count := stage
      obtain ⟨others, rfl⟩ := Nat.exists_eq_add_one.mpr more
      obtain ⟨outcome, next, round, not, last⟩ := stops state here
      rw [run_stops round not]
      exact ⟨_, rfl, last⟩
    | succ left inductionHypothesis =>
      intro index allowed state stage more here
      obtain ⟨others, rfl⟩ := Nat.exists_eq_add_one.mpr (Nat.zero_lt_of_lt more)
      obtain ⟨next, round, there⟩ := goesOn index (by omega) state here
      rw [run_goesOn round]
      exact inductionHypothesis (index + 1) others next (by omega) (Nat.lt_of_succ_lt_succ more)
        there
  exact ending count 0 rounds state (Nat.zero_add count) enough start

/-- When a loop ends: a measure gets smaller with each round that goes on. It ends after as many
rounds as the measure says, and one. -/
theorem run_of_measure {Holds : State → Prop} (measure : State → Nat)
    (smaller : ∀ state next, Holds state → body state = (.ok true, next) →
      Holds next ∧ measure next < measure state)
    {rounds : Nat} {state : State} (enough : measure state < rounds) (holds : Holds state) :
    ∃ final, run body rounds state = some final := by
  induction rounds generalizing state with
  | zero => exact absurd enough (Nat.not_lt_zero _)
  | succ rounds inductionHypothesis =>
    rcases round : body state with ⟨outcome, next⟩
    by_cases on : outcome = .ok true
    · subst on
      obtain ⟨holdsNext, less⟩ := smaller state next holds round
      rw [run_goesOn round]
      exact inductionHypothesis (by omega) holdsNext
    · exact ⟨_, run_stops round on rounds⟩

/-- A loop does not end when each of its rounds goes on. -/
theorem run_endless {Holds : State → Prop}
    (goesOn : ∀ state, Holds state → ∃ next, body state = (.ok true, next) ∧ Holds next)
    {state : State} (holds : Holds state) (rounds : Nat) : run body rounds state = none := by
  induction rounds generalizing state with
  | zero => rfl
  | succ rounds inductionHypothesis =>
    obtain ⟨next, round, holdsNext⟩ := goesOn state holds
    rw [run_goesOn round]
    exact inductionHypothesis holdsNext

end FallibleLoop
