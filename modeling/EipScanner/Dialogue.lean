/-
This file is about programs that talk to a device. A program changes the state of the device with
each request it makes of it, and either ends with a result or leaves at once with a failure.

What a program does is followed step by step: a step that succeeds hands its result to the next
one, and a step that fails is the end. Two rules speak of whole conversations. A device that gives
a list of answers in order gives them to the parts of a program one after the other. And a program
made of parts asks no more than its parts ask, in the order of its parts; where it fails, it has
asked a front of that.

Nothing here names the requests, the device or the failures.
-/

import Mathlib.Tactic

universe u

/-- A program that talks to a device. -/
def Dialogue (Device Failure Result : Type u) : Type u :=
  Device → Except Failure Result × Device

namespace Dialogue

variable {Device Failure Result First Second : Type u}

/-- The first part, and then what it calls for. -/
def andThen (first : Dialogue Device Failure First)
    (next : First → Dialogue Device Failure Second) : Dialogue Device Failure Second :=
  fun device =>
  match first device with
  | (.ok value, after) => next value after
  | (.error failure, after) => (.error failure, after)

/-- A result that was found without the device. -/
def settled (outcome : Except Failure Result) : Dialogue Device Failure Result :=
  fun device => (outcome, device)

instance : Monad (Dialogue Device Failure) where
  pure value := settled (.ok value)
  bind := andThen

instance : MonadLift (Except Failure) (Dialogue Device Failure) where
  monadLift := settled

theorem andThen_settled (program : Dialogue Device Failure Result) :
    andThen program (fun value => settled (.ok value)) = program := by
  funext device
  rw [andThen]
  rcases program device with ⟨failure | value, after⟩
  · rfl
  · rfl

theorem andThen_andThen {Third : Type u} (first : Dialogue Device Failure First)
    (second : First → Dialogue Device Failure Second)
    (third : Second → Dialogue Device Failure Third) :
    andThen (andThen first second) third = andThen first fun value =>
      andThen (second value) third := by
  funext device
  rw [andThen, andThen, andThen]
  rcases first device with ⟨failure | value, after⟩
  · rfl
  · rfl

instance : LawfulMonad (Dialogue Device Failure) :=
  LawfulMonad.mk' _ andThen_settled (fun _ _ => rfl) andThen_andThen

variable {first : Dialogue Device Failure First} {next : First → Dialogue Device Failure Second}
  {device after : Device}

/-! ### Following a program -/

theorem bind_of_ok {value : First} (succeeds : first device = (.ok value, after)) :
    (first >>= next) device = next value after := by
  change andThen first next device = next value after
  rw [andThen, succeeds]

theorem bind_of_error {failure : Failure} (fails : first device = (.error failure, after)) :
    (first >>= next) device = (.error failure, after) := by
  change andThen first next device = _
  rw [andThen, fails]

/-- A part that succeeds without the device. -/
theorem bind_settled_ok {outcome : Except Failure First} {value : First}
    (succeeds : outcome = .ok value) :
    ((liftM outcome : Dialogue Device Failure First) >>= next) device = next value device :=
  bind_of_ok (congrArg (·, device) succeeds)

theorem bind_settled_error {outcome : Except Failure First} {failure : Failure}
    (fails : outcome = .error failure) :
    ((liftM outcome : Dialogue Device Failure First) >>= next) device = (.error failure, device) :=
  bind_of_error (congrArg (·, device) fails)

/-- A program in two parts succeeds when both do. -/
theorem bind_eq_ok_iff {result : Second} {last : Device} :
    (first >>= next) device = (.ok result, last) ↔
      ∃ value after, first device = (.ok value, after) ∧ next value after = (.ok result, last) := by
  constructor
  · intro ended
    rcases here : first device with ⟨failure | value, after⟩
    · rw [bind_of_error here] at ended
      cases ended
    · rw [bind_of_ok here] at ended
      exact ⟨value, after, rfl, ended⟩
  · rintro ⟨value, after, here, ended⟩
    rwa [bind_of_ok here]

theorem settled_eq_ok_iff {outcome : Except Failure Result} {result : Result} {last : Device} :
    (liftM outcome : Dialogue Device Failure Result) device = (.ok result, last) ↔
      outcome = .ok result ∧ device = last :=
  Prod.mk_inj

/-! ### Answers in order -/

section
variable {Exchange : Type*} {answers : Exchange → Device → Device → Prop}

/-- The device gives the answers of the exchanges, one after the other. -/
def Converses (answers : Exchange → Device → Device → Prop) :
    List Exchange → Device → Device → Prop
  | [], device, last => device = last
  | exchange :: later, device, last =>
    ∃ next, answers exchange device next ∧ Converses answers later next last

/-- One exchange for each of a list of inputs. -/
theorem mapM_of_converses {Input : Type u} {ask : Input → Dialogue Device Failure Result}
    {exchange : Input → Exchange} {result : Input → Result}
    (asks : ∀ input device next, answers (exchange input) device next →
      ask input device = (.ok (result input), next))
    {inputs : List Input} {device last : Device}
    (talks : Converses answers (inputs.map exchange) device last) :
    inputs.mapM ask device = (.ok (inputs.map result), last) := by
  induction inputs generalizing device with
  | nil =>
    obtain rfl : device = last := talks
    rfl
  | cons input inputs inductionHypothesis =>
    obtain ⟨next, here, rest⟩ := talks
    have others := inductionHypothesis rest
    rw [List.mapM_cons, bind_of_ok (asks input device next here), bind_of_ok others]
    rfl

end

/-! ### What is asked -/

section
variable {Request : Type*} {log : Device → List Request}

/-- The program asks the requests of a list in order. Where it fails, it has asked a front of
them. -/
def Asks (log : Device → List Request) (requests : List Request)
    (program : Dialogue Device Failure Result) : Prop :=
  ∀ device, ∃ asked, log (program device).2 = log device ++ asked ∧ asked <+: requests ∧
    ∀ result, (program device).1 = .ok result → asked = requests

/-- The program asks the requests of a list in order, up to some place. -/
def AsksAtMost (log : Device → List Request) (requests : List Request)
    (program : Dialogue Device Failure Result) : Prop :=
  ∀ device, ∃ asked, log (program device).2 = log device ++ asked ∧ asked <+: requests

theorem asks_settled (outcome : Except Failure Result) :
    Asks log [] (liftM outcome : Dialogue Device Failure Result) := fun device =>
  ⟨[], (List.append_nil (log device)).symm, List.nil_prefix, fun _ _ => rfl⟩

theorem Asks.bind {earlier later : List Request} (asksFirst : Asks log earlier first)
    (asksNext : ∀ value, Asks log later (next value)) :
    Asks log (earlier ++ later) (first >>= next) := by
  intro device
  obtain ⟨asked, grown, front, whole⟩ := asksFirst device
  rcases here : first device with ⟨failure | value, after⟩
  · rw [here] at grown
    rw [bind_of_error here]
    refine ⟨asked, grown, front.trans (List.prefix_append _ _), fun result same => ?_⟩
    cases same
  · rw [here] at grown whole
    obtain rfl := whole value rfl
    obtain ⟨more, grownMore, frontMore, wholeMore⟩ := asksNext value after
    rw [bind_of_ok here]
    refine ⟨asked ++ more, ?_, (List.prefix_append_right_inj asked).mpr frontMore,
      fun result same => ?_⟩
    · rw [grownMore, grown, List.append_assoc]
    · rw [wholeMore result same]

theorem asks_mapM {Input : Type u} {ask : Input → Dialogue Device Failure Result}
    {request : Input → Request} (each : ∀ input, Asks log [request input] (ask input))
    (inputs : List Input) : Asks log (inputs.map request) (inputs.mapM ask) := by
  induction inputs with
  | nil => exact asks_settled (.ok [])
  | cons input inputs inductionHypothesis =>
    rw [List.mapM_cons]
    refine (each input).bind fun value => ?_
    rw [← List.append_nil (inputs.map request)]
    exact inductionHypothesis.bind fun values => asks_settled (.ok (value :: values))

theorem asksAtMost_settled (requests : List Request) (outcome : Except Failure Result) :
    AsksAtMost log requests (liftM outcome : Dialogue Device Failure Result) := fun device =>
  ⟨[], (List.append_nil (log device)).symm, List.nil_prefix⟩

theorem Asks.bindAtMost {earlier later : List Request} (asksFirst : Asks log earlier first)
    (asksNext : ∀ value, AsksAtMost log later (next value)) :
    AsksAtMost log (earlier ++ later) (first >>= next) := by
  intro device
  obtain ⟨asked, grown, front, whole⟩ := asksFirst device
  rcases here : first device with ⟨failure | value, after⟩
  · rw [here] at grown
    rw [bind_of_error here]
    exact ⟨asked, grown, front.trans (List.prefix_append _ _)⟩
  · rw [here] at grown whole
    obtain rfl := whole value rfl
    obtain ⟨more, grownMore, frontMore⟩ := asksNext value after
    rw [bind_of_ok here]
    refine ⟨asked ++ more, ?_, (List.prefix_append_right_inj asked).mpr frontMore⟩
    rw [grownMore, grown, List.append_assoc]

end

end Dialogue
