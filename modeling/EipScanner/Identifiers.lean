/-
This file follows the numbers that a connection manager gives to its connections: the serial
numbers, and the connection IDs that it chooses for the directions that leave the choice to it.

Calls of forward open run on any threads. What they share are two counters, and a call takes
its numbers from them one at a time, each in one atomic step. So an interleaving of calls is a
list of events, each of which begins a call or takes one call a step further: two connection
IDs if they are asked for, the serial number, the reply that opens the connection, and its
close. A call that fails goes no further.

The counters hand out every place once, but their values wrap around: the serial number after
2^16 calls, the connection ID after 2^32. The ID is one more than the counter held, and that
addition is not atomic and overflows when the counter is at its maximum. Then the ID is zero,
which stands for an ID that was not chosen.
-/

import EipScanner.Machine
import EipScanner.OpenConnection

namespace EipScanner

/-! ### State -/

inductive CallStage where
  | begun
  | o2tNumbered
  | t2oNumbered
  | sent
  | opened
  | closed
  deriving DecidableEq, Repr

/-- A call and its numbers, each with its place among all that were handed out. The places are not
part of the program. A number that was not asked for is absent. -/
structure NumberedCall where
  config : ConnectionConfig
  stage : CallStage
  o2tId : Option (Nat × UInt32)
  t2oId : Option (Nat × UInt32)
  serial : Option (Nat × UInt16)
  deriving DecidableEq, Repr

/-- The request with all the numbers is on its way or was answered. -/
def CallStage.isSent : CallStage → Bool
  | .begun | .o2tNumbered | .t2oNumbered => false
  | .sent | .opened | .closed => true

namespace NumberedCall

def begun (config : ConnectionConfig) : NumberedCall := ⟨config, .begun, none, none, none⟩

/-- The connection IDs that the originator chose, with their places. -/
def chosen (call : NumberedCall) : List (Nat × UInt32) := call.o2tId.toList ++ call.t2oId.toList

/-- The connection IDs in the request. One that was not chosen is zero. -/
def requestIds (call : NumberedCall) : UInt32 × UInt32 :=
  ((call.o2tId.map Prod.snd).getD 0, (call.t2oId.map Prod.snd).getD 0)

/-- Whether a call asks for a connection ID in its next step. -/
def asks (call : NumberedCall) : Bool :=
  match call.stage with
  | .begun => decide (call.config.o2t.connectionType = .multicast)
  | .o2tNumbered => decide (call.config.t2o.connectionType = .pointToPoint)
  | _ => false

end NumberedCall

/-- The counters of a manager and its calls. How many numbers were handed out is not part of the
program, nor is the record of an overflow. -/
structure Numbering where
  counters : IdCounters
  calls : List NumberedCall
  idsTaken : Nat
  serialsTaken : Nat
  overflowed : Bool

/-- The counters start at places taken from a random number. -/
def IdCounters.ofRandom (random : UInt64) : IdCounters where
  nextSerial := random.toUInt16
  nextConnectionId := (random >>> 16).toUInt32 <<< 16

namespace Numbering

def new (counters : IdCounters) : Numbering := ⟨counters, [], 0, 0, false⟩

def start (random : UInt64) : Numbering := new (IdCounters.ofRandom random)

/-- The addition behind the counter overflows. -/
def overflows (numbering : Numbering) : Bool :=
  numbering.counters.nextConnectionId == 0xFFFFFFFF

/-- Take the next connection ID when a direction asks for one. -/
def takeId (numbering : Numbering) (asked : Bool) : Option (Nat × UInt32) × Numbering :=
  if asked then
    let (id, counters) := numbering.counters.nextId
    (some (numbering.idsTaken, id),
      { numbering with
        counters := counters
        idsTaken := numbering.idsTaken + 1
        overflowed := numbering.overflowed || numbering.overflows })
  else (none, numbering)

def takeSerial (numbering : Numbering) : (Nat × UInt16) × Numbering :=
  ((numbering.serialsTaken, numbering.counters.nextSerial),
    { numbering with
      counters := { numbering.counters with nextSerial := numbering.counters.nextSerial + 1 }
      serialsTaken := numbering.serialsTaken + 1 })

def setCall (numbering : Numbering) (index : Nat) (call : NumberedCall) : Numbering :=
  { numbering with calls := numbering.calls.set index call }

/-- Take a call a step further. -/
def advance (numbering : Numbering) (index : Nat) (call : NumberedCall) : Option Numbering :=
  match call.stage with
  | .begun =>
    let taken := numbering.takeId call.asks
    some (taken.2.setCall index { call with o2tId := taken.1, stage := .o2tNumbered })
  | .o2tNumbered =>
    let taken := numbering.takeId call.asks
    some (taken.2.setCall index { call with t2oId := taken.1, stage := .t2oNumbered })
  | .t2oNumbered =>
    let taken := numbering.takeSerial
    some (taken.2.setCall index { call with serial := some taken.1, stage := .sent })
  | .sent => some (numbering.setCall index { call with stage := .opened })
  | .opened => some (numbering.setCall index { call with stage := .closed })
  | .closed => none

end Numbering

inductive NumberingEvent where
  | call (config : ConnectionConfig)
  | advance (index : Nat)

def numberingMachine : Machine Numbering NumberingEvent where
  step numbering event :=
    match event with
    | .call config =>
      match checkConfig config with
      | .error _ => none
      | .ok () => some { numbering with calls := numbering.calls ++ [NumberedCall.begun config] }
    | .advance index =>
      match numbering.calls[index]? with
      | none => none
      | some call => numbering.advance index call

/-! ### What a step does -/

/-- A call that goes a step further keeps its numbers, and gets at most one new one, which is the
next. -/
structure Advanced (before : Numbering) (call next : NumberedCall) (after : Numbering) : Prop where
  ids : ∀ number ∈ next.chosen, number ∈ call.chosen ∨
    number = (before.idsTaken, before.counters.nextConnectionId + 1) ∧ call.asks = true
  serial : ∀ number, next.serial = some number → call.serial = some number ∨
    number = (before.serialsTaken, before.counters.nextSerial) ∧
      after.serialsTaken = before.serialsTaken + 1
  idCounter : after.idsTaken = before.idsTaken + call.asks.toNat ∧
    after.counters.nextConnectionId =
      before.counters.nextConnectionId + UInt32.ofNat call.asks.toNat
  serialCounter : ∃ taken, after.serialsTaken = before.serialsTaken + taken ∧
    after.counters.nextSerial = before.counters.nextSerial + UInt16.ofNat taken
  overflowed : after.overflowed = (before.overflowed || (call.asks && before.overflows))
  sent : next.stage.isSent = true → next.serial.isSome = true ∨
    call.stage.isSent = true ∧ next.serial = call.serial
  opened : next.stage = .opened →
    call.stage = .sent ∧ next.chosen = call.chosen ∧ next.serial = call.serial

namespace Numbering

theorem takeId_eq (numbering : Numbering) (asked : Bool) :
    (numbering.takeId asked).1 = (if asked then
        some (numbering.idsTaken, numbering.counters.nextConnectionId + 1) else none) ∧
      (numbering.takeId asked).2 =
        { numbering with
          counters := { numbering.counters with
            nextConnectionId := numbering.counters.nextConnectionId + UInt32.ofNat asked.toNat }
          idsTaken := numbering.idsTaken + asked.toNat
          overflowed := numbering.overflowed || (asked && numbering.overflows) } := by
  cases asked with
  | true => exact ⟨rfl, rfl⟩
  | false =>
    refine ⟨rfl, ?_⟩
    rw [takeId, if_neg Bool.false_ne_true]
    simp

/-- A step that takes an ID if it is asked for, and keeps the other numbers. -/
theorem advanced_takeId (numbering : Numbering) (index : Nat) {call next : NumberedCall}
    (ids : ∀ number ∈ next.chosen, number ∈ call.chosen ∨
      (numbering.takeId call.asks).1 = some number)
    (serial : next.serial = call.serial) (unsent : next.stage.isSent = false) :
    Advanced numbering call next ((numbering.takeId call.asks).2.setCall index next) := by
  obtain ⟨id, taken⟩ := numbering.takeId_eq call.asks
  rw [id] at ids
  rw [taken]
  refine ⟨fun number member => (ids number member).imp_right fun new => ?_,
    fun number known => Or.inl (serial ▸ known), ⟨rfl, rfl⟩, ⟨0, rfl, ?_⟩, rfl,
    fun sent => absurd (unsent.symm.trans sent) Bool.false_ne_true, fun opened => ?_⟩
  · split at new
    next asked => exact ⟨(Option.some.inj new).symm, asked⟩
    · exact absurd new nofun
  · exact (UInt16.add_zero _).symm
  · rw [opened] at unsent
    exact absurd unsent nofun

/-- A step that takes no number. -/
theorem advanced_silent (numbering : Numbering) (index : Nat) {call next : NumberedCall}
    (asks : call.asks = false) (ids : next.chosen = call.chosen)
    (serial : next.serial = call.serial) (sent : call.stage.isSent = true)
    (opened : next.stage = .opened → call.stage = .sent) :
    Advanced numbering call next (numbering.setCall index next) := by
  refine ⟨fun number member => Or.inl (ids ▸ member), fun number known => Or.inl (serial ▸ known),
    ?_, ⟨0, rfl, (UInt16.add_zero _).symm⟩, ?_, fun _ => Or.inr ⟨sent, serial⟩,
    fun here => ⟨opened here, ids, serial⟩⟩
  · rw [asks]
    exact ⟨rfl, (UInt32.add_zero _).symm⟩
  · rw [asks, Bool.false_and, Bool.or_false]
    rfl

theorem advanced_of_advance {numbering after : Numbering} {index : Nat} {call : NumberedCall}
    (step : numbering.advance index call = some after) :
    ∃ next, after.calls = numbering.calls.set index next ∧ Advanced numbering call next after := by
  have calls : (numbering.takeId call.asks).2.calls = numbering.calls := by
    rw [(numbering.takeId_eq call.asks).2]
  rw [advance] at step
  split at step
  next stage =>
    obtain rfl := Option.some.inj step
    refine ⟨_, congrArg (List.set · index _) calls, advanced_takeId numbering index ?_ rfl rfl⟩
    intro number member
    rcases List.mem_append.mp member with first | second
    · exact Or.inr (Option.mem_toList.mp first)
    · exact Or.inl (List.mem_append_right _ second)
  next stage =>
    obtain rfl := Option.some.inj step
    refine ⟨_, congrArg (List.set · index _) calls, advanced_takeId numbering index ?_ rfl rfl⟩
    intro number member
    rcases List.mem_append.mp member with first | second
    · exact Or.inl (List.mem_append_left _ first)
    · exact Or.inr (Option.mem_toList.mp second)
  next stage =>
    obtain rfl := Option.some.inj step
    have asks : call.asks = false := by rw [NumberedCall.asks, stage]
    refine ⟨_, rfl, fun number member => Or.inl member, fun number known => Or.inr ?_, ?_,
      ⟨1, rfl, rfl⟩, ?_, fun _ => Or.inl rfl, nofun⟩
    · exact ⟨(Option.some.inj known).symm, rfl⟩
    · rw [asks]
      exact ⟨rfl, (UInt32.add_zero _).symm⟩
    · rw [asks, Bool.false_and, Bool.or_false]
      rfl
  next stage =>
    obtain rfl := Option.some.inj step
    refine ⟨_, rfl, advanced_silent numbering index ?_ rfl rfl ?_ fun _ => stage⟩
    · rw [NumberedCall.asks, stage]
    · rw [stage]
      rfl
  next stage =>
    obtain rfl := Option.some.inj step
    refine ⟨_, rfl, advanced_silent numbering index ?_ rfl rfl ?_ nofun⟩
    · rw [NumberedCall.asks, stage]
    · rw [stage]
      rfl
  · exact absurd step nofun

/-! ### What was handed out -/

/-- The connection ID at a place, for a manager that started with the counters. -/
def idAt (start : IdCounters) (place : Nat) : UInt32 :=
  start.nextConnectionId + UInt32.ofNat (place + 1)

def serialAt (start : IdCounters) (place : Nat) : UInt16 := start.nextSerial + UInt16.ofNat place

/-- No place of one call is a place of the other. -/
structure Apart (call other : NumberedCall) : Prop where
  ids : ∀ number ∈ call.chosen, ∀ another ∈ other.chosen, number.1 ≠ another.1
  serials : ∀ number another, call.serial = some number → other.serial = some another →
    number.1 ≠ another.1

theorem Apart.symm {call other : NumberedCall} (apart : Apart call other) : Apart other call where
  ids number inOther another inCall := (apart.ids another inCall number inOther).symm
  serials number another inOther inCall := (apart.serials another number inCall inOther).symm

/-- A relation holds of any two calls at different indices. -/
def EachTwo (related : NumberedCall → NumberedCall → Prop) (calls : List NumberedCall) : Prop :=
  ∀ (first second : Nat) (call other : NumberedCall), first ≠ second →
    calls[first]? = some call → calls[second]? = some other → related call other

theorem eachTwo_nil {related : NumberedCall → NumberedCall → Prop} : EachTwo related [] :=
  fun _ _ _ _ _ found _ => absurd (List.mem_of_getElem? found) List.not_mem_nil

/-- What holds of a changed call and each other one, and of the others among themselves, holds of
any two. -/
theorem EachTwo.set {related : NumberedCall → NumberedCall → Prop} {calls : List NumberedCall}
    {index : Nat} {next : NumberedCall}
    (symmetric : ∀ call other, related call other → related other call)
    (each : EachTwo related calls)
    (changed : ∀ second other, second ≠ index → calls[second]? = some other →
      related next other) : EachTwo related (calls.set index next) := by
  intro first second call other different here there
  rw [List.getElem?_set] at here there
  split at here
  next same =>
    split at there
    next also => exact absurd (same.symm.trans also) different
    next elsewhere =>
      split at here
      · obtain rfl := Option.some.inj here
        exact changed second other (Ne.symm elsewhere) there
      · exact absurd here nofun
  next elsewhere =>
    split at there
    next same =>
      split at there
      · obtain rfl := Option.some.inj there
        exact symmetric _ _ (changed first call (Ne.symm elsewhere) here)
      · exact absurd there nofun
    next => exact each first second call other different here there

/-- What holds of a new call and each old one, and of the old ones among themselves, holds of any
two. -/
theorem EachTwo.concat {related : NumberedCall → NumberedCall → Prop} {calls : List NumberedCall}
    {last : NumberedCall} (symmetric : ∀ call other, related call other → related other call)
    (each : EachTwo related calls) (added : ∀ other ∈ calls, related last other) :
    EachTwo related (calls ++ [last]) := by
  intro first second call other different here there
  rw [getElem?_concat] at here there
  split at here
  next same =>
    obtain rfl := Option.some.inj here
    rw [if_neg (fun also => different (same.trans also.symm))] at there
    exact added other (List.mem_of_getElem? there)
  next elsewhere =>
    split at there
    · obtain rfl := Option.some.inj there
      exact symmetric _ _ (added call (List.mem_of_getElem? here))
    · exact each first second call other different here there

/-- Every number that a call has is the one at its place, and no two calls have a place in
common. -/
structure Handed (start : IdCounters) (numbering : Numbering) : Prop where
  idCounter : numbering.counters.nextConnectionId =
    start.nextConnectionId + UInt32.ofNat numbering.idsTaken
  serialCounter : numbering.counters.nextSerial =
    start.nextSerial + UInt16.ofNat numbering.serialsTaken
  ids : ∀ call ∈ numbering.calls, ∀ number ∈ call.chosen,
    number.1 < numbering.idsTaken ∧ number.2 = idAt start number.1
  serials : ∀ call ∈ numbering.calls, ∀ number, call.serial = some number →
    number.1 < numbering.serialsTaken ∧ number.2 = serialAt start number.1
  sent : ∀ call ∈ numbering.calls, call.stage.isSent = true → call.serial.isSome = true
  apart : EachTwo Apart numbering.calls

theorem ofNat_add_bool (place : Nat) (asked : Bool) :
    UInt32.ofNat place + UInt32.ofNat asked.toNat = UInt32.ofNat (place + asked.toNat) :=
  (UInt32.ofNat_add _ _).symm

/-- The next number is the one at the next place. -/
theorem Handed.next_id {start : IdCounters} {numbering : Numbering}
    (handed : Handed start numbering) :
    numbering.counters.nextConnectionId + 1 = idAt start numbering.idsTaken := by
  rw [handed.idCounter, idAt, UInt32.ofNat_add, UInt32.add_assoc]
  rfl

theorem handed_advanced {start : IdCounters} {numbering after : Numbering} {index : Nat}
    {call next : NumberedCall} (handed : Handed start numbering)
    (found : numbering.calls[index]? = some call)
    (calls : after.calls = numbering.calls.set index next)
    (advanced : Advanced numbering call next after) : Handed start after := by
  have member := List.mem_of_getElem? found
  obtain ⟨serialsTaken, serialCount, serialCounter⟩ := advanced.serialCounter
  have moreIds : numbering.idsTaken ≤ after.idsTaken := by
    rw [advanced.idCounter.1]
    exact Nat.le_add_right _ _
  have moreSerials : numbering.serialsTaken ≤ after.serialsTaken := by
    rw [serialCount]
    exact Nat.le_add_right _ _
  refine ⟨?_, ?_, ?_, ?_, ?_, ?_⟩
  · rw [advanced.idCounter.2, advanced.idCounter.1, handed.idCounter, UInt32.add_assoc,
      ofNat_add_bool]
  · rw [serialCounter, serialCount, handed.serialCounter, UInt16.add_assoc, UInt16.ofNat_add]
  · intro other present number chosen
    rw [calls] at present
    rcases List.mem_or_eq_of_mem_set present with old | rfl
    · obtain ⟨placed, value⟩ := handed.ids other old number chosen
      exact ⟨placed.trans_le moreIds, value⟩
    · rcases advanced.ids number chosen with kept | ⟨rfl, asks⟩
      · obtain ⟨placed, value⟩ := handed.ids call member number kept
        exact ⟨placed.trans_le moreIds, value⟩
      · refine ⟨?_, handed.next_id⟩
        rw [advanced.idCounter.1, asks]
        exact Nat.lt_succ_self _
  · intro other present number known
    rw [calls] at present
    rcases List.mem_or_eq_of_mem_set present with old | rfl
    · obtain ⟨placed, value⟩ := handed.serials other old number known
      exact ⟨placed.trans_le moreSerials, value⟩
    · rcases advanced.serial number known with kept | ⟨rfl, taken⟩
      · obtain ⟨placed, value⟩ := handed.serials call member number kept
        exact ⟨placed.trans_le moreSerials, value⟩
      · exact ⟨taken ▸ Nat.lt_succ_self _, handed.serialCounter⟩
  · intro other present sent
    rw [calls] at present
    rcases List.mem_or_eq_of_mem_set present with old | rfl
    · exact handed.sent other old sent
    · rcases advanced.sent sent with numbered | ⟨before, same⟩
      · exact numbered
      · exact same ▸ handed.sent call member before
  · rw [calls]
    refine handed.apart.set (fun _ _ apart => apart.symm) fun second other elsewhere there => ?_
    have before := handed.apart index second call other (Ne.symm elsewhere) found there
    have present := List.mem_of_getElem? there
    refine ⟨fun number chosen another inOther => ?_, fun number another known inOther => ?_⟩
    · rcases advanced.ids number chosen with kept | ⟨rfl, -⟩
      · exact before.ids number kept another inOther
      · exact (handed.ids other present another inOther).1.ne'
    · rcases advanced.serial number known with kept | ⟨rfl, -⟩
      · exact before.serials number another kept inOther
      · exact (handed.serials other present another inOther).1.ne'

theorem handed_of_step {start : IdCounters} {numbering after : Numbering} {event : NumberingEvent}
    (handed : Handed start numbering) (step : numberingMachine.step numbering event = some after) :
    Handed start after := by
  cases event with
  | call config =>
    rw [numberingMachine] at step
    dsimp only at step
    split at step
    · exact absurd step nofun
    · obtain rfl := Option.some.inj step
      refine ⟨handed.idCounter, handed.serialCounter, ?_, ?_, ?_, ?_⟩
      · exact List.forall_mem_append.mpr ⟨handed.ids, List.forall_mem_singleton.mpr nofun⟩
      · exact List.forall_mem_append.mpr ⟨handed.serials, List.forall_mem_singleton.mpr nofun⟩
      · exact List.forall_mem_append.mpr ⟨handed.sent, List.forall_mem_singleton.mpr nofun⟩
      · exact handed.apart.concat (fun _ _ apart => apart.symm) fun other _ => ⟨nofun, nofun⟩
  | advance index =>
    rw [numberingMachine] at step
    dsimp only at step
    split at step
    · exact absurd step nofun
    next call found =>
      obtain ⟨next, calls, advanced⟩ := advanced_of_advance step
      exact handed_advanced handed found calls advanced

theorem handed_new (counters : IdCounters) : Handed counters (new counters) where
  idCounter := (UInt32.add_zero _).symm
  serialCounter := (UInt16.add_zero _).symm
  ids _ member := absurd member List.not_mem_nil
  serials _ member := absurd member List.not_mem_nil
  sent _ member := absurd member List.not_mem_nil
  apart := eachTwo_nil

/-! ### Collisions -/

/-- Two places that lie one or more whole rounds of a counter apart. -/
def Wrapped (period first second : Nat) : Prop :=
  first ≠ second ∧ first % period = second % period

/-- Two calls that have numbers whole rounds apart. -/
def Wraps (call other : NumberedCall) : Prop :=
  (∃ number another, call.serial = some number ∧ other.serial = some another ∧
    Wrapped (2 ^ 16) number.1 another.1) ∨
  ∃ number ∈ call.chosen, ∃ another ∈ other.chosen, Wrapped (2 ^ 32) number.1 another.1

/-- The counter is not at its maximum when an ID is taken, and a connection that opens has no
number a whole round from that of another open one. -/
def Unwrapped (numbering : Numbering) : NumberingEvent → Prop
  | .call _ => True
  | .advance index => ∀ call, numbering.calls[index]? = some call →
    (call.asks = true → numbering.overflows = false) ∧
      (call.stage = .sent → ∀ other ∈ numbering.calls, other.stage = .opened → ¬ Wraps call other)

/-- Two calls whose requests share neither the serial number nor a connection ID that was
chosen. -/
structure Distinct (call other : NumberedCall) : Prop where
  serials : call.serial.map Prod.snd ≠ other.serial.map Prod.snd
  ids : ∀ number ∈ call.chosen, ∀ another ∈ other.chosen, number.2 ≠ another.2

theorem Distinct.symm {call other : NumberedCall} (distinct : Distinct call other) :
    Distinct other call where
  serials := distinct.serials.symm
  ids number inOther another inCall := (distinct.ids another inCall number inOther).symm

/-- No computation of an ID has overflowed, no ID that was chosen is zero, and no two open
connections were requested with the same number. -/
structure CollisionFree (numbering : Numbering) : Prop where
  overflowed : numbering.overflowed = false
  nonzero : ∀ call ∈ numbering.calls, ∀ number ∈ call.chosen, number.2 ≠ 0
  distinct : EachTwo (fun call other => call.stage = .opened → other.stage = .opened →
    Distinct call other) numbering.calls

theorem serialAt_inj {start : IdCounters} {first second : Nat}
    (same : serialAt start first = serialAt start second) : first % 2 ^ 16 = second % 2 ^ 16 := by
  have numbers := congrArg UInt16.toNat ((UInt16.add_right_inj _).mp same)
  rwa [UInt16.toNat_ofNat', UInt16.toNat_ofNat'] at numbers

theorem idAt_inj {start : IdCounters} {first second : Nat}
    (same : idAt start first = idAt start second) : first % 2 ^ 32 = second % 2 ^ 32 := by
  have numbers := congrArg UInt32.toNat ((UInt32.add_right_inj _).mp same)
  rw [UInt32.toNat_ofNat', UInt32.toNat_ofNat'] at numbers
  omega

/-- Numbers at different places are the same only a whole round apart. -/
theorem Handed.distinct {start : IdCounters} {numbering : Numbering}
    (handed : Handed start numbering) {call other : NumberedCall} (here : call ∈ numbering.calls)
    (there : other ∈ numbering.calls) (apart : Apart call other) (near : ¬ Wraps call other)
    (sent : call.stage.isSent = true) (otherSent : other.stage.isSent = true) :
    Distinct call other := by
  obtain ⟨number, known⟩ := Option.isSome_iff_exists.mp (handed.sent call here sent)
  obtain ⟨another, known'⟩ := Option.isSome_iff_exists.mp (handed.sent other there otherSent)
  constructor
  · intro same
    rw [known, known'] at same
    have values : number.2 = another.2 := Option.some.inj same
    rw [(handed.serials call here number known).2,
      (handed.serials other there another known').2] at values
    exact near (Or.inl ⟨number, another, known, known', apart.serials number another known known',
      serialAt_inj values⟩)
  · intro number inCall another inOther values
    rw [(handed.ids call here number inCall).2,
      (handed.ids other there another inOther).2] at values
    exact near (Or.inr ⟨number, inCall, another, inOther, apart.ids number inCall another inOther,
      idAt_inj values⟩)

theorem collisionFree_advanced {start : IdCounters} {numbering after : Numbering} {index : Nat}
    {call next : NumberedCall} (handed : Handed start numbering)
    (free : CollisionFree numbering) (found : numbering.calls[index]? = some call)
    (fits : call.asks = true → numbering.overflows = false)
    (near : call.stage = .sent → ∀ other ∈ numbering.calls, other.stage = .opened →
      ¬ Wraps call other)
    (calls : after.calls = numbering.calls.set index next)
    (advanced : Advanced numbering call next after) : CollisionFree after := by
  have member := List.mem_of_getElem? found
  refine ⟨?_, ?_, ?_⟩
  · rw [advanced.overflowed, free.overflowed, Bool.false_or, Bool.and_eq_false_iff]
    cases asks : call.asks with
    | true => exact Or.inr (fits asks)
    | false => exact Or.inl rfl
  · intro other present number chosen
    rw [calls] at present
    rcases List.mem_or_eq_of_mem_set present with old | rfl
    · exact free.nonzero other old number chosen
    · rcases advanced.ids number chosen with kept | ⟨rfl, asks⟩
      · exact free.nonzero call member number kept
      · intro zero
        have maximum : numbering.counters.nextConnectionId = 0xFFFFFFFF :=
          (UInt32.add_left_inj 1).mp (zero.trans (by decide))
        have overflow := fits asks
        rw [overflows, maximum] at overflow
        exact absurd overflow (by decide)
  · rw [calls]
    refine free.distinct.set (fun _ _ related opened also => (related also opened).symm) ?_
    intro second other elsewhere there opened otherOpened
    obtain ⟨sent, chosen, serial⟩ := advanced.opened opened
    have present := List.mem_of_getElem? there
    have distinct := handed.distinct member present
      (handed.apart index second call other (Ne.symm elsewhere) found there)
      (near sent other present otherOpened) (by rw [sent]; rfl) (by rw [otherOpened]; rfl)
    exact ⟨serial ▸ distinct.serials, chosen ▸ distinct.ids⟩

theorem collisionFree_of_step {start : IdCounters} {numbering after : Numbering}
    {event : NumberingEvent} (handed : Handed start numbering) (free : CollisionFree numbering)
    (near : Unwrapped numbering event)
    (step : numberingMachine.step numbering event = some after) : CollisionFree after := by
  cases event with
  | call config =>
    rw [numberingMachine] at step
    dsimp only at step
    split at step
    · exact absurd step nofun
    · obtain rfl := Option.some.inj step
      refine ⟨free.overflowed, ?_, ?_⟩
      · exact List.forall_mem_append.mpr ⟨free.nonzero, List.forall_mem_singleton.mpr nofun⟩
      · exact free.distinct.concat (fun _ _ related opened also => (related also opened).symm)
          fun other _ => nofun
  | advance index =>
    rw [numberingMachine] at step
    dsimp only at step
    split at step
    · exact absurd step nofun
    next call found =>
      obtain ⟨next, calls, advanced⟩ := advanced_of_advance step
      obtain ⟨fits, apart⟩ := near call found
      exact collisionFree_advanced handed free found fits apart calls advanced

theorem collisionFree_new (counters : IdCounters) : CollisionFree (new counters) where
  overflowed := rfl
  nonzero _ member := absurd member List.not_mem_nil
  distinct := eachTwo_nil

/-- In every run, from any starting point, in which the counter is never at its maximum when an ID
is taken and no connection opens a whole round from another open one, the numbers do not
collide. -/
theorem collisionFree_of_run (random : UInt64) {events : List NumberingEvent} {last : Numbering}
    (unwrapped : numberingMachine.Meets Unwrapped (start random) events)
    (reached : numberingMachine.run (start random) events = some last) : CollisionFree last := by
  have preserved : ∀ numbering event after,
      Handed (IdCounters.ofRandom random) numbering ∧ CollisionFree numbering →
        Unwrapped numbering event → numberingMachine.step numbering event = some after →
          Handed (IdCounters.ofRandom random) after ∧ CollisionFree after :=
    fun _ _ _ both near step =>
      ⟨handed_of_step both.1 step, collisionFree_of_step both.1 both.2 near step⟩
  exact (numberingMachine.invariant_of_meets preserved
    ⟨handed_new _, collisionFree_new _⟩ unwrapped reached).2

/-! ### Calls one after the other -/

/-- The events of a call that no other call comes in between, up to its request. -/
def requestEvents (config : ConnectionConfig) (index : Nat) : List NumberingEvent :=
  [.call config, .advance index, .advance index, .advance index]

/-- The numbers of a call that no other call comes in between. -/
def numberAlone (numbering : Numbering) (config : ConnectionConfig) : NumberedCall × Numbering :=
  let begun := NumberedCall.begun config
  let o2t := numbering.takeId begun.asks
  let t2o := o2t.2.takeId ({ begun with stage := .o2tNumbered } : NumberedCall).asks
  let serial := t2o.2.takeSerial
  (⟨config, .sent, o2t.1, t2o.1, some serial.1⟩, serial.2)

theorem set_concat (calls : List NumberedCall) (call next : NumberedCall) :
    (calls ++ [call]).set calls.length next = calls ++ [next] := by
  rw [List.set_append_right _ _ (Nat.le_refl _), Nat.sub_self, List.set_cons_zero]

/-- The same counters with other calls. -/
def withCalls (numbering : Numbering) (calls : List NumberedCall) : Numbering :=
  { numbering with calls }

theorem takeId_withCalls (numbering : Numbering) (calls : List NumberedCall) (asked : Bool) :
    (numbering.withCalls calls).takeId asked =
      ((numbering.takeId asked).1, (numbering.takeId asked).2.withCalls calls) := by
  cases asked <;> rfl

theorem takeSerial_withCalls (numbering : Numbering) (calls : List NumberedCall) :
    (numbering.withCalls calls).takeSerial =
      (numbering.takeSerial.1, numbering.takeSerial.2.withCalls calls) := rfl

/-- The last call goes a step further. -/
theorem step_advance_last (numbering : Numbering) (calls : List NumberedCall)
    (call : NumberedCall) :
    numberingMachine.step (numbering.withCalls (calls ++ [call])) (.advance calls.length) =
      (numbering.withCalls (calls ++ [call])).advance calls.length call := by
  have found : (numbering.withCalls (calls ++ [call])).calls[calls.length]? = some call := by
    rw [withCalls, getElem?_concat, if_pos rfl]
  rw [numberingMachine]
  dsimp only
  rw [found]

theorem setCall_last (numbering : Numbering) (calls : List NumberedCall)
    (call next : NumberedCall) :
    (numbering.withCalls (calls ++ [call])).setCall calls.length next =
      numbering.withCalls (calls ++ [next]) := by
  rw [setCall, withCalls, withCalls]
  dsimp only
  rw [set_concat]

theorem run_requestEvents (numbering : Numbering) {config : ConnectionConfig}
    (accepted : config.Accepted) :
    numberingMachine.run numbering (requestEvents config numbering.calls.length) =
      some ((numbering.numberAlone config).2.withCalls
        (numbering.calls ++ [(numbering.numberAlone config).1])) := by
  have checked := checkConfig_ok_iff.mpr accepted
  have started : numberingMachine.step numbering (.call config) =
      some (numbering.withCalls (numbering.calls ++ [NumberedCall.begun config])) := by
    rw [numberingMachine]
    dsimp only
    rw [checked]
    rfl
  refine numberingMachine.run_cons.mpr ⟨_, started, ?_⟩
  refine numberingMachine.run_cons.mpr ⟨_, step_advance_last _ _ _, ?_⟩
  rw [takeId_withCalls, setCall_last]
  refine numberingMachine.run_cons.mpr ⟨_, step_advance_last _ _ _, ?_⟩
  rw [takeId_withCalls, setCall_last]
  refine numberingMachine.run_cons.mpr ⟨_, step_advance_last _ _ _, ?_⟩
  rw [takeSerial_withCalls, setCall_last]
  rfl

theorem takeId_nextIdIf (numbering : Numbering) (asked : Bool) :
    ((numbering.takeId asked).1.map Prod.snd).getD 0 = (numbering.counters.nextIdIf asked).1 ∧
      (numbering.takeId asked).2.counters = (numbering.counters.nextIdIf asked).2 := by
  cases asked with
  | true => exact ⟨rfl, rfl⟩
  | false => exact ⟨rfl, rfl⟩

/-- A call that no other call comes in between gets the numbers of the request that is made from
the counters as they were, and leaves the counters as that request does. -/
theorem numberAlone_forwardOpenRequest (numbering : Numbering) (config : ConnectionConfig) :
    let request := (forwardOpenRequest numbering.counters config).1
    (numbering.numberAlone config).1.requestIds =
        (request.o2tConnectionId, request.t2oConnectionId) ∧
      (numbering.numberAlone config).1.serial.map Prod.snd = some request.connectionSerialNumber ∧
      (numbering.numberAlone config).2.counters =
        (forwardOpenRequest numbering.counters config).2 := by
  have asksFirst : (NumberedCall.begun config).asks =
      decide (config.o2t.connectionType = .multicast) := rfl
  have asksSecond : ({ NumberedCall.begun config with stage := .o2tNumbered } :
      NumberedCall).asks = decide (config.t2o.connectionType = .pointToPoint) := rfl
  rw [forwardOpenRequest, numberAlone, NumberedCall.requestIds, takeSerial]
  dsimp only
  rw [asksFirst, asksSecond]
  obtain ⟨firstId, firstCounters⟩ :=
    numbering.takeId_nextIdIf (decide (config.o2t.connectionType = .multicast))
  generalize numbering.takeId (decide (config.o2t.connectionType = .multicast)) = first at *
  obtain ⟨secondId, secondCounters⟩ :=
    first.2.takeId_nextIdIf (decide (config.t2o.connectionType = .pointToPoint))
  generalize first.2.takeId (decide (config.t2o.connectionType = .pointToPoint)) = second at *
  rw [firstId, secondId, secondCounters, firstCounters]
  exact ⟨rfl, rfl, rfl⟩

/-! ### Runs that wrap around -/

/-- The events of a call that opens its connection. -/
def openEvents (config : ConnectionConfig) (index : Nat) : List NumberingEvent :=
  requestEvents config index ++ [.advance index]

/-- A call of an assembly connection, which leaves one connection ID to the originator. -/
def openedCall (start : IdCounters) (index : Nat) : NumberedCall where
  config := assemblyConfig [] .fixed
  stage := .opened
  o2tId := none
  t2oId := some (index, idAt start index)
  serial := some (index, serialAt start index)

/-- After a number of assembly connections were opened one after the other. -/
def opened (start : IdCounters) (count : Nat) : Numbering where
  counters :=
    ⟨start.nextSerial + UInt16.ofNat count, start.nextConnectionId + UInt32.ofNat count⟩
  calls := (List.range count).map (openedCall start)
  idsTaken := count
  serialsTaken := count
  overflowed := (List.range count).any fun index =>
    start.nextConnectionId + UInt32.ofNat index == 0xFFFFFFFF

/-- One more connection. -/
theorem numberAlone_opened (start : IdCounters) (count : Nat) :
    ((opened start count).numberAlone (assemblyConfig [] .fixed)).1 =
        { openedCall start count with stage := .sent } ∧
      ((opened start count).numberAlone (assemblyConfig [] .fixed)).2 =
        (opened start (count + 1)).withCalls (opened start count).calls := by
  have id : start.nextConnectionId + UInt32.ofNat count + 1 = idAt start count := by
    rw [idAt, UInt32.ofNat_add, UInt32.add_assoc]
    rfl
  have serial : start.nextSerial + UInt16.ofNat count + 1 =
      start.nextSerial + UInt16.ofNat (count + 1) := by
    rw [UInt16.ofNat_add, UInt16.add_assoc]
    rfl
  constructor
  · rw [openedCall, ← id]
    rfl
  · rw [opened, opened, withCalls, ← serial, List.range_succ, List.any_append, List.any_cons,
      List.any_nil, Bool.or_false]
    rw [idAt] at id
    rw [← id]
    rfl

theorem run_opened (start : IdCounters) (count : Nat) :
    numberingMachine.run (new start)
        ((List.range count).flatMap (openEvents (assemblyConfig [] .fixed))) =
      some (opened start count) := by
  induction count with
  | zero =>
    have ids : start.nextConnectionId + UInt32.ofNat 0 = start.nextConnectionId :=
      UInt32.add_zero _
    have serials : start.nextSerial + UInt16.ofNat 0 = start.nextSerial := UInt16.add_zero _
    rw [opened, ids, serials]
    rfl
  | succ count inductionHypothesis =>
    obtain ⟨call, numbering⟩ := numberAlone_opened start count
    have length : (opened start count).calls.length = count := by
      rw [opened, List.length_map, List.length_range]
    have requested := run_requestEvents (opened start count)
      (@assemblyConfig_accepted [] .fixed (Nat.zero_le _))
    rw [length, call, numbering] at requested
    rw [List.range_succ, List.flatMap_append, Machine.run_append]
    refine ⟨_, inductionHypothesis, ?_⟩
    rw [List.flatMap_cons, List.flatMap_nil, List.append_nil, openEvents, Machine.run_append]
    refine ⟨_, requested, ?_⟩
    have last := step_advance_last (opened start (count + 1)) (opened start count).calls
      { openedCall start count with stage := .sent }
    rw [length] at last
    have placed := setCall_last (opened start (count + 1)) (opened start count).calls
      { openedCall start count with stage := .sent } (openedCall start count)
    rw [length] at placed
    have calls : (opened start count).calls ++ [openedCall start count] =
        (opened start (count + 1)).calls := by
      rw [opened, opened, List.range_succ, List.map_append, List.map_singleton]
    rw [calls] at placed
    rw [Machine.run_singleton]
    exact last.trans (congrArg some placed)

theorem getElem?_opened {start : IdCounters} {count index : Nat} (inside : index < count) :
    (opened start count).calls[index]? = some (openedCall start index) := by
  rw [opened, List.getElem?_map, List.getElem?_range inside]
  rfl

theorem overflowed_opened {start : IdCounters} {count index : Nat} (inside : index < count)
    (maximum : start.nextConnectionId + UInt32.ofNat index = 0xFFFFFFFF) :
    (opened start count).overflowed = true :=
  List.any_eq_true.mpr ⟨index, List.mem_range.mpr inside, beq_iff_eq.mpr maximum⟩

/-- Two calls that take their numbers in turns and open their connections. -/
def inTurns : List NumberingEvent :=
  [.call (assemblyConfig [] .fixed), .call (assemblyConfig [] .fixed), .advance 0, .advance 1,
    .advance 1, .advance 0, .advance 0, .advance 1, .advance 1, .advance 0]

theorem meets_inTurns : numberingMachine.Meets Unwrapped (start 0) inTurns := by
  have early : ∀ numbering call index, numbering.calls[index]? = some call → call.stage ≠ .sent →
      (call.asks = true → numbering.overflows = false) → Unwrapped numbering (.advance index) := by
    intro numbering call index found unsent fits other same
    obtain rfl := Option.some.inj (found.symm.trans same)
    exact ⟨fits, fun sent => absurd sent unsent⟩
  refine ⟨trivial, fun _ step => ?_⟩
  obtain rfl := Option.some.inj step
  refine ⟨trivial, fun _ step => ?_⟩
  obtain rfl := Option.some.inj step
  refine ⟨early _ _ 0 rfl nofun (by decide), fun _ step => ?_⟩
  obtain rfl := Option.some.inj step
  refine ⟨early _ _ 1 rfl nofun (by decide), fun _ step => ?_⟩
  obtain rfl := Option.some.inj step
  refine ⟨early _ _ 1 rfl nofun (by decide), fun _ step => ?_⟩
  obtain rfl := Option.some.inj step
  refine ⟨early _ _ 0 rfl nofun (by decide), fun _ step => ?_⟩
  obtain rfl := Option.some.inj step
  refine ⟨early _ _ 0 rfl nofun (by decide), fun _ step => ?_⟩
  obtain rfl := Option.some.inj step
  refine ⟨early _ _ 1 rfl nofun (by decide), fun _ step => ?_⟩
  obtain rfl := Option.some.inj step
  refine ⟨fun call found => ⟨?_, fun _ other member opened => ?_⟩, fun _ step => ?_⟩
  · obtain rfl := Option.some.inj found
    decide
  · -- no connection is open yet
    rcases List.mem_cons.mp member with rfl | member
    · exact absurd opened nofun
    · rw [List.mem_singleton.mp member] at opened
      exact absurd opened nofun
  obtain rfl := Option.some.inj step
  refine ⟨fun call found => ⟨?_, fun _ other member opened => ?_⟩, fun _ _ => trivial⟩
  · obtain rfl := Option.some.inj found
    decide
  · obtain rfl := Option.some.inj found
    rcases List.mem_cons.mp member with rfl | member
    · exact absurd opened nofun
    · rw [List.mem_singleton.mp member]
      rintro (⟨number, another, mine, theirs, -, same⟩ | ⟨number, mine, another, theirs, -, same⟩)
      · obtain rfl := Option.some.inj mine
        obtain rfl := Option.some.inj theirs
        exact absurd same (by decide)
      · obtain rfl := List.mem_singleton.mp mine
        obtain rfl := List.mem_singleton.mp theirs
        exact absurd same (by decide)

/-- Of the two connections that are open, one has the later ID and the earlier serial number. -/
theorem collisionFree_of_run_inTurns :
    ∃ last, numberingMachine.run (start 0) inTurns = some last ∧
      (last.calls.map fun call => (call.stage, call.t2oId.map Prod.snd, call.serial.map Prod.snd)) =
        [(.opened, some 2, some 0), (.opened, some 1, some 1)] ∧ CollisionFree last :=
  ⟨_, rfl, rfl, collisionFree_of_run 0 meets_inTurns rfl⟩

/-- A starting point in the last round of the connection IDs. -/
def lateStart : IdCounters := ⟨0, 0xFFFF0000⟩

/-- Of 65537 assembly connections that a manager opens and keeps open, from that starting point,
the 65536th overflows the counter and gets the ID zero, and the last has the serial number of
the first. -/
theorem opened_collides :
    start 0xFFFF0000 = new lateStart ∧
      numberingMachine.run (new lateStart)
        ((List.range 65537).flatMap (openEvents (assemblyConfig [] .fixed))) =
          some (opened lateStart 65537) ∧
      (opened lateStart 65537).overflowed = true ∧
      (opened lateStart 65537).calls[65535]? = some (openedCall lateStart 65535) ∧
      (65535, 0) ∈ (openedCall lateStart 65535).chosen ∧
      (opened lateStart 65537).calls[0]? = some (openedCall lateStart 0) ∧
      (opened lateStart 65537).calls[65536]? = some (openedCall lateStart 65536) ∧
      (openedCall lateStart 0).serial = some (0, 0) ∧
      (openedCall lateStart 65536).serial = some (65536, 0) ∧
      ¬ CollisionFree (opened lateStart 65537) := by
  have overflowed : (opened lateStart 65537).overflowed = true :=
    overflowed_opened (by decide : 65535 < 65537) (by decide)
  have zero : idAt lateStart 65535 = 0 := by decide
  have again : serialAt lateStart 65536 = 0 := by decide
  refine ⟨congrArg new (by decide), run_opened _ _, overflowed,
    getElem?_opened (by decide), ?_, getElem?_opened (by decide), getElem?_opened (by decide),
    rfl, congrArg (fun serial => some (65536, serial)) again, fun free => ?_⟩
  · rw [← zero]
    exact List.mem_singleton_self _
  · exact absurd (overflowed.symm.trans free.overflowed) nofun

end Numbering

end EipScanner
