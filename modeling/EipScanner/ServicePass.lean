/-
This file connects the worker's service pass to the steps that another thread can come
in between. A pass goes over the entries once, and then over those it found timed out.
What it does to the system as a whole is what a run of single steps does, one for each
entry that is served and one for each that is removed. An invariant of all runs
therefore also holds after every pass.
-/

import EipScanner.Transition

namespace EipScanner
namespace IoSystem

/-! ### Outcomes one after the other -/

/-- The flags that are closed do not depend on the worker and the log. -/
theorem closeFlags_frame (system : IoSystem) (worker : Worker) (log : List LogEntry)
    (effects : List Effect) :
    closeFlags { system with worker, log } effects =
      { system.closeFlags effects with worker, log } := by
  induction effects generalizing system with
  | nil => rfl
  | cons effect later inductionHypothesis =>
    rw [closeFlags, closeFlags, List.foldl_cons, List.foldl_cons]
    split
    · exact inductionHypothesis (system.closeFlag effect.flag).1
    · exact inductionHypothesis system

theorem log_closeFlags (system : IoSystem) (effects : List Effect) :
    (system.closeFlags effects).log = system.log := by
  induction effects generalizing system with
  | nil => rfl
  | cons effect later inductionHypothesis =>
    rw [closeFlags, List.foldl_cons]
    split
    · exact inductionHypothesis (system.closeFlag effect.flag).1
    · exact inductionHypothesis system

/-- Two outcomes that are taken over one after the other are one. -/
theorem absorb_absorb (system : IoSystem) (first second : Worker) (earlier later : List Effect) :
    (system.absorb (first, earlier)).absorb (second, later) =
      system.absorb (second, earlier ++ later) := by
  have closed : system.closeFlags (earlier ++ later) =
      (system.closeFlags earlier).closeFlags later := List.foldl_append
  rw [absorb, absorb, absorb, closeFlags_frame, closed]
  simp only [log_closeFlags, List.map_append, List.append_assoc]

/-! ### The two loops of a pass -/

/-- A single step of a service pass. -/
def ServiceStep (now : Nat) : IoEvent → Prop
  | .serve _ moment => moment = now
  | .expire _ moment => moment = now
  | _ => False

/-- The system with what a pass has done so far. -/
def duringPass (system : IoSystem) (pass : Worker.Pass) : IoSystem :=
  system.absorb (pass.worker, pass.effects)

/-- Every entry under one of the keys has timed out. -/
def TimedOutUnder (worker : Worker) (now : Nat) (keys : List ConnectionKey) : Prop :=
  ∀ key ∈ keys, ∀ entry, worker.connections.lookup key = some entry →
    entry.conn.isTimedOut now = true

theorem noSteps {now : Nat} : ∀ event ∈ [], ServiceStep now event :=
  fun _ member => absurd member List.not_mem_nil

/-- Visiting an entry serves it, or notes that it has timed out. -/
theorem run_visit (system : IoSystem) {now : Nat} {pass : Worker.Pass} (key : ConnectionKey)
    (running : pass.worker.running = true)
    (noted : TimedOutUnder pass.worker now pass.timedOut) :
    ((pass.visit now key).worker.running = true ∧
        TimedOutUnder (pass.visit now key).worker now (pass.visit now key).timedOut) ∧
      ∃ events, (∀ event ∈ events, ServiceStep now event) ∧
        ioMachine.run (system.duringPass pass) events =
          some (system.duringPass (pass.visit now key)) := by
  cases found : pass.worker.connections.lookup key with
  | none =>
    have visited : pass.visit now key = pass := by rw [Worker.Pass.visit, found]
    rw [visited]
    exact ⟨⟨running, noted⟩, [], noSteps, rfl⟩
  | some entry =>
    cases late : entry.conn.isTimedOut now with
    | true =>
      have visited : pass.visit now key = { pass with timedOut := pass.timedOut ++ [key] } := by
        simp only [Worker.Pass.visit, found, late, if_true]
      rw [visited]
      refine ⟨⟨running, fun other member occupant present => ?_⟩, [], noSteps, rfl⟩
      rcases List.mem_append.mp member with before | last
      · exact noted other before occupant present
      · obtain rfl := List.mem_singleton.mp last
        obtain rfl := Option.some.inj (found.symm.trans present)
        exact late
    | false =>
      have visited : pass.visit now key =
          { pass with
            worker := (pass.worker.sendDue now key entry).1
            effects := pass.effects ++ (pass.worker.sendDue now key entry).2 } := by
        simp only [Worker.Pass.visit, found, late, Bool.false_eq_true, if_false]
      have served : (system.duringPass pass).serve key now =
          some ((system.duringPass pass).absorb (pass.worker.sendDue now key entry)) := by
        simp only [IoSystem.serve, duringPass, absorb, found, late, Bool.false_eq_true, if_false]
      rw [visited]
      refine ⟨⟨(Worker.quiet_sendDue now found).running.trans running,
        fun other member occupant present => ?_⟩, [.serve key now], ?_, ?_⟩
      · by_cases same : key = other
        · subst same
          have timedOut := noted key member entry found
          exact absurd (timedOut.symm.trans late) Bool.noConfusion
        · have unchanged := (Worker.slot_sendDue_other other pass.worker now same entry).1
          exact noted other member occupant ((congrArg Slot.entry unchanged).symm.trans present)
      · intro event member
        obtain rfl := List.mem_singleton.mp member
        exact rfl
      · rw [ioMachine.run_singleton]
        exact ((if_pos running).trans served).trans (congrArg some (absorb_absorb _ _ _ _ _))

/-- An entry that was noted is removed. -/
theorem run_expire (system : IoSystem) {now : Nat} {pass : Worker.Pass} {key : ConnectionKey}
    {later : List ConnectionKey} (running : pass.worker.running = true)
    (noted : TimedOutUnder pass.worker now (key :: later)) :
    ((pass.expire key).worker.running = true ∧
        TimedOutUnder (pass.expire key).worker now later) ∧
      ∃ events, (∀ event ∈ events, ServiceStep now event) ∧
        ioMachine.run (system.duringPass pass) events =
          some (system.duringPass (pass.expire key)) := by
  cases found : pass.worker.connections.lookup key with
  | none =>
    have removed : pass.expire key = pass := by
      simp only [Worker.Pass.expire, Worker.expire, found, List.append_nil]
    rw [removed]
    exact ⟨⟨running, fun other member => noted other (List.mem_cons_of_mem key member)⟩,
      [], noSteps, rfl⟩
  | some entry =>
    have late := noted key List.mem_cons_self entry found
    have expired : (system.duringPass pass).expire key now =
        some ((system.duringPass pass).absorb (pass.worker.expire key)) := by
      simp only [IoSystem.expire, duringPass, absorb, found, late, if_true]
    refine ⟨⟨?_, fun other member occupant present => ?_⟩, [.expire key now], ?_, ?_⟩
    · simp only [Worker.Pass.expire, Worker.expire, found, running]
    · simp only [Worker.Pass.expire, Worker.expire, found] at present
      by_cases same : other = key
      · rw [same, AList.lookup_erase] at present
        exact absurd present (by simp)
      · rw [AList.lookup_erase_ne same] at present
        exact noted other (List.mem_cons_of_mem key member) occupant present
    · intro event member
      obtain rfl := List.mem_singleton.mp member
      exact rfl
    · rw [ioMachine.run_singleton]
      exact ((if_pos running).trans expired).trans (congrArg some (absorb_absorb _ _ _ _ _))

/-- A service pass is a run of steps that serve one entry or remove one entry. -/
theorem run_serviceConnections {system : IoSystem} (running : system.worker.running = true)
    (preferred : List ConnectionKey) (now : Nat) :
    ∃ events, (∀ event ∈ events, ServiceStep now event) ∧
      ioMachine.run system events =
        some (system.absorb (system.worker.serviceConnections preferred now)) := by
  have start : system.duringPass ⟨system.worker, [], []⟩ = system := absorb_silent system _
  obtain ⟨⟨runningVisited, noted⟩, visits, visitsAllowed, visited⟩ :=
    @Machine.run_foldl _ _ ioMachine _ _ system.duringPass (Worker.Pass.visit now)
      (ServiceStep now) (fun _ pass => pass.worker.running = true ∧
        TimedOutUnder pass.worker now pass.timedOut)
      (fun pass key _ holds => run_visit system key holds.1 holds.2)
      (system.worker.visitOrder preferred) ⟨system.worker, [], []⟩
      ⟨running, fun _ member => absurd member List.not_mem_nil⟩
  obtain ⟨-, removals, removalsAllowed, removed⟩ :=
    @Machine.run_foldl _ _ ioMachine _ _ system.duringPass Worker.Pass.expire
      (ServiceStep now) (fun keys pass => pass.worker.running = true ∧
        TimedOutUnder pass.worker now keys)
      (fun pass key later holds => run_expire system holds.1 holds.2) _ _
      ⟨runningVisited, noted⟩
  rw [start] at visited
  refine ⟨visits ++ removals, fun event member => ?_,
    ioMachine.run_append.mpr ⟨_, visited, removed⟩⟩
  exact (List.mem_append.mp member).elim (visitsAllowed event) (removalsAllowed event)

end IoSystem

end EipScanner
