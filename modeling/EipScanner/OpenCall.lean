/-
This file models a whole call of forward open: the checks and the request, the exchange with
the device, the reply, and the connection that is handed to the I/O thread. It follows what a
call that fails leaves behind.

Everything up to the reply touches neither the open connections nor the thread. The open flag
is counted before its connection is queued, and nothing takes the count back when the thread
has let go of the queue. So a failed call leaves no trace exactly when the thread holds the
queue or the device did not grant the connection.
-/

import EipScanner.MessageRouter
import EipScanner.Registry
import EipScanner.RouterReply

namespace EipScanner

/-! ### The call -/

/-- The class ID of the Connection Manager object. -/
def connectionManagerClassId : UInt16 := 0x06

/-- What comes of a call: a handle's number or an error, and what is left of the session, the
counters, and the I/O system. -/
structure OpenCall (State : Type) where
  result : Except Error Nat
  session : State
  counters : IdCounters
  system : IoSystem

section
variable {State : Type} (session : Session State) (router : MessageRouter) (peerIp : Ipv4Addr)
  (counters : IdCounters) (config : ConnectionConfig) (state : State)

/-- The exchange of a request with the device. -/
def exchange (sent : RouterRequest) : Except Error MessageRouterResponse × State :=
  router.sendRequest session sent.service (EPath.ofInstance connectionManagerClassId 1) sent.body
    state

/-- A call from its first check to the connection that the reply makes. -/
def negotiate : Except Error OpenedConnection × IdCounters × State :=
  match prepareOpen counters config with
  | .error refused => (.error refused, counters, state)
  | .ok (sent, counters) =>
    let (response, state) := exchange session router state sent
    (response >>= fun response => completeOpen config response peerIp, counters, state)

/-- Opens an I/O connection. The open flag is created and counted, and then the connection is
sent to the I/O thread. -/
def forwardOpen (system : IoSystem) (callbacks : IoCallbacks) (now : Nat) : OpenCall State :=
  match negotiate session router peerIp counters config state with
  | (.error refused, counters, state) => ⟨.error refused, state, counters, system⟩
  | (.ok opened, counters, state) =>
    { result := if system.connected then .ok system.flags.length else .error .ioThreadStopped
      session := state
      counters := counters
      system := system.addConnection opened callbacks now }

/-- The settings pass the checks, the device answers, and its answer makes a connection. -/
def Granted : Prop :=
  ∃ sent after response opened, prepareOpen counters config = .ok (sent, after) ∧
    (exchange session router state sent).1 = .ok response ∧
    completeOpen config response peerIp = .ok opened

theorem granted_iff :
    Granted session router peerIp counters config state ↔
      ∃ opened, (negotiate session router peerIp counters config state).1 = .ok opened := by
  constructor
  · rintro ⟨sent, after, response, opened, prepared, answered, completed⟩
    refine ⟨opened, ?_⟩
    rw [negotiate, prepared]
    dsimp only
    rw [answered, ok_bind, completed]
  · rintro ⟨opened, negotiated⟩
    rw [negotiate] at negotiated
    split at negotiated
    · exact absurd negotiated nofun
    next sent after prepared =>
      obtain ⟨response, answered, completed⟩ := bind_eq_ok_iff.mp negotiated
      exact ⟨sent, after, response, opened, prepared, answered, completed⟩

/-- A call that is not granted fails and leaves the I/O system as it is. -/
theorem forwardOpen_of_refused (system : IoSystem) (callbacks : IoCallbacks) (now : Nat)
    (refused : ¬ Granted session router peerIp counters config state) :
    (forwardOpen session router peerIp counters config state system callbacks now).system =
      system := by
  rw [granted_iff] at refused
  rw [forwardOpen]
  split
  · rfl
  next opened after later negotiated =>
    exact absurd ⟨opened, congrArg Prod.fst negotiated⟩ refused

/-- A call that is granted adds the connection, and fails if the thread has let go of the queue. -/
theorem forwardOpen_of_granted (system : IoSystem) (callbacks : IoCallbacks) (now : Nat)
    (granted : Granted session router peerIp counters config state) :
    ∃ opened,
      let call := forwardOpen session router peerIp counters config state system callbacks now
      call.system = system.addConnection opened callbacks now ∧
      call.result =
        if system.connected then .ok system.flags.length else .error .ioThreadStopped := by
  obtain ⟨opened, negotiated⟩ :=
    (granted_iff session router peerIp counters config state).mp granted
  refine ⟨opened, ?_⟩
  rw [forwardOpen]
  split
  next failed after later other =>
    rw [other] at negotiated
    exact absurd negotiated nofun
  next same after later other =>
    rw [other] at negotiated
    obtain rfl := Except.ok.inj negotiated
    exact ⟨rfl, rfl⟩

/-- A call is one event of the I/O system if it is granted, and none otherwise. -/
theorem run_forwardOpen (system : IoSystem) (callbacks : IoCallbacks) (now : Nat) :
    ∃ events, events.length ≤ 1 ∧ ioMachine.run system events = some
      (forwardOpen session router peerIp counters config state system callbacks now).system := by
  by_cases granted : Granted session router peerIp counters config state
  · obtain ⟨sent, after, response, opened, prepared, answered, completed⟩ := granted
    refine ⟨[.opened config response peerIp callbacks now], Nat.le_refl 1, ?_⟩
    rw [Machine.run_singleton, ioMachine, forwardOpen, negotiate, prepared]
    dsimp only
    rw [answered, ok_bind, completed]
  · refine ⟨[], Nat.zero_le 1, ?_⟩
    rw [forwardOpen_of_refused session router peerIp counters config state system callbacks now
      granted]
    rfl

end

/-! ### What a failed call leaves behind -/

namespace IoSystem

/-- A call leaves no entry: the worker is as before, and no entry has a flag that the call created,
nor will one in any later run. -/
structure LeavesNoEntry (before after : IoSystem) : Prop where
  worker : after.worker = before.worker
  absent : ∀ flag, before.flags.length ≤ flag → flag < after.flags.length →
    ∀ events last, ioMachine.run after events = some last → ¬ last.Mapped flag

/-- A call leaves no trace: besides, the number of open connections is as before. -/
structure LeavesNoTrace (before after : IoSystem) : Prop extends LeavesNoEntry before after where
  openCount : after.openCount = before.openCount

theorem leavesNoTrace_refl (system : IoSystem) : LeavesNoTrace system system where
  openCount := rfl
  worker := rfl
  absent _ old created := absurd created (Nat.not_lt.mpr old)

/-- A known connection without a place never gets one. -/
theorem not_placed_of_run {system last : IoSystem} {events : List IoEvent} {flag : Nat}
    (known : flag < system.flags.length) (unplaced : ¬ system.Placed flag)
    (reached : ioMachine.run system events = some last) : ¬ last.Placed flag := by
  have preserved : ∀ system event after,
      flag < system.flags.length ∧ ¬ system.Placed flag →
        ioMachine.step system event = some after →
          flag < after.flags.length ∧ ¬ after.Placed flag := by
    rintro system event after ⟨known, unplaced⟩ step
    have transition := transition_of_step step
    exact ⟨known.trans_le (flags_length_of_transition transition), fun placed =>
      unplaced (placed_of_transition transition known placed)⟩
  exact (ioMachine.invariant_run preserved ⟨known, unplaced⟩ reached).2

/-- A connection that could not be queued is counted, and never gets an entry. -/
theorem addConnection_lost {system : IoSystem} (wellFormed : WellFormed system)
    (lost : system.connected = false) (opened : OpenedConnection) (callbacks : IoCallbacks)
    (now : Nat) :
    (system.addConnection opened callbacks now).openCount = system.openCount + 1 ∧
      system.LeavesNoEntry (system.addConnection opened callbacks now) := by
  have added := addConnection_of_lost lost opened callbacks now
  refine ⟨by rw [added], by rw [added], fun flag old created events last reached mapped => ?_⟩
  have unplaced : ¬ (system.addConnection opened callbacks now).Placed flag := by
    intro placed
    rw [added] at placed
    exact absurd (wellFormed.placed_lt (show system.Placed flag from placed)) (Nat.not_lt.mpr old)
  exact not_placed_of_run created unplaced reached (Or.inr mapped)

/-- The thread may have died since the last step of a run, because a callback may panic. Then it
has let go of the queue, and nothing else has changed. -/
theorem WellFormed.of_connected {system : IoSystem} (wellFormed : WellFormed system)
    (connected : Bool) : WellFormed { system with connected } :=
  ⟨wellFormed.length, wellFormed.addressed, wellFormed.added, wellFormed.keyed,
    wellFormed.ordered, wellFormed.older⟩

end IoSystem

section
variable {State : Type} (session : Session State) (router : MessageRouter) (peerIp : Ipv4Addr)
  (counters : IdCounters) (config : ConnectionConfig) (state : State)

/-- In every state that a run of the I/O system reaches, whether or not the thread has died since,
a call that fails leaves no entry. It leaves no trace exactly when the thread holds the queue or
the call is not granted. -/
theorem leavesNoTrace_iff {events : List IoEvent} {system : IoSystem}
    (reached : ioMachine.run IoSystem.new events = some system) (connected : Bool)
    (callbacks : IoCallbacks) (now : Nat) :
    let before := { system with connected }
    let call := forwardOpen session router peerIp counters config state before callbacks now
    (∀ refused, call.result = .error refused → before.LeavesNoEntry call.system) ∧
      ((∀ refused, call.result = .error refused → before.LeavesNoTrace call.system) ↔
        connected = true ∨ ¬ Granted session router peerIp counters config state) := by
  intro before call
  have wellFormed := (IoSystem.sound_of_run reached).wellFormed.of_connected connected
  by_cases granted : Granted session router peerIp counters config state
  · obtain ⟨opened, added, result⟩ := forwardOpen_of_granted session router peerIp counters config
      state before callbacks now granted
    rw [or_iff_left (not_not.mpr granted)]
    cases held : connected with
    | true =>
      have succeeded : ∀ refused, call.result ≠ .error refused := by
        intro refused failed
        rw [show call.result = _ from result, if_pos held] at failed
        exact absurd failed nofun
      exact ⟨fun refused failed => absurd failed (succeeded refused),
        iff_of_true (fun refused failed => absurd failed (succeeded refused)) rfl⟩
    | false =>
      have failed : call.result = .error .ioThreadStopped :=
        result.trans (if_neg (Bool.eq_false_iff.mp held))
      obtain ⟨counted, absent⟩ := IoSystem.addConnection_lost wellFormed held opened callbacks now
      rw [← show call.system = _ from added] at counted absent
      refine ⟨fun _ _ => absent, iff_of_false (fun silent => ?_) Bool.false_ne_true⟩
      exact absurd ((silent _ failed).openCount.symm.trans counted)
        (Nat.ne_of_lt (Nat.lt_succ_self _))
  · have unchanged : call.system = before := forwardOpen_of_refused session router peerIp counters
      config state before callbacks now granted
    rw [unchanged]
    have silent := IoSystem.leavesNoTrace_refl before
    exact ⟨fun _ _ => silent.toLeavesNoEntry, iff_of_true (fun _ _ => silent) (Or.inr granted)⟩

end

/-- The session to a device that grants 10 ms both ways. -/
def grantingSession : Session Unit :=
  MessageRouter.constantSession
    (RouterReply.payload ⟨[0, 0, 0, 0, 0, 0], .nullAddress, .unconnectedMessage, grantedResponse⟩)

/-- A call that opens a connection with that device. -/
def grantedCall (system : IoSystem) : OpenCall Unit :=
  forwardOpen grantingSession MessageRouter.new ⟨7⟩ ⟨0, 0⟩ (assemblyConfig [] .fixed) () system
    ⟨false, none, false⟩ 0

/-- The system after its thread was shut down. -/
def stoppedSystem : IoSystem :=
  { IoSystem.new with worker := { Worker.new with running := false }, connected := false }

/-- The session to a device that refuses every request. -/
def refusingSession : Session Unit :=
  MessageRouter.constantSession (RouterReply.payload ⟨[0, 0, 0, 0, 0, 0], .nullAddress,
    .unconnectedMessage, ⟨⟨0xD4⟩, ⟨0x01⟩, [0x0100], [], []⟩⟩)

/-- A call that is refused while another connection is open. -/
theorem leavesNoTrace_iff_refused :
    ∃ system refused, ioMachine.run IoSystem.new [grantedOpen ⟨7⟩ ⟨false, none, true⟩ 0, .drain] =
        some system ∧
      let call := forwardOpen refusingSession MessageRouter.new ⟨7⟩ ⟨1, 1⟩
        (assemblyConfig [] .fixed) () system ⟨false, none, false⟩ 5
      system.openCount = 1 ∧ call.result = .error refused ∧ system.LeavesNoTrace call.system :=
  ⟨_, _, rfl, rfl, rfl, (@leavesNoTrace_iff _ refusingSession MessageRouter.new ⟨7⟩ ⟨1, 1⟩
    (assemblyConfig [] .fixed) () [grantedOpen ⟨7⟩ ⟨false, none, true⟩ 0, .drain] _ rfl true
    ⟨false, none, false⟩ 5).2.mpr (Or.inl rfl) _ rfl⟩

/-- With the thread gone, the call fails, and a connection is counted as open from then on. -/
theorem stopped_call_counted :
    ioMachine.run IoSystem.new [.shutdown, .drain, .letGo] = some stoppedSystem ∧
      (grantedCall stoppedSystem).result = .error .ioThreadStopped ∧
      stoppedSystem.hasOpenConnections = false ∧
      (grantedCall stoppedSystem).system.hasOpenConnections = true ∧
      ¬ stoppedSystem.LeavesNoTrace (grantedCall stoppedSystem).system := by
  have counted : (grantedCall stoppedSystem).system.openCount = 1 := rfl
  refine ⟨rfl, rfl, rfl, rfl, fun silent => ?_⟩
  exact absurd (counted.symm.trans silent.openCount) (by decide)

end EipScanner
