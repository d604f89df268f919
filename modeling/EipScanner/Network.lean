/-
This file puts the connection manager together with the devices that it opens connections with. A
call of forward open sends a request, the request reaches its device or does not, the device
accepts or refuses it, and the reply reaches the call or does not. A Forward Close goes over
whatever session its caller has and ends the connection that it names there. In between, callers
and the I/O thread take steps of their own. A reply is taken by the call that it answers or is
lost: no call leaves a late reply on its session for the next one to take.

Every call takes a serial number of its own, and a Forward Close names the number that the reply
gave back. So a close never ends the connection of another call, wherever it is sent, as long as
the numbers have not come round again; and it always ends the connection of its own.
-/

import EipScanner.Identifiers
import EipScanner.Target
import EipScanner.Transition

namespace EipScanner

open EipScanner.Numbering (serialAt serialAt_inj)

/-! ### The system -/

/-- Where the caller stands: it waits, it has a reply, or it has returned. -/
inductive CallerStage where
  | waiting
  | replied (response : MessageRouterResponse)
  | returned
  deriving DecidableEq, Repr

/-- A call of forward open whose request was sent. -/
structure SentOpen where
  config : ConnectionConfig
  device : Ipv4Addr
  sent : RouterRequest
  arrived : Bool
  caller : CallerStage

/-- The calls are in the order of their serial numbers. Each handle came of one of them. The calls
whose connections were closed at their device are not part of what either side keeps. -/
structure Network where
  io : IoSystem
  counters : IdCounters
  calls : List SentOpen
  origins : List Nat
  targets : Ipv4Addr → List TargetConnection
  closed : List Nat

inductive NetworkEvent where
  | send (config : ConnectionConfig) (device : Ipv4Addr)
  | arrive (call : Nat) (grant : Option Grant) (items : List CommonPacketItem)
  | complete (call : Nat) (callbacks : IoCallbacks) (now : Nat)
  | giveUp (call : Nat)
  | close (handle : Nat) (device : Ipv4Addr)
  | closeLost (handle : Nat)
  | forget (device : Ipv4Addr) (triad : ConnectionTriad)
  | work (event : IoEvent)

/-- The events of the I/O system that no device takes part in. -/
def IoEvent.isLocal : IoEvent → Bool
  | .opened .. => false
  | .sendForwardClose _ => false
  | _ => true

/-- The reply of a device to a request that it accepted. -/
def Grant.response (grant : Grant) (sent : RouterRequest) (request : ForwardOpenRequest)
    (items : List CommonPacketItem) : MessageRouterResponse where
  service := ⟨sent.service.code ||| 0x80⟩
  generalStatus := GeneralStatusCode.success
  additionalStatus := []
  data := (grant.reply request).encode
  additionalPacketItems := items

/-- The reply reaches the caller only if it still waits. -/
def SentOpen.answered (call : SentOpen) (response : MessageRouterResponse) : SentOpen :=
  { call with
    arrived := true
    caller := if call.caller = .waiting then .replied response else call.caller }

def SentOpen.refused (call : SentOpen) : SentOpen :=
  { call with arrived := true, caller := .returned }

namespace Network

def start (random : UInt64) : Network :=
  ⟨IoSystem.new, IdCounters.ofRandom random, [], [], fun _ => [], []⟩

def setCall (network : Network) (index : Nat) (call : SentOpen) : Network :=
  { network with calls := network.calls.set index call }

def setTarget (network : Network) (device : Ipv4Addr) (connections : List TargetConnection) :
    Network :=
  { network with targets := Function.update network.targets device connections }

/-- A call that passes the checks takes its numbers and sends its request. -/
def send (network : Network) (config : ConnectionConfig) (device : Ipv4Addr) : Option Network :=
  match prepareOpen network.counters config with
  | .error _ => none
  | .ok (sent, counters) =>
    some { network with
      counters
      calls := network.calls ++ [⟨config, device, sent, false, .waiting⟩] }

/-- A request reaches its device, once. The device may refuse it in any case. -/
def arrive (network : Network) (index : Nat) (grant : Option Grant)
    (items : List CommonPacketItem) : Option Network :=
  match network.calls[index]? with
  | none => none
  | some call =>
    if call.arrived then none
    else
      match grant, acceptOpen index call.sent (network.targets call.device) with
      | some grant, some (request, connections) =>
        some ((network.setCall index
          (call.answered (grant.response call.sent request items))).setTarget call.device
            connections)
      | _, _ => some (network.setCall index call.refused)

/-- A caller takes the reply to its request and hands the connection to the I/O thread, or fails. -/
def complete (network : Network) (index : Nat) (callbacks : IoCallbacks) (now : Nat) :
    Option Network :=
  match network.calls[index]? with
  | some ⟨config, device, sent, arrived, .replied response⟩ =>
    let network := network.setCall index ⟨config, device, sent, arrived, .returned⟩
    match ioMachine.step network.io (.opened config response device callbacks now) with
    | none => some network
    | some io => some { network with io, origins := network.origins ++ [index] }
  | _ => none

/-- A caller fails without a reply, whatever becomes of its request. A reply that the device sends
later is lost. -/
def giveUp (network : Network) (index : Nat) : Option Network :=
  match network.calls[index]? with
  | none => none
  | some call => some (network.setCall index { call with caller := .returned })

/-- A Forward Close is sent to a device and reaches it. -/
def close (network : Network) (handle : Nat) (device : Ipv4Addr) : Option Network :=
  match network.io.handles[handle]?, ioMachine.step network.io (.sendForwardClose handle) with
  | some owner, some io =>
    let own := if device = owner.key.peerIp then network.origins[handle]?.toList else []
    some ({ network with io, closed := network.closed ++ own }.setTarget device
      (acceptClose owner.closeRequest.encode (network.targets device)))
  | _, _ => none

/-- A step of the I/O system alone. -/
def work (network : Network) (event : IoEvent) : Option Network :=
  (ioMachine.step network.io event).map fun io => { network with io }

end Network

def networkMachine : Machine Network NetworkEvent where
  step network event :=
    match event with
    | .send config device => network.send config device
    | .arrive index grant items => network.arrive index grant items
    | .complete index callbacks now => network.complete index callbacks now
    | .giveUp index => network.giveUp index
    | .close handle device => network.close handle device
    | .closeLost handle => network.work (.sendForwardClose handle)
    | .forget device triad =>
      some (network.setTarget device
        ((network.targets device).filter fun connection => connection.triad ≠ triad))
    | .work event => if event.isLocal then network.work event else none

/-! ### The numbers and the path of a request -/

theorem serial_forwardOpenRequest (counters : IdCounters) (config : ConnectionConfig) :
    (forwardOpenRequest counters config).1.connectionSerialNumber = counters.nextSerial ∧
      (forwardOpenRequest counters config).2.nextSerial = counters.nextSerial + 1 := by
  have kept (counters : IdCounters) (asked : Bool) :
      (counters.nextIdIf asked).2.nextSerial = counters.nextSerial := by
    cases asked <;> rfl
  unfold forwardOpenRequest
  dsimp only
  rw [kept, kept]
  exact ⟨rfl, rfl⟩

/-- A target can read a request for the settings: the path is even and short. -/
structure ConnectionConfig.Readable (config : ConnectionConfig) : Prop where
  even : config.encodedPath.length % 2 = 0
  short : config.encodedPath.length ≤ 510

/-- The path without the configuration data can be read as well. -/
theorem ConnectionConfig.Readable.path {config : ConnectionConfig} (readable : config.Readable)
    (accepted : config.Accepted) :
    config.path.bytes.length % 2 = 0 ∧ config.path.bytes.length ≤ 510 := by
  obtain ⟨even, short⟩ := readable
  have segment : dataSegmentLength config.configData % 2 = 0 := by
    unfold dataSegmentLength
    split <;> omega
  rw [encodedPath_eq accepted.configData, List.length_append, length_dataSegment] at even short
  exact ⟨by omega, by omega⟩

/-! ### The names of the handles -/

/-- What each handle is known by: its key, and the request that closes its connection. -/
def IoSystem.names (system : IoSystem) : List (ConnectionKey × ForwardCloseRequest) :=
  system.handles.map fun owner => (owner.key, owner.closeRequest)

def IoEvent.isOpened : IoEvent → Bool
  | .opened .. => true
  | _ => false

theorem names_setStage (system : IoSystem) (handle : Nat) (stage : Stage) :
    (system.setStage handle stage).names = system.names := by
  refine List.ext_getElem? fun index => ?_
  simp only [IoSystem.names, IoSystem.setStage, List.getElem?_map, List.getElem?_modify]
  cases system.handles[index]? with
  | none => rfl
  | some owner => by_cases here : handle = index <;> simp [here]

/-- A handle keeps its name, and only a forward open makes one. -/
theorem names_of_step {system after : IoSystem} {event : IoEvent} (kept : event.isOpened = false)
    (step : ioMachine.step system event = some after) : after.names = system.names := by
  cases transition_of_step step with
  | opened | openedLost => exact absurd kept (by simp [IoEvent.isOpened])
  | won | lost | removeQueued | removeLost | closeSent | dropped => exact names_setStage _ _ _
  | idle | called | shutdown | letGo | drainedAdd | drainedAddTaken | drainedRemove | drainedTouch
  | drainedShutdown | quiet | expired => rfl

theorem names_of_opened {system after : IoSystem} {config : ConnectionConfig}
    {response : MessageRouterResponse} {peerIp : Ipv4Addr} {callbacks : IoCallbacks} {now : Nat}
    (step : ioMachine.step system (.opened config response peerIp callbacks now) = some after) :
    ∃ opened, completeOpen config response peerIp = .ok opened ∧
      after.names = system.names ++ [(opened.ioConfig.key, opened.closeRequest)] := by
  cases completed : completeOpen config response peerIp with
  | error refused => simp [ioMachine, completed] at step
  | ok opened =>
    simp only [ioMachine, completed, Option.some.injEq] at step
    refine ⟨opened, rfl, ?_⟩
    rw [← step]
    cases connected : system.connected with
    | true =>
      rw [addConnection_of_connected connected]
      exact List.map_append
    | false =>
      rw [addConnection_of_lost connected]
      exact List.map_append

/-! ### What both sides agree on -/

/-- The request that closes the connection of a call. -/
def SentOpen.closeRequest (start : IdCounters) (index : Nat) (call : SentOpen) :
    ForwardCloseRequest where
  connectionSerialNumber := serialAt start index
  originatorVendorId := call.config.originatorVendorId
  originatorSerialNumber := call.config.originatorSerialNumber
  connectionPath := call.config.path.bytes

/-- A call sent the request with the serial number at its place, and has no reply but one that
gives this number back. -/
structure SentOpen.Numbered (start : IdCounters) (index : Nat) (call : SentOpen) : Prop where
  accepted : call.config.Accepted
  sent : ∃ counters : IdCounters, counters.nextSerial = serialAt start index ∧
    call.sent = routerRequest counters call.config
  replied : ∀ response, call.caller = .replied response → call.arrived = true ∧
    call.config.Readable ∧ ∃ reply : ForwardOpenResponse, response.data = reply.encode ∧
      reply.connectionSerialNumber = serialAt start index

/-- A handle's name is that of the call it came of, which has returned. -/
def Names (start : IdCounters) (calls : List SentOpen) (name : ConnectionKey × ForwardCloseRequest)
    (origin : Nat) : Prop :=
  ∃ call, calls[origin]? = some call ∧ call.arrived = true ∧ call.caller = .returned ∧
    call.config.Accepted ∧ call.config.Readable ∧ name.1.peerIp = call.device ∧
      name.2 = call.closeRequest start origin

structure HandlesAgree (start : IdCounters) (calls : List SentOpen)
    (names : List (ConnectionKey × ForwardCloseRequest)) (origins : List Nat) : Prop where
  named : List.Forall₂ (Names start calls) names origins
  distinct : origins.Nodup

/-- A connection at a target is one that a call asked for there. -/
def AskedFor (start : IdCounters) (calls : List SentOpen) (device : Ipv4Addr)
    (connection : TargetConnection) : Prop :=
  ∃ call, calls[connection.origin]? = some call ∧ call.device = device ∧ call.arrived = true ∧
    connection.triad = (call.closeRequest start connection.origin).triad ∧
      connection.path = call.config.encodedPath

structure TargetsAgree (start : IdCounters) (calls : List SentOpen)
    (targets : Ipv4Addr → List TargetConnection) (closed : List Nat) : Prop where
  known : ∀ device, ∀ connection ∈ targets device, AskedFor start calls device connection
  arrived : ∀ origin ∈ closed, ∃ call, calls[origin]? = some call ∧ call.arrived = true
  ended : ∀ origin ∈ closed, ∀ device, ∀ connection ∈ targets device, connection.origin ≠ origin

structure Network.Agreed (start : IdCounters) (network : Network) : Prop where
  serial : network.counters.nextSerial = serialAt start network.calls.length
  calls : ∀ (index : Nat) (call : SentOpen), network.calls[index]? = some call →
    call.Numbered start index
  handles : HandlesAgree start network.calls network.io.names network.origins
  targets : TargetsAgree start network.calls network.targets network.closed

/-! ### Calls that go on -/

/-- A call goes on: it keeps what it asked for, and neither its arrival nor its return is taken
back. -/
structure SentOpen.Continues (call after : SentOpen) : Prop where
  config : after.config = call.config
  device : after.device = call.device
  arrived : call.arrived = true → after.arrived = true
  returned : call.caller = .returned → after.caller = .returned

/-- Every call goes on, and there may be more. -/
def Continued (calls after : List SentOpen) : Prop :=
  ∀ (index : Nat) (call : SentOpen), calls[index]? = some call → ∃ next, after[index]? = some next ∧
    call.Continues next

theorem continued_append (calls more : List SentOpen) : Continued calls (calls ++ more) :=
  fun _ call found => ⟨call, List.getElem?_append_left (List.getElem?_eq_some_iff.mp found).1 ▸
    found, rfl, rfl, id, id⟩

theorem continued_set {calls : List SentOpen} {index : Nat} {call next : SentOpen}
    (found : calls[index]? = some call) (continues : call.Continues next) :
    Continued calls (calls.set index next) := by
  intro other before present
  rw [List.getElem?_set]
  split
  next same =>
    subst same
    rw [if_pos (List.getElem?_eq_some_iff.mp found).1]
    obtain rfl := Option.some.inj (found.symm.trans present)
    exact ⟨next, rfl, continues⟩
  next => exact ⟨before, present, rfl, rfl, id, id⟩

section
variable {start : IdCounters} {calls after : List SentOpen} (continued : Continued calls after)
include continued

theorem Names.continue {name : ConnectionKey × ForwardCloseRequest} {origin : Nat}
    (named : Names start calls name origin) : Names start after name origin := by
  obtain ⟨call, found, arrived, returned, accepted, readable, device, request⟩ := named
  obtain ⟨next, present, continues⟩ := continued origin call found
  refine ⟨next, present, continues.arrived arrived, continues.returned returned, ?_, ?_, ?_, ?_⟩
  · rwa [continues.config]
  · rwa [continues.config]
  · rw [device, continues.device]
  · rw [request, SentOpen.closeRequest, SentOpen.closeRequest, continues.config]

theorem HandlesAgree.continue {names : List (ConnectionKey × ForwardCloseRequest)}
    {origins : List Nat} (agree : HandlesAgree start calls names origins) :
    HandlesAgree start after names origins where
  named := agree.named.imp fun _ _ => Names.continue continued
  distinct := agree.distinct

theorem AskedFor.continue {device : Ipv4Addr} {connection : TargetConnection}
    (asked : AskedFor start calls device connection) : AskedFor start after device connection := by
  obtain ⟨call, found, there, arrived, triad, path⟩ := asked
  obtain ⟨next, present, continues⟩ := continued _ call found
  refine ⟨next, present, continues.device.trans there, continues.arrived arrived, ?_, ?_⟩
  · rw [triad, SentOpen.closeRequest, SentOpen.closeRequest, continues.config]
  · rw [path, continues.config]

theorem TargetsAgree.continue {targets : Ipv4Addr → List TargetConnection} {closed : List Nat}
    (agree : TargetsAgree start calls targets closed) :
    TargetsAgree start after targets closed where
  known device connection member := (agree.known device connection member).continue continued
  arrived origin member := by
    obtain ⟨call, found, arrived⟩ := agree.arrived origin member
    obtain ⟨next, present, continues⟩ := continued origin call found
    exact ⟨next, present, continues.arrived arrived⟩
  ended := agree.ended

end

theorem HandlesAgree.exists_name {start : IdCounters} {calls : List SentOpen}
    {names : List (ConnectionKey × ForwardCloseRequest)} {origins : List Nat}
    (agree : HandlesAgree start calls names origins) {origin : Nat} (member : origin ∈ origins) :
    ∃ name, Names start calls name origin := by
  obtain ⟨index, inside, rfl⟩ := List.mem_iff_getElem.mp member
  exact ⟨_, agree.named.get (agree.named.length_eq ▸ inside) inside⟩

/-- Connections that a target drops leave the others as they were. -/
theorem TargetsAgree.shrink {start : IdCounters} {calls : List SentOpen}
    {targets fewer : Ipv4Addr → List TargetConnection} {closed : List Nat}
    (agree : TargetsAgree start calls targets closed)
    (subset : ∀ device, ∀ connection ∈ fewer device, connection ∈ targets device) :
    TargetsAgree start calls fewer closed where
  known device connection member := agree.known device connection (subset device connection member)
  arrived := agree.arrived
  ended origin member device connection present :=
    agree.ended origin member device connection (subset device connection present)

namespace Network

variable {start : IdCounters} {network after : Network}

theorem mem_setTarget {device other : Ipv4Addr} {connections : List TargetConnection}
    {connection : TargetConnection}
    (member : connection ∈ (network.setTarget device connections).targets other) :
    (other = device ∧ connection ∈ connections) ∨
      (other ≠ device ∧ connection ∈ network.targets other) := by
  unfold setTarget at member
  dsimp only at member
  by_cases here : other = device
  · subst here
    rw [Function.update_self] at member
    exact Or.inl ⟨rfl, member⟩
  · rw [Function.update_of_ne here] at member
    exact Or.inr ⟨here, member⟩

/-! ### The steps of a call -/

theorem agreed_setCall (agreed : network.Agreed start) {index : Nat} {call next : SentOpen}
    (found : network.calls[index]? = some call) (continues : call.Continues next)
    (numbered : next.Numbered start index) : (network.setCall index next).Agreed start where
  serial := by
    rw [setCall, List.length_set]
    exact agreed.serial
  calls other present := by
    intro inside
    rw [setCall, List.getElem?_set] at inside
    split at inside
    next same =>
      subst same
      rw [if_pos (List.getElem?_eq_some_iff.mp found).1] at inside
      exact Option.some.inj inside ▸ numbered
    next => exact agreed.calls other present inside
  handles := agreed.handles.continue (continued_set found continues)
  targets := agreed.targets.continue (continued_set found continues)

theorem agreed_send (agreed : network.Agreed start) {config : ConnectionConfig} {device : Ipv4Addr}
    (sent : network.send config device = some after) : after.Agreed start := by
  unfold send at sent
  split at sent
  · exact absurd sent (by simp)
  next request counters prepared =>
    obtain rfl := Option.some.inj sent
    obtain ⟨accepted, rfl, rfl⟩ := prepareOpen_ok_iff.mp prepared
    obtain ⟨serial, next⟩ := serial_forwardOpenRequest network.counters config
    have continued := continued_append network.calls
      [⟨config, device, routerRequest network.counters config, false, .waiting⟩]
    refine ⟨?_, fun index call found => ?_, agreed.handles.continue continued,
      agreed.targets.continue continued⟩
    · dsimp only
      rw [next, agreed.serial, List.length_append, List.length_singleton, serialAt, serialAt,
        UInt16.ofNat_add, UInt16.add_assoc]
      rfl
    · rw [getElem?_concat] at found
      split at found
      next last =>
        obtain rfl := Option.some.inj found
        refine ⟨accepted, ⟨network.counters, last ▸ agreed.serial, rfl⟩, ?_⟩
        intro response replied
        exact absurd replied (by simp)
      next => exact agreed.calls index call found

theorem agreed_giveUp (agreed : network.Agreed start) {index : Nat}
    (gaveUp : network.giveUp index = some after) : after.Agreed start := by
  unfold giveUp at gaveUp
  split at gaveUp
  · exact absurd gaveUp (by simp)
  next call found =>
    obtain rfl := Option.some.inj gaveUp
    have numbered := agreed.calls index call found
    refine agreed_setCall agreed found ⟨rfl, rfl, id, fun _ => rfl⟩ ⟨numbered.accepted,
      numbered.sent, fun response replied => ?_⟩
    exact absurd replied (by simp)

theorem agreed_refused (agreed : network.Agreed start) {index : Nat} {call : SentOpen}
    (found : network.calls[index]? = some call) :
    (network.setCall index call.refused).Agreed start := by
  have numbered := agreed.calls index call found
  refine agreed_setCall agreed found ⟨rfl, rfl, fun _ => rfl, fun _ => rfl⟩ ⟨numbered.accepted,
    numbered.sent, fun response replied => ?_⟩
  exact absurd replied (by simp [SentOpen.refused])

/-- The reply of a device gives the serial number back. -/
theorem agreed_answered (agreed : network.Agreed start) {index : Nat} {call : SentOpen}
    (found : network.calls[index]? = some call) (onItsWay : ¬ call.arrived = true)
    {response : MessageRouterResponse} (readable : call.config.Readable)
    {reply : ForwardOpenResponse} (encoded : response.data = reply.encode)
    (serial : reply.connectionSerialNumber = serialAt start index) :
    (network.setCall index (call.answered response)).Agreed start := by
  have numbered := agreed.calls index call found
  refine agreed_setCall agreed found ⟨rfl, rfl, fun _ => rfl, fun returned => ?_⟩
    ⟨numbered.accepted, numbered.sent, fun other replied => ?_⟩
  · rw [SentOpen.answered, returned]
    rfl
  · unfold SentOpen.answered at replied
    dsimp only at replied
    split at replied
    · obtain rfl := CallerStage.replied.inj replied
      exact ⟨rfl, readable, reply, encoded, serial⟩
    · exact absurd (numbered.replied other replied).1 onItsWay

/-- A target gets a connection that was not asked for before. -/
theorem agreed_accepted (agreed : network.Agreed start) {device : Ipv4Addr}
    {connection : TargetConnection} (asked : AskedFor start network.calls device connection)
    (fresh : connection.origin ∉ network.closed) :
    (network.setTarget device (connection :: network.targets device)).Agreed start where
  serial := agreed.serial
  calls := agreed.calls
  handles := agreed.handles
  targets := {
    known other one member := by
      rcases mem_setTarget member with ⟨rfl, added⟩ | ⟨-, old⟩
      · rcases List.mem_cons.mp added with rfl | old
        · exact asked
        · exact agreed.targets.known other one old
      · exact agreed.targets.known other one old
    arrived := agreed.targets.arrived
    ended origin closed other one member := by
      rcases mem_setTarget member with ⟨rfl, added⟩ | ⟨-, old⟩
      · rcases List.mem_cons.mp added with rfl | old
        · exact fun same => fresh (same ▸ closed)
        · exact agreed.targets.ended origin closed other one old
      · exact agreed.targets.ended origin closed other one old }

/-- A request that arrives makes a connection that its call asked for. -/
theorem agreed_arrive (agreed : network.Agreed start) {index : Nat} {grant : Option Grant}
    {items : List CommonPacketItem} (arrived : network.arrive index grant items = some after) :
    after.Agreed start := by
  unfold arrive at arrived
  split at arrived
  · exact absurd arrived (by simp)
  next call found =>
    split at arrived
    · exact absurd arrived (by simp)
    next onItsWay =>
      split at arrived
      next grant request connections accepted =>
        obtain rfl := Option.some.inj arrived
        obtain ⟨counters, serial, sent⟩ := (agreed.calls index call found).sent
        rw [sent] at accepted
        obtain ⟨triad, rfl, even, short⟩ := acceptOpen_eq_some accepted
        have number := (serial_forwardOpenRequest counters call.config).1.trans serial
        have answered := @agreed_answered start network agreed index call found onItsWay
          (grant.response call.sent request items) ⟨even, short⟩ (grant.reply request) rfl
          ((congrArg ConnectionTriad.connectionSerialNumber triad).trans number)
        refine agreed_accepted answered
          ⟨call.answered (grant.response call.sent request items), ?_, rfl, rfl, ?_, rfl⟩
          fun closed => ?_
        · exact List.getElem?_set_self (List.getElem?_eq_some_iff.mp found).1
        · rw [ForwardOpenRequest.triad, number]
          rfl
        · obtain ⟨before, present, already⟩ := agreed.targets.arrived index closed
          obtain rfl := Option.some.inj (found.symm.trans present)
          exact onItsWay already
      · obtain rfl := Option.some.inj arrived
        exact agreed_refused agreed found

/-- A caller that returns has a handle for its connection, if it has one at all. -/
theorem agreed_complete (agreed : network.Agreed start) {index : Nat} {callbacks : IoCallbacks}
    {now : Nat} (completed : network.complete index callbacks now = some after) :
    after.Agreed start := by
  unfold complete at completed
  split at completed
  next config device sent hasArrived response found =>
    have numbered := agreed.calls index _ found
    obtain ⟨arrived, readable, reply, encoded, serial⟩ := numbered.replied response rfl
    have returned := agreed_setCall agreed found
      (show SentOpen.Continues _ ⟨config, device, sent, hasArrived, .returned⟩ from
        ⟨rfl, rfl, id, fun _ => rfl⟩)
      ⟨numbered.accepted, numbered.sent, fun response replied => absurd replied (by simp)⟩
    dsimp only at completed
    split at completed
    · obtain rfl := Option.some.inj completed
      exact returned
    next io step =>
      obtain rfl := Option.some.inj completed
      obtain ⟨opened, made, names⟩ := names_of_opened step
      obtain ⟨decoded, sockaddr, read, settings, closes⟩ := completeOpen_eq_ok made
      have peer : opened.ioConfig.key.peerIp = device := by
        rw [settings]
        rfl
      rw [encoded] at read
      rw [serial_decode_encode read, serial] at closes
      refine ⟨returned.serial, returned.calls, ⟨?_, ?_⟩, returned.targets⟩
      · dsimp only
        rw [names]
        refine List.rel_append returned.handles.named (List.Forall₂.cons ?_ List.Forall₂.nil)
        exact ⟨_, List.getElem?_set_self (List.getElem?_eq_some_iff.mp found).1, arrived, rfl,
          numbered.accepted, readable, peer, closes⟩
      · refine List.nodup_append.mpr ⟨agreed.handles.distinct, List.nodup_singleton index, ?_⟩
        rintro origin member other same rfl
        obtain rfl := List.mem_singleton.mp same
        obtain ⟨name, named⟩ := agreed.handles.exists_name member
        obtain ⟨call, present, -, returned, -⟩ := named
        obtain rfl := Option.some.inj (found.symm.trans present)
        exact absurd returned (by simp)
  · exact absurd completed (by simp)

/-! ### The other steps -/

/-- The name of a handle is that of its call. -/
theorem Agreed.name (agreed : network.Agreed start) {handle origin : Nat} {owner : Handle}
    (found : network.io.handles[handle]? = some owner)
    (came : network.origins[handle]? = some origin) :
    Names start network.calls (owner.key, owner.closeRequest) origin := by
  obtain ⟨inside, rfl⟩ := List.getElem?_eq_some_iff.mp found
  obtain ⟨here, rfl⟩ := List.getElem?_eq_some_iff.mp came
  have named := agreed.handles.named.get
    (show handle < network.io.names.length by rwa [IoSystem.names, List.length_map]) here
  simpa [IoSystem.names] using named

/-- A target reads the close request of a handle. -/
theorem Agreed.readClose (agreed : network.Agreed start) {handle : Nat} {owner : Handle}
    (found : network.io.handles[handle]? = some owner) :
    ForwardCloseRequest.readBody owner.closeRequest.encode = some owner.closeRequest := by
  have inside : handle < network.origins.length := by
    rw [← agreed.handles.named.length_eq, IoSystem.names, List.length_map]
    exact (List.getElem?_eq_some_iff.mp found).1
  obtain ⟨call, -, -, -, accepted, readable, -, request⟩ :=
    agreed.name found (List.getElem?_eq_getElem inside)
  obtain ⟨even, short⟩ := readable.path accepted
  dsimp only at request
  rw [request]
  exact readClose_encode _ even short

theorem acceptClose_of_read {body : Bytes} {request : ForwardCloseRequest}
    (read : ForwardCloseRequest.readBody body = some request)
    (connections : List TargetConnection) :
    acceptClose body connections =
      connections.filter fun connection => connection.triad ≠ request.triad := by
  rw [acceptClose, read]

theorem agreed_work (agreed : network.Agreed start) {event : IoEvent}
    (kept : event.isOpened = false) (worked : network.work event = some after) :
    after.Agreed start := by
  obtain ⟨io, step, rfl⟩ := Option.map_eq_some_iff.mp worked
  have names := names_of_step kept step
  exact ⟨agreed.serial, agreed.calls, names ▸ agreed.handles, agreed.targets⟩

theorem agreed_drop (agreed : network.Agreed start) {device : Ipv4Addr}
    {connections : List TargetConnection}
    (subset : ∀ connection ∈ connections, connection ∈ network.targets device) :
    (network.setTarget device connections).Agreed start where
  serial := agreed.serial
  calls := agreed.calls
  handles := agreed.handles
  targets := agreed.targets.shrink fun other connection member => by
    rcases mem_setTarget member with ⟨rfl, inside⟩ | ⟨-, old⟩
    · exact subset connection inside
    · exact old

/-- The connection that a handle's call asked for is at the handle's device, under the numbers
that the handle is closed with, and its path begins with the path of the close request. -/
theorem Agreed.own_connection (agreed : network.Agreed start) {handle : Nat} {owner : Handle}
    (found : network.io.handles[handle]? = some owner) {device : Ipv4Addr}
    {connection : TargetConnection} (present : connection ∈ network.targets device)
    (came : network.origins[handle]? = some connection.origin) :
    device = owner.key.peerIp ∧ connection.triad = owner.closeRequest.triad ∧
      owner.closeRequest.connectionPath <+: connection.path := by
  obtain ⟨call, known, -, -, accepted, -, peer, request⟩ := agreed.name found came
  obtain ⟨asked, same, there, -, triad, path⟩ := agreed.targets.known device connection present
  obtain rfl := Option.some.inj (known.symm.trans same)
  dsimp only at peer request
  refine ⟨there.symm.trans peer.symm, request ▸ triad, ?_⟩
  rw [request, path, encodedPath_eq accepted.configData]
  exact List.prefix_append _ _

/-- As long as the serial numbers have not come round, the numbers of a close request are those of
one call's connection only. -/
theorem Agreed.triad_iff (agreed : network.Agreed start) (few : network.calls.length ≤ 2 ^ 16)
    {handle origin : Nat} {owner : Handle} (found : network.io.handles[handle]? = some owner)
    (came : network.origins[handle]? = some origin) {device : Ipv4Addr}
    {connection : TargetConnection} (present : connection ∈ network.targets device) :
    connection.triad = owner.closeRequest.triad ↔ connection.origin = origin := by
  constructor
  · intro same
    obtain ⟨call, known, -, -, -, -, -, request⟩ := agreed.name found came
    obtain ⟨asked, inside, -, -, triad, -⟩ := agreed.targets.known device connection present
    dsimp only at request
    rw [triad, request] at same
    have serials : serialAt start connection.origin = serialAt start origin :=
      congrArg ConnectionTriad.connectionSerialNumber same
    have rounds := serialAt_inj serials
    have first := (List.getElem?_eq_some_iff.mp inside).1
    have second := (List.getElem?_eq_some_iff.mp known).1
    rwa [Nat.mod_eq_of_lt (first.trans_le few), Nat.mod_eq_of_lt (second.trans_le few)] at rounds
  · rintro rfl
    exact (agreed.own_connection found present came).2.1

/-- A close that reaches the device of its handle ends the connection there. -/
theorem agreed_close (agreed : network.Agreed start) {handle : Nat} {device : Ipv4Addr}
    (closes : network.close handle device = some after) : after.Agreed start := by
  unfold close at closes
  split at closes
  next owner io found step =>
    obtain rfl := Option.some.inj closes
    have names := names_of_step rfl step
    have read := agreed.readClose found
    have dropped := @agreed_drop start network agreed device
      (acceptClose owner.closeRequest.encode (network.targets device)) fun connection member => by
        rw [acceptClose_of_read read] at member
        exact (List.mem_filter.mp member).1
    refine ⟨agreed.serial, agreed.calls, names ▸ agreed.handles, dropped.targets.known,
      fun origin member => ?_, fun origin member other connection present same => ?_⟩
    · rcases List.mem_append.mp member with before | own
      · exact agreed.targets.arrived origin before
      · split at own
        · obtain ⟨call, known, arrived, -⟩ := agreed.name found (Option.mem_toList.mp own)
          exact ⟨call, known, arrived⟩
        · exact absurd own List.not_mem_nil
    · rcases List.mem_append.mp member with before | own
      · exact dropped.targets.ended origin before other connection present same
      · split at own
        next here =>
          subst same
          rcases mem_setTarget present with ⟨rfl, kept⟩ | ⟨elsewhere, old⟩
          · rw [acceptClose_of_read read] at kept
            obtain ⟨old, differs⟩ := List.mem_filter.mp kept
            have triad := (agreed.own_connection found old (Option.mem_toList.mp own)).2.1
            exact absurd triad (by simpa using differs)
          · have there := (agreed.own_connection found old (Option.mem_toList.mp own)).1
            exact elsewhere (there.trans here.symm)
        · exact absurd own List.not_mem_nil
  · exact absurd closes (by simp)

theorem agreed_step (agreed : network.Agreed start) {event : NetworkEvent}
    (step : networkMachine.step network event = some after) : after.Agreed start := by
  cases event with
  | send config device => exact agreed_send agreed step
  | arrive index grant items => exact agreed_arrive agreed step
  | complete index callbacks now => exact agreed_complete agreed step
  | giveUp index => exact agreed_giveUp agreed step
  | close handle device => exact agreed_close agreed step
  | closeLost handle => exact agreed_work agreed rfl step
  | forget device triad =>
    obtain rfl := Option.some.inj step
    exact agreed_drop agreed fun connection member => (List.mem_filter.mp member).1
  | work event =>
    simp only [networkMachine, Option.ite_none_right_eq_some] at step
    obtain ⟨alone, worked⟩ := step
    refine agreed_work agreed ?_ worked
    cases event <;> first | rfl | exact absurd alone (by simp [IoEvent.isLocal])

theorem agreed_start (random : UInt64) :
    (Network.start random).Agreed (IdCounters.ofRandom random) where
  serial := (UInt16.add_zero _).symm
  calls _ _ found := absurd found (by simp [Network.start])
  handles := ⟨List.Forall₂.nil, List.nodup_nil⟩
  targets := ⟨fun _ _ member => absurd member List.not_mem_nil,
    fun _ member => absurd member List.not_mem_nil,
    fun _ member => absurd member List.not_mem_nil⟩

/-! ### The I/O system in a network -/

/-- A step of the network is a step of its I/O system, or none. -/
theorem io_of_step {event : NetworkEvent} (step : networkMachine.step network event = some after) :
    after.io = network.io ∨ ∃ worked, ioMachine.step network.io worked = some after.io := by
  have works {alone : IoEvent} (worked : network.work alone = some after) :
      ∃ worked, ioMachine.step network.io worked = some after.io := by
    obtain ⟨io, made, same⟩ := Option.map_eq_some_iff.mp worked
    exact ⟨alone, made.trans (same ▸ rfl)⟩
  cases event with
  | send config device =>
    simp only [networkMachine, send] at step
    split at step
    · exact absurd step (by simp)
    · exact Or.inl (Option.some.inj step ▸ rfl)
  | arrive index grant items =>
    simp only [networkMachine, arrive] at step
    split at step
    · exact absurd step (by simp)
    · split at step
      · exact absurd step (by simp)
      · split at step <;> exact Or.inl (Option.some.inj step ▸ rfl)
  | complete index callbacks now =>
    simp only [networkMachine, complete] at step
    split at step
    · split at step
      · exact Or.inl (Option.some.inj step ▸ rfl)
      next io made => exact Or.inr ⟨_, made.trans (Option.some.inj step ▸ rfl)⟩
    · exact absurd step (by simp)
  | giveUp index =>
    simp only [networkMachine, giveUp] at step
    split at step
    · exact absurd step (by simp)
    · exact Or.inl (Option.some.inj step ▸ rfl)
  | close handle device =>
    simp only [networkMachine, close] at step
    split at step
    next owner io found made => exact Or.inr ⟨_, made.trans (Option.some.inj step ▸ rfl)⟩
    · exact absurd step (by simp)
  | closeLost handle => exact Or.inr (works step)
  | forget device triad => exact Or.inl (Option.some.inj step ▸ rfl)
  | work event =>
    simp only [networkMachine, Option.ite_none_right_eq_some] at step
    exact Or.inr (works step.2)

/-- What holds of the I/O system in every run of its own holds of it in a network. -/
theorem io_of_run {random : UInt64} {events : List NetworkEvent} {last : Network}
    (reached : networkMachine.run (Network.start random) events = some last) :
    ∃ steps, ioMachine.run IoSystem.new steps = some last.io := by
  refine @Machine.invariant_run _ _ networkMachine
    (fun network => ∃ steps, ioMachine.run IoSystem.new steps = some network.io)
    (fun network event next reachable step => ?_) _ _ _ ⟨[], rfl⟩ reached
  obtain ⟨steps, run⟩ := reachable
  rcases io_of_step step with same | ⟨worked, more⟩
  · exact ⟨steps, run.trans (congrArg some same.symm)⟩
  · exact ⟨steps ++ [worked], ioMachine.run_append.mpr
      ⟨_, run, (ioMachine.run_singleton _ _).trans more⟩⟩

end Network

/-- A Forward Close ends its own connection and no other. In every run of a manager and its devices
in which fewer than 2^16 + 1 calls took a serial number, whatever requests and replies are lost and
whatever the devices refuse, grant and drop, as long as no call takes the reply to another: every
handle's close request can be read by any device; a device that reads it keeps exactly the
connections that other calls asked for; the handle's own connection, if its device still has it, is
there and nowhere else, opened with the path that the request gives, up to the configuration data;
and once the request has reached that device, no device has the connection any more. The I/O system
takes a run of its own in it. -/
theorem close_ends_own {random : UInt64} {events : List NetworkEvent} {last : Network}
    (reached : networkMachine.run (Network.start random) events = some last)
    (few : last.calls.length ≤ 2 ^ 16) {handle origin : Nat} {owner : Handle}
    (found : last.io.handles[handle]? = some owner)
    (came : last.origins[handle]? = some origin) :
    ForwardCloseRequest.readBody owner.closeRequest.encode = some owner.closeRequest ∧
      (∀ device, acceptClose owner.closeRequest.encode (last.targets device) =
        (last.targets device).filter fun connection => connection.origin ≠ origin) ∧
      (∀ device, ∀ connection ∈ last.targets device, connection.origin = origin →
        device = owner.key.peerIp ∧ owner.closeRequest.connectionPath <+: connection.path) ∧
      (origin ∈ last.closed →
        ∀ device, ∀ connection ∈ last.targets device, connection.origin ≠ origin) ∧
      ∃ steps, ioMachine.run IoSystem.new steps = some last.io := by
  have agreed : last.Agreed (IdCounters.ofRandom random) :=
    networkMachine.invariant_run (fun _ _ _ agreed step => Network.agreed_step agreed step)
      (Network.agreed_start random) reached
  have read := agreed.readClose found
  refine ⟨read, fun device => ?_, fun device connection present same => ?_,
    fun member => agreed.targets.ended origin member, Network.io_of_run reached⟩
  · rw [Network.acceptClose_of_read read]
    refine List.filter_congr fun connection present => ?_
    rw [decide_eq_decide, not_iff_not]
    exact agreed.triad_iff few found came present
  · subst same
    obtain ⟨there, -, path⟩ := agreed.own_connection found present came
    exact ⟨there, path⟩

/-- Two calls to one device, the second of which is answered first. -/
def twoCalls : List NetworkEvent :=
  [.send (assemblyConfig [1, 2] .fixed) ⟨7⟩, .send (assemblyConfig [] .fixed) ⟨7⟩,
    .arrive 1 (some ⟨0x100, 0x200, 10000, 10000, []⟩) [],
    .arrive 0 (some ⟨0x101, 0x201, 10000, 10000, []⟩) [],
    .complete 1 ⟨false, none, false⟩ 0, .complete 0 ⟨false, none, false⟩ 0]

theorem close_ends_own_first :
    ∃ last owner, networkMachine.run (Network.start 0) twoCalls = some last ∧
      last.io.handles[0]? = some owner ∧ (last.targets ⟨7⟩).map TargetConnection.origin = [0, 1] ∧
      acceptClose owner.closeRequest.encode (last.targets ⟨7⟩) =
        (last.targets ⟨7⟩).filter fun connection => connection.origin ≠ 1 :=
  ⟨_, _, rfl, rfl, rfl,
    (@close_ends_own 0 twoCalls _ rfl (by decide) 0 1 _ rfl rfl).2.1 ⟨7⟩⟩

end EipScanner
