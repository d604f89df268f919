/-
This file models the connection manager and its I/O thread together: the callers'
handles, the open flags and their count, the command queue between the threads, and
the worker. Every step of either side that another step can come in between is an
event of one machine, so an interleaving of callers and worker is a list of events.

A forward open is one event once its reply is there: it creates the flag and queues
the connection. A forward close is three: it closes the flag, queues the removal,
and sends the Forward Close. The worker drains one command, serves one entry that is
due, removes one entry that timed out, or takes one datagram. A whole service pass
is a run of such events.

Each queued command carries the number of the handle it was sent through, and the
log records what happened. Neither is part of the program; they say whose command
and whose entry a step is about.
-/

import EipScanner.OpenConnection
import EipScanner.Worker

namespace EipScanner

/-! ### State -/

/-- Where the owner of a handle stands. A handle that is held can still be used; one whose close
has won the flag goes on to queue the removal and to send the Forward Close. -/
inductive Stage where
  | held
  | closing
  | removing
  | gone
  deriving DecidableEq, Repr

/-- A handle's number is that of its open flag. -/
structure Handle where
  key : ConnectionKey
  closeRequest : ForwardCloseRequest
  stage : Stage
  deriving DecidableEq, Repr

/-- A command in the queue, and the handle it was sent through. A shutdown comes from none. -/
structure Queued where
  sender : Option Nat
  command : Command

inductive LogEntry where
  | effect (effect : Effect)
  | won (handle : Nat)
  | removed (handle : Nat)
  | forwardClose (handle : Nat) (body : Bytes)
  deriving DecidableEq, Repr

/-- The worker holds the receiving end of the queue for a little longer than it runs. -/
structure IoSystem where
  worker : Worker
  connected : Bool
  queue : List Queued
  flags : List Bool
  openCount : Nat
  handles : List Handle
  log : List LogEntry

namespace IoSystem

def new : IoSystem := ⟨Worker.new, true, [], [], 0, [], []⟩

/-- The open count after an atomic decrement, which wraps around below zero. -/
def fetchSub (count : Nat) : Nat := if count = 0 then 2 ^ 64 - 1 else count - 1

/-- The count after a flag is swapped to closed: it is decremented if the flag was open. -/
def countAfterClose (system : IoSystem) (flag : Nat) : Nat :=
  if system.flags[flag]? = some true then fetchSub system.openCount else system.openCount

/-- Marks a connection closed. The answer is false if it already was. -/
def closeFlag (system : IoSystem) (flag : Nat) : IoSystem × Bool :=
  ({ system with
      flags := system.flags.set flag false
      openCount := system.countAfterClose flag },
    decide (system.flags[flag]? = some true))

def hasOpenConnections (system : IoSystem) : Bool := decide (0 < system.openCount)

/-- Queue a command. Nothing is queued once the worker has let go of the queue. -/
def send (system : IoSystem) (sender : Option Nat) (command : Command) : IoSystem :=
  if system.connected then { system with queue := system.queue ++ [⟨sender, command⟩] }
  else system

def setStage (system : IoSystem) (handle : Nat) (stage : Stage) : IoSystem :=
  { system with handles := system.handles.modify handle fun owner => { owner with stage } }

def record (system : IoSystem) (entry : LogEntry) : IoSystem :=
  { system with log := system.log ++ [entry] }

/-! ### Steps of the callers -/

/-- The end of a forward open: a new flag, and the connection on its way to the worker. If the
worker has let go of the queue there is no handle, but the flag stays. -/
def addConnection (system : IoSystem) (opened : OpenedConnection) (callbacks : IoCallbacks)
    (now : Nat) : IoSystem :=
  let flag := system.flags.length
  let handle : Handle := {
    key := opened.ioConfig.key
    closeRequest := opened.closeRequest
    stage := if system.connected then .held else .gone }
  { system with
    flags := system.flags ++ [true]
    openCount := system.openCount + 1
    handles := system.handles ++ [handle] }.send (some flag)
      (.add (IoConnection.new opened.ioConfig now) callbacks flag)

/-- Go on with a handle that is at a stage. -/
def withHandle (system : IoSystem) (handle : Nat) (stage : Stage) (next : Handle → IoSystem) :
    Option IoSystem :=
  match system.handles[handle]? with
  | none => none
  | some owner => if owner.stage = stage then some (next owner) else none

/-- The first step of a forward close. A connection that already timed out is only logged. -/
def closeHandle (system : IoSystem) (handle : Nat) : IoSystem :=
  let (closed, won) := system.closeFlag handle
  if won then (closed.setStage handle .closing).record (.won handle)
  else closed.setStage handle .gone

/-- The second step of a forward close. If the worker has let go of the queue, the close ends
here. -/
def queueRemove (system : IoSystem) (handle : Nat) (owner : Handle) : IoSystem :=
  (system.send (some handle) (.remove owner.key)).setStage handle
    (if system.connected then .removing else .gone)

/-- The last step of a forward close. -/
def sendForwardClose (system : IoSystem) (handle : Nat) (owner : Handle) : IoSystem :=
  (system.setStage handle .gone).record (.forwardClose handle owner.closeRequest.encode)

/-! ### Steps of the worker -/

/-- Close the flags that a step of the worker closed. -/
def closeFlags (system : IoSystem) (effects : List Effect) : IoSystem :=
  effects.foldl (fun system effect =>
    if effect.action = .closeFlag then (system.closeFlag effect.flag).1 else system) system

/-- Take over what a step of the worker did: the flags it closed, and its effects. -/
def absorb (system : IoSystem) (outcome : Worker × List Effect) : IoSystem :=
  let closed := system.closeFlags outcome.2
  { closed with worker := outcome.1, log := closed.log ++ outcome.2.map .effect }

/-- The removal of a handle's connection has been carried out. -/
def recordRemoved (system : IoSystem) (taken : Queued) : IoSystem :=
  match taken.sender, taken.command with
  | some handle, .remove _ => system.record (.removed handle)
  | _, _ => system

/-- Take the first command from the queue and carry it out. -/
def drain (system : IoSystem) : Option IoSystem :=
  match system.queue with
  | [] => none
  | taken :: later =>
    some (({ system with queue := later }.absorb
      (system.worker.drainCommand taken.command)).recordRemoved taken)

/-- Serve one entry that has not timed out. -/
def serve (system : IoSystem) (key : ConnectionKey) (now : Nat) : Option IoSystem :=
  match system.worker.connections.lookup key with
  | none => none
  | some entry =>
    if entry.conn.isTimedOut now then none
    else some (system.absorb (system.worker.sendDue now key entry))

/-- Remove one entry that timed out. -/
def expire (system : IoSystem) (key : ConnectionKey) (now : Nat) : Option IoSystem :=
  match system.worker.connections.lookup key with
  | none => none
  | some entry =>
    if entry.conn.isTimedOut now then some (system.absorb (system.worker.expire key)) else none

end IoSystem

/-! ### The machine -/

inductive IoEvent where
  | opened (config : ConnectionConfig) (response : MessageRouterResponse) (peerIp : Ipv4Addr)
    (callbacks : IoCallbacks) (now : Nat)
  | setOutput (handle : Nat) (data : Bytes)
  | setRun (handle : Nat) (run : Bool)
  | closeHandle (handle : Nat)
  | queueRemove (handle : Nat)
  | sendForwardClose (handle : Nat)
  | dropHandle (handle : Nat)
  | shutdown
  | letGo
  | drain
  | serve (key : ConnectionKey) (now : Nat)
  | expire (key : ConnectionKey) (now : Nat)
  | receive (source : IpAddr) (datagram : Bytes) (now : Nat)

def ioMachine : Machine IoSystem IoEvent where
  step system event :=
    match event with
    | .opened config response peerIp callbacks now =>
      match completeOpen config response peerIp with
      | .error _ => none
      | .ok opened => some (system.addConnection opened callbacks now)
    | .setOutput handle data =>
      system.withHandle handle .held fun owner =>
        system.send (some handle) (.setOutput owner.key data)
    | .setRun handle run =>
      system.withHandle handle .held fun owner =>
        system.send (some handle) (.setRun owner.key run)
    | .closeHandle handle => system.withHandle handle .held fun _ => system.closeHandle handle
    | .queueRemove handle => system.withHandle handle .closing (system.queueRemove handle)
    | .sendForwardClose handle =>
      system.withHandle handle .removing (system.sendForwardClose handle)
    | .dropHandle handle => system.withHandle handle .held fun _ => system.setStage handle .gone
    | .shutdown => some (system.send none .shutdown)
    | .letGo => if system.worker.running then none else some { system with connected := false }
    | .drain => if system.worker.running then system.drain else none
    | .serve key now => if system.worker.running then system.serve key now else none
    | .expire key now => if system.worker.running then system.expire key now else none
    | .receive source datagram now =>
      if system.worker.running then
        some (system.absorb (system.worker.receive source datagram now))
      else none

/-- A forward open that a device grants. It always hands out the same connection ID. -/
def grantedOpen (device : Ipv4Addr) (callbacks : IoCallbacks) (now : Nat) : IoEvent :=
  .opened (assemblyConfig [] .fixed) grantedResponse device callbacks now

end EipScanner
