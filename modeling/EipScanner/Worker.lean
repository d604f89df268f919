/-
This file models the I/O thread's worker: the map of connections, the commands that
change it, the service pass over all entries, and the datagrams that come in. The
order in which a pass visits the entries of the hash map is arbitrary, so a pass
takes an order as an argument. What a step does to the world outside is a list of
effects, each under the key and the open flag of the entry it comes from.

A callback is a closure that may change its own captured state. What the send
callback does is therefore a function of everything the callbacks of its entry were
called with before, which the entry keeps as its history.

The entry under one key can be watched by itself. A step of the worker either is a
step of that entry alone, or leaves the entry alone and has no effect under its key.
So two runs that agree on the events for a key agree on its entry and its effects.
-/

import EipScanner.IoConnection
import EipScanner.Machine
import Mathlib.Data.List.AList

namespace EipScanner

/-! ### Entries -/

/-- What a callback was called with. -/
inductive Invocation where
  | receive (input : InputData)
  | send (output : Bytes)
  deriving DecidableEq, Repr

/-- Callbacks for an I/O connection: whether there is one, and for the send callback, how it edits
the output. -/
structure IoCallbacks where
  onReceive : Bool
  onSend : Option (List Invocation → Bytes → Bytes)
  onClose : Bool

/-- An entry of the worker's map. The flag is the identity of its open flag. -/
structure Entry where
  conn : IoConnection
  callbacks : IoCallbacks
  flag : Nat
  history : List Invocation

/-- What the worker does to the outside for one entry. A datagram is handed to the socket; an error
of the socket there is logged, and changes nothing. -/
inductive Action where
  | send (destination : SocketAddrV4) (datagram : Bytes)
  | onReceive (input : InputData)
  | onSend (output : Bytes)
  | onClose
  | closeFlag
  deriving DecidableEq, Repr

namespace Entry

/-- Let the send callback edit the output. -/
def callOnSend (entry : Entry) : Entry × List Action :=
  match entry.callbacks.onSend with
  | none => (entry, [])
  | some edit =>
    ({ entry with
        conn := entry.conn.setOutput (edit entry.history entry.conn.output)
        history := entry.history ++ [.send entry.conn.output] },
      [.onSend entry.conn.output])

/-- Call the send callback, build a packet into the transmit buffer, and send it if it was
built. -/
def transmit (entry : Entry) (now : Nat) (txBuf : Bytes) : Entry × Bytes × List Action :=
  let (entry, called) := entry.callOnSend
  let (conn, txBuf, built) := entry.conn.buildPacket now txBuf
  ({ entry with conn }, txBuf,
    called ++ if built then [.send conn.cfg.destination txBuf] else [])

/-- Hand a decoded packet to the connection, and its data to the receive callback. -/
def receive (entry : Entry) (packet : ConnectedPacket) (now : Nat) : Entry × List Action :=
  match entry.conn.onReceive packet now with
  | (conn, none) => ({ entry with conn }, [])
  | (conn, some input) =>
    if entry.callbacks.onReceive then
      ({ entry with conn, history := entry.history ++ [.receive input] }, [.onReceive input])
    else ({ entry with conn }, [])

/-- What becomes of an entry that timed out: its flag is closed, whatever it was, and the close
callback is called. -/
def expired (entry : Entry) : List Action :=
  .closeFlag :: if entry.callbacks.onClose then [.onClose] else []

/-- What the transmit buffer held matters neither to the entry nor to the outside. -/
theorem transmit_buffer (entry : Entry) (now : Nat) (first second : Bytes) :
    (entry.transmit now first).1 = (entry.transmit now second).1 ∧
      (entry.transmit now first).2.2 = (entry.transmit now second).2.2 := by
  obtain ⟨sameConn, sameBuilt, sameBytes⟩ :=
    entry.callOnSend.1.conn.buildPacket_buffer now first second
  refine ⟨?_, ?_⟩
  · simp only [transmit, sameConn]
  · simp only [transmit, sameConn]
    cases built : (entry.callOnSend.1.conn.buildPacket now first).2.2 with
    | true => rw [← sameBuilt, built, sameBytes built]
    | false => rw [← sameBuilt, built, if_neg Bool.false_ne_true, if_neg Bool.false_ne_true]

end Entry

/-! ### The worker -/

inductive Command where
  | add (conn : IoConnection) (callbacks : IoCallbacks) (flag : Nat)
  | remove (key : ConnectionKey)
  | setOutput (key : ConnectionKey) (data : Bytes)
  | setRun (key : ConnectionKey) (run : Bool)
  | shutdown

/-- The key a command is addressed to. -/
def Command.key : Command → Option ConnectionKey
  | .add conn _ _ => some conn.cfg.key
  | .remove key => some key
  | .setOutput key _ => some key
  | .setRun key _ => some key
  | .shutdown => none

def rxBufSize : Nat := 65536

/-- The receive buffer keeps its size. -/
structure RxBuf where
  bytes : Bytes
  full : bytes.length = rxBufSize

/-- A datagram overwrites the front of the buffer, as much of it as fits. -/
def RxBuf.receive (buf : RxBuf) (datagram : Bytes) : RxBuf × Nat :=
  let kept := datagram.take rxBufSize
  (⟨kept ++ buf.bytes.drop kept.length, by
      rw [List.length_append, List.length_drop, buf.full, List.length_take]
      omega⟩,
    kept.length)

/-- The part of the buffer that was received holds the datagram and nothing else. -/
theorem RxBuf.take_receive (buf : RxBuf) (datagram : Bytes) :
    (buf.receive datagram).1.bytes.take (buf.receive datagram).2 = datagram.take rxBufSize :=
  List.take_left

/-- An action under the key and the flag of the entry it comes from. -/
structure Effect where
  key : ConnectionKey
  flag : Nat
  action : Action
  deriving DecidableEq, Repr

abbrev Connections := AList fun _ : ConnectionKey => Entry

structure Worker where
  running : Bool
  connections : Connections
  rxBuf : RxBuf
  txBuf : Bytes

inductive IpAddr where
  | v4 (ip : Ipv4Addr)
  | v6
  deriving DecidableEq, Repr

namespace Worker

def new : Worker where
  running := true
  connections := ∅
  rxBuf := ⟨List.replicate rxBufSize 0, List.length_replicate⟩
  txBuf := []

/-- Apply a change to the entry under a key, if there is one. -/
def update (worker : Worker) (key : ConnectionKey) (change : Entry → Entry) : Worker :=
  match worker.connections.lookup key with
  | none => worker
  | some entry => { worker with connections := worker.connections.insert key (change entry) }

/-- Carry out one command. A connection under a key that is taken is refused. -/
def drainCommand (worker : Worker) : Command → Worker × List Effect
  | .add conn callbacks flag =>
    match worker.connections.lookup conn.cfg.key with
    | some _ => (worker, [⟨conn.cfg.key, flag, .closeFlag⟩])
    | none =>
      ({ worker with
          connections := worker.connections.insert conn.cfg.key ⟨conn, callbacks, flag, []⟩ }, [])
  | .remove key => ({ worker with connections := worker.connections.erase key }, [])
  | .setOutput key data =>
    (worker.update key fun entry => { entry with conn := entry.conn.setOutput data }, [])
  | .setRun key run =>
    (worker.update key fun entry => { entry with conn := entry.conn.setRun run }, [])
  | .shutdown => ({ worker with running := false }, [])

/-- The flag of the entry under a key. -/
def occupant (worker : Worker) (key : ConnectionKey) : Option Nat :=
  (worker.connections.lookup key).map Entry.flag

/-- An order to visit the entries in: any preferred keys first, each once, then the others. Every
order is the order of some preference. -/
def visitOrder (worker : Worker) (preferred : List ConnectionKey) : List ConnectionKey :=
  (preferred.dedup.filter fun key => key ∈ worker.connections.keys) ++
    worker.connections.keys.filter fun key => key ∉ preferred

/-- Send a packet for an entry if one is due. -/
def sendDue (worker : Worker) (now : Nat) (key : ConnectionKey) (entry : Entry) :
    Worker × List Effect :=
  if entry.conn.isSendDue now then
    let (after, txBuf, actions) := entry.transmit now worker.txBuf
    ({ worker with connections := worker.connections.insert key after, txBuf },
      actions.map (Effect.mk key entry.flag))
  else (worker, [])

/-- Remove an entry that timed out. -/
def expire (worker : Worker) (key : ConnectionKey) : Worker × List Effect :=
  match worker.connections.lookup key with
  | none => (worker, [])
  | some entry =>
    ({ worker with connections := worker.connections.erase key },
      entry.expired.map (Effect.mk key entry.flag))

/-- A service pass under way: the keys that were found timed out so far, and the effects. -/
structure Pass where
  worker : Worker
  timedOut : List ConnectionKey
  effects : List Effect

/-- The first loop of a pass notes the entries that timed out and serves the others. -/
def Pass.visit (now : Nat) (pass : Pass) (key : ConnectionKey) : Pass :=
  match pass.worker.connections.lookup key with
  | none => pass
  | some entry =>
    if entry.conn.isTimedOut now then { pass with timedOut := pass.timedOut ++ [key] }
    else
      let (worker, effects) := pass.worker.sendDue now key entry
      { pass with worker, effects := pass.effects ++ effects }

/-- The second loop removes the entries that were noted. -/
def Pass.expire (pass : Pass) (key : ConnectionKey) : Pass :=
  let (worker, effects) := pass.worker.expire key
  { pass with worker, effects := pass.effects ++ effects }

def serviceConnections (worker : Worker) (preferred : List ConnectionKey) (now : Nat) :
    Worker × List Effect :=
  let visited := (worker.visitOrder preferred).foldl (Pass.visit now) ⟨worker, [], []⟩
  let pass := visited.timedOut.foldl Pass.expire visited
  (pass.worker, pass.effects)

/-- Take one datagram from the socket. -/
def receive (worker : Worker) (source : IpAddr) (datagram : Bytes) (now : Nat) :
    Worker × List Effect :=
  let (rxBuf, length) := worker.rxBuf.receive datagram
  let worker := { worker with rxBuf }
  match decodeConnectedPacket (rxBuf.bytes.take length) with
  | .error _ => (worker, [])
  | .ok packet =>
    match source with
    | .v6 => (worker, [])
    | .v4 peerIp =>
      let key : ConnectionKey := ⟨peerIp, packet.connectionId⟩
      match worker.connections.lookup key with
      | none => (worker, [])
      | some entry =>
        let (after, actions) := entry.receive packet now
        ({ worker with connections := worker.connections.insert key after },
          actions.map (Effect.mk key entry.flag))

end Worker

/-- What happens to the worker: a command that it drains, a service pass, a datagram. -/
inductive WorkerEvent where
  | command (command : Command)
  | service (preferred : List ConnectionKey) (now : Nat)
  | receive (source : IpAddr) (datagram : Bytes) (now : Nat)

/-- The worker's loop, one event at a time. Nothing happens after a shutdown. -/
def workerTransducer : Transducer Worker WorkerEvent (List Effect) where
  step worker event :=
    if worker.running then
      match event with
      | .command command => worker.drainCommand command
      | .service preferred now => worker.serviceConnections preferred now
      | .receive source datagram now => worker.receive source datagram now
    else (worker, [])

/-! ### One entry by itself -/

/-- What can be seen of the worker under one key. -/
structure Slot where
  running : Bool
  entry : Option Entry

/-- What happens under one key. The commands are those addressed to it, and the shutdown. -/
inductive SlotEvent where
  | command (command : Command)
  | service (now : Nat)
  | datagram (packet : ConnectedPacket) (now : Nat)

/-- An action, and the flag of the entry it comes from. -/
abbrev SlotOutput := List (Nat × Action)

namespace Slot

def drainCommand (slot : Slot) : Command → Slot × SlotOutput
  | .add conn callbacks flag =>
    match slot.entry with
    | some _ => (slot, [(flag, .closeFlag)])
    | none => ({ slot with entry := some ⟨conn, callbacks, flag, []⟩ }, [])
  | .remove _ => ({ slot with entry := none }, [])
  | .setOutput _ data =>
    ({ slot with
        entry := slot.entry.map fun entry => { entry with conn := entry.conn.setOutput data } }, [])
  | .setRun _ run =>
    ({ slot with
        entry := slot.entry.map fun entry => { entry with conn := entry.conn.setRun run } }, [])
  | .shutdown => ({ slot with running := false }, [])

/-- One service of the entry: it is removed, sent for, or left alone. -/
def service (slot : Slot) (now : Nat) : Slot × SlotOutput :=
  match slot.entry with
  | none => (slot, [])
  | some entry =>
    if entry.conn.isTimedOut now then
      ({ slot with entry := none }, entry.expired.map (entry.flag, ·))
    else if entry.conn.isSendDue now then
      let (after, _, actions) := entry.transmit now []
      ({ slot with entry := some after }, actions.map (entry.flag, ·))
    else (slot, [])

def receive (slot : Slot) (packet : ConnectedPacket) (now : Nat) : Slot × SlotOutput :=
  match slot.entry with
  | none => (slot, [])
  | some entry =>
    let (after, actions) := entry.receive packet now
    ({ slot with entry := some after }, actions.map (entry.flag, ·))

end Slot

def slotTransducer : Transducer Slot SlotEvent SlotOutput where
  step slot event :=
    if slot.running then
      match event with
      | .command command => slot.drainCommand command
      | .service now => slot.service now
      | .datagram packet now => slot.receive packet now
    else (slot, [])

section
variable (key : ConnectionKey)

def Worker.slot (worker : Worker) : Slot := ⟨worker.running, worker.connections.lookup key⟩

/-- The effects under the key. -/
def underKey (effects : List Effect) : SlotOutput :=
  effects.filterMap fun effect =>
    if effect.key = key then some (effect.flag, effect.action) else none

/-- What an event of the worker is under the key, if it is anything. -/
def WorkerEvent.underKey : WorkerEvent → Option SlotEvent
  | .command drained =>
    match drained.key with
    | none => some (.command drained)
    | some addressed => if addressed = key then some (.command drained) else none
  | .service _ now => some (.service now)
  | .receive source datagram now =>
    match decodeConnectedPacket (datagram.take rxBufSize), source with
    | .ok packet, .v4 peerIp =>
      if (⟨peerIp, packet.connectionId⟩ : ConnectionKey) = key then some (.datagram packet now)
      else none
    | _, _ => none

theorem underKey_append (earlier later : List Effect) :
    underKey key (earlier ++ later) = underKey key earlier ++ underKey key later :=
  List.filterMap_append

theorem underKey_map_self (flag : Nat) (actions : List Action) :
    underKey key (actions.map (Effect.mk key flag)) = actions.map (flag, ·) := by
  simp only [underKey, List.filterMap_map, Function.comp_def, if_true, List.filterMap_eq_map']

theorem underKey_map_other {other : ConnectionKey} (differs : other ≠ key) (flag : Nat)
    (actions : List Action) : underKey key (actions.map (Effect.mk other flag)) = [] := by
  simp only [underKey, List.filterMap_map, Function.comp_def, if_neg differs,
    List.filterMap_eq_nil_iff, implies_true]

namespace Worker

theorem slot_insert_self (worker : Worker) (entry : Entry) (txBuf : Bytes) :
    slot key { worker with connections := worker.connections.insert key entry, txBuf } =
      { worker.slot key with entry := some entry } := by
  rw [slot, slot, AList.lookup_insert]

theorem slot_insert_other {other : ConnectionKey} (differs : other ≠ key) (worker : Worker)
    (entry : Entry) (txBuf : Bytes) :
    slot key { worker with connections := worker.connections.insert other entry, txBuf } =
      worker.slot key := by
  rw [slot, slot, AList.lookup_insert_ne differs.symm]

theorem slot_erase_self (worker : Worker) :
    slot key { worker with connections := worker.connections.erase key } =
      { worker.slot key with entry := none } := by
  rw [slot, slot, AList.lookup_erase]

theorem slot_erase_other {other : ConnectionKey} (differs : other ≠ key) (worker : Worker) :
    slot key { worker with connections := worker.connections.erase other } = worker.slot key := by
  rw [slot, slot, AList.lookup_erase_ne differs.symm]

theorem slot_update_self (worker : Worker) (change : Entry → Entry) :
    (worker.update key change).slot key =
      { worker.slot key with entry := (worker.slot key).entry.map change } := by
  unfold update
  cases found : worker.connections.lookup key with
  | none => rw [slot, found, Option.map_none]
  | some entry => rw [slot, slot, AList.lookup_insert, found, Option.map_some]

theorem slot_update_other {other : ConnectionKey} (differs : other ≠ key) (worker : Worker)
    (change : Entry → Entry) : (worker.update other change).slot key = worker.slot key := by
  unfold update
  split
  · rfl
  · exact slot_insert_other key differs worker _ worker.txBuf

/-- A command addressed to the key, or the shutdown, moves its slot. -/
theorem slot_drainCommand (worker : Worker) (command : Command)
    (addressed : ∀ other ∈ command.key, other = key) :
    ((worker.drainCommand command).1.slot key, underKey key (worker.drainCommand command).2) =
      (worker.slot key).drainCommand command := by
  cases command with
  | add conn callbacks flag =>
    obtain rfl : conn.cfg.key = key := addressed _ rfl
    cases found : worker.connections.lookup conn.cfg.key with
    | none =>
      have vacant : (worker.slot conn.cfg.key).entry = none := found
      simp only [drainCommand, Slot.drainCommand, found, vacant]
      exact Prod.ext (slot_insert_self _ worker _ worker.txBuf) rfl
    | some entry =>
      have occupied : (worker.slot conn.cfg.key).entry = some entry := found
      simp only [drainCommand, Slot.drainCommand, found, occupied]
      exact Prod.ext rfl (underKey_map_self _ flag [.closeFlag])
  | remove other =>
    obtain rfl : other = key := addressed _ rfl
    exact Prod.ext (slot_erase_self _ worker) rfl
  | setOutput other data =>
    obtain rfl : other = key := addressed _ rfl
    exact Prod.ext (slot_update_self _ worker _) rfl
  | setRun other run =>
    obtain rfl : other = key := addressed _ rfl
    exact Prod.ext (slot_update_self _ worker _) rfl
  | shutdown => rfl

/-- A command addressed to another key leaves the slot alone. -/
theorem slot_drainCommand_other (worker : Worker) (command : Command) {other : ConnectionKey}
    (addressed : command.key = some other) (differs : other ≠ key) :
    (worker.drainCommand command).1.slot key = worker.slot key ∧
      underKey key (worker.drainCommand command).2 = [] := by
  cases command with
  | add conn callbacks flag =>
    obtain rfl : conn.cfg.key = other := Option.some.inj addressed
    rw [drainCommand]
    split
    · exact ⟨rfl, underKey_map_other key differs flag [.closeFlag]⟩
    · exact ⟨slot_insert_other key differs worker _ worker.txBuf, rfl⟩
  | remove removed =>
    obtain rfl : removed = other := Option.some.inj addressed
    exact ⟨slot_erase_other key differs worker, rfl⟩
  | setOutput changed data =>
    obtain rfl : changed = other := Option.some.inj addressed
    exact ⟨slot_update_other key differs worker _, rfl⟩
  | setRun changed run =>
    obtain rfl : changed = other := Option.some.inj addressed
    exact ⟨slot_update_other key differs worker _, rfl⟩
  | shutdown => exact absurd addressed nofun

/-! ### The service pass under one key -/

/-- What can be seen of a pass under one key. -/
structure Seen where
  slot : Slot
  timedOut : Bool
  shown : SlotOutput

def Seen.visit (now : Nat) (seen : Seen) : Seen :=
  match seen.slot.entry with
  | none => seen
  | some entry =>
    if entry.conn.isTimedOut now then { seen with timedOut := true }
    else
      let (slot, shown) := seen.slot.service now
      { seen with slot, shown := seen.shown ++ shown }

def Seen.expire (seen : Seen) : Seen :=
  match seen.slot.entry with
  | none => seen
  | some entry =>
    { seen with
      slot := { seen.slot with entry := none }
      shown := seen.shown ++ entry.expired.map (entry.flag, ·) }

def Pass.seen (pass : Pass) : Seen :=
  ⟨pass.worker.slot key, decide (key ∈ pass.timedOut), underKey key pass.effects⟩

/-- Sending what is due for an entry that has not timed out is the service of its slot. -/
theorem slot_sendDue_self (worker : Worker) (now : Nat) {entry : Entry}
    (found : worker.connections.lookup key = some entry)
    (inTime : entry.conn.isTimedOut now = false) :
    ((worker.sendDue now key entry).1.slot key, underKey key (worker.sendDue now key entry).2) =
      (worker.slot key).service now := by
  have occupied : (worker.slot key).entry = some entry := found
  obtain ⟨sameEntry, sameActions⟩ := entry.transmit_buffer now worker.txBuf []
  cases due : entry.conn.isSendDue now with
  | false => simp [sendDue, Slot.service, occupied, inTime, due, underKey]
  | true =>
    simp only [sendDue, Slot.service, occupied, inTime, due, Bool.false_eq_true, if_false, if_true]
    rw [slot_insert_self, underKey_map_self, sameEntry, sameActions]

theorem slot_sendDue_other (worker : Worker) (now : Nat) {other : ConnectionKey}
    (differs : other ≠ key) (entry : Entry) :
    (worker.sendDue now other entry).1.slot key = worker.slot key ∧
      underKey key (worker.sendDue now other entry).2 = [] := by
  cases due : entry.conn.isSendDue now with
  | false => simp [sendDue, due, underKey]
  | true =>
    simp only [sendDue, due, if_true]
    exact ⟨slot_insert_other key differs worker _ _, underKey_map_other key differs _ _⟩

theorem seen_visit_self (now : Nat) (pass : Pass) :
    (pass.visit now key).seen key = (pass.seen key).visit now := by
  cases found : pass.worker.connections.lookup key with
  | none =>
    have vacant : (pass.seen key).slot.entry = none := found
    simp only [Pass.visit, Seen.visit, found, vacant]
  | some entry =>
    have occupied : (pass.seen key).slot.entry = some entry := found
    cases late : entry.conn.isTimedOut now with
    | true =>
      simp only [Pass.visit, Seen.visit, found, occupied, late, if_true]
      simp [Pass.seen]
    | false =>
      have served := slot_sendDue_self key pass.worker now found late
      simp only [Pass.visit, Seen.visit, found, occupied, late, Bool.false_eq_true, if_false]
      simp only [Pass.seen, underKey_append, ← served]

theorem seen_visit_other (now : Nat) (pass : Pass) {other : ConnectionKey}
    (differs : other ≠ key) : (pass.visit now other).seen key = pass.seen key := by
  cases found : pass.worker.connections.lookup other with
  | none => simp only [Pass.visit, found]
  | some entry =>
    cases late : entry.conn.isTimedOut now with
    | true =>
      simp only [Pass.visit, found, late, if_true]
      simp only [Pass.seen, List.mem_append, List.mem_singleton, differs.symm, or_false]
    | false =>
      obtain ⟨sameSlot, silent⟩ := slot_sendDue_other key pass.worker now differs entry
      simp only [Pass.visit, found, late, Bool.false_eq_true, if_false]
      simp only [Pass.seen, underKey_append, sameSlot, silent, List.append_nil]

theorem seen_expire_self (pass : Pass) : (pass.expire key).seen key = (pass.seen key).expire := by
  cases found : pass.worker.connections.lookup key with
  | none =>
    have vacant : (pass.seen key).slot.entry = none := found
    simp only [Pass.expire, Seen.expire, Worker.expire, found, vacant]
    simp only [Pass.seen, List.append_nil]
  | some entry =>
    have occupied : (pass.seen key).slot.entry = some entry := found
    simp only [Pass.expire, Seen.expire, Worker.expire, found, occupied]
    simp only [Pass.seen, slot_erase_self, underKey_append, underKey_map_self]

theorem seen_expire_other (pass : Pass) {other : ConnectionKey} (differs : other ≠ key) :
    (pass.expire other).seen key = pass.seen key := by
  cases found : pass.worker.connections.lookup other with
  | none =>
    simp only [Pass.expire, Worker.expire, found]
    simp only [Pass.seen, List.append_nil]
  | some entry =>
    simp only [Pass.expire, Worker.expire, found]
    simp only [Pass.seen, slot_erase_other key differs, underKey_append,
      underKey_map_other key differs, List.append_nil]

/-- An entry is removed once, however often its key was noted. -/
theorem iterate_expire (seen : Seen) (count : ℕ) : Seen.expire^[count + 1] seen = seen.expire := by
  induction count with
  | zero => rfl
  | succ count inductionHypothesis =>
    rw [Function.iterate_succ_apply', inductionHypothesis]
    cases occupied : seen.slot.entry with
    | none => simp only [Seen.expire, occupied]
    | some entry => simp only [Seen.expire, occupied]

theorem nodup_visitOrder (worker : Worker) (preferred : List ConnectionKey) :
    (worker.visitOrder preferred).Nodup := by
  refine List.Nodup.append ((List.nodup_dedup _).filter _)
    (worker.connections.keys_nodup.filter _) ?_
  intro visited first second
  have wanted := (List.mem_filter.mp first).1
  have unwanted := (List.mem_filter.mp second).2
  simp_all

theorem mem_visitOrder (worker : Worker) (preferred : List ConnectionKey) :
    key ∈ worker.visitOrder preferred ↔ (worker.connections.lookup key).isSome = true := by
  rw [AList.lookup_isSome, AList.mem_keys, visitOrder]
  by_cases wanted : key ∈ preferred <;> simp [wanted]

/-- The second loop removes the entry if its key was noted, and else leaves it alone. -/
theorem seen_expireAll (pass : Pass) :
    (pass.timedOut.foldl Pass.expire pass).seen key =
      if (pass.seen key).timedOut then (pass.seen key).expire else pass.seen key := by
  have loop : (pass.timedOut.foldl Pass.expire pass).seen key =
      Seen.expire^[pass.timedOut.count key] (pass.seen key) :=
    foldl_watched (seen_expire_self key) (fun pass _ differs => seen_expire_other key pass differs)
      pass pass.timedOut
  rw [loop]
  by_cases noted : key ∈ pass.timedOut
  · obtain ⟨count, counted⟩ := Nat.exists_eq_succ_of_ne_zero
      (Nat.pos_iff_ne_zero.mp (List.count_pos_iff.mpr noted))
    rw [counted, iterate_expire, Pass.seen, if_pos (decide_eq_true noted)]
  · rw [List.count_eq_zero_of_not_mem noted, Function.iterate_zero_apply, Pass.seen,
      if_neg (by simpa using noted)]

/-- The first loop visits the entry once, if there is one. -/
theorem seen_visitAll (worker : Worker) (preferred : List ConnectionKey) (now : Nat) :
    ((worker.visitOrder preferred).foldl (Pass.visit now) ⟨worker, [], []⟩).seen key =
      Seen.visit now ⟨worker.slot key, false, []⟩ := by
  have loop : ((worker.visitOrder preferred).foldl (Pass.visit now) ⟨worker, [], []⟩).seen key =
      (Seen.visit now)^[(worker.visitOrder preferred).count key] ⟨worker.slot key, false, []⟩ :=
    foldl_watched (seen_visit_self key now)
      (fun pass _ differs => seen_visit_other key now pass differs) ⟨worker, [], []⟩ _
  rw [loop]
  have member := mem_visitOrder key worker preferred
  cases found : worker.connections.lookup key with
  | none =>
    have vacant : (worker.slot key).entry = none := found
    have absent : key ∉ worker.visitOrder preferred := by
      rw [member, found]
      exact Bool.false_ne_true
    rw [List.count_eq_zero_of_not_mem absent, Function.iterate_zero_apply]
    simp only [Seen.visit, vacant]
  | some entry =>
    have present : key ∈ worker.visitOrder preferred := by
      rw [member, found]
      rfl
    rw [List.count_eq_one_of_mem (nodup_visitOrder worker preferred) present,
      Function.iterate_one]

/-- The two loops together do to what is seen what one service does. -/
theorem seen_pass (slot : Slot) (now : Nat) :
    let seen := Seen.visit now ⟨slot, false, []⟩
    let last := if seen.timedOut then seen.expire else seen
    (last.slot, last.shown) = slot.service now := by
  cases found : slot.entry with
  | none => simp [Seen.visit, Slot.service, found]
  | some entry =>
    cases late : entry.conn.isTimedOut now with
    | true => simp [Seen.visit, Seen.expire, Slot.service, found, late]
    | false => simp [Seen.visit, found, late]

/-- A whole pass is one service of the slot. -/
theorem slot_serviceConnections (worker : Worker) (preferred : List ConnectionKey) (now : Nat) :
    ((worker.serviceConnections preferred now).1.slot key,
        underKey key (worker.serviceConnections preferred now).2) =
      (worker.slot key).service now := by
  have loops := seen_expireAll key
    ((worker.visitOrder preferred).foldl (Pass.visit now) ⟨worker, [], []⟩)
  rw [seen_visitAll] at loops
  exact (congrArg (fun seen : Seen => (seen.slot, seen.shown)) loops).trans (seen_pass _ now)

/-! ### Datagrams under one key -/

/-- What a datagram does once it is decoded: the rest of the buffer does not matter. -/
theorem receive_eq (worker : Worker) (source : IpAddr) (datagram : Bytes) (now : Nat) :
    worker.receive source datagram now =
      let worker := { worker with rxBuf := (worker.rxBuf.receive datagram).1 }
      match decodeConnectedPacket (datagram.take rxBufSize), source with
      | .ok packet, .v4 peerIp =>
        match worker.connections.lookup ⟨peerIp, packet.connectionId⟩ with
        | none => (worker, [])
        | some entry =>
          let (after, actions) := entry.receive packet now
          ({ worker with
              connections := worker.connections.insert ⟨peerIp, packet.connectionId⟩ after },
            actions.map (Effect.mk ⟨peerIp, packet.connectionId⟩ entry.flag))
      | _, _ => (worker, []) := by
  unfold receive
  dsimp only
  rw [RxBuf.take_receive]
  cases decodeConnectedPacket (datagram.take rxBufSize) with
  | error refused => rfl
  | ok packet => cases source <;> rfl

theorem slot_receive_self (worker : Worker) {datagram : Bytes} {peerIp : Ipv4Addr}
    {packet : ConnectedPacket} (now : Nat)
    (decoded : decodeConnectedPacket (datagram.take rxBufSize) = .ok packet)
    (addressed : (⟨peerIp, packet.connectionId⟩ : ConnectionKey) = key) :
    ((worker.receive (.v4 peerIp) datagram now).1.slot key,
        underKey key (worker.receive (.v4 peerIp) datagram now).2) =
      (worker.slot key).receive packet now := by
  rw [receive_eq, decoded]
  dsimp only
  rw [addressed]
  cases found : worker.connections.lookup key with
  | none =>
    have vacant : (worker.slot key).entry = none := found
    simp only [Slot.receive, vacant]
    rfl
  | some entry =>
    have occupied : (worker.slot key).entry = some entry := found
    simp only [Slot.receive, occupied]
    exact Prod.ext (slot_insert_self key { worker with rxBuf := _ } _ worker.txBuf)
      (underKey_map_self key _ _)

/-- A datagram that is malformed, comes from another address or carries another ID leaves the
slot alone. -/
theorem slot_receive_other (worker : Worker) (source : IpAddr) (datagram : Bytes) (now : Nat)
    (elsewhere : (WorkerEvent.receive source datagram now).underKey key = none) :
    (worker.receive source datagram now).1.slot key = worker.slot key ∧
      underKey key (worker.receive source datagram now).2 = [] := by
  rw [receive_eq]
  dsimp only
  cases decoded : decodeConnectedPacket (datagram.take rxBufSize) with
  | error refused => exact ⟨rfl, rfl⟩
  | ok packet =>
    cases source with
    | v6 => exact ⟨rfl, rfl⟩
    | v4 peerIp =>
      have differs : (⟨peerIp, packet.connectionId⟩ : ConnectionKey) ≠ key := by
        intro same
        have relevant : (WorkerEvent.receive (.v4 peerIp) datagram now).underKey key =
            some (.datagram packet now) := by
          simp only [WorkerEvent.underKey, decoded, if_pos same]
        exact absurd (relevant.symm.trans elsewhere) nofun
      dsimp only
      split
      · exact ⟨rfl, rfl⟩
      · exact ⟨slot_insert_other key differs { worker with rxBuf := _ } _ worker.txBuf,
          underKey_map_other key differs _ _⟩

end Worker

/-! ### The projection -/

variable {key} in
/-- A command is an event under its own key only; the shutdown is one under every key. -/
theorem underKey_command {drained : Command} {kept : SlotEvent}
    (found : (WorkerEvent.command drained).underKey key = some kept) :
    (∀ other ∈ drained.key, other = key) ∧ kept = .command drained := by
  cases target : drained.key with
  | none =>
    simp only [WorkerEvent.underKey, target, Option.some.injEq] at found
    exact ⟨nofun, found.symm⟩
  | some other =>
    by_cases same : other = key
    · simp only [WorkerEvent.underKey, target, if_pos same, Option.some.injEq] at found
      exact ⟨fun named member => (Option.some.inj member).symm.trans same, found.symm⟩
    · simp only [WorkerEvent.underKey, target, if_neg same, reduceCtorEq] at found

variable {key} in
/-- A datagram is an event under the key of its source and its ID, if it can be decoded. -/
theorem underKey_receive {source : IpAddr} {datagram : Bytes} {now : Nat} {kept : SlotEvent}
    (found : (WorkerEvent.receive source datagram now).underKey key = some kept) :
    ∃ peerIp packet, source = .v4 peerIp ∧
      decodeConnectedPacket (datagram.take rxBufSize) = .ok packet ∧
      (⟨peerIp, packet.connectionId⟩ : ConnectionKey) = key ∧ kept = .datagram packet now := by
  cases decoded : decodeConnectedPacket (datagram.take rxBufSize) with
  | error refused => simp only [WorkerEvent.underKey, decoded, reduceCtorEq] at found
  | ok packet =>
    cases source with
    | v6 => simp only [WorkerEvent.underKey, decoded, reduceCtorEq] at found
    | v4 peerIp =>
      by_cases same : (⟨peerIp, packet.connectionId⟩ : ConnectionKey) = key
      · simp only [WorkerEvent.underKey, decoded, if_pos same, Option.some.injEq] at found
        exact ⟨peerIp, packet, rfl, rfl, same, found.symm⟩
      · simp only [WorkerEvent.underKey, decoded, if_neg same, reduceCtorEq] at found

/-- An event under the key moves its slot. -/
theorem slot_step (worker : Worker) (event : WorkerEvent) {kept : SlotEvent}
    (found : event.underKey key = some kept) :
    slotTransducer.step (worker.slot key) kept =
      ((workerTransducer.step worker event).1.slot key,
        underKey key (workerTransducer.step worker event).2) := by
  cases running : worker.running with
  | false =>
    have stopped : (worker.slot key).running = false := running
    simp [workerTransducer, slotTransducer, running, stopped, underKey]
  | true =>
    have going : (worker.slot key).running = true := running
    simp only [workerTransducer, slotTransducer, running, going, if_true]
    cases event with
    | command drained =>
      obtain ⟨addressed, rfl⟩ := underKey_command found
      exact (Worker.slot_drainCommand key worker drained addressed).symm
    | service preferred now =>
      obtain rfl : SlotEvent.service now = kept := Option.some.inj found
      exact (Worker.slot_serviceConnections key worker preferred now).symm
    | receive source datagram now =>
      obtain ⟨peerIp, packet, rfl, decoded, addressed, rfl⟩ := underKey_receive found
      exact (Worker.slot_receive_self key worker now decoded addressed).symm

/-- An event that is nothing under the key leaves its slot alone. -/
theorem slot_still (worker : Worker) (event : WorkerEvent) (found : event.underKey key = none) :
    (workerTransducer.step worker event).1.slot key = worker.slot key ∧
      underKey key (workerTransducer.step worker event).2 = [] := by
  cases running : worker.running with
  | false => simp [workerTransducer, running, underKey]
  | true =>
    simp only [workerTransducer, running, if_true]
    cases event with
    | command drained =>
      cases target : drained.key with
      | none => simp [WorkerEvent.underKey, target] at found
      | some other =>
        refine Worker.slot_drainCommand_other key worker drained target fun same => ?_
        simp [WorkerEvent.underKey, target, same] at found
    | service preferred now => exact absurd found nofun
    | receive source datagram now =>
      exact Worker.slot_receive_other key worker source datagram now found

/-- The worker watched under one key is the slot transducer. -/
def slotProjection : Projection workerTransducer slotTransducer where
  view := Worker.slot key
  relevant := WorkerEvent.underKey key
  shown := underKey key
  silence := []
  moves worker event _ found := slot_step key worker event found
  still worker event found := slot_still key worker event found

end

/-- Connections are independent. Two runs of the worker that start with the same entry under a
key, and contain the same events for the key, show the same entry and the same effects under it
after each of these events; and no other event changes the entry or has an effect under the key. -/
theorem connections_independent (key : ConnectionKey) {first second : Worker}
    {firstEvents secondEvents : List WorkerEvent} (sameSlot : first.slot key = second.slot key)
    (sameEvents : firstEvents.filterMap (WorkerEvent.underKey key) =
      secondEvents.filterMap (WorkerEvent.underKey key)) :
    (slotProjection key).watch first firstEvents = (slotProjection key).watch second secondEvents ∧
      (workerTransducer.run first firstEvents).slot key =
        (workerTransducer.run second secondEvents).slot key ∧
      ∀ (worker : Worker) (event : WorkerEvent), event.underKey key = none →
        (workerTransducer.step worker event).1.slot key = worker.slot key ∧
          underKey key (workerTransducer.step worker event).2 = [] :=
  ⟨(slotProjection key).watch_congr sameSlot sameEvents,
    (slotProjection key).view_run_congr sameSlot sameEvents, slot_still key⟩

/-- A connection that is added and served, with and without what another key and a malformed
datagram contribute. -/
theorem connections_independent_noise :
    let key := IoConnection.mirroredConfig.key
    let add := WorkerEvent.command (.add (IoConnection.new IoConnection.mirroredConfig 0)
      ⟨true, none, true⟩ 0)
    (slotProjection key).watch Worker.new
        [add, .command (.remove ⟨⟨0⟩, 1⟩), .receive (.v4 key.peerIp) [] 5, .service [] 10] =
      (slotProjection key).watch Worker.new [add, .service [key] 10] :=
  (connections_independent IoConnection.mirroredConfig.key rfl rfl).1

end EipScanner
