/-
This file models one connection of the I/O thread: the schedule of its outgoing
packets, their numbers, and the timeout of its incoming ones. It performs no I/O;
the clock readings are arguments. Instants and durations are natural numbers of
nanoseconds.

A packet that is built carries an optional sequence count, an optional run/idle
header and the output, in that order, and the receiving side reads the same two
optional headers. Three facts follow from one description of what building a packet
does: the data item has the header length plus the length of the output; a
connection with the mirrored settings reads back exactly what was put in; and the
schedule moves to the first point of its grid after the present, whether or not the
packet was refused.
-/

import EipScanner.CommonPacket
import EipScanner.TimeGrid

namespace EipScanner

/-! ### Settings and state -/

/-- Identifies a connection on the I/O thread. T->O connection IDs are only unique per device, so
the device address is part of the key. -/
structure ConnectionKey where
  peerIp : Ipv4Addr
  t2oId : UInt32
  deriving DecidableEq, Repr

/-- Settings of an opened connection, from the Forward Open request and reply. -/
structure IoConnectionConfig where
  o2tId : UInt32
  t2oId : UInt32
  serialNumber : UInt16
  o2tApi : Nat
  timeout : Nat
  o2tSize : Nat
  t2oSize : Nat
  o2tFixed : Bool
  t2oFixed : Bool
  hasSequenceCount : Bool
  o2tRealTimeFormat : Bool
  t2oRealTimeFormat : Bool
  destination : SocketAddrV4
  peerIp : Ipv4Addr
  deriving DecidableEq, Repr

def IoConnectionConfig.key (cfg : IoConnectionConfig) : ConnectionKey := ⟨cfg.peerIp, cfg.t2oId⟩

/-- Implicit messaging state of one connection. -/
structure IoConnection where
  cfg : IoConnectionConfig
  output : Bytes
  run : Bool
  o2tSequenceNumber : UInt32
  sequenceCount : UInt16
  nextSend : Nat
  lastReceive : Nat
  o2tSizeWarned : Bool
  t2oSizeWarned : Bool
  deriving DecidableEq, Repr

/-- Data received on a T->O connection. Passed to the receive callback. -/
structure InputData where
  sequenceNumber : UInt32
  sequenceCount : UInt16
  runIdleHeader : UInt32
  data : Bytes
  deriving DecidableEq, Repr

namespace IoConnection

def new (cfg : IoConnectionConfig) (now : Nat) : IoConnection where
  cfg := cfg
  output := List.replicate cfg.o2tSize 0
  run := true
  o2tSequenceNumber := 0
  sequenceCount := 0
  nextSend := now
  lastReceive := now
  o2tSizeWarned := false
  t2oSizeWarned := false

def setOutput (conn : IoConnection) (data : Bytes) : IoConnection := { conn with output := data }

def setRun (conn : IoConnection) (run : Bool) : IoConnection := { conn with run := run }

def timeoutAt (conn : IoConnection) : Nat := conn.lastReceive + conn.cfg.timeout

def isTimedOut (conn : IoConnection) (now : Nat) : Bool := decide (conn.timeoutAt ≤ now)

def isSendDue (conn : IoConnection) (now : Nat) : Bool := decide (conn.nextSend ≤ now)

/-- The next time this connection needs attention. -/
def nextDeadline (conn : IoConnection) : Nat := min conn.nextSend conn.timeoutAt

/-! ### Building a packet -/

/-- Keep the original phase; skip slots missed entirely rather than bursting. The number of
missed slots is narrowed to 32 bits. -/
def advance (conn : IoConnection) (now : Nat) : Nat :=
  let next := conn.nextSend + conn.cfg.o2tApi
  if next ≤ now then
    let missed := (now - next) / max conn.cfg.o2tApi 1 + 1
    next + conn.cfg.o2tApi * (missed % 2 ^ 32)
  else next

/-- The output has a length that a fixed-size connection must not send. -/
def outputRefused (conn : IoConnection) : Bool :=
  conn.cfg.o2tFixed && conn.output.length != conn.cfg.o2tSize

/-- Count the packet: always the sequence number, the sequence count if the class has one. -/
def count (conn : IoConnection) : IoConnection :=
  { conn with
    o2tSequenceNumber := conn.o2tSequenceNumber + 1
    sequenceCount :=
      if conn.cfg.hasSequenceCount then conn.sequenceCount + 1 else conn.sequenceCount }

def runIdleHeader (conn : IoConnection) : UInt32 := conn.run.toUInt32

/-- The payload of a packet: sequence count, run/idle header, output. -/
def parts (conn : IoConnection) : List Bytes :=
  [if conn.cfg.hasSequenceCount then putU16 conn.sequenceCount else [],
    if conn.cfg.o2tRealTimeFormat then putU32 conn.runIdleHeader else [],
    conn.output]

/-- Builds the next O->T packet into a buffer and advances the schedule. The answer is false if
the packet must not be sent because the output size doesn't match a fixed-size connection. -/
def buildPacket (conn : IoConnection) (now : Nat) (out : Bytes) : IoConnection × Bytes × Bool :=
  let conn := { conn with nextSend := conn.advance now }
  if conn.outputRefused then ({ conn with o2tSizeWarned := true }, out, false)
  else
    let conn := { conn with o2tSizeWarned := false }.count
    (conn, encodeConnectedPacket out conn.cfg.o2tId conn.o2tSequenceNumber conn.parts, true)

/-! ### Receiving a packet -/

/-- Read a field that is there only when the settings say so. -/
def readIf {Value : Type} (present : Bool) (absent : Value)
    (read : Bytes → Except Error (Value × Bytes)) (buf : Bytes) : Option (Value × Bytes) :=
  if present then (read buf).toOption else some (absent, buf)

/-- Parses T->O data. There is no answer for packets that are malformed or have the wrong size;
those don't reset the timeout. -/
def onReceive (conn : IoConnection) (packet : ConnectedPacket) (now : Nat) :
    IoConnection × Option InputData :=
  match readIf conn.cfg.hasSequenceCount 0 tryGetU16 packet.data with
  | none => (conn, none)
  | some (sequenceCount, buf) =>
    match readIf conn.cfg.t2oRealTimeFormat 0 tryGetU32 buf with
    | none => (conn, none)
    | some (runIdleHeader, buf) =>
      if conn.cfg.t2oFixed && buf.length != conn.cfg.t2oSize then
        ({ conn with t2oSizeWarned := true }, none)
      else
        ({ conn with t2oSizeWarned := false, lastReceive := now },
          some {
            sequenceNumber := packet.sequenceNumber, sequenceCount, runIdleHeader, data := buf })

/-! ### What building a packet does -/

variable (conn : IoConnection) (now : Nat) (out : Bytes)

/-- A refused packet costs its slot and nothing else. -/
theorem buildPacket_of_refused (refused : conn.outputRefused = true) :
    conn.buildPacket now out =
      ({ conn with nextSend := conn.advance now, o2tSizeWarned := true }, out, false) :=
  if_pos refused

/-- Any other packet is counted, and carries the numbers that were counted. -/
theorem buildPacket_of_accepted (accepted : conn.outputRefused = false) :
    conn.buildPacket now out =
      let built := { conn with nextSend := conn.advance now, o2tSizeWarned := false }.count
      (built, encodeConnectedPacket out conn.cfg.o2tId (conn.o2tSequenceNumber + 1) built.parts,
        true) :=
  if_neg (Bool.eq_false_iff.mp accepted)

theorem buildPacket_built : (conn.buildPacket now out).2.2 = !conn.outputRefused := by
  cases refused : conn.outputRefused with
  | true => rw [buildPacket_of_refused conn now out refused, Bool.not_true]
  | false => rw [buildPacket_of_accepted conn now out refused, Bool.not_false]

@[simp]
theorem buildPacket_cfg : (conn.buildPacket now out).1.cfg = conn.cfg := by
  cases refused : conn.outputRefused with
  | true => rw [buildPacket_of_refused conn now out refused]
  | false => rw [buildPacket_of_accepted conn now out refused, count]

@[simp]
theorem buildPacket_lastReceive : (conn.buildPacket now out).1.lastReceive = conn.lastReceive := by
  cases refused : conn.outputRefused with
  | true => rw [buildPacket_of_refused conn now out refused]
  | false => rw [buildPacket_of_accepted conn now out refused, count]

/-- The schedule moves in the same way whether or not the packet is refused. -/
theorem buildPacket_nextSend : (conn.buildPacket now out).1.nextSend = conn.advance now := by
  cases refused : conn.outputRefused with
  | true => rw [buildPacket_of_refused conn now out refused]
  | false => rw [buildPacket_of_accepted conn now out refused, count]

/-- What the buffer held does not matter to the connection, nor to a packet that is sent. -/
theorem buildPacket_buffer (other : Bytes) :
    (conn.buildPacket now out).1 = (conn.buildPacket now other).1 ∧
      (conn.buildPacket now out).2.2 = (conn.buildPacket now other).2.2 ∧
      ((conn.buildPacket now out).2.2 = true →
        (conn.buildPacket now out).2.1 = (conn.buildPacket now other).2.1) := by
  cases refused : conn.outputRefused with
  | true =>
    rw [buildPacket_of_refused conn now out refused, buildPacket_of_refused conn now other refused]
    exact ⟨rfl, rfl, fun built => absurd built Bool.false_ne_true⟩
  | false =>
    rw [buildPacket_of_accepted conn now out refused,
      buildPacket_of_accepted conn now other refused]
    exact ⟨rfl, rfl, fun _ => rfl⟩

/-- A send that is an interval late or more: the number of missed intervals is narrowed. -/
theorem advance_of_late (positive : 0 < conn.cfg.o2tApi)
    (late : conn.nextSend + conn.cfg.o2tApi ≤ now) :
    conn.advance now = conn.nextSend + conn.cfg.o2tApi +
      conn.cfg.o2tApi * ((now - conn.nextSend) / conn.cfg.o2tApi % 2 ^ 32) := by
  have whole : (now - (conn.nextSend + conn.cfg.o2tApi)) / conn.cfg.o2tApi + 1 =
      (now - conn.nextSend) / conn.cfg.o2tApi := by
    rw [← Nat.sub_sub]
    exact (Nat.div_eq_sub_div positive (by omega)).symm
  rw [advance]
  dsimp only
  rw [if_pos late, Nat.max_eq_left positive, whole]

/-- A due send that is less than 2^32 intervals late moves to the first grid point after the
present. -/
theorem advance_eq_next (positive : 0 < conn.cfg.o2tApi) (due : conn.nextSend ≤ now)
    (near : now < conn.nextSend + 2 ^ 32 * conn.cfg.o2tApi) :
    conn.advance now = TimeGrid.next conn.cfg.o2tApi conn.nextSend now := by
  have missed : (now - conn.nextSend) / conn.cfg.o2tApi < 2 ^ 32 := by
    refine Nat.div_lt_of_lt_mul ?_
    rw [Nat.mul_comm]
    omega
  by_cases late : conn.nextSend + conn.cfg.o2tApi ≤ now
  · rw [conn.advance_of_late now positive late, Nat.mod_eq_of_lt missed, TimeGrid.next]
    ring
  · have none : (now - conn.nextSend) / conn.cfg.o2tApi = 0 := Nat.div_eq_of_lt (by omega)
    rw [advance, TimeGrid.next]
    dsimp only
    rw [if_neg late, none, Nat.zero_add, Nat.mul_one]

/-! ### The length of the data item -/

/-- Bytes of the optional headers. -/
def headersLength (sequenceCount realTimeFormat : Bool) : Nat :=
  (if sequenceCount then 2 else 0) + if realTimeFormat then 4 else 0

theorem length_parts :
    conn.parts.flatten.length =
      headersLength conn.cfg.hasSequenceCount conn.cfg.o2tRealTimeFormat + conn.output.length := by
  have counted : (if conn.cfg.hasSequenceCount then putU16 conn.sequenceCount else []).length =
      if conn.cfg.hasSequenceCount then 2 else 0 := by
    split
    · exact length_putU16 _
    · rfl
  have headed : (if conn.cfg.o2tRealTimeFormat then putU32 conn.runIdleHeader else []).length =
      if conn.cfg.o2tRealTimeFormat then 4 else 0 := by
    split
    · exact length_putU32 _
    · rfl
  simp only [parts, List.flatten_cons, List.flatten_nil, List.append_nil, List.length_append,
    counted, headed, headersLength, Nat.add_assoc]

/-- The data item of a packet that is built is as long as the headers and the output. -/
theorem length_connectedData_buildPacket (built : (conn.buildPacket now out).2.2 = true) :
    (connectedData (conn.buildPacket now out).2.1).length =
      headersLength conn.cfg.hasSequenceCount conn.cfg.o2tRealTimeFormat + conn.output.length := by
  rw [buildPacket_built, Bool.not_eq_true'] at built
  rw [buildPacket_of_accepted conn now out built, connectedData_encode, length_parts]
  rfl

/-- The length field holds the low 16 bits of the length of the data item. -/
theorem connectedDataLength_buildPacket (built : (conn.buildPacket now out).2.2 = true) :
    connectedDataLength (conn.buildPacket now out).2.1 =
      (connectedData (conn.buildPacket now out).2.1).length % 2 ^ 16 := by
  rw [buildPacket_built, Bool.not_eq_true'] at built
  rw [buildPacket_of_accepted conn now out built, connectedDataLength_encode,
    connectedData_encode]

/-- The sequence number of a packet that is built is the next one. -/
theorem connectedSequenceNumber_buildPacket (accepted : conn.outputRefused = false) :
    connectedSequenceNumber (conn.buildPacket now out).2.1 =
      (conn.o2tSequenceNumber + 1).toNat := by
  rw [buildPacket_of_accepted conn now out accepted, connectedSequenceNumber_encode]

/-- The sequence count in front of the data of a packet. -/
def packetSequenceCount (packet : Bytes) : Nat :=
  LittleEndian.number ((connectedData packet).take 2)

/-- The sequence count of a packet that is built is the next one, if the class has one. -/
theorem packetSequenceCount_buildPacket (accepted : conn.outputRefused = false)
    (counted : conn.cfg.hasSequenceCount = true) :
    packetSequenceCount (conn.buildPacket now out).2.1 = (conn.sequenceCount + 1).toNat := by
  rw [buildPacket_of_accepted conn now out accepted, packetSequenceCount, connectedData_encode]
  simp only [parts, count, counted, if_true, List.flatten_cons]
  rw [List.take_left' (length_putU16 _), putU16, LittleEndian.number_digits_of_lt
    (UInt16.toNat_lt _)]

/-! ### What receiving a packet does -/

section
variable {Value : Type} {absent : Value} {buf : Bytes}

theorem readIf_of_le {ofNat : Nat → Value} {width : Nat} {present : Bool}
    (enough : (if present then width else 0) ≤ buf.length) :
    ∃ value, readIf present absent (tryGetInt width ofNat) buf =
      some (value, buf.drop (if present then width else 0)) := by
  cases present with
  | false => exact ⟨absent, rfl⟩
  | true =>
    have whole : width ≤ buf.length := enough
    refine ⟨ofNat (LittleEndian.number (buf.take width)), ?_⟩
    rw [readIf, if_pos rfl, tryGetInt_of_le ofNat whole]
    rfl

theorem readIf_of_lt {ofNat : Nat → Value} {width : Nat} {present : Bool}
    (short : buf.length < if present then width else 0) :
    readIf present absent (tryGetInt width ofNat) buf = none := by
  cases present with
  | false => exact absurd short (Nat.not_lt_zero _)
  | true =>
    have cut : buf.length < width := short
    rw [readIf, if_pos rfl, tryGetInt_of_lt ofNat cut]
    rfl

/-- A field that the settings ask for is read as it was put; one they don't ask for is absent. -/
theorem readIf_put {read : Bytes → Except Error (Value × Bytes)} {put : Value → Bytes}
    (inverse : ∀ value rest, read (put value ++ rest) = .ok (value, rest))
    (present : Bool) (value : Value) (rest : Bytes) :
    readIf present absent read ((if present then put value else []) ++ rest) =
      some (if present then value else absent, rest) := by
  cases present with
  | false => rfl
  | true =>
    rw [readIf, if_pos rfl, if_pos rfl, inverse, if_pos rfl]
    rfl

end

/-- A packet too short for the headers changes nothing. -/
theorem onReceive_of_short {packet : ConnectedPacket}
    (short : packet.data.length <
      headersLength conn.cfg.hasSequenceCount conn.cfg.t2oRealTimeFormat) :
    conn.onReceive packet now = (conn, none) := by
  unfold onReceive
  rcases Nat.lt_or_ge packet.data.length (if conn.cfg.hasSequenceCount then 2 else 0) with
    cut | enough
  · rw [tryGetU16, readIf_of_lt cut]
  · obtain ⟨count, readCount⟩ := @readIf_of_le _ 0 packet.data UInt16.ofNat 2 _ enough
    have cut : (packet.data.drop (if conn.cfg.hasSequenceCount then 2 else 0)).length <
        if conn.cfg.t2oRealTimeFormat then 4 else 0 := by
      rw [List.length_drop]
      unfold headersLength at short
      omega
    rw [tryGetU16, readCount, tryGetU32]
    dsimp only
    rw [readIf_of_lt cut]

/-- Any other packet is accepted unless the rest has a wrong length. -/
theorem onReceive_of_enough {packet : ConnectedPacket}
    (enough : headersLength conn.cfg.hasSequenceCount conn.cfg.t2oRealTimeFormat ≤
      packet.data.length) :
    ∃ sequenceCount runIdleHeader,
      let data := packet.data.drop
        (headersLength conn.cfg.hasSequenceCount conn.cfg.t2oRealTimeFormat)
      conn.onReceive packet now =
        if conn.cfg.t2oFixed && data.length != conn.cfg.t2oSize then
          ({ conn with t2oSizeWarned := true }, none)
        else
          ({ conn with t2oSizeWarned := false, lastReceive := now },
            some {
              sequenceNumber := packet.sequenceNumber, sequenceCount, runIdleHeader, data }) := by
  unfold headersLength at enough ⊢
  obtain ⟨count, readCount⟩ := @readIf_of_le _ 0 packet.data UInt16.ofNat 2
    conn.cfg.hasSequenceCount (by omega)
  obtain ⟨header, readHeader⟩ := @readIf_of_le _ 0
    (packet.data.drop (if conn.cfg.hasSequenceCount then 2 else 0)) UInt32.ofNat 4
    conn.cfg.t2oRealTimeFormat (by rw [List.length_drop]; omega)
  refine ⟨count, header, ?_⟩
  rw [onReceive, tryGetU16, readCount, tryGetU32]
  dsimp only
  rw [readHeader, List.drop_drop]

/-- Whatever arrives, only the timeout and the warning move. -/
theorem onReceive_fst (packet : ConnectedPacket) :
    ∃ lastReceive warned,
      (conn.onReceive packet now).1 =
        { conn with lastReceive := lastReceive, t2oSizeWarned := warned } := by
  rcases Nat.lt_or_ge packet.data.length
    (headersLength conn.cfg.hasSequenceCount conn.cfg.t2oRealTimeFormat) with short | enough
  · exact ⟨conn.lastReceive, conn.t2oSizeWarned, by rw [onReceive_of_short conn now short]⟩
  · obtain ⟨count, header, received⟩ := onReceive_of_enough conn now enough
    dsimp only at received
    rw [received]
    split
    · exact ⟨conn.lastReceive, true, rfl⟩
    · exact ⟨now, false, rfl⟩

/-- A packet is accepted when its data holds the headers and, on a fixed-size connection, exactly
the configured number of bytes after them. -/
theorem onReceive_isSome_iff (packet : ConnectedPacket) :
    (conn.onReceive packet now).2.isSome = true ↔
      let headers := headersLength conn.cfg.hasSequenceCount conn.cfg.t2oRealTimeFormat
      headers ≤ packet.data.length ∧
        (conn.cfg.t2oFixed = true → packet.data.length = headers + conn.cfg.t2oSize) := by
  rcases Nat.lt_or_ge packet.data.length
    (headersLength conn.cfg.hasSequenceCount conn.cfg.t2oRealTimeFormat) with short | enough
  · rw [onReceive_of_short conn now short]
    constructor
    · exact fun some => absurd some Bool.false_ne_true
    · exact fun fits => absurd fits.1 (Nat.not_le.mpr short)
  · obtain ⟨count, header, received⟩ := onReceive_of_enough conn now enough
    rw [received, List.length_drop]
    cases conn.cfg.t2oFixed
    · simp [enough]
    · by_cases exact : packet.data.length =
        headersLength conn.cfg.hasSequenceCount conn.cfg.t2oRealTimeFormat + conn.cfg.t2oSize
      · simp [exact]
      · have other : packet.data.length -
            headersLength conn.cfg.hasSequenceCount conn.cfg.t2oRealTimeFormat ≠
              conn.cfg.t2oSize := by omega
        simp [exact, other]

/-! ### Loopback -/

/-- The receiving settings of one connection are the sending settings of another. -/
structure Mirrors (sender receiver : IoConnectionConfig) : Prop where
  sequenceCount : receiver.hasSequenceCount = sender.hasSequenceCount
  realTimeFormat : receiver.t2oRealTimeFormat = sender.o2tRealTimeFormat
  size : receiver.t2oSize = sender.o2tSize
  fixed : receiver.t2oFixed = sender.o2tFixed

/-- What a connection put into the packet it built last. -/
def sent (conn : IoConnection) : InputData where
  sequenceNumber := conn.o2tSequenceNumber
  sequenceCount := if conn.cfg.hasSequenceCount then conn.sequenceCount else 0
  runIdleHeader := if conn.cfg.o2tRealTimeFormat then conn.runIdleHeader else 0
  data := conn.output

/-- A connection with the mirrored settings reads the payload parts back. -/
theorem onReceive_parts {sender receiver : IoConnection} (mirrors : Mirrors sender.cfg receiver.cfg)
    (accepted : sender.outputRefused = false) (connectionId : UInt32) :
    receiver.onReceive
        { connectionId, sequenceNumber := sender.o2tSequenceNumber, data := sender.parts.flatten }
        now =
      ({ receiver with t2oSizeWarned := false, lastReceive := now }, some sender.sent) := by
  have fits : (sender.cfg.o2tFixed && sender.output.length != sender.cfg.o2tSize) = false :=
    accepted
  have payload : sender.parts.flatten =
      (if sender.cfg.hasSequenceCount then putU16 sender.sequenceCount else []) ++
        ((if sender.cfg.o2tRealTimeFormat then putU32 sender.runIdleHeader else []) ++
          sender.output) := by
    simp only [parts, List.flatten_cons, List.flatten_nil, List.append_nil]
  rw [onReceive, mirrors.sequenceCount, mirrors.realTimeFormat, payload,
    readIf_put tryGetU16_putU16]
  dsimp only
  rw [readIf_put tryGetU32_putU32]
  dsimp only
  rw [mirrors.fixed, mirrors.size, fits]
  rfl

/-- What one connection builds, a connection with the mirrored settings receives: the numbers that
were counted, the run bit as the header, and the output, unchanged. -/
theorem loopback (sender receiver : IoConnection) (mirrors : Mirrors sender.cfg receiver.cfg)
    (run : Bool) (output : Bytes) (now arrival : Nat) (out : Bytes)
    (built : (((sender.setRun run).setOutput output).buildPacket now out).2.2 = true)
    (fits : (connectedData
      (((sender.setRun run).setOutput output).buildPacket now out).2.1).length ≤ 65535) :
    let (after, bytes, _) := ((sender.setRun run).setOutput output).buildPacket now out
    after.o2tSequenceNumber = sender.o2tSequenceNumber + 1 ∧
      after.sequenceCount = (if sender.cfg.hasSequenceCount then sender.sequenceCount + 1
        else sender.sequenceCount) ∧
      ∃ packet, decodeConnectedPacket bytes = .ok packet ∧
        packet.connectionId = sender.cfg.o2tId ∧
        packet.sequenceNumber = after.o2tSequenceNumber ∧
        receiver.onReceive packet arrival =
          ({ receiver with t2oSizeWarned := false, lastReceive := arrival },
            some {
              sequenceNumber := after.o2tSequenceNumber
              sequenceCount := if sender.cfg.hasSequenceCount then after.sequenceCount else 0
              runIdleHeader := if sender.cfg.o2tRealTimeFormat then run.toUInt32 else 0
              data := output }) := by
  set conn := (sender.setRun run).setOutput output with asked
  have accepted : conn.outputRefused = false := by
    rwa [buildPacket_built, Bool.not_eq_true'] at built
  rw [buildPacket_of_accepted conn now out accepted] at fits ⊢
  dsimp only at fits ⊢
  rw [connectedData_encode] at fits
  refine ⟨rfl, rfl, _, decode_encodeConnectedPacket out _ _ (Nat.lt_succ_of_le fits), rfl, rfl, ?_⟩
  exact @onReceive_parts arrival
    { conn with nextSend := conn.advance now, o2tSizeWarned := false }.count receiver mirrors
    accepted _

/-- Settings that mirror themselves: a sequence count and a run/idle header both ways. -/
def mirroredConfig : IoConnectionConfig where
  o2tId := 0x100
  t2oId := 0x200
  serialNumber := 1
  o2tApi := 10000000
  timeout := 40000000
  o2tSize := 2
  t2oSize := 2
  o2tFixed := true
  t2oFixed := true
  hasSequenceCount := true
  o2tRealTimeFormat := true
  t2oRealTimeFormat := true
  destination := ⟨⟨0x7F000001⟩, 2222⟩
  peerIp := ⟨0x7F000001⟩

/-- The loopback at the point where the sequence count wraps around. -/
theorem loopback_wrapped_count :
    let sender := { IoConnection.new mirroredConfig 0 with sequenceCount := 0xFFFF }
    let sending := (sender.setRun true).setOutput [0xAA, 0xBB]
    ∃ packet, decodeConnectedPacket (sending.buildPacket 0 []).2.1 = .ok packet ∧
      ((IoConnection.new mirroredConfig 0).onReceive packet 5).2 =
        some ⟨1, 0, 1, [0xAA, 0xBB]⟩ := by
  obtain ⟨-, -, packet, decoded, -, -, received⟩ :=
    loopback { IoConnection.new mirroredConfig 0 with sequenceCount := 0xFFFF }
      (IoConnection.new mirroredConfig 0) ⟨rfl, rfl, rfl, rfl⟩ true [0xAA, 0xBB] 0 5 []
      (by decide) (by decide)
  exact ⟨packet, decoded, congrArg Prod.snd received⟩

end IoConnection

end EipScanner
