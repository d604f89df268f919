/-
This file models a registered session over TCP and settles what request and reply
matching it gives. Every call takes the stream lock, writes its packet, reads a
24-byte header with `read_exact`, reads as many data bytes as the header announces,
and only then checks the reply. A read that times out returns an error and keeps
the bytes it has already taken off the socket. A write that fails may have sent a
part of its packet. In both cases the stream stays in use.

The device cuts what it receives into packets by the length in their headers, and
answers every packet with one frame, in order, over a lossless ordered stream. When
its bytes arrive is free: an event moves bytes from the network into the socket
buffer, and a read may time out whenever fewer bytes than it wants have arrived.
Threads are serialized by the lock, so a run of the session is a list of such events.

Each byte on the stream carries a number: a byte that is sent, that of the write it
comes from, and a byte of an answer, that of the answer. The numbers are not data of
the program; they say what the device's packets and the replies were assembled from.
-/

import EipScanner.Encaps
import EipScanner.Machine
import EipScanner.StreamCut

namespace EipScanner

open StreamCut

/-- A byte on the stream, with the number of the write or of the answer it belongs to. -/
structure StreamByte where
  number : Nat
  byte : UInt8
  deriving DecidableEq

def streamBytes (bytes : List StreamByte) : Bytes := bytes.map StreamByte.byte

/-- Bytes under one number. -/
def tagged (number : Nat) (bytes : Bytes) : List StreamByte :=
  bytes.map fun byte => ⟨number, byte⟩

/-- The bytes of a packet that is written or sent whole. -/
def EncapsPacket.stream (packet : EncapsPacket) (number : Nat) : List StreamByte :=
  tagged number packet.encode

def Frame.stream (frame : Frame) (number : Nat) : List StreamByte := frame.packet.stream number

/-! ### The device's end of the stream -/

/-- The size of the packet at the front of what a device has received, once it is there. -/
def frontSize (stream : List StreamByte) : Option Nat :=
  let size := headerSize + EncapsPacket.lengthFromHeader (streamBytes (stream.take headerSize))
  if size ≤ stream.length then some size else none

/-- What the device took for a packet, and its answer. -/
structure Served where
  request : List StreamByte
  answer : Frame

/-- The answers on the stream, from a number on. -/
def answerStream : Nat → List Served → List StreamByte
  | _, [] => []
  | number, served :: later => served.answer.stream number ++ answerStream (number + 1) later

/-! ### The session -/

/-- A call that holds the stream lock. -/
structure ActiveCall where
  thread : Nat
  packet : EncapsPacket
  /-- The number of its write. -/
  number : Nat
  /-- The number of answers before it. -/
  earlier : Nat
  /-- Bytes of earlier answers that were still to be read when this call took the stream. -/
  owed : List StreamByte
  /-- What the device had received of a packet when this call took the stream. -/
  behind : List StreamByte
  /-- The header, once it has been read. -/
  header : Option (List StreamByte)

/-- A call that wrote its packet and has returned. -/
structure DoneCall where
  thread : Nat
  packet : EncapsPacket
  number : Nat
  owed : List StreamByte
  behind : List StreamByte
  consumed : List StreamByte
  result : Except Error EncapsPacket

/-- A call that has read its reply, or has given up. -/
def ActiveCall.returned (call : ActiveCall) (consumed : List StreamByte)
    (result : Except Error EncapsPacket) : DoneCall where
  thread := call.thread
  packet := call.packet
  number := call.number
  owed := call.owed
  behind := call.behind
  consumed := consumed
  result := result

/-- Whether the session is still being registered, is in use, or failed to register. -/
inductive SessionPhase where
  | connecting
  | registered
  | dropped
  deriving DecidableEq

structure SessionState where
  phase : SessionPhase
  sessionHandle : UInt32
  done : List DoneCall
  active : Option ActiveCall
  /-- Bytes in the socket buffer. -/
  arrived : List StreamByte
  /-- Bytes the device has sent or will send, not yet in the socket buffer. -/
  inFlight : List StreamByte
  /-- The number of writes so far, failed ones included. -/
  writes : Nat
  /-- What the device has received and not yet taken for a packet. -/
  pending : List StreamByte
  /-- What the device took for packets, with its answers. -/
  served : List Served

inductive SessionEvent where
  /-- A thread takes the lock and writes its packet. The device answers what this completes. -/
  | write (thread : Nat) (packet : EncapsPacket) (answers : List Frame)
  /-- A write of the packet fails after it has sent a number of its bytes. -/
  | writeFails (packet : EncapsPacket) (count : Nat) (answers : List Frame)
  | deliver (count : Nat)
  | readHeader
  | readData
  | timeout

/-- The session as `connect_timeout` builds it, before the Register Session call. -/
def SessionState.connect : SessionState where
  phase := .connecting
  sessionHandle := 0
  done := []
  active := none
  arrived := []
  inFlight := []
  writes := 0
  pending := []
  served := []

namespace SessionState

/-- Every byte of an answer that the session has not read. -/
def unread (session : SessionState) : List StreamByte := session.arrived ++ session.inFlight

/-- The packets a thread may send: the first is Register Session, sent by the thread that
connects; a session that failed to register is gone. -/
def mayWrite (session : SessionState) (packet : EncapsPacket) : Bool :=
  match session.phase with
  | .connecting => session.done.isEmpty && packet == EncapsPacket.registerSession
  | .registered => true
  | .dropped => false

/-- What the device takes for packets when bytes are sent, and what it keeps. -/
def cutAfter (session : SessionState) (bytes : Bytes) : List (List StreamByte) × List StreamByte :=
  cut frontSize (session.pending ++ tagged session.writes bytes)

/-- Bytes are sent, and the device answers each packet that they complete. -/
def transmit (session : SessionState) (bytes : Bytes) (answers : List Frame) :
    Option SessionState :=
  let (requests, pending) := session.cutAfter bytes
  if answers.length = requests.length then
    let served := List.zipWith Served.mk requests answers
    some { session with
      writes := session.writes + 1
      pending := pending
      served := session.served ++ served
      inFlight := session.inFlight ++ answerStream session.served.length served }
  else none

/-- How many bytes the pending `read_exact` asks for. -/
def wanted (call : ActiveCall) : Nat :=
  match call.header with
  | none => headerSize
  | some header => EncapsPacket.lengthFromHeader (streamBytes header)

/-- The checks `send_and_receive` makes on a complete reply. -/
def checkReply (sessionHandle : UInt32) (data : Bytes) : Except Error EncapsPacket :=
  match EncapsPacket.decode data with
  | .error error => .error error
  | .ok reply =>
    if reply.status ≠ EncapsStatus.success then .error (.encaps reply.status)
    else if sessionHandle ≠ 0 ∧ reply.sessionHandle ≠ sessionHandle then
      .error (.wrongSessionHandle sessionHandle reply.sessionHandle)
    else .ok reply

/-- The call returns and releases the lock. A successful Register Session fixes the handle; a
failed one drops the session. -/
def finish (session : SessionState) (call : ActiveCall) (consumed rest : List StreamByte)
    (result : Except Error EncapsPacket) : SessionState :=
  let registration := match session.phase, result with
    | .connecting, .ok reply => (SessionPhase.registered, reply.sessionHandle)
    | .connecting, .error _ => (SessionPhase.dropped, session.sessionHandle)
    | phase, _ => (phase, session.sessionHandle)
  { session with
    phase := registration.1
    sessionHandle := registration.2
    done := session.done ++ [call.returned consumed result]
    active := none
    arrived := rest }

/-- The bytes the active call has taken off the socket so far. -/
def taken (call : ActiveCall) : List StreamByte := call.header.getD []

def step (session : SessionState) : SessionEvent → Option SessionState
  | .write thread packet answers =>
    if session.active.isNone ∧ session.mayWrite packet = true then
      (session.transmit packet.encode answers).map fun sent => { sent with
        active := some {
          thread, packet
          number := session.writes
          earlier := session.served.length
          owed := session.unread
          behind := session.pending
          header := none } }
    else none
  | .writeFails packet count answers =>
    if session.active.isNone ∧ session.mayWrite packet = true ∧ count < packet.encode.length then
      (session.transmit (packet.encode.take count) answers).map fun sent => { sent with
        phase := if session.phase = .connecting then .dropped else session.phase }
    else none
  | .deliver count =>
    if count ≤ session.inFlight.length then
      some { session with
        arrived := session.arrived ++ session.inFlight.take count
        inFlight := session.inFlight.drop count }
    else none
  | .readHeader =>
    match session.active with
    | none => none
    | some call =>
      if call.header.isNone ∧ headerSize ≤ session.arrived.length then
        some { session with
          active := some { call with header := some (session.arrived.take headerSize) }
          arrived := session.arrived.drop headerSize }
      else none
  | .readData =>
    match session.active with
    | none => none
    | some call =>
      if call.header.isSome ∧ wanted call ≤ session.arrived.length then
        let consumed := taken call ++ session.arrived.take (wanted call)
        some (session.finish call consumed (session.arrived.drop (wanted call))
          (checkReply session.sessionHandle (streamBytes consumed)))
      else none
  | .timeout =>
    match session.active with
    | none => none
    | some call =>
      if session.arrived.length < wanted call then
        some (session.finish call (taken call ++ session.arrived) [] (.error .io))
      else none

/-- A call read the device's answer to the packet that this very call wrote: the device took
exactly the bytes of that write for a packet, and the call read the bytes of the answer to it and
no others. -/
def ReadAnswer (session : SessionState) (call : DoneCall) (answer : Frame) : Prop :=
  ∃ number, session.served[number]? = some ⟨call.packet.stream call.number, answer⟩ ∧
    call.consumed = answer.stream number

def ReadOwn (session : SessionState) (call : DoneCall) : Prop :=
  ∃ answer, session.ReadAnswer call answer

/-- The reply is the device's answer to the packet that this very call wrote. -/
def RepliedByOwnAnswer (session : SessionState) (call : DoneCall) (reply : EncapsPacket) : Prop :=
  ∃ answer, session.ReadAnswer call answer ∧ reply = answer.packet

end SessionState

/-- The session shared by all its threads. -/
def sessionMachine : Machine SessionState SessionEvent := ⟨SessionState.step⟩

/-- A write sends its packet whole or not at all, and the packet fits its length field. -/
def SessionEvent.Whole : SessionEvent → Prop
  | .write _ packet _ => packet.Fits
  | .writeFails _ count _ => count = 0
  | _ => True

/-! ### Bytes and their numbers -/

theorem streamBytes_take (stream : List StreamByte) (count : Nat) :
    streamBytes (stream.take count) = (streamBytes stream).take count := List.map_take

theorem streamBytes_drop (stream : List StreamByte) (count : Nat) :
    streamBytes (stream.drop count) = (streamBytes stream).drop count := List.map_drop

theorem streamBytes_tagged (number : Nat) (bytes : Bytes) :
    streamBytes (tagged number bytes) = bytes := by
  simp only [streamBytes, tagged, List.map_map, Function.comp_def, List.map_id_fun', id_eq]

theorem number_of_mem_tagged {number : Nat} {bytes : Bytes} {byte : StreamByte}
    (member : byte ∈ tagged number bytes) : byte.number = number := by
  obtain ⟨value, _, rfl⟩ := List.mem_map.mp member
  rfl

theorem length_tagged (number : Nat) (bytes : Bytes) :
    (tagged number bytes).length = bytes.length := List.length_map _

theorem EncapsPacket.length_stream (packet : EncapsPacket) (number : Nat) :
    (packet.stream number).length = headerSize + packet.data.length := by
  rw [EncapsPacket.stream, length_tagged, EncapsPacket.length_encode]

theorem EncapsPacket.exists_mem_stream (packet : EncapsPacket) (number : Nat) :
    ∃ byte, byte ∈ packet.stream number := by
  refine List.exists_mem_of_length_pos ?_
  rw [packet.length_stream]
  exact Nat.lt_of_lt_of_le (by decide) (Nat.le_add_right _ _)

theorem number_of_mem_answerStream {number : Nat} {served : List Served} {byte : StreamByte}
    (member : byte ∈ answerStream number served) :
    number ≤ byte.number ∧ byte.number < number + served.length := by
  induction served generalizing number with
  | nil => exact absurd member List.not_mem_nil
  | cons first later inductionHypothesis =>
    rw [List.length_cons]
    rcases List.mem_append.mp member with own | others
    · have same := number_of_mem_tagged own
      omega
    · have bounds := inductionHypothesis others
      omega

theorem decode_of_checkReply {sessionHandle : UInt32} {data : Bytes} {reply : EncapsPacket}
    (accepted : SessionState.checkReply sessionHandle data = .ok reply) :
    EncapsPacket.decode data = .ok reply := by
  unfold SessionState.checkReply at accepted
  split at accepted
  · cases accepted
  · split_ifs at accepted
    rw [← Except.ok.inj accepted]
    assumption

/-- Reading as many bytes as the header asks for takes exactly the answer that is next. -/
theorem consumed_eq_stream {header chunk rest : List StreamByte} {answer : Frame} {number : Nat}
    (headerLength : header.length = headerSize)
    (chunkLength : chunk.length = EncapsPacket.lengthFromHeader (streamBytes header))
    (split : header ++ chunk ++ rest = answer.stream number) :
    header ++ chunk = answer.stream number := by
  have front : header = (answer.stream number).take headerSize := by
    rw [← split, List.append_assoc, ← headerLength, List.take_left]
  have announced : chunk.length = answer.packet.data.length := by
    rw [chunkLength, front, streamBytes_take, Frame.stream, EncapsPacket.stream,
      streamBytes_tagged]
    exact answer.lengthFromHeader_bytes
  have total : (header ++ chunk).length = (answer.stream number).length := by
    rw [Frame.stream, EncapsPacket.length_stream, List.length_append, headerLength, announced]
  have nothing : rest = [] := by
    have lengths := congrArg List.length split
    rw [List.length_append, total] at lengths
    exact List.length_eq_zero_iff.mp (by omega)
  rw [← split, nothing, List.append_nil]

/-! ### What a device takes for packets -/

theorem measures_frontSize : Measures frontSize where
  within stream size measured := by
    simp only [frontSize, Option.ite_none_right_eq_some, Option.some.injEq] at measured
    obtain ⟨within, rfl⟩ := measured
    exact ⟨Nat.lt_of_lt_of_le (by decide) (Nat.le_add_right headerSize _), within⟩
  settled stream later size measured within := by
    simp only [frontSize, Option.ite_none_right_eq_some, Option.some.injEq] at measured ⊢
    obtain ⟨_, rfl⟩ := measured
    have header : (stream ++ later).take headerSize = stream.take headerSize :=
      List.take_append_of_le_length (by omega)
    rw [header] at within ⊢
    exact ⟨within, rfl⟩

/-- A packet that is written alone is taken for one packet exactly when it fits its length
field. -/
theorem frontSize_stream_iff {packet : EncapsPacket} {number : Nat} :
    frontSize (packet.stream number) = some (packet.stream number).length ↔ packet.Fits := by
  have announced : EncapsPacket.lengthFromHeader
      (streamBytes ((packet.stream number).take headerSize)) = packet.data.length % 2 ^ 16 := by
    rw [streamBytes_take, EncapsPacket.stream, streamBytes_tagged,
      EncapsPacket.lengthFromHeader_encode]
  simp only [frontSize, announced, packet.length_stream, Option.ite_none_right_eq_some,
    Option.some.injEq, EncapsPacket.Fits]
  omega

/-- What sending bytes does. -/
structure Sent (session sent : SessionState) (bytes : Bytes) (new : List Served) : Prop where
  requests : session.cutAfter bytes = (new.map Served.request, sent.pending)
  same : sent = { session with
    writes := session.writes + 1
    pending := sent.pending
    served := session.served ++ new
    inFlight := session.inFlight ++ answerStream session.served.length new }

namespace SessionState

theorem map_served {requests : List (List StreamByte)} {answers : List Frame}
    (count : answers.length = requests.length) :
    (List.zipWith Served.mk requests answers).map Served.request = requests ∧
      (List.zipWith Served.mk requests answers).map Served.answer = answers := by
  induction requests generalizing answers with
  | nil => exact ⟨rfl, (List.length_eq_zero_iff.mp count).symm⟩
  | cons request later inductionHypothesis =>
    cases answers with
    | nil => exact absurd count (by simp)
    | cons answer others =>
      obtain ⟨bytes, frames⟩ := inductionHypothesis (Nat.succ.inj count)
      rw [List.zipWith_cons_cons, List.map_cons, List.map_cons, bytes, frames]
      exact ⟨rfl, rfl⟩

variable {session sent next : SessionState} {call : ActiveCall} {bytes : Bytes}
  {new : List Served}

theorem sent_of_transmit {answers : List Frame}
    (transmitted : session.transmit bytes answers = some sent) :
    ∃ new, Sent session sent bytes new ∧ new.map Served.answer = answers := by
  simp only [transmit, Option.ite_none_right_eq_some, Option.some.injEq] at transmitted
  obtain ⟨count, rfl⟩ := transmitted
  exact ⟨_, ⟨by rw [(map_served count).1], rfl⟩, (map_served count).2⟩

/-- The call that returns is the last of those that have returned. -/
theorem finish_done (session : SessionState) (call : ActiveCall)
    (consumed rest : List StreamByte) (result : Except Error EncapsPacket) :
    (session.finish call consumed rest result).done =
      session.done ++ [call.returned consumed result] := rfl

/-! ### What a reply is assembled from -/

/-- How a call that holds the stream stands to it: it was owed bytes of earlier answers, the device
was in the middle of a packet of earlier writes, and the rest is its own. -/
structure Reading (session : SessionState) (call : ActiveCall) : Prop where
  stream : taken call ++ session.unread =
    call.owed ++ answerStream call.earlier (session.served.drop call.earlier)
  requests : cut frontSize (call.behind ++ call.packet.stream call.number) =
    ((session.served.drop call.earlier).map Served.request, session.pending)
  owed : ∀ byte ∈ call.owed, byte.number < call.earlier
  earlier : call.earlier ≤ session.served.length
  short : frontSize call.behind = none
  behind : ∀ byte ∈ call.behind, byte.number < call.number
  before : ∀ served ∈ session.served.take call.earlier, ∀ byte ∈ served.request,
    byte.number < call.number
  header : ∀ header, call.header = some header → header.length = headerSize

/-- A packet that is written where the device has kept nothing is answered by itself. -/
theorem Reading.alone (reading : session.Reading call) (behind : call.behind = [])
    (fits : call.packet.Fits) :
    ∃ answer, session.served.drop call.earlier = [⟨call.packet.stream call.number, answer⟩] ∧
      session.pending = [] := by
  have requests := reading.requests
  rw [behind, List.nil_append, measures_frontSize.cut_unit (frontSize_stream_iff.mpr fits)]
    at requests
  obtain ⟨request, pending⟩ := Prod.mk.inj requests
  obtain ⟨⟨bytes, answer⟩, only, same⟩ := List.map_eq_singleton_iff.mp request.symm
  obtain rfl : bytes = _ := same
  exact ⟨answer, only, pending.symm⟩

/-- A call that is owed nothing reads its own answer. -/
theorem Reading.own (reading : session.Reading call) {header chunk rest : List StreamByte}
    (present : call.header = some header)
    (chunkLength : chunk.length = EncapsPacket.lengthFromHeader (streamBytes header))
    (split : header ++ chunk ++ rest = taken call ++ session.unread) (owed : call.owed = [])
    (behind : call.behind = []) (fits : call.packet.Fits) :
    ∃ answer, session.served.drop call.earlier = [⟨call.packet.stream call.number, answer⟩] ∧
      header ++ chunk = answer.stream call.earlier := by
  obtain ⟨answer, only, _⟩ := reading.alone behind fits
  refine ⟨answer, only, consumed_eq_stream (reading.header header present) chunkLength
    (split.trans ?_)⟩
  rw [reading.stream, owed, only]
  exact List.append_nil _

theorem getElem?_of_drop {session : SessionState} {count : Nat} {served : Served}
    (only : session.served.drop count = [served]) : session.served[count]? = some served := by
  have first := congrArg (·[0]?) only
  rwa [List.getElem?_drop, Nat.add_zero] at first

/-- What is the answer to the packet that the call wrote can only be read if nothing is in its
way. -/
theorem Reading.clear (reading : session.Reading call) {consumed rest : List StreamByte}
    {result : Except Error EncapsPacket} {answer : Frame}
    (split : consumed ++ rest = taken call ++ session.unread)
    (read : session.ReadAnswer (call.returned consumed result) answer) :
    call.owed = [] ∧ call.behind = [] ∧ call.packet.Fits := by
  obtain ⟨number, found, same⟩ := read
  have own : consumed = answer.stream number := same
  -- the device can only have taken these bytes for a packet when they were written
  have late : call.earlier ≤ number := by
    by_contra before
    have among : (⟨call.packet.stream call.number, answer⟩ : Served) ∈
        session.served.take call.earlier := by
      refine List.mem_of_getElem? (i := number) ?_
      rw [List.getElem?_take, if_pos (Nat.lt_of_not_le before)]
      exact found
    obtain ⟨byte, inside⟩ := call.packet.exists_mem_stream call.number
    have less := reading.before _ among byte inside
    rw [number_of_mem_tagged inside] at less
    exact Nat.lt_irrefl _ less
  refine ⟨?_, ?_⟩
  · cases owed : call.owed with
    | nil => rfl
    | cons first others =>
      -- the first byte read is an owed one, so it cannot belong to this answer
      have stream := split.trans reading.stream
      rw [own, owed] at stream
      obtain ⟨byte, inside⟩ := answer.packet.exists_mem_stream number
      have same : first ∈ answer.stream number := by
        cases front : answer.stream number with
        | nil => exact absurd (front ▸ inside : byte ∈ []) List.not_mem_nil
        | cons read later =>
          rw [front] at stream
          rw [(List.cons.inj stream).1]
          exact List.mem_cons_self
      have theirs := reading.owed first (owed ▸ List.mem_cons_self)
      rw [number_of_mem_tagged same] at theirs
      omega
  · have among : call.packet.stream call.number ∈
        (cut frontSize (call.behind ++ call.packet.stream call.number)).1 := by
      rw [reading.requests]
      refine List.mem_map.mpr ⟨⟨_, answer⟩, List.mem_of_getElem? (i := number - call.earlier) ?_,
        rfl⟩
      rw [List.getElem?_drop, Nat.add_sub_cancel' late]
      exact found
    have apart : ∀ byte ∈ call.behind, byte ∉ call.packet.stream call.number := by
      intro byte kept inside
      have less := reading.behind byte kept
      rw [number_of_mem_tagged inside] at less
      exact Nat.lt_irrefl _ less
    obtain ⟨behind, whole⟩ := measures_frontSize.whole_of_mem_cut reading.short apart among
    exact ⟨behind, frontSize_stream_iff.mp whole⟩

/-- A complete reply is the answer to the packet that the call wrote exactly when the call was owed
nothing, the device was between two packets, and the packet fits its length field. -/
theorem repliedByOwnAnswer_iff (reading : session.Reading call)
    {header chunk rest : List StreamByte} {sessionHandle : UInt32} {reply : EncapsPacket}
    (present : call.header = some header)
    (chunkLength : chunk.length = EncapsPacket.lengthFromHeader (streamBytes header))
    (split : header ++ chunk ++ rest = taken call ++ session.unread)
    (accepted : checkReply sessionHandle (streamBytes (header ++ chunk)) = .ok reply)
    (result : Except Error EncapsPacket) :
    session.RepliedByOwnAnswer (call.returned (header ++ chunk) result) reply ↔
      call.owed = [] ∧ call.behind = [] ∧ call.packet.Fits := by
  constructor
  · rintro ⟨answer, read, _⟩
    exact reading.clear split read
  · rintro ⟨owed, behind, fits⟩
    obtain ⟨answer, only, own⟩ := reading.own present chunkLength split owed behind fits
    refine ⟨answer, ⟨call.earlier, getElem?_of_drop only, own⟩, ?_⟩
    have decoded := decode_of_checkReply accepted
    rw [own, Frame.stream, EncapsPacket.stream, streamBytes_tagged] at decoded
    exact Except.ok.inj (decoded.symm.trans answer.decode_bytes)

/-! ### The invariant of every run -/

/-- What holds of the stream in every reachable state: the device keeps less than a packet, what is
unread are answers that were sent, a call that holds the stream reads on where it began, and every
reply that was returned is the answer to the call's own packet exactly when nothing was in its
way. -/
structure Invariant (session : SessionState) : Prop where
  short : frontSize session.pending = none
  pending : ∀ byte ∈ session.pending, byte.number < session.writes
  served : ∀ served ∈ session.served, ∀ byte ∈ served.request, byte.number < session.writes
  idle : session.active = none → ∀ byte ∈ session.unread, byte.number < session.served.length
  reading : ∀ call, session.active = some call → session.Reading call
  consumed : ∀ call ∈ session.done, ∀ byte ∈ call.consumed, byte.number < session.served.length
  matched : ∀ call ∈ session.done, ∀ reply, call.result = .ok reply →
    (session.RepliedByOwnAnswer call reply ↔
      call.owed = [] ∧ call.behind = [] ∧ call.packet.Fits)

theorem invariant_connect : Invariant connect where
  short := measures_frontSize.front_nil
  pending _ member := absurd member List.not_mem_nil
  served _ member := absurd member List.not_mem_nil
  idle _ _ member := absurd member List.not_mem_nil
  reading _ active := nomatch active
  consumed _ member := absurd member List.not_mem_nil
  matched _ member := absurd member List.not_mem_nil

/-- Later answers are not what a call has read. -/
theorem readAnswer_append {later : SessionState} (grown : later.served = session.served ++ new)
    {call : DoneCall} (consumed : ∀ byte ∈ call.consumed, byte.number < session.served.length)
    {answer : Frame} : later.ReadAnswer call answer ↔ session.ReadAnswer call answer := by
  refine exists_congr fun number => and_congr_left fun own => ?_
  obtain ⟨byte, inside⟩ := answer.packet.exists_mem_stream number
  have early := consumed byte (own ▸ inside)
  rw [number_of_mem_tagged inside] at early
  rw [grown, List.getElem?_append_left early]

/-- Moving bytes into the socket buffer leaves the unread bytes as they are. -/
theorem unread_deliver (session : SessionState) (count : Nat) :
    unread { session with
      arrived := session.arrived ++ session.inFlight.take count
      inFlight := session.inFlight.drop count } = session.unread := by
  rw [unread, unread, List.append_assoc, List.take_append_drop]

section Sending

/-- What sending keeps: the part of the invariant that is not about the call in hand. -/
theorem Invariant.afterSent (invariant : Invariant session) (sends : Sent session sent bytes new) :
    frontSize sent.pending = none ∧
      (∀ byte ∈ sent.pending, byte.number < session.writes + 1) ∧
      (∀ served ∈ session.served ++ new, ∀ byte ∈ served.request,
        byte.number < session.writes + 1) := by
  have known : ∀ byte ∈ session.pending ++ tagged session.writes bytes,
      byte.number < session.writes + 1 := by
    intro byte member
    rcases List.mem_append.mp member with kept | added
    · exact Nat.lt_succ_of_lt (invariant.pending byte kept)
    · rw [number_of_mem_tagged added]
      exact Nat.lt_succ_self _
  have requests := sends.requests
  rw [cutAfter] at requests
  have pending := congrArg Prod.snd requests
  dsimp only at pending
  refine ⟨?_, fun byte member => known byte ?_, fun served member byte inside => ?_⟩
  · rw [← pending]
    exact measures_frontSize.front_cut _
  · rw [← pending] at member
    exact mem_of_mem_rest member
  · rcases List.mem_append.mp member with old | added
    · exact Nat.lt_succ_of_lt (invariant.served served old byte inside)
    · have among : served.request ∈
          (cut frontSize (session.pending ++ tagged session.writes bytes)).1 := by
        rw [requests]
        exact List.mem_map_of_mem added
      exact known byte (mem_of_mem_cut among inside)

/-- The calls that have returned before bytes are sent. -/
theorem Invariant.done_sent (invariant : Invariant session) {after : SessionState}
    (same : after.done = session.done) (grown : after.served = session.served ++ new) :
    (∀ call ∈ after.done, ∀ byte ∈ call.consumed, byte.number < after.served.length) ∧
      ∀ call ∈ after.done, ∀ reply, call.result = .ok reply →
        (after.RepliedByOwnAnswer call reply ↔
          call.owed = [] ∧ call.behind = [] ∧ call.packet.Fits) := by
  rw [same, grown, List.length_append]
  refine ⟨fun call member byte read => ?_, fun call member reply ok => ?_⟩
  · exact Nat.lt_add_right _ (invariant.consumed call member byte read)
  · refine Iff.trans (exists_congr fun answer => ?_) (invariant.matched call member reply ok)
    exact and_congr_left fun _ => readAnswer_append grown (invariant.consumed call member)

end Sending

/-- What a write does. -/
theorem step_write {thread : Nat} {packet : EncapsPacket} {answers : List Frame}
    (moved : session.step (.write thread packet answers) = some next) :
    session.active = none ∧ ∃ sent new, Sent session sent packet.encode new ∧
      new.map Served.answer = answers ∧ next = { sent with active := some {
        thread, packet
        number := session.writes
        earlier := session.served.length
        owed := session.unread
        behind := session.pending
        header := none } } := by
  simp only [step, Option.ite_none_right_eq_some, Option.map_eq_some_iff] at moved
  obtain ⟨⟨idle, _⟩, sent, transmitted, rfl⟩ := moved
  obtain ⟨new, sends, answered⟩ := sent_of_transmit transmitted
  exact ⟨Option.isNone_iff_eq_none.mp idle, sent, new, sends, answered, rfl⟩

/-- What a write that fails does. -/
theorem step_writeFails {packet : EncapsPacket} {count : Nat} {answers : List Frame}
    (moved : session.step (.writeFails packet count answers) = some next) :
    session.active = none ∧ ∃ sent new, Sent session sent (packet.encode.take count) new ∧
      next = { sent with
        phase := if session.phase = .connecting then .dropped else session.phase } := by
  simp only [step, Option.ite_none_right_eq_some, Option.map_eq_some_iff] at moved
  obtain ⟨⟨idle, _⟩, sent, transmitted, rfl⟩ := moved
  obtain ⟨new, sends, _⟩ := sent_of_transmit transmitted
  exact ⟨Option.isNone_iff_eq_none.mp idle, sent, new, sends, rfl⟩

theorem invariant_write (invariant : Invariant session) {thread : Nat}
    {packet : EncapsPacket} {answers : List Frame}
    (moved : session.step (.write thread packet answers) = some next) : Invariant next := by
  obtain ⟨idle, sent, new, sends, _, rfl⟩ := step_write moved
  obtain ⟨short, pending, served⟩ := invariant.afterSent sends
  have requests := sends.requests
  rw [sends.same]
  obtain ⟨consumed, matched⟩ := @Invariant.done_sent session new invariant
    { session with served := session.served ++ new } rfl rfl
  refine ⟨short, pending, served, fun busy => (nomatch busy), fun call active => ?_, consumed,
    matched⟩
  obtain rfl := Option.some.inj active
  refine ⟨?_, ?_, invariant.idle idle, ?_, invariant.short, invariant.pending, ?_, nofun⟩
  · dsimp only [taken, unread]
    rw [Option.getD_none, List.nil_append, List.drop_left, List.append_assoc]
  · dsimp only
    rw [List.drop_left]
    exact requests
  · dsimp only
    rw [List.length_append]
    exact Nat.le_add_right _ _
  · dsimp only
    rw [List.take_left]
    exact invariant.served

theorem invariant_writeFails (invariant : Invariant session) {packet : EncapsPacket}
    {count : Nat} {answers : List Frame}
    (moved : session.step (.writeFails packet count answers) = some next) : Invariant next := by
  obtain ⟨idle, sent, new, sends, rfl⟩ := step_writeFails moved
  obtain ⟨short, pending, served⟩ := invariant.afterSent sends
  rw [sends.same]
  obtain ⟨consumed, matched⟩ := @Invariant.done_sent session new invariant
    { session with served := session.served ++ new } rfl rfl
  refine ⟨short, pending, served, fun _ byte member => ?_,
    fun call active => (nomatch idle.symm.trans active), consumed, matched⟩
  dsimp only [unread] at member ⊢
  rw [List.length_append]
  rw [← List.append_assoc] at member
  rcases List.mem_append.mp member with old | added
  · exact Nat.lt_add_right _ (invariant.idle idle byte old)
  · exact (number_of_mem_answerStream added).2

theorem invariant_deliver (invariant : Invariant session) {count : Nat}
    (moved : session.step (.deliver count) = some next) : Invariant next := by
  simp only [step, Option.ite_none_right_eq_some, Option.some.injEq] at moved
  obtain ⟨_, rfl⟩ := moved
  refine ⟨invariant.short, invariant.pending, invariant.served, ?_, fun call active => ?_,
    invariant.consumed, invariant.matched⟩
  · rw [unread_deliver]
    exact invariant.idle
  · have reading := invariant.reading call active
    refine ⟨?_, reading.requests, reading.owed, reading.earlier, reading.short, reading.behind,
      reading.before, reading.header⟩
    rw [unread_deliver]
    exact reading.stream

/-- What reading the header does. -/
theorem step_readHeader (moved : session.step .readHeader = some next) :
    ∃ call, session.active = some call ∧ call.header = none ∧
      headerSize ≤ session.arrived.length ∧
      next = { session with
        active := some { call with header := some (session.arrived.take headerSize) }
        arrived := session.arrived.drop headerSize } := by
  simp only [step] at moved
  cases active : session.active with
  | none => rw [active] at moved; cases moved
  | some call =>
    simp only [active, Option.ite_none_right_eq_some, Option.some.injEq] at moved
    obtain ⟨⟨absent, enough⟩, rfl⟩ := moved
    exact ⟨call, rfl, Option.isNone_iff_eq_none.mp absent, enough, rfl⟩

theorem invariant_readHeader (invariant : Invariant session)
    (moved : session.step .readHeader = some next) : Invariant next := by
  obtain ⟨call, active, absent, enough, rfl⟩ := step_readHeader moved
  have reading := invariant.reading call active
  refine ⟨invariant.short, invariant.pending, invariant.served, fun busy => (nomatch busy),
    fun reader same => ?_, invariant.consumed, invariant.matched⟩
  obtain rfl := Option.some.inj same
  refine ⟨?_, reading.requests, reading.owed, reading.earlier, reading.short, reading.behind,
    reading.before, fun header present => ?_⟩
  · have before := reading.stream
    simp only [taken, absent, Option.getD_none, List.nil_append] at before
    simp only [taken, Option.getD_some, unread, ← List.append_assoc, List.take_append_drop]
    exact before
  · obtain rfl := Option.some.inj present
    rw [List.length_take, Nat.min_eq_left enough]

/-- A call that returns keeps the invariant when its result does. -/
theorem invariant_finish (invariant : Invariant session)
    (active : session.active = some call) {consumed rest : List StreamByte}
    {result : Except Error EncapsPacket}
    (split : consumed ++ rest ++ session.inFlight = taken call ++ session.unread)
    (own : ∀ reply, result = .ok reply →
      (session.RepliedByOwnAnswer (call.returned consumed result) reply ↔
        call.owed = [] ∧ call.behind = [] ∧ call.packet.Fits)) :
    Invariant (session.finish call consumed rest result) := by
  have reading := invariant.reading call active
  have known : ∀ byte ∈ taken call ++ session.unread, byte.number < session.served.length := by
    intro byte member
    rw [reading.stream] at member
    rcases List.mem_append.mp member with owed | answer
    · exact (reading.owed byte owed).trans_le reading.earlier
    · have bound := (number_of_mem_answerStream answer).2
      rwa [List.length_drop, Nat.add_sub_cancel' reading.earlier] at bound
  rw [← split, List.append_assoc] at known
  refine ⟨invariant.short, invariant.pending, invariant.served, fun _ byte member => ?_, nofun,
    fun done member => ?_, fun done member => ?_⟩
  · exact known byte (List.mem_append_right _ member)
  · rw [finish_done] at member
    rcases List.mem_append.mp member with before | last
    · exact invariant.consumed done before
    · rw [List.mem_singleton.mp last]
      exact fun byte read => known byte (List.mem_append_left _ read)
  · rw [finish_done] at member
    rcases List.mem_append.mp member with before | last
    · exact invariant.matched done before
    · rw [List.mem_singleton.mp last]
      exact own

/-- What reading the data does: the call returns with the checked reply. -/
theorem step_readData (moved : session.step .readData = some next) :
    ∃ call header, session.active = some call ∧ call.header = some header ∧
      EncapsPacket.lengthFromHeader (streamBytes header) ≤ session.arrived.length ∧
      next = session.finish call
        (header ++ session.arrived.take (EncapsPacket.lengthFromHeader (streamBytes header)))
        (session.arrived.drop (EncapsPacket.lengthFromHeader (streamBytes header)))
        (checkReply session.sessionHandle (streamBytes (header ++
          session.arrived.take (EncapsPacket.lengthFromHeader (streamBytes header))))) := by
  simp only [step] at moved
  cases active : session.active with
  | none => rw [active] at moved; cases moved
  | some call =>
    simp only [active, Option.ite_none_right_eq_some, Option.some.injEq] at moved
    obtain ⟨⟨present, enough⟩, rfl⟩ := moved
    obtain ⟨header, present⟩ := Option.isSome_iff_exists.mp present
    simp only [wanted, taken, present, Option.getD_some] at enough ⊢
    exact ⟨call, header, rfl, present, enough, rfl⟩

/-- A complete read takes bytes off what is to be read. -/
theorem split_readData (session : SessionState) {header : List StreamByte}
    (present : call.header = some header) (count : Nat) :
    header ++ session.arrived.take count ++ (session.arrived.drop count ++ session.inFlight) =
      taken call ++ session.unread := by
  rw [taken, present, Option.getD_some, unread, List.append_assoc,
    ← List.append_assoc (session.arrived.take count), List.take_append_drop]

theorem invariant_readData (invariant : Invariant session)
    (moved : session.step .readData = some next) : Invariant next := by
  obtain ⟨call, header, active, present, enough, rfl⟩ := step_readData moved
  have split := split_readData session present
    (EncapsPacket.lengthFromHeader (streamBytes header))
  refine invariant_finish invariant active ?_ fun reply accepted => ?_
  · rw [List.append_assoc]
    exact split
  · refine repliedByOwnAnswer_iff (invariant.reading call active) present ?_ split accepted _
    rw [List.length_take, Nat.min_eq_left enough]

/-- What a read that times out does: the bytes it has taken are gone. -/
theorem step_timeout (moved : session.step .timeout = some next) :
    ∃ call, session.active = some call ∧
      next = session.finish call (taken call ++ session.arrived) [] (.error .io) := by
  simp only [step] at moved
  cases active : session.active with
  | none => rw [active] at moved; cases moved
  | some call =>
    simp only [active, Option.ite_none_right_eq_some, Option.some.injEq] at moved
    exact ⟨call, rfl, moved.2.symm⟩

theorem invariant_timeout (invariant : Invariant session)
    (moved : session.step .timeout = some next) : Invariant next := by
  obtain ⟨call, active, rfl⟩ := step_timeout moved
  refine invariant_finish invariant active ?_ fun reply failed => nomatch failed
  rw [List.append_nil, unread, List.append_assoc]

theorem invariant_step (event : SessionEvent) (invariant : Invariant session)
    (moved : session.step event = some next) : Invariant next := by
  cases event with
  | write => exact invariant_write invariant moved
  | writeFails => exact invariant_writeFails invariant moved
  | deliver => exact invariant_deliver invariant moved
  | readHeader => exact invariant_readHeader invariant moved
  | readData => exact invariant_readData invariant moved
  | timeout => exact invariant_timeout invariant moved

theorem invariant_run {events : List SessionEvent}
    (reached : sessionMachine.run connect events = some session) : Invariant session :=
  sessionMachine.invariant_run (fun _ event _ holds moved => invariant_step event holds moved)
    invariant_connect reached

/-! ### Runs without a timeout -/

/-- Nothing is in the way of any call: between calls all answers have been read and the device has
kept nothing, and no call is or was owed anything or wrote into the middle of a packet. -/
structure InStep (session : SessionState) : Prop where
  idle : session.active = none → session.unread = []
  pending : session.pending = []
  active : ∀ call, session.active = some call →
    call.owed = [] ∧ call.behind = [] ∧ call.packet.Fits
  done : ∀ call ∈ session.done, call.owed = [] ∧ call.behind = [] ∧ call.packet.Fits

theorem inStep_connect : InStep connect where
  idle _ := rfl
  pending := rfl
  active _ active := nomatch active
  done _ member := absurd member List.not_mem_nil

/-- A packet that fits and is written whole is answered by itself. -/
theorem whole_of_sent {packet : EncapsPacket} (sends : Sent session sent packet.encode new)
    (kept : session.pending = []) (fits : packet.Fits) :
    sent.pending = [] ∧ ∃ answer, new = [⟨packet.stream session.writes, answer⟩] := by
  have requests := sends.requests
  rw [cutAfter, kept, List.nil_append] at requests
  have alone := measures_frontSize.cut_unit
    ((@frontSize_stream_iff packet session.writes).mpr fits)
  obtain ⟨request, pending⟩ := Prod.mk.inj (alone.symm.trans requests)
  obtain ⟨⟨bytes, answer⟩, only, same⟩ := List.map_eq_singleton_iff.mp request.symm
  obtain rfl : bytes = _ := same
  exact ⟨pending.symm, answer, only⟩

/-- A write that sends nothing is not answered. -/
theorem nothing_of_sent (sends : Sent session sent [] new) (kept : session.pending = []) :
    sent.pending = [] ∧ new = [] := by
  have requests := sends.requests
  rw [cutAfter, kept] at requests
  obtain ⟨request, pending⟩ := Prod.mk.inj (measures_frontSize.cut_nil.symm.trans requests)
  exact ⟨pending.symm, List.map_eq_nil_iff.mp request.symm⟩

/-- Only a timeout leaves bytes of an answer behind, and only a write that sends a part of its
packet leaves the device in the middle of one. -/
theorem inStep_step {event : SessionEvent} (invariant : Invariant session)
    (inStep : InStep session) (whole : event.Whole) (prompt : event ≠ .timeout)
    (moved : session.step event = some next) : InStep next := by
  cases event with
  | write thread packet answers =>
    obtain ⟨idle, sent, new, sends, _, rfl⟩ := step_write moved
    obtain ⟨kept, _⟩ := whole_of_sent sends inStep.pending whole
    refine ⟨fun busy => (nomatch busy), kept, fun call active => ?_, ?_⟩
    · obtain rfl := Option.some.inj active
      exact ⟨inStep.idle idle, inStep.pending, whole⟩
    · rw [sends.same]
      exact inStep.done
  | writeFails packet count answers =>
    obtain ⟨idle, sent, new, sends, rfl⟩ := step_writeFails moved
    obtain rfl : count = 0 := whole
    obtain ⟨kept, rfl⟩ := nothing_of_sent sends inStep.pending
    refine ⟨fun _ => ?_, kept, ?_, ?_⟩
    · rw [sends.same]
      dsimp only [unread, answerStream]
      rw [List.append_nil]
      exact inStep.idle idle
    · rw [sends.same]
      exact inStep.active
    · rw [sends.same]
      exact inStep.done
  | deliver count =>
    simp only [step, Option.ite_none_right_eq_some, Option.some.injEq] at moved
    obtain ⟨_, rfl⟩ := moved
    refine ⟨?_, inStep.pending, inStep.active, inStep.done⟩
    rw [unread_deliver]
    exact inStep.idle
  | readHeader =>
    obtain ⟨call, active, _, _, rfl⟩ := step_readHeader moved
    refine ⟨fun busy => (nomatch busy), inStep.pending, fun reader same => ?_, inStep.done⟩
    obtain rfl := Option.some.inj same
    exact inStep.active call active
  | readData =>
    obtain ⟨call, header, active, present, enough, rfl⟩ := step_readData moved
    obtain ⟨owed, behind, fits⟩ := inStep.active call active
    have reading := invariant.reading call active
    have split := split_readData session present
      (EncapsPacket.lengthFromHeader (streamBytes header))
    obtain ⟨answer, only, own⟩ := reading.own present
      (by rw [List.length_take, Nat.min_eq_left enough]) split owed behind fits
    refine ⟨fun _ => ?_, inStep.pending, nofun, fun done member => ?_⟩
    · rw [own, reading.stream, owed, only, List.nil_append] at split
      exact List.append_right_eq_self.mp (split.trans (List.append_nil _))
    · rw [finish_done] at member
      rcases List.mem_append.mp member with before | last
      · exact inStep.done done before
      · rw [List.mem_singleton.mp last]
        exact ⟨owed, behind, fits⟩
  | timeout => exact absurd rfl prompt

/-- As long as no read times out and every write is whole, nothing is in the way of any call. -/
theorem inStep_run {events : List SessionEvent}
    (clean : ∀ event ∈ events, event.Whole ∧ event ≠ .timeout)
    (reached : sessionMachine.run connect events = some session) : InStep session := by
  have preserved : ∀ state event next, Invariant state ∧ InStep state →
      event.Whole ∧ event ≠ SessionEvent.timeout → sessionMachine.step state event = some next →
      Invariant next ∧ InStep next := fun _ event _ holds clean moved =>
    ⟨invariant_step event holds.1 moved, inStep_step holds.1 holds.2 clean.1 clean.2 moved⟩
  exact (sessionMachine.invariant_of_meets preserved ⟨invariant_connect, inStep_connect⟩
    (sessionMachine.meets_of_forall_mem clean) reached).2

end SessionState

/-! ### Request and reply matching -/

/-- A call that returns a reply returns the device's answer to the packet this very call wrote
exactly when, as the call took the stream, no byte of an earlier answer was still to be read and
the device was between two packets, and the packet fits its length field. As long as no read times
out and every write sends nothing or the whole of a packet that fits, this is so of every call. -/
theorem sendAndReceive_ownAnswer_iff {events : List SessionEvent} {session : SessionState}
    (reached : sessionMachine.run SessionState.connect events = some session) :
    (∀ call ∈ session.done, ∀ reply, call.result = .ok reply →
      (session.RepliedByOwnAnswer call reply ↔
        call.owed = [] ∧ call.behind = [] ∧ call.packet.Fits)) ∧
    ((∀ event ∈ events, event.Whole ∧ event ≠ .timeout) →
      ∀ call ∈ session.done, call.owed = [] ∧ call.behind = [] ∧ call.packet.Fits) :=
  ⟨(SessionState.invariant_run reached).matched,
    fun clean => (SessionState.inStep_run clean reached).done⟩

/-- A reply frame with one data byte on session 7. -/
def sampleReply (command : EncapsCommand) (data : UInt8) : Frame where
  packet := EncapsPacket.new command 7 [data]
  fits := show 1 < 2 ^ 16 by decide

def sampleRequest : EncapsPacket := EncapsPacket.new EncapsCommand.sendRrData 7 []

/-- Register, and a request whose write fails before it has sent anything; then a request whose
reply arrives in two pieces, and another one. -/
def inTime : List SessionEvent :=
  [.write 0 EncapsPacket.registerSession [sampleReply EncapsCommand.registerSession 1],
    .deliver 25, .readHeader, .readData, .writeFails sampleRequest 0 [],
    .write 1 sampleRequest [sampleReply EncapsCommand.sendRrData 10],
    .deliver 10, .deliver 15, .readHeader, .readData,
    .write 2 sampleRequest [sampleReply EncapsCommand.sendRrData 20],
    .deliver 25, .readHeader, .readData]

/-- Each of them reads its own answer. -/
theorem sendAndReceive_ownAnswer_iff_inTime :
    ∃ session call, sessionMachine.run SessionState.connect inTime = some session ∧
      session.done[2]? = some call ∧ call.thread = 2 ∧
      session.RepliedByOwnAnswer call (sampleReply EncapsCommand.sendRrData 20).packet := by
  obtain ⟨matched, clean⟩ := @sendAndReceive_ownAnswer_iff inTime _ rfl
  refine ⟨_, _, rfl, rfl, rfl, (matched _ (List.mem_of_getElem? (i := 2) rfl) _ rfl).mpr
    (clean ?_ _ (List.mem_of_getElem? (i := 2) rfl))⟩
  simp [inTime, SessionEvent.Whole, EncapsPacket.Fits, sampleRequest, EncapsPacket.new,
    EncapsPacket.registerSession]

/-- Register, then a request whose reply comes only after the read timed out, then another. -/
def lateReply : List SessionEvent :=
  [.write 0 EncapsPacket.registerSession [sampleReply EncapsCommand.registerSession 1],
    .deliver 25, .readHeader, .readData,
    .write 0 sampleRequest [sampleReply EncapsCommand.sendRrData 10], .timeout,
    .write 1 sampleRequest [sampleReply EncapsCommand.sendRrData 20],
    .deliver 50, .readHeader, .readData]

/-- After a timeout the next call returns the late answer to the call before it. -/
theorem sendAndReceive_late_reply :
    ¬ ∀ (events : List SessionEvent) (session : SessionState) (call : DoneCall)
        (reply : EncapsPacket),
      sessionMachine.run SessionState.connect events = some session →
      call ∈ session.done → call.result = .ok reply →
      session.RepliedByOwnAnswer call reply := by
  intro matching
  have own := matching lateReply _ _ _ rfl (List.mem_of_getElem? (i := 2) rfl) rfl
  obtain ⟨owed, _⟩ := ((@SessionState.invariant_run _ lateReply rfl).matched _
    (List.mem_of_getElem? (i := 2) rfl) _ rfl).mp own
  exact absurd owed (by decide)

end EipScanner
