/-
This file models how a receiver takes encapsulation packets off a byte stream: a header
of 24 bytes, as many bytes as the header announces, and the decoder over both. The
decoder checks that length again, so it accepts what the encoder writes for a packet that
fits its length field, and nothing else. A stream of such packets therefore splits into
exactly these packets.

The session's calls read the stream in the same way: whatever packet is first in the
socket buffer is what the two reads of a call take from it.
-/

import EipScanner.SelfDelimiting
import EipScanner.Session

namespace EipScanner

open SelfDelimiting

namespace EncapsPacket

/-! ### Encoding what was decoded -/

theorem toList_senderContext {buf : Bytes} (enough : 8 ≤ buf.length) :
    (Vector.ofFn fun index : Fin 8 => buf.getD index 0).toList = buf.take 8 := by
  refine List.ext_getElem ?_ fun index left right => ?_
  · rw [Vector.length_toList, List.length_take_of_le enough]
  · rw [Vector.length_toList] at left
    rw [Vector.getElem_toList, Vector.getElem_ofFn, List.getElem_take]
    exact List.getD_eq_getElem _ _ (left.trans_le enough)

/-- What is decoded is encoded to the same bytes, and its data fit the length field. -/
theorem encode_of_decode {data : Bytes} {packet : EncapsPacket}
    (decoded : decode data = .ok packet) : packet.Fits ∧ packet.encode = data := by
  unfold decode at decoded
  split at decoded
  · exact absurd decoded nofun
  next long =>
    have enough : 24 ≤ data.length := Nat.le_of_not_lt long
    dsimp only at decoded
    split at decoded
    · exact absurd decoded nofun
    next length =>
      have length := not_not.mp length
      obtain rfl := Except.ok.inj decoded
      refine ⟨?_, ?_⟩
      · rw [Fits, length]
        exact UInt16.toNat_lt _
      · simp only [encode, length, UInt16.ofNat_toNat]
        rw [toList_senderContext, putU32_getU32, List.take_append_drop, putU32_getU32,
          putU32_getU32, putU16_getU16, putU16_getU16 (Nat.le_trans (by decide) enough)]
        all_goals
          simp only [List.length_drop, length_getU16, length_getU32]
          omega

/-- The decoder accepts exactly the encodings of the packets that fit. -/
theorem decode_eq_ok_iff {data : Bytes} {packet : EncapsPacket} :
    decode data = .ok packet ↔ packet.Fits ∧ data = packet.encode := by
  constructor
  · intro decoded
    obtain ⟨fits, same⟩ := encode_of_decode decoded
    exact ⟨fits, same.symm⟩
  · rintro ⟨fits, rfl⟩
    exact Frame.decode_bytes ⟨packet, fits⟩

/-! ### Reading a stream -/

/-- Read one packet off a stream. A stream that ends early is an I/O error. -/
def receive (stream : Bytes) : Except Error (EncapsPacket × Bytes) := do
  if stream.length < headerSize then
    throw .io
  let header := stream.take headerSize
  let stream := stream.drop headerSize
  let length := lengthFromHeader header
  if stream.length < length then
    throw .io
  let packet ← decode (header ++ stream.take length)
  return (packet, stream.drop length)

/-- Read packets until the stream ends. -/
def receiveAll (stream : Bytes) : Except Error (List EncapsPacket × Bytes) :=
  readMany receive stream.length stream

/-- A packet is received from its own encoding and from nothing else. -/
theorem exact : Exact Fits encode receive where
  read_write packet rest fits := by
    let frame : Frame := ⟨packet, fits⟩
    have length : packet.encode.length = headerSize + packet.data.length := frame.length_bytes
    have header : (packet.encode ++ rest).take headerSize = packet.encode.take headerSize :=
      List.take_append_of_le_length (by omega)
    have announced : lengthFromHeader (packet.encode.take headerSize) = packet.data.length :=
      frame.lengthFromHeader_bytes
    have whole : packet.encode.take headerSize ++
        ((packet.encode ++ rest).drop headerSize).take packet.data.length = packet.encode := by
      rw [← header, ← List.take_add, ← length, List.take_left]
    have left : ((packet.encode ++ rest).drop headerSize).drop packet.data.length = rest := by
      rw [List.drop_drop, ← length, List.drop_left]
    have long : ¬ (packet.encode ++ rest).length < headerSize := by
      rw [List.length_append]
      omega
    have enough : ¬ ((packet.encode ++ rest).drop headerSize).length < packet.data.length := by
      rw [List.length_drop, List.length_append]
      omega
    rw [receive, if_neg long]
    dsimp only
    rw [header, announced, if_neg enough, whole, left, decode_eq_ok_iff.mpr ⟨fits, rfl⟩]
    rfl
  write_ne_nil packet fits := by
    have length : packet.encode.length = headerSize + packet.data.length :=
      Frame.length_bytes ⟨packet, fits⟩
    rw [← List.length_pos_iff, length]
    exact Nat.lt_of_lt_of_le (by decide) (Nat.le_add_right _ _)
  written stream packet rest received := by
    unfold receive at received
    dsimp only at received
    split at received
    · exact absurd received nofun
    split at received
    · exact absurd received nofun
    obtain ⟨other, decoded, received⟩ := bind_eq_ok_iff.mp received
    obtain ⟨rfl, rfl⟩ := Prod.mk.inj (Except.ok.inj received)
    obtain ⟨fits, same⟩ := decode_eq_ok_iff.mp decoded
    refine ⟨fits, ?_⟩
    rw [← same, List.append_assoc, List.take_append_drop, List.take_append_drop]

/-- Framing. Encoding and decoding are inverse to each other, on every packet that fits and on
every byte string that is decoded; and a stream of packets that fit is received as exactly these
packets, with nothing left over. -/
theorem framing :
    (∀ packet : EncapsPacket, packet.data.length ≤ 65535 → decode packet.encode = .ok packet) ∧
      (∀ (bytes : Bytes) (packet : EncapsPacket), decode bytes = .ok packet →
        packet.encode = bytes) ∧
      ∀ packets : List EncapsPacket, (∀ packet ∈ packets, packet.data.length ≤ 65535) →
        receiveAll (packets.flatMap encode) = .ok (packets, []) := by
  refine ⟨fun packet short => decode_eq_ok_iff.mpr ⟨Nat.lt_succ_of_le short, rfl⟩,
    fun bytes packet decoded => (encode_of_decode decoded).2, fun packets short => ?_⟩
  have fits : ∀ packet ∈ packets, packet.Fits :=
    fun packet member => Nat.lt_succ_of_le (short packet member)
  exact exact.readMany_write fits (exact.length_le_flatMap fits)

/-- A stream of a Register Session and a packet without data. -/
theorem framing_two :
    let packets := [registerSession, sendRrData 7 0 []]
    receiveAll (packets.flatMap encode) = .ok (packets, []) :=
  framing.2.2 [registerSession, sendRrData 7 0 []] (by decide)

end EncapsPacket

/-! ### The reads of a session -/

/-- A call that reads its header and its data takes the first packet of the socket buffer, checks
it, and leaves the rest. -/
theorem session_receives {session : SessionState} {call : ActiveCall}
    (active : session.active = some call) (fresh : call.header = none) {packet : EncapsPacket}
    {rest : Bytes}
    (received : EncapsPacket.receive (streamBytes session.arrived) = .ok (packet, rest)) :
    ∃ after consumed, sessionMachine.run session [.readHeader, .readData] = some after ∧
      streamBytes after.arrived = rest ∧ streamBytes consumed = packet.encode ∧
      after.done = session.done ++ [call.returned consumed
        (SessionState.checkReply session.sessionHandle packet.encode)] := by
  obtain ⟨fits, split⟩ := EncapsPacket.exact.read_eq_ok_iff.mp received
  let frame : Frame := ⟨packet, fits⟩
  have length : packet.encode.length = headerSize + packet.data.length := frame.length_bytes
  have total : session.arrived.length = packet.encode.length + rest.length := by
    rw [← List.length_append, ← split, streamBytes, List.length_map]
  have header : streamBytes (session.arrived.take headerSize) =
      packet.encode.take headerSize := by
    rw [streamBytes_take, split, List.take_append_of_le_length (by omega)]
  have announced : EncapsPacket.lengthFromHeader
      (streamBytes (session.arrived.take headerSize)) = packet.data.length := by
    rw [header]
    exact frame.lengthFromHeader_bytes
  have whole : streamBytes (session.arrived.take headerSize ++
      (session.arrived.drop headerSize).take packet.data.length) = packet.encode := by
    rw [← List.take_add, ← length, streamBytes_take, split, List.take_left]
  have left : streamBytes ((session.arrived.drop headerSize).drop packet.data.length) = rest := by
    rw [List.drop_drop, ← length, streamBytes_drop, split, List.drop_left]
  have enough : headerSize ≤ session.arrived.length := by omega
  have more : packet.data.length ≤ (session.arrived.drop headerSize).length := by
    rw [List.length_drop]
    omega
  let afterHeader : SessionState := { session with
    active := some { call with header := some (session.arrived.take headerSize) }
    arrived := session.arrived.drop headerSize }
  have readHeader : session.step .readHeader = some afterHeader := by
    simp only [SessionState.step, active, fresh, Option.isNone_none, true_and, if_pos enough]
    rfl
  have readData : afterHeader.step .readData = some (afterHeader.finish
      { call with header := some (session.arrived.take headerSize) }
      (session.arrived.take headerSize ++
        (session.arrived.drop headerSize).take packet.data.length)
      ((session.arrived.drop headerSize).drop packet.data.length)
      (SessionState.checkReply session.sessionHandle packet.encode)) := by
    simp only [SessionState.step, afterHeader, SessionState.wanted, SessionState.taken, announced,
      Option.isSome_some, true_and, if_pos more, Option.getD_some, whole]
  refine ⟨_, _, sessionMachine.run_cons.mpr ⟨afterHeader, readHeader, ?_⟩, left, whole,
    SessionState.finish_done _ _ _ _ _⟩
  rw [sessionMachine.run_singleton]
  exact readData

end EipScanner
