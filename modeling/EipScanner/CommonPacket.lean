/-
This file models the common packet format as the implicit messages use it: a packet
of two items, the sequenced address and the connected data. The encoder writes into
a buffer that the caller reuses and clears it first; the decoder reads the items in
place and refuses anything that is not such a packet.

The two agree: what the encoder writes is decoded to the connection ID, the sequence
number and the concatenated payload parts, as long as the payload has a length that
the 16-bit length field can hold. The length field is the low 16 bits of the payload
length whatever that is.
-/

import EipScanner.Buf

namespace EipScanner

structure CommonPacketItemId where
  code : UInt16
  deriving DecidableEq, Repr

namespace CommonPacketItemId

def nullAddress : CommonPacketItemId := ⟨0x0000⟩
def listIdentity : CommonPacketItemId := ⟨0x000C⟩
def connectionAddress : CommonPacketItemId := ⟨0x00A1⟩
def connectedTransportPacket : CommonPacketItemId := ⟨0x00B1⟩
def unconnectedMessage : CommonPacketItemId := ⟨0x00B2⟩
def o2tSockaddrInfo : CommonPacketItemId := ⟨0x8000⟩
def t2oSockaddrInfo : CommonPacketItemId := ⟨0x8001⟩
def sequencedAddress : CommonPacketItemId := ⟨0x8002⟩

def names : List (Nat × String) :=
  [(0x0000, "NULL_ADDRESS"), (0x000C, "LIST_IDENTITY"), (0x00A1, "CONNECTION_ADDRESS"),
    (0x00B1, "CONNECTED_TRANSPORT_PACKET"), (0x00B2, "UNCONNECTED_MESSAGE"),
    (0x8000, "O2T_SOCKADDR_INFO"), (0x8001, "T2O_SOCKADDR_INFO"), (0x8002, "SEQUENCED_ADDRESS")]

def text (id : CommonPacketItemId) : String :=
  wireCodeText "CommonPacketItemId" names id.code.toNat

end CommonPacketItemId

structure CommonPacketItem where
  typeId : CommonPacketItemId
  data : Bytes
  deriving DecidableEq, Repr

/-- An implicit (class 0/1) packet: sequenced address item plus connected data item. -/
structure ConnectedPacket where
  connectionId : UInt32
  sequenceNumber : UInt32
  data : Bytes
  deriving DecidableEq, Repr

/-- Decodes an implicit packet. -/
def decodeConnectedPacket (buf : Bytes) : Except Error ConnectedPacket := do
  let (count, buf) ← tryGetU16 buf
  if count < 2 then
    throw (.invalidPacket s!"implicit packet has {count} items, expected 2")
  let (addrCode, buf) ← tryGetU16 buf
  let addrType : CommonPacketItemId := ⟨addrCode⟩
  let (addrLen, buf) ← tryGetU16 buf
  if addrType ≠ CommonPacketItemId.sequencedAddress ∨ addrLen ≠ 8 then
    throw (.invalidPacket
      s!"implicit packet address item is {addrType.text} with length {addrLen}")
  let (connectionId, buf) ← tryGetU32 buf
  let (sequenceNumber, buf) ← tryGetU32 buf
  let (dataCode, buf) ← tryGetU16 buf
  let dataType : CommonPacketItemId := ⟨dataCode⟩
  if dataType ≠ CommonPacketItemId.connectedTransportPacket then
    throw (.invalidPacket s!"implicit packet data item is {dataType.text}")
  let (len, buf) ← tryGetU16 buf
  if buf.length < len.toNat then
    throw (.truncated len.toNat buf.length)
  return { connectionId, sequenceNumber, data := buf.take len.toNat }

/-- The address item and the type of the data item: everything in front of the data length. -/
def connectedPacketHead (connectionId sequenceNumber : UInt32) : Bytes :=
  putU16 2 ++ (putU16 CommonPacketItemId.sequencedAddress.code ++ (putU16 8 ++
    (putU32 connectionId ++ (putU32 sequenceNumber ++
      putU16 CommonPacketItemId.connectedTransportPacket.code))))

/-- Encodes an implicit packet from payload parts. The buffer is cleared first, so what it held
does not matter. -/
def encodeConnectedPacket (_out : Bytes) (connectionId sequenceNumber : UInt32)
    (parts : List Bytes) : Bytes :=
  let len := (parts.map List.length).sum
  connectedPacketHead connectionId sequenceNumber ++ (putU16 (UInt16.ofNat len) ++ parts.flatten)

@[simp]
theorem length_connectedPacketHead (connectionId sequenceNumber : UInt32) :
    (connectedPacketHead connectionId sequenceNumber).length = 16 := by
  simp only [connectedPacketHead, List.length_append, length_putU16, length_putU32]

/-- The bytes of the data item, after its length field. -/
def connectedData (packet : Bytes) : Bytes := packet.drop 18

/-- The length field of the data item. -/
def connectedDataLength (packet : Bytes) : Nat :=
  LittleEndian.number ((packet.drop 16).take 2)

theorem connectedData_encode (out : Bytes) (connectionId sequenceNumber : UInt32)
    (parts : List Bytes) :
    connectedData (encodeConnectedPacket out connectionId sequenceNumber parts) =
      parts.flatten := by
  rw [connectedData, encodeConnectedPacket, ← List.append_assoc]
  refine List.drop_left' ?_
  rw [List.length_append, length_connectedPacketHead, length_putU16]

theorem connectedDataLength_encode (out : Bytes) (connectionId sequenceNumber : UInt32)
    (parts : List Bytes) :
    connectedDataLength (encodeConnectedPacket out connectionId sequenceNumber parts) =
      parts.flatten.length % 2 ^ 16 := by
  rw [connectedDataLength, encodeConnectedPacket,
    List.drop_left' (length_connectedPacketHead connectionId sequenceNumber),
    List.take_left' (length_putU16 _), putU16, LittleEndian.number_digits_of_lt
      (UInt16.toNat_lt _), UInt16.toNat_ofNat', List.length_flatten]

/-- The sequence number of the address item. -/
def connectedSequenceNumber (packet : Bytes) : Nat :=
  LittleEndian.number ((packet.drop 10).take 4)

theorem connectedSequenceNumber_encode (out : Bytes) (connectionId sequenceNumber : UInt32)
    (parts : List Bytes) :
    connectedSequenceNumber (encodeConnectedPacket out connectionId sequenceNumber parts) =
      sequenceNumber.toNat := by
  have front : (putU16 2 ++ putU16 CommonPacketItemId.sequencedAddress.code ++ putU16 8 ++
      putU32 connectionId).length = 10 := by
    simp only [List.length_append, length_putU16, length_putU32]
  have split : encodeConnectedPacket out connectionId sequenceNumber parts =
      (putU16 2 ++ putU16 CommonPacketItemId.sequencedAddress.code ++ putU16 8 ++
        putU32 connectionId) ++ (putU32 sequenceNumber ++
          (putU16 CommonPacketItemId.connectedTransportPacket.code ++
            (putU16 (UInt16.ofNat (parts.map List.length).sum) ++ parts.flatten))) := by
    simp only [encodeConnectedPacket, connectedPacketHead, List.append_assoc]
  rw [connectedSequenceNumber, split, List.drop_left' front, List.take_left' (length_putU32 _),
    putU32, LittleEndian.number_digits_of_lt (UInt32.toNat_lt _)]

/-- A count of two or more and the fields of the two items are decoded, whatever follows them. -/
theorem decodeConnectedPacket_of_fields {count : UInt16} (twoItems : 2 ≤ count)
    (connectionId sequenceNumber : UInt32) {data : Bytes} (fits : data.length < 2 ^ 16)
    (trailing : Bytes) :
    decodeConnectedPacket (putU16 count ++ (putU16 CommonPacketItemId.sequencedAddress.code ++
        (putU16 8 ++ (putU32 connectionId ++ (putU32 sequenceNumber ++
          (putU16 CommonPacketItemId.connectedTransportPacket.code ++
            (putU16 (UInt16.ofNat data.length) ++ (data ++ trailing)))))))) =
      .ok { connectionId, sequenceNumber, data } := by
  have length : (UInt16.ofNat data.length).toNat = data.length := UInt16.toNat_ofNat_of_lt' fits
  have address : ¬ ((⟨CommonPacketItemId.sequencedAddress.code⟩ : CommonPacketItemId) ≠
      CommonPacketItemId.sequencedAddress ∨ (8 : UInt16) ≠ 8) := by decide
  have dataType : ¬ (⟨CommonPacketItemId.connectedTransportPacket.code⟩ : CommonPacketItemId) ≠
      CommonPacketItemId.connectedTransportPacket := by decide
  have enough : ¬ (data ++ trailing).length < data.length := by
    rw [List.length_append]
    omega
  rw [decodeConnectedPacket, tryGetU16_putU16, ok_bind]
  dsimp only
  rw [if_neg (UInt16.not_lt.mpr twoItems)]
  simp only [tryGetU16_putU16, ok_bind, tryGetU32_putU32]
  rw [if_neg address, if_neg dataType, length, if_neg enough, List.take_left]
  rfl

/-- A payload that the length field can hold is decoded as it was encoded. -/
theorem decode_encodeConnectedPacket (out : Bytes) (connectionId sequenceNumber : UInt32)
    {parts : List Bytes} (fits : parts.flatten.length < 2 ^ 16) :
    decodeConnectedPacket (encodeConnectedPacket out connectionId sequenceNumber parts) =
      .ok { connectionId, sequenceNumber, data := parts.flatten } := by
  have read :=
    decodeConnectedPacket_of_fields (UInt16.le_refl 2) connectionId sequenceNumber fits []
  rw [List.append_nil, List.length_flatten] at read
  simp only [encodeConnectedPacket, connectedPacketHead, List.append_assoc]
  exact read

end EipScanner
