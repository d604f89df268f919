/-
This file models the message router: it encodes a request, puts it into a common packet
behind a null address, hands the packet to the session, and takes the response out of the
reply.

Four encoders are stacked on top of each other, and three of the length and count fields
they write are narrowed to 16 bits without a check. A request is handed to the session
whatever its size, so it is encoded consistently when all of it fits the outermost length
field, and only then. A request that fits is read back, layer by layer, as what it was
made from.

The session is a parameter. All that is asked of it is a handle and an answer to every
packet.
-/

import EipScanner.EPath
import EipScanner.MessageRouterResponse
import EipScanner.PacketStream

namespace EipScanner

/-! ### Sessions -/

/-- An encapsulation session used for explicit messaging. -/
structure Session (State : Type) where
  sessionHandle : State → UInt32
  /-- Sends a packet and waits for its reply. -/
  sendAndReceive : EncapsPacket → State → Except Error EncapsPacket × State

/-- The session that also keeps what it was handed. -/
def Session.recorded {State : Type} (session : Session State) :
    Session (State × List EncapsPacket) where
  sessionHandle state := session.sessionHandle state.1
  sendAndReceive packet state :=
    let (reply, next) := session.sendAndReceive packet state.1
    (reply, next, state.2 ++ [packet])

/-! ### Requests -/

/-- Encodes a message router request: service, path size in words, path, data. -/
def encodeRequest (service : ServiceCode) (path : EPath) (data : Bytes) (size : SegmentSize) :
    Bytes :=
  let path := path.encode size
  putU8 service.code ++ (putU8 (UInt8.ofNat (path.length / 2)) ++ (path ++ data))

/-- Sends unconnected explicit requests to a device's message router. -/
structure MessageRouter where
  segmentSize : SegmentSize
  deriving DecidableEq, Repr

namespace MessageRouter

/-- Encodes paths with 16-bit segments. -/
def new : MessageRouter := ⟨.bits16⟩

/-- Encodes paths with 8-bit segments where the IDs fit. -/
def with8bitPathSegments : MessageRouter := ⟨.bits8⟩

section
variable (router : MessageRouter) (service : ServiceCode) (path : EPath) (data : Bytes)
  (additionalItems : List CommonPacketItem)

def items : List CommonPacketItem :=
  .nullAddress :: .unconnectedData (encodeRequest service path data router.segmentSize) ::
    additionalItems

/-- The packet that is handed to a session with the handle. -/
def requestPacket (sessionHandle : UInt32) : EncapsPacket :=
  EncapsPacket.sendRrData sessionHandle 0
    (CommonPacket.encode ⟨router.items service path data additionalItems⟩)

end

/-! ### Replies -/

/-- The response in the data of a reply, with the items that follow it. -/
def decodeReplyWith {Outcome : Type → Type} [Monad Outcome] (reads : UncheckedReads Outcome)
    (data : Bytes) : Outcome (Except Error MessageRouterResponse) :=
  -- interface handle, timeout
  match trySkip 6 data >>= CommonPacket.decode with
  | .error refused => pure (.error refused)
  | .ok packet =>
    match packet.items.drop 1 with
    | [] => pure (.error (.invalidPacket "SendRRData reply has no data item"))
    | dataItem :: items => do
      let response ← MessageRouterResponse.decodeWith reads dataItem.data
      return response.map fun response => { response with additionalPacketItems := items }

def decodeReply (data : Bytes) : Except Error MessageRouterResponse :=
  (decodeReplyWith UncheckedReads.total data).run

section
variable {State : Type} (session : Session State) (router : MessageRouter)
  (service : ServiceCode) (path : EPath) (data : Bytes) (additionalItems : List CommonPacketItem)

/-- Sends a request with extra common packet items after the unconnected data item. -/
def sendRequestWithItemsOver {Outcome : Type → Type} [Monad Outcome]
    (reads : UncheckedReads Outcome) (state : State) :
    Outcome (Except Error MessageRouterResponse × State) :=
  let packet := router.requestPacket service path data additionalItems (session.sessionHandle state)
  match session.sendAndReceive packet state with
  | (.error refused, next) => pure (.error refused, next)
  | (.ok reply, next) => do
    let response ← decodeReplyWith reads reply.data
    return (response, next)

/-- Returns the response whatever its general status. -/
def sendRequestWithItems (state : State) : Except Error MessageRouterResponse × State :=
  (sendRequestWithItemsOver session router service path data additionalItems
    UncheckedReads.total state).run

def sendRequest (state : State) : Except Error MessageRouterResponse × State :=
  sendRequestWithItems session router service path data [] state

/-- What comes back: the session's error, or what the data of its reply are decoded to. -/
theorem sendRequestWithItems_eq (state : State) :
    sendRequestWithItems session router service path data additionalItems state =
      let answer := session.sendAndReceive (router.requestPacket service path data
        additionalItems (session.sessionHandle state)) state
      (answer.1 >>= fun reply => decodeReply reply.data, answer.2) := by
  unfold sendRequestWithItems sendRequestWithItemsOver
  dsimp only
  generalize router.requestPacket service path data additionalItems _ = packet
  generalize session.sendAndReceive packet state = answer
  obtain ⟨refused | reply, next⟩ := answer
  · rfl
  · rfl

end

/-! ### What is handed to the session -/

/-- The length and count fields of an encoded packet with the items say how much follows them. -/
structure Consistent (encoded : Bytes) (items : List CommonPacketItem) : Prop where
  length : EncapsPacket.lengthFromHeader (encoded.take headerSize) =
    (encoded.drop headerSize).length
  count : (getU16 (encoded.drop 30)).1.toNat = items.length
  layout : encoded.drop 32 = items.flatMap CommonPacketItem.encode
  itemLengths : ∀ item ∈ items, (getU16 (item.encode.drop 2)).1.toNat = item.data.length

theorem length_encodeRequest (service : ServiceCode) (path : EPath) (data : Bytes)
    (size : SegmentSize) :
    (encodeRequest service path data size).length =
      2 + (path.encode size).length + data.length := by
  simp only [encodeRequest, List.length_append, length_putU8]
  omega

theorem length_flatMap_encode (items : List CommonPacketItem) :
    (items.flatMap CommonPacketItem.encode).length =
      (items.map fun item => 4 + item.data.length).sum := by
  rw [List.length_flatMap]
  exact congrArg List.sum (List.map_congr_left fun item _ => item.length_encode)

section
variable {State : Type} (session : Session State) (router : MessageRouter)
  (service : ServiceCode) (path : EPath) (data : Bytes) (additionalItems : List CommonPacketItem)

/-- The number of data bytes of a request packet. -/
def requestSize : Nat :=
  18 + (path.encode router.segmentSize).length + data.length +
    (additionalItems.map fun item => 4 + item.data.length).sum

theorem length_requestPacket (sessionHandle : UInt32) :
    (router.requestPacket service path data additionalItems sessionHandle).data.length =
      router.requestSize path data additionalItems := by
  have request := length_encodeRequest service path data router.segmentSize
  simp only [requestPacket, EncapsPacket.sendRrData, EncapsPacket.new, CommonPacket.encode, items,
    List.flatMap_cons, List.length_append, length_putU32, length_putU16, length_flatMap_encode,
    CommonPacketItem.length_encode, CommonPacketItem.nullAddress,
    CommonPacketItem.unconnectedData, request, List.length_nil, requestSize]
  omega

/-- A request to the session that keeps its packets: it answers as the session does, and keeps one
packet more. -/
theorem sendRequestWithItems_recorded (state : State) (log : List EncapsPacket) :
    sendRequestWithItems session.recorded router service path data additionalItems (state, log) =
      let answered := sendRequestWithItems session router service path data additionalItems state
      (answered.1, answered.2, log ++ [router.requestPacket service path data additionalItems
        (session.sessionHandle state)]) := by
  rw [sendRequestWithItems_eq, sendRequestWithItems_eq]
  rfl

/-- Whatever the session answers, it is handed one packet. -/
theorem handed (state : State) :
    (sendRequestWithItems session.recorded router service path data additionalItems
        (state, [])).2.2 =
      [router.requestPacket service path data additionalItems (session.sessionHandle state)] := by
  rw [sendRequestWithItems_recorded]
  rfl

variable {router service path data additionalItems}

/-- Where all of a request fits the length field, all of its parts do. -/
theorem fits_items (fits : router.requestSize path data additionalItems ≤ 65535) :
    CommonPacket.Fits ⟨router.items service path data additionalItems⟩ := by
  have request := length_encodeRequest service path data router.segmentSize
  have each : ∀ item ∈ additionalItems, 4 + item.data.length ≤
      (additionalItems.map fun item => 4 + item.data.length).sum := by
    intro item member
    exact List.le_sum_of_mem (List.mem_map_of_mem member)
  have many : additionalItems.length ≤
      (additionalItems.map fun item => 4 + item.data.length).sum := by
    have length := List.length_le_sum_of_one_le (additionalItems.map fun item =>
      4 + item.data.length) fun _ member => by
        obtain ⟨item, -, rfl⟩ := List.mem_map.mp member
        omega
    rwa [List.length_map] at length
  unfold requestSize at fits
  refine ⟨?_, ?_⟩
  · simp only [items, List.length_cons]
    omega
  · refine List.forall_mem_cons.mpr ⟨by decide, List.forall_mem_cons.mpr ⟨?_, ?_⟩⟩
    · simp only [CommonPacketItem.Fits, CommonPacketItem.unconnectedData, request]
      omega
    · intro item member
      have bounded := each item member
      unfold CommonPacketItem.Fits
      omega

/-- What follows the header of a request packet: six bytes, the count, and the items. -/
theorem drop_encode_requestPacket (sessionHandle : UInt32) (start : Nat) :
    (router.requestPacket service path data additionalItems sessionHandle).encode.drop
        (headerSize + (6 + start)) =
      (CommonPacket.encode ⟨router.items service path data additionalItems⟩).drop start := by
  rw [← List.drop_drop, EncapsPacket.drop_encode, ← List.drop_drop]
  rfl

/-- Where the whole request fits, its fields are consistent. -/
theorem consistent_requestPacket (fits : router.requestSize path data additionalItems ≤ 65535)
    (sessionHandle : UInt32) :
    Consistent (router.requestPacket service path data additionalItems sessionHandle).encode
      (router.items service path data additionalItems) where
  length := by
    rw [EncapsPacket.lengthFromHeader_encode, EncapsPacket.drop_encode, length_requestPacket]
    exact Nat.mod_eq_of_lt (Nat.lt_succ_of_le fits)
  count := by
    rw [show 30 = headerSize + (6 + 0) from rfl, drop_encode_requestPacket, List.drop_zero,
      CommonPacket.encode, getU16_putU16]
    exact (fits_items fits).toNat_count
  layout := by
    rw [show 32 = headerSize + (6 + 2) from rfl, drop_encode_requestPacket, CommonPacket.encode]
    exact List.drop_left' (length_putU16 _)
  itemLengths item member := by
    have bounded := (fits_items fits).items item member
    rw [CommonPacketItem.encode, List.drop_left' (length_putU16 _), getU16_putU16]
    exact UInt16.toNat_ofNat_of_lt' bounded

/-- A request that is consistent fits. -/
theorem requestSize_le_of_consistent {sessionHandle : UInt32}
    (consistent : Consistent
      (router.requestPacket service path data additionalItems sessionHandle).encode
      (router.items service path data additionalItems)) :
    router.requestSize path data additionalItems ≤ 65535 := by
  have length := consistent.length
  rw [EncapsPacket.lengthFromHeader_encode, EncapsPacket.drop_encode, length_requestPacket]
    at length
  omega

end

/-- When no corrupted frame leaves the router: exactly when the request, with its path, its data
and its items, fits the length field of the encapsulation header. -/
theorem consistent_iff {State : Type} (session : Session State) (router : MessageRouter)
    (service : ServiceCode) (path : EPath) (data : Bytes) (additionalItems : List CommonPacketItem)
    (state : State) :
    (let sent := sendRequestWithItems session.recorded router service path data additionalItems
        (state, []);
      (∃ refused, sent.1 = .error refused) ∧ sent.2.2 = [] ∨
        ∃ packet, sent.2.2 = [packet] ∧
          Consistent packet.encode (router.items service path data additionalItems)) ↔
      18 + (path.encode router.segmentSize).length + data.length +
        (additionalItems.map fun item => 4 + item.data.length).sum ≤ 65535 := by
  dsimp only
  rw [handed]
  constructor
  · rintro (⟨-, nothing⟩ | ⟨packet, same, consistent⟩)
    · exact absurd nothing (List.cons_ne_nil _ _)
    · obtain rfl := List.head_eq_of_cons_eq same
      exact requestSize_le_of_consistent consistent
  · intro fits
    exact Or.inr ⟨_, rfl, consistent_requestPacket fits _⟩

/-- A session to a device that does not answer. -/
def silentSession : Session Unit where
  sessionHandle _ := 1
  sendAndReceive _ state := (.error .io, state)

/-- A request of 65514 bytes to a class makes 65536 bytes behind the header, which announces
none. -/
theorem inconsistent_sixtyFourKibibytes :
    let sent := sendRequestWithItems silentSession.recorded new ⟨0x4D⟩ (EPath.ofClass 4)
      (List.replicate 65514 0) [] ((), [])
    ¬ ((∃ refused, sent.1 = .error refused) ∧ sent.2.2 = [] ∨
        ∃ packet, sent.2.2 = [packet] ∧
          Consistent packet.encode
            (new.items ⟨0x4D⟩ (EPath.ofClass 4) (List.replicate 65514 0) [])) := by
  dsimp only
  rw [handed]
  rintro (⟨-, nothing⟩ | ⟨packet, same, consistent⟩)
  · exact absurd nothing (List.cons_ne_nil _ _)
  · obtain rfl := List.head_eq_of_cons_eq same
    have fits := requestSize_le_of_consistent consistent
    rw [requestSize, List.length_replicate] at fits
    exact absurd fits (by decide)

/-! ### Reading a request back -/

/-- A request as a device splits it. -/
structure RequestParts where
  service : ServiceCode
  path : Bytes
  data : Bytes
  deriving DecidableEq, Repr

/-- Splits a request into service byte, path size in words, path, data. -/
def RequestParts.decode (request : Bytes) : Except Error RequestParts := do
  let (service, buf) ← tryGetU8 request
  let (words, buf) ← tryGetU8 buf
  let (path, data) ← tryGetVec (words.toNat * 2) buf
  return ⟨⟨service⟩, path, data⟩

theorem RequestParts.decode_encodeRequest (service : ServiceCode) (path : EPath) (data : Bytes)
    (size : SegmentSize) :
    decode (encodeRequest service path data size) = .ok ⟨service, path.encode size, data⟩ := by
  have length := path.length_encode size
  have words : (UInt8.ofNat ((path.encode size).length / 2)).toNat * 2 =
      (path.encode size).length := by
    have few : (path.encode size).length / 2 < 256 := by omega
    rw [UInt8.toNat_ofNat_of_lt' few]
    omega
  rw [decode, encodeRequest, tryGetU8_putU8, ok_bind]
  dsimp only
  rw [tryGetU8_putU8, ok_bind]
  dsimp only
  rw [words, tryGetVec_append]
  rfl

/-- The items in a request packet that fits are read back. -/
theorem decode_requestPacket {router : MessageRouter} {service : ServiceCode} {path : EPath}
    {data : Bytes} {additionalItems : List CommonPacketItem}
    (fits : router.requestSize path data additionalItems ≤ 65535) (sessionHandle : UInt32) :
    (trySkip 6 (router.requestPacket service path data additionalItems sessionHandle).data >>=
        CommonPacket.decode) =
      .ok ⟨router.items service path data additionalItems⟩ := by
  have split : (router.requestPacket service path data additionalItems sessionHandle).data =
      (putU32 0 ++ putU16 0) ++
        CommonPacket.encode ⟨router.items service path data additionalItems⟩ :=
    (List.append_assoc _ _ _).symm
  have skip : trySkip 6 (router.requestPacket service path data additionalItems
      sessionHandle).data = .ok (CommonPacket.encode
        ⟨router.items service path data additionalItems⟩) := by
    rw [split]
    exact trySkip_append _ _
  rw [skip, ok_bind]
  exact CommonPacket.decode_encode (fits_items fits)

/-- The items of a request whose path is given in bytes. -/
def itemsWithPath (service : ServiceCode) (path data : Bytes)
    (additionalItems : List CommonPacketItem) : List CommonPacketItem :=
  .nullAddress ::
    .unconnectedData (putU8 service.code ++
      (putU8 (UInt8.ofNat (path.length / 2)) ++ (path ++ data))) ::
    additionalItems

/-- The request stack. What the session is handed is decoded layer by layer to the service, the
path, the data and the items of the request; and in the other segment size nothing but the bytes
of the path is different, which are decoded to the same path. -/
theorem request_round_trip {State : Type} (session : Session State) (router : MessageRouter)
    (service : ServiceCode) (path : EPath) (data : Bytes) (additionalItems : List CommonPacketItem)
    (state : State)
    (fits : (router.requestPacket service path data additionalItems
      (session.sessionHandle state)).data.length ≤ 65535) :
    (∃ (packet : EncapsPacket) (request : Bytes) (parts : RequestParts),
      (sendRequestWithItems session.recorded router service path data additionalItems
          (state, [])).2.2 = [packet] ∧
        EncapsPacket.decode packet.encode = .ok packet ∧
        (trySkip 6 packet.data >>= CommonPacket.decode) =
          .ok ⟨.nullAddress :: .unconnectedData request :: additionalItems⟩ ∧
        RequestParts.decode request = .ok parts ∧
        parts.service = service ∧ EPath.decode parts.path = .ok path ∧ parts.data = data) ∧
      ∀ way : MessageRouter, ∃ bytes : Bytes,
        way.items service path data additionalItems =
            itemsWithPath service bytes data additionalItems ∧
          EPath.decode bytes = .ok path := by
  have small : router.requestSize path data additionalItems ≤ 65535 := by
    rwa [← length_requestPacket router service path data additionalItems]
  refine ⟨⟨_, _, _, handed session router service path data additionalItems state,
    EncapsPacket.decode_eq_ok_iff.mpr ⟨Nat.lt_succ_of_le fits, rfl⟩,
    decode_requestPacket small _, RequestParts.decode_encodeRequest service path data _, rfl,
    path.decode_encode _, rfl⟩, fun way => ?_⟩
  exact ⟨path.encode way.segmentSize, rfl, path.decode_encode _⟩

/-- A request with an instance, small segments and an additional item. -/
theorem request_round_trip_instance :
    ∃ packet : EncapsPacket,
      (sendRequestWithItems silentSession.recorded with8bitPathSegments ⟨0x4B⟩
          (EPath.ofInstance 0x37 1) [255] [.connectedData [7]] ((), [])).2.2 = [packet] ∧
        EncapsPacket.decode packet.encode = .ok packet := by
  have fits : (with8bitPathSegments.requestPacket ⟨0x4B⟩ (EPath.ofInstance 0x37 1) [255]
      [.connectedData [7]] (silentSession.sessionHandle ())).data.length ≤ 65535 := by decide
  obtain ⟨⟨packet, -, -, handed, decoded, -⟩, -⟩ := request_round_trip silentSession
    with8bitPathSegments ⟨0x4B⟩ (EPath.ofInstance 0x37 1) [255] [.connectedData [7]] () fits
  exact ⟨packet, handed, decoded⟩

end MessageRouter

end EipScanner
