/-
This file gives the device's side of opening and closing an I/O connection: how a target takes
the two requests, what it keeps of a connection, and how it answers. A target knows a connection by
three numbers: the serial number that the originator gave it, and the originator's vendor ID and
serial number. A Forward Close names them again.

What matters to the originator is that a target that could read its Forward Open can read the
Forward Close as well, and finds in it the numbers and the path of that very request.
-/

import EipScanner.ForwardOpenBody
import EipScanner.OpenConnection

namespace EipScanner

/-! ### The numbers of a connection -/

/-- What a target knows a connection by. -/
structure ConnectionTriad where
  connectionSerialNumber : UInt16
  originatorVendorId : UInt16
  originatorSerialNumber : UInt32
  deriving DecidableEq, Repr

def ForwardOpenRequest.triad (request : ForwardOpenRequest) : ConnectionTriad :=
  ⟨request.connectionSerialNumber, request.originatorVendorId, request.originatorSerialNumber⟩

def ForwardCloseRequest.triad (request : ForwardCloseRequest) : ConnectionTriad :=
  ⟨request.connectionSerialNumber, request.originatorVendorId, request.originatorSerialNumber⟩

/-! ### Reading a close request -/

/-- Read a Forward Close body, if it is as long as it says. -/
def ForwardCloseRequest.readBody (body : Bytes) : Option ForwardCloseRequest :=
  if body.length = 12 + 2 * fieldAt body 10 1 then
    some {
      connectionSerialNumber := UInt16.ofNat (fieldAt body 2 2)
      originatorVendorId := UInt16.ofNat (fieldAt body 4 2)
      originatorSerialNumber := UInt32.ofNat (fieldAt body 6 4)
      connectionPath := body.drop 12 }
  else none

/-! ### What a target keeps, and its answers -/

/-- A connection at a target. Which of the originator's calls asked for it is not part of it. -/
structure TargetConnection where
  origin : Nat
  triad : ConnectionTriad
  path : Bytes
  deriving DecidableEq, Repr

/-- What a target grants with a connection. -/
structure Grant where
  o2tNetworkConnectionId : UInt32
  t2oNetworkConnectionId : UInt32
  o2tApi : UInt32
  t2oApi : UInt32
  applicationReply : Bytes
  deriving DecidableEq, Repr

/-- A request that can be read to its end asks for a connection, unless there is one with its
numbers. -/
def acceptOpen (origin : Nat) (sent : RouterRequest) (connections : List TargetConnection) :
    Option (ForwardOpenRequest × List TargetConnection) :=
  match ForwardOpenRequest.readBody sent.large sent.body with
  | some (request, []) =>
    if connections.any fun connection => connection.triad = request.triad then none
    else some (request, ⟨origin, request.triad, request.path⟩ :: connections)
  | _ => none

/-- The reply names the connection as the request did. -/
def Grant.reply (grant : Grant) (request : ForwardOpenRequest) : ForwardOpenResponse where
  o2tNetworkConnectionId := grant.o2tNetworkConnectionId
  t2oNetworkConnectionId := grant.t2oNetworkConnectionId
  connectionSerialNumber := request.connectionSerialNumber
  originatorVendorId := request.originatorVendorId
  originatorSerialNumber := request.originatorSerialNumber
  o2tApi := grant.o2tApi
  t2oApi := grant.t2oApi
  applicationReply := grant.applicationReply

def ForwardOpenResponse.encode (reply : ForwardOpenResponse) : Bytes :=
  putU32 reply.o2tNetworkConnectionId ++ putU32 reply.t2oNetworkConnectionId ++
    putU16 reply.connectionSerialNumber ++ putU16 reply.originatorVendorId ++
    putU32 reply.originatorSerialNumber ++ putU32 reply.o2tApi ++ putU32 reply.t2oApi ++
    putU8 (UInt8.ofNat (reply.applicationReply.length / 2)) ++ putU8 0 ++ reply.applicationReply

/-- A close request that can be read ends the connection with its numbers. -/
def acceptClose (body : Bytes) (connections : List TargetConnection) : List TargetConnection :=
  match ForwardCloseRequest.readBody body with
  | some request => connections.filter fun connection => connection.triad ≠ request.triad
  | none => connections

/-! ### What is read of the originator's requests -/

/-- A body that is read to its end has an even path that its size byte has room for, and is read
as it was meant. -/
theorem readBody_to_end {request read : ForwardOpenRequest} {large : Bool}
    (ended : ForwardOpenRequest.readBody large (request.encode large) = some (read, [])) :
    read.triad = request.triad ∧ read.path = request.path ∧ request.path.length % 2 = 0 ∧
      request.path.length ≤ 510 := by
  have stands := request.take_drop_encode large
  have path : (request.encode large).drop (pathOffset large) = request.path :=
    request.bodyPath_encode large
  have length := request.length_encode large
  have byte : fieldAt (request.encode large) (pathSizeOffset large) 1 =
      (request.path.length + 1) / 2 % 2 ^ 8 := request.bodyPathSize_encode large
  simp only [ForwardOpenRequest.readBody, Option.ite_none_left_eq_some, Option.some.injEq,
    Prod.mk.injEq] at ended
  obtain ⟨enough, rfl, left⟩ := ended
  have all := List.drop_eq_nil_iff.mp left
  rw [length] at all enough
  have exact : 2 * fieldAt (request.encode large) (pathSizeOffset large) 1 =
      request.path.length := by omega
  refine ⟨?_, ?_, by omega, by omega⟩
  · rw [ForwardOpenRequest.triad, ofNat_fieldAt_u16 (stands 4 10 rfl rfl),
      ofNat_fieldAt_u16 (stands 5 12 rfl rfl), ofNat_fieldAt_u32 (stands 6 14 rfl rfl)]
    rfl
  · rw [exact, path, List.take_length]

/-- A target that accepts a request has read its numbers and the whole path, and keeps both. -/
theorem acceptOpen_eq_some {origin : Nat} {counters : IdCounters} {config : ConnectionConfig}
    {connections after : List TargetConnection} {read : ForwardOpenRequest}
    (accepted : acceptOpen origin (routerRequest counters config) connections =
      some (read, after)) :
    read.triad = (forwardOpenRequest counters config).1.triad ∧
      after = ⟨origin, (forwardOpenRequest counters config).1.triad, config.encodedPath⟩ ::
        connections ∧
      config.encodedPath.length % 2 = 0 ∧ config.encodedPath.length ≤ 510 := by
  rw [acceptOpen, large_routerRequest, routerRequest] at accepted
  split at accepted
  next request ended =>
    obtain ⟨triad, path, even, short⟩ := readBody_to_end ended
    rw [path_forwardOpenRequest] at path even short
    split at accepted
    · exact absurd accepted (by simp)
    · obtain ⟨rfl, rfl⟩ := Prod.mk.inj (Option.some.inj accepted)
      rw [← triad, ← path]
      exact ⟨rfl, rfl, path ▸ even, path ▸ short⟩
  · exact absurd accepted (by simp)

/-- A part of a whole stands behind the parts before it. -/
theorem take_drop_flatten {Value : Type*} (parts : List (List Value)) (index offset : Nat)
    {part : List Value} (present : parts[index]? = some part)
    (before : ((parts.take index).map List.length).sum = offset) :
    (parts.flatten.drop offset).take part.length = part := by
  obtain ⟨inside, rfl⟩ := List.getElem?_eq_some_iff.mp present
  have split : parts.flatten =
      (parts.take index).flatten ++ (parts[index] ++ (parts.drop (index + 1)).flatten) := by
    rw [← List.flatten_cons, ← List.flatten_append, ← List.drop_eq_getElem_cons inside,
      List.take_append_drop]
  rw [← before, ← List.length_flatten, split, List.drop_left, List.take_left]

/-- The bytes of the fields of a close request, in their order. -/
def ForwardCloseRequest.fields (request : ForwardCloseRequest) : List Bytes :=
  [putU8 0, putU8 0, putU16 request.connectionSerialNumber, putU16 request.originatorVendorId,
    putU32 request.originatorSerialNumber,
    putU8 (UInt8.ofNat ((request.connectionPath.length + 1) / 2)), putU8 0, request.connectionPath]

theorem ForwardCloseRequest.flatten_fields (request : ForwardCloseRequest) :
    request.fields.flatten = request.encode := by
  simp only [fields, encode, List.flatten_cons, List.flatten_nil, List.append_nil,
    List.append_assoc]

/-- A close request with an even path of at most 255 words is read back whole. -/
theorem readClose_encode (request : ForwardCloseRequest)
    (even : request.connectionPath.length % 2 = 0)
    (short : request.connectionPath.length ≤ 510) :
    ForwardCloseRequest.readBody request.encode = some request := by
  have stands := take_drop_flatten request.fields
  rw [request.flatten_fields] at stands
  have front : request.encode = (putU8 0 ++ putU8 0 ++ putU16 request.connectionSerialNumber ++
      putU16 request.originatorVendorId ++ putU32 request.originatorSerialNumber ++
      putU8 (UInt8.ofNat ((request.connectionPath.length + 1) / 2)) ++ putU8 0) ++
        request.connectionPath := rfl
  have twelve : (putU8 0 ++ putU8 0 ++ putU16 request.connectionSerialNumber ++
      putU16 request.originatorVendorId ++ putU32 request.originatorSerialNumber ++
      putU8 (UInt8.ofNat ((request.connectionPath.length + 1) / 2)) ++ putU8 0).length = 12 := by
    simp only [List.length_append, length_putU8, length_putU16, length_putU32]
  have length : request.encode.length = 12 + request.connectionPath.length := by
    rw [front, List.length_append, twelve]
  have path : request.encode.drop 12 = request.connectionPath := by
    rw [front, List.drop_left' twelve]
  have size : 2 * fieldAt request.encode 10 1 = request.connectionPath.length := by
    have byte : fieldAt request.encode 10 1 = (request.connectionPath.length + 1) / 2 % 2 ^ 8 := by
      have stood : (request.encode.drop 10).take 1 =
          putU8 (UInt8.ofNat ((request.connectionPath.length + 1) / 2)) := stands 5 10 rfl rfl
      rw [fieldAt, stood, putU8, LittleEndian.number_digits_of_lt (UInt8.toNat_lt _),
        UInt8.toNat_ofNat']
    omega
  rw [ForwardCloseRequest.readBody, size, if_pos length, path,
    ofNat_fieldAt_u16 (stands 2 2 rfl rfl), ofNat_fieldAt_u16 (stands 3 4 rfl rfl),
    ofNat_fieldAt_u32 (stands 4 6 rfl rfl)]

/-- A reply that is decoded at all has the serial number that the target put there. -/
theorem serial_decode_encode {reply decoded : ForwardOpenResponse}
    (read : ForwardOpenResponse.decode reply.encode = .ok decoded) :
    decoded.connectionSerialNumber = reply.connectionSerialNumber := by
  simp only [ForwardOpenResponse.decode, ForwardOpenResponse.encode, List.append_assoc,
    tryGetU32_putU32, tryGetU16_putU16, tryGetU8_putU8, bind, Except.bind] at read
  split at read
  · exact absurd read (by simp)
  · rw [← Except.ok.inj read]

/-- What a reply makes: the settings that it grants, and a close request with its serial number and
what was asked for. -/
theorem completeOpen_eq_ok {config : ConnectionConfig} {response : MessageRouterResponse}
    {peerIp : Ipv4Addr} {opened : OpenedConnection}
    (completed : completeOpen config response peerIp = .ok opened) :
    ∃ reply sockaddr, ForwardOpenResponse.decode response.data = .ok reply ∧
      opened.ioConfig = ioConnectionConfig config reply (o2tDestination sockaddr peerIp) peerIp ∧
      opened.closeRequest = ⟨reply.connectionSerialNumber, config.originatorVendorId,
        config.originatorSerialNumber, config.path.bytes⟩ := by
  obtain ⟨checked, passed, rest⟩ := bind_eq_ok_iff.mp completed
  obtain ⟨reply, decoded, rest⟩ := bind_eq_ok_iff.mp rest
  obtain ⟨sockaddr, -, rest⟩ := bind_eq_ok_iff.mp rest
  have same : checked = response := by
    unfold MessageRouterResponse.check at passed
    split at passed
    · exact (Except.ok.inj passed).symm
    · exact absurd passed (by simp)
  obtain rfl := Except.ok.inj rest
  exact ⟨reply, sockaddr, same ▸ decoded, rfl, rfl⟩

end EipScanner
