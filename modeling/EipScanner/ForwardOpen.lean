/-
This file models the bodies of the Forward Open and Forward Close services: the
request with its two forms, the successful reply, and the socket address item that
may come with it.

The last fields of an open request are a byte that gives the size of the connection
path in words and the path itself. The byte is the low eight bits of the word count,
rounded up, and the path is written as it is. So the byte announces exactly the path
bytes that follow when their number is even and at most 510, and in no other case.
The two network parameter words stand at fixed offsets of either form, where a
reader finds the sizes again.
-/

import EipScanner.ConnectionConfig
import EipScanner.MessageRouterResponse

namespace EipScanner

/-! ### The open request -/

/-- A Forward Open request body, field for field. The intervals are in microseconds, and the path
is complete, including any configuration data segment. -/
structure ForwardOpenRequest where
  priorityTimeTick : UInt8
  timeoutTicks : UInt8
  o2tConnectionId : UInt32
  t2oConnectionId : UInt32
  connectionSerialNumber : UInt16
  originatorVendorId : UInt16
  originatorSerialNumber : UInt32
  connectionTimeoutMultiplier : UInt8
  o2tRpi : UInt32
  o2tParams : NetworkParams
  t2oRpi : UInt32
  t2oParams : NetworkParams
  transport : TransportTrigger
  path : Bytes
  deriving DecidableEq, Repr

/-- The bytes a network parameters word takes. -/
def paramsWidth (large : Bool) : Nat := if large then 4 else 2

def putParams (params : NetworkParams) (large : Bool) : Bytes :=
  if large then putU32 (params.encode true) else putU16 (params.encode false).toUInt16

/-- Read the size back out of a network parameters word, in the form it was sent in. -/
def readParamsSize (large : Bool) (word : Bytes) : Nat :=
  (NetworkParams.decode (UInt32.ofNat (LittleEndian.number word)) large).size.toNat

namespace ForwardOpenRequest

/-- The fields in front of the first network parameters word. -/
def head (request : ForwardOpenRequest) : Bytes :=
  putU8 request.priorityTimeTick ++ putU8 request.timeoutTicks ++
    putU32 request.o2tConnectionId ++ putU32 request.t2oConnectionId ++
    putU16 request.connectionSerialNumber ++ putU16 request.originatorVendorId ++
    putU32 request.originatorSerialNumber ++ putU8 request.connectionTimeoutMultiplier ++
    List.replicate 3 0 ++ putU32 request.o2tRpi

/-- The low eight bits of the number of path words, rounded up. -/
def pathSize (request : ForwardOpenRequest) : UInt8 := UInt8.ofNat ((request.path.length + 1) / 2)

/-- Encodes a Forward Open, or a Large Forward Open with 32-bit network parameters. -/
def encode (request : ForwardOpenRequest) (large : Bool) : Bytes :=
  request.head ++ putParams request.o2tParams large ++
    putU32 request.t2oRpi ++ putParams request.t2oParams large ++
    putU8 request.transport.encode ++ putU8 request.pathSize ++ request.path

end ForwardOpenRequest

/-! ### Reading a request body back -/

/-- Where the O->T parameters stand. -/
def o2tParamsOffset : Nat := 26

/-- Where the T->O parameters stand, after the O->T parameters and the T->O interval. -/
def t2oParamsOffset (large : Bool) : Nat := o2tParamsOffset + paramsWidth large + 4

/-- Where the path size stands, after the T->O parameters and the transport byte. -/
def pathSizeOffset (large : Bool) : Nat := t2oParamsOffset large + paramsWidth large + 1

/-- The size in the O->T network parameters word of a request body. -/
def bodyO2tSize (large : Bool) (body : Bytes) : Nat :=
  readParamsSize large ((body.drop o2tParamsOffset).take (paramsWidth large))

/-- The size in the T->O network parameters word of a request body. -/
def bodyT2oSize (large : Bool) (body : Bytes) : Nat :=
  readParamsSize large ((body.drop (t2oParamsOffset large)).take (paramsWidth large))

/-- The path size of a request body, in words. -/
def bodyPathSize (large : Bool) (body : Bytes) : Nat :=
  LittleEndian.number ((body.drop (pathSizeOffset large)).take 1)

/-- The bytes of a request body that follow the path size. -/
def bodyPath (large : Bool) (body : Bytes) : Bytes := body.drop (pathSizeOffset large + 1)

theorem length_putParams (params : NetworkParams) (large : Bool) :
    (putParams params large).length = paramsWidth large := by
  cases large
  · exact length_putU16 _
  · exact length_putU32 _

namespace ForwardOpenRequest

variable (request : ForwardOpenRequest) (large : Bool)

theorem length_head : request.head.length = o2tParamsOffset := by
  simp only [head, List.length_append, length_putU8, length_putU16, length_putU32,
    List.length_replicate, o2tParamsOffset]

theorem drop_encode_o2tParams :
    ((request.encode large).drop o2tParamsOffset).take (paramsWidth large) =
      putParams request.o2tParams large := by
  simp only [encode, List.append_assoc]
  rw [List.drop_left' request.length_head, List.take_left' (length_putParams _ large)]

theorem drop_encode_t2oParams :
    ((request.encode large).drop (t2oParamsOffset large)).take (paramsWidth large) =
      putParams request.t2oParams large := by
  have front : (request.head ++ putParams request.o2tParams large ++
      putU32 request.t2oRpi).length = t2oParamsOffset large := by
    rw [List.length_append, List.length_append, request.length_head, length_putParams,
      length_putU32, t2oParamsOffset]
  rw [encode, List.append_assoc, List.append_assoc, List.append_assoc, List.drop_left' front,
    List.take_left' (length_putParams _ large)]

theorem drop_encode_pathSize :
    (request.encode large).drop (pathSizeOffset large) =
      putU8 request.pathSize ++ request.path := by
  have front : (request.head ++ putParams request.o2tParams large ++ putU32 request.t2oRpi ++
      putParams request.t2oParams large ++ putU8 request.transport.encode).length =
        pathSizeOffset large := by
    simp only [List.length_append, request.length_head, length_putParams, length_putU32,
      length_putU8, pathSizeOffset, t2oParamsOffset]
  rw [encode, List.append_assoc, List.drop_left' front]

theorem bodyPath_encode : bodyPath large (request.encode large) = request.path := by
  rw [bodyPath, ← List.drop_drop, drop_encode_pathSize, List.drop_left' (length_putU8 _)]

theorem bodyPathSize_encode :
    bodyPathSize large (request.encode large) = (request.path.length + 1) / 2 % 2 ^ 8 := by
  rw [bodyPathSize, drop_encode_pathSize, List.take_left' (length_putU8 _), putU8,
    LittleEndian.number_digits_of_lt (UInt8.toNat_lt _), pathSize, UInt8.toNat_ofNat']

/-- The path size announces exactly the bytes that follow it for an even path of at most 255
words, and for no other. -/
theorem bodyPathSize_exact_iff :
    bodyPathSize large (request.encode large) * 2 =
        (bodyPath large (request.encode large)).length ↔
      request.path.length % 2 = 0 ∧ request.path.length ≤ 510 := by
  rw [bodyPathSize_encode, bodyPath_encode]
  omega

end ForwardOpenRequest

/-- The size of a parameters word is read back from the bytes that are sent, when the form has
room for it. -/
theorem readParamsSize_putParams (params : NetworkParams) (large : Bool)
    (fits : large = true ∨ params.size ≤ maxSmallSize) :
    readParamsSize large (putParams params large) = params.size.toNat := by
  cases large with
  | true =>
    have word : LittleEndian.number (putParams params true) = (params.encode true).toNat :=
      LittleEndian.number_digits_of_lt (UInt32.toNat_lt _)
    rw [readParamsSize, word, UInt32.ofNat_toNat, NetworkParams.size_decode_encode_large]
  | false =>
    have small : params.size ≤ maxSmallSize := fits.resolve_left Bool.false_ne_true
    have word : LittleEndian.number (putParams params false) =
        (params.encode false).toUInt16.toUInt32.toNat := by
      rw [UInt16.toNat_toUInt32]
      exact LittleEndian.number_digits_of_lt (UInt16.toNat_lt _)
    rw [readParamsSize, word, UInt32.ofNat_toNat, NetworkParams.size_decode_encode_small _ small]

/-! ### The open reply -/

/-- Successful Forward Open reply. The packet intervals are in microseconds. -/
structure ForwardOpenResponse where
  o2tNetworkConnectionId : UInt32
  t2oNetworkConnectionId : UInt32
  connectionSerialNumber : UInt16
  originatorVendorId : UInt16
  originatorSerialNumber : UInt32
  o2tApi : UInt32
  t2oApi : UInt32
  applicationReply : Bytes
  deriving DecidableEq, Repr

def ForwardOpenResponse.decode (buf : Bytes) : Except Error ForwardOpenResponse := do
  let (o2tNetworkConnectionId, buf) ← tryGetU32 buf
  let (t2oNetworkConnectionId, buf) ← tryGetU32 buf
  let (connectionSerialNumber, buf) ← tryGetU16 buf
  let (originatorVendorId, buf) ← tryGetU16 buf
  let (originatorSerialNumber, buf) ← tryGetU32 buf
  let (o2tApi, buf) ← tryGetU32 buf
  let (t2oApi, buf) ← tryGetU32 buf
  let (replyWords, buf) ← tryGetU8 buf
  let (_, buf) ← tryGetU8 buf
  let (applicationReply, _) ← tryGetVec (replyWords.toNat * 2) buf
  return ⟨o2tNetworkConnectionId, t2oNetworkConnectionId, connectionSerialNumber,
    originatorVendorId, originatorSerialNumber, o2tApi, t2oApi, applicationReply⟩

/-! ### The close request -/

structure ForwardCloseRequest where
  connectionSerialNumber : UInt16
  originatorVendorId : UInt16
  originatorSerialNumber : UInt32
  connectionPath : Bytes
  deriving DecidableEq, Repr

def ForwardCloseRequest.encode (request : ForwardCloseRequest) : Bytes :=
  putU8 0 ++ putU8 0 ++ putU16 request.connectionSerialNumber ++
    putU16 request.originatorVendorId ++ putU32 request.originatorSerialNumber ++
    putU8 (UInt8.ofNat ((request.connectionPath.length + 1) / 2)) ++ putU8 0 ++
    request.connectionPath

/-! ### The socket address item -/

def sockaddrSize : Nat := 16

/-- A number in big-endian bytes, the order of the socket address fields. -/
def bigEndian (bytes : Bytes) : Nat := LittleEndian.number bytes.reverse

/-- Decodes a socket address: family (not validated), port, address, eight more bytes. -/
def decodeSockaddr (buf : Bytes) : Except Error SocketAddrV4 :=
  if buf.length < sockaddrSize then .error (.truncated sockaddrSize buf.length)
  else
    .ok {
      ip := ⟨UInt32.ofNat (bigEndian ((buf.drop 4).take 4))⟩
      port := UInt16.ofNat (bigEndian ((buf.drop 2).take 2)) }

end EipScanner
