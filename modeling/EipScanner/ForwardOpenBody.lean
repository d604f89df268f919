/-
This file reads a Forward Open body back. The reader takes every field at its documented
offset, the network parameters and the transport byte with their own decoders, and the
path by its size byte. The offsets behind the first network parameters depend on the form,
which has them 16 or 32 bits wide.

A body is its fields one after another, so a field stands at the sum of the lengths before
it. What is left is that each field is recovered from its bytes, and that the size byte
announces the path that follows it.
-/

import EipScanner.ForwardOpen

namespace EipScanner

/-! ### The reader -/

/-- The number in the field of a body that starts at an offset. -/
def fieldAt (body : Bytes) (offset width : Nat) : Nat :=
  LittleEndian.number ((body.drop offset).take width)

/-- Read a network parameters word, in the form it was sent in. -/
def readParams (large : Bool) (body : Bytes) (offset : Nat) : NetworkParams :=
  NetworkParams.decode (UInt32.ofNat (fieldAt body offset (paramsWidth large))) large

/-- Where the T->O interval stands, after the O->T parameters. -/
def t2oRpiOffset (large : Bool) : Nat := o2tParamsOffset + paramsWidth large

/-- Where the transport byte stands, after the T->O parameters. -/
def transportOffset (large : Bool) : Nat := t2oParamsOffset large + paramsWidth large

/-- Where the path stands, after its size. -/
def pathOffset (large : Bool) : Nat := pathSizeOffset large + 1

/-- Read a request body and the bytes behind it, if it is as long as it says. -/
def ForwardOpenRequest.readBody (large : Bool) (body : Bytes) :
    Option (ForwardOpenRequest × Bytes) :=
  let pathLength := 2 * fieldAt body (pathSizeOffset large) 1
  if body.length < pathOffset large + pathLength then none
  else
    some
      ({  priorityTimeTick := UInt8.ofNat (fieldAt body 0 1)
          timeoutTicks := UInt8.ofNat (fieldAt body 1 1)
          o2tConnectionId := UInt32.ofNat (fieldAt body 2 4)
          t2oConnectionId := UInt32.ofNat (fieldAt body 6 4)
          connectionSerialNumber := UInt16.ofNat (fieldAt body 10 2)
          originatorVendorId := UInt16.ofNat (fieldAt body 12 2)
          originatorSerialNumber := UInt32.ofNat (fieldAt body 14 4)
          connectionTimeoutMultiplier := UInt8.ofNat (fieldAt body 18 1)
          o2tRpi := UInt32.ofNat (fieldAt body 22 4)
          o2tParams := readParams large body o2tParamsOffset
          t2oRpi := UInt32.ofNat (fieldAt body (t2oRpiOffset large) 4)
          t2oParams := readParams large body (t2oParamsOffset large)
          transport :=
            TransportTrigger.decode (UInt8.ofNat (fieldAt body (transportOffset large) 1))
          path := (body.drop (pathOffset large)).take pathLength },
        body.drop (pathOffset large + pathLength))

/-! ### Fields from their bytes -/

variable {body : Bytes} {offset : Nat}

theorem ofNat_fieldAt_u8 {value : UInt8} (stands : (body.drop offset).take 1 = putU8 value) :
    UInt8.ofNat (fieldAt body offset 1) = value := by
  rw [fieldAt, stands, putU8, LittleEndian.number_digits_of_lt (UInt8.toNat_lt value),
    UInt8.ofNat_toNat]

theorem ofNat_fieldAt_u16 {value : UInt16} (stands : (body.drop offset).take 2 = putU16 value) :
    UInt16.ofNat (fieldAt body offset 2) = value := by
  rw [fieldAt, stands, putU16, LittleEndian.number_digits_of_lt (UInt16.toNat_lt value),
    UInt16.ofNat_toNat]

theorem ofNat_fieldAt_u32 {value : UInt32} (stands : (body.drop offset).take 4 = putU32 value) :
    UInt32.ofNat (fieldAt body offset 4) = value := by
  rw [fieldAt, stands, putU32, LittleEndian.number_digits_of_lt (UInt32.toNat_lt value),
    UInt32.ofNat_toNat]

/-- A parameters word is read back whole when the form has room for its size. -/
theorem decode_putParams (params : NetworkParams) (large : Bool)
    (fits : large = true ∨ params.size ≤ maxSmallSize) :
    NetworkParams.decode (UInt32.ofNat (LittleEndian.number (putParams params large))) large =
      params := by
  cases large with
  | true =>
    have word : LittleEndian.number (putParams params true) = (params.encode true).toNat :=
      LittleEndian.number_digits_of_lt (UInt32.toNat_lt _)
    rw [word, UInt32.ofNat_toNat, NetworkParams.decode_encode_large]
  | false =>
    have small : params.size ≤ maxSmallSize := fits.resolve_left Bool.false_ne_true
    have word : LittleEndian.number (putParams params false) =
        (params.encode false).toUInt16.toUInt32.toNat := by
      rw [UInt16.toNat_toUInt32]
      exact LittleEndian.number_digits_of_lt (UInt16.toNat_lt _)
    rw [word, UInt32.ofNat_toNat, NetworkParams.decode_encode_small params small]

namespace ForwardOpenRequest

variable (request : ForwardOpenRequest) (large : Bool)

/-! ### Where the fields stand -/

theorem readParams_o2t (fits : large = true ∨ request.o2tParams.size ≤ maxSmallSize) :
    readParams large (request.encode large) o2tParamsOffset = request.o2tParams := by
  rw [readParams, fieldAt, drop_encode_o2tParams, decode_putParams _ _ fits]

theorem readParams_t2o (fits : large = true ∨ request.t2oParams.size ≤ maxSmallSize) :
    readParams large (request.encode large) (t2oParamsOffset large) = request.t2oParams := by
  rw [readParams, fieldAt, drop_encode_t2oParams, decode_putParams _ _ fits]

/-- The bytes of the fields, in their order. -/
def fields : List Bytes :=
  [putU8 request.priorityTimeTick, putU8 request.timeoutTicks, putU32 request.o2tConnectionId,
    putU32 request.t2oConnectionId, putU16 request.connectionSerialNumber,
    putU16 request.originatorVendorId, putU32 request.originatorSerialNumber,
    putU8 request.connectionTimeoutMultiplier, List.replicate 3 0, putU32 request.o2tRpi,
    putParams request.o2tParams large, putU32 request.t2oRpi, putParams request.t2oParams large,
    putU8 request.transport.encode, putU8 request.pathSize, request.path]

theorem flatten_fields : (request.fields large).flatten = request.encode large := by
  simp only [fields, encode, head, List.flatten_cons, List.flatten_nil, List.append_nil,
    List.append_assoc]

/-- A field stands behind the fields before it. -/
theorem take_drop_encode (index offset : Nat) {field : Bytes}
    (present : (request.fields large)[index]? = some field)
    (before : (((request.fields large).take index).map List.length).sum = offset) :
    ((request.encode large).drop offset).take field.length = field := by
  obtain ⟨inside, rfl⟩ := List.getElem?_eq_some_iff.mp present
  have split : request.encode large = ((request.fields large).take index).flatten ++
      ((request.fields large)[index] ++ ((request.fields large).drop (index + 1)).flatten) := by
    rw [← flatten_fields, ← List.flatten_cons, ← List.flatten_append,
      ← List.drop_eq_getElem_cons inside, List.take_append_drop]
  rw [← before, ← List.length_flatten, split, List.drop_left, List.take_left]

/-- The size byte announces an even path that it has room for. -/
theorem fieldAt_pathSize (even : request.path.length % 2 = 0) (short : request.path.length ≤ 510) :
    2 * fieldAt (request.encode large) (pathSizeOffset large) 1 = request.path.length := by
  have announced : fieldAt (request.encode large) (pathSizeOffset large) 1 =
      (request.path.length + 1) / 2 % 2 ^ 8 := request.bodyPathSize_encode large
  omega

theorem length_encode :
    (request.encode large).length = pathOffset large + request.path.length := by
  have behind := congrArg List.length (request.drop_encode_pathSize large)
  rw [List.length_drop, List.length_append, length_putU8] at behind
  rw [pathOffset]
  omega

theorem length_before_t2oRpi :
    (((request.fields large).take 11).map List.length).sum = t2oRpiOffset large := by
  simp only [fields, List.take_succ_cons, List.take_zero, List.map_cons, List.map_nil,
    List.sum_cons, List.sum_nil, length_putU8, length_putU16, length_putU32, length_putParams,
    List.length_replicate, t2oRpiOffset, o2tParamsOffset]
  omega

theorem length_before_transport :
    (((request.fields large).take 13).map List.length).sum = transportOffset large := by
  simp only [fields, List.take_succ_cons, List.take_zero, List.map_cons, List.map_nil,
    List.sum_cons, List.sum_nil, length_putU8, length_putU16, length_putU32, length_putParams,
    List.length_replicate, transportOffset, t2oParamsOffset, o2tParamsOffset]
  omega

/-- Every field of a request is read back from its body, and nothing of the body is left. -/
theorem readBody_encode
    (fits : large = true ∨
      request.o2tParams.size ≤ maxSmallSize ∧ request.t2oParams.size ≤ maxSmallSize)
    (even : request.path.length % 2 = 0) (short : request.path.length ≤ 510) :
    readBody large (request.encode large) = some (request, []) := by
  have path : (request.encode large).drop (pathOffset large) = request.path :=
    request.bodyPath_encode large
  have whole := request.length_encode large
  have stands := request.take_drop_encode large
  rw [readBody]
  simp only [request.fieldAt_pathSize large even short]
  rw [if_neg (by rw [whole]; exact Nat.lt_irrefl _), path, List.take_length,
    List.drop_eq_nil_of_le (Nat.le_of_eq whole),
    request.readParams_o2t large (fits.imp_right And.left),
    request.readParams_t2o large (fits.imp_right And.right),
    ofNat_fieldAt_u8 (stands 0 0 rfl rfl), ofNat_fieldAt_u8 (stands 1 1 rfl rfl),
    ofNat_fieldAt_u32 (stands 2 2 rfl rfl), ofNat_fieldAt_u32 (stands 3 6 rfl rfl),
    ofNat_fieldAt_u16 (stands 4 10 rfl rfl), ofNat_fieldAt_u16 (stands 5 12 rfl rfl),
    ofNat_fieldAt_u32 (stands 6 14 rfl rfl), ofNat_fieldAt_u8 (stands 7 18 rfl rfl),
    ofNat_fieldAt_u32 (stands 9 22 rfl rfl),
    ofNat_fieldAt_u32 (stands 11 _ rfl (request.length_before_t2oRpi large)),
    ofNat_fieldAt_u8 (stands 13 _ rfl (request.length_before_transport large)),
    TransportTrigger.decode_encode]

/-- The request of a connection with 34 bytes of outputs and 511 of inputs. -/
def assemblyRequest : ForwardOpenRequest where
  priorityTimeTick := 0x0A
  timeoutTicks := 0x0E
  o2tConnectionId := 0
  t2oConnectionId := 0x12340001
  connectionSerialNumber := 1
  originatorVendorId := 342
  originatorSerialNumber := 0x12345
  connectionTimeoutMultiplier := 1
  o2tRpi := 10000
  o2tParams := ⟨true, .pointToPoint, .scheduled, .variable, 34⟩
  t2oRpi := 20000
  t2oParams := ⟨false, .multicast, .urgent, .fixed, 511⟩
  transport := ⟨.class1, .changeOfState, true⟩
  path := [0x20, 0x04, 0x24, 0x01]

theorem readBody_encode_assemblyRequest :
    readBody false (assemblyRequest.encode false) = some (assemblyRequest, []) :=
  readBody_encode assemblyRequest false (Or.inr ⟨by decide, by decide⟩) rfl (by decide)

end ForwardOpenRequest

end EipScanner
