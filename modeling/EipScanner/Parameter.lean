/-
This file models the parameter object of a device. A parameter is read in up to six requests: one
for the size of its value, one for all of its attributes, and, if the parameter can be scaled and
its full attributes are asked for, one for each of the four scaling attributes.

The value and its limits are kept as bytes of the size that the device announced, and are decoded
when they are asked for as a number of some type. Scaling to and from a float is left out.
-/

import EipScanner.Discovery
import EipScanner.Eds
import EipScanner.Exchange

namespace EipScanner

open SelfDelimiting Text

def CipDataType.any : CipDataType := ⟨0x00⟩

/-! ### Values -/

/-- A fixed-size little-endian CIP value. -/
class CipValue (Value : Type) where
  size : Nat
  decode : Bytes → Value
  encode : Value → Bytes
  length_encode : ∀ value, (encode value).length = size
  decode_encode : ∀ value, decode (encode value) = value

namespace CipValue

/-- An integer of a number of bytes. -/
@[reducible]
def ofInteger {Value : Type} (width : Nat) (ofNat : Nat → Value) (toNat : Value → Nat)
    (bounded : ∀ value, toNat value < 256 ^ width)
    (inverse : ∀ value, ofNat (toNat value) = value) : CipValue Value where
  size := width
  decode bytes := ofNat (LittleEndian.number bytes)
  encode value := LittleEndian.digits width (toNat value)
  length_encode value := LittleEndian.length_digits width (toNat value)
  decode_encode value := by rw [LittleEndian.number_digits_of_lt (bounded value), inverse]

instance : CipValue UInt8 :=
  ofInteger 1 UInt8.ofNat UInt8.toNat UInt8.toNat_lt fun _ => UInt8.ofNat_toNat
instance : CipValue UInt16 :=
  ofInteger 2 UInt16.ofNat UInt16.toNat UInt16.toNat_lt fun _ => UInt16.ofNat_toNat
instance : CipValue UInt32 :=
  ofInteger 4 UInt32.ofNat UInt32.toNat UInt32.toNat_lt fun _ => UInt32.ofNat_toNat
instance : CipValue UInt64 :=
  ofInteger 8 UInt64.ofNat UInt64.toNat UInt64.toNat_lt fun _ => UInt64.ofNat_toNat

-- a signed integer has the bytes of the unsigned one with the same bits

instance : CipValue Int8 :=
  ofInteger 1 (UInt8.toInt8 ∘ UInt8.ofNat) (UInt8.toNat ∘ Int8.toUInt8)
    (fun value => value.toUInt8.toNat_lt) fun value => by
      rw [Function.comp_apply, Function.comp_apply, UInt8.ofNat_toNat, Int8.toInt8_toUInt8]
instance : CipValue Int16 :=
  ofInteger 2 (UInt16.toInt16 ∘ UInt16.ofNat) (UInt16.toNat ∘ Int16.toUInt16)
    (fun value => value.toUInt16.toNat_lt) fun value => by
      rw [Function.comp_apply, Function.comp_apply, UInt16.ofNat_toNat, Int16.toInt16_toUInt16]
instance : CipValue Int32 :=
  ofInteger 4 (UInt32.toInt32 ∘ UInt32.ofNat) (UInt32.toNat ∘ Int32.toUInt32)
    (fun value => value.toUInt32.toNat_lt) fun value => by
      rw [Function.comp_apply, Function.comp_apply, UInt32.ofNat_toNat, Int32.toInt32_toUInt32]
instance : CipValue Int64 :=
  ofInteger 8 (UInt64.toInt64 ∘ UInt64.ofNat) (UInt64.toNat ∘ Int64.toUInt64)
    (fun value => value.toUInt64.toNat_lt) fun value => by
      rw [Function.comp_apply, Function.comp_apply, UInt64.ofNat_toNat, Int64.toInt64_toUInt64]

end CipValue

/-- A signed 16-bit number off the front of a buffer. -/
def tryGetI16 (buf : Bytes) : Except Error (Int16 × Bytes) := do
  let (value, buf) ← tryGetU16 buf
  return (value.toInt16, buf)

/-! ### The object -/

structure ParameterObject where
  instanceId : UInt16
  hasFullAttributes : Bool
  isScalable : Bool
  isReadOnly : Bool
  dataType : CipDataType
  name : List Char
  units : List Char
  help : List Char
  scalingMultiplier : UInt16
  scalingDivisor : UInt16
  scalingBase : UInt16
  scalingOffset : Int16
  precision : UInt8
  value : Bytes
  minValue : Bytes
  maxValue : Bytes
  defaultValue : Bytes
  deriving DecidableEq, Repr

namespace ParameterObject

def classId : UInt16 := parameterClassId

def valueAttribute : UInt16 := 1
def dataSizeAttribute : UInt16 := 6
def scalingMultiplierAttribute : UInt16 := 13
def scalingOffsetAttribute : UInt16 := 16

def supportsScaling : UInt16 := (1 : UInt16) <<< 2
def readOnly : UInt16 := (1 : UInt16) <<< 4

/-- A parameter with zeroed values of a size and no scaling, built without talking to a device. -/
def new (instanceId : UInt16) (hasFullAttributes : Bool) (typeSize : Nat) : ParameterObject where
  instanceId := instanceId
  hasFullAttributes := hasFullAttributes
  isScalable := false
  isReadOnly := false
  dataType := CipDataType.any
  name := []
  units := []
  help := []
  scalingMultiplier := 1
  scalingDivisor := 1
  scalingBase := 1
  scalingOffset := 0
  precision := 0
  value := List.replicate typeSize 0
  minValue := List.replicate typeSize 0
  maxValue := List.replicate typeSize 0
  defaultValue := List.replicate typeSize 0

/-! ### Reading the attributes -/

/-- Value, link path, descriptor and data type. -/
def takeDescription (dataSize : Nat) (param : ParameterObject) (buf : Bytes) :
    Except Error (ParameterObject × Bytes) := do
  let (value, buf) ← tryGetVec dataSize buf
  let (linkPathSize, buf) ← tryGetU8 buf
  let buf ← trySkip linkPathSize.toNat buf
  let (desc, buf) ← tryGetU16 buf
  let (dataType, buf) ← tryGetU8 buf
  return ({ param with
    value
    dataType := ⟨dataType⟩
    isScalable := desc &&& supportsScaling != 0
    isReadOnly := desc &&& readOnly != 0 }, buf)

/-- Name, units, help and limits, behind the data size. -/
def takeFull (dataSize : Nat) (param : ParameterObject) (buf : Bytes) :
    Except Error (ParameterObject × Bytes) := do
  let buf ← trySkip 1 buf
  let (name, buf) ← tryGetShortString buf
  let (units, buf) ← tryGetShortString buf
  let (help, buf) ← tryGetShortString buf
  let (minValue, buf) ← tryGetVec dataSize buf
  let (maxValue, buf) ← tryGetVec dataSize buf
  let (defaultValue, buf) ← tryGetVec dataSize buf
  return ({ param with name, units, help, minValue, maxValue, defaultValue }, buf)

/-- The precision, behind the scaling attributes and their links. -/
def takePrecision (param : ParameterObject) (buf : Bytes) :
    Except Error (ParameterObject × Bytes) := do
  let buf ← trySkip 16 buf
  let (precision, buf) ← tryGetU8 buf
  return ({ param with precision }, buf)

/-- What is read of a parameter behind its description. -/
def takeRest (fullAttributes : Bool) (dataSize : Nat) (param : ParameterObject) (buf : Bytes) :
    Except Error (ParameterObject × Bytes) :=
  if fullAttributes then do
    let (param, buf) ← takeFull dataSize param buf
    if param.isScalable then takePrecision param buf else return (param, buf)
  else return (param, buf)

/-- What is read off the reply to the request for all attributes. -/
def takeAttributes (fullAttributes : Bool) (dataSize : Nat) (param : ParameterObject)
    (buf : Bytes) : Except Error (ParameterObject × Bytes) := do
  let (param, buf) ← takeDescription dataSize param buf
  takeRest fullAttributes dataSize param buf

/-- The four scaling attributes one after the other. -/
def takeScaling (param : ParameterObject) (buf : Bytes) : Except Error ParameterObject := do
  let (scalingMultiplier, buf) ← tryGetU16 buf
  let (scalingDivisor, buf) ← tryGetU16 buf
  let (scalingBase, buf) ← tryGetU16 buf
  let (scalingOffset, _) ← tryGetI16 buf
  return { param with scalingMultiplier, scalingDivisor, scalingBase, scalingOffset }

def scalingAttributes : List UInt16 :=
  (List.range' scalingMultiplierAttribute.toNat
    (scalingOffsetAttribute.toNat + 1 - scalingMultiplierAttribute.toNat)).map UInt16.ofNat

section
variable {Device : Type} (session : Session Device) (router : MessageRouter)

/-- The scaling values are read individually. -/
def readScaling (instanceId : UInt16) : Dialogue Device Error (List Bytes) :=
  scalingAttributes.mapM fun id =>
    router.ask session .getAttributeSingle (EPath.ofAttribute classId instanceId id) []
      s!"read parameter attribute {id.toNat}"

/-- Reads the parameter from a device. With full attributes, also reads the name, units, help,
limits, and scaling. -/
def read (instanceId : UInt16) (fullAttributes : Bool) :
    Dialogue Device Error ParameterObject := do
  let sizeReply ← router.ask session .getAttributeSingle
    (EPath.ofAttribute classId instanceId dataSizeAttribute) [] "read parameter data size"
  let (dataSize, _) ← tryGetU8 sizeReply
  let all ← router.ask session .getAttributeAll (EPath.ofInstance classId instanceId) []
    "read parameter attributes"
  let (param, _) ← takeAttributes fullAttributes dataSize.toNat
    (new instanceId fullAttributes dataSize.toNat) all
  if fullAttributes && param.isScalable then
    let scaling ← readScaling session router instanceId
    takeScaling param scaling.flatten
  else return param

/-- Re-reads the value attribute. -/
def updateValue (param : ParameterObject) : Dialogue Device Error ParameterObject := do
  let value ← router.ask session .getAttributeSingle
    (EPath.ofAttribute classId param.instanceId valueAttribute) [] "read parameter value"
  return { param with value }

end

/-! ### Typed values -/

section
variable (Value : Type) [CipValue Value]

def decode (bytes : Bytes) : Except Error Value :=
  if bytes.length ≠ CipValue.size Value then
    .error (.invalidPacket
      s!"parameter value is {bytes.length} bytes, requested type is {CipValue.size Value}")
  else .ok (CipValue.decode bytes)

variable (param : ParameterObject)

def rawValue : Bytes := param.value
def actualValue : Except Error Value := decode Value param.value
def minValueAs : Except Error Value := decode Value param.minValue
def maxValueAs : Except Error Value := decode Value param.maxValue
def defaultValueAs : Except Error Value := decode Value param.defaultValue

end

end ParameterObject

end EipScanner
