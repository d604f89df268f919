/-
This file models the settings of an I/O connection as a caller gives them, and the
two fields of a Forward Open that are packed into bits: the network connection
parameters of one direction, in their 16-bit and 32-bit forms, and the transport
class/trigger byte. It also holds the connection path as it is sent, the configured
path followed by the configuration data as one simple data segment.

The size a direction takes on the wire is computed here once, and packed and
unpacked by the network parameters. What is shown is that all the fields survive the
packing in the large form, and in the small form when the size has nine bits.
-/

import EipScanner.Buf

namespace EipScanner

/-! ### Enumerations of the Forward Open -/

/-- How a connection's packets are addressed. -/
inductive ConnectionType where
  | null
  | multicast
  | pointToPoint
  | reserved
  deriving DecidableEq, Repr

inductive Priority where
  | low
  | high
  | scheduled
  | urgent
  deriving DecidableEq, Repr

inductive SizeType where
  | fixed
  | variable
  deriving DecidableEq, Repr

inductive TransportClass where
  | class0
  | class1
  | class2
  | class3
  deriving DecidableEq, Repr

/-- What makes the target produce data. -/
inductive Trigger where
  | cyclic
  | changeOfState
  | application
  deriving DecidableEq, Repr

def ConnectionType.code : ConnectionType → UInt32
  | .null => 0
  | .multicast => 1
  | .pointToPoint => 2
  | .reserved => 3

def Priority.code : Priority → UInt32
  | .low => 0
  | .high => 1
  | .scheduled => 2
  | .urgent => 3

def SizeType.code : SizeType → UInt32
  | .fixed => 0
  | .variable => 1

def TransportClass.code : TransportClass → UInt8
  | .class0 => 0
  | .class1 => 1
  | .class2 => 2
  | .class3 => 3

def Trigger.code : Trigger → UInt8
  | .cyclic => 0
  | .changeOfState => 1
  | .application => 2

/-- Classes 1-3 prefix data with a 16-bit sequence count. -/
def TransportClass.hasSequenceCount (transportClass : TransportClass) : Bool :=
  transportClass != .class0

/-- The transport class/trigger byte of a Forward Open. -/
structure TransportTrigger where
  transportClass : TransportClass
  trigger : Trigger
  server : Bool
  deriving DecidableEq, Repr

def TransportTrigger.encode (transport : TransportTrigger) : UInt8 :=
  (transport.server.toUInt8 <<< 7) ||| (transport.trigger.code <<< 4) |||
    transport.transportClass.code

def TransportTrigger.decode (raw : UInt8) : TransportTrigger where
  transportClass :=
    match raw &&& 0x0F with
    | 0 => .class0
    | 1 => .class1
    | 2 => .class2
    | _ => .class3
  trigger :=
    match (raw >>> 4) &&& 0x07 with
    | 1 => .changeOfState
    | 2 => .application
    | _ => .cyclic
  server := raw &&& 0x80 != 0

theorem TransportTrigger.decode_encode (transport : TransportTrigger) :
    TransportTrigger.decode transport.encode = transport := by
  obtain ⟨transportClass, trigger, server⟩ := transport
  cases transportClass <;> cases trigger <;> cases server <;> rfl

/-! ### Network connection parameters -/

/-- Network connection parameters as they appear in a Forward Open. The size is the size on the
wire, including the sequence count and run/idle header. -/
structure NetworkParams where
  redundantOwner : Bool
  connectionType : ConnectionType
  priority : Priority
  sizeType : SizeType
  size : UInt16
  deriving DecidableEq, Repr

/-- Largest size the 16-bit (non-large) Forward Open can carry. -/
def maxSmallSize : UInt16 := 0x1FF

namespace NetworkParams

/-- The fields other than the size, at their places in the 16-bit form. -/
def flags (redundantOwner : Bool) (connectionType : ConnectionType) (priority : Priority)
    (sizeType : SizeType) : UInt32 :=
  (redundantOwner.toUInt32 <<< 15) ||| (connectionType.code <<< 13) ||| (priority.code <<< 10) |||
    (sizeType.code <<< 9)

def flagWord (params : NetworkParams) : UInt32 :=
  flags params.redundantOwner params.connectionType params.priority params.sizeType

/-- Encodes the 16-bit form, or the 32-bit form used by Large Forward Open, which moves the flags
up by 16 bits. -/
def encode (params : NetworkParams) (large : Bool) : UInt32 :=
  let shift : UInt32 := if large then 16 else 0
  let size : UInt32 :=
    if large then params.size.toUInt32 else (params.size &&& maxSmallSize).toUInt32
  (params.flagWord <<< shift) ||| size

def decode (raw : UInt32) (large : Bool) : NetworkParams :=
  let flags := if large then raw >>> 16 else raw
  let size := if large then raw &&& 0xFFFF else raw &&& maxSmallSize.toUInt32
  { redundantOwner := flags &&& ((1 : UInt32) <<< 15) != 0
    connectionType :=
      match (flags >>> 13) &&& 3 with
      | 0 => .null
      | 1 => .multicast
      | 2 => .pointToPoint
      | _ => .reserved
    priority :=
      match (flags >>> 10) &&& 3 with
      | 0 => .low
      | 1 => .high
      | 2 => .scheduled
      | _ => .urgent
    sizeType := if flags &&& ((1 : UInt32) <<< 9) != 0 then .variable else .fixed
    size := size.toUInt16 }

/-- The flags fill the bits above the nine of the small size, within sixteen bits. -/
theorem flags_bits (redundantOwner : Bool) (connectionType : ConnectionType) (priority : Priority)
    (sizeType : SizeType) :
    (flags redundantOwner connectionType priority sizeType).toNat % 2 ^ 9 = 0 ∧
      (flags redundantOwner connectionType priority sizeType).toNat < 2 ^ 16 := by
  cases redundantOwner <;> cases connectionType <;> cases priority <;> cases sizeType <;> decide

/-- Moved up by sixteen bits, the flags still fit. -/
theorem flags_shifted (redundantOwner : Bool) (connectionType : ConnectionType)
    (priority : Priority) (sizeType : SizeType) :
    flags redundantOwner connectionType priority sizeType <<< 16 >>> 16 =
      flags redundantOwner connectionType priority sizeType := by
  cases redundantOwner <;> cases connectionType <;> cases priority <;> cases sizeType <;> decide

/-- Masking a word that carries a small value in its low bits gives the value back. -/
theorem or_mod_of_lt {high low : Nat} (width : Nat) (clear : high % 2 ^ width = 0)
    (small : low < 2 ^ width) : (high ||| low) % 2 ^ width = low := by
  rw [Nat.or_mod_two_pow, clear, Nat.zero_or, Nat.mod_eq_of_lt small]

theorem size_decode_large (raw : UInt32) :
    (decode raw true).size = UInt16.ofNat (raw.toNat % 2 ^ 16) := by
  have mask : (raw &&& 0xFFFF).toNat = raw.toNat % 2 ^ 16 := by
    rw [UInt32.toNat_and]
    exact Nat.and_two_pow_sub_one_eq_mod raw.toNat 16
  rw [← mask]
  rfl

theorem size_decode_small (raw : UInt32) :
    (decode raw false).size = UInt16.ofNat (raw.toNat % 2 ^ 9) := by
  have mask : (raw &&& maxSmallSize.toUInt32).toNat = raw.toNat % 2 ^ 9 := by
    rw [UInt32.toNat_and]
    exact Nat.and_two_pow_sub_one_eq_mod raw.toNat 9
  rw [← mask]
  rfl

/-- The 32-bit form keeps every size. -/
theorem size_decode_encode_large (params : NetworkParams) :
    (decode (params.encode true) true).size = params.size := by
  have bounded : params.flagWord.toNat < 2 ^ 16 := (flags_bits _ _ _ _).2
  have shifted : (params.flagWord <<< 16).toNat % 2 ^ 16 = 0 := by
    rw [UInt32.toNat_shiftLeft, Nat.shiftLeft_eq]
    change params.flagWord.toNat * 2 ^ 16 % 2 ^ 32 % 2 ^ 16 = 0
    omega
  have low : params.size.toUInt32.toNat < 2 ^ 16 := by
    rw [UInt16.toNat_toUInt32]
    exact UInt16.toNat_lt params.size
  have word : (params.encode true).toNat % 2 ^ 16 = params.size.toNat := by
    rw [encode, if_pos rfl, if_pos rfl, UInt32.toNat_or, or_mod_of_lt 16 shifted low,
      UInt16.toNat_toUInt32]
  rw [size_decode_large, word, UInt16.ofNat_toNat]

/-- The 16-bit form, as the two bytes that are sent, keeps a size of at most nine bits. -/
theorem size_decode_encode_small (params : NetworkParams) (fits : params.size ≤ maxSmallSize) :
    (decode (params.encode false).toUInt16.toUInt32 false).size = params.size := by
  have clear : params.flagWord.toNat % 2 ^ 9 = 0 := (flags_bits _ _ _ _).1
  have small : params.size.toNat < 2 ^ 9 := Nat.lt_succ_of_le (UInt16.le_iff_toNat_le.mp fits)
  have masked : (params.size &&& maxSmallSize).toUInt32.toNat = params.size.toNat := by
    rw [UInt16.toNat_toUInt32, UInt16.toNat_and]
    exact (Nat.and_two_pow_sub_one_eq_mod params.size.toNat 9).trans (Nat.mod_eq_of_lt small)
  have unshifted : params.flagWord <<< 0 = params.flagWord := UInt32.shiftLeft_zero
  have word : (params.encode false).toUInt16.toUInt32.toNat % 2 ^ 9 = params.size.toNat := by
    rw [UInt16.toNat_toUInt32, UInt32.toNat_toUInt16, Nat.mod_mod_of_dvd _ (by decide), encode,
      if_neg Bool.false_ne_true, if_neg Bool.false_ne_true, UInt32.toNat_or, unshifted,
      or_mod_of_lt 9 clear (by rw [masked]; exact small), masked]
  rw [size_decode_small, word, UInt16.ofNat_toNat]

/-- The nine bits of a small size lie outside a mask of the flags. -/
theorem or_and_of_disjoint (word low mask : UInt32) (disjoint : 0x1FF &&& mask = 0) :
    (word ||| (low &&& 0x1FF)) &&& mask = word &&& mask := by
  have distributed : (word ||| (low &&& 0x1FF)) &&& mask =
      (word &&& mask) ||| ((low &&& 0x1FF) &&& mask) := by
    refine UInt32.toNat_inj.mp ?_
    rw [UInt32.toNat_and, UInt32.toNat_or, UInt32.toNat_or, UInt32.toNat_and word,
      UInt32.toNat_and _ mask]
    exact Nat.and_or_distrib_right _ _ _
  rw [distributed, UInt32.and_assoc, disjoint, UInt32.and_zero, UInt32.or_zero]

theorem or_shiftRight_of_disjoint (word low places : UInt32) (disjoint : 0x1FF >>> places = 0) :
    (word ||| (low &&& 0x1FF)) >>> places = word >>> places := by
  rw [UInt32.shiftRight_or, UInt32.shiftRight_and, disjoint, UInt32.and_zero, UInt32.or_zero]

/-- Everything but the size is decoded from the flags, whatever stands below them. -/
theorem decode_of_flags {raw : UInt32} {large : Bool} {params : NetworkParams} (low : UInt32)
    (flags : (if large then raw >>> 16 else raw) = params.flagWord ||| (low &&& 0x1FF)) :
    decode raw large = { params with size := (decode raw large).size } := by
  obtain ⟨redundantOwner, connectionType, priority, sizeType, size⟩ := params
  rw [decode]
  simp only [flags, flagWord, mk.injEq, and_true,
    or_and_of_disjoint _ _ ((1 : UInt32) <<< 15) (by decide),
    or_and_of_disjoint _ _ ((1 : UInt32) <<< 9) (by decide),
    or_shiftRight_of_disjoint _ _ 13 (by decide), or_shiftRight_of_disjoint _ _ 10 (by decide)]
  cases redundantOwner <;> cases connectionType <;> cases priority <;> cases sizeType <;> decide

/-- The 32-bit form is decoded to what was encoded. -/
theorem decode_encode_large (params : NetworkParams) :
    decode (params.encode true) true = params := by
  have high : params.flagWord <<< 16 >>> 16 = params.flagWord := flags_shifted _ _ _ _
  have low : params.size.toUInt32 >>> 16 = 0 := by
    refine UInt32.toNat_inj.mp ?_
    rw [UInt32.toNat_shiftRight, UInt16.toNat_toUInt32, Nat.shiftRight_eq_div_pow]
    exact Nat.div_eq_of_lt (UInt16.toNat_lt params.size)
  have flags : (if true then params.encode true >>> 16 else params.encode true) =
      params.flagWord ||| (0 &&& 0x1FF) := by
    rw [if_pos rfl, encode, if_pos rfl, if_pos rfl, UInt32.shiftRight_or, high, low]
    rfl
  rw [decode_of_flags 0 flags, size_decode_encode_large]

/-- The 16-bit form, as the two bytes that are sent, is decoded to what was encoded when the size
has at most nine bits. -/
theorem decode_encode_small (params : NetworkParams) (fits : params.size ≤ maxSmallSize) :
    decode (params.encode false).toUInt16.toUInt32 false = params := by
  have word : params.encode false = params.flagWord ||| (params.size.toUInt32 &&& 0x1FF) := by
    rw [encode, if_neg Bool.false_ne_true, if_neg Bool.false_ne_true, UInt32.shiftLeft_zero,
      UInt16.toUInt32_and]
    rfl
  have masked : (params.size.toUInt32 &&& 0x1FF).toNat < 2 ^ 16 := by
    rw [UInt32.toNat_and]
    exact Nat.and_lt_two_pow _ (by decide)
  have narrow : (params.encode false).toUInt16.toUInt32 = params.encode false := by
    refine UInt32.toNat_inj.mp ?_
    rw [UInt16.toNat_toUInt32, UInt32.toNat_toUInt16, word, UInt32.toNat_or]
    exact Nat.mod_eq_of_lt (Nat.or_lt_two_pow (flags_bits _ _ _ _).2 masked)
  have flags : (if false then (params.encode false).toUInt16.toUInt32 >>> 16
      else (params.encode false).toUInt16.toUInt32) =
        params.flagWord ||| (params.size.toUInt32 &&& 0x1FF) := by
    rw [if_neg Bool.false_ne_true, narrow, word]
  rw [decode_of_flags _ flags, size_decode_encode_small params fits]

end NetworkParams

/-! ### Connection settings -/

/-- One direction of an I/O connection. The requested packet interval is in nanoseconds. -/
structure Direction where
  size : UInt16
  rpi : Nat
  connectionType : ConnectionType
  priority : Priority
  sizeType : SizeType
  runIdleHeader : Bool
  deriving DecidableEq, Repr

/-- The bytes of a connection path, built by the path builder or given raw. -/
structure ConnectionPath where
  bytes : Bytes
  deriving DecidableEq, Repr

/-- Largest configuration data a simple data segment can carry (255 words). -/
def maxConfigData : Nat := 510

/-- An I/O connection to open. -/
structure ConnectionConfig where
  path : ConnectionPath
  configData : Bytes
  o2t : Direction
  t2o : Direction
  transportClass : TransportClass
  trigger : Trigger
  timeoutMultiplier : UInt8
  originatorVendorId : UInt16
  originatorSerialNumber : UInt32
  deriving DecidableEq, Repr

namespace ConnectionConfig

/-- Class 1, cyclic, timeout multiplier 0 (4 RPIs), originator IDs 0. -/
def new (path : ConnectionPath) (o2t t2o : Direction) : ConnectionConfig where
  path := path
  configData := []
  o2t := o2t
  t2o := t2o
  transportClass := .class1
  trigger := .cyclic
  timeoutMultiplier := 0
  originatorVendorId := 0
  originatorSerialNumber := 0

/-- Bytes on the wire for one direction: sequence count, run/idle header, data. -/
def wireSize (config : ConnectionConfig) (direction : Direction) : Nat :=
  let seq := if config.transportClass.hasSequenceCount then 2 else 0
  let header := if direction.runIdleHeader then 4 else 0
  seq + header + direction.size.toNat

/-- The connection path as sent in a Forward Open: the path, then the configuration data as a
simple data segment, truncated to the largest a segment can carry. -/
def encodedPath (config : ConnectionConfig) : Bytes :=
  if config.configData.isEmpty then config.path.bytes
  else
    let data := config.configData.take (min config.configData.length maxConfigData)
    let words := (data.length + 1) / 2
    config.path.bytes ++ [0x80] ++ [UInt8.ofNat words] ++ data ++
      List.replicate (words * 2 - data.length) 0

end ConnectionConfig

end EipScanner
