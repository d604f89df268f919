/-
This file models the logical paths of requests: class, instance and attribute IDs as a
sequence of segments, each with its value in sixteen bits, or in eight bits when the
encoder is asked for small segments and the value fits.

The decoder takes segment after segment and keeps the last value of each kind. What the
encoder writes is decoded to the path it was written for in either size.
-/

import EipScanner.Buf
import EipScanner.SelfDelimiting

namespace EipScanner

open SelfDelimiting

/-- How logical segments are encoded in a padded EPATH. -/
inductive SegmentSize where
  | bits16
  | bits8
  deriving DecidableEq, Repr

/-- A logical path of class, instance, and attribute IDs. -/
structure EPath where
  classId : UInt16
  instanceId : Option UInt16
  attributeId : Option UInt16
  deriving DecidableEq, Repr

namespace EPath

def class8 : UInt8 := 0x20
def class16 : UInt8 := 0x21
def instance8 : UInt8 := 0x24
def instance16 : UInt8 := 0x25
def attribute8 : UInt8 := 0x30
def attribute16 : UInt8 := 0x31

def ofClass (classId : UInt16) : EPath := ⟨classId, none, none⟩

def ofInstance (classId instanceId : UInt16) : EPath := ⟨classId, some instanceId, none⟩

def ofAttribute (classId instanceId attributeId : UInt16) : EPath :=
  ⟨classId, some instanceId, some attributeId⟩

/-! ### Encoding -/

def putSegment (seg8 seg16 : UInt8) (value : UInt16) (size : SegmentSize) : Bytes :=
  if size = .bits8 ∧ value ≤ 255 then putU8 seg8 ++ putU8 value.toUInt8
  else putU8 seg16 ++ (putU8 0 ++ putU16 value)

/-- A segment that is there only when the path has the ID. -/
def putOptional (seg8 seg16 : UInt8) (value : Option UInt16) (size : SegmentSize) : Bytes :=
  match value with
  | none => []
  | some value => putSegment seg8 seg16 value size

/-- Encodes the path; its size in 16-bit words is half the length. -/
def encode (path : EPath) (size : SegmentSize) : Bytes :=
  putSegment class8 class16 path.classId size ++
    (putOptional instance8 instance16 path.instanceId size ++
      putOptional attribute8 attribute16 path.attributeId size)

/-! ### Decoding -/

/-- A segment that was decoded: its code and its value. -/
structure Segment where
  code : UInt8
  value : UInt16
  deriving DecidableEq, Repr

def decodeSegment (data : Bytes) : Except Error (Segment × Bytes) := do
  let (segment, data) ← tryGetU8 data
  if segment = class8 ∨ segment = instance8 ∨ segment = attribute8 then
    let (value, data) ← tryGetU8 data
    return (⟨segment, value.toUInt16⟩, data)
  else if segment = class16 ∨ segment = instance16 ∨ segment = attribute16 then
    let (_, data) ← tryGetU8 data
    let (value, data) ← tryGetU16 data
    return (⟨segment, value⟩, data)
  else
    throw (.invalidPacket s!"unknown EPATH segment {hexByteText segment.toNat}")

def assign (path : EPath) (segment : Segment) : EPath :=
  if segment.code = class8 ∨ segment.code = class16 then
    { path with classId := segment.value }
  else if segment.code = instance8 ∨ segment.code = instance16 then
    { path with instanceId := some segment.value }
  else { path with attributeId := some segment.value }

/-- Decodes a padded path containing class, instance, and attribute segments. A segment takes at
least one byte, so there are no more of them than bytes. -/
def decode (data : Bytes) : Except Error EPath := do
  let (segments, _) ← readMany decodeSegment data.length data
  return segments.foldl assign ⟨0, none, none⟩

/-! ### Round trip -/

/-- A segment whose code says how wide its value is. -/
def Segment.Fits (segment : Segment) : Prop :=
  ((segment.code = class8 ∨ segment.code = instance8 ∨ segment.code = attribute8) ∧
      segment.value ≤ 255) ∨
    segment.code = class16 ∨ segment.code = instance16 ∨ segment.code = attribute16

def Segment.encode (segment : Segment) : Bytes :=
  if segment.code = class8 ∨ segment.code = instance8 ∨ segment.code = attribute8 then
    putU8 segment.code ++ putU8 segment.value.toUInt8
  else putU8 segment.code ++ (putU8 0 ++ putU16 segment.value)

theorem delimits : Delimits Segment.Fits Segment.encode decodeSegment where
  read_write segment rest fits := by
    rcases fits with ⟨narrow, small⟩ | wide
    · have value : segment.value.toUInt8.toUInt16 = segment.value := by
        refine UInt16.toNat_inj.mp ?_
        rw [UInt8.toNat_toUInt16, UInt16.toNat_toUInt8]
        exact Nat.mod_eq_of_lt (Nat.lt_succ_of_le (UInt16.le_iff_toNat_le.mp small))
      rw [Segment.encode, if_pos narrow, List.append_assoc, decodeSegment, tryGetU8_putU8, ok_bind]
      dsimp only
      rw [if_pos narrow, tryGetU8_putU8, ok_bind]
      dsimp only
      rw [value]
      rfl
    · have notNarrow : ¬ (segment.code = class8 ∨ segment.code = instance8 ∨
          segment.code = attribute8) := by
        rcases wide with code | code | code <;> rw [code] <;> decide
      rw [Segment.encode, if_neg notNarrow, List.append_assoc, List.append_assoc, decodeSegment,
        tryGetU8_putU8, ok_bind]
      dsimp only
      rw [if_neg notNarrow, if_pos wide, tryGetU8_putU8, ok_bind]
      dsimp only
      rw [tryGetU16_putU16, ok_bind]
      rfl
  write_ne_nil segment _ := by
    rw [Segment.encode]
    split <;> exact List.append_ne_nil_of_left_ne_nil (List.cons_ne_nil _ _) _

/-- The segment that is written for a value. -/
def segmentOf (seg8 seg16 : UInt8) (size : SegmentSize) (value : UInt16) : Segment :=
  if size = .bits8 ∧ value ≤ 255 then ⟨seg8, value⟩ else ⟨seg16, value⟩

/-- The segments that are written for a path. -/
def segments (path : EPath) (size : SegmentSize) : List Segment :=
  segmentOf class8 class16 size path.classId ::
    (path.instanceId.toList.map (segmentOf instance8 instance16 size) ++
      path.attributeId.toList.map (segmentOf attribute8 attribute16 size))

/-- A pair of codes for one kind of segment. -/
structure Kind (seg8 seg16 : UInt8) : Prop where
  narrow : seg8 = class8 ∨ seg8 = instance8 ∨ seg8 = attribute8
  wide : seg16 = class16 ∨ seg16 = instance16 ∨ seg16 = attribute16

theorem classKind : Kind class8 class16 := ⟨Or.inl rfl, Or.inl rfl⟩

theorem instanceKind : Kind instance8 instance16 := ⟨Or.inr (Or.inl rfl), Or.inr (Or.inl rfl)⟩

theorem attributeKind : Kind attribute8 attribute16 := ⟨Or.inr (Or.inr rfl), Or.inr (Or.inr rfl)⟩

section
variable {seg8 seg16 : UInt8} (kind : Kind seg8 seg16) (size : SegmentSize)

include kind

theorem fits_segmentOf (value : UInt16) : (segmentOf seg8 seg16 size value).Fits := by
  unfold segmentOf
  split
  next small => exact Or.inl ⟨kind.narrow, small.2⟩
  next => exact Or.inr kind.wide

theorem encode_segmentOf (value : UInt16) :
    (segmentOf seg8 seg16 size value).encode = putSegment seg8 seg16 value size := by
  have notNarrow : ¬ (seg16 = class8 ∨ seg16 = instance8 ∨ seg16 = attribute8) := by
    rcases kind.wide with code | code | code <;> rw [code] <;> decide
  unfold segmentOf putSegment
  split
  · exact if_pos kind.narrow
  · exact if_neg notNarrow

theorem flatMap_putOptional (value : Option UInt16) :
    (value.toList.map (segmentOf seg8 seg16 size)).flatMap Segment.encode =
      putOptional seg8 seg16 value size := by
  cases value with
  | none => rfl
  | some value =>
    rw [Option.toList_some, List.map_singleton, List.flatMap_singleton, encode_segmentOf kind]
    rfl

end

theorem flatMap_segments (path : EPath) (size : SegmentSize) :
    (path.segments size).flatMap Segment.encode = path.encode size := by
  rw [segments, List.flatMap_cons, List.flatMap_append, encode_segmentOf classKind,
    flatMap_putOptional instanceKind, flatMap_putOptional attributeKind, encode]

theorem fits_segments (path : EPath) (size : SegmentSize) :
    ∀ segment ∈ path.segments size, segment.Fits := by
  intro segment member
  rcases List.mem_cons.mp member with rfl | member
  · exact fits_segmentOf classKind size path.classId
  · rcases List.mem_append.mp member with inInstance | inAttribute
    · obtain ⟨value, -, rfl⟩ := List.mem_map.mp inInstance
      exact fits_segmentOf instanceKind size value
    · obtain ⟨value, -, rfl⟩ := List.mem_map.mp inAttribute
      exact fits_segmentOf attributeKind size value

theorem assign_class (path : EPath) (size : SegmentSize) (value : UInt16) :
    path.assign (segmentOf class8 class16 size value) = { path with classId := value } := by
  unfold segmentOf
  split
  · exact if_pos (Or.inl rfl)
  · exact if_pos (Or.inr rfl)

theorem assign_instance (path : EPath) (size : SegmentSize) (value : UInt16) :
    path.assign (segmentOf instance8 instance16 size value) =
      { path with instanceId := some value } := by
  unfold segmentOf
  split <;> rfl

theorem assign_attribute (path : EPath) (size : SegmentSize) (value : UInt16) :
    path.assign (segmentOf attribute8 attribute16 size value) =
      { path with attributeId := some value } := by
  unfold segmentOf
  split <;> rfl

/-- A path is decoded from its encoding, in either size. -/
theorem decode_encode (path : EPath) (size : SegmentSize) :
    decode (path.encode size) = .ok path := by
  have enough := delimits.length_le_flatMap (path.fits_segments size)
  have read := delimits.readMany_write (path.fits_segments size) enough
  rw [flatMap_segments] at read
  rw [decode, read, ok_bind]
  obtain ⟨classId, instanceId, attributeId⟩ := path
  cases instanceId <;> cases attributeId <;>
    simp only [segments, Option.toList_none, Option.toList_some, List.map_nil, List.map_singleton,
      List.nil_append, List.append_nil, List.singleton_append, List.foldl_cons, List.foldl_nil,
      assign_class, assign_instance, assign_attribute] <;> rfl

/-! ### The length of a path -/

theorem length_putSegment (seg8 seg16 : UInt8) (value : UInt16) (size : SegmentSize) :
    (putSegment seg8 seg16 value size).length = 2 ∨
      (putSegment seg8 seg16 value size).length = 4 := by
  unfold putSegment
  split
  · exact Or.inl rfl
  · refine Or.inr ?_
    simp only [List.length_append, length_putU8, length_putU16]

theorem length_putOptional (seg8 seg16 : UInt8) (value : Option UInt16) (size : SegmentSize) :
    (putOptional seg8 seg16 value size).length % 2 = 0 ∧
      (putOptional seg8 seg16 value size).length ≤ 4 := by
  cases value with
  | none => exact ⟨rfl, Nat.zero_le _⟩
  | some value =>
    rcases length_putSegment seg8 seg16 value size with length | length <;>
      rw [putOptional, length] <;> decide

/-- A path takes a whole number of words, and at most six. -/
theorem length_encode (path : EPath) (size : SegmentSize) :
    (path.encode size).length % 2 = 0 ∧ (path.encode size).length ≤ 12 := by
  have first := length_putSegment class8 class16 path.classId size
  have second := length_putOptional instance8 instance16 path.instanceId size
  have third := length_putOptional attribute8 attribute16 path.attributeId size
  rw [encode, List.length_append, List.length_append]
  omega

end EPath

end EipScanner
