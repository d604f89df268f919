/-
This file models the rest of the path builder: electronic keys, backplane slots, and the usual path
to an assembly. An electronic key says which device a connection may be opened to; its major
revision shares a byte with the compatibility bit, so seven bits of it are sent.

A path comes from any sequence of builder calls, and paths are appended to each other. Whatever the
calls, the bytes of the path are read back to what was called, in order. So what a device is asked
for does not depend on how the segments around it happen to be encoded.
-/

import EipScanner.PathReader

namespace EipScanner

/-! ### Keys -/

/-- Vendor, product, and revision the target must match for the connection to be accepted. -/
structure ElectronicKey where
  vendorId : UInt16
  deviceType : UInt16
  productCode : UInt16
  majorRevision : UInt8
  minorRevision : UInt8
  /-- Accept any device that claims to be compatible with this revision. -/
  compatibility : Bool
  deriving DecidableEq, Repr

/-- The key as it is sent: seven bits of the major revision. -/
def ElectronicKey.sent (key : ElectronicKey) : ElectronicKey :=
  { key with majorRevision := key.majorRevision &&& 0x7F }

namespace ConnectionPath

def electronicKeySegment : UInt8 := 0x34
def keyFormat : UInt8 := 0x04
def assemblyClass : UInt16 := 0x04

/-- The major revision and the compatibility bit in one byte. -/
def revisionByte (key : ElectronicKey) : UInt8 :=
  (key.majorRevision &&& 0x7F) ||| if key.compatibility then 0x80 else 0

def keyBytes (key : ElectronicKey) : Bytes :=
  putU8 electronicKeySegment ++ (putU8 keyFormat ++ (putU16 key.vendorId ++
    (putU16 key.deviceType ++ (putU16 key.productCode ++ (putU8 (revisionByte key) ++
      putU8 key.minorRevision)))))

/-- The usual I/O connection path: the Assembly class, the configuration instance, then the output
and input connection points. -/
def assembly (config output input : UInt16) : ConnectionPath :=
  (((new.classId assemblyClass).instanceId config).connectionPoint output).connectionPoint input

end ConnectionPath

/-! ### Segments with keys -/

/-- A segment of a path that may hold a key. -/
inductive KeyedSegment where
  | key (content : ElectronicKey)
  | plain (segment : PathSegment)
  deriving DecidableEq, Repr

namespace KeyedSegment

/-- The segments that have room for what they carry. A key has no more than seven bits of its major
revision. -/
def Fits : KeyedSegment → Prop
  | .key content => content.sent = content
  | .plain segment => segment.Fits

def bytes : KeyedSegment → Bytes
  | .key content => ConnectionPath.keyBytes content
  | .plain segment => segment.bytes

/-- Read a key behind its first byte. -/
def readKey (input : Bytes) : Except Error (KeyedSegment × Bytes) := do
  let (format, input) ← tryGetU8 input
  if format = ConnectionPath.keyFormat then
    let (vendorId, input) ← tryGetU16 input
    let (deviceType, input) ← tryGetU16 input
    let (productCode, input) ← tryGetU16 input
    let (revision, input) ← tryGetU8 input
    let (minorRevision, input) ← tryGetU8 input
    return (.key {
      vendorId, deviceType, productCode
      majorRevision := revision &&& 0x7F
      minorRevision
      compatibility := revision &&& 0x80 != 0 }, input)
  else throw (.invalidPacket "unknown key format")

def read (input : Bytes) : Except Error (KeyedSegment × Bytes) := do
  let (head, behind) ← tryGetU8 input
  if head = ConnectionPath.electronicKeySegment then readKey behind
  else
    let (segment, behind) ← PathSegment.read input
    return (.plain segment, behind)

/-! ### A segment is read back -/

/-- The two parts of the revision byte do not overlap. -/
theorem revisionByte_bits (key : ElectronicKey) :
    ConnectionPath.revisionByte key &&& 0x7F = key.majorRevision &&& 0x7F ∧
      (ConnectionPath.revisionByte key &&& 0x80 != 0) = key.compatibility := by
  have bits : ∀ major : Fin 256, ∀ compatibility : Bool,
      let revision : UInt8 := (UInt8.ofNat major.val &&& 0x7F) ||| if compatibility then 0x80 else 0
      revision &&& 0x7F = UInt8.ofNat major.val &&& 0x7F ∧
        (revision &&& 0x80 != 0) = compatibility := by decide +kernel
  have here := bits ⟨key.majorRevision.toNat, key.majorRevision.toNat_lt⟩ key.compatibility
  rwa [UInt8.ofNat_toNat] at here

/-- What is read of a key is the key as it is sent. -/
theorem read_keyBytes (key : ElectronicKey) (rest : Bytes) :
    read (ConnectionPath.keyBytes key ++ rest) = .ok (.key key.sent, rest) := by
  obtain ⟨major, compatibility⟩ := revisionByte_bits key
  simp only [ConnectionPath.keyBytes, List.append_assoc, read, tryGetU8_putU8, ok_bind, if_pos,
    readKey, tryGetU16_putU16, major, compatibility]
  rfl

/-- No other segment begins as a key does. -/
theorem read_plain {segment : PathSegment} (fits : segment.Fits) (rest : Bytes) :
    read (segment.bytes ++ rest) = .ok (.plain segment, rest) := by
  have whole := PathSegment.delimits.read_write segment rest fits
  obtain ⟨head, behind, split⟩ := List.exists_cons_of_ne_nil
    (PathSegment.delimits.write_ne_nil segment fits)
  have front : tryGetU8 (segment.bytes ++ rest) = .ok (head, behind ++ rest) := by
    rw [split, List.cons_append, ← tryGetU8_putU8 head (behind ++ rest), putU8_eq,
      List.singleton_append]
  have other : head ≠ ConnectionPath.electronicKeySegment := by
    rintro rfl
    rw [PathSegment.read, front, ok_bind] at whole
    cases whole
  rw [read, front, ok_bind]
  dsimp only
  rw [if_neg other, whole, ok_bind]
  rfl

theorem delimits : SelfDelimiting.Delimits Fits bytes read where
  read_write segment rest fits := by
    cases segment with
    | key content =>
      have same : content.sent = content := fits
      have back := read_keyBytes content rest
      rwa [same] at back
    | plain segment => exact read_plain fits rest
  write_ne_nil segment fits := by
    cases segment with
    | key content => exact List.append_ne_nil_of_left_ne_nil (List.cons_ne_nil _ _) _
    | plain segment => exact PathSegment.delimits.write_ne_nil segment fits

/-- Read all the segments of a path. -/
def readAll (input : Bytes) : Except Error (List KeyedSegment) :=
  (SelfDelimiting.readMany read input.length input).map Prod.fst

theorem readAll_flatMap {segments : List KeyedSegment}
    (fits : ∀ segment ∈ segments, segment.Fits) :
    readAll (segments.flatMap bytes) = .ok segments := by
  rw [readAll, delimits.readMany_write fits (delimits.length_le_flatMap fits)]
  rfl

theorem even_bytes {segment : KeyedSegment} (fits : segment.Fits) :
    segment.bytes.length % 2 = 0 := by
  cases segment with
  | key content =>
    simp only [bytes, ConnectionPath.keyBytes, List.length_append, length_putU8, length_putU16]
  | plain segment => exact (PathSegment.length_bytes fits).1

end KeyedSegment

/-! ### What a path asks for -/

/-- What a segment asks for. A link that is no slot and no address names a node. -/
inductive PathRequest where
  | key (content : ElectronicKey)
  | hop (target : Hop)
  | node (port : UInt16) (link : Bytes)
  | logical (kind : LogicalKind) (id : UInt16)
  | data (content : Bytes)
  deriving DecidableEq, Repr

def PathElement.request : PathElement → PathRequest
  | .hop target => .hop target
  | .logical kind id => .logical kind id
  | .data content => .data content

def PathSegment.request : PathSegment → PathRequest
  | .port number link =>
    match Link.ofBytes link with
    | some link => .hop ⟨number, link⟩
    | none => .node number link
  | .logical kind id => .logical kind id
  | .data content => .data content

def KeyedSegment.request : KeyedSegment → PathRequest
  | .key content => .key content
  | .plain segment => segment.request

/-- Bytes that are made of segments that ask for something. -/
def AsksFor (path : Bytes) (requests : List PathRequest) : Prop :=
  ∃ segments : List KeyedSegment, path = segments.flatMap KeyedSegment.bytes ∧
    (∀ segment ∈ segments, segment.Fits) ∧ segments.map KeyedSegment.request = requests

namespace AsksFor

theorem nil : AsksFor [] [] := ⟨[], rfl, List.forall_mem_nil _, rfl⟩

theorem single {segment : KeyedSegment} (fits : segment.Fits) :
    AsksFor segment.bytes [segment.request] := by
  refine ⟨[segment], ?_, List.forall_mem_singleton.mpr fits, rfl⟩
  rw [List.flatMap_cons, List.flatMap_nil, List.append_nil]

variable {first second : Bytes} {left right : List PathRequest}

theorem append (front : AsksFor first left) (back : AsksFor second right) :
    AsksFor (first ++ second) (left ++ right) := by
  obtain ⟨segments, rfl, fits, rfl⟩ := front
  obtain ⟨others, rfl, fitsOthers, rfl⟩ := back
  exact ⟨segments ++ others, List.flatMap_append.symm,
    List.forall_mem_append.mpr ⟨fits, fitsOthers⟩, List.map_append⟩

theorem even (asks : AsksFor first left) : first.length % 2 = 0 := by
  obtain ⟨segments, rfl, fits, -⟩ := asks
  induction segments with
  | nil => rfl
  | cons segment segments inductionHypothesis =>
    obtain ⟨here, others⟩ := List.forall_mem_cons.mp fits
    have first := KeyedSegment.even_bytes here
    have behind := inductionHypothesis others
    rw [List.flatMap_cons, List.length_append]
    omega

end AsksFor

/-- The key is the key as it is sent: its major revision loses its highest bit. -/
theorem keyBytes_sent (key : ElectronicKey) :
    ConnectionPath.keyBytes key.sent = ConnectionPath.keyBytes key := by
  have masked : key.majorRevision &&& 0x7F &&& 0x7F = key.majorRevision &&& 0x7F := by
    rw [UInt8.and_assoc]
    rfl
  have byte : ConnectionPath.revisionByte key.sent = ConnectionPath.revisionByte key :=
    congrArg (· ||| if key.compatibility then 0x80 else 0) masked
  rw [ConnectionPath.keyBytes, byte]
  rfl

theorem AsksFor.key (key : ElectronicKey) :
    AsksFor (ConnectionPath.keyBytes key) [.key key.sent] := by
  have fits : (KeyedSegment.key key.sent).Fits := by
    change key.sent.sent = key.sent
    rw [ElectronicKey.sent, ElectronicKey.sent, UInt8.and_assoc]
    rfl
  rw [← keyBytes_sent]
  exact AsksFor.single fits

end EipScanner
