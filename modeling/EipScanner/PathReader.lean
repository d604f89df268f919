/-
This file reads connection paths back. A padded path is a row of segments of even length, and
the first byte of a segment tells its kind: a port segment, whose link may stand behind its
length and whose port may take two bytes more, a logical segment of eight or sixteen bits, or a
simple data segment. The reader takes segment after segment off the front, by the general
reader of values that say where they end.

A path that was built from a route and logical segments is read back to the hops of the route
and the identifiers, in their order, whatever was appended to what. So two such paths with the
same bytes have the same hops and the same identifiers.
-/

import EipScanner.ConnectionPath
import EipScanner.SelfDelimiting

namespace EipScanner

/-! ### Segments -/

/-- What a logical segment of a connection path identifies. -/
inductive LogicalKind where
  | classId
  | instanceId
  | connectionPoint
  deriving DecidableEq, Repr

def LogicalKind.segment8 : LogicalKind → UInt8
  | .classId => ConnectionPath.class8
  | .instanceId => ConnectionPath.instance8
  | .connectionPoint => ConnectionPath.connectionPoint8

/-- A segment of a connection path. The link of a port is the bytes it is addressed by. -/
inductive PathSegment where
  | port (number : UInt16) (link : Bytes)
  | logical (kind : LogicalKind) (id : UInt16)
  | data (content : Bytes)
  deriving DecidableEq, Repr

namespace PathSegment

/-- The segments that have room for what they carry. -/
def Fits : PathSegment → Prop
  | .port _ link => link.length < 2 ^ 8
  | .logical _ _ => True
  | .data content => content.length % 2 = 0 ∧ content.length ≤ maxConfigData

/-- The bytes of a segment in a padded path. -/
def bytes : PathSegment → Bytes
  | .port number link => (ConnectionPath.new.port number link).bytes
  | .logical kind id => ConnectionPath.logicalSegment kind.segment8 id
  | .data content => putU8 0x80 ++ putU8 (UInt8.ofNat (content.length / 2)) ++ content

/-! ### The reader -/

/-- Read the length of a link. A link without a length takes one byte. -/
def readLinkLength (extended : Bool) (input : Bytes) : Except Error (UInt8 × Bytes) :=
  if extended then tryGetU8 input else .ok (1, input)

/-- Read a port that takes two bytes of its own, or take the one from the segment's first byte. -/
def readPortNumber (extended : Bool) (inHead : UInt8) (input : Bytes) :
    Except Error (UInt16 × Bytes) :=
  if extended then tryGetU16 input else .ok (inHead.toUInt16, input)

/-- Pass over the pad byte behind a segment of odd size. -/
def skipPad (size : Nat) (input : Bytes) : Except Error Bytes :=
  if size % 2 = 0 then .ok input else trySkip 1 input

/-- The size of a port segment without its pad byte. -/
def portSize (extendedLink extendedPort : Bool) (linkLength : Nat) : Nat :=
  1 + (if extendedLink then 1 else 0) + (if extendedPort then 2 else 0) + linkLength

/-- Read a port segment behind its first byte. -/
def readPort (head : UInt8) (input : Bytes) : Except Error (PathSegment × Bytes) := do
  let extendedLink := head &&& 0x10 != 0
  let extendedPort := head &&& 0x0F == 0x0F
  let (length, input) ← readLinkLength extendedLink input
  let (number, input) ← readPortNumber extendedPort (head &&& 0x0F) input
  let (link, input) ← tryGetVec length.toNat input
  let input ← skipPad (portSize extendedLink extendedPort length.toNat) input
  return (.port number link, input)

/-- Read a logical segment behind its first byte: eight bits, or a pad byte and sixteen bits. -/
def readLogical (kind : LogicalKind) (wide : Bool) (input : Bytes) :
    Except Error (PathSegment × Bytes) := do
  if wide then
    let (_, input) ← tryGetU8 input
    let (id, input) ← tryGetU16 input
    return (.logical kind id, input)
  else
    let (id, input) ← tryGetU8 input
    return (.logical kind id.toUInt16, input)

/-- Read a simple data segment behind its first byte. -/
def readData (input : Bytes) : Except Error (PathSegment × Bytes) := do
  let (words, input) ← tryGetU8 input
  let (content, input) ← tryGetVec (words.toNat * 2) input
  return (.data content, input)

def read (input : Bytes) : Except Error (PathSegment × Bytes) := do
  let (head, input) ← tryGetU8 input
  if head &&& 0xE0 = 0 then readPort head input
  else
    match head with
    | 0x20 => readLogical .classId false input
    | 0x21 => readLogical .classId true input
    | 0x24 => readLogical .instanceId false input
    | 0x25 => readLogical .instanceId true input
    | 0x2C => readLogical .connectionPoint false input
    | 0x2D => readLogical .connectionPoint true input
    | 0x80 => readData input
    | _ => .error (.invalidPacket "unknown path segment")

/-- Read all the segments of a path. -/
def readAll (input : Bytes) : Except Error (List PathSegment) :=
  (SelfDelimiting.readMany read input.length input).map Prod.fst

/-! ### A segment is read back -/

/-- The first byte of a port segment holds its three parts. -/
theorem head_bits (port : UInt16) (extendedLink : Bool) :
    let segment : UInt8 := if decide (15 ≤ port) then 0x0F else port.toUInt8
    let head := if extendedLink then segment ||| 0x10 else segment
    head &&& 0xE0 = 0 ∧ (head &&& 0x10 != 0) = extendedLink ∧ head &&& 0x0F = segment := by
  by_cases extended : 15 ≤ port
  · simp only [decide_eq_true extended, if_true]
    cases extendedLink <;> decide
  · have small : port.toNat < 15 := by
      rw [UInt16.le_iff_toNat_le] at extended
      exact Nat.lt_of_not_le extended
    have bits : ∀ number : Fin 15, ∀ long : Bool,
        let segment : UInt8 := (UInt16.ofNat number.val).toUInt8
        let head := if long then segment ||| 0x10 else segment
        head &&& 0xE0 = 0 ∧ (head &&& 0x10 != 0) = long ∧ head &&& 0x0F = segment := by decide
    have here := bits ⟨port.toNat, small⟩ extendedLink
    simp only [UInt16.ofNat_toNat] at here
    simpa only [decide_eq_false extended, Bool.false_eq_true, if_false] using here

theorem extendedPort_eq (port : UInt16) :
    ((if decide (15 ≤ port) then 0x0F else port.toUInt8) == (0x0F : UInt8)) =
      decide (15 ≤ port) := by
  by_cases extended : 15 ≤ port
  · rw [decide_eq_true extended]
    rfl
  · have small : port.toNat < 15 := by
      rw [UInt16.le_iff_toNat_le] at extended
      exact Nat.lt_of_not_le extended
    have other : port.toUInt8 ≠ 0x0F := by
      intro same
      have value := congrArg UInt8.toNat same
      rw [UInt16.toNat_toUInt8, Nat.mod_eq_of_lt (small.trans (by decide))] at value
      exact absurd value (Nat.ne_of_lt small)
    rw [decide_eq_false extended, if_neg Bool.false_ne_true]
    exact beq_eq_false_iff_ne.mpr other

/-- The link's length is read where it was written, and is one where it was not. -/
theorem readLinkLength_append (link rest : Bytes) :
    readLinkLength (decide (link.length ≠ 1))
        ((if decide (link.length ≠ 1) then putU8 (UInt8.ofNat link.length) else []) ++ rest) =
      .ok (UInt8.ofNat link.length, rest) := by
  by_cases extended : link.length ≠ 1
  · rw [readLinkLength, decide_eq_true extended, if_pos rfl, if_pos rfl, tryGetU8_putU8]
  · rw [readLinkLength, decide_eq_false extended, if_neg Bool.false_ne_true,
      if_neg Bool.false_ne_true, not_not.mp extended]
    rfl

/-- The port is read from its two bytes, or from the first byte of the segment. -/
theorem readPortNumber_append (port : UInt16) (rest : Bytes) :
    readPortNumber (decide (15 ≤ port)) (if decide (15 ≤ port) then 0x0F else port.toUInt8)
        ((if decide (15 ≤ port) then putU16 port else []) ++ rest) = .ok (port, rest) := by
  by_cases extended : 15 ≤ port
  · rw [readPortNumber, decide_eq_true extended, if_pos rfl, if_pos rfl, tryGetU16_putU16]
  · have small : port.toNat < 2 ^ 8 := by
      rw [UInt16.le_iff_toNat_le] at extended
      exact (Nat.lt_of_not_le extended).trans (by decide)
    have narrow : port.toUInt8.toUInt16 = port := by
      refine UInt16.toNat_inj.mp ?_
      rw [UInt8.toNat_toUInt16, UInt16.toNat_toUInt8, Nat.mod_eq_of_lt small]
    rw [readPortNumber, decide_eq_false extended, if_neg Bool.false_ne_true,
      if_neg Bool.false_ne_true, if_neg Bool.false_ne_true, narrow]
    rfl

theorem skipPad_append (size : Nat) (rest : Bytes) :
    skipPad size ((if size % 2 = 0 then [] else putU8 0) ++ rest) = .ok rest := by
  by_cases even : size % 2 = 0
  · rw [skipPad, if_pos even, if_pos even, List.nil_append]
  · rw [skipPad, if_neg even, if_neg even]
    exact trySkip_append (putU8 0) rest

theorem length_portSegment (port : UInt16) (link : Bytes) :
    (ConnectionPath.portSegment port link).length =
      portSize (decide (link.length ≠ 1)) (decide (15 ≤ port)) link.length := by
  rw [ConnectionPath.portSegment, portSize]
  simp only [List.length_append, length_putU8, apply_ite List.length, length_putU16,
    List.length_nil]

theorem read_port (port : UInt16) {link : Bytes} (short : link.length < 2 ^ 8) (rest : Bytes) :
    read ((PathSegment.port port link).bytes ++ rest) = .ok (.port port link, rest) := by
  obtain ⟨clear, linkBit, portBits⟩ := head_bits port (decide (link.length ≠ 1))
  have length : (UInt8.ofNat link.length).toNat = link.length := by
    rw [UInt8.toNat_ofNat', Nat.mod_eq_of_lt short]
  rw [bytes, ConnectionPath.port]
  dsimp only
  rw [length_portSegment, ConnectionPath.portSegment]
  simp only [ConnectionPath.new, List.nil_append, List.append_assoc]
  rw [read, tryGetU8_putU8, ok_bind]
  dsimp only
  rw [if_pos clear, readPort, linkBit, portBits, extendedPort_eq, readLinkLength_append, ok_bind]
  dsimp only
  rw [readPortNumber_append, ok_bind]
  dsimp only
  rw [length, tryGetVec_append, ok_bind]
  dsimp only
  rw [skipPad_append, ok_bind]
  rfl

theorem read_logical (kind : LogicalKind) (id : UInt16) (rest : Bytes) :
    read ((PathSegment.logical kind id).bytes ++ rest) = .ok (.logical kind id, rest) := by
  rw [bytes, ConnectionPath.logicalSegment]
  split
  next small =>
    have narrow : id.toUInt8.toUInt16 = id := by
      have bound : id.toNat ≤ 255 := UInt16.le_iff_toNat_le.mp small
      refine UInt16.toNat_inj.mp ?_
      rw [UInt8.toNat_toUInt16, UInt16.toNat_toUInt8, Nat.mod_eq_of_lt (by omega)]
    have behind : readLogical kind false (putU8 id.toUInt8 ++ rest) =
        .ok (.logical kind id, rest) := by
      rw [readLogical, if_neg Bool.false_ne_true, tryGetU8_putU8, ok_bind]
      dsimp only
      rw [narrow]
      rfl
    rw [List.append_assoc, read, tryGetU8_putU8, ok_bind]
    cases kind <;> exact behind
  next large =>
    have behind : readLogical kind true (putU8 0 ++ (putU16 id ++ rest)) =
        .ok (.logical kind id, rest) := by
      rw [readLogical, if_pos rfl, tryGetU8_putU8, ok_bind]
      dsimp only
      rw [tryGetU16_putU16, ok_bind]
      rfl
    rw [List.append_assoc, List.append_assoc, read, tryGetU8_putU8, ok_bind]
    cases kind <;> exact behind

theorem read_data {content : Bytes} (even : content.length % 2 = 0)
    (short : content.length ≤ maxConfigData) (rest : Bytes) :
    read ((PathSegment.data content).bytes ++ rest) = .ok (.data content, rest) := by
  have words : (UInt8.ofNat (content.length / 2)).toNat * 2 = content.length := by
    rw [maxConfigData] at short
    rw [UInt8.toNat_ofNat']
    omega
  have behind : readData (putU8 (UInt8.ofNat (content.length / 2)) ++ (content ++ rest)) =
      .ok (.data content, rest) := by
    rw [readData, tryGetU8_putU8, ok_bind]
    dsimp only
    rw [words, tryGetVec_append, ok_bind]
    rfl
  rw [bytes, List.append_assoc, List.append_assoc, read, tryGetU8_putU8, ok_bind]
  exact behind

/-- A segment has an even number of bytes, and at least its first. -/
theorem length_bytes {segment : PathSegment} (fits : segment.Fits) :
    segment.bytes.length % 2 = 0 ∧ segment.bytes ≠ [] := by
  have positive : segment.bytes.length % 2 = 0 ∧ 0 < segment.bytes.length := by
    cases segment with
    | port number link =>
      have size := length_portSegment number link
      rw [portSize] at size
      rw [bytes, ConnectionPath.port]
      simp only [ConnectionPath.new, List.nil_append, List.length_append]
      split
      · rw [List.length_nil]
        omega
      · rw [length_putU8]
        omega
    | logical kind id =>
      rw [bytes, ConnectionPath.logicalSegment]
      split
      · rw [List.length_append, length_putU8, length_putU8]
        decide
      · rw [List.length_append, List.length_append, length_putU8, length_putU8, length_putU16]
        decide
    | data content =>
      have even := fits.1
      rw [bytes, List.length_append, List.length_append, length_putU8, length_putU8]
      omega
  exact ⟨positive.1, List.length_pos_iff.mp positive.2⟩

theorem delimits : SelfDelimiting.Delimits Fits bytes read where
  read_write segment rest fits := by
    cases segment with
    | port number link => exact read_port number fits rest
    | logical kind id => exact read_logical kind id rest
    | data content => exact read_data fits.1 fits.2 rest
  write_ne_nil _ fits := (length_bytes fits).2

theorem readAll_flatMap {segments : List PathSegment} (fits : ∀ segment ∈ segments, segment.Fits) :
    readAll (segments.flatMap bytes) = .ok segments := by
  rw [readAll, delimits.readMany_write fits (delimits.length_le_flatMap fits)]
  rfl

end PathSegment

/-! ### What a path says -/

/-- Where a hop leads: to a slot or node, or to an IPv4 address. -/
inductive Link where
  | slot (number : UInt8)
  | address (ip : Ipv4Addr)
  deriving DecidableEq, Repr

structure Hop where
  port : UInt16
  link : Link
  deriving DecidableEq, Repr

inductive PathElement where
  | hop (hop : Hop)
  | logical (kind : LogicalKind) (id : UInt16)
  | data (content : Bytes)
  deriving DecidableEq, Repr

/-- A single byte is a slot, and any other link has to be the text of an address. -/
def Link.ofBytes (link : Bytes) : Option Link :=
  match link with
  | [number] => some (.slot number)
  | _ => (Ipv4Addr.fromStr (Text.ofAscii link)).map .address

def PathSegment.element : PathSegment → Option PathElement
  | .port number link => (Link.ofBytes link).map fun link => .hop ⟨number, link⟩
  | .logical kind id => some (.logical kind id)
  | .data content => some (.data content)

/-- The reader of padded paths. -/
def readPath (path : Bytes) : Option (List PathElement) :=
  match PathSegment.readAll path with
  | .ok segments => segments.mapM PathSegment.element
  | .error _ => none

/-- Bytes that are made of segments for some elements. -/
def Spells (path : Bytes) (elements : List PathElement) : Prop :=
  ∃ segments : List PathSegment, path = segments.flatMap PathSegment.bytes ∧
    (∀ segment ∈ segments, segment.Fits) ∧ segments.mapM PathSegment.element = some elements

namespace Spells

theorem nil : Spells [] [] := ⟨[], rfl, nofun, rfl⟩

theorem single {segment : PathSegment} {element : PathElement} (fits : segment.Fits)
    (means : segment.element = some element) : Spells segment.bytes [element] := by
  refine ⟨[segment], ?_, List.forall_mem_singleton.mpr fits, ?_⟩
  · rw [List.flatMap_cons, List.flatMap_nil, List.append_nil]
  · rw [List.mapM_cons, means]
    rfl

variable {first second : Bytes} {left right : List PathElement}

theorem append (front : Spells first left) (back : Spells second right) :
    Spells (first ++ second) (left ++ right) := by
  obtain ⟨segments, rfl, fits, means⟩ := front
  obtain ⟨others, rfl, fitsOthers, meansOthers⟩ := back
  refine ⟨segments ++ others, List.flatMap_append.symm, ?_, ?_⟩
  · exact List.forall_mem_append.mpr ⟨fits, fitsOthers⟩
  · rw [List.mapM_append, means, meansOthers]
    rfl

/-- The elements are read back. -/
theorem readPath_eq (spells : Spells first left) : readPath first = some left := by
  obtain ⟨segments, rfl, fits, means⟩ := spells
  rw [readPath, PathSegment.readAll_flatMap fits]
  exact means

theorem even (spells : Spells first left) : first.length % 2 = 0 := by
  obtain ⟨segments, rfl, fits, -⟩ := spells
  induction segments with
  | nil => rfl
  | cons segment segments inductionHypothesis =>
    have here := (PathSegment.length_bytes (fits segment List.mem_cons_self)).1
    have behind := inductionHypothesis fun other member =>
      fits other (List.mem_cons_of_mem segment member)
    rw [List.flatMap_cons, List.length_append]
    omega

end Spells

/-! ### What a route says -/

/-- The link that a text names. -/
def Link.parse (text : List Char) : Option Link :=
  match Text.fromStrRadix 10 (2 ^ 8) text with
  | some number => some (.slot (UInt8.ofNat number))
  | none => (Ipv4Addr.fromStr text).map .address

/-- The hops that ports and links name, in turn. -/
def hopsOf : List (List Char) → Option (List Hop)
  | [] => some []
  | [_] => none
  | portText :: linkText :: rest => do
    let number ← (Text.fromStrRadix 10 (2 ^ 16) portText).filter (decide <| · ≠ 0)
    let link ← Link.parse linkText
    let hops ← hopsOf rest
    return ⟨UInt16.ofNat number, link⟩ :: hops

/-- The hops that the text of a route names. -/
def routeHops (spec : List Char) : Option (List Hop) := hopsOf (ConnectionPath.routeTokens spec)

theorem parsed_octet {text : List Char} {number : Nat} (parsed : parseOctet text = some number) :
    (∀ c ∈ text, c.toNat < 128) ∧ 1 ≤ text.length ∧ text.length ≤ 3 := by
  rw [parseOctet] at parsed
  split at parsed
  · exact absurd parsed nofun
  next shaped =>
    have digits := (Option.filter_eq_some_iff.mp parsed).1
    refine ⟨Text.lt_of_readDigits digits, ?_, ?_⟩
    · refine List.length_pos_iff.mpr fun empty => shaped (Or.inl ?_)
      rw [empty]
      rfl
    · exact Nat.le_of_not_lt fun long => shaped (Or.inr (Or.inl long))

/-- The text of an address is ASCII, and has more characters than a slot and fewer than a link
has room for. -/
theorem parsed_address {text : List Char} {ip : Ipv4Addr}
    (parsed : Ipv4Addr.fromStr text = some ip) :
    (∀ c ∈ text, c.toNat < 128) ∧ 7 ≤ text.length ∧ text.length ≤ 15 := by
  rw [Ipv4Addr.fromStr] at parsed
  split at parsed
  next first second third fourth split =>
    split at parsed
    next one two three four =>
      obtain ⟨asciiFirst, lowFirst, highFirst⟩ := parsed_octet one
      obtain ⟨asciiSecond, lowSecond, highSecond⟩ := parsed_octet two
      obtain ⟨asciiThird, lowThird, highThird⟩ := parsed_octet three
      obtain ⟨asciiFourth, lowFourth, highFourth⟩ := parsed_octet four
      have whole : text = first ++ '.' :: (second ++ '.' :: (third ++ '.' :: fourth)) := by
        rw [← @List.intercalate_splitOn _ text _ _ '.', split]
        simp only [List.intercalate, List.intersperse, List.flatten_cons, List.flatten_nil,
          List.append_nil, List.singleton_append]
      have dot : '.'.toNat < 128 := by decide
      rw [whole]
      refine ⟨?_, ?_⟩
      · simp only [List.forall_mem_append, List.forall_mem_cons]
        exact ⟨asciiFirst, dot, asciiSecond, dot, asciiThird, dot, asciiFourth⟩
      · simp only [List.length_append, List.length_cons]
        omega
    · exact absurd parsed nofun
  · exact absurd parsed nofun

theorem Link.ofBytes_of_long {link : Bytes} (long : link.length ≠ 1) :
    Link.ofBytes link = (Ipv4Addr.fromStr (Text.ofAscii link)).map .address := by
  rw [Link.ofBytes]
  rintro number rfl
  exact long rfl

theorem bytes_port (path : ConnectionPath) (port : UInt16) (link : Bytes) :
    (path.port port link).bytes = path.bytes ++ (PathSegment.port port link).bytes := by
  simp only [ConnectionPath.port, PathSegment.bytes, ConnectionPath.new, List.nil_append,
    List.append_assoc]

/-- A pair that the route parser accepts names a hop, and the bytes that it appends spell it. -/
theorem routePair_spells {path after : ConnectionPath} {portText linkText : List Char}
    (accepted : path.routePair portText linkText = .ok after) :
    ∃ number link segment,
      (Text.fromStrRadix 10 (2 ^ 16) portText).filter (decide <| · ≠ 0) = some number ∧
        Link.parse linkText = some link ∧ after.bytes = path.bytes ++ segment ∧
        Spells segment [.hop ⟨UInt16.ofNat number, link⟩] := by
  rw [ConnectionPath.routePair] at accepted
  split at accepted
  · exact absurd accepted nofun
  next number named =>
    split at accepted
    next slot numeral =>
      obtain rfl := Except.ok.inj accepted
      refine ⟨number, .slot (UInt8.ofNat slot), _, named, ?_, bytes_port _ _ _,
        Spells.single (show 1 < 2 ^ 8 by decide) rfl⟩
      rw [Link.parse, numeral]
    next other =>
      split at accepted
      next valid =>
        obtain rfl := Except.ok.inj accepted
        obtain ⟨ip, parsed⟩ := Option.isSome_iff_exists.mp valid
        obtain ⟨ascii, low, high⟩ := parsed_address parsed
        have length : (Text.utf8 linkText).length = linkText.length := by
          rw [Text.utf8_of_ascii ascii, List.length_map]
        refine ⟨number, .address ip, _, named, ?_, bytes_port _ _ _, Spells.single ?_ ?_⟩
        · rw [Link.parse, other, parsed]
          rfl
        · rw [PathSegment.Fits, length]
          omega
        · rw [PathSegment.element, Link.ofBytes_of_long (by omega), Text.ofAscii_utf8 ascii,
            parsed]
          rfl
      · exact absurd accepted nofun

/-- Pairs that the route parser accepts name hops, and the bytes that it appends spell them. -/
theorem routePairs_spells {path after : ConnectionPath} {tokens : List (List Char)}
    (paired : tokens.length % 2 = 0) (accepted : path.routePairs tokens = .ok after) :
    ∃ hops segments, hopsOf tokens = some hops ∧ after.bytes = path.bytes ++ segments ∧
      Spells segments (hops.map .hop) := by
  induction tokens using hopsOf.induct generalizing path with
  | case1 =>
    obtain rfl := Except.ok.inj accepted
    exact ⟨[], [], rfl, (List.append_nil _).symm, Spells.nil⟩
  | case2 token =>
    rw [List.length_singleton] at paired
    exact absurd paired (by decide)
  | case3 portText linkText rest inductionHypothesis =>
    obtain ⟨middle, first, others⟩ := bind_eq_ok_iff.mp accepted
    obtain ⟨number, link, segment, named, linked, bytes, spells⟩ := routePair_spells first
    have even : rest.length % 2 = 0 := by
      rw [List.length_cons, List.length_cons] at paired
      omega
    obtain ⟨hops, segments, named', bytes', spells'⟩ := inductionHypothesis even others
    refine ⟨⟨UInt16.ofNat number, link⟩ :: hops, segment ++ segments, ?_, ?_, ?_⟩
    · rw [hopsOf, named, linked, named']
      rfl
    · rw [bytes', bytes, List.append_assoc]
    · exact spells.append spells'

/-- A route that is accepted spells the hops that its text names. -/
theorem route_spells {spec : List Char} {path : ConnectionPath}
    (accepted : ConnectionPath.route spec = .ok path) :
    ∃ hops, routeHops spec = some hops ∧ Spells path.bytes (hops.map .hop) := by
  rw [ConnectionPath.route] at accepted
  split at accepted
  · exact absurd accepted nofun
  next paired =>
    obtain ⟨hops, segments, named, bytes, spells⟩ :=
      routePairs_spells (not_not.mp paired) accepted
    refine ⟨hops, named, ?_⟩
    rw [bytes]
    exact spells

/-! ### What a built path says -/

/-- Append a segment of a kind, as the builder does. -/
def LogicalKind.append : LogicalKind → ConnectionPath → UInt16 → ConnectionPath
  | .classId, path, id => path.classId id
  | .instanceId, path, id => path.instanceId id
  | .connectionPoint, path, id => path.connectionPoint id

/-- The path of a sequence of logical segments. -/
def logicalPath (ids : List (LogicalKind × UInt16)) : ConnectionPath :=
  ids.foldl (fun path id => id.1.append path id.2) .new

def logicalElements (ids : List (LogicalKind × UInt16)) : List PathElement :=
  ids.map fun id => .logical id.1 id.2

theorem Spells.logical {path : ConnectionPath} {elements : List PathElement}
    (spells : Spells path.bytes elements) (ids : List (LogicalKind × UInt16)) :
    Spells (ids.foldl (fun path id => id.1.append path id.2) path).bytes
      (elements ++ logicalElements ids) := by
  induction ids generalizing path elements with
  | nil =>
    rw [logicalElements, List.map_nil, List.append_nil]
    exact spells
  | cons id ids inductionHypothesis =>
    obtain ⟨kind, id⟩ := id
    have bytes : (kind.append path id).bytes =
        path.bytes ++ (PathSegment.logical kind id).bytes := by
      cases kind <;> rfl
    have here : Spells (kind.append path id).bytes (elements ++ [.logical kind id]) := by
      rw [bytes]
      exact spells.append (Spells.single trivial rfl)
    have behind := inductionHypothesis here
    rwa [List.append_assoc, List.singleton_append] at behind

/-- A path with other paths appended to it. -/
theorem Spells.andThen {path : ConnectionPath} {elements : List PathElement}
    (spells : Spells path.bytes elements) (pieces : List (List (LogicalKind × UInt16))) :
    Spells ((pieces.map logicalPath).foldl ConnectionPath.andThen path).bytes
      (elements ++ logicalElements pieces.flatten) := by
  induction pieces generalizing path elements with
  | nil =>
    have none : logicalElements ([] : List (List (LogicalKind × UInt16))).flatten = [] := rfl
    rw [none, List.append_nil]
    exact spells
  | cons piece pieces inductionHypothesis =>
    have alone : Spells (logicalPath piece).bytes (logicalElements piece) :=
      @Spells.logical .new _ Spells.nil piece
    have behind := @inductionHypothesis (path.andThen (logicalPath piece)) _ (spells.append alone)
    rwa [List.append_assoc, logicalElements, logicalElements, ← List.map_append,
      ← List.flatten_cons] at behind

/-- The configuration data is sent as one data segment behind the path. -/
theorem Spells.encodedPath {config : ConnectionConfig} {elements : List PathElement}
    (spells : Spells config.path.bytes elements) (some : config.configData ≠ [])
    (short : config.configData.length ≤ maxConfigData) :
    Spells config.encodedPath
      (elements ++ [.data (config.configData ++
        List.replicate (config.configData.length % 2) 0)]) := by
  have padded : (config.configData ++ List.replicate (config.configData.length % 2) 0).length =
      (config.configData.length + 1) / 2 * 2 := by
    rw [List.length_append, List.length_replicate]
    omega
  have pad : (config.configData.length + 1) / 2 * 2 - config.configData.length =
      config.configData.length % 2 := by omega
  have bytes : config.encodedPath = config.path.bytes ++ (PathSegment.data (config.configData ++
      List.replicate (config.configData.length % 2) 0)).bytes := by
    rw [ConnectionConfig.encodedPath, if_neg (mt List.isEmpty_iff.mp some)]
    dsimp only
    rw [Nat.min_eq_left short, List.take_length, pad, PathSegment.bytes, padded,
      Nat.mul_div_cancel _ Nat.two_pos, putU8_eq, putU8_eq]
    simp only [List.append_assoc]
  rw [bytes]
  refine spells.append (Spells.single ⟨?_, ?_⟩ rfl)
  · rw [padded, Nat.mul_mod_left]
  · rw [padded]
    rw [maxConfigData] at short ⊢
    omega

/-- A path of a route and any logical segments appended to it is of even length, is read back to
the hops that the route names and the segments in their order, and is followed by the
configuration data when it is sent with some. -/
theorem readPath_route {spec : List Char} {path : ConnectionPath}
    (accepted : ConnectionPath.route spec = .ok path)
    (pieces : List (List (LogicalKind × UInt16))) :
    ∃ hops, routeHops spec = some hops ∧
      let whole := (pieces.map logicalPath).foldl ConnectionPath.andThen path
      let elements := hops.map PathElement.hop ++ logicalElements pieces.flatten
      whole.bytes.length % 2 = 0 ∧ readPath whole.bytes = some elements ∧
        ∀ config : ConnectionConfig, config.path = whole → config.configData ≠ [] →
          config.configData.length ≤ maxConfigData →
            readPath config.encodedPath =
              some (elements ++ [.data (config.configData ++
                List.replicate (config.configData.length % 2) 0)]) := by
  obtain ⟨hops, named, spells⟩ := route_spells accepted
  have built := spells.andThen pieces
  refine ⟨hops, named, built.even, built.readPath_eq, fun config same some short => ?_⟩
  rw [← same] at built
  exact (built.encodedPath some short).readPath_eq

/-- A route through a backplane and an Ethernet port, with the usual segments behind it. -/
theorem readPath_route_assembly :
    ConnectionPath.route "1,3,2,10.0.0.10".toList =
        .ok ⟨[1, 3, 0x12, 9, 0x31, 0x30, 0x2E, 0x30, 0x2E, 0x30, 0x2E, 0x31, 0x30, 0]⟩ ∧
      ∃ hops, routeHops "1,3,2,10.0.0.10".toList = some hops ∧
        readPath [1, 3, 0x12, 9, 0x31, 0x30, 0x2E, 0x30, 0x2E, 0x30, 0x2E, 0x31, 0x30, 0,
            0x20, 4, 0x25, 0, 0, 3] =
          some (hops.map .hop ++ [.logical .classId 4, .logical .instanceId 0x300]) := by
  have accepted : ConnectionPath.route "1,3,2,10.0.0.10".toList =
      .ok ⟨[1, 3, 0x12, 9, 0x31, 0x30, 0x2E, 0x30, 0x2E, 0x30, 0x2E, 0x31, 0x30, 0]⟩ := by decide
  obtain ⟨hops, named, -, read, -⟩ :=
    readPath_route accepted [[(.classId, 4)], [(.instanceId, 0x300)]]
  exact ⟨accepted, hops, named, read⟩

end EipScanner
