/-
This file models how a connection path is built: port segments for the hops of a route, a
route parsed from text, and logical segments for the class, instance and connection points.

A link of one byte stands in the port segment as it is, and any other link behind its length.
The text of a route names the hops in pairs of a port and a link, a link being a number below
256 or an IPv4 address. An address is sent as the text it was given by, so it takes more than
one byte and never more than fifteen.

A path is also printed as its bytes, in hex with spaces between them, and parsed from such a text.
-/

import EipScanner.ConnectionConfig
import EipScanner.Text

namespace EipScanner

/-! ### IPv4 addresses -/

/-- One number of an address: at most three decimal digits, with no zero in front. -/
def parseOctet (text : List Char) : Option Nat :=
  if text.isEmpty ∨ 3 < text.length ∨ (text.head? = some '0' ∧ text.length ≠ 1) then none
  else (Text.readDigits 10 0 text).filter (decide <| · < 256)

/-- Parses an address of four numbers with dots between them. -/
def Ipv4Addr.fromStr (text : List Char) : Option Ipv4Addr :=
  match text.splitOn '.' with
  | [first, second, third, fourth] =>
    match parseOctet first, parseOctet second, parseOctet third, parseOctet fourth with
    | some first, some second, some third, some fourth =>
      some ⟨UInt32.ofNat (first * 2 ^ 24 + second * 2 ^ 16 + third * 2 ^ 8 + fourth)⟩
    | _, _, _, _ => none
  | _ => none

namespace ConnectionPath

/-! ### Port segments -/

def new : ConnectionPath := ⟨[]⟩

/-- The bytes of a port segment up to a pad byte. -/
def portSegment (port : UInt16) (linkAddress : Bytes) : Bytes :=
  let extendedPort := decide (15 ≤ port)
  let extendedLink := decide (linkAddress.length ≠ 1)
  let segment : UInt8 := if extendedPort then 0x0F else port.toUInt8
  putU8 (if extendedLink then segment ||| 0x10 else segment) ++
    (if extendedLink then putU8 (UInt8.ofNat linkAddress.length) else []) ++
    (if extendedPort then putU16 port else []) ++ linkAddress

/-- Route through a port. The link address is a slot number for a backplane, or an IP address as
ASCII for an Ethernet port. -/
def port (path : ConnectionPath) (port : UInt16) (linkAddress : Bytes) : ConnectionPath :=
  let segment := portSegment port linkAddress
  ⟨path.bytes ++ segment ++ if segment.length % 2 = 0 then [] else putU8 0⟩

/-! ### Routes -/

/-- The ports and links of a route, in turn. Empty ones are passed over. -/
def routeTokens (spec : List Char) : List (List Char) :=
  ((spec.splitOn ',').map Text.trim).filter fun token => !token.isEmpty

/-- Append the hop that a port and a link describe. -/
def routePair (path : ConnectionPath) (portText linkText : List Char) :
    Except Error ConnectionPath :=
  match (Text.fromStrRadix 10 (2 ^ 16) portText).filter (decide <| · ≠ 0) with
  | none => .error (.invalidInput ("'" ++ String.ofList portText ++ "' is not a port number"))
  | some number =>
    match Text.fromStrRadix 10 (2 ^ 8) linkText with
    | some link => .ok (path.port (UInt16.ofNat number) [UInt8.ofNat link])
    | none =>
      if (Ipv4Addr.fromStr linkText).isSome then
        .ok (path.port (UInt16.ofNat number) (Text.utf8 linkText))
      else
        .error (.invalidInput
          ("'" ++ String.ofList linkText ++ "' is not a slot number or IPv4 address"))

def routePairs : ConnectionPath → List (List Char) → Except Error ConnectionPath
  | path, portText :: linkText :: rest => do
    let path ← routePair path portText linkText
    routePairs path rest
  | path, _ => .ok path

/-- Parses a route in the comma-separated form. A link is a slot or node number, or an IPv4
address for an Ethernet port. -/
def route (spec : List Char) : Except Error ConnectionPath :=
  if (routeTokens spec).length % 2 ≠ 0 then
    .error (.invalidInput ("route '" ++ String.ofList spec ++ "' must be port,link pairs"))
  else routePairs new (routeTokens spec)

/-! ### Logical segments -/

/-- 8-bit segment when the value fits, otherwise a padded 16-bit one. -/
def logicalSegment (segment8 : UInt8) (id : UInt16) : Bytes :=
  if id ≤ 0xFF then putU8 segment8 ++ putU8 id.toUInt8
  else putU8 (segment8 ||| 0x01) ++ putU8 0 ++ putU16 id

def logical (path : ConnectionPath) (segment8 : UInt8) (id : UInt16) : ConnectionPath :=
  ⟨path.bytes ++ logicalSegment segment8 id⟩

def class8 : UInt8 := 0x20
def instance8 : UInt8 := 0x24
def connectionPoint8 : UInt8 := 0x2C

def classId (path : ConnectionPath) (id : UInt16) : ConnectionPath := path.logical class8 id
def instanceId (path : ConnectionPath) (id : UInt16) : ConnectionPath := path.logical instance8 id
def connectionPoint (path : ConnectionPath) (id : UInt16) : ConnectionPath :=
  path.logical connectionPoint8 id

/-- Appends another path. -/
def andThen (path other : ConnectionPath) : ConnectionPath := ⟨path.bytes ++ other.bytes⟩

example : (route "2,10.0.0.10, 1,3".toList).map ConnectionPath.bytes =
    .ok [0x12, 9, 0x31, 0x30, 0x2E, 0x30, 0x2E, 0x30, 0x2E, 0x31, 0x30, 0, 1, 3] := by decide

/-! ### Paths as text -/

/-- A hex digit in upper case. -/
def upperHexDigit (value : Nat) : Char := Char.ofNat (if value < 10 then 48 + value else 55 + value)

/-- A byte as two hex digits in upper case. -/
def hexByte (byte : UInt8) : List Char :=
  [upperHexDigit (byte.toNat / 16), upperHexDigit (byte.toNat % 16)]

/-- Space-separated hex bytes, the notation EDS files use. -/
def displayBytes : Bytes → List Char
  | [] => []
  | [byte] => hexByte byte
  | byte :: rest => hexByte byte ++ ' ' :: displayBytes rest

def display (path : ConnectionPath) : List Char := displayBytes path.bytes

/-- One hex byte of a path text. -/
def parseHexByte (text token : List Char) : Except Error UInt8 :=
  match Text.fromStrRadix 16 (2 ^ 8) token with
  | some byte => .ok (UInt8.ofNat byte)
  | none =>
    .error (.invalidInput ("'" ++ String.ofList token ++ "' is not a hex byte in path '" ++
      String.ofList text ++ "'"))

/-- Parses space-separated hex bytes. -/
def fromStr (text : List Char) : Except Error ConnectionPath :=
  ((Text.words text).mapM (parseHexByte text)).map ConnectionPath.mk

end ConnectionPath

end EipScanner
