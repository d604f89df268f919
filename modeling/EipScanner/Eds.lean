/-
This file models the typed accessors of an EDS: the device, its parameters and assemblies, and the
connections of the connection manager, each read from the fields of an entry. A connection names
its packet intervals and sizes as literals or as references to a parameter or an assembly, and its
path as hex bytes and references to parameters. A connection is then converted to the settings of
an I/O connection by the bits of its two masks.

Numbers are read as 64-bit integers and narrowed to the type of the field, which drops the high
bits. A size is a 64-bit integer. Every accessor fails with EDS errors only, so the error of a path
always gets its place in front.
-/

import EipScanner.ConnectionConfig
import EipScanner.EdsParse

namespace EipScanner

/-! ### What is read -/

structure CipDataType where
  code : UInt8
  deriving DecidableEq, Repr

/-- The `[Device]` section. -/
structure EdsDevice where
  vendorId : UInt16
  vendorName : List Char
  productType : UInt16
  productCode : UInt16
  majorRevision : UInt8
  minorRevision : UInt8
  productName : List Char
  catalog : List Char
  deriving DecidableEq, Repr

/-- A `ParamN` entry. Limits and default are kept as text since their type depends on the data
type. -/
structure EdsParam where
  number : UInt32
  dataType : CipDataType
  dataSize : Nat
  name : List Char
  units : List Char
  help : List Char
  min : Option (List Char)
  max : Option (List Char)
  default : Option (List Char)
  deriving DecidableEq, Repr

def EdsParam.defaultInt (param : EdsParam) : Option Nat := param.default.bind Parse.parseInt

/-- An `AssemN` entry. The size is in bytes. -/
structure EdsAssembly where
  number : UInt32
  name : List Char
  size : Nat
  deriving DecidableEq, Repr

/-- Allowed packet interval, microseconds. -/
structure EdsRpi where
  min : Option UInt32
  max : Option UInt32
  default : Option UInt32
  deriving DecidableEq, Repr

/-- One direction of a connection: the size of its data in bytes, and the assembly the data is
described by, if any. -/
structure EdsDirection where
  rpi : Option EdsRpi
  size : Nat
  assembly : Option UInt32
  deriving DecidableEq, Repr

/-- A `ConnectionN` entry. -/
structure EdsConnection where
  number : UInt32
  name : List Char
  help : List Char
  triggerTransport : UInt32
  connectionParams : UInt32
  o2t : EdsDirection
  t2o : EdsDirection
  configAssembly : Option UInt32
  path : ConnectionPath
  deriving DecidableEq, Repr

structure Eds where
  sections : List Parse.Section
  deriving DecidableEq, Repr

/-! ### Names and numbers -/

/-- `"Param12"` with the word `"Param"` gives 12; case is ignored. -/
def numbered (text word : List Char) : Option UInt32 :=
  if Text.eqIgnoreAsciiCase (text.take word.length) word then
    (Text.fromStrRadix 10 (2 ^ 32) (text.drop word.length)).map UInt32.ofNat
  else none

/-- A word and a number behind it. -/
def numberedKeyword (word : List Char) (number : UInt32) : List Char :=
  word ++ Nat.toDigits 10 number.toNat

/-- An EDS error at an entry. -/
def errorAt (entry : Parse.Entry) (message : String) : Error :=
  .eds ("line " ++ toString entry.line ++ ": " ++ message)

def intField (entry : Parse.Entry) (i : Nat) : Except Error (Option Nat) :=
  match (entry.field i).text with
  | none => .ok none
  | some text =>
    match Parse.parseInt text with
    | some value => .ok (some value)
    | none =>
      .error (errorAt entry ("'" ++ String.ofList entry.keyword ++ "' field " ++ toString i ++
        " is not a number: '" ++ String.ofList text ++ "'"))

namespace Eds

def parse (text : List Char) : Except Error Eds := (Parse.parse text).map Eds.mk

/-! ### Sections and entries -/

/-- Finds a section by name, ignoring case. -/
def «section» (eds : Eds) (name : List Char) : Option Parse.Section :=
  eds.sections.find? fun candidate => Text.eqIgnoreAsciiCase candidate.name name

def entry (eds : Eds) (sectionName keyword : List Char) : Except Error Parse.Entry :=
  match (eds.section sectionName).bind fun found => found.get keyword with
  | some entry => .ok entry
  | none =>
    .error (.eds ("[" ++ String.ofList sectionName ++ "] has no entry '" ++
      String.ofList keyword ++ "'"))

/-! ### The device -/

def deviceText (eds : Eds) (key : List Char) : Except Error (List Char) := do
  let entry ← eds.entry "Device".toList key
  return (entry.field 0).text.getD []

def deviceInt (eds : Eds) (key : List Char) : Except Error Nat := do
  let entry ← eds.entry "Device".toList key
  match ← intField entry 0 with
  | some value => .ok value
  | none => .error (errorAt entry (String.ofList key ++ " is empty"))

def device (eds : Eds) : Except Error EdsDevice := do
  let vendorId ← eds.deviceInt "VendCode".toList
  let vendorName ← eds.deviceText "VendName".toList
  let productType ← eds.deviceInt "ProdType".toList
  let productCode ← eds.deviceInt "ProdCode".toList
  let majorRevision ← eds.deviceInt "MajRev".toList
  let minorRevision ← eds.deviceInt "MinRev".toList
  let productName ← eds.deviceText "ProdName".toList
  return {
    vendorId := UInt16.ofNat vendorId
    vendorName
    productType := UInt16.ofNat productType
    productCode := UInt16.ofNat productCode
    majorRevision := UInt8.ofNat majorRevision
    minorRevision := UInt8.ofNat minorRevision
    productName
    catalog := (eds.deviceText "Catalog".toList).toOption.getD [] }

/-! ### Parameters and assemblies -/

/-- The entry of a parameter. -/
def paramEntry (eds : Eds) (number : UInt32) : Except Error Parse.Entry :=
  eds.entry "Params".toList (numberedKeyword "Param".toList number)

/-- `ParamN` from `[Params]`. -/
def param (eds : Eds) (number : UInt32) : Except Error EdsParam := do
  let entry ← eds.paramEntry number
  let dataType ← intField entry 4
  let dataSize ← intField entry 5
  return {
    number
    dataType := ⟨UInt8.ofNat (dataType.getD 0)⟩
    dataSize := dataSize.getD 0
    name := (entry.field 6).text.getD []
    units := (entry.field 7).text.getD []
    help := (entry.field 8).text.getD []
    min := (entry.field 9).text
    max := (entry.field 10).text
    default := (entry.field 11).text }

/-- The entry of an assembly. -/
def assemblyEntry (eds : Eds) (number : UInt32) : Except Error Parse.Entry :=
  eds.entry "Assembly".toList (numberedKeyword "Assem".toList number)

/-- Every other element, from the first. -/
def everySecond {Element : Type} : List Element → List Element
  | [] => []
  | [first] => [first]
  | first :: _ :: rest => first :: everySecond rest

/-- Fields 6 and on are pairs of a size in bits and a member. The sum wraps around. -/
def memberBits (entry : Parse.Entry) : Nat :=
  ((everySecond (entry.fields.drop 6)).filterMap fun field =>
    field.text.bind Parse.parseInt).sum % 2 ^ 64

/-- `AssemN` from `[Assembly]`. -/
def assembly (eds : Eds) (number : UInt32) : Except Error EdsAssembly := do
  let entry ← eds.assemblyEntry number
  let bytes ← intField entry 2
  return {
    number
    name := (entry.field 0).text.getD []
    size := bytes.getD ((memberBits entry + 7) / 8) }

/-! ### Connections -/

/-- A packet interval as text. -/
def rpiInt (text : Option (List Char)) : Option UInt32 :=
  (text.bind Parse.parseInt).map UInt32.ofNat

/-- The packet interval that a field gives as a number or by a parameter. -/
def directionRpi (eds : Eds) (entry : Parse.Entry) (i : Nat) : Except Error (Option EdsRpi) :=
  match (entry.field i).text with
  | none => .ok none
  | some text =>
    match numbered text "Param".toList with
    | some number => do
      let param ← eds.param number
      return some ⟨rpiInt param.min, rpiInt param.max, rpiInt param.default⟩
    | none => .ok (some ⟨rpiInt (some text), rpiInt (some text), rpiInt (some text)⟩)

/-- The assembly that a field names. -/
def assemblyReference (entry : Parse.Entry) (i : Nat) : Option UInt32 :=
  (entry.field i).text.bind fun text => numbered text "Assem".toList

/-- The size that a field gives as a number or by a parameter, or else the assembly in the next
field. -/
def directionSize (eds : Eds) (entry : Parse.Entry) (i : Nat) : Except Error Nat :=
  match (entry.field i).text with
  | some text =>
    match numbered text "Param".toList with
    | some number => do
      let param ← eds.param number
      return param.defaultInt.getD 0
    | none =>
      match Parse.parseInt text with
      | some size => .ok size
      | none => .error (errorAt entry ("bad connection size '" ++ String.ofList text ++ "'"))
  | none =>
    match assemblyReference entry (i + 1) with
    | some number => do
      let assembly ← eds.assembly number
      return assembly.size
    | none => .ok 0

/-- RPI, size, and format fields from the first on. -/
def direction (eds : Eds) (entry : Parse.Entry) (first : Nat) : Except Error EdsDirection := do
  let rpi ← eds.directionRpi entry first
  let size ← eds.directionSize entry (first + 1)
  return { rpi, size, assembly := assemblyReference entry (first + 2) }

/-- The bytes of one token of a path. -/
def resolveToken (eds : Eds) (token : List Char) : Except Error Bytes :=
  let name := (token.dropWhile (· == '[')).rdropWhile (· == ']')
  match numbered name "Param".toList with
  | some number => do
    let param ← eds.param number
    match param.defaultInt with
    | some value => .ok ((LittleEndian.digits 8 value).take (max 1 (min param.dataSize 8)))
    | none =>
      .error (.eds ("Param" ++ toString number.toNat ++ " in path has no default value"))
  | none =>
    match Text.fromStrRadix 16 (2 ^ 8) token with
    | some byte => .ok [UInt8.ofNat byte]
    | none => .error (.eds ("unsupported path token '" ++ String.ofList token ++ "'"))

def resolveTokens (eds : Eds) : List (List Char) → Except Error Bytes
  | [] => .ok []
  | token :: rest => do
    let bytes ← eds.resolveToken token
    let more ← eds.resolveTokens rest
    return bytes ++ more

/-- Converts an EDS path string: hex bytes, and `ParamN` or `[ParamN]` references, which are
replaced by the parameter's default value. -/
def resolvePath (eds : Eds) (text : List Char) : Except Error ConnectionPath :=
  (eds.resolveTokens (Text.words text)).map ConnectionPath.mk

/-- An EDS error with its place in front, as it prints. A path fails with no other error. -/
def pathError (entry : Parse.Entry) (number : UInt32) : Error → Error
  | .eds text =>
    errorAt entry ("Connection" ++ toString number.toNat ++ ": EDS: " ++ text)
  | refused => refused

/-- A mask that has to be present. -/
def required (entry : Parse.Entry) (number : UInt32) (i : Nat) (what : String) :
    Except Error UInt32 := do
  match ← intField entry i with
  | some value => .ok (UInt32.ofNat value)
  | none =>
    .error (errorAt entry ("Connection" ++ toString number.toNat ++ " has no " ++ what))

def decodeConnection (eds : Eds) (number : UInt32) (entry : Parse.Entry) :
    Except Error EdsConnection := do
  let triggerTransport ← required entry number 0 "trigger and transport field"
  let connectionParams ← required entry number 1 "connection parameters field"
  let o2t ← eds.direction entry 2
  let t2o ← eds.direction entry 5
  let path ← (eds.resolvePath ((entry.field 14).text.getD [])).mapError (pathError entry number)
  return {
    number
    name := (entry.field 12).text.getD []
    help := (entry.field 13).text.getD []
    triggerTransport, connectionParams, o2t, t2o
    configAssembly := (assemblyReference entry 9).or (assemblyReference entry 11)
    path }

/-- The `ConnectionN` entries with their numbers. -/
def numberedEntries (eds : Eds) : List (UInt32 × Parse.Entry) :=
  match eds.section "Connection Manager".toList with
  | none => []
  | some found =>
    found.entries.filterMap fun entry =>
      (numbered entry.keyword "Connection".toList).map fun number => (number, entry)

/-- All `ConnectionN` entries of `[Connection Manager]`, in file order. -/
def connections (eds : Eds) : Except Error (List EdsConnection) :=
  eds.numberedEntries.mapM fun (number, entry) => eds.decodeConnection number entry

/-- The listed connections are decoded from the numbered entries, one from each. -/
theorem connections_eq_ok_iff {eds : Eds} {listed : List EdsConnection} :
    eds.connections = .ok listed ↔ List.Forall₂ (fun pair connection =>
      eds.decodeConnection pair.1 pair.2 = .ok connection) eds.numberedEntries listed :=
  mapM_eq_ok_iff

/-- The entry of a connection. -/
def connectionEntry (eds : Eds) (number : UInt32) : Except Error Parse.Entry :=
  eds.entry "Connection Manager".toList (numberedKeyword "Connection".toList number)

def connection (eds : Eds) (number : UInt32) : Except Error EdsConnection := do
  let entry ← eds.connectionEntry number
  eds.decodeConnection number entry

/-! ### Errors -/

/-- A computation that fails with EDS errors only. -/
def FailsInEds {Value : Type} (computed : Except Error Value) : Prop :=
  ∀ refused, computed = .error refused → ∃ text, refused = .eds text

theorem failsInEds_ok {Value : Type} (value : Value) : FailsInEds (.ok value) := by
  rintro refused ⟨⟩

theorem failsInEds_eds {Value : Type} (text : String) :
    FailsInEds (.error (.eds text) : Except Error Value) := by
  rintro refused ⟨⟩
  exact ⟨text, rfl⟩

theorem FailsInEds.bind {First Second : Type} {first : Except Error First}
    {next : First → Except Error Second} (fails : FailsInEds first)
    (behind : ∀ value, FailsInEds (next value)) : FailsInEds (first >>= next) := by
  cases first with
  | error refused =>
    rintro other ⟨⟩
    exact fails refused rfl
  | ok value =>
    rw [ok_bind]
    exact behind value

theorem failsInEds_intField (entry : Parse.Entry) (i : Nat) : FailsInEds (intField entry i) := by
  unfold intField
  split
  · exact failsInEds_ok _
  · split
    · exact failsInEds_ok _
    · exact failsInEds_eds _

theorem failsInEds_entry (eds : Eds) (sectionName keyword : List Char) :
    FailsInEds (eds.entry sectionName keyword) := by
  unfold entry
  split
  · exact failsInEds_ok _
  · exact failsInEds_eds _

theorem failsInEds_deviceText (eds : Eds) (key : List Char) : FailsInEds (eds.deviceText key) :=
  (failsInEds_entry _ _ _).bind fun _ => failsInEds_ok _

theorem failsInEds_deviceInt (eds : Eds) (key : List Char) : FailsInEds (eds.deviceInt key) := by
  refine (failsInEds_entry _ _ _).bind fun entry =>
    (failsInEds_intField entry 0).bind fun value => ?_
  cases value with
  | none => exact failsInEds_eds _
  | some value => exact failsInEds_ok _

theorem failsInEds_device (eds : Eds) : FailsInEds eds.device :=
  (failsInEds_deviceInt _ _).bind fun _ => (failsInEds_deviceText _ _).bind fun _ =>
    (failsInEds_deviceInt _ _).bind fun _ => (failsInEds_deviceInt _ _).bind fun _ =>
      (failsInEds_deviceInt _ _).bind fun _ => (failsInEds_deviceInt _ _).bind fun _ =>
        (failsInEds_deviceText _ _).bind fun _ => failsInEds_ok _

theorem failsInEds_param (eds : Eds) (number : UInt32) : FailsInEds (eds.param number) :=
  (failsInEds_entry _ _ _).bind fun _ => (failsInEds_intField _ _).bind fun _ =>
    (failsInEds_intField _ _).bind fun _ => failsInEds_ok _

theorem failsInEds_assembly (eds : Eds) (number : UInt32) : FailsInEds (eds.assembly number) :=
  (failsInEds_entry _ _ _).bind fun _ => (failsInEds_intField _ _).bind fun _ => failsInEds_ok _

theorem failsInEds_direction (eds : Eds) (entry : Parse.Entry) (first : Nat) :
    FailsInEds (eds.direction entry first) := by
  refine FailsInEds.bind ?_ fun rpi => FailsInEds.bind ?_ fun size => failsInEds_ok _
  · unfold directionRpi
    split
    · exact failsInEds_ok _
    · split
      · exact (failsInEds_param _ _).bind fun _ => failsInEds_ok _
      · exact failsInEds_ok _
  · unfold directionSize
    split
    · split
      · exact (failsInEds_param _ _).bind fun _ => failsInEds_ok _
      · split
        · exact failsInEds_ok _
        · exact failsInEds_eds _
    · split
      · exact (failsInEds_assembly _ _).bind fun _ => failsInEds_ok _
      · exact failsInEds_ok _

theorem failsInEds_resolveToken (eds : Eds) (token : List Char) :
    FailsInEds (eds.resolveToken token) := by
  unfold resolveToken
  dsimp only
  split
  · refine (failsInEds_param _ _).bind fun param => ?_
    split
    · exact failsInEds_ok _
    · exact failsInEds_eds _
  · split
    · exact failsInEds_ok _
    · exact failsInEds_eds _

theorem failsInEds_resolvePath (eds : Eds) (text : List Char) :
    FailsInEds (eds.resolvePath text) := by
  have tokens : ∀ words, FailsInEds (eds.resolveTokens words) := by
    intro words
    induction words with
    | nil => exact failsInEds_ok _
    | cons token rest inductionHypothesis =>
      exact (failsInEds_resolveToken eds token).bind fun _ =>
        inductionHypothesis.bind fun _ => failsInEds_ok _
  intro refused failed
  rw [resolvePath] at failed
  cases resolved : eds.resolveTokens (Text.words text) with
  | ok bytes =>
    rw [resolved] at failed
    cases failed
  | error other =>
    rw [resolved] at failed
    obtain rfl := Except.error.inj failed
    exact tokens _ other resolved

theorem failsInEds_required (entry : Parse.Entry) (number : UInt32) (i : Nat) (what : String) :
    FailsInEds (required entry number i what) := by
  refine (failsInEds_intField entry i).bind fun value => ?_
  cases value with
  | none => exact failsInEds_eds _
  | some value => exact failsInEds_ok _

/-- A connection fails with an EDS error, whether or not its path is what failed. -/
theorem failsInEds_decodeConnection (eds : Eds) (number : UInt32) (entry : Parse.Entry) :
    FailsInEds (eds.decodeConnection number entry) := by
  refine (failsInEds_required _ _ _ _).bind fun _ => (failsInEds_required _ _ _ _).bind fun _ =>
    (failsInEds_direction _ _ _).bind fun _ => (failsInEds_direction _ _ _).bind fun _ =>
      FailsInEds.bind ?_ fun _ => failsInEds_ok _
  intro refused failed
  cases resolved : eds.resolvePath ((entry.field 14).text.getD []) with
  | ok path =>
    rw [resolved] at failed
    cases failed
  | error other =>
    obtain ⟨text, rfl⟩ := failsInEds_resolvePath _ _ other resolved
    rw [resolved] at failed
    obtain rfl := Except.error.inj failed
    exact ⟨_, rfl⟩

theorem failsInEds_connection (eds : Eds) (number : UInt32) :
    FailsInEds (eds.connection number) :=
  (failsInEds_entry _ _ _).bind fun entry => failsInEds_decodeConnection eds number entry

theorem failsInEds_connections (eds : Eds) : FailsInEds eds.connections := by
  rw [connections]
  induction eds.numberedEntries with
  | nil => exact failsInEds_ok _
  | cons first rest inductionHypothesis =>
    rw [List.mapM_cons]
    exact (failsInEds_decodeConnection _ _ _).bind fun _ =>
      inductionHypothesis.bind fun _ => failsInEds_ok _

end Eds

/-! ### Connection settings -/

/-- Real-time format value meaning "32-bit run/idle header". -/
def formatHeader : UInt32 := 4

namespace EdsConnection

def bit (mask place : UInt32) : Bool := mask &&& (1 <<< place) != 0

def unsupported (connection : EdsConnection) (what : String) : Error :=
  .unsupported ("Connection" ++ toString connection.number.toNat ++ " (" ++
    String.ofList connection.name ++ "): " ++ what)

def transportClass (connection : EdsConnection) : Except Error TransportClass :=
  if bit connection.triggerTransport 1 then .ok .class1
  else if bit connection.triggerTransport 0 then .ok .class0
  else .error (connection.unsupported "only transport classes 0 and 1 are supported for I/O")

def trigger (connection : EdsConnection) : Trigger :=
  if bit connection.triggerTransport 17 && !bit connection.triggerTransport 16 then
    .changeOfState
  else if bit connection.triggerTransport 18 && !bit connection.triggerTransport 16 then
    .application
  else .cyclic

/-- The type of a direction. Point-to-point is preferred, since multicast input isn't supported. -/
def connectionType (connection : EdsConnection) (shift : UInt32) (name : String) :
    Except Error ConnectionType :=
  if bit connection.connectionParams (18 + shift) then .ok .pointToPoint
  else if bit connection.connectionParams (16 + shift) then .ok .null
  else .error (connection.unsupported (name ++ " is not point-to-point"))

/-- O->T and T->O use the same bit layout, 4 bits apart. -/
def configDirection (connection : EdsConnection) (shift fixedBit : UInt32)
    (direction : EdsDirection) (name : String) : Except Error Direction := do
  let params := connection.connectionParams
  let connectionType ← connection.connectionType shift name
  let priority : Priority :=
    if bit params (26 + shift) then .scheduled
    else if bit params (25 + shift) then .high
    else .low
  let rpiUs := (direction.rpi.bind fun rpi => rpi.default.or rpi.min).getD 10000
  return {
    size := UInt16.ofNat direction.size
    rpi := rpiUs.toNat * 1000
    connectionType, priority
    sizeType := if bit params fixedBit then .fixed else .variable
    runIdleHeader := (params >>> (8 + shift)) &&& 0x7 == formatHeader }

/-- Builds connection settings from the entry: path, sizes, packet intervals (the default, or 10 ms
if the EDS gives none), transport class and trigger, connection types, priorities, and whether each
direction has a run/idle header. -/
def toConnectionConfig (connection : EdsConnection) : Except Error ConnectionConfig := do
  let transportClass ← connection.transportClass
  let o2t ← connection.configDirection 0 0 connection.o2t "O->T"
  let t2o ← connection.configDirection 4 2 connection.t2o "T->O"
  return { ConnectionConfig.new connection.path o2t t2o with
    transportClass, trigger := connection.trigger }

end EdsConnection

end EipScanner
