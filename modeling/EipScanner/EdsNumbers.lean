/-
This file asks what becomes of a number in an EDS on its way to a result. The file may write a
number in any of the usual forms, with a sign, a fraction, an exponent or a radix. A field of a
result has a bound, that of its type, and is read from a number in one entry: the entry of the
device, of a parameter or of a connection, or of the parameter or assembly that a field of the
connection refers to. The size of an assembly may also be what the sizes of its members add up to.

The parser reads nonnegative integers of 64 bits, decimal or hexadecimal. Such a number arrives in
the field without its high bits, so the field has it exactly when it is within the bound. The sum
of member sizes loses its high bits before it is rounded up to bytes. A number that the parser does
not read is refused in an integer field, but passed over in a packet interval, in a default and
among the sizes of members, where something else takes its place.
-/

import EipScanner.Eds
import EipScanner.EdsScanner

namespace EipScanner

/-! ### Numbers in a text -/

namespace Parse

/-- The number of any size that a text denotes in the form that is read, decimal or `0x`
hexadecimal. -/
def natural (text : List Char) : Option Nat :=
  match Text.trim text with
  | '0' :: 'x' :: hex => Text.numeral 16 hex
  | '0' :: 'X' :: hex => Text.numeral 16 hex
  | decimal => Text.numeral 10 decimal

/-- The number that digits denote, with or without a decimal point. -/
def decimal (text : List Char) : Option ℚ :=
  let whole := text.takeWhile (· ≠ '.')
  let fraction := (text.dropWhile (· ≠ '.')).tail
  if (whole ++ fraction).isEmpty then none
  else (Text.readDigits 10 0 (whole ++ fraction)).map fun digits =>
    (digits : ℚ) / 10 ^ fraction.length

/-- The power of ten of an exponent. -/
def powerOfTen : List Char → Option ℚ
  | '-' :: digits => (Text.numeral 10 digits).map fun exponent => (10 ^ exponent)⁻¹
  | digits => (Text.numeral 10 digits).map fun exponent => 10 ^ exponent

/-- The number that digits denote, with or without a decimal point and an exponent. -/
def scientific (text : List Char) : Option ℚ :=
  match text.dropWhile fun c => c ≠ 'e' ∧ c ≠ 'E' with
  | [] => decimal text
  | _ :: exponent => do
    let mantissa ← decimal (text.takeWhile fun c => c ≠ 'e' ∧ c ≠ 'E')
    let power ← powerOfTen exponent
    return mantissa * power

/-- The number that a text without a sign denotes, decimal or with the prefix of a radix. -/
def unsigned : List Char → Option ℚ
  | '0' :: 'x' :: digits | '0' :: 'X' :: digits => (Text.numeral 16 digits).map Nat.cast
  | '0' :: 'o' :: digits | '0' :: 'O' :: digits => (Text.numeral 8 digits).map Nat.cast
  | '0' :: 'b' :: digits | '0' :: 'B' :: digits => (Text.numeral 2 digits).map Nat.cast
  | digits => scientific digits

def signed : List Char → Option ℚ
  | '-' :: magnitude => (unsigned magnitude).map (- ·)
  | '+' :: magnitude => unsigned magnitude
  | magnitude => unsigned magnitude

/-- The number that a text denotes. -/
def number (text : List Char) : Option ℚ :=
  ((natural text).map Nat.cast).or (signed (Text.trim text))

theorem parseInt_eq_filter (text : List Char) :
    parseInt text = (natural text).filter (decide <| · < 2 ^ 64) := by
  unfold parseInt natural
  simp only [Text.fromStrRadix_eq_filter]
  generalize Text.trim text = trimmed
  split
  · rfl
  · rfl
  next notLower notUpper => simp

/-- A text that is read denotes the number it is read as, and the number has at most 64 bits. -/
theorem number_of_parseInt {text : List Char} {value : Nat} (read : parseInt text = some value) :
    number text = some (value : ℚ) ∧ value < 2 ^ 64 := by
  rw [parseInt_eq_filter, Option.filter_eq_some_iff, decide_eq_true_iff] at read
  obtain ⟨denoted, below⟩ := read
  refine ⟨?_, below⟩
  rw [number, denoted]
  rfl

example : number " 5000.5 ".toList = some 5000.5 ∧ number "-0x5".toList = some (-5) ∧
    number "2.5e3".toList = some 2500 ∧ number "Param5".toList = none := by
  decide +kernel

end Parse

/-! ### Sources of numbers -/

/-- What a number field of a result is read from: a text, with what takes the place of a number
that is not read, or the texts that give the sizes of members in bits. -/
inductive NumberSource where
  | text (content : List Char) (instead : Option Nat)
  | members (sizes : List (List Char))
  deriving DecidableEq, Repr

namespace NumberSource

/-- The number in the file. The sizes of members make up whole bytes. -/
def number : NumberSource → Option ℚ
  | .text content _ => Parse.number content
  | .members sizes => some (⌈(sizes.filterMap Parse.number).sum / 8⌉ : ℤ)

/-- What arrives in a field of a type with a bound. -/
def taken (bound : Nat) : NumberSource → Option Nat
  | .text content instead =>
    match Parse.parseInt content with
    | some value => some (value % bound)
    | none => instead
  | .members sizes => some (((sizes.filterMap Parse.parseInt).sum % 2 ^ 64 + 7) / 8 % bound)

/-- Every size that is a number is read. -/
def AllRead (sizes : List (List Char)) : Prop :=
  ∀ size ∈ sizes, Parse.parseInt size = none → Parse.number size = none

instance (sizes : List (List Char)) : Decidable (AllRead sizes) :=
  inferInstanceAs (Decidable (∀ size ∈ sizes, Parse.parseInt size = none →
    Parse.number size = none))

/-- The number in the file is read and is one of the type of the field: for the sizes of members,
neither their sum nor the bytes it makes up are too large. Where a number is not read, what takes
its place is the same number. -/
def Fits (bound : Nat) : NumberSource → Prop
  | .text content instead =>
    (∀ value ∈ Parse.parseInt content, value < bound) ∧
      (Parse.parseInt content = none →
        ∀ number ∈ Parse.number content, instead.map Nat.cast = some number)
  | .members sizes =>
    let bits := (sizes.filterMap Parse.parseInt).sum
    if AllRead sizes then bits < 2 ^ 64 ∧ (bits + 7) / 8 < bound
    else ((bits % 2 ^ 64 + 7) / 8 % bound : Nat) = ⌈(sizes.filterMap Parse.number).sum / 8⌉

instance (bound : Nat) : (source : NumberSource) → Decidable (source.Fits bound)
  | .text content _ =>
    inferInstanceAs (Decidable ((∀ value ∈ Parse.parseInt content, _) ∧
      (_ → ∀ number ∈ Parse.number content, _)))
  | .members sizes => inferInstanceAs (Decidable (if AllRead sizes then _ else _))

theorem taken_text (content : List Char) (instead : Option Nat) (bound : Nat) :
    (text content instead).taken bound =
      ((Parse.parseInt content).map (· % bound)).or instead := by
  rw [taken]
  cases Parse.parseInt content with
  | none => rfl
  | some value => rfl

/-- Numbers that are all read are the naturals they are read as. -/
theorem numbers_of_allRead {sizes : List (List Char)} (allRead : AllRead sizes) :
    sizes.filterMap Parse.number = (sizes.filterMap Parse.parseInt).map Nat.cast := by
  rw [List.map_filterMap]
  refine List.filterMap_congr fun size member => ?_
  cases read : Parse.parseInt size with
  | none => exact allRead size member read
  | some value => exact (Parse.number_of_parseInt read).1

/-- Whole bytes for bits. -/
theorem ceil_div_eight (bits : Nat) : ⌈(bits : ℚ) / 8⌉ = (((bits + 7) / 8 : Nat) : ℤ) := by
  have ceil := Rat.ceil_natCast_div_natCast bits 8
  rw [Nat.cast_ofNat] at ceil
  rw [ceil]
  omega

/-- The sizes of members arrive as the bytes they make up exactly when neither their sum nor the
bytes lose high bits. -/
theorem bytes_kept_iff (bits bound : Nat) (positive : 0 < bound) :
    (bits % 2 ^ 64 + 7) / 8 % bound = (bits + 7) / 8 ↔
      bits < 2 ^ 64 ∧ (bits + 7) / 8 < bound := by
  constructor
  · intro kept
    have within := Nat.mod_lt ((bits % 2 ^ 64 + 7) / 8) positive
    have most := Nat.mod_le ((bits % 2 ^ 64 + 7) / 8) bound
    omega
  · rintro ⟨sum, bytes⟩
    rw [Nat.mod_eq_of_lt sum, Nat.mod_eq_of_lt bytes]

/-- The number in the file arrives in a field exactly when it fits. -/
theorem kept_iff_fits {source : NumberSource} {bound : Nat} (positive : 0 < bound) :
    (∀ number, source.number = some number →
        (source.taken bound).map Nat.cast = some number) ↔ source.Fits bound := by
  cases source with
  | text content instead =>
    cases read : Parse.parseInt content with
    | none => simp [NumberSource.number, taken, Fits, read]
    | some value =>
      simp [NumberSource.number, taken, Fits, read, (Parse.number_of_parseInt read).1,
        Nat.mod_eq_iff_lt positive.ne']
  | members sizes =>
    simp only [NumberSource.number, taken, Fits, Option.some.injEq, forall_eq', Option.map_some]
    split
    next allRead =>
      rw [numbers_of_allRead allRead, ← Nat.cast_list_sum, ceil_div_eight, Int.cast_natCast,
        Nat.cast_inj]
      exact bytes_kept_iff _ _ positive
    · rw [← Int.cast_natCast, Int.cast_inj]

end NumberSource

/-! ### Fields of a result -/

/-- A number field of a result: what it is read from, if there is something, the bound of its type,
and what it has. -/
structure NumberField where
  source : Option NumberSource
  bound : Nat
  result : Option ℚ
  deriving DecidableEq, Repr

namespace NumberField

/-- The field has the number in the file. -/
def Kept (field : NumberField) : Prop :=
  ∀ number, field.source.bind NumberSource.number = some number → field.result = some number

/-- The number in the file fits the type of the field. -/
def Fits (field : NumberField) : Prop := ∀ source ∈ field.source, source.Fits field.bound

instance (field : NumberField) : Decidable field.Kept :=
  decidable_of_iff (∀ number ∈ field.source.bind NumberSource.number, field.result = some number)
    Iff.rfl

instance (field : NumberField) : Decidable field.Fits :=
  inferInstanceAs (Decidable (∀ source ∈ field.source, source.Fits field.bound))

/-- The field has what arrives from its source. -/
structure Narrowed (field : NumberField) : Prop where
  positive : 0 < field.bound
  arrives : ∀ source, field.source = some source →
    field.result = (source.taken field.bound).map Nat.cast

theorem kept_iff_fits {field : NumberField} (narrowed : field.Narrowed) :
    field.Kept ↔ field.Fits := by
  cases found : field.source with
  | none => simp [Kept, Fits, found]
  | some source =>
    rw [Kept, Fits, found, narrowed.arrives source found, Option.bind_some,
      NumberSource.kept_iff_fits narrowed.positive]
    simp

end NumberField

/-! ### Numbers of an entry -/

/-- What a number is read from in a field of an entry. Nothing but zero takes its place. -/
def sourceIn (entry : Parse.Entry) (i : Nat) : Option NumberSource :=
  (entry.field i).text.map fun content => .text content (some 0)

/-- What a number is read from in a field of an entry that may be missing. -/
def sourceAt (entry : Except Error Parse.Entry) (i : Nat) : Option NumberSource :=
  match entry with
  | .ok entry => sourceIn entry i
  | .error _ => none

/-- The numbers of a field are read as the field, or the field fails. -/
theorem taken_of_intField {entry : Parse.Entry} {i : Nat} {value : Option Nat}
    (read : intField entry i = .ok value) :
    (∀ number ∈ value, number < 2 ^ 64) ∧ ∀ source, sourceIn entry i = some source →
      ∃ number, value = some number ∧ ∀ bound, source.taken bound = some (number % bound) := by
  unfold intField at read
  unfold sourceIn
  cases text : (entry.field i).text with
  | none =>
    rw [text] at read
    obtain rfl := Except.ok.inj read
    exact ⟨nofun, nofun⟩
  | some content =>
    rw [text] at read
    dsimp only at read
    split at read
    next number parsed =>
      obtain rfl := Except.ok.inj read
      refine ⟨?_, ?_⟩
      · rintro other ⟨⟩
        exact (Parse.number_of_parseInt parsed).2
      · rintro source ⟨⟩
        exact ⟨number, rfl, fun bound => by rw [NumberSource.taken_text, parsed]; rfl⟩
    · exact absurd read nofun

/-- A field of an entry as a number below a bound. -/
theorem narrowed_intField {entry : Parse.Entry} {i missing bound : Nat} {value : Option Nat}
    (read : intField entry i = .ok value) (positive : 0 < bound) :
    NumberField.Narrowed
      ⟨sourceIn entry i, bound, some ((value.getD missing % bound : Nat) : ℚ)⟩ where
  positive := positive
  arrives := by
    intro source found
    obtain ⟨number, rfl, taken⟩ := (taken_of_intField read).2 source found
    rw [taken, Option.map_some, Option.getD_some]

/-- A field of an entry as a 64-bit number. -/
theorem narrowed_intField_wide {entry : Parse.Entry} {i : Nat} {value : Option Nat}
    (read : intField entry i = .ok value) :
    NumberField.Narrowed ⟨sourceIn entry i, 2 ^ 64, some ((value.getD 0 : Nat) : ℚ)⟩ := by
  have narrowed := @narrowed_intField entry i 0 _ _ read (Nat.two_pow_pos 64)
  have below : value.getD 0 < 2 ^ 64 := by
    cases value with
    | none => decide
    | some number => exact (taken_of_intField read).1 number rfl
  rwa [Nat.mod_eq_of_lt below] at narrowed

namespace Eds

/-! ### The device and the parameters -/

def deviceNumberSource (eds : Eds) (key : List Char) : Option NumberSource :=
  sourceAt (eds.entry "Device".toList key) 0

/-- The number fields of the device. -/
def deviceFields (eds : Eds) (device : EdsDevice) : List NumberField :=
  [⟨eds.deviceNumberSource "VendCode".toList, 2 ^ 16, some device.vendorId.toNat⟩,
    ⟨eds.deviceNumberSource "ProdType".toList, 2 ^ 16, some device.productType.toNat⟩,
    ⟨eds.deviceNumberSource "ProdCode".toList, 2 ^ 16, some device.productCode.toNat⟩,
    ⟨eds.deviceNumberSource "MajRev".toList, 2 ^ 8, some device.majorRevision.toNat⟩,
    ⟨eds.deviceNumberSource "MinRev".toList, 2 ^ 8, some device.minorRevision.toNat⟩]

theorem narrowed_deviceInt {eds : Eds} {key : List Char} {value bound : Nat}
    (read : eds.deviceInt key = .ok value) (positive : 0 < bound) :
    NumberField.Narrowed ⟨eds.deviceNumberSource key, bound, some ((value % bound : Nat) : ℚ)⟩ := by
  obtain ⟨entry, found, rest⟩ := bind_eq_ok_iff.mp read
  obtain ⟨number, intRead, isSome⟩ := bind_eq_ok_iff.mp rest
  cases number with
  | none => exact absurd isSome nofun
  | some number =>
    obtain rfl := Except.ok.inj isSome
    have narrowed := @narrowed_intField entry 0 0 _ _ intRead positive
    rw [deviceNumberSource, found]
    exact narrowed

theorem narrowed_device {eds : Eds} {device : EdsDevice} (read : eds.device = .ok device) :
    ∀ field ∈ eds.deviceFields device, field.Narrowed := by
  simp only [Eds.device, bind_eq_ok_iff] at read
  obtain ⟨vendorId, vendorIdRead, vendorName, -, productType, productTypeRead, productCode,
    productCodeRead, majorRevision, majorRead, minorRevision, minorRead, productName, -, rest⟩ :=
    read
  obtain rfl := Except.ok.inj rest
  simp only [deviceFields, List.forall_mem_cons, UInt16.toNat_ofNat', UInt8.toNat_ofNat']
  exact ⟨narrowed_deviceInt vendorIdRead (by decide),
    narrowed_deviceInt productTypeRead (by decide), narrowed_deviceInt productCodeRead (by decide),
    narrowed_deviceInt majorRead (by decide), narrowed_deviceInt minorRead (by decide),
    List.forall_mem_nil _⟩

/-- The number fields of a parameter. -/
def paramFields (eds : Eds) (number : UInt32) (param : EdsParam) : List NumberField :=
  [⟨sourceAt (eds.paramEntry number) 4, 2 ^ 8, some param.dataType.code.toNat⟩,
    ⟨sourceAt (eds.paramEntry number) 5, 2 ^ 64, some param.dataSize⟩]

/-- What a parameter is read from. -/
theorem entry_of_param {eds : Eds} {number : UInt32} {param : EdsParam}
    (read : eds.param number = .ok param) :
    ∃ entry, eds.paramEntry number = .ok entry ∧
      (∀ field ∈ eds.paramFields number param, field.Narrowed) ∧
      param.min = (entry.field 9).text ∧ param.max = (entry.field 10).text ∧
      param.default = (entry.field 11).text := by
  simp only [Eds.param, bind_eq_ok_iff] at read
  obtain ⟨entry, found, dataType, typeRead, dataSize, sizeRead, rest⟩ := read
  obtain rfl := Except.ok.inj rest
  refine ⟨entry, found, ?_, rfl, rfl, rfl⟩
  simp only [paramFields, found, sourceAt, List.forall_mem_cons, UInt8.toNat_ofNat']
  exact ⟨narrowed_intField typeRead (by decide), narrowed_intField_wide sizeRead,
    List.forall_mem_nil _⟩

/-! ### Packet intervals -/

/-- The text of a packet interval: a field of the entry, or a field of the parameter it refers
to. -/
def rpiText (eds : Eds) (entry : Parse.Entry) (first i : Nat) : Option (List Char) :=
  (entry.field first).text.bind fun text =>
    match numbered text "Param".toList with
    | some number =>
      match eds.paramEntry number with
      | .ok entry => (entry.field i).text
      | .error _ => none
    | none => some text

/-- What a limit or the default of a packet interval is read from. Nothing takes the place of a
number that is not read. -/
def rpiSource (eds : Eds) (entry : Parse.Entry) (first i : Nat) : Option NumberSource :=
  (eds.rpiText entry first i).map fun content => .text content none

/-- What the interval that is used is read from, in microseconds: the default if it is a number, or
else the minimum. The minimum takes the place of a default that is not read, and 10 ms that of a
minimum. -/
def intervalSource (default min : Option (List Char)) : Option NumberSource :=
  match default.filter fun content => (Parse.number content).isSome with
  | some content =>
    some (.text content (some (((min.bind Parse.parseInt).map (· % 2 ^ 32)).getD 10000)))
  | none => min.map fun content => .text content (some 10000)

/-- The limits and the default of a packet interval are read from their texts. -/
theorem texts_of_directionRpi {eds : Eds} {entry : Parse.Entry} {first : Nat}
    {rpi : Option EdsRpi} (read : eds.directionRpi entry first = .ok rpi) :
    rpi.bind EdsRpi.min = rpiInt (eds.rpiText entry first 9) ∧
      rpi.bind EdsRpi.max = rpiInt (eds.rpiText entry first 10) ∧
      rpi.bind EdsRpi.default = rpiInt (eds.rpiText entry first 11) := by
  unfold directionRpi at read
  unfold rpiText
  cases text : (entry.field first).text with
  | none =>
    rw [text] at read
    obtain rfl := Except.ok.inj read
    exact ⟨rfl, rfl, rfl⟩
  | some content =>
    rw [text] at read
    simp only [Option.bind_some]
    dsimp only at read
    cases refers : numbered content "Param".toList with
    | some number =>
      rw [refers] at read
      obtain ⟨param, paramRead, rest⟩ := bind_eq_ok_iff.mp read
      obtain ⟨paramEntry, found, -, minText, maxText, defaultText⟩ := entry_of_param paramRead
      obtain rfl := Except.ok.inj rest
      dsimp only
      rw [found]
      exact ⟨congrArg rpiInt minText, congrArg rpiInt maxText, congrArg rpiInt defaultText⟩
    | none =>
      rw [refers] at read
      obtain rfl := Except.ok.inj read
      exact ⟨rfl, rfl, rfl⟩

/-- A packet interval as a number: 32 bits of what is read. -/
theorem toNat_rpiInt (text : Option (List Char)) :
    (rpiInt text).map UInt32.toNat = (text.bind Parse.parseInt).map (· % 2 ^ 32) := by
  rw [rpiInt, Option.map_map]
  rfl

theorem narrowed_rpiInt (text : Option (List Char)) :
    NumberField.Narrowed ⟨text.map fun content => .text content none, 2 ^ 32,
      ((rpiInt text).map UInt32.toNat).map Nat.cast⟩ where
  positive := Nat.two_pow_pos 32
  arrives := by
    intro source found
    obtain ⟨content, rfl, rfl⟩ := Option.map_eq_some_iff.mp found
    rw [toNat_rpiInt, Option.bind_some, NumberSource.taken_text, Option.or_none]

/-- The packet interval of the settings. -/
theorem narrowed_interval (default min : Option (List Char)) :
    NumberField.Narrowed ⟨intervalSource default min, 2 ^ 32,
      some ((((rpiInt default).or (rpiInt min)).getD 10000).toNat : ℚ)⟩ where
  positive := Nat.two_pow_pos 32
  arrives := by
    intro source found
    have used : (((rpiInt default).or (rpiInt min)).getD 10000).toNat =
        (((default.bind Parse.parseInt).map (· % 2 ^ 32)).or
          ((min.bind Parse.parseInt).map (· % 2 ^ 32))).getD 10000 := by
      rw [← toNat_rpiInt, ← toNat_rpiInt]
      cases rpiInt default <;> cases rpiInt min <;> rfl
    dsimp only
    rw [used]
    unfold intervalSource at found
    split at found
    next content isNumber =>
      obtain rfl := Option.some.inj found
      obtain ⟨rfl, -⟩ := Option.filter_eq_some_iff.mp isNumber
      rw [Option.bind_some, NumberSource.taken_text, Option.or_some, Option.getD_or]
      rfl
    next noNumber =>
      obtain ⟨content, rfl, rfl⟩ := Option.map_eq_some_iff.mp found
      have notRead : default.bind Parse.parseInt = none := by
        refine Option.bind_eq_none_iff.mpr fun text isText => ?_
        by_contra read
        obtain ⟨value, parsed⟩ := Option.ne_none_iff_exists'.mp read
        refine Option.filter_eq_none_iff.mp noNumber text isText ?_
        rw [(Parse.number_of_parseInt parsed).1]
        rfl
      rw [notRead, Option.map_none, Option.none_or, Option.bind_some, NumberSource.taken_text,
        Option.or_some]
      rfl

/-! ### Sizes -/

/-- The sizes of the members that are there, as texts. -/
def memberSizes (entry : Parse.Entry) : List (List Char) :=
  (everySecond (entry.fields.drop 6)).filterMap Parse.Field.text

/-- The sizes that are added up: those that are 64-bit numbers. -/
def countedSizes (entry : Parse.Entry) : List Nat := (memberSizes entry).filterMap Parse.parseInt

/-- What the size of an assembly is read from: its size field, or else the sizes of its members. -/
def assemblySource (entry : Parse.Entry) : Option NumberSource :=
  (sourceIn entry 2).or (some (.members (memberSizes entry)))

/-- What a connection size is read from: a field of the entry, the default of the parameter it
refers to, or the assembly in the next field. -/
def sizeSource (eds : Eds) (entry : Parse.Entry) (i : Nat) : Option NumberSource :=
  match (entry.field i).text with
  | some text =>
    match numbered text "Param".toList with
    | some number => sourceAt (eds.paramEntry number) 11
    | none => some (.text text (some 0))
  | none =>
    (assemblyReference entry (i + 1)).bind fun number =>
      match eds.assemblyEntry number with
      | .ok entry => assemblySource entry
      | .error _ => none

theorem memberBits_eq (entry : Parse.Entry) :
    memberBits entry = (countedSizes entry).sum % 2 ^ 64 := by
  rw [memberBits, countedSizes, memberSizes, List.filterMap_filterMap]

/-- A size is what is taken from its source, and has at most 64 bits. -/
structure Sized (source : Option NumberSource) (size : Nat) : Prop where
  below : size < 2 ^ 64
  taken : ∀ found, source = some found → ∀ bound, found.taken bound = some (size % bound)

theorem sized_assembly {eds : Eds} {number : UInt32} {assembly : EdsAssembly}
    (read : eds.assembly number = .ok assembly) :
    ∃ entry, eds.assemblyEntry number = .ok entry ∧
      Sized (assemblySource entry) assembly.size := by
  simp only [Eds.assembly, bind_eq_ok_iff] at read
  obtain ⟨entry, found, bytes, intRead, rest⟩ := read
  obtain rfl := Except.ok.inj rest
  obtain ⟨below, taken⟩ := taken_of_intField intRead
  refine ⟨entry, found, ?_, ?_⟩
  · have bits : memberBits entry < 2 ^ 64 := Nat.mod_lt _ (by decide)
    cases bytes with
    | none =>
      dsimp only [Option.getD_none]
      omega
    | some size => exact below size rfl
  · intro source isSource bound
    cases text : sourceIn entry 2 with
    | some inField =>
      rw [assemblySource, text, Option.some_or] at isSource
      obtain rfl := Option.some.inj isSource
      obtain ⟨size, rfl, same⟩ := taken inField text
      exact same bound
    | none =>
      rw [assemblySource, text, Option.none_or] at isSource
      obtain rfl := Option.some.inj isSource
      have empty : bytes = none := by
        rw [intField, Option.map_eq_none_iff.mp text] at intRead
        exact (Except.ok.inj intRead).symm
      rw [empty, Option.getD_none, memberBits_eq]
      rfl

/-- A default that is not read is zero. -/
theorem sized_text (text : Option (List Char)) :
    Sized (text.map fun content => .text content (some 0))
      ((text.bind Parse.parseInt).getD 0) := by
  cases text with
  | none => exact ⟨by decide, nofun⟩
  | some content =>
    rw [Option.bind_some]
    cases read : Parse.parseInt content with
    | none =>
      refine ⟨by decide, ?_⟩
      rintro source ⟨⟩ bound
      rw [NumberSource.taken_text, read, Option.getD_none, Nat.zero_mod]
      rfl
    | some value =>
      refine ⟨(Parse.number_of_parseInt read).2, ?_⟩
      rintro source ⟨⟩ bound
      rw [NumberSource.taken_text, read, Option.getD_some]
      rfl

theorem sized_directionSize {eds : Eds} {entry : Parse.Entry} {i size : Nat}
    (read : eds.directionSize entry i = .ok size) : Sized (eds.sizeSource entry i) size := by
  unfold directionSize at read
  unfold sizeSource
  cases text : (entry.field i).text with
  | some content =>
    rw [text] at read
    dsimp only at read ⊢
    cases refers : numbered content "Param".toList with
    | some number =>
      rw [refers] at read
      obtain ⟨param, paramRead, rest⟩ := bind_eq_ok_iff.mp read
      obtain ⟨paramEntry, found, -, -, -, defaultText⟩ := entry_of_param paramRead
      obtain rfl := Except.ok.inj rest
      dsimp only
      rw [found, EdsParam.defaultInt, defaultText]
      exact sized_text _
    | none =>
      rw [refers] at read
      dsimp only at read
      split at read
      next number parsed =>
        obtain rfl := Except.ok.inj read
        have sized := sized_text (some content)
        rw [Option.bind_some, parsed] at sized
        exact sized
      · exact absurd read nofun
  | none =>
    rw [text] at read
    dsimp only at read ⊢
    cases refers : assemblyReference entry (i + 1) with
    | some number =>
      rw [refers] at read
      obtain ⟨assembly, assemblyRead, rest⟩ := bind_eq_ok_iff.mp read
      obtain ⟨assemblyEntry, found, sized⟩ := sized_assembly assemblyRead
      obtain rfl := Except.ok.inj rest
      rw [Option.bind_some, found]
      exact sized
    | none =>
      rw [refers] at read
      obtain rfl := Except.ok.inj read
      exact ⟨by decide, nofun⟩

/-- A size in a type with a bound. -/
theorem Sized.narrowed {source : Option NumberSource} {size bound : Nat}
    (sized : Sized source size) (positive : 0 < bound) :
    NumberField.Narrowed ⟨source, bound, some ((size % bound : Nat) : ℚ)⟩ where
  positive := positive
  arrives := by
    intro found isSource
    rw [sized.taken found isSource, Option.map_some]

/-! ### Connections -/

/-- The number fields of one direction of a connection. -/
def directionFields (eds : Eds) (entry : Parse.Entry) (first : Nat) (direction : EdsDirection) :
    List NumberField :=
  [⟨eds.rpiSource entry first 9, 2 ^ 32,
      ((direction.rpi.bind EdsRpi.min).map UInt32.toNat).map Nat.cast⟩,
    ⟨eds.rpiSource entry first 10, 2 ^ 32,
      ((direction.rpi.bind EdsRpi.max).map UInt32.toNat).map Nat.cast⟩,
    ⟨eds.rpiSource entry first 11, 2 ^ 32,
      ((direction.rpi.bind EdsRpi.default).map UInt32.toNat).map Nat.cast⟩,
    ⟨eds.sizeSource entry (first + 1), 2 ^ 64, some direction.size⟩]

/-- The number fields of a connection. -/
def connectionFields (eds : Eds) (entry : Parse.Entry) (connection : EdsConnection) :
    List NumberField :=
  [⟨sourceIn entry 0, 2 ^ 32, some connection.triggerTransport.toNat⟩,
    ⟨sourceIn entry 1, 2 ^ 32, some connection.connectionParams.toNat⟩] ++
    eds.directionFields entry 2 connection.o2t ++ eds.directionFields entry 5 connection.t2o

/-- The number fields of one direction of the settings, whose interval is in nanoseconds. -/
def configDirectionFields (eds : Eds) (entry : Parse.Entry) (first : Nat)
    (direction : Direction) : List NumberField :=
  [⟨eds.sizeSource entry (first + 1), 2 ^ 16, some direction.size.toNat⟩,
    ⟨intervalSource (eds.rpiText entry first 11) (eds.rpiText entry first 9), 2 ^ 32,
      some (direction.rpi / 1000)⟩]

/-- The number fields of the settings that a connection is converted to. -/
def configFields (eds : Eds) (entry : Parse.Entry) (config : ConnectionConfig) :
    List NumberField :=
  eds.configDirectionFields entry 2 config.o2t ++ eds.configDirectionFields entry 5 config.t2o

theorem narrowed_required {entry : Parse.Entry} {number value : UInt32} {i : Nat} {what : String}
    (read : required entry number i what = .ok value) :
    NumberField.Narrowed ⟨sourceIn entry i, 2 ^ 32, some value.toNat⟩ := by
  obtain ⟨present, intRead, isSome⟩ := bind_eq_ok_iff.mp read
  cases present with
  | none => exact absurd isSome nofun
  | some number =>
    obtain rfl := Except.ok.inj isSome
    rw [UInt32.toNat_ofNat']
    exact @narrowed_intField entry i 0 _ _ intRead (Nat.two_pow_pos 32)

theorem narrowed_direction {eds : Eds} {entry : Parse.Entry} {first : Nat}
    {direction : EdsDirection} (read : eds.direction entry first = .ok direction) :
    ∀ field ∈ eds.directionFields entry first direction, field.Narrowed := by
  simp only [Eds.direction, bind_eq_ok_iff] at read
  obtain ⟨rpi, rpiRead, size, sizeRead, rest⟩ := read
  obtain rfl := Except.ok.inj rest
  obtain ⟨minText, maxText, defaultText⟩ := texts_of_directionRpi rpiRead
  have sized := sized_directionSize sizeRead
  have narrowedSize := sized.narrowed (Nat.two_pow_pos 64)
  rw [Nat.mod_eq_of_lt sized.below] at narrowedSize
  simp only [directionFields, List.forall_mem_cons, minText, maxText, defaultText]
  exact ⟨narrowed_rpiInt _, narrowed_rpiInt _, narrowed_rpiInt _, narrowedSize,
    List.forall_mem_nil _⟩

/-- The settings are converted from a direction that was read. -/
theorem narrowed_configDirection {eds : Eds} {entry : Parse.Entry} {first : Nat}
    {connection : EdsConnection} {direction : EdsDirection} {shift fixedBit : UInt32}
    {name : String} {config : Direction} (read : eds.direction entry first = .ok direction)
    (converted : connection.configDirection shift fixedBit direction name = .ok config) :
    ∀ field ∈ eds.configDirectionFields entry first config, field.Narrowed := by
  simp only [Eds.direction, bind_eq_ok_iff] at read
  obtain ⟨rpi, rpiRead, size, sizeRead, rest⟩ := read
  obtain rfl := Except.ok.inj rest
  obtain ⟨minText, -, defaultText⟩ := texts_of_directionRpi rpiRead
  obtain ⟨connectionType, -, settings⟩ := bind_eq_ok_iff.mp converted
  obtain rfl := Except.ok.inj settings
  have used : (rpi.bind fun rpi => rpi.default.or rpi.min) =
      (rpiInt (eds.rpiText entry first 11)).or (rpiInt (eds.rpiText entry first 9)) := by
    rw [← defaultText, ← minText]
    cases rpi with
    | none => rfl
    | some rpi => rfl
  have micros (interval : UInt32) :
      ((interval.toNat * 1000 : Nat) : ℚ) / 1000 = interval.toNat := by
    rw [Nat.cast_mul, Nat.cast_ofNat, mul_div_cancel_right₀ _ (by norm_num)]
  simp only [configDirectionFields, List.forall_mem_cons, used, micros, UInt16.toNat_ofNat']
  exact ⟨(sized_directionSize sizeRead).narrowed (by decide), narrowed_interval _ _,
    List.forall_mem_nil _⟩

/-- A connection is read from the two directions of its entry. -/
theorem directions_of_decodeConnection {eds : Eds} {number : UInt32} {entry : Parse.Entry}
    {connection : EdsConnection} (read : eds.decodeConnection number entry = .ok connection) :
    (∀ field ∈ eds.connectionFields entry connection, field.Narrowed) ∧
      eds.direction entry 2 = .ok connection.o2t ∧ eds.direction entry 5 = .ok connection.t2o := by
  simp only [decodeConnection, bind_eq_ok_iff] at read
  obtain ⟨triggerTransport, triggerRead, connectionParams, paramsRead, o2t, o2tRead, t2o, t2oRead,
    path, -, rest⟩ := read
  obtain rfl := Except.ok.inj rest
  refine ⟨?_, o2tRead, t2oRead⟩
  simp only [connectionFields, List.forall_mem_append, List.forall_mem_cons]
  exact ⟨⟨⟨narrowed_required triggerRead, narrowed_required paramsRead, List.forall_mem_nil _⟩,
    narrowed_direction o2tRead⟩, narrowed_direction t2oRead⟩

/-- The settings that a connection is converted to. -/
theorem narrowed_config {eds : Eds} {number : UInt32} {entry : Parse.Entry}
    {connection : EdsConnection} {config : ConnectionConfig}
    (read : eds.decodeConnection number entry = .ok connection)
    (converted : connection.toConnectionConfig = .ok config) :
    ∀ field ∈ eds.configFields entry config, field.Narrowed := by
  obtain ⟨-, o2tRead, t2oRead⟩ := directions_of_decodeConnection read
  simp only [EdsConnection.toConnectionConfig, bind_eq_ok_iff] at converted
  obtain ⟨transportClass, -, o2t, o2tConverted, t2o, t2oConverted, rest⟩ := converted
  obtain rfl := Except.ok.inj rest
  simp only [configFields, List.forall_mem_append]
  exact ⟨narrowed_configDirection o2tRead o2tConverted,
    narrowed_configDirection t2oRead t2oConverted⟩

/-! ### The accessors -/

/-- A call of an accessor. The settings are those of a connection by its number, or of one that is
listed. -/
inductive Call where
  | device
  | param (number : UInt32)
  | connection (number : UInt32)
  | connections
  | connectionConfig (number : UInt32)
  | listedConfig (i : Nat)
  deriving DecidableEq, Repr

/-- The number fields of what a call returns. -/
def Call.fields (eds : Eds) : Call → Except Error (List NumberField)
  | .device => do
    let device ← eds.device
    return eds.deviceFields device
  | .param number => do
    let param ← eds.param number
    return eds.paramFields number param
  | .connection number => do
    let connection ← eds.connection number
    let entry ← eds.connectionEntry number
    return eds.connectionFields entry connection
  | .connections => do
    let listed ← eds.connections
    return (eds.numberedEntries.zip listed).flatMap fun pair =>
      eds.connectionFields pair.1.2 pair.2
  | .connectionConfig number => do
    let connection ← eds.connection number
    let entry ← eds.connectionEntry number
    let config ← connection.toConnectionConfig
    return eds.configFields entry config
  | .listedConfig i => do
    let listed ← eds.connections
    match (eds.numberedEntries.zip listed)[i]? with
    | none => .ok []
    | some pair => do
      let config ← pair.2.toConnectionConfig
      return eds.configFields pair.1.2 config

theorem decoded_of_connection {eds : Eds} {number : UInt32} {entry : Parse.Entry}
    {connection : EdsConnection} (read : eds.connection number = .ok connection)
    (found : eds.connectionEntry number = .ok entry) :
    eds.decodeConnection number entry = .ok connection := by
  rw [Eds.connection, found] at read
  exact read

/-- The listed connections are decoded from the entries of the connection manager. -/
theorem decoded_of_connections {eds : Eds} {listed : List EdsConnection}
    (read : eds.connections = .ok listed) :
    ∀ pair ∈ eds.numberedEntries.zip listed,
      eds.decodeConnection pair.1.1 pair.1.2 = .ok pair.2 := by
  rintro ⟨entry, connection⟩ member
  exact List.forall₂_zip (connections_eq_ok_iff.mp read) member

theorem narrowed_of_call {eds : Eds} {call : Call} {fields : List NumberField}
    (returned : call.fields eds = .ok fields) : ∀ field ∈ fields, field.Narrowed := by
  cases call with
  | device =>
    obtain ⟨device, read, rest⟩ := bind_eq_ok_iff.mp returned
    obtain rfl := Except.ok.inj rest
    exact narrowed_device read
  | param number =>
    obtain ⟨param, read, rest⟩ := bind_eq_ok_iff.mp returned
    obtain rfl := Except.ok.inj rest
    obtain ⟨entry, -, narrowed, -⟩ := entry_of_param read
    exact narrowed
  | connection number =>
    obtain ⟨connection, read, rest⟩ := bind_eq_ok_iff.mp returned
    obtain ⟨entry, found, same⟩ := bind_eq_ok_iff.mp rest
    obtain rfl := Except.ok.inj same
    exact (directions_of_decodeConnection (decoded_of_connection read found)).1
  | connections =>
    obtain ⟨listed, read, rest⟩ := bind_eq_ok_iff.mp returned
    obtain rfl := Except.ok.inj rest
    intro field member
    obtain ⟨pair, inList, inFields⟩ := List.mem_flatMap.mp member
    exact (directions_of_decodeConnection (decoded_of_connections read pair inList)).1 field
      inFields
  | connectionConfig number =>
    obtain ⟨connection, read, rest⟩ := bind_eq_ok_iff.mp returned
    obtain ⟨entry, found, settings⟩ := bind_eq_ok_iff.mp rest
    obtain ⟨config, converted, same⟩ := bind_eq_ok_iff.mp settings
    obtain rfl := Except.ok.inj same
    exact narrowed_config (decoded_of_connection read found) converted
  | listedConfig i =>
    obtain ⟨listed, read, rest⟩ := bind_eq_ok_iff.mp returned
    cases chosen : (eds.numberedEntries.zip listed)[i]? with
    | none =>
      rw [chosen] at rest
      obtain rfl := Except.ok.inj rest
      exact List.forall_mem_nil _
    | some pair =>
      rw [chosen] at rest
      obtain ⟨config, converted, same⟩ := bind_eq_ok_iff.mp rest
      obtain rfl := Except.ok.inj same
      exact narrowed_config (decoded_of_connections read pair (List.mem_of_getElem? chosen))
        converted

/-- When a call of an accessor returns, its number fields are the numbers in the file exactly when
each of these fits the type of its field. -/
theorem numbers_kept_iff {eds : Eds} {call : Call} {fields : List NumberField}
    (returned : call.fields eds = .ok fields) :
    (∀ field ∈ fields, field.Kept) ↔ ∀ field ∈ fields, field.Fits :=
  forall₂_congr fun field member =>
    NumberField.kept_iff_fits (narrowed_of_call returned field member)

/-- The text of a device with a vendor code. -/
def deviceSource (vendorCode : String) : List Char :=
  ("[Device]VendCode=" ++ vendorCode ++
    ";VendName=\"\";ProdType=12;ProdCode=1;MajRev=2;MinRev=3;ProdName=\"\";").toList

/-- What the text is parsed to. -/
def deviceSample (vendorCode : String) : Eds :=
  ⟨[⟨"Device".toList,
    [⟨"VendCode".toList, [.token vendorCode.toList], 1⟩, ⟨"VendName".toList, [.str []], 1⟩,
      ⟨"ProdType".toList, [.token "12".toList], 1⟩, ⟨"ProdCode".toList, [.token "1".toList], 1⟩,
      ⟨"MajRev".toList, [.token "2".toList], 1⟩, ⟨"MinRev".toList, [.token "3".toList], 1⟩,
      ⟨"ProdName".toList, [.str []], 1⟩]⟩]⟩

/-- The number fields of the device. -/
def deviceNumbers (vendorCode : String) (vendorId : ℚ) : List NumberField :=
  [⟨some (.text vendorCode.toList (some 0)), 2 ^ 16, some vendorId⟩,
    ⟨some (.text "12".toList (some 0)), 2 ^ 16, some 12⟩,
    ⟨some (.text "1".toList (some 0)), 2 ^ 16, some 1⟩,
    ⟨some (.text "2".toList (some 0)), 2 ^ 8, some 2⟩,
    ⟨some (.text "3".toList (some 0)), 2 ^ 8, some 3⟩]

/-- The text of a connection whose data to the target are described by an assembly of one member. -/
def connectionSource (memberSize : String) : List Char :=
  ("[Assembly]Assem1=,,,,,," ++ memberSize ++ ",;[Connection Manager]Connection1=0x10002," ++
    "0x11440405,10000,,Assem1,20000,8,,,,,,,,\"20 04\";").toList

/-- What the text is parsed to. -/
def connectionSample (memberSize : String) : Eds :=
  ⟨[⟨"Assembly".toList, [⟨"Assem1".toList,
      [.empty, .empty, .empty, .empty, .empty, .empty, .token memberSize.toList, .empty], 1⟩]⟩,
    ⟨"Connection Manager".toList, [⟨"Connection1".toList,
      [.token "0x10002".toList, .token "0x11440405".toList, .token "10000".toList, .empty,
        .token "Assem1".toList, .token "20000".toList, .token "8".toList, .empty, .empty, .empty,
        .empty, .empty, .empty, .empty, .str "20 04".toList], 1⟩]⟩]⟩

/-- The number fields of the settings. -/
def connectionNumbers (memberSize : String) (size : ℚ) : List NumberField :=
  [⟨some (.members [memberSize.toList]), 2 ^ 16, some size⟩,
    ⟨some (.text "10000".toList (some 10000)), 2 ^ 32, some 10000⟩,
    ⟨some (.text "8".toList (some 0)), 2 ^ 16, some 8⟩,
    ⟨some (.text "20000".toList (some 20000)), 2 ^ 32, some 20000⟩]

/-- A vendor code of sixteen bits is kept. A member of 65537 bytes is not, in the settings of its
connection. -/
theorem numbers_kept_iff_samples :
    (Eds.parse (deviceSource "65535") = .ok (deviceSample "65535") ∧
      ∃ fields, Call.device.fields (deviceSample "65535") = .ok fields ∧
        ∀ field ∈ fields, field.Kept) ∧
    Eds.parse (connectionSource "524296") = .ok (connectionSample "524296") ∧
      ∃ fields, (Call.connectionConfig 1).fields (connectionSample "524296") = .ok fields ∧
        ¬ ∀ field ∈ fields, field.Kept := by
  refine ⟨⟨?_, deviceNumbers "65535" 65535, ?_, ?_⟩,
    ?_, connectionNumbers "524296" 1, ?_, ?_⟩
  · rw [Eds.parse, Parse.parse_eq_scan]
    decide +kernel
  · decide +kernel
  · refine (@numbers_kept_iff (deviceSample "65535") .device _ ?_).mpr ?_
    · decide +kernel
    · decide +kernel
  · rw [Eds.parse, Parse.parse_eq_scan]
    decide +kernel
  · decide +kernel
  · refine (@numbers_kept_iff (connectionSample "524296") (.connectionConfig 1) _ ?_).not.mpr ?_
    · decide +kernel
    · decide +kernel

/-- A vendor code of more than sixteen bits loses its high bits, and the device is returned. -/
theorem not_kept_vendorId :
    Eds.parse (deviceSource "65537") = .ok (deviceSample "65537") ∧
      (deviceSample "65537").device.map EdsDevice.vendorId = .ok 1 ∧
      ∃ fields, Call.device.fields (deviceSample "65537") = .ok fields ∧
        ¬ ∀ field ∈ fields, field.Kept := by
  refine ⟨?_, by decide +kernel, deviceNumbers "65537" 1, by decide +kernel, by decide +kernel⟩
  rw [Eds.parse, Parse.parse_eq_scan]
  decide +kernel

end Eds

end EipScanner
