/-
This file compares two ways to an entry of an EDS. One reads the number out of a keyword,
as the list of connections does and as a reference does. The other writes the number
behind a word and searches for that keyword, as every access by number does, and takes
the first entry it finds in the first section of its name.

A number can be written in more ways than one, with a plus sign or with zeros in front,
and an entry or a section can be repeated. The two ways agree exactly where the number is
also written plainly in the first section, and where the entries of one number describe
the same connection.
-/

import EipScanner.Eds
import EipScanner.EdsScanner

namespace EipScanner

open Text

/-! ### Plain keywords -/

/-- A keyword that is the word and the number in decimal digits, but for the case of letters, has
that number. -/
theorem numbered_of_plain {keyword word : List Char} {number : UInt32}
    (plain : eqIgnoreAsciiCase keyword (numberedKeyword word number) = true) :
    numbered keyword word = some number := by
  have same := eq_of_beq plain
  rw [numberedKeyword, List.map_append] at same
  have front := congrArg (List.take word.length) same
  have back := congrArg (List.drop word.length) same
  rw [← List.map_take, List.take_left' (List.length_map _)] at front
  rw [← List.map_drop, List.drop_left' (List.length_map _)] at back
  have digits : keyword.drop word.length = Nat.toDigits 10 number.toNat :=
    eq_of_map_toAsciiLowercase
      (fun _ member => Nat.isDigit_of_mem_toDigits (by decide) (by decide) member) back
  have parsed : fromStrRadix 10 (2 ^ 32) (Nat.toDigits 10 number.toNat) = some number.toNat :=
    fromStrRadix_toDigits number.toNat_lt
  have sameWord : eqIgnoreAsciiCase (keyword.take word.length) word = true := beq_iff_eq.mpr front
  rw [numbered, if_pos sameWord, digits, parsed, Option.map_some, UInt32.ofNat_toNat]

namespace Eds

variable {eds : Eds}

/-- The first entry of a section, by its name, that has a number written plainly behind a word. -/
def plainEntry (eds : Eds) (sectionName word : List Char) (number : UInt32) : Option Parse.Entry :=
  (eds.section sectionName).bind fun found => found.get (numberedKeyword word number)

theorem entry_eq_ok_iff {sectionName word : List Char} {number : UInt32} {entry : Parse.Entry} :
    eds.entry sectionName (numberedKeyword word number) = .ok entry ↔
      eds.plainEntry sectionName word number = some entry := by
  unfold Eds.entry plainEntry
  cases (eds.section sectionName).bind fun found => found.get (numberedKeyword word number) with
  | none => simp
  | some other => simp

theorem keyword_of_get {inSection : Parse.Section} {keyword : List Char} {entry : Parse.Entry}
    (found : inSection.get keyword = some entry) :
    eqIgnoreAsciiCase entry.keyword keyword = true := by
  unfold Parse.Section.get at found
  exact @List.find?_some _ (fun entry : Parse.Entry => eqIgnoreAsciiCase entry.keyword keyword)
    _ _ found

/-- An entry whose number is written plainly has that number. -/
theorem numbered_of_plainEntry {sectionName word : List Char} {number : UInt32}
    {entry : Parse.Entry} (plain : eds.plainEntry sectionName word number = some entry) :
    numbered entry.keyword word = some number := by
  obtain ⟨found, -, isFirst⟩ := Option.bind_eq_some_iff.mp plain
  exact numbered_of_plain (keyword_of_get isFirst)

/-! ### References -/

/-- A number that an entry of a section has is looked up to an entry that has it too. The section
is any of its name. -/
def Resolves (eds : Eds) (sectionName word : List Char) : Prop :=
  ∀ inSection ∈ eds.sections, eqIgnoreAsciiCase inSection.name sectionName = true →
    ∀ entry ∈ inSection.entries, ∀ number, numbered entry.keyword word = some number →
      ∃ found, eds.entry sectionName (numberedKeyword word number) = .ok found ∧
        numbered found.keyword word = some number

/-- A number that an entry of a section has is also written plainly in the first section of that
name. -/
def WrittenPlainly (eds : Eds) (sectionName word : List Char) : Prop :=
  ∀ inSection ∈ eds.sections, eqIgnoreAsciiCase inSection.name sectionName = true →
    ∀ entry ∈ inSection.entries, ∀ number, numbered entry.keyword word = some number →
      (eds.plainEntry sectionName word number).isSome = true

theorem resolves_iff (eds : Eds) (sectionName word : List Char) :
    eds.Resolves sectionName word ↔ eds.WrittenPlainly sectionName word := by
  unfold Resolves WrittenPlainly
  refine forall₂_congr fun inSection _ => forall₂_congr fun _ entry =>
    forall₃_congr fun _ number _ => ?_
  rw [Option.isSome_iff_exists]
  exact exists_congr fun found => (and_congr_left' entry_eq_ok_iff).trans
    (and_iff_left_of_imp numbered_of_plainEntry)

/-! ### Connections -/

/-- Where the connections are listed, each of them is returned for its number. -/
def ListedAreFound (eds : Eds) : Prop :=
  ∀ listed, eds.connections = .ok listed →
    ∀ connection ∈ listed, eds.connection connection.number = .ok connection

/-- Every numbered entry describes a connection. -/
def AllDecoded (eds : Eds) : Prop :=
  ∀ pair ∈ eds.numberedEntries, ∃ connection, eds.decodeConnection pair.1 pair.2 = .ok connection

/-- Each numbered entry describes the same connection as the first one in which the number is
written plainly. -/
def DescribedPlainly (eds : Eds) : Prop :=
  ∀ pair ∈ eds.numberedEntries, ∃ plain,
    eds.plainEntry "Connection Manager".toList "Connection".toList pair.1 = some plain ∧
      eds.decodeConnection pair.1 plain = eds.decodeConnection pair.1 pair.2

theorem number_of_decodeConnection {number : UInt32} {entry : Parse.Entry}
    {connection : EdsConnection} (decoded : eds.decodeConnection number entry = .ok connection) :
    connection.number = number := by
  unfold decodeConnection at decoded
  simp only [bind_eq_ok_iff] at decoded
  obtain ⟨_, -, _, -, _, -, _, -, _, -, same⟩ := decoded
  obtain rfl := Except.ok.inj same
  rfl

theorem connection_eq_ok_iff {number : UInt32} {connection : EdsConnection} :
    eds.connection number = .ok connection ↔
      ∃ plain, eds.plainEntry "Connection Manager".toList "Connection".toList number =
          some plain ∧
        eds.decodeConnection number plain = .ok connection := by
  rw [Eds.connection, bind_eq_ok_iff, connectionEntry]
  exact exists_congr fun plain => and_congr_left' entry_eq_ok_iff

/-- When the listed connections are found: one of the entries cannot be decoded, so that nothing is
listed, or each describes the same connection as the first that is written plainly. -/
theorem listedAreFound_iff (eds : Eds) :
    eds.ListedAreFound ↔ (eds.AllDecoded → eds.DescribedPlainly) := by
  constructor
  · intro found decoded pair member
    obtain ⟨listed, read⟩ : ∃ listed, eds.connections = .ok listed := mapM_succeeds decoded
    obtain ⟨connection, among, here⟩ :=
      exists_of_forall₂ (connections_eq_ok_iff.mp read) pair member
    have returned := found listed read connection among
    rw [number_of_decodeConnection here] at returned
    obtain ⟨plain, isPlain, same⟩ := connection_eq_ok_iff.mp returned
    exact ⟨plain, isPlain, same.trans here.symm⟩
  · intro described listed read connection member
    have all := connections_eq_ok_iff.mp read
    have decoded : eds.AllDecoded := by
      intro pair among
      obtain ⟨other, -, here⟩ := exists_of_forall₂ all pair among
      exact ⟨other, here⟩
    obtain ⟨pair, among, here⟩ := exists_of_forall₂ all.flip connection member
    obtain ⟨plain, isPlain, same⟩ := described decoded pair among
    rw [number_of_decodeConnection here]
    exact connection_eq_ok_iff.mpr ⟨plain, isPlain, same.trans here⟩

/-! ### Both ways -/

/-- Listing and looking up agree: listed connections are found by their numbers, and a reference to
the number of a parameter or of an assembly is resolved to one that has it. -/
structure LookupAgrees (eds : Eds) : Prop where
  connections : eds.ListedAreFound
  params : eds.Resolves "Params".toList "Param".toList
  assemblies : eds.Resolves "Assembly".toList "Assem".toList

/-- Numbers are written plainly: that of a parameter or assembly in the first section of its name,
and unless an entry for a connection cannot be decoded, that of a connection with the same content
as wherever else it is written. -/
structure Plain (eds : Eds) : Prop where
  connections : eds.AllDecoded → eds.DescribedPlainly
  params : eds.WrittenPlainly "Params".toList "Param".toList
  assemblies : eds.WrittenPlainly "Assembly".toList "Assem".toList

/-- Listing and looking up agree exactly where numbers are written plainly. -/
theorem lookupAgrees_iff (eds : Eds) : eds.LookupAgrees ↔ eds.Plain := by
  constructor
  · rintro ⟨connections, params, assemblies⟩
    exact ⟨(listedAreFound_iff eds).mp connections, (resolves_iff eds _ _).mp params,
      (resolves_iff eds _ _).mp assemblies⟩
  · rintro ⟨connections, params, assemblies⟩
    exact ⟨(listedAreFound_iff eds).mpr connections, (resolves_iff eds _ _).mpr params,
      (resolves_iff eds _ _).mpr assemblies⟩

/-- A connection whose number is written with a zero in front. -/
def zeroText : List Char :=
  ("[Connection Manager]\n Connection01 = 0x10002, 0x11440405, , 4, , , 4, , , , , , " ++
    "\"A\", \"\", \"20 04\";").toList

def zeroEntry : Parse.Entry :=
  ⟨"Connection01".toList, [.token "0x10002".toList, .token "0x11440405".toList, .empty,
    .token "4".toList, .empty, .empty, .token "4".toList, .empty, .empty, .empty, .empty, .empty,
    .str "A".toList, .str [], .str "20 04".toList], 2⟩

def zeroSample : Eds := ⟨[⟨"Connection Manager".toList, [zeroEntry]⟩]⟩

def zeroConnection : EdsConnection :=
  ⟨1, "A".toList, [], 0x10002, 0x11440405, ⟨none, 4, none⟩, ⟨none, 4, none⟩, none, ⟨[0x20, 4]⟩⟩

/-- A parameter whose number is written with a plus sign, and one in a second section. -/
def plusText : List Char :=
  "[Params]\n Param+1 = 0;\n [Params]\n Param2 = 0;".toList

def plusEntry : Parse.Entry := ⟨"Param+1".toList, [.token "0".toList], 2⟩

def secondEntry : Parse.Entry := ⟨"Param2".toList, [.token "0".toList], 4⟩

def plusSample : Eds :=
  ⟨[⟨"Params".toList, [plusEntry]⟩, ⟨"Params".toList, [secondEntry]⟩]⟩

/-- A listed connection is not found by its number, and references to the numbers of two parameters
fail. -/
theorem lookup_disagrees :
    (Eds.parse zeroText = .ok zeroSample ∧ zeroSample.connections = .ok [zeroConnection] ∧
        zeroConnection.number = 1 ∧
        zeroSample.connection 1 =
          .error (.eds "[Connection Manager] has no entry 'Connection1'") ∧
        ¬ zeroSample.LookupAgrees) ∧
      Eds.parse plusText = .ok plusSample ∧
        numbered plusEntry.keyword "Param".toList = some 1 ∧
        plusSample.param 1 = .error (.eds "[Params] has no entry 'Param1'") ∧
        numbered secondEntry.keyword "Param".toList = some 2 ∧
        plusSample.param 2 = .error (.eds "[Params] has no entry 'Param2'") ∧
        ¬ plusSample.LookupAgrees := by
  have listed : zeroSample.connections = .ok [zeroConnection] := by decide +kernel
  have missing : zeroSample.connection 1 =
      .error (.eds "[Connection Manager] has no entry 'Connection1'") := by decide +kernel
  have plus : numbered plusEntry.keyword "Param".toList = some 1 := by decide +kernel
  have absent : plusSample.entry "Params".toList (numberedKeyword "Param".toList 1) =
      .error (.eds "[Params] has no entry 'Param1'") := by decide +kernel
  refine ⟨⟨?_, listed, rfl, missing, ?_⟩, ?_, plus, by decide +kernel, by decide +kernel,
    by decide +kernel, ?_⟩
  · rw [Eds.parse, Parse.parse_eq_scan]
    decide +kernel
  · intro agrees
    have found := agrees.connections _ listed zeroConnection (List.mem_singleton_self _)
    cases missing.symm.trans found
  · rw [Eds.parse, Parse.parse_eq_scan]
    decide +kernel
  · intro agrees
    obtain ⟨found, resolved, -⟩ := agrees.params _ (List.mem_cons_self ..) (by decide +kernel)
      plusEntry (List.mem_singleton_self _) 1 plus
    cases absent.symm.trans resolved

end Eds

end EipScanner
