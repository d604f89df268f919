/-
This file models the buffer primitives the protocol code is written in: appending
little-endian integers to a growing byte vector, and reading them off the front of
a byte slice with a check that enough bytes remain. A byte vector and a byte slice
are both lists of bytes. A checked read that fails reports how many bytes it asked
for and how many there were.

It also holds the error type the fallible functions return, and the text that the
wire-code newtypes print as, because some errors quote it.
-/

import EipScanner.LittleEndian

namespace EipScanner

abbrev Bytes := List UInt8

/-! ### Wire codes -/

/-- Encapsulation status code. -/
structure EncapsStatus where
  code : UInt32
  deriving DecidableEq, Repr

def EncapsStatus.success : EncapsStatus := ⟨0⟩

/-- CIP general status code. -/
structure GeneralStatusCode where
  code : UInt8
  deriving DecidableEq, Repr

def GeneralStatusCode.success : GeneralStatusCode := ⟨0⟩

/-- CIP service code. -/
structure ServiceCode where
  code : UInt8
  deriving DecidableEq, Repr

namespace ServiceCode

def forwardClose : ServiceCode := ⟨0x4E⟩
def forwardOpen : ServiceCode := ⟨0x54⟩
def largeForwardOpen : ServiceCode := ⟨0x5B⟩

end ServiceCode

/-- A number as `{:#x}` prints it. -/
def hexText (number : Nat) : String := "0x" ++ String.ofList (Nat.toDigits 16 number)

/-- A byte as `{:#04x}` prints it, with two digits. -/
def hexByteText (number : Nat) : String :=
  "0x" ++ (if number < 16 then "0" else "") ++ String.ofList (Nat.toDigits 16 number)

/-- A wire code as it prints: its name if the crate knows one, else the name of its type. -/
def wireCodeText (typeName : String) (names : List (Nat × String)) (code : Nat) : String :=
  (names.lookup code).getD typeName ++ "(" ++ hexText code ++ ")"

/-! ### Errors -/

inductive Error where
  | io
  | truncated (requested available : Nat)
  | invalidPacket (text : String)
  | encaps (status : EncapsStatus)
  | wrongSessionHandle (expected received : UInt32)
  | cip (context : String) (status : GeneralStatusCode) (additional : List UInt16)
  | invalidInput (text : String)
  | eds (text : String)
  | ioThreadStopped
  | unsupported (text : String)
  deriving DecidableEq, Repr

/-- A computation that goes on after a success. -/
@[simp]
theorem ok_bind {First Second : Type} (value : First) (next : First → Except Error Second) :
    (Except.ok value >>= next) = next value := by
  simp only [bind, Except.bind]

/-- A computation in two parts succeeds when both do. -/
theorem bind_eq_ok_iff {First Second : Type} {first : Except Error First}
    {next : First → Except Error Second} {result : Second} :
    (first >>= next) = .ok result ↔ ∃ value, first = .ok value ∧ next value = .ok result := by
  cases first with
  | error refused => simp [bind, Except.bind]
  | ok value => simp

/-- A computation for each of a list succeeds when all do. -/
theorem mapM_eq_ok_iff {Input Result : Type} {compute : Input → Except Error Result}
    {inputs : List Input} {results : List Result} :
    inputs.mapM compute = .ok results ↔
      List.Forall₂ (fun input result => compute input = .ok result) inputs results := by
  induction inputs generalizing results with
  | nil =>
    rw [List.mapM_nil, List.forall₂_nil_left_iff]
    exact ⟨fun same => (Except.ok.inj same).symm, congrArg Except.ok ∘ Eq.symm⟩
  | cons input rest inductionHypothesis =>
    rw [List.mapM_cons, List.forall₂_cons_left_iff]
    simp only [bind_eq_ok_iff, inductionHypothesis]
    constructor
    · rintro ⟨result, computed, others, computedOthers, same⟩
      exact ⟨result, others, computed, computedOthers, (Except.ok.inj same).symm⟩
    · rintro ⟨result, others, computed, computedOthers, rfl⟩
      exact ⟨result, computed, others, computedOthers, rfl⟩

/-- Each of a list is related to one of the list that it is related to. -/
theorem exists_of_forall₂ {First Second : Type} {related : First → Second → Prop}
    {firsts : List First} {seconds : List Second} (all : List.Forall₂ related firsts seconds) :
    ∀ first ∈ firsts, ∃ second ∈ seconds, related first second := by
  induction all with
  | nil => exact List.forall_mem_nil _
  | cons here _ inductionHypothesis =>
    refine List.forall_mem_cons.mpr ⟨⟨_, List.mem_cons_self, here⟩, fun first member => ?_⟩
    obtain ⟨second, among, later⟩ := inductionHypothesis first member
    exact ⟨second, List.mem_cons_of_mem _ among, later⟩

/-- A computation succeeds for a list when it does for each of it. -/
theorem mapM_succeeds {Input Result : Type} {compute : Input → Except Error Result}
    {inputs : List Input} (each : ∀ input ∈ inputs, ∃ result, compute input = .ok result) :
    ∃ results, inputs.mapM compute = .ok results := by
  induction inputs with
  | nil => exact ⟨[], rfl⟩
  | cons input rest inductionHypothesis =>
    obtain ⟨⟨result, here⟩, others⟩ := List.forall_mem_cons.mp each
    obtain ⟨results, behind⟩ := inductionHypothesis others
    refine ⟨result :: results, ?_⟩
    rw [List.mapM_cons, here, ok_bind, behind]
    rfl

/-- A computation for each of a list fails when one does. -/
theorem mapM_fails {Input Result : Type} {compute : Input → Except Error Result}
    {inputs : List Input} {input : Input} {failure : Error} (member : input ∈ inputs)
    (failed : compute input = .error failure) :
    ∃ refused, inputs.mapM compute = .error refused := by
  cases outcome : inputs.mapM compute with
  | error refused => exact ⟨refused, rfl⟩
  | ok results =>
    obtain ⟨result, -, computed⟩ := exists_of_forall₂ (mapM_eq_ok_iff.mp outcome) input member
    rw [failed] at computed
    cases computed

/-! ### Writing -/

def putU8 (value : UInt8) : Bytes := LittleEndian.digits 1 value.toNat
def putU16 (value : UInt16) : Bytes := LittleEndian.digits 2 value.toNat
def putU32 (value : UInt32) : Bytes := LittleEndian.digits 4 value.toNat

theorem putU8_eq (value : UInt8) : putU8 value = [value] :=
  congrArg (fun byte => [byte]) UInt8.ofNat_toNat

@[simp] theorem length_putU8 (value : UInt8) : (putU8 value).length = 1 := rfl
@[simp] theorem length_putU16 (value : UInt16) : (putU16 value).length = 2 :=
  LittleEndian.length_digits 2 _
@[simp] theorem length_putU32 (value : UInt32) : (putU32 value).length = 4 :=
  LittleEndian.length_digits 4 _

/-! ### Reading -/

/-- Read a `width`-byte integer off the front without a check. The source panics when too few
bytes remain, so each use stands behind a length check. -/
def getInt {Value : Type} (width : Nat) (ofNat : Nat → Value) (buf : Bytes) : Value × Bytes :=
  (ofNat (LittleEndian.number (buf.take width)), buf.drop width)

def getU8 : Bytes → UInt8 × Bytes := getInt 1 UInt8.ofNat
def getU16 : Bytes → UInt16 × Bytes := getInt 2 UInt16.ofNat
def getU32 : Bytes → UInt32 × Bytes := getInt 4 UInt32.ofNat

/-- Read a `width`-byte integer off the front, or report how many bytes there were. -/
def tryGetInt {Value : Type} (width : Nat) (ofNat : Nat → Value) (buf : Bytes) :
    Except Error (Value × Bytes) :=
  if buf.length < width then .error (.truncated width buf.length)
  else .ok (getInt width ofNat buf)

def tryGetU8 : Bytes → Except Error (UInt8 × Bytes) := tryGetInt 1 UInt8.ofNat
def tryGetU16 : Bytes → Except Error (UInt16 × Bytes) := tryGetInt 2 UInt16.ofNat
def tryGetU32 : Bytes → Except Error (UInt32 × Bytes) := tryGetInt 4 UInt32.ofNat

def tryGetVec (length : Nat) (buf : Bytes) : Except Error (Bytes × Bytes) :=
  if buf.length < length then .error (.truncated length buf.length)
  else .ok (buf.take length, buf.drop length)

def trySkip (length : Nat) (buf : Bytes) : Except Error Bytes :=
  if buf.length < length then .error (.truncated length buf.length)
  else .ok (buf.drop length)

/-- Reading the digits of a number that fits gives the number back and leaves the rest. -/
theorem getInt_digits {Value : Type} (ofNat : Nat → Value) (width : Nat) {number : Nat}
    (fits : number < 256 ^ width) (rest : Bytes) :
    getInt width ofNat (LittleEndian.digits width number ++ rest) = (ofNat number, rest) := by
  rw [getInt, LittleEndian.take_digits_append, LittleEndian.drop_digits_append,
    LittleEndian.number_digits_of_lt fits]

/-- A checked read is the unchecked one whenever enough bytes remain. -/
theorem tryGetInt_of_le {Value : Type} (ofNat : Nat → Value) {width : Nat} {buf : Bytes}
    (enough : width ≤ buf.length) : tryGetInt width ofNat buf = .ok (getInt width ofNat buf) := by
  rw [tryGetInt, if_neg (Nat.not_lt.mpr enough)]

theorem tryGetInt_of_lt {Value : Type} (ofNat : Nat → Value) {width : Nat} {buf : Bytes}
    (short : buf.length < width) :
    tryGetInt width ofNat buf = .error (.truncated width buf.length) := by
  rw [tryGetInt, if_pos short]

@[simp]
theorem getU8_putU8 (value : UInt8) (rest : Bytes) :
    getU8 (putU8 value ++ rest) = (value, rest) := by
  have read := getInt_digits UInt8.ofNat 1 (UInt8.toNat_lt value) rest
  rwa [UInt8.ofNat_toNat] at read

@[simp]
theorem getU16_putU16 (value : UInt16) (rest : Bytes) :
    getU16 (putU16 value ++ rest) = (value, rest) := by
  have read := getInt_digits UInt16.ofNat 2 (UInt16.toNat_lt value) rest
  rwa [UInt16.ofNat_toNat] at read

@[simp]
theorem getU32_putU32 (value : UInt32) (rest : Bytes) :
    getU32 (putU32 value ++ rest) = (value, rest) := by
  have read := getInt_digits UInt32.ofNat 4 (UInt32.toNat_lt value) rest
  rwa [UInt32.ofNat_toNat] at read

@[simp]
theorem tryGetU8_putU8 (value : UInt8) (rest : Bytes) :
    tryGetU8 (putU8 value ++ rest) = .ok (value, rest) := by
  have enough : 1 ≤ (putU8 value ++ rest).length := by
    rw [List.length_append, length_putU8]
    omega
  exact (tryGetInt_of_le UInt8.ofNat enough).trans (congrArg Except.ok (getU8_putU8 value rest))

@[simp]
theorem tryGetU16_putU16 (value : UInt16) (rest : Bytes) :
    tryGetU16 (putU16 value ++ rest) = .ok (value, rest) := by
  have enough : 2 ≤ (putU16 value ++ rest).length := by
    rw [List.length_append, length_putU16]
    omega
  exact (tryGetInt_of_le UInt16.ofNat enough).trans (congrArg Except.ok (getU16_putU16 value rest))

@[simp]
theorem tryGetU32_putU32 (value : UInt32) (rest : Bytes) :
    tryGetU32 (putU32 value ++ rest) = .ok (value, rest) := by
  have enough : 4 ≤ (putU32 value ++ rest).length := by
    rw [List.length_append, length_putU32]
    omega
  exact (tryGetInt_of_le UInt32.ofNat enough).trans (congrArg Except.ok (getU32_putU32 value rest))

theorem tryGetVec_append (field rest : Bytes) :
    tryGetVec field.length (field ++ rest) = .ok (field, rest) := by
  have enough : ¬ (field ++ rest).length < field.length := by
    rw [List.length_append]
    omega
  rw [tryGetVec, if_neg enough, List.take_left, List.drop_left]

/-- What a checked read accepts: the digits of a number of its width, and anything after them. -/
theorem tryGetInt_eq_ok {Value : Type} {ofNat : Nat → Value} {toNat : Value → Nat} {width : Nat}
    {value : Value} {buf rest : Bytes}
    (exact : ∀ number < 256 ^ width, toNat (ofNat number) = number)
    (read : tryGetInt width ofNat buf = .ok (value, rest)) :
    buf = LittleEndian.digits width (toNat value) ++ rest := by
  rcases Nat.lt_or_ge buf.length width with short | enough
  · rw [tryGetInt_of_lt ofNat short] at read
    exact absurd read nofun
  · have front : (buf.take width).length = width := List.length_take_of_le enough
    have bounded : LittleEndian.number (buf.take width) < 256 ^ width := by
      have below := LittleEndian.number_lt (buf.take width)
      rwa [front] at below
    rw [tryGetInt_of_le ofNat enough] at read
    obtain ⟨rfl, rfl⟩ := Prod.mk.inj (Except.ok.inj read)
    have digits := LittleEndian.digits_number (buf.take width)
    rw [front] at digits
    rw [exact _ bounded, digits, List.take_append_drop]

theorem tryGetU8_eq_ok_iff {value : UInt8} {buf rest : Bytes} :
    tryGetU8 buf = .ok (value, rest) ↔ buf = putU8 value ++ rest :=
  ⟨tryGetInt_eq_ok fun _ bounded => UInt8.toNat_ofNat_of_lt' bounded,
    fun split => split ▸ tryGetU8_putU8 value rest⟩

theorem tryGetU16_eq_ok_iff {value : UInt16} {buf rest : Bytes} :
    tryGetU16 buf = .ok (value, rest) ↔ buf = putU16 value ++ rest :=
  ⟨tryGetInt_eq_ok fun _ bounded => UInt16.toNat_ofNat_of_lt' bounded,
    fun split => split ▸ tryGetU16_putU16 value rest⟩

/-- The first two bytes of a buffer are one number. -/
theorem putU16_append_inj {first second : UInt16} {left right : Bytes}
    (same : putU16 first ++ left = putU16 second ++ right) : first = second ∧ left = right := by
  have read := tryGetU16_putU16 first left
  rw [same, tryGetU16_putU16] at read
  obtain ⟨numbers, rests⟩ := Prod.mk.inj (Except.ok.inj read)
  exact ⟨numbers.symm, rests.symm⟩

theorem tryGetU32_eq_ok_iff {value : UInt32} {buf rest : Bytes} :
    tryGetU32 buf = .ok (value, rest) ↔ buf = putU32 value ++ rest :=
  ⟨tryGetInt_eq_ok fun _ bounded => UInt32.toNat_ofNat_of_lt' bounded,
    fun split => split ▸ tryGetU32_putU32 value rest⟩

/-- An unchecked read takes the digits of a number off a buffer that is long enough. -/
theorem putU16_getU16 {buf : Bytes} (enough : 2 ≤ buf.length) :
    putU16 (getU16 buf).1 ++ (getU16 buf).2 = buf :=
  (tryGetU16_eq_ok_iff.mp (tryGetInt_of_le UInt16.ofNat enough)).symm

theorem putU32_getU32 {buf : Bytes} (enough : 4 ≤ buf.length) :
    putU32 (getU32 buf).1 ++ (getU32 buf).2 = buf :=
  (tryGetU32_eq_ok_iff.mp (tryGetInt_of_le UInt32.ofNat enough)).symm

@[simp]
theorem length_getU8 (buf : Bytes) : (getU8 buf).2.length = buf.length - 1 := List.length_drop

@[simp]
theorem length_getU16 (buf : Bytes) : (getU16 buf).2.length = buf.length - 2 := List.length_drop

@[simp]
theorem length_getU32 (buf : Bytes) : (getU32 buf).2.length = buf.length - 4 := List.length_drop

theorem tryGetVec_eq_ok_iff {length : Nat} {field buf rest : Bytes} :
    tryGetVec length buf = .ok (field, rest) ↔ field.length = length ∧ buf = field ++ rest := by
  constructor
  · intro read
    rw [tryGetVec] at read
    split at read
    · exact absurd read nofun
    next enough =>
      obtain ⟨rfl, rfl⟩ := Prod.mk.inj (Except.ok.inj read)
      exact ⟨List.length_take_of_le (Nat.le_of_not_lt enough), (List.take_append_drop _ _).symm⟩
  · rintro ⟨rfl, rfl⟩
    exact tryGetVec_append field rest

theorem trySkip_append (front rest : Bytes) : trySkip front.length (front ++ rest) = .ok rest := by
  have enough : ¬ (front ++ rest).length < front.length := by
    rw [List.length_append]
    omega
  rw [trySkip, if_neg enough, List.drop_left]

/-! ### Addresses -/

/-- An IPv4 address, as its four octets read big-endian. -/
structure Ipv4Addr where
  bits : UInt32
  deriving DecidableEq, Repr

structure SocketAddrV4 where
  ip : Ipv4Addr
  port : UInt16
  deriving DecidableEq, Repr

end EipScanner
