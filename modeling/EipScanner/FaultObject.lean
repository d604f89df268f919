/-
This file models the fault object of a PowerFlex 525 drive, which describes one fault in full: its
code, where it came from, its text in sixteen bytes, and when it occurred.

The text of a fault is padded with zero bytes, which are taken off again. A record that is served
is read exactly, and one that is cut is refused.
-/

import EipScanner.Exchange
import EipScanner.Discovery

namespace EipScanner

open SelfDelimiting Text

def putU64 (value : UInt64) : Bytes := LittleEndian.digits 8 value.toNat

def tryGetU64 : Bytes → Except Error (UInt64 × Bytes) := tryGetInt 8 UInt64.ofNat

theorem tryGetU64_putU64 (value : UInt64) (rest : Bytes) :
    tryGetU64 (putU64 value ++ rest) = .ok (value, rest) := by
  have enough : 8 ≤ (putU64 value ++ rest).length := by
    rw [List.length_append, putU64, LittleEndian.length_digits]
    omega
  have read := getInt_digits UInt64.ofNat 8 (UInt64.toNat_lt value) rest
  rw [UInt64.ofNat_toNat] at read
  exact (tryGetInt_of_le UInt64.ofNat enough).trans (congrArg Except.ok read)

structure FullInformation where
  faultCode : UInt16
  dsiPort : UInt8
  dsiDeviceObject : UInt8
  faultText : List Char
  timerValue : UInt64
  isValidData : Bool
  isRealTime : Bool
  deriving DecidableEq, Repr

/-- DPI fault object. -/
structure DpiFaultObject where
  instanceId : UInt16
  fullInformation : FullInformation
  deriving DecidableEq, Repr

/-- A text without the zero characters at its end. -/
def trimEndNul (text : List Char) : List Char := text.rdropWhile (· == '\x00')

namespace DpiFaultObject

def fullInformationAttribute : UInt16 := 0
def validData : UInt16 := 1
def realTime : UInt16 := (1 : UInt16) <<< 1

def take (buf : Bytes) : Except Error (FullInformation × Bytes) := do
  let (faultCode, buf) ← tryGetU16 buf
  let (dsiPort, buf) ← tryGetU8 buf
  let (dsiDeviceObject, buf) ← tryGetU8 buf
  let (text, buf) ← tryGetVec 16 buf
  let (timerValue, buf) ← tryGetU64 buf
  let (flags, buf) ← tryGetU16 buf
  return ({
    faultCode, dsiPort, dsiDeviceObject
    faultText := trimEndNul (fromUtf8Lossy text)
    timerValue
    isValidData := flags &&& validData != 0
    isRealTime := flags &&& realTime != 0 }, buf)

def read {Device : Type} (session : Session Device) (router : MessageRouter)
    (instanceId : UInt16) : Dialogue Device Error DpiFaultObject := do
  let data ← router.ask session .getAttributeSingle
    (EPath.ofAttribute dpiFaultClassId instanceId fullInformationAttribute) []
    "read DPI fault full information"
  let (fullInformation, _) ← take data
  return { instanceId, fullInformation }

end DpiFaultObject

/-! ### A record that is served -/

/-- A fault in the record of a drive. -/
structure FaultRecord where
  faultCode : UInt16
  dsiPort : UInt8
  dsiDeviceObject : UInt8
  text : List Char
  timerValue : UInt64
  flags : UInt16
  short : (utf8 text).length ≤ 16
  trimmed : trimEndNul text = text

namespace FaultRecord

/-- The text with its padding. -/
def paddedText (record : FaultRecord) : Bytes :=
  utf8 record.text ++ List.replicate (16 - (utf8 record.text).length) 0

def encode (record : FaultRecord) : Bytes :=
  putU16 record.faultCode ++ (putU8 record.dsiPort ++ (putU8 record.dsiDeviceObject ++
    (record.paddedText ++ (putU64 record.timerValue ++ putU16 record.flags))))

def information (record : FaultRecord) : FullInformation where
  faultCode := record.faultCode
  dsiPort := record.dsiPort
  dsiDeviceObject := record.dsiDeviceObject
  faultText := record.text
  timerValue := record.timerValue
  isValidData := record.flags &&& DpiFaultObject.validData != 0
  isRealTime := record.flags &&& DpiFaultObject.realTime != 0

/-! ### Reading it -/

theorem length_paddedText (record : FaultRecord) : record.paddedText.length = 16 := by
  have short := record.short
  rw [paddedText, List.length_append, List.length_replicate]
  omega

/-- The padding is text too: as many zero characters as there are bytes. -/
theorem paddedText_eq (record : FaultRecord) :
    record.paddedText =
      utf8 (record.text ++ List.replicate (16 - (utf8 record.text).length) '\x00') := by
  have zeros (count : Nat) : utf8 (List.replicate count '\x00') = List.replicate count 0 := by
    induction count with
    | zero => rfl
    | succ count inductionHypothesis =>
      rw [List.replicate_succ, utf8, List.flatMap_cons, ← utf8, inductionHypothesis]
      rfl
  rw [paddedText, ← zeros, utf8, utf8, utf8, List.flatMap_append]

theorem trimEndNul_append (text : List Char) (count : Nat) :
    trimEndNul (text ++ List.replicate count '\x00') = trimEndNul text := by
  induction count with
  | zero => rw [List.replicate_zero, List.append_nil]
  | succ count inductionHypothesis =>
    rw [List.replicate_succ', ← List.append_assoc, trimEndNul,
      List.rdropWhile_concat_pos _ _ _ rfl]
    exact inductionHypothesis

/-- The padding is taken off again. -/
theorem trimEndNul_paddedText (record : FaultRecord) :
    trimEndNul (fromUtf8Lossy record.paddedText) = record.text := by
  rw [paddedText_eq, fromUtf8Lossy_utf8, trimEndNul_append, record.trimmed]

theorem take_encode (record : FaultRecord) (trailing : Bytes) :
    DpiFaultObject.take (record.encode ++ trailing) = .ok (record.information, trailing) := by
  have text (rest : Bytes) : tryGetVec 16 (record.paddedText ++ rest) =
      .ok (record.paddedText, rest) := by
    have taken := tryGetVec_append record.paddedText rest
    rwa [length_paddedText] at taken
  simp only [encode, List.append_assoc, DpiFaultObject.take, tryGetU16_putU16, ok_bind,
    tryGetU8_putU8, text, tryGetU64_putU64, trimEndNul_paddedText]
  rfl

end FaultRecord

namespace DpiFaultObject

theorem local_take : Local take :=
  (local_tryGetInt 2 UInt16.ofNat).andThen fun _ =>
    (local_tryGetInt 1 UInt8.ofNat).andThen fun _ =>
      (local_tryGetInt 1 UInt8.ofNat).andThen fun _ =>
        (local_tryGetVec 16).andThen fun _ =>
          (local_tryGetInt 8 UInt64.ofNat).andThen fun _ =>
            (local_tryGetInt 2 UInt16.ofNat).andThen fun _ => Local.done _

/-- A fault is read exactly, with its text without the padding, whatever follows its record; and
a record that is cut anywhere is refused. -/
theorem read_record {Device : Type} {session : Session Device} {router : MessageRouter}
    (record : FaultRecord) (instanceId : UInt16) {data : Bytes} {device next : Device}
    (answers : MessageRouter.Answers session router ⟨.getAttributeSingle,
      EPath.ofAttribute dpiFaultClassId instanceId fullInformationAttribute, [], data⟩
      device next) :
    (∀ trailing, data = record.encode ++ trailing →
      read session router instanceId device = (.ok ⟨instanceId, record.information⟩, next)) ∧
      (data <+: record.encode → data ≠ record.encode →
        ∃ refused, read session router instanceId device = (.error refused, next)) := by
  refine ⟨?_, fun within cut => ?_⟩
  · rintro trailing rfl
    rw [read, Dialogue.bind_of_ok (answers.ask _),
      Dialogue.bind_settled_ok (record.take_encode trailing)]
    rfl
  · obtain ⟨back, whole⟩ := within
    have all := record.take_encode []
    rw [List.append_nil, ← whole] at all
    obtain ⟨refused, failed⟩ := local_take.refused_of_front all fun none =>
      cut (by rw [← whole, none, List.append_nil])
    refine ⟨refused, ?_⟩
    rw [read, Dialogue.bind_of_ok (answers.ask _), Dialogue.bind_settled_error failed]

def groundFault : FaultRecord where
  faultCode := 13
  dsiPort := 1
  dsiDeviceObject := 2
  text := ['G', 'r', 'o', 'u', 'n', 'd']
  timerValue := 0x0102030405060708
  flags := 3
  short := by decide
  trimmed := by decide

theorem read_record_groundFault :
    read MessageRouter.mockSession MessageRouter.new 1 [groundFault.encode ++ [0]] =
      (.ok ⟨1, groundFault.information⟩, []) :=
  (read_record groundFault 1 (MessageRouter.answers_mockSession MessageRouter.new
    (Nat.zero_le _) (by decide) [])).1 [0] rfl

end DpiFaultObject

end EipScanner
