/-
This file models the responses of a device's message router: the service, the general
status, additional status words, and the data.

After a check of the length the decoder takes the first four bytes and the words with
reads that panic on a short buffer. Its body is written once over such reads. With reads
that panic it is the code; with reads that return something in any case it is a plain
function. The two agree on every buffer, so no read of the decoder ever panics.
-/

import EipScanner.CommonPacketItems

namespace EipScanner

/-! ### Reads without a check -/

/-- The integer reads that are made without a check. -/
structure UncheckedReads (Outcome : Type → Type) where
  getU8 : Bytes → Outcome (UInt8 × Bytes)
  getU16 : Bytes → Outcome (UInt16 × Bytes)

/-- Reads that panic when too few bytes remain. A panic has no result. -/
def UncheckedReads.panicking : UncheckedReads Option where
  getU8 buf := if buf.length < 1 then none else some (EipScanner.getU8 buf)
  getU16 buf := if buf.length < 2 then none else some (EipScanner.getU16 buf)

/-- Reads that return something whatever remains. -/
def UncheckedReads.total : UncheckedReads Id where
  getU8 := EipScanner.getU8
  getU16 := EipScanner.getU16

/-- Read a number of words. -/
def getWords {Outcome : Type → Type} [Monad Outcome] (reads : UncheckedReads Outcome) :
    Nat → Bytes → Outcome (List UInt16 × Bytes)
  | 0, buf => pure ([], buf)
  | count + 1, buf => do
    let (word, buf) ← reads.getU16 buf
    let (words, buf) ← getWords reads count buf
    return (word :: words, buf)

/-- A computation over reads that panic comes to an end, and to the same one as over total
reads. -/
def Agrees {Value : Type} (panicking : Option Value) (total : Id Value) : Prop :=
  panicking = some total.run

theorem Agrees.bind {First Second : Type} {panicking : Option First} {total : Id First}
    (first : Agrees panicking total) {next : First → Option Second} {totalNext : First → Id Second}
    (second : Agrees (next total.run) (totalNext total.run)) :
    Agrees (panicking >>= next) (total >>= totalNext) := by
  rw [Agrees, first, Option.bind_eq_bind, Option.bind_some, second]
  rfl

theorem agrees_getU8 {buf : Bytes} (enough : 1 ≤ buf.length) :
    Agrees (UncheckedReads.panicking.getU8 buf) (UncheckedReads.total.getU8 buf) :=
  if_neg (Nat.not_lt.mpr enough)

theorem agrees_getU16 {buf : Bytes} (enough : 2 ≤ buf.length) :
    Agrees (UncheckedReads.panicking.getU16 buf) (UncheckedReads.total.getU16 buf) :=
  if_neg (Nat.not_lt.mpr enough)

/-- Words that are there are read without a panic. -/
theorem agrees_getWords {count : Nat} {buf : Bytes} (enough : count * 2 ≤ buf.length) :
    Agrees (getWords UncheckedReads.panicking count buf)
      (getWords UncheckedReads.total count buf) := by
  induction count generalizing buf with
  | zero => rfl
  | succ count inductionHypothesis =>
    have rest : count * 2 ≤ (getU16 buf).2.length := by
      rw [length_getU16]
      omega
    rw [getWords, getWords]
    refine (agrees_getU16 (by omega)).bind ?_
    refine (inductionHypothesis rest).bind ?_
    exact rfl

/-! ### Responses -/

structure MessageRouterResponse where
  service : ServiceCode
  generalStatus : GeneralStatusCode
  additionalStatus : List UInt16
  data : Bytes
  additionalPacketItems : List CommonPacketItem
  deriving DecidableEq, Repr

namespace MessageRouterResponse

/-- The response itself on success, or an error that carries the status codes. -/
def check (response : MessageRouterResponse) (context : String) :
    Except Error MessageRouterResponse :=
  if response.generalStatus = GeneralStatusCode.success then .ok response
  else .error (.cip context response.generalStatus response.additionalStatus)

def decodeWith {Outcome : Type → Type} [Monad Outcome] (reads : UncheckedReads Outcome)
    (data : Bytes) : Outcome (Except Error MessageRouterResponse) := do
  if data.length < 4 then
    return .error (.invalidPacket "message router response must have at least 4 bytes")
  else
    let (service, buf) ← reads.getU8 data
    let (_, buf) ← reads.getU8 buf
    let (generalStatus, buf) ← reads.getU8 buf
    let (additionalSize, buf) ← reads.getU8 buf
    if additionalSize.toNat * 2 > buf.length then
      return .error (.invalidPacket "additional status has wrong size")
    else
      let (additionalStatus, buf) ← getWords reads additionalSize.toNat buf
      return (tryGetVec buf.length buf).map fun (data, _) =>
        ⟨⟨service⟩, ⟨generalStatus⟩, additionalStatus, data, []⟩

def decode (data : Bytes) : Except Error MessageRouterResponse :=
  (decodeWith UncheckedReads.total data).run

/-- No read of the decoder panics. -/
theorem agrees_decodeWith (data : Bytes) :
    Agrees (decodeWith UncheckedReads.panicking data) (decodeWith UncheckedReads.total data) := by
  unfold decodeWith
  split
  · rfl
  next long =>
    have enough : 4 ≤ data.length := Nat.le_of_not_lt long
    have first := length_getU8 data
    have second := length_getU8 (getU8 data).2
    have third := length_getU8 (getU8 (getU8 data).2).2
    refine (agrees_getU8 (by omega)).bind ?_
    refine (@agrees_getU8 (getU8 data).2 (by omega)).bind ?_
    refine (@agrees_getU8 (getU8 (getU8 data).2).2 (by omega)).bind ?_
    refine (@agrees_getU8 (getU8 (getU8 (getU8 data).2).2).2 (by omega)).bind ?_
    show Agrees (if _ then _ else _) (if _ then _ else _)
    split
    · rfl
    next fits =>
      refine (agrees_getWords (Nat.le_of_not_lt fits)).bind ?_
      exact rfl

/-! ### Reading a response back -/

/-- The bytes of a response: service, a reserved byte, status, the number of words, the words, and
the data. -/
def encode (response : MessageRouterResponse) : Bytes :=
  putU8 response.service.code ++ (putU8 0 ++ (putU8 response.generalStatus.code ++
    (putU8 (UInt8.ofNat response.additionalStatus.length) ++
      (response.additionalStatus.flatMap putU16 ++ response.data))))

theorem length_flatMap_putU16 (words : List UInt16) :
    (words.flatMap putU16).length = words.length * 2 := by
  induction words with
  | nil => rfl
  | cons word words inductionHypothesis =>
    rw [List.flatMap_cons, List.length_append, length_putU16, inductionHypothesis,
      List.length_cons]
    omega

theorem getWords_flatMap (words : List UInt16) (rest : Bytes) :
    getWords UncheckedReads.total words.length (words.flatMap putU16 ++ rest) =
      (words, rest) := by
  induction words with
  | nil => rfl
  | cons word words inductionHypothesis =>
    rw [List.length_cons, List.flatMap_cons, List.append_assoc, getWords]
    show (let (word, buf) := getU16 (putU16 word ++ (words.flatMap putU16 ++ rest))
      let (words, buf) := getWords UncheckedReads.total words.length buf
      (word :: words, buf)) = _
    rw [getU16_putU16]
    dsimp only
    rw [inductionHypothesis]

/-- A response with at most 255 status words is decoded as it was encoded, without the items that
are not part of it. -/
theorem decode_encode (response : MessageRouterResponse)
    (few : response.additionalStatus.length ≤ 255) :
    decode response.encode = .ok { response with additionalPacketItems := [] } := by
  have count : (UInt8.ofNat response.additionalStatus.length).toNat =
      response.additionalStatus.length :=
    UInt8.toNat_ofNat_of_lt' (Nat.lt_succ_of_le few)
  have long : ¬ response.encode.length < 4 := by
    simp only [encode, List.length_append, length_putU8]
    omega
  have fits : ¬ (UInt8.ofNat response.additionalStatus.length).toNat * 2 >
      (response.additionalStatus.flatMap putU16 ++ response.data).length := by
    rw [count, List.length_append, length_flatMap_putU16]
    omega
  rw [decode, decodeWith, if_neg long]
  show (let (service, buf) := getU8 response.encode
    let (_, buf) := getU8 buf
    let (generalStatus, buf) := getU8 buf
    let (additionalSize, buf) := getU8 buf
    if additionalSize.toNat * 2 > buf.length then _
    else
      let (additionalStatus, buf) := getWords UncheckedReads.total additionalSize.toNat buf
      Except.map (fun (data, (_ : Bytes)) => MessageRouterResponse.mk ⟨service⟩ ⟨generalStatus⟩
        additionalStatus data []) (tryGetVec buf.length buf)) = _
  rw [encode]
  simp only [getU8_putU8]
  rw [if_neg fits, count, getWords_flatMap]
  have whole := tryGetVec_append response.data []
  rw [List.append_nil] at whole
  dsimp only
  rw [whole]
  rfl

end MessageRouterResponse

end EipScanner
