/-
This file compares the two readers of path texts: the one of connection paths, which reads
hex bytes, and the one of an EDS, which also reads references to parameters. Both read a
text word by word.

A path is read back from the text it prints as. The two readers accept the same texts
without references and read the same bytes in them. The reader of an EDS reads one text
behind another, and a reference that it resolves may be replaced by the bytes in hex.
-/

import EipScanner.ConnectionPath
import EipScanner.Eds

namespace EipScanner

open Text

/-! ### Hex bytes -/

namespace ConnectionPath

theorem digitValue_upperHexDigit {value : Nat} (small : value < 16) :
    digitValue 16 (upperHexDigit value) = some value := by
  revert value
  decide

/-- A byte is read back from its digits. -/
theorem fromStrRadix_hexByte (byte : UInt8) :
    fromStrRadix 16 (2 ^ 8) (hexByte byte) = some byte.toNat := by
  have small := byte.toNat_lt
  have high : byte.toNat / 16 < 16 := by omega
  have low : byte.toNat % 16 < 16 := by omega
  have noSign : dropSign (hexByte byte) = hexByte byte := by
    refine if_neg fun sign => ?_
    have digit := digitValue_upperHexDigit high
    rw [show upperHexDigit (byte.toNat / 16) = '+' from Option.some.inj sign] at digit
    cases digit
  rw [fromStrRadix, noSign, if_neg (by simp [hexByte])]
  simp only [hexByte, readDigits, digitValue_upperHexDigit high, digitValue_upperHexDigit low]
  rw [show 16 * (16 * 0 + byte.toNat / 16) + byte.toNat % 16 = byte.toNat by omega]
  exact Option.filter_eq_some_iff.mpr ⟨rfl, decide_eq_true small⟩

theorem hexByte_visible (byte : UInt8) : ∀ c ∈ hexByte byte, isWhitespace c = false := by
  have visible : ∀ value < 16, isWhitespace (upperHexDigit value) = false := by decide
  have small := byte.toNat_lt
  refine List.forall_mem_cons.mpr ⟨visible _ (by omega), List.forall_mem_singleton.mpr ?_⟩
  exact visible _ (by omega)

/-- The words of a path that is printed are its bytes. -/
theorem words_displayBytes (bytes : Bytes) : words (displayBytes bytes) = bytes.map hexByte := by
  have word : ∀ byte, words (hexByte byte) = [hexByte byte] := fun byte =>
    words_of_visible (List.cons_ne_nil _ _) (hexByte_visible byte)
  induction bytes with
  | nil => exact words_nil
  | cons byte rest inductionHypothesis =>
    cases rest with
    | nil => exact word byte
    | cons next more =>
      rw [displayBytes, words_append_cons (by decide), word, inductionHypothesis]
      · rfl
      · simp

/-- A number that is parsed as a byte is the one of the byte. -/
theorem ofNat_eq_iff_of_parsed {token : List Char} {value : Nat}
    (parsed : fromStrRadix 16 (2 ^ 8) token = some value) (byte : UInt8) :
    UInt8.ofNat value = byte ↔ value = byte.toNat := by
  have small := of_decide_eq_true (Option.filter_eq_some_iff.mp
    ((fromStrRadix_eq_filter 16 (2 ^ 8) token).symm.trans parsed)).2
  constructor
  · rintro rfl
    exact (UInt8.toNat_ofNat_of_lt' small).symm
  · rintro rfl
    exact UInt8.ofNat_toNat

theorem parseHexByte_eq_ok_iff {text token : List Char} {byte : UInt8} :
    parseHexByte text token = .ok byte ↔ fromStrRadix 16 (2 ^ 8) token = some byte.toNat := by
  unfold parseHexByte
  cases parsed : fromStrRadix 16 (2 ^ 8) token with
  | none => simp
  | some value => simp [ofNat_eq_iff_of_parsed parsed]

/-- Every word of a text that is read is a hex byte. -/
theorem fromStr_eq_ok_iff {text : List Char} {path : ConnectionPath} :
    fromStr text = .ok path ↔ List.Forall₂ (fun token byte =>
      fromStrRadix 16 (2 ^ 8) token = some byte.toNat) (words text) path.bytes := by
  have asBytes : fromStr text = .ok path ↔
      (words text).mapM (parseHexByte text) = .ok path.bytes := by
    unfold fromStr
    obtain ⟨bytes⟩ := path
    cases (words text).mapM (parseHexByte text) with
    | error refused => simp [Except.map]
    | ok read => simp [Except.map]
  rw [asBytes, mapM_eq_ok_iff]
  simp only [parseHexByte_eq_ok_iff]

/-- A path is read back from the text it prints as. -/
theorem fromStr_display (path : ConnectionPath) : fromStr path.display = .ok path := by
  rw [fromStr_eq_ok_iff, display, words_displayBytes, List.forall₂_map_left_iff,
    List.forall₂_same]
  exact fun byte _ => fromStrRadix_hexByte byte

end ConnectionPath

/-! ### References -/

namespace Eds

variable {eds : Eds} {text other : List Char} {path : ConnectionPath}

/-- The token is a reference to a parameter, with or without brackets. -/
def IsReference (token : List Char) : Prop :=
  (numbered ((token.dropWhile (· == '[')).rdropWhile (· == ']')) "Param".toList).isSome = true

/-- A token that is no reference is resolved as a hex byte. -/
theorem resolveToken_of_not_reference {token : List Char} (plain : ¬ IsReference token)
    {bytes : Bytes} :
    eds.resolveToken token = .ok bytes ↔
      ∃ byte : UInt8, fromStrRadix 16 (2 ^ 8) token = some byte.toNat ∧ bytes = [byte] := by
  have notNumbered : numbered ((token.dropWhile (· == '[')).rdropWhile (· == ']'))
      "Param".toList = none := Option.not_isSome_iff_eq_none.mp plain
  unfold resolveToken
  dsimp only
  rw [notNumbered]
  cases parsed : fromStrRadix 16 (2 ^ 8) token with
  | none => simp
  | some value =>
    simp only [Except.ok.injEq, Option.some.injEq,
      ← ConnectionPath.ofNat_eq_iff_of_parsed parsed, exists_eq_left']
    exact eq_comm

/-- Tokens are resolved one after the other. -/
theorem resolveTokens_append (first second : List (List Char)) :
    eds.resolveTokens (first ++ second) = do
      let bytes ← eds.resolveTokens first
      let more ← eds.resolveTokens second
      return bytes ++ more := by
  induction first with
  | nil =>
    rw [List.nil_append, resolveTokens, ok_bind]
    cases eds.resolveTokens second with
    | error refused => rfl
    | ok more => rfl
  | cons token rest inductionHypothesis =>
    rw [List.cons_append, resolveTokens, resolveTokens, inductionHypothesis]
    cases eds.resolveToken token with
    | error refused => rfl
    | ok bytes =>
      cases eds.resolveTokens rest with
      | error refused => rfl
      | ok more =>
        cases eds.resolveTokens second with
        | error refused => rfl
        | ok last =>
          simp only [ok_bind, pure, Except.pure, List.append_assoc]

theorem resolveTokens_eq_ok_iff {tokens : List (List Char)} {bytes : Bytes}
    (plain : ∀ token ∈ tokens, ¬ IsReference token) :
    eds.resolveTokens tokens = .ok bytes ↔
      List.Forall₂ (fun token byte => fromStrRadix 16 (2 ^ 8) token = some byte.toNat) tokens
        bytes := by
  induction tokens generalizing bytes with
  | nil =>
    rw [resolveTokens, List.forall₂_nil_left_iff]
    exact ⟨fun same => (Except.ok.inj same).symm, congrArg Except.ok ∘ Eq.symm⟩
  | cons token rest inductionHypothesis =>
    obtain ⟨plainHere, plainRest⟩ := List.forall_mem_cons.mp plain
    rw [resolveTokens, List.forall₂_cons_left_iff]
    simp only [bind_eq_ok_iff, resolveToken_of_not_reference plainHere,
      inductionHypothesis plainRest]
    constructor
    · rintro ⟨_, ⟨byte, here, rfl⟩, others, behind, same⟩
      exact ⟨byte, others, here, behind, (Except.ok.inj same).symm⟩
    · rintro ⟨byte, others, here, behind, rfl⟩
      exact ⟨[byte], ⟨byte, here, rfl⟩, others, behind, rfl⟩

theorem resolvePath_eq_ok_iff :
    eds.resolvePath text = .ok path ↔ eds.resolveTokens (words text) = .ok path.bytes := by
  unfold resolvePath
  obtain ⟨bytes⟩ := path
  cases eds.resolveTokens (words text) with
  | error refused => simp [Except.map]
  | ok read => simp [Except.map]

/-- A text without references is resolved as it is parsed. -/
theorem resolvePath_iff_fromStr (plain : ∀ token ∈ words text, ¬ IsReference token) :
    eds.resolvePath text = .ok path ↔ ConnectionPath.fromStr text = .ok path := by
  rw [resolvePath_eq_ok_iff, resolveTokens_eq_ok_iff plain, ConnectionPath.fromStr_eq_ok_iff]

/-- Two texts with a space between them are resolved when both are, as one path and the other. -/
theorem resolvePath_append_iff :
    eds.resolvePath (text ++ ' ' :: other) = .ok path ↔
      ∃ front back, eds.resolvePath text = .ok front ∧ eds.resolvePath other = .ok back ∧
        path = front.andThen back := by
  rw [resolvePath_eq_ok_iff, words_append_cons (by decide), resolveTokens_append]
  simp only [bind_eq_ok_iff, resolvePath_eq_ok_iff]
  constructor
  · rintro ⟨bytes, first, more, second, same⟩
    exact ⟨⟨bytes⟩, ⟨more⟩, first, second, congrArg ConnectionPath.mk (Except.ok.inj same).symm⟩
  · rintro ⟨front, back, first, second, rfl⟩
    exact ⟨_, first, _, second, rfl⟩

/-- A keyword with a number is at least as long as its word. -/
theorem length_of_numbered {name word : List Char} {number : UInt32}
    (isNumbered : numbered name word = some number) : word.length ≤ name.length := by
  unfold numbered at isNumbered
  split at isNumbered
  next same =>
    have lengths := congrArg List.length (eq_of_beq same)
    rw [List.length_map, List.length_map, List.length_take] at lengths
    omega
  · cases isNumbered

/-- A hex byte is no reference. -/
theorem not_isReference_hexByte (byte : UInt8) : ¬ IsReference (ConnectionPath.hexByte byte) := by
  intro reference
  obtain ⟨number, isNumbered⟩ := Option.isSome_iff_exists.mp reference
  have long := length_of_numbered isNumbered
  have front := (List.dropWhile_sublist (l := ConnectionPath.hexByte byte) (· == '[')).length_le
  have back := (List.rdropWhile_prefix (· == ']')
    ((ConnectionPath.hexByte byte).dropWhile (· == '['))).length_le
  have two : (ConnectionPath.hexByte byte).length = 2 := rfl
  have five : "Param".toList.length = 5 := rfl
  omega

/-- The bytes of a path that is printed are resolved as they are. -/
theorem resolveTokens_hexBytes (bytes : Bytes) :
    eds.resolveTokens (bytes.map ConnectionPath.hexByte) = .ok bytes := by
  have plain : ∀ token ∈ bytes.map ConnectionPath.hexByte, ¬ IsReference token :=
    List.forall_mem_map.mpr fun byte _ => not_isReference_hexByte byte
  rw [resolveTokens_eq_ok_iff plain, List.forall₂_map_left_iff, List.forall₂_same]
  exact fun byte _ => ConnectionPath.fromStrRadix_hexByte byte

/-- One reference of the text is replaced in its place by the hex bytes that it resolves to. -/
def Replaces (eds : Eds) (text other : List Char) : Prop :=
  ∃ before token after bytes, text = before ++ (token ++ after) ∧
    other = before ++ (ConnectionPath.display ⟨bytes⟩ ++ after) ∧
    (∀ c ∈ before.getLast?, isWhitespace c = true) ∧
    (∀ c ∈ after.head?, isWhitespace c = true) ∧
    token ≠ [] ∧ (∀ c ∈ token, isWhitespace c = false) ∧
    IsReference token ∧ eds.resolveToken token = .ok bytes

/-- Replacing a reference changes nothing. -/
theorem resolvePath_of_replaces (replaces : Replaces eds text other) :
    eds.resolvePath other = eds.resolvePath text := by
  obtain ⟨before, token, after, bytes, rfl, rfl, ends, begins, some, visible, -, resolved⟩ :=
    replaces
  have alone : eds.resolveTokens [token] = .ok bytes := by
    rw [resolveTokens, resolved, resolveTokens, ok_bind, ok_bind, List.append_nil]
    rfl
  have printed := @resolveTokens_hexBytes eds bytes
  rw [← ConnectionPath.words_displayBytes] at printed
  rw [resolvePath, resolvePath, words_append_of_break _ ends, words_append_of_break _ ends,
    words_append_break _ begins, words_append_break _ begins, words_of_visible some visible,
    resolveTokens_append, resolveTokens_append, resolveTokens_append, resolveTokens_append, alone,
    ConnectionPath.display, printed]

/-- Replacing any number of references changes nothing. -/
theorem resolvePath_of_replaced (replaced : Relation.ReflTransGen (Replaces eds) text other) :
    eds.resolvePath other = eds.resolvePath text := by
  induction replaced with
  | refl => rfl
  | tail _ replaces inductionHypothesis =>
    rw [resolvePath_of_replaces replaces, inductionHypothesis]

/-- The two readers of path texts. A path is read back from its text. For every EDS, a text without
references is resolved exactly as it is parsed, two texts with a space between them are resolved
when both are and as one behind the other, and with references replaced by the hex bytes that they
resolve to a text is resolved as before. -/
theorem path_texts_agree (eds : Eds) :
    (∀ path : ConnectionPath, ConnectionPath.fromStr path.display = .ok path) ∧
    (∀ text, (∀ token ∈ words text, ¬ IsReference token) →
      ∀ path, eds.resolvePath text = .ok path ↔ ConnectionPath.fromStr text = .ok path) ∧
    (∀ first second path, eds.resolvePath (first ++ ' ' :: second) = .ok path ↔
      ∃ front back, eds.resolvePath first = .ok front ∧ eds.resolvePath second = .ok back ∧
        path = front.andThen back) ∧
    ∀ text other, Relation.ReflTransGen (Replaces eds) text other →
      eds.resolvePath other = eds.resolvePath text :=
  ⟨ConnectionPath.fromStr_display, fun _ plain _ => resolvePath_iff_fromStr plain,
    fun _ _ _ => resolvePath_append_iff, fun _ _ => resolvePath_of_replaced⟩

end Eds

end EipScanner
