/-
This file is about texts as lists of characters: white space, trimming, and numerals in
a radix as they are parsed into an unsigned integer of a bounded width. A numeral may
begin with a plus sign, has at least one digit, and is refused if its value does not fit.

White space is the Unicode property of that name. Nothing here names a format or a field.
-/

import Mathlib.Data.List.DropRight
import Mathlib.Tactic

namespace Text

/-! ### White space -/

/-- The characters with the Unicode property White_Space. -/
def isWhitespace (c : Char) : Bool :=
  let code := c.toNat
  decide (9 ≤ code ∧ code ≤ 13) || code == 0x20 || code == 0x85 || code == 0xA0 ||
    code == 0x1680 || decide (0x2000 ≤ code ∧ code ≤ 0x200A) || code == 0x2028 ||
    code == 0x2029 || code == 0x202F || code == 0x205F || code == 0x3000

/-- A text without the white space at its two ends. -/
def trim (text : List Char) : List Char := (text.dropWhile isWhitespace).rdropWhile isWhitespace

theorem trim_mem {text : List Char} {c : Char} (member : c ∈ trim text) : c ∈ text :=
  (List.dropWhile_sublist _).mem ((List.rdropWhile_prefix _ _).sublist.mem member)

theorem mem_dropWhile_of_not {p : Char → Bool} {text : List Char} {c : Char} (member : c ∈ text)
    (kept : ¬ p c = true) : c ∈ text.dropWhile p := by
  rw [← List.takeWhile_append_dropWhile (p := p) (l := text), List.mem_append] at member
  exact member.resolve_left fun dropped => kept (List.mem_takeWhile_imp dropped)

/-- Trimming drops white space only. -/
theorem mem_trim_of_not_whitespace {text : List Char} {c : Char} (member : c ∈ text)
    (visible : ¬ isWhitespace c = true) : c ∈ trim text := by
  rw [trim, List.rdropWhile, List.mem_reverse]
  exact mem_dropWhile_of_not (List.mem_reverse.mpr (mem_dropWhile_of_not member visible)) visible

/-- A text that is trimmed begins with no white space. -/
theorem head_visible {text : List Char} (trimmed : trim text = text) :
    ∀ c ∈ text.head?, isWhitespace c = false := by
  intro c isFirst
  by_contra blank
  cases text with
  | nil => exact absurd isFirst nofun
  | cons first rest =>
    obtain rfl : first = c := Option.some.inj isFirst
    have shorter : (trim (first :: rest)).length ≤ rest.length := by
      rw [trim, List.dropWhile_cons_of_pos (Bool.not_eq_false _ ▸ blank)]
      exact ((List.rdropWhile_prefix _ _).length_le).trans (List.dropWhile_sublist _).length_le
    rw [trimmed] at shorter
    exact absurd shorter (Nat.not_succ_le_self _)

/-- White space behind a trimmed text is trimmed off. -/
theorem trim_append_blanks {text blanks : List Char} (trimmed : trim text = text)
    (isSome : text ≠ []) (blank : ∀ c ∈ blanks, isWhitespace c = true) :
    trim (text ++ blanks) = text := by
  have front : ∀ more, (text ++ more).dropWhile isWhitespace = text ++ more := by
    intro more
    cases text with
    | nil => exact absurd rfl isSome
    | cons first rest =>
      have visible := head_visible trimmed first rfl
      rw [List.cons_append, List.dropWhile_cons_of_neg (by rw [visible]; exact nofun)]
  have back : text.rdropWhile isWhitespace = text := by
    have none := front []
    rw [List.append_nil] at none
    rwa [trim, none] at trimmed
  rw [trim, front]
  induction blanks using List.reverseRecOn with
  | nil => rw [List.append_nil, back]
  | append_singleton earlier last inductionHypothesis =>
    rw [← List.append_assoc, List.rdropWhile_concat_pos _ _ _
      (blank last (List.mem_append_right _ (List.mem_singleton_self _)))]
    exact inductionHypothesis fun c member => blank c (List.mem_append_left _ member)

/-! ### Words -/

/-- The words of a text: what stands between its white space. -/
def words (text : List Char) : List (List Char) :=
  (text.splitOnP isWhitespace).filter fun word => !word.isEmpty

theorem words_nil : words [] = [] := by simp [words, List.splitOnP_nil]

/-- A text is split at each of its white space. -/
theorem words_append_cons {c : Char} (blank : isWhitespace c = true) (before after : List Char) :
    words (before ++ c :: after) = words before ++ words after := by
  rw [words, List.splitOnP_append_cons before after blank, List.filter_append, words, words]

/-- A text without white space is one word, if it is not empty. -/
theorem words_of_visible {word : List Char} (some : word ≠ [])
    (visible : ∀ c ∈ word, isWhitespace c = false) : words word = [word] := by
  rw [words, List.splitOnP_eq_singleton visible]
  simp [some]

theorem words_append_blanks {blanks : List Char} (text : List Char)
    (blank : ∀ c ∈ blanks, isWhitespace c = true) : words (text ++ blanks) = words text := by
  induction blanks using List.reverseRecOn with
  | nil => rw [List.append_nil]
  | append_singleton earlier last inductionHypothesis =>
    have isBlank := blank last (List.mem_append_right _ (List.mem_singleton_self _))
    rw [← List.append_assoc, words_append_cons isBlank, words_nil, List.append_nil]
    exact inductionHypothesis fun c member => blank c (List.mem_append_left _ member)

theorem words_blanks_append {blanks : List Char} (text : List Char)
    (blank : ∀ c ∈ blanks, isWhitespace c = true) : words (blanks ++ text) = words text := by
  induction blanks with
  | nil => rfl
  | cons c rest inductionHypothesis =>
    have isBlank := blank c List.mem_cons_self
    have split := words_append_cons isBlank [] (rest ++ text)
    rw [words_nil, List.nil_append, List.nil_append] at split
    rw [List.cons_append, split]
    exact inductionHypothesis (List.forall_mem_cons.mp blank).2

/-- A break at the end of a text separates its words from those behind it. -/
theorem words_append_of_break {before : List Char} (rest : List Char)
    (ends : ∀ c ∈ before.getLast?, isWhitespace c = true) :
    words (before ++ rest) = words before ++ words rest := by
  induction before using List.reverseRecOn with
  | nil => rw [words_nil, List.nil_append, List.nil_append]
  | append_singleton earlier last _ =>
    have isBlank := ends last List.getLast?_concat
    rw [List.append_assoc, List.singleton_append, words_append_cons isBlank,
      words_append_cons isBlank, words_nil, List.append_nil]

/-- A break at the beginning of a text separates its words from those in front of it. -/
theorem words_append_break {after : List Char} (text : List Char)
    (begins : ∀ c ∈ after.head?, isWhitespace c = true) :
    words (text ++ after) = words text ++ words after := by
  cases after with
  | nil => rw [words_nil, List.append_nil, List.append_nil]
  | cons first rest =>
    have isBlank := begins first rfl
    have split := words_append_cons isBlank [] rest
    rw [words_nil, List.nil_append, List.nil_append] at split
    rw [words_append_cons isBlank, split]

/-- Trimming a text leaves its words. -/
theorem words_trim (text : List Char) : words (trim text) = words text := by
  have front : words (text.dropWhile isWhitespace) = words text := by
    conv_rhs => rw [← List.takeWhile_append_dropWhile (p := isWhitespace) (l := text)]
    exact (words_blanks_append _ fun c member => List.mem_takeWhile_imp member).symm
  rw [← front, trim]
  generalize text.dropWhile isWhitespace = rest
  conv_rhs => rw [← @List.rdropWhile_append_rtakeWhile _ isWhitespace rest]
  exact (words_append_blanks _ fun c member => List.mem_rtakeWhile_imp member).symm

/-- A text has a word unless it is white space. -/
theorem words_ne_nil {text : List Char} {c : Char} (member : c ∈ text)
    (visible : isWhitespace c = false) : words text ≠ [] := by
  induction text with
  | nil => exact absurd member List.not_mem_nil
  | cons first rest inductionHypothesis =>
    cases blank : isWhitespace first with
    | true =>
      have split := words_append_cons blank [] rest
      rw [words_nil, List.nil_append, List.nil_append] at split
      rw [split]
      refine inductionHypothesis ((List.mem_cons.mp member).resolve_left ?_)
      rintro rfl
      exact Bool.false_ne_true (visible.symm.trans blank)
    | false =>
      have run : ∀ other ∈ first :: rest.takeWhile fun other => !isWhitespace other,
          isWhitespace other = false := by
        intro other inRun
        rcases List.mem_cons.mp inRun with rfl | inRest
        · exact blank
        · simpa using List.mem_takeWhile_imp inRest
      have word := words_of_visible (List.cons_ne_nil first _) run
      rw [← List.takeWhile_append_dropWhile (p := fun other => !isWhitespace other) (l := rest)]
      cases behind : rest.dropWhile fun other => !isWhitespace other with
      | nil =>
        rw [List.append_nil, word]
        exact List.cons_ne_nil _ _
      | cons next more =>
        have isBlank : isWhitespace next = true := by
          have head := List.head?_dropWhile_not (fun other => !isWhitespace other) rest
          rw [behind] at head
          simpa using head
        rw [← List.cons_append, words_append_cons isBlank, word]
        exact List.cons_ne_nil _ _

/-- A text without words is trimmed to nothing. -/
theorem trim_eq_nil {text : List Char} (none : words text = []) : trim text = [] := by
  have blanks : ∀ c ∈ text, isWhitespace c = true := by
    intro c member
    by_contra visible
    exact words_ne_nil member (Bool.eq_false_iff.mpr visible) none
  rw [trim, List.dropWhile_eq_nil_iff.mpr blanks]
  rfl

/-! ### Case -/

/-- A letter of the ASCII alphabet in lower case; any other character as it is. -/
def toAsciiLowercase (c : Char) : Char :=
  if 'A' ≤ c ∧ c ≤ 'Z' then Char.ofNat (c.toNat + 32) else c

/-- Two texts are the same up to the case of ASCII letters. -/
def eqIgnoreAsciiCase (first second : List Char) : Bool :=
  first.map toAsciiLowercase == second.map toAsciiLowercase

/-! ### Numerals -/

/-- The value of a digit in a radix up to 36, where letters of either case continue the digits. -/
def digitValue (radix : Nat) (c : Char) : Option Nat :=
  let value :=
    if '0' ≤ c ∧ c ≤ '9' then some (c.toNat - '0'.toNat)
    else if 'a' ≤ c ∧ c ≤ 'z' then some (c.toNat - 'a'.toNat + 10)
    else if 'A' ≤ c ∧ c ≤ 'Z' then some (c.toNat - 'A'.toNat + 10)
    else none
  value.filter (decide <| · < radix)

/-- The number that digits denote behind the digits of a number already read. -/
def readDigits (radix : Nat) : Nat → List Char → Option Nat
  | value, [] => some value
  | value, c :: rest =>
    match digitValue radix c with
    | none => none
    | some digit => readDigits radix (radix * value + digit) rest

/-- A numeral without the plus sign that it may begin with. -/
def dropSign (text : List Char) : List Char := if text.head? = some '+' then text.tail else text

/-- The number below a bound that a text denotes: an optional plus sign and at least one digit. -/
def fromStrRadix (radix bound : Nat) (text : List Char) : Option Nat :=
  if (dropSign text).isEmpty then none
  else (readDigits radix 0 (dropSign text)).filter (decide <| · < bound)

/-- The number of any size that a text denotes. -/
def numeral (radix : Nat) (text : List Char) : Option Nat :=
  if (dropSign text).isEmpty then none else readDigits radix 0 (dropSign text)

/-- A numeral is parsed unless its value does not fit. -/
theorem fromStrRadix_eq_filter (radix bound : Nat) (text : List Char) :
    fromStrRadix radix bound text = (numeral radix text).filter (decide <| · < bound) := by
  unfold fromStrRadix numeral
  split
  · rfl
  · rfl

theorem digitValue_of_isDigit {c : Char} (isDigit : c.isDigit = true) :
    digitValue 10 c = some (c.toNat - '0'.toNat) := by
  obtain ⟨low, high⟩ : 48 ≤ c.toNat ∧ c.toNat ≤ 57 := by
    simpa [Char.isDigit, UInt32.le_iff_toNat_le] using isDigit
  have numeral : '0' ≤ c ∧ c ≤ '9' := ⟨low, high⟩
  unfold digitValue
  rw [if_pos numeral]
  refine Option.filter_eq_some_iff.mpr ⟨rfl, decide_eq_true ?_⟩
  rw [show '0'.toNat = 48 from rfl]
  omega

/-- Decimal digits are read as the number that they denote. -/
theorem readDigits_of_isDigit {digits : List Char} (areDigits : ∀ c ∈ digits, c.isDigit = true)
    (value : Nat) : readDigits 10 value digits = some (Nat.ofDigitChars 10 digits value) := by
  induction digits generalizing value with
  | nil => rw [readDigits, Nat.ofDigitChars_nil]
  | cons c rest inductionHypothesis =>
    obtain ⟨here, behind⟩ := List.forall_mem_cons.mp areDigits
    rw [readDigits, digitValue_of_isDigit here, Nat.ofDigitChars_cons]
    exact inductionHypothesis behind _

/-- A number is read back from its decimal digits. -/
theorem fromStrRadix_toDigits {number bound : Nat} (small : number < bound) :
    fromStrRadix 10 bound (Nat.toDigits 10 number) = some number := by
  have areDigits : ∀ c ∈ Nat.toDigits 10 number, c.isDigit = true :=
    fun c member => Nat.isDigit_of_mem_toDigits (by decide) (by decide) member
  have noSign : dropSign (Nat.toDigits 10 number) = Nat.toDigits 10 number := by
    refine if_neg fun sign => ?_
    exact absurd (areDigits '+' (List.mem_of_mem_head? sign)) (by decide)
  have some_ : ¬ (Nat.toDigits 10 number).isEmpty = true :=
    fun none => Nat.toDigits_ne_nil (List.isEmpty_iff.mp none)
  rw [fromStrRadix, noSign, if_neg some_, readDigits_of_isDigit areDigits,
    Nat.ofDigitChars_ten_toDigits]
  exact Option.filter_eq_some_iff.mpr ⟨rfl, decide_eq_true small⟩

/-- The case of letters is all that is forgotten: a digit is in lower case only as itself. -/
theorem eq_of_toAsciiLowercase {c digit : Char} (isDigit : digit.isDigit = true)
    (same : toAsciiLowercase c = digit) : c = digit := by
  unfold toAsciiLowercase at same
  split at same
  next upper =>
    exfalso
    obtain ⟨low, high⟩ : 48 ≤ digit.toNat ∧ digit.toNat ≤ 57 := by
      simpa [Char.isDigit, UInt32.le_iff_toNat_le] using isDigit
    have least : 65 ≤ c.toNat := upper.1
    have most : c.toNat ≤ 90 := upper.2
    have valid : (c.toNat + 32).isValidChar := Or.inl (by omega)
    have code : (Char.ofNat (c.toNat + 32)).toNat = c.toNat + 32 := by
      rw [Char.ofNat, dif_pos valid]
      rfl
    rw [same] at code
    omega
  · exact same

theorem toAsciiLowercase_of_isDigit {digit : Char} (isDigit : digit.isDigit = true) :
    toAsciiLowercase digit = digit := by
  refine if_neg fun upper => ?_
  have high : digit.toNat ≤ 57 := by
    have both := isDigit
    simp only [Char.isDigit, Bool.and_eq_true, decide_eq_true_eq, UInt32.le_iff_toNat_le] at both
    exact both.2
  have least : 65 ≤ digit.toNat := upper.1
  omega

/-- A text that is the same as digits up to the case of letters is these digits. -/
theorem eq_of_map_toAsciiLowercase {text digits : List Char}
    (areDigits : ∀ c ∈ digits, c.isDigit = true)
    (same : text.map toAsciiLowercase = digits.map toAsciiLowercase) : text = digits := by
  induction digits generalizing text with
  | nil => exact List.map_eq_nil_iff.mp same
  | cons digit rest inductionHypothesis =>
    obtain ⟨here, behind⟩ := List.forall_mem_cons.mp areDigits
    rw [List.map_cons, toAsciiLowercase_of_isDigit here] at same
    cases text with
    | nil => cases same
    | cons c others =>
      obtain ⟨first, later⟩ := List.cons.inj same
      rw [eq_of_toAsciiLowercase here first, inductionHypothesis behind later]

theorem isDigit_of_digitValue {radix digit : Nat} {c : Char}
    (valued : digitValue radix c = some digit) :
    ('0' ≤ c ∧ c ≤ '9') ∨ ('a' ≤ c ∧ c ≤ 'z') ∨ ('A' ≤ c ∧ c ≤ 'Z') := by
  have value := (Option.filter_eq_some_iff.mp valued).1
  split at value
  next numeral => exact Or.inl numeral
  · split at value
    next lower => exact Or.inr (Or.inl lower)
    · split at value
      next upper => exact Or.inr (Or.inr upper)
      · exact absurd value nofun

/-- A text of digits is ASCII. -/
theorem lt_of_readDigits {radix value number : Nat} {text : List Char}
    (parsed : readDigits radix value text = some number) : ∀ c ∈ text, c.toNat < 128 := by
  induction text generalizing value with
  | nil => exact nofun
  | cons c rest inductionHypothesis =>
    rw [readDigits] at parsed
    split at parsed
    · exact absurd parsed nofun
    next digit valued =>
      refine List.forall_mem_cons.mpr ⟨?_, inductionHypothesis parsed⟩
      rcases isDigit_of_digitValue valued with numeral | lower | upper
      · exact Nat.lt_of_le_of_lt (show c.toNat ≤ 57 from numeral.2) (by decide)
      · exact Nat.lt_of_le_of_lt (show c.toNat ≤ 122 from lower.2) (by decide)
      · exact Nat.lt_of_le_of_lt (show c.toNat ≤ 90 from upper.2) (by decide)

/-! ### Texts as bytes -/

/-- The bytes of a text in UTF-8. -/
def utf8 (text : List Char) : List UInt8 := text.flatMap String.utf8EncodeChar

/-- The text that bytes denote one by one. -/
def ofAscii (bytes : List UInt8) : List Char := bytes.map fun byte => Char.ofNat byte.toNat

/-- An ASCII text has a byte for each character. -/
theorem utf8_of_ascii {text : List Char} (ascii : ∀ c ∈ text, c.toNat < 128) :
    utf8 text = text.map fun c => UInt8.ofNat c.toNat := by
  induction text with
  | nil => rfl
  | cons c rest inductionHypothesis =>
    have here : String.utf8EncodeChar c = [UInt8.ofNat c.toNat] :=
      if_pos (Nat.le_of_lt_succ (ascii c List.mem_cons_self))
    have behind := inductionHypothesis (List.forall_mem_cons.mp ascii).2
    rw [utf8, List.flatMap_cons, here, List.map_cons, ← behind]
    rfl

theorem ofAscii_utf8 {text : List Char} (ascii : ∀ c ∈ text, c.toNat < 128) :
    ofAscii (utf8 text) = text := by
  rw [utf8_of_ascii ascii, ofAscii, List.map_map]
  refine (List.map_congr_left fun c member => ?_).trans (List.map_id text)
  have byte : c.toNat % 2 ^ 8 = c.toNat :=
    Nat.mod_eq_of_lt (Nat.lt_trans (ascii c member) (by decide))
  rw [Function.comp_apply, UInt8.toNat_ofNat', byte, Char.ofNat_toNat, id]

end Text
