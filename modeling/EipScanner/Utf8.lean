/-
This file is about the lossy reading of bytes as a UTF-8 text. Every byte is read once.
A byte that can begin a character says which bytes may continue it, and every place
where bytes stop being the front of a character becomes one replacement character: a
byte that begins nothing, a character that is broken off by a byte that does not
continue it, and one that is broken off by the end.

A text is read back from its own bytes. Nothing here names a format or a field.
-/

import EipScanner.Text

namespace Text

/-- The character that stands for bytes that are not UTF-8. -/
def replacement : Char := Char.ofNat 0xFFFD

/-- How far the reading of a character has come: the value of the bytes read, and the least and the
greatest value of each byte that has to follow. Nothing has to follow between two characters. -/
structure Partial where
  value : Nat
  expected : List (Nat × Nat)

/-- The bytes that continue a character. -/
def continuation : Nat × Nat := (0x80, 0xBF)

/-- The state between two characters. -/
def between : Partial := ⟨0, []⟩

/-- What a byte behind a character begins: the text it gives at once, and what may follow. -/
def beginChar (byte : Nat) : List Char × Partial :=
  if byte < 0x80 then ([Char.ofNat byte], between)
  else if byte < 0xC2 then ([replacement], between)
  else if byte < 0xE0 then ([], ⟨byte - 0xC0, [continuation]⟩)
  else if byte = 0xE0 then ([], ⟨0, [(0xA0, 0xBF), continuation]⟩)
  else if byte = 0xED then ([], ⟨0xD, [(0x80, 0x9F), continuation]⟩)
  else if byte < 0xF0 then ([], ⟨byte - 0xE0, [continuation, continuation]⟩)
  else if byte = 0xF0 then ([], ⟨0, [(0x90, 0xBF), continuation, continuation]⟩)
  else if byte < 0xF4 then ([], ⟨byte - 0xF0, [continuation, continuation, continuation]⟩)
  else if byte = 0xF4 then ([], ⟨4, [(0x80, 0x8F), continuation, continuation]⟩)
  else ([replacement], between)

/-- Read one byte. A byte that does not continue the character begins the next. -/
def readByte (state : Partial) (byte : Nat) : List Char × Partial :=
  match state.expected with
  | [] => beginChar byte
  | (low, high) :: later =>
    let value := 64 * state.value + byte % 64
    if low ≤ byte ∧ byte ≤ high then
      if later.isEmpty then ([Char.ofNat value], between) else ([], ⟨value, later⟩)
    else (replacement :: (beginChar byte).1, (beginChar byte).2)

/-- The text of the bytes behind those that are read. -/
def readBytes : Partial → List UInt8 → List Char
  | state, [] => if state.expected.isEmpty then [] else [replacement]
  | state, byte :: rest =>
    (readByte state byte.toNat).1 ++ readBytes (readByte state byte.toNat).2 rest

/-- The text of bytes of any kind. -/
def fromUtf8Lossy (bytes : List UInt8) : List Char := readBytes between bytes

/-! ### Reading what was written -/

section Steps

variable {value low high : Nat} {byte : UInt8} (rest : List UInt8)

/-- A byte that continues a character which is not complete with it. -/
theorem readBytes_goes_on {next : Nat × Nat} {later : List (Nat × Nat)}
    (within : low ≤ byte.toNat ∧ byte.toNat ≤ high) :
    readBytes ⟨value, (low, high) :: next :: later⟩ (byte :: rest) =
      readBytes ⟨64 * value + byte.toNat % 64, next :: later⟩ rest := by
  rw [readBytes, readByte]
  dsimp only
  rw [if_pos within, List.isEmpty_cons, if_neg Bool.false_ne_true, List.nil_append]

/-- A byte that completes a character. -/
theorem readBytes_completes (within : low ≤ byte.toNat ∧ byte.toNat ≤ high) :
    readBytes ⟨value, [(low, high)]⟩ (byte :: rest) =
      Char.ofNat (64 * value + byte.toNat % 64) :: readBytes between rest := by
  rw [readBytes, readByte]
  dsimp only
  rw [if_pos within, List.isEmpty_nil, if_pos rfl, List.singleton_append]

/-- A byte that begins a character which is not complete with it. -/
theorem readBytes_begins {state : Partial} (begins : beginChar byte.toNat = ([], state)) :
    readBytes between (byte :: rest) = readBytes state rest := by
  rw [readBytes, show readByte between byte.toNat = beginChar byte.toNat from rfl, begins,
    List.nil_append]

end Steps

/-- The byte that begins a character of two bytes. -/
theorem beginChar_two {lead : Nat} (above : 2 ≤ lead) (below : lead < 0x20) :
    beginChar (lead + 0xC0) = ([], ⟨lead, [continuation]⟩) := by
  rw [beginChar, if_neg (by omega), if_neg (by omega), if_pos (by omega), Nat.add_sub_cancel]

/-- The byte that begins a character of three bytes lets the second byte follow, unless the
character has a shorter form or is a surrogate. -/
theorem beginChar_three {lead second : Nat} (below : lead < 0x10) (small : second < 0x40)
    (shortest : lead = 0 → 0x20 ≤ second) (valid : lead = 0xD → second < 0x20) :
    ∃ low high, beginChar (lead + 0xE0) = ([], ⟨lead, [(low, high), continuation]⟩) ∧
      low ≤ second + 0x80 ∧ second + 0x80 ≤ high := by
  rw [beginChar, if_neg (by omega), if_neg (by omega), if_neg (by omega)]
  rcases Nat.eq_zero_or_pos lead with rfl | positive
  · have long := shortest rfl
    exact ⟨0xA0, 0xBF, rfl, by omega, by omega⟩
  rw [if_neg (by omega)]
  by_cases surrogates : lead = 0xD
  · have early := valid surrogates
    subst surrogates
    exact ⟨0x80, 0x9F, rfl, by omega, by omega⟩
  · rw [if_neg (by omega), if_pos (by omega), Nat.add_sub_cancel]
    exact ⟨0x80, 0xBF, rfl, by omega, by omega⟩

/-- The byte that begins a character of four bytes lets the second byte follow, unless the
character has a shorter form or lies beyond the last. -/
theorem beginChar_four {lead second : Nat} (below : lead ≤ 4) (small : second < 0x40)
    (shortest : lead = 0 → 0x10 ≤ second) (valid : lead = 4 → second < 0x10) :
    ∃ low high,
      beginChar (lead + 0xF0) = ([], ⟨lead, [(low, high), continuation, continuation]⟩) ∧
        low ≤ second + 0x80 ∧ second + 0x80 ≤ high := by
  rw [beginChar, if_neg (by omega), if_neg (by omega), if_neg (by omega), if_neg (by omega),
    if_neg (by omega), if_neg (by omega)]
  rcases Nat.eq_zero_or_pos lead with rfl | positive
  · have long := shortest rfl
    exact ⟨0x90, 0xBF, rfl, by omega, by omega⟩
  rw [if_neg (by omega)]
  by_cases last : lead = 4
  · have early := valid last
    subst last
    exact ⟨0x80, 0x8F, rfl, by omega, by omega⟩
  · rw [if_pos (by omega), Nat.add_sub_cancel]
    exact ⟨0x80, 0xBF, rfl, by omega, by omega⟩

/-- The code of a character is no surrogate and not beyond the last. -/
theorem toNat_valid (c : Char) : c.toNat < 0xD800 ∨ 0xDFFF < c.toNat ∧ c.toNat < 0x110000 := c.valid

/-- The bytes of one character are read as that character. -/
theorem readBytes_utf8EncodeChar (c : Char) (rest : List UInt8) :
    readBytes between (String.utf8EncodeChar c ++ rest) = c :: readBytes between rest := by
  have valid := toNat_valid c
  have isChar : Char.ofNat c.toNat = c := Char.ofNat_toNat c
  have byte : ∀ number, number < 256 → (UInt8.ofNat number).toNat = number :=
    fun number small => UInt8.toNat_ofNat_of_lt' small
  have tail : ∀ number, (UInt8.ofNat (number % 64 + 0x80)).toNat = number % 64 + 0x80 :=
    fun number => byte _ (by omega)
  have continues : ∀ number, 0x80 ≤ (UInt8.ofNat (number % 64 + 0x80)).toNat ∧
      (UInt8.ofNat (number % 64 + 0x80)).toNat ≤ 0xBF := by
    intro number
    rw [tail]
    omega
  have sixBits : ∀ number, (number % 64 + 0x80) % 64 = number % 64 := by omega
  unfold String.utf8EncodeChar
  rw [show c.val.toNat = c.toNat from rfl]
  generalize c.toNat = code at valid isChar ⊢
  subst isChar
  dsimp only
  split_ifs with one two three
  · have begins : beginChar code = ([Char.ofNat code], between) := if_pos (by omega)
    rw [List.singleton_append, readBytes, byte code (by omega),
      show readByte between code = beginChar code from rfl, begins, List.singleton_append]
  · have lead : code / 64 % 0x20 = code / 64 := Nat.mod_eq_of_lt (by omega)
    have begins : beginChar (UInt8.ofNat (code / 64 % 0x20 + 0xC0)).toNat =
        ([], ⟨code / 64, [continuation]⟩) := by
      rw [lead, byte _ (by omega)]
      exact beginChar_two (by omega) (by omega)
    rw [List.cons_append, readBytes_begins _ begins, List.cons_append, continuation,
      readBytes_completes _ (continues _), tail, sixBits, Nat.div_add_mod]
    rfl
  · have lead : code / 4096 % 0x10 = code / 4096 := Nat.mod_eq_of_lt (by omega)
    obtain ⟨low, high, begins, within⟩ :=
      @beginChar_three (code / 4096) (code / 64 % 64) (by omega) (by omega) (by omega) (by omega)
    rw [← lead, ← byte (code / 4096 % 0x10 + 0xE0) (by omega), lead] at begins
    rw [← tail] at within
    have value : 64 * (64 * (code / 4096) + code / 64 % 64) + code % 64 = code := by omega
    rw [List.cons_append, lead, readBytes_begins _ begins, List.cons_append,
      readBytes_goes_on _ within, List.cons_append, continuation,
      readBytes_completes _ (continues _), tail, tail, sixBits, sixBits, value]
    rfl
  · have lead : code / 262144 % 8 = code / 262144 := Nat.mod_eq_of_lt (by omega)
    obtain ⟨low, high, begins, within⟩ :=
      @beginChar_four (code / 262144) (code / 4096 % 64) (by omega) (by omega) (by omega) (by omega)
    rw [← lead, ← byte (code / 262144 % 8 + 0xF0) (by omega), lead] at begins
    rw [← tail] at within
    have value : 64 * (64 * (64 * (code / 262144) + code / 4096 % 64) + code / 64 % 64) +
        code % 64 = code := by omega
    rw [List.cons_append, lead, readBytes_begins _ begins, List.cons_append,
      readBytes_goes_on _ within, List.cons_append, continuation,
      readBytes_goes_on _ (continues _), List.cons_append, readBytes_completes _ (continues _),
      tail, tail, tail, sixBits, sixBits, sixBits, value]
    rfl

/-- A text is read back from its bytes. -/
theorem fromUtf8Lossy_utf8 (text : List Char) : fromUtf8Lossy (utf8 text) = text := by
  have read : ∀ rest, readBytes between (utf8 text ++ rest) = text ++ readBytes between rest := by
    intro rest
    induction text with
    | nil => rfl
    | cons c others inductionHypothesis =>
      rw [utf8, List.flatMap_cons, List.append_assoc, readBytes_utf8EncodeChar, List.cons_append]
      exact congrArg (c :: ·) inductionHypothesis
  have whole := read []
  rw [List.append_nil] at whole
  rw [fromUtf8Lossy, whole]
  exact List.append_nil text

/-- A character that is broken off and a byte that begins nothing are replaced one by one. -/
example : fromUtf8Lossy [0xE2, 0x82, 0x41, 0xFF] = [replacement, 'A', replacement] := by decide

end Text
