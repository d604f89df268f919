/-
This file models the parser of EDS texts: `[Section]` headers, `Keyword = field, field, ...;`
entries, `$` comments to the end of the line, and double-quoted strings. Adjacent strings in one
field are joined.

A text is a list of characters. The cursor of the parser is what is left of the text and the line
it starts on. Each loop over single characters is a function of these two. The two outer loops,
over the fields of an entry and over the sections and entries, take the rest of the text off the
inner ones, and end because the rest gets shorter.
-/

import EipScanner.Buf
import EipScanner.Text

namespace EipScanner.Parse

/-! ### Sections, entries and fields -/

/-- A field: a quoted string without the quotes, or unquoted text without the blanks around it. -/
inductive Field where
  | empty
  | str (text : List Char)
  | token (text : List Char)
  deriving DecidableEq, Repr

/-- The text of a string or token. -/
def Field.text : Field → Option (List Char)
  | .empty => none
  | .str text => some text
  | .token text => some text

/-- An entry, with the line of its keyword. -/
structure Entry where
  keyword : List Char
  fields : List Field
  line : Nat
  deriving DecidableEq, Repr

def Entry.field (entry : Entry) (i : Nat) : Field := (entry.fields[i]?).getD .empty

structure Section where
  name : List Char
  entries : List Entry
  deriving DecidableEq, Repr

/-- Finds an entry by keyword, ignoring case. -/
def Section.get (inSection : Section) (keyword : List Char) : Option Entry :=
  inSection.entries.find? fun entry => Text.eqIgnoreAsciiCase entry.keyword keyword

/-! ### The cursor -/

/-- The rest of the text, and the line it starts on. -/
structure Cursor where
  chars : List Char
  line : Nat
  deriving DecidableEq, Repr

/-- The line after a character. -/
def nextLine (line : Nat) (c : Char) : Nat := if c = '\n' then line + 1 else line

/-- An error on a line. -/
def errorOn (line : Nat) (message : String) : Error :=
  .eds ("line " ++ toString line ++ ": " ++ message)

def skipComment : List Char → Nat → Cursor
  | [], line => ⟨[], line⟩
  | c :: rest, line => if c = '\n' then ⟨rest, line + 1⟩ else skipComment rest line

theorem length_skipComment (chars : List Char) (line : Nat) :
    (skipComment chars line).chars.length ≤ chars.length := by
  induction chars with
  | nil => exact le_rfl
  | cons c rest inductionHypothesis =>
    rw [skipComment]
    split
    · exact Nat.le_succ _
    · exact inductionHypothesis.trans (Nat.le_succ _)

def skipBlank : List Char → Nat → Cursor
  | [], line => ⟨[], line⟩
  | c :: rest, line =>
    if c = '$' then skipBlank (skipComment rest line).chars (skipComment rest line).line
    else if Text.isWhitespace c then skipBlank rest (nextLine line c)
    else ⟨c :: rest, line⟩
termination_by chars => chars.length
decreasing_by
  · exact Nat.lt_succ_of_le (length_skipComment rest line)
  · exact Nat.lt_succ_self _

theorem length_skipBlank (chars : List Char) (line : Nat) :
    (skipBlank chars line).chars.length ≤ chars.length := by
  fun_induction skipBlank chars line with
  | case1 line => exact le_rfl
  | case2 rest line inductionHypothesis =>
    exact inductionHypothesis.trans ((length_skipComment rest line).trans (Nat.le_succ _))
  | case3 c rest line notComment blank inductionHypothesis =>
    exact inductionHypothesis.trans (Nat.le_succ _)
  | case4 c rest line notComment notBlank => exact le_rfl

theorem lt_of_skipBlank {chars rest : List Char} {before line : Nat} {c : Char}
    (blank : skipBlank chars before = ⟨c :: rest, line⟩) : rest.length < chars.length := by
  have shorter := length_skipBlank chars before
  rw [blank] at shorter
  exact shorter

/-- What is left begins with neither a blank nor a comment. -/
theorem head_of_skipBlank {chars rest : List Char} {before line : Nat} {c : Char}
    (blank : skipBlank chars before = ⟨c :: rest, line⟩) :
    c ≠ '$' ∧ ¬ Text.isWhitespace c = true := by
  fun_induction skipBlank chars before with
  | case1 before => exact absurd blank nofun
  | case2 more before inductionHypothesis => exact inductionHypothesis blank
  | case3 first more before notComment isBlank inductionHypothesis =>
    exact inductionHypothesis blank
  | case4 first more before notComment notBlank =>
    obtain ⟨same, -⟩ := Cursor.mk.inj blank
    obtain ⟨rfl, -⟩ := List.cons.inj same
    exact ⟨notComment, notBlank⟩

/-! ### One entry -/

/-- Read the keyword of an entry up to its equals sign. -/
def readKeyword : List Char → Nat → List Char → Except Error (List Char × Cursor)
  | [], line, keyword =>
    .error (errorOn line ("expected '=' after '" ++ String.ofList (Text.trim keyword) ++ "'"))
  | c :: rest, line, keyword =>
    if c = '=' then .ok (keyword, ⟨rest, line⟩)
    else if c = ';' ∨ c = '[' ∨ c = '"' ∨ c = ',' then
      .error (errorOn line ("expected '=' after '" ++ String.ofList (Text.trim keyword) ++
        "', found '" ++ String.ofList [c] ++ "'"))
    else readKeyword rest (nextLine line c) (keyword ++ [c])

/-- What a character stands for behind a backslash. -/
def unescape (c : Char) : Char := if c = 'n' then '\n' else c

/-- Read a string up to its closing quote, behind what was read of the field's strings. -/
def readString : List Char → Nat → List Char → Except Error (List Char × Cursor)
  | [], line, _ => .error (errorOn line "unterminated string")
  | c :: rest, line, text =>
    if c = '"' then .ok (text, ⟨rest, line⟩)
    else if c = '\\' then
      match rest with
      | [] => .error (errorOn line "unterminated string")
      | escaped :: rest => readString rest (nextLine line escaped) (text ++ [unescape escaped])
    else readString rest (nextLine line c) (text ++ [c])

/-- The characters that end a token. -/
def endsToken (c : Char) : Bool := c == ',' || c == ';' || c == '"' || c == '$' || c == '\n'

/-- Keep the rest of a token together. -/
def readToken : List Char → Nat → List Char → List Char × Cursor
  | [], line, token => (token, ⟨[], line⟩)
  | c :: rest, line, token =>
    if endsToken c then (token, ⟨c :: rest, line⟩)
    else readToken rest (nextLine line c) (token ++ [c])

/-- The field that the strings and the token read so far make. -/
def fieldOf (strings : Option (List Char)) (token : List Char) : Field :=
  match strings with
  | some text => .str text
  | none => if (Text.trim token).isEmpty then .empty else .token (Text.trim token)

theorem length_readString {chars : List Char} {line : Nat} {text read : List Char}
    {after : Cursor} (ended : readString chars line text = .ok (read, after)) :
    after.chars.length ≤ chars.length := by
  fun_induction readString chars line text with
  | case1 line text => exact absurd ended nofun
  | case2 rest line text =>
    obtain ⟨-, rfl⟩ := Prod.mk.inj (Except.ok.inj ended)
    exact Nat.le_succ _
  | case3 line text notQuote => exact absurd ended nofun
  | case4 line text notQuote escaped rest inductionHypothesis =>
    exact (inductionHypothesis ended).trans ((Nat.le_succ _).trans (Nat.le_succ _))
  | case5 c rest line text notQuote notBackslash inductionHypothesis =>
    exact (inductionHypothesis ended).trans (Nat.le_succ _)

theorem length_readToken (chars : List Char) (line : Nat) (token : List Char) :
    (readToken chars line token).2.chars.length ≤ chars.length := by
  induction chars generalizing line token with
  | nil => exact le_rfl
  | cons c rest inductionHypothesis =>
    rw [readToken]
    split
    · exact le_rfl
    · exact (inductionHypothesis _ _).trans (Nat.le_succ _)

/-- Read the fields of an entry up to its semicolon. -/
def readFields (keyword : List Char) (entryLine : Nat) (fields : List Field)
    (strings : Option (List Char)) (token : List Char) (cur : Cursor) :
    Except Error (Entry × Cursor) :=
  match _ : skipBlank cur.chars cur.line with
  | ⟨[], _⟩ =>
    .error (errorOn entryLine
      ("entry '" ++ String.ofList keyword ++ "' has no terminating ';'"))
  | ⟨c :: rest, line⟩ =>
    if c = '"' then
      match _ : readString rest line (strings.getD []) with
      | .error refused => .error refused
      | .ok (text, after) => readFields keyword entryLine fields (some text) token after
    else if c = ',' then
      readFields keyword entryLine (fields ++ [fieldOf strings token]) none [] ⟨rest, line⟩
    else if c = ';' then
      .ok (⟨keyword, fields ++ [fieldOf strings token], entryLine⟩, ⟨rest, line⟩)
    else
      readFields keyword entryLine fields strings
        (readToken rest (nextLine line c) (token ++ [c])).1
        (readToken rest (nextLine line c) (token ++ [c])).2
termination_by cur.chars.length
decreasing_by
  all_goals have shorter := lt_of_skipBlank ‹skipBlank cur.chars cur.line = _›
  · exact Nat.lt_of_le_of_lt (length_readString ‹readString _ _ _ = _›) shorter
  · exact shorter
  · exact Nat.lt_of_le_of_lt (length_readToken _ _ _) shorter

def parseEntry (cur : Cursor) (line : Nat) : Except Error (Entry × Cursor) :=
  match readKeyword cur.chars cur.line [] with
  | .error refused => .error refused
  | .ok (keyword, after) => readFields (Text.trim keyword) line [] none [] after

theorem length_readKeyword {chars : List Char} {line : Nat} {keyword read : List Char}
    {after : Cursor} (ended : readKeyword chars line keyword = .ok (read, after)) :
    after.chars.length < chars.length := by
  fun_induction readKeyword chars line keyword with
  | case1 line keyword => exact absurd ended nofun
  | case2 rest line keyword =>
    obtain ⟨-, rfl⟩ := Prod.mk.inj (Except.ok.inj ended)
    exact Nat.lt_succ_self _
  | case3 c rest line keyword notEquals misplaced => exact absurd ended nofun
  | case4 c rest line keyword notEquals placed inductionHypothesis =>
    exact (inductionHypothesis ended).trans (Nat.lt_succ_self _)

theorem length_readFields {keyword : List Char} {entryLine : Nat} {fields : List Field}
    {strings : Option (List Char)} {token : List Char} {cur after : Cursor} {entry : Entry}
    (ended : readFields keyword entryLine fields strings token cur = .ok (entry, after)) :
    after.chars.length ≤ cur.chars.length := by
  fun_induction readFields keyword entryLine fields strings token cur with
  | case1 fields strings token cur line blank => exact absurd ended nofun
  | case2 fields strings token cur rest line refused failed blank => exact absurd ended nofun
  | case3 fields strings token cur rest line text behind closed blank inductionHypothesis =>
    exact (inductionHypothesis ended).trans
      ((length_readString closed).trans (lt_of_skipBlank blank).le)
  | case4 fields strings token cur rest line blank notQuote inductionHypothesis =>
    exact (inductionHypothesis ended).trans (lt_of_skipBlank blank).le
  | case5 fields strings token cur rest line blank notQuote notComma =>
    obtain ⟨-, rfl⟩ := Prod.mk.inj (Except.ok.inj ended)
    exact (lt_of_skipBlank blank).le
  | case6 fields strings token cur c rest line blank notQuote notComma notSemicolon
      inductionHypothesis =>
    exact (inductionHypothesis ended).trans
      ((length_readToken _ _ _).trans (lt_of_skipBlank blank).le)

theorem length_parseEntry {cur after : Cursor} {line : Nat} {entry : Entry}
    (parsed : parseEntry cur line = .ok (entry, after)) :
    after.chars.length < cur.chars.length := by
  rw [parseEntry] at parsed
  split at parsed
  · exact absurd parsed nofun
  next keyword between ended =>
    exact Nat.lt_of_le_of_lt (length_readFields parsed) (length_readKeyword ended)

/-! ### The whole text -/

/-- Read the name of a section up to the closing bracket. -/
def readName : List Char → Nat → List Char → Except Error (List Char × Cursor)
  | [], line, _ => .error (errorOn line "unterminated section header")
  | c :: rest, line, name =>
    if c = ']' then .ok (name, ⟨rest, line⟩)
    else if c = '\n' then .error (errorOn (line + 1) "unterminated section header")
    else readName rest line (name ++ [c])

theorem length_readName {chars : List Char} {line : Nat} {name read : List Char}
    {after : Cursor} (ended : readName chars line name = .ok (read, after)) :
    after.chars.length ≤ chars.length := by
  fun_induction readName chars line name with
  | case1 line name => exact absurd ended nofun
  | case2 rest line name =>
    obtain ⟨-, rfl⟩ := Prod.mk.inj (Except.ok.inj ended)
    exact Nat.le_succ _
  | case3 rest line name notBracket => exact absurd ended nofun
  | case4 c rest line name notBracket notNewline inductionHypothesis =>
    exact (inductionHypothesis ended).trans (Nat.le_succ _)

/-- Push an entry onto the last section. -/
def pushEntry (sections : List Section) (entry : Entry) (line : Nat) :
    Except Error (List Section) :=
  match sections.getLast? with
  | none =>
    .error (errorOn line ("entry '" ++ String.ofList entry.keyword ++ "' before any section"))
  | some last => .ok (sections.dropLast ++ [{ last with entries := last.entries ++ [entry] }])

/-- Read sections and entries up to the end of the text, behind those already read. -/
def parseSections (sections : List Section) (cur : Cursor) : Except Error (List Section) :=
  match _ : skipBlank cur.chars cur.line with
  | ⟨[], _⟩ => .ok sections
  | ⟨c :: rest, line⟩ =>
    if c = '[' then
      match _ : readName rest line [] with
      | .error refused => .error refused
      | .ok (name, after) => parseSections (sections ++ [⟨Text.trim name, []⟩]) after
    else
      match _ : parseEntry ⟨c :: rest, line⟩ line with
      | .error refused => .error refused
      | .ok (entry, after) =>
        match pushEntry sections entry after.line with
        | .error refused => .error refused
        | .ok sections => parseSections sections after
termination_by cur.chars.length
decreasing_by
  all_goals have shorter := lt_of_skipBlank ‹skipBlank cur.chars cur.line = _›
  · exact Nat.lt_of_le_of_lt (length_readName ‹readName _ _ _ = _›) shorter
  · have within := length_parseEntry ‹parseEntry _ _ = _›
    exact Nat.lt_of_lt_of_le within shorter

def parse (text : List Char) : Except Error (List Section) := parseSections [] ⟨text, 1⟩

/-- Parses a decimal or `0x` hexadecimal integer. -/
def parseInt (text : List Char) : Option Nat :=
  match Text.trim text with
  | '0' :: 'x' :: hex => Text.fromStrRadix 16 (2 ^ 64) hex
  | '0' :: 'X' :: hex => Text.fromStrRadix 16 (2 ^ 64) hex
  | decimal => Text.fromStrRadix 10 (2 ^ 64) decimal

end EipScanner.Parse
