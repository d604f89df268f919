/-
This file reads an EDS text one character at a time. Where the parser has loops inside loops, the
scanner has a mode: between entries, in a section header, in a keyword, in the fields of an entry.
A field has places of its own: a blank, a comment, a word, a string, and behind a backslash.

The scanner gives the same sections as the parser, or the same error, on every text. What a part
of a text does is then what folding the scanner over it does, whatever the loops of the parser are.
-/

import EipScanner.EdsParse

namespace EipScanner.Parse

/-! ### One field -/

/-- Where in a field the reading stands. -/
inductive Place where
  | blank
  | comment
  | word
  | string
  | escape
  deriving DecidableEq, Repr

/-- A field that is being read: what was read of its strings and of its token, and the place. -/
structure Reading where
  strings : Option (List Char)
  token : List Char
  place : Place
  deriving DecidableEq, Repr

namespace Reading

def start : Reading := ⟨none, [], .blank⟩

/-- The place is one where a comma or a semicolon ends the field. -/
def atBoundary (reading : Reading) : Bool := reading.place == .blank || reading.place == .word

/-- The field that was read. -/
def value (reading : Reading) : Field := fieldOf reading.strings reading.token

/-- One more character of a string. -/
def push (reading : Reading) (c : Char) : Reading :=
  { reading with strings := some (reading.strings.getD [] ++ [c]), place := .string }

/-- A character that is not inside a word, a string or a comment. -/
def begin (reading : Reading) (c : Char) : Reading :=
  if c = '$' then { reading with place := .comment }
  else if Text.isWhitespace c then { reading with place := .blank }
  else if c = '"' then
    { reading with strings := some (reading.strings.getD []), place := .string }
  else { reading with token := reading.token ++ [c], place := .word }

/-- One character of a field. -/
def step (reading : Reading) (c : Char) : Reading :=
  match reading.place with
  | .blank => reading.begin c
  | .comment => if c = '\n' then { reading with place := .blank } else reading
  | .word =>
    if endsToken c then reading.begin c else { reading with token := reading.token ++ [c] }
  | .string =>
    if c = '"' then { reading with place := .blank }
    else if c = '\\' then { reading with place := .escape }
    else reading.push c
  | .escape => reading.push (unescape c)

end Reading

/-! ### The scanner -/

/-- What the scanner is in the middle of. -/
inductive Mode where
  | between
  | comment
  | header (name : List Char)
  | keyword (line : Nat) (text : List Char)
  | fields (keyword : List Char) (line : Nat) (fields : List Field) (reading : Reading)
  | failed (refused : Error)
  deriving DecidableEq, Repr

structure Scanner where
  sections : List Section
  line : Nat
  mode : Mode
  deriving DecidableEq, Repr

namespace Scanner

def start : Scanner := ⟨[], 1, .between⟩

/-- Go on in a mode behind a character. -/
def move (scanner : Scanner) (c : Char) (mode : Mode) : Scanner :=
  { scanner with line := nextLine scanner.line c, mode }

def fail (scanner : Scanner) (refused : Error) : Scanner := { scanner with mode := .failed refused }

/-- One character of a keyword. -/
def stepKeyword (scanner : Scanner) (line : Nat) (text : List Char) (c : Char) : Scanner :=
  if c = '=' then scanner.move c (.fields (Text.trim text) line [] .start)
  else if c = ';' ∨ c = '[' ∨ c = '"' ∨ c = ',' then
    scanner.fail (errorOn scanner.line ("expected '=' after '" ++ String.ofList (Text.trim text) ++
      "', found '" ++ String.ofList [c] ++ "'"))
  else scanner.move c (.keyword line (text ++ [c]))

/-- The semicolon of an entry. -/
def endEntry (scanner : Scanner) (entry : Entry) : Scanner :=
  match pushEntry scanner.sections entry scanner.line with
  | .error refused => scanner.fail refused
  | .ok sections => { scanner with sections, mode := .between }

def step (scanner : Scanner) (c : Char) : Scanner :=
  match scanner.mode with
  | .between =>
    if c = '$' then scanner.move c .comment
    else if Text.isWhitespace c then scanner.move c .between
    else if c = '[' then scanner.move c (.header [])
    else scanner.stepKeyword scanner.line [] c
  | .comment => scanner.move c (if c = '\n' then .between else .comment)
  | .header name =>
    if c = ']' then
      { scanner with sections := scanner.sections ++ [⟨Text.trim name, []⟩], mode := .between }
    else if c = '\n' then
      scanner.fail (errorOn (scanner.line + 1) "unterminated section header")
    else scanner.move c (.header (name ++ [c]))
  | .keyword line text => scanner.stepKeyword line text c
  | .fields keyword line fields reading =>
    if reading.atBoundary ∧ c = ',' then
      scanner.move c (.fields keyword line (fields ++ [reading.value]) .start)
    else if reading.atBoundary ∧ c = ';' then
      scanner.endEntry ⟨keyword, fields ++ [reading.value], line⟩
    else scanner.move c (.fields keyword line fields (reading.step c))
  | .failed _ => scanner

/-- What the end of the text makes of the scanner. -/
def finish (scanner : Scanner) : Except Error (List Section) :=
  match scanner.mode with
  | .between => .ok scanner.sections
  | .comment => .ok scanner.sections
  | .header _ => .error (errorOn scanner.line "unterminated section header")
  | .keyword _ text =>
    .error (errorOn scanner.line
      ("expected '=' after '" ++ String.ofList (Text.trim text) ++ "'"))
  | .fields keyword line _ reading =>
    if reading.place = .string ∨ reading.place = .escape then
      .error (errorOn scanner.line "unterminated string")
    else
      .error (errorOn line ("entry '" ++ String.ofList keyword ++ "' has no terminating ';'"))
  | .failed refused => .error refused

/-- Read a text to its end. -/
def scan (scanner : Scanner) (text : List Char) : Except Error (List Section) :=
  (text.foldl step scanner).finish

theorem scan_cons (scanner : Scanner) (c : Char) (rest : List Char) :
    scanner.scan (c :: rest) = (scanner.step c).scan rest := rfl

theorem foldl_failed (sections : List Section) (line : Nat) (refused : Error)
    (text : List Char) :
    text.foldl step ⟨sections, line, .failed refused⟩ = ⟨sections, line, .failed refused⟩ := by
  induction text with
  | nil => rfl
  | cons c rest inductionHypothesis => exact inductionHypothesis

/-- After a failure the rest of the text makes no difference. -/
theorem scan_fail (scanner : Scanner) (refused : Error) (text : List Char) :
    (scanner.fail refused).scan text = .error refused := by
  rw [scan, fail, foldl_failed]
  rfl

/-- A text that ends between entries is accepted, and no other. -/
theorem finish_eq_ok {scanner : Scanner} {sections : List Section}
    (accepted : scanner.finish = .ok sections) :
    scanner.sections = sections ∧ (scanner.mode = .between ∨ scanner.mode = .comment) := by
  obtain ⟨read, line, mode⟩ := scanner
  cases mode with
  | between => exact ⟨Except.ok.inj accepted, .inl rfl⟩
  | comment => exact ⟨Except.ok.inj accepted, .inr rfl⟩
  | header name => exact absurd accepted nofun
  | keyword entryLine text => exact absurd accepted nofun
  | fields keyword entryLine fields reading =>
    unfold finish at accepted
    dsimp only at accepted
    split at accepted <;> exact absurd accepted nofun
  | failed refused => exact absurd accepted nofun

/-! ### The parser's loops -/

section
variable (sections : List Section)

theorem scan_comment (chars : List Char) (line : Nat) :
    scan ⟨sections, line, .comment⟩ chars =
      scan ⟨sections, (skipComment chars line).line, .between⟩ (skipComment chars line).chars := by
  induction chars with
  | nil => rfl
  | cons c rest inductionHypothesis =>
    rw [scan_cons, skipComment]
    by_cases newline : c = '\n'
    · simp only [step, move, nextLine, if_pos newline]
    · simp only [step, move, nextLine, if_neg newline]
      exact inductionHypothesis

theorem scan_between (chars : List Char) (line : Nat) :
    scan ⟨sections, line, .between⟩ chars =
      scan ⟨sections, (skipBlank chars line).line, .between⟩ (skipBlank chars line).chars := by
  fun_induction skipBlank chars line with
  | case1 line => rfl
  | case2 rest line inductionHypothesis =>
    rw [← inductionHypothesis, ← scan_comment]
    rfl
  | case3 c rest line notComment blank inductionHypothesis =>
    rw [← inductionHypothesis, scan_cons]
    simp only [step, if_neg notComment, if_pos blank, move]
  | case4 c rest line notComment notBlank => rfl

theorem scan_readName (chars : List Char) (line : Nat) (name : List Char) :
    scan ⟨sections, line, .header name⟩ chars =
      match readName chars line name with
      | .error refused => .error refused
      | .ok (name, after) =>
        scan ⟨sections ++ [⟨Text.trim name, []⟩], after.line, .between⟩ after.chars := by
  fun_induction readName chars line name with
  | case1 line name => rfl
  | case2 rest line name => rfl
  | case3 rest line name notBracket => exact scan_fail _ _ rest
  | case4 c rest line name notBracket notNewline inductionHypothesis =>
    rw [← inductionHypothesis, scan_cons]
    simp only [step, if_neg notBracket, if_neg notNewline, move, nextLine]

theorem scan_readKeyword (chars : List Char) (line entryLine : Nat) (text : List Char) :
    scan ⟨sections, line, .keyword entryLine text⟩ chars =
      match readKeyword chars line text with
      | .error refused => .error refused
      | .ok (keyword, after) =>
        scan ⟨sections, after.line, .fields (Text.trim keyword) entryLine [] .start⟩
          after.chars := by
  fun_induction readKeyword chars line text with
  | case1 line text => rfl
  | case2 rest line text => rfl
  | case3 c rest line text notEquals misplaced =>
    rw [scan_cons]
    simp only [step, stepKeyword, if_neg notEquals, if_pos misplaced, scan_fail]
  | case4 c rest line text notEquals placed inductionHypothesis =>
    rw [← inductionHypothesis, scan_cons]
    simp only [step, stepKeyword, if_neg notEquals, if_neg placed, move]

/-! ### The parser's loops over fields and entries -/

variable (keyword : List Char) (entryLine : Nat) (fields : List Field)
  (strings : Option (List Char)) (token : List Char)

theorem scan_field_comment (chars : List Char) (line : Nat) :
    scan ⟨sections, line, .fields keyword entryLine fields ⟨strings, token, .comment⟩⟩ chars =
      scan ⟨sections, (skipComment chars line).line,
        .fields keyword entryLine fields ⟨strings, token, .blank⟩⟩
        (skipComment chars line).chars := by
  induction chars with
  | nil => rfl
  | cons c rest inductionHypothesis =>
    rw [scan_cons, skipComment]
    by_cases newline : c = '\n'
    · simp [step, move, nextLine, newline, Reading.step, Reading.atBoundary]
    · simp [step, move, nextLine, newline, Reading.step, Reading.atBoundary]
      exact inductionHypothesis

theorem scan_field_blank (chars : List Char) (line : Nat) :
    scan ⟨sections, line, .fields keyword entryLine fields ⟨strings, token, .blank⟩⟩ chars =
      scan ⟨sections, (skipBlank chars line).line,
        .fields keyword entryLine fields ⟨strings, token, .blank⟩⟩
        (skipBlank chars line).chars := by
  fun_induction skipBlank chars line with
  | case1 line => rfl
  | case2 rest line inductionHypothesis =>
    rw [← inductionHypothesis, ← scan_field_comment]
    rfl
  | case3 c rest line notComment blank inductionHypothesis =>
    have notComma : c ≠ ',' := by
      rintro rfl
      exact absurd blank (by decide)
    have notSemicolon : c ≠ ';' := by
      rintro rfl
      exact absurd blank (by decide)
    rw [← inductionHypothesis, scan_cons]
    simp only [step, notComma, notSemicolon, and_false, if_false, Reading.step, Reading.begin,
      if_neg notComment, if_pos blank, move]
  | case4 c rest line notComment notBlank => rfl

theorem scan_readString (chars : List Char) (line : Nat) (text : List Char) :
    scan ⟨sections, line, .fields keyword entryLine fields ⟨some text, token, .string⟩⟩ chars =
      match readString chars line text with
      | .error refused => .error refused
      | .ok (text, after) =>
        scan ⟨sections, after.line,
          .fields keyword entryLine fields ⟨some text, token, .blank⟩⟩ after.chars := by
  fun_induction readString chars line text with
  | case1 line text => rfl
  | case2 rest line text => rfl
  | case3 line text notQuote => rfl
  | case4 line text escaped rest notQuote inductionHypothesis =>
    rw [← inductionHypothesis, scan_cons, scan_cons]
    rfl
  | case5 c rest line text notQuote notBackslash inductionHypothesis =>
    rw [← inductionHypothesis, scan_cons]
    simp [step, Reading.atBoundary, Reading.step, notQuote, notBackslash, move, Reading.push]

/-- Behind a token stands a character that is read as if no word were open, or nothing. -/
theorem scan_readToken (chars : List Char) (line : Nat) (token : List Char) :
    scan ⟨sections, line, .fields keyword entryLine fields ⟨strings, token, .word⟩⟩ chars =
      scan ⟨sections, (readToken chars line token).2.line,
        .fields keyword entryLine fields ⟨strings, (readToken chars line token).1, .blank⟩⟩
        (readToken chars line token).2.chars := by
  fun_induction readToken chars line token with
  | case1 line token => rfl
  | case2 c rest line token ends =>
    rw [scan_cons, scan_cons]
    simp [step, Reading.atBoundary, Reading.step, ends, Reading.begin, Reading.value, move,
      endEntry, fail]
  | case3 c rest line token goesOn inductionHypothesis =>
    have others : c ≠ ',' ∧ c ≠ ';' := by
      simp only [endsToken, Bool.or_eq_true, beq_iff_eq, not_or] at goesOn
      exact ⟨goesOn.1.1.1.1, goesOn.1.1.1.2⟩
    rw [← inductionHypothesis, scan_cons]
    simp [step, Reading.step, goesOn, others, move]

theorem scan_readFields (cur : Cursor) :
    scan ⟨sections, cur.line, .fields keyword entryLine fields ⟨strings, token, .blank⟩⟩
        cur.chars =
      match readFields keyword entryLine fields strings token cur with
      | .error refused => .error refused
      | .ok (entry, after) =>
        (endEntry ⟨sections, after.line, .between⟩ entry).scan after.chars := by
  fun_induction readFields keyword entryLine fields strings token cur with
  | case1 fields strings token cur line blank =>
    rw [scan_field_blank, blank]
    rfl
  | case2 fields strings token cur rest line refused failed blank =>
    rw [scan_field_blank, blank]
    have reads := scan_readString sections keyword entryLine fields token rest line
      (strings.getD [])
    rw [failed] at reads
    exact reads
  | case3 fields strings token cur rest line text behind closed blank inductionHypothesis =>
    have reads := scan_readString sections keyword entryLine fields token rest line
      (strings.getD [])
    rw [closed] at reads
    rw [scan_field_blank, blank, ← inductionHypothesis]
    exact reads
  | case4 fields strings token cur rest line blank notQuote inductionHypothesis =>
    rw [scan_field_blank, blank, ← inductionHypothesis]
    rfl
  | case5 fields strings token cur rest line blank notQuote notComma =>
    rw [scan_field_blank, blank]
    rfl
  | case6 fields strings token cur c rest line blank notQuote notComma notSemicolon
      inductionHypothesis =>
    obtain ⟨notComment, notBlank⟩ := head_of_skipBlank blank
    rw [scan_field_blank, blank, ← inductionHypothesis, ← scan_readToken, scan_cons]
    simp only [step, notComma, notSemicolon, and_false, if_false, Reading.step, Reading.begin,
      if_neg notComment, if_neg notBlank, if_neg notQuote, move]

theorem scan_parseEntry {c : Char} (rest : List Char) (line : Nat)
    (notBlank : c ≠ '$' ∧ ¬ Text.isWhitespace c = true) (notBracket : ¬ c = '[') :
    scan ⟨sections, line, .between⟩ (c :: rest) =
      match parseEntry ⟨c :: rest, line⟩ line with
      | .error refused => .error refused
      | .ok (entry, after) =>
        (endEntry ⟨sections, after.line, .between⟩ entry).scan after.chars := by
  have opens : scan ⟨sections, line, .between⟩ (c :: rest) =
      scan ⟨sections, line, .keyword line []⟩ (c :: rest) := by
    rw [scan_cons, scan_cons]
    simp only [step, if_neg notBlank.1, if_neg notBlank.2, if_neg notBracket, stepKeyword, move,
      fail]
  rw [opens, scan_readKeyword, parseEntry]
  cases readKeyword (c :: rest) line [] with
  | error refused => rfl
  | ok read => exact scan_readFields sections (Text.trim read.1) line [] none [] read.2

theorem scan_parseSections (cur : Cursor) :
    scan ⟨sections, cur.line, .between⟩ cur.chars = parseSections sections cur := by
  fun_induction parseSections sections cur with
  | case1 sections cur line blank =>
    rw [scan_between, blank]
    rfl
  | case2 sections cur rest line refused failed blank =>
    have reads := scan_readName sections rest line []
    rw [failed] at reads
    rw [scan_between, blank]
    exact reads
  | case3 sections cur rest line name after closed blank inductionHypothesis =>
    have reads := scan_readName sections rest line []
    rw [closed] at reads
    rw [scan_between, blank, ← inductionHypothesis]
    exact reads
  | case4 sections cur c rest line blank notBracket refused failed =>
    rw [scan_between, blank, scan_parseEntry sections rest line (head_of_skipBlank blank)
      notBracket, failed]
  | case5 sections cur c rest line blank notBracket entry after read refused failed =>
    rw [scan_between, blank, scan_parseEntry sections rest line (head_of_skipBlank blank)
      notBracket, read]
    dsimp only
    rw [endEntry, failed, scan_fail]
  | case6 sections cur c rest line blank notBracket entry after read more pushed
      inductionHypothesis =>
    rw [scan_between, blank, scan_parseEntry sections rest line (head_of_skipBlank blank)
      notBracket, read]
    dsimp only
    rw [endEntry, pushed, ← inductionHypothesis]

end

end Scanner

/-- The scanner gives the same sections or the same error as the parser. -/
theorem parse_eq_scan (text : List Char) : parse text = Scanner.start.scan text :=
  (Scanner.scan_parseSections [] ⟨text, 1⟩).symm

end EipScanner.Parse
