/-
This file prints sections as an EDS text and parses them back. A printed text has a section
header before the entries of each section, an equals sign behind a keyword, commas between the
fields of an entry and a semicolon behind them. Strings are quoted, and may be cut into pieces.
White space and comments may stand before headers and entries and around each field and piece.

What can be printed carries the conditions on it: a name has no closing bracket, a keyword no
equals sign, a token nothing that ends one. Each part of a printed text moves the scanner in one
way, whatever is in it, and the parts are put together by folding over one after the other. So the
parser gives back the sections that were printed, and the line of each entry counts the newlines
before its keyword.
-/

import EipScanner.EdsScanner

namespace EipScanner.Parse

/-! ### Layout -/

/-- What only separates: a white space character, or a comment with the newline that ends it. -/
inductive Gap where
  | space (c : Char) (blank : Text.isWhitespace c = true)
  | comment (text : List Char) (oneLine : '\n' ∉ text)

abbrev Layout := List Gap

def Gap.chars : Gap → List Char
  | .space c _ => [c]
  | .comment text _ => '$' :: text ++ ['\n']

def Layout.chars (layout : Layout) : List Char := layout.flatMap Gap.chars

/-! ### What is printed -/

/-- The characters of a string, with a backslash before quotes and backslashes. -/
def escape (text : List Char) : List Char :=
  text.flatMap fun c => if c = '"' ∨ c = '\\' then ['\\', c] else [c]

def quoted (text : List Char) : List Char := '"' :: escape text ++ ['"']

/-- Text that can stand as a token. -/
structure TokenText where
  chars : List Char
  isSome : chars ≠ []
  trimmed : Text.trim chars = chars
  goesOn : ∀ c ∈ chars, endsToken c = false

/-- What stands between the layout around a field. A string is cut into pieces, with layout before
each piece but the first. -/
inductive FieldText where
  | empty
  | token (text : TokenText)
  | str (first : List Char) (more : List (Layout × List Char))

namespace FieldText

def field : FieldText → Field
  | .empty => .empty
  | .token text => .token text.chars
  | .str first more => .str (first ++ more.flatMap Prod.snd)

def chars : FieldText → List Char
  | .empty => []
  | .token text => text.chars
  | .str first more =>
    quoted first ++ more.flatMap fun piece => Layout.chars piece.1 ++ quoted piece.2

end FieldText

structure PrintedField where
  before : Layout
  text : FieldText
  after : Layout

def PrintedField.chars (printed : PrintedField) : List Char :=
  printed.before.chars ++ printed.text.chars ++ printed.after.chars

/-- A keyword, behind which an equals sign can stand. -/
structure KeywordText where
  chars : List Char
  trimmed : Text.trim chars = chars
  noComment : chars.head? ≠ some '$'
  placed : ∀ c ∈ chars, c ≠ '=' ∧ ¬ (c = ';' ∨ c = '[' ∨ c = '"' ∨ c = ',')

structure PrintedEntry where
  before : Layout
  keyword : KeywordText
  first : PrintedField
  more : List PrintedField

namespace PrintedEntry

def chars (printed : PrintedEntry) : List Char :=
  printed.before.chars ++ printed.keyword.chars ++ '=' :: printed.first.chars ++
    printed.more.flatMap (fun field => ',' :: field.chars) ++ [';']

/-- The entry, printed behind a text. -/
def entry (printed : PrintedEntry) (earlier : List Char) : Entry where
  keyword := printed.keyword.chars
  fields := (printed.first :: printed.more).map fun field => field.text.field
  line := 1 + (earlier ++ printed.before.chars).count '\n'

end PrintedEntry

/-- The entries, printed one after the other behind a text. -/
def entriesBehind (earlier : List Char) : List PrintedEntry → List Entry
  | [] => []
  | printed :: rest => printed.entry earlier :: entriesBehind (earlier ++ printed.chars) rest

/-- A section name, behind which a closing bracket can stand. -/
structure NameText where
  chars : List Char
  trimmed : Text.trim chars = chars
  inLine : ∀ c ∈ chars, c ≠ ']' ∧ c ≠ '\n'

structure PrintedSection where
  before : Layout
  name : NameText
  entries : List PrintedEntry

namespace PrintedSection

def header (printed : PrintedSection) : List Char :=
  printed.before.chars ++ '[' :: printed.name.chars ++ [']']

def chars (printed : PrintedSection) : List Char :=
  printed.header ++ printed.entries.flatMap PrintedEntry.chars

/-- The section, printed behind a text. -/
def «section» (printed : PrintedSection) (earlier : List Char) : Section where
  name := printed.name.chars
  entries := entriesBehind (earlier ++ printed.header) printed.entries

end PrintedSection

/-- The sections, printed one after the other behind a text. -/
def sectionsBehind (earlier : List Char) : List PrintedSection → List Section
  | [] => []
  | printed :: rest =>
    printed.section earlier :: sectionsBehind (earlier ++ printed.chars) rest

/-- A printed text, with layout at its end. -/
structure PrintedText where
  sections : List PrintedSection
  after : Layout

def PrintedText.chars (printed : PrintedText) : List Char :=
  printed.sections.flatMap PrintedSection.chars ++ printed.after.chars

/-! ### Lines -/

/-- The line behind a text. -/
def lineBehind (line : Nat) (text : List Char) : Nat := text.foldl nextLine line

theorem lineBehind_eq (line : Nat) (text : List Char) :
    lineBehind line text = line + text.count '\n' := by
  induction text generalizing line with
  | nil => rfl
  | cons c rest inductionHypothesis =>
    rw [lineBehind, List.foldl_cons, ← lineBehind, inductionHypothesis, List.count_cons, nextLine]
    by_cases newline : c = '\n'
    · simp only [newline, if_true, beq_self_eq_true]
      omega
    · simp [newline]

theorem lineBehind_append (line : Nat) (first second : List Char) :
    lineBehind line (first ++ second) = lineBehind (lineBehind line first) second :=
  List.foldl_append

/-- Reading a part of a text leaves the scanner with sections and in a mode, on the line behind the
part. -/
def Scanner.Moves (scanner : Scanner) (part : List Char) (sections : List Section) (mode : Mode) :
    Prop :=
  part.foldl Scanner.step scanner = ⟨sections, lineBehind scanner.line part, mode⟩

namespace Scanner.Moves

theorem nil (scanner : Scanner) : scanner.Moves [] scanner.sections scanner.mode := rfl

theorem append {scanner : Scanner} {first second : List Char} {sections after : List Section}
    {mode last : Mode} (moves : scanner.Moves first sections mode)
    (behind : Scanner.Moves ⟨sections, lineBehind scanner.line first, mode⟩ second after last) :
    scanner.Moves (first ++ second) after last := by
  rw [Scanner.Moves, List.foldl_append, moves, behind, lineBehind_append]

theorem cons {scanner : Scanner} {c : Char} {rest : List Char} {sections after : List Section}
    {mode last : Mode} (step : scanner.step c = ⟨sections, nextLine scanner.line c, mode⟩)
    (behind : Scanner.Moves ⟨sections, nextLine scanner.line c, mode⟩ rest after last) :
    scanner.Moves (c :: rest) after last :=
  @append scanner [c] rest sections after mode last step behind

end Scanner.Moves

/-! ### Layout between entries -/

theorem notComment_of_blank {c : Char} (blank : Text.isWhitespace c = true) : c ≠ '$' := by
  rintro rfl
  exact absurd blank (by decide)

theorem moves_comment (sections : List Section) {text : List Char} (oneLine : '\n' ∉ text)
    (line : Nat) : Scanner.Moves ⟨sections, line, .comment⟩ text sections .comment := by
  induction text generalizing line with
  | nil => exact .nil _
  | cons c rest inductionHypothesis =>
    have goesOn : c ≠ '\n' := fun newline => oneLine (newline ▸ List.mem_cons_self)
    refine .cons ?_ (inductionHypothesis (fun member => oneLine (List.mem_cons_of_mem c member)) _)
    simp only [Scanner.step, Scanner.move, if_neg goesOn]

theorem moves_gap (sections : List Section) (line : Nat) (gap : Gap) :
    Scanner.Moves ⟨sections, line, .between⟩ gap.chars sections .between := by
  cases gap with
  | space c blank =>
    refine .cons ?_ (.nil _)
    simp only [Scanner.step, if_neg (notComment_of_blank blank), if_pos blank, Scanner.move]
  | comment text oneLine =>
    exact .cons rfl ((moves_comment sections oneLine _).append (.cons rfl (.nil _)))

theorem moves_layout (sections : List Section) (line : Nat) (layout : Layout) :
    Scanner.Moves ⟨sections, line, .between⟩ layout.chars sections .between := by
  induction layout generalizing line with
  | nil => exact .nil _
  | cons gap rest inductionHypothesis =>
    rw [Layout.chars, List.flatMap_cons]
    exact (moves_gap sections line gap).append (inductionHypothesis _)

/-! ### Headers and keywords -/

theorem moves_name (sections : List Section) {name : List Char}
    (inLine : ∀ c ∈ name, c ≠ ']' ∧ c ≠ '\n') (line : Nat) (read : List Char) :
    Scanner.Moves ⟨sections, line, .header read⟩ name sections (.header (read ++ name)) := by
  induction name generalizing line read with
  | nil =>
    rw [List.append_nil]
    exact .nil _
  | cons c rest inductionHypothesis =>
    obtain ⟨⟨notBracket, notNewline⟩, others⟩ := List.forall_mem_cons.mp inLine
    have behind := inductionHypothesis others (nextLine line c) (read ++ [c])
    rw [List.append_assoc] at behind
    refine .cons ?_ behind
    simp only [Scanner.step, if_neg notBracket, if_neg notNewline, Scanner.move]

theorem moves_header (sections : List Section) (line : Nat) (printed : PrintedSection) :
    Scanner.Moves ⟨sections, line, .between⟩ printed.header
      (sections ++ [⟨printed.name.chars, []⟩]) .between := by
  rw [PrintedSection.header, List.append_assoc]
  refine (moves_layout sections line printed.before).append ?_
  refine .cons rfl ((moves_name sections printed.name.inLine _ []).append ?_)
  refine .cons ?_ (.nil _)
  simp only [Scanner.step, if_true, List.nil_append, printed.name.trimmed]
  rfl

/-- The first character of a keyword. -/
theorem moves_of_keyword {sections after : List Section} {line : Nat} {part : List Char}
    {mode : Mode} (begins : ∀ c ∈ part.head?, c ≠ '$' ∧ Text.isWhitespace c = false ∧ c ≠ '[')
    (isSome : part ≠ [])
    (moves : Scanner.Moves ⟨sections, line, .keyword line []⟩ part after mode) :
    Scanner.Moves ⟨sections, line, .between⟩ part after mode := by
  cases part with
  | nil => exact absurd rfl isSome
  | cons c rest =>
    obtain ⟨notComment, visible, notBracket⟩ := begins c rfl
    have same : Scanner.step ⟨sections, line, .between⟩ c =
        Scanner.step ⟨sections, line, .keyword line []⟩ c := by
      simp only [Scanner.step, if_neg notComment, visible, Bool.false_eq_true, if_false,
        if_neg notBracket, Scanner.stepKeyword, Scanner.move, Scanner.fail]
    rw [Scanner.Moves, List.foldl_cons, same]
    exact moves

theorem moves_keywordText (sections : List Section) (entryLine : Nat) {text : List Char}
    (placed : ∀ c ∈ text, c ≠ '=' ∧ ¬ (c = ';' ∨ c = '[' ∨ c = '"' ∨ c = ',')) (line : Nat)
    (read : List Char) :
    Scanner.Moves ⟨sections, line, .keyword entryLine read⟩ text sections
      (.keyword entryLine (read ++ text)) := by
  induction text generalizing line read with
  | nil =>
    rw [List.append_nil]
    exact .nil _
  | cons c rest inductionHypothesis =>
    obtain ⟨⟨notEquals, isPlaced⟩, others⟩ := List.forall_mem_cons.mp placed
    have behind := inductionHypothesis others (nextLine line c) (read ++ [c])
    rw [List.append_assoc] at behind
    refine .cons ?_ behind
    simp only [Scanner.step, Scanner.stepKeyword, if_neg notEquals, if_neg isPlaced, Scanner.move]

/-- A keyword and its equals sign. -/
theorem moves_keyword (sections : List Section) (line : Nat) (keyword : KeywordText) :
    Scanner.Moves ⟨sections, line, .between⟩ (keyword.chars ++ ['=']) sections
      (.fields keyword.chars line [] .start) := by
  refine moves_of_keyword ?_ (List.append_ne_nil_of_right_ne_nil _ (List.cons_ne_nil _ _)) ?_
  · intro c isFirst
    cases chars : keyword.chars with
    | nil =>
      rw [chars] at isFirst
      obtain rfl : '=' = c := Option.some.inj isFirst
      exact ⟨by decide, rfl, by decide⟩
    | cons first rest =>
      rw [chars] at isFirst
      obtain rfl : first = c := Option.some.inj isFirst
      have member : first ∈ keyword.chars := chars ▸ List.mem_cons_self
      refine ⟨?_, Text.head_visible keyword.trimmed first (by rw [chars]; rfl), ?_⟩
      · rintro rfl
        exact keyword.noComment (by rw [chars]; rfl)
      · exact fun bracket => (keyword.placed first member).2 (.inr (.inl bracket))
  · refine (moves_keywordText sections line keyword.placed line []).append (.cons ?_ (.nil _))
    simp only [Scanner.step, Scanner.stepKeyword, if_true, Scanner.move, List.nil_append,
      keyword.trimmed]

/-! ### Fields -/

/-- Reading a part of a field, in which nothing ends the field or the entry. -/
def Reading.Passes (reading : Reading) : List Char → Reading → Prop
  | [], after => reading = after
  | c :: rest, after =>
    ¬ (reading.atBoundary = true ∧ (c = ',' ∨ c = ';')) ∧ (reading.step c).Passes rest after

namespace Reading.Passes

theorem append {reading middle after : Reading} {first second : List Char}
    (passes : reading.Passes first middle) (behind : middle.Passes second after) :
    reading.Passes (first ++ second) after := by
  induction first generalizing reading with
  | nil =>
    obtain rfl : reading = middle := passes
    exact behind
  | cons c rest inductionHypothesis => exact ⟨passes.1, inductionHypothesis passes.2⟩

end Reading.Passes

/-- In the fields of an entry the scanner does what the reading of the field does. -/
theorem moves_of_passes {reading after : Reading} {part : List Char}
    (passes : reading.Passes part after) (sections : List Section) (line : Nat)
    (keyword : List Char) (entryLine : Nat) (fields : List Field) :
    Scanner.Moves ⟨sections, line, .fields keyword entryLine fields reading⟩ part sections
      (.fields keyword entryLine fields after) := by
  induction part generalizing reading line with
  | nil =>
    obtain rfl : reading = after := passes
    exact .nil _
  | cons c rest inductionHypothesis =>
    refine .cons ?_ (inductionHypothesis passes.2 _)
    obtain ⟨notComma, notSemicolon⟩ := not_or.mp (and_or_left.not.mp passes.1)
    simp only [Scanner.step, if_neg notComma, if_neg notSemicolon, Scanner.move]

section
variable (strings : Option (List Char)) (token : List Char)

theorem passes_comment {text : List Char} (oneLine : '\n' ∉ text) :
    Reading.Passes ⟨strings, token, .comment⟩ text ⟨strings, token, .comment⟩ := by
  induction text with
  | nil => rfl
  | cons c rest inductionHypothesis =>
    have goesOn : c ≠ '\n' := fun newline => oneLine (newline ▸ List.mem_cons_self)
    refine ⟨fun ends => Bool.false_ne_true ends.1, ?_⟩
    simp only [Reading.step, if_neg goesOn]
    exact inductionHypothesis fun member => oneLine (List.mem_cons_of_mem c member)

/-- White space ends neither a field nor an entry. -/
theorem not_ends_of_blank {reading : Reading} {c : Char} (blank : Text.isWhitespace c = true) :
    ¬ (reading.atBoundary = true ∧ (c = ',' ∨ c = ';')) := by
  rintro ⟨-, rfl | rfl⟩
  · exact absurd blank (by decide)
  · exact absurd blank (by decide)

theorem passes_gap (gap : Gap) :
    Reading.Passes ⟨strings, token, .blank⟩ gap.chars ⟨strings, token, .blank⟩ := by
  cases gap with
  | space c blank =>
    refine ⟨not_ends_of_blank blank, ?_⟩
    simp only [Reading.step, Reading.begin, if_neg (notComment_of_blank blank), if_pos blank]
    rfl
  | comment text oneLine =>
    refine ⟨fun ends => absurd ends.2 (by decide), ?_⟩
    exact (passes_comment strings token oneLine).append
      ⟨fun ends => Bool.false_ne_true ends.1, rfl⟩

theorem passes_layout (layout : Layout) :
    Reading.Passes ⟨strings, token, .blank⟩ layout.chars ⟨strings, token, .blank⟩ := by
  induction layout with
  | nil => rfl
  | cons gap rest inductionHypothesis =>
    rw [Layout.chars, List.flatMap_cons]
    exact (passes_gap strings token gap).append inductionHypothesis

theorem passes_escape (read text : List Char) :
    Reading.Passes ⟨some read, token, .string⟩ (escape text)
      ⟨some (read ++ text), token, .string⟩ := by
  induction text generalizing read with
  | nil =>
    rw [List.append_nil]
    rfl
  | cons c rest inductionHypothesis =>
    have behind := inductionHypothesis (read ++ [c])
    rw [List.append_assoc] at behind
    rw [escape, List.flatMap_cons]
    refine Reading.Passes.append ?_ behind
    by_cases special : c = '"' ∨ c = '\\'
    · rw [if_pos special]
      refine ⟨fun ends => Bool.false_ne_true ends.1, fun ends => Bool.false_ne_true ends.1, ?_⟩
      rcases special with rfl | rfl <;> rfl
    · obtain ⟨notQuote, notBackslash⟩ := not_or.mp special
      rw [if_neg special]
      refine ⟨fun ends => Bool.false_ne_true ends.1, ?_⟩
      simp only [Reading.step, if_neg notQuote, if_neg notBackslash]
      rfl

theorem passes_quoted (text : List Char) :
    Reading.Passes ⟨strings, token, .blank⟩ (quoted text)
      ⟨some (strings.getD [] ++ text), token, .blank⟩ := by
  refine ⟨fun ends => absurd ends.2 (by decide), ?_⟩
  exact (passes_escape token (strings.getD []) text).append
    ⟨fun ends => Bool.false_ne_true ends.1, rfl⟩

/-- The pieces of a string behind the first. -/
theorem passes_pieces (read : List Char) (more : List (Layout × List Char)) :
    Reading.Passes ⟨some read, token, .blank⟩
      (more.flatMap fun piece => Layout.chars piece.1 ++ quoted piece.2)
      ⟨some (read ++ more.flatMap Prod.snd), token, .blank⟩ := by
  induction more generalizing read with
  | nil =>
    rw [List.flatMap_nil, List.flatMap_nil, List.append_nil]
    rfl
  | cons piece rest inductionHypothesis =>
    have behind := inductionHypothesis (read ++ piece.2)
    rw [List.append_assoc] at behind
    rw [List.flatMap_cons, List.flatMap_cons]
    exact ((passes_layout (some read) token piece.1).append
      (passes_quoted (some read) token piece.2)).append behind

theorem passes_word {text : List Char} (goesOn : ∀ c ∈ text, endsToken c = false) :
    Reading.Passes ⟨strings, token, .word⟩ text ⟨strings, token ++ text, .word⟩ := by
  induction text generalizing token with
  | nil =>
    rw [List.append_nil]
    rfl
  | cons c rest inductionHypothesis =>
    obtain ⟨here, others⟩ := List.forall_mem_cons.mp goesOn
    have behind := inductionHypothesis (token ++ [c]) others
    rw [List.append_assoc] at behind
    refine ⟨?_, ?_⟩
    · rintro ⟨-, rfl | rfl⟩
      · exact absurd here (by decide)
      · exact absurd here (by decide)
    · simp only [Reading.step, here, Bool.false_eq_true, if_false]
      exact behind

/-- Layout behind a word: the blanks up to a newline or a comment go into the token. -/
theorem passes_layout_of_word (layout : Layout) :
    ∃ blanks place, (∀ c ∈ blanks, Text.isWhitespace c = true) ∧
      (place = Place.blank ∨ place = Place.word) ∧
      Reading.Passes ⟨strings, token, .word⟩ layout.chars ⟨strings, token ++ blanks, place⟩ := by
  induction layout generalizing token with
  | nil =>
    refine ⟨[], .word, nofun, .inr rfl, ?_⟩
    rw [List.append_nil]
    rfl
  | cons gap rest inductionHypothesis =>
    rw [Layout.chars, List.flatMap_cons]
    cases gap with
    | space c blank =>
      cases ends : endsToken c with
      | true =>
        refine ⟨[], .blank, nofun, .inl rfl, ?_⟩
        rw [List.append_nil]
        refine Reading.Passes.append ⟨not_ends_of_blank blank, ?_⟩
          (passes_layout strings token rest)
        simp only [Reading.step, ends, if_true, Reading.begin, if_neg (notComment_of_blank blank),
          if_pos blank]
        rfl
      | false =>
        obtain ⟨blanks, place, areBlank, isPlace, passes⟩ := inductionHypothesis (token ++ [c])
        refine ⟨c :: blanks, place, List.forall_mem_cons.mpr ⟨blank, areBlank⟩, isPlace, ?_⟩
        rw [List.append_assoc] at passes
        refine Reading.Passes.append ⟨not_ends_of_blank blank, ?_⟩ passes
        simp only [Reading.step, ends, Bool.false_eq_true, if_false]
        rfl
    | comment text oneLine =>
      refine ⟨[], .blank, nofun, .inl rfl, ?_⟩
      rw [List.append_nil]
      refine Reading.Passes.append ⟨fun ends => absurd ends.2 (by decide), ?_⟩
        (passes_layout strings token rest)
      exact (passes_comment strings token oneLine).append
        ⟨fun ends => Bool.false_ne_true ends.1, rfl⟩

end

/-- A printed field is read to its end. -/
theorem passes_field (printed : PrintedField) :
    ∃ reading, Reading.Passes .start printed.chars reading ∧ reading.atBoundary = true ∧
      reading.value = printed.text.field := by
  obtain ⟨before, text, after⟩ := printed
  have opens := passes_layout none [] before
  cases text with
  | empty =>
    refine ⟨⟨none, [], .blank⟩, ?_, rfl, rfl⟩
    rw [PrintedField.chars, FieldText.chars, List.append_nil]
    exact opens.append (passes_layout none [] after)
  | str first more =>
    refine ⟨⟨some (first ++ more.flatMap Prod.snd), [], .blank⟩, ?_, rfl, rfl⟩
    refine (opens.append ?_).append (passes_layout _ [] after)
    exact (passes_quoted none [] first).append (passes_pieces [] first more)
  | token text =>
    obtain ⟨chars, isSome, trimmed, goesOn⟩ := text
    cases chars with
    | nil => exact absurd rfl isSome
    | cons c rest =>
      obtain ⟨blanks, place, areBlank, isPlace, behind⟩ :=
        passes_layout_of_word none (c :: rest) after
      obtain ⟨placed, others⟩ := List.forall_mem_cons.mp goesOn
      have word := passes_word none [c] others
      have visible := Text.head_visible trimmed c rfl
      simp only [endsToken, Bool.or_eq_false_iff, beq_eq_false_iff_ne, ne_eq] at placed
      obtain ⟨⟨⟨⟨notComma, notSemicolon⟩, notQuote⟩, notComment⟩, -⟩ := placed
      have begins : Reading.Passes .start (c :: rest) ⟨none, c :: rest, .word⟩ := by
        refine ⟨fun ends => ends.2.elim notComma notSemicolon, ?_⟩
        simp only [Reading.step, Reading.start, Reading.begin, if_neg notComment, visible,
          Bool.false_eq_true, if_false, if_neg notQuote, List.nil_append]
        exact word
      refine ⟨⟨none, (c :: rest) ++ blanks, place⟩, (opens.append begins).append behind, ?_, ?_⟩
      · rcases isPlace with rfl | rfl <;> rfl
      · have whole := Text.trim_append_blanks trimmed isSome areBlank
        simp only [Reading.value, fieldOf, FieldText.field, whole, List.isEmpty_cons,
          Bool.false_eq_true, if_false]

/-! ### The whole text -/

section
variable (sections : List Section) (name : List Char) (entries : List Entry)

/-- The fields of an entry, and the semicolon that puts the entry at the end of its section. -/
theorem moves_fields (keyword : List Char) (entryLine line : Nat) (fields : List Field)
    (first : PrintedField) (more : List PrintedField) :
    Scanner.Moves ⟨sections ++ [⟨name, entries⟩], line, .fields keyword entryLine fields .start⟩
      (first.chars ++ more.flatMap (fun field => ',' :: field.chars) ++ [';'])
      (sections ++ [⟨name, entries ++
        [⟨keyword, fields ++ (first :: more).map fun field => field.text.field, entryLine⟩]⟩])
      .between := by
  obtain ⟨reading, passes, atBoundary, value⟩ := passes_field first
  have here := fun line fields => moves_of_passes passes (sections ++ [⟨name, entries⟩]) line
    keyword entryLine fields
  induction more generalizing first line fields reading with
  | nil =>
    rw [List.flatMap_nil, List.append_nil]
    refine (here line fields).append (.cons ?_ (.nil _))
    simp only [Scanner.step, atBoundary, true_and, if_true, Scanner.endEntry,
      pushEntry, List.getLast?_concat, List.dropLast_concat, value, List.map_cons, List.map_nil]
    rfl
  | cons next rest inductionHypothesis =>
    obtain ⟨nextReading, nextPasses, nextBoundary, nextValue⟩ := passes_field next
    have behind := inductionHypothesis (nextLine (lineBehind line first.chars) ',')
      (fields ++ [first.text.field]) next nextReading nextPasses nextBoundary nextValue
      fun line fields => moves_of_passes nextPasses _ line keyword entryLine fields
    rw [List.append_assoc fields, List.singleton_append] at behind
    rw [List.flatMap_cons, List.append_assoc, List.map_cons]
    refine (here line fields).append (.cons ?_ behind)
    simp only [Scanner.step, atBoundary, true_and, if_true, Scanner.move, value]

/-- An entry, printed behind a text. -/
theorem moves_entry (earlier : List Char) (printed : PrintedEntry) :
    Scanner.Moves ⟨sections ++ [⟨name, entries⟩], lineBehind 1 earlier, .between⟩ printed.chars
      (sections ++ [⟨name, entries ++ [printed.entry earlier]⟩]) .between := by
  have line : lineBehind (lineBehind 1 earlier) printed.before.chars =
      1 + (earlier ++ printed.before.chars).count '\n' := by
    rw [← lineBehind_append, lineBehind_eq]
  have parts : printed.chars = printed.before.chars ++ ((printed.keyword.chars ++ ['=']) ++
      (printed.first.chars ++ printed.more.flatMap (fun field => ',' :: field.chars) ++
        [';'])) := by
    simp [PrintedEntry.chars]
  have opens := moves_keyword (sections ++ [⟨name, entries⟩])
    (lineBehind (lineBehind 1 earlier) printed.before.chars) printed.keyword
  have behind := (moves_layout _ _ printed.before).append (opens.append
    (moves_fields sections name entries printed.keyword.chars _ _ [] printed.first printed.more))
  rw [line] at behind
  rw [parts]
  exact behind

theorem moves_entries (earlier : List Char) (printed : List PrintedEntry) :
    Scanner.Moves ⟨sections ++ [⟨name, entries⟩], lineBehind 1 earlier, .between⟩
      (printed.flatMap PrintedEntry.chars)
      (sections ++ [⟨name, entries ++ entriesBehind earlier printed⟩]) .between := by
  induction printed generalizing earlier entries with
  | nil =>
    rw [entriesBehind, List.append_nil]
    exact .nil _
  | cons first rest inductionHypothesis =>
    have behind := inductionHypothesis (entries ++ [first.entry earlier]) (earlier ++ first.chars)
    rw [List.append_assoc, lineBehind_append] at behind
    rw [List.flatMap_cons]
    exact (moves_entry sections name entries earlier first).append behind

theorem moves_section (earlier : List Char) (printed : PrintedSection) :
    Scanner.Moves ⟨sections, lineBehind 1 earlier, .between⟩ printed.chars
      (sections ++ [printed.section earlier]) .between := by
  have entries := moves_entries sections printed.name.chars [] (earlier ++ printed.header)
    printed.entries
  rw [lineBehind_append] at entries
  exact (moves_header sections _ printed).append entries

theorem moves_sections (earlier : List Char) (printed : List PrintedSection) :
    Scanner.Moves ⟨sections, lineBehind 1 earlier, .between⟩
      (printed.flatMap PrintedSection.chars) (sections ++ sectionsBehind earlier printed)
      .between := by
  induction printed generalizing earlier sections with
  | nil =>
    rw [sectionsBehind, List.append_nil]
    exact .nil _
  | cons first rest inductionHypothesis =>
    have behind := inductionHypothesis (sections ++ [first.section earlier])
      (earlier ++ first.chars)
    rw [List.append_assoc, lineBehind_append] at behind
    rw [List.flatMap_cons]
    exact (moves_section sections earlier first).append behind

end

/-- What is printed is read back: the sections with their names, the entries with their keywords,
fields and lines. -/
theorem parse_chars (printed : PrintedText) :
    parse printed.chars = .ok (sectionsBehind [] printed.sections) := by
  have moves := (moves_sections [] [] printed.sections).append
    (moves_layout _ _ printed.after)
  rw [parse_eq_scan, Scanner.scan, PrintedText.chars, Scanner.start]
  rw [Scanner.Moves] at moves
  exact congrArg Scanner.finish moves

end EipScanner.Parse
