/-
This file says when the `$` comments of an EDS text can be deleted without a change. What a
comment is, is said of the text alone: a dollar sign outside strings and section headers opens
one, and the end of the line closes it and is not part of it. Where the strings and headers are
follows from the characters before.

The parser takes a comment for blank space in every place but one. In a keyword it takes the
dollar sign, and what follows it, for a part of the keyword. So a text without a comment in a
keyword is parsed the same without its comments, on to the text of the error; and a text with one
is rejected, or the keyword is another one.
-/

import EipScanner.EdsScanner

namespace EipScanner.Parse

/-! ### Comments -/

/-- What the characters of a text stand in, apart from comments. -/
inductive Context where
  | between
  | header
  | keyword
  | fields
  | string
  | escape
  deriving DecidableEq, Repr

namespace Context

/-- The context behind a character. -/
def next (context : Context) (c : Char) : Context :=
  match context with
  | .between =>
    if Text.isWhitespace c then .between
    else if c = '[' then .header
    else if c = '=' then .fields
    else .keyword
  | .header => if c = ']' then .between else .header
  | .keyword => if c = '=' then .fields else .keyword
  | .fields => if c = ';' then .between else if c = '"' then .string else .fields
  | .string => if c = '"' then .fields else if c = '\\' then .escape else .string
  | .escape => .string

/-- A dollar sign opens a comment in a context. Whether it does in a keyword is left open. -/
def commentable (inKeywords : Bool) : Context → Bool
  | .between => true
  | .keyword => inKeywords
  | .fields => true
  | _ => false

end Context

/-- A place in a text: what it stands in, and whether in a comment there. -/
structure Position where
  context : Context
  comment : Bool
  deriving DecidableEq, Repr

namespace Position

def start : Position := ⟨.between, false⟩

def next (inKeywords : Bool) (position : Position) (c : Char) : Position :=
  if position.comment then ⟨position.context, decide (c ≠ '\n')⟩
  else if c = '$' ∧ position.context.commentable inKeywords then ⟨position.context, true⟩
  else ⟨position.context.next c, false⟩

end Position

/-- Delete the comments of a text from a position on. -/
def strip (inKeywords : Bool) : Position → List Char → List Char
  | _, [] => []
  | position, c :: rest =>
    if (position.next inKeywords c).comment then strip inKeywords (position.next inKeywords c) rest
    else c :: strip inKeywords (position.next inKeywords c) rest

/-- A text without its comments. -/
def withoutComments (text : List Char) : List Char := strip true .start text

/-- A comment opens in a keyword. -/
def KeywordComment (position : Position) (text : List Char) : Prop :=
  ∃ before after, text = before ++ '$' :: after ∧
    before.foldl (Position.next true) position = ⟨.keyword, false⟩

theorem keywordComment_cons {position : Position} {c : Char} {rest : List Char} :
    KeywordComment position (c :: rest) ↔
      c = '$' ∧ position = ⟨.keyword, false⟩ ∨ KeywordComment (position.next true c) rest := by
  constructor
  · rintro ⟨before, after, split, reached⟩
    cases before with
    | nil =>
      obtain ⟨rfl, -⟩ := List.cons.inj split
      exact .inl ⟨rfl, reached⟩
    | cons first before =>
      obtain ⟨rfl, rfl⟩ := List.cons.inj split
      exact .inr ⟨before, after, rfl, reached⟩
  · rintro (⟨rfl, rfl⟩ | ⟨before, after, rfl, reached⟩)
    · exact ⟨[], rest, rfl, rfl⟩
    · exact ⟨c :: before, after, rfl, reached⟩

/-! ### The scanner keeps the position -/

/-- The position of a place in a field. -/
def Place.position : Place → Position
  | .blank => ⟨.fields, false⟩
  | .comment => ⟨.fields, true⟩
  | .word => ⟨.fields, false⟩
  | .string => ⟨.string, false⟩
  | .escape => ⟨.escape, false⟩

/-- The position that the scanner takes itself to be in. -/
def Mode.position : Mode → Option Position
  | .between => some ⟨.between, false⟩
  | .comment => some ⟨.between, true⟩
  | .header _ => some ⟨.header, false⟩
  | .keyword _ _ => some ⟨.keyword, false⟩
  | .fields _ _ _ reading => some reading.place.position
  | .failed _ => none

theorem position_begin (reading : Reading) {c : Char} (inKeywords : Bool) (goesOn : c ≠ ';') :
    (reading.begin c).place.position = (⟨.fields, false⟩ : Position).next inKeywords c := by
  unfold Reading.begin
  by_cases comment : c = '$'
  · subst comment
    rfl
  by_cases quote : c = '"'
  · subst quote
    rfl
  rw [if_neg comment, if_neg quote]
  simp only [Position.next, comment, Context.next, goesOn, quote, Bool.false_eq_true, if_false,
    false_and]
  split <;> rfl

theorem position_of_atBoundary {reading : Reading} (boundary : reading.atBoundary = true) :
    reading.place.position = ⟨.fields, false⟩ := by
  obtain ⟨strings, token, place⟩ := reading
  cases place with
  | blank => rfl
  | word => rfl
  | comment => exact absurd boundary Bool.false_ne_true
  | string => exact absurd boundary Bool.false_ne_true
  | escape => exact absurd boundary Bool.false_ne_true

/-- A character that ends neither the field nor the entry. -/
theorem position_step {reading : Reading} {c : Char} (inKeywords : Bool)
    (goesOn : reading.atBoundary = true → c ≠ ';') :
    (reading.step c).place.position = reading.place.position.next inKeywords c := by
  obtain ⟨strings, token, place⟩ := reading
  cases place with
  | blank => exact position_begin _ inKeywords (goesOn rfl)
  | comment =>
    by_cases newline : c = '\n'
    · subst newline
      rfl
    · simp [Reading.step, Place.position, Position.next, newline]
  | word =>
    cases ends : endsToken c with
    | true =>
      simp only [Reading.step, ends, if_true]
      exact position_begin _ inKeywords (goesOn rfl)
    | false =>
      have others : c ≠ ',' ∧ c ≠ ';' ∧ c ≠ '"' ∧ c ≠ '$' := by
        simp only [endsToken, Bool.or_eq_false_iff, beq_eq_false_iff_ne] at ends
        exact ⟨ends.1.1.1.1, ends.1.1.1.2, ends.1.1.2, ends.1.2⟩
      simp [Reading.step, ends, Place.position, Position.next, Context.next, others]
  | string =>
    by_cases quote : c = '"'
    · subst quote
      rfl
    · by_cases backslash : c = '\\'
      · subst backslash
        rfl
      · simp [Reading.step, Reading.push, Place.position, Position.next, Context.next,
          Context.commentable, quote, backslash]
  | escape =>
    simp [Reading.step, Reading.push, Place.position, Position.next, Context.next,
      Context.commentable]

/-- A scanner that has not failed is in a position. -/
def Scanner.At (scanner : Scanner) (position : Position) : Prop :=
  (∃ refused, scanner.mode = .failed refused) ∨ scanner.mode.position = some position

theorem at_stepKeyword {scanner : Scanner} {line : Nat} {text : List Char} {c : Char}
    {inKeywords : Bool} (notComment : ¬ (inKeywords = true ∧ c = '$')) :
    (scanner.stepKeyword line text c).At ((⟨.keyword, false⟩ : Position).next inKeywords c) := by
  unfold Scanner.stepKeyword
  by_cases equals : c = '='
  · subst equals
    exact .inr rfl
  rw [if_neg equals]
  split
  · exact .inl ⟨_, rfl⟩
  · right
    have next : (⟨.keyword, false⟩ : Position).next inKeywords c = ⟨.keyword, false⟩ := by
      simp only [Position.next, Context.commentable, Context.next, equals, Bool.false_eq_true,
        if_false, ite_eq_right_iff]
      exact fun opens => absurd ⟨opens.2, opens.1⟩ notComment
    rw [next]
    rfl

/-- The scanner keeps the position, except where a comment opens in a keyword. -/
theorem at_step {scanner : Scanner} {position : Position} {c : Char} {inKeywords : Bool}
    (here : scanner.At position)
    (notComment : ¬ (inKeywords = true ∧ c = '$' ∧ position = ⟨.keyword, false⟩)) :
    (scanner.step c).At (position.next inKeywords c) := by
  obtain ⟨sections, line, mode⟩ := scanner
  rcases here with ⟨refused, failed⟩ | here
  · obtain rfl : mode = .failed refused := failed
    exact .inl ⟨refused, rfl⟩
  cases mode with
  | between =>
    obtain rfl := Option.some.inj here
    unfold Scanner.step
    dsimp only
    by_cases comment : c = '$'
    · subst comment
      exact .inr rfl
    rw [if_neg comment]
    by_cases blank : Text.isWhitespace c = true
    · rw [if_pos blank]
      right
      simp only [Position.next, comment, Context.next, blank, Bool.false_eq_true, if_false,
        false_and, if_true]
      rfl
    rw [if_neg blank]
    by_cases bracket : c = '['
    · subst bracket
      exact .inr rfl
    have next : Position.next inKeywords ⟨.between, false⟩ c =
        Position.next inKeywords ⟨.keyword, false⟩ c := by
      simp only [Position.next, comment, Context.next, blank, bracket, Bool.false_eq_true, if_false,
        false_and]
    rw [if_neg bracket, next]
    exact at_stepKeyword fun opens => comment opens.2
  | comment =>
    obtain rfl := Option.some.inj here
    right
    by_cases newline : c = '\n'
    · subst newline
      rfl
    · simp [Scanner.step, Scanner.move, newline, Mode.position, Position.next]
  | header name =>
    obtain rfl := Option.some.inj here
    unfold Scanner.step
    dsimp only
    by_cases bracket : c = ']'
    · subst bracket
      exact .inr rfl
    rw [if_neg bracket]
    split
    · exact .inl ⟨_, rfl⟩
    · right
      simp [Scanner.move, Mode.position, Position.next, Context.commentable, Context.next, bracket]
  | keyword entryLine text =>
    obtain rfl := Option.some.inj here
    exact at_stepKeyword fun opens => notComment ⟨opens.1, opens.2, rfl⟩
  | fields keyword entryLine fields reading =>
    obtain rfl := Option.some.inj here
    unfold Scanner.step
    dsimp only
    by_cases comma : reading.atBoundary = true ∧ c = ','
    · obtain ⟨boundary, rfl⟩ := comma
      rw [if_pos ⟨boundary, rfl⟩]
      right
      rw [position_of_atBoundary boundary]
      rfl
    rw [if_neg comma]
    by_cases semicolon : reading.atBoundary = true ∧ c = ';'
    · obtain ⟨boundary, rfl⟩ := semicolon
      rw [if_pos ⟨boundary, rfl⟩, Scanner.endEntry, position_of_atBoundary boundary]
      split
      · exact .inl ⟨_, rfl⟩
      · exact .inr rfl
    rw [if_neg semicolon]
    right
    exact congrArg some (position_step inKeywords fun boundary isSemicolon =>
      semicolon ⟨boundary, isSemicolon⟩)
  | failed refused => exact absurd here.symm (Option.some_ne_none _)

/-! ### Without the comments -/

theorem comment_next_iff {position : Position} {c : Char} {inKeywords : Bool} :
    (position.next inKeywords c).comment = true ↔
      position.comment = true ∧ c ≠ '\n' ∨
        position.comment = false ∧ c = '$' ∧ position.context.commentable inKeywords = true := by
  unfold Position.next
  cases position.comment with
  | true => simp
  | false =>
    by_cases opens : c = '$' ∧ position.context.commentable inKeywords = true
    · simp [opens]
    · simp [opens]

/-- Another scanner is as far as this one, but has read no comment: it is still in what the comment
stands in, and there it may be in a word. -/
inductive Mode.Follows : Mode → Mode → Prop where
  | same (mode : Mode) (noComment : ∀ position ∈ mode.position, position.comment = false) :
      Follows mode mode
  | between : Follows .comment .between
  | fields (keyword : List Char) (line : Nat) (fields : List Field) (strings : Option (List Char))
      (token : List Char) (place : Place) (inField : place = .blank ∨ place = .word) :
      Follows (.fields keyword line fields ⟨strings, token, .comment⟩)
        (.fields keyword line fields ⟨strings, token, place⟩)

structure Scanner.Follows (scanner other : Scanner) : Prop where
  sections : other.sections = scanner.sections
  line : other.line = scanner.line
  mode : scanner.mode.Follows other.mode

theorem finish_of_follows {scanner other : Scanner} (follows : scanner.Follows other) :
    other.finish = scanner.finish := by
  obtain ⟨sections, line, mode⟩ := scanner
  obtain ⟨otherSections, otherLine, otherMode⟩ := other
  obtain ⟨rfl, rfl, modes⟩ := follows
  cases modes with
  | same mode noComment => rfl
  | between => rfl
  | fields keyword entryLine fields strings token place inField =>
    rcases inField with rfl | rfl <;> rfl

theorem step_of_failed {scanner : Scanner} {refused : Error}
    (failed : scanner.mode = .failed refused) (c : Char) : scanner.step c = scanner := by
  rw [Scanner.step, failed]

/-- Behind a failed scanner there is only itself. -/
theorem eq_of_follows_failed {scanner other : Scanner} {refused : Error}
    (follows : scanner.Follows other) (failed : scanner.mode = .failed refused) :
    other = scanner := by
  obtain ⟨sections, line, mode⟩ := scanner
  obtain ⟨otherSections, otherLine, otherMode⟩ := other
  obtain ⟨rfl, rfl, modes⟩ := follows
  obtain rfl : mode = .failed refused := failed
  cases modes
  rfl

section
variable {scanner other : Scanner} {position : Position} {c : Char}
  (here : scanner.At position) (follows : scanner.Follows other)
  (outside : ¬ (c = '$' ∧ position = ⟨.keyword, false⟩))

include here follows outside

/-- A character of a comment leaves the other scanner behind. -/
theorem follows_of_comment (comment : (position.next true c).comment = true) :
    (scanner.step c).Follows other := by
  rcases here with ⟨refused, failed⟩ | here
  · rw [step_of_failed failed]
    exact follows
  obtain ⟨sections, line, mode⟩ := scanner
  obtain ⟨otherSections, otherLine, otherMode⟩ := other
  obtain ⟨rfl, rfl, modes⟩ := follows
  rcases comment_next_iff.mp comment with ⟨inComment, notNewline⟩ | ⟨noComment, rfl, opens⟩
  · cases modes with
    | same mode noComment =>
      exact absurd (noComment position here) (ne_of_eq_of_ne inComment (by simp))
    | between =>
      have still : Scanner.step ⟨otherSections, otherLine, .comment⟩ c =
          ⟨otherSections, otherLine, .comment⟩ := by
        simp only [Scanner.step, Scanner.move, nextLine, if_neg notNewline]
      rw [still]
      exact ⟨rfl, rfl, .between⟩
    | fields keyword entryLine fields strings token place inField =>
      have still : Scanner.step ⟨otherSections, otherLine,
            .fields keyword entryLine fields ⟨strings, token, .comment⟩⟩ c =
          ⟨otherSections, otherLine,
            .fields keyword entryLine fields ⟨strings, token, .comment⟩⟩ := by
        simp [Scanner.step, Scanner.move, nextLine, notNewline, Reading.atBoundary, Reading.step]
      rw [still]
      exact ⟨rfl, rfl, .fields keyword entryLine fields strings token place inField⟩
  · cases modes with
    | between =>
      obtain rfl := Option.some.inj here
      exact absurd noComment.symm Bool.false_ne_true
    | fields keyword entryLine fields strings token place inField =>
      obtain rfl := Option.some.inj here
      exact absurd noComment.symm Bool.false_ne_true
    | same mode noComment =>
      cases mode with
      | between => exact ⟨rfl, rfl, .between⟩
      | comment => exact absurd (noComment _ rfl).symm Bool.false_ne_true
      | header name =>
        obtain rfl := Option.some.inj here
        exact absurd opens Bool.false_ne_true
      | keyword entryLine text => exact absurd ⟨rfl, (Option.some.inj here).symm⟩ outside
      | fields keyword entryLine fields reading =>
        obtain ⟨strings, token, place⟩ := reading
        cases place with
        | blank => exact ⟨rfl, rfl, .fields keyword entryLine fields strings token _ (.inl rfl)⟩
        | comment => exact absurd (noComment _ rfl).symm Bool.false_ne_true
        | word => exact ⟨rfl, rfl, .fields keyword entryLine fields strings token _ (.inr rfl)⟩
        | string =>
          obtain rfl := Option.some.inj here
          exact absurd opens Bool.false_ne_true
        | escape =>
          obtain rfl := Option.some.inj here
          exact absurd opens Bool.false_ne_true
      | failed refused => exact absurd here.symm (Option.some_ne_none _)

/-- Both scanners read a character outside comments, and the end of the line that closes one. -/
theorem follows_step (noComment : (position.next true c).comment = false) :
    (scanner.step c).Follows (other.step c) := by
  have after : (scanner.step c).At (position.next true c) :=
    at_step here fun opens => outside opens.2
  rcases here with ⟨refused, failed⟩ | here
  · rw [eq_of_follows_failed follows failed, step_of_failed failed]
    exact eq_of_follows_failed follows failed ▸ follows
  have newline : position.comment = true → c = '\n' := by
    intro inComment
    by_contra goesOn
    have stays := (@comment_next_iff position c true).mpr (.inl ⟨inComment, goesOn⟩)
    exact Bool.false_ne_true (noComment.symm.trans stays)
  obtain ⟨sections, line, mode⟩ := scanner
  obtain ⟨otherSections, otherLine, otherMode⟩ := other
  obtain ⟨rfl, rfl, modes⟩ := follows
  cases modes with
  | same mode noCommentHere =>
    refine ⟨rfl, rfl, .same _ fun next isNext => ?_⟩
    rcases after with ⟨refused, failed⟩ | reached
    · rw [failed] at isNext
      exact absurd isNext nofun
    · obtain rfl := Option.some.inj (reached.symm.trans isNext)
      exact noComment
  | between =>
    obtain rfl := newline (Option.some.inj here ▸ rfl)
    exact ⟨rfl, rfl, .same _ fun next isNext => Option.some.inj isNext ▸ rfl⟩
  | fields keyword entryLine fields strings token place inField =>
    obtain rfl := newline (Option.some.inj here ▸ rfl)
    rcases inField with rfl | rfl
    · exact ⟨rfl, rfl, .same _ fun next isNext => Option.some.inj isNext ▸ rfl⟩
    · exact ⟨rfl, rfl, .same _ fun next isNext => Option.some.inj isNext ▸ rfl⟩

end

/-- From two scanners of which one follows the other, a text without a comment in a keyword is read
the same with and without its comments. -/
theorem scan_strip {scanner other : Scanner} {position : Position} {text : List Char}
    (here : scanner.At position) (follows : scanner.Follows other)
    (outside : ¬ KeywordComment position text) :
    other.scan (strip true position text) = scanner.scan text := by
  induction text generalizing scanner other position with
  | nil => exact finish_of_follows follows
  | cons c rest inductionHypothesis =>
    rw [keywordComment_cons, not_or] at outside
    have after : (scanner.step c).At (position.next true c) :=
      at_step here fun opens => outside.1 opens.2
    rw [strip, Scanner.scan_cons]
    cases comment : (position.next true c).comment with
    | true =>
      rw [if_pos rfl]
      exact inductionHypothesis after (follows_of_comment here follows outside.1 comment) outside.2
    | false =>
      rw [if_neg Bool.false_ne_true, Scanner.scan_cons]
      exact inductionHypothesis after (follows_step here follows outside.1 comment) outside.2

/-- A text without a comment in a keyword is parsed the same without its comments. -/
theorem parse_withoutComments {text : List Char} (outside : ¬ KeywordComment .start text) :
    parse (withoutComments text) = parse text := by
  rw [parse_eq_scan, parse_eq_scan]
  exact scan_strip (.inr rfl) ⟨rfl, rfl, .same _ fun _ isNext => Option.some.inj isNext ▸ rfl⟩
    outside

/-! ### Dollar signs in keywords -/

/-- The keyword that is being read, or whose fields are. -/
def Mode.keywordText : Mode → List Char
  | .keyword _ text => text
  | .fields ofFields _ _ _ => ofFields
  | _ => []

/-- A keyword of the sections has a dollar sign. -/
def DollarKeyword (sections : List Section) : Prop :=
  ∃ entry ∈ sections.flatMap Section.entries, '$' ∈ entry.keyword

/-- A keyword that was read so far has a dollar sign. -/
def Scanner.Dollar (scanner : Scanner) : Prop :=
  DollarKeyword scanner.sections ∨ '$' ∈ scanner.mode.keywordText

theorem entries_pushEntry {sections after : List Section} {entry : Entry} {line : Nat}
    (pushed : pushEntry sections entry line = .ok after) :
    after.flatMap Section.entries = sections.flatMap Section.entries ++ [entry] := by
  unfold pushEntry at pushed
  split at pushed
  · exact absurd pushed nofun
  next last isLast =>
    obtain rfl := Except.ok.inj pushed
    have whole : sections.dropLast ++ [last] = sections :=
      List.dropLast_append_getLast? last isLast
    rw [← whole]
    simp

theorem dollar_stepKeyword {scanner : Scanner} {line : Nat} {text : List Char} {c : Char}
    (goesOn : ∀ refused, (scanner.stepKeyword line text c).mode ≠ .failed refused) :
    (scanner.stepKeyword line text c).Dollar ↔
      DollarKeyword scanner.sections ∨ '$' ∈ text ∨ c = '$' := by
  unfold Scanner.stepKeyword at goesOn ⊢
  by_cases equals : c = '='
  · subst equals
    have trimmed : '$' ∈ Text.trim text ↔ '$' ∈ text :=
      ⟨Text.trim_mem, fun member => Text.mem_trim_of_not_whitespace member (by decide)⟩
    simp [Scanner.Dollar, Scanner.move, Mode.keywordText, trimmed]
  · rw [if_neg equals] at goesOn ⊢
    by_cases misplaced : c = ';' ∨ c = '[' ∨ c = '"' ∨ c = ','
    · rw [if_pos misplaced] at goesOn
      exact absurd rfl (goesOn _)
    · rw [if_neg misplaced]
      simp [Scanner.Dollar, Scanner.move, Mode.keywordText, eq_comm]

/-- A step brings a dollar sign into a keyword when it reads one there. -/
theorem dollar_step {scanner : Scanner} {c : Char}
    (goesOn : ∀ refused, (scanner.step c).mode ≠ .failed refused) :
    (scanner.step c).Dollar ↔
      scanner.Dollar ∨ c = '$' ∧ scanner.mode.position = some ⟨.keyword, false⟩ := by
  obtain ⟨sections, line, mode⟩ := scanner
  cases mode with
  | between =>
    by_cases comment : c = '$'
    · subst comment
      simp [Scanner.step, Scanner.move, Scanner.Dollar, Mode.keywordText, Mode.position]
    by_cases blank : Text.isWhitespace c = true
    · simp [Scanner.step, comment, blank, Scanner.move, Scanner.Dollar, Mode.keywordText]
    by_cases bracket : c = '['
    · subst bracket
      have opens : Scanner.step ⟨sections, line, .between⟩ '[' = ⟨sections, line, .header []⟩ := rfl
      simp [opens, Scanner.Dollar, Mode.keywordText]
    have begins : Scanner.step ⟨sections, line, .between⟩ c =
        Scanner.stepKeyword ⟨sections, line, .between⟩ line [] c := by
      simp only [Scanner.step, if_neg comment, if_neg blank, if_neg bracket]
    rw [begins] at goesOn ⊢
    rw [dollar_stepKeyword goesOn]
    simp [Scanner.Dollar, Mode.keywordText, comment]
  | comment =>
    by_cases newline : c = '\n' <;>
      simp [Scanner.step, newline, Scanner.move, Scanner.Dollar, Mode.keywordText, Mode.position]
  | header name =>
    by_cases bracket : c = ']'
    · simp [Scanner.step, bracket, Scanner.Dollar, DollarKeyword, Mode.keywordText]
    by_cases newline : c = '\n'
    · simp [Scanner.step, newline, Scanner.fail] at goesOn
    · simp [Scanner.step, bracket, newline, Scanner.move, Scanner.Dollar, Mode.keywordText,
        Mode.position]
  | keyword entryLine text =>
    have begins : Scanner.step ⟨sections, line, .keyword entryLine text⟩ c =
        Scanner.stepKeyword ⟨sections, line, .keyword entryLine text⟩ entryLine text c := rfl
    rw [begins] at goesOn ⊢
    rw [dollar_stepKeyword goesOn]
    simp [Scanner.Dollar, Mode.keywordText, Mode.position, or_assoc]
  | fields keyword entryLine fields reading =>
    have elsewhere : reading.place.position ≠ ⟨.keyword, false⟩ := by
      cases reading.place <;> decide
    by_cases comma : reading.atBoundary = true ∧ c = ','
    · simp [Scanner.step, comma, Scanner.move, Scanner.Dollar, Mode.keywordText]
    by_cases semicolon : reading.atBoundary = true ∧ c = ';'
    · have ends : Scanner.step ⟨sections, line, .fields keyword entryLine fields reading⟩ c =
          Scanner.endEntry ⟨sections, line, .fields keyword entryLine fields reading⟩
            ⟨keyword, fields ++ [reading.value], entryLine⟩ := by
        simp [Scanner.step, semicolon]
      rw [ends] at goesOn ⊢
      unfold Scanner.endEntry at goesOn ⊢
      split at goesOn
      next refused failed => exact absurd rfl (goesOn refused)
      next after pushed =>
        simp [Scanner.Dollar, DollarKeyword, entries_pushEntry pushed, Mode.keywordText,
          Mode.position, elsewhere, or_and_right, exists_or]
    · simp [Scanner.step, comma, semicolon, Scanner.move, Scanner.Dollar, Mode.keywordText,
        Mode.position, elsewhere]
  | failed refused => exact absurd rfl (goesOn refused)

theorem goesOn_of_scan {scanner : Scanner} {text : List Char} {sections : List Section}
    (accepted : scanner.scan text = .ok sections) :
    ∀ refused, scanner.mode ≠ .failed refused := by
  intro refused failed
  have same : scanner = scanner.fail refused := by rw [Scanner.fail, ← failed]
  rw [same, Scanner.scan_fail] at accepted
  exact absurd accepted (by simp)

/-- At the end of an accepted text the keywords are those of the sections. -/
theorem dollar_of_finish {scanner : Scanner} {sections : List Section}
    (accepted : scanner.finish = .ok sections) :
    scanner.Dollar ↔ DollarKeyword sections := by
  obtain ⟨rfl, ends⟩ := Scanner.finish_eq_ok accepted
  rcases ends with between | comment
  · simp [Scanner.Dollar, between, Mode.keywordText]
  · simp [Scanner.Dollar, comment, Mode.keywordText]

theorem dollarKeyword_of_scan {scanner : Scanner} {text : List Char} {sections : List Section}
    (accepted : scanner.scan text = .ok sections) (dollar : scanner.Dollar) :
    DollarKeyword sections := by
  induction text generalizing scanner with
  | nil => exact (dollar_of_finish accepted).mp dollar
  | cons c rest inductionHypothesis =>
    rw [Scanner.scan_cons] at accepted
    exact inductionHypothesis accepted
      ((dollar_step (goesOn_of_scan accepted)).mpr (.inl dollar))

/-- An accepted text with a comment in a keyword has a keyword with a dollar sign. -/
theorem dollarKeyword_of_keywordComment {scanner : Scanner} {position : Position}
    {text : List Char} {sections : List Section} (here : scanner.At position)
    (accepted : scanner.scan text = .ok sections) (inKeyword : KeywordComment position text) :
    DollarKeyword sections := by
  induction text generalizing scanner position with
  | nil =>
    obtain ⟨before, after, split, -⟩ := inKeyword
    exact absurd split (by simp)
  | cons c rest inductionHypothesis =>
    have goesOn := goesOn_of_scan accepted
    rw [Scanner.scan_cons] at accepted
    by_cases first : c = '$' ∧ position = ⟨.keyword, false⟩
    · obtain ⟨rfl, rfl⟩ := first
      have place := here.resolve_left fun ⟨refused, failed⟩ => goesOn refused failed
      exact dollarKeyword_of_scan accepted
        ((dollar_step (goesOn_of_scan accepted)).mpr (.inr ⟨rfl, place⟩))
    · exact inductionHypothesis (at_step here fun opens => first opens.2) accepted
        ((keywordComment_cons.mp inKeyword).resolve_left first)

/-- Inside a comment and where it opens, the context stays. -/
theorem next_of_comment {position : Position} {c : Char} {inKeywords : Bool}
    (comment : (position.next inKeywords c).comment = true) :
    position.next inKeywords c = ⟨position.context, true⟩ := by
  rcases comment_next_iff.mp comment with ⟨inside, goesOn⟩ | ⟨outside, opens⟩
  · simp [Position.next, inside, goesOn]
  · simp [Position.next, outside, opens]

/-- The end of a line closes a comment and keeps the context. -/
theorem next_newline {context : Context} {inKeywords : Bool}
    (commentable : context.commentable inKeywords = true) :
    (⟨context, false⟩ : Position).next inKeywords '\n' = ⟨context, false⟩ := by
  cases context with
  | between => rfl
  | keyword => rfl
  | fields => rfl
  | header => exact absurd commentable Bool.false_ne_true
  | string => exact absurd commentable Bool.false_ne_true
  | escape => exact absurd commentable Bool.false_ne_true

/-- A character outside comments is read as if no comment had been before. -/
theorem next_of_noComment {position : Position} {c : Char} {inKeywords : Bool}
    (inComment : position.comment = true → position.context.commentable inKeywords = true)
    (noComment : (position.next inKeywords c).comment = false) :
    (⟨position.context, false⟩ : Position).next inKeywords c = position.next inKeywords c := by
  obtain ⟨context, comment⟩ := position
  cases comment with
  | false => rfl
  | true =>
    have newline : c = '\n' := by
      by_contra goesOn
      have stays := (@comment_next_iff ⟨context, true⟩ c inKeywords).mpr (.inl ⟨rfl, goesOn⟩)
      exact Bool.false_ne_true (noComment.symm.trans stays)
    subst newline
    rw [next_newline (inComment rfl)]
    rfl

/-- Without its comments an accepted text has no keyword with a dollar sign. -/
theorem not_dollarKeyword_of_strip {scanner : Scanner} {position : Position}
    {text : List Char} {sections : List Section} (here : scanner.At ⟨position.context, false⟩)
    (inComment : position.comment = true → position.context.commentable true = true)
    (accepted : scanner.scan (strip true position text) = .ok sections)
    (clean : ¬ scanner.Dollar) : ¬ DollarKeyword sections := by
  induction text generalizing scanner position with
  | nil => exact fun dollar => clean ((dollar_of_finish accepted).mpr dollar)
  | cons c rest inductionHypothesis =>
    rw [strip] at accepted
    cases comment : (position.next true c).comment with
    | true =>
      rw [if_pos comment] at accepted
      have opened : position.context.commentable true = true :=
        (comment_next_iff.mp comment).elim (fun inside => inComment inside.1) fun opens => opens.2.2
      have next := next_of_comment comment
      exact inductionHypothesis (by rwa [next]) (fun _ => by rwa [next]) accepted clean
    | false =>
      rw [comment, if_neg Bool.false_ne_true] at accepted
      have goesOn := goesOn_of_scan accepted
      rw [Scanner.scan_cons] at accepted
      have same := next_of_noComment inComment comment
      have plain : ¬ (c = '$' ∧ (⟨position.context, false⟩ : Position) = ⟨.keyword, false⟩) := by
        rintro ⟨rfl, inKeyword⟩
        rw [← same, inKeyword] at comment
        exact absurd comment nofun
      have after := at_step here (fun opens : true = true ∧ _ => plain opens.2)
      have closed : position.next true c = ⟨(position.next true c).context, false⟩ := by
        rw [← comment]
      rw [same, closed] at after
      refine inductionHypothesis after (fun opens => absurd (comment.symm.trans opens) nofun)
        accepted fun dollar => ?_
      rcases (dollar_step (goesOn_of_scan accepted)).mp dollar with before | ⟨rfl, inKeyword⟩
      · exact clean before
      · have place := here.resolve_left fun ⟨refused, failed⟩ => goesOn refused failed
        exact plain ⟨rfl, Option.some.inj (place.symm.trans inKeyword)⟩

/-! ### Texts with and without their comments -/

/-- Two texts are parsed the same: to the same sections, or both are rejected. -/
def SameOutcome (first second : List Char) : Prop :=
  (parse first).toOption = (parse second).toOption

def Rejected (text : List Char) : Prop := ∃ refused, parse text = .error refused

/-- Deleting the comments of a text changes nothing exactly when none of them opens in a keyword,
unless the text is rejected both with and without them. -/
theorem sameOutcome_withoutComments_iff (text : List Char) :
    SameOutcome (withoutComments text) text ↔
      ¬ KeywordComment .start text ∨ (Rejected text ∧ Rejected (withoutComments text)) := by
  unfold SameOutcome Rejected
  constructor
  · intro same
    cases parsed : parse text with
    | error refused =>
      cases stripped : parse (withoutComments text) with
      | error other => exact .inr ⟨⟨refused, rfl⟩, ⟨other, rfl⟩⟩
      | ok sections =>
        rw [parsed, stripped] at same
        exact absurd same nofun
    | ok sections =>
      refine .inl fun inKeyword => ?_
      cases stripped : parse (withoutComments text) with
      | error other =>
        rw [parsed, stripped] at same
        exact absurd same nofun
      | ok other =>
        rw [parsed, stripped] at same
        obtain rfl : other = sections := Option.some.inj same
        rw [parse_eq_scan] at parsed stripped
        have clean : ¬ Scanner.start.Dollar := by
          simp [Scanner.Dollar, Scanner.start, DollarKeyword, Mode.keywordText]
        exact not_dollarKeyword_of_strip (.inr rfl)
          (fun inComment => absurd inComment Bool.false_ne_true) stripped clean
          (dollarKeyword_of_keywordComment (.inr rfl) parsed inKeyword)
  · rintro (outside | ⟨⟨refused, parsed⟩, other, stripped⟩)
    · rw [parse_withoutComments outside]
    · rw [parsed, stripped]
      rfl

/-- The comment between this keyword and its equals sign becomes a part of the keyword. -/
theorem not_sameOutcome_keywordComment :
    withoutComments "[A]\nKey $ c\n = 1;".toList = "[A]\nKey \n = 1;".toList ∧
      parse "[A]\nKey $ c\n = 1;".toList =
        .ok [⟨"A".toList, [⟨"Key $ c".toList, [.token "1".toList], 2⟩]⟩] ∧
      parse "[A]\nKey \n = 1;".toList =
        .ok [⟨"A".toList, [⟨"Key".toList, [.token "1".toList], 2⟩]⟩] ∧
      ¬ SameOutcome (withoutComments "[A]\nKey $ c\n = 1;".toList)
        "[A]\nKey $ c\n = 1;".toList := by
  have stripped : withoutComments "[A]\nKey $ c\n = 1;".toList = "[A]\nKey \n = 1;".toList := rfl
  rw [SameOutcome, stripped, parse_eq_scan, parse_eq_scan]
  refine ⟨rfl, rfl, rfl, ?_⟩
  decide

end EipScanner.Parse
