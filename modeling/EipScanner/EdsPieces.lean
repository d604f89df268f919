/-
This file says what the parser of EDS texts makes of the source text of a field. The source text
is a row of quoted strings and of words between them; comments and white space only separate. The
parser collects the strings in one accumulator and the words in another, and takes the strings if
there are any.

So a field of strings alone is their concatenation. A field of words alone keeps them only as long
as no word but the last stands directly before the end of its line or before a comment: there the
next word is glued to it. And a field of both loses its words. These are all the fields that are
altered.
-/

import EipScanner.EdsScanner

namespace EipScanner.Parse

/-- What the parser reads a source text as. -/
def readField (source : List Char) : Field := (source.foldl Reading.step .start).value

/-! ### Strings and words -/

/-- A piece of the source text of a field: a string, as it is read, or a word. A word stands at the
end of its line when the line or a comment follows at once. -/
inductive Piece where
  | string (text : List Char)
  | word (text : List Char) (endsLine : Bool)
  deriving DecidableEq, Repr

/-- The place in a source text: outside strings behind the characters of a word, in a comment, or
inside a string. -/
inductive Spot where
  | outside (word : List Char)
  | comment
  | inside (text : List Char)
  | escaped (text : List Char)
  deriving DecidableEq, Repr

/-- The word under way, if there is one. -/
def endWord (word : List Char) (endsLine : Bool) : List Piece :=
  if word.isEmpty then [] else [.word word endsLine]

namespace Spot

/-- The spot behind a character. -/
def next (spot : Spot) (c : Char) : Spot :=
  match spot with
  | .outside word =>
    if c = '$' then .comment
    else if Text.isWhitespace c then .outside []
    else if c = '"' then .inside []
    else .outside (word ++ [c])
  | .comment => if c = '\n' then .outside [] else .comment
  | .inside text =>
    if c = '"' then .outside [] else if c = '\\' then .escaped text else .inside (text ++ [c])
  | .escaped text => .inside (text ++ [unescape c])

/-- The pieces that a character ends. -/
def ended (spot : Spot) (c : Char) : List Piece :=
  match spot with
  | .outside word =>
    if c = '$' ∨ c = '\n' then endWord word true
    else if Text.isWhitespace c ∨ c = '"' then endWord word false
    else []
  | .inside text => if c = '"' then [.string text] else []
  | _ => []

/-- The pieces that the end of the source text ends. -/
def last (spot : Spot) : List Piece :=
  match spot with
  | .outside word => endWord word false
  | .comment => []
  | .inside text => [.string text]
  | .escaped text => [.string text]

end Spot

/-- The pieces of the rest of a source text. -/
def pieces : Spot → List Char → List Piece
  | spot, [] => spot.last
  | spot, c :: rest => spot.ended c ++ pieces (spot.next c) rest

/-- The strings among pieces. -/
def stringsOf (pieces : List Piece) : List (List Char) :=
  pieces.filterMap fun piece =>
    match piece with
    | .string text => some text
    | .word _ _ => none

/-- The words among pieces, and whether they stand at the end of their line. -/
def wordsOf (pieces : List Piece) : List (List Char × Bool) :=
  pieces.filterMap fun piece =>
    match piece with
    | .string _ => none
    | .word text endsLine => some (text, endsLine)

/-- What a field is to be, given its source text: a token with the same words, the strings joined,
or empty. A source text with both strings and words is to be rejected. -/
def Kept (source : List Char) (field : Field) : Prop :=
  match stringsOf (pieces (.outside []) source), wordsOf (pieces (.outside []) source) with
  | [], [] => field = .empty
  | [], words => ∃ token, field = .token token ∧ Text.words token = words.map Prod.fst
  | strings, [] => field = .str strings.flatten
  | _ :: _, _ :: _ => False

/-- Only the last word stands at the end of its line. -/
def Apart (words : List (List Char × Bool)) : Prop :=
  ∀ earlier word later, words = earlier ++ (word, true) :: later → later = []

/-- A source text does not mix strings and words, and only its last word stands at the end of its
line. -/
structure Plain (source : List Char) : Prop where
  unmixed : stringsOf (pieces (.outside []) source) = [] ∨
    wordsOf (pieces (.outside []) source) = []
  apart : Apart (wordsOf (pieces (.outside []) source))

/-! ### What the strings become -/

/-- The strings behind those of a reading. -/
def joinStrings (strings : Option (List Char)) (more : List (List Char)) : Option (List Char) :=
  if more.isEmpty then strings else some (strings.getD [] ++ more.flatten)

theorem joinStrings_append (strings : Option (List Char)) (first second : List (List Char)) :
    joinStrings (joinStrings strings first) second = joinStrings strings (first ++ second) := by
  cases first with
  | nil => rfl
  | cons text first => cases second <;> simp [joinStrings]

/-- A reading is at a spot, behind finished strings. -/
inductive Reading.AtSpot (strings : Option (List Char)) : Reading → Spot → Prop where
  | blank (token : List Char) : AtSpot strings ⟨strings, token, .blank⟩ (.outside [])
  | word (token word : List Char) : AtSpot strings ⟨strings, token, .word⟩ (.outside word)
  | comment (token : List Char) : AtSpot strings ⟨strings, token, .comment⟩ .comment
  | string (token text : List Char) :
    AtSpot strings ⟨some (strings.getD [] ++ text), token, .string⟩ (.inside text)
  | escape (token text : List Char) :
    AtSpot strings ⟨some (strings.getD [] ++ text), token, .escape⟩ (.escaped text)

theorem stringsOf_append (first second : List Piece) :
    stringsOf (first ++ second) = stringsOf first ++ stringsOf second :=
  List.filterMap_append

theorem wordsOf_append (first second : List Piece) :
    wordsOf (first ++ second) = wordsOf first ++ wordsOf second :=
  List.filterMap_append

@[simp]
theorem stringsOf_endWord (word : List Char) (endsLine : Bool) :
    stringsOf (endWord word endsLine) = [] := by
  unfold endWord
  split <;> rfl

/-- Outside strings a character ends no string. -/
theorem stringsOf_ended_outside (word : List Char) (c : Char) :
    stringsOf (Spot.ended (.outside word) c) = [] := by
  unfold Spot.ended
  dsimp only
  split
  · exact stringsOf_endWord word true
  · split
    · exact stringsOf_endWord word false
    · rfl

theorem atSpot_begin {strings : Option (List Char)} {token : List Char} {place : Place}
    (word : List Char) (c : Char) :
    (Reading.begin ⟨strings, token, place⟩ c).AtSpot strings (Spot.next (.outside word) c) := by
  unfold Reading.begin Spot.next
  dsimp only
  split
  · exact .comment token
  split
  · exact .blank token
  split
  · have opened := @Reading.AtSpot.string strings token []
    rwa [List.append_nil] at opened
  · exact .word (token ++ [c]) (word ++ [c])

/-- A character that does not end a token is not special in a word. -/
theorem ne_of_endsToken {c : Char} (goesOn : ¬ endsToken c = true) :
    c ≠ ',' ∧ c ≠ ';' ∧ c ≠ '"' ∧ c ≠ '$' ∧ c ≠ '\n' := by
  simp only [endsToken, Bool.or_eq_true, beq_iff_eq, not_or] at goesOn
  exact ⟨goesOn.1.1.1.1, goesOn.1.1.1.2, goesOn.1.1.2, goesOn.1.2, goesOn.2⟩

/-- White space ends a token only at the end of a line. -/
theorem endsToken_of_blank {c : Char} (blank : Text.isWhitespace c = true) (sameLine : c ≠ '\n') :
    endsToken c = false := by
  have visible : ∀ other, Text.isWhitespace other = false → c ≠ other := by
    rintro other isVisible rfl
    exact Bool.false_ne_true (isVisible.symm.trans blank)
  simp [endsToken, sameLine, visible ',' rfl, visible ';' rfl, visible '"' rfl, visible '$' rfl]

/-- A step of a reading is at the next spot, behind the strings that have ended. -/
theorem atSpot_step {strings : Option (List Char)} {reading : Reading} {spot : Spot}
    (here : reading.AtSpot strings spot) (c : Char) :
    (reading.step c).AtSpot (joinStrings strings (stringsOf (spot.ended c))) (spot.next c) := by
  cases here with
  | blank token =>
    rw [stringsOf_ended_outside]
    exact atSpot_begin [] c
  | word token word =>
    rw [stringsOf_ended_outside]
    by_cases ends : endsToken c = true
    · have begins : Reading.step ⟨strings, token, .word⟩ c =
          Reading.begin ⟨strings, token, .word⟩ c := by
        simp only [Reading.step, if_pos ends]
      rw [begins]
      exact atSpot_begin word c
    · obtain ⟨-, -, notQuote, notComment, -⟩ := ne_of_endsToken ends
      simp only [Reading.step, if_neg ends, Spot.next, if_neg notComment, if_neg notQuote]
      split
      · exact .word (token ++ [c]) []
      · exact .word (token ++ [c]) (word ++ [c])
  | comment token =>
    by_cases newline : c = '\n'
    · simp only [Reading.step, Spot.next, if_pos newline]
      exact .blank token
    · simp only [Reading.step, Spot.next, if_neg newline]
      exact .comment token
  | string token text =>
    by_cases quote : c = '"'
    · have joined : joinStrings strings (stringsOf (Spot.ended (.inside text) c)) =
          some (strings.getD [] ++ text) := by
        simp [Spot.ended, quote, stringsOf, joinStrings]
      simp only [joined, Reading.step, Spot.next, if_pos quote]
      exact .blank token
    · have joined : joinStrings strings (stringsOf (Spot.ended (.inside text) c)) = strings := by
        simp [Spot.ended, quote, stringsOf, joinStrings]
      simp only [joined, Reading.step, Spot.next, if_neg quote]
      split
      · exact .escape token text
      · have pushed := @Reading.AtSpot.string strings token (text ++ [c])
        rwa [← List.append_assoc] at pushed
  | escape token text =>
    have pushed := @Reading.AtSpot.string strings token (text ++ [unescape c])
    rwa [← List.append_assoc] at pushed

/-- The strings of a field are joined, wherever they stand. -/
theorem strings_of_pieces {strings : Option (List Char)} {reading : Reading} {spot : Spot}
    (here : reading.AtSpot strings spot) (rest : List Char) :
    (rest.foldl Reading.step reading).strings =
      joinStrings strings (stringsOf (pieces spot rest)) := by
  induction rest generalizing strings reading spot with
  | nil =>
    rw [List.foldl_nil, pieces]
    cases here with
    | blank token => rfl
    | word token word =>
      rw [Spot.last, stringsOf_endWord]
      rfl
    | comment token => rfl
    | string token text => simp [Spot.last, stringsOf, joinStrings]
    | escape token text => simp [Spot.last, stringsOf, joinStrings]
  | cons c rest inductionHypothesis =>
    rw [List.foldl_cons, inductionHypothesis (atSpot_step here c), joinStrings_append, pieces,
      stringsOf_append]

/-! ### What the words become -/

/-- A word by itself, if it is not empty. -/
def single (word : List Char) : List (List Char) := if word.isEmpty then [] else [word]

/-- The words of a token. One at the end of its line is carried along, and the next is glued to
it. -/
def glued : List Char → List (List Char × Bool) → List (List Char)
  | carried, [] => single carried
  | carried, (word, true) :: rest => glued (carried ++ word) rest
  | carried, (word, false) :: rest => (carried ++ word) :: glued [] rest

theorem wordsOf_endWord {word : List Char} (isWord : word ≠ []) (endsLine : Bool) :
    wordsOf (endWord word endsLine) = [(word, endsLine)] := by
  rw [endWord, if_neg fun empty => isWord (List.isEmpty_iff.mp empty)]
  rfl

section
variable {carried word : List Char} (whole : word = [] → carried = [])
  (later : List (List Char × Bool))

include whole

theorem glued_endWord_true :
    glued carried (wordsOf (endWord word true) ++ later) = glued (carried ++ word) later := by
  by_cases isWord : word = []
  · rw [whole isWord, isWord]
    rfl
  · rw [wordsOf_endWord isWord]
    rfl

theorem glued_endWord_false :
    glued carried (wordsOf (endWord word false) ++ later) =
      single (carried ++ word) ++ glued [] later := by
  by_cases isWord : word = []
  · rw [whole isWord, isWord]
    rfl
  · have longer : carried ++ word ≠ [] := List.append_ne_nil_of_right_ne_nil _ isWord
    rw [wordsOf_endWord isWord, single, if_neg fun empty => longer (List.isEmpty_iff.mp empty)]
    rfl

end

theorem words_single {word : List Char} (visible : ∀ c ∈ word, Text.isWhitespace c = false) :
    Text.words word = single word := by
  by_cases isWord : word = []
  · subst isWord
    exact Text.words_nil
  · rw [single, if_neg fun empty => isWord (List.isEmpty_iff.mp empty)]
    exact Text.words_of_visible isWord visible

/-- Inside a string there is a string to come. -/
theorem stringsOf_pieces_inside (rest : List Char) :
    (∀ text, stringsOf (pieces (.inside text) rest) ≠ []) ∧
      ∀ text, stringsOf (pieces (.escaped text) rest) ≠ [] := by
  induction rest with
  | nil => exact ⟨fun text => List.cons_ne_nil text [], fun text => List.cons_ne_nil text []⟩
  | cons c rest inductionHypothesis =>
    refine ⟨fun text => ?_, fun text => inductionHypothesis.1 (text ++ [unescape c])⟩
    rw [pieces]
    by_cases quote : c = '"'
    · subst quote
      exact List.cons_ne_nil text _
    · simp only [Spot.ended, Spot.next, if_neg quote, List.nil_append]
      split
      · exact inductionHypothesis.2 text
      · exact inductionHypothesis.1 (text ++ [c])

/-- A token up to its last word, so that the words of what follows are added. -/
def Closed (before : List Char) : Prop :=
  ∀ after, Text.words (before ++ after) = Text.words before ++ Text.words after

theorem closed_nil : Closed [] := fun _ => by rw [Text.words_nil, List.nil_append, List.nil_append]

theorem closed_append_blank (before : List Char) {c : Char} (blank : Text.isWhitespace c = true) :
    Closed (before ++ [c]) := by
  intro after
  rw [List.append_assoc, List.singleton_append, Text.words_append_cons blank,
    Text.words_append_cons blank, Text.words_nil, List.append_nil]

/-- A reading outside strings: its token up to the last word, that word, and the front of it that
is carried along from an earlier line. -/
inductive Reading.Carries (strings : Option (List Char)) (before : List Char) :
    Reading → Spot → List Char → List Char → Prop where
  | blank (last : List Char) :
    Carries strings before ⟨strings, before ++ last, .blank⟩ (.outside []) last last
  | comment (last : List Char) :
    Carries strings before ⟨strings, before ++ last, .comment⟩ .comment last last
  | word (carried word : List Char) (whole : word = [] → carried = []) :
    Carries strings before ⟨strings, before ++ (carried ++ word), .word⟩ (.outside word)
      (carried ++ word) carried

section
variable {strings : Option (List Char)} {before last carried : List Char} {reading : Reading}
  {spot : Spot} (here : reading.Carries strings before spot last carried)
  (closed : Closed before) (visible : ∀ c ∈ last, Text.isWhitespace c = false)

include here closed visible

theorem words_of_carries :
    Text.words reading.token = Text.words before ++ glued carried (wordsOf spot.last) := by
  have split : Text.words (before ++ last) = Text.words before ++ single last := by
    rw [closed last, words_single visible]
  cases here with
  | blank => exact split
  | comment => exact split
  | word _ word whole =>
    have ends := glued_endWord_false whole []
    have none : glued [] [] = [] := rfl
    rw [none, List.append_nil, List.append_nil] at ends
    rw [Spot.last, ends]
    exact split

end

/-- A reading outside strings that has gone on: to the words before it and what is carried along,
the pieces that have ended were added. -/
structure Reading.Continues (strings : Option (List Char)) (before carried : List Char)
    (ended : List Piece) (after : Reading) (spot : Spot) (behind last rest : List Char) : Prop where
  carries : after.Carries strings behind spot last rest
  closed : Closed behind
  visible : ∀ c ∈ last, Text.isWhitespace c = false
  words : ∀ later, Text.words behind ++ glued rest later =
    Text.words before ++ glued carried (wordsOf ended ++ later)

/-- A character that belongs to a word. -/
theorem continues_word {strings : Option (List Char)} {before carried word : List Char}
    {c : Char} (closed : Closed before)
    (visible : ∀ c ∈ carried ++ word, Text.isWhitespace c = false)
    (isVisible : Text.isWhitespace c = false) :
    Reading.Continues strings before carried [] ⟨strings, before ++ (carried ++ word) ++ [c], .word⟩
      (.outside (word ++ [c])) before (carried ++ (word ++ [c])) carried where
  carries := by
    rw [List.append_assoc, List.append_assoc]
    exact .word carried (word ++ [c]) fun empty => absurd empty (by simp)
  closed := closed
  visible := by
    intro other member
    rw [← List.append_assoc, List.mem_append, List.mem_singleton] at member
    rcases member with earlier | rfl
    · exact visible other earlier
    · exact isVisible
  words _ := rfl

section
variable {strings : Option (List Char)} {before : List Char} {c : Char} (closed : Closed before)

include closed

theorem continues_blank {last : List Char} (visible : ∀ c ∈ last, Text.isWhitespace c = false)
    (noString : c ≠ '"') :
    ∃ behind last' carried', Reading.Continues strings before last ((Spot.outside []).ended c)
      (Reading.step ⟨strings, before ++ last, .blank⟩ c) ((Spot.outside []).next c) behind last'
      carried' := by
  have ended : (Spot.outside []).ended c = [] := by
    unfold Spot.ended
    dsimp only
    split
    · rfl
    · split <;> rfl
  rw [ended]
  simp only [Reading.step, Reading.begin, Spot.next, if_neg noString]
  split
  · exact ⟨before, last, last, .comment last, closed, visible, fun _ => rfl⟩
  split
  · exact ⟨before, last, last, .blank last, closed, visible, fun _ => rfl⟩
  next notBlank =>
    have pushed := @continues_word strings before last [] c closed
      (by rwa [List.append_nil]) (Bool.eq_false_iff.mpr notBlank)
    rw [List.append_nil] at pushed
    exact ⟨before, _, last, pushed⟩

theorem continues_comment {last : List Char} (visible : ∀ c ∈ last, Text.isWhitespace c = false) :
    ∃ behind last' carried', Reading.Continues strings before last (Spot.comment.ended c)
      (Reading.step ⟨strings, before ++ last, .comment⟩ c) (Spot.comment.next c) behind last'
      carried' := by
  simp only [Reading.step, Spot.next]
  split
  · exact ⟨before, last, last, .blank last, closed, visible, fun _ => rfl⟩
  · exact ⟨before, last, last, .comment last, closed, visible, fun _ => rfl⟩

/-- White space inside a line ends the word, and stays in the token. -/
theorem continues_of_blank {carried word : List Char} (whole : word = [] → carried = [])
    (visible : ∀ c ∈ carried ++ word, Text.isWhitespace c = false)
    (blank : Text.isWhitespace c = true) :
    Reading.Continues strings before carried (endWord word false)
      ⟨strings, before ++ (carried ++ word) ++ [c], .word⟩ (.outside [])
      (before ++ (carried ++ word) ++ [c]) [] [] where
  carries := by
    have behind := @Reading.Carries.word strings (before ++ (carried ++ word) ++ [c]) [] []
      fun _ => rfl
    rwa [List.append_nil, List.append_nil] at behind
  closed := closed_append_blank _ blank
  visible := nofun
  words later := by
    rw [Text.words_append_cons blank, Text.words_nil, List.append_nil, closed (carried ++ word),
      words_single visible, glued_endWord_false whole, List.append_assoc]

theorem continues_of_word {carried word : List Char} (whole : word = [] → carried = [])
    (visible : ∀ c ∈ carried ++ word, Text.isWhitespace c = false) (noString : c ≠ '"') :
    ∃ behind last' carried', Reading.Continues strings before carried ((Spot.outside word).ended c)
      (Reading.step ⟨strings, before ++ (carried ++ word), .word⟩ c) ((Spot.outside word).next c)
      behind last' carried' := by
  by_cases comment : c = '$'
  · subst comment
    refine ⟨before, carried ++ word, _, .comment _, closed, visible, fun later => ?_⟩
    exact congrArg _ (glued_endWord_true whole later).symm
  by_cases newline : c = '\n'
  · subst newline
    refine ⟨before, carried ++ word, _, .blank _, closed, visible, fun later => ?_⟩
    exact congrArg _ (glued_endWord_true whole later).symm
  by_cases blank : Text.isWhitespace c = true
  · have ended : (Spot.outside word).ended c = endWord word false := by
      simp only [Spot.ended, comment, newline, blank, or_self, if_false, true_or, if_true]
    have steps : Reading.step ⟨strings, before ++ (carried ++ word), .word⟩ c =
        ⟨strings, before ++ (carried ++ word) ++ [c], .word⟩ := by
      simp only [Reading.step, endsToken_of_blank blank newline, Bool.false_eq_true, if_false]
    have next : (Spot.outside word).next c = .outside [] := by
      simp only [Spot.next, if_neg comment, if_pos blank]
    rw [ended, steps, next]
    exact ⟨_, [], [], continues_of_blank closed whole visible blank⟩
  · have ended : (Spot.outside word).ended c = [] := by
      simp only [Spot.ended, comment, newline, blank, noString, or_self, Bool.false_eq_true,
        if_false]
    have steps : Reading.step ⟨strings, before ++ (carried ++ word), .word⟩ c =
        ⟨strings, before ++ (carried ++ word) ++ [c], .word⟩ := by
      simp only [Reading.step, Reading.begin, if_neg comment, if_neg blank, if_neg noString,
        ite_self]
    have next : (Spot.outside word).next c = .outside (word ++ [c]) := by
      simp only [Spot.next, if_neg comment, if_neg blank, if_neg noString]
    rw [ended, steps, next]
    exact ⟨before, _, carried, continues_word closed visible (Bool.eq_false_iff.mpr blank)⟩

end

/-- A step of a reading outside strings that opens no string. -/
theorem carries_step {strings : Option (List Char)} {before last carried : List Char}
    {reading : Reading} {spot : Spot} {c : Char}
    (here : reading.Carries strings before spot last carried) (closed : Closed before)
    (visible : ∀ c ∈ last, Text.isWhitespace c = false)
    (noString : ∀ text, spot.next c ≠ .inside text) :
    ∃ behind last' carried', Reading.Continues strings before carried (spot.ended c)
      (reading.step c) (spot.next c) behind last' carried' := by
  cases here with
  | blank => exact continues_blank closed visible fun quote => noString [] (quote ▸ rfl)
  | comment => exact continues_comment closed visible
  | word _ word whole =>
    exact continues_of_word closed whole visible fun quote => noString [] (quote ▸ rfl)

/-- The words of the token that a reading without strings ends with. -/
theorem words_of_pieces {strings : Option (List Char)} {before last carried : List Char}
    {reading : Reading} {spot : Spot} {rest : List Char}
    (here : reading.Carries strings before spot last carried) (closed : Closed before)
    (visible : ∀ c ∈ last, Text.isWhitespace c = false)
    (noStrings : stringsOf (pieces spot rest) = []) :
    Text.words (rest.foldl Reading.step reading).token =
      Text.words before ++ glued carried (wordsOf (pieces spot rest)) := by
  induction rest generalizing before last carried reading spot with
  | nil => exact words_of_carries here closed visible
  | cons c rest inductionHypothesis =>
    rw [pieces, stringsOf_append, List.append_eq_nil_iff] at noStrings
    obtain ⟨_, _, _, after⟩ := carries_step here closed visible fun text isInside =>
      (stringsOf_pieces_inside rest).1 text (isInside ▸ noStrings.2)
    rw [List.foldl_cons, inductionHypothesis after.carries after.closed after.visible noStrings.2,
      after.words, pieces, wordsOf_append]

/-! ### Which fields are kept -/

theorem wordsOf_nonempty (spot : Spot) (rest : List Char) :
    ∀ word ∈ wordsOf (pieces spot rest), word.1 ≠ [] := by
  have ofWord : ∀ (word : List Char) (endsLine : Bool),
      ∀ other ∈ wordsOf (endWord word endsLine), other.1 ≠ [] := by
    intro word endsLine other member
    by_cases isWord : word = []
    · subst isWord
      exact absurd member List.not_mem_nil
    · rw [wordsOf_endWord isWord, List.mem_singleton] at member
      rwa [member]
  induction rest generalizing spot with
  | nil =>
    cases spot with
    | outside word => exact ofWord word false
    | comment => exact nofun
    | inside text => exact nofun
    | escaped text => exact nofun
  | cons c rest inductionHypothesis =>
    intro other member
    rw [pieces, wordsOf_append, List.mem_append] at member
    refine member.elim (fun ended => ?_) (inductionHypothesis _ other)
    cases spot with
    | outside word =>
      unfold Spot.ended at ended
      dsimp only at ended
      split at ended
      · exact ofWord word true other ended
      · split at ended
        · exact ofWord word false other ended
        · exact absurd ended List.not_mem_nil
    | comment => exact absurd ended List.not_mem_nil
    | inside text =>
      unfold Spot.ended at ended
      dsimp only at ended
      split at ended <;> exact absurd ended List.not_mem_nil
    | escaped text => exact absurd ended List.not_mem_nil

theorem glued_of_apart {words : List (List Char × Bool)} (nonempty : ∀ word ∈ words, word.1 ≠ [])
    (apart : Apart words) : glued [] words = words.map Prod.fst := by
  induction words with
  | nil => rfl
  | cons first rest inductionHypothesis =>
    obtain ⟨word, endsLine⟩ := first
    have isWord : word ≠ [] := nonempty (word, endsLine) List.mem_cons_self
    cases endsLine with
    | true =>
      obtain rfl := apart [] word rest rfl
      exact if_neg fun empty => isWord (List.isEmpty_iff.mp empty)
    | false =>
      have restApart : Apart rest := fun earlier other later split =>
        apart ((word, false) :: earlier) other later (by rw [split]; rfl)
      rw [glued, inductionHypothesis (List.forall_mem_cons.mp nonempty).2 restApart]
      rfl

theorem length_glued_le {words : List (List Char × Bool)} (isSome : words ≠ [])
    (carried : List Char) : (glued carried words).length ≤ words.length := by
  induction words generalizing carried with
  | nil => exact absurd rfl isSome
  | cons first rest inductionHypothesis =>
    obtain ⟨word, endsLine⟩ := first
    have behind : ∀ carried, (glued carried rest).length ≤ rest.length + 1 := by
      intro carried
      by_cases more : rest = []
      · subst more
        rw [glued, single]
        split
        · exact Nat.zero_le _
        · exact le_rfl
      · exact (inductionHypothesis more carried).trans (Nat.le_succ _)
    cases endsLine with
    | true => exact behind (carried ++ word)
    | false =>
      by_cases more : rest = []
      · subst more
        exact le_rfl
      · exact Nat.succ_le_succ (inductionHypothesis more [])

/-- A word that is carried along is missing among the words of the token. -/
theorem length_glued_lt {earlier later : List (List Char × Bool)} {word : List Char}
    (more : later ≠ []) (carried : List Char) :
    (glued carried (earlier ++ (word, true) :: later)).length <
      (earlier ++ (word, true) :: later).length := by
  induction earlier generalizing carried with
  | nil => exact Nat.lt_succ_of_le (length_glued_le more (carried ++ word))
  | cons first earlier inductionHypothesis =>
    obtain ⟨other, endsLine⟩ := first
    cases endsLine with
    | true => exact (inductionHypothesis (carried ++ other)).trans (Nat.lt_succ_self _)
    | false => exact Nat.succ_lt_succ (inductionHypothesis [])

theorem glued_eq_iff {words : List (List Char × Bool)} (nonempty : ∀ word ∈ words, word.1 ≠ []) :
    glued [] words = words.map Prod.fst ↔ Apart words := by
  refine ⟨fun same earlier word later split => ?_, glued_of_apart nonempty⟩
  by_contra more
  have shorter := @length_glued_lt earlier later word more []
  rw [← split, same, List.length_map] at shorter
  exact Nat.lt_irrefl _ shorter

theorem glued_ne_nil {words : List (List Char × Bool)} (nonempty : ∀ word ∈ words, word.1 ≠ [])
    (carried : List Char) (isSome : words ≠ []) : glued carried words ≠ [] := by
  induction words generalizing carried with
  | nil => exact absurd rfl isSome
  | cons first rest inductionHypothesis =>
    obtain ⟨word, endsLine⟩ := first
    have isWord : carried ++ word ≠ [] :=
      List.append_ne_nil_of_right_ne_nil _ (nonempty (word, endsLine) List.mem_cons_self)
    cases endsLine with
    | false => exact List.cons_ne_nil _ _
    | true =>
      by_cases more : rest = []
      · subst more
        rw [glued, glued, single, if_neg fun empty => isWord (List.isEmpty_iff.mp empty)]
        exact List.cons_ne_nil _ _
      · exact inductionHypothesis (List.forall_mem_cons.mp nonempty).2 (carried ++ word) more

/-- A source text is read as it is to be exactly when it does not mix strings and words, and only
its last word stands at the end of its line. -/
theorem kept_readField_iff (source : List Char) :
    Kept source (readField source) ↔ Plain source := by
  have nonempty := wordsOf_nonempty (.outside []) source
  have strings : (source.foldl Reading.step .start).strings =
      joinStrings none (stringsOf (pieces (.outside []) source)) :=
    strings_of_pieces (.blank []) source
  have words : stringsOf (pieces (.outside []) source) = [] →
      Text.words (source.foldl Reading.step .start).token =
        glued [] (wordsOf (pieces (.outside []) source)) := by
    intro noStrings
    have read := words_of_pieces (@Reading.Carries.blank none [] []) closed_nil nofun noStrings
    rwa [Text.words_nil, List.nil_append] at read
  unfold Kept
  rw [readField, Reading.value, strings]
  generalize (source.foldl Reading.step .start).token = token at words
  cases someStrings : stringsOf (pieces (.outside []) source) with
  | nil =>
    have tokenWords := words someStrings
    cases someWords : wordsOf (pieces (.outside []) source) with
    | nil =>
      have nothing : Text.trim token = [] := Text.trim_eq_nil (by rw [tokenWords, someWords]; rfl)
      have isEmpty : fieldOf (joinStrings none []) token = .empty := by
        simp [fieldOf, joinStrings, nothing]
      exact ⟨fun _ => ⟨.inl someStrings, by simp [someWords, Apart]⟩, fun _ => isEmpty⟩
    | cons word more =>
      have something : Text.trim token ≠ [] := by
        intro nothing
        have none := tokenWords
        rw [← Text.words_trim, nothing, Text.words_nil] at none
        exact glued_ne_nil nonempty [] (by rw [someWords]; exact List.cons_ne_nil _ _) none.symm
      have isToken : fieldOf (joinStrings none []) token = .token (Text.trim token) := by
        simp [fieldOf, joinStrings, something]
      have kept := glued_eq_iff nonempty
      rw [← tokenWords, someWords] at kept
      rw [isToken]
      constructor
      · rintro ⟨_, ⟨⟩, same⟩
        rw [Text.words_trim] at same
        exact ⟨.inl someStrings, by rw [someWords]; exact kept.mp same⟩
      · intro plain
        refine ⟨_, rfl, ?_⟩
        rw [Text.words_trim]
        exact kept.mpr (someWords ▸ plain.apart)
  | cons text more =>
    cases someWords : wordsOf (pieces (.outside []) source) with
    | nil =>
      refine ⟨fun _ => ⟨.inr someWords, by simp [someWords, Apart]⟩, fun _ => ?_⟩
      simp [fieldOf, joinStrings]
    | cons word others =>
      refine ⟨fun never => never.elim, fun plain => ?_⟩
      rcases plain.unmixed with none | none
      · exact absurd (someStrings.symm.trans none) (List.cons_ne_nil _ _)
      · exact absurd (someWords.symm.trans none) (List.cons_ne_nil _ _)

end EipScanner.Parse
