/-
This file finds the source text of every field in an EDS text and settles which fields are kept.
The source texts are what stands between the equals signs, commas and semicolons of the entries,
as far as these are outside strings and comments. The fields of an accepted text are read from its
source texts, one by one and in order, so a field is kept exactly when its own source text is
plain.
-/

import EipScanner.EdsComments
import EipScanner.EdsPieces

namespace EipScanner.Parse

/-! ### The source texts of the fields -/

/-- The source texts of the fields in a text, entry by entry: those of the entries that have ended,
those of the fields of the entry under way that have ended, and the field under way. -/
structure Sources where
  entries : List (List (List Char))
  fields : List (List Char)
  current : List Char

/-- A character at a position. In the fields of an entry it ends a field, or belongs to it. -/
def Sources.next (position : Position) (sources : Sources) (c : Char) : Sources :=
  match position.context with
  | .fields =>
    if position.comment = false ∧ c = ',' then
      { sources with fields := sources.fields ++ [sources.current], current := [] }
    else if position.comment = false ∧ c = ';' then
      ⟨sources.entries ++ [sources.fields ++ [sources.current]], [], []⟩
    else { sources with current := sources.current ++ [c] }
  | .string => { sources with current := sources.current ++ [c] }
  | .escape => { sources with current := sources.current ++ [c] }
  | _ => sources

/-- The source texts behind those collected, from a position on. A dollar sign in a keyword is one
of its characters. -/
def sourcesFrom (position : Position) (sources : Sources) : List Char → List (List (List Char))
  | [] => sources.entries
  | c :: rest => sourcesFrom (position.next false c) (sources.next position c) rest

def fieldSources (text : List Char) : List (List (List Char)) :=
  sourcesFrom .start ⟨[], [], []⟩ text

theorem readField_append_singleton (source : List Char) (c : Char) :
    (source ++ [c]).foldl Reading.step .start = (source.foldl Reading.step .start).step c :=
  List.foldl_append

/-! ### The scanner reads each source text -/

/-- The fields in a mode are read from the source texts. -/
def Mode.Reads : Mode → List (List Char) → List Char → Prop
  | .fields _ _ read reading, sources, current =>
    read = sources.map readField ∧ reading = current.foldl Reading.step .start
  | _, sources, current => sources = [] ∧ current = []

structure Scanner.Reads (scanner : Scanner) (sources : Sources) : Prop where
  entries : (scanner.sections.flatMap Section.entries).map Entry.fields =
    sources.entries.map (List.map readField)
  mode : scanner.mode.Reads sources.fields sources.current

theorem reads_stepKeyword {scanner : Scanner} {sources : Sources} {line : Nat} {text : List Char}
    {c : Char} (reads : scanner.Reads sources) (empty : sources.fields = [] ∧ sources.current = [])
    (goesOn : ∀ refused, (scanner.stepKeyword line text c).mode ≠ .failed refused) :
    (scanner.stepKeyword line text c).Reads sources := by
  unfold Scanner.stepKeyword at goesOn ⊢
  split
  · exact ⟨reads.entries, by rw [empty.1]; rfl, by rw [empty.2]; rfl⟩
  next notEquals =>
    rw [if_neg notEquals] at goesOn
    split
    next misplaced =>
      rw [if_pos misplaced] at goesOn
      exact absurd rfl (goesOn _)
    · exact ⟨reads.entries, empty⟩

/-- Inside a field, a character that ends neither the field nor the entry belongs to it. -/
theorem next_of_inside {reading : Reading} {sources : Sources} {c : Char}
    (inside : ¬ (reading.atBoundary = true ∧ (c = ',' ∨ c = ';'))) :
    sources.next reading.place.position c =
      { sources with current := sources.current ++ [c] } := by
  obtain ⟨strings, token, place⟩ := reading
  have neither : place = .blank ∨ place = .word → c ≠ ',' ∧ c ≠ ';' := by
    rintro (rfl | rfl)
    · exact not_or.mp fun ends => inside ⟨rfl, ends⟩
    · exact not_or.mp fun ends => inside ⟨rfl, ends⟩
  cases place with
  | blank => simp [Sources.next, Place.position, neither (.inl rfl)]
  | word => simp [Sources.next, Place.position, neither (.inr rfl)]
  | comment => simp [Sources.next, Place.position]
  | string => rfl
  | escape => rfl

theorem reads_fields {sections : List Section} {line entryLine : Nat} {keyword : List Char}
    {fields : List Field} {reading : Reading} {sources : Sources} {c : Char}
    (reads : Scanner.Reads ⟨sections, line, .fields keyword entryLine fields reading⟩ sources)
    (goesOn : ∀ refused, (Scanner.step ⟨sections, line,
      .fields keyword entryLine fields reading⟩ c).mode ≠ .failed refused) :
    (Scanner.step ⟨sections, line, .fields keyword entryLine fields reading⟩ c).Reads
      (sources.next reading.place.position c) := by
  obtain ⟨entries, rfl, rfl⟩ := reads
  unfold Scanner.step at goesOn ⊢
  dsimp only at goesOn ⊢
  by_cases comma : (sources.current.foldl Reading.step .start).atBoundary = true ∧ c = ','
  · rw [if_pos comma, position_of_atBoundary comma.1]
    refine ⟨?_, ?_, ?_⟩
    · simpa [Scanner.move, Sources.next, comma.2] using entries
    · simp [Sources.next, comma.2, readField]
    · simp [Sources.next, comma.2]
  rw [if_neg comma] at goesOn ⊢
  by_cases semicolon : (sources.current.foldl Reading.step .start).atBoundary = true ∧ c = ';'
  · rw [if_pos semicolon] at goesOn ⊢
    rw [position_of_atBoundary semicolon.1]
    unfold Scanner.endEntry at goesOn ⊢
    split
    next refused failed =>
      simp only [failed] at goesOn
      exact absurd rfl (goesOn refused)
    next after pushed =>
      refine ⟨?_, ?_⟩
      · rw [entries_pushEntry pushed]
        simp only [List.map_append, entries]
        simp [Sources.next, semicolon.2, readField]
      · simp [Sources.next, semicolon.2, Mode.Reads]
  rw [if_neg semicolon]
  have inside : ¬ ((sources.current.foldl Reading.step .start).atBoundary = true ∧
      (c = ',' ∨ c = ';')) := by
    rintro ⟨boundary, rfl | rfl⟩
    · exact comma ⟨boundary, rfl⟩
    · exact semicolon ⟨boundary, rfl⟩
  rw [next_of_inside inside]
  exact ⟨entries, rfl, (readField_append_singleton _ c).symm⟩

/-- A step of the scanner reads the next character of a source text. -/
theorem reads_step {scanner : Scanner} {position : Position} {sources : Sources} {c : Char}
    (here : scanner.mode.position = some position) (reads : scanner.Reads sources)
    (goesOn : ∀ refused, (scanner.step c).mode ≠ .failed refused) :
    (scanner.step c).Reads (sources.next position c) := by
  obtain ⟨sections, line, mode⟩ := scanner
  cases mode with
  | between =>
    obtain rfl := Option.some.inj here
    have same : sources.next ⟨.between, false⟩ c = sources := rfl
    rw [same]
    unfold Scanner.step at goesOn ⊢
    dsimp only at goesOn ⊢
    split
    · exact ⟨reads.entries, reads.mode⟩
    next notComment =>
    rw [if_neg notComment] at goesOn
    split
    · exact ⟨reads.entries, reads.mode⟩
    next notBlank =>
    rw [if_neg notBlank] at goesOn
    split
    · exact ⟨reads.entries, reads.mode⟩
    next notBracket =>
    rw [if_neg notBracket] at goesOn
    exact reads_stepKeyword reads reads.mode goesOn
  | comment =>
    obtain rfl := Option.some.inj here
    refine ⟨reads.entries, ?_⟩
    by_cases newline : c = '\n'
    · simp only [Scanner.step, Scanner.move, if_pos newline]
      exact reads.mode
    · simp only [Scanner.step, Scanner.move, if_neg newline]
      exact reads.mode
  | header name =>
    obtain rfl := Option.some.inj here
    have same : sources.next ⟨.header, false⟩ c = sources := rfl
    rw [same]
    unfold Scanner.step at goesOn ⊢
    dsimp only at goesOn ⊢
    split
    · refine ⟨?_, reads.mode⟩
      rw [List.flatMap_append, List.flatMap_singleton, List.append_nil]
      exact reads.entries
    next notBracket =>
    rw [if_neg notBracket] at goesOn
    split
    next newline =>
      rw [if_pos newline] at goesOn
      exact absurd rfl (goesOn _)
    · exact ⟨reads.entries, reads.mode⟩
  | keyword entryLine text =>
    obtain rfl := Option.some.inj here
    exact reads_stepKeyword reads reads.mode goesOn
  | fields keyword entryLine fields reading =>
    obtain rfl := Option.some.inj here
    exact reads_fields reads goesOn
  | failed refused => exact absurd here.symm (Option.some_ne_none _)

/-- The fields of an accepted text are what its source texts are read as. -/
theorem fields_of_scan {scanner : Scanner} {position : Position} {sources : Sources}
    {text : List Char} {sections : List Section} (here : scanner.mode.position = some position)
    (reads : scanner.Reads sources) (accepted : scanner.scan text = .ok sections) :
    (sections.flatMap Section.entries).map Entry.fields =
      (sourcesFrom position sources text).map (List.map readField) := by
  induction text generalizing scanner position sources with
  | nil =>
    rw [← (Scanner.finish_eq_ok accepted).1]
    exact reads.entries
  | cons c rest inductionHypothesis =>
    rw [Scanner.scan_cons] at accepted
    have goesOn := goesOn_of_scan accepted
    have after : (scanner.step c).At (position.next false c) :=
      at_step (.inr here) fun opens => absurd opens.1 Bool.false_ne_true
    exact inductionHypothesis (after.resolve_left fun ⟨refused, failed⟩ => goesOn refused failed)
      (reads_step here reads goesOn) accepted

theorem fields_eq_readField {text : List Char} {sections : List Section}
    (parsed : parse text = .ok sections) :
    (sections.flatMap Section.entries).map Entry.fields =
      (fieldSources text).map (List.map readField) :=
  fields_of_scan rfl (⟨rfl, rfl, rfl⟩ : Scanner.start.Reads ⟨[], [], []⟩)
    ((parse_eq_scan text).symm.trans parsed)

/-! ### Which fields are kept -/

/-- Every field of an accepted text is kept exactly when its source text is plain. -/
theorem fields_kept_iff {text : List Char} {sections : List Section}
    (parsed : parse text = .ok sections) :
    List.Forall₂ (fun entry sources => List.Forall₂
        (fun field source => Kept source field ↔ Plain source) entry.fields sources)
      (sections.flatMap Section.entries) (fieldSources text) := by
  have each : ∀ sources : List (List Char), List.Forall₂
      (fun field source => Kept source field ↔ Plain source) (sources.map readField) sources :=
    fun sources => List.forall₂_map_left_iff.mpr
      (List.forall₂_same.mpr fun source _ => kept_readField_iff source)
  have all := List.forall₂_map_left_iff.mpr
    (List.forall₂_same.mpr fun sources (_ : sources ∈ fieldSources text) => each sources)
  rw [← fields_eq_readField parsed] at all
  exact List.forall₂_map_left_iff.mp all

/-- Words on one line, and strings on two. -/
def plainText : List Char := "[A]\nK = a b, \"x\"\n\"y\";".toList

theorem fields_kept_iff_plain :
    parse plainText =
        .ok [⟨"A".toList, [⟨"K".toList, [.token "a b".toList, .str "xy".toList], 2⟩]⟩] ∧
      Kept " a b".toList (.token "a b".toList) := by
  have parsed : parse plainText =
      .ok [⟨"A".toList, [⟨"K".toList, [.token "a b".toList, .str "xy".toList], 2⟩]⟩] := by
    rw [parse_eq_scan]
    rfl
  have sources : fieldSources plainText = [[" a b".toList, " \"x\"\n\"y\"".toList]] := rfl
  have kept := fields_kept_iff parsed
  rw [sources] at kept
  refine ⟨parsed, ?_⟩
  obtain ⟨first, -⟩ := List.forall₂_cons.mp (List.forall₂_cons.mp kept).1
  exact first.mpr ⟨.inl rfl, (glued_eq_iff (wordsOf_nonempty _ _)).mp rfl⟩

/-- Two words on two lines are glued together, and a word beside a string is lost. -/
theorem not_kept_glued :
    parse "[A]\nK = a\nb, c \"x\";".toList =
        .ok [⟨"A".toList, [⟨"K".toList, [.token "ab".toList, .str "x".toList], 2⟩]⟩] ∧
      fieldSources "[A]\nK = a\nb, c \"x\";".toList =
        [[" a\nb".toList, " c \"x\"".toList]] ∧
      ¬ Kept " a\nb".toList (.token "ab".toList) ∧ ¬ Kept " c \"x\"".toList (.str "x".toList) := by
  rw [parse_eq_scan]
  refine ⟨rfl, rfl, ?_, ?_⟩
  · rintro ⟨_, ⟨⟩, same⟩
    exact absurd same (by decide)
  · exact fun never => never

end EipScanner.Parse
