/-
This file says which texts are accepted as a route, and as which. The components between
the commas are trimmed, the empty ones are left out, and what remains has to alternate
between ports and links. The path then has one hop for each pair.

Empty components are left out wherever they stand. In a text without any, and in one of
blanks only, the pairs are those of the text. Otherwise a component that is missing is not
noticed by itself: only the number of those that remain is looked at, and where that is
even, a link may be read as a port.
-/

import EipScanner.PathReader

namespace EipScanner

/-- The components of a route, trimmed. -/
def routeComponents (spec : List Char) : List (List Char) := (spec.splitOn ',').map Text.trim

theorem routeTokens_eq (spec : List Char) :
    ConnectionPath.routeTokens spec =
      (routeComponents spec).filter fun component => !component.isEmpty := rfl

/-- The text as it is meant: blanks only for no hop at all, or ports and links in turn with no
component missing. -/
def RouteGrammar (spec : List Char) (hops : List Hop) : Prop :=
  (∀ c ∈ spec, Text.isWhitespace c = true) ∧ hops = [] ∨
    (∀ component ∈ routeComponents spec, component ≠ []) ∧
      hopsOf (routeComponents spec) = some hops

/-! ### What is accepted -/

/-- A pair that names a hop is accepted. -/
theorem routePair_accepts {portText linkText : List Char} {number : Nat} {link : Link}
    (path : ConnectionPath)
    (named : (Text.fromStrRadix 10 (2 ^ 16) portText).filter (decide <| · ≠ 0) = some number)
    (linked : Link.parse linkText = some link) :
    ∃ after, path.routePair portText linkText = .ok after := by
  unfold ConnectionPath.routePair
  rw [named]
  dsimp only
  unfold Link.parse at linked
  cases numeral : Text.fromStrRadix 10 (2 ^ 8) linkText with
  | some slot => exact ⟨_, rfl⟩
  | none =>
    rw [numeral] at linked
    obtain ⟨ip, parsed, -⟩ := Option.map_eq_some_iff.mp linked
    dsimp only
    rw [parsed]
    exact ⟨_, if_pos rfl⟩

/-- Components that name hops are accepted, and there is an even number of them. -/
theorem routePairs_accepts {tokens : List (List Char)} {hops : List Hop}
    (named : hopsOf tokens = some hops) :
    tokens.length % 2 = 0 ∧
      ∀ path : ConnectionPath, ∃ after, path.routePairs tokens = .ok after := by
  induction tokens using hopsOf.induct generalizing hops with
  | case1 => exact ⟨rfl, fun path => ⟨path, rfl⟩⟩
  | case2 token => cases named
  | case3 portText linkText rest inductionHypothesis =>
    rw [hopsOf] at named
    simp only [Option.bind_eq_bind, Option.bind_eq_some_iff] at named
    obtain ⟨number, portNamed, link, linked, others, othersNamed, -⟩ := named
    obtain ⟨even, accepts⟩ := inductionHypothesis othersNamed
    refine ⟨by rw [List.length_cons, List.length_cons]; omega, fun path => ?_⟩
    obtain ⟨middle, here⟩ := routePair_accepts path portNamed linked
    obtain ⟨after, behind⟩ := accepts middle
    refine ⟨after, ?_⟩
    rw [ConnectionPath.routePairs, here, ok_bind, behind]

/-- A text of blanks has no component that is not empty. -/
theorem routeTokens_of_blank {spec : List Char}
    (blank : ∀ c ∈ spec, Text.isWhitespace c = true) : ConnectionPath.routeTokens spec = [] := by
  have noComma : ∀ c ∈ spec, (c == ',') = false := by
    intro c member
    refine beq_eq_false_iff_ne.mpr fun comma => ?_
    exact absurd (blank c member) (by rw [comma]; decide)
  have nothing : Text.trim spec = [] := by
    rw [Text.trim, List.dropWhile_eq_nil_iff.mpr blank]
    rfl
  rw [ConnectionPath.routeTokens, List.splitOn, List.splitOnP_eq_singleton noComma,
    List.map_singleton, nothing]
  rfl

/-- A text as it is meant names the same hops when empty components are left out. -/
theorem RouteGrammar.named {spec : List Char} {hops : List Hop} (grammar : RouteGrammar spec hops) :
    hopsOf (ConnectionPath.routeTokens spec) = some hops := by
  rcases grammar with ⟨blank, rfl⟩ | ⟨whole, named⟩
  · rw [routeTokens_of_blank blank]
    rfl
  · have all : (routeComponents spec).filter (fun component => !component.isEmpty) =
        routeComponents spec := by
      refine List.filter_eq_self.mpr fun component member => ?_
      simpa using whole component member
    rw [routeTokens_eq, all, named]

/-- What a route accepts. A text is accepted exactly when its components, trimmed and without the
empty ones, name hops, a nonzero port and a link in turn; the path then has these hops and no
others, in order. A text in which no component is missing names the hops of its components. -/
theorem route_accepts_exactly (spec : List Char) :
    ((∃ path, ConnectionPath.route spec = .ok path) ↔
      ∃ hops, hopsOf (ConnectionPath.routeTokens spec) = some hops) ∧
    (∀ path, ConnectionPath.route spec = .ok path →
      ∃ hops, hopsOf (ConnectionPath.routeTokens spec) = some hops ∧
        readPath path.bytes = some (hops.map .hop)) ∧
    ∀ hops, RouteGrammar spec hops → hopsOf (ConnectionPath.routeTokens spec) = some hops := by
  refine ⟨⟨?_, ?_⟩, ?_, fun _ => RouteGrammar.named⟩
  · rintro ⟨path, accepted⟩
    obtain ⟨hops, named, -⟩ := route_spells accepted
    exact ⟨hops, named⟩
  · rintro ⟨hops, named⟩
    obtain ⟨even, accepts⟩ := routePairs_accepts named
    obtain ⟨path, accepted⟩ := accepts ConnectionPath.new
    refine ⟨path, ?_⟩
    rw [ConnectionPath.route, if_neg (not_not.mpr even), accepted]
  · intro path accepted
    obtain ⟨hops, named, spells⟩ := route_spells accepted
    exact ⟨hops, named, spells.readPath_eq⟩

/-- A route in which a port and a link are missing is accepted, with the link of one hop read as
the port of another. -/
theorem route_accepts_missing :
    ConnectionPath.route "1,0,,3,2,".toList = .ok ⟨[1, 0, 3, 2]⟩ ∧
      hopsOf (ConnectionPath.routeTokens "1,0,,3,2,".toList) =
        some [⟨1, .slot 0⟩, ⟨3, .slot 2⟩] ∧
      ¬ ∃ hops, RouteGrammar "1,0,,3,2,".toList hops := by
  refine ⟨by decide, by decide, ?_⟩
  rintro ⟨hops, ⟨blank, -⟩ | ⟨whole, -⟩⟩
  · exact absurd (blank '1' (by decide)) (by decide)
  · exact whole [] (by decide) rfl

end EipScanner
