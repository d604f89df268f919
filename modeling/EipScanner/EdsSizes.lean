/-
This file asks whether the size of an assembly is exact. The sizes of its members are
added up in 64 bits, also where the entry has a size field and the sum is not used. In a
build with overflow checks a sum that does not fit stops the program, in any other build
it wraps around. A member whose size is no 64-bit number is passed over.

So a size is exact where every member that is there has a size that is a number and the
total fits. Otherwise it is exact only by not being returned: where the size field is
there and is no number, the assembly is refused, unless the sum went wrong before.
-/

import EipScanner.EdsNumbers

namespace EipScanner

/-! ### Adding in 64 bits -/

/-- Add two 64-bit numbers. With overflow checks a sum that does not fit stops the program. -/
def addU64 (overflowChecks : Bool) (first second : Nat) : Option Nat :=
  if first + second < 2 ^ 64 then some (first + second)
  else if overflowChecks then none
  else some ((first + second) % 2 ^ 64)

/-- The sum of an iterator. -/
def sumU64 (overflowChecks : Bool) (values : List Nat) : Option Nat :=
  values.foldlM (addU64 overflowChecks) 0

/-- Without overflow checks a sum wraps around. -/
theorem sumU64_unchecked (values : List Nat) :
    sumU64 false values = some (values.sum % 2 ^ 64) := by
  have wraps : ∀ first second, addU64 false first second = some ((first + second) % 2 ^ 64) := by
    intro first second
    unfold addU64
    split
    next fits => rw [Nat.mod_eq_of_lt fits]
    · rfl
  have behind : ∀ start, start < 2 ^ 64 → values.foldlM (addU64 false) start =
      some ((start + values.sum) % 2 ^ 64) := by
    induction values with
    | nil =>
      intro start small
      rw [List.sum_nil, Nat.add_zero, Nat.mod_eq_of_lt small]
      rfl
    | cons value rest inductionHypothesis =>
      intro start _
      rw [List.foldlM_cons, wraps]
      refine (inductionHypothesis _ (Nat.mod_lt _ (Nat.two_pow_pos 64))).trans ?_
      rw [Nat.mod_add_mod, List.sum_cons, Nat.add_assoc]
  rw [sumU64, behind 0 (Nat.two_pow_pos 64), Nat.zero_add]

/-- With overflow checks a sum is exact, or the program stops. -/
theorem sumU64_checked (values : List Nat) :
    sumU64 true values = if values.sum < 2 ^ 64 then some values.sum else none := by
  have behind : ∀ start, start < 2 ^ 64 → values.foldlM (addU64 true) start =
      if start + values.sum < 2 ^ 64 then some (start + values.sum) else none := by
    induction values with
    | nil =>
      intro start small
      rw [List.sum_nil, Nat.add_zero, if_pos small]
      rfl
    | cons value rest inductionHypothesis =>
      intro start _
      rw [List.foldlM_cons, List.sum_cons, ← Nat.add_assoc]
      by_cases fits : start + value < 2 ^ 64
      · rw [addU64, if_pos fits]
        exact inductionHypothesis _ fits
      · rw [addU64, if_neg fits, if_pos rfl, if_neg (by omega)]
        rfl
  rw [sumU64, behind 0 (Nat.two_pow_pos 64), Nat.zero_add]

/-! ### Assemblies in both kinds of build -/

namespace Eds

/-- `AssemN` from `[Assembly]` in a build with or without overflow checks. There is no outcome where
an overflow stops the program. -/
def assemblyWith (overflowChecks : Bool) (eds : Eds) (number : UInt32) :
    Option (Except Error EdsAssembly) :=
  match eds.assemblyEntry number with
  | .error refused => some (.error refused)
  | .ok entry =>
    (sumU64 overflowChecks (countedSizes entry)).map fun bits => do
      let bytes ← intField entry 2
      return {
        number
        name := (entry.field 0).text.getD []
        size := bytes.getD ((bits + 7) / 8) }

/-- Without overflow checks an assembly always has an outcome. -/
theorem assemblyWith_unchecked (eds : Eds) (number : UInt32) :
    eds.assemblyWith false number = some (eds.assembly number) := by
  unfold assemblyWith assembly
  cases eds.assemblyEntry number with
  | error refused => rfl
  | ok entry =>
    dsimp only
    rw [sumU64_unchecked, ← memberBits_eq]
    rfl

/-- With overflow checks it has the same one where the sizes that are added up fit. -/
theorem assemblyWith_checked {eds : Eds} {number : UInt32} {entry : Parse.Entry}
    (found : eds.assemblyEntry number = .ok entry) :
    eds.assemblyWith true number =
      if (countedSizes entry).sum < 2 ^ 64 then some (eds.assembly number) else none := by
  unfold assemblyWith assembly
  rw [found]
  dsimp only
  rw [sumU64_checked]
  split
  next fits =>
    rw [Option.map_some, ok_bind, memberBits_eq, Nat.mod_eq_of_lt fits]
  · rfl

/-! ### Exact sizes -/

/-- Every size that is there is a number. -/
def AllNumbers (entry : Parse.Entry) : Prop :=
  ∀ text ∈ memberSizes entry, (Parse.natural text).isSome = true

/-- The sum of all sizes that are numbers of any size. -/
def exactTotal (entry : Parse.Entry) : Nat := ((memberSizes entry).filterMap Parse.natural).sum

/-- Every size that is there is a number, and their total fits in 64 bits. -/
def Summable (entry : Parse.Entry) : Prop := AllNumbers entry ∧ exactTotal entry < 2 ^ 64

/-- The size of an assembly as its entry says: the size field if there is one, else the total of
the member sizes in bytes, rounded up. -/
def HasSize (entry : Parse.Entry) (size : Nat) : Prop :=
  match (entry.field 2).text with
  | some text => Parse.natural text = some size
  | none => AllNumbers entry ∧ size = (exactTotal entry + 7) / 8

/-- The size field is there and is no 64-bit number. -/
def SizeUnreadable (entry : Parse.Entry) : Prop :=
  ∃ text, (entry.field 2).text = some text ∧ Parse.parseInt text = none

/-- The size of an assembly is exact. In no build does it overflow, what is returned is the size
that the entry says, and an entry is refused whose member sizes cannot be added up, where these are
looked at. -/
structure SizeExact (eds : Eds) (number : UInt32) (lookedAt : Parse.Entry → Prop) : Prop where
  returns : ∀ overflowChecks, ∃ outcome, eds.assemblyWith overflowChecks number = some outcome
  size : ∀ overflowChecks entry assembly, eds.assemblyEntry number = .ok entry →
    eds.assemblyWith overflowChecks number = some (.ok assembly) → HasSize entry assembly.size
  refused : ∀ overflowChecks entry, eds.assemblyEntry number = .ok entry → lookedAt entry →
    ¬ Summable entry → ∃ refused, eds.assemblyWith overflowChecks number = some (.error refused)

section Sums

variable {entry : Parse.Entry}

/-- Numbers whose total fits are all counted. -/
theorem filterMap_parseInt_eq {texts : List (List Char)}
    (fits : (texts.filterMap Parse.natural).sum < 2 ^ 64) :
    texts.filterMap Parse.parseInt = texts.filterMap Parse.natural := by
  refine List.filterMap_congr fun text member => ?_
  rw [Parse.parseInt_eq_filter]
  cases denoted : Parse.natural text with
  | none => rfl
  | some value =>
    have among : value ∈ texts.filterMap Parse.natural :=
      List.mem_filterMap.mpr ⟨text, member, denoted⟩
    have small : value < 2 ^ 64 := (List.le_sum_of_mem among).trans_lt fits
    simp only [Option.filter_some, small, decide_true, if_true]

theorem counted_of_summable (summable : Summable entry) :
    (countedSizes entry).sum = exactTotal entry := by
  rw [countedSizes, filterMap_parseInt_eq summable.2, exactTotal]

theorem counted_lt (summable : Summable entry) : (countedSizes entry).sum < 2 ^ 64 := by
  rw [counted_of_summable summable]
  exact summable.2

end Sums

section Exact

variable {eds : Eds} {number : UInt32} {entry : Parse.Entry}

/-- Whatever the build, an assembly has an outcome exactly where the sizes that are counted fit. -/
theorem returns_iff (found : eds.assemblyEntry number = .ok entry) :
    (∀ overflowChecks, ∃ outcome, eds.assemblyWith overflowChecks number = some outcome) ↔
      (countedSizes entry).sum < 2 ^ 64 := by
  have checked := assemblyWith_checked found
  constructor
  · intro returns
    obtain ⟨outcome, returned⟩ := returns true
    rw [checked] at returned
    by_contra tooMuch
    rw [if_neg tooMuch] at returned
    cases returned
  · intro fits overflowChecks
    cases overflowChecks with
    | false => exact ⟨_, assemblyWith_unchecked eds number⟩
    | true => exact ⟨_, checked.trans (if_pos fits)⟩

/-- Where the sizes that are counted fit, the build makes no difference. -/
theorem assemblyWith_of_fits (found : eds.assemblyEntry number = .ok entry)
    (fits : (countedSizes entry).sum < 2 ^ 64) (overflowChecks : Bool) :
    eds.assemblyWith overflowChecks number = some (eds.assembly number) := by
  cases overflowChecks with
  | false => exact assemblyWith_unchecked eds number
  | true => exact (assemblyWith_checked found).trans (if_pos fits)

/-- An assembly is refused exactly where its size field is there and is no number. -/
theorem assembly_refused_iff (found : eds.assemblyEntry number = .ok entry) :
    (∃ refused, eds.assembly number = .error refused) ↔ SizeUnreadable entry := by
  rw [assembly, found, ok_bind, intField]
  unfold SizeUnreadable
  cases (entry.field 2).text with
  | none => simp [pure, Except.pure]
  | some text =>
    cases parsed : Parse.parseInt text with
    | none => simp [parsed, bind, Except.bind]
    | some value => simp [parsed, bind, Except.bind, pure, Except.pure]

/-- The size that is returned where the sizes that are counted fit. -/
theorem size_of_assembly {assembly : EdsAssembly} (found : eds.assemblyEntry number = .ok entry)
    (returned : eds.assembly number = .ok assembly) :
    match (entry.field 2).text with
    | some text => Parse.natural text = some assembly.size
    | none => assembly.size = (memberBits entry + 7) / 8 := by
  rw [Eds.assembly, found, ok_bind, intField] at returned
  cases text : (entry.field 2).text with
  | none =>
    rw [text] at returned
    obtain rfl := Except.ok.inj returned
    rfl
  | some text' =>
    rw [text] at returned
    dsimp only at returned ⊢
    cases parsed : Parse.parseInt text' with
    | none =>
      rw [parsed] at returned
      cases returned
    | some value =>
      rw [parsed] at returned
      obtain rfl := Except.ok.inj returned
      rw [Parse.parseInt_eq_filter] at parsed
      exact (Option.filter_eq_some_iff.mp parsed).1

/-- When the size of an assembly is exact: its members can be added up, or they are not looked at
and what is counted of them fits, or the size field is refused and what is counted fits. -/
theorem sizeExact_iff_of_entry {lookedAt : Parse.Entry → Prop}
    (found : eds.assemblyEntry number = .ok entry)
    (used : (entry.field 2).text = none → lookedAt entry) :
    SizeExact eds number lookedAt ↔
      Summable entry ∨
        (SizeUnreadable entry ∨ ¬ lookedAt entry) ∧ (countedSizes entry).sum < 2 ^ 64 := by
  constructor
  · intro exact_
    have fits := (returns_iff found).mp exact_.returns
    by_cases summable : Summable entry
    · exact Or.inl summable
    refine Or.inr ⟨?_, fits⟩
    by_cases looked : lookedAt entry
    · obtain ⟨refused, returned⟩ := exact_.refused false entry found looked summable
      rw [assemblyWith_unchecked] at returned
      exact Or.inl ((assembly_refused_iff found).mp ⟨refused, Option.some.inj returned⟩)
    · exact Or.inr looked
  · intro condition
    have fits : (countedSizes entry).sum < 2 ^ 64 :=
      condition.elim counted_lt fun others => others.2
    refine ⟨(returns_iff found).mpr fits, ?_, ?_⟩
    · intro overflowChecks other assembly foundOther returned
      obtain rfl := Except.ok.inj (found.symm.trans foundOther)
      rw [assemblyWith_of_fits found fits] at returned
      have size := size_of_assembly found (Option.some.inj returned)
      unfold HasSize
      cases text : (entry.field 2).text with
      | some text' =>
        rw [text] at size
        exact size
      | none =>
        rw [text] at size
        have notRefused : ¬ SizeUnreadable entry := by
          rintro ⟨other, isText, -⟩
          cases text.symm.trans isText
        have summable : Summable entry :=
          condition.resolve_right fun others =>
            others.1.elim notRefused fun notLooked => notLooked (used text)
        refine ⟨summable.1, ?_⟩
        rw [size, memberBits_eq, Nat.mod_eq_of_lt fits, counted_of_summable summable]
    · intro overflowChecks other foundOther looked notSummable
      obtain rfl := Except.ok.inj (found.symm.trans foundOther)
      have unreadable := ((condition.resolve_left notSummable).1).resolve_right fun notLooked =>
        notLooked looked
      obtain ⟨refused, isRefused⟩ := (assembly_refused_iff found).mpr unreadable
      exact ⟨refused, by rw [assemblyWith_of_fits found fits, isRefused]⟩

/-- Where there is no entry, nothing can go wrong. -/
theorem sizeExact_of_absent {refused : Error} (absent : eds.assemblyEntry number = .error refused)
    (lookedAt : Parse.Entry → Prop) : SizeExact eds number lookedAt := by
  have outcome : ∀ overflowChecks,
      eds.assemblyWith overflowChecks number = some (.error refused) := by
    intro overflowChecks
    rw [assemblyWith, absent]
  refine ⟨fun overflowChecks => ⟨_, outcome overflowChecks⟩, ?_, ?_⟩
  · intro overflowChecks entry assembly found
    cases absent.symm.trans found
  · intro overflowChecks entry found
    cases absent.symm.trans found

/-- Exact assembly sizes. For every EDS and every assembly the size is exact exactly where there is
no entry, or its member sizes can be added up: each that is there is a number, and their total fits
in 64 bits; or the entry is refused because its size field is there and is no number, and the
64-bit numbers among the member sizes do not overflow. If the member sizes are only looked at where
there is no size field, it is also exact where there is one and they do not overflow. -/
theorem assembly_exact_iff (eds : Eds) (number : UInt32) :
    (SizeExact eds number (fun _ => True) ↔
      ∀ entry, eds.assemblyEntry number = .ok entry →
        Summable entry ∨ SizeUnreadable entry ∧ (countedSizes entry).sum < 2 ^ 64) ∧
      (SizeExact eds number (fun entry => (entry.field 2).text = none) ↔
        ∀ entry, eds.assemblyEntry number = .ok entry →
          Summable entry ∨ (entry.field 2).text ≠ none ∧ (countedSizes entry).sum < 2 ^ 64) := by
  cases found : eds.assemblyEntry number with
  | error refused =>
    exact ⟨iff_of_true (sizeExact_of_absent found _) (by simp),
      iff_of_true (sizeExact_of_absent found _) (by simp)⟩
  | ok entry =>
    have unreadable : SizeUnreadable entry → (entry.field 2).text ≠ none := by
      rintro ⟨text, isText, -⟩ absent
      cases absent.symm.trans isText
    rw [sizeExact_iff_of_entry found fun _ => trivial, sizeExact_iff_of_entry found id]
    simp only [Except.ok.injEq, forall_eq', not_true, or_false, true_and]
    refine or_congr_right (and_congr_left fun _ => ?_)
    exact ⟨fun either => either.elim unreadable id, Or.inr⟩

end Exact

/-- The text of an assembly without a size and with two members, whose sizes are given. -/
def membersText (first second : String) : List Char :=
  "[Assembly]\n Assem1 = \"\", , , , , , ".toList ++ first.toList ++ ", , ".toList ++
    second.toList ++ ", ;".toList

def membersEntry (first second : String) : Parse.Entry :=
  ⟨"Assem1".toList, [.str [], .empty, .empty, .empty, .empty, .empty, .token first.toList, .empty,
    .token second.toList, .empty], 2⟩

def membersSample (first second : String) : Eds :=
  ⟨[⟨"Assembly".toList, [membersEntry first second]⟩]⟩

/-- Two sizes that do not fit together stop a build with overflow checks, and any other returns one
byte. A size that is no number is passed over. -/
theorem assembly_not_exact :
    (Eds.parse (membersText "0xFFFFFFFFFFFFFFFF" "9") =
          .ok (membersSample "0xFFFFFFFFFFFFFFFF" "9") ∧
        (membersSample "0xFFFFFFFFFFFFFFFF" "9").assemblyWith true 1 = none ∧
        (membersSample "0xFFFFFFFFFFFFFFFF" "9").assemblyWith false 1 = some (.ok ⟨1, [], 1⟩) ∧
        ∀ lookedAt, ¬ SizeExact (membersSample "0xFFFFFFFFFFFFFFFF" "9") 1 lookedAt) ∧
      Eds.parse (membersText "16" "many") = .ok (membersSample "16" "many") ∧
        (membersSample "16" "many").assemblyWith true 1 = some (.ok ⟨1, [], 2⟩) ∧
        ∀ lookedAt, ¬ SizeExact (membersSample "16" "many") 1 lookedAt := by
  have stops : (membersSample "0xFFFFFFFFFFFFFFFF" "9").assemblyWith true 1 = none := by
    decide +kernel
  have skips : (membersSample "16" "many").assemblyWith true 1 = some (.ok ⟨1, [], 2⟩) := by
    decide +kernel
  refine ⟨⟨?_, stops, by decide +kernel, ?_⟩, ?_, skips, ?_⟩
  · rw [Eds.parse, Parse.parse_eq_scan]
    decide +kernel
  · intro lookedAt exact_
    obtain ⟨outcome, returned⟩ := exact_.returns true
    cases stops.symm.trans returned
  · rw [Eds.parse, Parse.parse_eq_scan]
    decide +kernel
  · intro lookedAt exact_
    have size : HasSize (membersEntry "16" "many") 2 :=
      exact_.size true (membersEntry "16" "many") ⟨1, [], 2⟩ (by decide +kernel) skips
    exact absurd (size.1 "many".toList (by decide +kernel)) (by decide +kernel)

end Eds

end EipScanner
