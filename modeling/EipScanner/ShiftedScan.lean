/-
This file is about a list that is read place by place while elements are put in front of it. An
element moves back by one place for each element in front, and a reader that goes on by one place
at a time never steps over it. So whatever was in the list before the reader started has been read
once the reader is past it.

What is put in front in the meantime is read only as far as it is moved under the reader, and the
newest element never is. When the list holds a number of elements at most, those beyond drop out,
and this holds of the ones that are left.

Nothing here names what the elements are or who reads them.
-/

import Mathlib.Tactic

namespace ShiftedScan

variable {Element : Type*} {newer old : List Element} {place : Nat} {seen : Set Element}

/-! ### Bounded lists -/

/-- What dropped out before more is put in front would have dropped out later. -/
theorem take_append_take (front list : List Element) (size : Nat) :
    (front ++ list.take size).take size = (front ++ list).take size := by
  rw [List.take_append, List.take_take, Nat.min_eq_left (Nat.sub_le _ _), ← List.take_append]

theorem tail_subset_tail_append (front list : List Element) :
    list.tail ⊆ (front ++ list).tail := by
  cases front with
  | nil => exact List.Subset.refl _
  | cons first rest =>
    exact List.Subset.trans (List.tail_subset list) (List.subset_append_right rest list)

theorem tail_append_subset (front list : List Element) :
    (front ++ list).tail ⊆ front.tail ++ list := by
  cases front with
  | nil => exact List.tail_subset list
  | cons first rest => exact List.Subset.refl _

/-! ### The reader -/

/-- The places before one were read while the newer elements were put in front of the old ones: the
old elements that are now before the place were seen, and nothing was seen but old elements and
newer ones that are not the newest. -/
structure Scan (newer old : List Element) (place : Nat) (seen : Set Element) : Prop where
  passed : ∀ element ∈ old.take (place - newer.length), element ∈ seen
  known : ∀ element ∈ seen, element ∈ newer.tail ++ old

theorem Scan.start (old : List Element) : Scan [] old 0 ∅ where
  passed := List.forall_mem_nil _
  known _ member := absurd member (Set.notMem_empty _)

/-- Elements are put in front. -/
theorem Scan.grow (scan : Scan newer old place seen) (front : List Element) :
    Scan (front ++ newer) old place seen where
  passed element member := by
    refine scan.passed element (List.take_subset_take_left _ ?_ member)
    rw [List.length_append]
    omega
  known element member := by
    rcases List.mem_append.mp (scan.known element member) with among | among
    · exact List.mem_append_left _ (tail_subset_tail_append _ _ among)
    · exact List.mem_append_right _ among

/-- The old elements before the next place are those before this one, and the one in this place if
it is old. -/
theorem mem_take_succ {here element : Element} (found : (newer ++ old)[place]? = some here)
    (member : element ∈ old.take (place + 1 - newer.length)) :
    element ∈ old.take (place - newer.length) ∨ element = here := by
  by_cases few : newer.length ≤ place
  · rw [Nat.succ_sub few, List.take_add_one, List.mem_append] at member
    rw [List.getElem?_append_right few] at found
    rw [found, Option.toList_some, List.mem_singleton] at member
    exact member
  · rw [Nat.sub_eq_zero_of_le (Nat.succ_le_of_lt (not_le.mp few)), List.take_zero] at member
    exact absurd member List.not_mem_nil

/-- A place is read. Nothing is put in front before the first one is. -/
theorem Scan.read (scan : Scan newer old place seen) {here : Element}
    (found : (newer ++ old)[place]? = some here) (behind : place = 0 → newer = []) :
    Scan newer old (place + 1) (insert here seen) where
  passed element member := by
    rcases mem_take_succ found member with before | now
    · exact Set.mem_insert_of_mem _ (scan.passed element before)
    · exact Or.inl now
  known element member := by
    rcases member with rfl | before
    · rcases Nat.eq_zero_or_pos place with zero | positive
      · rw [behind zero] at found ⊢
        exact List.mem_of_getElem? found
      · obtain ⟨before, rfl⟩ := Nat.exists_eq_succ_of_ne_zero positive.ne'
        rw [← List.getElem?_tail] at found
        exact tail_append_subset _ _ (List.mem_of_getElem? found)
    · exact scan.known element before

/-- Past the last place all old elements were seen. -/
theorem Scan.finish (scan : Scan newer old place seen) (past : (newer ++ old).length ≤ place)
    (later : Nat) : Scan newer old later seen where
  passed element member := by
    refine scan.passed element ?_
    rw [List.length_append] at past
    rw [List.take_of_length_le (by omega)]
    exact List.mem_of_mem_take member
  known := scan.known

/-- When as many places were read as the list has, what is in the list was seen or is newer. -/
theorem Scan.seen_or_newer {size : Nat} (scan : Scan newer old size seen) {element : Element}
    (member : element ∈ (newer ++ old).take size) : element ∈ seen ∨ element ∈ newer := by
  rw [List.take_append, List.mem_append] at member
  rcases member with among | among
  · exact Or.inr (List.mem_of_mem_take among)
  · exact Or.inl (scan.passed element among)

end ShiftedScan
