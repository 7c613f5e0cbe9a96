import Plugpp.Bytes
import Plugpp.Trimming

/-!
# Trimming whitespace

`trim` erases what lies before the first character that is not whitespace, then
what lies behind the last one. Both positions are found in the string that was
passed in; the second one is used on the string that has already lost its front.
It is too large by the number of characters erased there.

So the front is always right. The back is right where nothing was in front, and
otherwise keeps as much of the whitespace behind as there was whitespace in
front; where there was less behind, `erase` throws.
-/

namespace Plugpp

open Bytes Trimming

/-- The whitespace characters that `trim` considers. -/
def whitespaces : Bytes := [0x09, 0x0A, 0x0B, 0x0C, 0x0D, 0x20]

/-- `trim`. None is the exception of `erase`; the successor of `npos` is zero. -/
def trim (str : Bytes) : Option Bytes := do
  let result ← erase str 0 (findFirstNotOf str whitespaces)
  erase result (match findLastNotOf str whitespaces with
    | some last => last + 1
    | none => 0) none

/-- Whitespace, as the library of trimming sees it. -/
def isBlank (character : UInt8) : Bool := whitespaces.contains character

/-- A string of whitespace is trimmed to nothing. -/
theorem trim_blank (str : Bytes) (blank : ∀ character ∈ str, isBlank character = true) :
    trim str = some [] := by
  have notFound : findFirstNotOf str whitespaces = none := by
    simpa [findFirstNotOf, List.findIdx?_eq_none_iff, isBlank] using blank
  have notLast : findLastNotOf str whitespaces = none :=
    Search.lastPosition_none _ str fun character member => by
      simpa [isBlank] using blank character member
  simp [trim, notFound, notLast, erase]

/-- Around a core that is not empty, the front is erased, and of the whitespace
behind as much is left as there was in front. -/
theorem trim_around {before core behind : Bytes}
    (isCore : Core isBlank (before ++ core ++ behind) core) (nonempty : core ≠ [])
    (blankBefore : ∀ character ∈ before, isBlank character = true)
    (blankBehind : ∀ character ∈ behind, isBlank character = true) :
    trim (before ++ core ++ behind) =
      if before.length ≤ behind.length then some (core ++ behind.take before.length)
      else none := by
  have first : findFirstNotOf (before ++ core ++ behind) whitespaces = some before.length := by
    obtain ⟨letter, rest, rfl⟩ := List.exists_cons_of_ne_nil nonempty
    have letterStays := isCore.starts letter rfl
    rw [List.append_assoc, List.cons_append]
    refine Search.firstPosition_found _ before letter (rest ++ behind) ?_ ?_
    · intro character member
      simpa [isBlank] using blankBefore character member
    · simpa [isBlank] using letterStays
  have last : findLastNotOf (before ++ core ++ behind) whitespaces =
      some (before ++ core.dropLast).length := by
    have letterStays := isCore.ends _ (List.getLast?_eq_some_getLast nonempty)
    have split : before ++ core ++ behind =
        (before ++ core.dropLast) ++ core.getLast nonempty :: behind := by
      conv => lhs; rw [← List.dropLast_append_getLast nonempty]
      simp
    rw [split]
    refine Search.lastPosition_found _ _ _ behind ?_ ?_
    · simpa [isBlank] using letterStays
    · intro character member
      simpa [isBlank] using blankBehind character member
  have size : core.dropLast.length + 1 = core.length := by
    have positive := List.length_pos_iff.mpr nonempty
    rw [List.length_dropLast]
    omega
  have position : (before ++ core.dropLast).length + 1 = core.length + before.length := by
    rw [List.length_append]
    omega
  have front : erase (before ++ core ++ behind) 0 (some before.length) = some (core ++ behind) := by
    simp [erase]
  have back : erase (core ++ behind) (core.length + before.length) none =
      if before.length ≤ behind.length then some (core ++ behind.take before.length) else none := by
    simp only [erase, List.length_append, Nat.add_le_add_iff_left, List.take_length_add_append]
  simp only [trim, first, last, Option.bind_eq_bind, front, Option.bind_some, position, back]

/-- What `trim` returns is the one core of a string exactly if it is this core. -/
theorem returned_core_iff {s result core : Bytes} (returned : trim s = some result)
    (isCore : Core isBlank s core) :
    (∃ r, trim s = some r ∧ Core isBlank s r ∧ ∀ other, Core isBlank s other → other = r) ↔
      result = core := by
  constructor
  · rintro ⟨r, found, _, only⟩
    rw [only core isCore]
    exact Option.some.inj (returned.symm.trans found)
  · rintro rfl
    exact ⟨result, returned, isCore, fun other otherCore => otherCore.unique isCore⟩

/-- `trim` returns the core of a string exactly if the string is whitespace
altogether or does not begin with whitespace.

Where a core has whitespace in front, either less lies behind and `erase` throws,
or a part of it stays: what is returned then ends with whitespace. -/
theorem trim_iff (s : Bytes) :
    (∃ r, trim s = some r ∧ Core isBlank s r ∧ ∀ other, Core isBlank s other → other = r) ↔
      (∀ character ∈ s, isBlank character = true) ∨
        ∀ character, s.head? = some character → isBlank character = false := by
  have isCore := core_dropped isBlank s
  generalize (s.dropWhile isBlank).rdropWhile isBlank = core at isCore
  obtain ⟨before, behind, whole, blankBefore, blankBehind⟩ := isCore.around
  by_cases empty : core = []
  · have blank : ∀ character ∈ s, isBlank character = true := by
      intro character member
      rw [whole, empty, List.append_nil, List.mem_append] at member
      exact member.elim (blankBefore character) (blankBehind character)
    exact iff_of_true ((returned_core_iff (trim_blank s blank) isCore).mpr empty.symm)
      (Or.inl blank)
  · obtain ⟨letter, rest, isLetter⟩ := List.exists_cons_of_ne_nil empty
    have stays : isBlank letter = false := isCore.starts letter (by simp [isLetter])
    have notBlank : ¬ ∀ character ∈ s, isBlank character = true := by
      intro blank
      have here := blank letter (by simp [whole, isLetter])
      simp [stays] at here
    have unblanked : (∀ character, s.head? = some character → isBlank character = false) ↔
        before = [] := by
      cases before with
      | nil => simp [whole, isLetter, stays]
      | cons first others => simp [whole, blankBefore first (by simp)]
    have trimmed := trim_around (whole ▸ isCore) empty blankBefore blankBehind
    rw [← whole] at trimmed
    rw [or_iff_right notBlank, unblanked]
    by_cases enough : before.length ≤ behind.length
    · rw [if_pos enough] at trimmed
      rw [returned_core_iff trimmed isCore, List.append_right_eq_self, List.take_eq_nil_iff,
        List.length_eq_zero_iff, or_iff_left_iff_imp]
      rintro rfl
      exact List.length_eq_zero_iff.mp (Nat.le_zero.mp enough)
    · rw [if_neg enough] at trimmed
      constructor
      · rintro ⟨r, found, _⟩
        simp [trimmed] at found
      · rintro rfl
        exact absurd (Nat.zero_le _) enough

/-- With blanks only in front, `trim` throws. -/
theorem trim_throws : ¬ ∃ r, trim (literal "  a") = some r ∧ Core isBlank (literal "  a") r ∧
    ∀ other, Core isBlank (literal "  a") other → other = r := by
  rintro ⟨r, found, _⟩
  have thrown : trim (literal "  a") = none := by decide
  simp [thrown] at found

/-- With blanks on both sides, one in front leaves one behind. -/
example : trim (literal " a ") = some (literal "a ") := by decide

end Plugpp
