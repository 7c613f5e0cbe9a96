import Plugpp.Join

/-!
# Replacing a substring

`replaceAllInplace` searches the string that it is changing. Behind each replacement
it goes on searching where the inserted text ends, so what it has not searched yet is
always an end of the original string, and becomes shorter with every replacement
whatever happens to the length of the string.

What is replaced are therefore the leftmost occurrences in the original string, and
the result is what splitting at the one string and joining with the other gives.
-/

namespace Plugpp

open Bytes Splitting Tokenize

/-- The loop of `replaceAllInplace`: the string and the position to search from. -/
def replaceAllInplaceFrom (needle replacement : Bytes) (nonempty : needle ≠ []) (str : Bytes)
    (pos : Nat) : Bytes :=
  match _ : str.find needle pos with
  | some found =>
    replaceAllInplaceFrom needle replacement nonempty (str.replace found needle.length replacement)
      (found + replacement.length)
  | none => str
termination_by str.length - pos
decreasing_by
  have found := find_behind (by assumption : str.find needle pos = some _)
  have positive := List.length_pos_iff.mpr nonempty
  simp only [replace, List.length_append, List.length_take, List.length_drop]
  omega

/-- `replaceAllInplace`. -/
def replaceAllInplace (str needle replacement : Bytes) : Bytes :=
  if empty : needle = [] then str else replaceAllInplaceFrom needle replacement empty str 0

/-- `replaceAll`. -/
def replaceAll (str needle replacement : Bytes) : Bytes := replaceAllInplace str needle replacement

section Loop

variable {needle replacement : Bytes} {nonempty : needle ≠ []} {str : Bytes} {pos : Nat}

/-- Where the needle is found, it is replaced and the search goes on behind the inserted
text. -/
theorem replaceAllInplaceFrom_found {found : Nat} (located : str.find needle pos = some found) :
    replaceAllInplaceFrom needle replacement nonempty str pos =
      replaceAllInplaceFrom needle replacement nonempty
        (str.replace found needle.length replacement) (found + replacement.length) := by
  rw [replaceAllInplaceFrom]
  split
  · next same =>
    rw [located] at same
    cases same
    rfl
  · next absent => simp [located] at absent

/-- Where it is not found, the loop ends. -/
theorem replaceAllInplaceFrom_absent (absent : str.find needle pos = none) :
    replaceAllInplaceFrom needle replacement nonempty str pos = str := by
  rw [replaceAllInplaceFrom]
  split
  · next located => simp [absent] at located
  · rfl

end Loop

/-- From a position on, the loop leaves what is in front and writes the replacement
between the pieces of what is behind. Induct along these pieces: what lies behind the
inserted text is what lay behind the needle. -/
theorem replaceAllInplaceFrom_pieces (needle replacement : Bytes) (nonempty : needle ≠ [])
    (str : Bytes) (pos : Nat) (inside : pos ≤ str.length) :
    replaceAllInplaceFrom needle replacement nonempty str pos =
      str.take pos ++ replacement.intercalate (pieces needle nonempty (str.drop pos)) := by
  induction remaining : str.drop pos using pieces.induct needle nonempty
    generalizing str pos with
  | case1 text offset located inductionHypothesis =>
    subst remaining
    have found : str.find needle pos = some (offset + pos) := by
      simp [Bytes.find, inside, located]
    obtain ⟨_, fits⟩ := find_behind found
    have front : (str.take (offset + pos) ++ replacement).length =
        offset + pos + replacement.length := by
      rw [List.length_append, List.length_take]
      omega
    have replaced : str.replace (offset + pos) needle.length replacement =
        (str.take (offset + pos) ++ replacement) ++ str.drop (offset + pos + needle.length) := rfl
    have unsearched : (str.replace (offset + pos) needle.length replacement).drop
        (offset + pos + replacement.length) = (str.drop pos).drop (offset + needle.length) := by
      rw [replaced, ← front, List.drop_left, List.drop_drop]
      congr 1
      omega
    have fitsAgain : offset + pos + replacement.length ≤
        (str.replace (offset + pos) needle.length replacement).length := by
      rw [replaced, List.length_append, front]
      omega
    have before : str.take (offset + pos) = str.take pos ++ (str.drop pos).take offset := by
      rw [Nat.add_comm, List.take_add]
    rw [replaceAllInplaceFrom_found found, inductionHypothesis _ _ fitsAgain unsearched, replaced,
      ← front, List.take_left, before, pieces_found located,
      List.intercalate_cons_of_ne_nil (pieces_ne_nil _)]
    simp only [List.append_assoc]
  | case2 text located =>
    subst remaining
    have absent : str.find needle pos = none := by
      simp [Bytes.find, located]
    rw [replaceAllInplaceFrom_absent absent, pieces_absent located, List.intercalate_singleton,
      List.take_append_drop]

/-- `replaceAll` writes the replacement between the pieces. -/
theorem replaceAll_intercalates (str replacement : Bytes) {needle : Bytes} (nonempty : needle ≠ []) :
    replaceAll str needle replacement = replacement.intercalate (pieces needle nonempty str) := by
  rw [replaceAll, replaceAllInplace, dif_neg nonempty]
  simpa using replaceAllInplaceFrom_pieces needle replacement nonempty str 0 (Nat.zero_le _)

/-- `replaceAll` writes the replacement in the place of the occurrences at which
`tokenize` splits the string. -/
theorem replaceAll_joins (str needle replacement : Bytes) (free : 0 ∉ replacement) :
    replaceAll str needle replacement =
        join (tokenizeString str needle .includeEmptyTokens) replacement ∧
      ∀ nonempty : needle ≠ [], replaceAll str needle replacement =
        replacement.intercalate (pieces needle nonempty str) := by
  rw [join_intercalates, cString_free replacement free]
  by_cases empty : needle = []
  · refine ⟨?_, fun nonempty => absurd empty nonempty⟩
    rw [empty, tokenizeString_nil, List.intercalate_singleton, replaceAll, replaceAllInplace,
      dif_pos rfl]
  · have replaced : replaceAll str needle replacement =
        replacement.intercalate (pieces needle empty str) := by
      rw [replaceAll, replaceAllInplace, dif_neg empty]
      simpa using replaceAllInplaceFrom_pieces needle replacement empty str 0 (Nat.zero_le _)
    refine ⟨?_, fun _ => replaced⟩
    rw [replaced, tokenizeString_included str needle empty]

/-- A replacement that contains the needle, in a string where the needle overlaps itself. -/
theorem replaceAll_joins_overlapping :
    replaceAll (literal "aaab") (literal "aa") (literal "aaa") =
        join (tokenizeString (literal "aaab") (literal "aa") .includeEmptyTokens)
          (literal "aaa") ∧
      ∀ nonempty : literal "aa" ≠ [],
        replaceAll (literal "aaab") (literal "aa") (literal "aaa") =
          (literal "aaa").intercalate (pieces (literal "aa") nonempty (literal "aaab")) :=
  replaceAll_joins (literal "aaab") (literal "aa") (literal "aaa") (by decide)

/-- What `replaceAll` writes can be replaced back if it begins with a character that the
string does not have, whatever else it holds: wherever it begins it was written. -/
theorem replaceAll_back (str needle : Bytes) (c : UInt8) (tail : Bytes) (absent : c ∉ str) :
    replaceAll (replaceAll str needle (c :: tail)) (c :: tail) needle = str := by
  have written : c :: tail ≠ [] := List.cons_ne_nil c tail
  rw [replaceAll_intercalates _ needle written]
  by_cases empty : needle = []
  · have unfound : Search.occurrence (c :: tail) str = none := by
      rw [Search.occurrence_none_iff]
      exact fun inside => absent (inside.subset List.mem_cons_self)
    have unchanged : replaceAll str needle (c :: tail) = str := by
      rw [replaceAll, replaceAllInplace, dif_pos empty]
    rw [unchanged, pieces_absent unfound, List.intercalate_singleton]
  · have free : ∀ piece ∈ pieces needle empty str, c ∉ piece := by
      intro piece isPiece member
      have whole : needle.intercalate (pieces needle empty str) = str := intercalate_pieces str
      exact absent (whole ▸ mem_intercalate needle c _ piece isPiece member)
    rw [replaceAll_intercalates str _ empty,
      pieces_intercalate c tail (pieces_ne_nil str) free, intercalate_pieces]

/-- A replacement that overlaps itself, between neighbouring occurrences. -/
theorem replaceAll_back_overlapping :
    replaceAll (replaceAll (literal "aabab") (literal "a") (literal "xyx")) (literal "xyx")
      (literal "a") = literal "aabab" :=
  replaceAll_back (literal "aabab") (literal "a") 0x78 (literal "yx") (by decide)

end Plugpp
