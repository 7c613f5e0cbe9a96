import Plugpp.Command
import Plugpp.Join

/-!
# What stands at the ends of a string

`startsWith` and `endsWith` compare a string with what it may begin or end with, and both
make sure first that it is long enough. `tokenize` shows the same at its outer tokens, as
far as it can: where the delimiter overlaps itself, what the string ends with may have been
cut before.

`concatenate` writes its arguments one behind the other, and makes the text of an
`Exception`.
-/

namespace Plugpp

open Bytes Splitting Tokenize

/-- `std::mismatch` of two ranges, by the position in the first one at which it stops. None
is a read behind the second one. -/
def mismatch : Bytes → Bytes → Option Nat
  | [], _ => some 0
  | _ :: _, [] => none
  | c :: rest, other :: others =>
      if c = other then (mismatch rest others).map (· + 1) else some 0

/-- `startsWith`. -/
def startsWith (str start : Bytes) : Bool :=
  str.length ≥ start.length && mismatch start str == some start.length

/-- `endsWith`. -/
def endsWith (str suffix : Bytes) : Bool :=
  str.length ≥ suffix.length &&
    str.substr (str.length - suffix.length) (some suffix.length) == suffix

/-- `serialize` of strings. -/
def serialize (stream first : Bytes) (args : List Bytes) : Bytes :=
  args.foldl (· ++ ·) (stream ++ first)

/-- `concatenate` of strings. -/
def concatenate (first : Bytes) (args : List Bytes) : Bytes := serialize [] first args

/-- `std::mismatch` runs through the first range exactly if the second one begins with it. -/
theorem mismatch_iff (start str : Bytes) :
    mismatch start str = some start.length ↔ start <+: str := by
  induction start generalizing str with
  | nil => simp [mismatch]
  | cons c rest inductionHypothesis =>
    cases str with
    | nil => simp [mismatch]
    | cons other others =>
      by_cases same : c = other
      · simp [mismatch, same, List.cons_prefix_cons, inductionHypothesis]
      · simp [mismatch, same, List.cons_prefix_cons]

/-- In a string that is long enough it reads nothing behind it. -/
theorem mismatch_defined (start str : Bytes) (long : start.length ≤ str.length) :
    mismatch start str ≠ none := by
  induction start generalizing str with
  | nil => simp [mismatch]
  | cons c rest inductionHypothesis =>
    cases str with
    | nil => simp at long
    | cons other others =>
      have later := inductionHypothesis others (by simpa using long)
      by_cases same : c = other <;> simp [mismatch, same, later]

/-- `startsWith` tells whether the string begins with the other one. -/
theorem startsWith_iff (str start : Bytes) : startsWith str start = true ↔ start <+: str := by
  rw [startsWith, Bool.and_eq_true, beq_iff_eq, mismatch_iff, decide_eq_true_eq]
  exact and_iff_right_of_imp List.IsPrefix.length_le

/-- `endsWith` tells whether the string ends with the other one. -/
theorem endsWith_iff (str suffix : Bytes) : endsWith str suffix = true ↔ suffix <:+ str := by
  rw [endsWith, Bool.and_eq_true, beq_iff_eq, decide_eq_true_eq]
  constructor
  · rintro ⟨long, same⟩
    rw [← same]
    simp only [substr]
    rw [List.take_of_length_le (by rw [List.length_drop]; omega)]
    exact List.drop_suffix ..
  · intro ends
    have long := ends.length_le
    refine ⟨long, ?_⟩
    obtain ⟨front, rfl⟩ := ends
    simp [substr]

/-- Of every string that is not empty and every delimiter, the first token is empty exactly
if the string starts with the delimiter. If the last token is empty, the string ends with
it; and for this to hold the other way round, whatever the string, it takes exactly a
delimiter that does not overlap itself. -/
theorem outer_tokens (delimiter : Bytes) (nonempty : delimiter ≠ []) :
    (∀ str, str ≠ [] →
      ((tokenizeString str delimiter .includeEmptyTokens).head? = some [] ↔
        startsWith str delimiter = true)) ∧
    (∀ str, str ≠ [] →
      (tokenizeString str delimiter .includeEmptyTokens).getLast? = some [] →
        endsWith str delimiter = true) ∧
    ((∀ str, endsWith str delimiter = true →
      (tokenizeString str delimiter .includeEmptyTokens).getLast? = some []) ↔
        Borderless delimiter) := by
  refine ⟨?_, ?_, ?_⟩
  · intro str something
    rw [tokenizeString_included str delimiter nonempty, pieces_head_iff, startsWith_iff]
    exact or_iff_right something
  · intro str something last
    rw [tokenizeString_included str delimiter nonempty] at last
    exact (endsWith_iff str delimiter).mpr (suffix_of_pieces_last something last)
  · rw [@borderless_iff _ _ delimiter nonempty]
    simp only [tokenizeString_included _ delimiter nonempty, endsWith_iff]

/-- A string that starts with a comma and a space. -/
theorem outer_tokens_comma :
    (tokenizeString (literal ", a") (literal ", ") .includeEmptyTokens).head? = some [] :=
  ((outer_tokens (literal ", ") (by decide)).1 (literal ", a") (by decide)).mpr (by decide)

/-- `concatenate` joins without a separator. -/
theorem concatenate_joins (first : Bytes) (args : List Bytes) :
    concatenate first args = join (first :: args) [] := by
  have appended : ∀ stream, args.foldl (· ++ ·) stream = joinFrom [] args [] stream := by
    induction args with
    | nil => exact fun _ => rfl
    | cons arg rest inductionHypothesis =>
      intro stream
      rw [List.foldl_cons, inductionHypothesis, joinFrom]
      simp [cString]
  exact appended ([] ++ first)

/-- What the constructor of a command throws has the name between two texts, which has been
moved away. -/
example : Command.slotsExceeded = .exception (concatenate (literal "Failed to register command ")
    [[], literal " - number of available command slots exceeded"]) := rfl

end Plugpp
