import Plugpp.Tokenize

/-!
# Joining tokens into a string

`join` writes the elements of a range into a stream, before each of them the
text behind a pointer: an empty literal for the first element, the separator's
`c_str()` for every other. The elements are written as strings, the separator
as a C string, so only a separator without NUL is written as it is. Of another one,
what stands from its first NUL on is missing between any two elements.

Joining undoes splitting. Splitting at a character undoes joining as well, as
long as no element holds the character.
-/

namespace Plugpp.Tokenize

open Bytes Splitting

/-- The loop of `join`: what remains of the range, the text that `sep` points to
and the stream. -/
def joinFrom (separator : Bytes) : List Bytes → Bytes → Bytes → Bytes
  | [], _, ss => ss
  | walk :: rest, sep, ss => joinFrom separator rest separator (ss ++ sep.cString ++ walk)

/-- `join` of a range of strings. -/
def join (elements : List Bytes) (separator : Bytes) : Bytes := joinFrom separator elements [] []

/-- The loop appends the remaining elements to the stream, each behind what `sep`
points to when its turn comes. -/
theorem joinFrom_appends (separator : Bytes) (elements : List Bytes) (ss : Bytes) :
    joinFrom separator elements separator ss =
      ss ++ elements.flatMap (separator.cString ++ ·) := by
  induction elements generalizing ss with
  | nil => simp [joinFrom]
  | cons walk rest inductionHypothesis => simp [joinFrom, inductionHypothesis]

/-- `join` writes the C string of the separator between the elements. -/
theorem join_intercalates (elements : List Bytes) (separator : Bytes) :
    join elements separator = separator.cString.intercalate elements := by
  cases elements with
  | nil => rfl
  | cons first rest =>
    have started : join (first :: rest) separator = joinFrom separator rest separator first := rfl
    rw [started, joinFrom_appends]
    induction rest generalizing first with
    | nil => simp
    | cons next rest inductionHypothesis =>
      rw [List.intercalate_cons_cons, ← inductionHypothesis next rfl]
      simp

/-- `join` undoes `tokenize` by a string, and `tokenize` by a character undoes
`join`.

The string `d` may be empty or overlap itself: its occurrences are taken from the
left, and what lies between them is written back around it. -/
theorem join_tokenize :
    (∀ s d : Bytes, 0 ∉ d →
      join (tokenizeString s d .includeEmptyTokens) d = s ∧
        (d ≠ [] → ∀ token ∈ tokenizeString s d .includeEmptyTokens, ¬ d <:+: token)) ∧
    (∀ (c : UInt8) (list : List Bytes), c ≠ 0 → list ≠ [] → (∀ element ∈ list, c ∉ element) →
      tokenize (join list [c]) c .includeEmptyTokens = list) := by
  refine ⟨?_, ?_⟩
  · intro s d free
    rw [join_intercalates, cString_free d free]
    by_cases empty : d = []
    · refine ⟨?_, fun nonempty => absurd empty nonempty⟩
      rw [empty, tokenizeString_nil, List.intercalate_singleton]
    · rw [tokenizeString_included s d empty]
      exact ⟨intercalate_pieces s, fun _ => pieces_free s⟩
  · intro c list nonzero nonempty free
    have single : 0 ∉ [c] := by simpa using nonzero.symm
    rw [tokenize_splits, join_intercalates, cString_free [c] single]
    exact List.splitOn_intercalate c free nonempty

/-- A delimiter that overlaps itself in the string, and a list with empty strings. -/
theorem join_tokenize_overlapping :
    join (tokenizeString (literal "aaaaba") (literal "aa") .includeEmptyTokens) (literal "aa") =
        literal "aaaaba" ∧
      tokenize (join [[], literal "a", []] (literal ";")) 0x3B .includeEmptyTokens =
        [[], literal "a", []] :=
  ⟨(join_tokenize.1 (literal "aaaaba") (literal "aa") (by decide)).1,
    join_tokenize.2 0x3B [[], literal "a", []] (by decide) (by decide) (by decide)⟩

/-! ## Separators with a NUL -/

/-- `join` writes the whole separator exactly if it has no NUL or is not written at
all. The lengths tell: with two elements, one separator cut short makes the text too
short. -/
theorem join_eq_intercalate_iff (elements : List Bytes) (separator : Bytes) :
    join elements separator = separator.intercalate elements ↔
      elements.length ≤ 1 ∨ 0 ∉ separator := by
  rw [join_intercalates, ← cString_eq_self_iff]
  constructor
  · intro same
    by_contra two
    obtain ⟨several, cut⟩ := not_or.mp two
    have lengths := congrArg List.length same
    rw [intercalate_length, intercalate_length, Nat.add_left_cancel_iff] at lengths
    have positive : 0 < elements.length - 1 := by omega
    exact cut (cString_of_length separator (Nat.eq_of_mul_eq_mul_left positive lengths))
  · rintro (few | whole)
    · match elements with
      | [] => rfl
      | [element] => rw [List.intercalate_singleton, List.intercalate_singleton]
      | _ :: _ :: _ => simp at few
    · rw [whole]

/-- `join` is the elements in order with the whole separator between each two
neighbours, and as long as these are together, exactly if there are not two elements or
the separator has no NUL. -/
theorem join_whole_iff (elements : List Bytes) (separator : Bytes) :
    (join elements separator = separator.intercalate elements ∧
      (elements ≠ [] → (join elements separator).length =
        (elements.map List.length).sum + (elements.length - 1) * separator.length)) ↔
      elements.length ≤ 1 ∨ 0 ∉ separator := by
  rw [← join_eq_intercalate_iff]
  refine and_iff_left_of_imp fun whole _ => ?_
  rw [whole, intercalate_length]

/-- A separator that begins with a NUL is not written. -/
theorem join_cut :
    ¬ (join [literal "a", literal "b"] [0, 0x2C] =
        List.intercalate [0, 0x2C] [literal "a", literal "b"] ∧
      ([literal "a", literal "b"] ≠ [] → (join [literal "a", literal "b"] [0, 0x2C]).length =
        ([literal "a", literal "b"].map List.length).sum +
          ([literal "a", literal "b"].length - 1) * ([0, 0x2C] : Bytes).length)) := by
  rintro ⟨whole, _⟩
  exact absurd whole (by decide)

end Plugpp.Tokenize
