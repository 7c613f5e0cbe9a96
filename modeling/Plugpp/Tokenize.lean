import Plugpp.Bytes
import Plugpp.Splitting

/-!
# Splitting strings into tokens

`tokenize` by a predicate walks from one delimiter to the next with `find_if`
and copies what lies between. The empty string has its own exit, and the last
token is what remains behind the last delimiter. The overload for a single
character uses the predicate that recognises it.

With empty tokens included the walk is the standard splitting of a list at the
elements that satisfy the predicate.

`tokenize` by a string searches for the delimiter with `find` and remembers
positions in the string. Its tokens are the pieces between the leftmost
occurrences of the delimiter, without the empty ones where they are excluded.

The loops test for an empty token by their positions, each in its own way; to all of
them a mode means the same, and a string of one character is tokenized by like the
character.
-/

namespace Plugpp.Tokenize

open Bytes Splitting

/-- Whether empty tokens are part of the result. -/
inductive TokenizeMode where
  | includeEmptyTokens
  | excludeEmptyTokens
deriving DecidableEq

/-- The loop from the position `last` on, given what remains behind it. Each round
looks for the next delimiter, emits the text before it and steps over it. -/
def tokenizeFrom (predicate : UInt8 → Bool) (mode : TokenizeMode) (remaining : Bytes) :
    List Bytes :=
  match found : remaining.findIdx? predicate with
  | some next =>
    let tokens := tokenizeFrom predicate mode (remaining.drop (next + 1))
    if mode = .includeEmptyTokens ∨ 0 < next then remaining.take next :: tokens else tokens
  | none =>
    if mode = .includeEmptyTokens ∨ remaining ≠ [] then [remaining] else []
termination_by remaining.length
decreasing_by
  have inside := (List.findIdx?_eq_some_iff_getElem.mp found).1
  simp only [List.length_drop]
  omega

/-- `tokenize` by a predicate. -/
def tokenizeBy (str : Bytes) (predicate : UInt8 → Bool) (mode : TokenizeMode) : List Bytes :=
  if str = [] then
    if mode = .excludeEmptyTokens then [] else [str]
  else tokenizeFrom predicate mode str

/-- `tokenize` by a character. -/
def tokenize (s : Bytes) (delimiter : UInt8) (mode : TokenizeMode) : List Bytes :=
  tokenizeBy s (fun c => c == delimiter) mode

/-- Whether a token is emitted. -/
def kept (mode : TokenizeMode) (token : Bytes) : Bool :=
  mode = .includeEmptyTokens ∨ token ≠ []

/-- A round of the loop emits what lies before the delimiter and continues behind it. -/
theorem tokenizeFrom_found {predicate : UInt8 → Bool} {remaining : Bytes} {next : Nat}
    (mode : TokenizeMode) (found : remaining.findIdx? predicate = some next) :
    tokenizeFrom predicate mode remaining =
      [remaining.take next].filter (kept mode) ++
        tokenizeFrom predicate mode (remaining.drop (next + 1)) := by
  have inside := (List.findIdx?_eq_some_iff_getElem.mp found).1
  have empty : remaining.take next ≠ [] ↔ 0 < next := by
    rw [← List.length_pos_iff, List.length_take]
    omega
  rw [tokenizeFrom]
  split
  · next located =>
    rw [found] at located
    cases located
    by_cases emitted : mode = .includeEmptyTokens ∨ 0 < next <;> simp [kept, empty, emitted]
  · next located => simp [found] at located

/-- Where no delimiter is found, the loop ends with what remains. -/
theorem tokenizeFrom_absent {predicate : UInt8 → Bool} {remaining : Bytes} (mode : TokenizeMode)
    (absent : remaining.findIdx? predicate = none) :
    tokenizeFrom predicate mode remaining = [remaining].filter (kept mode) := by
  rw [tokenizeFrom]
  split
  · next located => simp [absent] at located
  · by_cases emitted : mode = .includeEmptyTokens ∨ remaining ≠ [] <;> simp [kept, emitted]

/-- Where no delimiter remains, the loop ends with what remains. -/
theorem tokenizeFrom_last (predicate : UInt8 → Bool) (remaining : Bytes)
    (none : ∀ byte ∈ remaining, predicate byte = false) :
    tokenizeFrom predicate .includeEmptyTokens remaining = [remaining] := by
  have absent : remaining.findIdx? predicate = .none := by
    simpa [List.findIdx?_eq_none_iff] using none
  simp [tokenizeFrom_absent _ absent, kept]

/-- A round of the loop emits what precedes the first delimiter and continues
behind it. -/
theorem tokenizeFrom_round (predicate : UInt8 → Bool) (token rest : Bytes) (delimiter : UInt8)
    (before : ∀ byte ∈ token, predicate byte = false) (here : predicate delimiter = true) :
    tokenizeFrom predicate .includeEmptyTokens (token ++ delimiter :: rest) =
      token :: tokenizeFrom predicate .includeEmptyTokens rest := by
  have found := Search.firstPosition_found predicate token delimiter rest before here
  simp [tokenizeFrom_found _ found, kept]

/-- With empty tokens included, the loop splits at the delimiters. Split the
remaining text at its first delimiter: the round emits what precedes it, and the
rest is shorter. -/
theorem tokenizeFrom_splits (predicate : UInt8 → Bool) (remaining : Bytes) :
    tokenizeFrom predicate .includeEmptyTokens remaining = remaining.splitOnP predicate := by
  induction length : remaining.length using Nat.strongRecOn generalizing remaining with
  | ind size inductionHypothesis =>
    by_cases present : ∃ byte ∈ remaining, predicate byte = true
    · obtain ⟨byte, member, satisfies⟩ := present
      obtain ⟨delimiter, token, rest, others, here, split, _⟩ :=
        List.exists_of_eraseP member satisfies
      have before : ∀ byte ∈ token, predicate byte = false := by simpa using others
      have shorter : rest.length < size := by
        rw [← length, split, List.length_append, List.length_cons]
        omega
      rw [split, tokenizeFrom_round predicate token rest delimiter before here,
        inductionHypothesis rest.length shorter rest rfl,
        List.splitOnP_append_cons_of_forall_mem before delimiter here rest]
    · have none : ∀ byte ∈ remaining, predicate byte = false := by
        intro byte member
        simpa using fun here => present ⟨byte, member, here⟩
      rw [tokenizeFrom_last predicate remaining none, List.splitOnP_eq_singleton none]

/-- With empty tokens included, `tokenize` splits the string at the delimiter,
the empty string into one empty token. -/
theorem tokenize_splits (s : Bytes) (delimiter : UInt8) :
    tokenize s delimiter .includeEmptyTokens = s.splitOn delimiter := by
  unfold tokenize tokenizeBy
  split
  · next empty => simp [empty]
  · exact tokenizeFrom_splits _ s

/-! ## By a string -/

/-- What is found from a position on lies behind it and inside the text. -/
theorem find_behind {text pattern : Bytes} {position next : Nat}
    (found : text.find pattern position = some next) :
    position ≤ next ∧ next + pattern.length ≤ text.length := by
  unfold Bytes.find at found
  split at found
  · obtain ⟨offset, located, rfl⟩ := Option.map_eq_some_iff.mp found
    obtain ⟨starts, inside, _⟩ := Search.occurrence_some pattern _ offset located
    have fits := starts.length_le
    simp only [List.length_drop] at fits inside
    exact ⟨by omega, by omega⟩
  · simp at found

/-- The loop from the position `last` on. -/
def tokenizeStringFrom (str delimiter : Bytes) (nonempty : delimiter ≠ []) (mode : TokenizeMode)
    (last : Nat) : List Bytes :=
  match _ : str.find delimiter last with
  | some next =>
    let tokens := tokenizeStringFrom str delimiter nonempty mode (next + delimiter.length)
    if mode = .includeEmptyTokens ∨ last < next then
      str.substr last (some (next - last)) :: tokens
    else tokens
  | none =>
    if mode = .includeEmptyTokens ∨ last < str.length then [str.substr last none] else []
termination_by str.length + 1 - last
decreasing_by
  have found : str.find delimiter last = some next := by assumption
  obtain ⟨forward, inside⟩ := find_behind found
  have positive := List.length_pos_iff.mpr nonempty
  omega

/-- `tokenize` by a string. -/
def tokenizeString (str delimiter : Bytes) (mode : TokenizeMode) : List Bytes :=
  if str = [] then
    if mode = .excludeEmptyTokens then [] else [str]
  else if empty : delimiter = [] then [str]
  else tokenizeStringFrom str delimiter empty mode 0

/-- A round of the loop emits what lies before the delimiter and continues behind
it. -/
theorem tokenizeStringFrom_round {str delimiter : Bytes} {nonempty : delimiter ≠ []}
    {mode : TokenizeMode} {last next : Nat} (found : str.find delimiter last = some next) :
    tokenizeStringFrom str delimiter nonempty mode last =
      [str.substr last (some (next - last))].filter (kept mode) ++
        tokenizeStringFrom str delimiter nonempty mode (next + delimiter.length) := by
  obtain ⟨forward, fits⟩ := find_behind found
  have empty : str.substr last (some (next - last)) ≠ [] ↔ last < next := by
    rw [← List.length_pos_iff]
    simp only [substr, List.length_take, List.length_drop]
    omega
  rw [tokenizeStringFrom]
  split
  · next located =>
    rw [found] at located
    cases located
    by_cases emitted : mode = .includeEmptyTokens ∨ last < next <;>
      simp [kept, empty, emitted]
  · next located => simp [found] at located

/-- Where no delimiter is found, the loop ends with what remains. -/
theorem tokenizeStringFrom_last {str delimiter : Bytes} {nonempty : delimiter ≠ []}
    {mode : TokenizeMode} {last : Nat} (absent : str.find delimiter last = none) :
    tokenizeStringFrom str delimiter nonempty mode last =
      [str.drop last].filter (kept mode) := by
  have empty : str.drop last ≠ [] ↔ last < str.length := by
    rw [← List.length_pos_iff, List.length_drop]
    omega
  rw [tokenizeStringFrom]
  split
  · next located => simp [absent] at located
  · by_cases emitted : mode = .includeEmptyTokens ∨ last < str.length <;>
      simp [kept, empty, emitted, substr]

/-- From any position inside the string, the loop emits the pieces of what lies
behind it. Induct along the pieces: where the delimiter is found, the position
moves behind it. -/
theorem tokenizeStringFrom_pieces (str delimiter : Bytes) (nonempty : delimiter ≠ [])
    (mode : TokenizeMode) (last : Nat) (inside : last ≤ str.length) :
    tokenizeStringFrom str delimiter nonempty mode last =
      (pieces delimiter nonempty (str.drop last)).filter (kept mode) := by
  induction remaining : str.drop last using pieces.induct delimiter nonempty
    generalizing last with
  | case1 text offset located inductionHypothesis =>
    subst remaining
    have found : str.find delimiter last = some (offset + last) := by
      simp [Bytes.find, inside, located]
    obtain ⟨_, fits⟩ := find_behind found
    have behind : str.drop (offset + last + delimiter.length) =
        (str.drop last).drop (offset + delimiter.length) := by
      rw [List.drop_drop]
      congr 1
      omega
    rw [tokenizeStringFrom_round found, pieces_found located,
      inductionHypothesis (offset + last + delimiter.length) fits behind,
      ← List.filter_append]
    simp [substr]
  | case2 text located =>
    subst remaining
    have absent : str.find delimiter last = none := by
      simp [Bytes.find, located]
    rw [tokenizeStringFrom_last absent, pieces_absent located]

/-- Behind its early exits, `tokenize` by a nonempty string emits the pieces
between the delimiters. -/
theorem tokenizeString_pieces (str delimiter : Bytes) (nonempty : delimiter ≠ [])
    (mode : TokenizeMode) :
    tokenizeString str delimiter mode =
      (pieces delimiter nonempty str).filter (kept mode) := by
  unfold tokenizeString
  by_cases empty : str = []
  · have absent : Search.occurrence delimiter [] = none := by
      simpa [Search.occurrence_none_iff] using nonempty
    subst empty
    rw [pieces_absent absent]
    cases mode <;> simp [kept]
  · rw [if_neg empty, dif_neg nonempty]
    exact tokenizeStringFrom_pieces str delimiter nonempty mode 0 (Nat.zero_le _)

/-- With empty tokens included, every piece is a token. -/
theorem tokenizeString_included (str delimiter : Bytes) (nonempty : delimiter ≠ []) :
    tokenizeString str delimiter .includeEmptyTokens = pieces delimiter nonempty str := by
  rw [tokenizeString_pieces str delimiter nonempty]
  simp [kept]

/-- An empty delimiter leaves the whole string. -/
theorem tokenizeString_nil (str : Bytes) : tokenizeString str [] .includeEmptyTokens = [str] := by
  by_cases nothing : str = [] <;> simp [tokenizeString, nothing]

/-! ## Modes -/

/-- The loop that includes empty tokens emits in each round what the other one emits, and
the empty token where that one emits none. -/
theorem tokenizeFrom_modes (predicate : UInt8 → Bool) (mode : TokenizeMode) (remaining : Bytes) :
    tokenizeFrom predicate mode remaining =
      (tokenizeFrom predicate .includeEmptyTokens remaining).filter (kept mode) := by
  induction length : remaining.length using Nat.strongRecOn generalizing remaining with
  | ind size inductionHypothesis =>
    cases found : remaining.findIdx? predicate with
    | none =>
      rw [tokenizeFrom_absent mode found, tokenizeFrom_absent _ found]
      simp [kept]
    | some next =>
      have inside := (List.findIdx?_eq_some_iff_getElem.mp found).1
      have shorter : (remaining.drop (next + 1)).length < size := by
        rw [List.length_drop]
        omega
      rw [tokenizeFrom_found mode found, tokenizeFrom_found _ found,
        inductionHypothesis _ shorter _ rfl, List.filter_append]
      simp [kept]

/-- Of the tokens of `tokenize` by a predicate the mode keeps what it keeps. -/
theorem tokenizeBy_modes (str : Bytes) (predicate : UInt8 → Bool) (mode : TokenizeMode) :
    tokenizeBy str predicate mode =
      (tokenizeBy str predicate .includeEmptyTokens).filter (kept mode) := by
  unfold tokenizeBy
  by_cases empty : str = []
  · cases mode <;> simp [empty, kept]
  · rw [if_neg empty, if_neg empty]
    exact tokenizeFrom_modes predicate mode str

/-- So it does for `tokenize` by a string; an empty delimiter leaves the whole string. -/
theorem tokenizeString_modes (str delimiter : Bytes) (mode : TokenizeMode) :
    tokenizeString str delimiter mode =
      (tokenizeString str delimiter .includeEmptyTokens).filter (kept mode) := by
  by_cases nonempty : delimiter = []
  · by_cases empty : str = []
    · cases mode <;> simp [tokenizeString, empty, kept]
    · simp [tokenizeString, empty, nonempty, kept]
  · rw [tokenizeString_pieces str delimiter nonempty,
      tokenizeString_included str delimiter nonempty]

/-- With empty tokens excluded, every overload returns what it returns with them
included, without the empty tokens; a string of one character is tokenized by like the
character. -/
theorem modes_agree :
    (∀ str delimiter : Bytes, tokenizeString str delimiter .excludeEmptyTokens =
      (tokenizeString str delimiter .includeEmptyTokens).filter (· ≠ [])) ∧
    (∀ (str : Bytes) (predicate : UInt8 → Bool), tokenizeBy str predicate .excludeEmptyTokens =
      (tokenizeBy str predicate .includeEmptyTokens).filter (· ≠ [])) ∧
    (∀ (s : Bytes) (delimiter : UInt8), tokenize s delimiter .excludeEmptyTokens =
      (tokenize s delimiter .includeEmptyTokens).filter (· ≠ [])) ∧
    (∀ (s : Bytes) (c : UInt8) (mode : TokenizeMode),
      tokenizeString s [c] mode = tokenize s c mode) := by
  have excluded : kept .excludeEmptyTokens = fun token => decide (token ≠ []) := by
    funext token
    simp [kept]
  refine ⟨?_, ?_, ?_, ?_⟩
  · intro str delimiter
    rw [tokenizeString_modes, excluded]
  · intro str predicate
    rw [tokenizeBy_modes, excluded]
  · intro s delimiter
    rw [tokenize, tokenizeBy_modes, excluded, tokenize]
  · intro s c mode
    rw [tokenizeString_pieces s [c] (List.cons_ne_nil c []), pieces_letter, tokenize,
      tokenizeBy_modes]
    rw [← tokenize, tokenize_splits]

end Plugpp.Tokenize
