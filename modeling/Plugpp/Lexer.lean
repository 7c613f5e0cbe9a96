import Mathlib.Data.List.Basic

/-!
# A quote-aware lexer as a character automaton

The automaton reads a text from left to right. A quote toggles whether it is
inside quotes and is dropped; a space outside quotes ends the token; every other
letter, and a space inside quotes, extends it. Beside the token under
construction it keeps the same text with its quotes, which is what an
unterminated quotation leaves readable.

The alphabet is arbitrary. The laws say what reading a word without spaces does,
and relate being inside quotes to the parity of the quotes read. A token can be written
piece by piece, in quotes or not, and is read back from what is written.
-/

namespace Plugpp.Lexer

universe u
variable {α : Type u} [DecidableEq α]

/-- The finished tokens, the token being read without and with its quotes, and
whether a quotation is open. -/
structure State (α : Type u) where
  finished : List (List α)
  current : List α
  raw : List α
  inQuotes : Bool

/-- Nothing read after the finished tokens, outside quotes. -/
def State.fresh (finished : List (List α)) : State α := ⟨finished, [], [], false⟩

/-- One letter. -/
def step (space quote : α) (state : State α) (letter : α) : State α :=
  if letter = quote then
    { state with raw := state.raw ++ [letter], inQuotes := !state.inQuotes }
  else if letter = space ∧ state.inQuotes = false then
    State.fresh (state.finished ++ [state.current])
  else
    { state with current := state.current ++ [letter], raw := state.raw ++ [letter] }

/-- Read a whole text from a state. -/
def read (space quote : α) (state : State α) (text : List α) : State α :=
  text.foldl (step space quote) state

/-- The tokens of a text: the finished ones and the one being read at its end. -/
def lex (space quote : α) (text : List α) : List (List α) :=
  let final := read space quote (.fresh []) text
  final.finished ++ [final.current]

/-- The text with its quotes behind the last space read outside quotes, or the
whole text where there is none. -/
def lastRaw (space quote : α) (text : List α) : List α :=
  (read space quote (.fresh []) text).raw

/-- An odd number of letters of a kind. -/
def oddCount (letter : α) (text : List α) : Bool := text.count letter % 2 == 1

variable {space quote : α}

@[simp] theorem read_nil (state : State α) : read space quote state [] = state := rfl

@[simp] theorem read_cons (state : State α) (letter : α) (text : List α) :
    read space quote state (letter :: text) = read space quote (step space quote state letter) text :=
  rfl

theorem read_append (state : State α) (before after : List α) :
    read space quote state (before ++ after) =
      read space quote (read space quote state before) after := by
  simp [read]

@[simp] theorem oddCount_nil (letter : α) : oddCount letter [] = false := by simp [oddCount]

theorem oddCount_cons (letter first : α) (rest : List α) :
    oddCount letter (first :: rest) = (decide (first = letter) != oddCount letter rest) := by
  by_cases same : first = letter
  · subst same
    have parity : (rest.count first + 1) % 2 = 1 ↔ ¬ rest.count first % 2 = 1 := by omega
    simp only [oddCount, List.count_cons_self, decide_true, Bool.true_bne, beq_eq_decide]
    rw [Bool.eq_iff_iff]
    simpa using parity
  · simp [oddCount, same, List.count_cons_of_ne]

/-- The letters of two texts are odd together if they are in exactly one of them. -/
theorem oddCount_append (letter : α) (before after : List α) :
    oddCount letter (before ++ after) = (oddCount letter before != oddCount letter after) := by
  induction before with
  | nil => simp
  | cons first rest inductionHypothesis =>
    rw [List.cons_append, oddCount_cons, oddCount_cons, inductionHypothesis, Bool.bne_assoc]

/-- A word without spaces finishes no token. It extends the token by its letters
that are not quotes, the raw text by all of them, and toggles the quotation once
for each of its quotes. -/
theorem read_word (state : State α) (word : List α) (wordFree : space ∉ word) :
    read space quote state word =
      { finished := state.finished
        current := state.current ++ word.filter (· ≠ quote)
        raw := state.raw ++ word
        inQuotes := oddCount quote word != state.inQuotes } := by
  induction word generalizing state with
  | nil => simp
  | cons letter rest inductionHypothesis =>
    have restFree : space ∉ rest := fun member => wordFree (List.mem_cons_of_mem _ member)
    have notSpace : letter ≠ space := fun same => wordFree (by simp [same])
    rw [read_cons, inductionHypothesis _ restFree, oddCount_cons]
    by_cases isQuote : letter = quote
    · subst isQuote
      cases oddCount letter rest <;> cases open? : state.inQuotes <;> simp [step, open?]
    · simp [step, isQuote, notSpace]

/-- A space outside quotes finishes the token. -/
theorem step_space_outside (state : State α) (distinct : space ≠ quote)
    (outside : state.inQuotes = false) :
    step space quote state space = .fresh (state.finished ++ [state.current]) := by
  simp [step, distinct, outside]

/-- A space inside quotes is a letter of the token. -/
theorem step_space_inside (state : State α) (distinct : space ≠ quote)
    (inside : state.inQuotes = true) :
    step space quote state space =
      { state with current := state.current ++ [space], raw := state.raw ++ [space] } := by
  simp [step, distinct, inside]

/-- A quotation is open at the end of a text exactly when the text has an odd
number of quotes: each quote toggles it and nothing else changes it. -/
theorem read_inQuotes (state : State α) (text : List α) (distinct : space ≠ quote) :
    (read space quote state text).inQuotes = (oddCount quote text != state.inQuotes) := by
  induction text generalizing state with
  | nil => simp
  | cons letter rest inductionHypothesis =>
    rw [read_cons, inductionHypothesis, oddCount_cons]
    by_cases isQuote : letter = quote
    · cases oddCount quote rest <;> cases open? : state.inQuotes <;> simp [step, isQuote, open?]
    · by_cases ends : letter = space ∧ state.inQuotes = false
      · simp [step, ends, distinct, State.fresh]
      · simp [step, isQuote, ends]

/-! ## Writing tokens -/

/-- A piece of a token, to be written in quotes or as it is. Only in quotes may it hold
spaces. -/
structure Piece (space quote : α) where
  quoted : Bool
  text : List α
  quoteFree : quote ∉ text
  spaceFree : quoted = false → space ∉ text

/-- How a piece is written. -/
def Piece.written (piece : Piece space quote) : List α :=
  if piece.quoted then quote :: piece.text ++ [quote] else piece.text

/-- The token of some pieces, and how it is written. -/
def token (pieces : List (Piece space quote)) : List α := pieces.flatMap Piece.text
def written (pieces : List (Piece space quote)) : List α := pieces.flatMap Piece.written

/-- Inside quotes, a text without quotes is a part of the token. -/
theorem read_inside (state : State α) (text : List α) (quoteFree : quote ∉ text)
    (inside : state.inQuotes = true) :
    read space quote state text =
      { state with current := state.current ++ text, raw := state.raw ++ text } := by
  induction text generalizing state with
  | nil => simp
  | cons letter rest inductionHypothesis =>
    have restFree : quote ∉ rest := fun member => quoteFree (List.mem_cons_of_mem _ member)
    have notQuote : letter ≠ quote := fun same => quoteFree (by simp [same])
    have taken : step space quote state letter =
        { state with current := state.current ++ [letter], raw := state.raw ++ [letter] } := by
      simp [step, notQuote, inside]
    rw [read_cons, taken, inductionHypothesis]
    · simp
    · exact restFree
    · exact inside

/-- Outside quotes, a written piece extends the token by its text. -/
theorem read_piece (state : State α) (piece : Piece space quote)
    (outside : state.inQuotes = false) :
    read space quote state piece.written =
      { state with current := state.current ++ piece.text, raw := state.raw ++ piece.written } := by
  cases isQuoted : piece.quoted with
  | true =>
    have opened : step space quote state quote =
        { state with raw := state.raw ++ [quote], inQuotes := true } := by
      simp [step, outside]
    rw [Piece.written, if_pos isQuoted, List.cons_append, read_cons, opened, read_append,
      read_inside _ _ piece.quoteFree rfl]
    simp [step, outside]
  | false =>
    have kept : piece.text.filter (· ≠ quote) = piece.text := by
      rw [List.filter_eq_self]
      intro letter member
      simpa using fun same : letter = quote => piece.quoteFree (same ▸ member)
    have even : oddCount quote piece.text = false := by
      simp [oddCount, List.count_eq_zero_of_not_mem piece.quoteFree]
    rw [Piece.written, isQuoted, if_neg Bool.false_ne_true,
      read_word state piece.text (piece.spaceFree isQuoted), kept, even, Bool.false_bne]

/-- So do the pieces of a token. -/
theorem read_written (state : State α) (pieces : List (Piece space quote))
    (outside : state.inQuotes = false) :
    read space quote state (written pieces) =
      { state with current := state.current ++ token pieces, raw := state.raw ++ written pieces } := by
  induction pieces generalizing state with
  | nil => simp [written, token]
  | cons piece rest inductionHypothesis =>
    simp only [written, token, List.flatMap_cons] at inductionHypothesis ⊢
    rw [read_append, read_piece state piece outside, inductionHypothesis]
    · simp
    · exact outside

/-- Behind finished tokens, tokens that are written with a space between them are read
back, and no quotation is open. -/
theorem read_tokens (finished : List (List α)) (first : List (Piece space quote))
    (rest : List (List (Piece space quote))) (distinct : space ≠ quote) :
    let final := read space quote (.fresh finished) ([space].intercalate ((first :: rest).map written))
    final.finished ++ [final.current] = finished ++ (first :: rest).map token ∧
      final.inQuotes = false := by
  induction rest generalizing finished first with
  | nil =>
    rw [List.map_singleton, List.intercalate_singleton, read_written _ _ rfl]
    exact ⟨rfl, rfl⟩
  | cons next rest inductionHypothesis =>
    rw [List.map_cons, List.map_cons, List.intercalate_cons_cons, List.append_assoc, read_append,
      read_written _ _ rfl, List.singleton_append, read_cons, step_space_outside _ distinct rfl]
    obtain ⟨tokens, outside⟩ := inductionHypothesis (finished ++ [token first]) next
    exact ⟨tokens.trans (List.append_assoc finished [token first] _), outside⟩

/-- The lexer reads back tokens that are written with a space between them, with an even
number of quotes. -/
theorem lex_written (tokens : List (List (Piece space quote))) (nonempty : tokens ≠ [])
    (distinct : space ≠ quote) :
    lex space quote ([space].intercalate (tokens.map written)) = tokens.map token ∧
      oddCount quote ([space].intercalate (tokens.map written)) = false := by
  obtain ⟨first, rest, rfl⟩ := List.exists_cons_of_ne_nil nonempty
  obtain ⟨read, outside⟩ := read_tokens [] first rest distinct
  refine ⟨read, ?_⟩
  rw [read_inQuotes _ _ distinct] at outside
  simpa [State.fresh] using outside

/-- No token holds a quote. -/
theorem read_free (state : State α) (text : List α)
    (free : ∀ token ∈ state.finished ++ [state.current], quote ∉ token) :
    ∀ token ∈ (read space quote state text).finished ++ [(read space quote state text).current],
      quote ∉ token := by
  induction text generalizing state with
  | nil => exact free
  | cons letter rest inductionHypothesis =>
    refine inductionHypothesis _ ?_
    intro token member
    by_cases isQuote : letter = quote
    · exact free token (by simpa [step, isQuote] using member)
    · by_cases ends : letter = space ∧ state.inQuotes = false
      · simp only [step, if_neg isQuote, if_pos ends, State.fresh, List.mem_append,
          List.mem_singleton] at member
        rcases member with isOld | rfl
        · exact free token (by simpa using isOld)
        · exact List.not_mem_nil
      · simp only [step, if_neg isQuote, if_neg ends, List.mem_append, List.mem_singleton]
          at member
        rcases member with isOld | rfl
        · exact free token (by simp [isOld])
        · simpa [Ne.symm isQuote] using free state.current (by simp)

/-- A token that is written as one piece, in quotes. -/
def whole (token : List α) (free : quote ∉ token) : List (Piece space quote) :=
  [⟨true, token, free, by simp⟩]

/-- The tokens of a text are read back when each is written in quotes. -/
theorem lex_wholes (text : List α) (distinct : space ≠ quote) :
    let line := [space].intercalate
      ((lex space quote text).map fun token => quote :: token ++ [quote])
    lex space quote line = lex space quote text ∧ oddCount quote line = false := by
  have free : ∀ token ∈ lex space quote text, quote ∉ token :=
    read_free (.fresh []) text (by simp [State.fresh])
  let wholes : List (List (Piece space quote)) := (lex space quote text).pmap whole free
  have nonempty : wholes ≠ [] := by simp [wholes, lex]
  have back := lex_written wholes nonempty distinct
  simp only [wholes, List.map_pmap] at back
  simpa [whole, written, token, Piece.written, List.pmap_eq_map] using back

end Plugpp.Lexer
