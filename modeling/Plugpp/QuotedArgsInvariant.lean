import Plugpp.Join
import Plugpp.QuotedArgs

/-!
# What joining quoted arguments keeps

The arguments of `joinQuotedArgs` may hold anything here, spaces too. After any number
of them, the tokens so far spell what the arguments spell, up to quotes, and only the
last token may hold quotes: an odd number of them, while a group is open.

These two forms, all tokens free of quotes or an open group at the end, are normal
forms: an argument without quotes stays a token, and one with an odd number of quotes
opens a group that nothing follows.

Arguments can be written so that they are read back: in quotes, or piece by piece.
-/

namespace Plugpp.QuotedArgs

open Bytes Lexer Splitting Tokenize

/-- The tokens with the open flag: none holds a quote, or a group is open and only the
last one does, an odd number of them. -/
inductive Settled (quote : UInt8) : Bool × List Bytes → Prop where
  | closed (tokens : List Bytes) (free : ∀ token ∈ tokens, quote ∉ token) :
      Settled quote (false, tokens)
  | unterminated (front : List Bytes) (back : Bytes) (free : ∀ token ∈ front, quote ∉ token)
      (odd : oddCount quote back = true) : Settled quote (true, front ++ [back])

/-- The text of tokens with a space between them, without the quotes. -/
def spelled (quote : UInt8) (tokens : List Bytes) : Bytes :=
  (join tokens [space]).filter (· ≠ quote)

/-- The loop's state after some arguments. -/
structure Conserves (quote : UInt8) (args : List Bytes) (joined : Bool × List Bytes) : Prop where
  settled : Settled quote joined
  text : spelled quote joined.2 = spelled quote args
  parity : joined.1 = oddCount quote args.flatten
  started : joined.2 = [] ↔ args = []

/-- `join` with a space writes it between the tokens. -/
theorem spelled_intercalates (quote : UInt8) (tokens : List Bytes) :
    spelled quote tokens = ([space].intercalate tokens).filter (· ≠ quote) := by
  rw [spelled, join_intercalates, cString_free [space] (by decide)]

/-- One more token is spelled behind a space. -/
theorem spelled_snoc (quote : UInt8) {tokens : List Bytes} (nonempty : tokens ≠ [])
    (distinct : quote ≠ space) (token : Bytes) :
    spelled quote (tokens ++ [token]) =
      spelled quote tokens ++ space :: token.filter (· ≠ quote) := by
  rw [spelled_intercalates, spelled_intercalates, intercalate_snoc [space] nonempty]
  simp [distinct.symm]

/-- What the last token has more is spelled at the end. -/
theorem spelled_append_back (quote : UInt8) (front : List Bytes) (back more : Bytes) :
    spelled quote (front ++ [back ++ more]) =
      spelled quote (front ++ [back]) ++ more.filter (· ≠ quote) := by
  rw [spelled_intercalates, spelled_intercalates, intercalate_append_back, List.filter_append]

/-- The quotes of the last token are not spelled. -/
theorem spelled_strip_back (quote : UInt8) (front : List Bytes) (back : Bytes) :
    spelled quote (front ++ [back.filter (· ≠ quote)]) = spelled quote (front ++ [back]) := by
  have stripped := spelled_append_back quote front [] (back.filter (· ≠ quote))
  have whole := spelled_append_back quote front [] back
  rw [List.nil_append] at stripped whole
  rw [stripped, whole, List.filter_filter]
  simp

/-- A token without its quotes holds none. -/
theorem quote_not_mem_filter (quote : UInt8) (token : Bytes) :
    quote ∉ token.filter (· ≠ quote) := by
  simp

/-- A text without quotes holds an even number of them. -/
theorem oddCount_free {quote : UInt8} {text : Bytes} (free : quote ∉ text) :
    oddCount quote text = false := by
  simp [oddCount, List.count_eq_zero_of_not_mem free]

/-- Behind tokens without quotes, a token that loses its quotes closes. -/
theorem settled_stripped (quote : UInt8) {front : List Bytes}
    (free : ∀ token ∈ front, quote ∉ token) (back : Bytes) :
    Settled quote (false, front ++ [back.filter (· ≠ quote)]) := by
  refine .closed _ ?_
  intro token member
  rcases List.mem_append.mp member with inFront | isBack
  · exact free token inFront
  · rw [List.mem_singleton.mp isBack]
    exact quote_not_mem_filter quote back

/-- One more argument keeps what the loop keeps. -/
theorem step_conserves (quote : UInt8) (distinct : quote ≠ space) (args : List Bytes)
    (joined : Bool × List Bytes) (arg : Bytes) (conserves : Conserves quote args joined) :
    ∃ next, joinStep quote joined arg = some next ∧ Conserves quote (args ++ [arg]) next := by
  obtain ⟨settled, text, parity, started⟩ := conserves
  have flattened : oddCount quote (args ++ [arg]).flatten = (joined.1 != oddCount quote arg) := by
    rw [List.flatten_append, oddCount_append, parity, List.flatten_singleton]
  cases settled with
  | closed tokens free =>
    simp only at text started flattened
    refine ⟨_, joinStep_outside quote tokens arg, ?_, ?_, ?_, by simp⟩
    · cases odd : oddCount quote arg with
      | true => exact .unterminated tokens arg free odd
      | false => exact settled_stripped quote free arg
    · have kept : spelled quote (tokens ++ [if oddCount quote arg then arg
          else arg.filter (· ≠ quote)]) = spelled quote (tokens ++ [arg]) := by
        split
        · rfl
        · exact spelled_strip_back quote tokens arg
      rw [kept]
      by_cases empty : args = []
      · rw [empty, started.mpr empty]
      · rw [spelled_snoc quote (started.not.mpr empty) distinct, text,
          spelled_snoc quote empty distinct]
    · rw [flattened, Bool.false_bne]
  | unterminated front back free odd =>
    simp only at text started flattened
    have notEmpty : args ≠ [] := started.not.mp (by simp)
    have glued : spelled quote (front ++ [back ++ [space] ++ arg]) =
        spelled quote (args ++ [arg]) := by
      rw [List.append_assoc, spelled_append_back, text, spelled_snoc quote notEmpty distinct]
      simp [distinct.symm]
    refine ⟨_, joinStep_inside quote front back arg, ?_, ?_, ?_, by simp⟩
    · cases closes : oddCount quote arg with
      | true => exact settled_stripped quote free _
      | false =>
        refine .unterminated front _ free ?_
        have noQuote : oddCount quote [space] = false := oddCount_free (by simpa using distinct)
        rw [if_neg Bool.false_ne_true, oddCount_append, oddCount_append, odd, noQuote, closes]
        rfl
    · split
      · rw [spelled_strip_back, glued]
      · exact glued
    · rw [flattened, Bool.true_bne]

/-- The loop keeps it through the remaining arguments. -/
theorem fold_conserves (quote : UInt8) (distinct : quote ≠ space) (args rest : List Bytes)
    (joined : Bool × List Bytes) (conserves : Conserves quote args joined) :
    ∃ final, rest.foldlM (joinStep quote) joined = some final ∧
      Conserves quote (args ++ rest) final := by
  induction rest generalizing args joined with
  | nil => exact ⟨joined, rfl, by rwa [List.append_nil]⟩
  | cons arg rest inductionHypothesis =>
    obtain ⟨next, stepped, nextConserves⟩ := step_conserves quote distinct args joined arg conserves
    obtain ⟨final, folded, finalConserves⟩ := inductionHypothesis _ next nextConserves
    refine ⟨final, by simpa [stepped] using folded, ?_⟩
    rwa [List.append_assoc, List.singleton_append] at finalConserves

/-- Tokens without quotes are arguments that stay as they are. -/
theorem fold_free (quote : UInt8) (tokens rest : List Bytes)
    (free : ∀ token ∈ rest, quote ∉ token) :
    rest.foldlM (joinStep quote) (false, tokens) = some (false, tokens ++ rest) := by
  induction rest generalizing tokens with
  | nil => simp
  | cons token rest inductionHypothesis =>
    have tokenFree := free token (by simp)
    have stays : token.filter (· ≠ quote) = token := by
      rw [List.filter_eq_self]
      intro letter member
      simpa using fun same : letter = quote => tokenFree (same ▸ member)
    have later := inductionHypothesis (tokens ++ [token]) fun token member =>
      free token (List.mem_cons_of_mem _ member)
    rw [List.foldlM_cons, joinStep_outside, oddCount_free tokenFree, if_neg Bool.false_ne_true,
      stays]
    simpa using later

/-- Settled tokens are a normal form. -/
theorem joinQuotedArgs_settled (quote : UInt8) {joined : Bool × List Bytes}
    (settled : Settled quote joined) : joinQuotedArgs joined.2 quote = some joined.2 := by
  cases settled with
  | closed tokens free =>
    rw [joinQuotedArgs, fold_free quote [] tokens free]
    rfl
  | unterminated front back free odd =>
    rw [joinQuotedArgs, List.foldlM_append, fold_free quote [] front free]
    simp [joinStep_outside, odd]

/-- `joinQuotedArgs` never takes the back of an empty vector, spells what its arguments
spell, leaves quotes only in the last token and only if their number is odd, and changes
nothing when it is repeated. -/
theorem joinQuotedArgs_conserves (args : List Bytes) (quote : UInt8) (distinct : quote ≠ space) :
    ∃ tokens, joinQuotedArgs args quote = some tokens ∧
      (join tokens [space]).filter (· ≠ quote) = (join args [space]).filter (· ≠ quote) ∧
      (∀ token ∈ tokens.dropLast, quote ∉ token) ∧
      ((∃ token ∈ tokens, quote ∈ token) → args.flatten.count quote % 2 = 1) ∧
      joinQuotedArgs tokens quote = some tokens := by
  have initially : Conserves quote [] (false, []) :=
    ⟨.closed [] (by simp), rfl, by simp, by simp⟩
  obtain ⟨final, folded, settled, text, parity, _⟩ :=
    fold_conserves quote distinct [] args _ initially
  rw [List.nil_append] at text parity
  refine ⟨final.2, by rw [joinQuotedArgs, folded]; rfl, text, ?_, ?_,
    joinQuotedArgs_settled quote settled⟩
  · cases settled with
    | closed tokens free => exact fun token member => free token (List.mem_of_mem_dropLast member)
    | unterminated front back free odd =>
      intro token member
      rw [List.dropLast_concat] at member
      exact free token member
  · rintro ⟨token, member, isIn⟩
    cases settled with
    | closed tokens free => exact absurd isIn (free token member)
    | unterminated front back free odd => simpa [oddCount] using parity.symm

/-- An argument with a space, an empty one, a closed group and an open one. -/
theorem joinQuotedArgs_conserves_mixed :
    ∃ tokens, joinQuotedArgs [literal "a b", [], literal "\"c", literal "d\"", literal "\"e"]
        '"'.toUInt8 = some tokens ∧
      (join tokens [space]).filter (· ≠ '"'.toUInt8) =
        (join [literal "a b", [], literal "\"c", literal "d\"", literal "\"e"] [space]).filter
          (· ≠ '"'.toUInt8) ∧
      (∀ token ∈ tokens.dropLast, '"'.toUInt8 ∉ token) ∧
      ((∃ token ∈ tokens, '"'.toUInt8 ∈ token) →
        [literal "a b", [], literal "\"c", literal "d\"", literal "\"e"].flatten.count
          '"'.toUInt8 % 2 = 1) ∧
      joinQuotedArgs tokens '"'.toUInt8 = some tokens :=
  joinQuotedArgs_conserves _ _ (by decide)

/-! ## Lines that are written with quotes -/

/-- The joined tokens of a line, against the automaton at its end. -/
theorem tokenize_agrees (line : Bytes) (quote : UInt8) (distinct : quote ≠ space) :
    ∃ joined : Bool × List Bytes,
      joinQuotedArgs (tokenize line space .includeEmptyTokens) quote = some joined.2 ∧
        Agrees quote (read space quote (.fresh []) line) joined := by
  obtain ⟨first, rest, split, written, firstFree, restFree⟩ := tokens_of_line line
  obtain ⟨started, starts, startAgrees⟩ := outside_agrees quote [] first firstFree
  obtain ⟨joined, folded, agrees⟩ :=
    fold_agrees quote _ started rest distinct.symm restFree startAgrees
  rw [← read_append, ← written] at agrees
  exact ⟨joined, by simp [split, joinQuotedArgs, starts, folded], agrees⟩

/-- With an even number of quotes, the joined tokens of a line are the automaton's. -/
theorem tokenize_even (line : Bytes) (quote : UInt8) (distinct : quote ≠ space)
    (even : oddCount quote line = false) :
    joinQuotedArgs (tokenize line space .includeEmptyTokens) quote =
      some (lex space quote line) := by
  obtain ⟨joined, result, agrees⟩ := tokenize_agrees line quote distinct
  have outside := read_inQuotes (.fresh []) line distinct.symm
  rw [even] at outside
  rw [result, agrees.tokens, outside]
  rfl

/-- One or more arguments that are written piece by piece, and joined with spaces, are read
back from the line. No piece has a quote in it, and only a piece in quotes has spaces. And
the tokens of any line in which each quote has its partner are read back when each of them
is written in quotes. -/
theorem quotedArgs_read_back (quote : UInt8) (distinct : quote ≠ space) :
    (∀ args : List (List (Piece space quote)), args ≠ [] →
      joinQuotedArgs (tokenize (join (args.map written) [space]) space .includeEmptyTokens)
        quote = some (args.map token)) ∧
    ∀ line : Bytes, line.count quote % 2 = 0 → ∃ tokens,
      joinQuotedArgs (tokenize line space .includeEmptyTokens) quote = some tokens ∧
      joinQuotedArgs (tokenize (join (tokens.map fun token => quote :: token ++ [quote]) [space])
        space .includeEmptyTokens) quote = some tokens := by
  have spaced : ∀ texts : List Bytes, join texts [space] = [space].intercalate texts := by
    intro texts
    rw [join_intercalates, cString_free [space] (by decide)]
  constructor
  · intro args nonempty
    obtain ⟨read, even⟩ := lex_written args nonempty distinct.symm
    rw [spaced, tokenize_even _ quote distinct even, read]
  · intro line partnered
    have even : oddCount quote line = false := by simp [oddCount, partnered]
    obtain ⟨read, evenAgain⟩ := lex_wholes line distinct.symm
    refine ⟨lex space quote line, tokenize_even line quote distinct even, ?_⟩
    rw [spaced, tokenize_even _ quote distinct evenAgain, read]

/-- A command with an argument that is in quotes from the middle on, and an empty one. -/
theorem quotedArgs_read_back_say :
    joinQuotedArgs (tokenize (literal "say hi\" all\" \"\"") space .includeEmptyTokens)
      '"'.toUInt8 = some [literal "say", literal "hi all", []] :=
  (quotedArgs_read_back '"'.toUInt8 (by decide)).1
    [[⟨false, literal "say", by decide, by decide⟩],
      [⟨false, literal "hi", by decide, by decide⟩, ⟨true, literal " all", by decide, by decide⟩],
      [⟨true, [], by decide, by decide⟩]] (by simp)

end Plugpp.QuotedArgs
