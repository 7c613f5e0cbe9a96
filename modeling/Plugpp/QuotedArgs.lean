import Plugpp.Lexer
import Plugpp.Tokenize

/-!
# Joining arguments tied together by quotes

`joinQuotedArgs` receives the tokens of a line split at spaces. It opens a group
at an argument that makes the number of quotes odd, glues the following arguments
to it with the spaces between them, and strips the quotes when the group closes.

The vector's last element is reached with `back()`, which has no meaning on an
empty vector; the model is partial there and the main law shows the result is
always present. That law compares the two passes with one automaton over the
line's characters: after the arguments read so far, the open flag is the
automaton's, and the last token is the automaton's token, still with its quotes
while a group is open.
-/

namespace Plugpp.QuotedArgs

open Lexer Tokenize

/-- The character `tokenize` is called with, and the one put back between glued
arguments. -/
def space : UInt8 := ' '.toUInt8

/-- Change the last element of a vector; an empty vector has none. -/
def modifyBack (change : Bytes → Bytes) (tokens : List Bytes) : Option (List Bytes) :=
  tokens.getLast?.map fun back => tokens.dropLast ++ [change back]

/-- The loop body: the open flag and the tokens, after one more argument. -/
def joinStep (quote : UInt8) (state : Bool × List Bytes) (arg : Bytes) :
    Option (Bool × List Bytes) := do
  let openQuote := state.1
  let oddNumberOfQuotes := arg.count quote % 2 == 1
  let tokens ←
    if !openQuote then some (state.2 ++ [arg])
    else modifyBack (fun back => back ++ [space] ++ arg) state.2
  let openQuote := oddNumberOfQuotes != openQuote
  let tokens ← if !openQuote then modifyBack (·.filter (· ≠ quote)) tokens else some tokens
  return (openQuote, tokens)

/-- `joinQuotedArgs`. -/
def joinQuotedArgs (args : List Bytes) (quote : UInt8) : Option (List Bytes) :=
  (args.foldlM (joinStep quote) (false, [])).map Prod.snd

@[simp] theorem modifyBack_append (change : Bytes → Bytes) (tokens : List Bytes) (back : Bytes) :
    modifyBack change (tokens ++ [back]) = some (tokens ++ [change back]) := by
  simp [modifyBack]

/-- Outside quotes an argument becomes a token of its own; an odd number of quotes
in it opens a group and keeps them for now. -/
theorem joinStep_outside (quote : UInt8) (tokens : List Bytes) (arg : Bytes) :
    joinStep quote (false, tokens) arg =
      some (oddCount quote arg,
        tokens ++ [if oddCount quote arg then arg else arg.filter (· ≠ quote)]) := by
  cases odd : oddCount quote arg <;> simp [joinStep, oddCount] at odd ⊢ <;> simp [odd]

/-- Inside quotes an argument is glued to the last token; an odd number of quotes
in it closes the group, which then loses its quotes. -/
theorem joinStep_inside (quote : UInt8) (tokens : List Bytes) (back arg : Bytes) :
    joinStep quote (true, tokens ++ [back]) arg =
      some (!oddCount quote arg,
        tokens ++ [if oddCount quote arg then (back ++ [space] ++ arg).filter (· ≠ quote)
          else back ++ [space] ++ arg]) := by
  cases odd : oddCount quote arg <;> simp [joinStep, oddCount] at odd ⊢ <;> simp [odd]

/-- The loop's state after some arguments, against the automaton's state after the
text of these arguments with the spaces between them. -/
structure Agrees (quote : UInt8) (lexer : State UInt8) (joined : Bool × List Bytes) : Prop where
  openQuote : joined.1 = lexer.inQuotes
  tokens : joined.2 = lexer.finished ++ [if lexer.inQuotes then lexer.raw else lexer.current]
  stripped : lexer.current = lexer.raw.filter (· ≠ quote)

/-- An argument outside quotes starts a token, as the automaton does. -/
theorem outside_agrees (quote : UInt8) (finished : List Bytes) (arg : Bytes)
    (argFree : space ∉ arg) :
    ∃ joined, joinStep quote (false, finished) arg = some joined ∧
      Agrees quote (read space quote (.fresh finished) arg) joined := by
  refine ⟨_, joinStep_outside quote finished arg, ?_⟩
  rw [read_word _ arg argFree]
  constructor <;> simp [State.fresh]

/-- Agreement survives a space and one more argument: outside quotes the space
ends the token and the argument starts the next, inside quotes both are part of
the token and of its raw text. -/
theorem step_agrees (quote : UInt8) (lexer : State UInt8) (joined : Bool × List Bytes)
    (arg : Bytes) (distinct : space ≠ quote) (argFree : space ∉ arg)
    (agrees : Agrees quote lexer joined) :
    ∃ next, joinStep quote joined arg = some next ∧
      Agrees quote (read space quote lexer (space :: arg)) next := by
  obtain ⟨openQuote, tokens⟩ := joined
  obtain ⟨sameFlag, sameTokens, stripped⟩ := agrees
  simp only at sameFlag sameTokens
  subst sameFlag sameTokens
  rw [read_cons]
  cases inQuotes : lexer.inQuotes with
  | false =>
    rw [step_space_outside lexer distinct inQuotes]
    simpa using outside_agrees quote (lexer.finished ++ [lexer.current]) arg argFree
  | true =>
    refine ⟨_, by simpa using joinStep_inside quote lexer.finished lexer.raw arg, ?_⟩
    rw [step_space_inside lexer distinct inQuotes, read_word _ arg argFree]
    constructor
    · simp [inQuotes]
    · cases odd : oddCount quote arg <;>
        simp [inQuotes, stripped, distinct]
    · simp [stripped, distinct]

/-- Agreement carries through the remaining arguments of a line, each written
behind a space. -/
theorem fold_agrees (quote : UInt8) (lexer : State UInt8) (joined : Bool × List Bytes)
    (args : List Bytes) (distinct : space ≠ quote) (argsFree : ∀ arg ∈ args, space ∉ arg)
    (agrees : Agrees quote lexer joined) :
    ∃ final, args.foldlM (joinStep quote) joined = some final ∧
      Agrees quote (read space quote lexer (args.flatMap (space :: ·))) final := by
  induction args generalizing lexer joined with
  | nil => exact ⟨joined, rfl, agrees⟩
  | cons arg rest inductionHypothesis =>
    have argFree : space ∉ arg := argsFree arg (by simp)
    have restFree : ∀ arg ∈ rest, space ∉ arg :=
      fun arg member => argsFree arg (List.mem_cons_of_mem _ member)
    obtain ⟨next, stepped, nextAgrees⟩ :=
      step_agrees quote lexer joined arg distinct argFree agrees
    obtain ⟨final, folded, finalAgrees⟩ := inductionHypothesis _ next restFree nextAgrees
    refine ⟨final, by simpa [stepped] using folded, ?_⟩
    rw [List.flatMap_cons, read_append]
    exact finalAgrees

/-- A line is its first token and the others each behind a space, and no token
holds a space. -/
theorem tokens_of_line (line : Bytes) :
    ∃ first rest, tokenize line space .includeEmptyTokens = first :: rest ∧
      line = first ++ rest.flatMap (space :: ·) ∧ space ∉ first ∧ ∀ arg ∈ rest, space ∉ arg := by
  rw [tokenize_splits]
  induction line with
  | nil => exact ⟨[], [], by simp [List.splitOn]⟩
  | cons letter text inductionHypothesis =>
    obtain ⟨first, rest, split, written, firstFree, restFree⟩ := inductionHypothesis
    rw [List.splitOn_eq_splitOnP] at split ⊢
    rw [List.splitOnP_cons_eq_if_modifyHead, split]
    by_cases isSpace : letter = space
    · subst isSpace
      refine ⟨[], first :: rest, by simp, by simp [written], by simp, ?_⟩
      simpa using ⟨firstFree, restFree⟩
    · refine ⟨letter :: first, rest, by simp [isSpace], by simp [written], ?_, restFree⟩
      simpa [Ne.symm isSpace] using firstFree

/-- What the two passes return on a line: the automaton's tokens, except that an
odd number of quotes leaves the last token as it was written. -/
def quotedTokens (line : Bytes) (quote : UInt8) : List Bytes :=
  if oddCount quote line then (lex space quote line).dropLast ++ [lastRaw space quote line]
  else lex space quote line

/-- Splitting a line at its spaces and joining the quoted arguments is the lexer.

The first argument starts the first token on both sides; each further argument
follows one space of the line. The agreement after the last argument gives the
tokens, and a quotation is open there exactly when the quotes are odd. -/
theorem joinQuotedArgs_tokenize (line : Bytes) (quote : UInt8) (distinct : quote ≠ space) :
    joinQuotedArgs (tokenize line space .includeEmptyTokens) quote =
      some (quotedTokens line quote) := by
  obtain ⟨first, rest, split, written, firstFree, restFree⟩ := tokens_of_line line
  obtain ⟨joined, started, startAgrees⟩ := outside_agrees quote [] first firstFree
  obtain ⟨final, folded, agrees⟩ :=
    fold_agrees quote _ joined rest (Ne.symm distinct) restFree startAgrees
  rw [← read_append, ← written] at agrees
  have result : joinQuotedArgs (first :: rest) quote = some final.2 := by
    simp [joinQuotedArgs, started, folded]
  have parity := read_inQuotes (State.fresh []) line (Ne.symm distinct)
  rw [split, result, agrees.tokens, parity]
  cases odd : oddCount quote line <;> simp [quotedTokens, odd, lex, lastRaw, State.fresh]

/-- A quoted argument with two spaces inside it, and an unterminated one behind it. -/
theorem joinQuotedArgs_tokenize_unterminated :
    joinQuotedArgs (tokenize (Bytes.literal "say \"a  b\" \"c d") space .includeEmptyTokens)
        '"'.toUInt8 =
      some (quotedTokens (Bytes.literal "say \"a  b\" \"c d") '"'.toUInt8) :=
  joinQuotedArgs_tokenize _ _ (by decide)

example : quotedTokens (Bytes.literal "say \"a  b\" \"c d") '"'.toUInt8 =
    [Bytes.literal "say", Bytes.literal "a  b", Bytes.literal "\"c d"] := by decide

end Plugpp.QuotedArgs
