import Plugpp.CmdLine
import Plugpp.Join
import Plugpp.Trim

/-!
# Words

Tokenizing by whitespace without the empty tokens gives the words of a text. What else
the library does with whitespace goes by the same words: extracting a string from a stream
takes the first of them, joining them with spaces and tokenizing again changes nothing, and
`trim`, whatever whitespace it leaves or misses, never changes them where it returns.
-/

namespace Plugpp

open Bytes Trimming Tokenize

/-- `isspace` holds of the whitespace that `trim` considers. -/
theorem isSpace_isBlank : isSpace = isBlank := by
  funext c
  rw [Bool.eq_iff_iff]
  simp only [isSpace, isBlank, whitespaces, Bool.or_eq_true, beq_iff_eq, Bool.and_eq_true,
    decide_eq_true_eq, List.contains_eq_mem, List.mem_cons, List.not_mem_nil, or_false,
    ← UInt8.toNat_inj, UInt8.le_iff_toNat_le, UInt8.reduceToNat]
  omega

/-- Tokenizing by whitespace without the empty tokens gives the words. -/
theorem tokenizeBy_words (text : Bytes) :
    tokenizeBy text isSpace .excludeEmptyTokens = words isBlank text := by
  have split : tokenizeBy text isBlank .includeEmptyTokens = text.splitOnP isBlank := by
    unfold tokenizeBy
    split
    · next empty => simp [empty]
    · exact tokenizeFrom_splits isBlank text
  rw [isSpace_isBlank, tokenizeBy_modes, split, words]
  refine List.filter_congr fun token _ => ?_
  cases token <;> simp [kept]

/-- Extracting a string from a stream takes the first word. -/
theorem extractString_head (text : Bytes) :
    CmdLine.extractString text = (words isBlank text).head? := by
  rw [words_head, CmdLine.extractString, isSpace_isBlank]

/-- What `trim` returns has the words of the string. Behind the core it leaves nothing but
whitespace. -/
theorem words_trim {text result : Bytes} (returned : trim text = some result) :
    words isBlank result = words isBlank text := by
  have isCore := core_dropped isBlank text
  generalize (text.dropWhile isBlank).rdropWhile isBlank = core at isCore
  obtain ⟨before, behind, rfl, blankBefore, blankBehind⟩ := isCore.around
  have whole : words isBlank (before ++ core ++ behind) = words isBlank core := by
    rw [words_append_back blankBehind, words_append_front blankBefore]
  by_cases empty : core = []
  · subst empty
    have blank : ∀ character ∈ before ++ [] ++ behind, isBlank character = true := by
      simpa [or_imp, forall_and] using ⟨blankBefore, blankBehind⟩
    rw [trim_blank _ blank, Option.some_inj] at returned
    rw [whole, ← returned]
  · rw [trim_around isCore empty blankBefore blankBehind] at returned
    split at returned
    · rw [Option.some_inj] at returned
      rw [whole, ← returned]
      exact words_append_back (fun letter member => blankBehind letter (List.mem_of_mem_take member))
        core
    · cases returned

/-- A text that is its own core is not changed by `trim`. -/
theorem trim_core {core : Bytes} (isCore : Core isBlank core core) : trim core = some core := by
  by_cases empty : core = []
  · subst empty
    exact trim_blank [] (by simp)
  · have trimmed := @trim_around [] core [] (by simpa using isCore) empty (by simp) (by simp)
    simpa using trimmed

/-- All that splits a text at whitespace agrees on its words, the tokens by `isspace` that are
not empty: the string extracted from a stream is the first of them; joined with spaces they
are what `trim` leaves as it is and what has the same words again; and whatever `trim` returns
has the words of the text. -/
theorem words_agree (text : Bytes) :
    let words := tokenizeBy text isSpace .excludeEmptyTokens
    CmdLine.extractString text = words.head? ∧
      trim (join words (literal " ")) = some (join words (literal " ")) ∧
      tokenizeBy (join words (literal " ")) isSpace .excludeEmptyTokens = words ∧
      ∀ result, trim text = some result →
        tokenizeBy result isSpace .excludeEmptyTokens = words := by
  intro tokens
  have isWords : tokens = words isBlank text := tokenizeBy_words text
  have clean : ∀ word ∈ words isBlank text,
      word ≠ [] ∧ ∀ letter ∈ word, isBlank letter = false := words_clean text
  have joined : join (words isBlank text) (literal " ") =
      [(0x20 : UInt8)].intercalate (words isBlank text) :=
    join_intercalates _ _
  rw [isWords, joined, tokenizeBy_words]
  refine ⟨extractString_head text, trim_core (core_intercalate _ clean),
    words_intercalate (by decide) _ clean, ?_⟩
  intro result returned
  rw [tokenizeBy_words, words_trim returned]

example : tokenizeBy (literal "\t say  hi ") isSpace .excludeEmptyTokens =
    [literal "say", literal "hi"] := by
  decide +kernel

end Plugpp
