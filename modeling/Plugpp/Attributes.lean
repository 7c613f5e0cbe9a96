import Plugpp.Tokenize
import Plugpp.UserInfo

/-!
# Attributes of any userinfo string

`getUserInfoAttribute` does not look at the format. Of any string and any name, also of a
name with backslashes in it and a string that is no list of pairs, it returns one of the
tokens between the backslashes of the string: the one behind the first place where the
tokens of the name stand in a row and another token follows. What precedes the first
backslash is not looked at.
-/

namespace Plugpp.UserInfo

open Bytes Search Splitting Tokenize

/-- A text is its first token, and the others with a backslash before each. -/
theorem text_of_tokens (text first : Bytes) (rest : List Bytes)
    (tokens : text.splitOn backslash = first :: rest) :
    text = first ++ delimited backslash rest := by
  have written : [backslash].intercalate (text.splitOn backslash) = text :=
    List.intercalate_splitOn backslash
  rw [tokens] at written
  rw [← written]
  clear written tokens
  induction rest generalizing first with
  | nil => simp [delimited]
  | cons next rest inductionHypothesis =>
    rw [List.intercalate_cons_cons, inductionHypothesis next]
    simp [delimited]

/-- No token holds a backslash. -/
theorem token_free (text : Bytes) : ∀ token ∈ text.splitOn backslash, backslash ∉ token := by
  intro token member
  rw [← pieces_letter] at member
  rw [← List.singleton_infix_iff]
  exact pieces_free text token member

/-- The lookup searches the tokens behind the first one for the tokens of the name. -/
theorem attribute_behind (userInfo attrName first name : Bytes) (rest names : List Bytes)
    (tokens : userInfo.splitOn backslash = first :: rest)
    (nameTokens : attrName.splitOn backslash = name :: names) :
    getUserInfoAttribute userInfo attrName = behindFirst (name :: names) rest := by
  have tokensFree := token_free userInfo
  have namesFree := token_free attrName
  rw [tokens] at tokensFree
  rw [nameTokens] at namesFree
  have firstFree : backslash ∉ first := tokensFree first List.mem_cons_self
  have text := text_of_tokens userInfo first rest tokens
  have escaped : [backslash] ++ attrName ++ [backslash] =
      delimited backslash (name :: names) ++ [backslash] := by
    rw [text_of_tokens attrName name names nameTokens]
    simp [delimited]
  obtain ⟨tail, pattern⟩ : ∃ tail,
      delimited backslash (name :: names) ++ [backslash] = backslash :: tail := by simp [delimited]
  have reads := search_reads_behind backslash name names rest namesFree fun field member =>
    tokensFree field (List.mem_cons_of_mem _ member)
  rw [pattern] at escaped reads
  simp only [getUserInfoAttribute, literal_backslash, escaped]
  rw [← reads]
  have located : userInfo.find (backslash :: tail) 0 =
      (occurrence (backslash :: tail) (delimited backslash rest)).map (· + first.length) := by
    rw [find, if_pos (Nat.zero_le _), List.drop_zero, text,
      occurrence_skip backslash tail first _ firstFree]
    exact Option.map_id'
  rw [located]
  cases found : occurrence (backslash :: tail) (delimited backslash rest) with
  | none => rfl
  | some position =>
    have fits := (occurrence_some _ _ _ found).1.length_le
    have size : userInfo.length = first.length + (delimited backslash rest).length := by
      rw [text, List.length_append]
    have behind : userInfo.drop (position + first.length + (backslash :: tail).length) =
        (delimited backslash rest).drop (position + (backslash :: tail).length) := by
      rw [text, show position + first.length + (backslash :: tail).length =
        first.length + (position + (backslash :: tail).length) by omega, List.drop_append]
      simp
    simp only [List.length_drop] at fits
    have inside := (occurrence_some _ _ _ found).2.1
    have read := substr_to_backslash userInfo
      (position + first.length + (backslash :: tail).length) (by
        simp only [List.length_cons] at fits ⊢
        omega)
    simp only [Option.map_some]
    rw [read, behind]

/-- Of every string and every name, `getUserInfoAttribute` returns the token behind the
first place where the tokens of the name stand in a row, the first token of the string
left out, and nothing if there is no such place or no token behind it. -/
theorem attribute_token (userInfo attrName : Bytes) :
    let tokens := tokenize userInfo backslash .includeEmptyTokens
    let names := tokenize attrName backslash .includeEmptyTokens
    ∀ value, getUserInfoAttribute userInfo attrName = some value ↔ ∃ position, 0 < position ∧
      names <+: tokens.drop position ∧ tokens[position + names.length]? = some value ∧
      ∀ earlier, 0 < earlier → earlier < position → ¬ names <+: tokens.drop earlier := by
  intro tokens names value
  obtain ⟨first, rest, split⟩ := List.exists_cons_of_ne_nil
    (List.splitOn_ne_nil backslash userInfo)
  obtain ⟨name, others, nameSplit⟩ := List.exists_cons_of_ne_nil
    (List.splitOn_ne_nil backslash attrName)
  have isTokens : tokens = first :: rest := (tokenize_splits userInfo backslash).trans split
  have isNames : names = name :: others := (tokenize_splits attrName backslash).trans nameSplit
  rw [attribute_behind userInfo attrName first name rest others split nameSplit,
    behindFirst_eq_some_iff, isTokens, isNames]
  constructor
  · rintro ⟨position, starts, found, least⟩
    refine ⟨position + 1, Nat.succ_pos _, by simpa using starts, ?_, ?_⟩
    · rw [Nat.add_right_comm, List.getElem?_cons_succ]
      exact found
    · intro earlier behindStart before
      obtain ⟨previous, rfl⟩ := Nat.exists_eq_add_of_lt behindStart
      simpa using least previous (by omega)
  · rintro ⟨position, behindStart, starts, found, least⟩
    obtain ⟨previous, rfl⟩ := Nat.exists_eq_add_of_lt behindStart
    rw [Nat.zero_add, Nat.add_right_comm, List.getElem?_cons_succ] at found
    refine ⟨previous, by simpa using starts, found, ?_⟩
    intro earlier before
    simpa using least (earlier + 1) (Nat.succ_pos _) (by omega)

example : getUserInfoAttribute (literal "a\\b\\a\\b\\c") (literal "a\\b") = some (literal "c") := by
  decide

end Plugpp.UserInfo
