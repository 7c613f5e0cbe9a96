import Plugpp.Bytes

/-!
# Attributes of the userinfo string

The userinfo string a client sends writes a backslash before each key and each
value, alternating. `getUserInfoAttribute` looks for the wanted name between two
backslashes and reads on to the next backslash. The search sees one sequence of
fields and not which of them are keys, so a value that equals the wanted name is
taken for the key when another pair follows it.

`lookup` states what the format means. `impostor` is the field the search reads
behind such a value. The main theorem says when the two agree.
-/

namespace Plugpp.UserInfo

open Bytes Search

/-- The separator of the format. -/
def backslash : UInt8 := '\\'.toUInt8

/-- The name between two separators is searched for; what stands behind it, up
to the next separator or the end, is returned. -/
def getUserInfoAttribute (userInfo attrName : Bytes) : Option Bytes :=
  let escapedAttrName := literal "\\" ++ attrName ++ literal "\\"
  match userInfo.find escapedAttrName 0 with
  | none => none
  | some attrPos =>
    let valueStartPos := attrPos + escapedAttrName.length
    let valueEndPos := userInfo.find (literal "\\") valueStartPos
    some (userInfo.substr valueStartPos (valueEndPos.map (· - valueStartPos)))

/-- The userinfo string of a list of pairs. -/
def encode (pairs : List (Bytes × Bytes)) : Bytes :=
  pairs.flatMap fun pair => literal "\\" ++ pair.1 ++ literal "\\" ++ pair.2

/-- What the format says the attribute is: the value of the first pair with that key. -/
def lookup (pairs : List (Bytes × Bytes)) (attrName : Bytes) : Option Bytes :=
  (pairs.find? fun pair => pair.1 == attrName).map Prod.snd

/-- The key behind the first value that equals the name, among the pairs before
the name's own pair that have a successor. -/
def impostor (attrName : Bytes) : List (Bytes × Bytes) → Option Bytes
  | [] => none
  | [_] => none
  | pair :: next :: rest =>
      if pair.1 = attrName then none
      else if pair.2 = attrName then some next.1
      else impostor attrName (next :: rest)

/-- Keys and values in the order in which they are written. -/
def fields (pairs : List (Bytes × Bytes)) : List Bytes :=
  pairs.flatMap fun pair => [pair.1, pair.2]

theorem literal_backslash : literal "\\" = [backslash] := by decide

/-- A written list of pairs is the delimited text of its fields. -/
theorem encode_delimited (pairs : List (Bytes × Bytes)) :
    encode pairs = delimited backslash (fields pairs) := by
  induction pairs with
  | nil => rfl
  | cons pair rest inductionHypothesis =>
    simp only [encode, fields, delimited, List.flatMap_cons, literal_backslash] at *
    rw [inductionHypothesis]
    simp

/-- Cutting at the separator found from a position on, or at the end where there
is none, reads from that position up to the first separator. -/
theorem substr_to_backslash (text : Bytes) (position : Nat) (inside : position ≤ text.length) :
    text.substr position ((text.find [backslash] position).map (· - position)) =
      (text.drop position).takeWhile (· ≠ backslash) := by
  rw [← cut_at_element backslash (text.drop position)]
  simp only [find, inside, ↓reduceIte]
  cases occurrence [backslash] (text.drop position) <;> simp [substr]

/-- The lookup reads the field after the first non-final field that equals the
name, whether that field is a key or a value. -/
theorem attribute_is_following (pairs : List (Bytes × Bytes)) (attrName : Bytes)
    (nameFree : backslash ∉ attrName)
    (fieldsFree : ∀ pair ∈ pairs, backslash ∉ pair.1 ∧ backslash ∉ pair.2) :
    getUserInfoAttribute (encode pairs) attrName = following attrName (fields pairs) := by
  have eachFree : ∀ field ∈ fields pairs, backslash ∉ field := by
    intro field member
    obtain ⟨pair, inPairs, here⟩ := List.mem_flatMap.mp member
    have keyOrValue : field = pair.1 ∨ field = pair.2 := by simpa using here
    rcases keyOrValue with rfl | rfl
    · exact (fieldsFree pair inPairs).1
    · exact (fieldsFree pair inPairs).2
  rw [← search_reads_following backslash attrName (fields pairs) nameFree eachFree,
    ← encode_delimited]
  simp only [getUserInfoAttribute, literal_backslash]
  cases found : occurrence (backslash :: (attrName ++ [backslash])) (encode pairs) with
  | none => simp [find, found]
  | some position =>
    obtain ⟨starts, within, _⟩ := occurrence_some _ _ _ found
    have inside : position + (attrName.length + 2) ≤ (encode pairs).length := by
      have fits := starts.length_le
      simp only [List.length_cons, List.length_append, List.length_drop, List.length_nil] at fits
      omega
    have read := substr_to_backslash (encode pairs) (position + (attrName.length + 2)) inside
    simpa [find, found] using read

/-- Over the fields of the pairs, the field read is the impostor where there is
one and the value of the name's own pair otherwise.

Follow the impostor's own recursion: a pair whose key is the name ends both
searches; otherwise its value is the impostor's occasion, provided another pair
follows, and a last pair's value has no field after it. -/
theorem following_fields (pairs : List (Bytes × Bytes)) (attrName : Bytes) :
    following attrName (fields pairs) = (impostor attrName pairs).or (lookup pairs attrName) := by
  induction pairs with
  | nil => rfl
  | cons pair rest inductionHypothesis =>
    obtain ⟨key, value⟩ := pair
    by_cases own : key = attrName
    · subst own
      have none : impostor key ((key, value) :: rest) = none := by
        cases rest <;> simp [impostor]
      simp [none, fields, following, lookup]
    · have skipKey : following attrName (fields ((key, value) :: rest)) =
          following attrName (value :: fields rest) := by
        simp [fields, following, own]
      have skipPair : lookup ((key, value) :: rest) attrName = lookup rest attrName := by
        simp [lookup, own]
      rw [skipKey, skipPair]
      cases rest with
      | nil => simp [fields, following, impostor, lookup]
      | cons next rest =>
        by_cases taken : value = attrName
        · simp [fields, following, impostor, own, taken]
        · have skipValue : following attrName (value :: fields (next :: rest)) =
              following attrName (fields (next :: rest)) := by
            simp [fields, following, taken]
          rw [skipValue, inductionHypothesis]
          simp [impostor, own, taken]

/-- What the format asks of a list of pairs: distinct non-empty keys, and no
separator inside a key or a value. -/
structure WellFormed (pairs : List (Bytes × Bytes)) : Prop where
  distinct : (pairs.map Prod.fst).Nodup
  nonempty : ∀ pair ∈ pairs, pair.1 ≠ []
  separated : ∀ pair ∈ pairs, backslash ∉ pair.1 ∧ backslash ∉ pair.2

/-- The lookup returns what the format says exactly when no value stands in for
the name, or the key behind the first that does happens to be the value sought. -/
theorem attribute_exact (pairs : List (Bytes × Bytes)) (attrName : Bytes)
    (wellFormed : WellFormed pairs) (nameFree : backslash ∉ attrName) :
    getUserInfoAttribute (encode pairs) attrName = lookup pairs attrName ↔
      ∀ key, impostor attrName pairs = some key → lookup pairs attrName = some key := by
  rw [attribute_is_following pairs attrName nameFree wellFormed.separated,
    following_fields pairs attrName]
  cases standsIn : impostor attrName pairs with
  | none => simp
  | some key => simp [eq_comm]

/-- The law applies to a player whose name is the key that follows it. -/
theorem attribute_exact_at_shadowed_key :
    getUserInfoAttribute
        (encode [(literal "name", literal "ip"), (literal "rate", literal "25000"),
          (literal "ip", literal "10.0.0.1")]) (literal "ip") =
      lookup [(literal "name", literal "ip"), (literal "rate", literal "25000"),
          (literal "ip", literal "10.0.0.1")] (literal "ip") ↔
      ∀ key, impostor (literal "ip") [(literal "name", literal "ip"),
          (literal "rate", literal "25000"), (literal "ip", literal "10.0.0.1")] = some key →
        lookup [(literal "name", literal "ip"), (literal "rate", literal "25000"),
          (literal "ip", literal "10.0.0.1")] (literal "ip") = some key :=
  attribute_exact _ (literal "ip")
    ⟨by decide, by decide, by decide⟩ (by decide)

/-- A well-formed userinfo string need not decode: the player named `ip` makes
the lookup of `ip` return the key written behind that name. -/
theorem attribute_is_not_lookup :
    ¬ ∀ (pairs : List (Bytes × Bytes)) (attrName : Bytes), WellFormed pairs →
      backslash ∉ attrName → attrName ≠ [] →
      getUserInfoAttribute (encode pairs) attrName = lookup pairs attrName := by
  intro decodes
  have atShadowed := decodes [(literal "name", literal "ip"), (literal "rate", literal "25000"),
    (literal "ip", literal "10.0.0.1")] (literal "ip")
    ⟨by decide, by decide, by decide⟩ (by decide) (by decide)
  exact absurd atShadowed (by decide)

end Plugpp.UserInfo
