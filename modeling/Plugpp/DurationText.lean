import Plugpp.Join
import Plugpp.Text
import Plugpp.TimeDuration

/-!
# Durations as text

`toStr` of a `TimeDuration` writes the fractions that are not zero, most significant
first, each as its amount and its unit, with a comma and a space between them. The
condensed text ends after two of them.

No unit and no amount holds a comma, an amount is all digits, and no unit begins like
another one, so the text can be read back.
-/

namespace Plugpp

open Bytes Splitting Tokenize

namespace Fraction

/-- The fractions in the order of their numbers. -/
def all : List Fraction := [years, months, days, hours, minutes, seconds]

/-- The unit of a fraction, as `toStr` writes it. -/
def unit : Fraction → Bytes
  | years => literal "year"
  | months => literal "month"
  | days => literal "day"
  | hours => literal "hour"
  | minutes => literal "minute"
  | seconds => literal "second"

end Fraction

namespace TimeDuration

/-- The text of one fraction. -/
def fractionText (fraction : Fraction) (value : Int) : Bytes :=
  literal (toString value) ++ literal " " ++ fraction.unit ++
    if value > 1 then literal "s" else []

/-- `maybeAppendFraction`, on the texts that were appended before. -/
def maybeAppendFraction (time : TimeDuration) (fractions : List Bytes) (fraction : Fraction) :
    Bool × List Bytes :=
  let value := time.getFractionAmount fraction
  if value ≤ 0 then (false, fractions) else (true, fractions ++ [fractionText fraction value])

/-- The loop of `toStr` over the fractions that remain. -/
def appendFractions (time : TimeDuration) (condensed : Bool) :
    List Fraction → Int → List Bytes → List Bytes
  | [], _, fractions => fractions
  | fraction :: rest, fractionsAdded, fractions =>
    let (appended, fractions) := time.maybeAppendFraction fractions fraction
    let fractionsAdded := fractionsAdded + if appended then 1 else 0
    if condensed && fractionsAdded ≥ 2 then fractions
    else appendFractions time condensed rest fractionsAdded fractions

/-- `toStr`. -/
def toStr (time : TimeDuration) (condensed : Bool) : Bytes :=
  join (time.appendFractions condensed Fraction.all 0 []) (literal ", ")

/-- No fraction is negative. -/
def Nonnegative (time : TimeDuration) : Prop := ∀ fraction, 0 ≤ time.getFractionAmount fraction

/-- Those of some fractions that are not zero. -/
def nonzero (time : TimeDuration) (fractions : List Fraction) : List Fraction :=
  fractions.filter fun fraction => time.getFractionAmount fraction ≠ 0

/-- The text of a fraction of a duration. -/
def text (time : TimeDuration) (fraction : Fraction) : Bytes :=
  fractionText fraction (time.getFractionAmount fraction)

/-! ## The loop -/

/-- A fraction is appended exactly if it is not zero. -/
theorem maybeAppendFraction_eq {time : TimeDuration} (nonnegative : time.Nonnegative)
    (fractions : List Bytes) (fraction : Fraction) :
    time.maybeAppendFraction fractions fraction =
      if time.getFractionAmount fraction ≠ 0 then (true, fractions ++ [time.text fraction])
      else (false, fractions) := by
  have bound := nonnegative fraction
  unfold maybeAppendFraction
  by_cases zero : time.getFractionAmount fraction = 0
  · simp [zero]
  · rw [if_neg (by omega), if_pos zero]
    rfl

/-- Uncondensed, the loop appends the text of every fraction that is not zero. -/
theorem appendFractions_all {time : TimeDuration} (nonnegative : time.Nonnegative)
    (remaining : List Fraction) (fractionsAdded : Int) (fractions : List Bytes) :
    time.appendFractions false remaining fractionsAdded fractions =
      fractions ++ (time.nonzero remaining).map time.text := by
  induction remaining generalizing fractionsAdded fractions with
  | nil => simp [appendFractions, nonzero]
  | cons fraction rest inductionHypothesis =>
    rw [appendFractions, maybeAppendFraction_eq nonnegative]
    by_cases zero : time.getFractionAmount fraction = 0 <;>
      simp [zero, inductionHypothesis, nonzero]

/-- Condensed, it ends as soon as there are two. -/
theorem appendFractions_condensed {time : TimeDuration} (nonnegative : time.Nonnegative)
    (remaining : List Fraction) (fractionsAdded : Nat) (few : fractionsAdded < 2)
    (fractions : List Bytes) :
    time.appendFractions true remaining fractionsAdded fractions =
      fractions ++ ((time.nonzero remaining).take (2 - fractionsAdded)).map time.text := by
  induction remaining generalizing fractionsAdded fractions with
  | nil => simp [appendFractions, nonzero]
  | cons fraction rest inductionHypothesis =>
    rw [appendFractions, maybeAppendFraction_eq nonnegative]
    by_cases zero : time.getFractionAmount fraction = 0
    · have notYet : ¬ (2 : Int) ≤ fractionsAdded := by omega
      simp [zero, notYet, inductionHypothesis fractionsAdded few, nonzero]
    · by_cases second : fractionsAdded = 1
      · simp [zero, second, nonzero]
      · have none : fractionsAdded = 0 := by omega
        have later := inductionHypothesis 1 (by decide) (fractions ++ [time.text fraction])
        simpa [zero, none, nonzero] using later

/-- The whole text. -/
theorem toStr_all {time : TimeDuration} (nonnegative : time.Nonnegative) :
    time.toStr false =
      (literal ", ").intercalate ((time.nonzero Fraction.all).map time.text) := by
  rw [toStr, appendFractions_all nonnegative, List.nil_append, join_intercalates,
    cString_free _ (by decide)]

/-- The condensed text. -/
theorem toStr_condensed {time : TimeDuration} (nonnegative : time.Nonnegative) :
    time.toStr true =
      (literal ", ").intercalate (((time.nonzero Fraction.all).take 2).map time.text) := by
  have appended := appendFractions_condensed nonnegative Fraction.all 0 (by decide) []
  rw [Int.natCast_zero] at appended
  rw [toStr, appended, List.nil_append, join_intercalates, cString_free _ (by decide)]

/-! ## Reading it back -/

/-- The amount in the text of a fraction, if it is the text of this one. -/
def readFraction (fraction : Fraction) (token : Bytes) : Option Int :=
  if (literal " " ++ fraction.unit).isPrefixOf (token.dropWhile isDigit) then
    some (digitsValue (token.takeWhile isDigit))
  else none

/-- The amount of a fraction in the text of a duration. -/
def readDuration (text : Bytes) (fraction : Fraction) : Int :=
  ((tokenizeString text (literal ", ") .includeEmptyTokens).findSome?
    (readFraction fraction)).getD 0

/-- No unit begins like another one. -/
theorem unit_isPrefixOf (fraction other : Fraction) (behind : Bytes) :
    (literal " " ++ fraction.unit).isPrefixOf (literal " " ++ other.unit ++ behind) =
      decide (fraction = other) := by
  cases fraction <;> cases other <;> rfl

/-- A positive amount is written in its digits. -/
theorem fractionText_digits (fraction : Fraction) {value : Int} (positive : 0 < value) :
    ∃ behind, fractionText fraction value =
      decimal value.toNat ++ (literal " " ++ fraction.unit ++ behind) ∧
        (behind = literal "s" ∨ behind = []) := by
  obtain ⟨amount, rfl⟩ := Int.eq_ofNat_of_zero_le positive.le
  have digits : literal (toString (amount : Int)) = decimal amount := rfl
  refine ⟨if (amount : Int) > 1 then literal "s" else [], ?_, by split <;> simp⟩
  rw [fractionText, digits, Int.toNat_natCast]
  simp only [List.append_assoc]

/-- The text of a fraction is read as that of no other one. -/
theorem readFraction_fractionText (fraction other : Fraction) {value : Int}
    (positive : 0 < value) :
    readFraction fraction (fractionText other value) =
      if fraction = other then some value else none := by
  obtain ⟨behind, written, _⟩ := fractionText_digits other positive
  have digits := decimal_digits value.toNat
  have space : ∃ rest, literal " " ++ other.unit ++ behind = 0x20 :: rest := ⟨_, rfl⟩
  obtain ⟨rest, spaced⟩ := space
  have noDigit : isDigit 0x20 = false := by decide
  have front : (fractionText other value).takeWhile isDigit = decimal value.toNat := by
    rw [written, spaced, List.takeWhile_append_of_pos digits]
    simp [noDigit]
  have back : (fractionText other value).dropWhile isDigit =
      literal " " ++ other.unit ++ behind := by
    rw [written, List.dropWhile_append_of_pos digits, spaced]
    simp [noDigit]
  rw [readFraction, front, back, unit_isPrefixOf, digitsValue_decimal,
    Int.toNat_of_nonneg positive.le]
  simp

/-- Texts of fractions hold no comma. -/
theorem comma_not_mem_fractionText (fraction : Fraction) {value : Int} (positive : 0 < value) :
    0x2C ∉ fractionText fraction value := by
  obtain ⟨behind, written, plural⟩ := fractionText_digits fraction positive
  rw [written, List.mem_append, List.mem_append]
  rintro (inDigits | inUnit | inPlural)
  · exact absurd (decimal_digits _ _ inDigits) (by decide)
  · revert inUnit
    cases fraction <;> decide
  · rcases plural with rfl | rfl
    · exact absurd inPlural (by decide)
    · exact absurd inPlural List.not_mem_nil

/-- Among the texts of fractions, the one of a fraction gives its amount. -/
theorem findSome_text {time : TimeDuration} (fraction : Fraction) (fractions : List Fraction)
    (positive : ∀ other ∈ fractions, 0 < time.getFractionAmount other) :
    (fractions.map time.text).findSome? (readFraction fraction) =
      if fraction ∈ fractions then some (time.getFractionAmount fraction) else none := by
  induction fractions with
  | nil => rfl
  | cons first rest inductionHypothesis =>
    have later := inductionHypothesis fun other member =>
      positive other (List.mem_cons_of_mem _ member)
    have here := readFraction_fractionText fraction first (positive first List.mem_cons_self)
    rw [List.map_cons, List.findSome?_cons, text, here, later]
    by_cases same : fraction = first
    · simp [same]
    · simp [same]

/-- The fractions that are shown are positive. -/
theorem positive_of_nonzero {time : TimeDuration} (nonnegative : time.Nonnegative)
    {fractions : List Fraction} {fraction : Fraction} (shown : fraction ∈ time.nonzero fractions) :
    0 < time.getFractionAmount fraction := by
  have bound := nonnegative fraction
  have nonzero : time.getFractionAmount fraction ≠ 0 := by
    simpa using (List.mem_filter.mp shown).2
  omega

/-- The texts that are shown hold no comma. -/
theorem comma_not_mem_texts {time : TimeDuration} (nonnegative : time.Nonnegative)
    (fractions : List Fraction) :
    ∀ token ∈ (time.nonzero fractions).map time.text, 0x2C ∉ token := by
  intro token member
  obtain ⟨fraction, shown, rfl⟩ := List.mem_map.mp member
  exact comma_not_mem_fractionText fraction (positive_of_nonzero nonnegative shown)

/-- Every fraction is read back from the whole text. -/
theorem readDuration_toStr {time : TimeDuration} (nonnegative : time.Nonnegative)
    (fraction : Fraction) :
    readDuration (time.toStr false) fraction = time.getFractionAmount fraction := by
  have separator : literal ", " = 0x2C :: [0x20] := by decide
  have listed : fraction ∈ Fraction.all := by cases fraction <;> decide
  have shown : fraction ∈ time.nonzero Fraction.all ↔ time.getFractionAmount fraction ≠ 0 := by
    simp [nonzero, listed]
  have found : (tokenizeString (time.toStr false) (literal ", ") .includeEmptyTokens).findSome?
      (readFraction fraction) = if fraction ∈ time.nonzero Fraction.all then
        some (time.getFractionAmount fraction) else none := by
    rw [toStr_all nonnegative]
    by_cases nothing : time.nonzero Fraction.all = []
    · have unread : readFraction fraction [] = none := by cases fraction <;> rfl
      simp [nothing, tokenizeString, unread]
    · rw [separator, tokenizeString_included _ _ (List.cons_ne_nil _ _),
        pieces_intercalate 0x2C [0x20] (by simpa using nothing) (comma_not_mem_texts nonnegative _)]
      exact findSome_text fraction _ fun other member => positive_of_nonzero nonnegative member
  rw [readDuration, found]
  by_cases zero : time.getFractionAmount fraction = 0
  · rw [if_neg (by simp [shown, zero]), zero]
    rfl
  · rw [if_pos (shown.mpr zero)]
    rfl

end TimeDuration

/-! ## The condensed text -/

/-- A text up to the second separator, or all of it if there are not two. -/
def beforeSecond (separator text : Bytes) : Bytes :=
  match (text.find separator 0).bind fun first =>
    text.find separator (first + separator.length) with
  | some second => text.take second
  | none => text

/-- A separator that is not in an item is not found in it. -/
theorem occurrence_absent (letter : UInt8) (tail item : Bytes) (free : letter ∉ item) :
    Search.occurrence (letter :: tail) item = none := by
  rw [Search.occurrence_none_iff]
  exact fun inside => free (inside.subset List.mem_cons_self)

/-- Behind an item and a separator, the text ends before the next separator. -/
theorem beforeSecond_item (letter : UInt8) (tail item behind : Bytes) (free : letter ∉ item) :
    beforeSecond (letter :: tail) (item ++ (letter :: tail) ++ behind) =
      item ++ (letter :: tail) ++ match Search.occurrence (letter :: tail) behind with
        | some position => behind.take position
        | none => behind := by
  have first : find (item ++ (letter :: tail) ++ behind) (letter :: tail) 0 = some item.length := by
    rw [find, if_pos (Nat.zero_le _), List.drop_zero,
      Search.occurrence_found letter tail item behind free, Option.map_some, Nat.add_zero]
  have length : (item ++ (letter :: tail)).length = item.length + (letter :: tail).length :=
    List.length_append
  rw [beforeSecond, first, Option.bind_some, ← length, find, if_pos (by simp), List.drop_left]
  cases Search.occurrence (letter :: tail) behind with
  | none => rfl
  | some position =>
    rw [Option.map_some, Nat.add_comm]
    exact List.take_length_add_append position

/-- Up to the second separator two items are written. -/
theorem beforeSecond_intercalate (letter : UInt8) (tail : Bytes) (items : List Bytes)
    (free : ∀ item ∈ items, letter ∉ item) :
    beforeSecond (letter :: tail) ((letter :: tail).intercalate items) =
      (letter :: tail).intercalate (items.take 2) := by
  match items with
  | [] => simp [beforeSecond, find, occurrence_absent letter tail [] List.not_mem_nil]
  | [item] => simp [beforeSecond, find, occurrence_absent letter tail item (free item (by simp))]
  | [item, next] =>
    rw [List.intercalate_cons_cons, beforeSecond_item letter tail item _ (free item (by simp)),
      List.intercalate_singleton, occurrence_absent letter tail next (free next (by simp))]
    simp [List.intercalate_cons_cons]
  | item :: next :: other :: rest =>
    have found := Search.occurrence_found letter tail next
      ((letter :: tail).intercalate (other :: rest)) (free next (by simp))
    rw [List.intercalate_cons_cons, beforeSecond_item letter tail item _ (free item (by simp)),
      List.intercalate_cons_cons, found]
    simp [List.intercalate_cons_cons]

/-- The whole text of a duration can be read back, so it determines the fractions. The
condensed text is that of the two most significant fractions that are not zero: the
whole text up to its second separator. -/
theorem toStr_readable :
    (∀ (time : TimeDuration), time.Nonnegative → ∀ fraction,
      TimeDuration.readDuration (time.toStr false) fraction = time.getFractionAmount fraction) ∧
    (∀ (a b : TimeDuration), a.Nonnegative → b.Nonnegative → a.toStr false = b.toStr false →
      ∀ fraction, a.getFractionAmount fraction = b.getFractionAmount fraction) ∧
    (∀ (time : TimeDuration), time.Nonnegative →
      time.toStr true =
          join (((time.nonzero Fraction.all).take 2).map time.text) (literal ", ") ∧
        time.toStr true = beforeSecond (literal ", ") (time.toStr false) ∧
        ((time.nonzero Fraction.all).length ≤ 2 → time.toStr true = time.toStr false)) := by
  refine ⟨?_, ?_, ?_⟩
  · exact fun time nonnegative fraction => TimeDuration.readDuration_toStr nonnegative fraction
  · intro a b aNonnegative bNonnegative same fraction
    rw [← TimeDuration.readDuration_toStr aNonnegative, same,
      TimeDuration.readDuration_toStr bNonnegative]
  · intro time nonnegative
    have separator : literal ", " = 0x2C :: [0x20] := by decide
    have condensed := TimeDuration.toStr_condensed nonnegative
    refine ⟨?_, ?_, ?_⟩
    · rw [condensed, join_intercalates, cString_free _ (by decide)]
    · rw [condensed, TimeDuration.toStr_all nonnegative, separator, beforeSecond_intercalate _ _ _
        (TimeDuration.comma_not_mem_texts nonnegative _), List.map_take]
    · intro few
      rw [condensed, TimeDuration.toStr_all nonnegative, List.take_of_length_le few]

/-- A month, an hour and five seconds. -/
theorem toStr_readable_three :
    TimeDuration.readDuration (TimeDuration.toStr ⟨#v[0, 1, 0, 1, 0, 5]⟩ false) .seconds = 5 ∧
      (∀ other : TimeDuration, other.Nonnegative →
        TimeDuration.toStr ⟨#v[0, 1, 0, 1, 0, 5]⟩ false = other.toStr false →
          1 = other.getFractionAmount .hours) ∧
      TimeDuration.toStr ⟨#v[0, 1, 0, 1, 0, 5]⟩ true =
        beforeSecond (literal ", ") (TimeDuration.toStr ⟨#v[0, 1, 0, 1, 0, 5]⟩ false) := by
  have nonnegative : TimeDuration.Nonnegative ⟨#v[0, 1, 0, 1, 0, 5]⟩ := by
    intro fraction
    cases fraction <;> decide
  refine ⟨toStr_readable.1 _ nonnegative .seconds, ?_, (toStr_readable.2.2 _ nonnegative).2.1⟩
  exact fun other otherNonnegative same =>
    toStr_readable.2.1 _ other nonnegative otherNonnegative same .hours

example : TimeDuration.toStr ⟨#v[0, 1, 0, 1, 0, 5]⟩ true = literal "1 month, 1 hour" := by decide

end Plugpp
