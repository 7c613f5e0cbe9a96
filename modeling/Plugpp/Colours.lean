import Mathlib.Logic.Function.Iterate
import Plugpp.Cancelling
import Plugpp.Text

/-!
# Colours that are left

`removeColor` goes over the string once. What it drops brings a caret in front of it
together with a digit behind it, and the pass has already gone by: colours that are
nested in one another are not all removed.
-/

namespace Plugpp

open Bytes Cancelling Relation

/-- A caret stands directly before a digit. -/
def Coloured (str : Bytes) : Prop := ∃ digit, isDigit digit = true ∧ [0x5E, digit] <:+: str

/-- Colours in a row. -/
def colours (digits : Bytes) : Bytes := digits.flatMap fun digit => [0x5E, digit]

/-- Colours in a row stand between a caret and a digit. -/
def Nested (str : Bytes) : Prop :=
  ∃ digits digit, digits ≠ [] ∧ (∀ d ∈ digits, isDigit d = true) ∧ isDigit digit = true ∧
    0x5E :: (colours digits ++ [digit]) <:+: str

/-- The string starts with a digit. -/
def StartsDigit (str : Bytes) : Prop := ∃ digit, isDigit digit = true ∧ [digit] <+: str

/-- The string starts with colours in a row, possibly none, and then a digit. -/
def StartsColours (str : Bytes) : Prop :=
  ∃ digits digit, (∀ d ∈ digits, isDigit d = true) ∧ isDigit digit = true ∧
    colours digits ++ [digit] <+: str

/-- One more colour in a row. -/
theorem colours_cons (digit : UInt8) (digits : Bytes) :
    colours (digit :: digits) = 0x5E :: digit :: colours digits := rfl

/-- Nothing has no colour, no first digit and no nested colours. -/
theorem nil_plain : ¬ Coloured [] ∧ ¬ StartsDigit [] ∧ ¬ Nested [] := by
  simp [Coloured, StartsDigit, Nested]

/-- A string has a colour at its start or behind its first character. -/
theorem coloured_cons (c : UInt8) (rest : Bytes) :
    Coloured (c :: rest) ↔ (c = 0x5E ∧ StartsDigit rest) ∨ Coloured rest := by
  simp only [Coloured, StartsDigit, List.infix_cons_iff, List.cons_prefix_cons, and_or_left,
    exists_or]
  refine or_congr_left ?_
  constructor
  · rintro ⟨digit, isDigit, caret, starts⟩
    exact ⟨caret.symm, digit, isDigit, starts⟩
  · rintro ⟨caret, digit, isDigit, starts⟩
    exact ⟨digit, isDigit, caret.symm, starts⟩

/-- A string starts with a digit if its first character is one. -/
theorem startsDigit_cons (c : UInt8) (rest : Bytes) :
    StartsDigit (c :: rest) ↔ isDigit c = true := by
  simp [StartsDigit]

/-- At least one colour and then a digit is a colour, and colours and a digit behind it. -/
theorem some_colours_iff (str : Bytes) :
    (∃ digits digit, digits ≠ [] ∧ (∀ d ∈ digits, isDigit d = true) ∧ isDigit digit = true ∧
      colours digits ++ [digit] <+: str) ↔
      ∃ next later, str = 0x5E :: next :: later ∧ isDigit next = true ∧ StartsColours later := by
  constructor
  · rintro ⟨_ | ⟨next, digits⟩, digit, some, all, last, starts⟩
    · exact absurd rfl some
    · rw [colours_cons, List.cons_append, List.cons_append] at starts
      obtain ⟨later, rfl⟩ := starts
      refine ⟨next, _, rfl, all next List.mem_cons_self, digits, digit, ?_, last, ?_⟩
      · exact fun d member => all d (List.mem_cons_of_mem _ member)
      · exact List.prefix_append _ _
  · rintro ⟨next, later, rfl, isNext, digits, digit, all, last, starts⟩
    refine ⟨next :: digits, digit, by simp, by simpa using ⟨isNext, all⟩, last, ?_⟩
    rw [colours_cons, List.cons_append, List.cons_append]
    exact List.cons_prefix_cons.mpr ⟨rfl, List.cons_prefix_cons.mpr ⟨rfl, starts⟩⟩

/-- A string starts with colours and a digit if it starts with a digit, or with a colour
that colours and a digit follow. -/
theorem startsColours_cons (c : UInt8) (rest : Bytes) :
    StartsColours (c :: rest) ↔ isDigit c = true ∨
      ∃ next later, c :: rest = 0x5E :: next :: later ∧ isDigit next = true ∧
        StartsColours later := by
  rw [← some_colours_iff]
  constructor
  · rintro ⟨_ | ⟨first, digits⟩, digit, all, last, starts⟩
    · obtain ⟨rfl, _⟩ := List.cons_prefix_cons.mp starts
      exact Or.inl last
    · exact Or.inr ⟨first :: digits, digit, by simp, all, last, starts⟩
  · rintro (isFirst | ⟨digits, digit, _, all, last, starts⟩)
    · exact ⟨[], c, by simp, isFirst, List.cons_prefix_cons.mpr ⟨rfl, List.nil_prefix⟩⟩
    · exact ⟨digits, digit, all, last, starts⟩

/-- Colours are nested at the start of a string or behind its first character. -/
theorem nested_cons (c : UInt8) (rest : Bytes) :
    Nested (c :: rest) ↔ (c = 0x5E ∧ ∃ next later, rest = 0x5E :: next :: later ∧
      isDigit next = true ∧ StartsColours later) ∨ Nested rest := by
  simp only [← some_colours_iff, Nested, List.infix_cons_iff, List.cons_prefix_cons, and_or_left,
    exists_or]
  refine or_congr_left ?_
  constructor
  · rintro ⟨digits, digit, some, all, last, caret, starts⟩
    exact ⟨caret.symm, digits, digit, some, all, last, starts⟩
  · rintro ⟨caret, digits, digit, some, all, last, starts⟩
    exact ⟨digits, digit, some, all, last, caret.symm, starts⟩

/-- What is left starts with a digit exactly if the string starts with colours and then
a digit. -/
theorem startsDigit_removeColor (str : Bytes) :
    StartsDigit (removeColor str) ↔ StartsColours str := by
  induction str using removeColor.induct with
  | case1 => simp [removeColor, nil_plain, StartsColours]
  | case2 c =>
    rw [removeColor, startsDigit_cons, startsColours_cons]
    simp
  | case3 c next rest coloured inductionHypothesis =>
    rw [removeColor, if_pos coloured, inductionHypothesis, startsColours_cons]
    rw [Bool.and_eq_true, beq_iff_eq] at coloured
    obtain ⟨rfl, isNext⟩ := coloured
    simp [caret_not_digit, isNext]
  | case4 c next rest plain _ =>
    rw [removeColor, if_neg plain, startsDigit_cons, startsColours_cons]
    refine (or_iff_left ?_).symm
    rintro ⟨_, _, same, isNext, _⟩
    cases same
    exact plain (by simp [isNext])

/-- A string is left as it is exactly if it has no colour. -/
theorem removeColor_eq_self_iff (str : Bytes) : removeColor str = str ↔ ¬ Coloured str := by
  induction str using removeColor.induct with
  | case1 => simp [removeColor, nil_plain]
  | case2 c => simp [removeColor, coloured_cons, nil_plain]
  | case3 c next rest coloured _ =>
    rw [removeColor, if_pos coloured, coloured_cons, startsDigit_cons]
    rw [Bool.and_eq_true, beq_iff_eq] at coloured
    refine iff_of_false ?_ (not_not_intro (Or.inl coloured))
    intro same
    have shorter := (removeColor_sublist rest).length_le
    rw [same, List.length_cons, List.length_cons] at shorter
    omega
  | case4 c next rest plain inductionHypothesis =>
    have noColour : ¬ (c = 0x5E ∧ isDigit next = true) := by simpa using plain
    rw [removeColor, if_neg plain, List.cons_inj_right, inductionHypothesis, coloured_cons c,
      startsDigit_cons, or_iff_right noColour]

/-- What is left has a colour exactly if the string has nested ones. Along the pass:
a colour that is dropped is not the caret of nested ones, and a caret that stays comes
before a digit exactly if colours stand between. -/
theorem coloured_removeColor_iff (str : Bytes) : Coloured (removeColor str) ↔ Nested str := by
  induction str using removeColor.induct with
  | case1 => simp [removeColor, nil_plain]
  | case2 c => simp [removeColor, coloured_cons, nested_cons, nil_plain]
  | case3 c next rest coloured inductionHypothesis =>
    rw [removeColor, if_pos coloured, inductionHypothesis, nested_cons, nested_cons]
    rw [Bool.and_eq_true, beq_iff_eq] at coloured
    obtain ⟨rfl, isNext⟩ := coloured
    have notCaret : next ≠ 0x5E := by
      rintro rfl
      exact absurd isNext (by simp [caret_not_digit])
    simp [notCaret]
  | case4 c next rest plain inductionHypothesis =>
    rw [removeColor, if_neg plain, coloured_cons, inductionHypothesis, startsDigit_removeColor,
      startsColours_cons, nested_cons c]
    refine or_congr_left (and_congr_right ?_)
    rintro rfl
    have notDigit : ¬ isDigit next = true := by simpa using plain
    exact or_iff_right notDigit

/-- No colour is left, and another pass changes nothing, exactly if the string has no
nested colours. -/
theorem removeColor_clean_iff (str : Bytes) :
    (¬ Coloured (removeColor str) ∧ removeColor (removeColor str) = removeColor str) ↔
      ¬ Nested str := by
  rw [removeColor_eq_self_iff, and_self, coloured_removeColor_iff]

/-- A colour in a colour leaves a colour, which another pass removes. -/
theorem removeColor_colour_left :
    ¬ (¬ Coloured (removeColor (literal "^^11")) ∧
      removeColor (removeColor (literal "^^11")) = removeColor (literal "^^11")) := by
  rintro ⟨_, same⟩
  exact absurd same (by decide)

/-! ## Several passes -/

/-- One colour is removed, wherever it stands. -/
abbrev Uncolours : Bytes → Bytes → Prop := Cancels (· == 0x5E) isDigit

/-- A caret is no digit. -/
theorem caret_apart (c : UInt8) (caret : (c == 0x5E) = true) : isDigit c = false := by
  rw [eq_of_beq caret, caret_not_digit]

/-- A string has a colour exactly if one can be removed. -/
theorem coloured_iff (str : Bytes) : Coloured str ↔ ∃ next, Uncolours str next := by
  constructor
  · rintro ⟨digit, isDigit, before, after, rfl⟩
    refine ⟨before ++ after, ?_⟩
    rw [List.append_assoc]
    exact .pair before after (by decide) isDigit
  · rintro ⟨next, step⟩
    cases step with
    | @pair before after opening closing isOpening isClosing =>
      obtain rfl := eq_of_beq isOpening
      exact ⟨closing, isClosing, before, after, by simp⟩

/-- A pass removes one colour after the other. -/
theorem removeColor_uncolours (str : Bytes) : ReflTransGen Uncolours str (removeColor str) := by
  induction str using removeColor.induct with
  | case1 => exact .refl
  | case2 c => exact .refl
  | case3 c next rest coloured inductionHypothesis =>
    rw [removeColor, if_pos coloured]
    rw [Bool.and_eq_true] at coloured
    exact .head (.pair [] rest coloured.1 coloured.2) inductionHypothesis
  | case4 c next rest plain inductionHypothesis =>
    rw [removeColor, if_neg plain]
    exact cancels_append [c] inductionHypothesis

/-- So do several. -/
theorem iterate_uncolours (passes : Nat) (str : Bytes) :
    ReflTransGen Uncolours str (removeColor^[passes] str) := by
  induction passes generalizing str with
  | zero => exact .refl
  | succ passes inductionHypothesis =>
    exact (removeColor_uncolours str).trans (inductionHypothesis (removeColor str))

/-- A pass that removes anything takes two characters at least. -/
theorem removeColor_length (str : Bytes) :
    removeColor str = str ∨ (removeColor str).length + 2 ≤ str.length := by
  induction str using removeColor.induct with
  | case1 => exact Or.inl rfl
  | case2 c => exact Or.inl rfl
  | case3 c next rest coloured inductionHypothesis =>
    have shorter := (removeColor_sublist rest).length_le
    rw [removeColor, if_pos coloured]
    exact Or.inr (by simpa using shorter)
  | case4 c next rest plain inductionHypothesis =>
    rw [removeColor, if_neg plain]
    rcases inductionHypothesis with same | shorter
    · exact Or.inl (by rw [same])
    · exact Or.inr (by simpa using shorter)

/-- After as many passes as there can be colours, none is left. -/
theorem iterate_clean (passes : Nat) (str : Bytes) (enough : str.length ≤ 2 * passes + 1) :
    ¬ Coloured (removeColor^[passes] str) := by
  induction passes generalizing str with
  | zero =>
    rintro ⟨digit, _, inside⟩
    have fits := inside.length_le
    simp only [Function.iterate_zero, id_eq, List.length_cons, List.length_nil] at fits
    omega
  | succ passes inductionHypothesis =>
    rcases removeColor_length str with same | shorter
    · rw [Function.iterate_fixed same]
      exact (removeColor_eq_self_iff str).mp same
    · exact inductionHypothesis (removeColor str) (by omega)

/-- Of every string, half as many passes of `removeColor` as it has characters leave no
colour, and what they leave is what removing colours one by one leaves in the end, in
whatever order: what a stack keeps that takes each digit off together with a caret on its
top. -/
theorem removeColor_settles (str : Bytes) :
    let settled := settle (· == 0x5E) isDigit str
    ¬ Coloured settled ∧
      (∀ passes, str.length ≤ 2 * passes + 1 → removeColor^[passes] str = settled) ∧
      ∀ reached, ReflTransGen Uncolours str reached → ¬ Coloured reached → reached = settled := by
  intro settled
  have reaches : ∀ reached, ReflTransGen Uncolours str reached → ¬ Coloured reached →
      reached = settled := by
    intro reached steps clean
    rw [coloured_iff, not_exists] at clean
    exact settled_unique caret_apart steps clean
  have passed : ∀ passes, str.length ≤ 2 * passes + 1 → removeColor^[passes] str = settled :=
    fun passes enough => reaches _ (iterate_uncolours passes str) (iterate_clean passes str enough)
  refine ⟨?_, passed, reaches⟩
  rw [← passed str.length (by omega)]
  exact iterate_clean str.length str (by omega)

example : settle (· == 0x5E) isDigit (literal "^^^123Roy") = literal "Roy" := by decide

end Plugpp
