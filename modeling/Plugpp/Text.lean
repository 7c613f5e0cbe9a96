import Mathlib.Algebra.Order.Ring.Int
import Mathlib.Data.List.Induction
import Plugpp.Bytes

/-!
# Letters, colours and integers

`toLower` changes the letters of ASCII; `removeColor` drops every caret that a digit
follows, together with the digit, in one pass from the left. `isInteger` asks for
digits, but lets a minus sign stand in front, also alone. `std::stoi` has its own
idea of an integer: blanks, a sign, and at least one digit.
-/

namespace Plugpp

open Bytes

/-- `std::tolower` in the C locale. -/
def toLowerCharacter (c : UInt8) : UInt8 := if 0x41 ≤ c && c ≤ 0x5A then c + 0x20 else c

/-- `toLower`. -/
def toLower (str : Bytes) : Bytes := str.map toLowerCharacter

/-- `removeColor`. -/
def removeColor : Bytes → Bytes
  | [] => []
  | [c] => [c]
  | c :: next :: rest =>
      if c == 0x5E && isDigit next then removeColor rest else c :: removeColor (next :: rest)

/-- The loop of `isInteger` from the position `i` on. -/
def isIntegerFrom (i : Nat) : Bytes → Bool
  | [] => true
  | c :: rest =>
      if !isDigit c && (i != 0 || c != 0x2D) then false else isIntegerFrom (i + 1) rest

/-- `isInteger`. -/
def isInteger (str : Bytes) : Bool := isIntegerFrom 0 str && !str.isEmpty

/-- `std::isspace` in the C locale. -/
def isSpace (c : UInt8) : Bool := c == 0x20 || (0x09 ≤ c && c ≤ 0x0D)

/-- The number that digits stand for. -/
def digitsValue (digits : Bytes) : Int :=
  digits.foldl (fun value digit => value * 10 + (digit.toNat - 0x30 : Nat)) 0

/-- What `std::stoi` throws. -/
inductive StoiFailure where
  | invalidArgument
  | outOfRange
deriving DecidableEq

/-- `std::stoi`. -/
def stoi (str : Bytes) : Except StoiFailure Int :=
  let text := str.dropWhile isSpace
  let negative := text.head? == some 0x2D
  let unsigned := if negative || text.head? == some 0x2B then text.tail else text
  let digits := unsigned.takeWhile isDigit
  if digits = [] then .error .invalidArgument
  else
    let value := if negative then -digitsValue digits else digitsValue digits
    if -2 ^ 31 ≤ value ∧ value < 2 ^ 31 then .ok value else .error .outOfRange

/-! ## Case -/

/-- Lower case is the character itself or 32 behind an upper case letter. -/
theorem toLowerCharacter_cases (c : UInt8) :
    toLowerCharacter c = c ∨ (65 ≤ c.toNat ∧ c.toNat ≤ 90 ∧
      (toLowerCharacter c).toNat = c.toNat + 32) := by
  unfold toLowerCharacter
  split
  · next upper =>
    simp only [Bool.and_eq_true, decide_eq_true_eq, UInt8.le_iff_toNat_le,
      UInt8.reduceToNat] at upper
    simp only [UInt8.toNat_add, UInt8.reduceToNat]
    omega
  · exact Or.inl rfl

/-- What stands before the letters is not made by lower case, and kept by it. -/
theorem toLowerCharacter_eq_iff (c other : UInt8) (before : other.toNat < 65) :
    toLowerCharacter c = other ↔ c = other := by
  rcases toLowerCharacter_cases c with same | ⟨first, last, lower⟩
  · rw [same]
  · rw [← UInt8.toNat_inj, ← UInt8.toNat_inj, lower]
    omega

/-- Digits are the same in lower case. -/
theorem isDigit_toLowerCharacter (c : UInt8) : isDigit (toLowerCharacter c) = isDigit c := by
  rcases toLowerCharacter_cases c with same | ⟨first, last, lower⟩
  · rw [same]
  · rw [Bool.eq_iff_iff, isDigit_iff, isDigit_iff, lower]
    omega

/-- A NUL in lower case is one of the string. -/
theorem zero_mem_toLower (str : Bytes) : 0 ∈ toLower str ↔ 0 ∈ str := by
  simp [toLower, toLowerCharacter_eq_iff _ 0 (by decide)]

/-! ## Colours -/

/-- The caret is no digit. -/
theorem caret_not_digit : isDigit 0x5E = false := by decide

/-- What is left of a string without its colours is in the order of the string. -/
theorem removeColor_sublist (str : Bytes) : (removeColor str).Sublist str := by
  induction str using removeColor.induct with
  | case1 => exact List.Sublist.refl _
  | case2 c => exact List.Sublist.refl _
  | case3 c next rest coloured inductionHypothesis =>
    rw [removeColor, if_pos coloured]
    exact (inductionHypothesis.cons next).cons c
  | case4 c next rest plain inductionHypothesis =>
    rw [removeColor, if_neg plain]
    exact inductionHypothesis.cons_cons c

/-- A string with colours becomes shorter. -/
theorem removeColor_shorter (str : Bytes) (coloured : removeColor str ≠ str) :
    (removeColor str).length < str.length := by
  have sublist := removeColor_sublist str
  refine Nat.lt_of_le_of_ne sublist.length_le fun same => coloured ?_
  exact sublist.eq_of_length same

/-- No NUL is lost with the colours. -/
theorem zero_mem_removeColor (str : Bytes) (member : 0 ∈ str) : 0 ∈ removeColor str := by
  induction str using removeColor.induct with
  | case1 => exact member
  | case2 c => exact member
  | case3 c next rest coloured inductionHypothesis =>
    rw [removeColor, if_pos coloured]
    rw [Bool.and_eq_true, beq_iff_eq] at coloured
    simp only [List.mem_cons, coloured.1] at member
    rcases member with caret | digit | member
    · exact absurd caret (by decide)
    · exact absurd coloured.2 (by rw [← digit]; decide)
    · exact inductionHypothesis member
  | case4 c next rest plain inductionHypothesis =>
    rw [removeColor, if_neg plain]
    cases member with
    | head => exact List.mem_cons_self
    | tail _ member => exact List.mem_cons_of_mem _ (inductionHypothesis member)

/-- A string with a colour in front of every character. -/
def painted (str : Bytes) : Bytes := str.flatMap fun c => [0x5E, 0x30, c]

/-- Every string is what some string is without its colours: the caret of the next
colour keeps a caret of the string from being read with what follows it. -/
theorem removeColor_painted (str : Bytes) : removeColor (painted str) = str := by
  induction str with
  | nil => rfl
  | cons c rest inductionHypothesis =>
    have dropped : removeColor (painted (c :: rest)) = removeColor (c :: painted rest) := rfl
    rw [dropped]
    cases rest with
    | nil => rfl
    | cons next rest =>
      have kept : removeColor (c :: painted (next :: rest)) =
          c :: removeColor (painted (next :: rest)) := by
        have caret : ¬ (c == 0x5E && isDigit 0x5E) = true := by simp [caret_not_digit]
        exact if_neg caret
      rw [kept, inductionHypothesis]

/-! ## Integers -/

/-- Behind the first character only digits pass. -/
theorem isIntegerFrom_succ (i : Nat) (rest : Bytes) :
    isIntegerFrom (i + 1) rest = rest.all isDigit := by
  induction rest generalizing i with
  | nil => rfl
  | cons c rest inductionHypothesis =>
    cases digit : isDigit c with
    | true => simp [isIntegerFrom, digit, inductionHypothesis]
    | false => simp [isIntegerFrom, digit]

/-- An integer is a digit or a minus sign, and digits behind it. -/
theorem isInteger_cons_iff (c : UInt8) (rest : Bytes) :
    isInteger (c :: rest) = true ↔ (isDigit c = true ∨ c = 0x2D) ∧ ∀ d ∈ rest, isDigit d = true := by
  cases digit : isDigit c with
  | true => simp [isInteger, isIntegerFrom, digit, isIntegerFrom_succ]
  | false =>
    by_cases minus : c = 0x2D
    · subst minus
      simp [isInteger, isIntegerFrom, isIntegerFrom_succ]
    · simp [isInteger, isIntegerFrom, digit, minus]

/-- An integer literal: digits, at least one, behind an optional minus sign. -/
def IsLiteral (str : Bytes) : Prop :=
  ∃ digits, digits ≠ [] ∧ (∀ d ∈ digits, isDigit d = true) ∧
    (str = digits ∨ str = 0x2D :: digits)

/-- A literal begins with a digit, or with a minus sign and another digit. -/
theorem isLiteral_cons (c : UInt8) (rest : Bytes) :
    IsLiteral (c :: rest) ↔
      (isDigit c = true ∨ (c = 0x2D ∧ rest ≠ [])) ∧ ∀ d ∈ rest, isDigit d = true := by
  constructor
  · rintro ⟨digits, nonempty, all, rfl | signed⟩
    · obtain ⟨first, later⟩ := List.forall_mem_cons.mp all
      exact ⟨Or.inl first, later⟩
    · obtain ⟨rfl, rfl⟩ := List.cons.inj signed
      exact ⟨Or.inr ⟨rfl, nonempty⟩, all⟩
  · rintro ⟨first | ⟨rfl, nonempty⟩, later⟩
    · refine ⟨c :: rest, List.cons_ne_nil c rest, ?_, Or.inl rfl⟩
      exact List.forall_mem_cons.mpr ⟨first, later⟩
    · exact ⟨rest, nonempty, later, Or.inr rfl⟩

/-- A minus sign alone is no literal. -/
theorem minus_not_literal : ¬ IsLiteral [0x2D] := by
  rw [isLiteral_cons]
  rintro ⟨digit | ⟨_, nonempty⟩, _⟩
  · exact absurd digit (by decide)
  · exact nonempty rfl

/-- `isInteger` accepts the literals, and a minus sign alone: the loop lets it stand in
front, and the string is not empty. -/
theorem isInteger_iff (str : Bytes) : isInteger str = true ↔ IsLiteral str ∨ str = [0x2D] := by
  cases str with
  | nil => simp [isInteger, IsLiteral]
  | cons c rest =>
    rw [isInteger_cons_iff, isLiteral_cons]
    cases rest with
    | nil => simp
    | cons next rest => simp

/-- `isInteger` accepts a string exactly if it is a literal, exactly for the strings other
than a minus sign alone. -/
theorem isInteger_literal_iff (str : Bytes) :
    (isInteger str = true ↔ IsLiteral str) ↔ str ≠ [0x2D] := by
  rw [isInteger_iff, or_iff_left_iff_imp]
  constructor
  · rintro accepted rfl
    exact minus_not_literal (accepted rfl)
  · exact fun other minus => absurd minus other

/-- A minus sign alone is accepted, and no literal. -/
theorem isInteger_minus : ¬ (isInteger (literal "-") = true ↔ IsLiteral (literal "-")) := by
  intro same
  exact minus_not_literal (same.mp (by decide))

/-- Lower case makes no difference to the loop of `isInteger`. -/
theorem isIntegerFrom_toLower (i : Nat) (str : Bytes) :
    isIntegerFrom i (toLower str) = isIntegerFrom i str := by
  induction str generalizing i with
  | nil => rfl
  | cons c rest inductionHypothesis =>
    have minus : (toLowerCharacter c != 0x2D) = (c != 0x2D) := by
      rw [Bool.eq_iff_iff, bne_iff_ne, bne_iff_ne]
      exact (toLowerCharacter_eq_iff c 0x2D (by decide)).not
    have later := inductionHypothesis (i + 1)
    simp only [toLower, List.map_cons, isIntegerFrom, isDigit_toLowerCharacter, minus] at later ⊢
    rw [later]

/-- Lower case makes no difference to an integer. -/
theorem isInteger_toLower (str : Bytes) : isInteger (toLower str) = isInteger str := by
  have empty : (toLower str).isEmpty = str.isEmpty := List.isEmpty_map
  rw [isInteger, isIntegerFrom_toLower, empty, isInteger]

/-- The number of digits bounds the number. -/
theorem digitsValue_bounds (digits : Bytes) (all : ∀ digit ∈ digits, isDigit digit = true) :
    0 ≤ digitsValue digits ∧ digitsValue digits < 10 ^ digits.length := by
  induction digits using List.reverseRecOn with
  | nil => decide
  | append_singleton digits digit inductionHypothesis =>
    obtain ⟨lower, upper⟩ := inductionHypothesis fun digit member => all digit (by simp [member])
    have isLast := (isDigit_iff digit).mp (all digit (by simp))
    have appended : digitsValue (digits ++ [digit]) =
        digitsValue digits * 10 + (digit.toNat - 0x30 : Nat) := by
      simp [digitsValue]
    rw [appended, List.length_append, List.length_singleton, Int.pow_succ]
    omega

/-- The digits of a number stand for it. -/
theorem digitsValue_decimal (number : Nat) : digitsValue (decimal number) = number := by
  have folded : ∀ (letters : List Char) (value : Nat), (∀ letter ∈ letters, letter.isDigit = true) →
      (letters.map Char.toUInt8).foldl
        (fun (value : Int) (digit : UInt8) => value * 10 + (digit.toNat - 0x30 : Nat)) value =
          Nat.ofDigitChars 10 letters value := by
    intro letters
    induction letters with
    | nil => simp
    | cons letter rest inductionHypothesis =>
      intro value all
      have digit := Char.isDigit_iff_toNat.mp (all letter List.mem_cons_self)
      have zero : ('0' : Char).toNat = 48 := rfl
      have nine : ('9' : Char).toNat = 57 := rfl
      have small : letter.toUInt8.toNat = letter.toNat := by
        have reduced : letter.toUInt8.toNat = letter.toNat % 256 := rfl
        omega
      have next := inductionHypothesis (10 * value + (letter.toNat - '0'.toNat))
        fun letter member => all letter (List.mem_cons_of_mem _ member)
      rw [Nat.ofDigitChars_cons, ← next, List.map_cons, List.foldl_cons, small]
      congr 1
      push_cast
      omega
  have digits : ∀ letter ∈ Nat.toDigits 10 number, letter.isDigit = true := fun letter member =>
    Nat.isDigit_of_mem_toDigits (by decide) (by decide) member
  have whole := folded (Nat.toDigits 10 number) 0 digits
  rw [Nat.ofDigitChars_ten_toDigits] at whole
  rw [decimal, literal, Nat.toString_eq_repr, Nat.toList_repr]
  exact whole

/-- A number of at most nine digits is in the range of `int`, with either sign. -/
theorem digitsValue_int (digits : Bytes) (all : ∀ digit ∈ digits, isDigit digit = true)
    (short : digits.length ≤ 9) : digitsValue digits < 2 ^ 31 ∧ -2 ^ 31 ≤ -digitsValue digits := by
  obtain ⟨_, upper⟩ := digitsValue_bounds digits all
  have power : (10 : Int) ^ digits.length ≤ 10 ^ 9 := pow_le_pow_right₀ (by decide) short
  omega

/-- A digit is neither a blank nor a sign. -/
theorem isDigit_excludes (c : UInt8) (digit : isDigit c = true) :
    isSpace c = false ∧ c ≠ 0x2D ∧ c ≠ 0x2B := by
  refine ⟨?_, ?_, ?_⟩
  · rw [isDigit_iff] at digit
    simp only [isSpace, Bool.or_eq_false_iff, beq_eq_false_iff_ne, Bool.and_eq_false_iff,
      decide_eq_false_iff_not, ne_eq, ← UInt8.toNat_inj, UInt8.le_iff_toNat_le, UInt8.reduceToNat]
    omega
  · rintro rfl
    exact absurd digit (by decide)
  · rintro rfl
    exact absurd digit (by decide)

/-- `std::stoi` converts digits. -/
theorem stoi_digits (digits : Bytes) (nonempty : digits ≠ []) (all : ∀ d ∈ digits, isDigit d = true)
    (short : digits.length ≤ 9) : stoi digits = .ok (digitsValue digits) := by
  obtain ⟨upper, _⟩ := digitsValue_int digits all short
  obtain ⟨lower, _⟩ := digitsValue_bounds digits all
  have whole : digits.takeWhile isDigit = digits := List.takeWhile_eq_self_iff.mpr all
  obtain ⟨c, rest, rfl⟩ := List.exists_cons_of_ne_nil nonempty
  obtain ⟨notSpace, notMinus, notPlus⟩ := isDigit_excludes c (all c List.mem_cons_self)
  have noMinus : (some c == some (0x2D : UInt8)) = false := by simpa using notMinus
  have noPlus : (some c == some (0x2B : UInt8)) = false := by simpa using notPlus
  simp only [stoi, List.dropWhile_cons, notSpace, Bool.false_eq_true, ↓reduceIte,
    List.head?_cons, noMinus, noPlus, Bool.or_self, whole, reduceCtorEq]
  rw [if_pos ⟨by omega, upper⟩]

/-- `std::stoi` converts digits behind a minus sign. -/
theorem stoi_minus (digits : Bytes) (nonempty : digits ≠ []) (all : ∀ d ∈ digits, isDigit d = true)
    (short : digits.length ≤ 9) : stoi (0x2D :: digits) = .ok (-digitsValue digits) := by
  obtain ⟨_, lower⟩ := digitsValue_int digits all short
  obtain ⟨nonnegative, _⟩ := digitsValue_bounds digits all
  have whole : digits.takeWhile isDigit = digits := List.takeWhile_eq_self_iff.mpr all
  have notSpace : isSpace 0x2D = false := by decide
  simp only [stoi, List.dropWhile_cons, notSpace, Bool.false_eq_true, ↓reduceIte,
    List.head?_cons, beq_self_eq_true, Bool.true_or, List.tail_cons, whole, nonempty]
  rw [if_pos ⟨by omega, by omega⟩]

/-- `std::stoi` converts short literals. -/
theorem stoi_literal (str : Bytes) (isLiteral : IsLiteral str) (short : str.length ≤ 9) :
    ∃ value, stoi str = .ok value := by
  obtain ⟨digits, nonempty, all, rfl | rfl⟩ := isLiteral
  · exact ⟨_, stoi_digits str nonempty all short⟩
  · rw [List.length_cons] at short
    exact ⟨_, stoi_minus digits nonempty all (by omega)⟩

/-- What `isInteger` takes for an integer, `std::stoi` converts, except for a minus
sign alone. -/
theorem stoi_integer_iff (str : Bytes) (integer : isInteger str = true) (short : str.length ≤ 9) :
    (∃ value, stoi str = .ok value) ↔ str ≠ [0x2D] := by
  rcases (isInteger_iff str).mp integer with isLiteral | rfl
  · refine iff_of_true (stoi_literal str isLiteral short) ?_
    rintro rfl
    exact minus_not_literal isLiteral
  · refine iff_of_false ?_ (by simp)
    rintro ⟨value, converted⟩
    exact absurd converted (by simp [show stoi [0x2D] = .error .invalidArgument from rfl])

end Plugpp
