import Mathlib.Algebra.Ring.Nat
import Plugpp.Search

/-!
# Byte strings

A `std::string` is a list of bytes; `find` and `substr` follow the standard
library on positions inside the string. A position that is not found is absent
rather than the largest `size_t`, so a count computed from it means the rest of
the string, which is what the subtraction from `npos` amounts to in the source.

A C string is what precedes the first NUL. `signed` reads a byte as the `char`
of the x86 target.
-/

namespace Plugpp

/-- The value type of `std::string`. -/
abbrev Bytes := List UInt8

namespace Bytes

/-- The bytes of an ASCII literal of the source. -/
def literal (text : String) : Bytes := text.toList.map Char.toUInt8

/-- What a callee that is handed `c_str()` reads: the bytes before the first NUL. -/
def cString (text : Bytes) : Bytes := text.takeWhile (· ≠ 0)

/-- `char` is signed on the target. -/
def signed (byte : UInt8) : Int := byte.toInt8.toInt

/-- `std::string::find`: the least occurrence at or after the position. -/
def find (text pattern : Bytes) (position : Nat) : Option Nat :=
  if position ≤ text.length then
    (Search.occurrence pattern (text.drop position)).map (· + position)
  else none

/-- `std::string::substr` at a position inside the string. No count asks for the
rest of the string. -/
def substr (text : Bytes) (position : Nat) (count : Option Nat) : Bytes :=
  match count with
  | some count => (text.drop position).take count
  | none => text.drop position

/-- `std::string::find_first_of`. -/
def findFirstOf (text characters : Bytes) : Option Nat := text.findIdx? (characters.contains ·)

/-- `std::string::find_first_not_of`. -/
def findFirstNotOf (text characters : Bytes) : Option Nat :=
  text.findIdx? (!characters.contains ·)

/-- `std::string::find_last_of`. -/
def findLastOf (text characters : Bytes) : Option Nat :=
  Search.lastPosition (characters.contains ·) text

/-- `std::string::find_last_not_of`. -/
def findLastNotOf (text characters : Bytes) : Option Nat :=
  Search.lastPosition (!characters.contains ·) text

/-- `std::string::erase`. No count asks for the rest of the string; none is the
`out_of_range` thrown for a position behind the end. -/
def erase (text : Bytes) (position : Nat) (count : Option Nat) : Option Bytes :=
  if position ≤ text.length then
    match count with
    | some count => some (text.take position ++ text.drop (position + count))
    | none => some (text.take position)
  else none

/-- `std::string::replace` of what is inside the string. -/
def replace (text : Bytes) (position count : Nat) (inserted : Bytes) : Bytes :=
  text.take position ++ inserted ++ text.drop (position + count)

/-- `std::isdigit` in the C locale. -/
def isDigit (c : UInt8) : Bool := 0x30 ≤ c && c ≤ 0x39

/-- The decimal digits of a number, as `std::to_string` writes them. -/
def decimal (number : Nat) : Bytes := literal (toString number)

/-- A text without NUL is its own C string. -/
theorem cString_free (text : Bytes) (free : 0 ∉ text) : text.cString = text := by
  unfold cString
  rw [List.takeWhile_eq_self_iff]
  intro byte member
  simpa using fun same : byte = 0 => free (same ▸ member)

/-- A C string holds no NUL. -/
theorem zero_not_mem_cString (text : Bytes) : 0 ∉ text.cString := by
  intro member
  have nonzero := List.mem_takeWhile_imp member
  simp at nonzero

/-- A text is its own C string exactly if it has no NUL. -/
theorem cString_eq_self_iff (text : Bytes) : text.cString = text ↔ 0 ∉ text := by
  constructor
  · intro whole
    rw [← whole]
    exact zero_not_mem_cString text
  · exact cString_free text

/-- A C string is the text if it has its length. -/
theorem cString_of_length (text : Bytes) (whole : text.cString.length = text.length) :
    text.cString = text :=
  (List.takeWhile_sublist _).eq_of_length whole

/-- A pattern is found from the beginning exactly if it is in the text. -/
theorem find_isSome_iff (text pattern : Bytes) :
    (find text pattern 0).isSome = true ↔ pattern <:+: text := by
  simp [find, Search.occurrence_isSome_iff]

/-- Digits are the ten characters from 0x30 on. -/
theorem isDigit_iff (c : UInt8) : isDigit c = true ↔ 48 ≤ c.toNat ∧ c.toNat ≤ 57 := by
  simp only [isDigit, Bool.and_eq_true, decide_eq_true_eq, UInt8.le_iff_toNat_le,
    UInt8.reduceToNat]

/-- A number is written in digits. -/
theorem decimal_digits (number : Nat) : ∀ byte ∈ decimal number, isDigit byte = true := by
  intro byte member
  rw [decimal, literal, List.mem_map, Nat.toString_eq_repr, Nat.toList_repr] at member
  obtain ⟨letter, isLetter, rfl⟩ := member
  have digit := Char.isDigit_iff_toNat.mp
    (Nat.isDigit_of_mem_toDigits (by decide) (by decide) isLetter)
  have zero : ('0' : Char).toNat = 48 := rfl
  have nine : ('9' : Char).toNat = 57 := rfl
  have value : letter.toUInt8.toNat = letter.toNat % 256 := rfl
  rw [isDigit_iff]
  omega

/-- A number below a power of ten has no more digits than its exponent. -/
theorem decimal_length_le (number size : Nat) (positive : 0 < size) (small : number < 10 ^ size) :
    (decimal number).length ≤ size := by
  rw [decimal, literal, List.length_map, Nat.toString_eq_repr, String.length_toList]
  exact (Nat.length_repr_le_iff positive).mpr small

end Bytes
end Plugpp
