import Plugpp.Bytes
import Plugpp.Splitting

/-!
# The text of network addresses

An IPv4 address is written as four numbers between dots. An IPv6 address has eight
groups of up to four hexadecimal digits between colons; a double colon may stand
for one or more groups, and the last two groups may be written as an IPv4 address.
These are the standard forms and each is a constructor here, with its number of
groups as a field.

Whatever the form, the text fits into 49 characters, and its letters are hexadecimal
digits, colons and, where an IPv4 address is embedded, dots.
-/

namespace Plugpp

open Bytes Splitting

/-- A hexadecimal digit in either case. -/
def isHexDigit (letter : UInt8) : Bool :=
  isDigit letter || (0x41 ≤ letter && letter ≤ 0x46) || (0x61 ≤ letter && letter ≤ 0x66)

/-- The letters of an address, with or without dots. -/
def isAddressLetter (dots : Bool) (letter : UInt8) : Bool :=
  isHexDigit letter || letter == 0x3A || (dots && letter == 0x2E)

/-- The four numbers of an IPv4 address. -/
structure Ipv4 where
  octets : Vector UInt8 4

/-- An IPv4 address, as it is written. -/
def Ipv4.text (address : Ipv4) : Bytes :=
  [0x2E].intercalate (address.octets.toList.map fun octet => decimal octet.toNat)

/-- One group of an IPv6 address: up to four hexadecimal digits. -/
structure Group where
  digits : Bytes
  nonempty : digits ≠ []
  short : digits.length ≤ 4
  hexadecimal : ∀ digit ∈ digits, isHexDigit digit = true

/-- The standard forms of an IPv6 address. -/
inductive Ipv6 where
  | full (groups : List Group) (eight : groups.length = 8)
  | compressed (before behind : List Group) (fewer : before.length + behind.length < 8)
  | fullMixed (groups : List Group) (six : groups.length = 6) (embedded : Ipv4)
  | compressedMixed (before behind : List Group) (fewer : before.length + behind.length < 6)
      (embedded : Ipv4)

namespace Ipv6

/-- Whether an IPv4 address is embedded. -/
def mixed : Ipv6 → Bool
  | full .. | compressed .. => false
  | fullMixed .. | compressedMixed .. => true

/-- Groups and an embedded address, with colons between them. -/
def colons (groups : List Group) (embedded : List Ipv4) : Bytes :=
  [0x3A].intercalate (groups.map Group.digits ++ embedded.map Ipv4.text)

/-- An IPv6 address, as it is written. -/
def text : Ipv6 → Bytes
  | full groups _ => colons groups []
  | compressed before behind _ => colons before [] ++ 0x3A :: 0x3A :: colons behind []
  | fullMixed groups _ embedded => colons groups [embedded]
  | compressedMixed before behind _ embedded =>
      colons before [] ++ 0x3A :: 0x3A :: colons behind [embedded]

end Ipv6

/-! ## Letters -/

/-- The letters of an address without dots are among those of one with dots. -/
theorem isAddressLetter_dots (dots : Bool) (letter : UInt8)
    (plain : isAddressLetter false letter = true) : isAddressLetter dots letter = true := by
  cases dots with
  | false => exact plain
  | true =>
    simp only [isAddressLetter, Bool.or_eq_true, Bool.false_and, Bool.false_eq_true,
      or_false] at plain ⊢
    exact Or.inl plain

/-- An IPv4 address is written with digits and dots. -/
theorem Ipv4.letters (address : Ipv4) :
    ∀ letter ∈ address.text, isAddressLetter true letter = true := by
  refine intercalate_letters 0x2E _ _ (by decide) ?_
  intro item isItem letter member
  obtain ⟨octet, _, rfl⟩ := List.mem_map.mp isItem
  simp [isAddressLetter, isHexDigit, decimal_digits _ letter member]

/-- There is a dot in it. -/
theorem Ipv4.dot_mem (address : Ipv4) : 0x2E ∈ address.text := by
  obtain ⟨first, second, rest, octets⟩ : ∃ first second rest,
      address.octets.toList = first :: second :: rest := by
    have size : address.octets.toList.length = 4 := by simp
    match address.octets.toList, size with
    | first :: second :: rest, _ => exact ⟨first, second, rest, rfl⟩
  simp [Ipv4.text, octets, List.intercalate_cons_cons]

/-- It fits into 16 characters. -/
theorem Ipv4.text_length_le (address : Ipv4) : address.text.length ≤ 16 := by
  have bound := intercalate_length_le 0x2E 3
    (address.octets.toList.map fun octet => decimal octet.toNat) (by
      intro item isItem
      obtain ⟨octet, _, rfl⟩ := List.mem_map.mp isItem
      have small := octet.toNat_lt
      exact decimal_length_le octet.toNat 3 (by decide) (by omega))
  simpa [Ipv4.text] using bound

namespace Ipv6

/-- Between colons there are the letters of an address, dots only where an IPv4
address is. -/
theorem colons_letters (dots : Bool) (groups : List Group) (embedded : List Ipv4)
    (only : embedded ≠ [] → dots = true) :
    ∀ letter ∈ colons groups embedded, isAddressLetter dots letter = true := by
  refine intercalate_letters 0x3A _ _ (by simp [isAddressLetter]) ?_
  intro item isItem letter member
  rcases List.mem_append.mp isItem with isGroup | isAddress
  · obtain ⟨group, _, rfl⟩ := List.mem_map.mp isGroup
    simp [isAddressLetter, group.hexadecimal letter member]
  · obtain ⟨address, isEmbedded, rfl⟩ := List.mem_map.mp isAddress
    rw [only (List.ne_nil_of_mem isEmbedded)]
    exact address.letters letter member

/-- So there are around a double colon. -/
theorem doubleColon_letters (dots : Bool) (before behind : List Group) (embedded : List Ipv4)
    (only : embedded ≠ [] → dots = true) :
    ∀ letter ∈ colons before [] ++ 0x3A :: 0x3A :: colons behind embedded,
      isAddressLetter dots letter = true := by
  have colon : isAddressLetter dots 0x3A = true := by simp [isAddressLetter]
  intro letter member
  simp only [List.mem_append, List.mem_cons] at member
  rcases member with member | rfl | rfl | member
  · exact colons_letters dots before [] (by simp) letter member
  · exact colon
  · exact colon
  · exact colons_letters dots behind embedded only letter member

/-- An embedded address brings its dots. -/
theorem dot_mem_colons (groups : List Group) (embedded : Ipv4) :
    0x2E ∈ colons groups [embedded] :=
  mem_intercalate [0x3A] 0x2E _ embedded.text (by simp) embedded.dot_mem

/-- Groups take five characters each, embedded addresses 17. -/
theorem colons_length_le (groups : List Group) (embedded : List Ipv4) :
    (colons groups embedded).length ≤ 5 * groups.length + 17 * embedded.length := by
  induction groups with
  | nil =>
    have bound := intercalate_length_le 0x3A 16 (embedded.map Ipv4.text) (by
      intro item isItem
      obtain ⟨address, _, rfl⟩ := List.mem_map.mp isItem
      exact address.text_length_le)
    simpa [colons] using bound
  | cons group groups inductionHypothesis =>
    have written := intercalate_cons_length_le 0x3A group.digits
      (groups.map Group.digits ++ embedded.map Ipv4.text)
    have short := group.short
    simp only [colons, List.map_cons, List.cons_append, List.length_cons] at *
    omega

/-- The letters of an IPv6 address. -/
theorem letters (address : Ipv6) :
    ∀ letter ∈ address.text, isAddressLetter address.mixed letter = true := by
  cases address with
  | full groups eight => exact colons_letters false groups [] (by simp)
  | compressed before behind fewer => exact doubleColon_letters false before behind [] (by simp)
  | fullMixed groups six embedded => exact colons_letters true groups [embedded] (by simp)
  | compressedMixed before behind fewer embedded =>
    exact doubleColon_letters true before behind [embedded] (by simp)

/-- There is a dot in an IPv6 address exactly if an IPv4 address is embedded. -/
theorem dot_mem_iff (address : Ipv6) : 0x2E ∈ address.text ↔ address.mixed = true := by
  constructor
  · intro member
    have allowed := address.letters _ member
    cases mixed : address.mixed with
    | true => rfl
    | false =>
      rw [mixed] at allowed
      exact absurd allowed (by decide)
  · intro mixed
    cases address with
    | full groups eight => simp [Ipv6.mixed] at mixed
    | compressed before behind fewer => simp [Ipv6.mixed] at mixed
    | fullMixed groups six embedded => exact dot_mem_colons groups embedded
    | compressedMixed before behind fewer embedded =>
      simp [text, dot_mem_colons behind embedded]

/-- An IPv6 address fits into 49 characters. -/
theorem text_length_le (address : Ipv6) : address.text.length ≤ 49 := by
  cases address with
  | full groups eight =>
    have whole := colons_length_le groups []
    simp only [text, List.length_nil] at *
    omega
  | compressed before behind fewer =>
    have front := colons_length_le before []
    have back := colons_length_le behind []
    simp only [text, List.length_append, List.length_cons, List.length_nil] at *
    omega
  | fullMixed groups six embedded =>
    have whole := colons_length_le groups [embedded]
    simp only [text, List.length_singleton] at *
    omega
  | compressedMixed before behind fewer embedded =>
    have front := colons_length_le before []
    have back := colons_length_le behind [embedded]
    simp only [text, List.length_append, List.length_cons, List.length_nil] at *
    omega

end Ipv6

end Plugpp
