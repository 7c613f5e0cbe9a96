import Plugpp.AddressText
import Plugpp.Plugin

/-!
# Addresses and their text

`toStr` lets the server print an address into a buffer of 53 bytes and takes off the
port behind the last colon and the brackets. `toNetAddr` decides by a dot which
family the server is asked to read.

The printed text is cut to the buffer, which at most shortens the port, so what
`toStr` returns is the address. The dot, however, is no sign of the family: an IPv6
address may have an IPv4 address embedded.
-/

namespace Plugpp

open Bytes

/-- `netadrtype_t`, as far as the library uses it. -/
inductive NetadrType where
  | naIp
  | naIp6
deriving DecidableEq

/-- `toStr` of an address. `Plugin_NET_AdrToStringMT` belongs to the server: given the
size of the buffer, it leaves a C string there. None is an exception of `erase`. -/
def Netadr.toStr (adrToStringMT : Netadr → Nat → Bytes) (netaddress : Netadr) : Option Bytes := do
  let ip := adrToStringMT netaddress 53
  let ip ← match findLastOf ip (literal ":") with
    | some portIndex => erase ip portIndex none
    | none => some ip
  let ip ← match findFirstOf ip (literal "[") with
    | some openBracketIndex => erase ip openBracketIndex (some 1)
    | none => some ip
  match findLastOf ip (literal "]") with
  | some closeBracketIndex => erase ip closeBracketIndex (some 1)
  | none => some ip

/-- `toNetAddr`. `Plugin_NET_StringToAdr` belongs to the server. -/
def toNetAddr (stringToAdr : Bytes → NetadrType → Option Netadr) (address : Bytes) :
    Option Netadr :=
  let ipType := if (find address (literal ".") 0).isSome then NetadrType.naIp else .naIp6
  stringToAdr address.cString ipType

/-- An address of either family. -/
inductive Address where
  | ip (address : Ipv4)
  | ip6 (address : Ipv6)

namespace Address

/-- The text of an address, without brackets and port. -/
def text : Address → Bytes
  | ip address => address.text
  | ip6 address => address.text

/-- The family of an address. -/
def family : Address → NetadrType
  | ip _ => .naIp
  | ip6 _ => .naIp6

/-- An address and a port, as the server prints them. -/
def printed (port : UInt16) : Address → Bytes
  | ip address => address.text ++ 0x3A :: decimal port.toNat
  | ip6 address => 0x5B :: address.text ++ 0x5D :: 0x3A :: decimal port.toNat

/-- Whether an IPv4 address is embedded in an IPv6 address. -/
def mixed : Address → Bool
  | ip _ => false
  | ip6 address => address.mixed

/-- The letters of either address. -/
theorem letters (address : Address) : ∀ letter ∈ address.text, isAddressLetter true letter = true := by
  cases address with
  | ip address => exact address.letters
  | ip6 address =>
    intro letter member
    have allowed := address.letters letter member
    cases mixed : address.mixed with
    | true => rwa [mixed] at allowed
    | false =>
      rw [mixed] at allowed
      exact isAddressLetter_dots true letter allowed

/-- What is no letter of an address is not in its text. -/
theorem not_mem_text (address : Address) (letter : UInt8)
    (other : isAddressLetter true letter = false) : letter ∉ address.text := by
  intro member
  simp [address.letters letter member] at other

end Address

/-- `toNetAddr` asks for IPv4 exactly if there is a dot in the address. -/
theorem toNetAddr_asks (stringToAdr : Bytes → NetadrType → Option Netadr) (address : Address) :
    toNetAddr stringToAdr address.text =
      stringToAdr address.text (if 0x2E ∈ address.text then .naIp else .naIp6) := by
  have terminated := cString_free address.text (address.not_mem_text 0 (by decide))
  have dot : literal "." = [0x2E] := by decide
  rw [toNetAddr, terminated, dot]
  simp only [find_isSome_iff, List.singleton_infix_iff]

/-- The last of a character is found where the rest is free of it. -/
theorem findLastOf_found (front back : Bytes) (character : UInt8) (free : character ∉ back) :
    findLastOf (front ++ character :: back) [character] = some front.length := by
  refine Search.lastPosition_found _ front character back (by simp) ?_
  intro letter member
  simpa using fun same : letter = character => free (same ▸ member)

/-- Of what fits into the buffer, only the port may be cut off. -/
theorem toStr_cut (adrToStringMT : Netadr → Nat → Bytes) (netaddress : Netadr)
    (front : Bytes) (port : Nat) (fits : front.length ≤ 51)
    (prints : adrToStringMT netaddress 53 = (front ++ 0x3A :: decimal port).take 52) :
    netaddress.toStr adrToStringMT = (do
      let ip ← match findFirstOf front (literal "[") with
        | some openBracketIndex => erase front openBracketIndex (some 1)
        | none => some front
      match findLastOf ip (literal "]") with
      | some closeBracketIndex => erase ip closeBracketIndex (some 1)
      | none => some ip) := by
  obtain ⟨left, leftSize⟩ : ∃ left, 52 - front.length = left + 1 := ⟨51 - front.length, by omega⟩
  have cut : (front ++ 0x3A :: decimal port).take 52 =
      front ++ 0x3A :: (decimal port).take left := by
    rw [List.take_append, List.take_of_length_le (by omega), leftSize, List.take_succ_cons]
  have free : 0x3A ∉ (decimal port).take left := by
    intro member
    have digit := decimal_digits port _ (List.mem_of_mem_take member)
    exact absurd digit (by decide)
  have colon : literal ":" = [0x3A] := by decide
  have erased : erase (front ++ 0x3A :: (decimal port).take left) front.length none = some front := by
    simp [erase]
  rw [Netadr.toStr, prints, cut, colon]
  simp only [findLastOf_found front _ 0x3A free, erased, Option.bind_eq_bind, Option.bind_some]

/-- `toStr` takes off port and brackets. -/
theorem toStr_text (adrToStringMT : Netadr → Nat → Bytes) (netaddress : Netadr)
    (address : Address) (port : UInt16)
    (prints : adrToStringMT netaddress 53 = (address.printed port).take 52) :
    netaddress.toStr adrToStringMT = some address.text := by
  have openBracket : literal "[" = [0x5B] := by decide
  have closeBracket : literal "]" = [0x5D] := by decide
  have noOpen := address.not_mem_text 0x5B (by decide)
  have noClose := address.not_mem_text 0x5D (by decide)
  cases address with
  | ip address =>
    have short := address.text_length_le
    rw [toStr_cut adrToStringMT netaddress address.text port.toNat (by omega) prints,
      openBracket, closeBracket]
    have notFound : findFirstOf address.text [0x5B] = none := by
      rw [findFirstOf, List.findIdx?_eq_none_iff]
      intro letter member
      simpa using fun same : letter = 0x5B => noOpen (same ▸ member)
    have notLast : findLastOf address.text [0x5D] = none := by
      refine Search.lastPosition_none _ address.text ?_
      intro letter member
      simpa using fun same : letter = 0x5D => noClose (same ▸ member)
    simp only [notFound, notLast, Option.bind_eq_bind, Option.bind_some]
    rfl
  | ip6 address =>
    have short := address.text_length_le
    have framed : Address.printed port (.ip6 address) =
        (0x5B :: address.text ++ [0x5D]) ++ 0x3A :: decimal port.toNat := by
      simp [Address.printed]
    rw [framed] at prints
    rw [toStr_cut adrToStringMT netaddress (0x5B :: address.text ++ [0x5D]) port.toNat
      (by simp only [List.length_append, List.length_cons, List.length_nil]; omega) prints,
      openBracket, closeBracket]
    have found : findFirstOf (0x5B :: address.text ++ [0x5D]) [0x5B] = some 0 := by
      simp [findFirstOf, List.findIdx?_cons]
    have opened : erase (0x5B :: address.text ++ [0x5D]) 0 (some 1) =
        some (address.text ++ [0x5D]) := by
      simp [erase]
    have last : findLastOf (address.text ++ [0x5D]) [0x5D] = some address.text.length :=
      findLastOf_found address.text [] 0x5D (by simp)
    have closed : erase (address.text ++ [0x5D]) address.text.length (some 1) =
        some address.text := by
      simp [erase]
    simp only [found, opened, last, closed, Option.bind_eq_bind, Option.bind_some]
    rfl

/-- The text of an address survives both directions exactly if no IPv4 address is
embedded in an IPv6 address.

`toStr` returns the text in any case. What `toNetAddr` asks for differs from the
family where there is a dot in an IPv6 address. -/
theorem address_survives_iff (adrToStringMT : Netadr → Nat → Bytes) (netaddress : Netadr)
    (address : Address) (port : UInt16)
    (prints : ∀ size, adrToStringMT netaddress size = (address.printed port).take (size - 1)) :
    (netaddress.toStr adrToStringMT = some address.text ∧
      ∀ stringToAdr, toNetAddr stringToAdr address.text =
        stringToAdr address.text address.family) ↔
      address.mixed = false := by
  have returned := toStr_text adrToStringMT netaddress address port (prints 53)
  simp only [returned, true_and, toNetAddr_asks]
  have asksFor : (∀ stringToAdr : Bytes → NetadrType → Option Netadr,
      stringToAdr address.text (if 0x2E ∈ address.text then .naIp else .naIp6) =
        stringToAdr address.text address.family) ↔
      (if 0x2E ∈ address.text then NetadrType.naIp else .naIp6) = address.family := by
    constructor
    · intro same
      have told := same fun _ family => if family = address.family then some 0 else none
      simpa using told
    · intro same stringToAdr
      rw [same]
  rw [asksFor]
  cases address with
  | ip address => simp [Address.text, Address.family, Address.mixed, address.dot_mem]
  | ip6 address =>
    have dots := address.dot_mem_iff
    cases mixed : address.mixed <;>
      simp [Address.text, Address.family, Address.mixed, dots, mixed]

/-- The address 2001:db8::1. -/
def compressedAddress : Address :=
  .ip6 (.compressed
    [⟨literal "2001", by decide, by decide, by decide +kernel⟩,
      ⟨literal "db8", by decide, by decide, by decide +kernel⟩]
    [⟨literal "1", by decide, by decide, by decide +kernel⟩] (by decide))

/-- The address ::ffff:1.2.3.4. -/
def mappedAddress : Address :=
  .ip6 (.compressedMixed [] [⟨literal "ffff", by decide, by decide, by decide +kernel⟩]
    (by decide) ⟨#v[1, 2, 3, 4]⟩)

/-- A server that knows one address and prints it with a port of five digits. -/
def printing (address : Address) : Netadr → Nat → Bytes :=
  fun _ size => (address.printed 28960).take (size - 1)

/-- A compressed address survives. -/
theorem address_survives_compressed :
    Netadr.toStr (printing compressedAddress) 0 = some compressedAddress.text ∧
      ∀ stringToAdr, toNetAddr stringToAdr compressedAddress.text =
        stringToAdr compressedAddress.text .naIp6 :=
  (address_survives_iff (printing compressedAddress) 0 compressedAddress 28960
    (fun _ => rfl)).mpr rfl

/-- A mapped address is asked for as IPv4. -/
theorem address_changes_family :
    ¬ (Netadr.toStr (printing mappedAddress) 0 = some mappedAddress.text ∧
      ∀ stringToAdr, toNetAddr stringToAdr mappedAddress.text =
        stringToAdr mappedAddress.text .naIp6) := by
  rintro ⟨_, asks⟩
  have told := asks fun _ family => if family = .naIp6 then some 0 else none
  have dot : 0x2E ∈ mappedAddress.text := by decide +kernel
  simp [toNetAddr_asks, dot] at told

end Plugpp
