import Plugpp.Clients

/-!
# What a handle can be written like

A lookup sees neither the case of a handle nor the case and the colours of the names: two
spellings of a handle find the same client, on servers whose clients' names differ in
their spelling only. A handle that is compared as a number has one spelling.

Only the slots below a hundred have a number short enough to be a handle. These are found,
each by its decimal number, and no other one is, on a server that has no client in use for
a number that is no slot.
-/

namespace Plugpp

open Bytes OnlyMatch

/-- `std::toupper` in the C locale. -/
def toUpperCharacter (c : UInt8) : UInt8 := if 0x61 ≤ c && c ≤ 0x7A then c - 0x20 else c

/-- `toUpper`. -/
def toUpper (str : Bytes) : Bytes := str.map toUpperCharacter

/-! ## Case -/

/-- The code of a character in lower case. -/
theorem toLowerCharacter_toNat (c : UInt8) :
    (toLowerCharacter c).toNat = if 65 ≤ c.toNat ∧ c.toNat ≤ 90 then c.toNat + 32 else c.toNat := by
  simp only [toLowerCharacter, Bool.and_eq_true, decide_eq_true_eq, UInt8.le_iff_toNat_le,
    UInt8.reduceToNat]
  split
  · simp only [UInt8.toNat_add, UInt8.reduceToNat]
    omega
  · rfl

/-- The code of a character in upper case. -/
theorem toUpperCharacter_toNat (c : UInt8) :
    (toUpperCharacter c).toNat = if 97 ≤ c.toNat ∧ c.toNat ≤ 122 then c.toNat - 32 else c.toNat := by
  simp only [toUpperCharacter, Bool.and_eq_true, decide_eq_true_eq, UInt8.le_iff_toNat_le,
    UInt8.reduceToNat]
  split
  · have long : 0x20 ≤ c := by
      simp only [UInt8.le_iff_toNat_le, UInt8.reduceToNat]
      omega
    simp only [UInt8.toNat_sub_of_le _ _ long, UInt8.reduceToNat]
  · rfl

/-- Upper case is lost in lower case. -/
theorem toLower_toUpper (str : Bytes) : toLower (toUpper str) = toLower str := by
  rw [toLower, toUpper, List.map_map]
  refine List.map_congr_left fun c _ => ?_
  rw [Function.comp_apply, ← UInt8.toNat_inj, toLowerCharacter_toNat, toLowerCharacter_toNat,
    toUpperCharacter_toNat]
  grind

/-- Lower case is the same in lower case. -/
theorem toLower_toLower (str : Bytes) : toLower (toLower str) = toLower str := by
  rw [toLower, toLower, List.map_map]
  refine List.map_congr_left fun c _ => ?_
  rw [Function.comp_apply, ← UInt8.toNat_inj, toLowerCharacter_toNat, toLowerCharacter_toNat]
  grind

/-- An integer has no letters. -/
theorem toLower_integer (str : Bytes) (integer : isInteger str = true) : toLower str = str := by
  have digits : ∀ c, isDigit c = true → toLowerCharacter c = c := by
    intro c digit
    rw [isDigit_iff] at digit
    rw [← UInt8.toNat_inj, toLowerCharacter_toNat, if_neg (by omega)]
  have each : ∀ c ∈ str, toLowerCharacter c = c := by
    cases str with
    | nil => simp
    | cons c rest =>
      obtain ⟨front, behind⟩ := (isInteger_cons_iff c rest).mp integer
      rintro d (_ | ⟨_, member⟩)
      · rcases front with digit | rfl
        · exact digits _ digit
        · decide
      · exact digits d (behind d member)
  rw [toLower, List.map_congr_left each, List.map_id']

/-! ## Spellings -/

/-- A server with the same clients as another one, whose names may differ in case and
colours. -/
structure Respelled (host other : Host) : Prop where
  slots : host.slots = other.slots
  beyond : host.beyond = other.beyond
  state : ∀ client, (host.client client).state = (other.client client).state
  playerid : ∀ client, (host.client client).playerid = (other.client client).playerid
  steamid : ∀ client, (host.client client).steamid = (other.client client).steamid
  name : ∀ client, toLower (removeColor (host.client client).name.cString) =
    toLower (removeColor (other.client client).name.cString)

/-- On such servers the same slots are in use. -/
theorem getClientBySlot_respelled {host other : Host} (respelled : Respelled host other)
    (slot : Int) : getClientBySlot host slot = getClientBySlot other slot := by
  have found : getClientForClientNum host slot = getClientForClientNum other slot := by
    rw [getClientForClientNum, getClientForClientNum, respelled.slots, respelled.beyond]
  rw [getClientBySlot, getClientBySlot, found]
  cases getClientForClientNum other slot with
  | none => rfl
  | some client => simp only [respelled.state client]

/-- The same clients are active. -/
theorem getActiveClients_respelled {host other : Host} (respelled : Respelled host other) :
    getActiveClients host = getActiveClients other := by
  simp only [getActiveClients, respelled.slots, getClientBySlot_respelled respelled]

/-- The loop over the names finds the same client. -/
theorem findByName_respelled {host other : Host} (respelled : Respelled host other)
    {handle spelling : Bytes} (same : toLower handle = toLower spelling)
    (candidate : Option Pointer) (players : List (Nat × Pointer)) :
    findByName host handle candidate players = findByName other spelling candidate players := by
  induction players generalizing candidate with
  | nil => rfl
  | cons player rest inductionHypothesis =>
    obtain ⟨slot, client⟩ := player
    have matching : hasName handle (host.client client) = hasName spelling (other.client client) := by
      rw [hasName, hasName, same, respelled.name client]
    simp only [findByName, matching, inductionHypothesis]

/-- Of two spellings of a handle, an integer is the other one as well. -/
theorem integer_spelling {handle spelling : Bytes} (same : toLower handle = toLower spelling)
    (integer : isInteger handle = true) : handle = spelling := by
  have other : isInteger spelling = true := by
    rw [← isInteger_toLower, ← same, isInteger_toLower, integer]
  rw [← toLower_integer handle integer, same, toLower_integer spelling other]

/-- A handle that is looked up by its number is an integer. -/
theorem integer_of_getHandleType {handle : Bytes}
    (numbered : getHandleType handle = .slotId ∨ getHandleType handle = .playerSteamId) :
    isInteger handle = true := by
  simp only [getHandleType] at numbered
  grind

/-- `findClient` does not see the case of the handle, nor the case and the colours of the
clients' names: on servers that differ in these only, handles that are the same in lower
case find the same, or throw the same. So does a handle and its upper or lower case. -/
theorem findClient_respelled (host other : Host) (respelled : Respelled host other)
    (handle spelling : Bytes) (same : toLower handle = toLower spelling) :
    findClient host handle = findClient other spelling ∧
      findClient host (toUpper handle) = findClient other handle ∧
      findClient host (toLower handle) = findClient other handle := by
  have found : ∀ written read, toLower written = toLower read →
      findClient host written = findClient other read := by
    intro written read same
    have handleType : getHandleType written = getHandleType read := by
      rw [← getHandleType_toLower, same, getHandleType_toLower]
    rw [findClient, findClient, ← handleType]
    cases numbered : getHandleType written with
    | invalid => rfl
    | slotId =>
      rw [integer_spelling same (integer_of_getHandleType (Or.inl numbered))]
      simp only [getClientBySlot_respelled respelled]
    | playerSteamId =>
      rw [integer_spelling same (integer_of_getHandleType (Or.inr numbered)),
        getActiveClients_respelled respelled]
      simp only [hasId, respelled.playerid, respelled.steamid]
    | name => rw [getActiveClients_respelled respelled, findByName_respelled respelled same]
  exact ⟨found handle spelling same, found _ _ (toLower_toUpper handle),
    found _ _ (toLower_toLower handle)⟩

/-- A server with one client of some name. -/
def named (name : Bytes) : Host := ⟨[some 0], fun _ => none, fun _ => ⟨1, 5, 0, name, 0, 0⟩, 0, []⟩

/-- A name in two spellings, and a handle in two. -/
theorem findClient_respelled_roy :
    findClient (named (literal "^1Roy")) (literal "RO") =
        findClient (named (literal "r^2oY")) (literal "ro") ∧
      findClient (named (literal "^1Roy")) (toUpper (literal "RO")) =
        findClient (named (literal "r^2oY")) (literal "RO") ∧
      findClient (named (literal "^1Roy")) (toLower (literal "RO")) =
        findClient (named (literal "r^2oY")) (literal "RO") := by
  have spelled : toLower (removeColor (literal "^1Roy").cString) =
      toLower (removeColor (literal "r^2oY").cString) := by decide
  exact findClient_respelled (named (literal "^1Roy")) (named (literal "r^2oY"))
    ⟨rfl, rfl, fun _ => rfl, fun _ => rfl, fun _ => rfl, fun _ => spelled⟩ (literal "RO")
    (literal "ro") (by decide)

/-! ## Slot numbers -/

/-- What the server returns for a number that is no slot is no client in use. -/
def NoneBeyond (host : Host) : Prop :=
  ∀ (number : Int) (client : Pointer), ¬ (0 ≤ number ∧ number < host.slots.length) →
    host.beyond number = some client → (host.client client).state = 0

/-- A number that is no slot leads to no client. -/
theorem getClientBySlot_beyond {host : Host} (noneBeyond : NoneBeyond host) {slot : Int}
    (outside : ¬ (0 ≤ slot ∧ slot < host.slots.length)) : getClientBySlot host slot = none := by
  rw [getClientBySlot, getClientForClientNum, if_neg outside]
  cases returned : host.beyond slot with
  | none => rfl
  | some cl => exact if_pos (noneBeyond slot cl outside returned)

/-- The client of a slot that a number leads to is in use there. -/
theorem getClientBySlot_eq_some_iff {host : Host} (noneBeyond : NoneBeyond host) (slot : Int)
    (client : Pointer) :
    getClientBySlot host slot = some client ↔ 0 ≤ slot ∧ InUse host slot.toNat client := by
  by_cases inside : 0 ≤ slot ∧ slot < host.slots.length
  · obtain ⟨number, rfl⟩ := Int.eq_ofNat_of_zero_le inside.1
    rw [getClientBySlot_inUse host (Int.ofNat_lt.mp inside.2)]
    simp [inUse, Option.filter_eq_some_iff, Option.join_eq_some_iff, InUse]
  · rw [getClientBySlot_beyond noneBeyond inside]
    refine iff_of_false (by simp) ?_
    rintro ⟨nonnegative, occupied, _⟩
    have below := (List.getElem?_eq_some_iff.mp occupied).1
    exact inside ⟨nonnegative, by omega⟩

/-- The decimal number of a slot below a hundred is a handle for a slot, and converted. -/
theorem slotId_decimal (slot : Nat) (small : slot < 100) :
    getHandleType (decimal slot) = .slotId ∧ stoi (decimal slot) = .ok (slot : Int) := by
  have short := decimal_length_le slot 2 (by decide) (by omega)
  have digits := decimal_digits slot
  have nonempty : decimal slot ≠ [] := by
    rw [← List.length_pos_iff, decimal, literal, List.length_map, Nat.toString_eq_repr,
      String.length_toList]
    exact Nat.length_repr_pos
  constructor
  · have integer : isInteger (decimal slot) = true :=
      (isInteger_iff _).mpr (Or.inl ⟨decimal slot, nonempty, digits, Or.inl rfl⟩)
    simp [getHandleType, nonempty, short, integer]
  · rw [stoi_digits _ nonempty digits (by omega), digitsValue_decimal]

/-- A handle for a slot is converted to a number below a hundred, if at all. -/
theorem stoi_slotId {handle : Bytes} (isSlot : getHandleType handle = .slotId) {number : Int}
    (converted : stoi handle = .ok number) : number < 100 := by
  have short : handle.length ≤ 2 := by
    simp only [getHandleType] at isSlot
    grind
  rcases (isInteger_iff handle).mp (integer_of_getHandleType (Or.inl isSlot)) with
    ⟨digits, nonempty, all, rfl | rfl⟩ | rfl
  · rw [stoi_digits handle nonempty all (by omega), Except.ok.injEq] at converted
    have bound := (digitsValue_bounds handle all).2
    have power : (10 : Int) ^ handle.length ≤ 10 ^ 2 := pow_le_pow_right₀ (by decide) short
    omega
  · rw [List.length_cons] at short
    rw [stoi_minus digits nonempty all (by omega), Except.ok.injEq] at converted
    have bound := (digitsValue_bounds digits all).1
    omega
  · have failed : stoi [0x2D] = .error .invalidArgument := rfl
    simp [failed] at converted

/-- On a server that has no client in use for a number that is no slot, slot numbers find
exactly the clients in use in the slots below a hundred: each of them is found by the
decimal number of his slot, and whoever is found by a slot number is in use in the slot of
that number. -/
theorem findClient_slots (host : Host) (noneBeyond : NoneBeyond host) :
    (∀ slot client, slot < 100 →
      (findClient host (decimal slot) = .ok (some client) ↔ InUse host slot client)) ∧
    ∀ handle client, getHandleType handle = .slotId → findClient host handle = .ok (some client) →
      ∃ slot : Nat, slot < 100 ∧ stoi handle = .ok (slot : Int) ∧ InUse host slot client := by
  constructor
  · intro slot client small
    obtain ⟨isSlot, converted⟩ := slotId_decimal slot small
    have found : findClient host (decimal slot) = .ok (getClientBySlot host slot) := by
      rw [findClient, isSlot, converted]
      rfl
    rw [found, Except.ok.injEq, getClientBySlot_eq_some_iff noneBeyond]
    simp
  · intro handle client isSlot found
    rw [findClient, isSlot] at found
    cases converted : stoi handle with
    | error failure => simp [converted, Except.map] at found
    | ok number =>
      rw [converted] at found
      obtain ⟨nonnegative, occupied⟩ :=
        (getClientBySlot_eq_some_iff noneBeyond number client).mp (Except.ok.inj found)
      have small := stoi_slotId isSlot converted
      refine ⟨number.toNat, by omega, ?_, occupied⟩
      rw [Int.toNat_of_nonneg nonnegative]

/-- A server with its second slot in use, which returns a vacant client for any number that
is no slot. -/
def sparing : Host :=
  ⟨[none, some 0], fun _ => some 1, fun client => ⟨if client = 0 then 1 else 0, 5, 0, [], 0, 0⟩,
    0, []⟩

/-- The client is found by the number of his slot, and no one by a number that is none. -/
theorem findClient_slots_sparing :
    findClient sparing (decimal 1) = .ok (some 0) ∧
      ∀ client, findClient sparing (decimal 99) ≠ .ok (some client) := by
  have noneBeyond : NoneBeyond sparing := by
    rintro number client outside ⟨⟩
    rfl
  constructor
  · exact ((findClient_slots sparing noneBeyond).1 1 0 (by decide)).mpr ⟨rfl, by decide⟩
  · intro client
    refine ((findClient_slots sparing noneBeyond).1 99 client (by decide)).not.mpr ?_
    rintro ⟨occupied, _⟩
    simp [sparing] at occupied

end Plugpp
