import Plugpp.Clients

/-!
# What a lookup promises

A name lookup finds a client exactly if it is the only match, in whatever slots the
clients are. An id lookup returns the first match, so it does so only as long as
there are not two. A slot lookup converts what `isInteger` accepts, which includes a
minus sign alone, and then throws.

The handle of a name lookup keeps its colours while the names lose theirs: a client
is found by his own name only if there is no colour in it.
-/

namespace Plugpp

open Bytes OnlyMatch

/-! ## Exceptions -/

/-- A handle that is a slot number is converted, unless it is a minus sign. -/
theorem slotId_converts (handle : Bytes) (isSlot : getHandleType handle = .slotId) :
    (∃ value, stoi handle = .ok value) ↔ handle ≠ literal "-" := by
  have minus : literal "-" = [0x2D] := by decide
  have classified : handle.length ≤ 2 ∧ isInteger handle = true := by
    unfold getHandleType at isSlot
    split at isSlot
    · cases isSlot
    · split at isSlot
      · next accepted => simpa using accepted
      · split at isSlot <;> cases isSlot
  rw [minus]
  exact stoi_integer_iff handle classified.2 (by omega)

/-- Every other lookup returns. -/
theorem findClient_returns (host : Host) (handle : Bytes)
    (notSlot : getHandleType handle ≠ .slotId) : ∃ result, findClient host handle = .ok result := by
  cases handleType : getHandleType handle with
  | slotId => exact absurd handleType notSlot
  | invalid => exact ⟨_, by rw [findClient, handleType]⟩
  | playerSteamId => exact ⟨_, by rw [findClient, handleType]⟩
  | name => exact ⟨_, by rw [findClient, handleType]⟩

/-- `findClient` returns, and the slot numbers among the handles are converted,
exactly if the handle is not a minus sign alone. -/
theorem findClient_returns_iff (host : Host) (handle : Bytes) :
    ((∃ result, findClient host handle = .ok result) ∧
      (getHandleType handle = .slotId → ∃ value, stoi handle = .ok value)) ↔
      handle ≠ literal "-" := by
  by_cases isSlot : getHandleType handle = .slotId
  · have found : (∃ result, findClient host handle = .ok result) ↔
        ∃ value, stoi handle = .ok value := by
      simp only [findClient, isSlot]
      cases stoi handle <;> simp [Except.map]
    rw [found, slotId_converts handle isSlot]
    exact and_iff_left_of_imp fun notMinus _ => notMinus
  · refine iff_of_true ⟨findClient_returns host handle isSlot, fun slot => absurd slot isSlot⟩ ?_
    rintro rfl
    exact isSlot (by decide)

/-- A minus sign alone makes `findClient` throw. -/
theorem findClient_throws :
    ¬ ((∃ result, findClient emptyHost (literal "-") = .ok result) ∧
      (getHandleType (literal "-") = .slotId → ∃ value, stoi (literal "-") = .ok value)) := by
  rintro ⟨⟨result, found⟩, _⟩
  have thrown : findClient emptyHost (literal "-") = .error .invalidArgument := by rfl
  simp [thrown] at found

/-! ## Ids -/

/-- Two clients in use match exactly if the matching active clients are more than one. -/
theorem twoInUse_iff (host : Host) {matching : Client → Bool} {Matching : Client → Prop}
    (decides : ∀ client, matching client = true ↔ Matching client) :
    TwoInUse host Matching ↔
      1 < ((getActiveClients host).filter fun player =>
        matching (host.client player.2)).length := by
  have nodup := (getActiveClients_nodup host).filter fun player => matching (host.client player.2)
  have inside : ∀ player, player ∈ (getActiveClients host).filter (fun player =>
      matching (host.client player.2)) ↔
      InUse host player.1 player.2 ∧ Matching (host.client player.2) := by
    intro player
    rw [List.mem_filter, decides, ← mem_getActiveClients]
  generalize (getActiveClients host).filter (fun player => matching (host.client player.2)) =
    matched at nodup inside
  constructor
  · rintro ⟨slot, client, otherSlot, other, occupied, otherOccupied, isMatch, otherMatch, apart⟩
    have member := (inside (slot, client)).mpr ⟨occupied, isMatch⟩
    have otherMember := (inside (otherSlot, other)).mpr ⟨otherOccupied, otherMatch⟩
    match matched with
    | [] => simp at member
    | [player] =>
      rw [List.mem_singleton] at member otherMember
      exact absurd (congrArg Prod.fst (member.trans otherMember.symm)) apart
    | first :: second :: rest => simp
  · intro several
    match matched with
    | [] => simp at several
    | [player] => simp at several
    | first :: second :: rest =>
      obtain ⟨firstUse, firstMatch⟩ := (inside first).mp (by simp)
      obtain ⟨secondUse, secondMatch⟩ := (inside second).mp (by simp)
      have different : first ≠ second := by
        rintro rfl
        simp at nodup
      refine ⟨_, _, _, _, firstUse, secondUse, firstMatch, secondMatch, ?_⟩
      intro sameSlot
      exact different (Prod.ext sameSlot ((sameSlot ▸ firstUse).client_eq secondUse))

/-- Whether two clients match does not depend on the slots. -/
theorem twoInUse_rearranged {host other : Host} (rearranged : Rearranged host other)
    {matching : Client → Bool} {Matching : Client → Prop}
    (decides : ∀ client, matching client = true ↔ Matching client) :
    TwoInUse host Matching ↔ TwoInUse other Matching := by
  have unslotted : ∀ searched : Host, ((getActiveClients searched).filter fun player =>
      matching (searched.client player.2)).length =
        ((searched.slots.filterMap (inUse searched)).filter fun client =>
          matching (searched.client client)).length := by
    intro searched
    rw [← getActiveClients_clients, List.filter_map, List.length_map]
    rfl
  rw [twoInUse_iff host decides, twoInUse_iff other decides, unslotted, unslotted,
    rearranged.client, inUse_rearranged rearranged,
    ((rearranged.slots.filterMap (inUse other)).filter _).length_eq]

/-- An id is looked up as the first match. -/
theorem findClient_id (host : Host) (handle : Bytes)
    (isId : getHandleType handle = .playerSteamId) :
    findClient host handle = .ok (((getActiveClients host).find? fun player =>
      hasId handle (host.client player.2)).map Prod.snd) := by
  rw [findClient, isId]

/-- An id lookup finds a client exactly if it is the only match, finds none among
several and does not depend on the slots, exactly if no two clients in use match.

Where two match, the first of them is found. -/
theorem findClient_id_iff (host : Host) (handle : Bytes)
    (isId : getHandleType handle = .playerSteamId) :
    ((∀ client, findClient host handle = .ok (some client) ↔
        OnlyInUse host (HasId handle) client) ∧
      (TwoInUse host (HasId handle) → findClient host handle = .ok none) ∧
      ∀ other, Rearranged host other → findClient other handle = findClient host handle) ↔
      ¬ TwoInUse host (HasId handle) := by
  have onlyFound : ∀ searched, ¬ TwoInUse searched (HasId handle) →
      findClient searched handle = .ok (onlyInUse searched (hasId handle)) := by
    intro searched notTwo
    rw [findClient_id searched handle isId, onlyInUse_active]
    congr 2
    rw [find?_eq_only_iff]
    exact Nat.le_of_not_lt ((twoInUse_iff searched (hasId_iff handle)).not.mp notTwo)
  constructor
  · rintro ⟨_, several, _⟩ two
    have nothing := several two
    obtain ⟨slot, client, _, _, occupied, _, isMatch, _⟩ := two
    rw [findClient_id host handle isId, Except.ok.injEq, Option.map_eq_none_iff,
      List.find?_eq_none] at nothing
    exact nothing (slot, client) ((mem_getActiveClients host slot client).mpr occupied)
      ((hasId_iff handle _).mpr isMatch)
  · intro notTwo
    refine ⟨?_, fun two => absurd two notTwo, ?_⟩
    · intro client
      rw [onlyFound host notTwo, Except.ok.injEq]
      exact onlyInUse_iff host (hasId_iff handle) client
    · intro other rearranged
      have otherNotTwo := (twoInUse_rearranged rearranged (hasId_iff handle)).not.mp notTwo
      rw [onlyFound host notTwo, onlyFound other otherNotTwo, onlyInUse_rearranged rearranged]

/-- A client with a player id of 17 digits. -/
def player : Client := ⟨1, 76561197960265729, 0, literal "Roy", 0, 0⟩

/-- A server with these clients, all of them like each other. -/
def hostOf (slots : List (Option Pointer)) (client : Client) : Host :=
  ⟨slots, fun _ => none, fun _ => client, 0, []⟩

/-- Where one slot is filled, there is nobody in another one. -/
theorem hostOf_single {client : Client} {slot : Nat} {other : Pointer}
    (inUse : InUse (hostOf [some 0] client) slot other) : slot = 0 := by
  obtain ⟨occupied, _⟩ := inUse
  have below := (List.getElem?_eq_some_iff.mp occupied).1
  simp only [hostOf, List.length_singleton] at below
  omega

/-- Another client, with an id and a name of his own. -/
def bystander : Client := ⟨1, 76561197960265730, 0, literal "Ann", 0, 0⟩

/-- A server with both clients in use, and a vacant slot between them. -/
def pairHost : Host :=
  ⟨[some 1, none, some 0], fun _ => none, fun client => if client = 0 then player else bystander,
    0, []⟩

/-- Where the bystander does not match, only the last slot does. -/
theorem pairHost_match {Matching : Client → Prop} (other : ¬ Matching bystander) {slot : Nat}
    {client : Pointer} (occupied : InUse pairHost slot client)
    (isMatch : Matching (pairHost.client client)) : slot = 2 := by
  obtain ⟨stands, _⟩ := occupied
  match slot with
  | 0 =>
    cases stands
    exact absurd isMatch other
  | 1 => cases stands
  | 2 => rfl
  | _ + 3 => cases stands

/-- A client is found by his id next to another one, in whatever slots. -/
theorem findClient_id_single :
    findClient pairHost (literal "76561197960265729") = .ok (some 0) ∧
    ∀ other, Rearranged pairHost other →
      findClient other (literal "76561197960265729") = .ok (some 0) := by
  have isId : HasId (literal "76561197960265729") player := Or.inl (by decide +kernel)
  have noId : ¬ HasId (literal "76561197960265729") bystander :=
    (hasId_iff _ _).not.mp (by decide +kernel)
  have notTwo : ¬ TwoInUse pairHost (HasId (literal "76561197960265729")) := by
    rintro ⟨slot, client, otherSlot, other, occupied, otherOccupied, isMatch, otherMatch, apart⟩
    exact apart ((pairHost_match noId occupied isMatch).trans
      (pairHost_match noId otherOccupied otherMatch).symm)
  obtain ⟨finds, _, anywhere⟩ :=
    (findClient_id_iff pairHost (literal "76561197960265729") (by decide)).mpr notTwo
  have found := (finds 0).mpr ⟨2, ⟨rfl, by decide⟩, isId,
    fun _ _ occupied isMatch => pairHost_match noId occupied isMatch⟩
  exact ⟨found, fun other rearranged => (anywhere other rearranged).trans found⟩

/-- Two clients have the id, and the first of them is found. -/
theorem findClient_id_first :
    ¬ ((∀ client, findClient (hostOf [some 0, some 1] player) (literal "76561197960265729") =
          .ok (some client) ↔
        OnlyInUse (hostOf [some 0, some 1] player) (HasId (literal "76561197960265729")) client) ∧
      (TwoInUse (hostOf [some 0, some 1] player) (HasId (literal "76561197960265729")) →
        findClient (hostOf [some 0, some 1] player) (literal "76561197960265729") = .ok none) ∧
      ∀ other, Rearranged (hostOf [some 0, some 1] player) other →
        findClient other (literal "76561197960265729") =
          findClient (hostOf [some 0, some 1] player) (literal "76561197960265729")) := by
  rintro ⟨_, several, _⟩
  have hasId : HasId (literal "76561197960265729") player := Or.inl (by decide +kernel)
  have nothing := several ⟨0, 0, 1, 1, ⟨rfl, by decide⟩, ⟨rfl, by decide⟩, hasId, hasId, by decide⟩
  have found : findClient (hostOf [some 0, some 1] player) (literal "76561197960265729") =
      .ok (some 0) := by decide +kernel
  simp [found] at nothing

/-! ## Names -/

/-- A name lookup finds a client exactly if it is the only match, in whatever slots the
clients are. -/
theorem findClient_name_only (host : Host) (handle : Bytes)
    (isName : getHandleType handle = .name) :
    (∀ client, findClient host handle = .ok (some client) ↔
      OnlyInUse host (HasName handle) client) ∧
    ∀ other, Rearranged host other → findClient other handle = findClient host handle := by
  refine ⟨?_, ?_⟩
  · intro client
    rw [findClient_name host handle isName, Except.ok.injEq]
    exact onlyInUse_iff host (hasName_iff handle) client
  · intro other rearranged
    rw [findClient_name host handle isName, findClient_name other handle isName,
      onlyInUse_rearranged rearranged]

/-- A part of a name in another case, next to another name and in whatever slots. -/
theorem findClient_name_part :
    findClient pairHost (literal "rO") = .ok (some 0) ∧
    ∀ other, Rearranged pairHost other → findClient other (literal "rO") = .ok (some 0) := by
  have isPart : HasName (literal "rO") player := (hasName_iff _ _).mp (by decide)
  have noPart : ¬ HasName (literal "rO") bystander := (hasName_iff _ _).not.mp (by decide)
  obtain ⟨finds, anywhere⟩ := findClient_name_only pairHost (literal "rO") (by decide)
  have found := (finds 0).mpr ⟨2, ⟨rfl, by decide⟩, isPart,
    fun _ _ occupied isMatch => pairHost_match noPart occupied isMatch⟩
  exact ⟨found, fun other rearranged => (anywhere other rearranged).trans found⟩

/-! ## Own names -/

/-- A name without its colours has no room for one with them. -/
theorem removeColor_of_infix (handle : Bytes)
    (inside : toLower handle <:+: toLower (removeColor handle)) : removeColor handle = handle := by
  by_contra coloured
  have shorter := removeColor_shorter handle coloured
  have fits := inside.length_le
  simp only [toLower, List.length_map] at fits
  omega

/-- The case of a handle makes no difference to what has it in its name. -/
theorem hasName_toLower {handle other : Bytes} (same : toLower handle = toLower other) :
    hasName handle = hasName other := by
  funext client
  rw [hasName, same, hasName]

/-- A handle with a NUL is in no name. -/
theorem hasName_zero (handle : Bytes) (zero : 0 ∈ handle) (client : Client) :
    hasName handle client = false := by
  rw [← Bool.not_eq_true, hasName_iff]
  intro inside
  have member : 0 ∈ toLower (removeColor client.name.cString) :=
    inside.subset ((zero_mem_toLower handle).mpr zero)
  rw [zero_mem_toLower] at member
  exact zero_not_mem_cString client.name ((removeColor_sublist _).mem member)

/-- A server with one client, whose name is painted. -/
def paintedHost (name : Bytes) : Host := hostOf [some 0] ⟨1, 0, 0, painted name, 0, 0⟩

/-- On it, a name lookup finds the client exactly if the handle is in the name. -/
theorem findClient_painted (name handle : Bytes) (free : 0 ∉ name)
    (isName : getHandleType handle = .name) :
    findClient (paintedHost name) handle = .ok (some 0) ↔ toLower handle <:+: toLower name := by
  have paintedFree : 0 ∉ painted name := by simpa [painted] using free
  have shown : HasName handle ⟨1, 0, 0, painted name, 0, 0⟩ ↔
      toLower handle <:+: toLower name := by
    rw [HasName, cString_free _ paintedFree, removeColor_painted]
  rw [findClient_name _ handle isName, Except.ok.injEq, onlyInUse_iff _ (hasName_iff handle),
    ← shown]
  constructor
  · rintro ⟨_, _, isMatch, _⟩
    exact isMatch
  · intro isMatch
    refine ⟨0, ⟨rfl, by simp [paintedHost, hostOf]⟩, isMatch, ?_⟩
    intro otherSlot other otherInUse _
    exact hostOf_single otherInUse

/-- A client whose name is the handle, and in no other name, is found exactly if there
is no colour in it: a handle with colours is longer than the name they are removed
from. -/
theorem findClient_stored_iff (host : Host) (handle : Bytes)
    (isName : getHandleType handle = .name) {slot : Nat} {client : Pointer}
    (occupied : InUse host slot client) (stored : (host.client client).name.cString = handle)
    (others : ∀ otherSlot other, InUse host otherSlot other → otherSlot ≠ slot →
      ¬ toLower (removeColor handle) <:+:
        toLower (removeColor (host.client other).name.cString)) :
    findClient host handle = .ok (some client) ↔ removeColor handle = handle := by
  rw [findClient_name host handle isName, Except.ok.injEq, onlyInUse_iff host (hasName_iff handle)]
  constructor
  · rintro ⟨_, _, isMatch, _⟩
    rw [HasName, stored] at isMatch
    exact removeColor_of_infix handle isMatch
  · intro plain
    refine ⟨slot, occupied, ⟨[], [], ?_⟩, ?_⟩
    · simp [stored, plain]
    · intro otherSlot other otherOccupied otherMatch
      by_contra apart
      apply others otherSlot other otherOccupied apart
      rwa [plain]

/-- The case of a handle makes no difference to a name lookup. -/
theorem findClient_toLower (host : Host) {handle other : Bytes}
    (isName : getHandleType handle = .name) (same : toLower handle = toLower other) :
    findClient host other = findClient host handle := by
  have otherIsName : getHandleType other = .name := by
    rw [← getHandleType_toLower, ← same, getHandleType_toLower, isName]
  rw [findClient_name host handle isName, findClient_name host other otherIsName,
    hasName_toLower same]

/-- The colours of a handle make no difference on any server exactly if there are none,
or a NUL keeps the handle from being found at all. -/
theorem findClient_removeColor_iff (handle : Bytes) (isName : getHandleType handle = .name)
    (plainIsName : getHandleType (removeColor handle) = .name) :
    (∀ host, findClient host (removeColor handle) = findClient host handle) ↔
      removeColor handle = handle ∨ 0 ∈ handle := by
  constructor
  · intro same
    by_cases zero : 0 ∈ handle
    · exact Or.inr zero
    · left
      have free : 0 ∉ removeColor handle := fun member =>
        zero ((removeColor_sublist handle).mem member)
      have found := (findClient_painted _ _ free plainIsName).mpr (List.infix_refl _)
      rw [same, findClient_painted _ _ free isName] at found
      exact removeColor_of_infix handle found
  · rintro (plain | zero) host
    · rw [plain]
    · have unfound : hasName (removeColor handle) = hasName handle := by
        funext client
        rw [hasName_zero handle zero,
          hasName_zero (removeColor handle) (zero_mem_removeColor handle zero)]
      rw [findClient_name host _ plainIsName, findClient_name host handle isName, unfound]

/-- A client is found by his own name, if it is in no other, exactly if there is no
colour in it; the case of a handle makes no difference to a name lookup, its colours
do. -/
theorem own_name_iff (host : Host) (handle : Bytes) (isName : getHandleType handle = .name) :
    (∀ slot client, InUse host slot client → (host.client client).name.cString = handle →
      (∀ otherSlot other, InUse host otherSlot other → otherSlot ≠ slot →
        ¬ toLower (removeColor handle) <:+:
          toLower (removeColor (host.client other).name.cString)) →
      (findClient host handle = .ok (some client) ↔ removeColor handle = handle)) ∧
    (∀ other, toLower handle = toLower other →
      findClient host other = findClient host handle) ∧
    (getHandleType (removeColor handle) = .name →
      ((∀ anyHost, findClient anyHost (removeColor handle) = findClient anyHost handle) ↔
        removeColor handle = handle ∨ 0 ∈ handle)) := by
  refine ⟨?_, ?_, ?_⟩
  · intro slot client occupied stored others
    exact findClient_stored_iff host handle isName occupied stored others
  · intro other same
    exact findClient_toLower host isName same
  · exact findClient_removeColor_iff handle isName

/-- A plain name finds its client next to another one, in any case; a coloured handle does
not find on every server what it finds without its colour. -/
theorem own_name_plain :
    findClient pairHost player.name.cString = .ok (some 0) ∧
    findClient pairHost (literal "ROY") = findClient pairHost player.name.cString ∧
    ¬ ∀ anyHost, findClient anyHost (removeColor (literal "^1Roy")) =
      findClient anyHost (literal "^1Roy") := by
  refine ⟨?_, ?_, ?_⟩
  · refine ((own_name_iff pairHost player.name.cString (by decide)).1 2 0
      ⟨rfl, by decide⟩ rfl ?_).mpr (by decide)
    rintro otherSlot other otherInUse apart inside
    have noPart : ¬ toLower (removeColor player.name.cString) <:+:
        toLower (removeColor bystander.name.cString) := by decide
    exact apart (@pairHost_match (fun client => toLower (removeColor player.name.cString) <:+:
      toLower (removeColor client.name.cString)) noPart _ _ otherInUse inside)
  · exact (own_name_iff pairHost player.name.cString (by decide)).2.1 (literal "ROY") (by decide)
  · exact ((own_name_iff emptyHost (literal "^1Roy") (by decide)).2.2 (by decide)).not.mpr
      (by decide)

/-- A client with a colour in his name. -/
def painter : Client := ⟨1, 0, 0, literal "^1Roy", 0, 0⟩

/-- The only client on a server is not found by his own name if there is a colour in it. -/
theorem own_name_coloured :
    InUse (hostOf [some 0] painter) 0 0 ∧ getHandleType painter.name.cString = .name ∧
    removeColor painter.name.cString ≠ [] ∧
    (∀ otherSlot other, InUse (hostOf [some 0] painter) otherSlot other → otherSlot ≠ 0 →
      ¬ toLower (removeColor painter.name.cString) <:+:
        toLower (removeColor ((hostOf [some 0] painter).client other).name.cString)) ∧
    ¬ findClient (hostOf [some 0] painter) painter.name.cString = .ok (some 0) := by
  refine ⟨⟨rfl, by decide⟩, by decide, by decide, ?_, by decide⟩
  intro otherSlot other otherInUse apart
  exact absurd (hostOf_single otherInUse) apart

end Plugpp
