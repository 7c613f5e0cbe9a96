import Plugpp.OnlyMatch
import Plugpp.Plugin
import Plugpp.Text

/-!
# Finding a client

A handle is a slot number, an id or a part of a name; its length and `isInteger`
decide which. An id is compared in decimal digits with both ids of every client in
use, and the first one that has it is returned. A name is searched for in the name
of every client in use, without its colours and in lower case, and is returned if no
second client matches.

What a lookup finds is expressed by the only match in the table of clients, in
which a client counts by its slot.
-/

namespace Plugpp

open Bytes OnlyMatch

/-- `Plugin_GetClientForClientNum` belongs to the server: the client of a slot, if it
returns one, and for a number that is no slot whatever it returns. -/
def getClientForClientNum (host : Host) (slot : Int) : Option Pointer :=
  if 0 ≤ slot ∧ slot < host.slots.length then host.slots[slot.toNat]?.join else host.beyond slot

/-- `getClientBySlot`. -/
def getClientBySlot (host : Host) (slot : Int) : Option Pointer :=
  match getClientForClientNum host slot with
  | none => none
  | some cl => if (host.client cl).state = 0 then none else some cl

/-- `getActiveClients`. -/
def getActiveClients (host : Host) : List (Nat × Pointer) :=
  (List.range host.slots.length).filterMap fun i : Nat =>
    (getClientBySlot host i).map fun client => (i, client)

/-- `HandleType`. -/
inductive HandleType where
  | invalid
  | slotId
  | playerSteamId
  | name
deriving DecidableEq

/-- `getHandleType`. -/
def getHandleType (handle : Bytes) : HandleType :=
  if handle.isEmpty then .invalid
  else if handle.length ≤ 2 && isInteger handle then .slotId
  else if (handle.length == 17 || handle.length == 19) && isInteger handle then .playerSteamId
  else .name

/-- The comparison of `findClient` with the ids of a client. -/
def hasId (handle : Bytes) (client : Client) : Bool :=
  decimal client.playerid.toNat == handle ||
    (client.steamid != 0 && decimal client.steamid.toNat == handle)

/-- The comparison of `findClient` with the name of a client. -/
def hasName (handle : Bytes) (client : Client) : Bool :=
  (find (toLower (removeColor client.name.cString)) (toLower handle) 0).isSome

/-- The loop of `findClient` over the names, with the candidate `cl`. -/
def findByName (host : Host) (handle : Bytes) :
    Option Pointer → List (Nat × Pointer) → Option Pointer
  | cl, [] => cl
  | cl, (_, client) :: rest =>
      if hasName handle (host.client client) then
        match cl with
        | none => findByName host handle (some client) rest
        | some _ => none
      else findByName host handle cl rest

/-- `findClient`. -/
def findClient (host : Host) (handle : Bytes) : Except StoiFailure (Option Pointer) :=
  match getHandleType handle with
  | .invalid => .ok none
  | .slotId => (stoi handle).map (getClientBySlot host ·)
  | .playerSteamId =>
      .ok (((getActiveClients host).find? fun player =>
        hasId handle (host.client player.2)).map Prod.snd)
  | .name => .ok (findByName host handle none (getActiveClients host))

/-- Lower case makes no difference to the type of a handle. -/
theorem getHandleType_toLower (handle : Bytes) :
    getHandleType (toLower handle) = getHandleType handle := by
  have size : (toLower handle).length = handle.length := List.length_map _
  have empty : (toLower handle).isEmpty = handle.isEmpty := List.isEmpty_map
  simp only [getHandleType, isInteger_toLower, size, empty]

/-! ## The clients in use -/

/-- A client in use: in a slot of the server, not null, and with a state. -/
def InUse (host : Host) (slot : Nat) (client : Pointer) : Prop :=
  host.slots[slot]? = some (some client) ∧ (host.client client).state ≠ 0

/-- The client in use at a slot, if there is one. -/
def inUse (host : Host) (slot : Option Pointer) : Option Pointer :=
  slot.filter fun client => (host.client client).state ≠ 0

/-- A slot has one client. -/
theorem InUse.client_eq {host : Host} {slot : Nat} {left right : Pointer}
    (leftUse : InUse host slot left) (rightUse : InUse host slot right) : left = right :=
  Option.some.inj (Option.some.inj (leftUse.1.symm.trans rightUse.1))

/-- A slot below the count has its client if it is in use. -/
theorem getClientBySlot_inUse (host : Host) {slot : Nat} (below : slot < host.slots.length) :
    getClientBySlot host slot = inUse host host.slots[slot]?.join := by
  have slotNumber : 0 ≤ (slot : Int) ∧ (slot : Int) < host.slots.length := by omega
  simp only [getClientBySlot, getClientForClientNum, slotNumber, and_self, ↓reduceIte,
    Int.toNat_natCast, inUse]
  cases host.slots[slot]?.join with
  | none => rfl
  | some cl =>
    by_cases vacant : (host.client cl).state = 0 <;> simp [Option.filter, vacant]

/-- The loop over the slots asks for no other number. -/
theorem getActiveClients_inUse (host : Host) :
    getActiveClients host = (List.range host.slots.length).filterMap fun slot =>
      (inUse host host.slots[slot]?.join).map fun client => (slot, client) := by
  refine List.filterMap_congr fun slot member => ?_
  rw [getClientBySlot_inUse host (List.mem_range.mp member)]

/-- The active clients are the clients in use, with their slots. -/
theorem mem_getActiveClients (host : Host) (slot : Nat) (client : Pointer) :
    (slot, client) ∈ getActiveClients host ↔ InUse host slot client := by
  simp only [getActiveClients_inUse, List.mem_filterMap, List.mem_range,
    Option.map_eq_some_iff, Prod.mk.injEq, inUse, Option.filter_eq_some_iff,
    Option.join_eq_some_iff, InUse, decide_eq_true_eq]
  constructor
  · rintro ⟨_, _, _, occupied, rfl, rfl⟩
    exact occupied
  · intro occupied
    have below : slot < host.slots.length := (List.getElem?_eq_some_iff.mp occupied.1).1
    exact ⟨slot, below, client, occupied, rfl, rfl⟩

/-- No slot is listed twice. -/
theorem getActiveClients_nodup (host : Host) : (getActiveClients host).Nodup := by
  refine List.Nodup.filterMap ?_ List.nodup_range
  intro slot other player here there
  obtain ⟨_, _, same⟩ := Option.map_eq_some_iff.mp here
  obtain ⟨_, _, otherSame⟩ := Option.map_eq_some_iff.mp there
  exact (Prod.mk.inj (same.trans otherSame.symm)).1

/-- Without their slots, the active clients are the slots' clients in use. -/
theorem getActiveClients_clients (host : Host) :
    (getActiveClients host).map Prod.snd = host.slots.filterMap (inUse host) := by
  have listed : (List.range host.slots.length).map (fun slot => host.slots[slot]?.join) =
      host.slots := by
    apply List.ext_getElem (by simp)
    intro slot below inside
    simp [List.getElem?_eq_getElem inside]
  have unslotted : (getActiveClients host).map Prod.snd =
      (List.range host.slots.length).filterMap fun slot => inUse host host.slots[slot]?.join := by
    simp only [getActiveClients_inUse, List.map_filterMap, Option.map_map]
    congr 1
    funext slot
    cases inUse host host.slots[slot]?.join <;> rfl
  conv => rhs; rw [← listed, List.filterMap_map]
  exact unslotted

/-! ## What matches -/

/-- One of the ids of a client is the handle, in decimal digits. -/
def HasId (handle : Bytes) (client : Client) : Prop :=
  decimal client.playerid.toNat = handle ∨
    (client.steamid ≠ 0 ∧ decimal client.steamid.toNat = handle)

/-- The name of a client, without its colours, contains the handle in any case. -/
def HasName (handle : Bytes) (client : Client) : Prop :=
  toLower handle <:+: toLower (removeColor client.name.cString)

/-- The comparison with the ids decides `HasId`. -/
theorem hasId_iff (handle : Bytes) (client : Client) :
    hasId handle client = true ↔ HasId handle client := by
  simp [hasId, HasId]

/-- The comparison with the name decides `HasName`. -/
theorem hasName_iff (handle : Bytes) (client : Client) :
    hasName handle client = true ↔ HasName handle client :=
  find_isSome_iff _ _

/-- A client in use matches, and none in use at another slot does. -/
def OnlyInUse (host : Host) (Matching : Client → Prop) (client : Pointer) : Prop :=
  ∃ slot, InUse host slot client ∧ Matching (host.client client) ∧
    ∀ otherSlot other, InUse host otherSlot other → Matching (host.client other) →
      otherSlot = slot

/-- Two clients in use match. -/
def TwoInUse (host : Host) (Matching : Client → Prop) : Prop :=
  ∃ slot client otherSlot other, InUse host slot client ∧ InUse host otherSlot other ∧
    Matching (host.client client) ∧ Matching (host.client other) ∧ slot ≠ otherSlot

/-- The same clients in other slots. -/
structure Rearranged (host other : Host) : Prop where
  slots : host.slots.Perm other.slots
  client : host.client = other.client

/-- The same clients are in use. -/
theorem inUse_rearranged {host other : Host} (rearranged : Rearranged host other) :
    inUse host = inUse other := by
  funext slot
  simp only [inUse, rearranged.client]

/-- The only match among the clients in use. -/
def onlyInUse (host : Host) (matching : Client → Bool) : Option Pointer :=
  only (fun client => matching (host.client client)) (host.slots.filterMap (inUse host))

/-- It is also the only match among the active clients with their slots. -/
theorem onlyInUse_active (host : Host) (matching : Client → Bool) :
    onlyInUse host matching =
      (only (fun player => matching (host.client player.2)) (getActiveClients host)).map
        Prod.snd := by
  rw [onlyInUse, ← getActiveClients_clients, only_map]
  rfl

/-- The only match is a client in use that matches while none at another slot does. -/
theorem onlyInUse_iff (host : Host) {matching : Client → Bool} {Matching : Client → Prop}
    (decides : ∀ client, matching client = true ↔ Matching client) (client : Pointer) :
    onlyInUse host matching = some client ↔ OnlyInUse host Matching client := by
  simp only [onlyInUse_active, Option.map_eq_some_iff,
    only_nodup_iff _ _ (getActiveClients_nodup host), decides, OnlyInUse]
  constructor
  · rintro ⟨⟨slot, found⟩, ⟨member, isMatch, alone⟩, rfl⟩
    refine ⟨slot, (mem_getActiveClients host slot found).mp member, isMatch, ?_⟩
    intro otherSlot other occupied otherMatch
    have same := alone (otherSlot, other)
      ((mem_getActiveClients host otherSlot other).mpr occupied) otherMatch
    exact (Prod.mk.inj same).1
  · rintro ⟨slot, occupied, isMatch, alone⟩
    refine ⟨(slot, client), ⟨(mem_getActiveClients host slot client).mpr occupied, isMatch, ?_⟩, rfl⟩
    rintro ⟨otherSlot, other⟩ member otherMatch
    have otherOccupied := (mem_getActiveClients host otherSlot other).mp member
    have same := alone otherSlot other otherOccupied otherMatch
    subst same
    rw [otherOccupied.client_eq occupied]

/-- The only match does not depend on the slots. -/
theorem onlyInUse_rearranged {host other : Host} (rearranged : Rearranged host other)
    (matching : Client → Bool) : onlyInUse host matching = onlyInUse other matching := by
  rw [onlyInUse, onlyInUse, rearranged.client, inUse_rearranged rearranged]
  exact only_perm _ (rearranged.slots.filterMap _)

/-! ## What the loops find -/

/-- With a candidate, the loop keeps it if no other client matches. -/
theorem findByName_candidate (host : Host) (handle : Bytes) (candidate : Pointer)
    (players : List (Nat × Pointer)) :
    findByName host handle (some candidate) players =
      if players.any fun player => hasName handle (host.client player.2) then none
      else some candidate := by
  induction players with
  | nil => rfl
  | cons player rest inductionHypothesis =>
    rw [findByName, List.any_cons]
    cases here : hasName handle (host.client player.2) with
    | false =>
      rw [Bool.false_or]
      exact inductionHypothesis
    | true => rfl

/-- Without one, the loop finds the only match. -/
theorem findByName_only (host : Host) (handle : Bytes) (players : List (Nat × Pointer)) :
    findByName host handle none players =
      (only (fun player => hasName handle (host.client player.2)) players).map Prod.snd := by
  induction players with
  | nil => rfl
  | cons player rest inductionHypothesis =>
    rw [only_cons, findByName]
    cases here : hasName handle (host.client player.2) with
    | false => simpa using inductionHypothesis
    | true =>
      rw [if_pos rfl, if_pos rfl, findByName_candidate]
      split <;> rfl

/-- A name is looked up as the only match. -/
theorem findClient_name (host : Host) (handle : Bytes) (isName : getHandleType handle = .name) :
    findClient host handle = .ok (onlyInUse host (hasName handle)) := by
  rw [findClient, isName, findByName_only, onlyInUse_active]

end Plugpp
