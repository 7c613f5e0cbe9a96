import Plugpp.Answers
import Plugpp.Clients

/-!
# Who is granted access

`OnPlayerGetBanStatus` looks for the client that comes by what the server knows about
it: the ids and the address. It goes through all the slots, also the vacant ones, in
which the server leaves what was there. A player who was in a lower slot before is
found there.
-/

namespace Plugpp

open Bytes Code Exported OnlyMatch

variable {P : Type}

/-- The ids and the address of a client are those of a ban info. -/
def IsSubject (linked : Linked P) (baninfo : BanInfo) (client : Client) : Prop :=
  client.playerid = baninfo.playerid ∧ client.steamid = baninfo.steamid ∧
    linked.compareAdr client.remoteAddress baninfo.adr = true

/-- A vacant slot below a slot has a client that matches. -/
def LeftBelow (host : Host) (Matching : Client → Prop) (slot : Nat) : Prop :=
  ∃ earlier < slot, ∃ other, host.slots[earlier]? = some (some other) ∧
    (host.client other).state = 0 ∧ Matching (host.client other)

/-- The loop finds the first client that matches, in use or not. -/
theorem bannedClient_eq_some_iff (linked : Linked P) (host : Host) (baninfo : BanInfo)
    (cl : Pointer) :
    bannedClient linked host baninfo = some cl ↔
      ∃ slot : Nat, host.slots[slot]? = some (some cl) ∧
        IsSubject linked baninfo (host.client cl) ∧
        ∀ earlier < slot, ∀ other, host.slots[earlier]? = some (some other) →
          ¬ IsSubject linked baninfo (host.client other) := by
  rw [bannedClient, findSome?_filter_iff]
  simp only [decide_eq_true_eq, decide_eq_false_iff_not, IsSubject]

/-- Where only one client in use matches, the loop finds it exactly if no vacant slot
below has a client that matches. -/
theorem bannedClient_only_iff (linked : Linked P) (host : Host) (baninfo : BanInfo) {slot : Nat}
    {cl : Pointer} (occupied : InUse host slot cl)
    (isSubject : IsSubject linked baninfo (host.client cl))
    (alone : ∀ otherSlot other, InUse host otherSlot other →
      IsSubject linked baninfo (host.client other) → otherSlot = slot) :
    bannedClient linked host baninfo = some cl ↔
      ¬ LeftBelow host (IsSubject linked baninfo) slot := by
  rw [bannedClient_eq_some_iff]
  constructor
  · rintro ⟨place, stands, _, absent⟩ ⟨earlier, below, other, left, _, otherSubject⟩
    have here : place = slot := alone place cl ⟨stands, occupied.2⟩ isSubject
    exact absent earlier (here ▸ below) other left otherSubject
  · intro nothingLeft
    refine ⟨slot, occupied.1, isSubject, ?_⟩
    intro earlier below other stands otherSubject
    by_cases vacant : (host.client other).state = 0
    · exact nothingLeft ⟨earlier, below, other, stands, vacant, otherSubject⟩
    · have same := alone earlier other ⟨stands, vacant⟩ otherSubject
      omega

/-- `OnPlayerGetBanStatus` with an empty message, which the plugin answers with `NoKick`,
calls `onPlayerAccessGranted` once and for the only client in use that the ban info is
about, exactly if no vacant slot below has the ids and the address left. The table of
clients and the ban info are those that the plugin's answer leaves. -/
theorem connecting_granted_iff (linked : Linked P) (len : Int32) (world : World P)
    (status : BanStatus) (host : Host) (baninfo : BanInfo) (slot : Nat) (cl : Pointer)
    (isEmpty : status.message.bytes 0 = 0)
    (answered : asked linked world .onPlayerGetBanStatus status.baninfo = (.ok none, baninfo))
    (left : (worldAfter linked world .onPlayerGetBanStatus status.baninfo).env.host = host)
    (occupied : InUse host slot cl) (isSubject : IsSubject linked baninfo (host.client cl))
    (alone : ∀ otherSlot other, InUse host otherSlot other →
      IsSubject linked baninfo (host.client other) → otherSlot = slot) :
    (enter linked (.onPlayerGetBanStatus len) (world, status)).2.1.calls =
        .onPlayerAccessGranted cl :: .onPlayerGetBanStatus :: world.calls ↔
      ¬ LeftBelow host (IsSubject linked baninfo) slot := by
  have called : (enter linked (.onPlayerGetBanStatus len) (world, status)).2.1.calls = _ :=
    onPlayerGetBanStatus_calls linked len (world, status) isEmpty
  have recorded : (worldAfter linked world .onPlayerGetBanStatus status.baninfo).calls =
      .onPlayerGetBanStatus :: world.calls := by
    rcases worldAfter_registered linked world .onPlayerGetBanStatus status.baninfo with
      ⟨_, recorded, _⟩ | ⟨_, unanswered⟩
    · exact recorded
    · exact absurd (congrArg Prod.fst answered) (unanswered none)
  rw [called, ← bannedClient_only_iff linked host baninfo occupied isSubject alone]
  simp only [answered, left, recorded]
  cases bannedClient linked host baninfo <;> simp

/-- A plugin that kicks no one. -/
def admitter : Linked Unit := fixed (fun call => .ok call.default) (.ok ⟨⟩)

/-- A world with two slots: whoever was in the first one is gone, the second one is in
use. -/
def reconnectedWorld (gone : UInt64) : World Unit :=
  loadedWorld (Command.initial 0 fun _ => none) [some 0, some 1] fun client =>
    if client = 0 then ⟨0, gone, 0, [], 0, 0⟩ else ⟨1, 7, 0, [], 0, 0⟩

/-- Only its second slot is in use. -/
theorem reconnectedWorld_inUse (gone : UInt64) (slot : Nat) (client : Pointer)
    (occupied : InUse (reconnectedWorld gone).env.host slot client) : slot = 1 := by
  obtain ⟨stands, occupied⟩ := occupied
  match slot with
  | 0 =>
    cases stands
    exact absurd rfl occupied
  | 1 => rfl
  | _ + 2 => cases stands

/-- A stranger in the vacant slot is passed over. -/
theorem connecting_granted_past_stranger :
    (enter admitter (.onPlayerGetBanStatus 1)
      (reconnectedWorld 3, ⟨⟨7, 0, 0⟩, ⟨fun _ => 0, []⟩⟩)).2.1.calls =
        [.onPlayerAccessGranted 1, .onPlayerGetBanStatus] := by
  refine (connecting_granted_iff admitter 1 (reconnectedWorld 3) ⟨⟨7, 0, 0⟩, ⟨fun _ => 0, []⟩⟩
    (reconnectedWorld 3).env.host ⟨7, 0, 0⟩ 1 1 rfl rfl rfl ⟨rfl, by decide⟩ ⟨rfl, rfl, rfl⟩
    (fun slot client occupied _ => reconnectedWorld_inUse 3 slot client occupied)).mpr ?_
  rintro ⟨_ | earlier, below, other, stands, _, isSubject, _⟩
  · cases stands
    exact absurd isSubject (by decide)
  · omega

/-- A player who comes back is granted access as the client that is gone. -/
theorem gone_granted_instead :
    OnlyInUse (reconnectedWorld 7).env.host (IsSubject admitter ⟨7, 0, 0⟩) 1 ∧
    ¬ (enter admitter (.onPlayerGetBanStatus 1)
      (reconnectedWorld 7, ⟨⟨7, 0, 0⟩, ⟨fun _ => 0, []⟩⟩)).2.1.calls =
        [.onPlayerAccessGranted 1, .onPlayerGetBanStatus] := by
  refine ⟨⟨1, ⟨rfl, by decide⟩, ⟨rfl, rfl, rfl⟩, ?_⟩, ?_⟩
  · exact fun slot client occupied _ => reconnectedWorld_inUse 7 slot client occupied
  · have granted : (enter admitter (.onPlayerGetBanStatus 1)
        (reconnectedWorld 7, ⟨⟨7, 0, 0⟩, ⟨fun _ => 0, []⟩⟩)).2.1.calls =
          [.onPlayerAccessGranted 0, .onPlayerGetBanStatus] := rfl
    rw [granted]
    decide

end Plugpp
