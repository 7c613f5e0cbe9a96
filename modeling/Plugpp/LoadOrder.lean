import Plugpp.Denials
import Plugpp.Verdicts

/-!
# The order in which plugins are loaded

The server raises an event in the plugins in the order in which it has loaded them. What
comes out of it is the same in any order: a message that some plugin hides, a slot that
some plugin denies and a packet that some plugin drops stay so behind it, and a player is
denied once a plugin has kicked him. Only the reason he is shown is the first one.

When a player is authenticated, or asked about for a ban, the plugins pass on by reference
what they are given: his ids, and `returnNow` or the address of the ban. Here a plugin can
change what the next one is asked. The order is of no matter as long as none changes any of
this.

Each plugin is taken with its world, in any order the same: the plugins do not act on each
other through the server.
-/

namespace Plugpp

open Bytes Code Exported

/-- The plugin leaves what a virtual function is given by reference as it is. -/
def LoadedPlugin.Leaves (plugin : LoadedPlugin) (call : VirtualCall) : Prop :=
  ∀ refs, (asked plugin.linked plugin.world call refs).2 = refs

/-- A kick whose reason shows. -/
def Kicked (shows : Bytes → Prop) (answer : Except Stop Kick) : Prop :=
  ∃ reason, kickOf answer = some reason ∧ shows reason

/-- A message that is hidden stays hidden, whatever it is. -/
theorem onMessageSent_hidden (message : Option Bytes) (slot mode : Int) (plugin : LoadedPlugin) :
    plugin.handle (.onMessageSent message slot mode) false = false := by
  simp only [LoadedPlugin.handle, enter, onMessageSent, (doNoexcept_leaves _ _ _ _).1]
  cases message with
  | none => rfl
  | some memory =>
    cases skipped : skipControl memory with
    | none => simp [skipped]
    | some visible => simp [skipped, bind_apply, writeOut]

/-- Where a reason is copied into an empty message only, there is a message exactly if
there was one or a kick's reason shows. -/
theorem denied_iff {answer : Except Stop Kick} {before after : Buffer} (copy : Bytes → Buffer)
    (shows : Bytes → Prop)
    (copied : before.bytes 0 = 0 → ∀ reason, (copy reason).bytes 0 ≠ 0 ↔ shows reason)
    (written : after = if before.bytes 0 = 0 then
      match kickOf answer with
      | some reason => copy reason
      | none => before
    else before) :
    after.bytes 0 ≠ 0 ↔ before.bytes 0 ≠ 0 ∨ Kicked shows answer := by
  by_cases isEmpty : before.bytes 0 = 0
  · cases kicked : kickOf answer with
    | none => simp [written, isEmpty, kicked, Kicked]
    | some reason => simpa [written, isEmpty, kicked, Kicked] using copied isEmpty reason
  · simp [written, isEmpty]

section Denied

variable (plugins : List LoadedPlugin)

/-- A connecting player is denied exactly if he was or some plugin kicks him. -/
theorem onPlayerConnect_denied (clientnum : Int) (netaddress : Pointer) (userinfo : Bytes)
    (deniedmsg : Buffer) :
    Buffer.bytes (round (.onPlayerConnect clientnum netaddress userinfo) plugins deniedmsg) 0 ≠ 0 ↔
      deniedmsg.bytes 0 ≠ 0 ∨ ∃ plugin ∈ plugins, Kicked (·.cString ≠ [])
        (plugin.answer (.onPlayerConnect clientnum netaddress userinfo) ⟨⟩) := by
  refine @Rounds.fold_denied Buffer LoadedPlugin Unit _ (·.bytes 0 ≠ 0) (fun _ => ())
    (fun _ plugin => Kicked _ (plugin.answer (.onPlayerConnect clientnum netaddress userinfo) ⟨⟩))
    plugins (fun _ _ _ _ => rfl) ?_ deniedmsg
  intro buffer plugin
  exact denied_iff _ _ (fun _ => strcpy_shows buffer)
    (onPlayerConnect_out clientnum netaddress userinfo (plugin.world, buffer))

/-- A player who is authenticated, by plugins that leave his ids and `returnNow`, is denied
exactly if he was or some plugin kicks him. -/
theorem onPlayerGotAuthInfo_denied (addr cl : Pointer) (info : AuthInfo)
    (leaves : ∀ plugin ∈ plugins, plugin.Leaves (.onPlayerGotAuthInfo cl addr)) :
    (round (.onPlayerGotAuthInfo addr cl) plugins info).rejectmsg.bytes 0 ≠ 0 ↔
      info.rejectmsg.bytes 0 ≠ 0 ∨ ∃ plugin ∈ plugins, Kicked (·.cString ≠ [])
        (plugin.answer (.onPlayerGotAuthInfo cl addr)
          ⟨info.playerid, info.steamid, info.returnNow⟩) := by
  refine @Rounds.fold_denied AuthInfo LoadedPlugin AuthRefs _ (·.rejectmsg.bytes 0 ≠ 0)
    (fun info => ⟨info.playerid, info.steamid, info.returnNow⟩)
    (fun refs plugin => Kicked _ (plugin.answer (.onPlayerGotAuthInfo cl addr) refs))
    plugins ?_ ?_ info
  · intro plugin isLoaded info _
    have left := leaves plugin isLoaded ⟨info.playerid, info.steamid, info.returnNow⟩
    simp only [LoadedPlugin.handle, enter, onPlayerGotAuthInfo_out, left]
    congr 1
    split <;> rfl
  · intro info plugin
    refine denied_iff _ _ ?_ (onPlayerGotAuthInfo_rejectmsg addr cl (plugin.world, info))
    intro isEmpty reason
    rw [strncpy_shows isEmpty]
    exact and_iff_left (by decide)

/-- A player who is asked about for a ban, by plugins that leave his ids and the address, is
denied exactly if he was or some plugin kicks him and there is room for a byte. -/
theorem onPlayerGetBanStatus_denied (len : Int32) (status : BanStatus)
    (leaves : ∀ plugin ∈ plugins, plugin.Leaves .onPlayerGetBanStatus) :
    (round (.onPlayerGetBanStatus len) plugins status).message.bytes 0 ≠ 0 ↔
      status.message.bytes 0 ≠ 0 ∨ ∃ plugin ∈ plugins,
        Kicked (fun reason => reason.cString ≠ [] ∧ len.toUInt32.toNat ≠ 0)
          (plugin.answer .onPlayerGetBanStatus status.baninfo) := by
  refine @Rounds.fold_denied BanStatus LoadedPlugin BanInfo _ (·.message.bytes 0 ≠ 0)
    BanStatus.baninfo (fun baninfo plugin => Kicked _ (plugin.answer .onPlayerGetBanStatus baninfo))
    plugins ?_ ?_ status
  · intro plugin isLoaded status isOpen
    have isEmpty : status.message.bytes 0 = 0 := not_not.mp isOpen
    simp only [LoadedPlugin.handle, enter, onPlayerGetBanStatus_out, if_pos isEmpty]
    exact leaves plugin isLoaded status.baninfo
  · intro status plugin
    refine denied_iff _ _ ?_ (onPlayerGetBanStatus_message len (plugin.world, status))
    exact fun isEmpty reason => strncpy_shows isEmpty reason _

end Denied

/-- What comes out of an event does not depend on the order of the plugins: whether a
message is sent, a slot allowed, a packet dropped, a connecting player denied. Nor does it
for a player who is authenticated or asked about for a ban, if the plugins leave all that
they are given by reference. -/
theorem load_order (plugins others : List LoadedPlugin) (perm : plugins.Perm others) :
    (∀ (message : Option Bytes) (slot mode : Int) (isShown : Qboolean),
      round (.onMessageSent message slot mode) plugins isShown =
        round (.onMessageSent message slot mode) others isShown) ∧
    (∀ (addr : Pointer) (isallowed : Qboolean),
      round (.onPlayerWantReservedSlot addr) plugins isallowed =
        round (.onPlayerWantReservedSlot addr) others isallowed) ∧
    (∀ (addr data : Pointer) (size : Int) (returnNow : Qboolean),
      round (.onUdpNetEvent addr data size) plugins returnNow =
        round (.onUdpNetEvent addr data size) others returnNow) ∧
    (∀ (addr data : Pointer) (len : Int) (returnNow : Qboolean),
      round (.onUdpNetSend addr data len) plugins returnNow =
        round (.onUdpNetSend addr data len) others returnNow) ∧
    (∀ (clientnum : Int) (netaddress : Pointer) (userinfo : Bytes) (deniedmsg : Buffer),
      Buffer.bytes (round (.onPlayerConnect clientnum netaddress userinfo) plugins deniedmsg) 0 ≠ 0 ↔
        Buffer.bytes (round (.onPlayerConnect clientnum netaddress userinfo) others deniedmsg) 0 ≠ 0) ∧
    (∀ (addr cl : Pointer) (info : AuthInfo),
      (∀ plugin ∈ plugins, plugin.Leaves (.onPlayerGotAuthInfo cl addr)) →
      ((round (.onPlayerGotAuthInfo addr cl) plugins info).rejectmsg.bytes 0 ≠ 0 ↔
        (round (.onPlayerGotAuthInfo addr cl) others info).rejectmsg.bytes 0 ≠ 0)) ∧
    (∀ (len : Int32) (status : BanStatus),
      (∀ plugin ∈ plugins, plugin.Leaves .onPlayerGetBanStatus) →
      ((round (.onPlayerGetBanStatus len) plugins status).message.bytes 0 ≠ 0 ↔
        (round (.onPlayerGetBanStatus len) others status).message.bytes 0 ≠ 0)) := by
  refine ⟨?_, ?_, ?_, ?_, ?_, ?_, ?_⟩
  · intro message slot mode isShown
    exact Rounds.fold_flag_perm (onMessageSent_hidden message slot mode) perm isShown
  · intro addr isallowed
    have stays : ∀ plugin : LoadedPlugin,
        plugin.handle (.onPlayerWantReservedSlot addr) false = false := by
      intro plugin
      rw [Bool.eq_false_iff]
      intro granted
      exact absurd ((onPlayerWantReservedSlot_out addr (plugin.world, false)).mp granted).1
        Bool.false_ne_true
    exact Rounds.fold_flag_perm stays perm isallowed
  · intro addr data size returnNow
    have stays : ∀ plugin : LoadedPlugin,
        plugin.handle (.onUdpNetEvent addr data size) true = true := fun plugin =>
      (dropPacket_out plugin.linked "OnUdpNetEvent" (.onUdpNetEvent addr data size) ⟨⟩
        (fun answer => answer) (plugin.world, true)).mpr (Or.inl rfl)
    exact Rounds.fold_flag_perm stays perm returnNow
  · intro addr data len returnNow
    have stays : ∀ plugin : LoadedPlugin,
        plugin.handle (.onUdpNetSend addr data len) true = true := fun plugin =>
      (dropPacket_out plugin.linked "OnUdpNetSend" (.onUdpSend addr data len) ⟨⟩
        (fun answer => answer) (plugin.world, true)).mpr (Or.inl rfl)
    exact Rounds.fold_flag_perm stays perm returnNow
  · intro clientnum netaddress userinfo deniedmsg
    simp only [onPlayerConnect_denied, perm.mem_iff]
  · intro addr cl info leaves
    have leavesToo : ∀ plugin ∈ others, plugin.Leaves (.onPlayerGotAuthInfo cl addr) :=
      fun plugin isLoaded => leaves plugin (perm.mem_iff.mpr isLoaded)
    rw [onPlayerGotAuthInfo_denied _ addr cl info leaves,
      onPlayerGotAuthInfo_denied _ addr cl info leavesToo]
    simp only [perm.mem_iff]
  · intro len status leaves
    have leavesToo : ∀ plugin ∈ others, plugin.Leaves .onPlayerGetBanStatus :=
      fun plugin isLoaded => leaves plugin (perm.mem_iff.mpr isLoaded)
    rw [onPlayerGetBanStatus_denied _ len status leaves,
      onPlayerGetBanStatus_denied _ len status leavesToo]
    simp only [perm.mem_iff]

/-- Two plugins that kick for different reasons, in both orders. -/
theorem load_order_two_kicks :
    let message : Buffer := ⟨fun _ => 0, []⟩
    let plugins := [kicking (literal "first"), kicking (literal "second")]
    let others := [kicking (literal "second"), kicking (literal "first")]
    (Buffer.bytes (round (.onPlayerConnect 0 0 []) plugins message) 0 ≠ 0 ↔
      Buffer.bytes (round (.onPlayerConnect 0 0 []) others message) 0 ≠ 0) ∧
    ((round (.onPlayerGetBanStatus 8) plugins ⟨⟨1, 2, 3⟩, message⟩).message.bytes 0 ≠ 0 ↔
      (round (.onPlayerGetBanStatus 8) others ⟨⟨1, 2, 3⟩, message⟩).message.bytes 0 ≠ 0) := by
  intro message plugins others
  obtain ⟨_, _, _, _, connects, _, banned⟩ := load_order plugins others (.swap _ _ [])
  refine ⟨connects 0 0 [] message, banned 8 ⟨⟨1, 2, 3⟩, message⟩ ?_⟩
  intro plugin isLoaded refs
  simp only [plugins, List.mem_cons, List.not_mem_nil, or_false] at isLoaded
  rcases isLoaded with rfl | rfl <;> rfl

end Plugpp
