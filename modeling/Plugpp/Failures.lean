import Plugpp.Answers
import Plugpp.Calls

/-!
# Callbacks that fail, and plugins that do nothing

A callback fails when a virtual function it asks throws, or when no plugin is registered.
Most ask one; `OnPlayerGetBanStatus` asks twice: after `NoKick` it announces that access is
granted, and can fail there. A callback that fails returns to the server all the same: the
console has one more line, which names the callback, no verdict is given, a description is
the library's own, and all else is as the plugin's code left it.

A plugin that overrides no virtual function cannot be told from no plugin at all: its
callbacks return with every out-parameter as it was.
-/

namespace Plugpp

open Bytes Code Exported

namespace EntryPoint

/-- The function name an exported callback reports under. -/
def funcName : EntryPoint → String
  | onInit => "OnInit"
  | onUnload => "OnUnload"
  | onTerminate => "OnTerminate"
  | onPlayerConnect .. => "OnPlayerConnect"
  | onPlayerDC .. => "OnPlayerDC"
  | onPlayerAddBan _ => "OnPlayerAddBan"
  | onPlayerRemoveBan _ => "OnPlayerRemoveBan"
  | onPlayerGotAuthInfo .. => "OnPlayerGotAuthInfo"
  | onPlayerGetBanStatus _ => "OnPlayerGetBanStatus"
  | onInfoRequest => "OnInfoRequest"
  | onMessageSent .. => "OnMessageSent"
  | onPreFastRestart => "OnPreFastRestart"
  | onExitLevel => "OnExitLevel"
  | onPostFastRestart => "OnPostFastRestart"
  | onPreGameRestart _ => "OnPreGameRestart"
  | onPostGameRestart _ => "OnPostGameRestart"
  | onSpawnServer => "OnSpawnServer"
  | onFrame => "OnFrame"
  | onClientSpawn _ => "OnClientSpawn"
  | onClientEnterWorld _ => "OnClientEnterWorld"
  | onClientUserinfoChanged _ => "OnClientUserinfoChanged"
  | onClientCommand .. => "OnClientCommand"
  | onClientMoveCommand .. => "OnClientMoveCommand"
  | onPlayerKilled .. => "OnPlayerKilled"
  | onPlayerWantReservedSlot _ => "OnPlayerWantReservedSlot"
  | onFilesystemStarted _ => "OnFilesystemStarted"
  | onScrUsercallFunction _ => "OnScrUsercallFunction"
  | onScrUsercallMethod .. => "OnScrUsercallMethod"
  | onModuleLoaded .. => "OnModuleLoaded"
  | onScreenshotArrived .. => "OnScreenshotArrived"
  | onUdpNetEvent .. => "OnUdpNetEvent"
  | onUdpNetSend .. => "OnUdpNetSend"
  | trampoline _ => "contextualStaticFunction"

/-- The virtual function a callback asks first in a world, with what it gives by reference;
none if the callback decides without the plugin, or is no callback. -/
def asks {P : Type} (world : World P) :
    (entry : EntryPoint) → entry.Out → Option ((call : VirtualCall) × call.Refs)
  | onInit, _ | onUnload, _ | trampoline _, _ => none
  | onInfoRequest, _ => if world.gEntry.isSome then some ⟨.onPluginInfoRequest, ⟨⟩⟩ else none
  | onTerminate, _ => some ⟨.onTerminate, ⟨⟩⟩
  | onPlayerConnect clientnum netaddress userinfo, deniedmsg =>
    if deniedmsg.bytes 0 = 0 then some ⟨.onPlayerConnect clientnum netaddress userinfo, ⟨⟩⟩
    else none
  | onPlayerDC client reason, _ => some ⟨.onPlayerDisconnect client reason, ⟨⟩⟩
  | onPlayerAddBan baninfo, _ => some ⟨.onPlayerAddBan baninfo, ⟨⟩⟩
  | onPlayerRemoveBan baninfo, _ => some ⟨.onPlayerRemoveBan baninfo, ⟨⟩⟩
  | onPlayerGotAuthInfo addr cl, info =>
    some ⟨.onPlayerGotAuthInfo cl addr, ⟨info.playerid, info.steamid, info.returnNow⟩⟩
  | onPlayerGetBanStatus _, status =>
    if status.message.bytes 0 = 0 then some ⟨.onPlayerGetBanStatus, status.baninfo⟩ else none
  | onMessageSent message slot mode, shown =>
    if shown then
      (message.bind skipControl).bind fun visible =>
        (readText visible).map fun text => ⟨.onMessageSent text slot mode, ⟨⟩⟩
    else none
  | onPreFastRestart, _ => some ⟨.onPreFastRestart, ⟨⟩⟩
  | onExitLevel, _ => some ⟨.onExitLevel, ⟨⟩⟩
  | onPostFastRestart, _ => some ⟨.onPostFastRestart, ⟨⟩⟩
  | onPreGameRestart savepersist, _ => some ⟨.onPreGameRestart savepersist, ⟨⟩⟩
  | onPostGameRestart savepersist, _ => some ⟨.onPostGameRestart savepersist, ⟨⟩⟩
  | onSpawnServer, _ => some ⟨.onSpawnServer, ⟨⟩⟩
  | onFrame, _ => some ⟨.onFrame, ⟨⟩⟩
  | onClientSpawn ent, _ => some ⟨.onClientSpawn ent, ⟨⟩⟩
  | onClientEnterWorld client, _ =>
    some ⟨.onClientEnteredWorld client ((world.env.host.client client).connectedTime ==
      UInt32.ofInt world.env.host.serverTime), ⟨⟩⟩
  | onClientUserinfoChanged client, _ => some ⟨.onClientUserInfoChanged client, ⟨⟩⟩
  | onClientCommand client command, _ => some ⟨.onClientCommand client command, ⟨⟩⟩
  | onClientMoveCommand client ucmd, _ => some ⟨.onClientMoveCommand client ucmd, ⟨⟩⟩
  | onPlayerKilled self inflictor attacker damage meansOfDeath iWeapon hitLocation, _ =>
    some ⟨.onPlayerKilled self inflictor attacker damage meansOfDeath iWeapon hitLocation, ⟨⟩⟩
  | onPlayerWantReservedSlot addr, allowed =>
    if allowed then some ⟨.onPlayerReservedSlotRequest addr, ⟨⟩⟩ else none
  | onFilesystemStarted searchpaths, _ => some ⟨.onFsStarted searchpaths, ⟨⟩⟩
  | onScrUsercallFunction function_name, _ =>
    some ⟨.onScrUsercallFunction function_name.cString, ⟨⟩⟩
  | onScrUsercallMethod method_name clientnum, _ =>
    some ⟨.onScrUsercallMethod method_name.cString clientnum, ⟨⟩⟩
  | onModuleLoaded client fullpath checksum, _ =>
    some ⟨.onModuleLoaded client fullpath.cString checksum, ⟨⟩⟩
  | onScreenshotArrived client path, _ => some ⟨.onScreenshotArrived client path.cString, ⟨⟩⟩
  | onUdpNetEvent addr data size, _ => some ⟨.onUdpNetEvent addr data size, ⟨⟩⟩
  | onUdpNetSend addr data len, _ => some ⟨.onUdpSend addr data len, ⟨⟩⟩

/-- The verdict behind the out-parameters is what it was, and the description of the
library its own. Ids and ban information that are passed on by reference are no verdict. -/
def Undecided {P : Type} (linked : Linked P) : (entry : EntryPoint) → entry.Out → entry.Out → Prop
  | onInfoRequest, _, after => after = defaultInfo linked
  | onPlayerGotAuthInfo .., before, after =>
    after.rejectmsg = before.rejectmsg ∧ after.returnNow = before.returnNow
  | onPlayerGetBanStatus _, before, after => after.message = before.message
  | _, before, after => after = before

end EntryPoint

/-! ## What a callback asks -/

/-- What a callback asks on its way, and in which world: the function it asks first, and
`OnPlayerGetBanStatus` behind the answer `NoKick` the announcement to the client it finds. -/
inductive Asking {P : Type} (linked : Linked P) (world : World P) :
    (entry : EntryPoint) → entry.Out → World P → (call : VirtualCall) → call.Refs → Prop where
  | first {entry : EntryPoint} {out : entry.Out} {call : VirtualCall} {refs : call.Refs}
      (asks : entry.asks world out = some ⟨call, refs⟩) :
      Asking linked world entry out world call refs
  | announcement {len : Int32} {status : BanStatus} {baninfo : BanInfo} {client : Pointer}
      (isEmpty : status.message.bytes 0 = 0)
      (granted : asked linked world .onPlayerGetBanStatus status.baninfo = (.ok none, baninfo))
      (found : bannedClient linked
        (worldAfter linked world .onPlayerGetBanStatus status.baninfo).env.host baninfo =
          some client) :
      Asking linked world (.onPlayerGetBanStatus len) status
        (worldAfter linked world .onPlayerGetBanStatus status.baninfo)
        (.onPlayerAccessGranted client) ⟨⟩

/-- All that an entry point adds to the history of calls it was asking on its way. -/
def CallsAsked {P : Type} (linked : Linked P) (entry : EntryPoint) (world : World P)
    (out : entry.Out) : Prop :=
  ∃ added, (enter linked entry (world, out)).2.1.calls = added ++ world.calls ∧
    ∀ call ∈ added, ∃ before refs, Asking linked world entry out before call refs

section Asked

variable {P : Type} {linked : Linked P} {world : World P} {entry : EntryPoint} {out : entry.Out}

/-- An entry point that calls nothing. -/
theorem callsAsked_nothing (same : (enter linked entry (world, out)).2.1.calls = world.calls) :
    CallsAsked linked entry world out :=
  ⟨[], same, by simp⟩

/-- One that calls at most the function it asks first. -/
theorem callsAsked_atMost {added : List VirtualCall} {call : VirtualCall} {refs : call.Refs}
    (asks : entry.asks world out = some ⟨call, refs⟩)
    (same : (enter linked entry (world, out)).2.1.calls = added ++ world.calls)
    (atMost : AtMost call added) : CallsAsked linked entry world out := by
  refine ⟨added, same, ?_⟩
  rcases atMost with rfl | rfl
  · simp
  · intro made member
    obtain rfl := List.mem_singleton.mp member
    exact ⟨world, refs, .first asks⟩

/-- One that leaves the history as the function it asks first has left it. -/
theorem callsAsked_first {call : VirtualCall} {refs : call.Refs}
    (asks : entry.asks world out = some ⟨call, refs⟩)
    (same : (enter linked entry (world, out)).2.1.calls =
      (worldAfter linked world call refs).calls) : CallsAsked linked entry world out := by
  rcases worldAfter_registered linked world call refs with ⟨_, recorded, _⟩ | ⟨unchanged, _⟩
  · exact @callsAsked_atMost P linked world entry out [call] call refs asks (same.trans recorded)
      (Or.inr rfl)
  · exact callsAsked_nothing (same.trans (by rw [unchanged]))

/-- `OnMessageSent` calls nothing for a hidden message or one that cannot be read. -/
theorem callsAsked_onMessageSent (message : Option Bytes) (slot mode : Int) (shown : Qboolean) :
    CallsAsked linked (.onMessageSent message slot mode) world shown := by
  cases message with
  | none =>
    apply callsAsked_nothing
    simp only [enter, onMessageSent, (doNoexcept_leaves _ _ _ _).2]
    rfl
  | some memory =>
    cases skipped : skipControl memory with
    | none =>
      apply callsAsked_nothing
      simp only [enter, onMessageSent, (doNoexcept_leaves _ _ _ _).2, skipped]
      rfl
    | some visible =>
      cases shown with
      | false =>
        apply callsAsked_nothing
        simp only [enter, onMessageSent, (doNoexcept_leaves _ _ _ _).2, skipped]
        rfl
      | true =>
        cases read : readText visible with
        | none =>
          apply callsAsked_nothing
          simp only [enter, onMessageSent, (doNoexcept_leaves _ _ _ _).2, skipped, read]
          rcases set : world.gEntry with _ | ⟨_ | plugin⟩ <;>
            simp [bind_apply, getPlugin, PluginEntry.getPlugin, set, Except.mapError, raise]
        | some text =>
          have asks : (EntryPoint.onMessageSent (some memory) slot mode).asks world true =
              some ⟨.onMessageSent text slot mode, ⟨⟩⟩ := by
            simp [EntryPoint.asks, skipped, read]
          refine callsAsked_first asks ?_
          simp only [enter, onMessageSent, (doNoexcept_leaves _ _ _ _).2, skipped, read]
          rcases set : world.gEntry with _ | ⟨_ | plugin⟩
          · simp [bind_apply, getPlugin, set, worldAfter]
          · simp [bind_apply, getPlugin, PluginEntry.getPlugin, set, Except.mapError, worldAfter]
          · have loaded : (getPlugin : Exported P Qboolean P) (world, true) =
                (.ok plugin, (world, true)) := by
              simp [getPlugin, PluginEntry.getPlugin, set, Except.mapError]
            simp only [bind_apply, observe_apply, ↓reduceIte, loaded, consult_asked]
            rcases (asked linked world (.onMessageSent text slot mode) ⟨⟩).1 with stop | shown
            · rfl
            · rfl

/-- `OnPlayerGetBanStatus` calls nothing for a player who is denied already, and announces
access to the client it finds only after `NoKick`. -/
theorem callsAsked_onPlayerGetBanStatus (len : Int32) (status : BanStatus) :
    CallsAsked linked (.onPlayerGetBanStatus len) world status := by
  by_cases isEmpty : status.message.bytes 0 = 0
  · have asks : (EntryPoint.onPlayerGetBanStatus len).asks world status =
        some ⟨.onPlayerGetBanStatus, status.baninfo⟩ := by simp [EntryPoint.asks, isEmpty]
    have called : (enter linked (.onPlayerGetBanStatus len) (world, status)).2.1.calls = _ :=
      onPlayerGetBanStatus_calls linked len (world, status) isEmpty
    rcases answer : asked linked world .onPlayerGetBanStatus status.baninfo with
      ⟨stop | _ | reason, baninfo⟩
    · exact callsAsked_first asks (by simpa [answer] using called)
    · cases found : bannedClient linked
          (worldAfter linked world .onPlayerGetBanStatus status.baninfo).env.host baninfo with
      | none => exact callsAsked_first asks (by simpa [answer, found] using called)
      | some client =>
        rcases worldAfter_registered linked world .onPlayerGetBanStatus status.baninfo with
          ⟨_, recorded, _⟩ | ⟨_, unanswered⟩
        · refine ⟨[.onPlayerAccessGranted client, .onPlayerGetBanStatus], ?_, ?_⟩
          · simpa [answer, found, recorded] using called
          · intro call member
            rcases List.mem_pair.mp member with rfl | rfl
            · exact ⟨_, _, .announcement isEmpty answer found⟩
            · exact ⟨_, _, .first asks⟩
        · exact absurd (congrArg Prod.fst answer) (unanswered none)
    · exact callsAsked_first asks (by simpa [answer] using called)
  · apply callsAsked_nothing
    simp only [enter, onPlayerGetBanStatus, bind_apply, observe_apply, beq_iff_eq, isEmpty,
      ↓reduceIte]
    rfl

/-- An entry point calls nothing but what it asks. -/
theorem callsAsked_enter (linked : Linked P) (entry : EntryPoint) (world : World P)
    (out : entry.Out) : CallsAsked linked entry world out := by
  obtain ⟨added, same, allowed⟩ := calls_outcome (calls_enter linked entry) (world, out)
  cases entry with
  | onInit | onUnload | trampoline _ =>
    obtain rfl : added = [] := allowed
    exact callsAsked_nothing same
  | onPlayerConnect clientnum netaddress userinfo =>
    by_cases isEmpty : out.bytes 0 = 0
    · have asks : (EntryPoint.onPlayerConnect clientnum netaddress userinfo).asks world out =
          some ⟨.onPlayerConnect clientnum netaddress userinfo, ⟨⟩⟩ := by
        simp only [EntryPoint.asks, isEmpty, ↓reduceIte]
      exact callsAsked_atMost asks same allowed
    · apply callsAsked_nothing
      simp only [enter, onPlayerConnect, bind_apply, observe_apply, beq_iff_eq, isEmpty, ↓reduceIte]
      rfl
  | onPlayerGetBanStatus len => exact callsAsked_onPlayerGetBanStatus len out
  | onInfoRequest =>
    cases present : world.gEntry with
    | none =>
      apply callsAsked_nothing
      rw [enter, onInfoRequest_absent present]
    | some entry =>
      have asks : EntryPoint.onInfoRequest.asks world out = some ⟨.onPluginInfoRequest, ⟨⟩⟩ := by
        simp only [EntryPoint.asks, present, Option.isSome_some, ↓reduceIte]
      exact callsAsked_atMost asks same allowed
  | onMessageSent message slot mode => exact callsAsked_onMessageSent message slot mode out
  | onClientEnterWorld client =>
    refine callsAsked_first rfl ?_
    simp only [enter, onClientEnterWorld, (doNoexcept_leaves _ _ _ _).2, bind_apply, observe_apply,
      consult_asked]
  | onPlayerWantReservedSlot addr =>
    cases out with
    | false => exact callsAsked_nothing rfl
    | true => exact callsAsked_atMost rfl same allowed
  | _ => exact callsAsked_atMost rfl same allowed

end Asked

/-! ## Failures -/

variable {P Out α : Type} {linked : Linked P}

/-- The world after a failed callback: what the asked function left, and a line on the
console. -/
def reported (linked : Linked P) (entry : EntryPoint) (world : World P) (call : VirtualCall)
    (refs : call.Refs) (exception : Thrown) : World P :=
  { worldAfter linked world call refs with
    env := pluginPrintf (reportLine (literal entry.funcName) exception)
      (worldAfter linked world call refs).env }

/-- What is thrown inside `doNoexcept` becomes a line on the console. -/
theorem doNoexcept_throws {callable : Exported P Out α} {state after : World P × Out}
    {exception : Thrown} (thrown : callable state = (.error (.thrown exception), after))
    (funcName : Bytes) (callableError : α) :
    doNoexcept funcName callable callableError state =
      (.ok callableError, ({ after.1 with
        env := pluginPrintf (reportLine funcName exception) after.1.env }, after.2)) := by
  simp [doNoexcept, recover, thrown, report, bind_apply, print]

/-- What a virtual function throws skips the rest of the callback. -/
theorem consult_throws {call : VirtualCall} {refs : call.Refs} {state : World P × Out}
    {exception : Thrown} (failed : (asked linked state.1 call refs).1 = .error (.thrown exception))
    (next : call.Result → Exported P Out α) :
    (consult linked call refs >>= next) state =
      (.error (.thrown exception), (worldAfter linked state.1 call refs, state.2)) := by
  simp [bind_apply, consult_asked, failed]

theorem invoke_throws {call : VirtualCall} {refs : Out → call.Refs}
    {written : call.Refs → Out → Out} {state : World P × Out} {exception : Thrown}
    (kept : written (refs state.2) state.2 = state.2)
    (failed : (asked linked state.1 call (refs state.2)).1 = .error (.thrown exception))
    (next : call.Result × call.Refs → Exported P Out α) :
    (invoke linked call refs written >>= next) state =
      (.error (.thrown exception), (worldAfter linked state.1 call (refs state.2),
        written (asked linked state.1 call (refs state.2)).2 state.2)) := by
  rw [bind_apply, invoke_asked call refs written state kept, failed]
  rfl

/-- A forwarding callback that fails. -/
theorem forward_fails {funcName : String} {call : VirtualCall} {refs : call.Refs}
    {state : World P × Out} {exception : Thrown}
    (failed : (asked linked state.1 call refs).1 = .error (.thrown exception)) :
    forward linked funcName call refs state =
      (.ok ⟨⟩, ({ worldAfter linked state.1 call refs with
        env := pluginPrintf (reportLine (literal funcName) exception)
          (worldAfter linked state.1 call refs).env }, state.2)) :=
  doNoexcept_throws (consult_throws failed _) _ _

/-- `OnMessageSent` fails with the text it has found. Without a plugin it fails before it
has made the text of it, in the same way. -/
theorem onMessageSent_fails {message : Option Bytes} {slot mode : Int} {world : World P}
    {visible text : Bytes} (skipped : message.bind skipControl = some visible)
    (read : readText visible = some text) {exception : Thrown}
    (failed : (asked linked world (.onMessageSent text slot mode) ⟨⟩).1 =
      .error (.thrown exception)) :
    onMessageSent linked message slot mode (world, true) =
      (.ok ⟨⟩, ({ worldAfter linked world (.onMessageSent text slot mode) ⟨⟩ with
        env := pluginPrintf (reportLine (literal "OnMessageSent") exception)
          (worldAfter linked world (.onMessageSent text slot mode) ⟨⟩).env }, true)) := by
  obtain ⟨memory, rfl, found⟩ := Option.bind_eq_some_iff.mp skipped
  refine @doNoexcept_throws P Qboolean Unit _ (world, true)
    (worldAfter linked world (.onMessageSent text slot mode) ⟨⟩, true) exception ?_ _ _
  rcases set : world.gEntry with _ | ⟨_ | plugin⟩
  · simp [asked, set] at failed
  · simp only [asked, set] at failed
    simpa [found, read, bind_apply, getPlugin, PluginEntry.getPlugin, set, worldAfter,
      Except.mapError] using failed
  · have registered : (getPlugin : Exported P Qboolean P) (world, true) = (.ok plugin, (world, true)) := by
      simp [getPlugin, PluginEntry.getPlugin, set, Except.mapError]
    simp [found, read, bind_apply, registered, consult_asked, failed]

/-- `OnInfoRequest` fails with the description of the library written. -/
theorem onInfoRequest_fails {world : World P} {out : PluginInfoFields}
    (present : world.gEntry.isSome = true) {exception : Thrown}
    (failed : (asked linked world .onPluginInfoRequest ⟨⟩).1 = .error (.thrown exception)) :
    onInfoRequest linked (world, out) =
      (.ok ⟨⟩, ({ worldAfter linked world .onPluginInfoRequest ⟨⟩ with
        env := pluginPrintf (reportLine (literal "OnInfoRequest") exception)
          (worldAfter linked world .onPluginInfoRequest ⟨⟩).env }, defaultInfo linked)) := by
  refine @doNoexcept_throws P PluginInfoFields Unit _ (world, defaultInfo linked)
    (worldAfter linked world .onPluginInfoRequest ⟨⟩, defaultInfo linked) exception ?_ _ _
  simp only [bind_apply, observe_apply, present, ↓reduceIte]
  exact consult_throws failed _

/-- What the announcement throws leaves `grantAccess`. -/
theorem grantAccess_fails {world : World P} {status : BanStatus} {client : Pointer}
    (found : bannedClient linked world.env.host status.baninfo = some client) {exception : Thrown}
    (failed : (asked linked world (.onPlayerAccessGranted client) ⟨⟩).1 =
      .error (.thrown exception)) :
    grantAccess linked (world, status) =
      (.error (.thrown exception),
        (worldAfter linked world (.onPlayerAccessGranted client) ⟨⟩, status)) := by
  simp only [grantAccess, bind_apply, observe_apply, found, consult_asked, failed]

/-- A callback that fails at the function it asks first. -/
theorem first_fails (linked : Linked P) (entry : EntryPoint) (world : World P)
    (out : entry.Out) (call : VirtualCall) (refs : call.Refs) (exception : Thrown)
    (asking : entry.asks world out = some ⟨call, refs⟩)
    (failed : (asked linked world call refs).1 = .error (.thrown exception)) :
    ∃ value after, enter linked entry (world, out) =
        (.ok value, (reported linked entry world call refs exception, after)) ∧
      entry.Undecided linked out after := by
  cases entry with
  | onInit | onUnload | trampoline _ => cases asking
  | onInfoRequest =>
    by_cases present : world.gEntry.isSome = true
    · simp only [EntryPoint.asks, present, ↓reduceIte] at asking
      cases asking
      exact ⟨⟨⟩, defaultInfo linked, onInfoRequest_fails present failed, rfl⟩
    · simp [EntryPoint.asks, present] at asking
  | onPlayerConnect clientnum netaddress userinfo =>
    by_cases isEmpty : out.bytes 0 = 0
    · simp only [EntryPoint.asks, isEmpty, ↓reduceIte] at asking
      cases asking
      refine ⟨⟨⟩, out, ?_, rfl⟩
      simp only [enter, onPlayerConnect, bind_apply, observe_apply, isEmpty, beq_self_eq_true,
        ↓reduceIte]
      exact doNoexcept_throws (consult_throws failed _) _ _
    · simp [EntryPoint.asks, isEmpty] at asking
  | onPlayerGotAuthInfo addr cl =>
    cases asking
    let refs := (asked linked world (.onPlayerGotAuthInfo cl addr)
      ⟨out.playerid, out.steamid, out.returnNow⟩).2
    refine ⟨⟨⟩, { out with playerid := refs.playerid, steamid := refs.steamid }, ?_, rfl, rfl⟩
    simp only [enter, onPlayerGotAuthInfo, beq_true]
    exact doNoexcept_throws (invoke_throws rfl failed _) _ _
  | onPlayerGetBanStatus len =>
    by_cases isEmpty : out.message.bytes 0 = 0
    · simp only [EntryPoint.asks, isEmpty, ↓reduceIte] at asking
      cases asking
      refine ⟨⟨⟩, { out with baninfo := (asked linked world .onPlayerGetBanStatus out.baninfo).2 },
        ?_, rfl⟩
      simp only [enter, onPlayerGetBanStatus, bind_apply, observe_apply, isEmpty,
        beq_self_eq_true, ↓reduceIte]
      exact doNoexcept_throws (invoke_throws rfl failed _) _ _
    · simp [EntryPoint.asks, isEmpty] at asking
  | onMessageSent message slot mode =>
    cases out with
    | false => simp [EntryPoint.asks] at asking
    | true =>
      simp only [EntryPoint.asks, ↓reduceIte, Option.bind_eq_some_iff, Option.map_eq_some_iff]
        at asking
      obtain ⟨visible, skipped, text, read, same⟩ := asking
      cases same
      exact ⟨⟨⟩, true, onMessageSent_fails (Option.bind_eq_some_iff.mpr skipped) read failed, rfl⟩
  | onPlayerWantReservedSlot addr =>
    cases out with
    | false => simp [EntryPoint.asks] at asking
    | true =>
      simp only [EntryPoint.asks, ↓reduceIte] at asking
      cases asking
      refine ⟨⟨⟩, true, ?_, rfl⟩
      exact doNoexcept_throws (consult_throws failed _) _ _
  | onClientEnterWorld client =>
    cases asking
    refine ⟨⟨⟩, out, ?_, rfl⟩
    refine @doNoexcept_throws P Unit Unit _ (world, out)
      (worldAfter linked world (.onClientEnteredWorld client _) ⟨⟩, out) exception ?_ _ _
    simp [bind_apply, consult_asked, failed]
  | onUdpNetEvent addr data size =>
    cases asking
    exact ⟨⟨⟩, out, doNoexcept_throws (consult_throws failed _) _ _, rfl⟩
  | onUdpNetSend addr data len =>
    cases asking
    exact ⟨⟨⟩, out, doNoexcept_throws (consult_throws failed _) _ _, rfl⟩
  | _ =>
    cases asking
    exact ⟨⟨⟩, out, forward_fails failed, rfl⟩

/-- A callback that fails, at whichever function it asks. -/
theorem asking_fails {entry : EntryPoint} {world : World P} {out : entry.Out} {before : World P}
    {call : VirtualCall} {refs : call.Refs} (asking : Asking linked world entry out before call refs)
    {exception : Thrown} (failed : (asked linked before call refs).1 = .error (.thrown exception)) :
    ∃ value after, enter linked entry (world, out) =
        (.ok value, (reported linked entry before call refs exception, after)) ∧
      entry.Undecided linked out after := by
  cases asking with
  | first asks => exact first_fails linked entry world out call refs exception asks failed
  | @announcement len status baninfo client isEmpty granted found =>
    refine ⟨⟨⟩, { status with baninfo := baninfo }, ?_, rfl⟩
    simp only [enter, onPlayerGetBanStatus, bind_apply, observe_apply, isEmpty,
      beq_self_eq_true, ↓reduceIte]
    refine @doNoexcept_throws P BanStatus Unit _ (world, status)
      (worldAfter linked _ (.onPlayerAccessGranted client) ⟨⟩, { status with baninfo := baninfo })
      exception ?_ _ _
    rw [bind_apply, invoke_asked _ _ _ _ (by rfl), granted]
    exact grantAccess_fails found failed

/-- An entry point calls no virtual function but those it asks, and where any of these
fails, it returns: the world is the one the asked function left with one more line on the
console, and there is no verdict and no description of the plugin's. -/
theorem failed_callback (linked : Linked P) (entry : EntryPoint) (world : World P)
    (out : entry.Out) :
    CallsAsked linked entry world out ∧
    ∀ (before : World P) (call : VirtualCall) (refs : call.Refs) (exception : Thrown),
      Asking linked world entry out before call refs →
      (asked linked before call refs).1 = .error (.thrown exception) →
      ∃ value after, enter linked entry (world, out) =
          (.ok value, (reported linked entry before call refs exception, after)) ∧
        entry.Undecided linked out after :=
  ⟨callsAsked_enter linked entry world out, fun _ _ _ _ asking failed => asking_fails asking failed⟩

/-- Answers of a plugin that throws when it is told that access is granted. -/
def throwsWhenGranted : (call : VirtualCall) → Except Thrown call.Result
  | .onPlayerAccessGranted _ => .error .unknown
  | call => .ok call.default

/-- Its `OnPlayerGetBanStatus` returns with the message still empty, and a line on the
console says that it failed. -/
theorem failed_callback_announcement :
    let linked : Linked Unit := fixed throwsWhenGranted (.ok ())
    let world := loadedWorld (Command.initial 1 fun _ => none) [some 7] fun _ => ⟨1, 5, 0, [], 0, 0⟩
    let status : BanStatus := ⟨⟨5, 0, 0⟩, ⟨fun _ => 0, []⟩⟩
    let after := enter linked (.onPlayerGetBanStatus 8) (world, status)
    after.2.2.message = status.message ∧ after.2.1.env.host.console =
      [reportLine (literal "OnPlayerGetBanStatus") .unknown] := by
  intro linked world status after
  obtain ⟨value, out, went, undecided⟩ := (failed_callback linked (.onPlayerGetBanStatus 8) world
    status).2 _ (.onPlayerAccessGranted 7) ⟨⟩ .unknown (.announcement rfl rfl rfl) rfl
  simp only [after, went]
  exact ⟨undecided, rfl⟩

/-! ## Plugins that override nothing -/

/-- The virtual functions are those of the class `Plugin`. -/
def Inherits (linked : Linked P) : Prop :=
  ∀ call state, linked.virtual call state = (.ok call.default, state)

/-- The callback returns with its out-parameters and the plugin as they were, and leaves
the world to itself, up to the record of calls and lines on the console, which only
`OnPlayerGetBanStatus` prints. -/
def Invisible (linked : Linked P) (entry : EntryPoint) (world : World P) (out : entry.Out) :
    Prop :=
  ∃ value calls lines, enter linked entry (world, out) =
      (.ok value, ({ world with
        env := ⟨world.env.commands,
          { world.env.host with console := world.env.host.console ++ lines }⟩
        calls := calls }, out)) ∧
    (lines = [] ∨ ∃ len, entry = .onPlayerGetBanStatus len)

section Inherited

variable {world : World P} {plugin : P}

/-- A plugin that overrides nothing gives the default answer and leaves what it is given. -/
theorem asked_inherited (inherits : Inherits linked) (registered : world.gEntry = some ⟨some plugin⟩)
    (call : VirtualCall) (refs : call.Refs) :
    asked linked world call refs = (.ok call.default, refs) ∧
      worldAfter linked world call refs = { world with calls := call :: world.calls } := by
  obtain ⟨env, gEntry, entries, calls⟩ := world
  simp only at registered
  subst registered
  have answer := inherits call (refs, plugin, env)
  simp [asked, worldAfter, answer, Except.mapError]

/-- A callback is invisible if it only records its calls. -/
theorem invisible_of_calls {entry : EntryPoint} {out : entry.Out} (value : entry.Returned)
    (calls : List VirtualCall)
    (went : enter linked entry (world, out) = (.ok value, ({ world with calls := calls }, out))) :
    Invisible linked entry world out :=
  ⟨value, calls, [], by simpa using went, Or.inl rfl⟩

/-- What `doNoexcept` returns is what its body returns. -/
theorem doNoexcept_returns {callable : Exported P Out α} {state after : World P × Out} {value : α}
    (returned : callable state = (.ok value, after)) (funcName : Bytes) (callableError : α) :
    doNoexcept funcName callable callableError state = (.ok value, after) := by
  simp [doNoexcept, recover, returned]

theorem forward_inherited (inherits : Inherits linked)
    (registered : world.gEntry = some ⟨some plugin⟩) (funcName : String) (call : VirtualCall)
    (refs : call.Refs) (out : Out) :
    forward linked funcName call refs (world, out) =
      (.ok ⟨⟩, ({ world with calls := call :: world.calls }, out)) := by
  obtain ⟨answer, after⟩ := asked_inherited inherits registered call refs
  apply doNoexcept_returns
  simp [bind_apply, consult_asked, answer, after]

/-- What `OnPlayerGetBanStatus` does without a kick is to announce, or to print a line. -/
theorem grantAccess_inherited (inherits : Inherits linked)
    (registered : world.gEntry = some ⟨some plugin⟩) (status : BanStatus) :
    ∃ calls lines, grantAccess linked (world, status) =
      (.ok ⟨⟩, ({ world with
        env := ⟨world.env.commands,
          { world.env.host with console := world.env.host.console ++ lines }⟩
        calls := calls }, status)) := by
  simp only [grantAccess, bind_apply, observe_apply]
  cases bannedClient linked world.env.host status.baninfo with
  | none => exact ⟨world.calls, _, rfl⟩
  | some client =>
    obtain ⟨answer, after⟩ := asked_inherited inherits registered (.onPlayerAccessGranted client) ⟨⟩
    refine ⟨.onPlayerAccessGranted client :: world.calls, [], ?_⟩
    simp [consult_asked, answer, after, VirtualCall.default]

end Inherited

/-- Every callback of a plugin that overrides nothing is invisible: it returns, with every
out-parameter as it was. The message of `OnMessageSent` must be there and readable. -/
theorem inherited_callback (linked : Linked P) (inherits : Inherits linked) (entry : EntryPoint)
    (callback : entry.IsCallback) (readable : entry.Readable)
    (given : ∀ slot mode, entry ≠ .onMessageSent none slot mode) (world : World P) (plugin : P)
    (registered : world.gEntry = some ⟨some plugin⟩) (out : entry.Out) :
    Invisible linked entry world out := by
  have default := fun call refs => asked_inherited inherits registered call refs
  cases entry with
  | onInit | onUnload | onInfoRequest | trampoline _ => exact callback.elim
  | onPlayerConnect clientnum netaddress userinfo =>
    by_cases isEmpty : out.bytes 0 = 0
    · refine invisible_of_calls ⟨⟩ (.onPlayerConnect clientnum netaddress userinfo :: world.calls) ?_
      simp only [enter, onPlayerConnect, bind_apply, observe_apply, isEmpty, beq_self_eq_true,
        ↓reduceIte]
      apply doNoexcept_returns
      rw [bind_apply, consult_asked, (default _ _).1, (default _ _).2]
      rfl
    · refine invisible_of_calls ⟨⟩ world.calls ?_
      simp only [enter, onPlayerConnect, bind_apply, observe_apply, beq_iff_eq, isEmpty,
        ↓reduceIte]
      rfl
  | onPlayerGotAuthInfo addr cl =>
    obtain ⟨playerid, steamid, rejectmsg, returnNow⟩ := out
    refine invisible_of_calls ⟨⟩ (.onPlayerGotAuthInfo cl addr :: world.calls) ?_
    apply doNoexcept_returns
    rw [bind_apply, invoke_asked _ _ _ _ (by rfl), (default _ _).1, (default _ _).2]
    simp [Except.map, VirtualCall.default, writeOut]
  | onPlayerGetBanStatus len =>
    by_cases isEmpty : out.message.bytes 0 = 0
    · let after : World P := { world with calls := .onPlayerGetBanStatus :: world.calls }
      have still : after.gEntry = some ⟨some plugin⟩ := registered
      obtain ⟨calls, lines, granted⟩ := grantAccess_inherited inherits still out
      refine ⟨⟨⟩, calls, lines, ?_, Or.inr ⟨len, rfl⟩⟩
      simp only [enter, onPlayerGetBanStatus, bind_apply, observe_apply, isEmpty,
        beq_self_eq_true, ↓reduceIte]
      apply doNoexcept_returns
      rw [bind_apply, invoke_asked _ _ _ _ (by rfl), (default _ _).1, (default _ _).2]
      exact granted
    · refine invisible_of_calls ⟨⟩ world.calls ?_
      simp only [enter, onPlayerGetBanStatus, bind_apply, observe_apply, beq_iff_eq, isEmpty,
        ↓reduceIte]
      rfl
  | onMessageSent message slot mode =>
    cases message with
    | none => exact absurd rfl (given slot mode)
    | some memory =>
      obtain ⟨visible, text, found, read⟩ := readable memory rfl
      cases out with
      | false =>
        refine invisible_of_calls ⟨⟩ world.calls ?_
        apply doNoexcept_returns
        simp [found, bind_apply, writeOut]
      | true =>
        refine invisible_of_calls ⟨⟩ (.onMessageSent text slot mode :: world.calls) ?_
        apply doNoexcept_returns
        have loaded : (getPlugin : Exported P Qboolean P) (world, true) = (.ok plugin, (world, true)) := by
          simp [getPlugin, PluginEntry.getPlugin, registered, Except.mapError]
        simp [found, read, bind_apply, loaded, consult_asked, default, VirtualCall.default, writeOut]
  | onPlayerWantReservedSlot addr =>
    cases out with
    | false => exact invisible_of_calls ⟨⟩ world.calls rfl
    | true =>
      refine invisible_of_calls ⟨⟩ (.onPlayerReservedSlotRequest addr :: world.calls) ?_
      apply doNoexcept_returns
      simp [bind_apply, consult_asked, default, VirtualCall.default, writeOut]
  | onClientEnterWorld client =>
    let firstTime := (world.env.host.client client).connectedTime ==
      UInt32.ofInt world.env.host.serverTime
    refine invisible_of_calls ⟨⟩ (.onClientEnteredWorld client firstTime :: world.calls) ?_
    apply doNoexcept_returns
    simp only [bind_apply, observe_apply, consult_asked, default]
    rfl
  | onUdpNetEvent addr data size =>
    refine invisible_of_calls ⟨⟩ (.onUdpNetEvent addr data size :: world.calls) ?_
    apply doNoexcept_returns
    simp [bind_apply, consult_asked, default, VirtualCall.default, writeOut]
  | onUdpNetSend addr data len =>
    refine invisible_of_calls ⟨⟩ (.onUdpSend addr data len :: world.calls) ?_
    apply doNoexcept_returns
    simp [bind_apply, consult_asked, default, VirtualCall.default, writeOut]
  | _ => exact invisible_of_calls ⟨⟩ _ (forward_inherited inherits registered _ _ _ _)

/-- A plugin that overrides nothing lets a player have the reserved slot he was allowed. -/
theorem inherited_callback_reserved :
    Invisible (fixed (fun call => .ok call.default) (.ok ())) (.onPlayerWantReservedSlot 3)
      (loadedWorld (Command.initial 1 fun _ => none) [] anyone) true :=
  inherited_callback _ (fun _ _ => rfl) (.onPlayerWantReservedSlot 3) trivial trivial (by simp) _ ⟨⟩
    rfl true

end Plugpp
