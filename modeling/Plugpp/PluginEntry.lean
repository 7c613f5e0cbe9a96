import Plugpp.Buffers
import Plugpp.Plugin

/-!
# The exported callbacks

The server calls the library at its exported C functions and at the trampolines
of commands. The exported functions run the registered plugin's virtual function
inside `doNoexcept`, which turns an exception into a line on the console. The
callbacks that only forward are one definition applied to each one's own virtual
call.

The world of one library is what the plugin code shares with it, the global
`gEntry`, and two records kept for the statements about runs: when a `PluginEntry`
was built or died, and which virtual functions were called. An exported function
works on its world and on the memory behind its out-parameters.
-/

namespace Plugpp

open Bytes Code

/-- The beginning and the end of a `PluginEntry`. -/
inductive EntryEvent where
  | built
  | died
deriving DecidableEq

/-- The state of the library with its plugin, and the records, latest first. -/
structure World (P : Type) where
  env : Env
  gEntry : Option (PluginEntry P)
  entries : List EntryEvent
  calls : List VirtualCall

/-- Code of the library over its world and the memory behind its out-parameters. -/
abbrev Exported (P Out α : Type) := Code Stop (World P × Out) α

/-- The texts and versions in a `pluginInfo_t`. -/
structure PluginInfoFields where
  handlerVersion : Int × Int
  pluginVersion : Int × Int
  fullName : Bytes
  shortDescription : Bytes
  longDescription : Bytes
deriving DecidableEq

/-- The memory behind the out-parameters of `OnPlayerGotAuthInfo`. -/
structure AuthInfo where
  playerid : UInt64
  steamid : UInt64
  rejectmsg : Buffer
  returnNow : Qboolean

/-- The memory behind the pointers of `OnPlayerGetBanStatus`. -/
structure BanStatus where
  baninfo : BanInfo
  message : Buffer

section Machinery

variable {P Out α : Type}

/-- `Plugin_Printf` from inside the library. -/
def print (text : Bytes) : Exported P Out Unit :=
  update fun state => ({ state.1 with env := pluginPrintf text state.1.env }, state.2)

/-- Write the out-parameters. -/
def writeOut (change : Out → Out) : Exported P Out Unit :=
  update fun state => (state.1, change state.2)

/-- The line that `doNoexcept` prints for an exception. -/
def reportLine (funcName : Bytes) : Thrown → Bytes
  | .exception what =>
    literal "^1Exception raised in " ++ funcName ++ literal ": " ++ what.cString ++ literal "\n"
  | .unknown =>
    literal "^1Unknown exception raised in " ++ funcName ++ literal " during plugin loading\n"

/-- The handlers of `doNoexcept`. They do not catch an operation without a meaning. -/
def report (funcName : Bytes) (callableError : α) : Stop → Exported P Out α
  | .thrown exception => do
    print (reportLine funcName exception)
    pure callableError
  | .fault fault => raise (.fault fault)

/-- `doNoexcept` with the value of `callableError`. -/
def doNoexcept (funcName : Bytes) (callable : Exported P Out α) (callableError : α) :
    Exported P Out α :=
  callable.recover (report funcName callableError)

/-- `PluginEntry::getPlugin`. -/
def PluginEntry.getPlugin (entry : PluginEntry P) : Except Thrown P :=
  match entry.mPlugin with
  | none => .error (.exception (literal "No plugin registered"))
  | some plugin => .ok plugin

/-- `gEntry->getPlugin()`. -/
def getPlugin : Exported P Out P := fun state =>
  match state.1.gEntry with
  | none => (.error (.fault .nullEntry), state)
  | some entry => (entry.getPlugin.mapError .thrown, state)

/-- A virtual call on `gEntry->getPlugin()`. What the plugin is given by reference is
taken from the out-parameters and written back there even if the plugin throws; on
a return the caller gets it as well, for what is a local variable of the caller. -/
def invoke (linked : Linked P) (call : VirtualCall) (refs : Out → call.Refs)
    (written : call.Refs → Out → Out) : Exported P Out (call.Result × call.Refs) := do
  let plugin ← getPlugin
  fun state =>
    let called := linked.virtual call (refs state.2, plugin, state.1.env)
    ((called.1.map fun result => (result, called.2.1)).mapError .thrown,
      ({ state.1 with
          env := called.2.2.2
          gEntry := some ⟨some called.2.2.1⟩
          calls := call :: state.1.calls },
        written called.2.1 state.2))

/-- A virtual call that is given nothing by reference that the library reads again. -/
def consult (linked : Linked P) (call : VirtualCall) (refs : call.Refs) :
    Exported P Out call.Result := do
  let answer ← invoke linked call (fun _ => refs) (fun _ out => out)
  pure answer.1

/-- A callback that does nothing but call a virtual function. -/
def forward (linked : Linked P) (funcName : String) (call : VirtualCall) (refs : call.Refs) :
    Exported P Out Unit :=
  doNoexcept (literal funcName) (do let _ ← consult linked call refs) ⟨⟩

/-- The line the constructor of a `PluginEntry` prints. -/
def constructedLine : Bytes := literal "^2Plugin entry constructed\n"

/-- The line the destructor prints. -/
def destroyedLine : Bytes := literal "^2Plugin entry destroyed\n"

/-- What destroys the member `mPlugin` of an entry. -/
def PluginEntry.release (linked : Linked P) (entry : PluginEntry P) (env : Env) : Env :=
  match entry.mPlugin with
  | some plugin => linked.destroy plugin env
  | none => env

/-- `PluginEntry::registerPlugin`, for plugins that a constructor builds up from the
empty object. The new plugin is built before the old one is destroyed; when the
constructor throws, what is built of it is destroyed and the old one stays. -/
def PluginEntry.registerPlugin (linked : Linked P) (empty : P)
    (constructor : Code Thrown (P × Env) Unit) : Code Thrown (PluginEntry P × Env) Unit :=
  fun (entry, env) =>
    match constructor (empty, env) with
    | (.ok _, plugin, env) => (.ok ⟨⟩, ⟨some plugin⟩, entry.release linked env)
    | (.error exception, unfinished, env) =>
      (.error exception, entry, linked.destroy unfinished env)

/-- `new plugpp::PluginEntry()`. When `pluginMain` throws, the constructor has not
finished: the member is destroyed, the destructor of the entry does not run. -/
def newPluginEntry (linked : Linked P) : Exported P Out (PluginEntry P) := do
  print constructedLine
  fun state =>
    match linked.pluginMain (⟨none⟩, state.1.env) with
    | (.ok _, entry, env) =>
      (.ok entry, ({ state.1 with env := env, entries := .built :: state.1.entries }, state.2))
    | (.error exception, entry, env) =>
      (.error (.thrown exception), ({ state.1 with
        env := entry.release linked env
        entries := .died :: .built :: state.1.entries }, state.2))

/-- `delete gEntry`: the destructor prints, then the member is destroyed. -/
def deleteEntry (linked : Linked P) (entry : PluginEntry P) : Exported P Out Unit := do
  print destroyedLine
  update fun state => ({ state.1 with
    env := entry.release linked state.1.env
    entries := .died :: state.1.entries }, state.2)

/-- The entry of a `pluginMain` that returned. -/
theorem newPluginEntry_returns {linked : Linked P} {state : World P × Out}
    {entry : PluginEntry P} {env : Env}
    (main : linked.pluginMain (⟨none⟩, pluginPrintf constructedLine state.1.env) =
      (.ok ⟨⟩, entry, env)) :
    newPluginEntry linked state = (.ok entry, ({ state.1 with
      env := env, entries := .built :: state.1.entries }, state.2)) := by
  simp only [newPluginEntry, print, bind_apply, update_apply, main]

/-- The end of the entry of a `pluginMain` that threw. -/
theorem newPluginEntry_throws {linked : Linked P} {state : World P × Out}
    {entry : PluginEntry P} {env : Env} {exception : Thrown}
    (main : linked.pluginMain (⟨none⟩, pluginPrintf constructedLine state.1.env) =
      (.error exception, entry, env)) :
    newPluginEntry linked state = (.error (.thrown exception), ({ state.1 with
      env := entry.release linked env
      entries := .died :: .built :: state.1.entries }, state.2)) := by
  simp only [newPluginEntry, print, bind_apply, update_apply, main]

/-- Assign `gEntry`. -/
def setEntry (entry : Option (PluginEntry P)) : Exported P Out Unit :=
  update fun state => ({ state.1 with gEntry := entry }, state.2)

end Machinery

namespace Exported

section Callbacks

variable {P Out : Type} (linked : Linked P)

/-- `OnInit`. -/
def onInit : Exported P Out Int :=
  doNoexcept (literal "OnInit") (do
    match ← observe fun state => state.1.gEntry with
    | some entry => setEntry (some entry)
    | none => do
      let entry ← newPluginEntry linked
      setEntry (some entry)
    if (← observe fun state => state.1.gEntry.isNone) then
      print (literal "^1Failed to initialize plugin entry\n")
      pure (-1)
    else pure 0) (-1)

/-- `OnUnload`. -/
def onUnload : Exported P Out Unit :=
  doNoexcept (literal "OnUnload") (do
    match ← observe fun state => state.1.gEntry with
    | some entry => do
      deleteEntry linked entry
      setEntry none
    | none => pure ⟨⟩) ⟨⟩

/-- `OnTerminate`. -/
def onTerminate : Exported P Out Unit := forward linked "OnTerminate" .onTerminate ⟨⟩

/-- `OnPlayerConnect`. The arguments it ignores are left out. -/
def onPlayerConnect (clientnum : Int) (netaddress : Pointer) (userinfo : Bytes) :
    Exported P Buffer Unit := do
  if (← observe fun state => state.2.bytes 0 == 0) then
    doNoexcept (literal "OnPlayerConnect") (do
      match ← consult linked (.onPlayerConnect clientnum netaddress userinfo) ⟨⟩ with
      | some reason => writeOut fun deniedmsg => deniedmsg.strcpy reason
      | none => pure ⟨⟩) ⟨⟩

/-- `OnPlayerDC`. -/
def onPlayerDC (client : Pointer) (reason : Bytes) : Exported P Out Unit :=
  forward linked "OnPlayerDC" (.onPlayerDisconnect client reason) ⟨⟩

/-- `OnPlayerAddBan`. -/
def onPlayerAddBan (baninfo : Pointer) : Exported P Out Unit :=
  forward linked "OnPlayerAddBan" (.onPlayerAddBan baninfo) ⟨⟩

/-- `OnPlayerRemoveBan`. -/
def onPlayerRemoveBan (baninfo : Pointer) : Exported P Out Unit :=
  forward linked "OnPlayerRemoveBan" (.onPlayerRemoveBan baninfo) ⟨⟩

/-- `rejectMsgSize`. -/
def rejectMsgSize : Nat := 1024

/-- `OnPlayerGotAuthInfo`. The ids are passed on by reference, `returnNowNative` is a
local variable. -/
def onPlayerGotAuthInfo (addr cl : Pointer) : Exported P AuthInfo Unit :=
  doNoexcept (literal "OnPlayerGotAuthInfo") (do
    let (kick, refs) ← invoke linked (.onPlayerGotAuthInfo cl addr)
      (fun out : AuthInfo => ⟨out.playerid, out.steamid, out.returnNow == true⟩)
      (fun refs out => { out with playerid := refs.playerid, steamid := refs.steamid })
    match kick with
    | some reason =>
      writeOut fun out =>
        if out.rejectmsg.bytes 0 = 0 then
          { out with rejectmsg := out.rejectmsg.strncpy reason (rejectMsgSize - 1) }
        else out
    | none => pure ⟨⟩
    writeOut fun out => { out with returnNow := if refs.returnNow then true else false }) ⟨⟩

/-- The loop of `OnPlayerGetBanStatus` over the slots: the first client that has the
ids and the address of the ban. -/
def bannedClient (host : Host) (baninfo : BanInfo) : Option Pointer :=
  host.slots.findSome? fun slot => slot.filter fun cl =>
    (host.client cl).playerid = baninfo.playerid ∧ (host.client cl).steamid = baninfo.steamid ∧
      linked.compareAdr (host.client cl).remoteAddress baninfo.adr = true

/-- What `OnPlayerGetBanStatus` does without a kick: `onPlayerAccessGranted` on the
client its loop finds, or a line on the console. -/
def grantAccess : Exported P BanStatus Unit := do
  match ← observe fun state => bannedClient linked state.1.env.host state.2.baninfo with
  | some cl => consult linked (.onPlayerAccessGranted cl) ⟨⟩
  | none => do
    let playerid ← observe fun state => state.2.baninfo.playerid
    print (literal "^1ERROR: Failed to call onPlayerAccessGranted() callback for " ++
      literal (toString playerid.toNat) ++ literal "\n")

/-- `OnPlayerGetBanStatus`. `strncpy` gets `len` as a 32-bit `size_t`. -/
def onPlayerGetBanStatus (len : Int32) : Exported P BanStatus Unit := do
  if (← observe fun state => state.2.message.bytes 0 == 0) then
    doNoexcept (literal "OnPlayerGetBanStatus") (do
      match (← invoke linked .onPlayerGetBanStatus (fun out : BanStatus => out.baninfo)
        (fun baninfo out => { out with baninfo := baninfo })).1 with
      | some reason =>
        writeOut fun out =>
          { out with message := out.message.strncpy reason len.toUInt32.toNat }
      | none => grantAccess linked) ⟨⟩

/-- The first assignments of `OnInfoRequest`. -/
def defaultInfo : PluginInfoFields where
  handlerVersion := linked.handlerVersion
  pluginVersion := (1, 0)
  fullName := linked.strncpyz .fullName (literal "C++ Plugin API Wrapper")
  shortDescription := linked.strncpyz .shortDescription (literal "C++ wrapper for CoD4x plugin API")
  longDescription := linked.strncpyz .longDescription (literal "C++ wrapper for CoD4x plugin API")

/-- A text of the plugin's info replaces a field unless it is empty. -/
def overrideText (field : InfoText) (text present : Bytes) : Bytes :=
  if text ≠ [] then linked.strncpyz field text.cString else present

/-- What the plugin's info replaces. -/
def overrideInfo (override : PluginInfo) (info : PluginInfoFields) : PluginInfoFields :=
  { info with
    pluginVersion :=
      (if override.majorVersion ≠ 0 then override.majorVersion else info.pluginVersion.1,
        if override.minorVersion ≠ 0 then override.minorVersion else info.pluginVersion.2)
    fullName := overrideText linked .fullName override.fullName info.fullName
    shortDescription :=
      overrideText linked .shortDescription override.shortDescription info.shortDescription
    longDescription :=
      overrideText linked .longDescription override.longDescription info.longDescription }

/-- `OnInfoRequest`. -/
def onInfoRequest : Exported P PluginInfoFields Unit := do
  writeOut fun _ => defaultInfo linked
  doNoexcept (literal "OnInfoRequest") (do
    if (← observe fun state => state.1.gEntry.isSome) then
      let override ← consult linked .onPluginInfoRequest ⟨⟩
      writeOut (overrideInfo linked override)) ⟨⟩

/-- The loop at the beginning of `OnMessageSent`, over the readable memory from the
message on: bytes that are less than `0x20` as a `char` are skipped. None if the
loop leaves that memory. -/
def skipControl : Bytes → Option Bytes
  | [] => none
  | byte :: rest => if signed byte < 0x20 then skipControl rest else some (byte :: rest)

/-- `std::string(const char*)` over readable memory: none if it has no NUL. -/
def readText (memory : Bytes) : Option Bytes :=
  if 0 ∈ memory then some memory.cString else none

/-- `OnMessageSent`. No message is a null pointer. -/
def onMessageSent (message : Option Bytes) (slot mode : Int) : Exported P Qboolean Unit :=
  doNoexcept (literal "OnMessageSent") (do
    match message with
    | none => writeOut fun _ => false
    | some memory =>
      match skipControl memory with
      | none => raise (.fault .wildRead)
      | some visible =>
        if (← observe fun state => state.2) then
          let _ ← getPlugin
          match readText visible with
          | none => raise (.fault .wildRead)
          | some text =>
            let answer ← consult linked (.onMessageSent text slot mode) ⟨⟩
            writeOut fun _ => answer == .show
        else writeOut fun _ => false) ⟨⟩

/-- `OnPreFastRestart`. -/
def onPreFastRestart : Exported P Out Unit :=
  forward linked "OnPreFastRestart" .onPreFastRestart ⟨⟩

/-- `OnExitLevel`. -/
def onExitLevel : Exported P Out Unit := forward linked "OnExitLevel" .onExitLevel ⟨⟩

/-- `OnPostFastRestart`. -/
def onPostFastRestart : Exported P Out Unit :=
  forward linked "OnPostFastRestart" .onPostFastRestart ⟨⟩

/-- `OnPreGameRestart`. -/
def onPreGameRestart (savepersist : Int) : Exported P Out Unit :=
  forward linked "OnPreGameRestart" (.onPreGameRestart savepersist) ⟨⟩

/-- `OnPostGameRestart`. -/
def onPostGameRestart (savepersist : Int) : Exported P Out Unit :=
  forward linked "OnPostGameRestart" (.onPostGameRestart savepersist) ⟨⟩

/-- `OnSpawnServer`. -/
def onSpawnServer : Exported P Out Unit := forward linked "OnSpawnServer" .onSpawnServer ⟨⟩

/-- `OnFrame`. -/
def onFrame : Exported P Out Unit := forward linked "OnFrame" .onFrame ⟨⟩

/-- `OnClientSpawn`. -/
def onClientSpawn (ent : Pointer) : Exported P Out Unit :=
  forward linked "OnClientSpawn" (.onClientSpawn ent) ⟨⟩

/-- `OnClientEnterWorld`. -/
def onClientEnterWorld (client : Pointer) : Exported P Out Unit :=
  doNoexcept (literal "OnClientEnterWorld") (do
    let firstTime ← observe fun state =>
      (state.1.env.host.client client).connectedTime == UInt32.ofInt state.1.env.host.serverTime
    consult linked (.onClientEnteredWorld client firstTime) ⟨⟩) ⟨⟩

/-- `OnClientUserinfoChanged`. -/
def onClientUserinfoChanged (client : Pointer) : Exported P Out Unit :=
  forward linked "OnClientUserinfoChanged" (.onClientUserInfoChanged client) ⟨⟩

/-- `OnClientCommand`. -/
def onClientCommand (client : Pointer) (command : Bytes) : Exported P Out Unit :=
  forward linked "OnClientCommand" (.onClientCommand client command) ⟨⟩

/-- `OnClientMoveCommand`. -/
def onClientMoveCommand (client ucmd : Pointer) : Exported P Out Unit :=
  forward linked "OnClientMoveCommand" (.onClientMoveCommand client ucmd) ⟨⟩

/-- `OnPlayerKilled`. -/
def onPlayerKilled (self inflictor attacker : Pointer)
    (damage meansOfDeath iWeapon hitLocation : Int) : Exported P Out Unit :=
  forward linked "OnPlayerKilled"
    (.onPlayerKilled self inflictor attacker damage meansOfDeath iWeapon hitLocation) ⟨⟩

/-- `OnPlayerWantReservedSlot`. -/
def onPlayerWantReservedSlot (addr : Pointer) : Exported P Qboolean Unit :=
  doNoexcept (literal "OnPlayerWantReservedSlot") (do
    if (← observe fun state => state.2) then
      let answer ← consult linked (.onPlayerReservedSlotRequest addr) ⟨⟩
      writeOut fun _ => answer == .allow
    else writeOut fun _ => false) ⟨⟩

/-- `OnFilesystemStarted`. -/
def onFilesystemStarted (searchpaths : Pointer) : Exported P Out Unit :=
  forward linked "OnFilesystemStarted" (.onFsStarted searchpaths) ⟨⟩

/-- `OnScrUsercallFunction`. -/
def onScrUsercallFunction (function_name : Bytes) : Exported P Out Unit :=
  forward linked "OnScrUsercallFunction" (.onScrUsercallFunction function_name.cString) ⟨⟩

/-- `OnScrUsercallMethod`. -/
def onScrUsercallMethod (method_name : Bytes) (clientnum : Int) : Exported P Out Unit :=
  forward linked "OnScrUsercallMethod" (.onScrUsercallMethod method_name.cString clientnum) ⟨⟩

/-- `OnModuleLoaded`. -/
def onModuleLoaded (client : Pointer) (fullpath : Bytes) (checksum : Int) : Exported P Out Unit :=
  forward linked "OnModuleLoaded" (.onModuleLoaded client fullpath.cString checksum) ⟨⟩

/-- `OnScreenshotArrived`. -/
def onScreenshotArrived (client : Pointer) (path : Bytes) : Exported P Out Unit :=
  forward linked "OnScreenshotArrived" (.onScreenshotArrived client path.cString) ⟨⟩

/-- A callback that asks the plugin whether to drop a packet. -/
def dropPacket (funcName : String) (call : VirtualCall) (refs : call.Refs)
    (drop : call.Result → Bool) : Exported P Qboolean Unit :=
  doNoexcept (literal funcName) (do
    let answer ← consult linked call refs
    writeOut fun returnNow => returnNow || (if drop answer then true else false)) ⟨⟩

/-- `OnUdpNetEvent`, compiled with `OVERRIDE_UDP_EVENT_CALLBACKS`. -/
def onUdpNetEvent (addr data : Pointer) (size : Int) : Exported P Qboolean Unit :=
  dropPacket linked "OnUdpNetEvent" (.onUdpNetEvent addr data size) ⟨⟩ fun answer => answer

/-- `OnUdpNetSend`, compiled with `OVERRIDE_UDP_EVENT_CALLBACKS`. -/
def onUdpNetSend (addr data : Pointer) (len : Int) : Exported P Qboolean Unit :=
  dropPacket linked "OnUdpNetSend" (.onUdpSend addr data len) ⟨⟩ fun answer => answer

/-- `DynamicCallback<context>::contextualStaticFunction`: the functor its slot leads to
runs with nothing around it. -/
def contextualStaticFunction (context : Nat) : Exported P Out Unit := do
  match ← focus (fun state => state.1.env.commands) (fun commands state =>
      ({ state.1 with env := { state.1.env with commands := commands } }, state.2))
      (Command.staticInvoke context) with
  | none => pure ⟨⟩
  | some functor => fun state =>
    let called := linked.functor functor (state.1.gEntry, state.1.env)
    (called.1.mapError .thrown,
      ({ state.1 with gEntry := called.2.1, env := called.2.2 }, state.2))

/-! ## The lifecycle -/

variable {linked}

/-- With an entry, `OnInit` returns 0 and changes nothing. -/
theorem onInit_present {state : World P × Out} {entry : PluginEntry P}
    (present : state.1.gEntry = some entry) : onInit linked state = (.ok 0, state) := by
  obtain ⟨⟨env, gEntry, entries, calls⟩, out⟩ := state
  subst present
  rfl

/-- Without an entry, `OnInit` returns 0 with the one that `pluginMain` returned on. -/
theorem onInit_returns {state : World P × Out} (absent : state.1.gEntry = none)
    {entry : PluginEntry P} {env : Env}
    (main : linked.pluginMain (⟨none⟩, pluginPrintf constructedLine state.1.env) =
      (.ok ⟨⟩, entry, env)) :
    onInit linked state = (.ok 0, ({ state.1 with
      env := env, gEntry := some entry, entries := .built :: state.1.entries }, state.2)) := by
  simp [onInit, doNoexcept, recover, bind_apply, absent, newPluginEntry_returns main, setEntry]

/-- Without an entry, `OnInit` returns -1 if `pluginMain` throws; what was registered
until then is destroyed, and there is still no entry. -/
theorem onInit_throws {state : World P × Out} (absent : state.1.gEntry = none)
    {entry : PluginEntry P} {env : Env} {exception : Thrown}
    (main : linked.pluginMain (⟨none⟩, pluginPrintf constructedLine state.1.env) =
      (.error exception, entry, env)) :
    onInit linked state = (.ok (-1), ({ state.1 with
      env := pluginPrintf (reportLine (literal "OnInit") exception) (entry.release linked env)
      entries := .died :: .built :: state.1.entries }, state.2)) := by
  simp [onInit, doNoexcept, recover, bind_apply, absent, newPluginEntry_throws main, report, print]

/-- `OnInit` in the three ways it can go: there is an entry, one is built, or its
construction throws. -/
theorem onInit_cases (linked : Linked P) (state : World P × Out) :
    (∃ entry, state.1.gEntry = some entry ∧ onInit linked state = (.ok 0, state)) ∨
    (∃ entry env, state.1.gEntry = none ∧
      linked.pluginMain (⟨none⟩, pluginPrintf constructedLine state.1.env) = (.ok ⟨⟩, entry, env) ∧
      (newPluginEntry linked state).1 = .ok entry ∧
      onInit linked state = (.ok 0, ({ state.1 with
        env := env, gEntry := some entry, entries := .built :: state.1.entries }, state.2))) ∨
    ∃ exception entry env, state.1.gEntry = none ∧
      linked.pluginMain (⟨none⟩, pluginPrintf constructedLine state.1.env) =
        (.error exception, entry, env) ∧
      (newPluginEntry linked state).1 = .error (.thrown exception) ∧
      onInit linked state = (.ok (-1), ({ state.1 with
        env := pluginPrintf (reportLine (literal "OnInit") exception) (entry.release linked env)
        entries := .died :: .built :: state.1.entries }, state.2)) := by
  cases present : state.1.gEntry with
  | some entry => exact Or.inl ⟨entry, rfl, onInit_present present⟩
  | none =>
    right
    rcases main : linked.pluginMain (⟨none⟩, pluginPrintf constructedLine state.1.env) with
      ⟨exception | _, entry, env⟩
    · exact Or.inr ⟨exception, entry, env, rfl, rfl, by rw [newPluginEntry_throws main],
        onInit_throws present main⟩
    · exact Or.inl ⟨entry, env, rfl, rfl, by rw [newPluginEntry_returns main],
        onInit_returns present main⟩

/-- With an entry, `OnUnload` destroys it. -/
theorem onUnload_present {state : World P × Out} {entry : PluginEntry P}
    (present : state.1.gEntry = some entry) :
    onUnload linked state = (.ok ⟨⟩, ({ state.1 with
      env := entry.release linked (pluginPrintf destroyedLine state.1.env)
      gEntry := none
      entries := .died :: state.1.entries }, state.2)) := by
  simp [onUnload, doNoexcept, recover, bind_apply, present, deleteEntry, print, setEntry,
    destroyedLine]

/-- Without an entry, `OnUnload` does nothing. -/
theorem onUnload_absent {state : World P × Out} (absent : state.1.gEntry = none) :
    onUnload linked state = (.ok ⟨⟩, state) := by
  simp [onUnload, doNoexcept, recover, bind_apply, absent]

/-- Without an entry, `OnInfoRequest` writes the library's own texts only. -/
theorem onInfoRequest_absent {state : World P × PluginInfoFields} (absent : state.1.gEntry = none) :
    onInfoRequest linked state = (.ok ⟨⟩, (state.1, defaultInfo linked)) := by
  simp [onInfoRequest, writeOut, doNoexcept, recover, bind_apply, absent]

end Callbacks

end Exported
end Plugpp
