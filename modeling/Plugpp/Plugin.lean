import Plugpp.Command

/-!
# Plugins and what surrounds the library

A plugin is an object of a class derived from `Plugin`; the library calls its
virtual functions and knows nothing else about it. Its code works on its own
object, on the commands, on the server and on what it is given by reference, and
it returns or throws.

`VirtualCall` lists the virtual functions with their arguments, `Result` what each
returns and `Refs` what each is given by reference and may write. `Linked` holds
the code that is linked with the library and not defined by it.
-/

namespace Plugpp

open Bytes Code

/-- A network address. Only the server looks inside. -/
abbrev Netadr := Nat

/-- `qboolean`. -/
abbrev Qboolean := Bool

/-- What the library reads of a `client_t`. -/
structure Client where
  state : Int
  playerid : UInt64
  steamid : UInt64
  name : Bytes
  remoteAddress : Netadr
  connectedTime : UInt32
deriving DecidableEq

/-- What the library reads of a `baninfo_t`. -/
structure BanInfo where
  playerid : UInt64
  steamid : UInt64
  adr : Netadr
deriving DecidableEq

/-- The server, as far as the library asks it: the client of each slot, if the server
returns one, what it returns for a number that is no slot, the memory behind client
pointers, the clock and the console. -/
structure Host where
  slots : List (Option Pointer)
  beyond : Int → Option Pointer
  client : Pointer → Client
  serverTime : Int
  console : List Bytes

/-- A client that no one looks at. -/
def anyone : Pointer → Client := fun _ => ⟨0, 0, 0, [], 0, 0⟩

/-- A server without clients. -/
def emptyHost : Host := ⟨[], fun _ => none, anyone, 0, []⟩

/-- What plugin code shares with the library besides the plugin itself. -/
structure Env where
  commands : Commands
  host : Host

/-- `Plugin_Printf`. -/
def pluginPrintf (text : Bytes) (env : Env) : Env :=
  { env with host := { env.host with console := env.host.console ++ [text] } }

inductive MessageVisibility where
  | hide
  | show
deriving DecidableEq

inductive ReservedSlotRequest where
  | deny
  | allow
deriving DecidableEq

structure PluginInfo where
  majorVersion : Int := 1
  minorVersion : Int := 0
  fullName : Bytes := []
  shortDescription : Bytes := []
  longDescription : Bytes := []
deriving DecidableEq

/-- A kick with its reason, or `NoKick`. -/
abbrev Kick := Option Bytes

/-- What `onPlayerGotAuthInfo` is given by reference. -/
structure AuthRefs where
  playerid : UInt64
  steamid : UInt64
  returnNow : Bool
deriving DecidableEq

/-- The virtual functions of `Plugin` with the arguments they are called with.
Strings are passed by value, objects of the server by address. -/
inductive VirtualCall where
  | onMessageSent (message : Bytes) (slot mode : Int)
  | onPluginInfoRequest
  | onPlayerConnect (clientnum : Int) (netaddr : Pointer) (userinfo : Bytes)
  | onPlayerDisconnect (client : Pointer) (reason : Bytes)
  | onTerminate
  | onPlayerAddBan (banInfo : Pointer)
  | onPlayerRemoveBan (banInfo : Pointer)
  | onPlayerGotAuthInfo (cl addr : Pointer)
  | onPlayerGetBanStatus
  | onPlayerAccessGranted (client : Pointer)
  | onPreFastRestart
  | onExitLevel
  | onPostFastRestart
  | onPreGameRestart (savepersist : Int)
  | onPostGameRestart (savepersist : Int)
  | onSpawnServer
  | onFrame
  | onClientSpawn (entity : Pointer)
  | onClientEnteredWorld (client : Pointer) (firstTime : Bool)
  | onClientUserInfoChanged (client : Pointer)
  | onClientCommand (client : Pointer) (command : Bytes)
  | onClientMoveCommand (client ucmd : Pointer)
  | onPlayerKilled (self inflictor attacker : Pointer) (damage meansOfDeath iWeapon : Int)
      (hitLocation : Int)
  | onPlayerReservedSlotRequest (addr : Pointer)
  | onFsStarted (searchpaths : Pointer)
  | onScrUsercallFunction (functionName : Bytes)
  | onScrUsercallMethod (methodName : Bytes) (slot : Int)
  | onModuleLoaded (client : Pointer) (fullpath : Bytes) (checksum : Int)
  | onScreenshotArrived (client : Pointer) (path : Bytes)
  | onUdpNetEvent (addr data : Pointer) (size : Int)
  | onUdpSend (addr data : Pointer) (len : Int)
deriving DecidableEq

namespace VirtualCall

/-- What each virtual function returns. -/
abbrev Result : VirtualCall → Type
  | onMessageSent .. => MessageVisibility
  | onPluginInfoRequest => PluginInfo
  | onPlayerConnect .. | onPlayerGotAuthInfo .. | onPlayerGetBanStatus => Kick
  | onPlayerReservedSlotRequest _ => ReservedSlotRequest
  | onUdpNetEvent .. | onUdpSend .. => Bool
  | _ => Unit

/-- What each virtual function may write through a reference or pointer that the
library reads afterwards. -/
abbrev Refs : VirtualCall → Type
  | onPlayerGotAuthInfo .. => AuthRefs
  | onPlayerGetBanStatus => BanInfo
  | _ => Unit

/-- The bodies of the class `Plugin`, which do nothing. -/
def default : (call : VirtualCall) → call.Result
  | onMessageSent .. => .show
  | onPluginInfoRequest => {}
  | onPlayerConnect .. | onPlayerGotAuthInfo .. | onPlayerGetBanStatus => none
  | onPlayerReservedSlotRequest _ => .allow
  | onUdpNetEvent .. | onUdpSend .. => false
  | onPlayerDisconnect .. | onTerminate | onPlayerAddBan _ | onPlayerRemoveBan _
  | onPlayerAccessGranted _ | onPreFastRestart | onExitLevel | onPostFastRestart
  | onPreGameRestart _ | onPostGameRestart _ | onSpawnServer | onFrame | onClientSpawn _
  | onClientEnteredWorld .. | onClientUserInfoChanged _ | onClientCommand ..
  | onClientMoveCommand .. | onPlayerKilled .. | onFsStarted _ | onScrUsercallFunction _
  | onScrUsercallMethod .. | onModuleLoaded .. | onScreenshotArrived .. => ⟨⟩

end VirtualCall

/-- A `PluginEntry` owns at most one plugin object. -/
structure PluginEntry (P : Type) where
  mPlugin : Option P

/-- The fields of `pluginInfo_t` that hold text. -/
inductive InfoText where
  | fullName
  | shortDescription
  | longDescription
deriving DecidableEq

/-- The code linked with the library, for plugin objects of a type. -/
structure Linked (P : Type) where
  /-- A virtual function of the plugin. -/
  virtual : (call : VirtualCall) → Code Thrown (call.Refs × P × Env) call.Result
  /-- The user's `pluginMain`, on the entry under construction. -/
  pluginMain : Code Thrown (PluginEntry P × Env) Unit
  /-- The virtual destructor, which does not throw. -/
  destroy : P → Env → Env
  /-- The closure of a command. It may reach the registered plugin. -/
  functor : Functor → Code Thrown (Option (PluginEntry P) × Env) Unit
  /-- `Plugin_NET_CompareAdr`. -/
  compareAdr : Netadr → Netadr → Bool
  /-- What `Q_strncpyz` leaves of a text in a field of `pluginInfo_t`. -/
  strncpyz : InfoText → Bytes → Bytes
  /-- `PLUGIN_HANDLER_VERSION_MAJOR` and `PLUGIN_HANDLER_VERSION_MINOR`. -/
  handlerVersion : Int × Int

end Plugpp
