import Mathlib.Logic.Function.Basic
import Plugpp.Bytes
import Plugpp.Code

/-!
# Commands and their trampolines

The host calls a command back through a plain C function, which cannot carry the
object it belongs to. The library therefore generates a fixed number of
trampolines, one function per slot of `gCallbackInstances`; a slot remembers the
object and the member function its trampoline calls. A `Command` reserves the
first free slot, registers its trampoline under its name, and on destruction
unregisters the name and releases the slot.

The host's command table is the host's. `Plugin_AddCommand` binds a name only if
it is unbound and `Plugin_RemoveCommand` unbinds a name; both read the name up to
its first NUL.

Objects are known by their address. The state keeps the objects whose lifetime
has begun and not ended, beside the slots and the table, so that a pointer to an
object that is gone is recognisable.
-/

namespace Plugpp

open Bytes Code

/-- An address. Only its identity matters. -/
abbrev Pointer := Nat

/-- A closure inside a `std::function<void()>`, by identity. -/
abbrev Functor := Nat

/-- What a C++ exception carries to the handlers of the library. -/
inductive Thrown where
  | exception (what : Bytes)
  | unknown
deriving DecidableEq

/-- Operations without a meaning: a null or dangling object, and a read behind
the memory a pointer gives access to. -/
inductive Fault where
  | nullEntry
  | nullSlot
  | dangling
  | wildRead
deriving DecidableEq

/-- Why a function of the library does not return. -/
inductive Stop where
  | thrown (exception : Thrown)
  | fault (fault : Fault)
deriving DecidableEq

namespace Command

/-- `xcommand_t`: a function of the server or of another plugin, or the trampoline
`DynamicCallback<context>::contextualStaticFunction` of this library. -/
inductive Xcommand where
  | server (function : Nat)
  | trampoline (context : Nat)
deriving DecidableEq

/-- `void (Command::*)()`. Only `&Command::callback` is ever stored. -/
inductive MemberFunctionCallback where
  | callback
deriving DecidableEq

/-- A slot of the pool. -/
structure CallbackBase where
  mCallback : Xcommand
  mCommandInstance : Option Pointer
  mMethod : Option MemberFunctionCallback
deriving DecidableEq

/-- The wrapper's copy of the reserved trampoline, null if the pool was exhausted,
and the index at which the constructor's loop stopped. -/
structure MemberFunctionCallbackWrapper where
  mCallback : Option Xcommand
  mContext : Nat
deriving DecidableEq

/-- `Command::Impl`. An empty `std::function` holds no closure. -/
structure Impl where
  mCallbackWrapper : MemberFunctionCallbackWrapper
  mFunctor : Option Functor
deriving DecidableEq

end Command

/-- A live `Command` object at its address. -/
structure Command where
  self : Pointer
  mImpl : Command.Impl
  mCommandName : Bytes
deriving DecidableEq

/-- The slots, the live objects and the host's command table. -/
structure Commands where
  gCallbackInstances : List Command.CallbackBase
  live : List Command
  table : Bytes → Option Command.Xcommand

namespace Command

/-- `CallbackBase::release`. -/
def CallbackBase.release (slot : CallbackBase) : CallbackBase :=
  { slot with mMethod := none, mCommandInstance := none }

/-- `CallbackBase::reserve`. An occupied slot refuses with a null callback. -/
def CallbackBase.reserve (slot : CallbackBase) (command : Pointer)
    (method : MemberFunctionCallback) : CallbackBase × Option Xcommand :=
  if slot.mCommandInstance.isSome then (slot, none)
  else ({ slot with mCommandInstance := some command, mMethod := some method },
    some slot.mCallback)

/-- `createDynamicCallbackInstances`: slot `k` calls trampoline `k` and is free. -/
def createDynamicCallbackInstances (count : Nat) : List CallbackBase :=
  (List.range count).map fun context => ⟨.trampoline context, none, none⟩

/-- The loop of the wrapper's constructor from an index on, over the slots behind
it. It stops at the first slot that yields a callback. -/
def reserveFrom (command : Pointer) (method : MemberFunctionCallback) :
    List CallbackBase → Nat → List CallbackBase × MemberFunctionCallbackWrapper
  | [], mContext => ([], ⟨none, mContext⟩)
  | slot :: rest, mContext =>
    match slot.reserve command method with
    | (reserved, some callback) => (reserved :: rest, ⟨some callback, mContext⟩)
    | (refused, none) =>
      let later := reserveFrom command method rest (mContext + 1)
      (refused :: later.1, later.2)

/-- The `Impl` constructor: the wrapper reserves a slot for `&Command::callback`. -/
def Impl.construct (command : Pointer) (functor : Option Functor) : Code Thrown Commands Impl :=
  fun commands =>
    let reserved := reserveFrom command .callback commands.gCallbackInstances 0
    (.ok ⟨reserved.2, functor⟩, { commands with gCallbackInstances := reserved.1 })

/-- Destroying an `Impl` destroys its wrapper, which releases the slot it holds. -/
def Impl.destroy (impl : Impl) (commands : Commands) : Commands :=
  match impl.mCallbackWrapper.mCallback with
  | some _ =>
    { commands with
      gCallbackInstances :=
        commands.gCallbackInstances.modify impl.mCallbackWrapper.mContext CallbackBase.release }
  | none => commands

/-- `Impl::getCallback`. -/
def Impl.getCallback (impl : Impl) : Option Xcommand := impl.mCallbackWrapper.mCallback

/-- `Plugin_AddCommand`. The permission level is the constant 100 and decides nothing here. -/
def pluginAddCommand (name : Bytes) (callback : Xcommand) (commands : Commands) : Commands :=
  { commands with
    table := fun asked =>
      if asked = name.cString ∧ commands.table name.cString = none then some callback
      else commands.table asked }

/-- `Plugin_RemoveCommand`. -/
def pluginRemoveCommand (name : Bytes) (commands : Commands) : Commands :=
  { commands with table := Function.update commands.table name.cString none }

/-- `removeCommand`. -/
def removeCommand (commandName : Bytes) (commands : Commands) : Commands :=
  pluginRemoveCommand commandName commands

/-- What the constructor throws without a slot. The text means to name the command,
but that argument was moved from by then, which the standard library leaves empty. -/
def slotsExceeded : Thrown :=
  .exception (literal "Failed to register command " ++
    literal " - number of available command slots exceeded")

/-- The `Command` constructor at an address. When it throws, the member `mImpl` is
already built and is destroyed on the way out. -/
def construct (this : Pointer) (commandName : Bytes) (callback : Option Functor)
    (replace : Bool) : Code Thrown Commands Unit := do
  let mImpl ← Impl.construct this callback
  match mImpl.getCallback with
  | none => do
    update mImpl.destroy
    raise slotsExceeded
  | some cb => do
    if replace then update (removeCommand commandName)
    update (pluginAddCommand commandName cb)
    update fun commands => { commands with live := ⟨this, mImpl, commandName⟩ :: commands.live }

/-- The `Command` destructor: the name is removed, then the members are destroyed. -/
def destroy (command : Command) (commands : Commands) : Commands :=
  let removed := removeCommand command.mCommandName commands
  let released := command.mImpl.destroy removed
  { released with live := released.live.filter fun other => other.self ≠ command.self }

/-- The live object at an address. -/
def find (commands : Commands) (address : Pointer) : Option Command :=
  commands.live.find? fun command => command.self == address

/-- `CallbackBase::staticInvoke` up to the functor it reaches: the slot's method on
the slot's object, which is `Command::callback`, which calls `Impl::callback`.
The result is the closure to run, none if the `std::function` is empty. -/
def staticInvoke (context : Nat) : Code Stop Commands (Option Functor) := fun commands =>
  match commands.gCallbackInstances[context]? with
  | some ⟨_, some command, some .callback⟩ =>
    match find commands command with
    | some object => (.ok object.mImpl.mFunctor, commands)
    | none => (.error (.fault .dangling), commands)
  | _ => (.error (.fault .nullSlot), commands)

/-- What the host runs for an issued name. -/
inductive Issued where
  | unknown
  | server (function : Nat)
  | functor (outcome : Except Stop (Option Functor))

/-- The host looks the name up and calls what it is bound to. -/
def issue (commands : Commands) (name : Bytes) : Issued :=
  match commands.table name with
  | none => .unknown
  | some (.server function) => .server function
  | some (.trampoline context) => .functor (staticInvoke context commands).1

/-- The state before any command: free slots and a table without trampolines. -/
def initial (capacity : Nat) (table : Bytes → Option Xcommand) : Commands :=
  ⟨createDynamicCallbackInstances capacity, [], table⟩

end Command
end Plugpp
