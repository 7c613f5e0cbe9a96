import Mathlib.Data.List.Perm.Basic
import Plugpp.CommandInvariant
import Plugpp.PluginEntry

/-!
# Plugins that own commands

A plugin owns the `Command` objects it constructs. A `Script` is what the code of
such a plugin does with the library: it constructs commands, destroys commands of its
own, removes names, throws, and goes on in its own way after a construction that
threw. A plugin whose constructor throws loses the commands it has by then.

Ownership and life are two sides of one thing: the live commands are those that some
plugin owns, each once. The host's table differs from what the server put there only
at names of the plugins. Every script keeps that, whether it returns or throws, and
destroying everything that is owned restores the table.
-/

namespace Plugpp

open Bytes Code

/-- Where new `Command` objects are placed: never where a live one is. -/
structure Allocator where
  address : List Pointer → Pointer
  unused : ∀ used, address used ∉ used

/-- What plugin code does with the library. -/
inductive Script where
  | returns
  | throws (exception : Thrown)
  | command (name : Bytes) (callback : Option Functor) (replace : Bool) (built : Script)
      (refused : Thrown → Script)
  | release (index : Nat) (next : Script)
  | remove (name : Bytes) (next : Script)

/-- What `pluginMain` does: it registers plugins by their constructors. -/
inductive MainScript where
  | returns
  | throws (exception : Thrown)
  | register (constructor : Script) (registered : MainScript) (refused : Thrown → MainScript)

/-- `delete` of a command. -/
def deleteCommand (commands : Commands) (address : Pointer) : Commands :=
  match Command.find commands address with
  | some command => Command.destroy command commands
  | none => commands

/-- Destroying what a plugin owns, latest first. -/
def deleteOwned (owned : List Pointer) (env : Env) : Env :=
  { env with commands := owned.foldl deleteCommand env.commands }

/-- Run a script for a plugin, given by the commands it owns, latest first. -/
def Script.run (allocator : Allocator) : Script → Code Thrown (List Pointer × Env) Unit
  | .returns => pure ⟨⟩
  | .throws exception => raise exception
  | .command name callback replace built refused => fun (owned, env) =>
    let this := allocator.address (env.commands.live.map Command.self)
    match Command.construct this name callback replace env.commands with
    | (.ok _, commands) => built.run allocator (this :: owned, { env with commands := commands })
    | (.error exception, commands) =>
      (refused exception).run allocator (owned, { env with commands := commands })
  | .release index next => fun (owned, env) =>
    match owned[index]? with
    | some address => next.run allocator
        (owned.erase address, { env with commands := deleteCommand env.commands address })
    | none => next.run allocator (owned, env)
  | .remove name next => fun (owned, env) =>
    next.run allocator (owned, { env with commands := Command.removeCommand name env.commands })

/-- Run a `pluginMain`. -/
def MainScript.run (linked : Linked (List Pointer)) (allocator : Allocator) :
    MainScript → Code Thrown (PluginEntry (List Pointer) × Env) Unit
  | .returns => pure ⟨⟩
  | .throws exception => raise exception
  | .register constructor registered refused => fun state =>
    match PluginEntry.registerPlugin linked [] (constructor.run allocator) state with
    | (.ok _, state) => registered.run linked allocator state
    | (.error exception, state) => (refused exception).run linked allocator state

/-- All names a script registers or removes are among the allowed ones. -/
def Script.Names (allowed : Bytes → Prop) : Script → Prop
  | .returns | .throws _ => True
  | .command name _ _ built refused =>
      allowed name.cString ∧ built.Names allowed ∧ ∀ exception, (refused exception).Names allowed
  | .release _ next => next.Names allowed
  | .remove name next => allowed name.cString ∧ next.Names allowed

/-- The same for the constructors that a `pluginMain` runs. -/
def MainScript.Names (allowed : Bytes → Prop) : MainScript → Prop
  | .returns | .throws _ => True
  | .register constructor registered refused =>
      constructor.Names allowed ∧ registered.Names allowed ∧
        ∀ exception, (refused exception).Names allowed

/-- Where every name is allowed, every script keeps to them. -/
theorem Script.names_all {allowed : Bytes → Prop} (all : ∀ name, allowed name) (script : Script) :
    script.Names allowed := by
  induction script with
  | returns | throws exception => trivial
  | command name callback replace built refused builtHypothesis refusedHypothesis =>
    exact ⟨all _, builtHypothesis, refusedHypothesis⟩
  | release index next inductionHypothesis => exact inductionHypothesis
  | remove name next inductionHypothesis => exact ⟨all _, inductionHypothesis⟩

/-- And so does every `pluginMain`. -/
theorem MainScript.names_all {allowed : Bytes → Prop} (all : ∀ name, allowed name)
    (main : MainScript) : main.Names allowed := by
  induction main with
  | returns | throws exception => trivial
  | register constructor registered refused registeredHypothesis refusedHypothesis =>
    exact ⟨constructor.names_all all, registeredHypothesis, refusedHypothesis⟩

/-! ## The invariant of ownership -/

/-- The live commands are the owned ones, each owned once, all of names the server has
not bound; the table differs from the server's only where a trampoline is bound to
such a name. -/
structure Holding (capacity : Nat) (server : Bytes → Option Command.Xcommand)
    (owned : List Pointer) (commands : Commands) : Prop where
  wellFormed : Command.WellFormed capacity commands
  own : (commands.live.map Command.self).Perm owned
  names : ∀ command ∈ commands.live, server command.mCommandName.cString = none
  table : ∀ name, commands.table name = server name ∨
    (server name = none ∧ ∃ context, commands.table name = some (.trampoline context))

section Holding

variable {capacity : Nat} {server : Bytes → Option Command.Xcommand} {owned : List Pointer}
  {commands : Commands}

/-- It does not matter in which order commands are owned. -/
theorem Holding.perm (holding : Holding capacity server owned commands) {other : List Pointer}
    (same : owned.Perm other) : Holding capacity server other commands :=
  { holding with own := holding.own.trans same }

/-- Live commands have distinct addresses. -/
theorem Holding.distinct (holding : Holding capacity server owned commands) :
    (commands.live.map Command.self).Nodup := by
  have distinct := holding.wellFormed.assigns.owners
  simp only [Command.assigned, List.map_map] at distinct
  exact distinct

/-- A constructor that returns adds one owned command; one that throws changes nothing. -/
theorem Holding.construct (holding : Holding capacity server owned commands) (this : Pointer)
    (name : Bytes) (callback : Option Functor) (replace : Bool)
    (unused : this ∉ commands.live.map Command.self) (free : server name.cString = none) :
    (∃ after, Command.construct this name callback replace commands = (.ok ⟨⟩, after) ∧
      Holding capacity server (this :: owned) after) ∨
    ∃ exception, Command.construct this name callback replace commands =
      (.error exception, commands) := by
  have fresh : ∀ command ∈ commands.live, command.self ≠ this := by
    simpa using unused
  rcases Command.construct_cases holding.wellFormed this name callback replace with
    ⟨_, context, freeSlot, returned⟩ | ⟨_, thrown⟩
  · left
    refine ⟨_, returned, ?_, ?_, ?_, ?_⟩
    · exact Command.wellFormed_constructed holding.wellFormed context this name callback replace
        freeSlot fresh
    · exact holding.own.cons this
    · intro command isLive
      rcases List.mem_cons.mp isLive with rfl | older
      · exact free
      · exact holding.names command older
    · intro asked
      by_cases taken :
          asked = name.cString ∧ (replace = true ∨ commands.table name.cString = none)
      · right
        refine ⟨taken.1 ▸ free, context, ?_⟩
        simp [Command.constructed, Command.registered, taken]
      · simpa only [Command.constructed, Command.registered, if_neg taken] using
          holding.table asked
  · exact Or.inr ⟨_, thrown⟩

/-- Deleting an owned command ends its life and its ownership. -/
theorem Holding.delete (holding : Holding capacity server owned commands) {address : Pointer}
    (isOwned : address ∈ owned) :
    Holding capacity server (owned.erase address) (deleteCommand commands address) := by
  obtain ⟨command, isLive, rfl⟩ := List.mem_map.mp (holding.own.mem_iff.mpr isOwned)
  have deleted : deleteCommand commands command.self = Command.destroyed commands command := by
    simp only [deleteCommand, Command.find_live holding.wellFormed isLive,
      Command.destroy_returns holding.wellFormed isLive]
  rw [deleted]
  refine ⟨Command.wellFormed_destroyed holding.wellFormed command isLive, ?_, ?_, ?_⟩
  · have remaining : (Command.destroyed commands command).live.map Command.self =
        (commands.live.map Command.self).erase command.self := by
      rw [holding.distinct.erase_eq_filter, List.filter_map]
      congr 1
      apply List.filter_congr
      intro other _
      by_cases same : other.self = command.self <;> simp [same]
    rw [remaining]
    exact holding.own.erase command.self
  · intro other otherLive
    exact holding.names other (List.mem_of_mem_filter otherLive)
  · intro asked
    by_cases same : asked = command.mCommandName.cString
    · subst same
      left
      simp [Command.destroyed, holding.names command isLive]
    · simpa only [Command.destroyed, Function.update_of_ne same] using holding.table asked

/-- Removing a name that the server has not bound changes nothing else. -/
theorem Holding.remove (holding : Holding capacity server owned commands) (name : Bytes)
    (free : server name.cString = none) :
    Holding capacity server owned (Command.removeCommand name commands) := by
  refine ⟨Command.wellFormed_removed holding.wellFormed name, holding.own, holding.names, ?_⟩
  intro asked
  by_cases same : asked = name.cString
  · subst same
    left
    simp [Command.removeCommand, Command.pluginRemoveCommand, free]
  · simpa only [Command.removeCommand, Command.pluginRemoveCommand, Function.update_of_ne same]
      using holding.table asked

/-- Deleting all of one plugin's commands leaves the others. -/
theorem Holding.deleteOwned {others : List Pointer} {env : Env}
    (holding : Holding capacity server (owned ++ others) env.commands) :
    Holding capacity server others (Plugpp.deleteOwned owned env).commands := by
  have folded : ∀ (remaining : List Pointer) (present : Commands),
      Holding capacity server (remaining ++ others) present →
        Holding capacity server others (remaining.foldl deleteCommand present) := by
    intro remaining
    induction remaining with
    | nil => exact fun _ holds => holds
    | cons address rest inductionHypothesis =>
      intro present holds
      have deleted := holds.delete List.mem_cons_self
      rw [List.cons_append, List.erase_cons_head] at deleted
      exact inductionHypothesis _ deleted
  exact folded owned env.commands holding

/-- When no command is owned, all slots are free and the table is the server's. -/
theorem Holding.nothing (holding : Holding capacity server [] commands) :
    commands.live = [] ∧
      (∀ slot ∈ commands.gCallbackInstances,
        slot.mCommandInstance = none ∧ slot.mMethod = none) ∧
      commands.table = server := by
  have none_live : commands.live = [] := by
    simpa using holding.own.eq_nil
  refine ⟨none_live, ?_, ?_⟩
  · intro slot member
    obtain ⟨context, found⟩ := List.mem_iff_getElem?.mp member
    have vacant : slot.mCommandInstance = none := by
      cases occupant : slot.mCommandInstance with
      | none => rfl
      | some address =>
        have held : (Command.occupants commands)[context]? = some (some address) := by
          simp [Command.occupants, found, occupant]
        have listed := (holding.wellFormed.assigns.occupied _ _).mp held
        simp [Command.assigned, none_live] at listed
    exact ⟨vacant, (holding.wellFormed.methods slot member).mp vacant⟩
  · funext name
    cases holding.table name with
    | inl same => exact same
    | inr dynamic =>
      obtain ⟨_, context, bound⟩ := dynamic
      obtain ⟨command, isLive, _⟩ := holding.wellFormed.bound name context bound
      simp [none_live] at isLive

end Holding

/-! ## Scripts keep it -/

section Scripts

variable {capacity : Nat} {server : Bytes → Option Command.Xcommand} {others : List Pointer}

/-- A script keeps ownership, whether it returns or throws, whatever else is owned.

By induction on the script: a construction adds to what is owned or changes nothing and
leaves the decision to the script; a release takes away; a removal touches no owner. -/
theorem script_holds (allocator : Allocator) (script : Script)
    (names : script.Names fun name => server name = none) (owned : List Pointer) (env : Env)
    (holding : Holding capacity server (owned ++ others) env.commands) :
    Holding capacity server ((script.run allocator (owned, env)).2.1 ++ others)
      (script.run allocator (owned, env)).2.2.commands := by
  induction script generalizing owned env with
  | returns => exact holding
  | throws exception => exact holding
  | command name callback replace built refused builtHypothesis refusedHypothesis =>
    obtain ⟨free, builtNames, refusedNames⟩ := names
    have unused := allocator.unused (env.commands.live.map Command.self)
    rcases holding.construct _ name callback replace unused free with
      ⟨after, returned, kept⟩ | ⟨exception, thrown⟩
    · simp only [Script.run, returned]
      exact builtHypothesis builtNames _ _ kept
    · simp only [Script.run, thrown]
      exact refusedHypothesis exception (refusedNames exception) _ _ holding
  | release index next inductionHypothesis =>
    cases found : owned[index]? with
    | none =>
      simp only [Script.run, found]
      exact inductionHypothesis names _ _ holding
    | some address =>
      simp only [Script.run, found]
      have isOwned := List.mem_of_getElem? found
      have deleted := holding.delete (List.mem_append_left others isOwned)
      rw [List.erase_append_left others isOwned] at deleted
      exact inductionHypothesis names _ _ deleted
  | remove name next inductionHypothesis =>
    obtain ⟨free, nextNames⟩ := names
    simp only [Script.run]
    exact inductionHypothesis nextNames _ _ (holding.remove name free)

/-- What the entry's plugin owns. -/
def PluginEntry.owned (entry : PluginEntry (List Pointer)) : List Pointer := entry.mPlugin.getD []

/-- Destroying an entry's plugin leaves what others own. -/
theorem release_holds {linked : Linked (List Pointer)} (destroys : linked.destroy = deleteOwned)
    (entry : PluginEntry (List Pointer)) (env : Env)
    (holding : Holding capacity server (entry.owned ++ others) env.commands) :
    Holding capacity server others (entry.release linked env).commands := by
  obtain ⟨registered⟩ := entry
  cases registered with
  | none => exact holding
  | some owned =>
    simp only [PluginEntry.release, destroys]
    exact holding.deleteOwned

/-- `registerPlugin` keeps ownership. Between the new plugin's construction and the old
one's destruction both own commands; what a throwing constructor built is destroyed. -/
theorem registerPlugin_holds {linked : Linked (List Pointer)} (allocator : Allocator)
    (destroys : linked.destroy = deleteOwned) (constructor : Script)
    (names : constructor.Names fun name => server name = none)
    (entry : PluginEntry (List Pointer)) (env : Env)
    (holding : Holding capacity server entry.owned env.commands)
    {outcome : Except Thrown Unit} {after : PluginEntry (List Pointer)} {left : Env}
    (registered : PluginEntry.registerPlugin linked [] (constructor.run allocator) (entry, env) =
      (outcome, after, left)) :
    Holding capacity server after.owned left.commands := by
  have built : Holding capacity server
      ((constructor.run allocator ([], env)).2.1 ++ entry.owned) _ :=
    script_holds allocator constructor names [] env holding
  rcases ran : constructor.run allocator ([], env) with ⟨exception | _, owned, present⟩
  · rw [ran] at built
    simp only [PluginEntry.registerPlugin, ran, Prod.mk.injEq] at registered
    obtain ⟨_, rfl, rfl⟩ := registered
    rw [destroys]
    exact built.deleteOwned
  · rw [ran] at built
    simp only [PluginEntry.registerPlugin, ran, Prod.mk.injEq] at registered
    obtain ⟨_, rfl, rfl⟩ := registered
    exact release_holds destroys entry present (built.perm List.perm_append_comm)

/-- A `pluginMain` keeps ownership, by induction on its registrations. -/
theorem main_holds {linked : Linked (List Pointer)} (allocator : Allocator)
    (destroys : linked.destroy = deleteOwned) (main : MainScript)
    (names : main.Names fun name => server name = none)
    (entry : PluginEntry (List Pointer)) (env : Env)
    (holding : Holding capacity server entry.owned env.commands) :
    Holding capacity server (main.run linked allocator (entry, env)).2.1.owned
      (main.run linked allocator (entry, env)).2.2.commands := by
  induction main generalizing entry env with
  | returns => exact holding
  | throws exception => exact holding
  | register constructor registered refused registeredHypothesis refusedHypothesis =>
    obtain ⟨constructorNames, registeredNames, refusedNames⟩ := names
    rcases ran : PluginEntry.registerPlugin linked [] (constructor.run allocator) (entry, env) with
      ⟨exception | _, after, left⟩
    · have kept := registerPlugin_holds allocator destroys constructor constructorNames entry env
        holding ran
      simp only [MainScript.run, ran]
      exact refusedHypothesis exception (refusedNames exception) _ _ kept
    · have kept := registerPlugin_holds allocator destroys constructor constructorNames entry env
        holding ran
      simp only [MainScript.run, ran]
      exact registeredHypothesis registeredNames _ _ kept

end Scripts

end Plugpp
