import Plugpp.History
import Plugpp.Interleaving

/-!
# Several plugins on one server

Every plugin is linked with its own copy of the library, so each has its own slots and
commands; the command table of the server they share. To a plugin, the trampoline of
another one is a function at some address, like the functions of the server.

What a plugin does to the table it does to everybody's names. Its slots and objects the
others cannot reach, so whatever they do, in whatever order, a bound trampoline leads to
a live command, and a plugin that nobody else names the commands of is where it would be
on a server of its own.
-/

namespace Plugpp

open Bytes Runs Interleaving Command

variable {Member : Type}

/-- What a name is bound to: a function of the server, or the trampoline of a slot of one
of the plugins. -/
inductive Target (Member : Type) where
  | server (function : Nat)
  | trampoline (owner : Member) (context : Nat)
deriving DecidableEq

/-- The slots and live commands of each plugin, and the table they share. -/
structure Server (Member : Type) where
  gCallbackInstances : Member → List CallbackBase
  live : Member → List Command
  table : Bytes → Option (Target Member)

/-- The server before any plugin has commands. -/
def Server.initial (capacity : Member → Nat) (table : Bytes → Option (Target Member)) :
    Server Member where
  gCallbackInstances := fun member => createDynamicCallbackInstances (capacity member)
  live := fun _ => []
  table := table

/-- What the library of a plugin writes into the table. -/
def Target.of (member : Member) : Xcommand → Target Member
  | .server function => .server function
  | .trampoline context => .trampoline member context

section Plugins

variable [DecidableEq Member]

/-- What a plugin sees in the table: its own trampolines, and functions elsewhere. The
trampolines of others are functions at addresses. -/
def Target.seenBy (address : Member → Nat → Nat) (member : Member) : Target Member → Xcommand
  | .server function => .server function
  | .trampoline owner context =>
      if owner = member then .trampoline context else .server (address owner context)

/-- The state of commands as one plugin sees it. -/
def Server.commands (address : Member → Nat → Nat) (server : Server Member) (member : Member) :
    Commands where
  gCallbackInstances := server.gCallbackInstances member
  live := server.live member
  table := fun name => (server.table name).map (Target.seenBy address member)

/-- What a plugin changes in the table as it sees it, it changes in the table. -/
def Server.step (address : Member → Nat → Nat) (server : Server Member) :
    Member × Command.Event → Server Member
  | (member, event) =>
    let before := server.commands address member
    let after := Command.step before event
    { gCallbackInstances :=
        Function.update server.gCallbackInstances member after.gCallbackInstances
      live := Function.update server.live member after.live
      table := fun name =>
        if after.table name = before.table name then server.table name
        else (after.table name).map (Target.of member) }

/-- Each plugin's events as its own code admits them, in any order. -/
def serverSystem (address : Member → Nat → Nat) :
    System (Server Member) (Member × Command.Event) where
  admits := fun server event => Command.Admits (server.commands address event.1) event.2
  step := Server.step address

/-- What the server runs for an issued name. A trampoline runs in the plugin it is of. -/
def Server.issue (address : Member → Nat → Nat) (server : Server Member) (name : Bytes) : Issued :=
  match server.table name with
  | none => .unknown
  | some (.server function) => .server function
  | some (.trampoline owner context) =>
      .functor (staticInvoke context (server.commands address owner)).1

variable {address : Member → Nat → Nat}

/-- A plugin sees what it wrote. -/
theorem seenBy_of (member : Member) (callback : Xcommand) :
    (Target.of member callback).seenBy address member = callback := by
  cases callback <;> simp [Target.of, Target.seenBy]

omit [DecidableEq Member] in
/-- States of commands are equal field by field. -/
theorem commands_ext {left right : Commands}
    (slots : left.gCallbackInstances = right.gCallbackInstances) (live : left.live = right.live)
    (table : left.table = right.table) : left = right := by
  cases left
  cases right
  congr

/-- To the plugin that makes it, a step on the server is a step of its commands. -/
theorem step_own (server : Server Member) (member : Member) (event : Command.Event) :
    (server.step address (member, event)).commands address member =
      Command.step (server.commands address member) event := by
  let before := server.commands address member
  let after := Command.step before event
  refine commands_ext (Function.update_self ..) (Function.update_self ..) ?_
  funext name
  have written : ((server.step address (member, event)).commands address member).table name =
      (if after.table name = before.table name then server.table name
        else (after.table name).map (Target.of member)).map (Target.seenBy address member) := rfl
  rw [written]
  by_cases unchanged : after.table name = before.table name
  · rw [if_pos unchanged, unchanged]
    rfl
  · rw [if_neg unchanged, Option.map_map]
    cases after.table name with
    | none => rfl
    | some callback => exact congrArg some (seenBy_of member callback)

/-- Steps on the server are shared steps of commands. -/
theorem server_shares : Shares Command.system (serverSystem address) (Server.commands address) where
  admits := fun _ _ _ admitted => admitted
  own := fun server member event _ => step_own server member event

/-! ## What a plugin does to the others -/

/-- What the steps of others leave of the commands of a plugin: its slots and objects,
and the names that they do not take for something else. -/
structure Interferes (before after : Commands) : Prop where
  slots : after.gCallbackInstances = before.gCallbackInstances
  live : after.live = before.live
  table : ∀ name, after.table name = before.table name ∨
    ∀ context, after.table name ≠ some (.trampoline context)

/-- A step of one plugin interferes with the commands of another one. -/
theorem step_other (server : Server Member) {actor member : Member} (other : member ≠ actor)
    (event : Command.Event) :
    Interferes (server.commands address member)
      ((server.step address (actor, event)).commands address member) where
  slots := Function.update_of_ne other ..
  live := Function.update_of_ne other ..
  table := by
    intro name
    let before := server.commands address actor
    let after := Command.step before event
    have written :
        ((server.step address (actor, event)).commands address member).table name =
          (if after.table name = before.table name then server.table name
            else (after.table name).map (Target.of actor)).map (Target.seenBy address member) := rfl
    rw [written]
    by_cases unchanged : after.table name = before.table name
    · rw [if_pos unchanged]
      exact Or.inl rfl
    · rw [if_neg unchanged, Option.map_map]
      refine Or.inr fun context => ?_
      cases after.table name with
      | none => simp
      | some callback => cases callback <;> simp [Target.of, Target.seenBy, other.symm]

omit [DecidableEq Member] in
/-- Interference keeps the invariant: it binds no trampoline of the plugin. -/
theorem wellFormed_interfered {capacity : Nat} {before after : Commands}
    (wellFormed : WellFormed capacity before) (interferes : Interferes before after) :
    WellFormed capacity after := by
  obtain ⟨slots, live, table⟩ := interferes
  obtain ⟨slotsAfter, liveAfter, tableAfter⟩ := after
  subst slots live
  exact
    { slots := wellFormed.slots
      trampolines := wellFormed.trampolines
      methods := wellFormed.methods
      assigns := wellFormed.assigns
      wrappers := wellFormed.wrappers
      bound := by
        intro name context held
        rcases table name with same | never
        · exact wellFormed.bound name context (same.symm.trans held)
        · exact absurd held (never context) }

/-- In every interleaving the commands of every plugin keep their invariant. -/
theorem server_wellFormed {capacity : Member → Nat} {server final : Server Member}
    {events : List (Member × Command.Event)} (run : Run (serverSystem address) server events final)
    (initially : Everywhere (Server.commands address) (fun member => WellFormed (capacity member))
      server) :
    Everywhere (Server.commands address) (fun member => WellFormed (capacity member)) final := by
  apply interleaved_preserves server_shares _ _ run initially
  · intro member seen event admitted wellFormed
    exact step_wellFormed seen event admitted wellFormed
  · intro state actor event member other admitted holds
    exact wellFormed_interfered (holds member) (step_other state other event)

/-- Before any plugin has commands the invariant holds for each of them. -/
theorem server_initial (capacity : Member → Nat) (table : Bytes → Option (Target Member))
    (foreign : ∀ name owner context, table name ≠ some (.trampoline owner context)) :
    Everywhere (Server.commands address) (fun member => WellFormed (capacity member))
      (Server.initial capacity table) := by
  intro member
  apply wellFormed_initial
  intro name context bound
  obtain ⟨target, held, seen⟩ := Option.map_eq_some_iff.mp bound
  cases target with
  | server function => simp [Target.seenBy] at seen
  | trampoline owner context => exact foreign name owner context held

/-! ## What names run -/

/-- Whether an event of a plugin touches a name, given what the plugin has. -/
def ServerTouches (address : Member → Nat → Nat) (name : Bytes) (server : Server Member)
    (event : Member × Command.Event) : Prop :=
  Touches name (server.commands address event.1) event.2

/-- A name is bound to a function of the server after a step exactly if it was before and
the step does not touch the name. The plugin that makes the step sees the function as
bound, and writes no function itself. -/
theorem server_function_step {capacity : Nat} (server : Server Member)
    (event : Member × Command.Event)
    (admitted : (serverSystem address).admits server event)
    (wellFormed : WellFormed capacity (server.commands address event.1)) (name : Bytes)
    (function : Nat) :
    (server.step address event).table name = some (.server function) ↔
      server.table name = some (.server function) ∧ ¬ ServerTouches address name server event := by
  obtain ⟨member, event⟩ := event
  let before := server.commands address member
  let after := Command.step before event
  have seen := fun number => server_step_iff number name event admitted wellFormed
  have written : (server.step address (member, event)).table name =
      if after.table name = before.table name then server.table name
      else (after.table name).map (Target.of member) := rfl
  have looked : before.table name =
      (server.table name).map (Target.seenBy address member) := rfl
  rw [written]
  by_cases unchanged : after.table name = before.table name
  · rw [if_pos unchanged, iff_self_and]
    intro bound
    have here : before.table name = some (.server function) := by
      rw [looked, bound]
      rfl
    exact ((seen function).mp (unchanged.trans here)).2
  · rw [if_neg unchanged]
    refine iff_of_false ?_ ?_
    · intro made
      obtain ⟨callback, wrote, target⟩ := Option.map_eq_some_iff.mp made
      cases callback with
      | server number =>
        have kept := ((seen number).mp wrote).1
        exact unchanged (wrote.trans kept.symm)
      | trampoline context => simp [Target.of] at target
    · rintro ⟨bound, untouched⟩
      have here : before.table name = some (.server function) := by
        rw [looked, bound]
        rfl
      exact unchanged (((seen function).mpr ⟨here, untouched⟩).trans here.symm)

/-- In every interleaving of the plugins, every plugin has at most as many live commands
as slots; a bound trampoline, of whichever plugin, runs the closure of a live command of
that plugin and that name; and a name runs a function of the server exactly if it did at
the start and no event of any plugin touched it. -/
theorem issue_interleaved (capacity : Member → Nat) (address : Member → Nat → Nat)
    (table : Bytes → Option (Target Member))
    (foreign : ∀ name owner context, table name ≠ some (.trampoline owner context))
    (events : List (Member × Command.Event)) (server : Server Member)
    (run : Run (serverSystem address) (Server.initial capacity table) events server) :
    (∀ member, (server.live member).length ≤ capacity member) ∧
    (∀ name owner context, server.table name = some (.trampoline owner context) →
      ∃ command ∈ server.live owner, command.slot = context ∧ command.mCommandName.cString = name ∧
        server.issue address name = .functor (.ok command.mImpl.mFunctor)) ∧
    ∀ name function, server.table name = some (.server function) ↔
      table name = some (.server function) ∧
        Along (serverSystem address) (fun before event => ¬ ServerTouches address name before event)
          (Server.initial capacity table) events := by
  have initially : Everywhere (Server.commands address) _ _ := server_initial capacity table foreign
  have wellFormed := server_wellFormed run initially
  refine ⟨fun member => live_fits (wellFormed member), ?_, ?_⟩
  · intro name owner context bound
    have seen : (server.commands address owner).table name = some (.trampoline context) := by
      simp [Server.commands, bound, Target.seenBy]
    obtain ⟨command, isLive, rfl, named⟩ := (wellFormed owner).bound name context seen
    refine ⟨command, isLive, rfl, named, ?_⟩
    simp [Server.issue, bound, staticInvoke_live (wellFormed owner) isLive]
  · intro name function
    apply run_lasts_iff _ _ run initially
    · intro before event admitted holds
      exact server_wellFormed (.next admitted (.done _)) holds
    · intro before event admitted holds
      exact server_function_step before event admitted (holds event.1) name function

/-- Two plugins with a slot each; the second one takes the name of the first one's
command over. -/
def takeover : List (Bool × Command.Event) :=
  [(false, .construct 1 (literal "login") (some 10) false),
    (true, .construct 1 (literal "login") (some 20) true)]

/-- The server after it. -/
def takenOver : Server Bool :=
  takeover.foldl (Server.step fun _ context => context) (Server.initial (fun _ => 1) fun _ => none)

/-- These events are possible. -/
theorem takeover_run : Run (serverSystem fun _ context => context)
    (Server.initial (fun _ => 1) fun _ => none) takeover takenOver :=
  .next (show Command.find _ 1 = none by decide) (.next (show Command.find _ 1 = none by decide)
    (.done _))

/-- The name then runs the closure of a command of the second plugin. -/
theorem issue_interleaved_takeover :
    ∃ command ∈ takenOver.live true, takenOver.issue (fun _ context => context) (literal "login") =
      .functor (.ok command.mImpl.mFunctor) := by
  obtain ⟨_, runs, _⟩ := issue_interleaved (fun _ => 1) (fun _ context => context) (fun _ => none)
    (by simp) takeover takenOver takeover_run
  obtain ⟨command, isLive, _, _, issued⟩ := runs (literal "login") true 0 (by decide)
  exact ⟨command, isLive, issued⟩

/-! ## A plugin alone -/

/-- Two states of commands with the same slots and objects and the same bindings of some
names. -/
structure AgreesOn (names : Bytes → Prop) (left right : Commands) : Prop where
  slots : left.gCallbackInstances = right.gCallbackInstances
  live : left.live = right.live
  table : ∀ name, names name → left.table name = right.table name

omit [DecidableEq Member] in
/-- What an event does to slots and objects does not depend on the table, and what it
does to a name depends on the binding of this name only. -/
theorem step_agrees {names : Bytes → Prop} {left right : Commands}
    (agrees : AgreesOn names left right) (event : Command.Event) :
    AgreesOn names (Command.step left event) (Command.step right event) := by
  obtain ⟨slots, live, leftTable⟩ := left
  obtain ⟨_, _, rightTable⟩ := right
  obtain ⟨sameSlots, sameLive, table⟩ := agrees
  simp only at sameSlots sameLive table
  subst sameSlots sameLive
  cases event with
  | construct this name functor replace =>
    have search := reserveFrom_claims this slots 0
    cases claimed : Slots.claim this (slots.map CallbackBase.mCommandInstance) with
    | none =>
      rw [claimed] at search
      simp only [Command.step, construct_throws this name functor replace ⟨slots, live, _⟩ _ search]
      exact ⟨rfl, rfl, table⟩
    | some claim =>
      rw [claimed] at search
      obtain ⟨slot, _, reserved⟩ := search
      simp only [Command.step,
        construct_returns this name functor replace ⟨slots, live, _⟩ _ _ _ reserved]
      refine ⟨rfl, rfl, ?_⟩
      intro asked member
      by_cases same : asked = name.cString
      · subst same
        simp [registered, table _ member]
      · simp [registered, same, table asked member]
  | destroy address =>
    have located : find ⟨slots, live, leftTable⟩ address = find ⟨slots, live, rightTable⟩ address :=
      rfl
    simp only [Command.step, located]
    cases find ⟨slots, live, rightTable⟩ address with
    | none => exact ⟨rfl, rfl, table⟩
    | some command =>
      have updated : ∀ asked, names asked →
          Function.update leftTable command.mCommandName.cString none asked =
            Function.update rightTable command.mCommandName.cString none asked := by
        intro asked member
        by_cases same : asked = command.mCommandName.cString
        · simp [same]
        · simp [same, table asked member]
      simp only [destroy, removeCommand, pluginRemoveCommand, Impl.destroy]
      cases command.mImpl.mCallbackWrapper.mCallback <;> exact ⟨rfl, rfl, updated⟩
  | remove name =>
    refine ⟨rfl, rfl, ?_⟩
    intro asked member
    by_cases same : asked = name.cString
    · simp [Command.step, removeCommand, pluginRemoveCommand, same]
    · simp [Command.step, removeCommand, pluginRemoveCommand, same, table asked member]

/-- An event is about a name: a command of that name is built or destroyed, or the name is
removed. -/
def Names (name : Bytes) (commands : Commands) : Command.Event → Prop
  | .construct _ other _ _ => other.cString = name
  | .destroy address => ∃ command, find commands address = some command ∧
      command.mCommandName.cString = name
  | .remove other => other.cString = name

omit [DecidableEq Member] in
/-- An event leaves the names alone that it is not about. -/
theorem step_unnamed {capacity : Nat} {commands : Commands} {event : Command.Event}
    (admitted : Command.Admits commands event) (wellFormed : WellFormed capacity commands) {name : Bytes}
    (unnamed : ¬ Names name commands event) :
    (Command.step commands event).table name = commands.table name := by
  cases event with
  | construct this other functor replace =>
    have different : name ≠ other.cString := fun same => unnamed same.symm
    rcases step_construct wellFormed this other functor replace with ⟨context, _, stepped⟩ | unchanged
    · simp [stepped, constructed, registered, different]
    · rw [unchanged]
  | destroy address =>
    obtain ⟨command, found⟩ := Option.ne_none_iff_exists'.mp admitted
    have different : name ≠ command.mCommandName.cString :=
      fun same => unnamed ⟨command, found, same.symm⟩
    rw [step_destroy wellFormed found]
    exact Function.update_of_ne different ..
  | remove other =>
    have different : name ≠ other.cString := fun same => unnamed same.symm
    exact Function.update_of_ne different ..

/-- A step of a plugin that is not about a name leaves it on the server. -/
theorem server_unnamed {capacity : Nat} {server : Server Member} {actor : Member}
    {event : Command.Event}
    (admitted : (serverSystem address).admits server (actor, event))
    (wellFormed : WellFormed capacity (server.commands address actor)) {name : Bytes}
    (unnamed : ¬ Names name (server.commands address actor) event) :
    (server.step address (actor, event)).table name = server.table name :=
  if_pos (step_unnamed admitted wellFormed unnamed)

/-- Along an interleaving, a plugin agrees with itself alone on the names that no other
plugin's event is about. -/
theorem agrees_alone {capacity : Member → Nat} {start server : Server Member}
    {events : List (Member × Command.Event)} (run : Run (serverSystem address) start events server)
    (initially : Everywhere (Server.commands address) (fun member => WellFormed (capacity member))
      start) (member : Member) (names : Bytes → Prop)
    (own : Along (serverSystem address) (fun before event => ∀ name, names name →
      event.1 ≠ member → ¬ Names name (before.commands address event.1) event.2) start events) :
    let alone := after Command.system (start.commands address member) (ownEvents member events)
    Run Command.system (start.commands address member) (ownEvents member events) alone ∧
      AgreesOn names (server.commands address member) alone := by
  apply run_alone server_shares _ _ _ run own initially ⟨rfl, rfl, fun _ _ => rfl⟩
  · intro before event admitted holds
    exact server_wellFormed (.next admitted (.done _)) holds
  · intro seen alone event agrees admitted
    have located : Command.find alone = Command.find seen := by
      funext address
      rw [Command.find, Command.find, agrees.live]
    refine ⟨?_, step_agrees agrees event⟩
    cases event with
    | construct this _ _ _ => exact (congrFun located this).trans admitted
    | destroy address => exact fun absent => admitted ((congrFun located address).symm.trans absent)
    | remove _ => trivial
  · intro before actor event alone other admitted holds quiet agrees
    have interferes : Interferes (before.commands address member)
        ((before.step address (actor, event)).commands address member) :=
      step_other before other.symm event
    refine ⟨interferes.slots.trans agrees.slots, interferes.live.trans agrees.live, ?_⟩
    intro name named
    rw [← agrees.table name named]
    have kept := server_unnamed admitted (holds actor) (quiet name named other)
    exact congrArg (Option.map (Target.seenBy address member)) kept

/-- In every interleaving, each plugin is where it would be on a server of its own: its
events are possible there, and lead to the same slots and the same live commands, so that
it gets or lacks the same slots, and to the same bindings of all names that no other
plugin's event on the way is about. -/
theorem plugin_alone (capacity : Member → Nat) (address : Member → Nat → Nat)
    (table : Bytes → Option (Target Member))
    (foreign : ∀ name owner context, table name ≠ some (.trampoline owner context))
    (events : List (Member × Command.Event)) (server : Server Member)
    (run : Run (serverSystem address) (Server.initial capacity table) events server)
    (member : Member) :
    let start := Command.initial (capacity member) fun name =>
      (table name).map (Target.seenBy address member)
    let alone := (ownEvents member events).foldl Command.step start
    Run Command.system start (ownEvents member events) alone ∧
      server.gCallbackInstances member = alone.gCallbackInstances ∧
      server.live member = alone.live ∧
      ∀ name, Along (serverSystem address) (fun before event => event.1 ≠ member →
          ¬ Names name (before.commands address event.1) event.2)
        (Server.initial capacity table) events →
        (server.commands address member).table name = alone.table name := by
  intro start alone
  have initially : Everywhere (Server.commands address) _ _ := server_initial capacity table foreign
  obtain ⟨ran, agrees⟩ := agrees_alone run initially member _ (along_forall fun _ quiet => quiet)
  exact ⟨ran, agrees.slots, agrees.live, agrees.table⟩

/-- The first of the two plugins has the slot and the command that it would have alone. -/
theorem plugin_alone_takeover :
    takenOver.gCallbackInstances false =
        (Command.step (Command.initial 1 fun _ => none)
          (.construct 1 (literal "login") (some 10) false)).gCallbackInstances ∧
      (takenOver.commands (fun _ context => context) false).table (literal "status") = none := by
  obtain ⟨_, slots, _, table⟩ := plugin_alone (fun _ => 1) (fun _ context => context)
    (fun _ => none) (by simp) takeover takenOver takeover_run false
  refine ⟨slots, (table (literal "status") ?_).trans (by decide)⟩
  have different : ¬ (literal "login").cString = literal "status" := by decide
  exact ⟨fun own => absurd rfl own, fun _ => different, trivial⟩

end Plugins

end Plugpp
