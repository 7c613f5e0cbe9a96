import Plugpp.CommandRuns
import Plugpp.Lifecycle

/-!
# What the server can rely on in a session

In every session the server's calls have a defined outcome if a message that is sent can be
read: an exported function returns, and a trampoline returns or throws what the closure of
a live command throws.

And as long as the plugins' code keeps off the names that the server has bound, the names
are in order: the server's own run the server's functions throughout, and any other runs
nothing or the closure of a live command of that name, which the registered plugin owns.
-/

namespace Plugpp

open Bytes Code Runs Exported

section Outcomes

variable {capacity : Nat} {server : Bytes → Option Command.Xcommand}

/-- A name of the server's own runs the server's function; any other runs nothing, or the
closure of a live command of that name that is owned. -/
theorem holding_issue {owned : List Pointer} {commands : Commands}
    (holding : Holding capacity server owned commands) (name : Bytes) :
    (∀ function, server name = some (.server function) →
      Command.issue commands name = .server function) ∧
    (server name = none → Command.issue commands name = .unknown ∨
      ∃ command ∈ commands.live, command.self ∈ owned ∧ command.mCommandName.cString = name ∧
        Command.issue commands name = .functor (.ok command.mImpl.mFunctor)) := by
  constructor
  · intro function own
    rcases holding.table name with same | ⟨unbound, _⟩
    · simp [Command.issue, same, own]
    · simp [own] at unbound
  · intro foreign
    rcases holding.table name with same | ⟨_, context, bound⟩
    · exact Or.inl (by simp [Command.issue, same, foreign])
    · obtain ⟨command, isLive, rfl, named⟩ := holding.wellFormed.bound name context bound
      exact Or.inr ⟨command, isLive, holding.own.mem_iff.mp (List.mem_map_of_mem isLive), named,
        Command.issue_bound holding.wellFormed isLive bound⟩

end Outcomes

/-- In every session a run of calls reaches in which the plugins' code registers and removes
only names that the server has not bound: there are at most as many live commands as slots;
the names of the server run the server's functions; and any other name runs nothing, or the
closure of a live command of that name that the plugin owns. -/
theorem session_names (base : Linked (List Pointer)) (allocator : Allocator) (capacity : Nat)
    (server : Bytes → Option Command.Xcommand)
    (foreign : ∀ name context, server name ≠ some (.trampoline context)) (host : Host)
    (calls : List HostCall) (session : Session)
    (run : Run (lifecycleSystem base allocator server) (start capacity server host) calls session) :
    session.world.env.commands.live.length ≤ capacity ∧
    ∀ name,
      (∀ function, server name = some (.server function) →
        Command.issue session.world.env.commands name = .server function) ∧
      (server name = none → Command.issue session.world.env.commands name = .unknown ∨
        ∃ command ∈ session.world.env.commands.live, command.self ∈ session.world.owned ∧
          command.mCommandName.cString = name ∧
          Command.issue session.world.env.commands name =
            .functor (.ok command.mImpl.mFunctor)) := by
  have sound : Sound capacity server session :=
    run_preserves (fun before call admitted holds =>
      (step_sound base allocator before call admitted holds).1) run
      (sound_start capacity host foreign)
  have holding := sound.orderly.holding
  exact ⟨Command.live_fits holding.wellFormed, holding_issue holding⟩

/-! ## A plugin with a command that throws -/

/-- A server with one command of its own. -/
def statusServer : Bytes → Option Command.Xcommand :=
  fun name => if name = literal "status" then some (.server 5) else none

/-- A plugin with the command `login`, whose closure throws. -/
def failing : Behaviour where
  main := .register (.command (literal "login") (some 7) false .returns .throws) .returns .throws
  virtual := fun _ => .returns
  functor := fun _ => .throws .unknown
  answer := fun call (refs, host) => (call.default, refs, host)

/-- The load of that plugin. -/
def failingInit : HostCall := ⟨.onInit, (), emptyHost, failing⟩

/-- Sessions with that server. -/
def statusSystem : System Session HostCall :=
  lifecycleSystem (fixed (fun call => .ok call.default) (.ok ())) behind statusServer

/-- The session after the load, with two slots. -/
def failingLoaded : Session :=
  statusSystem.step (start 2 statusServer emptyHost) failingInit

/-- The plugin keeps off the server's name. -/
theorem failing_names : failing.Names fun name => statusServer name = none where
  main := ⟨⟨by decide, trivial, fun _ => trivial⟩, trivial, fun _ => trivial⟩
  virtual := fun _ => trivial
  functor := fun _ => trivial

/-- The run that loads it. -/
theorem failing_run :
    Run statusSystem (start 2 statusServer emptyHost) [failingInit] failingLoaded :=
  .next ⟨False.elim, nofun, failing_names⟩ (.done _)

/-- The server has no trampoline of its own. -/
theorem statusServer_foreign (name : Bytes) (context : Nat) :
    statusServer name ≠ some (.trampoline context) := by
  unfold statusServer
  split <;> simp

/-- With the plugin loaded the server still runs its own command. -/
theorem session_names_failing :
    Command.issue failingLoaded.world.env.commands (literal "status") = .server 5 :=
  ((session_names _ behind 2 statusServer statusServer_foreign emptyHost [failingInit]
    failingLoaded failing_run).2 (literal "status")).1 5 (by decide)

end Plugpp
