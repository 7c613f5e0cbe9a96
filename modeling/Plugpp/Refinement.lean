import Plugpp.CommandRuns
import Plugpp.Registry

/-!
# Commands are a registry

Everything the slots and trampolines of the library do is hidden behind the registry:
the state of commands and the registry of its live commands go in step, event by event.
A construction returns exactly if the registry has room, a name runs what the registry
has for it, and every history of the registry, in which names are read up to a NUL, is one
of the commands.
-/

namespace Plugpp

open Bytes Code Runs

namespace Command

/-- The registry of a well-formed state: its directory and its live objects. -/
def registry {capacity : Nat} {commands : Commands} (wellFormed : WellFormed capacity commands) :
    Registry Bytes Pointer (Option Functor) Nat where
  directory := directory wellFormed
  owners := (commands.live.map self).toFinset
  counted := by
    intro address
    rw [List.mem_toFinset]
    constructor
    · intro member
      obtain ⟨command, isLive, rfl⟩ := List.mem_map.mp member
      simp [directory, find_live wellFormed isLive]
    · intro enrolled
      obtain ⟨command, found⟩ : ∃ command, find commands address = some command := by
        simpa [directory, Option.ne_none_iff_exists'] using enrolled
      obtain ⟨isLive, rfl⟩ := live_of_find found
      exact List.mem_map_of_mem isLive

/-- An event as an action on the registry, which reads a name up to its NUL. -/
def Event.action : Event → Registry.Action Bytes Pointer (Option Functor)
  | .construct this name functor replace => .enrol this name.cString functor replace
  | .destroy address => .close address
  | .remove name => .release name.cString

/-- The functions of the server in a table. -/
def serverFunction (table : Bytes → Option Xcommand) (name : Bytes) : Option Nat :=
  match table name with
  | some (.server function) => some function
  | _ => none

/-- What the server runs for a name, read off a directory. -/
def answer (directory : Directory Bytes Pointer (Option Functor) Nat) (name : Bytes) : Issued :=
  match directory.holder name with
  | none => .unknown
  | some (.inl function) => .server function
  | some (.inr owner) => .functor (.ok ((directory.live owner).bind Prod.snd))

/-- The state is well-formed and the registry is its registry. -/
def Represents (capacity : Nat) (commands : Commands)
    (abstract : Registry Bytes Pointer (Option Functor) Nat) : Prop :=
  ∃ wellFormed : WellFormed capacity commands, registry wellFormed = abstract

section Matching

variable {capacity : Nat} {commands : Commands}

/-- The registry counts the live objects: they have distinct addresses. -/
theorem card_owners (wellFormed : WellFormed capacity commands) :
    (registry wellFormed).owners.card = commands.live.length := by
  have distinct := wellFormed.assigns.owners
  simp only [assigned, List.map_map] at distinct
  have counted := List.toFinset_card_of_nodup distinct
  rw [List.length_map] at counted
  exact counted

/-- An address is unknown to the registry exactly if no object is found there. -/
theorem live_registry_none_iff (wellFormed : WellFormed capacity commands) (address : Pointer) :
    (registry wellFormed).directory.live address = none ↔ find commands address = none := by
  simp [registry, directory]

/-- The registry after a constructor that took a free slot. -/
theorem registry_constructed (wellFormed : WellFormed capacity commands) (context : Nat)
    (this : Pointer) (name : Bytes) (functor : Option Functor) (replace : Bool)
    (free : (occupants commands)[context]? = some none) (absent : find commands this = none)
    (after : WellFormed capacity (constructed commands context this name functor replace)) :
    registry after = (registry wellFormed).enrol this name.cString functor replace
      ((registry wellFormed).unknown_of_fresh
        ((live_registry_none_iff wellFormed this).mpr absent) _ _) := by
  apply Registry.ext_fields
  · exact directory_constructed wellFormed context this name functor replace free
      (fresh_of_find absent) ((registry wellFormed).unknown_of_fresh
        ((live_registry_none_iff wellFormed this).mpr absent) _ _)
  · show ((this :: commands.live.map self).toFinset : Finset Pointer) = _
    rw [List.toFinset_cons]
    rfl

/-- The registry after the destructor of a live command. -/
theorem registry_destroyed (wellFormed : WellFormed capacity commands) (command : Command)
    (isLive : command ∈ commands.live)
    (after : WellFormed capacity (destroyed commands command)) :
    registry after = (registry wellFormed).close command.self command.mCommandName.cString
      (live_enrolled wellFormed isLive) := by
  apply Registry.ext_fields
  · exact directory_destroyed wellFormed command isLive (live_enrolled wellFormed isLive)
  · ext address
    simp only [registry, destroyed, Registry.close, List.mem_toFinset, List.mem_map,
      List.mem_filter, Finset.mem_erase, decide_eq_true_eq]
    constructor
    · rintro ⟨other, ⟨otherLive, different⟩, rfl⟩
      exact ⟨different, other, otherLive, rfl⟩
    · rintro ⟨different, other, otherLive, rfl⟩
      exact ⟨other, ⟨otherLive, different⟩, rfl⟩

/-- The registry after a removal. -/
theorem registry_removed (wellFormed : WellFormed capacity commands) (name : Bytes)
    (after : WellFormed capacity (removeCommand name commands)) :
    registry after = (registry wellFormed).release name.cString :=
  Registry.ext_fields (directory_removed wellFormed name) rfl

/-- Commands and their registry go in step. -/
theorem registry_matching (capacity : Nat) :
    Matching system (Registry.system capacity) Event.action (Represents capacity) where
  admits := by
    rintro commands _ event ⟨wellFormed, rfl⟩
    cases event with
    | construct this name functor replace => exact (live_registry_none_iff wellFormed this).symm
    | destroy address => exact not_congr (live_registry_none_iff wellFormed address).symm
    | remove name => exact Iff.rfl
  step := by
    rintro commands _ event ⟨wellFormed, rfl⟩ admitted
    have after := step_wellFormed commands event admitted wellFormed
    refine ⟨after, ?_⟩
    show registry after = Registry.step capacity (registry wellFormed) event.action
    cases event with
    | construct this name functor replace =>
      have fresh := (live_registry_none_iff wellFormed this).mpr admitted
      rcases construct_cases wellFormed this name functor replace with
        ⟨room, context, free, returned⟩ | ⟨full, thrown⟩
      · have stepped : step commands (.construct this name functor replace) =
            constructed commands context this name functor replace := by simp [step, returned]
        rw [Event.action, Registry.step_enrol fresh (by rwa [card_owners])]
        rw [← registry_constructed wellFormed context this name functor replace free admitted
          (stepped ▸ after)]
        simp only [stepped]
      · have unchanged : step commands (.construct this name functor replace) = commands := by
          simp [step, thrown]
        rw [Event.action, Registry.step_refuse (by rwa [card_owners])]
        simp only [unchanged]
    | destroy address =>
      obtain ⟨command, found⟩ := Option.ne_none_iff_exists'.mp admitted
      obtain ⟨isLive, rfl⟩ := live_of_find found
      have stepped := step_destroy wellFormed found
      rw [Event.action, Registry.step_close (live_enrolled wellFormed isLive),
        ← registry_destroyed wellFormed command isLive (stepped ▸ after)]
      simp only [stepped]
    | remove name => exact registry_removed wellFormed name after

/-- The server runs for a name what the directory has for it. -/
theorem issue_answer (wellFormed : WellFormed capacity commands) (name : Bytes) :
    issue commands name = answer (directory wellFormed) name := by
  cases binding : commands.table name with
  | none =>
    have unheld : (directory wellFormed).holder name = none :=
      (holder_none_iff wellFormed name).mpr binding
    simp [answer, unheld, issue, binding]
  | some callback =>
    cases callback with
    | server function => simp [answer, directory, holder, issue, binding]
    | trampoline context =>
      obtain ⟨command, isLive, rfl, rfl⟩ := wellFormed.bound name context binding
      have held : (directory wellFormed).holder command.mCommandName.cString =
          some (.inr command.self) := (holder_command_iff wellFormed isLive _).mpr binding
      rw [issue_bound wellFormed isLive binding, answer, held]
      simp [directory, find_live wellFormed isLive]

/-- Before any command the registry is vacant. -/
theorem registry_initial {table : Bytes → Option Xcommand}
    (foreign : ∀ name context, table name ≠ some (.trampoline context)) :
    registry (wellFormed_initial capacity table foreign) =
      Registry.vacant (serverFunction table) := by
  apply Registry.ext_fields
  · apply Directory.ext_fields
    · rfl
    · funext name
      cases binding : table name with
      | none =>
        simp [registry, directory, holder, initial, Registry.vacant, serverFunction, binding]
      | some callback =>
        cases callback with
        | server function =>
          simp [registry, directory, holder, initial, Registry.vacant, serverFunction, binding]
        | trampoline context => exact absurd binding (foreign name context)
  · rfl

end Matching

/-- The registry shows all that can be seen of the commands: what each name runs, and
whether a construction returns. -/
def Shows (capacity : Nat) (abstract : Registry Bytes Pointer (Option Functor) Nat)
    (commands : Commands) : Prop :=
  (∀ name, issue commands name = answer abstract.directory name) ∧
  ∀ this name functor replace, (construct this name functor replace commands).1 = .ok ⟨⟩ ↔
    abstract.owners.card < capacity

/-- The registry of a state shows it. -/
theorem shows_of_represents {capacity : Nat} {commands : Commands}
    {abstract : Registry Bytes Pointer (Option Functor) Nat}
    (represents : Represents capacity commands abstract) : Shows capacity abstract commands := by
  obtain ⟨wellFormed, rfl⟩ := represents
  refine ⟨issue_answer wellFormed, ?_⟩
  intro this name functor replace
  rw [card_owners]
  rcases construct_cases wellFormed this name functor replace with
    ⟨room, _, _, returned⟩ | ⟨full, thrown⟩
  · simp [returned, room]
  · simp [thrown, full]

/-- The runs of commands are the runs of the registry. Whatever happens to commands
happens to the registry that starts out vacant, which then shows them; and whatever can
happen to that registry by the actions of events can happen to commands, with the same
outcome. These are the actions whose names have no NUL in them. -/
theorem runs_of_registry (capacity : Nat) (table : Bytes → Option Xcommand)
    (foreign : ∀ name context, table name ≠ some (.trampoline context)) (events : List Event) :
    let vacant : Registry Bytes Pointer (Option Functor) Nat :=
      Registry.vacant (serverFunction table)
    (∀ commands, Run system (initial capacity table) events commands →
      ∃ abstract, Run (Registry.system capacity) vacant (events.map Event.action) abstract ∧
        Shows capacity abstract commands) ∧
    ∀ abstract, Run (Registry.system capacity) vacant (events.map Event.action) abstract →
      ∃ commands, Run system (initial capacity table) events commands ∧
        Shows capacity abstract commands := by
  intro vacant
  have initially : Represents capacity (initial capacity table) vacant :=
    ⟨wellFormed_initial capacity table foreign, registry_initial foreign⟩
  constructor
  · intro commands run
    obtain ⟨abstract, matched, represents⟩ :=
      run_matches (registry_matching capacity) run initially
    exact ⟨abstract, matched, shows_of_represents represents⟩
  · intro abstract run
    obtain ⟨commands, matched, represents⟩ :=
      run_matched (registry_matching capacity) run initially
    exact ⟨commands, matched, shows_of_represents represents⟩

/-- The replacement of one command by another, as actions on a registry of two. -/
theorem runs_of_registry_replacement :
    ∃ abstract, Run (Registry.system 2) (Registry.vacant fun _ => none)
        (replacement.map Event.action) abstract ∧
      answer abstract.directory (literal "login") = .functor (.ok (some 20)) := by
  obtain ⟨abstract, matched, answers, _⟩ :=
    (runs_of_registry 2 (fun _ => none) (by simp) replacement).1 _ replacement_run
  exact ⟨abstract, matched, (answers (literal "login")).symm⟩

end Command
end Plugpp
