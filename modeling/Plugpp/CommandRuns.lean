import Plugpp.CommandInvariant
import Plugpp.Runs

/-!
# Runs of commands

A run is any sequence of constructions, destructions and direct removals from
free slots and a table without trampolines. The host constructs an object only at
an address no live object has, and destroys only live objects.

Every run keeps the invariant. From it: a bound trampoline always leads to the
live command of that name; slots are neither leaked nor shared; and a command's
binding survives everything but its own destruction, a replacement and a removal,
provided that no command is destroyed while another one holds its name. Without
that proviso the destructor, which removes by name, takes the other command's
binding away.
-/

namespace Plugpp

open Bytes Runs

namespace Command

/-- What can happen to commands. -/
inductive Event where
  | construct (this : Pointer) (name : Bytes) (functor : Option Functor) (replace : Bool)
  | destroy (command : Pointer)
  | remove (name : Bytes)
deriving DecidableEq

/-- The state after an event, a throwing construction included. -/
def step (commands : Commands) : Event → Commands
  | .construct this name functor replace => (construct this name functor replace commands).2
  | .destroy address =>
    match find commands address with
    | some command => destroy command commands
    | none => commands
  | .remove name => removeCommand name commands

/-- Objects are built at unused addresses, and only live objects are destroyed. -/
def Admits (commands : Commands) : Event → Prop
  | .construct this _ _ _ => find commands this = none
  | .destroy address => find commands address ≠ none
  | .remove _ => True

/-- Constructions, destructions and removals on the state of commands. -/
def system : System Commands Event where
  admits := Admits
  step := step

/-- The names an event carries have no NUL. -/
def Event.NulFree : Event → Prop
  | .construct _ name _ _ => 0 ∉ name
  | .destroy _ => True
  | .remove name => 0 ∉ name

/-- No live object is where no object is found. -/
theorem fresh_of_find {commands : Commands} {this : Pointer} (absent : find commands this = none) :
    ∀ command ∈ commands.live, command.self ≠ this := by
  simpa [find] using absent

/-- A found object is live and has the address it was looked up at. -/
theorem live_of_find {commands : Commands} {address : Pointer} {command : Command}
    (found : find commands address = some command) :
    command ∈ commands.live ∧ command.self = address :=
  ⟨List.mem_of_find?_eq_some found, by simpa using List.find?_some found⟩

section Steps

variable {capacity : Nat} {commands : Commands}

/-- The state after a construction: a free slot taken, or nothing changed. -/
theorem step_construct (wellFormed : WellFormed capacity commands) (this : Pointer)
    (name : Bytes) (functor : Option Functor) (replace : Bool) :
    (∃ context, (occupants commands)[context]? = some none ∧
      step commands (.construct this name functor replace) =
        constructed commands context this name functor replace) ∨
    step commands (.construct this name functor replace) = commands := by
  rcases construct_cases wellFormed this name functor replace with
    ⟨_, context, free, returned⟩ | ⟨_, thrown⟩
  · exact Or.inl ⟨context, free, by simp [step, returned]⟩
  · exact Or.inr (by simp [step, thrown])

/-- The state after the destruction of the object found at an address. -/
theorem step_destroy (wellFormed : WellFormed capacity commands) {address : Pointer}
    {command : Command} (found : find commands address = some command) :
    step commands (.destroy address) = destroyed commands command := by
  simp [step, found, destroy_returns wellFormed (live_of_find found).1]

/-- Every admitted event keeps the invariant. -/
theorem step_wellFormed (commands : Commands) (event : Event) (admitted : Admits commands event)
    (wellFormed : WellFormed capacity commands) : WellFormed capacity (step commands event) := by
  cases event with
  | construct this name functor replace =>
    rcases step_construct wellFormed this name functor replace with
      ⟨context, free, stepped⟩ | unchanged
    · rw [stepped]
      exact wellFormed_constructed wellFormed context this name functor replace free
        (fresh_of_find admitted)
    · rwa [unchanged]
  | destroy address =>
    obtain ⟨command, found⟩ := Option.ne_none_iff_exists'.mp admitted
    rw [step_destroy wellFormed found]
    exact wellFormed_destroyed wellFormed command (live_of_find found).1
  | remove name => exact wellFormed_removed wellFormed name

end Steps

/-- Every run keeps the invariant. -/
theorem run_wellFormed {capacity : Nat} {commands final : Commands} {events : List Event}
    (run : Run system commands events final) (wellFormed : WellFormed capacity commands) :
    WellFormed capacity final :=
  run_preserves step_wellFormed run wellFormed

/-- A live command was live before the step or is built by it, with the name and
the functor the construction was given. -/
theorem live_of_step {capacity : Nat} {commands : Commands} {event : Event}
    (admitted : Admits commands event) (wellFormed : WellFormed capacity commands)
    {command : Command} (isLive : command ∈ (step commands event).live) :
    command ∈ commands.live ∨ ∃ replace,
      event = .construct command.self command.mCommandName command.mImpl.mFunctor replace := by
  cases event with
  | construct this name functor replace =>
    rcases step_construct wellFormed this name functor replace with ⟨context, _, stepped⟩ | unchanged
    · rw [stepped] at isLive
      rcases List.mem_cons.mp isLive with rfl | older
      · exact Or.inr ⟨replace, rfl⟩
      · exact Or.inl older
    · exact Or.inl (unchanged ▸ isLive)
  | destroy address =>
    obtain ⟨destroyedCommand, found⟩ := Option.ne_none_iff_exists'.mp admitted
    rw [step_destroy wellFormed found] at isLive
    exact Or.inl (List.mem_of_mem_filter isLive)
  | remove name => exact Or.inl isLive

/-- A live command at the end of a run was live at its start or is built in it. -/
theorem live_of_run {capacity : Nat} {commands final : Commands} {events : List Event}
    (run : Run system commands events final) (wellFormed : WellFormed capacity commands)
    {command : Command} (isLive : command ∈ final.live) :
    command ∈ commands.live ∨ ∃ replace,
      Event.construct command.self command.mCommandName command.mImpl.mFunctor replace ∈ events := by
  induction run with
  | done state => exact Or.inl isLive
  | @next state final event events admitted rest inductionHypothesis =>
    rcases inductionHypothesis (step_wellFormed state event admitted wellFormed) isLive with
      earlier | ⟨replace, later⟩
    · rcases live_of_step admitted wellFormed earlier with older | ⟨replace, rfl⟩
      · exact Or.inl older
      · exact Or.inr ⟨replace, List.mem_cons_self⟩
    · exact Or.inr ⟨replace, List.mem_cons_of_mem _ later⟩

/-! ## Dispatch -/

/-- Issuing a name bound to a live command's trampoline runs the command's functor. -/
theorem issue_bound {capacity : Nat} {commands : Commands}
    (wellFormed : WellFormed capacity commands) {command : Command}
    (isLive : command ∈ commands.live) {name : Bytes}
    (bound : commands.table name = some (.trampoline command.slot)) :
    issue commands name = .functor (.ok command.mImpl.mFunctor) := by
  simp [issue, bound, staticInvoke_live wellFormed isLive]

/-- In every state a run reaches, a binding to trampoline `k` has slot `k` occupied
by one live command, constructed with exactly the bound name; issuing the name
runs the functor that command was constructed with, and no name reaches a
released slot. -/
theorem dispatch_safety (capacity : Nat) (table : Bytes → Option Xcommand)
    (foreign : ∀ name context, table name ≠ some (.trampoline context))
    (events : List Event) (names : ∀ event ∈ events, event.NulFree)
    (commands : Commands) (run : Run system (initial capacity table) events commands) :
    (∀ name context, commands.table name = some (.trampoline context) →
      ∃ command ∈ commands.live,
        command.slot = context ∧ command.mCommandName = name ∧
        commands.gCallbackInstances[context]? =
          some ⟨.trampoline context, some command.self, some .callback⟩ ∧
        (∃ replace, Event.construct command.self name command.mImpl.mFunctor replace ∈ events) ∧
        issue commands name = .functor (.ok command.mImpl.mFunctor) ∧
        ∀ other ∈ commands.live, other.slot = context → other = command) ∧
    ∀ name stop, issue commands name ≠ .functor (.error stop) := by
  have start := wellFormed_initial capacity table foreign
  have wellFormed := run_wellFormed run start
  constructor
  · intro name context bound
    obtain ⟨command, isLive, rfl, named⟩ := wellFormed.bound name context bound
    obtain ⟨replace, built⟩ : ∃ replace,
        Event.construct command.self command.mCommandName command.mImpl.mFunctor replace ∈ events := by
      cases live_of_run run start isLive with
      | inl older => simp [initial] at older
      | inr built => exact built
    have exactName : command.mCommandName = name := by
      rw [← named, cString_free command.mCommandName (names _ built)]
    refine ⟨command, isLive, rfl, exactName, slot_occupied wellFormed isLive,
      ⟨replace, exactName ▸ built⟩, issue_bound wellFormed isLive bound, ?_⟩
    intro other otherLive sameSlot
    exact slot_injective wellFormed otherLive isLive sameSlot
  · intro name stop issued
    cases binding : commands.table name with
    | none => simp [issue, binding] at issued
    | some callback =>
      cases callback with
      | server function => simp [issue, binding] at issued
      | trampoline context =>
        obtain ⟨command, isLive, rfl, _⟩ := wellFormed.bound name context binding
        simp [issue_bound wellFormed isLive binding] at issued

/-- Two commands of one name, the second replacing the first. -/
def replacement : List Event :=
  [.construct 1 (literal "login") (some 10) false, .construct 2 (literal "login") (some 20) true]

/-- The run of the replacement, from two slots and an empty table. -/
theorem replacement_run : Run system (initial 2 fun _ => none) replacement
    (replacement.foldl step (initial 2 fun _ => none)) :=
  .next rfl (.next rfl (.done _))

/-- After it the name runs the functor of the command in slot 1, and no name reaches
a released slot. -/
theorem dispatch_safety_replacement :
    (∃ command ∈ (replacement.foldl step (initial 2 fun _ => none)).live, command.slot = 1 ∧
      issue (replacement.foldl step (initial 2 fun _ => none)) (literal "login") =
        .functor (.ok command.mImpl.mFunctor)) ∧
    ∀ name stop,
      issue (replacement.foldl step (initial 2 fun _ => none)) name ≠ .functor (.error stop) := by
  have names : ∀ event ∈ replacement, event.NulFree := by
    have free : 0 ∉ literal "login" := by decide
    simp [replacement, Event.NulFree, free]
  have safe := dispatch_safety 2 (fun _ => none) (by simp) replacement names _ replacement_run
  refine ⟨?_, safe.2⟩
  obtain ⟨command, isLive, leads, _, _, _, issued, _⟩ := safe.1 (literal "login") 1 (by decide)
  exact ⟨command, isLive, leads, issued⟩

/-! ## The pool -/

/-- In every state a run reaches: live commands have distinct slots, and the
occupied slots are theirs; a slot has an object exactly when it has a method. A
construction returns exactly while fewer commands are live than there are slots;
it then fills one free slot and alters no other, and otherwise changes nothing.
A destruction frees exactly the slot of the destroyed command. -/
theorem slot_pool (capacity : Nat) (table : Bytes → Option Xcommand)
    (foreign : ∀ name context, table name ≠ some (.trampoline context))
    (events : List Event) (commands : Commands)
    (run : Run system (initial capacity table) events commands) :
    commands.gCallbackInstances.length = capacity ∧
    (∀ left ∈ commands.live, ∀ right ∈ commands.live, left.slot = right.slot → left = right) ∧
    (∀ (context : Nat) (address : Pointer), (occupants commands)[context]? = some (some address) ↔
      ∃ command ∈ commands.live, command.slot = context ∧ command.self = address) ∧
    (∀ slot ∈ commands.gCallbackInstances, slot.mCommandInstance = none ↔ slot.mMethod = none) ∧
    (∀ this name functor replace,
      ((construct this name functor replace commands).1 = .ok ⟨⟩ ↔
        commands.live.length < capacity) ∧
      ((construct this name functor replace commands).1 = .ok ⟨⟩ → ∃ context,
        (occupants commands)[context]? = some none ∧
        step commands (.construct this name functor replace) =
          constructed commands context this name functor replace) ∧
      ((construct this name functor replace commands).1 ≠ .ok ⟨⟩ →
        step commands (.construct this name functor replace) = commands)) ∧
    ∀ command ∈ commands.live,
      (step commands (.destroy command.self)).gCallbackInstances =
        commands.gCallbackInstances.set command.slot ⟨.trampoline command.slot, none, none⟩ ∧
      (step commands (.destroy command.self)).live =
        commands.live.filter fun other => other.self ≠ command.self := by
  have wellFormed := run_wellFormed run (wellFormed_initial capacity table foreign)
  refine ⟨wellFormed.slots, ?_, ?_, wellFormed.methods, ?_, ?_⟩
  · intro left leftLive right rightLive same
    exact slot_injective wellFormed leftLive rightLive same
  · intro context address
    rw [wellFormed.assigns.occupied]
    simp only [assigned, List.mem_map, Prod.mk.injEq]
    constructor
    · rintro ⟨command, isLive, same, leads⟩
      exact ⟨command, isLive, leads, same⟩
    · rintro ⟨command, isLive, leads, same⟩
      exact ⟨command, isLive, same, leads⟩
  · intro this name functor replace
    rcases construct_cases wellFormed this name functor replace with
      ⟨room, context, free, returned⟩ | ⟨full, thrown⟩
    · refine ⟨by simp [returned, room], fun _ => ⟨context, free, by simp [step, returned]⟩, ?_⟩
      intro stopped
      exact absurd (by rw [returned]) stopped
    · refine ⟨by simp [thrown]; omega, ?_, fun _ => by simp [step, thrown]⟩
      intro returned
      simp [thrown] at returned
  · intro command isLive
    rw [step_destroy wellFormed (find_live wellFormed isLive)]
    exact ⟨rfl, rfl⟩

/-- After the replacement both slots are taken, and a third construction throws. -/
theorem slot_pool_replacement :
    (construct 3 (literal "logout") none false
      (replacement.foldl step (initial 2 fun _ => none))).1 ≠ .ok ⟨⟩ ∧
    step (replacement.foldl step (initial 2 fun _ => none))
      (.construct 3 (literal "logout") none false) =
        replacement.foldl step (initial 2 fun _ => none) := by
  obtain ⟨_, _, _, _, constructions, _⟩ :=
    slot_pool 2 (fun _ => none) (by simp) replacement _ replacement_run
  obtain ⟨succeeds, _, unchanged⟩ := constructions 3 (literal "logout") none false
  have full : ¬ (replacement.foldl step (initial 2 fun _ => none)).live.length < 2 := by decide
  exact ⟨fun returned => full (succeeds.mp returned),
    unchanged fun returned => full (succeeds.mp returned)⟩

/-! ## Registrations -/

/-- A command about to be destroyed holds its name in the table, or no one does. -/
def Undisputed (commands : Commands) : Event → Prop
  | .destroy address => ∀ command, find commands address = some command →
      commands.table command.mCommandName.cString = none ∨
      commands.table command.mCommandName.cString = some (.trampoline command.slot)
  | _ => True

/-- A destruction changes the table only at bindings to the destroyed command's own
trampoline. -/
def OwnBindingsOnly (commands : Commands) : Event → Prop
  | .destroy address => ∀ command, find commands address = some command →
      ∀ name, (step commands (.destroy address)).table name ≠ commands.table name →
        commands.table name = some (.trampoline command.slot)
  | _ => True

/-- The event neither destroys the command, nor replaces it under its name, nor
removes its name. -/
def Spares (command : Command) (commands : Commands) : Event → Prop
  | .construct this name functor replace =>
      ¬ (replace = true ∧ name.cString = command.mCommandName.cString ∧
        (construct this name functor replace commands).1 = .ok ⟨⟩)
  | .destroy address => address ≠ command.self
  | .remove name => name.cString ≠ command.mCommandName.cString

/-- The command is live and its name is bound to its trampoline. -/
def InEffect (command : Command) (commands : Commands) : Prop :=
  command ∈ commands.live ∧
    commands.table command.mCommandName.cString = some (.trampoline command.slot)

section Registrations

variable {capacity : Nat} {commands : Commands}

/-- A destruction touches only the command's own bindings exactly when the
command's name is undisputed: the directory's law of closing, read on the table. -/
theorem ownBindingsOnly_iff (event : Event) (admitted : Admits commands event)
    (wellFormed : WellFormed capacity commands) :
    Undisputed commands event ↔ OwnBindingsOnly commands event := by
  cases event with
  | construct this name functor replace => exact Iff.rfl
  | remove name => exact Iff.rfl
  | destroy address =>
    obtain ⟨command, found⟩ := Option.ne_none_iff_exists'.mp admitted
    obtain ⟨isLive, rfl⟩ := live_of_find found
    have law := Directory.close_own_iff (directory wellFormed) command.self
      command.mCommandName.cString (live_enrolled wellFormed isLive)
    have changed : ∀ asked,
        (destroyed commands command).table asked ≠ commands.table asked ↔
          ((directory wellFormed).close command.self command.mCommandName.cString
            (live_enrolled wellFormed isLive)).holder asked ≠ (directory wellFormed).holder asked := by
      intro asked
      by_cases same : asked = command.mCommandName.cString
      · subst same
        have unheld := holder_none_iff wellFormed command.mCommandName.cString
        simpa [destroyed, Directory.close, directory, eq_comm] using not_congr unheld.symm
      · simp [destroyed, Directory.close, same]
    have held := holder_command_iff wellFormed isLive
    have unheld := holder_none_iff wellFormed
    simp only [Undisputed, OwnBindingsOnly, found, Option.some.injEq, forall_eq',
      step_destroy wellFormed found, changed]
    rw [← unheld, ← held]
    exact law.symm.trans (forall_congr' fun asked => imp_congr_right fun _ => held asked)

/-- A command that holds a name still does after a construction that does not replace
the name. -/
theorem holder_constructed (wellFormed : WellFormed capacity commands) (context : Nat)
    (this : Pointer) (name : Bytes) (functor : Option Functor) (replace : Bool)
    (free : (occupants commands)[context]? = some none) (absent : find commands this = none)
    {asked : Bytes} {owner : Pointer} (spared : replace = true → name.cString ≠ asked)
    (held : (directory wellFormed).holder asked = some (.inr owner)) :
    holder (constructed commands context this name functor replace) asked = some (.inr owner) := by
  have unknown : (if replace then (directory wellFormed).release name.cString
      else directory wellFormed).live this = none := by
    cases replace <;> simp [directory, Directory.release, absent]
  have enrolled := directory_constructed wellFormed context this name functor replace free
    (fresh_of_find absent) unknown
  show (directory (wellFormed_constructed wellFormed context this name functor replace free
    (fresh_of_find absent))).holder asked = _
  rw [enrolled]
  apply Directory.enrol_keeps
  cases replace with
  | false => exact held
  | true => exact Directory.release_keeps _ _ _ _ (spared rfl) held

/-- A command that holds a name still does after the destruction of another one whose
own name is unbound or its own. -/
theorem holder_destroyed (wellFormed : WellFormed capacity commands) {other : Command}
    (otherLive : other ∈ commands.live)
    (ownName : commands.table other.mCommandName.cString = none ∨
      commands.table other.mCommandName.cString = some (.trampoline other.slot))
    {asked : Bytes} {owner : Pointer} (different : other.self ≠ owner)
    (held : (directory wellFormed).holder asked = some (.inr owner)) :
    holder (destroyed commands other) asked = some (.inr owner) := by
  rw [← holder_none_iff wellFormed, ← holder_command_iff wellFormed otherLive] at ownName
  have closed := directory_destroyed wellFormed other otherLive
    (live_enrolled wellFormed otherLive)
  show (directory (wellFormed_destroyed wellFormed other otherLive)).holder asked = _
  rw [closed]
  exact Directory.close_keeps _ _ _ _ _ _ different ownName held

/-- A registration in effect survives an event that spares it, if no disputed name
is removed: the directory's laws of enrolling, closing and releasing. -/
theorem inEffect_step (command : Command) (event : Event) (admitted : Admits commands event)
    (undisputed : Undisputed commands event) (spared : Spares command commands event)
    (wellFormed : WellFormed capacity commands) (inEffect : InEffect command commands) :
    InEffect command (step commands event) := by
  obtain ⟨isLive, bound⟩ := inEffect
  have held : (directory wellFormed).holder command.mCommandName.cString =
      some (.inr command.self) := (holder_command_iff wellFormed isLive _).mpr bound
  have afterwards := step_wellFormed commands event admitted wellFormed
  -- It is enough to find the command live and holding its name in the directory.
  suffices kept : command ∈ (step commands event).live ∧
      holder (step commands event) command.mCommandName.cString = some (.inr command.self) from
    ⟨kept.1, (holder_command_iff afterwards kept.1 _).mp kept.2⟩
  cases event with
  | construct this name functor replace =>
    rcases construct_cases wellFormed this name functor replace with
      ⟨_, context, free, returned⟩ | ⟨_, thrown⟩
    · have stepped : step commands (.construct this name functor replace) =
          constructed commands context this name functor replace := by simp [step, returned]
      rw [stepped]
      refine ⟨List.mem_cons_of_mem _ isLive, ?_⟩
      apply holder_constructed wellFormed context this name functor replace free admitted _ held
      rintro rfl same
      exact spared ⟨rfl, same, by rw [returned]⟩
    · have unchanged : step commands (.construct this name functor replace) = commands := by
        simp [step, thrown]
      rw [unchanged]
      exact ⟨isLive, held⟩
  | destroy address =>
    obtain ⟨other, found⟩ := Option.ne_none_iff_exists'.mp admitted
    obtain ⟨otherLive, rfl⟩ := live_of_find found
    have different : other.self ≠ command.self := spared
    rw [step_destroy wellFormed found]
    refine ⟨List.mem_filter.mpr ⟨isLive, by simpa using Ne.symm different⟩, ?_⟩
    exact holder_destroyed wellFormed otherLive (undisputed other found) different held
  | remove name =>
    refine ⟨isLive, ?_⟩
    show (directory (wellFormed_removed wellFormed name)).holder _ = _
    rw [directory_removed wellFormed name]
    exact Directory.release_keeps _ _ _ _ spared held

/-- A construction that returns puts the new command into effect exactly when it
replaces or finds its name unbound. -/
theorem inEffect_constructed_iff (wellFormed : WellFormed capacity commands) (context : Nat)
    (this : Pointer) (name : Bytes) (functor : Option Functor) (replace : Bool)
    (free : (occupants commands)[context]? = some none) :
    InEffect ⟨this, ⟨⟨some (.trampoline context), context⟩, functor⟩, name⟩
        (constructed commands context this name functor replace) ↔
      replace = true ∨ commands.table name.cString = none := by
  constructor
  · rintro ⟨_, bound⟩
    by_contra refused
    have before : commands.table name.cString = some (.trampoline context) := by
      simpa [constructed, registered, refused, slot] using bound
    obtain ⟨command, isLive, rfl, _⟩ := wellFormed.bound _ _ before
    have occupied := (wellFormed.assigns.occupied _ _).mpr (mem_assigned isLive)
    simp [occupied] at free
  · intro taken
    refine ⟨List.mem_cons_self, ?_⟩
    simp [constructed, registered, taken, slot]

end Registrations

/-- In every run, no destruction touches another command's binding exactly when no
disputed command is destroyed. In a run where none is, a registration in effect
stays in effect until the command is destroyed, replaced or removed, and issuing
its name runs its functor. -/
theorem registrations_kept (capacity : Nat) (table : Bytes → Option Xcommand)
    (foreign : ∀ name context, table name ≠ some (.trampoline context))
    (events : List Event) (commands : Commands)
    (run : Run system (initial capacity table) events commands) :
    (Along system Undisputed (initial capacity table) events ↔
      Along system OwnBindingsOnly (initial capacity table) events) ∧
    ∀ command, InEffect command commands → ∀ later final, Run system commands later final →
      Along system Undisputed commands later → Along system (Spares command) commands later →
      InEffect command final ∧
        issue final command.mCommandName.cString = .functor (.ok command.mImpl.mFunctor) := by
  have start := wellFormed_initial capacity table foreign
  have wellFormed := run_wellFormed run start
  constructor
  · apply along_congr step_wellFormed _ run start
    intro state event admitted holds
    exact ownBindingsOnly_iff event admitted holds
  · intro command inEffect later final rest undisputed spared
    have kept : WellFormed capacity final ∧ InEffect command final := by
      apply run_preserves_along _ rest (along_and undisputed spared) ⟨wellFormed, inEffect⟩
      rintro state event admitted ⟨noDispute, spares⟩ ⟨holds, effective⟩
      exact ⟨step_wellFormed state event admitted holds,
        inEffect_step command event admitted noDispute spares holds effective⟩
    exact ⟨kept.2, issue_bound kept.1 kept.2.1 kept.2.2⟩

/-- A first command, in slot 0. -/
def first : Command := ⟨1, ⟨⟨some (.trampoline 0), 0⟩, some 10⟩, literal "login"⟩

/-- A second command, in slot 1. -/
def second (name : Bytes) : Command := ⟨2, ⟨⟨some (.trampoline 1), 1⟩, some 20⟩, name⟩

/-- The first command is in effect once built, and stays so while a second one of
another name comes and goes. -/
theorem registrations_kept_other_name :
    let commands := step (initial 2 fun _ => none) (.construct 1 first.mCommandName (some 10) false)
    let later := [Event.construct 2 (literal "rcon") (some 20) true, .destroy 2]
    InEffect first (later.foldl step commands) ∧
      issue (later.foldl step commands) first.mCommandName.cString = .functor (.ok (some 10)) := by
  intro commands later
  have rest : Run system commands later (later.foldl step commands) :=
    .next rfl (.next (show find _ 2 ≠ none by decide) (.done _))
  refine (registrations_kept 2 (fun _ => none) (by simp)
    [.construct 1 first.mCommandName (some 10) false] commands (.next rfl (.done _))).2 first ?_
    later _ rest ?_ ?_
  · exact ⟨by decide, by decide⟩
  · refine ⟨trivial, ?_, trivial⟩
    intro command found
    obtain rfl : second (literal "rcon") = command := Option.some.inj found
    exact Or.inr (by decide)
  · refine ⟨?_, show (2 : Pointer) ≠ 1 by decide, trivial⟩
    rintro ⟨_, same, _⟩
    exact absurd same (by decide)

/-- A second command of the same name that does not replace the first. -/
def collision : List Event :=
  [.construct 1 (literal "login") (some 10) false, .construct 2 (literal "login") (some 20) false]

/-- At the collision the first command is in effect and the second one is not. The
second one's end spares the first, and still takes its binding away. -/
theorem destruction_unbinds_other :
    let commands := collision.foldl step (initial 2 fun _ => none)
    Run system (initial 2 fun _ => none) collision commands ∧
      InEffect first commands ∧ find commands 2 = some (second (literal "login")) ∧
      Spares first commands (.destroy 2) ∧ ¬ OwnBindingsOnly commands (.destroy 2) ∧
      first ∈ (step commands (.destroy 2)).live ∧
      (step commands (.destroy 2)).table (literal "login") = none := by
  refine ⟨.next rfl (.next rfl (.done _)), ⟨by decide, by decide⟩, by decide, ?_, ?_, by decide,
    by decide⟩
  · show (2 : Pointer) ≠ 1
    decide
  · intro ownOnly
    have wrong := ownOnly (second (literal "login")) rfl (literal "login") (by decide)
    exact absurd wrong (by decide)

end Command
end Plugpp
