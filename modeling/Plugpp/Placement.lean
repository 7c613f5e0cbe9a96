import Mathlib.Data.List.Find
import Mathlib.Data.Set.Function
import Plugpp.CommandRuns

/-!
# Where commands are placed

A slot refers to its command by address, and the address of a destroyed command may be
given to a new one. Neither decides anything: when the objects of a run are placed
elsewhere, live ones apart from each other, the slots, the names and what an issued name
runs are the same. So a run in which every object has an address of its own speaks for
all runs in which addresses are used again.
-/

namespace Plugpp

open Bytes Code Runs

namespace Command

/-- The command at another place. -/
def placed (place : Pointer → Pointer) (command : Command) : Command :=
  { command with self := place command.self }

/-- The slot of a command at another place. -/
def CallbackBase.placed (place : Pointer → Pointer) (slot : CallbackBase) : CallbackBase :=
  { slot with mCommandInstance := slot.mCommandInstance.map place }

/-- The event on a command at another place. -/
def Event.placed (place : Pointer → Pointer) : Event → Event
  | .construct this name functor replace => .construct (place this) name functor replace
  | .destroy address => .destroy (place address)
  | .remove name => .remove name

end Command

/-- The commands at other places. -/
def Commands.placed (place : Pointer → Pointer) (commands : Commands) : Commands where
  gCallbackInstances := commands.gCallbackInstances.map (Command.CallbackBase.placed place)
  live := commands.live.map (Command.placed place)
  table := commands.table

namespace Command

variable {place : Pointer → Pointer} {capacity : Nat} {commands : Commands}

/-- Live commands are placed apart. -/
def Apart (place : Pointer → Pointer) (commands : Commands) : Prop :=
  Set.InjOn (fun command => place command.self) {command | command ∈ commands.live}

/-- A new command is not placed where a live one is. -/
def PlacedApart (place : Pointer → Pointer) (commands : Commands) : Event → Prop
  | .construct this _ _ _ => ∀ command ∈ commands.live, place command.self ≠ place this
  | .destroy _ | .remove _ => True

/-- The search for a free slot does not look at addresses. -/
theorem reserveFrom_placed (this : Pointer) (method : MemberFunctionCallback)
    (slots : List CallbackBase) (start : Nat) :
    reserveFrom (place this) method (slots.map (CallbackBase.placed place)) start =
      ((reserveFrom this method slots start).1.map (CallbackBase.placed place),
        (reserveFrom this method slots start).2) := by
  induction slots generalizing start with
  | nil => rfl
  | cons slot rest inductionHypothesis =>
    cases occupied : slot.mCommandInstance with
    | none => simp [reserveFrom, CallbackBase.reserve, CallbackBase.placed, occupied]
    | some other =>
      simp [reserveFrom, CallbackBase.reserve, CallbackBase.placed, occupied, inductionHypothesis]

/-- A slot is released the same. -/
theorem destroy_impl_placed (impl : Impl) (commands : Commands) :
    impl.destroy (commands.placed place) = (impl.destroy commands).placed place := by
  cases held : impl.mCallbackWrapper.mCallback with
  | none => simp [Impl.destroy, held]
  | some callback =>
    have released : ∀ (slots : List CallbackBase) (context : Nat),
        (slots.map (CallbackBase.placed place)).modify context CallbackBase.release =
          (slots.modify context CallbackBase.release).map (CallbackBase.placed place) := by
      intro slots context
      apply List.ext_getElem?
      intro index
      by_cases here : context = index <;> cases found : slots[index]? <;>
        simp [here, found, CallbackBase.release, CallbackBase.placed]
    simp only [Impl.destroy, held, Commands.placed, released]

/-- The constructor does the same at another place. -/
theorem construct_placed (this : Pointer) (name : Bytes) (functor : Option Functor)
    (replace : Bool) (commands : Commands) :
    construct (place this) name functor replace (commands.placed place) =
      ((construct this name functor replace commands).1,
        (construct this name functor replace commands).2.placed place) := by
  have reserved := @reserveFrom_placed place this .callback commands.gCallbackInstances 0
  cases found : (reserveFrom this .callback commands.gCallbackInstances 0).2.mCallback with
  | none =>
    simp only [construct, Impl.construct, bind_apply, Commands.placed, reserved, Impl.getCallback,
      found, update_apply, raise_apply]
    exact congrArg _ (@destroy_impl_placed place ⟨_, functor⟩ ⟨_, commands.live, commands.table⟩)
  | some callback =>
    cases replace <;>
      simp [construct, Impl.construct, bind_apply, Commands.placed, reserved, Impl.getCallback,
        found, update_apply, removeCommand, pluginRemoveCommand, pluginAddCommand, Command.placed]

/-- Live commands are told apart where they are placed. -/
theorem placed_self_iff (apart : Apart place commands) {left right : Command}
    (leftLive : left ∈ commands.live) (rightLive : right ∈ commands.live) :
    place left.self = place right.self ↔ left.self = right.self := by
  constructor
  · exact fun same => congrArg Command.self (apart leftLive rightLive same)
  · exact fun same => congrArg place same

/-- A live command is found where it is placed. -/
theorem find_placed (apart : Apart place commands) {command : Command}
    (isLive : command ∈ commands.live) :
    find (commands.placed place) (place command.self) =
      (find commands command.self).map (placed place) := by
  simp only [find, Commands.placed, List.find?_map]
  congr 1
  apply List.find?_congr
  intro other otherLive
  rw [Function.comp_apply, Bool.eq_iff_iff, beq_iff_eq, beq_iff_eq]
  exact placed_self_iff apart otherLive isLive

/-- A live command is destroyed the same. -/
theorem destroy_placed (apart : Apart place commands) {command : Command}
    (isLive : command ∈ commands.live) :
    destroy (command.placed place) (commands.placed place) =
      (destroy command commands).placed place := by
  have filtered : (commands.live.map (placed place)).filter
        (fun other => other.self ≠ place command.self) =
      (commands.live.filter fun other => other.self ≠ command.self).map (placed place) := by
    rw [List.filter_map]
    congr 1
    apply List.filter_congr
    intro other otherLive
    rw [Function.comp_apply, decide_eq_decide, not_iff_not]
    exact placed_self_iff apart otherLive isLive
  have released := @destroy_impl_placed place command.mImpl
    (removeCommand command.mCommandName commands)
  have live : (command.mImpl.destroy (removeCommand command.mCommandName commands)).live =
      commands.live := by
    rw [Impl.destroy]
    split <;> rfl
  simp only [destroy]
  rw [show (command.placed place).mImpl = command.mImpl from rfl,
    show removeCommand (command.placed place).mCommandName (commands.placed place) =
      (removeCommand command.mCommandName commands).placed place from rfl, released]
  simp only [Commands.placed, live]
  rw [← filtered]
  rfl

/-- An event that is possible is possible at other places, and does the same there. -/
theorem step_placed (wellFormed : WellFormed capacity commands) (apart : Apart place commands)
    {event : Event} (admitted : Admits commands event)
    (placedApart : PlacedApart place commands event) :
    Admits (commands.placed place) (event.placed place) ∧
      step (commands.placed place) (event.placed place) = (step commands event).placed place ∧
      Apart place (step commands event) := by
  cases event with
  | construct this name functor replace =>
    have fresh : find (commands.placed place) (place this) = none := by
      have elsewhere : ∀ command ∈ commands.live, place command.self ≠ place this := placedApart
      simpa [find, Commands.placed, placed] using elsewhere
    have constructs := @construct_placed place this name functor replace commands
    refine ⟨fresh, by simp only [Event.placed, step, constructs], ?_⟩
    rcases step_construct wellFormed this name functor replace with
      ⟨context, _, stepped⟩ | unchanged
    · rw [stepped]
      intro left leftLive right rightLive same
      rcases List.mem_cons.mp leftLive with rfl | leftOld <;>
        rcases List.mem_cons.mp rightLive with rfl | rightOld
      · rfl
      · exact absurd same.symm (placedApart right rightOld)
      · exact absurd same (placedApart left leftOld)
      · exact apart leftOld rightOld same
    · rwa [unchanged]
  | destroy address =>
    obtain ⟨command, found⟩ := Option.ne_none_iff_exists'.mp admitted
    obtain ⟨isLive, rfl⟩ := live_of_find found
    have foundPlaced : find (commands.placed place) (place command.self) =
        some (command.placed place) := by
      rw [find_placed apart isLive, found, Option.map_some]
    refine ⟨by simp [Event.placed, Admits, foundPlaced], ?_, ?_⟩
    · simp only [Event.placed, step, foundPlaced, found, destroy_placed apart isLive]
    · rw [step_destroy wellFormed found]
      exact fun left leftLive right rightLive same =>
        apart (List.mem_of_mem_filter leftLive) (List.mem_of_mem_filter rightLive) same
  | remove name => exact ⟨trivial, rfl, apart⟩

/-- Of every run, the objects may be placed anywhere, new ones apart from the live ones:
the run is possible there, it leads to the same state but for the places, and every name
runs the same. -/
theorem placement (capacity : Nat) (table : Bytes → Option Xcommand)
    (foreign : ∀ name context, table name ≠ some (.trampoline context))
    (place : Pointer → Pointer) (events : List Event) (commands : Commands)
    (run : Run system (initial capacity table) events commands)
    (apart : Along system (PlacedApart place) (initial capacity table) events) :
    Run system (initial capacity table) (events.map (Event.placed place))
        (commands.placed place) ∧
      ∀ name, issue (commands.placed place) name = issue commands name := by
  let Follows (there here : Commands) : Prop :=
    here = there.placed place ∧ Apart place there ∧ WellFormed capacity there
  have follows : Follows (initial capacity table) (initial capacity table) := by
    refine ⟨?_, by simp [Apart, initial], wellFormed_initial capacity table foreign⟩
    simp [initial, Commands.placed, createDynamicCallbackInstances, CallbackBase.placed]
  have each : ∀ there here event, Follows there here → system.admits there event →
      PlacedApart place there event → system.admits here (event.placed place) ∧
        Follows (system.step there event) (system.step here (event.placed place)) := by
    rintro there here event ⟨rfl, isApart, wellFormed⟩ admitted placedApart
    obtain ⟨possible, stepped, apartAgain⟩ := step_placed wellFormed isApart admitted placedApart
    exact ⟨possible, stepped, apartAgain, step_wellFormed there event admitted wellFormed⟩
  obtain ⟨reached, onwards, rfl, _, wellFormed⟩ := run_simulated each run apart follows
  refine ⟨onwards, ?_⟩
  intro name
  have wellFormedHere := run_wellFormed onwards (wellFormed_initial capacity table foreign)
  cases binding : commands.table name with
  | none => simp [issue, Commands.placed, binding]
  | some callback =>
    cases callback with
    | server function => simp [issue, Commands.placed, binding]
    | trampoline context =>
      obtain ⟨command, isLive, rfl, _⟩ := wellFormed.bound name context binding
      have liveHere : command.placed place ∈ (commands.placed place).live :=
        List.mem_map.mpr ⟨command, isLive, rfl⟩
      rw [issue_bound wellFormed isLive binding]
      exact issue_bound wellFormedHere liveHere binding

/-- Two commands, one after the other at the same address. -/
theorem placement_reused :
    let events : List Event :=
      [.construct 1 (literal "login") (some 10) false, .destroy 1,
        .construct 2 (literal "login") (some 20) false]
    let commands := events.foldl step (initial 1 fun _ => none)
    issue (commands.placed fun _ => 7) (literal "login") = .functor (.ok (some 20)) := by
  intro events commands
  have run : Run system (initial 1 fun _ => none) events commands :=
    .next rfl (.next (Option.some_ne_none _) (.next rfl (.done _)))
  have nothing : ∀ command ∈ ([] : List Command), (7 : Pointer) ≠ 7 := by simp
  exact (placement 1 (fun _ => none) (by simp) (fun _ => 7) events commands run
    ⟨nothing, trivial, nothing, trivial⟩).2 (literal "login")

end Command

end Plugpp
