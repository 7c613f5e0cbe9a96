import Plugpp.CommandRuns

/-!
# What a history of commands does to the slots and to the server's own names

Slots are handed out from the front, so a history in which never more than a number of
commands is live never uses a slot behind that number, however long it is and in
whatever order the commands end.

A name of the server's own is bound to a function of the server. No event brings such a
binding about, and an event takes it away exactly if it touches the name: by a
construction that replaces, by a removal, and by the end of any command of that name,
also of one that was never in effect.
-/

namespace Plugpp

open Bytes Runs

namespace Command

section Steps

variable {capacity : Nat} {commands : Commands}

/-- A constructor takes a slot at most as far from the first as commands are live. -/
theorem context_le_live (wellFormed : WellFormed capacity commands) {context : Nat}
    {this : Pointer} {name : Bytes} {functor : Option Functor} {replace : Bool}
    (returned : construct this name functor replace commands =
      (.ok ⟨⟩, constructed commands context this name functor replace)) :
    context ≤ commands.live.length := by
  have search := reserveFrom_claims this commands.gCallbackInstances 0
  cases claimed : Slots.claim this (commands.gCallbackInstances.map CallbackBase.mCommandInstance)
    with
  | none =>
    rw [claimed] at search
    simp [construct_throws this name functor replace commands _ search] at returned
  | some taken =>
    obtain ⟨occupied, first⟩ := taken
    rw [claimed] at search
    obtain ⟨slot, _, reserved⟩ := search
    rw [construct_returns this name functor replace commands _ _ _ reserved] at returned
    have same : first = context := by
      have heads := congrArg (fun result => result.2.live.head?.map Command.slot) returned
      simpa [constructed, Command.slot] using heads
    have within := Slots.claim_within wellFormed.assigns claimed
    simpa [assigned, same] using within

/-- The live commands' slots stay in front of a number that no event makes them more
than: a construction takes the only new one, and that is the first free one. -/
theorem slots_within_step {peak : Nat} (event : Event) (admitted : Admits commands event)
    (wellFormed : WellFormed capacity commands) (small : (step commands event).live.length ≤ peak)
    (within : ∀ command ∈ commands.live, command.slot < peak) :
    ∀ command ∈ (step commands event).live, command.slot < peak := by
  intro command member
  cases event with
  | construct this name functor replace =>
    rcases construct_cases wellFormed this name functor replace with
      ⟨_, context, _, returned⟩ | ⟨_, thrown⟩
    · have stepped : step commands (.construct this name functor replace) =
          constructed commands context this name functor replace := by simp [step, returned]
      rw [stepped] at small member
      have grown : commands.live.length + 1 ≤ peak := small
      have first := context_le_live wellFormed returned
      rcases List.mem_cons.mp member with rfl | older
      · show context < peak
        omega
      · exact within command older
    · have unchanged : step commands (.construct this name functor replace) = commands := by
        simp [step, thrown]
      rw [unchanged] at member
      exact within command member
  | destroy address =>
    obtain ⟨ended, found⟩ := Option.ne_none_iff_exists'.mp admitted
    rw [step_destroy wellFormed found] at member
    exact within command (List.mem_of_mem_filter member)
  | remove name => exact within command member

/-- The event takes a binding of the name away: a construction that replaces it, the end
of a command of that name, or its removal. -/
def Touches (name : Bytes) (commands : Commands) : Event → Prop
  | .construct this other functor replace =>
      replace = true ∧ other.cString = name ∧
        (construct this other functor replace commands).1 = .ok ⟨⟩
  | .destroy address =>
      ∃ command, find commands address = some command ∧ command.mCommandName.cString = name
  | .remove other => other.cString = name

/-- After an event the server's function is bound to a name exactly if it was before and
the event does not touch the name. -/
theorem server_step_iff (function : Nat) (name : Bytes) (event : Event)
    (admitted : Admits commands event) (wellFormed : WellFormed capacity commands) :
    (step commands event).table name = some (.server function) ↔
      commands.table name = some (.server function) ∧ ¬ Touches name commands event := by
  cases event with
  | construct this other functor replace =>
    rcases construct_cases wellFormed this other functor replace with
      ⟨_, context, _, returned⟩ | ⟨_, thrown⟩
    · simp only [step, returned, constructed, registered, Touches, and_true]
      by_cases named : name = other.cString
      · subst named
        cases replace with
        | false =>
          by_cases unbound : commands.table other.cString = none <;> simp [unbound]
        | true => simp
      · simp [named, Ne.symm named]
    · simp [step, thrown, Touches]
  | destroy address =>
    obtain ⟨command, found⟩ := Option.ne_none_iff_exists'.mp admitted
    rw [step_destroy wellFormed found]
    simp only [Touches, found, Option.some.injEq, exists_eq_left']
    by_cases named : name = command.mCommandName.cString
    · simp [destroyed, named]
    · simp [destroyed, named, Ne.symm named]
  | remove other =>
    by_cases named : name = other.cString
    · simp [step, removeCommand, pluginRemoveCommand, Touches, named]
    · simp [step, removeCommand, pluginRemoveCommand, Touches, named, Ne.symm named]

/-- A name runs a function of the server exactly if it is bound to it. -/
theorem issue_server_iff (name : Bytes) (function : Nat) :
    issue commands name = .server function ↔ commands.table name = some (.server function) := by
  cases binding : commands.table name with
  | none => simp [issue, binding]
  | some callback => cases callback <;> simp [issue, binding]

end Steps

/-- In every run in which at no moment more than a number of commands is live, only the
slots in front of that number are ever used: by the live commands, by the bindings, and
all others are free. -/
theorem slots_within_peak (capacity : Nat) (table : Bytes → Option Xcommand)
    (foreign : ∀ name context, table name ≠ some (.trampoline context))
    (events : List Event) (commands : Commands)
    (run : Run system (initial capacity table) events commands) (peak : Nat)
    (few : Along system (fun before event => (step before event).live.length ≤ peak)
      (initial capacity table) events) :
    (∀ command ∈ commands.live, command.slot < peak) ∧
    (∀ name context, commands.table name = some (.trampoline context) → context < peak) ∧
    ∀ context, peak ≤ context → context < capacity →
      (occupants commands)[context]? = some none := by
  obtain ⟨wellFormed, within⟩ : WellFormed capacity commands ∧
      ∀ command ∈ commands.live, command.slot < peak := by
    apply run_preserves_along _ run few
      ⟨wellFormed_initial capacity table foreign, by simp [initial]⟩
    rintro before event admitted small ⟨formed, within⟩
    exact ⟨step_wellFormed before event admitted formed,
      slots_within_step event admitted formed small within⟩
  refine ⟨within, ?_, ?_⟩
  · intro name context bound
    obtain ⟨command, isLive, rfl, _⟩ := wellFormed.bound name context bound
    exact within command isLive
  · intro context behind inside
    have size : (occupants commands).length = capacity := by simp [occupants, wellFormed.slots]
    cases occupant : (occupants commands)[context]? with
    | none => exact absurd (List.getElem?_eq_none_iff.mp occupant) (by omega)
    | some held =>
      cases held with
      | none => rfl
      | some address =>
        have listed := (wellFormed.assigns.occupied _ _).mp occupant
        simp only [assigned, List.mem_map, Prod.mk.injEq] at listed
        obtain ⟨command, isLive, _, leads⟩ := listed
        have := within command isLive
        omega

/-- One command after another under changing names, never two at once. -/
def oneByOne : List Event :=
  [.construct 1 (literal "login") (some 10) false, .destroy 1,
    .construct 2 (literal "rcon") (some 20) false, .destroy 2,
    .construct 3 (literal "logout") (some 30) false]

/-- They all use the first of three slots. -/
theorem slots_within_peak_oneByOne :
    (oneByOne.foldl step (initial 3 fun _ => none)).live.all (·.slot < 1) = true := by
  have run : Run system (initial 3 fun _ => none) oneByOne
      (oneByOne.foldl step (initial 3 fun _ => none)) :=
    .next rfl (.next (show find _ 1 ≠ none by decide) (.next rfl
      (.next (show find _ 2 ≠ none by decide) (.next rfl (.done _)))))
  have few : Along system (fun before event => (step before event).live.length ≤ 1)
      (initial 3 fun _ => none) oneByOne :=
    ⟨by decide, by decide, by decide, by decide, by decide, trivial⟩
  have within := (slots_within_peak 3 (fun _ => none) (by simp) oneByOne _ run 1 few).1
  simpa [List.all_eq_true] using within

/-- Over every run, a name runs a function of the server at the end exactly if it did at
the start and no event on the way touched it. -/
theorem server_name_lasts_iff (capacity : Nat) (table : Bytes → Option Xcommand)
    (foreign : ∀ name context, table name ≠ some (.trampoline context))
    (events : List Event) (commands : Commands)
    (run : Run system (initial capacity table) events commands) (name : Bytes) (function : Nat) :
    issue commands name = .server function ↔
      issue (initial capacity table) name = .server function ∧
        Along system (fun before event => ¬ Touches name before event)
          (initial capacity table) events := by
  rw [issue_server_iff, issue_server_iff]
  apply run_lasts_iff step_wellFormed _ run (wellFormed_initial capacity table foreign)
  intro before event admitted wellFormed
  exact server_step_iff function name event admitted wellFormed

/-- A command that takes no server name into effect takes it away at its end. -/
theorem server_name_lasts_iff_shadowed :
    let table : Bytes → Option Xcommand :=
      fun name => if name = literal "status" then some (.server 5) else none
    let events := [Event.construct 1 (literal "status") (some 10) false, .destroy 1]
    issue (events.foldl step (initial 2 table)) (literal "status") ≠ .server 5 := by
  intro table events issued
  have foreign : ∀ name context, table name ≠ some (.trampoline context) := by
    intro name context
    simp only [table]
    split <;> simp
  have run : Run system (initial 2 table) events (events.foldl step (initial 2 table)) :=
    .next rfl (.next (show find _ 1 ≠ none by decide) (.done _))
  have untouched := ((server_name_lasts_iff 2 table foreign events _ run _ 5).mp issued).2
  exact untouched.2.1 ⟨⟨1, ⟨⟨some (.trampoline 0), 0⟩, some 10⟩, literal "status"⟩, by decide, by decide⟩

end Command
end Plugpp
