import Plugpp.CommandRuns
import Plugpp.Lifecycle

/-!
# Commands with a scope

A `Command` may be a local variable: it is built where the scope begins and destroyed
where the scope ends, by reaching its end or by an exception on its way to a handler.
`Scope` is code with such commands, nested and in sequence, with handlers anywhere.

Whatever the nesting and whatever is thrown, such code leaves the slots and the live
commands exactly as they were; the table can only lose bindings of the names the code
uses. If these were unbound, the whole state is as before.

Commands that end together may end in any order: the state that is left is the same.
-/

namespace Plugpp

open Bytes Code Runs

/-- Code with commands of automatic storage. `command` is a block that declares one,
and what follows the block. -/
inductive Scope where
  | done
  | throws (exception : Thrown)
  | command (name : Bytes) (callback : Option Functor) (replace : Bool) (body next : Scope)
  | attempt (body : Scope) (handler : Thrown → Scope) (next : Scope)

namespace Scope

/-- Run the code. A block's command is destroyed on both ways out of the block. -/
def run (allocator : Allocator) : Scope → Code Thrown Commands Unit
  | .done => pure ⟨⟩
  | .throws exception => raise exception
  | .command name callback replace body next => fun commands =>
    let this := allocator.address (commands.live.map Command.self)
    match Command.construct this name callback replace commands with
    | (.error exception, refused) => (.error exception, refused)
    | (.ok _, built) =>
      match body.run allocator built with
      | (.ok _, left) => next.run allocator (deleteCommand left this)
      | (.error exception, left) => (.error exception, deleteCommand left this)
  | .attempt body handler next => do
    (body.run allocator).recover fun exception => (handler exception).run allocator
    next.run allocator

/-- All names of the code's commands are among the allowed ones. -/
def Names (allowed : Bytes → Prop) : Scope → Prop
  | .done | .throws _ => True
  | .command name _ _ body next => allowed name.cString ∧ body.Names allowed ∧ next.Names allowed
  | .attempt body handler next =>
      body.Names allowed ∧ (∀ exception, (handler exception).Names allowed) ∧ next.Names allowed

end Scope

/-- The slots and the live commands are as before, and the table has at most lost
bindings of allowed names. -/
structure Unwound (allowed : Bytes → Prop) (before after : Commands) : Prop where
  slots : after.gCallbackInstances = before.gCallbackInstances
  live : after.live = before.live
  table : ∀ name, after.table name = before.table name ∨ (allowed name ∧ after.table name = none)

section Unwinding

variable {capacity : Nat} {allowed : Bytes → Prop} {before between after : Commands}

theorem Unwound.refl (commands : Commands) : Unwound allowed commands commands :=
  ⟨rfl, rfl, fun _ => Or.inl rfl⟩

theorem Unwound.trans (first : Unwound allowed before between)
    (second : Unwound allowed between after) : Unwound allowed before after := by
  refine ⟨second.slots.trans first.slots, second.live.trans first.live, ?_⟩
  intro name
  rcases second.table name with same | lost
  · rw [same]
    exact first.table name
  · exact Or.inr lost

/-- A state that has only lost bindings is as well-formed as before. -/
theorem Unwound.wellFormed (unwound : Unwound allowed before after)
    (wellFormed : Command.WellFormed capacity before) : Command.WellFormed capacity after := by
  obtain ⟨slots, live, table⟩ := unwound
  refine ⟨?_, ?_, ?_, ?_, ?_, ?_⟩
  · rw [slots]
    exact wellFormed.slots
  · rw [slots]
    exact wellFormed.trampolines
  · rw [slots]
    exact wellFormed.methods
  · simp only [Command.occupants, Command.assigned, slots, live]
    exact wellFormed.assigns
  · rw [live]
    exact wellFormed.wrappers
  · intro name context bound
    rcases table name with same | ⟨_, lost⟩
    · rw [live]
      exact wellFormed.bound name context (same ▸ bound)
    · simp [lost] at bound

/-- A free slot has no object, no method and its own trampoline. -/
theorem slot_free {commands : Commands} (wellFormed : Command.WellFormed capacity commands)
    {context : Nat} (free : (Command.occupants commands)[context]? = some none) :
    commands.gCallbackInstances[context]? = some ⟨.trampoline context, none, none⟩ := by
  simp only [Command.occupants, List.getElem?_map, Option.map_eq_some_iff] at free
  obtain ⟨⟨callback, occupant, method⟩, found, vacant⟩ := free
  simp only at vacant
  subst vacant
  have leads : callback = .trampoline context := wellFormed.trampolines _ _ found
  have unset : method = none :=
    (wellFormed.methods _ (List.mem_of_getElem? found)).mp rfl
  rw [found, leads, unset]

/-- What a block's command takes, its end gives back. The table has then lost the
command's name, and what the block lost. -/
theorem deleteCommand_unwinds {commands left : Commands}
    (wellFormed : Command.WellFormed capacity commands) {context : Nat} {this : Pointer}
    {name : Bytes} {callback : Option Functor} {replace : Bool}
    (free : (Command.occupants commands)[context]? = some none)
    (fresh : ∀ command ∈ commands.live, command.self ≠ this) (isAllowed : allowed name.cString)
    (body : Unwound allowed
      (Command.constructed commands context this name callback replace) left) :
    Unwound allowed commands (deleteCommand left this) := by
  have inside := Command.wellFormed_constructed wellFormed context this name callback replace free
    fresh
  have leftFormed := body.wellFormed inside
  let command : Command := ⟨this, ⟨⟨some (.trampoline context), context⟩, callback⟩, name⟩
  have isLive : command ∈ left.live := by
    rw [body.live]
    exact List.mem_cons_self
  have deleted : deleteCommand left this = Command.destroyed left command := by
    have found : Command.find left this = some command := Command.find_live leftFormed isLive
    simp only [deleteCommand, found, Command.destroy_returns leftFormed isLive]
  rw [deleted]
  refine ⟨?_, ?_, ?_⟩
  · have present := slot_free wellFormed free
    have same : commands.gCallbackInstances.set context ⟨.trampoline context, none, none⟩ =
        commands.gCallbackInstances := by
      apply List.ext_getElem?
      intro position
      by_cases here : context = position
      · subst here
        have bound := (List.getElem?_eq_some_iff.mp present).1
        rw [List.getElem?_set_self bound, present]
      · rw [List.getElem?_set_ne here]
    have written : (Command.destroyed left command).gCallbackInstances =
        (commands.gCallbackInstances.set context
          ⟨.trampoline context, some this, some .callback⟩).set context
            ⟨.trampoline context, none, none⟩ := by
      show left.gCallbackInstances.set context ⟨.trampoline context, none, none⟩ = _
      rw [body.slots]
      rfl
    rw [written, List.set_set, same]
  · show left.live.filter (fun other => other.self ≠ this) = commands.live
    rw [body.live]
    have others : commands.live.filter (fun other => other.self ≠ this) = commands.live :=
      List.filter_eq_self.mpr fun other member => decide_eq_true (fresh other member)
    simpa [Command.constructed] using others
  · intro asked
    by_cases same : asked = name.cString
    · subst same
      exact Or.inr ⟨isAllowed, by simp [Command.destroyed, command]⟩
    · have kept : (Command.destroyed left command).table asked = left.table asked := by
        simp [Command.destroyed, command, same]
      have untouched : (Command.constructed commands context this name callback replace).table
          asked = commands.table asked := by
        simp [Command.constructed, Command.registered, same]
      rw [kept, ← untouched]
      exact body.table asked

/-- Code with scoped commands unwinds, whether it returns or throws.

By induction on the code: a block unwinds because its body does and its command's end
gives back what its construction took; a construction that throws took nothing. -/
theorem scope_unwinds (allocator : Allocator) (scope : Scope) (names : scope.Names allowed)
    (commands : Commands) (wellFormed : Command.WellFormed capacity commands) :
    Unwound allowed commands (scope.run allocator commands).2 := by
  induction scope generalizing commands with
  | done => exact .refl commands
  | throws exception => exact .refl commands
  | command name callback replace body next bodyHypothesis nextHypothesis =>
    obtain ⟨isAllowed, bodyNames, nextNames⟩ := names
    have unused := allocator.unused (commands.live.map Command.self)
    rcases Command.construct_cases wellFormed (allocator.address (commands.live.map Command.self))
      name callback replace with ⟨_, context, free, returned⟩ | ⟨_, thrown⟩
    · have fresh : ∀ command ∈ commands.live,
          command.self ≠ allocator.address (commands.live.map Command.self) := by
        simpa using unused
      have inside := Command.wellFormed_constructed wellFormed context _ name callback replace free
        fresh
      have unwound := deleteCommand_unwinds wellFormed free fresh isAllowed
        (bodyHypothesis bodyNames _ inside)
      simp only [Scope.run, returned]
      rcases ran : body.run allocator (Command.constructed commands context _ name callback replace)
        with ⟨exception | _, left⟩
      · rw [ran] at unwound
        exact unwound
      · rw [ran] at unwound
        exact unwound.trans (nextHypothesis nextNames _ (unwound.wellFormed wellFormed))
    · simp only [Scope.run, thrown]
      exact .refl commands
  | attempt body handler next bodyHypothesis handlerHypothesis nextHypothesis =>
    obtain ⟨bodyNames, handlerNames, nextNames⟩ := names
    have first := bodyHypothesis bodyNames commands wellFormed
    have between := first.wellFormed wellFormed
    simp only [Scope.run, bind_apply, recover]
    rcases ran : body.run allocator commands with ⟨exception | _, left⟩
    · rw [ran] at first between
      have second := first.trans
        (handlerHypothesis exception (handlerNames exception) left between)
      have after := second.wellFormed wellFormed
      simp only
      rcases handled : (handler exception).run allocator left with ⟨another | _, rest⟩
      · rw [handled] at second
        exact second
      · rw [handled] at second after
        exact second.trans (nextHypothesis nextNames rest after)
    · rw [ran] at first between
      exact first.trans (nextHypothesis nextNames left between)

end Unwinding

/-- In every state a run reaches, code with scoped commands leaves the slots and the
live commands as they were, whether it returns or throws, and unbinds at most names of
its own commands. If no name of its commands is bound at the start, it leaves the whole
state as it was. -/
theorem scopes_restore (allocator : Allocator) (capacity : Nat)
    (table : Bytes → Option Command.Xcommand)
    (foreign : ∀ name context, table name ≠ some (.trampoline context))
    (events : List Command.Event) (commands : Commands)
    (run : Run Command.system (Command.initial capacity table) events commands) (scope : Scope) :
    (∀ allowed : Bytes → Prop, scope.Names allowed →
      Unwound allowed commands (scope.run allocator commands).2) ∧
    (scope.Names (fun name => commands.table name = none) →
      (scope.run allocator commands).2 = commands) := by
  have wellFormed := Command.run_wellFormed run (Command.wellFormed_initial capacity table foreign)
  have unwinds : ∀ allowed : Bytes → Prop, scope.Names allowed →
      Unwound allowed commands (scope.run allocator commands).2 :=
    fun allowed names => scope_unwinds allocator scope names commands wellFormed
  refine ⟨unwinds, ?_⟩
  intro unbound
  obtain ⟨slots, live, bindings⟩ := unwinds _ unbound
  have table : (scope.run allocator commands).2.table = commands.table := by
    funext name
    rcases bindings name with same | ⟨before, lost⟩
    · exact same
    · rw [lost, before]
  cases restored : (scope.run allocator commands).2
  cases commands
  simp only [restored] at slots live table
  subst slots live table
  rfl

/-- A block within a block; the inner command finds no slot, and what that throws is
caught outside both. -/
def cramped : Scope :=
  .attempt (.command (literal "login") none false
    (.command (literal "rcon") none false .done .done) .done) (fun _ => .done) .done

/-- With one slot, the code ends where it began. -/
theorem scopes_restore_cramped :
    (cramped.run behind (Command.initial 1 fun _ => none)).2 = Command.initial 1 fun _ => none :=
  (scopes_restore behind 1 (fun _ => none) (by simp) [] _ (.done _) cramped).2
    ⟨⟨rfl, ⟨rfl, trivial, trivial⟩, trivial⟩, fun _ => trivial, trivial⟩

/-! ## The order of destruction -/

section Deletion

variable {capacity : Nat} {commands : Commands}

/-- Deleting keeps the invariant, also where no command is. -/
theorem deleteCommand_wellFormed (wellFormed : Command.WellFormed capacity commands)
    (address : Pointer) : Command.WellFormed capacity (deleteCommand commands address) := by
  cases found : Command.find commands address with
  | none => simpa only [deleteCommand, found] using wellFormed
  | some command =>
    have isLive := (Command.live_of_find found).1
    simp only [deleteCommand, found, Command.destroy_returns wellFormed isLive]
    exact Command.wellFormed_destroyed wellFormed command isLive

/-- The ends of two live commands change different slots, and unbind their names. -/
theorem destroyed_comm (wellFormed : Command.WellFormed capacity commands) {left right : Command}
    (leftLive : left ∈ commands.live) (rightLive : right ∈ commands.live)
    (different : left.self ≠ right.self) :
    Command.destroyed (Command.destroyed commands left) right =
      Command.destroyed (Command.destroyed commands right) left := by
  have slots : left.slot ≠ right.slot := by
    intro same
    rw [Command.slot_injective wellFormed leftLive rightLive same] at different
    exact different rfl
  unfold Command.destroyed
  congr 1
  · exact List.set_comm _ _ slots
  · simp only [List.filter_filter, Bool.and_comm]
  · by_cases same : left.mCommandName.cString = right.mCommandName.cString
    · simp [same]
    · exact Function.update_comm same _ _ _

/-- Deletions commute. -/
theorem deleteCommand_comm (wellFormed : Command.WellFormed capacity commands)
    (left right : Pointer) :
    deleteCommand (deleteCommand commands left) right =
      deleteCommand (deleteCommand commands right) left := by
  by_cases same : left = right
  · rw [same]
  -- A deletion elsewhere neither ends nor begins the life of a command.
  have elsewhere : ∀ (here there : Pointer), here ≠ there →
      Command.find (deleteCommand commands here) there = Command.find commands there := by
    intro here there different
    cases found : Command.find commands here with
    | none => simp only [deleteCommand, found]
    | some command =>
      obtain ⟨isLive, rfl⟩ := Command.live_of_find found
      simp only [deleteCommand, found, Command.destroy_returns wellFormed isLive]
      rw [Command.find_destroyed, if_neg (Ne.symm different)]
  have absent : ∀ (here there : Pointer), here ≠ there → Command.find commands here = none →
      deleteCommand (deleteCommand commands there) here = deleteCommand commands there := by
    intro here there different vacant
    have still := (elsewhere there here (Ne.symm different)).trans vacant
    conv_lhs => rw [deleteCommand, still]
  cases atLeft : Command.find commands left with
  | none =>
    have unchanged : deleteCommand commands left = commands := by simp only [deleteCommand, atLeft]
    rw [absent left right same atLeft, unchanged]
  | some leftCommand =>
    cases atRight : Command.find commands right with
    | none =>
      have unchanged : deleteCommand commands right = commands := by
        simp only [deleteCommand, atRight]
      rw [absent right left (Ne.symm same) atRight, unchanged]
    | some rightCommand =>
      obtain ⟨leftLive, rfl⟩ := Command.live_of_find atLeft
      obtain ⟨rightLive, rfl⟩ := Command.live_of_find atRight
      have stillRight := (elsewhere _ _ same).trans atRight
      have stillLeft := (elsewhere _ _ (Ne.symm same)).trans atLeft
      have rightAfter := deleteCommand_wellFormed wellFormed leftCommand.self
      have leftAfter := deleteCommand_wellFormed wellFormed rightCommand.self
      have first : deleteCommand (deleteCommand commands leftCommand.self) rightCommand.self =
          Command.destroyed (deleteCommand commands leftCommand.self) rightCommand := by
        conv_lhs => rw [deleteCommand, stillRight]
        exact Command.destroy_returns rightAfter (Command.live_of_find stillRight).1
      have second : deleteCommand (deleteCommand commands rightCommand.self) leftCommand.self =
          Command.destroyed (deleteCommand commands rightCommand.self) leftCommand := by
        conv_lhs => rw [deleteCommand, stillLeft]
        exact Command.destroy_returns leftAfter (Command.live_of_find stillLeft).1
      have leftDeleted : deleteCommand commands leftCommand.self =
          Command.destroyed commands leftCommand := by
        simp only [deleteCommand, atLeft, Command.destroy_returns wellFormed leftLive]
      have rightDeleted : deleteCommand commands rightCommand.self =
          Command.destroyed commands rightCommand := by
        simp only [deleteCommand, atRight, Command.destroy_returns wellFormed rightLive]
      rw [first, second, leftDeleted, rightDeleted]
      exact destroyed_comm wellFormed leftLive rightLive same

/-- Deletions of the same addresses leave the same state, whatever their order: by
induction on the permutation, in every state at once. -/
theorem deletions_perm {left right : List Pointer} (same : left.Perm right)
    (wellFormed : Command.WellFormed capacity commands) :
    left.foldl deleteCommand commands = right.foldl deleteCommand commands := by
  induction same generalizing commands with
  | nil => rfl
  | cons address _ inductionHypothesis =>
    exact inductionHypothesis (deleteCommand_wellFormed wellFormed address)
  | swap first second rest =>
    simp only [List.foldl_cons, deleteCommand_comm wellFormed second first]
  | trans _ _ firstHypothesis secondHypothesis =>
    exact (firstHypothesis wellFormed).trans (secondHypothesis wellFormed)

/-- What deletions leave: the commands at other addresses, and every binding but those
of the deleted commands' names. By induction on the addresses. -/
theorem deletions_leave (wellFormed : Command.WellFormed capacity commands)
    (addresses : List Pointer) :
    (addresses.foldl deleteCommand commands).live =
        commands.live.filter (fun command => command.self ∉ addresses) ∧
      ∀ name,
        ((∃ command ∈ commands.live,
            command.self ∈ addresses ∧ command.mCommandName.cString = name) →
          (addresses.foldl deleteCommand commands).table name = none) ∧
        ((∀ command ∈ commands.live,
            command.self ∈ addresses → command.mCommandName.cString ≠ name) →
          (addresses.foldl deleteCommand commands).table name = commands.table name) := by
  induction addresses generalizing commands with
  | nil => simp
  | cons address rest inductionHypothesis =>
    obtain ⟨live, bindings⟩ := inductionHypothesis (deleteCommand_wellFormed wellFormed address)
    simp only [List.foldl_cons]
    rw [live]
    cases found : Command.find commands address with
    | none =>
      have unchanged : deleteCommand commands address = commands := by
        simp only [deleteCommand, found]
      have elsewhere := Command.fresh_of_find found
      rw [unchanged] at bindings ⊢
      refine ⟨?_, ?_⟩
      · apply List.filter_congr
        intro command isLive
        simp [elsewhere command isLive]
      · intro name
        refine ⟨?_, ?_⟩
        · rintro ⟨command, isLive, listed, named⟩
          have later : command.self ∈ rest :=
            (List.mem_cons.mp listed).resolve_left (elsewhere command isLive)
          exact (bindings name).1 ⟨command, isLive, later, named⟩
        · intro others
          exact (bindings name).2 fun command isLive listed =>
            others command isLive (List.mem_cons_of_mem _ listed)
    | some deleted =>
      obtain ⟨isLive, rfl⟩ := Command.live_of_find found
      have destroyed : deleteCommand commands deleted.self = Command.destroyed commands deleted := by
        simp only [deleteCommand, found, Command.destroy_returns wellFormed isLive]
      rw [destroyed] at bindings ⊢
      refine ⟨?_, ?_⟩
      · simp only [Command.destroyed, List.filter_filter]
        apply List.filter_congr
        intro command _
        simp [Bool.and_comm]
      · intro name
        by_cases own : deleted.mCommandName.cString = name
        · refine ⟨fun _ => ?_, fun others => absurd own (others deleted isLive List.mem_cons_self)⟩
          -- The name is unbound by now, and no later deletion binds it.
          have unbound : (Command.destroyed commands deleted).table name = none := by
            simp [Command.destroyed, own]
          by_cases again : ∃ command ∈ (Command.destroyed commands deleted).live,
              command.self ∈ rest ∧ command.mCommandName.cString = name
          · exact (bindings name).1 again
          · rw [(bindings name).2 fun command member listed named =>
              again ⟨command, member, listed, named⟩, unbound]
        · have kept : (Command.destroyed commands deleted).table name = commands.table name := by
            simp [Command.destroyed, Ne.symm own]
          refine ⟨?_, ?_⟩
          · rintro ⟨command, member, listed, named⟩
            have different : command.self ≠ deleted.self := by
              intro same
              rw [Command.self_injective wellFormed member isLive same] at named
              exact own named
            exact (bindings name).1 ⟨command, List.mem_filter.mpr ⟨member, by simpa using different⟩,
              (List.mem_cons.mp listed).resolve_left different, named⟩
          · intro others
            rw [← kept]
            exact (bindings name).2 fun command member listed =>
              others command (List.mem_of_mem_filter member) (List.mem_cons_of_mem _ listed)

end Deletion

/-- In every state a run reaches, it does not matter in which order commands are
deleted. The others stay live, and the names that lose their binding are exactly those of
the deleted commands, whoever had bound them. -/
theorem deletions_any_order (capacity : Nat) (table : Bytes → Option Command.Xcommand)
    (foreign : ∀ name context, table name ≠ some (.trampoline context))
    (events : List Command.Event) (commands : Commands)
    (run : Run Command.system (Command.initial capacity table) events commands)
    (left right : List Pointer) (same : left.Perm right) :
    left.foldl deleteCommand commands = right.foldl deleteCommand commands ∧
    (left.foldl deleteCommand commands).live =
      commands.live.filter (fun command => command.self ∉ left) ∧
    ∀ name,
      ((∃ command ∈ commands.live, command.self ∈ left ∧ command.mCommandName.cString = name) →
        (left.foldl deleteCommand commands).table name = none) ∧
      ((∀ command ∈ commands.live, command.self ∈ left → command.mCommandName.cString ≠ name) →
        (left.foldl deleteCommand commands).table name = commands.table name) := by
  have wellFormed := Command.run_wellFormed run (Command.wellFormed_initial capacity table foreign)
  exact ⟨deletions_perm same wellFormed, deletions_leave wellFormed left⟩

/-- Both orders of deletion after one command replaced the other. -/
theorem deletions_any_order_replacement :
    let commands := Command.replacement.foldl Command.step (Command.initial 2 fun _ => none)
    [1, 2].foldl deleteCommand commands = [2, 1].foldl deleteCommand commands ∧
      ([1, 2].foldl deleteCommand commands).live = [] := by
  intro commands
  obtain ⟨same, live, _⟩ := deletions_any_order 2 (fun _ => none) (by simp) Command.replacement
    commands Command.replacement_run [1, 2] [2, 1] (List.Perm.swap 2 1 [])
  exact ⟨same, live.trans (by decide)⟩

end Plugpp
