import Plugpp.Command
import Plugpp.Directory
import Plugpp.Slots

/-!
# The invariant of commands and their directory

The invariant ties three things together: the slots, the live objects with the
slot each wrapper remembers, and the host's table. It is proved for the
constructor, on both its paths, for the destructor and for a direct
`removeCommand`.

The abstract view is a directory: a live command is enrolled under its name with
its functor, and a name is held by the server or by a command. Slots and
trampolines disappear in it. Each operation of the library is the directory's
operation of the same meaning, so who holds a name, and for how long, is read off
the directory.
-/

namespace Plugpp

open Bytes Code

namespace Command

/-- The slot index the command's wrapper remembers. -/
def slot (command : Command) : Nat := command.mImpl.mCallbackWrapper.mContext

/-- Who occupies each slot. -/
def occupants (commands : Commands) : List (Option Pointer) :=
  commands.gCallbackInstances.map CallbackBase.mCommandInstance

/-- The live objects with the slots their wrappers remember. -/
def assigned (commands : Commands) : List (Pointer × Nat) :=
  commands.live.map fun command => (command.self, command.slot)

/-- What holds between two operations on commands. -/
structure WellFormed (capacity : Nat) (commands : Commands) : Prop where
  /-- The pool keeps its size. -/
  slots : commands.gCallbackInstances.length = capacity
  /-- Slot `k` calls trampoline `k`. -/
  trampolines : ∀ (context : Nat) (slot : CallbackBase),
    commands.gCallbackInstances[context]? = some slot → slot.mCallback = .trampoline context
  /-- A slot has an object exactly when it has a method. -/
  methods : ∀ slot ∈ commands.gCallbackInstances,
    slot.mCommandInstance = none ↔ slot.mMethod = none
  /-- The occupied slots are those the live wrappers remember, one each. -/
  assigns : Slots.Assigns (occupants commands) (assigned commands)
  /-- A live wrapper holds the callback of its slot. -/
  wrappers : ∀ command ∈ commands.live,
    command.mImpl.mCallbackWrapper.mCallback = some (.trampoline command.slot)
  /-- A binding to a trampoline leads to a live command of that name. -/
  bound : ∀ name context, commands.table name = some (.trampoline context) →
    ∃ command ∈ commands.live, command.slot = context ∧ command.mCommandName.cString = name

/-- The table after a constructor that found a slot. -/
def registered (table : Bytes → Option Xcommand) (name : Bytes) (callback : Xcommand)
    (replace : Bool) : Bytes → Option Xcommand := fun asked =>
  if asked = name.cString ∧ (replace = true ∨ table name.cString = none) then some callback
  else table asked

/-- The state after a constructor that reserved the slot at a context. -/
def constructed (commands : Commands) (context : Nat) (this : Pointer) (name : Bytes)
    (functor : Option Functor) (replace : Bool) : Commands where
  gCallbackInstances :=
    commands.gCallbackInstances.set context ⟨.trampoline context, some this, some .callback⟩
  live := ⟨this, ⟨⟨some (.trampoline context), context⟩, functor⟩, name⟩ :: commands.live
  table := registered commands.table name (.trampoline context) replace

/-- The constructor's search is a claim on the occupants: it fails when the claim
does, having changed nothing, and otherwise fills the claimed slot. -/
theorem reserveFrom_claims (command : Pointer) (slots : List CallbackBase) (start : Nat) :
    match Slots.claim command (slots.map CallbackBase.mCommandInstance) with
    | none => reserveFrom command .callback slots start = (slots, ⟨none, start + slots.length⟩)
    | some (_, context) => ∃ slot, slots[context]? = some slot ∧
        reserveFrom command .callback slots start =
          (slots.set context ⟨slot.mCallback, some command, some .callback⟩,
            ⟨some slot.mCallback, start + context⟩) := by
  induction slots generalizing start with
  | nil => simp [Slots.claim, reserveFrom]
  | cons first rest inductionHypothesis =>
    cases free : first.mCommandInstance with
    | none => simp [Slots.claim, free, reserveFrom, CallbackBase.reserve]
    | some other =>
      have later := inductionHypothesis (start + 1)
      cases claimed : Slots.claim command (rest.map CallbackBase.mCommandInstance) with
      | none =>
        rw [claimed] at later
        simp only [] at later
        simp [Slots.claim, free, claimed, reserveFrom, CallbackBase.reserve, later]
        omega
      | some taken =>
        obtain ⟨occupied, context⟩ := taken
        rw [claimed] at later
        obtain ⟨slot, found, reserved⟩ := later
        simp only [List.map_cons, free, Slots.claim, claimed, Option.map_some]
        refine ⟨slot, by simpa using found, ?_⟩
        simp [reserveFrom, CallbackBase.reserve, free, reserved]
        omega

/-- Without a slot the constructor throws. The wrapper holds no callback, so
destroying the half-built command releases no slot, and the table is untouched. -/
theorem construct_throws (this : Pointer) (name : Bytes) (functor : Option Functor)
    (replace : Bool) (commands : Commands) (context : Nat)
    (refused : reserveFrom this .callback commands.gCallbackInstances 0 =
      (commands.gCallbackInstances, ⟨none, context⟩)) :
    construct this name functor replace commands = (.error slotsExceeded, commands) := by
  simp [construct, bind_apply, Impl.construct, refused, Impl.getCallback, Impl.destroy]

/-- With a slot the constructor registers its callback and the object is live. -/
theorem construct_returns (this : Pointer) (name : Bytes) (functor : Option Functor)
    (replace : Bool) (commands : Commands) (slots : List CallbackBase) (callback : Xcommand)
    (context : Nat)
    (reserved : reserveFrom this .callback commands.gCallbackInstances 0 =
      (slots, ⟨some callback, context⟩)) :
    construct this name functor replace commands =
      (.ok ⟨⟩, { gCallbackInstances := slots
                 live := ⟨this, ⟨⟨some callback, context⟩, functor⟩, name⟩ :: commands.live
                 table := registered commands.table name callback replace }) := by
  cases replace with
  | false =>
    simp only [construct, bind_apply, Impl.construct, reserved, Impl.getCallback,
      Bool.false_eq_true, ↓reduceIte, update_apply, pluginAddCommand]
    congr 3
    funext asked
    simp [registered]
  | true =>
    simp only [construct, bind_apply, Impl.construct, reserved, Impl.getCallback, ↓reduceIte,
      update_apply, removeCommand, pluginRemoveCommand, pluginAddCommand]
    congr 3
    funext asked
    by_cases same : asked = name.cString <;> simp [registered, same]

/-- The constructor, from a well-formed state. With room it takes a free slot and
registers; without room it throws and changes nothing. Room decides because it
means that the claim on the occupants finds a free slot. -/
theorem construct_cases {capacity : Nat} {commands : Commands}
    (wellFormed : WellFormed capacity commands) (this : Pointer) (name : Bytes)
    (functor : Option Functor) (replace : Bool) :
    (commands.live.length < capacity ∧ ∃ context,
      (occupants commands)[context]? = some none ∧
      construct this name functor replace commands =
        (.ok ⟨⟩, constructed commands context this name functor replace)) ∨
    (capacity ≤ commands.live.length ∧
      construct this name functor replace commands = (.error slotsExceeded, commands)) := by
  have room := Slots.free_iff_room wellFormed.assigns
  have size : (occupants commands).length = capacity := by simp [occupants, wellFormed.slots]
  have count : (assigned commands).length = commands.live.length := by simp [assigned]
  rw [size, count] at room
  have search := reserveFrom_claims this commands.gCallbackInstances 0
  cases claimed : Slots.claim this (occupants commands) with
  | none =>
    right
    have full := (Slots.claim_none_iff this _).mp claimed
    rw [room] at full
    simp only [occupants] at claimed
    rw [claimed] at search
    exact ⟨by omega, construct_throws this name functor replace commands _ search⟩
  | some taken =>
    left
    obtain ⟨occupied, context⟩ := taken
    obtain ⟨free, _⟩ := Slots.claim_some this _ _ _ claimed
    have someFree : none ∈ occupants commands := List.mem_of_getElem? free
    simp only [occupants] at claimed
    rw [claimed] at search
    obtain ⟨slot, found, reserved⟩ := search
    rw [wellFormed.trampolines context slot found, Nat.zero_add] at reserved
    exact ⟨room.mp someFree, context, free,
      construct_returns this name functor replace commands _ _ context reserved⟩

/-- The state after the destructor of a live command. -/
def destroyed (commands : Commands) (command : Command) : Commands where
  gCallbackInstances :=
    commands.gCallbackInstances.set command.slot ⟨.trampoline command.slot, none, none⟩
  live := commands.live.filter fun other => other.self ≠ command.self
  table := Function.update commands.table command.mCommandName.cString none

section Invariant

variable {capacity : Nat} {commands : Commands}

/-- Live objects have distinct addresses. -/
theorem self_injective (wellFormed : WellFormed capacity commands) {left right : Command}
    (leftLive : left ∈ commands.live) (rightLive : right ∈ commands.live)
    (same : left.self = right.self) : left = right := by
  have distinct := wellFormed.assigns.owners
  simp only [assigned, List.map_map] at distinct
  exact List.inj_on_of_nodup_map distinct leftLive rightLive same

/-- A live command is listed with its slot. -/
theorem mem_assigned {command : Command} (isLive : command ∈ commands.live) :
    (command.self, command.slot) ∈ assigned commands :=
  List.mem_map.mpr ⟨command, isLive, rfl⟩

/-- Live commands do not share slots. -/
theorem slot_injective (wellFormed : WellFormed capacity commands) {left right : Command}
    (leftLive : left ∈ commands.live) (rightLive : right ∈ commands.live)
    (same : left.slot = right.slot) : left = right := by
  have rightAssigned := mem_assigned rightLive
  rw [← same] at rightAssigned
  exact self_injective wellFormed leftLive rightLive
    (Slots.slot_injective wellFormed.assigns (mem_assigned leftLive) rightAssigned)

/-- An address leads to the live command that has it. -/
theorem find_live (wellFormed : WellFormed capacity commands) {command : Command}
    (isLive : command ∈ commands.live) : find commands command.self = some command := by
  have someFound : (find commands command.self).isSome = true := by
    simpa [find] using ⟨command, isLive, rfl⟩
  obtain ⟨found, lookup⟩ := Option.isSome_iff_exists.mp someFound
  have same : found.self = command.self := by simpa using List.find?_some lookup
  rw [lookup, self_injective wellFormed (List.mem_of_find?_eq_some lookup) isLive same]

/-- A live command's slot calls the command: its object is the command and its
method is set. -/
theorem slot_occupied (wellFormed : WellFormed capacity commands) {command : Command}
    (isLive : command ∈ commands.live) :
    commands.gCallbackInstances[command.slot]? =
      some ⟨.trampoline command.slot, some command.self, some .callback⟩ := by
  have held := (wellFormed.assigns.occupied _ _).mpr (mem_assigned isLive)
  simp only [occupants, List.getElem?_map, Option.map_eq_some_iff] at held
  obtain ⟨⟨callback, instance?, method⟩, found, occupied⟩ := held
  simp only at occupied
  subst occupied
  have leads : callback = .trampoline command.slot := wellFormed.trampolines _ _ found
  have paired := wellFormed.methods _ (List.mem_of_getElem? found)
  cases method with
  | none => simp at paired
  | some method =>
    cases method
    rw [found, leads]

/-- A live command's wrapper holds a callback, so its destructor releases its slot. -/
theorem destroy_returns (wellFormed : WellFormed capacity commands) {command : Command}
    (isLive : command ∈ commands.live) :
    destroy command commands = destroyed commands command := by
  have held := wellFormed.wrappers command isLive
  have occupied := slot_occupied wellFormed isLive
  have released : commands.gCallbackInstances.modify command.slot CallbackBase.release =
      commands.gCallbackInstances.set command.slot ⟨.trampoline command.slot, none, none⟩ := by
    rw [List.modify_eq_set_getElem?, occupied]
    rfl
  rw [← show command.mImpl.mCallbackWrapper.mContext = command.slot from rfl] at released
  simp only [destroy, Impl.destroy, held, removeCommand, pluginRemoveCommand, released]
  rfl

/-- The trampoline of a live command reaches the command's functor. -/
theorem staticInvoke_live (wellFormed : WellFormed capacity commands) {command : Command}
    (isLive : command ∈ commands.live) :
    staticInvoke command.slot commands = (.ok command.mImpl.mFunctor, commands) := by
  simp [staticInvoke, slot_occupied wellFormed isLive, find_live wellFormed isLive]

/-- There are never more live commands than slots. -/
theorem live_fits (wellFormed : WellFormed capacity commands) :
    commands.live.length ≤ capacity := by
  have fits := Slots.assigned_fits wellFormed.assigns
  simpa [assigned, occupants, wellFormed.slots] using fits

/-- Before any command the invariant holds of every table without trampolines. -/
theorem wellFormed_initial (capacity : Nat) (table : Bytes → Option Xcommand)
    (foreign : ∀ name context, table name ≠ some (.trampoline context)) :
    WellFormed capacity (initial capacity table) where
  slots := by simp [initial, createDynamicCallbackInstances]
  trampolines := by
    intro context slot found
    simp only [initial, createDynamicCallbackInstances, List.getElem?_map,
      Option.map_eq_some_iff] at found
    obtain ⟨index, position, rfl⟩ := found
    obtain ⟨_, same⟩ := List.getElem?_eq_some_iff.mp position
    simpa [eq_comm] using same
  methods := by simp [initial, createDynamicCallbackInstances]
  assigns := by
    have free : occupants (initial capacity table) = List.replicate capacity none := by
      simp [occupants, initial, createDynamicCallbackInstances, List.map_map,
        Function.comp_def, List.map_const']
    rw [free]
    exact Slots.assigns_free capacity
  wrappers := by simp [initial]
  bound := fun name context held => absurd held (foreign name context)

/-- Writing a slot that calls its own trampoline keeps every slot calling its own. -/
theorem trampolines_set {slots : List CallbackBase} {written : CallbackBase} {here : Nat}
    (each : ∀ (context : Nat) (slot : CallbackBase), slots[context]? = some slot →
      slot.mCallback = .trampoline context)
    (own : written.mCallback = .trampoline here) {context : Nat} {slot : CallbackBase}
    (found : (slots.set here written)[context]? = some slot) :
    slot.mCallback = .trampoline context := by
  by_cases same : here = context
  · subst same
    have inside : here < slots.length := by
      simpa using (List.getElem?_eq_some_iff.mp found).1
    have written : written = slot := by simpa [inside] using found
    rw [← written, own]
  · exact each context slot (by simpa [same] using found)

/-- A constructor that took a free slot keeps the invariant. -/
theorem wellFormed_constructed (wellFormed : WellFormed capacity commands) (context : Nat)
    (this : Pointer) (name : Bytes) (functor : Option Functor) (replace : Bool)
    (free : (occupants commands)[context]? = some none)
    (fresh : ∀ command ∈ commands.live, command.self ≠ this) :
    WellFormed capacity (constructed commands context this name functor replace) where
  slots := by simpa [constructed] using wellFormed.slots
  trampolines := by
    intro position slot found
    exact trampolines_set wellFormed.trampolines rfl found
  methods := by
    intro slot member
    rcases List.mem_or_eq_of_mem_set member with member | rfl
    · exact wellFormed.methods slot member
    · simp
  assigns := by
    have occupied : occupants (constructed commands context this name functor replace) =
        (occupants commands).set context (some this) := by
      simp [occupants, constructed, List.map_set]
    rw [occupied]
    refine Slots.assigns_claim wellFormed.assigns this context free ?_
    simpa [assigned] using fresh
  wrappers := by
    intro command member
    rcases List.mem_cons.mp member with rfl | member
    · rfl
    · exact wellFormed.wrappers command member
  bound := by
    intro asked position held
    simp only [constructed, registered] at held
    by_cases taken : asked = name.cString ∧ (replace = true ∨ commands.table name.cString = none)
    · have same : context = position := by simpa [taken] using held
      exact ⟨_, List.mem_cons_self, same, taken.1.symm⟩
    · rw [if_neg taken] at held
      obtain ⟨command, isLive, leads, named⟩ := wellFormed.bound asked position held
      exact ⟨command, List.mem_cons_of_mem _ isLive, leads, named⟩

/-- Unbinding a name keeps the invariant. -/
theorem wellFormed_removed (wellFormed : WellFormed capacity commands) (name : Bytes) :
    WellFormed capacity (removeCommand name commands) where
  slots := wellFormed.slots
  trampolines := wellFormed.trampolines
  methods := wellFormed.methods
  assigns := wellFormed.assigns
  wrappers := wellFormed.wrappers
  bound := by
    intro asked context held
    by_cases same : asked = name.cString
    · simp [removeCommand, pluginRemoveCommand, same] at held
    · simp only [removeCommand, pluginRemoveCommand, Function.update_of_ne same] at held
      exact wellFormed.bound asked context held

/-- The destructor of a live command keeps the invariant. The command's name is
unbound first, so no binding is left that leads to the slot it releases. -/
theorem wellFormed_destroyed (wellFormed : WellFormed capacity commands) (command : Command)
    (isLive : command ∈ commands.live) : WellFormed capacity (destroyed commands command) where
  slots := by simpa [destroyed] using wellFormed.slots
  trampolines := by
    intro context slot found
    exact trampolines_set wellFormed.trampolines rfl found
  methods := by
    intro slot member
    rcases List.mem_or_eq_of_mem_set member with member | rfl
    · exact wellFormed.methods slot member
    · simp
  assigns := by
    have vacated : occupants (destroyed commands command) =
        (occupants commands).set command.slot none := by
      simp [occupants, destroyed, List.map_set]
    have remaining : assigned (destroyed commands command) =
        (assigned commands).filter fun entry => entry.1 ≠ command.self := by
      simp [assigned, destroyed, List.filter_map, Function.comp_def]
    rw [vacated, remaining]
    exact Slots.assigns_vacate wellFormed.assigns command.self command.slot (mem_assigned isLive)
  wrappers := by
    intro other member
    exact wellFormed.wrappers other (List.mem_of_mem_filter member)
  bound := by
    intro asked context held
    by_cases same : asked = command.mCommandName.cString
    · simp [destroyed, same] at held
    · simp only [destroyed, Function.update_of_ne same] at held
      obtain ⟨other, otherLive, leads, named⟩ := wellFormed.bound asked context held
      refine ⟨other, List.mem_filter.mpr ⟨otherLive, ?_⟩, leads, named⟩
      simp only [ne_eq, decide_eq_true_eq]
      intro sameAddress
      rw [self_injective wellFormed otherLive isLive sameAddress] at named
      exact same named.symm

/-! ## The directory of commands -/

/-- Who holds a name: the server, or the command in the slot that the name's
trampoline belongs to. -/
def holder (commands : Commands) (name : Bytes) : Option (Nat ⊕ Pointer) :=
  match commands.table name with
  | none => none
  | some (.server function) => some (.inl function)
  | some (.trampoline context) => (occupants commands)[context]?.join.map .inr

/-- A name is held by a live command exactly when it is bound to its trampoline. -/
theorem holder_command_iff (wellFormed : WellFormed capacity commands) {command : Command}
    (isLive : command ∈ commands.live) (name : Bytes) :
    holder commands name = some (.inr command.self) ↔
      commands.table name = some (.trampoline command.slot) := by
  have occupied := (wellFormed.assigns.occupied _ _).mpr (mem_assigned isLive)
  cases binding : commands.table name with
  | none => simp [holder, binding]
  | some callback =>
    cases callback with
    | server function => simp [holder, binding]
    | trampoline context =>
      simp only [holder, binding, Option.map_eq_some_iff, Option.join_eq_some_iff, Sum.inr.injEq,
        exists_eq_right, Option.some.injEq, Xcommand.trampoline.injEq]
      constructor
      · intro here
        have listed := (wellFormed.assigns.occupied _ _).mp here
        exact Slots.owner_injective wellFormed.assigns listed (mem_assigned isLive)
      · rintro rfl
        exact occupied

/-- A name is unheld exactly when it is unbound: a bound trampoline has a command. -/
theorem holder_none_iff (wellFormed : WellFormed capacity commands) (name : Bytes) :
    holder commands name = none ↔ commands.table name = none := by
  cases binding : commands.table name with
  | none => simp [holder, binding]
  | some callback =>
    cases callback with
    | server function => simp [holder, binding]
    | trampoline context =>
      obtain ⟨command, isLive, rfl, _⟩ := wellFormed.bound name context binding
      simp [(holder_command_iff wellFormed isLive name).mpr binding]

/-- A name keeps its holder if its binding stays, and the occupant of the slot that a
bound trampoline belongs to. -/
theorem holder_kept {after : Commands} {asked : Bytes}
    (same : after.table asked = commands.table asked)
    (slots : ∀ context, commands.table asked = some (.trampoline context) →
      (occupants after)[context]? = (occupants commands)[context]?) :
    holder after asked = holder commands asked := by
  cases binding : commands.table asked with
  | none => simp [holder, same, binding]
  | some callback =>
    cases callback with
    | server function => simp [holder, same, binding]
    | trampoline context => simp [holder, same, binding, slots context binding]

/-- The directory of a well-formed state. A name held by a command is that
command's name, because a bound trampoline leads to a live command of the name. -/
def directory (wellFormed : WellFormed capacity commands) :
    Directory Bytes Pointer (Option Functor) Nat where
  live := fun address => (find commands address).map fun command =>
    (command.mCommandName.cString, command.mImpl.mFunctor)
  holder := holder commands
  sound := by
    intro name address held
    cases binding : commands.table name with
    | none => simp [(holder_none_iff wellFormed name).mpr binding] at held
    | some callback =>
      cases callback with
      | server function => simp [holder, binding] at held
      | trampoline context =>
        obtain ⟨command, isLive, rfl, rfl⟩ := wellFormed.bound name context binding
        rw [(holder_command_iff wellFormed isLive _).mpr binding] at held
        obtain rfl : command.self = address := Sum.inr.inj (Option.some.inj held)
        exact ⟨command.mImpl.mFunctor, by simp [find_live wellFormed isLive]⟩

/-- After a constructor, an address leads to the new object or where it led. -/
theorem find_constructed (commands : Commands) (context : Nat) (this : Pointer) (name : Bytes)
    (functor : Option Functor) (replace : Bool) (address : Pointer) :
    find (constructed commands context this name functor replace) address =
      if address = this then
        some ⟨this, ⟨⟨some (.trampoline context), context⟩, functor⟩, name⟩
      else find commands address := by
  by_cases here : address = this
  · simp [find, constructed, here]
  · simp [find, constructed, here, Ne.symm here]

/-- After a destructor, the object's address leads nowhere and others where they led. -/
theorem find_destroyed (commands : Commands) (command : Command) (address : Pointer) :
    find (destroyed commands command) address =
      if address = command.self then none else find commands address := by
  simp only [find, destroyed, List.find?_filter]
  by_cases here : address = command.self
  · simp [here]
  · simp only [here, ↓reduceIte]
    congr 1
    funext other
    by_cases found : other.self = address <;> simp [found, here]

/-- Constructing enrols the new command, after releasing the name if it replaces. -/
theorem directory_constructed (wellFormed : WellFormed capacity commands) (context : Nat)
    (this : Pointer) (name : Bytes) (functor : Option Functor) (replace : Bool)
    (free : (occupants commands)[context]? = some none)
    (fresh : ∀ command ∈ commands.live, command.self ≠ this)
    (unknown : (if replace then (directory wellFormed).release name.cString
      else directory wellFormed).live this = none) :
    directory (wellFormed_constructed wellFormed context this name functor replace free fresh) =
      (if replace then (directory wellFormed).release name.cString
        else directory wellFormed).enrol this name.cString functor unknown := by
  have occupied : occupants (constructed commands context this name functor replace) =
      (occupants commands).set context (some this) := by
    simp [occupants, constructed, List.map_set]
  have inside := (List.getElem?_eq_some_iff.mp free).1
  -- A binding that was there before does not lead to the slot that was free.
  have retained : ∀ asked,
      (constructed commands context this name functor replace).table asked = commands.table asked →
      holder (constructed commands context this name functor replace) asked =
        holder commands asked := by
    intro asked same
    apply holder_kept same
    intro position binding
    obtain ⟨command, isLive, rfl, _⟩ := wellFormed.bound asked position binding
    have held := (wellFormed.assigns.occupied _ _).mpr (mem_assigned isLive)
    have different : context ≠ command.slot := by
      intro here
      simp [here, held] at free
    rw [occupied, List.getElem?_set_ne different]
  apply Directory.ext_fields
  · funext address
    cases replace <;> by_cases here : address = this <;>
      simp [directory, Directory.enrol, Directory.release, find_constructed, here]
  · funext asked
    have unheld := holder_none_iff wellFormed name.cString
    by_cases taken : asked = name.cString ∧ (replace = true ∨ commands.table name.cString = none)
    · have bound : (constructed commands context this name functor replace).table asked =
          some (.trampoline context) := by simp [constructed, registered, taken]
      have new : holder (constructed commands context this name functor replace) asked =
          some (.inr this) := by
        simp [holder, bound, occupied, List.getElem?_set_self inside]
      obtain ⟨rfl, cause⟩ := taken
      cases replace with
      | false =>
        have free := unheld.mpr (by simpa using cause)
        simp [directory, Directory.enrol, new, free]
      | true => simp [directory, Directory.enrol, Directory.release, new]
    · have same : (constructed commands context this name functor replace).table asked =
          commands.table asked := by
        simp only [constructed, registered, if_neg taken]
      have old := retained asked same
      cases replace with
      | false =>
        have occupiedName : ¬ (asked = name.cString ∧ holder commands name.cString = none) := by
          rintro ⟨rfl, isNone⟩
          exact taken ⟨rfl, Or.inr (unheld.mp isNone)⟩
        simp [directory, Directory.enrol, old, occupiedName]
      | true =>
        have different : asked ≠ name.cString := fun here => taken ⟨here, Or.inl rfl⟩
        simp [directory, Directory.enrol, Directory.release, old, different]

/-- Removing a name releases it. -/
theorem directory_removed (wellFormed : WellFormed capacity commands) (name : Bytes) :
    directory (wellFormed_removed wellFormed name) =
      (directory wellFormed).release name.cString := by
  apply Directory.ext_fields
  · rfl
  · funext asked
    by_cases same : asked = name.cString
    · simp [directory, holder, removeCommand, pluginRemoveCommand, Directory.release, same]
    · simp [directory, holder, removeCommand, pluginRemoveCommand, Directory.release, same,
        occupants]

/-- Destroying a live command closes it in the directory: its name is released,
whoever holds it. -/
theorem directory_destroyed (wellFormed : WellFormed capacity commands) (command : Command)
    (isLive : command ∈ commands.live)
    (enrolled : ∃ value,
      (directory wellFormed).live command.self = some (command.mCommandName.cString, value)) :
    directory (wellFormed_destroyed wellFormed command isLive) =
      (directory wellFormed).close command.self command.mCommandName.cString enrolled := by
  have vacated : occupants (destroyed commands command) =
      (occupants commands).set command.slot none := by
    simp [occupants, destroyed, List.map_set]
  apply Directory.ext_fields
  · funext address
    by_cases here : address = command.self <;>
      simp [directory, Directory.close, find_destroyed, here]
  · funext asked
    by_cases same : asked = command.mCommandName.cString
    · simp [directory, holder, destroyed, Directory.close, same]
    · have kept : (destroyed commands command).table asked = commands.table asked := by
        simp [destroyed, same]
      simp only [directory, Directory.close, Function.update_of_ne same]
      apply holder_kept kept
      intro position binding
      obtain ⟨other, otherLive, rfl, named⟩ := wellFormed.bound asked position binding
      have different : command.slot ≠ other.slot := by
        intro sameSlot
        rw [slot_injective wellFormed isLive otherLive sameSlot] at same
        exact same named.symm
      rw [vacated, List.getElem?_set_ne different]

/-- A live command is enrolled under its name. -/
theorem live_enrolled (wellFormed : WellFormed capacity commands) {command : Command}
    (isLive : command ∈ commands.live) :
    ∃ value,
      (directory wellFormed).live command.self = some (command.mCommandName.cString, value) :=
  ⟨command.mImpl.mFunctor, by simp [directory, find_live wellFormed isLive]⟩

end Invariant

end Command
end Plugpp
