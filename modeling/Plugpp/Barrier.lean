import Plugpp.PluginEntry

/-!
# The exception barrier

`enter` is everything the server can call. An exported function never stops with an
exception: all it does with plugin code is inside `doNoexcept`. A trampoline has no
such barrier, so it does exactly what the functor of its command does.

The rules in between say what an exported function keeps: any condition on the world
that the console and the plugin's virtual functions keep. They serve the statement
here, for the condition that `gEntry` is set, and the statements about runs.
-/

namespace Plugpp

open Bytes Code Exported

/-- The server's calls with their arguments: the exported functions, and the
trampoline of a slot. -/
inductive EntryPoint where
  | onInit
  | onUnload
  | onTerminate
  | onPlayerConnect (clientnum : Int) (netaddress : Pointer) (userinfo : Bytes)
  | onPlayerDC (client : Pointer) (reason : Bytes)
  | onPlayerAddBan (baninfo : Pointer)
  | onPlayerRemoveBan (baninfo : Pointer)
  | onPlayerGotAuthInfo (addr cl : Pointer)
  | onPlayerGetBanStatus (len : Int32)
  | onInfoRequest
  | onMessageSent (message : Option Bytes) (slot mode : Int)
  | onPreFastRestart
  | onExitLevel
  | onPostFastRestart
  | onPreGameRestart (savepersist : Int)
  | onPostGameRestart (savepersist : Int)
  | onSpawnServer
  | onFrame
  | onClientSpawn (ent : Pointer)
  | onClientEnterWorld (client : Pointer)
  | onClientUserinfoChanged (client : Pointer)
  | onClientCommand (client : Pointer) (command : Bytes)
  | onClientMoveCommand (client ucmd : Pointer)
  | onPlayerKilled (self inflictor attacker : Pointer)
      (damage meansOfDeath iWeapon hitLocation : Int)
  | onPlayerWantReservedSlot (addr : Pointer)
  | onFilesystemStarted (searchpaths : Pointer)
  | onScrUsercallFunction (function_name : Bytes)
  | onScrUsercallMethod (method_name : Bytes) (clientnum : Int)
  | onModuleLoaded (client : Pointer) (fullpath : Bytes) (checksum : Int)
  | onScreenshotArrived (client : Pointer) (path : Bytes)
  | onUdpNetEvent (addr data : Pointer) (size : Int)
  | onUdpNetSend (addr data : Pointer) (len : Int)
  | trampoline (context : Nat)

namespace EntryPoint

/-- The memory behind the out-parameters. -/
abbrev Out : EntryPoint → Type
  | onPlayerConnect .. => Buffer
  | onPlayerGotAuthInfo .. => AuthInfo
  | onPlayerGetBanStatus _ => BanStatus
  | onInfoRequest => PluginInfoFields
  | onMessageSent .. | onPlayerWantReservedSlot _ | onUdpNetEvent .. | onUdpNetSend .. => Qboolean
  | _ => Unit

/-- What the entry point returns to the server. -/
abbrev Returned : EntryPoint → Type
  | onInit => Int
  | _ => Unit

end EntryPoint

/-- The server enters the library. -/
def enter {P : Type} (linked : Linked P) :
    (entry : EntryPoint) → Exported P entry.Out entry.Returned
  | .onInit => onInit linked
  | .onUnload => onUnload linked
  | .onTerminate => onTerminate linked
  | .onPlayerConnect clientnum netaddress userinfo =>
    onPlayerConnect linked clientnum netaddress userinfo
  | .onPlayerDC client reason => onPlayerDC linked client reason
  | .onPlayerAddBan baninfo => onPlayerAddBan linked baninfo
  | .onPlayerRemoveBan baninfo => onPlayerRemoveBan linked baninfo
  | .onPlayerGotAuthInfo addr cl => onPlayerGotAuthInfo linked addr cl
  | .onPlayerGetBanStatus len => onPlayerGetBanStatus linked len
  | .onInfoRequest => onInfoRequest linked
  | .onMessageSent message slot mode => onMessageSent linked message slot mode
  | .onPreFastRestart => onPreFastRestart linked
  | .onExitLevel => onExitLevel linked
  | .onPostFastRestart => onPostFastRestart linked
  | .onPreGameRestart savepersist => onPreGameRestart linked savepersist
  | .onPostGameRestart savepersist => onPostGameRestart linked savepersist
  | .onSpawnServer => onSpawnServer linked
  | .onFrame => onFrame linked
  | .onClientSpawn ent => onClientSpawn linked ent
  | .onClientEnterWorld client => onClientEnterWorld linked client
  | .onClientUserinfoChanged client => onClientUserinfoChanged linked client
  | .onClientCommand client command => onClientCommand linked client command
  | .onClientMoveCommand client ucmd => onClientMoveCommand linked client ucmd
  | .onPlayerKilled self inflictor attacker damage meansOfDeath iWeapon hitLocation =>
    onPlayerKilled linked self inflictor attacker damage meansOfDeath iWeapon hitLocation
  | .onPlayerWantReservedSlot addr => onPlayerWantReservedSlot linked addr
  | .onFilesystemStarted searchpaths => onFilesystemStarted linked searchpaths
  | .onScrUsercallFunction function_name => onScrUsercallFunction linked function_name
  | .onScrUsercallMethod method_name clientnum => onScrUsercallMethod linked method_name clientnum
  | .onModuleLoaded client fullpath checksum => onModuleLoaded linked client fullpath checksum
  | .onScreenshotArrived client path => onScreenshotArrived linked client path
  | .onUdpNetEvent addr data size => onUdpNetEvent linked addr data size
  | .onUdpNetSend addr data len => onUdpNetSend linked addr data len
  | .trampoline context => contextualStaticFunction linked context

/-! ## What callbacks keep -/

section Rules

variable {P Out α β : Type}

/-- The stops that leave plugin code or the library's own code: any exception, and
the given faults. -/
def Escapes (faults : Fault → Prop) : Stop → Prop
  | .thrown _ => True
  | .fault fault => faults fault

/-- The code keeps a condition on the world, and stops only in the given ways. -/
def Keeps (invariant : World P → Prop) (stops : Stop → Prop) (body : Exported P Out α) : Prop :=
  Triple (fun state => invariant state.1) body (fun _ state => invariant state.1)
    (fun stop state => stops stop ∧ invariant state.1)

/-- A condition on the world under which `gEntry` is set, and which the console and
the virtual functions of the plugin keep, whether they return or throw. -/
structure Respects (linked : Linked P) (invariant : World P → Prop) : Prop where
  loaded : ∀ world, invariant world → world.gEntry ≠ none
  printf : ∀ world text, invariant world →
    invariant { world with env := pluginPrintf text world.env }
  virtual : ∀ world plugin (call : VirtualCall) (refs : call.Refs), invariant world →
    world.gEntry = some ⟨some plugin⟩ →
      invariant { world with
        env := (linked.virtual call (refs, plugin, world.env)).2.2.2
        gEntry := some ⟨some (linked.virtual call (refs, plugin, world.env)).2.2.1⟩
        calls := call :: world.calls }

variable {linked : Linked P} {invariant : World P → Prop} {stops : Stop → Prop}
  {faults : Fault → Prop}

/-- Afterwards the condition holds, and a stop was one of the given ways. -/
theorem keeps_outcome {body : Exported P Out α} (kept : Keeps invariant stops body)
    (state : World P × Out) (holds : invariant state.1) :
    invariant (body state).2.1 ∧ ∀ stop, (body state).1 = .error stop → stops stop := by
  have outcome := kept state holds
  rcases result : body state with ⟨stop | value, after⟩
  · rw [result] at outcome
    refine ⟨outcome.2, ?_⟩
    rintro _ ⟨⟩
    exact outcome.1
  · rw [result] at outcome
    exact ⟨outcome, nofun⟩

theorem keeps_pure (value : α) : Keeps invariant stops (pure value : Exported P Out α) :=
  triple_pure value fun _ holds => holds

theorem keeps_observe (reading : World P × Out → α) :
    Keeps invariant stops (observe reading : Exported P Out α) :=
  triple_observe reading fun _ holds => holds

theorem keeps_writeOut (change : Out → Out) :
    Keeps invariant stops (writeOut change : Exported P Out Unit) :=
  triple_update _ fun _ holds => holds

theorem keeps_bind {first : Exported P Out α} {next : α → Exported P Out β}
    (head : Keeps invariant stops first) (tail : ∀ value, Keeps invariant stops (next value)) :
    Keeps invariant stops (first >>= next) :=
  triple_bind head tail

theorem keeps_print (respects : Respects linked invariant) (text : Bytes) :
    Keeps invariant stops (print text : Exported P Out Unit) :=
  triple_update _ fun state holds => respects.printf state.1 text holds

/-- `gEntry` is set, so `getPlugin` can only throw. -/
theorem keeps_getPlugin (respects : Respects linked invariant) :
    Keeps invariant (Escapes faults) (getPlugin : Exported P Out P) := by
  intro state holds
  obtain ⟨⟨registered⟩, set⟩ := Option.ne_none_iff_exists'.mp (respects.loaded state.1 holds)
  cases registered with
  | none =>
    simp only [getPlugin, set, PluginEntry.getPlugin]
    exact ⟨trivial, holds⟩
  | some plugin =>
    simp only [getPlugin, set, PluginEntry.getPlugin]
    exact holds

/-- A virtual call keeps what virtual functions keep, and can only throw. -/
theorem keeps_invoke (respects : Respects linked invariant) (call : VirtualCall)
    (refs : Out → call.Refs) (written : call.Refs → Out → Out) :
    Keeps invariant (Escapes faults) (invoke linked call refs written) := by
  intro state holds
  obtain ⟨⟨registered⟩, set⟩ := Option.ne_none_iff_exists'.mp (respects.loaded state.1 holds)
  cases registered with
  | none =>
    simp only [invoke, bind_apply, getPlugin, set, PluginEntry.getPlugin]
    exact ⟨trivial, holds⟩
  | some plugin =>
    have kept := respects.virtual state.1 plugin call (refs state.2) holds set
    simp only [invoke, bind_apply, getPlugin, set, PluginEntry.getPlugin, Except.mapError]
    cases (linked.virtual call (refs state.2, plugin, state.1.env)).1 with
    | error exception => exact ⟨trivial, kept⟩
    | ok result => exact kept

theorem keeps_consult (respects : Respects linked invariant) (call : VirtualCall)
    (refs : call.Refs) :
    Keeps invariant (Escapes faults) (consult linked call refs : Exported P Out call.Result) :=
  keeps_bind (keeps_invoke respects call _ _) fun _ => keeps_pure _

/-- Inside `doNoexcept` an exception becomes a line on the console: only faults are left. -/
theorem keeps_doNoexcept (respects : Respects linked invariant) (funcName : Bytes)
    {callable : Exported P Out α} (callableError : α)
    (kept : Keeps invariant (Escapes faults) callable) :
    Keeps invariant (fun stop => ∃ fault, stop = .fault fault ∧ faults fault)
      (doNoexcept funcName callable callableError) := by
  apply triple_recover kept
  intro stop
  cases stop with
  | thrown exception =>
    have printed : Keeps invariant (fun stop => ∃ fault, stop = .fault fault ∧ faults fault)
        (do print (reportLine funcName exception); pure callableError : Exported P Out α) :=
      keeps_bind (keeps_print respects _) fun _ => keeps_pure _
    exact fun state holds => printed state holds.2
  | fault fault =>
    apply triple_raise
    rintro state ⟨allowed, holds⟩
    exact ⟨⟨fault, rfl, allowed⟩, holds⟩

theorem keeps_forward (respects : Respects linked invariant) (funcName : String)
    (call : VirtualCall) (refs : call.Refs) :
    Keeps invariant (fun stop => ∃ fault, stop = .fault fault ∧ faults fault)
      (forward linked funcName call refs : Exported P Out Unit) :=
  keeps_doNoexcept respects _ _ (keeps_bind (keeps_consult respects call refs) fun _ => keeps_pure _)

/-- What `OnMessageSent` needs to be able to read: a byte that ends the loop, and a
NUL behind it. -/
def Readable (message : Option Bytes) : Prop :=
  ∀ memory, message = some memory →
    ∃ visible text, skipControl memory = some visible ∧ readText visible = some text

end Rules

namespace EntryPoint

/-- The calls that come only while the plugin is loaded. -/
def IsCallback : EntryPoint → Prop
  | onInit | onUnload | onInfoRequest | trampoline _ => False
  | _ => True

/-- The message of `OnMessageSent` can be read. -/
def Readable : EntryPoint → Prop
  | onMessageSent message _ _ => Plugpp.Readable message
  | _ => True

end EntryPoint

section Callbacks

variable {P : Type} {linked : Linked P} {invariant : World P → Prop}

/-- Without faults in its code an exported function does not stop. -/
theorem keeps_without_faults {Out α : Type} {stops : Stop → Prop} {body : Exported P Out α}
    (kept : Keeps invariant (fun stop => ∃ fault, stop = .fault fault ∧ False) body) :
    Keeps invariant stops body := by
  apply Code.triple_consequence kept (fun _ holds => holds) (fun _ _ holds => holds)
  rintro stop state ⟨⟨_, _, impossible⟩, _⟩
  exact impossible.elim

/-- Code that can only throw does not stop inside `doNoexcept`. -/
theorem keeps_guarded {Out α : Type} {stops : Stop → Prop} (respects : Respects linked invariant)
    (funcName : Bytes) {callable : Exported P Out α} (callableError : α)
    (kept : Keeps invariant (Escapes fun _ => False) callable) :
    Keeps invariant stops (doNoexcept funcName callable callableError) :=
  keeps_without_faults (keeps_doNoexcept respects funcName callableError kept)

/-- `OnMessageSent` stops only if it reads behind the message's memory. -/
theorem keeps_onMessageSent (respects : Respects linked invariant) (message : Option Bytes)
    (slot mode : Int) :
    Keeps invariant (fun stop => ∃ fault, stop = .fault fault ∧ fault = .wildRead ∧
      ¬ Readable message) (onMessageSent linked message slot mode) := by
  apply keeps_doNoexcept respects
  cases message with
  | none => exact keeps_writeOut _
  | some memory =>
    cases skipped : skipControl memory with
    | none =>
      simp only [skipped]
      apply triple_raise
      intro state holds
      refine ⟨⟨rfl, ?_⟩, holds⟩
      intro readable
      obtain ⟨visible, _, found, _⟩ := readable memory rfl
      simp [skipped] at found
    | some visible =>
      simp only [skipped]
      apply keeps_bind (keeps_observe _)
      intro shown
      cases shown with
      | false =>
        simp only [Bool.false_eq_true, ↓reduceIte]
        exact keeps_writeOut _
      | true =>
        simp only [↓reduceIte]
        apply keeps_bind (keeps_getPlugin respects)
        intro plugin
        cases read : readText visible with
        | none =>
          apply triple_raise
          intro state holds
          refine ⟨⟨rfl, ?_⟩, holds⟩
          intro readable
          obtain ⟨_, text, found, readHere⟩ := readable memory rfl
          rw [skipped, Option.some.injEq] at found
          simp [← found, read] at readHere
        | some text =>
          apply keeps_bind (keeps_consult respects _ _)
          intro answer
          exact keeps_writeOut _

/-- Granting access can only throw. -/
theorem keeps_grantAccess (respects : Respects linked invariant) {faults : Fault → Prop} :
    Keeps invariant (Escapes faults) (grantAccess linked) := by
  apply keeps_bind (keeps_observe _)
  rintro (_ | cl)
  · exact keeps_bind (keeps_observe _) fun _ => keeps_print respects _
  · exact keeps_consult respects _ _

/-- A callback keeps what its parts keep, and stops only where `OnMessageSent` reads
behind its message. The cases are the callbacks that do more than forward. -/
theorem keeps_enter (respects : Respects linked invariant) (entry : EntryPoint)
    (callback : entry.IsCallback) :
    Keeps invariant (fun stop => stop = .fault .wildRead ∧ ¬ entry.Readable)
      (enter linked entry) := by
  cases entry with
  | onInit | onUnload | onInfoRequest | trampoline context => exact callback.elim
  | onPlayerConnect clientnum netaddress userinfo =>
    apply keeps_bind (keeps_observe _)
    intro isEmpty
    cases isEmpty with
    | false => exact keeps_pure _
    | true =>
      apply keeps_guarded respects
      apply keeps_bind (keeps_consult respects _ _)
      rintro (_ | reason)
      · exact keeps_pure _
      · exact keeps_writeOut _
  | onPlayerGotAuthInfo addr cl =>
    apply keeps_guarded respects
    apply keeps_bind (keeps_invoke respects _ _ _)
    rintro ⟨_ | reason, refs⟩
    · exact keeps_writeOut _
    · exact keeps_bind (keeps_writeOut _) fun _ => keeps_writeOut _
  | onPlayerGetBanStatus len =>
    apply keeps_bind (keeps_observe _)
    intro isEmpty
    cases isEmpty with
    | false => exact keeps_pure _
    | true =>
      apply keeps_guarded respects
      apply keeps_bind (keeps_invoke respects _ _ _)
      rintro ⟨_ | reason, refs⟩
      · exact keeps_grantAccess respects
      · exact keeps_writeOut _
  | onMessageSent message slot mode =>
    apply triple_consequence (keeps_onMessageSent respects message slot mode)
      (fun _ holds => holds) (fun _ _ holds => holds)
    rintro stop state ⟨⟨_, rfl, rfl, unreadable⟩, holds⟩
    exact ⟨⟨rfl, unreadable⟩, holds⟩
  | onClientEnterWorld client =>
    apply keeps_guarded respects
    exact keeps_bind (keeps_observe _) fun _ => keeps_consult respects _ _
  | onPlayerWantReservedSlot addr =>
    apply keeps_guarded respects
    apply keeps_bind (keeps_observe _)
    intro allowed
    cases allowed with
    | false =>
      simp only [Bool.false_eq_true, ↓reduceIte]
      exact keeps_writeOut _
    | true => exact keeps_bind (keeps_consult respects _ _) fun _ => keeps_writeOut _
  | onUdpNetEvent addr data size =>
    apply keeps_guarded respects
    exact keeps_bind (keeps_consult respects _ _) fun _ => keeps_writeOut _
  | onUdpNetSend addr data len =>
    apply keeps_guarded respects
    exact keeps_bind (keeps_consult respects _ _) fun _ => keeps_writeOut _
  | _ => exact keeps_without_faults (keeps_forward respects _ _ _)

/-- With an entry, `OnInfoRequest` keeps what a callback keeps. -/
theorem keeps_onInfoRequest (respects : Respects linked invariant) (stops : Stop → Prop) :
    Keeps invariant stops (onInfoRequest linked) := by
  apply keeps_bind (keeps_writeOut _)
  intro _
  apply keeps_guarded respects
  apply keeps_bind (keeps_observe _)
  rintro (_ | _)
  · exact keeps_pure _
  · exact keeps_bind (keeps_consult respects _ _) fun _ => keeps_writeOut _

/-- That `gEntry` is set is kept by every plugin. -/
theorem respects_loaded (linked : Linked P) :
    Respects linked fun world : World P => world.gEntry ≠ none where
  loaded := fun _ set => set
  printf := fun _ _ set => set
  virtual := by simp

end Callbacks

/-! ## The barrier -/

section Barrier

variable {P Out α : Type} {linked : Linked P}

/-- No exception leaves the code, from any state. -/
def Barred (body : Exported P Out α) : Prop :=
  ∀ state exception, (body state).1 ≠ .error (.thrown exception)

/-- No exception leaves `doNoexcept`. -/
theorem barred_doNoexcept (funcName : Bytes) (callable : Exported P Out α) (callableError : α) :
    Barred (doNoexcept funcName callable callableError) := by
  intro state exception escaped
  unfold doNoexcept recover at escaped
  rcases result : callable state with ⟨stop | value, after⟩
  · rw [result] at escaped
    cases stop with
    | thrown thrown => simp [report, bind_apply, print] at escaped
    | fault fault => simp [report] at escaped
  · simp [result] at escaped

theorem barred_pure (value : α) : Barred (pure value : Exported P Out α) := by
  simp [Barred]

theorem barred_observe (reading : World P × Out → α) :
    Barred (observe reading : Exported P Out α) := by
  simp [Barred]

theorem barred_update (change : World P × Out → World P × Out) :
    Barred (update change : Exported P Out Unit) := by
  simp [Barred]

theorem barred_bind {β : Type} {first : Exported P Out α} {next : α → Exported P Out β}
    (head : Barred first) (tail : ∀ value, Barred (next value)) : Barred (first >>= next) := by
  intro state exception
  rw [bind_apply]
  rcases result : first state with ⟨stop | value, after⟩
  · simpa [result] using head state exception
  · exact tail value after exception

/-- What an entry point must not do for an exception to stay inside: nothing if it is
an exported function; a trampoline must not reach a functor that throws. -/
def EntryPoint.Contained (linked : Linked P) (world : World P) : EntryPoint → Prop
  | trampoline context => ∀ functor,
      (Command.staticInvoke context world.env.commands).1 = .ok (some functor) →
      ∀ exception, (linked.functor functor (world.gEntry, world.env)).1 ≠ .error exception
  | _ => True

/-- What the server owes an entry point: to call back only while `gEntry` is set, to
pass a message that can be read, and to call a trampoline only while its slot leads
to a command. -/
def EntryPoint.Ready (world : World P) : EntryPoint → Prop
  | onInit | onUnload | onInfoRequest => True
  | trampoline context =>
      ∀ stop, (Command.staticInvoke context world.env.commands).1 ≠ .error stop
  | entry => world.gEntry ≠ none ∧ entry.Readable

/-- An exported function lets no exception out, whatever the plugin's code does. -/
theorem barred_enter (entry : EntryPoint) (exported : ∀ context, entry ≠ .trampoline context) :
    Barred (enter linked entry) := by
  cases entry with
  | trampoline context => exact absurd rfl (exported context)
  | onPlayerConnect clientnum netaddress userinfo =>
    apply barred_bind (barred_observe _)
    rintro (_ | _)
    · exact barred_pure _
    · exact barred_doNoexcept _ _ _
  | onPlayerGetBanStatus len =>
    apply barred_bind (barred_observe _)
    rintro (_ | _)
    · exact barred_pure _
    · exact barred_doNoexcept _ _ _
  | onInfoRequest => exact barred_bind (barred_update _) fun _ => barred_doNoexcept _ _ _
  | _ => exact barred_doNoexcept _ _ _

/-- `staticInvoke` itself throws nothing. -/
theorem staticInvoke_not_thrown (context : Nat) (commands : Commands) (exception : Thrown) :
    (Command.staticInvoke context commands).1 ≠ .error (.thrown exception) := by
  unfold Command.staticInvoke
  split
  · split <;> simp
  · simp

/-- `staticInvoke` only looks at the slots. -/
theorem staticInvoke_unchanged (context : Nat) (commands : Commands) :
    (Command.staticInvoke context commands).2 = commands := by
  unfold Command.staticInvoke
  split
  · split <;> rfl
  · rfl

/-- A trampoline that leads to a command returns or throws with the command's functor;
one that leads nowhere stops where `staticInvoke` does. -/
theorem trampoline_outcome (linked : Linked P) (context : Nat) (state : World P × Unit) :
    (contextualStaticFunction linked context state).1 =
      match (Command.staticInvoke context state.1.env.commands).1 with
      | .error stop => .error stop
      | .ok none => .ok ⟨⟩
      | .ok (some functor) =>
        (linked.functor functor (state.1.gEntry, state.1.env)).1.mapError .thrown := by
  simp only [contextualStaticFunction, bind_apply, focus, staticInvoke_unchanged]
  rcases (Command.staticInvoke context state.1.env.commands).1 with stop | _ | functor <;> rfl

/-- Code that can only stop in impossible ways returns. -/
theorem returns_of_keeps {invariant : World P → Prop} {stops : Stop → Prop}
    {body : Exported P Out α} (kept : Keeps invariant stops body) (state : World P × Out)
    (holds : invariant state.1) (impossible : ∀ stop, ¬ stops stop) :
    ∃ value, (body state).1 = .ok value := by
  have outcome := (keeps_outcome kept state holds).2
  cases result : (body state).1 with
  | error stop => exact absurd (outcome stop result) (impossible stop)
  | ok value => exact ⟨value, rfl⟩

/-- An exported function that the server calls as it should returns. -/
theorem ready_returns (entry : EntryPoint) (exported : ∀ context, entry ≠ .trampoline context)
    (state : World P × entry.Out) (ready : entry.Ready state.1) :
    ∃ value, (enter linked entry state).1 = .ok value := by
  have callback : ∀ set : state.1.gEntry ≠ none ∧ entry.Readable, entry.IsCallback →
      ∃ value, (enter linked entry state).1 = .ok value := by
    rintro ⟨set, readable⟩ isCallback
    apply returns_of_keeps (keeps_enter (respects_loaded linked) entry isCallback) state set
    rintro stop ⟨_, unreadable⟩
    exact unreadable readable
  cases entry with
  | trampoline context => exact absurd rfl (exported context)
  | onInit =>
    obtain ⟨_, _, went⟩ | ⟨_, _, _, _, _, went⟩ | ⟨_, _, _, _, _, _, went⟩ :=
      onInit_cases linked state
    · exact ⟨0, by rw [enter, went]⟩
    · exact ⟨0, by rw [enter, went]⟩
    · exact ⟨-1, by rw [enter, went]⟩
  | onUnload =>
    cases registered : state.1.gEntry with
    | some entry => exact ⟨⟨⟩, by rw [enter, onUnload_present registered]⟩
    | none => exact ⟨⟨⟩, by rw [enter, onUnload_absent registered]⟩
  | onInfoRequest =>
    by_cases registered : state.1.gEntry = none
    · exact ⟨⟨⟩, by rw [enter, onInfoRequest_absent registered]⟩
    · exact returns_of_keeps (keeps_onInfoRequest (respects_loaded linked) fun _ => False) state
        registered fun _ impossible => impossible
  | _ => exact callback ready trivial

/-- No exception leaves an entry point exactly if it is an exported function, or a
trampoline whose functor does not throw. Called as the server should, the entry point
returns under the same condition. -/
theorem barrier (linked : Linked P) (entry : EntryPoint) (state : World P × entry.Out) :
    ((∀ exception, (enter linked entry state).1 ≠ .error (.thrown exception)) ↔
      entry.Contained linked state.1) ∧
    (entry.Ready state.1 →
      ((∃ value, (enter linked entry state).1 = .ok value) ↔ entry.Contained linked state.1)) := by
  by_cases exported : ∀ context, entry ≠ .trampoline context
  · have contained : entry.Contained linked state.1 := by
      cases entry with
      | trampoline context => exact absurd rfl (exported context)
      | _ => trivial
    have inside : ∀ exception, (enter linked entry state).1 ≠ .error (.thrown exception) :=
      barred_enter entry exported state
    exact ⟨iff_of_true inside contained,
      fun ready => iff_of_true (ready_returns entry exported state ready) contained⟩
  · obtain ⟨context, rfl⟩ : ∃ context, entry = .trampoline context := by
      simpa using exported
    have outcome := trampoline_outcome linked context state
    have own := staticInvoke_not_thrown context state.1.env.commands
    rw [enter, outcome]
    unfold EntryPoint.Contained EntryPoint.Ready
    rcases reached : (Command.staticInvoke context state.1.env.commands).1 with stop | _ | functor
    · simpa [reached] using own
    · simp [reached]
    · rcases called : (linked.functor functor (state.1.gEntry, state.1.env)).1 with
        exception | value <;> simp [reached, called, Except.mapError]

end Barrier

/-! ## Plugins with fixed answers -/

/-- A plugin that always gives the same answers, and whose commands all end the same
way. -/
def fixed {P : Type} (answers : (call : VirtualCall) → Except Thrown call.Result)
    (functor : Except Thrown Unit) : Linked P where
  virtual := fun call state => (answers call, state)
  pluginMain := pure ⟨⟩
  destroy := fun _ env => env
  functor := fun _ state => (functor, state)
  compareAdr := fun left right => left == right
  strncpyz := fun _ text => text
  handlerVersion := (4, 0)

/-- A world in which such a plugin is loaded, with these commands and clients. -/
def loadedWorld (commands : Commands) (slots : List (Option Pointer))
    (client : Pointer → Client) : World Unit where
  env := ⟨commands, ⟨slots, fun _ => none, client, 0, []⟩⟩
  gEntry := some ⟨some ⟨⟩⟩
  entries := [.built]
  calls := []

/-- A plugin whose command throws. -/
def thrower : Linked Unit :=
  fixed (fun call => .ok call.default) (.error (.exception (literal "boom")))

/-- The world after the command is registered in slot 0, the only one. -/
def throwerWorld : World Unit :=
  loadedWorld (Command.construct 1 (literal "boom") (some 7) false
    (Command.initial 1 fun _ => none)).2 [] anyone

/-- The server runs the command by its name, and the exception reaches it. -/
theorem thrower_escapes :
    throwerWorld.env.commands.table (literal "boom") = some (.trampoline 0) ∧
    (EntryPoint.trampoline 0).Ready throwerWorld ∧
    (enter thrower (.trampoline 0) (throwerWorld, ⟨⟩)).1 =
      .error (.thrown (.exception (literal "boom"))) := by
  refine ⟨by decide, ?_, rfl⟩
  intro stop reached
  have leads : (Command.staticInvoke 0 throwerWorld.env.commands).1 = .ok (some 7) := rfl
  simp [leads] at reached

end Plugpp
