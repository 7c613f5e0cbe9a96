import Plugpp.Barrier
import Plugpp.Ownership
import Plugpp.Runs

/-!
# The lifecycle of the library

A session is any sequence of calls from the server. `OnInit`, `OnUnload` and
`OnInfoRequest` come at any time and any number of times; the other callbacks come
only between an `OnInit` that returned 0 and the next `OnUnload`, and a trampoline is
called only by a name that is bound to it. What the plugin's code does may be another
at each call; between the calls the server goes on by itself.

Every call keeps the session sound: the commands are those the registered plugin owns,
the server's view of what is loaded agrees with `gEntry`, and entries are built and
destroyed in turn. In a sound session a call finds `gEntry` set where it needs it, and
a session without an entry has left nothing behind.
-/

namespace Plugpp

open Bytes Code Runs Exported

/-- What the plugin's code does during one call of the server: `pluginMain`, the
virtual functions and the closures of commands, as to the commands they own; and what
the virtual functions return and do to the server's state. -/
structure Behaviour where
  main : MainScript
  virtual : VirtualCall → Script
  functor : Functor → Script
  answer : (call : VirtualCall) → call.Refs × Host → call.Result × call.Refs × Host

/-- All names the plugin's code registers or removes are among the allowed ones. -/
structure Behaviour.Names (allowed : Bytes → Prop) (behaviour : Behaviour) : Prop where
  main : behaviour.main.Names allowed
  virtual : ∀ call, (behaviour.virtual call).Names allowed
  functor : ∀ functor, (behaviour.functor functor).Names allowed

/-- The code of a plugin that behaves like this, with the rest of what is linked. The
closures of commands work on the registered plugin, which exists while they do. -/
def scripted (base : Linked (List Pointer)) (allocator : Allocator) (behaviour : Behaviour) :
    Linked (List Pointer) where
  virtual := fun call (refs, owned, env) =>
    let answered := behaviour.answer call (refs, env.host)
    let ran := (behaviour.virtual call).run allocator (owned, { env with host := answered.2.2 })
    (ran.1.map fun _ => answered.1, answered.2.1, ran.2)
  pluginMain := behaviour.main.run { base with destroy := deleteOwned } allocator
  destroy := deleteOwned
  functor := fun functor (entry, env) =>
    match entry with
    | some ⟨some owned⟩ =>
      let ran := (behaviour.functor functor).run allocator (owned, env)
      (ran.1, some ⟨some ran.2.1⟩, ran.2.2)
    | unregistered => (.ok ⟨⟩, unregistered, env)
  compareAdr := base.compareAdr
  strncpyz := base.strncpyz
  handlerVersion := base.handlerVersion

/-- One call of the server, with the memory behind its out-parameters, the server's own
state at that moment and the plugin's behaviour during the call. -/
structure HostCall where
  entry : EntryPoint
  out : entry.Out
  host : Host
  behaviour : Behaviour

/-- The world as the server's state has it by now. -/
def World.facing (world : World (List Pointer)) (host : Host) : World (List Pointer) :=
  { world with env := { world.env with host := host } }

/-- The call, from a world. -/
def HostCall.enters (base : Linked (List Pointer)) (allocator : Allocator) (call : HostCall)
    (world : World (List Pointer)) :
    Except Stop call.entry.Returned × World (List Pointer) × call.entry.Out :=
  enter (scripted base allocator call.behaviour) call.entry (world.facing call.host, call.out)

/-- The world, and whether an `OnInit` has returned 0 with no `OnUnload` since. -/
structure Session where
  world : World (List Pointer)
  loaded : Bool

/-- What the server takes for loaded after a call. -/
def loadedAfter (loaded : Bool) : (entry : EntryPoint) → Except Stop entry.Returned → Bool
  | .onInit, .ok returned => loaded || decide ((returned : Int) = 0)
  | .onUnload, _ => false
  | _, _ => loaded

/-- When the server makes a call, and which names the plugin's code may register or
remove: those that the server has not bound. -/
structure Admits (server : Bytes → Option Command.Xcommand) (session : Session)
    (call : HostCall) : Prop where
  loaded : call.entry.IsCallback → session.loaded = true
  bound : ∀ context, call.entry = .trampoline context →
    ∃ name, session.world.env.commands.table name = some (.trampoline context)
  names : call.behaviour.Names fun name => server name = none

/-- The server's calls on sessions. -/
def lifecycleSystem (base : Linked (List Pointer)) (allocator : Allocator)
    (server : Bytes → Option Command.Xcommand) : System Session HostCall where
  admits := Admits server
  step := fun session call =>
    let entered := call.enters base allocator session.world
    ⟨entered.2.1, loadedAfter session.loaded call.entry entered.1⟩

/-- The library before its first call: free slots, the server's table, no entry. -/
def start (capacity : Nat) (server : Bytes → Option Command.Xcommand) (host : Host) : Session where
  world := ⟨⟨Command.initial capacity server, host⟩, none, [], []⟩
  loaded := false

/-! ## Sound sessions -/

/-- How many entries there are after a history, latest first. -/
def existing : List EntryEvent → Int
  | [] => 0
  | .built :: earlier => existing earlier + 1
  | .died :: earlier => existing earlier - 1

/-- What the registered plugin owns. -/
def World.owned (world : World (List Pointer)) : List Pointer :=
  match world.gEntry with
  | some entry => entry.owned
  | none => []

/-- At every moment of the history there was one entry or none. -/
def AtMostOne (entries : List EntryEvent) : Prop :=
  ∀ moment, moment <:+ entries → existing moment = 0 ∨ existing moment = 1

/-- The commands are those the registered plugin owns; `gEntry` is set exactly while an
entry exists, and there was never more than one. -/
structure Orderly (capacity : Nat) (server : Bytes → Option Command.Xcommand)
    (world : World (List Pointer)) : Prop where
  holding : Holding capacity server world.owned world.env.commands
  present : existing world.entries = if world.gEntry.isSome then 1 else 0
  once : AtMostOne world.entries

/-- The world is orderly, and the server knows what is loaded. -/
structure Sound (capacity : Nat) (server : Bytes → Option Command.Xcommand)
    (session : Session) : Prop where
  orderly : Orderly capacity server session.world
  loaded : session.loaded = session.world.gEntry.isSome

/-- What a callback keeps: an entry, ownership and the history of entries. -/
structure Serving (capacity : Nat) (server : Bytes → Option Command.Xcommand)
    (entries : List EntryEvent) (world : World (List Pointer)) : Prop where
  set : world.gEntry ≠ none
  holding : Holding capacity server world.owned world.env.commands
  unchanged : world.entries = entries

/-- One more moment of the history. -/
theorem atMostOne_cons {entries : List EntryEvent} (once : AtMostOne entries) (event : EntryEvent)
    (now : existing (event :: entries) = 0 ∨ existing (event :: entries) = 1) :
    AtMostOne (event :: entries) := by
  intro moment suffix
  rcases List.suffix_cons_iff.mp suffix with rfl | earlier
  · exact now
  · exact once moment earlier

section Steps

variable {capacity : Nat} {server : Bytes → Option Command.Xcommand}

/-- The server's own state has no part in order. -/
theorem Orderly.facing {world : World (List Pointer)} (orderly : Orderly capacity server world)
    (host : Host) : Orderly capacity server (world.facing host) :=
  ⟨orderly.holding, orderly.present, orderly.once⟩

/-- An orderly world with an entry serves callbacks. -/
theorem Orderly.serving {world : World (List Pointer)} (orderly : Orderly capacity server world)
    (set : world.gEntry ≠ none) : Serving capacity server world.entries world :=
  ⟨set, orderly.holding, rfl⟩

/-- A world that has served a callback is as orderly as before. -/
theorem Serving.orderly {world after : World (List Pointer)}
    (orderly : Orderly capacity server world) (set : world.gEntry ≠ none)
    (serving : Serving capacity server world.entries after) : Orderly capacity server after := by
  have before : world.gEntry.isSome = true := Option.isSome_iff_ne_none.mpr set
  have now : after.gEntry.isSome = true := Option.isSome_iff_ne_none.mpr serving.set
  refine ⟨serving.holding, ?_, ?_⟩
  · rw [serving.unchanged, orderly.present, before, now]
  · rw [serving.unchanged]
    exact orderly.once

/-- A script that runs on the registered plugin keeps a serving world serving. -/
theorem script_serving (allocator : Allocator) {script : Script}
    (names : script.Names fun name => server name = none) {entries : List EntryEvent}
    {world : World (List Pointer)} {owned : List Pointer}
    (registered : world.gEntry = some ⟨some owned⟩)
    (serving : Serving capacity server entries world) (host : Host) (calls : List VirtualCall) :
    Serving capacity server entries { world with
      env := (script.run allocator (owned, { world.env with host := host })).2.2
      gEntry := some ⟨some (script.run allocator (owned, { world.env with host := host })).2.1⟩
      calls := calls } := by
  have before : Holding capacity server (owned ++ []) world.env.commands := by
    simpa [World.owned, registered, PluginEntry.owned] using serving.holding
  have kept := script_holds allocator script names owned { world.env with host := host } before
  refine ⟨by simp, ?_, serving.unchanged⟩
  simpa [World.owned, PluginEntry.owned] using kept

/-- The console and the virtual functions keep a serving world serving. -/
theorem respects_serving (base : Linked (List Pointer)) (allocator : Allocator)
    {behaviour : Behaviour} (names : behaviour.Names fun name => server name = none)
    (entries : List EntryEvent) :
    Respects (scripted base allocator behaviour) (Serving capacity server entries) where
  loaded := fun _ serving => serving.set
  printf := fun _ _ serving => ⟨serving.set, serving.holding, serving.unchanged⟩
  virtual := by
    intro world plugin call refs serving registered
    exact script_serving allocator (names.virtual call) registered serving _ _

/-- A callback of an orderly world with an entry does not reach through a null `gEntry`
and leaves an orderly world. -/
theorem callback_orderly (base : Linked (List Pointer)) (allocator : Allocator) (call : HostCall)
    (callback : call.entry.IsCallback) {world : World (List Pointer)}
    (names : call.behaviour.Names fun name => server name = none)
    (orderly : Orderly capacity server world) (set : world.gEntry ≠ none) :
    Orderly capacity server (call.enters base allocator world).2.1 ∧
      (call.enters base allocator world).1 ≠ .error (.fault .nullEntry) := by
  have respects : Respects _ (Serving capacity server world.entries) :=
    respects_serving base allocator names _
  have kept := keeps_outcome (keeps_enter respects call.entry callback)
    (world.facing call.host, call.out) ((orderly.facing call.host).serving set)
  refine ⟨kept.1.orderly orderly set, ?_⟩
  intro stopped
  have other := (kept.2 _ stopped).1
  simp at other

/-- The same of `OnInfoRequest`, which does not need the entry. -/
theorem onInfoRequest_orderly (base : Linked (List Pointer)) (allocator : Allocator)
    (behaviour : Behaviour) {world : World (List Pointer)} (out : PluginInfoFields)
    (names : behaviour.Names fun name => server name = none)
    (orderly : Orderly capacity server world) :
    Orderly capacity server (onInfoRequest (scripted base allocator behaviour) (world, out)).2.1 ∧
      (onInfoRequest (scripted base allocator behaviour) (world, out)).1 ≠
        .error (.fault .nullEntry) := by
  by_cases set : world.gEntry = none
  · rw [onInfoRequest_absent set]
    exact ⟨orderly, by simp⟩
  · have respects : Respects _ (Serving capacity server world.entries) :=
      respects_serving base allocator names _
    have kept := keeps_outcome (keeps_onInfoRequest respects fun _ => False) (world, out)
      (orderly.serving set)
    exact ⟨kept.1.orderly orderly set, fun stopped => kept.2 _ stopped⟩

/-- A command is live only with an entry, whose plugin owns it. -/
theorem Orderly.registered {world : World (List Pointer)} (orderly : Orderly capacity server world)
    {command : Command} (isLive : command ∈ world.env.commands.live) :
    ∃ owned, world.gEntry = some ⟨some owned⟩ := by
  have isOwned : command.self ∈ world.owned :=
    orderly.holding.own.mem_iff.mp (List.mem_map_of_mem isLive)
  unfold World.owned at isOwned
  split at isOwned
  · next entry present =>
    obtain ⟨registered⟩ := entry
    cases registered with
    | none => simp [PluginEntry.owned] at isOwned
    | some owned => exact ⟨owned, present⟩
  · simp at isOwned

/-- A trampoline that a name is bound to leads to the closure of a live command, which
leaves an orderly world. -/
theorem trampoline_orderly (base : Linked (List Pointer)) (allocator : Allocator)
    (behaviour : Behaviour) {world : World (List Pointer)} {context : Nat} {name : Bytes}
    (bound : world.env.commands.table name = some (.trampoline context))
    (names : behaviour.Names fun name => server name = none)
    (orderly : Orderly capacity server world) :
    let entered := contextualStaticFunction (scripted base allocator behaviour) context (world, ())
    Orderly capacity server entered.2.1 ∧ entered.1 ≠ .error (.fault .nullEntry) := by
  obtain ⟨command, isLive, rfl, _⟩ := orderly.holding.wellFormed.bound name context bound
  obtain ⟨owned, registered⟩ := orderly.registered isLive
  have reached := Command.staticInvoke_live orderly.holding.wellFormed isLive
  intro entered
  cases closure : command.mImpl.mFunctor with
  | none =>
    have nothing : entered = (.ok (), world, ()) := by
      simp only [entered, contextualStaticFunction, bind_apply, focus, reached, closure]
      rfl
    rw [nothing]
    exact ⟨orderly, by simp⟩
  | some functor =>
    let ran := (behaviour.functor functor).run allocator (owned, world.env)
    have called : entered = (ran.1.mapError .thrown,
        { world with gEntry := some ⟨some ran.2.1⟩, env := ran.2.2 }, ()) := by
      simp only [entered, contextualStaticFunction, bind_apply, focus, reached, closure, scripted,
        registered]
      rfl
    have set : world.gEntry ≠ none := by simp [registered]
    have serving := script_serving allocator (names.functor functor) registered
      (orderly.serving set) world.env.host world.calls
    rw [called]
    refine ⟨serving.orderly orderly set, ?_⟩
    cases ran.1 <;> simp [Except.mapError]

end Steps

/-! ## `OnInit` and `OnUnload` -/

section Loading

variable {P Out : Type} (linked : Linked P)

/-- `OnInit` returns -1 exactly if there was no entry and the construction of one threw. -/
theorem onInit_fails_iff (state : World P × Out) :
    (onInit linked state).1 = .ok (-1) ↔ state.1.gEntry = none ∧
      ∃ exception, (newPluginEntry linked state).1 = .error (.thrown exception) := by
  obtain ⟨_, present, went⟩ | ⟨_, _, absent, _, built, went⟩ |
    ⟨exception, _, _, absent, _, threw, went⟩ := onInit_cases linked state
  · simp [went, present]
  · simp [went, built]
  · simp [went, absent, threw]

/-- `OnInit` returns 0 and there is an entry, or it returns -1 and there is none, as
before. -/
theorem onInit_outcome (state : World P × Out) :
    ((onInit linked state).1 = .ok 0 ∧ (onInit linked state).2.1.gEntry ≠ none) ∨
      ((onInit linked state).1 = .ok (-1) ∧ state.1.gEntry = none ∧
        (onInit linked state).2.1.gEntry = none) := by
  obtain ⟨_, present, went⟩ | ⟨_, _, absent, _, _, went⟩ | ⟨_, _, _, absent, _, _, went⟩ :=
    onInit_cases linked state
  · simp [went, present]
  · simp [went]
  · simp [went, absent]

/-- Without an entry, `OnInit` builds one, even if that throws. -/
theorem onInit_builds (state : World P × Out) (absent : state.1.gEntry = none) :
    ∃ more, (onInit linked state).2.1.entries = more ++ .built :: state.1.entries := by
  obtain ⟨_, present, _⟩ | ⟨_, _, _, _, _, went⟩ | ⟨_, _, _, _, _, _, went⟩ :=
    onInit_cases linked state
  · simp [absent] at present
  · exact ⟨[], by simp [went]⟩
  · exact ⟨[.died], by simp [went]⟩

/-- `OnUnload` leaves no entry. -/
theorem onUnload_clears (state : World P × Out) : (onUnload linked state).2.1.gEntry = none := by
  cases present : state.1.gEntry with
  | none => rw [onUnload_absent present, present]
  | some entry => rw [onUnload_present present]

/-- `OnInfoRequest` leaves an entry exactly if there was one. -/
theorem onInfoRequest_loaded (state : World P × PluginInfoFields) :
    (onInfoRequest linked state).2.1.gEntry.isSome = state.1.gEntry.isSome := by
  by_cases set : state.1.gEntry = none
  · rw [onInfoRequest_absent set]
  · have kept := keeps_outcome (keeps_onInfoRequest (respects_loaded linked) fun _ => False)
      state set
    rw [Option.isSome_iff_ne_none.mpr set, Option.isSome_iff_ne_none.mpr kept.1]

end Loading

/-- So does a trampoline: the closure of a command works on the registered plugin. -/
theorem trampoline_loaded {Out : Type} (base : Linked (List Pointer)) (allocator : Allocator)
    (behaviour : Behaviour) (context : Nat) (state : World (List Pointer) × Out) :
    (contextualStaticFunction (scripted base allocator behaviour) context
      state).2.1.gEntry.isSome = state.1.gEntry.isSome := by
  simp only [contextualStaticFunction, bind_apply, focus, staticInvoke_unchanged]
  rcases (Command.staticInvoke context state.1.env.commands).1 with stop | _ | functor
  · rfl
  · rfl
  · rcases state.1.gEntry with _ | ⟨_ | owned⟩ <;> simp [scripted]

section Sessions

variable {capacity : Nat} {server : Bytes → Option Command.Xcommand}

/-- What `pluginMain` registered on a new entry is owned by it. -/
theorem pluginMain_holds (base : Linked (List Pointer)) (allocator : Allocator)
    {behaviour : Behaviour} (names : behaviour.Names fun name => server name = none) {env : Env}
    (nothing : Holding capacity server [] env.commands) {outcome : Except Thrown Unit}
    {entry : PluginEntry (List Pointer)} {left : Env}
    (main : (scripted base allocator behaviour).pluginMain (⟨none⟩, env) = (outcome, entry, left)) :
    Holding capacity server entry.owned left.commands := by
  have built : Holding capacity server
      ((scripted base allocator behaviour).pluginMain (⟨none⟩, env)).2.1.owned
      ((scripted base allocator behaviour).pluginMain (⟨none⟩, env)).2.2.commands :=
    main_holds allocator rfl behaviour.main names.main ⟨none⟩ env nothing
  rw [main] at built
  exact built

/-- `OnInit` leaves an orderly world. A new entry starts with nothing owned; what a
throwing `pluginMain` registered is destroyed with it. -/
theorem onInit_orderly {Out : Type} (base : Linked (List Pointer)) (allocator : Allocator)
    {behaviour : Behaviour} (names : behaviour.Names fun name => server name = none)
    (state : World (List Pointer) × Out) (orderly : Orderly capacity server state.1) :
    Orderly capacity server (onInit (scripted base allocator behaviour) state).2.1 := by
  have without : state.1.gEntry = none →
      Holding capacity server [] (pluginPrintf constructedLine state.1.env).commands ∧
        existing state.1.entries = 0 ∧ AtMostOne (.built :: state.1.entries) := by
    intro absent
    have none_before : existing state.1.entries = 0 := by simpa [absent] using orderly.present
    refine ⟨?_, none_before, atMostOne_cons orderly.once .built (by simp [existing, none_before])⟩
    simpa [World.owned, absent, pluginPrintf] using orderly.holding
  obtain ⟨_, _, went⟩ | ⟨entry, env, absent, main, _, went⟩ |
    ⟨_, entry, env, absent, main, _, went⟩ := onInit_cases (scripted base allocator behaviour) state
  · rw [went]
    exact orderly
  · obtain ⟨nothing, none_before, once⟩ := without absent
    have built := pluginMain_holds base allocator names nothing main
    rw [went]
    exact ⟨built, by simp [existing, none_before], once⟩
  · obtain ⟨nothing, none_before, once⟩ := without absent
    have built := pluginMain_holds base allocator names nothing main
    have released : Holding capacity server []
        (entry.release (scripted base allocator behaviour) env).commands :=
      release_holds rfl entry env (by simpa using built)
    rw [went]
    refine ⟨?_, ?_, ?_⟩
    · simpa [World.owned, absent, pluginPrintf] using released
    · simp [existing, none_before, absent]
    · exact atMostOne_cons once .died (by simp [existing, none_before])

/-- `OnUnload` returns and leaves an orderly world. -/
theorem onUnload_orderly {Out : Type} (base : Linked (List Pointer)) (allocator : Allocator)
    (behaviour : Behaviour) (state : World (List Pointer) × Out)
    (orderly : Orderly capacity server state.1) :
    Orderly capacity server (onUnload (scripted base allocator behaviour) state).2.1 ∧
      (onUnload (scripted base allocator behaviour) state).1 = .ok () := by
  cases present : state.1.gEntry with
  | none =>
    rw [onUnload_absent present]
    exact ⟨orderly, rfl⟩
  | some entry =>
    have owned : Holding capacity server (entry.owned ++ []) state.1.env.commands := by
      simpa [World.owned, present] using orderly.holding
    have one_before : existing state.1.entries = 1 := by simpa [present] using orderly.present
    have released : Holding capacity server [] (entry.release (scripted base allocator behaviour)
        (pluginPrintf destroyedLine state.1.env)).commands :=
      release_holds rfl entry _ owned
    rw [onUnload_present present]
    refine ⟨⟨released, ?_, ?_⟩, rfl⟩
    · simp [existing, one_before]
    · exact atMostOne_cons orderly.once .died (by simp [existing, one_before])

/-- Where the server takes a plugin for loaded there is an entry. -/
theorem Sound.set {session : Session} (sound : Sound capacity server session)
    (isLoaded : session.loaded = true) : session.world.gEntry ≠ none :=
  Option.isSome_iff_ne_none.mp (sound.loaded.symm.trans isLoaded)

/-- Before the first call nothing is owned and nothing is loaded. -/
theorem sound_start (capacity : Nat) (host : Host)
    (foreign : ∀ name context, server name ≠ some (.trampoline context)) :
    Sound capacity server (start capacity server host) := by
  refine ⟨⟨⟨Command.wellFormed_initial capacity server foreign, ?_, ?_, ?_⟩, rfl, ?_⟩, rfl⟩
  · exact List.Perm.nil
  · simp [start, Command.initial]
  · exact fun name => Or.inl rfl
  · intro moment suffix
    rw [List.suffix_nil.mp suffix]
    exact Or.inl rfl

/-- A callback does not change what the server takes for loaded. -/
theorem loadedAfter_callback (loaded : Bool) (entry : EntryPoint) (callback : entry.IsCallback)
    (outcome : Except Stop entry.Returned) : loadedAfter loaded entry outcome = loaded := by
  cases entry with
  | onInit | onUnload => exact callback.elim
  | _ => rfl

/-- A callback comes only while the server takes the plugin for loaded. -/
def InTime (session : Session) (call : HostCall) : Prop :=
  call.entry.IsCallback → session.loaded = true

/-- The server knows what is loaded after any call that comes in time, whatever the
plugin's code does. -/
theorem step_loaded (base : Linked (List Pointer)) (allocator : Allocator) (session : Session)
    (call : HostCall) (inTime : InTime session call)
    (known : session.loaded = session.world.gEntry.isSome) :
    let after := (lifecycleSystem base allocator server).step session call
    after.loaded = after.world.gEntry.isSome := by
  intro after
  by_cases callback : call.entry.IsCallback
  · have isLoaded := inTime callback
    have set : (session.world.facing call.host).gEntry ≠ none :=
      Option.isSome_iff_ne_none.mp (known.symm.trans isLoaded)
    have kept := keeps_outcome
      (keeps_enter (respects_loaded (scripted base allocator call.behaviour)) call.entry callback)
      (session.world.facing call.host, call.out) set
    have unchanged := loadedAfter_callback session.loaded call.entry callback
      (call.enters base allocator session.world).1
    exact unchanged.trans (isLoaded.trans (Option.isSome_iff_ne_none.mpr kept.1).symm)
  · obtain ⟨entry, out, host, behaviour⟩ := call
    cases entry with
    | onInit =>
      rcases onInit_outcome (scripted base allocator behaviour)
        (session.world.facing host, out) with ⟨returned, set⟩ | ⟨returned, before, absent⟩
      · simp [after, lifecycleSystem, HostCall.enters, enter, returned, loadedAfter,
          Option.isSome_iff_ne_none.mpr set]
      · have unloaded : session.loaded = false := by
          rw [known, Option.isSome_eq_false_iff, Option.isNone_iff_eq_none]
          exact before
        simp [after, lifecycleSystem, HostCall.enters, enter, returned, loadedAfter, unloaded,
          absent]
    | onUnload =>
      exact (congrArg Option.isSome (onUnload_clears (scripted base allocator behaviour)
        (session.world.facing host, out))).symm
    | onInfoRequest =>
      exact known.trans (onInfoRequest_loaded (scripted base allocator behaviour)
        (session.world.facing host, out)).symm
    | trampoline context =>
      exact known.trans (trampoline_loaded base allocator behaviour context
        (session.world.facing host, out)).symm
    | _ => exact absurd trivial callback

/-- Every admitted call keeps the session sound and does not reach through a null
`gEntry`. -/
theorem step_sound (base : Linked (List Pointer)) (allocator : Allocator) (session : Session)
    (call : HostCall) (admitted : Admits server session call)
    (sound : Sound capacity server session) :
    Sound capacity server ((lifecycleSystem base allocator server).step session call) ∧
      (call.enters base allocator session.world).1 ≠ .error (.fault .nullEntry) := by
  have orderly := sound.orderly.facing call.host
  have known := @step_loaded server base allocator session call admitted.loaded sound.loaded
  by_cases callback : call.entry.IsCallback
  · obtain ⟨after, reached⟩ := callback_orderly base allocator call callback admitted.names
      sound.orderly (sound.set (admitted.loaded callback))
    exact ⟨⟨after, known⟩, reached⟩
  · obtain ⟨entry, out, host, behaviour⟩ := call
    cases entry with
    | onInit =>
      have after := onInit_orderly base allocator admitted.names
        (session.world.facing host, out) orderly
      refine ⟨⟨after, known⟩, ?_⟩
      rcases onInit_outcome (scripted base allocator behaviour)
        (session.world.facing host, out) with ⟨returned, _⟩ | ⟨returned, _⟩
      · simp [HostCall.enters, enter, returned]
      · simp [HostCall.enters, enter, returned]
    | onUnload =>
      obtain ⟨after, returned⟩ := onUnload_orderly base allocator behaviour
        (session.world.facing host, out) orderly
      exact ⟨⟨after, known⟩, by simp [HostCall.enters, enter, returned]⟩
    | onInfoRequest =>
      obtain ⟨after, reached⟩ :=
        onInfoRequest_orderly base allocator behaviour out admitted.names orderly
      exact ⟨⟨after, known⟩, reached⟩
    | trampoline context =>
      obtain ⟨name, bound⟩ := admitted.bound context rfl
      have bound : (session.world.facing host).env.commands.table name = _ := bound
      obtain ⟨after, reached⟩ :=
        trampoline_orderly base allocator behaviour bound admitted.names orderly
      exact ⟨⟨after, known⟩, reached⟩
    | _ => exact absurd trivial callback

end Sessions

/-- In every session a run of calls reaches: the next call does not reach through a null
`gEntry`; there was at no moment more than one entry, and there is one exactly if
`gEntry` is set. `OnInit` with an entry returns 0 and does nothing. It returns -1
exactly if there was no entry and the construction of one threw; then there is none,
and otherwise it returns 0 and there is one; without an entry it always builds one
anew. Without an entry all slots are free and the table is what it was at the start. -/
theorem lifecycle (base : Linked (List Pointer)) (allocator : Allocator) (capacity : Nat)
    (server : Bytes → Option Command.Xcommand)
    (foreign : ∀ name context, server name ≠ some (.trampoline context)) (host : Host)
    (calls : List HostCall) (session : Session)
    (run : Run (lifecycleSystem base allocator server) (start capacity server host) calls session) :
    (∀ call, Admits server session call →
      (call.enters base allocator session.world).1 ≠ .error (.fault .nullEntry)) ∧
    (AtMostOne session.world.entries ∧
      existing session.world.entries = if session.world.gEntry.isSome then 1 else 0) ∧
    (∀ (now : Host) (behaviour : Behaviour),
      let linked := scripted base allocator behaviour
      let before : World (List Pointer) × Unit := (session.world.facing now, ())
      let init := onInit linked before
      (session.world.gEntry ≠ none → init = (.ok 0, before)) ∧
      (init.1 = .ok (-1) ↔ session.world.gEntry = none ∧
        ∃ exception, (newPluginEntry linked before).1 = .error (.thrown exception)) ∧
      (init.1 = .ok 0 ∧ init.2.1.gEntry ≠ none ∨ init.1 = .ok (-1) ∧ init.2.1.gEntry = none) ∧
      (session.world.gEntry = none →
        ∃ more, init.2.1.entries = more ++ .built :: session.world.entries)) ∧
    (session.world.gEntry = none →
      (∀ slot ∈ session.world.env.commands.gCallbackInstances,
        slot.mCommandInstance = none ∧ slot.mMethod = none) ∧
      session.world.env.commands.table = server) := by
  have sound : Sound capacity server session :=
    run_preserves (fun before call admitted holds =>
      (step_sound base allocator before call admitted holds).1) run
      (sound_start capacity host foreign)
  refine ⟨?_, ⟨sound.orderly.once, sound.orderly.present⟩, ?_, ?_⟩
  · intro call admitted
    exact (step_sound base allocator session call admitted sound).2
  · intro now behaviour linked before init
    refine ⟨?_, onInit_fails_iff linked before, ?_, onInit_builds linked before⟩
    · intro set
      obtain ⟨entry, present⟩ := Option.ne_none_iff_exists'.mp set
      exact onInit_present present
    · exact (onInit_outcome linked before).imp_right fun failed => ⟨failed.1, failed.2.2⟩
  · intro absent
    have nothing : Holding capacity server [] session.world.env.commands := by
      simpa [World.owned, absent] using sound.orderly.holding
    exact nothing.nothing.2

/-! ## A reload -/

/-- The address behind all used ones. -/
def behind : Allocator where
  address := fun used => used.max?.getD 0 + 1
  unused := by
    intro used member
    exact absurd (List.le_max?_getD_of_mem member) (Nat.not_succ_le_self _)

/-- A plugin with no behaviour of its own but a `pluginMain`. -/
def loads (main : MainScript) : Behaviour where
  main := main
  virtual := fun _ => .returns
  functor := fun _ => .returns
  answer := fun call (refs, host) => (call.default, refs, host)

/-- A constructor that builds a command and throws what its construction throws. -/
def builds (name : Bytes) (rest : Script) : Script := .command name none false rest .throws

/-- A first `OnInit` whose plugin needs a slot too many, a second one with a smaller
plugin, a frame and the end. -/
def reload : List HostCall :=
  let greedy := builds (literal "login") (builds (literal "rcon") .returns)
  let modest := builds (literal "login") .returns
  [⟨.onInit, (), emptyHost, loads (.register greedy .returns .throws)⟩,
    ⟨.onInit, (), emptyHost, loads (.register modest .returns .throws)⟩,
    ⟨.onFrame, (), emptyHost, loads .returns⟩,
    ⟨.onUnload, (), emptyHost, loads .returns⟩]

/-- Sessions with the plugins of the reload, on an empty table. -/
def reloadSystem : System Session HostCall :=
  lifecycleSystem (fixed (fun call => .ok call.default) (.ok ())) behind fun _ => none

/-- The session after some calls of the reload, with one slot. -/
def reloading (count : Nat) : Session :=
  (reload.take count).foldl reloadSystem.step (start 1 (fun _ => none) emptyHost)

/-- The first `OnInit` fails and leaves the slot free, so the second one succeeds; at
the end everything is as at the start. -/
theorem lifecycle_reload :
    (reloading 1).loaded = false ∧ (reloading 2).loaded = true ∧
      (reloading 4).world.entries = [.died, .built, .died, .built] ∧
      AtMostOne (reloading 4).world.entries ∧
      (∀ slot ∈ (reloading 4).world.env.commands.gCallbackInstances,
        slot.mCommandInstance = none ∧ slot.mMethod = none) ∧
      (reloading 4).world.env.commands.table = fun _ => none := by
  have unbound : ∀ behaviour : Behaviour,
      behaviour.Names fun name => (fun _ => none : Bytes → Option Command.Xcommand) name = none :=
    fun behaviour => ⟨behaviour.main.names_all fun _ => rfl,
      fun call => (behaviour.virtual call).names_all fun _ => rfl,
      fun functor => (behaviour.functor functor).names_all fun _ => rfl⟩
  have isLoaded : (reloading 2).loaded = true := by decide +kernel
  have run : Run reloadSystem (reloading 0) reload (reloading 4) :=
    .next ⟨False.elim, nofun, unbound _⟩ (.next ⟨False.elim, nofun, unbound _⟩
      (.next ⟨fun _ => isLoaded, nofun, unbound _⟩
        (.next ⟨False.elim, nofun, unbound _⟩ (.done _))))
  have law := lifecycle _ behind 1 (fun _ => none) (by simp) emptyHost reload
    (reloading 4) run
  have absent : (reloading 4).world.gEntry = none :=
    Option.isNone_iff_eq_none.mp (by decide +kernel)
  exact ⟨by decide +kernel, isLoaded, by decide +kernel, law.2.1.1, law.2.2.2 absent⟩

end Plugpp
