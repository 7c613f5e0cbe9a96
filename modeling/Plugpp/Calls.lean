import Plugpp.Lifecycle

/-!
# Which virtual functions are called, and when

Every entry point calls the plugin at most once, at the virtual function that belongs to
it and with its own arguments; only `OnPlayerGetBanStatus` may go on to announce that
access is granted. `OnInit`, `OnUnload` and the trampolines call no virtual function.

Over a session this orders the history: an announcement of granted access directly
follows the question for the ban status, and no virtual function is called while nothing
is loaded. All of this holds whatever names the plugins' code registers or removes.
-/

namespace Plugpp

open Bytes Code Runs Exported

/-- The call is made at most once, and no other. -/
def AtMost (call : VirtualCall) (added : List VirtualCall) : Prop := added = [] ∨ added = [call]

/-- The virtual functions that an entry point may call, latest first. -/
def EntryPoint.MayCall : EntryPoint → List VirtualCall → Prop
  | onInit, added | onUnload, added | trampoline _, added => added = []
  | onTerminate, added => AtMost .onTerminate added
  | onPlayerConnect clientnum netaddress userinfo, added =>
    AtMost (.onPlayerConnect clientnum netaddress userinfo) added
  | onPlayerDC client reason, added => AtMost (.onPlayerDisconnect client reason) added
  | onPlayerAddBan baninfo, added => AtMost (.onPlayerAddBan baninfo) added
  | onPlayerRemoveBan baninfo, added => AtMost (.onPlayerRemoveBan baninfo) added
  | onPlayerGotAuthInfo addr cl, added => AtMost (.onPlayerGotAuthInfo cl addr) added
  | onPlayerGetBanStatus _, added => AtMost .onPlayerGetBanStatus added ∨
      ∃ client, added = [.onPlayerAccessGranted client, .onPlayerGetBanStatus]
  | onInfoRequest, added => AtMost .onPluginInfoRequest added
  | onMessageSent _ slot mode, added => ∃ text, AtMost (.onMessageSent text slot mode) added
  | onPreFastRestart, added => AtMost .onPreFastRestart added
  | onExitLevel, added => AtMost .onExitLevel added
  | onPostFastRestart, added => AtMost .onPostFastRestart added
  | onPreGameRestart savepersist, added => AtMost (.onPreGameRestart savepersist) added
  | onPostGameRestart savepersist, added => AtMost (.onPostGameRestart savepersist) added
  | onSpawnServer, added => AtMost .onSpawnServer added
  | onFrame, added => AtMost .onFrame added
  | onClientSpawn ent, added => AtMost (.onClientSpawn ent) added
  | onClientEnterWorld client, added =>
    ∃ firstTime, AtMost (.onClientEnteredWorld client firstTime) added
  | onClientUserinfoChanged client, added => AtMost (.onClientUserInfoChanged client) added
  | onClientCommand client command, added => AtMost (.onClientCommand client command) added
  | onClientMoveCommand client ucmd, added => AtMost (.onClientMoveCommand client ucmd) added
  | onPlayerKilled self inflictor attacker damage meansOfDeath iWeapon hitLocation, added =>
    AtMost (.onPlayerKilled self inflictor attacker damage meansOfDeath iWeapon hitLocation) added
  | onPlayerWantReservedSlot addr, added => AtMost (.onPlayerReservedSlotRequest addr) added
  | onFilesystemStarted searchpaths, added => AtMost (.onFsStarted searchpaths) added
  | onScrUsercallFunction function_name, added =>
    AtMost (.onScrUsercallFunction function_name.cString) added
  | onScrUsercallMethod method_name clientnum, added =>
    AtMost (.onScrUsercallMethod method_name.cString clientnum) added
  | onModuleLoaded client fullpath checksum, added =>
    AtMost (.onModuleLoaded client fullpath.cString checksum) added
  | onScreenshotArrived client path, added => AtMost (.onScreenshotArrived client path.cString) added
  | onUdpNetEvent addr data size, added => AtMost (.onUdpNetEvent addr data size) added
  | onUdpNetSend addr data len, added => AtMost (.onUdpSend addr data len) added

/-! ## What code adds to the history of calls -/

section Rules

variable {P Out α β : Type} {linked : Linked P}
  {returns stops later : List VirtualCall → Prop}

/-- The history is the earlier one with an allowed addition. -/
def Added (allowed : List VirtualCall → Prop) (earlier : List VirtualCall)
    (state : World P × Out) : Prop :=
  ∃ added, state.1.calls = added ++ earlier ∧ allowed added

/-- What the code adds to the history of calls when it returns and when it stops. -/
def Calls (body : Exported P Out α) (returns stops : List VirtualCall → Prop) : Prop :=
  ∀ earlier, Triple (fun state => state.1.calls = earlier) body (fun _ => Added returns earlier)
    (fun _ => Added stops earlier)

/-- The code adds nothing. -/
def Quiet (body : Exported P Out α) : Prop := Calls body (· = []) (· = [])

/-- Code is quiet if it leaves the history alone. -/
theorem quiet_of_unchanged {body : Exported P Out α}
    (unchanged : ∀ state, (body state).2.1.calls = state.1.calls) : Quiet body := by
  intro earlier state before
  have after := (unchanged state).trans before
  rcases result : body state with ⟨stop | value, left⟩
  · rw [result] at after
    exact ⟨[], after, rfl⟩
  · rw [result] at after
    exact ⟨[], after, rfl⟩

/-- What a body adds, from a state. -/
theorem calls_outcome {body : Exported P Out α} {allowed : List VirtualCall → Prop}
    (calls : Calls body allowed allowed) (state : World P × Out) :
    ∃ added, (body state).2.1.calls = added ++ state.1.calls ∧ allowed added := by
  have outcome := calls state.1.calls state rfl
  rcases result : body state with ⟨stop | value, left⟩
  · rw [result] at outcome
    exact outcome
  · rw [result] at outcome
    exact outcome

theorem quiet_pure (value : α) : Quiet (pure value : Exported P Out α) :=
  quiet_of_unchanged fun _ => rfl

theorem quiet_raise (stop : Stop) : Quiet (raise stop : Exported P Out α) :=
  quiet_of_unchanged fun _ => rfl

theorem quiet_observe (reading : World P × Out → α) :
    Quiet (observe reading : Exported P Out α) :=
  quiet_of_unchanged fun _ => rfl

theorem quiet_writeOut (change : Out → Out) : Quiet (writeOut change : Exported P Out Unit) :=
  quiet_of_unchanged fun _ => rfl

theorem quiet_print (text : Bytes) : Quiet (print text : Exported P Out Unit) :=
  quiet_of_unchanged fun _ => rfl

theorem quiet_getPlugin : Quiet (getPlugin : Exported P Out P) := by
  apply quiet_of_unchanged
  intro state
  unfold getPlugin
  split <;> rfl

/-- One part after another: the later addition comes in front. -/
theorem calls_bind {first : Exported P Out α} {next : α → Exported P Out β}
    {allReturns allStops stopsLater : List VirtualCall → Prop}
    (head : Calls first returns stops) (tail : ∀ value, Calls (next value) later stopsLater)
    (joined : ∀ added more, returns added → later more → allReturns (more ++ added))
    (stopped : ∀ added, stops added → allStops added)
    (stoppedLater : ∀ added more, returns added → stopsLater more → allStops (more ++ added)) :
    Calls (first >>= next) allReturns allStops := by
  intro earlier state before
  have begun := head earlier state before
  rw [bind_apply]
  rcases result : first state with ⟨stop | value, between⟩
  · rw [result] at begun
    obtain ⟨added, same, allowed⟩ := begun
    exact ⟨added, same, stopped added allowed⟩
  · rw [result] at begun
    obtain ⟨added, same, allowed⟩ := begun
    have ended := tail value between.1.calls between rfl
    simp only
    rcases continued : next value between with ⟨stop | outcome, after⟩
    · rw [continued] at ended
      obtain ⟨more, onwards, allowedLater⟩ := ended
      exact ⟨more ++ added, by rw [onwards, same, List.append_assoc],
        stoppedLater added more allowed allowedLater⟩
    · rw [continued] at ended
      obtain ⟨more, onwards, allowedLater⟩ := ended
      exact ⟨more ++ added, by rw [onwards, same, List.append_assoc],
        joined added more allowed allowedLater⟩

/-- A quiet part before. -/
theorem calls_after_quiet {first : Exported P Out α} {next : α → Exported P Out β}
    (head : Quiet first) (tail : ∀ value, Calls (next value) returns stops) (nothing : stops []) :
    Calls (first >>= next) returns stops := by
  apply calls_bind head tail
  · rintro _ more rfl allowed
    simpa using allowed
  · rintro _ rfl
    exact nothing
  · rintro _ more rfl allowed
    simpa using allowed

/-- Quiet parts make a quiet whole. -/
theorem quiet_bind {first : Exported P Out α} {next : α → Exported P Out β} (head : Quiet first)
    (tail : ∀ value, Quiet (next value)) : Quiet (first >>= next) :=
  calls_after_quiet head tail rfl

/-- A quiet part behind. -/
theorem calls_before_quiet {first : Exported P Out α} {next : α → Exported P Out β}
    (head : Calls first returns stops) (tail : ∀ value, Quiet (next value))
    (weaker : ∀ added, returns added → stops added) : Calls (first >>= next) returns stops := by
  apply calls_bind head tail
  · rintro added _ allowed rfl
    exact allowed
  · exact fun added allowed => allowed
  · rintro added _ allowed rfl
    exact weaker added allowed

/-- A virtual call adds itself, unless there is no plugin to call. -/
theorem calls_invoke (call : VirtualCall) (refs : Out → call.Refs)
    (written : call.Refs → Out → Out) :
    Calls (invoke linked call refs written) (· = [call]) (AtMost call) := by
  apply calls_after_quiet quiet_getPlugin _ (Or.inl rfl)
  intro plugin earlier state before
  simp only [Except.mapError]
  cases (linked.virtual call (refs state.2, plugin, state.1.env)).1 with
  | error exception => exact ⟨[call], by simp [before], Or.inr rfl⟩
  | ok result => exact ⟨[call], by simp [before], rfl⟩

theorem calls_consult (call : VirtualCall) (refs : call.Refs) :
    Calls (consult linked call refs : Exported P Out call.Result) (· = [call]) (AtMost call) :=
  calls_before_quiet (calls_invoke call _ _) (fun _ => quiet_pure _) fun _ same => Or.inr same

/-- `doNoexcept` adds nothing of its own. -/
theorem calls_doNoexcept (funcName : Bytes) {callable : Exported P Out α} (callableError : α)
    (calls : Calls callable returns stops) (weaker : ∀ added, returns added → stops added) :
    Calls (doNoexcept funcName callable callableError) stops stops := by
  intro earlier
  have body : Triple (fun state => state.1.calls = earlier) callable
      (fun _ => Added stops earlier) (fun _ => Added stops earlier) :=
    triple_consequence (calls earlier) (fun _ before => before)
      (fun _ _ ⟨added, same, allowed⟩ => ⟨added, same, weaker added allowed⟩)
      fun _ _ reached => reached
  apply triple_recover body
  intro stop
  cases stop with
  | thrown exception => exact fun state reached => reached
  | fault fault => exact fun state reached => reached

theorem calls_forward (funcName : String) (call : VirtualCall) (refs : call.Refs) :
    Calls (forward linked funcName call refs : Exported P Out Unit) (AtMost call) (AtMost call) :=
  calls_doNoexcept _ _ (calls_before_quiet (calls_consult call refs) (fun _ => quiet_pure _)
    fun _ same => Or.inr same) fun _ same => Or.inr same

/-- A guarded part that calls a virtual function and then only writes. -/
theorem calls_guarded (funcName : Bytes) {callable : Exported P Out α} (callableError : α)
    {call : VirtualCall} (calls : Calls callable (· = [call]) (AtMost call)) :
    Calls (doNoexcept funcName callable callableError) (AtMost call) (AtMost call) :=
  calls_doNoexcept funcName callableError calls fun _ same => Or.inr same

/-- A guarded part that may add the same whether it returns or stops. -/
theorem calls_inside (funcName : Bytes) {callable : Exported P Out α} (callableError : α)
    {allowed : List VirtualCall → Prop} (calls : Calls callable allowed allowed) :
    Calls (doNoexcept funcName callable callableError) allowed allowed :=
  calls_doNoexcept funcName callableError calls fun _ added => added

/-- A conclusion may allow more. -/
theorem calls_weaken {body : Exported P Out α} {allReturns allStops : List VirtualCall → Prop}
    (calls : Calls body returns stops) (returned : ∀ added, returns added → allReturns added)
    (stopped : ∀ added, stops added → allStops added) : Calls body allReturns allStops :=
  fun earlier => triple_consequence (calls earlier) (fun _ before => before)
    (fun _ _ ⟨added, same, allowed⟩ => ⟨added, same, returned added allowed⟩)
    fun _ _ ⟨added, same, allowed⟩ => ⟨added, same, stopped added allowed⟩

end Rules

/-! ## The entry points -/

section EntryPoints

variable {P : Type} (linked : Linked P)

/-- `OnMessageSent` calls its virtual function with the text it has found. -/
theorem calls_onMessageSent (message : Option Bytes) (slot mode : Int) :
    Calls (onMessageSent linked message slot mode)
      (fun added => ∃ text, AtMost (.onMessageSent text slot mode) added)
      (fun added => ∃ text, AtMost (.onMessageSent text slot mode) added) := by
  have nothing : ∀ {added : List VirtualCall}, added = [] →
      ∃ text, AtMost (.onMessageSent text slot mode) added :=
    fun same => ⟨[], Or.inl same⟩
  apply calls_inside
  cases message with
  | none => exact calls_weaken (quiet_writeOut _) (fun _ => nothing) fun _ => nothing
  | some memory =>
    cases skipped : skipControl memory with
    | none =>
      simp only [skipped]
      exact calls_weaken (quiet_raise _) (fun _ => nothing) fun _ => nothing
    | some visible =>
      simp only [skipped]
      apply calls_after_quiet (quiet_observe _) _ (nothing rfl)
      intro shown
      cases shown with
      | false =>
        simp only [Bool.false_eq_true, ↓reduceIte]
        exact calls_weaken (quiet_writeOut _) (fun _ => nothing) fun _ => nothing
      | true =>
        simp only [↓reduceIte]
        apply calls_after_quiet quiet_getPlugin _ (nothing rfl)
        intro plugin
        cases readText visible with
        | none => exact calls_weaken (quiet_raise _) (fun _ => nothing) fun _ => nothing
        | some text =>
          exact calls_weaken (calls_before_quiet (calls_consult _ _)
            (fun _ => quiet_writeOut _) fun _ same => Or.inr same)
            (fun _ same => ⟨text, Or.inr same⟩) fun _ allowed => ⟨text, allowed⟩

/-- Granted access is announced, or it is not. -/
def MayAnnounce (added : List VirtualCall) : Prop :=
  added = [] ∨ ∃ client, added = [.onPlayerAccessGranted client]

/-- `OnPlayerGetBanStatus` asks, and may announce after it has asked. -/
theorem calls_onPlayerGetBanStatus (len : Int32) :
    Calls (onPlayerGetBanStatus linked len)
      (EntryPoint.onPlayerGetBanStatus len).MayCall (EntryPoint.onPlayerGetBanStatus len).MayCall := by
  have granting : Calls (grantAccess linked) MayAnnounce MayAnnounce := by
    apply calls_after_quiet (quiet_observe _) _ (Or.inl rfl)
    rintro (_ | client)
    · apply calls_after_quiet (quiet_observe _) _ (Or.inl rfl)
      exact fun _ => calls_weaken (quiet_print _) (fun _ => Or.inl) fun _ => Or.inl
    · exact calls_weaken (calls_consult _ _) (fun _ same => Or.inr ⟨client, same⟩)
        fun _ allowed => allowed.imp_right fun same => ⟨client, same⟩
  apply calls_after_quiet (quiet_observe _) _ (Or.inl (Or.inl rfl))
  rintro (_ | _)
  · exact calls_weaken (quiet_pure _) (fun _ same => Or.inl (Or.inl same))
      fun _ same => Or.inl (Or.inl same)
  · apply calls_inside
    have announced : ∀ added more, added = [VirtualCall.onPlayerGetBanStatus] →
        MayAnnounce more → (EntryPoint.onPlayerGetBanStatus len).MayCall (more ++ added) := by
      rintro _ _ rfl (rfl | ⟨client, rfl⟩)
      · exact Or.inl (Or.inr rfl)
      · exact Or.inr ⟨client, rfl⟩
    refine calls_bind (calls_invoke _ _ _) (fun answer => (?_ : Calls _ MayAnnounce MayAnnounce))
      announced (fun _ allowed => Or.inl allowed) announced
    obtain ⟨_ | reason, refs⟩ := answer
    · exact granting
    · exact calls_weaken (quiet_writeOut _) (fun _ => Or.inl) fun _ => Or.inl

/-- A trampoline runs the closure of a command, and no virtual function of its own. -/
theorem quiet_contextualStaticFunction {Out : Type} (context : Nat) :
    Quiet (contextualStaticFunction linked context : Exported P Out Unit) := by
  apply quiet_bind (quiet_of_unchanged fun _ => rfl)
  rintro (_ | functor)
  · exact quiet_pure _
  · exact quiet_of_unchanged fun _ => rfl

/-- An entry point calls what it may call. -/
theorem calls_enter (entry : EntryPoint) :
    Calls (enter linked entry) entry.MayCall entry.MayCall := by
  cases entry with
  | onInit =>
    apply quiet_of_unchanged
    intro state
    obtain ⟨_, _, went⟩ | ⟨_, _, _, _, _, went⟩ | ⟨_, _, _, _, _, _, went⟩ :=
      onInit_cases linked state
    · rw [enter, went]
    · rw [enter, went]
    · rw [enter, went]
  | onUnload =>
    apply quiet_of_unchanged
    intro state
    cases registered : state.1.gEntry with
    | some entry => rw [enter, onUnload_present registered]
    | none => rw [enter, onUnload_absent registered]
  | trampoline context => exact quiet_contextualStaticFunction linked context
  | onPlayerConnect clientnum netaddress userinfo =>
    apply calls_after_quiet (quiet_observe _) _ (Or.inl rfl)
    rintro (_ | _)
    · exact calls_weaken (quiet_pure _) (fun _ => Or.inl) fun _ => Or.inl
    · apply calls_guarded
      apply calls_before_quiet (calls_consult _ _) _ fun _ => Or.inr
      rintro (_ | reason)
      · exact quiet_pure _
      · exact quiet_writeOut _
  | onPlayerGotAuthInfo addr cl =>
    apply calls_guarded
    apply calls_before_quiet (calls_invoke _ _ _) _ fun _ => Or.inr
    rintro ⟨_ | reason, refs⟩
    · exact quiet_writeOut _
    · exact quiet_bind (quiet_writeOut _) fun _ => quiet_writeOut _
  | onPlayerGetBanStatus len => exact calls_onPlayerGetBanStatus linked len
  | onInfoRequest =>
    apply calls_after_quiet (quiet_writeOut _) _ (Or.inl rfl)
    intro _
    apply calls_inside
    apply calls_after_quiet (quiet_observe _) _ (Or.inl rfl)
    rintro (_ | _)
    · exact calls_weaken (quiet_pure _) (fun _ => Or.inl) fun _ => Or.inl
    · exact calls_weaken (calls_before_quiet (calls_consult _ _) (fun _ => quiet_writeOut _)
        fun _ => Or.inr) (fun _ => Or.inr) fun _ allowed => allowed
  | onMessageSent message slot mode => exact calls_onMessageSent linked message slot mode
  | onClientEnterWorld client =>
    apply calls_inside
    apply calls_after_quiet (quiet_observe _) _ ⟨true, Or.inl rfl⟩
    intro firstTime
    exact calls_weaken (calls_consult _ _) (fun _ same => ⟨firstTime, Or.inr same⟩)
      fun _ allowed => ⟨firstTime, allowed⟩
  | onPlayerWantReservedSlot addr =>
    apply calls_inside
    apply calls_after_quiet (quiet_observe _) _ (Or.inl rfl)
    intro allowed
    cases allowed with
    | false =>
      simp only [Bool.false_eq_true, ↓reduceIte]
      exact calls_weaken (quiet_writeOut _) (fun _ => Or.inl) fun _ => Or.inl
    | true =>
      exact calls_weaken (calls_before_quiet (calls_consult _ _) (fun _ => quiet_writeOut _)
        fun _ => Or.inr) (fun _ => Or.inr) fun _ added => added
  | onUdpNetEvent addr data size =>
    exact calls_guarded _ _ (calls_before_quiet (calls_consult _ _) (fun _ => quiet_writeOut _)
      fun _ => Or.inr)
  | onUdpNetSend addr data len =>
    exact calls_guarded _ _ (calls_before_quiet (calls_consult _ _) (fun _ => quiet_writeOut _)
      fun _ => Or.inr)
  | _ => exact calls_forward _ _ _

end EntryPoints

/-! ## Sessions -/

/-- Each announcement of granted access directly follows the question for the ban
status, in a history that is latest first. -/
def AnnouncedAfterAsking (calls : List VirtualCall) : Prop :=
  ∀ later client earlier, calls = later ++ .onPlayerAccessGranted client :: earlier →
    ∃ before, earlier = .onPlayerGetBanStatus :: before

/-- Any other call keeps the order. -/
theorem announced_cons {calls : List VirtualCall} {call : VirtualCall}
    (other : ∀ client, call ≠ .onPlayerAccessGranted client)
    (announced : AnnouncedAfterAsking calls) : AnnouncedAfterAsking (call :: calls) := by
  intro later client earlier same
  cases later with
  | nil => exact absurd (List.cons.inj same).1 (other client)
  | cons first rest => exact announced rest client earlier (List.cons.inj same).2

/-- So does an announcement right after the question. -/
theorem announced_asked {calls : List VirtualCall} (client : Pointer)
    (announced : AnnouncedAfterAsking (.onPlayerGetBanStatus :: calls)) :
    AnnouncedAfterAsking (.onPlayerAccessGranted client :: .onPlayerGetBanStatus :: calls) := by
  intro later other earlier same
  cases later with
  | nil => exact ⟨calls, (List.cons.inj same).2.symm⟩
  | cons first rest => exact announced rest other earlier (List.cons.inj same).2

/-- An entry point calls nothing, one function that announces nothing, or asks and
announces. -/
theorem mayCall_cases {entry : EntryPoint} {added : List VirtualCall}
    (allowed : entry.MayCall added) :
    added = [] ∨ (∃ call, added = [call] ∧ ∀ client, call ≠ .onPlayerAccessGranted client) ∨
      ∃ client, added = [.onPlayerAccessGranted client, .onPlayerGetBanStatus] := by
  have once : ∀ call : VirtualCall, (∀ client, call ≠ .onPlayerAccessGranted client) →
      AtMost call added → added = [] ∨
        (∃ call, added = [call] ∧ ∀ client, call ≠ .onPlayerAccessGranted client) ∨
          ∃ client, added = [.onPlayerAccessGranted client, .onPlayerGetBanStatus] :=
    fun call other atMost => atMost.imp_right fun same => Or.inl ⟨call, same, other⟩
  cases entry with
  | onInit | onUnload | trampoline _ => exact Or.inl allowed
  | onPlayerGetBanStatus len =>
    rcases allowed with asked | ⟨client, same⟩
    · exact once _ (by simp) asked
    · exact Or.inr (Or.inr ⟨client, same⟩)
  | onMessageSent message slot mode =>
    obtain ⟨text, atMost⟩ := allowed
    exact once _ (by simp) atMost
  | onClientEnterWorld client =>
    obtain ⟨firstTime, atMost⟩ := allowed
    exact once _ (by simp) atMost
  | _ => exact once _ (by simp) allowed

/-- What an entry point calls keeps the order. -/
theorem announced_mayCall {entry : EntryPoint} {added calls : List VirtualCall}
    (allowed : entry.MayCall added) (announced : AnnouncedAfterAsking calls) :
    AnnouncedAfterAsking (added ++ calls) := by
  obtain rfl | ⟨call, rfl, other⟩ | ⟨client, rfl⟩ := mayCall_cases allowed
  · exact announced
  · exact announced_cons other announced
  · exact announced_asked client (announced_cons (by simp) announced)

/-- The server's calls on sessions, of which nothing is asked but that callbacks come in
time. -/
def callSystem (base : Linked (List Pointer)) (allocator : Allocator)
    (server : Bytes → Option Command.Xcommand) : System Session HostCall where
  admits := InTime
  step := (lifecycleSystem base allocator server).step

/-- The server knows what is loaded, and the history is in order. -/
structure InOrder (session : Session) : Prop where
  known : session.loaded = session.world.gEntry.isSome
  announced : AnnouncedAfterAsking session.world.calls

/-- A call adds what its entry point may call, and nothing while nothing is loaded:
`OnInfoRequest` is the only one that could, and it finds no entry. -/
theorem step_calls (base : Linked (List Pointer)) (allocator : Allocator) (session : Session)
    (call : HostCall) (inTime : InTime session call)
    (known : session.loaded = session.world.gEntry.isSome) :
    ∃ added, (call.enters base allocator session.world).2.1.calls = added ++ session.world.calls ∧
      call.entry.MayCall added ∧ (session.loaded = false → added = []) := by
  obtain ⟨added, same, allowed⟩ :=
    calls_outcome (calls_enter (scripted base allocator call.behaviour) call.entry)
      (session.world.facing call.host, call.out)
  refine ⟨added, same, allowed, ?_⟩
  intro unloaded
  by_cases callback : call.entry.IsCallback
  · rw [inTime callback] at unloaded
    cases unloaded
  · have absent : session.world.gEntry = none := by
      rw [known, Option.isSome_eq_false_iff, Option.isNone_iff_eq_none] at unloaded
      exact unloaded
    obtain ⟨entry, out, host, behaviour⟩ := call
    cases entry with
    | onInit | onUnload | trampoline _ => exact allowed
    | onInfoRequest =>
      have nothing : onInfoRequest (scripted base allocator behaviour)
          (session.world.facing host, out) = _ := onInfoRequest_absent absent
      rw [enter, nothing] at same
      exact List.self_eq_append_left.mp same
    | _ => exact absurd trivial callback

/-- A call keeps a session in order. -/
theorem step_inOrder (base : Linked (List Pointer)) (allocator : Allocator)
    (server : Bytes → Option Command.Xcommand) (session : Session) (call : HostCall)
    (inTime : InTime session call) (inOrder : InOrder session) :
    InOrder ((callSystem base allocator server).step session call) := by
  obtain ⟨added, same, allowed, _⟩ := step_calls base allocator session call inTime inOrder.known
  refine ⟨@step_loaded server base allocator session call inTime inOrder.known, ?_⟩
  show AnnouncedAfterAsking (call.enters base allocator session.world).2.1.calls
  rw [same]
  exact announced_mayCall allowed inOrder.announced

/-- In every session a run of calls reaches, each announcement of granted access in the
history directly follows the question for the ban status. The next call adds at most
what its entry point may call, and no virtual function is called while nothing is
loaded. -/
theorem calls_in_order (base : Linked (List Pointer)) (allocator : Allocator) (capacity : Nat)
    (server : Bytes → Option Command.Xcommand) (host : Host) (calls : List HostCall)
    (session : Session)
    (run : Run (callSystem base allocator server) (start capacity server host) calls session) :
    AnnouncedAfterAsking session.world.calls ∧
    ∀ call, InTime session call → ∃ added,
      (call.enters base allocator session.world).2.1.calls = added ++ session.world.calls ∧
        call.entry.MayCall added ∧ (session.loaded = false → added = []) := by
  have initially : InOrder (start capacity server host) := by
    refine ⟨rfl, ?_⟩
    intro later client earlier same
    simp [start] at same
  have inOrder : InOrder session := run_preserves (step_inOrder base allocator server) run initially
  exact ⟨inOrder.announced,
    fun call inTime => step_calls base allocator session call inTime inOrder.known⟩

/-- A plugin is loaded, and a player who is in slot 0 by then is asked for. -/
def admission : List HostCall :=
  let host : Host := ⟨[some 7], fun _ => none, fun _ => ⟨1, 5, 0, [], 0, 0⟩, 0, []⟩
  let plugin := loads (.register .returns .returns .throws)
  [⟨.onInit, (), host, plugin⟩,
    ⟨.onPlayerGetBanStatus 16, ⟨⟨5, 0, 0⟩, ⟨fun _ => 0, []⟩⟩, host, plugin⟩]

/-- Sessions with that plugin. -/
def admissionSystem : System Session HostCall :=
  callSystem (fixed (fun call => .ok call.default) (.ok ())) behind fun _ => none

/-- The session after some calls of the admission. -/
def admitting (count : Nat) : Session :=
  (admission.take count).foldl admissionSystem.step (start 1 (fun _ => none) emptyHost)

/-- The player is announced right after the question. -/
theorem calls_in_order_admission :
    (admitting 2).world.calls = [.onPlayerAccessGranted 7, .onPlayerGetBanStatus] ∧
      AnnouncedAfterAsking (admitting 2).world.calls := by
  have isLoaded : (admitting 1).loaded = true := by decide +kernel
  have run : Run admissionSystem (admitting 0) admission (admitting 2) :=
    .next False.elim (.next (fun _ => isLoaded) (.done _))
  exact ⟨by decide +kernel, (calls_in_order _ behind 1 (fun _ => none) emptyHost admission
    (admitting 2) run).1⟩

end Plugpp
