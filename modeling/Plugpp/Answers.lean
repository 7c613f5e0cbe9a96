import Plugpp.Barrier

/-!
# What the out-parameters become

For each callback with a verdict: what is behind its out-parameters afterwards, as a
function of what was there and of the plugin's answer. Whatever the plugin does to
its own state, and what is printed on the way, does not matter to that.

`asked` is the answer the library gets, with what the plugin leaves in the references
it was given: the plugin's virtual function, unless there is no plugin to ask.
-/

namespace Plugpp

open Bytes Code Exported

variable {P Out α β : Type} {linked : Linked P}

/-- The answer to a virtual call in a world, and what was given by reference afterwards. -/
def asked (linked : Linked P) (world : World P) (call : VirtualCall) (refs : call.Refs) :
    Except Stop call.Result × call.Refs :=
  match world.gEntry with
  | none => (.error (.fault .nullEntry), refs)
  | some ⟨none⟩ => (.error (.thrown (.exception (literal "No plugin registered"))), refs)
  | some ⟨some plugin⟩ =>
    let called := linked.virtual call (refs, plugin, world.env)
    (called.1.mapError .thrown, called.2.1)

/-- The world after a virtual call. -/
def worldAfter (linked : Linked P) (world : World P) (call : VirtualCall) (refs : call.Refs) :
    World P :=
  match world.gEntry with
  | some ⟨some plugin⟩ =>
    let called := linked.virtual call (refs, plugin, world.env)
    { world with
      env := called.2.2.2, gEntry := some ⟨some called.2.2.1⟩, calls := call :: world.calls }
  | _ => world

/-- The kick in an answer: none if the plugin did not kick, or did not answer. -/
def kickOf : Except Stop Kick → Kick
  | .ok kick => kick
  | .error _ => none

/-- `invoke` returns the answer and leaves the references where they belong, provided
that writing back what was read changes nothing. -/
theorem invoke_asked (call : VirtualCall) (refs : Out → call.Refs)
    (written : call.Refs → Out → Out) (state : World P × Out)
    (kept : written (refs state.2) state.2 = state.2) :
    invoke linked call refs written state =
      ((asked linked state.1 call (refs state.2)).1.map
          (fun result => (result, (asked linked state.1 call (refs state.2)).2)),
        (worldAfter linked state.1 call (refs state.2),
          written (asked linked state.1 call (refs state.2)).2 state.2)) := by
  rcases set : state.1.gEntry with _ | ⟨_ | plugin⟩
  · simp [invoke, bind_apply, getPlugin, asked, worldAfter, set, kept, Except.map]
  · simp [invoke, bind_apply, getPlugin, PluginEntry.getPlugin, asked, worldAfter, set, kept,
      Except.map, Except.mapError]
  · simp only [invoke, bind_apply, getPlugin, PluginEntry.getPlugin, asked, worldAfter, set,
      Except.mapError, Prod.mk.injEq, and_true]
    rcases (linked.virtual call (refs state.2, plugin, state.1.env)).1 with exception | result <;>
      rfl

/-- `consult` returns the answer and leaves the out-parameters. -/
theorem consult_asked (call : VirtualCall) (refs : call.Refs) (state : World P × Out) :
    consult linked call refs state =
      ((asked linked state.1 call refs).1, (worldAfter linked state.1 call refs, state.2)) := by
  rw [consult, bind_apply, invoke_asked call (fun _ => refs) (fun _ out => out) state rfl]
  rcases (asked linked state.1 call refs).1 with stop | result <;> rfl

/-- The handlers of `doNoexcept` leave the out-parameters and the record of calls. -/
theorem doNoexcept_leaves (funcName : Bytes) (callable : Exported P Out α) (callableError : α)
    (state : World P × Out) :
    (doNoexcept funcName callable callableError state).2.2 = (callable state).2.2 ∧
      (doNoexcept funcName callable callableError state).2.1.calls =
        (callable state).2.1.calls := by
  unfold doNoexcept recover
  rcases callable state with ⟨stop | value, after⟩
  · cases stop with
    | thrown exception => simp [report, bind_apply, print]
    | fault fault => simp [report]
  · exact ⟨rfl, rfl⟩

section Callbacks

/-- `OnPlayerConnect` copies the reason of a kick into an empty message. -/
theorem onPlayerConnect_out (clientnum : Int) (netaddress : Pointer) (userinfo : Bytes)
    (state : World P × Buffer) :
    (onPlayerConnect linked clientnum netaddress userinfo state).2.2 =
      if state.2.bytes 0 = 0 then
        match kickOf (asked linked state.1
          (.onPlayerConnect clientnum netaddress userinfo) ⟨⟩).1 with
        | some reason => state.2.strcpy reason
        | none => state.2
      else state.2 := by
  by_cases isEmpty : state.2.bytes 0 = 0
  · simp only [onPlayerConnect, bind_apply, observe_apply, isEmpty, beq_self_eq_true, ↓reduceIte,
      (doNoexcept_leaves _ _ _ _).1, consult_asked]
    rcases (asked linked state.1 (.onPlayerConnect clientnum netaddress userinfo) ⟨⟩).1 with
      stop | _ | reason <;> rfl
  · simp [onPlayerConnect, bind_apply, isEmpty]

/-- `OnPlayerGotAuthInfo` passes the ids on by reference, copies the reason of a kick
into an empty message, and writes the decision to wait only if the plugin returns. -/
theorem onPlayerGotAuthInfo_out (addr cl : Pointer) (state : World P × AuthInfo) :
    (onPlayerGotAuthInfo linked addr cl state).2.2 =
      let answer := asked linked state.1 (.onPlayerGotAuthInfo cl addr)
        ⟨state.2.playerid, state.2.steamid, state.2.returnNow⟩
      { playerid := answer.2.playerid
        steamid := answer.2.steamid
        rejectmsg :=
          match kickOf answer.1 with
          | some reason =>
            if state.2.rejectmsg.bytes 0 = 0 then
              state.2.rejectmsg.strncpy reason (rejectMsgSize - 1)
            else state.2.rejectmsg
          | none => state.2.rejectmsg
        returnNow :=
          match answer.1 with
          | .ok _ => answer.2.returnNow
          | .error _ => state.2.returnNow } := by
  simp only [onPlayerGotAuthInfo, (doNoexcept_leaves _ _ _ _).1, bind_apply]
  rw [invoke_asked (.onPlayerGotAuthInfo cl addr) _ _ state rfl]
  simp only [beq_true]
  rcases asked linked state.1 (.onPlayerGotAuthInfo cl addr)
    ⟨state.2.playerid, state.2.steamid, state.2.returnNow⟩ with ⟨stop | _ | reason, refs⟩
  · rfl
  · simp [Except.map, kickOf, writeOut]
  · by_cases isEmpty : state.2.rejectmsg.bytes 0 = 0 <;>
      simp [Except.map, kickOf, writeOut, bind_apply, isEmpty]

/-- The message of `OnPlayerGotAuthInfo` takes the reason of a kick while it is empty. -/
theorem onPlayerGotAuthInfo_rejectmsg (addr cl : Pointer) (state : World P × AuthInfo) :
    (onPlayerGotAuthInfo linked addr cl state).2.2.rejectmsg =
      if state.2.rejectmsg.bytes 0 = 0 then
        match kickOf (asked linked state.1 (.onPlayerGotAuthInfo cl addr)
          ⟨state.2.playerid, state.2.steamid, state.2.returnNow⟩).1 with
        | some reason => state.2.rejectmsg.strncpy reason (rejectMsgSize - 1)
        | none => state.2.rejectmsg
      else state.2.rejectmsg := by
  refine (congrArg AuthInfo.rejectmsg (onPlayerGotAuthInfo_out addr cl state)).trans ?_
  dsimp only
  cases kickOf (asked linked state.1 (.onPlayerGotAuthInfo cl addr)
    ⟨state.2.playerid, state.2.steamid, state.2.returnNow⟩).1 <;> simp

/-- Without a kick nothing is written. -/
theorem grantAccess_out (state : World P × BanStatus) :
    (grantAccess linked state).2.2 = state.2 := by
  simp only [grantAccess, bind_apply, observe_apply]
  cases bannedClient linked state.1.env.host state.2.baninfo with
  | none => rfl
  | some cl => simp [consult_asked]

/-- `OnPlayerGetBanStatus` asks while the message is empty, passes the ban info on by
reference, and copies the reason of a kick. -/
theorem onPlayerGetBanStatus_out (len : Int32) (state : World P × BanStatus) :
    (onPlayerGetBanStatus linked len state).2.2 =
      if state.2.message.bytes 0 = 0 then
        { baninfo := (asked linked state.1 .onPlayerGetBanStatus state.2.baninfo).2
          message :=
            match kickOf (asked linked state.1 .onPlayerGetBanStatus state.2.baninfo).1 with
            | some reason => state.2.message.strncpy reason len.toUInt32.toNat
            | none => state.2.message }
      else state.2 := by
  by_cases isEmpty : state.2.message.bytes 0 = 0
  · simp only [onPlayerGetBanStatus, bind_apply, observe_apply, isEmpty, beq_self_eq_true,
      ↓reduceIte, (doNoexcept_leaves _ _ _ _).1]
    rw [invoke_asked .onPlayerGetBanStatus _ _ state rfl]
    rcases asked linked state.1 .onPlayerGetBanStatus state.2.baninfo with
      ⟨stop | _ | reason, refs⟩
    · rfl
    · simp [Except.map, kickOf, grantAccess_out]
    · rfl
  · simp [onPlayerGetBanStatus, bind_apply, isEmpty]

/-- The message of `OnPlayerGetBanStatus` takes the reason of a kick while it is empty. -/
theorem onPlayerGetBanStatus_message (len : Int32) (state : World P × BanStatus) :
    (onPlayerGetBanStatus linked len state).2.2.message =
      if state.2.message.bytes 0 = 0 then
        match kickOf (asked linked state.1 .onPlayerGetBanStatus state.2.baninfo).1 with
        | some reason => state.2.message.strncpy reason len.toUInt32.toNat
        | none => state.2.message
      else state.2.message := by
  rw [onPlayerGetBanStatus_out]
  by_cases isEmpty : state.2.message.bytes 0 = 0 <;> simp [isEmpty]

/-- A call is recorded if there is a plugin; there is one afterwards exactly if there
was one before. -/
theorem worldAfter_registered (linked : Linked P) (world : World P) (call : VirtualCall)
    (refs : call.Refs) :
    ((∃ plugin, world.gEntry = some ⟨some plugin⟩) ∧
        (worldAfter linked world call refs).calls = call :: world.calls ∧
        ∃ plugin, (worldAfter linked world call refs).gEntry = some ⟨some plugin⟩) ∨
      (worldAfter linked world call refs = world ∧
        ∀ result, (asked linked world call refs).1 ≠ .ok result) := by
  rcases set : world.gEntry with _ | ⟨_ | plugin⟩
  · exact Or.inr (by simp [worldAfter, asked, set])
  · exact Or.inr (by simp [worldAfter, asked, set])
  · exact Or.inl (by simp [worldAfter, set])

/-- What was called before does not matter to a virtual call. -/
theorem worldAfter_calls (linked : Linked P) (world : World P) (calls : List VirtualCall)
    (call : VirtualCall) (refs : call.Refs) :
    (worldAfter linked { world with calls := calls } call refs).env =
      (worldAfter linked world call refs).env := by
  unfold worldAfter
  rcases world.gEntry with _ | ⟨_ | plugin⟩ <;> rfl

/-- With a plugin, granting access calls `onPlayerAccessGranted` on the client found. -/
theorem grantAccess_calls (state : World P × BanStatus) {plugin : P}
    (registered : state.1.gEntry = some ⟨some plugin⟩) :
    (grantAccess linked state).2.1.calls =
      match bannedClient linked state.1.env.host state.2.baninfo with
      | some cl => .onPlayerAccessGranted cl :: state.1.calls
      | none => state.1.calls := by
  simp only [grantAccess, bind_apply, observe_apply]
  cases bannedClient linked state.1.env.host state.2.baninfo with
  | none => rfl
  | some cl => simp [consult_asked, worldAfter, registered]

/-- Asked about a ban, the plugin is called once more if it answers `NoKick`, for the
client that the loop then finds. -/
theorem onPlayerGetBanStatus_calls (linked : Linked P) (len : Int32) (state : World P × BanStatus)
    (isEmpty : state.2.message.bytes 0 = 0) :
    (onPlayerGetBanStatus linked len state).2.1.calls =
      match (asked linked state.1 .onPlayerGetBanStatus state.2.baninfo).1,
        bannedClient linked
          (worldAfter linked state.1 .onPlayerGetBanStatus state.2.baninfo).env.host
          (asked linked state.1 .onPlayerGetBanStatus state.2.baninfo).2 with
      | .ok none, some cl => .onPlayerAccessGranted cl ::
          (worldAfter linked state.1 .onPlayerGetBanStatus state.2.baninfo).calls
      | _, _ => (worldAfter linked state.1 .onPlayerGetBanStatus state.2.baninfo).calls := by
  simp only [onPlayerGetBanStatus, bind_apply, observe_apply, isEmpty, beq_self_eq_true,
    ↓reduceIte, (doNoexcept_leaves _ _ _ _).2]
  rw [invoke_asked .onPlayerGetBanStatus _ _ state rfl]
  rcases worldAfter_registered linked state.1 .onPlayerGetBanStatus state.2.baninfo with
    ⟨_, _, plugin, registered⟩ | ⟨_, unanswered⟩
  · rcases (asked linked state.1 .onPlayerGetBanStatus state.2.baninfo) with
      ⟨stop | _ | reason, baninfo⟩
    · rfl
    · simp only [Except.map]
      rw [grantAccess_calls _ registered]
      cases bannedClient linked
        (worldAfter linked state.1 .onPlayerGetBanStatus state.2.baninfo).env.host baninfo <;> rfl
    · rfl
  · rcases answer : (asked linked state.1 .onPlayerGetBanStatus state.2.baninfo).1 with
      stop | result
    · rfl
    · exact absurd answer (unanswered result)

/-- `onPlayerAccessGranted` is called exactly if the message is empty, the plugin
answers `NoKick`, and then the loop finds a client. -/
theorem onPlayerGetBanStatus_grants (linked : Linked P) (len : Int32) (state : World P × BanStatus)
    (fresh : ∀ cl, .onPlayerAccessGranted cl ∉ state.1.calls) :
    (∃ cl, .onPlayerAccessGranted cl ∈ (onPlayerGetBanStatus linked len state).2.1.calls) ↔
      state.2.message.bytes 0 = 0 ∧
        (asked linked state.1 .onPlayerGetBanStatus state.2.baninfo).1 = .ok none ∧
        bannedClient linked
          (worldAfter linked state.1 .onPlayerGetBanStatus state.2.baninfo).env.host
          (asked linked state.1 .onPlayerGetBanStatus state.2.baninfo).2 ≠ none := by
  by_cases isEmpty : state.2.message.bytes 0 = 0
  · have asking : ∀ cl, .onPlayerAccessGranted cl ∉
        (worldAfter linked state.1 .onPlayerGetBanStatus state.2.baninfo).calls := by
      rcases worldAfter_registered linked state.1 .onPlayerGetBanStatus state.2.baninfo with
        ⟨_, recorded, _⟩ | ⟨unchanged, _⟩
      · simp [recorded, fresh]
      · simpa [unchanged] using fresh
    rw [onPlayerGetBanStatus_calls linked len state isEmpty]
    split
    · next answered found => simp [isEmpty, answered, found]
    · next ungranted =>
      refine iff_of_false (fun ⟨cl, granted⟩ => asking cl granted) ?_
      rintro ⟨_, answered, found⟩
      obtain ⟨cl, found⟩ := Option.ne_none_iff_exists'.mp found
      exact ungranted cl answered found
  · simp [onPlayerGetBanStatus, bind_apply, isEmpty, fresh]

/-- `OnMessageSent` keeps a message shown unless the plugin answers to hide it. -/
theorem onMessageSent_out (memory visible text : Bytes) (slot mode : Int)
    (skipped : skipControl memory = some visible) (read : readText visible = some text)
    (state : World P × Qboolean) :
    (onMessageSent linked (some memory) slot mode state).2.2 = true ↔
      state.2 = true ∧ (asked linked state.1 (.onMessageSent text slot mode) ⟨⟩).1 ≠ .ok .hide := by
  simp only [onMessageSent, (doNoexcept_leaves _ _ _ _).1, skipped, read, bind_apply,
    observe_apply]
  cases shown : state.2 with
  | false => simp [writeOut]
  | true =>
    simp only [↓reduceIte, bind_apply, getPlugin]
    rcases set : state.1.gEntry with _ | ⟨_ | plugin⟩
    · simp [asked, set, shown]
    · simp [asked, set, shown, PluginEntry.getPlugin, Except.mapError]
    · simp only [PluginEntry.getPlugin, Except.mapError, consult_asked]
      rcases (asked linked state.1 (.onMessageSent text slot mode) ⟨⟩).1 with stop | _ | _
      · simp [shown]
      · simp [writeOut]
      · simp [writeOut]

/-- `OnPlayerWantReservedSlot` keeps a request allowed unless the plugin denies it. -/
theorem onPlayerWantReservedSlot_out (addr : Pointer) (state : World P × Qboolean) :
    (onPlayerWantReservedSlot linked addr state).2.2 = true ↔
      state.2 = true ∧
        (asked linked state.1 (.onPlayerReservedSlotRequest addr) ⟨⟩).1 ≠ .ok .deny := by
  simp only [onPlayerWantReservedSlot, (doNoexcept_leaves _ _ _ _).1, bind_apply, observe_apply]
  cases allowed : state.2 with
  | false => simp [writeOut]
  | true =>
    simp only [↓reduceIte, bind_apply, consult_asked]
    rcases (asked linked state.1 (.onPlayerReservedSlotRequest addr) ⟨⟩).1 with stop | _ | _
    · simp [allowed]
    · simp [writeOut]
    · simp [writeOut]

/-- The packet callbacks keep a packet dropped, and drop it if the plugin asks for it. -/
theorem dropPacket_out (linked : Linked P) (funcName : String) (call : VirtualCall)
    (refs : call.Refs) (drop : call.Result → Bool) (state : World P × Qboolean) :
    (dropPacket linked funcName call refs drop state).2.2 = true ↔
      state.2 = true ∨ ∃ answer, (asked linked state.1 call refs).1 = .ok answer ∧
        drop answer = true := by
  simp only [dropPacket, (doNoexcept_leaves _ _ _ _).1, bind_apply, consult_asked]
  cases (asked linked state.1 call refs).1 with
  | error stop => simp
  | ok answer => simp [writeOut]

end Callbacks

end Plugpp
