import Plugpp.Kicks
import Plugpp.Rounds

/-!
# One event, every plugin

The server raises an event in every loaded plugin in turn, with the same
out-parameters. Each plugin brings its own copy of the library; its world is the one
it has when its turn comes, so what the plugins before it did to the server is part
of it.

A message is sent unless some plugin hides it, a reserved slot is granted unless some
plugin denies it, a packet is dropped if some plugin asks for it, and the message to
a kicked player is the first one. Access, however, is announced by each plugin for
itself: a later plugin may still kick.
-/

namespace Plugpp

open Bytes Code Exported

/-- A loaded plugin with its copy of the library, when its turn comes. -/
structure LoadedPlugin where
  P : Type
  linked : Linked P
  world : World P
  loaded : world.gEntry ≠ none

namespace LoadedPlugin

/-- What the server's call leaves in the out-parameters. -/
def handle (entry : EntryPoint) (out : entry.Out) (plugin : LoadedPlugin) : entry.Out :=
  (enter plugin.linked entry (plugin.world, out)).2.2

/-- The plugin's answer to a virtual call. -/
def answer (plugin : LoadedPlugin) (call : VirtualCall) (refs : call.Refs) :
    Except Stop call.Result :=
  (asked plugin.linked plugin.world call refs).1

end LoadedPlugin

/-- The event on every plugin in order. -/
def round (entry : EntryPoint) (plugins : List LoadedPlugin) (out : entry.Out) : entry.Out :=
  plugins.foldl (LoadedPlugin.handle entry) out

/-- The reason of a kick, empty without one. -/
def reasonOf (answer : Except Stop Kick) : Bytes := (kickOf answer).getD []

/-- What is left of a message without the control characters before its text. -/
def visibleText (text : Bytes) : Bytes := text.dropWhile fun byte => signed byte < 0x20

section Messages

/-- The loop of `OnMessageSent` stops inside a text that has a printable character. -/
theorem skipControl_visible (text behind : Bytes) (printable : ∃ byte ∈ text, ¬ signed byte < 0x20) :
    skipControl (text ++ behind) = some (visibleText text ++ behind) := by
  induction text with
  | nil => simp at printable
  | cons byte rest inductionHypothesis =>
    by_cases control : signed byte < 0x20
    · have later : ∃ byte ∈ rest, ¬ signed byte < 0x20 := by
        obtain ⟨found, member, isPrintable⟩ := printable
        rcases List.mem_cons.mp member with rfl | member
        · exact absurd control isPrintable
        · exact ⟨found, member, isPrintable⟩
      simpa [skipControl, visibleText, control] using inductionHypothesis later
    · simp [skipControl, visibleText, control]

/-- A NUL-free text is read up to the NUL behind it. -/
theorem readText_terminated (text behind : Bytes) (free : 0 ∉ text) :
    readText (text ++ 0 :: behind) = some text := by
  have whole : (text ++ 0 :: behind).cString = text := by
    unfold cString
    rw [List.takeWhile_append_of_pos]
    · simp
    · intro byte member
      simpa using fun same : byte = 0 => free (same ▸ member)
  simp [readText, whole]

/-- The printable characters of ASCII are not skipped. -/
theorem signed_printable (byte : UInt8) (above : 0x20 ≤ byte) (below : byte < 0x7f) :
    ¬ signed byte < 0x20 := by
  have lower : 0x20 ≤ byte.toNat := UInt8.le_iff_toNat_le.mp above
  have upper : byte.toNat < 0x7f := UInt8.lt_iff_toNat_lt.mp below
  have value : signed byte = byte.toBitVec.toInt := rfl
  have size : byte.toNat = byte.toBitVec.toNat := rfl
  rw [value, BitVec.toInt_eq_toNat_cond]
  split <;> omega

/-- A printable message is read as its visible text. -/
theorem read_message (text behind : Bytes) (free : 0 ∉ text)
    (printable : ∃ byte ∈ text, 0x20 ≤ byte ∧ byte < 0x7f) :
    ∃ visible, skipControl (text ++ 0 :: behind) = some visible ∧
      readText visible = some (visibleText text) := by
  obtain ⟨byte, member, above, below⟩ := printable
  refine ⟨_, skipControl_visible text (0 :: behind) ⟨byte, member, signed_printable byte above below⟩,
    readText_terminated _ behind ?_⟩
  intro zero
  exact free ((List.dropWhile_sublist _).mem zero)

end Messages

section Reasons

/-- A buffer into which a reason is copied only while it is empty holds the first of the
text that was there and the reason. -/
theorem holds_first {before after : Buffer} {text : Bytes} {answer : Except Stop Kick}
    {copy : Bytes → Buffer} (holds : before.Holds text)
    (written : after = if before.bytes 0 = 0 then
      match kickOf answer with
      | some reason => copy reason
      | none => before
    else before)
    (copied : (copy (reasonOf answer)).Holds (reasonOf answer)) :
    after.Holds (Rounds.firstText [text, reasonOf answer]) := by
  rw [written]
  cases text with
  | cons letter rest =>
    have occupied : before.bytes 0 ≠ 0 := by
      rw [ne_eq, Buffer.first_of_holds holds]
      exact List.cons_ne_nil letter rest
    rw [if_neg occupied]
    exact holds
  | nil =>
    rw [if_pos ((Buffer.first_of_holds holds).mpr rfl)]
    cases given : kickOf answer with
    | none => simpa [reasonOf, given, Rounds.firstText] using holds
    | some reason =>
      have held : (copy reason).Holds reason := by simpa [reasonOf, given] using copied
      cases reason <;> simpa [reasonOf, given, Rounds.firstText] using held

/-- A kick's reason has no NUL and leaves two bytes of a buffer of the size. -/
def Fits (size : Nat) (reason : Bytes) : Prop := 0 ∉ reason ∧ reason.length + 2 ≤ size

/-- `OnPlayerConnect` lets a reason into an empty message only. -/
theorem onPlayerConnect_first (clientnum : Int) (netaddress : Pointer) (userinfo : Bytes)
    (plugin : LoadedPlugin) (buffer : Buffer) (text : Bytes) (holds : buffer.Holds text)
    (free : 0 ∉ reasonOf (plugin.answer (.onPlayerConnect clientnum netaddress userinfo) ⟨⟩)) :
    Buffer.Holds (plugin.handle (.onPlayerConnect clientnum netaddress userinfo) buffer)
      (Rounds.firstText [text,
        reasonOf (plugin.answer (.onPlayerConnect clientnum netaddress userinfo) ⟨⟩)]) := by
  refine holds_first holds
    (onPlayerConnect_out clientnum netaddress userinfo (plugin.world, buffer)) ?_
  have held := buffer.strcpy_holds
    (reasonOf (plugin.answer (.onPlayerConnect clientnum netaddress userinfo) ⟨⟩))
  rwa [cString_free _ free] at held

/-- `OnPlayerGotAuthInfo` lets a reason into an empty message only. -/
theorem onPlayerGotAuthInfo_first (addr cl : Pointer) (plugin : LoadedPlugin) (info : AuthInfo)
    (text : Bytes) (holds : info.rejectmsg.Holds text)
    (fits : Fits rejectMsgSize (reasonOf (plugin.answer (.onPlayerGotAuthInfo cl addr)
      ⟨info.playerid, info.steamid, info.returnNow⟩))) :
    Buffer.Holds (plugin.handle (.onPlayerGotAuthInfo addr cl) info).rejectmsg
      (Rounds.firstText [text, reasonOf (plugin.answer (.onPlayerGotAuthInfo cl addr)
        ⟨info.playerid, info.steamid, info.returnNow⟩)]) := by
  refine holds_first holds (onPlayerGotAuthInfo_rejectmsg addr cl (plugin.world, info)) ?_
  have whole := cString_free _ fits.1
  have room := fits.2
  have held := info.rejectmsg.strncpy_holds _ (rejectMsgSize - 1) (by rw [whole]; omega)
  rwa [whole] at held

/-- `OnPlayerGetBanStatus` lets a reason into an empty message only. -/
theorem onPlayerGetBanStatus_first (len : Int32) (plugin : LoadedPlugin) (status : BanStatus)
    (text : Bytes) (holds : status.message.Holds text)
    (fits : Fits len.toInt.toNat (reasonOf (plugin.answer .onPlayerGetBanStatus status.baninfo))) :
    Buffer.Holds (plugin.handle (.onPlayerGetBanStatus len) status).message
      (Rounds.firstText [text,
        reasonOf (plugin.answer .onPlayerGetBanStatus status.baninfo)]) := by
  refine holds_first holds (onPlayerGetBanStatus_message len (plugin.world, status)) ?_
  have whole := cString_free _ fits.1
  have room := fits.2
  rw [size_of_positive len (by omega)]
  have held := status.message.strncpy_holds _ len.toInt.toNat (by rw [whole]; omega)
  rwa [whole] at held

end Reasons

/-- What the plugins answer in turn, each on what the ones before it left behind the
out-parameters. -/
def inTurn {β : Type} (entry : EntryPoint) (answer : entry.Out → LoadedPlugin → β)
    (plugins : List LoadedPlugin) (out : entry.Out) : List β :=
  Rounds.answers (LoadedPlugin.handle entry) answer out plugins

/-- The verdicts of any chain of plugins combine. A message with a printable character
stays shown, and a reserved slot allowed, exactly if it was and no plugin answers
against it. A packet is dropped exactly if it already was or some plugin asks for it.
The message to a player is the first text among the one already there and the reasons
of the plugins in their order. -/
theorem verdicts_combine (plugins : List LoadedPlugin) :
    (∀ (text behind : Bytes) (slot mode : Int) (isShown : Qboolean), 0 ∉ text →
      (∃ byte ∈ text, 0x20 ≤ byte ∧ byte < 0x7f) →
      (round (.onMessageSent (some (text ++ 0 :: behind)) slot mode) plugins isShown = true ↔
        isShown = true ∧ ∀ plugin ∈ plugins,
          plugin.answer (.onMessageSent (visibleText text) slot mode) ⟨⟩ ≠ .ok .hide)) ∧
    (∀ (addr : Pointer) (isallowed : Qboolean),
      round (.onPlayerWantReservedSlot addr) plugins isallowed = true ↔
        isallowed = true ∧ ∀ plugin ∈ plugins,
          plugin.answer (.onPlayerReservedSlotRequest addr) ⟨⟩ ≠ .ok .deny) ∧
    (∀ (addr data : Pointer) (size : Int) (returnNow : Qboolean),
      round (.onUdpNetEvent addr data size) plugins returnNow = true ↔
        returnNow = true ∨ ∃ plugin ∈ plugins,
          plugin.answer (.onUdpNetEvent addr data size) ⟨⟩ = .ok true) ∧
    (∀ (addr data : Pointer) (len : Int) (returnNow : Qboolean),
      round (.onUdpNetSend addr data len) plugins returnNow = true ↔
        returnNow = true ∨ ∃ plugin ∈ plugins,
          plugin.answer (.onUdpSend addr data len) ⟨⟩ = .ok true) ∧
    (∀ (clientnum : Int) (netaddress : Pointer) (userinfo : Bytes) (deniedmsg : Buffer)
        (text : Bytes), deniedmsg.Holds text →
      let reasons := plugins.map fun plugin =>
        reasonOf (plugin.answer (.onPlayerConnect clientnum netaddress userinfo) ⟨⟩)
      (∀ reason ∈ reasons, 0 ∉ reason) →
      Buffer.Holds (round (.onPlayerConnect clientnum netaddress userinfo) plugins deniedmsg)
        (Rounds.firstText (text :: reasons))) ∧
    (∀ (addr cl : Pointer) (info : AuthInfo) (text : Bytes), info.rejectmsg.Holds text →
      let reasons := inTurn (.onPlayerGotAuthInfo addr cl) (fun info plugin =>
        reasonOf (plugin.answer (.onPlayerGotAuthInfo cl addr)
          ⟨info.playerid, info.steamid, info.returnNow⟩)) plugins info
      (∀ reason ∈ reasons, Fits rejectMsgSize reason) →
      Buffer.Holds (round (.onPlayerGotAuthInfo addr cl) plugins info).rejectmsg
        (Rounds.firstText (text :: reasons))) ∧
    (∀ (len : Int32) (status : BanStatus) (text : Bytes), status.message.Holds text →
      let reasons := inTurn (.onPlayerGetBanStatus len) (fun status plugin =>
        reasonOf (plugin.answer .onPlayerGetBanStatus status.baninfo)) plugins status
      (∀ reason ∈ reasons, Fits len.toInt.toNat reason) →
      Buffer.Holds (round (.onPlayerGetBanStatus len) plugins status).message
        (Rounds.firstText (text :: reasons))) := by
  refine ⟨?_, ?_, ?_, ?_, ?_, ?_, ?_⟩
  · intro text behind slot mode isShown free printable
    obtain ⟨visible, skipped, read⟩ := read_message text behind free printable
    apply Rounds.fold_all
    intro flag plugin
    exact onMessageSent_out _ _ _ slot mode skipped read (plugin.world, flag)
  · intro addr isallowed
    apply Rounds.fold_all
    intro flag plugin
    exact onPlayerWantReservedSlot_out addr (plugin.world, flag)
  · intro addr data size returnNow
    apply Rounds.fold_any
    intro flag plugin
    have written := dropPacket_out plugin.linked "OnUdpNetEvent" (.onUdpNetEvent addr data size)
      ⟨⟩ (fun answer => answer) (plugin.world, flag)
    rwa [exists_eq_right] at written
  · intro addr data len returnNow
    apply Rounds.fold_any
    intro flag plugin
    have written := dropPacket_out plugin.linked "OnUdpNetSend" (.onUdpSend addr data len) ⟨⟩
      (fun answer => answer) (plugin.world, flag)
    rwa [exists_eq_right] at written
  · intro clientnum netaddress userinfo deniedmsg text holds reasons free
    have combined := Rounds.fold_first (fun reason => 0 ∉ reason) (fun buffer plugin =>
      onPlayerConnect_first clientnum netaddress userinfo plugin buffer) plugins deniedmsg text holds
    rw [Rounds.answers_own] at combined
    exact combined free
  · intro addr cl info text holds reasons fit
    exact Rounds.fold_first (Fits rejectMsgSize) (fun info plugin =>
      onPlayerGotAuthInfo_first addr cl plugin info) plugins info text holds fit
  · intro len status text holds reasons fit
    exact Rounds.fold_first (Fits len.toInt.toNat) (fun status plugin =>
      onPlayerGetBanStatus_first len plugin status) plugins status text holds fit

/-- A plugin that kicks with a reason and shows every message. -/
def kicking (reason : Bytes) : LoadedPlugin where
  P := Unit
  linked := kicker reason
  world := kickerWorld
  loaded := Option.some_ne_none _

/-- Of two kicks the first one's reason is the message; a message that both show is sent. -/
theorem verdicts_combine_two_kicks :
    Buffer.Holds (round (.onPlayerConnect 0 0 [])
      [kicking (literal "first"), kicking (literal "second")] ⟨fun _ => 0, []⟩) (literal "first") ∧
    round (.onMessageSent (some (literal "hi" ++ [0])) 0 0)
      [kicking (literal "first"), kicking (literal "second")] true = true := by
  obtain ⟨shows, _, _, _, connects, _, _⟩ :=
    verdicts_combine [kicking (literal "first"), kicking (literal "second")]
  constructor
  · exact connects 0 0 [] ⟨fun _ => 0, []⟩ [] ((Buffer.holds_nil_iff _).mpr rfl) (by decide)
  · have shown : ∀ (reason text : Bytes),
        (kicking reason).answer (.onMessageSent text 0 0) ⟨⟩ = .ok .show := fun _ _ => rfl
    refine (shows (literal "hi") [] 0 0 true (by decide) (by decide)).mpr ⟨rfl, ?_⟩
    simp [shown]

/-! ## Access granted -/

/-- `onPlayerAccessGranted` is called during the server's call of `OnPlayerGetBanStatus`. -/
def LoadedPlugin.Announces (len : Int32) (status : BanStatus) (plugin : LoadedPlugin) : Prop :=
  ∃ cl, .onPlayerAccessGranted cl ∈ (enter plugin.linked (.onPlayerGetBanStatus len)
    ({ plugin.world with calls := [] }, status)).2.1.calls

/-- The plugin's answer about a ban: a kick with a reason denies; `NoKick` grants if some
slot then matches the ban info. -/
def LoadedPlugin.banAnswer (baninfo : BanInfo) (plugin : LoadedPlugin) : Rounds.Answer :=
  match plugin.answer .onPlayerGetBanStatus baninfo with
  | .ok (some reason) => if reason.cString = [] then .abstain else .deny
  | .ok none =>
    if bannedClient plugin.linked
        (worldAfter plugin.linked plugin.world .onPlayerGetBanStatus baninfo).env.host
        (asked plugin.linked plugin.world .onPlayerGetBanStatus baninfo).2 = none then .abstain
    else .grant
  | .error _ => .abstain

/-- A plugin grants exactly if it answers `NoKick` and a slot then matches. -/
theorem banAnswer_grant_iff (baninfo : BanInfo) (plugin : LoadedPlugin) :
    (asked plugin.linked plugin.world .onPlayerGetBanStatus baninfo).1 = .ok none ∧
        bannedClient plugin.linked
          (worldAfter plugin.linked plugin.world .onPlayerGetBanStatus baninfo).env.host
          (asked plugin.linked plugin.world .onPlayerGetBanStatus baninfo).2 ≠ none ↔
      plugin.banAnswer baninfo = .grant := by
  unfold LoadedPlugin.banAnswer LoadedPlugin.answer
  rcases (asked plugin.linked plugin.world .onPlayerGetBanStatus baninfo).1 with stop | _ | reason
  · simp
  · simp
  · simp only [Except.ok.injEq, reduceCtorEq, false_and, false_iff]
    split <;> decide

/-- What the plugins answer about a ban in turn, each on the ban info as the ones before
it left it. -/
def banAnswers (plugins : List LoadedPlugin) (baninfo : BanInfo) : List Rounds.Answer :=
  Rounds.answers
    (fun baninfo plugin => (asked plugin.linked plugin.world .onPlayerGetBanStatus baninfo).2)
    LoadedPlugin.banAnswer baninfo plugins

/-- With an empty message, a plugin fills it exactly if it denies. -/
theorem banStatus_fills_iff (len : Int32) (positive : 1 ≤ len.toInt) (status : BanStatus)
    (plugin : LoadedPlugin) (isEmpty : status.message.bytes 0 = 0) :
    (LoadedPlugin.handle (.onPlayerGetBanStatus len) status plugin).message.bytes 0 ≠ 0 ↔
      plugin.banAnswer status.baninfo = .deny := by
  have written : (LoadedPlugin.handle (.onPlayerGetBanStatus len) status plugin).message = _ :=
    onPlayerGetBanStatus_message len (plugin.world, status)
  have room : 0 < len.toUInt32.toNat := by
    rw [size_of_positive len positive]
    omega
  rw [written, if_pos isEmpty]
  unfold LoadedPlugin.banAnswer LoadedPlugin.answer
  rcases (asked plugin.linked plugin.world .onPlayerGetBanStatus status.baninfo).1 with
    stop | _ | reason
  · simp [kickOf, isEmpty]
  · simp only [kickOf, ne_eq, isEmpty, not_true_eq_false, false_iff]
    split <;> decide
  · by_cases isNull : reason.cString = [] <;>
      simp [kickOf, Buffer.strncpy_first _ reason _ room, isNull]

/-- The message of `OnPlayerGetBanStatus` is a gate: while it is empty each plugin is
asked, and a kick fills it. -/
theorem banStatus_gate (len : Int32) (positive : 1 ≤ len.toInt) :
    Rounds.Gate (LoadedPlugin.handle (.onPlayerGetBanStatus len))
      (fun status : BanStatus => status.message.bytes 0 ≠ 0) BanStatus.baninfo
      LoadedPlugin.banAnswer
      (fun baninfo plugin => (asked plugin.linked plugin.world .onPlayerGetBanStatus baninfo).2)
      (LoadedPlugin.Announces len) where
  stays := by
    intro status plugin full
    have written : plugin.handle (.onPlayerGetBanStatus len) status = _ :=
      onPlayerGetBanStatus_out len (plugin.world, status)
    rwa [written, if_neg full]
  closes := fun status plugin isOpen =>
    banStatus_fills_iff len positive status plugin (not_not.mp isOpen)
  asks := by
    intro status plugin isOpen
    have isEmpty : status.message.bytes 0 = 0 := not_not.mp isOpen
    have written : plugin.handle (.onPlayerGetBanStatus len) status = _ :=
      onPlayerGetBanStatus_out len (plugin.world, status)
    rw [written, if_pos isEmpty]
  grants := by
    intro status plugin
    have announced := onPlayerGetBanStatus_grants plugin.linked len
      (({ plugin.world with calls := [] } : World plugin.P), status) (fun _ => List.not_mem_nil)
    rw [worldAfter_calls] at announced
    rw [LoadedPlugin.Announces, not_not, ← banAnswer_grant_iff]
    exact announced

/-- In a round of `OnPlayerGetBanStatus`, an announced access is never overruled exactly
if the message is filled already, or no plugin denies, or no plugin grants before the
first one that denies. -/
theorem access_granted_iff (plugins : List LoadedPlugin) (len : Int32) (positive : 1 ≤ len.toInt)
    (status : BanStatus) :
    (Rounds.Sometime (LoadedPlugin.handle (.onPlayerGetBanStatus len))
        (LoadedPlugin.Announces len) status plugins →
      (round (.onPlayerGetBanStatus len) plugins status).message.bytes 0 = 0) ↔
      status.message.bytes 0 ≠ 0 ∨ .deny ∉ banAnswers plugins status.baninfo ∨
        .grant ∉ (banAnswers plugins status.baninfo).takeWhile (· ≠ .deny) := by
  have overruled := Rounds.gate_overruled_iff (banStatus_gate len positive) plugins status
  simp only [not_not] at overruled
  exact overruled

/-- A plugin that lets everyone in, with one client on the server. -/
def granter : LoadedPlugin where
  P := Unit
  linked := fixed (fun call => .ok call.default) (.ok ⟨⟩)
  world := loadedWorld (Command.initial 0 fun _ => none) [some 5] fun _ => ⟨4, 1, 2, [], 3, 0⟩
  loaded := Option.some_ne_none _

/-- A plugin that kicks everyone. -/
def banner : LoadedPlugin where
  P := Unit
  linked := kicker (literal "banned")
  world := kickerWorld
  loaded := Option.some_ne_none _

/-- The client's ban info and an empty message. -/
def joining : BanStatus := ⟨⟨1, 2, 3⟩, ⟨fun _ => 0, []⟩⟩

/-- With the kick first, no access is announced for the kicked player. -/
theorem access_granted_after_kick :
    (round (.onPlayerGetBanStatus 64) [banner, granter] joining).message.bytes 0 ≠ 0 ∧
      ¬ Rounds.Sometime (LoadedPlugin.handle (.onPlayerGetBanStatus 64))
        (LoadedPlugin.Announces 64) joining [banner, granter] := by
  have kicked : (round (.onPlayerGetBanStatus 64) [banner, granter] joining).message.bytes 0 ≠ 0 := by
    decide
  have granted := (access_granted_iff [banner, granter] 64 (by decide) joining).mpr
    (Or.inr (Or.inr (by decide)))
  exact ⟨kicked, fun announced => kicked (granted announced)⟩

/-- With the kick last, access is announced and the player is kicked. -/
theorem access_granted_before_kick :
    Rounds.Sometime (LoadedPlugin.handle (.onPlayerGetBanStatus 64))
        (LoadedPlugin.Announces 64) joining [granter, banner] ∧
      (round (.onPlayerGetBanStatus 64) [granter, banner] joining).message.bytes 0 ≠ 0 := by
  constructor
  · exact Or.inl ⟨5, by decide⟩
  · decide

end Plugpp
