import Plugpp.Kicks

/-!
# A kick and the empty message

The server denies a player who comes with a message. A kick is a reason that is
present, and an empty reason is a reason: copied into the message it leaves the
message empty. `OnPlayerGetBanStatus` copies as many bytes as the server says there
are, possibly none.
-/

namespace Plugpp

open Bytes Code Exported

/-- A kick leaves a message; without a kick the message stays. -/
def Denies (answer : Except Stop Kick) (before after : Buffer) : Prop :=
  (∀ reason, answer = .ok (some reason) → after.bytes 0 ≠ 0) ∧
    ((∀ reason, answer ≠ .ok (some reason)) → after = before)

/-- There is a kick exactly if the answer is one. -/
theorem kickOf_eq_some_iff (answer : Except Stop Kick) (reason : Bytes) :
    kickOf answer = some reason ↔ answer = .ok (some reason) := by
  cases answer <;> simp [kickOf]

/-- Where a reason is copied into an empty message only, a kick denies exactly if the
message was there or the copy leaves one. -/
theorem denies_iff {answer : Except Stop Kick} {before after : Buffer} (copy : Bytes → Buffer)
    (shows : Bytes → Prop)
    (copied : before.bytes 0 = 0 → ∀ reason, (copy reason).bytes 0 ≠ 0 ↔ shows reason)
    (written : after = if before.bytes 0 = 0 then
      match kickOf answer with
      | some reason => copy reason
      | none => before
    else before) :
    Denies answer before after ↔
      ∀ reason, answer = .ok (some reason) → before.bytes 0 ≠ 0 ∨ shows reason := by
  have silent : (∀ reason, answer ≠ .ok (some reason)) → after = before := by
    intro unasked
    have none : kickOf answer = none := by
      refine Option.eq_none_iff_forall_ne_some.mpr fun reason kicked => ?_
      exact unasked reason ((kickOf_eq_some_iff answer reason).mp kicked)
    simpa [none] using written
  rw [Denies, and_iff_left silent]
  refine forall₂_congr fun reason kicked => ?_
  rw [← kickOf_eq_some_iff] at kicked
  by_cases isEmpty : before.bytes 0 = 0
  · simp [written, isEmpty, kicked, copied isEmpty]
  · simp [written, isEmpty]

/-- `strcpy` leaves a message exactly if the reason has a text. -/
theorem strcpy_shows (message : Buffer) (reason : Bytes) :
    (message.strcpy reason).bytes 0 ≠ 0 ↔ reason.cString ≠ [] :=
  (Buffer.first_of_holds (message.strcpy_holds reason)).not

/-- `strncpy` into an empty message leaves one exactly if the reason has a text and
there is room for a byte. -/
theorem strncpy_shows {message : Buffer} (isEmpty : message.bytes 0 = 0) (reason : Bytes)
    (count : Nat) :
    (message.strncpy reason count).bytes 0 ≠ 0 ↔ reason.cString ≠ [] ∧ count ≠ 0 := by
  cases count with
  | zero =>
    have unwritten : message.strncpy reason 0 = message := by simp [Buffer.strncpy, Buffer.storeAll]
    simp [unwritten, isEmpty]
  | succ count =>
    rw [and_iff_left (Nat.succ_ne_zero count)]
    exact (Buffer.strncpy_first message reason _ (Nat.succ_pos count)).not

/-- Each of the three callbacks denies on a kick, and leaves the message without one,
exactly if a reason meets a message that is there or has a text of its own before its
first NUL; `OnPlayerGetBanStatus` needs room for a byte as well. -/
theorem kick_denies_iff {P : Type} (linked : Linked P) (world : World P) :
    (∀ (clientnum : Int) (netaddress : Pointer) (userinfo : Bytes) (deniedmsg : Buffer),
      Denies (asked linked world (.onPlayerConnect clientnum netaddress userinfo) ⟨⟩).1 deniedmsg
          (enter linked (.onPlayerConnect clientnum netaddress userinfo) (world, deniedmsg)).2.2 ↔
        ∀ reason, (asked linked world (.onPlayerConnect clientnum netaddress userinfo) ⟨⟩).1 =
          .ok (some reason) → deniedmsg.bytes 0 ≠ 0 ∨ reason.cString ≠ []) ∧
    (∀ (addr cl : Pointer) (info : AuthInfo),
      Denies (asked linked world (.onPlayerGotAuthInfo cl addr)
            ⟨info.playerid, info.steamid, info.returnNow⟩).1 info.rejectmsg
          (enter linked (.onPlayerGotAuthInfo addr cl) (world, info)).2.2.rejectmsg ↔
        ∀ reason, (asked linked world (.onPlayerGotAuthInfo cl addr)
            ⟨info.playerid, info.steamid, info.returnNow⟩).1 = .ok (some reason) →
          info.rejectmsg.bytes 0 ≠ 0 ∨ reason.cString ≠ []) ∧
    (∀ (len : Int32) (status : BanStatus),
      Denies (asked linked world .onPlayerGetBanStatus status.baninfo).1 status.message
          (enter linked (.onPlayerGetBanStatus len) (world, status)).2.2.message ↔
        ∀ reason, (asked linked world .onPlayerGetBanStatus status.baninfo).1 =
          .ok (some reason) → status.message.bytes 0 ≠ 0 ∨ (reason.cString ≠ [] ∧ len ≠ 0)) := by
  refine ⟨?_, ?_, ?_⟩
  · intro clientnum netaddress userinfo deniedmsg
    exact denies_iff _ _ (fun _ => strcpy_shows deniedmsg)
      (onPlayerConnect_out clientnum netaddress userinfo (world, deniedmsg))
  · intro addr cl info
    refine denies_iff _ _ ?_ (onPlayerGotAuthInfo_rejectmsg addr cl (world, info))
    intro isEmpty reason
    rw [strncpy_shows isEmpty]
    exact and_iff_left (by decide)
  · intro len status
    refine denies_iff _ _ ?_ (onPlayerGetBanStatus_message len (world, status))
    intro isEmpty reason
    have none : len.toUInt32.toNat ≠ 0 ↔ len ≠ 0 := by
      rw [ne_eq, ne_eq, ← Int32.toBitVec_inj, ← BitVec.toNat_inj]
      rfl
    rw [strncpy_shows isEmpty, none]

/-- A kick without a text admits the player in all three callbacks. -/
theorem kick_admits :
    ¬ Denies (asked (kicker []) kickerWorld (.onPlayerConnect 0 0 []) ⟨⟩).1 ⟨fun _ => 0, []⟩
      (enter (kicker []) (.onPlayerConnect 0 0 []) (kickerWorld, ⟨fun _ => 0, []⟩)).2.2 ∧
    ¬ Denies (asked (kicker []) kickerWorld (.onPlayerGotAuthInfo 0 0) ⟨0, 0, false⟩).1
      ⟨fun _ => 0, []⟩ (enter (kicker []) (.onPlayerGotAuthInfo 0 0)
        (kickerWorld, ⟨0, 0, ⟨fun _ => 0, []⟩, false⟩)).2.2.rejectmsg ∧
    ¬ Denies (asked (kicker []) kickerWorld .onPlayerGetBanStatus ⟨0, 0, 0⟩).1
      ⟨fun _ => 0, []⟩ (enter (kicker []) (.onPlayerGetBanStatus 1)
        (kickerWorld, ⟨⟨0, 0, 0⟩, ⟨fun _ => 0, []⟩⟩)).2.2.message := by
  refine ⟨?_, ?_, ?_⟩
  · rintro ⟨denied, _⟩
    exact denied [] rfl rfl
  · have copied : (enter (kicker []) (.onPlayerGotAuthInfo 0 0)
        (kickerWorld, ⟨0, 0, ⟨fun _ => 0, []⟩, false⟩)).2.2.rejectmsg =
          Buffer.strncpy ⟨fun _ => 0, []⟩ [] (rejectMsgSize - 1) := by
      simp [enter, onPlayerGotAuthInfo_out, asked, kickerWorld, loadedWorld, kicker, fixed,
        kickOf, Except.mapError]
    rw [copied]
    rintro ⟨denied, _⟩
    exact denied [] rfl ((Buffer.strncpy_first _ [] _ (by decide)).mpr rfl)
  · rintro ⟨denied, _⟩
    exact denied [] rfl rfl

end Plugpp
