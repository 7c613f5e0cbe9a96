import Plugpp.Denials
import Plugpp.Verdicts

/-!
# What a round of plugins writes

Whatever the plugins of a round answer, `OnPlayerGotAuthInfo` and `OnPlayerGetBanStatus`
write no further than they are told to. `OnPlayerConnect` is told no size: it writes as far
as the first reason with a text is long, and one byte more.
-/

namespace Plugpp

open Bytes Code Exported

section Connect

variable (clientnum : Int) (netaddress : Pointer) (userinfo : Bytes)

/-- The text a plugin kicks a connecting player with, empty without a kick. -/
def kickText (plugin : LoadedPlugin) : Bytes :=
  (reasonOf (plugin.answer (.onPlayerConnect clientnum netaddress userinfo) ⟨⟩)).cString

/-- A message that is there is not written to. -/
theorem onPlayerConnect_closed (plugins : List LoadedPlugin) (buffer : Buffer)
    (occupied : buffer.bytes 0 ≠ 0) :
    round (.onPlayerConnect clientnum netaddress userinfo) plugins buffer = buffer := by
  induction plugins with
  | nil => rfl
  | cons plugin rest inductionHypothesis =>
    have unwritten : plugin.handle (.onPlayerConnect clientnum netaddress userinfo) buffer =
        buffer :=
      (onPlayerConnect_out clientnum netaddress userinfo (plugin.world, buffer)).trans
        (if_neg occupied)
    rw [round, List.foldl_cons, unwritten]
    exact inductionHypothesis

/-- A round writes inside a size exactly if the writes before it were there, and the first
kick with a text, if there is no message yet, is shorter. -/
theorem onPlayerConnect_stores (plugins : List LoadedPlugin) (buffer : Buffer) (size : Nat)
    (positive : 0 < size) :
    (∀ index ∈ Buffer.stores (round (.onPlayerConnect clientnum netaddress userinfo) plugins buffer),
      index < size) ↔
    (∀ index ∈ buffer.stores, index < size) ∧ (buffer.bytes 0 ≠ 0 ∨
      (Rounds.firstText (plugins.map (kickText clientnum netaddress userinfo))).length < size) := by
  induction plugins generalizing buffer with
  | nil => simp [round, Rounds.firstText, positive]
  | cons plugin rest inductionHypothesis =>
    by_cases occupied : buffer.bytes 0 ≠ 0
    · rw [onPlayerConnect_closed clientnum netaddress userinfo (plugin :: rest) buffer occupied]
      simp [occupied]
    · have isEmpty : buffer.bytes 0 = 0 := not_not.mp occupied
      have written := @onPlayerConnect_out _ plugin.linked clientnum netaddress userinfo
        (plugin.world, buffer)
      rw [round, List.foldl_cons, ← round, inductionHypothesis, List.map_cons]
      cases kicked : kickOf (plugin.answer (.onPlayerConnect clientnum netaddress userinfo) ⟨⟩) with
      | none =>
        have nothing : kickText clientnum netaddress userinfo plugin = [] := by
          simp [kickText, reasonOf, kicked, cString]
        have kept : plugin.handle (.onPlayerConnect clientnum netaddress userinfo) buffer =
            buffer := by
          rw [LoadedPlugin.answer] at kicked
          simp only [isEmpty, if_true, kicked] at written
          exact written
        rw [kept, nothing, Rounds.firstText]
      | some reason =>
        have text : kickText clientnum netaddress userinfo plugin = reason.cString := by
          simp [kickText, reasonOf, kicked]
        have copies : plugin.handle (.onPlayerConnect clientnum netaddress userinfo) buffer =
            buffer.strcpy reason := by
          rw [LoadedPlugin.answer] at kicked
          simp only [isEmpty, if_true, kicked] at written
          exact written
        have shows := strcpy_shows buffer reason
        rw [copies, text]
        simp only [Buffer.mem_stores_strcpy, occupied, false_or]
        cases copied : reason.cString with
        | nil =>
          -- The terminator alone is written, and the message is empty still.
          rw [copied] at shows
          simp only [shows, ne_eq, not_true_eq_false, false_or, Rounds.firstText,
            List.length_nil, Nat.le_zero]
          refine and_congr_left fun _ => ?_
          exact ⟨fun bounded index member => bounded index (Or.inr member),
            fun bounded index member => member.elim (fun first => first ▸ positive) (bounded index)⟩
        | cons letter text =>
          rw [copied] at shows
          have occupiedNow : (buffer.strcpy reason).bytes 0 ≠ 0 := shows.mpr (List.cons_ne_nil _ _)
          simp only [occupiedNow, ne_eq, not_false_eq_true, true_or, and_true, Rounds.firstText]
          constructor
          · exact fun bounded => ⟨fun index member => bounded index (Or.inr member),
              bounded _ (Or.inl (Nat.le_refl _))⟩
          · rintro ⟨bounded, short⟩ index (inside | member)
            · exact Nat.lt_of_le_of_lt inside short
            · exact bounded index member

end Connect

/-- Where at most a count of a reason is copied, nothing is written behind it. -/
theorem strncpy_stores {answer : Except Stop Kick} {before after : Buffer} {count : Nat}
    (written : after = if before.bytes 0 = 0 then
      match kickOf answer with
      | some reason => before.strncpy reason count
      | none => before
    else before)
    (bounded : ∀ index ∈ before.stores, index < count) : ∀ index ∈ after.stores, index < count := by
  rw [written]
  split
  · cases kickOf answer with
    | none => exact bounded
    | some reason =>
      intro index member
      exact ((before.mem_stores_strncpy reason count index).mp member).elim id (bounded index)
  · exact bounded

/-- In a round over any plugins, `OnPlayerConnect` writes inside the message's size exactly if
there is a message already or the first kick that has a text is shorter than that; and
`OnPlayerGotAuthInfo` and `OnPlayerGetBanStatus` never write further than 1023 bytes, or
than their `len` as a `size_t`, whatever the reasons. -/
theorem round_stores (plugins : List LoadedPlugin) (memory : Nat → UInt8) :
    (∀ (clientnum : Int) (netaddress : Pointer) (userinfo : Bytes) (size : Nat), 0 < size →
      ((∀ index ∈ Buffer.stores (round (.onPlayerConnect clientnum netaddress userinfo) plugins
          ⟨memory, []⟩), index < size) ↔
        memory 0 ≠ 0 ∨ (Rounds.firstText
          (plugins.map (kickText clientnum netaddress userinfo))).length < size)) ∧
    (∀ (addr cl : Pointer) (info : AuthInfo), info.rejectmsg = ⟨memory, []⟩ →
      ∀ index ∈ (round (.onPlayerGotAuthInfo addr cl) plugins info).rejectmsg.stores,
        index < 1023) ∧
    (∀ (len : Int32) (baninfo : BanInfo),
      ∀ index ∈ (round (.onPlayerGetBanStatus len) plugins ⟨baninfo, ⟨memory, []⟩⟩).message.stores,
        index < len.toUInt32.toNat) := by
  refine ⟨?_, ?_, ?_⟩
  · intro clientnum netaddress userinfo size positive
    rw [onPlayerConnect_stores clientnum netaddress userinfo plugins _ size positive]
    simp
  · intro addr cl info fresh
    refine @List.foldlRecOn AuthInfo LoadedPlugin
      (fun info => ∀ index ∈ info.rejectmsg.stores, index < 1023) plugins _ info ?_ ?_
    · simp [fresh]
    · intro info bounded plugin _
      exact strncpy_stores (onPlayerGotAuthInfo_rejectmsg addr cl (plugin.world, info)) bounded
  · intro len baninfo
    refine @List.foldlRecOn BanStatus LoadedPlugin
      (fun status => ∀ index ∈ status.message.stores, index < len.toUInt32.toNat) plugins _ _ ?_ ?_
    · simp
    · intro status bounded plugin _
      exact strncpy_stores (onPlayerGetBanStatus_message len (plugin.world, status)) bounded

/-- A kick without a text and one of five letters, into a message of six bytes. -/
theorem round_stores_second_kick :
    ∀ index ∈ Buffer.stores (round (.onPlayerConnect 0 0 [])
        [kicking [], kicking (literal "first")] ⟨fun _ => 0, []⟩), index < 6 :=
  ((round_stores [kicking [], kicking (literal "first")] fun _ => 0).1 0 0 [] 6 (by decide)).mpr
    (Or.inr (by decide))

end Plugpp
