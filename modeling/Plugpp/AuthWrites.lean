import Mathlib.Data.List.Induction
import Plugpp.Answers

/-!
# What a failing plugin has written

`OnPlayerGotAuthInfo` hands the ids of the server to the plugin by reference, and a
local copy of the decision to wait. A plugin may write to all three any number of times
before it throws: the copy is lost then, the ids keep what was written last.
-/

namespace Plugpp

open Bytes Code Exported

/-- A write through a reference of `onPlayerGotAuthInfo`. -/
inductive AuthWrite where
  | playerid (value : UInt64)
  | steamid (value : UInt64)
  | returnNow (value : Bool)

namespace AuthWrite

/-- One write. -/
def apply (refs : AuthRefs) : AuthWrite → AuthRefs
  | .playerid value => { refs with playerid := value }
  | .steamid value => { refs with steamid := value }
  | .returnNow value => { refs with returnNow := value }

/-- Writes one after another. -/
def run (writes : List AuthWrite) (refs : AuthRefs) : AuthRefs := writes.foldl apply refs

/-- What is written to the player id. -/
def playeridWritten : AuthWrite → Option UInt64
  | .playerid value => some value
  | _ => none

/-- What is written to the steam id. -/
def steamidWritten : AuthWrite → Option UInt64
  | .steamid value => some value
  | _ => none

/-- The last of the values that writes give a reference. -/
def lastWritten (written : AuthWrite → Option UInt64) (writes : List AuthWrite) : Option UInt64 :=
  (writes.filterMap written).getLast?

/-- One write gives the player id its value, or leaves it. -/
theorem apply_playerid (refs : AuthRefs) (write : AuthWrite) :
    (apply refs write).playerid = (playeridWritten write).getD refs.playerid := by
  cases write <;> rfl

/-- One write gives the steam id its value, or leaves it. -/
theorem apply_steamid (refs : AuthRefs) (write : AuthWrite) :
    (apply refs write).steamid = (steamidWritten write).getD refs.steamid := by
  cases write <;> rfl

/-- A reference that each write gives its value, or leaves, is given the last one. -/
theorem run_last (reference : AuthRefs → UInt64) (written : AuthWrite → Option UInt64)
    (step : ∀ refs write, reference (apply refs write) = (written write).getD (reference refs))
    (writes : List AuthWrite) (refs : AuthRefs) :
    reference (run writes refs) = (lastWritten written writes).getD (reference refs) := by
  induction writes using List.reverseRecOn with
  | nil => rfl
  | append_singleton writes write inductionHypothesis =>
    have applied : run (writes ++ [write]) refs = apply (run writes refs) write := by simp [run]
    rw [applied, step, inductionHypothesis]
    cases given : written write <;> simp [lastWritten, given]

/-- A reference is as it was exactly if nothing else was written last. -/
theorem run_unchanged_iff (reference : AuthRefs → UInt64) (written : AuthWrite → Option UInt64)
    (step : ∀ refs write, reference (apply refs write) = (written write).getD (reference refs))
    (writes : List AuthWrite) (refs : AuthRefs) :
    reference (run writes refs) = reference refs ↔
      ∀ last, lastWritten written writes = some last → last = reference refs := by
  rw [run_last reference written step]
  cases lastWritten written writes <;> simp

end AuthWrite

open AuthWrite

/-- A plugin that throws after some writes leaves the ids, the decision and the message
of `OnPlayerGotAuthInfo` as they were exactly if the last values it wrote to the ids, if
any, are the ones that were there. -/
theorem onPlayerGotAuthInfo_unchanged_iff {P : Type} (linked : Linked P) (world : World P)
    (addr cl : Pointer) (info : AuthInfo) (writes : List AuthWrite) (exception : Thrown)
    (throws : asked linked world (.onPlayerGotAuthInfo cl addr)
        ⟨info.playerid, info.steamid, info.returnNow⟩ =
      (.error (.thrown exception), run writes ⟨info.playerid, info.steamid, info.returnNow⟩)) :
    (enter linked (.onPlayerGotAuthInfo addr cl) (world, info)).2.2 = info ↔
      (∀ last, lastWritten playeridWritten writes = some last → last = info.playerid) ∧
        ∀ last, lastWritten steamidWritten writes = some last → last = info.steamid := by
  have left : (enter linked (.onPlayerGotAuthInfo addr cl) (world, info)).2.2 = { info with
      playerid := (run writes ⟨info.playerid, info.steamid, info.returnNow⟩).playerid
      steamid := (run writes ⟨info.playerid, info.steamid, info.returnNow⟩).steamid } := by
    refine (onPlayerGotAuthInfo_out addr cl (world, info)).trans ?_
    simp only [throws, kickOf]
  have ids : ∀ playerid steamid, { info with playerid := playerid, steamid := steamid } = info ↔
      playerid = info.playerid ∧ steamid = info.steamid := by
    intro playerid steamid
    rw [AuthInfo.mk.injEq]
    simp
  rw [left, ids]
  exact and_congr
    (run_unchanged_iff AuthRefs.playerid playeridWritten apply_playerid writes _)
    (run_unchanged_iff AuthRefs.steamid steamidWritten apply_steamid writes _)

/-- A plugin that writes to what it is given by `onPlayerGotAuthInfo` and then throws. -/
def writer (writes : List AuthWrite) : Linked Unit :=
  { fixed (fun call => .ok call.default) (.ok ⟨⟩) with
    virtual := fun call =>
      match call with
      | .onPlayerGotAuthInfo .. => fun (refs, state) => (.error .unknown, run writes refs, state)
      | call => fun state => (.ok call.default, state) }

/-- Its world. -/
def writerWorld : World Unit := loadedWorld (Command.initial 0 fun _ => none) [] anyone

/-- Written over and put back, the ids are as they were, and the decision as well. -/
theorem onPlayerGotAuthInfo_put_back :
    (enter (writer [.playerid 7, .returnNow true, .playerid 1]) (.onPlayerGotAuthInfo 0 0)
      (writerWorld, ⟨1, 2, ⟨fun _ => 0, []⟩, false⟩)).2.2 = ⟨1, 2, ⟨fun _ => 0, []⟩, false⟩ := by
  refine (onPlayerGotAuthInfo_unchanged_iff (writer [.playerid 7, .returnNow true, .playerid 1])
    writerWorld 0 0 ⟨1, 2, ⟨fun _ => 0, []⟩, false⟩ _ .unknown rfl).mpr ⟨?_, ?_⟩
  · intro last written
    exact (Option.some.inj written).symm
  · intro last written
    cases written

/-- A plugin that has written the player id before it throws leaves the half of an
identity. -/
theorem onPlayerGotAuthInfo_half_changed :
    asked (writer [.playerid 7]) writerWorld (.onPlayerGotAuthInfo 0 0) ⟨1, 2, false⟩ =
      (.error (.thrown .unknown), run [.playerid 7] ⟨1, 2, false⟩) ∧
    ¬ (enter (writer [.playerid 7]) (.onPlayerGotAuthInfo 0 0)
      (writerWorld, ⟨1, 2, ⟨fun _ => 0, []⟩, false⟩)).2.2 = ⟨1, 2, ⟨fun _ => 0, []⟩, false⟩ := by
  refine ⟨rfl, ?_⟩
  intro unchanged
  exact absurd (congrArg AuthInfo.playerid unchanged) (by decide)

end Plugpp
