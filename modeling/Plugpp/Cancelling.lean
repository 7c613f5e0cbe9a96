import Mathlib.Logic.Relation
import Mathlib.Data.List.Basic

/-!
# Cancelling pairs of letters

Some letters open a pair and others close one, and none does both. Where a closing letter
stands directly behind an opening one, the two cancel; what stood around them may then
form a pair in its turn. Pairs never overlap, so whatever is cancelled first, what is left
in the end is the same: the letters that a stack keeps which cancels each closing letter
with an opening one on its top.
-/

namespace Plugpp.Cancelling

open Relation

universe u
variable {α : Type u}

/-- One pair is cancelled. -/
inductive Cancels (opens closes : α → Bool) : List α → List α → Prop where
  | pair (before after : List α) {opening closing : α} (isOpening : opens opening = true)
      (isClosing : closes closing = true) :
      Cancels opens closes (before ++ opening :: closing :: after) (before ++ after)

/-- The letters that a stack keeps, top first, of what is still to be read. -/
def settleFrom (opens closes : α → Bool) : List α → List α → List α
  | stack, [] => stack.reverse
  | [], letter :: rest => settleFrom opens closes [letter] rest
  | top :: stack, letter :: rest =>
      if opens top && closes letter then settleFrom opens closes stack rest
      else settleFrom opens closes (letter :: top :: stack) rest

/-- What is left when all pairs are cancelled. -/
def settle (opens closes : α → Bool) (text : List α) : List α := settleFrom opens closes [] text

variable {opens closes : α → Bool}

/-- A letter that opens a pair closes none, so it is put on the stack. -/
theorem settleFrom_opening (apart : ∀ letter, opens letter = true → closes letter = false)
    (stack rest : List α) {opening : α} (isOpening : opens opening = true) :
    settleFrom opens closes stack (opening :: rest) =
      settleFrom opens closes (opening :: stack) rest := by
  cases stack with
  | nil => rfl
  | cons top stack => simp [settleFrom, apart opening isOpening]

/-- What is left does not change when a pair is cancelled. Induct along what is in front of
the pair; the stack is then the same, and takes the pair up and off again. -/
theorem settleFrom_pair (apart : ∀ letter, opens letter = true → closes letter = false)
    (stack before after : List α) {opening closing : α} (isOpening : opens opening = true)
    (isClosing : closes closing = true) :
    settleFrom opens closes stack (before ++ opening :: closing :: after) =
      settleFrom opens closes stack (before ++ after) := by
  induction before generalizing stack with
  | nil =>
    rw [List.nil_append, settleFrom_opening apart _ _ isOpening]
    simp [settleFrom, isOpening, isClosing]
  | cons letter before inductionHypothesis =>
    cases stack with
    | nil => exact inductionHypothesis [letter]
    | cons top stack =>
      simp only [List.cons_append, settleFrom, inductionHypothesis]

/-- However pairs are cancelled, what is left in the end does not change. -/
theorem settle_cancels (apart : ∀ letter, opens letter = true → closes letter = false)
    {text reached : List α} (steps : ReflTransGen (Cancels opens closes) text reached) :
    settle opens closes reached = settle opens closes text := by
  induction steps with
  | refl => rfl
  | tail _ step inductionHypothesis =>
    cases step with
    | pair before after isOpening isClosing =>
      rw [← inductionHypothesis]
      exact (settleFrom_pair apart [] before after isOpening isClosing).symm

/-- Where nothing can be cancelled, everything is left. -/
theorem settleFrom_settled (stack rest : List α)
    (settled : ∀ next, ¬ Cancels opens closes (stack.reverse ++ rest) next) :
    settleFrom opens closes stack rest = stack.reverse ++ rest := by
  induction rest generalizing stack with
  | nil => cases stack <;> simp [settleFrom]
  | cons letter rest inductionHypothesis =>
    have pushed : (letter :: stack).reverse ++ rest = stack.reverse ++ letter :: rest := by simp
    have later := inductionHypothesis (letter :: stack) (pushed ▸ settled)
    rw [pushed] at later
    cases stack with
    | nil => exact later
    | cons top stack =>
      have kept : (opens top && closes letter) = false := by
        rw [Bool.and_eq_false_iff]
        by_contra both
        rw [not_or, Bool.not_eq_false, Bool.not_eq_false] at both
        refine settled (stack.reverse ++ rest) ?_
        have pair : Cancels opens closes (stack.reverse ++ top :: letter :: rest)
            (stack.reverse ++ rest) := .pair stack.reverse rest both.1 both.2
        simpa using pair
      rw [settleFrom, kept]
      exact later

/-- Whatever is reached by cancelling and has nothing left to cancel is what the stack
leaves. -/
theorem settled_unique (apart : ∀ letter, opens letter = true → closes letter = false)
    {text reached : List α} (steps : ReflTransGen (Cancels opens closes) text reached)
    (settled : ∀ next, ¬ Cancels opens closes reached next) :
    reached = settle opens closes text := by
  rw [← settle_cancels apart steps]
  exact (settleFrom_settled [] reached settled).symm

/-- Behind a common beginning, pairs are cancelled as without it. -/
theorem cancels_append (front : List α) {text reached : List α}
    (steps : ReflTransGen (Cancels opens closes) text reached) :
    ReflTransGen (Cancels opens closes) (front ++ text) (front ++ reached) := by
  induction steps with
  | refl => exact .refl
  | tail _ step inductionHypothesis =>
    refine inductionHypothesis.tail ?_
    cases step with
    | pair before after isOpening isClosing =>
      rw [← List.append_assoc, ← List.append_assoc]
      exact .pair (front ++ before) after isOpening isClosing

end Plugpp.Cancelling
