import Mathlib.Data.List.Basic
import Mathlib.Data.List.Perm.Basic

/-!
# Asking the members of a chain in turn

A round hands one state to the members of a list one after another; each may look at
it and change it. What a member answers is its answer in the state it is reached in.

Three ways to combine answers are covered: a flag that any member can clear, or set,
for good; a text that the first member with a non-empty one provides; and a gate that
the first denial closes, behind which no member is asked any more. For the gate the
question is whether a grant that was announced can be overruled later.

Members, states and answers are arbitrary.
-/

namespace Plugpp.Rounds

universe u v w
variable {σ : Type u} {α : Type v} {β : Type w}

/-- What each member answers in the state it is reached in. -/
def answers (step : σ → α → σ) (answer : σ → α → β) : σ → List α → List β
  | _, [] => []
  | state, member :: rest =>
      answer state member :: answers step answer (step state member) rest

/-- Something happens at one of the members, in the state it is reached in. -/
def Sometime (step : σ → α → σ) (happens : σ → α → Prop) : σ → List α → Prop
  | _, [] => False
  | state, member :: rest =>
      happens state member ∨ Sometime step happens (step state member) rest

/-- Answers that do not depend on the state are each member's own. -/
theorem answers_own (step : σ → α → σ) (answer : α → β) (state : σ) (members : List α) :
    answers step (fun _ member => answer member) state members = members.map answer := by
  induction members generalizing state with
  | nil => rfl
  | cons member rest inductionHypothesis => simp [answers, inductionHypothesis]

/-! ## Flags -/

/-- A flag that members can only clear is set at the end exactly if it was set and no
member clears it. -/
theorem fold_all {step : Bool → α → Bool} {keeps : α → Prop}
    (each : ∀ flag member, step flag member = true ↔ flag = true ∧ keeps member)
    (members : List α) (flag : Bool) :
    members.foldl step flag = true ↔ flag = true ∧ ∀ member ∈ members, keeps member := by
  induction members generalizing flag with
  | nil => simp
  | cons member rest inductionHypothesis =>
    rw [List.foldl_cons, inductionHypothesis, each, List.forall_mem_cons, and_assoc]

/-- A flag that members can only set is set at the end exactly if it was set or some
member sets it. -/
theorem fold_any {step : Bool → α → Bool} {sets : α → Prop}
    (each : ∀ flag member, step flag member = true ↔ flag = true ∨ sets member)
    (members : List α) (flag : Bool) :
    members.foldl step flag = true ↔ flag = true ∨ ∃ member ∈ members, sets member := by
  induction members generalizing flag with
  | nil => simp
  | cons member rest inductionHypothesis =>
    rw [List.foldl_cons, inductionHypothesis, each, List.exists_mem_cons_iff, or_assoc]

/-! ## The first text -/

/-- The first text of a list that is not empty, or the empty one. -/
def firstText : List (List β) → List β
  | [] => []
  | [] :: rest => firstText rest
  | (letter :: text) :: _ => letter :: text

/-- The first of a list is the first of its first two members, or of what follows. -/
theorem firstText_pair (first second : List β) (rest : List (List β)) :
    firstText (firstText [first, second] :: rest) = firstText (first :: second :: rest) := by
  cases first with
  | nil => cases second <;> rfl
  | cons letter text => rfl

/-- A step that lets the member's answer in only where there is no text yet leaves, at
the end, the first text among the one that was there and the answers. -/
theorem fold_first (fits : List β → Prop) {step : σ → α → σ} {answer : σ → α → List β}
    {holds : σ → List β → Prop}
    (each : ∀ state member text, holds state text → fits (answer state member) →
      holds (step state member) (firstText [text, answer state member]))
    (members : List α) (state : σ) (text : List β) (initially : holds state text)
    (fit : ∀ reason ∈ answers step answer state members, fits reason) :
    holds (members.foldl step state)
      (firstText (text :: answers step answer state members)) := by
  induction members generalizing state text with
  | nil =>
    cases text with
    | nil => exact initially
    | cons letter rest => exact initially
  | cons member rest inductionHypothesis =>
    simp only [answers, List.forall_mem_cons] at fit
    have stepped := each state member text initially fit.1
    have rested := inductionHypothesis _ _ stepped fit.2
    rwa [firstText_pair] at rested

/-! ## Any order -/

/-- Where a flag that is up stays up, the members may be asked in any order. -/
theorem fold_flag_perm {step : Bool → α → Bool} {up : Bool} (stays : ∀ member, step up member = up)
    {members others : List α} (perm : members.Perm others) (flag : Bool) :
    members.foldl step flag = others.foldl step flag := by
  have commutes : RightCommutative step := by
    constructor
    intro flag first second
    by_cases isUp : flag = up
    · rw [isUp, stays, stays, stays]
    · have other : ∀ answer, answer = up ∨ answer = flag := by
        cases up <;> cases flag <;> simp at isUp ⊢
      rcases other (step flag first) with firstUp | firstKept <;>
        rcases other (step flag second) with secondUp | secondKept
      · rw [firstUp, secondUp, stays, stays]
      · rw [firstUp, secondKept, stays, firstUp]
      · rw [firstKept, secondUp, stays]
      · rw [firstKept, secondKept, firstKept]
  exact perm.foldl_eq flag

/-- Where the members that are asked leave the question as it is, the end is a denial
exactly if it was one at the start, or some member denies. -/
theorem fold_denied {ρ : Type w} {step : σ → α → σ} {denied : σ → Prop} {question : σ → ρ}
    {denies : ρ → α → Prop} (members : List α)
    (asks : ∀ member ∈ members, ∀ state, ¬ denied state →
      question (step state member) = question state)
    (each : ∀ state member,
      denied (step state member) ↔ denied state ∨ denies (question state) member)
    (state : σ) :
    denied (members.foldl step state) ↔
      denied state ∨ ∃ member ∈ members, denies (question state) member := by
  induction members generalizing state with
  | nil => simp
  | cons member rest inductionHypothesis =>
    rw [List.forall_mem_cons] at asks
    rw [List.foldl_cons, inductionHypothesis asks.2, each]
    by_cases already : denied state
    · simp [already]
    · rw [asks.1 state already, List.exists_mem_cons_iff, or_assoc]

/-! ## The gate -/

/-- What a member says about letting someone in. -/
inductive Answer where
  | deny
  | grant
  | abstain
deriving DecidableEq

/-- A step behind a gate: a closed gate stays closed and no one is asked; at an open one
the member is asked, and the gate closes exactly on a denial. The question the members
are asked is a part of the state. -/
structure Gate {ρ : Type w} (step : σ → α → σ) (closed : σ → Prop) (question : σ → ρ)
    (answer : ρ → α → Answer) (next : ρ → α → ρ) (announces : σ → α → Prop) : Prop where
  stays : ∀ state member, closed state → closed (step state member)
  closes : ∀ state member, ¬ closed state →
    (closed (step state member) ↔ answer (question state) member = .deny)
  asks : ∀ state member, ¬ closed state →
    question (step state member) = next (question state) member
  grants : ∀ state member,
    announces state member ↔ ¬ closed state ∧ answer (question state) member = .grant

section Gate

variable {ρ : Type w} {step : σ → α → σ} {closed : σ → Prop} {question : σ → ρ}
  {answer : ρ → α → Answer} {next : ρ → α → ρ} {announces : σ → α → Prop}

/-- A closed gate stays closed to the end, and nothing is announced behind it. -/
theorem gate_closed (gate : Gate step closed question answer next announces)
    (members : List α) (state : σ) (isClosed : closed state) :
    closed (members.foldl step state) ∧ ¬ Sometime step announces state members := by
  induction members generalizing state with
  | nil => exact ⟨isClosed, id⟩
  | cons member rest inductionHypothesis =>
    obtain ⟨final, silent⟩ := inductionHypothesis _ (gate.stays state member isClosed)
    refine ⟨final, ?_⟩
    rintro (here | later)
    · exact ((gate.grants state member).mp here).1 isClosed
    · exact silent later

/-- From an open gate: it is closed at the end exactly if some member denies, and a
grant is announced exactly if one comes before the first denial. -/
theorem gate_open (gate : Gate step closed question answer next announces)
    (members : List α) (state : σ) (isOpen : ¬ closed state) :
    (closed (members.foldl step state) ↔ .deny ∈ answers next answer (question state) members) ∧
      (Sometime step announces state members ↔
        .grant ∈ (answers next answer (question state) members).takeWhile (· ≠ .deny)) := by
  induction members generalizing state with
  | nil => simp [answers, Sometime, isOpen]
  | cons member rest inductionHypothesis =>
    have grantsHere := gate.grants state member
    have asksNext := gate.asks state member isOpen
    by_cases denies : answer (question state) member = .deny
    · obtain ⟨final, silent⟩ := gate_closed gate rest _ ((gate.closes state member isOpen).mpr denies)
      have quiet : ¬ announces state member := by simp [grantsHere, denies]
      simp [answers, Sometime, denies, final, silent, quiet]
    · have stillOpen : ¬ closed (step state member) := by
        rwa [gate.closes state member isOpen]
      obtain ⟨final, announced⟩ := inductionHypothesis _ stillOpen
      rw [asksNext] at final announced
      constructor
      · rw [List.foldl_cons, final]
        simp [answers, Ne.symm denies]
      · rw [Sometime, announced, grantsHere]
        simp [answers, denies, isOpen, eq_comm]

/-- An announced grant is never overruled exactly if the gate is closed from the start,
or no one denies, or no one grants before the first denial. -/
theorem gate_overruled_iff (gate : Gate step closed question answer next announces)
    (members : List α) (state : σ) :
    (Sometime step announces state members → ¬ closed (members.foldl step state)) ↔
      closed state ∨ .deny ∉ answers next answer (question state) members ∨
        .grant ∉ (answers next answer (question state) members).takeWhile (· ≠ .deny) := by
  by_cases isClosed : closed state
  · have silent := (gate_closed gate members state isClosed).2
    exact iff_of_true (fun announced => absurd announced silent) (Or.inl isClosed)
  · obtain ⟨final, announced⟩ := gate_open gate members state isClosed
    rw [final, announced]
    tauto

end Gate

end Plugpp.Rounds
