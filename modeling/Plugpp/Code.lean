import Mathlib.Data.Prod.Basic

/-!
# Stateful code that may stop with an error

`Code ε σ α` is a computation over a state of type `σ` that either returns an `α`
or stops with an `ε`. A stop does not roll the state back: whatever was written
before it stays written, as it does when an exception leaves a function.

The first part gives the operations and what each does on a state. The second
part is a logic of triples with one postcondition for a return and one for a
stop. Both are over arbitrary states and errors.
-/

namespace Plugpp

universe u v w
variable {ε δ : Type u} {σ τ : Type v} {α β : Type w}

/-- A computation over a state that returns a value or stops with an error. -/
abbrev Code (ε : Type u) (σ : Type v) (α : Type w) := σ → Except ε α × σ

namespace Code

/-- Sequencing hands the state on; a stop skips the continuation. -/
def andThen (first : Code ε σ α) (next : α → Code ε σ β) : Code ε σ β := fun state =>
  match first state with
  | (.ok value, after) => next value after
  | (.error error, after) => (.error error, after)

instance : Monad (Code ε σ) where
  pure value := fun state => (.ok value, state)
  bind := andThen

/-- Stop with an error in the present state. -/
def raise (error : ε) : Code ε σ α := fun state => (.error error, state)

/-- Observe the state. -/
def observe (reading : σ → α) : Code ε σ α := fun state => (.ok (reading state), state)

/-- Write the state. -/
def update (change : σ → σ) : Code ε σ PUnit := fun state => (.ok ⟨⟩, change state)

/-- Run the handler on a stop, in the state the stop left. -/
def recover (body : Code ε σ α) (handler : ε → Code δ σ α) : Code δ σ α := fun state =>
  match body state with
  | (.ok value, after) => (.ok value, after)
  | (.error error, after) => handler error after

/-- Run code of a component of the state and put the component back. -/
def focus (get : σ → τ) (put : τ → σ → σ) (body : Code ε τ α) : Code ε σ α := fun state =>
  ((body (get state)).1, put (body (get state)).2 state)

@[simp] theorem pure_apply (value : α) (state : σ) :
    (pure value : Code ε σ α) state = (.ok value, state) := rfl

theorem bind_apply (first : Code ε σ α) (next : α → Code ε σ β) (state : σ) :
    (first >>= next) state = match first state with
      | (.ok value, after) => next value after
      | (.error error, after) => (.error error, after) := rfl

@[simp] theorem raise_apply (error : ε) (state : σ) :
    (raise error : Code ε σ α) state = (.error error, state) := rfl

@[simp] theorem observe_apply (reading : σ → α) (state : σ) :
    (observe reading : Code ε σ α) state = (.ok (reading state), state) := rfl

@[simp] theorem update_apply (change : σ → σ) (state : σ) :
    (update change : Code ε σ PUnit) state = (.ok ⟨⟩, change state) := rfl

/-! ## Triples -/

/-- From every state of the precondition, a return establishes `returns` and a
stop establishes `stops`. -/
def Triple (before : σ → Prop) (body : Code ε σ α) (returns : α → σ → Prop)
    (stops : ε → σ → Prop) : Prop :=
  ∀ state, before state → match body state with
    | (.ok value, after) => returns value after
    | (.error error, after) => stops error after

variable {before : σ → Prop} {returns : α → σ → Prop} {stops : ε → σ → Prop}

theorem triple_pure (value : α) (established : ∀ state, before state → returns value state) :
    Triple before (pure value : Code ε σ α) returns stops :=
  fun state holds => established state holds

theorem triple_raise (error : ε) (established : ∀ state, before state → stops error state) :
    Triple before (raise error : Code ε σ α) returns stops :=
  fun state holds => established state holds

theorem triple_observe (reading : σ → α)
    (established : ∀ state, before state → returns (reading state) state) :
    Triple before (observe reading : Code ε σ α) returns stops :=
  fun state holds => established state holds

theorem triple_update {changed : PUnit → σ → Prop} (change : σ → σ)
    (established : ∀ state, before state → changed ⟨⟩ (change state)) :
    Triple before (update change : Code ε σ PUnit) changed stops :=
  fun state holds => established state holds

/-- Sequencing: the first part's return condition is the second's precondition,
and both may stop. -/
theorem triple_bind {first : Code ε σ α} {next : α → Code ε σ β} {final : β → σ → Prop}
    (head : Triple before first returns stops)
    (tail : ∀ value, Triple (returns value) (next value) final stops) :
    Triple before (first >>= next) final stops := by
  intro state holds
  have outcome := head state holds
  rw [bind_apply]
  rcases result : first state with ⟨_ | value, after⟩
  · rw [result] at outcome
    exact outcome
  · rw [result] at outcome
    exact tail value after outcome

/-- Recovery: the handler starts from what a stop of the body establishes. -/
theorem triple_recover {body : Code ε σ α} {handler : ε → Code δ σ α} {inner : ε → σ → Prop}
    {outer : δ → σ → Prop} (main : Triple before body returns inner)
    (handled : ∀ error, Triple (inner error) (handler error) returns outer) :
    Triple before (body.recover handler) returns outer := by
  intro state holds
  have outcome := main state holds
  unfold recover
  rcases result : body state with ⟨error | value, after⟩
  · rw [result] at outcome
    exact handled error after outcome
  · rw [result] at outcome
    exact outcome

/-- Strengthen the precondition and weaken both postconditions. -/
theorem triple_consequence {body : Code ε σ α} {weaker : σ → Prop} {returns' : α → σ → Prop}
    {stops' : ε → σ → Prop} (triple : Triple weaker body returns' stops')
    (initially : ∀ state, before state → weaker state)
    (returned : ∀ value state, returns' value state → returns value state)
    (stopped : ∀ error state, stops' error state → stops error state) :
    Triple before body returns stops := by
  intro state holds
  have outcome := triple state (initially state holds)
  rcases result : body state with ⟨error | value, after⟩
  · rw [result] at outcome
    exact stopped error after outcome
  · rw [result] at outcome
    exact returned value after outcome

end Code
end Plugpp
