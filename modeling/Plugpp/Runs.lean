import Mathlib.Data.List.Basic

/-!
# Finite runs of an event-driven system

A system says which events a state admits and what each event does. A run is a
finite sequence of admitted events. The rules below turn a fact about one step
into a fact about every run: an invariant, an invariant that needs a condition
on each step, and a law observed at each step. The last part is about two systems that
go in step, so that the runs of one are the runs of the other.

Nothing here fixes what the states or events are. An event that a state does
not admit has no run through it; nothing is claimed about such an event.
-/

namespace Plugpp.Runs

universe u v
variable {State : Type u} {Event : Type v}

/-- Admission and effect of an event. The effect is total; only admitted events
take part in runs. -/
structure System (State : Type u) (Event : Type v) where
  admits : State → Event → Prop
  step : State → Event → State

/-- The events are admitted one after another and lead to the last state. -/
inductive Run (system : System State Event) : State → List Event → State → Prop where
  | done (state : State) : Run system state [] state
  | next {state final : State} {event : Event} {events : List Event}
      (admitted : system.admits state event)
      (rest : Run system (system.step state event) events final) :
      Run system state (event :: events) final

/-- A condition on the state before each step and on the step's event, at every
step that the events take from the state. -/
def Along (system : System State Event) (condition : State → Event → Prop) :
    State → List Event → Prop
  | _, [] => True
  | state, event :: events =>
      condition state event ∧ Along system condition (system.step state event) events

variable {system : System State Event}

/-- What every admitted step preserves under a condition on that step holds at
the end of every run whose steps all meet the condition. -/
theorem run_preserves_along {condition : State → Event → Prop} {invariant : State → Prop}
    (step : ∀ state event, system.admits state event → condition state event →
      invariant state → invariant (system.step state event))
    {state final : State} {events : List Event} (run : Run system state events final)
    (along : Along system condition state events) (initially : invariant state) :
    invariant final := by
  induction run with
  | done state => exact initially
  | @next state final event events admitted rest inductionHypothesis =>
    exact inductionHypothesis along.2 (step state event admitted along.1 initially)

/-- What every admitted step preserves holds at the end of every run. -/
theorem run_preserves {invariant : State → Prop}
    (step : ∀ state event, system.admits state event →
      invariant state → invariant (system.step state event))
    {state final : State} {events : List Event} (run : Run system state events final)
    (initially : invariant state) : invariant final := by
  induction run with
  | done state => exact initially
  | @next state final event events admitted rest inductionHypothesis =>
    exact inductionHypothesis (step state event admitted initially)

/-- Two conditions that hold along the same events hold together along them. -/
theorem along_and {left right : State → Event → Prop} {state : State} {events : List Event}
    (leftAlong : Along system left state events) (rightAlong : Along system right state events) :
    Along system (fun state event => left state event ∧ right state event) state events := by
  induction events generalizing state with
  | nil => trivial
  | cons event events inductionHypothesis =>
    exact ⟨⟨leftAlong.1, rightAlong.1⟩, inductionHypothesis leftAlong.2 rightAlong.2⟩

/-- Two step conditions that agree wherever an invariant holds agree along
every run from a state of the invariant. -/
theorem along_congr {left right : State → Event → Prop} {invariant : State → Prop}
    (step : ∀ state event, system.admits state event →
      invariant state → invariant (system.step state event))
    (same : ∀ state event, system.admits state event → invariant state →
      (left state event ↔ right state event))
    {state final : State} {events : List Event} (run : Run system state events final)
    (initially : invariant state) :
    Along system left state events ↔ Along system right state events := by
  induction run with
  | done state => exact Iff.rfl
  | @next state final event events admitted rest inductionHypothesis =>
    have tail := inductionHypothesis (step state event admitted initially)
    exact and_congr (same state event admitted initially) tail

/-- What no step brings about and a step keeps exactly under a condition is there after
a run exactly if it was there before and the condition holds along the run. -/
theorem run_lasts_iff {condition : State → Event → Prop} {invariant lasting : State → Prop}
    (keeps : ∀ state event, system.admits state event →
      invariant state → invariant (system.step state event))
    (step : ∀ state event, system.admits state event → invariant state →
      (lasting (system.step state event) ↔ lasting state ∧ condition state event))
    {state final : State} {events : List Event} (run : Run system state events final)
    (initially : invariant state) :
    lasting final ↔ lasting state ∧ Along system condition state events := by
  induction run with
  | done state => simp [Along]
  | @next state final event events admitted rest inductionHypothesis =>
    rw [inductionHypothesis (keeps state event admitted initially),
      step state event admitted initially, and_assoc]
    rfl

/-- Nothing is asked of the steps. -/
theorem along_trivial (state : State) (events : List Event) :
    Along system (fun _ _ => True) state events := by
  induction events generalizing state with
  | nil => trivial
  | cons event events inductionHypothesis => exact ⟨trivial, inductionHypothesis _⟩

/-! ## Two systems in step -/

section Matching

universe w x
variable {Abstract : Type w} {Action : Type x} {below : System State Event}
  {above : System Abstract Action} {action : Event → Action} {related : State → Abstract → Prop}

/-- Related states admit the same events, each read as an action, and an admitted event
leads to related states. -/
structure Matching (below : System State Event) (above : System Abstract Action)
    (action : Event → Action) (related : State → Abstract → Prop) : Prop where
  admits : ∀ state abstract event, related state abstract →
    (below.admits state event ↔ above.admits abstract (action event))
  step : ∀ state abstract event, related state abstract → below.admits state event →
    related (below.step state event) (above.step abstract (action event))

/-- A run below along which a condition holds is followed by one above, if the steps that
meet the condition are. -/
theorem run_simulated {condition : State → Event → Prop}
    (each : ∀ state abstract event, related state abstract → below.admits state event →
      condition state event → above.admits abstract (action event) ∧
        related (below.step state event) (above.step abstract (action event)))
    {state final : State} {events : List Event} (run : Run below state events final)
    (along : Along below condition state events) {abstract : Abstract}
    (initially : related state abstract) :
    ∃ reached, Run above abstract (events.map action) reached ∧ related final reached := by
  induction run generalizing abstract with
  | done state => exact ⟨abstract, .done abstract, initially⟩
  | @next state final event events admitted rest inductionHypothesis =>
    obtain ⟨possible, stepped⟩ := each state abstract event initially admitted along.1
    obtain ⟨reached, onwards, matched⟩ := inductionHypothesis along.2 stepped
    exact ⟨reached, .next possible onwards, matched⟩

/-- Every run below is matched by one above, of the same events read as actions. -/
theorem run_matches (matching : Matching below above action related) {state final : State}
    {events : List Event} (run : Run below state events final) {abstract : Abstract}
    (initially : related state abstract) :
    ∃ reached, Run above abstract (events.map action) reached ∧ related final reached := by
  have unconditional : Along below (fun _ _ => True) state events := along_trivial state events
  refine run_simulated ?_ run unconditional initially
  intro state abstract event matched admitted _
  exact ⟨(matching.admits state abstract event matched).mp admitted,
    matching.step state abstract event matched admitted⟩

/-- Every run above of events read as actions comes from one below. -/
theorem run_matched (matching : Matching below above action related) {events : List Event}
    {abstract reached : Abstract} (run : Run above abstract (events.map action) reached)
    {state : State} (initially : related state abstract) :
    ∃ final, Run below state events final ∧ related final reached := by
  induction events generalizing state abstract with
  | nil =>
    cases run with
    | done => exact ⟨state, .done state, initially⟩
  | cons event events inductionHypothesis =>
    cases run with
    | next admitted rest =>
      have possible := (matching.admits state abstract event initially).mpr admitted
      obtain ⟨final, onwards, matched⟩ :=
        inductionHypothesis rest (matching.step state abstract event initially possible)
      exact ⟨final, .next possible onwards, matched⟩

end Matching

end Plugpp.Runs
