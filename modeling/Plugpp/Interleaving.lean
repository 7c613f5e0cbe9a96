import Plugpp.Runs

/-!
# Interleavings of members that share a state

Several members act on one state, one after another in any order. Each of them sees the
state in its own way, and what it does is a step of a component system on what it sees.
The members interfere: a step of one may change what another one sees.

Two rules follow. What each member keeps by its own steps and under those of the others
holds for all members after every interleaving. And a member whose view agrees with a
state of its own, whatever the others do, goes through its own events as it would alone.
-/

namespace Plugpp.Interleaving

open Runs

universe u v w x
variable {Member : Type u} {State : Type v} {Local : Type w} {Event : Type x}

/-- The events of one member, in their order. -/
def ownEvents [DecidableEq Member] (member : Member) (events : List (Member × Event)) :
    List Event :=
  (events.filter fun event => event.1 = member).map Prod.snd

/-- The state that a sequence of events leads to. -/
def after (component : System Local Event) (start : Local) (events : List Event) : Local :=
  events.foldl component.step start

/-- Every member's view has its property. -/
def Everywhere (view : State → Member → Local) (invariant : Member → Local → Prop)
    (state : State) : Prop :=
  ∀ member, invariant member (view state member)

/-- A step of the whole is, to the member that makes it, a step of the component. -/
structure Shares (component : System Local Event) (whole : System State (Member × Event))
    (view : State → Member → Local) : Prop where
  admits : ∀ state member event, whole.admits state (member, event) →
    component.admits (view state member) event
  own : ∀ state member event, whole.admits state (member, event) →
    view (whole.step state (member, event)) member = component.step (view state member) event

variable {component : System Local Event} {whole : System State (Member × Event)}
  {view : State → Member → Local}

/-- What a member keeps by its own steps, and under the steps of others as long as they
keep it, all members keep in every interleaving. -/
theorem interleaved_preserves [DecidableEq Member] (shares : Shares component whole view)
    {invariant : Member → Local → Prop}
    (own : ∀ member seen event, component.admits seen event → invariant member seen →
      invariant member (component.step seen event))
    (other : ∀ state actor event member, member ≠ actor → whole.admits state (actor, event) →
      Everywhere view invariant state →
      invariant member (view (whole.step state (actor, event)) member))
    {state final : State} {events : List (Member × Event)} (run : Run whole state events final)
    (initially : Everywhere view invariant state) : Everywhere view invariant final := by
  apply run_preserves _ run initially
  rintro before ⟨actor, event⟩ admitted holds member
  by_cases same : member = actor
  · subst same
    rw [shares.own before member event admitted]
    exact own member _ event (shares.admits before member event admitted) (holds member)
  · exact other before actor event member same admitted holds

section Alone

variable [DecidableEq Member] {member : Member} {agrees : Local → Local → Prop}
  {invariant : State → Prop} {quiet : State → Member × Event → Prop}

/-- A member goes through its own events alone as it does among the others, if its view
goes on agreeing with the state it would be in alone. Induct along the run: an event of
the member is a step on both sides, any other one a step on one side only. -/
theorem run_alone (shares : Shares component whole view)
    (keeps : ∀ state event, whole.admits state event → invariant state →
      invariant (whole.step state event))
    (own : ∀ seen alone event, agrees seen alone → component.admits seen event →
      component.admits alone event ∧
        agrees (component.step seen event) (component.step alone event))
    (other : ∀ state actor event alone, actor ≠ member → whole.admits state (actor, event) →
      invariant state → quiet state (actor, event) → agrees (view state member) alone →
      agrees (view (whole.step state (actor, event)) member) alone)
    {state final : State} {events : List (Member × Event)} (run : Run whole state events final)
    (along : Along whole quiet state events) (initially : invariant state) {alone : Local}
    (agreeing : agrees (view state member) alone) :
    Run component alone (ownEvents member events)
        (after component alone (ownEvents member events)) ∧
      agrees (view final member) (after component alone (ownEvents member events)) := by
  induction run generalizing alone with
  | done state => exact ⟨.done alone, agreeing⟩
  | @next state final event events admitted rest inductionHypothesis =>
    obtain ⟨actor, event⟩ := event
    have still := keeps state (actor, event) admitted initially
    by_cases same : actor = member
    · subst same
      obtain ⟨possible, onwards⟩ :=
        own _ alone event agreeing (shares.admits state actor event admitted)
      rw [← shares.own state actor event admitted] at onwards
      obtain ⟨ran, reached⟩ := inductionHypothesis along.2 still onwards
      have events_eq : ownEvents actor ((actor, event) :: events) =
          event :: ownEvents actor events := by
        simp [ownEvents]
      rw [events_eq]
      exact ⟨.next possible ran, reached⟩
    · have skipped : ownEvents member ((actor, event) :: events) = ownEvents member events := by
        simp [ownEvents, same]
      rw [skipped]
      exact inductionHypothesis along.2 still
        (other state actor event alone same admitted initially along.1 agreeing)

end Alone

/-- Conditions that each hold along some events hold together along them. -/
theorem along_forall {Index : Type u} {Shared : Type v} {Action : Type x}
    {system : System Shared Action} {chosen : Index → Prop}
    {condition : Index → Shared → Action → Prop} {state : Shared} {events : List Action}
    (each : ∀ index, chosen index → Along system (condition index) state events) :
    Along system (fun state event => ∀ index, chosen index → condition index state event)
      state events := by
  induction events generalizing state with
  | nil => trivial
  | cons event events inductionHypothesis =>
    exact ⟨fun index isChosen => (each index isChosen).1,
      inductionHypothesis fun index isChosen => (each index isChosen).2⟩

end Plugpp.Interleaving
