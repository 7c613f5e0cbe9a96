import Mathlib.Logic.Function.Basic

/-!
# A directory of names and their holders

A directory knows its live owners, each enrolled under one name with one value,
and which names are held: by an owner or by something external. Only a live owner
enrolled under a name can hold it; the structure carries that as a field, so a
binding that leads to a dead owner cannot be written down.

Enrolling binds the name only where it is unheld. Closing an owner ends its life
and releases its name *by name*, whoever holds it. The laws say when that loses
no one else's binding, and how long an owner keeps its name.

Names, owners, values and external holders are arbitrary.
-/

namespace Plugpp

universe u v w x
variable {Name : Type u} {Owner : Type v} {Value : Type w} {External : Type x}

/-- Live owners with their names and values, and the holders of names. -/
structure Directory (Name : Type u) (Owner : Type v) (Value : Type w) (External : Type x) where
  live : Owner → Option (Name × Value)
  holder : Name → Option (External ⊕ Owner)
  sound : ∀ name owner, holder name = some (.inr owner) →
    ∃ value, live owner = some (name, value)

namespace Directory

/-- Equal lives and holders make equal directories. -/
theorem ext_fields {left right : Directory Name Owner Value External}
    (live : left.live = right.live) (holder : left.holder = right.holder) : left = right := by
  cases left
  cases right
  cases live
  cases holder
  rfl

variable [DecidableEq Name] [DecidableEq Owner]

/-- A new owner under a name; the name is bound to it unless it is held already. -/
def enrol (directory : Directory Name Owner Value External) (owner : Owner) (name : Name)
    (value : Value) (fresh : directory.live owner = none) :
    Directory Name Owner Value External where
  live := Function.update directory.live owner (some (name, value))
  holder := fun asked =>
    if asked = name ∧ directory.holder name = none then some (.inr owner)
    else directory.holder asked
  sound := by
    intro asked found held
    by_cases taken : asked = name ∧ directory.holder name = none
    · have same : owner = found := by simpa [taken] using held
      obtain ⟨rfl, _⟩ := taken
      subst same
      exact ⟨value, by simp⟩
    · simp only [taken, ↓reduceIte] at held
      obtain ⟨enrolled, isLive⟩ := directory.sound asked found held
      have different : found ≠ owner := by
        rintro rfl
        simp [fresh] at isLive
      exact ⟨enrolled, by simpa [Function.update_of_ne different] using isLive⟩

/-- The name is held by no one. -/
def release (directory : Directory Name Owner Value External) (name : Name) :
    Directory Name Owner Value External where
  live := directory.live
  holder := Function.update directory.holder name none
  sound := by
    intro asked owner held
    by_cases same : asked = name
    · subst same
      simp at held
    · rw [Function.update_of_ne same] at held
      exact directory.sound asked owner held

/-- The owner's name is released, whoever holds it, and the owner ends. -/
def close (directory : Directory Name Owner Value External) (owner : Owner) (name : Name)
    (enrolled : ∃ value, directory.live owner = some (name, value)) :
    Directory Name Owner Value External where
  live := Function.update directory.live owner none
  holder := Function.update directory.holder name none
  sound := by
    intro asked found held
    by_cases same : asked = name
    · subst same
      simp at held
    · rw [Function.update_of_ne same] at held
      obtain ⟨value, isLive⟩ := directory.sound asked found held
      have different : found ≠ owner := by
        rintro rfl
        obtain ⟨_, atName⟩ := enrolled
        rw [atName] at isLive
        exact same (Prod.mk.inj (Option.some.inj isLive)).1.symm
      exact ⟨value, by simpa [Function.update_of_ne different] using isLive⟩

/-- Closing an owner changes only bindings that lead to it exactly when its name
is unheld or held by the owner itself: the name is all that closing releases. -/
theorem close_own_iff (directory : Directory Name Owner Value External) (owner : Owner)
    (name : Name) (enrolled : ∃ value, directory.live owner = some (name, value)) :
    (∀ asked, (directory.close owner name enrolled).holder asked ≠ directory.holder asked →
      directory.holder asked = some (.inr owner)) ↔
      directory.holder name = none ∨ directory.holder name = some (.inr owner) := by
  constructor
  · intro own
    by_cases unheld : directory.holder name = none
    · exact Or.inl unheld
    · exact Or.inr (own name (by simpa [close, eq_comm] using unheld))
  · intro undisputed asked changed
    by_cases same : asked = name
    · subst same
      cases undisputed with
      | inl unheld => simp [close, unheld] at changed
      | inr own => exact own
    · exact absurd (Function.update_of_ne same _ _) changed

/-- Enrolling another owner leaves a held name with its holder. -/
theorem enrol_keeps (directory : Directory Name Owner Value External) (owner other : Owner)
    (name enrolled : Name) (value : Value) (fresh : directory.live other = none)
    (held : directory.holder name = some (.inr owner)) :
    (directory.enrol other enrolled value fresh).holder name = some (.inr owner) := by
  have unavailable : ¬ (name = enrolled ∧ directory.holder enrolled = none) := by
    rintro ⟨rfl, unheld⟩
    simp [held] at unheld
  simp [enrol, unavailable, held]

omit [DecidableEq Owner] in
/-- Releasing another name leaves a held name with its holder. -/
theorem release_keeps (directory : Directory Name Owner Value External) (owner : Owner)
    (name released : Name) (different : released ≠ name)
    (held : directory.holder name = some (.inr owner)) :
    (directory.release released).holder name = some (.inr owner) := by
  simpa [release, Function.update_of_ne (Ne.symm different)] using held

/-- Closing another owner whose name is unheld or its own leaves a held name with
its holder: the released name is then a different one. -/
theorem close_keeps (directory : Directory Name Owner Value External) (owner other : Owner)
    (name closed : Name) (enrolled : ∃ value, directory.live other = some (closed, value))
    (different : other ≠ owner)
    (undisputed : directory.holder closed = none ∨ directory.holder closed = some (.inr other))
    (held : directory.holder name = some (.inr owner)) :
    (directory.close other closed enrolled).holder name = some (.inr owner) := by
  have otherName : name ≠ closed := by
    rintro rfl
    cases undisputed with
    | inl unheld => simp [unheld] at held
    | inr own =>
      rw [own] at held
      exact different (Sum.inr.inj (Option.some.inj held))
  simpa [close, Function.update_of_ne otherName] using held

end Directory
end Plugpp
