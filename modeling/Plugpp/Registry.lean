import Mathlib.Data.Finset.Card
import Plugpp.Directory
import Plugpp.Runs

/-!
# A registry with room for a number of owners

A registry is a directory together with the finite set of its live owners. It takes
in a new owner while fewer owners are live than it has room for, and otherwise stays
as it is; it closes an owner and releases a name as the directory does. Nothing else
decides what happens to it: there are no places that owners are kept in.

Names, owners, values and external holders are arbitrary.
-/

namespace Plugpp

open Runs

universe u v w x
variable {Name : Type u} {Owner : Type v} {Value : Type w} {External : Type x}

/-- A directory and its live owners. -/
structure Registry (Name : Type u) (Owner : Type v) (Value : Type w) (External : Type x) where
  directory : Directory Name Owner Value External
  owners : Finset Owner
  counted : ∀ owner, owner ∈ owners ↔ directory.live owner ≠ none

namespace Registry

/-- What can happen to a registry. -/
inductive Action (Name : Type u) (Owner : Type v) (Value : Type w) where
  | enrol (owner : Owner) (name : Name) (value : Value) (replace : Bool)
  | close (owner : Owner)
  | release (name : Name)

/-- Equal directories and owners make equal registries. -/
theorem ext_fields {left right : Registry Name Owner Value External}
    (directory : left.directory = right.directory) (owners : left.owners = right.owners) :
    left = right := by
  cases left
  cases right
  cases directory
  cases owners
  rfl

/-- No owners, and names held from outside only. -/
def vacant (external : Name → Option External) : Registry Name Owner Value External where
  directory :=
    { live := fun _ => none
      holder := fun name => (external name).map .inl
      sound := by simp }
  owners := ∅
  counted := by simp

variable [DecidableEq Name] [DecidableEq Owner]

/-- A new owner under a name that is released before, if the owner replaces. -/
def enrol (registry : Registry Name Owner Value External) (owner : Owner) (name : Name)
    (value : Value) (replace : Bool)
    (fresh : (if replace then registry.directory.release name else registry.directory).live owner =
      none) : Registry Name Owner Value External where
  directory := (if replace then registry.directory.release name else registry.directory).enrol
    owner name value fresh
  owners := insert owner registry.owners
  counted := by
    intro other
    by_cases same : other = owner
    · simp [same, Directory.enrol]
    · cases replace <;> simp [same, Directory.enrol, Directory.release, registry.counted]

/-- The owner ends and its name is released. -/
def close (registry : Registry Name Owner Value External) (owner : Owner) (name : Name)
    (enrolled : ∃ value, registry.directory.live owner = some (name, value)) :
    Registry Name Owner Value External where
  directory := registry.directory.close owner name enrolled
  owners := registry.owners.erase owner
  counted := by
    intro other
    by_cases same : other = owner
    · simp [same, Directory.close]
    · simp [same, Directory.close, registry.counted]

/-- The name is held by no one. -/
def release (registry : Registry Name Owner Value External) (name : Name) :
    Registry Name Owner Value External where
  directory := registry.directory.release name
  owners := registry.owners
  counted := registry.counted

omit [DecidableEq Owner] in
/-- Replacing does not make an owner live. -/
theorem unknown_of_fresh (registry : Registry Name Owner Value External) {owner : Owner}
    (fresh : registry.directory.live owner = none) (name : Name) (replace : Bool) :
    (if replace then registry.directory.release name else registry.directory).live owner =
      none := by
  cases replace <;> exact fresh

/-- New owners are unknown ones, and only live owners are closed. -/
def Admits (registry : Registry Name Owner Value External) : Action Name Owner Value → Prop
  | .enrol owner _ _ _ => registry.directory.live owner = none
  | .close owner => registry.directory.live owner ≠ none
  | .release _ => True

/-- The registry after an action. Without room a new owner is refused. -/
def step (capacity : Nat) (registry : Registry Name Owner Value External) :
    Action Name Owner Value → Registry Name Owner Value External
  | .enrol owner name value replace =>
    if fresh : registry.directory.live owner = none then
      if registry.owners.card < capacity then
        registry.enrol owner name value replace (registry.unknown_of_fresh fresh name replace)
      else registry
    else registry
  | .close owner =>
    match enrolled : registry.directory.live owner with
    | some (name, value) => registry.close owner name ⟨value, enrolled⟩
    | none => registry
  | .release name => registry.release name

/-- Enrolling, closing and releasing on registries. -/
def system (capacity : Nat) :
    System (Registry Name Owner Value External) (Action Name Owner Value) where
  admits := Admits
  step := step capacity

/-- With room, a new owner is enrolled. -/
theorem step_enrol {capacity : Nat} {registry : Registry Name Owner Value External} {owner : Owner}
    (fresh : registry.directory.live owner = none) (room : registry.owners.card < capacity)
    (name : Name) (value : Value) (replace : Bool) :
    step capacity registry (.enrol owner name value replace) =
      registry.enrol owner name value replace (registry.unknown_of_fresh fresh name replace) := by
  simp [step, fresh, room]

/-- Without room, a new owner is refused. -/
theorem step_refuse {capacity : Nat} {registry : Registry Name Owner Value External}
    (full : capacity ≤ registry.owners.card) (owner : Owner) (name : Name) (value : Value)
    (replace : Bool) : step capacity registry (.enrol owner name value replace) = registry := by
  simp [step, Nat.not_lt.mpr full]

/-- A live owner is closed under its name. -/
theorem step_close {capacity : Nat} {registry : Registry Name Owner Value External} {owner : Owner}
    {name : Name} (enrolled : ∃ value, registry.directory.live owner = some (name, value)) :
    step capacity registry (.close owner) = registry.close owner name enrolled := by
  obtain ⟨value, isLive⟩ := enrolled
  show (match enrolled : registry.directory.live owner with
    | some (name, value) => registry.close owner name ⟨value, enrolled⟩
    | none => registry) = _
  split
  · next found enrolledValue atOwner =>
    obtain ⟨rfl, rfl⟩ : found = name ∧ enrolledValue = value := by simpa [atOwner] using isLive
    rfl
  · next absent => simp [absent] at isLive

end Registry
end Plugpp
