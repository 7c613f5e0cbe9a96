import Mathlib.Data.List.Nodup
import Mathlib.Data.List.Perm.Basic

/-!
# The only match in a list

`only` is the element of a list that satisfies a predicate, if exactly one does. It
does not depend on the order of the list, and looking at the elements through a
function does not change it. The first match is the only one exactly if there are
not two. Where some places have no element, the first match is looked for among the
rest.

Elements count by their places: an element that stands in a list twice matches twice.
-/

namespace Plugpp.OnlyMatch

universe u v
variable {α : Type u} {β : Type v}

/-- The element that satisfies a predicate, if exactly one does. -/
def only (matching : α → Bool) (list : List α) : Option α :=
  match list.filter matching with
  | [element] => some element
  | _ => none

/-- The only match is the single element that the predicate leaves. -/
theorem only_eq_some_iff (matching : α → Bool) (list : List α) (element : α) :
    only matching list = some element ↔ list.filter matching = [element] := by
  unfold only
  match list.filter matching with
  | [] => simp
  | [single] => simp
  | first :: second :: rest => simp

/-- In a list without repetitions, the only match is the element that matches while
every match is it. -/
theorem only_nodup_iff (matching : α → Bool) (list : List α) (nodup : list.Nodup) (element : α) :
    only matching list = some element ↔
      element ∈ list ∧ matching element = true ∧
        ∀ other ∈ list, matching other = true → other = element := by
  rw [only_eq_some_iff, ← List.perm_singleton, List.perm_ext_iff_of_nodup (nodup.filter _)
    (List.nodup_singleton element)]
  simp only [List.mem_filter, List.mem_singleton]
  constructor
  · intro exactly
    obtain ⟨member, satisfies⟩ := (exactly element).mpr rfl
    exact ⟨member, satisfies, fun other isOther isMatch => (exactly other).mp ⟨isOther, isMatch⟩⟩
  · rintro ⟨member, satisfies, alone⟩ other
    constructor
    · rintro ⟨isOther, isMatch⟩
      exact alone other isOther isMatch
    · rintro rfl
      exact ⟨member, satisfies⟩

/-- The order of the list does not matter. -/
theorem only_perm (matching : α → Bool) {left right : List α} (rearranged : left.Perm right) :
    only matching left = only matching right := by
  ext element
  rw [only_eq_some_iff, only_eq_some_iff, ← List.perm_singleton, ← List.perm_singleton]
  have filtered := rearranged.filter matching
  exact ⟨fun single => filtered.symm.trans single, fun single => filtered.trans single⟩

/-- A match may be looked for through a function. -/
theorem only_map (matching : β → Bool) (view : α → β) (list : List α) :
    only matching (list.map view) = (only (matching ∘ view) list).map view := by
  unfold only
  rw [List.filter_map]
  match list.filter (matching ∘ view) with
  | [] => rfl
  | [single] => rfl
  | first :: second :: rest => rfl

/-- Another element in front is the only match if it matches and no other does. -/
theorem only_cons (matching : α → Bool) (first : α) (rest : List α) :
    only matching (first :: rest) =
      if matching first then if rest.any matching then none else some first
      else only matching rest := by
  cases here : matching first with
  | false => simp [only, here]
  | true =>
    cases later : rest.filter matching with
    | nil =>
      have nothing : rest.any matching = false := by
        simpa [List.filter_eq_nil_iff] using later
      simp [only, here, later, nothing]
    | cons second others =>
      have something : rest.any matching = true := by
        rw [List.any_eq_true]
        have member : second ∈ rest.filter matching := by simp [later]
        exact ⟨second, List.mem_filter.mp member⟩
      simp [only, here, later, something]

/-- The first match is the only one if there are not two, and otherwise there is no
only one. -/
theorem find?_eq_only_iff (matching : α → Bool) (list : List α) :
    list.find? matching = only matching list ↔ (list.filter matching).length ≤ 1 := by
  rw [← List.head?_filter]
  unfold only
  match list.filter matching with
  | [] => simp
  | [single] => simp
  | first :: second :: rest => simp

/-- The first match among places of which some have no element. -/
theorem findSome?_filter_iff (matching : α → Bool) (places : List (Option α)) (element : α) :
    places.findSome? (Option.filter matching) = some element ↔
      ∃ place : Nat, places[place]? = some (some element) ∧ matching element = true ∧
        ∀ earlier < place, ∀ other, places[earlier]? = some (some other) →
          matching other = false := by
  rw [List.findSome?_eq_some_iff]
  constructor
  · rintro ⟨before, found, after, rfl, kept, absent⟩
    obtain ⟨rfl, isMatch⟩ := Option.filter_eq_some_iff.mp kept
    refine ⟨before.length, by simp, isMatch, ?_⟩
    intro earlier below other stands
    rw [List.getElem?_append_left below] at stands
    simpa using absent _ (List.mem_of_getElem? stands)
  · rintro ⟨place, stands, isMatch, absent⟩
    obtain ⟨inside, here⟩ := List.getElem?_eq_some_iff.mp stands
    refine ⟨places.take place, some element, places.drop (place + 1), ?_, ?_, ?_⟩
    · rw [← here, ← List.drop_eq_getElem_cons inside, List.take_append_drop]
    · exact Option.filter_eq_some_iff.mpr ⟨rfl, isMatch⟩
    · intro slot member
      obtain ⟨earlier, below, rfl⟩ := List.mem_iff_getElem.mp member
      rw [List.length_take] at below
      rw [List.getElem_take]
      cases here : places[earlier] with
      | none => rfl
      | some other =>
        have differs := absent earlier (by omega) other (List.getElem?_eq_some_iff.mpr ⟨_, here⟩)
        simp [Option.filter, differs]

end Plugpp.OnlyMatch
