import Mathlib.Data.List.Perm.Subperm
import Mathlib.Data.List.Nodup

/-!
# A fixed pool of slots

A pool is a list of slots, each free or held by one owner. Claiming takes the
first free slot; vacating frees a given one. An assignment lists every owner with
its slot. The laws keep the assignment exact through claims and vacations, and
show that a claim succeeds exactly while fewer owners are assigned than there
are slots: nothing is leaked and nothing is shared, whatever the order.

Owners are arbitrary; the pool's length never changes.
-/

namespace Plugpp.Slots

universe u
variable {Owner : Type u}

/-- Take the first free slot. -/
def claim (owner : Owner) : List (Option Owner) → Option (List (Option Owner) × Nat)
  | [] => none
  | none :: rest => some (some owner :: rest, 0)
  | some other :: rest =>
      (claim owner rest).map fun taken => (some other :: taken.1, taken.2 + 1)

/-- A claim fails exactly when no slot is free. -/
theorem claim_none_iff (owner : Owner) (pool : List (Option Owner)) :
    claim owner pool = none ↔ none ∉ pool := by
  induction pool with
  | nil => simp [claim]
  | cons slot rest inductionHypothesis =>
    cases slot <;> simp [claim, inductionHypothesis]

/-- A successful claim fills one slot that was free and alters no other. -/
theorem claim_some (owner : Owner) (pool taken : List (Option Owner)) (slot : Nat)
    (claimed : claim owner pool = some (taken, slot)) :
    pool[slot]? = some none ∧ taken = pool.set slot (some owner) := by
  induction pool generalizing taken slot with
  | nil => simp [claim] at claimed
  | cons first rest inductionHypothesis =>
    cases first with
    | none =>
      obtain ⟨rfl, rfl⟩ : some owner :: rest = taken ∧ 0 = slot := by simpa [claim] using claimed
      simp
    | some other =>
      simp only [claim, Option.map_eq_some_iff] at claimed
      obtain ⟨⟨tail, previous⟩, later, same⟩ := claimed
      obtain ⟨rfl, rfl⟩ := Prod.mk.inj same
      obtain ⟨free, rfl⟩ := inductionHypothesis tail previous later
      simp [free]

/-- A claim takes the first free slot: those before it are held. -/
theorem claim_first (owner : Owner) (pool taken : List (Option Owner)) (slot : Nat)
    (claimed : claim owner pool = some (taken, slot)) :
    ∀ position < slot, ∃ other, pool[position]? = some (some other) := by
  induction pool generalizing taken slot with
  | nil => simp [claim] at claimed
  | cons first rest inductionHypothesis =>
    cases first with
    | none =>
      obtain ⟨_, rfl⟩ : some owner :: rest = taken ∧ 0 = slot := by simpa [claim] using claimed
      simp
    | some other =>
      simp only [claim, Option.map_eq_some_iff] at claimed
      obtain ⟨⟨tail, previous⟩, later, same⟩ := claimed
      obtain ⟨_, rfl⟩ := Prod.mk.inj same
      intro position before
      cases position with
      | zero => exact ⟨other, rfl⟩
      | succ position => simpa using inductionHypothesis tail previous later position (by omega)

/-- The assignment lists exactly the held slots, each owner once. -/
structure Assigns (pool : List (Option Owner)) (assigned : List (Owner × Nat)) : Prop where
  occupied : ∀ owner slot, pool[slot]? = some (some owner) ↔ (owner, slot) ∈ assigned
  owners : (assigned.map Prod.fst).Nodup

variable {pool : List (Option Owner)} {assigned : List (Owner × Nat)}

/-- An empty pool's assignment is empty. -/
theorem assigns_free (capacity : Nat) :
    Assigns (List.replicate capacity (none : Option Owner)) [] where
  occupied owner slot := by simp [List.getElem?_replicate]
  owners := List.nodup_nil

/-- Two owners never share a slot: the slot holds one of them. -/
theorem slot_injective (exact : Assigns pool assigned) {left right : Owner} {slot : Nat}
    (leftAssigned : (left, slot) ∈ assigned) (rightAssigned : (right, slot) ∈ assigned) :
    left = right := by
  have leftHeld := (exact.occupied left slot).mpr leftAssigned
  have rightHeld := (exact.occupied right slot).mpr rightAssigned
  simpa using leftHeld.symm.trans rightHeld

/-- An owner has one slot: it is listed once. -/
theorem owner_injective (exact : Assigns pool assigned) {owner : Owner} {left right : Nat}
    (leftAssigned : (owner, left) ∈ assigned) (rightAssigned : (owner, right) ∈ assigned) :
    left = right := by
  have same := List.inj_on_of_nodup_map exact.owners leftAssigned rightAssigned rfl
  exact (Prod.mk.inj same).2

/-- The assigned slots are distinct. -/
theorem slots_nodup (exact : Assigns pool assigned) : (assigned.map Prod.snd).Nodup := by
  refine List.Nodup.map_on ?_ (List.Nodup.of_map _ exact.owners)
  rintro ⟨left, slot⟩ leftAssigned ⟨right, _⟩ rightAssigned rfl
  rw [slot_injective exact leftAssigned rightAssigned]

/-- Fewer owners than slots means that a slot is free, and conversely.

The assigned slots are distinct positions of the pool. If none is free they are
all of its positions; if one is free they are among the others. -/
theorem free_iff_room (exact : Assigns pool assigned) :
    none ∈ pool ↔ assigned.length < pool.length := by
  have distinct := slots_nodup exact
  constructor
  · intro free
    obtain ⟨slot, inside, isFree⟩ := List.mem_iff_getElem.mp free
    have among : slot :: assigned.map Prod.snd ⊆ List.range pool.length := by
      intro position member
      rcases List.mem_cons.mp member with rfl | member
      · exact List.mem_range.mpr inside
      · obtain ⟨⟨owner, _⟩, isAssigned, rfl⟩ := List.mem_map.mp member
        have held := (exact.occupied owner _).mpr isAssigned
        exact List.mem_range.mpr (List.getElem?_eq_some_iff.mp held).1
    have fresh : slot ∉ assigned.map Prod.snd := by
      intro member
      obtain ⟨⟨owner, _⟩, isAssigned, rfl⟩ := List.mem_map.mp member
      have held := (exact.occupied owner _).mpr isAssigned
      simp [List.getElem?_eq_getElem inside, isFree] at held
    have fits := (List.subperm_of_subset (List.nodup_cons.mpr ⟨fresh, distinct⟩) among).length_le
    simp only [List.length_cons, List.length_map, List.length_range] at fits
    omega
  · intro room
    by_contra full
    have covers : List.range pool.length ⊆ assigned.map Prod.snd := by
      intro position member
      have inside := List.mem_range.mp member
      cases held : pool[position] with
      | none => exact absurd (held ▸ List.getElem_mem inside) full
      | some owner =>
        have lookup : pool[position]? = some (some owner) := by
          rw [List.getElem?_eq_getElem inside, held]
        exact List.mem_map.mpr ⟨(owner, position), (exact.occupied owner position).mp lookup, rfl⟩
    have fits := (List.subperm_of_subset List.nodup_range covers).length_le
    simp only [List.length_range, List.length_map] at fits
    omega

/-- A claimed slot is at most as far from the first as there are owners: each slot before
it is one of theirs. -/
theorem claim_within (exact : Assigns pool assigned) {owner : Owner}
    {taken : List (Option Owner)} {slot : Nat} (claimed : claim owner pool = some (taken, slot)) :
    slot ≤ assigned.length := by
  have among : List.range slot ⊆ assigned.map Prod.snd := by
    intro position member
    obtain ⟨other, held⟩ := claim_first owner pool taken slot claimed position
      (List.mem_range.mp member)
    exact List.mem_map.mpr ⟨(other, position), (exact.occupied other position).mp held, rfl⟩
  have fits := (List.subperm_of_subset List.nodup_range among).length_le
  simpa using fits

/-- There are at most as many owners as slots. -/
theorem assigned_fits (exact : Assigns pool assigned) : assigned.length ≤ pool.length := by
  have among : assigned.map Prod.snd ⊆ List.range pool.length := by
    intro position member
    obtain ⟨⟨owner, _⟩, isAssigned, rfl⟩ := List.mem_map.mp member
    have held := (exact.occupied owner _).mpr isAssigned
    exact List.mem_range.mpr (List.getElem?_eq_some_iff.mp held).1
  have fits := (List.subperm_of_subset (slots_nodup exact) among).length_le
  simpa using fits

/-- A claim by a new owner extends the assignment by the claimed slot. -/
theorem assigns_claim (exact : Assigns pool assigned) (owner : Owner) (slot : Nat)
    (free : pool[slot]? = some none) (fresh : owner ∉ assigned.map Prod.fst) :
    Assigns (pool.set slot (some owner)) ((owner, slot) :: assigned) where
  occupied other position := by
    have inside := (List.getElem?_eq_some_iff.mp free).1
    by_cases here : slot = position
    · subst here
      have unassigned : (other, slot) ∉ assigned := by
        intro member
        have held := (exact.occupied other slot).mpr member
        simp [free] at held
      simp [List.getElem?_set_self inside, unassigned, eq_comm]
    · rw [List.getElem?_set_ne here, exact.occupied]
      simp [Ne.symm here]
  owners := List.nodup_cons.mpr ⟨fresh, exact.owners⟩

/-- Vacating an owner's slot removes exactly that owner from the assignment. -/
theorem assigns_vacate [DecidableEq Owner] (exact : Assigns pool assigned) (owner : Owner)
    (slot : Nat) (isAssigned : (owner, slot) ∈ assigned) :
    Assigns (pool.set slot none) (assigned.filter fun entry => entry.1 ≠ owner) where
  occupied other position := by
    have inside := (List.getElem?_eq_some_iff.mp ((exact.occupied owner slot).mpr isAssigned)).1
    simp only [List.mem_filter, ne_eq, decide_eq_true_eq]
    by_cases here : slot = position
    · subst here
      simp only [List.getElem?_set_self inside, Option.some.injEq, reduceCtorEq, false_iff, not_and,
        not_not]
      intro member
      exact slot_injective exact member isAssigned
    · rw [List.getElem?_set_ne here, exact.occupied]
      constructor
      · intro member
        refine ⟨member, ?_⟩
        rintro rfl
        exact here (owner_injective exact isAssigned member)
      · exact And.left
  owners := by
    have sub : ((assigned.filter fun entry => entry.1 ≠ owner).map Prod.fst).Sublist
        (assigned.map Prod.fst) := List.filter_sublist.map _
    exact sub.nodup exact.owners

end Plugpp.Slots
