import Mathlib.Algebra.Ring.Nat

/-!
# Splitting an amount into units

An amount is counted in the largest unit first, what is left of it in the next,
and so on; what is left in the end stands for itself. The units need not divide
one another, so a count may be larger than the quotient of its unit and the one
before suggests: it is bounded by how often the unit fits strictly below the one
before it.

Counts and remainder always make the amount again.
-/

namespace Plugpp.Units

/-- How often each unit fits into what the units before it have left, and the rest. -/
def split : List Nat → Nat → List Nat
  | [], amount => [amount]
  | unit :: units, amount => amount / unit :: split units (amount % unit)

/-- The amount that counts and a rest make together. -/
def total : List Nat → List Nat → Nat
  | unit :: units, count :: counts => count * unit + total units counts
  | _, counts => counts.sum

/-- Each count stays, in its unit, below the unit before it. -/
def Below : Nat → List Nat → List Nat → Prop
  | bound, unit :: units, count :: counts => count * unit < bound ∧ Below unit units counts
  | bound, _, counts => ∀ count ∈ counts, count < bound

/-- Nothing is lost by splitting. -/
theorem total_split (units : List Nat) (amount : Nat) :
    total units (split units amount) = amount := by
  induction units generalizing amount with
  | nil => simp [split, total]
  | cons unit units inductionHypothesis =>
    rw [split, total, inductionHypothesis, Nat.mul_comm]
    exact Nat.div_add_mod amount unit

/-- Counts of an amount below a bound stay below the bound, each in its unit. -/
theorem split_below (units : List Nat) (positive : ∀ unit ∈ units, 0 < unit) (bound amount : Nat)
    (small : amount < bound) : Below bound units (split units amount) := by
  induction units generalizing bound amount with
  | nil => simpa [split, Below] using small
  | cons unit units inductionHypothesis =>
    have unitPositive := positive unit (by simp)
    have unitsPositive := fun unit member => positive unit (List.mem_cons_of_mem _ member)
    refine ⟨?_, ?_⟩
    · exact Nat.lt_of_le_of_lt (Nat.div_mul_le_self amount unit) small
    · exact inductionHypothesis unitsPositive unit _ (Nat.mod_lt amount unitPositive)

/-! ## The leading counts -/

end Plugpp.Units
