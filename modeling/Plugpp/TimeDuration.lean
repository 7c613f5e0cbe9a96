import Mathlib.Algebra.Order.BigOperators.GroupWithZero.List
import Mathlib.Algebra.Order.Ring.Int
import Plugpp.Units

/-!
# Durations in fractions

The constructor of `TimeDuration` counts years of 365 days, months of 30 days, days,
hours, minutes and seconds. The seconds are a 64-bit number, the fractions are
`int`, and so are the products that turn a fraction back into seconds: each
expression subtracts the products of all fractions before it from the whole.

The product of the years leaves the range of `int` first, at 69 years. Below that
the fractions are the splitting of the whole into these units.
-/

namespace Plugpp

/-- An `int` product. None is signed overflow, which has no defined result. -/
def mulInt (left right : Int) : Option Int :=
  if -2 ^ 31 ≤ left * right ∧ left * right < 2 ^ 31 then some (left * right) else none

/-- `value * a * b * …` in `int`, evaluated from the left. -/
def product (value : Int) (factors : List Int) : Option Int := factors.foldlM mulInt value

/-- `timeSec - value * a * … - value * b * …`, where the products are `int` and the
subtractions are made in 64 bits. -/
def minus (timeSec : UInt64) : List (Int × List Int) → Option UInt64
  | [] => some timeSec
  | (value, factors) :: terms => do
      let subtrahend ← product value factors
      minus (timeSec - UInt64.ofInt subtrahend) terms

/-- `std::floor` of a whole number, converted to `int`. None is a value outside the
range of `int`, for which the conversion is not defined; inside it, the `double` on
the way is exact. -/
def floorInt (value : UInt64) : Option Int :=
  if value.toNat < 2 ^ 31 then some value.toNat else none

/-- `TimeDuration::Fraction`. -/
inductive Fraction where
  | years
  | months
  | days
  | hours
  | minutes
  | seconds
deriving DecidableEq

/-- `static_cast<int>` of a fraction. -/
def Fraction.toInt : Fraction → Int
  | years => 0
  | months => 1
  | days => 2
  | hours => 3
  | minutes => 4
  | seconds => 5

/-- `TimeDuration`. -/
structure TimeDuration where
  mFractions : Vector Int 6
deriving DecidableEq

namespace TimeDuration

/-- The constructor, given the count of the duration in whole seconds. None is an
expression without a defined value. -/
def construct (count : Int64) : Option TimeDuration := do
  let timeSec := count.toUInt64
  let years ← floorInt (timeSec / (365 * 60 * 60 * 24))
  let beforeMonths ← minus timeSec [(years, [365, 60, 60, 24])]
  let months ← floorInt (beforeMonths / (30 * 60 * 60 * 24))
  let beforeDays ← minus timeSec [(years, [365, 60, 60, 24]), (months, [30, 60, 60, 24])]
  let days ← floorInt (beforeDays / (60 * 60 * 24))
  let beforeHours ← minus timeSec
    [(years, [365, 60, 60, 24]), (months, [30, 60, 60, 24]), (days, [60, 60, 24])]
  let hours ← floorInt (beforeHours / (60 * 60))
  let beforeMinutes ← minus timeSec
    [(years, [365, 60, 60, 24]), (months, [30, 60, 60, 24]), (days, [60, 60, 24]),
      (hours, [60, 60])]
  let minutes ← floorInt (beforeMinutes / 60)
  let beforeSeconds ← minus timeSec
    [(years, [365, 60, 60, 24]), (months, [30, 60, 60, 24]), (days, [60, 60, 24]),
      (hours, [60, 60]), (minutes, [60])]
  let seconds ← floorInt beforeSeconds
  return ⟨#v[years, months, days, hours, minutes, seconds]⟩

/-- `getFractionAmount`. -/
def getFractionAmount (time : TimeDuration) (fraction : Fraction) : Int :=
  let index := fraction.toInt
  if outside : index < 0 ∨ index > 6 - 1 then -1
  else time.mFractions.get ⟨index.toNat, by omega⟩

end TimeDuration

/-- A product of non-negative numbers is exact in the range of `int` and overflows on
the way to a number beyond it: no product on the way is larger than the last. -/
theorem product_exact (value : Int) (factors : List Int) (nonnegative : 0 ≤ value)
    (inside : value < 2 ^ 31) (positive : ∀ factor ∈ factors, 0 < factor) :
    product value factors =
      if value * factors.prod < 2 ^ 31 then some (value * factors.prod) else none := by
  induction factors generalizing value with
  | nil =>
    rw [List.prod_nil, mul_one, if_pos inside]
    rfl
  | cons factor factors inductionHypothesis =>
    have round : product value (factor :: factors) =
        (mulInt value factor).bind (product · factors) := rfl
    have factorPositive := positive factor (by simp)
    have restPositive : ∀ factor ∈ factors, 0 < factor :=
      fun factor member => positive factor (List.mem_cons_of_mem _ member)
    have productNonnegative : 0 ≤ value * factor := Int.mul_nonneg nonnegative factorPositive.le
    rw [round, List.prod_cons, ← mul_assoc]
    by_cases fits : value * factor < 2 ^ 31
    · have exact : mulInt value factor = some (value * factor) := by
        rw [mulInt, if_pos ⟨by omega, fits⟩]
      rw [exact, Option.bind_some]
      exact inductionHypothesis (value * factor) productNonnegative fits restPositive
    · have overflow : mulInt value factor = none := by
        rw [mulInt, if_neg (fun range => fits range.2)]
      have larger : value * factor ≤ value * factor * factors.prod :=
        le_mul_of_one_le_right productNonnegative (List.prod_pos restPositive)
      rw [overflow, Option.bind_none, if_neg (by omega)]

/-- A non-negative `int` keeps its value as a 64-bit operand. -/
theorem toNat_ofInt (value : Nat) (small : value < 2 ^ 64) :
    (UInt64.ofInt value).toNat = value := by
  rw [UInt64.ofInt, UInt64.toNat_ofNat']
  omega

/-- One fraction: how often its unit fits, and what is left when its product is
subtracted. -/
theorem fraction_step (remaining unit : UInt64) (size : Nat) (isSize : unit.toNat = size)
    (factors : List Int) (positive : ∀ factor ∈ factors, 0 < factor) (whole : factors.prod = size)
    (fits : remaining.toNat / size * size < 2 ^ 31) :
    floorInt (remaining / unit) = some ↑(remaining.toNat / size) ∧
      ∃ rest : UInt64, rest.toNat = remaining.toNat % size ∧
        ∀ terms, minus remaining ((↑(remaining.toNat / size), factors) :: terms) =
          minus rest terms := by
  have sizePositive : 0 < size := by
    have above := List.prod_pos positive
    omega
  have small : remaining.toNat / size < 2 ^ 31 :=
    Nat.lt_of_le_of_lt (Nat.le_mul_of_pos_right _ sizePositive) fits
  have amount : ((remaining.toNat / size : Nat) : Int) * factors.prod =
      ((remaining.toNat / size * size : Nat) : Int) := by
    rw [whole, Int.natCast_mul]
  have multiplied : product ↑(remaining.toNat / size) factors =
      some ↑(remaining.toNat / size * size) := by
    rw [product_exact _ factors (Int.natCast_nonneg _) (by exact_mod_cast small) positive, amount,
      if_pos (by exact_mod_cast fits)]
  refine ⟨?_, remaining - UInt64.ofInt ↑(remaining.toNat / size * size), ?_, ?_⟩
  · rw [floorInt, UInt64.toNat_div, isSize, if_pos small]
  · have below := Nat.div_mul_le_self remaining.toNat size
    have value := toNat_ofInt (remaining.toNat / size * size) (by omega)
    rw [UInt64.toNat_sub_of_le _ _ (by rw [UInt64.le_iff_toNat_le, value]; exact below), value]
    have divided := Nat.div_add_mod remaining.toNat size
    rw [Nat.mul_comm] at divided
    omega
  · intro terms
    rw [minus, multiplied, Option.bind_eq_bind, Option.bind_some]

/-- The units of a duration in seconds, without the second. -/
def durationUnits : List Nat := [31536000, 2592000, 86400, 3600, 60]

/-- A non-negative count keeps its value. -/
theorem timeSec_value (count : Int64) (nonnegative : 0 ≤ count.toInt) :
    (count.toUInt64.toNat : Int) = count.toInt := by
  have value : count.toInt = count.toBitVec.toInt := rfl
  have size : count.toUInt64.toNat = count.toBitVec.toNat := rfl
  have reading := BitVec.toInt_eq_toNat_cond count.toBitVec
  split at reading <;> omega

/-- Below 69 years, the fractions are the splitting of the seconds into units. Each
expression subtracts the same products in the same order, so what it divides is what
the fractions before it have left. -/
theorem construct_splits (count : Int64) (nonnegative : 0 ≤ count.toInt)
    (short : count.toInt < 2175984000) :
    ∃ time, TimeDuration.construct count = some time ∧
      time.mFractions.toList = (Units.split durationUnits count.toUInt64.toNat).map Int.ofNat := by
  have value := timeSec_value count nonnegative
  obtain ⟨years, beforeMonths, isMonthsRest, yearsGone⟩ :=
    fraction_step count.toUInt64 (365 * 60 * 60 * 24) 31536000 rfl [365, 60, 60, 24]
      (by decide) (by decide) (by omega)
  obtain ⟨months, beforeDays, isDaysRest, monthsGone⟩ :=
    fraction_step beforeMonths (30 * 60 * 60 * 24) 2592000 rfl [30, 60, 60, 24]
      (by decide) (by decide) (by omega)
  obtain ⟨days, beforeHours, isHoursRest, daysGone⟩ :=
    fraction_step beforeDays (60 * 60 * 24) 86400 rfl [60, 60, 24]
      (by decide) (by decide) (by omega)
  obtain ⟨hours, beforeMinutes, isMinutesRest, hoursGone⟩ :=
    fraction_step beforeHours (60 * 60) 3600 rfl [60, 60] (by decide) (by decide) (by omega)
  obtain ⟨minutes, beforeSeconds, isSecondsRest, minutesGone⟩ :=
    fraction_step beforeMinutes 60 60 rfl [60] (by decide) (by decide) (by omega)
  have seconds : floorInt beforeSeconds = some ↑beforeSeconds.toNat := by
    rw [floorInt, if_pos (by omega)]
  have finished : ∀ left, minus left [] = some left := fun _ => rfl
  have computed : TimeDuration.construct count =
      some ⟨#v[↑(count.toUInt64.toNat / 31536000), ↑(beforeMonths.toNat / 2592000),
        ↑(beforeDays.toNat / 86400), ↑(beforeHours.toNat / 3600), ↑(beforeMinutes.toNat / 60),
        ↑beforeSeconds.toNat]⟩ := by
    refine Option.bind_eq_some_iff.mpr ⟨_, years, ?_⟩
    refine Option.bind_eq_some_iff.mpr ⟨beforeMonths, by rw [yearsGone, finished], ?_⟩
    refine Option.bind_eq_some_iff.mpr ⟨_, months, ?_⟩
    refine Option.bind_eq_some_iff.mpr ⟨beforeDays, by rw [yearsGone, monthsGone, finished], ?_⟩
    refine Option.bind_eq_some_iff.mpr ⟨_, days, ?_⟩
    refine Option.bind_eq_some_iff.mpr
      ⟨beforeHours, by rw [yearsGone, monthsGone, daysGone, finished], ?_⟩
    refine Option.bind_eq_some_iff.mpr ⟨_, hours, ?_⟩
    refine Option.bind_eq_some_iff.mpr
      ⟨beforeMinutes, by rw [yearsGone, monthsGone, daysGone, hoursGone, finished], ?_⟩
    refine Option.bind_eq_some_iff.mpr ⟨_, minutes, ?_⟩
    refine Option.bind_eq_some_iff.mpr
      ⟨beforeSeconds, by rw [yearsGone, monthsGone, daysGone, hoursGone, minutesGone, finished], ?_⟩
    exact Option.bind_eq_some_iff.mpr ⟨_, seconds, rfl⟩
  refine ⟨_, computed, ?_⟩
  simp [Units.split, durationUnits, isMonthsRest, isDaysRest, isHoursRest, isMinutesRest,
    isSecondsRest]

/-- From 69 years on the product of the years overflows. -/
theorem construct_overflows (count : Int64) (long : 2175984000 ≤ count.toInt)
    (fewer : count.toInt / 31536000 < 2 ^ 31) : TimeDuration.construct count = none := by
  have value := timeSec_value count (by omega)
  have years : floorInt (count.toUInt64 / (365 * 60 * 60 * 24)) =
      some ↑(count.toUInt64.toNat / 31536000) := by
    have divided : (count.toUInt64 / (365 * 60 * 60 * 24)).toNat =
        count.toUInt64.toNat / 31536000 := UInt64.toNat_div _ _
    rw [floorInt, divided, if_pos (by omega)]
  have overflow : product ↑(count.toUInt64.toNat / 31536000) [365, 60, 60, 24] = none := by
    have whole : ([365, 60, 60, 24] : List Int).prod = 31536000 := by decide
    rw [product_exact _ _ (Int.natCast_nonneg _) (by omega) (by decide), whole,
      if_neg (by omega)]
  cases result : TimeDuration.construct count with
  | none => rfl
  | some time =>
    obtain ⟨counted, isCounted, behindYears⟩ := Option.bind_eq_some_iff.mp result
    obtain ⟨beforeMonths, isBefore, _⟩ := Option.bind_eq_some_iff.mp behindYears
    rw [years, Option.some_inj] at isCounted
    rw [← isCounted, minus, overflow] at isBefore
    simp at isBefore

namespace TimeDuration

/-- The fractions are in their ranges and make the seconds together. -/
structure Splits (time : TimeDuration) (amount : Int) : Prop where
  nonnegative : ∀ fraction, 0 ≤ time.getFractionAmount fraction
  months : time.getFractionAmount .months ≤ 12
  days : time.getFractionAmount .days ≤ 29
  hours : time.getFractionAmount .hours ≤ 23
  minutes : time.getFractionAmount .minutes ≤ 59
  seconds : time.getFractionAmount .seconds ≤ 59
  whole : time.getFractionAmount .years * 31536000 + time.getFractionAmount .months * 2592000 +
    time.getFractionAmount .days * 86400 + time.getFractionAmount .hours * 3600 +
    time.getFractionAmount .minutes * 60 + time.getFractionAmount .seconds = amount

end TimeDuration

/-- The splitting into units has its fractions in their ranges. -/
theorem splits_units (time : TimeDuration) (timeSec : Nat)
    (amounts : time.mFractions.toList = (Units.split durationUnits timeSec).map Int.ofNat) :
    time.Splits timeSec := by
  have whole := Units.total_split durationUnits timeSec
  have below := Units.split_below durationUnits (by decide) (timeSec + 1) timeSec (by omega)
  obtain ⟨years, months, days, hours, minutes, seconds, shape⟩ :
      ∃ years months days hours minutes seconds, Units.split durationUnits timeSec =
        [years, months, days, hours, minutes, seconds] := ⟨_, _, _, _, _, _, rfl⟩
  rw [shape] at amounts whole below
  simp only [Units.total, Units.Below, durationUnits, List.sum_singleton, List.mem_singleton,
    forall_eq] at whole below
  have fractions : time = ⟨#v[years, months, days, hours, minutes, seconds]⟩ := by
    cases time
    congr 1
    exact Vector.toList_inj.mp amounts
  subst fractions
  constructor
  case nonnegative =>
    intro fraction
    cases fraction <;> exact Int.natCast_nonneg _
  case months =>
    change (months : Int) ≤ 12
    omega
  case days =>
    change (days : Int) ≤ 29
    omega
  case hours =>
    change (hours : Int) ≤ 23
    omega
  case minutes =>
    change (minutes : Int) ≤ 59
    omega
  case seconds =>
    change (seconds : Int) ≤ 59
    omega
  case whole =>
    change (years : Int) * 31536000 + months * 2592000 + days * 86400 + hours * 3600 +
      minutes * 60 + seconds = timeSec
    omega

/-- `TimeDuration` splits a duration of less than 2^31 years without loss exactly if it
is shorter than 69 years. -/
theorem splits_iff (count : Int64) (nonnegative : 0 ≤ count.toInt)
    (fewer : count.toInt / 31536000 < 2 ^ 31) :
    (∃ time, TimeDuration.construct count = some time ∧ time.Splits count.toInt) ↔
      count.toInt < 2175984000 := by
  constructor
  · rintro ⟨time, computed, _⟩
    by_contra long
    simp [construct_overflows count (by omega) fewer] at computed
  · intro short
    obtain ⟨time, computed, amounts⟩ := construct_splits count nonnegative short
    have splits := splits_units time _ amounts
    rw [timeSec_value count nonnegative] at splits
    exact ⟨time, computed, splits⟩

/-- A year, a month, a day, an hour, a minute and a second. -/
theorem splits_each : ∃ time, TimeDuration.construct 34218061 = some time ∧ time.Splits 34218061 :=
  (splits_iff 34218061 (by decide) (by decide)).mpr (by decide)

/-- At 69 years the constructor multiplies beyond the range of `int`. -/
theorem splits_overflow :
    ¬ ∃ time, TimeDuration.construct 2175984000 = some time ∧ time.Splits 2175984000 := by
  rintro ⟨time, computed, _⟩
  have overflow : TimeDuration.construct 2175984000 = none := by decide
  simp [overflow] at computed

end Plugpp
