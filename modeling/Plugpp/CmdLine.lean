import Mathlib.Data.List.Induction
import Plugpp.Text

/-!
# Arguments of a command

A `CmdLine` reads the arguments of the command that the server is running, counted from
a root that `shift` moves and `reset` puts back. Its sums are `int`, and signed overflow
has no defined result. `get` compares the sum with the number of arguments from one
side only, so a negative one is passed on to the server.

The overload of `get` that converts writes the argument into a stream and extracts a
value. Of a string this extracts the first word.
-/

namespace Plugpp

open Bytes

/-- The command that the server is running: `Plugin_Cmd_Argc` and what `Plugin_Cmd_Argv`
points to, a C string for whatever number it is asked. -/
structure Cmd where
  argc : Nat
  argv : Int32 → Bytes
  terminated : ∀ number, 0 ∉ argv number

/-- A number in the range of `int`. -/
def IsInt (value : Int) : Prop := -2 ^ 31 ≤ value ∧ value < 2 ^ 31

instance (value : Int) : Decidable (IsInt value) :=
  inferInstanceAs (Decidable (-2 ^ 31 ≤ value ∧ value < 2 ^ 31))

/-- An `int` sum. None is signed overflow, which has no defined result. -/
def addInt (left right : Int32) : Option Int32 :=
  if IsInt (left.toInt + right.toInt) then some (Int32.ofInt (left.toInt + right.toInt)) else none

/-- Every `int` is in its range. -/
theorem isInt_toInt (value : Int32) : IsInt value.toInt := ⟨value.le_toInt, value.toInt_lt⟩

/-- The sum is the mathematical one. -/
theorem addInt_eq_some_iff (left right sum : Int32) :
    addInt left right = some sum ↔ sum.toInt = left.toInt + right.toInt := by
  unfold addInt
  split
  · next inside =>
    rw [Option.some_inj, ← Int32.toInt_inj, Int32.toInt_ofInt_of_le inside.1 inside.2, eq_comm]
  · next outside =>
    refine iff_of_false (by simp) fun exact => outside ?_
    rw [← exact]
    exact isInt_toInt sum

/-- `CmdLine`. -/
structure CmdLine where
  mShift : Int32 := 0

namespace CmdLine

/-- `get`: the argument, and the numbers that `Plugin_Cmd_Argv` is asked for on the way. -/
def get (cmd : Cmd) (line : CmdLine) (index : Int32) : Option (Option Bytes × List Int32) := do
  let number ← addInt index line.mShift
  if number.toInt ≥ cmd.argc then return (none, [])
  else return (some (cmd.argv number), [number])

/-- `ss >> out` for a string, on a stream that holds a text: the blanks in front are
skipped, what lies before the next blank is extracted, and nothing is a failure. -/
def extractString (text : Bytes) : Option Bytes :=
  let out := (text.dropWhile isSpace).takeWhile fun c => !isSpace c
  if out = [] then none else some out

/-- `get<std::string>`. -/
def getString (cmd : Cmd) (line : CmdLine) (index : Int32) :
    Option (Option Bytes × List Int32) := do
  let (arg, asked) ← get cmd line index
  return (arg.bind extractString, asked)

/-- `shift`. -/
def shift (line : CmdLine) (shift : Int32) : Option CmdLine := do
  let mShift ← addInt line.mShift shift
  return { line with mShift := mShift }

/-- `reset`. -/
def reset (line : CmdLine) : CmdLine := { line with mShift := 0 }

/-- A call that moves the root. -/
inductive Event where
  | shift (amount : Int32)
  | reset

/-- One call. -/
def step (line : CmdLine) : Event → Option CmdLine
  | .shift amount => line.shift amount
  | .reset => some line.reset

/-- A run of calls on a new `CmdLine`. None is an overflow on the way. -/
def run (events : List Event) : Option CmdLine := events.foldlM step {}

/-- Where the root is after one more call, as a number. -/
def advance (root : Int) : Event → Int
  | .shift amount => root + amount.toInt
  | .reset => 0

/-- The shifts since the last reset. -/
def shifted (events : List Event) : Int := events.foldl advance 0

/-! ## Runs -/

/-- One call moves the root by its amount, or back. -/
theorem step_eq_some_iff (line next : CmdLine) (event : Event) :
    line.step event = some next ↔ next.mShift.toInt = advance line.mShift.toInt event := by
  obtain ⟨root⟩ := next
  cases event with
  | shift amount =>
    rw [advance, ← addInt_eq_some_iff, step, shift]
    cases addInt line.mShift amount <;> simp
  | reset =>
    rw [advance, step, reset, Option.some_inj, CmdLine.mk.injEq, ← Int32.toInt_inj, eq_comm]
    rfl

/-- A run returns exactly if the shifts since the last reset stay in the range of `int`
all the way. The root is then their sum. Induct along the run: a call overflows exactly
if its sum leaves the range. -/
theorem run_eq_some_iff (events : List Event) (line : CmdLine) :
    run events = some line ↔
      line.mShift.toInt = shifted events ∧
        ∀ earlier, earlier <+: events → IsInt (shifted earlier) := by
  induction events using List.reverseRecOn generalizing line with
  | nil =>
    obtain ⟨root⟩ := line
    have zero : (0 : Int32).toInt = 0 := rfl
    have inside : IsInt 0 := by decide
    simp only [run, List.foldlM_nil, Option.pure_def, Option.some_inj, CmdLine.mk.injEq,
      ← Int32.toInt_inj, shifted, List.foldl_nil, List.prefix_nil, forall_eq, inside, and_true,
      zero]
    exact eq_comm
  | append_singleton events event inductionHypothesis =>
    have split : run (events ++ [event]) = (run events).bind fun before => before.step event := by
      simp [run, List.foldlM_append]
    have advanced : shifted (events ++ [event]) = advance (shifted events) event := by
      simp [shifted]
    rw [split, Option.bind_eq_some_iff, advanced]
    constructor
    · rintro ⟨before, ran, stepped⟩
      obtain ⟨root, inside⟩ := (inductionHypothesis before).mp ran
      rw [step_eq_some_iff, root] at stepped
      refine ⟨stepped, ?_⟩
      intro earlier isPrefix
      rcases List.prefix_concat_iff.mp isPrefix with rfl | isEarlier
      · rw [advanced, ← stepped]
        exact isInt_toInt line.mShift
      · exact inside earlier isEarlier
    · rintro ⟨root, inside⟩
      obtain ⟨low, high⟩ := inside events (List.prefix_append _ _)
      refine ⟨⟨Int32.ofInt (shifted events)⟩, (inductionHypothesis _).mpr ⟨?_, ?_⟩, ?_⟩
      · exact Int32.toInt_ofInt_of_le low high
      · exact fun earlier isEarlier => inside earlier (isEarlier.trans (List.prefix_append _ _))
      · rw [step_eq_some_iff, Int32.toInt_ofInt_of_le low high, root]

/-! ## What the server is asked -/

/-- Where the sum is an `int`, `get` refuses it if it is too large, and asks for it
otherwise. -/
theorem get_of_sum (cmd : Cmd) {line : CmdLine} {index number : Int32}
    (sum : number.toInt = index.toInt + line.mShift.toInt) :
    line.get cmd index = some (if (cmd.argc : Int) ≤ number.toInt then (none, [])
      else (some (cmd.argv number), [number])) := by
  rw [get, (addInt_eq_some_iff _ _ _).mpr sum, Option.bind_eq_bind, Option.bind_some]
  split <;> rfl

/-- Where `get` has a defined result, the sum is an `int`. -/
theorem sum_of_get {cmd : Cmd} {line : CmdLine} {index : Int32} {result : Option Bytes × List Int32}
    (got : line.get cmd index = some result) :
    ∃ number : Int32, number.toInt = index.toInt + line.mShift.toInt := by
  obtain ⟨number, sum, _⟩ := Option.bind_eq_some_iff.mp got
  exact ⟨number, (addInt_eq_some_iff _ _ _).mp sum⟩

/-- After a run, `get` has a defined result, asks the server for nothing but arguments
that are there and has none where the index and the shifts since the last reset lead
outside, exactly if the shifts stay in the range of `int` all the way and the index
added to them is in that range and not negative. -/
theorem get_inside_iff (cmd : Cmd) (events : List Event) (index : Int32) :
    (∃ line answer asked, run events = some line ∧ line.get cmd index = some (answer, asked) ∧
      (∀ number ∈ asked, 0 ≤ number.toInt ∧ number.toInt < cmd.argc) ∧
      (¬ (0 ≤ index.toInt + shifted events ∧ index.toInt + shifted events < cmd.argc) →
        answer = none)) ↔
      (∀ earlier, earlier <+: events → IsInt (shifted earlier)) ∧
        IsInt (index.toInt + shifted events) ∧ 0 ≤ index.toInt + shifted events := by
  constructor
  · rintro ⟨line, answer, asked, ran, got, inside, _⟩
    obtain ⟨root, staying⟩ := (run_eq_some_iff events line).mp ran
    obtain ⟨number, sum⟩ := sum_of_get got
    rw [get_of_sum cmd sum, Option.some_inj] at got
    rw [root] at sum
    refine ⟨staying, sum ▸ isInt_toInt number, ?_⟩
    rw [← sum]
    split at got
    · next past => exact (Int.natCast_nonneg _).trans past
    · cases got
      exact (inside number (by simp)).1
  · rintro ⟨staying, ⟨low, high⟩, nonnegative⟩
    obtain ⟨rootLow, rootHigh⟩ := staying events (List.prefix_refl _)
    have root : (Int32.ofInt (shifted events)).toInt = shifted events :=
      Int32.toInt_ofInt_of_le rootLow rootHigh
    have number : (Int32.ofInt (index.toInt + shifted events)).toInt =
        index.toInt + shifted events := Int32.toInt_ofInt_of_le low high
    have ran : run events = some ⟨Int32.ofInt (shifted events)⟩ :=
      (run_eq_some_iff events _).mpr ⟨root, staying⟩
    have got : get cmd ⟨Int32.ofInt (shifted events)⟩ index = _ :=
      get_of_sum cmd (number.trans (by rw [root]))
    rw [number] at got
    split at got
    · exact ⟨_, _, _, ran, got, by simp, fun _ => rfl⟩
    · next inside =>
      refine ⟨_, _, _, ran, got, ?_, fun outside => absurd ⟨nonnegative, by omega⟩ outside⟩
      intro asked member
      rw [List.mem_singleton.mp member, number]
      exact ⟨nonnegative, by omega⟩

/-- A command with one argument. -/
def oneArgument (argument : Bytes) (terminated : 0 ∉ argument) : Cmd where
  argc := 1
  argv := fun number => if number = 0 then argument else []
  terminated := by
    intro number
    split
    · exact terminated
    · exact List.not_mem_nil

/-- The server is asked for the argument -1; and behind the largest shift the sum is not
defined. -/
theorem get_asks_outside :
    ¬ (∃ line answer asked, run [] = some line ∧
      line.get (oneArgument (literal "hi") (by decide)) (-1) = some (answer, asked) ∧
      (∀ number ∈ asked, 0 ≤ number.toInt ∧ number.toInt < 1) ∧
      (¬ (0 ≤ (-1 : Int32).toInt + shifted [] ∧ (-1 : Int32).toInt + shifted [] < 1) →
        answer = none)) ∧
    ¬ (∃ line answer asked, run [.shift 2147483647] = some line ∧
      line.get (oneArgument (literal "hi") (by decide)) 1 = some (answer, asked) ∧
      (∀ number ∈ asked, 0 ≤ number.toInt ∧ number.toInt < 1) ∧
      (¬ (0 ≤ (1 : Int32).toInt + shifted [.shift 2147483647] ∧
        (1 : Int32).toInt + shifted [.shift 2147483647] < 1) → answer = none)) := by
  constructor
  · rintro ⟨line, answer, asked, ran, got, inside, _⟩
    obtain rfl : {} = line := Option.some.inj ran
    obtain ⟨_, rfl⟩ : answer = some [] ∧ asked = [-1] := by
      have asks : get (oneArgument (literal "hi") (by decide)) {} (-1) = some (some [], [-1]) := rfl
      simpa using (asks.symm.trans got).symm
    exact absurd (inside (-1) (by simp)).1 (by decide)
  · rintro ⟨line, answer, asked, ran, got, _⟩
    obtain rfl : ⟨2147483647⟩ = line := Option.some.inj ran
    have undefined : get (oneArgument (literal "hi") (by decide)) ⟨2147483647⟩ 1 = none := rfl
    simp [undefined] at got

/-! ## Strings -/

/-- A string is extracted whole exactly if it is one word. -/
theorem extractString_eq_some_iff (text : Bytes) :
    extractString text = some text ↔ text ≠ [] ∧ ∀ c ∈ text, isSpace c = false := by
  have extracted : extractString text = some text ↔
      text ≠ [] ∧ (text.dropWhile isSpace).takeWhile (fun c => !isSpace c) = text := by
    by_cases nothing : (text.dropWhile isSpace).takeWhile (fun c => !isSpace c) = []
    · simp only [extractString, nothing, ↓reduceIte, reduceCtorEq, false_iff]
      exact fun whole => whole.1 whole.2.symm
    · simp only [extractString, nothing, ↓reduceIte, Option.some_inj]
      exact (and_iff_right_of_imp fun whole => whole ▸ nothing).symm
  rw [extracted]
  refine and_congr_right fun _ => ?_
  constructor
  · intro whole c member
    rw [← whole] at member
    simpa using List.mem_takeWhile_imp member
  · intro word
    have unskipped : text.dropWhile isSpace = text := by
      rw [List.dropWhile_eq_self_iff]
      intro positive
      simp [word _ (List.getElem_mem positive)]
    rw [unskipped, List.takeWhile_eq_self_iff]
    intro c member
    simp [word c member]

/-- `get<std::string>` returns what `get` returns exactly if the number that the index leads
to is none, or behind the arguments, or the server has one word for it. -/
theorem getString_agrees_iff (cmd : Cmd) (line : CmdLine) (index : Int32) :
    (line.getString cmd index).map Prod.fst = (line.get cmd index).map Prod.fst ↔
      ∀ number : Int32, number.toInt = index.toInt + line.mShift.toInt → number.toInt < cmd.argc →
        cmd.argv number ≠ [] ∧ ∀ c ∈ cmd.argv number, isSpace c = false := by
  cases sum : addInt index line.mShift with
  | none =>
    have undefined : line.get cmd index = none := by simp [get, sum]
    refine iff_of_true (by simp [getString, undefined]) ?_
    intro number summed
    rw [(addInt_eq_some_iff _ _ _).mpr summed] at sum
    cases sum
  | some root =>
    have summed := (addInt_eq_some_iff _ _ _).mp sum
    have alone : ∀ number : Int32, number.toInt = index.toInt + line.mShift.toInt ↔ number = root :=
      fun number => by rw [← summed, Int32.toInt_inj]
    have got := get_of_sum cmd summed
    simp only [alone, forall_eq, ← extractString_eq_some_iff]
    by_cases past : (cmd.argc : Int) ≤ root.toInt
    · simp [getString, got, past]
    · simp [getString, got, past, Int.not_le.mp past]

/-- An argument of two words loses the second one, an empty argument is none. -/
theorem getString_differs :
    ¬ ((({} : CmdLine).getString (oneArgument (literal "two words") (by decide)) 0).map Prod.fst =
        (({} : CmdLine).get (oneArgument (literal "two words") (by decide)) 0).map Prod.fst) ∧
      ¬ ((({} : CmdLine).getString (oneArgument [] (by decide)) 0).map Prod.fst =
        (({} : CmdLine).get (oneArgument [] (by decide)) 0).map Prod.fst) := by
  decide

end CmdLine

end Plugpp
