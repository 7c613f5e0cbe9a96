import Plugpp.Verdicts

/-!
# What a plugin is given of a message

`OnMessageSent` skips the characters below the space before it asks the plugin. The
loop reads them as `char`, which is signed: the NUL is below the space, and so is
every byte from 0x80 up. It stops at the first byte of 0x20..0x7F, wherever that is.

A message with such a byte stops the loop inside. In any other message the loop runs
over the terminator, since the test that follows it asks for a null pointer, not for
the end of the message. And a message whose text begins with a byte from 0x80 up
loses it.
-/

namespace Plugpp

open Bytes Code Exported

variable {P : Type}

/-- The control characters of a message. -/
def isControl (byte : UInt8) : Bool := 0x01 ≤ byte && byte ≤ 0x1F

/-- A byte is skipped if it is below the space or has its highest bit set. -/
theorem signed_skipped_iff (byte : UInt8) : signed byte < 0x20 ↔ byte < 0x20 ∨ 0x80 ≤ byte := by
  have value : signed byte = byte.toBitVec.toInt := rfl
  have size : byte.toNat = byte.toBitVec.toNat := rfl
  have bound := byte.toBitVec.isLt
  simp only [value, BitVec.toInt_eq_toNat_cond, UInt8.lt_iff_toNat_lt, UInt8.le_iff_toNat_le, size,
    UInt8.reduceToNat]
  split <;> omega

/-- In a text without NUL, what is not a control character is a space or above. -/
theorem isControl_iff (byte : UInt8) (nonzero : byte ≠ 0) : isControl byte = true ↔ byte < 0x20 := by
  have positive : byte.toNat ≠ 0 := fun zero => nonzero (UInt8.toNat_inj.mp zero)
  simp only [isControl, Bool.and_eq_true, decide_eq_true_eq, UInt8.le_iff_toNat_le,
    UInt8.lt_iff_toNat_lt, UInt8.reduceToNat]
  omega

/-- Where the loop stops, a byte of 0x20..0x7F stands. -/
theorem skipControl_stops (memory visible : Bytes) (stopped : skipControl memory = some visible) :
    ∃ first rest, visible = first :: rest ∧ 0x20 ≤ first ∧ first < 0x80 := by
  induction memory with
  | nil => simp [skipControl] at stopped
  | cons byte rest inductionHypothesis =>
    by_cases control : signed byte < 0x20
    · exact inductionHypothesis (by simpa [skipControl, control] using stopped)
    · have here : byte :: rest = visible := by simpa [skipControl, control] using stopped
      rw [signed_skipped_iff, not_or, UInt8.not_lt, UInt8.not_le] at control
      exact ⟨byte, rest, here.symm, control⟩

/-- The loop stops at an index inside a message exactly if the message has a byte of
0x20..0x7F. -/
theorem skipControl_inside_iff (text behind : Bytes) :
    (∃ index ≤ text.length,
        skipControl (text ++ 0 :: behind) = some ((text ++ 0 :: behind).drop index)) ↔
      ∃ byte ∈ text, 0x20 ≤ byte ∧ byte < 0x80 := by
  constructor
  · rintro ⟨index, inside, stopped⟩
    obtain ⟨first, rest, visible, shown⟩ := skipControl_stops _ _ stopped
    rw [List.drop_append_of_le_length inside] at visible
    cases remaining : text.drop index with
    | nil =>
      rw [remaining, List.nil_append, List.cons.injEq] at visible
      rw [← visible.1] at shown
      exact absurd shown.1 (by decide)
    | cons letter others =>
      rw [remaining, List.cons_append, List.cons.injEq] at visible
      have member : letter ∈ text := List.mem_of_mem_drop (remaining ▸ List.mem_cons_self)
      exact ⟨letter, member, visible.1 ▸ shown⟩
  · rintro ⟨byte, member, shown⟩
    have printable : ¬ signed byte < 0x20 := by
      rw [signed_skipped_iff, not_or, UInt8.not_lt, UInt8.not_le]
      exact shown
    let skipped := text.takeWhile fun byte => signed byte < 0x20
    have whole : text ++ 0 :: behind = skipped ++ (visibleText text ++ 0 :: behind) := by
      rw [← List.append_assoc, visibleText, List.takeWhile_append_dropWhile]
    refine ⟨skipped.length, (List.takeWhile_sublist _).length_le, ?_⟩
    rw [skipControl_visible text (0 :: behind) ⟨byte, member, printable⟩]
    conv => rhs; rw [whole, List.drop_left]

/-- `OnMessageSent` skips inside the message, and hides a message of control
characters without asking the plugin, exactly if the message has a byte of
0x20..0x7F.

Such a message is not one of control characters. In any other the loop does not stop
before the terminator. -/
theorem skip_inside_iff (linked : Linked P) (text behind : Bytes) (free : 0 ∉ text)
    (slot mode : Int) (state : World P × Qboolean) :
    ((∃ index ≤ text.length,
        skipControl (text ++ 0 :: behind) = some ((text ++ 0 :: behind).drop index)) ∧
      ((∀ byte ∈ text, isControl byte = true) →
        (onMessageSent linked (some (text ++ 0 :: behind)) slot mode state).2.2 = false ∧
        (onMessageSent linked (some (text ++ 0 :: behind)) slot mode state).2.1.calls =
          state.1.calls)) ↔
      ∃ byte ∈ text, 0x20 ≤ byte ∧ byte < 0x80 := by
  rw [skipControl_inside_iff, and_iff_left_iff_imp]
  rintro ⟨byte, member, shown⟩ allControl
  have nonzero : byte ≠ 0 := fun zero => free (zero ▸ member)
  have below := (isControl_iff byte nonzero).mp (allControl byte member)
  exact absurd shown.1 (UInt8.not_le.mpr below)

/-- A message that begins with a control character. -/
theorem skip_inside_hello :
    (∃ index ≤ 3, skipControl ([0x15, 0x68, 0x69] ++ 0 :: []) =
        some ((([0x15, 0x68, 0x69] : Bytes) ++ 0 :: []).drop index)) ∧
      ((∀ byte ∈ [0x15, 0x68, 0x69], isControl byte = true) →
        (onMessageSent (kicker []) (some ([0x15, 0x68, 0x69] ++ 0 :: [])) 0 0
          (kickerWorld, true)).2.2 = false ∧
        (onMessageSent (kicker []) (some ([0x15, 0x68, 0x69] ++ 0 :: [])) 0 0
          (kickerWorld, true)).2.1.calls = []) :=
  (skip_inside_iff (kicker []) [0x15, 0x68, 0x69] [] (by decide) 0 0 (kickerWorld, true)).mpr
    (by decide)

/-- Behind the terminator of an empty message there is other text: the loop goes
there, and the plugin is asked about it. -/
theorem skip_leaves_empty :
    ¬ ((∃ index ≤ 0, skipControl ([] ++ 0 :: (literal "old" ++ [0])) =
          some (([] ++ 0 :: (literal "old" ++ [0])).drop index)) ∧
        ((∀ byte ∈ ([] : Bytes), isControl byte = true) →
          (onMessageSent (kicker []) (some ([] ++ 0 :: (literal "old" ++ [0]))) 0 0
            (kickerWorld, true)).2.2 = false ∧
          (onMessageSent (kicker []) (some ([] ++ 0 :: (literal "old" ++ [0]))) 0 0
            (kickerWorld, true)).2.1.calls = [])) := by
  rintro ⟨_, hidden⟩
  have asked : (onMessageSent (kicker []) (some ([] ++ 0 :: (literal "old" ++ [0]))) 0 0
      (kickerWorld, true)).2.1.calls = [.onMessageSent (literal "old") 0 0] := by rfl
  have silent := (hidden (by simp)).2
  rw [asked] at silent
  exact List.cons_ne_nil _ _ silent

/-! ## What arrives -/

/-- What the plugin is given of a message: none if the loop or the construction of
the string leaves readable memory. -/
def givenMessage (memory : Bytes) : Option Bytes := (skipControl memory).bind readText

/-- While the message is shown, the plugin is asked about what it is given. -/
theorem onMessageSent_calls (linked : Linked P) (memory : Bytes) (slot mode : Int)
    (state : World P × Qboolean) {plugin : P} (registered : state.1.gEntry = some ⟨some plugin⟩)
    (shown : state.2 = true) :
    (onMessageSent linked (some memory) slot mode state).2.1.calls =
      match givenMessage memory with
      | some text => .onMessageSent text slot mode :: state.1.calls
      | none => state.1.calls := by
  simp only [onMessageSent, (doNoexcept_leaves _ _ _ _).2, givenMessage]
  cases skipControl memory with
  | none => simp [raise]
  | some visible =>
    simp only [bind_apply, observe_apply, shown, ↓reduceIte, getPlugin, registered,
      PluginEntry.getPlugin, Except.mapError, Option.bind_some]
    cases readText visible with
    | none => simp [raise]
    | some text =>
      simp only [bind_apply, consult_asked, worldAfter, registered]
      cases (asked linked state.1 (.onMessageSent text slot mode) ⟨⟩).1 with
      | error stop => rfl
      | ok answer => rfl

/-- What is given begins with a byte of 0x20..0x7F. -/
theorem givenMessage_starts (memory text : Bytes) (given : givenMessage memory = some text) :
    ∃ first, text.head? = some first ∧ first < 0x80 := by
  obtain ⟨visible, stopped, read⟩ := Option.bind_eq_some_iff.mp given
  obtain ⟨first, rest, rfl, space, seven⟩ := skipControl_stops memory visible stopped
  have nonzero : first ≠ 0 := by
    rintro rfl
    exact absurd space (by decide)
  unfold readText at read
  split at read
  · cases read
    exact ⟨first, by simp [cString, nonzero], seven⟩
  · simp at read

/-- A text whose first byte that is not a control character is below 0x80 loses its
control characters and nothing else.

Where such a byte stands, it is in 0x20..0x7F and stops the loop too. -/
theorem visibleText_suffix (text : Bytes) (free : 0 ∉ text)
    (below : ∀ first, (text.dropWhile isControl).head? = some first → first < 0x80) :
    visibleText text = text.dropWhile isControl := by
  induction text with
  | nil => rfl
  | cons byte rest inductionHypothesis =>
    have nonzero : byte ≠ 0 := fun zero => free (by simp [zero])
    have restFree : 0 ∉ rest := fun member => free (List.mem_cons_of_mem _ member)
    cases control : isControl byte with
    | true =>
      rw [List.dropWhile_cons_of_pos control] at below ⊢
      have skipped : signed byte < 0x20 :=
        (signed_skipped_iff byte).mpr (Or.inl ((isControl_iff byte nonzero).mp control))
      rw [visibleText, List.dropWhile_cons_of_pos (by simpa using skipped)]
      exact inductionHypothesis restFree below
    | false =>
      have stays : ¬ isControl byte = true := by simp [control]
      rw [List.dropWhile_cons_of_neg stays] at below ⊢
      have seven : ¬ 0x80 ≤ byte := UInt8.not_le.mpr (below byte rfl)
      have space : ¬ byte < 0x20 := (isControl_iff byte nonzero).not.mp stays
      have printable : ¬ signed byte < 0x20 := by
        rw [signed_skipped_iff, not_or]
        exact ⟨space, seven⟩
      rw [visibleText, List.dropWhile_cons_of_neg (by simpa using printable)]

/-- The plugin is given a message from its first byte that is not a control character
on, exactly if that byte is below 0x80.

What is given never begins with a higher byte, not even where the loop has left the
message. -/
theorem given_suffix_iff (linked : Linked P) (text behind : Bytes) (free : 0 ∉ text)
    (outside : ∃ byte ∈ text, isControl byte = false) (slot mode : Int)
    (state : World P × Qboolean) {plugin : P} (registered : state.1.gEntry = some ⟨some plugin⟩)
    (shown : state.2 = true) :
    (onMessageSent linked (some (text ++ 0 :: behind)) slot mode state).2.1.calls =
        .onMessageSent (text.dropWhile isControl) slot mode :: state.1.calls ↔
      ∀ first, (text.dropWhile isControl).head? = some first → first < 0x80 := by
  rw [onMessageSent_calls linked _ slot mode state registered shown]
  constructor
  · intro given first isFirst
    cases received : givenMessage (text ++ 0 :: behind) with
    | none => simp [received] at given
    | some arrived =>
      obtain ⟨letter, isLetter, below⟩ := givenMessage_starts _ arrived received
      have same : arrived = text.dropWhile isControl := by simpa [received] using given
      rw [same, isFirst, Option.some_inj] at isLetter
      rwa [isLetter]
  · intro below
    have visible := visibleText_suffix text free below
    have printable : ∃ byte ∈ text, ¬ signed byte < 0x20 := by
      obtain ⟨byte, member, isOutside⟩ := outside
      by_contra unprintable
      have nothing : text.dropWhile isControl = [] := by
        rw [← visible, visibleText, List.dropWhile_eq_nil_iff]
        simpa using unprintable
      have control := List.dropWhile_eq_nil_iff.mp nothing byte member
      simp [isOutside] at control
    have suffixFree : 0 ∉ text.dropWhile isControl := fun member =>
      free ((List.dropWhile_sublist isControl).mem member)
    have arrived : givenMessage (text ++ 0 :: behind) = some (text.dropWhile isControl) := by
      rw [givenMessage, skipControl_visible text (0 :: behind) printable, visible,
        Option.bind_some, readText_terminated _ behind suffixFree]
    rw [arrived]

/-- A control character, a letter and a byte from 0x80 up: the last two arrive. -/
theorem given_suffix_latin :
    (onMessageSent (kicker []) (some ([0x15, 0x61, 0xE9] ++ 0 :: [])) 0 0
      (kickerWorld, true)).2.1.calls =
        .onMessageSent (([0x15, 0x61, 0xE9] : Bytes).dropWhile isControl) 0 0 :: [] :=
  (given_suffix_iff (kicker []) [0x15, 0x61, 0xE9] [] (by decide) (by decide) 0 0
    (kickerWorld, true) rfl rfl).mpr (by simp [isControl])

/-- A letter from 0x80 up at the beginning does not arrive. -/
theorem given_suffix_loses :
    ¬ (onMessageSent (kicker []) (some ([0xE9, 0x61] ++ 0 :: [])) 0 0
      (kickerWorld, true)).2.1.calls =
        .onMessageSent (([0xE9, 0x61] : Bytes).dropWhile isControl) 0 0 :: [] := by
  have received : (onMessageSent (kicker []) (some ([0xE9, 0x61] ++ 0 :: [])) 0 0
      (kickerWorld, true)).2.1.calls = [.onMessageSent [0x61] 0 0] := by rfl
  rw [received]
  decide

end Plugpp
