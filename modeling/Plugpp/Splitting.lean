import Mathlib.Algebra.Ring.Nat
import Mathlib.Data.List.Infix
import Plugpp.Search

/-!
# Splitting a text at a pattern

`pieces` cuts a text at the occurrences of a pattern, each the leftmost one
behind the one before, so that occurrences never overlap. A text without the
pattern is a single piece, and a pattern at the very end leaves an empty last
piece.

Writing the pattern between the pieces gives the text back, and no piece holds
the pattern. The alphabet and the pattern are arbitrary; the pattern is not
empty.
-/

namespace Plugpp.Splitting

open Search

universe u
variable {α : Type u} [DecidableEq α]

/-- What follows a found pattern is shorter than the text. -/
theorem rest_shorter {pattern text : List α} {position : Nat} (nonempty : pattern ≠ [])
    (found : occurrence pattern text = some position) :
    (text.drop (position + pattern.length)).length < text.length := by
  have fits := (occurrence_some pattern text position found).1.length_le
  have inside := (occurrence_some pattern text position found).2.1
  have positive := List.length_pos_iff.mpr nonempty
  simp only [List.length_drop] at fits ⊢
  omega

/-- The text between the successive leftmost occurrences of a pattern. -/
def pieces (pattern : List α) (nonempty : pattern ≠ []) (text : List α) : List (List α) :=
  match _ : occurrence pattern text with
  | some position =>
    text.take position :: pieces pattern nonempty (text.drop (position + pattern.length))
  | none => [text]
termination_by text.length
decreasing_by exact rest_shorter nonempty (by assumption)

variable {pattern : List α} {nonempty : pattern ≠ []}

/-- Where the pattern is found, the first piece ends. -/
theorem pieces_found {text : List α} {position : Nat}
    (found : occurrence pattern text = some position) :
    pieces pattern nonempty text =
      text.take position :: pieces pattern nonempty (text.drop (position + pattern.length)) := by
  rw [pieces]
  split
  · next located =>
    rw [found] at located
    cases located
    rfl
  · next located => simp [found] at located

/-- A text without the pattern is the last piece. -/
theorem pieces_absent {text : List α} (absent : occurrence pattern text = none) :
    pieces pattern nonempty text = [text] := by
  rw [pieces]
  split
  · next located => simp [absent] at located
  · rfl

/-- There is always a last piece. -/
theorem pieces_ne_nil (text : List α) : pieces pattern nonempty text ≠ [] := by
  cases found : occurrence pattern text with
  | none => simp [pieces_absent found]
  | some position => simp [pieces_found found]

/-- A text is what precedes a found pattern, the pattern, and what follows it. -/
theorem text_at_found {text : List α} {position : Nat}
    (found : occurrence pattern text = some position) :
    text.take position ++ pattern ++ text.drop (position + pattern.length) = text := by
  obtain ⟨⟨behind, rest⟩, _, _⟩ := occurrence_some pattern text position found
  have dropped : text.drop (position + pattern.length) = behind := by
    rw [← List.drop_drop, ← rest, List.drop_left]
  rw [dropped, List.append_assoc, rest, List.take_append_drop]

/-- Before the place where it is first found the pattern does not occur.

An occurrence in front would start earlier, since the pattern is not empty. -/
theorem before_found (nonempty : pattern ≠ []) {text : List α} {position : Nat}
    (found : occurrence pattern text = some position) :
    ¬ pattern <:+: text.take position := by
  rintro ⟨before, behind, whole⟩
  obtain ⟨_, inside, least⟩ := occurrence_some pattern text position found
  have positive := List.length_pos_iff.mpr nonempty
  have size := congrArg List.length whole
  simp only [List.length_append, List.length_take] at size
  refine least before.length (by omega) ⟨behind ++ text.drop position, ?_⟩
  have split : text = before ++ (pattern ++ (behind ++ text.drop position)) := by
    calc text = text.take position ++ text.drop position := (List.take_append_drop ..).symm
      _ = before ++ (pattern ++ (behind ++ text.drop position)) := by
        rw [← whole]
        simp only [List.append_assoc]
  conv => rhs; rw [split, List.drop_left]

/-- The pattern written between the pieces gives the text back. -/
theorem intercalate_pieces (text : List α) :
    pattern.intercalate (pieces pattern nonempty text) = text := by
  induction text using pieces.induct pattern nonempty with
  | case1 text position found inductionHypothesis =>
    rw [pieces_found found, List.intercalate_cons_of_ne_nil (pieces_ne_nil _),
      inductionHypothesis, text_at_found found]
  | case2 text absent => rw [pieces_absent absent, List.intercalate_singleton]

/-- No piece holds the pattern. -/
theorem pieces_free (text : List α) :
    ∀ piece ∈ pieces pattern nonempty text, ¬ pattern <:+: piece := by
  induction text using pieces.induct pattern nonempty with
  | case1 text position found inductionHypothesis =>
    intro piece member
    rw [pieces_found found] at member
    cases member with
    | head => exact before_found nonempty found
    | tail _ member => exact inductionHypothesis piece member
  | case2 text absent =>
    intro piece member
    rw [pieces_absent absent, List.mem_singleton] at member
    rw [member, ← occurrence_none_iff]
    exact absent

/-- The pieces at a pattern of one letter are those of the standard splitting at it. -/
theorem pieces_letter (letter : α) (text : List α) :
    pieces [letter] (List.cons_ne_nil letter []) text = text.splitOn letter := by
  induction text using pieces.induct [letter] (List.cons_ne_nil letter []) with
  | case1 text position found inductionHypothesis =>
    have before : letter ∉ text.take position := by
      rw [← List.singleton_infix_iff]
      exact before_found (List.cons_ne_nil letter []) found
    have whole := text_at_found found
    rw [List.append_assoc, List.singleton_append] at whole
    rw [pieces_found found, inductionHypothesis,
      ← List.splitOn_append_cons_self_of_not_mem before, whole]
  | case2 text absent =>
    have free : letter ∉ text := by
      rw [← List.singleton_infix_iff, ← occurrence_none_iff]
      exact absent
    rw [pieces_absent absent, List.splitOn_eq_singleton free]

/-! ## Items and what is written between them -/

omit [DecidableEq α] in
/-- What is written has the letters of the items and the separator. -/
theorem intercalate_letters (separator : α) (letters : α → Bool) (items : List (List α))
    (allowed : letters separator = true)
    (inside : ∀ item ∈ items, ∀ letter ∈ item, letters letter = true) :
    ∀ letter ∈ [separator].intercalate items, letters letter = true := by
  induction items with
  | nil => simp
  | cons item rest inductionHypothesis =>
    have later := inductionHypothesis fun item member => inside item (List.mem_cons_of_mem _ member)
    cases rest with
    | nil =>
      rw [List.intercalate_singleton]
      exact inside item (by simp)
    | cons next rest =>
      intro letter member
      simp only [List.intercalate_cons_cons, List.mem_append, List.mem_singleton] at member
      rcases member with (member | rfl) | member
      · exact inside item (by simp) letter member
      · exact allowed
      · exact later letter member

omit [DecidableEq α] in
/-- An item is part of what is written. -/
theorem mem_intercalate (separator : List α) (letter : α) (items : List (List α)) (item : List α)
    (isItem : item ∈ items) (member : letter ∈ item) : letter ∈ separator.intercalate items := by
  induction items with
  | nil => simp at isItem
  | cons first rest inductionHypothesis =>
    cases rest with
    | nil =>
      rw [List.mem_singleton] at isItem
      rwa [List.intercalate_singleton, ← isItem]
    | cons next rest =>
      rw [List.intercalate_cons_cons, List.mem_append, List.mem_append]
      cases isItem with
      | head => exact Or.inl (Or.inl member)
      | tail _ later => exact Or.inr (inductionHypothesis later)

omit [DecidableEq α] in
/-- What is written takes the space of the items, and that of a separator between each
two neighbours. -/
theorem intercalate_length (separator : List α) (items : List (List α)) :
    (separator.intercalate items).length =
      (items.map List.length).sum + (items.length - 1) * separator.length := by
  induction items with
  | nil => simp
  | cons item rest inductionHypothesis =>
    cases rest with
    | nil => simp
    | cons next rest =>
      rw [List.intercalate_cons_cons, List.length_append, List.length_append, inductionHypothesis]
      simp only [List.map_cons, List.sum_cons, List.length_cons, Nat.add_sub_cancel, Nat.succ_mul]
      omega

omit [DecidableEq α] in
/-- One more item takes its own space and that of a separator. -/
theorem intercalate_cons_length_le (separator : α) (item : List α) (items : List (List α)) :
    ([separator].intercalate (item :: items)).length ≤
      item.length + 1 + ([separator].intercalate items).length := by
  rw [intercalate_length, intercalate_length]
  simp only [List.map_cons, List.sum_cons, List.length_cons, List.length_nil]
  omega

omit [DecidableEq α] in
/-- Short items are written in the space of their number. -/
theorem intercalate_length_le (separator : α) (size : Nat) (items : List (List α))
    (short : ∀ item ∈ items, item.length ≤ size) :
    ([separator].intercalate items).length ≤ (size + 1) * items.length := by
  induction items with
  | nil => simp
  | cons item rest inductionHypothesis =>
    have here := short item (by simp)
    have later := inductionHypothesis fun item member => short item (List.mem_cons_of_mem _ member)
    have written := intercalate_cons_length_le separator item rest
    rw [List.length_cons, Nat.mul_succ]
    omega

omit [DecidableEq α] in
/-- One more item is written at the back, behind a separator. -/
theorem intercalate_snoc (separator : List α) {items : List (List α)} (nonempty : items ≠ [])
    (item : List α) :
    separator.intercalate (items ++ [item]) = separator.intercalate items ++ separator ++ item := by
  induction items with
  | nil => exact absurd rfl nonempty
  | cons first rest inductionHypothesis =>
    cases rest with
    | nil => simp
    | cons next rest =>
      have later := inductionHypothesis (List.cons_ne_nil next rest)
      rw [List.cons_append, List.intercalate_cons_of_ne_nil (by simp), later,
        List.intercalate_cons_cons]
      simp only [List.append_assoc]

omit [DecidableEq α] in
/-- What the last item has more is written at the back. -/
theorem intercalate_append_back (separator : List α) (front : List (List α))
    (back more : List α) :
    separator.intercalate (front ++ [back ++ more]) =
      separator.intercalate (front ++ [back]) ++ more := by
  cases front with
  | nil => simp
  | cons first rest =>
    rw [intercalate_snoc separator (List.cons_ne_nil first rest),
      intercalate_snoc separator (List.cons_ne_nil first rest)]
    simp only [List.append_assoc]

/-- Items without the first letter of the separator are read back from what is written. -/
theorem pieces_intercalate (letter : α) (tail : List α) {items : List (List α)}
    (nonempty : items ≠ []) (free : ∀ item ∈ items, letter ∉ item) :
    pieces (letter :: tail) (List.cons_ne_nil letter tail)
      ((letter :: tail).intercalate items) = items := by
  induction items with
  | nil => exact absurd rfl nonempty
  | cons first rest inductionHypothesis =>
    have firstFree := free first List.mem_cons_self
    cases rest with
    | nil =>
      have absent : occurrence (letter :: tail) first = none := by
        rw [occurrence_none_iff]
        exact fun inside => firstFree (inside.subset List.mem_cons_self)
      rw [List.intercalate_singleton, pieces_absent absent]
    | cons next rest =>
      have later := inductionHypothesis (List.cons_ne_nil next rest)
        fun item member => free item (List.mem_cons_of_mem _ member)
      have found := occurrence_found letter tail first
        ((letter :: tail).intercalate (next :: rest)) firstFree
      have front : (first ++ (letter :: tail)).length = first.length + (letter :: tail).length :=
        List.length_append
      rw [List.intercalate_cons_cons, pieces_found found, ← front, List.drop_left, later,
        List.append_assoc, List.take_left]

/-! ## The outer pieces -/

/-- The pattern does not overlap itself: what it both begins and ends with is nothing or the
whole. -/
def Borderless (pattern : List α) : Prop :=
  ∀ border, border <+: pattern → border <:+ pattern → border = [] ∨ border = pattern

/-- Where the pattern begins the text it is found at once. -/
theorem found_at_start {text : List α} (starts : pattern <+: text) :
    occurrence pattern text = some 0 := by
  have here := List.isPrefixOf_iff_prefix.mpr starts
  cases text <;> simp [occurrence, here]

/-- The first piece is empty exactly if the text is, or begins with the pattern. -/
theorem pieces_head_iff (text : List α) :
    (pieces pattern nonempty text).head? = some [] ↔ text = [] ∨ pattern <+: text := by
  cases found : occurrence pattern text with
  | none =>
    have absent := (occurrence_none_iff pattern text).mp found
    have notHere : ¬ pattern <+: text := fun starts => absent starts.isInfix
    simp [pieces_absent found, notHere]
  | some position =>
    obtain ⟨starts, inside, least⟩ := occurrence_some pattern text position found
    rw [pieces_found found, List.head?_cons, Option.some_inj, List.take_eq_nil_iff]
    constructor
    · rintro (atStart | empty)
      · subst atStart
        exact Or.inr (by simpa using starts)
      · exact Or.inl empty
    · rintro (empty | here)
      · exact Or.inr empty
      · have atStart := found_at_start here
        rw [found, Option.some_inj] at atStart
        exact Or.inl atStart

/-- An empty last piece stands behind the pattern at the end of the text. -/
theorem suffix_of_pieces_last {text : List α} (something : text ≠ [])
    (last : (pieces pattern nonempty text).getLast? = some []) : pattern <:+ text := by
  obtain ⟨front, split⟩ := List.getLast?_eq_some_iff.mp last
  have whole : pattern.intercalate (pieces pattern nonempty text) = text := intercalate_pieces text
  rw [split] at whole
  cases front with
  | nil => exact absurd (by simpa using whole.symm) something
  | cons first rest =>
    rw [intercalate_snoc pattern (List.cons_ne_nil first rest), List.append_nil] at whole
    exact ⟨_, whole⟩

/-- Behind the last piece of what follows a found pattern there is nothing else. -/
theorem pieces_last_found {text : List α} {position : Nat}
    (found : occurrence pattern text = some position) :
    (pieces pattern nonempty text).getLast? =
      (pieces pattern nonempty (text.drop (position + pattern.length))).getLast? := by
  rw [pieces_found found, List.getLast?_cons]
  cases last : (pieces pattern nonempty (text.drop (position + pattern.length))).getLast? with
  | none => exact absurd (List.getLast?_eq_none_iff.mp last) (pieces_ne_nil _)
  | some piece => rfl

/-- A pattern that does not overlap itself is cut off at the end of a text. Otherwise what
follows an earlier occurrence would be shorter than the pattern and the two overlap. -/
theorem pieces_last_of_suffix (borderless : Borderless pattern) {text : List α}
    (ends : pattern <:+ text) : (pieces pattern nonempty text).getLast? = some [] := by
  induction text using pieces.induct pattern nonempty with
  | case1 text position found inductionHypothesis =>
    rw [pieces_last_found found]
    have whole := text_at_found found
    have restEnds : text.drop (position + pattern.length) <:+ text := List.drop_suffix ..
    rcases List.suffix_or_suffix_of_suffix ends restEnds with onwards | shorter
    · exact inductionHypothesis onwards
    · obtain ⟨front, split⟩ := shorter
      have frontEnds : front <:+ pattern := by
        obtain ⟨before, atEnd⟩ := ends
        rw [← split, ← List.append_assoc] at atEnd
        have same : before ++ front = text.take position ++ pattern :=
          List.append_cancel_right (atEnd.trans whole.symm)
        have frontInside : front <:+ text.take position ++ pattern := ⟨before, same⟩
        refine List.suffix_of_suffix_length_le frontInside (List.suffix_append ..) ?_
        rw [← split, List.length_append]
        omega
      rcases borderless front ⟨_, split⟩ frontEnds with none | all
      · apply inductionHypothesis
        rw [none, List.nil_append] at split
        rw [split]
      · have nothing : text.drop (position + pattern.length) = [] := by
          rw [all] at split
          exact List.append_right_eq_self.mp split
        have absent : occurrence pattern [] = none := by
          simpa [occurrence_none_iff] using nonempty
        rw [nothing, pieces_absent absent]
        rfl
  | case2 text absent => exact absurd ends.isInfix ((occurrence_none_iff pattern text).mp absent)

/-- The pattern does not overlap itself exactly if it is cut off at the end of every text
that ends with it. -/
theorem borderless_iff : Borderless pattern ↔
    ∀ text, pattern <:+ text → (pieces pattern nonempty text).getLast? = some [] := by
  constructor
  · exact fun borderless text ends => pieces_last_of_suffix borderless ends
  · rintro cut border ⟨behind, begins⟩ ⟨front, ends⟩
    have twice : front ++ pattern = pattern ++ behind := by
      rw [← begins, ← List.append_assoc, ends, begins]
    have found : occurrence pattern (pattern ++ behind) = some 0 :=
      found_at_start (List.prefix_append ..)
    have last := cut (pattern ++ behind) ⟨front, twice⟩
    rw [pieces_last_found found, Nat.zero_add, List.drop_left] at last
    by_cases nothing : behind = []
    · rw [nothing, List.append_nil] at begins
      exact Or.inr begins
    · have inside := (suffix_of_pieces_last nothing last).length_le
      rw [← begins, List.length_append] at inside
      exact Or.inl (List.length_eq_zero_iff.mp (by omega))

end Plugpp.Splitting
