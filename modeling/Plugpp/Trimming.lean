import Mathlib.Data.List.DropRight

/-!
# The core of a text

A text is blanks, a core and blanks again, where the core is empty or begins and
ends with a letter that is not blank. There is exactly one such core for every
text: drop the blanks at the front, then those at the back.

Which letters are blank is arbitrary.
-/

namespace Plugpp.Trimming

universe u
variable {α : Type u} {blank : α → Bool}

/-- `core` is what lies between the blanks at both ends of a text. -/
structure Core (blank : α → Bool) (text core : List α) : Prop where
  around : ∃ before behind, text = before ++ core ++ behind ∧
    (∀ letter ∈ before, blank letter = true) ∧ ∀ letter ∈ behind, blank letter = true
  starts : ∀ letter, core.head? = some letter → blank letter = false
  ends : ∀ letter, core.getLast? = some letter → blank letter = false

/-- Where a text does not begin with a blank, none is dropped. -/
theorem dropWhile_starts {core : List α}
    (starts : ∀ letter, core.head? = some letter → blank letter = false) :
    core.dropWhile blank = core := by
  cases core with
  | nil => rfl
  | cons first rest => exact List.dropWhile_cons_of_neg (by simp [starts first rfl])

/-- Where a text does not end with a blank, none is dropped from the back. -/
theorem rdropWhile_ends {core : List α}
    (ends : ∀ letter, core.getLast? = some letter → blank letter = false) :
    core.rdropWhile blank = core := by
  rw [List.rdropWhile_eq_self_iff]
  intro nonempty
  simp [ends _ (List.getLast?_eq_some_getLast nonempty)]

/-- Blanks at the back are dropped. -/
theorem rdropWhile_append_blank (text : List α) {behind : List α}
    (blankBehind : ∀ letter ∈ behind, blank letter = true) :
    (text ++ behind).rdropWhile blank = text.rdropWhile blank := by
  have reversed : ∀ letter ∈ behind.reverse, blank letter = true := by simpa using blankBehind
  rw [List.rdropWhile, List.reverse_append, List.dropWhile_append_of_pos reversed, List.rdropWhile]

/-- Dropping the blanks at both ends gives a core. -/
theorem core_dropped (blank : α → Bool) (text : List α) :
    Core blank text ((text.dropWhile blank).rdropWhile blank) where
  around := by
    refine ⟨text.takeWhile blank, (text.dropWhile blank).rtakeWhile blank, ?_, ?_, ?_⟩
    · rw [List.append_assoc, List.rdropWhile_append_rtakeWhile, List.takeWhile_append_dropWhile]
    · exact fun letter member => List.mem_takeWhile_imp member
    · exact fun letter member => List.mem_rtakeWhile_imp member
  starts := by
    intro letter first
    have same : (text.dropWhile blank).head? = some letter := by
      obtain ⟨behind, whole⟩ := List.rdropWhile_prefix blank (text.dropWhile blank)
      rw [← whole, List.head?_append, first, Option.some_or]
    have notBlank := List.head?_dropWhile_not blank text
    rw [same] at notBlank
    simpa using notBlank
  ends := by
    intro letter last
    have nonempty : (text.dropWhile blank).rdropWhile blank ≠ [] := by
      intro empty
      simp [empty] at last
    rw [List.getLast?_eq_some_getLast nonempty, Option.some_inj] at last
    rw [← last]
    simpa using List.rdropWhile_last_not blank _ nonempty

/-- A core is what dropping the blanks at both ends leaves. -/
theorem Core.eq_dropped {text core : List α} (isCore : Core blank text core) :
    core = (text.dropWhile blank).rdropWhile blank := by
  obtain ⟨before, behind, rfl, blankBefore, blankBehind⟩ := isCore.around
  rw [List.append_assoc, List.dropWhile_append_of_pos blankBefore]
  cases core with
  | nil =>
    rw [List.nil_append, List.dropWhile_eq_nil_iff.mpr blankBehind, List.rdropWhile_nil]
  | cons first rest =>
    rw [dropWhile_starts (by simpa using isCore.starts),
      rdropWhile_append_blank _ blankBehind, rdropWhile_ends isCore.ends]

/-- A text has only one core. -/
theorem Core.unique {text left right : List α} (leftCore : Core blank text left)
    (rightCore : Core blank text right) : left = right :=
  leftCore.eq_dropped.trans rightCore.eq_dropped.symm

/-! ## Words -/

/-- The runs of letters that are not blank. -/
def words (blank : α → Bool) (text : List α) : List (List α) :=
  (text.splitOnP blank).filter fun word => !word.isEmpty

/-- At a blank, words end. -/
theorem words_blank (left right : List α) {letter : α} (isBlank : blank letter = true) :
    words blank (left ++ letter :: right) = words blank left ++ words blank right := by
  rw [words, List.splitOnP_append_cons left right isBlank, List.filter_append, words, words]

/-- Without blanks, a text is one word, unless it is empty. -/
theorem words_single {word : List α} (nonempty : word ≠ [])
    (letters : ∀ letter ∈ word, blank letter = false) : words blank word = [word] := by
  rw [words, List.splitOnP_eq_singleton letters]
  simp [nonempty]

/-- A blank in front makes no difference. -/
theorem words_cons_blank {letter : α} (isBlank : blank letter = true) (text : List α) :
    words blank (letter :: text) = words blank text :=
  words_blank [] text isBlank

/-- Blanks in front make no difference. -/
theorem words_append_front {before : List α} (blanks : ∀ letter ∈ before, blank letter = true)
    (text : List α) : words blank (before ++ text) = words blank text := by
  induction before with
  | nil => rfl
  | cons letter before inductionHypothesis =>
    obtain ⟨isBlank, rest⟩ := List.forall_mem_cons.mp blanks
    rw [List.cons_append, words_cons_blank isBlank, inductionHypothesis rest]

/-- Blanks behind make no difference. -/
theorem words_append_back {behind : List α} (blanks : ∀ letter ∈ behind, blank letter = true)
    (text : List α) : words blank (text ++ behind) = words blank text := by
  cases behind with
  | nil => rw [List.append_nil]
  | cons letter behind =>
    obtain ⟨isBlank, rest⟩ := List.forall_mem_cons.mp blanks
    have nothing : words blank behind = [] := by
      rw [← List.append_nil behind, words_append_front rest]
      rfl
    rw [words_blank text behind isBlank, nothing, List.append_nil]

/-- The pieces between blanks have no blanks. -/
theorem pieces_clean (text : List α) :
    ∀ piece ∈ text.splitOnP blank, ∀ letter ∈ piece, blank letter = false := by
  induction text with
  | nil => simp
  | cons letter text inductionHypothesis =>
    rw [List.splitOnP_cons_eq_if_modifyHead]
    split
    · simpa using inductionHypothesis
    · next here =>
      obtain ⟨first, rest, split⟩ := List.exists_cons_of_ne_nil (List.splitOnP_ne_nil blank text)
      rw [split] at inductionHypothesis ⊢
      rw [List.modifyHead_cons]
      obtain ⟨firstClean, later⟩ := List.forall_mem_cons.mp inductionHypothesis
      refine List.forall_mem_cons.mpr ⟨List.forall_mem_cons.mpr ⟨?_, firstClean⟩, later⟩
      simpa using here

/-- Words are not empty, and have no blanks. -/
theorem words_clean (text : List α) :
    ∀ word ∈ words blank text, word ≠ [] ∧ ∀ letter ∈ word, blank letter = false := by
  intro word member
  obtain ⟨isPiece, nonempty⟩ := List.mem_filter.mp member
  exact ⟨by simpa using nonempty, pieces_clean text word isPiece⟩

/-- The first word lies behind the blanks in front. -/
theorem words_head (text : List α) :
    (words blank text).head? =
      let first := (text.dropWhile blank).takeWhile fun letter => !blank letter
      if first = [] then none else some first := by
  have behindBlanks : words blank text = words blank (text.dropWhile blank) := by
    conv => lhs; rw [← List.takeWhile_append_dropWhile (p := blank) (l := text)]
    exact words_append_front (fun letter member => List.mem_takeWhile_imp member) _
  have starts := List.head?_dropWhile_not blank text
  rw [behindBlanks]
  generalize text.dropWhile blank = rest at starts
  cases rest with
  | nil => rfl
  | cons letter rest =>
    have isLetter : blank letter = false := by simpa using starts
    have letters : ∀ other ∈ (letter :: rest).takeWhile fun letter => !blank letter,
        blank other = false := by
      intro other member
      simpa using List.mem_takeWhile_imp member
    have nonempty : (letter :: rest).takeWhile (fun letter => !blank letter) ≠ [] := by
      simp [isLetter]
    have whole := (letter :: rest).takeWhile_append_dropWhile (p := fun letter => !blank letter)
    have next := List.head?_dropWhile_not (fun letter => !blank letter) (letter :: rest)
    obtain ⟨first, isFirst⟩ : ∃ first, first = (letter :: rest).takeWhile fun letter =>
      !blank letter := ⟨_, rfl⟩
    obtain ⟨behind, isBehind⟩ : ∃ behind, behind = (letter :: rest).dropWhile fun letter =>
      !blank letter := ⟨_, rfl⟩
    rw [← isFirst] at letters nonempty whole ⊢
    rw [← isBehind] at next whole
    rw [if_neg nonempty, ← whole]
    cases behind with
    | nil => rw [List.append_nil, words_single nonempty letters, List.head?_cons]
    | cons blankLetter behind =>
      rw [words_blank _ _ (by simpa using next), words_single nonempty letters]
      rfl

/-- Words with a blank between them are read back. -/
theorem words_intercalate {separator : α} (isBlank : blank separator = true)
    (items : List (List α))
    (clean : ∀ item ∈ items, item ≠ [] ∧ ∀ letter ∈ item, blank letter = false) :
    words blank ([separator].intercalate items) = items := by
  induction items with
  | nil => rfl
  | cons item rest inductionHypothesis =>
    obtain ⟨⟨nonempty, letters⟩, later⟩ := List.forall_mem_cons.mp clean
    cases rest with
    | nil => rw [List.intercalate_singleton, words_single nonempty letters]
    | cons next rest =>
      rw [List.intercalate_cons_cons, List.append_assoc, List.singleton_append,
        words_blank _ _ isBlank, words_single nonempty letters, inductionHypothesis later]
      rfl

/-- Words with a blank between them are their own core. -/
theorem core_intercalate {separator : α} (items : List (List α))
    (clean : ∀ item ∈ items, item ≠ [] ∧ ∀ letter ∈ item, blank letter = false) :
    Core blank ([separator].intercalate items) ([separator].intercalate items) where
  around := ⟨[], [], by simp, by simp, by simp⟩
  starts := by
    intro letter first
    match items with
    | [] => simp at first
    | [item] =>
      rw [List.intercalate_singleton] at first
      exact (clean item (by simp)).2 letter (List.mem_of_head? first)
    | item :: next :: rest =>
      obtain ⟨nonempty, letters⟩ := clean item (by simp)
      obtain ⟨front, others, rfl⟩ := List.exists_cons_of_ne_nil nonempty
      rw [List.intercalate_cons_cons] at first
      have same : front = letter := by simpa using first
      exact letters letter (by simp [same])
  ends := by
    induction items with
    | nil => simp
    | cons item rest inductionHypothesis =>
      have later := inductionHypothesis fun item member => clean item (List.mem_cons_of_mem _ member)
      intro letter last
      cases rest with
      | nil =>
        rw [List.intercalate_singleton] at last
        exact (clean item (by simp)).2 letter (List.mem_of_getLast? last)
      | cons next rest =>
        have nonempty : [separator].intercalate (next :: rest) ≠ [] := by
          cases rest with
          | nil =>
            rw [List.intercalate_singleton]
            exact (clean next (by simp)).1
          | cons _ _ => simp [List.intercalate_cons_cons]
        rw [List.intercalate_cons_cons, List.getLast?_append,
          List.getLast?_eq_some_getLast nonempty, Option.some_or] at last
        exact later letter (last ▸ List.getLast?_eq_some_getLast nonempty)

end Plugpp.Trimming
