import Mathlib.Data.List.TakeWhile

/-!
# First occurrences, and fields behind a separator

`occurrence` scans a text from the left for the first place where a pattern
starts. A delimited text writes a separator before each of its fields. Searching
such a text for one separated name finds the first field that equals the name
and has a field after it, whatever the fields mean: the search does not see
which positions hold names and which hold values. `lastPosition` looks from the
other end for a single element.

The alphabet, the separator and the fields are arbitrary; the fields and the
name must be free of the separator.
-/

namespace Plugpp.Search

universe u
variable {α : Type u} [DecidableEq α]

/-- Least position at which the pattern starts, scanning from the left. -/
def occurrence (pattern : List α) : List α → Option Nat
  | [] => if pattern.isPrefixOf [] then some 0 else none
  | first :: rest =>
      if pattern.isPrefixOf (first :: rest) then some 0
      else (occurrence pattern rest).map (· + 1)

/-- A found position starts the pattern, lies within the text and is the least
such position. -/
theorem occurrence_some (pattern text : List α) (position : Nat)
    (found : occurrence pattern text = some position) :
    pattern <+: text.drop position ∧ position ≤ text.length ∧
      ∀ earlier < position, ¬ pattern <+: text.drop earlier := by
  induction text generalizing position with
  | nil =>
    by_cases here : pattern.isPrefixOf [] = true
    · have atStart : position = 0 := by simpa [occurrence, here] using found.symm
      subst position
      exact ⟨List.isPrefixOf_iff_prefix.mp here, Nat.le_refl 0, by simp⟩
    · simp [occurrence, here] at found
  | cons first rest inductionHypothesis =>
    by_cases here : pattern.isPrefixOf (first :: rest) = true
    · have atStart : position = 0 := by simpa [occurrence, here] using found.symm
      subst position
      exact ⟨List.isPrefixOf_iff_prefix.mp here, Nat.zero_le _, by simp⟩
    · simp only [occurrence, here, Bool.false_eq_true, ↓reduceIte, Option.map_eq_some_iff] at found
      obtain ⟨previous, foundLater, rfl⟩ := found
      obtain ⟨starts, inside, least⟩ := inductionHypothesis previous foundLater
      refine ⟨by simpa using starts, by simpa using inside, ?_⟩
      intro earlier before
      cases earlier with
      | zero =>
        intro starts
        exact here (List.isPrefixOf_iff_prefix.mpr starts)
      | succ earlier => simpa using least earlier (by omega)

/-- The search fails exactly when the pattern occurs nowhere in the text. -/
theorem occurrence_none_iff (pattern text : List α) :
    occurrence pattern text = none ↔ ¬ pattern <:+: text := by
  induction text with
  | nil => simp [occurrence]
  | cons first rest inductionHypothesis =>
    rw [List.infix_cons_iff]
    by_cases here : pattern.isPrefixOf (first :: rest) = true
    · have starts := List.isPrefixOf_iff_prefix.mp here
      simp [occurrence, starts]
    · have unmatched : ¬ pattern <+: first :: rest :=
        fun starts => here (List.isPrefixOf_iff_prefix.mpr starts)
      simp [occurrence, unmatched, inductionHypothesis]

/-- The search succeeds exactly when the pattern occurs in the text. -/
theorem occurrence_isSome_iff (pattern text : List α) :
    (occurrence pattern text).isSome = true ↔ pattern <:+: text := by
  rw [Option.isSome_iff_ne_none, ne_eq, occurrence_none_iff, not_not]

/-- Elements that differ from the pattern's first element are skipped. -/
theorem occurrence_skip (head : α) (tail before rest : List α) (absent : head ∉ before) :
    occurrence (head :: tail) (before ++ rest) =
      (occurrence (head :: tail) rest).map (· + before.length) := by
  induction before with
  | nil => simp
  | cons first before inductionHypothesis =>
    have different : (head == first) = false := by
      simpa using fun same : head = first => absent (by simp [same])
    have later := inductionHypothesis (fun member => absent (List.mem_cons_of_mem _ member))
    simp only [List.cons_append, occurrence, List.isPrefixOf_cons_cons, different,
      Bool.false_and, Bool.false_eq_true, ↓reduceIte, later, Option.map_map, List.length_cons]
    congr 1

/-- A pattern is found where it follows elements that differ from its first one. -/
theorem occurrence_found (head : α) (tail before rest : List α) (absent : head ∉ before) :
    occurrence (head :: tail) (before ++ (head :: tail) ++ rest) = some before.length := by
  have here : (head :: tail).isPrefixOf (head :: (tail ++ rest)) = true := by
    rw [List.isPrefixOf_iff_prefix]
    exact List.prefix_append (head :: tail) rest
  rw [List.append_assoc, occurrence_skip head tail before _ absent, List.cons_append, occurrence,
    if_pos here, Option.map_some, Nat.zero_add]

/-- Searching for a single element finds where the text first leaves the others. -/
theorem occurrence_single (element : α) (before rest : List α) (absent : element ∉ before) :
    occurrence [element] (before ++ element :: rest) = some before.length := by
  simpa using occurrence_found element [] before rest absent

/-- A single element that does not occur is not found. -/
theorem occurrence_single_none (element : α) (text : List α) (absent : element ∉ text) :
    occurrence [element] text = none := by
  have skipped := occurrence_skip element [] text [] absent
  simpa [occurrence] using skipped

/-- Cutting a text where an element is found, or nowhere, leaves what precedes
the first occurrence of that element. -/
theorem cut_at_element (element : α) (text : List α) :
    (match occurrence [element] text with
      | some position => text.take position
      | none => text) = text.takeWhile (· ≠ element) := by
  by_cases present : element ∈ text
  · obtain ⟨before, rest, rfl, absent⟩ := List.eq_append_cons_of_mem present
    have others : ∀ letter ∈ before, decide (letter ≠ element) = true := by
      intro letter member
      simpa using fun same : letter = element => absent (same ▸ member)
    rw [occurrence_single element before rest absent, List.takeWhile_append_of_pos others]
    simp
  · have others : ∀ letter ∈ text, decide (letter ≠ element) = true := by
      intro letter member
      simpa using fun same : letter = element => present (same ▸ member)
    rw [occurrence_single_none element text present]
    exact (List.takeWhile_eq_self_iff.mpr others).symm

omit [DecidableEq α] in
/-- The first position that satisfies a predicate lies behind what does not. -/
theorem firstPosition_found (predicate : α → Bool) (before : List α) (element : α)
    (after : List α) (ahead : ∀ letter ∈ before, predicate letter = false)
    (here : predicate element = true) :
    (before ++ element :: after).findIdx? predicate = some before.length := by
  have absent : before.findIdx? predicate = none := by
    simpa [List.findIdx?_eq_none_iff] using ahead
  simp [List.findIdx?_append, absent, List.findIdx?_cons, here]

/-! ## The last position -/

/-- Greatest position whose element satisfies a predicate. -/
def lastPosition (predicate : α → Bool) : List α → Option Nat
  | [] => none
  | first :: rest =>
    match lastPosition predicate rest with
    | some position => some (position + 1)
    | none => if predicate first then some 0 else none

omit [DecidableEq α] in
/-- Where nothing satisfies the predicate there is no last position. -/
theorem lastPosition_none (predicate : α → Bool) (text : List α)
    (absent : ∀ letter ∈ text, predicate letter = false) :
    lastPosition predicate text = none := by
  induction text with
  | nil => rfl
  | cons first rest inductionHypothesis =>
    have later := inductionHypothesis fun letter member => absent letter (by simp [member])
    simp [lastPosition, later, absent first (by simp)]

omit [DecidableEq α] in
/-- The last position is the one behind which nothing satisfies the predicate. -/
theorem lastPosition_found (predicate : α → Bool) (before : List α) (element : α)
    (after : List α) (here : predicate element = true)
    (behind : ∀ letter ∈ after, predicate letter = false) :
    lastPosition predicate (before ++ element :: after) = some before.length := by
  induction before with
  | nil => simp [lastPosition, lastPosition_none predicate after behind, here]
  | cons first before inductionHypothesis => simp [lastPosition, inductionHypothesis]

/-! ## Fields behind a separator -/

/-- Each field, with the separator written before it. -/
def delimited (separator : α) (fields : List (List α)) : List α :=
  fields.flatMap (separator :: ·)

/-- The field after the first one that equals the name and is not the last. -/
def following (name : List α) : List (List α) → Option (List α)
  | [] => none
  | [_] => none
  | field :: next :: rest => if field = name then some next else following name (next :: rest)

omit [DecidableEq α] in
/-- A field without the separator is the name exactly when the separated name
starts at the field and another field follows.

The separator after the name can only match the separator before the next
field, so the match ends where the field ends. -/
theorem name_starts_iff (separator : α) (name field : List α) (rest : List (List α))
    (nameFree : separator ∉ name) (fieldFree : separator ∉ field) :
    separator :: (name ++ [separator]) <+: delimited separator (field :: rest) ↔
      field = name ∧ rest ≠ [] := by
  have starts : separator :: (name ++ [separator]) <+: delimited separator (field :: rest) ↔
      name ++ [separator] <+: field ++ delimited separator rest := by
    simp [delimited]
  rw [starts]
  induction name generalizing field with
  | nil =>
    cases field with
    | nil => cases rest <;> simp [delimited]
    | cons first field =>
      have different : separator ≠ first := fun same => fieldFree (by simp [same])
      simp [different]
  | cons letter name inductionHypothesis =>
    have nameTail : separator ∉ name := fun member => nameFree (List.mem_cons_of_mem _ member)
    have letterDiffers : letter ≠ separator := fun same => nameFree (by simp [same])
    cases field with
    | nil => cases rest <;> simp [delimited, letterDiffers]
    | cons first field =>
      have fieldTail : separator ∉ field := fun member => fieldFree (List.mem_cons_of_mem _ member)
      have tail := inductionHypothesis field nameTail fieldTail (by simp [delimited])
      simp only [List.cons_append, List.cons_prefix_cons, tail, List.cons.injEq]
      constructor
      · rintro ⟨rfl, rfl, nonempty⟩
        exact ⟨⟨rfl, rfl⟩, nonempty⟩
      · rintro ⟨⟨rfl, rfl⟩, nonempty⟩
        exact ⟨rfl, rfl, nonempty⟩

/-- The text up to the first separator of a field and what is written after it. -/
theorem field_read (separator : α) (field : List α) (rest : List (List α))
    (fieldFree : separator ∉ field) :
    (field ++ delimited separator rest).takeWhile (· ≠ separator) = field := by
  have inside : ∀ letter ∈ field, decide (letter ≠ separator) = true := by
    intro letter member
    simpa using fun same : letter = separator => fieldFree (same ▸ member)
  rw [List.takeWhile_append_of_pos inside]
  cases rest <;> simp [delimited]

/-- Searching a delimited text for a separated name, and reading from behind the
match to the next separator, gives the field after the first non-final field
that equals the name.

Induct over the fields. Where the first field is the name and has a successor,
the search stops there and the successor is read. Otherwise the match cannot
start inside the field, which holds no separator, and the search continues
behind it at the same remaining fields. -/
theorem search_reads_following (separator : α) (name : List α) (fields : List (List α))
    (nameFree : separator ∉ name) (fieldsFree : ∀ field ∈ fields, separator ∉ field) :
    (occurrence (separator :: (name ++ [separator])) (delimited separator fields)).map
      (fun position => ((delimited separator fields).drop
        (position + (name.length + 2))).takeWhile (· ≠ separator)) = following name fields := by
  induction fields with
  | nil => simp [delimited, occurrence, following]
  | cons field rest inductionHypothesis =>
    have fieldFree : separator ∉ field := fieldsFree field (by simp)
    have restFree : ∀ field ∈ rest, separator ∉ field :=
      fun field member => fieldsFree field (List.mem_cons_of_mem _ member)
    have text : delimited separator (field :: rest) =
        separator :: (field ++ delimited separator rest) := by simp [delimited]
    have start := name_starts_iff separator name field rest nameFree fieldFree
    by_cases here : field = name ∧ rest ≠ []
    · obtain ⟨rfl, nonempty⟩ := here
      obtain ⟨next, after, rfl⟩ := List.exists_cons_of_ne_nil nonempty
      have matched : (separator :: (field ++ [separator])).isPrefixOf
          (separator :: (field ++ delimited separator (next :: after))) = true := by
        rw [List.isPrefixOf_iff_prefix, ← text]
        exact start.mpr ⟨rfl, nonempty⟩
      have behind : (separator :: (field ++ delimited separator (next :: after))).drop
          (0 + (field.length + 2)) = next ++ delimited separator after := by
        simp [delimited]
      rw [text, occurrence, if_pos matched, Option.map_some, behind,
        field_read separator next after (restFree next (by simp))]
      simp [following]
    · have unmatched : ¬ (separator :: (name ++ [separator])).isPrefixOf
          (separator :: (field ++ delimited separator rest)) = true := by
        rw [List.isPrefixOf_iff_prefix, ← text]
        exact fun starts => here (start.mp starts)
      have later : following name (field :: rest) = following name rest := by
        cases rest with
        | nil => rfl
        | cons next after =>
          have different : field ≠ name := fun same => here ⟨same, by simp⟩
          simp [following, different]
      have behind : ∀ position, (separator :: (field ++ delimited separator rest)).drop
          (position + field.length + 1 + (name.length + 2)) =
            (delimited separator rest).drop (position + (name.length + 2)) := by
        intro position
        rw [show position + field.length + 1 + (name.length + 2) =
          (field.length + (position + (name.length + 2))) + 1 by omega]
        rw [List.drop_succ_cons, List.drop_append]
        simp
      rw [text, occurrence, if_neg unmatched,
        occurrence_skip separator (name ++ [separator]) field _ fieldFree, later,
        ← inductionHypothesis restFree]
      simp only [Option.map_map]
      congr 1
      funext position
      exact congrArg _ (behind position)

/-! ## Several fields in a row -/

omit [DecidableEq α] in
/-- A word of a text ends where the next separator stands, so two texts agree up to a
separator exactly if their first words are the same and the rest agrees. -/
theorem word_prefix_iff (separator : α) (word other pattern rest : List α)
    (wordFree : separator ∉ word) (otherFree : separator ∉ other)
    (ends : rest = [] ∨ ∃ behind, rest = separator :: behind) :
    word ++ separator :: pattern <+: other ++ rest ↔
      word = other ∧ separator :: pattern <+: rest := by
  induction word generalizing other with
  | nil =>
    cases other with
    | nil => simp
    | cons first other =>
      have different : separator ≠ first := fun same => otherFree (by simp [same])
      simp [different]
  | cons letter word inductionHypothesis =>
    have wordTail : separator ∉ word := fun member => wordFree (List.mem_cons_of_mem _ member)
    have letterDiffers : letter ≠ separator := fun same => wordFree (by simp [same])
    cases other with
    | nil => rcases ends with rfl | ⟨behind, rfl⟩ <;> simp [letterDiffers]
    | cons first other =>
      have otherTail : separator ∉ other := fun member => otherFree (List.mem_cons_of_mem _ member)
      have tail := inductionHypothesis other wordTail otherTail
      simp only [List.cons_append, List.cons_prefix_cons, tail, List.cons.injEq, and_assoc]

omit [DecidableEq α] in
/-- What a delimited text begins with. -/
theorem delimited_ends (separator : α) (fields : List (List α)) :
    delimited separator fields = [] ∨ ∃ behind, delimited separator fields = separator :: behind := by
  cases fields with
  | nil => exact Or.inl rfl
  | cons field rest => exact Or.inr ⟨field ++ delimited separator rest, by simp [delimited]⟩

omit [DecidableEq α] in
/-- Fields and a separator behind them begin a delimited text exactly if they are its first
fields and another one follows. -/
theorem fields_start_iff (separator : α) (names fields : List (List α))
    (namesFree : ∀ name ∈ names, separator ∉ name)
    (fieldsFree : ∀ field ∈ fields, separator ∉ field) :
    delimited separator names ++ [separator] <+: delimited separator fields ↔
      names <+: fields ∧ names.length < fields.length := by
  induction names generalizing fields with
  | nil => cases fields <;> simp [delimited]
  | cons name names inductionHypothesis =>
    cases fields with
    | nil => simp [delimited]
    | cons field rest =>
      have onwards := inductionHypothesis rest
        (fun name member => namesFree name (List.mem_cons_of_mem _ member))
        (fun field member => fieldsFree field (List.mem_cons_of_mem _ member))
      obtain ⟨pattern, begins⟩ : ∃ pattern,
          delimited separator names ++ [separator] = separator :: pattern := by
        cases names <;> simp [delimited]
      have whole : delimited separator (name :: names) ++ [separator] =
          separator :: (name ++ (delimited separator names ++ [separator])) := by
        simp [delimited]
      have text : delimited separator (field :: rest) =
          separator :: (field ++ delimited separator rest) := by simp [delimited]
      rw [whole, text, List.cons_prefix_cons, begins,
        word_prefix_iff separator name field pattern _ (namesFree name (by simp))
          (fieldsFree field (by simp)) (delimited_ends separator rest), ← begins, onwards]
      simp [List.cons_prefix_cons, and_assoc]

/-- The field behind the first place where some fields stand in a row. -/
def behindFirst (names : List (List α)) : List (List α) → Option (List α)
  | [] => none
  | field :: rest =>
      if names <+: field :: rest ∧ names.length < (field :: rest).length then
        (field :: rest)[names.length]?
      else behindFirst names rest

/-- Searching a delimited text for several fields in a row with a separator behind them, and
reading on to the next separator, gives the field behind the first place where they stand. -/
theorem search_reads_behind (separator : α) (name : List α) (names fields : List (List α))
    (namesFree : ∀ field ∈ name :: names, separator ∉ field)
    (fieldsFree : ∀ field ∈ fields, separator ∉ field) :
    (occurrence (delimited separator (name :: names) ++ [separator])
      (delimited separator fields)).map (fun position => ((delimited separator fields).drop
        (position + (delimited separator (name :: names) ++ [separator]).length)).takeWhile
          (· ≠ separator)) = behindFirst (name :: names) fields := by
  obtain ⟨tail, pattern⟩ : ∃ tail,
      delimited separator (name :: names) ++ [separator] = separator :: tail := by simp [delimited]
  rw [pattern]
  induction fields with
  | nil => simp [delimited, occurrence, behindFirst]
  | cons field rest inductionHypothesis =>
    have fieldFree : separator ∉ field := fieldsFree field (by simp)
    have restFree : ∀ field ∈ rest, separator ∉ field :=
      fun field member => fieldsFree field (List.mem_cons_of_mem _ member)
    have text : delimited separator (field :: rest) =
        separator :: (field ++ delimited separator rest) := by simp [delimited]
    have start := fields_start_iff separator (name :: names) (field :: rest) namesFree fieldsFree
    rw [pattern] at start
    by_cases here : name :: names <+: field :: rest ∧ (name :: names).length < (field :: rest).length
    · have matched : (separator :: tail).isPrefixOf
          (separator :: (field ++ delimited separator rest)) = true := by
        rw [List.isPrefixOf_iff_prefix, ← text]
        exact start.mpr here
      obtain ⟨next, after, split⟩ : ∃ next after, field :: rest = name :: names ++ next :: after := by
        obtain ⟨⟨behind, whole⟩, longer⟩ := here
        rw [← whole, List.length_append] at longer
        obtain ⟨next, after, rfl⟩ :=
          List.exists_cons_of_length_pos (show 0 < behind.length by omega)
        exact ⟨next, after, whole.symm⟩
      have behind : (delimited separator (field :: rest)).drop (0 + (separator :: tail).length) =
          next ++ delimited separator after := by
        have whole : delimited separator (field :: rest) =
            (separator :: tail) ++ (next ++ delimited separator after) := by
          rw [split, ← pattern]
          simp [delimited]
        rw [whole, Nat.zero_add, List.drop_left]
      have nextFree : separator ∉ next := fieldsFree next (by rw [split]; simp)
      rw [behindFirst, if_pos here, split, List.getElem?_append_right (Nat.le_refl _),
        Nat.sub_self, List.getElem?_cons_zero, ← split, text, occurrence, if_pos matched,
        Option.map_some, ← text, behind, field_read separator next after nextFree]
    · have unmatched : ¬ (separator :: tail).isPrefixOf
          (separator :: (field ++ delimited separator rest)) = true := by
        rw [List.isPrefixOf_iff_prefix, ← text]
        exact fun starts => here (start.mp starts)
      have behind : ∀ position, (separator :: (field ++ delimited separator rest)).drop
          (position + field.length + 1 + (separator :: tail).length) =
            (delimited separator rest).drop (position + (separator :: tail).length) := by
        intro position
        rw [show position + field.length + 1 + (separator :: tail).length =
          (field.length + (position + (separator :: tail).length)) + 1 by omega]
        rw [List.drop_succ_cons, List.drop_append]
        simp
      rw [behindFirst, if_neg here, text, occurrence, if_neg unmatched,
        occurrence_skip separator tail field _ fieldFree, ← inductionHypothesis restFree]
      simp only [Option.map_map]
      congr 1
      funext position
      exact congrArg _ (behind position)

/-- That field stands behind the first of these places, and there is none exactly if there
is no such place. -/
theorem behindFirst_eq_some_iff (names fields : List (List α)) (value : List α) :
    behindFirst names fields = some value ↔ ∃ position,
      names <+: fields.drop position ∧ fields[position + names.length]? = some value ∧
      ∀ earlier < position, ¬ names <+: fields.drop earlier := by
  induction fields with
  | nil => simp [behindFirst]
  | cons field rest inductionHypothesis =>
    rw [behindFirst]
    split
    · next here =>
      constructor
      · intro found
        exact ⟨0, by simpa using here.1, by simpa using found, by simp⟩
      · rintro ⟨position, _, found, least⟩
        cases position with
        | zero => simpa using found
        | succ position => exact absurd (by simpa using here.1) (least 0 (by omega))
    · next here =>
      rw [inductionHypothesis]
      constructor
      · rintro ⟨position, starts, found, least⟩
        refine ⟨position + 1, by simpa using starts, ?_, ?_⟩
        · rw [Nat.add_right_comm, List.getElem?_cons_succ]
          exact found
        · intro earlier before starts
          cases earlier with
          | zero =>
            have inside := (List.getElem?_eq_some_iff.mp found).1
            exact here ⟨by simpa using starts, by rw [List.length_cons]; omega⟩
          | succ earlier => exact least earlier (by omega) (by simpa using starts)
      · rintro ⟨position, starts, found, least⟩
        cases position with
        | zero =>
          refine absurd ⟨by simpa using starts, ?_⟩ here
          rw [Nat.zero_add] at found
          exact (List.getElem?_eq_some_iff.mp found).1
        | succ position =>
          rw [Nat.add_right_comm, List.getElem?_cons_succ] at found
          refine ⟨position, by simpa using starts, found, ?_⟩
          intro earlier before starts
          exact least (earlier + 1) (by omega) (by simpa using starts)

end Plugpp.Search
