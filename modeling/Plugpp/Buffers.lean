import Mathlib.Logic.Function.Basic
import Plugpp.Bytes

/-!
# Character buffers of the host

A `char*` that the host hands out gives access to the bytes from it on. Nothing
stops a write behind the memory the host meant; a buffer therefore has a byte at
every index and remembers the indices written, so that a write out of bounds is
visible.

`strcpy` and `strncpy` are the standard library's: the first writes the source
and its NUL, the second writes exactly as many bytes as it is told, padding a
short source with NULs and leaving a long one without.
-/

namespace Plugpp

open Bytes

/-- The bytes from a pointer on, and the indices that were written. -/
structure Buffer where
  bytes : Nat → UInt8
  stores : List Nat

namespace Buffer

/-- Write one byte. -/
def store (buffer : Buffer) (index : Nat) (byte : UInt8) : Buffer :=
  ⟨Function.update buffer.bytes index byte, index :: buffer.stores⟩

/-- Write bytes one after another from an index on. -/
def storeAll (buffer : Buffer) (start : Nat) : Bytes → Buffer
  | [] => buffer
  | byte :: rest => (buffer.store start byte).storeAll (start + 1) rest

/-- A NUL-terminated text starts at the pointer. -/
def Holds (buffer : Buffer) (text : Bytes) : Prop :=
  0 ∉ text ∧ (∀ index byte, text[index]? = some byte → buffer.bytes index = byte) ∧
    buffer.bytes text.length = 0

/-- `strcpy`: the source's text and its NUL. -/
def strcpy (dest : Buffer) (src : Bytes) : Buffer :=
  dest.storeAll 0 (src.cString ++ [0])

/-- `strncpy`: the first `count` bytes of the source's text followed by NULs. -/
def strncpy (dest : Buffer) (src : Bytes) (count : Nat) : Buffer :=
  dest.storeAll 0 (src.cString.take count ++ List.replicate (count - src.cString.length) 0)

/-- Bytes outside the written interval stay. -/
theorem storeAll_outside (buffer : Buffer) (start index : Nat) (text : Bytes)
    (outside : index < start ∨ start + text.length ≤ index) :
    (buffer.storeAll start text).bytes index = buffer.bytes index := by
  induction text generalizing buffer start with
  | nil => rfl
  | cons byte rest inductionHypothesis =>
    simp only [List.length_cons] at outside
    have different : index ≠ start := by omega
    rw [storeAll, inductionHypothesis _ _ (by omega)]
    simp [store, different]

/-- Inside the written interval the bytes are the text's. -/
theorem storeAll_inside (buffer : Buffer) (start index : Nat) (text : Bytes) (byte : UInt8)
    (inside : text[index]? = some byte) :
    (buffer.storeAll start text).bytes (start + index) = byte := by
  induction text generalizing buffer start index with
  | nil => simp at inside
  | cons first rest inductionHypothesis =>
    cases index with
    | zero =>
      rw [storeAll, storeAll_outside _ _ _ _ (by omega)]
      simpa [store] using inside
    | succ index =>
      rw [storeAll, show start + (index + 1) = start + 1 + index by omega]
      apply inductionHypothesis
      simpa using inside

/-- The indices written are those of the interval. -/
theorem mem_stores_storeAll (buffer : Buffer) (start index : Nat) (text : Bytes) :
    index ∈ (buffer.storeAll start text).stores ↔
      (start ≤ index ∧ index < start + text.length) ∨ index ∈ buffer.stores := by
  induction text generalizing buffer start with
  | nil =>
    simp only [storeAll, List.length_nil, Nat.add_zero]
    constructor
    · exact Or.inr
    · rintro (⟨above, below⟩ | member)
      · omega
      · exact member
  | cons byte rest inductionHypothesis =>
    simp only [storeAll, inductionHypothesis, store, List.mem_cons, List.length_cons]
    constructor
    · rintro (inside | rfl | older)
      · exact Or.inl (by omega)
      · exact Or.inl (by omega)
      · exact Or.inr older
    · rintro (inside | older)
      · by_cases first : index = start
        · exact Or.inr (Or.inl first)
        · exact Or.inl (by omega)
      · exact Or.inr (Or.inr older)

/-- A buffer holds one text only: the text ends at the first NUL. -/
theorem holds_unique {buffer : Buffer} {left right : Bytes} (holdsLeft : buffer.Holds left)
    (holdsRight : buffer.Holds right) : left = right := by
  have shorter : ∀ {one other : Bytes}, buffer.Holds one → buffer.Holds other →
      one.length ≤ other.length := by
    intro one other holdsOne holdsOther
    by_contra longer
    have inside : other.length < one.length := by omega
    have read := holdsOne.2.1 other.length _ (List.getElem?_eq_getElem inside)
    rw [holdsOther.2.2] at read
    exact holdsOne.1 (read ▸ List.getElem_mem inside)
  have sameLength : left.length = right.length :=
    Nat.le_antisymm (shorter holdsLeft holdsRight) (shorter holdsRight holdsLeft)
  apply List.ext_getElem sameLength
  intro index inLeft inRight
  have readLeft := holdsLeft.2.1 index _ (List.getElem?_eq_getElem inLeft)
  have readRight := holdsRight.2.1 index _ (List.getElem?_eq_getElem inRight)
  exact readLeft.symm.trans readRight

/-- The buffer is an empty string exactly when its first byte is NUL. -/
theorem holds_nil_iff (buffer : Buffer) : buffer.Holds [] ↔ buffer.bytes 0 = 0 := by
  simp [Holds]

/-- The first byte of a buffer that holds a text is NUL exactly if the text is empty. -/
theorem first_of_holds {buffer : Buffer} {text : Bytes} (holds : buffer.Holds text) :
    buffer.bytes 0 = 0 ↔ text = [] := by
  constructor
  · intro terminated
    exact holds_unique holds ((holds_nil_iff buffer).mpr terminated)
  · rintro rfl
    exact (holds_nil_iff buffer).mp holds

/-- Storing a NUL-free text and a NUL behind it makes the buffer hold the text. -/
theorem holds_storeAll (buffer : Buffer) (text padding : Bytes) (free : 0 ∉ text)
    (terminated : padding[0]? = some 0) : (buffer.storeAll 0 (text ++ padding)).Holds text := by
  refine ⟨free, ?_, ?_⟩
  · intro index byte inside
    have position := (List.getElem?_eq_some_iff.mp inside).1
    have stored := storeAll_inside buffer 0 index (text ++ padding) byte
      (by rwa [List.getElem?_append_left position])
    rwa [Nat.zero_add] at stored
  · have stored := storeAll_inside buffer 0 text.length (text ++ padding) 0
      (by rwa [List.getElem?_append_right (Nat.le_refl _), Nat.sub_self])
    rwa [Nat.zero_add] at stored

/-- `strcpy` leaves the source's text, whatever its length. -/
theorem strcpy_holds (dest : Buffer) (src : Bytes) : (dest.strcpy src).Holds src.cString :=
  holds_storeAll dest _ _ (zero_not_mem_cString src) rfl

/-- `strcpy` writes one byte more than the source's text is long. -/
theorem mem_stores_strcpy (dest : Buffer) (src : Bytes) (index : Nat) :
    index ∈ (dest.strcpy src).stores ↔ index ≤ src.cString.length ∨ index ∈ dest.stores := by
  simp only [strcpy, mem_stores_storeAll, List.length_append, List.length_singleton, Nat.zero_le,
    true_and, Nat.zero_add, Nat.lt_add_one_iff]

/-- `strncpy` writes exactly the first `count` indices. -/
theorem mem_stores_strncpy (dest : Buffer) (src : Bytes) (count index : Nat) :
    index ∈ (dest.strncpy src count).stores ↔ index < count ∨ index ∈ dest.stores := by
  have size : (src.cString.take count ++
      List.replicate (count - src.cString.length) (0 : UInt8)).length = count := by
    simp only [List.length_append, List.length_take, List.length_replicate]
    omega
  simp [strncpy, mem_stores_storeAll, size]

/-- A source shorter than the count is left whole and terminated. -/
theorem strncpy_holds (dest : Buffer) (src : Bytes) (count : Nat)
    (short : src.cString.length < count) : (dest.strncpy src count).Holds src.cString := by
  have whole : src.cString.take count = src.cString :=
    List.take_of_length_le (Nat.le_of_lt short)
  rw [strncpy, whole]
  apply holds_storeAll _ _ _ (zero_not_mem_cString src)
  rw [List.getElem?_replicate_of_lt (by omega)]

/-- A source at least as long as the count is cut there, and the byte behind it is
left as it was: the text is terminated only if that byte already was a NUL. -/
theorem strncpy_holds_take_iff (dest : Buffer) (src : Bytes) (count : Nat)
    (long : count ≤ src.cString.length) :
    (dest.strncpy src count).Holds (src.cString.take count) ↔ dest.bytes count = 0 := by
  have noPadding : count - src.cString.length = 0 := by omega
  have size : (src.cString.take count).length = count := by simp [long]
  have behind : (dest.strncpy src count).bytes count = dest.bytes count := by
    simp only [strncpy, noPadding, List.replicate_zero, List.append_nil]
    exact storeAll_outside _ _ _ _ (by omega)
  constructor
  · intro holds
    have terminated := holds.2.2
    rwa [size, behind] at terminated
  · intro terminated
    refine ⟨fun member => zero_not_mem_cString src (List.mem_of_mem_take member), ?_, ?_⟩
    · intro index byte inside
      have stored := storeAll_inside dest 0 index _ byte inside
      simpa [strncpy, noPadding] using stored
    · rwa [size, behind]

/-- Such a source is never terminated one byte earlier: that byte is its own. -/
theorem strncpy_not_holds (dest : Buffer) (src : Bytes) (count : Nat)
    (long : count ≤ src.cString.length) (positive : 0 < count) :
    ¬ (dest.strncpy src count).Holds (src.cString.take (count - 1)) := by
  intro holds
  have inside : count - 1 < src.cString.length := by omega
  have size : (src.cString.take (count - 1)).length = count - 1 := by simp; omega
  have written : (src.cString.take count)[count - 1]? = some src.cString[count - 1] := by
    rw [List.getElem?_take_of_lt (by omega), List.getElem?_eq_getElem inside]
  have stored := storeAll_inside dest 0 (count - 1)
    (src.cString.take count ++ List.replicate (count - src.cString.length) 0) _
    (by rw [List.getElem?_append_left (by simp; omega)]; exact written)
  have terminated := holds.2.2
  rw [size, strncpy, ← Nat.zero_add (count - 1), stored] at terminated
  exact zero_not_mem_cString src (terminated ▸ List.getElem_mem inside)

/-- The first byte after `strncpy` of at least one byte is NUL exactly if the source is
empty. -/
theorem strncpy_first (dest : Buffer) (src : Bytes) (count : Nat) (positive : 0 < count) :
    (dest.strncpy src count).bytes 0 = 0 ↔ src.cString = [] := by
  have free := zero_not_mem_cString src
  cases text : src.cString with
  | nil =>
    have stored := storeAll_inside dest 0 0
      (src.cString.take count ++ List.replicate (count - src.cString.length) 0) 0
      (by simp [text, positive])
    exact iff_of_true stored rfl
  | cons byte rest =>
    have stored := storeAll_inside dest 0 0
      (src.cString.take count ++ List.replicate (count - src.cString.length) 0) byte (by
        obtain ⟨count, rfl⟩ := Nat.exists_eq_succ_of_ne_zero (Nat.ne_of_gt positive)
        simp [text])
    rw [text] at free
    have different : byte ≠ 0 := fun same => free (same ▸ List.mem_cons_self)
    refine iff_of_false ?_ (List.cons_ne_nil byte rest)
    rwa [strncpy, stored]

end Buffer
end Plugpp
