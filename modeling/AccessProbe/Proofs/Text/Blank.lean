import Mathlib.Data.List.TakeWhile
import AccessProbe.Proofs.Text.Letters
import AccessProbe.Text.Blank

/-! Trimming white space, and that it commutes with changing to lower case. -/

namespace AccessProbe

variable {text before after : List Char}

/-- A string without white space at its ends is not changed by trimming. -/
theorem trimBlank_eq_self {text : List Char} (first : ∀ c ∈ text.head?, isBlank c = false)
    (last : ∀ c ∈ text.getLast?, isBlank c = false) : trimBlank text = text := by
  -- Trimming works on the string and on its reverse in the same way.
  have kept {text : List Char} (first : ∀ c ∈ text.head?, isBlank c = false) :
      text.dropWhile isBlank = text := by
    cases text with
    | nil => rfl
    | cons c rest => simp [first c rfl]
  -- The last character is the first one of the reverse.
  have back : ∀ c ∈ text.reverse.head?, isBlank c = false := by rwa [List.head?_reverse]
  rw [trimBlank, kept first, kept back, List.reverse_reverse]

/-- White space in front of a string is trimmed. -/
theorem trimBlank_append_left (blank : ∀ c ∈ before, isBlank c = true) (text : List Char) :
    trimBlank (before ++ text) = trimBlank text := by
  rw [trimBlank, trimBlank, List.dropWhile_append_of_pos blank]

/-- White space behind a string is trimmed. -/
theorem trimBlank_append_right (blank : ∀ c ∈ after, isBlank c = true) (text : List Char) :
    trimBlank (text ++ after) = trimBlank text := by
  -- Trimming the front comes first, and may take the whole string.
  have gone : after.dropWhile isBlank = [] := List.dropWhile_eq_nil_iff.mpr blank
  have back : ∀ c ∈ after.reverse, isBlank c = true := by simpa using blank
  rw [trimBlank, trimBlank, List.dropWhile_append]
  split
  · -- The string itself is blank.
    rename_i empty
    rw [gone, List.isEmpty_iff.mp empty]
  · -- Something of it is left, and trimming the reverse first takes what was appended.
    rw [List.reverse_append, List.dropWhile_append_of_pos back]

/-- A string is what trimming leaves of it, with white space on both sides. -/
theorem exists_blank_around (text : List Char) : ∃ before after,
    (∀ c ∈ before ++ after, isBlank c = true) ∧ text = before ++ trimBlank text ++ after := by
  let rest := text.dropWhile isBlank
  refine ⟨text.takeWhile isBlank, (rest.reverse.takeWhile isBlank).reverse, ?_, ?_⟩
  · intro c member
    rcases List.mem_append.mp member with front | back
    · exact List.mem_takeWhile_imp front
    · exact List.mem_takeWhile_imp (List.mem_reverse.mp back)
  · -- The front is cut off first, the back from the reverse of what remains.
    have backwards : trimBlank text ++ (rest.reverse.takeWhile isBlank).reverse = rest := by
      rw [trimBlank, ← List.reverse_append, List.takeWhile_append_dropWhile, List.reverse_reverse]
    rw [List.append_assoc, backwards, List.takeWhile_append_dropWhile]

theorem isBlank_of_isAlpha {c : Char} (letter : c.isAlpha = true) : isBlank c = false :=
  forall_isAlphanum (P := fun c => isBlank c = false) (by decide) (isAlphanum_of_isAlpha letter)

/-- Lower case does not turn a character into white space. -/
theorem isBlank_toLower (c : Char) : isBlank c.toLower = isBlank c := by
  -- Letters and digits are checked one by one, and other characters have no lower case.
  by_cases letter : c.isAlphanum = true
  · exact forall_isAlphanum (P := fun c => isBlank c.toLower = isBlank c) (by decide) letter
  · have other : c.isAlpha = false := Bool.eq_false_iff.mpr (mt isAlphanum_of_isAlpha letter)
    rw [toLower_eq_self other]

/-- Trimming and changing to lower case commute. -/
theorem trimBlank_map_toLower (text : List Char) :
    trimBlank (text.map Char.toLower) = (trimBlank text).map Char.toLower := by
  have same : isBlank ∘ Char.toLower = isBlank := funext isBlank_toLower
  simp only [trimBlank, List.dropWhile_map, ← List.map_reverse, same]

end AccessProbe
