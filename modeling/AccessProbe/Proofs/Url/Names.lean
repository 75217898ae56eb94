import AccessProbe.Proofs.Text.Letters
import AccessProbe.Proofs.Text.Utf8
import AccessProbe.Url.Resolve

/-! Normalised paths: parsing one of them again yields the same segments. -/

namespace AccessProbe

namespace Percent

variable {escaped : Char → Bool} {text : List Char}

/-- A string without characters of the set is not changed by percent-encoding. -/
theorem encode_eq_self (plain : ∀ c ∈ text, escaped c = false) : encode escaped text = text := by
  unfold encode
  induction text with
  | nil => rfl
  | cons c rest ih =>
    obtain ⟨here, later⟩ := List.forall_mem_cons.mp plain
    rw [List.flatMap_cons, ih later, here]
    rfl

/-- What holds of the characters outside the set, of `%` and of hexadecimal digits holds of a percent-encoded
string. -/
theorem forall_mem_encode {P : Char → Prop} (kept : ∀ c ∈ text, escaped c = false → P c) (mark : P '%')
    (digits : ∀ digit < 16, P (upperHexDigit digit)) : ∀ c ∈ encode escaped text, P c := by
  -- Each character of the result is one of the string that is kept, or belongs to an escape.
  intro c member
  obtain ⟨original, place, written⟩ := List.mem_flatMap.mp member
  split at written
  · obtain ⟨byte, _, inside⟩ := List.mem_flatMap.mp written
    have bound := byte.toNat_lt
    simp only [escape, List.mem_cons, List.not_mem_nil, or_false] at inside
    rcases inside with rfl | rfl | rfl
    · exact mark
    · exact digits _ (by omega)
    · exact digits _ (by omega)
  · rename_i plain
    rw [List.mem_singleton.mp written]
    exact kept original place (Bool.eq_false_iff.mpr plain)

end Percent

namespace Url

open Percent

/-- Whether every escape in a string in lower case is that of a dot. -/
def escapesDots : List Char → Bool
  | '%' :: rest => rest.take 2 = ['2', 'e'] && escapesDots rest
  | _ :: rest => escapesDots rest
  | [] => true

/-- The rest of a string has no other escapes. -/
theorem escapesDots_tail {c : Char} {rest : List Char} (dots : escapesDots (c :: rest)) : escapesDots rest := by
  -- An escape of a dot is skipped as a whole, and any other character alone.
  unfold escapesDots at dots
  split at dots
  · rename_i parts
    rw [(List.cons.inj parts).2]
    exact (Bool.and_eq_true _ _ ▸ dots).2
  · rename_i parts
    rw [(List.cons.inj parts).2]
    exact dots
  · rename_i parts
    cases parts

/-- A character that is encoded in paths does not begin with the escape of a dot. -/
theorem not_escapesDots {c : Char} (escaped : inPath c) (rest : List Char) :
    ¬ escapesDots (((String.utf8EncodeChar c).flatMap escape).map Char.toLower ++ rest) := by
  -- The escape of a dot would be that of the first byte of `c`.
  intro dots
  obtain ⟨lead, others, bytes⟩ := List.exists_cons_of_ne_nil (String.utf8EncodeChar_ne_nil (c := c))
  have bound := lead.toNat_lt
  have two : ∀ digit < 16, (upperHexDigit digit).toLower = '2' → digit = 2 := by decide
  have fourteen : ∀ digit < 16, (upperHexDigit digit).toLower = 'e' → digit = 14 := by decide
  have percent : '%'.toLower = '%' := by decide
  rw [bytes] at dots
  simp only [List.flatMap_cons, escape, List.cons_append, List.nil_append, List.map_cons, percent, escapesDots,
    List.take_succ_cons, List.take_zero, List.cons.injEq, Bool.and_eq_true, decide_eq_true_eq, and_true] at dots
  -- Its digits are those of a dot, so that `c` is a dot, which is not encoded in paths.
  have high := two _ (by omega) dots.1.1
  have low := fourteen _ (by omega) dots.1.2
  have number : lead.toNat = 0x2E := by omega
  have dot := Utf8.eq_of_utf8EncodeChar bytes (by omega)
  rw [dot, number] at escaped
  exact absurd escaped (by decide)

/-- If a segment has no other escapes than those of dots once it is encoded, encoding has not changed it. -/
theorem encode_eq_of_escapesDots {part : List Char} (dots : escapesDots ((encode inPath part).map Char.toLower)) :
    encode inPath part = part := by
  -- No character was encoded, since its escape would be another one.
  unfold encode at dots ⊢
  induction part with
  | nil => rfl
  | cons c rest ih =>
    rw [List.flatMap_cons, List.map_append] at dots
    rw [List.flatMap_cons]
    by_cases escaped : inPath c
    · rw [if_pos escaped] at dots
      exact absurd dots (not_escapesDots escaped _)
    · rw [if_neg escaped] at dots ⊢
      rw [ih (escapesDots_tail dots)]
      rfl

/-- A single-dot segment has no other escapes than those of dots. -/
theorem escapesDots_of_isSingleDot {part : List Char} (single : isSingleDot part) :
    escapesDots (part.map Char.toLower) := by
  -- There are two spellings.
  simp only [isSingleDot, Bool.or_eq_true, decide_eq_true_eq] at single
  rcases single with rfl | escaped
  · decide
  · rw [escaped]
    decide

/-- Neither has a double-dot segment. -/
theorem escapesDots_of_isDoubleDot {part : List Char} (double : isDoubleDot part) :
    escapesDots (part.map Char.toLower) := by
  -- There are four spellings.
  obtain ⟨text, member, same⟩ := List.any_eq_true.mp double
  have dots : ∀ text ∈ ["..", ".%2e", "%2e.", "%2e%2e"], escapesDots text.toList := by decide
  rw [← beq_iff_eq.mp same]
  exact dots text member

/-- A normalised segment: parsing keeps it as it is. -/
structure IsKept (name : List Char) : Prop where
  /-- Nothing is left to encode. -/
  plain : ∀ c ∈ name, inPath c = false
  /-- It contains no slash. -/
  whole : ∀ c ∈ name, isSlash true c = false
  /-- It is no single-dot segment. -/
  notSingle : isSingleDot name = false
  /-- It is no double-dot segment. -/
  notDouble : isDoubleDot name = false

/-- Normalised segments. -/
def KeptNames (names : List String) : Prop := ∀ name ∈ names, IsKept name.toList

/-- The empty segment is normalised. -/
theorem IsKept.nil : IsKept [] := ⟨nofun, nofun, by decide, by decide⟩

/-- A segment that is no dot segment is normalised once it is encoded. -/
theorem isKept_encode {part : List Char} (whole : ∀ c ∈ part, isSlash true c = false)
    (notSingle : isSingleDot part = false) (notDouble : isDoubleDot part = false) :
    IsKept (encode inPath part) where
  plain := forall_mem_encode (fun _ _ plain => plain) (by decide) (by decide)
  whole := forall_mem_encode (fun c member _ => whole c member) (by decide) (by decide)
  -- A dot segment has no other escapes than those of dots, so that the segment would have been one before.
  notSingle := Bool.eq_false_iff.mpr fun single => by
    rw [encode_eq_of_escapesDots (escapesDots_of_isSingleDot single), notSingle] at single
    cases single
  notDouble := Bool.eq_false_iff.mpr fun double => by
    rw [encode_eq_of_escapesDots (escapesDots_of_isDoubleDot double), notDouble] at double
    cases double

section Walk

variable {file : Bool} {done : List String} {parts : List (List Char)}

/-- What holds of the empty segment, of the segments so far and of those that are kept holds of the whole
path. -/
theorem forall_walk {P : String → Prop} (empty : P "") (kept : ∀ done, ∀ part ∈ parts, isSingleDot part = false →
      isDoubleDot part = false → P (keptPart file done part)) (holds : ∀ name ∈ done, P name) :
    ∀ name ∈ walk file done parts, P name := by
  -- Every step either appends a segment or drops one.
  have behind {done : List String} {last : String} (holds : ∀ name ∈ done, P name) (new : P last) :
      ∀ name ∈ done ++ [last], P name :=
    List.forall_mem_append.mpr ⟨holds, List.forall_mem_singleton.mpr new⟩
  have shorter {done : List String} (holds : ∀ name ∈ done, P name) : ∀ name ∈ shortened done, P name := by
    unfold shortened
    split
    · exact holds
    · exact fun name member => holds name ((List.dropLast_sublist done).subset member)
  -- The cases are the kinds of segments, at the end of the path or before it.
  fun_induction walk file done parts with
  | case1 done => exact holds
  | case2 done last _ => exact behind (shorter holds) empty
  | case3 done last _ _ => exact behind holds empty
  | case4 done last double single =>
    exact behind holds (kept done last (.head _) (Bool.eq_false_iff.mpr single) (Bool.eq_false_iff.mpr double))
  | case5 done part parts _ _ ih => exact ih (fun done part later => kept done part (.tail _ later)) (shorter holds)
  | case6 done part parts _ _ _ ih => exact ih (fun done part later => kept done part (.tail _ later)) holds
  | case7 done part parts _ double single ih =>
    exact ih (fun done part later => kept done part (.tail _ later)) (behind holds
      (kept done part (.head _) (Bool.eq_false_iff.mpr single) (Bool.eq_false_iff.mpr double)))

/-- A path from at least one segment is not empty. -/
theorem walk_ne_nil (file : Bool) (done : List String) (some_parts : parts ≠ []) : walk file done parts ≠ [] := by
  -- The last segment appends one in each of its cases.
  fun_induction walk file done parts with
  | case1 done => exact absurd rfl some_parts
  | case2 done last _ => simp
  | case3 done last _ _ => simp
  | case4 done last _ _ => simp
  | case5 done part parts others _ ih => exact ih others
  | case6 done part parts others _ _ ih => exact ih others
  | case7 done part parts others _ _ ih => exact ih others

/-- Normalised segments are appended as they are. -/
theorem walk_of_isKept (kept : ∀ part ∈ parts, IsKept part) (done : List String) :
    walk false done parts = done ++ parts.map String.ofList := by
  -- Induction on the segments, none of which is encoded or resolved.
  have itself {part : List Char} (kept : IsKept part) (done : List String) :
      keptPart false done part = String.ofList part := by
    simp [keptPart, encode_eq_self kept.plain]
  induction parts generalizing done with
  | nil => simp [walk]
  | cons part rest ih =>
    obtain ⟨here, later⟩ := List.forall_mem_cons.mp kept
    -- The last segment has a case of its own in `walk`.
    cases rest with
    | nil => simp [walk, here.notDouble, here.notSingle, itself here]
    | cons next others =>
      simp only [walk, here.notDouble, here.notSingle, itself here, Bool.false_eq_true, if_false]
      rw [ih later]
      simp

end Walk

section Parts

variable {special : Bool} {text : List Char}

/-- Every string has at least one segment. -/
theorem partsOf_ne_nil (special : Bool) (text : List Char) : partsOf special text ≠ [] := by
  fun_cases partsOf special text <;> simp

/-- A slash begins a new segment. -/
theorem partsOf_slash {c : Char} (slash : isSlash special c) :
    partsOf special (c :: text) = [] :: partsOf special text := by
  unfold isSlash at slash
  simp only [partsOf, slash, if_true]

/-- Any other character belongs to the first segment. -/
theorem partsOf_cons {c : Char} (inside : isSlash special c = false) {part : List Char} {parts : List (List Char)}
    (behind : partsOf special text = part :: parts) : partsOf special (c :: text) = (c :: part) :: parts := by
  unfold isSlash at inside
  simp only [partsOf, inside, behind, Bool.false_eq_true, if_false]

/-- No segment contains a slash. -/
theorem forall_partsOf (special : Bool) (text : List Char) :
    ∀ part ∈ partsOf special text, ∀ c ∈ part, isSlash special c = false := by
  -- A slash ends the segment before it, and any other character joins the segment behind it.
  induction text with
  | nil => simp [partsOf]
  | cons c rest ih =>
    by_cases slash : isSlash special c
    · rw [partsOf_slash slash]
      exact List.forall_mem_cons.mpr ⟨nofun, ih⟩
    · obtain ⟨part, parts, behind⟩ := List.exists_cons_of_ne_nil (partsOf_ne_nil special rest)
      rw [behind] at ih
      obtain ⟨first, others⟩ := List.forall_mem_cons.mp ih
      rw [partsOf_cons (Bool.eq_false_iff.mpr slash) behind]
      exact List.forall_mem_cons.mpr ⟨List.forall_mem_cons.mpr ⟨Bool.eq_false_iff.mpr slash, first⟩, others⟩

/-- The segments with a slash before each of them make up the path. -/
theorem flatMap_partsOf (plain : '\\' ∉ text) :
    (partsOf true text).flatMap (fun part => '/' :: part) = '/' :: text := by
  -- Induction on the characters. Without backslashes every separator is the slash that is put back.
  induction text with
  | nil => rfl
  | cons c rest ih =>
    simp only [List.mem_cons, not_or] at plain
    have behind := ih plain.2
    by_cases slash : isSlash true c
    · -- The separator is no backslash.
      simp only [isSlash, Bool.or_eq_true, Bool.and_eq_true, decide_eq_true_eq, true_and] at slash
      obtain rfl := slash.resolve_right (Ne.symm plain.1)
      rw [partsOf_slash (by decide), List.flatMap_cons, behind]
      rfl
    · obtain ⟨part, parts, cut⟩ := List.exists_cons_of_ne_nil (partsOf_ne_nil true rest)
      rw [cut, List.flatMap_cons] at behind
      rw [partsOf_cons (Bool.eq_false_iff.mpr slash) cut, List.flatMap_cons, ← (List.cons.inj behind).2]
      rfl

/-- A segment without slashes ends where the next one begins. -/
theorem partsOf_append {name : List Char} {others : List (List Char)} (whole : ∀ c ∈ name, isSlash true c = false)
    (behind : partsOf true text = [] :: others) : partsOf true (name ++ text) = name :: others := by
  -- Its characters are added in front one by one.
  induction name with
  | nil => exact behind
  | cons c rest ih =>
    obtain ⟨here, later⟩ := List.forall_mem_cons.mp whole
    exact partsOf_cons here (ih later)

/-- Segments with slashes before them are split into these segments. -/
theorem partsOf_names {names : List (List Char)} (whole : ∀ name ∈ names, ∀ c ∈ name, isSlash true c = false) :
    partsOf true (names.flatMap fun name => '/' :: name) = [] :: names := by
  -- Induction on the segments, each of which ends at the slash of the next one.
  induction names with
  | nil => rfl
  | cons name rest ih =>
    obtain ⟨here, later⟩ := List.forall_mem_cons.mp whole
    rw [List.flatMap_cons, List.cons_append, partsOf_slash (by decide), partsOf_append here (ih later)]

end Parts

variable {scheme : String} {names : List String}

/-- The path of a URL with a special scheme has at least one segment, and its segments are normalised. -/
theorem kept_pathAfterAuthority (special : isSpecial scheme) (text : List Char) :
    KeptNames (pathAfterAuthority scheme text) ∧ pathAfterAuthority scheme text ≠ [] := by
  -- The path is walked from the segments of the text, whose dot segments are resolved.
  have walked (text : List Char) : KeptNames (walk false [] (partsOf true text)) ∧
      walk false [] (partsOf true text) ≠ [] := by
    refine ⟨forall_walk (P := fun name => IsKept name.toList) .nil (fun done part member single double => ?_) nofun,
      walk_ne_nil false [] (partsOf_ne_nil true text)⟩
    rw [keptPart, Bool.false_and, Bool.false_and, if_neg Bool.false_ne_true, String.toList_ofList]
    exact isKept_encode (forall_partsOf true text part member) single double
  unfold pathAfterAuthority
  rw [special]
  split
  · exact ⟨by simpa [KeptNames] using IsKept.nil, List.cons_ne_nil _ _⟩
  · exact walked _

/-- A path with normalised segments is parsed from its own text. -/
theorem pathAfterAuthority_letters (special : isSpecial scheme) (kept : KeptNames names) (some_names : names ≠ []) :
    pathAfterAuthority scheme (Path.segments names).letters = names := by
  -- The segments are split at the slashes that serialisation put in, and walking keeps them.
  obtain ⟨first, others, rfl⟩ := List.exists_cons_of_ne_nil some_names
  have keptParts : ∀ part ∈ (first :: others).map String.toList, IsKept part := by
    intro part member
    obtain ⟨name, place, rfl⟩ := List.mem_map.mp member
    exact kept name place
  have whole : ∀ part ∈ others.map String.toList, ∀ c ∈ part, isSlash true c = false :=
    fun part member => (keptParts part (.tail _ member)).whole
  -- The slash in front is dropped, and every other one stands between two segments.
  have parts : partsOf true (first.toList ++ others.flatMap fun name => '/' :: name.toList)
      = (first :: others).map String.toList := by
    rw [← List.flatMap_map String.toList (fun part => '/' :: part)]
    exact partsOf_append (keptParts _ (.head _)).whole (partsOf_names whole)
  rw [Path.letters, List.flatMap_cons, List.cons_append, pathAfterAuthority]
  simp only [special, decide_true, Bool.true_or, if_true]
  rw [parts, walk_of_isKept keptParts, List.nil_append, List.map_map]
  simp

/-- The text of a path with normalised segments contains no character that parsing removes. -/
theorem filter_letters (kept : KeptNames names) :
    (Path.segments names).letters.filter (! isSkipped ·) = (Path.segments names).letters := by
  -- Tabs and line breaks are encoded in paths.
  have escaped {c : Char} (skipped : isSkipped c) : inPath c := by
    simp only [isSkipped, Bool.or_eq_true, decide_eq_true_eq] at skipped
    rcases skipped with (rfl | rfl) | rfl
    · decide
    · decide
    · decide
  rw [List.filter_eq_self]
  intro c member
  rw [Bool.not_eq_true', Bool.eq_false_iff]
  intro skipped
  obtain ⟨name, place, inside⟩ := List.mem_flatMap.mp member
  rcases List.mem_cons.mp inside with rfl | inName
  · exact absurd skipped (by decide)
  · exact absurd (escaped skipped) (Bool.eq_false_iff.mp ((kept name place).plain c inName))

end Url

end AccessProbe
