import AccessProbe.CommandLine.Parse
import AccessProbe.Proofs.Text.Blank

/-! A kind of secret is selected by its aliases and by no other string that looks like one. -/

namespace AccessProbe.SecretKind

variable {text word changed : String} {kind other : SecretKind}

section Aliases

/-- No alias belongs to two kinds. -/
theorem eq_of_mem_aliases (here : word ∈ kind.aliases) (there : word ∈ other.aliases) : kind = other := by
  -- Checked for every pair of kinds.
  have apart : ∀ kind other : SecretKind, ∀ word ∈ kind.aliases, word ∈ other.aliases → kind = other := by
    intro kind other
    cases kind <;> cases other <;> decide
  exact apart kind other word here there

/-- The aliases of a kind have distinct lengths. -/
theorem alias_eq_of_length_eq (here : text ∈ kind.aliases) (there : word ∈ kind.aliases)
    (same : text.toList.length = word.toList.length) : text = word := by
  -- Checked for every kind.
  have apart : ∀ kind : SecretKind, ∀ text ∈ kind.aliases, ∀ word ∈ kind.aliases,
      text.toList.length = word.toList.length → text = word := by
    intro kind
    cases kind <;> decide
  exact apart kind text here word there same

/-- Aliases consist of lower-case ASCII letters. -/
theorem isLower_of_mem_aliases (listed : word ∈ kind.aliases) : ∀ c ∈ word.toList, c.isLower = true := by
  -- Checked for every kind.
  have small : ∀ kind : SecretKind, kind.aliases.all (·.toList.all Char.isLower) = true := by
    intro kind
    cases kind <;> decide
  exact List.all_eq_true.mp (List.all_eq_true.mp (small kind) word listed)

/-- Aliases have no white space. -/
theorem isBlank_of_mem_aliases (listed : word ∈ kind.aliases) : ∀ c ∈ word.toList, isBlank c = false := by
  -- Letters are no white space.
  intro c member
  have letter := isAlpha_of_isLower (isLower_of_mem_aliases listed c member)
  exact isBlank_of_isAlpha letter

/-- A search finds the kind with the alias, in whatever order it goes through the kinds. -/
theorem find?_eq_some_iff {order : List SecretKind} (complete : ∀ kind, kind ∈ order) :
    order.find? (fun kind => kind.aliases.contains word) = some kind ↔ word ∈ kind.aliases := by
  -- From left to right the search returns a kind with the alias; from right to left some kind is found, and
  -- it is this one.
  constructor
  · intro found
    have listed := List.find?_some found
    rwa [List.contains_iff_mem] at listed
  · intro listed
    -- The search succeeds, since the kind itself is in the list, and no other kind has the alias.
    cases found : order.find? fun kind => kind.aliases.contains word with
    | none =>
      have missed := List.find?_eq_none.mp found kind (complete kind)
      rw [List.contains_iff_mem] at missed
      exact absurd listed missed
    | some other =>
      have also := List.find?_some found
      rw [List.contains_iff_mem] at also
      rw [eq_of_mem_aliases also listed]

theorem mem_all (kind : SecretKind) : kind ∈ all := by
  cases kind <;> decide

/-- A string selects a kind if and only if its trimmed lower-case form is an alias. -/
theorem ofText?_eq_some_iff : ofText? text = some kind ↔ wanted text ∈ kind.aliases :=
  find?_eq_some_iff mem_all

end Aliases

section Wanted

/-- Surrounding white space and the case of letters do not change the trimmed lower-case form. -/
theorem wanted_around {before after : List Char} (blank : ∀ c ∈ before ++ after, isBlank c = true)
    (around : changed.toList = before ++ word.toList ++ after) (same : word.toLower = text.toLower) :
    wanted changed = wanted text := by
  -- Trimming and lower-casing commute, so white space goes first and the case then.
  have front := fun c member => blank c (List.mem_append_left _ member)
  have back := fun c member => blank c (List.mem_append_right _ member)
  have letters : word.toList.map Char.toLower = text.toList.map Char.toLower := by
    rw [toLower_eq, toLower_eq] at same
    exact String.ofList_injective same
  rw [wanted, wanted, around, trimBlank_append_right back, trimBlank_append_left front, ← trimBlank_map_toLower,
    letters, trimBlank_map_toLower]

/-- The trimmed lower-case form of an alias is its lower-case form. -/
theorem wanted_of_mem_aliases (listed : word.toLower ∈ kind.aliases) : wanted word = word.toLower := by
  -- There is no white space to trim.
  have letters := isBlank_of_mem_aliases listed
  have trimmed : trimBlank word.toLower.toList = word.toLower.toList :=
    trimBlank_eq_self (fun c first => letters c (List.mem_of_head? first))
      fun c last => letters c (List.mem_of_getLast? last)
  rw [toLower_eq, String.toList_ofList] at trimmed
  rw [wanted, ← trimBlank_map_toLower, trimmed, toLower_eq]

/-- The characters that are not white space. -/
def marks (text : List Char) : List Char := text.filter fun c => ! isBlank c

theorem marks_append (first second : List Char) : marks (first ++ second) = marks first ++ marks second :=
  List.filter_append _ _

theorem marks_of_blank {text : List Char} (blank : ∀ c ∈ text, isBlank c = true) : marks text = [] := by
  simpa [marks] using blank

/-- Trimming removes white space only. -/
theorem marks_trimBlank (text : List Char) : marks (trimBlank text) = marks text := by
  -- What it removes before and after has no other characters.
  obtain ⟨before, after, blank, around⟩ := exists_blank_around text
  have front := marks_of_blank fun c member => blank c (List.mem_append_left _ member)
  have back := marks_of_blank fun c member => blank c (List.mem_append_right _ member)
  have whole := congrArg marks around
  rw [marks_append, marks_append, front, back, List.nil_append, List.append_nil] at whole
  exact whole.symm

/-- The trimmed lower-case form has all other characters of the string, in lower case. -/
theorem marks_wanted (text : String) : marks (wanted text).toList = (marks text.toList).map Char.toLower := by
  -- Lower-casing neither makes nor removes white space, so the two steps commute.
  have same : (fun c => ! isBlank c) ∘ Char.toLower = fun c => ! isBlank c := by
    funext c
    rw [Function.comp_apply, isBlank_toLower]
  rw [wanted, String.toList_ofList, marks, List.filter_map, same]
  exact congrArg _ (marks_trimBlank text.toList)

/-- Aliases have no characters but these. -/
theorem marks_of_mem_aliases (listed : word ∈ kind.aliases) : marks word.toList = word.toList := by
  -- They have no white space.
  refine List.filter_eq_self.mpr fun c member => ?_
  rw [isBlank_of_mem_aliases listed c member]
  rfl

/-- If a string selects a kind, its other characters in lower case are the alias. -/
theorem toList_wanted (selects : ofText? text = some kind) :
    (wanted text).toList = (marks text.toList).map Char.toLower := by
  -- The alias is the trimmed lower-case form, which has no white space.
  rw [← marks_wanted, marks_of_mem_aliases (ofText?_eq_some_iff.mp selects)]

/-- If a string selects a kind, its other characters are ASCII letters. -/
theorem isAlpha_of_selects {c : Char} (selects : ofText? text = some kind) (member : c ∈ text.toList)
    (mark : isBlank c = false) : c.isAlpha = true := by
  -- By contradiction, since aliases consist of letters.
  by_contra noLetter
  -- A character that is no letter is its own lower case, and would be part of the alias.
  have same := toLower_eq_self (Bool.eq_false_iff.mpr noLetter)
  have shown : c ∈ (wanted text).toList := by
    rw [toList_wanted selects, ← same]
    exact List.mem_map_of_mem (List.mem_filter.mpr ⟨member, by rw [mark]; rfl⟩)
  have small := isLower_of_mem_aliases (ofText?_eq_some_iff.mp selects) c shown
  exact noLetter (isAlpha_of_isLower small)

end Wanted

section Change

variable {before after : List Char} {letter other : Char}

/-- Replacing a character by another one, not the same letter in another case, changes the trimmed lower-case
form. -/
theorem wanted_ne_of_change (stands : text.toList = before ++ letter :: after)
    (instead : changed.toList = before ++ other :: after) (mark : isBlank letter = false)
    (differ : letter.toLower ≠ other.toLower) : wanted changed ≠ wanted text := by
  -- Compare the characters that are not white space: they agree up to the replaced one.
  intro same
  have marked := congrArg (fun word : String => marks word.toList) same
  simp only [marks_wanted, stands, instead, marks_append, List.map_append, List.append_cancel_left_eq] at marked
  -- After the common start one form continues with the letter; the other one does not, or with another letter.
  cases blank : isBlank other with
  | true =>
    simp [marks, mark, blank] at marked
  | false =>
    simp [marks, mark, blank] at marked
    exact differ marked.symm

/-- Such a replacement unselects the kind, unless it puts in white space. -/
theorem not_selects_of_change (stands : text.toList = before ++ letter :: after)
    (instead : changed.toList = before ++ other :: after) (mark : isBlank letter = false)
    (differ : letter.toLower ≠ other.toLower) (solid : isBlank other = false)
    (selects : ofText? text = some kind) : ofText? changed ≠ some kind := by
  -- Otherwise two aliases of the kind would have the same length.
  intro still
  -- The number of characters other than white space stays the same.
  have count : (marks changed.toList).length = (marks text.toList).length := by
    simp [stands, instead, marks, mark, solid]
  have length : (wanted changed).toList.length = (wanted text).toList.length := by
    rw [toList_wanted still, toList_wanted selects, List.length_map, List.length_map, count]
  exact wanted_ne_of_change stands instead mark differ
    (alias_eq_of_length_eq (ofText?_eq_some_iff.mp still) (ofText?_eq_some_iff.mp selects) length)

end Change

/-- A string selects a kind if and only if it is one of its aliases, in any case and with any white space
around it, in whatever order the kinds are searched. A string that is no alias is an error that quotes it
unchanged. Neither surrounding white space nor the case of ASCII letters matters. Replacing a letter by any
other character changes the word; unless that is white space the kind is no longer selected, and if it is no
ASCII letter, no kind is. -/
theorem selected_by_aliases_only (text : String) :
    (∀ kind, ofText? text = some kind ↔ ∃ (before after : List Char) (word : String),
      (∀ c ∈ before ++ after, isBlank c = true) ∧ text.toList = before ++ word.toList ++ after ∧
        word.toLower ∈ kind.aliases) ∧
    (∀ order : List SecretKind, (∀ kind, kind ∈ order) →
      order.find? (fun kind => kind.aliases.contains (wanted text)) = ofText? text) ∧
    (∀ parsing : CommandLine.Parsing, parsing.take .kind (some text) =
      match ofText? text with
      | some kind => .ok { parsing with kind := some kind }
      | none => .error (.invalidValue text .kind ("Unknown type of secret: " ++ text))) ∧
    (∀ (changed word : String) (before after : List Char), (∀ c ∈ before ++ after, isBlank c = true) →
      changed.toList = before ++ word.toList ++ after → word.toLower = text.toLower →
      ofText? changed = ofText? text) ∧
    (∀ (changed : String) (before after : List Char) (letter other : Char),
      text.toList = before ++ letter :: after → changed.toList = before ++ other :: after →
      letter.isAlpha = true → letter.toLower ≠ other.toLower →
      wanted changed ≠ wanted text ∧
        (isBlank other = false → ∀ kind, ofText? text = some kind → ofText? changed ≠ some kind) ∧
        (isBlank other = false → other.isAlpha = false → ofText? changed = none)) := by
  -- The parts are those of the statement in order; only the last one needs the comparison of two strings.
  have around : ∀ (changed word : String) (before after : List Char), (∀ c ∈ before ++ after, isBlank c = true) →
      changed.toList = before ++ word.toList ++ after → word.toLower = text.toLower →
      ofText? changed = ofText? text := by
    intro changed word before after blank stands same
    rw [ofText?, ofText?, wanted_around blank stands same]
  refine ⟨fun kind => ⟨fun selects => ?_, ?_⟩, fun order complete => ?_, fun parsing => ?_, around, ?_⟩
  · obtain ⟨before, after, blank, stands⟩ := exists_blank_around text.toList
    refine ⟨before, after, String.ofList (trimBlank text.toList), blank,
      by rw [String.toList_ofList]; exact stands, ?_⟩
    rw [toLower_eq, String.toList_ofList]
    exact ofText?_eq_some_iff.mp selects
  · rintro ⟨before, after, word, blank, stands, listed⟩
    -- The word alone is an alias, and the white space around it is trimmed.
    rw [ofText?_eq_some_iff, wanted_around blank stands rfl, wanted_of_mem_aliases listed]
    exact listed
  · refine Option.ext fun kind => ?_
    rw [find?_eq_some_iff complete, ofText?_eq_some_iff]
  · rw [CommandLine.Parsing.take]
    cases ofText? text with
    | some kind => rfl
    | none => rfl
  · intro changed before after letter other stands instead isLetter differ
    have mark := isBlank_of_isAlpha isLetter
    refine ⟨wanted_ne_of_change stands instead mark differ,
      fun solid kind => not_selects_of_change stands instead mark differ solid, fun solid noLetter => ?_⟩
    -- The character is not trimmed, and is part of no alias.
    refine Option.eq_none_iff_forall_ne_some.mpr fun kind selects => ?_
    have member : other ∈ changed.toList := by
      rw [instead]
      exact List.mem_append_right _ List.mem_cons_self
    have letter := isAlpha_of_selects selects member solid
    rw [noLetter] at letter
    cases letter

/-- An alias may have capital letters and white space around it, but no long s for an s. -/
theorem long_s_selects_nothing :
    isBlank '\u3000' = true ∧ 'ſ'.isAlpha = false ∧ isBlank 'ſ' = false ∧
      ofText? "\u3000PassWord\t" = some .loginWithPassword ∧ ofText? "paſsword" = none := by
  obtain ⟨_, _, _, around, change⟩ := selected_by_aliases_only "password"
  have selects : ofText? "password" = some .loginWithPassword := by decide
  refine ⟨by decide, by decide, by decide, ?_, ?_⟩
  · rw [around "\u3000PassWord\t" "PassWord" ['\u3000'] ['\t'] (List.all_eq_true.mp (by decide)) (by decide)
      (by rw [toLower_eq, toLower_eq]; decide), selects]
  · exact (change "paſsword" ['p', 'a'] "sword".toList 's' 'ſ' (by decide) (by decide) (by decide) (by decide)).2.2
      (by decide) (by decide)

end AccessProbe.SecretKind
