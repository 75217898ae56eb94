import AccessProbe.Proofs.Endpoint

/-! The path of an endpoint URL is that of its target followed by that of the endpoint. -/

namespace AccessProbe.Url

/-- No letter or digit in lower case starts a dot segment. -/
theorem toLower_of_isAlphanum {c : Char} (shown : c.isAlphanum) : c.toLower ≠ '.' ∧ c.toLower ≠ '%' :=
  forall_isAlphanum (P := fun c => c.toLower ≠ '.' ∧ c.toLower ≠ '%') (by decide) shown

/-- Letters and digits are not percent-encoded in a path. -/
theorem inPath_of_isAlphanum {c : Char} (shown : c.isAlphanum) : Percent.inPath c = false :=
  forall_isAlphanum (P := fun c => Percent.inPath c = false) (by decide) shown

section Parts

variable {part : List Char}

/-- A segment of letters and digits in lower case starts with neither a dot nor a percent sign. -/
theorem map_toLower_ne {mark : Char} {name : List Char} (letters : ∀ c ∈ part, c.isAlphanum)
    (marks : mark = '.' ∨ mark = '%') : part.map Char.toLower ≠ mark :: name := by
  -- Its first character would be one of the two.
  cases part with
  | nil => exact nofun
  | cons c rest =>
    intro same
    have kept := toLower_of_isAlphanum (letters c (by simp))
    have first : c.toLower = mark := (List.cons.inj same).1
    rcases marks with rfl | rfl
    · exact kept.1 first
    · exact kept.2 first

/-- A segment of letters and digits is not a single dot, percent-encoded or not. -/
theorem isSingleDot_eq_false (letters : ∀ c ∈ part, c.isAlphanum) : isSingleDot part = false := by
  -- Both spellings start with a dot or a percent sign.
  have dot : part ≠ ['.'] := by
    rintro rfl
    exact absurd (letters '.' (by simp)) (by decide)
  have escaped : part.map Char.toLower ≠ "%2e".toList := map_toLower_ne letters (.inr rfl)
  rw [isSingleDot, decide_eq_false dot, decide_eq_false escaped]
  rfl

/-- Nor is it a double dot. -/
theorem isDoubleDot_eq_false (letters : ∀ c ∈ part, c.isAlphanum) : isDoubleDot part = false := by
  -- All four spellings start with a dot or a percent sign.
  have differ : ∀ text ∈ ["..", ".%2e", "%2e.", "%2e%2e"], text.toList ≠ part.map Char.toLower := by
    intro text member
    simp only [List.mem_cons, List.not_mem_nil, or_false] at member
    rcases member with rfl | rfl | rfl | rfl
    · exact (map_toLower_ne letters (.inl rfl)).symm
    · exact (map_toLower_ne letters (.inl rfl)).symm
    · exact (map_toLower_ne letters (.inr rfl)).symm
    · exact (map_toLower_ne letters (.inr rfl)).symm
  rw [isDoubleDot, List.any_eq_false]
  exact fun text member same => differ text member (by simpa using same)

/-- The parser keeps a segment of letters and digits as it is. -/
theorem isKept_of_letters (letters : ∀ c ∈ part, c.isAlphanum) : IsKept part where
  plain c member := inPath_of_isAlphanum (letters c member)
  whole c member := by
    have kept := isPathLetter_kept (show isPathLetter c by simp [isPathLetter, letters c member])
    have noSlash : c ≠ '/' := by
      rintro rfl
      exact absurd (letters '/' member) (by decide)
    simp [isSlash, noSlash, kept.2.2.2.2.2]
  notSingle := isSingleDot_eq_false letters
  notDouble := isDoubleDot_eq_false letters

end Parts

/-- The segments of a plain path consist of letters and digits. -/
theorem letters_partsOf {text : List Char} (letters : ∀ c ∈ text, isPathLetter c) :
    ∀ part ∈ partsOf true text, ∀ c ∈ part, c.isAlphanum := by
  -- A character of a segment is a character of the path and no slash.
  intro part member c inside
  have unescaped : '\\' ∉ text := fun member => (isPathLetter_kept (letters _ member)).2.2.2.2.2 rfl
  have noSlash : c ≠ '/' := by
    rintro rfl
    exact absurd (forall_partsOf true text part member '/' inside) (by decide)
  -- The path with a slash before it is made up of its segments with a slash before each.
  have place : c ∈ '/' :: text := by
    rw [← flatMap_partsOf unescaped]
    exact List.mem_flatMap.mpr ⟨part, member, .tail _ inside⟩
  have letter := letters c ((List.mem_cons.mp place).resolve_left noSlash)
  simpa [isPathLetter, noSlash] using letter

/-- The path of a URL as a directory, without the slash at its end. -/
def directoryText (url : Url) : List Char :=
  url.asDirectory.path.directory.flatMap fun name => '/' :: name.toList

/-- Followed by a slash, such a path starts with one, also if it is empty. -/
theorem slash_prefix_directoryText (url : Url) (rest : List Char) : ['/'] <+: url.directoryText ++ '/' :: rest := by
  -- Without segments the slash that follows comes first, otherwise that of the first segment does.
  unfold directoryText
  cases url.asDirectory.path.directory with
  | nil => exact ⟨rest, rfl⟩
  | cons name names => exact ⟨_, rfl⟩

/-- The string of a path has the characters of `Path.letters`. -/
theorem Path.toList_text (path : Path) : path.text.toList = path.letters := by
  -- Each segment adds its slash and its own characters.
  cases path with
  | plain text => rfl
  | segments names =>
    rw [Path.text, Path.letters]
    induction names with
    | nil => rfl
    | cons name rest ih =>
      rw [List.map_cons, String.join_cons, String.toList_append, ih, List.flatMap_cons, String.toList_append]
      rfl

/-- The path of an endpoint URL is that of its target as a directory, a slash, and the path of the endpoint.
-/
theorem pathText_endpoint {target url : Url} {path : String} (accepted : target.IsTarget)
    (plain : isPlainPath path) (found : endpointUrl target path = .ok url) :
    url.pathText.toList = target.directoryText ++ '/' :: path.toList := by
  -- The URL is that of `join_plain`, whose path is compared segment by segment.
  obtain ⟨names, inParts⟩ := accepted.path
  have letters := letters_of_isPlainPath plain
  have unescaped : '\\' ∉ path.toList := fun member => (isPathLetter_kept (letters _ member)).2.2.2.2.2 rfl
  obtain ⟨others, directory⟩ := asDirectory_eq inParts
  have web : Url.isWeb { target with path := .segments others } := accepted.web
  -- No segment of the endpoint is a dot segment or changed by encoding, so the walk appends them all.
  have kept : ∀ part ∈ partsOf true path.toList, IsKept part :=
    fun part member => isKept_of_letters (letters_partsOf letters part member)
  rw [endpointUrl, directory, join_plain web rfl plain, walk_of_isKept kept] at found
  rw [← Except.ok.inj found, pathText, Path.toList_text, Path.letters, List.flatMap_append, List.flatMap_map,
    directoryText, directory, Path.directory]
  congr 1
  rw [← flatMap_partsOf unescaped]
  congr 1
  funext part
  rw [String.toList_ofList]

/-- The URL of an endpoint has the host of its target. -/
theorem host_of_endpointUrl {target url : Url} {path : String} (accepted : target.IsTarget)
    (plain : isPlainPath path) (found : endpointUrl target path = .ok url) : url.host = target.host := by
  -- `endpointUrl_plain` keeps the host.
  obtain ⟨parts, made⟩ := endpointUrl_plain accepted plain
  rw [made] at found
  rw [← Except.ok.inj found]

end AccessProbe.Url
