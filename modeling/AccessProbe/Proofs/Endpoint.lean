import Mathlib.Data.List.TakeDrop
import AccessProbe.Proofs.Url.Parse
import AccessProbe.SecretKind
import AccessProbe.Target

/-! Every target has a URL for each endpoint. -/

namespace AccessProbe

namespace Url

/-- The characters that endpoint paths consist of: letters, digits and slashes. -/
def isPathLetter (c : Char) : Bool := c.isAlphanum || c = '/'

/-- Whether a path consists of such characters and doesn't start with a slash. -/
def isPlainPath (path : String) : Bool :=
  path.toList.all isPathLetter && path.toList.headD '/' ≠ '/'

/-- A plain path starts with a character that is no slash. -/
theorem head_of_isPlainPath {path : String} (plain : isPlainPath path) :
    ∃ c rest, path.toList = c :: rest ∧ isPathLetter c ∧ c ≠ '/' := by
  -- The empty path is excluded, since its first character is taken to be a slash.
  simp only [isPlainPath, Bool.and_eq_true, decide_eq_true_eq] at plain
  cases text : path.toList with
  | nil => simp [text] at plain
  | cons c rest =>
    rw [text] at plain
    exact ⟨c, rest, rfl, List.all_eq_true.mp plain.1 c (by simp), plain.2⟩

/-- A plain path has such characters only. -/
theorem letters_of_isPlainPath {path : String} (plain : isPlainPath path) :
    ∀ c ∈ path.toList, isPathLetter c := by
  -- This is the first half of the test.
  simp only [isPlainPath, Bool.and_eq_true] at plain
  exact List.all_eq_true.mp plain.1

/-- The characters of endpoint paths are neither dropped nor delimiters in a URL reference. -/
theorem isPathLetter_kept {c : Char} (letter : isPathLetter c) :
    isPadding c = false ∧ isSkipped c = false ∧ c ≠ '#' ∧ c ≠ '?' ∧ c ≠ ':' ∧ c ≠ '\\' := by
  -- Letters and digits are told apart from the delimiters by their code points; the slash is checked
  -- directly.
  simp only [isPathLetter, Bool.or_eq_true, decide_eq_true_eq] at letter
  obtain shown | rfl := letter
  · -- No delimiter has the code point of a letter or a digit.
    have range := toNat_of_isAlphanum shown
    have differs : ∀ d : Char, d.toNat ∈ [0x09, 0x0A, 0x0D, 0x23, 0x3F, 0x3A, 0x5C] → c ≠ d := by
      intro d marks
      apply ne_of_toNat_ne
      simp only [List.mem_cons, List.not_mem_nil, or_false] at marks
      omega
    refine ⟨?_, ?_, differs _ (by decide), differs _ (by decide), differs _ (by decide), differs _ (by decide)⟩
    · simp only [isPadding, decide_eq_false_iff_not]
      omega
    · simp [isSkipped, differs '\t' (by decide), differs '\n' (by decide), differs '\r' (by decide)]
  · decide

theorem dropWhile_of_forall {keep : Char → Bool} {text : List Char}
    (kept : ∀ c ∈ text, keep c = false) : text.dropWhile keep = text := by
  cases text with
  | nil => rfl
  | cons c rest => simp [kept c (by simp)]

/-- A string without the delimiter is not split. -/
theorem splitAtFirst_of_not_mem {mark : Char} {text : List Char} (absent : mark ∉ text) :
    splitAtFirst mark text = (text, none) := by
  induction text with
  | nil => rfl
  | cons c rest ih =>
    simp only [List.mem_cons, not_or] at absent
    simp [splitAtFirst, Ne.symm absent.1, ih absent.2]

/-- A string without a colon has no scheme. -/
theorem cutScheme_of_not_mem {text : List Char} (absent : ':' ∉ text) : cutScheme text = none := by
  -- A scheme ends with a colon, which the string does not have.
  unfold cutScheme
  rw [List.span_eq_takeWhile_dropWhile]
  split
  · rename_i first rest after cut
    -- What follows a scheme starts with a colon of the string.
    have member : ':' ∈ text.dropWhile isSchemeChar := by simp [(Prod.mk.inj cut).2]
    exact absurd ((List.dropWhile_suffix _).subset member) absent
  · rfl

/-- A plain path is a reference without scheme, query and fragment. -/
theorem ofText_plain {path : String} (plain : isPlainPath path) :
    Reference.ofText path = ⟨none, path.toList, none, none⟩ := by
  have kept : ∀ c ∈ path.toList, isPadding c = false ∧ isSkipped c = false ∧
      c ≠ '#' ∧ c ≠ '?' ∧ c ≠ ':' ∧ c ≠ '\\' :=
    fun c member => isPathLetter_kept (letters_of_isPlainPath plain c member)
  -- No character is dropped, and there is no delimiter to split at.
  have whole : stripped path.toList = path.toList := by
    rw [stripped, dropWhile_of_forall fun c member => (kept c member).1,
      dropWhile_of_forall fun c member => (kept c (List.mem_reverse.mp member)).1,
      List.reverse_reverse, List.filter_eq_self]
    intro c member
    simp [(kept c member).2.1]
  have noHash : '#' ∉ path.toList := fun member => (kept _ member).2.2.1 rfl
  have noQuestion : '?' ∉ path.toList := fun member => (kept _ member).2.2.2.1 rfl
  have noColon : ':' ∉ path.toList := fun member => (kept _ member).2.2.2.2.1 rfl
  simp only [Reference.ofText, whole, splitAtFirst_of_not_mem noHash, cutScheme_of_not_mem noColon,
    splitAtFirst_of_not_mem noQuestion]

/-- A URL that `readTarget` accepts for some string. -/
def IsTarget (url : Url) : Prop := ∃ text, readTarget text = .ok url

namespace IsTarget

variable {target : Url}

/-- A target is an http or https URL that the parser returns for some string. -/
theorem exists_parse (accepted : target.IsTarget) : ∃ text, parse text = .ok target ∧ target.isWeb := by
  -- `readTarget` rejects what does not parse, other schemes and a missing host.
  obtain ⟨text, read⟩ := accepted
  unfold readTarget at read
  split at read
  · cases read
  · rename_i url parsed
    split at read
    · cases read
    · rename_i web
      split at read
      · cases read
      · obtain rfl := Except.ok.inj read
        exact ⟨_, parsed, by simpa using web⟩

/-- The scheme of a target is http or https. -/
theorem web (accepted : target.IsTarget) : target.isWeb = true := by
  -- This is one of the checks of `readTarget`.
  obtain ⟨_, _, web⟩ := accepted.exists_parse
  exact web

/-- The path of a target has segments that are encoded already, at least one of them. -/
theorem names (accepted : target.IsTarget) :
    ∃ names, target.path = .segments names ∧ KeptNames names ∧ names ≠ [] := by
  -- The parser makes such paths for http and https URLs.
  obtain ⟨_, parsed, web⟩ := accepted.exists_parse
  exact names_of_parse parsed web

/-- The path of a target consists of segments. -/
theorem path (accepted : target.IsTarget) : ∃ names, target.path = .segments names := by
  -- Targets are http or https URLs, which the parser gives segments.
  obtain ⟨names, parts, _⟩ := accepted.names
  exact ⟨names, parts⟩

/-- A target has a host. -/
theorem host (accepted : target.IsTarget) : ∃ host, target.host = some host := by
  -- The parser requires one of http and https URLs.
  obtain ⟨_, parsed, web⟩ := accepted.exists_parse
  obtain ⟨host, named, _⟩ := host_of_parse parsed web
  exact ⟨host, named⟩

end IsTarget

/-- Taking a URL as a directory changes its path only, which keeps its segments. -/
theorem asDirectory_eq {url : Url} {names : List String} (parts : url.path = .segments names) :
    ∃ others, url.asDirectory = { url with path := .segments others } := by
  -- A path that ends in a slash is kept; otherwise the path is read again with a slash at its end.
  simp only [asDirectory]
  split
  · exact ⟨names, by rw [← parts]⟩
  · rw [withPathText, parts, Path.respelled]
    split
    · exact ⟨_, rfl⟩
    · exact ⟨_, rfl⟩

/-- A plain path is joined to the path of an http or https URL, and replaces its query and fragment. -/
theorem join_plain {base : Url} {path : String} {names : List String} (web : base.isWeb)
    (parts : base.path = .segments names) (plain : isPlainPath path) :
    base.join path = .ok { base with
      path := .segments (walk false names.dropLast (partsOf true path.toList)),
      query := none, fragment := none } := by
  -- Its first character is no slash, so the path is relative to that of the URL.
  obtain ⟨c, rest, text, letter, notSlash⟩ := head_of_isPlainPath plain
  have noFile : base.scheme ≠ "file" := ne_file_of_web web
  have noSlash : isSlash true c = false := by
    simp [isSlash, notSlash, (isPathLetter_kept letter).2.2.2.2.2]
  simp [join, resolve, ofText_plain plain, text, parts, noFile, ofRelative, noSlash,
    isSpecial_of_web web, Path.directory, withTail, Reference.queryText, Reference.fragmentText]

/-- The URL of an endpoint differs from its target in path, query and fragment only. -/
theorem endpointUrl_plain {target : Url} {path : String} (accepted : target.IsTarget)
    (plain : isPlainPath path) : ∃ parts, endpointUrl target path = .ok { target with
      path := .segments parts, query := none, fragment := none } := by
  -- The target is taken as a directory first, which changes its path only.
  obtain ⟨names, inParts⟩ := accepted.path
  obtain ⟨others, directory⟩ := asDirectory_eq inParts
  have web : Url.isWeb { target with path := .segments others } := accepted.web
  have joined := join_plain web rfl plain
  exact ⟨_, by rw [endpointUrl, directory, joined]⟩

/-- Every plain path has a URL. -/
theorem exists_endpointUrl {target : Url} {path : String} (accepted : target.IsTarget)
    (plain : isPlainPath path) : ∃ url, endpointUrl target path = .ok url := by
  -- `endpointUrl_plain` states that URL.
  obtain ⟨parts, made⟩ := endpointUrl_plain accepted plain
  exact ⟨_, made⟩

/-- The URL of an endpoint has the scheme of its target. -/
theorem scheme_of_endpointUrl {target url : Url} {path : String} (accepted : target.IsTarget)
    (plain : isPlainPath path) (found : endpointUrl target path = .ok url) :
    url.scheme = target.scheme := by
  -- `endpointUrl_plain` keeps the scheme.
  obtain ⟨parts, made⟩ := endpointUrl_plain accepted plain
  rw [made] at found
  rw [← Except.ok.inj found]

/-- Every one of several plain paths has a URL. -/
theorem exists_places {target : Url} {paths : List String} (accepted : target.IsTarget)
    (plain : paths.all isPlainPath) : ∃ places : List (String × Url),
      places.map Prod.fst = paths ∧ ∀ place ∈ places, endpointUrl target place.1 = .ok place.2 := by
  -- Each plain path has a URL by `exists_endpointUrl`.
  induction paths with
  | nil => exact ⟨[], rfl, by simp⟩
  | cons path rest ih =>
    rw [List.all_cons, Bool.and_eq_true] at plain
    obtain ⟨url, found⟩ := exists_endpointUrl accepted plain.1
    obtain ⟨places, paths, others⟩ := ih plain.2
    refine ⟨(path, url) :: places, by rw [List.map_cons, paths], ?_⟩
    intro place member
    rcases List.mem_cons.mp member with rfl | later
    · exact found
    · exact others place later

/-- The URLs of the same paths are the same. -/
theorem places_unique {target : Url} {first second : List (String × Url)}
    (paths : first.map Prod.fst = second.map Prod.fst)
    (here : ∀ place ∈ first, endpointUrl target place.1 = .ok place.2)
    (there : ∀ place ∈ second, endpointUrl target place.1 = .ok place.2) : first = second := by
  -- Induction on the first list; the heads have the same path and therefore the same URL.
  induction first generalizing second with
  | nil =>
    rw [List.map_nil] at paths
    exact (List.map_eq_nil_iff.mp paths.symm).symm
  | cons place rest ih =>
    cases second with
    | nil => cases paths
    | cons other others =>
      obtain ⟨path, url⟩ := place
      obtain ⟨otherPath, otherUrl⟩ := other
      obtain ⟨rfl, after⟩ := List.cons.inj paths
      have same : url = otherUrl :=
        Except.ok.inj ((here (path, url) (by simp)).symm.trans (there (path, otherUrl) (by simp)))
      rw [same, ih after (fun place member => here place (by simp [member]))
        fun place member => there place (by simp [member])]

/-- A URL on the loopback address. -/
def onLoopback (names : List String) : Url :=
  ⟨"http", "", none, some (.ipv6 [0, 0, 0, 0, 0, 0, 0, 1]), some 8080, .segments names, none, none⟩

/-- A target on the loopback address. -/
def loopback : Url := onLoopback [""]

theorem loopback_isTarget : loopback.IsTarget := ⟨"http://[::1]:8080", rfl⟩

end Url

end AccessProbe
