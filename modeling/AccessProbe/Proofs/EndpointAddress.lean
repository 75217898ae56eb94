import AccessProbe.Proofs.EndpointPath

/-! The URL of an endpoint extends the path of its target and keeps everything else. -/

namespace AccessProbe.Url

/-- The path of a URL with a slash at its end. -/
def slashedPath (url : Url) : String :=
  if url.pathText.toList.getLast? = some '/' then url.pathText else url.pathText ++ "/"

/-- The URLs are equal up to path, query and fragment. -/
structure SameServer (first second : Url) : Prop where
  scheme : first.scheme = second.scheme
  username : first.username = second.username
  password : first.password = second.password
  host : first.host = second.host
  port : first.port = second.port

/-- A segment of an endpoint path: letters and digits, at least one of them. -/
def IsWord (part : String) : Prop := part ≠ "" ∧ ∀ c ∈ part.toList, c.isAlphanum

section Words

variable {words : List String}

/-- Words joined by slashes consist of letters, digits and slashes. -/
theorem letters_of_words (each : ∀ word ∈ words, IsWord word) :
    ∀ c ∈ ("/".intercalate words).toList, isPathLetter c := by
  -- Induction on the words, with the slash between the first two as a case of its own.
  have letters {word : String} (isWord : IsWord word) : ∀ c ∈ word.toList, isPathLetter c := by
    intro c member
    simp [isPathLetter, isWord.2 c member]
  induction words with
  | nil => simp
  | cons word rest ih =>
    obtain ⟨here, later⟩ := List.forall_mem_cons.mp each
    cases rest with
    | nil =>
      rw [String.intercalate_singleton]
      exact letters here
    | cons next others =>
      intro c member
      rw [String.intercalate_cons_cons, String.toList_append, String.toList_append, List.mem_append,
        List.mem_append] at member
      rcases member with (first | slash) | behind
      · exact letters here c first
      · rw [List.mem_singleton.mp slash]
        decide
      · exact ih later c behind

/-- At least one word makes a plain path. -/
theorem isPlainPath_of_words (some_words : words ≠ []) (each : ∀ word ∈ words, IsWord word) :
    isPlainPath ("/".intercalate words) := by
  -- Its characters are those of the words and slashes, so only the first one is left to check.
  obtain ⟨word, rest, rfl⟩ := List.exists_cons_of_ne_nil some_words
  obtain ⟨notEmpty, shown⟩ := each word (.head _)
  -- The path starts with the first letter of the first word, which is no slash.
  obtain ⟨c, letters, spelled⟩ := List.exists_cons_of_ne_nil (mt String.toList_eq_nil_iff.mp notEmpty)
  have first : ∃ behind, ("/".intercalate (word :: rest)).toList = c :: behind := by
    cases rest with
    | nil => exact ⟨letters, by rw [String.intercalate_singleton, spelled]⟩
    | cons next others =>
      rw [String.intercalate_cons_cons, String.toList_append, String.toList_append, spelled]
      exact ⟨_, rfl⟩
  obtain ⟨behind, whole⟩ := first
  have noSlash : c ≠ '/' := by
    rintro rfl
    exact absurd (shown '/' (by rw [spelled]; exact .head _)) (by decide)
  simp only [isPlainPath, Bool.and_eq_true, decide_eq_true_eq]
  refine ⟨List.all_eq_true.mpr (letters_of_words each), ?_⟩
  rw [whole]
  exact noSlash

end Words

section Directory

variable {target : Url}

/-- Setting the path of an http or https URL by its own string gives that path, if its segments are encoded
already. -/
theorem withPathText_letters {url : Url} {old names : List String} (web : url.isWeb)
    (parts : url.path = .segments old) (kept : KeptNames names) (some_names : names ≠ []) :
    url.withPathText (Path.segments names).letters = { url with path := .segments names } := by
  -- The string is read as the path after an authority, which keeps encoded segments.
  rw [withPathText, filter_letters kept, parts, Path.respelled, if_neg (ne_file_of_web web),
    pathAfterAuthority_letters (isSpecial_of_web web) kept some_names]

/-- A path ends in a slash if and only if its last segment is empty. -/
theorem getLast?_letters {names : List String} {last : String} (kept : IsKept last.toList) :
    (Path.segments (names ++ [last])).letters.getLast? = some '/' ↔ last = "" := by
  -- The path ends with a slash and the last segment.
  have letters : (Path.segments (names ++ [last])).letters = (Path.segments names).letters ++ '/' :: last.toList := by
    simp [Path.letters]
  rw [letters, List.getLast?_append]
  by_cases empty : last = ""
  · simp [empty]
  · -- A segment that is not empty ends in one of its own characters, none of which is a slash.
    have letters : last.toList ≠ [] := mt String.toList_eq_nil_iff.mp empty
    have inside : last.toList.getLast letters ≠ '/' := by
      intro slash
      have whole := kept.whole _ (List.getLast_mem letters)
      rw [slash] at whole
      exact absurd whole (by decide)
    rw [List.getLast?_cons, List.getLast?_eq_some_getLast letters]
    simpa [empty] using inside

/-- As a directory, a target has an empty segment at the end of its path, which one it may have already. -/
theorem IsTarget.directory (accepted : target.IsTarget) : ∃ names, KeptNames (names ++ [""]) ∧
    target.asDirectory = { target with path := .segments (names ++ [""]) } ∧
    target.slashedPath.toList = (Path.segments (names ++ [""])).letters := by
  -- Cases on whether the last segment is empty, which is when the path ends in a slash.
  obtain ⟨names, parts, kept, some_names⟩ := accepted.names
  obtain ⟨before, last, rfl⟩ : ∃ before last, names = before ++ [last] :=
    ⟨names.dropLast, names.getLast some_names, (List.dropLast_concat_getLast some_names).symm⟩
  have text : target.pathText.toList = (Path.segments (before ++ [last])).letters := by
    rw [pathText, Path.toList_text, parts]
  have ends : (Path.segments (before ++ [last])).letters.getLast? = some '/' ↔ last = "" :=
    getLast?_letters (kept last (by simp))
  simp only [asDirectory, slashedPath, text, parts, ends]
  by_cases empty : last = ""
  · subst empty
    refine ⟨before, kept, ?_, ?_⟩
    · rw [if_pos rfl, ← parts]
    · rw [if_pos rfl, text]
  · -- The slash that is appended is read as an empty segment.
    have longer : (Path.segments (before ++ [last])).letters ++ ['/'] =
        (Path.segments (before ++ [last] ++ [""])).letters := by
      simp [Path.letters]
    have keptLonger : KeptNames (before ++ [last] ++ [""]) :=
      List.forall_mem_append.mpr ⟨kept, by simpa using IsKept.nil⟩
    refine ⟨before ++ [last], keptLonger, ?_, ?_⟩
    · rw [if_neg empty, longer, withPathText_letters accepted.web parts keptLonger (by simp)]
    · rw [if_neg empty, String.toList_append, text, ← longer]
      rfl

end Directory

/-- Encoded segments are determined by the string of their path. -/
theorem letters_inj {names others : List String} (kept : KeptNames names) (keptOthers : KeptNames others)
    (some_names : names ≠ []) (some_others : others ≠ [])
    (same : (Path.segments names).letters = (Path.segments others).letters) : names = others := by
  -- Reading the string as a path gives the segments back.
  have special : isSpecial "http" := by decide
  rw [← pathAfterAuthority_letters special kept some_names, same,
    pathAfterAuthority_letters special keptOthers some_others]

section Endpoint

variable {target other : Url} {path : String}

/-- The URL of an endpoint is its target without query and fragment, with the segments of the endpoint walked
from those of the target. -/
theorem IsTarget.endpointUrl_eq (accepted : target.IsTarget) (plain : isPlainPath path) : ∃ names,
    KeptNames (names ++ [""]) ∧ target.slashedPath.toList = (Path.segments (names ++ [""])).letters ∧
    endpointUrl target path = .ok { target with
      path := .segments (walk false names (partsOf true path.toList)), query := none, fragment := none } := by
  -- The empty segment at the end of the directory is dropped by the join.
  obtain ⟨names, kept, directory, text⟩ := accepted.directory
  have web : Url.isWeb { target with path := .segments (names ++ [""]) } := accepted.web
  refine ⟨names, kept, text, ?_⟩
  rw [endpointUrl, directory, join_plain web rfl plain, List.dropLast_concat]

/-- The path of an endpoint URL is that of its target with a slash at its end, followed by the path of the
endpoint. -/
theorem pathText_of_endpointUrl {url : Url} (accepted : target.IsTarget) (plain : isPlainPath path)
    (found : endpointUrl target path = .ok url) : url.pathText = target.slashedPath ++ path := by
  -- `pathText_endpoint` states this for the directory without its slash.
  obtain ⟨names, _, directory, text⟩ := accepted.directory
  have slashed : target.slashedPath.toList = target.directoryText ++ ['/'] := by
    rw [text, directoryText, directory, Path.directory, List.dropLast_concat]
    simp [Path.letters]
  apply String.toList_inj.mp
  rw [pathText_endpoint accepted plain found, String.toList_append, slashed, List.append_assoc, List.singleton_append]

/-- The URL of an endpoint depends only on the server and the slashed path of its target. -/
theorem endpointUrl_congr (accepted : target.IsTarget) (otherAccepted : other.IsTarget) (plain : isPlainPath path)
    (server : other.SameServer target) (same : other.slashedPath = target.slashedPath) :
    endpointUrl other path = endpointUrl target path := by
  -- The slashed paths determine the segments that the endpoint is joined to.
  obtain ⟨names, kept, text, made⟩ := accepted.endpointUrl_eq plain
  obtain ⟨otherNames, otherKept, otherText, otherMade⟩ := otherAccepted.endpointUrl_eq plain
  have sameNames : otherNames ++ [""] = names ++ [""] := by
    apply letters_inj otherKept kept (by simp) (by simp)
    rw [← otherText, ← text, same]
  rw [made, otherMade, List.append_cancel_right sameNames, server.scheme, server.username,
    server.password, server.host, server.port]

end Endpoint

/-- Every endpoint of a target has a URL with everything of the target but its path, query and fragment. Query
and fragment are dropped. The path is exactly that of the target, with a slash at its end if it has none,
followed by that of the endpoint. So no segment of the target is encoded again, dropped or moved, and targets
that differ in one trailing slash, the query or the fragment have the same endpoint URL. -/
theorem endpoint_extends_server {target : Url} (accepted : target.IsTarget) {words : List String}
    (some_words : words ≠ []) (each : ∀ word ∈ words, IsWord word) :
    ∃ url, endpointUrl target ("/".intercalate words) = .ok url ∧ url.SameServer target ∧
      url.query = none ∧ url.fragment = none ∧ url.pathText = target.slashedPath ++ "/".intercalate words ∧
      ∀ other : Url, other.IsTarget → (endpointUrl other ("/".intercalate words) = .ok url ↔
        other.SameServer target ∧ other.slashedPath = target.slashedPath) := by
  -- All but the last part read off `endpointUrl_eq`, and that compares two targets with the same endpoint
  -- URL.
  have plain := isPlainPath_of_words some_words each
  obtain ⟨names, _, _, made⟩ := accepted.endpointUrl_eq plain
  refine ⟨_, made, ⟨rfl, rfl, rfl, rfl, rfl⟩, rfl, rfl, pathText_of_endpointUrl accepted plain made, ?_⟩
  intro other otherAccepted
  constructor
  · intro found
    obtain ⟨otherNames, _, _, otherMade⟩ := otherAccepted.endpointUrl_eq plain
    obtain ⟨scheme, username, password, host, port, _⟩ := Url.mk.inj (Except.ok.inj (otherMade.symm.trans found))
    refine ⟨⟨scheme, username, password, host, port⟩, ?_⟩
    -- Both paths end in that of the endpoint, so what precedes it is the same.
    have paths := (pathText_of_endpointUrl otherAccepted plain found).symm.trans
      (pathText_of_endpointUrl accepted plain made)
    exact (String.append_left_inj _).mp paths
  · rintro ⟨server, same⟩
    rw [endpointUrl_congr accepted otherAccepted plain server same, made]

/-- Percent-encoded characters, an empty segment and one of three dots are kept, and neither a trailing slash
nor a query matters. -/
theorem endpoint_extends_escaped_server :
    let target : Url := { onLoopback ["a%2fb", "", "%C3%A9", "..."] with query := some "q=1", fragment := some "f" }
    let slashed : Url := onLoopback ["a%2fb", "", "%C3%A9", "...", ""]
    let path := "/".intercalate ["api", "v1"]
    readTarget "[::1]:8080/x/%2E%2e/a%2fb//é/...?q=1#f" = .ok target ∧
      readTarget "[::1]:8080/a%2fb//é/.../" = .ok slashed ∧
      ∃ url, endpointUrl target path = .ok url ∧ endpointUrl slashed path = .ok url ∧
        url.pathText = "/a%2fb//%C3%A9/.../api/v1" := by
  intro target slashed path
  have read : readTarget "[::1]:8080/x/%2E%2e/a%2fb//é/...?q=1#f" = .ok target := by decide +kernel
  have readSlashed : readTarget "[::1]:8080/a%2fb//é/.../" = .ok slashed := by decide +kernel
  have each : ∀ word ∈ ["api", "v1"], IsWord word := by
    intro word member
    have shown : ["api", "v1"].all (fun word => word ≠ "" && word.toList.all Char.isAlphanum) = true := by decide
    have both := List.all_eq_true.mp shown word member
    rw [Bool.and_eq_true, decide_eq_true_eq] at both
    exact ⟨both.1, List.all_eq_true.mp both.2⟩
  obtain ⟨url, found, _, _, _, text, same⟩ := endpoint_extends_server ⟨_, read⟩ (by decide) each
  have paths : slashed.slashedPath = target.slashedPath := by decide +kernel
  refine ⟨read, readSlashed, url, found, (same slashed ⟨_, readSlashed⟩).mpr ⟨⟨rfl, rfl, rfl, rfl, rfl⟩, paths⟩, ?_⟩
  rw [text]
  decide +kernel

end AccessProbe.Url
