import AccessProbe.Proofs.Endpoint
import AccessProbe.Proofs.Text.Letters

/-! How `readTarget` decides about every string. -/

namespace AccessProbe

namespace Url

/-- A syntactically valid scheme: a letter followed by letters, digits and some punctuation. -/
def IsSchemeName (letters : List Char) : Prop :=
  (∃ c rest, letters = c :: rest ∧ c.isAlpha) ∧ ∀ c ∈ letters, isSchemeChar c

/-- A string that starts with this scheme and `://`. -/
def SchemePrefix (scheme text : String) : Prop :=
  IsSchemeName scheme.toList ∧ ∃ rest, text = scheme ++ "://" ++ rest

/-- The schemes http and https, in any case. -/
def IsWebName (scheme : String) : Prop := scheme.toLower = "http" ∨ scheme.toLower = "https"

instance (scheme : String) : Decidable (IsWebName scheme) := inferInstanceAs (Decidable (_ ∨ _))

section Text

variable {mark : Char} {letters front rest : List Char}

/-- A string is not split within a part without the delimiter. -/
theorem splitAtFirst_append (absent : mark ∉ front) (rest : List Char) :
    splitAtFirst mark (front ++ rest) = (front ++ (splitAtFirst mark rest).1, (splitAtFirst mark rest).2) := by
  induction front with
  | nil => rfl
  | cons c others ih =>
    simp only [List.mem_cons, not_or] at absent
    simp [splitAtFirst, Ne.symm absent.1, ih absent.2]

/-- Trimming the end of a string stops at a character that is kept. -/
theorem reverse_dropWhile_append {padding : Char → Bool} {last : Char} (counts : padding last = false)
    (front rest : List Char) : ((front ++ last :: rest).reverse.dropWhile padding).reverse =
      front ++ last :: (rest.reverse.dropWhile padding).reverse := by
  -- The reversed string starts with the reversed end, so trimming stops in it or at the character.
  rw [List.reverse_append, List.reverse_cons, List.append_assoc, List.dropWhile_append]
  split
  · rename_i none
    rw [List.isEmpty_iff] at none
    simp [none, counts]
  · simp

/-- Scheme characters are neither trimmed nor dropped nor delimiters. -/
theorem isSchemeChar_kept {c : Char} (letter : isSchemeChar c) :
    isPadding c = false ∧ isSkipped c = false ∧ c ≠ '#' ∧ c ≠ ':' := by
  -- Letters and digits are as in endpoint paths, and the other three are checked directly.
  simp only [isSchemeChar, Bool.or_eq_true, decide_eq_true_eq] at letter
  obtain ((shown | rfl) | rfl) | rfl := letter
  · have kept := isPathLetter_kept (c := c) (by simp [isPathLetter, shown])
    exact ⟨kept.1, kept.2.1, kept.2.2.1, kept.2.2.2.2.1⟩
  · decide
  · decide
  · decide

/-- The scheme characters of a string end at its first colon. -/
theorem span_isSchemeChar (name : ∀ c ∈ letters, isSchemeChar c) (rest : List Char) :
    (letters ++ ':' :: rest).span isSchemeChar = (letters, ':' :: rest) := by
  -- A colon is no scheme character.
  have colon : isSchemeChar ':' = false := by decide
  rw [List.span_eq_takeWhile_dropWhile, List.takeWhile_append_of_pos name, List.dropWhile_append_of_pos name]
  simp [colon]

/-- Trimming and dropping characters leaves a scheme and `://` in place. -/
theorem stripped_append (name : IsSchemeName letters) (rest : List Char) :
    ∃ after, stripped (letters ++ ':' :: '/' :: '/' :: rest) = letters ++ ':' :: '/' :: '/' :: after := by
  -- None of these characters is trimmed or dropped, so only the rest changes.
  obtain ⟨⟨c, others, rfl, _⟩, shown⟩ := name
  have first : isPadding c = false := (isSchemeChar_kept (shown c (by simp))).1
  have kept : (c :: others).filter (! isSkipped ·) = c :: others := by
    rw [List.filter_eq_self]
    intro d member
    rw [(isSchemeChar_kept (shown d member)).2.1, Bool.not_false]
  have slashes : [':', '/', '/'].filter (! isSkipped ·) = [':', '/', '/'] := by decide
  refine ⟨((rest.reverse.dropWhile isPadding).reverse).filter (! isSkipped ·), ?_⟩
  -- The string starts with a letter, so nothing is trimmed there, and trimming the end stops at the second slash at the latest.
  have whole : c :: others ++ ':' :: '/' :: '/' :: rest = (c :: others ++ [':', '/']) ++ '/' :: rest := by simp
  have start : (c :: others ++ ':' :: '/' :: '/' :: rest).dropWhile isPadding
      = c :: others ++ ':' :: '/' :: '/' :: rest := by
    rw [List.cons_append, List.dropWhile_cons_of_neg (by simp [first])]
  have parts : (c :: others ++ [':', '/']) ++ '/' :: (rest.reverse.dropWhile isPadding).reverse
      = c :: others ++ ([':', '/', '/'] ++ (rest.reverse.dropWhile isPadding).reverse) := by simp
  rw [stripped, start, whole, reverse_dropWhile_append (by decide), parts, List.filter_append,
    List.filter_append, kept, slashes]
  rfl

end Text

theorem toList_prefixed (scheme rest : String) :
    (scheme ++ "://" ++ rest).toList = scheme.toList ++ ':' :: '/' :: '/' :: rest.toList := by
  rw [String.toList_append, String.toList_append, List.append_assoc]
  rfl

/-- A string with a scheme and `://` is read with this scheme. -/
theorem SchemePrefix.scheme_ofText {scheme text : String} (begins : SchemePrefix scheme text) :
    (Reference.ofText text).scheme = some scheme.toLower := by
  -- After trimming, the scheme is everything before the first colon.
  obtain ⟨name, rest, rfl⟩ := begins
  obtain ⟨after, counts⟩ := stripped_append name rest.toList
  have absent : '#' ∉ scheme.toList ++ [':', '/', '/'] := by
    intro member
    rcases List.mem_append.mp member with inScheme | slashes
    · exact (isSchemeChar_kept (name.2 _ inScheme)).2.2.1 rfl
    · exact absurd slashes (by decide)
  -- The fragment is split off after the slashes, and then the scheme before them.
  have parts : scheme.toList ++ ':' :: '/' :: '/' :: after = (scheme.toList ++ [':', '/', '/']) ++ after := by simp
  have cut : cutScheme (scheme.toList ++ [':', '/', '/'] ++ (splitAtFirst '#' after).1)
      = some (scheme.toList, '/' :: '/' :: (splitAtFirst '#' after).1) := by
    rw [List.append_assoc, cutScheme, List.cons_append, span_isSchemeChar name.2]
    obtain ⟨⟨c, others, spelled, letter⟩, _⟩ := name
    rw [spelled]
    simp [letter]
  simp only [Reference.ofText, toList_prefixed, counts, parts, splitAtFirst_append absent, cut, toLower_eq]

/-- Its URL has this scheme. -/
theorem SchemePrefix.scheme_of_parse {scheme text : String} {url : Url} (begins : SchemePrefix scheme text)
    (parsed : parse text = .ok url) : url.scheme = scheme.toLower :=
  Option.some.inj ((scheme_of_resolve parsed).symm.trans begins.scheme_ofText)

end Url

/-- The check `hasScheme` finds a scheme exactly in the strings that start with one and `://`. -/
theorem hasScheme_iff {text : String} : hasScheme text = true ↔ ∃ scheme, Url.SchemePrefix scheme text := by
  -- `hasScheme` tests the scheme characters at the start and what follows them.
  unfold hasScheme
  constructor
  · intro found
    split at found
    · rename_i c letters rest cut
      rw [List.span_eq_takeWhile_dropWhile] at cut
      obtain ⟨before, after⟩ := Prod.mk.inj cut
      have whole : text.toList = (c :: letters) ++ ':' :: '/' :: '/' :: rest := by
        rw [← before, ← after, List.takeWhile_append_dropWhile]
      have shown : ∀ d ∈ c :: letters, Url.isSchemeChar d := by
        rw [← before]
        exact fun d member => List.all_eq_true.mp List.all_takeWhile d member
      refine ⟨String.ofList (c :: letters), ⟨⟨c, letters, String.toList_ofList, found⟩, ?_⟩, String.ofList rest, ?_⟩
      · rw [String.toList_ofList]
        exact shown
      · apply String.toList_inj.mp
        rw [whole, Url.toList_prefixed, String.toList_ofList, String.toList_ofList]
    · cases found
  · rintro ⟨scheme, ⟨⟨c, letters, spelled, letter⟩, shown⟩, rest, rfl⟩
    rw [Url.toList_prefixed, Url.span_isSchemeChar shown, spelled]
    exact letter

/-- http is lower case. -/
theorem toLower_http : "http".toLower = "http" := by
  rw [toLower_eq]
  decide

/-- A string with `http://` before it starts with a scheme. -/
theorem schemePrefix_http (text : String) : Url.SchemePrefix "http" ("http://" ++ text) := by
  -- All characters of the scheme are checked.
  have shown : "http".toList.all Url.isSchemeChar = true := by decide
  exact ⟨⟨⟨'h', ['t', 't', 'p'], rfl, by decide⟩, List.all_eq_true.mp shown⟩, text, rfl⟩

/-- Distinct errors have distinct messages. -/
theorem TargetError.message_injective : Function.Injective TargetError.message := by
  -- Checked for every pair of errors.
  intro first second same
  cases first with
  | address cause =>
    cases second with
    | address other => cases cause <;> cases other <;> first | rfl | exact absurd same (by decide)
    | scheme => cases cause <;> exact absurd same (by decide)
    | host => cases cause <;> exact absurd same (by decide)
  | scheme =>
    cases second with
    | address other => cases other <;> exact absurd same (by decide)
    | scheme => rfl
    | host => exact absurd same (by decide)
  | host =>
    cases second with
    | address other => cases other <;> exact absurd same (by decide)
    | scheme => exact absurd same (by decide)
    | host => rfl

/-- The host check of `readTarget` never fails, since http and https URLs always have a host. -/
theorem readTarget_eq (text : String) : readTarget text = match Url.parseTarget text with
    | .error cause => .error (.address cause)
    | .ok url => if url.isWeb then .ok url else .error .scheme := by
  -- The parser is followed by the tests for the scheme and the host.
  unfold readTarget
  cases parsed : Url.parseTarget text with
  | error cause => rfl
  | ok url =>
    by_cases web : url.isWeb
    · obtain ⟨host, named, _⟩ := Url.host_of_parse parsed web
      simp [web, named]
    · simp [web]

/-- A string is accepted with the http or https URL that it parses to. -/
theorem readTarget_eq_ok {text : String} {url : Url} :
    readTarget text = .ok url ↔ Url.parseTarget text = .ok url ∧ url.isWeb := by
  -- Of the URLs that are parsed, only those with the schemes http and https are targets.
  rw [readTarget_eq]
  cases Url.parseTarget text with
  | error cause => exact ⟨nofun, nofun⟩
  | ok parsed =>
    by_cases web : parsed.isWeb
    · simp only [if_pos web, Except.ok.injEq]
      exact ⟨fun same => ⟨same, same ▸ web⟩, And.left⟩
    · simp only [if_neg web, Except.ok.injEq]
      exact ⟨nofun, fun ⟨same, other⟩ => absurd (same ▸ other) web⟩

/-- A string with a scheme is parsed as it is, and rejected if the scheme is neither http nor https. -/
theorem readTarget_of_schemePrefix {scheme text : String} (begins : Url.SchemePrefix scheme text) :
    readTarget text = match Url.parse text with
      | .error cause => .error (.address cause)
      | .ok url => if Url.IsWebName scheme then .ok url else .error .scheme := by
  -- The URL has the scheme of the string in lower case.
  have itself : Url.parseTarget text = Url.parse text := by
    rw [Url.parseTarget, if_pos (hasScheme_iff.mpr ⟨scheme, begins⟩)]
  rw [readTarget_eq, itself]
  cases parsed : Url.parse text with
  | error cause => rfl
  | ok url =>
    have web : url.isWeb = true ↔ Url.IsWebName scheme := by
      rw [Url.isWeb, begins.scheme_of_parse parsed, Bool.or_eq_true, decide_eq_true_eq, decide_eq_true_eq]
      rfl
    simp only [web]

/-- A string without a scheme is parsed with `http://` before it. -/
theorem readTarget_of_bare {text : String} (bare : hasScheme text = false) :
    readTarget text = readTarget ("http://" ++ text) := by
  -- With `http://` it has a scheme, so that is not put before it again.
  have begins : hasScheme ("http://" ++ text) = true := hasScheme_iff.mpr ⟨"http", schemePrefix_http text⟩
  have same : Url.parseTarget text = Url.parseTarget ("http://" ++ text) := by
    rw [Url.parseTarget, Url.parseTarget, if_pos begins, bare]
    rfl
  rw [readTarget_eq, readTarget_eq, same]

/-- A string with `http://` before it is accepted if it parses. -/
theorem readTarget_http (text : String) : readTarget ("http://" ++ text) =
    match Url.parse ("http://" ++ text) with
      | .error cause => .error (.address cause)
      | .ok url => .ok url := by
  -- Its scheme is http.
  have web : Url.IsWebName "http" := .inl toLower_http
  rw [readTarget_of_schemePrefix (schemePrefix_http text)]
  simp only [if_pos web]

/-- A string has a scheme if and only if it starts with one and `://`, whatever follows. A string without a
scheme is read with `http://` before it. A string with a scheme is parsed as it is, and accepted if and only
if it parses and the scheme is http or https. Every accepted URL has a host that is not empty, so no string is
rejected for a missing host. -/
theorem readTarget_decided_by_scheme (text : String) :
    (hasScheme text = true ↔ ∃ scheme, Url.SchemePrefix scheme text) ∧
    (hasScheme text = false → readTarget text = readTarget ("http://" ++ text) ∧
      readTarget text ≠ .error .scheme ∧ ∀ url, readTarget text = .ok url → url.scheme = "http") ∧
    (∀ scheme, Url.SchemePrefix scheme text →
      (∀ url, readTarget text = .ok url ↔ Url.parse text = .ok url ∧ Url.IsWebName scheme) ∧
      (∀ cause, readTarget text = .error (.address cause) ↔ Url.parse text = .error cause) ∧
      (readTarget text = .error .scheme ↔ (∃ url, Url.parse text = .ok url) ∧ ¬ Url.IsWebName scheme)) ∧
    (∀ url, readTarget text = .ok url → (url.scheme = "http" ∨ url.scheme = "https") ∧
      ∃ host, url.host = some host ∧ host.text ≠ "") ∧
    ∀ error, readTarget text = .error error → error.message ≠ TargetError.host.message := by
  -- Both kinds of strings are covered by the lemmas above.
  refine ⟨hasScheme_iff, fun bare => ?_, fun scheme begins => ?_, fun url accepted => ?_, fun error refused => ?_⟩
  · rw [readTarget_of_bare bare, readTarget_http]
    cases parsed : Url.parse ("http://" ++ text) with
    | error cause => exact ⟨rfl, nofun, nofun⟩
    | ok url =>
      refine ⟨rfl, nofun, fun other same => ?_⟩
      rw [← Except.ok.inj same]
      exact ((schemePrefix_http text).scheme_of_parse parsed).trans toLower_http
  · rw [readTarget_of_schemePrefix begins]
    cases Url.parse text with
    | error cause => simp
    | ok url =>
      by_cases web : Url.IsWebName scheme
      · simp [web]
      · simp [web]
  · obtain ⟨parsed, web⟩ := readTarget_eq_ok.mp accepted
    refine ⟨?_, Url.host_of_parse parsed web⟩
    simpa [Url.isWeb] using web
  · -- Only the error for a missing host has this message, and it never occurs.
    intro same
    rw [TargetError.message_injective same, readTarget_eq] at refused
    split at refused
    · cases refused
    · split at refused
      · cases refused
      · cases refused

/-- A scheme that occurs later in a string does not count. -/
example : hasScheme "localhost:8080/?next=http://x" = false := by decide

end AccessProbe
