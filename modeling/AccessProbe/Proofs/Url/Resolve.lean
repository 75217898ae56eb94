import AccessProbe.Proofs.Url.Printable

/-! Every parsed URL is printable, and so is every URL that a reference resolves to. -/

namespace AccessProbe

open Percent

namespace Url

variable {base url : Url} {scheme : String} {names : List String} {text : List Char} {reference : Reference}

/-- User name and password are printable. -/
theorem printable_readUser (text : List Char) : Printable (readUser text).1.toList ∧
    ∀ password, (readUser text).2 = some password → Printable password.toList := by
  -- Both are percent-encoded.
  have escaped (piece : List Char) : Printable (String.ofList (Percent.encode inUserInfo piece)).toList := by
    rw [String.toList_ofList]
    exact printable_encode (fun _ control => by simp [inUserInfo, inPath, control]) piece
  refine ⟨escaped _, fun password given => ?_⟩
  simp only [readUser] at given
  split at given
  · cases given
  · rw [← Option.some.inj given]
    exact escaped _

/-- The components of an authority are printable. -/
theorem printable_authority {authority : Authority} {rest : List Char} {followed : Bool}
    (read : Authority.read scheme text followed = .ok (authority, rest)) :
    Printable authority.username.toList ∧
      (∀ password, authority.password = some password → Printable password.toList) ∧
      Printable authority.host.text.toList := by
  -- They come from `readUser` and from one of the two parsers of hosts.
  obtain ⟨user, host, named, found⟩ := Authority.exists_of_read read
  obtain ⟨username, password⟩ := printable_readUser user
  rw [← named] at username password
  refine ⟨username, password, ?_⟩
  split at found
  · exact Host.printable_parse found
  · exact Host.printable_parsePlain found

/-- The query of a reference is printable. -/
theorem printable_queryText (reference : Reference) (scheme : String) :
    ∀ query, reference.queryText scheme = some query → Printable query.toList := by
  -- Both sets for queries include the control characters.
  intro query given
  obtain ⟨text, _, rfl⟩ := Option.map_eq_some_iff.mp given
  rw [String.toList_ofList]
  apply printable_encode
  intro c control
  split <;> simp [inWebQuery, inQuery, control]

/-- The fragment of a reference is printable. -/
theorem printable_fragmentText (reference : Reference) :
    ∀ fragment, reference.fragmentText = some fragment → Printable fragment.toList := by
  -- The set for fragments includes the control characters.
  intro fragment given
  obtain ⟨text, _, rfl⟩ := Option.map_eq_some_iff.mp given
  rw [String.toList_ofList]
  exact printable_encode (fun _ control => by simp [inFragment, control]) text

theorem IsPrintable.withTail (printable : url.IsPrintable) (reference : Reference) :
    (url.withTail reference).IsPrintable :=
  { printable with
    query := printable_queryText reference url.scheme
    fragment := printable_fragmentText reference }

theorem IsPrintable.withFragment (printable : url.IsPrintable) (reference : Reference) :
    { url with fragment := reference.fragmentText }.IsPrintable :=
  { printable with fragment := printable_fragmentText reference }

theorem IsPrintable.withNames (printable : url.IsPrintable) {names : List String} (path : PrintableNames names) :
    { url with path := .segments names }.IsPrintable :=
  { printable with path }

/-- A URL with an authority is printable. -/
theorem printable_ofAuthority (shown : Printable scheme.toList) (read : ofAuthority scheme text reference = .ok url) :
    url.IsPrintable := by
  -- Each component has its own lemma.
  obtain ⟨authority, rest, found, rfl⟩ := exists_of_ofAuthority read
  obtain ⟨username, password, host⟩ := printable_authority found
  refine ⟨shown, username, password, ?_, printable_pathAfterAuthority _ _, printable_queryText reference scheme,
    printable_fragmentText reference⟩
  rintro named ⟨⟩
  exact host

/-- A reference without scheme resolves to a printable URL against a printable base. -/
theorem printable_ofRelative (printable : base.IsPrintable) (read : ofRelative base reference = .ok url) :
    url.IsPrintable := by
  -- The cases are those of `ofRelative`: an empty body, an authority, a path from the root and a relative
  -- path.
  have none : PrintableNames [] := by simp [PrintableNames]
  simp only [ofRelative] at read
  split at read
  · -- An empty body keeps the path of the base.
    split at read
    · rw [← Except.ok.inj read]
      exact printable.withFragment reference
    · rw [← Except.ok.inj read]
      exact printable.withTail reference
  · split at read
    · split at read
      · -- Two slashes begin an authority.
        split at read
        · exact printable_ofAuthority printable.scheme read
        · exact printable_ofAuthority printable.scheme read
      · rw [← Except.ok.inj read]
        exact (printable.withNames (printable_walk none _)).withTail reference
    · rw [← Except.ok.inj read]
      exact (printable.withNames (printable_walk printable.path.directory _)).withTail reference

/-- Dropping empty segments at the start keeps a path printable. -/
theorem printable_withoutLeadingEmpty (printable : PrintableNames names) :
    PrintableNames (withoutLeadingEmpty names) := by
  -- The remaining segments are among the old ones, unless there is only the empty one.
  unfold withoutLeadingEmpty
  split
  · exact .singleton .nil
  · exact printable.subset (List.dropWhile_suffix _).subset

/-- A file URL is printable if its host and its path are. -/
theorem printable_fileUrl {host : Host} (shown : Printable host.text.toList) (printable : PrintableNames names) :
    (fileUrl host names).IsPrintable := by
  -- It has no other components than the scheme.
  refine ⟨(by decide : Printable "file".toList), .nil, nofun, ?_, printable_withoutLeadingEmpty printable, nofun,
    nofun⟩
  rintro named ⟨⟩
  exact shown

/-- A file URL with a host is printable. -/
theorem printable_ofFileHost (read : ofFileHost text = .ok url) : url.IsPrintable := by
  -- The host is empty, or parsed like that of a special scheme.
  have path (parts : List (List Char)) : PrintableNames (walk true [] parts) :=
    printable_walk (by simp [PrintableNames]) _
  have nowhere : Printable (Host.domain "").text.toList := .nil
  unfold ofFileHost at read
  simp only [Bind.bind, Except.bind, Pure.pure, Except.pure] at read
  split at read
  · rw [← Except.ok.inj read]
    exact printable_fileUrl nowhere (path _)
  · split at read
    · rw [← Except.ok.inj read]
      apply printable_fileUrl _ (path _)
      split <;> exact nowhere
    · -- A host is kept unless it is `localhost` or a drive letter follows.
      split at read
      · cases read
      · rename_i host found
        rw [← Except.ok.inj read]
        apply printable_fileUrl _ (path _)
        split
        · exact nowhere
        · exact Host.printable_parse found

/-- A reference resolves to a printable file URL, possibly against a printable base. -/
theorem printable_ofFile {base : Option Url} (printable : ∀ ground, base = some ground → ground.IsPrintable)
    (read : ofFile base reference = .ok url) : url.IsPrintable := by
  -- Host and path come from the reference or from the base, and both are printable.
  have path {done : List String} (printable : PrintableNames done) (parts : List (List Char)) :
      PrintableNames (walk true done parts) := printable_walk printable parts
  have top : PrintableNames [] := by simp [PrintableNames]
  have nowhere : Printable (Host.domain "").text.toList := .nil
  have host : Printable ((base.bind (·.host)).getD (.domain "")).text.toList := by
    cases found : base.bind (·.host) with
    | none => exact nowhere
    | some host =>
      obtain ⟨ground, rfl, named⟩ := Option.bind_eq_some_iff.mp found
      exact (printable ground rfl).host host named
  simp only [ofFile] at read
  split at read
  · rw [← Except.ok.inj read]
    exact (printable_fileUrl nowhere (.singleton (by decide))).withTail reference
  · -- An empty body keeps host and path of the base.
    rename_i ground _
    have ground := printable ground rfl
    split at read
    · rw [← Except.ok.inj read]
      exact ground.withFragment reference
    · rw [← Except.ok.inj read]
      exact ground.withTail reference
  · split at read
    · split at read
      · -- Two slashes begin a host.
        simp only [Bind.bind, Except.bind, Pure.pure, Except.pure] at read
        split at read
        · cases read
        · rename_i found hosted
          rw [← Except.ok.inj read]
          exact (printable_ofFileHost hosted).withTail reference
      · -- One slash keeps the host, and the drive unless the reference has one.
        rw [← Except.ok.inj read]
        apply IsPrintable.withTail
        apply printable_fileUrl
        · split
          · exact nowhere
          · exact host
        · -- The path begins with the drive, which is the first segment of the base.
          apply path
          intro name member
          obtain ⟨drive, _⟩ := Option.filter_eq_some_iff.mp (Option.mem_toList.mp member)
          obtain ⟨ground, rfl, found⟩ := Option.bind_eq_some_iff.mp drive
          split at found
          · rename_i first others parts
            split at found
            · rw [← Option.some.inj found]
              have names : Path.IsPrintable (.segments (first :: others)) := parts ▸ (printable ground rfl).path
              exact names first (.head _)
            · cases found
          · cases found
    · -- A relative path goes on from the base, unless it begins with a drive letter.
      split at read
      · rename_i _ ground
        have ground := printable ground rfl
        split at read
        · rw [← Except.ok.inj read]
          exact (printable_fileUrl nowhere (path top _)).withTail reference
        · rw [← Except.ok.inj read]
          exact (printable_fileUrl host (path ground.path.directory _)).withTail reference
      · rw [← Except.ok.inj read]
        exact (printable_fileUrl nowhere (path top _)).withTail reference

/-- A URL with nothing but a scheme and a path is printable if both are. -/
theorem IsPrintable.ofPath {path : Path} (shown : Printable scheme.toList) (printable : path.IsPrintable) :
    (Url.mk scheme "" none none none path none none).IsPrintable :=
  ⟨shown, .nil, nofun, nofun, printable, nofun, nofun⟩

/-- A URL whose scheme is not special is printable. -/
theorem printable_ofPlain (shown : Printable scheme.toList) (read : ofPlain scheme reference = .ok url) :
    url.IsPrintable := by
  -- Behind the scheme stands an authority, a path or an opaque path.
  have none : PrintableNames [] := by simp [PrintableNames]
  simp only [ofPlain] at read
  split at read
  · exact printable_ofAuthority shown read
  · rw [← Except.ok.inj read]
    refine (IsPrintable.ofPath shown ?_).withTail reference
    exact printable_walk none _
  · rw [← Except.ok.inj read]
    refine (IsPrintable.ofPath shown ?_).withTail reference
    show Printable _
    rw [String.toList_ofList]
    exact printable_encode (fun _ control => control) _

/-- A reference with a printable scheme resolves to a printable URL, possibly against a printable base. -/
theorem printable_resolve {base : Option Url} (printable : ∀ ground, base = some ground → ground.IsPrintable)
    (shown : ∀ scheme, reference.scheme = some scheme → Printable scheme.toList)
    (read : resolve base reference = .ok url) : url.IsPrintable := by
  -- Case by case along `resolve`, where each case has its lemma above.
  have kept {scheme : String} : ∀ ground, base.filter (·.scheme = scheme) = some ground → ground.IsPrintable :=
    fun ground found => printable ground (Option.filter_eq_some_iff.mp found).1
  simp only [resolve] at read
  split at read
  · exact printable_ofFile kept read
  · -- A reference with a special scheme is relative to a base with the same scheme only.
    rename_i scheme _ _ named
    have scheme := shown _ named
    split at read
    · split at read
      · rename_i ground same
        split at read
        · exact printable_ofRelative (kept ground same) read
        · exact printable_ofAuthority scheme read
      · exact printable_ofAuthority scheme read
    · exact printable_ofPlain scheme read
  · cases read
  · -- A reference without scheme takes that of the base.
    rename_i ground _
    have ground := printable ground rfl
    split at read
    · rw [← Except.ok.inj read]
      exact ground.withFragment reference
    · split at read
      · cases read
      · split at read
        · exact printable_ofFile printable read
        · exact printable_ofRelative ground read

/-- A scheme consists of scheme characters. -/
theorem isSchemeChar_of_cutScheme {letters rest : List Char} (cut : cutScheme text = some (letters, rest)) :
    ∀ c ∈ letters, isSchemeChar c := by
  -- It is the longest prefix of such characters.
  unfold cutScheme at cut
  rw [List.span_eq_takeWhile_dropWhile] at cut
  split at cut
  · rename_i first others after parts
    split at cut
    · obtain ⟨rfl, rfl⟩ := Prod.mk.inj (Option.some.inj cut)
      rw [← (Prod.mk.inj parts).1]
      exact fun c member => List.all_eq_true.mp List.all_takeWhile c member
    · cases cut
  · cases cut

/-- Scheme characters in lower case are printable. -/
theorem isControl_toLower {c : Char} (letter : isSchemeChar c) : isControl c.toLower = false := by
  -- They are letters, digits and three other characters.
  simp only [isSchemeChar, Bool.or_eq_true, decide_eq_true_eq] at letter
  obtain ((shown | rfl) | rfl) | rfl := letter
  · exact forall_isAlphanum (P := fun c => isControl c.toLower = false) (by decide) shown
  · decide
  · decide
  · decide

/-- The scheme of a reference is printable. -/
theorem printable_scheme (text : String) :
    ∀ scheme, (Reference.ofText text).scheme = some scheme → Printable scheme.toList := by
  -- It is cut off at its colon and put in lower case.
  intro scheme found
  simp only [Reference.ofText] at found
  split at found
  · rename_i letters rest cut
    rw [← Option.some.inj found, String.toList_ofList]
    intro c member
    obtain ⟨original, place, rfl⟩ := List.mem_map.mp member
    exact isControl_toLower (isSchemeChar_of_cutScheme cut original place)
  · cases found

/-- A parsed URL is printable. -/
theorem printable_parse {text : String} (read : parse text = .ok url) : url.IsPrintable :=
  printable_resolve (fun _ none => by cases none) (printable_scheme text) read

/-- A reference resolves to a printable URL against a printable base. -/
theorem IsPrintable.join (printable : base.IsPrintable) {text : String} (read : base.join text = .ok url) :
    url.IsPrintable := by
  refine printable_resolve ?_ (printable_scheme text) read
  rintro ground ⟨⟩
  exact printable

/-- A target is printable. -/
theorem IsTarget.isPrintable {target : Url} (accepted : target.IsTarget) : target.IsPrintable := by
  obtain ⟨_, parsed, _⟩ := accepted.exists_parse
  exact printable_parse parsed

/-- Replacing a path yields a printable one. -/
theorem printable_respelled (scheme : String) (text : List Char) (path : Path) :
    (path.respelled scheme text).IsPrintable := by
  -- An opaque path is encoded, and any other one is walked.
  have escaped (text : List Char) : Printable (Percent.encode isControl text) :=
    printable_encode (fun _ control => control) text
  unfold Path.respelled
  split
  · split
    · show Printable _
      rw [String.toList_ofList, Printable.append_iff]
      exact ⟨by decide, escaped _⟩
    · show Printable _
      rw [String.toList_ofList]
      exact escaped _
  · split
    · exact printable_withoutLeadingEmpty (printable_walk (by simp [PrintableNames]) _)
    · exact printable_pathAfterAuthority scheme text

/-- A printable URL is printable with a slash at the end of its path. -/
theorem IsPrintable.asDirectory (printable : url.IsPrintable) : url.asDirectory.IsPrintable := by
  -- Either nothing changes or the path is replaced.
  simp only [Url.asDirectory]
  split
  · exact printable
  · exact { printable with path := printable_respelled _ _ _ }

/-- The URL of an endpoint is printable. -/
theorem IsTarget.printable_endpointUrl {target : Url} (accepted : target.IsTarget) {path : String}
    (found : endpointUrl target path = .ok url) : url.IsPrintable := by
  -- The path is resolved against the target, which is printable.
  have directory : target.asDirectory.IsPrintable := accepted.isPrintable.asDirectory
  unfold endpointUrl at found
  split at found
  · rename_i joined
    rw [← Except.ok.inj found]
    exact directory.join joined
  · cases found

end Url

end AccessProbe
