import AccessProbe.Proofs.Url.Names

/-! The scheme, host and path of a parsed URL. -/

namespace AccessProbe

/-- The notation of an IPv4 address is not empty. -/
theorem Ipv4.render_ne_nil (address : Nat) : render address ≠ [] := by
  -- It contains dots.
  have dot : '.' ∈ render address := by
    simp [render, bytes, List.intercalate]
  exact List.ne_nil_of_mem dot

namespace Host

/-- The host of a URL with a special scheme is not empty. -/
theorem text_ne_empty {text : List Char} {host : Host} (read : parse text = .ok host) : host.text ≠ "" := by
  -- The cases are those of the parser: brackets, an IPv4 address and a domain.
  unfold parse at read
  split at read
  · -- An IPv6 address is written in brackets.
    unfold parseBrackets at read
    split at read
    · cases read
    · split at read
      · rw [← Except.ok.inj read, Host.text]
        exact mt String.ofList_eq_empty_iff.mp (List.cons_ne_nil _ _)
      · cases read
  · split at read
    · cases read
    · cases read
    · rename_i name named _
      split at read
      · split at read
        · rename_i address _
          rw [← Except.ok.inj read, Host.text]
          exact mt String.ofList_eq_empty_iff.mp (Ipv4.render_ne_nil address)
        · cases read
      · rw [← Except.ok.inj read, Host.text]
        exact mt String.ofList_eq_empty_iff.mp named

end Host

namespace Url

variable {url : Url} {scheme : String} {text : List Char} {reference : Reference}

/-- The schemes http and https are special. -/
theorem isSpecial_of_web {url : Url} (web : url.isWeb) : isSpecial url.scheme = true := by
  simp only [isWeb, Bool.or_eq_true, decide_eq_true_eq] at web
  obtain http | https := web
  · rw [http]; decide
  · rw [https]; decide

/-- An http or https URL is no file URL. -/
theorem ne_file_of_web {url : Url} (web : url.isWeb) : url.scheme ≠ "file" := by
  intro file
  simp [isWeb, file] at web

/-- User name, password and host of an authority come from parts of the text, and the scheme decides on the
parser of the host. -/
theorem Authority.exists_of_read {authority : Authority} {rest : List Char} {followed : Bool}
    (read : Authority.read scheme text followed = .ok (authority, rest)) : ∃ user host,
      (authority.username, authority.password) = readUser user ∧
        (if isSpecial scheme then Host.parse host else Host.parsePlain host) = .ok authority.host := by
  -- The other branches of `Authority.read` throw.
  unfold Authority.read at read
  simp only [Bind.bind, Except.bind, Pure.pure, Except.pure, throw, throwThe, MonadExceptOf.throw] at read
  split at read
  · cases read
  split at read
  · cases read
  split at read
  -- The two parsers of hosts lead to the same checks behind them.
  all_goals
    rename_i rules
    split at read
    · cases read
    rename_i host found
    split at read
    · cases read
    split at read
    · cases read
    split at read
    · cases read
    obtain ⟨rfl, rfl⟩ := Prod.mk.inj (Except.ok.inj read)
  · exact ⟨_, _, rfl, by rw [if_pos rules]; exact found⟩
  · exact ⟨_, _, rfl, by rw [if_neg rules]; exact found⟩

/-- A URL with an authority is put together from the authority and what stands behind it. -/
theorem exists_of_ofAuthority (read : ofAuthority scheme text reference = .ok url) : ∃ authority rest,
    Authority.read scheme text reference.isFollowed = .ok (authority, rest) ∧
      url = ⟨scheme, authority.username, authority.password, some authority.host, authority.port,
        .segments (pathAfterAuthority scheme rest), reference.queryText scheme, reference.fragmentText⟩ := by
  -- Only reading the authority can fail.
  unfold ofAuthority at read
  cases found : Authority.read scheme text reference.isFollowed with
  | error cause => simp [found, Bind.bind, Except.bind] at read
  | ok parts =>
    simp only [found, Bind.bind, Except.bind, Pure.pure, Except.pure, Except.ok.injEq] at read
    exact ⟨parts.1, parts.2, rfl, read.symm⟩

/-- A file URL has the scheme `file`. -/
theorem scheme_ofFileHost (read : ofFileHost text = .ok url) : url.scheme = "file" := by
  -- Each branch that returns builds the URL with `fileUrl`.
  unfold ofFileHost at read
  simp only [Bind.bind, Except.bind, Pure.pure, Except.pure] at read
  split at read
  · rw [← Except.ok.inj read]
    rfl
  · split at read
    · rw [← Except.ok.inj read]
      rfl
    · split at read
      · cases read
      · rw [← Except.ok.inj read]
        rfl

/-- A file URL without a base has the scheme `file`. -/
theorem scheme_ofFile (read : ofFile none reference = .ok url) : url.scheme = "file" := by
  -- The branches with a base are impossible.
  unfold ofFile at read
  split at read
  · rw [← Except.ok.inj read]
    rfl
  · rename_i without
    cases without
  · split at read
    · split at read
      · simp only [Bind.bind, Except.bind, Pure.pure, Except.pure] at read
        split at read
        · cases read
        · rename_i found hosted
          rw [← Except.ok.inj read]
          exact (scheme_ofFileHost hosted : found.scheme = "file")
      · rw [← Except.ok.inj read]
        rfl
    · rw [← Except.ok.inj read]
      rfl

/-- A URL whose scheme is not special has the given scheme. -/
theorem scheme_ofPlain (read : ofPlain scheme reference = .ok url) : url.scheme = scheme := by
  -- The three branches build the URL with the given scheme.
  unfold ofPlain at read
  split at read
  · obtain ⟨_, _, _, rfl⟩ := exists_of_ofAuthority read
    rfl
  · rw [← Except.ok.inj read]
    rfl
  · rw [← Except.ok.inj read]
    rfl

/-- A URL without a base has the scheme of the reference. -/
theorem scheme_of_resolve (read : resolve none reference = .ok url) : reference.scheme = some url.scheme := by
  -- Without a scheme there is no URL, and each kind of scheme keeps it.
  unfold resolve at read
  split at read
  · rename_i file
    rw [file, scheme_ofFile read]
  · rename_i scheme _ _ named
    split at read
    · obtain ⟨_, _, _, rfl⟩ := exists_of_ofAuthority read
      exact named
    · rw [named, scheme_ofPlain read]
  · cases read
  · rename_i without
    cases without

/-- An http or https URL is parsed from an authority. -/
theorem exists_authority (read : resolve none reference = .ok url) (web : url.isWeb) :
    ∃ text, ofAuthority url.scheme text reference = .ok url := by
  -- The scheme is special and not `file`, which leaves one branch of `resolve`.
  have scheme := scheme_of_resolve read
  have special : isSpecial url.scheme := isSpecial_of_web web
  unfold resolve at read
  rw [scheme] at read
  split at read
  · rename_i file
    exact absurd (Option.some.inj file) (ne_file_of_web web)
  · rename_i same
    obtain rfl := Option.some.inj same
    rw [if_pos special] at read
    exact ⟨_, read⟩
  · cases read
  · rename_i without
    cases without

/-- An http or https URL has a host. -/
theorem host_of_parse {text : String} (read : parse text = .ok url) (web : url.isWeb) :
    ∃ host, url.host = some host ∧ host.text ≠ "" := by
  -- The host comes from the parser for special schemes, which accepts no empty one.
  obtain ⟨behind, found⟩ := exists_authority read web
  obtain ⟨authority, rest, server, pieces⟩ := exists_of_ofAuthority found
  obtain ⟨_, host, _, named⟩ := Authority.exists_of_read server
  rw [if_pos (isSpecial_of_web web)] at named
  exact ⟨authority.host, congrArg Url.host pieces, Host.text_ne_empty named⟩

/-- An http or https URL has at least one segment, and its segments need no further encoding. -/
theorem names_of_parse {text : String} (read : parse text = .ok url) (web : url.isWeb) :
    ∃ names, url.path = .segments names ∧ KeptNames names ∧ names ≠ [] := by
  obtain ⟨behind, found⟩ := exists_authority read web
  obtain ⟨authority, rest, _, pieces⟩ := exists_of_ofAuthority found
  exact ⟨pathAfterAuthority url.scheme rest, congrArg Url.path pieces,
    kept_pathAfterAuthority (isSpecial_of_web web) rest⟩

end Url

end AccessProbe
