import AccessProbe.Proofs.Http.Headers
import AccessProbe.Proofs.Token
import AccessProbe.Proofs.Validation

/-! Header files are read the same in any order of their entries, and are the only part of the default headers that may fail. -/

namespace AccessProbe

/-- A valid header name: not empty, not too long, and of token characters only. -/
structure IsFieldName (text : String) : Prop where
  named : text ≠ ""
  short : text.utf8ByteSize ≤ 65535
  letters : ∀ c ∈ text.toList, isHeaderNameChar c = true

instance (text : String) : Decidable (IsFieldName text) :=
  decidable_of_iff (text ≠ "" ∧ text.utf8ByteSize ≤ 65535 ∧ text.toList.all isHeaderNameChar = true)
    ⟨fun ⟨named, short, all⟩ => ⟨named, short, List.all_eq_true.mp all⟩,
      fun fits => ⟨fits.named, fits.short, List.all_eq_true.mpr fits.letters⟩⟩

/-- A valid header value: no control character but the tab. -/
def IsFieldValue (text : String) : Prop := ∀ c ∈ text.toList, c = '\t' ∨ (0x20 ≤ c.toNat ∧ c.toNat ≠ 0x7F)

instance (text : String) : Decidable (IsFieldValue text) := List.decidableBAll _ _

/-- An entry with a valid header name and a valid header value. -/
structure IsField (entry : String × String) : Prop where
  name : IsFieldName entry.1
  value : IsFieldValue entry.2

section Checks

variable {text : String} {c : Char}

/-- The characters of header names are ASCII. -/
theorem toNat_of_isHeaderNameChar (fits : isHeaderNameChar c = true) : c.toNat < 0x80 := by
  -- Letters and digits are, and the other characters are checked one by one.
  rw [isHeaderNameChar, Bool.or_eq_true] at fits
  rcases fits with shown | mark
  · have range := toNat_of_isAlphanum shown
    omega
  · have marks : ("!#$%&'*+-.^_\x60|~".toList.all fun mark => mark.toNat < 0x80) = true := by decide
    exact of_decide_eq_true (List.all_eq_true.mp marks c (List.contains_iff_mem.mp mark))

/-- A valid header name is read in lower case, and an invalid one is not read. -/
theorem headerName?_eq_some_iff {name : String} :
    headerName? text = some name ↔ IsFieldName text ∧ text.toLower = name := by
  -- The limit is in bytes and the test counts characters, which are one byte each in a valid name.
  have size (letters : ∀ c ∈ text.toList, isHeaderNameChar c = true) : text.toList.length = text.utf8ByteSize := by
    rw [← Utf8.length_encode, Utf8.length_encode_of_basic fun c member =>
      toNat_of_isHeaderNameChar (letters c member)]
  simp only [headerName?]
  split
  · rename_i wrong
    refine iff_of_false nofun ?_
    rintro ⟨⟨named, short, letters⟩, _⟩
    have empty : text.toList ≠ [] := fun empty => named (String.toList_eq_nil_iff.mp empty)
    have all : text.toList.all isHeaderNameChar = true := List.all_eq_true.mpr letters
    rw [← size letters] at short
    simp [empty, all] at wrong
    omega
  · rename_i right
    simp only [Bool.or_eq_true, decide_eq_true_eq, Bool.not_eq_true', not_or, List.isEmpty_iff, Nat.not_lt,
      Bool.not_eq_false] at right
    obtain ⟨⟨full, short⟩, all⟩ := right
    have letters := List.all_eq_true.mp all
    have fits : IsFieldName text := by
      refine ⟨fun empty => full (by rw [empty]; rfl), ?_, letters⟩
      rw [← size letters]
      exact short
    rw [toLower_eq, Option.some.injEq]
    exact ⟨fun same => ⟨fits, same⟩, And.right⟩

theorem isHeaderValue_iff : isHeaderValue text = true ↔ IsFieldValue text := by
  simp [isHeaderValue, IsFieldValue, List.all_eq_true]

end Checks

section Entries

variable {headers : Headers} {entry : String × String} {entries order : List (String × String)} {cause : HeaderError}

/-- The header field of an entry. -/
def fieldOf (entry : String × String) : String × String := (entry.1.toLower, entry.2)

/-- The header fields of a header file: those of its entries, and the program's `user-agent` unless an entry
replaces it. -/
def fieldsOf (entries : List (String × String)) : Headers :=
  entries.map fieldOf ++
    if ∃ entry ∈ entries, entry.1.toLower = "user-agent" then [] else [("user-agent", userAgent)]

theorem addHeader_of_isField (fits : IsField entry) :
    addHeader headers entry = .ok (headers.insert (fieldOf entry).1 (fieldOf entry).2) := by
  -- Both checks pass.
  rw [addHeader, headerName?_eq_some_iff.mpr ⟨fits.name, rfl⟩]
  simp only [isHeaderValue_iff.mpr fits.value, if_true]
  rfl

/-- An entry with an invalid header name is an error about its key. -/
theorem addHeader_of_not_isFieldName (wrong : ¬ IsFieldName entry.1) :
    addHeader headers entry = .error (.name entry.1) := by
  -- The name is read first, so the value is never looked at.
  have nameless : headerName? entry.1 = none :=
    Option.eq_none_iff_forall_ne_some.mpr fun name named => wrong (headerName?_eq_some_iff.mp named).1
  rw [addHeader, nameless]

/-- An entry with a valid header name and an invalid value is an error about its value. -/
theorem addHeader_of_not_isFieldValue (fits : IsFieldName entry.1) (wrong : ¬ IsFieldValue entry.2) :
    addHeader headers entry = .error (.value entry.2) := by
  -- The name passes, and then the value is checked.
  rw [addHeader, headerName?_eq_some_iff.mpr ⟨fits, rfl⟩]
  simp only [mt isHeaderValue_iff.mp wrong]
  rfl

/-- Valid entries extend the headers by their fields. -/
theorem addHeaders_of_isField (fits : ∀ entry ∈ entries, IsField entry) :
    entries.foldlM addHeader headers = .ok (headers.extend (entries.map fieldOf)) := by
  -- Induction on the entries, for any headers that the entries before have made.
  induction entries generalizing headers with
  | nil => rfl
  | cons entry rest ih =>
    obtain ⟨here, behind⟩ := List.forall_mem_cons.mp fits
    rw [List.foldlM_cons, addHeader_of_isField here]
    exact ih behind

/-- If a single entry is invalid, the error is that of this entry, wherever it is. -/
theorem addHeaders_eq_error (blamed : ∀ headers, addHeader headers entry = .error cause) (member : entry ∈ entries)
    (alone : ∀ other ∈ entries, other ≠ entry → IsField other) (headers : Headers) :
    entries.foldlM addHeader headers = .error cause := by
  -- The entries before the invalid one are inserted, and it ends the loop.
  induction entries generalizing headers with
  | nil => cases member
  | cons first rest ih =>
    rw [List.foldlM_cons]
    by_cases same : first = entry
    · rw [same, blamed]
      rfl
    · -- The first entry is valid, so the invalid one comes later.
      have behind : entry ∈ rest := (List.mem_cons.mp member).resolve_left (Ne.symm same)
      rw [addHeader_of_isField (alone first List.mem_cons_self same)]
      exact ih behind (fun other later => alone other (List.mem_cons_of_mem _ later)) _

/-- The order of the entries does not matter for their fields, up to order. -/
theorem fieldsOf_perm (rearranged : order.Perm entries) : (fieldsOf order).Perm (fieldsOf entries) := by
  -- Whether `user-agent` is added depends on membership only.
  have same : (∃ entry ∈ order, entry.1.toLower = "user-agent") ↔
    ∃ entry ∈ entries, entry.1.toLower = "user-agent" := by
    simp only [rearranged.mem_iff]
  rw [fieldsOf, fieldsOf, if_congr same rfl rfl]
  exact (rearranged.map fieldOf).append_right _

/-- Entries with distinct names give exactly their fields. -/
theorem extend_perm_fieldsOf (distinct : entries.Pairwise fun first second => first.1.toLower ≠ second.1.toLower) :
    (Headers.extend [("user-agent", userAgent)] (entries.map fieldOf)).Perm (fieldsOf entries) := by
  -- No entry replaces the field of another one, so each of them adds its field.
  have once : ((entries.map fieldOf).map Prod.fst).Nodup := by
    rw [List.map_map]
    exact List.pairwise_map.mpr distinct
  have whole := (Headers.Ordered.singleton "user-agent" userAgent).extend_perm once
  have taken : "user-agent" ∈ (entries.map fieldOf).map Prod.fst ↔
      ∃ entry ∈ entries, entry.1.toLower = "user-agent" := by
    rw [List.map_map, List.mem_map]
    rfl
  -- The program's `user-agent` is kept if no entry has its name.
  rw [fieldsOf]
  by_cases named : ∃ entry ∈ entries, entry.1.toLower = "user-agent"
  · rw [List.filter_cons_of_neg (by rw [decide_eq_true_eq, taken]; exact not_not_intro named)] at whole
    rw [if_pos named]
    exact whole
  · rw [List.filter_cons_of_pos (by rw [decide_eq_true_eq, taken]; exact named)] at whole
    rw [if_neg named]
    exact whole

end Entries

/-- A header file with distinct names is read the same in any order of its entries. If all entries are valid,
the headers are their fields with the names in lower case, and the program's `user-agent` unless an entry
replaces it. If a single entry is invalid, the error is about its key, or about its value if the key is valid.
-/
theorem header_file_in_any_order {files : Files} {path : String} {entries : List (String × String)}
    (read : headerEntries files (some path) = .ok entries)
    (distinct : entries.Pairwise fun first second => first.1.toLower ≠ second.1.toLower) :
    ((∀ entry ∈ entries, IsField entry) → ∃ fields : Headers, fields.Ordered ∧ fields.Perm (fieldsOf entries) ∧
      defaultHeaders files (some path) = .ok fields ∧
      ∀ order : List (String × String), order.Perm entries → headersOf order = .ok fields) ∧
    ∀ entry ∈ entries, ¬ IsField entry → (∀ other ∈ entries, other ≠ entry → IsField other) →
      ∃ cause : HeaderError,
        (¬ IsFieldName entry.1 → cause.chain.head? = some ("Can't parse " ++ entry.1 ++ " as header name")) ∧
        (IsFieldName entry.1 → cause.chain.head? = some ("Can't parse " ++ entry.2 ++ " as header value")) ∧
        defaultHeaders files (some path) = .error cause ∧
        ∀ order : List (String × String), order.Perm entries → headersOf order = .error cause := by
  -- Headers are sorted by name, so the same fields in any order give the same headers.
  rw [defaultHeaders_eq read]
  refine ⟨fun fits => ?_, fun entry member wrong alone => ?_⟩
  · let start : Headers := [("user-agent", userAgent)]
    have ordered (order : List (String × String)) : (start.extend (order.map fieldOf)).Ordered :=
      (Headers.Ordered.singleton _ _).extend _
    have asked := extend_perm_fieldsOf distinct
    have anyOrder (order : List (String × String)) (rearranged : order.Perm entries) :
        headersOf order = .ok (start.extend (entries.map fieldOf)) := by
      have distinctThere := distinct.perm rearranged.symm Ne.symm
      -- Both orders give a permutation of `fieldsOf entries`, sorted by name.
      have same := (extend_perm_fieldsOf distinctThere).trans ((fieldsOf_perm rearranged).trans asked.symm)
      rw [headersOf, addHeaders_of_isField fun entry member => fits entry (rearranged.mem_iff.mp member)]
      exact congrArg _ ((ordered order).eq_of_perm (ordered entries) same)
    exact ⟨_, ordered entries, asked, anyOrder entries (.refl _), anyOrder⟩
  · -- In any order the entries before the invalid one are valid, so they are read up to it.
    have refused {cause : HeaderError} (blamed : ∀ headers, addHeader headers entry = .error cause)
        (order : List (String × String)) (rearranged : order.Perm entries) : headersOf order = .error cause :=
      addHeaders_eq_error blamed (rearranged.mem_iff.mpr member)
        (fun other there => alone other (rearranged.mem_iff.mp there)) _
    by_cases name : IsFieldName entry.1
    · have blamed (headers : Headers) : addHeader headers entry = .error (.value entry.2) :=
        addHeader_of_not_isFieldValue name fun value => wrong ⟨name, value⟩
      exact ⟨.value entry.2, fun other => absurd name other, fun _ => rfl, refused blamed entries (.refl _),
        refused blamed⟩
    · have blamed (headers : Headers) : addHeader headers entry = .error (.name entry.1) :=
        addHeader_of_not_isFieldName name
      exact ⟨.name entry.1, fun _ => rfl, fun other => absurd other name, refused blamed entries (.refl _),
        refused blamed⟩

/-- Two entries, one of which replaces `user-agent`, give the same headers in either order, and an entry with
an invalid key and an invalid value is an error about its key in either order. -/
theorem header_file_in_either_order :
    let files : Files := [("good", .content (Utf8.encode "User-Agent: é\nB: x\n".toList)),
      ("bad", .content (Utf8.encode "\"b c\": \"\\n\"\nB: x\n".toList))]
    headerEntries files (some "good") = .ok [("User-Agent", "é"), ("B", "x")] ∧
      headerEntries files (some "bad") = .ok [("b c", "\n"), ("B", "x")] ∧
      (∃ fields : Headers, fields.Perm [("user-agent", "é"), ("b", "x")] ∧
        headersOf [("B", "x"), ("User-Agent", "é")] = .ok fields ∧ defaultHeaders files (some "good") = .ok fields) ∧
      ∃ cause : HeaderError, cause.chain.head? = some "Can't parse b c as header name" ∧
        headersOf [("B", "x"), ("b c", "\n")] = .error cause ∧ defaultHeaders files (some "bad") = .error cause := by
  intro files
  have readGood : headerEntries files (some "good") = .ok [("User-Agent", "é"), ("B", "x")] := by decide +kernel
  have readBad : headerEntries files (some "bad") = .ok [("b c", "\n"), ("B", "x")] := by decide +kernel
  have agent : IsField ("User-Agent", "é") := ⟨by decide, by decide⟩
  have plain : IsField ("B", "x") := ⟨by decide, by decide⟩
  have nameless : ¬ IsFieldName "b c" := fun fits => absurd (fits.letters ' ' (by decide)) (by decide)
  have distinct : "User-Agent".toLower ≠ "B".toLower ∧ "b c".toLower ≠ "B".toLower := by
    simp only [toLower_eq]
    decide
  refine ⟨readGood, readBad, ?_, ?_⟩
  · obtain ⟨fields, _, asked, made, anyOrder⟩ := (header_file_in_any_order readGood (by simp [distinct])).1
      (by simp [agent, plain])
    have fields_eq : fieldsOf [("User-Agent", "é"), ("B", "x")] = [("user-agent", "é"), ("b", "x")] := by
      simp only [fieldsOf, List.map_cons, List.map_nil, fieldOf, toLower_eq]
      decide
    rw [fields_eq] at asked
    exact ⟨fields, asked, anyOrder _ (.swap _ _ _), made⟩
  · obtain ⟨cause, forKey, _, refused, anyOrder⟩ := (header_file_in_any_order readBad (by simp [distinct])).2
      ("b c", "\n") List.mem_cons_self (fun fits => nameless fits.name) (by simp [plain])
    exact ⟨cause, forKey nameless, anyOrder _ (.swap _ _ _), refused⟩

/-- A value with a non-ASCII letter is accepted, though it is neither visible ASCII nor a space or a tab. -/
theorem accented_value_is_taken_over :
    let files : Files := [("h", .content (Utf8.encode "a: é".toList))]
    headerEntries files (some "h") = .ok [("a", "é")] ∧ IsFieldName "a" ∧
      (∃ c ∈ "é".toList, ¬ (c = '\t' ∨ (0x20 ≤ c.toNat ∧ c.toNat ≤ 0x7E))) ∧
      defaultHeaders files (some "h") = .ok [("a", "é"), ("user-agent", userAgent)] := by
  exact ⟨by decide +kernel, by decide, ⟨'é', by decide, by decide⟩, by decide +kernel⟩

/-- A token has four characters for every three bytes of the credentials, the last group padded. -/
theorem Credentials.length_token (credentials : Credentials) : credentials.token.length =
    4 * (((credentials.login ++ " " ++ credentials.password).utf8ByteSize + 2) / 3) := by
  rw [token, String.length_ofList, Base64.length_encode, ← toList_joined, Utf8.length_encode]

/-- Building a client fails for the header file or for the library, never for the credentials. -/
theorem buildClient_eq_error_iff {library : Library} {files : Files} {config : Configuration} {mode : Mode}
    {error : ClientError} : buildClient library files config (.ofMode mode config) = .error error ↔
      (∃ cause, defaultHeaders files config.header = .error cause ∧ error = .headers cause) ∨
      (∃ others causes, defaultHeaders files config.header = .ok others ∧ library.fault? = some causes ∧
        error = .builder causes) := by
  -- The authentication fields are always valid, so only these two steps are left.
  cases reading : defaultHeaders files config.header with
  | error cause => simp [buildClient_eq_error library reading mode, eq_comm]
  | ok others =>
    obtain ⟨fields, ready⟩ := clientHeaders_eq_ok reading mode
    -- With the headers at hand only the library can fail.
    rw [buildClient, ready]
    simp only [Except.bind, Library.client]
    cases library.fault? with
    | none => simp
    | some causes => simp [eq_comm]

/-- For any login and password the token is base64 of the length that belongs to it, and the authentication
fields are valid in every mode. With a library that can build clients, preparing one fails if and only if the
header file does, with its error. -/
theorem header_file_alone_refuses_client {library : Library} (builds : library.fault? = none) (files : Files)
    (config : Configuration) (mode : Mode) :
    config.credentials.token.toList.all Base64.isWritten = true ∧
    config.credentials.token.length = 4 * (((config.login ++ " " ++ config.password).utf8ByteSize + 2) / 3) ∧
    (Authentication.ofMode mode config).headers? =
      some (if mode = .token then [("x-cenarius-token", config.credentials.token)] else []) ∧
    ∀ (verbosity : Verbosity) (work : Work), ∃ made,
      ((prepareClient library files config (.ofMode mode config)).run verbosity work).1 = .ok made ∧
        ∀ error, made = .error error ↔ ∃ cause, defaultHeaders files config.header = .error cause ∧
          error = .headers cause := by
  -- The run of `prepareClient` returns the result of `buildClient`, whose errors are those of the header file
  -- once the library has none.
  refine ⟨?_, config.credentials.length_token, headers?_ofMode mode config, fun verbosity work => ?_⟩
  · rw [Credentials.token, String.toList_ofList]
    exact Base64.isWritten_encode _
  · obtain ⟨wire, log, report⟩ := work
    rw [Verification.run_prepareClient]
    refine ⟨_, rfl, fun error => buildClient_eq_error_iff.trans ?_⟩
    simp [builds]

/-- A login with a line break and a non-ASCII letter has a token, and an invalid header name is the only
error. -/
theorem wrong_header_refuses_client :
    let config : Configuration := ⟨Url.loopback, "a\né", "secret", some "h", none, .off⟩
    -- The file says: a b: c
    let files : Files := [("h", .content [0x61, 0x20, 0x62, 0x3A, 0x20, 0x63])]
    let work : Work := .start .unreachable 0 .asKept none
    Library.plain.fault? = none ∧ config.credentials.token.length = 16 ∧
      ((prepareClient .plain files config (.ofMode .token config)).run .off work).1 =
        .ok (.error (.headers (.name "a b"))) := by
  intro config files work
  have builds : Library.plain.fault? = none := rfl
  obtain ⟨_, length, _, refused⟩ := header_file_alone_refuses_client builds files config .token
  have size : (config.login ++ " " ++ config.password).utf8ByteSize = 11 := by decide
  rw [size] at length
  obtain ⟨made, ended, causes⟩ := refused .off work
  have wrong : defaultHeaders files config.header = .error (.name "a b") := by decide +kernel
  rw [(causes _).mpr ⟨_, wrong, rfl⟩] at ended
  exact ⟨builds, length, ended⟩

end AccessProbe
