import AccessProbe.Probe
import AccessProbe.Proofs.Text.Letters

/-! The token of all credentials is a valid header value, so the default headers fail only with the header file. -/

namespace AccessProbe

namespace Base64

/-- Whether a character may stand in base64. -/
def isWritten (c : Char) : Bool := c.isAlphanum || c = '+' || c = '/' || c = '='

/-- Every base64 digit is such a character. -/
theorem isWritten_digitChar (digit : Nat) : isWritten (digitChar digit) = true := by
  -- Below 63 the digits are checked one by one.
  have small : ∀ digit < 63, isWritten (digitChar digit) = true := by decide
  by_cases low : digit < 63
  · exact small digit low
  · -- From 63 on the digit is always the last one.
    have last : digitChar digit = '/' := by
      unfold digitChar
      rw [if_neg (by omega), if_neg (by omega), if_neg (by omega), if_neg (by omega)]
    rw [last]
    decide

/-- Base64 consists of such characters only. -/
theorem isWritten_encode (bytes : List UInt8) : (encode bytes).all isWritten = true := by
  have filler : isWritten '=' = true := by decide
  -- Induction along the encoder: it ends with no, one or two bytes left, or encodes a group of three.
  induction bytes using encode.induct with
  | case1 => rfl
  | case2 a => simp [encode, isWritten_digitChar, filler]
  | case3 a b => simp [encode, isWritten_digitChar, filler]
  | case4 a b c rest ih =>
    simp only [encode, List.all_cons, isWritten_digitChar, Bool.true_and]
    exact ih

end Base64

/-- Base64 characters make a valid header value. -/
theorem isHeaderValue_of_isWritten {text : String} (written : text.toList.all Base64.isWritten = true) :
    isHeaderValue text = true := by
  -- Letters and digits are in the visible range, and the three other characters are checked one by one.
  refine List.all_eq_true.mpr fun c member => ?_
  have shown := List.all_eq_true.mp written c member
  simp only [Base64.isWritten, Bool.or_eq_true, decide_eq_true_eq] at shown
  obtain ((letter | rfl) | rfl) | rfl := shown
  · have range := toNat_of_isAlphanum letter
    simp only [Bool.or_eq_true, Bool.and_eq_true, decide_eq_true_eq]
    omega
  · decide
  · decide
  · decide

/-- The token of all credentials is a valid header value. -/
theorem isHeaderValue_token (credentials : Credentials) : isHeaderValue credentials.token = true := by
  -- The token is base64.
  apply isHeaderValue_of_isWritten
  rw [Credentials.token, String.toList_ofList]
  exact Base64.isWritten_encode _

/-- The authentication fields are the token header in token mode, and none in the other modes. -/
theorem headers?_ofMode (mode : Mode) (config : Configuration) : (Authentication.ofMode mode config).headers? =
    some (if mode = .token then [("x-cenarius-token", config.credentials.token)] else []) := by
  -- The other modes have no field that could be invalid.
  cases mode with
  | none => rfl
  | session => rfl
  | token =>
    -- The token is a valid header value.
    have fit := isHeaderValue_token config.credentials
    simp only [Authentication.ofMode, Authentication.headers?, fit, if_true]

section Client

variable {files : Files} {config : Configuration} {others : Headers} {cause : HeaderError}

/-- The headers of a header file are those of its entries. -/
theorem defaultHeaders_eq {path : Option String} {entries : List (String × String)}
    (read : headerEntries files path = .ok entries) : defaultHeaders files path = headersOf entries := by
  rw [defaultHeaders, read]
  rfl

/-- The default headers are the authentication fields extended by those of the header file, which alone may
fail. -/
theorem clientHeaders_ofMode (files : Files) (config : Configuration) (mode : Mode) :
    clientHeaders files config (.ofMode mode config) =
      ((defaultHeaders files config.header).mapError .headers).map
        (Headers.extend (if mode = .token then [("x-cenarius-token", config.credentials.token)] else [])) := by
  -- The authentication fields are always valid, so only the result of the header file is left.
  rw [clientHeaders, headers?_ofMode]
  cases defaultHeaders files config.header with
  | error cause => rfl
  | ok others => rfl

/-- If the header file loads, there are default headers in every mode. -/
theorem clientHeaders_eq_ok (loads : defaultHeaders files config.header = .ok others) (mode : Mode) :
    ∃ fields, clientHeaders files config (.ofMode mode config) = .ok fields :=
  ⟨_, by rw [clientHeaders_ofMode, loads]; rfl⟩

/-- If the header file fails, so do the default headers, with its error. -/
theorem clientHeaders_eq_error (fails : defaultHeaders files config.header = .error cause) (mode : Mode) :
    clientHeaders files config (.ofMode mode config) = .error (.headers cause) := by
  -- The error of the header file is passed on.
  rw [clientHeaders_ofMode, fails]
  rfl

variable {library : Library} {authentication : Authentication} {client : Client}

/-- A client has its default headers, the time limit of the configuration and the library, and building it
succeeds if the headers and the library do. -/
theorem buildClient_eq_ok_iff : buildClient library files config authentication = .ok client ↔
    ∃ fields, clientHeaders files config authentication = .ok fields ∧ library.fault? = none ∧
      client = ⟨fields, config.timeLimit, library⟩ := by
  -- The headers are put together first, and then the library builds the client.
  unfold buildClient Library.client
  cases clientHeaders files config authentication with
  | error cause => simp [Except.bind]
  | ok fields =>
    -- With the headers at hand only the library can fail.
    cases library.fault? with
    | none => simp [Except.bind, eq_comm]
    | some causes => simp [Except.bind]

/-- If the header file loads and the library builds its client, there is a client in every mode. -/
theorem exists_buildClient (loads : defaultHeaders files config.header = .ok others)
    (builds : library.fault? = none) (mode : Mode) : ∃ fields,
      clientHeaders files config (.ofMode mode config) = .ok fields ∧
      buildClient library files config (.ofMode mode config) = .ok ⟨fields, config.timeLimit, library⟩ := by
  -- These are the two conditions of `buildClient_eq_ok_iff`.
  obtain ⟨fields, ready⟩ := clientHeaders_eq_ok loads mode
  exact ⟨fields, ready, buildClient_eq_ok_iff.mpr ⟨fields, ready, builds, rfl⟩⟩

end Client

end AccessProbe
