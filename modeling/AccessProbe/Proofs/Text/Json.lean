import AccessProbe.Credentials
import AccessProbe.Proofs.Text.Utf8
import AccessProbe.Text.Json

/-! JSON objects of strings are read back with the same members, whatever the strings contain. -/

namespace AccessProbe

namespace Json

/-- A hexadecimal digit is read back. -/
theorem hexDigit?_lowerHexDigit {digit : Nat} (small : digit < 16) :
    hexDigit? (lowerHexDigit digit) = some digit := by
  revert digit
  decide

/-- A control character is read back from its `\u` escape. -/
theorem numbered?_control {c : Char} (control : c.toNat < 0x20) (rest : List Char) :
    numbered? ('0' :: '0' :: lowerHexDigit (c.toNat / 16) :: lowerHexDigit (c.toNat % 16) :: rest) =
      some (c, rest) := by
  -- The four digits spell the code point, which is no surrogate.
  have zero : hexDigit? '0' = some 0 := by decide
  have high := hexDigit?_lowerHexDigit (show c.toNat / 16 < 16 by omega)
  have low := hexDigit?_lowerHexDigit (show c.toNat % 16 < 16 by omega)
  have number : ((16 * 0 + 0) * 16 + c.toNat / 16) * 16 + c.toNat % 16 = c.toNat := by omega
  have whole : (decide (c.toNat < 0xD800) || decide (0xDFFF < c.toNat)) = true := by
    simp only [Bool.or_eq_true, decide_eq_true_eq]
    omega
  simp only [numbered?, codeUnit?, zero, high, low, Option.bind_eq_bind, Option.bind_some,
    Option.pure_def, number, whole, if_true, Char.ofNat_toNat]

/-- A character without an escape stands for itself. -/
theorem character?_plain {c : Char} (noSlash : c ≠ '\\') (noQuote : c ≠ '"') (noControl : ¬ c.toNat < 0x20)
    (rest : List Char) : character? (c :: rest) = some (c, rest) := by
  -- The other cases begin with a backslash or are empty.
  unfold character?
  split
  · rename_i same
    exact absurd (List.cons.inj same).1 noSlash
  · rename_i same
    exact absurd (List.cons.inj same).1 noSlash
  · rename_i same
    obtain ⟨rfl, rfl⟩ := List.cons.inj same
    simp [noSlash, noQuote, noControl]
  · rename_i same
    cases same

/-- A character is read back from its form in a string. -/
theorem character?_escape (c : Char) (rest : List Char) : character? (escape c ++ rest) = some (c, rest) := by
  -- Seven characters have a short escape, and the other control characters a `\u` escape.
  unfold escape
  split
  case h_8 =>
    rename_i noQuote noSlash _ _ _ _ _
    split
    · rename_i control
      exact numbered?_control control rest
    · rename_i noControl
      exact character?_plain noSlash noQuote noControl rest
  all_goals rfl

/-- The form of a character does not begin with a quote. -/
theorem escape_ne_close (c : Char) (rest after : List Char) : escape c ++ rest ≠ '"' :: after := by
  -- Every escape begins with a backslash, and the quote itself is escaped.
  unfold escape
  split
  case h_8 =>
    rename_i noQuote _ _ _ _ _ _
    split
    · exact fun same => absurd (List.cons.inj same).1 (by decide)
    · exact fun same => noQuote (List.cons.inj same).1
  all_goals exact fun same => absurd (List.cons.inj same).1 (by decide)

/-- A string goes on behind each of its characters. -/
theorem string?_escape (c : Char) (rest : List Char) :
    string? (escape c ++ rest) = (string? rest).map fun (others, after) => (c :: others, after) := by
  -- It is not at its closing quote, and its next character is `c`.
  rw [string?.eq_def]
  split
  · rename_i same
    exact absurd same (escape_ne_close c rest _)
  · split
    · rename_i found
      obtain ⟨rfl, rfl⟩ := Prod.mk.inj (Option.some.inj ((character?_escape c rest).symm.trans found))
      rfl
    · rename_i missing
      cases (character?_escape c rest).symm.trans missing

/-- A string is read back up to its closing quote. -/
theorem string?_flatMap_escape (text rest : List Char) :
    string? (text.flatMap escape ++ '"' :: rest) = some (text, rest) := by
  induction text with
  | nil => rw [List.flatMap_nil, List.nil_append, string?]
  | cons c others ih => rw [List.flatMap_cons, List.append_assoc, string?_escape, ih, Option.map_some]

theorem skipped_cons {c : Char} (shown : " \t\n\r".toList.contains c = false) (rest : List Char) :
    skipped (c :: rest) = c :: rest := by
  rw [skipped, List.dropWhile_cons_of_neg (by rw [shown]; exact Bool.false_ne_true)]

/-- A string literal is read as a value, whatever follows it. -/
theorem value?_string (depth : Nat) (text : String) (rest : List Char) :
    value? (depth + 1) (string text ++ rest) = some (.string text, rest) := by
  -- It begins with a quote, which selects the branch for strings.
  rw [string, List.append_assoc, List.cons_append, List.singleton_append, value?, string?_flatMap_escape]
  simp only [Option.map_some, String.ofList_toList]

section Object

variable {members : List (String × String)} {rest : List Char}

/-- A member of an object with a string as its value. -/
def writtenMember (member : String × String) : List Char := string member.1 ++ ':' :: string member.2

/-- The member as it is read. -/
def readMember (member : String × String) : String × Value := (member.1, .string member.2)

/-- An object of strings. -/
def object (members : List (String × String)) : List Char :=
  '\x7b' :: [','].intercalate (members.map writtenMember) ++ ['\x7d']

/-- A member begins with a quote. -/
theorem writtenMember_append (member : String × String) (rest : List Char) : writtenMember member ++ rest =
    '"' :: (member.1.toList.flatMap escape ++ '"' :: ':' :: (string member.2 ++ rest)) := by
  simp [writtenMember, string]

/-- A member is read back, whatever follows it. -/
theorem member?_writtenMember (depth : Nat) (member : String × String) (rest : List Char) :
    member? (value? (depth + 1)) (writtenMember member ++ rest) = some (readMember member, rest) := by
  -- No white space is skipped, neither before the colon nor behind it.
  have colon (text : List Char) : skipped (':' :: text) = ':' :: text := skipped_cons (by decide) text
  have quote : skipped (string member.2 ++ rest) = string member.2 ++ rest := skipped_cons (by decide) _
  rw [writtenMember_append, member?, string?_flatMap_escape]
  simp only [Option.bind_eq_bind, Option.bind_some, colon, quote, value?_string, String.ofList_toList]
  rfl

/-- Members between commas are read back up to the closing brace. -/
theorem items?_members (depth : Nat) (some_members : members ≠ []) {limit : Nat} (enough : members.length ≤ limit) :
    items? '\x7d' (member? (value? (depth + 1))) limit
      ([','].intercalate (members.map writtenMember) ++ '\x7d' :: rest) = some (members.map readMember, rest) := by
  -- Induction on the members: behind each one stands a comma or, for the last one, the brace.
  have comma (text : List Char) : skipped (',' :: text) = ',' :: text := skipped_cons (by decide) text
  have brace (text : List Char) : skipped ('\x7d' :: text) = '\x7d' :: text := skipped_cons (by decide) text
  have start (member : String × String) (rest : List Char) :
      skipped (writtenMember member ++ rest) = writtenMember member ++ rest := skipped_cons (by decide) _
  induction members generalizing limit with
  | nil => exact absurd rfl some_members
  | cons member others ih =>
    obtain ⟨limit, rfl⟩ : ∃ less, limit = less + 1 := ⟨limit - 1, by rw [List.length_cons] at enough; omega⟩
    cases others with
    | nil =>
      simp only [List.map_cons, List.map_nil, List.intercalate_singleton, items?, start, member?_writtenMember, brace,
        Option.bind_eq_bind, Option.bind_some]
      rfl
    | cons next others =>
      have behind := ih (List.cons_ne_nil _ _) (Nat.le_of_succ_le_succ enough)
      rw [List.map_cons, List.map_cons, List.intercalate_cons_cons, ← List.map_cons, List.append_assoc,
        List.append_assoc, List.singleton_append]
      simp only [items?, start, member?_writtenMember, comma, behind, Option.bind_eq_bind, Option.bind_some, if_true]
      rfl

/-- The members are fewer than the characters they are written in. -/
theorem length_le_members (members : List (String × String)) :
    members.length ≤ ([','].intercalate (members.map writtenMember) ++ '\x7d' :: rest).length := by
  -- Each member begins with a quote, so that it takes up at least one character.
  induction members with
  | nil => exact Nat.zero_le _
  | cons member others ih =>
    cases others with
    | nil =>
      rw [List.length_append, List.length_cons, List.length_cons]
      exact Nat.le_trans (Nat.succ_le_succ (Nat.zero_le _)) (Nat.le_add_left _ _)
    | cons next others =>
      rw [List.map_cons, List.map_cons, List.intercalate_cons_cons, ← List.map_cons, List.append_assoc,
        List.append_assoc, List.length_append, List.length_append, List.length_cons]
      simp only [List.length_singleton]
      omega

/-- The members of an object are read back, whether there are any or not. -/
theorem row?_members (depth : Nat) (members : List (String × String)) :
    row? '\x7d' (member? (value? (depth + 1))) ([','].intercalate (members.map writtenMember) ++ '\x7d' :: rest)
      = some (members.map readMember, rest) := by
  -- Without members the brace comes first. Otherwise the length of the text is fuel enough.
  cases members with
  | nil =>
    have brace : skipped ('\x7d' :: rest) = '\x7d' :: rest := skipped_cons (by decide) rest
    rw [row?, List.map_nil, List.intercalate_nil, List.nil_append, brace]
    rfl
  | cons member others =>
    rw [row?, if_neg, items?_members depth (List.cons_ne_nil _ _) (length_le_members _)]
    -- The text begins with the quote of the first name, which is no brace.
    obtain ⟨text, first⟩ : ∃ text, [','].intercalate ((member :: others).map writtenMember) ++ '\x7d' :: rest
        = '"' :: text := by
      cases others with
      | nil =>
        rw [List.map_singleton, List.intercalate_singleton]
        exact ⟨_, writtenMember_append member _⟩
      | cons next others =>
        rw [List.map_cons, List.map_cons, List.intercalate_cons_cons, List.append_assoc, List.append_assoc]
        exact ⟨_, writtenMember_append member _⟩
    rw [first, skipped_cons (by decide)]
    exact fun same => absurd (Option.some.inj same) (by decide)

/-- An object of strings is read as a value, whatever follows it. -/
theorem value?_object (depth : Nat) (members : List (String × String)) :
    value? (depth + 2) (object members ++ rest) = some (.object (members.map readMember), rest) := by
  rw [object, List.append_assoc, List.cons_append, List.singleton_append, value?, row?_members]
  rfl

/-- An object of strings is read back with the same members in the same order. -/
theorem read?_object (members : List (String × String)) :
    read? (object members) = some (.object (members.map readMember)) := by
  -- The depth that is allowed depends on the length, which is at least one.
  have start : skipped (object members) = object members := skipped_cons (by decide) _
  obtain ⟨depth, long⟩ : ∃ depth, (object members).length = depth + 1 := ⟨_, rfl⟩
  have whole : value? (depth + 2) (object members) = some (.object (members.map readMember), []) := by
    rw [← List.append_nil (object members)]
    exact value?_object depth members
  rw [read?, start, long, whole]
  rfl

end Object

end Json

/-- The JSON of credentials is an object with two members. -/
theorem Credentials.json_eq (credentials : Credentials) : credentials.json
    = Json.object [("login", credentials.login), ("password", credentials.password)] := by
  -- The fixed parts of the text are taken apart into quotes, names and separators.
  have opening : "\x7b\"login\":".toList = '\x7b' :: (Json.string "login" ++ [':']) := by decide
  have between : ",\"password\":".toList = ',' :: (Json.string "password" ++ [':']) := by decide
  have closing : "\x7d".toList = ['\x7d'] := by decide
  unfold Credentials.json Json.object
  rewrite [opening, between, closing, List.map_cons, List.map_singleton, List.intercalate_cons_cons,
    List.intercalate_singleton]
  simp only [Json.writtenMember, List.cons_append, List.append_assoc, List.nil_append]

end AccessProbe
