import AccessProbe.Proofs.Text.Letters
import AccessProbe.Yaml.Source
import AccessProbe.Yaml.TokenStream

/-! Double-quoted scalars, and plain ones of simple characters, are scanned as the texts that they were written for. -/

namespace AccessProbe.Yaml

namespace Cursor

/-- Two skips are one. -/
theorem skip_skip (cursor : Cursor) (first second : Nat) :
    (cursor.skip first).skip second = cursor.skip (first + second) := by
  simp only [skip, List.length_drop, List.drop_drop, mk.injEq, Mark.mk.injEq, and_true, true_and]
  omega

/-- What is left behind a text that is skipped. -/
theorem rest_skip {cursor : Cursor} {text rest : List Char} (begins : cursor.rest = text ++ rest) :
    (cursor.skip text.length).rest = rest := by
  simp [skip, begins]

/-- A skip never moves to column 0. -/
theorem column_skip {cursor : Cursor} (inside : 0 < cursor.mark.column) (count : Nat) :
    0 < (cursor.skip count).mark.column :=
  Nat.lt_of_lt_of_le inside (Nat.le_add_right _ _)

/-- A document marker is at column 0. -/
theorem isAtDocumentMark_of_column {cursor : Cursor} (inside : 0 < cursor.mark.column) :
    cursor.isAtDocumentMark = false := by
  have column : decide (cursor.mark.column = 0) = false := by simpa using Nat.pos_iff_ne_zero.mp inside
  rw [isAtDocumentMark, column, Bool.false_and]

end Cursor

/-- The ways to write a character between double quotes. -/
inductive WritesChar (c : Char) : List Char → Prop where
  /-- As it is, if it is allowed and neither a line break nor a quote nor a backslash. -/
  | verbatim (allowed : isAllowed c.toNat = true) (within : isBreak c = false) (quote : c ≠ '"')
      (backslash : c ≠ '\\') : WritesChar c [c]
  /-- As an escape with a letter. -/
  | letter {letter : Char} (stands : escape? letter = some (.char c)) : WritesChar c ['\\', letter]
  /-- As an escape with hexadecimal digits, as many as its letter asks for. -/
  | code {letter : Char} {digits : List Char} (wants : escape? letter = some (.code digits.length))
      (hexadecimal : ∀ digit ∈ digits, (hexDigit? digit).isSome = true) (number : hexNumber digits = c.toNat) :
      WritesChar c ('\\' :: letter :: digits)

/-- The ways to write a text between double quotes. -/
inductive WritesQuoted : List Char → List Char → Prop where
  /-- The empty text. -/
  | nil : WritesQuoted [] []
  /-- A character, written in one of its ways, in front of a text. -/
  | cons {c : Char} {first text rest : List Char} (char : WritesChar c first) (others : WritesQuoted text rest) :
      WritesQuoted (c :: text) (first ++ rest)

/-- A character between double quotes, with a backslash in front of a quote or a backslash. -/
def escaped (c : Char) : List Char := if c = '"' ∨ c = '\\' then ['\\', c] else [c]

/-- A text of one line can be written with these two escapes only. -/
theorem writesQuoted_escaped {text : List Char}
    (line : text.all (fun c => isAllowed c.toNat && !isBreak c) = true) :
    WritesQuoted text (text.flatMap escaped) := by
  -- Character by character: an escape with a letter, or the character as it is.
  induction text with
  | nil => exact .nil
  | cons c rest ih =>
    simp only [List.all_cons, Bool.and_eq_true, Bool.not_eq_true'] at line
    obtain ⟨⟨allowed, within⟩, others⟩ := line
    have char : WritesChar c (escaped c) := by
      unfold escaped
      split
      · rename_i sign
        rcases sign with rfl | rfl <;> exact .letter rfl
      · rename_i plain
        rw [not_or] at plain
        exact .verbatim allowed within plain.1 plain.2
    rw [List.flatMap_cons]
    exact .cons char (ih others)

/-- The letter of an escape is no line break. -/
theorem isBreak_of_escape? {letter : Char} {escape : Escape} (stands : escape? letter = some escape) :
    isBreak letter = false := by
  -- None of the five line breaks is the letter of an escape.
  cases ends : isBreak letter with
  | false => rfl
  | true =>
    simp only [isBreak, Bool.or_eq_true, decide_eq_true_eq] at ends
    obtain (((rfl | rfl) | rfl) | rfl) | rfl := ends <;> cases stands

section Quoted

variable {start : Mark} {reversed : List Char} {gap : Gap} {cursor : Cursor} {c : Char} {rest : List Char}

/-- A double quote ends the scalar. -/
theorem readQuoted_end (found : cursor.rest = '"' :: rest) (inside : 0 < cursor.mark.column) :
    readQuoted true start reversed gap cursor = .ok ⟨extend reversed gap [], cursor.skip 1⟩ := by
  -- The quote is no blank, no line break and no backslash.
  rw [readQuoted]
  split
  · rename_i none
    simp [found] at none
  · rename_i c rest same
    obtain ⟨rfl, rfl⟩ := List.cons.inj (found.symm.trans same)
    simp [isSpace, isBreak, Cursor.isAtDocumentMark_of_column inside]

/-- A space or tab is added to the gap. -/
theorem readQuoted_space (found : cursor.rest = c :: rest) (space : isSpace c = true) :
    readQuoted true start reversed gap cursor = readQuoted true start reversed (gap.space c) (cursor.skip 1) := by
  -- Blanks are looked for first.
  rw [readQuoted]
  split
  · rename_i none
    simp [found] at none
  · rename_i c rest same
    obtain ⟨rfl, rfl⟩ := List.cons.inj (found.symm.trans same)
    rw [if_pos space]

/-- A character without a meaning of its own is added to the text. -/
theorem readQuoted_verbatim (found : cursor.rest = c :: rest) (inside : 0 < cursor.mark.column)
    (space : isSpace c = false) (within : isBreak c = false) (quote : c ≠ '"') (backslash : c ≠ '\\') :
    readQuoted true start reversed gap cursor =
      readQuoted true start (extend reversed gap [c]) .none (cursor.skip 1) := by
  -- It passes all the checks in front of the last case.
  rw [readQuoted]
  split
  · rename_i none
    simp [found] at none
  · rename_i c rest same
    obtain ⟨rfl, rfl⟩ := List.cons.inj (found.symm.trans same)
    simp [space, within, Cursor.isAtDocumentMark_of_column inside, quote, backslash]

/-- The character of an escape is added to the text. -/
theorem readQuoted_escape {letter value : Char} {digits : Nat} (found : cursor.rest = '\\' :: letter :: rest)
    (inside : 0 < cursor.mark.column) (within : isBreak letter = false)
    (read : readEscape start cursor letter = .ok (value, digits)) :
    readQuoted true start reversed gap cursor =
      readQuoted true start (extend reversed gap [value]) .none (cursor.skip (digits + 2)) := by
  -- The backslash gets as far as the check for an escape, and its letter decides there.
  rw [readQuoted]
  split
  · rename_i none
    simp [found] at none
  · rename_i c rest same
    obtain ⟨rfl, rfl⟩ := List.cons.inj (found.symm.trans same)
    have space : isSpace '\\' = false := by decide
    have ends : isBreak '\\' = false := by decide
    simp [space, ends, Cursor.isAtDocumentMark_of_column inside, within, read]

/-- Hexadecimal digits with the number of a character are scanned as that character. -/
theorem readCode_eq_ok {digits : List Char} (found : cursor.rest = digits ++ rest)
    (hexadecimal : ∀ digit ∈ digits, (hexDigit? digit).isSome = true) (number : hexNumber digits = c.toNat) :
    readCode start digits.length cursor = .ok c := by
  -- The number of a character is valid by its type.
  have valid : c.toNat.isValidChar := c.valid
  have good : digits.any (fun digit => (hexDigit? digit).isNone) = false := by
    simpa [List.any_eq_false, Option.isSome_iff_ne_none] using hexadecimal
  simp [readCode, found, good, number, valid]

end Quoted

/-- However a text is written between double quotes, it is scanned as that text. -/
theorem readQuoted_writes {text written rest : List Char} (writes : WritesQuoted text written) {start : Mark}
    {reversed spaces : List Char} {cursor : Cursor} (begins : cursor.rest = written ++ '"' :: rest)
    (inside : 0 < cursor.mark.column) :
    readQuoted true start reversed (.spaces spaces) cursor =
      .ok ⟨text.reverse ++ spaces ++ reversed, cursor.skip (written.length + 1)⟩ := by
  -- By induction over the way it is written, for every gap, as blanks are kept there.
  induction writes generalizing reversed spaces cursor with
  | nil =>
    rw [readQuoted_end begins inside]
    simp [extend, Gap.text]
  | @cons c first text others char more ih =>
    rw [List.append_assoc] at begins
    have behind := Cursor.rest_skip begins
    have right := Cursor.column_skip inside first.length
    -- A blank is added to the gap and any other character to the text, which is the same in the end.
    have taken : ∃ between gap, readQuoted true start reversed (.spaces spaces) cursor =
        readQuoted true start between (.spaces gap) (cursor.skip first.length) ∧
          gap ++ between = c :: (spaces ++ reversed) := by
      cases char with
      | verbatim allowed within quote backslash =>
        cases space : isSpace c with
        | true => exact ⟨reversed, c :: spaces, readQuoted_space begins space, rfl⟩
        | false =>
          exact ⟨_, [], readQuoted_verbatim begins inside space within quote backslash, by simp [extend, Gap.text]⟩
      | @letter letter stands =>
        have read : readEscape start cursor letter = .ok (c, 0) := by
          rw [readEscape, stands]
        exact ⟨_, [], readQuoted_escape begins inside (isBreak_of_escape? stands) read, by simp [extend, Gap.text]⟩
      | @code letter digits wants hexadecimal number =>
        have spelled : (cursor.skip 2).rest = digits ++ (others ++ '"' :: rest) :=
          @Cursor.rest_skip cursor ['\\', letter] _ begins
        have read : readEscape start cursor letter = .ok (c, digits.length) := by
          rw [readEscape, wants]
          simp only [readCode_eq_ok spelled hexadecimal number, Except.map]
        exact ⟨_, [], readQuoted_escape begins inside (isBreak_of_escape? wants) read, by simp [extend, Gap.text]⟩
    obtain ⟨between, gap, step, same⟩ := taken
    rw [step, ih behind right, Cursor.skip_skip]
    simp [same, Nat.add_assoc]

/-- Letters, digits and the underscore. -/
def isSimple (c : Char) : Bool := c.isAlphanum || decide (c = '_')

/-- What holds of the simple ASCII characters holds of every simple character. -/
theorem forall_isSimple {P : Char → Prop}
    (basic : ∀ code < 0x80, isSimple (Char.ofNat code) = true → P (Char.ofNat code)) {c : Char}
    (simple : isSimple c = true) : P c := by
  -- A letter or digit by `forall_isAlphanum`, and the underscore by itself.
  rcases Bool.or_eq_true_iff.mp simple with letter | underscore
  · exact forall_isAlphanum (fun code small letter => basic code small (Bool.or_eq_true_iff.mpr (.inl letter))) letter
  · rw [of_decide_eq_true underscore]
    exact basic 0x5F (by decide) (by decide)

/-- A simple character is no blank, no line break and no indicator. -/
theorem isSimple_kind {c : Char} (simple : isSimple c = true) :
    isSpace c = false ∧ isBreak c = false ∧ isFlowMark c = false ∧ c ≠ ':' ∧ c ≠ '#' :=
  forall_isSimple (P := fun c => isSpace c = false ∧ isBreak c = false ∧ isFlowMark c = false ∧ c ≠ ':' ∧ c ≠ '#')
    (by decide) simple

/-- A flow indicator is no blank, no line break and no colon. -/
theorem isFlowMark_kind {c : Char} (sign : isFlowMark c = true) :
    isSpace c = false ∧ isBreak c = false ∧ c ≠ ':' := by
  -- There are only five of them.
  have kinds : ",[]\x7b\x7d".toList.all (fun c => !isSpace c && !isBreak c && c != ':') = true := by decide
  simpa [and_assoc] using List.all_eq_true.mp kinds c (List.contains_iff_mem.mp sign)

section Plain

variable {inFlow : Bool} {indent : Nat} {start : Mark} {reversed rest : List Char} {cursor : Cursor}

/-- A plain scalar without a gap, up to the cursor. -/
def PlainText.upTo (reversed : List Char) (cursor : Cursor) : PlainText := ⟨reversed, cursor.mark, .none, cursor⟩

/-- A simple character is added to the scalar. -/
theorem readPlain_char {c : Char} (found : cursor.rest = c :: rest) (simple : isSimple c = true) :
    readPlain inFlow indent start (.upTo reversed cursor) =
      readPlain inFlow indent start (.upTo (c :: reversed) (cursor.skip 1)) := by
  -- It is no blank and ends nothing.
  obtain ⟨space, within, sign, colon, -⟩ := isSimple_kind simple
  rw [readPlain]
  split
  · rename_i none
    simp [PlainText.upTo, found] at none
  · rename_i c rest same
    obtain ⟨rfl, rfl⟩ := List.cons.inj (found.symm.trans same)
    simp [PlainText.upTo, space, within, sign, colon, extend, Gap.none, Gap.text]

/-- Simple characters are added to the scalar. -/
theorem readPlain_word {word : List Char} (simple : ∀ c ∈ word, isSimple c = true)
    (found : cursor.rest = word ++ rest) : readPlain inFlow indent start (.upTo reversed cursor) =
      readPlain inFlow indent start (.upTo (word.reverse ++ reversed) (cursor.skip word.length)) := by
  -- Character by character, for every scalar so far.
  induction word generalizing cursor reversed with
  | nil =>
    have same : cursor.skip 0 = cursor := rfl
    rw [List.reverse_nil, List.nil_append, List.length_nil, same]
  | cons c word ih =>
    have behind : (cursor.skip 1).rest = word ++ rest := @Cursor.rest_skip cursor [c] _ found
    rw [readPlain_char found (simple c (.head _)), ih (fun other member => simple other (.tail _ member)) behind,
      Cursor.skip_skip, Nat.add_comm]
    simp

/-- A colon in front of a space ends the scalar. -/
theorem readPlain_colon (found : cursor.rest = ':' :: ' ' :: rest) :
    readPlain inFlow indent start (.upTo reversed cursor) = .ok (.upTo reversed cursor) := by
  -- The check for the end comes in front of the characters.
  rw [readPlain]
  split
  · rfl
  · rename_i c more same
    obtain ⟨rfl, rfl⟩ := List.cons.inj (found.symm.trans same)
    have space : isFlowMark ' ' = false := by decide
    simp [PlainText.upTo, isSpace, isBreak, isGap, space]

/-- In a flow collection an indicator ends the scalar. -/
theorem readPlain_sign {c : Char} (found : cursor.rest = c :: rest) (sign : isFlowMark c = true) :
    readPlain true indent start (.upTo reversed cursor) = .ok (.upTo reversed cursor) := by
  -- The same check, with the indicators of flow collections.
  rw [readPlain]
  split
  · rfl
  · rename_i c more same
    obtain ⟨rfl, rfl⟩ := List.cons.inj (found.symm.trans same)
    obtain ⟨space, within, colon⟩ := isFlowMark_kind sign
    simp [PlainText.upTo, space, within, colon, sign]

/-- In a block collection a line without indentation ends the scalar. -/
theorem readPlain_lineStart {text : PlainText} {first further : List Char} (gap : text.gap = .lines first further)
    (column : text.behind.mark.column = 0) (indented : 0 < indent)
    (next : ∀ c ∈ text.behind.rest.head?, isSimple c = true) : readPlain false indent start text = .ok text := by
  -- Behind a line break the column is compared with the indentation.
  rw [readPlain]
  split
  · rfl
  · rename_i c more found
    obtain ⟨space, within, -⟩ := isSimple_kind (next c (by rw [found]; rfl))
    simp [space, within, gap, Gap.none, endsPlain, Gap.isLines, column, indented]

/-- In a block collection a line feed ends the scalar, if the next line is not indented. -/
theorem readPlain_line (found : cursor.rest = '\n' :: rest) (indented : 0 < indent)
    (next : ∀ c ∈ rest.head?, isSimple c = true) : readPlain false indent start (.upTo reversed cursor) =
      .ok { PlainText.upTo reversed cursor with gap := .lines ['\n'] [], behind := cursor.skipLine } := by
  -- The line feed is added to the gap, and the next line ends the scalar.
  have line : cursor.skipLine = ⟨⟨cursor.mark.index + 1, cursor.mark.line + 1, 0⟩, rest⟩ := by
    simp [Cursor.skipLine, found, isBreak]
  have ends : cursor.breakText = ['\n'] := by
    simp [Cursor.breakText, found, isBreak]
  have behind := @readPlain_lineStart indent start
    { PlainText.upTo reversed cursor with gap := .lines ['\n'] [], behind := cursor.skipLine } ['\n'] [] rfl
    (by rw [line]) indented (by simpa only [line] using next)
  rw [readPlain]
  split
  · rename_i none
    simp [PlainText.upTo, found] at none
  · rename_i c more same
    obtain ⟨rfl, rfl⟩ := List.cons.inj (found.symm.trans same)
    simp only [PlainText.upTo, ends] at behind ⊢
    exact behind

variable {word : List Char}

/-- The token of a plain scalar. -/
def wordToken (word : List Char) (cursor : Cursor) : Token :=
  ⟨.scalar word .plain, cursor.mark, (cursor.skip word.length).mark⟩

/-- A word of simple characters is scanned as a plain scalar, up to where it ends. -/
theorem readPlainScalar_word {text : PlainText} (simple : ∀ c ∈ word, isSimple c = true)
    (found : cursor.rest = word ++ rest)
    (ends : readPlain inFlow indent cursor.mark (.upTo word.reverse (cursor.skip word.length)) = .ok text)
    (same : text.reversed = word.reverse) (stop : text.stop = (cursor.skip word.length).mark) :
    readPlainScalar inFlow indent cursor = .ok (wordToken word cursor, text.behind, text.gap.isLines) := by
  -- The word by `readPlain_word`, then its end.
  have begins : readPlain inFlow indent cursor.mark ⟨[], cursor.mark, .none, cursor⟩ = .ok text := by
    have taken := @readPlain_word inFlow indent cursor.mark [] rest cursor word simple found
    rw [List.append_nil, ends] at taken
    exact taken
  rw [readPlainScalar, begins]
  simp [Bind.bind, Except.bind, Pure.pure, Except.pure, same, stop, wordToken]

/-- A word in front of a colon and a space is scanned as a plain scalar. -/
theorem readPlainScalar_colon (simple : ∀ c ∈ word, isSimple c = true)
    (found : cursor.rest = word ++ ':' :: ' ' :: rest) :
    readPlainScalar inFlow indent cursor = .ok (wordToken word cursor, cursor.skip word.length, false) :=
  readPlainScalar_word simple found (readPlain_colon (Cursor.rest_skip found)) rfl rfl

/-- In a flow collection, so is a word in front of an indicator. -/
theorem readPlainScalar_sign {c : Char} (simple : ∀ c ∈ word, isSimple c = true)
    (found : cursor.rest = word ++ c :: rest) (sign : isFlowMark c = true) :
    readPlainScalar true indent cursor = .ok (wordToken word cursor, cursor.skip word.length, false) :=
  readPlainScalar_word simple found (readPlain_sign (Cursor.rest_skip found) sign) rfl rfl

/-- In a block collection a word at the end of its line is scanned with the line feed. -/
theorem readPlainScalar_line (simple : ∀ c ∈ word, isSimple c = true) (found : cursor.rest = word ++ '\n' :: rest)
    (indented : 0 < indent) (next : ∀ c ∈ rest.head?, isSimple c = true) :
    readPlainScalar false indent cursor = .ok (wordToken word cursor, (cursor.skip word.length).skipLine, true) :=
  readPlainScalar_word simple found (readPlain_line (Cursor.rest_skip found) indented next) rfl rfl

end Plain

/-- However a text is written between double quotes, it is scanned as a quoted scalar. -/
theorem readQuotedScalar_writes {text written rest : List Char} {cursor : Cursor} (writes : WritesQuoted text written)
    (found : cursor.rest = '"' :: (written ++ '"' :: rest)) :
    readQuotedScalar true cursor = .ok (⟨.scalar text .doubleQuoted, cursor.mark,
      (cursor.skip (written.length + 2)).mark⟩, cursor.skip (written.length + 2)) := by
  have behind : (cursor.skip 1).rest = written ++ '"' :: rest := @Cursor.rest_skip cursor ['"'] _ found
  have inside : 0 < (cursor.skip 1).mark.column := by simp [Cursor.skip, found]
  have read := @readQuoted_writes text written rest writes cursor.mark [] [] (cursor.skip 1) behind inside
  -- One more for the opening quote.
  have places : (cursor.skip 1).skip (written.length + 1) = cursor.skip (written.length + 2) := by
    rw [Cursor.skip_skip]
    congr 1
    omega
  rw [places] at read
  rw [readQuotedScalar, show Gap.none = .spaces [] from rfl, read]
  simp [Bind.bind, Except.bind, Pure.pure, Except.pure]

/-- The ways to write a scalar: between double quotes in any way, or plain if it is simple. -/
inductive WritesScalar : ScalarStyle → List Char → List Char → Prop where
  | quoted {text written : List Char} (writes : WritesQuoted text written) :
      WritesScalar .doubleQuoted text ('"' :: (written ++ ['"']))
  | word {word : List Char} (nonempty : word ≠ []) (simple : ∀ c ∈ word, isSimple c = true) :
      WritesScalar .plain word word

end AccessProbe.Yaml
