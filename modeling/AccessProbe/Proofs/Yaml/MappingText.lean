import AccessProbe.Proofs.Yaml.MappingTokens

/-! The texts of block and flow mappings of scalars, and their tokens. -/

namespace AccessProbe.Yaml

/-- A pair of a mapping, with the way its value is written. -/
structure Pair where
  key : List Char
  /-- The text of the value, not as written. -/
  text : List Char
  /-- The style of the value. -/
  style : ScalarStyle
  /-- The value as it is written. -/
  written : List Char
  nonempty : key ≠ []
  /-- The key is written without quotes. -/
  simple : ∀ c ∈ key, isSimple c = true
  /-- A key without indicator has at most 1024 characters. -/
  short : key.length ≤ 1024
  writes : WritesScalar style text written

namespace Pair

/-- The text of a pair. -/
def line (pair : Pair) : List Char := pair.key ++ ':' :: ' ' :: pair.written

/-- The tokens of a pair. -/
def kinds (pair : Pair) : List TokenKind :=
  [.key, .scalar pair.key .plain, .value, .scalar pair.text pair.style]

/-- A pair begins with a simple character. -/
theorem exists_line_eq (pair : Pair) : ∃ c rest, pair.line = c :: rest ∧ isSimple c = true := by
  obtain ⟨c, letters, key⟩ := List.exists_cons_of_ne_nil pair.nonempty
  exact ⟨c, letters ++ ':' :: ' ' :: pair.written, by simp [line, key], pair.simple c (by simp [key])⟩

end Pair

/-- The text of a block mapping, one pair per line. -/
def blockText (pairs : List Pair) : List Char := pairs.flatMap fun pair => pair.line ++ ['\n']

/-- The text of a flow mapping behind its first pair. -/
def flowRest (pairs : List Pair) (tail : List Char) : List Char :=
  pairs.flatMap (fun pair => ',' :: ' ' :: pair.line) ++ '\x7d' :: tail

/-- Behind a pair of a flow mapping there is a flow indicator. -/
theorem exists_flowRest_eq (pairs : List Pair) (tail : List Char) :
    ∃ sign rest, flowRest pairs tail = sign :: rest ∧ isFlowMark sign = true := by
  -- A comma if there is another pair, or the closing brace.
  cases pairs with
  | nil => exact ⟨'\x7d', tail, rfl, by decide⟩
  | cons pair pairs => exact ⟨',', _, rfl, by decide⟩

/-- The text behind the first pair has more than four characters per further pair. -/
theorem length_flowRest (pairs : List Pair) (tail : List Char) :
    4 * pairs.length < (flowRest pairs tail).length := by
  -- A comma, a space, a colon and a space.
  induction pairs with
  | nil => simp [flowRest]
  | cons pair pairs ih =>
    simp only [flowRest, List.flatMap_cons, List.length_append, Pair.line, List.length_cons] at ih ⊢
    omega

/-- A block mapping begins with a simple character. -/
theorem isSimple_head_blockText (pairs : List Pair) : ∀ c ∈ (blockText pairs).head?, isSimple c = true := by
  -- The first character of the first key.
  cases pairs with
  | nil => simp [blockText]
  | cons pair pairs =>
    obtain ⟨c, rest, begins, simple⟩ := pair.exists_line_eq
    simp [blockText, begins, simple]

/-- A block mapping has at least three characters per pair. -/
theorem length_blockText (pairs : List Pair) : 3 * pairs.length ≤ (blockText pairs).length := by
  -- A colon, a space and a line feed.
  induction pairs with
  | nil => simp
  | cons pair pairs ih =>
    simp only [blockText, List.flatMap_cons, List.length_append, Pair.line, List.length_cons] at ih ⊢
    omega

/-- The text of a flow mapping, and what follows it. -/
def flowText (pairs : List Pair) (tail : List Char) : List Char :=
  match pairs with
  | [] => '\x7b' :: '\x7d' :: tail
  | pair :: pairs => '\x7b' :: (pair.line ++ flowRest pairs tail)

namespace Scan

variable {scan : Scan} {cursor : Cursor} {columns below : List Nat} {released steps : Nat} {pending : List Token}
  {opening kinds : List TokenKind} {pair : Pair} {pairs : List Pair} {rest : List Char}

/-- A simple character begins a token. -/
theorem isSolid_of_isSimple {c : Char} (simple : isSimple c = true) : IsSolid c := by
  obtain ⟨space, within, -, -, comment⟩ := isSimple_kind simple
  exact ⟨space, within, comment⟩

/-- A value begins with a character that begins a token. -/
theorem isSolid_head {style : ScalarStyle} {text written : List Char} (writes : WritesScalar style text written)
    (rest : List Char) : ∃ c more, written ++ rest = c :: more ∧ IsSolid c := by
  -- A quote, or a simple character.
  cases writes with
  | quoted writes => exact ⟨'"', _, rfl, by decide, by decide, by decide⟩
  | word nonempty simple =>
    obtain ⟨c, letters, rfl⟩ := List.exists_cons_of_ne_nil nonempty
    exact ⟨c, letters ++ rest, rfl, isSolid_of_isSimple (simple c (.head _))⟩

/-- The space in front of a value is skipped. -/
theorem skipToToken_value {outer : List (Option SimpleKey)} {style : ScalarStyle} {text written : List Char}
    (writes : WritesScalar style text written) (found : cursor.rest = ' ' :: (written ++ rest)) :
    skipToToken ⟨cursor, none :: outer, false, columns, released, pending⟩ =
      ⟨cursor.skip 1, none :: outer, false, columns, released, pending⟩ := by
  -- One space, and behind it the value begins.
  obtain ⟨c, more, begins, solid⟩ := isSolid_head writes rest
  rw [begins] at found
  exact @skipToToken_spaces ⟨cursor, none :: outer, false, columns, released, pending⟩ (c :: more) 1 found
    (by simpa using solid)

/-- Behind a line feed the next line begins at column 0. -/
theorem skipLine_next (found : cursor.rest = '\n' :: rest) :
    cursor.skipLine.rest = rest ∧ cursor.skipLine.mark.column = 0 := by
  have line : cursor.skipLine = ⟨⟨cursor.mark.index + 1, cursor.mark.line + 1, 0⟩, rest⟩ := by
    simp [Cursor.skipLine, found, isBreak]
  exact ⟨by rw [line], by rw [line]⟩

/-- A line feed is skipped, and a key may begin behind it. -/
theorem skipToToken_next {allowed : Bool} (found : cursor.rest = '\n' :: rest)
    (solid : ∀ c ∈ rest.head?, IsSolid c) :
    skipToToken ⟨cursor, [none], allowed, columns, released, pending⟩ =
      ⟨cursor.skipLine, [none], true, columns, released, pending⟩ := by
  -- The next line begins with a token, so that nothing more is skipped.
  have here : skipToToken ⟨cursor.skipLine, [none], true, columns, released, pending⟩ =
      ⟨cursor.skipLine, [none], true, columns, released, pending⟩ :=
    skipToToken_here (by rw [(skipLine_next found).1]; exact solid)
  rw [skipToToken_line found]
  simpa [inFlow] using here

/-- There is no collection around a block mapping. -/
theorem Frame.outer_eq {outer : List (Option SimpleKey)} (frame : Frame outer columns [0] opening) : outer = [] := by
  cases frame <;> rfl

/-- A pair of a block mapping takes three steps, behind which the next line begins. -/
theorem yields_line (frame : Frame [] columns [0] opening) (goesOn : IsOpen pending)
    (there : scan.skipToToken = ⟨cursor, [none], true, columns, released, pending⟩) (column : cursor.mark.column = 0)
    (found : cursor.rest = pair.line ++ '\n' :: rest) (simple : ∀ c ∈ rest.head?, isSimple c = true)
    (next : ∀ (scan : Scan) (cursor : Cursor) (released' : Nat) (pending' : List Token), IsOpen pending' →
      scan.skipToToken = ⟨cursor, [none], true, [0], released', pending'⟩ → cursor.mark.column = 0 →
      cursor.rest = rest → scan.Yields steps (pending'.map (·.kind) ++ kinds)) :
    scan.Yields (steps + 3) (pending.map (·.kind) ++ (opening ++ (pair.kinds ++ kinds))) := by
  -- Key and colon are two steps by `yields_key`, the value is the third.
  have idle : IsIdle [] := by simp [IsIdle]
  have key : cursor.rest = pair.key ++ ':' :: ' ' :: (pair.written ++ '\n' :: rest) := by
    simpa [Pair.line] using found
  have sign : (cursor.skip (pair.key.length + 1)).rest = ' ' :: (pair.written ++ '\n' :: rest) := by
    have skipped := @Cursor.rest_skip cursor (pair.key ++ [':']) (' ' :: (pair.written ++ '\n' :: rest))
      (by simpa using key)
    simpa using skipped
  have read := @yields_key scan cursor [] columns [0] released (steps + 1) pending opening
    (.scalar pair.text pair.style :: kinds) (pair.written ++ '\n' :: rest) pair.key frame idle goesOn there
    pair.nonempty pair.simple pair.short key (fun _ => column) ?_
  · simpa [Pair.kinds] using read
  · intro outer released' pending' kept quiet more
    obtain rfl := kept.outer_eq
    let place : Cursor := (cursor.skip (pair.key.length + 1)).skip 1
    have value : place.rest = pair.written ++ '\n' :: rest := @Cursor.rest_skip _ [' '] _ sign
    have behind : (place.skip pair.written.length).rest = '\n' :: rest := Cursor.rest_skip value
    have ready := @skipToToken_value (cursor.skip (pair.key.length + 1)) [0] released' pending'
      ('\n' :: rest) [] _ _ _
      pair.writes sign
    obtain ⟨text, start⟩ := skipLine_next behind
    have solid : ∀ c ∈ rest.head?, IsSolid c := fun c first => isSolid_of_isSimple (simple c first)
    -- Behind a quoted value the line feed is left to the next step. A plain one is scanned together with it.
    rcases @takes_block place released' pending' rest _ _ _ pair.writes value simple with quoted | word
    · have reads (outer) (same : Frame outer [0] [0] []) : Takes (.scalar pair.text pair.style)
          ⟨place, none :: outer, false, [0], released', pending'⟩ _ _ := same.outer_eq ▸ quoted
      refine yields_token (by simp) kept.inside quiet more ready reads fun outer _ _ same silent further => ?_
      obtain rfl := same.outer_eq
      exact next _ _ _ _ further (skipToToken_next behind solid) start text
    · have reads (outer) (same : Frame outer [0] [0] []) : Takes (.scalar pair.text pair.style)
          ⟨place, none :: outer, false, [0], released', pending'⟩ _ _ := same.outer_eq ▸ word
      refine yields_token (by simp) kept.inside quiet more ready reads fun outer _ _ same silent further => ?_
      obtain rfl := same.outer_eq
      exact next _ _ _ _ further (skipToToken_here (by rw [text]; exact solid)) start text

/-- The further pairs of a block mapping take three steps each, and its end takes one. -/
theorem yields_lines (goesOn : IsOpen pending)
    (there : scan.skipToToken = ⟨cursor, [none], true, [0], released, pending⟩) (column : cursor.mark.column = 0)
    (found : cursor.rest = blockText pairs) :
    scan.Yields (3 * pairs.length + 1)
      (pending.map (·.kind) ++ (pairs.flatMap Pair.kinds ++ [.blockEnd, .streamEnd])) := by
  -- Pair by pair, for every state in front of a line.
  induction pairs generalizing scan cursor released pending with
  | nil => exact yields_end (by simp [IsIdle]) there found (by simp)
  | cons pair pairs ih =>
    have line : cursor.rest = pair.line ++ '\n' :: blockText pairs := by simpa [blockText] using found
    have read := yields_line .next goesOn there column line (isSimple_head_blockText pairs)
      fun scan cursor released' pending' more there column text => ih more there column text
    simpa [Nat.mul_add] using read

/-- A pair of a flow mapping takes three steps, behind which a flow indicator comes. -/
theorem yields_item {around : Option SimpleKey} {sign : Char} (idle : IsIdle [around]) (goesOn : IsOpen pending)
    (there : scan.skipToToken = ⟨cursor, [none, around], true, [], released, pending⟩)
    (found : cursor.rest = pair.line ++ sign :: rest) (ends : isFlowMark sign = true)
    (next : ∀ (cursor : Cursor) (around : Option SimpleKey) (released' : Nat) (pending' : List Token),
      IsIdle [around] → IsOpen pending' → cursor.rest = sign :: rest →
      Yields ⟨cursor, [none, around], false, [], released', pending'⟩ steps (pending'.map (·.kind) ++ kinds)) :
    scan.Yields (steps + 3) (pending.map (·.kind) ++ (pair.kinds ++ kinds)) := by
  -- As for a line, but the value ends in front of the indicator.
  have key : cursor.rest = pair.key ++ ':' :: ' ' :: (pair.written ++ sign :: rest) := by
    simpa [Pair.line] using found
  have colon : (cursor.skip (pair.key.length + 1)).rest = ' ' :: (pair.written ++ sign :: rest) := by
    have skipped := @Cursor.rest_skip cursor (pair.key ++ [':']) (' ' :: (pair.written ++ sign :: rest))
      (by simpa using key)
    simpa using skipped
  have read := @yields_key scan cursor [around] [] [] released (steps + 1) pending []
    (.scalar pair.text pair.style :: kinds) (pair.written ++ sign :: rest) pair.key (.flow around) idle goesOn there
    pair.nonempty pair.simple pair.short key (by simp) ?_
  · simpa [Pair.kinds] using read
  · intro outer released' pending' kept quiet more
    obtain ⟨around, rfl⟩ := kept.exists_outer_eq
    let place : Cursor := (cursor.skip (pair.key.length + 1)).skip 1
    have value : place.rest = pair.written ++ sign :: rest := @Cursor.rest_skip _ [' '] _ colon
    have ready := @skipToToken_value (cursor.skip (pair.key.length + 1)) [] released' pending' (sign :: rest) [around]
      _ _ _ pair.writes colon
    have reads (outer) (same : Frame outer [] [] []) : Takes (.scalar pair.text pair.style)
        ⟨place, none :: outer, false, [], released', pending'⟩ (place.skip pair.written.length) false := by
      obtain ⟨around, rfl⟩ := same.exists_outer_eq
      exact takes_flow pair.writes value ends
    refine yields_token (by simp) kept.inside quiet more ready reads fun outer _ _ same silent further => ?_
    obtain ⟨around, rfl⟩ := same.exists_outer_eq
    exact next _ _ _ _ silent further (Cursor.rest_skip value)

/-- The tokens of a flow mapping behind its first pair. -/
def flowRestKinds (pairs : List Pair) : List TokenKind :=
  pairs.flatMap (fun pair => .flowEntry :: pair.kinds) ++ [.flowMappingEnd, .streamEnd]

/-- The further pairs of a flow mapping take four steps each, and its end takes two. -/
theorem yields_items {around : Option SimpleKey} {tail : List Char} (idle : IsIdle [around]) (goesOn : IsOpen pending)
    (ends : tail = [] ∨ tail = ['\n']) (found : cursor.rest = flowRest pairs tail) :
    Yields ⟨cursor, [none, around], false, [], released, pending⟩ (4 * pairs.length + 2)
      (pending.map (·.kind) ++ flowRestKinds pairs) := by
  -- Pair by pair. The comma is a step in front of those of the pair.
  induction pairs generalizing cursor around released pending with
  | nil =>
    have brace : cursor.rest = '\x7d' :: tail := by simpa [flowRest] using found
    exact yields_close idle goesOn (skipToToken_here (by simp [brace, IsSolid, isSpace, isBreak])) brace ends
  | cons pair pairs ih =>
    have comma : cursor.rest = ',' :: ' ' :: (pair.line ++ flowRest pairs tail) := by simpa [flowRest] using found
    have here : skipToToken ⟨cursor, [none, around], false, [], released, pending⟩ =
        ⟨cursor, [none, around], false, [], released, pending⟩ :=
      skipToToken_here (by simp [comma, IsSolid, isSpace, isBreak])
    have reads (outer) (same : Frame outer [] [] []) : Takes .flowEntry
        ⟨cursor, none :: outer, false, [], released, pending⟩ (cursor.skip 1) true := by
      obtain ⟨around, rfl⟩ := same.exists_outer_eq
      exact takes_comma comma
    have read := @yields_token _ _ _ _ _ (4 * pairs.length + 2 + 3) _ (pair.kinds ++ flowRestKinds pairs) _ _ _
      (by simp) (.flow around) idle goesOn here reads ?_
    · simpa [flowRestKinds, Nat.mul_add] using read
    · intro outer released' pending' same silent further
      obtain ⟨around, rfl⟩ := same.exists_outer_eq
      obtain ⟨sign, rest, begins, mark⟩ := exists_flowRest_eq pairs tail
      obtain ⟨c, more, first, simple⟩ := pair.exists_line_eq
      have space : (cursor.skip 1).rest = ' ' :: (pair.line ++ flowRest pairs tail) :=
        @Cursor.rest_skip cursor [','] _ comma
      have line : ((cursor.skip 1).skip 1).rest = pair.line ++ sign :: rest := by
        rw [← begins]
        exact @Cursor.rest_skip _ [' '] _ space
      have there := @skipToToken_spaces ⟨cursor.skip 1, [none, around], true, [], released', pending'⟩ _ 1 space
        (by simpa [first] using isSolid_of_isSimple simple)
      exact yields_item silent further there line mark fun cursor around released' pending' idle goesOn found =>
        ih idle goesOn (found.trans begins.symm)

end Scan

/-- A token stream of the given kinds without an error. -/
def TokenStream.IsOf (stream : TokenStream) (kinds : List TokenKind) : Prop :=
  stream.tokens.map (·.kind) = kinds ∧ stream.failure = none

/-- The tokens of a text are those that the scanner yields, if the text has enough characters for the steps.
-/
theorem TokenStream.isOf_ofCursor {cursor : Cursor} {steps : Nat} {kinds : List TokenKind}
    (yields : (Scan.ofCursor cursor).Yields steps kinds) (enough : steps ≤ cursor.rest.length + 1) :
    (TokenStream.ofCursor cursor).IsOf (.streamStart :: kinds) := by
  -- The stream takes a step per character and one more.
  obtain ⟨same, failure⟩ := yields _ enough
  exact ⟨by simp [ofCursor, same], failure⟩

/-- The tokens of a block mapping. -/
theorem TokenStream.isOf_block (pair : Pair) (pairs : List Pair) :
    (TokenStream.ofCursor ⟨Mark.start, blockText (pair :: pairs)⟩).IsOf
      (.streamStart :: .blockMappingStart :: ((pair :: pairs).flatMap Pair.kinds ++ [.blockEnd, .streamEnd])) := by
  -- The first pair opens the mapping, the others follow.
  have simple := isSimple_head_blockText (pair :: pairs)
  have there : (Scan.ofCursor ⟨Mark.start, blockText (pair :: pairs)⟩).skipToToken =
      ⟨⟨Mark.start, blockText (pair :: pairs)⟩, [none], true, [], 1, []⟩ :=
    Scan.skipToToken_here fun c first => Scan.isSolid_of_isSimple (simple c first)
  have line : blockText (pair :: pairs) = pair.line ++ '\n' :: blockText pairs := by simp [blockText]
  have read := Scan.yields_line .first (by simp [Scan.IsOpen]) there rfl line (isSimple_head_blockText pairs)
    fun scan cursor released' pending' more there column text => Scan.yields_lines more there column text
  -- Three steps per line, and a line has more characters than that.
  have length := length_blockText (pair :: pairs)
  have tokens := isOf_ofCursor read (by rw [List.length_cons] at length; exact Nat.add_le_add_right length 1)
  simpa using tokens

/-- The tokens of a flow mapping behind its brace. -/
def flowKinds : List Pair → List TokenKind
  | [] => [.flowMappingEnd, .streamEnd]
  | pair :: pairs => pair.kinds ++ Scan.flowRestKinds pairs

/-- The tokens of a flow mapping. -/
theorem TokenStream.isOf_flow (pairs : List Pair) {tail : List Char} (ends : tail = [] ∨ tail = ['\n']) :
    (TokenStream.ofCursor ⟨Mark.start, flowText pairs tail⟩).IsOf
      (.streamStart :: .flowMappingStart :: flowKinds pairs) := by
  -- The brace opens the mapping, behind it comes a pair or the closing brace.
  let cursor : Cursor := ⟨Mark.start, flowText pairs tail⟩
  obtain ⟨inner, begins⟩ : ∃ inner, flowText pairs tail = '\x7b' :: inner := by
    cases pairs <;> exact ⟨_, rfl⟩
  have there : (Scan.ofCursor cursor).skipToToken = ⟨cursor, [none], true, [], 1, []⟩ :=
    Scan.skipToToken_here (by simp [Scan.ofCursor, cursor, begins, Scan.IsSolid, isSpace, isBreak])
  have behind : (cursor.skip 1).rest = inner := @Cursor.rest_skip cursor ['\x7b'] _ begins
  cases pairs with
  -- An empty mapping.
  | nil =>
    obtain rfl : inner = '\x7d' :: tail := (List.cons.inj begins).2.symm
    have read := @Scan.yields_open _ cursor 1 2 (flowKinds []) _ there begins
      fun around released' pending' idle goesOn => Scan.yields_close idle goesOn
        (Scan.skipToToken_here (by simp [behind, Scan.IsSolid, isSpace, isBreak])) behind ends
    exact isOf_ofCursor read (by simp [flowText])
  | cons pair pairs =>
    obtain ⟨sign, rest, first, mark⟩ := exists_flowRest_eq pairs tail
    obtain ⟨c, more, line, simple⟩ := pair.exists_line_eq
    have inside : inner = pair.line ++ sign :: rest := first ▸ (List.cons.inj begins).2.symm
    have read := @Scan.yields_open _ cursor 1 (4 * pairs.length + 2 + 3) (flowKinds (pair :: pairs)) _ there begins
      fun around released' pending' idle goesOn => Scan.yields_item idle goesOn
        (Scan.skipToToken_here (by simpa [behind, inside, line] using Scan.isSolid_of_isSimple simple))
        (behind.trans inside) mark fun cursor around released' pending' idle goesOn found =>
          Scan.yields_items idle goesOn ends (found.trans first.symm)
    -- Four steps per pair behind a comma, and three for the first one.
    have length := length_flowRest pairs tail
    have key := List.length_pos_iff.mpr pair.nonempty
    refine isOf_ofCursor read ?_
    simp only [flowText, List.length_cons, List.length_append, Pair.line]
    omega

end AccessProbe.Yaml
