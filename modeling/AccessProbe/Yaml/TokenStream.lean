import AccessProbe.Yaml.Name
import AccessProbe.Yaml.ScalarText

/-! The scanner. A key without indicator is recognised by the colon behind it, so that tokens are kept back. -/

namespace AccessProbe.Yaml

/-- A possible key without indicator. -/
structure SimpleKey where
  /-- Whether the indentation allows nothing but a key. -/
  required : Bool
  /-- The number of its first token. -/
  number : Nat
  /-- Its position. -/
  mark : Mark
  deriving DecidableEq, Repr

/-- Skips blanks and a comment. -/
def skipBlanks (tabs : Bool) (cursor : Cursor) : Cursor :=
  let behind := cursor.skipWhile fun c => c = ' ' || (tabs && c = '\t')
  if behind.rest.head? = some '#' then behind.skipWhile isWithinLine else behind

/-- Skipping blanks never makes the rest longer. -/
theorem length_skipBlanks_le (tabs : Bool) (cursor : Cursor) :
    (skipBlanks tabs cursor).rest.length ≤ cursor.rest.length := by
  unfold skipBlanks
  dsimp only
  -- Behind the blanks, a comment may follow or not, and both are only skipped.
  split
  · exact Nat.le_trans (Cursor.length_skip_le _ _) (Cursor.length_skip_le _ _)
  · exact Cursor.length_skip_le _ _

/-- The state of the scanner. -/
structure Scan where
  cursor : Cursor
  /-- The possible key of each open flow collection, innermost first, and of the block around them. -/
  keys : List (Option SimpleKey)
  /-- Whether a key without indicator may begin here. -/
  keyAllowed : Bool
  /-- The columns of the open block collections, innermost first. -/
  columns : List Nat
  /-- The number of tokens released so far. -/
  released : Nat
  /-- The tokens that are kept back, because a key may still be inserted before them. -/
  pending : List Token
  deriving DecidableEq, Repr

namespace Scan

/-- Whether a flow collection is open. -/
def inFlow (scan : Scan) : Bool := 1 < scan.keys.length

/-- The position of the cursor. -/
def mark (scan : Scan) : Mark := scan.cursor.mark

/-- Whether a column is indented more than the innermost block collection. -/
def isDeeper (scan : Scan) (column : Nat) : Bool := scan.columns.head?.all (· < column)

/-- Adds a token. -/
def push (scan : Scan) (token : Token) : Scan := { scan with pending := scan.pending ++ [token] }

/-- Adds a token of no width at the cursor. -/
def pushHere (scan : Scan) (kind : TokenKind) : Scan := scan.push ⟨kind, scan.mark, scan.mark⟩

/-- Adds an indicator and advances past it. -/
def pushSign (scan : Scan) (kind : TokenKind) (width : Nat) : Scan :=
  let behind := scan.cursor.skip width
  { scan.push ⟨kind, scan.mark, behind.mark⟩ with cursor := behind }

/-- Inserts a token before the one with a number. -/
def insertAt (scan : Scan) (number : Nat) (token : Token) : Scan :=
  { scan with pending := scan.pending.insertIdx (number - scan.released) token }

/-- Whether a possible key is too far back: keys are limited to one line and 1024 characters. -/
def isStale (scan : Scan) (key : SimpleKey) : Bool :=
  key.mark.line < scan.mark.line || key.mark.index + 1024 < scan.mark.index

/-- The error for a key without colon. -/
def missingColon (scan : Scan) (key : SimpleKey) : SyntaxError :=
  .during .scanningSimpleKey key.mark .missingColon scan.mark

/-- Drops the possible keys that are too far back. -/
def dropStale (scan : Scan) : Except SyntaxError Scan :=
  match scan.keys.reverse.findSome? (fun key =>
      key.bind fun key => if scan.isStale key && key.required then some key else none) with
  | some key => .error (scan.missingColon key)
  | none => .ok { scan with keys := scan.keys.map fun key => key.filter (! scan.isStale ·) }

/-- Drops the possible key of the innermost collection. -/
def dropKey (scan : Scan) : Except SyntaxError Scan :=
  match scan.keys with
  | some key :: keys =>
    if key.required then .error (scan.missingColon key) else .ok { scan with keys := none :: keys }
  | _ => .ok scan

/-- Registers a possible key at the cursor. -/
def saveKey (scan : Scan) : Except SyntaxError Scan :=
  if scan.keyAllowed then do
    -- In the column of a block mapping nothing but a key can begin.
    let required := !scan.inFlow && scan.columns.head? = some scan.mark.column
    let key : SimpleKey := ⟨required, scan.released + scan.pending.length, scan.mark⟩
    let scan ← scan.dropKey
    return { scan with keys := some key :: scan.keys.tail }
  else .ok scan

/-- Opens a block collection if the column is indented more than the innermost one. -/
def openColumn (scan : Scan) (column : Nat) (place : Option Nat) (kind : TokenKind) (mark : Mark) : Scan :=
  if scan.inFlow || !scan.isDeeper column then scan
  else
    let scan := { scan with columns := column :: scan.columns }
    match place with
    | some number => scan.insertAt number ⟨kind, mark, mark⟩
    | none => scan.push ⟨kind, mark, mark⟩

/-- Closes the block collections that are indented more than a column, or all of them. -/
def closeColumns (scan : Scan) (column : Option Nat) : Scan :=
  if scan.inFlow then scan
  else
    let closed := scan.columns.takeWhile fun deeper => column.all (· < deeper)
    { scan with
      columns := scan.columns.drop closed.length
      pending := scan.pending ++ closed.map fun _ => ⟨.blockEnd, scan.mark, scan.mark⟩ }

/-- Advances to the next token. -/
def skipToToken (scan : Scan) : Scan :=
  let behind := skipBlanks (scan.inFlow || !scan.keyAllowed) scan.cursor
  match _found : behind.rest with
  | c :: _ =>
    if _ends : isBreak c = true then
      skipToToken { scan with cursor := behind.skipLine, keyAllowed := scan.keyAllowed || !scan.inFlow }
    else { scan with cursor := behind }
  | [] => { scan with cursor := behind }
termination_by scan.cursor.rest.length
decreasing_by
  exact Nat.lt_of_lt_of_le (Cursor.length_skipLine_lt _found _ends) (length_skipBlanks_le _ _)

/-- Ends the file and closes all collections. -/
def endStream (scan : Scan) : Except SyntaxError Scan := do
  let mark := scan.mark
  -- The last line counts as ended even without a line break.
  let mark := if mark.column = 0 then mark else { mark with line := mark.line + 1, column := 0 }
  let scan := { scan with cursor := { scan.cursor with mark } }
  let scan ← (scan.closeColumns none).dropKey
  return { scan with keyAllowed := false }.pushHere .streamEnd

/-- Closes everything in front of a directive or a document marker. -/
def leaveDocument (scan : Scan) : Except SyntaxError Scan := do
  let scan ← (scan.closeColumns none).dropKey
  return { scan with keyAllowed := false }

/-- Scans a directive. -/
def directive (scan : Scan) : Except SyntaxError Scan := do
  let scan ← scan.leaveDocument
  let (token, cursor) ← readDirective scan.cursor
  return { scan.push token with cursor }

/-- Scans a document marker. -/
def documentMark (scan : Scan) (kind : TokenKind) : Except SyntaxError Scan := do
  let scan ← scan.leaveDocument
  return scan.pushSign kind 3

/-- Scans an opening bracket. -/
def openFlow (scan : Scan) (kind : TokenKind) : Except SyntaxError Scan := do
  let scan ← scan.saveKey
  -- A flow collection has a possible key of its own, and may be a key itself.
  return { scan with keys := none :: scan.keys, keyAllowed := true }.pushSign kind 1

/-- Scans a closing bracket. -/
def closeFlow (scan : Scan) (kind : TokenKind) : Except SyntaxError Scan := do
  let scan ← scan.dropKey
  let keys := if scan.inFlow then scan.keys.tail else scan.keys
  return { scan with keys, keyAllowed := false }.pushSign kind 1

/-- Scans a comma. -/
def flowEntry (scan : Scan) : Except SyntaxError Scan := do
  let scan ← scan.dropKey
  return { scan with keyAllowed := true }.pushSign .flowEntry 1

/-- Scans the dash of an entry. -/
def blockEntry (scan : Scan) : Except SyntaxError Scan := do
  if !scan.inFlow && !scan.keyAllowed then throw (.at .blockEntryNotAllowed scan.mark)
  let scan := scan.openColumn scan.mark.column none .blockSequenceStart scan.mark
  let scan ← scan.dropKey
  return { scan with keyAllowed := true }.pushSign .blockEntry 1

/-- Scans the indicator of a key. -/
def keySign (scan : Scan) : Except SyntaxError Scan := do
  if !scan.inFlow && !scan.keyAllowed then throw (.at .keyNotAllowed scan.mark)
  let scan := scan.openColumn scan.mark.column none .blockMappingStart scan.mark
  let scan ← scan.dropKey
  return { scan with keyAllowed := !scan.inFlow }.pushSign .key 1

/-- Scans the colon of a value. A possible key before it becomes one. -/
def valueSign (scan : Scan) : Except SyntaxError Scan :=
  match scan.keys with
  | some key :: keys =>
    -- The key comes to stand behind the start of a mapping that it opens.
    let scan := scan.insertAt key.number ⟨.key, key.mark, key.mark⟩
    let scan := scan.openColumn key.mark.column (some key.number) .blockMappingStart key.mark
    .ok ({ scan with keys := none :: keys, keyAllowed := false }.pushSign .value 1)
  | _ => do
    if !scan.inFlow && !scan.keyAllowed then throw (.at .valueNotAllowed scan.mark)
    let scan := scan.openColumn scan.mark.column none .blockMappingStart scan.mark
    return { scan with keyAllowed := !scan.inFlow }.pushSign .value 1

/-- Scans a token that may be a key. -/
def keyed (scan : Scan) (read : Cursor → Except SyntaxError (Token × Cursor)) : Except SyntaxError Scan := do
  let scan ← scan.saveKey
  let (token, cursor) ← read scan.cursor
  return { scan with keyAllowed := false, cursor }.push token

/-- Scans an anchor or an alias. -/
def name (scan : Scan) (activity : Activity) (kind : List Char → TokenKind) : Except SyntaxError Scan :=
  scan.keyed fun cursor => do
    let (name, behind) ← readName activity cursor
    return (⟨kind name, cursor.mark, behind.mark⟩, behind)

/-- Scans a block scalar. -/
def blockScalar (scan : Scan) (folds : Bool) : Except SyntaxError Scan := do
  let scan ← scan.dropKey
  let (token, cursor) ← readBlockScalar folds scan.columns.head? scan.cursor
  return { scan with keyAllowed := true, cursor }.push token

/-- Scans a plain scalar. -/
def plainScalar (scan : Scan) : Except SyntaxError Scan := do
  let scan ← scan.saveKey
  let indent := (scan.columns.head?.map (· + 1)).getD 0
  let (token, cursor, onNewLine) ← readPlainScalar scan.inFlow indent scan.cursor
  return { scan with keyAllowed := onNewLine, cursor }.push token

/-- Whether a plain scalar may begin at a character. -/
def startsPlain (inFlow : Bool) (c : Char) (rest : List Char) : Bool :=
  (!isSpace c && !isBreak c && !"-?:,[]\x7b\x7d#&*!|>'\"%@\x60".toList.contains c)
    || (c = '-' && !rest.head?.any isSpace)
    || (!inFlow && (c = '?' || c = ':') && !isGap rest)

/-- Scans the token at the cursor. -/
def token (scan : Scan) : Except SyntaxError Scan :=
  match scan.cursor.rest with
  | [] => scan.endStream
  | c :: rest =>
    -- An indicator of a block collection needs a blank behind it.
    let signEnds := scan.inFlow || isGap rest
    if scan.mark.column = 0 ∧ c = '%' then scan.directive
    else if scan.cursor.isAtDocumentMark then
      scan.documentMark (if c = '-' then .documentStart else .documentEnd)
    else if c = '[' then scan.openFlow .flowSequenceStart
    else if c = '\x7b' then scan.openFlow .flowMappingStart
    else if c = ']' then scan.closeFlow .flowSequenceEnd
    else if c = '\x7d' then scan.closeFlow .flowMappingEnd
    else if c = ',' then scan.flowEntry
    else if c = '-' ∧ isGap rest then scan.blockEntry
    else if c = '?' ∧ signEnds then scan.keySign
    else if c = ':' ∧ signEnds then scan.valueSign
    else if c = '*' then scan.name .scanningAlias .alias
    else if c = '&' then scan.name .scanningAnchor .anchor
    else if c = '!' then scan.keyed (readTag scan.inFlow)
    else if c = '|' ∧ !scan.inFlow then scan.blockScalar false
    else if c = '>' ∧ !scan.inFlow then scan.blockScalar true
    else if c = '\'' then scan.keyed (readQuotedScalar false)
    else if c = '"' then scan.keyed (readQuotedScalar true)
    else if startsPlain scan.inFlow c rest then scan.plainScalar
    else .error (.during .scanningToken scan.mark .cannotStartToken scan.mark)

/-- Scans the next token. -/
def next (scan : Scan) : Except SyntaxError Scan := do
  let scan ← scan.skipToToken.dropStale
  -- A token to the left of a block collection ends it.
  (scan.closeColumns (some scan.mark.column)).token

/-- The number of pending tokens before which no key can be inserted any more. -/
def certain (scan : Scan) : Nat :=
  -- The first token of a possible key is the place of an insertion.
  let firstOpen := scan.keys.filterMap fun key => key.map (·.number - scan.released)
  firstOpen.foldl min scan.pending.length

/-- Releases the tokens that are certain. -/
def release (scan : Scan) : List Token × Scan :=
  let count := scan.certain
  (scan.pending.take count,
    { scan with released := scan.released + count, pending := scan.pending.drop count })

/-- The state at the start of a file. -/
def ofCursor (cursor : Cursor) : Scan :=
  { cursor, keys := [none], keyAllowed := true, columns := [], released := 1, pending := [] }

end Scan

/-- The tokens of a file, and the error that ends them. -/
structure TokenStream where
  tokens : List Token
  failure : Option SyntaxError
  deriving DecidableEq, Repr

/-- The tokens from a state on, within a number of steps. -/
def tokensFrom : Nat → Scan → TokenStream
  | 0, _ => ⟨[], none⟩
  | steps + 1, scan =>
    match (scan.next.bind Scan.dropStale) with
    | .error error => ⟨[], some error⟩
    | .ok scan =>
      let (tokens, scan) := scan.release
      -- The end of the stream is the last token.
      if tokens.any (·.kind = .streamEnd) then ⟨tokens, none⟩
      else
        let rest := tokensFrom steps scan
        ⟨tokens ++ rest.tokens, rest.failure⟩

/-- The tokens of a file. -/
def TokenStream.ofCursor (cursor : Cursor) : TokenStream :=
  -- Every step but the last consumes at least one character.
  let rest := tokensFrom (cursor.rest.length + 1) (Scan.ofCursor cursor)
  ⟨⟨.streamStart, cursor.mark, cursor.mark⟩ :: rest.tokens, rest.failure⟩

end AccessProbe.Yaml
