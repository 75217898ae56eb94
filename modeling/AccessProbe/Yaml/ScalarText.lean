import AccessProbe.Text.CodeRanges
import AccessProbe.Yaml.Token

/-! Scanning scalars in each of their styles. -/

namespace AccessProbe.Yaml

/-- White space within a scalar. -/
inductive Gap where
  /-- Spaces and tabs, last one first. -/
  | spaces (reversed : List Char)
  /-- A line break, and the line breaks of empty lines behind it. -/
  | lines (first further : List Char)
  deriving DecidableEq, Repr

namespace Gap

/-- No white space. -/
def none : Gap := .spaces []

/-- Line folding: a single line break becomes a space, and of several the first is dropped. -/
def text : Gap → List Char
  | .spaces reversed => reversed.reverse
  | .lines ['\n'] [] => [' ']
  | .lines ['\n'] further => further
  | .lines first further => first ++ further

/-- Adds a space or a tab, which does not count behind a line break. -/
def space (c : Char) : Gap → Gap
  | .spaces reversed => .spaces (c :: reversed)
  | .lines first further => .lines first further

/-- Adds a line break. -/
def line (ending : List Char) : Gap → Gap
  | .spaces _ => .lines ending []
  | .lines first further => .lines first (further ++ ending)

/-- Whether there is a line break. -/
def isLines : Gap → Bool
  | .spaces _ => false
  | .lines _ _ => true

end Gap

/-- The escapes of double-quoted scalars. -/
inductive Escape where
  /-- A character. -/
  | char (c : Char)
  /-- A code point with a number of hexadecimal digits. -/
  | code (digits : Nat)
  deriving DecidableEq, Repr

/-- The escape with an indicator. -/
def escape? (c : Char) : Option Escape :=
  match c with
  | '0' => some (.char '\x00')
  | 'a' => some (.char '\x07')
  | 'b' => some (.char '\x08')
  | 't' => some (.char '\t')
  | '\t' => some (.char '\t')
  | 'n' => some (.char '\n')
  | 'v' => some (.char '\x0b')
  | 'f' => some (.char '\x0c')
  | 'r' => some (.char '\r')
  | 'e' => some (.char '\x1b')
  | ' ' => some (.char ' ')
  | '"' => some (.char '"')
  | '/' => some (.char '/')
  | '\\' => some (.char '\\')
  | 'N' => some (.char '\u0085')
  | '_' => some (.char '\u00a0')
  | 'L' => some (.char '\u2028')
  | 'P' => some (.char '\u2029')
  | 'x' => some (.code 2)
  | 'u' => some (.code 4)
  | 'U' => some (.code 8)
  | _ => none

/-- Reads a code point. -/
def readCode (start : Mark) (digits : Nat) (cursor : Cursor) : Except SyntaxError Char :=
  let text := cursor.rest.take digits
  if text.length < digits || text.any (fun c => (hexDigit? c).isNone) then
    .error (.during .parsingQuoted start .missingHexDigit cursor.mark)
  else
    let code := hexNumber text
    if code.isValidChar then .ok (Char.ofNat code)
    else .error (.during .parsingQuoted start .invalidEscapeCode cursor.mark)

/-- A string that has been read, with the cursor behind it. -/
structure ReadText where
  /-- The characters, last one first. -/
  reversed : List Char
  behind : Cursor

/-- Adds white space and characters to a reversed string. -/
def extend (reversed : List Char) (gap : Gap) (more : List Char) : List Char :=
  more.reverse ++ gap.text.reverse ++ reversed

/-- Reads an escape, with the number of its digits. -/
def readEscape (start : Mark) (cursor : Cursor) (mark : Char) : Except SyntaxError (Char × Nat) :=
  match escape? mark with
  | none => .error (.during .parsingQuoted start .unknownEscape cursor.mark)
  | some (.char c) => .ok (c, 0)
  | some (.code digits) => (readCode start digits (cursor.skip 2)).map fun c => (c, digits)

/-- Reads a quoted scalar behind its opening quote. -/
def readQuoted (double : Bool) (start : Mark) (reversed : List Char) (gap : Gap) (cursor : Cursor) :
    Except SyntaxError ReadText :=
  match _found : cursor.rest with
  | [] => .error (.during .scanningQuoted start .unexpectedEnd cursor.mark)
  | c :: rest =>
    if isSpace c then readQuoted double start reversed (gap.space c) (cursor.skip 1)
    else if _ends : isBreak c = true then
      readQuoted double start reversed (gap.line cursor.breakText) cursor.skipLine
    else if cursor.isAtDocumentMark then
      .error (.during .scanningQuoted start .documentMarkInside cursor.mark)
    else if c = (if double then '"' else '\'') then
      -- In single quotes a repeated quote stands for one.
      if !double && rest.head? = some '\'' then
        readQuoted double start (extend reversed gap ['\'']) .none (cursor.skip 2)
      else .ok ⟨extend reversed gap [], cursor.skip 1⟩
    else if double && c = '\\' then
      match rest.head? with
      | none => .error (.during .parsingQuoted start .unknownEscape cursor.mark)
      | some mark =>
        if isBreak mark then
          -- An escaped line break joins the lines without a space.
          readQuoted double start (extend reversed gap []) (.lines [] []) (cursor.skip 1).skipLine
        else match readEscape start cursor mark with
          | .error error => .error error
          | .ok (value, digits) =>
            readQuoted double start (extend reversed gap [value]) .none (cursor.skip (digits + 2))
    else readQuoted double start (extend reversed gap [c]) .none (cursor.skip 1)
termination_by cursor.rest.length
decreasing_by
  all_goals first
    | exact Cursor.length_skipLine_lt _found _ends
    | exact Cursor.length_skip_lt _found (by omega)
    | exact Nat.lt_of_le_of_lt (Cursor.length_skipLine_le _) (Cursor.length_skip_lt _found (by omega))

/-- The quoted scalar at the cursor. -/
def readQuotedScalar (double : Bool) (cursor : Cursor) : Except SyntaxError (Token × Cursor) := do
  let text ← readQuoted double cursor.mark [] .none (cursor.skip 1)
  let style := if double then ScalarStyle.doubleQuoted else .singleQuoted
  return (⟨.scalar text.reversed.reverse style, cursor.mark, text.behind.mark⟩, text.behind)

/-- The indicators within flow collections. -/
def isFlowMark (c : Char) : Bool := ",[]\x7b\x7d".toList.contains c

/-- A plain scalar as far as it has been read. -/
structure PlainText where
  /-- The characters, last one first. -/
  reversed : List Char
  /-- The end of the last word. -/
  stop : Mark
  /-- The white space behind it. -/
  gap : Gap
  /-- The cursor behind the white space. -/
  behind : Cursor

/-- Whether a plain scalar ends behind white space. -/
def endsPlain (inFlow : Bool) (indent : Nat) (gap : Gap) (cursor : Cursor) : Bool :=
  cursor.isAtDocumentMark || cursor.rest.head? = some '#'
    || (!inFlow && gap.isLines && cursor.mark.column < indent)

/-- Reads a plain scalar. -/
def readPlain (inFlow : Bool) (indent : Nat) (start : Mark) (text : PlainText) :
    Except SyntaxError PlainText :=
  match _found : text.behind.rest with
  | [] => .ok text
  | c :: rest =>
    if isSpace c then
      -- A tab may not stand in the indentation.
      if text.gap.isLines && text.behind.mark.column < indent && c = '\t' then
        .error (.during .scanningPlain start .tabAgainstIndentation text.behind.mark)
      else
        readPlain inFlow indent start
          { text with gap := text.gap.space c, behind := text.behind.skip 1 }
    else if _ends : isBreak c = true then
      readPlain inFlow indent start
        { text with gap := text.gap.line text.behind.breakText, behind := text.behind.skipLine }
    else if text.gap ≠ .none && endsPlain inFlow indent text.gap text.behind then .ok text
    -- In a flow collection a colon before an indicator is ambiguous.
    else if inFlow && c = ':' && rest.head?.any (fun next => isFlowMark next || next = '?') then
      .error (.during .scanningPlain start .unexpectedColon text.behind.mark)
    else if (c = ':' && isGap rest) || (inFlow && isFlowMark c) then .ok text
    else
      -- Any other character belongs to the scalar, with the gap in front of it.
      let behind := text.behind.skip 1
      readPlain inFlow indent start ⟨extend text.reversed text.gap [c], behind.mark, .none, behind⟩
termination_by text.behind.rest.length
decreasing_by
  all_goals first
    | exact Cursor.length_skipLine_lt _found _ends
    | exact Cursor.length_skip_lt _found (by omega)

/-- The plain scalar at the cursor, and whether a line break follows it. -/
def readPlainScalar (inFlow : Bool) (indent : Nat) (cursor : Cursor) :
    Except SyntaxError (Token × Cursor × Bool) := do
  let text ← readPlain inFlow indent cursor.mark ⟨[], cursor.mark, .none, cursor⟩
  return (⟨.scalar text.reversed.reverse .plain, cursor.mark, text.stop⟩, text.behind, text.gap.isLines)

/-- What becomes of the line breaks at the end of a block scalar. -/
inductive Chomping where
  /-- One is kept. -/
  | clip
  /-- None is kept. -/
  | strip
  /-- All are kept. -/
  | keep
  deriving DecidableEq, Repr

/-- The chomping of an indicator. -/
def chomping? : Option Char → Option Chomping
  | some '+' => some .keep
  | some '-' => some .strip
  | _ => none

/-- The indentation indicator, if there is one. -/
def readIndentation (start : Mark) (cursor : Cursor) : Except SyntaxError (Option Nat × Cursor) :=
  match cursor.rest with
  | c :: _ =>
    if c = '0' then .error (.during .scanningBlockScalar start .zeroIndentation cursor.mark)
    else if c.isDigit then .ok (some (c.toNat - 0x30), cursor.skip 1)
    else .ok (none, cursor)
  | [] => .ok (none, cursor)

/-- The two indicators of a block scalar, in either order. -/
def readBlockHead (start : Mark) (cursor : Cursor) :
    Except SyntaxError (Chomping × Option Nat × Cursor) :=
  -- The indicators may come in either order.
  match chomping? cursor.rest.head? with
  | some chomping => do
    let (indentation, behind) ← readIndentation start (cursor.skip 1)
    return (chomping, indentation, behind)
  | none => do
    let (indentation, behind) ← readIndentation start cursor
    match indentation, chomping? behind.rest.head? with
    | some _, some chomping => return (chomping, indentation, behind.skip 1)
    | _, _ => return (.clip, indentation, behind)

/-- The empty lines in a block scalar. -/
structure EmptyLines where
  /-- Their line breaks. -/
  breaks : List Char
  /-- The widest indentation among them. -/
  widest : Nat
  /-- The start of the line behind them. -/
  stop : Mark
  /-- The cursor behind the indentation of that line. -/
  behind : Cursor

/-- Reads empty lines. Without a limit all leading spaces are indentation. -/
def readEmptyLines (start : Mark) (limit : Option Nat) (lines : EmptyLines) :
    Except SyntaxError EmptyLines :=
  -- Spaces beyond the limit belong to the content.
  let spaces := (lines.behind.rest.takeWhile (· = ' ')).length
  let behind := lines.behind.skip (match limit with
    | some limit => min spaces (limit - lines.behind.mark.column)
    | none => spaces)
  let widest := max lines.widest behind.mark.column
  if limit.all (behind.mark.column < ·) && behind.rest.head? = some '\t' then
    .error (.during .scanningBlockScalar start .tabInIndentation behind.mark)
  else
    match _found : behind.rest with
    | [] => .ok { lines with widest, behind }
    | c :: _ =>
      if _ends : isBreak c = true then
        readEmptyLines start limit
          ⟨lines.breaks ++ behind.breakText, widest, behind.skipLine.mark, behind.skipLine⟩
      else .ok { lines with widest, behind }
termination_by lines.behind.rest.length
decreasing_by
  exact Nat.lt_of_lt_of_le (Cursor.length_skipLine_lt _found _ends) (Cursor.length_skip_le _ _)

/-- A block scalar as far as it has been read. -/
structure BlockText where
  /-- The characters, last one first. -/
  reversed : List Char
  /-- The last line break. -/
  leading : List Char
  /-- Whether the last line began with white space. -/
  blank : Bool
  /-- The empty lines behind it. -/
  lines : EmptyLines

/-- What stands between two lines: a space if they are folded and no empty line is between them. -/
def joint (folds : Bool) (text : BlockText) (blank : Bool) : List Char :=
  -- A line that begins with white space is not folded.
  if folds && text.leading = ['\n'] && !text.blank && !blank then
    if text.lines.breaks.isEmpty then [' '] else text.lines.breaks
  else text.leading ++ text.lines.breaks

/-- Reads the lines of a block scalar, within a number of steps. -/
def readBlockLines (folds : Bool) (start : Mark) (indent : Nat) :
    Nat → BlockText → Except SyntaxError BlockText
  | 0, text => .ok text
  | steps + 1, text =>
    let cursor := text.lines.behind
    if cursor.mark.column = indent ∧ cursor.rest ≠ [] then do
      let blank := cursor.rest.head?.any isSpace
      let content := cursor.rest.takeWhile isWithinLine
      let behind := cursor.skip content.length
      let next := behind.skipLine
      let lines ← readEmptyLines start (some indent) ⟨[], 0, next.mark, next⟩
      readBlockLines folds start indent steps
        ⟨content.reverse ++ (joint folds text blank).reverse ++ text.reversed, behind.breakText, blank, lines⟩
    else .ok text
where
  isWithinLine (c : Char) : Bool := !isBreak c

/-- The block scalar at the cursor. -/
def readBlockScalar (folds : Bool) (parent : Option Nat) (cursor : Cursor) :
    Except SyntaxError (Token × Cursor) := do
  let start := cursor.mark
  let (chomping, indentation, behind) ← readBlockHead start (cursor.skip 1)
  let behind := skipTrailing behind
  if !isLineEnd behind.rest then throw (.during .scanningBlockScalar start .missingLineBreak behind.mark)
  let behind := behind.skipLine
  -- The content is indented more than the block around the scalar.
  let least := (parent.map (· + 1)).getD 0
  let given := indentation.map (parent.getD 0 + ·)
  let lines ← readEmptyLines start given ⟨[], 0, behind.mark, behind⟩
  -- Without an indicator the first line and the empty lines before it decide on the indentation.
  let indent := given.getD (max (max lines.widest least) 1)
  let text ← readBlockLines folds start indent (behind.rest.length + 1) ⟨[], [], false, lines⟩
  let tail := match chomping with
    | .strip => []
    | .clip => text.leading
    | .keep => text.leading ++ text.lines.breaks
  let style := if folds then ScalarStyle.folded else .literal
  return (⟨.scalar (text.reversed.reverse ++ tail) style, start, text.lines.stop⟩, text.lines.behind)
where
  /-- Skips blanks and a comment. -/
  skipTrailing (cursor : Cursor) : Cursor :=
    let behind := cursor.skipWhile isSpace
    if behind.rest.head? = some '#' then behind.skipWhile (! isBreak ·) else behind

end AccessProbe.Yaml
