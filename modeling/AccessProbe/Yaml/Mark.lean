/-! Positions in a file, and the cursor of the scanner. -/

namespace AccessProbe.Yaml

/-- A position, counted from zero. -/
structure Mark where
  /-- The number of characters before it. -/
  index : Nat
  /-- The number of line ends before it. -/
  line : Nat
  /-- The number of characters before it on its line. -/
  column : Nat
  deriving DecidableEq, Repr

/-- The position of the first character. -/
def Mark.start : Mark := ⟨0, 0, 0⟩

/-- Whether a position is the start of the document, which messages leave out. -/
def Mark.isFirst (mark : Mark) : Bool := mark.line = 0 && mark.column = 0

/-- A position as messages show it, counted from one. -/
def Mark.text (mark : Mark) : String :=
  "line " ++ toString (mark.line + 1) ++ " column " ++ toString (mark.column + 1)

/-- A position with the characters from there on. -/
structure Cursor where
  mark : Mark
  rest : List Char
  deriving DecidableEq, Repr

/-- Whether a character is a space or a tab. -/
def isSpace (c : Char) : Bool := c = ' ' || c = '\t'

/-- Whether a character is a line break. -/
def isBreak (c : Char) : Bool :=
  c = '\n' || c = '\r' || c = '\u0085' || c = '\u2028' || c = '\u2029'

/-- Whether white space or the end of the file comes next. -/
def isGap (rest : List Char) : Bool := rest.head?.all fun c => isSpace c || isBreak c

/-- Whether the end of a line comes next. -/
def isLineEnd (rest : List Char) : Bool := rest.head?.all isBreak

namespace Cursor

/-- Advances within a line. -/
def skip (cursor : Cursor) (count : Nat) : Cursor :=
  { mark := { cursor.mark with
      index := cursor.mark.index + min count cursor.rest.length
      column := cursor.mark.column + min count cursor.rest.length }
    rest := cursor.rest.drop count }

/-- Advances past characters of one kind, none of which may be a line break. -/
def skipWhile (cursor : Cursor) (kind : Char → Bool) : Cursor :=
  cursor.skip (cursor.rest.takeWhile kind).length

/-- Advances past a line break, if there is one. -/
def skipLine (cursor : Cursor) : Cursor :=
  match cursor.rest with
  | '\r' :: '\n' :: rest => ⟨⟨cursor.mark.index + 2, cursor.mark.line + 1, 0⟩, rest⟩
  | c :: rest =>
    if isBreak c then ⟨⟨cursor.mark.index + 1, cursor.mark.line + 1, 0⟩, rest⟩ else cursor
  | [] => cursor

/-- The character that a line break counts as in a scalar. -/
def breakText (cursor : Cursor) : List Char :=
  match cursor.rest with
  | c :: _ => if c = '\u2028' || c = '\u2029' then [c] else if isBreak c then ['\n'] else []
  | [] => []

/-- Whether a line begins here with `---` or `...`. -/
def isAtDocumentMark (cursor : Cursor) : Bool :=
  cursor.mark.column = 0 &&
    match cursor.rest with
    | '-' :: '-' :: '-' :: rest => isGap rest
    | '.' :: '.' :: '.' :: rest => isGap rest
    | _ => false

/-- Skipping never makes the rest longer. -/
theorem length_skip_le (cursor : Cursor) (count : Nat) :
    (cursor.skip count).rest.length ≤ cursor.rest.length := by
  simp [skip]

/-- Skipping a character makes the rest shorter. -/
theorem length_skip_lt {cursor : Cursor} {c : Char} {rest : List Char} {count : Nat}
    (found : cursor.rest = c :: rest) (positive : 0 < count) :
    (cursor.skip count).rest.length < cursor.rest.length := by
  -- The rest starts with `c`, and at least that much is dropped.
  simp only [skip, List.length_drop, found, List.length_cons]
  omega

/-- A line break takes at least one character. -/
theorem length_skipLine_lt {cursor : Cursor} {c : Char} {rest : List Char}
    (found : cursor.rest = c :: rest) (ends : isBreak c = true) :
    cursor.skipLine.rest.length < cursor.rest.length := by
  -- The first character is a line break, so that the case where nothing is skipped is left out.
  unfold skipLine
  split
  · -- `\r\n` is one line break.
    rename_i pair
    simp only [pair, List.length_cons]
    omega
  · -- A single character is `c`.
    rename_i single
    rw [found] at single
    obtain ⟨rfl, rfl⟩ := List.cons.inj single
    simp [ends, found]
  · -- The rest is not empty.
    rename_i none
    simp [found] at none

/-- Skipping a line break never makes the rest longer. -/
theorem length_skipLine_le (cursor : Cursor) :
    cursor.skipLine.rest.length ≤ cursor.rest.length := by
  -- The cases are those of `skipLine`: two characters, one or none are taken.
  unfold skipLine
  split
  · rename_i found
    rw [found]
    simp only [List.length_cons]
    omega
  · -- A character that is no line break is not skipped.
    rename_i found
    rw [found]
    split
    · simp
    · simp [found]
  · simp

end Cursor

end AccessProbe.Yaml
