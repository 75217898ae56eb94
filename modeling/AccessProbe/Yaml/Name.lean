import AccessProbe.Text.CodeRanges
import AccessProbe.Text.Utf8
import AccessProbe.Yaml.Token

/-! Scanning anchors, aliases, tags and directives. -/

namespace AccessProbe.Yaml

/-- The characters of anchors, directives and tag handles. -/
def isWordChar (c : Char) : Bool := c.isAlphanum || c = '_' || c = '-'

/-- The word at the cursor. -/
def readWord (cursor : Cursor) : List Char × Cursor :=
  (cursor.rest.takeWhile isWordChar, cursor.skipWhile isWordChar)

/-- The name of an anchor or an alias behind its indicator. -/
def readName (activity : Activity) (cursor : Cursor) : Except SyntaxError (List Char × Cursor) :=
  let (name, behind) := readWord (cursor.skip 1)
  -- Behind a name there is a blank, a line end or one of these indicators.
  let ended := isGap behind.rest || behind.rest.head?.any "?:,]\x7d%@\x60".toList.contains
  if name.isEmpty || !ended then .error (.during activity cursor.mark .missingNameEnd behind.mark)
  else .ok (name, behind)

/-- The characters of a tag. -/
def isTagChar (verbatim : Bool) (c : Char) : Bool :=
  isWordChar c || ";/?:@&=+$.%!~*'()".toList.contains c || (verbatim && ",[]".toList.contains c)

/-- The number of bytes in the encoding of a character, by the first one. -/
def escapedWidth (lead : Nat) : Nat :=
  if lead < 0x80 then 1 else if lead < 0xC0 then 0 else if lead < 0xE0 then 2
  else if lead < 0xF0 then 3 else if lead < 0xF8 then 4 else 0

/-- The byte of a percent escape. -/
def escapedByte? : List Char → Option Nat
  | '%' :: high :: low :: _ =>
    match hexDigit? high, hexDigit? low with
    | some first, some second => some (16 * first + second)
    | _, _ => none
  | _ => none

/-- The bytes of an escaped character behind the first one. -/
def readTrailingEscapes (activity : Activity) (start : Mark) :
    Nat → Cursor → Except SyntaxError (List UInt8 × Cursor)
  | 0, cursor => .ok ([], cursor)
  | missing + 1, cursor =>
    match escapedByte? cursor.rest with
    | none => .error (.during activity start .missingTagEscape cursor.mark)
    | some byte =>
      -- A trailing byte begins with the bits 10.
      if byte / 0x40 ≠ 2 then .error (.during activity start .badTagTrailingOctet cursor.mark)
      else do
        let (bytes, cursor) ← readTrailingEscapes activity start missing (cursor.skip 3)
        return (UInt8.ofNat byte :: bytes, cursor)

/-- The bytes of an escaped character. -/
def readEscapes (activity : Activity) (start : Mark) (cursor : Cursor) :
    Except SyntaxError (List UInt8 × Cursor) :=
  match escapedByte? cursor.rest with
  | none => .error (.during activity start .missingTagEscape cursor.mark)
  | some byte =>
    let width := escapedWidth byte
    if width = 0 then .error (.during activity start .badTagLeadingOctet cursor.mark)
    else do
      let (bytes, cursor) ← readTrailingEscapes activity start (width - 1) (cursor.skip 3)
      return (UInt8.ofNat byte :: bytes, cursor)

/-- The characters of a tag, within a number of steps. -/
def readTagChars (activity : Activity) (verbatim : Bool) (start : Mark) :
    Nat → Cursor → Except SyntaxError (List Char × Cursor)
  | 0, cursor => .ok ([], cursor)
  | steps + 1, cursor =>
    match cursor.rest with
    | [] => .ok ([], cursor)
    | c :: _ =>
      if c = '%' then do
        let (bytes, cursor) ← readEscapes activity start cursor
        let (text, cursor) ← readTagChars activity verbatim start steps cursor
        return (Utf8.decodeLossy bytes ++ text, cursor)
      else if isTagChar verbatim c then do
        let (text, cursor) ← readTagChars activity verbatim start steps (cursor.skip 1)
        return (c :: text, cursor)
      else .ok ([], cursor)

/-- The rest of a tag behind its handle. Both together may not be empty. -/
def readTagRest (directive verbatim : Bool) (head : List Char) (start : Mark) (cursor : Cursor) :
    Except SyntaxError (List Char × Cursor) := do
  let activity := if directive then .parsingTagDirective else .parsingTag
  let (text, behind) ← readTagChars activity verbatim start cursor.rest.length cursor
  if head.isEmpty && behind.mark.index = cursor.mark.index then
    throw (.during activity start .missingTagUri behind.mark)
  return (head.drop 1 ++ text, behind)

/-- The handle of a tag. -/
def readHandle (directive : Bool) (start : Mark) (cursor : Cursor) :
    Except SyntaxError (List Char × Cursor) :=
  if cursor.rest.head? ≠ some '!' then
    .error (.during (if directive then .scanningTagDirective else .scanningTag) start .missingTagBang cursor.mark)
  else
    let (word, behind) := readWord (cursor.skip 1)
    if behind.rest.head? = some '!' then .ok ('!' :: word ++ ['!'], behind.skip 1)
    -- Only a tag may leave out the second `!`.
    else if directive && !word.isEmpty then
      .error (.during .parsingTagDirective start .missingTagBang behind.mark)
    else .ok ('!' :: word, behind)

/-- A tag with a handle. -/
def readShortTag (start : Mark) (cursor : Cursor) :
    Except SyntaxError ((List Char × List Char) × Cursor) := do
  let (handle, behind) ← readHandle false start cursor
  -- A handle ends with a second `!`. Without one the word is the suffix.
  if 1 < handle.length && handle.getLast? = some '!' then
    let (suffix, behind) ← readTagRest false false [] start behind
    return ((handle, suffix), behind)
  let (suffix, behind) ← readTagRest false false handle start behind
  -- `!` alone is the non-specific tag.
  return (if suffix.isEmpty then ([], ['!']) else (['!'], suffix), behind)

/-- The tag at the cursor. -/
def readTag (inFlow : Bool) (cursor : Cursor) : Except SyntaxError (Token × Cursor) := do
  let start := cursor.mark
  let ((handle, suffix), behind) ←
    -- `!<...>` is a verbatim tag, whose handle is empty.
    if (cursor.rest.drop 1).head? = some '<' then do
      let (suffix, behind) ← readTagRest false true [] start (cursor.skip 2)
      if behind.rest.head? ≠ some '>' then throw (.during .scanningTag start .missingTagBracket behind.mark)
      pure (([], suffix), behind.skip 1)
    else readShortTag start cursor
  if !isGap behind.rest && !(inFlow && behind.rest.head? = some ',') then
    throw (.during .scanningTag start .missingTagLineBreak behind.mark)
  return (⟨.tag handle suffix, start, behind.mark⟩, behind)

/-- A number of the version. -/
def readVersionNumber (start : Mark) (cursor : Cursor) : Except SyntaxError (Nat × Cursor) :=
  let digits := cursor.rest.takeWhile Char.isDigit
  if digits.isEmpty then .error (.during .scanningVersion start .missingVersionNumber cursor.mark)
  -- Nine digits are the most that a version number may have.
  else if 9 < digits.length then
    .error (.during .scanningVersion start .longVersionNumber (cursor.skip 9).mark)
  else .ok (digits.foldl (fun number c => 10 * number + (c.toNat - 0x30)) 0, cursor.skip digits.length)

/-- The version in a `%YAML` directive. -/
def readVersion (start : Mark) (cursor : Cursor) : Except SyntaxError (TokenKind × Cursor) := do
  let (major, behind) ← readVersionNumber start (cursor.skipWhile isSpace)
  if behind.rest.head? ≠ some '.' then throw (.during .scanningVersion start .missingVersionDot behind.mark)
  let (minor, behind) ← readVersionNumber start (behind.skip 1)
  return (.version major minor, behind)

/-- The handle and the expansion in a `%TAG` directive. -/
def readTagDirective (start : Mark) (cursor : Cursor) : Except SyntaxError (TokenKind × Cursor) := do
  let (handle, behind) ← readHandle true start (cursor.skipWhile isSpace)
  if !behind.rest.head?.any isSpace then
    throw (.during .scanningTagDirective start .missingTagSpace behind.mark)
  let (beginning, behind) ← readTagRest true true [] start (behind.skipWhile isSpace)
  if !isGap behind.rest then throw (.during .scanningTagDirective start .missingTagLineBreak behind.mark)
  return (.tagDirective handle beginning, behind)

def isWithinLine (c : Char) : Bool := !isBreak c

/-- Skips blanks and a comment. -/
def skipComment (cursor : Cursor) : Cursor :=
  let behind := cursor.skipWhile isSpace
  if behind.rest.head? = some '#' then behind.skipWhile isWithinLine else behind

/-- The directive at the cursor. -/
def readDirective (cursor : Cursor) : Except SyntaxError (Token × Cursor) := do
  let start := cursor.mark
  let (name, behind) := readWord (cursor.skip 1)
  if name.isEmpty then throw (.during .scanningDirective start .missingDirectiveName behind.mark)
  if !isGap behind.rest then throw (.during .scanningDirective start .nonAlphabeticDirective behind.mark)
  let (kind, behind) ←
    if name = "YAML".toList then readVersion start behind
    else if name = "TAG".toList then readTagDirective start behind
    else throw (.during .scanningDirective start .unknownDirective behind.mark)
  -- A comment may follow, but nothing else.
  let stop := behind.mark
  let behind := skipComment behind
  if !isLineEnd behind.rest then throw (.during .scanningDirective start .missingLineBreak behind.mark)
  return (⟨kind, start, stop⟩, behind.skipLine)

end AccessProbe.Yaml
