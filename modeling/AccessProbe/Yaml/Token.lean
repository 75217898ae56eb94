import AccessProbe.Yaml.SyntaxError

/-! The tokens of the scanner. -/

namespace AccessProbe.Yaml

/-- The styles of scalars. -/
inductive ScalarStyle where
  | plain
  | singleQuoted
  | doubleQuoted
  | literal
  | folded
  deriving DecidableEq, Repr

/-- The kinds of tokens. -/
inductive TokenKind where
  | streamStart
  | streamEnd
  /-- The directive `%YAML`. -/
  | version (major minor : Nat)
  /-- The directive `%TAG`. -/
  | tagDirective (handle beginning : List Char)
  /-- The marker `---`. -/
  | documentStart
  /-- The marker `...`. -/
  | documentEnd
  /-- The indentation of a block sequence. -/
  | blockSequenceStart
  /-- The indentation of a block mapping. -/
  | blockMappingStart
  /-- The end of an indentation. -/
  | blockEnd
  /-- An opening bracket. -/
  | flowSequenceStart
  /-- A closing bracket. -/
  | flowSequenceEnd
  | flowMappingStart
  | flowMappingEnd
  /-- The dash of an entry. -/
  | blockEntry
  /-- A comma. -/
  | flowEntry
  /-- The start of a key, which may have no indicator. -/
  | key
  /-- The colon before a value. -/
  | value
  | alias (name : List Char)
  | anchor (name : List Char)
  | tag (handle suffix : List Char)
  | scalar (text : List Char) (style : ScalarStyle)
  deriving DecidableEq, Repr

/-- A token with its extent. -/
structure Token where
  kind : TokenKind
  start : Mark
  stop : Mark
  deriving DecidableEq, Repr

end AccessProbe.Yaml
