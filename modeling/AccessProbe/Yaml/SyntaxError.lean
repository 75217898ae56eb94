import AccessProbe.Yaml.Mark

/-! The errors of scanner and parser. -/

namespace AccessProbe.Yaml

/-- The problems that scanner and parser report. -/
inductive Problem where
  | invalidLeadingOctet | invalidTrailingOctet | incompleteSequence | invalidSequenceLength
  | invalidCharacter | controlCharacter
  | cannotStartToken | blockEntryNotAllowed | keyNotAllowed | valueNotAllowed | missingColon
  | unknownDirective | missingDirectiveName | nonAlphabeticDirective | missingVersionNumber
  | missingVersionDot | longVersionNumber | missingTagBang | missingTagSpace | missingTagLineBreak
  | missingTagUri | missingTagEscape | badTagLeadingOctet | badTagTrailingOctet | missingTagBracket
  | missingNameEnd | missingLineBreak | zeroIndentation | tabInIndentation | tabAgainstIndentation
  | documentMarkInside | unexpectedEnd | unknownEscape | missingHexDigit | invalidEscapeCode
  | unexpectedColon
  | missingStreamStart | missingDocumentStart | missingNodeContent | undefinedTagHandle | missingDash
  | missingKey | missingSequenceComma | missingMappingComma | duplicateVersion | incompatibleVersion
  | duplicateTagHandle
  deriving DecidableEq, Repr

def Problem.message : Problem → String
  | .invalidLeadingOctet => "invalid leading UTF-8 octet"
  | .invalidTrailingOctet => "invalid trailing UTF-8 octet"
  | .incompleteSequence => "incomplete UTF-8 octet sequence"
  | .invalidSequenceLength => "invalid length of a UTF-8 sequence"
  | .invalidCharacter => "invalid Unicode character"
  | .controlCharacter => "control characters are not allowed"
  | .cannotStartToken => "found character that cannot start any token"
  | .blockEntryNotAllowed => "block sequence entries are not allowed in this context"
  | .keyNotAllowed => "mapping keys are not allowed in this context"
  | .valueNotAllowed => "mapping values are not allowed in this context"
  | .missingColon => "could not find expected ':'"
  | .unknownDirective => "found unknown directive name"
  | .missingDirectiveName => "could not find expected directive name"
  | .nonAlphabeticDirective => "found unexpected non-alphabetical character"
  | .missingVersionNumber => "did not find expected version number"
  | .missingVersionDot => "did not find expected digit or '.' character"
  | .longVersionNumber => "found extremely long version number"
  | .missingTagBang => "did not find expected '!'"
  | .missingTagSpace => "did not find expected whitespace"
  | .missingTagLineBreak => "did not find expected whitespace or line break"
  | .missingTagUri => "did not find expected tag URI"
  | .missingTagEscape => "did not find URI escaped octet"
  | .badTagLeadingOctet => "found an incorrect leading UTF-8 octet"
  | .badTagTrailingOctet => "found an incorrect trailing UTF-8 octet"
  | .missingTagBracket => "did not find the expected '>'"
  | .missingNameEnd => "did not find expected alphabetic or numeric character"
  | .missingLineBreak => "did not find expected comment or line break"
  | .zeroIndentation => "found an indentation indicator equal to 0"
  | .tabInIndentation => "found a tab character where an indentation space is expected"
  | .tabAgainstIndentation => "found a tab character that violates indentation"
  | .documentMarkInside => "found unexpected document indicator"
  | .unexpectedEnd => "found unexpected end of stream"
  | .unknownEscape => "found unknown escape character"
  | .missingHexDigit => "did not find expected hexdecimal number"
  | .invalidEscapeCode => "found invalid Unicode character escape code"
  | .unexpectedColon => "found unexpected ':'"
  | .missingStreamStart => "did not find expected <stream-start>"
  | .missingDocumentStart => "did not find expected <document start>"
  | .missingNodeContent => "did not find expected node content"
  | .undefinedTagHandle => "found undefined tag handle"
  | .missingDash => "did not find expected '-' indicator"
  | .missingKey => "did not find expected key"
  | .missingSequenceComma => "did not find expected ',' or ']'"
  | .missingMappingComma => "did not find expected ',' or '\x7d'"
  | .duplicateVersion => "found duplicate %YAML directive"
  | .incompatibleVersion => "found incompatible YAML document"
  | .duplicateTagHandle => "found duplicate %TAG directive"

/-- What is being read when a problem turns up. -/
inductive Activity where
  | scanningToken | scanningSimpleKey | scanningDirective | scanningVersion | scanningTagDirective
  | parsingTagDirective | parsingTag | scanningTag | scanningAnchor | scanningAlias
  | scanningBlockScalar | scanningQuoted | parsingQuoted | scanningPlain
  | parsingNode | parsingBlockNode | parsingFlowNode | parsingBlockCollection | parsingBlockMapping
  | parsingFlowSequence | parsingFlowMapping
  deriving DecidableEq, Repr

def Activity.message : Activity → String
  | .scanningToken => "while scanning for the next token"
  | .scanningSimpleKey => "while scanning a simple key"
  | .scanningDirective => "while scanning a directive"
  | .scanningVersion => "while scanning a %YAML directive"
  | .scanningTagDirective => "while scanning a %TAG directive"
  | .parsingTagDirective => "while parsing a %TAG directive"
  | .parsingTag => "while parsing a tag"
  | .scanningTag => "while scanning a tag"
  | .scanningAnchor => "while scanning an anchor"
  | .scanningAlias => "while scanning an alias"
  | .scanningBlockScalar => "while scanning a block scalar"
  | .scanningQuoted => "while scanning a quoted scalar"
  | .parsingQuoted => "while parsing a quoted scalar"
  | .scanningPlain => "while scanning a plain scalar"
  | .parsingNode => "while parsing a node"
  | .parsingBlockNode => "while parsing a block node"
  | .parsingFlowNode => "while parsing a flow node"
  | .parsingBlockCollection => "while parsing a block collection"
  | .parsingBlockMapping => "while parsing a block mapping"
  | .parsingFlowSequence => "while parsing a flow sequence"
  | .parsingFlowMapping => "while parsing a flow mapping"

/-- A problem with its position and context. -/
structure SyntaxError where
  problem : Problem
  mark : Mark
  /-- The offset of a problem with the encoding, in bytes. -/
  offset : Nat
  /-- What was being read, and where that began. -/
  context : Option (Activity × Mark)
  deriving DecidableEq, Repr

/-- A problem without context. -/
def SyntaxError.at (problem : Problem) (mark : Mark) : SyntaxError := ⟨problem, mark, 0, none⟩

/-- A problem with its context. -/
def SyntaxError.during (activity : Activity) (start : Mark) (problem : Problem) (mark : Mark) :
    SyntaxError :=
  ⟨problem, mark, 0, some (activity, start)⟩

/-- A problem with the encoding. -/
def SyntaxError.atByte (problem : Problem) (offset : Nat) : SyntaxError :=
  ⟨problem, Mark.start, offset, none⟩

/-- The position in a message. That of the first character is left out. -/
def SyntaxError.place (error : SyntaxError) : String :=
  if !error.mark.isFirst then " at " ++ error.mark.text
  else if error.offset ≠ 0 then " at position " ++ toString error.offset
  else ""

/-- The context in a message, with its position if that differs from the position of the problem. -/
def SyntaxError.contextText (error : SyntaxError) : String :=
  match error.context with
  | none => ""
  | some (activity, start) =>
    let samePlace := start.line = error.mark.line ∧ start.column = error.mark.column
    ", " ++ activity.message ++ if !start.isFirst ∧ ¬samePlace then " at " ++ start.text else ""

def SyntaxError.message (error : SyntaxError) : String :=
  error.problem.message ++ error.place ++ error.contextText

end AccessProbe.Yaml
