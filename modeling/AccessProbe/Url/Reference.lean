/-! URL references, split into their components. -/

namespace AccessProbe.Url

/-- The parts of a string before and behind the first occurrence of a character. -/
def splitAtFirst (mark : Char) : List Char → List Char × Option (List Char)
  | [] => ([], none)
  | c :: rest =>
    if c = mark then ([], some rest)
    else
      let (before, after) := splitAtFirst mark rest
      (c :: before, after)

/-- An absolute or relative reference. -/
structure Reference where
  /-- The scheme in lower case, unless the reference is relative. -/
  scheme : Option String
  /-- Everything between scheme and query. -/
  body : List Char
  query : Option (List Char)
  fragment : Option (List Char)

/-- The characters of a scheme. -/
def isSchemeChar (c : Char) : Bool := c.isAlphanum || c = '+' || c = '-' || c = '.'

/-- The scheme at the start of a string, with what stands behind its colon. -/
def cutScheme (text : List Char) : Option (List Char × List Char) :=
  match text.span isSchemeChar with
  | (c :: rest, ':' :: after) => if c.isAlpha then some (c :: rest, after) else none
  | _ => none

/-- The characters that are trimmed from the ends: control characters and spaces. -/
def isPadding (c : Char) : Bool := c.toNat ≤ 0x20

/-- The characters that are removed everywhere: tabs and line ends. -/
def isSkipped (c : Char) : Bool := c = '\t' || c = '\n' || c = '\r'

/-- A string without the characters that do not count. -/
def stripped (text : List Char) : List Char :=
  (((text.dropWhile isPadding).reverse.dropWhile isPadding).reverse).filter (! isSkipped ·)

/-- Splits a string into the components of a reference. -/
def Reference.ofText (text : String) : Reference :=
  -- The fragment is cut off first, since it may contain all other delimiters.
  let (address, fragment) := splitAtFirst '#' (stripped text.toList)
  match cutScheme address with
  | some (scheme, rest) =>
    let (body, query) := splitAtFirst '?' rest
    ⟨some (String.ofList (scheme.map Char.toLower)), body, query, fragment⟩
  | none =>
    let (body, query) := splitAtFirst '?' address
    ⟨none, body, query, fragment⟩

end AccessProbe.Url
