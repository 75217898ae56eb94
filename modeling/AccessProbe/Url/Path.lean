import AccessProbe.Text.Percent
import AccessProbe.Url.Basic

/-! Paths and their dot segments. -/

namespace AccessProbe.Url

/-- Whether a segment is `.`, possibly percent-encoded. -/
def isSingleDot (part : List Char) : Bool :=
  part = ['.'] || part.map Char.toLower = "%2e".toList

/-- Whether a segment is `..`, possibly percent-encoded. -/
def isDoubleDot (part : List Char) : Bool :=
  ["..", ".%2e", "%2e.", "%2e%2e"].any (·.toList == part.map Char.toLower)

/-- Whether a segment is a drive letter. -/
def isDrive : List Char → Bool
  | [letter, mark] => letter.isAlpha && (mark = ':' || mark = '|')
  | _ => false

/-- Whether a segment is a drive letter with a colon. -/
def isNormalDrive : List Char → Bool
  | [letter, mark] => letter.isAlpha && mark = ':'
  | _ => false

/-- A segment percent-encoded. A drive letter at the start of a file path gets a colon. -/
def keptPart (file : Bool) (done : List String) (part : List Char) : String :=
  String.ofList (if file && done.isEmpty && isDrive part then part.take 1 ++ [':']
    else Percent.encode Percent.inPath part)

/-- The segments without the last one, unless that is the drive letter. -/
def shortened (done : List String) : List String :=
  if done.getLast?.any (isDrive ·.toList) then done else done.dropLast

/-- Appends segments to a path, resolving dot segments. -/
def walk (file : Bool) (done : List String) : List (List Char) → List String
  | [] => done
  | [last] =>
    -- A dot segment at the end leaves an empty segment, so that the path ends in a slash.
    if isDoubleDot last then shortened done ++ [""]
    else if isSingleDot last then done ++ [""]
    else done ++ [keptPart file done last]
  | part :: parts =>
    if isDoubleDot part then walk file (shortened done) parts
    else if isSingleDot part then walk file done parts
    else walk file (done ++ [keptPart file done part]) parts

/-- The segments of a string. -/
def partsOf (special : Bool) : List Char → List (List Char)
  | [] => [[]]
  | c :: rest =>
    -- A backslash separates segments in special schemes only.
    if c = '/' || (special && c = '\\') then [] :: partsOf special rest
    else match partsOf special rest with
      | [] => [[c]]
      | part :: parts => (c :: part) :: parts

/-- The segments of a file path without empty ones at its start. -/
def withoutLeadingEmpty (names : List String) : List String :=
  match names.dropWhile (· = "") with
  | [] => [""]
  | rest => rest

/-- The segments of a path behind an authority. -/
def pathAfterAuthority (scheme : String) (text : List Char) : List String :=
  let special := isSpecial scheme
  match text with
  | [] => if special then [""] else []
  | c :: rest =>
    walk false [] (partsOf special (if c = '/' || (special && c = '\\') then rest else text))

/-- The segments of a path without the last one. -/
def Path.directory : Path → List String
  | .segments names => names.dropLast
  | .plain _ => []

end AccessProbe.Url
