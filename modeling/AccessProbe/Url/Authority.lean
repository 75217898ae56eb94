import AccessProbe.Domain.Ascii
import AccessProbe.Text.Percent
import AccessProbe.Url.Basic
import AccessProbe.Url.Error

/-! The authority of a URL: user name, password, host and port. -/

namespace AccessProbe

/-- Parses an IPv6 address behind its opening bracket. -/
def Host.parseBrackets (inner : List Char) : Except Url.ParseError Host :=
  if inner.getLast? ≠ some ']' then .error .invalidIpv6
  else match Ipv6.parse? inner.dropLast with
    | some groups => .ok (.ipv6 groups)
    | none => .error .invalidIpv6

/-- Parses the host of a URL with a special scheme. -/
def Host.parse : List Char → Except Url.ParseError Host
  | '[' :: inner => Host.parseBrackets inner
  | text =>
    match (Utf8.decode? (Percent.decode (Utf8.encode text))).bind Domain.toAscii? with
    | none => .error .invalidDomain
    | some [] => .error .emptyHost
    | some name =>
      -- A host that ends in a number has to be an IPv4 address.
      if Ipv4.isNumeric name then
        match Ipv4.parse? name with
        | some address => .ok (.ipv4 address)
        | none => .error .invalidIpv4
      else .ok (.domain (String.ofList name))

/-- The characters that an opaque host must not contain. -/
def Host.isRefused (c : Char) : Bool := "\x00\t\n\r #/:<>?@[\\]^|".toList.contains c

/-- Parses the opaque host of a URL whose scheme is not special. -/
def Host.parsePlain : List Char → Except Url.ParseError Host
  | '[' :: inner => Host.parseBrackets inner
  | text =>
    if text.any Host.isRefused then .error .invalidDomainCharacter
    else .ok (.domain (String.ofList (Percent.encode Percent.isControl text)))

namespace Url

/-- Whether a character separates the segments of a path. -/
def isSlash (special : Bool) (c : Char) : Bool := c = '/' || (special && c = '\\')

/-- The authority of a URL. -/
structure Authority where
  /-- Empty if there is none. -/
  username : String
  password : Option String
  host : Host
  /-- The port, unless it is the default port of the scheme. -/
  port : Option Nat

/-- The parts of a string before and behind the last `@`. -/
def cutUser (text : List Char) : Option (List Char × List Char) :=
  let after := (text.reverse.takeWhile (· ≠ '@')).reverse
  if after.length < text.length then some (text.take (text.length - after.length - 1), after) else none

/-- User name and password. An empty password counts as none. -/
def readUser (text : List Char) : String × Option String :=
  let name := text.takeWhile (· ≠ ':')
  let secret := (text.dropWhile (· ≠ ':')).drop 1
  let escaped := fun piece => String.ofList (Percent.encode Percent.inUserInfo piece)
  (escaped name, if secret.isEmpty then none else some (escaped secret))

/-- Cuts a string behind its host: at a slash, or at a colon outside brackets. -/
def cutHost (special : Bool) : Bool → List Char → List Char × List Char
  | _, [] => ([], [])
  | bracketed, c :: rest =>
    if isSlash special c || (c = ':' && !bracketed) then ([], c :: rest)
    else
      let (host, after) := cutHost special (c = '[' || (bracketed && c ≠ ']')) rest
      (c :: host, after)

/-- Reads a port, with what stands behind it. -/
def readPort (scheme : String) : List Char → Except ParseError (Option Nat × List Char)
  | ':' :: rest =>
    let digits := rest.takeWhile Char.isDigit
    let after := rest.dropWhile Char.isDigit
    let number := digits.foldl (fun number c => 10 * number + (c.toNat - 0x30)) 0
    if 0x10000 ≤ number then .error .invalidPort
    -- A backslash ends the port for every scheme, although only some schemes have it in paths.
    else if !(after.head?.all (isSlash true)) then .error .invalidPort
    else if digits.isEmpty || defaultPort? scheme = some number then .ok (none, after)
    else .ok (some number, after)
  | rest => .ok (none, rest)

/--
Reads the authority behind `//`, with the path that stands behind it.

`followed` tells whether the URL has a query or a fragment.
-/
def Authority.read (scheme : String) (text : List Char) (followed : Bool) :
    Except ParseError (Authority × List Char) := do
  let special := isSpecial scheme
  let before := text.takeWhile (! isSlash special ·)
  let path := text.dropWhile (! isSlash special ·)
  let (user, server) := (cutUser before).getD ([], before)
  let named := (cutUser before).isSome
  -- An `@` without user and host is accepted only where nothing else follows.
  if named && user.isEmpty && server.isEmpty && (followed || !path.isEmpty) then throw .emptyHost
  let (username, password) := readUser user
  let (hostText, after) := cutHost special false (server ++ path)
  if special && hostText.isEmpty then throw .emptyHost
  let host ← if special then Host.parse hostText else Host.parsePlain hostText
  if host = .domain "" && after.head? = some ':' then throw .emptyHost
  let (port, after) ← readPort scheme after
  if host = .domain "" && (username ≠ "" || password.isSome) then throw .emptyHost
  return (⟨username, password, host, port⟩, after)

end Url

end AccessProbe
