import AccessProbe.Url.Ipv6

/-! URLs and their components. -/

namespace AccessProbe

/-- The host of a URL. -/
inductive Host where
  /-- A domain name in its ASCII form. -/
  | domain (name : String)
  /-- An IPv4 address. -/
  | ipv4 (address : Nat)
  /-- An IPv6 address, as eight groups of 16 bits. -/
  | ipv6 (groups : List Nat)
  deriving DecidableEq, Repr

/-- The serialisation of a host. -/
def Host.text : Host → String
  | .domain name => name
  | .ipv4 address => String.ofList (Ipv4.render address)
  | .ipv6 groups => String.ofList ('[' :: Ipv6.render groups ++ [']'])

/-- The path of a URL. -/
inductive Url.Path where
  /-- Segments, each with a slash before it. -/
  | segments (names : List String)
  /-- An opaque path. -/
  | plain (text : String)
  deriving DecidableEq, Repr

/-- A URL, with every component percent-encoded. -/
structure Url where
  /-- In lower case, without the colon. -/
  scheme : String
  /-- Empty if there is none. -/
  username : String
  password : Option String
  /-- The host, which is an empty domain if only the slashes for it are there. -/
  host : Option Host
  /-- The port, unless it is the default port of the scheme. -/
  port : Option Nat
  path : Url.Path
  /-- Without the question mark. -/
  query : Option String
  /-- Without the number sign. -/
  fragment : Option String
  deriving DecidableEq, Repr

namespace Url

/-- The default port of a scheme. -/
def defaultPort? (scheme : String) : Option Nat :=
  if scheme = "http" ∨ scheme = "ws" then some 80
  else if scheme = "https" ∨ scheme = "wss" then some 443
  else if scheme = "ftp" then some 21
  else none

/-- Whether the scheme is http or https. -/
def isWeb (url : Url) : Bool := url.scheme = "http" || url.scheme = "https"

/-- The special schemes, whose URLs always have a host and a path. -/
def isSpecial (scheme : String) : Bool := scheme = "file" || (defaultPort? scheme).isSome

/-- The serialisation of a path. -/
def Path.text : Path → String
  | .segments names => String.join (names.map ("/" ++ ·))
  | .plain text => text

/-- The characters of a serialised path. -/
def Path.letters : Path → List Char
  | .segments names => names.flatMap fun name => '/' :: name.toList
  | .plain text => text.toList

/-- The serialised path of a URL. -/
def pathText (url : Url) : String := url.path.text

/-- The serialised host of a URL, unless it is missing or empty. -/
def hostText? (url : Url) : Option String :=
  match url.host with
  -- An empty host is written like a missing one.
  | none | some (.domain "") => none
  | some host => some host.text

/-- User name and password with the `@` behind them. -/
def userInfoText (url : Url) : String :=
  match url.password with
  | some password => url.username ++ ":" ++ password ++ "@"
  -- Without a password there is no colon.
  | none => if url.username = "" then "" else url.username ++ "@"

/-- The port with the colon before it. -/
def portText (url : Url) : String :=
  match url.port with
  | some port => ":" ++ toString port
  | none => ""

/-- The part of a URL between scheme and path. -/
def authorityText (url : Url) : String :=
  match url.host, url.path with
  | some host, _ => "//" ++ url.userInfoText ++ host.text ++ url.portText
  -- Without a host, two slashes at the start of the path would be read as the start of an authority.
  | none, .segments ("" :: _ :: _) => "/."
  | none, _ => ""

/-- An optional component with its delimiter. -/
def markedText (mark : String) : Option String → String
  | some piece => mark ++ piece
  | none => ""

/-- The serialisation of a URL. -/
def text (url : Url) : String :=
  url.scheme ++ ":" ++ url.authorityText ++ url.pathText
    ++ markedText "?" url.query ++ markedText "#" url.fragment

/-- A URL as it may be sent or shown: without user name, password and fragment. -/
def withoutUser (url : Url) : Url :=
  { url with username := "", password := none, fragment := none }

/-- The port of a URL or of its scheme. -/
def knownPort? (url : Url) : Option Nat := url.port.orElse fun _ => defaultPort? url.scheme

end Url

end AccessProbe
