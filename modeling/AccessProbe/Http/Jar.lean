import AccessProbe.Http.Cookie
import AccessProbe.Url.Basic

/-! The cookie jar: the cookies that are stored, and the URLs that each is sent to. -/

namespace AccessProbe

/-- A cookie in the jar. -/
structure StoredCookie where
  /-- The host or domain that it is sent to. -/
  domain : String
  /-- Whether it is sent to subdomains too. -/
  shared : Bool
  /-- The path below which it is sent. -/
  path : String
  name : String
  value : String
  /-- Whether it is sent over https only. -/
  secure : Bool
  deriving DecidableEq, Repr

/-- The order in which a hash map yields its cookies, which may differ from run to run. -/
structure CookieOrder where
  /-- The cookies in the order of the map, given in the order in which they were stored. -/
  apply : List StoredCookie → List StoredCookie
  /-- No cookie is lost or repeated. -/
  perm : ∀ cookies, (apply cookies).Perm cookies

/-- The order in which cookies were stored. -/
def CookieOrder.asKept : CookieOrder := ⟨id, fun _ => .refl _⟩

/-- A cookie jar. -/
structure Jar where
  /-- The cookies in the order in which they were stored. -/
  cookies : List StoredCookie
  /-- The time in seconds since the start of 1970. -/
  now : Int
  /-- The order in which they are sent. -/
  order : CookieOrder

namespace Jar

/-- An empty jar. -/
def empty (now : Int) (order : CookieOrder) : Jar := ⟨[], now, order⟩

/-- The default path of a cookie: the path of the request up to its last slash. -/
def directory (path : List Char) : List Char :=
  let before := (path.reverse.dropWhile (· ≠ '/')).drop 1
  if before.isEmpty then ['/'] else before.reverse

/-- Whether a path matches the path of a cookie, which ends at a slash. -/
def isBelow (path base : List Char) : Bool :=
  base.isPrefixOf path
    && (path.length = base.length || base.getLast? = some '/' || (path.drop base.length).head? = some '/')

/-- Whether a host is a domain or one of its subdomains. -/
def isWithin (host : Host) (domain : String) : Bool :=
  match host with
  | .domain name => name = domain || ('.' :: domain.toList).isSuffixOf name.toList
  -- An IP address has no subdomains.
  | host => host.text = domain

/-- Whether a host is the local machine. -/
def isLocal : Host → Bool
  | .domain name => name = "localhost"
  | .ipv4 address => address / 0x1000000 = 127
  | .ipv6 groups => groups = [0, 0, 0, 0, 0, 0, 0, 1]

/-- Whether a cookie has expired when it is set. -/
def isOver (now : Int) (cookie : Cookie) : Bool :=
  match cookie.maxAge, cookie.expires with
  -- `max-age` counts before `expires`.
  | some age, _ => age = 0
  | none, some time => time ≤ now
  | none, none => false

/-- Whether two cookies replace each other. -/
def samePlace (first second : StoredCookie) : Bool :=
  first.domain = second.domain && first.path = second.path && first.name = second.name

/-- The form in which a cookie of a response is stored, unless its domain is not that of the URL. -/
def stored? (url : Url) (cookie : Cookie) : Option StoredCookie := do
  let host ← url.host
  let (domain, shared) ← match cookie.domain with
    | none => some (host.text, false)
    | some domain => if isWithin host domain then some (domain, true) else none
  let path := match cookie.path.map String.toList with
    | some ('/' :: rest) => '/' :: rest
    | _ => directory url.pathText.toList
  return ⟨domain, shared, String.ofList path, cookie.name, cookie.value, cookie.secure⟩

/-- Stores a cookie of a response, in place of an older one with the same name, domain and path. -/
def insert (url : Url) (jar : Jar) (cookie : Cookie) : Jar :=
  match stored? url cookie with
  | none => jar
  | some stored =>
    let others := jar.cookies.filter (! samePlace stored ·)
    -- A cookie that has expired removes the older one.
    if isOver jar.now cookie then { jar with cookies := others }
    else { jar with cookies := others ++ [stored] }

/-- Stores the cookies of a response. -/
def insertAll (jar : Jar) (url : Url) (fields : List String) : Jar :=
  (fields.filterMap Cookie.parse?).foldl (insert url) jar

/-- Whether a cookie is sent to a URL. -/
def isFor (url : Url) (cookie : StoredCookie) : Bool :=
  match url.host with
  | none => false
  | some host =>
    (if cookie.shared then isWithin host cookie.domain else host.text = cookie.domain)
      && isBelow url.pathText.toList cookie.path.toList
      && (!cookie.secure || url.scheme = "https" || isLocal host)

/-- The `cookie` field for a URL, if the jar has cookies for it. -/
def field? (jar : Jar) (url : Url) : Option String :=
  match (jar.order.apply jar.cookies).filter (isFor url) with
  | [] => none
  | cookies => some (String.intercalate "; " (cookies.map fun cookie => cookie.name ++ "=" ++ cookie.value))

end Jar

end AccessProbe
