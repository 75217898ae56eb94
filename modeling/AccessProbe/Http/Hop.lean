import AccessProbe.Http.Jar
import AccessProbe.Http.Message
import AccessProbe.Text.Base64
import AccessProbe.Url.Resolve

/-! The requests of a chain of redirects. -/

namespace AccessProbe

/-- A request of a chain of redirects, before the jar adds its cookies. -/
structure Hop where
  method : Method
  url : Url
  /-- The header fields that the requests of the chain have in common. -/
  fields : Headers
  body : List UInt8
  /-- The URL of the request before it in the chain. -/
  previous : Option Url
  deriving DecidableEq, Repr

namespace Hop

/-- The header fields that describe a body. -/
def contentFields : List String :=
  ["content-encoding", "content-length", "content-type", "transfer-encoding"]

/-- The header fields that no other server may see. -/
def privateFields : List String :=
  ["authorization", "cookie", "cookie2", "proxy-authorization", "www-authenticate"]

/-- Whether two URLs have the same host and port. -/
def sameServer (first second : Url) : Bool :=
  first.host = second.host && first.knownPort? = second.knownPort?

/-- The `host` field for a URL. -/
def hostField (url : Url) : String := (url.host.map Host.text).getD "" ++ url.portText

/-- The `referer` field after a redirect, which is left out on the way from https to http. -/
def referer? (previous url : Url) : Option String :=
  if previous.scheme = "https" && url.scheme ≠ "https" then none else some previous.withoutUser.text

/-- The header fields of a request that a redirect leads to. -/
def fieldsAfter (previous url : Url) (fields : Headers) : Headers :=
  -- The fields of the chain are kept, so that a later request to the first server has them all again.
  let shown := if sameServer previous url then fields else privateFields.foldl Headers.erase fields
  match referer? previous url with
  | some referer => shown.insert "referer" referer
  | none => shown

/-- The header fields of a request without the cookies of the jar. -/
def ownFields (hop : Hop) : Headers :=
  let shown := match hop.previous with
    | some previous => fieldsAfter previous hop.url hop.fields
    | none => hop.fields
  shown.withDefault "host" (hostField hop.url)

/-- Whether the last transfer coding is `chunked`. -/
def isChunked (coding : String) : Bool :=
  -- A value with characters beyond ASCII is not read as a list of codings.
  coding.toList.all (fun c => c = '\t' || (0x20 ≤ c.toNat && c.toNat < 0x7F))
    && (trimBlank ((coding.toList.reverse.takeWhile (· ≠ ',')).reverse)).map Char.toLower = "chunked".toList

/-- The header fields with a single description of the length of the body. -/
def framed (body : List UInt8) (fields : Headers) : Headers :=
  if body.isEmpty then fields.erase "transfer-encoding"
  else match fields.get? "transfer-encoding" with
    | none => fields
    | some coding =>
      -- A chunked body needs no length, and any other coding has to be followed by `chunked`.
      (fields.erase "content-length").insert "transfer-encoding"
        (if isChunked coding then coding else coding ++ ", chunked")

/-- The header fields of a request with the cookies of the jar. -/
def shownFields (hop : Hop) (jar : Jar) : Headers :=
  match jar.field? hop.url with
  -- A `cookie` field of the header file keeps the cookies of the jar out.
  | some cookies => hop.ownFields.withDefault "cookie" cookies
  | none => hop.ownFields

/-- The request as the server sees it. -/
def request (hop : Hop) (jar : Jar) : Request :=
  ⟨hop.method, hop.url.withoutUser, framed hop.body (hop.shownFields jar), hop.body⟩

/-- The status codes of redirects. -/
def redirectStatuses : List Nat := [301, 302, 303, 307, 308]

/-- The URL that a response redirects to. -/
def location? (url : Url) (response : Response) : Option Url :=
  if redirectStatuses.contains response.status then
    ((response.values "location").head?.bind fun text => (url.join text).toOption).filter fun url =>
      url.hostText?.isSome
  else none

/-- Whether a redirect turns a request into a GET request. -/
def dropsContent (status : Nat) (method : Method) : Bool :=
  status = 303 || ((status = 301 || status = 302) && method = .post)

/-- The request that a redirect leads to. -/
def redirected (hop : Hop) (status : Nat) (url : Url) : Hop :=
  if dropsContent status hop.method then
    ⟨.get, url, contentFields.foldl Headers.erase hop.fields, [], some hop.url⟩
  else { hop with url, previous := some hop.url }

end Hop

end AccessProbe
