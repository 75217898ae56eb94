import AccessProbe.Url.Authority
import AccessProbe.Url.Path
import AccessProbe.Url.Reference

/-! The resolution of references to URLs, by scheme. -/

namespace AccessProbe.Url

/-- The percent-encoded query. -/
def Reference.queryText (reference : Reference) (scheme : String) : Option String :=
  reference.query.map fun query =>
    String.ofList (Percent.encode (if isSpecial scheme then Percent.inWebQuery else Percent.inQuery) query)

/-- The percent-encoded fragment. -/
def Reference.fragmentText (reference : Reference) : Option String :=
  reference.fragment.map fun fragment => String.ofList (Percent.encode Percent.inFragment fragment)

/-- Whether there is a query or a fragment. -/
def Reference.isFollowed (reference : Reference) : Bool :=
  reference.query.isSome || reference.fragment.isSome

/-- Replaces query and fragment of a URL by those of a reference. -/
def withTail (url : Url) (reference : Reference) : Url :=
  { url with query := reference.queryText url.scheme, fragment := reference.fragmentText }

/-- The URL with the authority at the start of a string. -/
def ofAuthority (scheme : String) (text : List Char) (reference : Reference) :
    Except ParseError Url := do
  let (authority, path) ← Authority.read scheme text reference.isFollowed
  let url : Url := {
    scheme
    username := authority.username
    password := authority.password
    host := some authority.host
    port := authority.port
    path := .segments (pathAfterAuthority scheme path)
    query := none
    fragment := none }
  return url.withTail reference

/-- The number of slashes and backslashes at the start of a string. -/
def slashes (text : List Char) : Nat := (text.takeWhile (isSlash true)).length

/-- Resolves a reference without scheme against a base. -/
def ofRelative (base : Url) (reference : Reference) : Except ParseError Url :=
  let special := isSpecial base.scheme
  match reference.body with
  | [] =>
    match reference.query with
    | none => .ok { base with fragment := reference.fragmentText }
    | some _ => .ok (base.withTail reference)
  | c :: rest =>
    if isSlash true c then
      -- Two slashes begin an authority, one slash begins a path from the root.
      if 2 ≤ slashes (c :: rest) then
        match c, rest with
        | '/', '/' :: text => ofAuthority base.scheme text reference
        | _, _ => ofAuthority base.scheme ((c :: rest).dropWhile (isSlash true)) reference
      else
        .ok ({ base with path := .segments (walk false [] (partsOf special rest)) }.withTail reference)
    else
      -- Any other path replaces the last segment of the base.
      let path := Path.segments (walk false base.path.directory (partsOf special (c :: rest)))
      .ok ({ base with path }.withTail reference)

/-- A file URL. -/
def fileUrl (host : Host) (names : List String) : Url :=
  { scheme := "file", username := "", password := none, host := some host, port := none,
    path := .segments (withoutLeadingEmpty names), query := none, fragment := none }

/-- Whether a path begins with a drive letter. -/
def startsWithDrive (text : List Char) : Bool := isDrive ((partsOf true text).headD [])

/-- The file URL with the host at the start of a string. -/
def ofFileHost (text : List Char) : Except ParseError Url := do
  let hostText := text.takeWhile (! isSlash true ·)
  -- A drive letter is no host.
  if isDrive hostText then return fileUrl (.domain "") (walk true [] (partsOf true text))
  let named ← if hostText.isEmpty then pure (.domain "") else Host.parse hostText
  let parts := partsOf true ((text.dropWhile (! isSlash true ·)).drop 1)
  -- A local host, or one in front of a drive letter, is left out.
  let host := if named = .domain "localhost" || startsWithDrive (parts.headD []) then .domain "" else named
  return fileUrl host (walk true [] parts)

/-- Resolves a reference to a file URL, possibly against another one. -/
def ofFile (base : Option Url) (reference : Reference) : Except ParseError Url :=
  match reference.body, base with
  | [], none => .ok ((fileUrl (.domain "") [""]).withTail reference)
  | [], some base =>
    match reference.query with
    | none => .ok { base with fragment := reference.fragmentText }
    | some _ => .ok (base.withTail reference)
  | c :: rest, base =>
    if isSlash true c then
      if rest.head?.any (isSlash true) then do
        return (← ofFileHost (rest.drop 1)).withTail reference
      else
        let parts := partsOf true rest
        -- A path from the root keeps the drive of the base.
        let drive := (base.bind fun base =>
          match base.path with
          | .segments (first :: _) => if isNormalDrive first.toList then some first else none
          | _ => none).filter fun _ => !startsWithDrive rest
        let host := if startsWithDrive rest || drive.isSome then .domain ""
          else (base.bind (·.host)).getD (.domain "")
        .ok ((fileUrl host (walk true drive.toList parts)).withTail reference)
    else match base with
      | some base =>
        let parts := partsOf true (c :: rest)
        if startsWithDrive (c :: rest) then
          .ok ((fileUrl (.domain "") (walk true [] parts)).withTail reference)
        else
          .ok ((fileUrl (base.host.getD (.domain ""))
            (walk true base.path.directory parts)).withTail reference)
      | none => .ok ((fileUrl (.domain "") (walk true [] (partsOf true (c :: rest)))).withTail reference)

/-- The URL of a reference whose scheme is not special. -/
def ofPlain (scheme : String) (reference : Reference) : Except ParseError Url :=
  let url := fun path : Path =>
    ({ scheme, username := "", password := none, host := none, port := none, path,
       query := none, fragment := none : Url }).withTail reference
  match reference.body with
  | '/' :: '/' :: text => ofAuthority scheme text reference
  | '/' :: text => .ok (url (.segments (walk false [] (partsOf false text))))
  -- Without a slash the path is opaque.
  | text => .ok (url (.plain (String.ofList (Percent.encode Percent.isControl text))))

/-- The path of a string, opaque or not as the given one is. -/
def Path.respelled (scheme : String) (text : List Char) : Path → Path
  | .plain _ =>
    match text with
    | '/' :: rest => .plain (String.ofList ("%2F".toList ++ Percent.encode Percent.isControl rest))
    | text => .plain (String.ofList (Percent.encode Percent.isControl text))
  | .segments _ =>
    if scheme = "file" then
      let parts := partsOf true (if text.head?.any (isSlash true) then text.drop 1 else text)
      .segments (withoutLeadingEmpty (walk true [] parts))
    else .segments (pathAfterAuthority scheme text)

/-- Replaces the path of a URL. -/
def withPathText (url : Url) (text : List Char) : Url :=
  { url with path := url.path.respelled url.scheme (text.filter (! isSkipped ·)) }

/-- Resolves a reference, possibly against a base. -/
def resolve (base : Option Url) (reference : Reference) : Except ParseError Url :=
  match reference.scheme, base with
  | some "file", base => ofFile (base.filter (·.scheme = "file")) reference
  | some scheme, base =>
    if isSpecial scheme then
      match base.filter (·.scheme = scheme) with
      | some base =>
        -- A special scheme may be repeated in a reference that is relative all the same.
        if slashes reference.body < 2 then ofRelative base reference
        else ofAuthority scheme (reference.body.dropWhile (isSlash true)) reference
      | none => ofAuthority scheme (reference.body.dropWhile (isSlash true)) reference
    else ofPlain scheme reference
  | none, none => .error .relativeWithoutBase
  | none, some base =>
    if reference.body.isEmpty && reference.query.isNone && reference.fragment.isSome then
      .ok { base with fragment := reference.fragmentText }
    else match base.path with
      | .plain _ => .error .relativeWithPlainBase
      | .segments _ =>
        if base.scheme = "file" then ofFile (some base) reference else ofRelative base reference

/-- Parses an absolute URL. -/
def parse (text : String) : Except ParseError Url := resolve none (Reference.ofText text)

/-- Resolves a reference against a base. -/
def join (base : Url) (text : String) : Except ParseError Url :=
  resolve (some base) (Reference.ofText text)

end AccessProbe.Url
