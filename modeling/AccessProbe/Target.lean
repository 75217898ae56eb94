import AccessProbe.Url.Resolve

/-! The target: the URL of the server as a user may write it. -/

namespace AccessProbe

/-- The target that is used when none is given. -/
def defaultTarget : String := "http://localhost:8080"

/-- Why a string is refused as a target. -/
inductive TargetError where
  /-- It is no valid URL. -/
  | address (cause : Url.ParseError)
  /-- Its scheme is neither http nor https. -/
  | scheme
  /-- It has no host. -/
  | host
  deriving DecidableEq, Repr

def TargetError.message : TargetError → String
  | .address cause => cause.message
  | .scheme => "The given URL does not start with a scheme (http(s)://)"
  | .host => "The given URL does not seem to contain a hostname"

/-- Whether a string begins with a scheme and `://`. -/
def hasScheme (text : String) : Bool :=
  match text.toList.span Url.isSchemeChar with
  | (c :: _, ':' :: '/' :: '/' :: _) => c.isAlpha
  | _ => false

/-- Parses a target, where `http://` is added to a string without a scheme. -/
def Url.parseTarget (text : String) : Except Url.ParseError Url :=
  Url.parse (if hasScheme text then text else "http://" ++ text)

/-- Parses and checks a target. -/
def readTarget (text : String) : Except TargetError Url :=
  match Url.parseTarget text with
  | .error cause => .error (.address cause)
  | .ok url =>
    -- A URL such as `mailto:x` parses, and is refused here.
    if !url.isWeb then .error .scheme
    else if url.host.isNone then .error .host
    else .ok url

end AccessProbe
