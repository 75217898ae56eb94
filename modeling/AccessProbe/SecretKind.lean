import AccessProbe.Endpoint
import AccessProbe.Text.Blank

/-! The kinds of secrets that a server stores. -/

namespace AccessProbe

/-- The kinds of secrets that a server stores. -/
inductive SecretKind where
  | loginWithPassword
  | creditCard
  | secretText
  | secretFile
  deriving DecidableEq, Repr

namespace SecretKind

/-- Every kind, in the order in which their aliases are compared. -/
def all : List SecretKind := [.loginWithPassword, .creditCard, .secretText, .secretFile]

/-- The debug name of a kind. -/
def name : SecretKind → String
  | .loginWithPassword => "LoginWithPassword"
  | .creditCard => "CreditCard"
  | .secretText => "SecretText"
  | .secretFile => "SecretFile"

/-- The name of a kind in log records. -/
def text : SecretKind → String
  | .loginWithPassword => "login with password"
  | .creditCard => "credit card"
  | .secretText => "secret text"
  | .secretFile => "secret file"

/-- The endpoint that lists the secrets of a kind. -/
def listPath : SecretKind → String
  | .loginWithPassword => "api/v1/private/loginwithpasswords"
  | .creditCard => "api/v1/private/creditcards"
  | .secretText => "api/v1/private/secrettexts"
  | .secretFile => "api/v1/private/secretfiles"

/-- The words that select a kind. -/
def aliases : SecretKind → List String
  | .loginWithPassword => ["l", "login", "password", "lp"]
  | .creditCard => ["c", "credit", "card", "cc", "creditcard"]
  | .secretText => ["t", "text", "secrettext"]
  | .secretFile => ["f", "file", "secretfile"]

/-- A word as it is compared: trimmed and in lower case. -/
def wanted (text : String) : String := String.ofList ((trimBlank text.toList).map Char.toLower)

/-- The kind that a word selects. -/
def ofText? (text : String) : Option SecretKind :=
  all.find? fun kind => kind.aliases.contains (wanted text)

/-- The message for a word that selects no kind, which repeats it as it was given. -/
def unknownMessage (text : String) : String := "Unknown type of secret: " ++ text

end SecretKind

/-- The endpoints that the token is tried on, in order. -/
def tokenPaths : List String :=
  [healthPath, SecretKind.loginWithPassword.listPath, SecretKind.creditCard.listPath]

/-- The endpoints that the verification calls, in order. -/
def privatePaths : List String := healthPath :: SecretKind.all.map SecretKind.listPath

end AccessProbe
