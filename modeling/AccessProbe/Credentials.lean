import AccessProbe.Configuration
import AccessProbe.Text.Base64
import AccessProbe.Text.Utf8

/-! The credentials of a user, as a token and as JSON. -/

namespace AccessProbe

/-- Login and password of a user. -/
structure Credentials where
  login : String
  password : String
  deriving DecidableEq, Repr

/-- The credentials in a configuration. -/
def Configuration.credentials (config : Configuration) : Credentials := ⟨config.login, config.password⟩

/-- The name of the token header, as it is shown to the user. -/
def tokenHeader : String := "X-Cenarius-Token"

/-- The token of a user: base64 of login and password with a space between them. -/
def Credentials.token (credentials : Credentials) : String :=
  String.ofList (Base64.encode (Utf8.encode
    (credentials.login.toList ++ ' ' :: credentials.password.toList)))

/-- A hexadecimal digit in lower case. -/
def lowerHexDigit (digit : Nat) : Char :=
  if digit < 10 then Char.ofNat (0x30 + digit) else Char.ofNat (0x61 + (digit - 10))

/-- A character within a JSON string. -/
def Json.escape (c : Char) : List Char :=
  match c with
  | '"' => ['\\', '"']
  | '\\' => ['\\', '\\']
  | '\x08' => ['\\', 'b']
  | '\x0c' => ['\\', 'f']
  | '\n' => ['\\', 'n']
  | '\r' => ['\\', 'r']
  | '\t' => ['\\', 't']
  | c =>
    -- Other control characters have no short escape. Everything from the space on stands for itself.
    if c.toNat < 0x20 then
      ['\\', 'u', '0', '0', lowerHexDigit (c.toNat / 16), lowerHexDigit (c.toNat % 16)]
    else [c]

/-- A string literal of JSON. -/
def Json.string (text : String) : List Char := '"' :: text.toList.flatMap Json.escape ++ ['"']

/-- The credentials as a JSON object. -/
def Credentials.json (credentials : Credentials) : List Char :=
  "\x7b\"login\":".toList ++ Json.string credentials.login ++ ",\"password\":".toList
    ++ Json.string credentials.password ++ "\x7d".toList

end AccessProbe
