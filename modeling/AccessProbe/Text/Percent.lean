import AccessProbe.Text.CodeRanges
import AccessProbe.Text.Utf8

/-! Percent-encoding. -/

namespace AccessProbe.Percent

/-- A hexadecimal digit in upper case. -/
def upperHexDigit (digit : Nat) : Char :=
  if digit < 10 then Char.ofNat (0x30 + digit) else Char.ofNat (0x41 + (digit - 10))

/-- The percent-encoding of a byte. -/
def escape (byte : UInt8) : List Char :=
  ['%', upperHexDigit (byte.toNat / 16), upperHexDigit (byte.toNat % 16)]

/-- A string with the characters of a set percent-encoded. -/
def encode (escaped : Char → Bool) (text : List Char) : List Char :=
  text.flatMap fun c => if escaped c then (String.utf8EncodeChar c).flatMap escape else [c]

/-- The bytes of a percent-encoded string. An incomplete escape stands for itself. -/
def decode : List UInt8 → List UInt8
  | [] => []
  | 0x25 :: high :: low :: rest =>
    match hexDigit? (Char.ofNat high.toNat), hexDigit? (Char.ofNat low.toNat) with
    | some first, some second => UInt8.ofNat (16 * first + second) :: decode rest
    -- A percent sign without two digits is kept.
    | _, _ => 0x25 :: decode (high :: low :: rest)
  | byte :: rest => byte :: decode rest
termination_by bytes => bytes.length

/-- The C0 control characters and everything beyond ASCII, with DEL. -/
def isControl (c : Char) : Bool := c.toNat < 0x20 || 0x7E < c.toNat

/-- The characters that are encoded in a fragment. -/
def inFragment (c : Char) : Bool := isControl c || " \"<>\x60".toList.contains c

/-- The characters that are encoded in a query. -/
def inQuery (c : Char) : Bool := isControl c || " \"#<>".toList.contains c

/-- The characters that are encoded in the query of an http or https URL. -/
def inWebQuery (c : Char) : Bool := inQuery c || c = '\''

/-- The characters that are encoded in a path. -/
def inPath (c : Char) : Bool := isControl c || " \"#<>?\x60\x7b\x7d".toList.contains c

/-- The characters that are encoded in a user name or password. -/
def inUserInfo (c : Char) : Bool := inPath c || "/:;=@[\\]^|".toList.contains c

end AccessProbe.Percent
