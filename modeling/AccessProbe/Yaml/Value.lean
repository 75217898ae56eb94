import AccessProbe.Decimal.Integer
import AccessProbe.Decimal.Shortest
import AccessProbe.Text.Quoted
import AccessProbe.Yaml.Document

/-! The core schema of scalars, and the messages about values of the wrong type. -/

namespace AccessProbe.Yaml

open Decimal

/-- Whether a plain scalar is null. -/
def isNull (text : List Char) : Bool := ["~", "null", "Null", "NULL"].any (·.toList == text)

/-- The boolean of a plain scalar. -/
def boolean? (text : List Char) : Option Bool :=
  if ["true", "True", "TRUE"].any (·.toList == text) then some true
  else if ["false", "False", "FALSE"].any (·.toList == text) then some false
  else none

/-- Whether a scalar is no number because of a leading zero. -/
def isDigitString (text : List Char) : Bool :=
  let digits := match text with
    | '-' :: rest | '+' :: rest => rest
    | _ => text
  1 < digits.length && digits.head? = some '0' && digits.all Char.isDigit

/-- The base of a number by its first characters, and the digits. -/
def based : List Char → Option (Nat × List Char)
  | '0' :: 'x' :: digits => some (16, digits)
  | '0' :: 'o' :: digits => some (8, digits)
  | '0' :: 'b' :: digits => some (2, digits)
  | _ => none

/-- The number below a bound that digits spell. -/
def below? (bound base : Nat) (digits : List Char) : Option Nat :=
  (digitsIn? base digits).filter (· < bound)

/-- The natural number of a scalar, below a bound. -/
def unsigned? (bound : Nat) (text : List Char) : Option Nat :=
  let digits := dropSign '+' text
  match (based digits).bind fun (base, digits) => below? bound base digits with
  | some number => some number
  | none => if isDigitString text then none else below? bound 10 digits

/-- The absolute value of the negative number of a scalar, up to a bound. -/
def negative? (bound : Nat) (text : List Char) : Option Nat :=
  match text with
  | '-' :: digits =>
    match (based digits).bind fun (base, digits) => below? (bound + 1) base digits with
    | some number => some number
    | none => if isDigitString text then none else below? (bound + 1) 10 digits
  | _ => none

def negativeText (size : Nat) : String := if size = 0 then "0" else "-" ++ toString size

/-- An integer as messages show it, with its type beyond 64 bits. -/
def integerText? (text : List Char) : Option String :=
  match unsigned? (Nat.pow 2 64) text, negative? (Nat.pow 2 63) text with
  -- Unsigned 64 bits are tried first, then signed ones, and both again with 128.
  | some number, _ => some ("integer \x60" ++ toString number ++ "\x60")
  | none, some size => some ("integer \x60" ++ negativeText size ++ "\x60")
  | none, none =>
    match unsigned? (Nat.pow 2 128) text, negative? (Nat.pow 2 127) text with
    | some number, _ => some ("integer \x60" ++ toString number ++ "\x60 as u128")
    | none, some size => some ("integer \x60" ++ negativeText size ++ "\x60 as i128")
    | none, none => none

/-- Coefficient and exponent of a decimal number. -/
def decimalParts? (text : List Char) : Option (Nat × Int) := do
  -- The digits behind the point are part of the coefficient, and lower the exponent.
  let isMark := fun c => c = 'e' || c = 'E'
  let digits := text.takeWhile (! isMark ·)
  let whole := digits.takeWhile (· ≠ '.')
  let places := (digits.dropWhile (· ≠ '.')).drop 1
  let coefficient ← digitsIn? 10 (whole ++ places)
  let exponent : Int ← match text.dropWhile (! isMark ·) with
    | [] => some 0
    | _ :: '-' :: exponent => (digitsIn? 10 exponent).map fun size => -Int.ofNat size
    | _ :: '+' :: exponent => (digitsIn? 10 exponent).map Int.ofNat
    | _ :: exponent => (digitsIn? 10 exponent).map Int.ofNat
  return (coefficient, exponent - Int.ofNat places.length)

/-- A floating point number as messages show it. -/
def floatText? (text : List Char) : Option String :=
  let unsigned := dropSign '+' text
  let infinite := fun text => [".inf", ".Inf", ".INF"].any (·.toList == text)
  -- Two signs are refused.
  if unsigned ≠ text && (unsigned.head? = some '+' || unsigned.head? = some '-') then none
  -- The special names come before the numbers.
  else if infinite unsigned then some "inf"
  else if text.head? = some '-' && infinite (text.drop 1) then some "-inf"
  else if [".nan", ".NaN", ".NAN"].any (·.toList == text) then some "NaN"
  else
    let sign := if unsigned.head? = some '-' then "-" else ""
    match decimalParts? (dropSign '-' unsigned) with
    | none => none
    | some (coefficient, exponent) =>
      match round coefficient exponent with
      | .zero => some (sign ++ "0.0")
      | .infinite => none
      | .finite value => some (sign ++ positional value.shortest.1 value.shortest.2)

/-- A string as messages show it. -/
def stringText (text : List Char) : String := "string " ++ quoted (String.ofList text)

/-- A floating point number in a message. -/
def floatingText (number : String) : String := "floating point \x60" ++ number ++ "\x60"

/-- A boolean in a message. -/
def booleanText (truth : Bool) : String := "boolean \x60" ++ (if truth then "true" else "false") ++ "\x60"

/-- What messages call a plain scalar without a tag. -/
def plainText (text : List Char) : String :=
  -- In the order of the core schema: null, boolean, integer, number, string.
  if text.isEmpty || isNull text then "unit value"
  else match boolean? text with
    | some truth => booleanText truth
    | none =>
      match integerText? text with
      | some number => number
      | none =>
        match if isDigitString text then none else floatText? text with
        | some number => floatingText number
        | none => stringText text

/-- The message for a value of the wrong type. -/
def invalidType (found wanted : String) : String := "invalid type: " ++ found ++ ", expected " ++ wanted

/-- The message for a scalar with the wrong content. -/
def invalidValue (text : List Char) (wanted : String) : String :=
  "invalid value: " ++ stringText text ++ ", expected " ++ wanted

/-- A tag of the core schema. -/
def coreTag (kind : String) : String := "tag:yaml.org,2002:" ++ kind

/-- The message for a scalar of the wrong type. -/
def scalarMismatch (tag : Option String) (text : String) (style : ScalarStyle) (wanted : String) : String :=
  let chars := text.toList
  let shown := fun (found : Option String) kind =>
    match found with
    | some found => invalidType found wanted
    | none => invalidValue chars kind
  -- A core tag is checked first: a scalar that does not fit its tag is reported as invalid.
  match tag with
  | some tag =>
    if tag = coreTag "bool" then shown ((boolean? chars).map booleanText) "a boolean"
    else if tag = coreTag "int" then shown (integerText? chars) "an integer"
    else if tag = coreTag "float" then shown ((floatText? chars).map floatingText) "a float"
    else if tag = coreTag "null" then shown (if isNull chars then some "unit value" else none) "null"
    else if tag.startsWith "!" && style = .plain then invalidType (plainText chars) wanted
    else invalidType (stringText chars) wanted
  | none => invalidType (if style = .plain then plainText chars else stringText chars) wanted

/-- The message for a node of the wrong type. -/
def mismatch (kind : NodeKind) (wanted : String) : String :=
  match kind with
  | .scalar tag text style => scalarMismatch tag text style wanted
  | .sequenceStart _ => invalidType "sequence" wanted
  | _ => invalidType "map" wanted

end AccessProbe.Yaml
