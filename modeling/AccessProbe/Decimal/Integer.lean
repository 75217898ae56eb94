import AccessProbe.Text.CodeRanges

/-! Parsing natural numbers. -/

namespace AccessProbe.Decimal

/-- The number that digits of a base spell, of which there has to be at least one. -/
def digitsIn? (base : Nat) (digits : List Char) : Option Nat :=
  if digits.isEmpty then none
  else digits.foldlM (fun number c => do
    let digit ← hexDigit? c
    if digit < base then some (base * number + digit) else none) 0

/-- A string without its first character if that is the expected one. -/
def dropSign (sign : Char) : List Char → List Char
  | c :: rest => if c = sign then rest else c :: rest
  | [] => []

/-- Why a string is no number below a bound. -/
inductive NumberError where
  /-- It is empty. -/
  | empty
  /-- A character is no digit. -/
  | invalidDigit
  /-- The number is not below the bound. -/
  | tooLarge
  deriving DecidableEq, Repr

def NumberError.message : NumberError → String
  | .empty => "cannot parse integer from empty string"
  | .invalidDigit => "invalid digit found in string"
  | .tooLarge => "number too large to fit in target type"

/-- Reads decimal digits up to the first error. -/
def readDigits (bound : Nat) : Nat → List Char → Except NumberError Nat
  | number, [] => .ok number
  | number, c :: rest =>
    if !c.isDigit then .error .invalidDigit
    else
      let next := 10 * number + (c.toNat - 0x30)
      -- The bound is checked at every digit, so that `tooLarge` comes before a later `invalidDigit`.
      if bound ≤ next then .error .tooLarge else readDigits bound next rest

/-- The number below a bound that a string spells in decimal, with an optional plus sign. -/
def readNumber (bound : Nat) (text : List Char) : Except NumberError Nat :=
  match text with
  | [] => .error .empty
  -- A sign without digits is not empty.
  | ['+'] => .error .invalidDigit
  | '+' :: digits => readDigits bound 0 digits
  | digits => readDigits bound 0 digits

end AccessProbe.Decimal
