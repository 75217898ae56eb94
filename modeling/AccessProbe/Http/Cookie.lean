import AccessProbe.Domain.Ascii
import AccessProbe.Text.Blank
import AccessProbe.Decimal.Integer

/-! Cookies in `set-cookie` header fields. -/

namespace AccessProbe

/-- A cookie with its attributes. -/
structure Cookie where
  name : String
  /-- The value, including quotes. -/
  value : String
  domain : Option String
  path : Option String
  /-- Whether it is sent over https only. -/
  secure : Bool
  /-- The attribute `max-age`, in seconds. -/
  maxAge : Option Nat
  /-- The attribute `expires`, in seconds since the start of 1970. -/
  expires : Option Int
  deriving DecidableEq, Repr

namespace Cookie

/-- The name-value pair of a cookie. -/
def text (cookie : Cookie) : String := cookie.name ++ "=" ++ cookie.value

/-- The days from the start of 1970 to a date. -/
def days (year month day : Nat) : Int :=
  -- Years are counted from March, so that a leap day comes last.
  let shifted : Int := if month ≤ 2 then year - 1 else year
  let monthIndex : Int := (month + 9) % 12
  365 * shifted + shifted.fdiv 4 - shifted.fdiv 100 + shifted.fdiv 400
    + (153 * monthIndex + 2).fdiv 5 + day - 1 - 719468

/-- The number of a month by the first three letters of its name. -/
def month? (name : List Char) : Option Nat :=
  let names := ["jan", "feb", "mar", "apr", "may", "jun", "jul", "aug", "sep", "oct", "nov", "dec"]
  (names.findIdx? (·.toList == name.map Char.toLower)).map (· + 1)

/-- The seconds of a time of day. -/
def clock? (text : List Char) : Option Nat := do
  match ← (text.splitOn ':').mapM (Decimal.digitsIn? 10) with
  | [hour, minute, second] =>
    if hour < 24 ∧ minute < 60 ∧ second < 60 then some (hour * 3600 + minute * 60 + second) else none
  | _ => none

/-- The number of a year, where two digits mean 1970 to 2069. -/
def year? (text : List Char) : Option Nat := do
  let year ← Decimal.digitsIn? 10 text
  return if text.length ≤ 2 then (if year < 70 then 2000 + year else 1900 + year) else year

/-- The seconds from the start of 1970 to a date in one of three formats. -/
def date? (text : List Char) : Option Int := do
  let words := (text.splitOnP fun c => c = ' ' || c = ',' || c = '-').filter (! ·.isEmpty)
  let (year, month, day, clock) ← match words with
    -- RFC 1123 and RFC 850 name the time zone, `asctime` does not.
    | [_, day, month, year, clock, zone] =>
      if zone = "GMT".toList then some (year, month, day, clock) else none
    | [_, month, day, clock, year] => some (year, month, day, clock)
    | _ => none
  let number ← Decimal.digitsIn? 10 day
  return days (← year? year) (← month? month) number * 86400 + Int.ofNat (← clock? clock)

/-- The seconds of a `max-age`: a negative age is zero, a huge one is cut off. -/
def age? (text : List Char) : Option Nat :=
  match text with
  | '-' :: digits => (Decimal.digitsIn? 10 digits).map fun _ => 0
  | digits => (Decimal.digitsIn? 10 digits).map (min (Nat.pow 2 63 - 1))

/-- The domain of a `domain` attribute, without a leading dot. -/
def domain? (text : List Char) : Option String :=
  let named := Decimal.dropSign '.' text
  if named.isEmpty then none
  else match Domain.toAscii? named with
    | some (c :: rest) => some (String.ofList (Decimal.dropSign '.' (c :: rest)))
    | _ => none

/-- Applies an attribute to a cookie. An attribute that is unknown or malformed changes nothing. -/
def withAttribute (cookie : Cookie) (part : List Char) : Cookie :=
  let name := (trimBlank (part.takeWhile (· ≠ '='))).map Char.toLower
  let value := if part.contains '=' then some (trimBlank ((part.dropWhile (· ≠ '=')).drop 1)) else none
  if name = "secure".toList then { cookie with secure := true }
  else match value with
    | none => cookie
    | some value =>
      if name = "max-age".toList then { cookie with maxAge := (age? value).or cookie.maxAge }
      else if name = "expires".toList then { cookie with expires := (date? value).or cookie.expires }
      else if name = "domain".toList then { cookie with domain := (domain? value).or cookie.domain }
      else if name = "path".toList then { cookie with path := some (String.ofList value) }
      else cookie

/-- The cookie of a `set-cookie` field, if there is a name before the first `=`. -/
def parse? (text : String) : Option Cookie :=
  match text.toList.splitOn ';' with
  | [] => none
  | pair :: attributes =>
    let name := trimBlank (pair.takeWhile (· ≠ '='))
    if name.isEmpty || !pair.contains '=' then none
    else
      let value := trimBlank ((pair.dropWhile (· ≠ '=')).drop 1)
      some (attributes.foldl withAttribute
        ⟨String.ofList name, String.ofList value, none, none, false, none, none⟩)

end Cookie

end AccessProbe
