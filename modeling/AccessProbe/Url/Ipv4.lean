import AccessProbe.Text.CodeRanges

/-! IPv4 addresses, in every spelling that a host may use. -/

namespace AccessProbe.Ipv4

/-- A number of an address in decimal, octal or hexadecimal notation. -/
def number? (text : List Char) : Option Nat :=
  match text with
  | [] => none
  | '0' :: 'x' :: digits | '0' :: 'X' :: digits => digitsIn 16 digits
  -- Any other leading zero makes a number octal.
  | '0' :: digit :: digits => digitsIn 8 (digit :: digits)
  | digits => digitsIn 10 digits
where
  /-- The number that digits of a base spell, which is zero if there are none. -/
  digitsIn (base : Nat) (digits : List Char) : Option Nat :=
    digits.foldlM (fun number c => do
      let digit ← hexDigit? c
      if digit < base then some (base * number + digit) else none) 0

/-- The labels of a host, without an empty one at its end. -/
def parts (host : List Char) : List (List Char) :=
  let labels := host.splitOn '.'
  if labels.getLast? = some [] then labels.dropLast else labels

/-- Whether the last label is a number, so that the host has to be an address. -/
def isNumeric (host : List Char) : Bool :=
  match (parts host).getLast? with
  | some last => (!last.isEmpty && last.all Char.isDigit) || (number? last).isSome
  | none => false

/-- The address of up to four numbers, the last of which fills all bytes that are left. -/
def assemble? (numbers : List Nat) : Option Nat :=
  match numbers with
  | [] => none
  -- The last number fills the bytes that the others leave.
  | [last] => if last < 0x100000000 then some last else none
  | [a, last] => if a < 256 ∧ last < 0x1000000 then some (a * 0x1000000 + last) else none
  | [a, b, last] =>
    if a < 256 ∧ b < 256 ∧ last < 0x10000 then some (a * 0x1000000 + b * 0x10000 + last) else none
  | [a, b, c, last] =>
    if a < 256 ∧ b < 256 ∧ c < 256 ∧ last < 256 then
      some (a * 0x1000000 + b * 0x10000 + c * 0x100 + last)
    else none
  | _ => none

def parse? (host : List Char) : Option Nat := do
  assemble? (← (parts host).mapM number?)

/-- The four bytes of an address. -/
def bytes (address : Nat) : List Nat :=
  [address / 0x1000000 % 256, address / 0x10000 % 256, address / 0x100 % 256, address % 256]

/-- The dotted notation of an address. -/
def render (address : Nat) : List Char :=
  ['.'].intercalate ((bytes address).map fun byte => (toString byte).toList)

end AccessProbe.Ipv4
