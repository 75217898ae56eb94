/-! Base64 with padding. -/

namespace AccessProbe.Base64

/-- The character for six bits. -/
def digitChar (digit : Nat) : Char :=
  if digit < 26 then Char.ofNat (0x41 + digit)
  else if digit < 52 then Char.ofNat (0x61 + (digit - 26))
  else if digit < 62 then Char.ofNat (0x30 + (digit - 52))
  else if digit = 62 then '+' else '/'

def digit? (c : Char) : Option Nat :=
  if c.isUpper then some (c.toNat - 0x41)
  else if c.isLower then some (c.toNat - 0x61 + 26)
  else if c.isDigit then some (c.toNat - 0x30 + 52)
  else if c = '+' then some 62
  else if c = '/' then some 63
  else none

/-- The base64 encoding of bytes. -/
def encode : List UInt8 → List Char
  | [] => []
  -- One or two bytes at the end are padded to a group of four characters.
  | [a] => [digitChar (a.toNat / 4), digitChar (a.toNat % 4 * 16), '=', '=']
  | [a, b] =>
    [digitChar (a.toNat / 4), digitChar (a.toNat % 4 * 16 + b.toNat / 16),
      digitChar (b.toNat % 16 * 4), '=']
  | a :: b :: c :: rest =>
    digitChar (a.toNat / 4) :: digitChar (a.toNat % 4 * 16 + b.toNat / 16)
      :: digitChar (b.toNat % 16 * 4 + c.toNat / 64) :: digitChar (c.toNat % 64) :: encode rest

/-- The bytes of a base64 string, which has to be padded and to end in zero bits. -/
def decode? : List Char → Option (List UInt8)
  | [] => some []
  | [p, q, '=', '='] => do
    let a ← digit? p
    let b ← digit? q
    if b % 16 = 0 then some [UInt8.ofNat (a * 4 + b / 16)] else none
  | [p, q, r, '='] => do
    let a ← digit? p
    let b ← digit? q
    let c ← digit? r
    if c % 4 = 0 then some [UInt8.ofNat (a * 4 + b / 16), UInt8.ofNat (b % 16 * 16 + c / 4)] else none
  | p :: q :: r :: s :: rest => do
    let a ← digit? p
    let b ← digit? q
    let c ← digit? r
    let d ← digit? s
    let bytes ← decode? rest
    return UInt8.ofNat (a * 4 + b / 16) :: UInt8.ofNat (b % 16 * 16 + c / 4)
      :: UInt8.ofNat (c % 4 * 64 + d) :: bytes
  | _ => none

end AccessProbe.Base64
