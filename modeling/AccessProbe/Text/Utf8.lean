/-! UTF-8, with lossy decoding. -/

namespace AccessProbe.Utf8

/-- The UTF-8 encoding of a string. -/
def encode (text : List Char) : List UInt8 := text.flatMap String.utf8EncodeChar

/-- The number of bytes behind a leading byte, and the bounds of the second one. -/
def follow? (lead : UInt8) : Option (Nat × UInt8 × UInt8) :=
  if 0xC2 ≤ lead ∧ lead ≤ 0xDF then some (1, 0x80, 0xBF)
  -- The bounds keep out overlong forms, surrogates and what lies beyond U+10FFFF.
  else if lead = 0xE0 then some (2, 0xA0, 0xBF)
  else if lead = 0xED then some (2, 0x80, 0x9F)
  else if 0xE1 ≤ lead ∧ lead ≤ 0xEF then some (2, 0x80, 0xBF)
  else if lead = 0xF0 then some (3, 0x90, 0xBF)
  else if lead = 0xF4 then some (3, 0x80, 0x8F)
  else if 0xF1 ≤ lead ∧ lead ≤ 0xF3 then some (3, 0x80, 0xBF)
  else none

/-- Whether a byte is a continuation byte. -/
def continues (byte : UInt8) : Bool := 0x80 ≤ byte && byte ≤ 0xBF

/-- The six bits of a continuation byte. -/
def payload (byte : UInt8) : Nat := byte.toNat % 0x40

/-- The characters of bytes, with `none` for each longest prefix of a character that breaks off. -/
def units : List UInt8 → List (Option Char)
  | [] => []
  | lead :: rest =>
    if lead < 0x80 then some (Char.ofNat lead.toNat) :: units rest
    else match follow? lead, rest with
      | some (count, low, high), second :: rest =>
        if second < low ∨ high < second then none :: units (second :: rest)
        else if count = 1 then
          some (Char.ofNat (lead.toNat % 0x20 * 0x40 + payload second)) :: units rest
        else match rest with
          | [] => [none]
          | third :: rest =>
            if !continues third then none :: units (third :: rest)
            else if count = 2 then
              some (Char.ofNat ((lead.toNat % 0x10 * 0x40 + payload second) * 0x40 + payload third))
                :: units rest
            else match rest with
              | [] => [none]
              | fourth :: rest =>
                if !continues fourth then none :: units (fourth :: rest)
                else
                  some (Char.ofNat (((lead.toNat % 0x08 * 0x40 + payload second) * 0x40
                    + payload third) * 0x40 + payload fourth)) :: units rest
      | some _, [] => [none]
      | none, rest => none :: units rest
termination_by bytes => bytes.length

/-- The string that bytes encode, if they are valid. -/
def decode? (bytes : List UInt8) : Option (List Char) := (units bytes).mapM id

/-- The string that bytes encode, with a replacement character for every invalid part. -/
def decodeLossy (bytes : List UInt8) : List Char := (units bytes).map (·.getD '\uFFFD')

end AccessProbe.Utf8
