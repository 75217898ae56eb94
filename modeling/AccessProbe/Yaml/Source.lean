import AccessProbe.Text.Utf8
import AccessProbe.Yaml.SyntaxError

/-! Decoding the bytes of a file, which may contain no control characters. -/

namespace AccessProbe.Yaml

/-- The characters of a YAML file. -/
def isAllowed (code : Nat) : Bool :=
  code = 0x09 || code = 0x0A || code = 0x0D || (0x20 ≤ code && code ≤ 0x7E) || code = 0x85
    || (0xA0 ≤ code && code ≤ 0xD7FF) || (0xE000 ≤ code && code ≤ 0xFFFD) || 0x10000 ≤ code

/-- The number of bytes of a character, by the first one, and the bits of that. -/
def width? (lead : UInt8) : Option (Nat × Nat) :=
  if lead < 0x80 then some (1, lead.toNat)
  else if 0xC0 ≤ lead ∧ lead < 0xE0 then some (2, lead.toNat % 0x20)
  else if 0xE0 ≤ lead ∧ lead < 0xF0 then some (3, lead.toNat % 0x10)
  else if 0xF0 ≤ lead ∧ lead < 0xF8 then some (4, lead.toNat % 0x08)
  else none

/-- Adds the bits of continuation bytes. -/
def readTrailing (offset : Nat) : List UInt8 → Nat → Except SyntaxError Nat
  | [], code => .ok code
  | byte :: rest, code =>
    if Utf8.continues byte then readTrailing (offset + 1) rest (code * 0x40 + Utf8.payload byte)
    else .error (.atByte .invalidTrailingOctet offset)

/-- Whether an encoding is not overlong. -/
def isShortest (code width : Nat) : Bool :=
  width = 1 || (width = 2 && 0x80 ≤ code) || (width = 3 && 0x800 ≤ code) || (width = 4 && 0x10000 ≤ code)

/-- Decodes and checks a character. -/
def readCharacter (offset lead width : Nat) (trailing : List UInt8) : Except SyntaxError Char := do
  let code ← readTrailing (offset + 1) trailing lead
  if !isShortest code width then throw (.atByte .invalidSequenceLength offset)
  if !code.isValidChar then throw (.atByte .invalidCharacter offset)
  if !isAllowed code then throw (.atByte .controlCharacter offset)
  return Char.ofNat code

/-- Decodes bytes from an offset on. -/
def readCharacters (offset : Nat) : List UInt8 → Except SyntaxError (List Char)
  | [] => .ok []
  | byte :: rest =>
    match width? byte with
    | none => .error (.atByte .invalidLeadingOctet offset)
    | some (width, lead) =>
      if rest.length < width - 1 then .error (.atByte .incompleteSequence offset)
      else
        match readCharacter offset lead width (rest.take (width - 1)) with
        | .error error => .error error
        | .ok c => (readCharacters (offset + width) (rest.drop (width - 1))).map (c :: ·)
termination_by bytes => bytes.length
decreasing_by
  simp only [List.length_drop, List.length_cons]
  omega

/-- Decodes a file. A byte order mark at its start takes up a column. -/
def readSource (bytes : List UInt8) : Except SyntaxError Cursor := do
  match ← readCharacters 0 bytes with
  | '\uFEFF' :: rest => return ⟨⟨1, 0, 1⟩, rest⟩
  | rest => return ⟨Mark.start, rest⟩

end AccessProbe.Yaml
