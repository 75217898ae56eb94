/-! Punycode: labels of any characters in letters, digits and dashes. -/

namespace AccessProbe.Punycode

/-- The character for a digit of base 36. -/
def digitChar (digit : Nat) : Char :=
  if digit < 26 then Char.ofNat (0x61 + digit) else Char.ofNat (0x30 + (digit - 26))

def digit? (c : Char) : Option Nat :=
  if c.isDigit then some (c.toNat - 0x30 + 26)
  else if c.isLower then some (c.toNat - 0x61)
  else if c.isUpper then some (c.toNat - 0x41)
  else none

/-- The threshold at a position: a smaller digit is the last one of a number. -/
def threshold (position bias : Nat) : Nat := max 1 (min 26 (position - bias))

/-- The loop of the bias adaptation. -/
def settle (delta steps : Nat) : Nat × Nat :=
  if 455 < delta then settle (delta / 35) (steps + 36) else (delta, steps)
termination_by delta

/-- The bias for the next delta. -/
def adapt (delta count : Nat) (first : Bool) : Nat :=
  -- The first delta is damped, since it tends to be large.
  let halved := if first then delta / 700 else delta / 2
  let (rest, steps) := settle (halved + halved / count) 0
  steps + 36 * rest / (rest + 38)

/-- A number in digits with varying thresholds, from a position on. -/
def digitsOf (number position bias : Nat) : List Char :=
  let least := threshold position bias
  if number < least then [digitChar number]
  else
    digitChar (least + (number - least) % (36 - least))
      :: digitsOf ((number - least) / (36 - least)) (position + 36) bias
termination_by number
decreasing_by
  have : 1 ≤ threshold position bias := by unfold threshold; omega
  have : (number - threshold position bias) / (36 - threshold position bias)
      ≤ number - threshold position bias := Nat.div_le_self _ _
  omega

/-- The state of the encoder. -/
structure Writing where
  /-- The digits so far, last one first. -/
  reversed : List Char
  /-- The delta that the next insertion has to encode. -/
  delta : Nat
  bias : Nat
  /-- How many characters of the label are encoded. -/
  handled : Nat

/-- Passes a character of the label while the insertions of one code point are encoded. -/
def Writing.pass (basic code : Nat) (writing : Writing) (c : Char) : Writing :=
  if c.toNat < code then { writing with delta := writing.delta + 1 }
  else if c.toNat = code then
    { reversed := (digitsOf writing.delta 36 writing.bias).reverse ++ writing.reversed
      delta := 0
      bias := adapt writing.delta (writing.handled + 1) (writing.handled == basic)
      handled := writing.handled + 1 }
  else writing

/-- Encodes the insertions of the code points, which come in increasing order. -/
def insertions (label : List Char) (basic : Nat) : List Nat → Nat → Writing → Writing
  | [], _, writing => writing
  | code :: codes, reached, writing =>
    let moved := { writing with delta := writing.delta + (code - reached) * (writing.handled + 1) }
    let passed := label.foldl (Writing.pass basic code) moved
    insertions label basic codes (code + 1) { passed with delta := passed.delta + 1 }

/-- The Punycode of a label. -/
def encode (label : List Char) : List Char :=
  let basic := label.filter (·.toNat < 0x80)
  let codes := ((label.filter (0x80 ≤ ·.toNat)).map (·.toNat)).mergeSort.eraseDups
  let writing := insertions label basic.length codes 0x80 ⟨[], 0, 72, basic.length⟩
  (if basic.isEmpty then [] else basic ++ ['-']) ++ writing.reversed.reverse

/-- The state of the decoder. -/
structure Reading where
  /-- The characters inserted so far. -/
  label : List Char
  /-- The code point that was inserted last. -/
  code : Nat
  /-- The index behind the last insertion. -/
  start : Nat
  /-- The index with the digits read since then. -/
  index : Nat
  /-- The weight of the next digit. -/
  weight : Nat
  /-- The position of the next digit. -/
  position : Nat
  bias : Nat

/-- Reads one digit, and makes the insertion if it is the last one of its number. -/
def Reading.digit? (reading : Reading) (c : Char) : Option Reading := do
  let digit ← Punycode.digit? c
  let index := reading.index + digit * reading.weight
  -- Numbers are limited to 32 bits.
  if 0x100000000 ≤ index then none
  let least := threshold reading.position reading.bias
  if digit < least then
    let count := reading.label.length + 1
    let code := reading.code + index / count
    let place := index % count
    if !code.isValidChar then none
    some {
      label := reading.label.take place ++ Char.ofNat code :: reading.label.drop place
      code
      start := place + 1
      index := place + 1
      weight := 1
      position := 36
      bias := adapt (index - reading.start) count (reading.start == 0) }
  else
    let weight := reading.weight * (36 - least)
    if 0x100000000 ≤ weight then none
    some { reading with index, weight, position := reading.position + 36 }

/-- The label that Punycode stands for. -/
def decode? (written : List Char) : Option (List Char) := do
  -- The last dash ends the ASCII characters, unless nothing stands before it.
  let digits := (written.reverse.takeWhile (· ≠ '-')).reverse
  let plain := written.take (written.length - digits.length - 1)
  let digits := if plain.isEmpty then written else digits
  if plain.any (0x80 ≤ ·.toNat) then none
  let reading ← digits.foldlM Reading.digit? ⟨plain, 0x80, 0, 0, 1, 36, 72⟩
  -- A number whose last digit is missing is invalid.
  if reading.position = 36 then some reading.label else none

end AccessProbe.Punycode
