/-! Sets and maps of characters, written as short lists of hexadecimal code point ranges. -/

namespace AccessProbe

/-- The value of a hexadecimal digit in either case. -/
def hexDigit? (c : Char) : Option Nat :=
  let code := c.toNat
  if 0x30 ≤ code ∧ code ≤ 0x39 then some (code - 0x30)
  else if 0x41 ≤ code ∧ code ≤ 0x46 then some (code - 0x41 + 10)
  else if 0x61 ≤ code ∧ code ≤ 0x66 then some (code - 0x61 + 10)
  else none

/-- The number that hexadecimal digits spell. -/
def hexNumber (digits : List Char) : Nat :=
  digits.foldl (fun number c => 16 * number + (hexDigit? c).getD 0) 0

/-- The words between separators, without empty ones. -/
def wordsAt (separator : Char) (text : List Char) : List (List Char) :=
  (text.splitOn separator).filter (! ·.isEmpty)

/-- The parts of a word before and behind the first separator. Without one both are the whole word. -/
def cutAt (separator : Char) (word : List Char) : List Char × List Char :=
  match word.span (· ≠ separator) with
  | (before, _ :: after) => (before, after)
  | (before, []) => (before, before)

/-- Inclusive ranges of code points, in increasing order and without overlap, each with a value. -/
abbrev CodeMap (α : Type) := Array (Nat × Nat × α)

/-- The range of a sorted map that holds a code point, sought between two positions. -/
def CodeMap.search {α : Type} (ranges : CodeMap α) (code : Nat) (low high : Nat) :
    Option (Nat × Nat × α) :=
  if _h : low < high then
    let middle := (low + high) / 2
    match ranges[middle]? with
    | none => none
    | some (first, last, value) =>
      -- Binary search, as the ranges are sorted.
      if code < first then ranges.search code low middle
      else if last < code then ranges.search code (middle + 1) high
      else some (first, last, value)
  else none
termination_by high - low

/-- The range that holds a character, if one does. -/
def CodeMap.find? {α : Type} (ranges : CodeMap α) (c : Char) : Option (Nat × Nat × α) :=
  ranges.search c.toNat 0 ranges.size

/-- A set of characters. -/
abbrev CodeRanges := CodeMap Unit

/-- Whether a set holds a character. -/
def CodeMap.contains {α : Type} (ranges : CodeMap α) (c : Char) : Bool :=
  (ranges.find? c).isSome

/-- A range written as one number or as two numbers with a dash between them. -/
def codeRange (word : List Char) : Nat × Nat :=
  let (first, last) := cutAt '-' word
  (hexNumber first, hexNumber last)

/-- The set whose ranges the lines list. -/
def codeRanges (lines : List String) : CodeRanges :=
  ((lines.flatMap fun line => wordsAt ' ' line.toList).map fun word =>
    let (first, last) := codeRange word
    (first, last, ())).toArray

/-- The map whose lines list `range=number` words, the number in hexadecimal. -/
def codeNumbers (lines : List String) : CodeMap Nat :=
  ((lines.flatMap fun line => wordsAt ' ' line.toList).map fun word =>
    let (range, value) := cutAt '=' word
    let (first, last) := codeRange range
    (first, last, hexNumber value)).toArray

end AccessProbe
