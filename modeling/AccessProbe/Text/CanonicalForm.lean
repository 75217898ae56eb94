import AccessProbe.Text.CanonicalTable

/-! Normalization form C: decomposition, ordering of marks and composition. -/

namespace AccessProbe.Canonical

/-- The combining class of a character, zero for a starter. -/
def combiningClass (c : Char) : Nat :=
  match combiningClasses.find? c with
  | some (_, _, number) => number
  | none => 0

/-- The jamo of a precomposed Hangul syllable. -/
def hangulLetters (c : Char) : Option (List Char) :=
  if 0xAC00 ≤ c.toNat ∧ c.toNat ≤ 0xD7A3 then
    let index := c.toNat - 0xAC00
    let lead := Char.ofNat (0x1100 + index / 588)
    let vowel := Char.ofNat (0x1161 + index % 588 / 28)
    let tail := index % 28
    some (if tail = 0 then [lead, vowel] else [lead, vowel, Char.ofNat (0x11A7 + tail)])
  else none

/-- The decomposition of a character, at most so many levels deep. -/
def takeApart : Nat → Char → List Char
  | 0, c => [c]
  | depth + 1, c =>
    match hangulLetters c with
    | some letters => letters
    | none =>
      match pairs.find? c with
      | some (_, _, base, mark) => takeApart depth base ++ [mark]
      | none => [c]

/-- Inserts a mark in canonical order into marks that come in reverse. -/
def insertMark (mark : Char × Nat) : List (Char × Nat) → List (Char × Nat)
  | [] => [mark]
  | last :: earlier =>
    if 0 < mark.2 ∧ mark.2 < last.2 then last :: insertMark mark earlier else mark :: last :: earlier

/-- The canonical decomposition of a string, with combining classes. -/
def decompose (text : List Char) : List (Char × Nat) :=
  -- No character decomposes more than four levels deep.
  ((text.flatMap (takeApart 4)).foldl
    (fun reversed c => insertMark (c, combiningClass c) reversed) []).reverse

/-- The composite of two characters. -/
def compose? (base next : Char) : Option Char :=
  let lead := base.toNat - 0x1100
  let vowel := next.toNat - 0x1161
  let syllable := base.toNat - 0xAC00
  let tail := next.toNat - 0x11A7
  if next.toNat < 0x300 then none
  -- Hangul is composed by computation: a leading consonant with a vowel, then a syllable with a final
  -- consonant.
  else if 0x1100 ≤ base.toNat ∧ lead < 19 ∧ 0x1161 ≤ next.toNat ∧ vowel < 21 then
    some (Char.ofNat (0xAC00 + (lead * 21 + vowel) * 28))
  else if 0xAC00 ≤ base.toNat ∧ syllable < 11172 ∧ syllable % 28 = 0 ∧ 0x11A7 < next.toNat ∧ tail < 28 then
    some (Char.ofNat (base.toNat + tail))
  else
    match Array.find? (fun (_, _, first, second) => first == base && second == next) pairs with
    | some (code, _, _) =>
      let whole := Char.ofNat code
      if neverComposed.contains whole then none else some whole
    | none => none

/-- A starter with the marks behind it that did not compose with it. -/
structure Group where
  base : Char
  /-- The marks, last one first. -/
  marks : List Char
  /-- The combining class of the last mark. -/
  lastClass : Nat

/-- The characters of a group. -/
def Group.text (group : Group) : List Char := group.base :: group.marks.reverse

/-- The canonical composition of a decomposed string. -/
def composeFrom : Option Group → List (Char × Nat) → List Char
  | none, [] => []
  | some group, [] => group.text
  | none, (c, number) :: rest =>
    if number = 0 then composeFrom (some ⟨c, [], 0⟩) rest else c :: composeFrom none rest
  | some group, (c, number) :: rest =>
    -- A mark is blocked from the starter by a mark of the same or a greater class.
    let reachable := group.marks.isEmpty || group.lastClass < number
    match if reachable then compose? group.base c else none with
    | some whole => composeFrom (some { group with base := whole }) rest
    | none =>
      if number = 0 then group.text ++ composeFrom (some ⟨c, [], 0⟩) rest
      else composeFrom (some { group with marks := c :: group.marks, lastClass := number }) rest

/-- The normalization form C of a string. -/
def composed (text : List Char) : List Char :=
  -- No character below U+0300 is changed by normalization.
  if text.all (·.toNat < 0x300) then text else composeFrom none (decompose text)

end AccessProbe.Canonical
