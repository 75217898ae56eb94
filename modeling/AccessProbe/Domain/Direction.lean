import AccessProbe.Domain.DirectionTable

/-! The bidirectional rule for the labels of a domain. -/

namespace AccessProbe.Domain

/-- Whether a character is written from right to left. -/
def turnsDirection (c : Char) : Bool :=
  0x590 ≤ c.toNat && (rightToLeft.contains c || arabicLetter.contains c || arabicNumber.contains c)

/-- Whether a character has a weak or neutral direction. -/
def isNeutral (c : Char) : Bool :=
  europeanNumber.contains c || europeanSeparator.contains c || commonSeparator.contains c
    || europeanTerminator.contains c || otherNeutral.contains c || boundaryNeutral.contains c
    || nonspacingMark.contains c

/-- Whether a character is written from left to right. -/
def isLeftToRight (c : Char) : Bool := !turnsDirection c && !isNeutral c

/-- Whether a label satisfies the bidirectional rule. -/
def keepsDirection (label : List Char) : Bool :=
  -- Nonspacing marks at the end do not count as the last character.
  let body := (label.reverse.dropWhile nonspacingMark.contains).reverse
  match label.head?, body.getLast? with
  | none, _ => true
  | some first, last =>
    if isLeftToRight first then
      last.all (fun c => isLeftToRight c || europeanNumber.contains c)
        && body.all (fun c => isLeftToRight c || isNeutral c)
    else
      (rightToLeft.contains first || arabicLetter.contains first)
        && last.all (fun c => turnsDirection c || europeanNumber.contains c)
        && body.all (fun c => turnsDirection c || isNeutral c)
        -- European and Arabic numbers do not mix.
        && !(body.any europeanNumber.contains && body.any arabicNumber.contains)

end AccessProbe.Domain
