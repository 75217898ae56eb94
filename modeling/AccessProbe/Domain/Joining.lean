import AccessProbe.Domain.JoiningTable
import AccessProbe.Text.CanonicalForm

/-! Where zero width joiners and non-joiners may stand in a label. -/

namespace AccessProbe.Domain

/-- Whether the letter before a place joins to the next one. The characters before it come in reverse. -/
def joinsForward (before : List Char) : Bool :=
  match before.find? (! transparentJoining.contains ·) with
  | some c => leftJoining.contains c || dualJoining.contains c
  | none => false

/-- Whether the letter behind a place joins to the one before it. -/
def joinsBackward (after : List Char) : Bool :=
  match after.find? (! transparentJoining.contains ·) with
  | some c => rightJoining.contains c || dualJoining.contains c
  | none => false

/-- Whether every joiner and non-joiner stands in a valid context. -/
def joinersPlaced : List Char → List Char → Bool
  | _, [] => true
  | before, c :: after =>
    -- Both may follow a virama.
    let afterVirama := before.head?.any (Canonical.combiningClass · = 9)
    let placed :=
      if c = '\u200D' then afterVirama
      else if c = '\u200C' then afterVirama || (joinsForward before && joinsBackward after)
      else true
    placed && joinersPlaced (c :: before) after

end AccessProbe.Domain
