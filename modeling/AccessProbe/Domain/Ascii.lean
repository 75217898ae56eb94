import AccessProbe.Domain.Direction
import AccessProbe.Domain.Joining
import AccessProbe.Domain.MappingTable
import AccessProbe.Domain.Punycode

/-! The ASCII form of domain names. -/

namespace AccessProbe.Domain

/-- The ASCII characters that a domain must not contain. -/
def isForbidden (c : Char) : Bool :=
  c.toNat ≤ 0x20 || c = '\x7f' || "%#/:<>?@[\\]^|".toList.contains c

/-- A name mapped and normalised, unless it contains a refused character. -/
def normalized? (text : List Char) : Option (List Char) :=
  (text.mapM mapped).map fun pieces => Canonical.composed pieces.flatten

/-- Whether a label is valid: it is normalised, contains no forbidden character, begins with no mark and has
its joiners in place. -/
def isLabel (label : List Char) : Bool :=
  label.all (! isForbidden ·) && normalized? label == some label
    && !label.head?.any marks.contains && joinersPlaced [] label

/-- The Unicode form of a label. -/
def shownLabel? (label : List Char) : Option (List Char) :=
  match label with
  | 'x' :: 'n' :: '-' :: '-' :: written => do
    let shown ← Punycode.decode? written
    -- Punycode that decodes to ASCII, or to an invalid label, is refused.
    if shown.all (·.toNat < 0x80) || !isLabel shown then none else some shown
  | _ => if isLabel label then some label else none

/-- The ASCII form of a label. -/
def wireLabel (label : List Char) : List Char :=
  if label.all (·.toNat < 0x80) then label else "xn--".toList ++ Punycode.encode label

/-- Whether a string is plain ASCII that no mapping changes. -/
def isPlain (text : List Char) : Bool :=
  text.all fun c => c.toNat < 0x80 && !isForbidden c && !c.isUpper

/-- Whether a label is written in Punycode. -/
def isWritten (label : List Char) : Bool := "xn--".toList.isPrefixOf label

/-- The ASCII form of a domain name, if the name is valid. -/
def toAscii? (name : List Char) : Option (List Char) :=
  let lowered := name.map Char.toLower
  -- A plain name without Punycode is not checked any further.
  if isPlain lowered && !(lowered.splitOn '.').any isWritten then some lowered
  else do
    let labels ← ((← normalized? name).splitOn '.').mapM shownLabel?
    -- A single label with text from right to left puts all labels under the rule.
    if labels.any (·.any turnsDirection) && !labels.all keepsDirection then none
    if labels.any (fun label => 1000 < label.length) then none
    some (['.'].intercalate (labels.map wireLabel))

end AccessProbe.Domain
