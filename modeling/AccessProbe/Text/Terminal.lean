/-! Strings without the control sequences of a terminal. -/

namespace AccessProbe.Terminal

/-- The state of the scanner. -/
inductive Position where
  /-- Outside any sequence. -/
  | outside
  /-- Behind the escape character. -/
  | escape
  /-- Behind an intermediate character. -/
  | signs
  /-- Behind `ESC [`. -/
  | parameters
  /-- Within a string that is not shown, such as a window title. -/
  | hidden
  deriving DecidableEq, Repr

/-- The state behind a character. -/
def Position.after (position : Position) (c : Char) : Position :=
  let code := c.toNat
  if c = '\x1b' then .escape
  else if code = 0x18 ∨ code = 0x1A then .outside
  else match position with
    | .outside => .outside
    | .escape =>
      if code < 0x20 ∨ code = 0x7F then .escape
      else if code < 0x30 then .signs
      else if c = '[' then .parameters
      else if c = ']' ∨ c = 'P' ∨ c = 'X' ∨ c = '^' ∨ c = '_' then .hidden
      else .outside
    | .signs => if 0x30 ≤ code ∧ code < 0x7F then .outside else .signs
    | .parameters => if 0x40 ≤ code ∧ code < 0x7F then .outside else .parameters
    | .hidden => if code = 0x07 then .outside else .hidden

/-- Whether a character is shown in a state. -/
def isShown (position : Position) (c : Char) : Bool :=
  let code := c.toNat
  -- White space is shown even within a sequence.
  if c = '\t' ∨ c = '\n' ∨ c = '\x0c' ∨ c = '\r' then position ≠ .hidden
  else position = .outside && 0x20 ≤ code && code ≠ 0x7F

/-- The characters shown from a state on. -/
def printedFrom : Position → List Char → List Char
  | _, [] => []
  | position, c :: rest =>
    let shown := printedFrom (position.after c) rest
    if isShown position c then c :: shown else shown

/-- A string without control sequences. -/
def printed (text : List Char) : List Char := printedFrom .outside text

end AccessProbe.Terminal
