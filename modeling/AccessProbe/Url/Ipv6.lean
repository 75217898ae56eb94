import AccessProbe.Url.Ipv4

/-! IPv6 addresses. -/

namespace AccessProbe.Ipv6

/-- A group of one to four hexadecimal digits. -/
def group? (text : List Char) : Option Nat :=
  if text.isEmpty || 4 < text.length || text.any (fun c => (hexDigit? c).isNone) then none
  else some (hexNumber text)

/-- A byte in decimal, without leading zeros. -/
def byte? (text : List Char) : Option Nat :=
  if text.isEmpty || 3 < text.length || !text.all Char.isDigit || (text.head? = some '0' && 1 < text.length) then
    none
  else
    -- Three digits may spell a number up to 999.
    let value := text.foldl (fun number c => 10 * number + (c.toNat - 0x30)) 0
    if value < 256 then some value else none

/-- The two groups of an embedded IPv4 address. -/
def dotted? (text : List Char) : Option (List Nat) :=
  match (text.splitOn '.').mapM byte? with
  | some [a, b, c, d] => some [256 * a + b, 256 * c + d]
  | _ => none

/-- Groups between colons, the last two of which may be written as an IPv4 address. -/
def groups? (dottedTail : Bool) (text : List Char) : Option (List Nat) :=
  if text.isEmpty then some [] else collect (text.splitOn ':')
where
  collect : List (List Char) → Option (List Nat)
    | [] => some []
    | [last] =>
      match group? last with
      | some value => some [value]
      | none => if dottedTail then dotted? last else none
    | piece :: pieces => do
      let value ← group? piece
      return value :: (← collect pieces)

/-- The parts of a string before and behind the first `::`. -/
def cutGap : List Char → Option (List Char × List Char)
  | ':' :: ':' :: after => some ([], after)
  | c :: rest => (cutGap rest).map fun (before, after) => (c :: before, after)
  | [] => none

/-- The eight groups of an address, where `::` stands for at least one group of zeros. -/
def parse? (text : List Char) : Option (List Nat) :=
  match cutGap text with
  | none => do
    let groups ← groups? true text
    if groups.length = 8 then some groups else none
  -- The gap stands for the groups that are missing, of which there is at least one.
  | some (before, after) => do
    let left ← groups? false before
    let right ← groups? true after
    let given := left.length + right.length
    if given < 8 then some (left ++ List.replicate (8 - given) 0 ++ right) else none

/-- The number of zero groups at the start. -/
def zeros (groups : List Nat) : Nat := (groups.takeWhile (· = 0)).length

/-- The start and the length of the first longest run of zero groups. -/
def longestGap (groups : List Nat) : Nat × Nat :=
  (List.range groups.length).foldl (fun (start, length) index =>
    -- Only a longer run counts, so that the first one wins.
    let run := zeros (groups.drop index)
    if length < run then (index, run) else (start, length)) (0, 0)

/-- Groups in hexadecimal with colons between them. -/
def renderGroups (groups : List Nat) : List Char :=
  [':'].intercalate (groups.map (Nat.toDigits 16))

/-- The shortest notation of an address. -/
def render (groups : List Nat) : List Char :=
  let (start, length) := longestGap groups
  -- A single group of zeros is not compressed.
  if length < 2 then renderGroups groups
  else renderGroups (groups.take start) ++ "::".toList ++ renderGroups (groups.drop (start + length))

end AccessProbe.Ipv6
