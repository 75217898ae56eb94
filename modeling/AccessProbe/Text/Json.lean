import AccessProbe.Text.CodeRanges
import AccessProbe.Text.Utf8

/-! A JSON reader. -/

namespace AccessProbe.Json

/-- A JSON value. -/
inductive Value where
  | null
  | bool (value : Bool)
  /-- A number as it is written. -/
  | number (text : String)
  | string (text : String)
  | array (items : List Value)
  /-- The members in the order in which they are written, with repeated names. -/
  | object (members : List (String × Value))
  deriving Repr

section Strings

variable {text rest : List Char}

/-- The number of a `\u` escape, with the characters behind it. -/
def codeUnit? : List Char → Option (Nat × List Char)
  | a :: b :: c :: d :: rest => do
    return (((16 * (← hexDigit? a) + (← hexDigit? b)) * 16 + (← hexDigit? c)) * 16 + (← hexDigit? d), rest)
  | _ => none

/-- An escape takes up four digits. -/
theorem length_codeUnit? {code : Nat} (found : codeUnit? text = some (code, rest)) :
    rest.length < text.length := by
  -- Only a text of four digits or more has a code unit, and its rest is what stands behind them.
  unfold codeUnit? at found
  split at found
  · simp only [Option.bind_eq_bind, Option.bind_eq_some_iff, Option.pure_def, Option.some.injEq, Prod.mk.injEq]
      at found
    obtain ⟨_, _, _, _, _, _, _, _, _, rfl⟩ := found
    simp only [List.length_cons]
    omega
  · cases found

/-- The character of a `\u` escape, which may take two escapes for a surrogate pair. -/
def numbered? (text : List Char) : Option (Char × List Char) := do
  let (first, rest) ← codeUnit? text
  if first < 0xD800 || 0xDFFF < first then return (Char.ofNat first, rest)
  else match rest with
    -- A high surrogate has to be followed by the escape of a low one.
    | '\\' :: 'u' :: rest =>
      let (second, rest) ← codeUnit? rest
      if first < 0xDC00 && 0xDC00 ≤ second && second ≤ 0xDFFF then
        return (Char.ofNat (0x10000 + (first - 0xD800) * 0x400 + (second - 0xDC00)), rest)
      else none
    | _ => none

/-- A numbered escape takes up some of the text. -/
theorem length_numbered? {c : Char} (found : numbered? text = some (c, rest)) : rest.length < text.length := by
  -- The escape ends behind the first code unit, or behind the second one of a pair.
  unfold numbered? at found
  simp only [Option.bind_eq_bind, Option.bind_eq_some_iff] at found
  obtain ⟨⟨first, behind⟩, unit, found⟩ := found
  have shorter : behind.length < text.length := length_codeUnit? unit
  split at found
  · obtain ⟨_, rfl⟩ := Prod.mk.inj (Option.some.inj found)
    exact shorter
  · split at found
    · rename_i other escape
      simp only [Option.bind_eq_some_iff] at found
      obtain ⟨⟨second, after⟩, unit, found⟩ := found
      have next : after.length < other.length := length_codeUnit? unit
      have between : behind.length = other.length + 2 := congrArg List.length escape
      split at found
      · obtain ⟨_, rfl⟩ := Prod.mk.inj (Option.some.inj found)
        show after.length < text.length
        omega
      · cases found
    · cases found

/-- The escapes with a single letter. -/
def escapes : List (Char × Char) :=
  [('"', '"'), ('\\', '\\'), ('/', '/'), ('b', '\x08'), ('f', '\x0c'), ('n', '\n'), ('r', '\r'), ('t', '\t')]

/-- The first character of the rest of a string, with what stands behind it. -/
def character? : List Char → Option (Char × List Char)
  | '\\' :: 'u' :: rest => numbered? rest
  | '\\' :: mark :: rest => (escapes.lookup mark).map fun c => (c, rest)
  | c :: rest => if c = '\\' || c = '"' || c.toNat < 0x20 then none else some (c, rest)
  | [] => none

/-- Every character takes up some of the text. -/
theorem length_character? {c : Char} (found : character? text = some (c, rest)) : rest.length < text.length := by
  -- The cases are a numbered escape, an escape with one letter and a character that stands for itself.
  unfold character? at found
  split at found
  · have shorter := length_numbered? found
    simp only [List.length_cons]
    omega
  · obtain ⟨other, _, same⟩ := Option.map_eq_some_iff.mp found
    rw [← (Prod.mk.inj same).2, List.length_cons, List.length_cons]
    omega
  · split at found
    · cases found
    · rw [← (Prod.mk.inj (Option.some.inj found)).2, List.length_cons]
      omega
  · cases found

/-- The characters of a string behind its opening quote, with what stands behind the closing one. -/
def string? (text : List Char) : Option (List Char × List Char) :=
  match text with
  | '"' :: rest => some ([], rest)
  | text =>
    match _found : character? text with
    | some (c, rest) => (string? rest).map fun (others, after) => (c :: others, after)
    | none => none
termination_by text.length
decreasing_by exact length_character? _found

end Strings

/-- A text without white space at its start. -/
def skipped (text : List Char) : List Char := text.dropWhile (" \t\n\r".toList.contains ·)

/-- What stands behind digits, of which there has to be at least one. -/
def afterDigits? (text : List Char) : Option (List Char) :=
  if (text.takeWhile Char.isDigit).isEmpty then none else some (text.dropWhile Char.isDigit)

/-- What stands behind an optional sign. -/
def afterSign (signs : List Char) : List Char → List Char
  | c :: rest => if signs.contains c then rest else c :: rest
  | [] => []

/-- What stands behind a number. -/
def afterNumber? (text : List Char) : Option (List Char) := do
  -- A number has no leading zeros.
  let rest ← match afterSign ['-'] text with
    | '0' :: rest => some rest
    | rest => afterDigits? rest
  let rest ← match rest with
    | '.' :: rest => afterDigits? rest
    | rest => some rest
  match rest with
  | 'e' :: rest | 'E' :: rest => afterDigits? (afterSign ['+', '-'] rest)
  | rest => some rest

/-- A literal or a number, with what stands behind it. -/
def scalar? (text : List Char) : Option (Value × List Char) :=
  match text with
  | 'n' :: 'u' :: 'l' :: 'l' :: rest => some (.null, rest)
  | 't' :: 'r' :: 'u' :: 'e' :: rest => some (.bool true, rest)
  | 'f' :: 'a' :: 'l' :: 's' :: 'e' :: rest => some (.bool false, rest)
  | text => (afterNumber? text).map fun rest =>
    (.number (String.ofList (text.take (text.length - rest.length))), rest)

section Items

variable {α : Type}

/-- Items between commas up to a closing bracket, with what stands behind it. -/
def items? (close : Char) (item? : List Char → Option (α × List Char)) :
    Nat → List Char → Option (List α × List Char)
  | 0, _ => none
  | limit + 1, text => do
    let (item, rest) ← item? (skipped text)
    match skipped rest with
    | c :: rest =>
      if c = ',' then
        let (others, rest) ← items? close item? limit rest
        return (item :: others, rest)
      else if c = close then return ([item], rest)
      else none
    | [] => none

/-- Items up to a closing bracket, of which there may be none. -/
def row? (close : Char) (item? : List Char → Option (α × List Char)) (text : List Char) :
    Option (List α × List Char) :=
  if (skipped text).head? = some close then some ([], (skipped text).tail)
  else items? close item? text.length text

end Items

/-- A member of an object, with what stands behind it. -/
def member? (value? : List Char → Option (Value × List Char)) (text : List Char) :
    Option ((String × Value) × List Char) :=
  match text with
  | '"' :: rest => do
    let (name, rest) ← string? rest
    match skipped rest with
    | ':' :: rest =>
      let (value, rest) ← value? (skipped rest)
      return ((String.ofList name, value), rest)
    | _ => none
  | _ => none

/-- The value at the start of a text, nested to a limited depth, with what stands behind it. -/
def value? : Nat → List Char → Option (Value × List Char)
  | 0, _ => none
  | depth + 1, text =>
    match text with
    | '"' :: rest => (string? rest).map fun (text, rest) => (.string (String.ofList text), rest)
    | '[' :: rest => (row? ']' (value? depth) rest).map fun (items, rest) => (.array items, rest)
    | '\x7b' :: rest => (row? '\x7d' (member? (value? depth)) rest).map fun (members, rest) => (.object members, rest)
    | text => scalar? text

/-- The value of a JSON text. -/
def read? (text : List Char) : Option Value := do
  -- A text cannot be nested deeper than it is long.
  let (value, rest) ← value? (text.length + 1) (skipped text)
  if (skipped rest).isEmpty then some value else none

/-- The value of a JSON text in UTF-8. -/
def ofBytes? (bytes : List UInt8) : Option Value := (Utf8.decode? bytes).bind read?

/-- A text with white space, nesting, an exponent and a surrogate pair. -/
example : read? " [ null, -2.5e+3 ,\x7b\"a\\u00e9\" : \"\\ud83d\\ude00\\\"\"\x7d, [] ]\n".toList = some (.array
    [.null, .number "-2.5e+3", .object [("aé", .string "😀\"")], .array []]) := by cbv

end AccessProbe.Json
