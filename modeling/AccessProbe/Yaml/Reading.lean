import AccessProbe.Yaml.Value

/-! Readers for the values and mappings of a document. -/

namespace AccessProbe.Yaml

/-- A reader of a node, with the document for its aliases. -/
abbrev Reader (α : Type) := Document → Node → Except Error α

/-- Follows an alias. -/
def Document.target (document : Document) (node : Node) : Node :=
  match node.kind with
  | .alias position => (document.nodes[position]?).getD node
  | _ => node

/-- The error at the end of an incomplete document. -/
def Document.cutOff (document : Document) : Error := document.failure.getD .endOfStream

/-- Reads a scalar of any style and tag as a string. -/
def readString (wanted : String) (path : Option String) : Reader String := fun document node =>
  let node := document.target node
  match node.kind with
  | .scalar _ text _ => .ok text
  | kind => .error (.value path (mismatch kind wanted) node.mark)

/-- Whether a node is null. A null tag on anything else is an error. -/
def isMissing (node : Node) : Except String Bool :=
  match node.kind with
  | .scalar tag text .plain =>
    match tag with
    | none => .ok (text = "" || isNull text.toList)
    | some tag =>
      -- Any other tag makes a value of a null text.
      if tag ≠ coreTag "null" then .ok false
      else if isNull text.toList then .ok true
      else .error (invalidValue text.toList "null")
  | .absent => .ok true
  | _ => .ok false

/-- Reads a value unless it is null. An error about null is reported at the start of the mapping. -/
def readOption {α : Type} (start : Mark) (read : Reader α) : Reader (Option α) := fun document node =>
  let node := document.target node
  match isMissing node with
  | .error message => .error (.value none message start)
  | .ok true => .ok none
  | .ok false => (read document node).map some

/-- Reads a number below 2^64, which must not be quoted. -/
def readNumber (path : Option String) : Reader Nat := fun document node =>
  let node := document.target node
  let number := match node.kind with
    | .scalar _ text .plain => unsigned? (Nat.pow 2 64) text.toList
    -- Block scalars are numbers only with the tag for integers.
    | .scalar tag text .literal => if tag = some (coreTag "int") then unsigned? (Nat.pow 2 64) text.toList else none
    | _ => none
  match number with
  | some number => .ok number
  | none => .error (.value path (mismatch node.kind "u64") node.mark)

/-- The list of variants in a message. -/
def choiceNames (names : List String) : String :=
  String.intercalate ", " (names.map fun name => "\x60" ++ name ++ "\x60")

/-- The variant that a local tag names. -/
def tagChoice? (tag : Option String) : Option String :=
  match tag.map String.toList with
  | some ('!' :: name) => some (if name.isEmpty then "!" else String.ofList name)
  | _ => none

/-- Reads one of several variants, named by a scalar or by a local tag. -/
def readChoice {α : Type} (path : Option String) (names : List String) (choose : String → Option α) :
    Reader α := fun document node =>
  let node := document.target node
  let fail := fun message => Except.error (.value path message node.mark)
  -- An unknown name is reported before a wrong value behind it.
  let chosen := fun name (after : Option String) =>
    match choose name, after with
    | none, _ => fail ("unknown variant \x60" ++ name ++ "\x60, expected one of " ++ choiceNames names)
    | some choice, none => Except.ok choice
    | some _, some message => fail message
  match node.kind with
  | .scalar tag text style =>
    match tagChoice? tag with
    | none => chosen text none
    | some name =>
      -- A variant named by a tag has no value behind it.
      let isNothing := style = .plain && (text = "" || isNull text.toList)
      chosen name (if isNothing then none else some (invalidValue text.toList "null"))
  | .sequenceStart tag =>
    match tagChoice? tag with
    | some name => chosen name (some (invalidType "sequence" "unit"))
    | none => fail (invalidType "sequence" "a YAML tag starting with '!'")
  | .mappingStart tag =>
    match tagChoice? tag with
    | some name => chosen name (some (invalidType "map" "unit"))
    | none => fail (invalidType "map" "a YAML tag starting with '!'")
  | _ => fail (invalidType "map" "a YAML tag starting with '!'")

/-- The path of a value: its key, or `?` for an alias. -/
def entryPath (key : Node) : Option String :=
  match key.kind with
  | .scalar _ text _ => some text
  | _ => some "?"

/-- A reader of one entry, which updates a state. -/
abbrev EntryReader (σ : Type) := Document → σ → Node → Option Node → Except Error σ

/-- Reads the entries of a mapping in order. -/
def readEntries {σ : Type} (document : Document) (read : EntryReader σ) (state : σ) :
    List Node → Except Error σ
  | [] => .error document.cutOff
  -- The document may be cut off behind a key.
  | [key] => if key.kind = .mappingEnd then .ok state else read document state key none
  | key :: value :: nodes =>
    if key.kind = .mappingEnd then .ok state
    else do readEntries document read (← read document state key (some value)) nodes

/-- Reads a document that is a mapping or empty. -/
def readMapping {σ : Type} (wanted : String) (start : Mark → EntryReader σ) (state : σ)
    (document : Document) : Except Error σ :=
  match document.nodes with
  | [] => .error document.cutOff
  | node :: nodes =>
    match node.kind with
    | .absent => .ok state
    | .mappingStart _ => readEntries document (start node.mark) state nodes
    -- An empty scalar is an empty mapping, as an empty document is.
    | .scalar _ "" .plain => .ok state
    | kind => .error (.value none (mismatch kind wanted) node.mark)

/-- The node of a value, which may be cut off. -/
def Document.valueNode (document : Document) (value : Option Node) : Except Error Node :=
  match value with
  | some node => .ok node
  | none => .error document.cutOff

/-- Sets the value of a key, which keeps its position. -/
def putEntry (entries : List (String × String)) (key value : String) : List (String × String) :=
  -- The last value of a repeated key counts, in the place of the first one.
  if entries.any (·.1 = key) then entries.map fun entry => if entry.1 = key then (key, value) else entry
  else entries ++ [(key, value)]

/-- Reads an entry of two strings. The last value of a key counts. -/
def readStringEntry : EntryReader (List (String × String)) := fun document entries key value => do
  let name ← readString "a string" none document key
  let node ← document.valueNode value
  let text ← readString "a string" (entryPath key) document node
  return putEntry entries name text

/-- Reads a mapping of strings to strings. -/
def readStrings (document : Document) : Except Error (List (String × String)) :=
  readMapping "a map" (fun _ => readStringEntry) [] document

end AccessProbe.Yaml
