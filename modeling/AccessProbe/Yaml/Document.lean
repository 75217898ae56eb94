import AccessProbe.Yaml.Event
import AccessProbe.Yaml.Source

/-! The events of a single document, with the positions of anchored nodes for its aliases. -/

namespace AccessProbe.Yaml

/-- Why a document is not read. -/
inductive Error where
  /-- It is no YAML. -/
  | malformed (error : SyntaxError)
  /-- An alias has no anchor. -/
  | unknownAnchor (mark : Mark)
  /-- There is more than one document. -/
  | manyDocuments
  /-- The document ends before a value. -/
  | endOfStream
  /-- A value is refused; the path leads to it from the root. -/
  | value (path : Option String) (message : String) (mark : Mark)
  deriving DecidableEq, Repr

/-- A position behind a message, unless it is the start of the document. -/
def atMark (mark : Mark) : String := if mark.isFirst then "" else " at " ++ mark.text

def Error.message : Error → String
  | .malformed error => error.message
  | .unknownAnchor mark => "unknown anchor" ++ atMark mark
  | .manyDocuments => "deserializing from YAML containing more than one document is not supported"
  | .endOfStream => "EOF while parsing a value"
  | .value path message mark => (path.map (· ++ ": ")).getD "" ++ message ++ atMark mark

/-- An event within a document. -/
inductive NodeKind where
  /-- The place of the root in an empty document. -/
  | absent
  /-- An alias of the node at a position among the events. -/
  | alias (position : Nat)
  | scalar (tag : Option String) (text : String) (style : ScalarStyle)
  | sequenceStart (tag : Option String)
  | sequenceEnd
  | mappingStart (tag : Option String)
  | mappingEnd
  deriving DecidableEq, Repr

/-- An event within a document, with its position in the file. -/
structure Node where
  kind : NodeKind
  mark : Mark
  deriving DecidableEq, Repr

/-- A document. -/
structure Document where
  nodes : List Node
  /-- What is wrong behind the events. -/
  failure : Option Error
  deriving DecidableEq, Repr

/-- A document whose events are being collected. -/
structure Draft where
  /-- The events so far, last one first, with the numbers of aliased anchors. -/
  reversed : List (Event × Option Nat)
  /-- The number of each anchor. -/
  names : List (List Char × Nat)
  /-- The position of the node with each number. -/
  positions : List (Nat × Nat)

/-- The anchor of an event. -/
def EventKind.anchor : EventKind → Option (List Char)
  | .scalar properties _ _ | .sequenceStart properties | .mappingStart properties => properties.anchor
  | _ => none

/-- Adds an event and registers its anchor. -/
def Draft.add (draft : Draft) (event : Event) (target : Option Nat) : Draft :=
  let reversed := (event, target) :: draft.reversed
  match event.kind.anchor with
  | none => { draft with reversed }
  | some name =>
    -- A repeated anchor replaces the older one, and does not count for the numbers that follow.
    let number := draft.names.length
    { reversed
      names := (name, number) :: draft.names.filter (·.1 ≠ name)
      positions := (number, draft.reversed.length) :: draft.positions }

/-- The node of an event, given the positions of anchored nodes. -/
def nodeOf (positions : List (Nat × Nat)) : Event × Option Nat → Node
  | (⟨.alias _, mark⟩, target) =>
    ⟨.alias ((target.bind fun number => positions.lookup number).getD 0), mark⟩
  | (⟨.scalar properties text style, mark⟩, _) =>
    ⟨.scalar (properties.tag.map String.ofList) (String.ofList text) style, mark⟩
  | (⟨.sequenceStart properties, mark⟩, _) => ⟨.sequenceStart (properties.tag.map String.ofList), mark⟩
  | (⟨.sequenceEnd, mark⟩, _) => ⟨.sequenceEnd, mark⟩
  | (⟨.mappingStart properties, mark⟩, _) => ⟨.mappingStart (properties.tag.map String.ofList), mark⟩
  | (⟨.mappingEnd, mark⟩, _) => ⟨.mappingEnd, mark⟩
  | (⟨_, mark⟩, _) => ⟨.absent, mark⟩

/-- The document of a draft. -/
def Draft.finish (draft : Draft) (failure : Option Error) : Document :=
  ⟨draft.reversed.reverse.map (nodeOf draft.positions), failure⟩

/-- The first document among events, with the events behind it. -/
def firstDocument (failure : Option SyntaxError) : List Event → Draft → Document × List Event
  | [], draft => (draft.finish (some ((failure.map Error.malformed).getD .endOfStream)), [])
  | event :: events, draft =>
    match event.kind with
    -- The marks around a document are no nodes of it.
    | .streamStart | .documentStart => firstDocument failure events draft
    | .streamEnd =>
      if draft.reversed.isEmpty then (⟨[⟨.absent, event.mark⟩], none⟩, [event])
      else (draft.finish none, [event])
    | .documentEnd => (draft.finish none, events)
    | .alias name =>
      -- An alias has to come behind its anchor.
      match draft.names.lookup name with
      | none => (draft.finish (some (.unknownAnchor event.mark)), events)
      | some number => firstDocument failure events (draft.add event (some number))
    | _ => firstDocument failure events (draft.add event none)

/-- The first document of a file. -/
structure Text where
  document : Document
  /-- Whether it is the only one. -/
  alone : Bool
  deriving DecidableEq, Repr

/-- Parses a file as far as possible. -/
def Text.ofBytes (bytes : List UInt8) : Text :=
  match readSource bytes with
  | .error error => ⟨⟨[], some (.malformed error)⟩, true⟩
  | .ok cursor =>
    let stream := EventStream.ofTokens (TokenStream.ofCursor cursor)
    let (document, rest) := firstDocument stream.failure stream.events ⟨[], [], []⟩
    ⟨document, rest.head?.any (·.kind = .streamEnd)⟩

/-- Reads the document of a file. Errors of the reader come before those of the parser further down. -/
def Text.read {α : Type} (text : Text) (read : Document → Except Error α) : Except Error α := do
  let value ← read text.document
  -- The reader has gone through the whole document by now.
  match text.document.failure with
  | some error => throw error
  | none => if text.alone then return value else throw .manyDocuments

end AccessProbe.Yaml
