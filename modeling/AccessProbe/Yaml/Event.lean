import AccessProbe.Yaml.TokenStream

/-! The parser: it turns tokens into the events of documents. -/

namespace AccessProbe.Yaml

/-- The properties of a node. -/
structure Properties where
  anchor : Option (List Char)
  /-- The tag with its handle resolved. -/
  tag : Option (List Char)
  deriving DecidableEq, Repr

def Properties.none : Properties := ⟨.none, .none⟩

/-- The kinds of events. -/
inductive EventKind where
  | streamStart
  | streamEnd
  | documentStart
  | documentEnd
  | alias (name : List Char)
  | scalar (properties : Properties) (text : List Char) (style : ScalarStyle)
  | sequenceStart (properties : Properties)
  | sequenceEnd
  | mappingStart (properties : Properties)
  | mappingEnd
  deriving DecidableEq, Repr

/-- An event with its position. -/
structure Event where
  kind : EventKind
  mark : Mark
  deriving DecidableEq, Repr

/-- The states of the parser. -/
inductive Expectation where
  | streamStart | implicitDocument | document | documentContent | documentEnd
  | blockNode
  | blockEntry | blockFirstEntry | indentlessEntry
  | blockFirstKey | blockKey | blockValue
  | flowFirstEntry | flowEntry | pairKey | pairValue | pairEnd
  | flowFirstKey | flowKey | flowValue | flowEmptyValue
  | nothing
  deriving DecidableEq, Repr

/-- What the parser keeps between two events. -/
structure Grammar where
  /-- The state. -/
  expected : Expectation
  /-- The states to return to, innermost first. -/
  awaited : List Expectation
  /-- The starts of the open collections, innermost first. -/
  opened : List Mark
  /-- The declared tag handles with their expansions. -/
  handles : List (List Char × List Char)
  /-- The tokens that are left. -/
  stream : TokenStream
  deriving DecidableEq, Repr

/-- An event with the parser behind it, or an error. -/
abbrev Step := Except (Option SyntaxError) (Event × Grammar)

namespace Grammar

/-- The next token. The failure of the scanner counts only where there is none. -/
def peek (grammar : Grammar) : Except (Option SyntaxError) Token :=
  match grammar.stream.tokens with
  | token :: _ => .ok token
  | [] => .error grammar.stream.failure

/-- Consumes a token. -/
def drop (grammar : Grammar) : Grammar :=
  { grammar with stream := { grammar.stream with tokens := grammar.stream.tokens.tail } }

/-- Changes the state. -/
def expecting (grammar : Grammar) (expected : Expectation) : Grammar := { grammar with expected }

/-- Pushes a state to return to. -/
def awaiting (grammar : Grammar) (expected : Expectation) : Grammar :=
  { grammar with awaited := expected :: grammar.awaited }

/-- Returns to the last state pushed. -/
def resume (grammar : Grammar) : Grammar :=
  { grammar with expected := grammar.awaited.headD .nothing, awaited := grammar.awaited.tail }

/-- Leaves a collection. -/
def close (grammar : Grammar) : Grammar := { grammar.resume with opened := grammar.opened.tail }

/-- Enters a collection and consumes its opening token. -/
def enter (grammar : Grammar) (mark : Mark) : Grammar :=
  { grammar.drop with opened := mark :: grammar.opened }

/-- The event of a node that is left out. -/
def empty (grammar : Grammar) (mark : Mark) : Step :=
  .ok (⟨.scalar .none [] .plain, mark⟩, grammar)

/-- An error within the innermost collection. -/
def wrong (grammar : Grammar) (activity : Activity) (problem : Problem) (mark : Mark) : Step :=
  .error (some (.during activity (grammar.opened.headD Mark.start) problem mark))

/-- A tag with its handle resolved. -/
def fullTag (grammar : Grammar) (start mark : Mark) (handle suffix : List Char) :
    Except (Option SyntaxError) (List Char) :=
  if handle.isEmpty then .ok suffix
  else match grammar.handles.find? (·.1 = handle) with
    | some (_, beginning) => .ok (beginning ++ suffix)
    | none => .error (some (.during .parsingNode start .undefinedTagHandle mark))

/-- Reads anchor and tag of a node, in either order. -/
def properties (grammar : Grammar) : Except (Option SyntaxError) (Properties × Grammar) := do
  let first ← grammar.peek
  match first.kind with
  | .anchor name =>
    let grammar := grammar.drop
    let second ← grammar.peek
    match second.kind with
    | .tag handle suffix =>
      -- The token behind the tag is looked at before its handle is resolved.
      let tag ← (do let _ ← grammar.drop.peek; grammar.fullTag first.start second.start handle suffix)
      return (⟨some name, some tag⟩, grammar.drop)
    | _ => return (⟨some name, none⟩, grammar)
  | .tag handle suffix =>
    let grammar := grammar.drop
    let second ← grammar.peek
    match second.kind with
    | .anchor name =>
      let tag ← (do let _ ← grammar.drop.peek; grammar.fullTag first.start first.start handle suffix)
      return (⟨some name, some tag⟩, grammar.drop)
    | _ =>
      let tag ← grammar.fullTag first.start first.start handle suffix
      return (⟨none, some tag⟩, grammar)
  | _ => return (.none, grammar)

/-- Reads the first event of a node. -/
def node (grammar : Grammar) (block indentless : Bool) : Step := do
  let first ← grammar.peek
  if let .alias name := first.kind then
    return (⟨.alias name, first.start⟩, grammar.resume.drop)
  let (properties, grammar) ← grammar.properties
  let token ← grammar.peek
  let start := first.start
  match token.kind, block with
  | .scalar text style, _ =>
    -- The non-specific tag is dropped.
    let tag := properties.tag.filter (· ≠ ['!'])
    return (⟨.scalar { properties with tag } text style, start⟩, grammar.resume.drop)
  | .flowSequenceStart, _ =>
    return (⟨.sequenceStart properties, start⟩, grammar.expecting .flowFirstEntry)
  | .flowMappingStart, _ =>
    return (⟨.mappingStart properties, start⟩, grammar.expecting .flowFirstKey)
  | .blockSequenceStart, true =>
    return (⟨.sequenceStart properties, start⟩, grammar.expecting .blockFirstEntry)
  | .blockMappingStart, true =>
    return (⟨.mappingStart properties, start⟩, grammar.expecting .blockFirstKey)
  | kind, _ =>
    -- A block sequence below a key may stand in the column of the key.
    if indentless && kind = .blockEntry then
      return (⟨.sequenceStart properties, start⟩, grammar.expecting .indentlessEntry)
    -- Properties alone make an empty scalar.
    else if properties ≠ .none then
      return (⟨.scalar properties [] .plain, start⟩, grammar.resume)
    else
      throw (some (.during (if block then .parsingBlockNode else .parsingFlowNode) start
        .missingNodeContent token.start))

/-- Reads a node, or leaves it out in front of some tokens. -/
def nodeUnless (grammar : Grammar) (ends : TokenKind → Bool) (mark : Mark) (block indentless : Bool)
    (next : Expectation) : Step := do
  let token ← grammar.peek
  if ends token.kind then (grammar.expecting next).empty mark
  else (grammar.awaiting next).node block indentless

/-- The predefined tag handles. -/
def knownHandles : List (List Char × List Char) :=
  [("!".toList, "!".toList), ("!!".toList, "tag:yaml.org,2002:".toList)]

/-- Reads a number of directives. -/
def directives : Nat → Bool → Grammar → Except (Option SyntaxError) Grammar
  | 0, _, grammar => .ok grammar
  | steps + 1, versioned, grammar => do
    let token ← grammar.peek
    match token.kind with
    | .version major minor =>
      -- At most one version, and only 1.1 or 1.2.
      if versioned then throw (some (.at .duplicateVersion token.start))
      if major ≠ 1 ∨ (minor ≠ 1 ∧ minor ≠ 2) then throw (some (.at .incompatibleVersion token.start))
      directives steps true grammar.drop
    | .tagDirective handle beginning =>
      if grammar.handles.any (·.1 = handle) then throw (some (.at .duplicateTagHandle token.start))
      directives steps versioned
        { grammar.drop with handles := grammar.handles ++ [(handle, beginning)] }
    | _ => return { grammar with handles := grammar.handles ++ knownHandles }

/-- Skips the ends of documents. -/
def skipDocumentEnds (grammar : Grammar) : Grammar :=
  let tokens := grammar.stream.tokens.dropWhile (·.kind = .documentEnd)
  { grammar with stream := { grammar.stream with tokens } }

/-- Whether a token begins a document. -/
def beginsDocument : TokenKind → Bool
  | .version _ _ | .tagDirective _ _ | .documentStart | .streamEnd => true
  | _ => false

/-- Reads the start of a document. -/
def documentStart (grammar : Grammar) (implicit : Bool) : Step := do
  let grammar := if implicit then grammar else grammar.skipDocumentEnds
  let token ← grammar.peek
  -- Only the first document may begin without `---`.
  if implicit && !beginsDocument token.kind then
    let grammar ← grammar.directives 1 false
    return (⟨.documentStart, token.start⟩, (grammar.awaiting .documentEnd).expecting .blockNode)
  else if token.kind = .streamEnd then
    return (⟨.streamEnd, token.start⟩, (grammar.expecting .nothing).drop)
  else
    let grammar ← grammar.directives (grammar.stream.tokens.length + 1) false
    -- Directives have to be followed by `---`.
    let mark ← grammar.peek
    if mark.kind ≠ .documentStart then throw (some (.at .missingDocumentStart mark.start))
    return (⟨.documentStart, token.start⟩, ((grammar.awaiting .documentEnd).expecting .documentContent).drop)

/-- Reads the root of a document that begins with `---`. -/
def documentContent (grammar : Grammar) : Step := do
  let token ← grammar.peek
  if beginsDocument token.kind || token.kind = .documentEnd then grammar.resume.empty token.start
  else grammar.node true false

/-- Reads the end of a document. -/
def documentEnd (grammar : Grammar) : Step := do
  let token ← grammar.peek
  -- Handles are declared per document.
  let grammar := if token.kind = .documentEnd then grammar.drop else grammar
  return (⟨.documentEnd, token.start⟩, { grammar with handles := [], expected := .document })

/-- Reads an entry of a block sequence. -/
def blockEntry (grammar : Grammar) : Step := do
  let token ← grammar.peek
  match token.kind with
  | .blockEntry =>
    grammar.drop.nodeUnless (fun kind => kind = .blockEntry || kind = .blockEnd) token.stop true false
      .blockEntry
  | .blockEnd => return (⟨.sequenceEnd, token.start⟩, grammar.close.drop)
  | _ => grammar.wrong .parsingBlockCollection .missingDash token.start

/-- Whether a token cannot begin a node in a block mapping. -/
def endsBlockNode (kind : TokenKind) : Bool := kind = .key || kind = .value || kind = .blockEnd

/-- Reads an entry of a sequence that is not indented below its key. -/
def indentlessEntry (grammar : Grammar) : Step := do
  let token ← grammar.peek
  if token.kind = .blockEntry then
    grammar.drop.nodeUnless (fun kind => kind = .blockEntry || endsBlockNode kind) token.stop true false
      .indentlessEntry
  else return (⟨.sequenceEnd, token.start⟩, grammar.resume)

/-- Reads a key of a block mapping. -/
def blockKey (grammar : Grammar) : Step := do
  let token ← grammar.peek
  match token.kind with
  | .key => grammar.drop.nodeUnless endsBlockNode token.stop true true .blockValue
  | .blockEnd => return (⟨.mappingEnd, token.start⟩, grammar.close.drop)
  | _ => grammar.wrong .parsingBlockMapping .missingKey token.start

/-- Reads a value of a block mapping. -/
def blockValue (grammar : Grammar) : Step := do
  let token ← grammar.peek
  if token.kind = .value then grammar.drop.nodeUnless endsBlockNode token.stop true true .blockKey
  -- A key without a colon has an empty value.
  else (grammar.expecting .blockKey).empty token.start

/-- Consumes the comma in front of all entries of a flow collection but the first. -/
def comma (grammar : Grammar) (first : Bool) (ending : TokenKind) (activity : Activity)
    (problem : Problem) : Except (Option SyntaxError) Grammar := do
  let token ← grammar.peek
  if first || token.kind = ending then return grammar
  else if token.kind = .flowEntry then return grammar.drop
  else throw (some (.during activity (grammar.opened.headD Mark.start) problem token.start))

/-- Reads an entry of a flow sequence. -/
def flowEntry (grammar : Grammar) (first : Bool) : Step := do
  let grammar ← grammar.comma first .flowSequenceEnd .parsingFlowSequence .missingSequenceComma
  let token ← grammar.peek
  match token.kind with
  | .flowSequenceEnd => return (⟨.sequenceEnd, token.start⟩, grammar.close.drop)
  -- A key in a flow sequence is a mapping of a single pair.
  | .key => return (⟨.mappingStart .none, token.start⟩, (grammar.expecting .pairKey).drop)
  | _ => (grammar.awaiting .flowEntry).node false false

/-- Whether a token ends an entry of a flow sequence. -/
def endsEntry (kind : TokenKind) : Bool := kind = .flowEntry || kind = .flowSequenceEnd

/-- Reads the key of a single pair in a flow sequence. -/
def pairKey (grammar : Grammar) : Step := do
  let token ← grammar.peek
  if token.kind = .value || endsEntry token.kind then
    (grammar.expecting .pairValue).drop.empty token.stop
  else (grammar.awaiting .pairValue).node false false

/-- Reads the value of a single pair. -/
def pairValue (grammar : Grammar) : Step := do
  let token ← grammar.peek
  if token.kind = .value then
    let next ← grammar.drop.peek
    grammar.drop.nodeUnless endsEntry next.start false false .pairEnd
  else (grammar.expecting .pairEnd).empty token.start

/-- Ends a single pair. -/
def pairEnd (grammar : Grammar) : Step := do
  let token ← grammar.peek
  return (⟨.mappingEnd, token.start⟩, grammar.expecting .flowEntry)

/-- Whether a token ends an entry of a flow mapping. -/
def endsPair (kind : TokenKind) : Bool := kind = .flowEntry || kind = .flowMappingEnd

/-- Reads a key of a flow mapping. -/
def flowKey (grammar : Grammar) (first : Bool) : Step := do
  let grammar ← grammar.comma first .flowMappingEnd .parsingFlowMapping .missingMappingComma
  let token ← grammar.peek
  match token.kind with
  | .flowMappingEnd => return (⟨.mappingEnd, token.start⟩, grammar.close.drop)
  | .key =>
    let next ← grammar.drop.peek
    grammar.drop.nodeUnless (fun kind => kind = .value || endsPair kind) next.start false false .flowValue
  | _ => (grammar.awaiting .flowEmptyValue).node false false

/-- Reads a value of a flow mapping. -/
def flowValue (grammar : Grammar) : Step := do
  let token ← grammar.peek
  if token.kind = .value then
    let next ← grammar.drop.peek
    grammar.drop.nodeUnless endsPair next.start false false .flowKey
  else (grammar.expecting .flowKey).empty token.start

/-- Enters a collection and reads its first entry. -/
def entered (grammar : Grammar) (entry : Grammar → Step) : Step := do
  let token ← grammar.peek
  entry (grammar.enter token.start)

/-- Reads the next event. -/
def step (grammar : Grammar) : Step :=
  match grammar.expected with
  | .streamStart => do
    let token ← grammar.peek
    return (⟨.streamStart, token.start⟩, (grammar.expecting .implicitDocument).drop)
  | .implicitDocument => grammar.documentStart true
  | .document => grammar.documentStart false
  | .documentContent => grammar.documentContent
  | .documentEnd => grammar.documentEnd
  | .blockNode => grammar.node true false
  | .blockFirstEntry => grammar.entered blockEntry
  | .blockEntry => grammar.blockEntry
  | .indentlessEntry => grammar.indentlessEntry
  | .blockFirstKey => grammar.entered blockKey
  | .blockKey => grammar.blockKey
  | .blockValue => grammar.blockValue
  | .flowFirstEntry => grammar.entered (flowEntry · true)
  | .flowEntry => grammar.flowEntry false
  | .pairKey => grammar.pairKey
  | .pairValue => grammar.pairValue
  | .pairEnd => grammar.pairEnd
  | .flowFirstKey => grammar.entered (flowKey · true)
  | .flowKey => grammar.flowKey false
  | .flowValue => grammar.flowValue
  | .flowEmptyValue => do
    let token ← grammar.peek
    (grammar.expecting .flowKey).empty token.start
  | .nothing => .error none

end Grammar

/-- The events of a file, and the error that ends them. -/
structure EventStream where
  events : List Event
  failure : Option SyntaxError
  deriving DecidableEq, Repr

/-- The events from a state on, within a number of steps. -/
def eventsFrom : Nat → Grammar → EventStream
  | 0, _ => ⟨[], none⟩
  | steps + 1, grammar =>
    match grammar.step with
    | .error failure => ⟨[], failure⟩
    | .ok (event, grammar) =>
      let rest := eventsFrom steps grammar
      ⟨event :: rest.events, rest.failure⟩

/-- The events of a file. -/
def EventStream.ofTokens (stream : TokenStream) : EventStream :=
  -- A token starts at most one node, with a key, a value and an end around it.
  eventsFrom (4 * stream.tokens.length + 8) ⟨.streamStart, [], [], [], stream⟩

end AccessProbe.Yaml
