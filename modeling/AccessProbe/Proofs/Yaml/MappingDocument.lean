import AccessProbe.Proofs.Yaml.MappingEvents
import AccessProbe.Proofs.Yaml.Source
import AccessProbe.Yaml.Document

/-! The nodes of a mapping of scalars: from its bytes through tokens and events. -/

namespace AccessProbe.Yaml

/-- The node of an event, for the events of a mapping of scalars. -/
def EventKind.node? : EventKind → Option NodeKind
  | .scalar ⟨none, none⟩ text style => some (.scalar none (String.ofList text) style)
  | .mappingStart ⟨none, none⟩ => some (.mappingStart none)
  | .mappingEnd => some .mappingEnd
  | _ => none

/-- The nodes of a pair: the key and the value. -/
def Pair.nodes (pair : Pair) : List NodeKind :=
  [.scalar none (String.ofList pair.key) .plain, .scalar none (String.ofList pair.text) pair.style]

section Documents

variable {failure : Option SyntaxError} {events rest : List Event} {draft : Draft}

/-- An event with a node is added to the draft of the document. -/
theorem firstDocument_cons {event : Event} (becomes : event.kind.node?.isSome = true) :
    firstDocument failure (event :: rest) draft =
      firstDocument failure rest { draft with reversed := (event, none) :: draft.reversed } := by
  -- The three kinds of events with a node, for each of which the step is computed.
  obtain ⟨kind, mark⟩ := event
  change kind.node?.isSome = true at becomes
  unfold EventKind.node? at becomes
  split at becomes
  · rfl
  · rfl
  · rfl
  · cases becomes

/-- Events with nodes are added to the draft in order. -/
theorem firstDocument_append (become : ∀ event ∈ events, event.kind.node?.isSome = true) :
    firstDocument failure (events ++ rest) draft =
      firstDocument failure rest { draft with reversed := (events.map (·, none)).reverse ++ draft.reversed } := by
  -- Event by event, for every draft, which holds them in reverse.
  induction events generalizing draft with
  | nil => rfl
  | cons event events ih =>
    rw [List.cons_append, firstDocument_cons (become event (.head _)),
      ih fun other member => become other (.tail _ member)]
    simp

/-- An event becomes a node of its kind. -/
theorem kind_nodeOf {event : Event} {kind : NodeKind} (becomes : event.kind.node? = some kind)
    (positions : List (Nat × Nat)) : (nodeOf positions (event, none)).kind = kind := by
  -- The same three kinds of events.
  obtain ⟨given, mark⟩ := event
  change given.node? = some kind at becomes
  unfold EventKind.node? at becomes
  split at becomes
  · exact Option.some.inj becomes
  · exact Option.some.inj becomes
  · exact Option.some.inj becomes
  · cases becomes

/-- A document of events with nodes is read as these nodes, and the stream ends behind it. -/
theorem document_of_events (failure : Option SyntaxError) {kinds : List EventKind} {nodes : List NodeKind}
    (become : kinds.map (·.node?) = nodes.map some)
    (same : events.map (·.kind) = .streamStart :: .documentStart :: (kinds ++ [.documentEnd, .streamEnd])) :
    ∃ found mark, firstDocument failure events ⟨[], [], []⟩ = (⟨found, none⟩, [⟨.streamEnd, mark⟩]) ∧
      found.map (·.kind) = nodes := by
  -- Only the kinds are known, so that the events get their marks one by one.
  obtain ⟨⟨_, start⟩, events, rfl, rfl, begins⟩ := List.map_eq_cons_iff.mp same
  obtain ⟨⟨_, first⟩, events, rfl, rfl, content⟩ := List.map_eq_cons_iff.mp begins
  obtain ⟨inner, last, rfl, rfl, ends⟩ := List.map_eq_append_iff.mp content
  obtain ⟨⟨_, stop⟩, last, rfl, rfl, final⟩ := List.map_eq_cons_iff.mp ends
  obtain ⟨⟨_, mark⟩, last, rfl, rfl, empty⟩ := List.map_eq_cons_iff.mp final
  obtain rfl := List.map_eq_nil_iff.mp empty
  rw [List.map_map] at become
  -- Every event in between has a node, as the images are all `some`.
  have all : ∀ event ∈ inner, event.kind.node?.isSome = true := by
    intro event member
    have listed : event.kind.node? ∈ nodes.map some := become ▸ List.mem_map_of_mem member
    obtain ⟨node, _, found⟩ := List.mem_map.mp listed
    rw [← found]
    rfl
  refine ⟨inner.map fun event => nodeOf [] (event, none), mark, ?_, ?_⟩
  · have read := @firstDocument_append failure inner [⟨.documentEnd, stop⟩, ⟨.streamEnd, mark⟩] ⟨[], [], []⟩ all
    have begins : firstDocument failure (⟨.streamStart, start⟩ :: ⟨.documentStart, first⟩ ::
        (inner ++ [⟨.documentEnd, stop⟩, ⟨.streamEnd, mark⟩])) ⟨[], [], []⟩ =
        firstDocument failure (inner ++ [⟨.documentEnd, stop⟩, ⟨.streamEnd, mark⟩]) ⟨[], [], []⟩ := rfl
    rw [begins, read]
    simp [firstDocument, Draft.finish]
  · refine (List.map_inj_right fun _ _ => Option.some.inj).mp ?_
    rw [← become, List.map_map, List.map_map]
    refine List.map_congr_left fun event member => ?_
    obtain ⟨kind, becomes⟩ := Option.isSome_iff_exists.mp (all event member)
    simp [becomes, kind_nodeOf becomes]

end Documents

/-- The ways to write a mapping of scalars. A block mapping has at least one pair. -/
inductive WritesMapping : List Pair → List Char → Prop where
  /-- A block mapping, one pair per line. -/
  | block (pair : Pair) (pairs : List Pair) : WritesMapping (pair :: pairs) (blockText (pair :: pairs))
  /-- A flow mapping, with or without a line end behind it. -/
  | flow (pairs : List Pair) {tail : List Char} (ends : tail = [] ∨ tail = ['\n']) :
      WritesMapping pairs (flowText pairs tail)

section Characters

/-- Every character of a text is allowed in a document. -/
def IsAllowedText (text : List Char) : Prop := ∀ c ∈ text, isAllowed c.toNat = true

/-- A concatenation is allowed if and only if both parts are. -/
@[simp] theorem isAllowedText_append {first second : List Char} :
    IsAllowedText (first ++ second) ↔ IsAllowedText first ∧ IsAllowedText second :=
  List.forall_mem_append

/-- A text is allowed if and only if its first character and the rest are. -/
@[simp] theorem isAllowedText_cons {c : Char} {rest : List Char} :
    IsAllowedText (c :: rest) ↔ isAllowed c.toNat = true ∧ IsAllowedText rest :=
  List.forall_mem_cons

/-- The empty text is allowed. -/
@[simp] theorem isAllowedText_nil : IsAllowedText [] := fun _ member => by cases member

/-- Hexadecimal digits are allowed. -/
theorem isAllowed_of_hexDigit? {digit : Char} (hexadecimal : (hexDigit? digit).isSome = true) :
    isAllowed digit.toNat = true := by
  -- All three ranges of digits are within printable ASCII.
  have range : 0x20 ≤ digit.toNat ∧ digit.toNat ≤ 0x7E := by
    unfold hexDigit? at hexadecimal
    dsimp only at hexadecimal
    split at hexadecimal
    · omega
    · split at hexadecimal
      · omega
      · split at hexadecimal
        · omega
        · cases hexadecimal
  simp [isAllowed, range]

/-- The letters of escapes are allowed. -/
theorem isAllowed_of_escape? {letter : Char} {escape : Escape} (stands : escape? letter = some escape) :
    isAllowed letter.toNat = true := by
  unfold escape? at stands
  split at stands <;> first | rfl | cases stands

/-- Simple texts are allowed. -/
theorem isAllowedText_of_isSimple {text : List Char} (simple : ∀ c ∈ text, isSimple c = true) : IsAllowedText text :=
  fun c member => forall_isSimple (P := fun c => isAllowed c.toNat = true) (by decide) (simple c member)

/-- However a character is written between quotes, the text is allowed. -/
theorem WritesChar.isAllowedText {c : Char} {written : List Char} (writes : WritesChar c written) :
    IsAllowedText written := by
  -- An escape is a backslash, a letter and perhaps digits.
  have backslash : isAllowed 0x5C = true := by decide
  cases writes with
  | verbatim allowed => simpa using allowed
  | letter stands => simpa [backslash] using isAllowed_of_escape? stands
  | code wants hexadecimal =>
    have digits : IsAllowedText _ := fun digit member => isAllowed_of_hexDigit? (hexadecimal digit member)
    simpa [backslash, isAllowed_of_escape? wants] using digits

/-- However a text is written between quotes, the text is allowed. -/
theorem WritesQuoted.isAllowedText {text written : List Char} (writes : WritesQuoted text written) :
    IsAllowedText written := by
  induction writes with
  | nil => simp
  | cons char _ ih => simpa using ⟨char.isAllowedText, ih⟩

/-- However a scalar is written, the text is allowed. -/
theorem WritesScalar.isAllowedText {style : ScalarStyle} {text written : List Char}
    (writes : WritesScalar style text written) : IsAllowedText written := by
  -- The quotes themselves are allowed as well.
  have quote : isAllowed 0x22 = true := by decide
  cases writes with
  | quoted writes => simpa [quote] using writes.isAllowedText
  | word _ simple => exact isAllowedText_of_isSimple simple

/-- The text of a pair is allowed. -/
theorem Pair.isAllowedText_line (pair : Pair) : IsAllowedText pair.line := by
  -- A key is simple, and its value comes behind a colon and a space.
  have colon : isAllowed 0x3A = true := by decide
  have space : isAllowed 0x20 = true := by decide
  simpa [Pair.line, colon, space] using ⟨isAllowedText_of_isSimple pair.simple, pair.writes.isAllowedText⟩

/-- A text in parts is allowed if each part is. -/
theorem isAllowedText_flatMap {pairs : List Pair} {part : Pair → List Char}
    (allowed : ∀ pair, IsAllowedText (part pair)) : IsAllowedText (pairs.flatMap part) := by
  -- Every character belongs to one of the parts.
  intro c member
  obtain ⟨pair, _, inside⟩ := List.mem_flatMap.mp member
  exact allowed pair c inside

variable {pairs : List Pair} {text : List Char}

/-- However a mapping is written, the text is allowed. -/
theorem WritesMapping.isAllowedText (writes : WritesMapping pairs text) : IsAllowedText text := by
  -- The pairs are allowed, and so are the five indicators between them.
  have signs : ∀ code ∈ [0x0A, 0x20, 0x2C, 0x7B, 0x7D], isAllowed code = true := by decide
  cases writes with
  | block pair pairs =>
    refine isAllowedText_flatMap fun pair => ?_
    simpa [signs] using pair.isAllowedText_line
  | @flow _ tail ends =>
    have ending : IsAllowedText tail := by
      rcases ends with rfl | rfl <;> simp [signs]
    have rest (pairs : List Pair) : IsAllowedText (flowRest pairs tail) := by
      have others : IsAllowedText (pairs.flatMap fun pair => ',' :: ' ' :: pair.line) :=
        isAllowedText_flatMap fun pair => by simpa [signs] using pair.isAllowedText_line
      simpa [flowRest, signs] using ⟨others, ending⟩
    cases pairs with
    | nil => simpa [flowText, signs] using ending
    | cons pair pairs => simpa [flowText, signs] using ⟨pair.isAllowedText_line, rest pairs⟩

/-- However a mapping is written, it does not begin with a byte order mark. -/
theorem WritesMapping.head?_ne (writes : WritesMapping pairs text) : text.head? ≠ some '\uFEFF' := by
  -- A block mapping begins with a simple character, a flow mapping with a brace.
  cases writes with
  | block pair pairs =>
    intro mark
    have simple := isSimple_head_blockText (pair :: pairs) _ mark
    revert simple
    decide
  | @flow _ tail ends =>
    have brace : (flowText pairs tail).head? = some '\x7b' := by
      cases pairs <;> rfl
    simp [brace]

end Characters

variable {pairs : List Pair} {text : List Char}

/-- The events of a token stream are those that the grammar emits, if the stream has enough tokens for the
steps. -/
theorem EventStream.kinds_ofTokens {stream : TokenStream} {kinds : List TokenKind} {events : List EventKind}
    {steps : Nat} (same : stream.IsOf kinds)
    (emits : ∀ tokens, tokens.map (·.kind) = kinds →
      Grammar.Emits ⟨.streamStart, [], [], [], ⟨tokens, none⟩⟩ steps events)
    (enough : steps ≤ 4 * kinds.length + 8) :
    (ofTokens stream).events.map (·.kind) = events := by
  -- The stream takes four steps per token and eight more, which is what `enough` asks for.
  obtain ⟨tokens, failure⟩ := stream
  obtain ⟨same, rfl⟩ := same
  have length : kinds.length = tokens.length := by rw [← same, List.length_map]
  exact emits tokens same _ (by rw [← length]; exact enough)

/-- The events of a mapping of scalars. -/
def mappingKinds (pairs : List Pair) : List EventKind :=
  .mappingStart .none :: (pairs.flatMap Grammar.pairKinds ++ [.mappingEnd])

/-- A pair has four tokens. -/
theorem length_kinds (pairs : List Pair) : (pairs.flatMap Pair.kinds).length = 4 * pairs.length := by
  induction pairs with
  | nil => rfl
  | cons pair pairs ih =>
    rw [List.flatMap_cons, List.length_append, ih, List.length_cons]
    simp only [Pair.kinds, List.length_cons, List.length_nil]
    omega

/-- A flow mapping has at least four tokens per pair. -/
theorem length_flowKinds (pairs : List Pair) : 4 * pairs.length ≤ (flowKinds pairs).length := by
  cases pairs with
  | nil => simp
  | cons pair pairs =>
    -- Each pair behind the first one has a comma besides.
    have rest : 4 * pairs.length ≤ (Scan.flowRestKinds pairs).length := by
      induction pairs with
      | nil => simp
      | cons pair pairs ih =>
        simp only [Scan.flowRestKinds, Pair.kinds, List.flatMap_cons, List.length_append, List.length_cons,
          List.length_nil] at ih ⊢
        omega
    simp only [flowKinds, Pair.kinds, List.length_append, List.length_cons, List.length_nil]
    omega

/-- However a mapping is written, its events are the same. -/
theorem events_of_writes (writes : WritesMapping pairs text) :
    (EventStream.ofTokens (TokenStream.ofCursor ⟨Mark.start, text⟩)).events.map (·.kind) =
      .streamStart :: .documentStart :: (mappingKinds pairs ++ [.documentEnd, .streamEnd]) := by
  have parts : EventKind.streamStart :: .documentStart :: (mappingKinds pairs ++ [.documentEnd, .streamEnd]) =
      .streamStart :: .documentStart :: .mappingStart .none ::
        (pairs.flatMap Grammar.pairKinds ++ [.mappingEnd, .documentEnd, .streamEnd]) := by
    simp [mappingKinds]
  rw [parts]
  cases writes with
  | block pair pairs =>
    refine EventStream.kinds_ofTokens (TokenStream.isOf_block pair pairs) (fun tokens same =>
      Grammar.emits_start same (.inl ⟨rfl, rfl⟩) fun mark stop handles rest left => Grammar.emits_block left) ?_
    simp only [List.length_append, List.length_cons, length_kinds]
    omega
  | flow _ ends =>
    refine EventStream.kinds_ofTokens (TokenStream.isOf_flow pairs ends) (fun tokens same =>
      Grammar.emits_start same (.inr ⟨rfl, rfl⟩) fun mark stop handles rest left => Grammar.emits_flow left) ?_
    have length := length_flowKinds pairs
    simp only [List.length_cons]
    omega

/-- The events of a mapping become its nodes. -/
theorem node?_mappingKinds (pairs : List Pair) :
    (mappingKinds pairs).map (·.node?) =
      (NodeKind.mappingStart none :: (pairs.flatMap Pair.nodes ++ [.mappingEnd])).map some := by
  -- Pair by pair, between the start and the end of the mapping.
  have content : (pairs.flatMap Grammar.pairKinds).map (·.node?) = (pairs.flatMap Pair.nodes).map some := by
    induction pairs with
    | nil => rfl
    | cons pair pairs ih =>
      rw [List.flatMap_cons, List.map_append, ih, List.flatMap_cons, List.map_append]
      rfl
  simp only [mappingKinds, List.map_cons, List.map_append, content]
  rfl

/-- However a mapping is written, its bytes are read as the nodes of its pairs, in a stream of one document.
-/
theorem text_of_writes (writes : WritesMapping pairs text) :
    ∃ nodes, Text.ofBytes (Utf8.encode text) = ⟨⟨nodes, none⟩, true⟩ ∧
      nodes.map (·.kind) = .mappingStart none :: (pairs.flatMap Pair.nodes ++ [.mappingEnd]) := by
  obtain ⟨nodes, mark, document, same⟩ := document_of_events
    (EventStream.ofTokens (TokenStream.ofCursor ⟨Mark.start, text⟩)).failure (node?_mappingKinds pairs)
    (events_of_writes writes)
  refine ⟨nodes, ?_, same⟩
  -- The bytes decode to the text, whose tokens become events and these the nodes.
  rw [Text.ofBytes, readSource_encode writes.isAllowedText writes.head?_ne]
  simp only [document]
  rfl

end AccessProbe.Yaml
