import AccessProbe.Proofs.Yaml.MappingText
import AccessProbe.Yaml.Event

/-! The events of a mapping of scalars, step by step from its tokens. -/

namespace AccessProbe.Yaml

namespace Grammar

variable {grammar next : Grammar} {event : Event} {kinds : List EventKind} {steps : Nat} {pairs : List Pair}
  {pair : Pair} {awaited : List Expectation} {opened : List Mark} {handles : List (List Char × List Char)}
  {rest : List Token}

/-- With at least so many steps, the grammar emits events of the given kinds from a state on. -/
def Emits (grammar : Grammar) (steps : Nat) (kinds : List EventKind) : Prop :=
  ∀ enough, steps ≤ enough → (eventsFrom enough grammar).events.map (·.kind) = kinds

/-- The event of a step comes in front of those of the further steps. -/
theorem Emits.step (made : grammar.step = .ok (event, next)) (rest : next.Emits steps kinds) :
    grammar.Emits (steps + 1) (event.kind :: kinds) := by
  -- One step is used up, and the others are left for the rest.
  intro enough bound
  obtain ⟨enough, rfl⟩ : ∃ more, enough = more + 1 := ⟨enough - 1, by omega⟩
  have same := rest enough (by omega)
  rw [eventsFrom, made]
  exact congrArg _ same

/-- The events of a pair: the key and the value. -/
def pairKinds (pair : Pair) : List EventKind :=
  [.scalar .none pair.key .plain, .scalar .none pair.text pair.style]

/-- Tokens that begin with the kinds of a pair, with their marks. -/
theorem exists_tokens_eq {tokens : List Token} {more : List TokenKind}
    (same : tokens.map (·.kind) = pair.kinds ++ more) : ∃ (key name sign value : Mark × Mark) (rest : List Token),
      tokens = ⟨.key, key.1, key.2⟩ :: ⟨.scalar pair.key .plain, name.1, name.2⟩ :: ⟨.value, sign.1, sign.2⟩ ::
        ⟨.scalar pair.text pair.style, value.1, value.2⟩ :: rest ∧ rest.map (·.kind) = more := by
  -- The four tokens are taken off in order.
  simp only [Pair.kinds, List.cons_append, List.nil_append, List.map_eq_cons_iff] at same
  obtain ⟨key, _, rfl, isKey, name, _, rfl, isName, sign, _, rfl, isSign, value, rest, rfl, isValue, more⟩ := same
  refine ⟨(key.start, key.stop), (name.start, name.stop), (sign.start, sign.stop), (value.start, value.stop), rest,
    ?_, more⟩
  rw [← isKey, ← isName, ← isSign, ← isValue]

/-- Tokens that begin with a kind, with the marks of the first one. -/
theorem exists_token_eq {tokens : List Token} {kind : TokenKind} {more : List TokenKind}
    (same : tokens.map (·.kind) = kind :: more) :
    ∃ (start stop : Mark) (rest : List Token), tokens = ⟨kind, start, stop⟩ :: rest ∧ rest.map (·.kind) = more := by
  obtain ⟨⟨_, start, stop⟩, rest, rfl, rfl, more⟩ := List.map_eq_cons_iff.mp same
  exact ⟨start, stop, rest, rfl, more⟩

/-- States with the same next step emit the same events. -/
theorem Emits.congr {other : Grammar} (same : grammar.step = other.step) (emits : other.Emits steps kinds) :
    grammar.Emits steps kinds := by
  -- The state is used for its next step only.
  intro enough bound
  have equal : eventsFrom enough grammar = eventsFrom enough other := by
    cases enough with
    | zero => rfl
    | succ enough => rw [eventsFrom, eventsFrom, same]
  rw [equal]
  exact emits enough bound

/-- Behind the end of the stream nothing is emitted. -/
theorem emits_nothing : Emits ⟨.nothing, awaited, opened, handles, ⟨rest, none⟩⟩ 0 [] := by
  intro enough _
  cases enough <;> rfl

/-- At the end of the stream the document ends first. -/
theorem emits_end {tokens : List Token} (same : tokens.map (·.kind) = [.streamEnd]) :
    Emits ⟨.documentEnd, awaited, opened, handles, ⟨tokens, none⟩⟩ 2 [.documentEnd, .streamEnd] := by
  -- Two steps: the document ends without a marker, then the stream.
  obtain ⟨start, stop, rest, rfl, final⟩ := exists_token_eq same
  obtain rfl := List.map_eq_nil_iff.mp final
  have document : step ⟨.documentEnd, awaited, opened, handles, ⟨[⟨.streamEnd, start, stop⟩], none⟩⟩ =
      .ok (⟨.documentEnd, start⟩, ⟨.document, awaited, opened, [], ⟨[⟨.streamEnd, start, stop⟩], none⟩⟩) := rfl
  have stream : step ⟨.document, awaited, opened, [], ⟨[⟨.streamEnd, start, stop⟩], none⟩⟩ =
      .ok (⟨.streamEnd, start⟩, ⟨.nothing, awaited, opened, [], ⟨[], none⟩⟩) := rfl
  exact Emits.step document (Emits.step stream emits_nothing)

/-- A stream begins with a document without marker, and that with the mapping. -/
theorem emits_start {tokens : List Token} {kind : TokenKind} {expected : Expectation} {more : List TokenKind}
    (same : tokens.map (·.kind) = .streamStart :: kind :: more)
    (mapping : kind = .blockMappingStart ∧ expected = .blockFirstKey ∨
      kind = .flowMappingStart ∧ expected = .flowFirstKey)
    (next : ∀ (mark stop : Mark) (handles : List (List Char × List Char)) (rest : List Token),
      rest.map (·.kind) = more → Emits ⟨expected, [.documentEnd], [], handles,
        ⟨⟨kind, mark, stop⟩ :: rest, none⟩⟩ steps kinds) :
    Emits ⟨.streamStart, [], [], [], ⟨tokens, none⟩⟩ (steps + 3)
      (.streamStart :: .documentStart :: .mappingStart .none :: kinds) := by
  obtain ⟨start, stop, tokens, rfl, first⟩ := exists_token_eq same
  obtain ⟨mark, behind, rest, rfl, left⟩ := exists_token_eq first
  -- The token that opens the mapping is only looked at here. The step of the first key takes it.
  have stream : step ⟨.streamStart, [], [], [], ⟨⟨.streamStart, start, stop⟩ :: ⟨kind, mark, behind⟩ :: rest, none⟩⟩ =
      .ok (⟨.streamStart, start⟩, ⟨.implicitDocument, [], [], [], ⟨⟨kind, mark, behind⟩ :: rest, none⟩⟩) := rfl
  have document : step ⟨.implicitDocument, [], [], [], ⟨⟨kind, mark, behind⟩ :: rest, none⟩⟩ =
      .ok (⟨.documentStart, mark⟩, ⟨.blockNode, [.documentEnd], [], knownHandles,
        ⟨⟨kind, mark, behind⟩ :: rest, none⟩⟩) := by
    rcases mapping with ⟨rfl, rfl⟩ | ⟨rfl, rfl⟩ <;> rfl
  have node : step ⟨.blockNode, [.documentEnd], [], knownHandles, ⟨⟨kind, mark, behind⟩ :: rest, none⟩⟩ =
      .ok (⟨.mappingStart .none, mark⟩, ⟨expected, [.documentEnd], [], knownHandles,
        ⟨⟨kind, mark, behind⟩ :: rest, none⟩⟩) := by
    rcases mapping with ⟨rfl, rfl⟩ | ⟨rfl, rfl⟩ <;> rfl
  exact Emits.step stream (Emits.step document (Emits.step node (next _ _ _ _ left)))

/-- A pair of a block mapping is emitted as two events. -/
theorem emits_line {tokens : List Token} {more : List TokenKind} (same : tokens.map (·.kind) = pair.kinds ++ more)
    (next : ∀ rest, rest.map (·.kind) = more → Emits ⟨.blockKey, awaited, opened, handles,
      ⟨rest, none⟩⟩ steps kinds) :
    Emits ⟨.blockKey, awaited, opened, handles, ⟨tokens, none⟩⟩ (steps + 2) (pairKinds pair ++ kinds) := by
  -- One step for the key with its scalar, one for the value.
  obtain ⟨key, name, sign, value, rest, rfl, left⟩ := exists_tokens_eq same
  let behind : List Token := ⟨.value, sign.1, sign.2⟩ :: ⟨.scalar pair.text pair.style, value.1, value.2⟩ :: rest
  have keyStep : step ⟨.blockKey, awaited, opened, handles,
      ⟨⟨.key, key.1, key.2⟩ :: ⟨.scalar pair.key .plain, name.1, name.2⟩ :: behind, none⟩⟩ =
      .ok (⟨.scalar .none pair.key .plain, name.1⟩, ⟨.blockValue, awaited, opened, handles, ⟨behind, none⟩⟩) := rfl
  have valueStep : step ⟨.blockValue, awaited, opened, handles, ⟨behind, none⟩⟩ =
      .ok (⟨.scalar .none pair.text pair.style, value.1⟩, ⟨.blockKey, awaited, opened, handles, ⟨rest, none⟩⟩) := rfl
  exact Emits.step keyStep (Emits.step valueStep (next rest left))

/-- The pairs of a block mapping are emitted in order, and behind them the document ends. -/
theorem emits_lines {tokens : List Token}
    (same : tokens.map (·.kind) = pairs.flatMap Pair.kinds ++ [.blockEnd, .streamEnd]) :
    Emits ⟨.blockKey, [.documentEnd], opened, handles, ⟨tokens, none⟩⟩ (2 * pairs.length + 3)
      (pairs.flatMap pairKinds ++ [.mappingEnd, .documentEnd, .streamEnd]) := by
  -- Pair by pair, for every token list with these kinds.
  induction pairs generalizing tokens with
  | nil =>
    obtain ⟨start, stop, rest, rfl, final⟩ := exists_token_eq same
    have ends : step ⟨.blockKey, [.documentEnd], opened, handles, ⟨⟨.blockEnd, start, stop⟩ :: rest, none⟩⟩ =
        .ok (⟨.mappingEnd, start⟩, ⟨.documentEnd, [], opened.tail, handles, ⟨rest, none⟩⟩) := rfl
    exact Emits.step ends (emits_end final)
  | cons pair pairs ih =>
    have line : tokens.map (·.kind) = pair.kinds ++ (pairs.flatMap Pair.kinds ++ [.blockEnd, .streamEnd]) := by
      simpa using same
    have read := @emits_line _ _ pair _ opened handles _ _ line fun rest left => ih left
    simpa [Nat.mul_add] using read

/-- The first pair of a block mapping is emitted like the others. -/
theorem emits_block {tokens : List Token} {start stop : Mark}
    (same : tokens.map (·.kind) = (pair :: pairs).flatMap Pair.kinds ++ [.blockEnd, .streamEnd]) :
    Emits ⟨.blockFirstKey, [.documentEnd], opened, handles, ⟨⟨.blockMappingStart, start, stop⟩ :: tokens, none⟩⟩
      (2 * (pair :: pairs).length + 3)
      ((pair :: pairs).flatMap pairKinds ++ [.mappingEnd, .documentEnd, .streamEnd]) := by
  -- The token that opens the mapping has no event of its own.
  refine Emits.congr ?_ (@emits_lines (pair :: pairs) (start :: opened) handles tokens same)
  obtain ⟨key, name, sign, value, rest, rfl, -⟩ := exists_tokens_eq (by simpa using same)
  rfl

/-- A pair of a flow mapping behind a comma is emitted as two events. -/
theorem emits_item {tokens : List Token} {more : List TokenKind}
    (same : tokens.map (·.kind) = .flowEntry :: (pair.kinds ++ more))
    (next : ∀ rest, rest.map (·.kind) = more → Emits ⟨.flowKey, awaited, opened, handles, ⟨rest, none⟩⟩ steps kinds) :
    Emits ⟨.flowKey, awaited, opened, handles, ⟨tokens, none⟩⟩ (steps + 2) (pairKinds pair ++ kinds) := by
  -- One step for the comma and the key, one for the value.
  obtain ⟨start, stop, tokens, rfl, item⟩ := exists_token_eq same
  obtain ⟨key, name, sign, value, rest, rfl, left⟩ := exists_tokens_eq item
  let behind : List Token := ⟨.value, sign.1, sign.2⟩ :: ⟨.scalar pair.text pair.style, value.1, value.2⟩ :: rest
  have keyStep : step ⟨.flowKey, awaited, opened, handles, ⟨⟨.flowEntry, start, stop⟩ ::
      ⟨.key, key.1, key.2⟩ :: ⟨.scalar pair.key .plain, name.1, name.2⟩ :: behind, none⟩⟩ =
      .ok (⟨.scalar .none pair.key .plain, name.1⟩, ⟨.flowValue, awaited, opened, handles, ⟨behind, none⟩⟩) := rfl
  have valueStep : step ⟨.flowValue, awaited, opened, handles, ⟨behind, none⟩⟩ =
      .ok (⟨.scalar .none pair.text pair.style, value.1⟩, ⟨.flowKey, awaited, opened, handles, ⟨rest, none⟩⟩) := rfl
  exact Emits.step keyStep (Emits.step valueStep (next rest left))

/-- The pairs of a flow mapping behind commas are emitted in order, and behind them the document ends. -/
theorem emits_items {tokens : List Token} (same : tokens.map (·.kind) = Scan.flowRestKinds pairs) :
    Emits ⟨.flowKey, [.documentEnd], opened, handles, ⟨tokens, none⟩⟩ (2 * pairs.length + 3)
      (pairs.flatMap pairKinds ++ [.mappingEnd, .documentEnd, .streamEnd]) := by
  -- Pair by pair, as in `emits_lines`.
  induction pairs generalizing tokens with
  | nil =>
    obtain ⟨start, stop, rest, rfl, final⟩ := exists_token_eq same
    have ends : step ⟨.flowKey, [.documentEnd], opened, handles, ⟨⟨.flowMappingEnd, start, stop⟩ :: rest, none⟩⟩ =
        .ok (⟨.mappingEnd, start⟩, ⟨.documentEnd, [], opened.tail, handles, ⟨rest, none⟩⟩) := rfl
    exact Emits.step ends (emits_end final)
  | cons pair pairs ih =>
    have item : tokens.map (·.kind) = .flowEntry :: (pair.kinds ++ Scan.flowRestKinds pairs) := by
      simpa [Scan.flowRestKinds] using same
    have read := @emits_item _ _ pair _ opened handles _ _ item fun rest left => ih left
    simpa [Nat.mul_add] using read

/-- The first pair of a flow mapping is emitted like one behind a comma. -/
theorem emits_flow {tokens : List Token} {start stop : Mark} (same : tokens.map (·.kind) = flowKinds pairs) :
    Emits ⟨.flowFirstKey, [.documentEnd], opened, handles, ⟨⟨.flowMappingStart, start, stop⟩ :: tokens, none⟩⟩
      (2 * pairs.length + 3) (pairs.flatMap pairKinds ++ [.mappingEnd, .documentEnd, .streamEnd]) := by
  cases pairs with
  | nil =>
    -- A mapping may end in place of its first key.
    refine Emits.congr ?_ (@emits_items [] (start :: opened) handles tokens same)
    obtain ⟨start, stop, rest, rfl, -⟩ := exists_token_eq same
    rfl
  | cons pair pairs =>
    -- A comma in front of the first key would make no event either, so that the step is the same with one.
    have comma : ((⟨.flowEntry, start, start⟩ : Token) :: tokens).map (·.kind) =
        Scan.flowRestKinds (pair :: pairs) := by
      simpa [flowKinds, Scan.flowRestKinds] using same
    refine Emits.congr ?_ (@emits_items (pair :: pairs) (start :: opened) handles _ comma)
    obtain ⟨key, name, sign, value, rest, rfl, -⟩ := exists_tokens_eq same
    rfl

end Grammar

end AccessProbe.Yaml
