import Mathlib.Data.List.TakeWhile
import AccessProbe.Proofs.Yaml.Scanning

/-! The steps of the scanner over a mapping of scalars, one lemma for each kind of token. -/

namespace AccessProbe.Yaml

namespace Scan

section Dispatch

variable {scan : Scan} {rest : List Char}

/-- A simple character begins a plain scalar. -/
theorem token_simple {c : Char} (found : scan.cursor.rest = c :: rest) (simple : isSimple c = true) :
    scan.token = scan.plainScalar := by
  -- Every other token begins with an indicator, and no simple character is one.
  obtain ⟨space, within, -⟩ := isSimple_kind simple
  have signs : "-?:,[]\x7b\x7d#&*!|>'\"%@\x60.".toList.contains c = false :=
    forall_isSimple (P := fun c => "-?:,[]\x7b\x7d#&*!|>'\"%@\x60.".toList.contains c = false) (by decide) simple
  simp only [String.reduceToList, List.contains_cons, List.contains_nil, Bool.or_false, Bool.or_eq_false_iff,
    beq_eq_false_iff_ne] at signs
  -- Document markers are dashes or points, which are no simple characters.
  have inside : scan.cursor.isAtDocumentMark = false := by
    unfold Cursor.isAtDocumentMark
    rw [found]
    split
    · rename_i same
      exact absurd (List.cons.inj same).1 signs.1
    · rename_i same
      simp [(List.cons.inj same).1] at signs
    · simp
  simp [token, found, inside, signs, startsPlain, space, within]

/-- A double quote begins a quoted scalar. -/
theorem token_quotes (found : scan.cursor.rest = '"' :: rest) :
    scan.token = scan.keyed (readQuotedScalar true) := by
  simp [token, found, Cursor.isAtDocumentMark]

/-- A colon in front of a space begins a value. -/
theorem token_colon (found : scan.cursor.rest = ':' :: ' ' :: rest) : scan.token = scan.valueSign := by
  simp [token, found, Cursor.isAtDocumentMark, isGap, isSpace]

/-- A comma separates the entries of a flow collection. -/
theorem token_comma (found : scan.cursor.rest = ',' :: rest) : scan.token = scan.flowEntry := by
  simp [token, found, Cursor.isAtDocumentMark]

/-- An opening brace begins a flow mapping. -/
theorem token_open (found : scan.cursor.rest = '\x7b' :: rest) :
    scan.token = scan.openFlow .flowMappingStart := by
  simp [token, found, Cursor.isAtDocumentMark]

/-- A closing brace ends a flow mapping. -/
theorem token_close (found : scan.cursor.rest = '\x7d' :: rest) :
    scan.token = scan.closeFlow .flowMappingEnd := by
  simp [token, found, Cursor.isAtDocumentMark]

/-- Behind the last character the stream ends. -/
theorem token_end (found : scan.cursor.rest = []) : scan.token = scan.endStream := by
  simp [token, found]

end Dispatch

section Steps

variable {scan : Scan} {cursor : Cursor} {outer : List (Option SimpleKey)} {columns below : List Nat}
  {released steps : Nat} {pending : List Token} {opening kinds : List TokenKind} {rest : List Char}

/-- The collections around an entry of a mapping: the possible keys, the columns in front of the entry and
behind its key, and the tokens that its key inserts. The first key of a block mapping opens it at column 0. A
flow mapping may be a key itself. -/
inductive Frame : List (Option SimpleKey) → List Nat → List Nat → List TokenKind → Prop where
  /-- The first entry of a block mapping. -/
  | first : Frame [] [] [0] [.blockMappingStart]
  /-- Another entry of a block mapping. -/
  | next : Frame [] [0] [0] []
  /-- An entry of a flow mapping. -/
  | flow (around : Option SimpleKey) : Frame [around] [] [] []

/-- No collection ends in front of an entry, nor behind its key. -/
theorem Frame.isLevel (frame : Frame outer columns below opening) (key : Option SimpleKey) (allowed : Bool) :
    IsLevel ⟨cursor, key :: outer, allowed, columns, released, pending⟩ ∧
      IsLevel ⟨cursor, key :: outer, allowed, below, released, pending⟩ := by
  cases frame <;> simp [IsLevel, inFlow]

/-- Around an entry the frame stays the same when stale keys are dropped. -/
theorem Frame.fresh (frame : Frame outer columns below opening) (scan : Scan) :
    Frame (scan.fresh outer) columns below opening := by
  -- Only a flow mapping has a possible key around it.
  cases frame with
  | first => exact .first
  | next => exact .next
  | flow around => exact .flow _

/-- A possible key on the same line within 1024 characters is not stale. -/
theorem isStale_skip (scan : Scan) {key : SimpleKey} {count : Nat} (begins : key.mark = cursor.mark)
    (near : count ≤ 1024) (here : scan.cursor = cursor.skip count) : scan.isStale key = false := by
  -- Skipping stays on the line, and the index grows by at most the count.
  have index : (cursor.skip count).mark.index ≤ cursor.mark.index + 1024 :=
    Nat.add_le_add_left (Nat.le_trans (Nat.min_le_left _ _) near) _
  have line : (cursor.skip count).mark.line = cursor.mark.line := rfl
  simp only [isStale, mark, begins, here, line]
  simpa using index

/-- There is one possible key around a flow mapping. -/
theorem Frame.exists_outer_eq (frame : Frame outer [] [] opening) : ∃ around, outer = [around] := by
  cases frame with
  | flow around => exact ⟨around, rfl⟩

/-- Of two frames with the same columns and tokens, both are of a block mapping or neither is. -/
theorem Frame.eq_nil (frame : Frame outer columns below opening) {around : List (Option SimpleKey)}
    (other : Frame around columns below opening) (none : around = []) : outer = [] := by
  subst none
  cases other <;> cases frame <;> rfl

/-- An insertion behind the first of two lists. -/
theorem insertIdx_append {α : Type} (first second : List α) (item : α) :
    (first ++ second).insertIdx first.length item = first ++ item :: second := by
  induction first with
  | nil => simp
  | cons head tail ih => simp [ih]

/-- Inside a mapping the scanner goes on with the token at the cursor. -/
theorem Frame.advance {allowed : Bool} (frame : Frame outer columns below opening) (idle : IsIdle outer)
    (there : scan.skipToToken = ⟨cursor, none :: outer, allowed, columns, released, pending⟩) :
    ∃ outer', Frame outer' columns below opening ∧ IsIdle outer' ∧
      scan.advance = (token ⟨cursor, none :: outer', allowed, columns, released, pending⟩).bind dropStale :=
  ⟨_, frame.fresh _, idle.fresh _, advance_eq there (idle.isSound_none _) ((frame.fresh _).isLevel _ _).1⟩

/-- Inside a mapping no required key is stale. -/
theorem Frame.dropStale {allowed : Bool} (frame : Frame outer columns below opening) (idle : IsIdle outer)
    (current : List Nat) :
    ∃ outer', Frame outer' columns below opening ∧ IsIdle outer' ∧
      dropStale ⟨cursor, none :: outer, allowed, current, released, pending⟩ =
        .ok ⟨cursor, none :: outer', allowed, current, released, pending⟩ :=
  ⟨_, frame.fresh _, idle.fresh _, dropStale_eq (idle.isSound_none _)⟩

/-- A possible key that has just begun is kept. -/
theorem Frame.dropStale_some (frame : Frame outer columns below opening) (idle : IsIdle outer) {next : Scan}
    {key : SimpleKey} {count : Nat} (keys : next.keys = some key :: outer) (begins : key.mark = cursor.mark)
    (near : count ≤ 1024) (here : next.cursor = cursor.skip count) :
    ∃ outer', Frame outer' columns below opening ∧ IsIdle outer' ∧
      Scan.dropStale next = .ok { next with keys := some key :: outer' } := by
  -- It is within 1024 characters, so that dropping affects the outer keys only.
  have kept := isStale_skip next begins near here
  have dropped := dropStale_eq (keys ▸ idle.isSound_some kept)
  rw [keys, fresh_some kept] at dropped
  exact ⟨_, frame.fresh _, idle.fresh _, dropped⟩

/-- Behind a possible key the scanner goes on with the token at the cursor. -/
theorem Frame.advance_some (frame : Frame outer columns below opening) (idle : IsIdle outer) {key : SimpleKey}
    {count : Nat} {allowed : Bool} (begins : key.mark = cursor.mark) (near : count ≤ 1024)
    (solid : ∀ c ∈ (cursor.skip count).rest.head?, IsSolid c) :
    ∃ outer', Frame outer' columns below opening ∧ IsIdle outer' ∧
      Scan.advance ⟨cursor.skip count, some key :: outer, allowed, columns, released, pending⟩ =
        (token ⟨cursor.skip count, some key :: outer', allowed, columns, released, pending⟩).bind Scan.dropStale := by
  -- Nothing is skipped, no collection ends, and the possible key is kept.
  let scan : Scan := ⟨cursor.skip count, some key :: outer, allowed, columns, released, pending⟩
  have here : scan.skipToToken = scan := skipToToken_here solid
  have kept : scan.isStale key = false := isStale_skip scan begins near rfl
  have around := frame.fresh scan
  have advanced := advance_eq here (idle.isSound_some kept) (by rw [fresh_some kept]; exact (around.isLevel _ _).1)
  rw [fresh_some kept] at advanced
  exact ⟨_, around, idle.fresh scan, advanced⟩

/-- A plain scalar in front of a colon is registered as a possible key. -/
theorem plainScalar_key {word : List Char} (simple : ∀ c ∈ word, isSimple c = true)
    (found : cursor.rest = word ++ ':' :: ' ' :: rest) :
    ∃ required, plainScalar ⟨cursor, none :: outer, true, columns, released, pending⟩ =
      .ok ⟨cursor.skip word.length, some ⟨required, released + pending.length, cursor.mark⟩ :: outer, false, columns,
        released, pending ++ [wordToken word cursor]⟩ := by
  -- The key is required on a line of a block mapping that is open already.
  refine ⟨!inFlow ⟨cursor, none :: outer, true, columns, released, pending⟩ &&
    decide (columns.head? = some cursor.mark.column), ?_⟩
  simp only [plainScalar, saveKey, dropKey, if_true, Bind.bind, Except.bind, Pure.pure, Except.pure,
    readPlainScalar_colon simple found, push, List.tail_cons]
  rfl

/-- A step over a plain scalar in front of a colon. -/
theorem advance_key {word : List Char} (frame : Frame outer columns below opening)
    (there : scan.skipToToken = ⟨cursor, none :: outer, true, columns, released, pending⟩) (idle : IsIdle outer)
    (nonempty : word ≠ []) (simple : ∀ c ∈ word, isSimple c = true) (short : word.length ≤ 1024)
    (found : cursor.rest = word ++ ':' :: ' ' :: rest) :
    ∃ required outer', scan.advance = .ok ⟨cursor.skip word.length,
        some ⟨required, released + pending.length, cursor.mark⟩ :: outer', false, columns, released,
        pending ++ [wordToken word cursor]⟩ ∧
      Frame outer' columns below opening ∧ IsIdle outer' := by
  -- The scalar is registered as a possible key, which is not stale behind it.
  obtain ⟨around, kept, quiet, advanced⟩ := frame.advance idle there
  obtain ⟨required, read⟩ := @plainScalar_key cursor around columns released pending rest word simple found
  obtain ⟨c, letters, rfl⟩ := List.exists_cons_of_ne_nil nonempty
  obtain ⟨last, same, silent, dropped⟩ := @Frame.dropStale_some cursor _ _ _ _ kept quiet
    ⟨cursor.skip (c :: letters).length, some ⟨required, released + pending.length, cursor.mark⟩ :: around, false,
      columns, released, pending ++ [wordToken (c :: letters) cursor]⟩ _ _ rfl rfl short rfl
  refine ⟨required, last, ?_, same, silent⟩
  rw [advanced, token_simple found (simple c (.head _)), read]
  exact dropped

/-- A colon inserts the key token in front of the scalar that may be a key. -/
theorem valueSign_key {required : Bool} {before : List Token} {token : Token} {start : Mark}
    (frame : Frame outer columns below opening) (column : outer = [] → start.column = 0) :
    ∃ signs, valueSign ⟨cursor, some ⟨required, released + before.length, start⟩ :: outer, false, columns, released,
        before ++ [token]⟩ = .ok ⟨cursor.skip 1, none :: outer, false, below, released, before ++ signs⟩ ∧
      signs.map (·.kind) = opening ++ [.key, token.kind, .value] := by
  -- The insertion is computed for each frame.
  have place : released + before.length - released = before.length := by omega
  cases frame with
  -- The first key of a block mapping opens it as well.
  | first =>
    refine ⟨[⟨.blockMappingStart, start, start⟩, ⟨.key, start, start⟩, token,
      ⟨.value, cursor.mark, (cursor.skip 1).mark⟩], ?_, rfl⟩
    simp [valueSign, openColumn, isDeeper, inFlow, insertAt, place, insertIdx_append, pushSign, push, mark, column]
  | next =>
    refine ⟨[⟨.key, start, start⟩, token, ⟨.value, cursor.mark, (cursor.skip 1).mark⟩], ?_, rfl⟩
    simp [valueSign, openColumn, isDeeper, inFlow, insertAt, place, insertIdx_append, pushSign, push, mark, column]
  | flow around =>
    refine ⟨[⟨.key, start, start⟩, token, ⟨.value, cursor.mark, (cursor.skip 1).mark⟩], ?_, rfl⟩
    simp [valueSign, openColumn, inFlow, insertAt, place, insertIdx_append, pushSign, push, mark]

/-- A step over the colon behind a possible key. -/
theorem advance_valueSign {required : Bool} {before : List Token} {word : List Char}
    (frame : Frame outer columns below opening) (idle : IsIdle outer) (short : word.length ≤ 1024)
    (found : cursor.rest = word ++ ':' :: ' ' :: rest) (column : outer = [] → cursor.mark.column = 0) :
    ∃ outer' signs, advance ⟨cursor.skip word.length, some ⟨required, released + before.length, cursor.mark⟩ :: outer,
        false, columns, released, before ++ [wordToken word cursor]⟩ =
      .ok ⟨cursor.skip (word.length + 1), none :: outer', false, below, released, before ++ signs⟩ ∧
      signs.map (·.kind) = opening ++ [.key, .scalar word .plain, .value] ∧
      Frame outer' columns below opening ∧ IsIdle outer' := by
  -- Behind the scalar the cursor is at the colon, and the key is not stale yet.
  have behind : (cursor.skip word.length).rest = ':' :: ' ' :: rest := Cursor.rest_skip found
  obtain ⟨around, kept, quiet, advanced⟩ := @Frame.advance_some cursor outer columns below released
    (before ++ [wordToken word cursor]) opening frame idle ⟨required, released + before.length, cursor.mark⟩
    word.length false rfl short (by simp [behind, IsSolid, isSpace, isBreak])
  have start : around = [] → cursor.mark.column = 0 := fun none => column (frame.eq_nil kept none)
  obtain ⟨signs, read, kinds⟩ := @valueSign_key (cursor.skip word.length) around columns below released opening
    required before (wordToken word cursor) cursor.mark kept start
  obtain ⟨last, same, silent, dropped⟩ := @Frame.dropStale ((cursor.skip word.length).skip 1) around columns below
    released (before ++ signs) opening false kept quiet below
  refine ⟨last, signs, ?_, kinds, same, silent⟩
  rw [advanced, token_colon behind, read, ← Cursor.skip_skip]
  exact dropped

/-- The tokens that a key inserts do not end the stream. -/
theorem Frame.isOpen (frame : Frame outer columns below opening) : TokenKind.streamEnd ∉ opening := by
  cases frame <;> simp

/-- A key and its colon take two steps. -/
theorem yields_key {word : List Char} (frame : Frame outer columns below opening) (idle : IsIdle outer)
    (goesOn : IsOpen pending)
    (there : scan.skipToToken = ⟨cursor, none :: outer, true, columns, released, pending⟩) (nonempty : word ≠ [])
    (simple : ∀ c ∈ word, isSimple c = true) (short : word.length ≤ 1024)
    (found : cursor.rest = word ++ ':' :: ' ' :: rest) (column : outer = [] → cursor.mark.column = 0)
    (value : ∀ outer' released' pending', Frame outer' columns below opening → IsIdle outer' → IsOpen pending' →
      Yields ⟨cursor.skip (word.length + 1), none :: outer', false, below, released', pending'⟩ steps
        (pending'.map (·.kind) ++ kinds)) :
    scan.Yields (steps + 2)
      (pending.map (·.kind) ++ (opening ++ [.key, .scalar word .plain, .value] ++ kinds)) := by
  -- After the first step the scalar is kept back; the colon then makes a key of it.
  obtain ⟨required, around, first, kept, quiet⟩ := advance_key frame there idle nonempty simple short found
  let key : SimpleKey := ⟨required, released + pending.length, cursor.mark⟩
  let between : Scan := ⟨cursor.skip word.length, some key :: around, false, columns, released,
    pending ++ [wordToken word cursor]⟩
  -- The tokens from the possible key on are kept back.
  have count : between.certain ≤ pending.length := by
    have bound := @certain_le_number between key (.head _)
    simpa [key, between] using bound
  have left : between.release.2 = ⟨cursor.skip word.length, some ⟨required, released + between.certain +
      (pending.drop between.certain).length, cursor.mark⟩ :: around, false, columns, released + between.certain,
      pending.drop between.certain ++ [wordToken word cursor]⟩ := by
    have number : released + between.certain + (pending.drop between.certain).length = released + pending.length := by
      rw [List.length_drop]
      omega
    rw [number, ← List.drop_append_of_le_length count]
    rfl
  have start : around = [] → cursor.mark.column = 0 := fun none => column (frame.eq_nil kept none)
  obtain ⟨last, signs, second, spelled, same, silent⟩ := @advance_valueSign cursor around columns below
    (released + between.certain) opening rest required (pending.drop between.certain) word kept quiet short found start
  have more : IsOpen (pending.drop between.certain ++ signs) :=
    (goesOn.drop _).append (by rw [IsOpen, spelled]; simp [frame.isOpen])
  -- The two steps, the second one first, as each says what comes in front of the rest.
  have behind := Yields.grow second more (value _ _ _ same silent (more.drop _))
  have one : IsOpen (pending ++ [wordToken word cursor]) := goesOn.append (by simp [IsOpen, wordToken])
  have all := Yields.step first one (left ▸ behind)
  have certain : (pending ++ [wordToken word cursor]).take between.certain = pending.take between.certain :=
    List.take_append_of_le_length count
  have parts : (pending.take between.certain).map (·.kind) ++ (pending.drop between.certain).map (·.kind) =
      pending.map (·.kind) := by
    rw [← List.map_append, List.take_append_drop]
  rw [List.map_append, spelled, certain] at all
  rw [← parts]
  simpa only [List.append_assoc, List.cons_append, List.nil_append] using all

/-- Behind the first key of a block mapping the mapping is open. -/
theorem Frame.inside (frame : Frame outer columns below opening) : Frame outer below below [] := by
  cases frame with
  | first => exact .next
  | next => exact .next
  | flow around => exact .flow around

/-- A step that appends one token of a kind and moves the cursor. -/
def Takes (kind : TokenKind) (scan : Scan) (behind : Cursor) (allowed : Bool) : Prop :=
  ∃ token : Token, token.kind = kind ∧
    scan.token = .ok { scan with cursor := behind, keyAllowed := allowed, pending := scan.pending ++ [token] }

/-- A quoted scalar is taken as a value. -/
theorem takes_quoted {text written : List Char} (writes : WritesQuoted text written)
    (found : cursor.rest = '"' :: (written ++ '"' :: rest)) :
    Takes (.scalar text .doubleQuoted) ⟨cursor, none :: outer, false, columns, released, pending⟩
      (cursor.skip (written.length + 2)) false := by
  -- No key is allowed here, so that none is registered.
  refine ⟨⟨.scalar text .doubleQuoted, cursor.mark, (cursor.skip (written.length + 2)).mark⟩, rfl, ?_⟩
  rw [token_quotes found]
  simp only [keyed, saveKey, Bool.false_eq_true, if_false, Bind.bind, Except.bind, Pure.pure, Except.pure,
    readQuotedScalar_writes writes found]
  rfl

/-- A plain scalar is taken as a value. -/
theorem takes_word {word : List Char} {behind : Cursor} {allowed : Bool} (nonempty : word ≠ [])
    (simple : ∀ c ∈ word, isSimple c = true) (found : cursor.rest = word ++ rest)
    (read : readPlainScalar (inFlow ⟨cursor, none :: outer, false, columns, released, pending⟩)
      ((columns.head?.map (· + 1)).getD 0) cursor = .ok (wordToken word cursor, behind, allowed)) :
    Takes (.scalar word .plain) ⟨cursor, none :: outer, false, columns, released, pending⟩ behind allowed := by
  -- As for a quoted scalar, with the cursor where the scalar ends.
  refine ⟨wordToken word cursor, rfl, ?_⟩
  obtain ⟨c, letters, rfl⟩ := List.exists_cons_of_ne_nil nonempty
  rw [token_simple found (simple c (.head _))]
  simp only [plainScalar, saveKey, Bool.false_eq_true, if_false, Bind.bind, Except.bind, Pure.pure, Except.pure, read]
  rfl

/-- In a flow mapping a value ends in front of an indicator. -/
theorem takes_flow {style : ScalarStyle} {text written : List Char} {c : Char} {around : Option SimpleKey}
    (writes : WritesScalar style text written) (found : cursor.rest = written ++ c :: rest)
    (sign : isFlowMark c = true) :
    Takes (.scalar text style) ⟨cursor, [none, around], false, columns, released, pending⟩
      (cursor.skip written.length)
      false := by
  cases writes with
  | @quoted text written writes =>
    have length : ('"' :: (written ++ ['"'])).length = written.length + 2 := by simp
    rw [length]
    exact takes_quoted writes (by simpa using found)
  | word nonempty simple =>
    exact takes_word nonempty simple found (readPlainScalar_sign simple found sign)

/-- In a block mapping a quoted value ends in front of its line feed, and a plain one behind it. -/
theorem takes_block {style : ScalarStyle} {text written : List Char}
    (writes : WritesScalar style text written) (found : cursor.rest = written ++ '\n' :: rest)
    (next : ∀ c ∈ rest.head?, isSimple c = true) :
    Takes (.scalar text style) ⟨cursor, [none], false, [0], released, pending⟩ (cursor.skip written.length) false ∨
      Takes (.scalar text style) ⟨cursor, [none], false, [0], released, pending⟩ (cursor.skip written.length).skipLine
        true := by
  -- Only the scanning of a plain scalar looks beyond the line feed.
  cases writes with
  | @quoted text written writes =>
    have length : ('"' :: (written ++ ['"'])).length = written.length + 2 := by simp
    rw [length]
    exact .inl (takes_quoted writes (by simpa using found))
  | word nonempty simple =>
    exact .inr (takes_word nonempty simple found (readPlainScalar_line simple found (by decide) next))

/-- A token that inserts nothing in front of itself takes one step. -/
theorem yields_token {kind : TokenKind} {behind : Cursor} {allowed : Bool} (within : kind ≠ .streamEnd)
    (frame : Frame outer below below []) (idle : IsIdle outer) (goesOn : IsOpen pending)
    (there : scan.skipToToken = ⟨cursor, none :: outer, false, below, released, pending⟩)
    (reads : ∀ outer', Frame outer' below below [] →
      Takes kind ⟨cursor, none :: outer', false, below, released, pending⟩ behind allowed)
    (next : ∀ outer' released' pending', Frame outer' below below [] → IsIdle outer' → IsOpen pending' →
      Yields ⟨behind, none :: outer', allowed, below, released', pending'⟩ steps (pending'.map (·.kind) ++ kinds)) :
    scan.Yields (steps + 1) (pending.map (·.kind) ++ kind :: kinds) := by
  -- The step appends the token to those kept back, and the rest follows.
  obtain ⟨around, kept, quiet, advanced⟩ := frame.advance idle there
  obtain ⟨token, same, read⟩ := reads around kept
  obtain ⟨last, left, silent, dropped⟩ := @Frame.dropStale behind around below below released (pending ++ [token]) []
    allowed kept quiet below
  rw [read] at advanced
  have more : IsOpen (pending ++ [token]) := goesOn.append (by simpa [IsOpen, same] using within.symm)
  have all := Yields.grow (advanced.trans dropped) more (next _ _ _ left silent (more.drop _))
  simpa [same] using all

/-- At the end of the stream all block collections are closed. -/
theorem closeColumns_none (outside : scan.inFlow = false) : scan.closeColumns none =
    { scan with
      columns := []
      pending := scan.pending ++ scan.columns.map fun _ => ⟨.blockEnd, scan.mark, scan.mark⟩ } := by
  -- Without a column to compare with, none is kept.
  have closes : scan.columns.takeWhile (fun deeper => (none : Option Nat).all (· < deeper)) = scan.columns := by
    rw [List.takeWhile_eq_self_iff]
    simp
  simp only [closeColumns, outside, closes]
  simp

/-- A possible key that is not required is dropped. -/
theorem dropKey_idle {around : Option SimpleKey} (keys : scan.keys = [around]) (idle : IsIdle [around]) :
    scan.dropKey = .ok { scan with keys := [none] } := by
  -- There is nothing to drop, or a key that may be missing its colon.
  cases around with
  | none =>
    obtain ⟨_, _, _, _, _, _⟩ := scan
    cases keys
    rfl
  | some key =>
    have free := idle key (.head _)
    simp [dropKey, keys, free]

/-- The end of the stream closes the block collections and drops the possible key. -/
theorem endStream_eq {around : Option SimpleKey} (idle : IsIdle [around]) (allowed : Bool) :
    ∃ next : Scan, endStream ⟨cursor, [around], allowed, columns, released, pending⟩ = .ok next ∧
      next.keys = [none] ∧
      next.pending.map (·.kind) = pending.map (·.kind) ++ (columns.map (fun _ => .blockEnd) ++ [.streamEnd]) := by
  let mark : Mark := if cursor.mark.column = 0 then cursor.mark else ⟨cursor.mark.index, cursor.mark.line + 1, 0⟩
  let scan : Scan := ⟨⟨mark, cursor.rest⟩, [around], allowed, columns, released, pending⟩
  refine ⟨⟨⟨mark, cursor.rest⟩, [none], false, [], released,
    pending ++ columns.map (fun _ => ⟨.blockEnd, mark, mark⟩) ++ [⟨.streamEnd, mark, mark⟩]⟩, ?_, rfl, by simp⟩
  -- The end of the last line moves the mark only.
  have closed : scan.closeColumns none = ⟨⟨mark, cursor.rest⟩, [around], allowed, [], released,
      pending ++ columns.map (fun _ => ⟨.blockEnd, mark, mark⟩)⟩ := closeColumns_none rfl
  have ended : endStream ⟨cursor, [around], allowed, columns, released, pending⟩ =
      ((scan.closeColumns none).dropKey.bind fun scan =>
        .ok ({ scan with keyAllowed := false }.pushHere .streamEnd)) := rfl
  rw [ended, closed, dropKey_idle rfl idle]
  rfl

/-- The end of the stream takes one step. -/
theorem yields_end {around : Option SimpleKey} {allowed : Bool} (idle : IsIdle [around])
    (there : scan.skipToToken = ⟨cursor, [around], allowed, columns, released, pending⟩) (found : cursor.rest = [])
    (level : ∀ column ∈ columns.head?, column ≤ cursor.mark.column) :
    scan.Yields 1 (pending.map (·.kind) ++ (columns.map (fun _ => .blockEnd) ++ [.streamEnd])) := by
  have advanced := advance_eq there (idle.isSound _) (.inr level)
  have quiet := idle.fresh ⟨cursor, [around], allowed, columns, released, pending⟩
  -- No possible key is left, so that every token is released.
  obtain ⟨next, ended, keys, kinds⟩ := @endStream_eq cursor columns released pending _ quiet allowed
  have left : next.dropStale = .ok next := by
    have dropped := @dropStale_eq next (by rw [keys]; exact IsIdle.isSound_none (by simp [IsIdle]) _)
    rw [dropped, keys]
    obtain ⟨_, _, _, _, _, _⟩ := next
    cases keys
    rfl
  have all : scan.advance = .ok next := by
    rw [advanced, token_end found]
    exact (congrArg (Except.bind · Scan.dropStale) ended).trans left
  have final : ∃ token ∈ next.pending, token.kind = .streamEnd :=
    List.mem_map.mp (by rw [kinds]; simp)
  rw [← kinds]
  exact Yields.last all (certain_of_keys keys) final

/-- A comma is taken, and a key may begin behind it. -/
theorem takes_comma {around : Option SimpleKey} (found : cursor.rest = ',' :: rest) :
    Takes .flowEntry ⟨cursor, [none, around], false, [], released, pending⟩ (cursor.skip 1) true :=
  ⟨⟨.flowEntry, cursor.mark, (cursor.skip 1).mark⟩, rfl, by rw [token_comma found]; rfl⟩

/-- The opening brace takes one step, and is registered as a possible key. -/
theorem yields_open (there : scan.skipToToken = ⟨cursor, [none], true, [], released, []⟩)
    (found : cursor.rest = '\x7b' :: rest)
    (next : ∀ around released' pending', IsIdle [around] → IsOpen pending' →
      Yields ⟨cursor.skip 1, [none, around], true, [], released', pending'⟩ steps (pending'.map (·.kind) ++ kinds)) :
    scan.Yields (steps + 1) (.flowMappingStart :: kinds) := by
  let brace : Token := ⟨.flowMappingStart, cursor.mark, (cursor.skip 1).mark⟩
  have read : openFlow ⟨cursor, [none], true, [], released, []⟩ .flowMappingStart =
      .ok ⟨cursor.skip 1, [none, some ⟨false, released, cursor.mark⟩], true, [], released, [brace]⟩ := rfl
  -- A flow mapping may be a key, and this one need not be.
  have idle : IsIdle [some ⟨false, released, cursor.mark⟩] := by simp [IsIdle]
  obtain ⟨around, same, quiet, dropped⟩ := @Frame.dropStale (cursor.skip 1) _ [] [] released [brace] [] true
    (.flow (some ⟨false, released, cursor.mark⟩)) idle []
  obtain ⟨around, rfl⟩ := same.exists_outer_eq
  have advanced := advance_eq there (by simp [IsSound]) (.inr (by simp))
  rw [token_open found] at advanced
  have all := Yields.grow (advanced.trans ((congrArg (Except.bind · Scan.dropStale) read).trans dropped))
    (by simp [IsOpen, brace]) (next _ _ _ quiet (IsOpen.drop (by simp [IsOpen, brace]) _))
  exact all

/-- Behind a flow mapping only a line feed is skipped. -/
theorem skipToToken_tail {around : Option SimpleKey} {allowed : Bool}
    (ends : cursor.rest = [] ∨ cursor.rest = ['\n']) :
    ∃ place allowed', skipToToken ⟨cursor, [around], allowed, [], released, pending⟩ =
      ⟨place, [around], allowed', [], released, pending⟩ ∧ place.rest = [] := by
  -- With and without a line feed.
  rcases ends with none | line
  · exact ⟨cursor, allowed, skipToToken_here (by simp [none]), none⟩
  · have behind : cursor.skipLine.rest = [] := by simp [Cursor.skipLine, line, isBreak]
    refine ⟨cursor.skipLine, allowed || !inFlow ⟨cursor, [around], allowed, [], released, pending⟩, ?_, behind⟩
    rw [skipToToken_line line]
    exact skipToToken_here (by simp [behind])

/-- The closing brace takes one step, and the end of the stream another one. -/
theorem yields_close {around : Option SimpleKey} {allowed : Bool} {tail : List Char} (idle : IsIdle [around])
    (goesOn : IsOpen pending)
    (there : scan.skipToToken = ⟨cursor, [none, around], allowed, [], released, pending⟩)
    (found : cursor.rest = '\x7d' :: tail) (ends : tail = [] ∨ tail = ['\n']) :
    scan.Yields 2 (pending.map (·.kind) ++ [.flowMappingEnd, .streamEnd]) := by
  -- The brace leaves the collection; then `yields_end` applies behind the line feed.
  let brace : Token := ⟨.flowMappingEnd, cursor.mark, (cursor.skip 1).mark⟩
  obtain ⟨outer, same, quiet, advanced⟩ := (Frame.flow around).advance idle there
  obtain ⟨around, rfl⟩ := same.exists_outer_eq
  rw [token_close found] at advanced
  let outside : Scan := ⟨cursor.skip 1, [around], false, [], released, pending ++ [brace]⟩
  have read : closeFlow ⟨cursor, [none, around], allowed, [], released, pending⟩ .flowMappingEnd = .ok outside := rfl
  let next : Scan := { outside with keys := outside.fresh outside.keys }
  have dropped : outside.dropStale = .ok next := dropStale_eq (quiet.isSound _)
  have more : IsOpen next.pending := goesOn.append (by simp [IsOpen, brace])
  have behind : (cursor.skip 1).rest = tail := @Cursor.rest_skip cursor ['\x7d'] _ found
  obtain ⟨place, allowed, there, final⟩ := @skipToToken_tail (cursor.skip 1) (released + next.certain)
    (next.pending.drop next.certain) (around.filter (! outside.isStale ·)) false (by rw [behind]; exact ends)
  have last : next.release.2.Yields 1 (next.release.2.pending.map (·.kind) ++ [.streamEnd]) :=
    yields_end (quiet.fresh outside) there final (by simp)
  have all := Yields.grow (advanced.trans ((congrArg (Except.bind · Scan.dropStale) read).trans dropped)) more last
  simpa [next, outside, brace] using all

end Steps

end Scan

end AccessProbe.Yaml
