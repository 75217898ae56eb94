import AccessProbe.Proofs.Yaml.Scalars

/-! Steps of the scanner, and the tokens that are kept back for a possible key. -/

namespace AccessProbe.Yaml

namespace Scan

variable {scan next : Scan} {all : List TokenKind} {steps : Nat}

/-- The next token, and the possible keys that are not stale behind it. -/
def advance (scan : Scan) : Except SyntaxError Scan := scan.next.bind dropStale

/-- With at least so many steps, the scanner yields tokens of the given kinds from a state on, without an
error. -/
def Yields (scan : Scan) (steps : Nat) (all : List TokenKind) : Prop :=
  ∀ enough, steps ≤ enough →
    (tokensFrom enough scan).tokens.map (·.kind) = all ∧ (tokensFrom enough scan).failure = none

/-- The stream does not end with the tokens. -/
def IsOpen (pending : List Token) : Prop := .streamEnd ∉ pending.map (·.kind)

/-- The tokens that a step releases come in front of those of the further steps. -/
theorem Yields.step (advanced : scan.advance = .ok next) (goesOn : IsOpen next.pending)
    (rest : next.release.2.Yields steps all) :
    scan.Yields (steps + 1) ((next.pending.take next.certain).map (·.kind) ++ all) := by
  -- One step is used up, and the others are left for the rest.
  intro enough bound
  obtain ⟨enough, rfl⟩ : ∃ more, enough = more + 1 := ⟨enough - 1, by omega⟩
  obtain ⟨kinds, failure⟩ := rest enough (by omega)
  have advanced : scan.next.bind dropStale = .ok next := advanced
  -- The scanner stops at the end of the stream, which is not among these tokens.
  have more : (next.pending.take next.certain).any (fun token => decide (token.kind = .streamEnd)) = false := by
    rw [List.any_eq_false]
    intro token member ends
    exact goesOn (List.mem_map.mpr ⟨token, List.mem_of_mem_take member, of_decide_eq_true ends⟩)
  rw [tokensFrom, advanced]
  simp only [release, more] at kinds failure ⊢
  exact ⟨by simp [kinds], failure⟩

/-- The tokens kept back may be counted from the step that finds them. -/
theorem Yields.grow {kinds : List TokenKind} (advanced : scan.advance = .ok next) (goesOn : IsOpen next.pending)
    (rest : next.release.2.Yields steps (next.release.2.pending.map (·.kind) ++ kinds)) :
    scan.Yields (steps + 1) (next.pending.map (·.kind) ++ kinds) := by
  have grown := Yields.step advanced goesOn rest
  -- The tokens that are not released stay pending, in front of all that follows.
  have parts : (next.pending.take next.certain).map (·.kind) ++ next.release.2.pending.map (·.kind) =
      next.pending.map (·.kind) := by
    rw [← List.map_append]
    exact congrArg _ (List.take_append_drop _ _)
  rwa [← List.append_assoc, parts] at grown

/-- Fewer tokens do not end the stream either. -/
theorem IsOpen.drop {pending : List Token} (goesOn : IsOpen pending) (count : Nat) : IsOpen (pending.drop count) :=
  fun ends => goesOn (by rw [List.map_drop] at ends; exact List.mem_of_mem_drop ends)

/-- Nor do the tokens of two lists that do not. -/
theorem IsOpen.append {pending more : List Token} (goesOn : IsOpen pending) (further : IsOpen more) :
    IsOpen (pending ++ more) := by
  rw [IsOpen, List.map_append, List.mem_append, not_or]
  exact ⟨goesOn, further⟩

/-- The step that finds the end of the stream is the last one. -/
theorem Yields.last (advanced : scan.advance = .ok next) (certain : next.certain = next.pending.length)
    (ends : ∃ token ∈ next.pending, token.kind = .streamEnd) : scan.Yields 1 (next.pending.map (·.kind)) := by
  -- All tokens are released, and the end of the stream is among them.
  intro enough bound
  obtain ⟨enough, rfl⟩ : ∃ more, enough = more + 1 := ⟨enough - 1, by omega⟩
  have advanced : scan.next.bind dropStale = .ok next := advanced
  have final : next.pending.any (fun token => decide (token.kind = .streamEnd)) = true := by
    rw [List.any_eq_true]
    simpa using ends
  rw [tokensFrom, advanced]
  simp only [release, certain, List.take_length, final, if_true, and_self]

/-- A minimum is at most each of its numbers. -/
theorem foldl_min_le (numbers : List Nat) (first : Nat) :
    numbers.foldl min first ≤ first ∧ ∀ number ∈ numbers, numbers.foldl min first ≤ number := by
  -- Number by number, for every first one.
  induction numbers generalizing first with
  | nil => simp
  | cons number numbers ih =>
    obtain ⟨below, least⟩ := ih (min first number)
    refine ⟨Nat.le_trans below (Nat.min_le_left _ _), List.forall_mem_cons.mpr ⟨?_, least⟩⟩
    exact Nat.le_trans below (Nat.min_le_right _ _)

/-- Tokens from a possible key on are kept back. -/
theorem certain_le_number {key : SimpleKey} (saved : some key ∈ scan.keys) :
    scan.certain ≤ key.number - scan.released :=
  (foldl_min_le _ _).2 _ (List.mem_filterMap.mpr ⟨some key, saved, rfl⟩)

/-- Without a possible key every token is released. -/
theorem certain_of_keys (none : scan.keys = [none]) : scan.certain = scan.pending.length := by
  simp [certain, none]

/-- No possible key is required. -/
def IsIdle (keys : List (Option SimpleKey)) : Prop := ∀ key, some key ∈ keys → key.required = false

/-- No required key is stale. -/
def IsSound (scan : Scan) (keys : List (Option SimpleKey)) : Prop :=
  ∀ key, some key ∈ keys → key.required = true → scan.isStale key = false

/-- The possible keys that are not stale. -/
def fresh (scan : Scan) (keys : List (Option SimpleKey)) : List (Option SimpleKey) :=
  keys.map fun key => key.filter (! scan.isStale ·)

namespace IsIdle

variable {keys : List (Option SimpleKey)}

/-- Dropping stale keys leaves none that is required. -/
theorem fresh (idle : IsIdle keys) (scan : Scan) : IsIdle (scan.fresh keys) := by
  -- Every key that is left was there before.
  intro key member
  obtain ⟨saved, there, kept⟩ := List.mem_map.mp member
  obtain ⟨rfl, -⟩ := Option.filter_eq_some_iff.mp kept
  exact idle key there

/-- Keys that are not required are sound. -/
theorem isSound (idle : IsIdle keys) (scan : Scan) : scan.IsSound keys := by
  -- A key is never required.
  intro key member required
  rw [idle key member] at required
  cases required

/-- So they are behind a place without a possible key. -/
theorem isSound_none (idle : IsIdle keys) (scan : Scan) : scan.IsSound (none :: keys) :=
  fun key member => idle.isSound scan key (by simpa using member)

/-- So they are behind a possible key that is not stale. -/
theorem isSound_some (idle : IsIdle keys) {key : SimpleKey} (near : scan.isStale key = false) :
    scan.IsSound (some key :: keys) := by
  -- The first key is not stale, and the others are not required.
  intro other member required
  rcases List.mem_cons.mp member with same | behind
  · rwa [Option.some.inj same]
  · exact idle.isSound scan other behind required

end IsIdle

/-- A possible key that is not stale is kept. -/
theorem fresh_some {key : SimpleKey} (near : scan.isStale key = false) (keys : List (Option SimpleKey)) :
    scan.fresh (some key :: keys) = some key :: scan.fresh keys := by
  simp [fresh, near]

/-- Stale keys are dropped without an error if none of them is required. -/
theorem dropStale_eq (sound : scan.IsSound scan.keys) :
    scan.dropStale = .ok { scan with keys := scan.fresh scan.keys } := by
  unfold dropStale
  -- Only a required key that is stale would be an error.
  have none : scan.keys.reverse.findSome? (fun key => key.bind fun key =>
      if scan.isStale key && key.required then some key else Option.none) = Option.none := by
    rw [List.findSome?_eq_none_iff]
    intro key member
    cases key with
    | none => rfl
    | some key =>
      have kept := sound key (List.mem_reverse.mp member)
      cases required : key.required with
      | false => simp [required]
      | true => simp [kept required]
  rw [none]
  rfl

/-- No block collection ends at the cursor. -/
def IsLevel (scan : Scan) : Prop := scan.inFlow = true ∨ ∀ column ∈ scan.columns.head?, column ≤ scan.mark.column

/-- Where no block collection ends, none is closed. -/
theorem closeColumns_of_isLevel (level : scan.IsLevel) : scan.closeColumns (some scan.mark.column) = scan := by
  -- In a flow collection nothing is closed; otherwise the innermost column is not deeper than the cursor.
  unfold closeColumns
  split
  · rfl
  · rename_i outside
    have none : scan.columns.takeWhile (fun deeper => (some scan.mark.column).all (· < deeper)) = [] := by
      rcases level with inside | left
      · exact absurd inside outside
      · cases columns : scan.columns with
        | nil => rfl
        | cons column rest =>
          have bound := left column (by rw [columns]; rfl)
          simp [Nat.not_lt.mpr bound]
    simp only [none]
    simp

/-- A step is the token at the place where the blanks end, if no required key is stale and no collection ends
there. -/
theorem advance_eq {ready : Scan} (there : scan.skipToToken = ready) (sound : ready.IsSound ready.keys)
    (level : IsLevel { ready with keys := ready.fresh ready.keys }) :
    scan.advance = (token { ready with keys := ready.fresh ready.keys }).bind dropStale := by
  -- Of the four parts of a step, two change nothing.
  have closed := closeColumns_of_isLevel level
  have read : scan.next = token { ready with keys := ready.fresh ready.keys } := by
    unfold next
    rw [there, dropStale_eq sound]
    exact congrArg token closed
  rw [advance, read]

section Places

variable {rest : List Char} {count : Nat}

/-- A character that is skipped neither as a blank or line break nor as a comment. -/
def IsSolid (c : Char) : Prop := isSpace c = false ∧ isBreak c = false ∧ c ≠ '#'

/-- Spaces are skipped together. -/
theorem skipBlanks_spaces {cursor : Cursor} (found : cursor.rest = List.replicate count ' ' ++ rest)
    (stops : ∀ c ∈ rest.head?, isSpace c = false ∧ c ≠ '#') (tabs : Bool) :
    skipBlanks tabs cursor = cursor.skip count := by
  -- The blanks are the spaces, and no comment is behind them.
  have blanks : cursor.rest.takeWhile (fun c => c = ' ' || (tabs && c = '\t')) = List.replicate count ' ' := by
    rw [found, List.takeWhile_append_of_pos (by simp)]
    cases rest with
    | nil => simp
    | cons c rest =>
      have space := (stops c rfl).1
      simp only [isSpace, Bool.or_eq_false_iff, decide_eq_false_iff_not] at space
      simp [space]
  have behind : (cursor.skip count).rest = rest := by
    have skipped := Cursor.rest_skip found
    rwa [List.length_replicate] at skipped
  have comment : rest.head? ≠ some '#' := fun sign => (stops '#' sign).2 rfl
  simp [skipBlanks, Cursor.skipWhile, blanks, behind, comment]

/-- Spaces in front of a token or the end of the stream are skipped. -/
theorem skipToToken_spaces (found : scan.cursor.rest = List.replicate count ' ' ++ rest)
    (solid : ∀ c ∈ rest.head?, IsSolid c) :
    scan.skipToToken = { scan with cursor := scan.cursor.skip count } := by
  -- Behind the spaces there is no line break, so that the skipping ends.
  have behind : (scan.cursor.skip count).rest = rest := by
    have skipped := Cursor.rest_skip found
    rwa [List.length_replicate] at skipped
  have blanks := skipBlanks_spaces found (fun c member => ⟨(solid c member).1, (solid c member).2.2⟩)
    (scan.inFlow || !scan.keyAllowed)
  rw [skipToToken]
  simp only [blanks]
  split
  · rename_i c more same
    rw [blanks, behind] at same
    rw [dif_neg (by simp [(solid c (by rw [same]; rfl)).2.1])]
  · rfl

/-- In front of a token or the end of the stream nothing is skipped. -/
theorem skipToToken_here (solid : ∀ c ∈ scan.cursor.rest.head?, IsSolid c) : scan.skipToToken = scan :=
  @skipToToken_spaces scan scan.cursor.rest 0 rfl solid

/-- A line feed is skipped, and in a block collection a key may begin behind it. -/
theorem skipToToken_line (found : scan.cursor.rest = '\n' :: rest) : scan.skipToToken =
    skipToToken { scan with cursor := scan.cursor.skipLine, keyAllowed := scan.keyAllowed || !scan.inFlow } := by
  -- There are no blanks in front of the line feed.
  have blanks := @skipBlanks_spaces ('\n' :: rest) 0 scan.cursor found
    (fun c member => by cases member; decide) (scan.inFlow || !scan.keyAllowed)
  have blanks : skipBlanks (scan.inFlow || !scan.keyAllowed) scan.cursor = scan.cursor := blanks
  conv => lhs; rw [skipToToken]
  simp only [blanks]
  split
  · rename_i c more same
    rw [blanks] at same
    obtain ⟨rfl, rfl⟩ := List.cons.inj (found.symm.trans same)
    rw [dif_pos (by decide)]
  · rename_i none
    simp [blanks, found] at none

end Places

end Scan

end AccessProbe.Yaml
