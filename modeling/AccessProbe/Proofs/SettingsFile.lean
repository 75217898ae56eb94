import Mathlib.Data.List.Nodup
import AccessProbe.Proofs.Configuration

/-! The settings of a configuration file, entry by entry. -/

namespace AccessProbe

namespace Yaml

/-- The entries of a mapping, given the nodes after its start, if the mapping ends. -/
def mappingEntries? : List Node → Option (List (Node × Node))
  | [] => none
  | [key] => if key.kind = .mappingEnd then some [] else none
  | key :: value :: nodes =>
    if key.kind = .mappingEnd then some [] else (mappingEntries? nodes).map ((key, value) :: ·)

/-- The string of a node that is a scalar. -/
def Document.text? (document : Document) (node : Node) : Option String :=
  match (document.target node).kind with
  | .scalar _ text _ => some text
  | _ => none

/-- A document with no node or an empty plain scalar. -/
def Document.IsBlank (document : Document) : Prop :=
  ∃ node nodes, document.nodes = node :: nodes ∧ (node.kind = .absent ∨ ∃ tag, node.kind = .scalar tag "" .plain)

variable {σ : Type} {document : Document} {state last : σ}

/-- Reading a mapping succeeds if it ends and all of its entries are read in turn, each with a value. -/
theorem readEntries_eq_ok_iff {read : EntryReader σ} {nodes : List Node}
    (needs : ∀ state key last, read document state key none ≠ .ok last) :
    readEntries document read state nodes = .ok last ↔ ∃ entries, mappingEntries? nodes = some entries ∧
      entries.foldlM (fun state entry => read document state entry.1 (some entry.2)) state = .ok last := by
  -- Induction along `readEntries`; a key without a value is never read.
  fun_induction readEntries document read state nodes with
  | case1 state => simp [mappingEntries?]
  | case2 state key isEnd => simp [mappingEntries?, isEnd, Pure.pure, Except.pure]
  | case3 state key more => simp [mappingEntries?, more, needs]
  | case4 state key value nodes isEnd => simp [mappingEntries?, isEnd, Pure.pure, Except.pure]
  | case5 state key value nodes more ih =>
    -- Both sides read the first entry, and fail with it.
    cases taken : read document state key (some value) with
    | error cause => simp [mappingEntries?, more, taken, Bind.bind, Except.bind]
    | ok next => simp [mappingEntries?, more, taken, Bind.bind, Except.bind, ih]

/-- A document is read as the entries of its mapping, or as no entries if it is blank. -/
theorem readMapping_eq_ok_iff {wanted : String} {read : Mark → EntryReader σ}
    (needs : ∀ mark state key last, read mark document state key none ≠ .ok last) :
    readMapping wanted read state document = .ok last ↔ document.IsBlank ∧ last = state ∨
      ∃ tag start nodes entries, document.nodes = ⟨.mappingStart tag, start⟩ :: nodes ∧
        mappingEntries? nodes = some entries ∧
        entries.foldlM (fun state entry => read start document state entry.1 (some entry.2)) state = .ok last := by
  -- A blank document leaves the state, a mapping passes it through its entries, and anything else is refused.
  unfold readMapping Document.IsBlank
  split
  · rename_i none
    simp [none]
  · rename_i node nodes found
    obtain ⟨kind, start⟩ := node
    rw [found]
    -- The kind of the first node decides which of the two cases applies.
    split
    · rename_i absent
      obtain rfl : kind = .absent := absent
      simp [eq_comm]
    · rename_i tag begins
      obtain rfl : kind = .mappingStart tag := begins
      simp [readEntries_eq_ok_iff (needs start)]
    · rename_i tag blank
      obtain rfl : kind = .scalar tag "" .plain := blank
      simp [eq_comm]
    · rename_i absent begins blank
      simp_all

/-- A string is read from a scalar node. -/
theorem readString_eq_ok_iff {wanted : String} {path : Option String} {node : Node} {text : String} :
    readString wanted path document node = .ok text ↔ document.text? node = some text := by
  -- Both sides look at the kind of the node.
  unfold readString Document.text?
  split <;> simp_all

/-- A text is read from its document, if nothing is wrong after it and it is the only one. -/
theorem read_eq_ok_iff {text : Text} {read : Document → Except Error σ} :
    text.read read = .ok last ↔
      read text.document = .ok last ∧ text.document.failure = none ∧ text.alone = true := by
  -- `Text.read` runs these three tests in turn.
  unfold Text.read
  cases made : read text.document with
  | error cause => simp [Bind.bind, Except.bind]
  | ok value =>
    cases failed : text.document.failure with
    | some cause => simp [Bind.bind, Except.bind, throw, throwThe, MonadExceptOf.throw]
    | none =>
      cases single : text.alone <;>
        simp [Bind.bind, Except.bind, Pure.pure, Except.pure, throw, throwThe, MonadExceptOf.throw]

end Yaml

namespace Settings

open Yaml

namespace Field

/-- The type of the value of a field. -/
def Value : Field → Type
  | .target => Url
  | .login | .password | .header => String
  | .requestTimeout => Nat
  | .logLevel => Verbosity

/-- The reader of the value of a field. -/
def reader (start : Mark) (path : Option String) : (field : Field) → Reader (Option field.Value)
  | .target => readTargetValue start path
  | .login => readOption start (readString "a string" path)
  | .password => readOption start (readString "a string" path)
  | .header => readOption start (readString "path string" path)
  | .requestTimeout => readOption start (readNumber path)
  | .logLevel => readOption start (readVerbosity path)

/-- The list of fields is complete. -/
theorem mem_all (field : Field) : field ∈ all := by cases field <;> decide

/-- Distinct fields have distinct keys. -/
theorem key_injective : Function.Injective key := by
  -- Checked for every pair of fields.
  intro field other same
  cases field <;> cases other <;> first | rfl | simp [key] at same

/-- A field is found by its key. -/
theorem ofKey?_eq_some_iff {name : String} {field : Field} : ofKey? name = some field ↔ name = field.key := by
  -- From right to left the search succeeds, and the field it finds has the same key.
  unfold ofKey?
  constructor
  · intro found
    have same := List.find?_some found
    exact (of_decide_eq_true same).symm
  · rintro rfl
    -- The field itself is in the list, so the search finds one, and keys are distinct.
    cases found : all.find? (·.key = field.key) with
    | none =>
      have none := List.find?_eq_none.mp found field (mem_all field)
      simp at none
    | some other =>
      have same := List.find?_some found
      rw [key_injective (of_decide_eq_true same)]

end Field

/-- The value of a field in settings. -/
def value (settings : Settings) : (field : Field) → Option field.Value
  | .target => settings.target
  | .login => settings.login
  | .password => settings.password
  | .header => settings.header
  | .requestTimeout => settings.requestTimeout
  | .logLevel => settings.logLevel

/-- Settings with a new value of a field. -/
def withValue (settings : Settings) : (field : Field) → Option field.Value → Settings
  | .target, found => { settings with target := found }
  | .login, found => { settings with login := found }
  | .password, found => { settings with password := found }
  | .header, found => { settings with header := found }
  | .requestTimeout, found => { settings with requestTimeout := found }
  | .logLevel, found => { settings with logLevel := found }

variable {settings other next : Settings} {document : Document} {start : Mark}

@[simp] theorem value_withValue (settings : Settings) (field : Field) (found : Option field.Value) :
    (settings.withValue field found).value field = found := by
  cases field <;> rfl

/-- A new value of a field does not change the others. -/
theorem value_withValue_of_ne {field changed : Field} (differ : field ≠ changed) (found : Option changed.Value) :
    (settings.withValue changed found).value field = settings.value field := by
  cases field <;> cases changed <;> first | rfl | exact absurd rfl differ

@[simp] theorem config_withValue (settings : Settings) (field : Field) (found : Option field.Value) :
    (settings.withValue field found).config = settings.config := by
  cases field <;> rfl

/-- Settings are equal if all of their fields and their configuration files are. -/
theorem ext_value (config : settings.config = other.config)
    (values : ∀ field, settings.value field = other.value field) : settings = other := by
  -- Settings have no other parts.
  obtain ⟨_, _, _, _, _, _, _⟩ := settings
  obtain ⟨_, _, _, _, _, _, _⟩ := other
  simp only [mk.injEq]
  exact ⟨config, values .target, values .login, values .password, values .header, values .requestTimeout,
    values .logLevel⟩

/-- Reading the value of a field sets it. -/
theorem readValue_eq (path : Option String) (settings : Settings) (field : Field) (node : Node) :
    readValue start path document settings field node =
      (field.reader start path document node).map (settings.withValue field) := by
  cases field <;> rfl

/-- Whether the key of an entry is that of a field. -/
def names (document : Document) (field : Field) (entry : Node × Node) : Prop :=
  document.text? entry.1 = some field.key

instance (document : Document) (field : Field) (entry : Node × Node) :
    Decidable (names document field entry) :=
  inferInstanceAs (Decidable (_ = _))

/-- A key is read as the field that it names. -/
theorem readField_eq_ok_iff {key : Node} {field : Field} :
    readField document key = .ok field ↔ document.text? key = some field.key := by
  -- The key is read as a string first, and the field is found by that string.
  unfold readField
  cases text : readString "field identifier" none document key with
  | error cause =>
    -- A key that is no string names no field.
    have none (name : String) : document.text? key ≠ some name := fun named => by
      cases text.symm.trans (readString_eq_ok_iff.mpr named)
    simp [Bind.bind, Except.bind, none]
  | ok name =>
    rw [readString_eq_ok_iff.mp text, Option.some.injEq, ← Field.ofKey?_eq_some_iff]
    cases named : Field.ofKey? name with
    | none => simp [Bind.bind, Except.bind, named, throw, throwThe, MonadExceptOf.throw]
    | some found => simp [Bind.bind, Except.bind, named, Pure.pure, Except.pure]

/-- A key without a value is never read. -/
theorem readEntry_none (start : Mark) (draft : Draft) (key : Node) (last : Draft) :
    readEntry start document draft key none ≠ .ok last := by
  -- Reading the value fails after reading the key.
  obtain ⟨named, settings⟩ := draft
  intro taken
  obtain ⟨field, _, fresh⟩ := bind_eq_ok_iff.mp taken
  split at fresh
  · cases fresh
  · obtain ⟨node, none, _⟩ := bind_eq_ok_iff.mp fresh
    cases none

/-- An entry is read if its key names a new field and its value can be read for that field. -/
theorem readEntry_eq_ok_iff {named : List Field} {draft : Draft} {entry : Node × Node} :
    readEntry start document (named, settings) entry.1 (some entry.2) = .ok draft ↔
      ∃ field found, names document field entry ∧ field ∉ named ∧
        field.reader start (entryPath entry.1) document entry.2 = .ok found ∧
        draft = (field :: named, settings.withValue field found) := by
  -- Cases on whether the key is read, then on whether the field is new.
  unfold readEntry
  cases key : readField document entry.1 with
  | error cause =>
    have none (field : Field) : ¬ names document field entry := fun named => by
      cases key.symm.trans (readField_eq_ok_iff.mpr named)
    simp [Bind.bind, Except.bind, none]
  | ok field =>
    -- The key names exactly this field.
    have only (other : Field) : names document other entry ↔ other = field := by
      rw [names, ← readField_eq_ok_iff, key, Except.ok.injEq, eq_comm]
    simp only [only, exists_and_left, exists_eq_left, Document.valueNode, readValue_eq]
    by_cases before : field ∈ named
    · simp [Bind.bind, Except.bind, before, throw, throwThe, MonadExceptOf.throw]
    · cases read : field.reader start (entryPath entry.1) document entry.2 with
      | error cause => simp [Bind.bind, Except.bind, Except.map, before, read]
      | ok found => simp [Bind.bind, Except.bind, Except.map, Pure.pure, Except.pure, before, read, eq_comm]

/-- The entries of a mapping give these settings on top of others: every key names a field, no key is
repeated, and a field has the value of the entry that names it or its value before. -/
structure Spells (document : Document) (start : Mark) (entries : List (Node × Node)) (before settings : Settings) :
    Prop where
  /-- Every key names a field. -/
  keys : ∀ entry ∈ entries, ∃ field, names document field entry
  /-- No key is repeated. -/
  once : (entries.map fun entry => document.text? entry.1).Nodup
  /-- The configuration file stays the same. -/
  config : settings.config = before.config
  /-- A field has the value of the entry that names it, or its value before. -/
  values : ∀ field, match entries.find? (names document field ·) with
    | some entry => field.reader start (entryPath entry.1) document entry.2 = .ok (settings.value field)
    | none => settings.value field = before.value field

/-- A field has the value of any entry that names it. -/
theorem Spells.value_of_mem {entries : List (Node × Node)} {entry : Node × Node} {field : Field}
    (spells : Spells document start entries settings other) (member : entry ∈ entries)
    (named : names document field entry) :
    field.reader start (entryPath entry.1) document entry.2 = .ok (other.value field) := by
  -- The search for an entry that names the field finds this one.
  have value := spells.values field
  cases found : entries.find? (names document field ·) with
  | none => exact absurd named (by simpa using List.find?_eq_none.mp found entry member)
  | some first =>
    rw [found] at value
    -- The entry that is found has the same key, and keys are distinct.
    have key := List.find?_some found
    have same := List.inj_on_of_nodup_map spells.once (List.mem_of_find?_eq_some found) member
      ((of_decide_eq_true key).trans named.symm)
    rwa [same] at value

/-- No entries leave settings as they are. -/
theorem spells_nil : Spells document start [] settings other ↔ other = settings := by
  -- Settings are determined by their fields and their configuration file.
  constructor
  · intro spelled
    exact ext_value spelled.config spelled.values
  · rintro rfl
    exact ⟨by simp, by simp, rfl, fun _ => rfl⟩

/-- The first entry gives its field, and the others give the rest and do not name that field again. -/
theorem spells_cons {entry : Node × Node} {entries : List (Node × Node)} {field : Field}
    (named : names document field entry) : Spells document start (entry :: entries) settings other ↔
      (∀ later ∈ entries, ¬ names document field later) ∧
        ∃ found, field.reader start (entryPath entry.1) document entry.2 = .ok found ∧
          Spells document start entries (settings.withValue field found) other := by
  -- Each field is compared on both sides, that of the first entry apart from the others.
  have only (later : Node × Node) : document.text? entry.1 = document.text? later.1 ↔ names document field later := by
    rw [names, show document.text? entry.1 = _ from named, eq_comm]
  have differ {found : Field} (differ : found ≠ field) : ¬ names document found entry := fun same =>
    differ (Field.key_injective (Option.some.inj (same.symm.trans named)))
  constructor
  · rintro ⟨keys, once, config, values⟩
    rw [List.map_cons, List.nodup_cons] at once
    have fresh : ∀ later ∈ entries, ¬ names document field later := fun later member same =>
      once.1 (List.mem_map.mpr ⟨later, member, ((only later).mpr same).symm⟩)
    have own := values field
    rw [List.find?_cons_of_pos (by simpa using named)] at own
    refine ⟨fresh, _, own, fun later member => keys later (.tail _ member), once.2, by simp [config],
      fun found => ?_⟩
    by_cases same : found = field
    · subst same
      rw [List.find?_eq_none.mpr fun later member => by simpa using fresh later member]
      simp
    · have rest := values found
      rw [List.find?_cons_of_neg (by simpa using differ same)] at rest
      rw [value_withValue_of_ne same]
      exact rest
  · rintro ⟨fresh, found, read, keys, once, config, values⟩
    refine ⟨?_, ?_, by simpa using config, fun other => ?_⟩
    · exact List.forall_mem_cons.mpr ⟨⟨field, named⟩, keys⟩
    · rw [List.map_cons, List.nodup_cons]
      refine ⟨fun member => ?_, once⟩
      obtain ⟨later, member, same⟩ := List.mem_map.mp member
      exact fresh later member ((only later).mp same.symm)
    · have rest := values other
      by_cases same : other = field
      · subst same
        rw [List.find?_eq_none.mpr fun later member => by simpa using fresh later member] at rest
        rw [List.find?_cons_of_pos (by simpa using named)]
        rw [value_withValue] at rest
        rw [rest]
        exact read
      · rw [List.find?_cons_of_neg (by simpa using differ same)]
        rw [value_withValue_of_ne same] at rest
        exact rest

/-- Reading entries in turn succeeds with the settings that they give, if none of them names a field that was
named before. -/
theorem foldlM_readEntry {entries : List (Node × Node)} {named : List Field} :
    (∃ all, entries.foldlM (fun draft entry => readEntry start document draft entry.1 (some entry.2))
      (named, settings) = .ok (all, other)) ↔
      Spells document start entries settings other ∧
        ∀ entry ∈ entries, ∀ field ∈ named, ¬ names document field entry := by
  -- Induction on the entries; each one adds its field to those that later ones must not name.
  induction entries generalizing named settings with
  | nil => simp [spells_nil, Pure.pure, Except.pure, eq_comm]
  | cons entry entries ih =>
    simp only [List.foldlM_cons, bind_eq_ok_iff, readEntry_eq_ok_iff]
    constructor
    · rintro ⟨all, _, ⟨field, found, key, new, read, rfl⟩, rest⟩
      obtain ⟨spelled, fresh⟩ := ih.mp ⟨all, rest⟩
      refine ⟨(spells_cons key).mpr ⟨fun later member => fresh later member field (.head _), found, read, spelled⟩,
        List.forall_mem_cons.mpr ⟨fun other member same => ?_, fun later member other before =>
          fresh later member other (.tail _ before)⟩⟩
      -- The first entry names this field only, which was not named before.
      obtain rfl := Field.key_injective (Option.some.inj (key.symm.trans same))
      exact new member
    · rintro ⟨spelled, fresh⟩
      obtain ⟨field, key⟩ := spelled.keys entry (.head _)
      obtain ⟨others, found, read, rest⟩ := (spells_cons key).mp spelled
      obtain ⟨all, taken⟩ := ih.mpr ⟨rest, fun later member => List.forall_mem_cons.mpr
        ⟨others later member, fresh later (.tail _ member)⟩⟩
      exact ⟨all, _, ⟨field, found, key, fun before => fresh entry (.head _) field before key, read, rfl⟩, taken⟩

/-- A document holds settings if it is blank and they are empty, or if it is a mapping whose entries give
them. -/
def HeldBy (settings : Settings) (document : Document) : Prop :=
  document.IsBlank ∧ settings = empty ∨
    ∃ tag start nodes entries, document.nodes = ⟨.mappingStart tag, start⟩ :: nodes ∧
      mappingEntries? nodes = some entries ∧ Spells document start entries empty settings

/-- Reading a document succeeds with exactly the settings that it holds. -/
theorem ofDocument_eq_ok_iff : ofDocument document = .ok settings ↔ settings.HeldBy document := by
  -- The list of fields that were named is dropped in the end.
  have forgotten : ofDocument document = .ok settings ↔
      ∃ all, readMapping "struct PartialConfiguration" readEntry ([], empty) document = .ok (all, settings) := by
    unfold ofDocument
    cases readMapping "struct PartialConfiguration" readEntry ([], empty) document with
    | error cause => simp [Except.map]
    | ok draft => simp [Except.map, Prod.ext_iff]
  have spelled (start : Mark) (entries : List (Node × Node)) :=
    @foldlM_readEntry empty settings document start entries []
  rw [forgotten, HeldBy]
  simp only [readMapping_eq_ok_iff readEntry_none, exists_or, Prod.mk.injEq]
  constructor
  · rintro (⟨all, blank, rfl, rfl⟩ | ⟨all, tag, start, nodes, entries, begins, ends, taken⟩)
    · exact .inl ⟨blank, rfl⟩
    · exact .inr ⟨tag, start, nodes, entries, begins, ends, ((spelled start entries).mp ⟨all, taken⟩).1⟩
  · rintro (⟨blank, rfl⟩ | ⟨tag, start, nodes, entries, begins, ends, holds⟩)
    · exact .inl ⟨[], blank, rfl, rfl⟩
    · obtain ⟨all, taken⟩ := (spelled start entries).mpr ⟨holds, fun _ _ _ member => by cases member⟩
      exact .inr ⟨all, tag, start, nodes, entries, begins, ends, taken⟩

end Settings

end AccessProbe
