import AccessProbe.Proofs.CommandLine.Options
import AccessProbe.Proofs.SettingsFile
import AccessProbe.Proofs.Text.Decimal
import AccessProbe.Proofs.Yaml.MappingDocument

/-! Settings written to a configuration file are read like options with the same values. -/

namespace AccessProbe

namespace Yaml

/-- A number is not one of the YAML words for null. -/
theorem isNull_of_isDigit {digits : List Char} (decimal : ∀ c ∈ digits, c.isDigit = true) :
    isNull digits = false := by
  -- None of those words consists of digits.
  have words : ∀ word ∈ ["~", "null", "Null", "NULL"], word.toList.all Char.isDigit = false := by decide
  cases null : isNull digits with
  | false => rfl
  | true =>
    obtain ⟨word, listed, same⟩ := List.any_eq_true.mp null
    obtain rfl := beq_iff_eq.mp same
    cases (words word listed).symm.trans (List.all_eq_true.mpr decimal)

end Yaml

/-- The name of a log level, in any case, is a plain scalar and not one of the YAML words for null. -/
theorem Verbosity.word_of_ofText? {text : String} {choice : Verbosity} (named : ofText? text = some choice) :
    text.toList ≠ [] ∧ (∀ c ∈ text.toList, Yaml.isSimple c = true) ∧ Yaml.isNull text.toList = false := by
  -- Its characters in upper case are those of the name.
  have same : choice.name.toList = text.toList.map Char.toUpper := by simpa using List.find?_some named
  refine ⟨fun empty => ?_, fun c member => ?_, ?_⟩
  · rw [empty] at same
    cases choice <;> cases same
  · by_cases lower : c.isLower = true
    · have letter : c.isAlphanum = true := by
        change (c.isUpper || c.isLower || c.isDigit) = true
        rw [lower, Bool.or_true, Bool.true_or]
      rw [Yaml.isSimple, letter, Bool.true_or]
    · -- A character that is no lower-case letter is its own upper case, and so one of the name.
      have unchanged : c.toUpper = c := dif_neg fun range =>
        lower (Bool.and_eq_true_iff.mpr ⟨decide_eq_true range.1, decide_eq_true range.2⟩)
      have letters : ∀ c ∈ choice.name.toList, Yaml.isSimple c = true :=
        List.all_eq_true.mp (by cases choice <;> decide)
      exact letters c (same ▸ List.mem_map.mpr ⟨c, member, unchanged⟩)
  · have words : ∀ choice : Verbosity, ∀ word ∈ ["~", "null", "Null", "NULL"],
        choice.name.toList ≠ word.toList.map Char.toUpper := by
      intro choice
      cases choice <;> decide
    cases null : Yaml.isNull text.toList with
    | false => rfl
    | true =>
      obtain ⟨word, listed, spelled⟩ := List.any_eq_true.mp null
      rw [← beq_iff_eq.mp spelled] at same
      exact absurd same (words choice word listed)

namespace Settings

open CommandLine Yaml

/-- The option for a field. -/
def Field.flag : Field → Flag
  | .target => .target
  | .login => .login
  | .password => .password
  | .header => .header
  | .requestTimeout => .requestTimeout
  | .logLevel => .logLevel

/-- Distinct fields have distinct options. -/
theorem Field.flag_injective : Function.Injective flag := by
  -- Checked for every pair of fields.
  intro field other same
  cases field <;> cases other <;> first | rfl | cases same

/-- The ways to write the value of a field in a file. -/
inductive WritesValue : Field → String → ScalarStyle → List Char → Prop where
  /-- A double-quoted string, but no empty path and no number. -/
  | quoted {field : Field} {text : String} {written : List Char} (writes : WritesQuoted text.toList written)
      (path : field = .header → text ≠ "") (timeless : field ≠ .requestTimeout) :
      WritesValue field text .doubleQuoted ('"' :: (written ++ ['"']))
  /-- A number for the time limit. -/
  | number {count : Nat} (below : count < Nat.pow 2 64) :
      WritesValue .requestTimeout (toString count) .plain (toString count).toList
  /-- The name of a log level. -/
  | word {text : String} {choice : Verbosity} (named : Verbosity.ofText? text = some choice) :
      WritesValue .logLevel text .plain text.toList

variable {field : Field} {text : String} {style : ScalarStyle} {written : List Char}

/-- Such a value is a scalar with this string. -/
theorem WritesValue.scalar (writes : WritesValue field text style written) :
    WritesScalar style text.toList written := by
  -- Numbers and names of log levels are plain scalars.
  cases writes with
  | quoted writes => exact .quoted writes
  | @number count =>
    obtain ⟨nonempty, digits, -⟩ := Decimal.toString_digits count
    exact .word nonempty fun c member => by simp [isSimple, Char.isAlphanum, digits c member]
  | word named =>
    obtain ⟨nonempty, simple, -⟩ := Verbosity.word_of_ofText? named
    exact .word nonempty simple

/-- Such a value is not read as missing. -/
theorem WritesValue.isMissing_eq (writes : WritesValue field text style written) {node : Node}
    (shows : node.kind = .scalar none text style) : isMissing node = .ok false := by
  -- A quoted string never is, and a plain scalar only if it is empty or a word for null.
  have word (nonempty : text.toList ≠ []) (some : isNull text.toList = false) :
      isMissing { node with kind := .scalar none text .plain } = .ok false := by
    have there : text ≠ "" := fun empty => nonempty (by rw [empty]; rfl)
    simp only [isMissing, there, some, decide_false, Bool.or_false]
  cases writes with
  | quoted => simp [isMissing, shows]
  | @number count =>
    obtain ⟨nonempty, digits, -⟩ := Decimal.toString_digits count
    have read := word nonempty (isNull_of_isDigit digits)
    rwa [← shows] at read
  | word named =>
    obtain ⟨nonempty, -, some⟩ := Verbosity.word_of_ofText? named
    have read := word nonempty some
    rwa [← shows] at read

/-- Such a value is read like that of an option: both are invalid, or both set the same. -/
theorem WritesValue.readValue_toOption (writes : WritesValue field text style written) {node : Node}
    (shows : node.kind = .scalar none text style) (start : Mark) (path : Option String) (document : Document)
    (settings : Settings) :
    (readValue start path document settings field node).toOption = (setFlag settings field.flag text).toOption := by
  -- One case per way of writing and field, each of which evaluates both sides to the same value parser.
  have target : document.target node = node := by rw [Document.target, shows]
  have present := writes.isMissing_eq shows
  have spelled (wanted : String) : readString wanted path document node = .ok text := by
    simp only [readString, target, shows]
  have read {α : Type} (reader : Reader α) :
      readOption start reader document node = (reader document node).map some := by
    simp only [readOption, target, present]
  have level : ((readOption start (readVerbosity path) document node).map
      (settings.withValue .logLevel)).toOption = (setFlag settings .logLevel text).toOption := by
    rw [read]
    delta setFlag
    dsimp only
    cases named : Verbosity.ofText? text with
    | none => simp [readVerbosity, readChoice, target, shows, tagChoice?, named, Except.map, Except.toOption]
    | some choice =>
      simp [readVerbosity, readChoice, target, shows, tagChoice?, named, Except.map, Except.toOption, withValue]
  rw [readValue_eq]
  cases writes with
  | @quoted field text written between path timeless =>
    cases field with
    -- Both sides parse the URL with `readTarget`.
    | target =>
      show ((readTargetValue start _ document node).map _).toOption = _
      simp only [readTargetValue, read, spelled, Except.map, Bind.bind, Except.bind]
      delta setFlag
      dsimp only [Field.flag]
      cases readTarget text <;> rfl
    | login =>
      show ((readOption start (readString _ _) document node).map _).toOption = _
      rw [read, spelled]
      rfl
    | password =>
      show ((readOption start (readString _ _) document node).map _).toOption = _
      rw [read, spelled]
      rfl
    -- An empty path is invalid as an option, and excluded here.
    | header =>
      show ((readOption start (readString _ _) document node).map _).toOption = _
      rw [read, spelled]
      delta setFlag
      dsimp only [Field.flag]
      rw [if_neg (path rfl)]
      rfl
    | requestTimeout => exact absurd rfl timeless
    | logLevel => exact level
  | @number count below =>
    have number : readNumber path document node = .ok count := by
      simp only [readNumber, target, shows, unsigned?_toString below]
    show ((readOption start (readNumber _) document node).map _).toOption = _
    rw [read, number]
    delta setFlag
    dsimp only [Field.flag]
    rw [Decimal.readNumber_toString below]
    rfl
  | word => exact level

/-- A setting with its value and the way it is written. -/
structure Entry where
  /-- The field. -/
  field : Field
  /-- The value. -/
  text : String
  /-- The style of the scalar. -/
  style : ScalarStyle
  /-- The scalar as it is written. -/
  written : List Char
  /-- It is written in one of these ways. -/
  writes : WritesValue field text style written

namespace Entry

/-- The option with the same value. -/
def option (entry : Entry) : Flag × String := (entry.field.flag, entry.text)

/-- The pair of a mapping for this setting. -/
def pair (entry : Entry) : Pair where
  key := entry.field.key.toList
  text := entry.text.toList
  style := entry.style
  written := entry.written
  nonempty := by cases entry.field <;> decide
  simple := List.all_eq_true.mp (by cases entry.field <;> decide)
  short := by cases entry.field <;> decide
  writes := entry.writes.scalar

/-- The nodes of the pair. -/
theorem nodes_pair (entry : Entry) : entry.pair.nodes =
    [.scalar none entry.field.key .plain, .scalar none entry.text entry.style] := by
  simp only [Pair.nodes, pair, String.ofList_toList]

end Entry

/-- The ways to write settings to a file: a mapping, or an empty file for no settings. -/
inductive Writes : List Entry → List Char → Prop where
  /-- An empty file for no settings. -/
  | nothing : Writes [] []
  /-- A mapping with one pair per setting. -/
  | mapping {entries : List Entry} {content : List Char} (writes : WritesMapping (entries.map Entry.pair) content) :
      Writes entries content

variable {entries : List Entry}

/-- The pair of a new setting is read like its option. -/
theorem readEntry_toOption {entry : Entry} {key value : Node} {named : List Field} (settings : Settings)
    (keyShows : key.kind = .scalar none entry.field.key .plain)
    (valueShows : value.kind = .scalar none entry.text entry.style) (new : entry.field ∉ named) (start : Mark)
    (document : Document) :
    (readEntry start document (named, settings) key (some value)).toOption =
      (setFlag settings entry.field.flag entry.text).toOption.map (entry.field :: named, ·) := by
  -- The key is that of a new field, so its value decides.
  have field : readField document key = .ok entry.field := readField_eq_ok_iff.mpr (by
    simp only [Document.text?, Document.target, keyShows])
  have fresh : named.contains entry.field = false := by simpa using new
  rw [← entry.writes.readValue_toOption valueShows start (entryPath key) document settings, readEntry, field]
  simp only [Bind.bind, Except.bind, fresh, Document.valueNode]
  cases readValue start (entryPath key) document settings entry.field value <;> rfl

/-- The pairs of distinct settings are read like their options. -/
theorem readEntries_toOption (start : Mark) (document : Document) {nodes : List Node}
    (same : nodes.map (·.kind) = entries.flatMap (·.pair.nodes) ++ [.mappingEnd])
    (once : (entries.map (·.field)).Nodup) {named : List Field} (new : ∀ entry ∈ entries, entry.field ∉ named)
    (settings : Settings) :
    (readEntries document (readEntry start) (named, settings) nodes).toOption.map Prod.snd =
      (entries.map Entry.option).foldlM (fun settings option => (setFlag settings option.1 option.2).toOption)
        settings := by
  -- Induction on the settings, whose nodes come in pairs.
  induction entries generalizing nodes named settings with
  | nil =>
    obtain ⟨⟨kind, mark⟩, rest, rfl, rfl, empty⟩ := List.map_eq_cons_iff.mp same
    obtain rfl := List.map_eq_nil_iff.mp empty
    rfl
  | cons entry entries ih =>
    rw [List.flatMap_cons, Entry.nodes_pair] at same
    obtain ⟨key, _, rfl, keyShows, behind⟩ := List.map_eq_cons_iff.mp same
    obtain ⟨value, rest, rfl, valueShows, others⟩ := List.map_eq_cons_iff.mp behind
    rw [List.map_cons, List.nodup_cons] at once
    have more : key.kind ≠ .mappingEnd := by simp [keyShows]
    have taken := readEntry_toOption settings keyShows valueShows (new entry (.head _)) start document
    rw [readEntries, if_neg more, List.map_cons, List.foldlM_cons, Entry.option]
    -- Both sides fail with the first setting, or both set it and continue.
    cases set : setFlag settings entry.field.flag entry.text with
    | error cause =>
      rw [set] at taken
      cases read : readEntry start document (named, settings) key (some value) with
      | error cause => rfl
      | ok next => simp [read, Except.toOption] at taken
    | ok next =>
      rw [set] at taken
      cases read : readEntry start document (named, settings) key (some value) with
      | error cause => simp [read, Except.toOption] at taken
      | ok draft =>
        obtain rfl : draft = (entry.field :: named, next) := by simpa [read, Except.toOption] using taken
        refine ih others once.2 (fun later member => ?_) next
        rw [List.mem_cons, not_or]
        exact ⟨fun same => once.1 (List.mem_map.mpr ⟨later, member, same⟩), new later (.tail _ member)⟩

/-- Distinct settings have distinct options. -/
theorem nodup_options (once : (entries.map (·.field)).Nodup) : ((entries.map Entry.option).map Prod.fst).Nodup := by
  -- Fields determine their options.
  have flags := once.map Field.flag_injective
  simpa [Function.comp_def, Entry.option] using flags

/-- A file with these settings is read as the settings of their options, or not at all if one of these is
invalid. -/
theorem ofBytes_toOption {content : List Char} (writes : Writes entries content)
    (once : (entries.map (·.field)).Nodup) :
    (ofBytes (Utf8.encode content)).toOption =
      if (entries.map Entry.option).all fun option => option.1.accepts option.2 then
        some (Flag.settingsOf fun flag => (entries.map Entry.option).lookup flag)
      else none := by
  -- Both sides are the same fold of `setFlag`: over the options by `Flag.foldlM_setFlag`, over the file by
  -- `readEntries_toOption`.
  have taken := Flag.foldlM_setFlag (nodup_options once) fun _ => none
  simp only [Option.or_none] at taken
  rw [← taken]
  cases writes with
  | nothing =>
    have blank : (ofBytes (Utf8.encode [])).toOption = some empty := by decide +kernel
    exact blank
  | mapping writes =>
    obtain ⟨nodes, text, same⟩ := text_of_writes writes
    rw [List.flatMap_map] at same
    obtain ⟨⟨kind, mark⟩, nodes, rfl, rfl, others⟩ := List.map_eq_cons_iff.mp same
    have read := @readEntries_toOption entries mark ⟨⟨.mappingStart none, mark⟩ :: nodes, none⟩ nodes others once []
      (by simp) empty
    have nothing : Flag.settingsOf (fun _ => none) = empty := rfl
    rw [nothing, ← read, ofBytes, text, Text.read, ofDocument, readMapping]
    dsimp only
    cases readEntries ⟨⟨.mappingStart none, mark⟩ :: nodes, none⟩ (readEntry mark) ([], empty) nodes <;> rfl

end Settings

end AccessProbe
