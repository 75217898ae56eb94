import AccessProbe.Configuration
import AccessProbe.Proofs.Endpoint

/-! The target of a configuration is a URL that `readTarget` accepts, wherever it comes from. -/

namespace AccessProbe

/-- A bind succeeds if and only if both of its steps do. -/
theorem bind_eq_ok_iff {ε α β : Type} {first : Except ε α} {rest : α → Except ε β} {value : β} :
    (first >>= rest) = .ok value ↔ ∃ between, first = .ok between ∧ rest between = .ok value := by
  -- An error in the first step would be the result.
  cases first with
  | error cause => simp [Bind.bind, Except.bind]
  | ok between => simp [Bind.bind, Except.bind]

namespace Yaml

variable {σ : Type} {document : Document} {state last : σ}

/-- What reading an entry preserves holds when a mapping has been read. -/
theorem readEntries_preserves (kept : σ → Prop) {read : EntryReader σ} {nodes : List Node}
    (each : ∀ state key value next, kept state → read document state key value = .ok next → kept next)
    (start : kept state) (finished : readEntries document read state nodes = .ok last) : kept last := by
  -- Induction along `readEntries`, which stops at the end of the mapping or at a key without a value.
  fun_induction readEntries document read state nodes with
  | case1 state => cases finished
  | case2 state key isEnd =>
    rw [← Except.ok.inj finished]
    exact start
  | case3 state key more => exact each _ _ _ _ start finished
  | case4 state key value nodes isEnd =>
    rw [← Except.ok.inj finished]
    exact start
  | case5 state key value nodes more ih =>
    -- The first entry preserves it, so the others start from a state where it holds.
    obtain ⟨next, taken, others⟩ := bind_eq_ok_iff.mp finished
    exact ih next (each _ _ _ _ start taken) others

/-- The same for a document that is a mapping. -/
theorem readMapping_preserves (kept : σ → Prop) {wanted : String} {read : Mark → EntryReader σ}
    (each : ∀ mark state key value next, kept state →
      read mark document state key value = .ok next → kept next)
    (start : kept state) (finished : readMapping wanted read state document = .ok last) : kept last := by
  -- An empty document leaves the state as it is.
  unfold readMapping at finished
  split at finished
  · cases finished
  · split at finished
    · rw [← Except.ok.inj finished]
      exact start
    · exact readEntries_preserves kept (each _) start finished
    · rw [← Except.ok.inj finished]
      exact start
    · cases finished

/-- What is read from a text is read from its first document. -/
theorem document_of_read {text : Text} {read : Document → Except Error σ}
    (finished : text.read read = .ok last) : read text.document = .ok last := by
  -- `Text.read` reads the document first and then checks that nothing is wrong after it.
  obtain ⟨value, made, checked⟩ := bind_eq_ok_iff.mp finished
  rw [made]
  split at checked
  · cases checked
  · split at checked
    · exact checked
    · cases checked

end Yaml

namespace Settings

/-- The target, if there is one, is accepted by `readTarget`. -/
def HasTarget (settings : Settings) : Prop := ∀ url, settings.target = some url → url.IsTarget

/-- The value of the target key is accepted by `readTarget`. -/
theorem isTarget_of_readTargetValue {start : Yaml.Mark} {path : Option String} {document : Yaml.Document}
    {node : Yaml.Node} {url : Url} (read : readTargetValue start path document node = .ok (some url)) :
    url.IsTarget := by
  -- `readTargetValue` calls `readTarget` on every string that it reads.
  obtain ⟨text, _, checked⟩ := bind_eq_ok_iff.mp read
  cases text with
  | none => cases checked
  | some text =>
    simp only at checked
    split at checked
    · rename_i found accepted
      obtain rfl : found = url := Option.some.inj (Except.ok.inj checked)
      exact ⟨text, accepted⟩
    · cases checked

/-- Reading the value of a field preserves that the target is accepted. -/
theorem readValue_hasTarget {start : Yaml.Mark} {path : Option String} {document : Yaml.Document}
    {settings next : Settings} {field : Field} {node : Yaml.Node} (before : settings.HasTarget)
    (read : readValue start path document settings field node = .ok next) : next.HasTarget := by
  -- Only the target field changes the target.
  cases field with
  | target =>
    obtain ⟨found, value, made⟩ := bind_eq_ok_iff.mp read
    rw [← Except.ok.inj made]
    intro url named
    obtain rfl : found = some url := named
    exact isTarget_of_readTargetValue value
  | _ =>
    obtain ⟨found, _, made⟩ := bind_eq_ok_iff.mp read
    rw [← Except.ok.inj made]
    exact before

/-- So does reading an entry. -/
theorem readEntry_hasTarget {start : Yaml.Mark} {document : Yaml.Document} {draft next : Draft}
    {key : Yaml.Node} {value : Option Yaml.Node} (before : draft.2.HasTarget)
    (read : readEntry start document draft key value = .ok next) : next.2.HasTarget := by
  -- The key only selects the field, whose value changes the settings.
  obtain ⟨field, _, fresh⟩ := bind_eq_ok_iff.mp read
  split at fresh
  · cases fresh
  · obtain ⟨node, _, read⟩ := bind_eq_ok_iff.mp fresh
    obtain ⟨settings, value, made⟩ := bind_eq_ok_iff.mp read
    rw [← Except.ok.inj made]
    exact readValue_hasTarget before value

/-- The target of a configuration file is accepted by `readTarget`. -/
theorem ofBytes_hasTarget {bytes : List UInt8} {settings : Settings}
    (read : ofBytes bytes = .ok settings) : settings.HasTarget := by
  -- The first draft has no target, and every entry preserves that the target is accepted.
  have document := Yaml.document_of_read read
  unfold ofDocument at document
  cases entries : Yaml.readMapping "struct PartialConfiguration" readEntry ([], empty)
      (Yaml.Text.ofBytes bytes).document with
  | error cause =>
    rw [entries] at document
    cases document
  | ok draft =>
    rw [entries] at document
    rw [← Except.ok.inj document]
    have start : empty.HasTarget := fun url named => by cases named
    exact Yaml.readMapping_preserves (fun draft => draft.2.HasTarget)
      (fun _ _ _ _ _ before read => readEntry_hasTarget before read) start entries

end Settings

namespace Configuration

/-- So is the target of the file that is found at a path. -/
theorem settingsIn_hasTarget {files : Files} {path : String} {settings : Settings}
    (found : settingsIn files path = .ok settings) : settings.HasTarget := by
  -- The file exists, is not a directory and parses, and then it is the lemma before.
  unfold settingsIn at found
  split at found
  · cases found
  · split at found
    · cases found
    · rename_i entry _ _ taken
      obtain rfl := Except.ok.inj found
      unfold readContent at taken
      split at taken
      · cases taken
      · split at taken
        · cases taken
        · rename_i bytes _ _ _ read
          obtain rfl := Except.ok.inj taken
          exact Settings.ofBytes_hasTarget read

/-- Merging two settings introduces no other target. -/
theorem orElse_hasTarget {first second : Settings} (here : first.HasTarget) (there : second.HasTarget) :
    (first.orElse second).HasTarget := by
  -- The target is that of the first settings or that of the second.
  intro url named
  rcases Option.or_eq_some_iff.mp named with own | ⟨_, filled⟩
  · exact here url own
  · exact there url filled

/-- The target of a configuration is that of its settings or the default. -/
theorem isTarget_of_ofSettings {settings : Settings} {config : Configuration}
    (checked : settings.HasTarget) (made : ofSettings settings = .ok config) : config.target.IsTarget := by
  -- The settings must have a valid target and a login that is not empty.
  unfold ofSettings at made
  simp only at made
  split at made
  · cases made
  · split at made
    · cases made
    · -- Without a target the default one is read, which `readTarget` accepts as well.
      rename_i target chosen
      rw [← Except.ok.inj made]
      cases named : settings.target with
      | none =>
        rw [named] at chosen
        exact ⟨defaultTarget, chosen⟩
      | some url =>
        rw [named] at chosen
        obtain rfl : url = target := Except.ok.inj chosen
        exact checked url named

/-- The target of a loaded configuration is accepted by `readTarget`, provided that a target on the command
line is. -/
theorem isTarget_of_load {files : Files} {given : Settings} {config : Configuration}
    (checked : given.HasTarget) (loaded : load files given = .ok config) : config.target.IsTarget := by
  -- The settings are those of the command line merged with those of the file.
  obtain ⟨settings, all, made⟩ := bind_eq_ok_iff.mp loaded
  refine isTarget_of_ofSettings ?_ made
  unfold merged at all
  split at all
  · obtain rfl := Except.ok.inj all
    exact checked
  · rename_i path _
    cases found : settingsIn files path with
    | error cause =>
      rw [found] at all
      cases all
    | ok filling =>
      rw [found] at all
      obtain rfl := Except.ok.inj all
      exact orElse_hasTarget checked (settingsIn_hasTarget found)

end Configuration

end AccessProbe
