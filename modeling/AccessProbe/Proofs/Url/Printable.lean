import AccessProbe.Proofs.Domain.Ascii
import AccessProbe.Proofs.EndpointPath

/-! URLs whose components are printable, and the components that parsing yields. -/

namespace AccessProbe

open Percent

/-- The notation of an IPv4 address is printable. -/
theorem Ipv4.printable_render (address : Nat) : Printable (render address) := by
  -- Bytes in decimal with dots between them.
  apply Printable.intercalate (by decide)
  intro piece member
  obtain ⟨byte, _, rfl⟩ := List.mem_map.mp member
  exact printable_toString byte

/-- Groups with colons between them are printable. -/
theorem Ipv6.printable_renderGroups (groups : List Nat) : Printable (renderGroups groups) := by
  -- Groups in hexadecimal with colons between them.
  apply Printable.intercalate (by decide)
  intro piece member
  obtain ⟨group, _, rfl⟩ := List.mem_map.mp member
  exact printable_toDigits 16 group

/-- The notation of an IPv6 address is printable. -/
theorem Ipv6.printable_render (groups : List Nat) : Printable (render groups) := by
  -- The groups stand in one run or in two with `::` between them.
  simp only [render]
  split
  · exact printable_renderGroups groups
  · simp only [Printable.append_iff]
    exact ⟨⟨printable_renderGroups _, by decide⟩, printable_renderGroups _⟩

namespace Host

variable {host : Host} {text : List Char}

/-- An IPv6 host is printable. -/
theorem printable_parseBrackets (read : parseBrackets text = .ok host) : Printable host.text.toList := by
  -- The brackets around the address are printable too.
  unfold parseBrackets at read
  split at read
  · cases read
  · split at read
    · rename_i groups _
      rw [← Except.ok.inj read, Host.text, String.toList_ofList]
      simp only [List.cons_append, Printable.cons_iff, Printable.append_iff]
      exact ⟨by decide, Ipv6.printable_render groups, by decide⟩
    · cases read

/-- A host of a URL with a special scheme is printable. -/
theorem printable_parse (read : parse text = .ok host) : Printable host.text.toList := by
  -- The cases are those of the parser: brackets, an IPv4 address and a domain.
  unfold parse at read
  split at read
  · exact printable_parseBrackets read
  · split at read
    · cases read
    · cases read
    · -- The ASCII form of the host is a domain, or the spelling of an IPv4 address.
      rename_i name _ found
      obtain ⟨decoded, _, wire⟩ := Option.bind_eq_some_iff.mp found
      split at read
      · split at read
        · rename_i address _
          rw [← Except.ok.inj read, Host.text, String.toList_ofList]
          exact Ipv4.printable_render address
        · cases read
      · rw [← Except.ok.inj read, Host.text, String.toList_ofList]
        exact Domain.printable_toAscii? wire

/-- An opaque host is printable. -/
theorem printable_parsePlain (read : parsePlain text = .ok host) : Printable host.text.toList := by
  -- Control characters and everything beyond ASCII are encoded.
  unfold parsePlain at read
  split at read
  · exact printable_parseBrackets read
  · split at read
    · cases read
    · rw [← Except.ok.inj read, Host.text, String.toList_ofList]
      exact printable_encode (fun _ control => control) _

end Host

namespace Url

/-- Printable segments. -/
def PrintableNames (names : List String) : Prop := ∀ name ∈ names, Printable name.toList

/-- A printable path. -/
def Path.IsPrintable : Path → Prop
  | .segments names => PrintableNames names
  | .plain text => Printable text.toList

/-- A URL with printable components. -/
structure IsPrintable (url : Url) : Prop where
  scheme : Printable url.scheme.toList
  username : Printable url.username.toList
  password : ∀ password, url.password = some password → Printable password.toList
  host : ∀ host, url.host = some host → Printable host.text.toList
  path : url.path.IsPrintable
  query : ∀ query, url.query = some query → Printable query.toList
  fragment : ∀ fragment, url.fragment = some fragment → Printable fragment.toList

variable {names done others : List String}

theorem PrintableNames.subset (printable : PrintableNames names) (part : others ⊆ names) : PrintableNames others :=
  fun name member => printable name (part member)

theorem PrintableNames.singleton {name : String} (printable : Printable name.toList) : PrintableNames [name] := by
  simpa [PrintableNames] using printable

section Text

variable {url : Url}

/-- The serialisation of a printable path is printable. -/
theorem Path.IsPrintable.text {path : Path} (printable : path.IsPrintable) : Printable path.text.toList := by
  -- An opaque path is its own text, and segments have printable slashes before them.
  rw [Path.toList_text]
  cases path with
  | plain text => exact printable
  | segments names =>
    apply Printable.flatMap
    exact fun name member => Printable.cons_iff.mpr ⟨by decide, printable name member⟩

/-- An optional component behind a delimiter is printable. -/
theorem printable_markedText {mark : String} {piece : Option String} (marked : Printable mark.toList)
    (printable : ∀ text, piece = some text → Printable text.toList) : Printable (markedText mark piece).toList := by
  cases piece with
  | none => exact .nil
  | some text =>
    rw [markedText, String.toList_append, Printable.append_iff]
    exact ⟨marked, printable text rfl⟩

/-- User name and password of a printable URL are printable. -/
theorem IsPrintable.userInfoText (printable : url.IsPrintable) : Printable url.userInfoText.toList := by
  -- The cases are those of the serialisation: with a password, with a name only and with neither.
  unfold Url.userInfoText
  split
  · rename_i password given
    simp only [String.toList_append, Printable.append_iff]
    exact ⟨⟨⟨printable.username, by decide⟩, printable.password password given⟩, by decide⟩
  · split
    · exact .nil
    · simp only [String.toList_append, Printable.append_iff]
      exact ⟨printable.username, by decide⟩

/-- The port of a URL is printable. -/
theorem printable_portText (url : Url) : Printable url.portText.toList := by
  -- It is a number or nothing.
  unfold portText
  split
  · simp only [String.toList_append, Printable.append_iff]
    exact ⟨by decide, printable_toString _⟩
  · exact .nil

/-- The authority of a printable URL is printable. -/
theorem IsPrintable.authorityText (printable : url.IsPrintable) : Printable url.authorityText.toList := by
  -- A host brings user, password and port with it.
  unfold Url.authorityText
  split
  · rename_i host named
    simp only [String.toList_append, Printable.append_iff]
    exact ⟨⟨⟨by decide, printable.userInfoText⟩, printable.host host named⟩, printable_portText url⟩
  · decide
  · exact .nil

/-- The serialisation of a printable URL is printable. -/
theorem IsPrintable.text (printable : url.IsPrintable) : Printable url.text.toList := by
  -- The delimiters between the components are printable.
  simp only [Url.text, String.toList_append, Printable.append_iff]
  exact ⟨⟨⟨⟨⟨printable.scheme, by decide⟩, printable.authorityText⟩, printable.path.text⟩,
    printable_markedText (by decide) printable.query⟩, printable_markedText (by decide) printable.fragment⟩

theorem IsPrintable.withoutUser (printable : url.IsPrintable) : url.withoutUser.IsPrintable :=
  ⟨printable.scheme, .nil, nofun, printable.host, printable.path, printable.query, nofun⟩

end Text

section Walk

variable {file : Bool}

/-- A segment that is kept is printable. -/
theorem printable_keptPart (file : Bool) (done : List String) (part : List Char) :
    Printable (keptPart file done part).toList := by
  -- It is a drive letter or percent-encoded.
  rw [keptPart, String.toList_ofList]
  split
  · -- A drive letter is a letter, and its colon is put in anew.
    rename_i drive
    simp only [Bool.and_eq_true] at drive
    unfold isDrive at drive
    split at drive
    · rename_i letter mark
      simp only [Bool.and_eq_true] at drive
      have shown : letter.isAlphanum := by simp [Char.isAlphanum, drive.2.1]
      simpa using ⟨isControl_of_isAlphanum shown, by decide⟩
    · simp at drive
  · exact printable_encode (fun _ control => by simp [inPath, control]) part

/-- Walking from printable segments leads to printable ones. -/
theorem printable_walk (printable : PrintableNames done) (parts : List (List Char)) :
    PrintableNames (walk file done parts) :=
  forall_walk .nil (fun done part _ _ _ => printable_keptPart file done part) printable

/-- The path behind an authority is printable. -/
theorem printable_pathAfterAuthority (scheme : String) (text : List Char) :
    PrintableNames (pathAfterAuthority scheme text) := by
  -- It is empty or walked from no segments.
  simp only [pathAfterAuthority]
  split
  · split
    · exact .singleton .nil
    · simp [PrintableNames]
  · exact printable_walk (by simp [PrintableNames]) _

/-- A printable path without its last segment is printable. -/
theorem Path.IsPrintable.directory {path : Path} (printable : path.IsPrintable) : PrintableNames path.directory := by
  cases path with
  | plain text => simp [Path.directory, PrintableNames]
  | segments names => exact PrintableNames.subset printable (List.dropLast_sublist names).subset

end Walk

end Url

end AccessProbe
