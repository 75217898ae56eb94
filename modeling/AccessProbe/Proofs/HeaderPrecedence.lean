import AccessProbe.Proofs.Configuration
import AccessProbe.Proofs.SentRequests

/-! The header file takes precedence over the program's own headers, in every request that servers receive. -/

namespace AccessProbe

/-- The value of a header in the entries of a header file, whatever the case of its name there. -/
def definedValue? (entries : List (String × String)) (name : String) : Option String :=
  (entries.find? fun entry => headerName? entry.1 = some name).map Prod.snd

/-- The value of a header that the program sets by itself. -/
def standardValue? (mode : Mode) (credentials : Credentials) (name : String) : Option String :=
  if name = "user-agent" then some userAgent
  else if mode = .token ∧ name = "x-cenarius-token" then some credentials.token
  else none

section Entries

variable {headers next result : Headers} {entry : String × String} {entries : List (String × String)}
  {name : String}

/-- An entry that is accepted sets the header that its key names. -/
theorem addHeader_eq_ok (added : addHeader headers entry = .ok next) :
    ∃ key, headerName? entry.1 = some key ∧ next = headers.insert key entry.2 := by
  -- Both checks have passed.
  unfold addHeader at added
  split at added
  · cases added
  · rename_i key named
    split at added
    · exact ⟨key, named, (Except.ok.inj added).symm⟩
    · cases added

/-- Entries are added one by one. -/
theorem addHeaders_cons (added : (entry :: entries).foldlM addHeader headers = .ok result) :
    ∃ next, addHeader headers entry = .ok next ∧ entries.foldlM addHeader next = .ok result := by
  -- The fold is a bind of its first step.
  rw [List.foldlM_cons] at added
  exact bind_eq_ok_iff.mp added

/-- Entries keep the headers in order. -/
theorem addHeaders_ordered (ordered : headers.Ordered)
    (added : entries.foldlM addHeader headers = .ok result) : result.Ordered := by
  -- Induction on the entries, each of which is an insertion.
  induction entries generalizing headers with
  | nil =>
    rw [← Except.ok.inj added]
    exact ordered
  | cons entry rest ih =>
    obtain ⟨next, first, others⟩ := addHeaders_cons added
    obtain ⟨key, _, rfl⟩ := addHeader_eq_ok first
    exact ih (ordered.insert key entry.2) others

/-- A header that no entry names keeps its value. -/
theorem get?_addHeaders_of_undefined (undefined : ∀ entry ∈ entries, headerName? entry.1 ≠ some name)
    (added : entries.foldlM addHeader headers = .ok result) : result.get? name = headers.get? name := by
  -- Induction on the entries, none of which inserts at this name.
  induction entries generalizing headers with
  | nil => rw [← Except.ok.inj added]
  | cons entry rest ih =>
    obtain ⟨here, later⟩ := List.forall_mem_cons.mp undefined
    obtain ⟨next, first, others⟩ := addHeaders_cons added
    obtain ⟨key, named, rfl⟩ := addHeader_eq_ok first
    -- The entry inserts at another name.
    have differ : name ≠ key := by
      rintro rfl
      exact here named
    rw [ih later others, Headers.get?_insert, if_neg differ]

/-- A header has the value of the entry that names it, and without one keeps its value, if the names are
distinct. -/
theorem get?_addHeaders
    (distinct : entries.Pairwise fun first second => headerName? first.1 ≠ headerName? second.1)
    (added : entries.foldlM addHeader headers = .ok result) (name : String) :
    result.get? name = (definedValue? entries name).or (headers.get? name) := by
  -- Induction on the entries; the first one names the header, and then no other does, or it is passed over.
  induction entries generalizing headers with
  | nil =>
    rw [← Except.ok.inj added]
    rfl
  | cons entry rest ih =>
    obtain ⟨differ, others⟩ := List.pairwise_cons.mp distinct
    obtain ⟨next, first, added⟩ := addHeaders_cons added
    obtain ⟨key, named, rfl⟩ := addHeader_eq_ok first
    by_cases same : name = key
    · -- No later entry names the header again.
      subst same
      have undefined : ∀ other ∈ rest, headerName? other.1 ≠ some name := by
        intro other member again
        exact differ other member (named.trans again.symm)
      rw [get?_addHeaders_of_undefined undefined added, Headers.get?_insert, if_pos rfl]
      simp [definedValue?, named]
    · have passed : headerName? entry.1 ≠ some name := by
        rw [named]
        exact fun equal => same (Option.some.inj equal).symm
      rw [ih others added, Headers.get?_insert, if_neg same]
      simp [definedValue?, passed]

end Entries

section Client

variable {files : Files} {config : Configuration} {entries : List (String × String)} {others : Headers}

/-- The default headers are the program's own, extended by those of the header file. -/
theorem clientHeaders_eq (mode : Mode) (loads : defaultHeaders files config.header = .ok others) :
    ∃ own : Headers, clientHeaders files config (.ofMode mode config) = .ok (own.extend others) ∧ own.Ordered ∧
      ∀ name, own.get? name = if mode = .token ∧ name = "x-cenarius-token" then some config.credentials.token
        else none := by
  -- By `clientHeaders_ofMode`; what is left is the value of each own header.
  refine ⟨_, by rw [clientHeaders_ofMode, loads]; rfl, ?_, fun name => ?_⟩
  · split
    · exact .singleton _ _
    · exact .nil
  · -- The token is the only one.
    by_cases shows : mode = .token
    · simp [shows, Headers.get?]
    · simp [shows, Headers.get?]

/-- Without an entry in the header file, a header has the program's `user-agent` or the token. -/
theorem standardValue?_eq {own : Headers} {mode : Mode} {name : String} (values : own.get? name =
      if mode = .token ∧ name = "x-cenarius-token" then some config.credentials.token else none) :
    (Headers.get? [("user-agent", userAgent)] name).or (own.get? name) =
      standardValue? mode config.credentials name := by
  -- The two own headers have different names.
  rw [values]
  by_cases agent : name = "user-agent"
  · simp [Headers.get?_cons, standardValue?, agent]
  · simp [Headers.get?, standardValue?, agent]

/-- A default header has the value of the header file, and without one the program's own. -/
theorem get?_clientHeaders (mode : Mode) (read : headerEntries files config.header = .ok entries)
    (loads : headersOf entries = .ok others)
    (distinct : entries.Pairwise fun first second => headerName? first.1 ≠ headerName? second.1) :
    ∃ fields, clientHeaders files config (.ofMode mode config) = .ok fields ∧ fields.Ordered ∧
      ∀ name, fields.get? name = (definedValue? entries name).or (standardValue? mode config.credentials name) := by
  -- The lookup is pushed through the extension and the entries.
  have whole : defaultHeaders files config.header = .ok others := (defaultHeaders_eq read).trans loads
  obtain ⟨own, ready, ordered, values⟩ := clientHeaders_eq mode whole
  have othersOrdered : others.Ordered := addHeaders_ordered (.singleton _ _) loads
  refine ⟨own.extend others, ready, ordered.extend others, fun name => ?_⟩
  -- The entries come first, then `user-agent`, then the token.
  rw [Headers.get?_extend othersOrdered, get?_addHeaders distinct loads, Option.or_assoc,
    standardValue?_eq (values name)]

/-- A default header that no entry names has the program's own value. -/
theorem get?_clientHeaders_of_undefined {mode : Mode} {fields : Headers} {name : String}
    (ready : clientHeaders files config (.ofMode mode config) = .ok fields)
    (undefined : ∀ entries, headerEntries files config.header = .ok entries →
      ∀ entry ∈ entries, headerName? entry.1 ≠ some name) :
    fields.Ordered ∧ fields.get? name = standardValue? mode config.credentials name := by
  -- The header file has been read, since there are default headers.
  cases loads : defaultHeaders files config.header with
  | error cause =>
    cases (clientHeaders_eq_error loads mode).symm.trans ready
  | ok others =>
    obtain ⟨own, made, ordered, values⟩ := clientHeaders_eq mode loads
    obtain rfl : own.extend others = fields := Except.ok.inj (made.symm.trans ready)
    obtain ⟨entries, read, added⟩ := bind_eq_ok_iff.mp loads
    have othersOrdered : others.Ordered := addHeaders_ordered (.singleton _ _) added
    refine ⟨ordered.extend others, ?_⟩
    rw [Headers.get?_extend othersOrdered, get?_addHeaders_of_undefined (undefined entries read) added,
      standardValue?_eq (values name)]

end Client

/-- The default headers have each name once. A header has the value of the header file, else the program's
`user-agent` or in token mode the token, and there are no others. Servers receive `user-agent` in every
request, and the token in every request in token mode and in none in the other modes, unless the header file
sets them. -/
theorem header_file_comes_first {files : Files} {config : Configuration} {entries : List (String × String)}
    {others : Headers} (read : headerEntries files config.header = .ok entries)
    (loads : headersOf entries = .ok others)
    (distinct : entries.Pairwise fun first second => headerName? first.1 ≠ headerName? second.1) :
    (∀ mode, ∃ fields, clientHeaders files config (.ofMode mode config) = .ok fields ∧
      (fields.map Prod.fst).Nodup ∧ ∀ name, fields.get? name =
        (definedValue? entries name).or (standardValue? mode config.credentials name)) ∧
    ∀ (task : CommandLine.Task) (mode : Mode) (library : Library) (verbosity : Verbosity) (work : Work)
      (tunnels : Bool) (answers : List Answer), work.wire.network = .scripted tunnels answers →
      ∃ sent, ((task.planIn mode library files config).run verbosity work).2.wire.seen = work.wire.seen ++ sent ∧
        ∀ request ∈ sent,
          request.headers.values "user-agent" = [(definedValue? entries "user-agent").getD userAgent] ∧
          request.headers.values "x-cenarius-token" = ((definedValue? entries "x-cenarius-token").or
            (if task.modeIn mode = .token then some config.credentials.token else none)).toList := by
  -- The default headers are computed by `get?_clientHeaders`. A redirect keeps both headers, so all requests
  -- of a trail have the values of the client.
  refine ⟨fun mode => ?_, fun task mode library verbosity work tunnels answers scripted => ?_⟩
  · obtain ⟨fields, ready, ordered, values⟩ := get?_clientHeaders mode read loads distinct
    exact ⟨fields, ready, ordered.nodup, values⟩
  · obtain ⟨fields, ready, ordered, values⟩ := get?_clientHeaders (task.modeIn mode) read loads distinct
    obtain ⟨groups, trails, sees⟩ := (task.planIn_sendsOnly mode library files config).trails verbosity scripted
    refine ⟨groups.flatten.map Sighting.request, sees.seen, fun request seen => ?_⟩
    -- Every request belongs to the trail of a request made with the default headers.
    obtain ⟨sighting, member, rfl⟩ := List.mem_map.mp seen
    obtain ⟨group, isGroup, inGroup⟩ := List.mem_flatten.mp member
    obtain ⟨client, call, made, trail⟩ := trails group isGroup
    obtain ⟨_, madeReady, _, rfl⟩ := buildClient_eq_ok_iff.mp made.built
    obtain rfl := Except.ok.inj (madeReady.symm.trans ready)
    rw [trail.values_eq ordered (by decide) sighting inGroup, trail.values_eq ordered (by decide) sighting inGroup,
      values, values]
    refine ⟨?_, ?_⟩
    · cases definedValue? entries "user-agent" with
      | none => rfl
      | some value => rfl
    · simp [standardValue?]

/-- A token header in the header file replaces the token in every request, also after a redirect. -/
theorem header_file_hides_token :
    let config : Configuration := ⟨Url.loopback, "agent", "secret", some "h", none, .off⟩
    -- The file says: X-Cenarius-Token: mine
    let files : Files := [("h", .content [0x58, 0x2D, 0x43, 0x65, 0x6E, 0x61, 0x72, 0x69, 0x75, 0x73, 0x2D, 0x54,
      0x6F, 0x6B, 0x65, 0x6E, 0x3A, 0x20, 0x6D, 0x69, 0x6E, 0x65])]
    let entries := [("X-Cenarius-Token", "mine")]
    let answers : List Answer := [⟨302, [("Location", "http://[::2]/")], [], none⟩]
    let work : Work := .start (.scripted false answers) 0 .asKept none
    let later := ((CommandLine.Task.planIn (.list .creditCard) .token .plain files config).run .off work).2.wire
    headerEntries files config.header = .ok entries ∧
      headersOf entries = .ok [("user-agent", userAgent), ("x-cenarius-token", "mine")] ∧
      entries.Pairwise (fun first second => headerName? first.1 ≠ headerName? second.1) ∧
      later.seen.length = 2 ∧ ∀ request ∈ later.seen, request.headers.values "x-cenarius-token" = ["mine"] := by
  intro config files entries answers work later
  have read : headerEntries files config.header = .ok entries := by decide +kernel
  have loads : headersOf entries = .ok [("user-agent", userAgent), ("x-cenarius-token", "mine")] := by
    decide +kernel
  have distinct : entries.Pairwise fun first second => headerName? first.1 ≠ headerName? second.1 :=
    List.pairwise_singleton _ _
  have two : later.seen.length = 2 := by decide +kernel
  obtain ⟨sent, seen, shown⟩ := (header_file_comes_first read loads distinct).2 (.list .creditCard) .token .plain
    .off work false answers rfl
  with_reducible refine ⟨read, loads, distinct, two, ?_⟩
  rw [show later.seen = sent from seen]
  exact fun request member => (shown request member).2.trans (by decide +kernel)

end AccessProbe
