import AccessProbe.Proofs.Http.Likeness

/-! Requests that differ in the token and in the body of a POST request only. -/

namespace AccessProbe

namespace Headers

/-- Header fields with the same names in the same order, and with the same values except for some names. -/
def Alike (secret : String → Prop) (fields others : Headers) : Prop :=
  List.Forall₂ (fun field other => field.1 = other.1 ∧ (secret field.1 ∨ field.2 = other.2)) fields others

namespace Alike

variable {secret wider : String → Prop} {fields others : Headers}

theorem refl (fields : Headers) : Alike secret fields fields := by
  -- Field by field.
  induction fields with
  | nil => exact .nil
  | cons field rest ih => exact .cons ⟨rfl, .inr rfl⟩ ih

/-- Header fields that may differ in some names may differ in more names. -/
theorem imp (alike : Alike secret fields others) (more : ∀ name, secret name → wider name) :
    Alike wider fields others :=
  List.Forall₂.imp (fun _ _ same => ⟨same.1, same.2.imp (more _) id⟩) alike

/-- A field is in both or in neither. -/
theorem isSome_get? (alike : Alike secret fields others) (name : String) :
    (fields.get? name).isSome = (others.get? name).isSome := by
  -- Induction on the pairs of fields, which have the same names.
  induction alike with
  | nil => rfl
  | @cons field otherField rest otherRest same _ ih =>
    obtain ⟨key, held⟩ := field
    obtain ⟨otherKey, otherHeld⟩ := otherField
    obtain ⟨rfl, _⟩ := same
    simp only [get?, List.lookup_cons]
    split
    · rfl
    · exact ih

/-- Setting a field keeps the fields alike, if the values are the same or may differ. -/
theorem insert (alike : Alike secret fields others) {name value other : String}
    (same : secret name ∨ value = other) : Alike secret (fields.insert name value) (others.insert name other) := by
  -- The fields have the same names in the same order, so that the new one has the same place in both.
  induction alike with
  | nil => exact .cons ⟨rfl, same⟩ .nil
  | @cons field otherField rest otherRest first after ih =>
    obtain ⟨key, held⟩ := field
    obtain ⟨otherKey, otherHeld⟩ := otherField
    obtain ⟨rfl, values⟩ := first
    -- The place of the new field depends on the names only.
    simp only [Headers.insert]
    split
    · exact .cons ⟨rfl, same⟩ (.cons ⟨rfl, values⟩ after)
    · split
      · exact .cons ⟨rfl, same⟩ after
      · exact .cons ⟨rfl, values⟩ ih

/-- Setting a default keeps the fields alike. -/
theorem withDefault (alike : Alike secret fields others) (name value : String) :
    Alike secret (fields.withDefault name value) (others.withDefault name value) := by
  -- Both have the field or neither has it.
  simp only [Headers.withDefault, alike.isSome_get? name]
  split
  · exact alike
  · exact alike.insert (.inr rfl)

/-- Removing a field keeps the fields alike, and its values no longer matter. -/
theorem erase (alike : Alike wider fields others) (name : String)
    (fewer : ∀ other, wider other → other ≠ name → secret other) :
    Alike secret (fields.erase name) (others.erase name) := by
  -- The filter keeps the same names on both sides.
  induction alike with
  | nil => exact .nil
  | @cons field otherField rest otherRest first after ih =>
    simp only [Headers.erase, List.filter_cons, first.1]
    split
    · rename_i kept
      refine .cons ⟨first.1, first.2.imp_left fun secretive => fewer _ secretive ?_⟩ ih
      simpa [first.1] using kept
    · exact ih

/-- Removing several fields keeps the fields alike. -/
theorem foldl_erase (names : List String) (alike : Alike secret fields others) :
    Alike secret (names.foldl Headers.erase fields) (names.foldl Headers.erase others) := by
  -- One name after the other.
  induction names generalizing fields others with
  | nil => exact alike
  | cons name rest ih => exact ih (alike.erase name fun _ secretive _ => secretive)

/-- A field that may not differ has the same value in both or is in neither. -/
theorem get?_eq (alike : Alike secret fields others) {name : String} (shown : ¬ secret name) :
    fields.get? name = others.get? name := by
  -- The fields have the same names in the same order, and a field that is shown has the same value.
  induction alike with
  | nil => rfl
  | @cons field otherField rest otherRest same _ ih =>
    obtain ⟨key, held⟩ := field
    obtain ⟨otherKey, otherHeld⟩ := otherField
    obtain ⟨rfl, values⟩ := same
    simp only [get?, List.lookup_cons]
    cases here : name == key with
    | false => exact ih
    | true =>
      -- The name that is looked up may not differ.
      rw [beq_iff_eq.mp here] at shown
      exact congrArg some (values.resolve_left shown)

/-- Setting fields that are alike keeps the fields alike. -/
theorem extend {given otherGiven : Headers} (alike : Alike secret fields others)
    (news : Alike secret given otherGiven) : Alike secret (fields.extend given) (others.extend otherGiven) := by
  -- One field after the other.
  induction news generalizing fields others with
  | nil => exact alike
  | cons same _ ih =>
    simp only [Headers.extend, List.foldl_cons, same.1] at ih ⊢
    exact ih (alike.insert (same.1 ▸ same.2))

end Alike

end Headers

/-- The header fields that depend on the password: the token, and the length of the body of a POST request. -/
def isSecret (method : Method) (name : String) : Prop :=
  name = "x-cenarius-token" ∨ method = .post ∧ name = "content-length"

/-- Requests that may differ in the token and in the body of a POST request. -/
structure Request.SameButSecrets (request other : Request) : Prop where
  method : request.method = other.method
  url : request.url = other.url
  /-- The values of secret fields may differ. -/
  headers : request.headers.Alike (isSecret request.method) other.headers
  /-- The bodies of other requests than POST do not differ. -/
  body : request.method ≠ .post → request.body = other.body

/-- The same relation for requests of a chain of redirects. -/
structure Hop.SameButSecrets (hop other : Hop) : Prop where
  method : hop.method = other.method
  url : hop.url = other.url
  /-- The values of secret fields may differ. -/
  fields : hop.fields.Alike (isSecret hop.method) other.fields
  /-- The bodies of other requests than POST do not differ. -/
  body : hop.method ≠ .post → hop.body = other.body
  /-- Both have a body or neither has. -/
  empties : hop.body.isEmpty = other.body.isEmpty
  previous : hop.previous = other.previous

namespace Hop.SameButSecrets

variable {hop other : Hop}

theorem refl (hop : Hop) : hop.SameButSecrets hop := ⟨rfl, rfl, .refl _, fun _ => rfl, rfl, rfl⟩

/-- A redirect keeps the fields alike. -/
theorem fieldsAfter {secret : String → Prop} {fields others : Headers} (alike : fields.Alike secret others)
    (previous url : Url) : (Hop.fieldsAfter previous url fields).Alike secret
      (Hop.fieldsAfter previous url others) := by
  -- Both drop the private fields or neither does, and both get the same `referer`.
  have shown : (if sameServer previous url then fields else privateFields.foldl Headers.erase fields).Alike
      secret (if sameServer previous url then others else privateFields.foldl Headers.erase others) := by
    split
    · exact alike
    · exact alike.foldl_erase privateFields
  unfold Hop.fieldsAfter
  cases referer? previous url with
  | some referer => exact shown.insert (.inr rfl)
  | none => exact shown

/-- The fields without cookies are alike, behind a redirect or not. -/
theorem ownFields (same : hop.SameButSecrets other) :
    hop.ownFields.Alike (isSecret hop.method) other.ownFields := by
  -- The `host` field is the same for both.
  simp only [Hop.ownFields, ← same.previous, ← same.url]
  cases hop.previous with
  | some previous => exact (fieldsAfter same.fields _ _).withDefault _ _
  | none => exact same.fields.withDefault _ _

/-- Choosing a single description of the length keeps the fields alike. -/
theorem framed {secret : String → Prop} {fields others : Headers} (alike : fields.Alike secret others)
    (coded : ¬ secret "transfer-encoding") {body otherBody : List UInt8}
    (empties : body.isEmpty = otherBody.isEmpty) :
    (Hop.framed body fields).Alike secret (Hop.framed otherBody others) := by
  -- Both have a body or neither has, and `transfer-encoding` may not differ.
  simp only [Hop.framed, empties, alike.get?_eq coded]
  split
  · exact alike.erase _ fun _ secretive _ => secretive
  · split
    · exact alike
    · exact (alike.erase _ fun _ secretive _ => secretive).insert (.inr rfl)

/-- The fields with cookies are alike. -/
theorem shownFields (same : hop.SameButSecrets other) (jar : Jar) :
    (hop.shownFields jar).Alike (isSecret hop.method) (other.shownFields jar) := by
  -- The jar is the same for both.
  simp only [Hop.shownFields, ← same.url]
  cases jar.field? hop.url with
  | some cookies => exact same.ownFields.withDefault _ _
  | none => exact same.ownFields

/-- The requests are alike as servers see them. -/
theorem request (same : hop.SameButSecrets other) (jar : Jar) :
    (hop.request jar).SameButSecrets (other.request jar) := by
  -- `transfer-encoding` is not secret.
  have coded : ¬ isSecret hop.method "transfer-encoding" := by simp [isSecret]
  exact ⟨same.method, congrArg Url.withoutUser same.url, framed (same.shownFields jar) coded same.empties,
    same.body⟩

/-- Without the fields that describe a body, the length of the body no longer matters. -/
theorem erase_contentFields {method : Method} {fields others : Headers}
    (alike : fields.Alike (isSecret method) others) :
    (contentFields.foldl Headers.erase fields).Alike (isSecret .get)
      (contentFields.foldl Headers.erase others) := by
  -- Four names are removed one after the other.
  have encoding := alike.erase "content-encoding" fun _ secretive _ => secretive
  -- Behind `content-length` only the token is secret.
  have length : Headers.Alike (isSecret .get) _ _ :=
    encoding.erase "content-length" fun _ secretive other =>
      secretive.imp_right fun lengthy => absurd lengthy.2 other
  have type := length.erase "content-type" fun _ secretive _ => secretive
  exact type.erase "transfer-encoding" fun _ secretive _ => secretive

/-- A redirect keeps the requests alike. -/
theorem redirected (same : hop.SameButSecrets other) (status : Nat) (url : Url) :
    (hop.redirected status url).SameButSecrets (other.redirected status url) := by
  -- Both keep their bodies or both drop them.
  simp only [Hop.redirected, ← same.method]
  split
  · exact ⟨rfl, rfl, erase_contentFields same.fields, fun _ => rfl, rfl, congrArg some same.url⟩
  · exact ⟨rfl, rfl, same.fields, same.body, same.empties, congrArg some same.url⟩

end Hop.SameButSecrets

/-- The relation between requests that differ in secrets only. -/
def Likeness.secrets : Likeness where
  hops := Hop.SameButSecrets
  requests := Request.SameButSecrets
  jars := Eq
  url := Hop.SameButSecrets.url
  request := fun same jars => by rw [jars]; exact same.request _
  redirected := fun status url same => same.redirected status url
  insertAll := Likeness.same.insertAll

/-- The fields that describe two bodies differ in the length only. -/
theorem Client.contentFields_alike (content other : List UInt8) (rest : Headers) :
    Headers.Alike (isSecret .post) (contentFields (some content) ++ rest) (contentFields (some other) ++ rest) :=
  .cons ⟨rfl, .inl (.inr ⟨rfl, rfl⟩)⟩ (Headers.Alike.refl _)

/-- The first requests of two calls are alike, if the default headers are and both have a body or neither has.
-/
theorem Client.first_sameButSecrets {client other : Client} {call otherCall : Call}
    (defaults : client.defaults.Alike (isSecret .get) other.defaults) (url : call.url = otherCall.url)
    (contents : call.content.map List.isEmpty = otherCall.content.map List.isEmpty) :
    (client.first call).SameButSecrets (other.first otherCall) := by
  -- The default headers are alike even as those of a GET request, where only the token is secret.
  obtain ⟨place, content⟩ := call
  obtain ⟨otherPlace, otherContent⟩ := otherCall
  obtain rfl : place = otherPlace := url
  have base : Headers.Alike (isSecret .get) _ _ := (Headers.Alike.refl [("accept", "*/*")]).extend defaults
  cases content with
  | none =>
    cases otherContent with
    | none => exact ⟨rfl, rfl, base.extend (.refl _), fun _ => rfl, rfl, rfl⟩
    | some otherBody => cases contents
  | some body =>
    cases otherContent with
    | none => cases contents
    | some otherBody =>
      -- The bodies may differ, and so may `content-length`.
      have more : Headers.Alike (isSecret .post) _ _ := base.imp fun _ secretive =>
        secretive.imp_right fun lengthy => by cases lengthy.1
      exact ⟨rfl, rfl, more.extend (contentFields_alike body otherBody _), fun none => absurd rfl none,
        Option.some.inj contents, rfl⟩

end AccessProbe
