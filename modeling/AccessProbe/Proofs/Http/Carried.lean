import AccessProbe.Proofs.Http.Headers
import AccessProbe.Proofs.Http.Trail

/-! What the requests of a trail have in common: the default headers of their client, and as long as they are POST requests their body. -/

namespace AccessProbe

/-- The header fields that the client sets or drops by itself, whatever its default headers are. -/
def Client.ownNames : List String :=
  ["accept", "authorization", "content-encoding", "content-length", "content-type", "cookie", "cookie2", "host",
    "proxy-authorization", "referer", "transfer-encoding", "www-authenticate"]

namespace Hop

variable {hop : Hop} {jar : Jar} {name : String}

/-- The header fields that depend on the URL, the jar or the redirects. -/
def wayNames : List String :=
  ["authorization", "cookie", "cookie2", "host", "proxy-authorization", "referer", "www-authenticate"]

/-- The header fields that delimit the body. -/
def lengthNames : List String := ["content-length", "transfer-encoding"]

theorem wayNames_subset_ownNames : wayNames ⊆ Client.ownNames := by decide

theorem lengthNames_subset_ownNames : lengthNames ⊆ Client.ownNames := by decide

theorem ne_of_foreign {other : String} (foreign : name ∉ wayNames) (changes : other ∈ wayNames) : name ≠ other := by
  rintro rfl
  exact foreign changes

/-- A redirect keeps every field that does not depend on the URL. -/
theorem get?_fieldsAfter (previous url : Url) (fields : Headers) (foreign : name ∉ wayNames) :
    (fieldsAfter previous url fields).get? name = fields.get? name := by
  -- On another server the sensitive fields are dropped, all of which depend on the URL.
  have shown : (if sameServer previous url then fields
      else privateFields.foldl Headers.erase fields).get? name = fields.get? name := by
    split
    · rfl
    · have private_way : privateFields ⊆ wayNames := by decide
      exact Headers.get?_foldl_erase privateFields fields fun member => foreign (private_way member)
  simp only [fieldsAfter]
  -- `referer` may be added, which does so as well.
  split
  · have noReferer : name ≠ "referer" := ne_of_foreign foreign (by decide)
    rw [Headers.get?_insert, if_neg noReferer, shown]
  · exact shown

/-- A redirect keeps the fields in order. -/
theorem ordered_fieldsAfter {fields : Headers} (ordered : fields.Ordered) (previous url : Url) :
    (fieldsAfter previous url fields).Ordered := by
  -- Dropping and inserting fields keep the order.
  have shown : (if sameServer previous url then fields else privateFields.foldl Headers.erase fields).Ordered := by
    split
    · exact ordered
    · exact ordered.foldl_erase privateFields
  simp only [fieldsAfter]
  split
  · exact shown.insert _ _
  · exact shown

/-- The fields of a request before its cookies are those of the chain, apart from the ones that depend on the
URL. -/
theorem get?_ownFields (hop : Hop) (foreign : name ∉ wayNames) :
    hop.ownFields.get? name = hop.fields.get? name := by
  have noHost : name ≠ "host" := ne_of_foreign foreign (by decide)
  simp only [ownFields]
  rw [Headers.get?_withDefault_of_ne _ _ noHost]
  -- Only a redirected request has gone through `fieldsAfter`.
  split
  · exact get?_fieldsAfter _ _ _ foreign
  · rfl

/-- The fields of a request before its cookies are in order. -/
theorem ordered_ownFields (ordered : hop.fields.Ordered) : hop.ownFields.Ordered := by
  -- `host` is a default, which keeps the order of what a redirect leaves.
  simp only [ownFields]
  apply Headers.Ordered.withDefault
  split
  · exact ordered_fieldsAfter ordered _ _
  · exact ordered

/-- The fields of a request with its cookies are those of the chain, apart from the ones that depend on the
URL. -/
theorem get?_shownFields (hop : Hop) (jar : Jar) (foreign : name ∉ wayNames) :
    (hop.shownFields jar).get? name = hop.fields.get? name := by
  -- The jar adds `cookie` at most.
  simp only [shownFields]
  split
  · have noCookie : name ≠ "cookie" := ne_of_foreign foreign (by decide)
    rw [Headers.get?_withDefault_of_ne _ _ noCookie, get?_ownFields hop foreign]
  · exact get?_ownFields hop foreign

/-- The fields of a request with its cookies are in order. -/
theorem ordered_shownFields (ordered : hop.fields.Ordered) (jar : Jar) : (hop.shownFields jar).Ordered := by
  -- The jar adds a default at most.
  have own := ordered_ownFields ordered
  simp only [shownFields]
  split
  · exact own.withDefault _ _
  · exact own

/-- Framing changes only the fields that delimit the body. -/
theorem get?_framed (body : List UInt8) (fields : Headers) (foreign : name ∉ lengthNames) :
    (framed body fields).get? name = fields.get? name := by
  -- Each of its three cases drops or inserts `content-length` or `transfer-encoding`.
  have noLength : name ≠ "content-length" := by
    rintro rfl
    exact foreign (by decide)
  have noCoding : name ≠ "transfer-encoding" := by
    rintro rfl
    exact foreign (by decide)
  simp only [framed]
  split
  · exact Headers.get?_erase_of_ne _ noCoding
  · split
    · rfl
    · rw [Headers.get?_insert, if_neg noCoding, Headers.get?_erase_of_ne _ noLength]

/-- Without a `transfer-encoding` the `content-length` is kept. -/
theorem length_framed_of_plain (body : List UInt8) {fields : Headers}
    (plain : fields.get? "transfer-encoding" = none) :
    (framed body fields).get? "content-length" = fields.get? "content-length" := by
  -- Only the cases of `framed` without a `transfer-encoding` are left.
  have differ : "content-length" ≠ "transfer-encoding" := by decide
  simp only [framed, plain]
  split
  · exact Headers.get?_erase_of_ne _ differ
  · rfl

/-- A `content-length` after framing was there before. -/
theorem length_framed (body : List UInt8) (fields : Headers) {length : String}
    (told : (framed body fields).get? "content-length" = some length) :
    fields.get? "content-length" = some length := by
  -- Of the three cases one drops the field and the others keep it.
  have differ : "content-length" ≠ "transfer-encoding" := by decide
  simp only [framed] at told
  split at told
  · rwa [Headers.get?_erase_of_ne _ differ] at told
  · split at told
    · exact told
    · -- A chunked body has no `content-length`.
      rw [Headers.get?_insert, if_neg differ, Headers.get?_erase_self] at told
      cases told

/-- Framing keeps the fields in order. -/
theorem ordered_framed {fields : Headers} (ordered : fields.Ordered) (body : List UInt8) :
    (framed body fields).Ordered := by
  -- Dropping and inserting fields keep the order.
  simp only [framed]
  split
  · exact ordered.erase _
  · split
    · exact ordered
    · exact (ordered.erase _).insert _ _

/-- The fields of a request as sent are those of the chain, apart from the ones that depend on the URL or
delimit the body. -/
theorem get?_request (hop : Hop) (jar : Jar) (foreign : name ∉ wayNames) (other : name ∉ lengthNames) :
    (hop.request jar).headers.get? name = hop.fields.get? name :=
  (get?_framed _ _ other).trans (get?_shownFields hop jar foreign)

theorem ordered_request (ordered : hop.fields.Ordered) (jar : Jar) : (hop.request jar).headers.Ordered :=
  ordered_framed (ordered_shownFields ordered jar) _

/-- A redirect keeps the fields that the client does not set by itself. -/
theorem get?_redirected (hop : Hop) (status : Nat) (url : Url) (foreign : name ∉ Client.ownNames) :
    (hop.redirected status url).fields.get? name = hop.fields.get? name := by
  -- Only a redirect that drops the body drops fields.
  simp only [redirected]
  split
  · -- Those it drops describe the body.
    have content_own : contentFields ⊆ Client.ownNames := by decide
    exact Headers.get?_foldl_erase contentFields hop.fields fun member => foreign (content_own member)
  · rfl

/-- A redirect adds no `transfer-encoding`. -/
theorem plain_redirected {hop : Hop} (plain : hop.fields.get? "transfer-encoding" = none) (status : Nat) (url : Url) :
    (hop.redirected status url).fields.get? "transfer-encoding" = none := by
  -- It drops fields of the chain at most.
  simp only [redirected]
  split
  · exact Headers.get?_foldl_erase_eq_none contentFields plain
  · exact plain

/-- A redirect keeps the fields of the chain in order. -/
theorem ordered_redirected (ordered : hop.fields.Ordered) (status : Nat) (url : Url) :
    (hop.redirected status url).fields.Ordered := by
  -- It drops fields of the chain at most.
  simp only [redirected]
  split
  · exact ordered.foldl_erase contentFields
  · exact ordered

/-- A POST request has this body, and a GET request has none. -/
structure Bears (content : List UInt8) (hop : Hop) : Prop where
  posted : hop.method = .post → hop.body = content
  looking : hop.method = .get → hop.body = []

/-- A redirect neither changes the body nor adds one. -/
theorem Bears.redirected {content : List UInt8} (bears : hop.Bears content) (status : Nat) (url : Url) :
    (hop.redirected status url).Bears content := by
  -- Either the method becomes GET and the body is dropped, or both stay as they are.
  simp only [Hop.redirected]
  split
  · -- Of a GET request only an empty body is claimed.
    exact ⟨nofun, fun _ => rfl⟩
  · exact ⟨bears.posted, bears.looking⟩

/-- A POST request has the header fields that describe this body. -/
def Describes (content : List UInt8) (hop : Hop) : Prop :=
  hop.method = .post → ∀ field ∈ Client.contentFields (some content), hop.fields.get? field.1 = some field.2

/-- A redirect keeps the description of the body, unless it makes a GET request. -/
theorem Describes.redirected {content : List UInt8} (describes : hop.Describes content) (status : Nat) (url : Url) :
    (hop.redirected status url).Describes content := by
  -- A redirect that drops fields makes a GET request, of which nothing is claimed.
  simp only [Hop.redirected]
  split
  · exact nofun
  · exact describes

/-- A redirect repeats a POST request exactly if its status code is 307 or 308, and makes none of a GET
request. -/
theorem method_redirected (hop : Hop) {status : Nat} (url : Url) (status_mem : status ∈ redirectStatuses) :
    (hop.redirected status url).method = .post ↔ hop.method = .post ∧ (status = 307 ∨ status = 308) := by
  -- The method decides whether the status code matters at all.
  simp only [redirectStatuses, List.mem_cons, List.not_mem_nil, or_false] at status_mem
  cases method : hop.method with
  | get =>
    -- A GET request stays one, whether its fields are dropped or not.
    have looks : (hop.redirected status url).method = .get := by
      unfold redirected
      split
      · rfl
      · exact method
    simp [looks]
  | post =>
    -- Case by case over the five status codes, since the code lists those that drop the body.
    rcases status_mem with rfl | rfl | rfl | rfl | rfl <;> simp [redirected, dropsContent, method]

end Hop

namespace Client

/-- The header fields that the first request of a chain sets by itself. -/
def startNames : List String := ["accept", "authorization", "content-length", "content-type"]

/-- The fields for the body and the user info are among them. -/
theorem name_mem_startNames (call : Call) : ∀ field ∈ contentFields call.content
    ++ ((basicField? call.url).map fun value => ("authorization", value)).toList, field.1 ∈ startNames := by
  -- They are `content-length`, `content-type` and `authorization`.
  intro field member
  rcases List.mem_append.mp member with describes | shows
  · -- A GET request has no fields for a body.
    cases content : call.content with
    | none => simp [content, contentFields] at describes
    | some body =>
      simp only [content, contentFields, List.mem_cons, List.not_mem_nil, or_false] at describes
      rcases describes with rfl | rfl
      · simp [startNames]
      · simp [startNames]
  · rw [Option.mem_toList, Option.map_eq_some_iff] at shows
    obtain ⟨value, _, rfl⟩ := shows
    simp [startNames]

/-- The first request of a chain has every other field as the default headers have it. -/
theorem get?_fields {client : Client} (ordered : client.defaults.Ordered) (call : Call) {name : String}
    (foreign : name ∉ startNames) : (client.fields call).get? name = client.defaults.get? name := by
  -- Extending the defaults by fields of other names does not change this one.
  have noAccept : name ≠ "accept" := by
    rintro rfl
    exact foreign (by decide)
  have own : ∀ field ∈ contentFields call.content
      ++ ((basicField? call.url).map fun value => ("authorization", value)).toList, name ≠ field.1 := by
    rintro field member rfl
    exact foreign (name_mem_startNames call field member)
  -- The default headers replace `accept`, and the request's own fields replace both.
  rw [fields, Headers.get?_extend_of_forall_ne _ own, Headers.get?_extend ordered, Headers.get?_cons,
    if_neg noAccept]
  exact Option.or_none

/-- The fields that describe a body do not depend on the URL. -/
theorem name_not_mem_wayNames {content : Option (List UInt8)} {field : String × String}
    (member : field ∈ contentFields content) : field.1 ∉ Hop.wayNames := by
  -- They are two of the names in `Hop.contentFields`, none of which is in the list.
  have apart : ∀ name ∈ Hop.contentFields, name ∉ Hop.wayNames := by decide
  apply apart
  cases content with
  | none => cases member
  | some body =>
    simp only [contentFields, List.mem_cons, List.not_mem_nil, or_false] at member
    rcases member with rfl | rfl
    · simp [Hop.contentFields]
    · simp [Hop.contentFields]

/-- The first request of a chain describes its own body, whatever the default headers say. -/
theorem first_describes (client : Client) {call : Call} {content : List UInt8} (posts : call.content = some content) :
    (client.first call).Describes content := by
  -- The fields of the body are set after the default headers, so each is found with its own value.
  intro _ field member
  have ordered : Headers.Ordered (contentFields (some content)) :=
    List.pairwise_pair.mpr (show "content-length" < "content-type" by decide)
  have found : (contentFields (some content)).get? field.1 = some field.2 := by
    simp only [contentFields, List.mem_cons, List.not_mem_nil, or_false] at member
    rcases member with rfl | rfl
    · rfl
    · rfl
  -- Only `authorization` is set after them.
  have elsewhere : ∀ other ∈ ((basicField? call.url).map fun value => ("authorization", value)).toList,
      field.1 ≠ other.1 := by
    intro other shows
    rw [Option.mem_toList, Option.map_eq_some_iff] at shows
    obtain ⟨value, _, rfl⟩ := shows
    exact Hop.ne_of_foreign (name_not_mem_wayNames member) (show "authorization" ∈ Hop.wayNames by decide)
  show (client.fields call).get? field.1 = some field.2
  rw [fields, posts, Headers.extend_append, Headers.get?_extend_of_forall_ne _ elsewhere, Headers.get?_extend ordered,
    found, Option.some_or]

theorem ordered_fields (client : Client) (call : Call) : (client.fields call).Ordered :=
  ((Headers.Ordered.singleton "accept" "*/*").extend client.defaults).extend _

/-- The first request of a chain has the body of the program's request. -/
theorem first_bears (client : Client) (call : Call) : (client.first call).Bears (call.content.getD []) := by
  -- The method is GET only where there is no body.
  refine ⟨fun _ => rfl, fun looks => ?_⟩
  cases content : call.content with
  | none => simp [first, content]
  | some body => simp [first, Call.method, content] at looks

end Client

/-- The response is a redirect that repeats the request with its method and body. -/
def Sighting.Repeats (client : Client) (sighting : Sighting) : Prop :=
  ∃ response, client.receive sighting.answer = some (.ok response) ∧
    (response.status = 307 ∨ response.status = 308)

namespace Trail

variable {client : Client} {call : Call} {sightings before after : List Sighting} {last : Sighting}

/-- Along a chain a property of requests holds up to a given one, if it holds of the first one and every
request before the given one hands it on. -/
theorem chain_reaches {P : Hop → Prop} {first : Sighting}
    (linked : (first :: (before ++ last :: after)).IsChain (Sighting.LeadsTo client)) (start : P first.hop)
    (step : ∀ earlier ∈ first :: before, ∀ next, earlier.LeadsTo client next → P earlier.hop → P next.hop) :
    P last.hop := by
  -- The property goes from one request of the chain to the next.
  induction before generalizing first with
  | nil =>
    exact step first (by simp) last (List.isChain_cons_cons.mp linked).1 start
  | cons second rest ih =>
    obtain ⟨leads, others⟩ := List.isChain_cons_cons.mp linked
    obtain ⟨here, later⟩ := List.forall_mem_cons.mp step
    exact ih others (here second leads start) later

/-- The same from the start of a trail. -/
theorem reaches {P : Hop → Prop} (trail : Trail client call (before ++ last :: after))
    (start : P (client.first call))
    (step : ∀ earlier ∈ before, ∀ next, earlier.LeadsTo client next → P earlier.hop → P next.hop) :
    P last.hop := by
  -- The given request is the first one of the trail, or `chain_reaches` applies from the first one on.
  cases before with
  | nil =>
    have same : last.hop = client.first call := Option.some.inj trail.starts
    rw [same]
    exact start
  | cons first rest =>
    have same : first.hop = client.first call := Option.some.inj trail.starts
    exact chain_reaches trail.linked (same ▸ start) step

/-- What every redirect keeps holds all along a trail, if it holds of its first request. -/
theorem forall_hop {P : Hop → Prop} (trail : Trail client call sightings) (start : P (client.first call))
    (kept : ∀ hop status url, P hop → P (Hop.redirected hop status url)) :
    ∀ sighting ∈ sightings, P sighting.hop := by
  intro sighting member
  obtain ⟨before, after, rfl⟩ := List.append_of_mem member
  refine trail.reaches start fun earlier _ next leads holds => ?_
  -- Whatever the response is, the next request is the redirected one.
  obtain ⟨response, url, _, _, _, goes⟩ := leads
  rw [goes]
  exact kept _ _ _ holds

/-- Every request of a trail has each default header that the client does not set by itself exactly once. -/
theorem values_eq (trail : Trail client call sightings) (ordered : client.defaults.Ordered) {name : String}
    (foreign : name ∉ Client.ownNames) :
    ∀ sighting ∈ sightings, sighting.request.headers.values name = (client.defaults.get? name).toList := by
  intro sighting member
  -- The fields of the first request are among those that the client sets by itself.
  have start_own : Client.startNames ⊆ Client.ownNames := by decide
  have later : name ∉ Client.startNames := fun member => foreign (start_own member)
  -- Every redirect keeps that the fields are in order, and the value of this one.
  have kept : sighting.hop.fields.Ordered ∧ sighting.hop.fields.get? name = client.defaults.get? name :=
    trail.forall_hop (P := fun hop => hop.fields.Ordered ∧ hop.fields.get? name = client.defaults.get? name)
      ⟨client.ordered_fields call, client.get?_fields ordered call later⟩
      (fun hop status url holds => ⟨Hop.ordered_redirected holds.1 status url,
        (hop.get?_redirected status url foreign).trans holds.2⟩) sighting member
  have shown : sighting.request.headers.Ordered := Hop.ordered_request kept.1 sighting.jar
  have noWay : name ∉ Hop.wayNames := fun member => foreign (Hop.wayNames_subset_ownNames member)
  have noLength : name ∉ Hop.lengthNames := fun member => foreign (Hop.lengthNames_subset_ownNames member)
  rw [shown.values_eq, Sighting.request, Hop.get?_request _ _ noWay noLength, kept.2]

section Content

variable {content : List UInt8} (trail : Trail client call sightings) (posts : call.content = some content)

include trail posts

/-- Every request of a trail with a body has its fields in order and describes the body, as long as it is a
POST request. -/
theorem keeps_description : ∀ sighting ∈ sightings, sighting.request.headers.Ordered ∧
    sighting.hop.Describes content := by
  -- Both hold of the first request, and every redirect keeps both.
  intro sighting member
  have kept : sighting.hop.fields.Ordered ∧ sighting.hop.Describes content :=
    trail.forall_hop (P := fun hop => hop.fields.Ordered ∧ hop.Describes content)
      ⟨client.ordered_fields call, client.first_describes posts⟩
      (fun _ status url holds => ⟨Hop.ordered_redirected holds.1 status url, holds.2.redirected status url⟩)
      sighting member
  exact ⟨Hop.ordered_request kept.1 sighting.jar, kept.2⟩

/-- Every POST request of such a trail has `content-type: application/json` exactly once. -/
theorem contentType_eq : ∀ sighting ∈ sightings, sighting.hop.method = .post →
    sighting.request.headers.values "content-type" = ["application/json"] := by
  -- The value is in the description, and neither the URL nor framing changes it.
  intro sighting member method
  obtain ⟨shown, describes⟩ := trail.keeps_description posts sighting member
  have described := describes method ("content-type", "application/json") (by simp [Client.contentFields])
  rw [shown.values_eq, Sighting.request, Hop.get?_request _ _ (by decide) (by decide), described]
  rfl

/-- A POST request of such a trail has no `content-length` but that of its body. -/
theorem contentLength_eq : ∀ sighting ∈ sightings, sighting.hop.method = .post →
    ∀ length ∈ sighting.request.headers.values "content-length", length = toString content.length := by
  -- A `content-length` that framing leaves was in the description.
  intro sighting member method length told
  obtain ⟨shown, describes⟩ := trail.keeps_description posts sighting member
  have described := describes method ("content-length", toString content.length) (by simp [Client.contentFields])
  rw [shown.values_eq, Option.mem_toList] at told
  have kept : sighting.hop.fields.get? "content-length" = some length := by
    rw [← Hop.get?_shownFields sighting.hop sighting.jar (show "content-length" ∉ Hop.wayNames by decide)]
    exact Hop.length_framed _ _ told
  exact Option.some.inj (kept.symm.trans described)

/-- If the default headers set no `transfer-encoding`, every POST request of such a trail has the
`content-length` of its body exactly once. -/
theorem contentLength_eq_of_plain (ordered : client.defaults.Ordered)
    (plain : client.defaults.get? "transfer-encoding" = none) :
    ∀ sighting ∈ sightings, sighting.hop.method = .post →
      sighting.request.headers.values "content-length" = [toString content.length] := by
  -- Without a `transfer-encoding`, framing leaves the `content-length` of the description in place.
  intro sighting member method
  obtain ⟨shown, describes⟩ := trail.keeps_description posts sighting member
  have described := describes method ("content-length", toString content.length) (by simp [Client.contentFields])
  -- A redirect adds no `transfer-encoding`.
  have uncoded : sighting.hop.fields.get? "transfer-encoding" = none :=
    trail.forall_hop (P := fun hop => hop.fields.get? "transfer-encoding" = none)
      ((client.get?_fields ordered call (by decide)).trans plain)
      (fun _ status url holds => Hop.plain_redirected holds status url) sighting member
  have shownUncoded : (sighting.hop.shownFields sighting.jar).get? "transfer-encoding" = none :=
    (Hop.get?_shownFields _ _ (by decide)).trans uncoded
  have told : sighting.request.headers.get? "content-length" = some (toString content.length) := by
    show (Hop.framed _ _).get? _ = _
    rw [Hop.length_framed_of_plain _ shownUncoded, Hop.get?_shownFields _ _ (by decide), described]
  rw [shown.values_eq, told]
  rfl

end Content

/-- A request of a chain is a POST request if and only if the first one is and every response before it
repeats the request. -/
theorem chain_method {first : Sighting}
    (linked : (first :: (before ++ last :: after)).IsChain (Sighting.LeadsTo client)) :
    last.hop.method = .post ↔ first.hop.method = .post ∧ ∀ earlier ∈ first :: before, earlier.Repeats client := by
  -- Induction on the requests between the first one and the given one, where each link is `Hop.method_redirected`.
  have repeats {first second : Sighting} (leads : first.LeadsTo client second) :
      second.hop.method = .post ↔ first.hop.method = .post ∧ first.Repeats client := by
    obtain ⟨response, url, arrived, status, _, goes⟩ := leads
    have same : first.Repeats client ↔ response.status = 307 ∨ response.status = 308 := by
      constructor
      · rintro ⟨other, arrivedToo, repeated⟩
        rw [arrived] at arrivedToo
        rw [Except.ok.inj (Option.some.inj arrivedToo)]
        exact repeated
      · exact fun repeated => ⟨response, arrived, repeated⟩
    rw [goes, Hop.method_redirected _ _ status, same]
  induction before generalizing first with
  | nil =>
    rw [repeats (List.isChain_cons_cons.mp linked).1]
    simp
  | cons second rest ih =>
    obtain ⟨leads, others⟩ := List.isChain_cons_cons.mp linked
    refine (ih others).trans ?_
    rw [repeats leads, and_assoc, ← List.forall_mem_cons]

/-- A request of a trail is a POST request if and only if the program made one and every response before it
repeats the request. -/
theorem method_eq_post_iff (trail : Trail client call (before ++ last :: after)) :
    last.hop.method = .post ↔ call.method = .post ∧ ∀ earlier ∈ before, earlier.Repeats client := by
  -- The given request is the first one of the trail, or `chain_method` applies from the first one on.
  have posted : (client.first call).method = call.method := rfl
  cases before with
  | nil =>
    have same : last.hop = client.first call := Option.some.inj trail.starts
    simp [same, posted]
  | cons first rest =>
    have same : first.hop = client.first call := Option.some.inj trail.starts
    rw [chain_method trail.linked, same, posted]

end Trail

end AccessProbe
