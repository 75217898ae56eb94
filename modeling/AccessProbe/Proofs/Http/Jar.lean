import Mathlib.Data.List.Induction
import AccessProbe.Http.Headers
import AccessProbe.Http.Jar
import AccessProbe.Proofs.Text.Blank

/-! The cookies of one response that are sent to another URL of the same server. -/

namespace AccessProbe

/-- The characters of a cookie value: printable ASCII without the semicolon. -/
def isCookieValueChar (c : Char) : Bool := 0x20 ≤ c.toNat && c.toNat ≤ 0x7E && c ≠ ';'

/-- A `set-cookie` field of the form `name=value` or `name=value; Path=/`. -/
structure HandedCookie where
  name : String
  value : String
  /-- Whether the path is `/`. -/
  everywhere : Bool
  named : name ≠ ""
  name_fits : name.toList.all isHeaderNameChar
  value_fits : value.toList.all isCookieValueChar
  /-- The value does not begin with a space. -/
  first : value.toList.head? ≠ some ' '
  /-- Nor does it end in one. -/
  last : value.toList.getLast? ≠ some ' '

namespace HandedCookie

/-- The value of the `set-cookie` field. -/
def text (handed : HandedCookie) : String :=
  handed.name ++ "=" ++ handed.value ++ (if handed.everywhere then "; Path=/" else "")

/-- The cookie that it sets. -/
def cookie (handed : HandedCookie) : Cookie :=
  ⟨handed.name, handed.value, none, if handed.everywhere then some "/" else none, false, none, none⟩

/-- The name contains neither white space nor a delimiter. -/
theorem name_plain (handed : HandedCookie) :
    ∀ c ∈ handed.name.toList, isBlank c = false ∧ c ≠ '=' ∧ c ≠ ';' := by
  -- A header name consists of letters, digits and fifteen other characters, all of which are checked.
  intro c member
  have fits := List.all_eq_true.mp handed.name_fits c member
  simp only [isHeaderNameChar, Bool.or_eq_true] at fits
  obtain shown | mark := fits
  · exact forall_isAlphanum (P := fun c => isBlank c = false ∧ c ≠ '=' ∧ c ≠ ';') (by decide) shown
  · have marks : ("!#$%&'*+-.^_\x60|~".toList.all fun mark => ! isBlank mark && mark ≠ '=' && mark ≠ ';') := by
      decide
    have plain := List.all_eq_true.mp marks c (List.contains_iff_mem.mp mark)
    simpa [and_assoc] using plain

/-- The value consists of printable characters other than the semicolon. -/
theorem value_plain (handed : HandedCookie) :
    ∀ c ∈ handed.value.toList, 0x20 ≤ c.toNat ∧ c.toNat ≤ 0x7E ∧ c ≠ ';' := by
  intro c member
  have fits := List.all_eq_true.mp handed.value_fits c member
  simpa [isCookieValueChar, and_assoc] using fits

/-- Trimming does not change the name. -/
theorem trimBlank_name (handed : HandedCookie) : trimBlank handed.name.toList = handed.name.toList :=
  trimBlank_eq_self (fun c first => (handed.name_plain c (List.mem_of_head? first)).1)
    fun c last => (handed.name_plain c (List.mem_of_getLast? last)).1

/-- Trimming does not change the value. -/
theorem trimBlank_value (handed : HandedCookie) : trimBlank handed.value.toList = handed.value.toList := by
  -- The space is the only printable character that is white space.
  have solid : ∀ c ∈ handed.value.toList, c ≠ ' ' → isBlank c = false := by
    intro c member other
    obtain ⟨low, high, _⟩ := handed.value_plain c member
    have code : c.toNat ≠ 0x20 := fun same => other (Char.toNat_inj.mp same)
    simp only [isBlank, Bool.or_eq_false_iff, Bool.and_eq_false_iff, decide_eq_false_iff_not]
    omega
  refine trimBlank_eq_self (fun c isFirst => ?_) fun c isLast => ?_
  · exact solid c (List.mem_of_head? isFirst) fun space => handed.first (by rw [← space]; exact isFirst)
  · exact solid c (List.mem_of_getLast? isLast) fun space => handed.last (by rw [← space]; exact isLast)

/-- The field splits into a pair and an optional attribute. -/
theorem splitOn_text (handed : HandedCookie) : handed.text.toList.splitOn ';' =
    (handed.name.toList ++ '=' :: handed.value.toList) ::
      (if handed.everywhere then [" Path=/".toList] else []) := by
  -- Neither part contains a semicolon.
  have pair : ';' ∉ handed.name.toList ++ '=' :: handed.value.toList := by
    intro member
    rcases List.mem_append.mp member with inName | behind
    · exact (handed.name_plain _ inName).2.2 rfl
    · rcases List.mem_cons.mp behind with mark | inValue
      · cases mark
      · exact (handed.value_plain _ inValue).2.2 rfl
  have parts : handed.text.toList = [';'].intercalate ((handed.name.toList ++ '=' :: handed.value.toList) ::
      (if handed.everywhere then [" Path=/".toList] else [])) := by
    unfold text
    split
    · simp [List.intercalate]
    · simp [List.intercalate]
  have whole : ∀ part ∈ (handed.name.toList ++ '=' :: handed.value.toList) ::
      (if handed.everywhere then [" Path=/".toList] else []), ';' ∉ part := by
    refine List.forall_mem_cons.mpr ⟨pair, ?_⟩
    split
    · decide
    · exact nofun
  -- The field is these parts with a semicolon between them, which `splitOn` undoes.
  rw [parts, List.splitOn_intercalate _ whole (List.cons_ne_nil _ _)]

/-- The cookie of the field is read as it was set. -/
theorem parse?_text (handed : HandedCookie) : Cookie.parse? handed.text = some handed.cookie := by
  -- The first `=` is the one behind the name, also if the value contains others.
  have unmarked : ∀ c ∈ handed.name.toList, decide (c ≠ '=') = true := by
    intro c member
    exact decide_eq_true (handed.name_plain c member).2.1
  have before : (handed.name.toList ++ '=' :: handed.value.toList).takeWhile (· ≠ '=') = handed.name.toList := by
    rw [List.takeWhile_append_of_pos unmarked]
    simp
  have after : (handed.name.toList ++ '=' :: handed.value.toList).dropWhile (· ≠ '=') =
      '=' :: handed.value.toList := by
    rw [List.dropWhile_append_of_pos unmarked]
    simp
  have located (cookie : Cookie) : Cookie.withAttribute cookie " Path=/".toList =
      { cookie with path := some "/" } := rfl
  have named : handed.name.toList.isEmpty = false := by
    rw [List.isEmpty_eq_false_iff]
    exact fun empty => handed.named (String.toList_eq_nil_iff.mp empty)
  have marked : (handed.name.toList ++ '=' :: handed.value.toList).contains '=' = true := by simp
  simp only [Cookie.parse?, splitOn_text, before, after, trimBlank_name, List.drop_one, List.tail_cons,
    trimBlank_value, named, marked]
  -- The only attribute is the path.
  cases everywhere : handed.everywhere with
  | true =>
    simp only [cookie, everywhere, if_true, List.foldl_cons, List.foldl_nil, located]
    simp
  | false => simp [cookie, everywhere]

/-- The cookie in the jar, set by a URL on a host. -/
def kept (url : Url) (host : Host) (handed : HandedCookie) : StoredCookie :=
  ⟨host.text, false, if handed.everywhere then "/" else String.ofList (Jar.directory url.pathText.toList),
    handed.name, handed.value, false⟩

/-- The last value given to a name by a cookie with path `/`. -/
def lastValue? (cookies : List HandedCookie) (name : String) : Option String :=
  (cookies.reverse.find? fun handed => handed.everywhere && handed.name = name).map HandedCookie.value

/-- The names and last values of the cookies with path `/`, in the order in which they were set last. -/
def shown (cookies : List HandedCookie) : List (String × String) :=
  cookies.foldl (fun pairs handed =>
    if handed.everywhere then pairs.filter (·.1 ≠ handed.name) ++ [(handed.name, handed.value)] else pairs) []

/-- A further cookie with path `/` gives its name a new last value. -/
theorem lastValue?_concat (cookies : List HandedCookie) (handed : HandedCookie) (name : String) :
    lastValue? (cookies ++ [handed]) name =
      if handed.everywhere && handed.name = name then some handed.value else lastValue? cookies name := by
  -- The search from the end finds the new cookie first.
  simp only [lastValue?, List.reverse_append, List.reverse_singleton, List.singleton_append, List.find?_cons]
  split
  · rename_i found
    simp [found]
  · rename_i passed
    simp [passed]

/-- A further cookie with path `/` replaces the one of its name. -/
theorem shown_concat (cookies : List HandedCookie) (handed : HandedCookie) : shown (cookies ++ [handed]) =
    if handed.everywhere then (shown cookies).filter (·.1 ≠ handed.name) ++ [(handed.name, handed.value)]
    else shown cookies := by
  -- The fold takes the new cookie last.
  rw [shown, List.foldl_append]
  rfl

/-- No name is repeated. -/
theorem nodup_shown (cookies : List HandedCookie) : ((shown cookies).map Prod.fst).Nodup := by
  -- From the end, as a later cookie takes the place of an earlier one with its name.
  induction cookies using List.reverseRecOn with
  | nil => exact .nil
  | append_singleton cookies handed ih =>
    rw [shown_concat]
    split
    · have others : (((shown cookies).filter (·.1 ≠ handed.name)).map Prod.fst).Nodup :=
        ih.sublist (List.filter_sublist.map _)
      rw [List.map_append, List.nodup_append]
      refine ⟨others, by simp, ?_⟩
      -- The name of the last cookie has been removed from the others.
      intro name member other same
      obtain ⟨pair, inOthers, rfl⟩ := List.mem_map.mp member
      have differs := of_decide_eq_true (List.mem_filter.mp inOthers).2
      rw [List.mem_singleton.mp same]
      exact differs
    · exact ih

/-- A name has the last value it was given, and no other. -/
theorem mem_shown (cookies : List HandedCookie) (name value : String) :
    (name, value) ∈ shown cookies ↔ lastValue? cookies name = some value := by
  -- From the end, as the last cookie with a name decides on its value.
  induction cookies using List.reverseRecOn with
  | nil => simp [shown, lastValue?]
  | append_singleton cookies handed ih =>
    rw [shown_concat, lastValue?_concat]
    cases handed.everywhere with
    | false => simpa using ih
    | true =>
      -- The last cookie decides on its own name, and those before it on all others.
      by_cases same : handed.name = name
      · subst same
        simp [eq_comm]
      · have other : name ≠ handed.name := Ne.symm same
        simp [ih, same, other]

end HandedCookie

namespace Jar

/-- The directory of a path is what stands before its last slash. -/
theorem directory_append {before last : List Char} (flat : '/' ∉ last) (deep : before ≠ []) :
    directory (before ++ '/' :: last) = before := by
  -- In the reversed path no slash comes before that one.
  have passed : ∀ c ∈ last.reverse, decide (c ≠ '/') = true := by
    intro c member
    apply decide_eq_true
    rintro rfl
    exact flat (List.mem_reverse.mp member)
  have cut : (before ++ '/' :: last).reverse.dropWhile (· ≠ '/') = '/' :: before.reverse := by
    rw [List.reverse_append, List.reverse_cons, List.append_assoc, List.dropWhile_append_of_pos passed]
    simp
  have some : before.reverse.isEmpty = false := by simpa using deep
  simp only [directory, cut, List.drop_one, List.tail_cons, some]
  simp

/-- Two URLs on one host, where the second path does not match the directory of the first one. -/
structure Outside (url : Url) (server : Host) (other : Url) : Prop where
  host : url.host = some server
  otherHost : other.host = some server
  /-- The second path begins with a slash. -/
  rooted : isBelow other.pathText.toList ['/']
  /-- It is not below the directory of the first path. -/
  outside : isBelow other.pathText.toList (directory url.pathText.toList) = false

variable {url other : Url} {host : Host} {jar : Jar} {pairs : List (String × String)}

/-- A jar whose cookies were all set by one URL, and which sends the given pairs to another one. -/
structure Shows (url : Url) (host : Host) (other : Url) (pairs : List (String × String)) (jar : Jar) : Prop where
  /-- Each cookie was set by a `set-cookie` field of the simple form. -/
  kept : ∀ cookie ∈ jar.cookies, ∃ handed : HandedCookie, cookie = handed.kept url host
  /-- These pairs are sent, in the order of the jar. -/
  shown : (jar.cookies.filter (isFor other)).map (fun cookie => (cookie.name, cookie.value)) = pairs

/-- A cookie is sent outside the directory of the URL that set it if its path is `/`. -/
theorem isFor_kept (outside : Outside url host other) (handed : HandedCookie) :
    isFor other (handed.kept url host) = handed.everywhere := by
  -- The path of the cookie is `/` or that directory.
  simp only [isFor, HandedCookie.kept, outside.otherHost]
  cases handed.everywhere with
  | true => simp [outside.rooted]
  | false => simp [outside.outside]

/-- The directory of the first URL is not the root. -/
theorem Outside.ofList_directory_ne (outside : Outside url host other) :
    String.ofList (directory url.pathText.toList) ≠ "/" := by
  -- Every path that begins with a slash is below the root.
  intro same
  have root : directory url.pathText.toList = ['/'] := by
    rw [← String.toList_ofList (l := directory _), same]
    rfl
  have apart := outside.outside
  rw [root, outside.rooted] at apart
  cases apart

/-- Two cookies replace each other if they have the same name and the same kind of path. -/
theorem samePlace_kept (outside : Outside url host other) (handed another : HandedCookie) :
    samePlace (handed.kept url host) (another.kept url host) =
      (handed.everywhere == another.everywhere && decide (another.name = handed.name)) := by
  -- The two kinds of paths differ, as the directory is not the root.
  have apart := outside.ofList_directory_ne
  cases everywhere : handed.everywhere <;> cases anotherEverywhere : another.everywhere <;>
    simp [samePlace, HandedCookie.kept, everywhere, anotherEverywhere, apart, apart.symm, eq_comm]

/-- The jar stores a cookie in place of the one that it replaces. -/
theorem insert_cookie (isHost : url.host = some host) (jar : Jar) (handed : HandedCookie) :
    jar.insert url handed.cookie = { jar with
      cookies := jar.cookies.filter (! samePlace (handed.kept url host) ·) ++ [handed.kept url host] } := by
  -- The host is that of the URL, as there is no `domain` attribute.
  have stored : stored? url handed.cookie = some (handed.kept url host) := by
    simp only [stored?, HandedCookie.cookie, HandedCookie.kept, isHost]
    cases handed.everywhere with
    | true => rfl
    | false => rfl
  -- Without `max-age` and `expires` it does not expire.
  have lasting : isOver jar.now handed.cookie = false := rfl
  simp [insert, stored, lasting]

/-- Storing a cookie with path `/` replaces the pair of its name, and any other cookie changes no pair. -/
theorem Shows.insert (outside : Outside url host other) (shows : Shows url host other pairs jar)
    (handed : HandedCookie) : Shows url host other
      (if handed.everywhere then pairs.filter (·.1 ≠ handed.name) ++ [(handed.name, handed.value)] else pairs)
      (jar.insert url handed.cookie) := by
  -- The new cookie stands behind those that it does not replace.
  obtain ⟨kept, rfl⟩ := shows
  rw [insert_cookie outside.host]
  constructor
  · intro cookie member
    rcases List.mem_append.mp member with older | new
    · exact kept cookie (List.mem_filter.mp older).1
    · exact ⟨handed, List.mem_singleton.mp new⟩
  -- A cookie that is sent is replaced if the new one has path `/` and the same name.
  have gives : ∀ cookie ∈ jar.cookies, (isFor other cookie && ! samePlace (handed.kept url host) cookie) =
      ((! handed.everywhere || decide (cookie.name ≠ handed.name)) && isFor other cookie) := by
    intro cookie member
    obtain ⟨another, rfl⟩ := kept cookie member
    rw [isFor_kept outside, samePlace_kept outside]
    have name : (another.kept url host).name = another.name := rfl
    rw [name]
    cases handed.everywhere <;> cases another.everywhere <;> simp
  rw [List.filter_append, List.filter_filter, List.filter_congr gives, ← List.filter_filter, List.filter_cons,
    isFor_kept outside]
  cases handed.everywhere with
  | true => simp [List.filter_map, Function.comp_def, HandedCookie.kept]
  | false => simp

/-- The cookies of a response are stored one after the other. -/
theorem insertAll_text (jar : Jar) (url : Url) (cookies : List HandedCookie) :
    jar.insertAll url (cookies.map HandedCookie.text) =
      cookies.foldl (fun jar handed => jar.insert url handed.cookie) jar := by
  -- Each of the fields is read as its cookie.
  have read : (cookies.map HandedCookie.text).filterMap Cookie.parse? = cookies.map HandedCookie.cookie := by
    rw [List.filterMap_map, ← List.filterMap_eq_map]
    congr 1
    funext handed
    exact handed.parse?_text
  rw [insertAll, read, List.foldl_map]

/-- An empty jar that stores the cookies of a response sends the last value of every name with path `/`. -/
theorem insertAll_shows (outside : Outside url host other) (now : Int) (order : CookieOrder)
    (cookies : List HandedCookie) : Shows url host other (HandedCookie.shown cookies)
      ((empty now order).insertAll url (cookies.map HandedCookie.text)) := by
  rw [insertAll_text]
  -- The pairs and the jar change together with every cookie.
  induction cookies using List.reverseRecOn with
  | nil => exact ⟨nofun, rfl⟩
  | append_singleton cookies handed before =>
    rw [List.foldl_append, HandedCookie.shown_concat]
    exact before.insert outside handed

/-- The `cookie` field contains the pairs in some order, and there is none without pairs. -/
theorem Shows.exists_field?_eq (shows : Shows url host other pairs jar) :
    ∃ parts : List (String × String), parts.Perm pairs ∧ jar.field? other = if pairs = [] then none
      else some (String.intercalate "; " (parts.map fun pair => pair.1 ++ "=" ++ pair.2)) := by
  -- Filtering commutes with the order in which the jar goes through its cookies.
  let shown := (jar.order.apply jar.cookies).filter (isFor other)
  have rearranged : (shown.map fun cookie => (cookie.name, cookie.value)).Perm pairs := by
    rw [← shows.shown]
    exact ((jar.order.perm jar.cookies).filter _).map _
  refine ⟨_, rearranged, ?_⟩
  rw [field?, List.map_map]
  cases found : (jar.order.apply jar.cookies).filter (isFor other) with
  | nil =>
    have none : pairs = [] := by simpa [shown, found] using rearranged.symm
    rw [if_pos none]
  | cons cookie rest =>
    have some : pairs ≠ [] := by
      rintro rfl
      simp [shown, found] at rearranged
    rw [if_neg some]
    simp [shown, found, Function.comp_def]

end Jar

end AccessProbe
