import AccessProbe.Http.Headers

/-! Header fields as a finite map: the value of every field after each operation, and the order of the names. -/

namespace AccessProbe.Headers

variable {headers others : Headers} {name other value : String}

/-- The first field decides on its own name, the rest on every other name. -/
theorem get?_cons (rest : Headers) :
    get? ((other, value) :: rest) name = if name = other then some value else get? rest name := by
  -- Looking a name up compares it with the first one.
  simp only [get?, List.lookup_cons]
  by_cases same : name = other
  · simp [same]
  · have differ : (name == other) = false := by simpa using same
    simp [same, differ]

/-- Setting a field changes its value and no other. -/
theorem get?_insert (headers : Headers) (name value other : String) :
    (headers.insert name value).get? other = if other = name then some value else headers.get? other := by
  -- The fields in front of the place of the new one are passed over.
  induction headers with
  | nil => simp [Headers.insert, get?_cons]
  | cons field rest ih =>
    obtain ⟨key, held⟩ := field
    simp only [Headers.insert]
    -- The new field goes before the first one, replaces it, or goes somewhere behind it.
    split
    · rw [get?_cons]
    · split
      · rename_i same
        subst same
        simp only [get?_cons]
        split <;> rfl
      · rename_i differ
        rw [get?_cons, get?_cons, ih]
        by_cases here : other = key
        · simp [here, Ne.symm differ]
        · simp [here]

/-- A default changes no other field. -/
theorem get?_withDefault_of_ne (headers : Headers) (value : String) (differ : other ≠ name) :
    (headers.withDefault name value).get? other = headers.get? other := by
  -- Either nothing changes or the field is set.
  unfold withDefault
  split
  · rfl
  · rw [get?_insert, if_neg differ]

/-- A missing field gets its default. -/
theorem get?_withDefault_self (missing : headers.get? name = none) :
    (headers.withDefault name value).get? name = some value := by
  simp [withDefault, missing, get?_insert]

/-- Removing a field changes no other. -/
theorem get?_erase_of_ne (headers : Headers) (differ : other ≠ name) :
    (headers.erase name).get? other = headers.get? other := by
  -- The fields are filtered one by one.
  induction headers with
  | nil => rfl
  | cons field rest ih =>
    obtain ⟨key, held⟩ := field
    simp only [erase, List.filter_cons] at ih ⊢
    -- Only a field with the removed name goes, which is not the one that is looked up.
    split
    · rw [get?_cons, get?_cons, ih]
    · rename_i gone
      have same : key = name := by simpa using gone
      rw [get?_cons, ih, same, if_neg differ]

/-- Removing several fields changes no other. -/
theorem get?_foldl_erase (names : List String) (headers : Headers) (kept : other ∉ names) :
    (names.foldl erase headers).get? other = headers.get? other := by
  -- One name after the other.
  induction names generalizing headers with
  | nil => rfl
  | cons name rest ih =>
    simp only [List.mem_cons, not_or] at kept
    rw [List.foldl_cons, ih _ kept.2, get?_erase_of_ne headers kept.1]

/-- A field that is removed is missing. -/
theorem get?_erase_self (headers : Headers) (name : String) : (headers.erase name).get? name = none := by
  -- Every field that the filter keeps has another name.
  induction headers with
  | nil => rfl
  | cons field rest ih =>
    obtain ⟨key, held⟩ := field
    simp only [erase, List.filter_cons] at ih ⊢
    split
    · rename_i kept
      have differ : key ≠ name := by simpa using kept
      rw [get?_cons, if_neg differ.symm, ih]
    · exact ih

/-- A missing field is still missing when others are removed. -/
theorem get?_foldl_erase_eq_none (names : List String) (missing : headers.get? other = none) :
    (names.foldl erase headers).get? other = none := by
  -- One name after the other, the missing one possibly among them.
  induction names generalizing headers with
  | nil => exact missing
  | cons name rest ih =>
    refine ih ?_
    by_cases same : other = name
    · rw [same, get?_erase_self]
    · rw [get?_erase_of_ne headers same, missing]

/-- Header fields sorted by name, without repetitions. -/
def Ordered (headers : Headers) : Prop := headers.Pairwise fun first second => first.1 < second.1

/-- Setting a field adds no other name than its own. -/
theorem name_mem_insert {field : String × String} (member : field ∈ headers.insert name value) :
    field.1 = name ∨ field ∈ headers := by
  -- The new field is put in front of the first one, in place of it, or behind it.
  induction headers with
  | nil =>
    simp only [Headers.insert, List.mem_singleton] at member
    exact .inl (congrArg Prod.fst member)
  | cons first rest ih =>
    obtain ⟨key, held⟩ := first
    simp only [Headers.insert] at member
    split at member
    · rcases List.mem_cons.mp member with rfl | old
      · exact .inl rfl
      · exact .inr old
    · split at member
      · rcases List.mem_cons.mp member with rfl | old
        · exact .inl rfl
        · exact .inr (List.mem_cons_of_mem _ old)
      · rcases List.mem_cons.mp member with rfl | old
        · exact .inr List.mem_cons_self
        · exact (ih old).imp id (List.mem_cons_of_mem _)

namespace Ordered

theorem singleton (name value : String) : Ordered [(name, value)] := List.pairwise_singleton _ _

/-- Setting a field keeps the order. -/
theorem insert (ordered : headers.Ordered) (name value : String) : (headers.insert name value).Ordered := by
  -- Induction on the fields, where every new name is compared with the first one.
  unfold Ordered at ordered ⊢
  induction headers with
  | nil => exact List.pairwise_singleton _ _
  | cons field rest ih =>
    obtain ⟨key, held⟩ := field
    obtain ⟨first, later⟩ := List.pairwise_cons.mp ordered
    simp only [Headers.insert]
    split
    · -- The new name is smaller than the first one, and so than all others.
      rename_i before
      refine List.pairwise_cons.mpr ⟨fun other member => ?_, ordered⟩
      rcases List.mem_cons.mp member with rfl | old
      · exact before
      · exact String.lt_trans before (first other old)
    · split
      · -- The new field has the name of the one it replaces.
        rename_i same
        subst same
        exact List.pairwise_cons.mpr ⟨first, later⟩
      · -- The new name is greater than the first one.
        rename_i notBefore differ
        refine List.pairwise_cons.mpr ⟨fun other member => ?_, ih later⟩
        rcases name_mem_insert member with new | old
        · rw [new]
          apply String.not_le.mp
          intro notBehind
          exact differ (String.le_antisymm notBehind (String.not_lt.mp notBefore))
        · exact first other old

/-- Setting a default keeps the order. -/
theorem withDefault (ordered : headers.Ordered) (name value : String) :
    (headers.withDefault name value).Ordered := by
  unfold Headers.withDefault
  split
  · exact ordered
  · exact ordered.insert name value

/-- Removing a field keeps the order. -/
theorem erase (ordered : headers.Ordered) (name : String) : (headers.erase name).Ordered :=
  ordered.sublist List.filter_sublist

/-- Removing several fields keeps the order. -/
theorem foldl_erase (names : List String) (ordered : headers.Ordered) :
    (names.foldl Headers.erase headers).Ordered := by
  -- One name after the other.
  induction names generalizing headers with
  | nil => exact ordered
  | cons name rest ih => exact ih (ordered.erase name)

/-- Setting several fields keeps the order. -/
theorem extend (ordered : headers.Ordered) (others : Headers) : (headers.extend others).Ordered := by
  -- One field after the other.
  unfold Headers.extend
  induction others generalizing headers with
  | nil => exact ordered
  | cons field rest ih => exact ih (ordered.insert _ _)

/-- No name is repeated. -/
theorem nodup (ordered : headers.Ordered) : (headers.map Prod.fst).Nodup := by
  -- Names in strict order differ.
  apply List.pairwise_map.mpr
  apply List.Pairwise.imp _ ordered
  intro first second before same
  rw [same] at before
  exact String.lt_irrefl _ before

end Ordered

/-- Setting several fields gives them their new values and keeps all other values. -/
theorem get?_extend (ordered : others.Ordered) (headers : Headers) (name : String) :
    (headers.extend others).get? name = (others.get? name).or (headers.get? name) := by
  -- One field after the other. The last one with a name would count, but there is only one.
  unfold extend
  induction others generalizing headers with
  | nil => rfl
  | cons field rest ih =>
    obtain ⟨key, held⟩ := field
    obtain ⟨first, later⟩ := List.pairwise_cons.mp ordered
    rw [List.foldl_cons, ih later, get?_insert, get?_cons]
    by_cases same : name = key
    · -- The first name is not among the names behind it.
      subst same
      have absent : get? rest name = none := by
        rw [get?, List.lookup_eq_none_iff]
        intro field member
        have before := first field member
        apply bne_iff_ne.mpr
        rintro rfl
        exact String.lt_irrefl _ before
      simp [absent]
    · simp [same]

theorem extend_append (headers first second : Headers) :
    headers.extend (first ++ second) = (headers.extend first).extend second :=
  List.foldl_append

/-- Setting several fields changes no field with another name. -/
theorem get?_extend_of_forall_ne (headers : Headers) (absent : ∀ field ∈ others, name ≠ field.1) :
    (headers.extend others).get? name = headers.get? name := by
  -- One field after the other.
  unfold extend
  induction others generalizing headers with
  | nil => rfl
  | cons field rest ih =>
    obtain ⟨here, later⟩ := List.forall_mem_cons.mp absent
    rw [List.foldl_cons, ih _ later, get?_insert, if_neg here]

/-- Removing a name that is smaller than all others changes nothing. -/
theorem erase_eq_self (absent : ∀ field ∈ headers, name < field.1) : headers.erase name = headers := by
  -- The filter keeps every field.
  refine List.filter_eq_self.mpr fun field member => ?_
  have behind := absent field member
  rw [decide_eq_true_eq]
  rintro rfl
  exact String.lt_irrefl _ behind

/-- Erasing an inserted header leaves the others. -/
theorem erase_insert (headers : Headers) (name value : String) :
    (headers.insert name value).erase name = headers.erase name := by
  induction headers with
  | nil => simp [insert, erase]
  | cons field rest ih =>
    obtain ⟨other, held⟩ := field
    simp only [insert]
    -- The header is inserted before the first one, replaces it, or comes after it.
    split
    · simp [erase]
    · split
      · rename_i same
        simp [erase, same]
      · simp only [erase, List.filter_cons] at ih ⊢
        rw [ih]

/-- So does erasing a default. -/
theorem erase_withDefault (headers : Headers) (name value : String) :
    (headers.withDefault name value).erase name = headers.erase name := by
  -- The default is inserted or not needed.
  unfold withDefault
  split
  · rfl
  · exact erase_insert headers name value

/-- Erasing two headers commutes. -/
theorem erase_comm (headers : Headers) (name other : String) :
    (headers.erase name).erase other = (headers.erase other).erase name := by
  -- Both sides filter by both names.
  simp only [erase, List.filter_filter, Bool.and_comm]

/-- Erasing a header keeps a first one of another name. -/
theorem erase_cons_of_ne (rest : Headers) {name other held : String} (stays : other ≠ name) :
    erase ((other, held) :: rest) name = (other, held) :: rest.erase name := by
  simp [erase, stays]

/-- Erasing a header and inserting a later one commute. -/
theorem erase_insert_of_lt (headers : Headers) (value : String) {name other : String} (before : other < name) :
    (headers.insert name value).erase other = (headers.erase other).insert name value := by
  have differ : name ≠ other := by
    rintro rfl
    exact String.lt_irrefl _ before
  induction headers with
  | nil => simp [insert, erase, differ]
  | cons field rest ih =>
    obtain ⟨next, held⟩ := field
    by_cases same : next = other
    · -- The erased header is passed on the way to the place of the inserted one.
      subst same
      have later : ¬ name < next := String.lt_asymm before
      simp only [insert, later, if_false, differ]
      simpa [erase] using ih
    · rw [erase_cons_of_ne _ same]
      simp only [insert]
      -- The header is inserted before the first one, replaces it, or comes after it.
      split
      · rw [erase_cons_of_ne _ differ, erase_cons_of_ne _ same]
      · split
        · rw [erase_cons_of_ne _ differ]
        · rw [erase_cons_of_ne _ same, ih]

/-- Setting a field adds it and removes the old one of its name. -/
theorem Ordered.insert_perm (ordered : headers.Ordered) (name value : String) :
    (headers.insert name value).Perm ((name, value) :: headers.erase name) := by
  -- Induction along `insert`, up to the place where the new field goes.
  unfold Ordered at ordered
  induction headers with
  | nil => exact .refl _
  | cons field rest ih =>
    obtain ⟨key, held⟩ := field
    obtain ⟨first, later⟩ := List.pairwise_cons.mp ordered
    simp only [Headers.insert]
    split
    · -- The new name is smaller than all others, so that none of them is removed.
      rename_i before
      rw [erase_eq_self fun field member => ?_]
      rcases List.mem_cons.mp member with rfl | behind
      · exact before
      · exact String.lt_trans before (first field behind)
    · split
      · -- Only the first field is removed.
        rename_i same
        subst same
        have gone : Headers.erase ((name, held) :: rest) name = rest := by
          simpa [Headers.erase] using erase_eq_self first
        rw [gone]
      · rename_i differ
        have kept : Headers.erase ((key, held) :: rest) name = (key, held) :: Headers.erase rest name := by
          simp [Headers.erase, Ne.symm differ]
        rw [kept]
        exact ((ih later).cons _).trans (.swap _ _ _)

/-- Setting fields with different names adds them and removes the old ones of these names. -/
theorem Ordered.extend_perm (ordered : headers.Ordered) (once : (others.map Prod.fst).Nodup) :
    (headers.extend others).Perm (others ++ headers.filter fun field => field.1 ∉ others.map Prod.fst) := by
  -- One field after the other, each by `insert_perm`.
  unfold Headers.extend
  induction others generalizing headers with
  | nil => exact .of_eq (List.filter_eq_self.mpr fun _ _ => rfl).symm
  | cons field rest ih =>
    obtain ⟨key, held⟩ := field
    obtain ⟨new, onceBehind⟩ := List.nodup_cons.mp once
    have behind := ih (ordered.insert key held) onceBehind
    -- The first name is not among the later ones, so that its field stays.
    have left := (ordered.insert_perm key held).filter fun field => decide (field.1 ∉ rest.map Prod.fst)
    have moved : (((key, held) :: headers.erase key).filter fun field => decide (field.1 ∉ rest.map Prod.fst)) =
        (key, held) :: headers.filter fun field => decide (field.1 ∉ ((key, held) :: rest).map Prod.fst) := by
      have notBehind : key ∉ rest.map Prod.fst := new
      rw [List.filter_cons_of_pos (by simpa using notBehind), Headers.erase, List.filter_filter]
      congr 1
      refine List.filter_congr fun field _ => ?_
      simp only [List.map_cons, List.mem_cons, not_or, Bool.decide_and, Bool.and_comm]
    rw [moved] at left
    exact behind.trans ((left.append_left rest).trans List.perm_middle)

/-- Sorted header fields are equal if they are permutations of each other. -/
theorem Ordered.eq_of_perm (ordered : headers.Ordered) (also : others.Ordered) (same : headers.Perm others) :
    headers = others := by
  -- The order is strict, hence antisymmetric.
  refine List.Perm.eq_of_pairwise (fun first second _ _ before after => ?_) ordered also same
  exact absurd (String.lt_trans before after) (String.lt_irrefl _)

/-- All values of a field. -/
def values (headers : Headers) (name : String) : List String :=
  (headers.filter (·.1 = name)).map Prod.snd

/-- Sorted header fields have at most one value for a name, the one that is looked up. -/
theorem Ordered.values_eq (ordered : headers.Ordered) (name : String) :
    headers.values name = (headers.get? name).toList := by
  -- Behind the first field with the name, all names are greater.
  unfold Ordered at ordered
  induction headers with
  | nil => rfl
  | cons field rest ih =>
    obtain ⟨key, held⟩ := field
    obtain ⟨first, later⟩ := List.pairwise_cons.mp ordered
    have behind := ih later
    simp only [values, List.filter_cons, get?_cons] at behind ⊢
    by_cases same : key = name
    · -- All other names are greater.
      subst same
      have none : rest.filter (·.1 = key) = [] := by
        rw [List.filter_eq_nil_iff]
        intro field member
        have before := first field member
        intro equal
        rw [of_decide_eq_true equal] at before
        exact String.lt_irrefl _ before
      simp [none]
    · simp [same, Ne.symm same, behind]

end AccessProbe.Headers
