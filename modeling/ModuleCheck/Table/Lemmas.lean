import ModuleCheck.Table

namespace ModuleCheck

namespace Table

/-!
What the operations of a table do to its list of entries and to the values it answers with.
The list is the view through which tables are reasoned about: it determines the table, its
names are distinct, and a look-up finds exactly the values that stand in it.
-/

variable {α : Type}

theorem toList_getElem? (t : Table α) (i : Nat) : t.toList[i]? = t.entries[i]? := by
  simp [toList]

/-- The entries determine the table. -/
theorem ext_toList {t u : Table α} (same : t.toList = u.toList) : t = u := by
  rcases t with ⟨entries, index, index_iff⟩
  rcases u with ⟨entries', index', index_iff'⟩
  have sameEntries : entries = entries' := Array.toList_inj.mp same
  subst sameEntries
  have sameIndex : index = index' := by
    apply Std.ExtTreeMap.ext_getElem?
    intro name
    apply Option.ext
    intro i
    rw [index_iff, index_iff']
  subst sameIndex
  rfl

/-- A stored name has one entry. -/
theorem keys_nodup (t : Table α) : t.keys.Nodup := by
  refine List.pairwise_iff_getElem.mpr ?_
  intro i j insideFirst insideSecond before same
  have first : t.entries[i]?.map Prod.fst = some t.keys[i] := by
    rw [← toList_getElem?, ← List.getElem?_map]
    exact List.getElem?_eq_getElem insideFirst
  have second : t.entries[j]?.map Prod.fst = some t.keys[j] := by
    rw [← toList_getElem?, ← List.getElem?_map]
    exact List.getElem?_eq_getElem insideSecond
  have atFirst := (t.index_iff _ _).mpr first
  have atSecond := (t.index_iff _ _).mpr second
  rw [same, atSecond] at atFirst
  have : j = i := by simpa using atFirst
  omega

theorem get?_eq_some_iff (t : Table α) (name : String) (value : α) :
    t.get? name = some value ↔ (name, value) ∈ t.toList := by
  unfold get?
  constructor
  · intro found
    rcases Option.bind_eq_some_iff.mp found with ⟨i, indexed, held⟩
    have named := (t.index_iff name i).mp indexed
    rcases Option.map_eq_some_iff.mp held with ⟨⟨stored, kept⟩, there, rfl⟩
    rw [there] at named
    have same : stored = name := by simpa using named
    subst same
    rw [← toList_getElem?] at there
    exact List.mem_of_getElem? there
  · intro member
    rcases List.mem_iff_getElem?.mp member with ⟨i, there⟩
    rw [toList_getElem?] at there
    have indexed := (t.index_iff name i).mpr (by simp [there])
    simp [indexed, there]

theorem contains_iff (t : Table α) (name : String) :
    t.contains name = true ↔ name ∈ t.keys := by
  unfold contains
  rw [Std.ExtTreeMap.contains_eq_isSome_getElem?, Option.isSome_iff_exists]
  constructor
  · rintro ⟨i, indexed⟩
    rcases Option.map_eq_some_iff.mp ((t.index_iff name i).mp indexed) with ⟨entry, there, rfl⟩
    rw [← toList_getElem?] at there
    exact List.mem_map.mpr ⟨entry, List.mem_of_getElem? there, rfl⟩
  · intro member
    rcases List.mem_map.mp member with ⟨entry, held, rfl⟩
    rcases List.mem_iff_getElem?.mp held with ⟨i, there⟩
    rw [toList_getElem?] at there
    exact ⟨i, (t.index_iff _ i).mpr (by simp [there])⟩

/-- The index leads from a name to the place of its entry. -/
theorem index_eq_some_iff (t : Table α) (name : String) (i : Nat) :
    t.index[name]? = some i ↔ ∃ value, t.toList[i]? = some (name, value) := by
  rw [t.index_iff, ← toList_getElem?, Option.map_eq_some_iff]
  constructor
  · rintro ⟨⟨_, value⟩, there, rfl⟩
    exact ⟨value, there⟩
  · rintro ⟨value, there⟩
    exact ⟨_, there, rfl⟩

theorem mem_index (t : Table α) (name : String) : name ∈ t.index ↔ name ∈ t.keys := by
  rw [← contains_iff, contains, Std.ExtTreeMap.contains_iff_mem]

/-- The entry that stands under a name is the first one, since it is the only one. -/
theorem get?_eq_lookup (t : Table α) (name : String) : t.get? name = t.toList.lookup name := by
  apply Option.ext
  intro value
  rw [get?_eq_some_iff, List.lookup_eq_some_iff]
  constructor
  · intro member
    rcases List.append_of_mem member with ⟨before, behind, parts⟩
    refine ⟨before, behind, parts, fun entry earlier => bne_iff_ne.mpr fun same => ?_⟩
    have distinct := t.keys_nodup
    rw [keys, parts, List.map_append, List.map_cons, List.nodup_append] at distinct
    exact distinct.2.2 entry.1 (List.mem_map_of_mem earlier) name (by simp) same.symm
  · rintro ⟨before, behind, parts, -⟩
    simp [parts]

@[simp]
theorem toList_empty : (empty : Table α).toList = [] := rfl

@[simp]
theorem get?_empty (name : String) : (empty : Table α).get? name = none := by
  simp [get?, empty]

/-- A name has a value exactly if it is stored. -/
theorem isSome_get? (t : Table α) (name : String) : (t.get? name).isSome = t.contains name := by
  rw [Bool.eq_iff_iff, contains_iff, Option.isSome_iff_exists]
  constructor
  · rintro ⟨value, found⟩
    exact List.mem_map.mpr ⟨_, (t.get?_eq_some_iff name value).mp found, rfl⟩
  · intro member
    rcases List.mem_map.mp member with ⟨⟨_, value⟩, held, rfl⟩
    exact ⟨value, (t.get?_eq_some_iff _ value).mpr held⟩

theorem contains_empty (name : String) : (empty : Table α).contains name = false := by
  rw [← isSome_get?, get?_empty]
  rfl

theorem toList_insert_of_contains (t : Table α) (name : String) (value : α)
    (stored : t.contains name = true) :
    (t.insert name value).toList =
      t.toList.map fun entry => if entry.1 = name then (name, value) else entry := by
  unfold insert
  split
  case h_1 i indexed =>
    apply List.ext_getElem?
    intro j
    simp only [toList, List.getElem?_map, Array.getElem?_toList,
      Array.getElem?_setIfInBounds]
    by_cases same : i = j
    · subst same
      have named := (t.index_iff name i).mp indexed
      rcases Option.map_eq_some_iff.mp named with ⟨entry, there, rfl⟩
      rcases Array.getElem?_eq_some_iff.mp there with ⟨inside, held⟩
      simp [inside, held]
    · cases there : t.entries[j]? with
      | none => simp [same]
      | some entry =>
        have differs : entry.1 ≠ name := by
          intro named
          have again := (t.index_iff name j).mpr (by simp [there, named])
          rw [indexed] at again
          exact same (by simpa using again)
        simp [same, differs]
  case h_2 missing =>
    rw [contains, Std.ExtTreeMap.contains_eq_isSome_getElem?, missing] at stored
    simp at stored

theorem toList_insert_of_not_contains (t : Table α) (name : String) (value : α)
    (fresh : t.contains name = false) :
    (t.insert name value).toList = t.toList ++ [(name, value)] := by
  unfold insert
  split
  case h_1 i indexed =>
    rw [contains, Std.ExtTreeMap.contains_eq_isSome_getElem?, indexed] at fresh
    simp at fresh
  case h_2 => simp [toList]

theorem toList_modify (t : Table α) (name : String) (f : α → α) :
    (t.modify name f).toList =
      t.toList.map fun entry => if entry.1 = name then (entry.1, f entry.2) else entry := by
  unfold modify
  split
  case h_1 i indexed =>
    apply List.ext_getElem?
    intro j
    simp only [toList, List.getElem?_map, Array.getElem?_toList, Array.getElem?_modify]
    cases there : t.entries[j]? with
    | none => simp
    | some entry =>
      have named : entry.1 = name ↔ i = j := by
        constructor
        · intro named
          have again := (t.index_iff name j).mpr (by simp [there, named])
          rw [indexed] at again
          simpa using again
        · rintro rfl
          have named := (t.index_iff name i).mp indexed
          simpa [there] using named
      by_cases same : i = j <;> simp [named, same]
  case h_2 missing =>
    have unchanged : ∀ entry ∈ t.toList,
        (if entry.1 = name then (entry.1, f entry.2) else entry) = id entry := by
      intro entry member
      have differs : entry.1 ≠ name := by
        rintro rfl
        have stored := (t.contains_iff entry.1).mpr (List.mem_map.mpr ⟨entry, member, rfl⟩)
        rw [contains, Std.ExtTreeMap.contains_eq_isSome_getElem?, missing] at stored
        simp at stored
      simp [differs]
    rw [List.map_congr_left unchanged, List.map_id]

theorem toList_map {β : Type} (f : α → β) (t : Table α) :
    (t.map f).toList = t.toList.map fun entry => (entry.1, f entry.2) := by
  simp [map, toList]

@[simp]
theorem keys_modify (t : Table α) (name : String) (f : α → α) :
    (t.modify name f).keys = t.keys := by
  simp only [keys, toList_modify, List.map_map]
  apply List.map_congr_left
  intro entry _
  by_cases named : entry.1 = name <;> simp [named]

@[simp]
theorem contains_modify (t : Table α) (name other : String) (f : α → α) :
    (t.modify name f).contains other = t.contains other := by
  rw [Bool.eq_iff_iff, contains_iff, contains_iff, keys_modify]

theorem keys_insert_of_contains (t : Table α) (name : String) (value : α)
    (stored : t.contains name = true) : (t.insert name value).keys = t.keys := by
  simp only [keys, toList_insert_of_contains t name value stored, List.map_map]
  apply List.map_congr_left
  intro entry _
  by_cases named : entry.1 = name <;> simp [named]

theorem keys_insert_of_not_contains (t : Table α) (name : String) (value : α)
    (fresh : t.contains name = false) : (t.insert name value).keys = t.keys ++ [name] := by
  simp [keys, toList_insert_of_not_contains t name value fresh]

theorem get?_insert (t : Table α) (name other : String) (value : α) :
    (t.insert name value).get? other = if other = name then some value else t.get? other := by
  apply Option.ext
  intro held
  rw [get?_eq_some_iff]
  by_cases stored : t.contains name = true
  · rw [toList_insert_of_contains t name value stored]
    by_cases same : other = name
    · subst same
      rcases List.mem_map.mp ((t.contains_iff _).mp stored) with ⟨entry, member, named⟩
      constructor
      · intro member'
        rcases List.mem_map.mp member' with ⟨kept, _, image⟩
        by_cases keptNamed : kept.1 = other
        · simp_all
        · simp [keptNamed] at image
          exact absurd (by rw [image]) keptNamed
      · intro equal
        have : value = held := by simpa using equal
        subst this
        exact List.mem_map.mpr ⟨entry, member, by simp [named]⟩
    · simp only [same, if_false, get?_eq_some_iff, List.mem_map]
      constructor
      · rintro ⟨entry, member, image⟩
        by_cases named : entry.1 = name
        · simp [named] at image
          exact absurd image.1.symm same
        · simp [named] at image
          exact image ▸ member
      · intro member
        exact ⟨_, member, by simp [same]⟩
  · rw [toList_insert_of_not_contains t name value (by simpa using stored)]
    by_cases same : other = name
    · subst same
      have absent : ∀ entry, (other, entry) ∉ t.toList := by
        intro entry member
        exact stored ((t.contains_iff _).mpr (List.mem_map.mpr ⟨_, member, rfl⟩))
      simp [absent, eq_comm]
    · simp [same, get?_eq_some_iff]

theorem contains_insert (t : Table α) (name other : String) (value : α) :
    (t.insert name value).contains other = (decide (other = name) || t.contains other) := by
  rw [← isSome_get?, ← isSome_get?, get?_insert]
  by_cases same : other = name <;> simp [same]

theorem get?_modify (t : Table α) (name other : String) (f : α → α) :
    (t.modify name f).get? other =
      if other = name then (t.get? other).map f else t.get? other := by
  apply Option.ext
  intro held
  rw [get?_eq_some_iff, toList_modify, List.mem_map]
  by_cases same : other = name
  · subst same
    simp only [if_true, Option.map_eq_some_iff, get?_eq_some_iff]
    constructor
    · rintro ⟨⟨stored, value⟩, member, image⟩
      by_cases named : stored = other
      · subst named
        exact ⟨value, member, by simpa using image⟩
      · simp [named] at image
    · rintro ⟨value, member, rfl⟩
      exact ⟨_, member, by simp⟩
  · simp only [same, if_false, get?_eq_some_iff]
    constructor
    · rintro ⟨⟨stored, value⟩, member, image⟩
      by_cases named : stored = name
      · simp [named] at image
        exact absurd image.1.symm same
      · simp [named] at image
        rcases image with ⟨rfl, rfl⟩
        exact member
    · intro member
      exact ⟨_, member, by simp [same]⟩

/-- Storing what is stored already changes nothing. -/
theorem insert_eq_self {t : Table α} {name : String} {value : α}
    (stored : t.get? name = some value) : t.insert name value = t := by
  have held : t.contains name = true := by rw [← isSome_get?, stored]; rfl
  apply ext_toList
  rw [toList_insert_of_contains t name value held]
  refine (List.map_congr_left fun entry member => ?_).trans (List.map_id _)
  split
  · rename_i named
    subst named
    rw [(t.get?_eq_some_iff _ entry.2).mpr member] at stored
    rw [← Option.some.inj stored]
    rfl
  · rfl

/-- A change that fixes the stored value changes nothing. -/
theorem modify_eq_self {t : Table α} {name : String} {f : α → α}
    (fixed : ∀ value, t.get? name = some value → f value = value) : t.modify name f = t := by
  apply ext_toList
  rw [toList_modify]
  refine (List.map_congr_left fun entry member => ?_).trans (List.map_id _)
  split
  · rename_i named
    subst named
    rw [fixed entry.2 ((t.get?_eq_some_iff _ entry.2).mpr member)]
    rfl
  · rfl

end Table

end ModuleCheck
