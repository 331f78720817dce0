import ModuleCheck.Proofs.Origins

namespace ModuleCheck

/-!
Registration in two passes.

What a written type stands for is told by the names that are entered, and by nothing else.  The
first pass enters all of them, and entering members in the second one changes none.  So each
declaration enters its members as if all others were complete: its reports and its members do
not depend on which of the others have got theirs.
-/

namespace Stmt

/-- The name of the struct that a statement declares. -/
def structName? : Stmt → Option String
  | struct decl => some decl.name
  | _ => none

/-- The name of the enum that a statement declares. -/
def enumName? : Stmt → Option String
  | enum decl => some decl.name
  | _ => none

/-- A statement other than a declaration of a type. -/
def isOther : Stmt → Bool
  | struct _ | enum _ => false
  | _ => true

/-- Of distinct names each has one declaration. -/
theorem eq_of_name {key : Stmt → Option String} {stmts : List Stmt}
    (distinct : (stmts.filterMap key).Nodup) {name : String} {stmt other : Stmt}
    (member : stmt ∈ stmts) (member' : other ∈ stmts) (named : key stmt = some name)
    (named' : key other = some name) : stmt = other := by
  induction stmts with
  | nil => cases member
  | cons first rest ih =>
    have absent : ∀ {found}, found ∈ rest → key found = some name → key first ≠ some name := by
      intro found within foundNamed firstNamed
      rw [List.filterMap_cons_some firstNamed, List.nodup_cons] at distinct
      exact distinct.1 (List.mem_filterMap.mpr ⟨found, within, foundNamed⟩)
    have others : (rest.filterMap key).Nodup :=
      distinct.sublist ((List.sublist_cons_self first rest).filterMap key)
    rcases List.mem_cons.mp member with rfl | within
    · rcases List.mem_cons.mp member' with rfl | within'
      · rfl
      · exact absurd named (absent within' named')
    · rcases List.mem_cons.mp member' with rfl | within'
      · exact absurd named' (absent within named)
      · exact ih others within within'

/-- The one declaration of a name is the last one. -/
theorem findSome?_reverse_of_mem {α : Type} {key : Stmt → Option String} {find : Stmt → Option α}
    {name : String} {stmts : List Stmt} (distinct : (stmts.filterMap key).Nodup)
    (named : ∀ stmt, (find stmt).isSome = true → key stmt = some name) {stmt : Stmt} {value : α}
    (member : stmt ∈ stmts) (here : find stmt = some value) :
    stmts.reverse.findSome? find = some value := by
  cases found : stmts.reverse.findSome? find with
  | none =>
    rw [List.findSome?_eq_none_iff.mp found stmt (List.mem_reverse.mpr member)] at here
    cases here
  | some value' =>
    rcases List.exists_of_findSome?_eq_some found with ⟨other, member', there⟩
    have same := eq_of_name distinct member (List.mem_reverse.mp member')
      (named _ (by simp [here])) (named _ (by simp [there]))
    rw [← there, ← same, here]

/-- It is so in whichever order the statements stand. -/
theorem findSome?_reverse_perm {α : Type} {key : Stmt → Option String} {find : Stmt → Option α}
    {name : String} {stmts stmts' : List Stmt} (perm : stmts'.Perm stmts)
    (distinct : (stmts.filterMap key).Nodup)
    (named : ∀ stmt, (find stmt).isSome = true → key stmt = some name) :
    stmts'.reverse.findSome? find = stmts.reverse.findSome? find := by
  cases found : stmts.reverse.findSome? find with
  | none =>
    rw [List.findSome?_eq_none_iff] at found ⊢
    intro stmt member
    exact found stmt (List.mem_reverse.mpr (perm.subset (List.mem_reverse.mp member)))
  | some value =>
    rcases List.exists_of_findSome?_eq_some found with ⟨stmt, member, here⟩
    exact findSome?_reverse_of_mem ((perm.filterMap key).nodup_iff.mpr distinct) named
      (perm.symm.subset (List.mem_reverse.mp member)) here

end Stmt

namespace Registry

/-- The registries have the same names. -/
structure SameNames (r r' : Registry) : Prop where
  structs : ∀ name, r'.structs.contains name = r.structs.contains name
  enums : ∀ name, r'.enums.contains name = r.enums.contains name

namespace SameNames

variable {r r' r'' : Registry}

theorem refl (r : Registry) : r.SameNames r := ⟨fun _ => rfl, fun _ => rfl⟩

theorem trans (one : r.SameNames r') (two : r'.SameNames r'') : r.SameNames r'' where
  structs := fun name => (two.structs name).trans (one.structs name)
  enums := fun name => (two.enums name).trans (one.enums name)

/-- Written types stand for the same types, with the same reports. -/
theorem resolve_eq (same : r.SameNames r') : r'.resolve = r.resolve := by
  have named : ∀ name, r'.named? name = r.named? name := by
    intro name
    simp only [named?, same.structs, same.enums]
  funext written
  unfold resolve
  simp only [named]

theorem addField_eq (same : r.SameNames r') (options : Options) :
    addField options r' = addField options r := by
  funext struct known field
  simp only [addField, same.resolve_eq]

theorem addVariant_eq (same : r.SameNames r') : addVariant r' = addVariant r := by
  funext enum known variant
  simp only [addVariant, payload, same.resolve_eq]

theorem addFields_eq (same : r.SameNames r') (options : Options) :
    addFields options r' = addFields options r := by
  funext struct known fields
  induction fields generalizing known with
  | nil => rfl
  | cons field rest ih => simp only [addFields, same.addField_eq, ih]

theorem addVariants_eq (same : r.SameNames r') : addVariants r' = addVariants r := by
  funext enum known variants
  induction variants generalizing known with
  | nil => rfl
  | cons variant rest ih => simp only [addVariants, same.addVariant_eq, ih]

/-- The members of a declaration are reported on alike. -/
theorem diagnostics_enterMembers (same : r.SameNames r') (options : Options) (stmt : Stmt) :
    (enterMembers options r' stmt).diagnostics = (enterMembers options r stmt).diagnostics := by
  cases stmt with
  | struct decl => simp [enterMembers, same.addFields_eq]
  | enum decl => simp [enterMembers, same.addVariants_eq]
  | _ => rfl

end SameNames

/-- The name of the type that a statement declares is entered. -/
structure Knows (r : Registry) (stmt : Stmt) : Prop where
  struct : ∀ name ∈ stmt.structName?, r.structs.contains name = true
  enum : ∀ name ∈ stmt.enumName?, r.enums.contains name = true

variable {r r' : Registry}

theorem Knows.mono {stmt : Stmt} (knows : r.Knows stmt) (same : r.SameNames r') :
    r'.Knows stmt where
  struct := fun name declared => by rw [same.structs, knows.struct name declared]
  enum := fun name declared => by rw [same.enums, knows.enum name declared]

/-! The first pass. -/

theorem structs_enterNames (r : Registry) (stmts : List Stmt) (name : String) :
    (stmts.foldl enterName r).structs.contains name = true ↔
      r.structs.contains name = true ∨ name ∈ stmts.filterMap Stmt.structName? := by
  induction stmts generalizing r with
  | nil => simp
  | cons stmt rest ih =>
    rw [List.foldl_cons, ih]
    cases stmt with
    | struct decl =>
      simp [enterName, Table.contains_insert, Stmt.structName?, or_assoc, or_left_comm]
    | _ => simp [enterName, Stmt.structName?]

theorem enums_enterNames (r : Registry) (stmts : List Stmt) (name : String) :
    (stmts.foldl enterName r).enums.contains name = true ↔
      r.enums.contains name = true ∨ name ∈ stmts.filterMap Stmt.enumName? := by
  induction stmts generalizing r with
  | nil => simp
  | cons stmt rest ih =>
    rw [List.foldl_cons, ih]
    cases stmt with
    | enum decl =>
      simp [enterName, Table.contains_insert, Stmt.enumName?, or_assoc, or_left_comm]
    | _ => simp [enterName, Stmt.enumName?]

theorem knows_enterNames (r : Registry) (stmts : List Stmt) :
    ∀ stmt ∈ stmts, (stmts.foldl enterName r).Knows stmt := by
  intro stmt member
  constructor
  · intro name declared
    exact (structs_enterNames r stmts name).mpr
      (Or.inr (List.mem_filterMap.mpr ⟨stmt, member, declared⟩))
  · intro name declared
    exact (enums_enterNames r stmts name).mpr
      (Or.inr (List.mem_filterMap.mpr ⟨stmt, member, declared⟩))

/-! The second pass. -/

/-- Entering the members of a type that is named already changes no name. -/
theorem sameNames_enterMembers {stmt : Stmt} (knows : r.Knows stmt) (options : Options) :
    r.SameNames (enterMembers options r stmt).value := by
  cases stmt with
  | struct decl =>
    have held := knows.struct decl.name rfl
    refine ⟨fun name => ?_, fun _ => rfl⟩
    by_cases same : name = decl.name <;> simp [enterMembers, Table.contains_insert, same, held]
  | enum decl =>
    have held := knows.enum decl.name rfl
    refine ⟨fun _ => rfl, fun name => ?_⟩
    by_cases same : name = decl.name <;> simp [enterMembers, Table.contains_insert, same, held]
  | _ => exact .refl r

theorem sameNames_enterAllMembers {stmts : List Stmt} (knows : ∀ stmt ∈ stmts, r.Knows stmt)
    (options : Options) : r.SameNames (enterAllMembers options r stmts).value := by
  induction stmts generalizing r with
  | nil => exact .refl r
  | cons stmt rest ih =>
    have first := sameNames_enterMembers (knows stmt List.mem_cons_self) options
    exact first.trans (ih fun other member =>
      (knows other (List.mem_cons_of_mem _ member)).mono first)

/-- Each declaration is reported on as if all others were complete. -/
theorem diagnostics_enterAllMembers {stmts : List Stmt} (knows : ∀ stmt ∈ stmts, r.Knows stmt)
    (options : Options) :
    (enterAllMembers options r stmts).diagnostics =
      stmts.flatMap fun stmt => (enterMembers options r stmt).diagnostics := by
  induction stmts generalizing r with
  | nil => rfl
  | cons stmt rest ih =>
    have first := sameNames_enterMembers (knows stmt List.mem_cons_self) options
    have others := ih fun other member => (knows other (List.mem_cons_of_mem _ member)).mono first
    simp only [first.diagnostics_enterMembers] at others
    rw [enterAllMembers, Reported.diagnostics_bind, others, List.flatMap_cons]

end Registry

/-! The members of declared types. -/

namespace Stmt

/-- The fields of the struct with the given name, if the statement declares it. -/
def fieldsOf? (options : Options) (r : Registry) (name : String) : Stmt → Option Fields
  | struct decl =>
    if name = decl.name then
      some (Registry.addFields options r decl.name Table.empty decl.fields).value
    else none
  | _ => none

/-- The variants of the enum with the given name, if the statement declares it. -/
def variantsOf? (r : Registry) (name : String) : Stmt → Option Variants
  | enum decl =>
    if name = decl.name then
      some (Registry.addVariants r decl.name Table.empty decl.variants).value
    else none
  | _ => none

theorem isSome_fieldsOf? (options : Options) (r : Registry) (name : String) (stmt : Stmt) :
    (stmt.fieldsOf? options r name).isSome = true ↔ stmt.structName? = some name := by
  cases stmt with
  | struct decl => simp [fieldsOf?, structName?, eq_comm (a := name)]
  | _ => simp [fieldsOf?, structName?]

theorem isSome_variantsOf? (r : Registry) (name : String) (stmt : Stmt) :
    (stmt.variantsOf? r name).isSome = true ↔ stmt.enumName? = some name := by
  cases stmt with
  | enum decl => simp [variantsOf?, enumName?, eq_comm (a := name)]
  | _ => simp [variantsOf?, enumName?]

end Stmt

namespace Registry

variable {r r' : Registry}

theorem SameNames.fieldsOf?_eq (same : r.SameNames r') (options : Options) (name : String) :
    Stmt.fieldsOf? options r' name = Stmt.fieldsOf? options r name := by
  funext stmt
  cases stmt with
  | struct decl => simp only [Stmt.fieldsOf?, same.addFields_eq]
  | _ => rfl

theorem SameNames.variantsOf?_eq (same : r.SameNames r') (name : String) :
    Stmt.variantsOf? r' name = Stmt.variantsOf? r name := by
  funext stmt
  cases stmt with
  | enum decl => simp only [Stmt.variantsOf?, same.addVariants_eq]
  | _ => rfl

theorem structs_enterMembers (options : Options) (r : Registry) (stmt : Stmt) (name : String) :
    (enterMembers options r stmt).value.structs.get? name =
      (stmt.fieldsOf? options r name).or (r.structs.get? name) := by
  cases stmt with
  | struct decl =>
    by_cases same : name = decl.name <;>
      simp [enterMembers, Stmt.fieldsOf?, Table.get?_insert, same]
  | _ => rfl

theorem enums_enterMembers (options : Options) (r : Registry) (stmt : Stmt) (name : String) :
    (enterMembers options r stmt).value.enums.get? name =
      (stmt.variantsOf? r name).or (r.enums.get? name) := by
  cases stmt with
  | enum decl =>
    by_cases same : name = decl.name <;>
      simp [enterMembers, Stmt.variantsOf?, Table.get?_insert, same]
  | _ => rfl

/-- Of the declarations of a struct the last one counts. -/
theorem structs_enterAllMembers {stmts : List Stmt} (knows : ∀ stmt ∈ stmts, r.Knows stmt)
    (options : Options) (name : String) :
    (enterAllMembers options r stmts).value.structs.get? name =
      (stmts.reverse.findSome? (Stmt.fieldsOf? options r name)).or (r.structs.get? name) := by
  induction stmts generalizing r with
  | nil => rfl
  | cons stmt rest ih =>
    have first := sameNames_enterMembers (knows stmt List.mem_cons_self) options
    have others := ih fun other member => (knows other (List.mem_cons_of_mem _ member)).mono first
    rw [enterAllMembers, Reported.value_bind, others, first.fieldsOf?_eq, structs_enterMembers,
      List.reverse_cons, List.findSome?_append, List.findSome?_singleton, Option.or_assoc]

/-- Of the declarations of an enum the last one counts. -/
theorem enums_enterAllMembers {stmts : List Stmt} (knows : ∀ stmt ∈ stmts, r.Knows stmt)
    (options : Options) (name : String) :
    (enterAllMembers options r stmts).value.enums.get? name =
      (stmts.reverse.findSome? (Stmt.variantsOf? r name)).or (r.enums.get? name) := by
  induction stmts generalizing r with
  | nil => rfl
  | cons stmt rest ih =>
    have first := sameNames_enterMembers (knows stmt List.mem_cons_self) options
    have others := ih fun other member => (knows other (List.mem_cons_of_mem _ member)).mono first
    rw [enterAllMembers, Reported.value_bind, others, first.variantsOf?_eq, enums_enterMembers,
      List.reverse_cons, List.findSome?_append, List.findSome?_singleton, Option.or_assoc]

/-! The registry of a module. -/

theorem sameNames_register (r : Registry) (options : Options) (stmts : List Stmt) :
    (stmts.foldl enterName r).SameNames (register options r stmts).value :=
  sameNames_enterAllMembers (knows_enterNames r stmts) options

theorem diagnostics_register (r : Registry) (options : Options) (stmts : List Stmt) :
    (register options r stmts).diagnostics =
      stmts.flatMap fun stmt =>
        (enterMembers options (stmts.foldl enterName r) stmt).diagnostics :=
  diagnostics_enterAllMembers (knows_enterNames r stmts) options

private theorem or_eq_left {α : Type} {found known : Option α}
    (covered : known.isSome = true → found.isSome = true) : found.or known = found := by
  cases found with
  | some value => rfl
  | none =>
    cases known with
    | none => rfl
    | some value => cases covered rfl

/-- Each struct has the fields of its last declaration. -/
theorem structs_register (options : Options) (stmts : List Stmt) (name : String) :
    (register options empty stmts).value.structs.get? name =
      stmts.reverse.findSome? (Stmt.fieldsOf? options (stmts.foldl enterName empty) name) := by
  rw [register, structs_enterAllMembers (knows_enterNames empty stmts)]
  apply or_eq_left
  -- A name that was entered has a declaration.
  rw [Table.isSome_get?, structs_enterNames, List.isSome_findSome?, List.any_reverse]
  rintro (held | declared)
  · simp [empty, ← Table.isSome_get?] at held
  · rcases List.mem_filterMap.mp declared with ⟨stmt, member, named⟩
    exact List.any_eq_true.mpr ⟨stmt, member, (stmt.isSome_fieldsOf? options _ name).mpr named⟩

/-- Each enum has the variants of its last declaration. -/
theorem enums_register (options : Options) (stmts : List Stmt) (name : String) :
    (register options empty stmts).value.enums.get? name =
      stmts.reverse.findSome? (Stmt.variantsOf? (stmts.foldl enterName empty) name) := by
  rw [register, enums_enterAllMembers (knows_enterNames empty stmts)]
  apply or_eq_left
  rw [Table.isSome_get?, enums_enterNames, List.isSome_findSome?, List.any_reverse]
  rintro (held | declared)
  · simp [empty, ← Table.isSome_get?] at held
  · rcases List.mem_filterMap.mp declared with ⟨stmt, member, named⟩
    exact List.any_eq_true.mpr ⟨stmt, member, (stmt.isSome_variantsOf? _ name).mpr named⟩

/-! Registration passes over all other statements. -/

theorem enterNames_filter (r : Registry) (stmts : List Stmt) :
    (stmts.filter fun stmt => !stmt.isOther).foldl enterName r = stmts.foldl enterName r := by
  induction stmts generalizing r with
  | nil => rfl
  | cons stmt rest ih => cases stmt <;> exact ih _

theorem enterAllMembers_filter (options : Options) (r : Registry) (stmts : List Stmt) :
    enterAllMembers options r (stmts.filter fun stmt => !stmt.isOther) =
      enterAllMembers options r stmts := by
  induction stmts generalizing r with
  | nil => rfl
  | cons stmt rest ih =>
    cases stmt with
    | struct | enum =>
      rw [List.filter_cons_of_pos rfl, enterAllMembers, enterAllMembers]
      simp only [ih]
    | _ => exact ih r

theorem register_filter (options : Options) (r : Registry) (stmts : List Stmt) :
    register options r (stmts.filter fun stmt => !stmt.isOther) = register options r stmts := by
  rw [register, register, enterNames_filter, enterAllMembers_filter]

end Registry

end ModuleCheck
