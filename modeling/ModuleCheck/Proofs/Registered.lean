import Mathlib.Data.List.Basic
import ModuleCheck.Proofs.Registration

namespace ModuleCheck

/-!
What registration makes of the type declarations of a module.

Registration runs twice over the statements and overwrites what it has entered before.  What is
left in the end, and what is reported on the way, can be read off the declarations: every declared
name and no other, with the members of its last declaration, of which the first of each name
counts.  Members that repeat a name and fields with a reserved name are reported in every
declaration, also in those that a later one overrides.
-/

open Check

/-! Lists in which names may occur more than once. -/

section Repetition

variable {α : Type}

/-- Each element of a list together with those in front of it, behind the given ones. -/
def placedBehind (front : List α) : List α → List (List α × α)
  | [] => []
  | x :: rest => (front, x) :: placedBehind (front ++ [x]) rest

/-- Whether an element has the name of one in front of it. -/
def isRepeat (name : α → String) (placed : List α × α) : Bool :=
  (placed.1.map name).contains (name placed.2)

/-- The elements that are the first ones with their name. -/
def firsts (name : α → String) (xs : List α) : List α :=
  ((placedBehind [] xs).filter fun placed => !isRepeat name placed).map Prod.snd

/-- The elements with the name of one in front of them. -/
def repeats (name : α → String) (xs : List α) : List α :=
  ((placedBehind [] xs).filter (isRepeat name)).map Prod.snd

theorem map_snd_placedBehind (front xs : List α) : (placedBehind front xs).map Prod.snd = xs := by
  induction xs generalizing front with
  | nil => rfl
  | cons x rest ih => rw [placedBehind, List.map_cons, ih]

theorem isRepeat_eq_false_iff (name : α → String) (front xs : List α) :
    (∀ placed ∈ placedBehind front xs, isRepeat name placed = false) ↔
      (xs.map name).Nodup ∧ ∀ x ∈ xs, name x ∉ front.map name := by
  induction xs generalizing front with
  | nil => simp [placedBehind]
  | cons x rest ih =>
    have here : isRepeat name (front, x) = false ↔ name x ∉ front.map name := by
      simp [isRepeat]
    rw [placedBehind, List.forall_mem_cons, ih, here, List.map_cons, List.nodup_cons,
      List.forall_mem_cons, List.map_append]
    simp only [List.mem_append, not_or, List.map_singleton, List.mem_singleton, List.mem_map]
    grind

/-- Nothing is repeated exactly if the names are distinct. -/
theorem repeats_eq_nil_iff (name : α → String) (xs : List α) :
    repeats name xs = [] ↔ (xs.map name).Nodup := by
  have alone := isRepeat_eq_false_iff name [] xs
  rw [repeats, List.map_eq_nil_iff, List.filter_eq_nil_iff]
  simpa using alone

theorem flatMap_ite_eq_map_filter {β γ : Type} (p : β → Bool) (f : β → γ) (xs : List β) :
    (xs.flatMap fun x => if p x then [f x] else []) = (xs.filter p).map f := by
  induction xs with
  | nil => rfl
  | cons x rest ih =>
    rw [List.flatMap_cons, ih]
    cases holds : p x <;> simp [holds]

/-- What is told on each element that repeats a name. -/
theorem flatMap_ite_isRepeat {β : Type} (name : α → String) (f : α → β) (xs : List α) :
    ((placedBehind [] xs).flatMap fun placed =>
      if isRepeat name placed then [f placed.2] else []) = (repeats name xs).map f := by
  rw [flatMap_ite_eq_map_filter, repeats, List.map_map]
  rfl

/-- What is told on an element wherever it stands. -/
theorem flatMap_ite_snd {β : Type} (p : α → Bool) (f : α → β) (xs : List α) :
    ((placedBehind [] xs).flatMap fun placed => if p placed.2 then [f placed.2] else []) =
      (xs.filter p).map f := by
  have elements := map_snd_placedBehind [] xs
  rw [flatMap_ite_eq_map_filter]
  conv => rhs; rw [← elements, List.filter_map, List.map_map]
  rfl

/-- The first chosen one of the images. -/
theorem map_find?_filterMap {β γ : Type} (f : α → Option β) (p : β → Bool) (g : β → γ)
    (xs : List α) :
    ((xs.filterMap f).find? p).map g = xs.findSome? fun x => ((f x).filter p).map g := by
  induction xs with
  | nil => rfl
  | cons x rest ih =>
    cases image : f x with
    | none => rw [List.filterMap_cons_none image, ih, List.findSome?_cons, image]; rfl
    | some y =>
      rw [List.filterMap_cons_some image, List.find?_cons, List.findSome?_cons, image,
        Option.filter_some]
      cases chosen : p y with
      | true => rfl
      | false => exact ih

end Repetition

namespace Diagnostic

/-- The diagnostics of one kind, in order. -/
def ofKind (kind : String) (ds : List Diagnostic) : List Diagnostic :=
  ds.filter fun d => d.issue.kind = kind

theorem ofKind_append (kind : String) (ds ds' : List Diagnostic) :
    ofKind kind (ds ++ ds') = ofKind kind ds ++ ofKind kind ds' := List.filter_append _ _

theorem ofKind_eq_nil_iff {kind : String} {ds : List Diagnostic} :
    ofKind kind ds = [] ↔ ∀ d ∈ ds, d.issue.kind ≠ kind := by
  simp [ofKind, List.filter_eq_nil_iff]

theorem ofKind_flatMap {α : Type} (kind : String) (xs : List α) (f : α → List Diagnostic) :
    ofKind kind (xs.flatMap f) = xs.flatMap fun x => ofKind kind (f x) := List.filter_flatMap ..

end Diagnostic

namespace Table

variable {α β : Type}

/-- The table with a value for a name that is new; a name that is stored keeps its value. -/
def insertNew (t : Table β) (name : String) (value : β) : Table β :=
  if t.contains name then t else t.insert name value

theorem contains_insertNew (t : Table β) (name other : String) (value : β) :
    (t.insertNew name value).contains other = (decide (other = name) || t.contains other) := by
  unfold insertNew
  split
  · rename_i stored
    by_cases same : other = name <;> simp [same, stored]
  · exact contains_insert t name other value

/-- A table that has the names of some elements has those of one more. -/
theorem contains_insertNew_placed {name : α → String} {front : List α} {t : Table β}
    (stored : ∀ other, t.contains other = (front.map name).contains other) (x : α) (value : β)
    (other : String) :
    (t.insertNew (name x) value).contains other = ((front ++ [x]).map name).contains other := by
  rw [contains_insertNew, stored, Bool.eq_iff_iff]
  simp [or_comm]

/-- Of the values for one name the first one is stored.  The names in `front` are stored
already. -/
theorem toList_foldl_insertNew (name : α → String) (value : α → β) (front xs : List α)
    {t : Table β} (stored : ∀ other, t.contains other = (front.map name).contains other) :
    (xs.foldl (fun t x => t.insertNew (name x) (value x)) t).toList =
      t.toList ++ ((placedBehind front xs).filter fun placed => !isRepeat name placed).map
        fun placed => (name placed.2, value placed.2) := by
  induction xs generalizing front t with
  | nil => simp [placedBehind]
  | cons x rest ih =>
    have next := contains_insertNew_placed stored x (value x)
    have repeated : isRepeat name (front, x) = t.contains (name x) := (stored _).symm
    rw [List.foldl_cons, ih (front ++ [x]) next, placedBehind]
    unfold insertNew
    cases held : t.contains (name x) with
    | true => simp [repeated, held]
    | false =>
      rw [if_neg (by simp), toList_insert_of_not_contains t (name x) (value x) held]
      simp [repeated, held]

end Table

/-! The members of one declaration. -/

namespace Registry

variable (options : Options) (r : Registry)

/-- What is reported on a field: that its name is reserved, that its type is not known, and that
its name stands in front of it already. -/
def fieldReports (struct : String) (placed : List FieldDecl × FieldDecl) : List Diagnostic :=
  (if options.isReserved placed.2.name then
      [Diagnostic.error (.reservedField struct placed.2.name) (some placed.2.span)]
    else []) ++
  ((r.resolve placed.2.ascription).diagnostics ++
    if isRepeat FieldDecl.name placed then
      [Diagnostic.error (.duplicateField struct placed.2.name) (some placed.2.span)]
    else [])

/-- What is reported on a variant. -/
def variantReports (enum : String) (placed : List VariantDecl × VariantDecl) : List Diagnostic :=
  (r.payload placed.2).diagnostics ++
    if isRepeat VariantDecl.name placed then
      [Diagnostic.error (.duplicateVariant enum placed.2.name) (some placed.2.span)]
    else []

theorem value_addField (struct : String) (known : Fields) (field : FieldDecl) :
    (addField options r struct known field).value =
      known.insertNew field.name (r.resolve field.ascription).value := by
  unfold addField Table.insertNew Reported.test
  cases known.contains field.name <;> simp

theorem value_addVariant (enum : String) (known : Variants) (variant : VariantDecl) :
    (addVariant r enum known variant).value =
      known.insertNew variant.name (r.payload variant).value := by
  unfold addVariant Table.insertNew Reported.test
  cases known.contains variant.name <;> simp

theorem value_addFields (struct : String) (known : Fields) (fields : List FieldDecl) :
    (addFields options r struct known fields).value =
      fields.foldl
        (fun t field => t.insertNew field.name (r.resolve field.ascription).value) known := by
  induction fields generalizing known with
  | nil => rfl
  | cons field rest ih =>
    rw [addFields, Reported.value_bind, ih, value_addField, List.foldl_cons]

theorem value_addVariants (enum : String) (known : Variants) (variants : List VariantDecl) :
    (addVariants r enum known variants).value =
      variants.foldl (fun t variant => t.insertNew variant.name (r.payload variant).value)
        known := by
  induction variants generalizing known with
  | nil => rfl
  | cons variant rest ih =>
    rw [addVariants, Reported.value_bind, ih, value_addVariant, List.foldl_cons]

theorem diagnostics_addFields (struct : String) {known : Fields} (front fields : List FieldDecl)
    (stored : ∀ name, known.contains name = (front.map FieldDecl.name).contains name) :
    (addFields options r struct known fields).diagnostics =
      (placedBehind front fields).flatMap (fieldReports options r struct) := by
  induction fields generalizing known front with
  | nil => rfl
  | cons field rest ih =>
    have next : ∀ name, (addField options r struct known field).value.contains name =
        ((front ++ [field]).map FieldDecl.name).contains name := by
      rw [value_addField]
      exact Table.contains_insertNew_placed stored field _
    have here : (addField options r struct known field).diagnostics =
        fieldReports options r struct (front, field) := by
      have repeated : isRepeat FieldDecl.name (front, field) = known.contains field.name :=
        (stored _).symm
      unfold addField fieldReports Reported.require Reported.test
      rw [repeated]
      cases options.isReserved field.name <;> cases known.contains field.name <;> simp
    rw [addFields, Reported.diagnostics_bind, ih (front ++ [field]) next, here, placedBehind,
      List.flatMap_cons]

theorem diagnostics_addVariants (enum : String) {known : Variants}
    (front variants : List VariantDecl)
    (stored : ∀ name, known.contains name = (front.map VariantDecl.name).contains name) :
    (addVariants r enum known variants).diagnostics =
      (placedBehind front variants).flatMap (variantReports r enum) := by
  induction variants generalizing known front with
  | nil => rfl
  | cons variant rest ih =>
    have next : ∀ name, (addVariant r enum known variant).value.contains name =
        ((front ++ [variant]).map VariantDecl.name).contains name := by
      rw [value_addVariant]
      exact Table.contains_insertNew_placed stored variant _
    have here : (addVariant r enum known variant).diagnostics =
        variantReports r enum (front, variant) := by
      have repeated : isRepeat VariantDecl.name (front, variant) = known.contains variant.name :=
        (stored _).symm
      unfold addVariant variantReports Reported.test
      rw [repeated]
      cases known.contains variant.name <;> simp
    rw [addVariants, Reported.diagnostics_bind, ih (front ++ [variant]) next, here, placedBehind,
      List.flatMap_cons]

end Registry

/-! The declarations of a module. -/

namespace Stmt

def structDecl? : Stmt → Option StructDecl
  | struct decl => some decl
  | _ => none

def enumDecl? : Stmt → Option EnumDecl
  | enum decl => some decl
  | _ => none

theorem structName?_eq (stmt : Stmt) : stmt.structName? = stmt.structDecl?.map StructDecl.name := by
  cases stmt <;> rfl

theorem enumName?_eq (stmt : Stmt) : stmt.enumName? = stmt.enumDecl?.map EnumDecl.name := by
  cases stmt <;> rfl

end Stmt

namespace Module

/-- The structs that are declared at top level, in order. -/
def structDecls (m : Module) : List StructDecl := m.body.filterMap Stmt.structDecl?

/-- The enums that are declared at top level, in order. -/
def enumDecls (m : Module) : List EnumDecl := m.body.filterMap Stmt.enumDecl?

/-- The last declaration of a struct. -/
def lastStruct? (m : Module) (name : String) : Option StructDecl :=
  m.structDecls.reverse.find? fun decl => decl.name = name

/-- The last declaration of an enum. -/
def lastEnum? (m : Module) (name : String) : Option EnumDecl :=
  m.enumDecls.reverse.find? fun decl => decl.name = name

/-- What a written type stands for in a module, by all names that the module declares: a built-in
type, else a struct, else an enum, else nothing that is known. -/
def typeOf (m : Module) : Option TypeExpr → Ty
  | none => .unknown
  | some (.any _) => .any
  | some (.named name _) =>
    (Registry.builtin? name).getD
      (if name ∈ m.structDecls.map StructDecl.name then .struct name
      else if name ∈ m.enumDecls.map EnumDecl.name then .enum name
      else .unknown)

/-- The fields of a struct declaration: the first one of each name, with its type. -/
def fieldsOf (m : Module) (decl : StructDecl) : List (String × Ty) :=
  (firsts FieldDecl.name decl.fields).map fun field => (field.name, m.typeOf field.ascription)

/-- The variants of an enum declaration: the first one of each name.  It carries a payload exactly
if it has a payload field. -/
def variantsOf (m : Module) (decl : EnumDecl) : List (String × Option Payload) :=
  (firsts VariantDecl.name decl.variants).map fun variant =>
    (variant.name, variant.payloadField.map fun field => ⟨field, m.typeOf variant.payloadType⟩)

end Module

namespace StructDecl

/-- The reports on fields that repeat the name of an earlier one. -/
def duplicates (decl : StructDecl) : List Diagnostic :=
  (repeats FieldDecl.name decl.fields).map fun field =>
    Diagnostic.error (.duplicateField decl.name field.name) (some field.span)

/-- The reports on fields with a reserved name. -/
def reserved (options : Options) (decl : StructDecl) : List Diagnostic :=
  (decl.fields.filter fun field => options.isReserved field.name).map fun field =>
    Diagnostic.error (.reservedField decl.name field.name) (some field.span)

end StructDecl

/-- The reports on variants that repeat the name of an earlier one. -/
def EnumDecl.duplicates (decl : EnumDecl) : List Diagnostic :=
  (repeats VariantDecl.name decl.variants).map fun variant =>
    Diagnostic.error (.duplicateVariant decl.name variant.name) (some variant.span)

/-! The names of all types are entered first. -/

namespace Module

/-- The registry behind the first pass. -/
def named (m : Module) : Registry := m.body.foldl Registry.enterName Registry.empty

theorem structs_named (m : Module) (name : String) :
    m.named.structs.contains name = true ↔ name ∈ m.structDecls.map StructDecl.name := by
  rw [named, Registry.structs_enterNames, structDecls, List.map_filterMap]
  simp [Registry.empty, ← Table.isSome_get?, Stmt.structName?_eq]

theorem enums_named (m : Module) (name : String) :
    m.named.enums.contains name = true ↔ name ∈ m.enumDecls.map EnumDecl.name := by
  rw [named, Registry.enums_enterNames, enumDecls, List.map_filterMap]
  simp [Registry.empty, ← Table.isSome_get?, Stmt.enumName?_eq]

theorem value_resolve_named (m : Module) (written : Option TypeExpr) :
    (m.named.resolve written).value = m.typeOf written := by
  rcases written with _ | ⟨span⟩ | ⟨name, span⟩
  · rfl
  · rfl
  · simp only [Registry.resolve, typeOf, Registry.named?, structs_named, enums_named]
    cases Registry.builtin? name with
    | some ty => rfl
    | none =>
      by_cases struct : name ∈ m.structDecls.map StructDecl.name
      · simp only [struct, if_true, Option.getD_none, Reported.value_pure]
      · by_cases enum : name ∈ m.enumDecls.map EnumDecl.name
        · simp only [struct, enum, if_true, if_false, Option.getD_none, Reported.value_pure]
        · simp only [struct, enum, if_false, Option.getD_none, Reported.value_bind,
            Reported.value_pure]

theorem value_payload_named (m : Module) (variant : VariantDecl) :
    (m.named.payload variant).value =
      variant.payloadField.map fun field => ⟨field, m.typeOf variant.payloadType⟩ := by
  unfold Registry.payload
  cases variant.payloadField with
  | none => rfl
  | some field => simp [value_resolve_named]

/-! Of the declarations of a name the last one counts. -/

theorem toList_addFields_named (m : Module) (options : Options) (decl : StructDecl) :
    (Registry.addFields options m.named decl.name Table.empty decl.fields).value.toList =
      m.fieldsOf decl := by
  rw [Registry.value_addFields, Table.toList_foldl_insertNew FieldDecl.name
    (fun field => (m.named.resolve field.ascription).value) [] decl.fields Table.contains_empty]
  simp [fieldsOf, firsts, value_resolve_named, Function.comp_def]

theorem toList_addVariants_named (m : Module) (decl : EnumDecl) :
    (Registry.addVariants m.named decl.name Table.empty decl.variants).value.toList =
      m.variantsOf decl := by
  rw [Registry.value_addVariants, Table.toList_foldl_insertNew VariantDecl.name
    (fun variant => (m.named.payload variant).value) [] decl.variants Table.contains_empty]
  simp [variantsOf, firsts, value_payload_named, Function.comp_def]

theorem structs_register_eq_last (m : Module) (options : Options) (name : String) :
    ((Registry.empty.register options m.body).value.structs.get? name).map Table.toList =
      (m.lastStruct? name).map m.fieldsOf := by
  rw [Registry.structs_register, List.map_findSome?, lastStruct?, structDecls,
    ← List.filterMap_reverse, map_find?_filterMap]
  congr 1
  funext stmt
  cases stmt with
  | struct decl =>
    rw [Function.comp_apply, Stmt.fieldsOf?, Stmt.structDecl?, Option.filter_some]
    by_cases same : name = decl.name
    · rw [if_pos same, if_pos (decide_eq_true same.symm)]
      exact congrArg some (m.toList_addFields_named options decl)
    · rw [if_neg same, if_neg (by simpa using Ne.symm same)]
      rfl
  | _ => rfl

theorem enums_register_eq_last (m : Module) (options : Options) (name : String) :
    ((Registry.empty.register options m.body).value.enums.get? name).map Table.toList =
      (m.lastEnum? name).map m.variantsOf := by
  rw [Registry.enums_register, List.map_findSome?, lastEnum?, enumDecls,
    ← List.filterMap_reverse, map_find?_filterMap]
  congr 1
  funext stmt
  cases stmt with
  | enum decl =>
    rw [Function.comp_apply, Stmt.variantsOf?, Stmt.enumDecl?, Option.filter_some]
    by_cases same : name = decl.name
    · rw [if_pos same, if_pos (decide_eq_true same.symm)]
      exact congrArg some (m.toList_addVariants_named decl)
    · rw [if_neg same, if_neg (by simpa using Ne.symm same)]
      rfl
  | _ => rfl

end Module

/-! The reports of one kind. -/

namespace Registry

open Diagnostic (ofKind)

variable (options : Options) (r : Registry)

/-- On a written type nothing is reported but that it is not known. -/
theorem ofKind_resolve {kind : String} (other : "UnknownType" ≠ kind) (written : Option TypeExpr) :
    ofKind kind (r.resolve written).diagnostics = [] := by
  rcases written with _ | ⟨span⟩ | ⟨name, span⟩
  · rfl
  · rfl
  · simp only [resolve]
    cases r.named? name with
    | some ty => rfl
    | none => exact List.filter_cons_of_neg (by simp [Diagnostic.error, Issue.kind, other])

theorem ofKind_payload {kind : String} (other : "UnknownType" ≠ kind) (variant : VariantDecl) :
    ofKind kind (r.payload variant).diagnostics = [] := by
  unfold payload
  cases variant.payloadField with
  | none => rfl
  | some field => simpa using r.ofKind_resolve other variant.payloadType

theorem duplicates_fieldReports (struct : String) (placed : List FieldDecl × FieldDecl) :
    ofKind "DuplicateField" (fieldReports options r struct placed) =
      if isRepeat FieldDecl.name placed then
        [Diagnostic.error (.duplicateField struct placed.2.name) (some placed.2.span)]
      else [] := by
  unfold fieldReports
  rw [Diagnostic.ofKind_append, Diagnostic.ofKind_append, r.ofKind_resolve (by decide)]
  cases options.isReserved placed.2.name <;> cases isRepeat FieldDecl.name placed <;> rfl

theorem reserved_fieldReports (struct : String) (placed : List FieldDecl × FieldDecl) :
    ofKind "ReservedField" (fieldReports options r struct placed) =
      if options.isReserved placed.2.name then
        [Diagnostic.error (.reservedField struct placed.2.name) (some placed.2.span)]
      else [] := by
  unfold fieldReports
  rw [Diagnostic.ofKind_append, Diagnostic.ofKind_append, r.ofKind_resolve (by decide)]
  cases options.isReserved placed.2.name <;> cases isRepeat FieldDecl.name placed <;> rfl

theorem duplicates_variantReports (enum : String) (placed : List VariantDecl × VariantDecl) :
    ofKind "DuplicateVariant" (variantReports r enum placed) =
      if isRepeat VariantDecl.name placed then
        [Diagnostic.error (.duplicateVariant enum placed.2.name) (some placed.2.span)]
      else [] := by
  unfold variantReports
  rw [Diagnostic.ofKind_append, r.ofKind_payload (by decide)]
  cases isRepeat VariantDecl.name placed <;> rfl

theorem ofKind_fieldReports {kind : String} (struct : String)
    (placed : List FieldDecl × FieldDecl) (unknown : "UnknownType" ≠ kind)
    (reserved : "ReservedField" ≠ kind) (duplicate : "DuplicateField" ≠ kind) :
    ofKind kind (fieldReports options r struct placed) = [] := by
  unfold fieldReports
  rw [Diagnostic.ofKind_append, Diagnostic.ofKind_append, r.ofKind_resolve unknown]
  cases options.isReserved placed.2.name <;> cases isRepeat FieldDecl.name placed <;>
    simp [ofKind, Diagnostic.error, Issue.kind, reserved, duplicate]

theorem ofKind_variantReports {kind : String} (enum : String)
    (placed : List VariantDecl × VariantDecl) (unknown : "UnknownType" ≠ kind)
    (duplicate : "DuplicateVariant" ≠ kind) :
    ofKind kind (variantReports r enum placed) = [] := by
  unfold variantReports
  rw [Diagnostic.ofKind_append, r.ofKind_payload unknown]
  cases isRepeat VariantDecl.name placed <;>
    simp [ofKind, Diagnostic.error, Issue.kind, duplicate]

/-- The reports of a kind that is told on declarations of structs. -/
theorem ofKind_enterMembers_struct {kind : String} {told : StructDecl → List Diagnostic}
    (here : ∀ decl : StructDecl, ofKind kind
      ((placedBehind [] decl.fields).flatMap (fieldReports options r decl.name)) = told decl)
    (unknown : "UnknownType" ≠ kind) (duplicate : "DuplicateVariant" ≠ kind) (stmt : Stmt) :
    ofKind kind (enterMembers options r stmt).diagnostics =
      stmt.structDecl?.toList.flatMap told := by
  cases stmt with
  | struct decl =>
    simp [enterMembers, Stmt.structDecl?, ← here,
      r.diagnostics_addFields options decl.name [] decl.fields Table.contains_empty]
  | enum decl =>
    simp [enterMembers, Stmt.structDecl?, Diagnostic.ofKind_flatMap,
      r.diagnostics_addVariants decl.name [] decl.variants Table.contains_empty,
      r.ofKind_variantReports decl.name _ unknown duplicate]
  | _ => rfl

/-- The reports of a kind that is told on declarations of enums. -/
theorem ofKind_enterMembers_enum {kind : String} {told : EnumDecl → List Diagnostic}
    (here : ∀ decl : EnumDecl, ofKind kind
      ((placedBehind [] decl.variants).flatMap (variantReports r decl.name)) = told decl)
    (unknown : "UnknownType" ≠ kind) (reserved : "ReservedField" ≠ kind)
    (duplicate : "DuplicateField" ≠ kind) (stmt : Stmt) :
    ofKind kind (enterMembers options r stmt).diagnostics =
      stmt.enumDecl?.toList.flatMap told := by
  cases stmt with
  | struct decl =>
    simp [enterMembers, Stmt.enumDecl?, Diagnostic.ofKind_flatMap,
      r.diagnostics_addFields options decl.name [] decl.fields Table.contains_empty,
      r.ofKind_fieldReports options decl.name _ unknown reserved duplicate]
  | enum decl =>
    simp [enterMembers, Stmt.enumDecl?, ← here,
      r.diagnostics_addVariants decl.name [] decl.variants Table.contains_empty]
  | _ => rfl

/-- What is told on each declaration is told on all of them in turn. -/
theorem ofKind_register {kind : String} {δ : Type} {decl? : Stmt → Option δ}
    {told : δ → List Diagnostic} (stmts : List Stmt)
    (here : ∀ r stmt, ofKind kind (enterMembers options r stmt).diagnostics =
      (decl? stmt).toList.flatMap told) :
    ofKind kind (register options empty stmts).diagnostics =
      (stmts.filterMap decl?).flatMap told := by
  rw [diagnostics_register, Diagnostic.ofKind_flatMap, List.filterMap_eq_flatMap_toList,
    List.flatMap_assoc]
  simp only [here]

theorem duplicateFields_register (stmts : List Stmt) :
    ofKind "DuplicateField" (register options empty stmts).diagnostics =
      (stmts.filterMap Stmt.structDecl?).flatMap StructDecl.duplicates := by
  refine ofKind_register options stmts fun r =>
    r.ofKind_enterMembers_struct options (fun decl => ?_) (by decide) (by decide)
  rw [Diagnostic.ofKind_flatMap]
  simp only [duplicates_fieldReports]
  exact flatMap_ite_isRepeat FieldDecl.name
    (fun field => Diagnostic.error (.duplicateField decl.name field.name) (some field.span))
    decl.fields

theorem duplicateVariants_register (stmts : List Stmt) :
    ofKind "DuplicateVariant" (register options empty stmts).diagnostics =
      (stmts.filterMap Stmt.enumDecl?).flatMap EnumDecl.duplicates := by
  refine ofKind_register options stmts fun r =>
    r.ofKind_enterMembers_enum options (fun decl => ?_) (by decide) (by decide) (by decide)
  rw [Diagnostic.ofKind_flatMap]
  simp only [duplicates_variantReports]
  exact flatMap_ite_isRepeat VariantDecl.name
    (fun variant => Diagnostic.error (.duplicateVariant decl.name variant.name) (some variant.span))
    decl.variants

theorem reservedFields_register (stmts : List Stmt) :
    ofKind "ReservedField" (register options empty stmts).diagnostics =
      (stmts.filterMap Stmt.structDecl?).flatMap (StructDecl.reserved options) := by
  refine ofKind_register options stmts fun r =>
    r.ofKind_enterMembers_struct options (fun decl => ?_) (by decide) (by decide)
  rw [Diagnostic.ofKind_flatMap]
  simp only [reserved_fieldReports]
  exact flatMap_ite_snd (fun field => options.isReserved field.name)
    (fun field => Diagnostic.error (.reservedField decl.name field.name) (some field.span))
    decl.fields

end Registry

namespace Module

open Diagnostic (ofKind)

/-- The registry of a module is what its declarations say.  It has the declared names and no
other.  Each has the members of its last declaration, the first of each name, in order and with
the types that the names of the whole module give them.  Whatever declaration counts, all of them
are reported on: each member that repeats a name, and each field with a reserved one. -/
theorem register_eq_declarations (m : Module) (options : Options) :
    let c := after (register m.body) (Checker.fresh options)
    ((∀ name, name ∈ c.registry.structs.keys ↔ name ∈ m.structDecls.map StructDecl.name) ∧
      ∀ name, name ∈ c.registry.enums.keys ↔ name ∈ m.enumDecls.map EnumDecl.name) ∧
    ((∀ name, (c.registry.structs.get? name).map Table.toList =
        (m.lastStruct? name).map m.fieldsOf) ∧
      ∀ name, (c.registry.enums.get? name).map Table.toList =
        (m.lastEnum? name).map m.variantsOf) ∧
    ofKind "DuplicateField" c.diagnostics = m.structDecls.flatMap StructDecl.duplicates ∧
    ofKind "DuplicateVariant" c.diagnostics = m.enumDecls.flatMap EnumDecl.duplicates ∧
    ofKind "ReservedField" c.diagnostics =
      m.structDecls.flatMap (StructDecl.reserved options) := by
  intro c
  have registry : c.registry = (Registry.empty.register options m.body).value := rfl
  have reports : c.diagnostics = (Registry.empty.register options m.body).diagnostics :=
    List.nil_append _
  have same := Registry.sameNames_register .empty options m.body
  rw [registry, reports]
  refine ⟨⟨fun name => ?_, fun name => ?_⟩, ⟨m.structs_register_eq_last options,
    m.enums_register_eq_last options⟩, Registry.duplicateFields_register options m.body,
    Registry.duplicateVariants_register options m.body,
    Registry.reservedFields_register options m.body⟩
  · rw [← Table.contains_iff, same.structs]
    exact m.structs_named name
  · rw [← Table.contains_iff, same.enums]
    exact m.enums_named name

end Module

end ModuleCheck
