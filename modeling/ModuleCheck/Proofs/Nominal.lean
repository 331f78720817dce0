import ModuleCheck.Proofs.Runs

namespace ModuleCheck

/-!
Nominal types.

A type is known to a registry if every struct and enum that occurs in it is declared there, at
any depth of function types.  All types that written types stand for are known, and so are the
types of the fields and payloads of a module's registry, which are looked up after all names
are entered.
-/

/-- Every struct and enum in the type is declared. -/
inductive Ty.Known (r : Registry) : Ty → Prop
  | int : Known r .int
  | bool : Known r .bool
  | string : Known r .string
  | unit : Known r .unit
  | any : Known r .any
  | unknown : Known r .unknown
  | struct {name : String} (declared : r.structs.contains name = true) : Known r (.struct name)
  | enum {name : String} (declared : r.enums.contains name = true) : Known r (.enum name)
  | fn {params : List Ty} {result : Ty} (params_known : ∀ param ∈ params, Known r param)
      (result_known : Known r result) : Known r (.fn params result)

namespace Registry

/-- Every type of a field or payload is known. -/
structure Closed (r : Registry) : Prop where
  field : ∀ struct fields name ty, r.structs.get? struct = some fields →
    fields.get? name = some ty → ty.Known r
  payload : ∀ enum variants name payload, r.enums.get? enum = some variants →
    variants.get? name = some (some payload) → payload.type.Known r

/-- The other registry declares at least the same names. -/
structure Names (r r' : Registry) : Prop where
  structs : ∀ name, r.structs.contains name = true → r'.structs.contains name = true
  enums : ∀ name, r.enums.contains name = true → r'.enums.contains name = true

end Registry

namespace Ty

theorem Known.mono {r r' : Registry} (names : r.Names r') {ty : Ty} (known : ty.Known r) :
    ty.Known r' := by
  induction known with
  | int => exact .int
  | bool => exact .bool
  | string => exact .string
  | unit => exact .unit
  | any => exact .any
  | unknown => exact .unknown
  | struct declared => exact .struct (names.structs _ declared)
  | enum declared => exact .enum (names.enums _ declared)
  | fn _ _ params_ih result_ih => exact .fn params_ih result_ih

end Ty

namespace Registry

variable {r : Registry}

theorem builtin?_cases {name : String} {ty : Ty} (found : builtin? name = some ty) :
    ty = .int ∨ ty = .bool ∨ ty = .string ∨ ty = .unit := by
  unfold builtin? at found
  repeat' split at found
  all_goals cases found
  all_goals simp

/-- What a name may stand for. -/
theorem named?_cases {name : String} {ty : Ty} (found : r.named? name = some ty) :
    builtin? name = some ty ∨
      (ty = .struct name ∧ r.structs.contains name = true) ∨
      (ty = .enum name ∧ r.enums.contains name = true) := by
  unfold named? at found
  split at found
  · rename_i builtin
    exact Or.inl (builtin.trans found)
  · split at found
    · rename_i declared
      cases found
      exact Or.inr (Or.inl ⟨rfl, declared⟩)
    · split at found
      · rename_i declared
        cases found
        exact Or.inr (Or.inr ⟨rfl, declared⟩)
      · cases found

theorem named?_known {name : String} {ty : Ty} (found : r.named? name = some ty) :
    ty.Known r := by
  rcases named?_cases found with builtin | ⟨rfl, declared⟩ | ⟨rfl, declared⟩
  · rcases builtin?_cases builtin with rfl | rfl | rfl | rfl
    all_goals constructor
  · exact .struct declared
  · exact .enum declared

/-- A name stands for a definite type. -/
theorem named?_concrete {name : String} {ty : Ty} (found : r.named? name = some ty) :
    ty.isAbsorbing = false := by
  rcases named?_cases found with builtin | ⟨rfl, _⟩ | ⟨rfl, _⟩
  · rcases builtin?_cases builtin with rfl | rfl | rfl | rfl
    all_goals rfl
  · rfl
  · rfl

theorem resolve_known (r : Registry) (written : Option TypeExpr) :
    (r.resolve written).value.Known r := by
  unfold resolve
  split
  · exact .unknown
  · exact .any
  · split
    · rename_i found
      exact named?_known found
    · exact .unknown

theorem Closed.variant? (closed : r.Closed) {enum variant : String} {payload : Payload}
    (found : r.variant? enum variant = some (some payload)) : payload.type.Known r := by
  rcases Option.bind_eq_some_iff.mp found with ⟨variants, declared, carried⟩
  exact closed.payload _ _ _ _ declared carried

/-! The registry of a module. -/

theorem addFields_known (options : Options) (r : Registry) (struct : String)
    (decls : List FieldDecl) (known : Fields)
    (before : ∀ name ty, known.get? name = some ty → ty.Known r) (name : String) (ty : Ty)
    (found : (addFields options r struct known decls).value.get? name = some ty) :
    ty.Known r := by
  induction decls generalizing known with
  | nil => exact before name ty found
  | cons decl rest ih =>
    refine ih _ ?_ found
    intro other otherTy stored
    simp only [addField, Reported.value_bind, Reported.value_pure] at stored
    split at stored
    · rw [Table.get?_insert] at stored
      split at stored
      · cases stored
        exact resolve_known r _
      · exact before _ _ stored
    · exact before _ _ stored

theorem payload_known (r : Registry) (decl : VariantDecl) (payload : Payload)
    (found : (r.payload decl).value = some payload) : payload.type.Known r := by
  unfold Registry.payload at found
  split at found
  · cases found
  · cases found
    exact resolve_known r _

theorem addVariants_known (r : Registry) (enum : String) (decls : List VariantDecl)
    (known : Variants)
    (before : ∀ name payload, known.get? name = some (some payload) → payload.type.Known r)
    (name : String) (payload : Payload)
    (found : (addVariants r enum known decls).value.get? name = some (some payload)) :
    payload.type.Known r := by
  induction decls generalizing known with
  | nil => exact before name payload found
  | cons decl rest ih =>
    refine ih _ ?_ found
    intro other otherPayload stored
    simp only [addVariant, Reported.value_bind, Reported.value_pure] at stored
    split at stored
    · rw [Table.get?_insert] at stored
      split at stored
      · exact payload_known r decl _ (Option.some.inj stored)
      · exact before _ _ stored
    · exact before _ _ stored

theorem Names.insertStruct (r : Registry) (name : String) (fields : Fields) :
    r.Names { r with structs := r.structs.insert name fields } where
  structs := fun other held => by
    rw [← Table.isSome_get?, Table.get?_insert]
    split
    · rfl
    · rw [Table.isSome_get?, held]
  enums := fun _ held => held

theorem Names.insertEnum (r : Registry) (name : String) (variants : Variants) :
    r.Names { r with enums := r.enums.insert name variants } where
  structs := fun _ held => held
  enums := fun other held => by
    rw [← Table.isSome_get?, Table.get?_insert]
    split
    · rfl
    · rw [Table.isSome_get?, held]

/-- Fields of known types may be entered. -/
theorem Closed.insertStruct (closed : r.Closed) (struct : String) (fields : Fields)
    (known : ∀ name ty, fields.get? name = some ty → ty.Known r) :
    Closed { r with structs := r.structs.insert struct fields } where
  field := fun other otherFields name ty found stored => by
    apply Ty.Known.mono (Names.insertStruct r struct fields)
    rw [Table.get?_insert] at found
    split at found
    · cases found
      exact known _ _ stored
    · exact closed.field _ _ _ _ found stored
  payload := fun enum variants name payload found stored =>
    (closed.payload enum variants name payload found stored).mono (Names.insertStruct r _ _)

/-- Variants with payloads of known types may be entered. -/
theorem Closed.insertEnum (closed : r.Closed) (enum : String) (variants : Variants)
    (known : ∀ name payload, variants.get? name = some (some payload) → payload.type.Known r) :
    Closed { r with enums := r.enums.insert enum variants } where
  field := fun struct fields name ty found stored =>
    (closed.field struct fields name ty found stored).mono (Names.insertEnum r _ _)
  payload := fun other otherVariants name payload found stored => by
    apply Ty.Known.mono (Names.insertEnum r enum variants)
    rw [Table.get?_insert] at found
    split at found
    · cases found
      exact known _ _ stored
    · exact closed.payload _ _ _ _ found stored

theorem not_found {β : Type} (name : String) (value : β) (P : Prop)
    (found : (Table.empty : Table β).get? name = some value) : P := by
  rw [Table.get?_empty] at found
  cases found

theorem Closed.enterName (closed : r.Closed) (stmt : Stmt) : (r.enterName stmt).Closed := by
  cases stmt with
  | struct decl =>
    exact closed.insertStruct _ _ fun name ty => not_found name ty _
  | enum decl =>
    exact closed.insertEnum _ _ fun name payload => not_found name (some payload) _
  | _ => exact closed

theorem Closed.enterMembers (closed : r.Closed) (options : Options) (stmt : Stmt) :
    (r.enterMembers options stmt).value.Closed := by
  cases stmt with
  | struct decl =>
    exact closed.insertStruct _ _
      (addFields_known options r _ _ _ fun name ty => not_found name ty _)
  | enum decl =>
    exact closed.insertEnum _ _
      (addVariants_known r _ _ _ fun name payload => not_found name (some payload) _)
  | _ => exact closed

theorem Closed.enterAllMembers (closed : r.Closed) (options : Options) (stmts : List Stmt) :
    (r.enterAllMembers options stmts).value.Closed := by
  induction stmts generalizing r with
  | nil => exact closed
  | cons stmt rest ih => exact ih (closed.enterMembers options stmt)

theorem Closed.enterNames (closed : r.Closed) (stmts : List Stmt) :
    (stmts.foldl Registry.enterName r).Closed := by
  induction stmts generalizing r with
  | nil => exact closed
  | cons stmt rest ih => exact ih (closed.enterName stmt)

/-- Entering the declarations of a module keeps a registry closed. -/
theorem Closed.register (closed : r.Closed) (options : Options) (stmts : List Stmt) :
    (r.register options stmts).value.Closed :=
  (closed.enterNames stmts).enterAllMembers options stmts

theorem closed_empty : Registry.empty.Closed where
  field := fun struct fields _ _ found => not_found struct fields _ found
  payload := fun enum variants _ _ found => not_found enum variants _ found

end Registry

end ModuleCheck
