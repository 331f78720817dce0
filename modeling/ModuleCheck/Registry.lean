import ModuleCheck.Options
import ModuleCheck.Reported
import ModuleCheck.Table
import ModuleCheck.Tree.Basic
import ModuleCheck.Ty.Basic

namespace ModuleCheck

/-!
The structs and enums of a module, and what written types stand for.

All names are entered before the first member is looked at, so that fields and payloads may
mention declarations that follow.  Of two declarations of one name the later one counts, and
of two members of one name in a declaration the earlier one.
-/

/-- What a variant carries.  A declared variant is entered with the field and the type of its
payload both or with neither of them, so that one option tells of both. -/
structure Payload where
  field : String
  type : Ty
deriving DecidableEq

/-- The fields of a struct with their types, in the order of declaration. -/
abbrev Fields := Table Ty

/-- The variants of an enum with their payloads, in the order of declaration. -/
abbrev Variants := Table (Option Payload)

/-- The declared structs and enums. -/
structure Registry where
  structs : Table Fields
  enums : Table Variants

namespace Registry

def empty : Registry := ⟨Table.empty, Table.empty⟩

/-- The types that every module knows by name. -/
def builtin? (name : String) : Option Ty :=
  if name = "Int" then some .int
  else if name = "Bool" then some .bool
  else if name = "String" then some .string
  else if name = "Unit" then some .unit
  else none

/-- The type with the given name: a built-in one, else a struct, else an enum. -/
def named? (r : Registry) (name : String) : Option Ty :=
  match builtin? name with
  | some ty => some ty
  | none =>
    if r.structs.contains name then some (.struct name)
    else if r.enums.contains name then some (.enum name)
    else none

/-- The type that a written type stands for.  A missing one stands for `unknown`; so does a
name without a type, which is reported. -/
def resolve (r : Registry) : Option TypeExpr → Reported Ty
  | none => pure .unknown
  | some (.any _) => pure .any
  | some (.named name span) =>
    match r.named? name with
    | some ty => pure ty
    | none => do
      Reported.error (.unknownType name) (some span)
      pure .unknown

/-- The declared variant of an enum, if both are known. -/
def variant? (r : Registry) (enum variant : String) : Option (Option Payload) :=
  (r.enums.get? enum).bind fun variants => variants.get? variant

/-- Adds a field to those declared so far. -/
def addField (options : Options) (r : Registry) (struct : String) (known : Fields)
    (field : FieldDecl) : Reported Fields := do
  Reported.require (!options.isReserved field.name) (.reservedField struct field.name)
    (some field.span)
  let type ← r.resolve field.ascription
  let fresh ← Reported.test (!known.contains field.name) (.duplicateField struct field.name)
    (some field.span)
  pure (if fresh then known.insert field.name type else known)

/-- The payload of a declared variant.  Its type is looked at only if there is a field. -/
def payload (r : Registry) (variant : VariantDecl) : Reported (Option Payload) :=
  match variant.payloadField with
  | none => pure none
  | some field => do
    let type ← r.resolve variant.payloadType
    pure (some ⟨field, type⟩)

/-- Adds a variant to those declared so far. -/
def addVariant (r : Registry) (enum : String) (known : Variants) (variant : VariantDecl) :
    Reported Variants := do
  let payload ← r.payload variant
  let fresh ← Reported.test (!known.contains variant.name)
    (.duplicateVariant enum variant.name) (some variant.span)
  pure (if fresh then known.insert variant.name payload else known)

def addFields (options : Options) (r : Registry) (struct : String) (known : Fields) :
    List FieldDecl → Reported Fields
  | [] => pure known
  | field :: rest => do
    let extended ← addField options r struct known field
    addFields options r struct extended rest

def addVariants (r : Registry) (enum : String) (known : Variants) :
    List VariantDecl → Reported Variants
  | [] => pure known
  | variant :: rest => do
    let extended ← addVariant r enum known variant
    addVariants r enum extended rest

/-- Enters the name that a statement declares, if it declares a type. -/
def enterName (r : Registry) : Stmt → Registry
  | .struct decl => { r with structs := r.structs.insert decl.name Table.empty }
  | .enum decl => { r with enums := r.enums.insert decl.name Table.empty }
  | _ => r

/-- Enters the members of the type that a statement declares, if it declares one. -/
def enterMembers (options : Options) (r : Registry) : Stmt → Reported Registry
  | .struct decl => do
    let fields ← addFields options r decl.name Table.empty decl.fields
    pure { r with structs := r.structs.insert decl.name fields }
  | .enum decl => do
    let variants ← addVariants r decl.name Table.empty decl.variants
    pure { r with enums := r.enums.insert decl.name variants }
  | _ => pure r

def enterAllMembers (options : Options) (r : Registry) : List Stmt → Reported Registry
  | [] => pure r
  | stmt :: rest => do
    let extended ← enterMembers options r stmt
    enterAllMembers options extended rest

/-- Enters the type declarations among the statements of a module. -/
def register (options : Options) (r : Registry) (stmts : List Stmt) : Reported Registry :=
  enterAllMembers options (stmts.foldl enterName r) stmts

end Registry

end ModuleCheck
