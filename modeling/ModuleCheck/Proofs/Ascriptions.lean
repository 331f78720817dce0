import ModuleCheck.Proofs.Registration
import ModuleCheck.Proofs.Remarks

namespace ModuleCheck

/-!
Written types and what they name.

A written type is reported on once, where it is read: types of fields and payloads when their
declarations are entered, types of variables, parameters and results when they are visited.
Functions are declared ahead of their visits as well, from the same types but silently, and both
times their types are the same.
-/

open Check

/-! The written types of a module, in the order in which they are read. -/

namespace TypeExpr

/-- The report on a written type, where the given names are known. -/
def unknown? (known : List String) : TypeExpr → Option Diagnostic
  | any _ => none
  | named name span =>
    if name ∈ known then none else some (Diagnostic.error (.unknownType name) (some span))

end TypeExpr

namespace VariantDecl

/-- The written type of a payload.  It counts only if there is a payload field. -/
def carriedType (decl : VariantDecl) : Option TypeExpr :=
  if decl.payloadField.isSome then decl.payloadType else none

end VariantDecl

namespace Stmt

/-- The written types of the members of a declared type. -/
def memberTypes : Stmt → List TypeExpr
  | struct decl => decl.fields.filterMap FieldDecl.ascription
  | enum decl => decl.variants.filterMap VariantDecl.carriedType
  | _ => []

end Stmt

namespace Module

/-- The names that a written type may have. -/
def typeNames (m : Module) : List String :=
  ["Int", "Bool", "String", "Unit"] ++ m.body.filterMap Stmt.structName? ++
    m.body.filterMap Stmt.enumName?

/-- The written types: those of members first, then those that visits come to. -/
def writtenTypes (m : Module) : List TypeExpr :=
  m.body.flatMap Stmt.memberTypes ++ (Remarks.ofModule m).filterMap Remark.written?

end Module

/-! Types of members. -/

open Diagnostic (ofOrigins)

/-- What a declaration is reported for besides its written types. -/
theorem Reported.Among.unascribed {α : Type} {rule : Reported α}
    (declared : rule.Among [.declaration]) : ofOrigins [.ascription] rule.diagnostics = [] :=
  Diagnostic.Among.ofOrigins_eq_nil declared (by decide)

namespace Registry

/-- Reports on written types have their own origin. -/
theorem ofOrigins_reportsOn (r : Registry) (types : List TypeExpr) :
    ofOrigins [.ascription] (types.flatMap r.reportsOn) = types.flatMap r.reportsOn := by
  apply List.filter_eq_self.mpr
  intro d member
  rcases List.mem_flatMap.mp member with ⟨t, _, reported⟩
  exact decide_eq_true (r.among_resolve (some t) d reported)

theorem ofOrigins_addField (options : Options) (r : Registry) (struct : String) (known : Fields)
    (field : FieldDecl) :
    ofOrigins [.ascription] (addField options r struct known field).diagnostics =
      field.ascription.toList.flatMap r.reportsOn := by
  have allowed : (Reported.require (!options.isReserved field.name)
      (.reservedField struct field.name) (some field.span)).Among [.declaration] := by
    simp [Issue.origin]
  have fresh : (Reported.test (!known.contains field.name) (.duplicateField struct field.name)
      (some field.span)).Among [.declaration] := by
    simp [Issue.origin]
  simp [addField, allowed.unascribed, fresh.unascribed, r.diagnostics_resolve,
    ofOrigins_reportsOn]

theorem ofOrigins_addFields (options : Options) (r : Registry) (struct : String) (known : Fields)
    (fields : List FieldDecl) :
    ofOrigins [.ascription] (addFields options r struct known fields).diagnostics =
      (fields.filterMap FieldDecl.ascription).flatMap r.reportsOn := by
  induction fields generalizing known with
  | nil => rfl
  | cons field rest ih =>
    cases written : field.ascription <;> simp [addFields, ofOrigins_addField, ih, written]

theorem ofOrigins_addVariant (r : Registry) (enum : String) (known : Variants)
    (variant : VariantDecl) :
    ofOrigins [.ascription] (addVariant r enum known variant).diagnostics =
      variant.carriedType.toList.flatMap r.reportsOn := by
  have fresh : (Reported.test (!known.contains variant.name)
      (.duplicateVariant enum variant.name) (some variant.span)).Among [.declaration] := by
    simp [Issue.origin]
  cases field : variant.payloadField <;>
    simp [addVariant, payload, VariantDecl.carriedType, field, fresh.unascribed,
      r.diagnostics_resolve, ofOrigins_reportsOn]

theorem ofOrigins_addVariants (r : Registry) (enum : String) (known : Variants)
    (variants : List VariantDecl) :
    ofOrigins [.ascription] (addVariants r enum known variants).diagnostics =
      (variants.filterMap VariantDecl.carriedType).flatMap r.reportsOn := by
  induction variants generalizing known with
  | nil => rfl
  | cons variant rest ih =>
    cases written : variant.carriedType <;> simp [addVariants, ofOrigins_addVariant, ih, written]

/-- A declaration is reported on for each written type of its members, also for those of
members that are declared twice. -/
theorem ofOrigins_enterMembers (options : Options) (r : Registry) (stmt : Stmt) :
    ofOrigins [.ascription] (enterMembers options r stmt).diagnostics =
      stmt.memberTypes.flatMap r.reportsOn := by
  cases stmt with
  | struct decl => simp [enterMembers, ofOrigins_addFields, Stmt.memberTypes]
  | enum decl => simp [enterMembers, ofOrigins_addVariants, Stmt.memberTypes]
  | _ => rfl

/-- A name is unknown if it is neither built in nor declared. -/
theorem named?_eq_none_iff (r : Registry) (name : String) :
    r.named? name = none ↔
      name ∉ ["Int", "Bool", "String", "Unit"] ∧ ¬ r.structs.contains name = true ∧
        ¬ r.enums.contains name = true := by
  have builtin : builtin? name = none ↔ name ∉ ["Int", "Bool", "String", "Unit"] := by
    simp only [builtin?, List.mem_cons, List.not_mem_nil, or_false]
    grind
  rw [← builtin]
  unfold named?
  cases builtin? name with
  | some ty => simp
  | none => cases r.structs.contains name <;> cases r.enums.contains name <;> simp

end Registry

/-! Whole modules. -/

namespace Module

/-- Names are unknown to the registry of a module if they are not names of its types. -/
theorem named?_checked (m : Module) (options : Options) (name : String) :
    (m.checked options).registry.named? name = none ↔ name ∉ m.typeNames := by
  have same := Registry.empty.sameNames_register options m.body
  rw [Registry.named?_eq_none_iff, registry_checked, same.structs, same.enums,
    Registry.structs_enterNames, Registry.enums_enterNames]
  simp [typeNames, Registry.empty, ← Table.isSome_get?, not_or, and_assoc]

/-- A written type is reported on exactly if its name is unknown. -/
theorem reportsOn_checked (m : Module) (options : Options) :
    (m.checked options).registry.reportsOn = fun t => (t.unknown? m.typeNames).toList := by
  funext t
  cases t with
  | any span => rfl
  | named name span =>
    have unknown := m.named?_checked options name
    unfold Registry.reportsOn Registry.resolve TypeExpr.unknown?
    cases found : (m.checked options).registry.named? name with
    | none => simp [found, unknown.mp found, Reported.error]
    | some ty =>
      have known : name ∈ m.typeNames := by
        rw [found] at unknown
        simpa using unknown
      simp [found, known]

/-- The written types of members are reported on first, and by declaration. -/
theorem ofOrigins_register (m : Module) (options : Options) :
    ofOrigins [.ascription] (Registry.empty.register options m.body).diagnostics =
      (m.body.flatMap Stmt.memberTypes).flatMap (m.checked options).registry.reportsOn := by
  have same := Registry.empty.sameNames_register options m.body
  have read : (m.checked options).registry.reportsOn =
      (m.body.foldl Registry.enterName Registry.empty).reportsOn := by
    funext t
    rw [registry_checked, Registry.reportsOn, same.resolve_eq, ← Registry.reportsOn]
  rw [Registry.diagnostics_register, read, List.flatMap_assoc]
  generalize m.body.foldl Registry.enterName Registry.empty = entered
  induction m.body with
  | nil => rfl
  | cons stmt rest ih =>
    rw [List.flatMap_cons, List.flatMap_cons, Diagnostic.ofOrigins_append, ih,
      Registry.ofOrigins_enterMembers]

/-- Where the check declares functions ahead: in the global scope, behind the registration of
types, and in each block that it visits. -/
inductive DeclaresAhead (m : Module) (options : Options) : Bool → List Stmt → Checker → Prop
  | module :
      DeclaresAhead m options true m.body (after (register m.body) (Checker.fresh options))
  | block {valued : Bool} {b : Block} {c : Checker}
      (visits : m.Visits options ⟨.block valued b, c⟩) :
      DeclaresAhead m options false b.body (after enterScope c)

theorem DeclaresAhead.registry_eq {m : Module} {options : Options} {topLevel : Bool}
    {stmts : List Stmt} {c : Checker} (ahead : m.DeclaresAhead options topLevel stmts c) :
    c.registry = (m.checked options).registry := by
  cases ahead with
  | module => exact (m.registry_checked options).symm
  | block visits => exact (registry_eq_of_visits visits).symm

end Module

namespace Remark

/-- Of what is reported where remarks are made, the reports on written types. -/
theorem ofOrigins_ascription (r : Registry) (xs : List Remark) :
    ofOrigins [.ascription] (xs.flatMap (reports r)) =
      (xs.filterMap written?).flatMap r.reportsOn := by
  induction xs with
  | nil => rfl
  | cons x rest ih =>
    rw [List.flatMap_cons, Diagnostic.ofOrigins_append, ih]
    cases x with
    | written t =>
      have own := r.ofOrigins_reportsOn [t]
      simp only [List.flatMap_cons, List.flatMap_nil, List.append_nil] at own
      rw [reports, own]
      rfl
    | _ => rfl

end Remark

namespace Check

theorem bound_hoist (topLevel : Bool) (front : List Stmt) (signature : Signature) (body : Block)
    (c : Checker) :
    (after (hoist topLevel (front ++ [.function signature body])) c).environment.current.get?
      signature.name = some (signature.binding c.registry false topLevel) := by
  have kept := (declares_hoist topLevel front c).registry
  rw [after_hoist_append, after_hoist_function, kept]
  exact (Table.get?_insert _ _ _ _).trans (if_pos rfl)

theorem outer_declareParams (params : List Param) (types : List Ty) (c : Checker) :
    (after (declareParams params types) c).environment.outer = c.environment.outer := by
  induction params generalizing types c with
  | nil => rfl
  | cons param rest ih =>
    cases types with
    | nil => rfl
    | cons ty others => exact ih others _

/-- A function that is visited has the binding of its signature in the scope around it. -/
theorem bound_openFunction (signature : Signature) (topLevel : Bool) (c : Checker) :
    ((after (openFunction signature topLevel) c).environment.outer.head?.bind fun scope =>
      scope.get? signature.name) =
        some (signature.binding c.registry
          ((c.environment.current.get? signature.name).any Binding.used) topLevel) := by
  rw [after_openFunction_eq, afterParams, after_pushFrame, outer_declareParams]
  simp [afterSignature, Environment.push, Environment.scopes, Environment.declare,
    Table.get?_insert]

end Check

/-- Each unknown type is reported exactly once.

The reports on unknown types are those on the written types of members, in the order of their
declarations, and then those on the types of variables, parameters and results, in the order of
the visit.  A function is declared ahead and visited with the same type. -/
theorem unknown_types_reported_once (m : Module) (options : Options) :
    ofOrigins [.ascription] (m.check options) =
        m.writtenTypes.filterMap (TypeExpr.unknown? m.typeNames) ∧
      ∀ {topLevel : Bool} {stmts front rest : List Stmt} {signature : Signature} {body : Block}
        {place : Place} {c c' : Checker},
        m.DeclaresAhead options topLevel stmts c →
        stmts = front ++ .function signature body :: rest →
        m.Visits options ⟨.stmt place (.function signature body), c'⟩ →
        ∃ ahead visited : Binding,
          (after (hoist topLevel (front ++ [.function signature body])) c).environment.current.get?
            signature.name = some ahead ∧
          ((after (openFunction signature place.topLevel) c').environment.outer.head?.bind
            fun scope => scope.get? signature.name) = some visited ∧
          ahead.ty = visited.ty := by
  constructor
  · rw [← Diagnostic.ofOrigins_ofOrigins (show [.ascription] ⊆ [.flow, .ascription] by simp),
      m.ofOrigins_check, Diagnostic.ofOrigins_append, Diagnostic.ofOrigins_ofOrigins (by simp),
      Remark.ofOrigins_ascription, m.ofOrigins_register, ← List.flatMap_append,
      m.reportsOn_checked]
    exact (List.filterMap_eq_flatMap_toList _ _).symm
  · intro topLevel stmts front rest signature body place c c' ahead _ visits
    refine ⟨_, _, bound_hoist topLevel front signature body c,
      bound_openFunction signature place.topLevel c', ?_⟩
    rw [ahead.registry_eq, Module.registry_eq_of_visits visits]
    rfl

/-- A parameter and a variable of unknown types. -/
theorem unknown_types_reported_once_param :
    let s := Span.null
    let signature : Signature :=
      ⟨"f", [⟨"x", some (.named "Missing" s), s⟩], some (.named "Int" s), true, s⟩
    let body : Block := ⟨[.var ⟨"y", false, some (.named "Absent" s), .int 1 s, false, s⟩,
      .returns (some (.identifier "x" s)) s], s⟩
    let m : Module := ⟨[.function signature body]⟩
    ofOrigins [.ascription] (m.check {}) =
        [Diagnostic.error (.unknownType "Missing") (some s),
          Diagnostic.error (.unknownType "Absent") (some s)] ∧
      ∃ ahead visited : Binding,
        (after (hoist true [.function signature body])
          (after (register m.body) (Checker.fresh {}))).environment.current.get? "f" =
            some ahead ∧
        ((after (openFunction signature true) (m.visit {}).start).environment.outer.head?.bind
          fun scope => scope.get? "f") = some visited ∧
        ahead.ty = visited.ty := by
  intro s signature body m
  have split : m.body = [] ++ .function signature body :: [] := rfl
  have visits : m.Visits {} ⟨.stmt ⟨true, false⟩ (.function signature body), (m.visit {}).start⟩ :=
    .single .first
  have holds := unknown_types_reported_once m {}
  have agree := holds.2 .module split visits
  exact ⟨holds.1.trans (by decide +kernel), agree⟩

end ModuleCheck
