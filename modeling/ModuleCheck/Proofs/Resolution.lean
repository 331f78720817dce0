import ModuleCheck.Proofs.Gains
import ModuleCheck.Proofs.Marks
import ModuleCheck.Proofs.Passage
import ModuleCheck.Proofs.Scoping

namespace ModuleCheck

/-!
A check resolves names by lexical scoping.

The visit of a tree looks up the occurrences that are free in it, each of them once and in
their order: those that are bound mark their bindings, and those that are not are reported.
Inside a scope that the tree opens, the names declared there take their own uses, so that
nothing but the free occurrences reaches the scopes around it.  The main statement is that a
module is reported to use undeclared names exactly at its free occurrences.
-/

namespace Occurrence

/-- The report on an occurrence whose name is not declared. -/
def unknown (o : Occurrence) : Diagnostic :=
  Diagnostic.error (.unknownIdentifier o.name) (some o.span)

end Occurrence

namespace Environment

/-- The names declared in the open scopes. -/
def names (env : Environment) : List String := env.scopes.flatMap Table.keys

theorem mem_names {env : Environment} {name : String} :
    name ∈ env.names ↔ env.binds name = true := by
  simp [names, binds_eq, scopes, Table.contains_iff]

end Environment

namespace Checker

/-- The reports so far on names that are not declared. -/
def unknowns (c : Checker) : List Diagnostic := Diagnostic.unknownNames c.diagnostics

/-- The reports on those of the occurrences whose names are not bound. -/
def reportsOn (c : Checker) (occurrences : List Occurrence) : List Diagnostic :=
  (occurrences.filter fun o => !c.environment.binds o.name).map Occurrence.unknown

theorem reportsOn_append (c : Checker) (first second : List Occurrence) :
    c.reportsOn (first ++ second) = c.reportsOn first ++ c.reportsOn second := by
  simp [reportsOn]

theorem reportsOn_eq (c : Checker) (occurrences : List Occurrence) :
    c.reportsOn occurrences =
      (without c.environment.names occurrences).map Occurrence.unknown := by
  unfold reportsOn without
  congr 1
  refine List.filter_congr fun o _ => ?_
  rw [Bool.eq_iff_iff]
  simp [Environment.mem_names]

/-- Between the two states exactly the given occurrences were looked up, and no name was
declared in an open scope. -/
structure Uses (c : Checker) (occurrences : List Occurrence) (c' : Checker) : Prop where
  environment : c'.environment = c.environment.uses (occurrences.map Occurrence.name)
  unknowns : c'.unknowns = c.unknowns ++ c.reportsOn occurrences

/-- Between the two states the given names were declared in the innermost scope, and exactly
the given occurrences were looked up there ahead of the declarations or got past them. -/
structure Resolves (c : Checker) (occurrences : List Occurrence) (declared : List String)
    (c' : Checker) : Prop where
  contains : ∀ name, c'.environment.current.contains name = true ↔
    c.environment.current.contains name = true ∨ name ∈ declared
  outer : c'.environment.outer =
    Environment.useAll ((occurrences.map Occurrence.name).filter fun name =>
      !c.environment.current.contains name) c.environment.outer
  unknowns : c'.unknowns = c.unknowns ++ c.reportsOn occurrences

variable {c c' c'' : Checker} {xs ys : List Occurrence} {declared further : List String}

namespace Uses

theorem refl (c : Checker) : c.Uses [] c where
  environment := rfl
  unknowns := (List.append_nil _).symm

theorem trans (one : c.Uses xs c') (two : c'.Uses ys c'') : c.Uses (xs ++ ys) c'' where
  environment := by
    rw [two.environment, one.environment, List.map_append, Environment.uses_append]
  unknowns := by
    have same : c'.reportsOn ys = c.reportsOn ys := by
      simp [reportsOn, one.environment]
    rw [two.unknowns, one.unknowns, same, reportsOn_append, List.append_assoc]

theorem resolves (uses : c.Uses xs c') : c.Resolves xs [] c' where
  contains := by simp [uses.environment]
  outer := by rw [uses.environment, Environment.outer_uses]
  unknowns := uses.unknowns

end Uses

theorem Quiet.uses (quiet : c.Quiet c') : c.Uses [] c' where
  environment := quiet.environment
  unknowns := by
    rcases quiet.reports with ⟨ds, plain, reported⟩
    simp [Checker.unknowns, reported, plain.unknownNames_eq, reportsOn]

instance : CumulativeOnNames Uses where
  trans := Uses.trans
  idle := fun idle => idle.quiet.uses
  quiet := Quiet.uses

theorem Quiet.resolves (quiet : c.Quiet c') : c.Resolves [] [] c' := quiet.uses.resolves

namespace Resolves

/-- A name is bound behind the declarations if it was bound in front of them or is one of
them. -/
theorem binds (resolves : c.Resolves xs declared c') (name : String) :
    c'.environment.binds name = true ↔ c.environment.binds name = true ∨ name ∈ declared := by
  simp only [Environment.binds_eq, Bool.or_eq_true, resolves.contains, resolves.outer,
    Environment.any_useAll]
  tauto

/-- What is looked up behind the declarations gets past them if it has another name. -/
theorem trans (one : c.Resolves xs declared c') (two : c'.Resolves ys further c'') :
    c.Resolves (xs ++ without declared ys) (declared ++ further) c'' where
  contains := by
    intro name
    rw [two.contains, one.contains, List.mem_append, or_assoc]
  outer := by
    -- What gets past the innermost scope now is what got past the declarations and past it before.
    have passed : ((without declared ys).map Occurrence.name).filter
          (fun name => !c.environment.current.contains name) =
        (ys.map Occurrence.name).filter
          (fun name => !c'.environment.current.contains name) := by
      simp only [without, List.filter_map, List.filter_filter]
      congr 1
      refine List.filter_congr fun o _ => ?_
      rw [Bool.eq_iff_iff]
      simp [one.contains, ← Bool.not_eq_true]
    rw [two.outer, one.outer, ← Environment.useAll_append, List.map_append, List.filter_append,
      passed]
  unknowns := by
    have same : c'.reportsOn ys = c.reportsOn (without declared ys) := by
      simp only [reportsOn, without, List.filter_filter]
      congr 1
      refine List.filter_congr fun o _ => ?_
      rw [Bool.eq_iff_iff]
      simp [one.binds, ← Bool.not_eq_true]
    rw [two.unknowns, one.unknowns, same, reportsOn_append, List.append_assoc]

/-- Uses in front of some declarations. -/
theorem lead (one : c.Resolves xs [] c') (two : c'.Resolves ys declared c'') :
    c.Resolves (xs ++ ys) declared c'' := by
  have both := one.trans two
  rwa [without_nil] at both

/-- Declarations behind some uses. -/
theorem declare (one : c.Uses xs c') (two : c'.Resolves [] declared c'') :
    c.Resolves xs declared c'' := by
  have both := one.resolves.lead two
  rwa [List.append_nil] at both

/-- Steps behind some declarations that neither look up nor declare anything. -/
theorem trail (one : c.Resolves xs declared c') (two : c'.Resolves [] [] c'') :
    c.Resolves xs declared c'' := by
  have both := one.trans two
  simpa [without] using both

/-- The scopes around one that was opened in front of some visits. -/
theorem outer_eq (inside : (Check.after Check.enterScope c).Resolves xs declared c') :
    c'.environment.outer = (c.environment.uses (xs.map Occurrence.name)).scopes := by
  have everything : (xs.map Occurrence.name).filter (fun name =>
      !(Check.after Check.enterScope c).environment.current.contains name) =
      xs.map Occurrence.name := by
    refine List.filter_eq_self.mpr fun name _ => ?_
    simp [Environment.push, ← Table.isSome_get?]
  rw [inside.outer, everything, Environment.scopes_uses]
  rfl

theorem pop?_eq (inside : (Check.after Check.enterScope c).Resolves xs declared c') :
    c'.environment.pop? =
      some (c'.environment.current, c.environment.uses (xs.map Occurrence.name)) := by
  rw [Environment.pop?, inside.outer_eq]
  rfl

/-- Closing the scope that was opened in front of some visits. -/
theorem exitScope (inside : (Check.after Check.enterScope c).Resolves xs declared c') :
    c.Uses xs (Check.after Check.exitScope c') := by
  rw [Check.after_exitScope inside.pop?_eq]
  refine ⟨rfl, ?_⟩
  have reported := inside.unknowns
  simp_all [Checker.unknowns, reportsOn, Environment.binds, Scope.unknownNames_unusedLocals]

end Resolves

/-- The functions among the statements are declared. -/
def Hoists (c : Checker) (stmts : List Stmt) : Prop :=
  ∀ name ∈ stmts.filterMap Stmt.hoistedName?, c.environment.current.contains name = true

theorem Hoists.first {stmt : Stmt} {rest : List Stmt} (hoisted : c.Hoists (stmt :: rest)) :
    c.Hoists [stmt] := fun name member => hoisted name (by
  simp only [List.filterMap_cons] at member ⊢
  split at member <;> simp_all)

theorem Hoists.behind {stmt : Stmt} {rest : List Stmt} (hoisted : c.Hoists (stmt :: rest)) :
    c.Hoists rest := fun name member => hoisted name (by
  simp only [List.filterMap_cons]
  split <;> simp_all)

theorem Hoists.mono {stmts : List Stmt} (hoisted : c.Hoists stmts)
    (resolves : c.Resolves xs declared c') : c'.Hoists stmts :=
  fun name member => (resolves.contains name).mpr (Or.inl (hoisted name member))

end Checker

namespace Check

variable {xs ys : List Occurrence}

/-- A use of a name looks it up. -/
theorem uses_useName (o : Occurrence) :
    Gains Checker.Uses [o] (useName o.name (some o.span)) := by
  intro c
  cases bound : c.environment.lookup? o.name with
  | none =>
    have unbound : c.environment.binds o.name = false := by simp [Environment.binds, bound]
    rw [(useName_of_unbound bound (some o.span)).2]
    exact {
      environment := (Environment.modify_of_not_binds unbound _).symm
      unknowns := by
        simp [Checker.unknowns, Checker.reportsOn, unbound, Occurrence.unknown,
          Diagnostic.unknownNames, Diagnostic.error, Issue.isUnknownName] }
  | some binding =>
    have known : c.environment.binds o.name = true := by simp [Environment.binds, bound]
    rw [(useName_of_bound bound (some o.span)).2]
    exact {
      environment := rfl
      unknowns := by simp [Checker.unknowns, Checker.reportsOn, known] }

/-! Declarations. -/

variable {c c' : Checker} {declared : List String}

theorem resolves_declare (name : String) (ty : Ty) (flags : Flags) (span : Option Span)
    (c : Checker) : c.Resolves [] [name] (after (declare name ty flags span) c) where
  contains := by
    intro other
    rw [← Table.isSome_get?, ← Table.isSome_get?]
    by_cases same : other = name <;> simp [Environment.declare, Table.get?_insert, same]
  outer := rfl
  unknowns := (Checker.Uses.refl c).unknowns

/-- A change of a binding of the innermost scope, and of nothing that names depend on. -/
theorem resolves_modifyCurrent (name : String) (f : Binding → Binding) (c : Checker) :
    c.Resolves [] [] { c with environment := c.environment.modifyCurrent name f } where
  contains := by simp [Environment.modifyCurrent]
  outer := rfl
  unknowns := (Checker.Uses.refl c).unknowns

theorem resolves_hoist (topLevel : Bool) (stmts : List Stmt) (c : Checker) :
    c.Resolves [] (stmts.filterMap Stmt.hoistedName?) (after (hoist topLevel stmts) c) := by
  induction stmts generalizing c with
  | nil => exact (Checker.Uses.refl c).resolves
  | cons stmt rest ih =>
    cases stmt with
    | function signature body => exact (resolves_declare _ _ _ _ c).trans (ih _)
    | _ => exact ih c

theorem resolves_declareParams (params : List Param) (types : List Ty)
    (sameLength : params.length = types.length) (c : Checker) :
    c.Resolves [] (params.map Param.name) (after (declareParams params types) c) := by
  induction params generalizing types c with
  | nil => exact (Checker.Uses.refl c).resolves
  | cons param rest ih =>
    cases types with
    | nil => cases sameLength
    | cons ty others =>
      exact (resolves_declare _ _ _ _ c).trans (ih others (Nat.succ.inj sameLength) _)

theorem resolves_declareImports (topLevel : Bool) (span : Span) (names : List String)
    (c : Checker) : c.Resolves [] names (after (declareImports topLevel span names) c) := by
  induction names generalizing c with
  | nil => exact (Checker.Uses.refl c).resolves
  | cons name rest ih => exact (resolves_declare _ _ _ _ c).trans (ih _)

theorem resolves_bindVariant (matched : Option String) (enum variant : String)
    (binding : Option String) (span : Span) (c : Checker) :
    c.Resolves [] binding.toList (after (bindVariant matched enum variant binding span) c) := by
  have typed := (Idle.settle
    (Arms.among_bindingType c.registry matched enum variant binding.isSome span) c).quiet
  cases binding with
  | none => exact typed.resolves
  | some name => exact typed.resolves.lead (resolves_declare _ _ _ _ _)

theorem resolves_tagLiteral (name : String) (value : Expr) (c : Checker) :
    c.Resolves [] [] (after (tagLiteral name value) c) := by
  cases value with
  | variant enum _ _ _ _ => exact resolves_modifyCurrent _ _ c
  | _ => exact (Checker.Uses.refl c).resolves

/-- Opening a function that is declared already declares nothing new around it. -/
theorem resolves_afterSignature {signature : Signature} (topLevel : Bool)
    (hoisted : c.environment.current.contains signature.name = true) :
    c.Resolves [] [] (afterSignature signature topLevel c) where
  contains := by
    intro name
    rw [← Table.isSome_get?, ← Table.isSome_get?]
    rw [← Table.isSome_get?] at hoisted
    by_cases same : name = signature.name <;>
      simp [afterSignature, Environment.declare, Table.get?_insert, same, hoisted]
  outer := rfl
  unknowns := (Quiet.reports signature c.registry c).uses.unknowns

theorem resolves_afterParams (signature : Signature) (topLevel : Bool) (c : Checker) :
    (after enterScope (afterSignature signature topLevel c)).Resolves []
      (signature.params.map Param.name) (afterParams signature topLevel c) :=
  resolves_declareParams _ _ (by simp [Signature.paramTypes]) _

/-- Of what is free in the body of a function, its parameters take their uses. -/
theorem resolves_body {signature : Signature} {topLevel : Bool}
    (visited : (after (openFunction signature topLevel) c).Uses xs c') :
    (after enterScope (afterSignature signature topLevel c)).Resolves
      (without (signature.params.map Param.name) xs) (signature.params.map Param.name) c' := by
  rw [after_openFunction_eq] at visited
  have inside := (Quiet.pushFrame _ _).uses.trans visited
  have both := (resolves_afterParams signature topLevel c).trans inside.resolves
  rwa [List.append_nil] at both

theorem quiet_functionResult (signature : Signature) (expected : Option Ty)
    (body : BlockOutcome) :
    Quiet (do
      let _ ← popFrame
      settle (Rules.functionResult signature.name expected body signature.span)) :=
  Quiet.popFrame.bind fun _ =>
    .settle ((Rules.among_functionResult _ _ _ _).plain (by decide) (by decide))

theorem uses_afterBody {signature : Signature} {topLevel : Bool}
    (visited : (after (openFunction signature topLevel) c).Uses xs c') (expected : Option Ty)
    (body : BlockOutcome) :
    (afterSignature signature topLevel c).Uses (without (signature.params.map Param.name) xs)
      (afterBody signature expected body c') := by
  have settled := quiet_functionResult signature expected body c'
  exact ((resolves_body visited).trail settled.resolves).exitScope

theorem resolves_function {signature : Signature} (topLevel : Bool)
    (hoisted : c.environment.current.contains signature.name = true)
    (visited : (after (openFunction signature topLevel) c).Uses xs c') (expected : Option Ty)
    (body : BlockOutcome) :
    c.Resolves (without (signature.params.map Param.name) xs) []
      (after (closeFunction signature expected body) c') := by
  have around := uses_afterBody visited expected body
  rw [after_closeFunction]
  exact ((resolves_afterSignature topLevel hoisted).lead around.resolves).trail
    (resolves_modifyCurrent signature.name _ _)

/-! The visits. -/

open Sites (free_conditional free_arm free_block free_cons free_function)

mutual

theorem visitExpr_uses : (e : Expr) → Gains Checker.Uses (free (Sites.ofExpr [] e)) (visitExpr e)
  | .identifier name span => by
    rw [visitExpr, Sites.ofExpr]
    exact (uses_useName ⟨name, span⟩).trail fun _ => .pure _
  | .int .. | .string .. | .bool .. => by
    rw [visitExpr, Sites.ofExpr]
    exact .idle (.pure _)
  | .interpolated parts raw span => by
    rw [Sites.ofExpr]
    exact (visitParts_uses parts).interpolated raw span
  | .binary op left right span => by
    rw [Sites.ofExpr, free_append]
    exact (visitExpr_uses left).binary (visitExpr_uses right) op span
  | .unary op operand span => by
    rw [Sites.ofExpr]
    exact (visitExpr_uses operand).unary op span
  | .call callee args span => by
    rw [Sites.ofExpr, free_append]
    exact (visitExpr_uses callee).call (visitArgs_uses args) span
  | .conditional k => by
    rw [visitExpr, Sites.ofExpr]
    exact visitConditional_uses k
  | .matching m => by
    rw [Sites.ofExpr]
    exact (visitMatch_uses true m).matching
  | .construct struct fields span => by
    rw [Sites.ofExpr]
    exact .construct (visitFieldValues_uses fields)
      (fun struct declared given => visitFields_uses struct declared given fields) struct span
  | .update target fields span => by
    rw [Sites.ofExpr, free_append]
    exact (visitExpr_uses target).update (visitFieldValues_uses fields)
      (fun struct declared given => visitFields_uses struct declared given fields) span
  | .variant enum variant payloadField payload span => by
    rw [Sites.ofExpr]
    exact (visitOptional_uses payload).variant enum variant payloadField span
  | .block b => by
    rw [Sites.ofExpr]
    exact (visitBlock_uses true b).block

theorem visitOptional_uses : (e : Option Expr) →
    Gains Checker.Uses (free (Sites.ofOptional [] e)) (visitOptional e)
  | none => by
    rw [visitOptional, Sites.ofOptional]
    exact .idle (.pure _)
  | some e => by
    rw [Sites.ofOptional]
    exact (visitExpr_uses e).optional

theorem visitParts_uses : (parts : List Part) →
    Gains Checker.Uses (free (Sites.ofParts [] parts)) (visitParts parts)
  | [] => by
    rw [visitParts, Sites.ofParts]
    exact .idle (.pure _)
  | .text .. :: rest => by
    rw [visitParts, Sites.ofParts]
    exact visitParts_uses rest
  | .embedded e span :: rest => by
    rw [Sites.ofParts, free_append]
    exact (visitExpr_uses e).embedded (visitParts_uses rest) span

theorem visitArgs_uses : (args : List Expr) →
    Gains Checker.Uses (free (Sites.ofExprs [] args)) (visitArgs args)
  | [] => by
    rw [visitArgs, Sites.ofExprs]
    exact .idle (.pure _)
  | e :: rest => by
    rw [Sites.ofExprs, free_append]
    exact (visitExpr_uses e).arg (visitArgs_uses rest)

theorem visitPrinted_uses : (args : List Expr) →
    Gains Checker.Uses (free (Sites.ofExprs [] args)) (visitPrinted args)
  | [] => by
    rw [visitPrinted, Sites.ofExprs]
    exact .idle (.pure _)
  | e :: rest => by
    rw [Sites.ofExprs, free_append]
    exact (visitExpr_uses e).printed (visitPrinted_uses rest)

theorem visitFieldValues_uses : (fields : List FieldInit) →
    Gains Checker.Uses (free (Sites.ofFieldInits [] fields)) (visitFieldValues fields)
  | [] => by
    rw [visitFieldValues, Sites.ofFieldInits]
    exact .idle (.pure _)
  | ⟨name, value, span⟩ :: rest => by
    rw [Sites.ofFieldInits, free_append]
    exact (visitExpr_uses value).fieldValue (visitFieldValues_uses rest) name span

theorem visitFields_uses (struct : String) (declared : Fields) (given : List String) :
    (fields : List FieldInit) →
      Gains Checker.Uses (free (Sites.ofFieldInits [] fields))
        (visitFields struct declared given fields)
  | [] => by
    rw [visitFields, Sites.ofFieldInits]
    exact .idle (.pure _)
  | ⟨name, value, span⟩ :: rest => by
    rw [Sites.ofFieldInits, free_append]
    exact (visitExpr_uses value).field (visitFields_uses struct declared (name :: given) rest) span

theorem visitConditional_uses : (k : Conditional) →
    Gains Checker.Uses (free (Sites.ofConditional [] k)) (visitConditional k)
  | ⟨initializer, condition, consequence, alternative, span⟩ => by
    have branches := (visitExpr_uses condition).branches (visitBlock_uses true consequence)
      (visitOtherwise_uses alternative) span
    rw [visitConditional_eq, free_conditional]
    cases initializer with
    | none =>
      rw [visitInitializer, Sites.ofInitializer]
      rw [Option.toList_none, List.map_nil, without_nil, free_nil, List.nil_append]
      exact .lead (.pure ()) fun _ => branches.trail fun _ => (Idle.pure ()).bind
        fun _ => .pure _
    | some decl =>
      intro c
      have opened := visitVar_resolves Flags.inner decl (after enterScope c)
      rw [visitInitializer, Sites.ofInitializer]
      exact (opened.trans (branches _).resolves).exitScope

theorem visitOtherwise_uses : (alternative : Otherwise) →
    Gains Checker.Uses (free (Sites.ofOtherwise [] alternative)) (visitOtherwise alternative)
  | .block b => by
    rw [Sites.ofOtherwise]
    exact (visitBlock_uses true b).otherwise
  | .elseIf k => by
    rw [visitOtherwise, Sites.ofOtherwise]
    exact visitConditional_uses k

theorem visitMatch_uses (valued : Bool) : (m : Match) →
    Gains Checker.Uses (free (Sites.ofMatch [] m)) (visitMatch valued m)
  | ⟨value, arms, span⟩ => by
    rw [Sites.ofMatch, free_append]
    exact (visitExpr_uses value).arms (fun enum? => visitArms_uses valued enum? arms) span

theorem visitArms_uses (valued : Bool) (enum? : Option String) : (arms : List Arm) →
    Gains Checker.Uses (free (Sites.ofArms [] arms)) (visitArms valued enum? arms)
  | [] => by
    rw [visitArms, Sites.ofArms]
    exact .idle (.pure _)
  | arm :: rest => by
    rw [Sites.ofArms, free_append]
    exact (visitArm_uses valued enum? arm).arm (visitArms_uses valued enum? rest)

theorem visitArm_uses (valued : Bool) (enum? : Option String) : (arm : Arm) →
    Gains Checker.Uses (free (Sites.ofArm [] arm)) (visitArm valued enum? arm)
  | ⟨pattern, guard, body, span⟩ => by
    rw [visitArm_eq, free_arm]
    intro c
    have bound := visitPattern_resolves enum? pattern (after enterScope c)
    have parts := (visitOptional_uses guard).guarded (visitExpr_uses body) valued
    exact (bound.trans (parts _).resolves).exitScope

theorem visitPattern_resolves (enum? : Option String) : (pattern : Pattern) → (c : Checker) →
    c.Resolves (free (Sites.ofPattern [] pattern)) pattern.boundNames
      (after (visitPattern enum? pattern) c)
  | .wildcard _, c => by
    rw [visitPattern, Sites.ofPattern]
    exact (Checker.Uses.refl c).resolves
  | .literal value _, c => by
    rw [visitPattern, Sites.ofPattern]
    exact (visitExpr_uses value c).resolves
  | .variant .., c => by
    rw [visitPattern, Sites.ofPattern]
    exact resolves_bindVariant _ _ _ _ _ c

theorem visitBlock_uses (valued : Bool) : (b : Block) →
    Gains Checker.Uses (free (Sites.ofBlock [] b)) (visitBlock valued b)
  | ⟨body, span⟩ => by
    rw [visitBlock, free_block]
    intro c
    have opened := resolves_hoist false body (after enterScope c)
    have visited := visitStmts_resolves valued {} body _ fun name member =>
      (opened.contains name).mpr (Or.inr member)
    have closed := (opened.trans visited).exitScope
    simpa using closed.trans (Quiet.returnsSince _ _).uses

theorem visitStmts_resolves (valued : Bool) (progress : Progress) : (stmts : List Stmt) →
    (c : Checker) → c.Hoists stmts →
      c.Resolves (free (Sites.ofStmts [] stmts)) (stmts.flatMap Stmt.introducedNames)
        (after (visitStmts valued progress stmts) c)
  | [], c, _ => by
    rw [visitStmts, Sites.ofStmts]
    exact (Checker.Uses.refl c).resolves
  | stmt :: rest, c, hoisted => by
    rw [visitStmts, free_cons]
    split
    -- A dead statement is visited like any other; only its returns are forgotten.
    · have reported : c.Resolves [] []
          (after (error .unreachableStatement (some stmt.span)) c) :=
        (Quiet.error rfl _ c).resolves
      have visited := visitStmt_resolves ⟨false, valued && rest.isEmpty⟩ stmt _
        (hoisted.first.mono reported)
      have dead := reported.lead visited
      exact (dead.trail (Quiet.modifyReturns _ _).resolves).trans
        (visitStmts_resolves valued progress rest _
          ((hoisted.behind.mono dead).mono (Quiet.modifyReturns _ _).resolves))
    · have visited := visitStmt_resolves ⟨false, valued && rest.isEmpty⟩ stmt c hoisted.first
      exact visited.trans (visitStmts_resolves valued _ rest _ (hoisted.behind.mono visited))

theorem visitStmt_resolves (place : Place) : (stmt : Stmt) → (c : Checker) →
    c.Hoists [stmt] →
      c.Resolves (free (Sites.ofStmt [] stmt)) stmt.introducedNames
        (after (visitStmt place stmt) c)
  | .struct _, c, _ | .enum _, c, _ => by
    rw [visitStmt, Sites.ofStmt]
    exact (Checker.Uses.refl c).resolves
  | .imports i, c, _ => by
    rw [visitStmt, Sites.ofStmt]
    exact resolves_declareImports _ _ _ c
  | .var decl, c, _ => by
    rw [visitStmt, Sites.ofStmt]
    exact visitVar_resolves _ decl c
  | .function signature body, c, hoisted => by
    rw [visitStmt, free_function]
    exact resolves_function place.topLevel (hoisted _ (by simp [Stmt.hoistedName?]))
      (visitBlock_uses _ body _) _ _
  | .print _ args _, c, _ => by
    rw [visitStmt, Sites.ofStmt]
    exact (visitPrinted_uses args c).resolves
  | .returns value span, c, _ => by
    rw [Sites.ofStmt]
    exact ((visitOptional_uses value).returned place span c).resolves
  | .expr value span, c, _ => by
    rw [Sites.ofStmt]
    exact ((visitExpr_uses value).stated place span c).resolves

theorem visitVar_resolves (flags : Flags) : (decl : VarDecl) → (c : Checker) →
    c.Resolves (free (Sites.ofVar [] decl)) [decl.name] (after (visitVar flags decl) c)
  | ⟨name, _, ascription, value, _, span⟩, c => by
    rw [visitVar_eq, Sites.ofVar]
    have typed := (visitExpr_uses value).initial name ascription span c
    exact .declare typed ((resolves_declare _ _ _ _ _).trail (resolves_tagLiteral _ _ _))

end

theorem visitTopLevel_resolves (stmts : List Stmt) (c : Checker) (hoisted : c.Hoists stmts) :
    c.Resolves (free (Sites.ofStmts [] stmts)) (stmts.flatMap Stmt.introducedNames)
      (after (visitTopLevel stmts) c) := by
  induction stmts generalizing c with
  | nil =>
    rw [Sites.ofStmts]
    exact (Checker.Uses.refl c).resolves
  | cons stmt rest ih =>
    have visited := visitStmt_resolves ⟨true, false⟩ stmt c hoisted.first
    rw [free_cons]
    exact visited.trans (ih _ (hoisted.behind.mono visited))

end Check

namespace Module

open Check

/-- The visit of a module looks up what is free in its statements, and its functions are
declared ahead. -/
theorem resolves_visit (m : Module) (options : Options) :
    (Checker.fresh options).Resolves (free (Sites.ofModule m))
      (m.body.filterMap Stmt.hoistedName? ++ m.body.flatMap Stmt.introducedNames)
      (m.visit options).finish := by
  have registered := (Quiet.register m.body (Checker.fresh options)).resolves
  have opened := registered.lead (resolves_hoist true m.body _)
  have visited := visitTopLevel_resolves m.body _ fun name member =>
    (opened.contains name).mpr (Or.inr member)
  rw [Sites.ofModule, Sites.free_ofStmts]
  exact opened.trans visited

/-- The names that a check reports as undeclared are exactly those that are free under lexical
scoping: the sites of a module are its identifier expressions, each once and in the order of
the visit, and the reports are those on the free ones, in that order.  The same holds of every
expression and block, wherever it is visited: what the visit adds are reports on the sites that
are free among the names declared there. -/
theorem unknownNames_eq_free :
    (∀ (m : Module) (options : Options),
      (Sites.ofModule m).map Site.occurrence = Outline.occurrences (Outline.ofModule m) ∧
      Diagnostic.unknownNames (m.check options) =
        (free (Sites.ofModule m)).map Occurrence.unknown) ∧
    (∀ (e : Expr) (c : Checker),
      (Sites.ofExpr c.environment.names e).map Site.occurrence =
        Outline.occurrences (Outline.ofExpr e) ∧
      (after (visitExpr e) c).unknowns =
        c.unknowns ++ (free (Sites.ofExpr c.environment.names e)).map Occurrence.unknown) ∧
    (∀ (valued : Bool) (b : Block) (c : Checker),
      (Sites.ofBlock c.environment.names b).map Site.occurrence =
        Outline.occurrences (Outline.ofBlock b) ∧
      (after (visitBlock valued b) c).unknowns =
        c.unknowns ++ (free (Sites.ofBlock c.environment.names b)).map Occurrence.unknown) := by
  refine ⟨fun m options => ⟨Sites.map_ofModule m, ?_⟩, fun e c => ⟨Sites.map_ofExpr _ e, ?_⟩,
    fun valued b c => ⟨Sites.map_ofBlock _ b, ?_⟩⟩
  · have visited := (m.resolves_visit options).unknowns
    rw [Checker.reportsOn_eq] at visited
    change _ = (without [] (free (Sites.ofModule m))).map Occurrence.unknown at visited
    rw [without_nil] at visited
    have silent : Diagnostic.unknownNames (m.check options) =
        (m.visit options).finish.unknowns := by
      rw [check, checked_eq]
      simp [reportUnusedLocals, warnUnusedTopLevel, Checker.unknowns,
        Scope.unknownNames_unusedLocals, Scope.unknownNames_unusedTopLevel]
    rw [silent, visited]
  · rw [(visitExpr_uses e c).unknowns, c.reportsOn_eq, ← Sites.free_ofExpr]
  · rw [(visitBlock_uses valued b c).unknowns, c.reportsOn_eq, ← Sites.free_ofBlock]

end Module

end ModuleCheck
