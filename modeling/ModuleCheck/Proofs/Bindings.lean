import ModuleCheck.Proofs.Scoping

namespace ModuleCheck

/-!
The declarations of a module and the occurrences that resolve to them.

The occurrences of a name that resolve to a declaration of it are those that are free in the
stretch of the tree where the declaration is visible.  Where no scope declares a name twice,
every occurrence of a module is free in it or resolves to one declaration.
-/

/-- A declaration of a name. -/
structure Binder where
  name : String
  span : Span
  topLevel : Bool
  exported : Bool

/-- A declaration with the occurrences that resolve to it. -/
structure Declaration where
  binder : Binder
  uses : List Occurrence

namespace Binder

/-- The declaration, where it is visible in a tree with the given free occurrences. -/
def inRegion (region : List Occurrence) (b : Binder) : Declaration :=
  ⟨b, region.filter fun o => o.name = b.name⟩

end Binder

namespace Stmt

/-- What a statement declares from behind it on. -/
def binders (topLevel : Bool) : Stmt → List Binder
  | imports i => i.names.map fun name => ⟨name, i.span, topLevel, false⟩
  | var decl => [⟨decl.name, decl.span, topLevel, decl.exported⟩]
  | _ => []

/-- The function that a statement declares, which is visible in its whole block. -/
def hoisted? (topLevel : Bool) : Stmt → Option Binder
  | function signature _ => some ⟨signature.name, signature.span, topLevel, signature.exported⟩
  | _ => none

theorem map_name_binders (topLevel : Bool) (stmt : Stmt) :
    (stmt.binders topLevel).map Binder.name = stmt.introducedNames := by
  cases stmt with
  | imports i => simp [binders, introducedNames, Function.comp_def]
  | _ => rfl

theorem map_name_hoisted? (topLevel : Bool) (stmts : List Stmt) :
    (stmts.filterMap (hoisted? topLevel)).map Binder.name = stmts.filterMap hoistedName? := by
  rw [List.map_filterMap]
  congr 1
  funext stmt
  cases stmt <;> rfl

end Stmt

/-- A declaration that is never exported and not at top level: a parameter, what a pattern
binds, or an initializer. -/
def Binder.inner (name : String) (span : Span) : Binder := ⟨name, span, false, false⟩

namespace Param

def binder (p : Param) : Binder := .inner p.name p.span

end Param

namespace Pattern

def binders (p : Pattern) : List Binder := p.boundNames.map fun name => .inner name p.span

theorem map_name_binders (p : Pattern) : p.binders.map Binder.name = p.boundNames := by
  simp [binders, Function.comp_def, Binder.inner]

theorem nodup_binders (p : Pattern) : (p.binders.map Binder.name).Nodup := by
  rw [map_name_binders]
  cases p with
  | variant _ _ _ binding _ => cases binding <;> simp [boundNames]
  | _ => simp [boundNames]

end Pattern

namespace Declarations

/-- What the statements of a block declare behind themselves. -/
def introduced (topLevel : Bool) : List Stmt → List Declaration
  | [] => []
  | stmt :: rest =>
    (stmt.binders topLevel).map (Binder.inRegion (free (Sites.ofStmts [] rest))) ++
      introduced topLevel rest

/-- What the statements of a block declare in its scope, the functions first. -/
def ofScope (topLevel : Bool) (stmts : List Stmt) : List Declaration :=
  (stmts.filterMap (Stmt.hoisted? topLevel)).map
      (Binder.inRegion (free (Sites.ofStmts [] stmts))) ++
    introduced topLevel stmts

mutual

/-- The declarations inside an expression, in the order in which their scopes end. -/
def ofExpr : Expr → List Declaration
  | .identifier .. | .int .. | .string .. | .bool .. => []
  | .interpolated parts _ _ => ofParts parts
  | .binary _ left right _ => ofExpr left ++ ofExpr right
  | .unary _ operand _ => ofExpr operand
  | .call callee args _ => ofExpr callee ++ ofExprs args
  | .conditional c => ofConditional c
  | .matching m => ofMatch m
  | .construct _ fields _ => ofFieldInits fields
  | .update target fields _ => ofExpr target ++ ofFieldInits fields
  | .variant _ _ _ payload _ => ofOptional payload
  | .block b => ofBlock b

def ofExprs : List Expr → List Declaration
  | [] => []
  | e :: rest => ofExpr e ++ ofExprs rest

def ofOptional : Option Expr → List Declaration
  | none => []
  | some e => ofExpr e

def ofParts : List Part → List Declaration
  | [] => []
  | .text .. :: rest => ofParts rest
  | .embedded e _ :: rest => ofExpr e ++ ofParts rest

def ofFieldInits : List FieldInit → List Declaration
  | [] => []
  | { name := _, value, span := _ } :: rest => ofExpr value ++ ofFieldInits rest

def ofConditional : Conditional → List Declaration
  | { initializer, condition, consequence, alternative, span := _ } =>
    ofInitializer initializer ++ (ofExpr condition ++ ofBlock consequence ++
      ofOtherwise alternative) ++
      initializer.toList.map fun decl => (Binder.inner decl.name decl.span).inRegion
        (free (Sites.ofExpr [] condition) ++ free (Sites.ofBlock [] consequence) ++
          free (Sites.ofOtherwise [] alternative))

def ofInitializer : Option VarDecl → List Declaration
  | none => []
  | some decl => ofVar decl

def ofOtherwise : Otherwise → List Declaration
  | .block b => ofBlock b
  | .elseIf c => ofConditional c

def ofMatch : Match → List Declaration
  | { value, arms, span := _ } => ofExpr value ++ ofArms arms

def ofArms : List Arm → List Declaration
  | [] => []
  | arm :: rest => ofArm arm ++ ofArms rest

def ofArm : Arm → List Declaration
  | { pattern, guard, body, span := _ } =>
    ofPattern pattern ++ (ofOptional guard ++ ofExpr body) ++
      pattern.binders.map (Binder.inRegion
        (free (Sites.ofOptional [] guard) ++ free (Sites.ofExpr [] body)))

def ofPattern : Pattern → List Declaration
  | .literal value _ => ofExpr value
  | .wildcard _ | .variant .. => []

def ofBlock : Block → List Declaration
  | { body, span := _ } => ofStmts body ++ ofScope false body

/-- The declarations inside the statements, without their own. -/
def ofStmts : List Stmt → List Declaration
  | [] => []
  | stmt :: rest => ofStmt stmt ++ ofStmts rest

def ofVar : VarDecl → List Declaration
  | { name := _, mutable := _, ascription := _, value, exported := _, span := _ } => ofExpr value

def ofStmt : Stmt → List Declaration
  | .imports _ | .struct _ | .enum _ => []
  | .var decl => ofVar decl
  | .function signature body =>
    ofBlock body ++
      signature.params.map fun p => p.binder.inRegion (free (Sites.ofBlock [] body))
  | .print _ args _ => ofExprs args
  | .returns value _ => ofOptional value
  | .expr value _ => ofExpr value

end

end Declarations

namespace Module

/-- The declarations of a module, in the order in which their scopes end. -/
def declarations (m : Module) : List Declaration :=
  Declarations.ofStmts m.body ++ Declarations.ofScope true m.body

end Module

/-! Scopes in which no name is declared twice. -/

namespace Node

/-- The scope that the node opens, if it opens one, does not declare a name twice.  An arm or an
initializer declares at most one name. -/
def DeclaresOnce : Node → Prop
  | module m => (m.body.flatMap Stmt.declaredNames).Nodup
  | block b => (b.body.flatMap Stmt.declaredNames).Nodup
  | function signature => (signature.params.map Param.name).Nodup
  | _ => True

instance : DecidablePred DeclaresOnce
  | module m => inferInstanceAs (Decidable (m.body.flatMap Stmt.declaredNames).Nodup)
  | block b => inferInstanceAs (Decidable (b.body.flatMap Stmt.declaredNames).Nodup)
  | function signature => inferInstanceAs (Decidable (signature.params.map Param.name).Nodup)
  | imports _ | var _ | param _ | struct _ | field _ | enum _ | variant _ | print .. | returns ..
  | exprStmt _ | type _ | expr _ | part _ | alternative _ | arm _ | pattern _ | fieldInit _ =>
    isTrue trivial

end Node

/-- No scope among the nodes declares a name twice. -/
def Once (nodes : List Node) : Prop := ∀ node ∈ nodes, node.DeclaresOnce

theorem once_append {first second : List Node} :
    Once (first ++ second) ↔ Once first ∧ Once second := by
  simp [Once, or_imp, forall_and]

theorem once_cons {node : Node} {rest : List Node} :
    Once (node :: rest) ↔ node.DeclaresOnce ∧ Once rest := by
  simp [Once]

namespace Module

/-- No scope of the module declares a name twice. -/
def DeclaresOnce (m : Module) : Prop := Once (Outline.ofModule m)

instance (m : Module) : Decidable m.DeclaresOnce :=
  inferInstanceAs (Decidable (∀ node ∈ Outline.ofModule m, node.DeclaresOnce))

end Module

/-- The names of a block are those of its functions and those introduced on the way. -/
theorem perm_declaredNames (stmts : List Stmt) :
    (stmts.flatMap Stmt.declaredNames).Perm
      (stmts.filterMap Stmt.hoistedName? ++ stmts.flatMap Stmt.introducedNames) := by
  induction stmts with
  | nil => exact .refl _
  | cons stmt rest ih =>
    cases stmt with
    | function signature body => exact ih.cons _
    | imports i =>
      refine (ih.append_left i.names).trans ?_
      simp only [List.flatMap_cons, Stmt.introducedNames, ← List.append_assoc]
      exact List.perm_append_comm.append_right _
    | var decl => exact (ih.cons decl.name).trans List.perm_middle.symm
    | _ => exact ih

/-! Where no scope declares a name twice, the declarations of a tree account for all of its
occurrences and for everything that its nodes declare. -/

/-- The name and the place of a declaration. -/
def Binder.key (b : Binder) : String × Span := (b.name, b.span)

namespace Node

/-- The names that a node declares, with their places. -/
def declares : Node → List (String × Span)
  | imports i => i.names.map fun name => (name, i.span)
  | var decl => [(decl.name, decl.span)]
  | function signature => [(signature.name, signature.span)]
  | param p => [(p.name, p.span)]
  | pattern p => p.boundNames.map fun name => (name, p.span)
  | _ => []

end Node

/-- Of what the nodes declare, `ds` have their uses and `pending` are still visible behind the
nodes; every occurrence among the nodes is free in them or a use. -/
structure Tallies (nodes : List Node) (open_ : List Occurrence) (ds : List Declaration)
    (pending : List Binder) : Prop where
  occurrences : (Outline.occurrences nodes).Perm (open_ ++ ds.flatMap Declaration.uses)
  declared : (nodes.flatMap Node.declares).Perm
    ((ds.map Declaration.binder ++ pending).map Binder.key)
  named : ∀ d ∈ ds, ∀ o ∈ d.uses, o.name = d.binder.name

/-- Of the occurrences in a region, some are uses of the names that are visible in it, and the
others have other names. -/
theorem perm_inRegion {binders : List Binder} (distinct : (binders.map Binder.name).Nodup)
    (region : List Occurrence) :
    region.Perm (without (binders.map Binder.name) region ++
      (binders.map (Binder.inRegion region)).flatMap Declaration.uses) := by
  induction binders with
  | nil => simp
  | cons b rest ih =>
    rw [List.map_cons, List.nodup_cons] at distinct
    have others := ih distinct.2
    have own : (without (rest.map Binder.name) region).filter (fun o => o.name = b.name) =
        (b.inRegion region).uses := by
      simp only [without, List.filter_filter, Binder.inRegion]
      refine List.filter_congr fun o _ => ?_
      by_cases named : o.name = b.name <;> simp [named, distinct.1]
    have apart :
        (without (rest.map Binder.name) region).filter (fun o => !(o.name = b.name : Bool)) =
          without ((b :: rest).map Binder.name) region := by
      simp only [without, List.filter_filter]
      refine List.filter_congr fun o _ => ?_
      by_cases named : o.name = b.name <;> simp [named]
    -- Since no other binder has the name of `b`, its uses are still there after the others'.
    have split := List.filter_append_perm (fun o : Occurrence => (o.name = b.name : Bool))
      (without (rest.map Binder.name) region)
    rw [own, apart] at split
    refine List.perm_iff_count.mpr fun o => ?_
    have one := others.count_eq o
    have two := split.count_eq o
    simp only [List.map_cons, List.flatMap_cons, List.count_append] at *
    omega

/-- What resolves to a declaration has its name. -/
theorem named_inRegion (binders : List Binder) (region : List Occurrence) :
    ∀ d ∈ binders.map (Binder.inRegion region), ∀ o ∈ d.uses, o.name = d.binder.name := by
  refine List.forall_mem_map.mpr fun b _ o member => ?_
  exact of_decide_eq_true (List.mem_filter.mp member).2

namespace Tallies

variable {nodes nodes' : List Node} {xs ys : List Occurrence} {ds ds' : List Declaration}
  {introduced hoisted hoisted' : List Binder}

theorem nil : Tallies [] [] [] [] := ⟨.refl _, .refl _, by simp⟩

/-- A node that neither is an occurrence nor declares anything. -/
theorem skip {node : Node} (plain : node.occurrence? = none) (silent : node.declares = [])
    (rest : Tallies nodes xs ds hoisted) : Tallies (node :: nodes) xs ds hoisted where
  occurrences := by rw [Outline.occurrences_cons plain]; exact rest.occurrences
  declared := by rw [List.flatMap_cons, silent]; exact rest.declared
  named := rest.named

/-- Behind some nodes others in which part of what the first declare is visible. -/
theorem seq (first : Tallies nodes xs ds (introduced ++ hoisted))
    (second : Tallies nodes' ys ds' hoisted')
    (distinct : (introduced.map Binder.name).Nodup) :
    Tallies (nodes ++ nodes') (xs ++ without (introduced.map Binder.name) ys)
      (ds ++ ds' ++ introduced.map (Binder.inRegion ys)) (hoisted ++ hoisted') where
  occurrences := by
    refine List.perm_iff_count.mpr fun o => ?_
    have one := first.occurrences.count_eq o
    have two := second.occurrences.count_eq o
    have split := (perm_inRegion distinct ys).count_eq o
    simp only [Outline.occurrences_append, List.count_append, List.flatMap_append] at *
    omega
  declared := by
    refine List.perm_iff_count.mpr fun k => ?_
    have one := first.declared.count_eq k
    have two := second.declared.count_eq k
    have same : (introduced.map (Binder.inRegion ys)).map Declaration.binder = introduced := by
      simp [Function.comp_def, Binder.inRegion]
    simp only [List.flatMap_append, List.map_append, List.count_append, same] at *
    omega
  named := List.forall_mem_append.mpr
    ⟨List.forall_mem_append.mpr ⟨first.named, second.named⟩, named_inRegion introduced ys⟩

theorem append (first : Tallies nodes xs ds []) (second : Tallies nodes' ys ds' hoisted) :
    Tallies (nodes ++ nodes') (xs ++ ys) (ds ++ ds') hoisted := by
  have nothing : Tallies nodes xs ds ([] ++ []) := first
  simpa using nothing.seq second List.nodup_nil

/-- At the end of a block its functions have their uses. -/
theorem close (inside : Tallies nodes xs ds hoisted) (distinct : (hoisted.map Binder.name).Nodup) :
    Tallies nodes (without (hoisted.map Binder.name) xs)
      (ds ++ hoisted.map (Binder.inRegion xs)) [] where
  occurrences := by
    refine List.perm_iff_count.mpr fun o => ?_
    have one := inside.occurrences.count_eq o
    have split := (perm_inRegion distinct xs).count_eq o
    simp only [List.count_append, List.flatMap_append] at *
    omega
  declared := by
    simpa [Function.comp_def, Binder.inRegion] using inside.declared
  named := List.forall_mem_append.mpr ⟨inside.named, named_inRegion hoisted xs⟩

theorem perm (tallies : Tallies nodes xs ds hoisted) (same : ds.Perm ds') :
    Tallies nodes xs ds' hoisted where
  occurrences := tallies.occurrences.trans ((same.flatMap_right _).append_left _)
  declared := tallies.declared.trans (((same.map _).append_right _).map _)
  named := fun d member => tallies.named d (same.mem_iff.mpr member)

/-- At the end of its statements a block accounts for what it declares. -/
theorem closeScope {topLevel : Bool} {stmts : List Stmt}
    (inside : Tallies nodes (free (Sites.ofStmts [] stmts))
      (ds ++ Declarations.introduced topLevel stmts) (stmts.filterMap (Stmt.hoisted? topLevel)))
    (distinct : (stmts.flatMap Stmt.declaredNames).Nodup) :
    Tallies nodes (without (stmts.filterMap Stmt.hoistedName?) (free (Sites.ofStmts [] stmts)))
      (ds ++ Declarations.ofScope topLevel stmts) [] := by
  have apart := (List.nodup_append.mp ((perm_declaredNames stmts).nodup_iff.mp distinct)).1
  rw [← Stmt.map_name_hoisted? topLevel] at apart ⊢
  refine (inside.close apart).perm ?_
  rw [List.append_assoc, Declarations.ofScope]
  exact List.perm_append_comm.append_left ds

/-- Nodes without an expression. -/
theorem of_none (others : ∀ e, .expr e ∉ nodes)
    (declared : (nodes.flatMap Node.declares).Perm (hoisted.map Binder.key)) :
    Tallies nodes [] [] hoisted where
  occurrences := by rw [Outline.occurrences_eq_nil others]; exact .refl _
  declared := declared
  named := by simp

end Tallies

/-! What a tree without expressions declares. -/

namespace Outline

theorem declares_ofType (t : Option TypeExpr) : (ofType t).flatMap Node.declares = [] := by
  cases t <;> rfl

theorem declares_ofSignature (s : Signature) :
    (ofSignature s).flatMap Node.declares =
      (s.name, s.span) :: s.params.map fun p => (p.name, p.span) := by
  simp only [ofSignature, List.cons_append, List.flatMap_cons, List.flatMap_append,
    List.flatMap_assoc, declares_ofType, List.append_nil]
  exact congrArg _ List.map_eq_flatMap.symm

theorem declares_ofStruct (decl : StructDecl) : (ofStruct decl).flatMap Node.declares = [] := by
  simp [ofStruct, Node.declares, declares_ofType, List.flatMap_assoc]

theorem declares_ofEnum (decl : EnumDecl) : (ofEnum decl).flatMap Node.declares = [] := by
  simp [ofEnum, Node.declares, declares_ofType, List.flatMap_assoc]

end Outline

theorem Stmt.introducedNames_sublist (stmt : Stmt) :
    stmt.introducedNames.Sublist stmt.declaredNames := by
  cases stmt with
  | function signature body => exact List.nil_sublist _
  | _ => exact .refl _

/-! The trees. -/

open Sites (free_conditional free_arm free_block free_cons free_function)

mutual

theorem tallies_expr : (e : Expr) → Once (Outline.ofExpr e) →
    Tallies (Outline.ofExpr e) (free (Sites.ofExpr [] e)) (Declarations.ofExpr e) []
  | .identifier .., _ | .int .., _ | .string .., _ | .bool .., _ => by
    rw [Outline.ofExpr, Sites.ofExpr, Declarations.ofExpr]
    exact ⟨.refl _, .refl _, by simp⟩
  | .interpolated parts _ _, once => by
    simp only [Outline.ofExpr, once_cons] at once ⊢
    rw [Sites.ofExpr, Declarations.ofExpr]
    exact .skip rfl rfl (tallies_parts parts once.2)
  | .binary _ left right _, once => by
    simp only [Outline.ofExpr, once_cons, once_append] at once ⊢
    rw [Sites.ofExpr, Declarations.ofExpr, free_append]
    exact .append (.skip rfl rfl (tallies_expr left once.1.2)) (tallies_expr right once.2)
  | .unary _ operand _, once => by
    simp only [Outline.ofExpr, once_cons] at once ⊢
    rw [Sites.ofExpr, Declarations.ofExpr]
    exact .skip rfl rfl (tallies_expr operand once.2)
  | .call callee args _, once => by
    simp only [Outline.ofExpr, once_cons, once_append] at once ⊢
    rw [Sites.ofExpr, Declarations.ofExpr, free_append]
    exact .append (.skip rfl rfl (tallies_expr callee once.1.2)) (tallies_exprs args once.2)
  | .conditional k, once => by
    simp only [Outline.ofExpr, once_cons] at once ⊢
    rw [Sites.ofExpr, Declarations.ofExpr]
    exact .skip rfl rfl (tallies_conditional k once.2)
  | .matching m, once => by
    simp only [Outline.ofExpr, once_cons] at once ⊢
    rw [Sites.ofExpr, Declarations.ofExpr]
    exact .skip rfl rfl (tallies_match m once.2)
  | .construct _ fields _, once => by
    simp only [Outline.ofExpr, once_cons] at once ⊢
    rw [Sites.ofExpr, Declarations.ofExpr]
    exact .skip rfl rfl (tallies_fields fields once.2)
  | .update target fields _, once => by
    simp only [Outline.ofExpr, once_cons, once_append] at once ⊢
    rw [Sites.ofExpr, Declarations.ofExpr, free_append]
    exact .append (.skip rfl rfl (tallies_expr target once.1.2)) (tallies_fields fields once.2)
  | .variant _ _ _ payload _, once => by
    simp only [Outline.ofExpr, once_cons] at once ⊢
    rw [Sites.ofExpr, Declarations.ofExpr]
    exact .skip rfl rfl (tallies_optional payload once.2)
  | .block b, once => by
    simp only [Outline.ofExpr, once_cons] at once ⊢
    rw [Sites.ofExpr, Declarations.ofExpr]
    exact .skip rfl rfl (tallies_block b once.2)

theorem tallies_exprs : (es : List Expr) → Once (Outline.ofExprs es) →
    Tallies (Outline.ofExprs es) (free (Sites.ofExprs [] es)) (Declarations.ofExprs es) []
  | [], _ => by rw [Outline.ofExprs, Sites.ofExprs, Declarations.ofExprs]; exact .nil
  | e :: rest, once => by
    rw [Outline.ofExprs, once_append] at once
    rw [Outline.ofExprs, Sites.ofExprs, Declarations.ofExprs, free_append]
    exact .append (tallies_expr e once.1) (tallies_exprs rest once.2)

theorem tallies_optional : (e : Option Expr) → Once (Outline.ofOptional e) →
    Tallies (Outline.ofOptional e) (free (Sites.ofOptional [] e)) (Declarations.ofOptional e) []
  | none, _ => by
    rw [Outline.ofOptional, Sites.ofOptional, Declarations.ofOptional]
    exact .nil
  | some e, once => by
    rw [Outline.ofOptional] at once ⊢
    rw [Sites.ofOptional, Declarations.ofOptional]
    exact tallies_expr e once

theorem tallies_parts : (parts : List Part) → Once (Outline.ofParts parts) →
    Tallies (Outline.ofParts parts) (free (Sites.ofParts [] parts))
      (Declarations.ofParts parts) []
  | [], _ => by rw [Outline.ofParts, Sites.ofParts, Declarations.ofParts]; exact .nil
  | .text .. :: rest, once => by
    simp only [Outline.ofParts, Outline.ofPart, once_append] at once ⊢
    rw [Sites.ofParts, Declarations.ofParts]
    exact .skip rfl rfl (tallies_parts rest once.2)
  | .embedded e _ :: rest, once => by
    simp only [Outline.ofParts, Outline.ofPart, once_cons, once_append] at once ⊢
    rw [Sites.ofParts, Declarations.ofParts, free_append]
    exact .append (.skip rfl rfl (tallies_expr e once.1.2)) (tallies_parts rest once.2)

theorem tallies_fields : (fields : List FieldInit) → Once (Outline.ofFieldInits fields) →
    Tallies (Outline.ofFieldInits fields) (free (Sites.ofFieldInits [] fields))
      (Declarations.ofFieldInits fields) []
  | [], _ => by
    rw [Outline.ofFieldInits, Sites.ofFieldInits, Declarations.ofFieldInits]
    exact .nil
  | ⟨_, value, _⟩ :: rest, once => by
    simp only [Outline.ofFieldInits, Outline.ofFieldInit, once_cons, once_append] at once ⊢
    rw [Sites.ofFieldInits, Declarations.ofFieldInits, free_append]
    exact .append (.skip rfl rfl (tallies_expr value once.1.2)) (tallies_fields rest once.2)

theorem tallies_conditional : (k : Conditional) → Once (Outline.ofConditional k) →
    Tallies (Outline.ofConditional k) (free (Sites.ofConditional [] k))
      (Declarations.ofConditional k) []
  | ⟨initializer, condition, consequence, alternative, _⟩, once => by
    simp only [Outline.ofConditional, once_append] at once ⊢
    rcases once with ⟨⟨⟨atInitializer, atCondition⟩, atConsequence⟩, atAlternative⟩
    have branches := ((tallies_expr condition atCondition).append
      (tallies_block consequence atConsequence)).append
      (tallies_otherwise alternative atAlternative)
    have distinct : ((initializer.toList.map fun decl =>
        Binder.inner decl.name decl.span).map Binder.name).Nodup := by
      cases initializer <;> simp
    have whole := (tallies_initializer initializer atInitializer).seq branches distinct
    rw [free_conditional, Declarations.ofConditional]
    simpa [Function.comp_def, Binder.inner] using whole

theorem tallies_initializer : (decl : Option VarDecl) → Once (Outline.ofInitializer decl) →
    Tallies (Outline.ofInitializer decl) (free (Sites.ofInitializer [] decl))
      (Declarations.ofInitializer decl)
      ((decl.toList.map fun decl => Binder.inner decl.name decl.span) ++ [])
  | none, _ => by
    rw [Outline.ofInitializer, Sites.ofInitializer, Declarations.ofInitializer]
    exact .nil
  | some decl, once => by
    rw [Outline.ofInitializer] at once ⊢
    rw [Sites.ofInitializer, Declarations.ofInitializer]
    exact tallies_var decl once (Binder.inner decl.name decl.span) rfl

theorem tallies_otherwise : (alternative : Otherwise) → Once (Outline.ofOtherwise alternative) →
    Tallies (Outline.ofOtherwise alternative) (free (Sites.ofOtherwise [] alternative))
      (Declarations.ofOtherwise alternative) []
  | .block b, once => by
    simp only [Outline.ofOtherwise, once_cons] at once ⊢
    rw [Sites.ofOtherwise, Declarations.ofOtherwise]
    exact .skip rfl rfl (tallies_block b once.2)
  | .elseIf k, once => by
    simp only [Outline.ofOtherwise, once_cons] at once ⊢
    rw [Sites.ofOtherwise, Declarations.ofOtherwise]
    exact .skip rfl rfl (tallies_conditional k once.2)

theorem tallies_match : (m : Match) → Once (Outline.ofMatch m) →
    Tallies (Outline.ofMatch m) (free (Sites.ofMatch [] m)) (Declarations.ofMatch m) []
  | ⟨value, arms, _⟩, once => by
    rw [Outline.ofMatch, once_append] at once
    rw [Outline.ofMatch, Sites.ofMatch, Declarations.ofMatch, free_append]
    exact .append (tallies_expr value once.1) (tallies_arms arms once.2)

theorem tallies_arms : (arms : List Arm) → Once (Outline.ofArms arms) →
    Tallies (Outline.ofArms arms) (free (Sites.ofArms [] arms)) (Declarations.ofArms arms) []
  | [], _ => by rw [Outline.ofArms, Sites.ofArms, Declarations.ofArms]; exact .nil
  | arm :: rest, once => by
    rw [Outline.ofArms, once_append] at once
    rw [Outline.ofArms, Sites.ofArms, Declarations.ofArms, free_append]
    exact .append (tallies_arm arm once.1) (tallies_arms rest once.2)

theorem tallies_arm : (arm : Arm) → Once (Outline.ofArm arm) →
    Tallies (Outline.ofArm arm) (free (Sites.ofArm [] arm)) (Declarations.ofArm arm) []
  | ⟨pattern, guard, body, span⟩, once => by
    simp only [Outline.ofArm, once_cons, once_append] at once ⊢
    rcases once with ⟨⟨⟨_, atPattern⟩, atGuard⟩, atBody⟩
    have parts := (tallies_optional guard atGuard).append (tallies_expr body atBody)
    have opened : Tallies (.arm ⟨pattern, guard, body, span⟩ :: Outline.ofPattern pattern)
        (free (Sites.ofPattern [] pattern)) (Declarations.ofPattern pattern)
        (pattern.binders ++ []) :=
      .skip rfl rfl (tallies_pattern pattern atPattern)
    have whole := opened.seq parts pattern.nodup_binders
    rw [pattern.map_name_binders] at whole
    rw [free_arm, Declarations.ofArm, List.append_assoc]
    exact whole

theorem tallies_pattern : (pattern : Pattern) → Once (Outline.ofPattern pattern) →
    Tallies (Outline.ofPattern pattern) (free (Sites.ofPattern [] pattern))
      (Declarations.ofPattern pattern) (pattern.binders ++ [])
  | .wildcard _, _ => by
    rw [Outline.ofPattern, Sites.ofPattern, Declarations.ofPattern]
    exact .skip rfl rfl .nil
  | .literal value _, once => by
    simp only [Outline.ofPattern, once_cons] at once ⊢
    rw [Sites.ofPattern, Declarations.ofPattern]
    exact .skip rfl rfl (tallies_expr value once.2)
  | .variant _ _ _ binding _, _ => by
    rw [Outline.ofPattern, Sites.ofPattern, Declarations.ofPattern]
    exact .of_none (by simp) (.of_eq (by
      simp [Node.declares, Pattern.binders, Binder.key, Binder.inner, Pattern.span,
        Function.comp_def]))

theorem tallies_block : (b : Block) → Once (Outline.ofBlock b) →
    Tallies (Outline.ofBlock b) (free (Sites.ofBlock [] b)) (Declarations.ofBlock b) []
  | ⟨body, _⟩, once => by
    simp only [Outline.ofBlock, once_cons] at once ⊢
    rw [free_block, Declarations.ofBlock]
    exact .skip rfl rfl ((tallies_stmts false body once.2 once.1).closeScope once.1)

theorem tallies_stmts (topLevel : Bool) : (stmts : List Stmt) → Once (Outline.ofStmts stmts) →
    (stmts.flatMap Stmt.declaredNames).Nodup →
      Tallies (Outline.ofStmts stmts) (free (Sites.ofStmts [] stmts))
        (Declarations.ofStmts stmts ++ Declarations.introduced topLevel stmts)
        (stmts.filterMap (Stmt.hoisted? topLevel))
  | [], _, _ => by rw [Outline.ofStmts, Sites.ofStmts, Declarations.ofStmts]; exact .nil
  | stmt :: rest, once, distinct => by
    rw [Outline.ofStmts, once_append] at once
    rw [List.flatMap_cons, List.nodup_append] at distinct
    rw [Outline.ofStmts, free_cons, Declarations.ofStmts, Declarations.introduced]
    have apart : ((stmt.binders topLevel).map Binder.name).Nodup := by
      rw [Stmt.map_name_binders]
      exact distinct.1.sublist stmt.introducedNames_sublist
    have whole := (tallies_stmt topLevel stmt once.1).seq
      (tallies_stmts topLevel rest once.2 distinct.2.1) apart
    rw [Stmt.map_name_binders] at whole
    have pending : (stmt.hoisted? topLevel).toList ++ rest.filterMap (Stmt.hoisted? topLevel) =
        (stmt :: rest).filterMap (Stmt.hoisted? topLevel) := by
      cases stmt <;> rfl
    rw [pending] at whole
    refine whole.perm ?_
    simp only [List.append_assoc]
    exact (List.perm_append_comm.append_left _).append_left _

theorem tallies_var : (decl : VarDecl) → Once (Outline.ofVar decl) → (binder : Binder) →
    binder.key = (decl.name, decl.span) →
      Tallies (Outline.ofVar decl) (free (Sites.ofVar [] decl)) (Declarations.ofVar decl) [binder]
  | ⟨name, mutable, ascription, value, exported, span⟩, once, binder, key => by
    simp only [Outline.ofVar, once_cons, once_append] at once ⊢
    rw [Sites.ofVar, Declarations.ofVar]
    have opened : Tallies (.var ⟨name, mutable, ascription, value, exported, span⟩ ::
        Outline.ofType ascription) [] [] ([] ++ [binder]) :=
      .of_none (by simp [Outline.not_mem_ofType]) (.of_eq (by
        rw [List.flatMap_cons, Outline.declares_ofType, List.nil_append, List.map_singleton, key]
        rfl))
    simpa using opened.seq (tallies_expr value once.2) List.nodup_nil

theorem tallies_stmt (topLevel : Bool) : (stmt : Stmt) → Once (Outline.ofStmt stmt) →
    Tallies (Outline.ofStmt stmt) (free (Sites.ofStmt [] stmt)) (Declarations.ofStmt stmt)
      (stmt.binders topLevel ++ (stmt.hoisted? topLevel).toList)
  | .imports i, _ => by
    rw [Outline.ofStmt, Sites.ofStmt, Declarations.ofStmt]
    exact .of_none (by simp) (.of_eq (by
      simp [Node.declares, Stmt.binders, Stmt.hoisted?, Binder.key, Function.comp_def]))
  | .struct decl, _ => by
    rw [Outline.ofStmt, Sites.ofStmt, Declarations.ofStmt]
    exact .of_none (Outline.not_mem_ofStruct decl) (by rw [Outline.declares_ofStruct]; exact .nil)
  | .enum decl, _ => by
    rw [Outline.ofStmt, Sites.ofStmt, Declarations.ofStmt]
    exact .of_none (Outline.not_mem_ofEnum decl) (by rw [Outline.declares_ofEnum]; exact .nil)
  | .var decl, once => by
    rw [Outline.ofStmt] at once ⊢
    rw [Sites.ofStmt, Declarations.ofStmt]
    exact tallies_var decl once _ rfl
  | .function signature body, once => by
    simp only [Outline.ofStmt, once_append] at once ⊢
    rw [free_function, Declarations.ofStmt]
    have distinct := once.1 (.function signature) (by simp [Outline.ofSignature])
    have named : (signature.params.map Param.binder).map Binder.name =
        signature.params.map Param.name := by
      simp [Function.comp_def, Param.binder, Binder.inner]
    have opened : Tallies (Outline.ofSignature signature) [] []
        (signature.params.map Param.binder ++
          [⟨signature.name, signature.span, topLevel, signature.exported⟩]) := by
      refine .of_none (Outline.not_mem_ofSignature signature) ?_
      rw [Outline.declares_ofSignature]
      simpa [Function.comp_def, Param.binder, Binder.inner, Binder.key] using
        (List.perm_append_singleton _ _).symm
    have whole := opened.seq (tallies_block body once.2) (by rw [named]; exact distinct)
    rw [named, List.map_map] at whole
    exact whole
  | .print _ args _, once => by
    simp only [Outline.ofStmt, once_cons] at once ⊢
    rw [Sites.ofStmt, Declarations.ofStmt]
    exact .skip rfl rfl (tallies_exprs args once.2)
  | .returns value _, once => by
    simp only [Outline.ofStmt, once_cons] at once ⊢
    rw [Sites.ofStmt, Declarations.ofStmt]
    exact .skip rfl rfl (tallies_optional value once.2)
  | .expr value _, once => by
    simp only [Outline.ofStmt, once_cons] at once ⊢
    rw [Sites.ofStmt, Declarations.ofStmt]
    exact .skip rfl rfl (tallies_expr value once.2)

end

/-- The declarations of a module account for its occurrences and for all that it declares. -/
theorem Module.tallies {m : Module} (once : m.DeclaresOnce) :
    Tallies (Outline.ofModule m) (free (Sites.ofModule m)) m.declarations [] := by
  rcases once_cons.mp once with ⟨distinct, inside⟩
  rw [Sites.ofModule, Sites.free_ofStmts]
  exact .skip rfl rfl ((tallies_stmts true m.body inside distinct).closeScope distinct)

end ModuleCheck
