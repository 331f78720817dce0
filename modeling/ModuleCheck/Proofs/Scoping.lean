import ModuleCheck.Proofs.Coverage

namespace ModuleCheck

/-!
Lexical scoping.

Every identifier expression of a tree is a site: an occurrence of a name together with the
names that are visible where it stands.  A function is visible in its whole block, or in the
whole module at top level; a variable or an import from behind its declaration to the end of
its block; a parameter in the body of its function; what a pattern binds in the guard and the
body of its arm; and the initializer of an if expression in its condition and both branches.
An occurrence is free where its name is not visible.
-/

/-- A name used as an expression, and where. -/
structure Occurrence where
  name : String
  span : Span
deriving DecidableEq

/-- An occurrence with the names that are visible at it. -/
structure Site where
  occurrence : Occurrence
  visible : List String

namespace Site

def isFree (site : Site) : Bool := site.occurrence.name ∉ site.visible

/-- The site in a tree around which more names are visible. -/
def within (outer : List String) (site : Site) : Site :=
  { site with visible := site.visible ++ outer }

end Site

namespace Stmt

/-- The names that are visible behind a statement and not in front of it. -/
def introducedNames : Stmt → List String
  | imports i => i.names
  | var decl => [decl.name]
  | _ => []

end Stmt

namespace Sites

mutual

/-- The sites of an expression around which the given names are visible, in the order of the
visit. -/
def ofExpr (visible : List String) : Expr → List Site
  | .identifier name span => [⟨⟨name, span⟩, visible⟩]
  | .int .. | .string .. | .bool .. => []
  | .interpolated parts _ _ => ofParts visible parts
  | .binary _ left right _ => ofExpr visible left ++ ofExpr visible right
  | .unary _ operand _ => ofExpr visible operand
  | .call callee args _ => ofExpr visible callee ++ ofExprs visible args
  | .conditional c => ofConditional visible c
  | .matching m => ofMatch visible m
  | .construct _ fields _ => ofFieldInits visible fields
  | .update target fields _ => ofExpr visible target ++ ofFieldInits visible fields
  | .variant _ _ _ payload _ => ofOptional visible payload
  | .block b => ofBlock visible b

def ofExprs (visible : List String) : List Expr → List Site
  | [] => []
  | e :: rest => ofExpr visible e ++ ofExprs visible rest

def ofOptional (visible : List String) : Option Expr → List Site
  | none => []
  | some e => ofExpr visible e

def ofParts (visible : List String) : List Part → List Site
  | [] => []
  | .text .. :: rest => ofParts visible rest
  | .embedded e _ :: rest => ofExpr visible e ++ ofParts visible rest

def ofFieldInits (visible : List String) : List FieldInit → List Site
  | [] => []
  | { name := _, value, span := _ } :: rest => ofExpr visible value ++ ofFieldInits visible rest

/-- The initializer is not visible in its own value. -/
def ofConditional (visible : List String) : Conditional → List Site
  | { initializer, condition, consequence, alternative, span := _ } =>
    ofInitializer visible initializer ++
      (ofExpr (initializer.toList.map VarDecl.name ++ visible) condition ++
        ofBlock (initializer.toList.map VarDecl.name ++ visible) consequence ++
        ofOtherwise (initializer.toList.map VarDecl.name ++ visible) alternative)

def ofInitializer (visible : List String) : Option VarDecl → List Site
  | none => []
  | some decl => ofVar visible decl

def ofOtherwise (visible : List String) : Otherwise → List Site
  | .block b => ofBlock visible b
  | .elseIf c => ofConditional visible c

def ofMatch (visible : List String) : Match → List Site
  | { value, arms, span := _ } => ofExpr visible value ++ ofArms visible arms

def ofArms (visible : List String) : List Arm → List Site
  | [] => []
  | arm :: rest => ofArm visible arm ++ ofArms visible rest

def ofArm (visible : List String) : Arm → List Site
  | { pattern, guard, body, span := _ } =>
    ofPattern visible pattern ++
      (ofOptional (pattern.boundNames ++ visible) guard ++
        ofExpr (pattern.boundNames ++ visible) body)

def ofPattern (visible : List String) : Pattern → List Site
  | .literal value _ => ofExpr visible value
  | .wildcard _ | .variant .. => []

/-- The functions of a block are visible in all of it. -/
def ofBlock (visible : List String) : Block → List Site
  | { body, span := _ } => ofStmts (body.filterMap Stmt.hoistedName? ++ visible) body

def ofStmts (visible : List String) : List Stmt → List Site
  | [] => []
  | stmt :: rest => ofStmt visible stmt ++ ofStmts (stmt.introducedNames ++ visible) rest

def ofVar (visible : List String) : VarDecl → List Site
  | { name := _, mutable := _, ascription := _, value, exported := _, span := _ } =>
    ofExpr visible value

def ofStmt (visible : List String) : Stmt → List Site
  | .imports _ | .struct _ | .enum _ => []
  | .var decl => ofVar visible decl
  | .function signature body => ofBlock (signature.params.map Param.name ++ visible) body
  | .print _ args _ => ofExprs visible args
  | .returns value _ => ofOptional visible value
  | .expr value _ => ofExpr visible value

end

/-- The sites of a module. -/
def ofModule (m : Module) : List Site :=
  ofStmts (m.body.filterMap Stmt.hoistedName?) m.body

/-! The names visible around a tree are visible at each of its sites, behind those that the
tree itself declares, and make no other difference. -/

mutual

theorem ofExpr_append (inner outer : List String) : (e : Expr) →
    ofExpr (inner ++ outer) e = (ofExpr inner e).map (Site.within outer)
  | .identifier .. => by simp only [ofExpr]; rfl
  | .int .. | .string .. | .bool .. => by simp only [ofExpr]; rfl
  | .interpolated parts _ _ => by simp only [ofExpr, ofParts_append inner outer parts]
  | .binary _ left right _ => by
    simp only [ofExpr, List.map_append, ofExpr_append inner outer left,
      ofExpr_append inner outer right]
  | .unary _ operand _ => by simp only [ofExpr, ofExpr_append inner outer operand]
  | .call callee args _ => by
    simp only [ofExpr, List.map_append, ofExpr_append inner outer callee,
      ofExprs_append inner outer args]
  | .conditional c => by simp only [ofExpr, ofConditional_append inner outer c]
  | .matching m => by simp only [ofExpr, ofMatch_append inner outer m]
  | .construct _ fields _ => by simp only [ofExpr, ofFieldInits_append inner outer fields]
  | .update target fields _ => by
    simp only [ofExpr, List.map_append, ofExpr_append inner outer target,
      ofFieldInits_append inner outer fields]
  | .variant _ _ _ payload _ => by simp only [ofExpr, ofOptional_append inner outer payload]
  | .block b => by simp only [ofExpr, ofBlock_append inner outer b]

theorem ofExprs_append (inner outer : List String) : (es : List Expr) →
    ofExprs (inner ++ outer) es = (ofExprs inner es).map (Site.within outer)
  | [] => by simp only [ofExprs]; rfl
  | e :: rest => by
    simp only [ofExprs, List.map_append, ofExpr_append inner outer e,
      ofExprs_append inner outer rest]

theorem ofOptional_append (inner outer : List String) : (e : Option Expr) →
    ofOptional (inner ++ outer) e = (ofOptional inner e).map (Site.within outer)
  | none => by simp only [ofOptional]; rfl
  | some e => by simp only [ofOptional, ofExpr_append inner outer e]

theorem ofParts_append (inner outer : List String) : (parts : List Part) →
    ofParts (inner ++ outer) parts = (ofParts inner parts).map (Site.within outer)
  | [] => by simp only [ofParts]; rfl
  | .text .. :: rest => by simp only [ofParts, ofParts_append inner outer rest]
  | .embedded e _ :: rest => by
    simp only [ofParts, List.map_append, ofExpr_append inner outer e,
      ofParts_append inner outer rest]

theorem ofFieldInits_append (inner outer : List String) : (fields : List FieldInit) →
    ofFieldInits (inner ++ outer) fields = (ofFieldInits inner fields).map (Site.within outer)
  | [] => by simp only [ofFieldInits]; rfl
  | ⟨_, value, _⟩ :: rest => by
    simp only [ofFieldInits, List.map_append, ofExpr_append inner outer value,
      ofFieldInits_append inner outer rest]

theorem ofConditional_append (inner outer : List String) : (c : Conditional) →
    ofConditional (inner ++ outer) c = (ofConditional inner c).map (Site.within outer)
  | ⟨initializer, condition, consequence, alternative, _⟩ => by
    simp only [ofConditional, List.map_append, ofInitializer_append inner outer initializer,
      ← List.append_assoc, ofExpr_append _ outer condition,
      ofBlock_append _ outer consequence, ofOtherwise_append _ outer alternative]

theorem ofInitializer_append (inner outer : List String) : (decl : Option VarDecl) →
    ofInitializer (inner ++ outer) decl = (ofInitializer inner decl).map (Site.within outer)
  | none => by simp only [ofInitializer]; rfl
  | some decl => by simp only [ofInitializer, ofVar_append inner outer decl]

theorem ofOtherwise_append (inner outer : List String) : (alternative : Otherwise) →
    ofOtherwise (inner ++ outer) alternative =
      (ofOtherwise inner alternative).map (Site.within outer)
  | .block b => by simp only [ofOtherwise, ofBlock_append inner outer b]
  | .elseIf c => by simp only [ofOtherwise, ofConditional_append inner outer c]

theorem ofMatch_append (inner outer : List String) : (m : Match) →
    ofMatch (inner ++ outer) m = (ofMatch inner m).map (Site.within outer)
  | ⟨value, arms, _⟩ => by
    simp only [ofMatch, List.map_append, ofExpr_append inner outer value,
      ofArms_append inner outer arms]

theorem ofArms_append (inner outer : List String) : (arms : List Arm) →
    ofArms (inner ++ outer) arms = (ofArms inner arms).map (Site.within outer)
  | [] => by simp only [ofArms]; rfl
  | arm :: rest => by
    simp only [ofArms, List.map_append, ofArm_append inner outer arm,
      ofArms_append inner outer rest]

theorem ofArm_append (inner outer : List String) : (arm : Arm) →
    ofArm (inner ++ outer) arm = (ofArm inner arm).map (Site.within outer)
  | ⟨pattern, guard, body, _⟩ => by
    simp only [ofArm, List.map_append, ofPattern_append inner outer pattern,
      ← List.append_assoc, ofOptional_append _ outer guard, ofExpr_append _ outer body]

theorem ofPattern_append (inner outer : List String) : (pattern : Pattern) →
    ofPattern (inner ++ outer) pattern = (ofPattern inner pattern).map (Site.within outer)
  | .literal value _ => by simp only [ofPattern, ofExpr_append inner outer value]
  | .wildcard _ | .variant .. => by simp only [ofPattern]; rfl

theorem ofBlock_append (inner outer : List String) : (b : Block) →
    ofBlock (inner ++ outer) b = (ofBlock inner b).map (Site.within outer)
  | ⟨body, _⟩ => by
    simp only [ofBlock, ← List.append_assoc, ofStmts_append _ outer body]

theorem ofStmts_append (inner outer : List String) : (stmts : List Stmt) →
    ofStmts (inner ++ outer) stmts = (ofStmts inner stmts).map (Site.within outer)
  | [] => by simp only [ofStmts]; rfl
  | stmt :: rest => by
    simp only [ofStmts, List.map_append, ofStmt_append inner outer stmt, ← List.append_assoc,
      ofStmts_append _ outer rest]

theorem ofVar_append (inner outer : List String) : (decl : VarDecl) →
    ofVar (inner ++ outer) decl = (ofVar inner decl).map (Site.within outer)
  | ⟨_, _, _, value, _, _⟩ => by simp only [ofVar, ofExpr_append inner outer value]

theorem ofStmt_append (inner outer : List String) : (stmt : Stmt) →
    ofStmt (inner ++ outer) stmt = (ofStmt inner stmt).map (Site.within outer)
  | .imports _ | .struct _ | .enum _ => by simp only [ofStmt]; rfl
  | .var decl => by simp only [ofStmt, ofVar_append inner outer decl]
  | .function signature body => by
    simp only [ofStmt, ← List.append_assoc, ofBlock_append _ outer body]
  | .print _ args _ => by simp only [ofStmt, ofExprs_append inner outer args]
  | .returns value _ => by simp only [ofStmt, ofOptional_append inner outer value]
  | .expr value _ => by simp only [ofStmt, ofExpr_append inner outer value]

end

end Sites

namespace Node

/-- The occurrence that a node is, if it is an identifier expression. -/
def occurrence? : Node → Option Occurrence
  | expr (.identifier name span) => some ⟨name, span⟩
  | _ => none

end Node

namespace Outline

/-- The identifier expressions among the nodes of an outline. -/
def occurrences (nodes : List Node) : List Occurrence := nodes.filterMap Node.occurrence?

@[simp]
theorem occurrences_append (first second : List Node) :
    occurrences (first ++ second) = occurrences first ++ occurrences second :=
  List.filterMap_append

theorem occurrences_cons {node : Node} (other : node.occurrence? = none) (rest : List Node) :
    occurrences (node :: rest) = occurrences rest :=
  List.filterMap_cons_none other

/-- Nodes without an expression hold no occurrence. -/
theorem occurrences_eq_nil {nodes : List Node} (others : ∀ e, .expr e ∉ nodes) :
    occurrences nodes = [] := by
  refine List.filterMap_eq_nil_iff.mpr fun node member => ?_
  cases node with
  | expr e => exact absurd member (others e)
  | _ => rfl

end Outline

namespace Sites

open Outline (occurrences occurrences_append occurrences_cons occurrences_eq_nil)

/-! The sites of a tree are its identifier expressions, each once, in the order of its
outline. -/

mutual

theorem map_ofExpr (visible : List String) : (e : Expr) →
    (ofExpr visible e).map Site.occurrence = occurrences (Outline.ofExpr e)
  | .identifier .. => by simp only [ofExpr, Outline.ofExpr]; rfl
  | .int .. | .string .. | .bool .. => by simp only [ofExpr, Outline.ofExpr]; rfl
  | .interpolated parts _ _ => by
    rw [ofExpr, Outline.ofExpr, map_ofParts visible parts, occurrences_cons rfl]
  | .binary _ left right _ => by
    rw [ofExpr, Outline.ofExpr, List.map_append, map_ofExpr visible left,
      map_ofExpr visible right, List.cons_append, occurrences_cons rfl, occurrences_append]
  | .unary _ operand _ => by
    rw [ofExpr, Outline.ofExpr, map_ofExpr visible operand, occurrences_cons rfl]
  | .call callee args _ => by
    rw [ofExpr, Outline.ofExpr, List.map_append, map_ofExpr visible callee,
      map_ofExprs visible args, List.cons_append, occurrences_cons rfl, occurrences_append]
  | .conditional c => by
    rw [ofExpr, Outline.ofExpr, map_ofConditional visible c, occurrences_cons rfl]
  | .matching m => by
    rw [ofExpr, Outline.ofExpr, map_ofMatch visible m, occurrences_cons rfl]
  | .construct _ fields _ => by
    rw [ofExpr, Outline.ofExpr, map_ofFieldInits visible fields, occurrences_cons rfl]
  | .update target fields _ => by
    rw [ofExpr, Outline.ofExpr, List.map_append, map_ofExpr visible target,
      map_ofFieldInits visible fields, List.cons_append, occurrences_cons rfl,
      occurrences_append]
  | .variant _ _ _ payload _ => by
    rw [ofExpr, Outline.ofExpr, map_ofOptional visible payload, occurrences_cons rfl]
  | .block b => by
    rw [ofExpr, Outline.ofExpr, map_ofBlock visible b, occurrences_cons rfl]

theorem map_ofExprs (visible : List String) : (es : List Expr) →
    (ofExprs visible es).map Site.occurrence = occurrences (Outline.ofExprs es)
  | [] => by simp only [ofExprs, Outline.ofExprs]; rfl
  | e :: rest => by
    rw [ofExprs, Outline.ofExprs, List.map_append, map_ofExpr visible e,
      map_ofExprs visible rest, occurrences_append]

theorem map_ofOptional (visible : List String) : (e : Option Expr) →
    (ofOptional visible e).map Site.occurrence = occurrences (Outline.ofOptional e)
  | none => by simp only [ofOptional, Outline.ofOptional]; rfl
  | some e => by rw [ofOptional, Outline.ofOptional, map_ofExpr visible e]

theorem map_ofParts (visible : List String) : (parts : List Part) →
    (ofParts visible parts).map Site.occurrence = occurrences (Outline.ofParts parts)
  | [] => by simp only [ofParts, Outline.ofParts]; rfl
  | .text .. :: rest => by
    rw [ofParts, Outline.ofParts, Outline.ofPart, map_ofParts visible rest]
    rfl
  | .embedded e _ :: rest => by
    rw [ofParts, Outline.ofParts, Outline.ofPart, List.map_append, map_ofExpr visible e,
      map_ofParts visible rest, List.cons_append, occurrences_cons rfl, occurrences_append]

theorem map_ofFieldInits (visible : List String) : (fields : List FieldInit) →
    (ofFieldInits visible fields).map Site.occurrence =
      occurrences (Outline.ofFieldInits fields)
  | [] => by simp only [ofFieldInits, Outline.ofFieldInits]; rfl
  | ⟨_, value, _⟩ :: rest => by
    rw [ofFieldInits, Outline.ofFieldInits, Outline.ofFieldInit, List.map_append,
      map_ofExpr visible value, map_ofFieldInits visible rest, List.cons_append,
      occurrences_cons rfl, occurrences_append]

theorem map_ofConditional (visible : List String) : (c : Conditional) →
    (ofConditional visible c).map Site.occurrence = occurrences (Outline.ofConditional c)
  | ⟨initializer, condition, consequence, alternative, _⟩ => by
    simp only [ofConditional, Outline.ofConditional, List.map_append,
      map_ofInitializer _ initializer, map_ofExpr _ condition, map_ofBlock _ consequence,
      map_ofOtherwise _ alternative, occurrences_append, List.append_assoc]

theorem map_ofInitializer (visible : List String) : (decl : Option VarDecl) →
    (ofInitializer visible decl).map Site.occurrence =
      occurrences (Outline.ofInitializer decl)
  | none => by simp only [ofInitializer, Outline.ofInitializer]; rfl
  | some decl => by rw [ofInitializer, Outline.ofInitializer, map_ofVar visible decl]

theorem map_ofOtherwise (visible : List String) : (alternative : Otherwise) →
    (ofOtherwise visible alternative).map Site.occurrence =
      occurrences (Outline.ofOtherwise alternative)
  | .block b => by
    rw [ofOtherwise, Outline.ofOtherwise, map_ofBlock visible b, occurrences_cons rfl]
  | .elseIf c => by
    rw [ofOtherwise, Outline.ofOtherwise, map_ofConditional visible c, occurrences_cons rfl]

theorem map_ofMatch (visible : List String) : (m : Match) →
    (ofMatch visible m).map Site.occurrence = occurrences (Outline.ofMatch m)
  | ⟨value, arms, _⟩ => by
    rw [ofMatch, Outline.ofMatch, List.map_append, map_ofExpr visible value,
      map_ofArms visible arms, occurrences_append]

theorem map_ofArms (visible : List String) : (arms : List Arm) →
    (ofArms visible arms).map Site.occurrence = occurrences (Outline.ofArms arms)
  | [] => by simp only [ofArms, Outline.ofArms]; rfl
  | arm :: rest => by
    rw [ofArms, Outline.ofArms, List.map_append, map_ofArm visible arm,
      map_ofArms visible rest, occurrences_append]

theorem map_ofArm (visible : List String) : (arm : Arm) →
    (ofArm visible arm).map Site.occurrence = occurrences (Outline.ofArm arm)
  | ⟨pattern, guard, body, _⟩ => by
    rw [Outline.ofArm, List.cons_append, List.cons_append, occurrences_cons rfl]
    simp only [ofArm, List.map_append, map_ofPattern _ pattern, map_ofOptional _ guard,
      map_ofExpr _ body, occurrences_append, List.append_assoc]

theorem map_ofPattern (visible : List String) : (pattern : Pattern) →
    (ofPattern visible pattern).map Site.occurrence =
      occurrences (Outline.ofPattern pattern)
  | .literal value _ => by
    rw [ofPattern, Outline.ofPattern, map_ofExpr visible value, occurrences_cons rfl]
  | .wildcard _ | .variant .. => by simp only [ofPattern, Outline.ofPattern]; rfl

theorem map_ofBlock (visible : List String) : (b : Block) →
    (ofBlock visible b).map Site.occurrence = occurrences (Outline.ofBlock b)
  | ⟨body, _⟩ => by
    rw [ofBlock, Outline.ofBlock, map_ofStmts _ body, occurrences_cons rfl]

theorem map_ofStmts (visible : List String) : (stmts : List Stmt) →
    (ofStmts visible stmts).map Site.occurrence = occurrences (Outline.ofStmts stmts)
  | [] => by simp only [ofStmts, Outline.ofStmts]; rfl
  | stmt :: rest => by
    rw [ofStmts, Outline.ofStmts, List.map_append, map_ofStmt visible stmt,
      map_ofStmts _ rest, occurrences_append]

theorem map_ofVar (visible : List String) : (decl : VarDecl) →
    (ofVar visible decl).map Site.occurrence = occurrences (Outline.ofVar decl)
  | ⟨_, _, _, value, _, _⟩ => by
    rw [ofVar, Outline.ofVar, map_ofExpr visible value, List.cons_append, occurrences_cons rfl,
      occurrences_append, occurrences_eq_nil (Outline.not_mem_ofType _), List.nil_append]

theorem map_ofStmt (visible : List String) : (stmt : Stmt) →
    (ofStmt visible stmt).map Site.occurrence = occurrences (Outline.ofStmt stmt)
  | .imports _ => by simp only [ofStmt, Outline.ofStmt]; rfl
  | .struct decl => by
    rw [ofStmt, Outline.ofStmt, occurrences_eq_nil (Outline.not_mem_ofStruct decl)]
    rfl
  | .enum decl => by
    rw [ofStmt, Outline.ofStmt, occurrences_eq_nil (Outline.not_mem_ofEnum decl)]
    rfl
  | .var decl => by rw [ofStmt, Outline.ofStmt, map_ofVar visible decl]
  | .function signature body => by
    rw [ofStmt, Outline.ofStmt, map_ofBlock _ body, occurrences_append,
      occurrences_eq_nil (Outline.not_mem_ofSignature signature), List.nil_append]
  | .print _ args _ => by
    rw [ofStmt, Outline.ofStmt, map_ofExprs visible args, occurrences_cons rfl]
  | .returns value _ => by
    rw [ofStmt, Outline.ofStmt, map_ofOptional visible value, occurrences_cons rfl]
  | .expr value _ => by
    rw [ofStmt, Outline.ofStmt, map_ofExpr visible value, occurrences_cons rfl]

end

theorem map_ofModule (m : Module) :
    (ofModule m).map Site.occurrence = occurrences (Outline.ofModule m) := by
  rw [ofModule, Outline.ofModule, map_ofStmts, occurrences_cons rfl]

end Sites

/-! Free occurrences. -/

/-- The free occurrences among the given sites. -/
def free (sites : List Site) : List Occurrence :=
  (sites.filter Site.isFree).map Site.occurrence

/-- The occurrences of other names than the given ones. -/
def without (names : List String) (occurrences : List Occurrence) : List Occurrence :=
  occurrences.filter fun occurrence => occurrence.name ∉ names

@[simp]
theorem free_nil : free [] = [] := rfl

@[simp]
theorem free_append (first second : List Site) :
    free (first ++ second) = free first ++ free second := by
  simp [free]

@[simp]
theorem without_nil (occurrences : List Occurrence) : without [] occurrences = occurrences := by
  simp [without]

theorem without_append (names : List String) (first second : List Occurrence) :
    without names (first ++ second) = without names first ++ without names second := by
  simp [without]

theorem mem_without {names : List String} {occurrences : List Occurrence} {o : Occurrence} :
    o ∈ without names occurrences ↔ o ∈ occurrences ∧ o.name ∉ names := by
  simp [without]

theorem mem_map_without {names : List String} {occurrences : List Occurrence} {name : String}
    (other : name ∉ names) :
    name ∈ (without names occurrences).map Occurrence.name ↔
      name ∈ occurrences.map Occurrence.name := by
  simp only [List.mem_map, mem_without]
  constructor
  · rintro ⟨o, ⟨member, _⟩, rfl⟩
    exact ⟨o, member, rfl⟩
  · rintro ⟨o, member, rfl⟩
    exact ⟨o, ⟨member, other⟩, rfl⟩

/-- What is free in a larger tree is what is free in the smaller one and not declared around
it. -/
theorem free_within (outer : List String) (sites : List Site) :
    free (sites.map (Site.within outer)) = without outer (free sites) := by
  induction sites with
  | nil => rfl
  | cons site rest ih =>
    simp only [free, without, List.map_cons, List.filter_cons, Site.isFree, Site.within,
      List.mem_append, not_or] at ih ⊢
    by_cases inner : site.occurrence.name ∈ site.visible <;>
      by_cases around : site.occurrence.name ∈ outer <;> simp_all

namespace Sites

theorem free_ofExpr (visible : List String) (e : Expr) :
    free (ofExpr visible e) = without visible (free (ofExpr [] e)) :=
  (congrArg free (ofExpr_append [] visible e)).trans (free_within _ _)

theorem free_ofOptional (visible : List String) (e : Option Expr) :
    free (ofOptional visible e) = without visible (free (ofOptional [] e)) :=
  (congrArg free (ofOptional_append [] visible e)).trans (free_within _ _)

theorem free_ofOtherwise (visible : List String) (alternative : Otherwise) :
    free (ofOtherwise visible alternative) = without visible (free (ofOtherwise [] alternative)) :=
  (congrArg free (ofOtherwise_append [] visible alternative)).trans (free_within _ _)

theorem free_ofBlock (visible : List String) (b : Block) :
    free (ofBlock visible b) = without visible (free (ofBlock [] b)) :=
  (congrArg free (ofBlock_append [] visible b)).trans (free_within _ _)

theorem free_ofStmts (visible : List String) (stmts : List Stmt) :
    free (ofStmts visible stmts) = without visible (free (ofStmts [] stmts)) :=
  (congrArg free (ofStmts_append [] visible stmts)).trans (free_within _ _)

/-- Of what is free in the condition and the branches, an initializer takes its own name. -/
theorem free_conditional (initializer : Option VarDecl) (condition : Expr)
    (consequence : Block) (alternative : Otherwise) (span : Span) :
    free (ofConditional [] ⟨initializer, condition, consequence, alternative, span⟩) =
      free (ofInitializer [] initializer) ++
        without (initializer.toList.map VarDecl.name)
          (free (ofExpr [] condition) ++ free (ofBlock [] consequence) ++
            free (ofOtherwise [] alternative)) := by
  simp only [ofConditional, free_append, without_append, List.append_nil]
  rw [free_ofExpr, free_ofBlock, free_ofOtherwise]

theorem free_arm (pattern : Pattern) (guard : Option Expr) (body : Expr) (span : Span) :
    free (ofArm [] ⟨pattern, guard, body, span⟩) =
      free (ofPattern [] pattern) ++
        without pattern.boundNames (free (ofOptional [] guard) ++ free (ofExpr [] body)) := by
  simp only [ofArm, free_append, without_append, List.append_nil]
  rw [free_ofOptional, free_ofExpr]

theorem free_block (body : List Stmt) (span : Span) :
    free (ofBlock [] ⟨body, span⟩) =
      without (body.filterMap Stmt.hoistedName?) (free (ofStmts [] body)) := by
  simp only [ofBlock, List.append_nil]
  exact free_ofStmts _ body

theorem free_cons (stmt : Stmt) (rest : List Stmt) :
    free (ofStmts [] (stmt :: rest)) =
      free (ofStmt [] stmt) ++ without stmt.introducedNames (free (ofStmts [] rest)) := by
  simp only [ofStmts, free_append, List.append_nil]
  rw [free_ofStmts]

theorem free_function (signature : Signature) (body : Block) :
    free (ofStmt [] (.function signature body)) =
      without (signature.params.map Param.name) (free (ofBlock [] body)) := by
  simp only [ofStmt, List.append_nil]
  exact free_ofBlock _ body

end Sites

end ModuleCheck
