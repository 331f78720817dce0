import Mathlib.Logic.Embedding.Basic
import ModuleCheck.Checker.Arms

namespace ModuleCheck

/-!
Relabelled trees.

A relabelling moves the spans of a tree and renames its values: identifiers, variables,
functions, parameters, imports and what patterns bind.  Structs, enums, variants and fields
keep their names.  Neither the shape of a tree nor what the arms of a match are about depends
on labels.
-/

/-- A map of spans and an injective map of the names of values. -/
structure Relabelling where
  spans : Span → Span
  names : String ↪ String

namespace Relabelling

/-- The relabelling that changes nothing. -/
def identity : Relabelling := ⟨id, .refl String⟩

variable (l : Relabelling)

def type : TypeExpr → TypeExpr
  | .any span => .any (l.spans span)
  | .named name span => .named name (l.spans span)

def param (p : Param) : Param :=
  ⟨l.names p.name, p.ascription.map l.type, l.spans p.span⟩

def signature (s : Signature) : Signature :=
  ⟨l.names s.name, s.params.map l.param, s.result.map l.type, s.exported, l.spans s.span⟩

def field (decl : FieldDecl) : FieldDecl :=
  ⟨decl.name, decl.ascription.map l.type, l.spans decl.span⟩

def struct (decl : StructDecl) : StructDecl :=
  ⟨decl.name, decl.fields.map l.field, l.spans decl.span⟩

def variant (decl : VariantDecl) : VariantDecl :=
  ⟨decl.name, decl.payloadField, decl.payloadType.map l.type, l.spans decl.span⟩

def enum (decl : EnumDecl) : EnumDecl :=
  ⟨decl.name, decl.variants.map l.variant, l.spans decl.span⟩

def imports (i : Import) : Import := ⟨i.origin, i.names.map l.names, l.spans i.span⟩

mutual

def expr : Expr → Expr
  | .identifier name span => .identifier (l.names name) (l.spans span)
  | .int value span => .int value (l.spans span)
  | .string value span => .string value (l.spans span)
  | .bool value span => .bool value (l.spans span)
  | .interpolated pieces raw span => .interpolated (parts pieces) raw (l.spans span)
  | .binary op left right span => .binary op (expr left) (expr right) (l.spans span)
  | .unary op operand span => .unary op (expr operand) (l.spans span)
  | .call callee args span => .call (expr callee) (exprs args) (l.spans span)
  | .conditional c => .conditional (conditional c)
  | .matching m => .matching (matching m)
  | .construct struct fields span => .construct struct (fieldInits fields) (l.spans span)
  | .update target fields span => .update (expr target) (fieldInits fields) (l.spans span)
  | .variant enum variant payloadField payload span =>
    .variant enum variant payloadField (optional payload) (l.spans span)
  | .block b => .block (block b)

def exprs : List Expr → List Expr
  | [] => []
  | e :: rest => expr e :: exprs rest

def optional : Option Expr → Option Expr
  | none => none
  | some e => some (expr e)

def parts : List Part → List Part
  | [] => []
  | .text value span :: rest => .text value (l.spans span) :: parts rest
  | .embedded e span :: rest => .embedded (expr e) (l.spans span) :: parts rest

def fieldInits : List FieldInit → List FieldInit
  | [] => []
  | { name, value, span } :: rest => ⟨name, expr value, l.spans span⟩ :: fieldInits rest

def conditional : Conditional → Conditional
  | { initializer := decl, condition, consequence, alternative, span } =>
    ⟨initializer decl, expr condition, block consequence, otherwise alternative, l.spans span⟩

def initializer : Option VarDecl → Option VarDecl
  | none => none
  | some decl => some (var decl)

def otherwise : Otherwise → Otherwise
  | .block b => .block (block b)
  | .elseIf c => .elseIf (conditional c)

def matching : Match → Match
  | { value, arms := cases, span } => ⟨expr value, arms cases, l.spans span⟩

def arms : List Arm → List Arm
  | [] => []
  | case :: rest => arm case :: arms rest

def arm : Arm → Arm
  | { pattern := p, guard, body, span } =>
    ⟨pattern p, optional guard, expr body, l.spans span⟩

def pattern : Pattern → Pattern
  | .wildcard span => .wildcard (l.spans span)
  | .literal value span => .literal (expr value) (l.spans span)
  | .variant enum variant payloadField binding span =>
    .variant enum variant payloadField (binding.map l.names) (l.spans span)

def block : Block → Block
  | { body, span } => ⟨stmts body, l.spans span⟩

def stmts : List Stmt → List Stmt
  | [] => []
  | s :: rest => stmt s :: stmts rest

def var : VarDecl → VarDecl
  | { name, mutable, ascription, value, exported, span } =>
    ⟨l.names name, mutable, ascription.map l.type, expr value, exported, l.spans span⟩

def stmt : Stmt → Stmt
  | .imports i => .imports (l.imports i)
  | .var decl => .var (var decl)
  | .function s body => .function (l.signature s) (block body)
  | .struct decl => .struct (l.struct decl)
  | .enum decl => .enum (l.enum decl)
  | .print raw args span => .print raw (exprs args) (l.spans span)
  | .returns value span => .returns (optional value) (l.spans span)
  | .expr value span => .expr (expr value) (l.spans span)

end

def module (m : Module) : Module := ⟨l.stmts m.body⟩

/-! Spans and shapes. -/

section Shapes

attribute [local simp] expr optional fieldInits conditional otherwise matching arms arm pattern
  block stmts var stmt

@[simp]
theorem span_block (b : Block) : (l.block b).span = l.spans b.span := by
  cases b
  rw [block]

@[simp]
theorem span_conditional (c : Conditional) : (l.conditional c).span = l.spans c.span := by
  cases c
  rw [conditional]

@[simp]
theorem span_matching (m : Match) : (l.matching m).span = l.spans m.span := by
  cases m
  rw [matching]

@[simp]
theorem span_expr (e : Expr) : (l.expr e).span = l.spans e.span := by
  cases e <;> simp [Expr.span]

@[simp]
theorem span_otherwise (a : Otherwise) : (l.otherwise a).span = l.spans a.span := by
  cases a <;> simp [Otherwise.span]

@[simp]
theorem span_stmt (s : Stmt) : (l.stmt s).span = l.spans s.span := by
  cases s with
  | var decl =>
    cases decl
    simp [Stmt.span]
  | _ => simp [Stmt.span, imports, signature, struct, enum]

@[simp]
theorem isEffectful_expr (e : Expr) : (l.expr e).isEffectful = e.isEffectful := by
  cases e <;> simp [Expr.isEffectful]

@[simp]
theorem isEmpty_stmts (body : List Stmt) : (l.stmts body).isEmpty = body.isEmpty := by
  cases body <;> simp

@[simp]
theorem isSome_optional (e : Option Expr) : (l.optional e).isSome = e.isSome := by
  cases e <;> simp

@[simp]
theorem map_name_fieldInits (fields : List FieldInit) :
    (l.fieldInits fields).map FieldInit.name = fields.map FieldInit.name := by
  induction fields with
  | nil => simp
  | cons field rest ih =>
    cases field
    simp [ih]

/-! Arms. -/

theorem arms_eq_map (cases : List Arm) : l.arms cases = cases.map l.arm := by
  induction cases with
  | nil => rw [arms]; rfl
  | cons case rest ih => rw [arms, ih]; rfl

@[simp]
theorem span_arm (case : Arm) : (l.arm case).span = l.spans case.span := by
  cases case
  rw [arm]

@[simp]
theorem isGuarded_arm (case : Arm) : (l.arm case).isGuarded = case.isGuarded := by
  cases case
  simp [Arm.isGuarded]

@[simp]
theorem enum?_pattern_arm (case : Arm) : (l.arm case).pattern.enum? = case.pattern.enum? := by
  rcases case with ⟨p, guard, body, span⟩
  cases p <;> simp [Pattern.enum?]

@[simp]
theorem variantOf?_pattern_arm (enum : String) (case : Arm) :
    (l.arm case).pattern.variantOf? enum = case.pattern.variantOf? enum := by
  rcases case with ⟨p, guard, body, span⟩
  cases p <;> simp [Pattern.variantOf?]

@[simp]
theorem isCatchAll_arm (case : Arm) : (l.arm case).isCatchAll = case.isCatchAll := by
  rcases case with ⟨p, guard, body, span⟩
  cases p <;> simp [Arm.isCatchAll, Arm.isGuarded, Pattern.isWildcard]

theorem commonEnum?_arms (cases : List Arm) :
    Arms.commonEnum? (l.arms cases) = Arms.commonEnum? cases := by
  have same : (fun case : Arm => case.pattern.enum?) ∘ l.arm = fun case => case.pattern.enum? :=
    funext l.enum?_pattern_arm
  unfold Arms.commonEnum?
  rw [arms_eq_map, List.filterMap_map, same]

end Shapes

/-! The identity. -/

section Identity

@[simp]
theorem spans_identity (span : Span) : identity.spans span = span := rfl

@[simp]
theorem names_identity (name : String) : identity.names name = name := rfl

@[simp]
theorem map_type_identity (written : Option TypeExpr) :
    written.map identity.type = written := by
  cases written with
  | none => rfl
  | some t => cases t <;> rfl

theorem map_identity {α : Type} {f : α → α} (same : ∀ x, f x = x) (xs : List α) :
    xs.map f = xs :=
  (List.map_congr_left fun x _ => same x).trans (List.map_id xs)

theorem signature_identity (s : Signature) : identity.signature s = s := by
  have params : s.params.map identity.param = s.params :=
    map_identity (fun p => by simp [param]) s.params
  simp [signature, params]

theorem struct_identity (decl : StructDecl) : identity.struct decl = decl := by
  have fields : decl.fields.map identity.field = decl.fields :=
    map_identity (fun field => by simp [Relabelling.field]) decl.fields
  simp [struct, fields]

theorem enum_identity (decl : EnumDecl) : identity.enum decl = decl := by
  have variants : decl.variants.map identity.variant = decl.variants :=
    map_identity (fun variant => by simp [Relabelling.variant]) decl.variants
  simp [enum, variants]

theorem imports_identity (i : Import) : identity.imports i = i := by
  have names : i.names.map identity.names = i.names := map_identity (fun _ => rfl) i.names
  simp [imports, names]

mutual

theorem expr_identity : (e : Expr) → identity.expr e = e
  | .identifier .. | .int .. | .string .. | .bool .. => by simp [expr]
  | .interpolated pieces _ _ => by simp [expr, parts_identity pieces]
  | .binary _ left right _ => by simp [expr, expr_identity left, expr_identity right]
  | .unary _ operand _ => by simp [expr, expr_identity operand]
  | .call callee args _ => by simp [expr, expr_identity callee, exprs_identity args]
  | .conditional c => by simp [expr, conditional_identity c]
  | .matching m => by simp [expr, matching_identity m]
  | .construct _ fields _ => by simp [expr, fieldInits_identity fields]
  | .update target fields _ => by simp [expr, expr_identity target, fieldInits_identity fields]
  | .variant _ _ _ payload _ => by simp [expr, optional_identity payload]
  | .block b => by simp [expr, block_identity b]

theorem exprs_identity : (es : List Expr) → identity.exprs es = es
  | [] => by simp [exprs]
  | e :: rest => by simp [exprs, expr_identity e, exprs_identity rest]

theorem optional_identity : (e : Option Expr) → identity.optional e = e
  | none => by simp [optional]
  | some e => by simp [optional, expr_identity e]

theorem parts_identity : (pieces : List Part) → identity.parts pieces = pieces
  | [] => by simp [parts]
  | .text .. :: rest => by simp [parts, parts_identity rest]
  | .embedded e _ :: rest => by simp [parts, expr_identity e, parts_identity rest]

theorem fieldInits_identity : (fields : List FieldInit) → identity.fieldInits fields = fields
  | [] => by simp [fieldInits]
  | ⟨_, value, _⟩ :: rest => by
    simp [fieldInits, expr_identity value, fieldInits_identity rest]

theorem conditional_identity : (c : Conditional) → identity.conditional c = c
  | ⟨decl, condition, consequence, alternative, _⟩ => by
    simp [conditional, initializer_identity decl, expr_identity condition,
      block_identity consequence, otherwise_identity alternative]

theorem initializer_identity : (decl : Option VarDecl) → identity.initializer decl = decl
  | none => by simp [initializer]
  | some decl => by simp [initializer, var_identity decl]

theorem otherwise_identity : (a : Otherwise) → identity.otherwise a = a
  | .block b => by simp [otherwise, block_identity b]
  | .elseIf c => by simp [otherwise, conditional_identity c]

theorem matching_identity : (m : Match) → identity.matching m = m
  | ⟨value, cases, _⟩ => by simp [matching, expr_identity value, arms_identity cases]

theorem arms_identity : (cases : List Arm) → identity.arms cases = cases
  | [] => by simp [arms]
  | case :: rest => by simp [arms, arm_identity case, arms_identity rest]

theorem arm_identity : (case : Arm) → identity.arm case = case
  | ⟨p, guard, body, _⟩ => by
    simp [arm, pattern_identity p, optional_identity guard, expr_identity body]

theorem pattern_identity : (p : Pattern) → identity.pattern p = p
  | .wildcard _ => by simp [pattern]
  | .literal value _ => by simp [pattern, expr_identity value]
  | .variant _ _ _ binding _ => by cases binding <;> simp [pattern]

theorem block_identity : (b : Block) → identity.block b = b
  | ⟨body, _⟩ => by simp [block, stmts_identity body]

theorem stmts_identity : (body : List Stmt) → identity.stmts body = body
  | [] => by simp [stmts]
  | s :: rest => by simp [stmts, stmt_identity s, stmts_identity rest]

theorem var_identity : (decl : VarDecl) → identity.var decl = decl
  | ⟨_, _, _, value, _, _⟩ => by simp [var, expr_identity value]

theorem stmt_identity : (s : Stmt) → identity.stmt s = s
  | .imports i => by simp [stmt, imports_identity]
  | .var decl => by simp [stmt, var_identity decl]
  | .function s body => by simp [stmt, signature_identity, block_identity body]
  | .struct decl => by simp [stmt, struct_identity]
  | .enum decl => by simp [stmt, enum_identity]
  | .print _ args _ => by simp [stmt, exprs_identity args]
  | .returns value _ => by simp [stmt, optional_identity value]
  | .expr value _ => by simp [stmt, expr_identity value]

end

theorem module_identity (m : Module) : identity.module m = m := by
  simp [module, stmts_identity]

end Identity

end Relabelling

end ModuleCheck
