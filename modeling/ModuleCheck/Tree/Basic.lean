import ModuleCheck.Source.Span
import ModuleCheck.Tree.Operator

namespace ModuleCheck

/-!
The syntax trees of modules.

Expressions and statements contain each other, since blocks are expressions whose value is
their trailing expression statement, so their types form one family.  What holds no
expression (written types, signatures, type declarations) stands in front of it.
-/

/-- A type as it is written in the source. -/
inductive TypeExpr where
  | any (span : Span)
  | named (name : String) (span : Span)

namespace TypeExpr

def span : TypeExpr → Span
  | any span => span
  | named _ span => span

end TypeExpr

/-- A parameter of a function. -/
structure Param where
  name : String
  ascription : Option TypeExpr
  span : Span

/-- What a function declaration says apart from its body. -/
structure Signature where
  name : String
  params : List Param
  result : Option TypeExpr
  exported : Bool
  span : Span

/-- A field of a struct declaration. -/
structure FieldDecl where
  name : String
  ascription : Option TypeExpr
  span : Span

structure StructDecl where
  name : String
  fields : List FieldDecl
  span : Span

/-- A variant of an enum declaration.  It carries a payload when it names a payload field; a
payload type without a field is written but means nothing. -/
structure VariantDecl where
  name : String
  payloadField : Option String
  payloadType : Option TypeExpr
  span : Span

structure EnumDecl where
  name : String
  variants : List VariantDecl
  span : Span

/-- The names that a module takes from another one. -/
structure Import where
  origin : String
  names : List String
  span : Span

mutual

inductive Expr where
  | identifier (name : String) (span : Span)
  | int (value : Int) (span : Span)
  | string (value : String) (span : Span)
  | bool (value : Bool) (span : Span)
  | interpolated (parts : List Part) (raw : Bool) (span : Span)
  | binary (op : BinaryOp) (left right : Expr) (span : Span)
  | unary (op : UnaryOp) (operand : Expr) (span : Span)
  | call (callee : Expr) (args : List Expr) (span : Span)
  | conditional (c : Conditional)
  | matching (m : Match)
  /-- A struct literal. -/
  | construct (struct : String) (fields : List FieldInit) (span : Span)
  /-- A copy of a struct with some fields replaced. -/
  | update (target : Expr) (fields : List FieldInit) (span : Span)
  /-- An enum literal. -/
  | variant (enum variant : String) (payloadField : Option String) (payload : Option Expr)
      (span : Span)
  | block (b : Block)

/-- A piece of an interpolated string. -/
inductive Part where
  | text (value : String) (span : Span)
  | embedded (expr : Expr) (span : Span)

/-- An if expression.  Its initializer is visible in the condition and in both branches. -/
structure Conditional where
  initializer : Option VarDecl
  condition : Expr
  consequence : Block
  alternative : Otherwise
  span : Span

inductive Otherwise where
  | block (b : Block)
  | elseIf (c : Conditional)

structure Match where
  value : Expr
  arms : List Arm
  span : Span

structure Arm where
  pattern : Pattern
  guard : Option Expr
  body : Expr
  span : Span

inductive Pattern where
  | wildcard (span : Span)
  | literal (value : Expr) (span : Span)
  | variant (enum variant : String) (payloadField binding : Option String) (span : Span)

/-- A value for a field, in a struct literal or update. -/
structure FieldInit where
  name : String
  value : Expr
  span : Span

/-- A sequence of statements with a scope of its own. -/
structure Block where
  body : List Stmt
  span : Span

/-- A variable declaration, as a statement or in front of an if condition. -/
structure VarDecl where
  name : String
  mutable : Bool
  ascription : Option TypeExpr
  value : Expr
  exported : Bool
  span : Span

inductive Stmt where
  | imports (i : Import)
  | var (decl : VarDecl)
  | function (signature : Signature) (body : Block)
  | struct (decl : StructDecl)
  | enum (decl : EnumDecl)
  | print (raw : Bool) (args : List Expr) (span : Span)
  | returns (value : Option Expr) (span : Span)
  | expr (value : Expr) (span : Span)

end

/-- A module: its top-level statements in order. -/
structure Module where
  body : List Stmt

namespace Expr

def span : Expr → Span
  | identifier _ span | int _ span | string _ span | bool _ span => span
  | interpolated _ _ span => span
  | binary _ _ _ span => span
  | unary _ _ span => span
  | call _ _ span => span
  | conditional c => c.span
  | matching m => m.span
  | construct _ _ span => span
  | update _ _ span => span
  | variant _ _ _ _ span => span
  | block b => b.span

/-- Whether the expression may act or steer control, so that it may stand as a statement whose
value is not used. -/
def isEffectful : Expr → Bool
  | call .. | conditional _ | matching _ | block _ => true
  | _ => false

theorem isEffectful_iff (e : Expr) :
    e.isEffectful = true ↔
      (∃ callee args span, e = call callee args span) ∨ (∃ c, e = conditional c) ∨
        (∃ m, e = matching m) ∨ ∃ b, e = block b := by
  cases e <;> simp [isEffectful]

end Expr

namespace Part

def span : Part → Span
  | text _ span => span
  | embedded _ span => span

end Part

namespace Otherwise

def span : Otherwise → Span
  | block b => b.span
  | elseIf c => c.span

end Otherwise

namespace Pattern

def span : Pattern → Span
  | wildcard span => span
  | literal _ span => span
  | variant _ _ _ _ span => span

def isWildcard : Pattern → Bool
  | wildcard _ => true
  | _ => false

end Pattern

namespace Arm

def isGuarded (arm : Arm) : Bool := arm.guard.isSome

/-- Whether the arm takes every value that reaches it. -/
def isCatchAll (arm : Arm) : Bool := arm.pattern.isWildcard && !arm.isGuarded

end Arm

namespace Stmt

def span : Stmt → Span
  | imports i => i.span
  | var decl => decl.span
  | function signature _ => signature.span
  | struct decl => decl.span
  | enum decl => decl.span
  | print _ _ span => span
  | returns _ span => span
  | expr _ span => span

end Stmt

end ModuleCheck
