import ModuleCheck.Tree.Basic

namespace ModuleCheck

/-!
The outline of a module: its nodes in preorder, each parent in front of its children and the
children in the order in which they are written.
-/

/-- A node of a syntax tree. -/
inductive Node where
  | module (m : Module)
  | imports (i : Import)
  | var (decl : VarDecl)
  | function (signature : Signature)
  | param (p : Param)
  | struct (decl : StructDecl)
  | field (decl : FieldDecl)
  | enum (decl : EnumDecl)
  | variant (decl : VariantDecl)
  | print (raw : Bool) (span : Span)
  | returns (hasValue : Bool) (span : Span)
  | exprStmt (span : Span)
  | type (t : TypeExpr)
  | block (b : Block)
  | expr (e : Expr)
  | part (p : Part)
  | alternative (a : Otherwise)
  | arm (a : Arm)
  | pattern (p : Pattern)
  | fieldInit (f : FieldInit)

namespace Node

def span : Node → Span
  | module _ => Span.null
  | imports i => i.span
  | var decl => decl.span
  | function signature => signature.span
  | param p => p.span
  | struct decl => decl.span
  | field decl => decl.span
  | enum decl => decl.span
  | variant decl => decl.span
  | print _ span => span
  | returns _ span => span
  | exprStmt span => span
  | type t => t.span
  | block b => b.span
  | expr e => e.span
  | part p => p.span
  | alternative a => a.span
  | arm a => a.span
  | pattern p => p.span
  | fieldInit f => f.span

end Node

namespace Outline

def ofType (t : Option TypeExpr) : List Node := (t.map Node.type).toList

def ofSignature (s : Signature) : List Node :=
  .function s :: s.params.flatMap (fun p => .param p :: ofType p.ascription) ++ ofType s.result

def ofStruct (decl : StructDecl) : List Node :=
  .struct decl :: decl.fields.flatMap fun field => .field field :: ofType field.ascription

def ofEnum (decl : EnumDecl) : List Node :=
  .enum decl ::
    decl.variants.flatMap fun variant => .variant variant :: ofType variant.payloadType

mutual

def ofExpr : Expr → List Node
  | .interpolated parts raw span => .expr (.interpolated parts raw span) :: ofParts parts
  | .binary op left right span =>
    .expr (.binary op left right span) :: ofExpr left ++ ofExpr right
  | .unary op operand span => .expr (.unary op operand span) :: ofExpr operand
  | .call callee args span => .expr (.call callee args span) :: ofExpr callee ++ ofExprs args
  | .conditional c => .expr (.conditional c) :: ofConditional c
  | .matching m => .expr (.matching m) :: ofMatch m
  | .construct struct fields span =>
    .expr (.construct struct fields span) :: ofFieldInits fields
  | .update target fields span =>
    .expr (.update target fields span) :: ofExpr target ++ ofFieldInits fields
  | .variant enum variant payloadField payload span =>
    .expr (.variant enum variant payloadField payload span) :: ofOptional payload
  | .block b => .expr (.block b) :: ofBlock b
  | .identifier name span => [.expr (.identifier name span)]
  | .int value span => [.expr (.int value span)]
  | .string value span => [.expr (.string value span)]
  | .bool value span => [.expr (.bool value span)]

def ofExprs : List Expr → List Node
  | [] => []
  | e :: rest => ofExpr e ++ ofExprs rest

def ofOptional : Option Expr → List Node
  | none => []
  | some e => ofExpr e

def ofParts : List Part → List Node
  | [] => []
  | part :: rest => ofPart part ++ ofParts rest

def ofPart : Part → List Node
  | .text value span => [.part (.text value span)]
  | .embedded expr span => .part (.embedded expr span) :: ofExpr expr

/-- The parts of an if expression.  A chained one adds its own parts behind the node of the
alternative and no expression node. -/
def ofConditional : Conditional → List Node
  | { initializer, condition, consequence, alternative, span := _ } =>
    ofInitializer initializer ++ ofExpr condition ++ ofBlock consequence ++
      ofOtherwise alternative

def ofInitializer : Option VarDecl → List Node
  | none => []
  | some decl => ofVar decl

def ofOtherwise : Otherwise → List Node
  | .block b => .alternative (.block b) :: ofBlock b
  | .elseIf c => .alternative (.elseIf c) :: ofConditional c

def ofMatch : Match → List Node
  | { value, arms, span := _ } => ofExpr value ++ ofArms arms

def ofArms : List Arm → List Node
  | [] => []
  | arm :: rest => ofArm arm ++ ofArms rest

def ofArm : Arm → List Node
  | { pattern, guard, body, span } =>
    .arm { pattern, guard, body, span } :: ofPattern pattern ++ ofOptional guard ++ ofExpr body

def ofPattern : Pattern → List Node
  | .wildcard span => [.pattern (.wildcard span)]
  | .literal value span => .pattern (.literal value span) :: ofExpr value
  | .variant enum variant payloadField binding span =>
    [.pattern (.variant enum variant payloadField binding span)]

def ofFieldInits : List FieldInit → List Node
  | [] => []
  | field :: rest => ofFieldInit field ++ ofFieldInits rest

def ofFieldInit : FieldInit → List Node
  | { name, value, span } => .fieldInit { name, value, span } :: ofExpr value

def ofBlock : Block → List Node
  | { body, span } => .block { body, span } :: ofStmts body

def ofStmts : List Stmt → List Node
  | [] => []
  | stmt :: rest => ofStmt stmt ++ ofStmts rest

def ofVar : VarDecl → List Node
  | { name, mutable, ascription, value, exported, span } =>
    .var { name, mutable, ascription, value, exported, span } :: ofType ascription ++ ofExpr value

def ofStmt : Stmt → List Node
  | .imports i => [.imports i]
  | .var decl => ofVar decl
  | .function signature body => ofSignature signature ++ ofBlock body
  | .struct decl => ofStruct decl
  | .enum decl => ofEnum decl
  | .print raw args span => .print raw span :: ofExprs args
  | .returns value span => .returns value.isSome span :: ofOptional value
  | .expr value span => .exprStmt span :: ofExpr value

end

/-- The nodes of a module, the module itself first. -/
def ofModule (m : Module) : List Node := .module m :: ofStmts m.body

end Outline

end ModuleCheck
