import ModuleCheck.Checker.Arms
import ModuleCheck.Checker.Basic
import ModuleCheck.Checker.Rules

namespace ModuleCheck

/-!
Visits of expressions, statements and blocks.

A visit walks a tree once, in the order in which it would be evaluated, opens and closes the
scopes of its blocks, and reports what the rules find.  Every part is visited, also those that
follow an error or can never run.
-/

namespace Check

/-- Declares the functions among `stmts` ahead of their visit, so that calls may precede
declarations.  Their written types are reported on only when they are visited. -/
def hoist (topLevel : Bool) : List Stmt → Check Unit
  | [] => pure ()
  | .function signature _ :: rest => do
    let registry ← registry
    let params := signature.params.map fun param => (registry.resolve param.ascription).value
    let result := (registry.resolve signature.result).value
    declare signature.name (.fn params result) (Flags.ofExport topLevel signature.exported)
      (some signature.span)
    hoist topLevel rest
  | _ :: rest => hoist topLevel rest

/-- The types of parameters, with reports on their written types. -/
def resolveParams (registry : Registry) : List Param → Reported (List Ty)
  | [] => pure []
  | param :: rest => do
    let ty ← registry.resolve param.ascription
    let types ← resolveParams registry rest
    pure (ty :: types)

def declareParams : List Param → List Ty → Check Unit
  | param :: params, ty :: types => do
    declare param.name ty Flags.inner (some param.span)
    declareParams params types
  | _, _ => pure ()

/-- Declares a function, opens the scope of its parameters and its frame, and yields its
declared result.  A function that was called ahead of its declaration stays used. -/
def openFunction (signature : Signature) (topLevel : Bool) : Check (Option Ty) := do
  let used ← isUsedHere signature.name
  let registry ← registry
  let params ← settle (resolveParams registry signature.params)
  let result ← settle (registry.resolve signature.result)
  let expected := signature.result.map fun _ => result
  let flags := Flags.ofExport topLevel signature.exported
  declare signature.name (.fn params (expected.getD .unknown))
    { flags with used := flags.used || used } (some signature.span)
  enterScope
  declareParams signature.params params
  pushFrame expected
  pure expected

/-- Closes the frame and the scope of a function and gives its binding the result that its
body has shown. -/
def closeFunction (signature : Signature) (expected : Option Ty) (body : BlockOutcome) :
    Check Unit := do
  let _ ← popFrame
  let result ← settle (Rules.functionResult signature.name expected body signature.span)
  exitScope
  modifyEnvironment fun env =>
    env.modifyCurrent signature.name fun binding =>
      match binding.ty with
      | .fn params _ => { binding with ty := .fn params result }
      | _ => binding

def declareImports (topLevel : Bool) (span : Span) : List String → Check Unit
  | [] => pure ()
  | name :: rest => do
    declare name .any (Flags.atLevel topLevel) (some span)
    declareImports topLevel span rest

/-- The enum that a match is about: that of a literal, of the literal that a variable was
initialized with, of the type of the matched value, or else the one that the arms agree on. -/
def matchedEnum? (m : Match) (ty : Ty) : Check (Option String) := do
  let literal? ←
    match m.value with
    | .variant enum .. => pure (some enum)
    | .identifier name _ => enumTag? name
    | _ => pure none
  let typed? :=
    match ty with
    | .enum name => some name
    | _ => none
  pure ((literal?.or typed?).or (Arms.commonEnum? m.arms))

/-- Declares what a variant pattern binds. -/
def bindVariant (matched : Option String) (enum variant : String) (binding : Option String)
    (span : Span) : Check Unit := do
  let ty ← settle (Arms.bindingType (← registry) matched enum variant binding.isSome span)
  match binding with
  | none => pure ()
  | some name => declare name ty Flags.inner (some span)

/-- Where a statement stands. -/
structure Place where
  topLevel : Bool
  /-- Whether the statement is the last one of a block whose value is used. -/
  valued : Bool

/-- How far the visit of a block has come. -/
structure Progress where
  ty : Ty := .unit
  alwaysReturns : Bool := false

mutual

/-- Visits an expression.  Blocks and matches in it are asked for a value. -/
def visitExpr : Expr → Check ExprOutcome
  | .identifier name span => do
    let ty ← useName name (some span)
    pure (.value ty)
  | .int .. => pure (.value .int)
  | .string .. => pure (.value .string)
  | .bool .. => pure (.value .bool)
  | .interpolated parts _ _ => do
    visitParts parts
    pure (.value .string)
  | .binary op left right span => do
    let first ← visitExpr left
    let second ← visitExpr right
    let ty ← settle (Rules.binary op ⟨first.ty, left.span⟩ ⟨second.ty, right.span⟩ span)
    pure (.value ty)
  | .unary op operand span => do
    let inner ← visitExpr operand
    let ty ← settle (Rules.unary op inner.ty span)
    pure (.value ty)
  | .call callee args span => do
    let called ← visitExpr callee
    let operands ← visitArgs args
    let ty ← settle (Rules.call called.ty operands span)
    pure (.value ty)
  | .conditional c => visitConditional c
  | .matching m => do
    let outcome ← visitMatch true m
    settle (Rules.requireValue outcome.ty "Match expression" m.span)
    pure outcome
  | .construct struct fields span => do
    match (← registry).structs.get? struct with
    | none =>
      error (.unknownStruct struct) (some span)
      visitFieldValues fields
      pure (.value .unknown)
    | some declared =>
      visitFields struct declared [] fields
      settle (Rules.missingFields struct declared (fields.map FieldInit.name) span)
      pure (.value (.struct struct))
  | .update target fields span => do
    let updated ← visitExpr target
    match updated.ty with
    | .struct struct =>
      match (← registry).structs.get? struct with
      | none =>
        error (.unknownStruct struct) (some span)
        visitFieldValues fields
        pure (.value .unknown)
      | some declared =>
        visitFields struct declared [] fields
        pure (.value (.struct struct))
    | other =>
      error (.updateNonStruct other.text) (some span)
      visitFieldValues fields
      pure (.value .unknown)
  | .variant enum variant _ payload span => do
    match (← registry).enums.get? enum with
    | none =>
      error (.unknownEnum enum) (some span)
      let _ ← visitOptional payload
      pure (.value .unknown)
    | some variants =>
      match variants.get? variant with
      | none =>
        error (.unknownVariant enum variant) (some span)
        let _ ← visitOptional payload
        pure (.value (.enum enum))
      | some declared =>
        settle (Rules.payloadPresence variant declared payload.isSome span)
        match ← visitOptional payload with
        | none => pure (.value (.enum enum))
        | some operand =>
          settle (Rules.payloadValue enum variant declared operand)
          pure (.value (.enum enum))
  | .block b => do
    let outcome ← visitBlock true b
    pure outcome.toExprOutcome

/-- Visits an expression, if there is one. -/
def visitOptional : Option Expr → Check (Option Operand)
  | none => pure none
  | some e => do
    let outcome ← visitExpr e
    pure (some ⟨outcome.ty, e.span⟩)

/-- Visits the embedded expressions of an interpolated string, each of which needs a value. -/
def visitParts : List Part → Check Unit
  | [] => pure ()
  | .text .. :: rest => visitParts rest
  | .embedded e _ :: rest => do
    let outcome ← visitExpr e
    settle (Rules.requireValue outcome.ty "Interpolation" e.span)
    visitParts rest

/-- Visits the arguments of a call. -/
def visitArgs : List Expr → Check (List Operand)
  | [] => pure []
  | e :: rest => do
    let outcome ← visitExpr e
    let operands ← visitArgs rest
    pure (⟨outcome.ty, e.span⟩ :: operands)

/-- Visits printed expressions, each of which needs a value. -/
def visitPrinted : List Expr → Check Unit
  | [] => pure ()
  | e :: rest => do
    let outcome ← visitExpr e
    settle (Rules.requireValue outcome.ty "Print argument" e.span)
    visitPrinted rest

/-- Visits field values of which nothing more is asked. -/
def visitFieldValues : List FieldInit → Check Unit
  | [] => pure ()
  | { name := _, value, span := _ } :: rest => do
    let _ ← visitExpr value
    visitFieldValues rest

/-- Visits the field values of a struct literal or update.  `given` holds the names that stand
in front of them. -/
def visitFields (struct : String) (declared : Fields) (given : List String) :
    List FieldInit → Check Unit
  | [] => pure ()
  | { name, value, span } :: rest => do
    settle (Rules.fieldName struct declared given name span)
    let outcome ← visitExpr value
    settle (Rules.fieldValue struct declared name ⟨outcome.ty, value.span⟩)
    visitFields struct declared (name :: given) rest

/-- Visits an if expression, in the scope of its initializer if it has one. -/
def visitConditional : Conditional → Check ExprOutcome
  | { initializer, condition, consequence, alternative, span } => do
    visitInitializer initializer
    let tested ← visitExpr condition
    settle (Rules.condition ⟨tested.ty, condition.span⟩)
    let block ← visitBlock true consequence
    let first := block.toExprOutcome
    settle (Rules.requireBranchValue first "If branch" consequence.span)
    let second ← visitOtherwise alternative
    settle (Rules.requireBranchValue second "If branch" alternative.span)
    let outcome ← settle (Rules.branches first second span)
    if initializer.isSome then exitScope
    pure outcome

/-- Opens the scope of an initializer and declares it there; without one, no scope opens. -/
def visitInitializer : Option VarDecl → Check Unit
  | none => pure ()
  | some decl => do
    enterScope
    visitVar Flags.inner decl

/-- Visits what follows `else`. -/
def visitOtherwise : Otherwise → Check ExprOutcome
  | .block b => do
    let outcome ← visitBlock true b
    pure outcome.toExprOutcome
  | .elseIf c => visitConditional c

/-- Visits a match.  The arms as a whole are reported on ahead of their visits. -/
def visitMatch (valued : Bool) : Match → Check ExprOutcome
  | { value, arms, span } => do
    let matched ← visitExpr value
    let m : Match := { value, arms, span }
    let enum? ← matchedEnum? m matched.ty
    emit (Arms.findings (← registry) enum? m)
    let outcomes ← visitArms valued enum? arms
    settle (Rules.arms outcomes span)

/-- Visits the arms of a match on a value of the given enum. -/
def visitArms (valued : Bool) (enum? : Option String) : List Arm → Check (List ExprOutcome)
  | [] => pure []
  | arm :: rest => do
    let outcome ← visitArm valued enum? arm
    let outcomes ← visitArms valued enum? rest
    pure (outcome :: outcomes)

/-- Visits an arm in a scope of its own, which holds what the pattern binds. -/
def visitArm (valued : Bool) (enum? : Option String) : Arm → Check ExprOutcome
  | { pattern, guard, body, span := _ } => do
    enterScope
    visitPattern enum? pattern
    match ← visitOptional guard with
    | none => pure ()
    | some operand => settle (Rules.guard operand)
    let outcome ← visitExpr body
    if valued then settle (Rules.armValue outcome body.span)
    exitScope
    pure outcome

/-- Visits a pattern and declares what it binds. -/
def visitPattern (enum? : Option String) : Pattern → Check Unit
  | .wildcard _ => pure ()
  | .literal value _ => do
    let _ ← visitExpr value
    pure ()
  | .variant enum variant _ binding span => bindVariant enum? enum variant binding span

/-- Visits a block in a scope of its own. -/
def visitBlock (valued : Bool) : Block → Check BlockOutcome
  | { body, span := _ } => do
    enterScope
    hoist false body
    let before ← returnsSeen
    let progress ← visitStmts valued {} body
    exitScope
    let returns ← returnsSince before
    pure ⟨progress.ty, progress.alwaysReturns, returns⟩

/-- Visits the rest of a block.  Statements behind one that always returns are reported and
visited, but neither they nor their returns shape the block. -/
def visitStmts (valued : Bool) (progress : Progress) : List Stmt → Check Progress
  | [] => pure progress
  | stmt :: rest => do
    let place : Place := { topLevel := false, valued := valued && rest.isEmpty }
    if progress.alwaysReturns then
      error .unreachableStatement (some stmt.span)
      let live ← returnsSeen
      let _ ← visitStmt place stmt
      truncateReturns live
      visitStmts valued progress rest
    else
      let outcome ← visitStmt place stmt
      visitStmts valued ⟨outcome.ty.getD progress.ty, outcome.alwaysReturns⟩ rest

/-- Visits a statement.  A type declaration asks for nothing here: at top level it was entered
ahead of all visits, and elsewhere it declares nothing. -/
def visitStmt (place : Place) : Stmt → Check StmtOutcome
  | .struct _ | .enum _ => pure {}
  | .imports i => do
    declareImports place.topLevel i.span i.names
    pure {}
  | .var decl => do
    visitVar (Flags.ofExport place.topLevel decl.exported) decl
    pure {}
  | .function signature body => do
    let expected ← openFunction signature place.topLevel
    let outcome ← visitBlock expected.isNone body
    closeFunction signature expected outcome
    pure {}
  | .print _ args _ => do
    visitPrinted args
    pure {}
  | .returns value span => do
    match ← frame? with
    | none =>
      error .returnOutsideFunction (some span)
      let _ ← visitOptional value
      pure { alwaysReturns := true }
    | some frame =>
      let operand ← visitOptional value
      let ty ← settle (Rules.returned frame.expected operand span)
      recordReturn ty
      pure { alwaysReturns := true }
  | .expr value span => do
    if place.valued || value.isEffectful then
      let outcome ← visitExpr value
      pure
        { alwaysReturns := outcome.alwaysReturns
          ty := if place.valued then some outcome.ty else none }
    else
      error .uselessExpression (some span)
      let _ ← visitExpr value
      pure {}

/-- Visits the value of a variable and declares it. -/
def visitVar (flags : Flags) : VarDecl → Check Unit
  | { name, mutable := _, ascription, value, exported := _, span } => do
    let outcome ← visitExpr value
    let registry ← registry
    let written := ascription.map fun t => registry.resolve (some t)
    let ty ← settle (Rules.variableType name written ⟨outcome.ty, value.span⟩ span)
    declare name ty flags (some span)
    match value with
    | .variant enum .. => tagEnum name enum
    | _ => pure ()

end

end Check

end ModuleCheck
