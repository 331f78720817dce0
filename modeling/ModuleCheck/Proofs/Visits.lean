import Mathlib.Logic.Relation
import ModuleCheck.Proofs.Frame
import ModuleCheck.Tree.Outline

namespace ModuleCheck

/-!
The visits that the check of a module consists of.

A visit is a part of a tree together with the state in which it is visited.  `Enters` says
which visits a visit makes on its way, each with the state it starts in, so that a statement
about everything that happens during a check is a statement about the visits entered from the
top.
-/

open Check

/-- A part of a tree together with what its visit is told about its surroundings. -/
inductive Task where
  | expr (e : Expr)
  | optional (e : Option Expr)
  | parts (parts : List Part)
  | args (args : List Expr)
  | printed (args : List Expr)
  | fieldValues (fields : List FieldInit)
  | fields (struct : String) (declared : Fields) (given : List String) (fields : List FieldInit)
  | conditional (c : Conditional)
  | initializer (decl : Option VarDecl)
  | otherwise (alternative : Otherwise)
  | matching (valued : Bool) (m : Match)
  | arms (valued : Bool) (enum? : Option String) (arms : List Arm)
  | arm (valued : Bool) (enum? : Option String) (arm : Arm)
  | pattern (enum? : Option String) (pattern : Pattern)
  | block (valued : Bool) (b : Block)
  | stmts (valued : Bool) (progress : Progress) (stmts : List Stmt)
  | stmt (place : Place) (stmt : Stmt)
  | var (flags : Flags) (decl : VarDecl)
  | topLevel (stmts : List Stmt)

namespace Task

/-- What the visit of a task tells. -/
def Result : Task → Type
  | expr _ | conditional _ | otherwise _ | matching _ _ | arm _ _ _ => ExprOutcome
  | optional _ => Option Operand
  | args _ => List Operand
  | arms _ _ _ => List ExprOutcome
  | block _ _ => BlockOutcome
  | stmts _ _ _ => Progress
  | stmt _ _ => StmtOutcome
  | parts _ | printed _ | fieldValues _ | fields _ _ _ _ | initializer _ | pattern _ _ | var _ _
  | topLevel _ => Unit

/-- The step that visits a task. -/
def step : (task : Task) → Check task.Result
  | expr e => visitExpr e
  | optional e => visitOptional e
  | parts pieces => visitParts pieces
  | args es => visitArgs es
  | printed es => visitPrinted es
  | fieldValues inits => visitFieldValues inits
  | fields struct declared given inits => visitFields struct declared given inits
  | conditional c => visitConditional c
  | initializer decl => visitInitializer decl
  | otherwise alternative => visitOtherwise alternative
  | matching valued m => visitMatch valued m
  | arms valued enum? cases => visitArms valued enum? cases
  | arm valued enum? case => visitArm valued enum? case
  | pattern enum? p => visitPattern enum? p
  | block valued b => visitBlock valued b
  | stmts valued progress body => visitStmts valued progress body
  | stmt place s => visitStmt place s
  | var flags decl => visitVar flags decl
  | topLevel body => visitTopLevel body

/-- The names that the visit of a task declares in the innermost scope. -/
def declaredNames : Task → List String
  | initializer (some decl) => [decl.name]
  | pattern _ p => p.boundNames
  | stmts _ _ body => body.flatMap Stmt.declaredNames
  | stmt _ s => s.declaredNames
  | var _ decl => [decl.name]
  | topLevel body => body.flatMap Stmt.declaredNames
  | _ => []

/-- The types that a visit yields. -/
def resultTypes : (task : Task) → task.Result → List Ty
  | expr _ | conditional _ | otherwise _ | matching _ _ | arm _ _ _ =>
    fun (outcome : ExprOutcome) => [outcome.ty]
  | optional _ => fun (operand : Option Operand) => operand.toList.map Operand.ty
  | args _ => fun (operands : List Operand) => operands.map Operand.ty
  | arms _ _ _ => fun (outcomes : List ExprOutcome) => outcomes.map ExprOutcome.ty
  | block _ _ => fun (outcome : BlockOutcome) => outcome.ty :: outcome.returns
  | stmts _ _ _ => fun (progress : Progress) => [progress.ty]
  | stmt _ _ => fun (outcome : StmtOutcome) => outcome.ty.toList
  | parts _ | printed _ | fieldValues _ | fields _ _ _ _ | initializer _ | pattern _ _ | var _ _
  | topLevel _ => fun _ => []

/-- The types that a visit is told are known. -/
def Told (K : Ty → Prop) : Task → Prop
  | stmts _ progress _ => K progress.ty
  | fields _ declared _ _ => ∀ name ty, declared.get? name = some ty → K ty
  | _ => True

/-- Whether the visit of a task leaves a scope open. -/
def opensScope : Task → Bool
  | initializer (some _) => true
  | _ => false

theorem eq_initializer_of_opensScope {task : Task} (opens : task.opensScope = true) :
    ∃ decl, task = initializer (some decl) := by
  unfold opensScope at opens
  split at opens
  · exact ⟨_, rfl⟩
  · cases opens

end Task

/-- Every visit that leaves no scope open has the properties that its steps have. -/
theorem Check.Compositional.visit {K : Ty → Prop} {P : StepProperty} (steps : Compositional K P)
    {task : Task} (told : task.Told K) (closed : task.opensScope = false) :
    ∃ l, P l task.declaredNames task.resultTypes task.step := by
  let l : Nesting := ⟨0, 0⟩
  cases task with
  | expr e => exact ⟨l, steps.expr l e⟩
  | optional e => exact ⟨l, steps.optional l e⟩
  | parts pieces => exact ⟨l, steps.parts l pieces⟩
  | args es => exact ⟨l, steps.args l es⟩
  | printed es => exact ⟨l, steps.printed l es⟩
  | fieldValues inits => exact ⟨l, steps.fieldValues l inits⟩
  | fields struct declared given inits => exact ⟨l, steps.fields l told struct given inits⟩
  | conditional k => exact ⟨l, steps.conditional l k⟩
  | initializer decl =>
    cases decl with
    | none => exact ⟨l, steps.skip⟩
    | some decl => cases closed
  | otherwise alternative => exact ⟨l, steps.otherwise l alternative⟩
  | matching valued m => exact ⟨l, steps.matching l valued m⟩
  | arms valued enum? cases => exact ⟨l, steps.arms l valued enum? cases⟩
  | arm valued enum? case => exact ⟨l, steps.arm l valued enum? case⟩
  | pattern enum? p => exact ⟨_, steps.pattern l enum? p⟩
  | block valued b => exact ⟨l, steps.block l valued b⟩
  | stmts valued progress body => exact ⟨_, steps.stmts l valued told body⟩
  | stmt place s => exact ⟨_, steps.stmt l place s⟩
  | var flags decl => exact ⟨_, steps.var l flags decl⟩
  | topLevel body => exact ⟨_, steps.topLevel l body⟩

/-- A task and the state in which it is begun. -/
structure Visit where
  task : Task
  start : Checker

namespace Visit

/-- The state that a visit leaves. -/
def finish (v : Visit) : Checker := after v.task.step v.start

/-- The state that a visit extends: that in which it starts, with a scope more if the visit
leaves one open. -/
def opening (v : Visit) : Checker := if v.task.opensScope then after enterScope v.start else v.start

/-- The frame of a visit. -/
theorem extends_finish (v : Visit) : v.opening.Extends v.task.declaredNames v.finish := by
  rcases v with ⟨task, c⟩
  cases opens : task.opensScope with
  | false =>
    have told : task.Told fun _ => True := by
      cases task <;> simp [Task.Told]
    have same : opening ⟨task, c⟩ = c := by simp [opening, opens]
    rcases Declares.steps.visit told opens with ⟨_, declares⟩
    rw [same]
    exact declares c
  | true =>
    rcases Task.eq_initializer_of_opensScope opens with ⟨decl, rfl⟩
    exact visitVar_declares Flags.inner decl (after enterScope c)

end Visit

/-- The first visit makes the second one on its way.  The state of the second one is what the
steps of the first leave that stand in front of it. -/
inductive Enters : Visit → Visit → Prop
  | interpolated {parts raw span c} :
      Enters ⟨.expr (.interpolated parts raw span), c⟩ ⟨.parts parts, c⟩
  | left {op left right span c} :
      Enters ⟨.expr (.binary op left right span), c⟩ ⟨.expr left, c⟩
  | right {op left right span c} :
      Enters ⟨.expr (.binary op left right span), c⟩ ⟨.expr right, after (visitExpr left) c⟩
  | operand {op operand span c} :
      Enters ⟨.expr (.unary op operand span), c⟩ ⟨.expr operand, c⟩
  | callee {callee args span c} :
      Enters ⟨.expr (.call callee args span), c⟩ ⟨.expr callee, c⟩
  | args {callee args span c} :
      Enters ⟨.expr (.call callee args span), c⟩ ⟨.args args, after (visitExpr callee) c⟩
  | conditional {k c} : Enters ⟨.expr (.conditional k), c⟩ ⟨.conditional k, c⟩
  | matching {m c} : Enters ⟨.expr (.matching m), c⟩ ⟨.matching true m, c⟩
  | literalOfUnknown {struct fields span c}
      (missing : c.registry.structs.get? struct = none) :
      Enters ⟨.expr (.construct struct fields span), c⟩
        ⟨.fieldValues fields, after (error (.unknownStruct struct) (some span)) c⟩
  | literalOfStruct {struct fields span c declared}
      (found : c.registry.structs.get? struct = some declared) :
      Enters ⟨.expr (.construct struct fields span), c⟩
        ⟨.fields struct declared [] fields, c⟩
  | target {target fields span c} :
      Enters ⟨.expr (.update target fields span), c⟩ ⟨.expr target, c⟩
  | updateOfUnknown {target fields span c struct}
      (typed : (result (visitExpr target) c).ty = .struct struct)
      (missing : (after (visitExpr target) c).registry.structs.get? struct = none) :
      Enters ⟨.expr (.update target fields span), c⟩
        ⟨.fieldValues fields,
          after (do let _ ← visitExpr target; error (.unknownStruct struct) (some span)) c⟩
  | updateOfStruct {target fields span c struct declared}
      (typed : (result (visitExpr target) c).ty = .struct struct)
      (found : (after (visitExpr target) c).registry.structs.get? struct = some declared) :
      Enters ⟨.expr (.update target fields span), c⟩
        ⟨.fields struct declared [] fields, after (visitExpr target) c⟩
  | updateOfOther {target fields span c}
      (untyped : ∀ struct, (result (visitExpr target) c).ty ≠ .struct struct) :
      Enters ⟨.expr (.update target fields span), c⟩
        ⟨.fieldValues fields,
          after (do
            let updated ← visitExpr target
            error (.updateNonStruct updated.ty.text) (some span)) c⟩
  | payloadOfUnknownEnum {enum variant field payload span c}
      (missing : c.registry.enums.get? enum = none) :
      Enters ⟨.expr (.variant enum variant field payload span), c⟩
        ⟨.optional payload, after (error (.unknownEnum enum) (some span)) c⟩
  | payloadOfUnknownVariant {enum variant field payload span c variants}
      (found : c.registry.enums.get? enum = some variants)
      (missing : variants.get? variant = none) :
      Enters ⟨.expr (.variant enum variant field payload span), c⟩
        ⟨.optional payload, after (error (.unknownVariant enum variant) (some span)) c⟩
  | payloadOfVariant {enum variant field payload span c variants declared}
      (found : c.registry.enums.get? enum = some variants)
      (known : variants.get? variant = some declared) :
      Enters ⟨.expr (.variant enum variant field payload span), c⟩
        ⟨.optional payload,
          after (settle (Rules.payloadPresence variant declared payload.isSome span)) c⟩
  | block {b c} : Enters ⟨.expr (.block b), c⟩ ⟨.block true b, c⟩
  | optional {e c} : Enters ⟨.optional (some e), c⟩ ⟨.expr e, c⟩
  | behindText {value span rest c} :
      Enters ⟨.parts (.text value span :: rest), c⟩ ⟨.parts rest, c⟩
  | embedded {e span rest c} : Enters ⟨.parts (.embedded e span :: rest), c⟩ ⟨.expr e, c⟩
  | behindEmbedded {e span rest c} :
      Enters ⟨.parts (.embedded e span :: rest), c⟩
        ⟨.parts rest,
          after (do
            let outcome ← visitExpr e
            settle (Rules.requireValue outcome.ty "Interpolation" e.span)) c⟩
  | firstArg {e rest c} : Enters ⟨.args (e :: rest), c⟩ ⟨.expr e, c⟩
  | moreArgs {e rest c} : Enters ⟨.args (e :: rest), c⟩ ⟨.args rest, after (visitExpr e) c⟩
  | firstPrinted {e rest c} : Enters ⟨.printed (e :: rest), c⟩ ⟨.expr e, c⟩
  | morePrinted {e rest c} :
      Enters ⟨.printed (e :: rest), c⟩
        ⟨.printed rest,
          after (do
            let outcome ← visitExpr e
            settle (Rules.requireValue outcome.ty "Print argument" e.span)) c⟩
  | firstValue {name value span rest c} :
      Enters ⟨.fieldValues (⟨name, value, span⟩ :: rest), c⟩ ⟨.expr value, c⟩
  | moreValues {name value span rest c} :
      Enters ⟨.fieldValues (⟨name, value, span⟩ :: rest), c⟩
        ⟨.fieldValues rest, after (visitExpr value) c⟩
  | firstField {struct declared given name value span rest c} :
      Enters ⟨.fields struct declared given (⟨name, value, span⟩ :: rest), c⟩
        ⟨.expr value, after (settle (Rules.fieldName struct declared given name span)) c⟩
  | moreFields {struct declared given name value span rest c} :
      Enters ⟨.fields struct declared given (⟨name, value, span⟩ :: rest), c⟩
        ⟨.fields struct declared (name :: given) rest,
          after (do
            settle (Rules.fieldName struct declared given name span)
            let outcome ← visitExpr value
            settle (Rules.fieldValue struct declared name ⟨outcome.ty, value.span⟩)) c⟩
  | initializer {initializer condition consequence alternative span c} :
      Enters ⟨.conditional ⟨initializer, condition, consequence, alternative, span⟩, c⟩
        ⟨.initializer initializer, c⟩
  | condition {initializer condition consequence alternative span c} :
      Enters ⟨.conditional ⟨initializer, condition, consequence, alternative, span⟩, c⟩
        ⟨.expr condition, after (visitInitializer initializer) c⟩
  | consequence {initializer condition consequence alternative span c} :
      Enters ⟨.conditional ⟨initializer, condition, consequence, alternative, span⟩, c⟩
        ⟨.block true consequence,
          after (do
            visitInitializer initializer
            let tested ← visitExpr condition
            settle (Rules.condition ⟨tested.ty, condition.span⟩)) c⟩
  | alternative {initializer condition consequence alternative span c} :
      Enters ⟨.conditional ⟨initializer, condition, consequence, alternative, span⟩, c⟩
        ⟨.otherwise alternative,
          after (do
            visitInitializer initializer
            let tested ← visitExpr condition
            settle (Rules.condition ⟨tested.ty, condition.span⟩)
            let block ← visitBlock true consequence
            settle (Rules.requireBranchValue block.toExprOutcome "If branch"
              consequence.span)) c⟩
  | initialized {decl c} :
      Enters ⟨.initializer (some decl), c⟩ ⟨.var Flags.inner decl, after enterScope c⟩
  | otherwise {b c} : Enters ⟨.otherwise (.block b), c⟩ ⟨.block true b, c⟩
  | elseIf {k c} : Enters ⟨.otherwise (.elseIf k), c⟩ ⟨.conditional k, c⟩
  | matched {valued value arms span c} :
      Enters ⟨.matching valued ⟨value, arms, span⟩, c⟩ ⟨.expr value, c⟩
  | arms {valued value arms span c} :
      Enters ⟨.matching valued ⟨value, arms, span⟩, c⟩
        ⟨.arms valued
            (result (do
              let matched ← visitExpr value
              matchedEnum? ⟨value, arms, span⟩ matched.ty) c) arms,
          after (do
            let matched ← visitExpr value
            let enum? ← matchedEnum? ⟨value, arms, span⟩ matched.ty
            emit (Arms.findings (← registry) enum? ⟨value, arms, span⟩)) c⟩
  | firstArm {valued enum? arm rest c} :
      Enters ⟨.arms valued enum? (arm :: rest), c⟩ ⟨.arm valued enum? arm, c⟩
  | moreArms {valued enum? arm rest c} :
      Enters ⟨.arms valued enum? (arm :: rest), c⟩
        ⟨.arms valued enum? rest, after (visitArm valued enum? arm) c⟩
  | pattern {valued enum? pattern guard body span c} :
      Enters ⟨.arm valued enum? ⟨pattern, guard, body, span⟩, c⟩
        ⟨.pattern enum? pattern, after enterScope c⟩
  | guard {valued enum? pattern guard body span c} :
      Enters ⟨.arm valued enum? ⟨pattern, guard, body, span⟩, c⟩
        ⟨.optional guard, after (do enterScope; visitPattern enum? pattern) c⟩
  | armBody {valued enum? pattern guard body span c} :
      Enters ⟨.arm valued enum? ⟨pattern, guard, body, span⟩, c⟩
        ⟨.expr body,
          after (do
            enterScope
            visitPattern enum? pattern
            let operand ← visitOptional guard
            settleGuard operand) c⟩
  | literal {enum? value span c} :
      Enters ⟨.pattern enum? (.literal value span), c⟩ ⟨.expr value, c⟩
  | body {valued body span c} :
      Enters ⟨.block valued ⟨body, span⟩, c⟩
        ⟨.stmts valued {} body, after (do enterScope; hoist false body) c⟩
  | live {valued progress stmt rest c} (reached : progress.alwaysReturns = false) :
      Enters ⟨.stmts valued progress (stmt :: rest), c⟩
        ⟨.stmt ⟨false, valued && rest.isEmpty⟩ stmt, c⟩
  | behindLive {valued progress stmt rest c outcome}
      (reached : progress.alwaysReturns = false)
      (visited : outcome = result (visitStmt ⟨false, valued && rest.isEmpty⟩ stmt) c) :
      Enters ⟨.stmts valued progress (stmt :: rest), c⟩
        ⟨.stmts valued ⟨outcome.ty.getD progress.ty, outcome.alwaysReturns⟩ rest,
          after (visitStmt ⟨false, valued && rest.isEmpty⟩ stmt) c⟩
  | dead {valued progress stmt rest c} (stopped : progress.alwaysReturns = true) :
      Enters ⟨.stmts valued progress (stmt :: rest), c⟩
        ⟨.stmt ⟨false, valued && rest.isEmpty⟩ stmt,
          after (error .unreachableStatement (some stmt.span)) c⟩
  | behindDead {valued progress stmt rest c} (stopped : progress.alwaysReturns = true) :
      Enters ⟨.stmts valued progress (stmt :: rest), c⟩
        ⟨.stmts valued progress rest,
          after (do
            error .unreachableStatement (some stmt.span)
            let live ← returnsSeen
            let _ ← visitStmt ⟨false, valued && rest.isEmpty⟩ stmt
            truncateReturns live) c⟩
  | var {place decl c} :
      Enters ⟨.stmt place (.var decl), c⟩
        ⟨.var (Flags.ofExport place.topLevel decl.exported) decl, c⟩
  | function {place signature body c} :
      Enters ⟨.stmt place (.function signature body), c⟩
        ⟨.block (signature.declaredResult c.registry).isNone body,
          after (openFunction signature place.topLevel) c⟩
  | printed {place raw args span c} :
      Enters ⟨.stmt place (.print raw args span), c⟩ ⟨.printed args, c⟩
  | returnedOutside {place value span c} (outside : c.frames = []) :
      Enters ⟨.stmt place (.returns value span), c⟩
        ⟨.optional value, after (error .returnOutsideFunction (some span)) c⟩
  | returned {place value span c} (inside : c.frames ≠ []) :
      Enters ⟨.stmt place (.returns value span), c⟩ ⟨.optional value, c⟩
  | used {place value span c} (used : (place.valued || value.isEffectful) = true) :
      Enters ⟨.stmt place (.expr value span), c⟩ ⟨.expr value, c⟩
  | useless {place value span c} (unused : (place.valued || value.isEffectful) = false) :
      Enters ⟨.stmt place (.expr value span), c⟩
        ⟨.expr value, after (error .uselessExpression (some span)) c⟩
  | initial {flags name mutable ascription value exported span c} :
      Enters ⟨.var flags ⟨name, mutable, ascription, value, exported, span⟩, c⟩
        ⟨.expr value, c⟩
  | first {stmt rest c} : Enters ⟨.topLevel (stmt :: rest), c⟩ ⟨.stmt ⟨true, false⟩ stmt, c⟩
  | others {stmt rest c} :
      Enters ⟨.topLevel (stmt :: rest), c⟩
        ⟨.topLevel rest, after (visitStmt ⟨true, false⟩ stmt) c⟩

/-- The first visit makes the second one, perhaps through others. -/
abbrev Reaches : Visit → Visit → Prop := Relation.ReflTransGen Enters

end ModuleCheck
