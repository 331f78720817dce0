import ModuleCheck.Proofs.Faces
import ModuleCheck.Proofs.Invariant

namespace ModuleCheck

/-!
Writing down inferred types.

A variable without a written type gets the type of its value.  If that type has a name and the
name stands for it, then writing the name down changes nothing: neither what the declaration
declares and reports, nor anything behind it.  So any number of declarations in a tree may be given
their types, each by the state in which the check comes to it.  A name may stand for another type
than the one that is meant, since built-in types take their names from structs and enums, and
structs take theirs from enums.
-/

open Check

/-! Names of types. -/

/-- The name is that of the type, and it stands for no other one: built-in types take their names
from structs and enums, and structs take theirs from enums. -/
inductive Registry.StandsFor (r : Registry) : String → Ty → Prop
  | int : StandsFor r "Int" .int
  | bool : StandsFor r "Bool" .bool
  | string : StandsFor r "String" .string
  | struct {name : String} (free : Registry.builtin? name = none) : StandsFor r name (.struct name)
  | enum {name : String} (free : Registry.builtin? name = none)
      (single : r.structs.contains name = false) : StandsFor r name (.enum name)

namespace Registry.StandsFor

variable {r : Registry} {type : String} {ty : Ty}

/-- A name that stands for a declared type is resolved to it. -/
theorem named?_eq (stands : r.StandsFor type ty) (known : ty.Known r) :
    r.named? type = some ty := by
  unfold named?
  cases stands with
  | int | bool | string => rfl
  | struct free =>
    cases known with
    | struct declared => simp [free, declared]
  | enum free single =>
    cases known with
    | enum declared => simp [free, single, declared]

/-- A value fits the name of its own type. -/
theorem variableType_eq (stands : r.StandsFor type ty) (known : ty.Known r) (name : String)
    (site span span' : Span) :
    Rules.variableType name (some (r.resolve (some (.named type site)))) ⟨ty, span⟩ span' =
      Rules.variableType name none ⟨ty, span⟩ span' := by
  have resolved : r.resolve (some (.named type site)) = pure ty := by
    simp only [resolve, stands.named?_eq known]
  have fits : ∀ issue, Rules.requireCompatible ty ty issue span' = pure () := by
    intro issue
    unfold Rules.requireCompatible Rules.testCompatible Reported.test
    rw [Ty.compatible_self]
    rfl
  simp only [Rules.variableType, resolved, fits, pure_bind]

end Registry.StandsFor

/-! Trees with more written types. -/

/-- The task is that of the visit but for written types: any number of variables that had none are
given the names of the types which their values have when the check comes to them. -/
inductive Ascribes : Visit → Task → Prop
  | same {v} : Ascribes v v.task
  | written {flags name mutable value value' exported span c type site ty}
      (initial : Ascribes ⟨.expr value, c⟩ (.expr value'))
      (typed : (result (visitExpr value) c).ty = ty) (stands : c.registry.StandsFor type ty) :
      Ascribes ⟨.var flags ⟨name, mutable, none, value, exported, span⟩, c⟩
        (.var flags ⟨name, mutable, some (.named type site), value', exported, span⟩)
  | var {flags name mutable ascription value value' exported span c}
      (initial : Ascribes ⟨.expr value, c⟩ (.expr value')) :
      Ascribes ⟨.var flags ⟨name, mutable, ascription, value, exported, span⟩, c⟩
        (.var flags ⟨name, mutable, ascription, value', exported, span⟩)
  | interpolated {parts parts' raw span c} (pieces : Ascribes ⟨.parts parts, c⟩ (.parts parts')) :
      Ascribes ⟨.expr (.interpolated parts raw span), c⟩ (.expr (.interpolated parts' raw span))
  | binary {op left left' right right' span c} (first : Ascribes ⟨.expr left, c⟩ (.expr left'))
      (second : Ascribes ⟨.expr right, after (visitExpr left) c⟩ (.expr right')) :
      Ascribes ⟨.expr (.binary op left right span), c⟩ (.expr (.binary op left' right' span))
  | unary {op operand operand' span c} (inner : Ascribes ⟨.expr operand, c⟩ (.expr operand')) :
      Ascribes ⟨.expr (.unary op operand span), c⟩ (.expr (.unary op operand' span))
  | call {callee callee' args args' span c} (called : Ascribes ⟨.expr callee, c⟩ (.expr callee'))
      (given : Ascribes ⟨.args args, after (visitExpr callee) c⟩ (.args args')) :
      Ascribes ⟨.expr (.call callee args span), c⟩ (.expr (.call callee' args' span))
  | conditional {k k' c} (inner : Ascribes ⟨.conditional k, c⟩ (.conditional k')) :
      Ascribes ⟨.expr (.conditional k), c⟩ (.expr (.conditional k'))
  | matching {m m' c} (inner : Ascribes ⟨.matching true m, c⟩ (.matching true m')) :
      Ascribes ⟨.expr (.matching m), c⟩ (.expr (.matching m'))
  | literalOfUnknown {struct fields fields' span c}
      (missing : c.registry.structs.get? struct = none)
      (values : Ascribes ⟨.fieldValues fields, after (error (.unknownStruct struct) (some span)) c⟩
        (.fieldValues fields')) :
      Ascribes ⟨.expr (.construct struct fields span), c⟩ (.expr (.construct struct fields' span))
  | literalOfStruct {struct fields fields' span c declared}
      (found : c.registry.structs.get? struct = some declared)
      (values : Ascribes ⟨.fields struct declared [] fields, c⟩
        (.fields struct declared [] fields')) :
      Ascribes ⟨.expr (.construct struct fields span), c⟩ (.expr (.construct struct fields' span))
  | updateOfUnknown {target target' fields fields' span c struct}
      (updated : Ascribes ⟨.expr target, c⟩ (.expr target'))
      (typed : (result (visitExpr target) c).ty = .struct struct)
      (missing : (after (visitExpr target) c).registry.structs.get? struct = none)
      (values : Ascribes
        ⟨.fieldValues fields,
          after (do let _ ← visitExpr target; error (.unknownStruct struct) (some span)) c⟩
        (.fieldValues fields')) :
      Ascribes ⟨.expr (.update target fields span), c⟩ (.expr (.update target' fields' span))
  | updateOfStruct {target target' fields fields' span c struct declared}
      (updated : Ascribes ⟨.expr target, c⟩ (.expr target'))
      (typed : (result (visitExpr target) c).ty = .struct struct)
      (found : (after (visitExpr target) c).registry.structs.get? struct = some declared)
      (values : Ascribes ⟨.fields struct declared [] fields, after (visitExpr target) c⟩
        (.fields struct declared [] fields')) :
      Ascribes ⟨.expr (.update target fields span), c⟩ (.expr (.update target' fields' span))
  | updateOfOther {target target' fields fields' span c}
      (updated : Ascribes ⟨.expr target, c⟩ (.expr target'))
      (untyped : ∀ struct, (result (visitExpr target) c).ty ≠ .struct struct)
      (values : Ascribes
        ⟨.fieldValues fields,
          after (do
            let updated ← visitExpr target
            error (.updateNonStruct updated.ty.text) (some span)) c⟩
        (.fieldValues fields')) :
      Ascribes ⟨.expr (.update target fields span), c⟩ (.expr (.update target' fields' span))
  | payloadOfUnknownEnum {enum variant field payload payload' span c}
      (missing : c.registry.enums.get? enum = none)
      (carried : Ascribes ⟨.optional payload, after (error (.unknownEnum enum) (some span)) c⟩
        (.optional payload')) :
      Ascribes ⟨.expr (.variant enum variant field payload span), c⟩
        (.expr (.variant enum variant field payload' span))
  | payloadOfUnknownVariant {enum variant field payload payload' span c variants}
      (found : c.registry.enums.get? enum = some variants)
      (missing : variants.get? variant = none)
      (carried : Ascribes
        ⟨.optional payload, after (error (.unknownVariant enum variant) (some span)) c⟩
        (.optional payload')) :
      Ascribes ⟨.expr (.variant enum variant field payload span), c⟩
        (.expr (.variant enum variant field payload' span))
  | payloadOfVariant {enum variant field payload payload' span c variants declared}
      (found : c.registry.enums.get? enum = some variants)
      (known : variants.get? variant = some declared)
      (carried : Ascribes
        ⟨.optional payload,
          after (settle (Rules.payloadPresence variant declared payload.isSome span)) c⟩
        (.optional payload')) :
      Ascribes ⟨.expr (.variant enum variant field payload span), c⟩
        (.expr (.variant enum variant field payload' span))
  | block {b b' c} (inner : Ascribes ⟨.block true b, c⟩ (.block true b')) :
      Ascribes ⟨.expr (.block b), c⟩ (.expr (.block b'))
  | optional {e e' c} (inner : Ascribes ⟨.expr e, c⟩ (.expr e')) :
      Ascribes ⟨.optional (some e), c⟩ (.optional (some e'))
  | text {value span rest rest' c} (others : Ascribes ⟨.parts rest, c⟩ (.parts rest')) :
      Ascribes ⟨.parts (.text value span :: rest), c⟩ (.parts (.text value span :: rest'))
  | embedded {e e' span rest rest' c} (first : Ascribes ⟨.expr e, c⟩ (.expr e'))
      (others : Ascribes
        ⟨.parts rest,
          after (do
            let outcome ← visitExpr e
            settle (Rules.requireValue outcome.ty "Interpolation" e.span)) c⟩
        (.parts rest')) :
      Ascribes ⟨.parts (.embedded e span :: rest), c⟩ (.parts (.embedded e' span :: rest'))
  | args {e e' rest rest' c} (first : Ascribes ⟨.expr e, c⟩ (.expr e'))
      (others : Ascribes ⟨.args rest, after (visitExpr e) c⟩ (.args rest')) :
      Ascribes ⟨.args (e :: rest), c⟩ (.args (e' :: rest'))
  | printed {e e' rest rest' c} (first : Ascribes ⟨.expr e, c⟩ (.expr e'))
      (others : Ascribes
        ⟨.printed rest,
          after (do
            let outcome ← visitExpr e
            settle (Rules.requireValue outcome.ty "Print argument" e.span)) c⟩
        (.printed rest')) :
      Ascribes ⟨.printed (e :: rest), c⟩ (.printed (e' :: rest'))
  | fieldValues {name value value' span rest rest' c}
      (first : Ascribes ⟨.expr value, c⟩ (.expr value'))
      (others : Ascribes ⟨.fieldValues rest, after (visitExpr value) c⟩ (.fieldValues rest')) :
      Ascribes ⟨.fieldValues (⟨name, value, span⟩ :: rest), c⟩
        (.fieldValues (⟨name, value', span⟩ :: rest'))
  | fields {struct declared given name value value' span rest rest' c}
      (first : Ascribes
        ⟨.expr value, after (settle (Rules.fieldName struct declared given name span)) c⟩
        (.expr value'))
      (others : Ascribes
        ⟨.fields struct declared (name :: given) rest,
          after (do
            settle (Rules.fieldName struct declared given name span)
            let outcome ← visitExpr value
            settle (Rules.fieldValue struct declared name ⟨outcome.ty, value.span⟩)) c⟩
        (.fields struct declared (name :: given) rest')) :
      Ascribes ⟨.fields struct declared given (⟨name, value, span⟩ :: rest), c⟩
        (.fields struct declared given (⟨name, value', span⟩ :: rest'))
  | branches {initializer initializer' condition condition' consequence consequence' alternative
        alternative' span c}
      (initial : Ascribes ⟨.initializer initializer, c⟩ (.initializer initializer'))
      (tested : Ascribes ⟨.expr condition, after (visitInitializer initializer) c⟩
        (.expr condition'))
      (first : Ascribes
        ⟨.block true consequence,
          after (do
            visitInitializer initializer
            let tested ← visitExpr condition
            settle (Rules.condition ⟨tested.ty, condition.span⟩)) c⟩
        (.block true consequence'))
      (second : Ascribes
        ⟨.otherwise alternative,
          after (do
            visitInitializer initializer
            let tested ← visitExpr condition
            settle (Rules.condition ⟨tested.ty, condition.span⟩)
            let block ← visitBlock true consequence
            settle (Rules.requireBranchValue block.toExprOutcome "If branch"
              consequence.span)) c⟩
        (.otherwise alternative')) :
      Ascribes ⟨.conditional ⟨initializer, condition, consequence, alternative, span⟩, c⟩
        (.conditional ⟨initializer', condition', consequence', alternative', span⟩)
  | initializer {decl decl' c}
      (inner : Ascribes ⟨.var Flags.inner decl, after enterScope c⟩ (.var Flags.inner decl')) :
      Ascribes ⟨.initializer (some decl), c⟩ (.initializer (some decl'))
  | otherwise {b b' c} (inner : Ascribes ⟨.block true b, c⟩ (.block true b')) :
      Ascribes ⟨.otherwise (.block b), c⟩ (.otherwise (.block b'))
  | elseIf {k k' c} (inner : Ascribes ⟨.conditional k, c⟩ (.conditional k')) :
      Ascribes ⟨.otherwise (.elseIf k), c⟩ (.otherwise (.elseIf k'))
  | cases {valued value value' arms arms' span c}
      (matched : Ascribes ⟨.expr value, c⟩ (.expr value'))
      (taken : Ascribes
        ⟨.arms valued
            (result (do
              let matched ← visitExpr value
              matchedEnum? ⟨value, arms, span⟩ matched.ty) c) arms,
          after (do
            let matched ← visitExpr value
            let enum? ← matchedEnum? ⟨value, arms, span⟩ matched.ty
            emit (Arms.findings (← registry) enum? ⟨value, arms, span⟩)) c⟩
        (.arms valued
            (result (do
              let matched ← visitExpr value
              matchedEnum? ⟨value, arms, span⟩ matched.ty) c) arms')) :
      Ascribes ⟨.matching valued ⟨value, arms, span⟩, c⟩ (.matching valued ⟨value', arms', span⟩)
  | arms {valued enum? arm arm' rest rest' c}
      (first : Ascribes ⟨.arm valued enum? arm, c⟩ (.arm valued enum? arm'))
      (others : Ascribes ⟨.arms valued enum? rest, after (visitArm valued enum? arm) c⟩
        (.arms valued enum? rest')) :
      Ascribes ⟨.arms valued enum? (arm :: rest), c⟩ (.arms valued enum? (arm' :: rest'))
  | arm {valued enum? pattern pattern' guard guard' body body' span c}
      (bound : Ascribes ⟨.pattern enum? pattern, after enterScope c⟩ (.pattern enum? pattern'))
      (guarded : Ascribes
        ⟨.optional guard, after (do enterScope; visitPattern enum? pattern) c⟩ (.optional guard'))
      (inner : Ascribes
        ⟨.expr body,
          after (do
            enterScope
            visitPattern enum? pattern
            let operand ← visitOptional guard
            settleGuard operand) c⟩
        (.expr body')) :
      Ascribes ⟨.arm valued enum? ⟨pattern, guard, body, span⟩, c⟩
        (.arm valued enum? ⟨pattern', guard', body', span⟩)
  | literal {enum? value value' span c} (inner : Ascribes ⟨.expr value, c⟩ (.expr value')) :
      Ascribes ⟨.pattern enum? (.literal value span), c⟩ (.pattern enum? (.literal value' span))
  | body {valued body body' span c}
      (inner : Ascribes ⟨.stmts valued {} body, after (do enterScope; hoist false body) c⟩
        (.stmts valued {} body')) :
      Ascribes ⟨.block valued ⟨body, span⟩, c⟩ (.block valued ⟨body', span⟩)
  | live {valued progress stmt stmt' rest rest' c outcome}
      (reached : progress.alwaysReturns = false)
      (visited : outcome = result (visitStmt ⟨false, valued && rest.isEmpty⟩ stmt) c)
      (first : Ascribes ⟨.stmt ⟨false, valued && rest.isEmpty⟩ stmt, c⟩
        (.stmt ⟨false, valued && rest.isEmpty⟩ stmt'))
      (others : Ascribes
        ⟨.stmts valued ⟨outcome.ty.getD progress.ty, outcome.alwaysReturns⟩ rest,
          after (visitStmt ⟨false, valued && rest.isEmpty⟩ stmt) c⟩
        (.stmts valued ⟨outcome.ty.getD progress.ty, outcome.alwaysReturns⟩ rest')) :
      Ascribes ⟨.stmts valued progress (stmt :: rest), c⟩
        (.stmts valued progress (stmt' :: rest'))
  | dead {valued progress stmt stmt' rest rest' c} (stopped : progress.alwaysReturns = true)
      (first : Ascribes
        ⟨.stmt ⟨false, valued && rest.isEmpty⟩ stmt,
          after (error .unreachableStatement (some stmt.span)) c⟩
        (.stmt ⟨false, valued && rest.isEmpty⟩ stmt'))
      (others : Ascribes
        ⟨.stmts valued progress rest,
          after (do
            error .unreachableStatement (some stmt.span)
            let live ← returnsSeen
            let _ ← visitStmt ⟨false, valued && rest.isEmpty⟩ stmt
            truncateReturns live) c⟩
        (.stmts valued progress rest')) :
      Ascribes ⟨.stmts valued progress (stmt :: rest), c⟩
        (.stmts valued progress (stmt' :: rest'))
  | declaration {place decl decl' c}
      (inner : Ascribes ⟨.var (Flags.ofExport place.topLevel decl.exported) decl, c⟩
        (.var (Flags.ofExport place.topLevel decl.exported) decl')) :
      Ascribes ⟨.stmt place (.var decl), c⟩ (.stmt place (.var decl'))
  | function {place signature body body' c}
      (inner : Ascribes
        ⟨.block (signature.declaredResult c.registry).isNone body,
          after (openFunction signature place.topLevel) c⟩
        (.block (signature.declaredResult c.registry).isNone body')) :
      Ascribes ⟨.stmt place (.function signature body), c⟩
        (.stmt place (.function signature body'))
  | print {place raw args args' span c} (inner : Ascribes ⟨.printed args, c⟩ (.printed args')) :
      Ascribes ⟨.stmt place (.print raw args span), c⟩ (.stmt place (.print raw args' span))
  | returnsOutside {place value value' span c} (outside : c.frames = [])
      (inner : Ascribes ⟨.optional value, after (error .returnOutsideFunction (some span)) c⟩
        (.optional value')) :
      Ascribes ⟨.stmt place (.returns value span), c⟩ (.stmt place (.returns value' span))
  | returns {place value value' span c} (inside : c.frames ≠ [])
      (inner : Ascribes ⟨.optional value, c⟩ (.optional value')) :
      Ascribes ⟨.stmt place (.returns value span), c⟩ (.stmt place (.returns value' span))
  | used {place value value' span c} (used : (place.valued || value.isEffectful) = true)
      (inner : Ascribes ⟨.expr value, c⟩ (.expr value')) :
      Ascribes ⟨.stmt place (.expr value span), c⟩ (.stmt place (.expr value' span))
  | useless {place value value' span c} (unused : (place.valued || value.isEffectful) = false)
      (inner : Ascribes ⟨.expr value, after (error .uselessExpression (some span)) c⟩
        (.expr value')) :
      Ascribes ⟨.stmt place (.expr value span), c⟩ (.stmt place (.expr value' span))
  | topLevel {stmt stmt' rest rest' c}
      (first : Ascribes ⟨.stmt ⟨true, false⟩ stmt, c⟩ (.stmt ⟨true, false⟩ stmt'))
      (others : Ascribes ⟨.topLevel rest, after (visitStmt ⟨true, false⟩ stmt) c⟩
        (.topLevel rest')) :
      Ascribes ⟨.topLevel (stmt :: rest), c⟩ (.topLevel (stmt' :: rest'))

/-! Visits of trees with more written types. -/

namespace Check

/-- A variable whose written type is that of its value is visited as without the type. -/
theorem run_visitVar_written {flags : Flags} {name type : String} {mutable exported : Bool}
    {value value' : Expr} {site span : Span} {ty : Ty} {c : Checker}
    (face : value'.face = value.face) (run : (visitExpr value').run c = (visitExpr value).run c)
    (typed : (result (visitExpr value) c).ty = ty) (stands : c.registry.StandsFor type ty)
    (known : ty.Known c.registry) :
    (visitVar flags ⟨name, mutable, some (.named type site), value', exported, span⟩).run c =
      (visitVar flags ⟨name, mutable, none, value, exported, span⟩).run c := by
  have kept := (visitExpr_keeps value c).registry
  rw [visitVar_eq, visitVar_eq, tagLiteral_eq, tagLiteral_eq, Expr.span_eq face, face]
  refine run_bind_congr run (run_bind_congr rfl ?_)
  rw [result_registry, kept, typed]
  simp only [Option.map_some, Option.map_none, stands.variableType_eq known]

end Check

namespace Ascribes

variable {m : Module} {options : Options}

/-- A tree with more written types is visited alike, and it looks the same from outside. -/
theorem agree {v : Visit} {task : Task} (ascribes : Ascribes v task) :
    m.Visits options v → v.task.Agree v.start task := by
  induction ascribes with
  | same => exact fun _ => Task.agree_self _ _
  | @written flags name mutable value value' exported span c type site ty _ typed stands initial =>
    intro visits
    cases initial (visits.tail .initial) with | expr face run
    have consistent : c.Consistent (m.checked options).registry := m.consistent_of_visits visits
    have known := known_visitExpr value consistent
    rw [typed, ← consistent.registry] at known
    exact .var rfl rfl (run_visitVar_written face run typed stands known)
  | var _ initial =>
    intro visits
    cases initial (visits.tail .initial) with | expr face run
    refine .var rfl rfl ?_
    rw [visitVar_eq, visitVar_eq, tagLiteral_eq, tagLiteral_eq, Expr.span_eq face, face]
    exact run_bind_congr run rfl
  | interpolated _ pieces =>
    intro visits
    cases pieces (visits.tail .interpolated) with | parts run
    refine .expr rfl ?_
    rw [visitExpr, visitExpr]
    exact run_bind_congr run rfl
  | binary _ _ first second =>
    intro visits
    cases first (visits.tail .left) with | expr face run
    cases second (visits.tail .right) with | expr face' run'
    refine .expr rfl ?_
    rw [visitExpr, visitExpr, Expr.span_eq face, Expr.span_eq face']
    exact run_bind_congr run (run_bind_congr run' rfl)
  | unary _ inner =>
    intro visits
    cases inner (visits.tail .operand) with | expr _ run
    refine .expr rfl ?_
    rw [visitExpr, visitExpr]
    exact run_bind_congr run rfl
  | call _ _ called given =>
    intro visits
    cases called (visits.tail .callee) with | expr _ run
    cases given (visits.tail .args) with | args run'
    refine .expr rfl ?_
    rw [visitExpr, visitExpr]
    exact run_bind_congr run (run_bind_congr run' rfl)
  | conditional _ inner =>
    intro visits
    cases inner (visits.tail .conditional) with | conditional span run
    refine .expr (Expr.face_conditional span) ?_
    rw [visitExpr, visitExpr]
    exact run
  | matching _ inner =>
    intro visits
    cases inner (visits.tail .matching) with | matching span run
    refine .expr (Expr.face_matching span) ?_
    rw [visitExpr, visitExpr, span]
    exact run_bind_congr run rfl
  | literalOfUnknown missing _ values =>
    intro visits
    cases values (visits.tail (.literalOfUnknown missing)) with | fieldValues run
    refine .expr rfl ?_
    rw [visitExpr, visitExpr]
    refine run_bind_congr rfl ?_
    simp only [result_registry, missing]
    exact run_bind_congr rfl (run_bind_congr run rfl)
  | literalOfStruct found _ values =>
    intro visits
    cases values (visits.tail (.literalOfStruct found)) with | fields names run
    refine .expr rfl ?_
    rw [visitExpr, visitExpr]
    refine run_bind_congr rfl ?_
    simp only [result_registry, found, names]
    exact run_bind_congr run rfl
  | updateOfUnknown _ typed missing _ updated values =>
    intro visits
    cases updated (visits.tail .target) with | expr _ run
    cases values (visits.tail (.updateOfUnknown typed missing)) with | fieldValues run'
    refine .expr rfl ?_
    rw [visitExpr, visitExpr]
    refine run_bind_congr run ?_
    simp only [typed]
    refine run_bind_congr rfl ?_
    simp only [result_registry, after_registry, missing]
    exact run_bind_congr rfl (run_bind_congr run' rfl)
  | updateOfStruct _ typed found _ updated values =>
    intro visits
    cases updated (visits.tail .target) with | expr _ run
    cases values (visits.tail (.updateOfStruct typed found)) with | fields _ run'
    refine .expr rfl ?_
    rw [visitExpr, visitExpr]
    refine run_bind_congr run ?_
    simp only [typed]
    refine run_bind_congr rfl ?_
    simp only [result_registry, after_registry, found]
    exact run_bind_congr run' rfl
  | @updateOfOther target target' fields fields' span c _ untyped _ updated values =>
    intro visits
    cases updated (visits.tail .target) with | expr _ run
    cases values (visits.tail (.updateOfOther untyped)) with | fieldValues run'
    refine .expr rfl ?_
    rw [visitExpr, visitExpr]
    refine run_bind_congr run ?_
    cases shown : (result (visitExpr target) c).ty with
    | struct struct => exact absurd shown (untyped struct)
    | _ =>
      simp only [after_bind, shown] at run'
      exact run_bind_congr rfl (run_bind_congr run' rfl)
  | payloadOfUnknownEnum missing _ carried =>
    intro visits
    cases carried (visits.tail (.payloadOfUnknownEnum missing)) with | optional _ run
    refine .expr rfl ?_
    rw [visitExpr, visitExpr]
    refine run_bind_congr rfl ?_
    simp only [result_registry, missing]
    exact run_bind_congr rfl (run_bind_congr run rfl)
  | payloadOfUnknownVariant found missing _ carried =>
    intro visits
    cases carried (visits.tail (.payloadOfUnknownVariant found missing)) with | optional _ run
    refine .expr rfl ?_
    rw [visitExpr, visitExpr]
    refine run_bind_congr rfl ?_
    simp only [result_registry, found, missing]
    exact run_bind_congr rfl (run_bind_congr run rfl)
  | payloadOfVariant found known _ carried =>
    intro visits
    cases carried (visits.tail (.payloadOfVariant found known)) with | optional isSome run
    refine .expr rfl ?_
    rw [visitExpr, visitExpr]
    refine run_bind_congr rfl ?_
    simp only [result_registry, found, known, isSome]
    exact run_bind_congr rfl (run_bind_congr run rfl)
  | block _ inner =>
    intro visits
    cases inner (visits.tail .block) with | block span run
    refine .expr (Expr.face_block span) ?_
    rw [visitExpr, visitExpr]
    exact run_bind_congr run rfl
  | optional _ inner =>
    intro visits
    cases inner (visits.tail .optional) with | expr face run
    refine .optional rfl ?_
    rw [visitOptional, visitOptional, Expr.span_eq face]
    exact run_bind_congr run rfl
  | text _ others =>
    intro visits
    cases others (visits.tail .behindText) with | parts run
    refine .parts ?_
    rw [visitParts, visitParts]
    exact run
  | embedded _ _ first others =>
    intro visits
    cases first (visits.tail .embedded) with | expr face run
    cases others (visits.tail .behindEmbedded) with | parts run'
    refine .parts ?_
    rw [visitParts, visitParts, Expr.span_eq face]
    exact run_bind_congr run (run_bind_congr rfl run')
  | args _ _ first others =>
    intro visits
    cases first (visits.tail .firstArg) with | expr face run
    cases others (visits.tail .moreArgs) with | args run'
    refine .args ?_
    rw [visitArgs, visitArgs, Expr.span_eq face]
    exact run_bind_congr run (run_bind_congr run' rfl)
  | printed _ _ first others =>
    intro visits
    cases first (visits.tail .firstPrinted) with | expr face run
    cases others (visits.tail .morePrinted) with | printed run'
    refine .printed ?_
    rw [visitPrinted, visitPrinted, Expr.span_eq face]
    exact run_bind_congr run (run_bind_congr rfl run')
  | fieldValues _ _ first others =>
    intro visits
    cases first (visits.tail .firstValue) with | expr _ run
    cases others (visits.tail .moreValues) with | fieldValues run'
    refine .fieldValues ?_
    rw [visitFieldValues, visitFieldValues]
    exact run_bind_congr run run'
  | fields _ _ first others =>
    intro visits
    cases first (visits.tail .firstField) with | expr face run
    cases others (visits.tail .moreFields) with | fields names run'
    refine .fields (congrArg (_ :: ·) names) ?_
    rw [visitFields, visitFields, Expr.span_eq face]
    exact run_bind_congr rfl (run_bind_congr run (run_bind_congr rfl run'))
  | @branches initializer initializer' _ _ _ _ _ _ _ _ _ _ _ _ initial tested first second =>
    intro visits
    cases initial (visits.tail .initializer) with | initializer isSome initialRun
    cases tested (visits.tail .condition) with | expr face testedRun
    cases first (visits.tail .consequence) with | block span firstRun
    cases second (visits.tail .alternative) with | otherwise span' secondRun
    have exit : exitInitializer initializer' = exitInitializer initializer := by
      cases initializer <;> cases initializer' <;> first | rfl | cases isSome
    refine .conditional rfl ?_
    rw [visitConditional_eq, visitConditional_eq, exit]
    unfold visitBranches
    rw [Expr.span_eq face, span, span']
    refine run_bind_congr initialRun (run_bind_congr ?_ rfl)
    exact run_bind_congr testedRun (run_bind_congr rfl (run_bind_congr firstRun
      (run_bind_congr rfl (run_bind_congr secondRun rfl))))
  | initializer _ inner =>
    intro visits
    cases inner (visits.tail .initialized) with | var _ _ run
    refine .initializer rfl ?_
    rw [visitInitializer, visitInitializer]
    exact run_bind_congr rfl run
  | otherwise _ inner =>
    intro visits
    cases inner (visits.tail .otherwise) with | block span run
    refine .otherwise span ?_
    rw [visitOtherwise, visitOtherwise]
    exact run_bind_congr run rfl
  | elseIf _ inner =>
    intro visits
    cases inner (visits.tail .elseIf) with | conditional span run
    refine .otherwise span ?_
    rw [visitOtherwise, visitOtherwise]
    exact run
  | @cases _ value value' _ _ _ _ _ _ matched taken =>
    intro visits
    cases matched (visits.tail .matched) with | expr face run
    cases taken (visits.tail .arms) with | arms heads run'
    refine .matching rfl ?_
    rw [visitMatch, visitMatch]
    simp only [matchedEnum?_congr face heads, Arms.findings_congr heads _ _ value value']
    exact run_bind_congr run (run_bind_congr rfl (run_bind_congr rfl (run_bind_congr rfl
      (run_bind_congr run' rfl))))
  | arms _ _ first others =>
    intro visits
    cases first (visits.tail .firstArm) with | arm head run
    cases others (visits.tail .moreArms) with | arms heads run'
    refine .arms (congrArg₂ List.cons head heads) ?_
    rw [visitArms, visitArms]
    exact run_bind_congr run (run_bind_congr run' rfl)
  | arm _ _ _ bound guarded inner =>
    intro visits
    cases bound (visits.tail .pattern) with | pattern head run
    cases guarded (visits.tail .guard) with | optional isSome run'
    cases inner (visits.tail .armBody) with | expr face run''
    refine .arm (Arm.head_eq _ _ _ head isSome) ?_
    rw [visitArm_eq, visitArm_eq]
    unfold visitArmParts
    rw [Expr.span_eq face]
    refine run_bind_congr rfl (run_bind_congr ?_ rfl)
    exact run_bind_congr run (run_bind_congr run' (run_bind_congr rfl (run_bind_congr run'' rfl)))
  | literal _ inner =>
    intro visits
    cases inner (visits.tail .literal) with | expr _ run
    refine .pattern rfl ?_
    rw [visitPattern, visitPattern]
    exact run_bind_congr run rfl
  | body _ inner =>
    intro visits
    cases inner (visits.tail .body) with | stmts heads run
    refine .block rfl ?_
    rw [visitBlock, visitBlock, hoist_eq heads]
    exact run_bind_congr rfl (run_bind_congr rfl (run_bind_congr rfl (run_bind_congr run rfl)))
  | @live _ progress _ _ _ _ _ _ reached visited _ _ first others =>
    intro visits
    cases first (visits.tail (.live reached)) with | stmt head run
    cases others (visits.tail (.behindLive reached visited)) with | stmts heads run'
    refine .stmts (congrArg₂ List.cons head heads) ?_
    subst visited
    rcases progress with ⟨ty, returns⟩
    cases reached
    rw [visitStmts_live, visitStmts_live, Stmt.isEmpty_eq heads]
    exact run_bind_congr run run'
  | @dead _ progress _ _ _ _ _ stopped _ _ first others =>
    intro visits
    cases first (visits.tail (.dead stopped)) with | stmt head run
    cases others (visits.tail (.behindDead stopped)) with | stmts heads run'
    refine .stmts (congrArg₂ List.cons head heads) ?_
    rcases progress with ⟨ty, returns⟩
    cases stopped
    rw [visitStmts_dead, visitStmts_dead, Stmt.isEmpty_eq heads]
    unfold visitDead
    rw [Stmt.span_eq head]
    refine run_bind_congr ?_ run'
    exact run_bind_congr rfl (run_bind_congr rfl (run_bind_congr run rfl))
  | declaration _ inner =>
    intro visits
    cases inner (visits.tail .var) with | var span exported run
    refine .stmt (congrArg (Stmt.returns none) span) ?_
    rw [visitStmt, visitStmt, exported]
    exact run_bind_congr run rfl
  | function _ inner =>
    intro visits
    cases inner (visits.tail .function) with | block _ run
    refine .stmt rfl ?_
    rw [visitStmt, visitStmt]
    refine run_bind_congr rfl ?_
    rw [result_openFunction]
    exact run_bind_congr run rfl
  | print _ inner =>
    intro visits
    cases inner (visits.tail .printed) with | printed run
    refine .stmt rfl ?_
    rw [visitStmt, visitStmt]
    exact run_bind_congr run rfl
  | returnsOutside outside _ inner =>
    intro visits
    cases inner (visits.tail (.returnedOutside outside)) with | optional _ run
    refine .stmt rfl ?_
    rw [visitStmt, visitStmt]
    refine run_bind_congr rfl ?_
    rw [result_frame?, outside]
    exact run_bind_congr rfl (run_bind_congr run rfl)
  | @returns _ _ _ _ c inside _ inner =>
    intro visits
    cases inner (visits.tail (.returned inside)) with | optional _ run
    refine .stmt rfl ?_
    rw [visitStmt, visitStmt]
    refine run_bind_congr rfl ?_
    rw [result_frame?]
    cases frames : c.frames with
    | nil => exact absurd frames inside
    | cons frame rest => exact run_bind_congr run rfl
  | used used _ inner =>
    intro visits
    cases inner (visits.tail (.used used)) with | expr face run
    refine .stmt rfl ?_
    rw [visitStmt, visitStmt, Expr.isEffectful_eq face, if_pos used, if_pos used]
    exact run_bind_congr run rfl
  | useless unused _ inner =>
    intro visits
    cases inner (visits.tail (.useless unused)) with | expr face run
    refine .stmt rfl ?_
    rw [visitStmt, visitStmt, Expr.isEffectful_eq face, unused]
    exact run_bind_congr rfl (run_bind_congr run rfl)
  | topLevel _ _ first others =>
    intro visits
    cases first (visits.tail .first) with | stmt head run
    cases others (visits.tail .others) with | topLevel heads run'
    refine .topLevel (congrArg₂ List.cons head heads) ?_
    rw [visitTopLevel, visitTopLevel]
    exact run_bind_congr run run'

/-- If a part of a tree is replaced by one with more written types, then the tree has more written
types, and its visit makes the visit of the new part in place of the old one. -/
theorem of_enters {v w : Visit} {task : Task} (enters : Enters v w) (inner : Ascribes w task)
    (agree : w.task.Agree w.start task) :
    ∃ whole, Ascribes v whole ∧ Enters ⟨whole, v.start⟩ ⟨task, w.start⟩ := by
  cases enters with
  | interpolated => cases agree; exact ⟨_, .interpolated inner, .interpolated⟩
  | left => cases agree; exact ⟨_, .binary inner .same, .left⟩
  | right => cases agree; exact ⟨_, .binary .same inner, .right⟩
  | operand => cases agree; exact ⟨_, .unary inner, .operand⟩
  | callee => cases agree; exact ⟨_, .call inner .same, .callee⟩
  | args => cases agree; exact ⟨_, .call .same inner, .args⟩
  | conditional => cases agree; exact ⟨_, .conditional inner, .conditional⟩
  | matching => cases agree; exact ⟨_, .matching inner, .matching⟩
  | literalOfUnknown missing =>
    cases agree
    exact ⟨_, .literalOfUnknown missing inner, .literalOfUnknown missing⟩
  | literalOfStruct found =>
    cases agree
    exact ⟨_, .literalOfStruct found inner, .literalOfStruct found⟩
  | @target target _ _ c =>
    -- Which constructor applies depends on what the type of the target says about the fields.
    cases agree
    by_cases typed : ∃ struct, (result (visitExpr target) c).ty = .struct struct
    · rcases typed with ⟨struct, typed⟩
      cases found : (after (visitExpr target) c).registry.structs.get? struct with
      | none => exact ⟨_, .updateOfUnknown inner typed found .same, .target⟩
      | some declared => exact ⟨_, .updateOfStruct inner typed found .same, .target⟩
    · exact ⟨_, .updateOfOther inner (not_exists.mp typed) .same, .target⟩
  | updateOfUnknown typed missing =>
    cases agree
    exact ⟨_, .updateOfUnknown .same typed missing inner, .updateOfUnknown typed missing⟩
  | updateOfStruct typed found =>
    cases agree
    exact ⟨_, .updateOfStruct .same typed found inner, .updateOfStruct typed found⟩
  | updateOfOther untyped =>
    cases agree
    exact ⟨_, .updateOfOther .same untyped inner, .updateOfOther untyped⟩
  | payloadOfUnknownEnum missing =>
    cases agree
    exact ⟨_, .payloadOfUnknownEnum missing inner, .payloadOfUnknownEnum missing⟩
  | payloadOfUnknownVariant found missing =>
    cases agree
    exact ⟨_, .payloadOfUnknownVariant found missing inner, .payloadOfUnknownVariant found missing⟩
  | payloadOfVariant found known =>
    cases agree with | optional isSome _
    refine ⟨_, .payloadOfVariant found known inner, ?_⟩
    rw [← isSome]
    exact .payloadOfVariant found known
  | block => cases agree; exact ⟨_, .block inner, .block⟩
  | optional => cases agree; exact ⟨_, .optional inner, .optional⟩
  | behindText => cases agree; exact ⟨_, .text inner, .behindText⟩
  | embedded => cases agree; exact ⟨_, .embedded inner .same, .embedded⟩
  | behindEmbedded => cases agree; exact ⟨_, .embedded .same inner, .behindEmbedded⟩
  | firstArg => cases agree; exact ⟨_, .args inner .same, .firstArg⟩
  | moreArgs => cases agree; exact ⟨_, .args .same inner, .moreArgs⟩
  | firstPrinted => cases agree; exact ⟨_, .printed inner .same, .firstPrinted⟩
  | morePrinted => cases agree; exact ⟨_, .printed .same inner, .morePrinted⟩
  | firstValue => cases agree; exact ⟨_, .fieldValues inner .same, .firstValue⟩
  | moreValues => cases agree; exact ⟨_, .fieldValues .same inner, .moreValues⟩
  | firstField => cases agree; exact ⟨_, .fields inner .same, .firstField⟩
  | moreFields => cases agree; exact ⟨_, .fields .same inner, .moreFields⟩
  | initializer => cases agree; exact ⟨_, .branches inner .same .same .same, .initializer⟩
  | condition => cases agree; exact ⟨_, .branches .same inner .same .same, .condition⟩
  | consequence => cases agree; exact ⟨_, .branches .same .same inner .same, .consequence⟩
  | alternative => cases agree; exact ⟨_, .branches .same .same .same inner, .alternative⟩
  | initialized => cases agree; exact ⟨_, .initializer inner, .initialized⟩
  | otherwise => cases agree; exact ⟨_, .otherwise inner, .otherwise⟩
  | elseIf => cases agree; exact ⟨_, .elseIf inner, .elseIf⟩
  | matched => cases agree; exact ⟨_, .cases inner .same, .matched⟩
  | @arms _ value _ _ _ =>
    cases agree with | arms heads _
    refine ⟨_, .cases .same inner, ?_⟩
    simp only [← matchedEnum?_congr rfl heads, ← Arms.findings_congr heads _ _ value value]
    exact .arms
  | firstArm => cases agree; exact ⟨_, .arms inner .same, .firstArm⟩
  | moreArms => cases agree; exact ⟨_, .arms .same inner, .moreArms⟩
  | pattern => cases agree; exact ⟨_, .arm inner .same .same, .pattern⟩
  | guard => cases agree; exact ⟨_, .arm .same inner .same, .guard⟩
  | armBody => cases agree; exact ⟨_, .arm .same .same inner, .armBody⟩
  | literal => cases agree; exact ⟨_, .literal inner, .literal⟩
  | body =>
    cases agree with | stmts heads _
    refine ⟨_, .body inner, ?_⟩
    rw [← hoist_eq heads]
    exact .body
  | live reached => cases agree; exact ⟨_, .live reached rfl inner .same, .live reached⟩
  | behindLive reached visited =>
    cases agree with | stmts heads _
    refine ⟨_, .live reached visited .same inner, ?_⟩
    rw [← Stmt.isEmpty_eq heads] at visited ⊢
    exact .behindLive reached visited
  | dead stopped =>
    cases agree with | stmt head _
    refine ⟨_, .dead stopped inner .same, ?_⟩
    rw [← Stmt.span_eq head]
    exact .dead stopped
  | behindDead stopped =>
    cases agree with | stmts heads _
    refine ⟨_, .dead stopped .same inner, ?_⟩
    rw [← Stmt.isEmpty_eq heads]
    exact .behindDead stopped
  | var =>
    cases agree with | var _ exported _
    refine ⟨_, .declaration inner, ?_⟩
    rw [← exported]
    exact .var
  | function => cases agree; exact ⟨_, .function inner, .function⟩
  | printed => cases agree; exact ⟨_, .print inner, .printed⟩
  | returnedOutside outside =>
    cases agree
    exact ⟨_, .returnsOutside outside inner, .returnedOutside outside⟩
  | returned inside => cases agree; exact ⟨_, .returns inside inner, .returned inside⟩
  | used used =>
    cases agree with | expr face _
    exact ⟨_, .used used inner, .used (by rwa [Expr.isEffectful_eq face])⟩
  | useless unused =>
    cases agree with | expr face _
    exact ⟨_, .useless unused inner, .useless (by rwa [Expr.isEffectful_eq face])⟩
  | initial => cases agree; exact ⟨_, .var inner, .initial⟩
  | first => cases agree; exact ⟨_, .topLevel inner .same, .first⟩
  | others => cases agree; exact ⟨_, .topLevel .same inner, .others⟩

/-- The same for a part further inside. -/
theorem of_reaches {v w : Visit} {task : Task} (reaches : Reaches v w) (inner : Ascribes w task) :
    m.Visits options v → ∃ whole, Ascribes v whole ∧ Reaches ⟨whole, v.start⟩ ⟨task, w.start⟩ := by
  induction reaches using Relation.ReflTransGen.head_induction_on with
  | refl => exact fun _ => ⟨task, inner, .refl⟩
  | head enters _ ih =>
    intro visits
    have visits := visits.tail enters
    rcases ih visits with ⟨part, ascribes, reaches⟩
    rcases ascribes.of_enters enters (ascribes.agree visits) with ⟨whole, ascribes, enters⟩
    exact ⟨whole, ascribes, .head enters reaches⟩

end Ascribes

/-! Whole modules. -/

namespace Module

theorem checked_eq_of_ascribes {m m' : Module} {options : Options}
    (ascribes : Ascribes (m.visit options) (.topLevel m'.body)) :
    m'.checked options = m.checked options := by
  cases ascribes.agree (.refl : m.Visits options (m.visit options)) with | topLevel heads run
  have start := start_congr heads options
  have finish : (m'.visit options).finish = (m.visit options).finish := by
    change after (visitTopLevel m'.body) (m'.visit options).start = _
    rw [start]
    exact congrArg Prod.snd run
  rw [checked_eq, checked_eq, finish]

/-- Whatever the check comes to may be given more written types in its place. -/
theorem exists_ascribes {m : Module} {options : Options} {w : Visit} {task : Task}
    (visits : m.Visits options w) (inner : Ascribes w task) :
    ∃ m' : Module, Ascribes (m.visit options) (.topLevel m'.body) ∧
      m'.Visits options ⟨task, w.start⟩ := by
  have here : m.Visits options (m.visit options) := .refl
  rcases inner.of_reaches visits here with ⟨whole, ascribes, reaches⟩
  cases ascribes.agree here with | topLevel heads _
  refine ⟨⟨_⟩, ascribes, ?_⟩
  rw [← start_congr heads options] at reaches
  exact reaches

/-- Writing down inferred types changes nothing.  If a module is changed in that variables without
a written type get the names of the types that the check finds for their values, and these names
stand for those types, then the check leaves the same state: the same reports, the same global
scope and the same registries.  Every variable that the check comes to may be changed so. -/
theorem inferred_types_redundant (m : Module) (options : Options) :
    (∀ m' : Module, Ascribes (m.visit options) (.topLevel m'.body) →
      m'.checked options = m.checked options) ∧
    ∀ (flags : Flags) (decl : VarDecl) (c : Checker) (type : String) (site : Span),
      m.Visits options ⟨.var flags decl, c⟩ → decl.ascription = none →
      c.registry.StandsFor type (result (visitExpr decl.value) c).ty →
      ∃ m' : Module, Ascribes (m.visit options) (.topLevel m'.body) ∧
        m'.Visits options
          ⟨.var flags { decl with ascription := some (.named type site) }, c⟩ := by
  refine ⟨fun m' => checked_eq_of_ascribes, ?_⟩
  rintro flags ⟨name, mutable, ascription, value, exported, span⟩ c type site visits untyped stands
  cases untyped
  exact exists_ascribes visits (.written .same rfl stands)

/-- A struct in a function and a number at top level, and the check comes to the number. -/
theorem inferred_types_redundant_point :
    let s := Span.null
    let point (written : Option TypeExpr) : VarDecl :=
      ⟨"p", false, written, .construct "Point" [] s, false, s⟩
    let count (written : Option TypeExpr) : VarDecl := ⟨"n", false, written, .int 1 s, true, s⟩
    let module (inner outer : Option TypeExpr) : Module :=
      ⟨[.struct ⟨"Point", [], s⟩, .var (count outer),
        .function ⟨"f", [], none, true, s⟩
          ⟨[.var (point inner), .returns (some (.identifier "p" s)) s], s⟩]⟩
    (module (some (.named "Point" s)) (some (.named "Int" s))).checked {} =
        (module none none).checked {} ∧
      ∃ (c : Checker) (m' : Module), Ascribes ((module none none).visit {}) (.topLevel m'.body) ∧
        m'.Visits {} ⟨.var (Flags.ofExport true true) (count (some (.named "Int" s))), c⟩ := by
  intro s point count module
  rcases inferred_types_redundant (module none none) {} with ⟨unchanged, everywhere⟩
  constructor
  · apply unchanged
    refine .topLevel .same (.topLevel (.declaration (.written .same rfl .int)) (.topLevel ?_ .same))
    refine .function (.body (.live rfl rfl (.declaration (.written .same ?_ (.struct rfl))) .same))
    decide +kernel
  · exact ⟨_, everywhere _ (count none) _ "Int" s (.tail (.tail (.single .others) .first) .var) rfl
      .int⟩

/-- A struct with the name of a built-in type, and an enum with the name of a struct.  The names
of the types that the check finds for the two variables stand for other types, and each of the two
variables is reported on if it is given the name of its type. -/
theorem check_ne_of_taken_names :
    let s := Span.null
    let x (written : Option TypeExpr) : VarDecl :=
      ⟨"x", false, written, .construct "Int" [] s, false, s⟩
    let y (written : Option TypeExpr) : VarDecl :=
      ⟨"y", false, written, .variant "Op" "A" none none s, false, s⟩
    let module (first second : Option TypeExpr) : Module :=
      ⟨[.var (x first), .var (y second), .struct ⟨"Int", [], s⟩, .struct ⟨"Op", [], s⟩,
        .enum ⟨"Op", [⟨"A", none, none, s⟩], s⟩]⟩
    let flags := Flags.ofExport true false
    (∃ c, (module none none).Visits {} ⟨.var flags (x none), c⟩ ∧
      (result (visitExpr (x none).value) c).ty = .struct "Int") ∧
    (∃ c, (module none none).Visits {} ⟨.var flags (y none), c⟩ ∧
      (result (visitExpr (y none).value) c).ty = .enum "Op") ∧
    (module (some (.named "Int" s)) none).check {} ≠ (module none none).check {} ∧
    (module none (some (.named "Op" s))).check {} ≠ (module none none).check {} := by
  intro s x y module flags
  refine ⟨⟨_, .tail (.single .first) .var, ?_⟩,
    ⟨_, .tail (.tail (.single .others) .first) .var, ?_⟩, ?_, ?_⟩ <;> decide +kernel

end Module

end ModuleCheck
