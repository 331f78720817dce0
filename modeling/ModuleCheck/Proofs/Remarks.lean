import ModuleCheck.Proofs.ControlFlow
import ModuleCheck.Proofs.Gains
import ModuleCheck.Proofs.Passage

namespace ModuleCheck

/-!
What a check remarks on whatever the types are.

Four kinds of places in a tree are remarked on: statements behind one that always returns,
expression statements whose value is not used and that do nothing, `return` statements outside
of all functions, and written types.  Which places these are, and in which order a visit comes
to them, is told by the syntax alone: by the verdict on what always returns, by the position of
each statement in its block, and by the functions around it.  The visits make exactly these
remarks.
-/

open Check

/-- A place in a tree that a visit remarks on. -/
inductive Remark where
  /-- A statement behind one that always returns. -/
  | unreachable (span : Span)
  /-- An expression statement that does nothing, where its value is not used. -/
  | useless (span : Span)
  /-- A `return` outside of all functions. -/
  | strayReturn (span : Span)
  /-- A written type of a variable, a parameter or a result. -/
  | written (t : TypeExpr)

namespace Remark

/-- The report on the position of a statement, if the remark is about one. -/
def flow? : Remark → Option Diagnostic
  | unreachable span => some (Diagnostic.error .unreachableStatement (some span))
  | useless span => some (Diagnostic.error .uselessExpression (some span))
  | strayReturn span => some (Diagnostic.error .returnOutsideFunction (some span))
  | written _ => none

/-- The written type, if the remark is about one. -/
def written? : Remark → Option TypeExpr
  | written t => some t
  | _ => none

end Remark

namespace Registry

/-- The reports on a written type. -/
def reportsOn (r : Registry) (t : TypeExpr) : List Diagnostic := (r.resolve (some t)).diagnostics

theorem diagnostics_resolve (r : Registry) (written : Option TypeExpr) :
    (r.resolve written).diagnostics = written.toList.flatMap r.reportsOn := by
  cases written with
  | none => rfl
  | some t => exact (List.append_nil _).symm

end Registry

namespace Remark

/-- What is reported where the remark is made. -/
def reports (r : Registry) : Remark → List Diagnostic
  | written t => r.reportsOn t
  | remark => remark.flow?.toList

end Remark

namespace Signature

/-- The written types of a function, in order. -/
def writtenTypes (s : Signature) : List TypeExpr :=
  s.params.filterMap Param.ascription ++ s.result.toList

theorem reports_eq (s : Signature) (r : Registry) :
    s.reports r = s.writtenTypes.flatMap r.reportsOn := by
  have params : ∀ params : List Param, (resolveParams r params).diagnostics =
      (params.filterMap Param.ascription).flatMap r.reportsOn := by
    intro params
    induction params with
    | nil => rfl
    | cons param rest ih =>
      cases written : param.ascription <;>
        simp [resolveParams, r.diagnostics_resolve, written, ih]
  rw [reports, writtenTypes, List.flatMap_append, params, r.diagnostics_resolve]

end Signature

namespace Remarks

mutual

/-- The remarks on an expression, inside a function or not, in the order of the visit. -/
def ofExpr (inside : Bool) : Expr → List Remark
  | .identifier .. | .int .. | .string .. | .bool .. => []
  | .interpolated parts _ _ => ofParts inside parts
  | .binary _ left right _ => ofExpr inside left ++ ofExpr inside right
  | .unary _ operand _ => ofExpr inside operand
  | .call callee args _ => ofExpr inside callee ++ ofExprs inside args
  | .conditional c => ofConditional inside c
  | .matching m => ofMatch inside m
  | .construct _ fields _ => ofFieldInits inside fields
  | .update target fields _ => ofExpr inside target ++ ofFieldInits inside fields
  | .variant _ _ _ payload _ => ofOptional inside payload
  | .block b => ofBlock inside true b

def ofExprs (inside : Bool) : List Expr → List Remark
  | [] => []
  | e :: rest => ofExpr inside e ++ ofExprs inside rest

def ofOptional (inside : Bool) : Option Expr → List Remark
  | none => []
  | some e => ofExpr inside e

def ofParts (inside : Bool) : List Part → List Remark
  | [] => []
  | .text .. :: rest => ofParts inside rest
  | .embedded e _ :: rest => ofExpr inside e ++ ofParts inside rest

def ofFieldInits (inside : Bool) : List FieldInit → List Remark
  | [] => []
  | { name := _, value, span := _ } :: rest => ofExpr inside value ++ ofFieldInits inside rest

def ofConditional (inside : Bool) : Conditional → List Remark
  | { initializer, condition, consequence, alternative, span := _ } =>
    ofInitializer inside initializer ++
      (ofExpr inside condition ++ ofBlock inside true consequence ++
        ofOtherwise inside alternative)

def ofInitializer (inside : Bool) : Option VarDecl → List Remark
  | none => []
  | some decl => ofVar inside decl

def ofOtherwise (inside : Bool) : Otherwise → List Remark
  | .block b => ofBlock inside true b
  | .elseIf c => ofConditional inside c

def ofMatch (inside : Bool) : Match → List Remark
  | { value, arms, span := _ } => ofExpr inside value ++ ofArms inside arms

def ofArms (inside : Bool) : List Arm → List Remark
  | [] => []
  | arm :: rest => ofArm inside arm ++ ofArms inside rest

def ofArm (inside : Bool) : Arm → List Remark
  | { pattern, guard, body, span := _ } =>
    ofPattern inside pattern ++ (ofOptional inside guard ++ ofExpr inside body)

def ofPattern (inside : Bool) : Pattern → List Remark
  | .literal value _ => ofExpr inside value
  | .wildcard _ | .variant .. => []

/-- The remarks on a block whose value is used or not. -/
def ofBlock (inside valued : Bool) : Block → List Remark
  | { body, span := _ } => ofStmts inside valued false body

/-- The remarks on the rest of a block, behind a statement that always returns or not.  Only
the last statement of a block stands for its value. -/
def ofStmts (inside valued dead : Bool) : List Stmt → List Remark
  | [] => []
  | stmt :: rest =>
    (if dead then [.unreachable stmt.span] else []) ++
      (ofStmt inside (valued && rest.isEmpty) stmt ++
        ofStmts inside valued (dead || AlwaysReturns.ofStmt stmt) rest)

/-- The value of a variable stands in front of its written type. -/
def ofVar (inside : Bool) : VarDecl → List Remark
  | { name := _, mutable := _, ascription, value, exported := _, span := _ } =>
    ofExpr inside value ++ ascription.toList.map .written

/-- The body of a function stands for a value exactly if the function has no written result. -/
def ofStmt (inside valued : Bool) : Stmt → List Remark
  | .imports _ | .struct _ | .enum _ => []
  | .var decl => ofVar inside decl
  | .function signature body =>
    signature.writtenTypes.map .written ++ ofBlock true signature.result.isNone body
  | .print _ args _ => ofExprs inside args
  | .returns value span =>
    (if inside then [] else [.strayReturn span]) ++ ofOptional inside value
  | .expr value span =>
    (if valued || value.isEffectful then [] else [.useless span]) ++ ofExpr inside value

end

/-- The remarks on a module.  At top level no statement is unreachable, and none stands for a
value. -/
def ofModule (m : Module) : List Remark := m.body.flatMap (ofStmt false false)

end Remarks

/-! States. -/

/-- Rules make no remarks. -/
theorem Reported.Among.unremarked {α : Type} {rule : Reported α} (ruled : rule.Among [.rule]) :
    Diagnostic.ofOrigins [.flow, .ascription] rule.diagnostics = [] :=
  Diagnostic.Among.ofOrigins_eq_nil ruled (by decide)

namespace Checker

/-- The reports so far on positions of statements and on written types. -/
def remarks (c : Checker) : List Diagnostic :=
  Diagnostic.ofOrigins [.flow, .ascription] c.diagnostics

/-- The check is inside a function or not, as told, and the registry is the given one. -/
structure Stands (inside : Bool) (r : Registry) (c : Checker) : Prop where
  frames : c.frames.isEmpty = !inside
  registry : c.registry = r

/-- Between the two states exactly the given remarks were made. -/
structure Noted (r : Registry) (c : Checker) (xs : List Remark) (c' : Checker) : Prop where
  registry : c'.registry = c.registry
  depth : c'.frames.length = c.frames.length
  remarks : c'.remarks = c.remarks ++ xs.flatMap (Remark.reports r)

/-- From where the first state stands, exactly the given remarks lead to the second one. -/
def Notes (inside : Bool) (r : Registry) (c : Checker) (xs : List Remark) (c' : Checker) : Prop :=
  c.Stands inside r → c.Noted r xs c'

/-- Between the two states nothing was remarked on: only names, scopes and rules had reports. -/
structure Unremarked (c c' : Checker) : Prop where
  registry : c'.registry = c.registry
  depth : c'.frames.length = c.frames.length
  reports : ∃ ds, Diagnostic.Among [.name, .scope, .rule] ds ∧
    c'.diagnostics = c.diagnostics ++ ds

variable {c c' c'' : Checker} {inside : Bool} {r : Registry} {xs ys : List Remark}

theorem Stands.behind (stands : c.Stands inside r) (registry : c'.registry = c.registry)
    (depth : c'.frames.length = c.frames.length) : c'.Stands inside r where
  frames := by
    rw [← stands.frames]
    cases frames : c.frames <;> cases frames' : c'.frames <;> simp_all
  registry := registry.trans stands.registry

theorem Noted.trans (one : c.Noted r xs c') (two : c'.Noted r ys c'') :
    c.Noted r (xs ++ ys) c'' where
  registry := two.registry.trans one.registry
  depth := two.depth.trans one.depth
  remarks := by rw [two.remarks, one.remarks, List.flatMap_append, List.append_assoc]

namespace Unremarked

theorem refl (c : Checker) : c.Unremarked c where
  registry := rfl
  depth := rfl
  reports := ⟨[], Diagnostic.among_nil, (List.append_nil _).symm⟩

theorem trans (one : c.Unremarked c') (two : c'.Unremarked c'') : c.Unremarked c'' := by
  rcases one.reports with ⟨ds, among, reported⟩
  rcases two.reports with ⟨ds', among', reported'⟩
  exact {
    registry := two.registry.trans one.registry
    depth := two.depth.trans one.depth
    reports := ⟨ds ++ ds', Diagnostic.among_append.mpr ⟨among, among'⟩, by
      rw [reported', reported, List.append_assoc]⟩ }

theorem remarks_eq (unremarked : c.Unremarked c') : c'.remarks = c.remarks := by
  rcases unremarked.reports with ⟨ds, among, reported⟩
  rw [Checker.remarks, reported, Diagnostic.ofOrigins_append,
    among.ofOrigins_eq_nil (by decide), List.append_nil]
  rfl

theorem noted (unremarked : c.Unremarked c') : c.Noted r [] c' where
  registry := unremarked.registry
  depth := unremarked.depth
  remarks := by rw [unremarked.remarks_eq, List.flatMap_nil, List.append_nil]

end Unremarked

theorem Idle.unremarked (idle : c.Idle c') : c.Unremarked c' where
  registry := idle.registry
  depth := idle.depth
  reports := by
    rcases idle.reports with ⟨ds, ruled, reported⟩
    exact ⟨ds, ruled.mono (by simp), reported⟩

instance : Cumulative (Notes inside r) where
  trans := by
    intro c c' c'' xs ys one two stands
    have first := one stands
    exact first.trans (two (stands.behind first.registry first.depth))
  idle := fun idle _ => idle.unremarked.noted

end Checker

/-! Steps that nothing is remarked on in. -/

namespace Check

variable {α β : Type}

/-- In no run of the step anything is remarked on. -/
def Unremarked (step : Check α) : Prop := ∀ c : Checker, c.Unremarked (after step c)

namespace Unremarked

theorem pure (value : α) : Unremarked (Pure.pure value : Check α) := fun c => .refl c

theorem bind {step : Check α} {next : α → Check β} (first : Unremarked step)
    (rest : ∀ value, Unremarked (next value)) : Unremarked (step >>= next) :=
  fun c => (first c).trans (rest _ _)

theorem idle {step : Check α} (idles : Idle step) : Unremarked step :=
  fun c => (idles c).unremarked

theorem modifyEnvironment (f : Environment → Environment) : Unremarked (modifyEnvironment f) :=
  fun c => { Checker.Unremarked.refl c with }

theorem declare (name : String) (ty : Ty) (flags : Flags) (span : Option Span) :
    Unremarked (declare name ty flags span) :=
  modifyEnvironment _

theorem useName (name : String) (span : Option Span) : Unremarked (useName name span) := by
  intro c
  cases bound : c.environment.lookup? name with
  | none =>
    rw [(useName_of_unbound bound span).2]
    exact ⟨rfl, rfl, _, by simp [Issue.origin], rfl⟩
  | some binding =>
    rw [(useName_of_bound bound span).2]
    exact { Checker.Unremarked.refl c with }

theorem tagLiteral (name : String) (value : Expr) : Unremarked (tagLiteral name value) := by
  cases value with
  | variant => exact modifyEnvironment _
  | _ => exact .pure _

theorem enterScope : Unremarked enterScope := modifyEnvironment _

/-- Closing a scope reports on the scope. -/
theorem exitScope : Unremarked exitScope := by
  intro c
  cases popped : c.environment.pop? with
  | none =>
    rw [after_exitScope_global popped]
    exact { Checker.Unremarked.refl c with }
  | some pair =>
    rw [after_exitScope popped]
    exact ⟨rfl, rfl, _, (Scope.among_unusedLocals _ _).mono (by simp), rfl⟩

theorem exitInitializer (decl : Option VarDecl) : Unremarked (exitInitializer decl) := by
  cases decl with
  | none => exact .pure _
  | some _ => exact exitScope

theorem returnsSeen : Unremarked returnsSeen := fun c => .refl c

theorem returnsSince (count : Nat) : Unremarked (returnsSince count) := by
  refine bind (fun c => .refl c) fun frame => ?_
  cases frame with
  | none => exact .pure _
  | some frame =>
    dsimp only
    split
    · exact bind (fun c => { Checker.Unremarked.refl c with }) fun _ => .pure _
    · exact .pure _

theorem truncateReturns (count : Nat) : Unremarked (truncateReturns count) :=
  idle (Idle.modifyReturns _)

/-- Written types of functions are not remarked on ahead. -/
theorem hoist (topLevel : Bool) (stmts : List Stmt) : Unremarked (hoist topLevel stmts) := by
  induction stmts with
  | nil => exact .pure _
  | cons stmt rest ih =>
    cases stmt with
    | function signature body =>
      exact (idle .registry).bind fun _ => (declare _ _ _ _).bind fun _ => ih
    | _ => exact ih

theorem declareParams (params : List Param) (types : List Ty) :
    Unremarked (declareParams params types) := by
  induction params generalizing types with
  | nil => exact .pure _
  | cons param rest ih =>
    cases types with
    | nil => exact .pure _
    | cons ty others => exact (declare _ _ _ _).bind fun _ => ih others

theorem declareImports (topLevel : Bool) (span : Span) (names : List String) :
    Unremarked (declareImports topLevel span names) := by
  induction names with
  | nil => exact .pure _
  | cons name rest ih => exact (declare _ _ _ _).bind fun _ => ih

theorem bindVariant (matched : Option String) (enum variant : String) (binding : Option String)
    (span : Span) : Unremarked (bindVariant matched enum variant binding span) := by
  refine (idle .registry).bind fun r =>
    (idle (.settle (Arms.among_bindingType r _ _ _ _ _))).bind fun ty => ?_
  cases binding with
  | none => exact .pure _
  | some name => exact declare _ _ _ _

end Unremarked

/-! Steps with remarks. -/

open Checker (Notes Noted Stands)

variable {inside : Bool} {r : Registry} {xs : List Remark} {c c' : Checker}

theorem Gains.unremarked {step : Check α} (unremarked : Unremarked step) :
    Gains (Notes inside r) [] step :=
  fun c _ => (unremarked c).noted

/-- The report on the position of a statement. -/
theorem notes_error {issue : Issue} {span : Span} (remark : Remark)
    (reported : remark.reports r = [Diagnostic.error issue (some span)])
    (flow : issue.origin = .flow) :
    Gains (Notes inside r) [remark] (error issue (some span)) := by
  intro c _
  refine ⟨rfl, rfl, ?_⟩
  simp [Checker.remarks, Diagnostic.ofOrigins, reported, Diagnostic.error, flow]

/-- Reports on written types. -/
theorem remarks_written (r : Registry) (types : List TypeExpr) :
    Diagnostic.ofOrigins [.flow, .ascription] (types.flatMap r.reportsOn) =
      (types.map Remark.written).flatMap (Remark.reports r) := by
  rw [List.flatMap_map]
  apply List.filter_eq_self.mpr
  intro d member
  rcases List.mem_flatMap.mp member with ⟨t, _, reported⟩
  have origin := r.among_resolve (some t) d reported
  simp_all

theorem notes_initial {value : Expr} (valued : Gains (Notes inside r) xs (visitExpr value))
    (name : String) (ascription : Option TypeExpr) (span : Span) :
    Gains (Notes inside r) (xs ++ ascription.toList.map .written)
      (visitInitial name ascription value span) := by
  refine valued.bind fun outcome c stands => ?_
  have known := stands.registry
  subst known
  refine ⟨rfl, rfl, ?_⟩
  have given := (Rules.among_requireValue outcome.ty "Initializer" value.span).unremarked
  rw [← remarks_written]
  cases ascription with
  | none => simp [Checker.remarks, Rules.variableType, given]
  | some t =>
    have fits : (Rules.requireCompatible outcome.ty (c.registry.resolve (some t)).value
        (.typeMismatch name (c.registry.resolve (some t)).value.text outcome.ty.text)
        span).Among [.rule] :=
      (Rules.among_requireCompatible _ _ _ _).mpr (Or.inr List.mem_cons_self)
    simp [Checker.remarks, Rules.variableType, Registry.reportsOn, given, fits.unremarked]

/-- A statement in a function or outside of all functions. -/
theorem notes_returned {value : Option Expr}
    (inner : Gains (Notes inside r) xs (visitOptional value)) (place : Place) (span : Span) :
    Gains (Notes inside r) ((if inside then [] else [.strayReturn span]) ++ xs)
      (visitStmt place (.returns value span)) := by
  rw [visitStmt]
  intro c stands
  have frames := stands.frames
  -- The flag tells whether there is a frame.
  cases inside with
  | false =>
    rw [after_bind, result_frame?, after_frame?, List.isEmpty_iff.mp frames]
    have reported : Gains (Notes false r) [.strayReturn span]
        (error .returnOutsideFunction (some span)) := notes_error _ rfl rfl
    exact (reported.bind fun _ => inner.trail fun _ => .pure _) c stands
  | true =>
    rw [after_bind, result_frame?, after_frame?]
    cases entered : c.frames with
    | nil => simp [entered] at frames
    | cons frame rest =>
      exact (inner.trail fun _ => (Idle.settle (Rules.among_returned _ _ _)).bind fun _ =>
        (Idle.modifyReturns _).bind fun _ => .pure _) c stands

theorem notes_stated {value : Expr} (inner : Gains (Notes inside r) xs (visitExpr value))
    (place : Place) (span : Span) :
    Gains (Notes inside r)
      ((if place.valued || value.isEffectful then [] else [.useless span]) ++ xs)
      (visitStmt place (.expr value span)) := by
  rw [visitStmt]
  split
  · exact inner.trail fun _ => .pure _
  · exact (notes_error _ rfl rfl).bind fun _ => inner.trail fun _ => .pure _

/-- The written types of a function are remarked on ahead of its body. -/
theorem noted_afterParams (signature : Signature) (topLevel : Bool) (c : Checker) :
    c.Noted c.registry (signature.writtenTypes.map .written)
      (afterParams signature topLevel c) := by
  have signed : c.Noted c.registry (signature.writtenTypes.map .written)
      (afterSignature signature topLevel c) := by
    refine ⟨rfl, rfl, ?_⟩
    rw [← remarks_written, ← signature.reports_eq]
    exact Diagnostic.ofOrigins_append
  have declared := (Unremarked.enterScope.bind fun _ => Unremarked.declareParams
    signature.params (signature.paramTypes c.registry)) (afterSignature signature topLevel c)
  have both := signed.trans declared.noted
  rwa [List.append_nil] at both

/-- Behind its frame, the end of a function is not remarked on. -/
theorem unremarked_closeFunction (signature : Signature) (expected : Option Ty)
    (body : BlockOutcome) (c : Checker) :
    (after popFrame c).Unremarked (after (closeFunction signature expected body) c) := by
  have left := (Unremarked.idle (.settle (Rules.among_functionResult signature.name expected
    body signature.span))).bind (fun _ => Unremarked.exitScope) (after popFrame c)
  rw [after_closeFunction]
  exact { left with }

/-- The body of a function stands inside a function, wherever the function stands. -/
theorem notes_function {signature : Signature} {body : Block}
    (inner : Gains (Notes true r) xs (visitBlock signature.result.isNone body)) (place : Place) :
    Gains (Notes inside r) (signature.writtenTypes.map .written ++ xs)
      (visitStmt place (.function signature body)) := by
  rw [visitStmt]
  intro c stands
  have known := stands.registry
  subst known
  have signed := noted_afterParams signature place.topLevel c
  have opened := after_openFunction_eq signature place.topLevel c
  have valued : (result (openFunction signature place.topLevel) c).isNone =
      signature.result.isNone := by
    simp [Signature.declaredResult]
  rw [after_bind, after_bind, valued, opened]
  have visited := inner (after (pushFrame (signature.declaredResult c.registry))
    (afterParams signature place.topLevel c)) ⟨rfl, signed.registry⟩
  have closed := fun expected outcome => unremarked_closeFunction signature expected outcome
    (after (visitBlock signature.result.isNone body)
      (after (pushFrame (signature.declaredResult c.registry))
        (afterParams signature place.topLevel c)))
  constructor
  · exact (closed _ _).registry.trans (visited.registry.trans signed.registry)
  · have depth := visited.depth.trans (congrArg (· + 1) signed.depth)
    refine (closed _ _).depth.trans ?_
    rw [after_popFrame, List.length_tail, depth]
    rfl
  · rw [List.flatMap_append, ← List.append_assoc, ← signed.remarks]
    exact (closed _ _).remarks_eq.trans visited.remarks

/-! The visits, by the recursion over the syntax that lists the remarks. -/

mutual

theorem visitExpr_notes (inside : Bool) (r : Registry) :
    (e : Expr) → Gains (Notes inside r) (Remarks.ofExpr inside e) (visitExpr e)
  | .identifier name span => by
    rw [visitExpr, Remarks.ofExpr]
    exact (Gains.unremarked (.useName name _)).trail fun _ => .pure _
  | .int .. => by rw [visitExpr, Remarks.ofExpr]; exact .idle (.pure _)
  | .string .. => by rw [visitExpr, Remarks.ofExpr]; exact .idle (.pure _)
  | .bool .. => by rw [visitExpr, Remarks.ofExpr]; exact .idle (.pure _)
  | .interpolated parts _ _ => by
    rw [Remarks.ofExpr]
    exact (visitParts_notes inside r parts).interpolated _ _
  | .binary op left right span => by
    rw [Remarks.ofExpr]
    exact (visitExpr_notes inside r left).binary (visitExpr_notes inside r right) op span
  | .unary op operand span => by
    rw [Remarks.ofExpr]
    exact (visitExpr_notes inside r operand).unary op span
  | .call callee args span => by
    rw [Remarks.ofExpr]
    exact (visitExpr_notes inside r callee).call (visitArgs_notes inside r args) span
  | .conditional k => by
    rw [visitExpr, Remarks.ofExpr]
    exact visitConditional_notes inside r k
  | .matching m => by
    rw [Remarks.ofExpr]
    exact (visitMatch_notes inside r true m).matching
  | .construct struct fields span => by
    rw [Remarks.ofExpr]
    exact (visitFieldValues_notes inside r fields).construct
      (fun _ _ _ => visitFields_notes inside r _ _ _ fields) struct span
  | .update target fields span => by
    rw [Remarks.ofExpr]
    exact (visitExpr_notes inside r target).update (visitFieldValues_notes inside r fields)
      (fun _ _ _ => visitFields_notes inside r _ _ _ fields) span
  | .variant enum variant _ payload span => by
    rw [Remarks.ofExpr]
    exact (visitOptional_notes inside r payload).variant enum variant _ span
  | .block b => by
    rw [Remarks.ofExpr]
    exact (visitBlock_notes inside r true b).block

theorem visitOptional_notes (inside : Bool) (r : Registry) :
    (e : Option Expr) → Gains (Notes inside r) (Remarks.ofOptional inside e) (visitOptional e)
  | none => by rw [visitOptional, Remarks.ofOptional]; exact .idle (.pure _)
  | some e => by
    rw [Remarks.ofOptional]
    exact (visitExpr_notes inside r e).optional

theorem visitParts_notes (inside : Bool) (r : Registry) :
    (parts : List Part) → Gains (Notes inside r) (Remarks.ofParts inside parts) (visitParts parts)
  | [] => by rw [visitParts, Remarks.ofParts]; exact .idle (.pure _)
  | .text .. :: rest => by
    rw [visitParts, Remarks.ofParts]
    exact visitParts_notes inside r rest
  | .embedded e span :: rest => by
    rw [Remarks.ofParts]
    exact (visitExpr_notes inside r e).embedded (visitParts_notes inside r rest) span

theorem visitArgs_notes (inside : Bool) (r : Registry) :
    (args : List Expr) → Gains (Notes inside r) (Remarks.ofExprs inside args) (visitArgs args)
  | [] => by rw [visitArgs, Remarks.ofExprs]; exact .idle (.pure _)
  | e :: rest => by
    rw [Remarks.ofExprs]
    exact (visitExpr_notes inside r e).arg (visitArgs_notes inside r rest)

theorem visitPrinted_notes (inside : Bool) (r : Registry) :
    (args : List Expr) → Gains (Notes inside r) (Remarks.ofExprs inside args) (visitPrinted args)
  | [] => by rw [visitPrinted, Remarks.ofExprs]; exact .idle (.pure _)
  | e :: rest => by
    rw [Remarks.ofExprs]
    exact (visitExpr_notes inside r e).printed (visitPrinted_notes inside r rest)

theorem visitFieldValues_notes (inside : Bool) (r : Registry) :
    (fields : List FieldInit) →
      Gains (Notes inside r) (Remarks.ofFieldInits inside fields) (visitFieldValues fields)
  | [] => by rw [visitFieldValues, Remarks.ofFieldInits]; exact .idle (.pure _)
  | ⟨name, value, span⟩ :: rest => by
    rw [Remarks.ofFieldInits]
    exact (visitExpr_notes inside r value).fieldValue (visitFieldValues_notes inside r rest)
      name span

theorem visitFields_notes (inside : Bool) (r : Registry) (struct : String) (declared : Fields)
    (given : List String) :
    (fields : List FieldInit) →
      Gains (Notes inside r) (Remarks.ofFieldInits inside fields)
        (visitFields struct declared given fields)
  | [] => by rw [visitFields, Remarks.ofFieldInits]; exact .idle (.pure _)
  | ⟨name, value, span⟩ :: rest => by
    rw [Remarks.ofFieldInits]
    exact (visitExpr_notes inside r value).field (visitFields_notes inside r _ _ _ rest) span

theorem visitConditional_notes (inside : Bool) (r : Registry) :
    (k : Conditional) →
      Gains (Notes inside r) (Remarks.ofConditional inside k) (visitConditional k)
  | ⟨initializer, condition, consequence, alternative, span⟩ => by
    rw [visitConditional_eq, Remarks.ofConditional]
    have branches := (visitExpr_notes inside r condition).branches
      (visitBlock_notes inside r true consequence) (visitOtherwise_notes inside r alternative) span
    exact (visitInitializer_notes inside r initializer).bind fun _ => branches.behind fun _ =>
      (Gains.unremarked (.exitInitializer initializer)).trail fun _ => .pure _

theorem visitInitializer_notes (inside : Bool) (r : Registry) :
    (decl : Option VarDecl) →
      Gains (Notes inside r) (Remarks.ofInitializer inside decl) (visitInitializer decl)
  | none => by rw [visitInitializer, Remarks.ofInitializer]; exact .idle (.pure _)
  | some decl => by
    rw [visitInitializer, Remarks.ofInitializer]
    exact .front (.unremarked .enterScope) fun _ => visitVar_notes inside r _ decl

theorem visitOtherwise_notes (inside : Bool) (r : Registry) :
    (alternative : Otherwise) →
      Gains (Notes inside r) (Remarks.ofOtherwise inside alternative) (visitOtherwise alternative)
  | .block b => by
    rw [Remarks.ofOtherwise]
    exact (visitBlock_notes inside r true b).otherwise
  | .elseIf k => by
    rw [visitOtherwise, Remarks.ofOtherwise]
    exact visitConditional_notes inside r k

theorem visitMatch_notes (inside : Bool) (r : Registry) (valued : Bool) :
    (m : Match) → Gains (Notes inside r) (Remarks.ofMatch inside m) (visitMatch valued m)
  | ⟨value, arms, span⟩ => by
    rw [Remarks.ofMatch]
    exact (visitExpr_notes inside r value).arms
      (fun enum? => visitArms_notes inside r valued enum? arms) span

theorem visitArms_notes (inside : Bool) (r : Registry) (valued : Bool) (enum? : Option String) :
    (arms : List Arm) →
      Gains (Notes inside r) (Remarks.ofArms inside arms) (visitArms valued enum? arms)
  | [] => by rw [visitArms, Remarks.ofArms]; exact .idle (.pure _)
  | arm :: rest => by
    rw [Remarks.ofArms]
    exact (visitArm_notes inside r valued enum? arm).arm
      (visitArms_notes inside r valued enum? rest)

theorem visitArm_notes (inside : Bool) (r : Registry) (valued : Bool) (enum? : Option String) :
    (arm : Arm) → Gains (Notes inside r) (Remarks.ofArm inside arm) (visitArm valued enum? arm)
  | ⟨pattern, guard, body, span⟩ => by
    rw [visitArm_eq, Remarks.ofArm]
    have parts := (visitPattern_notes inside r enum? pattern).bind fun _ =>
      (visitOptional_notes inside r guard).guarded (visitExpr_notes inside r body) valued
    exact .front (.unremarked .enterScope) fun _ => parts.behind fun _ =>
      (Gains.unremarked .exitScope).trail fun _ => .pure _

theorem visitPattern_notes (inside : Bool) (r : Registry) (enum? : Option String) :
    (pattern : Pattern) →
      Gains (Notes inside r) (Remarks.ofPattern inside pattern) (visitPattern enum? pattern)
  | .wildcard _ => by rw [visitPattern, Remarks.ofPattern]; exact .idle (.pure _)
  | .literal value _ => by
    rw [visitPattern, Remarks.ofPattern]
    exact (visitExpr_notes inside r value).trail fun _ => .pure _
  | .variant .. => by
    rw [visitPattern, Remarks.ofPattern]
    exact .unremarked (.bindVariant _ _ _ _ _)

theorem visitBlock_notes (inside : Bool) (r : Registry) (valued : Bool) :
    (b : Block) → Gains (Notes inside r) (Remarks.ofBlock inside valued b) (visitBlock valued b)
  | ⟨body, span⟩ => by
    rw [visitBlock, Remarks.ofBlock]
    exact .front (.unremarked .enterScope) fun _ => .front (.unremarked (.hoist _ _)) fun _ =>
      .front (.unremarked .returnsSeen) fun _ =>
      (visitStmts_notes inside r valued {} body).behind fun _ =>
      .front (.unremarked .exitScope) fun _ =>
      (Gains.unremarked (.returnsSince _)).trail fun _ => .pure _

theorem visitStmts_notes (inside : Bool) (r : Registry) (valued : Bool) (progress : Progress) :
    (stmts : List Stmt) →
      Gains (Notes inside r) (Remarks.ofStmts inside valued progress.alwaysReturns stmts)
        (visitStmts valued progress stmts)
  | [] => by rw [visitStmts, Remarks.ofStmts]; exact .idle (.pure _)
  | stmt :: rest => by
    have first := visitStmt_notes inside r ⟨false, valued && rest.isEmpty⟩ stmt
    rw [visitStmts, Remarks.ofStmts]
    cases dead : progress.alwaysReturns with
    | true =>
      have others := visitStmts_notes inside r valued progress rest
      rw [dead] at others
      exact (notes_error _ rfl rfl).bind fun _ => .front (.unremarked .returnsSeen) fun _ =>
        first.bind fun _ => .front (.unremarked (.truncateReturns _)) fun _ => others
    | false =>
      intro c
      -- Whether the rest is reached is the verdict on the statement, in every state.
      rw [← alwaysReturns_visitStmt ⟨false, valued && rest.isEmpty⟩ stmt c]
      let outcome := result (visitStmt ⟨false, valued && rest.isEmpty⟩ stmt) c
      have others := visitStmts_notes inside r valued
        ⟨outcome.ty.getD progress.ty, outcome.alwaysReturns⟩ rest
      have both := Checker.Cumulative.trans (first c) (others _)
      exact both

theorem visitStmt_notes (inside : Bool) (r : Registry) (place : Place) :
    (stmt : Stmt) →
      Gains (Notes inside r) (Remarks.ofStmt inside place.valued stmt) (visitStmt place stmt)
  | .struct _ => by rw [visitStmt, Remarks.ofStmt]; exact .idle (.pure _)
  | .enum _ => by rw [visitStmt, Remarks.ofStmt]; exact .idle (.pure _)
  | .imports i => by
    rw [visitStmt, Remarks.ofStmt]
    exact (Gains.unremarked (.declareImports _ _ _)).trail fun _ => .pure _
  | .var decl => by
    rw [visitStmt, Remarks.ofStmt]
    exact (visitVar_notes inside r _ decl).trail fun _ => .pure _
  | .function signature body => by
    rw [Remarks.ofStmt]
    exact notes_function (visitBlock_notes true r _ body) place
  | .print _ args _ => by
    rw [visitStmt, Remarks.ofStmt]
    exact (visitPrinted_notes inside r args).trail fun _ => .pure _
  | .returns value span => by
    rw [Remarks.ofStmt]
    exact notes_returned (visitOptional_notes inside r value) place span
  | .expr value span => by
    rw [Remarks.ofStmt]
    exact notes_stated (visitExpr_notes inside r value) place span

theorem visitVar_notes (inside : Bool) (r : Registry) (flags : Flags) :
    (decl : VarDecl) → Gains (Notes inside r) (Remarks.ofVar inside decl) (visitVar flags decl)
  | ⟨name, mutable, ascription, value, exported, span⟩ => by
    rw [visitVar_eq, Remarks.ofVar]
    have typed := notes_initial (visitExpr_notes inside r value) name ascription span
    exact typed.behind fun ty => .front (.unremarked (.declare _ ty _ _)) fun _ =>
      .unremarked (.tagLiteral _ _)

end

theorem visitTopLevel_notes (r : Registry) (stmts : List Stmt) :
    Gains (Notes false r) (stmts.flatMap (Remarks.ofStmt false false)) (visitTopLevel stmts) := by
  induction stmts with
  | nil => exact .idle (.pure _)
  | cons stmt rest ih => exact (visitStmt_notes false r ⟨true, false⟩ stmt).bind fun _ => ih

end Check

/-! Whole modules. -/

namespace Remark

/-- Of what is reported where remarks are made, the reports on positions of statements. -/
theorem ofOrigins_flow (r : Registry) (xs : List Remark) :
    Diagnostic.ofOrigins [.flow] (xs.flatMap (reports r)) = xs.filterMap flow? := by
  induction xs with
  | nil => rfl
  | cons x rest ih =>
    rw [List.flatMap_cons, Diagnostic.ofOrigins_append, ih]
    cases x with
    | written t =>
      have ascribed : Diagnostic.Among [.ascription] (r.reportsOn t) := r.among_resolve (some t)
      rw [reports, ascribed.ofOrigins_eq_nil (by decide)]
      rfl
    | _ => rfl

end Remark

namespace Module

open Check

/-- The reports at the end of a check are on its scope. -/
theorem unremarked_checked (m : Module) (options : Options) :
    (m.visit options).finish.Unremarked (m.checked options) := by
  rw [checked_eq]
  exact ⟨rfl, rfl, _, Diagnostic.among_append.mpr
    ⟨(Scope.among_unusedLocals _ _).mono (by simp),
      (Scope.among_unusedTopLevel _ _).mono (by simp)⟩, List.append_assoc _ _ _⟩

/-- The remarks on a module come behind those on its type declarations. -/
theorem ofOrigins_check (m : Module) (options : Options) :
    Diagnostic.ofOrigins [.flow, .ascription] (m.check options) =
      Diagnostic.ofOrigins [.flow, .ascription]
          (Registry.empty.register options m.body).diagnostics ++
        (Remarks.ofModule m).flatMap (Remark.reports (m.checked options).registry) := by
  have hoisted := Unremarked.hoist true m.body (after (register m.body) (Checker.fresh options))
  have registry := registry_eq_of_visits (.refl : m.Visits options (m.visit options))
  have outside : (m.visit options).start.frames.isEmpty = true := by
    rw [List.isEmpty_iff]
    exact frames_hoist true m.body _
  have visited := visitTopLevel_notes (m.checked options).registry m.body
    (m.visit options).start ⟨outside, registry.symm⟩
  calc (m.checked options).remarks
    _ = (m.visit options).finish.remarks := (m.unremarked_checked options).remarks_eq
    _ = (m.visit options).start.remarks ++ _ := visited.remarks
    _ = _ := congrArg (· ++ _) hoisted.remarks_eq

end Module

/-- Control flow is judged by the syntax alone.

Whether a visit finds that its part always returns is in every state what a predicate of the
part says.  The reports on unreachable statements, on useless expressions and on returns outside
of functions are those of a traversal that knows of this predicate, of positions in blocks and of
functions around a statement, and of no types, scopes or options. -/
theorem positions_judged_by_syntax :
    (∀ e c, (result (visitExpr e) c).alwaysReturns = AlwaysReturns.ofExpr e) ∧
    (∀ place s c, (result (visitStmt place s) c).alwaysReturns = AlwaysReturns.ofStmt s) ∧
    (∀ valued b c, (result (visitBlock valued b) c).alwaysReturns = AlwaysReturns.ofBlock b) ∧
    ∀ (m : Module) (options : Options),
      Diagnostic.ofOrigins [.flow] (m.check options) =
        (Remarks.ofModule m).filterMap Remark.flow? := by
  refine ⟨alwaysReturns_visitExpr, alwaysReturns_visitStmt, alwaysReturns_visitBlock, ?_⟩
  intro m options
  have registered := Registry.empty.among_register options m.body
  rw [← Diagnostic.ofOrigins_ofOrigins (show [.flow] ⊆ [.flow, .ascription] by simp),
    m.ofOrigins_check, Diagnostic.ofOrigins_append, Remark.ofOrigins_flow,
    Diagnostic.ofOrigins_ofOrigins (by simp), Diagnostic.Among.ofOrigins_eq_nil registered
      (by decide), List.nil_append]

end ModuleCheck
