import ModuleCheck.Proofs.Compositional
import ModuleCheck.Proofs.Growth

namespace ModuleCheck

/-!
The frame of a visit: what it may change.

Every visit extends the state it starts in.  A visit of an expression declares nothing, since
the scopes that it opens are closed again, and a visit of a statement declares the names of
that statement.  The primitive steps come first, and then the steps that visits are made of.
-/

namespace Stmt

/-- The name of a function, which is declared ahead of the visit. -/
def hoistedName? : Stmt → Option String
  | function signature _ => some signature.name
  | _ => none

end Stmt

namespace Check

variable {α β : Type} {declared further : List String}

/-- Every run of the step extends its start by the declared names. -/
def Declares (declared : List String) (step : Check α) : Prop :=
  ∀ c : Checker, c.Extends declared (after step c)

/-- Every run of the step extends its start and declares nothing. -/
abbrev Keeps (step : Check α) : Prop := Declares [] step

namespace Declares

theorem pure (value : α) : Keeps (Pure.pure value : Check α) := fun c => .refl c

theorem bind {step : Check α} {next : α → Check β} (first : Declares declared step)
    (rest : ∀ value, Declares further (next value)) :
    Declares (declared ++ further) (step >>= next) :=
  fun c => (first c).trans (rest _ _)

/-- A step that declares nothing in front. -/
theorem lead {step : Check α} {next : α → Check β} (first : Keeps step)
    (rest : ∀ value, Declares declared (next value)) : Declares declared (step >>= next) :=
  fun c => (first c).trans (rest _ _)

/-- A step in a scope of its own. -/
theorem inScope {step : Check α} (inside : Declares declared step) :
    Keeps (do enterScope; let value ← step; exitScope; Pure.pure value) := by
  intro c
  exact (inside (after enterScope c)).exitScope

end Declares

/-! Steps that only read or report. -/

theorem keeps_emit (diagnostics : List Diagnostic) : Keeps (emit diagnostics) :=
  fun c => (Checker.Extends.refl c).report diagnostics

theorem keeps_settle (r : Reported α) : Keeps (settle r) :=
  (keeps_emit _).lead fun _ => .pure _

theorem keeps_error (issue : Issue) (span : Option Span) : Keeps (error issue span) :=
  keeps_emit _

theorem keeps_registry : Keeps registry := fun c => .refl c

theorem keeps_frame? : Keeps frame? := fun c => .refl c

theorem keeps_matchedEnum? (m : Match) (ty : Ty) : Keeps (matchedEnum? m ty) := by
  intro c
  rw [after_matchedEnum?]
  exact .refl c

theorem keeps_settleGuard (operand : Option Operand) : Keeps (settleGuard operand) := by
  cases operand with
  | none => exact .pure _
  | some operand => exact keeps_settle _

theorem keeps_settleArmValue (valued : Bool) (body : ExprOutcome) (span : Span) :
    Keeps (settleArmValue valued body span) := by
  unfold settleArmValue
  split
  · exact keeps_settle _
  · exact .pure _

/-! Steps that change the innermost scope or the innermost function. -/

theorem keeps_useName (name : String) (span : Option Span) : Keeps (useName name span) := by
  intro c
  cases bound : c.environment.lookup? name with
  | none =>
    rw [(useName_of_unbound bound span).2]
    exact keeps_error _ _ c
  | some binding =>
    rw [(useName_of_bound bound span).2]
    exact { Checker.Extends.refl c with environment := .mark _ _ }

theorem declares_declare (name : String) (ty : Ty) (flags : Flags) (span : Option Span) :
    Declares [name] (declare name ty flags span) :=
  fun c => { Checker.Extends.refl c with environment := .declare _ _ _ }

theorem keeps_recordReturn (ty : Ty) : Keeps (recordReturn ty) := by
  intro c
  unfold recordReturn
  rw [after_modifyReturns]
  refine { Checker.Extends.refl c with frames := ?_ }
  cases c.frames with
  | nil => exact .outside
  | cons frame rest => exact .inside frame.expected frame.returns [ty] rest

/-- Forgetting the returns that were seen since the visits in between began. -/
theorem extends_truncateReturns {c c' : Checker} (visited : c.Extends declared c') :
    c.Extends declared (after (truncateReturns (result returnsSeen c)) c') := by
  unfold truncateReturns
  rw [after_modifyReturns, result_returnsSeen]
  exact { visited with frames := by rw [visited.frames.take_eq]; exact .refl _ }

/-- The literal that a variable was just initialized with leaves its tag. -/
theorem extends_tagLiteral {c c' : Checker} {name : String} (visited : c.Extends [name] c')
    (value : Expr) : c.Extends [name] (after (tagLiteral name value) c') := by
  cases value with
  | variant enum _ _ _ _ => exact visited.modifyCurrent (List.mem_singleton.mpr rfl) _
  | _ => exact visited

/-! Declarations. -/

theorem declares_hoist (topLevel : Bool) (stmts : List Stmt) :
    Declares (stmts.filterMap Stmt.hoistedName?) (hoist topLevel stmts) := by
  induction stmts with
  | nil => exact .pure _
  | cons stmt rest ih =>
    cases stmt with
    | function signature body =>
      exact keeps_registry.lead fun _ => (declares_declare _ _ _ _).bind fun _ => ih
    | _ => exact ih

theorem declares_declareParams (params : List Param) (types : List Ty)
    (sameLength : params.length = types.length) :
    Declares (params.map Param.name) (declareParams params types) := by
  induction params generalizing types with
  | nil => exact .pure _
  | cons param rest ih =>
    cases types with
    | nil => cases sameLength
    | cons ty others =>
      exact (declares_declare _ _ _ _).bind fun _ => ih others (Nat.succ.inj sameLength)

theorem declares_declareImports (topLevel : Bool) (span : Span) (names : List String) :
    Declares names (declareImports topLevel span names) := by
  induction names with
  | nil => exact .pure _
  | cons name rest ih => exact (declares_declare _ _ _ _).bind fun _ => ih

theorem declares_bindVariant (matched : Option String) (enum variant : String)
    (binding : Option String) (span : Span) :
    Declares binding.toList (bindVariant matched enum variant binding span) := by
  unfold bindVariant
  refine keeps_registry.lead fun _ => (keeps_settle _).lead fun _ => ?_
  cases binding with
  | none => exact .pure _
  | some name => exact declares_declare _ _ _ _

/-! Functions. -/

/-- The state around a function that is being visited: the function is declared, and its
written types are reported on. -/
def afterSignature (signature : Signature) (topLevel : Bool) (c : Checker) : Checker :=
  after (do
    emit (signature.reports c.registry)
    modifyEnvironment fun env =>
      env.declare signature.name (signature.binding c.registry
        ((env.current.get? signature.name).any Binding.used) topLevel)) c

/-- The state inside a function apart from its frame: its parameters are declared in a scope
of their own. -/
def afterParams (signature : Signature) (topLevel : Bool) (c : Checker) : Checker :=
  after (declareParams signature.params (signature.paramTypes c.registry))
    (after enterScope (afterSignature signature topLevel c))

theorem after_openFunction_eq (signature : Signature) (topLevel : Bool) (c : Checker) :
    after (openFunction signature topLevel) c =
      after (pushFrame (signature.declaredResult c.registry)) (afterParams signature topLevel c) :=
  after_openFunction signature topLevel c

theorem extends_afterSignature (signature : Signature) (topLevel : Bool) (c : Checker) :
    c.Extends [signature.name] (afterSignature signature topLevel c) :=
  { Checker.Extends.refl c with
    diagnostics := List.prefix_append _ _
    environment := .declare _ _ _ }

theorem extends_afterParams (signature : Signature) (topLevel : Bool) (c : Checker) :
    (after enterScope (afterSignature signature topLevel c)).Extends
      (signature.params.map Param.name) (afterParams signature topLevel c) :=
  declares_declareParams _ _ (by simp [Signature.paramTypes]) _

/-- The state behind the body of a function, where its binding has not got its result yet. -/
def afterBody (signature : Signature) (expected : Option Ty) (body : BlockOutcome)
    (c : Checker) : Checker :=
  after (do
    let _ ← popFrame
    let _ ← settle (Rules.functionResult signature.name expected body signature.span)
    exitScope) c

/-- A function binding with another result. -/
def withResult (result : Ty) (binding : Binding) : Binding :=
  match binding.ty with
  | .fn params _ => { binding with ty := .fn params result }
  | _ => binding

theorem after_closeFunction (signature : Signature) (expected : Option Ty) (body : BlockOutcome)
    (c : Checker) :
    after (closeFunction signature expected body) c =
      { afterBody signature expected body c with
        environment := (afterBody signature expected body c).environment.modifyCurrent
          signature.name (withResult
            (Rules.functionResult signature.name expected body signature.span).value) } := rfl

/-- Behind the body of a function nothing but marks has changed since its declaration. -/
theorem extends_afterBody {signature : Signature} {topLevel : Bool} {c c' : Checker}
    (visited : (after (openFunction signature topLevel) c).Extends [] c')
    (expected : Option Ty) (body : BlockOutcome) :
    (afterSignature signature topLevel c).Extends [] (afterBody signature expected body c') := by
  rw [after_openFunction_eq] at visited
  have inside := (extends_afterParams signature topLevel c).keep visited.popFrame
  exact (inside.report
    (Rules.functionResult signature.name expected body signature.span).diagnostics).exitScope

/-- Closing a function after the visit of its body leaves its name and nothing else. -/
theorem extends_closeFunction {signature : Signature} {topLevel : Bool} {c c' : Checker}
    (visited : (after (openFunction signature topLevel) c).Extends [] c')
    (expected : Option Ty) (body : BlockOutcome) :
    c.Extends [signature.name] (after (closeFunction signature expected body) c') :=
  ((extends_afterSignature signature topLevel c).keep
    (extends_afterBody visited expected body)).modifyCurrent (List.mem_singleton.mpr rfl) _

/-- Behind its body a function still has the binding of its signature, up to its mark. -/
theorem marks_afterBody {signature : Signature} {topLevel : Bool} {c c' : Checker}
    (visited : (after (openFunction signature topLevel) c).Extends [] c')
    (expected : Option Ty) (body : BlockOutcome) :
    ∃ binding,
      (afterBody signature expected body c').environment.current.get? signature.name =
        some binding ∧
      (signature.binding c.registry ((c.environment.current.get? signature.name).any Binding.used)
        topLevel).Marks binding := by
  have grown := (extends_afterBody visited expected body).environment.current
  have declared : (afterSignature signature topLevel c).environment.current.get?
      signature.name = some (signature.binding c.registry
        ((c.environment.current.get? signature.name).any Binding.used) topLevel) := by
    simp [afterSignature, Environment.declare, Table.get?_insert]
  exact grown.kept _ _ List.not_mem_nil declared

/-- Behind its body a function is still bound in the scope around it, to its parameters. -/
theorem bound_afterBody {signature : Signature} {topLevel : Bool} {c c' : Checker}
    (visited : (after (openFunction signature topLevel) c).Extends [] c')
    (expected : Option Ty) (body : BlockOutcome) :
    ∃ binding,
      (afterBody signature expected body c').environment.current.get? signature.name =
        some binding ∧
      binding.ty = .fn (signature.paramTypes c.registry)
        ((signature.declaredResult c.registry).getD .unknown) := by
  rcases marks_afterBody visited expected body with ⟨binding, bound, marks⟩
  exact ⟨binding, bound, marks.ty_eq⟩

/-- A function that is closed is bound in the scope around it, to its parameters and to the
result that its body has shown. -/
theorem bound_closeFunction {signature : Signature} {topLevel : Bool} {c c' : Checker}
    (visited : (after (openFunction signature topLevel) c).Extends [] c')
    (expected : Option Ty) (body : BlockOutcome) :
    ∃ binding,
      (after (closeFunction signature expected body) c').environment.current.get?
        signature.name = some binding ∧
      binding.ty = .fn (signature.paramTypes c.registry)
        (Rules.functionResult signature.name expected body signature.span).value := by
  rcases bound_afterBody visited expected body with ⟨binding, bound, typed⟩
  refine ⟨withResult (Rules.functionResult signature.name expected body signature.span).value
    binding, ?_, ?_⟩
  · rw [after_closeFunction]
    simp [Environment.modifyCurrent, Table.get?_modify, bound]
  · rw [withResult, typed]

/-! The visits.  Where a visit opens a scope, what is declared inside is given by the names of
the part visited there. -/

theorem Declares.steps :
    Compositional (fun _ => True) fun _ names {_} _ step => Declares names step where
  basic := fun _ _ => trivial
  pure := fun _ => .pure _
  bind := fun first rest => first.bind fun value => rest value fun _ _ => trivial
  settle := fun _ => keeps_settle _
  error := fun _ _ => keeps_error _ _
  reportArms := fun _ _ => keeps_registry.lead fun _ => keeps_emit _
  useName := keeps_useName
  structFields? := fun _ => keeps_registry.lead fun _ => .pure _
  enumVariants? := fun _ => keeps_registry.lead fun _ => .pure _
  expectedResult? := keeps_frame?.lead fun _ => .pure _
  matchedEnum? := keeps_matchedEnum?
  recordReturn := fun _ => keeps_recordReturn _
  declare := fun name flags span _ => declares_declare name _ flags span
  bindVariant := declares_bindVariant
  inScope := .inScope
  visitVar := by
    intro l flags decl visited
    rcases decl with ⟨name, mutable, ascription, value, exported, span⟩
    rw [visitVar_eq]
    refine visited.lead fun _ => keeps_registry.lead fun _ => (keeps_settle _).lead fun ty => ?_
    exact fun c => extends_tagLiteral (declares_declare name ty flags (some span) c) value
  visitFunction := by
    intro l place signature body visited c
    rw [visitStmt]
    exact extends_closeFunction (visited _ _) _ _
  visitDead := fun _ _ visited => (keeps_error _ _).lead fun _ c =>
    extends_truncateReturns (visited c)
  visitBlock := by
    intro l names valued body span inside c
    have opened := declares_hoist false body (after enterScope c)
    have visited := inside (after (hoist false body) (after enterScope c))
    have closed := (opened.trans visited).exitScope
    rw [visitBlock]
    simp only [after_bind, after_pure, after_returnsSeen]
    -- The count was taken in front of the statements, whose visits only add returns.
    rw [after_returnsSince]
    · exact closed
    · rw [frames_exitScope]
      exact visited.frames.le_length

theorem visitExpr_keeps (e : Expr) : Keeps (visitExpr e) :=
  Compositional.expr Declares.steps ⟨0, 0⟩ e

theorem visitOptional_keeps (e : Option Expr) : Keeps (visitOptional e) :=
  Compositional.optional Declares.steps ⟨0, 0⟩ e

theorem visitPrinted_keeps (args : List Expr) : Keeps (visitPrinted args) :=
  Compositional.printed Declares.steps ⟨0, 0⟩ args

theorem visitFields_keeps (struct : String) (declared : Fields) (given : List String)
    (inits : List FieldInit) : Keeps (visitFields struct declared given inits) :=
  Compositional.fields Declares.steps ⟨0, 0⟩ (fun _ _ _ => trivial) struct given inits

theorem visitOtherwise_keeps (alternative : Otherwise) : Keeps (visitOtherwise alternative) :=
  Compositional.otherwise Declares.steps ⟨0, 0⟩ alternative

theorem visitArm_keeps (valued : Bool) (enum? : Option String) (arm : Arm) :
    Keeps (visitArm valued enum? arm) :=
  Compositional.arm Declares.steps ⟨0, 0⟩ valued enum? arm

theorem visitPattern_declares (enum? : Option String) (pattern : Pattern) :
    Declares pattern.boundNames (visitPattern enum? pattern) :=
  Compositional.pattern Declares.steps ⟨0, 0⟩ enum? pattern

theorem visitBlock_keeps (valued : Bool) (b : Block) : Keeps (visitBlock valued b) :=
  Compositional.block Declares.steps ⟨0, 0⟩ valued b

theorem visitStmts_declares (valued : Bool) (progress : Progress) (stmts : List Stmt) :
    Declares (stmts.flatMap Stmt.declaredNames) (visitStmts valued progress stmts) :=
  Compositional.stmts Declares.steps ⟨0, 0⟩ valued trivial stmts

theorem visitStmt_declares (place : Place) (stmt : Stmt) :
    Declares stmt.declaredNames (visitStmt place stmt) :=
  Compositional.stmt Declares.steps ⟨0, 0⟩ place stmt

theorem visitVar_declares (flags : Flags) (decl : VarDecl) :
    Declares [decl.name] (visitVar flags decl) :=
  Compositional.var Declares.steps ⟨0, 0⟩ flags decl

theorem visitTopLevel_declares (stmts : List Stmt) :
    Declares (stmts.flatMap Stmt.declaredNames) (visitTopLevel stmts) :=
  Compositional.topLevel Declares.steps ⟨0, 0⟩ stmts

end Check

end ModuleCheck
