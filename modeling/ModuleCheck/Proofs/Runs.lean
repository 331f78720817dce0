import ModuleCheck.Checker.Run

namespace ModuleCheck

/-!
What a step of a check yields and which state it leaves.

A step is a function from states to results and states.  The two halves are named here, with
one equation for each way of putting steps together and one for each primitive step, so that
later proofs follow a run from state to state and never open the step monad.  Three visits
end in branches that share their continuation; they get an equation without the sharing.
-/

namespace Check

variable {α β : Type}

/-- What a step yields when it starts in `c`. -/
def result (step : Check α) (c : Checker) : α := (step.run c).1

/-- The state that a step leaves when it starts in `c`. -/
def after (step : Check α) (c : Checker) : Checker := (step.run c).2

@[simp]
theorem result_pure (value : α) (c : Checker) : result (pure value) c = value := rfl

@[simp]
theorem after_pure (value : α) (c : Checker) : after (pure value) c = c := rfl

@[simp]
theorem result_bind (step : Check α) (next : α → Check β) (c : Checker) :
    result (step >>= next) c = result (next (result step c)) (after step c) := rfl

@[simp]
theorem after_bind (step : Check α) (next : α → Check β) (c : Checker) :
    after (step >>= next) c = after (next (result step c)) (after step c) := rfl

@[simp]
theorem result_map (f : α → β) (step : Check α) (c : Checker) :
    result (f <$> step) c = f (result step c) := rfl

@[simp]
theorem after_map (f : α → β) (step : Check α) (c : Checker) :
    after (f <$> step) c = after step c := rfl

@[simp]
theorem result_get (c : Checker) : result get c = c := rfl

@[simp]
theorem after_get (c : Checker) : after get c = c := rfl

/-! The primitive steps. -/

@[simp]
theorem after_emit (diagnostics : List Diagnostic) (c : Checker) :
    after (emit diagnostics) c = { c with diagnostics := c.diagnostics ++ diagnostics } := rfl

@[simp]
theorem result_settle (r : Reported α) (c : Checker) : result (settle r) c = r.value := rfl

@[simp]
theorem after_settle (r : Reported α) (c : Checker) :
    after (settle r) c = { c with diagnostics := c.diagnostics ++ r.diagnostics } := rfl

@[simp]
theorem after_error (issue : Issue) (span : Option Span) (c : Checker) :
    after (error issue span) c =
      { c with diagnostics := c.diagnostics ++ [Diagnostic.error issue span] } := rfl

@[simp]
theorem result_registry (c : Checker) : result registry c = c.registry := rfl

@[simp]
theorem after_registry (c : Checker) : after registry c = c := rfl

@[simp]
theorem after_modifyEnvironment (f : Environment → Environment) (c : Checker) :
    after (modifyEnvironment f) c = { c with environment := f c.environment } := rfl

@[simp]
theorem after_declare (name : String) (ty : Ty) (flags : Flags) (span : Option Span)
    (c : Checker) :
    after (declare name ty flags span) c =
      { c with
        environment := c.environment.declare name (Binding.declared ty flags span) } := rfl

@[simp]
theorem after_enterScope (c : Checker) :
    after enterScope c = { c with environment := c.environment.push } := rfl

@[simp]
theorem result_isUsedHere (name : String) (c : Checker) :
    result (isUsedHere name) c = (c.environment.current.get? name).any Binding.used := rfl

@[simp]
theorem after_isUsedHere (name : String) (c : Checker) : after (isUsedHere name) c = c := rfl

@[simp]
theorem result_enumTag? (name : String) (c : Checker) :
    result (enumTag? name) c = (c.environment.lookup? name >>= Binding.enumTag) := rfl

@[simp]
theorem after_enumTag? (name : String) (c : Checker) : after (enumTag? name) c = c := rfl

@[simp]
theorem after_pushFrame (expected : Option Ty) (c : Checker) :
    after (pushFrame expected) c = { c with frames := ⟨expected, []⟩ :: c.frames } := rfl

@[simp]
theorem after_popFrame (c : Checker) :
    after popFrame c = { c with frames := c.frames.tail } := rfl

@[simp]
theorem result_frame? (c : Checker) : result frame? c = c.frames.head? := rfl

@[simp]
theorem after_frame? (c : Checker) : after frame? c = c := rfl

@[simp]
theorem result_returnsSeen (c : Checker) :
    result returnsSeen c = (c.frames.head?.map fun frame => frame.returns.length).getD 0 := rfl

@[simp]
theorem after_returnsSeen (c : Checker) : after returnsSeen c = c := rfl

@[simp]
theorem after_modifyReturns (f : List Ty → List Ty) (c : Checker) :
    after (modifyReturns f) c =
      { c with
        frames := c.frames.modifyHead fun frame => { frame with returns := f frame.returns } } := by
  rcases c with ⟨options, registry, environment, frames, diagnostics, fault⟩
  cases frames <;> rfl

theorem diagnostics_modifyReturns (f : List Ty → List Ty) (c : Checker) :
    (after (modifyReturns f) c).diagnostics = c.diagnostics := by
  rw [after_modifyReturns]

/-- Using a bound name yields the type of its binding and marks the binding. -/
theorem useName_of_bound {name : String} {c : Checker} {binding : Binding}
    (bound : c.environment.lookup? name = some binding) (span : Option Span) :
    result (useName name span) c = binding.ty ∧
      after (useName name span) c =
        { c with environment := c.environment.modify name Binding.markUsed } := by
  unfold useName
  simp [bound]

/-- Using a name without a binding is an error. -/
theorem useName_of_unbound {name : String} {c : Checker}
    (unbound : c.environment.lookup? name = none) (span : Option Span) :
    result (useName name span) c = .unknown ∧
      after (useName name span) c = after (error (.unknownIdentifier name) span) c := by
  unfold useName
  simp [unbound]

/-- Closing a scope that is not the global one reports its unused locals. -/
theorem after_exitScope {c : Checker} {scope : Scope} {rest : Environment}
    (popped : c.environment.pop? = some (scope, rest)) :
    after exitScope c =
      { c with
        environment := rest
        diagnostics := c.diagnostics ++ Scope.unusedLocals c.options scope } := by
  unfold exitScope popScope
  simp [popped, reportUnusedLocals]

/-- The global scope is not closed; the attempt is a fault. -/
theorem after_exitScope_global {c : Checker} (global : c.environment.pop? = none) :
    after exitScope c = after (breach .globalScopePopped) c := by
  unfold exitScope popScope
  simp [global]

@[simp]
theorem frames_exitScope (c : Checker) : (after exitScope c).frames = c.frames := by
  cases popped : c.environment.pop? with
  | none => rw [after_exitScope_global popped]; rfl
  | some pair => rw [after_exitScope popped]

/-- Reading the returns behind a recorded count changes nothing, provided that the count is
in range. -/
theorem after_returnsSince {c : Checker} {count : Nat}
    (inRange : ∀ frame ∈ c.frames.head?, count ≤ frame.returns.length) :
    after (returnsSince count) c = c := by
  unfold returnsSince
  cases entered : c.frames.head? with
  | none => simp [entered]
  | some frame =>
    have within : ¬ frame.returns.length < count :=
      Nat.not_lt_of_ge (inRange frame (by simp [entered]))
    simp [entered, within]

/-- Reading returns changes nothing but the fault. -/
theorem exists_after_returnsSince (count : Nat) (c : Checker) :
    ∃ fault, after (returnsSince count) c = { c with fault } := by
  unfold returnsSince
  cases entered : c.frames.head? with
  | none => exact ⟨c.fault, by simp [entered]⟩
  | some frame =>
    by_cases outside : frame.returns.length < count
    · refine ⟨c.fault.or (some .returnsOutOfRange), ?_⟩
      simp only [after_bind, result_frame?, after_frame?, entered, outside, if_true, after_pure]
      rfl
    · exact ⟨c.fault, by simp [entered, outside]⟩

@[simp]
theorem frames_returnsSince (count : Nat) (c : Checker) :
    (after (returnsSince count) c).frames = c.frames := by
  rcases exists_after_returnsSince count c with ⟨fault, same⟩
  rw [same]

theorem diagnostics_returnsSince (count : Nat) (c : Checker) :
    (after (returnsSince count) c).diagnostics = c.diagnostics := by
  rcases exists_after_returnsSince count c with ⟨fault, same⟩
  rw [same]

theorem result_returnsSince (c : Checker) (count : Nat) :
    result (returnsSince count) c =
      ((c.frames.head?.map fun frame => frame.returns.drop count).getD []) := by
  unfold returnsSince
  cases entered : c.frames.head? with
  | none => simp [entered]
  | some frame =>
    by_cases outside : frame.returns.length < count <;> simp [entered, outside]

/-- Reading which enum a match is about changes nothing. -/
@[simp]
theorem after_matchedEnum? (m : Match) (ty : Ty) (c : Checker) :
    after (matchedEnum? m ty) c = c := by
  unfold matchedEnum?
  dsimp only
  split <;> rfl

/-- Declaring functions ahead leaves the functions around them as they are. -/
@[simp]
theorem frames_hoist (topLevel : Bool) (stmts : List Stmt) (c : Checker) :
    (after (hoist topLevel stmts) c).frames = c.frames := by
  induction stmts generalizing c with
  | nil => rfl
  | cons stmt rest ih =>
    cases stmt with
    | function signature body => exact ih _
    | _ => exact ih c

theorem diagnostics_hoist (topLevel : Bool) (stmts : List Stmt) (c : Checker) :
    (after (hoist topLevel stmts) c).diagnostics = c.diagnostics := by
  induction stmts generalizing c with
  | nil => rfl
  | cons stmt rest ih =>
    cases stmt with
    | function signature body => exact ih _
    | _ => exact ih c

theorem diagnostics_declareParams (params : List Param) (types : List Ty) (c : Checker) :
    (after (declareParams params types) c).diagnostics = c.diagnostics := by
  fun_induction declareParams params types generalizing c with
  | case1 param params ty types ih => exact ih _
  | case2 => rfl

/-! Visits without shared continuations. -/

/-- The visit of an if expression behind its initializer. -/
def visitBranches (condition : Expr) (consequence : Block) (alternative : Otherwise)
    (span : Span) : Check ExprOutcome := do
  let tested ← visitExpr condition
  settle (Rules.condition ⟨tested.ty, condition.span⟩)
  let block ← visitBlock true consequence
  settle (Rules.requireBranchValue block.toExprOutcome "If branch" consequence.span)
  let second ← visitOtherwise alternative
  settle (Rules.requireBranchValue second "If branch" alternative.span)
  settle (Rules.branches block.toExprOutcome second span)

/-- Closes the scope of an initializer, if there is one. -/
def exitInitializer : Option VarDecl → Check Unit
  | none => pure ()
  | some _ => exitScope

theorem visitConditional_eq (initializer : Option VarDecl) (condition : Expr)
    (consequence : Block) (alternative : Otherwise) (span : Span) :
    visitConditional ⟨initializer, condition, consequence, alternative, span⟩ = (do
      visitInitializer initializer
      let outcome ← visitBranches condition consequence alternative span
      exitInitializer initializer
      pure outcome) := by
  rw [visitConditional]
  cases initializer <;> rfl

/-- Reports on the guard of an arm, if there is one. -/
def settleGuard : Option Operand → Check Unit
  | none => pure ()
  | some operand => settle (Rules.guard operand)

/-- Reports on the body of an arm where a value is needed. -/
def settleArmValue (valued : Bool) (body : ExprOutcome) (span : Span) : Check Unit :=
  if valued then settle (Rules.armValue body span) else pure ()

/-- The visit of an arm inside its scope. -/
def visitArmParts (valued : Bool) (enum? : Option String) (pattern : Pattern)
    (guard : Option Expr) (body : Expr) : Check ExprOutcome := do
  visitPattern enum? pattern
  let operand ← visitOptional guard
  settleGuard operand
  let outcome ← visitExpr body
  settleArmValue valued outcome body.span
  pure outcome

theorem visitArm_eq (valued : Bool) (enum? : Option String) (pattern : Pattern)
    (guard : Option Expr) (body : Expr) (span : Span) :
    visitArm valued enum? ⟨pattern, guard, body, span⟩ = (do
      enterScope
      let outcome ← visitArmParts valued enum? pattern guard body
      exitScope
      pure outcome) := by
  rw [visitArm]
  simp only [visitArmParts, bind_assoc, pure_bind]
  refine bind_congr fun _ => bind_congr fun _ => bind_congr fun operand => ?_
  cases operand <;> cases valued <;> rfl

/-- The visit of the value of a variable, ahead of its declaration. -/
def visitInitial (name : String) (ascription : Option TypeExpr) (value : Expr) (span : Span) :
    Check Ty := do
  let outcome ← visitExpr value
  let registry ← registry
  settle (Rules.variableType name (ascription.map fun t => registry.resolve (some t))
    ⟨outcome.ty, value.span⟩ span)

/-- Tags a variable that is initialized with an enum literal. -/
def tagLiteral (name : String) : Expr → Check Unit
  | .variant enum .. => tagEnum name enum
  | _ => pure ()

theorem visitVar_eq (flags : Flags) (name : String) (mutable : Bool)
    (ascription : Option TypeExpr) (value : Expr) (exported : Bool) (span : Span) :
    visitVar flags ⟨name, mutable, ascription, value, exported, span⟩ = (do
      let outcome ← visitExpr value
      let registry ← registry
      let written := ascription.map fun t => registry.resolve (some t)
      let ty ← settle (Rules.variableType name written ⟨outcome.ty, value.span⟩ span)
      declare name ty flags (some span)
      tagLiteral name value) := by
  cases value with
  | variant enum variant payloadField payload place => rw [visitVar]; rfl
  | _ =>
    rw [visitVar]
    · rfl
    · intros
      contradiction

/-- A statement that is reached. -/
theorem visitStmts_live (valued : Bool) (ty : Ty) (stmt : Stmt) (rest : List Stmt) :
    visitStmts valued ⟨ty, false⟩ (stmt :: rest) = (do
      let outcome ← visitStmt ⟨false, valued && rest.isEmpty⟩ stmt
      visitStmts valued ⟨outcome.ty.getD ty, outcome.alwaysReturns⟩ rest) := by
  rw [visitStmts]
  rfl

/-- Reports a dead statement and visits it.  The returns that it records are forgotten. -/
def visitDead (place : Place) (stmt : Stmt) : Check Unit := do
  error .unreachableStatement (some stmt.span)
  let live ← returnsSeen
  let _ ← visitStmt place stmt
  truncateReturns live

/-- Behind a statement that always returns, the next one is dead. -/
theorem visitStmts_dead (valued : Bool) (ty : Ty) (stmt : Stmt) (rest : List Stmt) :
    visitStmts valued ⟨ty, true⟩ (stmt :: rest) = (do
      visitDead ⟨false, valued && rest.isEmpty⟩ stmt
      visitStmts valued ⟨ty, true⟩ rest) := by
  rw [visitStmts]
  rfl

/-! Opening a function. -/

theorem value_resolveParams (r : Registry) (params : List Param) :
    (resolveParams r params).value =
      params.map fun param => (r.resolve param.ascription).value := by
  induction params with
  | nil => rfl
  | cons param rest ih => simp [resolveParams, ih]

end Check

namespace Signature

/-- The types of the parameters of a function. -/
def paramTypes (s : Signature) (r : Registry) : List Ty :=
  s.params.map fun param => (r.resolve param.ascription).value

/-- The declared result of a function, if there is one. -/
def declaredResult (s : Signature) (r : Registry) : Option Ty :=
  s.result.map fun _ => (r.resolve s.result).value

/-- The reports on the written types of a function. -/
def reports (s : Signature) (r : Registry) : List Diagnostic :=
  (Check.resolveParams r s.params).diagnostics ++ (r.resolve s.result).diagnostics

/-- The binding of a function whose body is not visited yet. -/
def binding (s : Signature) (r : Registry) (used topLevel : Bool) : Binding :=
  Binding.declared (.fn (s.paramTypes r) ((s.declaredResult r).getD .unknown))
    { used := s.exported || used, topLevel, exported := s.exported } (some s.span)

end Signature

namespace Check

@[simp]
theorem result_openFunction (signature : Signature) (topLevel : Bool) (c : Checker) :
    result (openFunction signature topLevel) c = signature.declaredResult c.registry := by
  simp [openFunction, Signature.declaredResult]

/-- The state inside a function: the function is declared outside, its parameters in a scope
of their own, and a frame for its returns is open. -/
theorem after_openFunction (signature : Signature) (topLevel : Bool) (c : Checker) :
    after (openFunction signature topLevel) c =
      after (do
        emit (signature.reports c.registry)
        modifyEnvironment fun env =>
          env.declare signature.name (signature.binding c.registry
            ((env.current.get? signature.name).any Binding.used) topLevel)
        enterScope
        declareParams signature.params (signature.paramTypes c.registry)
        pushFrame (signature.declaredResult c.registry)) c := by
  simp [openFunction, Signature.declaredResult, Signature.reports, Signature.binding,
    Signature.paramTypes, value_resolveParams, Flags.ofExport]

theorem diagnostics_openFunction (signature : Signature) (topLevel : Bool) (c : Checker) :
    (after (openFunction signature topLevel) c).diagnostics =
      c.diagnostics ++ signature.reports c.registry := by
  rw [after_openFunction]
  exact diagnostics_declareParams _ _ _

/-! Declaring functions ahead. -/

theorem after_hoist_append (topLevel : Bool) (front behind : List Stmt) (c : Checker) :
    after (hoist topLevel (front ++ behind)) c =
      after (hoist topLevel behind) (after (hoist topLevel front) c) := by
  induction front generalizing c with
  | nil => rfl
  | cons stmt rest ih =>
    cases stmt with
    | function signature body => exact ih _
    | _ => exact ih c

/-- A function is declared ahead with the binding of its signature. -/
theorem after_hoist_function (topLevel : Bool) (signature : Signature) (body : Block)
    (rest : List Stmt) (c : Checker) :
    after (hoist topLevel (.function signature body :: rest)) c =
      after (hoist topLevel rest)
        { c with
          environment := c.environment.declare signature.name
            (signature.binding c.registry false topLevel) } := by
  have result : (c.registry.resolve signature.result).value =
      (signature.declaredResult c.registry).getD .unknown := by
    cases written : signature.result <;> simp [Signature.declaredResult, written, Registry.resolve]
  have same : signature.binding c.registry false topLevel =
      Binding.declared
        (.fn (signature.params.map fun param => (c.registry.resolve param.ascription).value)
          (c.registry.resolve signature.result).value)
        (Flags.ofExport topLevel signature.exported) (some signature.span) := by
    simp [Signature.binding, Signature.paramTypes, Flags.ofExport, result]
  rw [same]
  rfl

/-! Steps that leave the functions around them as they are. -/

theorem frames_settleArmValue (valued : Bool) (body : ExprOutcome) (span : Span) (c : Checker) :
    (after (settleArmValue valued body span) c).frames = c.frames := by
  cases valued <;> rfl

theorem frames_tagLiteral (name : String) (value : Expr) (c : Checker) :
    (after (tagLiteral name value) c).frames = c.frames := by
  cases value <;> rfl

theorem frames_declareImports (topLevel : Bool) (span : Span) (names : List String)
    (c : Checker) : (after (declareImports topLevel span names) c).frames = c.frames := by
  induction names generalizing c with
  | nil => rfl
  | cons name rest ih => exact ih _

theorem frames_declareParams (params : List Param) (types : List Ty) (c : Checker) :
    (after (declareParams params types) c).frames = c.frames := by
  induction params generalizing types c with
  | nil => rfl
  | cons param rest ih =>
    cases types with
    | nil => rfl
    | cons ty others => exact ih others _

theorem frames_openFunction (signature : Signature) (topLevel : Bool) (c : Checker) :
    (after (openFunction signature topLevel) c).frames =
      ⟨signature.declaredResult c.registry, []⟩ :: c.frames := by
  simp [after_openFunction, frames_declareParams]

theorem frames_closeFunction (signature : Signature) (expected : Option Ty) (body : BlockOutcome)
    (c : Checker) : (after (closeFunction signature expected body) c).frames = c.frames.tail := by
  simp [closeFunction]

end Check

end ModuleCheck
