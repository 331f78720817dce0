import ModuleCheck.Proofs.Passage

namespace ModuleCheck

/-!
Counting errors.

A run reports no error exactly if it leaves the number of reported errors as it is.  This
number never falls, so that a silent run is silent in each of its parts, and the error of a
rule counts as one more.
-/

namespace Diagnostic

/-- The number of errors in a list of diagnostics. -/
def errorCount (ds : List Diagnostic) : Nat := ds.countP isError

@[simp]
theorem errorCount_append (ds ds' : List Diagnostic) :
    errorCount (ds ++ ds') = errorCount ds + errorCount ds' :=
  List.countP_append

@[simp]
theorem errorCount_error (issue : Issue) (span : Option Span) :
    errorCount [error issue span] = 1 := rfl

theorem errorCount_eq_zero {ds : List Diagnostic} :
    errorCount ds = 0 ↔ hasErrors ds = false := by
  simp [errorCount, hasErrors, List.countP_eq_zero]

/-- Errors made from the members of a list count as many as there are members. -/
@[simp]
theorem errorCount_map_error {α : Type} (issue : α → Issue) (span : Option Span) (xs : List α) :
    errorCount (xs.map fun x => error (issue x) span) = xs.length := by
  rw [errorCount, List.countP_eq_length.mpr, List.length_map]
  intro d made
  rcases List.mem_map.mp made with ⟨x, _, rfl⟩
  rfl

theorem errorCount_le_of_prefix {ds ds' : List Diagnostic} (grows : ds <+: ds') :
    errorCount ds ≤ errorCount ds' :=
  grows.sublist.countP_le

end Diagnostic

namespace Reported

variable {α β : Type}

/-- The number of errors that a rule reports. -/
def errorCount (r : Reported α) : Nat := Diagnostic.errorCount r.diagnostics

@[simp]
theorem errorCount_pure (value : α) : (pure value : Reported α).errorCount = 0 := rfl

@[simp]
theorem errorCount_bind (r : Reported α) (next : α → Reported β) :
    (r >>= next).errorCount = r.errorCount + (next r.value).errorCount :=
  Diagnostic.errorCount_append _ _

@[simp]
theorem errorCount_map (f : α → β) (r : Reported α) : (f <$> r).errorCount = r.errorCount := by
  unfold errorCount
  rw [diagnostics_map]

@[simp]
theorem errorCount_error (issue : Issue) (span : Option Span) :
    (error issue span).errorCount = 1 := rfl

@[simp]
theorem errorCount_require (condition : Bool) (issue : Issue) (span : Option Span) :
    (require condition issue span).errorCount = if condition then 0 else 1 := by
  cases condition <;> rfl

@[simp]
theorem value_test (condition : Bool) (issue : Issue) (span : Option Span) :
    (test condition issue span).value = condition := rfl

@[simp]
theorem errorCount_test (condition : Bool) (issue : Issue) (span : Option Span) :
    (test condition issue span).errorCount = if condition then 0 else 1 := by
  cases condition <;> rfl

end Reported

namespace Checker

/-- The number of errors reported so far. -/
def errorCount (c : Checker) : Nat := Diagnostic.errorCount c.diagnostics

/-- No error is reported so far. -/
def Accepting (c : Checker) : Prop := Diagnostic.hasErrors c.diagnostics = false

theorem errorCount_eq_zero {c : Checker} : c.errorCount = 0 ↔ c.Accepting :=
  Diagnostic.errorCount_eq_zero

theorem Later.errorCount_le {c c' : Checker} (later : Later c c') :
    c.errorCount ≤ c'.errorCount :=
  Diagnostic.errorCount_le_of_prefix later.diagnostics

/-- Before a state without an error there was none either. -/
theorem Later.accepting {c c' : Checker} (later : Later c c') (accepting : c'.Accepting) :
    c.Accepting := by
  have fewer := later.errorCount_le
  rw [errorCount_eq_zero.mpr accepting] at fewer
  exact errorCount_eq_zero.mp (Nat.le_zero.mp fewer)

theorem Extends.errorCount_le {c c' : Checker} {declared : List String}
    (extended : c.Extends declared c') : c.errorCount ≤ c'.errorCount :=
  Diagnostic.errorCount_le_of_prefix extended.diagnostics

end Checker

namespace Check

variable {α β : Type}

@[simp]
theorem errorCount_emit (diagnostics : List Diagnostic) (c : Checker) :
    (after (emit diagnostics) c).errorCount =
      c.errorCount + Diagnostic.errorCount diagnostics :=
  Diagnostic.errorCount_append _ _

/-- The run of the step from the given state reports no error. -/
def Silent (step : Check α) (c : Checker) : Prop := (after step c).errorCount = c.errorCount

/-- No run of the step takes an error back. -/
class Accumulates (step : Check α) : Prop where
  errorCount_le : ∀ c, c.errorCount ≤ (after step c).errorCount

theorem Accumulates.of_along {step : Check α} (along : Along Checker.Later step) :
    Accumulates step :=
  ⟨fun c => (along c).errorCount_le⟩

namespace Silent

variable {step : Check α} {next : α → Check β} {c : Checker}

/-- A silent run is silent in both of its parts. -/
theorem split [first : Accumulates step] [rest : ∀ value, Accumulates (next value)]
    (silent : Silent (step >>= next) c) :
    Silent step c ∧ Silent (next (result step c)) (after step c) := by
  have before := first.errorCount_le c
  have behind := (rest (result step c)).errorCount_le (after step c)
  have whole : (after (next (result step c)) (after step c)).errorCount = c.errorCount := silent
  unfold Silent
  omega

theorem emitted {diagnostics : List Diagnostic} (silent : Silent (emit diagnostics) c) :
    Diagnostic.errorCount diagnostics = 0 := by
  unfold Silent at silent
  rw [errorCount_emit] at silent
  omega

/-- A silent rule has found what it asks for. -/
theorem clean {rule : Reported α} (silent : Silent (settle rule) c) : rule.errorCount = 0 :=
  emitted silent

theorem not_error {issue : Issue} {span : Option Span} : ¬ Silent (error issue span) c := by
  unfold Silent error
  rw [errorCount_emit, Diagnostic.errorCount_error]
  omega

end Silent

/-! No step takes an error back. -/

instance (value : α) : Accumulates (pure value : Check α) := ⟨fun _ => Nat.le_refl _⟩

instance {step : Check α} {next : α → Check β} [first : Accumulates step]
    [rest : ∀ value, Accumulates (next value)] : Accumulates (step >>= next) :=
  ⟨fun c => Nat.le_trans (first.errorCount_le c) ((rest _).errorCount_le _)⟩

instance (diagnostics : List Diagnostic) : Accumulates (emit diagnostics) :=
  .of_along (Checker.Later.front.emit diagnostics)

instance (rule : Reported α) : Accumulates (settle rule) :=
  .of_along (Checker.Later.front.settle rule)

instance (issue : Issue) (span : Option Span) : Accumulates (error issue span) :=
  .of_along (Checker.Later.front.emit _)

instance : Accumulates registry := ⟨fun _ => Nat.le_refl _⟩

instance : Accumulates returnsSeen := ⟨fun _ => Nat.le_refl _⟩

instance : Accumulates enterScope := ⟨fun _ => Nat.le_refl _⟩

instance : Accumulates exitScope := .of_along Checker.Later.exitScope

instance (name : String) (ty : Ty) (flags : Flags) (span : Option Span) :
    Accumulates (declare name ty flags span) := ⟨fun _ => Nat.le_refl _⟩

instance (name : String) (span : Option Span) : Accumulates (useName name span) :=
  ⟨fun c => (keeps_useName name span c).errorCount_le⟩

instance (name : String) (value : Expr) : Accumulates (tagLiteral name value) := by
  cases value <;> exact ⟨fun _ => Nat.le_refl _⟩

instance (m : Match) (ty : Ty) : Accumulates (matchedEnum? m ty) :=
  .of_along (Checker.Later.front.matchedEnum? m ty)

instance (operand : Option Operand) : Accumulates (settleGuard operand) :=
  .of_along (Checker.Later.front.settleGuard operand)

instance (valued : Bool) (body : ExprOutcome) (span : Span) :
    Accumulates (settleArmValue valued body span) :=
  .of_along (Checker.Later.behind.settleArmValue valued body span)

instance (decl : Option VarDecl) : Accumulates (exitInitializer decl) :=
  .of_along (Checker.Later.behind.exitInitializer decl)

instance (count : Nat) : Accumulates (returnsSince count) :=
  .of_along (Checker.Later.returnsSince count)

instance (count : Nat) : Accumulates (truncateReturns count) :=
  .of_along (Checker.Later.truncateReturns count)

instance (ty : Ty) : Accumulates (recordReturn ty) :=
  .of_along (Checker.Later.behind.recordReturn ty)

instance (topLevel : Bool) (stmts : List Stmt) : Accumulates (hoist topLevel stmts) :=
  .of_along (Checker.Later.front.hoist topLevel stmts)

instance (name : String) : Accumulates (isUsedHere name) := ⟨fun _ => Nat.le_refl _⟩

instance (f : Environment → Environment) : Accumulates (modifyEnvironment f) :=
  ⟨fun _ => Nat.le_refl _⟩

instance (expected : Option Ty) : Accumulates (pushFrame expected) := ⟨fun _ => Nat.le_refl _⟩

instance : Accumulates popFrame := ⟨fun _ => Nat.le_refl _⟩

instance (params : List Param) (types : List Ty) : Accumulates (declareParams params types) := by
  induction params generalizing types with
  | nil => exact ⟨fun _ => Nat.le_refl _⟩
  | cons param rest ih =>
    cases types with
    | nil => exact ⟨fun _ => Nat.le_refl _⟩
    | cons ty others =>
      have behind := ih others
      rw [declareParams]
      infer_instance

instance (signature : Signature) (topLevel : Bool) :
    Accumulates (openFunction signature topLevel) :=
  .of_along (Checker.Later.openFunction signature topLevel)

instance (signature : Signature) (expected : Option Ty) (body : BlockOutcome) :
    Accumulates (closeFunction signature expected body) :=
  .of_along (Checker.Later.closing.closeFunction signature expected body)

theorem Accumulates.task (task : Task) : Accumulates task.step :=
  .of_along (Checker.Later.visit task)

instance (e : Expr) : Accumulates (visitExpr e) := .task (.expr e)

instance (e : Option Expr) : Accumulates (visitOptional e) := .task (.optional e)

instance (parts : List Part) : Accumulates (visitParts parts) := .task (.parts parts)

instance (args : List Expr) : Accumulates (visitArgs args) := .task (.args args)

instance (args : List Expr) : Accumulates (visitPrinted args) := .task (.printed args)

instance (fields : List FieldInit) : Accumulates (visitFieldValues fields) :=
  .task (.fieldValues fields)

instance (struct : String) (declared : Fields) (given : List String) (fields : List FieldInit) :
    Accumulates (visitFields struct declared given fields) :=
  .task (.fields struct declared given fields)

instance (decl : Option VarDecl) : Accumulates (visitInitializer decl) := .task (.initializer decl)

instance (alternative : Otherwise) : Accumulates (visitOtherwise alternative) :=
  .task (.otherwise alternative)

instance (valued : Bool) (m : Match) : Accumulates (visitMatch valued m) :=
  .task (.matching valued m)

instance (valued : Bool) (enum? : Option String) (arms : List Arm) :
    Accumulates (visitArms valued enum? arms) :=
  .task (.arms valued enum? arms)

instance (valued : Bool) (enum? : Option String) (arm : Arm) :
    Accumulates (visitArm valued enum? arm) :=
  .task (.arm valued enum? arm)

instance (enum? : Option String) (pattern : Pattern) : Accumulates (visitPattern enum? pattern) :=
  .task (.pattern enum? pattern)

instance (valued : Bool) (b : Block) : Accumulates (visitBlock valued b) := .task (.block valued b)

instance (valued : Bool) (progress : Progress) (stmts : List Stmt) :
    Accumulates (visitStmts valued progress stmts) :=
  .task (.stmts valued progress stmts)

instance (place : Place) (stmt : Stmt) : Accumulates (visitStmt place stmt) :=
  .task (.stmt place stmt)

instance (flags : Flags) (decl : VarDecl) : Accumulates (visitVar flags decl) :=
  .task (.var flags decl)

instance (stmts : List Stmt) : Accumulates (visitTopLevel stmts) := .task (.topLevel stmts)

instance (condition : Expr) (consequence : Block) (alternative : Otherwise) (span : Span) :
    Accumulates (visitBranches condition consequence alternative span) := by
  unfold visitBranches
  infer_instance

instance (valued : Bool) (enum? : Option String) (pattern : Pattern) (guard : Option Expr)
    (body : Expr) : Accumulates (visitArmParts valued enum? pattern guard body) := by
  unfold visitArmParts
  infer_instance

instance (place : Place) (stmt : Stmt) : Accumulates (visitDead place stmt) := by
  unfold visitDead
  infer_instance

/-- A statement behind one that always returns is reported. -/
theorem not_silent_dead {valued : Bool} {ty : Ty} {stmt : Stmt} {rest : List Stmt} {c : Checker} :
    ¬ Silent (visitStmts valued ⟨ty, true⟩ (stmt :: rest)) c := by
  intro silent
  rw [visitStmts_dead] at silent
  have dead := silent.split.1
  unfold visitDead at dead
  exact absurd dead.split.1 Silent.not_error

end Check

namespace Module

variable {m : Module} {options : Options} {v : Visit}

/-- An accepted module has no error where a visit starts or ends. -/
theorem accepting_of_visits (accepted : Diagnostic.hasErrors (m.check options) = false)
    (visits : m.Visits options v) : v.start.Accepting ∧ v.finish.Accepting := by
  have finish : v.finish.Accepting := (later_of_visits visits).accepting accepted
  exact ⟨(Checker.Later.visit v.task v.start).accepting finish, finish⟩

/-- In an accepted module every visit is silent. -/
theorem silent_of_visits (accepted : Diagnostic.hasErrors (m.check options) = false)
    (visits : m.Visits options v) : Check.Silent v.task.step v.start := by
  have accepting := accepting_of_visits accepted visits
  have before := Checker.errorCount_eq_zero.mpr accepting.1
  have behind := Checker.errorCount_eq_zero.mpr accepting.2
  exact behind.trans before.symm

end Module

end ModuleCheck
