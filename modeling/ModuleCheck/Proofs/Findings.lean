import ModuleCheck.Proofs.Compositional
import ModuleCheck.Proofs.Origins

namespace ModuleCheck

/-!
What the reports of a visit are made of.

A visit reports what its steps find, one after the other: the outcome of a rule for some
operands, the analysis of the arms of a match, the unused local names of a scope that closes, or
one of a few issues that a visit sees by itself.  So whatever holds of all of these holds of every
report of a visit.
-/

open Check

/-- Rules report issues of their own and on written types. -/
theorem Ruling.among {K : Ty → Prop} {α : Type} {types : α → List Ty} {r : Reported α}
    (ruling : Ruling K types r) : r.Among [.rule, .ascription] := by
  have rule {β : Type} {s : Reported β} (among : s.Among [.rule]) :
      s.Among [.rule, .ascription] := among.mono (by simp)
  have written {β : Type} {s : Reported β} (among : s.Among [.ascription]) :
      s.Among [.rule, .ascription] := among.mono (by simp)
  cases ruling with
  | unary op operand span => exact rule (Rules.among_unary op operand span)
  | binary _ _ op span => exact rule (Rules.among_binary op _ _ span)
  | call _ _ span => exact rule (Rules.among_call _ _ span)
  | requireValue ty what span => exact rule (Rules.among_requireValue ty what span)
  | requireBranchValue branch what span =>
    exact rule (Rules.among_requireBranchValue branch what span)
  | condition operand => exact rule (Rules.among_condition operand)
  | branches _ _ span => exact rule (Rules.among_branches _ _ span)
  | guard operand => exact rule (Rules.among_guard operand)
  | armValue body span => exact rule (Rules.among_armValue body span)
  | arms _ span => exact rule (Rules.among_arms _ span)
  | bindingType r matched enum variant binds span =>
    exact rule (Arms.among_bindingType r matched enum variant binds span)
  | fieldName struct fields given field span =>
    exact rule (Rules.among_fieldName struct fields given field span)
  | fieldValue _ _ struct field => exact rule (Rules.among_fieldValue struct _ field _)
  | missingFields struct fields given span =>
    exact rule (Rules.among_missingFields struct fields given span)
  | payloadPresence variant declared given span =>
    exact rule (Rules.among_payloadPresence variant declared given span)
  | payloadValue _ _ enum variant => exact rule (Rules.among_payloadValue enum variant _ _)
  | variableType _ _ name ascription span =>
    exact Rules.among_variableType _ name ascription _ span
  | returned _ _ span => exact rule (Rules.among_returned _ _ span)
  | params r params => exact written (among_resolveParams r params)
  | result r types => exact written (Registry.among_resolve r types)
  | functionResult _ _ _ name span => exact rule (Rules.among_functionResult name _ _ span)

/-- What one step of a visit reports under the given options. -/
inductive Finding (options : Options) : List Diagnostic → Prop
  | direct {issue : Issue} (direct : issue.isDirect = true) (span : Option Span) :
      Finding options [Diagnostic.error issue span]
  | ruled {α : Type} {types : α → List Ty} {r : Reported α}
      (ruling : Ruling (fun _ => True) types r) : Finding options r.diagnostics
  | arms (r enum? m) : Finding options (Arms.findings r enum? m)
  | closed (scope) : Finding options (Scope.unusedLocals options scope)

namespace Checker

/-- Between the two states only findings of single steps were reported. -/
structure Finds (c c' : Checker) : Prop where
  options : c'.options = c.options
  reports : ∃ found : List (List Diagnostic),
    (∀ ds ∈ found, Finding c.options ds) ∧ c'.diagnostics = c.diagnostics ++ found.flatten

namespace Finds

variable {c c' c'' : Checker}

theorem of_eq (options : c'.options = c.options) (diagnostics : c'.diagnostics = c.diagnostics) :
    c.Finds c' :=
  ⟨options, [], by simp, by simp [diagnostics]⟩

theorem trans (one : c.Finds c') (two : c'.Finds c'') : c.Finds c'' := by
  rcases one.reports with ⟨found, findings, reported⟩
  rcases two.reports with ⟨more, findings', reported'⟩
  rw [one.options] at findings'
  refine ⟨two.options.trans one.options, found ++ more, ?_, ?_⟩
  · exact fun ds member => (List.mem_append.mp member).elim (findings ds) (findings' ds)
  · rw [reported', reported, List.flatten_append, List.append_assoc]

theorem report {ds : List Diagnostic} (finding : Finding c.options ds) :
    c.Finds { c with diagnostics := c.diagnostics ++ ds } :=
  ⟨rfl, [ds], by simpa using finding, by simp⟩

end Finds

end Checker

namespace Check

variable {α β : Type}

/-- Every run of the step reports findings of single steps only. -/
def Finds (step : Check α) : Prop := ∀ c : Checker, c.Finds (after step c)

namespace Finds

theorem pure (value : α) : Finds (Pure.pure value : Check α) := fun _ => .of_eq rfl rfl

theorem bind {step : Check α} {next : α → Check β} (first : Finds step)
    (rest : ∀ value, Finds (next value)) : Finds (step >>= next) :=
  fun c => (first c).trans (rest _ _)

/-! Steps that only read or report. -/

theorem settle {types : α → List Ty} {r : Reported α}
    (ruling : Ruling (fun _ => True) types r) : Finds (settle r) :=
  fun _ => .report (.ruled ruling)

theorem error {issue : Issue} (direct : issue.isDirect = true) (span : Option Span) :
    Finds (error issue span) :=
  fun _ => .report (.direct direct span)

theorem arms (r : Registry) (enum? : Option String) (m : Match) :
    Finds (emit (Arms.findings r enum? m)) :=
  fun _ => .report (.arms r enum? m)

theorem registry : Finds registry := fun _ => .of_eq rfl rfl

theorem frame? : Finds frame? := fun _ => .of_eq rfl rfl

theorem returnsSeen : Finds returnsSeen := fun _ => .of_eq rfl rfl

theorem matchedEnum? (m : Match) (ty : Ty) : Finds (matchedEnum? m ty) := by
  intro c
  rw [after_matchedEnum?]
  exact .of_eq rfl rfl

/-! Steps that change scopes or functions. -/

theorem modifyEnvironment (f : Environment → Environment) : Finds (modifyEnvironment f) :=
  fun _ => .of_eq rfl rfl

theorem useName (name : String) (span : Option Span) : Finds (useName name span) := by
  intro c
  cases bound : c.environment.lookup? name with
  | none =>
    rw [(useName_of_unbound bound span).2]
    exact error rfl span c
  | some binding =>
    rw [(useName_of_bound bound span).2]
    exact .of_eq rfl rfl

theorem exitScope : Finds exitScope := by
  intro c
  cases popped : c.environment.pop? with
  | none =>
    rw [after_exitScope_global popped]
    exact .of_eq rfl rfl
  | some pair =>
    rw [after_exitScope popped]
    exact ⟨rfl, (Checker.Finds.report (.closed pair.1)).reports⟩

theorem tagLiteral (name : String) (value : Expr) : Finds (tagLiteral name value) := by
  cases value with
  | variant => exact modifyEnvironment _
  | _ => exact .pure _

theorem modifyReturns (f : List Ty → List Ty) : Finds (modifyReturns f) := by
  intro c
  rw [after_modifyReturns]
  exact .of_eq rfl rfl

theorem returnsSince (count : Nat) : Finds (returnsSince count) := by
  refine frame?.bind fun frame => ?_
  cases frame with
  | none => exact .pure _
  | some frame =>
    dsimp only
    split
    · exact Finds.bind (fun _ => .of_eq rfl rfl) fun _ => .pure _
    · exact .pure _

/-! Declarations. -/

theorem hoist (topLevel : Bool) (stmts : List Stmt) : Finds (hoist topLevel stmts) := by
  induction stmts with
  | nil => exact .pure _
  | cons stmt rest ih =>
    cases stmt with
    | function signature body =>
      exact registry.bind fun _ => (modifyEnvironment _).bind fun _ => ih
    | _ => exact ih

theorem declareParams (params : List Param) (types : List Ty) :
    Finds (declareParams params types) := by
  induction params generalizing types with
  | nil => exact .pure _
  | cons param rest ih =>
    cases types with
    | nil => exact .pure _
    | cons ty others => exact (modifyEnvironment _).bind fun _ => ih others

theorem bindVariant (matched : Option String) (enum variant : String) (binding : Option String)
    (span : Span) : Finds (bindVariant matched enum variant binding span) := by
  refine registry.bind fun _ => (settle (.bindingType _ _ _ _ _ _)).bind fun _ => ?_
  cases binding with
  | none => exact .pure _
  | some name => exact modifyEnvironment _

theorem openFunction (signature : Signature) (topLevel : Bool) :
    Finds (openFunction signature topLevel) :=
  Finds.bind (fun _ => .of_eq rfl rfl) fun _ => registry.bind fun _ =>
    (settle (.params _ _)).bind fun _ => (settle (.result _ _)).bind fun _ =>
    (modifyEnvironment _).bind fun _ => (modifyEnvironment _).bind fun _ =>
    (declareParams _ _).bind fun _ => Finds.bind (fun _ => .of_eq rfl rfl) fun _ => .pure _

theorem closeFunction (signature : Signature) (expected : Option Ty) (body : BlockOutcome) :
    Finds (closeFunction signature expected body) :=
  Finds.bind (fun _ => .of_eq rfl rfl) fun _ =>
    (settle (.functionResult (fun _ _ => trivial) trivial (fun _ _ => trivial) _ _)).bind fun _ =>
    exitScope.bind fun _ => modifyEnvironment _

/-! The visits. -/

theorem steps : Compositional (fun _ => True) fun _ _ {_} _ step => Finds step where
  basic := fun _ _ => trivial
  pure := fun _ => .pure _
  bind := fun first rest => first.bind fun value => rest value fun _ _ => trivial
  settle := .settle
  error := fun span direct => .error direct span
  reportArms := fun _ _ => registry.bind fun _ => .arms _ _ _
  useName := .useName
  structFields? := fun _ => registry.bind fun _ => .pure _
  enumVariants? := fun _ => registry.bind fun _ => .pure _
  expectedResult? := frame?.bind fun _ => .pure _
  matchedEnum? := .matchedEnum?
  recordReturn := fun _ => .modifyReturns _
  declare := fun _ _ _ _ => .modifyEnvironment _
  bindVariant := .bindVariant
  inScope := fun inside => (modifyEnvironment _).bind fun _ => inside.bind fun _ =>
    exitScope.bind fun _ => .pure _
  visitVar := by
    intro l flags decl visited
    rcases decl with ⟨name, mutable, ascription, value, exported, span⟩
    rw [visitVar_eq]
    exact visited.bind fun _ => registry.bind fun _ =>
      (Finds.settle (.variableType (fun _ => trivial) trivial _ _ _)).bind fun _ =>
      (modifyEnvironment _).bind fun _ => .tagLiteral _ _
  visitFunction := by
    intro l place signature body visited
    rw [visitStmt]
    exact (openFunction _ _).bind fun _ => (visited _).bind fun _ =>
      (closeFunction _ _ _).bind fun _ => .pure _
  visitDead := fun _ _ visited => (Finds.error rfl _).bind fun _ => returnsSeen.bind fun _ =>
    visited.bind fun _ => .modifyReturns _
  visitBlock := by
    intro l _ valued body span visited
    rw [visitBlock]
    exact (modifyEnvironment _).bind fun _ => (Finds.hoist _ _).bind fun _ =>
      returnsSeen.bind fun _ => visited.bind fun _ => Finds.exitScope.bind fun _ =>
      (returnsSince _).bind fun _ => .pure _

end Finds

theorem visitTopLevel_finds (stmts : List Stmt) : Finds (visitTopLevel stmts) :=
  Compositional.topLevel Finds.steps ⟨0, 0⟩ stmts

end Check

end ModuleCheck
