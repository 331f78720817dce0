import ModuleCheck.Proofs.Frame
import ModuleCheck.Proofs.Origins

namespace ModuleCheck

/-!
Reports on names.

A use of a name that is not declared and a declaration that is not used are reported where
names are looked up and where scopes are closed, and nowhere else: no rule reports one.
-/

namespace Issue

/-- Whether the issue is that a name is not declared. -/
def isUnknownName : Issue → Bool
  | unknownIdentifier _ => true
  | _ => false

/-- Whether the issue is that a declaration is not used. -/
def isUnusedName : Issue → Bool
  | unusedVariable _ | unusedTopLevel _ => true
  | _ => false

/-- Whether the issue is neither of the two. -/
def isPlain : Issue → Bool
  | unknownIdentifier _ | unusedVariable _ | unusedTopLevel _ => false
  | _ => true

theorem isPlain_eq (issue : Issue) :
    issue.isPlain = (!issue.isUnknownName && !issue.isUnusedName) := by
  cases issue <;> rfl

theorem isPlain_of_origin {issue : Issue} (notName : issue.origin ≠ .name)
    (notScope : issue.origin ≠ .scope) : issue.isPlain = true := by
  cases issue <;> simp_all [origin, isPlain]

end Issue

namespace Diagnostic

/-- The reports on names that are not declared, in order. -/
def unknownNames (ds : List Diagnostic) : List Diagnostic := ds.filter (·.issue.isUnknownName)

/-- The reports on declarations that are not used, in order. -/
def unusedNames (ds : List Diagnostic) : List Diagnostic := ds.filter (·.issue.isUnusedName)

/-- The diagnostics hold no report on a name. -/
def Plain (ds : List Diagnostic) : Prop := ∀ d ∈ ds, d.issue.isPlain = true

variable {ds ds' : List Diagnostic}

@[simp]
theorem plain_nil : Plain [] := by simp [Plain]

@[simp]
theorem plain_append : Plain (ds ++ ds') ↔ Plain ds ∧ Plain ds' := by
  simp [Plain, or_imp, forall_and]

@[simp]
theorem plain_singleton (issue : Issue) (span : Option Span) :
    Plain [Diagnostic.error issue span] ↔ issue.isPlain = true := by
  simp [Plain, Diagnostic.error]

/-- Names are reported on where they are looked up and where scopes are closed. -/
theorem Among.plain {origins : List Issue.Origin} (among : Among origins ds)
    (names : .name ∉ origins) (scopes : .scope ∉ origins) : Plain ds := by
  intro d member
  apply Issue.isPlain_of_origin
  · intro named
    exact names (named ▸ among d member)
  · intro closed
    exact scopes (closed ▸ among d member)

theorem Plain.unknownNames_eq (plain : Plain ds) : unknownNames ds = [] := by
  refine List.filter_eq_nil_iff.mpr fun d member => ?_
  have apart := plain d member
  simp_all [Issue.isPlain_eq]

theorem Plain.unusedNames_eq (plain : Plain ds) : unusedNames ds = [] := by
  refine List.filter_eq_nil_iff.mpr fun d member => ?_
  have apart := plain d member
  simp_all [Issue.isPlain_eq]

@[simp]
theorem unknownNames_append : unknownNames (ds ++ ds') = unknownNames ds ++ unknownNames ds' :=
  List.filter_append _ _

@[simp]
theorem unusedNames_append : unusedNames (ds ++ ds') = unusedNames ds ++ unusedNames ds' :=
  List.filter_append _ _

end Diagnostic

namespace Reported

/-- The rule reports nothing on names. -/
def Plain {α : Type} (r : Reported α) : Prop := Diagnostic.Plain r.diagnostics

theorem Among.plain {α : Type} {origins : List Issue.Origin} {r : Reported α}
    (among : r.Among origins) (names : .name ∉ origins) (scopes : .scope ∉ origins) : r.Plain :=
  Diagnostic.Among.plain among names scopes

end Reported

namespace Scope

open Diagnostic

/-- Closing a scope reports on unused declarations only. -/
theorem unknownNames_unusedLocals (options : Options) (scope : Scope) :
    unknownNames (unusedLocals options scope) = [] := by
  unfold unusedLocals
  split <;> simp [unknownNames, List.filter_map, Function.comp_def, Diagnostic.error,
    Issue.isUnknownName]

theorem unknownNames_unusedTopLevel (options : Options) (scope : Scope) :
    unknownNames (unusedTopLevel options scope) = [] := by
  unfold unusedTopLevel
  split <;> simp [unknownNames, List.filter_map, Function.comp_def, Diagnostic.warn,
    Issue.isUnknownName]

end Scope

namespace Checker

/-- The open scopes and the options are the same in both states, and no report on a name was
added between them. -/
structure Quiet (c c' : Checker) : Prop where
  environment : c'.environment = c.environment
  options : c'.options = c.options
  reports : ∃ ds, Diagnostic.Plain ds ∧ c'.diagnostics = c.diagnostics ++ ds

namespace Quiet

variable {c c' c'' : Checker}

theorem of_eq (environment : c'.environment = c.environment) (options : c'.options = c.options)
    (diagnostics : c'.diagnostics = c.diagnostics) : c.Quiet c' :=
  ⟨environment, options, [], Diagnostic.plain_nil, by rw [diagnostics, List.append_nil]⟩

theorem trans (one : c.Quiet c') (two : c'.Quiet c'') : c.Quiet c'' := by
  rcases one.reports with ⟨ds, plain, reported⟩
  rcases two.reports with ⟨ds', plain', reported'⟩
  exact {
    environment := two.environment.trans one.environment
    options := two.options.trans one.options
    reports := ⟨ds ++ ds', Diagnostic.plain_append.mpr ⟨plain, plain'⟩, by
      rw [reported', reported, List.append_assoc]⟩ }

end Quiet

end Checker

namespace Check

variable {α β : Type}

/-- Every run of the step is quiet about names. -/
def Quiet (step : Check α) : Prop := ∀ c : Checker, c.Quiet (after step c)

namespace Quiet

theorem pure (value : α) : Quiet (Pure.pure value : Check α) := fun _ => .of_eq rfl rfl rfl

theorem bind {step : Check α} {next : α → Check β} (first : Quiet step)
    (rest : ∀ value, Quiet (next value)) : Quiet (step >>= next) :=
  fun c => (first c).trans (rest _ _)

theorem emit {ds : List Diagnostic} (plain : Diagnostic.Plain ds) : Quiet (emit ds) :=
  fun _ => ⟨rfl, rfl, ds, plain, rfl⟩

theorem settle {rule : Reported α} (plain : rule.Plain) : Quiet (settle rule) :=
  (emit plain).bind fun _ => .pure _

theorem error {issue : Issue} (plain : issue.isPlain = true) (span : Option Span) :
    Quiet (error issue span) :=
  emit ((Diagnostic.plain_singleton issue span).mpr plain)

/-- The reports on the written types of a function. -/
theorem reports (signature : Signature) (r : Registry) : Quiet (Check.emit (signature.reports r)) :=
  emit ((signature.among_reports r).plain (by decide) (by decide))

theorem frame? : Quiet frame? := fun _ => .of_eq rfl rfl rfl

theorem modifyReturns (f : List Ty → List Ty) : Quiet (modifyReturns f) := by
  intro c
  rw [after_modifyReturns]
  exact .of_eq rfl rfl rfl

theorem pushFrame (expected : Option Ty) : Quiet (pushFrame expected) :=
  fun _ => .of_eq rfl rfl rfl

theorem popFrame : Quiet popFrame := fun _ => .of_eq rfl rfl rfl

theorem returnsSince (count : Nat) : Quiet (returnsSince count) := by
  refine frame?.bind fun frame => ?_
  cases frame with
  | none => exact .pure _
  | some frame =>
    dsimp only
    split
    · exact Quiet.bind (fun _ => .of_eq rfl rfl rfl) fun _ => .pure _
    · exact .pure _

theorem register (stmts : List Stmt) : Quiet (register stmts) := by
  intro c
  have settled := settle ((Registry.among_register c.options c.registry stmts).plain (by decide)
    (by decide)) c
  exact ⟨rfl, rfl, settled.reports⟩

end Quiet

end Check

end ModuleCheck
