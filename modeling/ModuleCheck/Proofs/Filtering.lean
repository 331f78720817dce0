import ModuleCheck.Proofs.Lockstep

namespace ModuleCheck

/-!
What the options bear on.

Options choose among the reports on unused names and say which fields are reserved.  They
change nothing else: a check with other options runs through the same states, and the reports
under given options are those with every unused name reported, less the ones that the options
leave out.
-/

namespace Diagnostic

/-- Whether no option has a say in the diagnostic. -/
def isUnconditional (d : Diagnostic) : Bool :=
  match d.issue with
  | .reservedField .. | .unusedVariable _ | .unusedTopLevel _ => false
  | _ => true

end Diagnostic

namespace Options

/-- The options with every unused name reported. -/
def reportingAll (options : Options) : Options :=
  { options with
    ignoredPrefix := ""
    warnUnusedTopLevel := true
    reportUnusedLocals := true }

/-- Whether a diagnostic is wanted: an unused name may be ignored, or not be asked for. -/
def keeps (options : Options) (d : Diagnostic) : Bool :=
  match d.issue with
  | .unusedVariable name => options.reportUnusedLocals && !options.isIgnored name
  | .unusedTopLevel name => options.warnUnusedTopLevel && !options.isIgnored name
  | _ => true

variable (options : Options)

@[simp]
theorem isIgnored_reportingAll (name : String) : options.reportingAll.isIgnored name = false :=
  rfl

@[simp]
theorem reportsUnused_reportingAll (topLevel : Bool) :
    options.reportingAll.reportsUnused topLevel = true := by
  cases topLevel <;> rfl

theorem keeps_of_not_unused {d : Diagnostic} (other : d.issue.isUnusedName = false) :
    options.keeps d = true := by
  unfold keeps
  split <;> simp_all [Issue.isUnusedName]

theorem keeps_unusedReport (topLevel : Bool) (entry : String × Binding) :
    options.keeps (Scope.unusedReport topLevel entry) =
      (options.reportsUnused topLevel && !options.isIgnored entry.1) := by
  cases topLevel <;> rfl

end Options

namespace Scope

/-- The reports on an entry are those with every unused name reported, as far as wanted. -/
theorem filter_entryReports (options : Options) (topLevel : Bool) (entry : String × Binding) :
    (entryReports options.reportingAll topLevel entry).filter options.keeps =
      entryReports options topLevel entry := by
  unfold entryReports
  cases unused : !entry.2.used && entry.2.topLevel == topLevel with
  | false => simp
  | true =>
    cases wanted : options.reportsUnused topLevel && !options.isIgnored entry.1 <;>
      simp_all [Options.keeps_unusedReport]

/-- All reports on unused entries depend on options. -/
theorem filter_isUnconditional_entryReports (options : Options) (topLevel : Bool)
    (entry : String × Binding) :
    (entryReports options topLevel entry).filter Diagnostic.isUnconditional = [] := by
  have conditional : Diagnostic.isUnconditional (unusedReport topLevel entry) = false := by
    cases topLevel <;> rfl
  unfold entryReports
  split <;> simp [conditional]

end Scope

namespace Correspondence

/-- The reports under given options, filtered from those with every unused name reported. -/
def filtering (options : Options) :
    Correspondence .identity options.reportingAll options where
  Reports ds ds' := ds' = ds.filter options.keeps
  nil := rfl
  append := by
    rintro ds _ es _ rfl rfl
    rw [List.filter_append]
  error := by
    intro issue issue' span renamed
    have same : issue' = issue := renamed.eq_of_id
    have kept := options.keeps_of_not_unused (d := Diagnostic.error issue (some span))
      renamed.not_unused
    simp [same, kept]
  reserved := by
    intro struct field span
    have same : options.reportingAll.isReserved field = options.isReserved field := rfl
    have kept : options.keeps (Diagnostic.error (.reservedField struct field) (some span)) = true :=
      rfl
    cases reserved : options.isReserved field <;> simp [Reported.require, same, reserved, kept]
  unused := by
    intro topLevel name binding _
    rw [Relabelling.binding_identity]
    exact (Scope.filter_entryReports options topLevel (name, binding)).symm

/-- The reports under any two options, as far as no option has a say in them. -/
def agreeing (left right : Options) : Correspondence .identity left right where
  Reports ds ds' := ds'.filter Diagnostic.isUnconditional = ds.filter Diagnostic.isUnconditional
  nil := rfl
  append := by
    intro ds ds' es es' first second
    rw [List.filter_append, List.filter_append, first, second]
  error := by
    intro issue issue' span renamed
    have same : issue' = issue := renamed.eq_of_id
    rw [same]
    rfl
  reserved := by
    intro struct field span
    cases left.isReserved field <;> cases right.isReserved field <;> rfl
  unused := by
    intro topLevel name binding _
    rw [Scope.filter_isUnconditional_entryReports, Scope.filter_isUnconditional_entryReports]

end Correspondence

namespace Module

/-- Options only filter reports.  What is reported under some options is what is reported with
every unused name, in the same order, less the unused names that are not asked for or ignored.
Other options change neither the remaining reports nor the global scope nor the registry. -/
theorem options_only_filter (m : Module) (options : Options) :
    m.check options = (m.check options.reportingAll).filter options.keeps ∧
      ∀ others : Options,
        (m.check others).filter Diagnostic.isUnconditional =
            (m.check options).filter Diagnostic.isUnconditional ∧
          (m.checked others).environment.global = (m.checked options).environment.global ∧
          (m.checked others).registry = (m.checked options).registry := by
  constructor
  · have paired := (Correspondence.filtering options).state_checked m
    rw [Relabelling.module_identity] at paired
    exact paired.reports
  · intro others
    have paired := (Correspondence.agreeing options others).state_checked m
    rw [Relabelling.module_identity] at paired
    exact ⟨paired.reports, paired.environment.global.eq_of_identity, paired.registry.symm⟩

end Module

end ModuleCheck
