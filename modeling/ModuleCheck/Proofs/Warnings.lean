import ModuleCheck.Proofs.Filtering
import ModuleCheck.Proofs.Findings
import ModuleCheck.Proofs.Levels

namespace ModuleCheck

/-!
Errors first, warnings last.

Only unused names at top level are warned of, and only at the end of a check.  So the report on a
module is a list of errors followed by the warnings on the entries of the global scope, in the
order in which their names were declared first.
-/

open Check

/-! Levels of diagnostics. -/

namespace Diagnostic

/-- The diagnostic is a warning exactly if it is about an unused name at top level. -/
def LevelFits (d : Diagnostic) : Prop :=
  d.level = .warn ↔ ∃ name, d.issue = .unusedTopLevel name

theorem levelFits_error {issue : Issue} (other : ∀ name, issue ≠ .unusedTopLevel name)
    (span : Option Span) : (error issue span).LevelFits := by
  simp [LevelFits, error, other]

theorem levelFits_unusedReport (topLevel : Bool) (entry : String × Binding) :
    (Scope.unusedReport topLevel entry).LevelFits := by
  cases topLevel <;> simp [LevelFits, Scope.unusedReport, error, warn]

/-- Errors in front of warnings are told apart by their places. -/
theorem errors_warnings_append {es ws : List Diagnostic} (errors : ∀ d ∈ es, d.level = .error)
    (warnings : ∀ d ∈ ws, d.level = .warn) :
    Diagnostic.errors (es ++ ws) = es ∧ Diagnostic.warnings (es ++ ws) = ws := by
  unfold Diagnostic.errors Diagnostic.warnings
  have kept : es.filter isError = es ∧ ws.filter isWarning = ws :=
    ⟨List.filter_eq_self.mpr fun d member => by simp [isError, errors d member],
      List.filter_eq_self.mpr fun d member => by simp [isWarning, warnings d member]⟩
  have dropped : ws.filter isError = [] ∧ es.filter isWarning = [] :=
    ⟨List.filter_eq_nil_iff.mpr fun d member => by simp [isError, warnings d member],
      List.filter_eq_nil_iff.mpr fun d member => by simp [isWarning, errors d member]⟩
  simp [List.filter_append, kept, dropped]

end Diagnostic

/-- Reports whose levels fit, whatever they are compared with. -/
def Correspondence.levelling (options : Options) : Correspondence .identity options options where
  Reports ds _ := ∀ d ∈ ds, d.LevelFits
  nil := by simp
  append := by
    intro ds _ es _ first second
    exact List.forall_mem_append.mpr ⟨first, second⟩
  error := by
    intro issue issue' span renamed
    refine List.forall_mem_singleton.mpr (Diagnostic.levelFits_error ?_ _)
    rintro name rfl
    cases renamed.not_unused
  reserved := by
    intro struct field span
    cases options.isReserved field with
    | false => simp [Reported.require]
    | true => exact List.forall_mem_singleton.mpr (Diagnostic.levelFits_error (by simp) _)
  unused := by
    intro topLevel name binding _
    unfold Scope.entryReports
    split
    · exact List.forall_mem_singleton.mpr (Diagnostic.levelFits_unusedReport _ _)
    · simp

theorem Module.levelFits_check (m : Module) (options : Options) :
    ∀ d ∈ m.check options, d.LevelFits := by
  have paired := (Correspondence.levelling options).state_checked m
  exact paired.reports

/-! No visit warns. -/

/-- No finding is about an unused name at top level. -/
theorem Finding.ne_unusedTopLevel {options : Options} {ds : List Diagnostic}
    (finding : Finding options ds) : ∀ d ∈ ds, ∀ name, d.issue ≠ .unusedTopLevel name := by
  have scopeless {origins : List Issue.Origin} {ds : List Diagnostic}
      (among : Diagnostic.Among origins ds) (apart : .scope ∉ origins) :
      ∀ d ∈ ds, ∀ name, d.issue ≠ .unusedTopLevel name := by
    intro d member name same
    have origin := among d member
    rw [same] at origin
    exact apart origin
  cases finding with
  | @direct issue direct span =>
    refine List.forall_mem_singleton.mpr fun name same => ?_
    have found : issue = .unusedTopLevel name := same
    rw [found] at direct
    cases direct
  | ruled ruling => exact scopeless ruling.among (by decide)
  | arms r enum? m => exact scopeless (Arms.among_findings r enum? m) (by decide)
  | closed scope =>
    unfold Scope.unusedLocals
    split
    · exact List.forall_mem_map.mpr fun entry _ name same => by cases same
    · simp

namespace Module

/-- What is reported in front of the unused names of the global scope is not about such names. -/
theorem ne_unusedTopLevel_of_visit (m : Module) (options : Options) :
    ∀ d ∈ (m.visit options).finish.diagnostics, ∀ name, d.issue ≠ .unusedTopLevel name := by
  have found := ((Finds.hoist true m.body).bind fun _ => visitTopLevel_finds m.body)
    (after (register m.body) (Checker.fresh options))
  rcases found.reports with ⟨lists, findings, reported⟩
  have whole : (m.visit options).finish.diagnostics =
      (Registry.empty.register options m.body).diagnostics ++ lists.flatten := reported
  rw [whole]
  refine List.forall_mem_append.mpr ⟨fun d member name same => ?_, fun d member => ?_⟩
  · have origin := Registry.empty.among_register options m.body d member
    rw [same] at origin
    simp [Issue.origin] at origin
  · rcases List.mem_flatten.mp member with ⟨ds, listed, member⟩
    exact (findings ds listed).ne_unusedTopLevel d member

theorem options_finish (m : Module) (options : Options) :
    (m.visit options).finish.options = options :=
  (((Finds.hoist true m.body).bind fun _ => visitTopLevel_finds m.body)
    (after (register m.body) (Checker.fresh options))).options

end Module

/-! The unused names of the global scope. -/

namespace Scope

variable {scope : Scope} (options : Options)

/-- A scope at top level has no unused local names. -/
theorem OfLevel.unusedLocals (level : scope.OfLevel true) :
    Scope.unusedLocals options scope = [] := by
  have nothing : unused options false scope = [] := by
    refine List.filter_eq_nil_iff.mpr fun entry member => ?_
    have high := level entry.1 entry.2 ((scope.get?_eq_some_iff _ _).mpr member)
    simp [high]
  simp [Scope.unusedLocals, nothing]

/-- No unused name of a scope at top level is left out, but for the ignored ones. -/
theorem OfLevel.unused_eq (level : scope.OfLevel true) :
    unused options true scope =
      scope.toList.filter fun entry => !entry.2.used && !options.isIgnored entry.1 := by
  refine List.filter_congr fun entry member => ?_
  have high := level entry.1 entry.2 ((scope.get?_eq_some_iff _ _).mpr member)
  simp [high]

/-- The outermost scope is at top level, and the others are not. -/
theorem Levelled.ends {scope : Scope} {rest : List Scope} (levelled : Levelled (scope :: rest)) :
    (rest.getLastD scope).OfLevel true ∧
      ∀ inner ∈ (scope :: rest).dropLast, inner.OfLevel false := by
  induction rest generalizing scope with
  | nil => exact ⟨levelled.1, by simp⟩
  | cons next others ih =>
    rcases ih levelled.2 with ⟨outermost, inside⟩
    rw [List.getLastD_cons, List.dropLast_cons_cons]
    exact ⟨outermost, List.forall_mem_cons.mpr ⟨levelled.1, inside⟩⟩

end Scope

/-! The order of the names of the global scope. -/

namespace Check

variable {α β : Type} {xs ys : List String}

/-- The step declares the given names in the innermost scope, in their order. -/
def Lists (xs : List String) (step : Check α) : Prop :=
  ∀ (c : Checker) (before : List String), c.environment.current.keys = before.eraseDups →
    (after step c).environment.current.keys = (before ++ xs).eraseDups

namespace Lists

theorem bind {step : Check α} {next : α → Check β} (first : Lists xs step)
    (rest : ∀ value, Lists ys (next value)) : Lists (xs ++ ys) (step >>= next) := by
  intro c before listed
  rw [← List.append_assoc]
  exact rest _ _ _ (first c before listed)

theorem keeps {step : Check α} (keeps : Keeps step) : Lists [] step := by
  intro c before listed
  rcases (keeps c).environment.current.keys with ⟨fresh, keys, among⟩
  have none : fresh = [] := List.eq_nil_iff_forall_not_mem.mpr fun name member =>
    List.not_mem_nil (among name member)
  rw [keys, none, List.append_nil, List.append_nil, listed]

theorem declares {step : Check α} {name : String} (declares : Declares [name] step) :
    Lists [name] step :=
  fun c _ listed => (declares c).environment.current.keys_eraseDups listed

theorem hoist (topLevel : Bool) (stmts : List Stmt) :
    Lists (stmts.filterMap Stmt.hoistedName?) (hoist topLevel stmts) := by
  induction stmts with
  | nil => exact keeps (.pure _)
  | cons stmt rest ih =>
    cases stmt with
    | function signature body =>
      exact (keeps keeps_registry).bind fun _ =>
        (declares (declares_declare _ _ _ _)).bind fun _ => ih
    | _ => exact ih

theorem declareImports (topLevel : Bool) (span : Span) (names : List String) :
    Lists names (declareImports topLevel span names) := by
  induction names with
  | nil => exact keeps (.pure _)
  | cons name rest ih => exact (declares (declares_declare _ _ _ _)).bind fun _ => ih

theorem stmt (place : Place) (s : Stmt) : Lists s.declaredNames (visitStmt place s) := by
  have visited := visitStmt_declares place s
  cases s with
  | imports i =>
    have listed := (declareImports place.topLevel i.span i.names).bind
      fun _ => keeps (.pure ({} : StmtOutcome))
    rw [List.append_nil] at listed
    rw [visitStmt]
    exact listed
  | var decl => exact declares visited
  | function signature body => exact declares visited
  | _ => exact keeps visited

theorem topLevel (body : List Stmt) :
    Lists (body.flatMap Stmt.declaredNames) (visitTopLevel body) := by
  induction body with
  | nil => exact keeps (.pure _)
  | cons s rest ih => exact (stmt ⟨true, false⟩ s).bind fun _ => ih

end Lists

end Check

/-! Whole modules. -/

namespace Module

/-- The entries of the global scope that are warned of. -/
def unusedEntries (m : Module) (options : Options) : List (String × Binding) :=
  if options.warnUnusedTopLevel then
    (m.checked options).environment.global.toList.filter fun entry =>
      !entry.2.used && !options.isIgnored entry.1
  else []

theorem unusedEntries_sublist (m : Module) (options : Options) :
    (m.unusedEntries options).Sublist (m.checked options).environment.global.toList := by
  unfold unusedEntries
  split
  · exact List.filter_sublist
  · exact List.nil_sublist _

/-- At the end of a check only the global scope is open. -/
theorem global_checked (m : Module) (options : Options) :
    (m.checked options).environment.global = (m.visit options).finish.environment.current := by
  have closed : (m.visit options).finish.environment.outer = [] :=
    List.isEmpty_iff.mp (m.atLevel_finish options).outermost
  change (m.visit options).finish.environment.global = _
  rw [Environment.global, closed]
  rfl

/-- The names of the global scope in the order of their first declarations, those of functions
first. -/
theorem keys_global (m : Module) (options : Options) :
    (m.checked options).environment.global.keys =
      (m.body.filterMap Stmt.hoistedName? ++ m.body.flatMap Stmt.declaredNames).eraseDups := by
  rw [global_checked]
  have listed := (Lists.hoist true m.body).bind fun _ => Lists.topLevel m.body
  exact listed (after (register m.body) (Checker.fresh options)) [] rfl

/-- The warnings come behind everything else. -/
theorem check_eq (m : Module) (options : Options) :
    m.check options = (m.visit options).finish.diagnostics ++
      (m.unusedEntries options).map fun entry =>
        Diagnostic.warn (.unusedTopLevel entry.1) entry.2.span := by
  have level := (m.atLevel_finish options).current
  rw [check, checked_eq, unusedEntries, global_checked]
  simp only [reportUnusedLocals, warnUnusedTopLevel, after_bind, result_get, after_get, after_emit,
    options_finish, level.unusedLocals, List.append_nil, Scope.unusedTopLevel, level.unused_eq]
  by_cases asked : options.warnUnusedTopLevel = true <;> simp [asked]

/-- What is reported in front of the warnings are errors. -/
theorem level_of_visit (m : Module) (options : Options) :
    ∀ d ∈ (m.visit options).finish.diagnostics, d.level = .error := by
  intro d member
  have reported : d ∈ m.check options := by
    rw [check_eq]
    exact List.mem_append_left _ member
  cases level : d.level with
  | error => rfl
  | warn =>
    rcases (m.levelFits_check options d reported).mp level with ⟨name, same⟩
    exact absurd same (m.ne_unusedTopLevel_of_visit options d member name)

/-- The report on a module is a list of errors followed by warnings.  Warned of are exactly the
unused names at top level: the warnings name distinct entries of the final global scope in the
order of that scope, which is the order of first declarations with those of functions in front,
and they leave out no unused entry but the ignored ones.  In every state of a check, the bindings
of the global scope are at top level and those of the other scopes are not, so no local name is
reported as unused in the global scope and no name at top level is lost with another one. -/
theorem errors_then_warnings (m : Module) (options : Options) :
    let global := (m.checked options).environment.global
    m.check options =
        Diagnostic.errors (m.check options) ++ Diagnostic.warnings (m.check options) ∧
      (∀ d ∈ m.check options, d.level = .warn ↔ ∃ name, d.issue = .unusedTopLevel name) ∧
      Diagnostic.warnings (m.check options) =
        ((m.unusedEntries options).map fun entry =>
          .warn (.unusedTopLevel entry.1) entry.2.span) ∧
      (m.unusedEntries options).Sublist global.toList ∧
      ((m.unusedEntries options).map Prod.fst).Nodup ∧
      global.keys =
        (m.body.filterMap Stmt.hoistedName? ++ m.body.flatMap Stmt.declaredNames).eraseDups ∧
      ∀ c, m.Reached options c →
        c.environment.global.OfLevel true ∧
        (∀ scope ∈ c.environment.scopes.dropLast, scope.OfLevel false) ∧
        Scope.unusedLocals options c.environment.global = [] := by
  have whole := m.check_eq options
  have fits := m.levelFits_check options
  have errors := m.level_of_visit options
  have warnings : ∀ d ∈ (m.unusedEntries options).map fun entry =>
      Diagnostic.warn (.unusedTopLevel entry.1) entry.2.span, d.level = .warn :=
    List.forall_mem_map.mpr fun _ _ => rfl
  have parts := Diagnostic.errors_warnings_append errors warnings
  rw [← whole] at parts
  have listed := m.unusedEntries_sublist options
  refine ⟨?_, fits, parts.2, listed, ?_, m.keys_global options, ?_⟩
  · rw [parts.1, parts.2]
    exact whole
  · exact (m.checked options).environment.global.keys_nodup.sublist (listed.map Prod.fst)
  · intro c reached
    rcases (levelled_of_reached reached).ends with ⟨outermost, inside⟩
    exact ⟨outermost, inside, outermost.unusedLocals options⟩

end Module

end ModuleCheck
