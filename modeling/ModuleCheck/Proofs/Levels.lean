import ModuleCheck.Proofs.Reached

namespace ModuleCheck

/-!
Which scopes hold names at top level.

A binding is told whether it stands at top level where its name is declared: by statements, by
initializers, by patterns, by parameters, and by functions both ahead of their visit and during
it.  In every state of a check all of these agree with the open scopes: the bindings of the
global scope are at top level, and those of the other scopes are not.
-/

open Check

namespace Scope

/-- All bindings of the scope are at top level, or none of them is. -/
def OfLevel (topLevel : Bool) (scope : Scope) : Prop :=
  ∀ name binding, scope.get? name = some binding → binding.topLevel = topLevel

/-- Of the given scopes, from the inside out, the last one holds names at top level only, and
the others hold none. -/
def Levelled : List Scope → Prop
  | [] => True
  | scope :: rest => scope.OfLevel rest.isEmpty ∧ Levelled rest

namespace OfLevel

variable {topLevel : Bool} {scope : Scope}

theorem empty : OfLevel topLevel Table.empty := by
  intro name binding found
  simp at found

theorem insert (level : scope.OfLevel topLevel) (name : String) (binding : Binding)
    (fits : binding.topLevel = topLevel) : OfLevel topLevel (scope.insert name binding) := by
  intro other held found
  rw [Table.get?_insert] at found
  split at found
  · cases found
    exact fits
  · exact level other held found

theorem modify (level : scope.OfLevel topLevel) (name : String) (f : Binding → Binding)
    (keeps : ∀ binding, (f binding).topLevel = binding.topLevel) :
    OfLevel topLevel (scope.modify name f) := by
  intro other held found
  rw [Table.get?_modify] at found
  split at found
  · rcases Option.map_eq_some_iff.mp found with ⟨binding, stored, rfl⟩
    rw [keeps]
    exact level other binding stored
  · exact level other held found

/-- Marks of use change no level. -/
theorem grows {later : Scope} (level : scope.OfLevel topLevel) (grows : Grows [] scope later) :
    later.OfLevel topLevel := by
  intro name binding found
  cases held : scope.get? name with
  | none =>
    rw [grows.missing List.not_mem_nil held] at found
    cases found
  | some old =>
    rcases grows.kept name old List.not_mem_nil held with ⟨new, foundNew, marks⟩
    rw [found] at foundNew
    cases foundNew
    rcases marks with same | same <;> rw [same] <;> exact level name old held

end OfLevel

theorem isEmpty_of_grows {scopes later : List Scope}
    (grows : List.Forall₂ (Grows []) scopes later) : later.isEmpty = scopes.isEmpty := by
  cases grows <;> rfl

theorem Levelled.grows {scopes later : List Scope} (levelled : Levelled scopes)
    (grows : List.Forall₂ (Grows []) scopes later) : Levelled later := by
  induction grows with
  | nil => trivial
  | cons first others ih =>
    exact ⟨isEmpty_of_grows others ▸ levelled.1.grows first, ih levelled.2⟩

end Scope

namespace Checker

/-- The open scopes hold names of their levels, and the innermost one is the global scope, or
not. -/
structure AtLevel (top : Bool) (c : Checker) : Prop where
  scopes : Scope.Levelled c.environment.scopes
  outermost : c.environment.outer.isEmpty = top

namespace AtLevel

variable {top : Bool} {c c' : Checker}

theorem current (level : c.AtLevel top) : c.environment.current.OfLevel top :=
  level.outermost ▸ level.scopes.1

theorem extended (level : c.AtLevel top) (extended : c.Extends [] c') : c'.AtLevel top where
  scopes := level.scopes.grows (.cons extended.environment.current extended.environment.outer)
  outermost := (Scope.isEmpty_of_grows extended.environment.outer).trans level.outermost

/-- A change of the innermost scope that keeps its level. -/
theorem withCurrent (level : c.AtLevel top) {scope : Scope} (changed : scope.OfLevel top)
    (same : c'.environment = { c.environment with current := scope }) : c'.AtLevel top := by
  have outermost : c'.environment.outer.isEmpty = top := by rw [same]; exact level.outermost
  refine ⟨?_, outermost⟩
  rw [same]
  exact ⟨level.outermost ▸ changed, level.scopes.2⟩

end AtLevel

end Checker

namespace Check

variable {α β : Type} {top before between behind : Bool}

/-- The step leads from states at one level to states at the other one. -/
def Levels (before behind : Bool) (step : Check α) : Prop :=
  ∀ c : Checker, c.AtLevel before → (after step c).AtLevel behind

namespace Levels

theorem bind {step : Check α} {next : α → Check β} (first : Levels before between step)
    (rest : ∀ value, Levels between behind (next value)) : Levels before behind (step >>= next) :=
  fun c level => rest _ _ (first c level)

/-- A step that declares nothing. -/
theorem keeps {step : Check α} (keeps : Keeps step) : Levels top top step :=
  fun c level => level.extended (keeps c)

theorem pure (value : α) : Levels top top (Pure.pure value : Check α) := keeps (.pure value)

theorem returnsSeen : Levels top top returnsSeen := fun _ level => level

theorem enterScope : Levels top false enterScope :=
  fun _ level => ⟨⟨.empty, level.scopes⟩, rfl⟩

theorem declare (flags : Flags) (fits : flags.topLevel = top) (name : String) (ty : Ty)
    (span : Option Span) : Levels top top (declare name ty flags span) :=
  fun _ level => level.withCurrent (level.current.insert name (.declared ty flags span) fits) rfl

theorem tagLiteral (name : String) (value : Expr) : Levels top top (tagLiteral name value) := by
  cases value with
  | variant enum _ _ _ _ =>
    exact fun _ level => level.withCurrent (level.current.modify name
      (fun binding => { binding with enumTag := some enum }) fun _ => rfl) rfl
  | _ => exact pure _

theorem popFrame : Levels top top popFrame := fun _ level => ⟨level.scopes, level.outermost⟩

theorem truncateReturns (count : Nat) : Levels top top (truncateReturns count) := by
  intro c level
  rw [Check.truncateReturns, after_modifyReturns]
  exact ⟨level.scopes, level.outermost⟩

theorem hoist (top : Bool) (stmts : List Stmt) : Levels top top (hoist top stmts) := by
  induction stmts with
  | nil => exact .pure _
  | cons stmt rest ih =>
    cases stmt with
    | function signature body =>
      exact (keeps keeps_registry).bind fun _ =>
        (declare (.ofExport top signature.exported) rfl _ _ _).bind fun _ => ih
    | _ => exact ih

theorem declareImports (top : Bool) (span : Span) (names : List String) :
    Levels top top (declareImports top span names) := by
  induction names with
  | nil => exact .pure _
  | cons name rest ih => exact (declare (.atLevel top) rfl _ _ _).bind fun _ => ih

theorem declareParams (params : List Param) (types : List Ty) :
    Levels false false (declareParams params types) := by
  induction params generalizing types with
  | nil => exact .pure _
  | cons param rest ih =>
    cases types with
    | nil => exact .pure _
    | cons ty others => exact (declare .inner rfl _ _ _).bind fun _ => ih others

/-! Functions. -/

theorem afterSignature {c : Checker} (level : c.AtLevel top) (signature : Signature) :
    (afterSignature signature top c).AtLevel top :=
  level.withCurrent (level.current.insert signature.name _ rfl) rfl

theorem openFunction (signature : Signature) (top : Bool) :
    Levels top false (openFunction signature top) := by
  intro c level
  rw [after_openFunction_eq]
  have inside := (enterScope.bind fun _ => declareParams signature.params
    (signature.paramTypes c.registry)) _ (afterSignature level signature)
  exact ⟨inside.scopes, inside.outermost⟩

/-- Behind the body of a function the level is that in front of it. -/
theorem afterBody {signature : Signature} {c c' : Checker} (level : c.AtLevel top)
    (visited : (after (Check.openFunction signature top) c).Extends [] c')
    (expected : Option Ty) (body : BlockOutcome) :
    (afterBody signature expected body c').AtLevel top :=
  (afterSignature level signature).extended (extends_afterBody visited expected body)

theorem topLevel_withResult (result : Ty) (binding : Binding) :
    (withResult result binding).topLevel = binding.topLevel := by
  unfold withResult
  split <;> rfl

theorem function (top valued : Bool) (signature : Signature) (body : Block) :
    Levels top top (visitStmt ⟨top, valued⟩ (.function signature body)) := by
  rw [visitStmt]
  intro c level
  have visited := visitBlock_keeps (result (Check.openFunction signature top) c).isNone body
    (after (Check.openFunction signature top) c)
  have closed := afterBody level visited
  rw [after_bind, after_bind, after_bind, after_pure, after_closeFunction]
  exact (closed _ _).withCurrent
    ((closed _ _).current.modify signature.name _ (topLevel_withResult _)) rfl

/-! Visits. -/

theorem var (flags : Flags) (fits : flags.topLevel = top) (decl : VarDecl) :
    Levels top top (visitVar flags decl) := by
  rcases decl with ⟨name, mutable, ascription, value, exported, span⟩
  rw [visitVar_eq]
  exact (keeps (visitExpr_keeps value)).bind fun _ => (keeps keeps_registry).bind fun _ =>
    (keeps (keeps_settle _)).bind fun _ => (declare flags fits _ _ _).bind fun _ => tagLiteral _ _

theorem stmt (top valued : Bool) (s : Stmt) : Levels top top (visitStmt ⟨top, valued⟩ s) := by
  have visited := visitStmt_declares ⟨top, valued⟩ s
  cases s with
  | imports i =>
    rw [visitStmt]
    exact (declareImports top i.span i.names).bind fun _ => .pure _
  | var decl =>
    rw [visitStmt]
    exact (var (.ofExport top decl.exported) rfl decl).bind fun _ => .pure _
  | function signature body => exact function top valued signature body
  | _ => exact keeps visited

theorem stmts (valued : Bool) (progress : Progress) (body : List Stmt) :
    Levels false false (visitStmts valued progress body) := by
  induction body generalizing progress with
  | nil => rw [visitStmts]; exact .pure _
  | cons s rest ih =>
    rw [visitStmts]
    split
    · exact (keeps (keeps_error _ _)).bind fun _ => returnsSeen.bind fun _ =>
        (stmt false _ s).bind fun _ => (truncateReturns _).bind fun _ => ih progress
    · exact (stmt false _ s).bind fun _ => ih _

theorem topLevel (body : List Stmt) : Levels true true (visitTopLevel body) := by
  induction body with
  | nil => exact .pure _
  | cons s rest ih => exact (stmt true false s).bind fun _ => ih

theorem pattern (enum? : Option String) (p : Pattern) :
    Levels false false (visitPattern enum? p) := by
  have visited := visitPattern_declares enum? p
  cases p with
  | variant enum variant field binding span =>
    rw [visitPattern]
    refine (keeps keeps_registry).bind fun _ => (keeps (keeps_settle _)).bind fun _ => ?_
    cases binding with
    | none => exact .pure _
    | some name => exact declare .inner rfl _ _ _
  | _ => exact keeps visited

end Levels

end Check

namespace Task

/-- What the visit of a task is told about its level is right. -/
def Fits (top : Bool) : Task → Prop
  | stmt place _ => place.topLevel = top
  | var flags _ => flags.topLevel = top
  | pattern _ _ | stmts _ _ _ => top = false
  | topLevel _ => top = true
  | _ => True

/-- A visit leaves the level at which it starts, unless it leaves a scope open. -/
theorem levels {top : Bool} (task : Task) (fits : task.Fits top) :
    Levels top (top && !task.opensScope) task.step := by
  have visited := fun c => Visit.extends_finish ⟨task, c⟩
  rw [Bool.and_comm]
  cases task with
  | initializer decl =>
    cases decl with
    | none => exact Levels.pure _
    | some decl => exact Levels.enterScope.bind fun _ => Levels.var .inner rfl decl
  | pattern enum? p => cases fits; exact Levels.pattern enum? p
  | stmts valued progress body => cases fits; exact Levels.stmts valued progress body
  | stmt place s => cases fits; exact Levels.stmt place.topLevel place.valued s
  | var flags decl => exact Levels.var flags fits decl
  | topLevel body => cases fits; exact Levels.topLevel body
  | _ => exact Levels.keeps visited

end Task

/-- Behind an initializer, steps that declare nothing stay at the level of the branches. -/
theorem Check.Levels.initialized {top : Bool} {β : Type} (decl : Option VarDecl)
    {next : Unit → Check β} (keeps : ∀ value, Keeps (next value)) :
    Levels top (top && !(Task.initializer decl).opensScope) (visitInitializer decl >>= next) :=
  ((Task.initializer decl).levels trivial).bind fun value => .keeps (keeps value)

/-- A visit starts at the level that it is told. -/
def Visit.Levelled (v : Visit) : Prop := ∃ top, v.start.AtLevel top ∧ v.task.Fits top

/-- A visit enters others at the levels that it tells them. -/
theorem Enters.levelled {v w : Visit} (enters : Enters v w) (levelled : v.Levelled) :
    w.Levelled := by
  rcases levelled with ⟨top, level, fits⟩
  cases enters
  case right | args | updateOfStruct | moreArgs | moreValues =>
    exact ⟨top, level.extended (visitExpr_keeps _ _), trivial⟩
  case literalOfUnknown | payloadOfUnknownEnum | payloadOfUnknownVariant | returnedOutside
      | useless =>
    exact ⟨top, level.extended (keeps_error _ _ _), trivial⟩
  case updateOfUnknown | updateOfOther =>
    exact ⟨top, level.extended (((visitExpr_keeps _).lead fun _ => keeps_error _ _) _), trivial⟩
  case payloadOfVariant | firstField =>
    exact ⟨top, level.extended (keeps_settle _ _), trivial⟩
  case behindEmbedded | morePrinted =>
    exact ⟨top, level.extended (((visitExpr_keeps _).lead fun _ => keeps_settle _) _), trivial⟩
  case moreFields =>
    exact ⟨top, level.extended (((keeps_settle _).lead fun _ => (visitExpr_keeps _).lead fun _ =>
      keeps_settle _) _), trivial⟩
  case arms valued value arms span c =>
    have front : Keeps (do
        let matched ← visitExpr value
        let enum? ← matchedEnum? ⟨value, arms, span⟩ matched.ty
        emit (Arms.findings (← registry) enum? ⟨value, arms, span⟩)) :=
      (visitExpr_keeps value).lead fun _ => (keeps_matchedEnum? _ _).lead fun _ =>
        keeps_registry.lead fun _ => keeps_emit _
    exact ⟨top, level.extended (front c), trivial⟩
  case moreArms => exact ⟨top, level.extended (visitArm_keeps _ _ _ _), trivial⟩
  -- An initializer opens the scope of the branches.
  case condition decl condition _ _ _ _ =>
    exact ⟨_, (Task.initializer decl).levels trivial _ level, trivial⟩
  case consequence decl condition consequence _ _ _ =>
    exact ⟨_, Levels.initialized decl (fun _ => (visitExpr_keeps condition).lead fun _ =>
      keeps_settle _) _ level, trivial⟩
  case alternative decl condition consequence _ _ _ =>
    exact ⟨_, Levels.initialized decl (fun _ => (visitExpr_keeps condition).lead fun _ =>
      (keeps_settle _).lead fun _ => (visitBlock_keeps true consequence).lead fun _ =>
      keeps_settle _) _ level, trivial⟩
  case initialized | pattern => exact ⟨false, Levels.enterScope _ level, rfl⟩
  case guard => exact ⟨false, (Levels.enterScope.bind fun _ => .pattern _ _) _ level, trivial⟩
  case armBody =>
    exact ⟨false, (Levels.enterScope.bind fun _ => (Levels.pattern _ _).bind fun _ =>
      .keeps ((visitOptional_keeps _).lead fun _ => keeps_settleGuard _)) _ level, trivial⟩
  case body => exact ⟨false, (Levels.enterScope.bind fun _ => .hoist false _) _ level, rfl⟩
  case live => exact ⟨top, level, fits.symm⟩
  case behindLive =>
    cases fits
    exact ⟨false, Levels.stmt false _ _ _ level, rfl⟩
  case dead => exact ⟨top, level.extended (keeps_error _ _ _), fits.symm⟩
  case behindDead =>
    cases fits
    exact ⟨false, ((Levels.keeps (keeps_error _ _)).bind fun _ => Levels.returnsSeen.bind fun _ =>
      (Levels.stmt false _ _).bind fun _ => .truncateReturns _) _ level, rfl⟩
  case var => exact ⟨top, level, fits⟩
  case function =>
    cases fits
    exact ⟨false, Levels.openFunction _ _ _ level, trivial⟩
  case first => exact ⟨top, level, fits.symm⟩
  case others =>
    cases fits
    exact ⟨true, Levels.stmt true false _ _ level, rfl⟩
  all_goals exact ⟨top, level, trivial⟩

/-- A visit goes through states in which all scopes hold names of their levels. -/
theorem Amid.levelled {v : Visit} {c : Checker} (amid : Amid v c) (levelled : v.Levelled) :
    ∃ top, c.AtLevel top := by
  rcases levelled with ⟨top, level, fits⟩
  cases amid with
  | start => exact ⟨top, level⟩
  | finish => exact ⟨_, v.task.levels fits _ level⟩
  | @compared decl condition consequence alternative span c =>
    exact ⟨_, Levels.initialized decl (fun _ => (visitExpr_keeps condition).lead fun _ =>
      (keeps_settle _).lead fun _ => (visitBlock_keeps true consequence).lead fun _ =>
      (keeps_settle _).lead fun _ => (visitOtherwise_keeps alternative).lead fun _ =>
      keeps_settle _) _ level⟩
  | @joined decl condition consequence alternative span c =>
    exact ⟨_, Levels.initialized decl (fun _ => (visitExpr_keeps condition).lead fun _ =>
      (keeps_settle _).lead fun _ => (visitBlock_keeps true consequence).lead fun _ =>
      (keeps_settle _).lead fun _ => (visitOtherwise_keeps alternative).lead fun _ =>
      (keeps_settle _).lead fun _ => keeps_settle _) _ level⟩
  | armed =>
    exact ⟨false, (Levels.enterScope.bind fun _ => (Levels.pattern _ _).bind fun _ =>
      .keeps ((visitOptional_keeps _).lead fun _ => (keeps_settleGuard _).lead fun _ =>
        (visitExpr_keeps _).lead fun _ => (keeps_settleArmValue _ _ _).lead fun _ => .pure _))
      _ level⟩
  | matchedVariant => exact ⟨top, level.extended (keeps_settle _ _)⟩
  | hoisted ahead rest split =>
    exact ⟨false, (Levels.enterScope.bind fun _ => .hoist false ahead) _ level⟩
  | imported ahead rest split =>
    cases fits
    exact ⟨_, Levels.declareImports _ _ ahead _ level⟩
  | typed =>
    exact ⟨top, level.extended (((visitExpr_keeps _).lead fun _ => keeps_registry.lead fun _ =>
      keeps_settle _) _)⟩
  | @untagged flags name mutable ascription value exported span c =>
    exact ⟨top, ((Levels.keeps (visitExpr_keeps value)).bind fun _ =>
      (Levels.keeps keeps_registry).bind fun _ => (Levels.keeps (keeps_settle _)).bind fun _ =>
      .declare flags fits _ _ _) _ level⟩
  | params => exact ⟨top, level.extended (keeps_settle _ _)⟩
  | signed => exact ⟨top, level.extended (keeps_emit _ _)⟩
  | declared =>
    cases fits
    exact ⟨_, Levels.afterSignature level _⟩
  | opened ahead rest split =>
    cases fits
    exact ⟨false, (Levels.enterScope.bind fun _ => .declareParams ahead _) _
      (Levels.afterSignature level _)⟩
  | left =>
    cases fits
    exact ⟨false, ((Levels.openFunction _ _).bind fun _ =>
      (Levels.keeps (visitBlock_keeps _ _)).bind fun _ => .popFrame) _ level⟩
  | concluded =>
    cases fits
    exact ⟨false, ((Levels.openFunction _ _).bind fun _ =>
      (Levels.keeps (visitBlock_keeps _ _)).bind fun _ => Levels.popFrame.bind fun _ =>
      .keeps (keeps_settle _)) _ level⟩
  | closed =>
    cases fits
    exact ⟨_, Levels.afterBody level (visitBlock_keeps _ _ _) _ _⟩
  | returned frame inside =>
    exact ⟨top, level.extended (((visitOptional_keeps _).lead fun _ => keeps_settle _) _)⟩

namespace Module

variable {m : Module} {options : Options}

theorem atLevel_hoist (stmts : List Stmt) :
    (after (do register m.body; hoist true stmts) (Checker.fresh options)).AtLevel true := by
  have registered : (after (register m.body) (Checker.fresh options)).AtLevel true :=
    ⟨⟨.empty, trivial⟩, rfl⟩
  exact Levels.hoist true stmts _ registered

theorem atLevel_finish (m : Module) (options : Options) :
    (m.visit options).finish.AtLevel true :=
  Levels.topLevel m.body _ (atLevel_hoist m.body)

theorem levelled_of_visits {v : Visit} (visits : m.Visits options v) : v.Levelled := by
  induction visits with
  | refl => exact ⟨true, atLevel_hoist m.body, rfl⟩
  | tail _ enters ih => exact enters.levelled ih

/-- In every state of a check the bindings of the global scope are at top level and those of the
other scopes are not. -/
theorem levelled_of_reached {c : Checker} (reached : m.Reached options c) :
    Scope.Levelled c.environment.scopes := by
  cases reached with
  | named ahead rest split => exact ⟨.empty, trivial⟩
  | filled ahead rest split registered entered => exact ⟨.empty, trivial⟩
  | hoisted ahead rest split => exact (atLevel_hoist ahead).scopes
  | visited v c visits amid =>
    rcases amid.levelled (levelled_of_visits visits) with ⟨top, level⟩
    exact level.scopes
  | reported => exact (m.atLevel_finish options).scopes
  | checked => exact (m.atLevel_finish options).scopes

end Module

end ModuleCheck
