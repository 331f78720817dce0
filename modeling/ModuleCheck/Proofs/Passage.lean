import ModuleCheck.Proofs.Visits

namespace ModuleCheck

/-!
The run of a visit passes through the runs of the visits that it enters.

So what the steps in front of an entered visit keep holds where it starts, and what the steps
behind it accumulate, such as reports, includes what was there when it ended.  The passage is
proved once for a relation that the steps in front respect and one that the steps behind
respect.  A first use is the order of everything that a check accumulates: a module without an
error has no error at any point of its check.
-/

open Check

namespace Check

variable {α β : Type}

/-- Every run of the step is along the relation. -/
def Along (R : Checker → Checker → Prop) (step : Check α) : Prop := ∀ c, R c (after step c)

/-- The run of a step from `c` contains the run of another step from `c'`.  The steps in front
of the latter are along the first relation, those behind it along the second one. -/
inductive Passes (R S : Checker → Checker → Prop) (inner : Check β) (c' : Checker) :
    {α : Type} → Check α → Checker → Prop
  | here : Passes R S inner c' inner c'
  | within {α γ : Type} {step : Check α} {next : α → Check γ} {c : Checker}
      (passes : Passes R S inner c' step c) (behind : ∀ value, Along S (next value)) :
      Passes R S inner c' (step >>= next) c
  | past {α γ : Type} {step : Check α} {next : α → Check γ} {c : Checker}
      (front : Along R step)
      (passes : Passes R S inner c' (next (result step c)) (after step c)) :
      Passes R S inner c' (step >>= next) c

end Check

/-- A relation that can be followed from step to step. -/
structure Preordered (R : Checker → Checker → Prop) : Prop where
  refl : ∀ c, R c c
  trans : ∀ {c c' c''}, R c c' → R c' c'' → R c c''

namespace Preordered

variable {α β : Type} {R S : Checker → Checker → Prop}

theorem pure (ordered : Preordered R) (value : α) : Along R (Pure.pure value : Check α) :=
  ordered.refl

theorem bind (ordered : Preordered R) {step : Check α} {next : α → Check β}
    (first : Along R step) (rest : ∀ value, Along R (next value)) : Along R (step >>= next) :=
  fun c => ordered.trans (first c) (rest _ _)

/-- A run is along the first relation up to the run that it contains, and along the second one
from there to its end. -/
theorem of_passes (front : Preordered R) (behind : Preordered S) {inner : Check β}
    {c' : Checker} {step : Check α} {c : Checker} (passes : Passes R S inner c' step c) :
    R c c' ∧ S (after inner c') (after step c) := by
  induction passes with
  | here => exact ⟨front.refl _, behind.refl _⟩
  | within _ rest ih => exact ⟨ih.1, behind.trans ih.2 (rest _ _)⟩
  | past first _ ih => exact ⟨front.trans (first _) ih.1, ih.2⟩

end Preordered

/-- The steps that stand in front of entered visits are along the relation. -/
structure Front (R : Checker → Checker → Prop) : Prop extends Preordered R where
  emit : ∀ diagnostics, Along R (emit diagnostics)
  visit : ∀ task : Task, Along R task.step
  enterScope : Along R enterScope
  hoist : ∀ topLevel stmts, Along R (hoist topLevel stmts)
  openFunction : ∀ signature topLevel, Along R (openFunction signature topLevel)
  dead : ∀ place stmt, Along R (do
    let live ← returnsSeen
    let _ ← visitStmt place stmt
    truncateReturns live)

/-- The steps that stand behind entered visits in the same function and in live code are along
the relation. -/
structure Behind (S : Checker → Checker → Prop) : Prop extends Preordered S where
  emit : ∀ diagnostics, Along S (emit diagnostics)
  visit : ∀ task : Task, Along S task.step
  exitScope : Along S exitScope
  returnsSince : ∀ count, Along S (returnsSince count)
  recordReturn : ∀ ty, Along S (recordReturn ty)
  declare : ∀ name ty flags span value, Along S (do
    declare name ty flags span
    tagLiteral name value)

/-- The steps behind the bodies of functions and behind dead statements are along the
relation. -/
structure Closing (S : Checker → Checker → Prop) : Prop where
  closeFunction : ∀ signature expected body, Along S (closeFunction signature expected body)
  truncateReturns : ∀ count, Along S (truncateReturns count)

namespace Front

variable {α : Type} {R : Checker → Checker → Prop}

theorem settle (front : Front R) (r : Reported α) : Along R (settle r) :=
  front.bind (front.emit _) fun _ => front.pure _

theorem matchedEnum? (front : Front R) (m : Match) (ty : Ty) : Along R (matchedEnum? m ty) := by
  intro c
  rw [after_matchedEnum?]
  exact front.refl c

theorem settleGuard (front : Front R) (operand : Option Operand) :
    Along R (settleGuard operand) := by
  cases operand with
  | none => exact front.pure _
  | some operand => exact front.settle _

end Front

namespace Behind

variable {α : Type} {S : Checker → Checker → Prop}

theorem settle (behind : Behind S) (r : Reported α) : Along S (settle r) :=
  behind.bind (behind.emit _) fun _ => behind.pure _

theorem settleGuard (behind : Behind S) (operand : Option Operand) :
    Along S (settleGuard operand) := by
  cases operand with
  | none => exact behind.pure _
  | some operand => exact behind.settle _

theorem settleArmValue (behind : Behind S) (valued : Bool) (body : ExprOutcome) (span : Span) :
    Along S (settleArmValue valued body span) := by
  unfold Check.settleArmValue
  split
  · exact behind.settle _
  · exact behind.pure _

theorem matchedEnum? (behind : Behind S) (m : Match) (ty : Ty) :
    Along S (matchedEnum? m ty) := by
  intro c
  rw [after_matchedEnum?]
  exact behind.refl c

theorem exitInitializer (behind : Behind S) (decl : Option VarDecl) :
    Along S (exitInitializer decl) := by
  cases decl with
  | none => exact behind.pure _
  | some decl => exact behind.exitScope

theorem expr (behind : Behind S) (e : Expr) : Along S (visitExpr e) := behind.visit (.expr e)

/-- What follows the target of a struct update. -/
theorem updated (behind : Behind S) (ty : Ty) (fields : List FieldInit) (span : Span) :
    Along S (match ty with
      | .struct struct => do
        match (← registry).structs.get? struct with
        | none =>
          error (.unknownStruct struct) (some span)
          visitFieldValues fields
          pure (ExprOutcome.value .unknown)
        | some declared =>
          visitFields struct declared [] fields
          pure (.value (.struct struct))
      | other => do
        error (.updateNonStruct other.text) (some span)
        visitFieldValues fields
        pure (.value .unknown)) := by
  split
  · refine behind.bind behind.refl fun _ => ?_
    split
    · exact behind.bind (behind.emit _) fun _ =>
        behind.bind (behind.visit (.fieldValues fields)) fun _ => behind.pure _
    · exact behind.bind (behind.visit (.fields _ _ _ fields)) fun _ => behind.pure _
  · exact behind.bind (behind.emit _) fun _ =>
      behind.bind (behind.visit (.fieldValues fields)) fun _ => behind.pure _

/-- What follows the condition of an if expression. -/
theorem tested (behind : Behind S) (ty : Ty) (condition : Span) (consequence : Block)
    (alternative : Otherwise) (span : Span) :
    Along S (do
      Check.settle (Rules.condition ⟨ty, condition⟩)
      let block ← visitBlock true consequence
      Check.settle (Rules.requireBranchValue block.toExprOutcome "If branch" consequence.span)
      let second ← visitOtherwise alternative
      Check.settle (Rules.requireBranchValue second "If branch" alternative.span)
      Check.settle (Rules.branches block.toExprOutcome second span)) :=
  behind.bind (behind.settle _) fun _ => behind.bind (behind.visit (.block true consequence))
    fun _ => behind.bind (behind.settle _) fun _ =>
    behind.bind (behind.visit (.otherwise alternative)) fun _ =>
    behind.bind (behind.settle _) fun _ => behind.settle _

end Behind

namespace Task

/-- Whether what is visited from here on runs in the function around it, if it runs at all: the
task neither opens a function nor continues behind a statement that always returns. -/
def isLive : Task → Bool
  | stmt _ (.function ..) => false
  | stmts _ progress _ => !progress.alwaysReturns
  | _ => true

end Task

namespace Enters

variable {R S : Checker → Checker → Prop} {w : Visit} {c : Checker}

/-! The run of a visit contains the runs of the visits that it enters. -/

theorem passes_expr (front : Front R) (behind : Behind S) {e : Expr}
    (enters : Enters ⟨.expr e, c⟩ w) :
    Passes R S w.task.step w.start (visitExpr e) c := by
  have expr (e : Expr) : Along R (visitExpr e) := front.visit (.expr e)
  cases enters
  case interpolated =>
    rw [visitExpr]
    exact .within .here fun _ => behind.pure _
  case left =>
    rw [visitExpr]
    exact .within .here fun _ => behind.bind (behind.expr _) fun _ =>
      behind.bind (behind.settle _) fun _ => behind.pure _
  case right =>
    rw [visitExpr]
    exact .past (expr _) (.within .here fun _ =>
      behind.bind (behind.settle _) fun _ => behind.pure _)
  case operand =>
    rw [visitExpr]
    exact .within .here fun _ => behind.bind (behind.settle _) fun _ => behind.pure _
  case callee =>
    rw [visitExpr]
    exact .within .here fun _ => behind.bind (behind.visit (.args _)) fun _ =>
      behind.bind (behind.settle _) fun _ => behind.pure _
  case args =>
    rw [visitExpr]
    exact .past (expr _) (.within .here fun _ =>
      behind.bind (behind.settle _) fun _ => behind.pure _)
  case conditional => rw [visitExpr]; exact .here
  case matching =>
    rw [visitExpr]
    exact .within .here fun _ => behind.bind (behind.settle _) fun _ => behind.pure _
  case literalOfUnknown missing =>
    rw [visitExpr]
    refine .past front.refl ?_
    simp only [result_registry, after_registry, missing]
    exact .past (front.emit _) (.within .here fun _ => behind.pure _)
  case literalOfStruct declared found =>
    rw [visitExpr]
    refine .past front.refl ?_
    simp only [result_registry, after_registry, found]
    exact .within .here fun _ => behind.bind (behind.settle _) fun _ => behind.pure _
  case target =>
    rw [visitExpr]
    exact .within .here fun _ => behind.updated _ _ _
  case updateOfUnknown struct typed missing =>
    rw [visitExpr]
    refine .past (expr _) ?_
    simp only [typed]
    refine .past front.refl ?_
    simp only [result_registry, after_registry, missing]
    exact .past (front.emit _) (.within .here fun _ => behind.pure _)
  case updateOfStruct struct declared typed found =>
    rw [visitExpr]
    refine .past (expr _) ?_
    simp only [typed]
    refine .past front.refl ?_
    simp only [result_registry, after_registry, found]
    exact .within .here fun _ => behind.pure _
  case updateOfOther untyped =>
    rw [visitExpr]
    refine .past (expr _) ?_
    split
    · exact absurd (by assumption) (untyped _)
    · exact .past (front.emit _) (.within .here fun _ => behind.pure _)
  case payloadOfUnknownEnum missing =>
    rw [visitExpr]
    refine .past front.refl ?_
    simp only [result_registry, after_registry, missing]
    exact .past (front.emit _) (.within .here fun _ => behind.pure _)
  case payloadOfUnknownVariant variants missing found =>
    rw [visitExpr]
    refine .past front.refl ?_
    simp only [result_registry, after_registry, found, missing]
    exact .past (front.emit _) (.within .here fun _ => behind.pure _)
  case payloadOfVariant variants declared known found =>
    rw [visitExpr]
    refine .past front.refl ?_
    simp only [result_registry, after_registry, found, known]
    refine .past (front.settle _) (.within .here fun operand => ?_)
    cases operand with
    | none => exact behind.pure _
    | some operand => exact behind.bind (behind.settle _) fun _ => behind.pure _
  case block =>
    rw [visitExpr]
    exact .within .here fun _ => behind.pure _

theorem passes_conditional (front : Front R) (behind : Behind S) {k : Conditional}
    (enters : Enters ⟨.conditional k, c⟩ w) :
    Passes R S w.task.step w.start (visitConditional k) c := by
  have initializer (decl : Option VarDecl) : Along R (visitInitializer decl) :=
    front.visit (.initializer decl)
  have expr (e : Expr) : Along R (visitExpr e) := front.visit (.expr e)
  have closing (decl : Option VarDecl) (outcome : ExprOutcome) :
      Along S (do exitInitializer decl; pure outcome) :=
    behind.bind (behind.exitInitializer decl) fun _ => behind.pure _
  cases enters
  case initializer =>
    rw [visitConditional_eq]
    refine .within .here fun _ => behind.bind ?_ fun _ => closing _ _
    exact behind.bind (behind.expr _) fun _ => behind.tested _ _ _ _ _
  case condition =>
    rw [visitConditional_eq]
    refine .past (initializer _) (.within ?_ fun _ => closing _ _)
    exact .within .here fun _ => behind.tested _ _ _ _ _
  case consequence =>
    rw [visitConditional_eq]
    refine .past (initializer _) (.within ?_ fun _ => closing _ _)
    exact .past (expr _) (.past (front.settle _) (.within .here fun _ =>
      behind.bind (behind.settle _) fun _ => behind.bind (behind.visit (.otherwise _)) fun _ =>
      behind.bind (behind.settle _) fun _ => behind.settle _))
  case alternative =>
    rw [visitConditional_eq]
    refine .past (initializer _) (.within ?_ fun _ => closing _ _)
    exact .past (expr _) (.past (front.settle _) (.past (front.visit (.block true _))
      (.past (front.settle _) (.within .here fun _ =>
      behind.bind (behind.settle _) fun _ => behind.settle _))))

theorem passes_match (front : Front R) (behind : Behind S) {valued : Bool} {m : Match}
    (enters : Enters ⟨.matching valued m, c⟩ w) :
    Passes R S w.task.step w.start (visitMatch valued m) c := by
  cases enters
  case matched =>
    rw [visitMatch]
    exact .within .here fun _ => behind.bind (behind.matchedEnum? _ _) fun _ =>
      behind.bind behind.refl fun _ => behind.bind (behind.emit _) fun _ =>
      behind.bind (behind.visit (.arms _ _ _)) fun _ => behind.settle _
  case arms =>
    rw [visitMatch]
    exact .past (front.visit (.expr _)) (.past (front.matchedEnum? _ _)
      (.past front.refl (.past (front.emit _) (.within .here fun _ => behind.settle _))))

theorem passes_arm (front : Front R) (behind : Behind S) {valued : Bool}
    {enum? : Option String} {arm : Arm} (enters : Enters ⟨.arm valued enum? arm, c⟩ w) :
    Passes R S w.task.step w.start (visitArm valued enum? arm) c := by
  have closing (outcome : ExprOutcome) : Along S (do exitScope; pure outcome) :=
    behind.bind behind.exitScope fun _ => behind.pure _
  have ending (outcome : ExprOutcome) (span : Span) :
      Along S (do settleArmValue valued outcome span; pure outcome) :=
    behind.bind (behind.settleArmValue _ _ _) fun _ => behind.pure _
  cases enters
  case pattern =>
    rw [visitArm_eq]
    refine .past front.enterScope (.within ?_ closing)
    exact .within .here fun _ => behind.bind (behind.visit (.optional _)) fun _ =>
      behind.bind (behind.settleGuard _) fun _ => behind.bind (behind.expr _) fun _ =>
      ending _ _
  case guard =>
    rw [visitArm_eq]
    refine .past front.enterScope (.within ?_ closing)
    exact .past (front.visit (.pattern _ _)) (.within .here fun _ =>
      behind.bind (behind.settleGuard _) fun _ => behind.bind (behind.expr _) fun _ =>
      ending _ _)
  case armBody =>
    rw [visitArm_eq]
    refine .past front.enterScope (.within ?_ closing)
    exact .past (front.visit (.pattern _ _)) (.past (front.visit (.optional _))
      (.past (front.settleGuard _) (.within .here fun _ => ending _ _)))

theorem passes_stmts (front : Front R) (behind : Behind S) {valued : Bool} {progress : Progress}
    {stmts : List Stmt} (enters : Enters ⟨.stmts valued progress stmts, c⟩ w)
    (closing : progress.alwaysReturns = false ∨ Closing S) :
    Passes R S w.task.step w.start (visitStmts valued progress stmts) c := by
  have rest (progress : Progress) (stmts : List Stmt) :
      Along S (visitStmts valued progress stmts) :=
    behind.visit (.stmts valued progress stmts)
  cases enters
  case live reached =>
    rw [visitStmts, if_neg (by simp [reached])]
    exact .within .here fun _ => rest _ _
  case behindLive reached visited =>
    subst visited
    rw [visitStmts, if_neg (by simp [reached])]
    exact .past (front.visit (.stmt _ _)) .here
  case dead stopped =>
    rw [visitStmts, if_pos stopped]
    refine .past (front.emit _) (.past front.refl (.within .here fun _ => ?_))
    rcases closing with reached | closing
    · rw [stopped] at reached; cases reached
    · exact behind.bind (closing.truncateReturns _) fun _ => rest _ _
  case behindDead stmt stmts stopped =>
    rw [visitStmts, if_pos stopped]
    have regrouped (live : Check Progress) :
        (do
          let count ← returnsSeen
          let _ ← visitStmt ⟨false, valued && stmts.isEmpty⟩ stmt
          truncateReturns count
          live) = (do
          (do
            let count ← returnsSeen
            let _ ← visitStmt ⟨false, valued && stmts.isEmpty⟩ stmt
            truncateReturns count)
          live) := rfl
    refine .past (front.emit _) ?_
    rw [regrouped]
    exact .past (front.dead _ _) .here

theorem passes_stmt (front : Front R) (behind : Behind S) {place : Place} {stmt : Stmt}
    (enters : Enters ⟨.stmt place stmt, c⟩ w)
    (closing : (Task.stmt place stmt).isLive = true ∨ Closing S) :
    Passes R S w.task.step w.start (visitStmt place stmt) c := by
  cases enters
  case var =>
    rw [visitStmt]
    exact .within .here fun _ => behind.pure _
  case function =>
    rw [visitStmt]
    refine .past (front.openFunction _ _) ?_
    rw [result_openFunction]
    rcases closing with live | closing
    · cases live
    · exact .within .here fun _ => behind.bind (closing.closeFunction _ _ _) fun _ =>
        behind.pure _
  case printed =>
    rw [visitStmt]
    exact .within .here fun _ => behind.pure _
  case returnedOutside outside =>
    rw [visitStmt]
    refine .past front.refl ?_
    simp only [result_frame?, after_frame?, outside, List.head?_nil]
    exact .past (front.emit _) (.within .here fun _ => behind.pure _)
  case returned inside =>
    rw [visitStmt]
    refine .past front.refl ?_
    simp only [result_frame?, after_frame?]
    cases shape : c.frames with
    | nil => exact absurd shape inside
    | cons frame rest =>
      rw [List.head?_cons]
      exact .within .here fun _ => behind.bind (behind.settle _) fun _ =>
        behind.bind (behind.recordReturn _) fun _ => behind.pure _
  case used used =>
    rw [visitStmt, if_pos used]
    exact .within .here fun _ => behind.pure _
  case useless unused =>
    rw [visitStmt, if_neg (by simp [unused])]
    exact .past (front.emit _) (.within .here fun _ => behind.pure _)

theorem passes {v : Visit} (front : Front R) (behind : Behind S) (enters : Enters v w)
    (closing : v.task.isLive = true ∨ Closing S) :
    Passes R S w.task.step w.start v.task.step v.start := by
  have expr (e : Expr) : Along R (visitExpr e) := front.visit (.expr e)
  rcases v with ⟨task, c⟩
  cases task with
  | expr e => exact passes_expr front behind enters
  | conditional k => exact passes_conditional front behind enters
  | matching valued m => exact passes_match front behind enters
  | arm valued enum? arm => exact passes_arm front behind enters
  | stmt place stmt => exact passes_stmt front behind enters closing
  | stmts valued progress stmts =>
    exact passes_stmts front behind enters (closing.imp_left fun live => by
      simpa [Task.isLive] using live)
  | optional e =>
    cases enters
    dsimp only [Task.step]
    rw [visitOptional]
    exact .within .here fun _ => behind.pure _
  | parts pieces =>
    cases enters <;> dsimp only [Task.step] <;> rw [visitParts]
    case behindText => exact .here
    case embedded =>
      exact .within .here fun _ => behind.bind (behind.settle _) fun _ =>
        behind.visit (.parts _)
    case behindEmbedded => exact .past (expr _) (.past (front.settle _) .here)
  | args es =>
    cases enters <;> dsimp only [Task.step] <;> rw [visitArgs]
    case firstArg =>
      exact .within .here fun _ => behind.bind (behind.visit (.args _)) fun _ => behind.pure _
    case moreArgs => exact .past (expr _) (.within .here fun _ => behind.pure _)
  | printed es =>
    cases enters <;> dsimp only [Task.step] <;> rw [visitPrinted]
    case firstPrinted =>
      exact .within .here fun _ => behind.bind (behind.settle _) fun _ =>
        behind.visit (.printed _)
    case morePrinted => exact .past (expr _) (.past (front.settle _) .here)
  | fieldValues fields =>
    cases enters <;> dsimp only [Task.step] <;> rw [visitFieldValues]
    case firstValue => exact .within .here fun _ => behind.visit (.fieldValues _)
    case moreValues => exact .past (expr _) .here
  | fields struct declared given fields =>
    cases enters <;> dsimp only [Task.step] <;> rw [visitFields]
    case firstField =>
      exact .past (front.settle _) (.within .here fun _ => behind.bind (behind.settle _) fun _ =>
        behind.visit (.fields _ _ _ _))
    case moreFields =>
      exact .past (front.settle _) (.past (expr _) (.past (front.settle _) .here))
  | initializer decl =>
    cases enters
    dsimp only [Task.step]
    rw [visitInitializer]
    exact .past front.enterScope .here
  | otherwise alternative =>
    cases enters <;> dsimp only [Task.step] <;> rw [visitOtherwise]
    case otherwise => exact .within .here fun _ => behind.pure _
    case elseIf => exact .here
  | arms valued enum? arms =>
    cases enters <;> dsimp only [Task.step] <;> rw [visitArms]
    case firstArm =>
      exact .within .here fun _ => behind.bind (behind.visit (.arms _ _ _)) fun _ =>
        behind.pure _
    case moreArms =>
      exact .past (front.visit (.arm _ _ _)) (.within .here fun _ => behind.pure _)
  | pattern enum? pattern =>
    cases enters
    dsimp only [Task.step]
    rw [visitPattern]
    exact .within .here fun _ => behind.pure _
  | block valued b =>
    cases enters
    dsimp only [Task.step]
    rw [visitBlock]
    exact .past front.enterScope (.past (front.hoist _ _) (.past front.refl
      (.within .here fun _ => behind.bind behind.exitScope fun _ =>
      behind.bind (behind.returnsSince _) fun _ => behind.pure _)))
  | var flags decl =>
    cases enters
    dsimp only [Task.step]
    rw [visitVar_eq]
    exact .within .here fun _ => behind.bind behind.refl fun _ =>
      behind.bind (behind.settle _) fun _ => behind.declare _ _ _ _ _
  | topLevel stmts =>
    cases enters <;> dsimp only [Task.step] <;> rw [visitTopLevel]
    case first => exact .within .here fun _ => behind.visit (.topLevel _)
    case others => exact .past (front.visit (.stmt _ _)) .here

end Enters

theorem Front.anything : Front fun _ _ => True where
  refl := fun _ => trivial
  trans := fun _ _ => trivial
  emit := fun _ _ => trivial
  visit := fun _ _ => trivial
  enterScope := fun _ => trivial
  hoist := fun _ _ _ => trivial
  openFunction := fun _ _ _ => trivial
  dead := fun _ _ _ => trivial

theorem Behind.anything : Behind fun _ _ => True where
  refl := fun _ => trivial
  trans := fun _ _ => trivial
  emit := fun _ _ => trivial
  visit := fun _ _ => trivial
  exitScope := fun _ => trivial
  returnsSince := fun _ _ => trivial
  recordReturn := fun _ _ => trivial
  declare := fun _ _ _ _ _ _ => trivial

namespace Enters

variable {R S : Checker → Checker → Prop} {v w : Visit}

/-- From the start of a visit to that of a visit which it enters. -/
theorem front (enters : Enters v w) (front : Front R) : R v.start w.start := by
  have passes := enters.passes front Behind.anything
    (Or.inr ⟨fun _ _ _ _ => trivial, fun _ _ => trivial⟩)
  exact (Preordered.of_passes front.toPreordered Behind.anything.toPreordered passes).1

/-- From the end of an entered visit to the end of the visit that enters it. -/
theorem behind (enters : Enters v w) (behind : Behind S)
    (closing : v.task.isLive = true ∨ Closing S) : S w.finish v.finish := by
  have passes := enters.passes Front.anything behind closing
  exact (Preordered.of_passes Front.anything.toPreordered behind.toPreordered passes).2

end Enters

/-! What a check accumulates. -/

namespace Checker

/-- What every step of a visit leaves as it is or only adds to.  A fault stays. -/
structure Later (c c' : Checker) : Prop where
  options : c'.options = c.options
  registry : c'.registry = c.registry
  diagnostics : c.diagnostics <+: c'.diagnostics
  fault : c'.fault = none → c.fault = none

namespace Later

theorem refl (c : Checker) : Later c c := ⟨rfl, rfl, List.prefix_refl _, id⟩

theorem trans {c c' c'' : Checker} (one : Later c c') (two : Later c' c'') : Later c c'' where
  options := two.options.trans one.options
  registry := two.registry.trans one.registry
  diagnostics := one.diagnostics.trans two.diagnostics
  fault := fun faultless => one.fault (two.fault faultless)

theorem ordered : Preordered Later := ⟨refl, trans⟩

theorem ofExtends {c c' : Checker} {declared : List String} (extended : c.Extends declared c') :
    Later c c' :=
  ⟨extended.options, extended.registry, extended.diagnostics,
    fun faultless => extended.fault.symm.trans faultless⟩

theorem enterScope : Along Later enterScope := fun _ => ⟨rfl, rfl, List.prefix_refl _, id⟩

theorem breach (fault : Fault) : Along Later (Check.breach fault) := by
  intro c
  refine ⟨rfl, rfl, List.prefix_refl _, ?_⟩
  intro faultless
  have joined : c.fault.or (some fault) = none := faultless
  cases held : c.fault with
  | none => rfl
  | some old => rw [held] at joined; cases joined

theorem exitScope : Along Later exitScope := by
  intro c
  cases popped : c.environment.pop? with
  | none =>
    rw [after_exitScope_global popped]
    exact breach _ c
  | some pair =>
    rw [after_exitScope popped]
    exact ⟨rfl, rfl, List.prefix_append _ _, id⟩

theorem returnsSince (count : Nat) : Along Later (Check.returnsSince count) := by
  unfold Check.returnsSince
  refine ordered.bind refl fun frame => ?_
  cases frame with
  | none => exact ordered.pure _
  | some frame =>
    dsimp only
    split
    · exact ordered.bind (breach _) fun _ => ordered.pure _
    · exact ordered.pure _

theorem truncateReturns (count : Nat) : Along Later (Check.truncateReturns count) := by
  intro c
  unfold Check.truncateReturns
  rw [after_modifyReturns]
  exact ⟨rfl, rfl, List.prefix_refl _, id⟩

theorem visit (task : Task) : Along Later task.step := by
  intro c
  have extended := ofExtends (Visit.extends_finish ⟨task, c⟩)
  unfold Visit.opening at extended
  split at extended
  · exact (enterScope c).trans extended
  · exact extended

theorem openFunction (signature : Signature) (topLevel : Bool) :
    Along Later (Check.openFunction signature topLevel) := by
  intro c
  rw [after_openFunction_eq]
  have outside := ofExtends (extends_afterSignature signature topLevel c)
  have entered := enterScope (afterSignature signature topLevel c)
  have inside := ofExtends (extends_afterParams signature topLevel c)
  have framed : Later (afterParams signature topLevel c)
      (after (pushFrame (signature.declaredResult c.registry))
        (afterParams signature topLevel c)) :=
    ⟨rfl, rfl, List.prefix_refl _, id⟩
  exact ((outside.trans entered).trans inside).trans framed

theorem front : Front Later where
  toPreordered := ordered
  emit := fun _ _ => ⟨rfl, rfl, List.prefix_append _ _, id⟩
  visit := visit
  enterScope := enterScope
  hoist := fun topLevel stmts c => ofExtends (declares_hoist topLevel stmts c)
  openFunction := openFunction
  dead := fun place stmt => ordered.bind refl fun _ => ordered.bind (visit (.stmt place stmt))
    fun _ => truncateReturns _

theorem behind : Behind Later where
  toPreordered := ordered
  emit := fun _ _ => ⟨rfl, rfl, List.prefix_append _ _, id⟩
  visit := visit
  exitScope := exitScope
  returnsSince := returnsSince
  recordReturn := fun ty c => ofExtends (keeps_recordReturn ty c)
  declare := fun name ty flags span value c =>
    ofExtends (extends_tagLiteral (declares_declare name ty flags span c) value)

theorem closing : Closing Later where
  closeFunction := fun _ _ _ => ordered.bind (fun _ => ⟨rfl, rfl, List.prefix_refl _, id⟩) fun _ =>
    ordered.bind (front.settle _) fun _ => ordered.bind exitScope fun _ _ =>
    ⟨rfl, rfl, List.prefix_refl _, id⟩
  truncateReturns := truncateReturns

end Later

end Checker

namespace Reaches

open Checker (Later)

variable {v w : Visit}

/-- A visit starts no earlier and ends no later than the visits that lead to it. -/
theorem later (reaches : Reaches v w) : Later v.start w.start ∧ Later w.finish v.finish := by
  induction reaches with
  | refl => exact ⟨.refl _, .refl _⟩
  | tail _ enters ih =>
    exact ⟨ih.1.trans (enters.front Later.front),
      (enters.behind Later.behind (Or.inr Later.closing)).trans ih.2⟩

end Reaches

/-! The check of a module. -/

namespace Module

/-- The visit of the statements of a module, behind the registration of its types and the
declaration of its functions. -/
def visit (m : Module) (options : Options) : Visit :=
  ⟨.topLevel m.body, after (do register m.body; hoist true m.body) (Checker.fresh options)⟩

/-- The visit is made during the check of the module. -/
def Visits (m : Module) (options : Options) (v : Visit) : Prop := Reaches (m.visit options) v

theorem checked_eq (m : Module) (options : Options) :
    m.checked options =
      after (do
        let scope := (m.visit options).finish.environment.current
        reportUnusedLocals scope
        warnUnusedTopLevel scope) (m.visit options).finish := rfl

/-- The final reports come behind all visits. -/
theorem finish_later_checked (m : Module) (options : Options) :
    Checker.Later (m.visit options).finish (m.checked options) := by
  rw [checked_eq]
  exact ⟨rfl, rfl, (List.prefix_append _ _).trans (List.prefix_append _ _), id⟩

/-- What is registered ahead of the visits stays so. -/
theorem registry_eq_of_visits {m : Module} {options : Options} {v : Visit}
    (visits : m.Visits options v) : (m.checked options).registry = v.start.registry := by
  have whole := Reaches.later visits
  have last := m.finish_later_checked options
  have run : Checker.Later (m.visit options).start (m.visit options).finish :=
    .ofExtends (visitTopLevel_declares m.body _)
  rw [last.registry, run.registry, whole.1.registry]

theorem registry_checked (m : Module) (options : Options) :
    (m.checked options).registry = (Registry.empty.register options m.body).value := by
  rw [registry_eq_of_visits (.refl : m.Visits options (m.visit options))]
  exact (declares_hoist true m.body (after (register m.body) (Checker.fresh options))).registry

/-- The end of every visit comes before the end of the check. -/
theorem later_of_visits {m : Module} {options : Options} {v : Visit}
    (visits : m.Visits options v) : Checker.Later v.finish (m.checked options) :=
  (Reaches.later visits).2.trans (m.finish_later_checked options)

end Module

end ModuleCheck
