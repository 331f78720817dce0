import ModuleCheck.Proofs.Live

namespace ModuleCheck

/-!
Control flow.

Whether a part of a tree always returns is told by its syntax alone, in every state.  This
verdict is compared with executions that forget all values: both branches of an if expression
and all arms of a match may be taken, and a `return` ends an execution.  Where the verdict is
that a part always returns, no execution comes to its end.
-/

open Check

/-! The verdict. -/

namespace AlwaysReturns

mutual

def ofExpr : Expr → Bool
  | .conditional k => ofConditional k
  | .matching m => ofMatch m
  | .block b => ofBlock b
  | _ => false

def ofConditional : Conditional → Bool
  | { initializer := _, condition := _, consequence, alternative, span := _ } =>
    ofBlock consequence && ofOtherwise alternative

def ofOtherwise : Otherwise → Bool
  | .block b => ofBlock b
  | .elseIf k => ofConditional k

/-- A match without arms does not return. -/
def ofMatch : Match → Bool
  | { value := _, arms, span := _ } => !arms.isEmpty && ofArms arms

def ofArms : List Arm → Bool
  | [] => true
  | arm :: rest => ofArm arm && ofArms rest

def ofArm : Arm → Bool
  | { pattern := _, guard := _, body, span := _ } => ofExpr body

def ofBlock : Block → Bool
  | { body, span := _ } => ofStmts body

def ofStmts : List Stmt → Bool
  | [] => false
  | stmt :: rest => ofStmt stmt || ofStmts rest

def ofStmt : Stmt → Bool
  | .returns .. => true
  | .expr value _ => ofExpr value
  | _ => false

end

theorem ofArms_eq (arms : List Arm) : ofArms arms = arms.all ofArm := by
  induction arms with
  | nil => rfl
  | cons arm rest ih => rw [ofArms, ih]; rfl

theorem ofStmts_eq (stmts : List Stmt) : ofStmts stmts = stmts.any ofStmt := by
  induction stmts with
  | nil => rfl
  | cons stmt rest ih => rw [ofStmts, ih]; rfl

/-- An expression that may not stand as a statement does not return. -/
theorem ofExpr_of_not_isEffectful {e : Expr} (idle : e.isEffectful = false) :
    ofExpr e = false := by
  cases e with
  | conditional | matching | block => cases idle
  | _ => rfl

end AlwaysReturns

namespace Rules

theorem alwaysReturns_branches (consequence alternative : ExprOutcome) (span : Span) :
    (branches consequence alternative span).value.alwaysReturns =
      (consequence.alwaysReturns && alternative.alwaysReturns) := by
  unfold branches
  cases both : consequence.alwaysReturns && alternative.alwaysReturns <;> rfl

theorem alwaysReturns_arms (outcomes : List ExprOutcome) (span : Span) :
    (arms outcomes span).value.alwaysReturns =
      (!outcomes.isEmpty && outcomes.all ExprOutcome.alwaysReturns) := by
  unfold arms
  cases every : !outcomes.isEmpty && outcomes.all ExprOutcome.alwaysReturns <;> rfl

end Rules

namespace Check

theorem isEmpty_visitArms (valued : Bool) (enum? : Option String) (arms : List Arm)
    (c : Checker) : (result (visitArms valued enum? arms) c).isEmpty = arms.isEmpty := by
  cases arms <;> rw [visitArms] <;> rfl

open AlwaysReturns

mutual

/-- A visit tells the verdict, in whichever state it is made. -/
theorem alwaysReturns_visitExpr : (e : Expr) → (c : Checker) →
    (result (visitExpr e) c).alwaysReturns = ofExpr e
  | .identifier .., c => by rw [visitExpr]; rfl
  | .int .., c => by rw [visitExpr]; rfl
  | .string .., c => by rw [visitExpr]; rfl
  | .bool .., c => by rw [visitExpr]; rfl
  | .interpolated .., c => by rw [visitExpr]; rfl
  | .binary .., c => by rw [visitExpr]; rfl
  | .unary .., c => by rw [visitExpr]; rfl
  | .call .., c => by rw [visitExpr]; rfl
  | .conditional k, c => by rw [visitExpr, ofExpr]; exact alwaysReturns_visitConditional k c
  | .matching m, c => by rw [visitExpr, ofExpr]; exact alwaysReturns_visitMatch true m c
  | .construct struct fields span, c => by
    rw [visitExpr, result_bind]
    split <;> rfl
  | .update target fields span, c => by
    rw [visitExpr, result_bind]
    split
    · rw [result_bind]
      split <;> rfl
    · rfl
  | .variant enum variant field payload span, c => by
    rw [visitExpr, result_bind]
    split
    · rfl
    · split
      · rfl
      · rw [result_bind, result_bind]
        split <;> rfl
  | .block b, c => by rw [visitExpr, ofExpr]; exact alwaysReturns_visitBlock true b c

theorem alwaysReturns_visitConditional : (k : Conditional) → (c : Checker) →
    (result (visitConditional k) c).alwaysReturns = ofConditional k
  | ⟨initializer, condition, consequence, alternative, span⟩, c => by
    rw [visitConditional_eq, ofConditional]
    simp only [visitBranches, result_bind, result_pure, result_settle,
      Rules.alwaysReturns_branches, BlockOutcome.toExprOutcome]
    rw [alwaysReturns_visitBlock true consequence, alwaysReturns_visitOtherwise alternative]

theorem alwaysReturns_visitOtherwise : (alternative : Otherwise) → (c : Checker) →
    (result (visitOtherwise alternative) c).alwaysReturns = ofOtherwise alternative
  | .block b, c => by rw [visitOtherwise, ofOtherwise]; exact alwaysReturns_visitBlock true b c
  | .elseIf k, c => by rw [visitOtherwise, ofOtherwise]; exact alwaysReturns_visitConditional k c

theorem alwaysReturns_visitMatch (valued : Bool) : (m : Match) → (c : Checker) →
    (result (visitMatch valued m) c).alwaysReturns = ofMatch m
  | ⟨value, arms, span⟩, c => by
    rw [visitMatch, ofMatch]
    simp only [result_bind, result_settle, Rules.alwaysReturns_arms]
    rw [isEmpty_visitArms, all_visitArms valued _ arms]

theorem all_visitArms (valued : Bool) (enum? : Option String) :
    (arms : List Arm) → (c : Checker) →
      (result (visitArms valued enum? arms) c).all ExprOutcome.alwaysReturns = ofArms arms
  | [], c => by rw [visitArms, ofArms]; rfl
  | arm :: rest, c => by
    rw [visitArms, ofArms]
    simp only [result_bind, result_pure, List.all_cons]
    rw [alwaysReturns_visitArm valued enum? arm, all_visitArms valued enum? rest]

theorem alwaysReturns_visitArm (valued : Bool) (enum? : Option String) :
    (arm : Arm) → (c : Checker) →
      (result (visitArm valued enum? arm) c).alwaysReturns = ofArm arm
  | ⟨pattern, guard, body, span⟩, c => by
    rw [visitArm_eq, ofArm]
    exact alwaysReturns_visitExpr body _

theorem alwaysReturns_visitBlock (valued : Bool) : (b : Block) → (c : Checker) →
    (result (visitBlock valued b) c).alwaysReturns = ofBlock b
  | ⟨body, span⟩, c => by
    rw [visitBlock, ofBlock]
    simp only [result_bind, result_pure]
    rw [alwaysReturns_visitStmts valued {} body, Bool.false_or]

/-- Behind a statement that always returns the verdict on a block stands. -/
theorem alwaysReturns_visitStmts (valued : Bool) (progress : Progress) :
    (stmts : List Stmt) → (c : Checker) →
      (result (visitStmts valued progress stmts) c).alwaysReturns =
        (progress.alwaysReturns || ofStmts stmts)
  | [], c => by rw [visitStmts, ofStmts, Bool.or_false]; rfl
  | stmt :: rest, c => by
    rw [visitStmts, ofStmts]
    split
    · rename_i stopped
      simp only [result_bind]
      rw [alwaysReturns_visitStmts valued progress rest, stopped, Bool.true_or, Bool.true_or]
    · rename_i reached
      simp only [result_bind]
      rw [alwaysReturns_visitStmts valued _ rest, alwaysReturns_visitStmt _ stmt,
        Bool.eq_false_iff.mpr reached, Bool.false_or]

theorem alwaysReturns_visitStmt (place : Place) : (stmt : Stmt) → (c : Checker) →
    (result (visitStmt place stmt) c).alwaysReturns = ofStmt stmt
  | .struct _, c => by rw [visitStmt]; rfl
  | .enum _, c => by rw [visitStmt]; rfl
  | .imports _, c => by rw [visitStmt]; rfl
  | .var _, c => by rw [visitStmt]; rfl
  | .function .., c => by rw [visitStmt]; rfl
  | .print .., c => by rw [visitStmt]; rfl
  | .returns value span, c => by
    rw [visitStmt, ofStmt, result_bind]
    split <;> rfl
  | .expr value span, c => by
    rw [visitStmt, ofStmt]
    split
    · exact alwaysReturns_visitExpr value c
    · rename_i useless
      have idle : value.isEffectful = false := by
        cases effect : value.isEffectful with
        | false => rfl
        | true => simp [effect] at useless
      exact (ofExpr_of_not_isEffectful idle).symm

end

end Check

/-! Executions. -/

/-- How an execution of a part ends: at the end of the part, or earlier in a `return`. -/
inductive Ending where
  | completes
  | returns

namespace Conditional

/-- What runs in front of the branches. -/
def test (k : Conditional) : List Fragment :=
  k.initializer.toList.map .var ++ [.expr k.condition]

end Conditional

namespace Fragment

/-- The parts that run one after another, for a fragment that neither chooses between its parts
nor returns.  A pattern is compared with and runs nothing, and so does the declaration of a
function. -/
def steps? : Fragment → Option (List Fragment)
  | conditional _ | matching _ | stmt (.returns ..) => none
  | arm a => some (a.guard.toList.map expr ++ [expr a.body])
  | pattern _ => some []
  | f => some f.children

end Fragment

mutual

/-- The fragment can be executed to the given ending, whatever the values may be. -/
inductive Runs : Fragment → Ending → Prop
  | steps {f parts ending} (inOrder : f.steps? = some parts) (run : RunInOrder parts ending) :
      Runs f ending
  /-- The right operand of `&&` and `||` may be skipped. -/
  | skips {op left right span} (logical : op.group = .logical)
      (first : Runs (.expr left) .completes) :
      Runs (.expr (.binary op left right span)) .completes
  | consequence {k ending} (tested : RunInOrder k.test .completes)
      (branch : Runs (.block k.consequence) ending) : Runs (.conditional k) ending
  | alternative {k ending} (tested : RunInOrder k.test .completes)
      (branch : Runs (.otherwise k.alternative) ending) : Runs (.conditional k) ending
  | untested {k} (returned : RunInOrder k.test .returns) : Runs (.conditional k) .returns
  | arm {m a ending} (matched : Runs (.expr m.value) .completes) (among : a ∈ m.arms)
      (taken : Runs (.arm a) ending) : Runs (.matching m) ending
  /-- Where there is no arm to take, the execution goes on. -/
  | noArm {m} (matched : Runs (.expr m.value) .completes) (without : m.arms = []) :
      Runs (.matching m) .completes
  | unmatched {m} (returned : Runs (.expr m.value) .returns) : Runs (.matching m) .returns
  /-- A `return` ends the execution, and so does one inside the value that it gives back. -/
  | returns {value span ending} (run : RunInOrder (value.toList.map .expr) ending) :
      Runs (.stmt (.returns value span)) .returns

/-- The fragments can be executed one after another to the given ending. -/
inductive RunInOrder : List Fragment → Ending → Prop
  | nil : RunInOrder [] .completes
  | cons {f rest ending} (first : Runs f .completes) (others : RunInOrder rest ending) :
      RunInOrder (f :: rest) ending
  | stops {f rest} (first : Runs f .returns) : RunInOrder (f :: rest) .returns

end

/-! Every fragment has an execution. -/

namespace Fragment

theorem sizeOf_ofPart {part : Part} {inner : Fragment} (embedded : ofPart part = some inner) :
    sizeOf inner ≤ 1 + sizeOf part := by
  cases part with
  | text => cases embedded
  | embedded e span =>
    cases embedded
    simp
    omega

/-- What is right below a fragment is smaller. -/
theorem sizeOf_lt_of_mem_children {outer inner : Fragment} (child : inner ∈ outer.children) :
    sizeOf inner < sizeOf outer := by
  have listed {α : Type} [SizeOf α] {xs : List α} {x : α} (member : x ∈ xs) :
      sizeOf x < sizeOf xs := List.sizeOf_lt_of_mem member
  cases outer with
  | expr e => cases e <;> grind [children, cases FieldInit, → sizeOf_ofPart]
  | conditional k => grind [children, cases Conditional]
  | otherwise alternative => grind [children, cases Otherwise]
  | matching m => grind [children, cases Match]
  | arm a => grind [children, cases Arm]
  | pattern p => grind [children, cases Pattern]
  | block b => grind [children, cases Block]
  | stmt s => grind [children, cases Stmt]
  | var decl => grind [children, cases VarDecl]

/-- What holds of a fragment if it holds of everything right below holds of all fragments. -/
theorem induction {motive : Fragment → Prop}
    (step : ∀ f, (∀ inner ∈ f.children, motive inner) → motive f) (f : Fragment) : motive f :=
  step f fun inner _ => induction step inner
termination_by sizeOf f
decreasing_by exact sizeOf_lt_of_mem_children ‹_›

theorem mem_children_of_steps? {f part : Fragment} {parts : List Fragment}
    (inOrder : f.steps? = some parts) (member : part ∈ parts) : part ∈ f.children := by
  cases f with
  | conditional | matching => cases inOrder
  | arm a =>
    cases inOrder
    exact List.mem_cons_of_mem _ member
  | pattern p =>
    cases inOrder
    cases member
  | stmt s =>
    cases s with
    | returns => cases inOrder
    | _ =>
      cases inOrder
      exact member
  | _ =>
    cases inOrder
    exact member

end Fragment

theorem exists_runInOrder {parts : List Fragment}
    (each : ∀ part ∈ parts, ∃ ending, Runs part ending) :
    ∃ ending, RunInOrder parts ending := by
  induction parts with
  | nil => exact ⟨_, .nil⟩
  | cons part rest ih =>
    rcases each part List.mem_cons_self with ⟨ending, first⟩
    cases ending with
    | returns => exact ⟨_, .stops first⟩
    | completes =>
      rcases ih fun other member => each other (List.mem_cons_of_mem _ member) with ⟨ending, others⟩
      exact ⟨ending, .cons first others⟩

theorem exists_runs (f : Fragment) : ∃ ending, Runs f ending := by
  induction f using Fragment.induction with
  | step f below =>
    cases inOrder : f.steps? with
    | some parts =>
      rcases exists_runInOrder fun part member =>
        below part (Fragment.mem_children_of_steps? inOrder member) with ⟨ending, run⟩
      exact ⟨ending, .steps inOrder run⟩
    | none =>
      cases f with
      | conditional k =>
        have test : ∀ part ∈ k.test, ∃ ending, Runs part ending := by
          intro part member
          refine below part ?_
          rcases List.mem_append.mp member with start | condition
          · exact List.mem_append_left _ start
          · exact List.mem_append_right _
              (List.mem_cons.mpr (Or.inl (List.mem_singleton.mp condition)))
        rcases exists_runInOrder test with ⟨ending, tested⟩
        cases ending with
        | returns => exact ⟨_, .untested tested⟩
        | completes =>
          rcases below (.block k.consequence) (by simp [Fragment.children]) with ⟨ending, branch⟩
          exact ⟨ending, .consequence tested branch⟩
      | matching m =>
        rcases below (.expr m.value) List.mem_cons_self with ⟨ending, matched⟩
        cases ending with
        | returns => exact ⟨_, .unmatched matched⟩
        | completes =>
          cases arms : m.arms with
          | nil => exact ⟨_, .noArm matched arms⟩
          | cons a rest =>
            have among : a ∈ m.arms := by rw [arms]; exact List.mem_cons_self
            rcases below (.arm a) (List.mem_cons_of_mem _ (List.mem_map_of_mem among)) with
              ⟨ending, taken⟩
            exact ⟨ending, .arm matched among taken⟩
      | stmt s =>
        cases s with
        | returns value span =>
          rcases exists_runInOrder fun part member => below part member with ⟨ending, run⟩
          exact ⟨_, .returns run⟩
        | _ => cases inOrder
      | _ => cases inOrder

/-! The verdict is right. -/

namespace Fragment

/-- The verdict on a fragment. -/
def alwaysReturns : Fragment → Bool
  | expr e => AlwaysReturns.ofExpr e
  | conditional k => AlwaysReturns.ofConditional k
  | otherwise alternative => AlwaysReturns.ofOtherwise alternative
  | matching m => AlwaysReturns.ofMatch m
  | arm a => AlwaysReturns.ofArm a
  | block b => AlwaysReturns.ofBlock b
  | stmt s => AlwaysReturns.ofStmt s
  | pattern _ | var _ => false

/-- Parts that run one after another return only if one of them does. -/
theorem alwaysReturns_of_steps? {f : Fragment} {parts : List Fragment}
    (inOrder : f.steps? = some parts) (goOn : ∀ part ∈ parts, part.alwaysReturns = false) :
    f.alwaysReturns = false := by
  cases f with
  | conditional | matching => cases inOrder
  | pattern | var => rfl
  | expr e =>
    cases inOrder
    cases e with
    | conditional k => exact goOn (.conditional k) (List.mem_singleton.mpr rfl)
    | matching m => exact goOn (.matching m) (List.mem_singleton.mpr rfl)
    | block b => exact goOn (.block b) (List.mem_singleton.mpr rfl)
    | _ => rfl
  | otherwise alternative =>
    cases inOrder
    cases alternative with
    | block b => exact goOn (.block b) (List.mem_singleton.mpr rfl)
    | elseIf k => exact goOn (.conditional k) (List.mem_singleton.mpr rfl)
  | arm a =>
    cases inOrder
    rcases a with ⟨pattern, guard, body, span⟩
    exact goOn (.expr body) (List.mem_append_right _ (List.mem_singleton.mpr rfl))
  | block b =>
    cases inOrder
    rcases b with ⟨body, span⟩
    change AlwaysReturns.ofStmts body = false
    rw [AlwaysReturns.ofStmts_eq, List.any_eq_false]
    intro stmt member
    exact Bool.eq_false_iff.mp (goOn (.stmt stmt) (List.mem_map_of_mem member))
  | stmt s =>
    cases s with
    | returns => cases inOrder
    | expr value span =>
      cases inOrder
      exact goOn (.expr value) (List.mem_singleton.mpr rfl)
    | _ => rfl

end Fragment

mutual

/-- Where an execution comes to the end, the verdict is not that it always returns.  The
induction is on the execution. -/
theorem Runs.goesOn : {f : Fragment} → {ending : Ending} → Runs f ending →
    ending = .completes → f.alwaysReturns = false
  | _, _, .steps inOrder run, atEnd => Fragment.alwaysReturns_of_steps? inOrder (run.goOn atEnd)
  | _, _, .skips _ _, _ => rfl
  | .conditional ⟨_, _, consequence, alternative, _⟩, _, .consequence _ branch, atEnd => by
    have goesOn : AlwaysReturns.ofBlock consequence = false := branch.goesOn atEnd
    change (_ && _) = false
    rw [goesOn, Bool.false_and]
  | .conditional ⟨_, _, consequence, alternative, _⟩, _, .alternative _ branch, atEnd => by
    have goesOn : AlwaysReturns.ofOtherwise alternative = false := branch.goesOn atEnd
    change (_ && _) = false
    rw [goesOn, Bool.and_false]
  | .matching ⟨value, arms, _⟩, _, .arm _ among taken, atEnd => by
    have goesOn := taken.goesOn atEnd
    change (_ && AlwaysReturns.ofArms arms) = false
    rw [AlwaysReturns.ofArms_eq, Bool.and_eq_false_iff, List.all_eq_false]
    exact Or.inr ⟨_, among, Bool.eq_false_iff.mp goesOn⟩
  | .matching ⟨value, arms, _⟩, _, .noArm _ without, _ => by
    cases without
    rfl
  | _, _, .untested _, atEnd => by cases atEnd
  | _, _, .unmatched _, atEnd => by cases atEnd
  | _, _, .returns _, atEnd => by cases atEnd

theorem RunInOrder.goOn : {parts : List Fragment} → {ending : Ending} → RunInOrder parts ending →
    ending = .completes → ∀ part ∈ parts, part.alwaysReturns = false
  | _, _, .nil, _ => fun _ member => by cases member
  | _, _, .cons first others, atEnd =>
    List.forall_mem_cons.mpr ⟨first.goesOn rfl, others.goOn atEnd⟩
  | _, _, .stops _, atEnd => by cases atEnd

end

/-- The fragment can be executed, and every execution ends in a `return`. -/
structure Fragment.OnlyReturns (f : Fragment) : Prop where
  returns : Runs f .returns
  neverCompletes : ¬ Runs f .completes

theorem Fragment.onlyReturns {f : Fragment} (verdict : f.alwaysReturns = true) :
    f.OnlyReturns := by
  have neverCompletes : ¬ Runs f .completes := by
    intro run
    rw [run.goesOn rfl] at verdict
    cases verdict
  rcases exists_runs f with ⟨ending, run⟩
  cases ending with
  | completes => exact absurd run neverCompletes
  | returns => exact ⟨run, neverCompletes⟩

/-! Functions with a declared result. -/

/-- The report that the end of the body of a function may be reached. -/
def Signature.missingReturn (s : Signature) : Diagnostic :=
  Diagnostic.error (.missingReturn s.name) (some s.span)

namespace Check

variable {α : Type}

/-- What a step adds to the reports. -/
def reported (step : Check α) (c : Checker) : List Diagnostic :=
  (after step c).diagnostics.drop c.diagnostics.length

/-- Behind the visit of its body, a function is reported because its end may be reached. -/
def ReportsMissingReturn (place : Place) (signature : Signature) (body : Block) (c : Checker) :
    Prop :=
  let declared := signature.declaredResult c.registry
  let inside := after (openFunction signature place.topLevel) c
  signature.missingReturn ∈
    reported (closeFunction signature declared (result (visitBlock declared.isNone body) inside))
      (after (visitBlock declared.isNone body) inside)

/-- The end of a function reports what the rule for its result finds. -/
theorem functionResult_prefix_reported (signature : Signature) (declared : Option Ty)
    (body : BlockOutcome) (c : Checker) :
    (Rules.functionResult signature.name declared body signature.span).diagnostics <+:
      reported (closeFunction signature declared body) c := by
  have settled : c.diagnostics ++
      (Rules.functionResult signature.name declared body signature.span).diagnostics <+:
        (after (closeFunction signature declared body) c).diagnostics :=
    (Checker.Later.exitScope (after (do
      let _ ← popFrame
      settle (Rules.functionResult signature.name declared body signature.span)) c)).diagnostics
  rcases settled with ⟨rest, whole⟩
  rw [reported, ← whole, List.append_assoc, List.drop_left]
  exact List.prefix_append _ _

/-- A function with a declared result that is not reported has a body that always returns. -/
theorem alwaysReturns_of_not_reported {place : Place} {signature : Signature} {body : Block}
    {c : Checker} {ty : Ty} (declared : signature.declaredResult c.registry = some ty)
    (concrete : ty.isConcrete = true) (valued : ty.isUnit = false)
    (unreported : ¬ ReportsMissingReturn place signature body c) :
    AlwaysReturns.ofBlock body = true := by
  unfold ReportsMissingReturn at unreported
  simp only [declared, Option.isNone_some] at unreported
  rw [← alwaysReturns_visitBlock false body (after (openFunction signature place.topLevel) c)]
  by_contra goesOn
  refine unreported ((functionResult_prefix_reported signature (some ty) _ _).subset ?_)
  simp [Rules.functionResult, Reported.require, Signature.missingReturn, concrete, valued, goesOn]

theorem mem_after_of_reports {place : Place} {signature : Signature} {body : Block} {c : Checker}
    (reports : ReportsMissingReturn place signature body c) :
    signature.missingReturn ∈
      (after (visitStmt place (.function signature body)) c).diagnostics := by
  rw [visitStmt]
  simp only [after_bind, after_pure, result_openFunction]
  exact List.mem_of_mem_drop reports

/-- The verdict of a visit is right.  An expression, statement or block of which a visit says
that it always returns only returns, and so does the body of every function whose declared
result is neither absorbing nor unit, unless the function is reported: by its own visit, or in
what a check tells about the module around it. -/
theorem alwaysReturns_sound :
    (∀ e c, (result (visitExpr e) c).alwaysReturns = true → (Fragment.expr e).OnlyReturns) ∧
    (∀ place s c, (result (visitStmt place s) c).alwaysReturns = true →
      (Fragment.stmt s).OnlyReturns) ∧
    (∀ valued b c, (result (visitBlock valued b) c).alwaysReturns = true →
      (Fragment.block b).OnlyReturns) ∧
    (∀ place signature body c ty, signature.declaredResult c.registry = some ty →
      ty.isConcrete = true → ty.isUnit = false → ¬ ReportsMissingReturn place signature body c →
      (Fragment.block body).OnlyReturns) ∧
    (∀ (m : Module) options place signature body c ty,
      m.Visits options ⟨.stmt place (.function signature body), c⟩ →
      signature.declaredResult c.registry = some ty → ty.isConcrete = true → ty.isUnit = false →
      signature.missingReturn ∉ m.check options → (Fragment.block body).OnlyReturns) := by
  refine ⟨?_, ?_, ?_, ?_, ?_⟩
  · intro e c verdict
    exact Fragment.onlyReturns ((alwaysReturns_visitExpr e c).symm.trans verdict)
  · intro place s c verdict
    exact Fragment.onlyReturns ((alwaysReturns_visitStmt place s c).symm.trans verdict)
  · intro valued b c verdict
    exact Fragment.onlyReturns ((alwaysReturns_visitBlock valued b c).symm.trans verdict)
  · intro place signature body c ty declared concrete valued unreported
    exact Fragment.onlyReturns (alwaysReturns_of_not_reported declared concrete valued unreported)
  · intro m options place signature body c ty visits declared concrete valued unreported
    have silent : ¬ ReportsMissingReturn place signature body c := by
      intro reports
      exact unreported
        ((Module.later_of_visits visits).diagnostics.subset (mem_after_of_reports reports))
    exact Fragment.onlyReturns (alwaysReturns_of_not_reported declared concrete valued silent)

/-- A function that returns from a branch and from all arms of a match in the other one. -/
theorem alwaysReturns_sound_sign :
    let s := Span.null
    let give (n : Int) : Block := ⟨[.returns (some (.int n s)) s], s⟩
    let arms : List Arm := [⟨.literal (.int 0 s) s, none, .block (give 0), s⟩,
      ⟨.wildcard s, none, .block (give 1), s⟩]
    let choice : Expr := .conditional ⟨none, .binary .less (.identifier "n" s) (.int 0 s) s,
      give 2, .block ⟨[.expr (.matching ⟨.identifier "n" s, arms, s⟩) s], s⟩, s⟩
    let signature : Signature :=
      ⟨"sign", [⟨"n", some (.named "Int" s), s⟩], some (.named "Int" s), true, s⟩
    let body : Block := ⟨[.expr choice s], s⟩
    let m : Module := ⟨[.function signature body]⟩
    let c := (m.visit {}).start
    ((result (visitExpr choice) c).alwaysReturns = true ∧ (Fragment.expr choice).OnlyReturns) ∧
      ((result (visitStmt ⟨false, true⟩ (.expr choice s)) c).alwaysReturns = true ∧
        (Fragment.stmt (.expr choice s)).OnlyReturns) ∧
      ((result (visitBlock false body) c).alwaysReturns = true ∧
        (Fragment.block body).OnlyReturns) ∧
      signature.declaredResult c.registry = some .int ∧
      (¬ ReportsMissingReturn ⟨true, false⟩ signature body c ∧ (Fragment.block body).OnlyReturns) ∧
      (signature.missingReturn ∉ m.check {} ∧ (Fragment.block body).OnlyReturns) := by
  intro s give arms choice signature body m c
  have ofExpr : (result (visitExpr choice) c).alwaysReturns = true := by decide +kernel
  have ofStmt : (result (visitStmt ⟨false, true⟩ (.expr choice s)) c).alwaysReturns = true := by
    decide +kernel
  have ofBlock : (result (visitBlock false body) c).alwaysReturns = true := by decide +kernel
  have declared : signature.declaredResult c.registry = some .int := by decide +kernel
  have silent : ¬ ReportsMissingReturn ⟨true, false⟩ signature body c := by
    unfold ReportsMissingReturn
    decide +kernel
  have unreported : signature.missingReturn ∉ m.check {} := by decide +kernel
  have visits : m.Visits {} ⟨.stmt ⟨true, false⟩ (.function signature body), c⟩ :=
    .single .first
  rcases alwaysReturns_sound with ⟨exprs, stmts, blocks, functions, modules⟩
  exact ⟨⟨ofExpr, exprs choice c ofExpr⟩, ⟨ofStmt, stmts _ _ c ofStmt⟩,
    ⟨ofBlock, blocks false body c ofBlock⟩, declared,
    ⟨silent, functions _ _ body c .int declared rfl rfl silent⟩,
    ⟨unreported, modules m {} _ _ body c .int visits declared rfl rfl unreported⟩⟩

end Check

end ModuleCheck
