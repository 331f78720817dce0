import ModuleCheck.Proofs.Surroundings

namespace ModuleCheck

/-!
Blocks around a single expression.

A scope in which nothing is declared is invisible: a visit of an expression looks through it for
names and leaves it empty, and when it is closed there is nothing to report.  So a block that holds
one expression and nothing else is visited like the expression, and an `else` that is followed by
an if expression is visited like one that is followed by a block with that if expression.
-/

open Check

/-! An empty scope in front of all others. -/

namespace Scope

/-- The second surroundings have an empty scope in front of the first ones. -/
def EmptyInFront (scopes scopes' : List Scope) : Prop :=
  scopes ≠ [] ∧ scopes' = Table.empty :: scopes

instance : Surrounding EmptyInFront where
  open_left := fun related => related.1
  open_right := fun related => by rw [related.2]; exact List.cons_ne_nil _ _
  findSome? := by
    rintro scopes _ ⟨_, rfl⟩ name
    simp
  use := by
    rintro scopes _ ⟨nonempty, rfl⟩ name
    refine ⟨modifyFirst_ne_nil nonempty name _, ?_⟩
    rw [Environment.modifyFirst, Table.contains_empty, if_neg Bool.false_ne_true]

theorem unusedLocals_empty (options : Options) : unusedLocals options Table.empty = [] := by
  unfold unusedLocals
  split <;> rfl

end Scope

/-- An environment in front of which there is an empty scope has had a scope opened. -/
theorem Environment.Inside.eq_push {env env' : Environment}
    (inside : env.Inside Scope.EmptyInFront 0 env') : env' = env.push := by
  rcases env' with ⟨current', outer'⟩
  cases inside with
  | around related =>
    have scopes : current' :: outer' = Table.empty :: env.scopes := related.2
    cases scopes
    rfl

namespace FramesInside

/-- The open functions are inside themselves. -/
theorem exists_refl (frames : List Frame) : ∃ past, FramesInside past past 0 frames frames := by
  cases frames with
  | nil => exact ⟨[], .outside⟩
  | cons frame rest =>
    refine ⟨frame.returns, ?_⟩
    have around := @FramesInside.around frame.returns frame.returns frame.expected [] rest
    rwa [List.append_nil] at around

end FramesInside

/-- States that have the same past and differ by an empty scope in front. -/
theorem Checker.Inside.eq_enterScope {reports : List Diagnostic} {returns : List Ty}
    {c c' : Checker}
    (inside : Inside Scope.EmptyInFront ⟨reports, reports, returns, returns⟩ ⟨0, 0⟩ c c') :
    c' = after enterScope c := by
  have environment := inside.environment.eq_push
  have frames := inside.frames.eq_of_same_past
  have diagnostics : c'.diagnostics = c.diagnostics := by
    rcases inside.reports with ⟨ds, reported, reported'⟩
    rw [reported, reported']
  rcases inside with ⟨options, registry, _, _, fault, _⟩
  rcases c' with ⟨options', registry', environment', frames', diagnostics', fault'⟩
  subst options registry environment frames diagnostics fault
  rfl

namespace Check

/-- Closing a scope in which nothing was declared undoes its opening. -/
theorem after_exitScope_enterScope (c : Checker) : after exitScope (after enterScope c) = c := by
  have popped : (after enterScope c).environment.pop? = some (Table.empty, c.environment) := rfl
  rw [after_exitScope popped, Scope.unusedLocals_empty, List.append_nil]
  rfl

/-- In an empty scope an expression is visited as outside of it, and the scope stays empty. -/
theorem visitExpr_inEmptyScope (e : Expr) (c : Checker) :
    result (visitExpr e) (after enterScope c) = result (visitExpr e) c ∧
      after (visitExpr e) (after enterScope c) = after enterScope (after (visitExpr e) c) := by
  rcases FramesInside.exists_refl c.frames with ⟨past, frames⟩
  have inside : Checker.Inside Scope.EmptyInFront ⟨c.diagnostics, c.diagnostics, past, past⟩ ⟨0, 0⟩
      c (after enterScope c) := {
    options := rfl
    registry := rfl
    environment := .around ⟨List.cons_ne_nil _ _, rfl⟩
    frames := frames
    fault := rfl
    reports := ⟨[], (List.append_nil _).symm, (List.append_nil _).symm⟩ }
  rcases visitExpr_local e _ _ _ inside with ⟨same, left⟩
  exact ⟨same, left.eq_enterScope⟩

/-- A block that holds one expression and nothing else is visited like the expression. -/
theorem visitExpr_block_singleton (e : Expr) (span span' : Span) :
    visitExpr (.block ⟨[.expr e span], span'⟩) = visitExpr e := by
  funext c
  have visited := visitExpr_inEmptyScope e c
  have opened : insideBlock [.expr e span] c = after enterScope c := rfl
  have statement : visitStmts true {} [.expr e span] = (do
      let outcome ← visitExpr e
      pure ⟨outcome.ty, outcome.alwaysReturns⟩) := by
    rw [visitStmts_live, visitStmt]
    simp [visitStmts]
  refine Prod.ext ?_ ?_
  · change (result (visitBlock true ⟨[.expr e span], span'⟩) c).toExprOutcome =
      result (visitExpr e) c
    rw [result_visitBlock, opened, statement, result_bind, visited.1]
    rfl
  · change after (visitBlock true ⟨[.expr e span], span'⟩) c = after (visitExpr e) c
    rw [after_visitBlock, opened, statement, after_bind, visited.2]
    exact after_exitScope_enterScope _

/-- Blocks are transparent, and an if expression behind `else` stands for a block with it: from
every state, the visits yield the same type and the same verdict on returns, and they leave the
same state. -/
theorem blocks_transparent :
    (∀ (e : Expr) (span span' : Span) (c : Checker),
      result (visitExpr (.block ⟨[.expr e span], span'⟩)) c = result (visitExpr e) c ∧
        after (visitExpr (.block ⟨[.expr e span], span'⟩)) c = after (visitExpr e) c) ∧
    ∀ (initializer : Option VarDecl) (condition : Expr) (consequence : Block) (k : Conditional)
      (span span' : Span) (c : Checker),
      let elseIf : Expr := .conditional ⟨initializer, condition, consequence, .elseIf k, span⟩
      let elseBlock : Expr := .conditional
        ⟨initializer, condition, consequence, .block ⟨[.expr (.conditional k) span'], k.span⟩, span⟩
      result (visitExpr elseIf) c = result (visitExpr elseBlock) c ∧
        after (visitExpr elseIf) c = after (visitExpr elseBlock) c := by
  constructor
  · intro e span span' c
    rw [visitExpr_block_singleton]
    exact ⟨rfl, rfl⟩
  · intro initializer condition consequence k span span' c elseIf elseBlock
    have otherwise : visitOtherwise (.block ⟨[.expr (.conditional k) span'], k.span⟩) =
        visitOtherwise (.elseIf k) := by
      have block := visitExpr_block_singleton (.conditional k) span' k.span
      rw [visitExpr, visitExpr] at block
      rw [visitOtherwise, visitOtherwise, block]
    have same : visitExpr elseIf = visitExpr elseBlock := by
      rw [visitExpr, visitExpr, visitConditional_eq, visitConditional_eq]
      unfold visitBranches
      rw [otherwise]
      rfl
    rw [same]
    exact ⟨rfl, rfl⟩

end Check

end ModuleCheck
