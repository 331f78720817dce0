import ModuleCheck.Proofs.ControlFlow
import ModuleCheck.Proofs.Returns

namespace ModuleCheck

/-!
Dead code.

The statements of a block behind the first one that always returns are dead.  They are visited like
all others, with their declarations, blocks and functions, and each of them is reported by the
block.  But what the block tells about itself, and what it leaves recorded as returned, comes from
the live statements alone.
-/

open Check

namespace AlwaysReturns

/-- The statements up to the first one that always returns. -/
def livePart : List Stmt → List Stmt
  | [] => []
  | stmt :: rest => if ofStmt stmt then [stmt] else stmt :: livePart rest

theorem exists_livePart_append (stmts : List Stmt) : ∃ dead, stmts = livePart stmts ++ dead := by
  induction stmts with
  | nil => exact ⟨[], rfl⟩
  | cons stmt rest ih =>
    rw [livePart]
    split
    · exact ⟨rest, rfl⟩
    · rcases ih with ⟨dead, whole⟩
      exact ⟨dead, by rw [List.cons_append, ← whole]⟩

/-- The live statements return if all of them together do. -/
theorem ofStmts_livePart (stmts : List Stmt) : ofStmts (livePart stmts) = ofStmts stmts := by
  induction stmts with
  | nil => rfl
  | cons stmt rest ih =>
    rw [livePart, ofStmts]
    split
    · rename_i returns
      rw [ofStmts, returns, Bool.true_or, Bool.true_or]
    · rw [ofStmts, ih]

end AlwaysReturns

/-- The types that are recorded for the innermost function, none outside of all functions. -/
def Checker.returned (c : Checker) : List Ty := (c.frames.head?.map Frame.returns).getD []

/-- The types that were recorded in between. -/
theorem FramesGrow.exists_returned {c c' : Checker} (grows : FramesGrow c.frames c'.frames) :
    ∃ recorded, c'.returned = c.returned ++ recorded ∧
      (c'.frames.head?.map fun frame => frame.returns.drop (result returnsSeen c)).getD [] =
        recorded := by
  unfold Checker.returned
  rw [result_returnsSeen]
  generalize c.frames = before at grows
  generalize c'.frames = behind at grows
  cases grows with
  | outside => exact ⟨[], rfl, rfl⟩
  | inside expected returns more rest => exact ⟨more, rfl, by simp⟩

namespace Check

variable {α : Type}

/-! What a step adds to the reports. -/

theorem reported_eq {step : Check α} {c : Checker} {added : List Diagnostic}
    (grown : (after step c).diagnostics = c.diagnostics ++ added) : reported step c = added := by
  rw [reported, grown, List.drop_left]

theorem diagnostics_after {step : Check α} {c : Checker}
    (grows : c.diagnostics <+: (after step c).diagnostics) :
    (after step c).diagnostics = c.diagnostics ++ reported step c := by
  rcases grows with ⟨added, grown⟩
  rw [reported_eq grown.symm, grown]

/-! Dead statements. -/

theorem frames_visitDead (place : Place) (stmt : Stmt) (c : Checker) :
    (after (visitDead place stmt) c).frames = c.frames := by
  have grows := (visitStmt_declares place stmt
    (after (error .unreachableStatement (some stmt.span)) c)).frames
  unfold visitDead truncateReturns
  simp only [after_bind, after_returnsSeen, after_modifyReturns, result_returnsSeen]
  exact grows.take_eq

theorem diagnostics_visitDead (place : Place) (stmt : Stmt) (c : Checker) :
    (after (visitDead place stmt) c).diagnostics = c.diagnostics ++
      Diagnostic.error .unreachableStatement (some stmt.span) ::
        reported (visitStmt place stmt)
          (after (error .unreachableStatement (some stmt.span)) c) := by
  have grows := (visitStmt_declares place stmt
    (after (error .unreachableStatement (some stmt.span)) c)).diagnostics
  unfold visitDead truncateReturns
  simp only [after_bind, after_returnsSeen, after_modifyReturns]
  rw [diagnostics_after grows, after_error, List.append_assoc, List.singleton_append]

/-- Dead statements neither change the verdict on a block nor its type. -/
theorem result_visitStmts_dead (valued : Bool) (ty : Ty) (stmts : List Stmt) (c : Checker) :
    result (visitStmts valued ⟨ty, true⟩ stmts) c = ⟨ty, true⟩ := by
  induction stmts generalizing c with
  | nil => rw [visitStmts]; rfl
  | cons stmt rest ih => rw [visitStmts_dead, result_bind, ih]

theorem frames_visitStmts_dead (valued : Bool) (ty : Ty) (stmts : List Stmt) (c : Checker) :
    (after (visitStmts valued ⟨ty, true⟩ stmts) c).frames = c.frames := by
  induction stmts generalizing c with
  | nil => rw [visitStmts]; rfl
  | cons stmt rest ih => rw [visitStmts_dead, after_bind, ih, frames_visitDead]

/-- On the way of the visit `v`, each of the statements is reported as unreachable and then
visited.  This leaves the given reports, in order. -/
inductive DeadRun (v : Visit) (valued : Bool) : List Stmt → List Diagnostic → Prop
  | nil : DeadRun v valued [] []
  | cons {stmt : Stmt} {rest : List Stmt} {start : Checker} {reports : List Diagnostic}
      (visited : Reaches v ⟨.stmt ⟨false, valued && rest.isEmpty⟩ stmt, start⟩)
      (others : DeadRun v valued rest reports) :
      DeadRun v valued (stmt :: rest)
        (Diagnostic.error .unreachableStatement (some stmt.span) ::
          reported (visitStmt ⟨false, valued && rest.isEmpty⟩ stmt) start ++ reports)

theorem exists_deadRun {v : Visit} {valued : Bool} {ty : Ty} {stmts : List Stmt} {c : Checker}
    (reaches : Reaches v ⟨.stmts valued ⟨ty, true⟩ stmts, c⟩) :
    ∃ reports, DeadRun v valued stmts reports ∧
      (after (visitStmts valued ⟨ty, true⟩ stmts) c).diagnostics = c.diagnostics ++ reports := by
  induction stmts generalizing c with
  | nil => exact ⟨[], .nil, by rw [visitStmts, after_pure, List.append_nil]⟩
  | cons stmt rest ih =>
    have next : Reaches v ⟨.stmts valued ⟨ty, true⟩ rest,
        after (visitDead ⟨false, valued && rest.isEmpty⟩ stmt) c⟩ :=
      reaches.tail (.behindDead rfl)
    rcases ih next with ⟨reports, others, behind⟩
    refine ⟨_, .cons (reaches.tail (.dead rfl)) others, ?_⟩
    rw [visitStmts_dead, after_bind, behind, diagnostics_visitDead, List.append_assoc]

/-! Statements behind those that return. -/

/-- Statements with one among them that always returns leave a block that returns and has no
value. -/
theorem result_visitStmts_returning {stmts : List Stmt}
    (returns : AlwaysReturns.ofStmts stmts = true) (c : Checker) :
    result (visitStmts false {} stmts) c = ⟨.unit, true⟩ := by
  have typed := ty_visitStmts_unused {} stmts c
  have verdict := alwaysReturns_visitStmts false {} stmts c
  rw [returns, Bool.or_true] at verdict
  generalize result (visitStmts false {} stmts) c = progress at typed verdict
  rcases progress with ⟨ty, alwaysReturns⟩
  cases typed
  cases verdict
  rfl

/-- The visit of some statements comes to those behind them. -/
theorem reaches_behind (valued : Bool) (progress : Progress) (front : List Stmt)
    {behind : List Stmt} (more : behind ≠ []) (c : Checker) :
    Reaches ⟨.stmts valued progress (front ++ behind), c⟩
      ⟨.stmts valued (result (visitStmts false progress front) c) behind,
        after (visitStmts false progress front) c⟩ := by
  induction front generalizing progress c with
  | nil =>
    rw [visitStmts]
    exact .refl
  | cons stmt rest ih =>
    have follows : (valued && (rest ++ behind).isEmpty) = false := by simp [more]
    rcases progress with ⟨ty, stopped⟩
    cases stopped with
    | false =>
      have enters : Enters ⟨.stmts valued ⟨ty, false⟩ (stmt :: (rest ++ behind)), c⟩ _ :=
        .behindLive rfl rfl
      rw [follows] at enters
      rw [visitStmts_live]
      exact .head enters (ih _ _)
    | true =>
      have enters : Enters ⟨.stmts valued ⟨ty, true⟩ (stmt :: (rest ++ behind)), c⟩ _ :=
        .behindDead rfl
      rw [follows] at enters
      rw [visitStmts_dead]
      exact .head enters (ih _ _)

/-- What the statements of a block record as returned comes from the live ones. -/
theorem frames_visitStmts_livePart {stmts : List Stmt}
    (returns : AlwaysReturns.ofStmts stmts = true) (c : Checker) :
    (after (visitStmts false {} stmts) c).frames =
      (after (visitStmts false {} (AlwaysReturns.livePart stmts)) c).frames := by
  rcases AlwaysReturns.exists_livePart_append stmts with ⟨dead, whole⟩
  rw [← AlwaysReturns.ofStmts_livePart] at returns
  by_cases none : dead = []
  · rw [none, List.append_nil] at whole
    rw [← whole]
  · have split := visitStmts_append false {} (AlwaysReturns.livePart stmts) none
    rw [← whole] at split
    rw [split, after_bind, result_visitStmts_returning returns, frames_visitStmts_dead]

theorem after_hoist_of_no_function {topLevel : Bool} {stmts : List Stmt}
    (without : ∀ stmt ∈ stmts, stmt.hoistedName? = none) (c : Checker) :
    after (hoist topLevel stmts) c = c := by
  induction stmts with
  | nil => rfl
  | cons stmt rest ih =>
    have others := ih fun other member => without other (List.mem_cons_of_mem _ member)
    cases stmt with
    | function => cases without _ List.mem_cons_self
    | _ => exact others

/-! Blocks. -/

/-- The state in which the statements of a block are visited, where the functions among them are
declared ahead. -/
def insideBlock (stmts : List Stmt) (c : Checker) : Checker :=
  after (do enterScope; hoist false stmts) c

theorem diagnostics_insideBlock (stmts : List Stmt) (c : Checker) :
    (insideBlock stmts c).diagnostics = c.diagnostics :=
  diagnostics_hoist false stmts (after enterScope c)

theorem result_visitBlock (valued : Bool) (stmts : List Stmt) (span : Span) (c : Checker) :
    result (visitBlock valued ⟨stmts, span⟩) c =
      ⟨(result (visitStmts valued {} stmts) (insideBlock stmts c)).ty,
        (result (visitStmts valued {} stmts) (insideBlock stmts c)).alwaysReturns,
        (result (visitBlock valued ⟨stmts, span⟩) c).returns⟩ := by
  rw [visitBlock]
  rfl

theorem after_visitBlock (valued : Bool) (stmts : List Stmt) (span : Span) (c : Checker) :
    after (visitBlock valued ⟨stmts, span⟩) c =
      after exitScope (after (visitStmts valued {} stmts) (insideBlock stmts c)) := by
  have grows := (visitStmts_declares valued {} stmts (insideBlock stmts c)).frames
  rw [visitBlock]
  simp only [after_bind, after_pure, after_returnsSeen]
  -- Visits only add returns, so the count that was taken ahead is in range.
  rw [after_returnsSince]
  · rfl
  · rw [frames_exitScope]
    exact grows.le_length

/-- Behind its statements a block reports the unused names of its scope. -/
theorem exists_diagnostics_visitBlock (valued : Bool) (stmts : List Stmt) (span : Span)
    (c : Checker) :
    ∃ scope, (after (visitBlock valued ⟨stmts, span⟩) c).diagnostics =
      (after (visitStmts valued {} stmts) (insideBlock stmts c)).diagnostics ++
        Scope.unusedLocals c.options scope := by
  have opened := declares_hoist false stmts (after enterScope c)
  have visited := visitStmts_declares valued {} stmts (insideBlock stmts c)
  have inside := opened.trans visited
  rcases inside.environment.pop with ⟨scope, rest, popped, _⟩
  refine ⟨scope, ?_⟩
  rw [after_visitBlock, after_exitScope popped, inside.options]
  rfl

section Block

variable {live dead : List Stmt} (valued : Bool) (span : Span) (c : Checker)

/-- Dead statements without functions are not declared ahead. -/
theorem insideBlock_append (without : ∀ stmt ∈ dead, stmt.hoistedName? = none) :
    insideBlock (live ++ dead) c = insideBlock live c := by
  unfold insideBlock
  rw [after_bind, after_hoist_append, after_hoist_of_no_function without, after_bind]

/-- The visit of dead statements continues where that of the live ones ended. -/
theorem visitStmts_behind (returns : AlwaysReturns.ofStmts live = true) (more : dead ≠ []) :
    result (visitStmts valued {} (live ++ dead)) c = ⟨.unit, true⟩ ∧
      after (visitStmts valued {} (live ++ dead)) c =
        after (visitStmts valued ⟨.unit, true⟩ dead) (after (visitStmts false {} live) c) := by
  rw [visitStmts_append valued {} live more, result_bind, after_bind,
    result_visitStmts_returning returns, result_visitStmts_dead]
  exact ⟨rfl, rfl⟩

/-- A block with a dead end.  It has no value, always returns, and yields and leaves recorded what
the live statements record. -/
theorem outcome_of_dead_end (returns : AlwaysReturns.ofStmts live = true) (more : dead ≠ [])
    (without : ∀ stmt ∈ dead, stmt.hoistedName? = none) :
    ∃ recorded,
      (after (visitStmts false {} (AlwaysReturns.livePart live)) (insideBlock live c)).returned =
        c.returned ++ recorded ∧
      result (visitBlock valued ⟨live ++ dead, span⟩) c = ⟨.unit, true, recorded⟩ ∧
      (after (visitBlock valued ⟨live ++ dead, span⟩) c).returned = c.returned ++ recorded := by
  let block : Check BlockOutcome := visitBlock valued ⟨live ++ dead, span⟩
  have frames : (after block c).frames =
      (after (visitStmts false {} (AlwaysReturns.livePart live)) (insideBlock live c)).frames := by
    rw [after_visitBlock, frames_exitScope, insideBlock_append c without,
      (visitStmts_behind valued _ returns more).2, frames_visitStmts_dead,
      frames_visitStmts_livePart returns]
  rcases (visitBlock_keeps valued ⟨live ++ dead, span⟩ c).frames.exists_returned with
    ⟨recorded, grown, since⟩
  refine ⟨recorded, ?_, ?_, grown⟩
  · rw [← grown, Checker.returned, ← frames]
    rfl
  · rw [result_visitBlock, insideBlock_append c without,
      (visitStmts_behind valued _ returns more).1, returns_visitBlock_eq, since]

/-- What a block with a dead end reports: what there is to report on the live statements, then
every dead statement and what its visit reports, and last the unused names. -/
theorem reports_of_dead_end (returns : AlwaysReturns.ofStmts live = true) (more : dead ≠ [])
    (without : ∀ stmt ∈ dead, stmt.hoistedName? = none) :
    ∃ reports scope, DeadRun ⟨.block valued ⟨live ++ dead, span⟩, c⟩ valued dead reports ∧
      reported (visitBlock valued ⟨live ++ dead, span⟩) c =
        reported (visitStmts false {} live) (insideBlock live c) ++ reports ++
          Scope.unusedLocals c.options scope := by
  have opened : Reaches ⟨.block valued ⟨live ++ dead, span⟩, c⟩
      ⟨.stmts valued {} (live ++ dead), insideBlock live c⟩ := by
    rw [← insideBlock_append c without]
    exact .single .body
  have reaches := opened.trans (reaches_behind valued {} live more (insideBlock live c))
  rw [result_visitStmts_returning returns] at reaches
  rcases exists_deadRun reaches with ⟨reports, run, behind⟩
  rcases exists_diagnostics_visitBlock valued (live ++ dead) span c with ⟨scope, closed⟩
  refine ⟨reports, scope, run, reported_eq ?_⟩
  have grows := (visitStmts_declares false {} live (insideBlock live c)).diagnostics
  rw [closed, insideBlock_append c without, (visitStmts_behind valued _ returns more).2, behind,
    diagnostics_after grows, diagnostics_insideBlock]
  simp only [List.append_assoc]

end Block

/-- Dead code does not shape a block.  Behind statements of which the last one always returns, two
blocks may go on differently, as long as they do so without declaring functions.  Both have no
value, always return, and yield and leave recorded as returned what the live statements record.
And every dead statement is reported once by its block and visited then. -/
theorem dead_code_shapes_nothing (c : Checker) (valued : Bool) {live : List Stmt} {last : Stmt}
    (ends : live.getLast? = some last) (returns : AlwaysReturns.ofStmt last = true)
    {dead dead' : List Stmt} (more : dead ≠ []) (more' : dead' ≠ [])
    (without : ∀ stmt ∈ dead, stmt.hoistedName? = none)
    (without' : ∀ stmt ∈ dead', stmt.hoistedName? = none) (span span' : Span) :
    let reached := after (visitStmts false {} (AlwaysReturns.livePart live)) (insideBlock live c)
    let block := visitBlock valued ⟨live ++ dead, span⟩
    let block' := visitBlock valued ⟨live ++ dead', span'⟩
    (∃ recorded, reached.returned = c.returned ++ recorded ∧
      result block c = ⟨.unit, true, recorded⟩ ∧ result block' c = ⟨.unit, true, recorded⟩ ∧
      (after block c).returned = c.returned ++ recorded ∧
      (after block' c).returned = c.returned ++ recorded) ∧
    ∃ reports scope, DeadRun ⟨.block valued ⟨live ++ dead, span⟩, c⟩ valued dead reports ∧
      reported block c = reported (visitStmts false {} live) (insideBlock live c) ++ reports ++
        Scope.unusedLocals c.options scope := by
  have returning : AlwaysReturns.ofStmts live = true := by
    rw [AlwaysReturns.ofStmts_eq, List.any_eq_true]
    exact ⟨last, List.mem_of_getLast? ends, returns⟩
  rcases outcome_of_dead_end valued span c returning more without with
    ⟨recorded, told, outcome, left⟩
  rcases outcome_of_dead_end valued span' c returning more' without' with
    ⟨recorded', told', outcome', left'⟩
  have same : recorded' = recorded := List.append_cancel_left (told'.symm.trans told)
  subst same
  exact ⟨⟨recorded', told, outcome, outcome', left, left'⟩,
    reports_of_dead_end valued span c returning more without⟩

/-- Behind the return of a number, neither the return of a truth value nor a text at the end of the
block is seen. -/
theorem dead_code_shapes_nothing_return :
    let s := Span.null
    let c := after (pushFrame none) (Checker.fresh {})
    let live : List Stmt := [.print false [.int 0 s] s, .returns (some (.int 1 s)) s]
    let dead : List Stmt := [.returns (some (.bool true s)) s, .expr (.string "late" s) s]
    let dead' : List Stmt := [.print false [.int 2 s] s]
    result (visitBlock true ⟨live ++ dead, s⟩) c = ⟨.unit, true, [.int]⟩ ∧
      result (visitBlock true ⟨live ++ dead', s⟩) c = ⟨.unit, true, [.int]⟩ ∧
      (after (visitBlock true ⟨live ++ dead, s⟩) c).returned = [.int] ∧
      (after (visitBlock true ⟨live ++ dead', s⟩) c).returned = [.int] ∧
      ∃ reports, DeadRun ⟨.block true ⟨live ++ dead, s⟩, c⟩ true dead reports := by
  intro s c live dead dead'
  have reached : (after (visitStmts false {} (AlwaysReturns.livePart live))
      (insideBlock live c)).returned = [.int] := by
    decide +kernel
  rcases @dead_code_shapes_nothing c true live _ rfl rfl dead dead'
    (List.cons_ne_nil _ _) (List.cons_ne_nil _ _) (by decide +kernel) (by decide +kernel) s s with
    ⟨⟨recorded, told, outcome, outcome', left, left'⟩, reports, _, run, _⟩
  have same : recorded = [.int] := told.symm.trans reached
  rw [same] at outcome outcome' left left'
  exact ⟨outcome, outcome', left, left', reports, run⟩

end Check

end ModuleCheck
