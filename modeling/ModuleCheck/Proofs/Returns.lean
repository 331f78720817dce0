import ModuleCheck.Proofs.Live
import ModuleCheck.Proofs.Soundness

namespace ModuleCheck

/-!
The results of functions.

A function is bound to its result only when its body has been visited, and the `return`s of the
body are collected on the way, through all of its blocks but not through the functions in it.
If no error is reported, the result that the function is bound to fits each of them and what the
end of the body gives.
-/

open Check

/-! What is recorded on the way stays recorded. -/

theorem FramesGrow.behind : Behind fun c c' => FramesGrow c.frames c'.frames where
  refl := fun c => .refl _
  trans := FramesGrow.trans
  emit := fun _ _ => .refl _
  visit := by
    intro task c
    have grows := (Visit.extends_finish ⟨task, c⟩).frames
    unfold Visit.opening at grows
    split at grows <;> exact grows
  exitScope := by
    intro c
    rw [frames_exitScope]
    exact .refl _
  returnsSince := by
    intro count c
    rw [frames_returnsSince]
    exact .refl _
  recordReturn := fun ty c => (keeps_recordReturn ty c).frames
  declare := fun name ty flags span value c =>
    (extends_tagLiteral (declares_declare name ty flags span c) value).frames

theorem ReachesLive.framesGrow {v w : Visit} (reaches : ReachesLive v w) :
    FramesGrow w.finish.frames v.finish.frames := by
  induction reaches with
  | refl => exact .refl _
  | tail _ step ih => exact (step.2.behind FramesGrow.behind (Or.inl step.1)).trans ih

theorem FramesGrow.entered {before behind : List Frame} (grows : FramesGrow before behind)
    {frame : Frame} (entered : before.head? = some frame) :
    ∃ inner, behind.head? = some inner := by
  cases grows with
  | outside => cases entered
  | inside expected returns more rest => exact ⟨_, rfl⟩

/-- A type that is recorded for the innermost function. -/
def Checker.Recorded (c : Checker) (ty : Ty) : Prop :=
  ∃ frame ∈ c.frames.head?, ty ∈ frame.returns

theorem FramesGrow.recorded {c c' : Checker} {ty : Ty} (grows : FramesGrow c.frames c'.frames)
    (recorded : c.Recorded ty) : c'.Recorded ty := by
  rcases recorded with ⟨frame, entered, member⟩
  unfold Checker.Recorded
  generalize c.frames = before at grows entered
  generalize c'.frames = behind at grows
  cases grows with
  | outside => cases entered
  | inside expected returns more rest =>
    cases entered
    exact ⟨_, rfl, List.mem_append_left _ member⟩

/-- The value that a statement gives at the end of a block. -/
def Stmt.value? : Stmt → Option Expr
  | expr value _ => some value
  | _ => none

namespace Check

/-- The type of a `return` that is visited in the given state. -/
def returnType (c : Checker) : Option Expr → Ty
  | none => .unit
  | some value => (result (visitExpr value) c).ty

theorem recorded_recordReturn {c : Checker} {frame : Frame} (entered : c.frames.head? = some frame)
    (ty : Ty) : (after (recordReturn ty) c).Recorded ty := by
  refine ⟨{ frame with returns := frame.returns ++ [ty] }, ?_, by simp⟩
  rw [recordReturn, after_modifyReturns, List.head?_modifyHead, entered]
  rfl

theorem recorded_of_silent {place : Place} {value : Option Expr} {span : Span} {c : Checker}
    (silent : Silent (visitStmt place (.returns value span)) c) :
    (after (visitStmt place (.returns value span)) c).Recorded (returnType c value) := by
  rcases inside_of_silent silent with ⟨frame, entered⟩
  have typed : returnType c value =
      (Rules.returned frame.expected (result (visitOptional value) c) span).value := by
    rw [Rules.value_returned]
    cases value <;> rw [visitOptional] <;> rfl
  have grows := (visitOptional_keeps value c).frames
  rcases grows.entered entered with ⟨inner, enteredBehind⟩
  have held : (after (settle (Rules.returned frame.expected (result (visitOptional value) c) span))
      (after (visitOptional value) c)).frames.head? = some inner := enteredBehind
  rw [(visitReturn_eq entered).2, typed]
  exact recorded_recordReturn held _

/-- The type of every live `return` is among the returns of the body of a function. -/
theorem returnType_mem_returns {valued : Bool} {b : Block} {c c' : Checker} {declared : Option Ty}
    {around : List Frame} {place : Place} {value : Option Expr} {span : Span}
    (opened : c.frames = ⟨declared, []⟩ :: around) (silent : Silent (visitBlock valued b) c)
    (reaches : ReachesLive ⟨.block valued b, c⟩ ⟨.stmt place (.returns value span), c'⟩) :
    returnType c' value ∈ (result (visitBlock valued b) c).returns := by
  have recorded : (after (visitStmt place (.returns value span)) c').Recorded _ :=
    recorded_of_silent (reaches.reaches.silent silent)
  rcases reaches.framesGrow.recorded recorded with ⟨frame, entered, member⟩
  change (after (visitBlock valued b) c).frames.head? = some frame at entered
  rw [returns_visitBlock_eq, entered, result_returnsSeen, opened]
  exact member

/-! The end of the body. -/

/-- The statements in front of others are visited as in a block whose value is not used. -/
theorem visitStmts_append (valued : Bool) (progress : Progress) (front : List Stmt)
    {behind : List Stmt} (more : behind ≠ []) :
    visitStmts valued progress (front ++ behind) = (do
      let reached ← visitStmts false progress front
      visitStmts valued reached behind) := by
  induction front generalizing progress with
  | nil =>
    rw [visitStmts.eq_def false progress []]
    rfl
  | cons stmt rest ih =>
    have follows : (rest ++ behind).isEmpty = false := by simp [more]
    rw [List.cons_append, visitStmts, visitStmts]
    split <;> simp only [ih, follows, Bool.and_false, Bool.false_and, bind_assoc]

/-- What a function gives back where its body ends: unit if its result is declared, and else the
type of the expression that stands there, if there is one. -/
def fallThrough (c : Checker) (body : Block) : Option Ty → Ty
  | some _ => .unit
  | none =>
    let atEnd := after (do
      enterScope
      hoist false body.body
      visitStmts false {} body.body.dropLast) c
    let last := body.body.getLast?.bind Stmt.value?
    (last.map fun value => (result (visitExpr value) atEnd).ty).getD .unit

theorem ty_visitStmts_unused (progress : Progress) (stmts : List Stmt) (c : Checker) :
    (result (visitStmts false progress stmts) c).ty = progress.ty := by
  induction stmts generalizing progress c with
  | nil => rw [visitStmts]; rfl
  | cons stmt rest ih =>
    rw [visitStmts]
    split
    · simp only [result_bind, ih]
    · simp only [result_bind, ih, Bool.false_and, ty_visitStmt_unused, Option.getD_none]

/-- The last statement of a block tells the type of the block if it is reached. -/
theorem ty_visitStmts_last {progress : Progress} {last : Stmt} {c : Checker}
    (goesOn : (result (visitStmts true progress [last]) c).alwaysReturns = false) :
    (result (visitStmts true progress [last]) c).ty =
      (last.value?.map fun value => (result (visitExpr value) c).ty).getD progress.ty := by
  rcases progress with ⟨ty, stopped⟩
  cases stopped with
  | true => simp [visitStmts] at goesOn
  | false =>
    rw [visitStmts_live, result_bind, visitStmts, result_pure]
    cases last with
    | expr value span => rw [visitStmt]; rfl
    | returns value span =>
      rw [visitStmt]
      cases entered : c.frames.head? <;> simp [entered, Stmt.value?]
    | _ => rw [visitStmt]; rfl

/-- A block that does not always return has the type that its end gives. -/
theorem ty_visitBlock {body : Block} {c : Checker}
    (goesOn : (result (visitBlock true body) c).alwaysReturns = false) :
    fallThrough c body none = (result (visitBlock true body) c).ty := by
  rcases body with ⟨stmts, span⟩
  rcases List.eq_nil_or_concat stmts with rfl | ⟨front, last, rfl⟩
  · rw [visitBlock, visitStmts]
    rfl
  · have more : [last] ≠ [] := List.cons_ne_nil last []
    rw [List.concat_eq_append, visitBlock, visitStmts_append _ _ _ more] at goesOn ⊢
    simp only [result_bind, result_pure, after_returnsSeen] at goesOn ⊢
    rw [ty_visitStmts_last goesOn, ty_visitStmts_unused]
    simp [fallThrough]

/-! Functions. -/

/-- The result fits everything that the body of a function gives back when it is visited in the
given state, where the function is open. -/
structure FitsBody (c : Checker) (body : Block) (declared : Option Ty) (result : Ty) : Prop where
  /-- All `return`s of the body are visited, apart from those of functions in it. -/
  visited : ∀ value span, (Fragment.block body).Contains (.stmt (.returns value span)) →
    ∃ place c', ReachesLive ⟨.block declared.isNone body, c⟩ ⟨.stmt place (.returns value span), c'⟩
  returns : ∀ place value span c',
    ReachesLive ⟨.block declared.isNone body, c⟩ ⟨.stmt place (.returns value span), c'⟩ →
      result.compatible (returnType c' value) = true
  atEnd : (Check.result (visitBlock declared.isNone body) c).alwaysReturns = false →
    result.compatible (fallThrough c body declared) = true

section Results

variable {c : Checker} {body : Block} {declared : Option Ty} {around : List Frame} {result : Ty}

/-- The result of a function fits what was recorded during the visit of its body. -/
theorem compatible_of_mem_returns (opened : c.frames = ⟨declared, []⟩ :: around)
    (silent : Silent (visitBlock declared.isNone body) c)
    (results : Rules.Results (Check.result (visitBlock declared.isNone body) c) declared result)
    {ty : Ty} (member : ty ∈ (Check.result (visitBlock declared.isNone body) c).returns) :
    result.compatible ty = true := by
  have sees : c.Sees c.registry c.context := ⟨rfl, rfl⟩
  have inside : c.frames ≠ [] := by
    rw [opened]
    exact List.cons_ne_nil _ _
  rcases visitBlock_typed declared.isNone body sees silent with ⟨returned, _, returns⟩
  rw [returns_visitBlock inside returns] at member
  cases results with
  | declared complete =>
    rw [Ty.compatible_comm]
    exact returns.fits ⟨some result, []⟩ (by rw [opened]; rfl) result rfl ty member
  | inferred joins =>
    refine joins.compatible ty (Rules.mem_withImplicitReturn ?_ _ _)
    rw [returns_visitBlock inside returns]
    exact member

/-- The result of a function fits what the end of its body gives, if that is reached. -/
theorem compatible_fallThrough
    (results : Rules.Results (Check.result (visitBlock declared.isNone body) c) declared result)
    (goesOn : (Check.result (visitBlock declared.isNone body) c).alwaysReturns = false) :
    result.compatible (fallThrough c body declared) = true := by
  cases results with
  | declared complete =>
    have unitFits := complete.resolve_left (by rw [goesOn]; exact Bool.false_ne_true)
    rw [Ty.compatible_comm]
    exact unitFits
  | inferred joins =>
    rw [ty_visitBlock goesOn]
    exact joins.compatible _ (Rules.ty_mem_withImplicitReturn goesOn)

theorem fitsBody_of_silent (opened : c.frames = ⟨declared, []⟩ :: around)
    (silent : Silent (visitBlock declared.isNone body) c)
    (results : Rules.Results (Check.result (visitBlock declared.isNone body) c) declared result) :
    FitsBody c body declared result := by
  refine ⟨?_, ?_, compatible_fallThrough results⟩
  · intro value span contains
    have reached : ReachesFragment ⟨.block declared.isNone body, c⟩ (.stmt (.returns value span)) :=
      .of_contains rfl silent contains
    rcases reached with ⟨⟨task, c'⟩, reaches, shape⟩
    rcases Task.eq_stmt_of_fragment? shape with ⟨place, rfl⟩
    exact ⟨place, c', reaches⟩
  · intro place value span c' reaches
    have member := returnType_mem_returns opened silent reaches
    exact compatible_of_mem_returns opened silent results member

end Results

/-- If the visit of a function reports no error, the name of the function ends up bound in the
scope around it, to the types of its parameters and to a result that fits its body. -/
theorem function_result_fits (place : Place) (signature : Signature) (body : Block) (c : Checker)
    (silent : Silent (visitStmt place (.function signature body)) c) :
    ∃ binding result,
      (after (visitStmt place (.function signature body)) c).environment.current.get?
        signature.name = some binding ∧
      binding.ty = .fn (signature.paramTypes c.registry) result ∧
      FitsBody (after (openFunction signature place.topLevel) c) body
        (signature.declaredResult c.registry) result := by
  rw [visitStmt] at silent ⊢
  rcases silent.split with ⟨_, silent⟩
  rcases silent.split with ⟨inner, silent⟩
  rcases silent.split with ⟨closing, _⟩
  rw [result_openFunction] at inner closing
  have kept := visitBlock_keeps (signature.declaredResult c.registry).isNone body
    (after (openFunction signature place.topLevel) c)
  rcases bound_closeFunction kept (signature.declaredResult c.registry)
    (result (visitBlock (signature.declaredResult c.registry).isNone body)
      (after (openFunction signature place.topLevel) c)) with ⟨binding, bound, typed⟩
  simp only [after_bind, after_pure, result_openFunction]
  exact ⟨binding, _, bound, typed, fitsBody_of_silent (frames_openFunction _ _ _) inner
    (results_of_closeFunction closing)⟩

/-- A function that returns from a branch and at its end, around a function of another result. -/
theorem function_result_fits_nested :
    let s := Span.null
    let label : Expr := .call (.identifier "label" s) [] s
    let inner : Stmt := .function ⟨"label", [], none, false, s⟩
      ⟨[.returns (some (.string "big" s)) s], s⟩
    let early : Expr := .conditional ⟨none,
      .binary .greater (.identifier "n" s) (.int 9 s) s,
      ⟨[.print false [label] s, .returns (some (.identifier "n" s)) s], s⟩,
      .block ⟨[.expr (.int 0 s) s], s⟩, s⟩
    let signature : Signature := ⟨"clip", [⟨"n", some (.named "Int" s), s⟩], none, false, s⟩
    let body : Block := ⟨[inner, .expr early s, .expr (.int 9 s) s], s⟩
    let c := Checker.fresh {}
    Silent (visitStmt ⟨true, false⟩ (.function signature body)) c ∧
      ((after (visitStmt ⟨true, false⟩ (.function signature body)) c).environment.current.get?
        "clip").map Binding.ty = some (.fn [.int] .int) ∧
      FitsBody (after (openFunction signature true) c) body none .int := by
  intro s label inner early signature body c
  have silent : Silent (visitStmt ⟨true, false⟩ (.function signature body)) c := by
    unfold Silent
    decide +kernel
  have told : ((after (visitStmt ⟨true, false⟩ (.function signature body))
      c).environment.current.get? "clip").map Binding.ty = some (.fn [.int] .int) := by
    decide +kernel
  rcases function_result_fits _ signature body c silent with ⟨binding, result, bound, typed, fits⟩
  have same : Ty.fn (signature.paramTypes c.registry) result = .fn [.int] .int := by
    rw [← typed]
    rw [bound] at told
    exact Option.some.inj told
  cases same
  exact ⟨silent, told, fits⟩

end Check

end ModuleCheck
