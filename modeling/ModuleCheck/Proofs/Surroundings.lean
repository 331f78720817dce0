import ModuleCheck.Proofs.Alike
import ModuleCheck.Proofs.DeadCode

namespace ModuleCheck

/-!
What a visit can tell of its surroundings.

A visit of an expression looks names up in the scopes around it and marks them, and it reads what
the function around it is declared to return.  It declares nothing there, and it never looks back
at what was reported or returned before.  So it runs alike in surroundings in which the names refer
to the same bindings: it yields the same and adds the same reports and returns.  What surroundings
may stand for each other is left open here.  The scopes that a visit opens itself are the same in
both runs, and their number is counted, since statements may declare names in those only.
-/

open Check

/-! Scopes. -/

namespace Scope

theorem modifyFirst_ne_nil {scopes : List Scope} (nonempty : scopes ≠ []) (name : String)
    (f : Binding → Binding) : Environment.modifyFirst name f scopes ≠ [] := by
  cases scopes with
  | nil => exact absurd rfl nonempty
  | cons scope rest =>
    unfold Environment.modifyFirst
    split <;> exact List.cons_ne_nil _ _

/-- Surroundings that visits of expressions take for each other: names refer to the same bindings
but for marks, also after further uses. -/
class Surrounding (B : List Scope → List Scope → Prop) : Prop where
  open_left : ∀ {scopes scopes'}, B scopes scopes' → scopes ≠ []
  open_right : ∀ {scopes scopes'}, B scopes scopes' → scopes' ≠ []
  findSome? : ∀ {scopes scopes'}, B scopes scopes' → ∀ name,
    (scopes'.findSome? fun scope => scope.get? name).map Binding.unmarked =
      (scopes.findSome? fun scope => scope.get? name).map Binding.unmarked
  use : ∀ {scopes scopes'}, B scopes scopes' → ∀ name,
    B (Environment.modifyFirst name Binding.markUsed scopes)
      (Environment.modifyFirst name Binding.markUsed scopes')

/-- Open scopes of which the innermost ones, as many as the number says, are the same, and stand in
related surroundings. -/
inductive Inside (B : List Scope → List Scope → Prop) : Nat → List Scope → List Scope → Prop
  | around {scopes scopes' : List Scope} (related : B scopes scopes') : Inside B 0 scopes scopes'
  | opened {n : Nat} {scope : Scope} {rest rest' : List Scope} (others : Inside B n rest rest') :
      Inside B (n + 1) (scope :: rest) (scope :: rest')

namespace Inside

variable {B : List Scope → List Scope → Prop} [Surrounding B] {n : Nat}
  {scopes scopes' : List Scope}

theorem open_left (inside : Inside B n scopes scopes') : scopes ≠ [] := by
  cases inside with
  | around related => exact Surrounding.open_left related
  | opened _ => exact List.cons_ne_nil _ _

theorem open_right (inside : Inside B n scopes scopes') : scopes' ≠ [] := by
  cases inside with
  | around related => exact Surrounding.open_right related
  | opened _ => exact List.cons_ne_nil _ _

theorem findSome? (inside : Inside B n scopes scopes') (name : String) :
    (scopes'.findSome? fun scope => scope.get? name).map Binding.unmarked =
      (scopes.findSome? fun scope => scope.get? name).map Binding.unmarked := by
  induction inside with
  | around related => exact Surrounding.findSome? related name
  | @opened n scope rest rest' _ ih =>
    rw [List.findSome?_cons, List.findSome?_cons]
    cases scope.get? name with
    | none => exact ih
    | some binding => rfl

theorem use (inside : Inside B n scopes scopes') (name : String) :
    Inside B n (Environment.modifyFirst name Binding.markUsed scopes)
      (Environment.modifyFirst name Binding.markUsed scopes') := by
  induction inside with
  | around related => exact .around (Surrounding.use related name)
  | opened others ih =>
    simp only [Environment.modifyFirst]
    split
    · exact .opened others
    · exact .opened ih

end Inside

end Scope

/-! Environments. -/

namespace Environment

/-- The innermost scopes are the same and stand in related surroundings. -/
def Inside (B : List Scope → List Scope → Prop) (n : Nat) (env env' : Environment) : Prop :=
  Scope.Inside B n env.scopes env'.scopes

namespace Inside

variable {B : List Scope → List Scope → Prop} {n : Nat} {env env' : Environment}

theorem push (inside : env.Inside B n env') : env.push.Inside B (n + 1) env'.push :=
  Scope.Inside.opened inside

/-- The scope that is closed is the same. -/
theorem pop? [Scope.Surrounding B] (inside : env.Inside B (n + 1) env') :
    ∃ scope rest rest', env.pop? = some (scope, rest) ∧ env'.pop? = some (scope, rest') ∧
      rest.Inside B n rest' := by
  rcases env with ⟨current, outer⟩
  rcases env' with ⟨current', outer'⟩
  cases inside with
  | opened others =>
    cases outer with
    | nil => exact absurd rfl others.open_left
    | cons scope rest =>
      cases outer' with
      | nil => exact absurd rfl others.open_right
      | cons scope' rest' => exact ⟨_, _, _, rfl, rfl, others⟩

theorem current_eq (inside : env.Inside B (n + 1) env') : env'.current = env.current := by
  rcases env with ⟨current, outer⟩
  rcases env' with ⟨current', outer'⟩
  cases inside
  rfl

/-- The innermost scope may be changed in the same way. -/
theorem change (inside : env.Inside B (n + 1) env') (f : Scope → Scope) :
    Inside B (n + 1) { env with current := f env.current }
      { env' with current := f env'.current } := by
  rcases env with ⟨current, outer⟩
  rcases env' with ⟨current', outer'⟩
  cases inside with
  | opened others => exact .opened others

variable [Scope.Surrounding B]

theorem lookup?_eq (inside : env.Inside B n env') (name : String) :
    (env'.lookup? name).map Binding.unmarked = (env.lookup? name).map Binding.unmarked :=
  Scope.Inside.findSome? inside name

theorem use (inside : env.Inside B n env') (name : String) :
    (env.modify name Binding.markUsed).Inside B n (env'.modify name Binding.markUsed) := by
  unfold Inside
  rw [scopes_modify, scopes_modify]
  exact Scope.Inside.use inside name

end Inside

end Environment

/-! Functions. -/

/-- The innermost functions, as many as the number says, are the same.  The function around them,
if there is one, has returned the given types before and the same ones since. -/
inductive FramesInside (past past' : List Ty) : Nat → List Frame → List Frame → Prop
  | outside : FramesInside past past' 0 [] []
  | around (expected : Option Ty) (since : List Ty) (rest : List Frame) :
      FramesInside past past' 0 (⟨expected, past ++ since⟩ :: rest)
        (⟨expected, past' ++ since⟩ :: rest)
  | opened (frame : Frame) {n : Nat} {rest rest' : List Frame}
      (others : FramesInside past past' n rest rest') :
      FramesInside past past' (n + 1) (frame :: rest) (frame :: rest')

namespace FramesInside

variable {past past' : List Ty} {n : Nat} {frames frames' : List Frame}

theorem tail (inside : FramesInside past past' (n + 1) frames frames') :
    FramesInside past past' n frames.tail frames'.tail := by
  cases inside with
  | opened frame others => exact others

theorem record (inside : FramesInside past past' n frames frames') (ty : Ty) :
    FramesInside past past' n
      (frames.modifyHead fun frame => { frame with returns := frame.returns ++ [ty] })
      (frames'.modifyHead fun frame => { frame with returns := frame.returns ++ [ty] }) := by
  cases inside with
  | outside => exact .outside
  | around expected since rest =>
    simp only [List.modifyHead_cons, List.append_assoc]
    exact .around expected (since ++ [ty]) rest
  | opened frame others => exact .opened _ others

/-- The innermost functions are declared to return the same. -/
theorem expected_eq (inside : FramesInside past past' n frames frames') :
    frames'.head?.map Frame.expected = frames.head?.map Frame.expected := by
  cases inside <;> rfl

/-- What was returned in between is the same. -/
theorem returned_eq {behind behind' : List Frame}
    (inside : FramesInside past past' n frames frames')
    (later : FramesInside past past' n behind behind') (grows : FramesGrow frames behind) :
    (behind'.head?.map fun frame => frame.returns.drop
        ((frames'.head?.map fun frame => frame.returns.length).getD 0)).getD [] =
      (behind.head?.map fun frame => frame.returns.drop
        ((frames.head?.map fun frame => frame.returns.length).getD 0)).getD [] := by
  cases inside with
  | outside =>
    cases grows
    cases later
    rfl
  | around expected since rest =>
    cases later with
    | outside => cases grows
    | around expected' since' rest' =>
      have prefixed : past ++ since <+: past ++ since' := by
        generalize past ++ since' = behind at grows
        cases grows
        exact List.prefix_append _ _
      rcases (List.prefix_append_right_inj past).mp prefixed with ⟨more, rfl⟩
      simp [← List.append_assoc]
  | opened frame others =>
    cases later with
    | opened frame' others' => rfl

/-- Where nothing was returned differently before, the functions are the same. -/
theorem eq_of_same_past (inside : FramesInside past past n frames frames') : frames' = frames := by
  induction inside with
  | outside | around => rfl
  | opened frame _ ih => rw [ih]

end FramesInside

/-! States. -/

/-- What two checks have reported, and what the functions around them have returned, before they
come to the same visit. -/
structure Pasts where
  reports : List Diagnostic
  reports' : List Diagnostic
  returns : List Ty
  returns' : List Ty

namespace Checker

/-- Two checks on the way of the same visit, in surroundings that are related.  They have opened
the same scopes and functions and have reported the same since the visit began. -/
structure Inside (B : List Scope → List Scope → Prop) (p : Pasts) (l : Nesting) (c c' : Checker) :
    Prop where
  options : c'.options = c.options
  registry : c'.registry = c.registry
  environment : c.environment.Inside B l.scopes c'.environment
  frames : FramesInside p.returns p.returns' l.functions c.frames c'.frames
  fault : c'.fault = c.fault
  reports : ∃ ds, c.diagnostics = p.reports ++ ds ∧ c'.diagnostics = p.reports' ++ ds

namespace Inside

variable {B : List Scope → List Scope → Prop} {p : Pasts} {l k : Nesting} {c c' : Checker}

theorem report (inside : Inside B p l c c') (ds : List Diagnostic) :
    Inside B p l { c with diagnostics := c.diagnostics ++ ds }
      { c' with diagnostics := c'.diagnostics ++ ds } := by
  rcases inside.reports with ⟨more, reported, reported'⟩
  exact { inside with
    reports := ⟨more ++ ds, by rw [reported, List.append_assoc],
      by rw [reported', List.append_assoc]⟩ }

theorem withEnvironment (inside : Inside B p l c c') {n : Nat} {env env' : Environment}
    (environment : env.Inside B n env') :
    Inside B p { l with scopes := n } { c with environment := env }
      { c' with environment := env' } :=
  { inside with environment }

theorem withFrames (inside : Inside B p l c c') {n : Nat} {frames frames' : List Frame}
    (opened : FramesInside p.returns p.returns' n frames frames') :
    Inside B p { l with functions := n } { c with frames } { c' with frames := frames' } :=
  { inside with frames := opened }

end Inside

end Checker

/-! Steps. -/

namespace Check

/-- A dead statement is visited, and what it returns is forgotten. -/
theorem after_visitDead (place : Place) (stmt : Stmt) (c : Checker) :
    after (visitDead place stmt) c =
      { after (visitStmt place stmt) (after (error .unreachableStatement (some stmt.span)) c) with
        frames := c.frames } := by
  have framed := frames_visitDead place stmt c
  rw [← framed]
  unfold visitDead truncateReturns
  simp only [after_bind, after_returnsSeen, after_modifyReturns]

variable {α β : Type} {B : List Scope → List Scope → Prop} {l m k : Nesting}

/-- In related surroundings the step yields the same and adds the same reports, and it leaves
surroundings that are related again.  It leads from the first level to the second one. -/
def Local (B : List Scope → List Scope → Prop) (l m : Nesting) (step : Check α) : Prop :=
  ∀ p c c', Checker.Inside B p l c c' →
    result step c' = result step c ∧ Checker.Inside B p m (after step c) (after step c')

namespace Local

theorem pure (value : α) : Local B l l (Pure.pure value : Check α) :=
  fun _ _ _ inside => ⟨rfl, inside⟩

theorem bind {step : Check α} {next : α → Check β} (first : Local B l m step)
    (rest : ∀ value, Local B m k (next value)) : Local B l k (step >>= next) := by
  intro p c c' inside
  rcases first p c c' inside with ⟨same, kept⟩
  rw [result_bind, result_bind, after_bind, after_bind, same]
  exact rest _ _ _ _ kept

/-! Steps that read or report. -/

theorem emit (ds : List Diagnostic) : Local B l l (emit ds) :=
  fun _ _ _ inside => ⟨rfl, inside.report ds⟩

theorem settle (r : Reported α) : Local B l l (settle r) := (emit _).bind fun _ => pure _

theorem error (issue : Issue) (span : Option Span) : Local B l l (error issue span) := emit _

theorem registry : Local B l l registry := fun _ _ _ inside => ⟨inside.registry, inside⟩

/-! Functions. -/

theorem expectedResult? : Local B l l expectedResult? :=
  fun _ _ _ inside => ⟨inside.frames.expected_eq, inside⟩

theorem recordReturn (ty : Ty) : Local B l l (recordReturn ty) := by
  intro p c c' inside
  unfold Check.recordReturn
  rw [after_modifyReturns, after_modifyReturns]
  exact ⟨rfl, inside.withFrames (inside.frames.record ty)⟩

theorem pushFrame (expected : Option Ty) :
    Local B l { l with functions := l.functions + 1 } (pushFrame expected) :=
  fun _ _ _ inside => ⟨rfl, inside.withFrames (.opened _ inside.frames)⟩

/-- The frame that is closed is forgotten. -/
theorem popFrame {step : Check α} (rest : Local B l m step) :
    Local B { l with functions := l.functions + 1 } m (do let _ ← popFrame; step) :=
  fun _ _ _ inside => rest _ _ _ (inside.withFrames inside.frames.tail)

/-! Scopes. -/

theorem enterScope : Local B l l.inScope enterScope :=
  fun _ _ _ inside => ⟨rfl, inside.withEnvironment inside.environment.push⟩

/-- In a scope of its own, a step may change the scope. -/
theorem changeCurrent (f : Scope → Scope) :
    Local B l.inScope l.inScope
      (modifyEnvironment fun env => { env with current := f env.current }) :=
  fun _ _ _ inside => ⟨rfl, inside.withEnvironment (inside.environment.change f)⟩

theorem declare (name : String) (ty : Ty) (flags : Flags) (span : Option Span) :
    Local B l.inScope l.inScope (declare name ty flags span) :=
  changeCurrent fun scope => scope.insert name (Binding.declared ty flags span)

theorem modifyCurrent (name : String) (f : Binding → Binding) :
    Local B l.inScope l.inScope (modifyEnvironment fun env => env.modifyCurrent name f) :=
  changeCurrent fun scope => scope.modify name f

theorem isUsedHere (name : String) : Local B l.inScope l.inScope (isUsedHere name) := by
  intro p c c' inside
  refine ⟨?_, inside⟩
  rw [result_isUsedHere, result_isUsedHere, inside.environment.current_eq]

theorem tagLiteral (name : String) (value : Expr) :
    Local B l.inScope l.inScope (tagLiteral name value) := by
  cases value with
  | variant => exact modifyCurrent _ _
  | _ => exact pure _

theorem hoist (topLevel : Bool) (stmts : List Stmt) :
    Local B l.inScope l.inScope (hoist topLevel stmts) := by
  induction stmts with
  | nil => exact pure _
  | cons stmt rest ih =>
    cases stmt with
    | function signature body => exact registry.bind fun _ => (declare _ _ _ _).bind fun _ => ih
    | _ => exact ih

theorem declareParams (params : List Param) (types : List Ty) :
    Local B l.inScope l.inScope (declareParams params types) := by
  induction params generalizing types with
  | nil => exact pure _
  | cons param rest ih =>
    cases types with
    | nil => exact pure _
    | cons ty others => exact (declare _ _ _ _).bind fun _ => ih others

theorem bindVariant (matched : Option String) (enum variant : String) (binding : Option String)
    (span : Span) :
    Local B l.inScope l.inScope (bindVariant matched enum variant binding span) := by
  refine registry.bind fun r => (settle _).bind fun ty => ?_
  cases binding with
  | none => exact pure _
  | some name => exact declare _ _ _ _

theorem openFunction (signature : Signature) (topLevel : Bool) :
    Local B l.inScope l.inScope.inFunction (openFunction signature topLevel) :=
  (isUsedHere _).bind fun _ => registry.bind fun _ => (settle _).bind fun _ =>
    (settle _).bind fun _ => (declare _ _ _ _).bind fun _ => enterScope.bind fun _ =>
    (declareParams _ _).bind fun _ => (pushFrame _).bind fun _ => pure _

/-- What a dead statement returns is forgotten. -/
theorem visitDead {place : Place} {stmt : Stmt} (inner : Local B l l (visitStmt place stmt)) :
    Local B l l (visitDead place stmt) := by
  intro p c c' inside
  have reached := (error .unreachableStatement (some stmt.span)) p c c' inside
  have visited := inner p _ _ reached.2
  rw [after_visitDead, after_visitDead]
  exact ⟨rfl, visited.2.withFrames inside.frames⟩

variable [Scope.Surrounding B]

theorem exitScope : Local B l.inScope l exitScope := by
  intro p c c' inside
  rcases inside.environment.pop? with ⟨scope, rest, rest', popped, popped', kept⟩
  have unused : Scope.unusedLocals c'.options scope = Scope.unusedLocals c.options scope := by
    rw [inside.options]
  refine ⟨rfl, ?_⟩
  rw [after_exitScope popped, after_exitScope popped', unused]
  exact (inside.report _).withEnvironment kept

theorem closeFunction (signature : Signature) (expected : Option Ty) (body : BlockOutcome) :
    Local B l.inScope.inFunction l.inScope (closeFunction signature expected body) :=
  popFrame ((settle _).bind fun _ => exitScope.bind fun _ => modifyCurrent _ _)

theorem useName (name : String) (span : Option Span) : Local B l l (useName name span) := by
  intro p c c' inside
  have same := inside.environment.lookup?_eq name
  cases bound : c.environment.lookup? name with
  | none =>
    have unbound : c'.environment.lookup? name = none := by simpa [bound] using same
    rcases useName_of_unbound bound span with ⟨yields, leaves⟩
    rcases useName_of_unbound unbound span with ⟨yields', leaves'⟩
    rw [yields, yields', leaves, leaves']
    exact ⟨rfl, inside.report _⟩
  | some binding =>
    rw [bound] at same
    rcases Option.map_eq_some_iff.mp same with ⟨binding', bound', unmarked⟩
    rcases useName_of_bound bound span with ⟨yields, leaves⟩
    rcases useName_of_bound bound' span with ⟨yields', leaves'⟩
    have typed : binding'.unmarked.ty = binding.unmarked.ty := by rw [unmarked]
    rw [yields, yields', leaves, leaves']
    exact ⟨typed, inside.withEnvironment (inside.environment.use name)⟩

theorem enumTag? (name : String) : Local B l l (enumTag? name) := by
  intro p c c' inside
  have same := congrArg (· >>= Binding.enumTag) (inside.environment.lookup?_eq name)
  refine ⟨?_, inside⟩
  rw [result_enumTag?, result_enumTag?]
  cases bound : c.environment.lookup? name <;> cases bound' : c'.environment.lookup? name <;>
    rw [bound, bound'] at same <;> exact same

theorem matchedEnum? (m : Match) (ty : Ty) : Local B l l (matchedEnum? m ty) := by
  unfold Check.matchedEnum?
  dsimp only
  split
  · exact pure _
  · exact (enumTag? _).bind fun _ => pure _
  · exact pure _

/-- A block yields the types that were returned since it was entered. -/
theorem visitBlock {valued : Bool} {body : List Stmt} (span : Span)
    (inner : Local B l.inScope l.inScope (visitStmts valued {} body)) :
    Local B l l (visitBlock valued ⟨body, span⟩) := by
  intro p c c' inside
  have opened := (enterScope.bind fun _ => hoist false body) p c c' inside
  have visited := inner p _ _ opened.2
  have closed := exitScope p _ _ visited.2
  have left : Checker.Inside B p l (after (Check.visitBlock valued ⟨body, span⟩) c)
      (after (Check.visitBlock valued ⟨body, span⟩) c') := by
    rw [after_visitBlock, after_visitBlock]
    exact closed.2
  refine ⟨?_, left⟩
  have returned : (result (Check.visitBlock valued ⟨body, span⟩) c').returns =
      (result (Check.visitBlock valued ⟨body, span⟩) c).returns := by
    rw [returns_visitBlock_eq, returns_visitBlock_eq]
    exact inside.frames.returned_eq left.frames (visitBlock_keeps valued ⟨body, span⟩ c).frames
  rw [result_visitBlock, result_visitBlock valued body span c, returned]
  unfold insideBlock
  rw [visited.1]

/-! The visits. -/

theorem steps : Compositional (fun _ => True) fun l _ {_} _ step => Local B l l step where
  basic := fun _ _ => trivial
  pure := fun _ => .pure _
  bind := fun first rest => first.bind fun value => rest value fun _ _ => trivial
  settle := fun _ => .settle _
  error := fun _ _ => .error _ _
  reportArms := fun _ _ => registry.bind fun _ => .emit _
  useName := .useName
  structFields? := fun _ => registry.bind fun _ => .pure _
  enumVariants? := fun _ => registry.bind fun _ => .pure _
  expectedResult? := .expectedResult?
  matchedEnum? := .matchedEnum?
  recordReturn := fun _ => .recordReturn _
  declare := fun _ _ _ _ => .declare _ _ _ _
  bindVariant := .bindVariant
  inScope := fun inside => enterScope.bind fun _ => inside.bind fun _ =>
    exitScope.bind fun _ => .pure _
  visitVar := by
    intro l flags decl visited
    rcases decl with ⟨name, mutable, ascription, value, exported, span⟩
    rw [visitVar_eq]
    exact visited.bind fun _ => registry.bind fun _ => (settle _).bind fun ty =>
      (declare _ ty _ _).bind fun _ => .tagLiteral _ _
  visitFunction := by
    intro l place signature body visited
    rw [visitStmt]
    exact (openFunction _ _).bind fun _ => (visited _).bind fun _ =>
      (closeFunction _ _ _).bind fun _ => .pure _
  visitDead := fun _ _ visited => .visitDead visited
  visitBlock := fun _ _ span visited => .visitBlock span visited

end Local

theorem visitExpr_local [Scope.Surrounding B] (e : Expr) :
    Local B l l (visitExpr e) :=
  Compositional.expr Local.steps l e

theorem visitFields_local [Scope.Surrounding B] (struct : String) (declared : Fields)
    (given : List String) (inits : List FieldInit) :
    Local B l l (visitFields struct declared given inits) :=
  Compositional.fields Local.steps l (fun _ _ _ => trivial) struct given inits

end Check

end ModuleCheck
