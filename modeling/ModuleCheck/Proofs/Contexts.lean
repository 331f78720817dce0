import ModuleCheck.Proofs.Typing

namespace ModuleCheck

/-!
The contexts of states.

A state gives every name in sight the type of its innermost binding.  Declaring a name brings it
in sight, opening a scope changes nothing, and a visit that declares nothing leaves the context
as it is.  The types that a visit returns are those that it adds to the innermost function.
-/

open Check

/-- Of two bindings of one name the inner one counts. -/
theorem Context.bind_bind (Γ : Context) (name : String) (hidden ty : Ty) :
    (Γ.bind name hidden).bind name ty = Γ.bind name ty := by
  unfold Context.bind
  congr 1
  funext other
  dsimp only
  split <;> rfl

/-- The types are added to the returns of the innermost function, if there is one, and fit its
declared result, if it has one. -/
structure FramesReturn (before : List Frame) (returned : List Ty) (behind : List Frame) : Prop where
  frames : behind =
    before.modifyHead fun frame => { frame with returns := frame.returns ++ returned }
  fits : ∀ frame ∈ before.head?, ∀ declared ∈ frame.expected, ∀ ty ∈ returned,
    ty.compatible declared = true

namespace Checker

/-- The context of a state. -/
def context (c : Checker) : Context :=
  ⟨fun name => (c.environment.lookup? name).map Binding.ty, c.frames.head?.map Frame.expected⟩

/-- The state has the given registry and the given context. -/
structure Sees (c : Checker) (r : Registry) (Γ : Context) : Prop where
  registry : c.registry = r
  context : c.context = Γ

/-- The types are recorded as returned from the innermost function between the states. -/
def Returns (c : Checker) (returned : List Ty) (c' : Checker) : Prop :=
  FramesReturn c.frames returned c'.frames

namespace Returns

variable {c c' c'' : Checker} {one two : List Ty}

theorem none (same : c'.frames = c.frames) : Returns c [] c' where
  frames := by
    rw [same]
    cases c.frames <;> simp
  fits := fun _ _ _ _ _ member => by cases member

theorem trans (first : Returns c one c') (second : Returns c' two c'') :
    Returns c (one ++ two) c'' where
  frames := by
    rw [second.frames, first.frames]
    cases c.frames <;> simp
  fits := by
    intro frame entered declared written ty member
    rcases List.mem_append.mp member with before | behind
    · exact first.fits frame entered declared written ty before
    · refine second.fits { frame with returns := frame.returns ++ one } ?_ declared written ty
        behind
      rw [first.frames, List.head?_modifyHead, Option.mem_def.mp entered]
      rfl

/-- What follows without a change of the frames does not count. -/
theorem keep (first : Returns c one c') (same : c''.frames = c'.frames) : Returns c one c'' :=
  ⟨same.trans first.frames, first.fits⟩

theorem recordReturn (first : Returns c one c') {ty : Ty}
    (fits : ∀ frame ∈ c.frames.head?, ∀ declared ∈ frame.expected, ty.compatible declared = true) :
    Returns c (one ++ [ty]) (after (recordReturn ty) c') := by
  constructor
  · rw [Check.recordReturn, after_modifyReturns, first.frames]
    cases c.frames <;> simp
  · intro frame entered declared written member recorded
    rcases List.mem_append.mp recorded with before | last
    · exact first.fits frame entered declared written member before
    · rw [List.mem_singleton.mp last]
      exact fits frame entered declared written

end Returns

theorem Extends.context_eq {c c' : Checker} (extended : c.Extends [] c') :
    c'.context = c.context := by
  unfold context
  congr 1
  · funext name
    have related := extended.environment.lookup? (List.not_mem_nil : name ∉ [])
    generalize c.environment.lookup? name = before at related
    generalize c'.environment.lookup? name = behind at related
    cases related with
    | none => rfl
    | some marks => simp [marks.ty_eq]
  · have frames := extended.frames
    generalize c.frames = before at frames
    generalize c'.frames = behind at frames
    cases frames <;> rfl

namespace Sees

variable {c c' : Checker} {r : Registry} {Γ : Context}

theorem types (sees : c.Sees r Γ) (name : String) :
    Γ.types name = (c.environment.lookup? name).map Binding.ty := by
  rw [← sees.context]
  rfl

theorem function (sees : c.Sees r Γ) : Γ.function = c.frames.head?.map Frame.expected := by
  rw [← sees.context]
  rfl

/-- A visit that declares nothing leaves the context as it is. -/
theorem keep (sees : c.Sees r Γ) (extended : c.Extends [] c') : c'.Sees r Γ :=
  ⟨extended.registry.trans sees.registry, extended.context_eq.trans sees.context⟩

/-- Reports do not count. -/
theorem report (sees : c.Sees r Γ) (diagnostics : List Diagnostic) :
    Sees { c with diagnostics := c.diagnostics ++ diagnostics } r Γ :=
  ⟨sees.registry, sees.context⟩

theorem settle {α : Type} (sees : c.Sees r Γ) (rule : Reported α) :
    (after (settle rule) c).Sees r Γ :=
  sees.report rule.diagnostics

theorem enterScope (sees : c.Sees r Γ) : (after enterScope c).Sees r Γ := by
  refine ⟨sees.registry, ?_⟩
  rw [← sees.context]
  unfold Checker.context
  simp only [after_enterScope, Environment.lookup?_push]

theorem declare (sees : c.Sees r Γ) (name : String) (binding : Binding) :
    Sees { c with environment := c.environment.declare name binding } r
      (Γ.bind name binding.ty) := by
  refine ⟨sees.registry, ?_⟩
  rw [← sees.context]
  unfold Checker.context Context.bind
  congr 1
  funext other
  rw [Environment.lookup?_declare]
  split <;> rfl

theorem pushFrame (sees : c.Sees r Γ) (declared : Option Ty) :
    (after (pushFrame declared) c).Sees r (Γ.enter declared) := by
  refine ⟨sees.registry, ?_⟩
  rw [← sees.context]
  rfl

/-- A change of the binding of a name in the innermost scope counts by its type. -/
theorem modifyCurrent (sees : c.Sees r Γ) {name : String} {binding : Binding}
    (bound : c.environment.current.get? name = some binding) (f : Binding → Binding) :
    Sees { c with environment := c.environment.modifyCurrent name f } r
      (Γ.bind name (f binding).ty) := by
  have held : c.environment.current.contains name = true := by
    rw [← Table.isSome_get?, bound]
    rfl
  have innermost : c.environment.lookup? name = some binding := by
    simp [Environment.lookup?, Environment.scopes, bound]
  have changed : c.environment.modifyCurrent name f = c.environment.modify name f := by
    rw [Environment.modify, if_pos held]
  refine ⟨sees.registry, ?_⟩
  rw [← sees.context, changed]
  unfold Checker.context Context.bind
  congr 1
  funext other
  rw [Environment.lookup?_modify]
  by_cases same : other = name
  · subst same
    simp [innermost]
  · simp [same]

theorem hoist (sees : c.Sees r Γ) (topLevel : Bool) (stmts : List Stmt) :
    (after (hoist topLevel stmts) c).Sees r (Γ.hoist r stmts) := by
  induction stmts generalizing c Γ with
  | nil => exact sees
  | cons stmt rest ih =>
    cases stmt with
    | function signature body =>
      have declared := sees.declare signature.name (Binding.declared
        (.fn (signature.paramTypes c.registry) (c.registry.resolve signature.result).value)
        (Flags.ofExport topLevel signature.exported) (some signature.span))
      rw [sees.registry] at declared
      have run := ih declared
      rw [← sees.registry] at run ⊢
      exact run
    | _ => exact ih sees

theorem declareParams (sees : c.Sees r Γ) (params : List Param) (types : List Ty) :
    (after (declareParams params types) c).Sees r (Γ.bindAll (params.map Param.name) types) := by
  induction params generalizing c Γ types with
  | nil => exact sees
  | cons param rest ih =>
    cases types with
    | nil => exact sees
    | cons ty others => exact ih (sees.declare param.name _) others

theorem declareImports (sees : c.Sees r Γ) (topLevel : Bool) (span : Span)
    (names : List String) :
    (after (declareImports topLevel span names) c).Sees r
      (Γ.bindAll names (names.map fun _ => .any)) := by
  induction names generalizing c Γ with
  | nil => exact sees
  | cons name rest ih => exact ih (sees.declare name _)

/-- A tag does not change the type of a variable. -/
theorem declareVariable (sees : c.Sees r Γ) (name : String) (ty : Ty) (flags : Flags)
    (span : Option Span) (value : Expr) :
    (after (do Check.declare name ty flags span; tagLiteral name value) c).Sees r
      (Γ.bind name ty) := by
  have declared := sees.declare name (Binding.declared ty flags span)
  cases value with
  | variant enum variant field payload place =>
    have bound : (c.environment.declare name (Binding.declared ty flags span)).current.get? name =
        some (Binding.declared ty flags span) := by
      simp [Environment.declare, Table.get?_insert]
    have tagged := declared.modifyCurrent bound fun binding => { binding with enumTag := some enum }
    rw [Context.bind_bind] at tagged
    exact tagged
  | _ => exact declared

theorem afterSignature (sees : c.Sees r Γ) (signature : Signature) (topLevel : Bool) :
    (afterSignature signature topLevel c).Sees r (Γ.bind signature.name
      (.fn (signature.paramTypes r) ((signature.declaredResult r).getD .unknown))) := by
  have same := sees.registry
  subst same
  exact (sees.report (signature.reports c.registry)).declare signature.name
    (signature.binding c.registry _ topLevel)

theorem openFunction (sees : c.Sees r Γ) (signature : Signature) (topLevel : Bool) :
    (after (openFunction signature topLevel) c).Sees r
      (((Γ.bind signature.name
          (.fn (signature.paramTypes r) ((signature.declaredResult r).getD .unknown))).bindAll
        (signature.params.map Param.name) (signature.paramTypes r)).enter
        (signature.declaredResult r)) := by
  have same := sees.registry
  subst same
  have inside := (sees.afterSignature signature topLevel).enterScope.declareParams
    signature.params (signature.paramTypes c.registry)
  rw [after_openFunction_eq]
  exact inside.pushFrame _

/-- Behind a function its name is in sight with the result that its body has shown. -/
theorem closeFunction (sees : c.Sees r Γ) {signature : Signature} {topLevel : Bool}
    (visited : (after (Check.openFunction signature topLevel) c).Extends [] c')
    (expected : Option Ty) (body : BlockOutcome) :
    (after (closeFunction signature expected body) c').Sees r (Γ.bind signature.name
      (.fn (signature.paramTypes r)
        (Rules.functionResult signature.name expected body signature.span).value)) := by
  have closed := (sees.afterSignature signature topLevel).keep
    (extends_afterBody visited expected body)
  rcases bound_afterBody visited expected body with ⟨binding, bound, typed⟩
  have changed := closed.modifyCurrent bound (withResult
    (Rules.functionResult signature.name expected body signature.span).value)
  rw [withResult, typed, sees.registry, Context.bind_bind] at changed
  rw [after_closeFunction]
  exact changed

end Sees

end Checker

end ModuleCheck
