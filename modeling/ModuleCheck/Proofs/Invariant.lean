import ModuleCheck.Proofs.Nominal
import ModuleCheck.Proofs.Rules
import ModuleCheck.Proofs.Visits

namespace ModuleCheck

/-!
What holds in every state of a check.

All types in sight are known to the registry: those of bindings, those that functions declare
or return, and those that visits yield.  As long as no error is reported, a binding that
carries the tag of an enum has the type of that enum or `any`, and the enum is declared.
-/

open Check

/-! Rules make known types of known types. -/

namespace Rules

variable {r : Registry}

theorem join_known {members : List Ty} (known : ∀ ty ∈ members, ty.Known r) (context : String)
    (span : Option Span) : (join members context span).value.Known r := by
  unfold join Ty.join
  cases concrete : members.filter Ty.isConcrete with
  | nil =>
    dsimp only
    split
    · exact .any
    · exact .unknown
  | cons first rest =>
    dsimp only
    cases Ty.conflict? first rest with
    | some conflict => exact .unknown
    | none =>
      have member : first ∈ members.filter Ty.isConcrete := by
        rw [concrete]
        exact List.mem_cons_self
      exact known first (List.mem_filter.mp member).1

theorem unary_known (op : UnaryOp) (operand : Ty) (span : Span) :
    (unary op operand span).value.Known r := by
  cases op with
  | not => exact .bool
  | neg => exact .unknown

theorem binary_known (op : BinaryOp) (left right : Operand) (span : Span) :
    (binary op left right span).value.Known r := by
  unfold binary
  split
  · exact .int
  · exact .bool
  · exact .bool
  · exact .bool

theorem call_known {callee : Ty} (known : callee.Known r) (args : List Operand) (span : Span) :
    (call callee args span).value.Known r := by
  cases known with
  | fn _ result_known =>
    rw [value_call]
    exact result_known
  | _ => exact .unknown

theorem valueTypes_known {outcomes : List ExprOutcome}
    (known : ∀ outcome ∈ outcomes, outcome.ty.Known r) :
    ∀ ty ∈ valueTypes outcomes, ty.Known r := by
  intro ty member
  rcases List.mem_map.mp member with ⟨outcome, kept, rfl⟩
  exact known outcome (List.mem_filter.mp kept).1

theorem branches_known {consequence alternative : ExprOutcome}
    (first : consequence.ty.Known r) (second : alternative.ty.Known r) (span : Span) :
    (branches consequence alternative span).value.ty.Known r := by
  unfold branches
  split
  · exact .unknown
  · refine join_known (valueTypes_known ?_) _ _
    intro outcome member
    rcases List.mem_cons.mp member with rfl | member
    · exact first
    · rw [List.mem_singleton.mp member]
      exact second

theorem arms_known {outcomes : List ExprOutcome}
    (known : ∀ outcome ∈ outcomes, outcome.ty.Known r) (span : Span) :
    (arms outcomes span).value.ty.Known r := by
  unfold arms
  split
  · exact .unknown
  · exact join_known (valueTypes_known known) _ _

theorem variableType_known {written : Option (Reported Ty)} {value : Operand}
    (resolved : ∀ ty ∈ written, ty.value.Known r) (known : value.ty.Known r) (name : String)
    (span : Span) : (variableType name written value span).value.Known r := by
  cases written with
  | none => exact known
  | some ty => exact resolved ty rfl

theorem returned_known {value : Option Operand} (known : ∀ operand ∈ value, operand.ty.Known r)
    (expected : Option Ty) (span : Span) : (returned expected value span).value.Known r := by
  rw [value_returned]
  cases value with
  | none => exact .unit
  | some operand => exact known operand rfl

theorem withImplicitReturn_known {returns : List Ty} {ty : Ty}
    (returned : ∀ ty ∈ returns, ty.Known r) (known : ty.Known r) (alwaysReturns : Bool) :
    ∀ member ∈ withImplicitReturn returns ty alwaysReturns, member.Known r := by
  intro member mem
  unfold withImplicitReturn at mem
  split at mem
  · split at mem
    · rw [List.mem_singleton.mp mem]
      exact .unit
    · exact returned member mem
  · rcases List.mem_append.mp mem with mem | mem
    · exact returned member mem
    · rw [List.mem_singleton.mp mem]
      exact known

theorem functionResult_known {expected : Option Ty} {body : BlockOutcome}
    (declared : ∀ ty, expected = some ty → ty.Known r) (returned : ∀ ty ∈ body.returns, ty.Known r)
    (known : body.ty.Known r) (name : String) (span : Span) :
    (functionResult name expected body span).value.Known r := by
  cases expected with
  | none => exact join_known (withImplicitReturn_known returned known _) _ _
  | some ty => exact declared ty rfl

end Rules

theorem Arms.bindingType_known {r : Registry} (closed : r.Closed) (matched : Option String)
    (enum variant : String) (binds : Bool) (span : Span) :
    (Arms.bindingType r matched enum variant binds span).value.Known r := by
  unfold Arms.bindingType
  cases matched <;> cases declared : r.variant? enum variant with
  | none => exact .unknown
  | some payload =>
    cases payload with
    | none => exact .unknown
    | some payload => exact closed.variant? declared

/-! States. -/

namespace Binding

/-- The enum tag of a binding, if it has one, fits its type and is declared. -/
def TagFits (r : Registry) (b : Binding) : Prop :=
  ∀ enum, b.enumTag = some enum → (b.ty = .enum enum ∨ b.ty = .any) ∧ r.enums.contains enum = true

end Binding

namespace Environment

variable {P : Binding → Prop} {env : Environment}

/-- Every binding of every open scope satisfies the predicate. -/
def Each (P : Binding → Prop) (env : Environment) : Prop :=
  ∀ scope ∈ env.scopes, ∀ name binding, scope.get? name = some binding → P binding

theorem each_iff {current : Scope} {outer : List Scope} :
    Each P ⟨current, outer⟩ ↔
      (∀ name binding, current.get? name = some binding → P binding) ∧
        ∀ scope ∈ outer, ∀ name binding, scope.get? name = some binding → P binding :=
  List.forall_mem_cons

namespace Each

theorem empty : Each P Environment.empty :=
  each_iff.mpr ⟨fun name binding found => Registry.not_found name binding _ found,
    fun _ member => by cases member⟩

theorem push (each : Each P env) : Each P env.push :=
  each_iff.mpr ⟨fun name binding found => Registry.not_found name binding _ found, each⟩

theorem pop {scope : Scope} {rest : Environment} (each : Each P env)
    (popped : env.pop? = some (scope, rest)) : Each P rest := by
  rcases env with ⟨current, outer⟩
  cases outer with
  | nil => cases popped
  | cons next others =>
    cases popped
    exact (each_iff.mp each).2

theorem declare (each : Each P env) (name : String) {binding : Binding} (holds : P binding) :
    Each P (env.declare name binding) := by
  refine each_iff.mpr ⟨?_, (each_iff.mp each).2⟩
  intro other found stored
  rw [Table.get?_insert] at stored
  split at stored
  · cases stored
    exact holds
  · exact (each_iff.mp each).1 other found stored

theorem modifyScope {f : Binding → Binding} (kept : ∀ binding, P binding → P (f binding))
    (name : String) {scope : Scope}
    (each : ∀ name binding, scope.get? name = some binding → P binding) :
    ∀ other binding, (scope.modify name f).get? other = some binding → P binding := by
  intro other binding stored
  rw [Table.get?_modify] at stored
  split at stored
  · rcases Option.map_eq_some_iff.mp stored with ⟨old, found, rfl⟩
    exact kept old (each other old found)
  · exact each other binding stored

theorem modifyCurrent (each : Each P env) (f : Binding → Binding)
    (kept : ∀ binding, P binding → P (f binding)) (name : String) :
    Each P (env.modifyCurrent name f) :=
  each_iff.mpr ⟨modifyScope kept name (each_iff.mp each).1, (each_iff.mp each).2⟩

theorem modify (each : Each P env) (f : Binding → Binding)
    (kept : ∀ binding, P binding → P (f binding)) (name : String) :
    Each P (env.modify name f) := by
  unfold Environment.modify
  split
  · exact each.modifyCurrent f kept name
  · refine each_iff.mpr ⟨(each_iff.mp each).1, ?_⟩
    have outer := (each_iff.mp each).2
    generalize env.outer = scopes at outer
    induction scopes with
    | nil => exact outer
    | cons scope rest ih =>
      rcases List.forall_mem_cons.mp outer with ⟨first, others⟩
      unfold modifyFirst
      split
      · exact List.forall_mem_cons.mpr ⟨modifyScope kept name first, others⟩
      · exact List.forall_mem_cons.mpr ⟨first, ih others⟩

/-- Only the changed binding counts when it was declared just before. -/
theorem declareModified (each : Each P env) (name : String) {f : Binding → Binding}
    {binding : Binding} (holds : P (f binding)) :
    Each P ((env.declare name binding).modifyCurrent name f) := by
  refine each_iff.mpr ⟨?_, (each_iff.mp each).2⟩
  intro other found stored
  rw [Environment.declare, Table.get?_modify, Table.get?_insert] at stored
  split at stored
  · cases stored
    exact holds
  · exact (each_iff.mp each).1 other found stored

theorem lookup? (each : Each P env) {name : String} {binding : Binding}
    (bound : env.lookup? name = some binding) : P binding := by
  rcases List.exists_of_findSome?_eq_some bound with ⟨scope, member, found⟩
  exact each scope member name binding found

end Each

end Environment

namespace Checker

/-- The types that a function declares or returns are known. -/
def FrameKnown (r : Registry) (frame : Frame) : Prop :=
  (∀ ty, frame.expected = some ty → ty.Known r) ∧ ∀ ty ∈ frame.returns, ty.Known r

/-- The state fits the registry, which is closed. -/
structure Consistent (r : Registry) (c : Checker) : Prop where
  closed : r.Closed
  registry : c.registry = r
  bound : c.environment.Each fun binding => binding.ty.Known r
  framed : ∀ frame ∈ c.frames, FrameKnown r frame
  tagged : c.Accepting → c.environment.Each (Binding.TagFits r)

namespace Consistent

variable {r : Registry} {c : Checker}

theorem report (consistent : c.Consistent r) (diagnostics : List Diagnostic) :
    Consistent r { c with diagnostics := c.diagnostics ++ diagnostics } where
  closed := consistent.closed
  registry := consistent.registry
  bound := consistent.bound
  framed := consistent.framed
  tagged := fun accepting => consistent.tagged (by
    have joined : Diagnostic.errorCount (c.diagnostics ++ diagnostics) = 0 :=
      Diagnostic.errorCount_eq_zero.mpr accepting
    rw [Diagnostic.errorCount_append] at joined
    exact Diagnostic.errorCount_eq_zero.mp (by omega))

/-- A change of the environment. -/
theorem withEnvironment (consistent : c.Consistent r) {env : Environment}
    (bound : env.Each fun binding => binding.ty.Known r)
    (tagged : c.Accepting → env.Each (Binding.TagFits r)) :
    Consistent r { c with environment := env } :=
  ⟨consistent.closed, consistent.registry, bound, consistent.framed, tagged⟩

/-- A change of the frames. -/
theorem withFrames (consistent : c.Consistent r) {frames : List Frame}
    (framed : ∀ frame ∈ frames, FrameKnown r frame) :
    Consistent r { c with frames := frames } :=
  ⟨consistent.closed, consistent.registry, consistent.bound, framed, consistent.tagged⟩

theorem declare (consistent : c.Consistent r) (name : String) {binding : Binding}
    (known : binding.ty.Known r) (untagged : binding.enumTag = none) :
    Consistent r { c with environment := c.environment.declare name binding } :=
  consistent.withEnvironment (consistent.bound.declare name known) fun accepting =>
    (consistent.tagged accepting).declare name fun enum tag => by
      rw [untagged] at tag
      cases tag

theorem modifyReturns (consistent : c.Consistent r) {f : List Ty → List Ty}
    (kept : ∀ returns : List Ty, (∀ ty ∈ returns, ty.Known r) → ∀ ty ∈ f returns, ty.Known r) :
    Consistent r (after (modifyReturns f) c) := by
  rw [after_modifyReturns]
  refine consistent.withFrames ?_
  have framed := consistent.framed
  cases shape : c.frames with
  | nil => exact fun _ member => by cases member
  | cons frame rest =>
    rw [shape] at framed
    rcases List.forall_mem_cons.mp framed with ⟨first, others⟩
    exact List.forall_mem_cons.mpr ⟨⟨first.1, kept _ first.2⟩, others⟩

end Consistent

end Checker

/-! Steps. -/

/-- What a rule yields for known types is known. -/
theorem Ruling.known {α : Type} {r : Registry} {types : α → List Ty} {rule : Reported α}
    (ruling : Ruling (Ty.Known r) types rule) : ∀ ty ∈ types rule.value, ty.Known r := by
  cases ruling with
  | unary op operand span => exact List.forall_mem_singleton.mpr (Rules.unary_known op operand span)
  | binary first second op span =>
    exact List.forall_mem_singleton.mpr (Rules.binary_known op _ _ span)
  | call called given span => exact List.forall_mem_singleton.mpr (Rules.call_known called _ span)
  | branches first second span =>
    exact List.forall_mem_singleton.mpr (Rules.branches_known first second span)
  | arms known span => exact List.forall_mem_singleton.mpr (Rules.arms_known known span)
  | variableType resolved known name ascription span =>
    refine List.forall_mem_singleton.mpr (Rules.variableType_known ?_ known name span)
    intro written member
    rcases Option.map_eq_some_iff.mp member with ⟨t, _, rfl⟩
    exact resolved (some t)
  | returned declared known span =>
    exact List.forall_mem_singleton.mpr (Rules.returned_known known _ span)
  | functionResult declared known returned name span =>
    exact List.forall_mem_singleton.mpr
      (Rules.functionResult_known declared returned known name span)
  | _ => exact List.forall_mem_nil _

namespace Check

variable {α β : Type} {r : Registry} {types : α → List Ty} {types' : β → List Ty}

/-- The step leaves every state that fits the registry in such a state, and the types that it
yields are known. -/
def Preserves (r : Registry) (types : α → List Ty) (step : Check α) : Prop :=
  ∀ c : Checker, c.Consistent r →
    (after step c).Consistent r ∧ ∀ ty ∈ types (result step c), ty.Known r

namespace Preserves

theorem pure {value : α} (known : ∀ ty ∈ types value, ty.Known r) :
    Preserves r types (Pure.pure value : Check α) :=
  fun _ consistent => ⟨consistent, known⟩

theorem bind {step : Check α} {next : α → Check β} (first : Preserves r types step)
    (rest : ∀ value, (∀ ty ∈ types value, ty.Known r) → Preserves r types' (next value)) :
    Preserves r types' (step >>= next) :=
  fun c consistent => rest _ (first c consistent).2 _ (first c consistent).1

/-- A step that yields no types. -/
theorem plain {step : Check α}
    (kept : ∀ c : Checker, c.Consistent r → (after step c).Consistent r) :
    Preserves r (fun _ => []) step :=
  fun c consistent => ⟨kept c consistent, List.forall_mem_nil _⟩

theorem emit (diagnostics : List Diagnostic) : Preserves r (fun _ => []) (emit diagnostics) :=
  plain fun _ consistent => consistent.report diagnostics

theorem settle {rule : Reported α} (ruling : Ruling (Ty.Known r) types rule) :
    Preserves r types (settle rule) :=
  (emit _).bind fun _ _ => pure ruling.known

theorem registry {next : Registry → Check α} (rest : Preserves r types (next r)) :
    Preserves r types (registry >>= next) := by
  intro c consistent
  rw [after_bind, result_bind, result_registry, after_registry, consistent.registry]
  exact rest c consistent

theorem enterScope : Preserves r (fun _ => []) enterScope :=
  plain fun _ consistent => consistent.withEnvironment consistent.bound.push fun accepting =>
    (consistent.tagged accepting).push

theorem exitScope : Preserves r (fun _ => []) exitScope := by
  refine plain fun c consistent => ?_
  cases popped : c.environment.pop? with
  | none =>
    rw [after_exitScope_global popped]
    exact { consistent with }
  | some pair =>
    rw [after_exitScope popped]
    exact (consistent.withEnvironment (consistent.bound.pop popped) fun accepting =>
      (consistent.tagged accepting).pop popped).report _

theorem declare {ty : Ty} (name : String) (flags : Flags) (span : Option Span)
    (known : ty.Known r) : Preserves r (fun _ => []) (declare name ty flags span) :=
  plain fun _ consistent => consistent.declare name known rfl

theorem useName (name : String) (span : Option Span) :
    Preserves r (fun ty => [ty]) (useName name span) := by
  intro c consistent
  rw [List.forall_mem_singleton]
  cases bound : c.environment.lookup? name with
  | none =>
    rw [(useName_of_unbound bound span).1, (useName_of_unbound bound span).2]
    exact ⟨consistent.report _, .unknown⟩
  | some binding =>
    rw [(useName_of_bound bound span).1, (useName_of_bound bound span).2]
    refine ⟨consistent.withEnvironment ?_ ?_, consistent.bound.lookup? bound⟩
    · exact consistent.bound.modify Binding.markUsed (fun _ known => known) name
    · intro accepting
      exact (consistent.tagged accepting).modify Binding.markUsed (fun _ fits => fits) name

theorem recordReturn {ty : Ty} (known : ty.Known r) :
    Preserves r (fun _ => []) (recordReturn ty) := by
  refine plain fun c consistent => consistent.modifyReturns fun returns all member mem => ?_
  rcases List.mem_append.mp mem with mem | mem
  · exact all member mem
  · rw [List.mem_singleton.mp mem]
    exact known

theorem truncateReturns (count : Nat) : Preserves r (fun _ => []) (truncateReturns count) :=
  plain fun _ consistent => consistent.modifyReturns fun _ all member mem =>
    all member (List.mem_of_mem_take mem)

theorem returnsSeen : Preserves r (fun _ => []) returnsSeen := plain fun _ consistent => consistent

theorem returnsSince (count : Nat) : Preserves r id (returnsSince count) := by
  unfold Check.returnsSince
  intro c consistent
  have framed := consistent.framed
  simp only [result_bind, after_bind, result_frame?, after_frame?]
  cases shape : c.frames with
  | nil => exact ⟨consistent, List.forall_mem_nil _⟩
  | cons frame rest =>
    rw [shape] at framed
    have dropped : ∀ ty ∈ frame.returns.drop count, ty.Known r := fun ty mem =>
      (framed frame List.mem_cons_self).2 ty (List.mem_of_mem_drop mem)
    rw [List.head?_cons]
    dsimp only
    split
    · exact ⟨{ consistent with }, dropped⟩
    · exact ⟨consistent, dropped⟩

theorem matchedEnum? (m : Match) (ty : Ty) : Preserves r (fun _ => []) (matchedEnum? m ty) := by
  refine plain fun c consistent => ?_
  rw [after_matchedEnum?]
  exact consistent

/-! What is declared. -/

theorem structFields? (struct : String) :
    Preserves r (structTypes struct) (structFields? struct) := by
  intro c consistent
  refine ⟨consistent, ?_⟩
  have read : result (Check.structFields? struct) c = r.structs.get? struct :=
    congrArg (·.structs.get? struct) consistent.registry
  rw [read]
  cases found : r.structs.get? struct with
  | none => exact List.forall_mem_nil _
  | some fields =>
    refine List.forall_mem_cons.mpr ⟨.struct ?_, fun ty member => ?_⟩
    · rw [← Table.isSome_get?, found]
      rfl
    · rcases Fields.mem_types.mp member with ⟨name, declared⟩
      exact consistent.closed.field _ _ _ _ found declared

theorem enumVariants? (enum : String) : Preserves r (enumTypes enum) (enumVariants? enum) := by
  intro c consistent
  refine ⟨consistent, ?_⟩
  have read : result (Check.enumVariants? enum) c = r.enums.get? enum :=
    congrArg (·.enums.get? enum) consistent.registry
  rw [read]
  cases found : r.enums.get? enum with
  | none => exact List.forall_mem_nil _
  | some variants =>
    refine List.forall_mem_cons.mpr ⟨.enum ?_, fun ty member => ?_⟩
    · rw [← Table.isSome_get?, found]
      rfl
    · rcases Variants.mem_types.mp member with ⟨name, payload, declared, rfl⟩
      exact consistent.closed.payload _ _ _ _ found declared

theorem expectedResult? :
    Preserves r (fun found => found.join.toList) expectedResult? := by
  intro c consistent
  refine ⟨consistent, ?_⟩
  change ∀ ty ∈ (c.frames.head?.map Frame.expected).join.toList, ty.Known r
  have framed := consistent.framed
  cases shape : c.frames with
  | nil => exact List.forall_mem_nil _
  | cons frame rest =>
    rw [shape] at framed
    exact fun ty member =>
      (framed frame List.mem_cons_self).1 ty (Option.mem_toList.mp member)

theorem hoist (topLevel : Bool) (stmts : List Stmt) :
    Preserves r (fun _ => []) (hoist topLevel stmts) := by
  induction stmts with
  | nil => exact pure (List.forall_mem_nil _)
  | cons stmt rest ih =>
    cases stmt with
    | function signature body =>
      refine registry ((declare _ _ _ (.fn ?_ (Registry.resolve_known _ _))).bind fun _ _ => ih)
      intro param mem
      rcases List.mem_map.mp mem with ⟨written, _, rfl⟩
      exact Registry.resolve_known _ _
    | _ => exact ih

theorem declareParams (params : List Param) (types : List Ty)
    (known : ∀ ty ∈ types, ty.Known r) :
    Preserves r (fun _ => []) (declareParams params types) := by
  induction params generalizing types with
  | nil => exact pure (List.forall_mem_nil _)
  | cons param rest ih =>
    cases types with
    | nil => exact pure (List.forall_mem_nil _)
    | cons ty others =>
      rcases List.forall_mem_cons.mp known with ⟨first, rest⟩
      exact (declare _ _ _ first).bind fun _ _ => ih others rest

theorem bindVariant (matched : Option String) (enum variant : String)
    (binding : Option String) (span : Span) :
    Preserves r (fun _ => []) (bindVariant matched enum variant binding span) := by
  refine plain fun c consistent => ?_
  have same := consistent.registry
  subst same
  have known := Arms.bindingType_known consistent.closed matched enum variant binding.isSome span
  have reported := consistent.report
    (Arms.bindingType c.registry matched enum variant binding.isSome span).diagnostics
  cases binding with
  | none => exact reported
  | some name => exact reported.declare name known rfl

/-! Functions. -/

theorem known_paramTypes (signature : Signature) : ∀ ty ∈ signature.paramTypes r, ty.Known r := by
  intro ty mem
  rcases List.mem_map.mp mem with ⟨written, _, rfl⟩
  exact Registry.resolve_known _ _

theorem known_declaredResult (signature : Signature) :
    ∀ ty, signature.declaredResult r = some ty → ty.Known r := by
  intro ty declared
  rcases Option.map_eq_some_iff.mp declared with ⟨_, _, rfl⟩
  exact Registry.resolve_known _ _

/-- The state around a function that is being visited. -/
theorem consistent_afterSignature {c : Checker} (consistent : c.Consistent r)
    (signature : Signature) (topLevel : Bool) :
    (afterSignature signature topLevel c).Consistent r := by
  have same := consistent.registry
  subst same
  refine (consistent.report _).declare _ (.fn (known_paramTypes signature) ?_) rfl
  cases declared : signature.declaredResult c.registry with
  | none => exact .unknown
  | some ty => exact known_declaredResult signature ty declared

theorem openFunction (signature : Signature) (topLevel : Bool) :
    Preserves r Option.toList (openFunction signature topLevel) := by
  intro c consistent
  have outside := consistent_afterSignature consistent signature topLevel
  have same := consistent.registry
  subst same
  have inside : (afterParams signature topLevel c).Consistent c.registry :=
    (declareParams _ _ (known_paramTypes signature) _ (enterScope _ outside).1).1
  have expected := known_declaredResult (r := c.registry) signature
  rw [result_openFunction, after_openFunction_eq]
  refine ⟨inside.withFrames ?_, fun ty member => expected ty (Option.mem_toList.mp member)⟩
  exact List.forall_mem_cons.mpr ⟨⟨expected, List.forall_mem_nil _⟩, inside.framed⟩

theorem popFrame : Preserves r (fun _ => []) popFrame :=
  plain fun _ consistent => consistent.withFrames fun frame mem =>
    consistent.framed frame (List.mem_of_mem_tail mem)

theorem setResult {result : Ty} (name : String) (known : result.Known r) :
    Preserves r (fun _ => [])
      (modifyEnvironment fun env => env.modifyCurrent name (withResult result)) := by
  refine plain fun c consistent => consistent.withEnvironment ?_ fun accepting => ?_
  · refine consistent.bound.modifyCurrent _ (fun binding held => ?_) _
    unfold withResult
    cases shape : binding.ty with
    | fn params old =>
      rw [shape] at held
      cases held with
      | fn params_known _ => exact .fn params_known known
    | _ => exact held
  · -- A binding of a function type carries no tag, so that the changed ones need not fit any.
    refine (consistent.tagged accepting).modifyCurrent _ (fun binding fits => ?_) _
    unfold withResult
    cases shape : binding.ty with
    | fn params old =>
      intro enum tag
      rcases (fits enum tag).1 with typed | typed <;> rw [shape] at typed <;> cases typed
    | _ => exact fits

theorem closeFunction {expected : Option Ty} {body : BlockOutcome} (signature : Signature)
    (declared : ∀ ty, expected = some ty → ty.Known r) (known : body.ty.Known r)
    (returned : ∀ ty ∈ body.returns, ty.Known r) :
    Preserves r (fun _ => []) (closeFunction signature expected body) :=
  popFrame.bind fun _ _ => (settle (.functionResult declared known returned _ _)).bind
    fun _ yielded => exitScope.bind fun _ _ => setResult _ (List.forall_mem_singleton.mp yielded)

end Preserves

/-! Variables that are initialized with enum literals. -/

/-- Behind a literal without an error stands a declared enum, and the literal has its type. -/
theorem ty_of_literal {enum variant : String} {field : Option String} {payload : Option Expr}
    {span : Span} {c : Checker}
    (accepting : (after (visitExpr (.variant enum variant field payload span)) c).Accepting) :
    (result (visitExpr (.variant enum variant field payload span)) c).ty = .enum enum ∧
      c.registry.enums.contains enum = true := by
  rw [visitExpr] at accepting ⊢
  simp only [result_bind, after_bind, result_registry, after_registry] at accepting ⊢
  cases found : c.registry.enums.get? enum with
  | none =>
    -- The unknown enum is reported in front of the payload.
    rw [found] at accepting
    have grows := Checker.Later.visit (.optional payload)
      (after (error (.unknownEnum enum) (some span)) c)
    have before := grows.accepting accepting
    rw [← Checker.errorCount_eq_zero] at before
    simp [Checker.errorCount] at before
  | some variants =>
    refine ⟨?_, by rw [← Table.isSome_get?, found]; rfl⟩
    dsimp only
    split
    · rfl
    · rw [result_bind, result_bind]
      split <;> rfl

theorem compatible_enum {enum : String} {ty : Ty}
    (fits : Ty.compatible (.enum enum) ty = true) : ty = .enum enum ∨ ty.isAbsorbing = true := by
  cases ty with
  | enum name =>
    have same : enum = name := by simpa [Ty.compatible] using fits
    exact Or.inl (by rw [same])
  | any => exact Or.inr rfl
  | unknown => exact Or.inr rfl
  | _ => cases fits

/-- The type of a variable that is initialized with a value of an enum: that of the enum, unless
`any` is written. -/
theorem variableType_of_enum {r : Registry} {name enum : String} {written : Option TypeExpr}
    {value : Operand} {span : Span} (typed : value.ty = .enum enum)
    (clean : (Rules.variableType name (written.map fun t => r.resolve (some t)) value
      span).errorCount = 0) :
    (Rules.variableType name (written.map fun t => r.resolve (some t)) value span).value =
        .enum enum ∨
      (Rules.variableType name (written.map fun t => r.resolve (some t)) value span).value =
        .any := by
  cases written with
  | none => exact Or.inl typed
  | some written =>
    rcases Rules.variableType_written clean with ⟨_, resolved, fits⟩
    change (r.resolve (some written)).value = _ ∨ (r.resolve (some written)).value = _
    rw [typed] at fits
    rcases compatible_enum fits with same | absorbing
    · exact Or.inl same
    · cases Registry.denotes_of_resolve resolved with
      | any => exact Or.inr rfl
      | named found =>
        rw [Registry.named?_concrete found] at absorbing
        cases absorbing

/-- Declaring a variable with the tag of its literal, if the value is one. -/
theorem Preserves.visitVar {r : Registry} (flags : Flags) (decl : VarDecl)
    (visited : Preserves r (fun outcome => [outcome.ty]) (visitExpr decl.value)) :
    Preserves r (fun _ => []) (visitVar flags decl) := by
  rcases decl with ⟨name, mutable, written, value, exported, span⟩
  refine plain fun c consistent => ?_
  rcases visited c consistent with ⟨valued, known⟩
  let rule := Rules.variableType name
    (written.map fun t => (after (visitExpr value) c).registry.resolve (some t))
    ⟨(result (visitExpr value) c).ty, value.span⟩ span
  have resolved (t : Option TypeExpr) :
      ((after (visitExpr value) c).registry.resolve t).value.Known r := by
    rw [valued.registry]
    exact Registry.resolve_known _ _
  have declared : rule.value.Known r := List.forall_mem_singleton.mp
    (Ruling.variableType resolved (List.forall_mem_singleton.mp known) name written span).known
  have reported := valued.report rule.diagnostics
  rw [visitVar_eq]
  cases value with
  | variant enum variant field payload place =>
    refine reported.withEnvironment (reported.bound.declareModified name declared) ?_
    intro accepting
    refine (reported.tagged accepting).declareModified name ?_
    rintro tag ⟨rfl⟩
    have none : Diagnostic.errorCount (_ ++ rule.diagnostics) = 0 :=
      Checker.errorCount_eq_zero.mpr accepting
    rw [Diagnostic.errorCount_append] at none
    have before : (after (visitExpr (.variant enum variant field payload place)) c).Accepting :=
      Checker.errorCount_eq_zero.mp (Nat.eq_zero_of_add_eq_zero_right none)
    have clean : rule.errorCount = 0 := Nat.eq_zero_of_add_eq_zero_left none
    have literal := ty_of_literal before
    refine ⟨variableType_of_enum literal.1 clean, ?_⟩
    rw [← consistent.registry]
    exact literal.2
  | _ => exact reported.declare name declared rfl

theorem Preserves.visitDead {r : Registry} (place : Place) (stmt : Stmt)
    (visited : Preserves r (fun outcome => outcome.ty.toList) (visitStmt place stmt)) :
    Preserves r (fun _ => []) (visitDead place stmt) :=
  (emit _).bind fun _ _ => returnsSeen.bind fun _ _ => visited.bind fun _ _ => truncateReturns _

/-! The visits. -/

theorem Preserves.steps (r : Registry) :
    Compositional (Ty.Known r) fun _ _ {_} types step => Preserves r types step where
  basic := by simp [Ty.Known.int, Ty.Known.bool, Ty.Known.string, Ty.Known.unit, Ty.Known.any,
    Ty.Known.unknown]
  pure := .pure
  bind := .bind
  settle := .settle
  error := fun _ _ => .emit _
  reportArms := fun _ _ => .registry (.emit _)
  useName := .useName
  structFields? := .structFields?
  enumVariants? := .enumVariants?
  expectedResult? := .expectedResult?
  matchedEnum? := .matchedEnum?
  recordReturn := .recordReturn
  declare := .declare
  bindVariant := .bindVariant
  inScope := fun inside => Preserves.enterScope.bind fun _ _ => inside.bind fun _ known =>
    Preserves.exitScope.bind fun _ _ => .pure known
  visitVar := .visitVar
  visitFunction := by
    intro l place signature body visited
    rw [visitStmt]
    refine (Preserves.openFunction _ _).bind fun _ declared => (visited _).bind fun _ known => ?_
    rcases List.forall_mem_cons.mp known with ⟨valued, returned⟩
    have declared := fun ty same => declared ty (Option.mem_toList.mpr same)
    exact (Preserves.closeFunction signature declared valued returned).bind fun _ _ =>
      .pure (List.forall_mem_nil _)
  visitDead := .visitDead
  visitBlock := by
    intro l _ valued body span visited
    rw [visitBlock]
    exact Preserves.enterScope.bind fun _ _ => (Preserves.hoist _ _).bind fun _ _ =>
      Preserves.returnsSeen.bind fun _ _ => visited.bind fun _ known =>
      Preserves.exitScope.bind fun _ _ => (Preserves.returnsSince _).bind fun _ returned =>
      .pure (List.forall_mem_cons.mpr ⟨List.forall_mem_singleton.mp known, returned⟩)

/-- A visit that is told known types yields known types. -/
theorem preserves_visit {r : Registry} (task : Task) (told : task.Told (Ty.Known r)) :
    Preserves r task.resultTypes task.step := by
  cases opens : task.opensScope with
  | false =>
    rcases (Preserves.steps r).visit told opens with ⟨_, preserves⟩
    exact preserves
  | true =>
    rcases Task.eq_initializer_of_opensScope opens with ⟨decl, rfl⟩
    exact Preserves.enterScope.bind fun _ _ => (Preserves.steps r).var ⟨0, 0⟩ Flags.inner decl

theorem preserves_visitExpr {r : Registry} (e : Expr) :
    Preserves r (fun outcome => [outcome.ty]) (visitExpr e) := preserves_visit (.expr e) trivial

theorem known_visitExpr {r : Registry} (e : Expr) {c : Checker} (consistent : c.Consistent r) :
    (result (visitExpr e) c).ty.Known r :=
  List.forall_mem_singleton.mp (preserves_visitExpr e c consistent).2

end Check

namespace Checker.Consistent

variable {r : Registry}

theorem visitFields (struct : String) (declared : Fields) (given : List String)
    (inits : List FieldInit) {c : Checker} (consistent : c.Consistent r) :
    (after (Check.visitFields struct declared given inits) c).Consistent r := by
  induction inits generalizing given c with
  | nil => rw [Check.visitFields]; exact consistent
  | cons init rest ih =>
    rcases init with ⟨name, value, span⟩
    rw [Check.visitFields]
    exact ih _ ((preserves_visitExpr value _ (consistent.report _)).1.report _)

theorem visitStmts (valued : Bool) (progress : Progress) (stmts : List Stmt) {c : Checker}
    (consistent : c.Consistent r) :
    (after (Check.visitStmts valued progress stmts) c).Consistent r := by
  induction stmts generalizing progress c with
  | nil => rw [Check.visitStmts]; exact consistent
  | cons stmt rest ih =>
    have visited {place : Place} : Preserves r _ (visitStmt place stmt) :=
      preserves_visit (.stmt place stmt) trivial
    rcases progress with ⟨ty, stopped⟩
    cases stopped with
    | false =>
      rw [visitStmts_live]
      exact ih _ (visited c consistent).1
    | true =>
      rw [visitStmts_dead]
      exact ih _ (Preserves.visitDead _ stmt visited c consistent).1

/-- Whatever a visit is told, it leaves a state that fits the registry. -/
theorem visit (task : Task) {c : Checker} (consistent : c.Consistent r) :
    (after task.step c).Consistent r := by
  have kept {task : Task} (told : task.Told (Ty.Known r)) : (after task.step c).Consistent r :=
    (preserves_visit task told c consistent).1
  cases task with
  | fields struct declared given inits => exact consistent.visitFields struct declared given inits
  | stmts valued progress ss => exact consistent.visitStmts valued progress ss
  | _ => exact kept trivial

/-- The steps in front of every visit keep a state consistent. -/
theorem front (r : Registry) : Front fun c c' => c.Consistent r → c'.Consistent r where
  refl := fun _ consistent => consistent
  trans := fun one two consistent => two (one consistent)
  emit := fun diagnostics c consistent => (Preserves.emit diagnostics c consistent).1
  visit := fun task _ consistent => consistent.visit task
  enterScope := fun c consistent => (Preserves.enterScope c consistent).1
  hoist := fun topLevel stmts c consistent => (Preserves.hoist topLevel stmts c consistent).1
  openFunction := fun signature topLevel c consistent =>
    (Preserves.openFunction signature topLevel c consistent).1
  dead := fun place stmt _ consistent =>
    (Preserves.truncateReturns _ _ (consistent.visit (.stmt place stmt))).1

end Checker.Consistent

namespace Module

theorem consistent_register (m : Module) (options : Options) :
    (after (register m.body) (Checker.fresh options)).Consistent
      (Registry.empty.register options m.body).value :=
  ⟨Registry.closed_empty.register options m.body, rfl, .empty, fun _ mem => (by cases mem),
    fun _ => .empty⟩

/-- Every visit of a check starts in a state that fits the registry of the module. -/
theorem consistent_of_visits {m : Module} {options : Options} {v : Visit}
    (visits : m.Visits options v) : v.start.Consistent (m.checked options).registry := by
  have registered := registry_eq_of_visits (Relation.ReflTransGen.refl : m.Visits options _)
  have start : (m.visit options).start.Consistent (m.checked options).registry := by
    have shown : (m.checked options).registry = (Registry.empty.register options m.body).value := by
      rw [registered]
      exact (declares_hoist true m.body _).registry
    rw [shown]
    exact (Preserves.hoist true m.body _ (consistent_register m options)).1
  induction visits with
  | refl => exact start
  | tail _ enters ih => exact enters.front (Checker.Consistent.front _) ih

end Module

end ModuleCheck
