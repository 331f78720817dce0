import ModuleCheck.Proofs.Correspondence
import ModuleCheck.Proofs.Invariant

namespace ModuleCheck

/-!
Two checks in lockstep.

A tree is checked with one set of options and its relabelled copy with another one.  The two
checks take the same branches: at every point they have the same registry, the same functions
around them and the same types in their scopes, and what they have reported so far corresponds.
-/

open Check (after result)

namespace Correspondence

variable {α β γ δ : Type} {l : Relabelling} {left right : Options}
  (k : Correspondence l left right)

/-! States. -/

/-- The states of two checks in lockstep.  Every entry knows where its name was declared. -/
structure State (c c' : Checker) : Prop where
  options : c.options = left
  options' : c'.options = right
  registry : c.registry = c'.registry
  environment : l.CarriesAll c.environment c'.environment
  spanned : c.environment.Each fun binding => binding.span.isSome = true
  frames : c.frames = c'.frames
  fault : c.fault = c'.fault
  reports : k.Reports c.diagnostics c'.diagnostics

/-- Unused names of corresponding scopes are reported on alike. -/
theorem unusedEntries {scope scope' : Scope} (topLevel : Bool) (carried : l.Carries scope scope')
    (spanned : ∀ name binding, scope.get? name = some binding → binding.span.isSome = true) :
    k.Reports (scope.toList.flatMap (Scope.entryReports left topLevel))
      (scope'.toList.flatMap (Scope.entryReports right topLevel)) := by
  have eachSpanned : ∀ e ∈ scope.toList, e.2.span.isSome = true := fun e member =>
    spanned e.1 e.2 ((scope.get?_eq_some_iff _ _).mpr member)
  rw [carried]
  generalize scope.toList = entries at eachSpanned
  induction entries with
  | nil => exact k.nil
  | cons e rest ih =>
    rcases List.forall_mem_cons.mp eachSpanned with ⟨first, others⟩
    exact k.append (k.unused topLevel e.1 e.2 first) (ih others)

variable {k}

namespace State

variable {c c' : Checker}

theorem report (paired : k.State c c') {ds ds' : List Diagnostic} (reports : k.Reports ds ds') :
    k.State { c with diagnostics := c.diagnostics ++ ds }
      { c' with diagnostics := c'.diagnostics ++ ds' } :=
  { paired with reports := k.append paired.reports reports }

theorem withEnvironment (paired : k.State c c') {env env' : Environment}
    (carried : l.CarriesAll env env')
    (spanned : env.Each fun binding => binding.span.isSome = true) :
    k.State { c with environment := env } { c' with environment := env' } :=
  { paired with environment := carried, spanned }

theorem withFrames (paired : k.State c c') (f : List Frame → List Frame) :
    k.State { c with frames := f c.frames } { c' with frames := f c'.frames } :=
  { paired with frames := congrArg f paired.frames }

theorem withRegistry (paired : k.State c c') (r : Registry) :
    k.State { c with registry := r } { c' with registry := r } :=
  { paired with registry := rfl }

theorem breach (paired : k.State c c') (fault : Fault) :
    k.State (after (Check.breach fault) c) (after (Check.breach fault) c') :=
  { paired with fault := congrArg (·.or (some fault)) paired.fault }

/-- The unused locals of the innermost scope are reported on alike. -/
theorem unusedLocals (paired : k.State c c') :
    k.Reports (Scope.unusedLocals c.options c.environment.current)
      (Scope.unusedLocals c'.options c'.environment.current) := by
  rw [paired.options, paired.options', Scope.unusedLocals_eq, Scope.unusedLocals_eq]
  exact k.unusedEntries false paired.environment.current
    (paired.spanned _ List.mem_cons_self)

theorem unusedTopLevel (paired : k.State c c') :
    k.Reports (Scope.unusedTopLevel c.options c.environment.current)
      (Scope.unusedTopLevel c'.options c'.environment.current) := by
  rw [paired.options, paired.options', Scope.unusedTopLevel_eq, Scope.unusedTopLevel_eq]
  exact k.unusedEntries true paired.environment.current
    (paired.spanned _ List.mem_cons_self)

theorem exitScope (paired : k.State c c') :
    k.State (after Check.exitScope c) (after Check.exitScope c') := by
  have unused := paired.unusedLocals
  rcases env : c.environment with ⟨current, outer⟩
  rcases env' : c'.environment with ⟨current', outer'⟩
  have carried := paired.environment
  have spanned := paired.spanned
  rw [env, env'] at unused carried
  rw [env] at spanned
  cases others : carried.outer with
  | nil =>
    rw [Check.after_exitScope_global (by rw [env]; rfl),
      Check.after_exitScope_global (by rw [env']; rfl)]
    exact paired.breach _
  | cons next rest =>
    rw [Check.after_exitScope (by rw [env]; rfl), Check.after_exitScope (by rw [env']; rfl)]
    exact (paired.report unused).withEnvironment ⟨next, rest⟩ (spanned.pop rfl)

end State

variable (k)

theorem state_fresh : k.State (Checker.fresh left) (Checker.fresh right) where
  options := rfl
  options' := rfl
  registry := rfl
  environment := .empty
  spanned := .empty
  frames := rfl
  fault := rfl
  reports := k.nil

/-- Two steps stay in lockstep and yield related results. -/
def Step (Q : α → β → Prop) (step : Check α) (step' : Check β) : Prop :=
  ∀ c c', k.State c c' →
    k.State (after step c) (after step' c') ∧ Q (result step c) (result step' c')

variable {k}

namespace Step

theorem pure {Q : α → β → Prop} {a : α} {b : β} (holds : Q a b) :
    k.Step Q (Pure.pure a) (Pure.pure b) :=
  fun _ _ paired => ⟨paired, holds⟩

theorem bind {Q : α → β → Prop} {Q' : γ → δ → Prop} {step : Check α} {step' : Check β}
    {next : α → Check γ} {next' : β → Check δ} (first : k.Step Q step step')
    (rest : ∀ a b, Q a b → k.Step Q' (next a) (next' b)) :
    k.Step Q' (step >>= next) (step' >>= next') := by
  intro c c' paired
  rcases first c c' paired with ⟨kept, related⟩
  exact rest _ _ related _ _ kept

/-- Steps with one result, which the rest may use on both sides. -/
theorem seq {Q : γ → δ → Prop} {step step' : Check α} {next : α → Check γ}
    {next' : α → Check δ} (first : k.Step Eq step step')
    (rest : ∀ a, k.Step Q (next a) (next' a)) : k.Step Q (step >>= next) (step' >>= next') := by
  apply first.bind
  intro a b same
  subst same
  exact rest a

/-! Reports. -/

theorem emit {ds ds' : List Diagnostic} (reports : k.Reports ds ds') :
    k.Step Eq (Check.emit ds) (Check.emit ds') :=
  fun _ _ paired => ⟨paired.report reports, rfl⟩

theorem settle {Q : α → β → Prop} {r : Reported α} {r' : Reported β} (rule : k.Rule Q r r') :
    k.Step Q (Check.settle r) (Check.settle r') :=
  fun _ _ paired => ⟨paired.report rule.2, rule.1⟩

theorem error {issue : Issue} (plain : issue.isPlain = true) (span : Span) :
    k.Step Eq (Check.error issue (some span)) (Check.error issue (some (l.spans span))) :=
  emit (k.error span (.same plain))

/-! Scopes. -/

theorem registry : k.Step Eq Check.registry Check.registry :=
  fun _ _ paired => ⟨paired, paired.registry⟩

theorem isUsedHere (name : String) :
    k.Step Eq (Check.isUsedHere name) (Check.isUsedHere (l.names name)) := by
  intro c c' paired
  constructor
  · exact paired
  · rw [Check.result_isUsedHere, Check.result_isUsedHere, paired.environment.current.get?,
      Option.any_map]
    rfl

theorem enumTag? (name : String) :
    k.Step Eq (Check.enumTag? name) (Check.enumTag? (l.names name)) := by
  intro c c' paired
  constructor
  · exact paired
  · rw [Check.result_enumTag?, Check.result_enumTag?, paired.environment.lookup?]
    cases c.environment.lookup? name <;> rfl

theorem declare (name : String) (ty : Ty) (flags : Flags) (span : Span) :
    k.Step Eq (Check.declare name ty flags (some span))
      (Check.declare (l.names name) ty flags (some (l.spans span))) := by
  intro c c' paired
  constructor
  · apply paired.withEnvironment
    · exact paired.environment.declare name (Binding.declared ty flags (some span))
    · exact paired.spanned.declare name rfl
  · rfl

theorem useName (name : String) (span : Span) :
    k.Step Eq (Check.useName name (some span))
      (Check.useName (l.names name) (some (l.spans span))) := by
  intro c c' paired
  have renamed := paired.environment.lookup? name
  cases bound : c.environment.lookup? name with
  | none =>
    rw [bound] at renamed
    rcases Check.useName_of_unbound bound (some span) with ⟨yields, leaves⟩
    rcases Check.useName_of_unbound renamed (some (l.spans span)) with ⟨yields', leaves'⟩
    rw [yields, yields', leaves, leaves']
    constructor
    · exact paired.report (k.error span (.unknownIdentifier name))
    · rfl
  | some binding =>
    rw [bound] at renamed
    rcases Check.useName_of_bound bound (some span) with ⟨yields, leaves⟩
    rcases Check.useName_of_bound renamed (some (l.spans span)) with ⟨yields', leaves'⟩
    rw [yields, yields', leaves, leaves']
    constructor
    · apply paired.withEnvironment
      · exact paired.environment.modify name fun _ => rfl
      · exact paired.spanned.modify Binding.markUsed (fun _ => id) name
    · rfl

/-- A change that looks at no span and keeps it. -/
theorem modifyCurrent (name : String) {f : Binding → Binding}
    (moves : ∀ binding, f (l.binding binding) = l.binding (f binding))
    (kept : ∀ binding, (f binding).span = binding.span) :
    k.Step Eq (Check.modifyEnvironment fun env => env.modifyCurrent name f)
      (Check.modifyEnvironment fun env => env.modifyCurrent (l.names name) f) := by
  intro c c' paired
  constructor
  · apply paired.withEnvironment
    · exact paired.environment.modifyCurrent name moves
    · apply paired.spanned.modifyCurrent
      intro binding given
      rw [kept]
      exact given
  · rfl

theorem tagLiteral (name : String) (value : Expr) :
    k.Step Eq (Check.tagLiteral name value) (Check.tagLiteral (l.names name) (l.expr value)) := by
  cases value with
  | variant enum variant field payload span =>
    rw [Relabelling.expr]
    exact modifyCurrent name (fun _ => rfl) fun _ => rfl
  | _ => rw [Relabelling.expr]; exact pure rfl

theorem enterScope : k.Step Eq Check.enterScope Check.enterScope :=
  fun _ _ paired => ⟨paired.withEnvironment paired.environment.push paired.spanned.push, rfl⟩

theorem exitScope : k.Step Eq Check.exitScope Check.exitScope :=
  fun _ _ paired => ⟨paired.exitScope, rfl⟩

theorem exitInitializer (decl : Option VarDecl) :
    k.Step Eq (Check.exitInitializer decl) (Check.exitInitializer (l.initializer decl)) := by
  cases decl with
  | none => rw [Relabelling.initializer]; exact pure rfl
  | some decl => rw [Relabelling.initializer]; exact exitScope

/-! Functions. -/

theorem pushFrame (expected : Option Ty) :
    k.Step Eq (Check.pushFrame expected) (Check.pushFrame expected) :=
  fun _ _ paired => ⟨paired.withFrames (⟨expected, []⟩ :: ·), rfl⟩

theorem popFrame : k.Step Eq Check.popFrame Check.popFrame :=
  fun _ _ paired => ⟨paired.withFrames List.tail, congrArg List.head? paired.frames⟩

theorem frame? : k.Step Eq Check.frame? Check.frame? :=
  fun _ _ paired => ⟨paired, congrArg List.head? paired.frames⟩

theorem returnsSeen : k.Step Eq Check.returnsSeen Check.returnsSeen :=
  frame?.seq fun _ => pure rfl

theorem modifyReturns (f : List Ty → List Ty) :
    k.Step Eq (Check.modifyReturns f) (Check.modifyReturns f) := by
  intro c c' paired
  constructor
  · rw [Check.after_modifyReturns, Check.after_modifyReturns]
    apply paired.withFrames (List.modifyHead fun frame => { frame with returns := f frame.returns })
  · rfl

theorem returnsSince (count : Nat) :
    k.Step Eq (Check.returnsSince count) (Check.returnsSince count) := by
  refine frame?.seq fun frame => ?_
  cases frame with
  | none => exact pure rfl
  | some frame =>
    by_cases outside : frame.returns.length < count
    · simp only [outside, if_true]
      exact seq (fun _ _ paired => ⟨paired.breach _, rfl⟩) fun _ => pure rfl
    · simp only [outside, if_false]
      exact pure rfl

theorem hoist (topLevel : Bool) (stmts : List Stmt) :
    k.Step Eq (Check.hoist topLevel stmts) (Check.hoist topLevel (l.stmts stmts)) := by
  induction stmts with
  | nil => rw [Relabelling.stmts]; exact pure rfl
  | cons stmt rest ih =>
    cases stmt with
    | function signature body =>
      rw [Relabelling.stmts, Relabelling.stmt]
      refine registry.seq fun r => ?_
      -- Hoisting drops the reports of these rules and keeps their values.
      have result := (Rule.resolve (k := k) r signature.result).1
      have params := (Rule.resolveParams (k := k) r signature.params).1
      rw [Check.value_resolveParams, Check.value_resolveParams] at params
      dsimp only [Relabelling.signature]
      rw [← result, ← params]
      exact (declare _ _ _ _).seq fun _ => ih
    | _ => rw [Relabelling.stmts, Relabelling.stmt]; exact ih

theorem declareParams (params : List Param) (types : List Ty) :
    k.Step Eq (Check.declareParams params types)
      (Check.declareParams (params.map l.param) types) := by
  induction params generalizing types with
  | nil => exact pure rfl
  | cons param rest ih =>
    cases types with
    | nil => exact pure rfl
    | cons ty others => exact (declare param.name ty _ param.span).seq fun _ => ih others

theorem openFunction (signature : Signature) (topLevel : Bool) :
    k.Step Eq (Check.openFunction signature topLevel)
      (Check.openFunction (l.signature signature) topLevel) := by
  refine (isUsedHere _).seq fun used => registry.seq fun r =>
    (settle (Rule.resolveParams r signature.params)).seq fun params =>
    (settle (Rule.resolve r signature.result)).seq fun result => ?_
  have expected : ((l.signature signature).result.map fun _ => result) =
      signature.result.map fun _ => result := Option.map_map ..
  simp only [expected]
  exact (declare signature.name _ _ signature.span).seq fun _ => enterScope.seq fun _ =>
    (declareParams signature.params params).seq fun _ => (pushFrame _).seq fun _ => pure rfl

theorem closeFunction (signature : Signature) (expected : Option Ty) (body : BlockOutcome) :
    k.Step Eq (Check.closeFunction signature expected body)
      (Check.closeFunction (l.signature signature) expected body) := by
  refine popFrame.seq fun _ =>
    (settle (Rule.functionResult signature.name expected body signature.span)).seq fun result =>
    exitScope.seq fun _ => modifyCurrent signature.name (fun binding => ?_) fun binding => ?_
  all_goals
    rcases binding with ⟨ty, used, topLevel, exported, span, tag⟩
    cases ty <;> rfl

/-! Imports, matches and type declarations. -/

theorem declareImports (topLevel : Bool) (span : Span) (names : List String) :
    k.Step Eq (Check.declareImports topLevel span names)
      (Check.declareImports topLevel (l.spans span) (names.map l.names)) := by
  induction names with
  | nil => exact pure rfl
  | cons name rest ih => exact (declare name _ _ span).seq fun _ => ih

theorem matchedEnum? (m : Match) (ty : Ty) :
    k.Step Eq (Check.matchedEnum? m ty) (Check.matchedEnum? (l.matching m) ty) := by
  rcases m with ⟨value, arms, span⟩
  rw [Relabelling.matching]
  unfold Check.matchedEnum?
  rw [Relabelling.commonEnum?_arms]
  cases value with
  | identifier name place =>
    rw [Relabelling.expr]
    exact (enumTag? name).seq fun _ => pure rfl
  | _ => rw [Relabelling.expr]; exact pure rfl

theorem bindVariant (matched : Option String) (enum variant : String)
    (binding : Option String) (span : Span) :
    k.Step Eq (Check.bindVariant matched enum variant binding span)
      (Check.bindVariant matched enum variant (binding.map l.names) (l.spans span)) := by
  unfold Check.bindVariant
  rw [Option.isSome_map]
  refine registry.seq fun r => (settle (Rule.bindingType r _ _ _ _ span)).seq fun ty => ?_
  cases binding with
  | none => exact pure rfl
  | some name => exact declare name ty _ span

theorem settleGuard (operand : Option Operand) :
    k.Step Eq (Check.settleGuard operand) (Check.settleGuard (operand.map l.operand)) := by
  cases operand with
  | none => exact pure rfl
  | some operand => exact settle (Rule.require _ (.same rfl) operand.span)

theorem settleArmValue (valued : Bool) (body : ExprOutcome) (span : Span) :
    k.Step Eq (Check.settleArmValue valued body span)
      (Check.settleArmValue valued body (l.spans span)) := by
  cases valued with
  | false => exact pure rfl
  | true => exact settle (Rule.require _ (.same rfl) span)

theorem register (stmts : List Stmt) :
    k.Step Eq (Check.register stmts) (Check.register (l.stmts stmts)) := by
  intro c c' paired
  have rule := Rule.register (k := k) c.registry stmts
  have leaves (options : Options) (stmts : List Stmt) (c : Checker) (same : c.options = options) :
      after (Check.register stmts) c =
        { c with
          registry := (c.registry.register options stmts).value
          diagnostics := c.diagnostics ++ (c.registry.register options stmts).diagnostics } := by
    subst same
    rfl
  constructor
  · rw [leaves left stmts c paired.options, leaves right _ c' paired.options', ← paired.registry,
      ← rule.1]
    exact (paired.report rule.2).withRegistry (c.registry.register left stmts).value
  · rfl

/-- The reports at the end of a module. -/
theorem reportUnused :
    k.Step Eq
      (do
        let scope := (← get).environment.current
        Check.reportUnusedLocals scope
        Check.warnUnusedTopLevel scope)
      (do
        let scope := (← get).environment.current
        Check.reportUnusedLocals scope
        Check.warnUnusedTopLevel scope) :=
  fun _ _ paired => ⟨(paired.report paired.unusedLocals).report paired.unusedTopLevel, rfl⟩

end Step

/-!
Visits.  Each case opens the visit of a node and that of its relabelled copy and follows the
two from step to step.  Only operands differ, in their spans.
-/

mutual

theorem visitExpr : (e : Expr) → k.Step Eq (Check.visitExpr e) (Check.visitExpr (l.expr e))
  | .identifier name span => by
    rw [Relabelling.expr, Check.visitExpr, Check.visitExpr]
    exact (Step.useName name span).seq fun _ => .pure rfl
  | .int .. | .string .. | .bool .. => by
    rw [Relabelling.expr, Check.visitExpr, Check.visitExpr]
    exact .pure rfl
  | .interpolated parts _ _ => by
    rw [Relabelling.expr, Check.visitExpr, Check.visitExpr]
    exact (visitParts parts).seq fun _ => .pure rfl
  | .binary op first second span => by
    rw [Relabelling.expr, Check.visitExpr, Check.visitExpr, Relabelling.span_expr,
      Relabelling.span_expr]
    exact (visitExpr first).seq fun one => (visitExpr second).seq fun two =>
      (Step.settle (Rule.binary op ⟨one.ty, first.span⟩ ⟨two.ty, second.span⟩ span)).seq
      fun _ => .pure rfl
  | .unary op operand span => by
    rw [Relabelling.expr, Check.visitExpr, Check.visitExpr]
    exact (visitExpr operand).seq fun _ => (Step.settle (Rule.unary op _ span)).seq fun _ =>
      .pure rfl
  | .call callee args span => by
    rw [Relabelling.expr, Check.visitExpr, Check.visitExpr]
    refine (visitExpr callee).seq fun called => (visitArgs args).bind ?_
    rintro operands _ rfl
    exact (Step.settle (Rule.call called.ty operands span)).seq fun _ => .pure rfl
  | .conditional c => by
    rw [Relabelling.expr, Check.visitExpr, Check.visitExpr]
    exact visitConditional c
  | .matching m => by
    rw [Relabelling.expr, Check.visitExpr, Check.visitExpr, Relabelling.span_matching]
    exact (visitMatch true m).seq fun _ => (Step.settle (Rule.requireValue _ _ m.span)).seq
      fun _ => .pure rfl
  | .construct struct fields span => by
    rw [Relabelling.expr, Check.visitExpr, Check.visitExpr, Relabelling.map_name_fieldInits]
    refine Step.registry.seq fun r => ?_
    cases r.structs.get? struct with
    | none =>
      exact (Step.error rfl span).seq fun _ => (visitFieldValues fields).seq fun _ => .pure rfl
    | some declared =>
      exact (visitFields struct declared [] fields).seq fun _ =>
        (Step.settle (Rule.missingFields struct declared _ span)).seq fun _ => .pure rfl
  | .update target fields span => by
    rw [Relabelling.expr, Check.visitExpr, Check.visitExpr]
    refine (visitExpr target).seq fun updated => ?_
    cases updated.ty with
    | struct struct =>
      refine Step.registry.seq fun r => ?_
      cases r.structs.get? struct with
      | none =>
        exact (Step.error rfl span).seq fun _ => (visitFieldValues fields).seq fun _ => .pure rfl
      | some declared => exact (visitFields struct declared [] fields).seq fun _ => .pure rfl
    | _ =>
      exact (Step.error rfl span).seq fun _ => (visitFieldValues fields).seq fun _ => .pure rfl
  | .variant enum variant _ payload span => by
    rw [Relabelling.expr, Check.visitExpr, Check.visitExpr, Relabelling.isSome_optional]
    refine Step.registry.seq fun r => ?_
    cases r.enums.get? enum with
    | none =>
      exact (Step.error rfl span).seq fun _ => (visitOptional payload).bind fun _ _ _ => .pure rfl
    | some variants =>
      dsimp only
      cases variants.get? variant with
      | none =>
        exact (Step.error rfl span).seq fun _ => (visitOptional payload).bind fun _ _ _ =>
          .pure rfl
      | some declared =>
        refine (Step.settle (Rule.payloadPresence variant declared _ span)).seq fun _ =>
          (visitOptional payload).bind ?_
        rintro operand _ rfl
        cases operand with
        | none => exact .pure rfl
        | some operand =>
          exact (Step.settle (Rule.payloadValue enum variant declared operand)).seq fun _ =>
            .pure rfl
  | .block b => by
    rw [Relabelling.expr, Check.visitExpr, Check.visitExpr]
    exact (visitBlock true b).seq fun _ => .pure rfl

theorem visitOptional : (e : Option Expr) →
    k.Step (fun operand operand' => operand' = operand.map l.operand) (Check.visitOptional e)
      (Check.visitOptional (l.optional e))
  | none => by
    rw [Relabelling.optional, Check.visitOptional]
    exact .pure rfl
  | some e => by
    rw [Relabelling.optional, Check.visitOptional, Check.visitOptional, Relabelling.span_expr]
    exact (visitExpr e).seq fun _ => .pure rfl

theorem visitParts : (parts : List Part) →
    k.Step Eq (Check.visitParts parts) (Check.visitParts (l.parts parts))
  | [] => by
    rw [Relabelling.parts, Check.visitParts]
    exact .pure rfl
  | .text .. :: rest => by
    rw [Relabelling.parts, Check.visitParts, Check.visitParts]
    exact visitParts rest
  | .embedded e _ :: rest => by
    rw [Relabelling.parts, Check.visitParts, Check.visitParts, Relabelling.span_expr]
    exact (visitExpr e).seq fun _ => (Step.settle (Rule.requireValue _ _ e.span)).seq fun _ =>
      visitParts rest

theorem visitArgs : (args : List Expr) →
    k.Step (fun operands operands' => operands' = operands.map l.operand) (Check.visitArgs args)
      (Check.visitArgs (l.exprs args))
  | [] => by
    rw [Relabelling.exprs, Check.visitArgs]
    exact .pure rfl
  | e :: rest => by
    rw [Relabelling.exprs, Check.visitArgs, Check.visitArgs, Relabelling.span_expr]
    refine (visitExpr e).seq fun _ => (visitArgs rest).bind ?_
    rintro operands _ rfl
    exact .pure rfl

theorem visitPrinted : (args : List Expr) →
    k.Step Eq (Check.visitPrinted args) (Check.visitPrinted (l.exprs args))
  | [] => by
    rw [Relabelling.exprs, Check.visitPrinted]
    exact .pure rfl
  | e :: rest => by
    rw [Relabelling.exprs, Check.visitPrinted, Check.visitPrinted, Relabelling.span_expr]
    exact (visitExpr e).seq fun _ => (Step.settle (Rule.requireValue _ _ e.span)).seq fun _ =>
      visitPrinted rest

theorem visitFieldValues : (fields : List FieldInit) →
    k.Step Eq (Check.visitFieldValues fields) (Check.visitFieldValues (l.fieldInits fields))
  | [] => by
    rw [Relabelling.fieldInits, Check.visitFieldValues]
    exact .pure rfl
  | ⟨_, value, _⟩ :: rest => by
    rw [Relabelling.fieldInits, Check.visitFieldValues, Check.visitFieldValues]
    exact (visitExpr value).seq fun _ => visitFieldValues rest

theorem visitFields (struct : String) (declared : Fields) (given : List String) :
    (fields : List FieldInit) →
    k.Step Eq (Check.visitFields struct declared given fields)
      (Check.visitFields struct declared given (l.fieldInits fields))
  | [] => by
    rw [Relabelling.fieldInits, Check.visitFields]
    exact .pure rfl
  | ⟨name, value, span⟩ :: rest => by
    rw [Relabelling.fieldInits, Check.visitFields, Check.visitFields, Relabelling.span_expr]
    exact (Step.settle (Rule.fieldName struct declared given name span)).seq fun _ =>
      (visitExpr value).seq fun outcome =>
      (Step.settle (Rule.fieldValue struct declared name ⟨outcome.ty, value.span⟩)).seq fun _ =>
      visitFields struct declared (name :: given) rest

theorem visitConditional : (c : Conditional) →
    k.Step Eq (Check.visitConditional c) (Check.visitConditional (l.conditional c))
  | ⟨initializer, condition, consequence, alternative, span⟩ => by
    rw [Relabelling.conditional, Check.visitConditional_eq, Check.visitConditional_eq]
    refine (visitInitializer initializer).seq fun _ => Step.seq ?_ fun _ =>
      (Step.exitInitializer initializer).seq fun _ => .pure rfl
    unfold Check.visitBranches
    rw [Relabelling.span_expr, Relabelling.span_block, Relabelling.span_otherwise]
    exact (visitExpr condition).seq fun _ =>
      (Step.settle (Rule.require _ (.same rfl) condition.span)).seq fun _ =>
      (visitBlock true consequence).seq fun _ =>
      (Step.settle (Rule.requireBranchValue _ _ consequence.span)).seq fun _ =>
      (visitOtherwise alternative).seq fun _ =>
      (Step.settle (Rule.requireBranchValue _ _ alternative.span)).seq fun _ =>
      .settle (Rule.branches _ _ span)

theorem visitInitializer : (decl : Option VarDecl) →
    k.Step Eq (Check.visitInitializer decl) (Check.visitInitializer (l.initializer decl))
  | none => by
    rw [Relabelling.initializer, Check.visitInitializer]
    exact .pure rfl
  | some decl => by
    rw [Relabelling.initializer, Check.visitInitializer, Check.visitInitializer]
    exact Step.enterScope.seq fun _ => visitVar _ decl

theorem visitOtherwise : (alternative : Otherwise) →
    k.Step Eq (Check.visitOtherwise alternative) (Check.visitOtherwise (l.otherwise alternative))
  | .block b => by
    rw [Relabelling.otherwise, Check.visitOtherwise, Check.visitOtherwise]
    exact (visitBlock true b).seq fun _ => .pure rfl
  | .elseIf c => by
    rw [Relabelling.otherwise, Check.visitOtherwise, Check.visitOtherwise]
    exact visitConditional c

theorem visitMatch (valued : Bool) : (m : Match) →
    k.Step Eq (Check.visitMatch valued m) (Check.visitMatch valued (l.matching m))
  | ⟨value, arms, span⟩ => by
    -- Both are stated for the match as a whole, which the visit puts together again.
    have matched := Step.matchedEnum? (k := k) ⟨value, arms, span⟩
    have found := k.findings (m := ⟨value, arms, span⟩)
    rw [Relabelling.matching] at *
    rw [Check.visitMatch, Check.visitMatch]
    exact (visitExpr value).seq fun outcome => (matched outcome.ty).seq fun enum? =>
      Step.registry.seq fun r => (Step.emit (found r enum?)).seq fun _ =>
      (visitArms valued enum? arms).seq fun outcomes => .settle (Rule.arms outcomes span)

theorem visitArms (valued : Bool) (enum? : Option String) : (arms : List Arm) →
    k.Step Eq (Check.visitArms valued enum? arms) (Check.visitArms valued enum? (l.arms arms))
  | [] => by
    rw [Relabelling.arms, Check.visitArms]
    exact .pure rfl
  | arm :: rest => by
    rw [Relabelling.arms, Check.visitArms, Check.visitArms]
    exact (visitArm valued enum? arm).seq fun _ => (visitArms valued enum? rest).seq fun _ =>
      .pure rfl

theorem visitArm (valued : Bool) (enum? : Option String) : (arm : Arm) →
    k.Step Eq (Check.visitArm valued enum? arm) (Check.visitArm valued enum? (l.arm arm))
  | ⟨pattern, guard, body, span⟩ => by
    rw [Relabelling.arm, Check.visitArm_eq, Check.visitArm_eq]
    refine Step.enterScope.seq fun _ => Step.seq ?_ fun _ =>
      Step.exitScope.seq fun _ => .pure rfl
    unfold Check.visitArmParts
    rw [Relabelling.span_expr]
    refine (visitPattern enum? pattern).seq fun _ => (visitOptional guard).bind ?_
    rintro operand _ rfl
    exact (Step.settleGuard operand).seq fun _ => (visitExpr body).seq fun outcome =>
      (Step.settleArmValue valued outcome body.span).seq fun _ => .pure rfl

theorem visitPattern (enum? : Option String) : (pattern : Pattern) →
    k.Step Eq (Check.visitPattern enum? pattern) (Check.visitPattern enum? (l.pattern pattern))
  | .wildcard _ => by
    rw [Relabelling.pattern, Check.visitPattern, Check.visitPattern]
    exact .pure rfl
  | .literal value _ => by
    rw [Relabelling.pattern, Check.visitPattern, Check.visitPattern]
    exact (visitExpr value).seq fun _ => .pure rfl
  | .variant enum variant _ binding span => by
    rw [Relabelling.pattern, Check.visitPattern, Check.visitPattern]
    exact Step.bindVariant enum? enum variant binding span

theorem visitBlock (valued : Bool) : (b : Block) →
    k.Step Eq (Check.visitBlock valued b) (Check.visitBlock valued (l.block b))
  | ⟨body, span⟩ => by
    rw [Relabelling.block, Check.visitBlock, Check.visitBlock]
    exact Step.enterScope.seq fun _ => (Step.hoist false body).seq fun _ =>
      Step.returnsSeen.seq fun _ => (visitStmts valued {} body).seq fun _ =>
      Step.exitScope.seq fun _ => (Step.returnsSince _).seq fun _ => .pure rfl

theorem visitStmts (valued : Bool) (progress : Check.Progress) : (stmts : List Stmt) →
    k.Step Eq (Check.visitStmts valued progress stmts)
      (Check.visitStmts valued progress (l.stmts stmts))
  | [] => by
    rw [Relabelling.stmts, Check.visitStmts]
    exact .pure rfl
  | stmt :: rest => by
    rw [Relabelling.stmts, Check.visitStmts, Check.visitStmts, Relabelling.isEmpty_stmts,
      Relabelling.span_stmt]
    split
    · exact (Step.error rfl stmt.span).seq fun _ => Step.returnsSeen.seq fun _ =>
        (visitStmt _ stmt).seq fun _ => (Step.modifyReturns _).seq fun _ =>
        visitStmts valued progress rest
    · exact (visitStmt _ stmt).seq fun _ => visitStmts valued _ rest

theorem visitStmt (place : Check.Place) : (stmt : Stmt) →
    k.Step Eq (Check.visitStmt place stmt) (Check.visitStmt place (l.stmt stmt))
  | .struct _ | .enum _ => by
    rw [Relabelling.stmt, Check.visitStmt, Check.visitStmt]
    exact .pure rfl
  | .imports i => by
    rw [Relabelling.stmt, Check.visitStmt, Check.visitStmt]
    exact (Step.declareImports place.topLevel i.span i.names).seq fun _ => .pure rfl
  | .var decl => by
    have exported : (l.var decl).exported = decl.exported := by
      cases decl
      rw [Relabelling.var]
    rw [Relabelling.stmt, Check.visitStmt, Check.visitStmt, exported]
    exact (visitVar _ decl).seq fun _ => .pure rfl
  | .function signature body => by
    rw [Relabelling.stmt, Check.visitStmt, Check.visitStmt]
    exact (Step.openFunction signature place.topLevel).seq fun expected =>
      (visitBlock _ body).seq fun outcome =>
      (Step.closeFunction signature expected outcome).seq fun _ => .pure rfl
  | .print _ args _ => by
    rw [Relabelling.stmt, Check.visitStmt, Check.visitStmt]
    exact (visitPrinted args).seq fun _ => .pure rfl
  | .returns value span => by
    rw [Relabelling.stmt, Check.visitStmt, Check.visitStmt]
    refine Step.frame?.seq fun frame => ?_
    cases frame with
    | none =>
      exact (Step.error rfl span).seq fun _ => (visitOptional value).bind fun _ _ _ => .pure rfl
    | some frame =>
      refine (visitOptional value).bind ?_
      rintro operand _ rfl
      exact (Step.settle (Rule.returned frame.expected operand span)).seq fun _ =>
        (Step.modifyReturns _).seq fun _ => .pure rfl
  | .expr value span => by
    rw [Relabelling.stmt, Check.visitStmt, Check.visitStmt, Relabelling.isEffectful_expr]
    split
    · exact (visitExpr value).seq fun _ => .pure rfl
    · exact (Step.error rfl span).seq fun _ => (visitExpr value).seq fun _ => .pure rfl

theorem visitVar (flags : Flags) : (decl : VarDecl) →
    k.Step Eq (Check.visitVar flags decl) (Check.visitVar flags (l.var decl))
  | ⟨name, mutable, ascription, value, exported, span⟩ => by
    rw [Relabelling.var, Check.visitVar_eq, Check.visitVar_eq, Relabelling.span_expr]
    exact (visitExpr value).seq fun outcome => Step.registry.seq fun r =>
      (Step.settle (Rule.variableType r name ascription ⟨outcome.ty, value.span⟩ span)).seq
      fun ty => (Step.declare name ty flags span).seq fun _ => Step.tagLiteral name value

end

theorem visitTopLevel (stmts : List Stmt) :
    k.Step Eq (Check.visitTopLevel stmts) (Check.visitTopLevel (l.stmts stmts)) := by
  induction stmts with
  | nil => rw [Relabelling.stmts]; exact .pure rfl
  | cons stmt rest ih =>
    rw [Relabelling.stmts]
    exact (visitStmt _ stmt).seq fun _ => ih

theorem checkModule (m : Module) :
    k.Step Eq (Check.checkModule m) (Check.checkModule (l.module m)) :=
  (Step.register m.body).seq fun _ => (Step.hoist true m.body).seq fun _ =>
    (visitTopLevel m.body).seq fun _ => Step.reportUnused

variable (k)

/-- The check of a relabelled module stays in lockstep with that of the module to its end. -/
theorem state_checked (m : Module) :
    k.State (m.checked left) ((l.module m).checked right) :=
  (checkModule m _ _ k.state_fresh).1

end Correspondence

end ModuleCheck
