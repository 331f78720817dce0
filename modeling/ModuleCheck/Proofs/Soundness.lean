import ModuleCheck.Proofs.Contexts
import ModuleCheck.Proofs.Coverage

namespace ModuleCheck

/-!
Visits without an error derive types.

A visit that reports no error yields the outcome of a derivation in the context of the state
where it starts, and it records what the derivation returns.
-/

open Check

namespace Check

variable {α : Type}

/-- A silent run of the step derives the judgement in the context where it starts, and records
the types that the judgement returns. -/
def Derives (step : Check α) (judgement : Registry → Context → α → List Ty → Prop) : Prop :=
  ∀ ⦃c : Checker⦄ ⦃r : Registry⦄ ⦃Γ : Context⦄, c.Sees r Γ → Silent step c →
    ∃ returned, judgement r Γ (result step c) returned ∧ c.Returns returned (after step c)

/-- As `Derives`, for a step that leaves another context. -/
def DerivesBehind (step : Check α)
    (judgement : Registry → Context → α → Context → List Ty → Prop) : Prop :=
  ∀ ⦃c : Checker⦄ ⦃r : Registry⦄ ⦃Γ : Context⦄, c.Sees r Γ → Silent step c →
    ∃ Γ' returned, judgement r Γ (result step c) Γ' returned ∧ (after step c).Sees r Γ' ∧
      c.Returns returned (after step c)

/-! Literals and updates of declared types. -/

/-- Reports on the payload of an enum literal, if there is one. -/
def settlePayload (enum variant : String) (declared : Option Payload) :
    Option Operand → Check Unit
  | none => pure ()
  | some operand => settle (Rules.payloadValue enum variant declared operand)

instance (enum variant : String) (declared : Option Payload) (operand : Option Operand) :
    Accumulates (settlePayload enum variant declared operand) := by
  cases operand <;> unfold settlePayload <;> infer_instance

/-- The visit of a literal of a declared variant. -/
theorem visitVariant_eq {enum variant : String} {field : Option String} {payload : Option Expr}
    {span : Span} {c : Checker} {declared : Option Payload}
    (found : c.registry.variant? enum variant = some declared) :
    result (visitExpr (.variant enum variant field payload span)) c = .value (.enum enum) ∧
      after (visitExpr (.variant enum variant field payload span)) c =
        after (do
          settle (Rules.payloadPresence variant declared payload.isSome span)
          let operand ← visitOptional payload
          settlePayload enum variant declared operand) c := by
  rcases Option.bind_eq_some_iff.mp found with ⟨variants, isEnum, isVariant⟩
  rw [visitExpr]
  simp only [result_bind, after_bind, result_registry, after_registry, isEnum, isVariant]
  cases result (visitOptional payload)
      (after (settle (Rules.payloadPresence variant declared payload.isSome span)) c) with
  | none => exact ⟨rfl, rfl⟩
  | some operand => exact ⟨rfl, rfl⟩

/-- A literal without an error names a declared variant. -/
theorem variant?_of_silent {enum variant : String} {field : Option String}
    {payload : Option Expr} {span : Span} {c : Checker}
    (silent : Silent (visitExpr (.variant enum variant field payload span)) c) :
    ∃ declared, c.registry.variant? enum variant = some declared := by
  rw [visitExpr] at silent
  cases isEnum : c.registry.enums.get? enum with
  | none =>
    have unknown : Silent (do
        error (.unknownEnum enum) (some span)
        let _ ← visitOptional payload
        pure (ExprOutcome.value .unknown)) c := by
      simpa [Silent, isEnum] using silent
    exact absurd unknown.split.1 Silent.not_error
  | some variants =>
    cases isVariant : variants.get? variant with
    | none =>
      have unknown : Silent (do
          error (.unknownVariant enum variant) (some span)
          let _ ← visitOptional payload
          pure (ExprOutcome.value (.enum enum))) c := by
        simpa [Silent, isEnum, isVariant] using silent
      exact absurd unknown.split.1 Silent.not_error
    | some declared =>
      refine ⟨declared, ?_⟩
      rw [Registry.variant?, isEnum, Option.bind_some, isVariant]

/-- An update without an error is one of a declared struct. -/
theorem struct_of_silent {target : Expr} {fields : List FieldInit} {span : Span} {c : Checker}
    (silent : Silent (visitExpr (.update target fields span)) c) :
    ∃ struct declared, (result (visitExpr target) c).ty = .struct struct ∧
      (after (visitExpr target) c).registry.structs.get? struct = some declared := by
  have reported (issue : Issue) : ¬ Silent (do
      let _ ← visitExpr target
      error issue (some span)
      visitFieldValues fields
      pure (ExprOutcome.value .unknown)) c := by
    intro silent
    have behind := silent.split.2
    exact absurd behind.split.1 Silent.not_error
  rw [visitExpr] at silent
  cases isStruct : (result (visitExpr target) c).ty with
  | struct struct =>
    cases found : (after (visitExpr target) c).registry.structs.get? struct with
    | none => exact absurd (by simpa [Silent, isStruct, found] using silent) (reported _)
    | some declared => exact ⟨struct, declared, rfl, found⟩
  | _ => exact absurd (by simpa [Silent, isStruct] using silent) (reported _)

theorem visitUpdate_eq {target : Expr} {fields : List FieldInit} {span : Span} {c : Checker}
    {struct : String} {declared : Fields}
    (isStruct : (result (visitExpr target) c).ty = .struct struct)
    (found : (after (visitExpr target) c).registry.structs.get? struct = some declared) :
    result (visitExpr (.update target fields span)) c = .value (.struct struct) ∧
      after (visitExpr (.update target fields span)) c =
        after (do let _ ← visitExpr target; visitFields struct declared [] fields) c := by
  rw [visitExpr]
  simp only [result_bind, after_bind, isStruct, result_registry, after_registry, found,
    result_pure, after_pure, and_self]

/-- A struct literal without an error is one of a declared struct. -/
theorem declared_of_silent {struct : String} {fields : List FieldInit} {span : Span} {c : Checker}
    (silent : Silent (visitExpr (.construct struct fields span)) c) :
    ∃ declared, c.registry.structs.get? struct = some declared := by
  rw [visitExpr] at silent
  cases found : c.registry.structs.get? struct with
  | none =>
    have unknown : Silent (do
        error (.unknownStruct struct) (some span)
        visitFieldValues fields
        pure (ExprOutcome.value .unknown)) c := by
      simpa [Silent, found] using silent
    exact absurd unknown.split.1 Silent.not_error
  | some declared => exact ⟨declared, rfl⟩

theorem visitConstruct_eq {struct : String} {fields : List FieldInit} {span : Span} {c : Checker}
    {declared : Fields} (found : c.registry.structs.get? struct = some declared) :
    result (visitExpr (.construct struct fields span)) c = .value (.struct struct) ∧
      after (visitExpr (.construct struct fields span)) c =
        after (do
          visitFields struct declared [] fields
          settle (Rules.missingFields struct declared (fields.map FieldInit.name) span)) c := by
  rw [visitExpr]
  simp only [result_bind, after_bind, result_registry, after_registry, found, result_pure,
    after_pure, and_self]

/-- Field names that are declared, distinct and complete are a permutation of the declared ones. -/
theorem perm_of_complete {names : List String} {declared : Fields} (distinct : names.Nodup)
    (known : ∀ name ∈ names, declared.contains name = true)
    (complete : ∀ name ∈ declared.keys, name ∈ names) : names.Perm declared.keys := by
  rw [List.perm_ext_iff_of_nodup distinct declared.keys_nodup]
  exact fun name => ⟨fun given => (declared.contains_iff name).mp (known name given), complete name⟩

theorem usable_of_silent {valued : Bool} {body : ExprOutcome} {span : Span} {c : Checker}
    (silent : Silent (settleArmValue valued body span) c) : valued = true → body.Usable := by
  rintro rfl
  have rule : Silent (settle (Rules.armValue body span)) c := silent
  exact Rules.armValue_clean rule.clean

/-! Blocks and functions. -/

/-- The returns of a block are those that were recorded since it was entered. -/
theorem returns_visitBlock_eq (valued : Bool) (b : Block) (c : Checker) :
    (result (visitBlock valued b) c).returns =
      ((after (visitBlock valued b) c).frames.head?.map fun frame =>
        frame.returns.drop (result returnsSeen c)).getD [] := by
  rcases b with ⟨body, span⟩
  have opened : (after enterScope c).frames = c.frames := rfl
  rw [visitBlock]
  simp only [result_bind, result_pure, after_bind, after_pure, after_returnsSeen,
    result_returnsSince, frames_returnsSince, frames_exitScope, result_returnsSeen, frames_hoist,
    opened]

/-- Inside a function, a block yields the types that its visit records. -/
theorem returns_visitBlock {valued : Bool} {b : Block} {c : Checker} {returned : List Ty}
    (inside : c.frames ≠ []) (returns : c.Returns returned (after (visitBlock valued b) c)) :
    (result (visitBlock valued b) c).returns = returned := by
  rw [returns_visitBlock_eq, returns.frames, result_returnsSeen]
  cases entered : c.frames with
  | nil => exact absurd entered inside
  | cons frame rest => simp

/-- A statement whose value is not used tells no type. -/
theorem ty_visitStmt_unused (topLevel : Bool) (stmt : Stmt) (c : Checker) :
    (result (visitStmt ⟨topLevel, false⟩ stmt) c).ty = none := by
  cases stmt with
  | returns value span =>
    rw [visitStmt]
    cases entered : c.frames.head? <;> simp [entered]
  | expr value span =>
    rw [visitStmt]
    cases value.isEffectful <;> simp
  | _ => rw [visitStmt]; rfl

/-- A `return` without an error stands in a function. -/
theorem inside_of_silent {place : Place} {value : Option Expr} {span : Span} {c : Checker}
    (silent : Silent (visitStmt place (.returns value span)) c) :
    ∃ frame, c.frames.head? = some frame := by
  rw [visitStmt] at silent
  cases entered : c.frames.head? with
  | none =>
    have outside : Silent (do
        error .returnOutsideFunction (some span)
        let _ ← visitOptional value
        pure (⟨true, none⟩ : StmtOutcome)) c := by
      simpa [Silent, entered] using silent
    exact absurd outside.split.1 Silent.not_error
  | some frame => exact ⟨frame, rfl⟩

theorem visitReturn_eq {place : Place} {value : Option Expr} {span : Span} {c : Checker}
    {frame : Frame} (entered : c.frames.head? = some frame) :
    result (visitStmt place (.returns value span)) c = { alwaysReturns := true } ∧
      after (visitStmt place (.returns value span)) c =
        after (do
          let operand ← visitOptional value
          let ty ← settle (Rules.returned frame.expected operand span)
          recordReturn ty) c := by
  rw [visitStmt]
  simp only [result_bind, after_bind, result_frame?, after_frame?, entered, result_pure, after_pure,
    and_self]

theorem denotes_of_resolveParams {r : Registry} {params : List Param}
    (clean : (resolveParams r params).errorCount = 0) :
    List.Forall₂ (fun param ty => r.Denotes param.ascription ty) params
      (resolveParams r params).value := by
  induction params with
  | nil => exact .nil
  | cons param rest ih =>
    simp only [resolveParams, Reported.errorCount_bind, Reported.errorCount_pure,
      Nat.add_eq_zero_iff] at clean
    exact .cons (Registry.denotes_of_resolve clean.1) (ih clean.2.1)

/-- A function whose written types are not reported on. -/
theorem denotes_of_openFunction {signature : Signature} {topLevel : Bool} {c : Checker}
    (silent : Silent (openFunction signature topLevel) c) :
    List.Forall₂ (fun param ty => c.registry.Denotes param.ascription ty) signature.params
        (signature.paramTypes c.registry) ∧
      ∀ ty, signature.declaredResult c.registry = some ty →
        c.registry.Denotes signature.result ty := by
  rw [openFunction] at silent
  rcases silent.split with ⟨_, silent⟩
  rcases silent.split with ⟨_, silent⟩
  rcases silent.split with ⟨params, silent⟩
  rcases silent.split with ⟨written, _⟩
  constructor
  · have denotes := denotes_of_resolveParams params.clean
    rw [value_resolveParams] at denotes
    exact denotes
  · intro ty declared
    rcases Option.map_eq_some_iff.mp declared with ⟨_, _, rfl⟩
    exact Registry.denotes_of_resolve written.clean

theorem results_of_closeFunction {signature : Signature} {expected : Option Ty}
    {body : BlockOutcome} {c : Checker}
    (silent : Silent (closeFunction signature expected body) c) :
    Rules.Results body expected
      (Rules.functionResult signature.name expected body signature.span).value := by
  rw [closeFunction] at silent
  rcases silent.split with ⟨_, silent⟩
  exact Rules.results_of_functionResult silent.split.1.clean

/-! The visits. -/

mutual

theorem visitExpr_typed : (e : Expr) → Derives (visitExpr e) (ExprTyped · · e)
  | .identifier name span => by
    intro c r Γ sees silent
    rw [visitExpr] at silent ⊢
    have used := silent.split.1
    cases bound : c.environment.lookup? name with
    | none =>
      rw [Silent, (useName_of_unbound bound _).2] at used
      exact absurd used Silent.not_error
    | some binding =>
      simp only [result_bind, after_bind, result_pure, after_pure]
      rw [(useName_of_bound bound _).1, (useName_of_bound bound _).2]
      refine ⟨[], .identifier ?_, .none rfl⟩
      rw [sees.types, bound]
      rfl
  | .int .. => by intro c r Γ sees silent; rw [visitExpr]; exact ⟨[], .int, .none rfl⟩
  | .string .. => by intro c r Γ sees silent; rw [visitExpr]; exact ⟨[], .string, .none rfl⟩
  | .bool .. => by intro c r Γ sees silent; rw [visitExpr]; exact ⟨[], .bool, .none rfl⟩
  | .interpolated parts raw span => by
    intro c r Γ sees silent
    rw [visitExpr] at silent ⊢
    rcases visitParts_typed parts sees silent.split.1 with
      ⟨returned, typed, returns⟩
    exact ⟨returned, .interpolated typed, returns⟩
  | .binary op left right span => by
    intro c r Γ sees silent
    rw [visitExpr] at silent ⊢
    rcases silent.split with ⟨first, silent⟩
    rcases silent.split with ⟨second, silent⟩
    rcases silent.split with ⟨rule, _⟩
    rcases visitExpr_typed left sees first with ⟨before, leftTyped, leftReturns⟩
    rcases visitExpr_typed right (sees.keep (visitExpr_keeps left c)) second with
      ⟨behind, rightTyped, rightReturns⟩
    exact ⟨before ++ behind, .binary leftTyped rightTyped (Rules.operates_of_binary rule.clean),
      leftReturns.trans rightReturns⟩
  | .unary op operand span => by
    intro c r Γ sees silent
    rw [visitExpr] at silent ⊢
    rcases silent.split with ⟨inner, silent⟩
    rcases silent.split with ⟨rule, _⟩
    rcases visitExpr_typed operand sees inner with ⟨returned, typed, returns⟩
    exact ⟨returned, .unary typed (Rules.negates_of_unary rule.clean), returns⟩
  | .call callee args span => by
    intro c r Γ sees silent
    rw [visitExpr] at silent ⊢
    rcases silent.split with ⟨first, silent⟩
    rcases silent.split with ⟨second, silent⟩
    rcases silent.split with ⟨rule, _⟩
    rcases visitExpr_typed callee sees first with ⟨before, calleeTyped, calleeReturns⟩
    rcases visitArgs_typed args (sees.keep (visitExpr_keeps callee c)) second with
      ⟨behind, argsTyped, argsReturns⟩
    rcases Rules.fits_of_call rule.clean with ⟨params, result, isFunction, value, fits⟩
    simp only [result_bind, after_bind, result_settle, result_pure, value]
    exact ⟨before ++ behind, .call calleeTyped isFunction argsTyped fits,
      calleeReturns.trans argsReturns⟩
  | .conditional k => by
    intro c r Γ sees silent
    rw [visitExpr] at silent ⊢
    rcases visitConditional_typed k sees silent with ⟨returned, typed, returns⟩
    exact ⟨returned, .conditional typed, returns⟩
  | .matching m => by
    intro c r Γ sees silent
    rw [visitExpr] at silent ⊢
    rcases silent.split with ⟨inner, silent⟩
    rcases silent.split with ⟨rule, _⟩
    rcases visitMatch_typed true m sees inner with ⟨returned, typed, returns⟩
    exact ⟨returned, .matching typed (by simpa using rule.clean), returns⟩
  | .construct struct fields span => by
    intro c r Γ sees silent
    rcases declared_of_silent silent with ⟨declared, found⟩
    rw [Silent, (visitConstruct_eq found).2] at silent
    rw [(visitConstruct_eq found).1, (visitConstruct_eq found).2]
    rcases Silent.split silent with ⟨inner, rule⟩
    rcases visitFields_typed struct declared [] fields sees inner with
      ⟨returned, ⟨typed, distinct, known⟩, returns⟩
    rw [sees.registry] at found
    have complete := perm_of_complete distinct (fun name given => (known name given).2)
      (Rules.missingFields_clean rule.clean)
    exact ⟨returned, .construct found typed complete, returns⟩
  | .update target fields span => by
    intro c r Γ sees silent
    rcases struct_of_silent silent with ⟨struct, declared, isStruct, found⟩
    rw [Silent, (visitUpdate_eq isStruct found).2] at silent
    rw [(visitUpdate_eq isStruct found).1, (visitUpdate_eq isStruct found).2]
    rcases Silent.split silent with ⟨first, second⟩
    have seesTarget := sees.keep (visitExpr_keeps target c)
    rcases visitExpr_typed target sees first with ⟨before, targetTyped, targetReturns⟩
    rcases visitFields_typed struct declared [] fields seesTarget second with
      ⟨behind, ⟨typed, distinct, _⟩, fieldsReturn⟩
    rw [seesTarget.registry] at found
    exact ⟨before ++ behind, .update targetTyped isStruct found typed distinct,
      targetReturns.trans fieldsReturn⟩
  | .variant enum variant field none span => by
    intro c r Γ sees silent
    rcases variant?_of_silent silent with ⟨declared, found⟩
    rw [Silent, (visitVariant_eq found).2, visitOptional] at silent
    rw [(visitVariant_eq found).1, (visitVariant_eq found).2, visitOptional]
    rcases Silent.split silent with ⟨presence, _⟩
    have absent := Rules.payloadPresence_clean presence.clean
    rw [sees.registry] at found
    cases declared with
    | none => exact ⟨[], .plain found, .none rfl⟩
    | some payload => cases absent
  | .variant enum variant field (some value) span => by
    intro c r Γ sees silent
    rcases variant?_of_silent silent with ⟨declared, found⟩
    rw [Silent, (visitVariant_eq found).2, visitOptional] at silent
    rw [(visitVariant_eq found).1, (visitVariant_eq found).2, visitOptional]
    rcases Silent.split silent with ⟨presence, silent⟩
    rcases Silent.split silent with ⟨inner, rule⟩
    rcases inner.split with ⟨inner, _⟩
    have present := Rules.payloadPresence_clean presence.clean
    rcases visitExpr_typed value (sees.settle _) inner with ⟨returned, typed, returns⟩
    rw [sees.registry] at found
    cases declared with
    | none => cases present
    | some payload =>
      have fits := Rules.payloadValue_clean rule.clean
      exact ⟨returned, .carrying found typed fits.1 fits.2, returns⟩
  | .block b => by
    intro c r Γ sees silent
    rw [visitExpr] at silent ⊢
    rcases visitBlock_typed true b sees silent.split.1 with
      ⟨returned, typed, returns⟩
    exact ⟨returned, .block typed, returns⟩

theorem visitParts_typed : (parts : List Part) →
    Derives (visitParts parts) (fun r Γ _ => PartsTyped r Γ parts)
  | [] => by intro c r Γ sees silent; rw [visitParts]; exact ⟨[], .nil, .none rfl⟩
  | .text .. :: rest => by
    intro c r Γ sees silent
    rw [visitParts] at silent ⊢
    rcases visitParts_typed rest sees silent with ⟨returned, typed, returns⟩
    exact ⟨returned, .text typed, returns⟩
  | .embedded e span :: rest => by
    intro c r Γ sees silent
    rw [visitParts] at silent ⊢
    rcases silent.split with ⟨first, silent⟩
    rcases silent.split with ⟨rule, more⟩
    rcases visitExpr_typed e sees first with ⟨before, typed, returns⟩
    rcases visitParts_typed rest ((sees.keep (visitExpr_keeps e c)).settle _) more with
      ⟨behind, restTyped, restReturns⟩
    exact ⟨before ++ behind, .embedded typed (by simpa using rule.clean) restTyped,
      returns.trans restReturns⟩

theorem visitArgs_typed : (args : List Expr) →
    Derives (visitArgs args) (fun r Γ operands => ArgsTyped r Γ args (operands.map Operand.ty))
  | [] => by intro c r Γ sees silent; rw [visitArgs]; exact ⟨[], .nil, .none rfl⟩
  | e :: rest => by
    intro c r Γ sees silent
    rw [visitArgs] at silent ⊢
    rcases silent.split with ⟨first, silent⟩
    rcases silent.split with ⟨more, _⟩
    rcases visitExpr_typed e sees first with ⟨before, typed, returns⟩
    rcases visitArgs_typed rest (sees.keep (visitExpr_keeps e c)) more with
      ⟨behind, restTyped, restReturns⟩
    exact ⟨before ++ behind, .cons typed restTyped, returns.trans restReturns⟩

theorem visitPrinted_typed : (args : List Expr) →
    Derives (visitPrinted args) (fun r Γ _ => PrintedTyped r Γ args)
  | [] => by intro c r Γ sees silent; rw [visitPrinted]; exact ⟨[], .nil, .none rfl⟩
  | e :: rest => by
    intro c r Γ sees silent
    rw [visitPrinted] at silent ⊢
    rcases silent.split with ⟨first, silent⟩
    rcases silent.split with ⟨rule, more⟩
    rcases visitExpr_typed e sees first with ⟨before, typed, returns⟩
    rcases visitPrinted_typed rest ((sees.keep (visitExpr_keeps e c)).settle _) more with
      ⟨behind, restTyped, restReturns⟩
    exact ⟨before ++ behind, .cons typed (by simpa using rule.clean) restTyped,
      returns.trans restReturns⟩

theorem visitFields_typed (struct : String) (declared : Fields) (given : List String) :
    (fields : List FieldInit) → Derives (visitFields struct declared given fields)
      (fun r Γ _ returned => FieldsTyped r Γ declared fields returned ∧
        (fields.map FieldInit.name).Nodup ∧
        ∀ name ∈ fields.map FieldInit.name, name ∉ given ∧ declared.contains name = true)
  | [] => by
    intro c r Γ sees silent
    rw [visitFields]
    exact ⟨[], ⟨.nil, List.nodup_nil, by simp⟩, .none rfl⟩
  | ⟨name, value, span⟩ :: rest => by
    intro c r Γ sees silent
    rw [visitFields] at silent ⊢
    rcases silent.split with ⟨naming, silent⟩
    rcases silent.split with ⟨first, silent⟩
    rcases silent.split with ⟨rule, more⟩
    rcases Rules.fieldName_clean naming.clean with ⟨known, fresh⟩
    have stored : (declared.get? name).isSome = true := by rw [Table.isSome_get?, known]
    rcases Option.isSome_iff_exists.mp stored with ⟨ty, isField⟩
    have fits := Rules.fieldValue_clean isField rule.clean
    have seesValue := (sees.settle (Rules.fieldName struct declared given name span)).keep
      (visitExpr_keeps value _)
    rcases visitExpr_typed value (sees.settle _) first with ⟨before, typed, returns⟩
    rcases visitFields_typed struct declared (name :: given) rest (seesValue.settle _) more with
      ⟨behind, ⟨restTyped, distinct, others⟩, restReturns⟩
    have unrepeated : name ∉ rest.map FieldInit.name := fun again =>
      (others name again).1 List.mem_cons_self
    refine ⟨before ++ behind, ⟨.cons typed isField fits.1 fits.2 restTyped,
      List.nodup_cons.mpr ⟨unrepeated, distinct⟩, ?_⟩, returns.trans restReturns⟩
    refine List.forall_mem_cons.mpr ⟨⟨fresh, known⟩, fun other member => ?_⟩
    have apart := (others other member).1
    exact ⟨fun before => apart (List.mem_cons_of_mem _ before), (others other member).2⟩

theorem visitConditional_typed : (k : Conditional) →
    Derives (visitConditional k) (ConditionalTyped · · k)
  | ⟨initializer, condition, consequence, alternative, span⟩ => by
    intro c r Γ sees silent
    rw [visitConditional_eq] at silent ⊢
    rcases silent.split with ⟨start, silent⟩
    rcases silent.split with ⟨silent, _⟩
    rcases silent.split with ⟨first, silent⟩
    rcases silent.split with ⟨condRule, silent⟩
    rcases silent.split with ⟨second, silent⟩
    rcases silent.split with ⟨firstRule, silent⟩
    rcases silent.split with ⟨third, silent⟩
    rcases silent.split with ⟨secondRule, joining⟩
    rcases visitInitializer_typed initializer sees start with
      ⟨Γ', before, initialized, seesInside, startReturns⟩
    rcases visitExpr_typed condition seesInside first with ⟨test, conditionTyped, testReturns⟩
    have seesTest := (seesInside.keep (visitExpr_keeps condition _)).settle
      (Rules.condition ⟨(result (visitExpr condition) (after (visitInitializer initializer) c)).ty,
        condition.span⟩)
    rcases visitBlock_typed true consequence seesTest second with
      ⟨one, consequenceTyped, consequenceReturns⟩
    have seesOne := seesTest.keep (visitBlock_keeps true consequence _)
    rcases visitOtherwise_typed alternative (seesOne.settle _) third with
      ⟨two, alternativeTyped, alternativeReturns⟩
    have joined := Rules.joined_of_branches joining.clean
    refine ⟨before ++ (test ++ (one ++ two)), .mk initialized conditionTyped
      (Rules.condition_clean condRule.clean) consequenceTyped
      ((Rules.requireBranchValue_clean _ _ _).mp firstRule.clean) alternativeTyped
      ((Rules.requireBranchValue_clean _ _ _).mp secondRule.clean) joined.1 joined.2, ?_⟩
    have branches := consequenceReturns.trans alternativeReturns
    have inside := startReturns.trans (testReturns.trans branches)
    refine inside.keep ?_
    cases initializer with
    | none => rfl
    | some decl => exact frames_exitScope _

theorem visitInitializer_typed : (decl : Option VarDecl) →
    DerivesBehind (visitInitializer decl) (fun r Γ _ => InitializerTyped r Γ decl)
  | none => by
    intro c r Γ sees silent
    rw [visitInitializer]
    exact ⟨Γ, [], .none, sees, .none rfl⟩
  | some decl => by
    intro c r Γ sees silent
    rw [visitInitializer] at silent ⊢
    rcases silent.split with ⟨_, silent⟩
    rcases visitVar_typed Flags.inner decl sees.enterScope silent with
      ⟨Γ', returned, typed, behind, returns⟩
    exact ⟨Γ', returned, .some typed, behind, returns⟩

theorem visitOtherwise_typed : (alternative : Otherwise) →
    Derives (visitOtherwise alternative) (OtherwiseTyped · · alternative)
  | .block b => by
    intro c r Γ sees silent
    rw [visitOtherwise] at silent ⊢
    rcases visitBlock_typed true b sees silent.split.1 with
      ⟨returned, typed, returns⟩
    exact ⟨returned, .block typed, returns⟩
  | .elseIf k => by
    intro c r Γ sees silent
    rw [visitOtherwise] at silent ⊢
    rcases visitConditional_typed k sees silent with ⟨returned, typed, returns⟩
    exact ⟨returned, .elseIf typed, returns⟩

theorem visitMatch_typed (valued : Bool) : (m : Match) →
    Derives (visitMatch valued m) (MatchTyped · · valued m)
  | ⟨value, arms, span⟩ => by
    intro c r Γ sees silent
    rw [visitMatch] at silent ⊢
    rcases silent.split with ⟨first, silent⟩
    rcases silent.split with ⟨_, silent⟩
    rcases silent.split with ⟨_, silent⟩
    rcases silent.split with ⟨_, silent⟩
    rcases silent.split with ⟨second, joining⟩
    rcases visitExpr_typed value sees first with ⟨before, valueTyped, valueReturns⟩
    have seesValue := sees.keep (visitExpr_keeps value c)
    simp only [after_matchedEnum?] at second joining
    rcases visitArms_typed valued _ arms (seesValue.report _) second with
      ⟨behind, armsTyped, armsReturn⟩
    simp only [result_bind, after_bind, after_matchedEnum?]
    exact ⟨before ++ behind, .mk valueTyped armsTyped (Rules.joined_of_arms joining.clean),
      valueReturns.trans armsReturn⟩

theorem visitArms_typed (valued : Bool) (enum? : Option String) : (arms : List Arm) →
    Derives (visitArms valued enum? arms) (ArmsTyped · · valued arms)
  | [] => by intro c r Γ sees silent; rw [visitArms]; exact ⟨[], .nil, .none rfl⟩
  | arm :: rest => by
    intro c r Γ sees silent
    rw [visitArms] at silent ⊢
    rcases silent.split with ⟨first, silent⟩
    rcases silent.split with ⟨more, _⟩
    rcases visitArm_typed valued enum? arm sees first with ⟨before, typed, returns⟩
    rcases visitArms_typed valued enum? rest (sees.keep (visitArm_keeps valued enum? arm c)) more
      with ⟨behind, restTyped, restReturns⟩
    exact ⟨before ++ behind, .cons typed restTyped, returns.trans restReturns⟩

theorem visitArm_typed (valued : Bool) (enum? : Option String) : (arm : Arm) →
    Derives (visitArm valued enum? arm) (ArmTyped · · valued arm)
  | ⟨pattern, none, body, span⟩ => by
    intro c r Γ sees silent
    rw [visitArm_eq] at silent ⊢
    rcases silent.split with ⟨_, silent⟩
    rcases silent.split with ⟨silent, _⟩
    rw [visitArmParts, visitOptional] at silent
    rcases silent.split with ⟨first, silent⟩
    rcases silent.split with ⟨_, silent⟩
    rcases silent.split with ⟨_, silent⟩
    rcases silent.split with ⟨second, silent⟩
    rcases silent.split with ⟨rule, _⟩
    rcases visitPattern_typed enum? pattern sees.enterScope first with
      ⟨Γ', before, patternTyped, seesInside, patternReturns⟩
    rcases visitExpr_typed body seesInside second with ⟨behind, bodyTyped, bodyReturns⟩
    rw [visitArmParts, visitOptional]
    refine ⟨before ++ behind, .unguarded patternTyped bodyTyped (usable_of_silent rule), ?_⟩
    refine (patternReturns.trans bodyReturns).keep ?_
    simp only [after_bind, after_pure, frames_exitScope, frames_settleArmValue]
    rfl
  | ⟨pattern, some guard, body, span⟩ => by
    intro c r Γ sees silent
    rw [visitArm_eq] at silent ⊢
    rcases silent.split with ⟨_, silent⟩
    rcases silent.split with ⟨silent, _⟩
    rw [visitArmParts, visitOptional] at silent
    rcases silent.split with ⟨first, silent⟩
    rcases silent.split with ⟨second, silent⟩
    rcases silent.split with ⟨guardRule, silent⟩
    rcases silent.split with ⟨third, silent⟩
    rcases silent.split with ⟨rule, _⟩
    rcases visitPattern_typed enum? pattern sees.enterScope first with
      ⟨Γ', before, patternTyped, seesInside, patternReturns⟩
    rcases visitExpr_typed guard seesInside second.split.1 with ⟨test, guardTyped, guardReturns⟩
    have seesTest := (seesInside.keep (visitExpr_keeps guard _)).settle
      (Rules.guard ⟨(result (visitExpr guard)
        (after (visitPattern enum? pattern) (after enterScope c))).ty, guard.span⟩)
    rcases visitExpr_typed body seesTest third with ⟨behind, bodyTyped, bodyReturns⟩
    have guards : Silent (settle (Rules.guard _)) _ := guardRule
    rw [visitArmParts, visitOptional]
    refine ⟨before ++ (test ++ behind), .guarded patternTyped guardTyped
      (Rules.guard_clean guards.clean) bodyTyped (usable_of_silent rule), ?_⟩
    refine (patternReturns.trans (guardReturns.trans bodyReturns)).keep ?_
    simp only [after_bind, after_pure, frames_exitScope, frames_settleArmValue]
    rfl

theorem visitPattern_typed (enum? : Option String) : (pattern : Pattern) →
    DerivesBehind (visitPattern enum? pattern) (fun r Γ _ => PatternTyped r Γ pattern)
  | .wildcard span => by
    intro c r Γ sees silent
    rw [visitPattern]
    exact ⟨Γ, [], .wildcard, sees, .none rfl⟩
  | .literal value span => by
    intro c r Γ sees silent
    rw [visitPattern] at silent ⊢
    rcases visitExpr_typed value sees silent.split.1 with ⟨returned, typed, returns⟩
    exact ⟨Γ, returned, .literal typed, sees.keep (visitExpr_keeps value c), returns⟩
  | .variant enum variant field none span => by
    intro c r Γ sees silent
    rw [visitPattern, bindVariant] at silent ⊢
    rcases silent.split with ⟨_, silent⟩
    rcases silent.split with ⟨rule, _⟩
    rcases (Arms.bindingType_clean rule.clean).2 with ⟨payload, declared, _⟩
    rw [result_registry, sees.registry] at declared
    exact ⟨Γ, [], .plain declared, sees.settle _, .none rfl⟩
  | .variant enum variant field (some name) span => by
    intro c r Γ sees silent
    rw [visitPattern, bindVariant] at silent ⊢
    rcases silent.split with ⟨_, silent⟩
    rcases silent.split with ⟨rule, _⟩
    rcases (Arms.bindingType_clean rule.clean).2 with ⟨payload, declared, binds⟩
    rcases binds rfl with ⟨carried, rfl, isCarried⟩
    rw [result_registry, sees.registry] at declared
    have behind := (sees.settle (Arms.bindingType c.registry enum? enum variant true span)).declare
      name (Binding.declared (Arms.bindingType c.registry enum? enum variant true span).value
        Flags.inner (some span))
    refine ⟨Γ.bind name carried.type, [], .binding declared, ?_, .none rfl⟩
    rw [← isCarried]
    exact behind

theorem visitBlock_typed (valued : Bool) : (b : Block) →
    Derives (visitBlock valued b) (fun r Γ outcome returned =>
      BlockTyped r Γ valued b ⟨outcome.ty, outcome.alwaysReturns, returned⟩)
  | ⟨body, span⟩ => by
    intro c r Γ sees silent
    rw [visitBlock] at silent ⊢
    rcases silent.split with ⟨_, silent⟩
    rcases silent.split with ⟨_, silent⟩
    rcases silent.split with ⟨_, silent⟩
    rcases silent.split with ⟨inner, silent⟩
    rcases visitStmts_typed valued body (sees.enterScope.hoist false body) inner with
      ⟨returned, typed, returns⟩
    refine ⟨returned, .mk typed, ?_⟩
    simpa [Checker.Returns] using returns

theorem visitStmts_typed (valued : Bool) : (stmts : List Stmt) →
    Derives (visitStmts valued {} stmts) (fun r Γ progress =>
      StmtsTyped r Γ valued stmts ⟨progress.ty, progress.alwaysReturns⟩)
  | [] => by intro c r Γ sees silent; rw [visitStmts]; exact ⟨[], .nil, .none rfl⟩
  | [stmt] => by
    intro c r Γ sees silent
    rw [visitStmts_live, List.isEmpty_nil, Bool.and_true] at silent ⊢
    rcases visitStmt_typed ⟨false, valued⟩ stmt sees silent.split.1 with
      ⟨Γ', returned, typed, _, returns⟩
    rw [result_bind, after_bind, visitStmts]
    exact ⟨returned, .last typed, returns⟩
  | stmt :: next :: rest => by
    intro c r Γ sees silent
    rw [visitStmts_live, List.isEmpty_cons, Bool.and_false] at silent ⊢
    rcases silent.split with ⟨first, more⟩
    rcases visitStmt_typed ⟨false, false⟩ stmt sees first with
      ⟨Γ', before, typed, seesBehind, returns⟩
    have unused := ty_visitStmt_unused false stmt c
    -- The next statement would be reported if this one always returned.
    have goesOn : (result (visitStmt ⟨false, false⟩ stmt) c).alwaysReturns = false := by
      cases returning : (result (visitStmt ⟨false, false⟩ stmt) c).alwaysReturns with
      | false => rfl
      | true =>
        rw [returning] at more
        exact absurd more not_silent_dead
    simp only [result_bind, after_bind, unused, goesOn, Option.getD_none] at more ⊢
    rcases visitStmts_typed valued (next :: rest) seesBehind more with
      ⟨behind, restTyped, restReturns⟩
    exact ⟨before ++ behind, .cons typed goesOn restTyped, returns.trans restReturns⟩

theorem visitStmt_typed (place : Place) : (stmt : Stmt) →
    DerivesBehind (visitStmt place stmt) (fun r Γ outcome => StmtTyped r Γ place stmt outcome)
  | .struct _ => by
    intro c r Γ sees silent
    rw [visitStmt]
    exact ⟨Γ, [], .struct, sees, .none rfl⟩
  | .enum _ => by
    intro c r Γ sees silent
    rw [visitStmt]
    exact ⟨Γ, [], .enum, sees, .none rfl⟩
  | .imports i => by
    intro c r Γ sees silent
    rw [visitStmt]
    exact ⟨_, [], .imports, sees.declareImports place.topLevel i.span i.names,
      .none (frames_declareImports _ _ _ _)⟩
  | .var decl => by
    intro c r Γ sees silent
    rw [visitStmt] at silent ⊢
    rcases visitVar_typed _ decl sees silent.split.1 with ⟨Γ', returned, typed, behind, returns⟩
    exact ⟨Γ', returned, .var typed, behind, returns⟩
  | .function signature body => by
    intro c r Γ sees silent
    rw [visitStmt] at silent ⊢
    rcases silent.split with ⟨opening, silent⟩
    rcases silent.split with ⟨inner, silent⟩
    rcases silent.split with ⟨closing, _⟩
    rcases denotes_of_openFunction opening with ⟨paramTypes, resultType⟩
    have same := sees.registry
    subst same
    rw [result_openFunction] at inner closing
    rcases visitBlock_typed _ body (sees.openFunction signature place.topLevel) inner with
      ⟨returned, bodyTyped, returns⟩
    have visited := visitBlock_keeps (signature.declaredResult c.registry).isNone body
      (after (openFunction signature place.topLevel) c)
    have inside : (after (openFunction signature place.topLevel) c).frames ≠ [] := by
      rw [frames_openFunction]
      exact List.cons_ne_nil _ _
    -- The result of the function is told by the types that its frame has recorded.
    have recorded := returns_visitBlock inside returns
    have results := results_of_closeFunction closing
    have isDeclared : (signature.declaredResult c.registry).isSome = signature.result.isSome := by
      simp [Signature.declaredResult]
    have behind := sees.closeFunction visited (signature.declaredResult c.registry)
      (result (visitBlock (signature.declaredResult c.registry).isNone body)
        (after (openFunction signature place.topLevel) c))
    rw [← recorded] at bodyTyped
    simp only [result_bind, after_bind, result_openFunction, result_pure, after_pure]
    refine ⟨_, [], .function paramTypes resultType isDeclared bodyTyped results, behind, .none ?_⟩
    rw [frames_closeFunction, returns.frames, frames_openFunction]
    rfl
  | .print _ args _ => by
    intro c r Γ sees silent
    rw [visitStmt] at silent ⊢
    rcases visitPrinted_typed args sees silent.split.1 with ⟨returned, typed, returns⟩
    exact ⟨Γ, returned, .print typed, sees.keep (visitPrinted_keeps args c), returns⟩
  | .returns none span => by
    intro c r Γ sees silent
    rcases inside_of_silent silent with ⟨frame, entered⟩
    rw [Silent, (visitReturn_eq entered).2, visitOptional] at silent
    rw [(visitReturn_eq entered).1, (visitReturn_eq entered).2, visitOptional]
    rcases Silent.split silent with ⟨_, silent⟩
    have fits := (Rules.returned_clean silent.split.1.clean).2
    rw [Rules.value_returned] at fits
    have isInside : Γ.function = some frame.expected := by rw [sees.function, entered]; rfl
    have kept : (after (visitStmt place (.returns none span)) c).Sees r Γ :=
      sees.keep (visitStmt_declares place (.returns none span) c)
    refine ⟨Γ, [.unit], .returns isInside fits, ?_, ?_⟩
    · rwa [(visitReturn_eq entered).2, visitOptional] at kept
    · simp only [after_bind, result_settle, Rules.value_returned]
      refine Checker.Returns.recordReturn (?_ : c.Returns [] _) ?_
      · exact .none rfl
      · rw [entered]
        rintro _ ⟨rfl⟩
        exact fits
  | .returns (some value) span => by
    intro c r Γ sees silent
    rcases inside_of_silent silent with ⟨frame, entered⟩
    rw [Silent, (visitReturn_eq entered).2, visitOptional] at silent
    rw [(visitReturn_eq entered).1, (visitReturn_eq entered).2, visitOptional]
    rcases Silent.split silent with ⟨inner, silent⟩
    rcases Rules.returned_clean silent.split.1.clean with ⟨isValue, fits⟩
    rw [Rules.value_returned] at fits
    have isInside : Γ.function = some frame.expected := by rw [sees.function, entered]; rfl
    have kept : (after (visitStmt place (.returns (some value) span)) c).Sees r Γ :=
      sees.keep (visitStmt_declares place (.returns (some value) span) c)
    rcases visitExpr_typed value sees inner.split.1 with ⟨returned, typed, returns⟩
    refine ⟨Γ, returned ++ [(result (visitExpr value) c).ty],
      .returnsValue isInside typed (isValue _ rfl) fits, ?_, ?_⟩
    · rwa [(visitReturn_eq entered).2, visitOptional] at kept
    · simp only [after_bind, result_bind, result_settle, result_pure, Rules.value_returned,
        Option.map_some, Option.getD_some]
      refine Checker.Returns.recordReturn (?_ : c.Returns returned _) ?_
      · exact returns.keep rfl
      · rw [entered]
        rintro _ ⟨rfl⟩
        exact fits
  | .expr value span => by
    intro c r Γ sees silent
    rw [visitStmt] at silent ⊢
    by_cases needed : (place.valued || value.isEffectful) = true
    · rw [if_pos needed] at silent ⊢
      rcases visitExpr_typed value sees silent.split.1 with ⟨returned, typed, returns⟩
      exact ⟨Γ, returned, .expr (by simpa using needed) typed,
        sees.keep (visitExpr_keeps value c), returns⟩
    · rw [if_neg needed] at silent
      exact absurd silent.split.1 Silent.not_error

theorem visitVar_typed (flags : Flags) : (decl : VarDecl) →
    DerivesBehind (visitVar flags decl) (fun r Γ _ => VarTyped r Γ decl)
  | ⟨name, mutable, none, value, exported, span⟩ => by
    intro c r Γ sees silent
    rw [visitVar_eq] at silent ⊢
    rcases silent.split with ⟨first, silent⟩
    rcases silent.split with ⟨_, silent⟩
    rcases silent.split with ⟨rule, _⟩
    rcases visitExpr_typed value sees first with ⟨returned, typed, returns⟩
    have isValue := Rules.variableType_inferred rule.clean
    have behind := ((sees.keep (visitExpr_keeps value c)).settle (Rules.variableType name none
      ⟨(result (visitExpr value) c).ty, value.span⟩ span)).declareVariable name
      (result (visitExpr value) c).ty flags (some span) value
    exact ⟨_, returned, .inferred typed isValue, behind, returns.keep (frames_tagLiteral _ _ _)⟩
  | ⟨name, mutable, some written, value, exported, span⟩ => by
    intro c r Γ sees silent
    rw [visitVar_eq] at silent ⊢
    rcases silent.split with ⟨first, silent⟩
    rcases silent.split with ⟨_, silent⟩
    rcases silent.split with ⟨rule, _⟩
    rcases visitExpr_typed value sees first with ⟨returned, typed, returns⟩
    have seesValue := sees.keep (visitExpr_keeps value c)
    rcases Rules.variableType_written rule.clean with ⟨isValue, resolved, fits⟩
    have denotes := Registry.denotes_of_resolve resolved
    rw [result_registry, seesValue.registry] at denotes fits
    have behind := (seesValue.settle (Rules.variableType name (some (r.resolve (some written)))
      ⟨(result (visitExpr value) c).ty, value.span⟩ span)).declareVariable name
      (r.resolve (some written)).value flags (some span) value
    refine ⟨_, returned, .written typed isValue denotes fits, ?_,
      returns.keep (frames_tagLiteral _ _ _)⟩
    rw [← seesValue.registry] at behind ⊢
    exact behind

end

theorem visitTopLevel_typed (stmts : List Stmt) {c : Checker} {r : Registry} {Γ : Context}
    (sees : c.Sees r Γ) (silent : Silent (visitTopLevel stmts) c) : TopLevelTyped r Γ stmts := by
  induction stmts generalizing c Γ with
  | nil => exact .nil
  | cons stmt rest ih =>
    rw [visitTopLevel] at silent
    rcases silent.split with ⟨first, more⟩
    rcases visitStmt_typed ⟨true, false⟩ stmt sees first with ⟨Γ', returned, typed, behind, _⟩
    exact .cons typed (ih behind more)

end Check

namespace Module

/-- The visit of a module starts with its functions in sight and nothing else. -/
theorem sees_visit (m : Module) (options : Options) :
    (m.visit options).start.Sees (m.checked options).registry
      (Context.empty.hoist (m.checked options).registry m.body) := by
  have same : (m.checked options).registry =
      (after (register m.body) (.fresh options)).registry := by
    have visits : m.Visits options (m.visit options) := .refl
    have kept := declares_hoist true m.body (after (register m.body) (.fresh options))
    exact (registry_eq_of_visits visits).trans kept.registry
  have registered : (after (register m.body) (.fresh options)).Sees (m.checked options).registry
      Context.empty := ⟨same.symm, rfl⟩
  exact registered.hoist true m.body

/-- A module without an error is well typed, from the context on in which its functions are in
sight and nothing else.  All of its expressions are visited, and whenever one is, it has the type
that the visit tells in the context of the visit. -/
theorem well_typed (m : Module) (options : Options)
    (accepted : Diagnostic.hasErrors (m.check options) = false) :
    TopLevelTyped (m.checked options).registry
        (Context.empty.hoist (m.checked options).registry m.body) m.body ∧
      (∀ e, Node.expr e ∈ Outline.ofModule m → ∃ c, m.Visits options ⟨.expr e, c⟩) ∧
      ∀ e c, m.Visits options ⟨.expr e, c⟩ → ∃ returned,
        ExprTyped (m.checked options).registry c.context e (result (visitExpr e) c) returned := by
  refine ⟨?_, ?_, ?_⟩
  · have silent : Silent (visitTopLevel m.body) (m.visit options).start :=
      silent_of_visits accepted .refl
    exact visitTopLevel_typed m.body (m.sees_visit options) silent
  · intro e member
    have inside : Node.expr e ∈ Outline.ofStmts m.body := by
      simpa [Outline.ofModule] using member
    exact covers_topLevel m.body e inside (m.visit options).start
  · intro e c visits
    have sees : c.Sees (m.checked options).registry c.context :=
      ⟨(registry_eq_of_visits visits).symm, rfl⟩
    rcases visitExpr_typed e sees (silent_of_visits accepted visits) with ⟨returned, typed, _⟩
    exact ⟨returned, typed⟩

/-- A call of a function ahead of its declaration. -/
theorem well_typed_call :
    let s := Span.null
    let call : Expr := .call (.identifier "twice" s) [.int 2 s] s
    let int : TypeExpr := .named "Int" s
    let twice : Stmt := .function ⟨"twice", [⟨"n", some int, s⟩], some int, false, s⟩
      ⟨[.returns (some (.binary .add (.identifier "n" s) (.identifier "n" s) s)) s], s⟩
    let m : Module := ⟨[.print false [call] s, twice]⟩
    Diagnostic.hasErrors (m.check {}) = false ∧ ∃ c, m.Visits {} ⟨.expr call, c⟩ ∧
      (result (visitExpr call) c).ty = .int ∧
      ∃ returned, ExprTyped (m.checked {}).registry c.context call (result (visitExpr call) c)
        returned := by
  intro s call int twice m
  have accepted : Diagnostic.hasErrors (m.check {}) = false := by decide +kernel
  have visits : m.Visits {} ⟨.expr call, _⟩ :=
    .tail (.tail (.tail .refl .first) .printed) .firstPrinted
  exact ⟨accepted, _, visits, by decide +kernel, (well_typed m {} accepted).2.2 _ _ visits⟩

end Module

end ModuleCheck
