import ModuleCheck.Proofs.Runs

namespace ModuleCheck

/-!
Properties that visits have because their steps have them.

A visit consults rules, reports what it sees by itself, looks up names and declared types, and
declares names in scopes that it opens and closes.  A property of all these steps that passes on
to two steps in a row is a property of every visit.  The recursion over the syntax that shows this
is made here once, for properties of three kinds at the same time.  A property may depend on the
scopes and functions that are open around a step.  It may tell which names a step declares in the
scope around it.  And it may tell something of the types that a step yields, provided that it is
told so of the types that the step is given.
-/

open Check

namespace Issue

/-- Whether a visit reports the issue by itself, without a rule. -/
def isDirect : Issue → Bool
  | unknownIdentifier _ | unreachableStatement | uselessExpression | returnOutsideFunction
  | unknownStruct _ | updateNonStruct _ | unknownEnum _ | unknownVariant .. => true
  | _ => false

end Issue

namespace Stmt

/-- The names that a statement declares in the scope around it. -/
def declaredNames : Stmt → List String
  | imports i => i.names
  | var decl => [decl.name]
  | function signature _ => [signature.name]
  | _ => []

end Stmt

namespace Pattern

/-- The name that a pattern binds. -/
def boundNames : Pattern → List String
  | variant _ _ _ binding _ => binding.toList
  | _ => []

end Pattern

/-- How many scopes and how many functions are open around a step of a visit. -/
structure Nesting where
  scopes : Nat
  functions : Nat

namespace Nesting

/-- One more scope is open. -/
abbrev inScope (l : Nesting) : Nesting := { l with scopes := l.scopes + 1 }

/-- One more function is open, with the scope of its parameters. -/
abbrev inFunction (l : Nesting) : Nesting := ⟨l.scopes + 1, l.functions + 1⟩

end Nesting

/-! The types in what steps yield. -/

namespace Fields

/-- The types of the fields of a struct. -/
def types (fields : Fields) : List Ty := fields.toList.map Prod.snd

theorem mem_types {fields : Fields} {ty : Ty} :
    ty ∈ fields.types ↔ ∃ name, fields.get? name = some ty := by
  simp [types, Table.get?_eq_some_iff]

end Fields

namespace Variants

/-- The types of the payloads of an enum. -/
def types (variants : Variants) : List Ty :=
  variants.toList.filterMap fun entry => entry.2.map Payload.type

theorem mem_types {variants : Variants} {ty : Ty} :
    ty ∈ variants.types ↔
      ∃ name payload, variants.get? name = some (some payload) ∧ payload.type = ty := by
  simp only [types, List.mem_filterMap, Option.map_eq_some_iff, Prod.exists,
    Table.get?_eq_some_iff]
  constructor
  · rintro ⟨name, _, member, payload, rfl, typed⟩
    exact ⟨name, payload, member, typed⟩
  · rintro ⟨name, payload, member, typed⟩
    exact ⟨name, some payload, member, payload, rfl, typed⟩

end Variants

/-- A rule that visits consult, with `K` for what is known of the types that it is given, and the
types in what it yields of which the same is then known. -/
inductive Ruling (K : Ty → Prop) : {α : Type} → (α → List Ty) → Reported α → Prop
  | unary (op operand span) : Ruling K (fun ty => [ty]) (Rules.unary op operand span)
  | binary {left right : Operand} (first : K left.ty) (second : K right.ty) (op span) :
      Ruling K (fun ty => [ty]) (Rules.binary op left right span)
  | call {callee : Ty} {args : List Operand} (called : K callee)
      (given : ∀ arg ∈ args, K arg.ty) (span) :
      Ruling K (fun ty => [ty]) (Rules.call callee args span)
  | requireValue (ty what span) : Ruling K (fun _ => []) (Rules.requireValue ty what span)
  | requireBranchValue (branch what span) :
      Ruling K (fun _ => []) (Rules.requireBranchValue branch what span)
  | condition (operand) : Ruling K (fun _ => []) (Rules.condition operand)
  | branches {consequence alternative : ExprOutcome} (first : K consequence.ty)
      (second : K alternative.ty) (span) :
      Ruling K (fun outcome => [outcome.ty]) (Rules.branches consequence alternative span)
  | guard (operand) : Ruling K (fun _ => []) (Rules.guard operand)
  | armValue (body span) : Ruling K (fun _ => []) (Rules.armValue body span)
  | arms {outcomes : List ExprOutcome} (known : ∀ outcome ∈ outcomes, K outcome.ty) (span) :
      Ruling K (fun outcome => [outcome.ty]) (Rules.arms outcomes span)
  | bindingType (r matched enum variant binds span) :
      Ruling K (fun _ => []) (Arms.bindingType r matched enum variant binds span)
  | fieldName (struct fields given field span) :
      Ruling K (fun _ => []) (Rules.fieldName struct fields given field span)
  | fieldValue {fields : Fields} {value : Operand}
      (declared : ∀ name ty, fields.get? name = some ty → K ty) (known : K value.ty)
      (struct field) :
      Ruling K (fun _ => []) (Rules.fieldValue struct fields field value)
  | missingFields (struct fields given span) :
      Ruling K (fun _ => []) (Rules.missingFields struct fields given span)
  | payloadPresence (variant declared given span) :
      Ruling K (fun _ => []) (Rules.payloadPresence variant declared given span)
  | payloadValue {declared : Option Payload} {value : Operand}
      (carried : ∀ payload, declared = some payload → K payload.type) (known : K value.ty)
      (enum variant) : Ruling K (fun _ => []) (Rules.payloadValue enum variant declared value)
  | variableType {r : Registry} {value : Operand} (resolved : ∀ t, K (r.resolve t).value)
      (known : K value.ty) (name) (ascription : Option TypeExpr) (span) :
      Ruling K (fun ty => [ty])
        (Rules.variableType name (ascription.map fun t => r.resolve (some t)) value span)
  | returned {expected : Option Ty} {value : Option Operand}
      (declared : ∀ ty, expected = some ty → K ty) (known : ∀ operand ∈ value, K operand.ty)
      (span) : Ruling K (fun ty => [ty]) (Rules.returned expected value span)
  | params (r params) : Ruling K (fun _ => []) (resolveParams r params)
  | result (r : Registry) (written) : Ruling K (fun _ => []) (r.resolve written)
  | functionResult {expected : Option Ty} {body : BlockOutcome}
      (declared : ∀ ty, expected = some ty → K ty) (known : K body.ty)
      (returned : ∀ ty ∈ body.returns, K ty) (name span) :
      Ruling K (fun ty => [ty]) (Rules.functionResult name expected body span)

namespace Check

/-! What visits read. -/

/-- The fields of a struct, if it is declared. -/
def structFields? (struct : String) : Check (Option Fields) := do
  pure ((← registry).structs.get? struct)

/-- The variants of an enum, if it is declared. -/
def enumVariants? (enum : String) : Check (Option Variants) := do
  pure ((← registry).enums.get? enum)

/-- What the function around a step is declared to return, if there is such a function. -/
def expectedResult? : Check (Option (Option Ty)) := do
  pure ((← frame?).map Frame.expected)

/-- Reports on the arms of a match as a whole. -/
def reportArms (enum? : Option String) (m : Match) : Check Unit := do
  emit (Arms.findings (← registry) enum? m)

/-- The types that a declared struct brings in. -/
def structTypes (struct : String) (found : Option Fields) : List Ty :=
  (found.map fun fields => .struct struct :: fields.types).getD []

/-- The types that a declared enum brings in. -/
def enumTypes (enum : String) (found : Option Variants) : List Ty :=
  (found.map fun variants => .enum enum :: variants.types).getD []

theorem visitExpr_construct (struct : String) (fields : List FieldInit) (span : Span) :
    visitExpr (.construct struct fields span) = (do
      match ← structFields? struct with
      | none =>
        error (.unknownStruct struct) (some span)
        visitFieldValues fields
        pure (.value .unknown)
      | some declared =>
        visitFields struct declared [] fields
        settle (Rules.missingFields struct declared (fields.map FieldInit.name) span)
        pure (.value (.struct struct))) := by
  rw [visitExpr]
  rfl

/-- The update of a value of a struct type. -/
def visitUpdate (struct : String) (fields : List FieldInit) (span : Span) :
    Check ExprOutcome := do
  match ← structFields? struct with
  | none =>
    error (.unknownStruct struct) (some span)
    visitFieldValues fields
    pure (.value .unknown)
  | some declared =>
    visitFields struct declared [] fields
    pure (.value (.struct struct))

theorem visitExpr_update (target : Expr) (fields : List FieldInit) (span : Span) :
    visitExpr (.update target fields span) = (do
      let updated ← visitExpr target
      match updated.ty with
      | .struct struct => visitUpdate struct fields span
      | other =>
        error (.updateNonStruct other.text) (some span)
        visitFieldValues fields
        pure (.value .unknown)) := by
  rw [visitExpr]
  rfl

theorem visitExpr_variant (enum variant : String) (field : Option String)
    (payload : Option Expr) (span : Span) :
    visitExpr (.variant enum variant field payload span) = (do
      match ← enumVariants? enum with
      | none =>
        error (.unknownEnum enum) (some span)
        let _ ← visitOptional payload
        pure (.value .unknown)
      | some variants =>
        match variants.get? variant with
        | none =>
          error (.unknownVariant enum variant) (some span)
          let _ ← visitOptional payload
          pure (.value (.enum enum))
        | some declared =>
          settle (Rules.payloadPresence variant declared payload.isSome span)
          match ← visitOptional payload with
          | none => pure (.value (.enum enum))
          | some operand =>
            settle (Rules.payloadValue enum variant declared operand)
            pure (.value (.enum enum))) := by
  rw [visitExpr]
  rfl

theorem visitMatch_eq (valued : Bool) (value : Expr) (arms : List Arm) (span : Span) :
    visitMatch valued ⟨value, arms, span⟩ = (do
      let matched ← visitExpr value
      let enum? ← matchedEnum? ⟨value, arms, span⟩ matched.ty
      reportArms enum? ⟨value, arms, span⟩
      let outcomes ← visitArms valued enum? arms
      settle (Rules.arms outcomes span)) := by
  rw [visitMatch]
  rfl

theorem visitStmt_returns (place : Place) (value : Option Expr) (span : Span) :
    visitStmt place (.returns value span) = (do
      match ← expectedResult? with
      | none =>
        error .returnOutsideFunction (some span)
        let _ ← visitOptional value
        pure { alwaysReturns := true }
      | some expected =>
        let operand ← visitOptional value
        let ty ← settle (Rules.returned expected operand span)
        recordReturn ty
        pure { alwaysReturns := true }) := by
  rw [visitStmt]
  simp only [expectedResult?, bind_assoc, pure_bind]
  refine bind_congr fun frame => ?_
  cases frame <;> rfl

/-! The steps of visits. -/

/-- A property of steps that are made in a nesting, declare the listed names and yield the listed
types. -/
abbrev StepProperty := Nesting → List String → {α : Type} → (α → List Ty) → Check α → Prop

/-- The property holds of the steps that visits are made of and passes on from them.  Names are
declared in the scopes that a visit has opened itself. -/
structure Compositional (K : Ty → Prop) (P : StepProperty) : Prop where
  basic : ∀ ty ∈ [Ty.int, .bool, .string, .unit, .any, .unknown], K ty
  pure {α : Type} {l : Nesting} {types : α → List Ty} {value : α} :
    (∀ ty ∈ types value, K ty) → P l [] types (Pure.pure value)
  bind {α β : Type} {l : Nesting} {names further : List String} {types : α → List Ty}
    {types' : β → List Ty} {step : Check α} {next : α → Check β} : P l names types step →
    (∀ value, (∀ ty ∈ types value, K ty) → P l further types' (next value)) →
    P l (names ++ further) types' (step >>= next)
  settle {α : Type} {l : Nesting} {types : α → List Ty} {rule : Reported α} :
    Ruling K types rule → P l [] types (settle rule)
  error {l : Nesting} {issue : Issue} (span : Option Span) :
    issue.isDirect = true → P l [] (fun _ => []) (error issue span)
  reportArms {l : Nesting} (enum? : Option String) (m : Match) :
    P l [] (fun _ => []) (reportArms enum? m)
  useName {l : Nesting} (name : String) (span : Option Span) :
    P l [] (fun ty => [ty]) (useName name span)
  structFields? {l : Nesting} (struct : String) :
    P l [] (structTypes struct) (structFields? struct)
  enumVariants? {l : Nesting} (enum : String) : P l [] (enumTypes enum) (enumVariants? enum)
  expectedResult? {l : Nesting} : P l [] (fun found => found.join.toList) expectedResult?
  matchedEnum? {l : Nesting} (m : Match) (ty : Ty) : P l [] (fun _ => []) (matchedEnum? m ty)
  recordReturn {l : Nesting} {ty : Ty} : K ty → P l [] (fun _ => []) (recordReturn ty)
  declare {l : Nesting} {ty : Ty} (name : String) (flags : Flags) (span : Option Span) :
    K ty → P l.inScope [name] (fun _ => []) (declare name ty flags span)
  bindVariant {l : Nesting} (matched : Option String) (enum variant : String)
    (binding : Option String) (span : Span) :
    P l.inScope binding.toList (fun _ => []) (bindVariant matched enum variant binding span)
  /-- A step may be made in a scope of its own. -/
  inScope {α : Type} {l : Nesting} {names : List String} {types : α → List Ty} {step : Check α} :
    P l.inScope names types step →
    P l [] types (do enterScope; let value ← step; exitScope; Pure.pure value)
  /-- A variable may be tagged with the enum of its value. -/
  visitVar {l : Nesting} (flags : Flags) (decl : VarDecl) :
    P l.inScope [] (fun outcome => [outcome.ty]) (visitExpr decl.value) →
    P l.inScope [decl.name] (fun _ => []) (visitVar flags decl)
  /-- A function gets its result behind its body. -/
  visitFunction {l : Nesting} (place : Place) (signature : Signature) (body : Block) :
    (∀ valued, P l.inScope.inFunction [] (fun outcome => outcome.ty :: outcome.returns)
      (visitBlock valued body)) →
    P l.inScope [signature.name] (fun outcome => outcome.ty.toList)
      (visitStmt place (.function signature body))
  /-- What a dead statement returns is forgotten. -/
  visitDead {l : Nesting} {names : List String} (place : Place) (stmt : Stmt) :
    P l.inScope names (fun outcome => outcome.ty.toList) (visitStmt place stmt) →
    P l.inScope names (fun _ => []) (visitDead place stmt)
  /-- A block tells what was returned since it was entered. -/
  visitBlock {l : Nesting} {names : List String} (valued : Bool) (body : List Stmt) (span : Span) :
    P l.inScope names (fun progress => [progress.ty]) (visitStmts valued {} body) →
    P l [] (fun outcome => outcome.ty :: outcome.returns) (visitBlock valued ⟨body, span⟩)

namespace Compositional

variable {K : Ty → Prop} {P : StepProperty}

/-- A step that declares nothing in front. -/
theorem lead (steps : Compositional K P) {α β : Type} {l : Nesting} {names : List String}
    {types : α → List Ty} {types' : β → List Ty} {step : Check α} {next : α → Check β}
    (first : P l [] types step)
    (rest : ∀ value, (∀ ty ∈ types value, K ty) → P l names types' (next value)) :
    P l names types' (step >>= next) :=
  steps.bind first rest

/-- A step that declares nothing behind. -/
theorem trail (steps : Compositional K P) {α β : Type} {l : Nesting} {names : List String}
    {types : α → List Ty} {types' : β → List Ty} {step : Check α} {next : α → Check β}
    (first : P l names types step)
    (rest : ∀ value, (∀ ty ∈ types value, K ty) → P l [] types' (next value)) :
    P l names types' (step >>= next) := by
  have both := steps.bind first rest
  rwa [List.append_nil] at both

/-- A step that only yields, and no types. -/
theorem done (steps : Compositional K P) {l : Nesting} {α : Type} {types : α → List Ty}
    {value : α} (none : types value = []) : P l [] types (Pure.pure value) :=
  steps.pure (by simp [none])

theorem skip (steps : Compositional K P) {l : Nesting} :
    P l [] (fun _ => []) (Pure.pure () : Check Unit) :=
  steps.done rfl

theorem value (steps : Compositional K P) {l : Nesting} {ty : Ty} (known : K ty) :
    P l [] (fun outcome => [outcome.ty]) (Pure.pure (ExprOutcome.value ty)) :=
  steps.pure (List.forall_mem_singleton.mpr known)

theorem unknown (steps : Compositional K P) : K .unknown := steps.basic _ (by simp)

theorem settleGuard (steps : Compositional K P) {l : Nesting} (operand : Option Operand) :
    P l [] (fun _ => []) (settleGuard operand) := by
  cases operand with
  | none => exact steps.done rfl
  | some operand => exact steps.settle (.guard operand)

theorem settleArmValue (steps : Compositional K P) {l : Nesting} (valued : Bool)
    (body : ExprOutcome) (span : Span) :
    P l [] (fun _ => []) (settleArmValue valued body span) := by
  cases valued with
  | false => exact steps.done rfl
  | true => exact steps.settle (.armValue body span)

theorem declareImports (steps : Compositional K P) {l : Nesting} (topLevel : Bool) (span : Span)
    (names : List String) :
    P l.inScope names (fun _ => []) (declareImports topLevel span names) := by
  induction names with
  | nil => exact steps.done rfl
  | cons name rest ih =>
    exact steps.bind (steps.declare name _ _ (steps.basic _ (by simp))) fun _ _ => ih

/-! The visits, by recursion over the syntax. -/

mutual

theorem expr (steps : Compositional K P) (l : Nesting) : (e : Expr) →
    P l [] (fun outcome => [outcome.ty]) (visitExpr e)
  | .identifier name span => by
    rw [visitExpr]
    exact steps.lead (steps.useName _ _) fun _ known => steps.pure known
  | .int .. => by rw [visitExpr]; exact steps.value (steps.basic _ (by simp))
  | .string .. => by rw [visitExpr]; exact steps.value (steps.basic _ (by simp))
  | .bool .. => by rw [visitExpr]; exact steps.value (steps.basic _ (by simp))
  | .interpolated parts _ _ => by
    rw [visitExpr]
    exact steps.lead (steps.parts l parts) fun _ _ => steps.value (steps.basic _ (by simp))
  | .binary op left right span => by
    rw [visitExpr]
    exact steps.lead (steps.expr l left) fun _ first => steps.lead (steps.expr l right)
      fun _ second => steps.lead (steps.settle (.binary (List.forall_mem_singleton.mp first)
        (List.forall_mem_singleton.mp second) _ _)) fun _ known => steps.pure known
  | .unary op operand span => by
    rw [visitExpr]
    exact steps.lead (steps.expr l operand) fun _ _ =>
      steps.lead (steps.settle (.unary _ _ _)) fun _ known => steps.pure known
  | .call callee args span => by
    rw [visitExpr]
    exact steps.lead (steps.expr l callee) fun _ called => steps.lead (steps.args l args)
      fun _ given => steps.lead (steps.settle (.call (List.forall_mem_singleton.mp called)
        (List.forall_mem_map.mp given) _)) fun _ known => steps.pure known
  | .conditional k => by rw [visitExpr]; exact steps.conditional l k
  | .matching m => by
    rw [visitExpr]
    exact steps.lead (steps.matching l true m) fun _ known =>
      steps.lead (steps.settle (.requireValue _ _ _)) fun _ _ => steps.pure known
  | .construct struct inits span => by
    rw [visitExpr_construct]
    refine steps.lead (steps.structFields? struct) fun found known => ?_
    cases found with
    | none =>
      exact steps.lead (steps.error _ rfl) fun _ _ => steps.lead (steps.fieldValues l inits)
        fun _ _ => steps.value steps.unknown
    | some declared =>
      rcases List.forall_mem_cons.mp known with ⟨named, fields⟩
      have fields := fun name ty found => fields ty (Fields.mem_types.mpr ⟨name, found⟩)
      exact steps.lead (steps.fields l fields struct [] inits) fun _ _ =>
        steps.lead (steps.settle (.missingFields _ _ _ _)) fun _ _ => steps.value named
  | .update target inits span => by
    rw [visitExpr_update]
    have values : P l [] (fun outcome => [outcome.ty]) (do
        visitFieldValues inits
        Pure.pure (ExprOutcome.value .unknown)) :=
      steps.lead (steps.fieldValues l inits) fun _ _ => steps.value steps.unknown
    refine steps.lead (steps.expr l target) fun _ _ => ?_
    split
    · refine steps.lead (steps.structFields? _) fun found known => ?_
      cases found with
      | none => exact steps.lead (steps.error _ rfl) fun _ _ => values
      | some declared =>
        rcases List.forall_mem_cons.mp known with ⟨named, fields⟩
        have fields := fun name ty found => fields ty (Fields.mem_types.mpr ⟨name, found⟩)
        exact steps.lead (steps.fields l fields _ [] inits) fun _ _ => steps.value named
    · exact steps.lead (steps.error _ rfl) fun _ _ => values
  | .variant enum variant _ payload span => by
    rw [visitExpr_variant]
    have visited {ty : Ty} (known : K ty) : P l [] (fun outcome => [outcome.ty]) (do
        let _ ← visitOptional payload
        Pure.pure (ExprOutcome.value ty)) :=
      steps.lead (steps.optional l payload) fun _ _ => steps.value known
    refine steps.lead (steps.enumVariants? enum) fun found known => ?_
    cases found with
    | none => exact steps.lead (steps.error _ rfl) fun _ _ => visited steps.unknown
    | some variants =>
      rcases List.forall_mem_cons.mp known with ⟨named, carried⟩
      dsimp only
      split
      · exact steps.lead (steps.error _ rfl) fun _ _ => visited named
      · rename_i declared
        refine steps.lead (steps.settle (.payloadPresence _ _ _ _)) fun _ _ =>
          steps.lead (steps.optional l payload) fun operand known => ?_
        cases operand with
        | none => exact steps.value named
        | some operand =>
          refine steps.lead (steps.settle (.payloadValue ?_ (List.forall_mem_singleton.mp known)
            _ _)) fun _ _ => steps.value named
          rintro payload rfl
          exact carried _ (Variants.mem_types.mpr ⟨variant, payload, declared, rfl⟩)
  | .block b => by
    rw [visitExpr]
    exact steps.lead (steps.block l true b) fun _ known =>
      steps.pure (List.forall_mem_singleton.mpr (List.forall_mem_cons.mp known).1)

theorem optional (steps : Compositional K P) (l : Nesting) : (e : Option Expr) →
    P l [] (fun operand => operand.toList.map Operand.ty) (visitOptional e)
  | none => by rw [visitOptional]; exact steps.done rfl
  | some e => by
    rw [visitOptional]
    exact steps.lead (steps.expr l e) fun _ known => steps.pure known

theorem parts (steps : Compositional K P) (l : Nesting) : (parts : List Part) →
    P l [] (fun _ => []) (visitParts parts)
  | [] => by rw [visitParts]; exact steps.done rfl
  | .text .. :: rest => by rw [visitParts]; exact steps.parts l rest
  | .embedded e _ :: rest => by
    rw [visitParts]
    exact steps.lead (steps.expr l e) fun _ _ =>
      steps.lead (steps.settle (.requireValue _ _ _)) fun _ _ => steps.parts l rest

theorem args (steps : Compositional K P) (l : Nesting) : (args : List Expr) →
    P l [] (fun operands => operands.map Operand.ty) (visitArgs args)
  | [] => by rw [visitArgs]; exact steps.done rfl
  | e :: rest => by
    rw [visitArgs]
    exact steps.lead (steps.expr l e) fun _ first => steps.lead (steps.args l rest)
      fun _ others => steps.pure
        (List.forall_mem_cons.mpr ⟨List.forall_mem_singleton.mp first, others⟩)

theorem printed (steps : Compositional K P) (l : Nesting) : (args : List Expr) →
    P l [] (fun _ => []) (visitPrinted args)
  | [] => by rw [visitPrinted]; exact steps.done rfl
  | e :: rest => by
    rw [visitPrinted]
    exact steps.lead (steps.expr l e) fun _ _ =>
      steps.lead (steps.settle (.requireValue _ _ _)) fun _ _ => steps.printed l rest

theorem fieldValues (steps : Compositional K P) (l : Nesting) : (inits : List FieldInit) →
    P l [] (fun _ => []) (visitFieldValues inits)
  | [] => by rw [visitFieldValues]; exact steps.done rfl
  | ⟨_, value, _⟩ :: rest => by
    rw [visitFieldValues]
    exact steps.lead (steps.expr l value) fun _ _ => steps.fieldValues l rest

theorem fields (steps : Compositional K P) (l : Nesting) {declared : Fields}
    (known : ∀ name ty, declared.get? name = some ty → K ty) (struct : String)
    (given : List String) : (inits : List FieldInit) →
    P l [] (fun _ => []) (visitFields struct declared given inits)
  | [] => by rw [visitFields]; exact steps.done rfl
  | ⟨_, value, _⟩ :: rest => by
    rw [visitFields]
    exact steps.lead (steps.settle (.fieldName _ _ _ _ _)) fun _ _ =>
      steps.lead (steps.expr l value) fun _ valued =>
      steps.lead (steps.settle (.fieldValue known (List.forall_mem_singleton.mp valued) _ _))
        fun _ _ => steps.fields l known struct _ rest

theorem conditional (steps : Compositional K P) (l : Nesting) : (k : Conditional) →
    P l [] (fun outcome => [outcome.ty]) (visitConditional k)
  | ⟨initializer, condition, consequence, alternative, span⟩ => by
    have branches (l : Nesting) : P l [] (fun outcome => [outcome.ty])
        (visitBranches condition consequence alternative span) :=
      steps.lead (steps.expr l condition) fun _ _ => steps.lead (steps.settle (.condition _))
        fun _ _ => steps.lead (steps.block l true consequence) fun _ first =>
        steps.lead (steps.settle (.requireBranchValue _ _ _)) fun _ _ =>
        steps.lead (steps.otherwise l alternative) fun _ second =>
        steps.lead (steps.settle (.requireBranchValue _ _ _)) fun _ _ =>
        steps.settle (.branches (List.forall_mem_cons.mp first).1
          (List.forall_mem_singleton.mp second) _)
    rw [visitConditional_eq]
    exact match initializer with
      | none => by
        rw [visitInitializer]
        exact steps.lead steps.skip fun _ _ => steps.lead (branches l) fun _ known =>
          steps.lead steps.skip fun _ _ => steps.pure known
      | some decl => by
        rw [visitInitializer, bind_assoc]
        have closed := steps.inScope
          (steps.trail (steps.var l Flags.inner decl) fun _ _ => branches l.inScope)
        rwa [bind_assoc] at closed

theorem otherwise (steps : Compositional K P) (l : Nesting) : (alternative : Otherwise) →
    P l [] (fun outcome => [outcome.ty]) (visitOtherwise alternative)
  | .block b => by
    rw [visitOtherwise]
    exact steps.lead (steps.block l true b) fun _ known =>
      steps.pure (List.forall_mem_singleton.mpr (List.forall_mem_cons.mp known).1)
  | .elseIf k => by rw [visitOtherwise]; exact steps.conditional l k

theorem matching (steps : Compositional K P) (l : Nesting) (valued : Bool) : (m : Match) →
    P l [] (fun outcome => [outcome.ty]) (visitMatch valued m)
  | ⟨value, arms, span⟩ => by
    rw [visitMatch_eq]
    exact steps.lead (steps.expr l value) fun _ _ => steps.lead (steps.matchedEnum? _ _)
      fun enum? _ => steps.lead (steps.reportArms _ _) fun _ _ =>
      steps.lead (steps.arms l valued enum? arms) fun _ known =>
      steps.settle (.arms (List.forall_mem_map.mp known) _)

theorem arms (steps : Compositional K P) (l : Nesting) (valued : Bool) (enum? : Option String) :
    (arms : List Arm) →
    P l [] (fun outcomes => outcomes.map ExprOutcome.ty) (visitArms valued enum? arms)
  | [] => by rw [visitArms]; exact steps.done rfl
  | arm :: rest => by
    rw [visitArms]
    exact steps.lead (steps.arm l valued enum? arm) fun _ first =>
      steps.lead (steps.arms l valued enum? rest) fun _ others => steps.pure
        (List.forall_mem_cons.mpr ⟨List.forall_mem_singleton.mp first, others⟩)

theorem arm (steps : Compositional K P) (l : Nesting) (valued : Bool) (enum? : Option String) :
    (arm : Arm) → P l [] (fun outcome => [outcome.ty]) (visitArm valued enum? arm)
  | ⟨pattern, guard, body, span⟩ => by
    have inside : P l.inScope pattern.boundNames (fun outcome => [outcome.ty])
        (visitArmParts valued enum? pattern guard body) :=
      steps.trail (steps.pattern l enum? pattern) fun _ _ => steps.lead (steps.optional _ guard)
        fun _ _ => steps.lead (steps.settleGuard _) fun _ _ => steps.lead (steps.expr _ body)
        fun _ known => steps.lead (steps.settleArmValue _ _ _) fun _ _ => steps.pure known
    rw [visitArm_eq]
    exact steps.inScope inside

theorem pattern (steps : Compositional K P) (l : Nesting) (enum? : Option String) :
    (pattern : Pattern) →
    P l.inScope pattern.boundNames (fun _ => []) (visitPattern enum? pattern)
  | .wildcard _ => by rw [visitPattern]; exact steps.done rfl
  | .literal value _ => by
    rw [visitPattern]
    exact steps.lead (steps.expr _ value) fun _ _ => steps.done rfl
  | .variant .. => by rw [visitPattern]; exact steps.bindVariant _ _ _ _ _

theorem block (steps : Compositional K P) (l : Nesting) (valued : Bool) : (b : Block) →
    P l [] (fun outcome => outcome.ty :: outcome.returns) (Check.visitBlock valued b)
  | ⟨body, span⟩ =>
    steps.visitBlock valued body span (steps.stmts l valued (steps.basic _ (by simp)) body)

theorem stmts (steps : Compositional K P) (l : Nesting) (valued : Bool) {progress : Progress}
    (known : K progress.ty) : (stmts : List Stmt) →
    P l.inScope (stmts.flatMap Stmt.declaredNames) (fun reached => [reached.ty])
      (visitStmts valued progress stmts)
  | [] => by rw [visitStmts]; exact steps.pure (List.forall_mem_singleton.mpr known)
  | stmt :: rest => by
    rcases progress with ⟨ty, stopped⟩
    cases stopped with
    | false =>
      rw [visitStmts_live]
      refine steps.bind (steps.stmt l _ stmt) fun outcome yielded =>
        steps.stmts l valued ?_ rest
      cases shape : outcome.ty with
      | none => exact known
      | some ty => exact yielded ty (by simp [shape])
    | true =>
      rw [visitStmts_dead]
      exact steps.bind (steps.visitDead _ stmt (steps.stmt l _ stmt)) fun _ _ =>
        steps.stmts l valued known rest

theorem stmt (steps : Compositional K P) (l : Nesting) (place : Place) : (stmt : Stmt) →
    P l.inScope stmt.declaredNames (fun outcome => outcome.ty.toList) (visitStmt place stmt)
  | .struct _ => by rw [visitStmt]; exact steps.done rfl
  | .enum _ => by rw [visitStmt]; exact steps.done rfl
  | .imports i => by
    rw [visitStmt]
    exact steps.trail (steps.declareImports _ _ _) fun _ _ => steps.done rfl
  | .var decl => by
    rw [visitStmt]
    exact steps.trail (steps.var l _ decl) fun _ _ => steps.done rfl
  | .function signature body =>
    steps.visitFunction place signature body fun valued => steps.block _ valued body
  | .print _ args _ => by
    rw [visitStmt]
    exact steps.lead (steps.printed _ args) fun _ _ => steps.done rfl
  | .returns value _ => by
    rw [visitStmt_returns]
    refine steps.lead steps.expectedResult? fun found declared => ?_
    cases found with
    | none =>
      exact steps.lead (steps.error _ rfl) fun _ _ => steps.lead (steps.optional _ value)
        fun _ _ => steps.done rfl
    | some expected =>
      have declared := fun ty same => declared ty (Option.mem_toList.mpr same)
      exact steps.lead (steps.optional _ value) fun _ known =>
        steps.lead (steps.settle (.returned declared (fun operand given =>
          known _ (List.mem_map_of_mem (Option.mem_toList.mpr given))) _)) fun _ known =>
        steps.lead (steps.recordReturn (List.forall_mem_singleton.mp known)) fun _ _ =>
        steps.done rfl
  | .expr value _ => by
    rw [visitStmt]
    split
    · refine steps.lead (steps.expr _ value) fun _ known => steps.pure ?_
      dsimp only
      split
      · exact known
      · exact List.forall_mem_nil K
    · exact steps.lead (steps.error _ rfl) fun _ _ => steps.lead (steps.expr _ value)
        fun _ _ => steps.done rfl

theorem var (steps : Compositional K P) (l : Nesting) (flags : Flags) : (decl : VarDecl) →
    P l.inScope [decl.name] (fun _ => []) (Check.visitVar flags decl)
  | ⟨name, mutable, ascription, value, exported, span⟩ =>
    steps.visitVar flags ⟨name, mutable, ascription, value, exported, span⟩ (steps.expr _ value)

end

theorem topLevel (steps : Compositional K P) (l : Nesting) (stmts : List Stmt) :
    P l.inScope (stmts.flatMap Stmt.declaredNames) (fun _ => []) (visitTopLevel stmts) := by
  induction stmts with
  | nil => exact steps.done rfl
  | cons stmt rest ih => exact steps.bind (steps.stmt l _ stmt) fun _ _ => ih

end Compositional

end Check

end ModuleCheck
