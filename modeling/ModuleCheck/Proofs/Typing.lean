import ModuleCheck.Proofs.Rules

namespace ModuleCheck

/-!
Typing.

A judgement in lexical contexts, without scopes, reports or an order of visits.  An expression
has an outcome, which is its type unless it always returns, and an effect, the types that it
returns from the function around it.  A statement also has a context behind it.
-/

open Check (Place)

/-- What is known at a point of a module. -/
structure Context where
  /-- The types of the names in sight. -/
  types : String → Option Ty
  /-- The function around this point, if any, by its declared result, if any. -/
  function : Option (Option Ty)

namespace Context

/-- The context of a module that declares nothing. -/
def empty : Context := ⟨fun _ => none, none⟩

/-- A name of the given type comes in sight and hides others of this name. -/
def bind (Γ : Context) (name : String) (ty : Ty) : Context :=
  { Γ with types := fun other => if other = name then some ty else Γ.types other }

def bindAll (Γ : Context) : List String → List Ty → Context
  | name :: names, ty :: types => (Γ.bind name ty).bindAll names types
  | _, _ => Γ

/-- Inside a function with the given declared result, if any. -/
def enter (Γ : Context) (declared : Option Ty) : Context := { Γ with function := some declared }

/-- The functions among the statements of a block are in sight in the whole block. -/
def hoist (r : Registry) (Γ : Context) : List Stmt → Context
  | [] => Γ
  | .function signature _ :: rest =>
    (Γ.bind signature.name
      (.fn (signature.paramTypes r) (r.resolve signature.result).value)).hoist r rest
  | _ :: rest => Γ.hoist r rest

end Context

mutual

/-- The outcome of an expression and the types that it returns. -/
inductive ExprTyped (r : Registry) : Context → Expr → ExprOutcome → List Ty → Prop
  | identifier {Γ name span ty} (bound : Γ.types name = some ty) :
      ExprTyped r Γ (.identifier name span) (.value ty) []
  | int {Γ value span} : ExprTyped r Γ (.int value span) (.value .int) []
  | string {Γ value span} : ExprTyped r Γ (.string value span) (.value .string) []
  | bool {Γ value span} : ExprTyped r Γ (.bool value span) (.value .bool) []
  | interpolated {Γ parts raw span returned} (pieces : PartsTyped r Γ parts returned) :
      ExprTyped r Γ (.interpolated parts raw span) (.value .string) returned
  | binary {Γ op left right span first second ty before behind}
      (leftTyped : ExprTyped r Γ left first before)
      (rightTyped : ExprTyped r Γ right second behind)
      (operates : Rules.Operates op first.ty second.ty ty) :
      ExprTyped r Γ (.binary op left right span) (.value ty) (before ++ behind)
  | unary {Γ op operand span inner ty returned}
      (operandTyped : ExprTyped r Γ operand inner returned)
      (negates : Rules.Negates op inner.ty ty) :
      ExprTyped r Γ (.unary op operand span) (.value ty) returned
  | call {Γ callee args span called params result types before behind}
      (calleeTyped : ExprTyped r Γ callee called before)
      (isFunction : called.ty = .fn params result)
      (argsTyped : ArgsTyped r Γ args types behind)
      (fits : List.Forall₂ (fun arg param => Ty.compatible arg param = true) types params) :
      ExprTyped r Γ (.call callee args span) (.value result) (before ++ behind)
  | conditional {Γ k outcome returned} (typed : ConditionalTyped r Γ k outcome returned) :
      ExprTyped r Γ (.conditional k) outcome returned
  | matching {Γ m outcome returned} (typed : MatchTyped r Γ true m outcome returned)
      (isValue : outcome.ty.isUnit = false) : ExprTyped r Γ (.matching m) outcome returned
  | construct {Γ struct declared fields span returned}
      (found : r.structs.get? struct = some declared)
      (fieldsTyped : FieldsTyped r Γ declared fields returned)
      (complete : List.Perm (fields.map FieldInit.name) declared.keys) :
      ExprTyped r Γ (.construct struct fields span) (.value (.struct struct)) returned
  | update {Γ target struct declared fields span updated before behind}
      (targetTyped : ExprTyped r Γ target updated before) (isStruct : updated.ty = .struct struct)
      (found : r.structs.get? struct = some declared)
      (fieldsTyped : FieldsTyped r Γ declared fields behind)
      (distinct : (fields.map FieldInit.name).Nodup) :
      ExprTyped r Γ (.update target fields span) (.value (.struct struct)) (before ++ behind)
  | plain {Γ enum variant field span} (declared : r.variant? enum variant = some none) :
      ExprTyped r Γ (.variant enum variant field none span) (.value (.enum enum)) []
  | carrying {Γ enum variant field payload value span carried returned}
      (declared : r.variant? enum variant = some (some payload))
      (valueTyped : ExprTyped r Γ value carried returned) (isValue : carried.ty.isUnit = false)
      (fits : carried.ty.compatible payload.type = true) :
      ExprTyped r Γ (.variant enum variant field (some value) span) (.value (.enum enum)) returned
  | block {Γ b outcome} (typed : BlockTyped r Γ true b outcome) :
      ExprTyped r Γ (.block b) outcome.toExprOutcome outcome.returns

/-- The embedded expressions of an interpolated string give values. -/
inductive PartsTyped (r : Registry) : Context → List Part → List Ty → Prop
  | nil {Γ} : PartsTyped r Γ [] []
  | text {Γ value span rest returned} (more : PartsTyped r Γ rest returned) :
      PartsTyped r Γ (.text value span :: rest) returned
  | embedded {Γ e span rest outcome before behind} (first : ExprTyped r Γ e outcome before)
      (isValue : outcome.ty.isUnit = false) (more : PartsTyped r Γ rest behind) :
      PartsTyped r Γ (.embedded e span :: rest) (before ++ behind)

/-- The types of the arguments of a call. -/
inductive ArgsTyped (r : Registry) : Context → List Expr → List Ty → List Ty → Prop
  | nil {Γ} : ArgsTyped r Γ [] [] []
  | cons {Γ e rest outcome types before behind} (first : ExprTyped r Γ e outcome before)
      (more : ArgsTyped r Γ rest types behind) :
      ArgsTyped r Γ (e :: rest) (outcome.ty :: types) (before ++ behind)

/-- Printed expressions give values. -/
inductive PrintedTyped (r : Registry) : Context → List Expr → List Ty → Prop
  | nil {Γ} : PrintedTyped r Γ [] []
  | cons {Γ e rest outcome before behind} (first : ExprTyped r Γ e outcome before)
      (isValue : outcome.ty.isUnit = false) (more : PrintedTyped r Γ rest behind) :
      PrintedTyped r Γ (e :: rest) (before ++ behind)

/-- Field values fit the declared fields that they are given for. -/
inductive FieldsTyped (r : Registry) : Context → Fields → List FieldInit → List Ty → Prop
  | nil {Γ declared} : FieldsTyped r Γ declared [] []
  | cons {Γ declared name value span rest outcome ty before behind}
      (first : ExprTyped r Γ value outcome before) (isField : declared.get? name = some ty)
      (isValue : outcome.ty.isUnit = false) (fits : outcome.ty.compatible ty = true)
      (more : FieldsTyped r Γ declared rest behind) :
      FieldsTyped r Γ declared (⟨name, value, span⟩ :: rest) (before ++ behind)

/-- An if expression tests a boolean in the scope of its initializer, and its branches give
values of a common type. -/
inductive ConditionalTyped (r : Registry) : Context → Conditional → ExprOutcome → List Ty → Prop
  | mk {Γ Γ' initializer condition consequence alternative span tested first second outcome start
      test rest} (initialized : InitializerTyped r Γ initializer Γ' start)
      (conditionTyped : ExprTyped r Γ' condition tested test)
      (isBool : tested.ty.isBoolish = true)
      (consequenceTyped : BlockTyped r Γ' true consequence first)
      (firstUsable : first.toExprOutcome.Usable)
      (alternativeTyped : OtherwiseTyped r Γ' alternative second rest)
      (secondUsable : second.Usable)
      (joined : ExprOutcome.Joined [first.toExprOutcome, second] outcome)
      (usable : outcome.Usable) :
      ConditionalTyped r Γ ⟨initializer, condition, consequence, alternative, span⟩ outcome
        (start ++ (test ++ (first.returns ++ rest)))

/-- The context behind an initializer. -/
inductive InitializerTyped (r : Registry) :
    Context → Option VarDecl → Context → List Ty → Prop
  | none {Γ} : InitializerTyped r Γ none Γ []
  | some {Γ Γ' decl returned} (typed : VarTyped r Γ decl Γ' returned) :
      InitializerTyped r Γ (some decl) Γ' returned

inductive OtherwiseTyped (r : Registry) : Context → Otherwise → ExprOutcome → List Ty → Prop
  | block {Γ b outcome} (typed : BlockTyped r Γ true b outcome) :
      OtherwiseTyped r Γ (.block b) outcome.toExprOutcome outcome.returns
  | elseIf {Γ k outcome returned} (typed : ConditionalTyped r Γ k outcome returned) :
      OtherwiseTyped r Γ (.elseIf k) outcome returned

/-- The arms of a match have a common type. -/
inductive MatchTyped (r : Registry) : Context → Bool → Match → ExprOutcome → List Ty → Prop
  | mk {Γ valued value arms span matched outcomes outcome before behind}
      (valueTyped : ExprTyped r Γ value matched before)
      (armsTyped : ArmsTyped r Γ valued arms outcomes behind)
      (joined : ExprOutcome.Joined outcomes outcome) :
      MatchTyped r Γ valued ⟨value, arms, span⟩ outcome (before ++ behind)

inductive ArmsTyped (r : Registry) :
    Context → Bool → List Arm → List ExprOutcome → List Ty → Prop
  | nil {Γ valued} : ArmsTyped r Γ valued [] [] []
  | cons {Γ valued arm rest outcome outcomes before behind}
      (first : ArmTyped r Γ valued arm outcome before)
      (more : ArmsTyped r Γ valued rest outcomes behind) :
      ArmsTyped r Γ valued (arm :: rest) (outcome :: outcomes) (before ++ behind)

/-- The guard and the body of an arm see what its pattern binds.  The body gives a value where
one is needed. -/
inductive ArmTyped (r : Registry) : Context → Bool → Arm → ExprOutcome → List Ty → Prop
  | unguarded {Γ Γ' valued pattern body span outcome before behind}
      (patternTyped : PatternTyped r Γ pattern Γ' before)
      (bodyTyped : ExprTyped r Γ' body outcome behind) (usable : valued = true → outcome.Usable) :
      ArmTyped r Γ valued ⟨pattern, none, body, span⟩ outcome (before ++ behind)
  | guarded {Γ Γ' valued pattern guard body span tested outcome before test behind}
      (patternTyped : PatternTyped r Γ pattern Γ' before)
      (guardTyped : ExprTyped r Γ' guard tested test) (isBool : tested.ty.isBoolish = true)
      (bodyTyped : ExprTyped r Γ' body outcome behind) (usable : valued = true → outcome.Usable) :
      ArmTyped r Γ valued ⟨pattern, some guard, body, span⟩ outcome (before ++ (test ++ behind))

/-- The context behind a pattern.  A variant pattern names a declared variant and binds its
payload. -/
inductive PatternTyped (r : Registry) : Context → Pattern → Context → List Ty → Prop
  | wildcard {Γ span} : PatternTyped r Γ (.wildcard span) Γ []
  | literal {Γ value span outcome returned} (typed : ExprTyped r Γ value outcome returned) :
      PatternTyped r Γ (.literal value span) Γ returned
  | plain {Γ enum variant field span payload} (declared : r.variant? enum variant = some payload) :
      PatternTyped r Γ (.variant enum variant field none span) Γ []
  | binding {Γ enum variant field name span payload}
      (declared : r.variant? enum variant = some (some payload)) :
      PatternTyped r Γ (.variant enum variant field (some name) span) (Γ.bind name payload.type) []

/-- A block has the type of its last statement if that is an expression whose value is used, and
else unit. -/
inductive BlockTyped (r : Registry) : Context → Bool → Block → BlockOutcome → Prop
  | mk {Γ valued body span outcome returned}
      (typed : StmtsTyped r (Γ.hoist r body) valued body outcome returned) :
      BlockTyped r Γ valued ⟨body, span⟩ ⟨outcome.ty, outcome.alwaysReturns, returned⟩

/-- The statements of a block, of which only the last one may always return. -/
inductive StmtsTyped (r : Registry) : Context → Bool → List Stmt → ExprOutcome → List Ty → Prop
  | nil {Γ valued} : StmtsTyped r Γ valued [] (.value .unit) []
  | last {Γ Γ' valued stmt outcome returned}
      (typed : StmtTyped r Γ ⟨false, valued⟩ stmt outcome Γ' returned) :
      StmtsTyped r Γ valued [stmt] ⟨outcome.ty.getD .unit, outcome.alwaysReturns⟩ returned
  | cons {Γ Γ' valued stmt next rest first outcome before behind}
      (typed : StmtTyped r Γ ⟨false, false⟩ stmt first Γ' before)
      (goesOn : first.alwaysReturns = false)
      (more : StmtsTyped r Γ' valued (next :: rest) outcome behind) :
      StmtsTyped r Γ valued (stmt :: next :: rest) outcome (before ++ behind)

/-- The outcome of a statement, the context behind it and the types that it returns. -/
inductive StmtTyped (r : Registry) :
    Context → Place → Stmt → StmtOutcome → Context → List Ty → Prop
  | struct {Γ place decl} : StmtTyped r Γ place (.struct decl) {} Γ []
  | enum {Γ place decl} : StmtTyped r Γ place (.enum decl) {} Γ []
  | imports {Γ place i} :
      StmtTyped r Γ place (.imports i) {} (Γ.bindAll i.names (i.names.map fun _ => .any)) []
  | var {Γ Γ' place decl returned} (typed : VarTyped r Γ decl Γ' returned) :
      StmtTyped r Γ place (.var decl) {} Γ' returned
  | function {Γ place signature body params declared outcome result}
      (paramTypes : List.Forall₂ (fun param ty => r.Denotes param.ascription ty)
        signature.params params)
      (resultType : ∀ ty, declared = some ty → r.Denotes signature.result ty)
      (isDeclared : declared.isSome = signature.result.isSome)
      (bodyTyped : BlockTyped r
        (((Γ.bind signature.name (.fn params (declared.getD .unknown))).bindAll
          (signature.params.map Param.name) params).enter declared) declared.isNone body outcome)
      (results : Rules.Results outcome declared result) :
      StmtTyped r Γ place (.function signature body) {}
        (Γ.bind signature.name (.fn params result)) []
  | print {Γ place raw args span returned} (typed : PrintedTyped r Γ args returned) :
      StmtTyped r Γ place (.print raw args span) {} Γ returned
  | returnsValue {Γ place value span expected outcome returned}
      (inside : Γ.function = some expected) (typed : ExprTyped r Γ value outcome returned)
      (isValue : outcome.ty.isUnit = false)
      (fits : ∀ ty, expected = some ty → outcome.ty.compatible ty = true) :
      StmtTyped r Γ place (.returns (some value) span) { alwaysReturns := true } Γ
        (returned ++ [outcome.ty])
  | returns {Γ place span expected} (inside : Γ.function = some expected)
      (fits : ∀ ty, expected = some ty → Ty.compatible .unit ty = true) :
      StmtTyped r Γ place (.returns none span) { alwaysReturns := true } Γ [.unit]
  | expr {Γ place value span outcome returned}
      (needed : place.valued = true ∨ value.isEffectful = true)
      (typed : ExprTyped r Γ value outcome returned) :
      StmtTyped r Γ place (.expr value span)
        ⟨outcome.alwaysReturns, if place.valued then some outcome.ty else none⟩ Γ returned

/-- A variable has the type of its value, or the written type if the value fits it. -/
inductive VarTyped (r : Registry) : Context → VarDecl → Context → List Ty → Prop
  | inferred {Γ name mutable value exported span outcome returned}
      (typed : ExprTyped r Γ value outcome returned) (isValue : outcome.ty.isUnit = false) :
      VarTyped r Γ ⟨name, mutable, none, value, exported, span⟩ (Γ.bind name outcome.ty) returned
  | written {Γ name mutable written value exported span ty outcome returned}
      (typed : ExprTyped r Γ value outcome returned) (isValue : outcome.ty.isUnit = false)
      (denotes : r.Denotes (some written) ty) (fits : outcome.ty.compatible ty = true) :
      VarTyped r Γ ⟨name, mutable, some written, value, exported, span⟩ (Γ.bind name ty) returned

end

/-- The statements of a module, each in the context that those in front of it leave. -/
inductive TopLevelTyped (r : Registry) : Context → List Stmt → Prop
  | nil {Γ} : TopLevelTyped r Γ []
  | cons {Γ Γ' stmt rest outcome returned}
      (first : StmtTyped r Γ ⟨true, false⟩ stmt outcome Γ' returned)
      (more : TopLevelTyped r Γ' rest) : TopLevelTyped r Γ (stmt :: rest)

end ModuleCheck
