import Mathlib.Data.List.Forall2
import ModuleCheck.Proofs.Errors
import ModuleCheck.Proofs.Joining

namespace ModuleCheck

/-!
What the rules ask for.

A rule that reports no error has found what it asks for, and its value is then determined by
the types that it was given.
-/

namespace Registry

/-- What a written type stands for; nothing is written for `unknown`. -/
inductive Denotes (r : Registry) : Option TypeExpr → Ty → Prop
  | missing : Denotes r none .unknown
  | any {span : Span} : Denotes r (some (.any span)) .any
  | named {name : String} {span : Span} {ty : Ty} (found : r.named? name = some ty) :
      Denotes r (some (.named name span)) ty

theorem denotes_of_resolve {r : Registry} {written : Option TypeExpr}
    (clean : (r.resolve written).errorCount = 0) : r.Denotes written (r.resolve written).value := by
  unfold resolve at clean ⊢
  split
  · exact .missing
  · exact .any
  · split
    · rename_i found
      exact .named found
    · rename_i missing
      simp [missing] at clean

end Registry

namespace Ty

/-- Unit is accepted where a type is asked for that is unit or absorbing. -/
theorem compatible_unit_iff (t : Ty) :
    compatible unit t = true ↔ (t.isConcrete = true → t.isUnit = true) := by
  cases t <;> simp [compatible, isConcrete, isAbsorbing, isUnit]

end Ty

namespace ExprOutcome

/-- The outcome gives a value or never comes to give one. -/
def Usable (outcome : ExprOutcome) : Prop :=
  outcome.alwaysReturns = true ∨ outcome.ty.isUnit = false

/-- The outcome of a choice between others: it always returns if all of them do, and else it has
the common type of those that give a value. -/
inductive Joined (outcomes : List ExprOutcome) : ExprOutcome → Prop
  | returning (some : outcomes ≠ [])
      (all : ∀ outcome ∈ outcomes, outcome.alwaysReturns = true) : Joined outcomes ⟨.unknown, true⟩
  | giving {ty : Ty}
      (reached : outcomes = [] ∨ ∃ outcome ∈ outcomes, outcome.alwaysReturns = false)
      (joins : Ty.Joins (Rules.valueTypes outcomes) ty) : Joined outcomes ⟨ty, false⟩

end ExprOutcome

namespace Rules

@[simp]
theorem errorCount_requireCompatible (actual expected : Ty) (issue : Issue) (span : Span) :
    (requireCompatible actual expected issue span).errorCount =
      if actual.compatible expected then 0 else 1 := by
  simp [requireCompatible, testCompatible]

@[simp]
theorem errorCount_requireValue (ty : Ty) (what : String) (span : Span) :
    (requireValue ty what span).errorCount = if ty.isUnit then 1 else 0 := by
  cases unit : ty.isUnit <;> simp [requireValue, testValue, unit]

@[simp]
theorem requireBranchValue_clean (branch : ExprOutcome) (what : String) (span : Span) :
    (requireBranchValue branch what span).errorCount = 0 ↔ branch.Usable := by
  unfold requireBranchValue testBranchValue testValue ExprOutcome.Usable
  cases branch.alwaysReturns <;> cases branch.ty.isUnit <;> simp

/-- A join without an error is the common type. -/
theorem joins_of_join {members : List Ty} {context : String} {span : Option Span}
    (clean : (join members context span).errorCount = 0) :
    Ty.Joins members (join members context span).value := by
  unfold join at clean ⊢
  cases joined : Ty.join members with
  | error conflict => simp [joined] at clean
  | ok ty => exact Ty.join_eq_ok_iff.mp joined

/-! Calls. -/

theorem value_call (params : List Ty) (result : Ty) (args : List Operand) (span : Span) :
    (call (.fn params result) args span).value = result := by
  by_cases fits : args.length = params.length <;> simp [call, fits]

theorem fits_of_arguments {position : Nat} {params : List Ty} {args : List Operand}
    (sameLength : args.length = params.length)
    (clean : (arguments position params args).errorCount = 0) :
    List.Forall₂ (fun arg param => Ty.compatible arg param = true) (args.map Operand.ty)
      params := by
  induction args generalizing position params with
  | nil =>
    cases params with
    | nil => exact .nil
    | cons param params => cases sameLength
  | cons arg args ih =>
    cases params with
    | nil => cases sameLength
    | cons param params =>
      simp only [arguments, Reported.errorCount_bind, errorCount_requireCompatible,
        Nat.add_eq_zero_iff, ite_eq_left_iff, Nat.one_ne_zero, imp_false, not_not] at clean
      exact .cons clean.1 (ih (Nat.succ.inj sameLength) clean.2)

/-- A clean call is one of a function, with as many fitting arguments as it has parameters. -/
theorem fits_of_call {callee : Ty} {args : List Operand} {span : Span}
    (clean : (call callee args span).errorCount = 0) :
    ∃ params result, callee = .fn params result ∧ (call callee args span).value = result ∧
      List.Forall₂ (fun arg param => Ty.compatible arg param = true)
        (args.map Operand.ty) params := by
  cases callee with
  | fn params result =>
    refine ⟨params, result, rfl, value_call _ _ _ _, ?_⟩
    by_cases sameLength : args.length = params.length
    · refine fits_of_arguments sameLength (?_ : (arguments 1 params args).errorCount = 0)
      simpa [call, sameLength] using clean
    · simp [call, sameLength] at clean
  | _ => simp [call] at clean

/-! Operators. -/

/-- The types of the operands and of the result of a binary operator. -/
inductive Operates (op : BinaryOp) : Ty → Ty → Ty → Prop
  | arithmetic {left right : Ty} (group : op.group = .arithmetic)
      (left_int : left.isIntish = true) (right_int : right.isIntish = true) :
      Operates op left right .int
  | relational {left right : Ty} (group : op.group = .relational)
      (left_int : left.isIntish = true) (right_int : right.isIntish = true) :
      Operates op left right .bool
  | equality {left right : Ty} (group : op.group = .equality)
      (same : left.compatible right = true) : Operates op left right .bool
  | logical {left right : Ty} (group : op.group = .logical)
      (left_bool : left.isBoolish = true) (right_bool : right.isBoolish = true) :
      Operates op left right .bool

/-- The types of the operand and of the result of a unary operator. -/
inductive Negates : UnaryOp → Ty → Ty → Prop
  | not {operand : Ty} (operand_bool : operand.isBoolish = true) : Negates .not operand .bool
  | neg {operand : Ty} : Negates .neg operand .unknown

theorem operates_of_binary {op : BinaryOp} {left right : Ty} {first second span : Span}
    (clean : (binary op ⟨left, first⟩ ⟨right, second⟩ span).errorCount = 0) :
    Operates op left right (binary op ⟨left, first⟩ ⟨right, second⟩ span).value := by
  unfold binary at clean ⊢
  cases group : op.group with
  | arithmetic =>
    have asked : left.isIntish = true ∧ right.isIntish = true := by
      simpa [group, requireInt] using clean
    exact .arithmetic group asked.1 asked.2
  | relational =>
    have asked : left.isIntish = true ∧ right.isIntish = true := by
      simpa [group, requireInt] using clean
    exact .relational group asked.1 asked.2
  | equality => exact .equality group (by simpa [group] using clean)
  | logical =>
    have asked : left.isBoolish = true ∧ right.isBoolish = true := by
      simpa [group, requireBool] using clean
    exact .logical group asked.1 asked.2

theorem negates_of_unary {op : UnaryOp} {operand : Ty} {span : Span}
    (clean : (unary op operand span).errorCount = 0) :
    Negates op operand (unary op operand span).value := by
  cases op with
  | not => exact .not (by simpa [unary] using clean)
  | neg => exact .neg

theorem condition_clean {ty : Ty} {span : Span} (clean : (condition ⟨ty, span⟩).errorCount = 0) :
    ty.isBoolish = true := by
  simpa [condition] using clean

theorem guard_clean {ty : Ty} {span : Span} (clean : (guard ⟨ty, span⟩).errorCount = 0) :
    ty.isBoolish = true := by
  simpa [guard] using clean

/-! Branches and arms. -/

theorem armValue_clean {body : ExprOutcome} {span : Span}
    (clean : (armValue body span).errorCount = 0) : body.Usable := by
  unfold ExprOutcome.Usable
  cases returning : body.alwaysReturns with
  | true => exact Or.inl rfl
  | false => exact Or.inr (by simpa [armValue, returning] using clean)

theorem joined_of_arms {outcomes : List ExprOutcome} {span : Span}
    (clean : (arms outcomes span).errorCount = 0) :
    ExprOutcome.Joined outcomes (arms outcomes span).value := by
  unfold arms at clean ⊢
  split
  · rename_i returning
    have both : outcomes ≠ [] ∧ ∀ outcome ∈ outcomes, outcome.alwaysReturns = true := by
      simpa using returning
    exact .returning both.1 both.2
  · rename_i giving
    rw [if_neg giving] at clean
    have reached : outcomes = [] ∨ ∃ outcome ∈ outcomes, outcome.alwaysReturns = false := by
      by_cases empty : outcomes = []
      · exact Or.inl empty
      · exact Or.inr (by simpa [empty] using giving)
    exact .giving reached (joins_of_join (by simpa using clean))

theorem joined_of_branches {consequence alternative : ExprOutcome} {span : Span}
    (clean : (branches consequence alternative span).errorCount = 0) :
    ExprOutcome.Joined [consequence, alternative]
        (branches consequence alternative span).value ∧
      (branches consequence alternative span).value.Usable := by
  unfold branches at clean ⊢
  split
  · rename_i returning
    have both : consequence.alwaysReturns = true ∧ alternative.alwaysReturns = true := by
      simpa using returning
    exact ⟨.returning (by simp) (by simpa using both), Or.inl rfl⟩
  · rename_i giving
    rw [if_neg giving] at clean
    have asked : (join (valueTypes [consequence, alternative]) "if branches"
        (some span)).errorCount = 0 ∧
        (join (valueTypes [consequence, alternative]) "if branches"
          (some span)).value.isUnit = false := by
      simpa using clean
    refine ⟨.giving (Or.inr ?_) (joins_of_join asked.1), Or.inr asked.2⟩
    cases first : consequence.alwaysReturns with
    | false => exact ⟨consequence, by simp, first⟩
    | true => exact ⟨alternative, by simp, by simpa [first] using giving⟩

/-! Fields and payloads. -/

theorem fieldName_clean {struct field : String} {fields : Fields} {given : List String}
    {span : Span} (clean : (fieldName struct fields given field span).errorCount = 0) :
    fields.contains field = true ∧ field ∉ given := by
  simpa [fieldName] using clean

theorem fieldValue_clean {struct field : String} {fields : Fields} {value ty : Ty} {span : Span}
    (declared : fields.get? field = some ty)
    (clean : (fieldValue struct fields field ⟨value, span⟩).errorCount = 0) :
    value.isUnit = false ∧ value.compatible ty = true := by
  simpa [fieldValue, declared] using clean

theorem missingFields_clean {struct : String} {fields : Fields} {given : List String}
    {span : Span} (clean : (missingFields struct fields given span).errorCount = 0) :
    ∀ field ∈ fields.keys, field ∈ given := by
  have none : ((fields.keys.filter fun field => !given.contains field).length) = 0 := by
    simpa [missingFields, Reported.errorCount] using clean
  intro field declared
  by_contra absent
  have kept : field ∈ fields.keys.filter fun field => !given.contains field :=
    List.mem_filter.mpr ⟨declared, by simpa using absent⟩
  rw [List.length_eq_zero_iff.mp none] at kept
  cases kept

theorem payloadPresence_clean {variant : String} {declared : Option Payload} {given : Bool}
    {span : Span} (clean : (payloadPresence variant declared given span).errorCount = 0) :
    declared.isSome = given := by
  cases declared <;> cases given <;> simp_all [payloadPresence]

theorem payloadValue_clean {enum variant : String} {payload : Payload} {value : Ty} {span : Span}
    (clean : (payloadValue enum variant (some payload) ⟨value, span⟩).errorCount = 0) :
    value.isUnit = false ∧ value.compatible payload.type = true := by
  simpa [payloadValue] using clean

/-! Variables and functions. -/

theorem variableType_inferred {name : String} {value : Ty} {place span : Span}
    (clean : (variableType name none ⟨value, place⟩ span).errorCount = 0) :
    value.isUnit = false := by
  simpa [variableType] using clean

theorem variableType_written {name : String} {resolved : Reported Ty} {value : Ty}
    {place span : Span}
    (clean : (variableType name (some resolved) ⟨value, place⟩ span).errorCount = 0) :
    value.isUnit = false ∧ resolved.errorCount = 0 ∧
      value.compatible resolved.value = true := by
  simpa [variableType] using clean

/-- A `return` without a value counts as one of unit. -/
theorem value_returned (expected : Option Ty) (value : Option Operand) (span : Span) :
    (returned expected value span).value = (value.map Operand.ty).getD .unit := by
  cases value <;> cases expected <;> rfl

/-- A clean `return` gives a value that fits the declared result. -/
theorem returned_clean {expected : Option Ty} {value : Option Operand} {span : Span}
    (clean : (returned expected value span).errorCount = 0) :
    (∀ operand ∈ value, operand.ty.isUnit = false) ∧
      ∀ ty ∈ expected, (returned expected value span).value.compatible ty = true := by
  rw [value_returned]
  cases value with
  | none =>
    refine ⟨fun _ member => (by cases member), ?_⟩
    rintro ty ⟨rfl⟩
    rw [Option.map_none, Option.getD_none, Ty.compatible_unit_iff]
    simpa [returned] using clean
  | some operand =>
    cases expected with
    | none => exact ⟨by simpa [returned] using clean, fun _ member => by cases member⟩
    | some ty =>
      have asked : operand.ty.isUnit = false ∧ operand.ty.compatible ty = true := by
        simpa [returned] using clean
      exact ⟨by simpa using asked.1, by simpa using asked.2⟩

theorem mem_withImplicitReturn {returns : List Ty} {member : Ty} (returned : member ∈ returns)
    (ty : Ty) (alwaysReturns : Bool) : member ∈ withImplicitReturn returns ty alwaysReturns := by
  have some : returns.isEmpty = false := by
    cases returns with
    | nil => cases returned
    | cons first rest => rfl
  cases alwaysReturns <;> simp [withImplicitReturn, some, returned]

theorem ty_mem_withImplicitReturn {returns : List Ty} {ty : Ty} {alwaysReturns : Bool}
    (goesOn : alwaysReturns = false) : ty ∈ withImplicitReturn returns ty alwaysReturns := by
  simp [withImplicitReturn, goesOn]

/-- The result of a function from what its body returns and how it ends. -/
inductive Results (body : BlockOutcome) : Option Ty → Ty → Prop
  | declared {ty : Ty}
      (complete : body.alwaysReturns = true ∨ Ty.compatible .unit ty = true) :
      Results body (some ty) ty
  | inferred {ty : Ty}
      (joins : Ty.Joins (withImplicitReturn body.returns body.ty body.alwaysReturns) ty) :
      Results body none ty

theorem results_of_functionResult {name : String} {expected : Option Ty} {body : BlockOutcome}
    {span : Span} (clean : (functionResult name expected body span).errorCount = 0) :
    Results body expected (functionResult name expected body span).value := by
  cases expected with
  | none => exact .inferred (joins_of_join clean)
  | some ty =>
    refine .declared ?_
    rw [Ty.compatible_unit_iff]
    cases complete : body.alwaysReturns with
    | true => exact Or.inl rfl
    | false => exact Or.inr (by simpa [functionResult, complete] using clean)

end Rules

namespace Arms

/-- A clean variant pattern names the matched enum, if there is one, and a declared variant; what
it binds has the type of the payload. -/
theorem bindingType_clean {r : Registry} {matched : Option String} {enum variant : String}
    {binds : Bool} {span : Span}
    (clean : (bindingType r matched enum variant binds span).errorCount = 0) :
    (∀ expected ∈ matched, expected = enum) ∧
      ∃ payload, r.variant? enum variant = some payload ∧
        (binds = true → ∃ carried, payload = some carried ∧
          (bindingType r matched enum variant binds span).value = carried.type) := by
  have named : ∀ expected ∈ matched, expected = enum := by
    rintro expected ⟨rfl⟩
    by_contra other
    simp [bindingType, other] at clean
  refine ⟨named, ?_⟩
  cases declared : r.variant? enum variant with
  | none => cases matched <;> simp [bindingType, declared] at clean
  | some payload =>
    refine ⟨payload, rfl, ?_⟩
    rintro rfl
    cases payload with
    | none => cases matched <;> simp [bindingType, declared] at clean
    | some carried => exact ⟨carried, rfl, by cases matched <;> simp [bindingType, declared]⟩

end Arms

end ModuleCheck
