import ModuleCheck.Proofs.CommonTypes
import ModuleCheck.Proofs.Reached
import ModuleCheck.Proofs.Registered
import ModuleCheck.Proofs.TypeTexts
import ModuleCheck.Proofs.Warnings

namespace ModuleCheck

/-!
Reports that quote two types.

Seven kinds of reports show a type next to another one that does not fit it.  Each of them is made
by a rule that has compared two types and found them incompatible, and in every state of a check
the types that rules are asked about are known.  So the two texts of such a report belong to types
that differ, and as long as the names of the declared types can be told from the brackets around
them, the texts differ as well.
-/

open Check

namespace Issue

variable {r : Registry} {issue : Issue}

/-- The texts of the two types that a mismatch quotes. -/
def quotedTypes? : Issue → Option (String × String)
  | comparisonMismatch left right _ => some (left, right)
  | argumentMismatch _ expected received => some (expected, received)
  | fieldMismatch _ _ expected received => some (expected, received)
  | payloadMismatch _ _ expected received => some (expected, received)
  | typeMismatch _ expected received => some (expected, received)
  | returnMismatch expected received => some (expected, received)
  | incompatibleTypes _ left right => some (left, right)
  | _ => none

/-- The kinds of the issues that quote two types. -/
def mismatchKinds : List String :=
  ["TypeMatchError", "ArgumentTypeMatchError", "FieldTypeMatchError", "PayloadTypeMatchError",
    "ReturnTypeMatchError", "ComparisonTypeMatchError", "IncompatibleTypes"]

theorem isSome_quotedTypes? (issue : Issue) :
    issue.quotedTypes?.isSome = true ↔ issue.kind ∈ mismatchKinds := by
  cases issue <;> simp [quotedTypes?, kind, mismatchKinds]

/-- If the issue quotes two types, then they are known and not compatible. -/
def Founded (r : Registry) (issue : Issue) : Prop :=
  ∀ texts, issue.quotedTypes? = some texts →
    ∃ t u : Ty, t.Known r ∧ u.Known r ∧ t.compatible u = false ∧ texts = (t.text, u.text)

theorem founded_of_quoted {t u : Ty} (known : t.Known r) (known' : u.Known r)
    (apart : t.compatible u = false) (quoted : issue.quotedTypes? = some (t.text, u.text)) :
    issue.Founded r := by
  intro texts same
  rw [quoted] at same
  cases same
  exact ⟨t, u, known, known', apart, rfl⟩

theorem founded_of_plain (plain : issue.quotedTypes? = none) : issue.Founded r := by
  intro texts same
  rw [plain] at same
  cases same

/-- What a visit reports by itself quotes no types. -/
theorem founded_of_isDirect (direct : issue.isDirect = true) : issue.Founded r := by
  apply founded_of_plain
  cases issue <;> first | rfl | cases direct

/-- Only rules quote two types. -/
theorem founded_of_origin (other : issue.origin ≠ .rule) : issue.Founded r := by
  apply founded_of_plain
  cases issue <;> first | rfl | exact absurd rfl other

end Issue

/-! Lists of reports. -/

namespace Diagnostic

variable {r : Registry} {ds ds' : List Diagnostic}

/-- The two types of every mismatch among the diagnostics are known and not compatible. -/
def Founded (r : Registry) (ds : List Diagnostic) : Prop := ∀ d ∈ ds, d.issue.Founded r

@[simp]
theorem founded_nil : Founded r [] := by simp [Founded]

@[simp]
theorem founded_append : Founded r (ds ++ ds') ↔ Founded r ds ∧ Founded r ds' := by
  simp [Founded, or_imp, forall_and]

@[simp]
theorem founded_cons (issue : Issue) (span : Option Span) :
    Founded r (Diagnostic.error issue span :: ds) ↔ issue.Founded r ∧ Founded r ds := by
  simp [Founded, Diagnostic.error]

theorem founded_map {α : Type} {report : α → Diagnostic} {xs : List α}
    (plain : ∀ x, (report x).issue.quotedTypes? = none) : Founded r (xs.map report) :=
  List.forall_mem_map.mpr fun x _ => Issue.founded_of_plain (plain x)

theorem Among.founded {origins : List Issue.Origin} (among : Among origins ds)
    (apart : .rule ∉ origins) : Founded r ds := by
  intro d member
  apply Issue.founded_of_origin
  intro same
  exact apart (same ▸ among d member)

end Diagnostic

namespace Reported

variable {α β : Type} {r : Registry} {condition : Bool} {issue : Issue} {span : Option Span}

/-- The rule reports mismatches between known and incompatible types only. -/
def Founded (r : Registry) (rule : Reported α) : Prop := Diagnostic.Founded r rule.diagnostics

@[simp]
theorem founded_pure (value : α) : (pure value : Reported α).Founded r := Diagnostic.founded_nil

@[simp]
theorem founded_bind (rule : Reported α) (next : α → Reported β) :
    (rule >>= next).Founded r ↔ rule.Founded r ∧ (next rule.value).Founded r :=
  Diagnostic.founded_append

@[simp]
theorem founded_map (f : α → β) (rule : Reported α) :
    (f <$> rule).Founded r ↔ rule.Founded r := by
  simp [Founded]

@[simp]
theorem founded_error : (error issue span).Founded r ↔ issue.Founded r := by
  simp [Founded, error]

@[simp]
theorem founded_require :
    (require condition issue span).Founded r ↔ (condition = false → issue.Founded r) := by
  cases condition <;> simp [Founded, require]

@[simp]
theorem founded_test :
    (test condition issue span).Founded r ↔ (condition = false → issue.Founded r) := by
  cases condition <;> simp [Founded, test]

end Reported

/-! Rules about known types. -/

attribute [local simp] Issue.quotedTypes? Issue.Founded

namespace Rules

open Reported

variable {r : Registry}

theorem founded_requireCompatible {actual expected : Ty} {issue : Issue} {span : Span} :
    (requireCompatible actual expected issue span).Founded r ↔
      (actual.compatible expected = false → issue.Founded r) := by
  simp [requireCompatible, testCompatible]

/-- A comparison of what was found with what was expected. -/
theorem founded_expected {actual expected : Ty} (known : actual.Known r)
    (known' : expected.Known r) {issue : Issue}
    (quoted : issue.quotedTypes? = some (expected.text, actual.text)) (span : Span) :
    (requireCompatible actual expected issue span).Founded r := by
  refine founded_requireCompatible.mpr fun apart => ?_
  rw [Ty.compatible_comm] at apart
  exact Issue.founded_of_quoted known' known apart quoted

theorem founded_requireValue (ty : Ty) (what : String) (span : Span) :
    (requireValue ty what span).Founded r := by
  simp [requireValue, testValue]

theorem founded_requireBranchValue (branch : ExprOutcome) (what : String) (span : Span) :
    (requireBranchValue branch what span).Founded r := by
  unfold requireBranchValue testBranchValue
  split <;> simp [testValue]

theorem founded_join {members : List Ty} (known : ∀ ty ∈ members, ty.Known r) (context : String)
    (span : Option Span) : (join members context span).Founded r := by
  unfold join
  cases joined : Ty.join members with
  | ok ty => exact founded_pure _
  | error conflict =>
    have clash := Ty.clash_of_join joined
    refine (founded_bind _ _).mpr ⟨founded_error.mpr ?_, founded_pure _⟩
    exact Issue.founded_of_quoted (known _ clash.left_mem) (known _ clash.right_mem)
      clash.incompatible rfl

theorem founded_unary (op : UnaryOp) (operand : Ty) (span : Span) :
    (unary op operand span).Founded r := by
  cases op <;> simp [unary]

theorem founded_binary {left right : Operand} (first : left.ty.Known r)
    (second : right.ty.Known r) (op : BinaryOp) (span : Span) :
    (binary op left right span).Founded r := by
  unfold binary
  split
  · simp [requireInt]
  · simp [requireInt]
  · refine (founded_bind _ _).mpr ⟨founded_requireCompatible.mpr fun apart => ?_, founded_pure _⟩
    exact Issue.founded_of_quoted first second apart rfl
  · simp [requireBool]

theorem founded_arguments {params : List Ty} {args : List Operand}
    (expected : ∀ param ∈ params, param.Known r) (given : ∀ arg ∈ args, arg.ty.Known r)
    (position : Nat) : (arguments position params args).Founded r := by
  fun_induction arguments position params args with
  | case1 position param params arg args ih =>
    rcases List.forall_mem_cons.mp expected with ⟨param_known, params_known⟩
    rcases List.forall_mem_cons.mp given with ⟨arg_known, args_known⟩
    exact (founded_bind _ _).mpr
      ⟨founded_expected arg_known param_known rfl _, ih params_known args_known⟩
  | case2 => exact founded_pure _

theorem founded_call {callee : Ty} {args : List Operand} (called : callee.Known r)
    (given : ∀ arg ∈ args, arg.ty.Known r) (span : Span) :
    (call callee args span).Founded r := by
  cases called with
  | fn params_known result_known =>
    rw [call, founded_bind]
    refine ⟨by simp, ?_⟩
    split
    · simp [founded_arguments params_known given]
    · simp
  | _ => simp [call]

theorem founded_condition (operand : Operand) : (condition operand).Founded r := by
  simp [condition]

theorem founded_guard (operand : Operand) : (guard operand).Founded r := by
  simp [guard]

theorem founded_branches {consequence alternative : ExprOutcome}
    (first : consequence.ty.Known r) (second : alternative.ty.Known r) (span : Span) :
    (branches consequence alternative span).Founded r := by
  unfold branches
  split
  · exact founded_pure _
  · have known : ∀ ty ∈ valueTypes [consequence, alternative], ty.Known r :=
      valueTypes_known (by simp [first, second])
    simp [founded_join known, founded_requireValue]

theorem founded_arms {outcomes : List ExprOutcome}
    (known : ∀ outcome ∈ outcomes, outcome.ty.Known r) (span : Span) :
    (arms outcomes span).Founded r := by
  unfold arms
  split
  · exact founded_pure _
  · simp [founded_join (valueTypes_known known)]

theorem founded_armValue (body : ExprOutcome) (span : Span) :
    (armValue body span).Founded r := by
  simp [armValue]

theorem founded_fieldName (struct : String) (fields : Fields) (given : List String)
    (field : String) (span : Span) : (fieldName struct fields given field span).Founded r := by
  simp [fieldName]

theorem founded_fieldValue {fields : Fields} {value : Operand}
    (declared : ∀ name ty, fields.get? name = some ty → ty.Known r) (known : value.ty.Known r)
    (struct field : String) : (fieldValue struct fields field value).Founded r := by
  unfold fieldValue
  refine (founded_bind _ _).mpr ⟨founded_requireValue _ _ _, ?_⟩
  split
  · exact founded_pure _
  · rename_i found
    exact founded_expected known (declared _ _ found) rfl _

theorem founded_missingFields (struct : String) (fields : Fields) (given : List String)
    (span : Span) : (missingFields struct fields given span).Founded r :=
  Diagnostic.founded_map fun _ => rfl

theorem founded_payloadPresence (variant : String) (declared : Option Payload) (given : Bool)
    (span : Span) : (payloadPresence variant declared given span).Founded r := by
  cases declared <;> cases given <;> simp [payloadPresence]

theorem founded_payloadValue {declared : Option Payload} {value : Operand}
    (carried : ∀ payload, declared = some payload → payload.type.Known r)
    (known : value.ty.Known r) (enum variant : String) :
    (payloadValue enum variant declared value).Founded r := by
  refine (founded_bind _ _).mpr ⟨founded_requireValue _ _ _, ?_⟩
  cases declared with
  | none => exact founded_pure _
  | some payload => exact founded_expected known (carried payload rfl) rfl _

theorem founded_variableType {registry : Registry} {value : Operand}
    (resolved : ∀ t, (registry.resolve t).value.Known r) (known : value.ty.Known r)
    (ascription : Option TypeExpr) (name : String) (span : Span) :
    (variableType name (ascription.map fun t => registry.resolve (some t)) value
      span).Founded r := by
  refine (founded_bind _ _).mpr ⟨founded_requireValue _ _ _, ?_⟩
  cases ascription with
  | none => exact founded_pure _
  | some t =>
    refine (founded_bind _ _).mpr ⟨(registry.among_resolve (some t)).founded (by decide), ?_⟩
    refine (founded_bind _ _).mpr ⟨?_, founded_pure _⟩
    exact founded_expected known (resolved (some t)) rfl _

theorem founded_returned {expected : Option Ty} {value : Option Operand}
    (declared : ∀ ty, expected = some ty → ty.Known r)
    (known : ∀ operand ∈ value, operand.ty.Known r) (span : Span) :
    (returned expected value span).Founded r := by
  cases value with
  | none => cases expected <;> simp [returned]
  | some operand =>
    refine (founded_bind _ _).mpr ⟨founded_requireValue _ _ _, ?_⟩
    cases expected with
    | none => simp
    | some ty =>
      refine (founded_bind _ _).mpr ⟨?_, founded_pure _⟩
      exact founded_expected (known operand rfl) (declared ty rfl) rfl _

theorem founded_functionResult {body : BlockOutcome}
    (returned : ∀ ty ∈ body.returns, ty.Known r) (known : body.ty.Known r) (name : String)
    (expected : Option Ty) (span : Span) :
    (functionResult name expected body span).Founded r := by
  cases expected with
  | none => exact founded_join (withImplicitReturn_known returned known _) _ _
  | some ty => simp [functionResult]

end Rules

namespace Arms

open Diagnostic

variable {r : Registry}

theorem founded_duplicatesAfter (seen : List String) (arms : List VariantArm) :
    Founded r (duplicatesAfter seen arms) := by
  fun_induction duplicatesAfter seen arms <;> simp_all

theorem founded_unreachableAfter (handled : List String) (arms : List VariantArm) :
    Founded r (unreachableAfter handled arms) := by
  fun_induction unreachableAfter handled arms <;> simp_all

theorem founded_misplacedWildcard (arms : List Arm) : Founded r (misplacedWildcard arms) := by
  fun_induction misplacedWildcard arms <;> simp_all

theorem founded_missingVariants (registry : Registry) (enum : String) (m : Match) :
    Founded r (missingVariants registry enum m) := by
  unfold missingVariants
  split
  · exact founded_nil
  · split
    · exact founded_nil
    · exact founded_map fun _ => rfl

theorem founded_findings (registry : Registry) (enum? : Option String) (m : Match) :
    Founded r (findings registry enum? m) := by
  cases enum? with
  | none => exact founded_misplacedWildcard _
  | some enum =>
    simp [findings, duplicates, unreachable, founded_duplicatesAfter, founded_unreachableAfter,
      founded_misplacedWildcard, founded_missingVariants]

theorem founded_bindingType (registry : Registry) (matched : Option String)
    (enum variant : String) (binds : Bool) (span : Span) :
    (bindingType registry matched enum variant binds span).Founded r := by
  unfold bindingType
  cases matched <;> cases registry.variant? enum variant with
  | none => simp
  | some payload => cases payload <;> simp

end Arms

/-- What a rule reports on known types is founded. -/
theorem Ruling.founded {α : Type} {r : Registry} {types : α → List Ty} {rule : Reported α}
    (ruling : Ruling (Ty.Known r) types rule) : rule.Founded r := by
  cases ruling with
  | unary op operand span => exact Rules.founded_unary op operand span
  | binary first second op span => exact Rules.founded_binary first second op span
  | call called given span => exact Rules.founded_call called given span
  | requireValue ty what span => exact Rules.founded_requireValue ty what span
  | requireBranchValue branch what span => exact Rules.founded_requireBranchValue branch what span
  | condition operand => exact Rules.founded_condition operand
  | branches first second span => exact Rules.founded_branches first second span
  | guard operand => exact Rules.founded_guard operand
  | armValue body span => exact Rules.founded_armValue body span
  | arms known span => exact Rules.founded_arms known span
  | bindingType registry matched enum variant binds span =>
    exact Arms.founded_bindingType registry matched enum variant binds span
  | fieldName struct fields given field span =>
    exact Rules.founded_fieldName struct fields given field span
  | fieldValue declared known struct field =>
    exact Rules.founded_fieldValue declared known struct field
  | missingFields struct fields given span =>
    exact Rules.founded_missingFields struct fields given span
  | payloadPresence variant declared given span =>
    exact Rules.founded_payloadPresence variant declared given span
  | payloadValue carried known enum variant =>
    exact Rules.founded_payloadValue carried known enum variant
  | variableType resolved known name ascription span =>
    exact Rules.founded_variableType resolved known ascription name span
  | returned declared known span => exact Rules.founded_returned declared known span
  | params registry params => exact (among_resolveParams registry params).founded (by decide)
  | result registry written => exact (registry.among_resolve written).founded (by decide)
  | functionResult declared known returned name span =>
    exact Rules.founded_functionResult returned known name _ span

/-! Steps. -/

namespace Check

variable {α β : Type} {r : Registry} {types : α → List Ty} {types' : β → List Ty}

/-- In every run of the step from a state that fits the registry, what is reported is founded.  The
step yields known types and leaves a state that fits the registry, so that the same can be said of
the steps behind it. -/
structure Grounds (r : Registry) (types : α → List Ty) (step : Check α) : Prop where
  preserves : Preserves r types step
  founded : ∀ c : Checker, c.Consistent r →
    ∀ d ∈ (after step c).diagnostics, d ∈ c.diagnostics ∨ d.issue.Founded r

namespace Grounds

theorem bind {step : Check α} {next : α → Check β} (first : Grounds r types step)
    (rest : ∀ value, (∀ ty ∈ types value, ty.Known r) → Grounds r types' (next value)) :
    Grounds r types' (step >>= next) where
  preserves := first.preserves.bind fun value known => (rest value known).preserves
  founded := by
    intro c consistent d member
    rcases first.preserves c consistent with ⟨between, yielded⟩
    rcases (rest _ yielded).founded _ between d member with earlier | founded
    · exact first.founded c consistent d earlier
    · exact Or.inr founded

theorem silent {step : Check α} (preserves : Preserves r types step)
    (same : ∀ c, (after step c).diagnostics = c.diagnostics) : Grounds r types step :=
  ⟨preserves, fun c _ _ member => Or.inl (same c ▸ member)⟩

theorem pure {value : α} (known : ∀ ty ∈ types value, ty.Known r) :
    Grounds r types (Pure.pure value : Check α) :=
  silent (.pure known) fun _ => rfl

theorem emit {ds : List Diagnostic} (founded : Diagnostic.Founded r ds) :
    Grounds r (fun _ => []) (emit ds) :=
  ⟨.emit ds, fun _ _ d member => (List.mem_append.mp member).imp_right (founded d)⟩

theorem error {issue : Issue} (span : Option Span) (direct : issue.isDirect = true) :
    Grounds r (fun _ => []) (error issue span) :=
  emit ((Diagnostic.founded_cons _ _).mpr
    ⟨Issue.founded_of_isDirect direct, Diagnostic.founded_nil⟩)

theorem settle {rule : Reported α} (ruling : Ruling (Ty.Known r) types rule) :
    Grounds r types (settle rule) :=
  (emit ruling.founded).bind fun _ _ => pure ruling.known

theorem registry {next : Registry → Check α} (rest : Grounds r types (next r)) :
    Grounds r types (registry >>= next) where
  preserves := .registry rest.preserves
  founded := by
    intro c consistent
    rw [after_bind, result_registry, after_registry, consistent.registry]
    exact rest.founded c consistent

theorem useName (name : String) (span : Option Span) :
    Grounds r (fun ty => [ty]) (useName name span) := by
  refine ⟨.useName name span, fun c consistent => ?_⟩
  cases bound : c.environment.lookup? name with
  | none =>
    rw [(useName_of_unbound bound span).2]
    exact (error span rfl).founded c consistent
  | some binding =>
    rw [(useName_of_bound bound span).2]
    exact fun _ => Or.inl

theorem exitScope : Grounds r (fun _ => []) exitScope := by
  refine ⟨.exitScope, fun c consistent => ?_⟩
  cases popped : c.environment.pop? with
  | none =>
    rw [after_exitScope_global popped]
    exact fun _ => Or.inl
  | some pair =>
    rw [after_exitScope popped]
    exact (emit ((Scope.among_unusedLocals _ _).founded (by decide))).founded c consistent

theorem matchedEnum? (m : Match) (ty : Ty) : Grounds r (fun _ => []) (matchedEnum? m ty) := by
  refine silent (.matchedEnum? m ty) fun c => ?_
  rw [after_matchedEnum?]

theorem hoist (topLevel : Bool) (stmts : List Stmt) :
    Grounds r (fun _ => []) (hoist topLevel stmts) :=
  silent (.hoist topLevel stmts) (diagnostics_hoist topLevel stmts)

theorem bindVariant (matched : Option String) (enum variant : String) (binding : Option String)
    (span : Span) :
    Grounds r (fun _ => []) (bindVariant matched enum variant binding span) := by
  refine ⟨.bindVariant matched enum variant binding span, fun c consistent d member => ?_⟩
  have reported : (after (Check.bindVariant matched enum variant binding span) c).diagnostics =
      c.diagnostics ++
        (Arms.bindingType c.registry matched enum variant binding.isSome span).diagnostics := by
    cases binding <;> rfl
  rw [reported] at member
  exact (List.mem_append.mp member).imp_right (Arms.founded_bindingType _ _ _ _ _ _ d)

theorem openFunction (signature : Signature) (topLevel : Bool) :
    Grounds r Option.toList (openFunction signature topLevel) := by
  refine ⟨.openFunction signature topLevel, fun c _ d member => ?_⟩
  rw [diagnostics_openFunction] at member
  exact (List.mem_append.mp member).imp_right
    ((signature.among_reports c.registry).founded (by decide) d)

theorem closeFunction {expected : Option Ty} {body : BlockOutcome} (signature : Signature)
    (declared : ∀ ty, expected = some ty → ty.Known r) (known : body.ty.Known r)
    (returned : ∀ ty ∈ body.returns, ty.Known r) :
    Grounds r (fun _ => []) (closeFunction signature expected body) :=
  (silent .popFrame fun _ => rfl).bind fun _ _ =>
    (settle (.functionResult declared known returned _ _)).bind fun _ yielded =>
    exitScope.bind fun _ _ =>
    silent (.setResult _ (List.forall_mem_singleton.mp yielded)) fun _ => rfl

theorem visitVar (flags : Flags) (decl : VarDecl)
    (visited : Grounds r (fun outcome => [outcome.ty]) (visitExpr decl.value)) :
    Grounds r (fun _ => []) (visitVar flags decl) := by
  refine ⟨.visitVar flags decl visited.preserves, fun c consistent d member => ?_⟩
  rcases decl with ⟨name, mutable, ascription, value, exported, span⟩
  have initial : Grounds r (fun ty => [ty]) (visitInitial name ascription value span) :=
    visited.bind fun _ known => registry (settle
      (.variableType (Registry.resolve_known r) (List.forall_mem_singleton.mp known) _ _ _))
  -- The declaration of the variable reports nothing.
  have same : (after (Check.visitVar flags ⟨name, mutable, ascription, value, exported, span⟩)
      c).diagnostics = (after (visitInitial name ascription value span) c).diagnostics := by
    rw [visitVar_eq]
    cases value <;> rfl
  exact initial.founded c consistent d (same ▸ member)

/-! The visits. -/

theorem steps (r : Registry) :
    Compositional (Ty.Known r) fun _ _ {_} types step => Grounds r types step where
  basic := (Preserves.steps r).basic
  pure := .pure
  bind := .bind
  settle := .settle
  error := .error
  reportArms := fun _ _ => registry (emit (Arms.founded_findings _ _ _))
  useName := .useName
  structFields? := fun struct => silent (.structFields? struct) fun _ => rfl
  enumVariants? := fun enum => silent (.enumVariants? enum) fun _ => rfl
  expectedResult? := silent .expectedResult? fun _ => rfl
  matchedEnum? := .matchedEnum?
  recordReturn := fun known => silent (.recordReturn known) (diagnostics_modifyReturns _)
  declare := fun name flags span known => silent (.declare name flags span known) fun _ => rfl
  bindVariant := .bindVariant
  inScope := fun inside => (silent .enterScope fun _ => rfl).bind fun _ _ =>
    inside.bind fun _ known => exitScope.bind fun _ _ => .pure known
  visitVar := .visitVar
  visitFunction := by
    intro l place signature body visited
    rw [visitStmt]
    refine (openFunction _ _).bind fun _ declared => (visited _).bind fun _ known => ?_
    rcases List.forall_mem_cons.mp known with ⟨valued, returned⟩
    have declared := fun ty same => declared ty (Option.mem_toList.mpr same)
    exact (closeFunction signature declared valued returned).bind fun _ _ =>
      .pure (List.forall_mem_nil _)
  visitDead := fun _ _ visited => (error _ rfl).bind fun _ _ =>
    (silent .returnsSeen fun _ => rfl).bind fun _ _ => visited.bind fun _ _ =>
    silent (.truncateReturns _) (diagnostics_modifyReturns _)
  visitBlock := by
    intro l _ valued body span visited
    rw [visitBlock]
    exact (silent .enterScope fun _ => rfl).bind fun _ _ => (hoist _ _).bind fun _ _ =>
      (silent .returnsSeen fun _ => rfl).bind fun _ _ => visited.bind fun _ known =>
      exitScope.bind fun _ _ =>
      (silent (.returnsSince _) (diagnostics_returnsSince _)).bind fun _ returned =>
      .pure (List.forall_mem_cons.mpr ⟨List.forall_mem_singleton.mp known, returned⟩)

end Grounds

end Check

/-! Whole modules. -/

namespace Module

/-- The names of the declared structs and enums. -/
def nominalNames (m : Module) : List String :=
  m.structDecls.map StructDecl.name ++ m.enumDecls.map EnumDecl.name

theorem mem_nominalNames {m : Module} {options : Options} {name : String}
    (declared : (Registry.empty.register options m.body).value.structs.contains name = true ∨
      (Registry.empty.register options m.body).value.enums.contains name = true) :
    name ∈ m.nominalNames := by
  have same := Registry.sameNames_register Registry.empty options m.body
  rw [same.structs, same.enums] at declared
  exact List.mem_append.mpr (declared.imp (m.structs_named name).mp (m.enums_named name).mp)

/-- Every mismatch that a check reports is between known types that are not compatible. -/
theorem founded_check (m : Module) (options : Options) :
    ∀ d ∈ m.check options, d.issue.Founded (Registry.empty.register options m.body).value := by
  rw [check_eq]
  refine List.forall_mem_append.mpr ⟨fun d member => ?_, Diagnostic.founded_map fun _ => rfl⟩
  have visited : Grounds (Registry.empty.register options m.body).value _ (visitTopLevel m.body) :=
    (Grounds.steps _).topLevel ⟨0, 0⟩ m.body
  have whole := (Grounds.hoist true m.body).bind fun _ _ => visited
  rcases whole.founded _ (m.consistent_register options) d member with registered | founded
  · exact (Registry.empty.among_register options m.body).founded (by decide) d registered
  · exact founded

/-- A type is told by its text, as long as no struct or enum in it has a closing bracket in its
name.  So are the two types of every mismatch that the check of a module reports: they are not
compatible, and unless a declared name has a closing bracket, their texts differ. -/
theorem mismatches_show_distinct_types :
    (∀ t u : Ty, t.Legible → u.Legible → t.text = u.text → t = u) ∧
      ∀ (m : Module) (options : Options), ∀ d ∈ m.check options,
        d.issue.kind ∈ Issue.mismatchKinds →
        ∃ t u : Ty, d.issue.quotedTypes? = some (t.text, u.text) ∧ t.compatible u = false ∧
          ((∀ name ∈ m.nominalNames, ')' ∉ name.toList) → t.text ≠ u.text) := by
  refine ⟨fun t u => Ty.text_inj, fun m options d member mismatch => ?_⟩
  rcases Option.isSome_iff_exists.mp (d.issue.isSome_quotedTypes?.mpr mismatch) with ⟨texts, quoted⟩
  rcases m.founded_check options d member texts quoted with ⟨t, u, known, known', apart, rfl⟩
  refine ⟨t, u, quoted, apart, fun plain same => ?_⟩
  have legible {ty : Ty} (known : ty.Known (Registry.empty.register options m.body).value) :
      ty.Legible := known.legible fun name declared => plain name (mem_nominalNames declared)
  rw [Ty.text_inj (legible known) (legible known') same, Ty.compatible_self] at apart
  cases apart

/-- Two functions that are compared, one of them about declared types. -/
theorem mismatches_show_distinct_types_functions :
    let place (n : Nat) : Span := ⟨n, n, "functions"⟩
    let named (name : String) : Option TypeExpr := some (.named name (place 0))
    let function (name type result : String) (n : Nat) : Stmt :=
      .function ⟨name, [⟨"_p", named type, place n⟩, ⟨"_n", named "Int", place n⟩], named result,
        true, place n⟩ ⟨[.returns (some (.identifier "_p" (place n))) (place n)], place n⟩
    let same : Stmt := .var ⟨"same", false, none,
      .binary .equal (.identifier "mark" (place 5)) (.identifier "take" (place 5)) (place 5), true,
      place 5⟩
    let m : Module := ⟨[.struct ⟨"Point", [], place 1⟩, .enum ⟨"Shape", [], place 2⟩,
      function "mark" "Point" "Shape" 3, function "take" "Int" "Int" 4, same]⟩
    let d := Diagnostic.error (.comparisonMismatch "fn(Struct(Point), Int)->Enum(Shape)"
      "fn(Int, Int)->Int" "==") (some (place 5))
    m.check {} = [.error (.returnMismatch "Enum(Shape)" "Struct(Point)") (some (place 3)), d] ∧
      (∀ name ∈ m.nominalNames, ')' ∉ name.toList) ∧
      (∃ t u : Ty, d.issue.quotedTypes? = some (t.text, u.text) ∧ t.compatible u = false ∧
        t.text ≠ u.text) ∧
      ∀ t : Ty, t.Legible → t.text = "fn(Struct(Point), Int)->Enum(Shape)" →
        t = .fn [.struct "Point", .int] (.enum "Shape") := by
  intro place named function same m d
  have reported : m.check {} =
      [.error (.returnMismatch "Enum(Shape)" "Struct(Point)") (some (place 3)), d] := by
    decide +kernel
  have plain : ∀ name ∈ m.nominalNames, ')' ∉ name.toList := by decide
  have member : d ∈ m.check {} := by simp [reported]
  rcases mismatches_show_distinct_types.2 m {} d member (by decide) with
    ⟨t, u, quoted, apart, distinct⟩
  refine ⟨reported, plain, ⟨t, u, quoted, apart, distinct plain⟩, fun ty legible shown => ?_⟩
  exact mismatches_show_distinct_types.1 ty (.fn [.struct "Point", .int] (.enum "Shape")) legible
    (by decide) (shown.trans (by decide))

end Module

end ModuleCheck
