import ModuleCheck.Proofs.Runs

namespace ModuleCheck

/-!
Where reports come from.

Each kind of issue is found in one place: where a name is looked up, where a scope is closed,
where statements follow each other, where a written type is read, where the members of a type
are entered, or by a typing rule.  Rules and the analysis of arms never report an issue of the
other origins.
-/

namespace Issue

/-- What finds an issue. -/
inductive Origin where
  /-- The use of a name. -/
  | name
  /-- The end of a scope. -/
  | scope
  /-- The position of a statement. -/
  | flow
  /-- A written type. -/
  | ascription
  /-- A member of a type declaration. -/
  | declaration
  /-- A typing rule or the analysis of the arms of a match. -/
  | rule
deriving DecidableEq

def origin : Issue → Origin
  | unknownIdentifier _ => .name
  | unusedVariable _ | unusedTopLevel _ => .scope
  | unreachableStatement | uselessExpression | returnOutsideFunction => .flow
  | unknownType _ => .ascription
  | reservedField .. | duplicateField .. | duplicateVariant .. => .declaration
  | _ => .rule

end Issue

namespace Diagnostic

open Issue (Origin)

/-- All diagnostics have one of the given origins. -/
def Among (origins : List Origin) (ds : List Diagnostic) : Prop :=
  ∀ d ∈ ds, d.issue.origin ∈ origins

/-- The diagnostics that have one of the given origins, in order. -/
def ofOrigins (origins : List Origin) (ds : List Diagnostic) : List Diagnostic :=
  ds.filter fun d => d.issue.origin ∈ origins

variable {origins others : List Origin} {ds ds' : List Diagnostic}

@[simp]
theorem among_nil : Among origins [] := by simp [Among]

@[simp]
theorem among_append : Among origins (ds ++ ds') ↔ Among origins ds ∧ Among origins ds' := by
  simp [Among, or_imp, forall_and]

@[simp]
theorem among_cons (issue : Issue) (span : Option Span) :
    Among origins (Diagnostic.error issue span :: ds) ↔
      issue.origin ∈ origins ∧ Among origins ds := by
  simp [Among, Diagnostic.error]

theorem among_map {α : Type} {report : α → Diagnostic} {xs : List α}
    (each : ∀ x, (report x).issue.origin ∈ origins) : Among origins (xs.map report) := by
  intro d member
  rcases List.mem_map.mp member with ⟨x, _, rfl⟩
  exact each x

theorem Among.mono (among : Among origins ds) (within : origins ⊆ others) : Among others ds :=
  fun d member => within (among d member)

@[simp]
theorem ofOrigins_nil : ofOrigins origins [] = [] := rfl

@[simp]
theorem ofOrigins_append :
    ofOrigins origins (ds ++ ds') = ofOrigins origins ds ++ ofOrigins origins ds' :=
  List.filter_append _ _

/-- A choice among chosen diagnostics. -/
theorem ofOrigins_ofOrigins (within : origins ⊆ others) :
    ofOrigins origins (ofOrigins others ds) = ofOrigins origins ds := by
  unfold ofOrigins
  rw [List.filter_filter]
  apply List.filter_congr
  intro d _
  rw [Bool.eq_iff_iff]
  simpa using fun member => within member

theorem Among.ofOrigins_eq_nil (among : Among origins ds) (apart : ∀ o ∈ origins, o ∉ others) :
    ofOrigins others ds = [] := by
  apply List.filter_eq_nil_iff.mpr
  intro d member
  simpa using apart _ (among d member)

end Diagnostic

namespace Reported

open Issue (Origin)

variable {α β : Type} {origins others : List Origin}

/-- The rule reports issues of the given origins only. -/
def Among (origins : List Origin) (r : Reported α) : Prop := Diagnostic.Among origins r.diagnostics

theorem Among.mono {r : Reported α} (among : r.Among origins) (within : origins ⊆ others) :
    r.Among others :=
  Diagnostic.Among.mono among within

@[simp]
theorem among_pure (value : α) : (pure value : Reported α).Among origins := Diagnostic.among_nil

@[simp]
theorem among_bind (r : Reported α) (next : α → Reported β) :
    (r >>= next).Among origins ↔ r.Among origins ∧ (next r.value).Among origins :=
  Diagnostic.among_append

@[simp]
theorem among_map (f : α → β) (r : Reported α) : (f <$> r).Among origins ↔ r.Among origins := by
  simp [Among]

@[simp]
theorem among_error {issue : Issue} {span : Option Span} :
    (error issue span).Among origins ↔ issue.origin ∈ origins := by
  simp [Among, error]

@[simp]
theorem among_require {condition : Bool} {issue : Issue} {span : Option Span} :
    (require condition issue span).Among origins ↔
      condition = true ∨ issue.origin ∈ origins := by
  cases condition <;> simp [Among, require]

@[simp]
theorem among_test {condition : Bool} {issue : Issue} {span : Option Span} :
    (test condition issue span).Among origins ↔
      condition = true ∨ issue.origin ∈ origins := by
  cases condition <;> simp [Among, test]

end Reported

/-! Rules report issues of their own origin. -/

attribute [local simp] Issue.origin

namespace Rules

open Reported

theorem among_requireCompatible {origins : List Issue.Origin} (actual expected : Ty)
    (issue : Issue) (span : Span) :
    (requireCompatible actual expected issue span).Among origins ↔
      actual.compatible expected = true ∨ issue.origin ∈ origins := by
  simp [requireCompatible, testCompatible]

theorem among_requireValue (ty : Ty) (what : String) (span : Span) :
    (requireValue ty what span).Among [.rule] := by
  simp [requireValue, testValue]

theorem among_requireBranchValue (branch : ExprOutcome) (what : String) (span : Span) :
    (requireBranchValue branch what span).Among [.rule] := by
  unfold requireBranchValue testBranchValue
  split <;> simp [testValue]

theorem among_join (members : List Ty) (context : String) (span : Option Span) :
    (join members context span).Among [.rule] := by
  unfold join
  split <;> simp

theorem among_unary (op : UnaryOp) (operand : Ty) (span : Span) :
    (unary op operand span).Among [.rule] := by
  cases op <;> simp [unary]

theorem among_binary (op : BinaryOp) (left right : Operand) (span : Span) :
    (binary op left right span).Among [.rule] := by
  unfold binary
  split <;> simp [requireInt, requireBool, among_requireCompatible]

theorem among_arguments (position : Nat) (params : List Ty) (args : List Operand) :
    (arguments position params args).Among [.rule] := by
  fun_induction arguments position params args with
  | case1 position expected params arg args ih =>
    simp [among_requireCompatible, ih]
  | case2 => exact among_pure _

theorem among_call (callee : Ty) (args : List Operand) (span : Span) :
    (call callee args span).Among [.rule] := by
  unfold call
  split
  · rw [among_bind]
    refine ⟨by simp, ?_⟩
    split
    · simp [among_arguments]
    · simp
  · simp

theorem among_condition (operand : Operand) : (condition operand).Among [.rule] := by
  simp [condition]

theorem among_guard (operand : Operand) : (guard operand).Among [.rule] := by
  simp [guard]

theorem among_branches (consequence alternative : ExprOutcome) (span : Span) :
    (branches consequence alternative span).Among [.rule] := by
  unfold branches
  split <;> simp [among_join, among_requireValue]

theorem among_arms (outcomes : List ExprOutcome) (span : Span) :
    (arms outcomes span).Among [.rule] := by
  unfold arms
  split <;> simp [among_join]

theorem among_armValue (body : ExprOutcome) (span : Span) :
    (armValue body span).Among [.rule] := by
  simp [armValue]

theorem among_fieldName (struct : String) (fields : Fields) (given : List String)
    (field : String) (span : Span) : (fieldName struct fields given field span).Among [.rule] := by
  simp [fieldName]

theorem among_fieldValue (struct : String) (fields : Fields) (field : String)
    (value : Operand) : (fieldValue struct fields field value).Among [.rule] := by
  unfold fieldValue
  rw [among_bind]
  refine ⟨among_requireValue _ _ _, ?_⟩
  split
  · exact among_pure _
  · exact (among_requireCompatible _ _ _ _).mpr (Or.inr List.mem_cons_self)

theorem among_missingFields (struct : String) (fields : Fields) (given : List String)
    (span : Span) : (missingFields struct fields given span).Among [.rule] :=
  Diagnostic.among_map fun _ => List.mem_cons_self

theorem among_payloadPresence (variant : String) (declared : Option Payload) (given : Bool)
    (span : Span) : (payloadPresence variant declared given span).Among [.rule] := by
  cases declared <;> cases given <;> simp [payloadPresence]

theorem among_payloadValue (enum variant : String) (declared : Option Payload)
    (value : Operand) : (payloadValue enum variant declared value).Among [.rule] := by
  cases declared <;>
    simp [payloadValue, among_requireValue, among_requireCompatible]

theorem among_returned (expected : Option Ty) (value : Option Operand) (span : Span) :
    (returned expected value span).Among [.rule] := by
  cases expected <;> cases value <;>
    simp [returned, among_requireValue, among_requireCompatible]

theorem among_functionResult (name : String) (expected : Option Ty) (body : BlockOutcome)
    (span : Span) : (functionResult name expected body span).Among [.rule] := by
  cases expected <;> simp [functionResult, among_join]

end Rules

namespace Arms

open Diagnostic

theorem among_duplicatesAfter (seen : List String) (arms : List VariantArm) :
    Among [.rule] (duplicatesAfter seen arms) := by
  fun_induction duplicatesAfter seen arms <;> simp_all

theorem among_unreachableAfter (handled : List String) (arms : List VariantArm) :
    Among [.rule] (unreachableAfter handled arms) := by
  fun_induction unreachableAfter handled arms <;> simp_all

theorem among_misplacedWildcard (arms : List Arm) : Among [.rule] (misplacedWildcard arms) := by
  fun_induction misplacedWildcard arms <;> simp_all

theorem among_missingVariants (r : Registry) (enum : String) (m : Match) :
    Among [.rule] (missingVariants r enum m) := by
  unfold missingVariants
  split
  · exact among_nil
  · split
    · exact among_nil
    · exact among_map fun _ => List.mem_cons_self

theorem among_findings (r : Registry) (enum? : Option String) (m : Match) :
    Among [.rule] (findings r enum? m) := by
  cases enum? with
  | none => exact among_misplacedWildcard _
  | some enum =>
    simp [findings, duplicates, unreachable, among_duplicatesAfter, among_unreachableAfter,
      among_misplacedWildcard, among_missingVariants]

theorem among_bindingType (r : Registry) (matched : Option String) (enum variant : String)
    (binds : Bool) (span : Span) :
    (bindingType r matched enum variant binds span).Among [.rule] := by
  unfold bindingType
  cases matched <;> cases r.variant? enum variant with
  | none => simp
  | some payload => cases payload <;> simp

end Arms

/-! Ends of scopes. -/

namespace Scope

theorem among_unusedLocals (options : Options) (scope : Scope) :
    Diagnostic.Among [.scope] (unusedLocals options scope) := by
  unfold unusedLocals
  split
  · exact Diagnostic.among_map fun _ => List.mem_cons_self
  · exact Diagnostic.among_nil

theorem among_unusedTopLevel (options : Options) (scope : Scope) :
    Diagnostic.Among [.scope] (unusedTopLevel options scope) := by
  unfold unusedTopLevel
  split
  · exact Diagnostic.among_map fun _ => List.mem_cons_self
  · exact Diagnostic.among_nil

end Scope

/-! Written types and type declarations. -/

namespace Registry

open Reported

theorem among_resolve (r : Registry) (written : Option TypeExpr) :
    (r.resolve written).Among [.ascription] := by
  unfold resolve
  split
  · exact among_pure _
  · exact among_pure _
  · split <;> simp

theorem among_addField (options : Options) (r : Registry) (struct : String) (known : Fields)
    (field : FieldDecl) :
    (addField options r struct known field).Among [.ascription, .declaration] := by
  have written : (r.resolve field.ascription).Among [.ascription, .declaration] :=
    (r.among_resolve field.ascription).mono (by simp)
  simp [addField, written]

theorem among_addVariant (r : Registry) (enum : String) (known : Variants)
    (variant : VariantDecl) :
    (addVariant r enum known variant).Among [.ascription, .declaration] := by
  have carried : (r.payload variant).Among [.ascription, .declaration] := by
    have written : (r.resolve variant.payloadType).Among [.ascription, .declaration] :=
      (r.among_resolve variant.payloadType).mono (by simp)
    unfold payload
    split
    · exact among_pure _
    · simp [written]
  simp [addVariant, carried]

theorem among_addFields (options : Options) (r : Registry) (struct : String) (known : Fields)
    (fields : List FieldDecl) :
    (addFields options r struct known fields).Among [.ascription, .declaration] := by
  induction fields generalizing known with
  | nil => exact among_pure _
  | cons field rest ih => simp [addFields, among_addField, ih]

theorem among_addVariants (r : Registry) (enum : String) (known : Variants)
    (variants : List VariantDecl) :
    (addVariants r enum known variants).Among [.ascription, .declaration] := by
  induction variants generalizing known with
  | nil => exact among_pure _
  | cons variant rest ih => simp [addVariants, among_addVariant, ih]

theorem among_enterMembers (options : Options) (r : Registry) (stmt : Stmt) :
    (enterMembers options r stmt).Among [.ascription, .declaration] := by
  cases stmt with
  | struct decl => simp [enterMembers, among_addFields]
  | enum decl => simp [enterMembers, among_addVariants]
  | _ => exact among_pure _

theorem among_enterAllMembers (options : Options) (r : Registry) (stmts : List Stmt) :
    (enterAllMembers options r stmts).Among [.ascription, .declaration] := by
  induction stmts generalizing r with
  | nil => exact among_pure _
  | cons stmt rest ih => simp [enterAllMembers, among_enterMembers, ih]

theorem among_register (options : Options) (r : Registry) (stmts : List Stmt) :
    (register options r stmts).Among [.ascription, .declaration] :=
  among_enterAllMembers options _ stmts

end Registry

namespace Check

theorem among_resolveParams (r : Registry) (params : List Param) :
    (resolveParams r params).Among [.ascription] := by
  induction params with
  | nil => exact Reported.among_pure _
  | cons param rest ih => simp [resolveParams, r.among_resolve, ih]

end Check

namespace Signature

theorem among_reports (s : Signature) (r : Registry) :
    Diagnostic.Among [.ascription] (s.reports r) :=
  Diagnostic.among_append.mpr ⟨Check.among_resolveParams r s.params, r.among_resolve s.result⟩

end Signature

namespace Rules

/-- A declared variable is reported on by rules and for its written type. -/
theorem among_variableType (r : Registry) (name : String) (ascription : Option TypeExpr)
    (value : Operand) (span : Span) :
    (variableType name (ascription.map fun t => r.resolve (some t)) value span).Among
      [.rule, .ascription] := by
  have valued : (requireValue value.ty "Initializer" value.span).Among [.rule, .ascription] :=
    (among_requireValue _ _ _).mono (by simp)
  cases ascription with
  | none => simp [variableType, valued]
  | some t =>
    have written : (r.resolve (some t)).Among [.rule, .ascription] :=
      (r.among_resolve (some t)).mono (by simp)
    simp [variableType, valued, written, among_requireCompatible]

end Rules

end ModuleCheck
