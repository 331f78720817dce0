import ModuleCheck.Proofs.Carried
import ModuleCheck.Proofs.NameReports

namespace ModuleCheck

/-!
Corresponding reports.

Two checks of one tree may differ in the labels of the tree and in the options.  A
correspondence says which lists of reports are then to be expected of them.  All rules look at
types, members and counts only, so they make corresponding reports and the same value of
relabelled operands.
-/

namespace Issue

/-- The second issue is the first one with the names of values renamed.  Unused names are left
out: they are not found by rules. -/
inductive Renamed (names : String → String) : Issue → Issue → Prop
  | same {issue : Issue} (plain : issue.isPlain = true) : Renamed names issue issue
  | unknownIdentifier (name : String) :
      Renamed names (.unknownIdentifier name) (.unknownIdentifier (names name))
  | typeMismatch (name expected received : String) :
      Renamed names (.typeMismatch name expected received)
        (.typeMismatch (names name) expected received)
  | missingReturn (function : String) :
      Renamed names (.missingReturn function) (.missingReturn (names function))
  | returns (function left right : String) :
      Renamed names (.incompatibleTypes ("returns of '" ++ function ++ "'") left right)
        (.incompatibleTypes ("returns of '" ++ names function ++ "'") left right)

namespace Renamed

variable {names : String → String} {issue issue' : Issue}

theorem kind_eq (renamed : Renamed names issue issue') : issue'.kind = issue.kind := by
  cases renamed <;> rfl

theorem eq_of_id (renamed : Renamed id issue issue') : issue' = issue := by
  cases renamed <;> rfl

theorem not_unused (renamed : Renamed names issue issue') : issue.isUnusedName = false := by
  cases renamed with
  | same plain =>
    rw [isPlain_eq, Bool.and_eq_true] at plain
    simpa using plain.2
  | _ => rfl

end Renamed

end Issue

/-! Unused entries. -/

namespace Options

/-- Whether unused names are reported, at top level or not. -/
def reportsUnused (options : Options) (topLevel : Bool) : Bool :=
  if topLevel then options.warnUnusedTopLevel else options.reportUnusedLocals

end Options

namespace Scope

/-- The report on an unused entry, at top level or not. -/
def unusedReport (topLevel : Bool) (entry : String × Binding) : Diagnostic :=
  if topLevel then Diagnostic.warn (.unusedTopLevel entry.1) entry.2.span
  else Diagnostic.error (.unusedVariable entry.1) entry.2.span

/-- The reports on one entry of a scope when unused names, at top level or not, are reported. -/
def entryReports (options : Options) (topLevel : Bool) (entry : String × Binding) :
    List Diagnostic :=
  if options.reportsUnused topLevel &&
      (!entry.2.used && entry.2.topLevel == topLevel && !options.isIgnored entry.1) then
    [unusedReport topLevel entry]
  else []

theorem flatMap_entryReports (options : Options) (topLevel : Bool)
    (entries : List (String × Binding)) :
    entries.flatMap (entryReports options topLevel) =
      if options.reportsUnused topLevel then
        (entries.filter fun entry =>
          !entry.2.used && entry.2.topLevel == topLevel && !options.isIgnored entry.1).map
            (unusedReport topLevel)
      else [] := by
  cases reported : options.reportsUnused topLevel with
  | false => simp [entryReports, reported]
  | true =>
    rw [if_pos rfl]
    induction entries with
    | nil => rfl
    | cons entry rest ih =>
      rw [List.flatMap_cons, ih, List.filter_cons, entryReports, reported, Bool.true_and]
      split <;> rfl

theorem unusedLocals_eq (options : Options) (scope : Scope) :
    unusedLocals options scope = scope.toList.flatMap (entryReports options false) := by
  rw [flatMap_entryReports]
  rfl

theorem unusedTopLevel_eq (options : Options) (scope : Scope) :
    unusedTopLevel options scope = scope.toList.flatMap (entryReports options true) := by
  rw [flatMap_entryReports]
  rfl

end Scope

namespace Relabelling

def operand (l : Relabelling) (o : Operand) : Operand := ⟨o.ty, l.spans o.span⟩

end Relabelling

/-- Which reports belong together when a tree is checked with the first options and the
relabelled tree with the second ones. -/
structure Correspondence (l : Relabelling) (left right : Options) where
  Reports : List Diagnostic → List Diagnostic → Prop
  nil : Reports [] []
  append : ∀ {ds ds' es es'}, Reports ds ds' → Reports es es' → Reports (ds ++ es) (ds' ++ es')
  error : ∀ {issue issue'} (span), Issue.Renamed l.names issue issue' →
    Reports [Diagnostic.error issue (some span)] [Diagnostic.error issue' (some (l.spans span))]
  reserved : ∀ struct field span,
    Reports
      (Reported.require (!left.isReserved field) (.reservedField struct field)
        (some span)).diagnostics
      (Reported.require (!right.isReserved field) (.reservedField struct field)
        (some (l.spans span))).diagnostics
  unused : ∀ topLevel name binding, binding.span.isSome = true →
    Reports (Scope.entryReports left topLevel (name, binding))
      (Scope.entryReports right topLevel (l.names name, l.binding binding))

namespace Correspondence

variable {α β γ δ : Type} {l : Relabelling} {left right : Options}
  (k : Correspondence l left right)

theorem cons {issue issue' : Issue} (span : Span) (renamed : issue.Renamed l.names issue')
    {ds ds' : List Diagnostic} (rest : k.Reports ds ds') :
    k.Reports (Diagnostic.error issue (some span) :: ds)
      (Diagnostic.error issue' (some (l.spans span)) :: ds') :=
  k.append (k.error span renamed) rest

theorem map {issue : α → Issue} (plain : ∀ x, (issue x).isPlain = true) (span : Span)
    (xs : List α) :
    k.Reports (xs.map fun x => Diagnostic.error (issue x) (some span))
      (xs.map fun x => Diagnostic.error (issue x) (some (l.spans span))) := by
  induction xs with
  | nil => exact k.nil
  | cons x rest ih => exact k.cons span (.same (plain x)) ih

/-- The rules make corresponding reports and related values. -/
def Rule (Q : α → β → Prop) (r : Reported α) (r' : Reported β) : Prop :=
  Q r.value r'.value ∧ k.Reports r.diagnostics r'.diagnostics

variable {k}

namespace Rule

theorem pure {Q : α → β → Prop} {a : α} {b : β} (holds : Q a b) :
    k.Rule Q (Pure.pure a) (Pure.pure b) :=
  ⟨holds, k.nil⟩

theorem bind {Q : α → β → Prop} {Q' : γ → δ → Prop} {r : Reported α} {r' : Reported β}
    {next : α → Reported γ} {next' : β → Reported δ} (first : k.Rule Q r r')
    (rest : ∀ a b, Q a b → k.Rule Q' (next a) (next' b)) :
    k.Rule Q' (r >>= next) (r' >>= next') :=
  ⟨(rest _ _ first.1).1, k.append first.2 (rest _ _ first.1).2⟩

/-- Rules with one value, which the rest may use on both sides. -/
theorem seq {Q : γ → δ → Prop} {r r' : Reported α} {next : α → Reported γ}
    {next' : α → Reported δ} (first : k.Rule Eq r r')
    (rest : ∀ a, k.Rule Q (next a) (next' a)) : k.Rule Q (r >>= next) (r' >>= next') := by
  apply first.bind
  intro a b same
  subst same
  exact rest a

theorem error {issue issue' : Issue} (renamed : issue.Renamed l.names issue') (span : Span) :
    k.Rule Eq (Reported.error issue (some span)) (Reported.error issue' (some (l.spans span))) :=
  ⟨rfl, k.error span renamed⟩

theorem test (condition : Bool) {issue issue' : Issue} (renamed : issue.Renamed l.names issue')
    (span : Span) :
    k.Rule Eq (Reported.test condition issue (some span))
      (Reported.test condition issue' (some (l.spans span))) := by
  cases condition with
  | false => exact ⟨rfl, k.error span renamed⟩
  | true => exact ⟨rfl, k.nil⟩

theorem require (condition : Bool) {issue issue' : Issue}
    (renamed : issue.Renamed l.names issue') (span : Span) :
    k.Rule Eq (Reported.require condition issue (some span))
      (Reported.require condition issue' (some (l.spans span))) := by
  cases condition with
  | false => exact ⟨rfl, k.error span renamed⟩
  | true => exact ⟨rfl, k.nil⟩

/-! The typing rules. -/

theorem requireCompatible (actual expected : Ty) {issue issue' : Issue}
    (renamed : issue.Renamed l.names issue') (span : Span) :
    k.Rule Eq (Rules.requireCompatible actual expected issue span)
      (Rules.requireCompatible actual expected issue' (l.spans span)) :=
  (test _ renamed span).seq fun _ => pure rfl

theorem requireValue (ty : Ty) (what : String) (span : Span) :
    k.Rule Eq (Rules.requireValue ty what span) (Rules.requireValue ty what (l.spans span)) :=
  (test _ (.same rfl) span).seq fun _ => pure rfl

theorem requireBranchValue (branch : ExprOutcome) (what : String) (span : Span) :
    k.Rule Eq (Rules.requireBranchValue branch what span)
      (Rules.requireBranchValue branch what (l.spans span)) := by
  unfold Rules.requireBranchValue Rules.testBranchValue
  cases branch.alwaysReturns with
  | true => exact pure rfl
  | false => exact (test _ (.same rfl) span).seq fun _ => pure rfl

theorem join (members : List Ty) {context context' : String}
    (renamed : ∀ first second, (Issue.incompatibleTypes context first second).Renamed l.names
      (.incompatibleTypes context' first second)) (span : Span) :
    k.Rule Eq (Rules.join members context (some span))
      (Rules.join members context' (some (l.spans span))) := by
  unfold Rules.join
  cases Ty.join members with
  | ok ty => exact pure rfl
  | error conflict => exact (error (renamed _ _) span).seq fun _ => pure rfl

theorem unary (op : UnaryOp) (operand : Ty) (span : Span) :
    k.Rule Eq (Rules.unary op operand span) (Rules.unary op operand (l.spans span)) := by
  cases op with
  | not => exact (require _ (.same rfl) span).seq fun _ => pure rfl
  | neg => exact pure rfl

theorem binary (op : BinaryOp) (first second : Operand) (span : Span) :
    k.Rule Eq (Rules.binary op first second span)
      (Rules.binary op (l.operand first) (l.operand second) (l.spans span)) := by
  unfold Rules.binary
  cases op.group with
  | arithmetic | relational | logical =>
    exact (require _ (.same rfl) first.span).seq fun _ =>
      (require _ (.same rfl) second.span).seq fun _ => pure rfl
  | equality => exact (requireCompatible _ _ (.same rfl) span).seq fun _ => pure rfl

theorem arguments (position : Nat) (params : List Ty) (args : List Operand) :
    k.Rule Eq (Rules.arguments position params args)
      (Rules.arguments position params (args.map l.operand)) := by
  induction params generalizing position args with
  | nil => cases args <;> exact pure rfl
  | cons expected rest ih =>
    cases args with
    | nil => exact pure rfl
    | cons arg others =>
      exact (requireCompatible _ _ (.same rfl) arg.span).seq fun _ => ih (position + 1) others

theorem call (callee : Ty) (args : List Operand) (span : Span) :
    k.Rule Eq (Rules.call callee args span)
      (Rules.call callee (args.map l.operand) (l.spans span)) := by
  cases callee with
  | fn params result =>
    unfold Rules.call
    rw [List.length_map]
    refine (test _ (.same rfl) span).seq fun fits => ?_
    cases fits with
    | true => exact (arguments 1 params args).seq fun _ => pure rfl
    | false => exact pure rfl
  | _ => exact (error (.same rfl) span).seq fun _ => pure rfl

theorem branches (consequence alternative : ExprOutcome) (span : Span) :
    k.Rule Eq (Rules.branches consequence alternative span)
      (Rules.branches consequence alternative (l.spans span)) := by
  unfold Rules.branches
  split
  · exact pure rfl
  · exact (join _ (fun _ _ => .same rfl) span).seq fun _ =>
      (requireValue _ _ span).seq fun _ => pure rfl

theorem arms (outcomes : List ExprOutcome) (span : Span) :
    k.Rule Eq (Rules.arms outcomes span) (Rules.arms outcomes (l.spans span)) := by
  unfold Rules.arms
  split
  · exact pure rfl
  · exact (join _ (fun _ _ => .same rfl) span).seq fun _ => pure rfl

theorem fieldName (struct : String) (fields : Fields) (given : List String) (field : String)
    (span : Span) :
    k.Rule Eq (Rules.fieldName struct fields given field span)
      (Rules.fieldName struct fields given field (l.spans span)) :=
  (require _ (.same rfl) span).seq fun _ => require _ (.same rfl) span

theorem fieldValue (struct : String) (fields : Fields) (field : String) (value : Operand) :
    k.Rule Eq (Rules.fieldValue struct fields field value)
      (Rules.fieldValue struct fields field (l.operand value)) := by
  refine (requireValue _ _ value.span).seq fun _ => ?_
  cases fields.get? field with
  | none => exact pure rfl
  | some declared => exact requireCompatible _ _ (.same rfl) value.span

theorem missingFields (struct : String) (fields : Fields) (given : List String) (span : Span) :
    k.Rule Eq (Rules.missingFields struct fields given span)
      (Rules.missingFields struct fields given (l.spans span)) :=
  ⟨rfl, k.map (fun _ => rfl) span _⟩

theorem payloadPresence (variant : String) (declared : Option Payload) (given : Bool)
    (span : Span) :
    k.Rule Eq (Rules.payloadPresence variant declared given span)
      (Rules.payloadPresence variant declared given (l.spans span)) := by
  cases declared <;> cases given
  case none.true | some.false => exact error (.same rfl) span
  case none.false | some.true => exact pure rfl

theorem payloadValue (enum variant : String) (declared : Option Payload) (value : Operand) :
    k.Rule Eq (Rules.payloadValue enum variant declared value)
      (Rules.payloadValue enum variant declared (l.operand value)) := by
  refine (requireValue _ _ value.span).seq fun _ => ?_
  cases declared with
  | none => exact pure rfl
  | some payload => exact requireCompatible _ _ (.same rfl) value.span

theorem returned (expected : Option Ty) (value : Option Operand) (span : Span) :
    k.Rule Eq (Rules.returned expected value span)
      (Rules.returned expected (value.map l.operand) (l.spans span)) := by
  cases value with
  | none =>
    cases expected with
    | none => exact pure rfl
    | some ty => exact (require _ (.same rfl) span).seq fun _ => pure rfl
  | some operand =>
    refine (requireValue _ _ operand.span).seq fun _ => ?_
    cases expected with
    | none => exact pure rfl
    | some ty => exact (requireCompatible _ _ (.same rfl) span).seq fun _ => pure rfl

theorem functionResult (name : String) (expected : Option Ty) (body : BlockOutcome)
    (span : Span) :
    k.Rule Eq (Rules.functionResult name expected body span)
      (Rules.functionResult (l.names name) expected body (l.spans span)) := by
  cases expected with
  | none => exact join _ (fun _ _ => .returns name _ _) span
  | some declared => exact (require _ (.missingReturn name) span).seq fun _ => pure rfl

/-! Written types. -/

theorem resolve (r : Registry) (written : Option TypeExpr) :
    k.Rule Eq (r.resolve written) (r.resolve (written.map l.type)) := by
  cases written with
  | none => exact pure rfl
  | some t =>
    cases t with
    | any span => exact pure rfl
    | named name span =>
      simp only [Option.map_some, Relabelling.type, Registry.resolve]
      cases r.named? name with
      | none => exact (error (.same rfl) span).seq fun _ => pure rfl
      | some ty => exact pure rfl

theorem resolveParams (r : Registry) (params : List Param) :
    k.Rule Eq (Check.resolveParams r params) (Check.resolveParams r (params.map l.param)) := by
  induction params with
  | nil => exact pure rfl
  | cons param rest ih =>
    exact (resolve r param.ascription).seq fun _ => ih.seq fun _ => pure rfl

theorem variableType (r : Registry) (name : String) (written : Option TypeExpr)
    (value : Operand) (span : Span) :
    k.Rule Eq
      (Rules.variableType name (written.map fun t => r.resolve (some t)) value span)
      (Rules.variableType (l.names name)
        ((written.map l.type).map fun t => r.resolve (some t)) (l.operand value)
        (l.spans span)) := by
  refine (requireValue _ _ value.span).seq fun _ => ?_
  cases written with
  | none => exact pure rfl
  | some t =>
    exact (resolve r (some t)).seq fun declared =>
      (requireCompatible _ _ (.typeMismatch name _ _) span).seq fun _ => pure rfl

/-! Type declarations. -/

theorem addFields (r : Registry) (struct : String) (known : Fields) (fields : List FieldDecl) :
    k.Rule Eq (Registry.addFields left r struct known fields)
      (Registry.addFields right r struct known (fields.map l.field)) := by
  induction fields generalizing known with
  | nil => exact pure rfl
  | cons field rest ih =>
    have reserved : k.Rule Eq
        (Reported.require (!left.isReserved field.name) (.reservedField struct field.name)
          (some field.span))
        (Reported.require (!right.isReserved field.name) (.reservedField struct field.name)
          (some (l.spans field.span))) := ⟨rfl, k.reserved struct field.name field.span⟩
    have added : k.Rule Eq (Registry.addField left r struct known field)
        (Registry.addField right r struct known (l.field field)) :=
      reserved.seq fun _ => (resolve r field.ascription).seq fun _ =>
        (test _ (.same rfl) field.span).seq fun _ => pure rfl
    exact added.seq fun extended => ih extended

theorem addVariants (r : Registry) (enum : String) (known : Variants)
    (variants : List VariantDecl) :
    k.Rule Eq (Registry.addVariants r enum known variants)
      (Registry.addVariants r enum known (variants.map l.variant)) := by
  induction variants generalizing known with
  | nil => exact pure rfl
  | cons variant rest ih =>
    have payload : k.Rule Eq (r.payload variant) (r.payload (l.variant variant)) := by
      rcases variant with ⟨name, field, written, span⟩
      cases field with
      | none => exact pure rfl
      | some field => exact (resolve r written).seq fun _ => pure rfl
    have added : k.Rule Eq (Registry.addVariant r enum known variant)
        (Registry.addVariant r enum known (l.variant variant)) :=
      payload.seq fun _ => (test _ (.same rfl) variant.span).seq fun _ => pure rfl
    exact added.seq fun extended => ih extended

theorem enterMembers (r : Registry) (stmt : Stmt) :
    k.Rule Eq (Registry.enterMembers left r stmt)
      (Registry.enterMembers right r (l.stmt stmt)) := by
  cases stmt with
  | struct decl =>
    rw [Relabelling.stmt]
    exact (addFields r decl.name Table.empty decl.fields).seq fun _ => pure rfl
  | enum decl =>
    rw [Relabelling.stmt]
    exact (addVariants r decl.name Table.empty decl.variants).seq fun _ => pure rfl
  | _ => rw [Relabelling.stmt]; exact pure rfl

theorem enterAllMembers (r : Registry) (stmts : List Stmt) :
    k.Rule Eq (Registry.enterAllMembers left r stmts)
      (Registry.enterAllMembers right r (l.stmts stmts)) := by
  induction stmts generalizing r with
  | nil => rw [Relabelling.stmts]; exact pure rfl
  | cons stmt rest ih =>
    rw [Relabelling.stmts]
    exact (enterMembers r stmt).seq fun extended => ih extended

theorem register (r : Registry) (stmts : List Stmt) :
    k.Rule Eq (r.register left stmts) (r.register right (l.stmts stmts)) := by
  have entered : (l.stmts stmts).foldl Registry.enterName r = stmts.foldl Registry.enterName r := by
    induction stmts generalizing r with
    | nil => rw [Relabelling.stmts]
    | cons stmt rest ih =>
      have same : r.enterName (l.stmt stmt) = r.enterName stmt := by
        cases stmt <;> rw [Relabelling.stmt] <;> rfl
      rw [Relabelling.stmts, List.foldl_cons, List.foldl_cons, same, ih]
  unfold Registry.register
  rw [entered]
  exact enterAllMembers _ stmts

/-! Patterns. -/

theorem bindingType (r : Registry) (matched : Option String) (enum variant : String)
    (binds : Bool) (span : Span) :
    k.Rule Eq (Arms.bindingType r matched enum variant binds span)
      (Arms.bindingType r matched enum variant binds (l.spans span)) := by
  unfold Arms.bindingType
  rcases matched with _ | expected
  -- Both cases go on with the variant itself.
  on_goal 2 => refine (require _ (.same rfl) span).seq fun _ => ?_
  all_goals
    rcases r.variant? enum variant with _ | _ | payload
    · exact (error (.same rfl) span).seq fun _ => pure rfl
    · exact (require _ (.same rfl) span).seq fun _ => pure rfl
    · exact pure rfl

end Rule

/-! Arms. -/

/-- The arms for variants of an enum, with moved spans. -/
theorem variantArms_arms (enum : String) (arms : List Arm) :
    Arms.variantArms enum (l.arms arms) = (Arms.variantArms enum arms).map fun arm =>
      { arm with span := l.spans arm.span } := by
  simp [Arms.variantArms, Relabelling.arms_eq_map, List.filterMap_map, List.map_filterMap,
    Function.comp_def]

theorem covered_arms (enum : String) (arms : List Arm) :
    Arms.covered enum (l.arms arms) = Arms.covered enum arms := by
  simp [Arms.covered, variantArms_arms, List.filter_map, Function.comp_def]

theorem any_isCatchAll_arms (arms : List Arm) :
    (l.arms arms).any Arm.isCatchAll = arms.any Arm.isCatchAll := by
  simp [Relabelling.arms_eq_map, Function.comp_def]

variable (k)

theorem duplicatesAfter (seen : List String) (arms : List Arms.VariantArm) :
    k.Reports (Arms.duplicatesAfter seen arms)
      (Arms.duplicatesAfter seen (arms.map fun arm => { arm with span := l.spans arm.span })) := by
  induction arms generalizing seen with
  | nil => exact k.nil
  | cons arm rest ih =>
    simp only [List.map_cons, Arms.duplicatesAfter]
    split
    · exact ih seen
    · split
      · exact k.cons arm.span (.same rfl) (ih seen)
      · exact ih _

theorem unreachableAfter (handled : List String) (arms : List Arms.VariantArm) :
    k.Reports (Arms.unreachableAfter handled arms)
      (Arms.unreachableAfter handled
        (arms.map fun arm => { arm with span := l.spans arm.span })) := by
  induction arms generalizing handled with
  | nil => exact k.nil
  | cons arm rest ih =>
    simp only [List.map_cons, Arms.unreachableAfter]
    split
    · exact k.cons arm.span (.same rfl) (ih handled)
    · split
      · exact ih handled
      · exact ih _

theorem misplacedWildcard (arms : List Arm) :
    k.Reports (Arms.misplacedWildcard arms) (Arms.misplacedWildcard (l.arms arms)) := by
  rw [Relabelling.arms_eq_map]
  induction arms with
  | nil => exact k.nil
  | cons arm rest ih =>
    simp only [List.map_cons, Arms.misplacedWildcard, Relabelling.isCatchAll_arm,
      Relabelling.span_arm, List.isEmpty_map]
    split
    · split
      · exact k.nil
      · exact k.error arm.span (.same rfl)
    · exact ih

theorem missingVariants (r : Registry) (enum : String) (m : Match) :
    k.Reports (Arms.missingVariants r enum m) (Arms.missingVariants r enum (l.matching m)) := by
  rcases m with ⟨value, arms, span⟩
  simp only [Relabelling.matching, Arms.missingVariants, any_isCatchAll_arms, covered_arms]
  split
  · exact k.nil
  · cases r.enums.get? enum with
    | none => exact k.nil
    | some variants => exact k.map (fun _ => rfl) span _

theorem findings (r : Registry) (enum? : Option String) (m : Match) :
    k.Reports (Arms.findings r enum? m) (Arms.findings r enum? (l.matching m)) := by
  have wildcard := k.misplacedWildcard m.arms
  have arms : (l.matching m).arms = l.arms m.arms := by
    cases m
    rw [Relabelling.matching]
  cases enum? with
  | none =>
    simp only [Arms.findings, arms]
    exact wildcard
  | some enum =>
    have missing := k.missingVariants r enum m
    simp only [Arms.findings, Arms.duplicates, Arms.unreachable, arms, variantArms_arms]
    exact k.append (k.append (k.append (k.duplicatesAfter _ _) (k.unreachableAfter _ _)) wildcard)
      missing

end Correspondence

end ModuleCheck
