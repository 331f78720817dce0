import ModuleCheck.Proofs.Frame
import ModuleCheck.Proofs.Registration

namespace ModuleCheck

/-!
Checks that go on from states that are alike.

States are alike if they have the same scopes but for the global one, the same functions around
them, and registries that say the same.  In the global scope a name refers to the same entry but
for its mark of use.  A visit from such states yields the same and adds the same reports, and it
leaves states that are alike again.  How far the global scopes may differ is left open here.
-/

open Check

/-! Registries. -/

namespace Registry

/-- The registries say the same about every name. -/
structure Agrees (r r' : Registry) : Prop where
  structs : ∀ name, r'.structs.get? name = r.structs.get? name
  enums : ∀ name, r'.enums.get? name = r.enums.get? name

namespace Agrees

variable {r r' : Registry}

theorem refl (r : Registry) : r.Agrees r := ⟨fun _ => rfl, fun _ => rfl⟩

theorem sameNames (agrees : r.Agrees r') : r.SameNames r' where
  structs := fun name => by rw [← Table.isSome_get?, ← Table.isSome_get?, agrees.structs]
  enums := fun name => by rw [← Table.isSome_get?, ← Table.isSome_get?, agrees.enums]

theorem resolve_eq (agrees : r.Agrees r') : r'.resolve = r.resolve := agrees.sameNames.resolve_eq

theorem resolveParams_eq (agrees : r.Agrees r') : resolveParams r' = resolveParams r := by
  funext params
  induction params with
  | nil => rfl
  | cons param rest ih => simp only [resolveParams, agrees.resolve_eq, ih]

theorem findings_eq (agrees : r.Agrees r') : Arms.findings r' = Arms.findings r := by
  funext enum? m
  cases enum? with
  | none => rfl
  | some enum => simp only [Arms.findings, Arms.missingVariants, agrees.enums]

theorem bindingType_eq (agrees : r.Agrees r') : Arms.bindingType r' = Arms.bindingType r := by
  funext matched enum variant binds span
  simp only [Arms.bindingType, variant?, agrees.enums]

end Agrees

end Registry

/-! Scopes. -/

namespace Binding

/-- The binding without its mark of use. -/
def unmarked (b : Binding) : Binding := { b with used := false }

/-- A change that does not look at marks. -/
def Blind (f : Binding → Binding) : Prop := ∀ b, (f b.unmarked).unmarked = (f b).unmarked

theorem blind_withResult (result : Ty) : Blind (withResult result) := by
  rintro ⟨ty, used, topLevel, exported, span, tag⟩
  cases ty <;> rfl

end Binding

namespace Scope

/-- Scopes that visits take for each other: they have the same entries but for marks, also
after each of the changes that visits make. -/
class Alike (G : Scope → Scope → Prop) : Prop where
  get? : ∀ {g g' : Scope}, G g g' → ∀ name,
    (g'.get? name).map Binding.unmarked = (g.get? name).map Binding.unmarked
  /-- A name may be declared with a mark that depends on its entry. -/
  insert : ∀ {g g' : Scope}, G g g' → ∀ (name : String) (binding : Bool → Binding),
    (∀ used, (binding used).unmarked = (binding false).unmarked) →
    G (g.insert name (binding ((g.get? name).any Binding.used)))
      (g'.insert name (binding ((g'.get? name).any Binding.used)))
  modify : ∀ {g g' : Scope}, G g g' → ∀ (name : String) {f : Binding → Binding},
    Binding.Blind f → G (g.modify name f) (g'.modify name f)

/-- Each name has the same entry but for its mark. -/
def SameButMarks (g g' : Scope) : Prop :=
  ∀ name, (g'.get? name).map Binding.unmarked = (g.get? name).map Binding.unmarked

instance : Alike SameButMarks where
  get? := id
  insert := by
    intro g g' same name binding marks other
    rw [Table.get?_insert, Table.get?_insert]
    split
    · exact congrArg some ((marks _).trans (marks _).symm)
    · exact same other
  modify := by
    intro g g' same name f blind other
    have changed : ∀ entry : Option Binding, (entry.map f).map Binding.unmarked =
        ((entry.map Binding.unmarked).map f).map Binding.unmarked := by
      intro entry
      cases entry with
      | none => rfl
      | some binding => exact congrArg some (blind binding).symm
    rw [Table.get?_modify, Table.get?_modify]
    split
    · rw [changed, same, ← changed]
    · exact same other

/-- Open scopes of which the global ones are related, and all others are the same. -/
inductive Around (G : Scope → Scope → Prop) : List Scope → List Scope → Prop
  | global {g g' : Scope} (related : G g g') : Around G [g] [g']
  | inner {scope : Scope} {rest rest' : List Scope} (others : Around G rest rest') :
      Around G (scope :: rest) (scope :: rest')

namespace Around

variable {G : Scope → Scope → Prop} [Alike G] {scopes scopes' : List Scope}

theorem contains_eq {g g' : Scope} (related : G g g') (name : String) :
    g'.contains name = g.contains name := by
  have same := congrArg Option.isSome (Alike.get? related name)
  rwa [Option.isSome_map, Option.isSome_map, Table.isSome_get?, Table.isSome_get?] at same

/-- A name refers to the same binding but for its mark. -/
theorem findSome?_eq (around : Around G scopes scopes') (name : String) :
    (scopes'.findSome? fun scope => scope.get? name).map Binding.unmarked =
      (scopes.findSome? fun scope => scope.get? name).map Binding.unmarked := by
  induction around with
  | global related =>
    rw [List.findSome?_singleton, List.findSome?_singleton]
    exact Alike.get? related name
  | @inner scope rest rest' others ih =>
    rw [List.findSome?_cons, List.findSome?_cons]
    cases scope.get? name with
    | none => exact ih
    | some binding => rfl

theorem modifyFirst (around : Around G scopes scopes') (name : String)
    {f : Binding → Binding} (blind : Binding.Blind f) :
    Around G (Environment.modifyFirst name f scopes) (Environment.modifyFirst name f scopes') := by
  induction around with
  | @global g g' related =>
    simp only [Environment.modifyFirst, contains_eq related]
    split
    · exact .global (Alike.modify related name blind)
    · exact .global related
  | @inner scope rest rest' others ih =>
    simp only [Environment.modifyFirst]
    split
    · exact .inner others
    · exact .inner ih

end Around

end Scope

/-! Environments. -/

namespace Environment

/-- The global scopes are related, and all others are the same. -/
def Alike (G : Scope → Scope → Prop) (env env' : Environment) : Prop :=
  Scope.Around G env.scopes env'.scopes

namespace Alike

variable {G : Scope → Scope → Prop} {env env' : Environment}

theorem push (alike : env.Alike G env') : env.push.Alike G env'.push := Scope.Around.inner alike

/-- Either both environments consist of the global scope, or the innermost scope is the same. -/
theorem pop? (alike : env.Alike G env') :
    (env.pop? = none ∧ env'.pop? = none) ∨
      ∃ scope rest rest', env.pop? = some (scope, rest) ∧ env'.pop? = some (scope, rest') ∧
        rest.Alike G rest' := by
  rcases env with ⟨current, outer⟩
  rcases env' with ⟨current', outer'⟩
  cases alike with
  | global related => exact Or.inl ⟨rfl, rfl⟩
  | inner others =>
    cases others with
    | global related => exact Or.inr ⟨_, _, _, rfl, rfl, .global related⟩
    | inner others => exact Or.inr ⟨_, _, _, rfl, rfl, .inner others⟩

variable [Scope.Alike G]

theorem lookup?_eq (alike : env.Alike G env') (name : String) :
    (env'.lookup? name).map Binding.unmarked = (env.lookup? name).map Binding.unmarked :=
  Scope.Around.findSome?_eq alike name

theorem modify (alike : env.Alike G env') (name : String) {f : Binding → Binding}
    (blind : Binding.Blind f) : (env.modify name f).Alike G (env'.modify name f) := by
  unfold Alike
  rw [scopes_modify, scopes_modify]
  exact Scope.Around.modifyFirst alike name blind

theorem modifyCurrent (alike : env.Alike G env') (name : String) {f : Binding → Binding}
    (blind : Binding.Blind f) :
    (env.modifyCurrent name f).Alike G (env'.modifyCurrent name f) := by
  rcases env with ⟨current, outer⟩
  rcases env' with ⟨current', outer'⟩
  cases alike with
  | global related => exact .global (Scope.Alike.modify related name blind)
  | inner others => exact .inner others

/-- A name may be declared with a mark that depends on its entry in the innermost scope. -/
theorem redeclare (alike : env.Alike G env') (name : String) (binding : Bool → Binding)
    (marks : ∀ used, (binding used).unmarked = (binding false).unmarked) :
    (env.declare name (binding ((env.current.get? name).any Binding.used))).Alike G
      (env'.declare name (binding ((env'.current.get? name).any Binding.used))) := by
  rcases env with ⟨current, outer⟩
  rcases env' with ⟨current', outer'⟩
  cases alike with
  | global related => exact .global (Scope.Alike.insert related name binding marks)
  | inner others => exact .inner others

theorem declare (alike : env.Alike G env') (name : String) (binding : Binding) :
    (env.declare name binding).Alike G (env'.declare name binding) :=
  alike.redeclare name (fun _ => binding) fun _ => rfl

end Alike

end Environment

/-! States. -/

namespace Checker

/-- The states are alike, and the same was reported behind the given reports. -/
structure Alike (G : Scope → Scope → Prop) (front front' : List Diagnostic) (c c' : Checker) :
    Prop where
  options : c'.options = c.options
  registry : c.registry.Agrees c'.registry
  environment : c.environment.Alike G c'.environment
  frames : c'.frames = c.frames
  fault : c'.fault = c.fault
  reports : ∃ ds, c.diagnostics = front ++ ds ∧ c'.diagnostics = front' ++ ds

theorem nothing_added (front front' : List Diagnostic) :
    ∃ ds, front = front ++ ds ∧ front' = front' ++ ds :=
  ⟨[], (List.append_nil front).symm, (List.append_nil front').symm⟩

namespace Alike

variable {G : Scope → Scope → Prop} {front front' : List Diagnostic} {c c' : Checker}

theorem report (alike : Alike G front front' c c') (ds : List Diagnostic) :
    Alike G front front' { c with diagnostics := c.diagnostics ++ ds }
      { c' with diagnostics := c'.diagnostics ++ ds } := by
  rcases alike.reports with ⟨more, reported, reported'⟩
  exact { alike with
    reports := ⟨more ++ ds, by rw [reported, List.append_assoc],
      by rw [reported', List.append_assoc]⟩ }

theorem withEnvironment (alike : Alike G front front' c c') {env env' : Environment}
    (environment : env.Alike G env') :
    Alike G front front' { c with environment := env } { c' with environment := env' } :=
  { alike with environment }

theorem withFrames (alike : Alike G front front' c c') (f : List Frame → List Frame) :
    Alike G front front' { c with frames := f c.frames } { c' with frames := f c'.frames } :=
  { alike with frames := congrArg f alike.frames }

theorem breach (alike : Alike G front front' c c') (fault : Fault) :
    Alike G front front' (after (Check.breach fault) c) (after (Check.breach fault) c') :=
  { alike with fault := congrArg (·.or (some fault)) alike.fault }

end Alike

end Checker

/-! Steps. -/

namespace Check

variable {α β : Type} {G : Scope → Scope → Prop}

/-- From states that are alike the step yields the same and adds the same reports, and it
leaves states that are alike. -/
def Steady (G : Scope → Scope → Prop) (step : Check α) : Prop :=
  ∀ front front' c c', Checker.Alike G front front' c c' →
    result step c' = result step c ∧ Checker.Alike G front front' (after step c) (after step c')

namespace Steady

theorem pure (value : α) : Steady G (Pure.pure value : Check α) := fun _ _ _ _ alike => ⟨rfl, alike⟩

theorem bind {step : Check α} {next : α → Check β} (first : Steady G step)
    (rest : ∀ value, Steady G (next value)) : Steady G (step >>= next) := by
  intro front front' c c' alike
  rcases first _ _ _ _ alike with ⟨same, kept⟩
  rw [result_bind, result_bind, after_bind, after_bind, same]
  exact rest _ _ _ _ _ kept

/-! Steps that read or report. -/

theorem emit (ds : List Diagnostic) : Steady G (emit ds) :=
  fun _ _ _ _ alike => ⟨rfl, alike.report ds⟩

theorem settle (r : Reported α) : Steady G (settle r) := (emit _).bind fun _ => pure _

theorem error (issue : Issue) (span : Option Span) : Steady G (error issue span) := emit _

/-- What is read from the registry is the same in registries that agree. -/
theorem registry {next : Registry → Check α}
    (same : ∀ {r r' : Registry}, r.Agrees r' → next r' = next r)
    (rest : ∀ r, Steady G (next r)) : Steady G (registry >>= next) := by
  intro front front' c c' alike
  rw [result_bind, result_bind, after_bind, after_bind, result_registry, result_registry,
    after_registry, after_registry, same alike.registry]
  exact rest _ _ _ _ _ alike

theorem frame? : Steady G frame? :=
  fun _ _ _ _ alike => ⟨congrArg List.head? alike.frames, alike⟩

/-! Functions. -/

theorem pushFrame (expected : Option Ty) : Steady G (pushFrame expected) :=
  fun _ _ _ _ alike => ⟨rfl, alike.withFrames (⟨expected, []⟩ :: ·)⟩

theorem popFrame : Steady G popFrame :=
  fun _ _ _ _ alike => ⟨congrArg List.head? alike.frames, alike.withFrames List.tail⟩

theorem modifyReturns (f : List Ty → List Ty) : Steady G (modifyReturns f) := by
  intro front front' c c' alike
  rw [after_modifyReturns, after_modifyReturns]
  exact ⟨rfl, alike.withFrames (List.modifyHead fun frame =>
    { frame with returns := f frame.returns })⟩

theorem returnsSeen : Steady G returnsSeen := frame?.bind fun _ => pure _

theorem returnsSince (count : Nat) : Steady G (returnsSince count) := by
  refine frame?.bind fun frame => ?_
  cases frame with
  | none => exact pure _
  | some frame =>
    dsimp only
    split
    · exact bind (fun _ _ _ _ alike => ⟨rfl, alike.breach _⟩) fun _ => pure _
    · exact pure _

/-! Scopes. -/

theorem enterScope : Steady G enterScope :=
  fun _ _ _ _ alike => ⟨rfl, alike.withEnvironment alike.environment.push⟩

/-- The scope that is closed is the same. -/
theorem exitScope : Steady G exitScope := by
  intro front front' c c' alike
  refine ⟨rfl, ?_⟩
  rcases alike.environment.pop? with ⟨popped, popped'⟩ | ⟨scope, rest, rest', popped, popped', kept⟩
  · rw [after_exitScope_global popped, after_exitScope_global popped']
    exact alike.breach _
  · have unused : Scope.unusedLocals c'.options scope = Scope.unusedLocals c.options scope := by
      rw [alike.options]
    rw [after_exitScope popped, after_exitScope popped', unused]
    exact (alike.report _).withEnvironment kept

variable [Scope.Alike G]

theorem declare (name : String) (ty : Ty) (flags : Flags) (span : Option Span) :
    Steady G (declare name ty flags span) :=
  fun _ _ _ _ alike => ⟨rfl, alike.withEnvironment (alike.environment.declare name _)⟩

theorem modifyCurrent (name : String) {f : Binding → Binding} (blind : Binding.Blind f) :
    Steady G (modifyEnvironment fun env => env.modifyCurrent name f) :=
  fun _ _ _ _ alike => ⟨rfl, alike.withEnvironment (alike.environment.modifyCurrent name blind)⟩

theorem useName (name : String) (span : Option Span) : Steady G (useName name span) := by
  intro front front' c c' alike
  have same := alike.environment.lookup?_eq name
  cases bound : c.environment.lookup? name with
  | none =>
    have unbound : c'.environment.lookup? name = none := by simpa [bound] using same
    rcases useName_of_unbound bound span with ⟨yields, leaves⟩
    rcases useName_of_unbound unbound span with ⟨yields', leaves'⟩
    rw [yields, yields', leaves, leaves']
    exact ⟨rfl, alike.report _⟩
  | some binding =>
    rw [bound] at same
    rcases Option.map_eq_some_iff.mp same with ⟨binding', bound', unmarked⟩
    rcases useName_of_bound bound span with ⟨yields, leaves⟩
    rcases useName_of_bound bound' span with ⟨yields', leaves'⟩
    have typed : binding'.unmarked.ty = binding.unmarked.ty := by rw [unmarked]
    rw [yields, yields', leaves, leaves']
    exact ⟨typed, alike.withEnvironment (alike.environment.modify name fun _ => rfl)⟩

theorem enumTag? (name : String) : Steady G (enumTag? name) := by
  intro front front' c c' alike
  have same := congrArg (· >>= Binding.enumTag) (alike.environment.lookup?_eq name)
  refine ⟨?_, alike⟩
  rw [result_enumTag?, result_enumTag?]
  cases bound : c.environment.lookup? name <;> cases bound' : c'.environment.lookup? name <;>
    rw [bound, bound'] at same <;> exact same

theorem tagLiteral (name : String) (value : Expr) : Steady G (tagLiteral name value) := by
  cases value with
  | variant => exact modifyCurrent name fun _ => rfl
  | _ => exact pure _

theorem matchedEnum? (m : Match) (ty : Ty) : Steady G (matchedEnum? m ty) := by
  unfold Check.matchedEnum?
  dsimp only
  split
  · exact pure _
  · exact (enumTag? _).bind fun _ => pure _
  · exact pure _

theorem hoist (topLevel : Bool) (stmts : List Stmt) : Steady G (hoist topLevel stmts) := by
  induction stmts with
  | nil => exact pure _
  | cons stmt rest ih =>
    cases stmt with
    | function signature body =>
      refine registry ?_ fun r => (declare _ _ _ _).bind fun _ => ih
      intro r r' agrees
      rw [agrees.resolve_eq]
    | _ => exact ih

theorem declareParams (params : List Param) (types : List Ty) :
    Steady G (declareParams params types) := by
  induction params generalizing types with
  | nil => exact pure _
  | cons param rest ih =>
    cases types with
    | nil => exact pure _
    | cons ty others => exact (declare _ _ _ _).bind fun _ => ih others

theorem bindVariant (matched : Option String) (enum variant : String) (binding : Option String)
    (span : Span) : Steady G (bindVariant matched enum variant binding span) := by
  refine registry ?_ fun r => (settle _).bind fun ty => ?_
  · intro r r' agrees
    rw [agrees.bindingType_eq]
  · cases binding with
    | none => exact pure _
    | some name => exact declare _ _ _ _

/-- A function may have been used ahead in one of the states and not in the other. -/
theorem openFunction (signature : Signature) (topLevel : Bool) :
    Steady G (openFunction signature topLevel) := by
  intro front front' c c' alike
  have params : signature.paramTypes c'.registry = signature.paramTypes c.registry := by
    simp only [Signature.paramTypes, alike.registry.resolve_eq]
  have declared : signature.declaredResult c'.registry = signature.declaredResult c.registry := by
    simp only [Signature.declaredResult, alike.registry.resolve_eq]
  have reports : signature.reports c'.registry = signature.reports c.registry := by
    simp only [Signature.reports, alike.registry.resolveParams_eq, alike.registry.resolve_eq]
  have binding : signature.binding c'.registry = signature.binding c.registry := by
    funext used level
    simp only [Signature.binding, params, declared]
  constructor
  · rw [result_openFunction, result_openFunction, declared]
  · rw [after_openFunction, after_openFunction, params, declared, reports, binding]
    have redeclared : Steady G (modifyEnvironment fun env =>
        env.declare signature.name (signature.binding c.registry
          ((env.current.get? signature.name).any Binding.used) topLevel)) :=
      fun _ _ _ _ alike => ⟨rfl, alike.withEnvironment (alike.environment.redeclare signature.name
        (fun used => signature.binding c.registry used topLevel) fun _ => rfl)⟩
    exact (((emit _).bind fun _ => redeclared.bind fun _ => enterScope.bind fun _ =>
      (declareParams _ _).bind fun _ => pushFrame _) _ _ _ _ alike).2

theorem closeFunction (signature : Signature) (expected : Option Ty) (body : BlockOutcome) :
    Steady G (closeFunction signature expected body) :=
  popFrame.bind fun _ => (settle _).bind fun result => exitScope.bind fun _ =>
    modifyCurrent signature.name (Binding.blind_withResult result)

/-! The visits. -/

theorem steps : Compositional (fun _ => True) fun _ _ {_} _ step => Steady G step where
  basic := fun _ _ => trivial
  pure := fun _ => .pure _
  bind := fun first rest => first.bind fun value => rest value fun _ _ => trivial
  settle := fun _ => .settle _
  error := fun _ _ => .error _ _
  reportArms := fun _ _ => registry (fun agrees => by rw [agrees.findings_eq]) fun _ => .emit _
  useName := .useName
  structFields? := fun _ => registry (fun agrees => by rw [agrees.structs]) fun _ => .pure _
  enumVariants? := fun _ => registry (fun agrees => by rw [agrees.enums]) fun _ => .pure _
  expectedResult? := frame?.bind fun _ => .pure _
  matchedEnum? := .matchedEnum?
  recordReturn := fun _ => .modifyReturns _
  declare := fun _ _ _ _ => .declare _ _ _ _
  bindVariant := .bindVariant
  inScope := fun inside => enterScope.bind fun _ => inside.bind fun _ =>
    exitScope.bind fun _ => .pure _
  visitVar := by
    intro l flags decl visited
    rcases decl with ⟨name, mutable, ascription, value, exported, span⟩
    rw [visitVar_eq]
    refine visited.bind fun outcome => registry (fun agrees => ?_) fun r => ?_
    · simp only [agrees.resolve_eq]
    · exact (settle _).bind fun ty => (declare _ ty _ _).bind fun _ => .tagLiteral _ _
  visitFunction := by
    intro l place signature body visited
    rw [visitStmt]
    exact (openFunction _ _).bind fun _ => (visited _).bind fun _ =>
      (closeFunction _ _ _).bind fun _ => .pure _
  visitDead := fun _ _ visited => (error _ _).bind fun _ => returnsSeen.bind fun _ =>
    visited.bind fun _ => .modifyReturns _
  visitBlock := by
    intro l _ valued body span visited
    rw [visitBlock]
    exact enterScope.bind fun _ => (hoist _ _).bind fun _ => returnsSeen.bind fun _ =>
      visited.bind fun _ => exitScope.bind fun _ => (returnsSince _).bind fun _ => .pure _

end Steady

theorem visitStmt_steady [Scope.Alike G] (place : Place) (stmt : Stmt) :
    Steady G (visitStmt place stmt) :=
  Compositional.stmt Steady.steps ⟨0, 0⟩ place stmt

theorem visitTopLevel_steady [Scope.Alike G] (stmts : List Stmt) :
    Steady G (visitTopLevel stmts) :=
  Compositional.topLevel Steady.steps ⟨0, 0⟩ stmts

end Check

/-! Whole modules. -/

namespace Scope

/-- The reports on the unused names of a scope, at top level or not. -/
def unusedReports (options : Options) (scope : Scope) : List Diagnostic :=
  unusedLocals options scope ++ unusedTopLevel options scope

end Scope

namespace Check

/-- The end of a check. -/
def reportUnused : Check Unit := do
  let scope := (← get).environment.current
  reportUnusedLocals scope
  warnUnusedTopLevel scope

theorem after_reportUnused (c : Checker) :
    after reportUnused c =
      { c with
        diagnostics := c.diagnostics ++
          Scope.unusedReports c.options c.environment.current } := by
  simp [reportUnused, reportUnusedLocals, warnUnusedTopLevel, Scope.unusedReports]

/-- What the check of a module does behind the registration of its types. -/
def checkBehind (stmts : List Stmt) : Check Unit := do
  hoist true stmts
  visitTopLevel stmts
  reportUnused

end Check

theorem Module.checked_eq_behind (m : Module) (options : Options) :
    m.checked options =
      after (checkBehind m.body) (after (register m.body) (Checker.fresh options)) := rfl

end ModuleCheck
