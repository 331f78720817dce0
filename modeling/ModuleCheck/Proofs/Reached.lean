import ModuleCheck.Proofs.Invariant

namespace ModuleCheck

/-!
No state of a check holds a dangling type.

The states of a check are those of the registration of types, those of the declaration of
functions ahead, and those that the visits go through.  In each of them every struct and every
enum that occurs in a type, at any depth, is declared.  A target of an update that has a struct
type therefore always finds its struct.
-/

open Check

/-! The states of a check. -/

/-- The visit goes through the state between two of its own steps.  States inside the visits
that it enters are amid those, and closing a scope with its reports counts as one step. -/
inductive Amid : Visit → Checker → Prop
  | start {v} : Amid v v.start
  | finish {v} : Amid v v.finish
  | compared {initializer condition consequence alternative span c} :
      Amid ⟨.conditional ⟨initializer, condition, consequence, alternative, span⟩, c⟩
        (after (do
          visitInitializer initializer
          let tested ← visitExpr condition
          settle (Rules.condition ⟨tested.ty, condition.span⟩)
          let block ← visitBlock true consequence
          settle (Rules.requireBranchValue block.toExprOutcome "If branch" consequence.span)
          let second ← visitOtherwise alternative
          settle (Rules.requireBranchValue second "If branch" alternative.span)) c)
  | joined {initializer condition consequence alternative span c} :
      Amid ⟨.conditional ⟨initializer, condition, consequence, alternative, span⟩, c⟩
        (after (do
          visitInitializer initializer
          visitBranches condition consequence alternative span) c)
  | armed {valued enum? pattern guard body span c} :
      Amid ⟨.arm valued enum? ⟨pattern, guard, body, span⟩, c⟩
        (after (do
          enterScope
          visitArmParts valued enum? pattern guard body) c)
  | matchedVariant {enum? enum variant field binding span c} :
      Amid ⟨.pattern enum? (.variant enum variant field binding span), c⟩
        (after (settle (Arms.bindingType c.registry enum? enum variant binding.isSome span)) c)
  | hoisted {valued b c} (ahead rest) (split : b.body = ahead ++ rest) :
      Amid ⟨.block valued b, c⟩ (after (do enterScope; hoist false ahead) c)
  | imported {place i c} (ahead rest) (split : i.names = ahead ++ rest) :
      Amid ⟨.stmt place (.imports i), c⟩ (after (declareImports place.topLevel i.span ahead) c)
  | typed {flags name mutable ascription value exported span c} :
      Amid ⟨.var flags ⟨name, mutable, ascription, value, exported, span⟩, c⟩
        (after (do
          let outcome ← visitExpr value
          let registry ← registry
          let written := ascription.map fun t => registry.resolve (some t)
          settle (Rules.variableType name written ⟨outcome.ty, value.span⟩ span)) c)
  | untagged {flags name mutable ascription value exported span c} :
      Amid ⟨.var flags ⟨name, mutable, ascription, value, exported, span⟩, c⟩
        (after (do
          let outcome ← visitExpr value
          let registry ← registry
          let written := ascription.map fun t => registry.resolve (some t)
          let ty ← settle (Rules.variableType name written ⟨outcome.ty, value.span⟩ span)
          declare name ty flags (some span)) c)
  | params {place signature body c} :
      Amid ⟨.stmt place (.function signature body), c⟩
        (after (settle (resolveParams c.registry signature.params)) c)
  | signed {place signature body c} :
      Amid ⟨.stmt place (.function signature body), c⟩
        (after (emit (signature.reports c.registry)) c)
  | declared {place signature body c} :
      Amid ⟨.stmt place (.function signature body), c⟩
        (afterSignature signature place.topLevel c)
  | opened {place signature body c} (ahead rest) (split : signature.params = ahead ++ rest) :
      Amid ⟨.stmt place (.function signature body), c⟩
        (after (do
          enterScope
          declareParams ahead (signature.paramTypes c.registry))
          (afterSignature signature place.topLevel c))
  | left {place signature body c} :
      Amid ⟨.stmt place (.function signature body), c⟩
        (after (do
          let expected ← openFunction signature place.topLevel
          let _ ← visitBlock expected.isNone body
          popFrame) c)
  | concluded {place signature body c} :
      Amid ⟨.stmt place (.function signature body), c⟩
        (after (do
          let expected ← openFunction signature place.topLevel
          let outcome ← visitBlock expected.isNone body
          let _ ← popFrame
          settle (Rules.functionResult signature.name expected outcome signature.span)) c)
  | closed {place signature body c} :
      Amid ⟨.stmt place (.function signature body), c⟩
        (after (do
          let expected ← openFunction signature place.topLevel
          let outcome ← visitBlock expected.isNone body
          let _ ← popFrame
          let _ ← settle (Rules.functionResult signature.name expected outcome signature.span)
          exitScope) c)
  | returned {place value span c} (frame) (inside : c.frames.head? = some frame) :
      Amid ⟨.stmt place (.returns value span), c⟩
        (after (do
          let operand ← visitOptional value
          settle (Rules.returned frame.expected operand span)) c)

/-- The state is one of the states of the check of a module. -/
inductive Module.Reached (m : Module) (options : Options) : Checker → Prop
  /-- The names of the first types are entered. -/
  | named (ahead rest : List Stmt) (split : m.body = ahead ++ rest) :
      Reached m options
        { Checker.fresh options with registry := ahead.foldl Registry.enterName Registry.empty }
  /-- The members of the first types are entered, behind the names of all of them. -/
  | filled (ahead rest : List Stmt) (split : m.body = ahead ++ rest) (registered)
      (entered : registered = Registry.enterAllMembers options
        (m.body.foldl Registry.enterName Registry.empty) ahead) :
      Reached m options
        { Checker.fresh options with
          registry := registered.value
          diagnostics := registered.diagnostics }
  /-- The first functions are declared ahead. -/
  | hoisted (ahead rest : List Stmt) (split : m.body = ahead ++ rest) :
      Reached m options (after (do register m.body; hoist true ahead) (Checker.fresh options))
  | visited (v : Visit) (c : Checker) (visits : m.Visits options v) (amid : Amid v c) :
      Reached m options c
  /-- The unused local names of the global scope are reported. -/
  | reported :
      Reached m options
        (after (do
          visitTopLevel m.body
          reportUnusedLocals (m.visit options).finish.environment.current)
          (m.visit options).start)
  | checked : Reached m options (m.checked options)

/-! Types in sight. -/

/-- Every struct and enum in a type of the state is declared in its registry: in the types of
fields and payloads, in those of the bindings of all open scopes, and in those that functions
declare or return. -/
structure Checker.NoDangling (c : Checker) : Prop where
  members : c.registry.Closed
  bindings : c.environment.Each fun binding => binding.ty.Known c.registry
  frames : ∀ frame ∈ c.frames, Checker.FrameKnown c.registry frame

theorem Checker.Consistent.noDangling {r : Registry} {c : Checker} (consistent : c.Consistent r) :
    c.NoDangling := by
  rw [← consistent.registry] at consistent
  exact ⟨consistent.closed, consistent.bound, consistent.framed⟩

/-- A visit tells known types to the visits that it enters: a block tells the type of its last
statement to the rest of the block, and a struct literal or update tells the types of the fields
that the registry knows. -/
theorem Enters.told {r : Registry} {v w : Visit} (enters : Enters v w)
    (consistent : v.start.Consistent r) (told : v.task.Told (Ty.Known r)) :
    w.task.Told (Ty.Known r) := by
  cases enters
  case literalOfStruct found =>
    rw [consistent.registry] at found
    exact fun name ty declared => consistent.closed.field _ _ name ty found declared
  case updateOfStruct target _ _ _ _ _ _ found =>
    rw [(preserves_visitExpr target _ consistent).1.registry] at found
    exact fun name ty declared => consistent.closed.field _ _ name ty found declared
  case moreFields => exact told
  case body => exact Ty.Known.unit
  case behindDead => exact told
  case behindLive valued progress stmt rest c outcome reached visited =>
    subst visited
    have yielded := (preserves_visit (.stmt ⟨false, valued && rest.isEmpty⟩ stmt) trivial c
      consistent).2
    change Ty.Known r (Option.getD _ _)
    cases shape : (result (visitStmt ⟨false, valued && rest.isEmpty⟩ stmt) c).ty with
    | none => exact told
    | some ty => exact yielded ty (Option.mem_toList.mpr shape)
  all_goals exact trivial

/-! Every state is consistent. -/

namespace Check

variable {r : Registry}

theorem Preserves.along {α : Type} {types : α → List Ty} {step : Check α}
    (preserves : Preserves r types step) :
    Along (fun c c' => c.Consistent r → c'.Consistent r) step :=
  fun c consistent => (preserves c consistent).1

theorem Preserves.visitInitial (name : String) (written : Option TypeExpr) (value : Expr)
    (span : Span) : Preserves r (fun ty => [ty]) (visitInitial name written value span) :=
  (preserves_visitExpr value).bind fun _ known => registry (settle
    (.variableType (Registry.resolve_known r) (List.forall_mem_singleton.mp known) _ _ _))

end Check

/-- Every state that a visit goes through fits the registry if the first one does. -/
theorem Amid.consistent {r : Registry} {v : Visit} {c : Checker} (amid : Amid v c)
    (consistent : v.start.Consistent r) : c.Consistent r := by
  have front := Checker.Consistent.front r
  cases amid with
  | start => exact consistent
  | finish => exact consistent.visit v.task
  | compared =>
    exact front.bind (front.visit (.initializer _)) (fun _ =>
      front.bind (front.visit (.expr _)) fun _ => front.bind (front.settle _) fun _ =>
      front.bind (front.visit (.block true _)) fun _ => front.bind (front.settle _) fun _ =>
      front.bind (front.visit (.otherwise _)) fun _ => front.settle _) _ consistent
  | joined =>
    exact front.bind (front.visit (.initializer _)) (fun _ =>
      front.bind (front.visit (.expr _)) fun _ => front.bind (front.settle _) fun _ =>
      front.bind (front.visit (.block true _)) fun _ => front.bind (front.settle _) fun _ =>
      front.bind (front.visit (.otherwise _)) fun _ => front.bind (front.settle _) fun _ =>
      front.settle _) _ consistent
  | armed =>
    exact front.bind front.enterScope (fun _ => front.bind (front.visit (.pattern _ _)) fun _ =>
      front.bind (front.visit (.optional _)) fun _ => front.bind (front.settleGuard _) fun _ =>
      front.bind (front.visit (.expr _)) fun _ =>
      front.bind ((Preserves.steps r).settleArmValue (l := ⟨0, 0⟩) _ _ _).along
      fun _ => front.pure _) _ consistent
  | matchedVariant => exact front.settle _ _ consistent
  | hoisted ahead rest split =>
    exact front.bind front.enterScope (fun _ => front.hoist false ahead) _ consistent
  | imported ahead rest split =>
    exact ((Preserves.steps r).declareImports (l := ⟨0, 0⟩) _ _ ahead).along _ consistent
  | typed => exact (Preserves.visitInitial _ _ _ _).along _ consistent
  | @untagged flags name mutable ascription value exported span c =>
    have run := (Preserves.visitInitial (r := r) name ascription value span).bind
      fun ty known => Preserves.declare name flags (some span) (List.forall_mem_singleton.mp known)
    exact run.along c consistent
  | params => exact front.settle _ _ consistent
  | signed => exact front.emit _ _ consistent
  | declared => exact Preserves.consistent_afterSignature consistent _ _
  | @opened place signature body c ahead rest split =>
    have known : ∀ ty ∈ signature.paramTypes c.registry, ty.Known r := by
      rw [consistent.registry]
      exact Preserves.known_paramTypes signature
    have run := Preserves.enterScope.bind fun _ _ => Preserves.declareParams ahead _ known
    exact run.along _ (Preserves.consistent_afterSignature consistent signature place.topLevel)
  | left =>
    exact front.bind (front.openFunction _ _) (fun _ =>
      front.bind (front.visit (.block _ _)) fun _ => Preserves.popFrame.along) _ consistent
  | concluded =>
    exact front.bind (front.openFunction _ _) (fun _ =>
      front.bind (front.visit (.block _ _)) fun _ => front.bind Preserves.popFrame.along fun _ =>
      front.settle _) _ consistent
  | closed =>
    exact front.bind (front.openFunction _ _) (fun _ =>
      front.bind (front.visit (.block _ _)) fun _ => front.bind Preserves.popFrame.along fun _ =>
      front.bind (front.settle _) fun _ => Preserves.exitScope.along) _ consistent
  | returned frame inside =>
    exact front.bind (front.visit (.optional _)) (fun _ => front.settle _) _ consistent

namespace Module

/-- Every visit of a check is told known types. -/
theorem told_of_visits {m : Module} {options : Options} {v : Visit} (visits : m.Visits options v) :
    v.task.Told (Ty.Known (m.checked options).registry) := by
  induction visits with
  | refl => trivial
  | tail before enters ih => exact enters.told (consistent_of_visits before) ih

/-- The states of the registration: nothing is bound yet, and members are entered behind the
names of all types. -/
theorem noDangling_fresh {options : Options} {r : Registry} (closed : r.Closed)
    (diagnostics : List Diagnostic) :
    Checker.NoDangling
      { Checker.fresh options with registry := r, diagnostics := diagnostics } where
  members := closed
  bindings := .empty
  frames := fun _ mem => by cases mem

theorem noDangling_of_reached {m : Module} {options : Options} {c : Checker}
    (reached : m.Reached options c) : c.NoDangling := by
  have start := consistent_of_visits (Relation.ReflTransGen.refl : m.Visits options _)
  have finish := start.visit (m.visit options).task
  cases reached with
  | named ahead rest split =>
    exact noDangling_fresh (Registry.closed_empty.enterNames ahead) []
  | filled ahead rest split registered entered =>
    subst entered
    have names := Registry.closed_empty.enterNames m.body
    exact noDangling_fresh (names.enterAllMembers options ahead) _
  | hoisted ahead rest split =>
    have run := (Preserves.hoist true ahead).along _ (consistent_register m options)
    exact run.noDangling
  | visited v c visits amid => exact (amid.consistent (consistent_of_visits visits)).noDangling
  | reported => exact (finish.report _).noDangling
  | checked => exact ((finish.report _).report _).noDangling

/-- No type in any state of a check, and none that a visit yields, mentions a struct or an enum
that is not declared.  So a target of an update that has a struct type finds the fields of its
struct. -/
theorem no_dangling_types (m : Module) (options : Options) :
    (∀ c, m.Reached options c → c.NoDangling) ∧
      (∀ v, m.Visits options v →
        ∀ ty ∈ v.task.resultTypes (result v.task.step v.start), ty.Known v.finish.registry) ∧
      ∀ target fields span c struct,
        m.Visits options ⟨.expr (.update target fields span), c⟩ →
        (result (visitExpr target) c).ty = .struct struct →
        ∃ declared, (after (visitExpr target) c).registry.structs.get? struct = some declared := by
  refine ⟨fun c reached => noDangling_of_reached reached, ?_, ?_⟩
  · intro v visits
    have consistent := consistent_of_visits visits
    rw [← (later_of_visits visits).registry]
    exact (preserves_visit v.task (told_of_visits visits) v.start consistent).2
  · intro target fields span c struct visits typed
    have consistent := consistent_of_visits visits
    have known := typed ▸ known_visitExpr target consistent
    rw [(preserves_visitExpr target c consistent).1.registry]
    cases known with
    | struct declared =>
      rw [← Table.isSome_get?] at declared
      exact Option.isSome_iff_exists.mp declared

/-- An update in a function whose parameter types are declared behind it and mention each
other. -/
theorem no_dangling_types_relink :
    let s := Span.null
    let node : TypeExpr := .named "Node" s
    let link : TypeExpr := .named "Link" s
    let update : Expr := .update (.identifier "n" s) [⟨"next", .identifier "l" s, s⟩] s
    let m : Module := ⟨[
      .function ⟨"relink", [⟨"n", some node, s⟩, ⟨"l", some link, s⟩], some node, false, s⟩
        ⟨[.returns (some update) s], s⟩,
      .struct ⟨"Node", [⟨"next", some link, s⟩], s⟩,
      .enum ⟨"Link", [⟨"none", none, none, s⟩, ⟨"to", some "node", some node, s⟩], s⟩]⟩
    ∃ c, m.Visits {} ⟨.expr update, c⟩ ∧ m.Reached {} c ∧ c.NoDangling ∧ c.frames.length = 1 ∧
      (result (visitExpr update) c).ty = .struct "Node" ∧
      Ty.Known (after (visitExpr update) c).registry (.struct "Node") ∧
      ∃ declared,
        (after (visitExpr (.identifier "n" s)) c).registry.structs.get? "Node" = some declared := by
  intro s node link update m
  have visits : m.Visits {} ⟨.expr update, _⟩ :=
    .tail (.tail (.tail (.tail (.tail (.tail .refl .first) .function) .body) (.live rfl))
      (.returned (by decide +kernel))) .optional
  have reached : m.Reached {} _ := .visited _ _ visits .start
  have all := no_dangling_types m {}
  have known := all.2.1 _ visits (.struct "Node") (by decide +kernel)
  have declared := all.2.2 _ _ _ _ "Node" visits (by decide +kernel)
  exact ⟨_, visits, reached, all.1 _ reached, by decide +kernel, by decide +kernel, known,
    declared⟩

end Module

end ModuleCheck
