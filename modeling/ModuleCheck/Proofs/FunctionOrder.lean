import Mathlib.Data.List.Nodup
import Mathlib.Data.List.Perm.Basic
import ModuleCheck.Proofs.Alike
import ModuleCheck.Proofs.Bindings
import ModuleCheck.Proofs.ControlFlow
import ModuleCheck.Proofs.Resolution

namespace ModuleCheck

/-!
The order of functions.

A function that states its result is declared with its whole type before anything is visited.
Its visit leaves nothing but marks, on the names that are free in it, and what it reports does
not depend on marks outside of it.  So a run of such functions has an effect that is the sum of
the effects of each, and the functions of a run may be exchanged.
-/

open Check

/-! Scopes that differ in their order, and scopes that differ in their marks too. -/

namespace Scope

/-- Each name has the same entry. -/
def SameEntries (g g' : Scope) : Prop := ∀ name, g'.get? name = g.get? name

instance : Alike SameEntries where
  get? := fun same name => by rw [same]
  insert := by
    intro g g' same name binding _ other
    rw [Table.get?_insert, Table.get?_insert, same, same]
  modify := by
    intro g g' same name f _ other
    rw [Table.get?_modify, Table.get?_modify, same]

/-- Marks are all that uses leave. -/
theorem sameButMarks_markAll (names : List String) (scope : Scope) :
    SameButMarks scope (markAll names scope) := by
  intro name
  rw [get?_markAll, Option.map_map]
  congr 1
  funext binding
  simp only [Function.comp_apply]
  split <;> rfl

theorem SameEntries.markAll {g g' : Scope} (same : SameEntries g g') {names names' : List String}
    (perm : names'.Perm names) : SameEntries (markAll names g) (markAll names' g') := by
  intro name
  rw [get?_markAll, get?_markAll, same]
  simp only [perm.mem_iff]

theorem SameEntries.perm {g g' : Scope} (same : SameEntries g g') : g'.toList.Perm g.toList := by
  have distinct : ∀ scope : Scope, scope.toList.Nodup := fun scope =>
    List.Nodup.of_map Prod.fst scope.keys_nodup
  rw [List.perm_ext_iff_of_nodup (distinct _) (distinct _)]
  rintro ⟨name, binding⟩
  rw [← Table.get?_eq_some_iff, ← Table.get?_eq_some_iff, same]

theorem SameEntries.unusedReports {g g' : Scope} (same : SameEntries g g') (options : Options) :
    (unusedReports options g').Perm (unusedReports options g) := by
  have unused : ∀ topLevel, (unused options topLevel g').Perm (unused options topLevel g) :=
    fun _ => same.perm.filter _
  apply List.Perm.append
  · unfold unusedLocals
    split
    · exact (unused false).map _
    · exact .nil
  · unfold unusedTopLevel
    split
    · exact (unused true).map _
    · exact .nil

end Scope

/-- The global scopes of environments that are alike are related. -/
theorem Environment.Alike.global_related {G : Scope → Scope → Prop} {env env' : Environment}
    (alike : env.Alike G env') : G env.global env'.global := by
  have last : ∀ {scopes scopes'}, Scope.Around G scopes scopes' → ∀ other other',
      G (scopes.getLastD other) (scopes'.getLastD other') := by
    intro scopes scopes' around
    induction around with
    | global related => exact fun _ _ => related
    | inner _ ih =>
      intro other other'
      rw [List.getLastD_cons, List.getLastD_cons]
      exact ih _ _
  have here := last alike env.current env'.current
  rwa [Environment.scopes, Environment.scopes, List.getLastD_cons, List.getLastD_cons] at here

/-! Functions that state their results. -/

namespace Stmt

/-- A function that states its result. -/
def isStated : Stmt → Bool
  | function signature _ => signature.result.isSome
  | _ => false

theorem isOther_of_isStated {stmt : Stmt} (stated : stmt.isStated = true) :
    stmt.isOther = true := by
  cases stmt <;> first | rfl | cases stated

/-- Where all names are distinct, those of a statement are not declared in front of it. -/
theorem declaredNames_apart {front rest : List Stmt}
    (distinct : ((front ++ rest).flatMap declaredNames).Nodup) {stmt : Stmt}
    (member : stmt ∈ rest) : ∀ name ∈ stmt.declaredNames, name ∉ front.flatMap declaredNames := by
  intro name declared within
  rw [List.flatMap_append, List.nodup_append] at distinct
  exact distinct.2.2 name within name (List.mem_flatMap.mpr ⟨stmt, member, declared⟩) rfl

/-- The names that are free in a statement. -/
def freeNames (stmt : Stmt) : List String := (free (Sites.ofStmt [] stmt)).map Occurrence.name

/-- The binding that a statement gives to a name ahead of all visits. -/
def hoistedAs? (r : Registry) (topLevel : Bool) (name : String) : Stmt → Option Binding
  | function signature _ =>
    if signature.name = name then some (signature.binding r false topLevel) else none
  | _ => none

theorem hoistedName?_of_hoistedAs? {r : Registry} {topLevel : Bool} {name : String} (stmt : Stmt)
    (hoisted : (stmt.hoistedAs? r topLevel name).isSome = true) :
    stmt.hoistedName? = some name := by
  cases stmt with
  | function signature body =>
    rw [hoistedAs?] at hoisted
    split at hoisted
    · rename_i named
      exact congrArg some named
    · cases hoisted
  | _ => cases hoisted

end Stmt

namespace Checker

/-- The statement is a function that states its result, and it is declared in the innermost
scope with all that its signature says. -/
inductive Announced (c : Checker) : Stmt → Prop
  | function {signature : Signature} {body : Block} (used : Bool)
      (stated : signature.result.isSome = true)
      (bound : c.environment.current.get? signature.name =
        some (signature.binding c.registry used true)) : Announced c (.function signature body)

/-- The state is outside of all functions, and the global scope is the only one. -/
structure AtTop (c : Checker) : Prop where
  frames : c.frames = []
  outer : c.environment.outer = []

namespace AtTop

variable {declared : List String} {c c' : Checker}

theorem extend (top : c.AtTop) (visited : c.Extends declared c') : c'.AtTop where
  frames := by
    have grown := visited.frames
    rw [top.frames] at grown
    generalize c'.frames = frames at grown ⊢
    cases grown
    rfl
  outer := by
    have grown := visited.environment.outer
    rw [top.outer] at grown
    exact List.forall₂_nil_left_iff.mp grown

theorem scopes_eq (top : c.AtTop) : c.environment.scopes = [c.environment.current] := by
  rw [Environment.scopes, top.outer]

theorem global_eq (top : c.AtTop) : c.environment.global = c.environment.current := by
  rw [Environment.global, top.outer]
  rfl

theorem alike_iff {G : Scope → Scope → Prop} (top : c.AtTop) (top' : c'.AtTop) :
    c.environment.Alike G c'.environment ↔ G c.environment.current c'.environment.current := by
  constructor
  · intro alike
    rw [← top.global_eq, ← top'.global_eq]
    exact alike.global_related
  · intro related
    rw [Environment.Alike, top.scopes_eq, top'.scopes_eq]
    exact .global related

end AtTop

/-- A function is announced still if its entry has changed in its mark only. -/
theorem Announced.marks {c c' : Checker} {signature : Signature} {body : Block}
    (announced : c.Announced (.function signature body)) (registry : c'.registry = c.registry)
    (kept : ∀ binding, c.environment.current.get? signature.name = some binding →
      ∃ later, c'.environment.current.get? signature.name = some later ∧ binding.Marks later) :
    c'.Announced (.function signature body) := by
  cases announced with
  | function used stated bound =>
    rcases kept _ bound with ⟨later, bound', rfl | rfl⟩
    · exact .function used stated (by rw [bound', registry])
    · refine .function true stated ?_
      rw [bound', registry, Signature.binding, Signature.binding, Bool.or_true]
      rfl

/-- A function stays announced while other names are declared. -/
theorem Announced.extend {c c' : Checker} {declared : List String} {stmt : Stmt}
    (announced : c.Announced stmt) (visited : c.Extends declared c')
    (apart : ∀ name ∈ stmt.declaredNames, name ∉ declared) : c'.Announced stmt := by
  cases stmt with
  | function signature body =>
    refine announced.marks visited.registry fun binding bound => ?_
    exact visited.environment.current.kept _ _ (apart _ (List.mem_singleton.mpr rfl)) bound
  | _ => cases announced

/-- The state after uses of the given names and after the given reports. -/
def advance (c : Checker) (names : List String) (ds : List Diagnostic) : Checker :=
  { c with environment := c.environment.uses names, diagnostics := c.diagnostics ++ ds }

theorem advance_advance (c : Checker) (names names' : List String) (ds ds' : List Diagnostic) :
    (c.advance names ds).advance names' ds' = c.advance (names ++ names') (ds ++ ds') := by
  rw [advance, advance, advance, Environment.uses_append, List.append_assoc]

section Advance

variable {c : Checker} (names : List String) (ds : List Diagnostic)

theorem AtTop.advance (top : c.AtTop) : (c.advance names ds).AtTop where
  frames := top.frames
  outer := by
    rw [Checker.advance, Environment.outer_uses, top.outer, Environment.useAll_nil]

theorem Announced.advance {stmt : Stmt} (announced : c.Announced stmt) :
    (c.advance names ds).Announced stmt := by
  cases stmt with
  | function signature body =>
    refine announced.marks rfl fun binding bound => ?_
    rw [Checker.advance, Environment.current_uses, Scope.get?_markAll, bound]
    refine ⟨_, rfl, ?_⟩
    split
    · exact .markUsed binding
    · exact .refl binding
  | _ => cases announced

/-- Marks and reports are all that differs. -/
theorem AtTop.alike_advance (top : c.AtTop) :
    Alike Scope.SameButMarks c.diagnostics (c.advance names ds).diagnostics c
      (c.advance names ds) where
  options := rfl
  registry := .refl _
  environment := by
    rw [top.alike_iff (top.advance names ds), Checker.advance, Environment.current_uses]
    exact Scope.sameButMarks_markAll names _
  frames := rfl
  fault := rfl
  reports := nothing_added _ _

end Advance

end Checker

namespace Check

open Checker (Announced AtTop)

variable {c c' : Checker}

/-! Declaring functions ahead. -/

/-- The last function of a name counts. -/
theorem after_hoist (topLevel : Bool) (stmts : List Stmt) (c : Checker) :
    ∃ scope, after (hoist topLevel stmts) c =
        { c with environment := ⟨scope, c.environment.outer⟩ } ∧
      ∀ name, scope.get? name =
        (stmts.reverse.findSome? (Stmt.hoistedAs? c.registry topLevel name)).or
          (c.environment.current.get? name) := by
  induction stmts generalizing c with
  | nil => exact ⟨c.environment.current, rfl, fun _ => rfl⟩
  | cons stmt rest ih =>
    cases stmt with
    | function signature body =>
      rw [after_hoist_function]
      rcases ih _ with ⟨scope, whole, entries⟩
      refine ⟨scope, whole, fun name => ?_⟩
      rw [entries, List.reverse_cons, List.findSome?_append, Option.or_assoc,
        List.findSome?_singleton, Stmt.hoistedAs?]
      congr 1
      dsimp only [Environment.declare]
      rw [Table.get?_insert]
      by_cases named : signature.name = name
      · rw [if_pos named, if_pos named.symm]
        rfl
      · rw [if_neg named, if_neg (Ne.symm named)]
        rfl
    | _ =>
      rcases ih c with ⟨scope, whole, entries⟩
      refine ⟨scope, whole, fun name => ?_⟩
      rw [entries, List.reverse_cons, List.findSome?_append, Option.or_assoc]
      rfl

/-- Functions that state their results are announced when they are declared ahead. -/
theorem announced_hoist {stmts : List Stmt} (distinct : (stmts.filterMap Stmt.hoistedName?).Nodup)
    {stmt : Stmt} (member : stmt ∈ stmts) (stated : stmt.isStated = true) (c : Checker) :
    (after (hoist true stmts) c).Announced stmt := by
  cases stmt with
  | function signature body =>
    rcases after_hoist true stmts c with ⟨scope, whole, entries⟩
    have named : ∀ stmt : Stmt, (stmt.hoistedAs? c.registry true signature.name).isSome = true →
        stmt.hoistedName? = some signature.name := fun stmt => stmt.hoistedName?_of_hoistedAs?
    have found := Stmt.findSome?_reverse_of_mem distinct named member (if_pos rfl)
    rw [whole]
    exact .function false stated (by rw [entries, found]; rfl)
  | _ => cases stated

/-! The visit of one function. -/

/-- A function that is declared already is declared with the same binding again. -/
theorem environment_afterSignature {signature : Signature} {used topLevel : Bool}
    (bound : c.environment.current.get? signature.name =
      some (signature.binding c.registry used topLevel)) :
    (afterSignature signature topLevel c).environment = c.environment := by
  have again : signature.binding c.registry
      ((c.environment.current.get? signature.name).any Binding.used) topLevel =
        signature.binding c.registry used topLevel := by
    rw [bound]
    simp [Signature.binding, Binding.declared]
  change c.environment.declare signature.name (signature.binding c.registry
    ((c.environment.current.get? signature.name).any Binding.used) topLevel) = c.environment
  rw [again, Environment.declare, Table.insert_eq_self bound]

theorem withResult_eq_self {binding : Binding} {params : List Ty} {result : Ty}
    (typed : binding.ty = .fn params result) : withResult result binding = binding := by
  rw [withResult, typed]
  exact congrArg (fun ty => { binding with ty }) typed.symm

/-- A function that is announced leaves nothing but marks in the scopes around it. -/
theorem environment_of_announced {stmt : Stmt} (announced : c.Announced stmt) :
    (after (visitStmt ⟨true, false⟩ stmt) c).environment = c.environment.uses stmt.freeNames := by
  cases announced with
  | @function signature body used stated bound =>
    let declared := signature.declaredResult c.registry
    let inside := after (openFunction signature true) c
    let outcome := result (visitBlock declared.isNone body) inside
    let behind := after (visitBlock declared.isNone body) inside
    have around := uses_afterBody (visitBlock_uses declared.isNone body inside) declared outcome
    rcases bound_afterBody (visitBlock_keeps declared.isNone body inside) declared outcome with
      ⟨binding, stored, typed⟩
    have value : (Rules.functionResult signature.name declared outcome signature.span).value =
        declared.getD .unknown := by
      rcases Option.isSome_iff_exists.mp stated with ⟨written, wrote⟩
      simp only [declared, Signature.declaredResult, wrote]
      rfl
    -- the result is the stated one, with which the function was declared
    have fixed : (afterBody signature declared outcome behind).environment.current.modify
        signature.name (withResult (Rules.functionResult signature.name declared outcome
          signature.span).value) =
        (afterBody signature declared outcome behind).environment.current := by
      refine Table.modify_eq_self fun binding' stored' => ?_
      cases stored.symm.trans stored'
      rw [value]
      exact withResult_eq_self typed
    have closed : (after (visitStmt ⟨true, false⟩ (.function signature body)) c).environment =
        (afterBody signature declared outcome behind).environment := by
      rw [visitStmt, after_bind, after_bind, after_bind, after_pure, result_openFunction,
        after_closeFunction]
      dsimp only [Environment.modifyCurrent]
      rw [fixed]
    rw [closed, around.environment, environment_afterSignature bound, Stmt.freeNames,
      Sites.free_function]

/-- All that it changes apart from these marks are the reports. -/
theorem after_of_announced {stmt : Stmt} (top : c.AtTop) (announced : c.Announced stmt) :
    after (visitStmt ⟨true, false⟩ stmt) c =
      c.advance stmt.freeNames (reported (visitStmt ⟨true, false⟩ stmt) c) := by
  have visited := visitStmt_declares ⟨true, false⟩ stmt c
  have frames := (top.extend visited).frames.trans top.frames.symm
  have reports : c.diagnostics ++ reported (visitStmt ⟨true, false⟩ stmt) c =
      (after (visitStmt ⟨true, false⟩ stmt) c).diagnostics :=
    List.prefix_iff_eq_append.mp visited.diagnostics
  rw [Checker.advance, reports, ← environment_of_announced announced, ← visited.options,
    ← visited.registry, ← visited.fault, ← frames]

/-- From states that are alike a step reports the same. -/
theorem Steady.reported_eq {α : Type} {G : Scope → Scope → Prop} {step : Check α}
    (steady : Steady G step) (alike : Checker.Alike G c.diagnostics c'.diagnostics c c') :
    reported step c' = reported step c := by
  rcases (steady _ _ _ _ alike).2.reports with ⟨ds, added, added'⟩
  rw [reported, reported, added, added', List.drop_left, List.drop_left]

/-! Runs of functions. -/

/-- What a run reports if each of its functions is visited at its start. -/
def reportsAt (c : Checker) (run : List Stmt) : List Diagnostic :=
  run.flatMap fun stmt => reported (visitStmt ⟨true, false⟩ stmt) c

theorem reportsAt_eq {G : Scope → Scope → Prop} [Scope.Alike G]
    (alike : Checker.Alike G c.diagnostics c'.diagnostics c c') (run : List Stmt) :
    reportsAt c' run = reportsAt c run := by
  unfold reportsAt
  simp only [(visitStmt_steady ⟨true, false⟩ _).reported_eq alike]

/-- The effect of a run is the sum of the effects that its functions have at its start. -/
theorem after_run {run : List Stmt} (top : c.AtTop) (announced : ∀ stmt ∈ run, c.Announced stmt) :
    after (visitTopLevel run) c =
      c.advance (run.flatMap Stmt.freeNames) (reportsAt c run) := by
  induction run generalizing c with
  | nil => simp [visitTopLevel, Checker.advance, Environment.uses, reportsAt]
  | cons stmt rest ih =>
    let ds := reported (visitStmt ⟨true, false⟩ stmt) c
    have behind := ih (top.advance stmt.freeNames ds) fun other member =>
      (announced other (List.mem_cons_of_mem stmt member)).advance stmt.freeNames ds
    rw [reportsAt_eq (top.alike_advance stmt.freeNames ds)] at behind
    rw [visitTopLevel, after_bind, after_of_announced top (announced stmt List.mem_cons_self),
      behind, Checker.advance_advance]
    rfl

theorem after_visitTopLevel_append (front behind : List Stmt) (c : Checker) :
    after (visitTopLevel (front ++ behind)) c =
      after (visitTopLevel behind) (after (visitTopLevel front) c) := by
  induction front generalizing c with
  | nil => rfl
  | cons stmt rest ih => exact ih _

end Check

/-! States that differ in order. -/

namespace Checker

/-- The states are at top level, and they differ in nothing but the order of their global
entries and of their reports. -/
structure Reordered (c c' : Checker) : Prop extends
    Alike Scope.SameEntries c.diagnostics c'.diagnostics c c' where
  top : c.AtTop
  top' : c'.AtTop
  perm : c'.diagnostics.Perm c.diagnostics

namespace Reordered

variable {c c' : Checker}

/-- Functions may be declared ahead in any order. -/
theorem hoist {stmts stmts' : List Stmt} (top : c.AtTop) (moved : stmts'.Perm stmts)
    (distinct : (stmts.filterMap Stmt.hoistedName?).Nodup) :
    Reordered (after (hoist true stmts) c) (after (hoist true stmts') c) := by
  rcases after_hoist true stmts c with ⟨scope, whole, entries⟩
  rcases after_hoist true stmts' c with ⟨scope', whole', entries'⟩
  have same : Scope.SameEntries scope scope' := by
    intro name
    rw [entries, entries', Stmt.findSome?_reverse_perm moved distinct
      fun stmt => stmt.hoistedName?_of_hoistedAs?]
  have tops : ∀ current : Scope, AtTop { c with environment := ⟨current, c.environment.outer⟩ } :=
    fun _ => ⟨top.frames, top.outer⟩
  rw [whole, whole']
  exact {
    options := rfl
    registry := .refl _
    environment := ((tops scope).alike_iff (tops scope')).mpr same
    frames := rfl
    fault := rfl
    reports := nothing_added _ _
    top := tops scope
    top' := tops scope'
    perm := .refl _ }

/-- What is visited next sees no difference. -/
theorem visit (reordered : Reordered c c') (stmts : List Stmt) :
    Reordered (after (visitTopLevel stmts) c) (after (visitTopLevel stmts) c') := by
  have alike := (visitTopLevel_steady stmts _ _ _ _ reordered.toAlike).2
  rcases alike.reports with ⟨ds, added, added'⟩
  exact { alike with
    reports := nothing_added _ _
    top := reordered.top.extend (visitTopLevel_declares stmts c)
    top' := reordered.top'.extend (visitTopLevel_declares stmts c')
    perm := by
      rw [added, added']
      exact reordered.perm.append_right ds }

/-- Functions that are announced may be visited in any order. -/
theorem run (reordered : Reordered c c') {run run' : List Stmt} (moved : run'.Perm run)
    (announced : ∀ stmt ∈ run, c.Announced stmt) (announced' : ∀ stmt ∈ run', c'.Announced stmt) :
    Reordered (after (visitTopLevel run) c) (after (visitTopLevel run') c') := by
  have top := reordered.top.advance (run.flatMap Stmt.freeNames) (reportsAt c run)
  have top' := reordered.top'.advance (run'.flatMap Stmt.freeNames) (reportsAt c' run')
  have entries := (reordered.top.alike_iff reordered.top').mp reordered.environment
  rw [after_run reordered.top announced, after_run reordered.top' announced']
  exact { reordered with
    environment := by
      rw [top.alike_iff top', advance, advance, Environment.current_uses,
        Environment.current_uses]
      exact entries.markAll (moved.flatMap_right _)
    reports := nothing_added _ _
    top
    top'
    perm := by
      refine reordered.perm.append ?_
      rw [reportsAt_eq reordered.toAlike]
      exact moved.flatMap_right _ }

theorem reportUnused (reordered : Reordered c c') :
    Reordered (after reportUnused c) (after reportUnused c') := by
  have entries := (reordered.top.alike_iff reordered.top').mp reordered.environment
  rw [after_reportUnused, after_reportUnused]
  exact { reordered with
    reports := nothing_added _ _
    top := ⟨reordered.top.frames, reordered.top.outer⟩
    top' := ⟨reordered.top'.frames, reordered.top'.outer⟩
    perm := by
      refine reordered.perm.append ?_
      rw [reordered.options]
      exact entries.unusedReports _ }

end Reordered

end Checker

/-- Functions are no declarations of types. -/
theorem Registry.register_run (front : List Stmt) {run run' : List Stmt} (behind : List Stmt)
    (stated : ∀ stmt ∈ run, stmt.isStated = true) (stated' : ∀ stmt ∈ run', stmt.isStated = true)
    (options : Options) (r : Registry) :
    register options r (front ++ run' ++ behind) = register options r (front ++ run ++ behind) := by
  have none : ∀ {stmts : List Stmt}, (∀ stmt ∈ stmts, stmt.isStated = true) →
      (stmts.filter fun stmt => !stmt.isOther) = [] := by
    intro stmts stated
    refine List.filter_eq_nil_iff.mpr fun stmt member => ?_
    simp [Stmt.isOther_of_isStated (stated stmt member)]
  rw [← register_filter, ← register_filter options r (front ++ run ++ behind)]
  simp only [List.filter_append, none stated, none stated']

namespace Module

open Checker (Reordered)

theorem checked_append (front run behind : List Stmt) (options : Options) :
    (Module.mk (front ++ run ++ behind)).checked options =
      after reportUnused (after (visitTopLevel behind) (after (visitTopLevel run)
        (after (visitTopLevel front) (after (hoist true (front ++ run ++ behind))
          (after (register (front ++ run ++ behind)) (Checker.fresh options)))))) := by
  rw [checked_eq_behind, checkBehind, after_bind, after_bind, after_visitTopLevel_append,
    after_visitTopLevel_append]

/-- The order of functions that state their results is irrelevant.

If the names that a module declares are distinct, the functions of a run in which each states its
result may be exchanged.  The reports are then the same up to their order, and each name has the
same entry in the global scope. -/
theorem functions_in_any_order (front : List Stmt) {run run' : List Stmt} (behind : List Stmt)
    (options : Options) (moved : run'.Perm run) (stated : ∀ stmt ∈ run, stmt.isStated = true)
    (distinct : ((front ++ run ++ behind).flatMap Stmt.declaredNames).Nodup) :
    let m : Module := ⟨front ++ run ++ behind⟩
    let m' : Module := ⟨front ++ run' ++ behind⟩
    (m'.check options).Perm (m.check options) ∧
      ∀ name, (m'.checked options).environment.global.get? name =
        (m.checked options).environment.global.get? name := by
  intro m m'
  let start := after (register m.body) (Checker.fresh options)
  have stated' : ∀ stmt ∈ run', stmt.isStated = true :=
    fun stmt member => stated stmt (moved.subset member)
  have registered : after (register m'.body) (Checker.fresh options) = start := by
    simp only [start, register, m, m', Registry.register_run front behind stated stated']
  have whole : m'.body.Perm m.body := (moved.append_left front).append_right behind
  have hoisted : (m.body.filterMap Stmt.hoistedName?).Nodup :=
    (List.nodup_append.mp ((perm_declaredNames m.body).nodup_iff.mp distinct)).1
  have among : run ⊆ m.body :=
    fun _ member => List.mem_append_left _ (List.mem_append_right _ member)
  have announced : ∀ {stmts : List Stmt}, (stmts.filterMap Stmt.hoistedName?).Nodup →
      run ⊆ stmts → ∀ stmt ∈ run,
        (after (visitTopLevel front) (after (hoist true stmts) start)).Announced stmt := by
    intro stmts distinct' within stmt member
    rw [List.append_assoc] at distinct
    exact (announced_hoist distinct' (within member) (stated stmt member) start).extend
      (visitTopLevel_declares front _)
      (Stmt.declaredNames_apart distinct (List.mem_append_left behind member))
  have opened : Reordered _ _ := .hoist (c := start) ⟨rfl, rfl⟩ whole hoisted
  have announced' := announced ((whole.filterMap _).nodup_iff.mpr hoisted)
    (List.Subset.trans among whole.symm.subset)
  have behindRun := (opened.visit front).run moved (announced hoisted among)
    fun stmt member => announced' stmt (moved.subset member)
  have reordered : Reordered (m.checked options) (m'.checked options) := by
    rw [checked_append front run behind, checked_append front run' behind, registered]
    exact (behindRun.visit behind).reportUnused
  exact ⟨reordered.perm, reordered.environment.global_related⟩

/-- Two functions that call each other, each of them with a fault of its own, where the second
one is used ahead of both. -/
theorem functions_in_any_order_mutual :
    let place (n : Nat) : Span := ⟨n, n, "mutual"⟩
    let call (name : String) (n : Nat) : Expr :=
      .call (.identifier name (place n)) [.identifier "n" (place n)] (place n)
    let function (name other result : String) (n : Nat) : Stmt :=
      .function ⟨name, [⟨"n", some (.named "Int" (place n)), place n⟩],
        some (.named result (place n)), false, place n⟩
        ⟨[.returns (some (call other n)) (place n)], place n⟩
    let even := function "even" "odd" "Absent" 2
    let odd := function "odd" "even" "Missing" 3
    let use : Stmt := .var ⟨"start", false, none, call "odd" 1, false, place 1⟩
    let m : Module := ⟨[use] ++ [even, odd] ++ []⟩
    let m' : Module := ⟨[use] ++ [odd, even] ++ []⟩
    m'.check {} ≠ m.check {} ∧ (m'.check {}).Perm (m.check {}) ∧
      ∀ name, (m'.checked {}).environment.global.get? name =
        (m.checked {}).environment.global.get? name := by
  intro place call function even odd use m m'
  have stated : ∀ stmt ∈ [even, odd], stmt.isStated = true := by decide
  have distinct : (([use] ++ [even, odd] ++ []).flatMap Stmt.declaredNames).Nodup := by decide
  have holds := functions_in_any_order [use] [] {} (List.Perm.swap even odd []) stated distinct
  exact ⟨by decide +kernel, holds⟩

end Module

end ModuleCheck
