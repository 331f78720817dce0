import Mathlib.Data.List.Perm.Basic
import ModuleCheck.Proofs.Alike
import ModuleCheck.Proofs.Passage

namespace ModuleCheck

/-!
The order of type declarations.

Declarations of types may stand anywhere at top level: their names are entered before anything
else, and their members before the first visit.  So if they are moved among the other
statements, the registries say the same, the reports on declarations are made in another order,
and all that comes behind them stays as it is.
-/

open Check

/-! Registries. -/

namespace Registry

variable {stmts stmts' : List Stmt}

/-- The same names are entered in whichever order. -/
theorem sameNames_of_perm (perm : stmts'.Perm stmts) (r : Registry) :
    (stmts.foldl enterName r).SameNames (stmts'.foldl enterName r) where
  structs := fun name => by
    rw [Bool.eq_iff_iff, structs_enterNames, structs_enterNames,
      (perm.filterMap Stmt.structName?).mem_iff]
  enums := fun name => by
    rw [Bool.eq_iff_iff, enums_enterNames, enums_enterNames,
      (perm.filterMap Stmt.enumName?).mem_iff]

theorem agrees_of_perm (perm : stmts'.Perm stmts) (options : Options)
    (structs : (stmts.filterMap Stmt.structName?).Nodup)
    (enums : (stmts.filterMap Stmt.enumName?).Nodup) :
    (register options empty stmts).value.Agrees (register options empty stmts').value := by
  have same := sameNames_of_perm perm empty
  constructor
  · intro name
    rw [structs_register, structs_register, same.fieldsOf?_eq]
    exact Stmt.findSome?_reverse_perm perm structs fun stmt =>
      (stmt.isSome_fieldsOf? options _ name).mp
  · intro name
    rw [enums_register, enums_register, same.variantsOf?_eq]
    exact Stmt.findSome?_reverse_perm perm enums fun stmt =>
      (stmt.isSome_variantsOf? _ name).mp

/-- Each declaration is reported on alike, wherever it stands. -/
theorem diagnostics_perm (perm : stmts'.Perm stmts) (options : Options) :
    (register options empty stmts').diagnostics.Perm
      (register options empty stmts).diagnostics := by
  have same := sameNames_of_perm perm empty
  rw [diagnostics_register, diagnostics_register]
  simp only [same.diagnostics_enterMembers]
  exact perm.flatMap_right _

end Registry

/-! Visits pass over declarations of types. -/

namespace Check

theorem hoist_filter (topLevel : Bool) (stmts : List Stmt) :
    hoist topLevel (stmts.filter Stmt.isOther) = hoist topLevel stmts := by
  induction stmts with
  | nil => rfl
  | cons stmt rest ih =>
    cases stmt with
    | struct | enum => exact ih
    | function signature body =>
      rw [List.filter_cons_of_pos rfl, hoist, hoist, ih]
    | _ => exact ih

theorem visitTopLevel_filter (stmts : List Stmt) :
    visitTopLevel (stmts.filter Stmt.isOther) = visitTopLevel stmts := by
  induction stmts with
  | nil => rfl
  | cons stmt rest ih =>
    cases stmt with
    | struct | enum =>
      rw [visitTopLevel, visitStmt, pure_bind, ← ih]
      rfl
    | _ => rw [List.filter_cons_of_pos rfl, visitTopLevel, visitTopLevel, ih]

end Check

/-! States with the same scopes. -/

instance : Scope.Alike Eq where
  get? := by
    rintro g g' rfl name
    rfl
  insert := by
    rintro g g' rfl name binding _
    rfl
  modify := by
    rintro g g' rfl name f _
    rfl

theorem Environment.Alike.eq {env env' : Environment} (alike : env.Alike Eq env') :
    env' = env := by
  have scopes : ∀ {scopes scopes'}, Scope.Around Eq scopes scopes' → scopes' = scopes := by
    intro scopes scopes' around
    induction around with
    | global related => rw [related]
    | inner _ ih => rw [ih]
  rcases env with ⟨current, outer⟩
  rcases env' with ⟨current', outer'⟩
  cases scopes alike
  rfl

namespace Check

theorem checkBehind_filter (stmts : List Stmt) :
    checkBehind (stmts.filter Stmt.isOther) = checkBehind stmts := by
  rw [checkBehind, hoist_filter, visitTopLevel_filter]
  rfl

theorem checkBehind_steady (stmts : List Stmt) : Steady Eq (checkBehind stmts) := by
  refine (Steady.hoist true stmts).bind fun _ => (visitTopLevel_steady stmts).bind fun _ => ?_
  intro front front' c c' alike
  have unused : Scope.unusedReports c'.options c'.environment.current =
      Scope.unusedReports c.options c.environment.current := by
    rw [alike.options, alike.environment.eq]
  rw [after_reportUnused, after_reportUnused, unused]
  exact ⟨rfl, alike.report _⟩

end Check

namespace Module

/-- The order of type declarations is irrelevant.

If the types of a module have distinct names, they may be moved among its other statements.  The
registries and the global scope then stay the same, and of the reports only those on
declarations, which are about written types and about members, change their order. -/
theorem types_in_any_order {m m' : Module} (options : Options) (moved : m'.body.Perm m.body)
    (others : m'.body.filter Stmt.isOther = m.body.filter Stmt.isOther)
    (structs : (m.body.filterMap Stmt.structName?).Nodup)
    (enums : (m.body.filterMap Stmt.enumName?).Nodup) :
    (m.checked options).registry.Agrees (m'.checked options).registry ∧
      (m'.checked options).environment.global = (m.checked options).environment.global ∧
      (Registry.empty.register options m'.body).diagnostics.Perm
        (Registry.empty.register options m.body).diagnostics ∧
      (Registry.empty.register options m.body).Among [.ascription, .declaration] ∧
      ∃ rest,
        m.check options = (Registry.empty.register options m.body).diagnostics ++ rest ∧
        m'.check options = (Registry.empty.register options m'.body).diagnostics ++ rest := by
  have start : Checker.Alike Eq (Registry.empty.register options m.body).diagnostics
      (Registry.empty.register options m'.body).diagnostics
      (after (register m.body) (Checker.fresh options))
      (after (register m'.body) (Checker.fresh options)) := {
    options := rfl
    registry := Registry.agrees_of_perm moved options structs enums
    environment := .global rfl
    frames := rfl
    fault := rfl
    reports := Checker.nothing_added _ _ }
  have finish := (checkBehind_steady m.body _ _ _ _ start).2
  have same : m'.checked options = after (checkBehind m.body)
      (after (register m'.body) (Checker.fresh options)) := by
    rw [checked_eq_behind, ← checkBehind_filter, others, checkBehind_filter]
  rw [← same, ← checked_eq_behind] at finish
  exact ⟨finish.registry, by rw [finish.environment.eq], Registry.diagnostics_perm moved options,
    Registry.among_register options .empty m.body, finish.reports⟩

/-- A struct and an enum that mention each other, each with a member declared twice.  The enum
is moved to the front. -/
theorem types_in_any_order_cycle :
    let s := Span.null
    let box : Stmt := .struct ⟨"Box", [⟨"item", some (.named "Item" s), s⟩,
      ⟨"item", some (.named "Missing" s), s⟩], s⟩
    let item : Stmt := .enum ⟨"Item", [⟨"Full", some "box", some (.named "Box" s), s⟩,
      ⟨"Full", none, none, s⟩], s⟩
    let use : Stmt := .var ⟨"x", false, some (.named "Box" s),
      .construct "Box" [⟨"item", .variant "Item" "Full" none none s, s⟩] s, false, s⟩
    let m : Module := ⟨[box, use, item]⟩
    let m' : Module := ⟨[item, box, use]⟩
    (m.checked {}).registry.Agrees (m'.checked {}).registry ∧
      (m'.checked {}).environment.global = (m.checked {}).environment.global ∧
      (Registry.empty.register {} m'.body).diagnostics.Perm
        (Registry.empty.register {} m.body).diagnostics ∧
      (Registry.empty.register {} m.body).Among [.ascription, .declaration] ∧
      ∃ rest,
        m.check {} = (Registry.empty.register {} m.body).diagnostics ++ rest ∧
        m'.check {} = (Registry.empty.register {} m'.body).diagnostics ++ rest := by
  intro s box item use m m'
  have moved : ([item] ++ [box, use]).Perm ([box, use] ++ [item]) := List.perm_append_comm
  have others : m'.body.filter Stmt.isOther = m.body.filter Stmt.isOther := rfl
  have structs : (m.body.filterMap Stmt.structName?).Nodup := by decide
  have enums : (m.body.filterMap Stmt.enumName?).Nodup := by decide
  exact types_in_any_order {} moved others structs enums

end Module

end ModuleCheck
