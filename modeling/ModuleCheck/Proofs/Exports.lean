import ModuleCheck.Proofs.Warnings
import ModuleCheck.Tree.Exports

namespace ModuleCheck

/-!
Exports and the global scope.

The names that a module offers are read off its statements.  The bindings of its global scope
carry flags for export and use, which functions get ahead of the visit and once more at it, and
which a later declaration of the same name overwrites.  Each visit of a statement leaves its
names with the flags that the statement asks for, and all other names with at least those that
they had.  So the exported entries of the final scope are used and come from statements, and
without repeated names none of them is lost.
-/

open Check

namespace Exports

theorem mem_insert {name other : String} {names : List String} :
    other ∈ insert name names ↔ other = name ∨ other ∈ names := by
  fun_induction insert name names with
  | case1 => simp
  | case2 => simp
  | case3 => simp
  | case4 first rest _ _ ih => simp [ih, or_left_comm]

/-- The exported names are those that a statement exports. -/
theorem mem_names {m : Module} {name : String} :
    name ∈ names m ↔ ∃ stmt ∈ m.body, stmt.exportedName? = some name := by
  have listed : ∀ exported : List String, name ∈ exported.foldr insert [] ↔ name ∈ exported := by
    intro exported
    induction exported with
    | nil => rfl
    | cons first rest ih => rw [List.foldr_cons, mem_insert, ih, List.mem_cons]
  rw [names, listed, List.mem_filterMap]

theorem pairwise_insert {name : String} {names : List String}
    (ascending : names.Pairwise (· < ·)) : (insert name names).Pairwise (· < ·) := by
  fun_induction insert name names with
  | case1 => simp
  | case2 other rest before =>
    refine List.pairwise_cons.mpr ⟨List.forall_mem_cons.mpr ⟨before, ?_⟩, ascending⟩
    intro later member
    exact String.lt_trans before ((List.pairwise_cons.mp ascending).1 later member)
  | case3 => exact ascending
  | case4 other rest notBefore differs ih =>
    rcases List.pairwise_cons.mp ascending with ⟨first, others⟩
    refine List.pairwise_cons.mpr ⟨?_, ih others⟩
    intro later member
    rcases mem_insert.mp member with rfl | member
    · by_contra after
      exact differs (String.le_antisymm (String.not_lt.mp after) (String.not_lt.mp notBefore))
    · exact first later member

theorem nodup_names (m : Module) : (names m).Nodup := by
  have ascending : ∀ exported : List String, (exported.foldr insert []).Pairwise (· < ·) := by
    intro exported
    induction exported with
    | nil => exact .nil
    | cons first rest ih => exact pairwise_insert ih
  refine (ascending _).imp ?_
  rintro name _ before rfl
  exact String.lt_irrefl name before

end Exports

namespace Stmt

theorem exportedName?_var (decl : VarDecl) :
    decide ((var decl).exportedName? = some decl.name) = decl.exported := by
  cases given : decl.exported <;> simp [exportedName?, given]

theorem exportedName?_function (signature : Signature) (body : Block) :
    decide ((function signature body).exportedName? = some signature.name) =
      signature.exported := by
  cases given : signature.exported <;> simp [exportedName?, given]

end Stmt

/-! Bindings that are exported or not. -/

namespace Binding

/-- The binding is exported or not, as told, and it is used if it is exported. -/
structure Exports (exported : Bool) (b : Binding) : Prop where
  exported_eq : b.exported = exported
  used : b.exported = true → b.used = true

namespace Exports

variable {exported : Bool} {b later : Binding}

theorem marks (exports : b.Exports exported) (marks : b.Marks later) :
    later.Exports exported := by
  rcases marks with rfl | rfl
  · exact exports
  · exact ⟨exports.exported_eq, fun _ => rfl⟩

theorem withResult (exports : b.Exports exported) (result : Ty) :
    (Check.withResult result b).Exports exported := by
  unfold Check.withResult
  split
  · exact ⟨exports.exported_eq, exports.used⟩
  · exact exports

end Exports

end Binding

theorem Signature.exports_binding (signature : Signature) (registry : Registry)
    (used topLevel : Bool) :
    (signature.binding registry used topLevel).Exports signature.exported where
  exported_eq := rfl
  used := by
    intro exported
    exact Bool.or_eq_true_iff.mpr (Or.inl exported)

/-! Scopes that hold an exported name, and scopes that hold no other one. -/

namespace Scope

variable {scope later : Scope} {name : String} {exported : Bool} {declared : List String}

/-- The name is bound in the scope, and exported or not, as told. -/
def Offers (scope : Scope) (name : String) (exported : Bool) : Prop :=
  ∃ b, scope.get? name = some b ∧ b.Exports exported

namespace Offers

theorem insert (scope : Scope) (name : String) {b : Binding} (exports : b.Exports exported) :
    Offers (scope.insert name b) name exported :=
  ⟨b, by rw [Table.get?_insert, if_pos rfl], exports⟩

theorem modify (offers : scope.Offers name exported) {f : Binding → Binding}
    (keeps : ∀ b : Binding, b.Exports exported → (f b).Exports exported) :
    Offers (scope.modify name f) name exported := by
  rcases offers with ⟨b, bound, exports⟩
  exact ⟨f b, by rw [Table.get?_modify, if_pos rfl, bound]; rfl, keeps b exports⟩

theorem grows (offers : scope.Offers name exported) (grows : scope.Grows declared later)
    (undeclared : name ∉ declared) : later.Offers name exported := by
  rcases offers with ⟨b, bound, exports⟩
  rcases grows.kept name b undeclared bound with ⟨b', bound', marks⟩
  exact ⟨b', bound', exports.marks marks⟩

end Offers

/-- Every exported entry of the scope is used and comes from one of the statements. -/
def ExportsFrom (stmts : List Stmt) (scope : Scope) : Prop :=
  ∀ name b, scope.get? name = some b → b.exported = true →
    b.used = true ∧ ∃ stmt ∈ stmts, stmt.exportedName? = some name

/-- A scope that grows by the names of a statement gets no other exports than those of the
statement. -/
theorem ExportsFrom.grows {stmts : List Stmt} {stmt : Stmt} (before : scope.ExportsFrom stmts)
    (member : stmt ∈ stmts) (grows : scope.Grows declared later)
    (offers : ∀ name ∈ declared, later.Offers name (stmt.exportedName? = some name)) :
    later.ExportsFrom stmts := by
  intro name b bound exported
  by_cases fresh : name ∈ declared
  · rcases offers name fresh with ⟨b', bound', exports⟩
    obtain rfl : b = b' := Option.some.inj (bound.symm.trans bound')
    have exports_eq := exports.exported_eq
    rw [exported] at exports_eq
    exact ⟨exports.used exported, stmt, member, of_decide_eq_true exports_eq.symm⟩
  · cases held : scope.get? name with
    | none =>
      rw [grows.missing fresh held] at bound
      cases bound
    | some old =>
      rcases grows.kept name old fresh held with ⟨b', bound', marks⟩
      obtain rfl : b = b' := Option.some.inj (bound.symm.trans bound')
      rcases marks with rfl | rfl
      · exact before name b held exported
      · exact ⟨rfl, (before name old held exported).2⟩

end Scope

/-! Visits. -/

namespace Check

theorem offers_declareImports {names : List String} {name : String} (member : name ∈ names)
    (topLevel : Bool) (span : Span) (c : Checker) :
    (after (declareImports topLevel span names) c).environment.current.Offers name false := by
  induction names generalizing c with
  | nil => cases member
  | cons first rest ih =>
    by_cases later : name ∈ rest
    · exact ih later _
    · obtain rfl : name = first := (List.mem_cons.mp member).resolve_right later
      refine Scope.Offers.grows ?_
        (declares_declareImports topLevel span rest _).environment.current later
      exact .insert _ _ ⟨rfl, fun exported => by cases exported⟩

theorem offers_tagLiteral {c : Checker} {name : String} {exported : Bool}
    (offers : c.environment.current.Offers name exported) (value : Expr) :
    (after (tagLiteral name value) c).environment.current.Offers name exported := by
  cases value with
  | variant enum _ _ _ _ => exact offers.modify fun b exports => ⟨exports.exported_eq, exports.used⟩
  | _ => exact offers

/-- Behind the visit of a statement its names are bound, and exported exactly if the statement
exports them. -/
theorem offers_visitStmt {stmt : Stmt} {name : String} (declared : name ∈ stmt.declaredNames)
    (place : Place) (c : Checker) :
    (after (visitStmt place stmt) c).environment.current.Offers name
      (stmt.exportedName? = some name) := by
  cases stmt with
  | imports i =>
    rw [visitStmt]
    exact offers_declareImports declared place.topLevel i.span c
  | var decl =>
    rcases decl with ⟨name, mutable, ascription, value, exported, span⟩
    obtain rfl := List.mem_singleton.mp declared
    rw [visitStmt, visitVar_eq, Stmt.exportedName?_var]
    refine offers_tagLiteral ?_ value
    exact .insert _ _ ⟨rfl, fun exported => exported⟩
  | function signature body =>
    obtain rfl := List.mem_singleton.mp declared
    rw [visitStmt, Stmt.exportedName?_function]
    rcases marks_afterBody (visitBlock_keeps _ body _) _ _ with ⟨b, bound, marks⟩
    have exports := (signature.exports_binding _ _ _).marks marks
    exact Scope.Offers.modify ⟨b, bound, exports⟩ fun _ exports => exports.withResult _
  | _ => cases declared

/-- Behind the visit of a body that declares no name twice, each declared name is bound as its
statement asks. -/
theorem offers_visitTopLevel {body : List Stmt} (once : (body.flatMap Stmt.declaredNames).Nodup)
    {stmt : Stmt} (member : stmt ∈ body) {name : String} (declared : name ∈ stmt.declaredNames)
    (c : Checker) :
    (after (visitTopLevel body) c).environment.current.Offers name
      (stmt.exportedName? = some name) := by
  induction body generalizing c with
  | nil => cases member
  | cons first rest ih =>
    rw [List.flatMap_cons, List.nodup_append] at once
    rcases once with ⟨_, restOnce, apart⟩
    rcases List.mem_cons.mp member with rfl | member
    · refine Scope.Offers.grows (offers_visitStmt declared ⟨true, false⟩ c)
        (visitTopLevel_declares rest _).environment.current ?_
      exact fun again => apart name declared name again rfl
    · exact ih restOnce member _

theorem exportsFrom_hoist {stmts body : List Stmt} (subset : body ⊆ stmts) {c : Checker}
    (before : c.environment.current.ExportsFrom stmts) :
    (after (hoist true body) c).environment.current.ExportsFrom stmts := by
  induction body generalizing c with
  | nil => exact before
  | cons stmt rest ih =>
    rcases List.cons_subset.mp subset with ⟨member, others⟩
    cases stmt with
    | function signature body =>
      rw [after_hoist_function]
      refine ih others (before.grows member (.insert _ signature.name _) ?_)
      refine List.forall_mem_singleton.mpr ?_
      rw [Stmt.exportedName?_function]
      exact .insert _ _ (signature.exports_binding _ _ _)
    | _ => exact ih others before

theorem exportsFrom_visitTopLevel {stmts body : List Stmt} (subset : body ⊆ stmts) {c : Checker}
    (before : c.environment.current.ExportsFrom stmts) :
    (after (visitTopLevel body) c).environment.current.ExportsFrom stmts := by
  induction body generalizing c with
  | nil => exact before
  | cons stmt rest ih =>
    rcases List.cons_subset.mp subset with ⟨member, others⟩
    have grown := (visitStmt_declares ⟨true, false⟩ stmt c).environment.current
    exact ih others (before.grows member grown fun _ declared => offers_visitStmt declared _ c)

end Check

/-! Whole modules. -/

namespace Scope

/-- The names of the exported entries of a scope. -/
def exportedNames (scope : Scope) : List String :=
  (scope.toList.filter fun entry => entry.2.exported).map Prod.fst

theorem mem_exportedNames {scope : Scope} {name : String} :
    name ∈ scope.exportedNames ↔ ∃ b, scope.get? name = some b ∧ b.exported = true := by
  simp [exportedNames, Table.get?_eq_some_iff]

theorem nodup_exportedNames (scope : Scope) : scope.exportedNames.Nodup :=
  scope.keys_nodup.sublist (List.filter_sublist.map Prod.fst)

end Scope

/-- A statement exports none but its own names. -/
theorem Stmt.mem_declaredNames_of_exportedName? {stmt : Stmt} {name : String}
    (exported : stmt.exportedName? = some name) : name ∈ stmt.declaredNames := by
  cases stmt with
  | var decl =>
    rcases Option.ite_none_right_eq_some.mp exported with ⟨_, same⟩
    exact List.mem_singleton.mpr (Option.some.inj same).symm
  | function signature body =>
    rcases Option.ite_none_right_eq_some.mp exported with ⟨_, same⟩
    exact List.mem_singleton.mpr (Option.some.inj same).symm
  | _ => cases exported

namespace Module

variable {m : Module} {options : Options} {name : String}

theorem exportsFrom_global (m : Module) (options : Options) :
    (m.checked options).environment.global.ExportsFrom m.body := by
  rw [global_checked]
  have whole := List.Subset.refl m.body
  refine exportsFrom_visitTopLevel whole (exportsFrom_hoist whole ?_)
  intro name b bound
  cases bound

/-- Every exported entry of the global scope has a statement that exports its name. -/
theorem mem_names_of_exported
    (exported : name ∈ (m.checked options).environment.global.exportedNames) :
    name ∈ Exports.names m := by
  rcases Scope.mem_exportedNames.mp exported with ⟨b, bound, flagged⟩
  exact Exports.mem_names.mpr (m.exportsFrom_global options name b bound flagged).2

/-- In a module that declares no name twice at top level, every exported name is exported by the
global scope. -/
theorem exported_of_mem_names (once : (m.body.flatMap Stmt.declaredNames).Nodup)
    (options : Options) (member : name ∈ Exports.names m) :
    name ∈ (m.checked options).environment.global.exportedNames := by
  rcases Exports.mem_names.mp member with ⟨stmt, inside, exported⟩
  have declared := Stmt.mem_declaredNames_of_exportedName? exported
  rw [global_checked]
  rcases offers_visitTopLevel once inside declared _ with ⟨b, bound, exports⟩
  refine Scope.mem_exportedNames.mpr ⟨b, bound, ?_⟩
  rw [exports.exported_eq, exported]
  exact decide_eq_true rfl

/-- An exported entry of the global scope is not warned of, since it is used. -/
theorem ne_unusedTopLevel_of_exported
    (exported : name ∈ (m.checked options).environment.global.exportedNames) :
    ∀ d ∈ m.check options, d.issue ≠ .unusedTopLevel name := by
  rcases Scope.mem_exportedNames.mp exported with ⟨b, bound, flagged⟩
  rw [check_eq]
  refine List.forall_mem_append.mpr
    ⟨fun d member => m.ne_unusedTopLevel_of_visit options d member name,
      List.forall_mem_map.mpr fun entry listed same => ?_⟩
  obtain rfl : entry.1 = name := Issue.unusedTopLevel.inj same
  have unused : entry.2.used = false := by
    unfold unusedEntries at listed
    split at listed
    · have filtered := (List.mem_filter.mp listed).2
      simp only [Bool.and_eq_true, Bool.not_eq_true'] at filtered
      exact filtered.1
    · cases listed
  have there := (Table.get?_eq_some_iff _ _ _).mpr ((m.unusedEntries_sublist options).subset listed)
  obtain rfl : b = entry.2 := Option.some.inj (bound.symm.trans there)
  rw [(m.exportsFrom_global options entry.1 entry.2 bound flagged).1] at unused
  cases unused

/-- The exports of a module agree with its global scope after a check.  Every exported entry of
the scope is used, it is never warned of, and its name is exported by a statement of the module.
If the variables, functions and imports at top level have distinct names, then the exported
entries are exactly the names that the module offers. -/
theorem exports_agree (m : Module) (options : Options) :
    let global := (m.checked options).environment.global
    (∀ entry ∈ global.toList, entry.2.exported = true → entry.2.used = true) ∧
      (∀ name ∈ global.exportedNames,
        name ∈ Exports.names m ∧ ∀ d ∈ m.check options, d.issue ≠ .unusedTopLevel name) ∧
      ((m.body.flatMap Stmt.declaredNames).Nodup →
        global.exportedNames.Perm (Exports.names m)) := by
  intro global
  refine ⟨fun entry member exported => ?_, fun name exported => ?_, fun once => ?_⟩
  · have bound := (Table.get?_eq_some_iff global entry.1 entry.2).mpr member
    exact (m.exportsFrom_global options entry.1 entry.2 bound exported).1
  · exact ⟨mem_names_of_exported exported, ne_unusedTopLevel_of_exported exported⟩
  · refine (List.perm_ext_iff_of_nodup global.nodup_exportedNames (Exports.nodup_names m)).mpr ?_
    exact fun name => ⟨mem_names_of_exported, exported_of_mem_names once options⟩

/-- An exported function that stands behind an exported variable of a greater name.  A variable
that is not exported and an imported name stand next to them. -/
theorem exports_agree_reordered :
    let place (n : Nat) : Span := ⟨n, n, "exports"⟩
    let var (name : String) (exported : Bool) (n : Nat) : Stmt :=
      .var ⟨name, false, none, .int 1 (place n), exported, place n⟩
    let function : Stmt := .function ⟨"area", [], none, true, place 3⟩ ⟨[], place 3⟩
    let m : Module :=
      ⟨[.imports ⟨"origin", ["unit"], place 0⟩, var "scale" true 1, var "rest" false 2, function]⟩
    (m.body.flatMap Stmt.declaredNames).Nodup ∧
      Exports.names m = ["area", "scale"] ∧
      (m.checked {}).environment.global.exportedNames.Perm ["area", "scale"] ∧
      m.check {} = [.warn (.unusedTopLevel "unit") (some (place 0)),
        .warn (.unusedTopLevel "rest") (some (place 2))] := by
  intro place var function m
  have once : (m.body.flatMap Stmt.declaredNames).Nodup := by decide
  have names : Exports.names m = ["area", "scale"] := by decide +kernel
  have agree := (exports_agree m {}).2.2 once
  rw [names] at agree
  exact ⟨once, names, agree, by decide +kernel⟩

/-- A variable that is declared again without its export is offered still, though the global scope
has lost it. -/
example :
    let place (n : Nat) : Span := ⟨n, n, "twice"⟩
    let var (exported : Bool) (n : Nat) : Stmt :=
      .var ⟨"twice", false, none, .int 1 (place n), exported, place n⟩
    let m : Module := ⟨[var true 1, var false 2]⟩
    Exports.names m = ["twice"] ∧ (m.checked {}).environment.global.exportedNames = [] := by
  decide +kernel

end Module

end ModuleCheck
