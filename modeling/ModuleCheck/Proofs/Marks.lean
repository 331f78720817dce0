import ModuleCheck.Environment

namespace ModuleCheck

/-!
What a sequence of uses does to the open scopes.

Each use marks the binding that its name refers to.  A scope takes the uses of the names that
it holds and leaves the others to the scopes around it.
-/

namespace Scope

/-- The scope after uses of the given names in it. -/
def markAll (names : List String) (scope : Scope) : Scope :=
  names.foldl (fun scope name => scope.modify name Binding.markUsed) scope

theorem toList_markAll (names : List String) (scope : Scope) :
    (markAll names scope).toList =
      scope.toList.map fun entry =>
        if entry.1 ∈ names then (entry.1, entry.2.markUsed) else entry := by
  induction names generalizing scope with
  | nil => simp [markAll]
  | cons name rest ih =>
    change (markAll rest (scope.modify name Binding.markUsed)).toList = _
    rw [ih, Table.toList_modify, List.map_map]
    refine List.map_congr_left fun entry _ => ?_
    by_cases first : entry.1 = name <;> by_cases later : entry.1 ∈ rest <;>
      simp_all [Binding.markUsed]

theorem get?_markAll (names : List String) (scope : Scope) (name : String) :
    (markAll names scope).get? name =
      (scope.get? name).map fun binding =>
        if name ∈ names then binding.markUsed else binding := by
  induction names generalizing scope with
  | nil => simp [markAll]
  | cons used rest ih =>
    change (markAll rest (scope.modify used Binding.markUsed)).get? name = _
    rw [ih, Table.get?_modify]
    cases scope.get? name with
    | none => rw [Option.map_none, ite_self, Option.map_none, Option.map_none]
    | some binding =>
      by_cases first : name = used <;> by_cases later : name ∈ rest <;>
        simp_all [Binding.markUsed]

@[simp]
theorem contains_markAll (names : List String) (scope : Scope) (name : String) :
    (markAll names scope).contains name = scope.contains name := by
  induction names generalizing scope with
  | nil => rfl
  | cons used rest ih => exact (ih _).trans (Table.contains_modify _ _ _ _)

/-- Using a name that the scope does not hold leaves it as it is. -/
theorem modify_of_not_contains {scope : Scope} {name : String}
    (absent : scope.contains name = false) (f : Binding → Binding) :
    scope.modify name f = scope := by
  refine Table.modify_eq_self fun binding stored => ?_
  rw [← Table.isSome_get?, stored] at absent
  cases absent

end Scope

namespace Environment

/-- The scopes after uses of the given names, where the first scope is the innermost one. -/
def useAll (names : List String) (scopes : List Scope) : List Scope :=
  names.foldl (fun scopes name => modifyFirst name Binding.markUsed scopes) scopes

/-- The environment after uses of the given names. -/
def uses (env : Environment) (names : List String) : Environment :=
  names.foldl (fun env name => env.modify name Binding.markUsed) env

/-- Whether a name refers to a binding. -/
def binds (env : Environment) (name : String) : Bool := (env.lookup? name).isSome

theorem uses_append (env : Environment) (first second : List String) :
    env.uses (first ++ second) = (env.uses first).uses second :=
  List.foldl_append

theorem useAll_append (first second : List String) (scopes : List Scope) :
    useAll (first ++ second) scopes = useAll second (useAll first scopes) :=
  List.foldl_append

@[simp]
theorem useAll_nil (names : List String) : useAll names [] = [] := by
  induction names with
  | nil => rfl
  | cons name rest ih => exact ih

/-- A scope takes the uses of its own names and leaves the others to those around it. -/
theorem useAll_cons (names : List String) (scope : Scope) (rest : List Scope) :
    useAll names (scope :: rest) =
      Scope.markAll names scope ::
        useAll (names.filter fun name => !scope.contains name) rest := by
  induction names generalizing scope rest with
  | nil => rfl
  | cons name others ih =>
    change useAll others (modifyFirst name Binding.markUsed (scope :: rest)) = _
    cases held : scope.contains name with
    | true =>
      rw [modifyFirst, if_pos held, ih]
      simp [Scope.markAll, held]
    | false =>
      rw [modifyFirst, if_neg (by simp [held]), ih]
      simp [Scope.markAll, useAll, held, Scope.modify_of_not_contains held]

theorem scopes_uses (env : Environment) (names : List String) :
    (env.uses names).scopes = useAll names env.scopes := by
  induction names generalizing env with
  | nil => rfl
  | cons name rest ih =>
    change ((env.modify name Binding.markUsed).uses rest).scopes = _
    rw [ih, scopes_modify]
    rfl

@[simp]
theorem current_uses (env : Environment) (names : List String) :
    (env.uses names).current = Scope.markAll names env.current := by
  have whole := scopes_uses env names
  rw [scopes, scopes, useAll_cons] at whole
  exact (List.cons.inj whole).1

@[simp]
theorem outer_uses (env : Environment) (names : List String) :
    (env.uses names).outer =
      useAll (names.filter fun name => !env.current.contains name) env.outer := by
  have whole := scopes_uses env names
  rw [scopes, scopes, useAll_cons] at whole
  exact (List.cons.inj whole).2

theorem binds_eq (env : Environment) (name : String) :
    env.binds name = (env.current.contains name || env.outer.any (·.contains name)) := by
  have stored : ∀ scopes : List Scope,
      (scopes.findSome? fun scope => scope.get? name).isSome = scopes.any (·.contains name) := by
    intro scopes
    induction scopes with
    | nil => rfl
    | cons scope rest ih =>
      rw [List.any_cons, ← ih, ← Table.isSome_get?, List.findSome?_cons]
      cases scope.get? name <;> rfl
  exact stored env.scopes

/-- Using a name without a binding changes nothing. -/
theorem modify_of_not_binds {env : Environment} {name : String}
    (unbound : env.binds name = false) (f : Binding → Binding) : env.modify name f = env := by
  have absent : ∀ scopes : List Scope, scopes.any (·.contains name) = false →
      modifyFirst name f scopes = scopes := by
    intro scopes
    induction scopes with
    | nil => exact fun _ => rfl
    | cons scope rest ih =>
      intro nowhere
      rw [List.any_cons, Bool.or_eq_false_iff] at nowhere
      rw [modifyFirst, if_neg (by simp [nowhere.1]), ih nowhere.2]
  rw [binds_eq, Bool.or_eq_false_iff] at unbound
  rw [modify, if_neg (by simp [unbound.1]), absent _ unbound.2]

/-- A use binds no name and frees none. -/
theorem any_useAll (names : List String) (scopes : List Scope) (name : String) :
    (useAll names scopes).any (·.contains name) = scopes.any (·.contains name) := by
  induction scopes generalizing names with
  | nil => rw [useAll_nil]
  | cons scope rest ih => rw [useAll_cons, List.any_cons, ih, Scope.contains_markAll]; rfl

@[simp]
theorem binds_uses (env : Environment) (names : List String) (name : String) :
    (env.uses names).binds name = env.binds name := by
  simp [binds_eq, any_useAll]

end Environment

end ModuleCheck
