import ModuleCheck.Scope
import ModuleCheck.Table.Lemmas

namespace ModuleCheck

/-!
Environments: the open scopes.  There is always one, the global scope, and it is never closed.
-/

/-- The open scopes: the innermost one and the others from the inside out. -/
structure Environment where
  current : Scope
  outer : List Scope

namespace Environment

def empty : Environment := ⟨Table.empty, []⟩

/-- The open scopes from the inside out. -/
def scopes (env : Environment) : List Scope := env.current :: env.outer

def depth (env : Environment) : Nat := env.scopes.length

def global (env : Environment) : Scope := env.outer.getLastD env.current

def push (env : Environment) : Environment := ⟨Table.empty, env.scopes⟩

/-- The innermost scope and the environment without it, unless it is the global one. -/
def pop? (env : Environment) : Option (Scope × Environment) :=
  match env.outer with
  | [] => none
  | scope :: rest => some (env.current, ⟨scope, rest⟩)

/-- Declares a name in the innermost scope. -/
def declare (env : Environment) (name : String) (binding : Binding) : Environment :=
  { env with current := env.current.insert name binding }

/-- Changes the binding of a name in the innermost scope, if it has one there. -/
def modifyCurrent (env : Environment) (name : String) (f : Binding → Binding) : Environment :=
  { env with current := env.current.modify name f }

/-- The binding that a name refers to: that of the innermost scope with one. -/
def lookup? (env : Environment) (name : String) : Option Binding :=
  env.scopes.findSome? fun scope => scope.get? name

/-- Changes the binding of a name in the first scope that has one. -/
def modifyFirst (name : String) (f : Binding → Binding) : List Scope → List Scope
  | [] => []
  | scope :: rest =>
    if scope.contains name then scope.modify name f :: rest
    else scope :: modifyFirst name f rest

/-- Changes the binding that a name refers to, if there is one. -/
def modify (env : Environment) (name : String) (f : Binding → Binding) : Environment :=
  if env.current.contains name then env.modifyCurrent name f
  else { env with outer := modifyFirst name f env.outer }

@[simp]
theorem depth_push (env : Environment) : env.push.depth = env.depth + 1 := rfl

/-- Closing the scope that was opened last gives the environment back. -/
@[simp]
theorem pop?_push (env : Environment) : env.push.pop? = some (Table.empty, env) := rfl

@[simp]
theorem lookup?_push (env : Environment) (name : String) :
    env.push.lookup? name = env.lookup? name := by
  simp [lookup?, push, scopes]

theorem lookup?_declare (env : Environment) (name other : String) (binding : Binding) :
    (env.declare name binding).lookup? other =
      if other = name then some binding else env.lookup? other := by
  by_cases same : other = name
  · simp [lookup?, declare, scopes, Table.get?_insert, same]
  · simp [lookup?, declare, scopes, List.findSome?_cons, Table.get?_insert, same]

theorem findSome?_modifyFirst (name other : String) (f : Binding → Binding)
    (scopes : List Scope) :
    (modifyFirst name f scopes).findSome? (fun scope => scope.get? other) =
      if other = name then (scopes.findSome? fun scope => scope.get? other).map f
      else scopes.findSome? fun scope => scope.get? other := by
  induction scopes with
  | nil => simp [modifyFirst]
  | cons scope rest ih =>
    have stored := scope.isSome_get? name
    unfold modifyFirst
    cases held : scope.contains name with
    | true =>
      rw [held] at stored
      rcases Option.isSome_iff_exists.mp stored with ⟨binding, found⟩
      by_cases same : other = name
      · subst same
        simp [Table.get?_modify, found]
      · simp [List.findSome?_cons, Table.get?_modify, same]
    | false =>
      rw [held] at stored
      have missing : scope.get? name = none := by simpa using stored
      by_cases same : other = name
      · subst same
        simpa [missing] using ih
      · simp only [Bool.false_eq_true, if_false, List.findSome?_cons, ih, same]

theorem scopes_modify (env : Environment) (name : String) (f : Binding → Binding) :
    (env.modify name f).scopes = modifyFirst name f env.scopes := by
  unfold modify
  split <;> rename_i held <;> simp [scopes, modifyFirst, modifyCurrent, held]

/-- A change reaches the binding that the name refers to and no other one. -/
theorem lookup?_modify (env : Environment) (name other : String) (f : Binding → Binding) :
    (env.modify name f).lookup? other =
      if other = name then (env.lookup? other).map f else env.lookup? other := by
  unfold lookup?
  rw [scopes_modify]
  exact findSome?_modifyFirst name other f env.scopes

end Environment

end ModuleCheck
