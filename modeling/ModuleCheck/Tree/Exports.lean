import ModuleCheck.Tree.Basic

namespace ModuleCheck

/-!
The names that a module offers to the modules that import it.
-/

namespace Stmt

/-- The name that a top-level statement exports, if it does. -/
def exportedName? : Stmt → Option String
  | var decl => if decl.exported then some decl.name else none
  | function signature _ => if signature.exported then some signature.name else none
  | _ => none

end Stmt

namespace Exports

/-- Puts a name into an ascending list, unless it is there already. -/
def insert (name : String) : List String → List String
  | [] => [name]
  | other :: rest =>
    if name < other then name :: other :: rest
    else if name = other then other :: rest
    else other :: insert name rest

/-- The exported variables and functions of a module, each once and in ascending order of
code points. -/
def names (m : Module) : List String :=
  (m.body.filterMap Stmt.exportedName?).foldr insert []

end Exports

end ModuleCheck
