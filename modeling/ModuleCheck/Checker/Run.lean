import ModuleCheck.Checker.Visit

namespace ModuleCheck

/-!
Checking a whole module.
-/

namespace Check

/-- Visits statements at top level, where none of them is unreachable. -/
def visitTopLevel : List Stmt → Check Unit
  | [] => pure ()
  | stmt :: rest => do
    let _ ← visitStmt { topLevel := true, valued := false } stmt
    visitTopLevel rest

/-- Checks a module in the innermost scope, which stays open. -/
def checkModule (m : Module) : Check Unit := do
  register m.body
  hoist true m.body
  visitTopLevel m.body
  let scope := (← get).environment.current
  reportUnusedLocals scope
  warnUnusedTopLevel scope

end Check

namespace Module

/-- The state of a checker after it has checked a module and nothing else. -/
def checked (m : Module) (options : Options) : Checker :=
  ((Check.checkModule m).run (Checker.fresh options)).2

/-- The diagnostics of a module, in the order of the visit. -/
def check (m : Module) (options : Options) : List Diagnostic := (m.checked options).diagnostics

end Module

end ModuleCheck
