import ModuleCheck.Environment
import ModuleCheck.Registry

namespace ModuleCheck

/-!
The state of a check and the steps that change it.
-/

/-- The function whose body is being checked. -/
structure Frame where
  /-- The declared result, `none` when it is to be inferred. -/
  expected : Option Ty
  /-- The types of the values returned so far, in order. -/
  returns : List Ty

/-- A breach of the checker's own discipline.  Checking a module never commits one. -/
inductive Fault where
  | globalScopePopped
  | returnsOutOfRange
deriving DecidableEq

namespace Fault

def message : Fault → String
  | globalScopePopped => "attempted to pop the global scope"
  | returnsOutOfRange => "attempted to read past the recorded returns"

end Fault

structure Checker where
  options : Options
  registry : Registry
  environment : Environment
  /-- The functions around the current point, the innermost first. -/
  frames : List Frame
  /-- Everything reported so far, in order. -/
  diagnostics : List Diagnostic
  /-- The first fault committed. -/
  fault : Option Fault

namespace Checker

/-- A checker that has seen nothing yet. -/
def fresh (options : Options) : Checker where
  options := options
  registry := Registry.empty
  environment := Environment.empty
  frames := []
  diagnostics := []
  fault := none

end Checker

/-- A step of a check. -/
abbrev Check := StateM Checker

namespace Check

def emit (diagnostics : List Diagnostic) : Check Unit :=
  modify fun c => { c with diagnostics := c.diagnostics ++ diagnostics }

/-- Reports the diagnostics of a rule and yields its value. -/
def settle {α : Type} (r : Reported α) : Check α := do
  emit r.diagnostics
  pure r.value

def error (issue : Issue) (span : Option Span) : Check Unit :=
  emit [Diagnostic.error issue span]

def warn (issue : Issue) (span : Option Span) : Check Unit :=
  emit [Diagnostic.warn issue span]

/-- Records a fault, unless one is recorded already. -/
def breach (fault : Fault) : Check Unit :=
  modify fun c => { c with fault := c.fault.or (some fault) }

/-- What is declared so far. -/
def registry : Check Registry := do
  pure (← get).registry

/-- The type that a written type stands for; see `Registry.resolve`. -/
def resolve (written : Option TypeExpr) : Check Ty := do
  settle ((← registry).resolve written)

/-- The type that a written type stands for, without a report. -/
def resolveSilently (written : Option TypeExpr) : Check Ty := do
  pure ((← registry).resolve written).value

/-- Enters the type declarations among the given statements. -/
def register (stmts : List Stmt) : Check Unit := do
  let c ← get
  let extended ← settle (c.registry.register c.options stmts)
  modify fun c => { c with registry := extended }

def modifyEnvironment (f : Environment → Environment) : Check Unit :=
  modify fun c => { c with environment := f c.environment }

/-- Declares a name in the innermost scope. -/
def declare (name : String) (ty : Ty) (flags : Flags) (span : Option Span) : Check Unit :=
  modifyEnvironment fun env => env.declare name (Binding.declared ty flags span)

/-- The type of the binding that a name refers to, which is thereby used.  A name without a
binding is reported and has no known type. -/
def useName (name : String) (span : Option Span) : Check Ty := do
  match (← get).environment.lookup? name with
  | some binding =>
    modifyEnvironment fun env => env.modify name Binding.markUsed
    pure binding.ty
  | none =>
    error (.unknownIdentifier name) span
    pure .unknown

/-- Notes that the innermost binding of a name holds a literal of an enum. -/
def tagEnum (name enum : String) : Check Unit :=
  modifyEnvironment fun env =>
    env.modifyCurrent name fun binding => { binding with enumTag := some enum }

/-- The enum tag of the binding that a name refers to. -/
def enumTag? (name : String) : Check (Option String) := do
  pure ((← get).environment.lookup? name >>= Binding.enumTag)

/-- Whether the innermost scope has a binding of the name that is already used. -/
def isUsedHere (name : String) : Check Bool := do
  pure (((← get).environment.current.get? name).any Binding.used)

def enterScope : Check Unit := modifyEnvironment Environment.push

/-- Closes the innermost scope without a report. -/
def popScope : Check (Option Scope) := do
  match (← get).environment.pop? with
  | some (scope, rest) =>
    modifyEnvironment fun _ => rest
    pure (some scope)
  | none =>
    breach .globalScopePopped
    pure none

/-- Reports the unused local names of a scope. -/
def reportUnusedLocals (scope : Scope) : Check Unit := do
  emit (Scope.unusedLocals (← get).options scope)

/-- Warns of the unused top-level names of a scope. -/
def warnUnusedTopLevel (scope : Scope) : Check Unit := do
  emit (Scope.unusedTopLevel (← get).options scope)

/-- Closes the innermost scope and reports its unused local names. -/
def exitScope : Check Unit := do
  match ← popScope with
  | some scope => reportUnusedLocals scope
  | none => pure ()

def pushFrame (expected : Option Ty) : Check Unit :=
  modify fun c => { c with frames := ⟨expected, []⟩ :: c.frames }

/-- Leaves the innermost function and yields its frame. -/
def popFrame : Check (Option Frame) := do
  let frame := (← get).frames.head?
  modify fun c => { c with frames := c.frames.tail }
  pure frame

/-- The innermost function, if any. -/
def frame? : Check (Option Frame) := do
  pure (← get).frames.head?

/-- Changes the types returned so far by the innermost function, if any. -/
def modifyReturns (f : List Ty → List Ty) : Check Unit :=
  modify fun c =>
    match c.frames with
    | [] => c
    | frame :: rest => { c with frames := { frame with returns := f frame.returns } :: rest }

def recordReturn (ty : Ty) : Check Unit := modifyReturns (· ++ [ty])

/-- The number of returns seen so far in the innermost function. -/
def returnsSeen : Check Nat := do
  pure (((← frame?).map fun frame => frame.returns.length).getD 0)

/-- Forgets the returns after the first `count`. -/
def truncateReturns (count : Nat) : Check Unit := modifyReturns (List.take count)

/-- The returns of the innermost function after the first `count`. -/
def returnsSince (count : Nat) : Check (List Ty) := do
  match ← frame? with
  | none => pure []
  | some frame =>
    if frame.returns.length < count then breach .returnsOutOfRange
    pure (frame.returns.drop count)

end Check

end ModuleCheck
