import ModuleCheck.Diagnostic
import ModuleCheck.Options
import ModuleCheck.Table
import ModuleCheck.Ty.Basic

namespace ModuleCheck

/-!
Scopes: the bindings of one block, in the order of their declaration, and the reports on those
that were never used.
-/

/-- What a scope knows about a name. -/
structure Binding where
  ty : Ty
  used : Bool
  topLevel : Bool
  exported : Bool
  span : Option Span
  /-- The enum of the literal that the binding was initialized with. -/
  enumTag : Option String
deriving DecidableEq

/-- How a name is declared. -/
structure Flags where
  used : Bool := false
  topLevel : Bool := false
  exported : Bool := false
deriving DecidableEq

namespace Flags

def inner : Flags := {}

def atLevel (topLevel : Bool) : Flags := { topLevel }

/-- The flags of a statement that may be exported; an exported name counts as used. -/
def ofExport (topLevel exported : Bool) : Flags := { used := exported, topLevel, exported }

end Flags

namespace Binding

/-- A fresh binding, which carries no enum tag. -/
def declared (ty : Ty) (flags : Flags) (span : Option Span) : Binding where
  ty := ty
  used := flags.used
  topLevel := flags.topLevel
  exported := flags.exported
  span := span
  enumTag := none

def markUsed (b : Binding) : Binding := { b with used := true }

end Binding

abbrev Scope := Table Binding

namespace Scope

/-- The names that were never used, at top level or not, without the ignored ones. -/
def unused (options : Options) (topLevel : Bool) (scope : Scope) : List (String × Binding) :=
  scope.toList.filter fun entry =>
    !entry.2.used && entry.2.topLevel == topLevel && !options.isIgnored entry.1

/-- The errors on unused names that are not at top level. -/
def unusedLocals (options : Options) (scope : Scope) : List Diagnostic :=
  if options.reportUnusedLocals then
    (unused options false scope).map fun entry =>
      Diagnostic.error (.unusedVariable entry.1) entry.2.span
  else []

/-- The warnings on unused names at top level. -/
def unusedTopLevel (options : Options) (scope : Scope) : List Diagnostic :=
  if options.warnUnusedTopLevel then
    (unused options true scope).map fun entry =>
      Diagnostic.warn (.unusedTopLevel entry.1) entry.2.span
  else []

end Scope

end ModuleCheck
