import ModuleCheck.Issue
import ModuleCheck.Source.Span

namespace ModuleCheck

/-!
Diagnostics: findings with a level and, where it is known, a place in the source.
-/

inductive Level where
  | error
  | warn
deriving DecidableEq

namespace Level

def text : Level → String
  | error => "error"
  | warn => "warn"

end Level

/-- A finding, how grave it is and where it was made. -/
structure Diagnostic where
  level : Level
  issue : Issue
  span : Option Span
deriving DecidableEq

namespace Diagnostic

def error (issue : Issue) (span : Option Span) : Diagnostic := ⟨.error, issue, span⟩

def warn (issue : Issue) (span : Option Span) : Diagnostic := ⟨.warn, issue, span⟩

def isError (d : Diagnostic) : Bool := d.level = .error

def isWarning (d : Diagnostic) : Bool := d.level = .warn

def message (d : Diagnostic) : String := d.issue.message

def tip? (d : Diagnostic) : Option String := d.issue.tip?

/-- Whether a list of diagnostics rejects the module that it is about. -/
def hasErrors (ds : List Diagnostic) : Bool := ds.any isError

def errors (ds : List Diagnostic) : List Diagnostic := ds.filter isError

def warnings (ds : List Diagnostic) : List Diagnostic := ds.filter isWarning

end Diagnostic

end ModuleCheck
