namespace ModuleCheck

/-!
The settings of a check.
-/

/-- What to report and which names are special. -/
structure Options where
  /-- Names that begin with this text are never reported as unused; the empty text exempts
  no name. -/
  ignoredPrefix : String := "_"
  /-- Field names that the representation of structs and enums keeps for itself. -/
  reservedFields : List String := ["__t", "__e", "__c"]
  warnUnusedTopLevel : Bool := true
  reportUnusedLocals : Bool := true
deriving DecidableEq

namespace Options

def isReserved (options : Options) (field : String) : Bool :=
  options.reservedFields.contains field

theorem isReserved_iff (options : Options) (field : String) :
    options.isReserved field = true ↔ field ∈ options.reservedFields :=
  List.contains_iff_mem

def isIgnored (options : Options) (name : String) : Bool :=
  !options.ignoredPrefix.toList.isEmpty &&
    options.ignoredPrefix.toList.isPrefixOf name.toList

/-- With the empty text, no name is ignored. -/
theorem isIgnored_iff (options : Options) (name : String) :
    options.isIgnored name = true ↔
      options.ignoredPrefix ≠ "" ∧ options.ignoredPrefix.toList <+: name.toList := by
  simp [isIgnored]

end Options

end ModuleCheck
