import ModuleCheck.Registry

namespace ModuleCheck

/-!
The arms of a match: which enum they are about, which of them can never be taken, and which
variants they leave out.
-/

namespace Pattern

/-- The enum that a variant pattern names. -/
def enum? : Pattern → Option String
  | variant enum _ _ _ _ => some enum
  | _ => none

/-- The variant of the given enum that a pattern names. -/
def variantOf? (enum : String) : Pattern → Option String
  | variant named member _ _ _ => if named = enum then some member else none
  | _ => none

end Pattern

namespace Arms

/-- The one enum that all variant patterns name, if they agree. -/
def commonEnum? (arms : List Arm) : Option String :=
  match arms.filterMap fun arm => arm.pattern.enum? with
  | [] => none
  | first :: rest => if rest.all (· = first) then some first else none

/-- An arm whose pattern is a variant of the enum in question. -/
structure VariantArm where
  variant : String
  guarded : Bool
  span : Span

/-- The arms for variants of an enum, in order. -/
def variantArms (enum : String) (arms : List Arm) : List VariantArm :=
  arms.filterMap fun arm =>
    (arm.pattern.variantOf? enum).map fun variant => ⟨variant, arm.isGuarded, arm.span⟩

/-- The variants that an unguarded arm takes. -/
def covered (enum : String) (arms : List Arm) : List String :=
  ((variantArms enum arms).filter fun arm => !arm.guarded).map VariantArm.variant

/-- The unguarded arms for variants that are among `seen` or have an unguarded arm before. -/
def duplicatesAfter (seen : List String) : List VariantArm → List Diagnostic
  | [] => []
  | arm :: rest =>
    if arm.guarded then duplicatesAfter seen rest
    else if seen.contains arm.variant then
      Diagnostic.error (.duplicateArm arm.variant) (some arm.span) :: duplicatesAfter seen rest
    else duplicatesAfter (arm.variant :: seen) rest

/-- The unguarded arms that repeat the variant of an earlier unguarded one. -/
def duplicates (enum : String) (arms : List Arm) : List Diagnostic :=
  duplicatesAfter [] (variantArms enum arms)

/-- The arms for variants that are among `handled` or have an unguarded arm before. -/
def unreachableAfter (handled : List String) : List VariantArm → List Diagnostic
  | [] => []
  | arm :: rest =>
    if handled.contains arm.variant then
      Diagnostic.error (.unreachableArm arm.variant) (some arm.span) ::
        unreachableAfter handled rest
    else if arm.guarded then unreachableAfter handled rest
    else unreachableAfter (arm.variant :: handled) rest

/-- The arms, guarded or not, for variants that an earlier unguarded arm takes. -/
def unreachable (enum : String) (arms : List Arm) : List Diagnostic :=
  unreachableAfter [] (variantArms enum arms)

/-- The first catch-all arm, if it is not the last arm. -/
def misplacedWildcard : List Arm → List Diagnostic
  | [] => []
  | arm :: rest =>
    if arm.isCatchAll then
      if rest.isEmpty then [] else [Diagnostic.error .armsAfterWildcard (some arm.span)]
    else misplacedWildcard rest

/-- The declared variants that no unguarded arm takes, unless there is a catch-all arm. -/
def missingVariants (registry : Registry) (enum : String) (m : Match) : List Diagnostic :=
  if m.arms.any Arm.isCatchAll then []
  else
    match registry.enums.get? enum with
    | none => []
    | some variants =>
      (variants.keys.filter fun variant => !(covered enum m.arms).contains variant).map
        fun variant => Diagnostic.error (.nonExhaustiveMatch enum variant) (some m.span)

/-- All findings on the arms as a whole. -/
def findings (registry : Registry) (enum? : Option String) (m : Match) : List Diagnostic :=
  match enum? with
  | none => misplacedWildcard m.arms
  | some enum =>
    duplicates enum m.arms ++ unreachable enum m.arms ++ misplacedWildcard m.arms ++
      missingVariants registry enum m

/-- What a variant pattern binds, checked against the enum that the pattern itself names. -/
def bindingType (registry : Registry) (matched : Option String) (enum variant : String)
    (binds : Bool) (span : Span) : Reported Ty := do
  match matched with
  | none => pure ()
  | some expected =>
    Reported.require (expected = enum) (.patternEnumMismatch expected enum) (some span)
  match registry.variant? enum variant with
  | none => do
    Reported.error (.unknownVariant enum variant) (some span)
    pure .unknown
  | some none => do
    Reported.require (!binds) (.noPayloadToBind variant) (some span)
    pure .unknown
  | some (some payload) => pure payload.type

end Arms

end ModuleCheck
