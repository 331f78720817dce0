namespace ModuleCheck

/-!
What can be wrong with a module: one constructor per kind of finding, with the names, type
texts and counts that its message quotes.
-/

/-- A finding.  Types are quoted by their text. -/
inductive Issue where
  | reservedField (struct field : String)
  | duplicateField (struct field : String)
  | duplicateVariant (enum variant : String)
  | unknownType (name : String)
  | unknownIdentifier (name : String)
  | unusedVariable (name : String)
  | unusedTopLevel (name : String)
  | operatorMismatch (operator expected : String)
  | comparisonMismatch (left right operator : String)
  | notCallable (type : String)
  | argumentCount (expected received : Nat)
  | argumentMismatch (position : Nat) (expected received : String)
  | conditionNotBool
  | unknownStruct (name : String)
  | unknownField (struct field : String)
  | duplicateFieldInit (struct field : String)
  | missingField (struct field : String)
  | fieldMismatch (struct field expected received : String)
  | updateNonStruct (type : String)
  | unknownEnum (name : String)
  | unknownVariant (enum variant : String)
  | unexpectedPayload (variant : String)
  | missingPayload (variant : String)
  | payloadMismatch (enum variant expected received : String)
  | typeMismatch (name expected received : String)
  | returnMismatch (expected received : String)
  | expectedValue (what : String)
  | incompatibleTypes (context left right : String)
  | returnOutsideFunction
  | missingReturn (function : String)
  | returnValueRequired (expected : String)
  | unreachableStatement
  | uselessExpression
  | duplicateArm (variant : String)
  | unreachableArm (variant : String)
  | armsAfterWildcard
  | nonExhaustiveMatch (enum variant : String)
  | patternEnumMismatch (expected received : String)
  | noPayloadToBind (variant : String)
  | guardNotBool
  | armWithoutValue
deriving DecidableEq

namespace Issue

/-- The name of the kind of finding, which tools use as its code. -/
def kind : Issue → String
  | reservedField .. => "ReservedField"
  | duplicateField .. => "DuplicateField"
  | duplicateVariant .. => "DuplicateVariant"
  | unknownType .. => "UnknownType"
  | unknownIdentifier .. => "UnknownIdentifier"
  | unusedVariable .. => "UnusedVariable"
  | unusedTopLevel .. => "UnusedTopLevel"
  | operatorMismatch .. => "OperatorTypeMatchError"
  | comparisonMismatch .. => "ComparisonTypeMatchError"
  | notCallable .. => "NotCallable"
  | argumentCount .. => "ArgumentCountMismatch"
  | argumentMismatch .. => "ArgumentTypeMatchError"
  | conditionNotBool => "ConditionNotBool"
  | unknownStruct .. => "UnknownStruct"
  | unknownField .. => "UnknownField"
  | duplicateFieldInit .. => "DuplicateFieldInit"
  | missingField .. => "MissingField"
  | fieldMismatch .. => "FieldTypeMatchError"
  | updateNonStruct .. => "UpdateNonStruct"
  | unknownEnum .. => "UnknownEnum"
  | unknownVariant .. => "UnknownVariant"
  | unexpectedPayload .. => "UnexpectedPayload"
  | missingPayload .. => "MissingPayload"
  | payloadMismatch .. => "PayloadTypeMatchError"
  | typeMismatch .. => "TypeMatchError"
  | returnMismatch .. => "ReturnTypeMatchError"
  | expectedValue .. => "ExpectedValue"
  | incompatibleTypes .. => "IncompatibleTypes"
  | returnOutsideFunction => "ReturnOutsideFunction"
  | missingReturn .. => "MissingReturn"
  | returnValueRequired .. => "ReturnValueRequired"
  | unreachableStatement => "UnreachableStatement"
  | uselessExpression => "UselessExpression"
  | duplicateArm .. => "DuplicateArm"
  | unreachableArm .. => "UnreachableArm"
  | armsAfterWildcard => "ArmsAfterWildcard"
  | nonExhaustiveMatch .. => "NonExhaustiveMatch"
  | patternEnumMismatch .. => "PatternEnumMismatch"
  | noPayloadToBind .. => "NoPayloadToBind"
  | guardNotBool => "GuardNotBool"
  | armWithoutValue => "ArmWithoutValue"

/-- The sentence shown to the user. -/
def message : Issue → String
  | reservedField struct field => "Struct " ++ struct ++ ": field '" ++ field ++ "' is reserved"
  | duplicateField struct field => "Struct " ++ struct ++ ": duplicate field '" ++ field ++ "'"
  | duplicateVariant enum variant => "Enum " ++ enum ++ ": duplicate variant '" ++ variant ++ "'"
  | unknownType name => "Unknown type: " ++ name
  | unknownIdentifier name => "Unknown identifier: " ++ name
  | unusedVariable name => "Unused variable: " ++ name
  | unusedTopLevel name => "Unused top-level declaration: " ++ name
  | operatorMismatch operator expected => "Operator '" ++ operator ++ "' expects " ++ expected
  | comparisonMismatch left right operator =>
    "Cannot compare " ++ left ++ " and " ++ right ++ " with '" ++ operator ++ "'"
  | notCallable type => "Cannot call non-function of type " ++ type
  | argumentCount expected received =>
    "Wrong number of arguments: expected " ++ expected.repr ++ ", got " ++ received.repr
  | argumentMismatch position expected received =>
    "Argument " ++ position.repr ++ " type mismatch: expected " ++ expected ++ ", got " ++ received
  | conditionNotBool => "If condition must be Bool"
  | unknownStruct name => "Unknown struct: " ++ name
  | unknownField struct field => "Unknown field '" ++ field ++ "' in " ++ struct
  | duplicateFieldInit struct field => "Duplicate field '" ++ field ++ "' in " ++ struct
  | missingField struct field => "Missing field '" ++ field ++ "' in " ++ struct
  | fieldMismatch struct field expected received =>
    "Type mismatch for field '" ++ struct ++ "." ++ field ++ "': expected " ++ expected ++
      ", got " ++ received
  | updateNonStruct type => "Cannot update non-struct type " ++ type
  | unknownEnum name => "Unknown enum: " ++ name
  | unknownVariant enum variant => "Unknown variant '" ++ variant ++ "' in " ++ enum
  | unexpectedPayload variant => variant ++ " takes no arguments"
  | missingPayload variant => variant ++ " expects 1 argument"
  | payloadMismatch enum variant expected received =>
    "Enum payload type mismatch for " ++ enum ++ "." ++ variant ++ ": expected " ++ expected ++
      ", got " ++ received
  | typeMismatch name expected received =>
    "Type mismatch in '" ++ name ++ "': expected " ++ expected ++ ", got " ++ received
  | returnMismatch expected received =>
    "Return type mismatch: expected " ++ expected ++ ", got " ++ received
  | expectedValue what => what ++ " must produce a value"
  | incompatibleTypes context left right =>
    "Incompatible types in " ++ context ++ ": " ++ left ++ " and " ++ right
  | returnOutsideFunction => "'return' is only allowed inside a function"
  | missingReturn function => "Not all paths return a value in '" ++ function ++ "'"
  | returnValueRequired expected => "Return value required: expected " ++ expected
  | unreachableStatement => "Unreachable statement"
  | uselessExpression => "Useless expression statement"
  | duplicateArm variant => "Duplicate unguarded match arm for '" ++ variant ++ "'"
  | unreachableArm variant =>
    "Unreachable match arm for '" ++ variant ++ "' after unguarded arm"
  | armsAfterWildcard => "Unreachable match arms after '_'"
  | nonExhaustiveMatch enum variant =>
    "Non-exhaustive match on " ++ enum ++ ": missing '" ++ variant ++ "'"
  | patternEnumMismatch expected received =>
    "Mismatched enum in match pattern: expected " ++ expected ++ ", got " ++ received
  | noPayloadToBind variant => variant ++ " has no payload to bind"
  | guardNotBool => "Match guard must be Bool"
  | armWithoutValue => "Match arm must produce a value"

/-- A hint at the remedy, for the kinds of finding that have one. -/
def tip? : Issue → Option String
  | reservedField .. =>
    some "Field names starting with `__` may collide with the runtime representation"
  | unusedVariable name | unusedTopLevel name =>
    some ("Rename it to `_" ++ name ++ "` if it is intentionally unused")
  | argumentCount expected received =>
    some ("Expected " ++ expected.repr ++ " arguments, received " ++ received.repr)
  | missingField _ field => some ("Add a value for `" ++ field ++ "`")
  | nonExhaustiveMatch _ variant =>
    some ("Add an arm for `" ++ variant ++ "` or a trailing `_` arm")
  | armsAfterWildcard => some "Move the `_` arm to the end of the match"
  | missingReturn .. => some "Every path through the body must end in a `return`"
  | uselessExpression => some "Bind the value to a name or remove the statement"
  | incompatibleTypes .. =>
    some "Every branch must produce the same type, or all must produce Unit"
  | _ => none

end Issue

end ModuleCheck
