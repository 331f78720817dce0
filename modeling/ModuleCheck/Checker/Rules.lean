import ModuleCheck.Reported
import ModuleCheck.Registry
import ModuleCheck.Ty.Join

namespace ModuleCheck

/-!
The typing rules: what the types of the parts of a construct make of the construct, and what
is wrong with them.  The rules look at no state.
-/

/-- What visiting an expression tells. -/
structure ExprOutcome where
  ty : Ty
  /-- Whether every evaluation of the expression runs into a `return`. -/
  alwaysReturns : Bool

namespace ExprOutcome

/-- The outcome of an expression that yields a value. -/
def value (ty : Ty) : ExprOutcome := ⟨ty, false⟩

end ExprOutcome

/-- What visiting a statement tells. -/
structure StmtOutcome where
  alwaysReturns : Bool := false
  /-- The type of an expression statement whose value is used. -/
  ty : Option Ty := none

/-- What visiting a block tells. -/
structure BlockOutcome where
  /-- The type of the trailing expression statement if its value is used, else unit. -/
  ty : Ty
  alwaysReturns : Bool
  /-- The types returned inside the block, nested blocks included, in order. -/
  returns : List Ty

namespace BlockOutcome

def toExprOutcome (b : BlockOutcome) : ExprOutcome := ⟨b.ty, b.alwaysReturns⟩

end BlockOutcome

/-- A visited expression: its type and where it stands. -/
structure Operand where
  ty : Ty
  span : Span

namespace Rules

/-- Asks that `actual` be compatible with `expected`, and reports `issue` otherwise. -/
def testCompatible (actual expected : Ty) (issue : Issue) (span : Option Span) :
    Reported Bool :=
  Reported.test (actual.compatible expected) issue span

/-- Asks for a type other than unit. -/
def testValue (ty : Ty) (what : String) (span : Option Span) : Reported Bool :=
  Reported.test (!ty.isUnit) (.expectedValue what) span

/-- Asks for a type other than unit, except of a branch that always returns. -/
def testBranchValue (branch : ExprOutcome) (what : String) (span : Option Span) :
    Reported Bool :=
  if branch.alwaysReturns then pure true else testValue branch.ty what span

def requireCompatible (actual expected : Ty) (issue : Issue) (span : Span) : Reported Unit := do
  let _ ← testCompatible actual expected issue (some span)
  pure ()

def requireValue (ty : Ty) (what : String) (span : Span) : Reported Unit := do
  let _ ← testValue ty what (some span)
  pure ()

def requireBranchValue (branch : ExprOutcome) (what : String) (span : Span) :
    Reported Unit := do
  let _ ← testBranchValue branch what (some span)
  pure ()

/-- The common type of `members`; a conflict is reported and leaves no known type. -/
def join (members : List Ty) (context : String) (span : Option Span) : Reported Ty :=
  match Ty.join members with
  | .ok ty => pure ty
  | .error conflict => do
    Reported.error (.incompatibleTypes context conflict.left.text conflict.right.text) span
    pure .unknown

/-- The types of those outcomes that yield a value. -/
def valueTypes (outcomes : List ExprOutcome) : List Ty :=
  (outcomes.filter fun outcome => !outcome.alwaysReturns).map ExprOutcome.ty

/-- Negation asks for a boolean.  A minus sign asks for nothing, and its result is left
unknown. -/
def unary (op : UnaryOp) (operand : Ty) (span : Span) : Reported Ty :=
  match op with
  | .not => do
    Reported.require operand.isBoolish (.operatorMismatch op.text Ty.bool.text) (some span)
    pure .bool
  | .neg => pure .unknown

def requireInt (op : BinaryOp) (operand : Operand) : Reported Unit :=
  Reported.require operand.ty.isIntish (.operatorMismatch op.text Ty.int.text) (some operand.span)

def requireBool (op : BinaryOp) (operand : Operand) : Reported Unit :=
  Reported.require operand.ty.isBoolish (.operatorMismatch op.text Ty.bool.text)
    (some operand.span)

def binary (op : BinaryOp) (left right : Operand) (span : Span) : Reported Ty :=
  match op.group with
  | .arithmetic => do
    requireInt op left
    requireInt op right
    pure .int
  | .relational => do
    requireInt op left
    requireInt op right
    pure .bool
  | .equality => do
    requireCompatible left.ty right.ty
      (.comparisonMismatch left.ty.text right.ty.text op.text) span
    pure .bool
  | .logical => do
    requireBool op left
    requireBool op right
    pure .bool

/-- Compares arguments with parameters, one by one from the given position on. -/
def arguments (position : Nat) : List Ty → List Operand → Reported Unit
  | expected :: params, arg :: args => do
    requireCompatible arg.ty expected
      (.argumentMismatch position expected.text arg.ty.text) arg.span
    arguments (position + 1) params args
  | _, _ => pure ()

/-- A call of something other than a function has no known type.  The arguments are compared
with the parameters only if there are equally many. -/
def call (callee : Ty) (args : List Operand) (span : Span) : Reported Ty :=
  match callee with
  | .fn params result => do
    let fits ← Reported.test (args.length == params.length)
      (.argumentCount params.length args.length) (some span)
    if fits then arguments 1 params args
    pure result
  | other => do
    Reported.error (.notCallable other.text) (some span)
    pure .unknown

/-- Whether an if condition may be tested. -/
def condition (operand : Operand) : Reported Unit :=
  Reported.require operand.ty.isBoolish .conditionNotBool (some operand.span)

/-- Whether the guard of an arm may be tested. -/
def guard (operand : Operand) : Reported Unit :=
  Reported.require operand.ty.isBoolish .guardNotBool (some operand.span)

/-- The outcome of an if expression from those of its branches. -/
def branches (consequence alternative : ExprOutcome) (span : Span) : Reported ExprOutcome :=
  if consequence.alwaysReturns && alternative.alwaysReturns then pure ⟨.unknown, true⟩
  else do
    let ty ← join (valueTypes [consequence, alternative]) "if branches" (some span)
    requireValue ty "If expression" span
    pure ⟨ty, false⟩

/-- The outcome of a match from those of its arms.  A match without arms does not return. -/
def arms (outcomes : List ExprOutcome) (span : Span) : Reported ExprOutcome :=
  if !outcomes.isEmpty && outcomes.all ExprOutcome.alwaysReturns then pure ⟨.unknown, true⟩
  else do
    let ty ← join (valueTypes outcomes) "match arms" (some span)
    pure ⟨ty, false⟩

/-- The body of an arm, where a value is needed. -/
def armValue (body : ExprOutcome) (span : Span) : Reported Unit :=
  Reported.require (body.alwaysReturns || !body.ty.isUnit) .armWithoutValue (some span)

/-- The name of a field value, in a struct literal or update: whether the struct has it, and
whether it was given before. -/
def fieldName (struct : String) (fields : Fields) (given : List String) (field : String)
    (span : Span) : Reported Unit := do
  Reported.require (fields.contains field) (.unknownField struct field) (some span)
  Reported.require (!given.contains field) (.duplicateFieldInit struct field) (some span)

/-- The type of a field value, compared with that of the field if the struct has it. -/
def fieldValue (struct : String) (fields : Fields) (field : String) (value : Operand) :
    Reported Unit := do
  requireValue value.ty ("Field '" ++ struct ++ "." ++ field ++ "'") value.span
  match fields.get? field with
  | none => pure ()
  | some declared =>
    requireCompatible value.ty declared
      (.fieldMismatch struct field declared.text value.ty.text) value.span

/-- The declared fields that a struct literal does not give. -/
def missingFields (struct : String) (fields : Fields) (given : List String) (span : Span) :
    Reported Unit :=
  ⟨(), (fields.keys.filter fun field => !given.contains field).map fun field =>
    Diagnostic.error (.missingField struct field) (some span)⟩

/-- Whether an enum literal has a payload exactly if its variant carries one. -/
def payloadPresence (variant : String) (declared : Option Payload) (given : Bool) (span : Span) :
    Reported Unit :=
  match declared, given with
  | none, true => Reported.error (.unexpectedPayload variant) (some span)
  | some _, false => Reported.error (.missingPayload variant) (some span)
  | _, _ => pure ()

/-- The type of the payload of an enum literal. -/
def payloadValue (enum variant : String) (declared : Option Payload) (value : Operand) :
    Reported Unit := do
  requireValue value.ty "Enum payload" value.span
  match declared with
  | none => pure ()
  | some payload =>
    requireCompatible value.ty payload.type
      (.payloadMismatch enum variant payload.type.text value.ty.text) value.span

/-- The type of a declared variable: the written one, which the value has to fit, or else that
of the value. -/
def variableType (name : String) (written : Option (Reported Ty)) (value : Operand)
    (span : Span) : Reported Ty := do
  requireValue value.ty "Initializer" value.span
  match written with
  | none => pure value.ty
  | some resolved =>
    let declared ← resolved
    requireCompatible value.ty declared
      (.typeMismatch name declared.text value.ty.text) span
    pure declared

/-- The type of a returned value, unit for a `return` without one, compared with the declared
result of the function. -/
def returned (expected : Option Ty) (value : Option Operand) (span : Span) : Reported Ty :=
  match value with
  | some operand => do
    requireValue operand.ty "Return value" operand.span
    match expected with
    | none => pure ()
    | some ty =>
      requireCompatible operand.ty ty (.returnMismatch ty.text operand.ty.text) span
    pure operand.ty
  | none => do
    match expected with
    | none => pure ()
    | some ty =>
      Reported.require (!(ty.isConcrete && !ty.isUnit)) (.returnValueRequired ty.text)
        (some span)
    pure .unit

/-- The types that a function without a declared result returns: those of its `return`
statements and that of the end of its body, if it is reached. -/
def withImplicitReturn (returns : List Ty) (ty : Ty) (alwaysReturns : Bool) : List Ty :=
  if alwaysReturns then
    if returns.isEmpty then [.unit] else returns
  else returns ++ [ty]

/-- The types that a function returns.  The end of the body adds one only if the result is not
declared. -/
def bodyReturns (declared : Bool) (returns : List Ty) (ty : Ty) (alwaysReturns : Bool) :
    List Ty :=
  if declared then returns else withImplicitReturn returns ty alwaysReturns

/-- The result of a function: the declared one, which asks for a `return` on every path unless
it is unit or absorbing, or else the common type of what it returns. -/
def functionResult (name : String) (expected : Option Ty) (body : BlockOutcome) (span : Span) :
    Reported Ty :=
  match expected with
  | some declared => do
    Reported.require
      (!(declared.isConcrete && !declared.isUnit) || body.alwaysReturns) (.missingReturn name)
      (some span)
    pure declared
  | none =>
    join (bodyReturns false body.returns body.ty body.alwaysReturns)
      ("returns of '" ++ name ++ "'") (some span)

end Rules

end ModuleCheck
