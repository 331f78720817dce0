namespace ModuleCheck

/-!
The types that the checker gives to expressions, their text and their equality.
-/

/-- A type.  `any` is the type of values that are deliberately left unchecked and `unknown`
stands where an earlier report left no type; structs and enums are known by name. -/
inductive Ty where
  | int
  | bool
  | string
  | unit
  | any
  | unknown
  | struct (name : String)
  | enum (name : String)
  | fn (params : List Ty) (result : Ty)

namespace Ty

/-- Whether the type agrees with every other one. -/
def isAbsorbing : Ty → Bool
  | any | unknown => true
  | _ => false

theorem isAbsorbing_iff (t : Ty) : t.isAbsorbing = true ↔ t = any ∨ t = unknown := by
  cases t <;> simp [isAbsorbing]

def isConcrete (t : Ty) : Bool := !t.isAbsorbing

theorem isConcrete_iff (t : Ty) : t.isConcrete = true ↔ t ≠ any ∧ t ≠ unknown := by
  cases t <;> simp [isConcrete, isAbsorbing]

def isUnit : Ty → Bool
  | unit => true
  | _ => false

/-- Whether the type is accepted where a boolean is needed. -/
def isBoolish : Ty → Bool
  | bool => true
  | t => t.isAbsorbing

theorem isBoolish_iff (t : Ty) : t.isBoolish = true ↔ t = bool ∨ t = any ∨ t = unknown := by
  cases t <;> simp [isBoolish, isAbsorbing]

/-- Whether the type is accepted where an integer is needed. -/
def isIntish : Ty → Bool
  | int => true
  | t => t.isAbsorbing

theorem isIntish_iff (t : Ty) : t.isIntish = true ↔ t = int ∨ t = any ∨ t = unknown := by
  cases t <;> simp [isIntish, isAbsorbing]

mutual

/-- The text of a type in messages, such as `fn(Int, Struct(Point))->Unit`. -/
def text : Ty → String
  | int => "Int"
  | bool => "Bool"
  | string => "String"
  | unit => "Unit"
  | any => "Any"
  | unknown => "Unknown"
  | struct name => "Struct(" ++ name ++ ")"
  | enum name => "Enum(" ++ name ++ ")"
  | fn params result => "fn(" ++ textList params ++ ")->" ++ text result

/-- The texts of the parameters, separated by a comma and a space. -/
def textList : List Ty → String
  | [] => ""
  | t :: rest => text t ++ textRest rest

/-- The texts of the parameters after the first, each led by its separator. -/
def textRest : List Ty → String
  | [] => ""
  | t :: rest => ", " ++ text t ++ textRest rest

end

mutual

/-- Whether two types are the same, symbol for symbol. -/
def beq : Ty → Ty → Bool
  | int, int | bool, bool | string, string | unit, unit | any, any | unknown, unknown => true
  | struct m, struct n => m == n
  | enum m, enum n => m == n
  | fn params result, fn params' result' => beqList params params' && beq result result'
  | _, _ => false

def beqList : List Ty → List Ty → Bool
  | [], [] => true
  | t :: rest, t' :: rest' => beq t t' && beqList rest rest'
  | _, _ => false

end

mutual

theorem beq_iff : (t u : Ty) → (beq t u = true ↔ t = u)
  | int, u => by cases u <;> simp [beq]
  | bool, u => by cases u <;> simp [beq]
  | string, u => by cases u <;> simp [beq]
  | unit, u => by cases u <;> simp [beq]
  | any, u => by cases u <;> simp [beq]
  | unknown, u => by cases u <;> simp [beq]
  | struct name, u => by cases u <;> simp [beq]
  | enum name, u => by cases u <;> simp [beq]
  | fn params result, u => by
    cases u with
    | fn params' result' => simp [beq, beqList_iff params params', beq_iff result result']
    | _ => simp [beq]

theorem beqList_iff : (ts us : List Ty) → (beqList ts us = true ↔ ts = us)
  | [], us => by cases us <;> simp [beqList]
  | t :: rest, us => by
    cases us with
    | nil => simp [beqList]
    | cons u others => simp [beqList, beq_iff t u, beqList_iff rest others]

end

instance : DecidableEq Ty := fun t u => decidable_of_iff (beq t u = true) (beq_iff t u)

end Ty

end ModuleCheck
