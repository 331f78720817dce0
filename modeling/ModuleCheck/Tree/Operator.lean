namespace ModuleCheck

/-!
The operators of expressions and the groups that share a typing rule.
-/

inductive BinaryOp where
  | add
  | sub
  | mul
  | div
  | less
  | lessEqual
  | greater
  | greaterEqual
  | equal
  | notEqual
  | and
  | or
deriving DecidableEq

namespace BinaryOp

/-- The operator as it is written. -/
def text : BinaryOp → String
  | add => "+"
  | sub => "-"
  | mul => "*"
  | div => "/"
  | less => "<"
  | lessEqual => "<="
  | greater => ">"
  | greaterEqual => ">="
  | equal => "=="
  | notEqual => "!="
  | and => "&&"
  | or => "||"

def all : List BinaryOp :=
  [add, sub, mul, div, less, lessEqual, greater, greaterEqual, equal, notEqual, and, or]

/-- The operator that is written so, if there is one. -/
def ofText? (written : String) : Option BinaryOp := all.find? fun op => op.text == written

/-- The groups of operators, by what they ask of their operands and what they yield. -/
inductive Class where
  | arithmetic
  | relational
  | equality
  | logical
deriving DecidableEq

def group : BinaryOp → Class
  | add | sub | mul | div => .arithmetic
  | less | lessEqual | greater | greaterEqual => .relational
  | equal | notEqual => .equality
  | and | or => .logical

/-- The operators of a group. -/
def Class.operators : Class → List BinaryOp
  | arithmetic => [add, sub, mul, div]
  | relational => [less, lessEqual, greater, greaterEqual]
  | equality => [equal, notEqual]
  | logical => [and, or]

theorem group_eq_iff (op : BinaryOp) (g : Class) : op.group = g ↔ op ∈ g.operators := by
  cases g <;> cases op <;> decide

end BinaryOp

inductive UnaryOp where
  | not
  | neg
deriving DecidableEq

namespace UnaryOp

/-- The operator as it is written. -/
def text : UnaryOp → String
  | not => "!"
  | neg => "-"

/-- The operator that is written so, if there is one. -/
def ofText? (written : String) : Option UnaryOp := [not, neg].find? fun op => op.text == written

end UnaryOp

end ModuleCheck
