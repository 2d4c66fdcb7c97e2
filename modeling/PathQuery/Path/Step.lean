import PathQuery.Json.Basic
import PathQuery.Regex.Literal

/-!
# Steps of a path

A path is a list of steps.  Each step takes one node of a document to some
others.  A filter step asks a condition of each node; a condition compares
operands, and an operand may be a path of its own, so the three types are
defined together.
-/

namespace PathQuery

/-- Some names, in the order in which they were written. -/
structure NameSet where
  names : List String
deriving DecidableEq

/-- If a name is one of the set. -/
def NameSet.contains (set : NameSet) (name : String) : Bool :=
  set.names.contains name

/-- How two operands are compared; the last operator asks only whether its left
operand is there. -/
inductive Operator
  | equals
  | notEquals
  | strictEquals
  | strictNotEquals
  | less
  | lessOrEqual
  | greater
  | greaterOrEqual
  | matchesRegex
  | present
deriving DecidableEq

namespace Operator

/-- The sign of an operator in a path; the last one has none. -/
def symbol : Operator → String
  | equals => "=="
  | notEquals => "!="
  | strictEquals => "==="
  | strictNotEquals => "!=="
  | less => "<"
  | lessOrEqual => "<="
  | greater => ">"
  | greaterOrEqual => ">="
  | matchesRegex => "=~"
  | present => ""

/-- The name of an operator in a listing of a path. -/
def name : Operator → String
  | equals => "Equals"
  | notEquals => "NotEquals"
  | strictEquals => "StrictEquals"
  | strictNotEquals => "StrictNotEquals"
  | less => "LessThan"
  | lessOrEqual => "LessThanOrEquals"
  | greater => "GreaterThan"
  | greaterOrEqual => "GreaterThanOrEquals"
  | matchesRegex => "RegexEquals"
  | present => "Exists"

/-- Every operator. -/
def all : List Operator :=
  [equals, notEquals, strictEquals, strictNotEquals, less, lessOrEqual, greater,
    greaterOrEqual, matchesRegex, present]

end Operator

/-- How conditions are joined. -/
inductive Connective
  | and
  | or
deriving DecidableEq

/-- The name of a connective in a listing of a path. -/
def Connective.name : Connective → String
  | and => "And"
  | or => "Or"

mutual

/-- A step of a path.  An absent name or index stands for all of them. -/
inductive Step
  | root
  | member (name : Option String)
  | members (names : List String)
  | element (index : Option Int64)
  | elements (indices : List Int64)
  | slice (start stop stride : Option Int64)
  | descend (name : Option String)
  | descendAny (names : NameSet)
  | filter (condition : Condition)
  | descendFilter (condition : Condition)

/-- What a filter asks of a node. -/
inductive Condition
  | composite (connective : Connective) (conditions : List Condition)
  | comparison (operator : Operator) (left : Operand) (right : Option Operand)

/-- A side of a comparison: a path from the node or from the root, a constant, or
a regular expression. -/
inductive Operand
  | path (steps : List Step)
  | literal (value : Json)
  | regex (literal : RegexLiteral)

end

namespace Step

/-- If a step may take one node to several. -/
def isMulti : Step → Bool
  | root | member (some _) | element (some _) => false
  | _ => true

end Step

namespace Condition

/-- If a condition joins others. -/
def isComposite : Condition → Bool
  | composite _ _ => true
  | comparison _ _ _ => false

/-- Joins conditions; one alone stands for itself. -/
def join (connective : Connective) : List Condition → Condition
  | [condition] => condition
  | conditions => composite connective conditions

end Condition

end PathQuery
