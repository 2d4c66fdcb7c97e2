import PathQuery.Path.Step

/-!
# Equal steps

Two steps are the same if they are built alike; constants are compared by value
and regular expressions by their text.
-/

namespace PathQuery

mutual

/-- If two steps are the same. -/
def Step.same : Step → Step → Bool
  | .root, .root => true
  | .member a, .member b => a == b
  | .members a, .members b => a == b
  | .element a, .element b => a == b
  | .elements a, .elements b => a == b
  | .slice start stop stride, .slice start' stop' stride' =>
    start == start' && stop == stop' && stride == stride'
  | .descend a, .descend b => a == b
  | .descendAny a, .descendAny b => a.names == b.names
  | .filter a, .filter b => a.same b
  | .descendFilter a, .descendFilter b => a.same b
  | _, _ => false

/-- If two conditions are the same. -/
def Condition.same : Condition → Condition → Bool
  | .composite connective conditions, .composite connective' conditions' =>
    connective == connective' && sameConditions conditions conditions'
  | .comparison operator left right, .comparison operator' left' right' =>
    operator == operator' && left.same left' && sameRight right right'
  | _, _ => false

/-- If two operands are the same. -/
def Operand.same : Operand → Operand → Bool
  | .path steps, .path steps' => sameSteps steps steps'
  | .literal value, .literal value' => value.same value'
  | .regex literal, .regex literal' => literal.text == literal'.text
  | _, _ => false

/-- If two right operands are the same, or both absent. -/
def sameRight : Option Operand → Option Operand → Bool
  | none, none => true
  | some operand, some operand' => operand.same operand'
  | _, _ => false

/-- If two lists of steps are the same. -/
def sameSteps : List Step → List Step → Bool
  | [], [] => true
  | step :: rest, step' :: rest' => step.same step' && sameSteps rest rest'
  | _, _ => false

/-- If two lists of conditions are the same. -/
def sameConditions : List Condition → List Condition → Bool
  | [], [] => true
  | condition :: rest, condition' :: rest' =>
    condition.same condition' && sameConditions rest rest'
  | _, _ => false

end

end PathQuery
