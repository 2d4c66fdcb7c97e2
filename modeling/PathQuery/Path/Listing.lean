import PathQuery.Path.Step

/-!
# The listing of a path

The steps of a path are listed as a JSON document, in which every part is named.
-/

namespace PathQuery

namespace Json

/-- An object with one member. -/
def tagged (name : String) (value : Json) : Json :=
  .object [(name, value)]

/-- An index as a number. -/
def ofIndex (index : Int64) : Json :=
  .number (.int index.toInt ⟨index.le_toInt, by have := index.toInt_lt; omega⟩)

/-- A value that may be absent. -/
def ofOption {α : Type} (encode : α → Json) : Option α → Json
  | some value => encode value
  | none => .null

/-- A list of names. -/
def ofNames (names : List String) : Json :=
  .array (names.map .string)

end Json

mutual

/-- The listing of a step. -/
def Step.toJson : Step → Json
  | .root => .string "Root"
  | .member name => .tagged "Field" (.ofOption .string name)
  | .members names => .tagged "FieldMulti" (.ofNames names)
  | .element index => .tagged "Index" (.ofOption .ofIndex index)
  | .elements indices => .tagged "IndexMulti" (.array (indices.map .ofIndex))
  | .slice start stop stride =>
    .tagged "Slice" (.object [("start", .ofOption .ofIndex start),
      ("end", .ofOption .ofIndex stop), ("step", .ofOption .ofIndex stride)])
  | .descend name => .tagged "Scan" (.ofOption .string name)
  | .descendAny set => .tagged "ScanMulti" (.ofNames set.names)
  | .filter condition => .tagged "Query" condition.toJson
  | .descendFilter condition => .tagged "QueryScan" condition.toJson

/-- The listing of a condition. -/
def Condition.toJson : Condition → Json
  | .composite connective conditions =>
    .tagged "Composite" (.object [("op", .string connective.name),
      ("expressions", .array (listConditions conditions))])
  | .comparison operator left right =>
    .tagged "Boolean" (.object [("op", .string operator.name), ("left", left.toJson),
      ("right", listRight right)])

/-- The listing of an operand. -/
def Operand.toJson : Operand → Json
  | .path steps => .tagged "Path" (.array (listSteps steps))
  | .literal value => .tagged "Literal" value
  | .regex literal => .tagged "Regex" (.string literal.text)

/-- The listing of a right operand, which may be absent. -/
def listRight : Option Operand → Json
  | none => .null
  | some operand => operand.toJson

/-- The listings of some steps. -/
def listSteps : List Step → List Json
  | [] => []
  | step :: rest => step.toJson :: listSteps rest

/-- The listings of some conditions. -/
def listConditions : List Condition → List Json
  | [] => []
  | condition :: rest => condition.toJson :: listConditions rest

end

end PathQuery
