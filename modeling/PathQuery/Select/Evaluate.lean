import PathQuery.Select.Compare
import PathQuery.Select.Descent
import PathQuery.Select.Slice

/-!
# Evaluation

The steps of a path are applied one after the other, each to every node that the
step before it yields, on demand.  A failure is passed through the steps behind
it in the place of its node.  A condition looks at no more than the first node of
an operand.
-/

namespace PathQuery

/-- What a step yields: a node or a failure. -/
abbrev Item := Except SelectError Json

namespace Settings

/-- A failure where the settings are strict, and nothing otherwise. -/
def missing (settings : Settings) (error : SelectError) : LazyList Item :=
  if settings.strict then .single (.error error) else .nil

/-- The node that was looked up, if it is there. -/
def lookup (settings : Settings) (error : SelectError) : Option Json → LazyList Item
  | some node => .single (.ok node)
  | none => settings.missing error

/-- The value of a member of an object, or of all of them. -/
def memberItems (settings : Settings) (name : Option String) (node : Json) : LazyList Item :=
  match node, name with
  | .object members, some name =>
    settings.lookup (.memberNotFound name) (Json.member? name members)
  | .object _, none => (LazyList.ofList node.children).map .ok
  | _, _ => settings.missing (.memberNotValid name node.kind)

/-- The values of some members of an object, in the order of the names. -/
def membersItems (settings : Settings) (names : List String) (node : Json) : LazyList Item :=
  match node with
  | .object members =>
    (LazyList.ofList names).flatMap fun name =>
      settings.lookup (.memberNotFound name) (Json.member? name members)
  | _ => settings.missing (.membersNotValid names node.kind)

/-- An element of an array, or all of them. -/
def elementItems (settings : Settings) (index : Option Int64) (node : Json) : LazyList Item :=
  match node, index with
  | .array items, some index =>
    settings.lookup (.indexOutOfBounds index) (Slice.element? items index.toInt)
  | .array items, none => (LazyList.ofList items).map .ok
  | _, _ => settings.missing (.indexNotValid index node.kind)

/-- Some elements of an array, in the order of the indices. -/
def elementsItems (settings : Settings) (indices : List Int64) (node : Json) :
    LazyList Item :=
  match node with
  | .array items =>
    (LazyList.ofList indices).flatMap fun index =>
      settings.lookup (.indexOutOfBounds index) (Slice.element? items index.toInt)
  | _ => settings.missing (.indexNotValid indices.head? node.kind)

/-- A slice of an array.  A stride of zero is a failure for every node. -/
def sliceItems (settings : Settings) (start stop stride : Option Int64) (node : Json) :
    LazyList Item :=
  if stride = some 0 then .single (.error .zeroStride)
  else
    match node with
    | .array items =>
      let slice := Slice.ofBounds items.length (start.map Int64.toInt) (stop.map Int64.toInt)
        (stride.map Int64.toInt)
      if slice.inRange then (Slice.elements items items.length slice).map .ok
      else settings.missing (.emptySlice start stop)
    | _ => settings.missing (.sliceNotValid node.kind)

end Settings

namespace Step

/-- The node and everything beneath it, or the members beneath it of one name. -/
def descendItems (name : Option String) (node : Json) : LazyList Item :=
  match name with
  | none => node.visitAll.map .ok
  | some name => (node.visitNamed (· == name)).map .ok

/-- The nodes for which a condition holds; where it fails, the failure. -/
def keep (holds : Json → Except SelectError Bool) (nodes : LazyList Json) : LazyList Item :=
  nodes.filterMap fun node =>
    match holds node with
    | .ok true => some (.ok node)
    | .ok false => none
    | .error error => some (.error error)

/-- Applies a function to a node, and passes a failure through. -/
def pass (outputs : Json → LazyList Item) : Item → LazyList Item
  | .ok node => outputs node
  | .error error => .single (.error error)

end Step

namespace Operand

/-- The regular expression of a right operand that is one. -/
def regex? : Option Operand → Option RegexLiteral
  | some (regex expression) => some expression
  | _ => none

/-- The first node of a list, if there is one. -/
def firstOf (items : LazyList Item) : Except SelectError (Option Json) :=
  match items.head? with
  | some (.ok node) => .ok (some node)
  | some (.error error) => .error error
  | none => .ok none

end Operand

mutual

/-- What a step makes of a node. -/
def Step.outputs (settings : Settings) (root : Json) : Step → Json → LazyList Item
  | .root, _ => .single (.ok root)
  | .member name, node => settings.memberItems name node
  | .members names, node => settings.membersItems names node
  | .element index, node => settings.elementItems index node
  | .elements indices, node => settings.elementsItems indices node
  | .slice start stop stride, node => settings.sliceItems start stop stride node
  | .descend name, node => Step.descendItems name node
  | .descendAny set, node => (node.visitNamed set.contains).map .ok
  | .filter condition, node =>
    Step.keep (fun child => condition.holds settings root child) (.ofList node.children)
  | .descendFilter condition, node =>
    Step.keep (fun child => condition.holds settings root child) node.visitAll

/-- If a condition holds for a node.  Composites are decided from left to right
and no further than needed; a comparison is false where an operand has no node. -/
def Condition.holds (settings : Settings) (root : Json) :
    Condition → Json → Except SelectError Bool
  | .composite .and conditions, node => allHold settings root conditions node
  | .composite .or conditions, node => anyHolds settings root conditions node
  | .comparison operator left right, node => do
    match ← left.first settings root node with
    | none => return false
    | some leftNode =>
      if operator = .present then return true
      else
        match ← firstRight settings root right node with
        | none => return false
        | some rightNode =>
          settings.holdsBetween operator (Operand.regex? right) leftNode rightNode

/-- If all conditions hold for a node. -/
def allHold (settings : Settings) (root : Json) :
    List Condition → Json → Except SelectError Bool
  | [], _ => return true
  | condition :: rest, node => do
    if ← condition.holds settings root node then allHold settings root rest node
    else return false

/-- If one of the conditions holds for a node. -/
def anyHolds (settings : Settings) (root : Json) :
    List Condition → Json → Except SelectError Bool
  | [], _ => return false
  | condition :: rest, node => do
    if ← condition.holds settings root node then return true
    else anyHolds settings root rest node

/-- The first node of an operand. -/
def Operand.first (settings : Settings) (root : Json) :
    Operand → Json → Except SelectError (Option Json)
  | .path steps, node =>
    Operand.firstOf (applySteps settings root steps (.single (.ok node)))
  | .literal value, _ => return some value
  | .regex expression, _ => return some (.string expression.text)

/-- The first node of a right operand, which may be absent. -/
def firstRight (settings : Settings) (root : Json) :
    Option Operand → Json → Except SelectError (Option Json)
  | none, _ => return none
  | some operand, node => operand.first settings root node

/-- Applies steps to some items, each step to what the one before it yields. -/
def applySteps (settings : Settings) (root : Json) :
    List Step → LazyList Item → LazyList Item
  | [], items => items
  | step :: rest, items =>
    applySteps settings root rest
      (items.flatMap (Step.pass fun node => step.outputs settings root node))

end

/-- What the steps of a path make of a node of a document. -/
def evaluate (settings : Settings) (steps : List Step) (root current : Json) :
    LazyList Item :=
  applySteps settings root steps (.single (.ok current))

end PathQuery
