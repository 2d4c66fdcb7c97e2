import PathQuery.Proofs.Select.Preorder
import PathQuery.Proofs.Select.SlicePlaces
import PathQuery.Select.Evaluate

/-!
# Eager results

Here a step of a path is a function from a node to the list of all its results,
without a cursor, a stack or a rest that is made on demand.  A path replaces every
node of a list by the results of its first step, then by those of the second one,
and so on; a failure stays where it is.  Main statement: the lazy evaluation holds
exactly these results, also where a condition evaluates an operand.
-/

namespace PathQuery

/-! ## Results of a step -/

/-- What was looked for, or the failure that its absence is where the settings
are strict. -/
def Settings.found (settings : Settings) (error : SelectError) : Option Json → List Item
  | some value => [.ok value]
  | none => if settings.strict then [.error error] else []

theorem found_none_of_lenient {settings : Settings} (h : settings.strict = false)
    (error : SelectError) : settings.found error none = [] := by
  rw [Settings.found, h]
  rfl

theorem found_none_of_strict {settings : Settings} (h : settings.strict = true)
    (error : SelectError) : settings.found error none = [.error error] := by
  rw [Settings.found, if_pos h]

namespace Json

/-- A node and everything beneath it in pre-order. -/
def selfAndBeneath (node : Json) : List Json :=
  node :: node.descendants.map (·.2)

/-- The members beneath a node whose name is accepted, in pre-order. -/
def namedBeneath (accepts : String → Bool) (node : Json) : List Json :=
  node.descendants.filterMap fun entry =>
    if entry.1.any accepts then some entry.2 else none

end Json

/-- Keeps the nodes that are found to match; where the test fails, the failure
takes the place of the node. -/
def keptNodes (holds : Json → Except SelectError Bool) (nodes : List Json) : List Item :=
  nodes.filterMap fun node =>
    match holds node with
    | .ok true => some (.ok node)
    | .ok false => none
    | .error error => some (.error error)

/-- All results of a step for a node. -/
def Settings.results (settings : Settings) (root : Json) : Step → Json → List Item
  | .root, _ => [.ok root]
  | .member (some name), .object members =>
    settings.found (.memberNotFound name) (Json.member? name members)
  | .member none, .object members => members.map fun member => .ok member.2
  | .member name, node => settings.found (.memberNotValid name node.kind) none
  | .members names, .object members =>
    names.flatMap fun name =>
      settings.found (.memberNotFound name) (Json.member? name members)
  | .members names, node => settings.found (.membersNotValid names node.kind) none
  | .element (some index), .array items =>
    settings.found (.indexOutOfBounds index) (Slice.element? items index.toInt)
  | .element none, .array items => items.map .ok
  | .element index, node => settings.found (.indexNotValid index node.kind) none
  | .elements indices, .array items =>
    indices.flatMap fun index =>
      settings.found (.indexOutOfBounds index) (Slice.element? items index.toInt)
  | .elements indices, node => settings.found (.indexNotValid indices.head? node.kind) none
  | .slice start stop stride, .array items =>
    let slice := Slice.ofBounds items.length (start.map Int64.toInt) (stop.map Int64.toInt)
      (stride.map Int64.toInt)
    if stride = some 0 then [.error .zeroStride]
    else if slice.inRange then (Slice.picked items slice).map .ok
    else settings.found (.emptySlice start stop) none
  | .slice _ _ stride, node =>
    if stride = some 0 then [.error .zeroStride]
    else settings.found (.sliceNotValid node.kind) none
  | .descend none, node => node.selfAndBeneath.map .ok
  | .descend (some name), node => (node.namedBeneath (· == name)).map .ok
  | .descendAny set, node => (node.namedBeneath set.contains).map .ok
  | .filter condition, node => keptNodes (condition.holds settings root) node.children
  | .descendFilter condition, node =>
    keptNodes (condition.holds settings root) node.selfAndBeneath

/-- Replaces every node by its results; a failure stays where it is. -/
def replaceNodes (results : Json → List Item) (items : List Item) : List Item :=
  items.flatMap fun item =>
    match item with
    | .ok node => results node
    | .error error => [.error error]

/-- Replaces the nodes of a list by the results of each step in turn. -/
def resultsFrom (settings : Settings) (root : Json) : List Step → List Item → List Item
  | [], items => items
  | step :: rest, items =>
    resultsFrom settings root rest (replaceNodes (settings.results root step) items)

/-- All results of the steps of a path for a node, those behind a failure included. -/
def eagerItems (settings : Settings) (steps : List Step) (root current : Json) : List Item :=
  resultsFrom settings root steps [.ok current]

/-! ## The lazy evaluation holds the eager results -/

@[simp] theorem toList_missing (settings : Settings) (error : SelectError) :
    (settings.missing error).toList = settings.found error none := by
  unfold Settings.missing Settings.found
  split <;> rfl

@[simp] theorem toList_lookup (settings : Settings) (error : SelectError)
    (value? : Option Json) :
    (settings.lookup error value?).toList = settings.found error value? := by
  cases value? with
  | none => exact toList_missing settings error
  | some value => rfl

theorem toList_keep
    (holds : Json → Except SelectError Bool) (nodes : LazyList Json) :
    (Step.keep holds nodes).toList = keptNodes holds nodes.toList := by
  unfold Step.keep keptNodes
  exact LazyList.toList_filterMap _ nodes

theorem toList_visitAll (node : Json) :
    node.visitAll.toList = node.selfAndBeneath := by
  simp [Json.visitAll, Json.selfAndBeneath]

theorem toList_visitNamed (accepts : String → Bool) (node : Json) :
    (node.visitNamed accepts).toList = node.namedBeneath accepts := by
  rw [Json.visitNamed, LazyList.toList_filterMap, Json.toList_visit_entries,
    Json.namedBeneath]
  congr 1
  funext entry
  obtain ⟨name, value⟩ := entry
  cases name with
  | none => rfl
  | some name => rfl

theorem toList_memberItems (settings : Settings) (root : Json) (name : Option String)
    (node : Json) :
    (settings.memberItems name node).toList = settings.results root (.member name) node := by
  cases node with
  | object members =>
      cases name with
      | none => simp [Settings.memberItems, Settings.results, Json.children, Json.entries]
      | some name => exact toList_lookup settings _ _
  | _ => cases name <;> exact toList_missing settings _

theorem toList_membersItems (settings : Settings) (root : Json) (names : List String)
    (node : Json) :
    (settings.membersItems names node).toList =
      settings.results root (.members names) node := by
  cases node with
  | object members =>
      simp only [Settings.membersItems, LazyList.toList_flatMap, LazyList.toList_ofList,
        toList_lookup, Settings.results]
  | _ => exact toList_missing settings _

theorem toList_elementItems (settings : Settings) (root : Json) (index : Option Int64)
    (node : Json) :
    (settings.elementItems index node).toList =
      settings.results root (.element index) node := by
  cases node with
  | array items =>
      cases index with
      | none => simp [Settings.elementItems, Settings.results]
      | some index => exact toList_lookup settings _ _
  | _ => cases index <;> exact toList_missing settings _

theorem toList_elementsItems (settings : Settings) (root : Json) (indices : List Int64)
    (node : Json) :
    (settings.elementsItems indices node).toList =
      settings.results root (.elements indices) node := by
  cases node with
  | array items =>
      simp only [Settings.elementsItems, LazyList.toList_flatMap, LazyList.toList_ofList,
        toList_lookup, Settings.results]
  | _ => exact toList_missing settings _

theorem toList_sliceItems (settings : Settings) (root : Json)
    (start stop stride : Option Int64) (node : Json) :
    (settings.sliceItems start stop stride node).toList =
      settings.results root (.slice start stop stride) node := by
  unfold Settings.sliceItems
  cases node with
  | array items =>
      simp only [Settings.results]
      split
      · rfl
      · split
        · rw [LazyList.toList_map, Slice.toList_elements _ (Slice.within_ofBounds _ _ _ _)]
          rfl
        · exact toList_missing settings _
  | _ =>
      simp only [Settings.results]
      split
      · rfl
      · exact toList_missing settings _

/-- Every step yields its results, each when it is asked for. -/
theorem toList_outputs (settings : Settings) (root : Json) (step : Step) (node : Json) :
    (step.outputs settings root node).toList = settings.results root step node := by
  cases step with
  | root => rfl
  | member name => exact toList_memberItems settings root name node
  | members names => exact toList_membersItems settings root names node
  | element index => exact toList_elementItems settings root index node
  | elements indices => exact toList_elementsItems settings root indices node
  | slice start stop stride => exact toList_sliceItems settings root start stop stride node
  | descend name =>
      rw [Step.outputs]
      cases name with
      | none => rw [Step.descendItems, LazyList.toList_map, toList_visitAll, Settings.results]
      | some name =>
          rw [Step.descendItems, LazyList.toList_map, toList_visitNamed, Settings.results]
  | descendAny set =>
      rw [Step.outputs, LazyList.toList_map, toList_visitNamed, Settings.results]
  | filter condition =>
      rw [Step.outputs, toList_keep, LazyList.toList_ofList, Settings.results]
  | descendFilter condition =>
      rw [Step.outputs, toList_keep, toList_visitAll, Settings.results]

theorem toList_applySteps (settings : Settings) (root : Json) (steps : List Step)
    (items : LazyList Item) :
    (applySteps settings root steps items).toList =
      resultsFrom settings root steps items.toList := by
  induction steps generalizing items with
  | nil => rw [applySteps, resultsFrom]
  | cons step rest ih =>
      rw [applySteps, ih, resultsFrom, LazyList.toList_flatMap]
      congr 1
      unfold replaceNodes
      congr 1
      funext item
      cases item with
      | ok node => exact toList_outputs settings root step node
      | error error => rfl

/-- The lazy evaluation of a path holds the eager items, in order. -/
theorem toList_evaluate (settings : Settings) (steps : List Step) (root current : Json) :
    (evaluate settings steps root current).toList =
      eagerItems settings steps root current := by
  rw [evaluate, toList_applySteps, eagerItems, LazyList.toList_single]

/-! ## Operands -/

/-- The first of some items, if there is one. -/
def firstItem (items : List Item) : Except SelectError (Option Json) :=
  match items.head? with
  | some (.ok node) => .ok (some node)
  | some (.error error) => .error error
  | none => .ok none

/-- The node of an operand that is a path is its first eager item. -/
theorem first_path (settings : Settings) (root : Json) (steps : List Step) (node : Json) :
    (Operand.path steps).first settings root node =
      firstItem (eagerItems settings steps root node) := by
  rw [Operand.first, Operand.firstOf, ← LazyList.head?_toList, toList_applySteps,
    LazyList.toList_single]
  rfl

end PathQuery
