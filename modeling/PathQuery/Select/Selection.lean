import PathQuery.Path.Basic
import PathQuery.Select.Evaluate

/-!
# Selections

A selection hands out the items of an evaluation one at a time and ends behind
the first failure.  The functions that select everything or at most one node
are written with it.
-/

namespace PathQuery

/-- A selection: the items that are still to come, and whether it has ended. -/
structure Selection where
  items : LazyList Item
  done : Bool

namespace Selection

/-- The next item with the selection behind it; a selection that has ended stays
so. -/
def next (selection : Selection) : Option Item × Selection :=
  if selection.done then (none, selection)
  else
    match selection.items with
    | .cons (.ok node) tail => (some (.ok node), ⟨tail (), false⟩)
    | .cons (.error error) tail => (some (.error error), ⟨tail (), true⟩)
    | .nil => (none, ⟨.nil, true⟩)

/-- The nodes of some items up to the first failure, or that failure. -/
def collect : LazyList Item → Except SelectError (List Json)
  | .nil => .ok []
  | .cons (.ok node) tail => (collect (tail ())).map (node :: ·)
  | .cons (.error error) _ => .error error

/-- All nodes that are still to come, or the failure among them. -/
def nodes (selection : Selection) : Except SelectError (List Json) :=
  if selection.done then .ok [] else collect selection.items

/-- The only node that is still to come, if there is one; the first two items
decide. -/
def one (selection : Selection) : Except SelectError (Option Json) := do
  let (first, selection) := selection.next
  match first with
  | none => return none
  | some item =>
    let node ← item
    match selection.next.1 with
    | none => return some node
    | some item =>
      let _ ← item
      throw .multipleResults

/-- What a selection shows of itself. -/
def describe (selection : Selection) : String :=
  if selection.done then "Selection \x7b done: true, .. \x7d"
  else "Selection \x7b done: false, .. \x7d"

end Selection

namespace Path

/-- Selects from a node of a document. -/
def selectFrom (path : Path) (settings : Settings) (root current : Json) : Selection :=
  ⟨evaluate settings path.steps root current, false⟩

/-- Selects from a document. -/
def select (path : Path) (settings : Settings) (root : Json) : Selection :=
  path.selectFrom settings root root

/-- Every node that a path selects from a document. -/
def selectAll (path : Path) (settings : Settings) (root : Json) :
    Except SelectError (List Json) :=
  (path.select settings root).nodes

/-- The only node that a path selects from a document, if there is one. -/
def selectOne (path : Path) (settings : Settings) (root : Json) :
    Except SelectError (Option Json) :=
  (path.select settings root).one

end Path

end PathQuery
