import PathQuery.Path.Grammar
import PathQuery.Path.Listing
import PathQuery.Path.Same

/-!
# Paths

A path keeps the text it was read from along with its steps.
-/

namespace PathQuery

/-- The place of a failure in a text. -/
def Path.Failure.locate (failure : Path.Failure) (text : List Char) : ParseError where
  fault := failure.fault
  position := Text.byteLength text - Text.byteLength failure.rest

/-- The steps of a path text. -/
def Path.stepsOf (text : String) : Except ParseError (List Step) :=
  (Path.readSteps text.toList).mapError (·.locate text.toList)

/-- A path: its text and the steps that the text stands for. -/
structure Path where
  text : String
  steps : List Step

namespace Path

/-- Reads a path. -/
def parse (text : String) : Except ParseError Path :=
  (stepsOf text).map fun steps => ⟨text, steps⟩

/-- If two paths have the same text and the same steps. -/
def same (a b : Path) : Bool :=
  a.text == b.text && sameSteps a.steps b.steps

/-- The listing of the steps of a path. -/
def listing (path : Path) : Json :=
  .array (listSteps path.steps)

/-- The listing of a path with its text. -/
def toJson (path : Path) : Json :=
  .object [("text", .string path.text), ("filters", path.listing)]

end Path

end PathQuery
