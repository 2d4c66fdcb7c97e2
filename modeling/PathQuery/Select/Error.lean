import PathQuery.Json.Basic
import PathQuery.Regex.Literal

/-!
# Failed selections

A selection fails at most once.  A node that is missing is a failure only where
the settings ask for it; the other failures do not depend on the settings.
-/

namespace PathQuery

/-- Why a selection failed. -/
inductive SelectError
  | multipleResults
  | memberNotFound (name : String)
  | memberNotValid (name : Option String) (kind : Kind)
  | membersNotValid (names : List String) (kind : Kind)
  | indexOutOfBounds (index : Int64)
  | indexNotValid (index : Option Int64) (kind : Kind)
  | sliceNotValid (kind : Kind)
  | emptySlice (start stop : Option Int64)
  | zeroStride
  | regexTimeout (pattern : String) (limit : Nat)
  | invalidRegex (text : String) (reason : RegexFault)
deriving DecidableEq

namespace SelectError

/-- The text of an index. -/
def indexText (index : Int64) : String :=
  String.ofList (Number.integerText index.toInt)

/-- A name, or a star for all of them. -/
def nameOrStar : Option String → String
  | some name => name
  | none => "*"

/-- An index, or a star for all of them. -/
def indexOrStar : Option Int64 → String
  | some index => indexText index
  | none => "*"

/-- Names between quotes, with commas between them. -/
def quotedNames (names : List String) : String :=
  String.intercalate ", " (names.map fun name => "'" ++ name ++ "'")

/-- A time in whole milliseconds. -/
def milliseconds (nanoseconds : Nat) : String :=
  String.ofList (Nat.toDigits 10 (nanoseconds / 1000000))

/-- The words for a failure. -/
def message : SelectError → String
  | multipleResults => "Path returned multiple tokens."
  | memberNotFound name => "Property '" ++ name ++ "' does not exist on object."
  | memberNotValid name kind =>
    "Property '" ++ nameOrStar name ++ "' not valid on " ++ kind.name ++ "."
  | membersNotValid names kind =>
    "Properties " ++ quotedNames names ++ " not valid on " ++ kind.name ++ "."
  | indexOutOfBounds index => "Index " ++ indexText index ++ " outside the bounds of array."
  | indexNotValid index kind =>
    "Index " ++ indexOrStar index ++ " not valid on " ++ kind.name ++ "."
  | sliceNotValid kind => "Array slice is not valid on " ++ kind.name ++ "."
  | emptySlice start stop =>
    "Array slice of " ++ indexOrStar start ++ " to " ++ indexOrStar stop ++
      " returned no results."
  | zeroStride => "Step cannot be zero."
  | regexTimeout pattern limit =>
    "Regex match timed out after " ++ milliseconds limit ++ "ms: /" ++ pattern ++ "/"
  | invalidRegex text reason => "Invalid regex " ++ text ++ ": " ++ reason.message

end SelectError

end PathQuery
