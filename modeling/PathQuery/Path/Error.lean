import PathQuery.Regex.Literal

/-!
# Malformed paths

A path text that is refused has one fault, found at one place.
-/

namespace PathQuery

/-- The part of a path that was being read. -/
inductive Context
  | path
  | indexer
  | predicate
deriving DecidableEq

/-- The name of a context in messages. -/
def Context.name : Context → String
  | path => "path"
  | indexer => "path indexer"
  | predicate => "path query"

/-- What is wrong with a path text. -/
inductive Fault
  | unexpectedCharacter (context : Context) (character : Char)
  | unexpectedAfterIndexer (character : Char)
  | unexpectedEnd
  | openIndexer
  | openPredicate
  | openString
  | openRegex
  | indexExpected
  | invalidIndex (text : String)
  | unknownEscape (character : Char)
  | unknownOperator
  | invalidNumber (text : String)
  | invalidRegex (text : String) (reason : RegexFault)
deriving DecidableEq

namespace Fault

/-- The part of the grammar that a fault belongs to. -/
def context : Fault → Context
  | unexpectedCharacter context _ => context
  | unexpectedAfterIndexer _ | unexpectedEnd => .path
  | openIndexer | indexExpected | invalidIndex _ | openString | unknownEscape _ => .indexer
  | openPredicate | openRegex | unknownOperator | invalidNumber _ | invalidRegex _ _ =>
    .predicate

/-- The words for a fault. -/
def message : Fault → String
  | unexpectedCharacter context c =>
    "Unexpected character while parsing " ++ context.name ++ ": " ++ c.toString
  | unexpectedAfterIndexer c => "Unexpected character following indexer: " ++ c.toString
  | unexpectedEnd => "Unexpected end while parsing path."
  | openIndexer => "Path ended with open indexer."
  | openPredicate => "Path ended with open query."
  | openString => "Path ended with an open string."
  | openRegex => "Path ended with an open regex."
  | indexExpected => "Array index expected."
  | invalidIndex text => "Invalid array index: " ++ text
  | unknownEscape c => "Unknown escape character: \\" ++ c.toString
  | unknownOperator => "Could not read query operator."
  | invalidNumber text => "Invalid number literal: " ++ text
  | invalidRegex text reason => "Invalid regex literal " ++ text ++ ": " ++ reason.message

end Fault

/-- A fault and its place, in bytes of the UTF-8 form of the path text. -/
structure ParseError where
  fault : Fault
  position : Nat
deriving DecidableEq

end PathQuery
