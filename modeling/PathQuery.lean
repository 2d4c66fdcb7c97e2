import PathQuery.Main
import PathQuery.Proofs.Select.Eager
import PathQuery.Proofs.Select.Preorder
import PathQuery.Proofs.Select.SlicePlaces
import PathQuery.Proofs.Select.Agreement
import PathQuery.Proofs.Select.Sequence
import PathQuery.Proofs.Select.Strictness
import PathQuery.Proofs.Path.Parts
import PathQuery.Proofs.Select.Causes
import PathQuery.Proofs.Number.NumeralText
import PathQuery.Proofs.Number.NumeralReading
import PathQuery.Proofs.Path.Indexers
import PathQuery.Proofs.Path.Phrases
import PathQuery.Proofs.Path.RoundTrip
import PathQuery.Proofs.Path.Writing
import PathQuery.Proofs.Select.Composition
import PathQuery.Proofs.Select.DescentOrder
import PathQuery.Proofs.Path.Cursor
import PathQuery.Proofs.Path.Remainders
import PathQuery.Proofs.Path.Bytes
import PathQuery.Proofs.Path.CursorTokens
import PathQuery.Proofs.Path.CursorConstants
import PathQuery.Proofs.Path.CursorGrammar
import PathQuery.Proofs.Path.Diagnosis
import PathQuery.Proofs.Path.Extension
import PathQuery.Proofs.Path.Continuation
import PathQuery.Proofs.Path.Concatenation
import PathQuery.Proofs.Select.Picks
import PathQuery.Proofs.Select.Selected
import PathQuery.Proofs.Select.SelectionOrder
import PathQuery.Proofs.Select.Multiplicity
import PathQuery.Proofs.Json.DistinctNames
import PathQuery.Proofs.Select.DescentSteps
import PathQuery.Proofs.Select.Uncompiled
import PathQuery.Proofs.Select.Offspring
import PathQuery.Proofs.Select.TimeLimit
import PathQuery.Proofs.Select.Rootless
import PathQuery.Proofs.Select.Inside
import PathQuery.Proofs.Path.Accepted
import PathQuery.Proofs.Path.FinalFaults
import PathQuery.Proofs.Path.FinalErrors
import PathQuery.Proofs.Path.LeadingBlanks
import PathQuery.Proofs.Path.BlankEnds
import PathQuery.Proofs.Path.TrailingBlanks
import PathQuery.Proofs.Path.OperandPaths
import PathQuery.Proofs.Select.SliceRange
import PathQuery.Proofs.Select.SliceCursor
import PathQuery.Proofs.Path.ArrayIndexers
import PathQuery.Proofs.Path.DottedNames
import PathQuery.Proofs.Command.Effects
import PathQuery.Proofs.Path.LiteralEnd
import PathQuery.Proofs.Number.Rounding
import PathQuery.Proofs.Number.ExactOrder
import PathQuery.Proofs.Select.Comparisons
import PathQuery.Proofs.Select.Regrouping
import PathQuery.Proofs.Select.Reordering
import PathQuery.Proofs.Select.KindOrder
import PathQuery.Proofs.Select.QuotedNumbers
import PathQuery.Proofs.Select.Unions
import PathQuery.Proofs.Select.DefinitePaths
import PathQuery.Proofs.Path.Calls
import PathQuery.Proofs.Path.Raised
import PathQuery.Proofs.Path.OpenParts
import PathQuery.Proofs.Path.Contexts
import PathQuery.Proofs.Number.PrintedNumbers
import PathQuery.Proofs.Json.CompactText
import PathQuery.Proofs.Command.CompactLines
import PathQuery.Proofs.Json.PrettyText
import PathQuery.Proofs.Path.Listed
import PathQuery.Proofs.Select.SameSteps
import PathQuery.Proofs.Command.Explained
import PathQuery.Proofs.Path.RoutineAnswers
import PathQuery.Proofs.Path.RoutineCalls
import PathQuery.Proofs.Path.Advance
