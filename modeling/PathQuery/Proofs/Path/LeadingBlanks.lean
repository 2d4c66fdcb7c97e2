import PathQuery.Proofs.Path.Concatenation

/-!
# Blanks in front of a path

A path text with blanks in front of it is read as the text alone is.  What changes is where
the text stands: every place that is blamed is further on by the length of the blanks, for
the reader of the grammar as for the cursor that counts the bytes it has passed.
-/

namespace PathQuery

/-- The same fault at a place that is further on. -/
def ParseError.movedBy (error : ParseError) (bytes : Nat) : ParseError where
  fault := error.fault
  position := error.position + bytes

namespace Path

/-- What is in front of a text moves the places in it on by its length. -/
theorem locate_append {failure : Failure} {text : List Char} (h : failure.rest <:+ text)
    (front : List Char) :
    failure.locate (front ++ text) = (failure.locate text).movedBy (Text.byteLength front) := by
  have hlength := byteLength_le_of_suffix h
  have hposition : Text.byteLength (front ++ text) - Text.byteLength failure.rest =
      Text.byteLength text - Text.byteLength failure.rest + Text.byteLength front := by
    rw [Text.byteLength_append]
    omega
  rw [Failure.locate, Failure.locate, ParseError.movedBy, hposition]

/-- The steps and the faults of a text are found behind the blanks in front of it. -/
theorem stepsOf_blanks_append {blanks : String} (hblanks : Text.Blanks blanks.toList)
    (text : String) :
    stepsOf (blanks ++ text) = (stepsOf text).mapError (·.movedBy blanks.utf8ByteSize) := by
  have hread : readSteps (blanks.toList ++ text.toList) = readSteps text.toList :=
    readSteps_congr (Text.skipBlanks_append hblanks text.toList)
  have hanchored := readSteps_anchored text.toList
  rw [stepsOf, stepsOf, String.toList_append, hread]
  cases hsteps : readSteps text.toList with
  | error failure =>
      rw [hsteps] at hanchored
      simp only [Except.mapError, locate_append hanchored.1, byteLength_toList]
  | ok steps => rfl

/-- Blanks in front of a path text mean nothing.  With them the text is accepted with the
same steps, or it is refused for the same fault, at the place that is further on by their
length; and so it is for a cursor in the bytes of the text. -/
theorem parse_blanks_append {blanks : String} (hblanks : Text.Blanks blanks.toList)
    (text : String) :
    (∀ steps, parse (blanks ++ text) = .ok ⟨blanks ++ text, steps⟩ ↔
        parse text = .ok ⟨text, steps⟩) ∧
      (∀ error, parse text = .error error →
        parse (blanks ++ text) = .error (error.movedBy blanks.utf8ByteSize)) ∧
      scanSteps (blanks ++ text) =
        (scanSteps text).map (·.mapError (·.movedBy blanks.utf8ByteSize)) := by
  have hsteps := stepsOf_blanks_append hblanks text
  refine ⟨?_, ?_, ?_⟩
  · intro steps
    rw [parse, parse, hsteps]
    cases stepsOf text with
    | error error => simp [Except.map, Except.mapError]
    | ok found => simp [Except.map, Except.mapError]
  · intro error herror
    rw [parse, hsteps]
    rw [parse] at herror
    cases htext : stepsOf text with
    | error error' =>
        rw [htext] at herror
        cases herror
        rfl
    | ok found =>
        rw [htext] at herror
        cases herror
  · rw [scanSteps_eq, scanSteps_eq, hsteps]
    rfl

/-- A fault behind a wide character, with a tab and a line feed in front of the path. -/
theorem parse_blanks_append_index :
    parse ("\t\n" ++ "$.é[0, 9x]") = .error ⟨.unexpectedCharacter .indexer 'x', 11⟩ := by
  have hblanks : Text.Blanks "\t\n".toList := by decide
  have herror : parse "$.é[0, 9x]" = .error ⟨.unexpectedCharacter .indexer 'x', 9⟩ := by rfl
  exact (parse_blanks_append hblanks _).2.1 _ herror

end Path

end PathQuery
