import PathQuery.Proofs.Path.CursorGrammar

/-!
# Safe reading and true diagnoses

A cursor that goes through the bytes of a path text always has an answer: no cut is out
of bounds or inside of a character, and no loop goes on for ever.  The answer is that of
the grammar.  Where a text is refused, the place that is blamed is between two characters,
and the fault can be read off the text that begins there.
-/

namespace PathQuery.Path

theorem byteLength_toList (text : String) : Text.byteLength text.toList = text.utf8ByteSize := by
  have hofList : ∀ chars, (String.ofList chars).utf8ByteSize = Text.byteLength chars := by
    intro chars
    induction chars with
    | nil => rfl
    | cons c chars ih =>
        rw [← List.singleton_append, String.ofList_append, String.utf8ByteSize_append, ih,
          ← String.singleton_eq_ofList, String.utf8ByteSize_singleton, List.singleton_append,
          Text.byteLength_cons]
  rw [← hofList, String.ofList_toList]

/-- The cursor has an answer for every text, and it is that of the reader. -/
theorem scanSteps_eq (text : String) : scanSteps text = some (stepsOf text) := by
  rw [scanSteps, Cursor.readSteps_follows, stepsOf]
  cases readSteps text.toList with
  | error failure => rfl
  | ok steps => rfl

/-- The steps of a text are those of its path. -/
theorem stepsOf_eq (text : String) : stepsOf text = (parse text).map (·.steps) := by
  rw [parse]
  cases stepsOf text with
  | error error => rfl
  | ok steps => rfl

/-- A place that is blamed parts the text in two, and what is behind it bears the fault
out. -/
theorem exists_of_stepsOf_error {text : String} {error : ParseError}
    (h : stepsOf text = .error error) :
    ∃ before after : String, text = before ++ after ∧ error.position = before.utf8ByteSize ∧
      error.fault.BornOutBy after.toList := by
  have hanchored := readSteps_anchored text.toList
  rw [stepsOf] at h
  cases hread : readSteps text.toList with
  | ok steps =>
      rw [hread] at h
      cases h
  | error failure =>
      rw [hread] at h hanchored
      cases h
      obtain ⟨⟨front, hfront⟩, hfault⟩ := hanchored
      refine ⟨String.ofList front, String.ofList failure.rest, ?_, ?_, ?_⟩
      · rw [← String.ofList_append, hfront, String.ofList_toList]
      · change placeOf text.toList failure.rest = _
        rw [← hfront, placeOf_append, ← byteLength_toList, String.toList_ofList]
      · rwa [String.toList_ofList]

/-- A path text is read byte by byte without a cut that is out of bounds or inside of a
character, with the outcome that the grammar gives.  If it is refused, then at a place
that is not beyond its end and not inside of a character, and the text behind the place
begins with the character, the bracket or the token that the fault tells of. -/
theorem parse_is_safe (text : String) :
    scanSteps text = some ((parse text).map (·.steps)) ∧
      ∀ error, parse text = .error error →
        error.position ≤ text.utf8ByteSize ∧
          ∃ before after : String, text = before ++ after ∧
            error.position = before.utf8ByteSize ∧ error.fault.BornOutBy after.toList := by
  constructor
  · rw [scanSteps_eq, stepsOf_eq]
  · intro error herror
    have hsteps : stepsOf text = .error error := by
      rw [stepsOf_eq, herror]
      rfl
    obtain ⟨before, after, htext, hposition, hfault⟩ := exists_of_stepsOf_error hsteps
    refine ⟨?_, before, after, htext, hposition, hfault⟩
    rw [hposition, htext, String.utf8ByteSize_append]
    exact Nat.le_add_right _ _

/-- A wide character is blamed as a whole, at its first byte. -/
theorem parse_is_safe_wide :
    scanSteps "é[ü" = some (.error ⟨.unexpectedCharacter .indexer 'ü', 3⟩) ∧
      ∃ before after : String, "é[ü" = before ++ after ∧ 3 = before.utf8ByteSize ∧
        after.toList.head? = some 'ü' := by
  have hparse : parse "é[ü" = .error ⟨.unexpectedCharacter .indexer 'ü', 3⟩ := by rfl
  obtain ⟨hscan, herror⟩ := parse_is_safe "é[ü"
  refine ⟨?_, (herror _ hparse).2⟩
  rw [hscan, hparse]
  rfl

end PathQuery.Path
