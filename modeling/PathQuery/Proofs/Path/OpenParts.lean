import PathQuery.Proofs.Path.Diagnosis
import PathQuery.Proofs.Path.Raised

/-!
# Open parts

A part that is open ends with its text, so its fault is at the end of the text.  The one
exception is an operator, which is given up where a single byte is left to read.
-/

namespace PathQuery.Path

section OpenParts

variable {text : String} {failure : Failure}

/-- What nothing is left of is found at the end of the text. -/
theorem locate_end (h : failure.rest = []) :
    (failure.locate text.toList).position = text.utf8ByteSize := by
  rw [Failure.locate, h, byteLength_toList]
  exact Nat.sub_zero _

/-- What a single byte is left of is found one byte before the end of the text. -/
theorem locate_lastByte {c : Char} (h : failure.rest = [c]) (hc : c.utf8Size = 1)
    (hend : [c] <:+ text.toList) :
    (failure.locate text.toList).position + 1 = text.utf8ByteSize := by
  obtain ⟨before, hbefore⟩ := hend
  rw [Failure.locate, h, ← byteLength_toList, ← hbefore, Text.byteLength_append,
    Text.byteLength_cons, Text.byteLength_nil, hc]
  exact congrArg (· + 1) (Nat.add_sub_cancel _ _)

/-- An open part is found at the end of the text, or by an operator with a byte to read. -/
theorem Call.Raises.open_cases {call : Call} (h : call.Raises failure) (hsized : call.Sized)
    (hopen : failure.fault.isOpen = true) :
    failure.rest = [] ∨
      ∃ c, c.utf8Size = 1 ∧ call = ⟨.operator, [c]⟩ ∧ failure = ⟨.openPredicate, [c]⟩ := by
  obtain ⟨construct, text⟩ := call
  by_cases hoperator : construct = .operator
  · subst hoperator
    obtain ⟨fault, rest⟩ := failure
    obtain ⟨rfl, -, hlast⟩ := readOperator_eq_error (map_eq_error_iff.1 h.1)
    obtain ⟨rfl, rfl | ⟨c, hc, rfl⟩⟩ := hlast hopen
    · exact .inl rfl
    · exact .inr ⟨c, hc, rfl, rfl⟩
  · exact .inl ((h.finds hsized hoperator).at_end hopen)

/-- No operator is read where a single byte is left. -/
theorem readOperator_lastByte {c : Char} (hc : c.utf8Size = 1) :
    ∃ failure, readOperator [c] = .error failure := by
  by_cases hbracket : c = ']'
  · subst hbracket
    exact ⟨_, rfl⟩
  · rw [readOperator]
    · rw [List.isEmpty_nil, hc, if_pos (by rfl)]
      exact ⟨_, rfl⟩
    · exact hbracket

/-- A part that is open where a path text is refused ends with the text, and the place that is
blamed is the end of the text.  There is one exception, a predicate that is open one byte
earlier: it is met if and only if an operator is looked for where one byte is left. -/
theorem open_part_position {error : ParseError} (herror : parse text = .error error)
    (hopen : error.fault.isOpen = true) :
    (error.position = text.utf8ByteSize ∨
      error.fault = .openPredicate ∧ error.position + 1 = text.utf8ByteSize) ∧
    (error.position + 1 = text.utf8ByteSize ↔
      ∃ c, c.utf8Size = 1 ∧
        Relation.ReflTransGen Calls ⟨.path, text.toList⟩ ⟨.operator, [c]⟩) := by
  obtain ⟨call, failure, hreached, hraises, rfl⟩ := exists_raises_of_parse herror
  have hcases := hraises.open_cases (sized_of_reached hreached) hopen
  refine ⟨?_, ?_, ?_⟩
  · rcases hcases with hrest | ⟨c, hc, rfl, rfl⟩
    · exact .inl (locate_end hrest)
    · exact .inr ⟨rfl, locate_lastByte rfl hc (suffix_of_reached hreached)⟩
  · intro hposition
    rcases hcases with hrest | ⟨c, hc, rfl, -⟩
    · rw [locate_end hrest] at hposition
      exact absurd hposition (Nat.succ_ne_self _)
    · exact ⟨c, hc, hreached⟩
  · rintro ⟨c, hc, hoperator⟩
    obtain ⟨found, hread⟩ := readOperator_lastByte hc
    have hparse := parse_eq_error_of_reached hoperator (map_eq_error_iff.2 hread)
    rw [← Except.error.inj (hparse.symm.trans herror)]
    exact locate_lastByte (readOperator_eq_error hread).1 hc (suffix_of_reached hoperator)

end OpenParts

/-- A constant in a predicate in brackets, all three of them open. -/
theorem open_part_position_string :
    parse "a[?(@.b == 'c" = .error ⟨.openString, 13⟩ ∧
      (13 = "a[?(@.b == 'c".utf8ByteSize ∨
        Fault.openString = .openPredicate ∧ 13 + 1 = "a[?(@.b == 'c".utf8ByteSize) := by
  have hfound : (parse "a[?(@.b == 'c").map (fun _ => ()) = .error ⟨.openString, 13⟩ := by
    decide +kernel
  have hparse := map_eq_error_iff.1 hfound
  exact ⟨hparse, (open_part_position hparse rfl).1⟩

/-- Not every open part is found at the end of the text: an operator of one byte is not read
where the text ends behind it. -/
theorem not_open_part_at_end :
    ¬ ∀ (text : String) (error : ParseError), parse text = .error error →
      error.fault.isOpen = true → error.position = text.utf8ByteSize := by
  intro h
  have hfound : (parse "[?(@.a=").map (fun _ => ()) = .error ⟨.openPredicate, 6⟩ := by
    decide +kernel
  have hposition := h _ _ (map_eq_error_iff.1 hfound) rfl
  exact absurd hposition (by decide)

end PathQuery.Path
