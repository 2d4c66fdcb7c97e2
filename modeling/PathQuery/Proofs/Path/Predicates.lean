import PathQuery.Path.Grammar
import PathQuery.Proofs.Path.RegexText
import PathQuery.Proofs.Path.Written

/-!
# Reading predicates

The parts of a predicate are read one inside the other: an operand with the
blanks around it, a comparison or a group, and the conditions that a connective
joins.  Each lemma reads one part, given that the parts inside it are read.
-/

namespace PathQuery.Path

open Text

/-- The characters with which a predicate goes on behind a term. -/
def termMarks : List Char :=
  [')', '|', '&']

/-- The characters with which a predicate goes on behind an operand. -/
def operandMarks : List Char :=
  ['=', '<', '!', '>', '|', '&', ')']

/-- If a text goes on behind an operand: with a blank or a mark of the predicate. -/
def EndsOperand (text : List Char) : Prop :=
  ∃ c rest, text = c :: rest ∧ (isBlank c = true ∨ c ∈ operandMarks)

theorem termMarks_subset : termMarks ⊆ operandMarks := by
  decide

theorem isBlank_of_mem_operandMarks
    {mark : Char} (hmark : mark ∈ operandMarks) : isBlank mark = false := by
  simp only [operandMarks, List.mem_cons, List.not_mem_nil, or_false] at hmark
  rcases hmark with rfl | rfl | rfl | rfl | rfl | rfl | rfl <;> rfl

theorem endsComparison_of_mem_termMarks
    {mark : Char} (hmark : mark ∈ termMarks) : endsComparison mark = true := by
  simp only [termMarks, List.mem_cons, List.not_mem_nil, or_false] at hmark
  rcases hmark with rfl | rfl | rfl <;> rfl

/-- What may stand behind an operand belongs to no operand. -/
theorem endsOperand_char
    {c : Char} (hc : isBlank c = true ∨ c ∈ operandMarks) :
    isNameChar true c = false ∧ c ≠ '[' ∧ c ≠ '.' ∧ c.isAlpha = false ∧
      isNumberChar c = false := by
  simp only [isBlank, operandMarks, Bool.or_eq_true, beq_iff_eq, List.mem_cons,
    List.not_mem_nil, or_false] at hc
  rcases hc with ((((rfl | rfl) | rfl) | rfl) | rfl) | rfl | rfl | rfl | rfl | rfl | rfl | rfl <;>
    decide

theorem EndsOperand.char
    {text : List Char} (h : EndsOperand text) :
    ∀ c ∈ text.head?, isNameChar true c = false ∧ c ≠ '[' ∧ c ≠ '.' ∧ c.isAlpha = false ∧
      isNumberChar c = false := by
  obtain ⟨d, rest, rfl, hd⟩ := h
  intro c hc
  have hc : d = c := by simpa using hc
  subst hc
  exact endsOperand_char hd

/-- Blanks and then a mark may stand behind an operand. -/
theorem endsOperand_blanks
    {blanks : List Char} (hblanks : Blanks blanks) {mark : Char}
    (hmark : mark ∈ operandMarks) (rest : List Char) :
    EndsOperand (blanks ++ mark :: rest) := by
  cases blanks with
  | nil => exact ⟨mark, rest, rfl, Or.inr hmark⟩
  | cons c others =>
      exact ⟨c, others ++ mark :: rest, rfl, Or.inl (hblanks c List.mem_cons_self)⟩

theorem skipInside_blanks
    {blanks : List Char} (hblanks : Blanks blanks) {mark : Char}
    (hmark : isBlank mark = false) (rest : List Char) :
    skipInside (blanks ++ mark :: rest) = .ok (mark :: rest) := by
  rw [skipInside, skipBlanks_mark hblanks hmark]

section Predicates

variable {nested : Reader Condition} {rest : List Char}

/-! ## Operands -/

/-- An operand that begins like an index is a number. -/
theorem bareOperand_number
    {c : Char} (hc : isIndexChar c = true) :
    bareOperand nested (c :: rest) =
      (readNumber (c :: rest)).map fun (value, rest) => (.literal value, rest) := by
  have hother : ∀ d ∈ ['@', '$', '\'', '/'], c ≠ d := by
    rintro d hd rfl
    simp only [List.mem_cons, List.not_mem_nil, or_false] at hd
    rcases hd with rfl | rfl | rfl | rfl <;> exact absurd hc (by decide)
  rw [bareOperand, if_neg (hother '@' (by simp)), if_neg (hother '$' (by simp)),
    if_neg (hother '\'' (by simp)), if_neg (hother '/' (by simp)), if_pos hc]

/-- A constant is read from each of its texts. -/
theorem bareOperand_literal
    {value : Json} {text : List Char} (htext : LiteralText value text)
    (hrest : EndsOperand rest) :
    bareOperand nested (text ++ rest) = .ok (.literal value, rest) := by
  cases htext with
  | null => simp [bareOperand, readWord, isIndexChar]
  | true => simp [bareOperand, readWord, isIndexChar]
  | false => simp [bareOperand, readWord, isIndexChar]
  | @number number text hnumber =>
      have hread : readNumber (text ++ rest) = .ok (.number number, rest) := by
        obtain ⟨numeral, hnumeral, hvalue⟩ := id hnumber
        have hchars : ∀ c ∈ text, isNumberChar c = true := by
          intro c hc
          rcases hnumeral.chars c hc with hdigit | hsign
          · simp [isNumberChar, hdigit]
          · simp only [List.mem_cons, List.not_mem_nil, or_false] at hsign
            rcases hsign with rfl | rfl | rfl | rfl | rfl <;> rfl
        have hstop : ∀ c ∈ rest.head?, isNumberChar c = false :=
          fun c hc => (hrest.char c hc).2.2.2.2
        rw [readNumber]
        simp only [takeWhile_run hchars hstop, dropWhile_run hchars hstop,
          Number.ofText?_text hnumber]
      obtain ⟨numeral, hnumeral, hvalue⟩ := hnumber
      obtain ⟨c, others, rfl, hindex⟩ := exists_indexChar hnumeral
      rw [List.cons_append] at hread ⊢
      rw [bareOperand_number hindex, hread]
      rfl
  | @string value text hquoted =>
      rw [List.cons_append, List.append_assoc, List.singleton_append]
      simp [bareOperand, quoted_text hquoted, Except.map]

/-- A regular expression is read from its text. -/
theorem bareOperand_regex
    {literal : RegexLiteral} (hliteral : literal.IsDelimited) (hrest : EndsOperand rest) :
    bareOperand nested (literal.text.toList ++ rest) = .ok (.regex literal, rest) := by
  obtain ⟨text, htext, hread⟩ := readRegex_text hliteral
  have hstop : ∀ c ∈ rest.head?, c.isAlpha = false := fun c hc => (hrest.char c hc).2.2.2.1
  rw [htext, List.cons_append]
  simp [bareOperand, hread rest hstop, Except.map]

/-- The path of an operand is read by the reader of segments. -/
theorem operandPath_segments
    {first steps : List Step} {text : List Char}
    (hread : segments nested true (text ++ rest).length false .start (text ++ rest) =
      .ok (steps, rest)) :
    operandPath nested first (text ++ rest) = .ok (.path (first ++ steps), rest) := by
  rw [operandPath, hread]
  rfl

/-- An operand is read with the blanks around it, up to a mark behind them. -/
theorem operand_spaced
    {side : Operand} {text spaced : List Char} {c mark : Char} {others : List Char}
    (hread : ∀ rest, EndsOperand rest → bareOperand nested (text ++ rest) = .ok (side, rest))
    (htext : text = c :: others) (hc : isBlank c = false) (hspaced : Spaced text spaced)
    (hmark : mark ∈ operandMarks) :
    operand nested (spaced ++ mark :: rest) = .ok (side, mark :: rest) := by
  subst htext
  obtain ⟨after, hafter, hskip⟩ := hspaced.skip hc
  have hblank : isBlank mark = false := isBlank_of_mem_operandMarks hmark
  rw [operand, hskip, ← List.cons_append, hread _ (endsOperand_blanks hafter hmark rest)]
  simp only [bind, Except.bind, skipInside_blanks hafter hblank]

/-! ## Terms -/

/-- A term that begins with no parenthesis is a comparison. -/
theorem term_comparison
    {text : List Char} (htext : (skipBlanks text).head? ≠ some '(') :
    term nested text = (do
      let (left, rest) ← operand nested text
      if rest.head?.any endsComparison then .ok (.comparison .present left none, rest)
      else
        let (operator, rest) ← readOperator rest
        let (right, rest) ← operand nested rest
        .ok (.comparison operator left (some right), rest)) := by
  have hskip : operand nested (skipBlanks text) = operand nested text := by
    rw [operand, operand, skipBlanks_skipBlanks]
  rw [term]
  split
  next hshape =>
    rw [hshape] at htext
    exact absurd rfl htext
  next => rw [hskip]

/-- A group is read by the reader of the predicate inside it. -/
theorem term_grouped
    {condition : Condition} {inside text : List Char} {mark : Char}
    (hread : ∀ rest, nested (inside ++ ')' :: rest) = .ok (condition, ')' :: rest))
    (hspaced : Spaced ('(' :: (inside ++ [')'])) text) (hmark : isBlank mark = false) :
    term nested (text ++ mark :: rest) = .ok (condition, mark :: rest) := by
  obtain ⟨after, hafter, hskip⟩ := hspaced.skip (by decide)
  rw [term, hskip, List.append_assoc, List.singleton_append]
  simp only [hread, bind, Except.bind, closeParenthesis, skipInside_blanks hafter hmark]

/-! ## Joined conditions -/

section Joined

variable {item : Reader Condition} {mark : Char} {text more : List Char}
  {condition : Condition} {conditions : List Condition}

/-- The last condition is followed by something else than the mark. -/
theorem joined_last
    {c : Char} (hitem : item text = .ok (condition, c :: rest)) (hc : c ≠ mark)
    (rounds : Nat) :
    joined item mark (rounds + 1) text = .ok ([condition], c :: rest) := by
  rw [joined, hitem]
  simp only [bind, Except.bind, if_neg hc]

/-- A doubled mark is followed by the other conditions. -/
theorem joined_more
    {rounds : Nat} (hitem : item text = .ok (condition, mark :: mark :: more))
    (hmore : joined item mark rounds more = .ok (conditions, rest)) :
    joined item mark (rounds + 1) text = .ok (condition :: conditions, rest) := by
  rw [joined, hitem]
  simp only [bind, Except.bind, if_pos, hmore]

end Joined

end Predicates

end PathQuery.Path
