import PathQuery.Proofs.Path.Indexers
import PathQuery.Proofs.Path.Predicates
import PathQuery.Proofs.Path.Segments

/-!
# Reading phrases

Every phrase is read from each of its texts, whatever stands behind it that may.
The readers are bounded: a predicate reads others only up to a depth, and segments
are read in a number of rounds.  The length of a text is enough for both, since
each predicate stands behind a parenthesis and each segment behind a mark.

Each lemma here reads one form of a phrase, given that the phrases inside it are
read.
-/

namespace PathQuery.Path

open Text

/-! ## Dotted names -/

theorem trimEnd_of_last
    {text : List Char} (h : ∀ c ∈ text.getLast?, isWhiteSpace c = false) :
    trimEnd text = text := by
  rw [trimEnd]
  cases hreverse : text.reverse with
  | nil => simpa using hreverse.symm
  | cons c rest =>
      have hlast : isWhiteSpace c = false := by
        apply h
        rw [← List.head?_reverse, hreverse]
        rfl
      rw [List.dropWhile_cons_of_neg (by simp [hlast]), ← hreverse, List.reverse_reverse]

theorem PlainName.chars
    {inPredicate : Bool} {name : String} (h : PlainName inPredicate name) :
    ∀ c ∈ name.toList, isNameChar inPredicate c = true := by
  intro c hc
  obtain ⟨hblank, hmarks⟩ := h.inner c hc
  have hoperators := fun hpredicate => h.operators hpredicate c hc
  simp only [List.mem_cons, List.not_mem_nil, or_false, not_or] at hmarks hoperators
  cases inPredicate with
  | false => simp [isNameChar, hblank, hmarks]
  | true => simp [isNameChar, hblank, hmarks, hoperators]

theorem DottedText.nonempty
    {inPredicate : Bool} {name : Option String} {segment : List Char}
    (h : DottedText inPredicate name segment) : segment ≠ [] := by
  cases h with
  | every => simp
  | plain hname => exact hname.nonempty

theorem DottedText.chars
    {inPredicate : Bool} {name : Option String} {segment : List Char}
    (h : DottedText inPredicate name segment) :
    ∀ c ∈ segment, isNameChar inPredicate c = true := by
  cases h with
  | every =>
      intro c hc
      obtain rfl := List.mem_singleton.mp hc
      cases inPredicate with
      | false => rfl
      | true => rfl
  | plain hname => exact hname.chars

/-- A dotted segment denotes its name. -/
theorem DottedText.dottedName
    {inPredicate : Bool} {name : Option String} {segment : List Char}
    (h : DottedText inPredicate name segment) : dottedName segment = name := by
  cases h with
  | every => rfl
  | plain hname =>
      unfold Path.dottedName
      rw [trimEnd_of_last hname.last, if_neg hname.not_star, String.ofList_toList]

/-! ## Where phrases begin -/

/-- The segments of a path are none, or begin with a dot or a bracket. -/
theorem Written.segments_head
    {inPredicate : Bool} {steps : List Step} {text : List Char}
    (h : Written (.segments inPredicate steps) text) :
    (text = [] ∧ steps = []) ∨ ∃ c rest, text = c :: rest ∧ (c = '.' ∨ c = '[') := by
  cases h with
  | noSegments => exact Or.inl ⟨rfl, rfl⟩
  | @dotted _ descending _ _ _ _ _ _ =>
      right
      cases descending with
      | false => exact ⟨'.', _, rfl, Or.inl rfl⟩
      | true => exact ⟨'.', _, rfl, Or.inl rfl⟩
  | bracketed hdots _ _ =>
      right
      cases hdots with
      | none => exact ⟨'[', _, rfl, Or.inr rfl⟩
      | one => exact ⟨'.', _, rfl, Or.inl rfl⟩
      | two => exact ⟨'.', _, rfl, Or.inl rfl⟩

/-- What may stand behind the segments of a path. -/
structure EndsPath (inPredicate : Bool) (text : List Char) : Prop where
  noName : NoName inPredicate text
  noBracket : text.head? ≠ some '['
  noDot : text.head? ≠ some '.'

/-- Blanks end a path. -/
theorem endsPath_blanks
    {blanks : List Char} (hblanks : Blanks blanks) (inPredicate : Bool) :
    EndsPath inPredicate blanks := by
  have hfirst : ∀ c ∈ blanks.head?, isBlank c = true :=
    fun c hc => hblanks c (List.mem_of_mem_head? hc)
  refine ⟨?_, ?_, ?_⟩
  · intro c hc
    simp [isNameChar, hfirst c hc]
  · intro hhead
    exact absurd (hfirst '[' hhead) (by decide)
  · intro hhead
    exact absurd (hfirst '.' hhead) (by decide)

/-- No name begins in front of segments. -/
theorem Written.noName
    {inPredicate : Bool} {steps : List Step} {text rest : List Char}
    (h : Written (.segments inPredicate steps) text) (hrest : EndsPath inPredicate rest) :
    NoName inPredicate (text ++ rest) := by
  obtain ⟨rfl, _⟩ | ⟨c, others, rfl, hc⟩ := h.segments_head
  · exact hrest.noName
  · rcases hc with rfl | rfl
    · simp [NoName, isNameChar]
    · simp [NoName, isNameChar]

/-- No operand begins with a blank, a parenthesis, or a character that goes on with
the sign of an operator. -/
theorem Written.operand_head
    {side : Operand} {text : List Char} (h : Written (.operand side) text)
    (hside : (Phrase.operand side).WellFormed) :
    ∃ c rest, text = c :: rest ∧ isBlank c = false ∧ c ∉ ['(', '=', '>', '~'] := by
  cases h with
  | fromNode _ => exact ⟨'@', _, rfl, rfl, by decide⟩
  | fromRoot _ => exact ⟨'$', _, rfl, rfl, by decide⟩
  | literal htext =>
      cases htext with
      | null => exact ⟨'n', _, rfl, rfl, by decide⟩
      | true => exact ⟨'t', _, rfl, rfl, by decide⟩
      | false => exact ⟨'f', _, rfl, rfl, by decide⟩
      | string _ => exact ⟨'\'', _, rfl, rfl, by decide⟩
      | number hnumber =>
          obtain ⟨numeral, hnumeral, _⟩ := hnumber
          obtain ⟨c, rest, rfl, hindex⟩ := exists_indexChar hnumeral
          refine ⟨c, rest, rfl, isBlank_of_isIndexChar hindex, ?_⟩
          intro hmem
          simp only [List.mem_cons, List.not_mem_nil, or_false] at hmem
          rcases hmem with rfl | rfl | rfl | rfl <;> exact absurd hindex (by decide)
  | @regex literal =>
      have hliteral : literal.IsDelimited :=
        hside (.operand (.regex literal)) (by simp [Phrase.parts, Operand.parts])
      obtain ⟨text, htext, _⟩ := readRegex_text hliteral
      exact ⟨'/', text, htext, rfl, by decide⟩

/-! ## Phrases -/

/-- If the readers find a phrase in a text, whatever stands behind the text that
may. -/
def Phrase.Reads (text : List Char) : Phrase → Prop
  | .segments inPredicate steps => ∀ depth rounds rest, text.length ≤ depth →
      (text ++ rest).length ≤ rounds → EndsPath inPredicate rest →
      Path.segments (Path.predicate depth) inPredicate rounds false .start (text ++ rest) =
        .ok (steps, rest)
  | .bracket descending steps => ∀ depth rest, text.length ≤ depth →
      indexer (Path.predicate depth) descending (text ++ ']' :: rest) =
        .ok (steps, ']' :: rest)
  | .operand side => ∀ depth rest, text.length ≤ depth → EndsOperand rest →
      bareOperand (Path.predicate depth) (text ++ rest) = .ok (side, rest)
  | .term condition => ∀ depth mark rest, text.length ≤ depth → mark ∈ termMarks →
      Path.term (Path.predicate depth) (text ++ mark :: rest) = .ok (condition, mark :: rest)
  | .conjuncts conditions => ∀ depth rounds mark rest, text.length ≤ depth →
      text.length < rounds → mark ∈ [')', '|'] →
      joined (Path.term (Path.predicate depth)) '&' rounds (text ++ mark :: rest) =
        .ok (conditions, mark :: rest)
  | .conjunction condition => ∀ depth mark rest, text.length ≤ depth → mark ∈ [')', '|'] →
      Path.conjunction (Path.predicate depth) (text ++ mark :: rest) =
        .ok (condition, mark :: rest)
  | .disjuncts conditions => ∀ depth rounds rest, text.length ≤ depth →
      text.length < rounds →
      joined (Path.conjunction (Path.predicate depth)) '|' rounds (text ++ ')' :: rest) =
        .ok (conditions, ')' :: rest)
  | .predicate condition => ∀ depth rest, text.length < depth →
      Path.predicate depth (text ++ ')' :: rest) = .ok (condition, ')' :: rest)

section Steps

variable {inPredicate descending : Bool} {steps found : List Step} {rest : List Char}

/-- A dotted name in front of segments: behind the dots it takes a round of its own. -/
theorem reads_dotted
    {name : Option String} {segment : List Char}
    (hsegment : DottedText inPredicate name segment)
    (hrest : Written (.segments inPredicate steps) rest)
    (hreads : (Phrase.segments inPredicate steps).Reads rest) :
    (Phrase.segments inPredicate (nameStep descending name :: steps)).Reads
      (nameDots descending ++ (segment ++ rest)) := by
  intro depth rounds after hdepth hrounds hafter
  have hname := hrest.noName hafter
  obtain ⟨c, others, hfirst⟩ := List.exists_cons_of_ne_nil hsegment.nonempty
  have hsegmentLength : 0 < segment.length := by simp [hfirst]
  have hfirstChar : isNameChar inPredicate c = true :=
    hsegment.chars c (by rw [hfirst]; exact List.mem_cons_self)
  have hread : ∀ rounds, (segment ++ (rest ++ after)).length ≤ rounds →
      Path.segments (predicate depth) inPredicate rounds descending .dot
        (segment ++ (rest ++ after)) = .ok (nameStep descending name :: steps, after) := by
    intro rounds hrounds
    simp only [List.length_append] at hdepth hrounds
    obtain ⟨rounds, rfl⟩ : ∃ n, rounds = n + 1 := ⟨rounds - 1, by omega⟩
    rw [segments_name hsegment.chars hsegment.nonempty hname (by decide), hsegment.dottedName,
      hreads depth (rounds + 1) after (by omega) (by simp only [List.length_append]; omega) hafter]
    rfl
  rw [List.append_assoc, List.append_assoc] at hrounds ⊢
  cases descending with
  | false =>
      have hdot : (segment ++ (rest ++ after)).head? ≠ some '.' := by
        rw [hfirst]
        intro hhead
        obtain rfl : c = '.' := by simpa using hhead
        simp [isNameChar] at hfirstChar
      simp only [nameDots, if_neg Bool.false_ne_true, List.singleton_append, List.length_cons,
        List.length_append] at hrounds
      obtain ⟨rounds, rfl⟩ : ∃ n, rounds = n + 1 := ⟨rounds - 1, by omega⟩
      rw [nameDots, if_neg Bool.false_ne_true, List.singleton_append, segments_dot hdot]
      apply hread
      simp only [List.length_append]
      omega
  | true =>
      simp only [nameDots, if_pos, List.cons_append, List.length_cons, List.length_append]
        at hrounds
      obtain ⟨rounds, rfl⟩ : ∃ n, rounds = n + 1 := ⟨rounds - 1, by omega⟩
      rw [nameDots, if_pos rfl, List.cons_append, List.singleton_append, segments_dots]
      apply hread
      simp only [List.length_append]
      omega

/-- A bracket in front of segments. -/
theorem reads_bracketed
    {dots inside : List Char}
    (hdots : BracketDots descending dots)
    (hinside : (Phrase.bracket descending found).Reads inside)
    (hrest : Written (.segments inPredicate steps) rest)
    (hreads : (Phrase.segments inPredicate steps).Reads rest) :
    (Phrase.segments inPredicate (found ++ steps)).Reads
      (dots ++ '[' :: (inside ++ ']' :: rest)) := by
  intro depth rounds after hdepth hrounds hafter
  have hname := hrest.noName hafter
  simp only [List.length_append, List.length_cons] at hdepth hrounds
  have hread : ∀ rounds before, (rest ++ after).length < rounds →
      Path.segments (predicate depth) inPredicate rounds descending before
        ('[' :: (inside ++ ']' :: (rest ++ after))) = .ok (found ++ steps, after) := by
    intro rounds before hrounds
    obtain ⟨rounds, rfl⟩ : ∃ n, rounds = n + 1 := ⟨rounds - 1, by omega⟩
    have hmore := hreads depth rounds after (by omega) (by omega) hafter
    rw [segments_bracket (hinside depth _ (by omega)), segments_indexer hname, hmore]
    rfl
  rw [List.append_assoc, List.cons_append, List.append_assoc, List.cons_append]
  cases hdots with
  | none => exact hread rounds .start (by simp only [List.length_append]; omega)
  | one =>
      obtain ⟨rounds, rfl⟩ : ∃ n, rounds = n + 1 := ⟨rounds - 1, by omega⟩
      rw [List.singleton_append, segments_dot (by simp)]
      exact hread rounds .dot (by simp only [List.length_append]; omega)
  | two =>
      obtain ⟨rounds, rfl⟩ : ∃ n, rounds = n + 1 := ⟨rounds - 1, by omega⟩
      rw [List.cons_append, List.singleton_append, segments_dots]
      exact hread rounds .dot (by simp only [List.length_append]; omega)

/-- A filter in a bracket. -/
theorem reads_filter
    {condition : Condition} {inside text : List Char}
    (hreads : (Phrase.predicate condition).Reads inside)
    (hspaced : Spaced ('?' :: '(' :: (inside ++ [')'])) text) (descending : Bool) :
    (Phrase.bracket descending
      [if descending then .descendFilter condition else .filter condition]).Reads text := by
  intro depth rest hdepth
  refine indexer_filter ?_ hspaced
  intro after
  apply hreads
  have hlength := hspaced.length_le
  simp only [List.length_cons, List.length_append] at hlength
  omega

end Steps

section Conditions

variable {condition : Condition} {text : List Char}

theorem endsPath_of_endsOperand
    {rest : List Char} (hrest : EndsOperand rest) : EndsPath true rest := by
  refine ⟨fun c hc => (hrest.char c hc).1, ?_, ?_⟩
  · intro hhead
    exact (hrest.char '[' hhead).2.1 rfl
  · intro hhead
    exact (hrest.char '.' hhead).2.2.1 rfl

/-- A path from the node or from the root. -/
theorem reads_operandPath
    {steps : List Step} {depth : Nat} {rest : List Char} (first : List Step)
    (hreads : (Phrase.segments true steps).Reads text)
    (hdepth : text.length ≤ depth) (hrest : EndsOperand rest) :
    operandPath (predicate depth) first (text ++ rest) = .ok (.path (first ++ steps), rest) :=
  operandPath_segments
    (hreads depth _ rest hdepth (Nat.le_refl _) (endsPath_of_endsOperand hrest))

/-- An operand with the blanks around it. -/
theorem reads_spaced
    {side : Operand} {bare : List Char} {depth : Nat} {mark : Char}
    (hbare : Written (.operand side) bare) (hside : (Phrase.operand side).WellFormed)
    (hreads : (Phrase.operand side).Reads bare)
    (hspaced : Spaced bare text) (hdepth : text.length ≤ depth)
    (hmark : mark ∈ operandMarks) (rest : List Char) :
    operand (predicate depth) (text ++ mark :: rest) = .ok (side, mark :: rest) := by
  obtain ⟨c, others, hhead, hblank, _⟩ := hbare.operand_head hside
  refine operand_spaced ?_ hhead hblank hspaced hmark
  intro after hafter
  exact hreads depth after (Nat.le_trans hspaced.length_le hdepth) hafter

theorem term_head
    {side : Operand} {bare : List Char}
    (hbare : Written (.operand side) bare) (hside : (Phrase.operand side).WellFormed)
    (hspaced : Spaced bare text) (rest : List Char) :
    (skipBlanks (text ++ rest)).head? ≠ some '(' := by
  obtain ⟨c, others, rfl, hblank, hc⟩ := hbare.operand_head hside
  obtain ⟨after, _, hskip⟩ := hspaced.skip hblank
  rw [hskip]
  intro hhead
  obtain rfl : c = '(' := by simpa using hhead
  exact hc (by decide)

/-- An operand alone asks whether it is there. -/
theorem reads_present
    {side : Operand} {bare : List Char}
    (hbare : Written (.operand side) bare) (hside : (Phrase.operand side).WellFormed)
    (hreads : (Phrase.operand side).Reads bare) (hspaced : Spaced bare text) :
    (Phrase.term (.comparison .present side none)).Reads text := by
  intro depth mark rest hdepth hmark
  have hends : endsComparison mark = true := endsComparison_of_mem_termMarks hmark
  have hread := reads_spaced hbare hside hreads hspaced hdepth (termMarks_subset hmark) rest
  rw [term_comparison (term_head hbare hside hspaced _), hread]
  simp [bind, Except.bind, hends]

theorem OperatorSign.head
    {operator : Operator} {sign : List Char} (hsign : OperatorSign operator sign) :
    ∃ c rest, sign = c :: rest ∧ c ∈ ['=', '<', '!', '>'] := by
  cases hsign with
  | angles => exact ⟨'<', _, rfl, by decide⟩
  | symbol hpresent =>
      cases operator with
      | present => exact absurd rfl hpresent
      | equals | strictEquals | matchesRegex => exact ⟨'=', _, rfl, by decide⟩
      | notEquals | strictNotEquals => exact ⟨'!', _, rfl, by decide⟩
      | less | lessOrEqual => exact ⟨'<', _, rfl, by decide⟩
      | greater | greaterOrEqual => exact ⟨'>', _, rfl, by decide⟩

/-- Two operands with the sign of an operator between them. -/
theorem reads_compared
    {operator : Operator} {left right : Operand}
    {leftBare leftText sign rightBare rightText : List Char}
    (hleft : Written (.operand left) leftBare) (hleftForm : (Phrase.operand left).WellFormed)
    (hreadsLeft : (Phrase.operand left).Reads leftBare) (hleftSpaced : Spaced leftBare leftText)
    (hsign : OperatorSign operator sign)
    (hright : Written (.operand right) rightBare) (hrightForm : (Phrase.operand right).WellFormed)
    (hreadsRight : (Phrase.operand right).Reads rightBare)
    (hrightSpaced : Spaced rightBare rightText) :
    (Phrase.term (.comparison operator left (some right))).Reads
      (leftText ++ (sign ++ rightText)) := by
  intro depth mark rest hdepth hmark
  simp only [List.length_append] at hdepth
  have hoperator : readOperator (sign ++ (rightText ++ mark :: rest)) =
      .ok (operator, rightText ++ mark :: rest) := by
    obtain ⟨c, others, rfl, hblank, hc⟩ := hright.operand_head hrightForm
    obtain ⟨before, after, hbefore, hafter, rfl⟩ := hrightSpaced
    cases before with
    | nil => exact readOperator_sign hsign (fun hmem => hc (List.mem_cons_of_mem '(' hmem)) _
    | cons d more =>
        refine readOperator_sign hsign ?_ _
        intro hd
        have hblank := hbefore d List.mem_cons_self
        simp only [List.mem_cons, List.not_mem_nil, or_false] at hd
        rcases hd with rfl | rfl | rfl <;> exact absurd hblank (by decide)
  have hreadRight := reads_spaced hright hrightForm hreadsRight hrightSpaced
    (show rightText.length ≤ depth by omega) (termMarks_subset hmark) rest
  obtain ⟨c, others, hshape, hc⟩ := hsign.head
  have hsignMarks : ['=', '<', '!', '>'] ⊆ operandMarks := by decide
  have hreadLeft := reads_spaced hleft hleftForm hreadsLeft hleftSpaced
    (show leftText.length ≤ depth by omega) (hsignMarks hc) (others ++ (rightText ++ mark :: rest))
  rw [← List.cons_append, ← hshape] at hreadLeft
  have hgoesOn : (sign ++ (rightText ++ mark :: rest)).head?.any endsComparison = false := by
    rw [hshape]
    simp only [List.mem_cons, List.not_mem_nil, or_false] at hc
    rcases hc with rfl | rfl | rfl | rfl <;> rfl
  rw [List.append_assoc, List.append_assoc,
    term_comparison (term_head hleft hleftForm hleftSpaced _), hreadLeft]
  simp only [bind, Except.bind, hgoesOn, if_neg Bool.false_ne_true, hoperator, hreadRight]

/-- A predicate in parentheses. -/
theorem reads_grouped
    {inside : List Char}
    (hreads : (Phrase.predicate condition).Reads inside)
    (hspaced : Spaced ('(' :: (inside ++ [')'])) text) :
    (Phrase.term condition).Reads text := by
  intro depth mark rest hdepth hmark
  refine term_grouped ?_ hspaced (isBlank_of_mem_operandMarks (termMarks_subset hmark))
  intro after
  apply hreads
  have hlength := hspaced.length_le
  simp only [List.length_cons, List.length_append] at hlength
  omega

theorem reads_lastConjunct
    (hreads : (Phrase.term condition).Reads text) :
    (Phrase.conjuncts [condition]).Reads text := by
  intro depth rounds mark rest hdepth hrounds hmark
  have hmarks : [')', '|'] ⊆ termMarks := by decide
  have hother : mark ≠ '&' := by
    rintro rfl
    exact absurd hmark (by decide)
  obtain ⟨rounds, rfl⟩ : ∃ n, rounds = n + 1 := ⟨rounds - 1, by omega⟩
  exact joined_last (hreads depth mark rest hdepth (hmarks hmark)) hother rounds

theorem reads_moreConjuncts
    {conditions : List Condition} {others : List Char}
    (hreads : (Phrase.term condition).Reads text)
    (hothers : (Phrase.conjuncts conditions).Reads others) :
    (Phrase.conjuncts (condition :: conditions)).Reads (text ++ '&' :: '&' :: others) := by
  intro depth rounds mark rest hdepth hrounds hmark
  simp only [List.length_append, List.length_cons] at hdepth hrounds
  obtain ⟨rounds, rfl⟩ : ∃ n, rounds = n + 1 := ⟨rounds - 1, by omega⟩
  rw [List.append_assoc, List.cons_append, List.cons_append]
  exact joined_more (hreads depth '&' _ (by omega) (by decide))
    (hothers depth rounds mark rest (by omega) (by omega) hmark)

theorem reads_lastDisjunct
    (hreads : (Phrase.conjunction condition).Reads text) :
    (Phrase.disjuncts [condition]).Reads text := by
  intro depth rounds rest hdepth hrounds
  obtain ⟨rounds, rfl⟩ : ∃ n, rounds = n + 1 := ⟨rounds - 1, by omega⟩
  exact joined_last (hreads depth ')' rest hdepth (by decide)) (by decide) rounds

theorem reads_moreDisjuncts
    {conditions : List Condition} {others : List Char}
    (hreads : (Phrase.conjunction condition).Reads text)
    (hothers : (Phrase.disjuncts conditions).Reads others) :
    (Phrase.disjuncts (condition :: conditions)).Reads (text ++ '|' :: '|' :: others) := by
  intro depth rounds rest hdepth hrounds
  simp only [List.length_append, List.length_cons] at hdepth hrounds
  obtain ⟨rounds, rfl⟩ : ∃ n, rounds = n + 1 := ⟨rounds - 1, by omega⟩
  rw [List.append_assoc, List.cons_append, List.cons_append]
  exact joined_more (hreads depth '|' _ (by omega) (by decide))
    (hothers depth rounds rest (by omega) (by omega))

/-- Conjuncts are read as the condition that joins them. -/
theorem reads_conjunction
    {conditions : List Condition} (hreads : (Phrase.conjuncts conditions).Reads text) :
    (Phrase.conjunction (.join .and conditions)).Reads text := by
  intro depth mark rest hdepth hmark
  rw [conjunction, hreads depth _ mark rest hdepth (by simp) hmark]
  rfl

/-- Disjuncts are read as the condition that joins them. -/
theorem reads_predicate
    {conditions : List Condition} (hreads : (Phrase.disjuncts conditions).Reads text) :
    (Phrase.predicate (.join .or conditions)).Reads text := by
  intro depth rest hdepth
  obtain ⟨depth, rfl⟩ : ∃ n, depth = n + 1 := ⟨depth - 1, by omega⟩
  rw [predicate, disjunction, hreads depth _ rest (by omega) (by simp)]
  rfl

end Conditions

end PathQuery.Path
