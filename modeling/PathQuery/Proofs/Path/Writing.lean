import PathQuery.Proofs.Number.NumeralGaps
import PathQuery.Proofs.Path.Accepted
import PathQuery.Proofs.Path.RoundTrip

/-!
# Writing a path

A well-formed path has a text if its doubles have numerals.  Names go into quotes, with their
quotes and backslashes escaped, and each joined condition goes into parentheses.  That a double
is printed as a numeral which rounds to it does not suffice, since the reader scales a rounded
significand by a rounded power of ten and may come to another double.  Main statements: the
paths that can be written in this way are exactly those that some text is read as, and not all
well-formed paths are among them.
-/

namespace PathQuery

namespace Path

open Text

/-! ## Names, indices and lists -/

/-- Every string has a text between quotes. -/
theorem exists_quotedText (value : List Char) : ∃ text, QuotedText value text := by
  induction value with
  | nil => exact ⟨[], .nil⟩
  | cons c rest ih =>
      obtain ⟨text, htext⟩ := ih
      by_cases hquote : c = '\''
      · subst hquote
        exact ⟨_, .escaped (by decide : ('\'', '\'') ∈ escapes) htext⟩
      · by_cases hbackslash : c = '\\'
        · subst hbackslash
          exact ⟨_, .escaped (by decide : ('\\', '\\') ∈ escapes) htext⟩
        · exact ⟨_, .raw hquote hbackslash htext⟩

theorem exists_bracketName (name : String) : ∃ text, BracketName name text := by
  obtain ⟨inner, hinner⟩ := exists_quotedText name.toList
  exact ⟨_, inner, hinner, Spaced.refl _⟩

/-- The digits of an index denote it. -/
theorem exists_indexToken (index : Int64) : ∃ token, IndexToken index token := by
  have hvalue : natValue (Nat.toDigits 10 index.toInt.natAbs) = index.toInt.natAbs :=
    foldl_toDigits _
  by_cases hnegative : index.toInt < 0
  · refine ⟨_, .negative (digits_toDigits index.toInt.natAbs) ?_⟩
    rw [hvalue]
    omega
  · refine ⟨_, .plain (digits_toDigits index.toInt.natAbs) ?_⟩
    rw [hvalue]
    omega

theorem exists_indexText (index : Int64) : ∃ text, IndexText index text := by
  obtain ⟨token, htoken⟩ := exists_indexToken index
  exact ⟨token, token, htoken, Spaced.refl token⟩

theorem exists_boundText (bound : Option Int64) : ∃ text, BoundText bound text := by
  cases bound with
  | none => exact ⟨[], [], .absent, Spaced.refl []⟩
  | some index =>
      obtain ⟨token, htoken⟩ := exists_indexToken index
      exact ⟨token, token, .present htoken, Spaced.refl token⟩

/-- A list has a text with marks between its entries if each entry has one. -/
theorem exists_separated
    {α : Type} {IsText : α → List Char → Prop} (h : ∀ entry, ∃ text, IsText entry text)
    (mark : Char) {entries : List α} (hentries : entries ≠ []) :
    ∃ text, Separated IsText mark entries text := by
  induction entries with
  | nil => exact absurd rfl hentries
  | cons entry rest ih =>
      obtain ⟨text, htext⟩ := h entry
      cases rest with
      | nil => exact ⟨text, .one htext⟩
      | cons next others =>
          obtain ⟨more, hmore⟩ := ih (List.cons_ne_nil next others)
          exact ⟨_, .more htext hmore⟩

/-! ## Steps, conditions and operands -/

/-- A step in a bracket has a text in front of every text of other steps. -/
theorem exists_bracketed
    {descending : Bool} {step : Step} {inside : List Char}
    (hinside : Written (.bracket descending [step]) inside)
    {inPredicate : Bool} {steps : List Step} {rest : List Char}
    (hrest : Written (.segments inPredicate steps) rest) :
    ∃ text, Written (.segments inPredicate (step :: steps)) text := by
  cases descending with
  | false => exact ⟨_, .bracketed .none hinside hrest⟩
  | true => exact ⟨_, .bracketed .two hinside hrest⟩

theorem ne_nil_of_two_le {α : Type} {entries : List α} (h : 2 ≤ entries.length) : entries ≠ [] := by
  rintro rfl
  simp at h

theorem exists_literalText
    {value : Json} (hscalar : value.kind.isContainer = false)
    (hnumeral : (Part.operand (.literal value)).HasNumeral) :
    ∃ text, LiteralText value text := by
  cases value with
  | null => exact ⟨_, .null⟩
  | bool value =>
      cases value with
      | false => exact ⟨_, .false⟩
      | true => exact ⟨_, .true⟩
  | number number =>
      cases number with
      | int value inRange => exact ⟨_, .number (Number.isText_integerText value inRange)⟩
      | double value =>
          obtain ⟨text, htext⟩ := hnumeral
          exact ⟨text, .number htext⟩
  | string value =>
      obtain ⟨text, htext⟩ := exists_quotedText value.toList
      exact ⟨_, .string htext⟩
  | array items => cases hscalar
  | object members => cases hscalar

mutual

theorem exists_written_step
    (step : Step) (hroot : step ≠ .root) (hstep : Writable step.parts)
    {inPredicate : Bool} {steps : List Step} {rest : List Char}
    (hrest : Written (.segments inPredicate steps) rest) :
    ∃ text, Written (.segments inPredicate (step :: steps)) text := by
  have hform : (Part.step step).WellFormed := (hstep _ step.mem_parts_self).1
  cases step with
  | root => exact absurd rfl hroot
  | member name =>
      cases name with
      | none => exact ⟨_, @Written.dotted inPredicate false none _ _ _ .every hrest⟩
      | some name =>
          obtain ⟨inside, hinside⟩ := exists_bracketName name
          exact exists_bracketed (@Written.name false _ _ hinside) hrest
  | members names =>
      obtain ⟨inside, hinside⟩ :=
        exists_separated exists_bracketName ',' (ne_nil_of_two_le hform)
      exact exists_bracketed (.names hinside) hrest
  | element index =>
      cases index with
      | none => exact exists_bracketed (.array (.every (Spaced.refl _))) hrest
      | some index =>
          obtain ⟨inside, hinside⟩ := exists_indexText index
          exact exists_bracketed (.array (.single hinside)) hrest
  | elements indices =>
      obtain ⟨inside, hinside⟩ :=
        exists_separated exists_indexText ',' (ne_nil_of_two_le hform)
      exact exists_bracketed (.array (.list hinside)) hrest
  | slice start stop stride =>
      obtain ⟨startText, hstart⟩ := exists_boundText start
      obtain ⟨stopText, hstop⟩ := exists_boundText stop
      obtain ⟨strideText, hstride⟩ := exists_boundText stride
      exact exists_bracketed (.array (.stride hstart hstop hstride)) hrest
  | descend name =>
      cases name with
      | none => exact ⟨_, @Written.dotted inPredicate true none _ _ _ .every hrest⟩
      | some name =>
          obtain ⟨inside, hinside⟩ := exists_bracketName name
          exact exists_bracketed (@Written.name true _ _ hinside) hrest
  | descendAny set =>
      obtain ⟨inside, hinside⟩ :=
        exists_separated exists_bracketName ',' (ne_nil_of_two_le hform)
      exact exists_bracketed (.namesBeneath hinside) hrest
  | filter condition =>
      have hcondition : Writable condition.parts := hstep.mono (by simp [Step.parts])
      obtain ⟨inside, hinside⟩ := exists_written_condition condition hcondition
      exact exists_bracketed (.filter (.oneConjunction (.oneTerm hinside)) (Spaced.refl _)) hrest
  | descendFilter condition =>
      have hcondition : Writable condition.parts := hstep.mono (by simp [Step.parts])
      obtain ⟨inside, hinside⟩ := exists_written_condition condition hcondition
      exact exists_bracketed
        (.filterBeneath (.oneConjunction (.oneTerm hinside)) (Spaced.refl _)) hrest

theorem exists_written_condition
    (condition : Condition) (hcondition : Writable condition.parts) :
    ∃ text, Written (.term condition) text := by
  have hform : (Part.condition condition).WellFormed :=
    (hcondition _ condition.mem_parts_self).1
  cases condition with
  | composite connective conditions =>
      have hconditions : Writable (partsOfConditions conditions) :=
        hcondition.mono (by simp [Condition.parts])
      obtain ⟨⟨text, htext⟩, ⟨text', htext'⟩⟩ :=
        exists_written_conditions conditions (ne_nil_of_two_le hform) hconditions
      cases connective with
      | and => exact ⟨_, .grouped (.oneConjunction (.allOf htext)) (Spaced.refl _)⟩
      | or => exact ⟨_, .grouped (.anyOf htext') (Spaced.refl _)⟩
  | comparison operator left right =>
      have hleft : Writable left.parts := hcondition.mono (by simp [Condition.parts])
      obtain ⟨leftText, hleftText⟩ := exists_written_operand left hleft
      cases right with
      | none =>
          obtain rfl : operator = .present := hform.mpr rfl
          exact ⟨_, .present hleftText (Spaced.refl _)⟩
      | some right =>
          have hright : Writable right.parts :=
            hcondition.mono (by simp [Condition.parts, partsOfRight])
          have hoperator : operator ≠ .present := fun hpresent => by
            cases hform.mp hpresent
          obtain ⟨rightText, hrightText⟩ := exists_written_operand right hright
          exact ⟨_, .compared hleftText (Spaced.refl _) (.symbol hoperator) hrightText
            (Spaced.refl _)⟩

theorem exists_written_operand
    (side : Operand) (hside : Writable side.parts) :
    ∃ text, Written (.operand side) text := by
  cases side with
  | path steps =>
      have hsteps : Writable (partsOfSteps steps) := hside.mono (by simp [Operand.parts])
      have hform : (Part.operand (.path steps)).WellFormed :=
        (hside _ (by simp [Operand.parts])).1
      cases steps with
      | nil => exact ⟨_, .fromNode .noSegments⟩
      | cons step rest =>
          have hrest : Writable (partsOfSteps rest) := hsteps.mono (by simp [partsOfSteps])
          obtain ⟨text, htext⟩ := exists_written_steps true rest hform hrest
          by_cases hroot : step = .root
          · subst hroot
            exact ⟨_, .fromRoot htext⟩
          · have hstep : Writable step.parts := hsteps.mono (by simp [partsOfSteps])
            obtain ⟨whole, hwhole⟩ := exists_written_step step hroot hstep htext
            exact ⟨_, .fromNode hwhole⟩
  | literal value =>
      obtain ⟨hscalar, hnumeral⟩ := hside (.operand (.literal value)) (by simp [Operand.parts])
      obtain ⟨text, htext⟩ := exists_literalText hscalar hnumeral
      exact ⟨text, .literal htext⟩
  | regex literal => exact ⟨_, .regex⟩

theorem exists_written_conditions
    (conditions : List Condition) (hnonempty : conditions ≠ [])
    (hconditions : Writable (partsOfConditions conditions)) :
    (∃ text, Written (.conjuncts conditions) text) ∧
      ∃ text, Written (.disjuncts conditions) text := by
  cases conditions with
  | nil => exact absurd rfl hnonempty
  | cons condition rest =>
      have hfirst : Writable condition.parts := hconditions.mono (by simp [partsOfConditions])
      obtain ⟨text, htext⟩ := exists_written_condition condition hfirst
      by_cases hrest : rest = []
      · subst hrest
        exact ⟨⟨_, .lastConjunct htext⟩, ⟨_, .lastDisjunct (.oneTerm htext)⟩⟩
      · have hothers : Writable (partsOfConditions rest) :=
          hconditions.mono (by simp [partsOfConditions])
        obtain ⟨⟨more, hmore⟩, ⟨more', hmore'⟩⟩ := exists_written_conditions rest hrest hothers
        exact ⟨⟨_, .moreConjuncts htext hmore⟩, ⟨_, .moreDisjuncts (.oneTerm htext) hmore'⟩⟩

theorem exists_written_steps
    (inPredicate : Bool) (steps : List Step) (hroot : .root ∉ steps)
    (hsteps : Writable (partsOfSteps steps)) :
    ∃ text, Written (.segments inPredicate steps) text := by
  cases steps with
  | nil => exact ⟨[], .noSegments⟩
  | cons step rest =>
      have hrest : Writable (partsOfSteps rest) := hsteps.mono (by simp [partsOfSteps])
      have hstep : Writable step.parts := hsteps.mono (by simp [partsOfSteps])
      obtain ⟨text, htext⟩ := exists_written_steps inPredicate rest
        (fun hmem => hroot (List.mem_cons_of_mem step hmem)) hrest
      have hnotRoot : step ≠ .root := by
        rintro rfl
        exact hroot List.mem_cons_self
      exact exists_written_step step hnotRoot hstep htext

end

/-- A well-formed path has a text, if its doubles have. -/
theorem exists_isText {steps : List Step} (hsteps : WritableSteps steps) :
    ∃ text : String, IsText steps text.toList := by
  obtain ⟨segments, hsegments⟩ := exists_written_steps false steps hsteps.rootless hsteps.parts
  refine ⟨String.ofList ('$' :: segments), segments, hsegments, ?_⟩
  rw [String.toList_ofList]
  exact Spaced.refl _

/-- Some text is read as given steps if and only if these are well formed, at every depth, and
each of their doubles is the value of a numeral. -/
theorem exists_parse_iff (steps : List Step) :
    (∃ text, parse text = .ok ⟨text, steps⟩) ↔
      WellFormedSteps steps ∧ ∀ part ∈ partsOfSteps steps, part.HasNumeral := by
  constructor
  · rintro ⟨text, htext⟩
    have hwritable : WritableSteps steps := readSteps_writable (readSteps_of_parse htext)
    exact ⟨hwritable.wellFormed, fun part hpart => (hwritable.parts part hpart).hasNumeral⟩
  · rintro ⟨hsteps, hnumerals⟩
    have hwritable : WritableSteps steps :=
      ⟨hsteps.rootless, fun part hpart => ⟨hsteps.parts part hpart, hnumerals part hpart⟩⟩
    obtain ⟨text, htext⟩ := exists_isText hwritable
    exact ⟨text, parse_eq_ok_iff.2 (readSteps_text hsteps htext)⟩

/-- Some well-formed path is read from no text: it holds a double without a numeral. -/
theorem exists_wellFormed_unread :
    ∃ steps, WellFormedSteps steps ∧ ∀ text path, parse text = .ok path → path.steps ≠ steps := by
  obtain ⟨value, hvalue⟩ := exists_double_without_numeral
  let side : Operand := .literal (.number (.double value))
  let condition : Condition := .comparison .present side none
  have hparts : partsOfSteps [.filter condition] =
      [.step (.filter condition), .condition condition, .operand side] := rfl
  refine ⟨[.filter condition], ⟨by simp, ?_⟩, ?_⟩
  · intro part hpart
    rw [hparts] at hpart
    simp only [List.mem_cons, List.not_mem_nil, or_false] at hpart
    rcases hpart with rfl | rfl | rfl
    · exact trivial
    · exact iff_of_true rfl rfl
    · rfl
  · intro text path hparse hsteps
    have hwritable : WritableSteps path.steps := readSteps_writable (readSteps_of_parse hparse)
    have hside : (Part.operand side).Writable := by
      apply hwritable.parts
      rw [hsteps, hparts]
      simp
    obtain ⟨token, htoken⟩ := hside.hasNumeral
    exact hvalue token htoken

end Path

end PathQuery
