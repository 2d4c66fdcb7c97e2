import PathQuery.Proofs.Number.NumeralReading
import PathQuery.Proofs.Path.Concatenation
import PathQuery.Proofs.Path.RegexText

/-!
# Accepted paths are well formed

A reader builds its value from the values of the readers that it calls.  Each way of building
keeps the value well formed: the names and the indices of a union are collected one by one
and are a union from the second one on, conditions are joined from the second one on, an
operator is read only between two operands, and a root stands only in front of the path of an
operand.  Beside that, the double of an operand is the value of the numeral it was read from.
Main statement: whatever text is accepted, its steps are well formed at every depth.
-/

namespace PathQuery

/-! ## Values built from parts that can be written -/

/-- If a part is no double, or is one that some numeral denotes. -/
def Part.HasNumeral : Part → Prop
  | .operand (.literal (.number (.double value))) => ∃ text, (Number.double value).IsText text
  | _ => True

/-- If a part is well formed, and some numeral denotes it where it is a double. -/
structure Part.Writable (part : Part) : Prop where
  wellFormed : part.WellFormed
  hasNumeral : part.HasNumeral

/-- If every part of a condition, of an operand or of steps can be written. -/
def Writable (parts : List Part) : Prop :=
  ∀ part ∈ parts, part.Writable

theorem Writable.mono {parts others : List Part} (h : Writable parts) (hothers : others ⊆ parts) :
    Writable others :=
  fun part hpart => h part (hothers hpart)

/-- If a part is a regular expression. -/
def Part.isRegex : Part → Bool
  | .operand (.regex _) => true
  | _ => false

theorem Part.isRegex_iff (part : Part) :
    part.isRegex = true ↔ ∃ literal, part = .operand (.regex literal) := by
  constructor
  · intro h
    unfold Part.isRegex at h
    split at h
    next literal => exact ⟨literal, rfl⟩
    next => cases h
  · rintro ⟨literal, rfl⟩
    rfl

theorem partsOfConditions_eq (conditions : List Condition) :
    partsOfConditions conditions = conditions.flatMap Condition.parts := by
  induction conditions with
  | nil => rfl
  | cons condition rest ih => rw [partsOfConditions, ih, List.flatMap_cons]

/-- Steps that can be written: no root stands among them, and every part can be written. -/
structure WritableSteps (steps : List Step) : Prop where
  rootless : .root ∉ steps
  parts : Writable (partsOfSteps steps)

namespace WritableSteps

theorem wellFormed {steps : List Step} (h : WritableSteps steps) : WellFormedSteps steps :=
  ⟨h.rootless, fun part hpart => (h.parts part hpart).wellFormed⟩

theorem nil : WritableSteps [] :=
  ⟨List.not_mem_nil, fun _ hpart => absurd hpart List.not_mem_nil⟩

theorem append {steps others : List Step} (h : WritableSteps steps)
    (hothers : WritableSteps others) : WritableSteps (steps ++ others) := by
  constructor
  · intro hroot
    exact (List.mem_append.1 hroot).elim h.rootless hothers.rootless
  · rw [partsOfSteps_append]
    exact List.forall_mem_append.2 ⟨h.parts, hothers.parts⟩

theorem single {step : Step} (hroot : step ≠ .root)
    (hparts : Writable step.parts) : WritableSteps [step] := by
  constructor
  · intro hmem
    exact hroot (List.mem_singleton.1 hmem).symm
  · rw [partsOfSteps, partsOfSteps, List.append_nil]
    exact hparts

end WritableSteps

namespace Condition

/-- A filter can be written if its condition can, at any depth or not. -/
theorem filter_writable {condition : Condition} (h : Writable condition.parts)
    (descending : Bool) :
    WritableSteps [if descending then .descendFilter condition else .filter condition] := by
  cases descending with
  | false =>
      apply WritableSteps.single
      · exact Step.noConfusion
      · exact List.forall_mem_cons.2 ⟨⟨trivial, trivial⟩, h⟩
  | true =>
      apply WritableSteps.single
      · exact Step.noConfusion
      · exact List.forall_mem_cons.2 ⟨⟨trivial, trivial⟩, h⟩

theorem writable_present {left : Operand} (hleft : Writable left.parts) :
    Writable (comparison .present left none).parts := by
  rw [Writable, Condition.parts, partsOfRight, List.append_nil]
  exact List.forall_mem_cons.2 ⟨⟨iff_of_true rfl rfl, trivial⟩, hleft⟩

theorem writable_compared {operator : Operator} {left right : Operand}
    (hoperator : operator ≠ .present) (hleft : Writable left.parts)
    (hright : Writable right.parts) :
    Writable (comparison operator left (some right)).parts := by
  have hself : (Part.condition (comparison operator left (some right))).Writable :=
    ⟨iff_of_false hoperator (Option.some_ne_none right), trivial⟩
  rw [Writable, Condition.parts, partsOfRight]
  exact List.forall_mem_cons.2 ⟨hself, List.forall_mem_append.2 ⟨hleft, hright⟩⟩

/-- Conditions that are joined are at least two; one alone is not joined. -/
theorem writable_join (connective : Connective) {conditions : List Condition}
    (hne : conditions ≠ []) (h : ∀ condition ∈ conditions, Writable condition.parts) :
    Writable (join connective conditions).parts := by
  obtain _ | ⟨first, _ | ⟨second, others⟩⟩ := conditions
  · exact absurd rfl hne
  · exact h first List.mem_cons_self
  · have htwo : 2 ≤ (first :: second :: others).length := by
      rw [List.length_cons, List.length_cons]
      omega
    rw [join, Writable, Condition.parts, partsOfConditions_eq]
    · refine List.forall_mem_cons.2 ⟨⟨htwo, trivial⟩, ?_⟩
      intro part hpart
      obtain ⟨condition, hcondition, hpart⟩ := List.mem_flatMap.1 hpart
      exact h condition hcondition part hpart
    · intro condition hcondition
      cases hcondition

end Condition

namespace Operand

/-- The path of an operand may have a root in front. -/
theorem writable_path {first steps : List Step} (hfirst : first = [] ∨ first = [.root])
    (h : WritableSteps steps) : Writable (path (first ++ steps)).parts := by
  obtain rfl | rfl := hfirst
  · have hroot : .root ∉ steps.tail := fun hmem => h.rootless (List.mem_of_mem_tail hmem)
    exact List.forall_mem_cons.2 ⟨⟨hroot, trivial⟩, h.parts⟩
  · have hparts : Writable (partsOfSteps (.root :: steps)) :=
      List.forall_mem_cons.2 ⟨⟨trivial, trivial⟩, h.parts⟩
    exact List.forall_mem_cons.2 ⟨⟨h.rootless, trivial⟩, hparts⟩

theorem writable_literal {value : Json} (hscalar : value.kind.isContainer = false)
    (hnumeral : (Part.operand (literal value)).HasNumeral) : Writable (literal value).parts :=
  List.forall_mem_singleton.2 ⟨hscalar, hnumeral⟩

theorem writable_regex {expression : RegexLiteral} (h : expression.IsDelimited) :
    Writable (regex expression).parts :=
  List.forall_mem_singleton.2 ⟨h, trivial⟩

end Operand

/-! ## Regular expressions -/

namespace RegexLiteral

theorem SlashesEscaped.nil : SlashesEscaped [] := by
  intro before after h
  cases before with
  | nil => cases h
  | cons c before => cases h

theorem SlashesEscaped.cons {c : Char} {text : List Char} (h : SlashesEscaped text)
    (hslash : c ≠ '/') (hbackslash : c ≠ '\\') : SlashesEscaped (c :: text) := by
  intro before after htext
  cases before with
  | nil => exact absurd (List.cons.inj htext).1 hslash
  | cons d before =>
      obtain ⟨rfl, hrest⟩ := List.cons.inj htext
      rw [List.reverse_cons, isEscaped_append_of_ne hbackslash]
      exact h before after hrest

/-- The character that a backslash takes along may be a slash. -/
theorem SlashesEscaped.pair {text : List Char} (h : SlashesEscaped text) (c : Char) :
    SlashesEscaped ('\\' :: c :: text) := by
  intro before after htext
  obtain _ | ⟨first, _ | ⟨second, before⟩⟩ := before
  · cases (List.cons.inj htext).1
  · obtain ⟨rfl, -⟩ := List.cons.inj htext
    rfl
  · obtain ⟨rfl, hsecond⟩ := List.cons.inj htext
    obtain ⟨rfl, hrest⟩ := List.cons.inj hsecond
    rw [List.reverse_cons, List.reverse_cons, List.append_assoc, List.singleton_append,
      isEscaped_append_pair]
    exact h before after hrest

end RegexLiteral

namespace Path

open RegexLiteral

/-- The pattern of a regular expression ends at the first slash that is not escaped; behind a
backslash at the end of the text there is none. -/
theorem regexBody_slashesEscaped {text body rest : List Char}
    (h : regexBody text = some (body, rest)) : SlashesEscaped body := by
  induction text using regexBody.induct generalizing body with
  | case1 => cases h
  | case2 after =>
      rw [regexBody] at h
      cases h
      exact .nil
  | case3 c after ih =>
      rw [regexBody] at h
      obtain ⟨⟨body', rest'⟩, hbody, hshape⟩ := Option.map_eq_some_iff.1 h
      cases hshape
      exact (ih hbody).pair c
  | case4 c after hslash hescape ih =>
      rw [regexBody] at h
      · obtain ⟨⟨body', rest'⟩, hbody, hshape⟩ := Option.map_eq_some_iff.1 h
        cases hshape
        have hbackslash : c ≠ '\\' := by
          rintro rfl
          cases after with
          | nil => cases hbody
          | cons d after => exact hescape d after rfl rfl
        exact (ih hbody).cons hslash hbackslash
      · exact hslash
      · exact hescape

theorem readRegex_isDelimited {text rest : List Char} {literal : RegexLiteral}
    (h : readRegex text = .ok (literal, rest)) : literal.IsDelimited := by
  rw [readRegex] at h
  cases hbody : regexBody text with
  | none =>
      rw [hbody] at h
      cases h
  | some found =>
      obtain ⟨body, after⟩ := found
      rw [hbody] at h
      simp only at h
      split at h
      next regex hregex =>
        cases h
        refine ⟨body, after.takeWhile Char.isAlpha, ?_, regexBody_slashesEscaped hbody, ?_⟩
        · rw [text_of_ofText hregex, String.toList_ofList, List.cons_append]
        · intro c hc
          exact List.mem_takeWhile_imp hc
      next => cases h

/-! ## Names, indices and constants -/

theorem quotedNames_ne_nil {rounds : Nat} {text rest : List Char} {names : List String}
    (h : quotedNames rounds text = .ok (names, rest)) : names ≠ [] := by
  cases rounds with
  | zero => cases h
  | succ rounds =>
      cases text with
      | nil => cases h
      | cons c text =>
          rw [quotedNames] at h
          split at h
          · obtain ⟨⟨name, left⟩, -, h⟩ := exists_of_bind_ok h
            simp only at h
            split at h
            next => cases h
            next =>
              cases h
              exact List.cons_ne_nil _ _
            next =>
              obtain ⟨⟨others, behind⟩, -, h⟩ := exists_of_bind_ok h
              cases h
              exact List.cons_ne_nil _ _
            next => cases h
          · cases h

theorem nameStep_writable (descending : Bool) (name : Option String) :
    WritableSteps [nameStep descending name] := by
  cases descending with
  | false => exact .single Step.noConfusion (List.forall_mem_singleton.2 ⟨trivial, trivial⟩)
  | true => exact .single Step.noConfusion (List.forall_mem_singleton.2 ⟨trivial, trivial⟩)

theorem segmentSteps_writable (descending : Bool) (segment : List Char) :
    WritableSteps (segmentSteps descending segment) := by
  rw [segmentSteps]
  split
  · exact .nil
  · exact nameStep_writable descending _

/-- Names in brackets are a union from the second one on. -/
theorem namesStep_writable (descending : Bool) {names : List String} (h : names ≠ []) :
    WritableSteps [namesStep descending names] := by
  obtain _ | ⟨first, _ | ⟨second, others⟩⟩ := names
  · exact absurd rfl h
  · exact nameStep_writable descending (some first)
  · have htwo : 2 ≤ (first :: second :: others).length := by
      rw [List.length_cons, List.length_cons]
      omega
    cases descending with
    | false => exact .single Step.noConfusion (List.forall_mem_singleton.2 ⟨htwo, trivial⟩)
    | true => exact .single Step.noConfusion (List.forall_mem_singleton.2 ⟨htwo, trivial⟩)

/-- An indexer has become a list only behind its first index. -/
theorem close_writable {form : IndexerForm} (hform : form ≠ .list [])
    {token text rest : List Char} {step : Step} (h : form.close token text rest = .ok step) :
    WritableSteps [step] := by
  cases form with
  | single =>
      rw [IndexerForm.close] at h
      split at h
      · cases h
      · obtain ⟨index, -, rfl⟩ := exists_of_map_ok h
        exact .single Step.noConfusion (List.forall_mem_singleton.2 ⟨trivial, trivial⟩)
  | list indices =>
      rw [IndexerForm.close] at h
      split at h
      · cases h
      · obtain ⟨index, -, rfl⟩ := exists_of_map_ok h
        have hpos : 0 < indices.length := by
          rw [List.length_pos_iff]
          rintro rfl
          exact hform rfl
        have htwo : 2 ≤ (indices ++ [index]).length := by
          rw [List.length_append, List.length_singleton]
          omega
        exact .single Step.noConfusion (List.forall_mem_singleton.2 ⟨htwo, trivial⟩)
  | sliceStop start =>
      obtain ⟨stop, -, rfl⟩ := exists_of_map_ok h
      exact .single Step.noConfusion (List.forall_mem_singleton.2 ⟨trivial, trivial⟩)
  | sliceStride start stop =>
      obtain ⟨stride, -, rfl⟩ := exists_of_map_ok h
      exact .single Step.noConfusion (List.forall_mem_singleton.2 ⟨trivial, trivial⟩)

theorem colon?_ne_list {form : IndexerForm} {next : Option Int64 → IndexerForm}
    (h : form.colon? = some next) (bound : Option Int64) : next bound ≠ .list [] := by
  cases form with
  | single =>
      cases h
      exact IndexerForm.noConfusion
  | sliceStop start =>
      cases h
      exact IndexerForm.noConfusion
  | list indices => cases h
  | sliceStride start stop => cases h

theorem arrayIndexer_writable {rounds : Nat} {form : IndexerForm} (hform : form ≠ .list [])
    {text rest : List Char} {step : Step} (h : arrayIndexer rounds form text = .ok (step, rest)) :
    WritableSteps [step] := by
  induction rounds generalizing form text with
  | zero => cases h
  | succ rounds ih =>
      rw [arrayIndexer] at h
      split at h
      next => cases h
      next =>
        obtain ⟨closed, hclose, hshape⟩ := exists_of_map_ok h
        cases hshape
        exact close_writable hform hclose
      next =>
        split at h
        next indices _ _ _ =>
          obtain ⟨index, -, hmore⟩ := exists_of_bind_ok h
          refine ih ?_ hmore
          intro hlist
          exact absurd (IndexerForm.list.inj hlist) (List.append_ne_nil_of_right_ne_nil _
            (List.cons_ne_nil _ _))
        next => cases h
      next =>
        split at h
        next next hnext =>
          obtain ⟨bound, -, hmore⟩ := exists_of_bind_ok h
          exact ih (colon?_ne_list hnext bound) hmore
        next => cases h
      next =>
        split at h
        · split at h
          next => cases h
          next =>
            cases h
            exact .single Step.noConfusion (List.forall_mem_singleton.2 ⟨trivial, trivial⟩)
          next => cases h
        · cases h
      next => cases h

/-- A number that is read has the numeral that was there. -/
theorem readNumber_writable {text rest : List Char} {value : Json}
    (h : readNumber text = .ok (value, rest)) : Writable (Operand.literal value).parts := by
  rw [readNumber] at h
  split at h
  next number hnumber =>
    cases h
    refine Operand.writable_literal rfl ?_
    cases number with
    | int value inRange => exact trivial
    | double value => exact ⟨_, Number.ofText?_eq_some_iff.1 hnumber⟩
  next => cases h

theorem readWord_writable {word : List Char} {value : Json} {text rest : List Char}
    {side : Operand} (h : readWord word value text = .ok (side, rest))
    (hvalue : Writable (Operand.literal value).parts) : Writable side.parts := by
  cases text with
  | nil => cases h
  | cons c text =>
      rw [readWord] at h
      split at h
      · cases h
        exact hvalue
      · cases h

/-- No sign stands for the operator that has no right operand. -/
theorem readOperator_ne_present {text rest : List Char} {operator : Operator}
    (h : readOperator text = .ok (operator, rest)) : operator ≠ .present := by
  have hsigns : ∀ sign ∈ operatorSigns, sign.2 ≠ .present := by decide
  rw [readOperator.eq_def] at h
  split at h
  next => cases h
  next => cases h
  next =>
    split at h
    · cases h
    · split at h
      next sign found hfound =>
        cases h
        exact hsigns _ (List.mem_of_find?_eq_some hfound)
      next => cases h

/-! ## Segments and predicates -/

section Nested

variable {nested : Reader Condition}
  (hnested : ∀ {text rest condition},
    nested text = .ok (condition, rest) → Writable condition.parts)

include hnested

theorem filterIndexer_writable {descending : Bool} {text rest : List Char} {step : Step}
    (h : filterIndexer nested descending text = .ok (step, rest)) : WritableSteps [step] := by
  rw [filterIndexer.eq_def] at h
  split at h
  next => cases h
  next =>
    obtain ⟨⟨condition, left⟩, hcondition, h⟩ := exists_of_bind_ok h
    obtain ⟨behind, -, h⟩ := exists_of_bind_ok h
    split at h
    next => cases h
    next =>
      cases h
      exact Condition.filter_writable (hnested hcondition) descending
    next => cases h
  next => cases h

theorem indexer_writable {descending : Bool} {text rest : List Char} {steps : List Step}
    (h : indexer nested descending text = .ok (steps, rest)) : WritableSteps steps := by
  rw [indexer] at h
  split at h
  next => cases h
  next =>
    obtain ⟨⟨names, left⟩, hnames, hshape⟩ := exists_of_map_ok h
    cases hshape
    exact namesStep_writable descending (quotedNames_ne_nil hnames)
  next =>
    obtain ⟨⟨step, left⟩, hstep, hshape⟩ := exists_of_map_ok h
    cases hshape
    exact filterIndexer_writable hnested hstep
  next =>
    obtain ⟨⟨step, left⟩, hstep, hshape⟩ := exists_of_map_ok h
    cases hshape
    have hsingle := arrayIndexer_writable IndexerForm.noConfusion hstep
    cases descending with
    | false => exact hsingle
    | true => exact (nameStep_writable true none).append hsingle

omit hnested in
theorem endPath_eq_nil {inPredicate : Bool} {before : Before} {text rest : List Char}
    {steps : List Step} (h : endPath inPredicate before text = .ok (steps, rest)) :
    steps = [] := by
  rw [endPath] at h
  split at h
  · cases h
  · cases h
    rfl

theorem segments_writable {inPredicate : Bool} {rounds : Nat} {descending : Bool}
    {before : Before} {text rest : List Char} {steps : List Step}
    (h : segments nested inPredicate rounds descending before text = .ok (steps, rest)) :
    WritableSteps steps := by
  induction rounds generalizing descending before text steps with
  | zero =>
      rw [segments] at h
      rw [endPath_eq_nil h]
      exact .nil
  | succ rounds ih =>
      rw [segments.eq_def] at h
      simp only at h
      split at h
      next => cases h
      next =>
        have hname := segmentSteps_writable descending (text.takeWhile (isNameChar inPredicate))
        split at h
        next =>
          obtain ⟨⟨found, left⟩, hfound, h⟩ := exists_of_bind_ok h
          obtain ⟨⟨more, behind⟩, hmore, hshape⟩ := exists_of_bind_ok h
          cases hshape
          exact (hname.append (indexer_writable hnested hfound)).append (ih hmore)
        next =>
          obtain ⟨⟨more, behind⟩, hmore, hshape⟩ := exists_of_bind_ok h
          cases hshape
          exact hname.append (ih hmore)
        next =>
          obtain ⟨⟨more, behind⟩, hmore, hshape⟩ := exists_of_bind_ok h
          cases hshape
          exact hname.append (ih hmore)
        next =>
          split at h
          · rw [endPath_eq_nil h]
            exact .nil
          · cases h
            exact hname

theorem operandPath_writable {first : List Step} (hfirst : first = [] ∨ first = [.root])
    {text rest : List Char} {side : Operand}
    (h : operandPath nested first text = .ok (side, rest)) : Writable side.parts := by
  obtain ⟨⟨steps, left⟩, hsteps, hshape⟩ := exists_of_map_ok h
  cases hshape
  exact Operand.writable_path hfirst (segments_writable hnested hsteps)

theorem bareOperand_writable {text rest : List Char} {side : Operand}
    (h : bareOperand nested text = .ok (side, rest)) : Writable side.parts := by
  cases text with
  | nil => cases h
  | cons c text =>
      rw [bareOperand] at h
      split_ifs at h with hat hdollar hquote hslash hnumber htrue hfalse hnull
      · exact operandPath_writable hnested (Or.inl rfl) h
      · exact operandPath_writable hnested (Or.inr rfl) h
      · obtain ⟨⟨chars, left⟩, -, hshape⟩ := exists_of_map_ok h
        cases hshape
        exact Operand.writable_literal rfl trivial
      · obtain ⟨⟨literal, left⟩, hliteral, hshape⟩ := exists_of_map_ok h
        cases hshape
        exact Operand.writable_regex (readRegex_isDelimited hliteral)
      · obtain ⟨⟨value, left⟩, hvalue, hshape⟩ := exists_of_map_ok h
        cases hshape
        exact readNumber_writable hvalue
      · exact readWord_writable h (Operand.writable_literal rfl trivial)
      · exact readWord_writable h (Operand.writable_literal rfl trivial)
      · exact readWord_writable h (Operand.writable_literal rfl trivial)
      · cases h

theorem operand_writable {text rest : List Char} {side : Operand}
    (h : operand nested text = .ok (side, rest)) : Writable side.parts := by
  obtain ⟨⟨found, left⟩, hfound, h⟩ := exists_of_bind_ok h
  obtain ⟨behind, -, hshape⟩ := exists_of_bind_ok h
  cases hshape
  exact bareOperand_writable hnested hfound

theorem term_writable {text rest : List Char} {condition : Condition}
    (h : term nested text = .ok (condition, rest)) : Writable condition.parts := by
  rw [term] at h
  split at h
  next =>
    obtain ⟨⟨grouped, left⟩, hgrouped, h⟩ := exists_of_bind_ok h
    obtain ⟨closed, -, h⟩ := exists_of_bind_ok h
    obtain ⟨behind, -, hshape⟩ := exists_of_bind_ok h
    cases hshape
    exact hnested hgrouped
  next =>
    obtain ⟨⟨left, behind⟩, hread, h⟩ := exists_of_bind_ok h
    have hleft : Writable left.parts := operand_writable hnested hread
    simp only at h
    split at h
    · cases h
      exact Condition.writable_present hleft
    · obtain ⟨⟨operator, after⟩, hoperator, h⟩ := exists_of_bind_ok h
      obtain ⟨⟨right, last⟩, hright, hshape⟩ := exists_of_bind_ok h
      cases hshape
      exact Condition.writable_compared (readOperator_ne_present hoperator) hleft
        (operand_writable hnested hright)

omit hnested in
/-- Conditions with marks between them are at least one. -/
theorem joined_writable {item : Reader Condition}
    (hitem : ∀ {text rest condition},
      item text = .ok (condition, rest) → Writable condition.parts)
    {mark : Char} {rounds : Nat} {text rest : List Char} {conditions : List Condition}
    (h : joined item mark rounds text = .ok (conditions, rest)) :
    conditions ≠ [] ∧ ∀ condition ∈ conditions, Writable condition.parts := by
  induction rounds generalizing text conditions with
  | zero => cases h
  | succ rounds ih =>
      rw [joined] at h
      obtain ⟨⟨first, left⟩, hread, h⟩ := exists_of_bind_ok h
      have hfirst : Writable first.parts := hitem hread
      have hone : [first] ≠ [] ∧ ∀ condition ∈ [first], Writable condition.parts :=
        ⟨List.cons_ne_nil _ _, List.forall_mem_singleton.2 hfirst⟩
      simp only at h
      split at h
      next =>
        cases h
        exact hone
      next =>
        split at h
        · split at h
          next => cases h
          next =>
            split at h
            · obtain ⟨⟨others, behind⟩, hmore, hshape⟩ := exists_of_bind_ok h
              cases hshape
              obtain ⟨-, hothers⟩ := ih hmore
              exact ⟨List.cons_ne_nil _ _, List.forall_mem_cons.2 ⟨hfirst, hothers⟩⟩
            · cases h
        · cases h
          exact hone

theorem conjunction_writable {text rest : List Char} {condition : Condition}
    (h : conjunction nested text = .ok (condition, rest)) : Writable condition.parts := by
  obtain ⟨⟨conditions, left⟩, hconditions, hshape⟩ := exists_of_map_ok h
  cases hshape
  obtain ⟨hne, hall⟩ := joined_writable (term_writable hnested) hconditions
  exact Condition.writable_join .and hne hall

theorem disjunction_writable {text rest : List Char} {condition : Condition}
    (h : disjunction nested text = .ok (condition, rest)) : Writable condition.parts := by
  obtain ⟨⟨conditions, left⟩, hconditions, hshape⟩ := exists_of_map_ok h
  cases hshape
  obtain ⟨hne, hall⟩ := joined_writable (conjunction_writable hnested) hconditions
  exact Condition.writable_join .or hne hall

end Nested

theorem predicate_writable {depth : Nat} {text rest : List Char} {condition : Condition}
    (h : predicate depth text = .ok (condition, rest)) : Writable condition.parts := by
  induction depth generalizing text rest condition with
  | zero => cases h
  | succ depth ih => exact disjunction_writable ih h

/-! ## Whole paths -/

theorem wholePath_writable {text : List Char} {steps : List Step}
    (h : wholePath text = .ok steps) : WritableSteps steps := by
  obtain ⟨⟨found, left⟩, hfound, h⟩ := exists_of_bind_ok h
  simp only at h
  split at h
  next =>
    cases h
    exact segments_writable predicate_writable hfound
  next => cases h

theorem readSteps_writable {text : List Char} {steps : List Step}
    (h : readSteps text = .ok steps) : WritableSteps steps := by
  rw [readSteps] at h
  split at h
  next =>
    cases h
    exact .nil
  next =>
    split at h
    next =>
      cases h
      exact .nil
    next =>
      split_ifs at h with hmark hblank
      · exact wholePath_writable h
      · split at h
        next =>
          cases h
          exact .nil
        next => cases h
      · exact wholePath_writable h
  next => exact wholePath_writable h

theorem readSteps_wellFormed {text : List Char} {steps : List Step}
    (h : readSteps text = .ok steps) : WellFormedSteps steps :=
  (readSteps_writable h).wellFormed

/-- Every accepted path is well formed.  At each depth a root stands only in front of the
path of an operand, a union has at least two entries and a composite two conditions, a
comparison has a right operand unless it asks whether its left one is there, and a constant
is no container.  A regular expression is a body between two slashes with letters behind;
its closing slash is the only one behind the first that is not escaped. -/
theorem parse_wellFormed {text : String} {path : Path} (h : parse text = .ok path) :
    WellFormedSteps path.steps ∧
    ∀ literal, .operand (.regex literal) ∈ partsOfSteps path.steps →
      ∃ body letters : List Char, literal.text.toList = '/' :: (body ++ '/' :: letters) ∧
        SlashesEscaped body ∧ isEscaped body.reverse = false ∧
        ∀ c ∈ letters, c.isAlpha = true := by
  have hform : WellFormedSteps path.steps := readSteps_wellFormed (readSteps_of_parse h)
  refine ⟨hform, ?_⟩
  intro literal hliteral
  obtain ⟨body, letters, htext, hbody, hletters⟩ := hform.parts _ hliteral
  have hclosing := not_isEscaped_of_text literal htext hbody hletters
  exact ⟨body, letters, htext, hbody, hclosing, hletters⟩

theorem parse_wellFormed_regex :
    ∃ path literal, parse "$..['a','b'][?(@=~/a\\/b/||$.c)]" = .ok path ∧
      .operand (.regex literal) ∈ partsOfSteps path.steps ∧
      WellFormedSteps path.steps ∧
      ∃ body letters : List Char, literal.text.toList = '/' :: (body ++ '/' :: letters) ∧
        SlashesEscaped body ∧ isEscaped body.reverse = false ∧
        ∀ c ∈ letters, c.isAlpha = true := by
  have hfound : ((parse "$..['a','b'][?(@=~/a\\/b/||$.c)]").toOption.any fun path =>
      (partsOfSteps path.steps).any Part.isRegex) = true := by
    decide +kernel
  cases hparse : parse "$..['a','b'][?(@=~/a\\/b/||$.c)]" with
  | error failure =>
      rw [hparse] at hfound
      cases hfound
  | ok path =>
      rw [hparse] at hfound
      obtain ⟨part, hpart, hregex⟩ := List.any_eq_true.1 hfound
      obtain ⟨literal, rfl⟩ := part.isRegex_iff.1 hregex
      obtain ⟨hsteps, hregexes⟩ := parse_wellFormed hparse
      exact ⟨path, literal, rfl, hpart, hsteps, hregexes literal hpart⟩

end Path

end PathQuery
