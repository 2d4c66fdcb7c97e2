import PathQuery.Path.Basic
import PathQuery.Proofs.Path.Phrases

/-!
# Reading a path from its texts

Reading undoes writing.  The induction is on the form of a text, with one case for
each form of a phrase; a path is its segments behind a dollar sign.
-/

namespace PathQuery.Path

open Text

/-! ## The induction on the form of a text -/

theorem Phrase.WellFormed.mono
    {phrase other : Phrase} (h : phrase.WellFormed) (hparts : other.parts ⊆ phrase.parts) :
    other.WellFormed :=
  fun part hpart => h part (hparts hpart)

theorem join_of_two_le
    {conditions : List Condition} (h : 2 ≤ conditions.length) (connective : Connective) :
    Condition.join connective conditions = .composite connective conditions := by
  obtain _ | ⟨first, _ | ⟨second, others⟩⟩ := conditions
  · simp at h
  · simp at h
  · rfl

/-- A well-formed phrase is read from each of its texts.  The induction is on the text, while the
depth, the rounds and what stands behind stay general in `Reads`. -/
theorem Written.reads
    {phrase : Phrase} {text : List Char}
    (htext : Written phrase text) (hform : phrase.WellFormed) :
    phrase.Reads text := by
  induction htext with
  | noSegments =>
      intro depth rounds rest _ _ hrest
      exact segments_end hrest.noName hrest.noBracket hrest.noDot (by decide) rounds false
  | dotted hsegment hrest ih =>
      refine reads_dotted hsegment hrest (ih (hform.mono ?_))
      simp [Phrase.parts, partsOfSteps]
  | bracketed hdots _ hrest ihInside ih =>
      refine reads_bracketed hdots (ihInside (hform.mono ?_)) hrest (ih (hform.mono ?_))
      · simp [Phrase.parts, partsOfSteps_append]
      · simp [Phrase.parts, partsOfSteps_append]
  | name hname =>
      intro depth rest _
      exact indexer_names (.one hname)
  | @names names text hnames =>
      intro depth rest _
      have htwo : 2 ≤ names.length :=
        hform (.step (.members names)) (by simp [Phrase.parts, partsOfSteps, Step.parts])
      rw [indexer_names hnames, namesStep_of_two_le htwo]
      rfl
  | @namesBeneath names text hnames =>
      intro depth rest _
      have htwo : 2 ≤ names.length :=
        hform (.step (.descendAny ⟨names⟩)) (by simp [Phrase.parts, partsOfSteps, Step.parts])
      rw [indexer_names hnames, namesStep_of_two_le htwo]
      rfl
  | @array step text harray =>
      intro depth rest _
      have hstep : (Part.step step).WellFormed :=
        hform (.step step) (by simp [Phrase.parts, partsOfSteps, Step.mem_parts_self])
      exact indexer_array harray hstep
  | @arrayBeneath step text harray =>
      intro depth rest _
      have hstep : (Part.step step).WellFormed :=
        hform (.step step) (by simp [Phrase.parts, partsOfSteps, Step.mem_parts_self])
      exact indexer_array harray hstep
  | filter _ hspaced ih =>
      refine reads_filter (ih (hform.mono ?_)) hspaced false
      simp [Phrase.parts, partsOfSteps, Step.parts]
  | filterBeneath _ hspaced ih =>
      refine reads_filter (ih (hform.mono ?_)) hspaced true
      simp [Phrase.parts, partsOfSteps, Step.parts]
  | fromNode _ ih =>
      intro depth rest hdepth hrest
      rw [List.cons_append, bareOperand, if_pos rfl]
      refine reads_operandPath [] (ih (hform.mono ?_)) (Nat.le_of_succ_le hdepth) hrest
      simp [Phrase.parts, Operand.parts]
  | fromRoot _ ih =>
      intro depth rest hdepth hrest
      rw [List.cons_append, bareOperand, if_neg (by decide), if_pos rfl]
      refine reads_operandPath [.root] (ih (hform.mono ?_)) (Nat.le_of_succ_le hdepth) hrest
      simp [Phrase.parts, Operand.parts, partsOfSteps, Step.parts]
  | literal hliteral =>
      intro depth rest _ hrest
      exact bareOperand_literal hliteral hrest
  | @regex literal =>
      intro depth rest _ hrest
      have hliteral : literal.IsDelimited :=
        hform (.operand (.regex literal)) (by simp [Phrase.parts, Operand.parts])
      exact bareOperand_regex hliteral hrest
  | @present side _ _ hbare hspaced ih =>
      have hside : (Phrase.operand side).WellFormed := by
        refine hform.mono ?_
        simp [Phrase.parts, Condition.parts]
      exact reads_present hbare hside (ih hside) hspaced
  | @compared operator left right _ _ _ _ _ hleft hleftSpaced hsign hright hrightSpaced
      ihLeft ihRight =>
      have hleftForm : (Phrase.operand left).WellFormed := by
        refine hform.mono ?_
        simp [Phrase.parts, Condition.parts]
      have hrightForm : (Phrase.operand right).WellFormed := by
        refine hform.mono ?_
        simp [Phrase.parts, Condition.parts, partsOfRight]
      exact reads_compared hleft hleftForm (ihLeft hleftForm) hleftSpaced hsign hright hrightForm
        (ihRight hrightForm) hrightSpaced
  | grouped _ hspaced ih => exact reads_grouped (ih hform) hspaced
  | lastConjunct _ ih =>
      refine reads_lastConjunct (ih (hform.mono ?_))
      simp [Phrase.parts, partsOfConditions]
  | moreConjuncts _ _ ih ihMore =>
      refine reads_moreConjuncts (ih (hform.mono ?_)) (ihMore (hform.mono ?_))
      · simp [Phrase.parts, partsOfConditions]
      · simp [Phrase.parts, partsOfConditions]
  | oneTerm _ ih => exact reads_conjunction (reads_lastConjunct (ih hform))
  | @allOf conditions text _ ih =>
      have htwo : 2 ≤ conditions.length :=
        hform (.condition (.composite .and conditions)) (Condition.mem_parts_self _)
      rw [← join_of_two_le htwo]
      refine reads_conjunction (ih (hform.mono ?_))
      simp [Phrase.parts, Condition.parts]
  | lastDisjunct _ ih =>
      refine reads_lastDisjunct (ih (hform.mono ?_))
      simp [Phrase.parts, partsOfConditions]
  | moreDisjuncts _ _ ih ihMore =>
      refine reads_moreDisjuncts (ih (hform.mono ?_)) (ihMore (hform.mono ?_))
      · simp [Phrase.parts, partsOfConditions]
      · simp [Phrase.parts, partsOfConditions]
  | oneConjunction _ ih => exact reads_predicate (reads_lastDisjunct (ih hform))
  | @anyOf conditions text _ ih =>
      have htwo : 2 ≤ conditions.length :=
        hform (.condition (.composite .or conditions)) (Condition.mem_parts_self _)
      rw [← join_of_two_le htwo]
      refine reads_predicate (ih (hform.mono ?_))
      simp [Phrase.parts, Condition.parts]

/-! ## Whole paths -/

/-- Segments up to the blanks at the end of a text. -/
theorem wholePath_segments
    {steps : List Step} {segments blanks : List Char}
    (hsegments : (Phrase.segments false steps).Reads segments) (hblanks : Blanks blanks) :
    wholePath (segments ++ blanks) = .ok steps := by
  have hread := hsegments (segments ++ blanks).length _ blanks
    (by simp) (Nat.le_refl _) (endsPath_blanks hblanks false)
  rw [wholePath, hread]
  simp only [bind, Except.bind, skipBlanks_blanks hblanks]

/-- The steps of a well-formed path are read from each of its texts. -/
theorem readSteps_text
    {steps : List Step} {text : List Char}
    (hsteps : WellFormedSteps steps) (htext : IsText steps text) :
    readSteps text = .ok steps := by
  obtain ⟨segments, hwritten, hspaced⟩ := htext
  obtain ⟨after, hafter, hskip⟩ := hspaced.skip (by decide)
  have hdollar : skipBlanks text = '$' :: (segments ++ after) := by
    have hwhole := hskip []
    rwa [List.append_nil, List.append_nil] at hwhole
  have hreads := hwritten.reads hsteps.parts
  rw [readSteps, hdollar]
  obtain ⟨rfl, rfl⟩ | ⟨c, others, rfl, hc⟩ := hwritten.segments_head
  · cases after with
    | nil => rfl
    | cons c more =>
        have hblank : isBlank c = true := hafter c List.mem_cons_self
        have hmark : ¬(c = '.' ∨ c = '[') := by
          rintro (rfl | rfl)
          · exact absurd hblank (by decide)
          · exact absurd hblank (by decide)
        simp only [List.nil_append, if_neg hmark, if_pos hblank,
          skipBlanks_blanks hafter]
  · simp only [List.cons_append, if_pos hc]
    exact wholePath_segments hreads hafter

/-- Reading undoes writing: a well-formed path is read from each of its texts. -/
theorem parse_of_isText
    {steps : List Step} {text : String}
    (hsteps : WellFormedSteps steps) (htext : IsText steps text.toList) :
    parse text = .ok ⟨text, steps⟩ := by
  rw [parse, stepsOf, readSteps_text hsteps htext]
  rfl

/-- A filter behind a name at any depth: one name is escaped, one condition is in
superfluous parentheses. -/
theorem parse_of_isText_filter :
    parse "$..book[?(@['unit \\'']<10 || (@.free) )]" =
      .ok ⟨"$..book[?(@['unit \\'']<10 || (@.free) )]",
        [.descend (some "book"),
          .filter (.composite .or
            [.comparison .less (.path [.member (some "unit '")])
                (some (.literal (.number (.int 10 (by decide))))),
              .comparison .present (.path [.member (some "free")]) none])]⟩ := by
  refine parse_of_isText ⟨by simp, ?_⟩ ?_
  · simp [partsOfSteps, Step.parts, partsOfConditions, Condition.parts, Operand.parts,
      partsOfRight, Part.WellFormed, Json.kind, Kind.isContainer]
  · have hbook : PlainName false "book" :=
      ⟨by decide, by decide, by simp [isBlank], by simp, by simp [isWhiteSpace]⟩
    have hfree : PlainName true "free" :=
      ⟨by decide, by decide, by simp [isBlank], by simp, by simp [isWhiteSpace]⟩
    have hblank : Blanks [' '] := by simp [Blanks, isBlank]
    have hunit : QuotedText "unit '".toList "unit \\'".toList :=
      .raw (by decide) (by decide) <| .raw (by decide) (by decide) <|
      .raw (by decide) (by decide) <| .raw (by decide) (by decide) <|
      .raw (by decide) (by decide) <| .escaped (by decide) .nil
    have hten : LiteralText (.number (.int 10 (by decide))) ['1', '0'] :=
      .number ⟨⟨false, ['1', '0'], none, none⟩,
        .parts ⟨by simp, by simp⟩ (by simp) .absent .absent, by decide⟩
    have hleft : Written (.operand (.path [.member (some "unit '")])) _ :=
      .fromNode (.bracketed .none (@Written.name false _ _ ⟨_, hunit, Spaced.refl _⟩) .noSegments)
    have hless := Written.compared hleft (Spaced.refl _)
      (.symbol (by decide : Operator.less ≠ .present)) (.literal hten)
      ⟨[], [' '], blanks_nil, hblank, rfl⟩
    have hpath : Written (.operand (.path [.member (some "free")])) _ :=
      .fromNode (@Written.dotted true false _ _ _ _ (.plain hfree) .noSegments)
    have hgroup := Written.grouped (.oneConjunction (.oneTerm (.present hpath (Spaced.refl _))))
      ⟨[' '], [' '], hblank, hblank, rfl⟩
    have hcondition := Written.anyOf
      (.moreDisjuncts (.oneTerm hless) (.lastDisjunct (.oneTerm hgroup)))
    have hfilter := Written.filter hcondition (Spaced.refl _)
    exact ⟨_, @Written.dotted false true _ _ _ _ (.plain hbook)
      (.bracketed .none hfilter .noSegments), Spaced.refl _⟩

end PathQuery.Path
