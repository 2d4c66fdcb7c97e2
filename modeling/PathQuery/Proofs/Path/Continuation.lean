import PathQuery.Proofs.Path.Extension

/-!
# Going on behind a text

The reader of segments ends at the end of a text as it does in front of a mark that
belongs to no segment.  If more segments follow, it goes on with them as at the start of a
path: no dot, no indexer and no search at every depth is left over.  The readers of the
parts of a predicate stop before the end of the text, so they read the same in a longer
one.
-/

namespace PathQuery.Path

section Nested

variable {nested nested' : Reader Condition} (hextends : Extends nested nested')
  (hnested : AnchoredReader nested)

/-! ## Indexers -/

include hextends

theorem filterIndexer_more {descending : Bool} {text rest : List Char} {step : Step}
    (h : filterIndexer nested descending text = .ok (step, rest)) (more : List Char) :
    filterIndexer nested' descending (text ++ more) = .ok (step, rest ++ more) := by
  rw [filterIndexer.eq_def] at h
  split at h
  next => cases h
  next after =>
    obtain ⟨⟨condition, left⟩, hcondition, h⟩ := exists_of_bind_ok h
    obtain ⟨behind, hclose, h⟩ := exists_of_bind_ok h
    have hleft : left ≠ [] := by
      rintro rfl
      cases hclose
    rw [List.cons_append, filterIndexer, hextends hcondition hleft more]
    simp only [bind, Except.bind]
    rw [closeParenthesis_more hclose]
    simp only at h ⊢
    split at h
    next => cases h
    next hskip =>
      rw [skipBlanks_cons_more hskip]
      cases h
      rfl
    next => cases h
  next => cases h

theorem indexer_more {descending : Bool} {text rest : List Char} {steps : List Step}
    (h : indexer nested descending text = .ok (steps, rest)) (more : List Char) :
    indexer nested' descending (text ++ more) = .ok (steps, rest ++ more) := by
  rw [indexer] at h
  split at h
  next => cases h
  next after hskip =>
    obtain ⟨⟨names, left⟩, hnames, hshape⟩ := exists_of_map_ok h
    cases hshape
    have hrounds : after.length + 1 ≤ (after ++ more).length + 1 := by simp
    have hread := quotedNames_more hrounds hnames more
    rw [List.cons_append] at hread
    rw [indexer, skipBlanks_cons_more hskip]
    simp only [hread]
    rfl
  next after hskip =>
    obtain ⟨⟨step, left⟩, hstep, hshape⟩ := exists_of_map_ok h
    cases hshape
    rw [indexer, skipBlanks_cons_more hskip]
    simp only [filterIndexer_more hextends hstep]
    rfl
  next hnil hquote hquery =>
    obtain ⟨⟨step, left⟩, hstep, hshape⟩ := exists_of_map_ok h
    cases hshape
    obtain ⟨c, after, hskip⟩ := List.exists_cons_of_ne_nil hnil
    have hrounds : (c :: after).length ≤ (c :: after ++ more).length := by simp
    rw [hskip] at hstep
    have hread := arrayIndexer_more hrounds hstep more
    rw [indexer, skipBlanks_cons_more hskip]
    split
    next hshape => cases hshape
    next hshape =>
      cases hshape
      exact absurd hskip (hquote after)
    next hshape =>
      cases hshape
      exact absurd hskip (hquery after)
    next =>
      rw [← List.cons_append, hread]
      rfl

/-! ## Segments -/

/-- What is read where the segments of a text end and more stands behind it: the end of
the text is the start of more segments. -/
def readBehind (nested : Reader Condition) (inPredicate : Bool) (rounds : Nat)
    (rest more : List Char) : Except Failure (List Step × List Char) :=
  if rest.isEmpty then segments nested inPredicate rounds false .start more
  else .ok ([], rest ++ more)

section Segments

variable {inPredicate descending : Bool} {before : Before} {text rest more : List Char}
  {steps : List Step}

omit hextends in
theorem map_behind_behind (first second : List Step)
    (result : Except Failure (List Step × List Char)) :
    (result.map (behind second)).map (behind first) = result.map (behind (first ++ second)) := by
  cases result with
  | error failure => rfl
  | ok read => simp [Except.map, behind]

omit hextends in
theorem map_behind_nil (result : Except Failure (List Step × List Char)) :
    result.map (behind []) = result := by
  cases result with
  | error failure => rfl
  | ok read => rfl

omit hextends in
/-- Where nothing is left to read, a path ends. -/
theorem segments_nil (rounds : Nat) (descending : Bool) (before : Before) :
    segments nested inPredicate rounds descending before [] = endPath inPredicate before [] := by
  cases rounds with
  | zero => rfl
  | succ rounds =>
      rw [segments_noName (by intro c hc; cases hc), segmentsAtMark]
      all_goals simp

omit hextends in
/-- A path does not end behind a dot. -/
theorem endPath_ok (h : endPath inPredicate before text = .ok (steps, rest)) :
    steps = [] ∧ rest = text ∧ ¬ (before = .dot ∧ (text.isEmpty = true ∨ inPredicate = true)) := by
  rw [endPath] at h
  split_ifs at h with hend
  · cases h
  · cases h
    exact ⟨rfl, rfl, hend⟩

omit hextends in
/-- Only a dot is kept in mind for a name that follows. -/
theorem segments_resume (hbefore : before ≠ .dot) (hmore : NoName inPredicate more)
    (rounds : Nat) :
    segments nested inPredicate rounds false before more =
      segments nested inPredicate rounds false .start more := by
  cases before with
  | start => rfl
  | dot => exact absurd rfl hbefore
  | indexer => exact segments_indexer hmore rounds false

omit hextends in
/-- At the end of a text the reader is as at the start of what follows. -/
theorem continued_at_end {n' : Nat} (h : endPath inPredicate before [] = .ok (steps, rest))
    (hn' : more.length ≤ n') (hdots : descending = true → before = .dot)
    (hmore : rest = [] → NoName inPredicate more) :
    ∃ m, more.length ≤ m ∧
      segments nested' inPredicate n' descending before ([] ++ more) =
        (readBehind nested' inPredicate m rest more).map (behind steps) := by
  obtain ⟨rfl, rfl, hend⟩ := endPath_ok h
  have hbefore : before ≠ .dot := fun hbefore => hend ⟨hbefore, Or.inl rfl⟩
  have hdescending : descending = false := by
    cases descending with
    | false => rfl
    | true => exact absurd (hdots rfl) hbefore
  refine ⟨n', hn', ?_⟩
  rw [hdescending, List.nil_append, segments_resume hbefore (hmore rfl), map_behind_nil]
  rfl

omit hextends in
/-- No name is read directly behind an indexer. -/
theorem segments_name_indexer {name : List Char} {n : Nat}
    (hname : ∀ c ∈ name, isNameChar inPredicate c = true) (htext : NoName inPredicate text)
    (hne : name ≠ []) :
    segments nested inPredicate (n + 1) descending .indexer (name ++ text) ≠ .ok (steps, rest) := by
  obtain ⟨c, others, rfl⟩ := List.exists_cons_of_ne_nil hne
  intro h
  rw [segments.eq_def] at h
  simp only [takeWhile_run hname htext] at h
  cases h

include hnested

/-- If the rest of a text is continued behind a mark, then so is the mark. -/
theorem segmentsAtMark_append {n n' : Nat}
    (h : segmentsAtMark nested inPredicate n descending before text = .ok (steps, rest))
    (hn : text.length ≤ n + 1) (hn' : text.length + more.length ≤ n' + 1)
    (hdots : descending = true → before = .dot) (hmore : rest = [] → NoName inPredicate more)
    (hnext : ∀ {descending before after steps},
      segments nested inPredicate n descending before after = .ok (steps, rest) →
      after.length ≤ n → after.length + more.length ≤ n' → (descending = true → before = .dot) →
      ∃ m, more.length ≤ m ∧
        segments nested' inPredicate n' descending before (after ++ more) =
          (readBehind nested' inPredicate m rest more).map (behind steps)) :
    ∃ m, more.length ≤ m ∧
      segmentsAtMark nested' inPredicate n' descending before (text ++ more) =
        (readBehind nested' inPredicate m rest more).map (behind steps) := by
  unfold segmentsAtMark at h
  split at h
  next after =>
    rw [List.length_cons] at hn hn'
    obtain ⟨⟨found, left⟩, hfound, h⟩ := exists_of_bind_ok h
    have hanchored := indexer_anchored hnested descending (List.suffix_rfl (l := after))
    rw [hfound] at hanchored
    obtain ⟨after', rfl, hsuffix⟩ := hanchored
    have hlength := (suffix_of_cons hsuffix).length_le
    obtain ⟨⟨others, left⟩, hothers, hshape⟩ := exists_of_map_ok h
    cases hshape
    obtain ⟨m, hm, hread⟩ := hnext hothers (by simpa using by omega) (by simpa using by omega)
      (by simp)
    refine ⟨m, hm, ?_⟩
    rw [← map_behind_behind, ← hread, List.cons_append, segmentsAtMark,
      indexer_more hextends hfound more]
    rfl
  next after =>
    rw [List.length_cons, List.length_cons] at hn hn'
    obtain ⟨m, hm, hread⟩ := hnext h (by omega) (by omega) (by simp)
    refine ⟨m, hm, ?_⟩
    rw [← hread]
    rfl
  next after hdot =>
    rw [List.length_cons] at hn hn'
    obtain ⟨m, hm, hread⟩ := hnext h (by omega) (by omega) (by simp)
    refine ⟨m, hm, ?_⟩
    cases after with
    | nil =>
        rw [segments_nil] at h
        obtain ⟨_, _, hend⟩ := endPath_ok h
        exact absurd ⟨rfl, Or.inl rfl⟩ hend
    | cons c after =>
        rw [← hread, List.cons_append, List.cons_append, segmentsAtMark]
        rintro after' hshape
        cases hshape
        exact hdot after rfl
  next hbracket hdots' hdot =>
    obtain ⟨rfl, rfl, hend⟩ := endPath_ok h
    cases rest with
    | nil =>
        rw [List.nil_append, ← segments_noName (hmore rfl)]
        exact continued_at_end h (by simpa using hn') hdots hmore
    | cons c after =>
        refine ⟨more.length, Nat.le_refl _, ?_⟩
        rw [List.cons_append, segmentsAtMark, endPath, if_neg (by simpa using hend)]
        · rfl
        · rintro after' hshape
          exact hbracket after (by rw [(List.cons.inj hshape).1])
        · rintro after' hshape
          exact hdot after (by rw [(List.cons.inj hshape).1])
        · rintro after' hshape
          exact hdot after (by rw [(List.cons.inj hshape).1])

/-- What a text begins is continued by what follows: behind a part of a predicate nothing
changes, and behind the end of the text more segments may stand. -/
theorem segments_append {n n' : Nat}
    (h : segments nested inPredicate n descending before text = .ok (steps, rest))
    (hn : text.length ≤ n) (hn' : text.length + more.length ≤ n')
    (hdots : descending = true → before = .dot) (hmore : rest = [] → NoName inPredicate more) :
    ∃ m, more.length ≤ m ∧
      segments nested' inPredicate n' descending before (text ++ more) =
        (readBehind nested' inPredicate m rest more).map (behind steps) := by
  induction n generalizing n' descending before text steps with
  | zero =>
      obtain rfl := List.eq_nil_of_length_eq_zero (Nat.le_zero.1 hn)
      rw [segments_nil] at h
      exact continued_at_end h (by simpa using hn') hdots hmore
  | succ n ih =>
      by_cases hempty : text = []
      · subst hempty
        rw [segments_nil] at h
        exact continued_at_end h (by simpa using hn') hdots hmore
      obtain ⟨name, left, htext, hname, hleft⟩ := exists_name inPredicate text
      have hbefore : before = .indexer → name = [] := by
        rintro rfl
        by_contra hne
        exact segments_name_indexer hname hleft hne (htext ▸ h)
      subst htext
      have hlength := List.length_pos_iff.2 hempty
      obtain ⟨n', rfl⟩ : ∃ m, n' = m + 1 := ⟨n' - 1, by omega⟩
      rw [List.length_append] at hn hn'
      rw [segments_run hname hleft hbefore] at h
      obtain ⟨⟨others, rest'⟩, hmark, hshape⟩ := exists_of_map_ok h
      cases hshape
      have hleft_more : NoName inPredicate (left ++ more) := by
        cases left with
        | nil =>
            rw [segmentsAtMark] at hmark
            · exact hmore (endPath_ok hmark).2.1
            all_goals simp
        | cons c left => exact hleft
      have hdots' : (descending && name.isEmpty) = true →
          (if name.isEmpty = true then before else Before.start) = .dot := by
        intro h
        rw [Bool.and_eq_true] at h
        rw [if_pos h.2]
        exact hdots h.1
      have hleft_length : left.length + more.length ≤ n' + 1 := by omega
      obtain ⟨m, hm, hread⟩ := segmentsAtMark_append hextends hnested hmark (by omega)
        hleft_length hdots' hmore ih
      refine ⟨m, hm, ?_⟩
      rw [List.append_assoc, segments_run hname hleft_more hbefore, hread, map_behind_behind]

end Segments

/-! ## Operands and terms -/

include hnested

theorem operandPath_extends (first : List Step) :
    Extends (operandPath nested first) (operandPath nested' first) := by
  intro text value rest h hrest more
  obtain ⟨⟨steps, left⟩, hsteps, hshape⟩ := exists_of_map_ok h
  cases hshape
  obtain ⟨m, _, hread⟩ := segments_append hextends hnested hsteps (Nat.le_refl _)
    (List.length_append).ge (by simp) fun hnil => absurd hnil hrest
  rw [operandPath, hread, readBehind, if_neg (by simpa using hrest)]
  simp [Except.map, behind]

theorem bareOperand_extends : Extends (bareOperand nested) (bareOperand nested') := by
  intro text operand rest h hrest more
  cases text with
  | nil => cases h
  | cons c text =>
      rw [bareOperand] at h
      rw [List.cons_append, bareOperand]
      refine ite_ok h (fun h => operandPath_extends hextends hnested _ h hrest more) fun h => ?_
      refine ite_ok h (fun h => operandPath_extends hextends hnested _ h hrest more) fun h => ?_
      refine ite_ok h (fun h => ?_) fun h => ?_
      · obtain ⟨⟨chars, left⟩, hchars, hshape⟩ := exists_of_map_ok h
        cases hshape
        rw [quoted_more hchars]
        rfl
      refine ite_ok h (fun h => readRegex_extends.map _ h hrest more) fun h => ?_
      refine ite_ok h (fun h => readNumber_extends.map _ h hrest more) fun h => ?_
      refine ite_ok h (fun h => readWord_extends _ _ h hrest more) fun h => ?_
      refine ite_ok h (fun h => readWord_extends _ _ h hrest more) fun h => ?_
      refine ite_ok h (fun h => readWord_extends _ _ h hrest more) fun h => ?_
      cases h

theorem operand_extends : Extends (operand nested) (operand nested') := by
  intro text value rest h hrest more
  obtain ⟨⟨side, left⟩, hside, h⟩ := exists_of_bind_ok h
  obtain ⟨behind, hinside, h⟩ := exists_of_bind_ok h
  cases h
  obtain ⟨_, hleft, hmore⟩ := skipInside_more hinside
  have hskip : Text.skipBlanks text ≠ [] := by
    intro hnil
    rw [hnil] at hside
    cases hside
  have hread := bareOperand_extends hextends hnested hside hleft more
  rw [operand, skipBlanks_more hskip, hread]
  simp only [bind, Except.bind]
  rw [hmore more]

omit hextends hnested in
/-- Something is left behind an operand. -/
theorem operand_rest_ne_nil {text rest : List Char} {side : Operand}
    (h : operand nested text = .ok (side, rest)) : rest ≠ [] := by
  obtain ⟨_, _, h⟩ := exists_of_bind_ok h
  obtain ⟨_, hinside, h⟩ := exists_of_bind_ok h
  cases h
  exact (skipInside_more hinside).1

theorem term_extends : Extends (term nested) (term nested') := by
  intro text condition rest h hrest more
  rw [term] at h
  split at h
  next after hskip =>
    obtain ⟨⟨inside, left⟩, hinside, h⟩ := exists_of_bind_ok h
    obtain ⟨behind, hclose, h⟩ := exists_of_bind_ok h
    obtain ⟨behind', hbehind, h⟩ := exists_of_bind_ok h
    cases h
    have hleft : left ≠ [] := by
      rintro rfl
      cases hclose
    rw [term, skipBlanks_cons_more hskip]
    simp only [hextends hinside hleft more, bind, Except.bind]
    rw [closeParenthesis_more hclose]
    simp only
    rw [(skipInside_more hbehind).2.2 more]
  next hopen =>
    obtain ⟨⟨left, behind⟩, hleft, h⟩ := exists_of_bind_ok h
    have hbehind := operand_rest_ne_nil hleft
    have hskip : Text.skipBlanks text ≠ [] := by
      intro hnil
      rw [hnil] at hleft
      cases hleft
    have hread := operand_extends hextends hnested hleft hbehind more
    obtain ⟨c, after, hskip⟩ := List.exists_cons_of_ne_nil hskip
    have hopen : c ≠ '(' := by
      rintro rfl
      exact hopen after hskip
    rw [hskip, List.cons_append] at hread
    rw [term, skipBlanks_cons_more hskip]
    split
    next hshape => exact absurd (List.cons.inj hshape).1 hopen
    next =>
      rw [hread]
      simp only [bind, Except.bind] at h ⊢
      rw [List.head?_append, List.head?_eq_some_head hbehind, Option.some_or,
        ← List.head?_eq_some_head hbehind]
      split_ifs at h ⊢ with hends
      · cases h
        rfl
      · obtain ⟨⟨operator, side⟩, hoperator, h⟩ := exists_of_bind_ok h
        obtain ⟨⟨right, behind'⟩, hright, h⟩ := exists_of_bind_ok h
        cases h
        have hside : side ≠ [] := by
          rintro rfl
          cases hright
        rw [readOperator_extends hoperator hside more]
        simp only
        rw [operand_extends hextends hnested hright hrest more]

omit hextends hnested in
theorem joined_extends {item item' : Reader Condition} (hitem : Extends item item') (mark : Char)
    {n n' : Nat} (hn : n ≤ n') : Extends (joined item mark n) (joined item' mark n') := by
  induction n generalizing n' with
  | zero =>
      intro text value rest h
      cases h
  | succ n ih =>
      intro text value rest h hrest more
      obtain ⟨n', rfl⟩ : ∃ m, n' = m + 1 := ⟨n' - 1, by omega⟩
      rw [joined] at h
      obtain ⟨⟨first, left⟩, hfirst, h⟩ := exists_of_bind_ok h
      cases left with
      | nil =>
          cases h
          exact absurd rfl hrest
      | cons c after =>
          rw [joined, hitem hfirst (List.cons_ne_nil c after) more]
          simp only [bind, Except.bind, List.cons_append] at h ⊢
          split_ifs at h ⊢ with hc
          · cases after with
            | nil => cases h
            | cons d behind =>
                simp only [List.cons_append] at h ⊢
                split_ifs at h ⊢ with hd
                · obtain ⟨⟨others, left⟩, hothers, h⟩ := exists_of_bind_ok h
                  cases h
                  rw [ih (Nat.le_of_succ_le_succ hn) hothers hrest more]
                · cases h
          · cases h
            rfl

theorem conjunction_extends : Extends (conjunction nested) (conjunction nested') := by
  intro text value rest h hrest more
  obtain ⟨⟨conditions, left⟩, hconditions, hshape⟩ := exists_of_map_ok h
  cases hshape
  have hlength : text.length ≤ (text ++ more).length := by simp
  rw [conjunction, joined_extends (term_extends hextends hnested) '&' hlength hconditions hrest]
  rfl

theorem disjunction_extends : Extends (disjunction nested) (disjunction nested') := by
  intro text value rest h hrest more
  obtain ⟨⟨conditions, left⟩, hconditions, hshape⟩ := exists_of_map_ok h
  cases hshape
  have hlength : text.length ≤ (text ++ more).length := by simp
  rw [disjunction,
    joined_extends (conjunction_extends hextends hnested) '|' hlength hconditions hrest]
  rfl

end Nested

/-- A greater depth allows all that a smaller one does. -/
theorem predicate_extends {depth depth' : Nat} (h : depth ≤ depth') :
    Extends (predicate depth) (predicate depth') := by
  induction depth generalizing depth' with
  | zero =>
      intro text value rest h
      cases h
  | succ depth ih =>
      obtain ⟨depth', rfl⟩ : ∃ m, depth' = m + 1 := ⟨depth' - 1, by omega⟩
      exact disjunction_extends (ih (Nat.le_of_succ_le_succ h)) (predicate_anchored depth)

end PathQuery.Path
