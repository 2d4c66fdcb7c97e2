import PathQuery.Proofs.Path.BlankEnds
import PathQuery.Proofs.Path.Concatenation
import PathQuery.Proofs.Path.Phrases

/-!
# Blanks behind a path

A path ends in front of blanks as it does at the end of the text, in all but one case.  A
dot at the end of the text asks for a name; a dot in front of blanks does not, unless it
stands inside of a predicate.
-/

namespace PathQuery.Path

/-- If a text ends with a dot that is not inside of a predicate, or is empty behind one. -/
def Dangles (inPredicate : Bool) (before : Before) (text : List Char) : Prop :=
  inPredicate = false ∧ ((text = [] ∧ before = .dot) ∨ text.getLast? = some '.')

/-- A text dangles if an end of it does, and nothing dangles behind an indexer. -/
theorem Dangles.append {inPredicate : Bool} {before before' : Before} {front text : List Char}
    (h : Dangles inPredicate before' text) (hbefore : before' = .dot → front = [] ∧ before = .dot) :
    Dangles inPredicate before (front ++ text) := by
  obtain ⟨hpath, ⟨rfl, hdot⟩ | hlast⟩ := h
  · obtain ⟨rfl, hsame⟩ := hbefore hdot
    exact ⟨hpath, Or.inl ⟨rfl, hsame⟩⟩
  · refine ⟨hpath, Or.inr ?_⟩
    rw [List.getLast?_append, hlast, Option.some_or]

theorem Dangles.dot {inPredicate : Bool} {before : Before} {text : List Char}
    (h : Dangles inPredicate .dot text) : Dangles inPredicate before ('.' :: text) := by
  obtain ⟨hpath, ⟨rfl, _⟩ | hlast⟩ := h
  · exact ⟨hpath, Or.inr rfl⟩
  · refine ⟨hpath, Or.inr ?_⟩
    rw [List.getLast?_cons, hlast]
    rfl

section Blanks

variable {blanks : List Char} (hblanks : Text.Blanks blanks)

section Nested

variable {nested : Reader Condition}
  (htrims : ∀ {dangling : Prop} text,
    Trims dangling (leaving blanks) (nested text) (nested (text ++ blanks)))
  (hnested : AnchoredReader nested)

/-! ## Segments -/

section Segments

variable {inPredicate : Bool}

include hblanks

theorem noName_blanks {text : List Char} (htext : NoName inPredicate text) :
    NoName inPredicate (text ++ blanks) := by
  cases text with
  | cons c text => exact htext
  | nil => exact (endsPath_blanks hblanks inPredicate).noName

/-- Where only blanks are left to read, a path ends. -/
theorem segments_blanks (rounds : Nat) (descending : Bool) (before : Before) :
    segments nested inPredicate rounds descending before blanks =
      endPath inPredicate before blanks := by
  have hends := endsPath_blanks hblanks inPredicate
  cases rounds with
  | zero => rfl
  | succ rounds => rw [segments_noName hends.noName, segmentsAtMark_end hends.noBracket hends.noDot]

omit hblanks in
/-- Blanks at the end of a path that dangles are taken for the rest of the path. -/
theorem endPath_trims (before : Before) (text : List Char) :
    Trims (Dangles inPredicate before text) (leaving blanks) (endPath inPredicate before text)
      (endPath inPredicate before (text ++ blanks)) := by
  rw [endPath, endPath]
  intro found h
  split_ifs at h with hend'
  · cases h
  · by_cases hend : before = .dot ∧ (text.isEmpty = true ∨ inPredicate = true)
    · rw [if_pos hend]
      obtain ⟨hbefore, hempty | hinside⟩ := hend
      · obtain rfl := List.isEmpty_iff.1 hempty
        have hpath : inPredicate = false := by
          by_contra hinside
          exact hend' ⟨hbefore, Or.inr (by simpa using hinside)⟩
        exact Or.inr ⟨⟨hpath, Or.inl ⟨rfl, hbefore⟩⟩, rfl⟩
      · exact absurd ⟨hbefore, Or.inr hinside⟩ hend'
    · rw [if_neg hend]
      exact trims_ok _ _ found h

include htrims hnested

theorem segmentsAtMark_trims {n n' : Nat} (descending : Bool) (before : Before)
    (text : List Char) (hn : text.length ≤ n + 1)
    (hnext : ∀ descending before text, text.length ≤ n →
      Trims (Dangles inPredicate before text) (leaving blanks)
        (segments nested inPredicate n descending before text)
        (segments nested inPredicate n' descending before (text ++ blanks))) :
    Trims (Dangles inPredicate before text) (leaving blanks)
      (segmentsAtMark nested inPredicate n descending before text)
      (segmentsAtMark nested inPredicate n' descending before (text ++ blanks)) := by
  rw [segmentsAtMark.eq_def nested inPredicate n]
  split
  next rest =>
    rw [List.length_cons] at hn
    rw [List.cons_append, segmentsAtMark]
    refine (indexer_trims hblanks htrims descending rest).bind ?_
    rintro ⟨found, left⟩ hfound
    have hanchored := indexer_anchored hnested descending (List.suffix_rfl (l := rest))
    rw [hfound] at hanchored
    obtain ⟨after, rfl, hbracket⟩ := hanchored
    have hafter := suffix_of_cons hbracket
    have hlength := hafter.length_le
    obtain ⟨front, rfl⟩ := hafter
    have hdangles : Dangles inPredicate .indexer after →
        Dangles inPredicate before ('[' :: front ++ after) :=
      fun h => h.append fun hdot => by cases hdot
    exact ((hnext false .indexer after (by omega)).mono hdangles).map fun _ => rfl
  next rest =>
    rw [List.length_cons, List.length_cons] at hn
    exact (hnext true .dot rest (by omega)).mono fun h => h.dot.dot
  next rest hdots =>
    rw [List.length_cons] at hn
    rw [List.cons_append, segmentsAtMark]
    · exact (hnext descending .dot rest (by omega)).mono Dangles.dot
    · intro after hshape
      obtain ⟨others, rfl, _⟩ := exists_cons_of_blanks hblanks hshape rfl
      exact hdots others rfl
  next hbracket hdots hdot =>
    rw [segmentsAtMark_end (head?_blanks hblanks rfl (head?_ne hbracket))
      (head?_blanks hblanks rfl (head?_ne hdot))]
    exact endPath_trims before text

/-- In every round the same is read, and the last one may be at a dot that dangles. -/
theorem segments_trims {n n' : Nat} (hn' : n ≤ n') (descending : Bool) (before : Before)
    (text : List Char) (hn : text.length ≤ n) :
    Trims (Dangles inPredicate before text) (leaving blanks)
      (segments nested inPredicate n descending before text)
      (segments nested inPredicate n' descending before (text ++ blanks)) := by
  induction n generalizing n' descending before text with
  | zero =>
      obtain rfl := List.eq_nil_of_length_eq_zero (Nat.le_zero.1 hn)
      rw [segments_nil, List.nil_append, segments_blanks hblanks]
      exact endPath_trims before []
  | succ n ih =>
      obtain ⟨n', rfl⟩ : ∃ m, n' = m + 1 := ⟨n' - 1, by omega⟩
      obtain ⟨name, left, rfl, hname, hleft⟩ := exists_name inPredicate text
      rw [List.length_append] at hn
      by_cases hbehind : before = .indexer → name = []
      · have hmark := segmentsAtMark_trims hblanks htrims hnested
          (descending && name.isEmpty) (if name.isEmpty then before else .start) left
          (by omega) (ih (Nat.le_of_succ_le_succ hn'))
        rw [List.append_assoc, segments_run hname hleft hbehind,
          segments_run hname (noName_blanks hblanks hleft) hbehind]
        refine Trims.map (hmark.mono fun h => h.append fun hdot => ?_) fun _ => rfl
        cases name with
        | nil => exact ⟨rfl, hdot⟩
        | cons c others => cases hdot
      · obtain ⟨rfl, hne⟩ := Classical.not_imp.1 hbehind
        rw [List.append_assoc]
        exact trims_of_ne fun read => segments_name_indexer hname (noName_blanks hblanks hleft) hne

end Segments

/-! ## Operands and terms -/

variable {dangling : Prop}

include hblanks htrims hnested

omit hblanks htrims hnested in
theorem not_dangles {before : Before} {text : List Char} (h : Dangles true before text) :
    dangling := by
  cases h.1

theorem operandPath_trims (first : List Step) (text : List Char) :
    Trims dangling (leaving blanks) (operandPath nested first text)
      (operandPath nested first (text ++ blanks)) := by
  have hrounds : text.length ≤ (text ++ blanks).length := by simp
  have hread : Trims (Dangles true .start text) (leaving blanks)
      (segments nested true text.length false .start text)
      (segments nested true (text ++ blanks).length false .start (text ++ blanks)) :=
    segments_trims hblanks htrims hnested hrounds false .start text (Nat.le_refl _)
  exact (hread.mono not_dangles).map fun _ => rfl

theorem bareOperand_trims (c : Char) (text : List Char) :
    Trims dangling (leaving blanks) (bareOperand nested (c :: text))
      (bareOperand nested (c :: text ++ blanks)) := by
  rw [bareOperand, List.cons_append, bareOperand]
  refine trims_ite (fun _ => operandPath_trims hblanks htrims hnested _ text) fun _ => ?_
  refine trims_ite (fun _ => operandPath_trims hblanks htrims hnested _ text) fun _ => ?_
  refine trims_ite (fun _ => (quoted_trims hblanks text).map fun _ => rfl) fun _ => ?_
  refine trims_ite (fun _ => (readRegex_trims hblanks text).map fun _ => rfl) fun _ => ?_
  refine trims_ite (fun _ => (readNumber_trims hblanks (c :: text)).map fun _ => rfl) fun _ => ?_
  refine trims_ite (fun _ => readWord_trims hblanks (by decide) _ c text) fun _ => ?_
  refine trims_ite (fun _ => readWord_trims hblanks (by decide) _ c text) fun _ => ?_
  refine trims_ite (fun _ => readWord_trims hblanks (by decide) _ c text) fun _ => ?_
  exact trims_unexpected

theorem operand_trims (text : List Char) :
    Trims dangling (leaving blanks) (operand nested text) (operand nested (text ++ blanks)) := by
  rw [operand, operand]
  refine Trims.bind (Trims.skip hblanks (by rintro _ ⟨⟩) fun c rest _ =>
    bareOperand_trims hblanks htrims hnested c rest) ?_
  rintro ⟨side, rest⟩ _
  exact (skipInside_trims hblanks rest).bind fun _ _ => trims_ok _ _

omit hblanks htrims hnested in
/-- Blanks are no operand. -/
theorem operand_blanks {text : List Char} (htext : Text.Blanks text) (read : Operand × List Char) :
    operand nested text ≠ .ok read := by
  rw [operand, Text.skipBlanks_blanks htext]
  rintro ⟨⟩

/-- What follows the left side of a comparison. -/
theorem comparison_trims (left : Operand) (text : List Char) :
    Trims dangling (leaving blanks)
      (do
        let (operator, rest) ← readOperator text
        let (right, rest) ← operand nested rest
        .ok (Condition.comparison operator left (some right), rest))
      (do
        let (operator, rest) ← readOperator (text ++ blanks)
        let (right, rest) ← operand nested rest
        .ok (Condition.comparison operator left (some right), rest)) := by
  intro found h
  obtain ⟨⟨operator, rest'⟩, hoperator, h⟩ := exists_of_bind_ok h
  rcases readOperator_trims hblanks hoperator with hrest | ⟨rest, rfl, hread⟩
  · obtain ⟨read, hright, _⟩ := exists_of_bind_ok h
    exact absurd hright (operand_blanks hrest read)
  · rw [hread]
    refine Trims.bind (operand_trims hblanks htrims hnested rest) ?_ found h
    exact fun _ _ => trims_ok _ _

theorem term_trims (text : List Char) :
    Trims dangling (leaving blanks) (term nested text) (term nested (text ++ blanks)) := by
  rcases skipBlanks_cases hblanks text with ⟨_, hskip⟩ | ⟨c, rest, hskip, _, hskip'⟩
  · rw [term.eq_def nested (text ++ blanks), hskip]
    exact trims_failAt
  · by_cases hopen : c = '('
    · subst hopen
      rw [term, term, hskip, hskip']
      refine (htrims rest).bind ?_
      rintro ⟨condition, left⟩ _
      refine (closeParenthesis_trims hblanks left).bind fun behind _ => ?_
      exact (skipInside_trims hblanks behind).bind fun _ _ => trims_ok _ _
    · rw [term_comparison (by simpa [hskip] using hopen),
        term_comparison (by simpa [hskip'] using hopen)]
      refine (operand_trims hblanks htrims hnested text).bind ?_
      rintro ⟨left, rest⟩ hleft
      obtain ⟨d, behind, rfl⟩ := List.exists_cons_of_ne_nil (operand_rest_ne_nil hleft)
      refine trims_ite (fun _ => trims_ok _ _) fun _ => ?_
      exact comparison_trims hblanks htrims hnested left (d :: behind)

omit htrims hnested in
/-- Conditions are joined by marks, and no blank is one. -/
theorem joined_trims {item : Reader Condition}
    (hitem : ∀ {dangling : Prop} text,
      Trims dangling (leaving blanks) (item text) (item (text ++ blanks)))
    (hanchored : AnchoredReader item) (hnil : item [] = failAt .openPredicate []) {mark : Char}
    (hmark : Text.isBlank mark = false) {n : Nat} (n' : Nat) {text : List Char}
    (hn : text.length ≤ n) :
    Trims dangling (leaving blanks) (joined item mark n text)
      (joined item mark n' (text ++ blanks)) := by
  induction n' generalizing n text with
  | zero => exact trims_failAt
  | succ n' ih =>
      cases n with
      | zero =>
          obtain rfl := List.eq_nil_of_length_eq_zero (Nat.le_zero.1 hn)
          have hnone : Trims False (leaving blanks) (item []) (item ([] ++ blanks)) := hitem []
          intro found h
          obtain ⟨read, hread, _⟩ := exists_of_bind_ok h
          rcases hnone read hread with ⟨_, _, hfirst⟩ | ⟨hfalse, _⟩
          · rw [hnil] at hfirst
            cases hfirst
          · exact hfalse.elim
      | succ n =>
          rw [joined, joined]
          refine (hitem text).bind ?_
          rintro ⟨first, rest⟩ hfirst
          have hrest : rest <:+ text := by
            have hleaves := hanchored text
            rwa [hfirst] at hleaves
          have hlength := hrest.length_le
          simp only [leaving]
          intro found h
          split at h
          next hshape =>
            obtain ⟨rfl, rfl⟩ := List.append_eq_nil_iff.1 hshape
            exact trims_ok _ _ found h
          next c after' hshape =>
            by_cases hc : c = mark
            · subst hc
              obtain ⟨after, rfl, rfl⟩ := exists_cons_of_blanks hblanks hshape hmark
              rw [if_pos rfl] at h
              split at h
              next => cases h
              next d more' hafter =>
                by_cases hd : d = c
                · subst hd
                  obtain ⟨more, rfl, rfl⟩ := exists_cons_of_blanks hblanks hafter hmark
                  simp only [List.length_cons] at hlength
                  simp only [if_true] at h ⊢
                  refine Trims.bind (ih (by omega)) ?_ found h
                  exact fun _ _ => trims_ok _ _
                · rw [if_neg hd] at h
                  cases h
            · rw [if_neg hc, ← hshape] at h
              cases rest with
              | nil => exact trims_ok (leaving blanks) ([first], []) found h
              | cons d behind =>
                  obtain ⟨rfl, _⟩ := List.cons.inj hshape
                  simp only [if_neg hc]
                  exact trims_ok (leaving blanks) ([first], d :: behind) found h

theorem conjunction_trims (text : List Char) :
    Trims dangling (leaving blanks) (conjunction nested text)
      (conjunction nested (text ++ blanks)) :=
  (joined_trims hblanks (term_trims hblanks htrims hnested) (term_anchored hnested) rfl rfl _
    (Nat.le_refl _)).map fun _ => rfl

theorem disjunction_trims (text : List Char) :
    Trims dangling (leaving blanks) (disjunction nested text)
      (disjunction nested (text ++ blanks)) :=
  (joined_trims hblanks (conjunction_trims hblanks htrims hnested) (conjunction_anchored hnested)
    rfl rfl _ (Nat.le_refl _)).map fun _ => rfl

end Nested

include hblanks

theorem predicate_trims (depth : Nat) {dangling : Prop} (text : List Char) :
    Trims dangling (leaving blanks) (predicate depth text) (predicate depth (text ++ blanks)) := by
  induction depth generalizing dangling text with
  | zero => exact trims_failAt
  | succ depth ih => exact disjunction_trims hblanks ih (predicate_anchored depth) text

/-! ## Whole paths -/

theorem wholePath_trims (text : List Char) :
    Trims (text.getLast? = some '.') id (wholePath text) (wholePath (text ++ blanks)) := by
  have hlength : text.length ≤ (text ++ blanks).length := by simp
  have hdeeper : segments (predicate text.length) false text.length false .start text =
      segments (predicate (text ++ blanks).length) false text.length false .start text :=
    segments_rounds (Nat.le_refl _) hlength (Nat.le_refl _) (Nat.le_refl _)
  have hread : Trims (Dangles false .start text) (leaving blanks)
      (segments (predicate (text ++ blanks).length) false text.length false .start text)
      (segments (predicate (text ++ blanks).length) false (text ++ blanks).length false .start
        (text ++ blanks)) :=
    segments_trims hblanks (predicate_trims hblanks _) (predicate_anchored _) hlength false .start
      text (Nat.le_refl _)
  have hdangles : Dangles false .start text → text.getLast? = some '.' := by
    rintro ⟨_, ⟨_, hdot⟩ | hlast⟩
    · cases hdot
    · exact hlast
  rw [wholePath, wholePath, hdeeper]
  refine (hread.mono hdangles).bind ?_
  rintro ⟨steps, rest⟩ _
  rcases skipBlanks_cases hblanks rest with ⟨hskip, hskip'⟩ | ⟨c, after, _, _, hskip'⟩
  · simp only [leaving, hskip, hskip']
    exact trims_ok id steps
  · simp only [leaving, hskip']
    exact trims_unexpected

/-- A dollar sign stands for the root in front of blanks as it does at the end. -/
theorem readSteps_dollar {text : List Char} (hskip : Text.skipBlanks text = '$' :: blanks) :
    readSteps text = .ok [] := by
  rw [readSteps, hskip]
  cases blanks with
  | nil => rfl
  | cons b others =>
      have hmark : ¬(b = '.' ∨ b = '[') := by
        rintro (rfl | rfl)
        · exact ne_of_blank hblanks rfl rfl rfl
        · exact ne_of_blank hblanks rfl rfl rfl
      simp only [if_neg hmark, if_pos (hblanks b List.mem_cons_self),
        Text.skipBlanks_blanks hblanks]

/-- With blanks behind it a text comes to the same: to no steps, to the same segments with
the blanks behind them, or to no path at all. -/
theorem readSteps_cases (text : List Char) :
    (readSteps text = .ok [] ∧ readSteps (text ++ blanks) = .ok []) ∨
      (∃ after, after <:+ text ∧ readSteps text = wholePath after ∧
        readSteps (text ++ blanks) = wholePath (after ++ blanks)) ∨
      ∀ steps, readSteps text ≠ .ok steps ∧ readSteps (text ++ blanks) ≠ .ok steps := by
  rcases skipBlanks_cases hblanks text with ⟨hskip, hskip'⟩ | ⟨c, rest, hskip, hsuffix, hskip'⟩
  · left
    rw [readSteps, readSteps, hskip, hskip']
    exact ⟨rfl, rfl⟩
  · by_cases hdollar : c = '$'
    · subst hdollar
      cases rest with
      | nil =>
          left
          exact ⟨readSteps_dollar Text.blanks_nil hskip, readSteps_dollar hblanks hskip'⟩
      | cons d behind =>
          rw [readSteps, readSteps, hskip, hskip']
          simp only [List.cons_append]
          split_ifs with hmark hblank
          · exact Or.inr (Or.inl ⟨d :: behind, suffix_of_cons hsuffix, rfl, rfl⟩)
          · rcases skipBlanks_cases hblanks (d :: behind) with
              ⟨hrest, hrest'⟩ | ⟨e, left, hrest, _, hrest'⟩
            · rw [List.cons_append] at hrest'
              rw [hrest, hrest']
              exact Or.inl ⟨rfl, rfl⟩
            · rw [List.cons_append] at hrest'
              rw [hrest, hrest']
              refine Or.inr (Or.inr fun steps => ⟨?_, ?_⟩)
              · rintro ⟨⟩
              · rintro ⟨⟩
          · exact Or.inr (Or.inl ⟨'$' :: d :: behind, hsuffix, rfl, rfl⟩)
    · rw [readSteps_of_ne hskip hdollar, readSteps_of_ne hskip' hdollar]
      exact Or.inr (Or.inl ⟨c :: rest, hsuffix, rfl, rfl⟩)

/-- A path text with blanks behind it is read as it is without them, unless a dot is in front
of the blanks. -/
theorem readSteps_trims (text : List Char) :
    Trims (text.getLast? = some '.') id (readSteps text) (readSteps (text ++ blanks)) := by
  rcases readSteps_cases hblanks text with ⟨hread, hread'⟩ | ⟨after, hafter, hread, hread'⟩ | hnone
  · rw [hread, hread']
    exact trims_ok id []
  · rw [hread, hread']
    refine (wholePath_trims hblanks after).mono fun hlast => ?_
    obtain ⟨front, rfl⟩ := hafter
    rw [List.getLast?_append, hlast, Option.some_or]
  · exact trims_of_ne fun steps => (hnone steps).2

/-- A path may go on with blanks. -/
theorem wholePath_blanks {text : List Char} {steps : List Step} (h : wholePath text = .ok steps) :
    wholePath (text ++ blanks) = .ok steps := by
  obtain ⟨⟨found, rest⟩, hsegments, h⟩ := exists_of_bind_ok h
  simp only at h
  split at h
  next hskip =>
    cases h
    obtain ⟨m, _, hread⟩ := segments_append
      (predicate_extends (Nat.le_add_right text.length blanks.length)) (predicate_anchored _)
      hsegments (Nat.le_refl _) (Nat.le_refl _) (by simp)
      fun _ => (endsPath_blanks hblanks false).noName
    have hrest : Text.skipBlanks (rest ++ blanks) = [] := by
      rcases skipBlanks_cases hblanks rest with ⟨_, hskip'⟩ | ⟨c, after, hskip', _⟩
      · exact hskip'
      · rw [hskip] at hskip'
        cases hskip'
    have hbehind : readBehind (predicate (text.length + blanks.length)) false m rest blanks =
        .ok ([], rest ++ blanks) := by
      rw [readBehind]
      split
      next hempty =>
        obtain rfl := List.isEmpty_iff.1 hempty
        rw [segments_blanks hblanks]
        rfl
      next => rfl
    rw [wholePath, List.length_append, hread, hbehind]
    simp [Except.map, behind, bind, Except.bind, hrest]
  next => cases h

theorem readSteps_blanks {text : List Char} {steps : List Step} (h : readSteps text = .ok steps) :
    readSteps (text ++ blanks) = .ok steps := by
  rcases readSteps_cases hblanks text with ⟨hread, hread'⟩ | ⟨after, _, hread, hread'⟩ | hnone
  · rw [hread', ← hread, h]
  · rw [hread']
    exact wholePath_blanks hblanks (hread ▸ h)
  · exact absurd h (hnone steps).1

/-- Blanks behind a dot end a path, though the dot asks for a name at the end of a text. -/
theorem readSteps_dot_blanks {text : List Char} {steps : List Step} (h : readSteps text = .ok steps)
    (htext : ∀ c ∈ text.getLast?, Text.isBlank c = false) (hne : blanks ≠ []) :
    readSteps (text ++ '.' :: blanks) = .ok steps ∧
      readSteps (text ++ ['.']) = failAt .unexpectedEnd [] := by
  have hdot : wholePath ('.' :: blanks) = .ok [] := by
    have hnext : blanks.head? ≠ some '.' := (endsPath_blanks hblanks false).noDot
    have hend : endPath false .dot blanks = .ok ([], blanks) := by
      rw [endPath, if_neg]
      simp [hne]
    rw [wholePath, List.length_cons, segments_dot hnext, segments_blanks hblanks, hend]
    simp only [bind, Except.bind, Text.skipBlanks_blanks hblanks]
  constructor
  · rw [readSteps_append h htext (Or.inl rfl), (mark_of_head? (Or.inl rfl)).2.2.1, hdot]
    simp [Except.map]
  · rw [readSteps_append h htext (Or.inl rfl)]
    rfl

end Blanks

/-! ## Path texts -/

/-- Blanks behind a path text mean nothing, as long as no dot is in front of them.  A text is
accepted with blanks behind it if it is accepted, with the same steps.  If it is accepted
only with the blanks, then it ends with a dot and ends too early; and every path text that
does not end in a blank becomes such a text by a dot at its end. -/
theorem parse_append_blanks {blanks : String} (hblanks : Text.Blanks blanks.toList)
    (text : String) :
    (∀ steps, parse text = .ok ⟨text, steps⟩ →
        parse (text ++ blanks) = .ok ⟨text ++ blanks, steps⟩) ∧
      (∀ steps, parse (text ++ blanks) = .ok ⟨text ++ blanks, steps⟩ →
        parse text = .ok ⟨text, steps⟩ ∨
          (text.toList.getLast? = some '.' ∧
            parse text = .error ⟨.unexpectedEnd, text.utf8ByteSize⟩)) ∧
      ∀ steps, parse text = .ok ⟨text, steps⟩ →
        (∀ c ∈ text.toList.getLast?, Text.isBlank c = false) → blanks ≠ "" →
        parse (text ++ "." ++ blanks) = .ok ⟨text ++ "." ++ blanks, steps⟩ ∧
          parse (text ++ ".") = .error ⟨.unexpectedEnd, (text ++ ".").utf8ByteSize⟩ := by
  have hend : ∀ {text : String}, readSteps text.toList = failAt .unexpectedEnd [] →
      parse text = .error ⟨.unexpectedEnd, text.utf8ByteSize⟩ := by
    intro text h
    rw [parse_eq, h, ← byteLength_toList]
    rfl
  refine ⟨?_, ?_, ?_⟩
  · intro steps h
    rw [parse_eq_ok_iff] at h ⊢
    rw [String.toList_append]
    exact readSteps_blanks hblanks h
  · intro steps h
    rw [parse_eq_ok_iff, String.toList_append] at h
    rcases readSteps_trims hblanks text.toList steps h with ⟨_, rfl, hread⟩ | ⟨hdot, hread⟩
    · exact Or.inl (parse_eq_ok_iff.2 hread)
    · exact Or.inr ⟨hdot, hend hread⟩
  · intro steps h htext hne
    have hblank : blanks.toList ≠ [] := by simpa using hne
    have hdot := readSteps_dot_blanks hblanks (parse_eq_ok_iff.1 h) htext hblank
    constructor
    · rw [parse_eq_ok_iff, String.toList_append, String.toList_append, List.append_assoc]
      exact hdot.1
    · refine hend ?_
      rw [String.toList_append]
      exact hdot.2

/-- A line feed and a space behind an indexer change nothing, but behind a dot they do. -/
theorem parse_append_blanks_indexer :
    parse ("$.é[0]" ++ "\n ") = .ok ⟨"$.é[0]\n ", [.member (some "é"), .element (some 0)]⟩ ∧
      parse ("$.é[0]" ++ "." ++ "\n ") =
        .ok ⟨"$.é[0].\n ", [.member (some "é"), .element (some 0)]⟩ ∧
      parse ("$.é[0]" ++ ".") = .error ⟨.unexpectedEnd, 8⟩ := by
  have hblanks : Text.Blanks "\n ".toList := by decide
  have hpath : parse "$.é[0]" = .ok ⟨"$.é[0]", [.member (some "é"), .element (some 0)]⟩ := by rfl
  have hend : ∀ c ∈ "$.é[0]".toList.getLast?, Text.isBlank c = false := by
    rintro c ⟨⟩
    rfl
  obtain ⟨hbehind, _, hdot⟩ := parse_append_blanks hblanks "$.é[0]"
  exact ⟨hbehind _ hpath, hdot _ hpath hend (by decide)⟩

/-- A dot at the end of a text asks for a name, but not in front of a blank, so a blank may
make a path text of one that is none. -/
theorem not_parse_append_blanks :
    ¬∀ text blanks : String, Text.Blanks blanks.toList → ∀ steps,
      parse (text ++ blanks) = .ok ⟨text ++ blanks, steps⟩ ↔ parse text = .ok ⟨text, steps⟩ := by
  intro h
  have hblank : parse ("Blah." ++ " ") = .ok ⟨"Blah. ", [.member (some "Blah")]⟩ := by rfl
  have hdot : parse "Blah." = .error ⟨.unexpectedEnd, 5⟩ := by rfl
  have hread := (h "Blah." " " (by decide) _).1 hblank
  rw [hdot] at hread
  cases hread

end PathQuery.Path
