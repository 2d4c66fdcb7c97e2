import PathQuery.Proofs.Path.FinalFaults
import PathQuery.Proofs.Path.Predicates

/-!
# Path texts that are refused for good

A final fault in a part of a path is one of the whole path: the parts before it have ended,
and nothing behind it is looked at.  So a path text with a final fault has the same fault at
the same place whatever is written behind it.
-/

namespace PathQuery.Path

section Nested

variable {nested nested' : Reader Condition} {more : List Char}
  (hextends : Extends nested nested')
  (hstays : ∀ text, Stays more (nested text) (nested' (text ++ more)))
  (hnested : AnchoredReader nested)

/-! ## Segments -/

section Segments

variable {inPredicate : Bool}

/-- A name directly behind an indexer is refused at its first character. -/
theorem segments_name_behind_indexer {c : Char} (hc : isNameChar inPredicate c = true)
    (n : Nat) (descending : Bool) (text : List Char) :
    segments nested inPredicate (n + 1) descending .indexer (c :: text) =
      failAt (.unexpectedAfterIndexer c) (c :: text) := by
  rw [segments.eq_def]
  simp only [List.takeWhile_cons_of_pos hc]

include hextends hstays hnested

theorem segmentsAtMark_stays {n n' : Nat} (descending : Bool) (before : Before)
    (text : List Char)
    (hnext : ∀ descending before text,
      Stays more (segments nested inPredicate n descending before text)
        (segments nested' inPredicate n' descending before (text ++ more))) :
    Stays more (segmentsAtMark nested inPredicate n descending before text)
      (segmentsAtMark nested' inPredicate n' descending before (text ++ more)) := by
  rw [segmentsAtMark.eq_def nested]
  split
  next rest =>
    rw [List.cons_append, segmentsAtMark]
    refine (indexer_stays hextends hstays descending rest).bind ?_
    rintro ⟨found, left⟩ hfound
    have hanchored := indexer_anchored hnested descending (List.suffix_rfl (l := rest))
    rw [hfound] at hanchored
    obtain ⟨after, rfl, _⟩ := hanchored
    rw [indexer_more hextends hfound more]
    exact (hnext false .indexer after).map _ _
  next rest => exact hnext true .dot rest
  next rest hdots =>
    cases rest with
    | nil =>
        rw [segments_nil]
        exact (endPath_unsettled _ _ _).stays _
    | cons c after =>
        rw [List.cons_append, List.cons_append, segmentsAtMark]
        · exact hnext descending .dot (c :: after)
        · rintro _ ⟨⟩
          exact hdots after rfl
  next => exact (endPath_unsettled _ _ _).stays _

theorem segments_stays {n n' : Nat} (hn : n ≤ n') (descending : Bool) (before : Before)
    (text : List Char) :
    Stays more (segments nested inPredicate n descending before text)
      (segments nested' inPredicate n' descending before (text ++ more)) := by
  induction n generalizing n' descending before text with
  | zero => exact (endPath_unsettled _ _ _).stays _
  | succ n ih =>
      obtain ⟨n', rfl⟩ : ∃ m, n' = m + 1 := ⟨n' - 1, by omega⟩
      obtain ⟨name, left, rfl, hname, hleft⟩ := exists_name inPredicate text
      by_cases hbehind : before = .indexer → name = []
      · rw [segments_run hname hleft hbehind]
        cases left with
        | nil => exact ((endPath_unsettled _ _ _).map _).stays _
        | cons c left =>
            have hmore : NoName inPredicate (c :: left ++ more) := hleft
            rw [List.append_assoc, segments_run hname hmore hbehind]
            exact (segmentsAtMark_stays hextends hstays hnested _ _ (c :: left)
              (ih (by omega))).map _ _
      · obtain ⟨rfl, hne⟩ := Classical.not_imp.1 hbehind
        obtain ⟨c, others, rfl⟩ := List.exists_cons_of_ne_nil hne
        have hc := hname c List.mem_cons_self
        rw [List.cons_append, List.cons_append, segments_name_behind_indexer hc,
          segments_name_behind_indexer hc]
        exact stays_failAt _ (c :: (others ++ left))

end Segments

/-! ## Operands and terms -/

include hextends hstays hnested

theorem operandPath_stays (first : List Step) (text : List Char) :
    Stays more (operandPath nested first text) (operandPath nested' first (text ++ more)) :=
  (segments_stays hextends hstays hnested (by simp) false .start text).map _ _

theorem bareOperand_stays (text : List Char) :
    Stays more (bareOperand nested text) (bareOperand nested' (text ++ more)) := by
  cases text with
  | nil => exact (unsettled_failAt rfl _).stays _
  | cons c text =>
      rw [bareOperand, List.cons_append, bareOperand]
      refine stays_ite (fun _ => operandPath_stays hextends hstays hnested _ text) fun _ => ?_
      refine stays_ite (fun _ => operandPath_stays hextends hstays hnested _ text) fun _ => ?_
      refine stays_ite (fun _ => (quoted_stays text more).map _ _) fun _ => ?_
      refine stays_ite (fun _ => ((readRegex_unsettled text).map _).stays _) fun _ => ?_
      refine stays_ite (fun _ => ((readNumber_unsettled _).map _).stays _) fun _ => ?_
      refine stays_ite (fun _ => (readWord_unsettled _ _ _).stays _) fun _ => ?_
      refine stays_ite (fun _ => (readWord_unsettled _ _ _).stays _) fun _ => ?_
      refine stays_ite (fun _ => (readWord_unsettled _ _ _).stays _) fun _ => ?_
      exact (unsettled_unexpected _ _).stays _

theorem operand_stays (text : List Char) :
    Stays more (operand nested text) (operand nested' (text ++ more)) := by
  by_cases hnil : Text.skipBlanks text = []
  · rw [operand, hnil]
    exact (unsettled_failAt rfl _).stays _
  · rw [operand, operand, skipBlanks_more hnil]
    refine Stays.bind_reader (bareOperand_extends hextends hnested)
      (bareOperand_stays hextends hstays hnested _) (fun _ => unsettled_failAt rfl []) ?_
    intro side rest _ _
    exact (((skipInside_unsettled rest).bind fun _ _ => unsettled_ok _)).stays _

/-- What follows the left side of a comparison. -/
theorem comparison_stays (left : Operand) (text : List Char) :
    Stays more
      (do
        let (operator, rest) ← readOperator text
        let (right, rest) ← operand nested rest
        .ok (Condition.comparison operator left (some right), rest))
      (do
        let (operator, rest) ← readOperator (text ++ more)
        let (right, rest) ← operand nested' rest
        .ok (Condition.comparison operator left (some right), rest)) := by
  refine Stays.bind_reader readOperator_extends (readOperator_stays text more)
    (fun _ => unsettled_failAt rfl []) ?_
  intro operator rest _ _
  exact (operand_stays hextends hstays hnested rest).bind fun _ _ => (unsettled_ok _).stays _

theorem term_stays (text : List Char) :
    Stays more (term nested text) (term nested' (text ++ more)) := by
  by_cases hopen : (Text.skipBlanks text).head? = some '('
  · obtain ⟨rest, hskip⟩ := List.head?_eq_some_iff.1 hopen
    rw [term, term, hskip, skipBlanks_cons_more hskip]
    refine Stays.bind_reader hextends (hstays rest) (fun _ => unsettled_failAt rfl []) ?_
    intro condition left _ _
    refine Unsettled.stays ?_ _
    refine (closeParenthesis_unsettled left).bind fun behind _ => ?_
    exact (skipInside_unsettled behind).bind fun _ _ => unsettled_ok _
  · rw [term_comparison hopen]
    by_cases hnil : Text.skipBlanks text = []
    · rw [operand, hnil]
      exact (unsettled_failAt rfl _).stays _
    · obtain ⟨c, after, hskip⟩ := List.exists_cons_of_ne_nil hnil
      have hopen' : (Text.skipBlanks (text ++ more)).head? ≠ some '(' := by
        rw [hskip] at hopen
        rwa [skipBlanks_cons_more hskip]
      rw [term_comparison hopen']
      refine Stays.bind_reader (operand_extends hextends hnested)
        (operand_stays hextends hstays hnested text) (fun _ => unsettled_failAt rfl []) ?_
      intro left rest _ hrest
      obtain ⟨d, behind, rfl⟩ := List.exists_cons_of_ne_nil hrest
      simp only [List.cons_append, List.head?_cons, Option.any_some]
      refine stays_ite (fun _ => (unsettled_ok _).stays _) fun _ => ?_
      exact comparison_stays hextends hstays hnested left (d :: behind)

omit hextends hstays hnested in
theorem joined_stays {item item' : Reader Condition} (hitem : Extends item item')
    (hstays : ∀ text, Stays more (item text) (item' (text ++ more))) (mark : Char) {n n' : Nat}
    (hn : n ≤ n') (text : List Char) :
    Stays more (joined item mark n text) (joined item' mark n' (text ++ more)) := by
  induction n generalizing n' text with
  | zero => exact (unsettled_failAt rfl _).stays _
  | succ n ih =>
      obtain ⟨n', rfl⟩ : ∃ m, n' = m + 1 := ⟨n' - 1, by omega⟩
      rw [joined, joined]
      refine Stays.bind_reader hitem (hstays text) (fun _ => unsettled_ok _) ?_
      intro first rest _ hrest
      obtain ⟨c, after, rfl⟩ := List.exists_cons_of_ne_nil hrest
      simp only [List.cons_append]
      split
      next =>
        cases after with
        | nil => exact (unsettled_unexpected _ _).stays _
        | cons d behind =>
            simp only [List.cons_append]
            split
            next => exact (ih (by omega) behind).bind fun _ _ => (unsettled_ok _).stays _
            next => exact (unsettled_unexpected _ _).stays _
      next => exact (unsettled_ok _).stays _

theorem conjunction_stays (text : List Char) :
    Stays more (conjunction nested text) (conjunction nested' (text ++ more)) :=
  (joined_stays (term_extends hextends hnested) (term_stays hextends hstays hnested) '&'
    (by simp) text).map _ _

theorem disjunction_stays (text : List Char) :
    Stays more (disjunction nested text) (disjunction nested' (text ++ more)) :=
  (joined_stays (conjunction_extends hextends hnested) (conjunction_stays hextends hstays hnested)
    '|' (by simp) text).map _ _

end Nested

theorem predicate_stays {depth depth' : Nat} (h : depth ≤ depth') (text more : List Char) :
    Stays more (predicate depth text) (predicate depth' (text ++ more)) := by
  induction depth generalizing depth' text with
  | zero => exact (unsettled_failAt rfl _).stays _
  | succ depth ih =>
      obtain ⟨depth', rfl⟩ : ∃ m, depth' = m + 1 := ⟨depth' - 1, by omega⟩
      have hle : depth ≤ depth' := Nat.le_of_succ_le_succ h
      exact disjunction_stays (predicate_extends hle) (ih hle) (predicate_anchored depth) text

/-! ## Whole paths -/

/-- A character that belongs to no segment is refused where it stands. -/
theorem wholePath_stays (text more : List Char) :
    Stays more (wholePath text) (wholePath (text ++ more)) := by
  have hdepth : text.length ≤ (text ++ more).length := by simp
  rw [wholePath, wholePath]
  refine (segments_stays (predicate_extends hdepth) (fun text => predicate_stays hdepth text more)
    (predicate_anchored _) hdepth false .start text).bind ?_
  rintro ⟨steps, rest⟩ hsegments
  by_cases hnil : Text.skipBlanks rest = []
  · simp only [hnil]
    exact (unsettled_ok _).stays _
  · obtain ⟨c, after, hskip⟩ := List.exists_cons_of_ne_nil hnil
    have hrest : rest ≠ [] := by
      rintro rfl
      exact hnil rfl
    obtain ⟨m, _, hread⟩ := segments_append (predicate_extends hdepth) (predicate_anchored _)
      hsegments (Nat.le_refl _) (List.length_append).ge (by simp) fun h => absurd h hrest
    rw [hread, readBehind, if_neg (by simpa using hrest)]
    simp only [Except.map, behind, bind, Except.bind, hskip, skipBlanks_cons_more hskip]
    exact stays_unexpected .path c after

theorem readSteps_stays (text more : List Char) :
    Stays more (readSteps text) (readSteps (text ++ more)) := by
  by_cases hnil : Text.skipBlanks text = []
  · rw [readSteps, hnil]
    exact (unsettled_ok _).stays _
  · obtain ⟨c, rest, hskip⟩ := List.exists_cons_of_ne_nil hnil
    have hskip' := skipBlanks_cons_more hskip more
    by_cases hdollar : c = '$'
    · subst hdollar
      rw [readSteps, readSteps, hskip, hskip']
      cases rest with
      | nil => exact (unsettled_ok _).stays _
      | cons d behind =>
          refine stays_ite (fun _ => wholePath_stays (d :: behind) more) fun _ => ?_
          refine stays_ite (fun _ => ?_) fun _ => wholePath_stays ('$' :: d :: behind) more
          by_cases hnil : Text.skipBlanks (d :: behind) = []
          · rw [hnil]
            exact (unsettled_ok _).stays _
          · obtain ⟨e, others, hskip⟩ := List.exists_cons_of_ne_nil hnil
            rw [skipBlanks_cons_more hskip, hskip]
            exact stays_unexpected .path e others
    · rw [readSteps_of_ne hskip hdollar, readSteps_of_ne hskip' hdollar]
      exact wholePath_stays (c :: rest) more

/-- A place in a text is the same place in a longer text. -/
theorem locate_followedBy (failure : Failure) (text more : List Char) :
    (failure.followedBy more).locate (text ++ more) = failure.locate text := by
  rw [Failure.locate, Failure.locate, Failure.followedBy, Text.byteLength_append,
    Text.byteLength_append, Nat.add_sub_add_right]

/-- A final fault of a path text is the fault of every text that begins with it: the same
fault, with the same character or text, at the same place. -/
theorem parse_append_error {text : String} {error : ParseError}
    (herror : parse text = .error error) (hfinal : error.fault.isFinal = true) (more : String) :
    parse (text ++ more) = .error error := by
  rw [parse_eq] at herror ⊢
  cases hread : readSteps text.toList with
  | ok steps =>
      rw [hread] at herror
      cases herror
  | error failure =>
      rw [hread] at herror
      cases herror
      rw [String.toList_append, readSteps_stays text.toList more.toList failure hread hfinal]
      simp only [locate_followedBy]

/-- A letter that no backslash may precede, in a text that goes on to close the bracket. -/
theorem parse_append_error_escape :
    parse ("$.a['b\\q" ++ "', 'c']") = .error ⟨.unknownEscape 'q', 7⟩ := by
  have herror : parse "$.a['b\\q" = .error ⟨.unknownEscape 'q', 7⟩ := by rfl
  exact parse_append_error herror (by decide) "', 'c']"

end PathQuery.Path
