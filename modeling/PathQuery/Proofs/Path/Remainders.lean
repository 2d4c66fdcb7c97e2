import PathQuery.Path.Grammar
import PathQuery.Proofs.Runs

/-!
# Where readers stop and fail

A reader consumes the front of its text.  What it leaves is an end of the text, and so
is the place that it blames; and what a fault says of that place can be read there: the
character that it names is the first one, the token that it quotes stands in front.
The property is closed under sequencing, so each reader inherits it from its parts.
-/

namespace PathQuery

/-- If a fault can be read off the text that begins where it was found: the character
that it names, the closing bracket that it stands at, or the token that it quotes. -/
def Fault.BornOutBy (fault : Fault) (rest : List Char) : Prop :=
  match fault with
  | .unexpectedCharacter _ c | .unexpectedAfterIndexer c | .unknownEscape c => rest.head? = some c
  | .indexExpected => rest.head? = some ']'
  | .invalidIndex token | .invalidNumber token | .invalidRegex token _ => token.toList <+: rest
  | _ => True

namespace Path

/-- The text made of a token starts wherever the token does. -/
theorem prefix_ofList {token rest : List Char} (h : token <+: rest) :
    (String.ofList token).toList <+: rest := by
  simpa only [String.toList_ofList] using h

/-! ## Anchored results -/

/-- A result about an end of a text: a value with some property, or a fault that an end
of the text bears out. -/
def Anchored {α : Type} (whole : List Char) (good : α → Prop) : Except Failure α → Prop
  | .ok value => good value
  | .error failure => failure.rest <:+ whole ∧ failure.fault.BornOutBy failure.rest

/-- If what is left behind a value is an end of a text. -/
def Leaves {α : Type} (whole : List Char) (read : α × List Char) : Prop :=
  read.2 <:+ whole

/-- A reader that leaves an end of its text, or blames one that bears the fault out. -/
def AnchoredReader {α : Type} (read : Reader α) : Prop :=
  ∀ text, Anchored text (Leaves text) (read text)

section Anchored

variable {α β : Type} {whole rest : List Char} {good : α → Prop} {fine : β → Prop}

theorem anchored_ok {value : α} (h : good value) : Anchored whole good (.ok value) := h

theorem anchored_failAt {fault : Fault} (hrest : rest <:+ whole) (hfault : fault.BornOutBy rest) :
    Anchored whole good (failAt fault rest) :=
  ⟨hrest, hfault⟩

/-- An unexpected character is the first one at its place. -/
theorem anchored_unexpected {context : Context} {c : Char} (hrest : c :: rest <:+ whole) :
    Anchored whole good (unexpected context c rest) :=
  ⟨hrest, rfl⟩

theorem Anchored.bind {result : Except Failure α} {next : α → Except Failure β}
    (hresult : Anchored whole good result)
    (hnext : ∀ value, good value → Anchored whole fine (next value)) :
    Anchored whole fine (result >>= next) := by
  cases result with
  | error failure => exact hresult
  | ok value => exact hnext value hresult

theorem Anchored.map {result : Except Failure α} {f : α → β}
    (hresult : Anchored whole good result) (hf : ∀ value, good value → fine (f value)) :
    Anchored whole fine (result.map f) := by
  cases result with
  | error failure => exact hresult
  | ok value => exact hf value hresult

/-- What is anchored in an end of a text is anchored in the text. -/
theorem Anchored.mono {result : Except Failure α} {better : α → Prop}
    (hresult : Anchored rest better result) (hrest : rest <:+ whole)
    (hgood : ∀ value, better value → good value) : Anchored whole good result := by
  cases result with
  | error failure => exact ⟨hresult.1.trans hrest, hresult.2⟩
  | ok value => exact hgood value hresult

/-- A reader may be applied to any end of a text. -/
theorem AnchoredReader.at {read : Reader α} (hread : AnchoredReader read) (hrest : rest <:+ whole) :
    Anchored whole (Leaves whole) (read rest) :=
  (hread rest).mono hrest fun _ hleft => hleft.trans hrest

end Anchored

section Suffixes

variable {whole rest : List Char}

theorem suffix_of_cons {c : Char} (h : c :: rest <:+ whole) : rest <:+ whole :=
  (List.suffix_cons c rest).trans h

theorem skipBlanks_suffix (h : rest <:+ whole) : Text.skipBlanks rest <:+ whole :=
  (List.dropWhile_suffix _).trans h

/-- Where something stands behind the blanks, it stands in the text. -/
theorem suffix_of_skipBlanks {found : List Char}
    (h : rest <:+ whole) (hfound : Text.skipBlanks rest = found) : found <:+ whole :=
  hfound ▸ skipBlanks_suffix h

end Suffixes

/-! ## Names, indices and constants -/

section Parts

variable {whole : List Char}

theorem quoted_anchored : AnchoredReader quoted := by
  intro text
  fun_induction quoted text with
  | case1 => exact anchored_failAt List.suffix_rfl trivial
  | case2 rest => exact anchored_ok (List.suffix_cons _ _)
  | case3 c rest value hvalue ih =>
      have hrest : rest <:+ '\\' :: c :: rest := suffix_of_cons (List.suffix_cons _ _)
      exact (ih.mono hrest fun _ hleft => hleft.trans hrest).map fun _ hleft => hleft
  | case4 c rest hvalue => exact anchored_failAt (List.suffix_cons _ _) rfl
  | case5 c rest _ _ ih =>
      have hrest : rest <:+ c :: rest := List.suffix_cons _ _
      exact (ih.mono hrest fun _ hleft => hleft.trans hrest).map fun _ hleft => hleft

/-- Names are read up to a closing bracket. -/
theorem quotedNames_anchored (rounds : Nat) {text : List Char} (htext : text <:+ whole) :
    Anchored whole (fun read => ∃ rest, read.2 = ']' :: rest ∧ read.2 <:+ whole)
      (quotedNames rounds text) := by
  induction rounds generalizing text with
  | zero => exact anchored_failAt htext trivial
  | succ rounds ih =>
      cases text with
      | nil => exact anchored_failAt htext trivial
      | cons c rest =>
          rw [quotedNames]
          split
          · refine (quoted_anchored.at (suffix_of_cons htext)).bind ?_
            rintro ⟨name, rest⟩ hleft
            simp only
            split
            next => exact anchored_failAt List.nil_suffix trivial
            next after hskip =>
              exact anchored_ok ⟨after, rfl, suffix_of_skipBlanks hleft hskip⟩
            next after hskip =>
              refine (ih (skipBlanks_suffix ?_)).bind ?_
              · exact suffix_of_cons (suffix_of_skipBlanks hleft hskip)
              · exact fun read hread => anchored_ok hread
            next c' after _ _ hskip => exact anchored_unexpected (suffix_of_skipBlanks hleft hskip)
          · exact anchored_unexpected htext

theorem readIndex_anchored {token text : List Char}
    (htoken : token <+: text) (htext : text <:+ whole) :
    Anchored whole (fun _ => True) (readIndex token text) := by
  rw [readIndex]
  split
  · trivial
  · exact anchored_failAt htext (prefix_ofList htoken)

theorem readBound_anchored {token text : List Char}
    (htoken : token <+: text) (htext : text <:+ whole) :
    Anchored whole (fun _ => True) (readBound token text) := by
  rw [readBound]
  split
  · trivial
  · exact (readIndex_anchored htoken htext).map fun _ _ => trivial

/-- The only place that an indexer blames at its bracket is the bracket itself. -/
theorem close_anchored (form : IndexerForm) {token text rest : List Char}
    (htoken : token <+: text) (htext : text <:+ whole) (hrest : ']' :: rest <:+ whole) :
    Anchored whole (fun _ => True) (form.close token text (']' :: rest)) := by
  cases form with
  | single =>
      rw [IndexerForm.close]
      split
      · exact anchored_failAt hrest rfl
      · exact (readIndex_anchored htoken htext).map fun _ _ => trivial
  | list indices =>
      rw [IndexerForm.close]
      split
      · exact anchored_failAt hrest rfl
      · exact (readIndex_anchored htoken htext).map fun _ _ => trivial
  | sliceStop start => exact (readBound_anchored htoken htext).map fun _ _ => trivial
  | sliceStride start stop => exact (readBound_anchored htoken htext).map fun _ _ => trivial

/-- An array indexer is read up to its closing bracket. -/
theorem arrayIndexer_anchored (rounds : Nat) (form : IndexerForm) {text : List Char}
    (htext : text <:+ whole) :
    Anchored whole (fun read => ∃ rest, read.2 = ']' :: rest ∧ read.2 <:+ whole)
      (arrayIndexer rounds form text) := by
  induction rounds generalizing form text with
  | zero => exact anchored_failAt htext trivial
  | succ rounds ih =>
      have htoken : text.takeWhile isIndexChar <+: text := List.takeWhile_prefix _
      have hdrop : text.dropWhile isIndexChar <:+ whole := (List.dropWhile_suffix _).trans htext
      rw [arrayIndexer]
      split
      next => exact anchored_failAt List.nil_suffix trivial
      next rest hskip =>
        have hrest := suffix_of_skipBlanks hdrop hskip
        exact (close_anchored form htoken htext hrest).map fun _ _ => ⟨rest, rfl, hrest⟩
      next rest hskip =>
        have hrest := suffix_of_skipBlanks hdrop hskip
        split
        · refine (readIndex_anchored htoken htext).bind fun index _ => ?_
          exact ih _ (skipBlanks_suffix (suffix_of_cons hrest))
        · exact anchored_unexpected hrest
      next rest hskip =>
        have hrest := suffix_of_skipBlanks hdrop hskip
        split
        · refine (readBound_anchored htoken htext).bind fun bound _ => ?_
          exact ih _ (skipBlanks_suffix (suffix_of_cons hrest))
        · exact anchored_unexpected hrest
      next rest hskip =>
        have hrest := suffix_of_skipBlanks hdrop hskip
        split
        · split
          next => exact anchored_failAt List.nil_suffix trivial
          next after hafter =>
            exact anchored_ok
              ⟨after, rfl, suffix_of_skipBlanks (suffix_of_cons hrest) hafter⟩
          next c after _ hafter =>
            exact anchored_unexpected (suffix_of_skipBlanks (suffix_of_cons hrest) hafter)
        · exact anchored_unexpected hrest
      next c rest _ _ _ _ hskip => exact anchored_unexpected (suffix_of_skipBlanks hdrop hskip)

theorem readNumber_anchored : AnchoredReader readNumber := by
  intro text
  rw [readNumber]
  split
  · exact anchored_ok (List.dropWhile_suffix _)
  · exact anchored_failAt List.suffix_rfl (prefix_ofList (List.takeWhile_prefix _))

/-- The pattern of a regular expression stands in front of its closing slash. -/
theorem regexBody_eq_some {text body rest : List Char} (h : regexBody text = some (body, rest)) :
    text = body ++ '/' :: rest := by
  induction text using regexBody.induct generalizing body with
  | case1 => cases h
  | case2 after =>
      rw [regexBody] at h
      cases h
      rfl
  | case3 c text ih =>
      rw [regexBody] at h
      obtain ⟨⟨body', rest'⟩, hbody, heq⟩ := Option.map_eq_some_iff.1 h
      cases heq
      rw [ih hbody, List.cons_append, List.cons_append]
  | case4 c text hslash hpair ih =>
      rw [regexBody] at h
      · obtain ⟨⟨body', rest'⟩, hbody, heq⟩ := Option.map_eq_some_iff.1 h
        cases heq
        rw [ih hbody, List.cons_append]
      · exact hslash
      · exact hpair

/-- A regular expression is blamed at its opening slash, which stands before the text of
its reader. -/
theorem readRegex_anchored {text : List Char} (htext : '/' :: text <:+ whole) :
    Anchored whole (Leaves whole) (readRegex text) := by
  rw [readRegex]
  split
  next => exact anchored_failAt List.nil_suffix trivial
  next body rest hbody =>
    have hparts := regexBody_eq_some hbody
    have hrest : rest <:+ whole := by
      refine List.IsSuffix.trans ?_ htext
      exact ⟨'/' :: body ++ ['/'], by rw [hparts]; simp⟩
    simp only
    split
    · exact anchored_ok ((List.dropWhile_suffix _).trans hrest)
    · refine anchored_failAt htext (prefix_ofList ⟨rest.dropWhile Char.isAlpha, ?_⟩)
      rw [hparts, List.append_assoc, List.cons_append, List.cons_append,
        List.takeWhile_append_dropWhile]

theorem readOperator_anchored : AnchoredReader readOperator := by
  intro text
  rw [readOperator.eq_def]
  split
  next => exact anchored_failAt List.suffix_rfl trivial
  next rest => exact anchored_unexpected List.suffix_rfl
  next c rest _ =>
    split
    · exact anchored_failAt List.suffix_rfl trivial
    · split
      · exact anchored_ok (List.drop_suffix _ _)
      · exact anchored_failAt List.suffix_rfl trivial

theorem readWord_anchored (word : List Char) (value : Json) :
    AnchoredReader (readWord word value) := by
  intro text
  rw [readWord.eq_def]
  split
  next => exact anchored_failAt List.suffix_rfl trivial
  next c rest =>
    split
    · exact anchored_ok (List.drop_suffix _ _)
    · exact anchored_unexpected List.suffix_rfl

theorem closeParenthesis_anchored {text : List Char} (htext : text <:+ whole) :
    Anchored whole (· <:+ whole) (closeParenthesis text) := by
  rw [closeParenthesis.eq_def]
  split
  next => exact anchored_failAt htext trivial
  next => exact anchored_ok (suffix_of_cons htext)
  next => exact anchored_unexpected htext

theorem skipInside_anchored {text : List Char} (htext : text <:+ whole) :
    Anchored whole (· <:+ whole) (skipInside text) := by
  rw [skipInside]
  split
  next => exact anchored_failAt List.nil_suffix trivial
  next => exact anchored_ok (skipBlanks_suffix htext)

end Parts

/-! ## Segments and predicates -/

section Nested

variable {nested : Reader Condition} (hnested : AnchoredReader nested) {whole : List Char}

include hnested

theorem filterIndexer_anchored (descending : Bool) {text : List Char} (htext : text <:+ whole) :
    Anchored whole (fun read => ∃ rest, read.2 = ']' :: rest ∧ read.2 <:+ whole)
      (filterIndexer nested descending text) := by
  rw [filterIndexer.eq_def]
  split
  next => exact anchored_failAt htext trivial
  next rest =>
    refine (hnested.at (suffix_of_cons htext)).bind ?_
    rintro ⟨condition, rest⟩ hleft
    refine (closeParenthesis_anchored hleft).bind fun rest hrest => ?_
    split
    next => exact anchored_failAt List.nil_suffix trivial
    next after hskip => exact anchored_ok ⟨after, rfl, suffix_of_skipBlanks hrest hskip⟩
    next c after _ hskip => exact anchored_unexpected (suffix_of_skipBlanks hrest hskip)
  next => exact anchored_unexpected htext

/-- An indexer is read up to its closing bracket. -/
theorem indexer_anchored (descending : Bool) {text : List Char} (htext : text <:+ whole) :
    Anchored whole (fun read => ∃ rest, read.2 = ']' :: rest ∧ read.2 <:+ whole)
      (indexer nested descending text) := by
  have hskip := skipBlanks_suffix htext
  rw [indexer]
  split
  next => exact anchored_failAt List.nil_suffix trivial
  next rest hshape =>
    rw [hshape] at hskip
    exact (quotedNames_anchored _ hskip).map fun _ hread => hread
  next rest hshape =>
    rw [hshape] at hskip
    exact (filterIndexer_anchored hnested descending (suffix_of_cons hskip)).map
      fun _ hread => hread
  next => exact (arrayIndexer_anchored _ _ hskip).map fun _ hread => hread

omit hnested in
theorem endPath_anchored (inPredicate : Bool) (before : Before) {text : List Char}
    (htext : text <:+ whole) :
    Anchored whole (Leaves whole) (endPath inPredicate before text) := by
  rw [endPath]
  split
  · exact anchored_failAt htext trivial
  · exact anchored_ok htext

theorem segments_anchored (inPredicate : Bool) (rounds : Nat) (descending : Bool)
    (before : Before) {text : List Char} (htext : text <:+ whole) :
    Anchored whole (Leaves whole) (segments nested inPredicate rounds descending before text) := by
  induction rounds generalizing descending before text with
  | zero => exact endPath_anchored inPredicate before htext
  | succ rounds ih =>
      have hdrop : text.dropWhile (isNameChar inPredicate) <:+ whole :=
        (List.dropWhile_suffix _).trans htext
      rw [segments.eq_def]
      simp only
      split
      next c others hname =>
        refine anchored_failAt htext ?_
        have hhead := congrArg List.head? (text.takeWhile_append_dropWhile
          (p := isNameChar inPredicate))
        rw [hname] at hhead
        exact hhead.symm
      next =>
        split
        next rest hmark =>
          rw [hmark] at hdrop
          refine (indexer_anchored hnested _ (suffix_of_cons hdrop)).bind ?_
          rintro ⟨found, rest⟩ ⟨after, rfl, hrest⟩
          exact (ih _ _ (suffix_of_cons hrest)).bind fun read hread => anchored_ok hread
        next rest hmark =>
          rw [hmark] at hdrop
          exact (ih _ _ (suffix_of_cons (suffix_of_cons hdrop))).bind
            fun read hread => anchored_ok hread
        next rest _ hmark =>
          rw [hmark] at hdrop
          exact (ih _ _ (suffix_of_cons hdrop)).bind fun read hread => anchored_ok hread
        next =>
          split
          · exact endPath_anchored inPredicate _ hdrop
          · exact anchored_ok hdrop

theorem operandPath_anchored (first : List Step) : AnchoredReader (operandPath nested first) := by
  intro text
  exact (segments_anchored hnested true _ _ _ List.suffix_rfl).map fun _ hleft => hleft

theorem bareOperand_anchored : AnchoredReader (bareOperand nested) := by
  intro text
  cases text with
  | nil => exact anchored_failAt List.suffix_rfl trivial
  | cons c rest =>
      have hrest : rest <:+ c :: rest := List.suffix_cons c rest
      rw [bareOperand]
      split_ifs with hat hdollar hquote hslash hnumber htrue hfalse hnull
      · exact (operandPath_anchored hnested _).at hrest
      · exact (operandPath_anchored hnested _).at hrest
      · exact (quoted_anchored.at hrest).map fun _ hleft => hleft
      · subst hslash
        exact (readRegex_anchored List.suffix_rfl).map fun _ hleft => hleft
      · exact (readNumber_anchored _).map fun _ hleft => hleft
      · exact readWord_anchored _ _ _
      · exact readWord_anchored _ _ _
      · exact readWord_anchored _ _ _
      · exact anchored_unexpected List.suffix_rfl

theorem operand_anchored : AnchoredReader (operand nested) := by
  intro text
  have hskip := skipBlanks_suffix (List.suffix_rfl (l := text))
  refine ((bareOperand_anchored hnested).at hskip).bind ?_
  rintro ⟨side, rest⟩ hleft
  exact (skipInside_anchored hleft).bind fun rest hrest => anchored_ok hrest

theorem term_anchored : AnchoredReader (term nested) := by
  intro text
  have hskip := skipBlanks_suffix (List.suffix_rfl (l := text))
  rw [term]
  split
  next rest hshape =>
    rw [hshape] at hskip
    refine (hnested.at (suffix_of_cons hskip)).bind ?_
    rintro ⟨condition, rest⟩ hleft
    refine (closeParenthesis_anchored hleft).bind fun rest hrest => ?_
    exact (skipInside_anchored hrest).bind fun rest hrest => anchored_ok hrest
  next =>
    refine ((operand_anchored hnested).at hskip).bind ?_
    rintro ⟨left, rest⟩ hleft
    simp only
    split
    · exact anchored_ok hleft
    · refine (readOperator_anchored.at hleft).bind ?_
      rintro ⟨operator, rest⟩ hrest
      exact ((operand_anchored hnested).at hrest).bind fun read hread => anchored_ok hread

omit hnested in
theorem joined_anchored {item : Reader Condition} (hitem : AnchoredReader item) (mark : Char)
    (rounds : Nat) {text : List Char} (htext : text <:+ whole) :
    Anchored whole (Leaves whole) (joined item mark rounds text) := by
  induction rounds generalizing text with
  | zero => exact anchored_failAt htext trivial
  | succ rounds ih =>
      rw [joined]
      refine (hitem.at htext).bind ?_
      rintro ⟨first, rest⟩ hleft
      simp only
      split
      next => exact anchored_ok List.nil_suffix
      next c after =>
        split
        · split
          next => exact anchored_unexpected hleft
          next d more =>
            split
            · refine (ih (suffix_of_cons (suffix_of_cons hleft))).bind ?_
              exact fun read hread => anchored_ok hread
            · exact anchored_unexpected hleft
        · exact anchored_ok hleft

theorem conjunction_anchored : AnchoredReader (conjunction nested) := by
  intro text
  exact (joined_anchored (term_anchored hnested) _ _ List.suffix_rfl).map fun _ hleft => hleft

theorem disjunction_anchored : AnchoredReader (disjunction nested) := by
  intro text
  exact (joined_anchored (conjunction_anchored hnested) _ _ List.suffix_rfl).map
    fun _ hleft => hleft

end Nested

theorem predicate_anchored (depth : Nat) : AnchoredReader (predicate depth) := by
  induction depth with
  | zero => exact fun text => anchored_failAt List.suffix_rfl trivial
  | succ depth ih => exact disjunction_anchored ih

/-! ## Whole paths -/

theorem wholePath_anchored {text whole : List Char} (htext : text <:+ whole) :
    Anchored whole (fun _ => True) (wholePath text) := by
  rw [wholePath]
  refine (segments_anchored (predicate_anchored _) _ _ _ _ htext).bind ?_
  rintro ⟨steps, rest⟩ hleft
  simp only
  split
  next => trivial
  next c after hskip => exact anchored_unexpected (suffix_of_skipBlanks hleft hskip)

/-- A path text that is refused has its fault at an end of the text, which bears the
fault out. -/
theorem readSteps_anchored (text : List Char) :
    Anchored text (fun _ => True) (readSteps text) := by
  have hskip := skipBlanks_suffix (List.suffix_rfl (l := text))
  rw [readSteps]
  split
  next => trivial
  next rest hshape =>
    rw [hshape] at hskip
    have hrest := suffix_of_cons hskip
    split
    next => trivial
    next c others =>
      split_ifs with hmark hblank
      · exact wholePath_anchored hrest
      · split
        next => trivial
        next d after hafter => exact anchored_unexpected (suffix_of_skipBlanks hrest hafter)
      · exact wholePath_anchored hskip
  next => exact wholePath_anchored hskip

end Path

end PathQuery
