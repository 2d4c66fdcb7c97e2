import PathQuery.Proofs.Path.Concatenation
import PathQuery.Proofs.Path.Indexers

/-!
# Final faults

Some faults are shown by the characters up to their place: a character that cannot stand
where it does in a path or in an indexer, an index that is closed and denotes nothing, a
letter that no backslash may precede, a sign that begins no operator.  Nothing that is
written behind such a fault takes it back.  The others may still be mended: an open part may
be closed, and a number, a word or the flags of a regular expression may go on.

A part that was read before the fault ends before the end of the text, so it is read the
same in a longer one; and the reader that failed fails there again.
-/

namespace PathQuery

/-- If a fault is final: what stands up to its place shows it. -/
def Fault.isFinal : Fault → Bool
  | .unexpectedCharacter context _ => context != .predicate
  | .unexpectedAfterIndexer _ | .indexExpected | .invalidIndex _ | .unknownEscape _
  | .unknownOperator => true
  | .unexpectedEnd | .openIndexer | .openPredicate | .openString | .openRegex
  | .invalidNumber _ | .invalidRegex _ _ => false

namespace Path

/-- The same failure in a text with more behind it. -/
def Failure.followedBy (failure : Failure) (more : List Char) : Failure :=
  { failure with rest := failure.rest ++ more }

/-- If a final failure, wherever one result is one, is the other result too. -/
def Stays {α : Type} (more : List Char) (result result' : Except Failure α) : Prop :=
  ∀ failure, result = .error failure → failure.fault.isFinal = true →
    result' = .error (failure.followedBy more)

/-- If a result is no final failure. -/
def Unsettled {α : Type} (result : Except Failure α) : Prop :=
  ∀ failure, result = .error failure → failure.fault.isFinal = false

section Results

variable {α β : Type} {more : List Char}

theorem unsettled_ok (value : α) : Unsettled (.ok value : Except Failure α) := by
  rintro failure ⟨⟩

theorem unsettled_failAt {fault : Fault} (hfault : fault.isFinal = false) (rest : List Char) :
    Unsettled (failAt fault rest : Except Failure α) := by
  rintro failure ⟨⟩
  exact hfault

/-- What may follow a predicate is open to the end. -/
theorem unsettled_unexpected (c : Char) (rest : List Char) :
    Unsettled (unexpected .predicate c rest : Except Failure α) :=
  unsettled_failAt rfl (c :: rest)

theorem Unsettled.bind {first : Except Failure α} {next : α → Except Failure β}
    (hfirst : Unsettled first) (hnext : ∀ value, first = .ok value → Unsettled (next value)) :
    Unsettled (first >>= next) := by
  cases first with
  | error failure =>
      rintro failure' ⟨⟩
      exact hfirst failure rfl
  | ok value => exact hnext value rfl

theorem Unsettled.map {result : Except Failure α} (hresult : Unsettled result) (f : α → β) :
    Unsettled (result.map f) := by
  cases result with
  | error failure =>
      rintro failure' ⟨⟩
      exact hresult failure rfl
  | ok value => exact unsettled_ok (f value)

/-- Nothing is asked where there is no final failure. -/
theorem Unsettled.stays {result : Except Failure α} (hresult : Unsettled result)
    (result' : Except Failure α) : Stays more result result' := by
  intro failure hfailure hfinal
  rw [hresult failure hfailure] at hfinal
  cases hfinal

theorem stays_failAt (fault : Fault) (rest : List Char) :
    Stays more (failAt fault rest : Except Failure α) (failAt fault (rest ++ more)) := by
  rintro failure ⟨⟩ _
  rfl

theorem stays_unexpected (context : Context) (c : Char) (rest : List Char) :
    Stays more (unexpected context c rest : Except Failure α)
      (unexpected context c (rest ++ more)) :=
  stays_failAt _ (c :: rest)

theorem stays_ite {condition : Prop} [Decidable condition] {first first' second second' :
    Except Failure α} (hfirst : condition → Stays more first first')
    (hsecond : ¬condition → Stays more second second') :
    Stays more (if condition then first else second) (if condition then first' else second') := by
  by_cases h : condition
  · rw [if_pos h, if_pos h]
    exact hfirst h
  · rw [if_neg h, if_neg h]
    exact hsecond h

theorem Stays.map {result result' : Except Failure α} (hresult : Stays more result result')
    (f f' : α → β) : Stays more (result.map f) (result'.map f') := by
  cases result with
  | error failure =>
      rintro _ ⟨⟩ hfinal
      rw [hresult failure rfl hfinal]
      rfl
  | ok value => exact (unsettled_ok (f value)).stays _

theorem Stays.bind {first first' : Except Failure α} {next next' : α → Except Failure β}
    (hfirst : Stays more first first')
    (hnext : ∀ value, first = .ok value → Stays more (next value) (first' >>= next')) :
    Stays more (first >>= next) (first' >>= next') := by
  cases first with
  | error failure =>
      rintro failure' ⟨⟩ hfinal
      rw [hfirst failure rfl hfinal]
      rfl
  | ok value => exact hnext value rfl

/-- A part that ends before the end of the text is read the same in a longer one.  Behind a
part that ends with the text nothing is left that could show a final fault. -/
theorem Stays.bind_reader {read read' : Reader α} {next next' : α × List Char → Except Failure β}
    {text : List Char} (hextends : Extends read read')
    (hread : Stays more (read text) (read' (text ++ more)))
    (hnil : ∀ value, Unsettled (next (value, [])))
    (hnext : ∀ value rest, read text = .ok (value, rest) → rest ≠ [] →
      Stays more (next (value, rest)) (next' (value, rest ++ more))) :
    Stays more (read text >>= next) (read' (text ++ more) >>= next') := by
  refine hread.bind ?_
  rintro ⟨value, rest⟩ hvalue
  by_cases hrest : rest = []
  · subst hrest
    exact (hnil value).stays _
  · rw [hextends hvalue hrest more]
    exact hnext value rest hvalue hrest

end Results

/-! ## Names and indices -/

theorem quoted_extends : Extends quoted quoted :=
  fun _ _ _ h _ more => quoted_more h more

/-- An unknown escape has been read with its letter; a backslash at the end of the text may still
take the next character along. -/
theorem quoted_stays (text more : List Char) :
    Stays more (quoted text) (quoted (text ++ more)) := by
  fun_induction quoted text with
  | case1 => exact (unsettled_failAt rfl _).stays _
  | case2 rest => exact (unsettled_ok _).stays _
  | case3 c rest value hvalue ih =>
      rw [List.cons_append, List.cons_append, quoted, hvalue]
      exact ih.map _ _
  | case4 c rest hvalue =>
      rw [List.cons_append, List.cons_append, quoted, hvalue]
      exact stays_failAt _ (c :: rest)
  | case5 c rest hquote hescape ih =>
      by_cases hlast : c = '\\'
      · subst hlast
        cases rest with
        | nil => exact ((unsettled_failAt rfl []).map _).stays _
        | cons d after => exact absurd rfl (hescape d after rfl)
      · rw [List.cons_append, quoted]
        · exact ih.map _ _
        · exact hquote
        · exact fun d after hc => absurd hc hlast

theorem quotedNames_stays {n n' : Nat} (hn : n ≤ n') (text more : List Char) :
    Stays more (quotedNames n text) (quotedNames n' (text ++ more)) := by
  induction n generalizing n' text with
  | zero => exact (unsettled_failAt rfl _).stays _
  | succ n ih =>
      obtain ⟨n', rfl⟩ : ∃ m, n' = m + 1 := ⟨n' - 1, by omega⟩
      cases text with
      | nil => exact (unsettled_failAt rfl _).stays _
      | cons c text =>
          rw [quotedNames, List.cons_append, quotedNames]
          split_ifs with hquote
          · refine Stays.bind_reader quoted_extends (quoted_stays text more)
              (fun name => unsettled_failAt rfl []) ?_
            intro name rest _ _
            simp only
            split
            next => exact (unsettled_failAt rfl _).stays _
            next after hskip => exact (unsettled_ok _).stays _
            next after hskip =>
              rw [skipBlanks_cons_more hskip]
              refine Stays.bind ?_ fun names _ => (unsettled_ok _).stays _
              by_cases hafter : Text.skipBlanks after = []
              · rw [hafter]
                cases n with
                | zero => exact (unsettled_failAt rfl _).stays _
                | succ n => exact (unsettled_failAt rfl _).stays _
              · rw [skipBlanks_more hafter]
                exact ih (by omega) _
            next d after hclose hcomma hskip =>
              rw [skipBlanks_cons_more hskip]
              split
              all_goals
                rename_i hshape
                cases hshape
              · exact absurd rfl hclose
              · exact absurd rfl hcomma
              · exact stays_unexpected .indexer d after
          · exact stays_unexpected .indexer c text

/-- An index is blamed on its text. -/
theorem readIndex_stays (token text more : List Char) :
    Stays more (readIndex token text) (readIndex token (text ++ more)) := by
  rw [readIndex, readIndex]
  split
  next => exact (unsettled_ok _).stays _
  next => exact stays_failAt _ text

theorem readBound_stays (token text more : List Char) :
    Stays more (readBound token text) (readBound token (text ++ more)) := by
  rw [readBound, readBound]
  split
  next => exact (unsettled_ok _).stays _
  next => exact (readIndex_stays token text more).map _ _

theorem close_stays (form : IndexerForm) (token text rest more : List Char) :
    Stays more (form.close token text rest) (form.close token (text ++ more) (rest ++ more)) := by
  cases form with
  | single =>
      rw [IndexerForm.close, IndexerForm.close]
      split
      next => exact stays_failAt _ rest
      next => exact (readIndex_stays token text more).map _ _
  | list indices =>
      rw [IndexerForm.close, IndexerForm.close]
      split
      next => exact stays_failAt _ rest
      next => exact (readIndex_stays token text more).map _ _
  | sliceStop start => exact (readBound_stays token text more).map _ _
  | sliceStride start stop => exact (readBound_stays token text more).map _ _

/-- What an array indexer blames, it has read up to a mark behind it; it goes on behind that mark
unless the text ends there. -/
theorem arrayIndexer_stays {n n' : Nat} (hn : n ≤ n') (form : IndexerForm)
    (text more : List Char) :
    Stays more (arrayIndexer n form text) (arrayIndexer n' form (text ++ more)) := by
  induction n generalizing n' form text with
  | zero => exact (unsettled_failAt rfl _).stays _
  | succ n ih =>
      obtain ⟨n', rfl⟩ : ∃ m, n' = m + 1 := ⟨n' - 1, by omega⟩
      have hnext : ∀ form' after, Stays more (arrayIndexer n form' (Text.skipBlanks after))
          (arrayIndexer n' form' (Text.skipBlanks (after ++ more))) := by
        intro form' after
        by_cases hafter : Text.skipBlanks after = []
        · rw [hafter]
          cases n with
          | zero => exact (unsettled_failAt rfl _).stays _
          | succ n => exact (unsettled_failAt rfl _).stays _
        · rw [skipBlanks_more hafter]
          exact ih (by omega) form' _
      rw [arrayIndexer]
      by_cases hmark : Text.skipBlanks (text.dropWhile isIndexChar) = []
      · rw [hmark]
        exact (unsettled_failAt rfl _).stays _
      · obtain ⟨c, rest, hskip⟩ := List.exists_cons_of_ne_nil hmark
        have hdrop : text.dropWhile isIndexChar ≠ [] := by
          intro hnil
          rw [hnil] at hmark
          exact hmark rfl
        rw [arrayIndexer, takeWhile_more hdrop, dropWhile_more hdrop, skipBlanks_cons_more hskip,
          hskip]
        split
        next hshape => cases hshape
        next after hshape =>
          cases hshape
          exact (close_stays form _ text (']' :: rest) more).map _ _
        next after hshape =>
          cases hshape
          simp only
          split
          next =>
            refine (readIndex_stays _ text more).bind fun index hindex => ?_
            rw [readIndex_more hindex]
            exact hnext _ rest
          next => exact stays_unexpected .indexer ',' rest
        next after hshape =>
          cases hshape
          simp only
          split
          next =>
            refine (readBound_stays _ text more).bind fun bound hbound => ?_
            rw [readBound_more hbound]
            exact hnext _ rest
          next => exact stays_unexpected .indexer ':' rest
        next after hshape =>
          cases hshape
          simp only
          split
          next =>
            split
            next => exact (unsettled_failAt rfl _).stays _
            next => exact (unsettled_ok _).stays _
            next d behind hclose hbehind =>
              rw [skipBlanks_cons_more hbehind]
              split
              all_goals
                rename_i hshape
                cases hshape
              · exact absurd rfl hclose
              · exact stays_unexpected .indexer d behind
          next => exact stays_unexpected .indexer '*' rest
        next d after hclose hcomma hcolon hstar hshape =>
          cases hshape
          split
          all_goals
            rename_i hshape
            cases hshape
          · exact absurd rfl hclose
          · exact absurd rfl hcomma
          · exact absurd rfl hcolon
          · exact absurd rfl hstar
          · exact stays_unexpected .indexer c rest

/-! ## Parts that fail for good nowhere -/

theorem closeParenthesis_unsettled (text : List Char) : Unsettled (closeParenthesis text) := by
  rw [closeParenthesis.eq_def]
  split
  next => exact unsettled_failAt rfl _
  next => exact unsettled_ok _
  next => exact unsettled_unexpected _ _

theorem skipInside_unsettled (text : List Char) : Unsettled (skipInside text) := by
  rw [skipInside]
  split
  next => exact unsettled_failAt rfl _
  next => exact unsettled_ok _

theorem readNumber_unsettled (text : List Char) : Unsettled (readNumber text) := by
  rw [readNumber]
  split
  next => exact unsettled_ok _
  next => exact unsettled_failAt rfl _

theorem readRegex_unsettled (text : List Char) : Unsettled (readRegex text) := by
  rw [readRegex]
  split
  next => exact unsettled_failAt rfl _
  next =>
    simp only
    split
    next => exact unsettled_ok _
    next => exact unsettled_failAt rfl _

theorem readWord_unsettled (word : List Char) (value : Json) (text : List Char) :
    Unsettled (readWord word value text) := by
  rw [readWord.eq_def]
  split
  next => exact unsettled_failAt rfl _
  next =>
    split
    next => exact unsettled_ok _
    next => exact unsettled_unexpected _ _

theorem endPath_unsettled (inPredicate : Bool) (before : Before) (text : List Char) :
    Unsettled (endPath inPredicate before text) := by
  rw [endPath]
  split
  next => exact unsettled_failAt rfl _
  next => exact unsettled_ok _

/-! ## Operators -/

theorem signs_ascii : ∀ sign ∈ operatorSigns, sign.1.all (·.utf8Size == 1) = true := by
  decide

/-- Two characters of a sign are a sign of their own. -/
theorem signs_of_two :
    ∀ sign ∈ operatorSigns, 2 < sign.1.length →
      sign.1.length = 3 ∧ ∃ shorter ∈ operatorSigns, shorter.1 = sign.1.take 2 := by
  decide

/-- Where a text begins with no sign, a longer one does not either, unless the text is one
character that may begin a sign. -/
theorem not_sign_more {text : List Char}
    (hnone : (operatorSigns.find? fun sign => sign.1.isPrefixOf text) = none)
    (htext : 2 ≤ text.length ∨ ∃ c ∈ text, c.utf8Size ≠ 1) (more : List Char) :
    (operatorSigns.find? fun sign => sign.1.isPrefixOf (text ++ more)) = none := by
  rw [List.find?_eq_none] at hnone ⊢
  intro sign hsign hfront
  rcases Nat.lt_or_ge text.length sign.1.length with hshort | hlong
  · have hbegins : text <+: sign.1 :=
      List.prefix_of_prefix_length_le (List.prefix_append text more)
        (List.isPrefixOf_iff_prefix.1 hfront) (Nat.le_of_lt hshort)
    rcases htext with htwo | ⟨c, hc, hwide⟩
    · obtain ⟨hthree, shorter, hshorter, htake⟩ := signs_of_two sign hsign (by omega)
      have hlength : text.length = 2 := by omega
      have htext : shorter.1 = text := by
        rw [htake, ← hlength]
        exact (List.prefix_iff_eq_take.1 hbegins).symm
      exact hnone shorter hshorter (List.isPrefixOf_iff_prefix.2 (htext ▸ List.prefix_rfl))
    · have hascii := List.all_eq_true.1 (signs_ascii sign hsign) c (hbegins.subset hc)
      exact hwide (eq_of_beq hascii)
  · rw [isPrefixOf_more hlong] at hfront
    exact hnone sign hsign hfront

/-- Two bytes are enough to tell that no operator begins. -/
theorem readOperator_stays (text more : List Char) :
    Stays more (readOperator text) (readOperator (text ++ more)) := by
  cases text with
  | nil => exact (unsettled_failAt rfl _).stays _
  | cons c rest =>
      by_cases hclose : c = ']'
      · subst hclose
        exact (unsettled_unexpected _ _).stays _
      · rw [readOperator]
        · split_ifs with hend
          · exact (unsettled_failAt rfl _).stays _
          · split
            next => exact (unsettled_ok _).stays _
            next hnone =>
              have htext : 2 ≤ (c :: rest).length ∨ ∃ d ∈ c :: rest, d.utf8Size ≠ 1 := by
                cases rest with
                | nil => exact Or.inr ⟨c, List.mem_cons_self, by simpa using hend⟩
                | cons d after => exact Or.inl (by simp)
              have hlonger : ¬((rest ++ more).isEmpty && c.utf8Size == 1) = true := by
                intro h
                rw [Bool.and_eq_true, List.isEmpty_iff, List.append_eq_nil_iff] at h
                exact hend (by simp [h])
              rw [List.cons_append, readOperator, if_neg hlonger, ← List.cons_append,
                not_sign_more hnone htext]
              · exact stays_failAt _ (c :: rest)
              · exact hclose
        · exact hclose

/-! ## Indexers -/

section Nested

variable {nested nested' : Reader Condition} {more : List Char}
  (hextends : Extends nested nested')
  (hstays : ∀ text, Stays more (nested text) (nested' (text ++ more)))

include hextends hstays

theorem filterIndexer_stays (descending : Bool) (text : List Char) :
    Stays more (filterIndexer nested descending text)
      (filterIndexer nested' descending (text ++ more)) := by
  rw [filterIndexer.eq_def]
  split
  next => exact (unsettled_failAt rfl _).stays _
  next rest =>
    rw [List.cons_append, filterIndexer]
    refine Stays.bind_reader hextends (hstays rest) (fun _ => unsettled_failAt rfl []) ?_
    intro condition left _ _
    refine ((closeParenthesis_unsettled left).stays _).bind fun behind hclose => ?_
    rw [closeParenthesis_more hclose]
    simp only [bind, Except.bind]
    split
    next => exact (unsettled_failAt rfl _).stays _
    next => exact (unsettled_ok _).stays _
    next d after hbracket hskip =>
      rw [skipBlanks_cons_more hskip]
      split
      all_goals
        rename_i hshape
        cases hshape
      · exact absurd rfl hbracket
      · exact stays_unexpected .indexer d after
  next c rest hopen =>
    rw [List.cons_append, filterIndexer]
    · exact stays_unexpected .indexer c rest
    · exact hopen

theorem indexer_stays (descending : Bool) (text : List Char) :
    Stays more (indexer nested descending text) (indexer nested' descending (text ++ more)) := by
  by_cases hnil : Text.skipBlanks text = []
  · rw [indexer, hnil]
    exact (unsettled_failAt rfl _).stays _
  · obtain ⟨c, rest, hskip⟩ := List.exists_cons_of_ne_nil hnil
    have hskip' := skipBlanks_cons_more hskip more
    by_cases hquote : c = '\''
    · subst hquote
      rw [indexer, indexer, hskip, hskip']
      exact (quotedNames_stays (by simp) ('\'' :: rest) more).map _ _
    · by_cases hquery : c = '?'
      · subst hquery
        rw [indexer, indexer, hskip, hskip']
        exact (filterIndexer_stays hextends hstays descending rest).map _ _
      · rw [indexer_other hskip hquote hquery, indexer_other hskip' hquote hquery]
        have hrounds : (c :: rest).length ≤ (c :: (rest ++ more)).length := by simp
        exact (arrayIndexer_stays hrounds .single (c :: rest) more).map _ _

end Nested

end Path

end PathQuery
