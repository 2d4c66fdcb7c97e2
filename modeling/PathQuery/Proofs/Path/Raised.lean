import PathQuery.Proofs.Path.Calls
import PathQuery.Proofs.Path.FinalErrors

/-!
# Faults and the constructs that raise them

Each construct has faults of its own: those that its reader finds while none of its calls
fails.  An open part is among them only where nothing is left to read, since every call has
rounds and depth enough for its text.
-/

namespace PathQuery

/-- If a fault tells that a text ends inside of a part. -/
def Fault.isOpen : Fault → Bool
  | .openIndexer | .openPredicate | .openString | .openRegex => true
  | _ => false

namespace Path

/-- The faults that the reader of a construct finds itself. -/
def Construct.owns : Construct → Fault → Bool
  | .path, .unexpectedCharacter .path _ => true
  | .whole, .unexpectedCharacter .path _ => true
  | .segments _ _ _ _ _, .unexpectedAfterIndexer _ => true
  | .segments _ _ _ _ _, .unexpectedEnd => true
  | .indexer _ _, .openIndexer => true
  | .array _, .openIndexer => true
  | .array _, .unexpectedCharacter .indexer _ => true
  | .array _, .indexExpected => true
  | .array _, .invalidIndex _ => true
  | .names _, .openIndexer => true
  | .names _, .unexpectedCharacter .indexer _ => true
  | .name, .openString => true
  | .name, .unknownEscape _ => true
  | .filter _ _, .openIndexer => true
  | .filter _ _, .unexpectedCharacter .indexer _ => true
  | .filter _ _, .openPredicate => true
  | .filter _ _, .unexpectedCharacter .predicate _ => true
  | .predicate _, .openPredicate => true
  | .conditions _ _ _, .openPredicate => true
  | .conditions _ _ _, .unexpectedCharacter .predicate _ => true
  | .term _, .openPredicate => true
  | .term _, .unexpectedCharacter .predicate _ => true
  | .operand _, .openPredicate => true
  | .operand _, .unexpectedCharacter .predicate _ => true
  | .string, .openString => true
  | .string, .unknownEscape _ => true
  | .number, .invalidNumber _ => true
  | .regex, .openRegex => true
  | .regex, .invalidRegex _ _ => true
  | .operator, .openPredicate => true
  | .operator, .unexpectedCharacter .predicate _ => true
  | .operator, .unknownOperator => true
  | _, _ => false

/-! ## Rounds and depth -/

/-- If the rounds and the depth of a call are enough for its text. -/
def Call.Sized : Call → Prop
  | ⟨.segments depth _ rounds _ _, text⟩ => text.length ≤ depth ∧ text.length ≤ rounds
  | ⟨.indexer depth _, text⟩ => text.length ≤ depth
  | ⟨.array rounds, text⟩ => text.length ≤ rounds
  | ⟨.names rounds, text⟩ => text.length ≤ rounds
  | ⟨.filter depth _, text⟩ => text.length ≤ depth
  | ⟨.predicate depth, text⟩ => text.length ≤ depth
  | ⟨.conditions _ depth rounds, text⟩ => text.length ≤ depth + 1 ∧ text.length ≤ rounds
  | ⟨.term depth, text⟩ => text.length ≤ depth + 1
  | ⟨.operand depth, text⟩ => text.length ≤ depth + 1
  | _ => True

/-- Something is taken off the text in front of a character that is found. -/
theorem length_lt_of_skipBlanks {text rest : List Char} {c : Char}
    (hskip : Text.skipBlanks text = c :: rest) : rest.length < text.length :=
  (suffix_of_skipBlanks List.suffix_rfl hskip).length_le

/-- A call that is sized makes sized calls: a loop, which calls no construct further down, goes on
with less text. -/
theorem Calls.sized {caller callee : Call} (h : Calls caller callee) (hsized : caller.Sized) :
    callee.Sized := by
  have hlength := h.descends.1.length_le
  have hless : callee.construct.rank = caller.construct.rank →
      callee.text.length < caller.text.length :=
    fun hrank => h.descends.2.resolve_right hrank.not_lt
  cases h with
  | rooted _ _ => trivial
  | dollar _ _ _ _ => trivial
  | unrooted _ _ => trivial
  | segments => exact ⟨Nat.le_refl _, Nat.le_refl _⟩
  | bracket _ _ => exact hlength.trans hsized.1
  | behindBracket _ _ _ =>
      exact ⟨hlength.trans hsized.1, Nat.le_of_lt_succ ((hless rfl).trans_le hsized.2)⟩
  | dots _ _ =>
      exact ⟨hlength.trans hsized.1, Nat.le_of_lt_succ ((hless rfl).trans_le hsized.2)⟩
  | dot _ _ _ =>
      exact ⟨hlength.trans hsized.1, Nat.le_of_lt_succ ((hless rfl).trans_le hsized.2)⟩
  | names _ => exact Nat.le_refl _
  | filter _ => exact hlength.trans hsized
  | array _ _ _ => exact Nat.le_refl _
  | name => trivial
  | nextName _ _ => exact Nat.le_of_lt_succ ((hless rfl).trans_le hsized)
  | predicate => exact hlength.trans hsized
  | disjunction => exact ⟨hsized, Nat.le_refl _⟩
  | conjunction => exact ⟨hsized.1, Nat.le_refl _⟩
  | term => exact hsized.1
  | @nextCondition connective _ _ _ _ _ _ =>
      have hrank : ∀ depth rounds rounds', (Construct.conditions connective depth rounds).rank =
          (Construct.conditions connective depth rounds').rank := by
        intro depth rounds rounds'
        cases connective with
        | and => rfl
        | or => rfl
      exact ⟨hlength.trans hsized.1, Nat.le_of_lt_succ ((hless (hrank _ _ _)).trans_le hsized.2)⟩
  | group hskip => exact Nat.le_of_lt_succ ((length_lt_of_skipBlanks hskip).trans_le hsized)
  | left _ => exact hsized
  | operator _ _ _ => trivial
  | right _ _ _ _ => exact hlength.trans hsized
  | operandPath hskip _ =>
      have hdepth := Nat.le_of_lt_succ ((length_lt_of_skipBlanks hskip).trans_le hsized)
      exact ⟨hdepth, Nat.le_refl _⟩
  | string _ => trivial
  | number _ _ => trivial
  | regex _ => trivial

/-- Every call that a path text leads to is sized. -/
theorem sized_of_reached {text : List Char} {call : Call}
    (h : Relation.ReflTransGen Calls ⟨.path, text⟩ call) : call.Sized := by
  induction h with
  | refl => trivial
  | tail _ hcall ih => exact hcall.sized ih

/-! ## Results with failures of a kind -/

/-- If every failure of a result has a property. -/
def FailsOnly {α : Type} (fine : Failure → Prop) (result : Except Failure α) : Prop :=
  ∀ failure, result = .error failure → fine failure

section FailsOnly

variable {α β : Type} {fine : Failure → Prop}

theorem failsOnly_ok (value : α) : FailsOnly fine (.ok value : Except Failure α) := by
  rintro failure ⟨⟩

theorem failsOnly_failAt {fault : Fault} {rest : List Char} (h : fine ⟨fault, rest⟩) :
    FailsOnly fine (failAt fault rest : Except Failure α) := by
  rintro failure ⟨⟩
  exact h

theorem FailsOnly.bind {first : Except Failure α} {next : α → Except Failure β}
    (hfirst : FailsOnly fine first)
    (hnext : ∀ value, first = .ok value → FailsOnly fine (next value)) :
    FailsOnly fine (first >>= next) := by
  cases first with
  | error failure =>
      rintro failure' ⟨⟩
      exact hfirst failure rfl
  | ok value => exact hnext value rfl

theorem failsOnly_of_map {result : Except Failure α} {f : α → β}
    (h : FailsOnly fine (result.map f)) : FailsOnly fine result :=
  fun failure hfails => h failure (map_eq_error_iff.2 hfails)

theorem FailsOnly.map {result : Except Failure α} (hresult : FailsOnly fine result)
    (f : α → β) : FailsOnly fine (result.map f) :=
  fun failure h => hresult failure (map_eq_error_iff.1 h)

end FailsOnly

/-! ## The faults of each construct -/

/-- If a failure has a fault of a construct's own, and blames the end of the text where a part
is open. -/
structure Construct.Finds (construct : Construct) (failure : Failure) : Prop where
  owned : construct.owns failure.fault = true
  at_end : failure.fault.isOpen = true → failure.rest = []

section Faults

variable {α : Type} {construct : Construct}

/-- A fault that tells of no open part may be found anywhere. -/
theorem finds_failAt {fault : Fault} (howned : construct.owns fault = true)
    (hclosed : fault.isOpen = false) (rest : List Char) :
    FailsOnly construct.Finds (failAt fault rest : Except Failure α) :=
  failsOnly_failAt ⟨howned, fun hopen => by simp [hclosed] at hopen⟩

theorem finds_unexpected {context : Context} {c : Char}
    (howned : construct.owns (.unexpectedCharacter context c) = true) (rest : List Char) :
    FailsOnly construct.Finds (unexpected context c rest : Except Failure α) :=
  finds_failAt howned rfl (c :: rest)

/-- An open part is found at the end of the text. -/
theorem finds_end {fault : Fault} (howned : construct.owns fault = true) :
    FailsOnly construct.Finds (failAt fault [] : Except Failure α) :=
  failsOnly_failAt ⟨howned, fun _ => rfl⟩

end Faults

/-! ### Parts that hold no others -/

section Leaves

/-- A string ends with the text, or with a letter that no backslash may precede. -/
theorem quoted_finds {construct : Construct} (hopen : construct.owns .openString = true)
    (hescape : ∀ c, construct.owns (.unknownEscape c) = true) (text : List Char) :
    FailsOnly construct.Finds (quoted text) := by
  fun_induction quoted text with
  | case1 => exact finds_end hopen
  | case2 rest => exact failsOnly_ok _
  | case3 c rest value hvalue ih => exact ih.map _
  | case4 c rest hvalue => exact finds_failAt (hescape c) rfl (c :: rest)
  | case5 c rest hquote hbackslash ih => exact ih.map _

variable {rounds : Nat}

theorem readIndex_finds (token text : List Char) :
    FailsOnly (Construct.array rounds).Finds (readIndex token text) := by
  rw [readIndex]
  split
  next => exact failsOnly_ok _
  next => exact finds_failAt rfl rfl text

theorem readBound_finds (token text : List Char) :
    FailsOnly (Construct.array rounds).Finds (readBound token text) := by
  rw [readBound]
  split
  next => exact failsOnly_ok _
  next => exact (readIndex_finds token text).map _

theorem close_finds (form : IndexerForm) (token text rest : List Char) :
    FailsOnly (Construct.array rounds).Finds (form.close token text rest) := by
  cases form with
  | single =>
      rw [IndexerForm.close]
      split
      next => exact finds_failAt rfl rfl rest
      next => exact (readIndex_finds token text).map _
  | list indices =>
      rw [IndexerForm.close]
      split
      next => exact finds_failAt rfl rfl rest
      next => exact (readIndex_finds token text).map _
  | sliceStop start => exact (readBound_finds token text).map _
  | sliceStride start stop => exact (readBound_finds token text).map _

/-- An array indexer is open where its rounds end, for they are enough for its text. -/
theorem arrayIndexer_finds {n : Nat} {form : IndexerForm} {text : List Char}
    (hn : text.length ≤ n) :
    FailsOnly (Construct.array rounds).Finds (arrayIndexer n form text) := by
  induction n generalizing form text with
  | zero =>
      obtain rfl := List.eq_nil_of_length_eq_zero (Nat.le_zero.1 hn)
      exact finds_end rfl
  | succ n ih =>
      have hnext : ∀ {c after}, Text.skipBlanks (text.dropWhile isIndexChar) = c :: after →
          (Text.skipBlanks after).length ≤ n := by
        intro c after hskip
        have hmark := length_lt_of_skipBlanks hskip
        have hdrop := (List.dropWhile_suffix (l := text) isIndexChar).length_le
        have hafter := Text.length_skipBlanks_le after
        omega
      rw [arrayIndexer]
      split
      next => exact finds_end rfl
      next => exact (close_finds form _ text _).map _
      next hskip =>
        split
        next => exact (readIndex_finds _ text).bind fun _ _ => ih (hnext hskip)
        next => exact finds_unexpected rfl _
      next hskip =>
        split
        next => exact (readBound_finds _ text).bind fun _ _ => ih (hnext hskip)
        next => exact finds_unexpected rfl _
      next =>
        split
        next =>
          split
          next => exact finds_end rfl
          next => exact failsOnly_ok _
          next => exact finds_unexpected rfl _
        next => exact finds_unexpected rfl _
      next => exact finds_unexpected rfl _

theorem readNumber_finds (text : List Char) :
    FailsOnly Construct.number.Finds (readNumber text) := by
  rw [readNumber]
  split
  next => exact failsOnly_ok _
  next => exact finds_failAt rfl rfl text

theorem readRegex_finds (text : List Char) : FailsOnly Construct.regex.Finds (readRegex text) := by
  rw [readRegex]
  split
  next => exact finds_end rfl
  next =>
    simp only
    split
    next => exact failsOnly_ok _
    next => exact finds_failAt rfl rfl _

variable {construct : Construct}

/-- Behind a predicate a parenthesis is missed, or it is open. -/
theorem closeParenthesis_finds (hopen : construct.owns .openPredicate = true)
    (hunexpected : ∀ c, construct.owns (.unexpectedCharacter .predicate c) = true)
    (text : List Char) : FailsOnly construct.Finds (closeParenthesis text) := by
  rw [closeParenthesis.eq_def]
  split
  next => exact finds_end hopen
  next => exact failsOnly_ok _
  next c rest _ => exact finds_unexpected (hunexpected c) rest

theorem skipInside_finds (hopen : construct.owns .openPredicate = true) (text : List Char) :
    FailsOnly construct.Finds (skipInside text) := by
  rw [skipInside]
  split
  next => exact finds_end hopen
  next => exact failsOnly_ok _

theorem readWord_finds {depth : Nat} (word : List Char) (value : Json) (text : List Char) :
    FailsOnly (Construct.operand depth).Finds (readWord word value text) := by
  rw [readWord.eq_def]
  split
  next => exact finds_end rfl
  next c rest =>
    split
    next => exact failsOnly_ok _
    next => exact finds_unexpected rfl rest

theorem endPath_finds {depth n : Nat} {inPredicate inPredicate' descending : Bool}
    {before before' : Before} (text : List Char) :
    FailsOnly (Construct.segments depth inPredicate n descending before).Finds
      (endPath inPredicate' before' text) := by
  rw [endPath]
  split
  next => exact finds_failAt rfl rfl text
  next => exact failsOnly_ok _

end Leaves

/-! ### Parts that hold others

None of the calls fails, so a failure is found between them or behind them. -/

section Parts

/-- A call that a call without troubles makes has no failure at all. -/
theorem Call.Untroubled.failsOnly {caller callee : Call} {fine : Failure → Prop}
    (h : caller.Untroubled) (hcall : Calls caller callee) : FailsOnly fine callee.read := by
  obtain ⟨rest, hread⟩ := h callee hcall
  rw [hread]
  exact failsOnly_ok rest

theorem readSteps_finds {text : List Char} (h : Call.Untroubled ⟨.path, text⟩) :
    FailsOnly Construct.path.Finds (readSteps text) := by
  rw [readSteps.eq_def]
  split
  next => exact failsOnly_ok _
  next rest hskip =>
    split
    next => exact failsOnly_ok _
    next c after =>
      split
      next hc => exact failsOnly_of_map (h.failsOnly (.rooted hskip hc))
      next hc =>
        obtain ⟨hdot, hbracket⟩ := not_or.1 hc
        split
        next =>
          split
          next => exact failsOnly_ok _
          next => exact finds_unexpected rfl _
        next hblank =>
          rw [Bool.not_eq_true] at hblank
          exact failsOnly_of_map (h.failsOnly (.dollar hskip hdot hbracket hblank))
  next hnil hdollar =>
    obtain ⟨c, rest, hskip⟩ := List.exists_cons_of_ne_nil hnil
    rw [hskip]
    exact failsOnly_of_map (h.failsOnly (.unrooted hskip fun hc => hdollar rest (hc ▸ hskip)))

theorem wholePath_finds {text : List Char} (h : Call.Untroubled ⟨.whole, text⟩) :
    FailsOnly Construct.whole.Finds (wholePath text) := by
  rw [wholePath]
  refine (failsOnly_of_map (h.failsOnly .segments)).bind fun read _ => ?_
  simp only
  split
  next => exact failsOnly_ok _
  next => exact finds_unexpected rfl _

section Nested

variable {depth n : Nat} {inPredicate descending : Bool} {before : Before} {text : List Char}

theorem segments_finds
    (h : Call.Untroubled ⟨.segments depth inPredicate n descending before, text⟩) :
    FailsOnly (Construct.segments depth inPredicate n descending before).Finds
      (segments (predicate depth) inPredicate n descending before text) := by
  cases n with
  | zero => exact endPath_finds text
  | succ n =>
      obtain ⟨name, left, rfl, hname, hleft⟩ := exists_name inPredicate text
      by_cases hbefore : before = .indexer → name = []
      · rw [segments_run hname hleft hbefore]
        refine FailsOnly.map ?_ _
        unfold segmentsAtMark
        split
        next rest =>
          refine (failsOnly_of_map (h.failsOnly (.bracket hname hbefore))).bind ?_
          rintro ⟨steps, left⟩ hindexer
          exact (failsOnly_of_map (h.failsOnly (.behindBracket hname hbefore hindexer))).map _
        next rest => exact failsOnly_of_map (h.failsOnly (.dots hname hbefore))
        next rest hrest =>
          refine failsOnly_of_map (h.failsOnly (.dot hname hbefore fun hhead => ?_))
          obtain ⟨more, rfl⟩ := List.head?_eq_some_iff.1 hhead
          exact hrest more rfl
        next => exact endPath_finds _
      · obtain ⟨rfl, hne⟩ := Classical.not_imp.1 hbefore
        obtain ⟨c, others, rfl⟩ := List.exists_cons_of_ne_nil hne
        rw [List.cons_append, segments_name_behind_indexer (hname c List.mem_cons_self)]
        exact finds_failAt rfl rfl _

theorem indexer_finds (h : Call.Untroubled ⟨.indexer depth descending, text⟩) :
    FailsOnly (Construct.indexer depth descending).Finds
      (indexer (predicate depth) descending text) := by
  by_cases hnil : Text.skipBlanks text = []
  · rw [indexer, hnil]
    exact finds_end rfl
  · obtain ⟨c, rest, hskip⟩ := List.exists_cons_of_ne_nil hnil
    by_cases hquote : c = '\''
    · subst hquote
      rw [indexer, hskip]
      exact (failsOnly_of_map (h.failsOnly (.names hskip))).map _
    · by_cases hquery : c = '?'
      · subst hquery
        rw [indexer, hskip]
        exact (failsOnly_of_map (h.failsOnly (.filter hskip))).map _
      · rw [indexer_other hskip hquote hquery]
        exact (failsOnly_of_map (h.failsOnly (.array hskip hquote hquery))).map _

theorem quotedNames_finds (h : Call.Untroubled ⟨.names n, text⟩) (hn : text.length ≤ n) :
    FailsOnly (Construct.names n).Finds (quotedNames n text) := by
  cases n with
  | zero =>
      obtain rfl := List.eq_nil_of_length_eq_zero (Nat.le_zero.1 hn)
      exact finds_end rfl
  | succ n =>
      cases text with
      | nil => exact finds_end rfl
      | cons c rest =>
        rw [quotedNames]
        split
        next hc =>
          subst hc
          refine (failsOnly_of_map (h.failsOnly .name)).bind ?_
          rintro ⟨name, left⟩ hname
          simp only
          split
          next => exact finds_end rfl
          next => exact failsOnly_ok _
          next more hskip =>
            refine (failsOnly_of_map (h.failsOnly (.nextName hname hskip))).bind ?_
            exact fun _ _ => failsOnly_ok _
          next => exact finds_unexpected rfl _
        next => exact finds_unexpected rfl _

theorem filterIndexer_finds (h : Call.Untroubled ⟨.filter depth descending, text⟩) :
    FailsOnly (Construct.filter depth descending).Finds
      (filterIndexer (predicate depth) descending text) := by
  rw [filterIndexer.eq_def]
  split
  next => exact finds_end rfl
  next rest =>
    refine (failsOnly_of_map (h.failsOnly .predicate)).bind ?_
    rintro ⟨condition, left⟩ _
    refine (closeParenthesis_finds rfl (fun _ => rfl) left).bind fun behind _ => ?_
    split
    next => exact finds_end rfl
    next => exact failsOnly_ok _
    next => exact finds_unexpected rfl _
  next => exact finds_unexpected rfl _

theorem predicate_finds (h : Call.Untroubled ⟨.predicate n, text⟩) (hn : text.length ≤ n) :
    FailsOnly (Construct.predicate n).Finds (predicate n text) := by
  cases n with
  | zero =>
      obtain rfl := List.eq_nil_of_length_eq_zero (Nat.le_zero.1 hn)
      exact finds_end rfl
  | succ depth => exact (failsOnly_of_map (h.failsOnly .disjunction)).map _

/-- The reader of what a connective joins is called on the text of the conditions. -/
theorem itemReader_failsOnly {connective : Connective} {fine : Failure → Prop}
    (h : Call.Untroubled ⟨.conditions connective depth (n + 1), text⟩) :
    FailsOnly fine (itemReader (predicate depth) connective text) := by
  cases connective with
  | and => exact failsOnly_of_map (h.failsOnly .term)
  | or => exact (failsOnly_of_map (h.failsOnly .conjunction)).map _

theorem joined_finds {connective : Connective}
    (h : Call.Untroubled ⟨.conditions connective depth n, text⟩) (hn : text.length ≤ n) :
    FailsOnly (Construct.conditions connective depth n).Finds
      (joined (itemReader (predicate depth) connective) (markOf connective) n text) := by
  cases n with
  | zero =>
      obtain rfl := List.eq_nil_of_length_eq_zero (Nat.le_zero.1 hn)
      exact finds_end rfl
  | succ n =>
      rw [joined]
      refine (itemReader_failsOnly h).bind ?_
      rintro ⟨condition, rest⟩ hitem
      simp only
      split
      next => exact failsOnly_ok _
      next c after =>
        split
        next hc =>
          split
          next => exact finds_unexpected rfl _
          next d more =>
            split
            next hd =>
              subst hc hd
              refine (failsOnly_of_map (h.failsOnly (.nextCondition hitem))).bind ?_
              exact fun _ _ => failsOnly_ok _
            next => exact finds_unexpected rfl _
        next => exact failsOnly_ok _

theorem term_finds (h : Call.Untroubled ⟨.term depth, text⟩) :
    FailsOnly (Construct.term depth).Finds (term (predicate depth) text) := by
  by_cases hopen : (Text.skipBlanks text).head? = some '('
  · obtain ⟨rest, hskip⟩ := List.head?_eq_some_iff.1 hopen
    rw [term, hskip]
    refine (failsOnly_of_map (h.failsOnly (.group hskip))).bind fun read _ => ?_
    refine (closeParenthesis_finds rfl (fun _ => rfl) read.2).bind fun behind _ => ?_
    exact (skipInside_finds rfl behind).bind fun _ _ => failsOnly_ok _
  · rw [term_comparison hopen]
    refine (failsOnly_of_map (h.failsOnly (.left hopen))).bind ?_
    rintro ⟨left, rest⟩ hleft
    simp only
    split
    next => exact failsOnly_ok _
    next hends =>
      rw [Bool.not_eq_true] at hends
      refine (failsOnly_of_map (h.failsOnly (.operator hopen hleft hends))).bind ?_
      rintro ⟨sign, behind⟩ hsign
      refine (failsOnly_of_map (h.failsOnly (.right hopen hleft hends hsign))).bind ?_
      exact fun _ _ => failsOnly_ok _

theorem operand_finds (h : Call.Untroubled ⟨.operand depth, text⟩) :
    FailsOnly (Construct.operand depth).Finds (operand (predicate depth) text) := by
  rw [operand]
  refine FailsOnly.bind ?_ fun read _ =>
    (skipInside_finds rfl read.2).bind fun _ _ => failsOnly_ok _
  by_cases hnil : Text.skipBlanks text = []
  · rw [hnil]
    exact finds_end rfl
  · obtain ⟨c, rest, hskip⟩ := List.exists_cons_of_ne_nil hnil
    rw [hskip, bareOperand]
    split
    next hc => exact (failsOnly_of_map (h.failsOnly (.operandPath hskip (.inl hc)))).map _
    next =>
    split
    next hc => exact (failsOnly_of_map (h.failsOnly (.operandPath hskip (.inr hc)))).map _
    next =>
    split
    next hc => exact (failsOnly_of_map (h.failsOnly (.string (hc ▸ hskip)))).map _
    next =>
    split
    next hc => exact (failsOnly_of_map (h.failsOnly (.regex (hc ▸ hskip)))).map _
    next =>
    split
    next hc => exact (failsOnly_of_map (h.failsOnly (.number hskip hc))).map _
    next =>
    split
    next => exact readWord_finds _ _ _
    next =>
    split
    next => exact readWord_finds _ _ _
    next =>
    split
    next => exact readWord_finds _ _ _
    next => exact finds_unexpected rfl _

end Nested

end Parts

/-! ### Raised failures -/

/-- A failure is raised with a fault of the construct's own, and an open part at the end of the
text.  An operator alone finds a predicate open in front of a single byte. -/
theorem Call.Raises.finds {call : Call} {failure : Failure} (h : call.Raises failure)
    (hsized : call.Sized) (hoperator : call.construct ≠ .operator) :
    call.construct.Finds failure := by
  obtain ⟨hread, huntroubled⟩ := h
  obtain ⟨construct, text⟩ := call
  cases construct with
  | path => exact readSteps_finds huntroubled failure (map_eq_error_iff.1 hread)
  | whole => exact wholePath_finds huntroubled failure (map_eq_error_iff.1 hread)
  | segments depth inPredicate rounds descending before =>
      exact segments_finds huntroubled failure (map_eq_error_iff.1 hread)
  | indexer depth descending => exact indexer_finds huntroubled failure (map_eq_error_iff.1 hread)
  | array rounds => exact arrayIndexer_finds hsized failure (map_eq_error_iff.1 hread)
  | names rounds => exact quotedNames_finds huntroubled hsized failure (map_eq_error_iff.1 hread)
  | name => exact quoted_finds rfl (fun _ => rfl) text failure (map_eq_error_iff.1 hread)
  | filter depth descending =>
      exact filterIndexer_finds huntroubled failure (map_eq_error_iff.1 hread)
  | predicate depth => exact predicate_finds huntroubled hsized failure (map_eq_error_iff.1 hread)
  | conditions connective depth rounds =>
      exact joined_finds huntroubled hsized.2 failure (map_eq_error_iff.1 hread)
  | term depth => exact term_finds huntroubled failure (map_eq_error_iff.1 hread)
  | operand depth => exact operand_finds huntroubled failure (map_eq_error_iff.1 hread)
  | string => exact quoted_finds rfl (fun _ => rfl) text failure (map_eq_error_iff.1 hread)
  | number => exact readNumber_finds text failure (map_eq_error_iff.1 hread)
  | regex => exact readRegex_finds text failure (map_eq_error_iff.1 hread)
  | operator => exact absurd rfl hoperator

/-- An operator is refused where it begins; a predicate is open there where one byte is left, or
none. -/
theorem readOperator_eq_error {text : List Char} {failure : Failure}
    (h : readOperator text = .error failure) :
    failure.rest = text ∧ Construct.operator.owns failure.fault = true ∧
      (failure.fault.isOpen = true →
        failure.fault = .openPredicate ∧ (text = [] ∨ ∃ c, c.utf8Size = 1 ∧ text = [c])) := by
  rw [readOperator.eq_def] at h
  split at h
  next =>
    cases h
    exact ⟨rfl, rfl, fun _ => ⟨rfl, .inl rfl⟩⟩
  next rest =>
    cases h
    exact ⟨rfl, rfl, fun hopen => absurd hopen Bool.false_ne_true⟩
  next c rest _ =>
    split at h
    next hlast =>
      cases h
      rw [Bool.and_eq_true, List.isEmpty_iff, beq_iff_eq] at hlast
      obtain ⟨rfl, hbyte⟩ := hlast
      exact ⟨rfl, rfl, fun _ => ⟨rfl, .inr ⟨c, hbyte, rfl⟩⟩⟩
    next =>
      split at h
      next => cases h
      next =>
        cases h
        exact ⟨rfl, rfl, fun hopen => absurd hopen Bool.false_ne_true⟩

/-- A call that raises a failure has its fault for its own. -/
theorem Call.Raises.owns {call : Call} {failure : Failure} (h : call.Raises failure)
    (hsized : call.Sized) : call.construct.owns failure.fault = true := by
  obtain ⟨construct, text⟩ := call
  by_cases hoperator : construct = .operator
  · subst hoperator
    exact (readOperator_eq_error (map_eq_error_iff.1 h.1)).2.1
  · exact (h.finds hsized hoperator).owned

/-! ## Path texts -/

section PathTexts

variable {text : String}

/-- A path text is refused as a call that it leads to is. -/
theorem parse_eq_error_of_reached {call : Call} {failure : Failure}
    (hreached : Relation.ReflTransGen Calls ⟨.path, text.toList⟩ call)
    (hfails : call.read = .error failure) :
    parse text = .error (failure.locate text.toList) := by
  rw [parse_eq, map_eq_error_iff.1 (fails_of_reached hreached hfails)]

/-- A path text that is refused leads to a call that raises its fault. -/
theorem exists_raises_of_parse {error : ParseError} (h : parse text = .error error) :
    ∃ call failure, Relation.ReflTransGen Calls ⟨.path, text.toList⟩ call ∧
      call.Raises failure ∧ error = failure.locate text.toList := by
  rw [parse_eq] at h
  cases hread : readSteps text.toList with
  | ok steps =>
      rw [hread] at h
      cases h
  | error failure =>
      rw [hread] at h
      cases h
      have hfails : Call.read ⟨.path, text.toList⟩ = .error failure := map_eq_error_iff.2 hread
      obtain ⟨call, hreached, hraises⟩ := exists_raises hfails
      exact ⟨call, failure, hreached, hraises, rfl⟩

end PathTexts

end Path

end PathQuery
